import Softnet.Control.Responses
import Softnet.Manager.ShutdownProgress

/-!
# What is reported can be sent back

Two things in the responses of `lib/control.rs` are there to be used in later requests: the rules
of a policy and the identities of VMs.  A reported policy is accepted as the policy that it was,
as long as it is no longer than a request may be.  A reported identity is that of the VM at its
position in the request, for as long as the manager has it.
-/

namespace Softnet

open Json
open Transition

/-- A line whose document asks for this method with these parameters. -/
def Asks (control : ControlCrates) (frame : Frame) (id : RpcId) (method : String)
    (params : Value) : Prop :=
  ∃ line doc, frame.line = .ok line ∧ control.fromStr line = some doc ∧
    IsEnvelope doc id method (some params)

section Policies

variable {control : ControlCrates}
variable {frame : Frame}
variable {id : RpcId}
variable {method : String}
variable {params : Value}

theorem Asks.parse
    {parsed : Parsed}
    (h : Asks control frame id method params)
    (accepted : Accepted control method params frame.fds parsed) :
    Control.parse control frame = .done (id, parsed) := by
  obtain ⟨line, doc, framed, read, enveloped⟩ := h
  exact IsRequest.parse ⟨line, doc, method, some params, framed, read, enveloped, accepted⟩

/-- A policy with too many rules is refused, whatever they are. -/
theorem Asks.parse_of_too_many
    {asked : SetParams} {vmId : Option Uuid}
    (h : Asks control frame id "softnet.policy.set" params)
    (spelled : asked.IsSpelled params)
    (target : IsTargetVm control asked.vmId vmId)
    (many : maxRules < asked.allow.length + asked.block.length) :
    Control.parse control frame =
      .failed ⟨id, .error
        ⟨-32602, "allow and block may contain at most 4096 rules combined", none⟩⟩ := by
  obtain ⟨line, doc, framed, read, enveloped⟩ := h
  have hrequest : Control.parseRequest control line =
      .ok ⟨id, "softnet.policy.set", (some params).bind nonNull, line⟩ :=
    Control.parseRequest_eq_ok_iff.mpr ⟨doc, some params, read, enveloped, rfl, rfl⟩
  have hparams : RpcRequest.parseParams control
      ⟨id, "softnet.policy.set", (some params).bind nonNull, line⟩ SetParams.ofJson =
        pure asked := by
    refine RpcRequest.parseParams_eq_done_iff.mpr ?_
    rw [getD_bind_nonNull]
    exact SetParams.ofJson_eq_some_iff.mpr spelled
  have htarget : Control.parseVmId control asked.vmId = pure vmId :=
    Control.parseVmId_eq_done_iff.mpr target
  have hpolicy : parsePolicy control.reader asked.allow asked.block =
      .failed ⟨-32602, "allow and block may contain at most 4096 rules combined", none⟩ := by
    rw [parsePolicy, if_pos many]
    rfl
  rw [Control.parse_of_request framed hrequest, Control.parseMethod, if_neg (by simp),
    if_neg (by simp), if_pos rfl, hparams, pure_bind, htarget, pure_bind, hpolicy]
  rfl

/--
A policy goes around.  Whatever a proxy went through, take the rules out of the response that
reports its policy and send them back as the parameters of a request, for any VM and with the
members in any order.  If there are at most 4096 of them, then the request is accepted, and the
proxy is not changed by it.  If there are more, which only the command line lets in, then the
request is refused.  The `ipnet` crate is trusted to read prefixes as it prints them.
-/
theorem reported_policy_goes_around
    (crates : Crates)
    (texts : Texts)
    (control : ControlCrates)
    (nets : NetsRoundTrip crates control.reader)
    (history : List (Step Clocked Event))
    (s : Clocked)
    (reached : ReachesRead crates control.reader history s)
    (reported : List (String × Value))
    (reports :
      Reports crates texts (.ok (.policy s.proxy.policyGet)) ("result", .object reported))
    (allow block : Value)
    (allows : ("allow", allow) ∈ reported)
    (blocks : ("block", block) ∈ reported)
    (target : Option String)
    (vmId : Option Uuid)
    (targets : IsTargetVm control target vmId)
    (members : List (String × Value))
    (spelled : members.Perm
      (given [("vmId", target.map .string), ("allow", some allow), ("block", some block)]))
    (frame : Frame)
    (id : RpcId)
    (asks : Asks control frame id "softnet.policy.set" (.object members)) :
    (s.proxy.allow.length + s.proxy.block.length ≤ 4096 →
      Control.parse control frame =
        .done (id, ⟨.policy vmId (.policySet s.proxy.allow s.proxy.block), []⟩) ∧
      ∀ order now,
        (s.proxy.policySet crates order s.proxy.allow s.proxy.block now).1 = s.proxy) ∧
    (4096 < s.proxy.allow.length + s.proxy.block.length →
      Control.parse control frame =
        .failed ⟨id, .error
          ⟨-32602, "allow and block may contain at most 4096 rules combined", none⟩⟩) := by
  have hnormal := reached.policyNormal nets
  cases reports with
  | policy listed =>
      have hallow : allow = .array ((s.proxy.allow.map (Rule.text crates)).map .string) := by
        simpa [Function.comp_def, Proxy.policyGet] using listed.mem_iff.mp allows
      have hblock : block = .array ((s.proxy.block.map (Rule.text crates)).map .string) := by
        simpa [Function.comp_def, Proxy.policyGet] using listed.mem_iff.mp blocks
      subst hallow hblock
      have hspelled : SetParams.IsSpelled
          ⟨target, s.proxy.allow.map (Rule.text crates), s.proxy.block.map (Rule.text crates)⟩
          (.object members) := by
        refine ⟨target.map .string, .object spelled, ?_⟩
        cases target with
        | none => exact .omitted
        | some text => exact .text text
      refine ⟨fun few => ⟨?_, fun order now => ?_⟩, fun many => ?_⟩
      · have hparsed := parsePolicy_eq_done_iff.mp
          (nets.parsePolicy_text few hnormal.allowSupported hnormal.blockSupported)
        exact asks.parse
          (.policySet rfl hspelled targets hparsed.1 hparsed.2.1 hparsed.2.2)
      · exact Proxy.policySet_of_same hnormal.allowNormal.symm hnormal.blockNormal.symm
      · exact asks.parse_of_too_many hspelled targets (by simpa [maxRules] using many)

/-- The rules of a policy as they were reported. -/
def resubmitText : String :=
  "\x7b\"jsonrpc\":\"2.0\",\"id\":3,\"method\":\"softnet.policy.set\",\"params\":" ++
    "\x7b\"block\":[],\"allow\":[\"out @host\"]\x7d\x7d"

def resubmitMembers : List (String × Value) :=
  [("block", .array []), ("allow", .array [.string "out @host"])]

def resubmitAsked : Value :=
  .object [("jsonrpc", .string "2.0"), ("id", .number (.natural 3)),
    ("method", .string "softnet.policy.set"), ("params", .object resubmitMembers)]

/-- The policy of a proxy that tracks a flow goes around, and the flow stays. -/
theorem reported_policy_goes_around_tracked :
    let s : Clocked := ⟨decimalVm.handle decimalCrates (.packet .fromVm 0 vmDatagram 5), 5⟩
    s.proxy.tracked (.udp 0x0a000001 40000 0x0a000002 1234) = some ⟨.fromVm, 5 + udpTimeout⟩ ∧
    Control.parse (tableControl [(resubmitText, resubmitAsked)]) ⟨.ok resubmitText, []⟩ =
      .done (.number 3, ⟨.policy none (.policySet s.proxy.allow s.proxy.block), []⟩) ∧
    ∀ order now,
      (s.proxy.policySet decimalCrates order s.proxy.allow s.proxy.block now).1 = s.proxy := by
  intro s
  have reached : ReachesRead decimalCrates decimalReader
      [⟨⟨decimalVm, 0⟩, .packet .fromVm 0 vmDatagram 5, s⟩] s :=
    ⟨decimalVm, 0, decimalVm_freshRead, Transition.Run.nil.snoc (.handle (Nat.zero_le _)),
      by simp [Event.RulesRead]⟩
  have asks : Asks (tableControl [(resubmitText, resubmitAsked)]) ⟨.ok resubmitText, []⟩
      (.number 3) "softnet.policy.set" (.object resubmitMembers) :=
    ⟨resubmitText, resubmitAsked, rfl, by simp [tableControl], ⟨_, rfl, .refl _⟩, by simp⟩
  refine ⟨by decide, (reported_policy_goes_around decimalCrates hexTexts
    (tableControl [(resubmitText, resubmitAsked)]) decimalNets _ s reached _
    (.policy (.refl _)) _ _ List.mem_cons_self (List.mem_cons_of_mem _ List.mem_cons_self) none none
    rfl resubmitMembers ?_ _ _ asks).1 (by decide)⟩
  exact .swap _ _ _

end Policies

/-! ## Names -/

section Names

variable {crates : Crates}
variable {texts : Texts}
variable {control : ControlCrates}
variable {chunks : List Chunk}
variable {history : List (Step Connection ConnectionEvent)}
variable {s : Connection}

/-- A response has one id and one outcome. -/
theorem IsResponse.unique
    {doc : Value} {id id' : RpcId} {outcome outcome' : String × Value}
    (h : IsResponse doc id outcome)
    (h' : IsResponse doc id' outcome')
    (apart : outcome.1 ≠ "id") :
    id = id' ∧ outcome = outcome' := by
  obtain ⟨members, rfl, hmembers⟩ := h
  obtain ⟨_, hdoc, hmembers'⟩ := h'
  cases hdoc
  have hsame := (List.perm_cons _).mp (hmembers'.symm.trans hmembers)
  have hmem : ("id", id'.toJson) ∈ [("id", id.toJson), outcome] :=
    hsame.mem_iff.mp List.mem_cons_self
  rcases List.mem_cons.mp hmem with hid | hother
  · obtain rfl : id' = id := by
      simpa using congrArg (fun member => RpcId.ofJson member.2) hid
    have hrest := List.perm_singleton.mp ((List.perm_cons _).mp hsame)
    exact ⟨rfl, (List.cons.inj hrest).1.symm⟩
  · exact absurd (congrArg Prod.fst (List.mem_singleton.mp hother)).symm apart

/-- A list of VMs reports an initialization. -/
theorem Reports.vms
    {result : Except CallError Reply} {elements : List Value}
    (h : Reports crates texts result ("result", .object [("vms", .array elements)])) :
    ∃ reply, result = .ok (.initialized reply) ∧
      List.Forall₂ (InitializedVm.IsNamed texts) reply elements := by
  generalize houtcome : ("result", Value.object [("vms", .array elements)]) = outcome at h
  cases h with
  | initialized listed =>
      cases houtcome
      exact ⟨_, rfl, listed⟩
  | policy listed =>
      cases houtcome
      simpa using listed.length_eq
  | invalidParams | failed => simp at houtcome

/-- A list of VMs is the reply to an initialization. -/
theorem Exchange.IsProper.initialized
    {exchange : Exchange} {reply : List InitializedVm}
    (h : exchange.IsProper crates texts)
    (hresult : exchange.result = .ok (.initialized reply)) :
    ∃ (netType : NetType) (vms : List VmConfig) (b : Nat) (batch : Batch),
      exchange.request = .initializeVms netType vms ∧
      exchange.answer.post.service.world.batches[b]? = some batch ∧
      batch.Serves netType vms ∧
      batch.worker ≠ .unspawned ∧
      List.Forall₂ InitializedVm.Names batch.plan.vms reply := by
  have houtcome := h.outcome
  rw [hresult] at houtcome
  generalize exchange.request = request at houtcome
  cases houtcome with
  | initialized created present serves worker returned named =>
      exact ⟨_, _, _, _, rfl, present, serves, by simp [worker], named⟩

/-- The VM that an element of the response names. -/
theorem exists_configured_of_named
    {vms : List ConfiguredVm} {reply : List InitializedVm} {elements : List Value} {j : Nat}
    {members : List (String × Value)} {text : String}
    (names : List.Forall₂ InitializedVm.Names vms reply)
    (listed : List.Forall₂ (InitializedVm.IsNamed texts) reply elements)
    (element : elements[j]? = some (.object members))
    (named : ("vmId", .string text) ∈ members) :
    ∃ configured, vms[j]? = some configured ∧ text = texts.uuidText configured.vmId := by
  obtain ⟨hj, hget⟩ := List.getElem?_eq_some_iff.mp element
  have hreply : j < reply.length := listed.length_eq ▸ hj
  have hvms : j < vms.length := names.length_eq ▸ hreply
  obtain ⟨_, hmembers, hperm⟩ := listed.get hreply hj
  cases hget.symm.trans hmembers
  refine ⟨vms[j], List.getElem?_eq_getElem hvms, ?_⟩
  have htext : text = texts.uuidText reply[j].vmId := by
    simpa using hperm.mem_iff.mp named
  exact htext.trans (congrArg texts.uuidText (names.get hvms hreply).vmId)

/-- A batch that was set up in an exchange is there from then on. -/
theorem ConnectionRun.holds_of_exchange
    {past rest : List (Step Connection ConnectionEvent)} {exchange : Exchange} {b : Nat}
    {P : Batch → Prop}
    (run : ConnectionRun crates texts control chunks history s)
    (hcut : history = past ++ exchange.all ++ rest)
    (hkeep :
      ∀ batch milestone batch', BatchStep crates texts b batch milestone batch' →
        P batch → P batch')
    (h : exchange.answer.post.service.world.Holds b P) :
    s.service.world.Holds b P := by
  have hall : history = (past ++ (exchange.before ++ exchange.call :: exchange.steps)) ++
      exchange.answer :: rest := by
    rw [hcut]
    simp [Exchange.all]
  obtain ⟨hbefore, hanswer, hrest⟩ := run.split hall
  have hs : exchange.answer.post.service.Coherent :=
    (ConnectionRun.serviceRun (hbefore.snoc hanswer)).coherent
  exact Run.holds hkeep (run_serviceSteps hrest) hs h

/-- The policy of a VM is asked for by its id. -/
theorem Asks.parse_policyGet
    {frame : Frame} {id : RpcId} {text : String} {vmId : Uuid}
    (h : Asks control frame id "softnet.policy.get" (.object [("vmId", .string text)]))
    (read : control.uuidFromStr text = some vmId) :
    Control.parse control frame = .done (id, ⟨.policy (some vmId) .policyGet, []⟩) := by
  have spelled : GetParams.IsSpelled ⟨some text⟩ (.object [("vmId", .string text)]) :=
    ⟨_, .object (.refl _), .text _⟩
  exact h.parse (.policyGet rfl spelled (congrArg some read))

/-- The policy of a VM is set by its id. -/
theorem Asks.parse_policySet
    {frame : Frame} {id : RpcId} {text : String} {vmId : Uuid} {allow block : List String}
    {rules : List Rule × List Rule}
    (h : Asks control frame id "softnet.policy.set"
      (.object [("vmId", .string text), ("allow", .array (allow.map .string)),
        ("block", .array (block.map .string))]))
    (read : control.uuidFromStr text = some vmId)
    (parsed : parsePolicy control.reader allow block = .done rules) :
    Control.parse control frame =
      .done (id, ⟨.policy (some vmId) (.policySet rules.1 rules.2), []⟩) := by
  obtain ⟨hcount, hallow, hblock⟩ := parsePolicy_eq_done_iff.mp parsed
  have spelled : SetParams.IsSpelled ⟨some text, allow, block⟩
      (.object [("vmId", .string text), ("allow", .array (allow.map .string)),
        ("block", .array (block.map .string))]) :=
    ⟨_, .object (.refl _), .text _⟩
  exact h.parse (.policySet rfl spelled (congrArg some read) hcount hallow hblock)

/--
A VM that was reported can be named.  Take the id of any VM out of any response that was written,
at any time after: the request was an initialization, and the id is that of the VM at the same
position of it.  A request for the policy of that id, and one that sets it, is accepted as one for
this VM; while the manager runs, it finds this VM for it until it has reaped it, and never another
one.  That ids are not issued twice, and that those which were issued are read as they are
written, is what the `uuid` crate is trusted for.
-/
theorem reported_vms_can_be_named
    (crates : Crates)
    (texts : Texts)
    (control : ControlCrates)
    (chunks : List Chunk)
    (history : List (Step Connection ConnectionEvent))
    (s : Connection)
    (run : ConnectionRun crates texts control chunks history s)
    (distinct : s.service.world.IssuesDistinct)
    (uuids : ∀ vm vmId, s.service.world.Issues vm vmId →
      control.uuidFromStr (texts.uuidText vmId) = some vmId)
    (k : Nat)
    (doc : Value)
    (written : (produced ControlEvent.responses (sessionSteps history))[k]? = some doc)
    (id : RpcId)
    (elements : List Value)
    (responded : IsResponse doc id ("result", .object [("vms", .array elements)]))
    (j : Nat)
    (members : List (String × Value))
    (element : elements[j]? = some (.object members))
    (text : String)
    (named : ("vmId", .string text) ∈ members) :
    ∃ frame fds netType vms config b batch configured,
      ControlTransport.call k ⟨chunks, []⟩ = some frame ∧
      IsRequest control frame id ⟨.initializeVms netType vms, fds⟩ ∧
      vms[j]? = some config ∧
      s.service.world.batches[b]? = some batch ∧
      batch.Serves netType vms ∧
      batch.plan.vms[j]? = some configured ∧
      configured.config = config ∧
      (∀ frame id,
        Asks control frame id "softnet.policy.get" (.object [("vmId", .string text)]) →
        Control.parse control frame =
          .done (id, ⟨.policy (some configured.vmId) .policyGet, []⟩)) ∧
      (∀ frame id allow block rules,
        Asks control frame id "softnet.policy.set"
          (.object [("vmId", .string text), ("allow", .array (allow.map .string)),
            ("block", .array (block.map .string))]) →
        parsePolicy control.reader allow block = .done rules →
        Control.parse control frame =
          .done (id, ⟨.policy (some configured.vmId) (.policySet rules.1 rules.2), []⟩)) ∧
      (s.service.activity.isRunning = true → ∀ vm,
        s.service.world.manager.proxyHandle texts (some configured.vmId) = .ok vm ↔
          vm = ⟨b, j⟩ ∧ ¬ HasReaped (serviceSteps history) configured.vmId) := by
  obtain ⟨frame, calls, replies, hframe, answered, exchanged⟩ := run.exists_answered written
  cases answered with
  | rejected _ _ failed =>
      have habsurd := (responded.unique failed (by simp)).2
      simp at habsurd
  | @served _ parsed _ _ _ request reported succeeded =>
      obtain ⟨rfl, rfl⟩ := responded.unique succeeded (by simp)
      obtain ⟨past, exchange, rest, hcut, hproper, hserves, rfl⟩ :=
        exchanged _ _ _ rfl rfl request
      obtain ⟨reply, hresult, hlisted⟩ := reported.vms
      obtain ⟨netType, vms, b, batch, hrequest, present, serves, spawned, hnamed⟩ :=
        hproper.initialized hresult
      obtain ⟨configured, hconfigured, rfl⟩ :=
        exists_configured_of_named hnamed hlisted element named
      -- The batch keeps its plan, and its VMs have been spawned
      obtain ⟨batch', present', hplan, hspawned⟩ := run.holds_of_exchange hcut
        (P := fun batch' => batch'.plan = batch.plan ∧ batch'.worker ≠ .unspawned)
        (fun _ _ _ step hbefore => ⟨step.plan_eq.trans hbefore.1, step.spawned hbefore.2⟩)
        ⟨batch, present, rfl, spawned⟩
      rw [← hplan] at hconfigured
      have hissues : s.service.world.Issues ⟨b, j⟩ configured.vmId :=
        ⟨batch', present', configured, hconfigured, rfl⟩
      have hread := uuids _ _ hissues
      have htasks := (run.serviceRun.fed.batches b batch' present').2.complete hspawned
      have hspawnedAs : s.service.world.SpawnedAs ⟨b, j⟩ configured.vmId :=
        ⟨batch', present', htasks ▸ (List.getElem?_eq_some_iff.mp hconfigured).1, configured,
          hconfigured, rfl⟩
      obtain ⟨sent, fds⟩ := parsed
      obtain rfl : sent = .initializeVms netType vms := hserves.request.symm.trans hrequest
      refine ⟨frame, fds, netType, vms, configured.config, b, batch', configured, hframe, request,
        ?_, present', ⟨hplan ▸ serves.netType, hplan ▸ serves.configs⟩, hconfigured, rfl,
        fun _ _ asks => asks.parse_policyGet hread,
        fun _ _ _ _ _ asks parsed => asks.parse_policySet hread parsed, fun hrunning vm => ?_⟩
      · rw [← serves.configs, List.getElem?_map, ← hplan, hconfigured]
        rfl
      · exact (run.serviceRun.routed distinct).proxyHandle_eq_ok_iff (.inl hrunning) distinct
          hspawnedAs

/-- The second VM of a request is asked for its policy by the id that was reported. -/
theorem reported_vms_can_be_named_second :
    ∃ (history : List (Step Connection ConnectionEvent)) (s : Connection) (b : Nat) (vmId : Uuid),
      ConnectionRun decimalCrates hexTexts pairControl pairLines history s ∧
      Control.parse pairControl ⟨.ok secondText, []⟩ =
        .done (.number 2, ⟨.policy (some vmId) .policyGet, []⟩) ∧
      ∀ vm, s.service.world.manager.proxyHandle hexTexts (some vmId) = .ok vm ↔
        vm = ⟨b, 1⟩ ∧ ¬ HasReaped (serviceSteps history) vmId := by
  obtain ⟨history, s, run, _, _, hresponses, sides, hservice⟩ :=
    exists_pair_connection decimalCrates hexTexts
  have hplans : s.service.world.batches.map Batch.plan = [pairPlan] := by
    rw [hservice]
    rfl
  have asks : Asks pairControl ⟨.ok secondText, []⟩ (.number 2) "softnet.policy.get"
      (.object secondMembers) :=
    ⟨secondText, secondAsked, rfl, fromStr_secondText, ⟨_, rfl, .refl _⟩, nofun⟩
  have htext : hexTexts.uuidText 1 = "00000000-0000-0000-0000-000000000001" := by decide +kernel
  obtain ⟨_, _, _, _, _, b, _, configured, _, _, _, _, _, _, _, hget, _, hfound⟩ :=
    reported_vms_can_be_named _ _ _ _ _ _ run (World.issuesDistinct_pair hplans) (by
      intro vm vmId hissues
      rcases World.issues_pair_cases hplans hissues with ⟨_, rfl⟩ | ⟨_, rfl⟩ <;> decide +kernel)
      0 _ (by rw [hresponses]; rfl) (.number 1) _ ⟨_, rfl, .refl _⟩ 1 _ rfl
      "00000000-0000-0000-0000-000000000001" (by rw [← htext]; exact List.mem_cons_self)
  exact ⟨history, s, b, configured.vmId, run, hget _ _ asks, hfound (by rw [hservice]; rfl)⟩

end Names

end Softnet
