import Softnet.Proxy.PolicyUpdates

/-!
# Policy requests on the wire

`softnet.policy.get` and `softnet.policy.set` of `lib/control.rs` carry rules as texts.
The rules of a proxy were all read from texts, on the command line or by `parsePolicy`,
so what a proxy reports is accepted again, and as the policy it has.
-/

namespace Softnet

/-- An error object of `jsonrpsee`. -/
structure RpcError where
  code : Int
  message : String
  data : Option String
deriving DecidableEq

/-- `rpc_error`: an error without data. -/
def rpcError (code : Int) (message : String) : RpcError :=
  ⟨code, message, none⟩

/-- `INVALID_PARAMS_CODE` of `jsonrpsee`. -/
def invalidParamsCode : Int := -32602

/-- `MAX_RULES`. -/
def maxRules : Nat := 4096

def parsePolicy
    (reader : RuleReader)
    (allow block : List String) :
    Attempt RpcError (List Rule × List Rule) :=
  if maxRules < allow.length + block.length then
    .failed (rpcError invalidParamsCode
      ("allow and block may contain at most " ++ toString maxRules ++ " rules combined"))
  else
    let parse := fun rules : List String =>
      rules.mapM fun rule =>
        (Rule.fromStr reader rule).mapError fun _ =>
          rpcError invalidParamsCode ("invalid rule " ++ reader.debugText rule)
    return (← parse allow, ← parse block)

/-- The wire form of a policy. -/
structure PolicyReply where
  allow : List String
  block : List String
  ruleCount : Nat

/-- The reply that `Control::run` makes of a policy. -/
def Policy.reply (crates : Crates) (policy : Policy) : PolicyReply :=
  ⟨policy.allow.map (Rule.text crates), policy.block.map (Rule.text crates), policy.ruleCount⟩

section Reading

variable {crates : Crates}
variable {reader : RuleReader}

theorem NetsRoundTrip.mapM_text
    (nets : NetsRoundTrip crates reader)
    (error : String → ErrorChain → RpcError)
    {rules : List Rule}
    (h : ∀ rule ∈ rules, rule.Supported) :
    ((rules.map (Rule.text crates)).mapM fun rule =>
        (Rule.fromStr reader rule).mapError (error rule)) =
      .done rules := by
  induction rules with
  | nil =>
      rfl
  | cons rule rules ih =>
      have hrest := ih fun rule hrule => h rule (List.mem_cons_of_mem _ hrule)
      rw [List.map_cons, List.mapM_cons, nets.fromStr_text (h rule List.mem_cons_self), hrest]
      rfl

/-- Printed rules are accepted as the rules they were. -/
theorem NetsRoundTrip.parsePolicy_text
    (nets : NetsRoundTrip crates reader)
    {allow block : List Rule}
    (hcount : allow.length + block.length ≤ maxRules)
    (hallow : ∀ rule ∈ allow, rule.Supported)
    (hblock : ∀ rule ∈ block, rule.Supported) :
    parsePolicy reader (allow.map (Rule.text crates)) (block.map (Rule.text crates)) =
      .done (allow, block) := by
  have hsize :
      ¬ maxRules <
        (allow.map (Rule.text crates)).length + (block.map (Rule.text crates)).length := by
    simpa using hcount
  rw [parsePolicy, if_neg hsize]
  dsimp only
  rw [nets.mapM_text _ hallow, nets.mapM_text _ hblock]
  rfl

end Reading

/-! ## Policies that were read -/

/-- Every rule that the event brings was read from a text. -/
def Event.RulesRead (reader : RuleReader) : Event → Prop
  | .policySet _ allow block _ => ∀ rule ∈ allow ++ block, rule.Readable reader
  | _ => True

/-- The proxy is one that `Proxy::new` returns for rules that were read from texts. -/
def Proxy.FreshRead
    (crates : Crates)
    (reader : RuleReader)
    (p : Proxy)
    (start : Instant) :
    Prop :=
  ∃ order interface vmMacAddress vmIp network allow block dnsServer,
    (∀ rule ∈ allow ++ block, rule.Readable reader) ∧
    Proxy.new crates order interface vmMacAddress vmIp network allow block dnsServer
      start = .ok p

/-- The events so far and the state they lead to, where all rules were read from texts. -/
def ReachesRead
    (crates : Crates)
    (reader : RuleReader)
    (history : List (Transition.Step Clocked Event))
    (s : Clocked) :
    Prop :=
  ∃ p start, p.FreshRead crates reader start ∧
    Transition.Run (EventStep crates) ⟨p, start⟩ history s ∧
    ∀ t ∈ history, t.label.RulesRead reader

/-- The policy of a proxy is in normal form, and its rules can be read. -/
structure Proxy.PolicyNormal (crates : Crates) (p : Proxy) : Prop where
  allowSupported : ∀ rule ∈ p.allow, rule.Supported
  blockSupported : ∀ rule ∈ p.block, rule.Supported
  allowNormal : normalizeRules crates p.allow = p.allow
  blockNormal : normalizeRules crates p.block = p.block

section Normal

variable {crates : Crates}
variable {reader : RuleReader}
variable {p : Proxy}

theorem supported_normalizeRules
    {rules : List Rule}
    (h : ∀ rule ∈ rules, rule.Readable reader) :
    ∀ rule ∈ normalizeRules crates rules, rule.Supported := by
  intro rule hrule
  obtain ⟨rule, hmem, rfl⟩ := mem_normalizeRules.mp hrule
  exact (h rule hmem).supported.normalized

/-- Rules that were read make a normal policy. -/
theorem NetsRoundTrip.policyNormal
    (nets : NetsRoundTrip crates reader)
    {allow block : List Rule}
    (hread : ∀ rule ∈ allow ++ block, rule.Readable reader)
    (hallow : p.allow = normalizeRules crates allow)
    (hblock : p.block = normalizeRules crates block) :
    p.PolicyNormal crates := by
  have hreadAllow : ∀ rule ∈ allow, rule.Readable reader := fun rule hrule =>
    hread rule (List.mem_append_left _ hrule)
  have hreadBlock : ∀ rule ∈ block, rule.Readable reader := fun rule hrule =>
    hread rule (List.mem_append_right _ hrule)
  refine ⟨?_, ?_, ?_, ?_⟩
  · rw [hallow]
    exact supported_normalizeRules hreadAllow
  · rw [hblock]
    exact supported_normalizeRules hreadBlock
  · rw [hallow, nets.normalizeRules_normalizeRules fun r hr => (hreadAllow r hr).supported]
  · rw [hblock, nets.normalizeRules_normalizeRules fun r hr => (hreadBlock r hr).supported]

theorem Proxy.PolicyNormal.handle
    (nets : NetsRoundTrip crates reader)
    (h : p.PolicyNormal crates)
    {event : Event}
    (hread : event.RulesRead reader) :
    (p.handle crates event).PolicyNormal crates := by
  cases hset : event.isPolicySet with
  | false =>
      obtain ⟨flows, hframe⟩ := Proxy.handle_of_not_policySet crates p hset
      rw [hframe]
      exact ⟨h.allowSupported, h.blockSupported, h.allowNormal, h.blockNormal⟩
  | true =>
      cases event with
      | policySet order allow block now =>
          by_cases hsame :
              p.allow = normalizeRules crates allow ∧ p.block = normalizeRules crates block
          · rw [Proxy.handle, Proxy.policySet_of_same hsame.1 hsame.2]
            exact h
          · refine nets.policyNormal hread ?_ ?_ <;>
              rw [Proxy.handle, Proxy.policySet_of_changed hsame]
      | packet => cases hset
      | policyGet => cases hset

theorem ReachesRead.policyNormal
    {history : List (Transition.Step Clocked Event)} {s : Clocked}
    (nets : NetsRoundTrip crates reader)
    (h : ReachesRead crates reader history s) :
    s.proxy.PolicyNormal crates := by
  obtain ⟨p, start, hfresh, run, hread⟩ := h
  refine run.carry (I := fun s : Clocked => s.proxy.PolicyNormal crates) ?_ ?_
  · obtain ⟨order, interface, vmMacAddress, vmIp, network, allow, block, dnsServer, hrules,
      hnew⟩ := hfresh
    unfold Proxy.new at hnew
    dsimp only at hnew
    split at hnew
    · cases hnew
    · cases hnew
      exact nets.policyNormal hrules rfl rfl
  · rintro ⟨pre, event, post⟩ ht hstep hpre
    rw [hstep.proxy_eq]
    exact hpre.handle nets (hread _ ht)

end Normal

/--
Submitting what a proxy reports changes nothing: the texts of the reported rules are
accepted, the proxy keeps its rules and every tracked flow, and reports the same again.
-/
theorem resubmitted_policy_changes_nothing
    (crates : Crates)
    (reader : RuleReader)
    (nets : NetsRoundTrip crates reader)
    (history : List (Transition.Step Clocked Event))
    (s : Clocked)
    (hreached : ReachesRead crates reader history s)
    (hcount : s.proxy.allow.length + s.proxy.block.length ≤ maxRules)
    (order : HashOrder)
    (now : Instant) :
    let reported := s.proxy.policyGet.reply crates
    ∃ allow block,
      parsePolicy reader reported.allow reported.block = .done (allow, block) ∧
      (s.proxy.policySet crates order allow block now).1 = s.proxy ∧
      (s.proxy.policySet crates order allow block now).2.reply crates = reported := by
  have hnormal := hreached.policyNormal nets
  have hsame : (s.proxy.policySet crates order s.proxy.allow s.proxy.block now).1 = s.proxy :=
    Proxy.policySet_of_same hnormal.allowNormal.symm hnormal.blockNormal.symm
  have hreply : (s.proxy.policySet crates order s.proxy.allow s.proxy.block now).2 =
      s.proxy.policyGet :=
    congrArg Proxy.policyGet hsame
  exact ⟨s.proxy.allow, s.proxy.block,
    nets.parsePolicy_text hcount hnormal.allowSupported hnormal.blockSupported, hsame,
    congrArg (Policy.reply crates) hreply⟩

/-- The proxy of a VM whose rules are printed in decimal notation. -/
def decimalVm : Proxy :=
  let allow := normalizeRules decimalCrates [.stateful .outbound .host .unrestricted]
  let rules := Rules.new .insertion 0x0a000001 [] allow []
  { host := ⟨0x0a000002, 0x0a000001, 1514⟩
    vmMacAddress := 0x020000000002
    peerIps := []
    dnsServer := none
    rules := rules
    allow := allow
    block := []
    flows := Proxy.freshFlows rules 0 }

theorem decimalVm_freshRead : decimalVm.FreshRead decimalCrates decimalReader 0 := by
  refine ⟨.insertion, .ok 1514, 0x020000000002, 0x0a000002, ⟨0x0a000001, [0x0a000002]⟩,
    [.stateful .outbound .host .unrestricted], [], none, ?_, rfl⟩
  simp [decimalNets.readable_iff, Rule.Supported, Filter.Supported, Filter.unrestricted]

/-- A tracked datagram outlives a policy that is submitted again. -/
theorem resubmitted_policy_changes_nothing_tracked :
    let s : Clocked :=
      ⟨decimalVm.handle decimalCrates (.packet .fromVm 0 vmDatagram 5), 5⟩
    s.proxy.policyGet.reply decimalCrates = ⟨["out @host"], [], 1⟩ ∧
    s.proxy.tracked (.udp 0x0a000001 40000 0x0a000002 1234) = some ⟨.fromVm, 5 + udpTimeout⟩ ∧
    ∃ allow block,
      parsePolicy decimalReader ["out @host"] [] = .done (allow, block) ∧
      (s.proxy.policySet decimalCrates .insertion allow block 6).1 = s.proxy := by
  intro s
  have hreached : ReachesRead decimalCrates decimalReader
      [⟨⟨decimalVm, 0⟩, .packet .fromVm 0 vmDatagram 5, s⟩] s :=
    ⟨decimalVm, 0, decimalVm_freshRead, Transition.Run.nil.snoc (.handle (Nat.zero_le _)),
      by simp [Event.RulesRead]⟩
  obtain ⟨allow, block, hparse, hsame, _⟩ :=
    resubmitted_policy_changes_nothing decimalCrates decimalReader decimalNets _ s hreached
      (by decide) .insertion 6
  exact ⟨rfl, by decide, allow, block, hparse, hsame⟩

end Softnet
