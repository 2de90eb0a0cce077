import Softnet.Proxy.NormalForm
import Softnet.Proxy.Runs
import Softnet.Proxy.RulesPrecedence

/-!
# Policy updates

A policy request installs its rules in normal form, or finds them installed already and
does nothing.  Normalization keeps the meaning of a policy (`Rules.alike_normalizeRules`):
no packet can tell the installed rules from the submitted ones.  So the request has the
same effect either way, and the effect of a restart where the rules change.
-/

namespace Softnet

/-! ## Normalization keeps the meaning -/

section Meaning

variable {crates : Crates}
variable {mode : Mode}
variable {hostAddress : Ipv4Address}
variable {peerAddresses : List Ipv4Address}
variable {action : Action}
variable {allow block : List Rule}

@[simp] theorem Target.nets_normalized
    (target : Target) :
    target.normalized.nets hostAddress peerAddresses =
      target.nets hostAddress peerAddresses := by
  cases target <;> simp [Target.normalized, Target.nets]

@[simp] theorem Rule.expand_normalized
    (rule : Rule) :
    rule.normalized.expand mode hostAddress peerAddresses action =
      rule.expand mode hostAddress peerAddresses action := by
  cases rule <;> simp [Rule.normalized, Rule.expand]

@[simp] theorem Rule.isStateful_normalized
    (rule : Rule) :
    rule.normalized.isStateful = rule.isStateful := by
  cases rule <;> rfl

@[simp] theorem policyMode_normalizeRules :
    policyMode (normalizeRules crates allow) (normalizeRules crates block) =
      policyMode allow block := by
  have hany :
      (normalizeRules crates allow ++ normalizeRules crates block).any Rule.isStateful =
        (allow ++ block).any Rule.isStateful := by
    rw [Bool.eq_iff_iff]
    simp
  rw [policyMode, hany, policyMode]

/-- Truncation, sorting and deduplication keep the entries of a policy. -/
theorem mem_expandPolicy_normalizeRules
    (e : PolicyEntry) :
    e ∈ expandPolicy hostAddress peerAddresses
        (normalizeRules crates allow) (normalizeRules crates block) ↔
      e ∈ expandPolicy hostAddress peerAddresses allow block := by
  simp [expandPolicy]

/-- No packet can tell the two policies apart. -/
structure Rules.Alike (rules rules' : Rules) : Prop where
  mode : rules.mode = rules'.mode
  select : ∀ address direction protocol destinationPort,
    rules.select address direction protocol destinationPort =
      rules'.select address direction protocol destinationPort

variable {rules rules' : Rules}

theorem Rules.Alike.hasStateful
    (h : rules.Alike rules') :
    rules.hasStateful = rules'.hasStateful := by
  rw [Rules.hasStateful, Rules.hasStateful, h.mode]

theorem Rules.Alike.policyDecision
    (h : rules.Alike rules')
    (pkt : Ipv4Packet)
    (direction : Direction) :
    rules.policyDecision pkt direction = rules'.policyDecision pkt direction := by
  simp only [Rules.policyDecision, h.mode, h.select]

theorem Rules.Alike.isStateful
    (h : rules.Alike rules')
    (pkt : Ipv4Packet)
    (direction : Direction) :
    rules.isStateful pkt direction = rules'.isStateful pkt direction := by
  simp only [Rules.isStateful, h.mode, h.select]

theorem Rules.alike_normalizeRules
    (order order' : HashOrder) :
    (Rules.new order hostAddress peerAddresses
        (normalizeRules crates allow) (normalizeRules crates block)).Alike
      (Rules.new order' hostAddress peerAddresses allow block) where
  mode := policyMode_normalizeRules
  select _ _ _ _ := Rules.select_new_congr _ _ _ _ _ _ _ _ _ mem_expandPolicy_normalizeRules

/-- One directional rule makes a policy stateful. -/
theorem Rules.hasStateful_new
    (order : HashOrder) :
    (Rules.new order hostAddress peerAddresses allow block).hasStateful =
      (allow ++ block).any Rule.isStateful := by
  rw [Rules.hasStateful, Rules.new, policyMode]
  cases (allow ++ block).any Rule.isStateful <;> rfl

end Meaning

/-! ## What a request does -/

/-- Requests that may replace the policy. -/
def Event.isPolicySet : Event → Bool
  | .policySet _ _ _ _ => true
  | _ => false

namespace Proxy

section Request

variable {crates : Crates}
variable {p : Proxy}
variable {order : HashOrder}
variable {allow block : List Rule}
variable {now : Instant}

theorem policySet_of_same
    (hallow : p.allow = normalizeRules crates allow)
    (hblock : p.block = normalizeRules crates block) :
    (p.policySet crates order allow block now).1 = p := by
  simp [policySet, hallow, hblock]

theorem freshFlows_normalizeRules
    (hostAddress : Ipv4Address)
    (peerAddresses : List Ipv4Address) :
    freshFlows
        (Rules.new order hostAddress peerAddresses
          (normalizeRules crates allow) (normalizeRules crates block)) now =
      if (allow ++ block).any Rule.isStateful then some (FlowTable.new now) else none := by
  rw [freshFlows, (Rules.alike_normalizeRules order order).hasStateful, Rules.hasStateful_new]

theorem policySet_of_changed
    (hchanged :
      ¬ (p.allow = normalizeRules crates allow ∧ p.block = normalizeRules crates block)) :
    (p.policySet crates order allow block now).1 =
      { p with
        rules := Rules.new order p.host.gatewayIp p.peerIps
          (normalizeRules crates allow) (normalizeRules crates block)
        allow := normalizeRules crates allow
        block := normalizeRules crates block
        flows := if (allow ++ block).any Rule.isStateful then some (FlowTable.new now)
          else none } := by
  have hchanged' :
      p.allow ≠ normalizeRules crates allow ∨ p.block ≠ normalizeRules crates block :=
    not_and_or.mp hchanged
  simp only [policySet, if_pos hchanged', freshFlows_normalizeRules]

/-- Other events change the flows only. -/
theorem handle_of_not_policySet
    (crates : Crates)
    (p : Proxy)
    {event : Event}
    (h : event.isPolicySet = false) :
    ∃ flows, p.handle crates event = { p with flows := flows } := by
  cases event with
  | packet direction destinationMac pkt now =>
      obtain ⟨flows, hframe, _⟩ :=
        (p.decidePacket_outcome crates direction destinationMac pkt now).frame
      exact ⟨flows, hframe⟩
  | policySet => cases h
  | policyGet => exact ⟨p.flows, rfl⟩

/-- No event changes the interface or the peers. -/
theorem handle_frame
    (crates : Crates)
    (p : Proxy)
    (event : Event) :
    (p.handle crates event).host = p.host ∧ (p.handle crates event).peerIps = p.peerIps := by
  cases hset : event.isPolicySet with
  | false =>
      obtain ⟨flows, h⟩ := handle_of_not_policySet crates p hset
      rw [h]
      exact ⟨rfl, rfl⟩
  | true =>
      cases event with
      | policySet order allow block now =>
          simp only [handle, policySet]
          split <;> exact ⟨rfl, rfl⟩
      | packet => cases hset
      | policyGet => cases hset

end Request

end Proxy

/-! ## Updates in a run -/

section Updates

variable {crates : Crates}
variable {history : List (Transition.Step Clocked Event)}
variable {s s' : Clocked}

/-- A VM is not its own peer. -/
theorem Reaches.vmIp_not_mem_peerIps
    (h : Reaches crates history s) :
    s.proxy.host.vmIp ∉ s.proxy.peerIps := by
  obtain ⟨p, start, hfresh, run⟩ := h
  refine run.invariant (I := fun s => s.proxy.host.vmIp ∉ s.proxy.peerIps) ?_ ?_
  · obtain ⟨order, interface, vmMacAddress, vmIp, network, allow, block, dnsServer, hnew⟩ := hfresh
    unfold Proxy.new Host.new at hnew
    cases interface with
    | error message => cases hnew
    | ok maxPacketSize =>
        cases hnew
        simp
  · rintro s event _ hs ⟨_⟩
    obtain ⟨hhost, hpeers⟩ := Proxy.handle_frame crates s.proxy event
    rw [hhost, hpeers]
    exact hs

/-- Until the next request that sets a policy, only flows change. -/
theorem run_without_policySet
    {later : List (Transition.Step Clocked Event)}
    (run : Transition.Run (EventStep crates) s later s')
    (hlater : ∀ t ∈ later, t.label.isPolicySet = false) :
    ∃ flows, s'.proxy = { s.proxy with flows := flows } := by
  refine run.carry (I := fun s' : Clocked => ∃ flows, s'.proxy = { s.proxy with flows := flows })
    ⟨s.proxy.flows, rfl⟩ ?_
  rintro ⟨pre, event, post⟩ ht hstep ⟨flows, hpre⟩
  obtain ⟨flows', hpost⟩ := Proxy.handle_of_not_policySet crates pre.proxy (hlater _ ht)
  rw [← hstep.proxy_eq] at hpost
  exact ⟨flows', by rw [hpost, hpre]⟩

/-- The proxy that a request leaves has the submitted policy installed in normal form. -/
theorem Proxy.WellFormed.policySet_installs
    {p : Proxy}
    (hwf : p.WellFormed crates)
    (order : HashOrder)
    (allow block : List Rule)
    (now : Instant) :
    ∃ order' flows,
      (p.policySet crates order allow block now).1 =
        { p with
          rules := Rules.new order' p.host.gatewayIp p.peerIps
            (normalizeRules crates allow) (normalizeRules crates block)
          allow := normalizeRules crates allow
          block := normalizeRules crates block
          flows := flows } := by
  by_cases hsame : p.allow = normalizeRules crates allow ∧ p.block = normalizeRules crates block
  · obtain ⟨hallow, hblock⟩ := hsame
    obtain ⟨order', hcompiled⟩ := hwf.compiled
    refine ⟨order', p.flows, ?_⟩
    rw [Proxy.policySet_of_same hallow hblock, ← hallow, ← hblock, ← hcompiled]
  · exact ⟨order, _, Proxy.policySet_of_changed hsame⟩

end Updates

/--
A request that sets a policy takes full effect or none.  If the normal forms of its rules
are installed, nothing changes; otherwise the proxy becomes the one that `Proxy::new`
builds from these rules for the same VM, gateway and peers, with no tracked flows.  Until
the next such request every decision is that of the submitted rules, whatever the hash
orders, and the reported rules are their normal forms.
-/
theorem policySet_as_restart
    (crates : Crates)
    (history : List (Transition.Step Clocked Event))
    (s : Clocked)
    (hreached : Reaches crates history s)
    (order : HashOrder)
    (allow block : List Rule)
    (now : Instant) :
    let p := s.proxy
    let p' := (p.policySet crates order allow block now).1
    (p.allow = normalizeRules crates allow ∧ p.block = normalizeRules crates block → p' = p) ∧
    (¬ (p.allow = normalizeRules crates allow ∧ p.block = normalizeRules crates block) →
      Proxy.new crates order (.ok p.host.maxPacketSize) p.vmMacAddress p.host.vmIp
          ⟨p.host.gatewayIp, p.peerIps⟩ allow block p.dnsServer now = .ok p' ∧
        p' = { p with
          rules := p'.rules
          allow := p'.allow
          block := p'.block
          flows := if (allow ++ block).any Rule.isStateful then some (FlowTable.new now)
            else none }) ∧
    ∀ later s', Transition.Run (EventStep crates) ⟨p', now⟩ later s' →
      (∀ t ∈ later, t.label.isPolicySet = false) →
      s'.proxy.policyGet.allow = normalizeRules crates allow ∧
      s'.proxy.policyGet.block = normalizeRules crates block ∧
      ∀ order', let submitted := Rules.new order' p.host.gatewayIp p.peerIps allow block
        s'.proxy.rules.hasStateful = submitted.hasStateful ∧
        (∀ address direction protocol destinationPort,
          s'.proxy.rules.select address direction protocol destinationPort =
            submitted.select address direction protocol destinationPort) ∧
        ∀ pkt direction,
          s'.proxy.rules.policyDecision pkt direction = submitted.policyDecision pkt direction ∧
          s'.proxy.rules.isStateful pkt direction = submitted.isStateful pkt direction := by
  refine ⟨fun hsame => Proxy.policySet_of_same hsame.1 hsame.2, ?_, ?_⟩
  · intro hchanged
    have hpeers : s.proxy.peerIps.filter (fun peerIp => peerIp ≠ s.proxy.host.vmIp) =
        s.proxy.peerIps := by
      rw [List.filter_eq_self]
      rintro peerIp hpeer
      rw [decide_eq_true_iff]
      rintro rfl
      exact hreached.vmIp_not_mem_peerIps hpeer
    rw [Proxy.policySet_of_changed hchanged]
    refine ⟨?_, rfl⟩
    simp only [Proxy.new, Host.new, hpeers, Proxy.freshFlows_normalizeRules]
  · intro later s' run hlater
    obtain ⟨order', flows, hinstalled⟩ :=
      hreached.wellFormed.policySet_installs order allow block now
    obtain ⟨flows', hlast⟩ := run_without_policySet run hlater
    dsimp only at hlast ⊢
    rw [hinstalled] at hlast
    have halike : ∀ order'', s'.proxy.rules.Alike
        (Rules.new order'' s.proxy.host.gatewayIp s.proxy.peerIps allow block) := by
      intro order''
      rw [hlast]
      exact Rules.alike_normalizeRules order' order''
    refine ⟨by rw [hlast]; rfl, by rw [hlast]; rfl, fun order'' => ?_⟩
    have halike := halike order''
    exact ⟨halike.hasStateful, halike.select,
      fun pkt direction => ⟨halike.policyDecision pkt direction, halike.isStateful pkt direction⟩⟩

/-- A bare policy replaces a directional one, and the flow of a tracked request is gone. -/
theorem policySet_as_restart_bare :
    let s := (firstEvent askingVm (.packet .fromVm 0 vmDatagram 5)).post
    let p' := (s.proxy.policySet plainCrates .insertion [.stateless .host] [] 6).1
    s.proxy.tracked (.udp 0x0a000001 40000 0x0a000002 1234) = some ⟨.fromVm, 5 + udpTimeout⟩ ∧
      Proxy.new plainCrates .insertion (.ok 1514) 0x020000000002 0x0a000002 ⟨0x0a000001, []⟩
        [.stateless .host] [] none 6 = .ok p' ∧
      p'.flows = none := by
  intro s p'
  have hreached := reaches_firstEvent askingVm_fresh (.packet .fromVm 0 vmDatagram 5)
  obtain ⟨hrestarted, hframe⟩ :=
    (policySet_as_restart plainCrates _ s hreached .insertion [.stateless .host] [] 6).2.1
      (by decide)
  exact ⟨by decide, hrestarted, congrArg Proxy.flows hframe⟩

end Softnet
