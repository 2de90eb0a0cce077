import Softnet.Proxy.Runs
import Softnet.Proxy.RulesPrecedence

/-!
# Hiding the port does not evade a block

Later fragments carry no ports.  The rules treat an unknown port so that nothing
is gained by it: a block of some port counts as a block of the unknown port, and
an allow of some port does not count at all.
-/

namespace Softnet

section HiddenPorts

variable {order : HashOrder}
variable {hostAddress : Ipv4Address}
variable {peerAddresses : List Ipv4Address}
variable {allow block : List Rule}
variable {address : Ipv4Address}
variable {direction : Direction}
variable {protocol : IpProtocol}

/-- An allow is selected only by an entry that is more specific than every block. -/
theorem Rules.exists_allow_of_select_new
    {destinationPort : Option UInt16}
    (h : (Rules.new order hostAddress peerAddresses allow block).select
      address direction protocol destinationPort = some .allow) :
    ∃ e ∈ expandPolicy hostAddress peerAddresses allow block,
      e.Matches address direction protocol destinationPort ∧
      e.action = .allow ∧
      ∀ e' ∈ expandPolicy hostAddress peerAddresses allow block,
        e'.Matches address direction protocol destinationPort →
        e'.action = .block →
        PolicyEntry.specificity e'.net e'.filter <
          PolicyEntry.specificity e.net e.filter := by
  have hsorted :=
    Rules.new_sorted order hostAddress peerAddresses allow block direction
  obtain ⟨net, filter, hit, hmax⟩ := Rules.select_eq_some hsorted h
  obtain ⟨he, hmatch⟩ := Rules.mem_expandPolicy_of_hit _ _ _ _ _ _ _ _ _ hit
  refine ⟨_, he, hmatch, rfl, ?_⟩
  intro e' he' hmatch' hblock
  obtain ⟨action', hit', hstays⟩ :=
    Rules.exists_hit_of_mem order _ _ _ _ _ _ _ _ he' hmatch'
  rcases (rulePriority_le_iff ..).mp (hmax _ _ _ hit') with hlt | ⟨_, hbit⟩
  · exact hlt
  · exact absurd (hbit (hstays hblock)) (by simp)

/-- A block that matches some port also matches the unknown port. -/
theorem PolicyEntry.Matches.unknown_of_block
    {e : PolicyEntry} {port : UInt16}
    (hprotocol : protocol = .tcp ∨ protocol = .udp)
    (h : e.Matches address direction protocol (some port))
    (hblock : e.action = .block) :
    e.Matches address direction protocol none := by
  obtain ⟨hdirection, hcontains, hfilter, _⟩ := h
  exact ⟨hdirection, hcontains, hfilter, fun _ _ => ⟨hblock, hprotocol⟩⟩

/-- An allow that matches the unknown port matches every port. -/
theorem PolicyEntry.Matches.known_of_allow
    {e : PolicyEntry}
    (h : e.Matches address direction protocol none)
    (hallow : e.action = .allow)
    (port : UInt16) :
    e.Matches address direction protocol (some port) := by
  obtain ⟨hdirection, hcontains, hfilter, hport⟩ := h
  refine ⟨hdirection, hcontains, hfilter, ?_⟩
  intro range hrange
  exact absurd ((hport range hrange).1.symm.trans hallow) (by simp)

/-- A block of some port is a block of the unknown port. -/
theorem Rules.select_unknown_of_block
    {port : UInt16}
    (hprotocol : protocol = .tcp ∨ protocol = .udp)
    (h : (Rules.new order hostAddress peerAddresses allow block).select
      address direction protocol (some port) = some .block) :
    (Rules.new order hostAddress peerAddresses allow block).select
      address direction protocol none = some .block := by
  obtain ⟨e, he, hmatch, hblock, hmax⟩ := (Rules.select_new_eq_block_iff ..).mp h
  have hunknown := hmatch.unknown_of_block hprotocol hblock
  cases hselect : (Rules.new order hostAddress peerAddresses allow block).select
      address direction protocol none with
  | none =>
      exact absurd hunknown ((Rules.select_new_eq_none_iff ..).mp hselect e he)
  | some action =>
      cases action with
      | block => rfl
      | allow =>
          -- the winning allow has no port range, so it competes for the known port too
          obtain ⟨m, hm, hmMatch, hmAllow, hmMax⟩ := Rules.exists_allow_of_select_new hselect
          exact absurd (hmax m hm (hmMatch.known_of_allow hmAllow port))
            (not_le.mpr (hmMax e he hunknown hblock))

/-- An allow of the unknown port is an allow of every port. -/
theorem Rules.select_known_of_allow
    (hprotocol : protocol = .tcp ∨ protocol = .udp)
    (h : (Rules.new order hostAddress peerAddresses allow block).select
      address direction protocol none = some .allow)
    (port : UInt16) :
    (Rules.new order hostAddress peerAddresses allow block).select
      address direction protocol (some port) = some .allow := by
  cases hselect : (Rules.new order hostAddress peerAddresses allow block).select
      address direction protocol (some port) with
  | none =>
      obtain ⟨m, hm, hmMatch, hmAllow, _⟩ := Rules.exists_allow_of_select_new h
      exact absurd (hmMatch.known_of_allow hmAllow port)
        ((Rules.select_new_eq_none_iff ..).mp hselect m hm)
  | some action =>
      cases action with
      | allow => rfl
      | block =>
          rw [Rules.select_unknown_of_block hprotocol hselect] at h
          cases h

end HiddenPorts

section Fragments

variable {crates : Crates}
variable {p : Proxy}
variable {direction : FlowDirection}
variable {fragment whole : Ipv4Packet}

/-- Two packets that agree in what policy reads apart from ports. -/
structure SameEndpoints (pkt pkt' : Ipv4Packet) : Prop where
  srcAddr : pkt.srcAddr = pkt'.srcAddr
  dstAddr : pkt.dstAddr = pkt'.dstAddr
  protocol : pkt.nextHeader = pkt'.nextHeader

theorem packetPorts_of_isFragment
    (h : fragment.isFragment = true) :
    packetPorts fragment = none := by
  simp [packetPorts, h]

/-- A fragment of a blocked packet is blocked. -/
theorem Proxy.WellFormed.packetAction_fragment
    (hwf : p.WellFormed crates)
    (hfragment : fragment.isFragment = true)
    (hprotocol : fragment.nextHeader = .tcp ∨ fragment.nextHeader = .udp)
    (hsame : SameEndpoints whole fragment)
    {ports : UInt16 × UInt16}
    (hports : packetPorts whole = some ports)
    {side : Direction}
    (hblock : p.rules.packetAction whole side = some .block) :
    p.rules.packetAction fragment side = some .block := by
  obtain ⟨order, hrules⟩ := hwf.compiled
  rw [hrules] at hblock ⊢
  cases side <;>
    simp only [Rules.packetAction, packetPorts_of_isFragment hfragment, hports, hsame.srcAddr,
      hsame.dstAddr, hsame.protocol, Option.map_some, Option.map_none] at hblock ⊢ <;>
    exact Rules.select_unknown_of_block hprotocol hblock

/-- A fragment that the rules block is not forwarded, whatever the table holds. -/
theorem Proxy.decidePacket_blocked_fragment
    {destinationMac : EthernetAddress} {now : Instant}
    (hfragment : fragment.isFragment = true)
    (hblock : p.rules.packetAction fragment direction.policy = some .block)
    (hjudged : direction = .fromHost → p.flows.isSome = true) :
    (p.decidePacket crates direction destinationMac fragment now).2 = none := by
  have hreject : p.ruling crates direction fragment = .reject := by
    cases direction with
    | fromVm =>
        simp only [FlowDirection.policy] at hblock
        simp [Proxy.ruling, Proxy.outboundRuling, Rules.policyDecision_eq, hblock]
    | fromHost =>
        have hsome := hjudged rfl
        simp only [FlowDirection.policy] at hblock
        simp [Proxy.ruling, Proxy.inboundRuling, Rules.policyDecision_eq, hblock,
          Option.isSome_iff_ne_none.mp hsome]
  have hverdict : ∀ t, Proxy.tableVerdict direction fragment now t = .untracked := by
    intro t
    simp [Proxy.tableVerdict, classify, hfragment, PacketClass.answer]
  have houtcome := p.decidePacket_outcome crates direction destinationMac fragment now
  generalize (p.decidePacket crates direction destinationMac fragment now).1 = p' at houtcome
  generalize (p.decidePacket crates direction destinationMac fragment now).2 = verdict at houtcome ⊢
  cases houtcome with
  | screened => rfl
  | denied => rfl
  | refused => rfl
  | bypassed => rw [hreject]; rfl
  | untracked => rw [hreject]; rfl
  | undisturbed => rw [hreject]; rfl
  | returned _ _ other => simp [hverdict] at other
  | committed _ _ other => simp [hverdict] at other

/--
Hiding the port never evades a block.  For TCP and UDP a block of some port blocks
the unknown port, and an allow of the unknown port allows every port; so a fragment
of a packet that the rules block is not forwarded, from the VM at all times and from
the host under a stateful policy.
-/
theorem hidden_ports_never_evade_blocks :
    (∀ (order : HashOrder) (hostAddress : Ipv4Address) (peerAddresses : List Ipv4Address)
        (allow block : List Rule) (address : Ipv4Address) (direction : Direction)
        (protocol : IpProtocol),
      protocol = .tcp ∨ protocol = .udp →
      ((∃ port, (Rules.new order hostAddress peerAddresses allow block).select
          address direction protocol (some port) = some .block) →
        (Rules.new order hostAddress peerAddresses allow block).select
          address direction protocol none = some .block) ∧
      ((Rules.new order hostAddress peerAddresses allow block).select
          address direction protocol none = some .allow →
        ∀ port, (Rules.new order hostAddress peerAddresses allow block).select
          address direction protocol (some port) = some .allow)) ∧
    (∀ (crates : Crates) (history : List (Transition.Step Clocked Event)) (s : Clocked),
      Reaches crates history s →
      ∀ (direction : FlowDirection) (fragment whole : Ipv4Packet)
        (destinationMac : EthernetAddress) (now : Instant),
      fragment.isFragment = true →
      fragment.nextHeader = .tcp ∨ fragment.nextHeader = .udp →
      SameEndpoints whole fragment →
      (packetPorts whole).isSome = true →
      s.proxy.rules.policyDecision whole direction.policy = some .block →
      (direction = .fromHost → s.proxy.rules.mode = .stateful) →
      (s.proxy.decidePacket crates direction destinationMac fragment now).2 = none) := by
  refine ⟨?_, ?_⟩
  · intro order hostAddress peerAddresses allow block address direction protocol hprotocol
    refine ⟨?_, Rules.select_known_of_allow hprotocol⟩
    rintro ⟨port, hblock⟩
    exact Rules.select_unknown_of_block hprotocol hblock
  · intro crates history s h direction fragment whole destinationMac now hfragment hprotocol
      hsame hports hdecision hstateful
    have hwf := h.wellFormed
    obtain ⟨ports, hports⟩ := Option.isSome_iff_exists.mp hports
    have hblock : s.proxy.rules.packetAction whole direction.policy = some .block := by
      rw [Rules.policyDecision_eq] at hdecision
      cases haction : s.proxy.rules.packetAction whole direction.policy with
      | none => simp [haction] at hdecision
      | some action =>
          cases action with
          | block => rfl
          | allow => cases hmode : s.proxy.rules.mode <;> simp [haction, hmode] at hdecision
    refine Proxy.decidePacket_blocked_fragment hfragment
      (hwf.packetAction_fragment hfragment hprotocol hsame hports hblock) ?_
    intro hhost
    simp [hwf.mode, Rules.hasStateful, hstateful hhost]

end Fragments

end Softnet
