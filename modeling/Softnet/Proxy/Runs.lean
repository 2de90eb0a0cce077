import Softnet.Lib.Runs
import Softnet.Proxy.Outcome

/-!
# Runs of a proxy

A proxy handles packets of both sides and policy requests, one at a time and at
times that never go back.  A run starts from the proxy that `Proxy::new` builds;
every policy change may see another iteration order of its hash maps.

The authorization invariant: whatever is stored in the flow table is permitted by
the current policy in its initiating direction.
-/

namespace Softnet

/-! ## Tuples -/

namespace FlowKey

/-- The address on the host side. -/
def hostAddr : FlowKey → Ipv4Address
  | .icmpEcho hostAddr _ _ _ => hostAddr
  | .tcp hostAddr _ _ _ => hostAddr
  | .udp hostAddr _ _ _ => hostAddr

/-- The address on the VM side. -/
def vmAddr : FlowKey → Ipv4Address
  | .icmpEcho _ vmAddr _ _ => vmAddr
  | .tcp _ _ vmAddr _ => vmAddr
  | .udp _ _ vmAddr _ => vmAddr

def protocol : FlowKey → IpProtocol
  | .icmpEcho _ _ _ _ => .icmp
  | .tcp _ _ _ _ => .tcp
  | .udp _ _ _ _ => .udp

/-- The port on the host side, for protocols with ports. -/
def hostPort : FlowKey → Option UInt16
  | .icmpEcho _ _ _ _ => none
  | .tcp _ hostPort _ _ => some hostPort
  | .udp _ hostPort _ _ => some hostPort

/-- The port on the VM side, for protocols with ports. -/
def vmPort : FlowKey → Option UInt16
  | .icmpEcho _ _ _ _ => none
  | .tcp _ _ _ vmPort => some vmPort
  | .udp _ _ _ vmPort => some vmPort

/-- The direction an echo tuple is restricted to. -/
def echoDirection : FlowKey → Option FlowDirection
  | .icmpEcho _ _ _ initiatingDirection => some initiatingDirection
  | _ => none

end FlowKey

section Tuples

@[simp] theorem FlowDirection.opposite_opposite
    (direction : FlowDirection) :
    direction.opposite.opposite = direction := by
  cases direction <;> rfl

@[simp] theorem FlowDirection.hostVmPair_opposite
    {T : Type}
    (direction : FlowDirection)
    (a b : T) :
    direction.opposite.hostVmPair a b = direction.hostVmPair b a := by
  cases direction <;> rfl

theorem FlowDirection.hostVmPair_inj
    {T : Type}
    {direction : FlowDirection}
    {a b c d : T} :
    direction.hostVmPair a b = direction.hostVmPair c d ↔ a = c ∧ b = d := by
  cases direction <;> simp [FlowDirection.hostVmPair, and_comm]

variable {pkt : Ipv4Packet}
variable {direction : FlowDirection}
variable {probe : Probe}

theorem Tracked.whole
    (h : Tracked pkt direction probe) :
    pkt.isFragment = false := by
  cases h <;> assumption

theorem Tracked.protocol_eq
    (h : Tracked pkt direction probe) :
    probe.key.protocol = pkt.nextHeader := by
  cases h <;> cases direction <;>
    simp_all [FlowKey.ofTcp, FlowKey.ofUdp, FlowKey.ofIcmpEcho,
      FlowDirection.hostVmPair, FlowKey.protocol]

/-- The addresses of a tuple are those of the packet, sorted by side. -/
theorem Tracked.addrs_eq
    (h : Tracked pkt direction probe) :
    (probe.key.hostAddr, probe.key.vmAddr) =
      direction.hostVmPair pkt.srcAddr pkt.dstAddr := by
  cases h <;> cases direction <;> rfl

/-- The ports of a tuple are those that policy reads, sorted by side. -/
theorem Tracked.ports_eq
    (h : Tracked pkt direction probe) :
    (probe.key.hostPort, probe.key.vmPort) =
      direction.hostVmPair
        ((packetPorts pkt).map Prod.fst) ((packetPorts pkt).map Prod.snd) := by
  cases h <;> cases direction <;>
    simp_all [packetPorts, FlowKey.ofTcp, FlowKey.ofUdp, FlowKey.ofIcmpEcho,
      FlowDirection.hostVmPair, FlowKey.hostPort, FlowKey.vmPort]

theorem Tracked.ports_ne_zero
    (h : Tracked pkt direction probe) :
    probe.key.hostPort ≠ some 0 ∧ probe.key.vmPort ≠ some 0 := by
  cases h <;> cases direction <;>
    simp_all [FlowKey.ofTcp, FlowKey.ofUdp, FlowKey.ofIcmpEcho,
      FlowDirection.hostVmPair, FlowKey.hostPort, FlowKey.vmPort]

end Tuples

/-! ## Authorization -/

/-- The policy permits the tuple to the side that initiates it. -/
def Rules.Permits
    (crates : Crates)
    (rules : Rules)
    (gatewayIp : Ipv4Address)
    (key : FlowKey) :
    FlowDirection → Prop
  | .fromVm =>
      rules.select key.hostAddr .outbound key.protocol key.hostPort = some .allow ∨
        rules.select key.hostAddr .outbound key.protocol key.hostPort = none ∧
          (crates.isGlobal key.hostAddr = true ∨ key.hostAddr = gatewayIp)
  | .fromHost =>
      rules.select key.hostAddr .inbound key.protocol key.vmPort = some .allow ∨
        rules.select key.hostAddr .inbound key.protocol key.vmPort = none ∧
          (rules.select key.hostAddr .outbound key.protocol key.hostPort).isSome = true

/-- A stored flow belongs to the VM, is well formed and permitted. -/
structure Authorized
    (crates : Crates)
    (host : Host)
    (rules : Rules)
    (key : FlowKey)
    (flow : Flow) :
    Prop where
  vmAddr : key.vmAddr = host.vmIp
  ports : key.hostPort ≠ some 0 ∧ key.vmPort ≠ some 0
  echo : ∀ direction, key.echoDirection = some direction →
    flow.initiatingDirection = direction
  permitted : rules.Permits crates host.gatewayIp key flow.initiatingDirection

namespace Proxy

/-- What holds of a proxy at all times. -/
structure WellFormed (crates : Crates) (p : Proxy) : Prop where
  compiled : ∃ order,
    p.rules = Rules.new order p.host.gatewayIp p.peerIps p.allow p.block
  mode : p.flows.isSome = p.rules.hasStateful
  capacity : ∀ t, p.flows = some t → t.len ≤ maxFlows
  authorized : ∀ key flow, p.tracked key = some flow →
    Authorized crates p.host p.rules key flow

section Authorization

variable {crates : Crates}
variable {p p' : Proxy}
variable {direction : FlowDirection}
variable {destinationMac : EthernetAddress}
variable {pkt : Ipv4Packet}
variable {now : Instant}
variable {pending : PendingFlow}

/-- A policy with no flows yet is well formed. -/
theorem wellFormed_of_freshFlows
    (hcompiled : ∃ order,
      p.rules = Rules.new order p.host.gatewayIp p.peerIps p.allow p.block)
    (hflows : p.flows = freshFlows p.rules now) :
    p.WellFormed crates := by
  unfold freshFlows at hflows
  split at hflows
  · next hstateful =>
      refine ⟨hcompiled, by simp [hflows, hstateful], ?_, ?_⟩
      · intro t ht
        rw [hflows] at ht
        cases ht
        simp
      · intro key flow htracked
        simp [tracked, hflows] at htracked
  · next hlegacy =>
      refine ⟨hcompiled, by simp [hflows, hlegacy], ?_, ?_⟩
      · intro t ht
        rw [hflows] at ht
        cases ht
      · intro key flow htracked
        simp [tracked, hflows] at htracked

theorem srcAddr_of_unscreened
    (unscreened : p.screens .fromVm destinationMac pkt = false) :
    pkt.srcAddr = p.host.vmIp := by
  simp only [screens, Bool.or_eq_false_iff, bne_eq_false_iff_eq] at unscreened
  exact unscreened.1.2.symm

theorem dstAddr_of_inspector
    {t : FlowTable}
    (table : p.inspector .fromHost pkt = some t) :
    pkt.dstAddr = p.host.vmIp := by
  by_contra hother
  simp [inspector, Ne.symm hother] at table

/-- The VM side of an inspected packet is the VM. -/
theorem vmAddr_of_inspected
    {t : FlowTable} {probe : Probe}
    (unscreened : p.screens direction destinationMac pkt = false)
    (table : p.inspector direction pkt = some t)
    (htracked : Tracked pkt direction probe) :
    probe.key.vmAddr = p.host.vmIp := by
  have haddrs := (Prod.ext_iff.mp htracked.addrs_eq).2
  cases direction with
  | fromVm => exact haddrs.trans (srcAddr_of_unscreened unscreened)
  | fromHost => exact haddrs.trans (dstAddr_of_inspector table)

/-- What a ruling lets through is permitted for the packet's tuple. -/
theorem permits_of_ruling
    {t : FlowTable} {probe : Probe} {required : Bool}
    (hwf : p.WellFormed crates)
    (table : p.inspector direction pkt = some t)
    (htracked : Tracked pkt direction probe)
    (policy : p.ruling crates direction pkt = .track required) :
    p.rules.Permits crates p.host.gatewayIp probe.key direction := by
  obtain ⟨hhost, hvm⟩ := Prod.ext_iff.mp htracked.addrs_eq
  obtain ⟨hhostPort, hvmPort⟩ := Prod.ext_iff.mp htracked.ports_eq
  have hprotocol := htracked.protocol_eq
  have hlet : p.ruling crates direction pkt ≠ .reject := by
    rw [policy]
    simp
  cases direction with
  | fromVm =>
      simp only [FlowDirection.hostVmPair] at hhost hvm hhostPort hvmPort
      simp only [Rules.Permits, hhost, hprotocol, hhostPort]
      exact p.ruling_fromVm crates pkt hlet
  | fromHost =>
      simp only [FlowDirection.hostVmPair] at hhost hvm hhostPort hvmPort
      simp only [Rules.Permits, hhost, hprotocol, hhostPort, hvmPort]
      have htable : p.flows.isSome = true := by
        simp [flows_of_inspector table]
      rcases p.ruling_fromHost crates pkt hwf.mode htable hlet with
        ⟨hallow, _⟩ | ⟨hnone, hruling⟩
      · exact Or.inl hallow
      · refine Or.inr ⟨hnone, ?_⟩
        rw [policy] at hruling
        split at hruling
        · next hstateful =>
            simp only [Rules.isStateful, Bool.and_eq_true] at hstateful
            exact hstateful.2
        · cases hruling

/-- A committed flow is authorized. -/
theorem Commits.authorized
    (hwf : p.WellFormed crates)
    (h : Commits crates p direction destinationMac pkt now pending p') :
    Authorized crates p.host p.rules pending.key pending.flow := by
  obtain ⟨t, table, hcandidate⟩ := h.verdict
  obtain ⟨required, policy⟩ := h.policy
  obtain ⟨probe, hclass, rfl, hfollowing⟩ := PacketClass.answer_candidate hcandidate
  have htracked := classify_eq_probe_iff.mp hclass
  refine ⟨vmAddr_of_inspected h.unscreened table htracked, htracked.ports_ne_zero, ?_,
    permits_of_ruling hwf table htracked policy⟩
  intro echo hecho
  -- an echo reply only renews an entry of its own side, and there is none
  have hrenewed : ∀ flow, (t.sweepIfDue now).find probe.key = some flow →
      flow.initiatingDirection = echo := by
    intro flow hfind
    have hstored : p.tracked probe.key = some flow := by
      simpa [tracked, flows_of_inspector table] using
        FlowTable.find_of_find_sweepIfDue hfind
    exact (hwf.authorized probe.key flow hstored).echo echo hecho
  cases htracked with
  | tcp => cases direction <;> simp [FlowKey.ofTcp, FlowDirection.hostVmPair,
      FlowKey.echoDirection] at hecho
  | udp => cases direction <;> simp [FlowKey.ofUdp, FlowDirection.hostVmPair,
      FlowKey.echoDirection] at hecho
  | echoRequest =>
      cases direction <;>
        simpa [FlowKey.ofIcmpEcho, FlowDirection.hostVmPair,
          FlowKey.echoDirection] using hecho
  | echoReply =>
      obtain ⟨flow, hfind, hown⟩ := hfollowing rfl
      exact hown.symm.trans (hrenewed flow hfind)

theorem WellFormed.decidePacket
    (hwf : p.WellFormed crates)
    (direction : FlowDirection)
    (destinationMac : EthernetAddress)
    (pkt : Ipv4Packet)
    (now : Instant) :
    (p.decidePacket crates direction destinationMac pkt now).1.WellFormed crates := by
  have houtcome := p.decidePacket_outcome crates direction destinationMac pkt now
  obtain ⟨flows, hframe, hpresent⟩ := houtcome.frame
  have hcapacity := houtcome.len_le hwf.capacity
  have heffect := houtcome.lapses_or_commits
  rw [hframe] at hcapacity heffect ⊢
  refine ⟨hwf.compiled, hpresent.trans hwf.mode, hcapacity, ?_⟩
  intro key flow hflow
  have hold : Lapses now (p.tracked key) ({ p with flows := flows }.tracked key) →
      Authorized crates p.host p.rules key flow := by
    rintro (hsame | ⟨hgone, _⟩)
    · exact hwf.authorized key flow (hsame ▸ hflow)
    · rw [hgone] at hflow
      cases hflow
  rcases heffect with hlapses | ⟨_, pending, hcommits⟩
  · exact hold (hlapses key)
  · by_cases hkey : key = pending.key
    · subst hkey
      rw [hcommits.stored] at hflow
      cases hflow
      have hauthorized := hcommits.authorized hwf
      exact hauthorized
    · exact hold (hcommits.others key hkey)

theorem WellFormed.policySet
    (hwf : p.WellFormed crates)
    (order : HashOrder)
    (allow block : List Rule)
    (now : Instant) :
    (p.policySet crates order allow block now).1.WellFormed crates := by
  unfold Proxy.policySet
  dsimp only
  split
  · exact wellFormed_of_freshFlows ⟨order, rfl⟩ rfl
  · exact hwf

end Authorization

end Proxy

/-! ## Runs -/

/-- What a proxy is asked to do, with the time at which it does it. -/
inductive Event where
  | packet
      (direction : FlowDirection) (destinationMac : EthernetAddress)
      (pkt : Ipv4Packet) (now : Instant)
  | policySet (order : HashOrder) (allow block : List Rule) (now : Instant)
  | policyGet (now : Instant)

def Event.time : Event → Instant
  | .packet _ _ _ now => now
  | .policySet _ _ _ now => now
  | .policyGet now => now

/-- A proxy and the time of its last event. -/
structure Clocked where
  proxy : Proxy
  clock : Instant

def Proxy.handle (crates : Crates) (p : Proxy) : Event → Proxy
  | .packet direction destinationMac pkt now =>
      (p.decidePacket crates direction destinationMac pkt now).1
  | .policySet order allow block now => (p.policySet crates order allow block now).1
  | .policyGet _ => p

/-- Events come at times that never go back. -/
inductive EventStep (crates : Crates) : Clocked → Event → Clocked → Prop
  | handle
      {s : Clocked} {event : Event}
      (later : s.clock ≤ event.time) :
      EventStep crates s event ⟨s.proxy.handle crates event, event.time⟩

/-- The proxy is one that `Proxy::new` returns. -/
def Proxy.Fresh (crates : Crates) (p : Proxy) (start : Instant) : Prop :=
  ∃ order interface vmMacAddress vmIp network allow block dnsServer,
    Proxy.new crates order interface vmMacAddress vmIp network allow block dnsServer
      start = .ok p

/-- The events so far, and the state they lead to. -/
def Reaches
    (crates : Crates)
    (history : List (Transition.Step Clocked Event))
    (s : Clocked) :
    Prop :=
  ∃ p start, p.Fresh crates start ∧
    Transition.Run (EventStep crates) ⟨p, start⟩ history s

section Runs

variable {crates : Crates}
variable {history : List (Transition.Step Clocked Event)}
variable {s : Clocked}

/-- A reached state can be continued. -/
theorem Reaches.append
    {later : List (Transition.Step Clocked Event)} {s' : Clocked}
    (h : Reaches crates history s)
    (run : Transition.Run (EventStep crates) s later s') :
    Reaches crates (history ++ later) s' := by
  obtain ⟨p, start, hfresh, first⟩ := h
  exact ⟨p, start, hfresh, first.append run⟩

theorem EventStep.proxy_eq
    {s' : Clocked} {event : Event}
    (h : EventStep crates s event s') :
    s'.proxy = s.proxy.handle crates event := by
  cases h
  rfl

theorem Proxy.Fresh.flows_eq
    {p : Proxy} {start : Instant}
    (h : p.Fresh crates start) :
    (∃ order, p.rules = Rules.new order p.host.gatewayIp p.peerIps p.allow p.block) ∧
      p.flows = Proxy.freshFlows p.rules start := by
  obtain ⟨order, interface, vmMacAddress, vmIp, network, allow, block, dnsServer, h⟩ := h
  unfold Proxy.new at h
  dsimp only at h
  split at h
  · cases h
  · cases h
    exact ⟨⟨order, rfl⟩, rfl⟩

theorem Proxy.WellFormed.handle
    {p : Proxy}
    (hwf : p.WellFormed crates)
    (event : Event) :
    (p.handle crates event).WellFormed crates := by
  cases event with
  | packet direction destinationMac pkt now =>
      exact hwf.decidePacket direction destinationMac pkt now
  | policySet order allow block now => exact hwf.policySet order allow block now
  | policyGet now => exact hwf

/-- Every reached proxy is well formed. -/
theorem Reaches.wellFormed
    (h : Reaches crates history s) :
    s.proxy.WellFormed crates := by
  obtain ⟨p, start, hfresh, run⟩ := h
  obtain ⟨hcompiled, hflows⟩ := hfresh.flows_eq
  refine run.invariant (I := fun s => s.proxy.WellFormed crates)
    (Proxy.wellFormed_of_freshFlows hcompiled hflows) ?_
  rintro s event _ hs ⟨_⟩
  exact hs.handle event

end Runs

/-! ## A small deployment -/

section Deployment

/-- Printing is not relevant here, and every address counts as global. -/
def plainCrates : Crates :=
  ⟨fun _ => "", fun _ => true⟩

/-- A VM `10.0.0.2` behind the gateway `10.0.0.1`, started at time zero. -/
def createProxy (allow block : List Rule) : Proxy :=
  let allow := normalizeRules plainCrates allow
  let block := normalizeRules plainCrates block
  let rules := Rules.new .insertion 0x0a000001 [] allow block
  { host := ⟨0x0a000002, 0x0a000001, 1514⟩
    vmMacAddress := 0x020000000002
    peerIps := []
    dnsServer := none
    rules := rules
    allow := allow
    block := block
    flows := Proxy.freshFlows rules 0 }

theorem createProxy_fresh (allow block : List Rule) :
    (createProxy allow block).Fresh plainCrates 0 :=
  ⟨.insertion, .ok 1514, 0x020000000002, 0x0a000002, ⟨0x0a000001, [0x0a000002]⟩,
    allow, block, none, rfl⟩

/-- The gateway may be asked, but may not ask. -/
def askingVm : Proxy :=
  createProxy [.stateful .outbound .host .unrestricted] [.stateful .inbound .host .unrestricted]

/-- The gateway may ask, but may not be asked. -/
def askedVm : Proxy :=
  createProxy [.stateful .inbound .host .unrestricted] [.stateful .outbound .host .unrestricted]

theorem askingVm_fresh : askingVm.Fresh plainCrates 0 :=
  createProxy_fresh _ _

theorem askedVm_fresh : askedVm.Fresh plainCrates 0 :=
  createProxy_fresh _ _

/-- A datagram from the VM to the gateway. -/
def vmDatagram : Ipv4Packet :=
  udpPacket 0x0a000002 1234 0x0a000001 40000

/-- The datagram with its endpoints swapped. -/
def hostDatagram : Ipv4Packet :=
  udpPacket 0x0a000001 40000 0x0a000002 1234

/-- A fresh proxy and its first event. -/
def firstEvent (p : Proxy) (event : Event) : Transition.Step Clocked Event :=
  ⟨⟨p, 0⟩, event, ⟨p.handle plainCrates event, event.time⟩⟩

theorem reaches_firstEvent
    {p : Proxy}
    (hfresh : p.Fresh plainCrates 0)
    (event : Event) :
    Reaches plainCrates [firstEvent p event] (firstEvent p event).post :=
  ⟨p, 0, hfresh, Transition.Run.nil.snoc (.handle (Nat.zero_le _))⟩

end Deployment

section Runs

/--
The authorization invariant.  In every reached state there is a flow table exactly
in stateful mode; it is within its bound; and every entry is a well-formed tuple of
the VM that the current policy permits to the side that initiated it.
-/
theorem flow_table_authorized
    (crates : Crates)
    (history : List (Transition.Step Clocked Event))
    (s : Clocked)
    (h : Reaches crates history s) :
    (s.proxy.flows.isSome = true ↔ s.proxy.rules.mode = .stateful) ∧
    (∀ pkt direction,
      (s.proxy.flows.isSome = true →
        s.proxy.rules.policyDecision pkt direction ≠ some .allowStateless) ∧
      (s.proxy.flows = none →
        s.proxy.rules.policyDecision pkt direction ≠ some .allowStateful)) ∧
    (∀ t, s.proxy.flows = some t →
      t.len ≤ maxFlows ∧
      ∀ key flow, t.find key = some flow →
        key.vmAddr = s.proxy.host.vmIp ∧
        (key.hostPort ≠ some 0 ∧ key.vmPort ≠ some 0) ∧
        (∀ direction, key.echoDirection = some direction →
          flow.initiatingDirection = direction) ∧
        s.proxy.rules.Permits crates s.proxy.host.gatewayIp key
          flow.initiatingDirection) := by
  have hwf := h.wellFormed
  have hmode : s.proxy.flows.isSome = true ↔ s.proxy.rules.mode = .stateful := by
    simp [hwf.mode, Rules.hasStateful]
  refine ⟨hmode, ?_, ?_⟩
  · intro pkt direction
    constructor
    · intro hsome hdecision
      rw [Rules.policyDecision_eq, hmode.mp hsome] at hdecision
      cases haction : s.proxy.rules.packetAction pkt direction with
      | none => simp [haction] at hdecision
      | some action => cases action <;> simp [haction] at hdecision
    · intro hnone hdecision
      have hlegacy : s.proxy.rules.mode = .legacy := by
        cases hcase : s.proxy.rules.mode with
        | legacy => rfl
        | stateful => simp [hnone] at hmode; contradiction
      rw [Rules.policyDecision_eq, hlegacy] at hdecision
      cases haction : s.proxy.rules.packetAction pkt direction with
      | none => simp [haction] at hdecision
      | some action => cases action <;> simp [haction] at hdecision
  · intro t ht
    refine ⟨hwf.capacity t ht, ?_⟩
    intro key flow hfind
    obtain ⟨hvm, hports, hecho, hpermitted⟩ :=
      hwf.authorized key flow (by simpa [Proxy.tracked, ht] using hfind)
    exact ⟨hvm, hports, hecho, hpermitted⟩

/-- A tracked request of the VM, and its permission. -/
theorem flow_table_authorized_asking :
    let s := (firstEvent askingVm (.packet .fromVm 0 vmDatagram 5)).post
    s.proxy.tracked (.udp 0x0a000001 40000 0x0a000002 1234) =
        some ⟨.fromVm, 5 + udpTimeout⟩ ∧
      ∀ t, s.proxy.flows = some t → ∀ key flow, t.find key = some flow →
        s.proxy.rules.Permits plainCrates s.proxy.host.gatewayIp key
          flow.initiatingDirection := by
  intro s
  have hreached := reaches_firstEvent askingVm_fresh (.packet .fromVm 0 vmDatagram 5)
  obtain ⟨_, _, hentries⟩ := flow_table_authorized plainCrates _ s hreached
  refine ⟨by decide, ?_⟩
  intro t ht key flow hfind
  exact ((hentries t ht).2 key flow hfind).2.2.2

end Runs

end Softnet
