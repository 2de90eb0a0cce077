import Softnet.Lib.Independence
import Softnet.Proxy.Runs

/-!
# Independent flows

Packets of different flows do not interfere.  Everything that two packets share is the flow
table: its capacity, and the sweep that either of them may trigger.  Once swept, a table with
a free slot treats a packet by the entry of its tuple alone, so that two packets with
different tuples are actions on different entries of a finite map.

The argument goes down in three steps: from the proxy to its table, from a table to the swept
table, and from there to the entry.
-/

namespace Softnet

open StateAction

/-! ## The table -/

namespace FlowTable

section Judge

variable {ruling : Ruling}
variable {pkt : Ipv4Packet}
variable {direction : FlowDirection}
variable {now : Instant}
variable {table : FlowTable}

/-- What a swept table and a ruling make of a packet. -/
def judge
    (ruling : Ruling)
    (pkt : Ipv4Packet)
    (direction : FlowDirection)
    (now : Instant)
    (table : FlowTable) :
    FlowTable × Option Unit :=
  match (classify pkt direction).answer table.find direction now, ruling with
  | .allowed, _ => (table, some ())
  | .denied, _ => (table, none)
  | .untracked, ruling => (table, ruling.untracked)
  | .candidate pending, .track _ =>
      ((table.commit pending).1, if (table.commit pending).2 then some () else none)
  | .candidate _, ruling => (table, ruling.untracked)

/-- The table is as it was, or has stored one flow. -/
theorem judge_table
    (ruling : Ruling)
    (pkt : Ipv4Packet)
    (direction : FlowDirection)
    (now : Instant)
    (table : FlowTable) :
    (table.judge ruling pkt direction now).1 = table ∨
      ∃ pending, (table.judge ruling pkt direction now).1 = (table.commit pending).1 := by
  unfold judge
  split
  · exact Or.inl rfl
  · exact Or.inl rfl
  · exact Or.inl rfl
  · exact Or.inr ⟨_, rfl⟩
  · exact Or.inl rfl

theorem nextSweep_judge :
    (table.judge ruling pkt direction now).1.nextSweep = table.nextSweep := by
  rcases judge_table ruling pkt direction now table with h | ⟨pending, h⟩
  · rw [h]
  · rw [h, nextSweep_commit]

theorem len_judge_le :
    (table.judge ruling pkt direction now).1.len ≤ table.len + 1 := by
  rcases judge_table ruling pkt direction now table with h | ⟨pending, h⟩
  · rw [h]
    exact Nat.le_succ _
  · rw [h]
    exact table.len_commit_le_succ pending

/-- Judging leaves nothing to sweep. -/
theorem sweepIfDue_judge_sweepIfDue :
    ((table.sweepIfDue now).judge ruling pkt direction now).1.sweepIfDue now =
      ((table.sweepIfDue now).judge ruling pkt direction now).1 := by
  apply sweepIfDue_of_lt
  rw [nextSweep_judge]
  exact (table.nextSweep_sweepIfDue now).1

/-- A packet without a tuple is treated alike by all tables, and changes none. -/
theorem judge_of_keyless
    (ruling : Ruling)
    (now : Instant)
    (hkey : packetKey pkt direction = none) :
    ∃ verdict, ∀ table : FlowTable,
      table.judge ruling pkt direction now = (table, verdict) := by
  unfold judge
  cases hclass : classify pkt direction with
  | untracked => exact ⟨ruling.untracked, fun _ => rfl⟩
  | denied => exact ⟨none, fun _ => rfl⟩
  | probe probe =>
      have hsome := packetKey_eq_some_iff.mpr ⟨probe, classify_eq_probe_iff.mp hclass, rfl⟩
      rw [hkey] at hsome
      cases hsome

end Judge

end FlowTable

/-- What a packet does to the entry of its tuple, as long as there is a free slot. -/
def Probe.judge
    (probe : Probe)
    (ruling : Ruling)
    (direction : FlowDirection)
    (now : Instant)
    (stored : Option Flow) :
    Option Flow × Option Unit :=
  match probe.answer stored direction now, ruling with
  | .allowed, _ => (none, some ())
  | .denied, _ => (none, none)
  | .untracked, ruling => (none, ruling.untracked)
  | .candidate pending, .track _ => (some pending.flow, some ())
  | .candidate _, ruling => (none, ruling.untracked)

/-- A packet with a tuple acts on the entry of the tuple. -/
theorem FlowTable.judge_simulates
    {pkt : Ipv4Packet} {direction : FlowDirection} {probe : Probe}
    (ruling : Ruling)
    (now nextSweep : Instant)
    (htracked : Tracked pkt direction probe) :
    Simulates (fun flows => (⟨flows, nextSweep⟩ : FlowTable))
      (fun flows => flows.keys.card < maxFlows)
      (FlowTable.judge ruling pkt direction now)
      (atKey probe.key (probe.judge ruling direction now)) := by
  intro flows hfree
  have hanswer : (classify pkt direction).answer (FlowTable.mk flows nextSweep).find
      direction now = probe.answer (flows.lookup probe.key) direction now := by
    rw [classify_eq_probe_iff.mpr htracked]
    rfl
  simp only [FlowTable.judge, hanswer, atKey, Probe.judge]
  cases hverdict : probe.answer (flows.lookup probe.key) direction now with
  | allowed => rfl
  | denied => rfl
  | untracked => rfl
  | candidate pending =>
      obtain ⟨rfl, _⟩ := Probe.answer_candidate hverdict
      cases ruling with
      | reject => rfl
      | pass => rfl
      | track required =>
          simp [FlowTable.commit, FlowTable.len, not_le.mpr hfree]

/-! ## Arrivals -/

/-- A packet that arrives from one of the two sides. -/
structure Arrival where
  direction : FlowDirection
  destinationMac : EthernetAddress
  pkt : Ipv4Packet

namespace Arrival

/-- The tuple of the packet, if it has one. -/
def key (a : Arrival) : Option FlowKey :=
  packetKey a.pkt a.direction

/-- The decision on the packet, and the proxy after it. -/
def process (crates : Crates) (now : Instant) (a : Arrival) (p : Proxy) :
    Proxy × Option Unit :=
  p.decidePacket crates a.direction a.destinationMac a.pkt now

/-- The packets have different tuples, or one of them has none. -/
def Apart (a b : Arrival) : Prop :=
  ∀ key, a.key = some key → b.key ≠ some key

theorem Apart.symm
    {a b : Arrival}
    (h : a.Apart b) :
    b.Apart a :=
  fun key hb ha => h key ha hb

/-- The ways a packet can act on the flow table. -/
inductive ActsBy (a : Arrival) (now : Instant) : (FlowTable → FlowTable × Option Unit) → Prop
  | unseen (verdict : Option Unit) :
      ActsBy a now (fun table => (table, verdict))
  | judged (ruling : Ruling) :
      ActsBy a now
        (FlowTable.judge ruling a.pkt a.direction now ∘ fun table => table.sweepIfDue now)

section Tables

variable {a b : Arrival}
variable {now : Instant}
variable {f g : FlowTable → FlowTable × Option Unit}
variable {table : FlowTable}

theorem ActsBy.len_le
    (h : a.ActsBy now f)
    (table : FlowTable) :
    (f table).1.len ≤ table.len + 1 := by
  cases h with
  | unseen verdict => exact Nat.le_succ _
  | judged ruling =>
      exact FlowTable.len_judge_le.trans
        (Nat.add_le_add_right (table.len_sweepIfDue_le now) 1)

/-- It is enough to look at swept tables. -/
theorem ActsBy.independent_of_judge
    (ha : a.ActsBy now f)
    (hb : b.ActsBy now g)
    (hjudge : ∀ ruling ruling',
      Independent (FlowTable.judge ruling a.pkt a.direction now)
        (FlowTable.judge ruling' b.pkt b.direction now) (table.sweepIfDue now)) :
    Independent f g table := by
  cases ha with
  | unseen verdict => exact Independent.of_unchanged rfl rfl
  | judged ruling =>
      cases hb with
      | unseen verdict =>
          apply Independent.symm
          exact Independent.of_unchanged rfl rfl
      | judged ruling' =>
          exact Independent.of_prepared (fun table : FlowTable => table.sweepIfDue now)
            (hjudge ruling ruling') FlowTable.sweepIfDue_judge_sweepIfDue
            FlowTable.sweepIfDue_judge_sweepIfDue

/-- A packet without a tuple needs no room. -/
theorem ActsBy.independent_of_keyless
    (ha : a.ActsBy now f)
    (hb : b.ActsBy now g)
    (hkey : a.key = none) :
    Independent f g table := by
  refine ha.independent_of_judge hb fun ruling ruling' => ?_
  obtain ⟨verdict, hjudge⟩ := FlowTable.judge_of_keyless ruling now hkey
  exact Independent.of_unchanged (hjudge _) (hjudge _)

/-- Packets with different tuples, in a table with room for both. -/
theorem ActsBy.independent
    (ha : a.ActsBy now f)
    (hb : b.ActsBy now g)
    (hapart : a.Apart b)
    (hroom : table.len + 2 ≤ maxFlows) :
    Independent f g table := by
  cases hakey : a.key with
  | none => exact ha.independent_of_keyless hb hakey
  | some key =>
      cases hbkey : b.key with
      | none => exact (hb.independent_of_keyless ha hbkey).symm
      | some key' =>
          refine ha.independent_of_judge hb fun ruling ruling' => ?_
          obtain ⟨probe, htracked, rfl⟩ := packetKey_eq_some_iff.mp hakey
          obtain ⟨probe', htracked', rfl⟩ := packetKey_eq_some_iff.mp hbkey
          have hne : probe.key ≠ probe'.key := fun heq => hapart _ hakey (heq ▸ hbkey)
          have hswept : (table.sweepIfDue now).flows.keys.card + 2 ≤ maxFlows :=
            (Nat.add_le_add_right (table.len_sweepIfDue_le now) 2).trans hroom
          -- one packet leaves at least one of the two slots
          have hfree : ∀ (probe : Probe) act,
              (atKey (β := Option Unit) probe.key act
                (table.sweepIfDue now).flows).1.keys.card < maxFlows :=
            fun probe act => (card_keys_atKey_le probe.key act _).trans_lt (by omega)
          exact (independent_atKey hne _ _ (table.sweepIfDue now).flows).of_simulates
            (FlowTable.judge_simulates ruling now _ htracked)
            (FlowTable.judge_simulates ruling' now _ htracked')
            (by omega) (hfree probe _) (hfree probe' _)

end Tables

end Arrival

/-! ## Proxies -/

namespace Proxy

section Tables

variable (crates : Crates)
variable (p : Proxy)
variable (direction : FlowDirection)
variable (destinationMac : EthernetAddress)
variable (pkt : Ipv4Packet)
variable (now : Instant)

/-- The proxy with another flow table. -/
def withTable (table : FlowTable) : Proxy :=
  { p with flows := some table }

theorem withTable_of_flows
    {table : FlowTable}
    (hflows : p.flows = some table) :
    p.withTable table = p := by
  rw [withTable, ← hflows]

/-- What is dropped at once does not depend on the table. -/
theorem screens_withTable
    (table : FlowTable) :
    (p.withTable table).screens direction destinationMac pkt =
      p.screens direction destinationMac pkt := by
  cases direction <;> rfl

/-- The ruling on a packet does not depend on what the table holds. -/
theorem exists_ruling_withTable :
    ∃ ruling, ∀ table, (p.withTable table).ruling crates direction pkt = ruling := by
  cases direction with
  | fromVm => exact ⟨p.outboundRuling crates pkt, fun _ => rfl⟩
  | fromHost => exact ⟨p.inboundRuling pkt, fun _ => rfl⟩

/-- Whether a packet is inspected does not depend on what the table holds. -/
theorem inspector_withTable :
    (∀ table, (p.withTable table).inspector direction pkt = none) ∨
      ∀ table, (p.withTable table).inspector direction pkt = some table := by
  cases direction with
  | fromVm => exact Or.inr fun _ => rfl
  | fromHost =>
      by_cases hdst : p.host.vmIp = pkt.dstAddr
      · exact Or.inr fun _ => if_pos hdst
      · exact Or.inl fun _ => if_neg hdst

variable {crates p direction destinationMac pkt now}

/-- An inspected packet is judged by the swept table. -/
theorem decidePacket_withTable_of_inspect
    {ruling : Ruling} {table : FlowTable}
    (unscreened : p.screens direction destinationMac pkt = false)
    (hinspector : (p.withTable table).inspector direction pkt = some table)
    (hruling : (p.withTable table).ruling crates direction pkt = ruling) :
    (p.withTable table).decidePacket crates direction destinationMac pkt now =
      (p.withTable ((table.sweepIfDue now).judge ruling pkt direction now).1,
        ((table.sweepIfDue now).judge ruling pkt direction now).2) := by
  rw [← p.screens_withTable direction destinationMac pkt table] at unscreened
  rw [decidePacket_of_inspect unscreened hinspector, hruling]
  unfold FlowTable.judge tableVerdict
  cases (classify pkt direction).answer (table.sweepIfDue now).find direction now with
  | allowed => rfl
  | denied => rfl
  | untracked => exact settle_none _ _
  | candidate pending => cases ruling <;> rfl

end Tables

end Proxy

namespace Arrival

section Proxies

variable {crates : Crates}
variable {now : Instant}
variable {a b : Arrival}
variable {p : Proxy}

/-- Processing a packet is acting on the flow table. -/
theorem exists_actsBy
    (crates : Crates)
    (p : Proxy)
    (now : Instant)
    (a : Arrival) :
    ∃ f, a.ActsBy now f ∧
      Simulates p.withTable (fun _ => True) (a.process crates now) f := by
  have hsame := p.screens_withTable a.direction a.destinationMac a.pkt
  cases hscreen : p.screens a.direction a.destinationMac a.pkt with
  | true =>
      exact ⟨_, .unseen none, fun table _ =>
        Proxy.decidePacket_of_screens ((hsame table).trans hscreen)⟩
  | false =>
      obtain ⟨ruling, hruling⟩ := p.exists_ruling_withTable crates a.direction a.pkt
      rcases p.inspector_withTable a.direction a.pkt with hbypass | hinspect
      · refine ⟨_, .unseen ruling.untracked, fun table _ => ?_⟩
        rw [← hruling table]
        exact Proxy.decidePacket_of_bypass ((hsame table).trans hscreen) (hbypass table)
      · exact ⟨_, .judged ruling, fun table _ =>
          Proxy.decidePacket_withTable_of_inspect hscreen (hinspect table) (hruling table)⟩

/-- Without a flow table nothing changes. -/
theorem process_of_no_table
    (crates : Crates)
    (now : Instant)
    (a : Arrival)
    (hflows : p.flows = none) :
    ∃ verdict, a.process crates now p = (p, verdict) := by
  cases hscreen : p.screens a.direction a.destinationMac a.pkt with
  | true => exact ⟨none, Proxy.decidePacket_of_screens hscreen⟩
  | false =>
      refine ⟨_, Proxy.decidePacket_of_bypass hscreen ?_⟩
      cases a.direction <;> simp [Proxy.inspector, hflows]

/-- It is enough to look at the actions on the flow table. -/
theorem independent_of_actsBy
    (htable : ∀ f g table, a.ActsBy now f → b.ActsBy now g → p.flows = some table →
      Independent f g table) :
    Independent (a.process crates now) (b.process crates now) p := by
  cases hflows : p.flows with
  | none =>
      obtain ⟨_, ha⟩ := a.process_of_no_table crates now hflows
      obtain ⟨_, hb⟩ := b.process_of_no_table crates now hflows
      exact Independent.of_unchanged ha (by rw [hb, ha])
  | some table =>
      obtain ⟨f, hf, hfsim⟩ := exists_actsBy crates p now a
      obtain ⟨g, hg, hgsim⟩ := exists_actsBy crates p now b
      rw [← p.withTable_of_flows hflows]
      exact (htable f g table hf hg hflows).of_simulates hfsim hgsim trivial trivial trivial

end Proxies

end Arrival

/-- The flow table, if there is one, has at least that many free slots. -/
def Proxy.HasRoom (n : Nat) (p : Proxy) : Prop :=
  ∀ table, p.flows = some table → table.len + n ≤ maxFlows

/-- A packet takes at most one slot. -/
theorem Proxy.HasRoom.process
    {n : Nat} {p : Proxy}
    (h : p.HasRoom (n + 1))
    (crates : Crates)
    (now : Instant)
    (a : Arrival) :
    (a.process crates now p).1.HasRoom n := by
  cases hflows : p.flows with
  | none =>
      obtain ⟨verdict, hsame⟩ := a.process_of_no_table crates now hflows
      intro table htable
      rw [hsame, hflows] at htable
      cases htable
  | some table =>
      obtain ⟨f, hf, hsim⟩ := Arrival.exists_actsBy crates p now a
      rw [← p.withTable_of_flows hflows, hsim table trivial]
      intro table' htable'
      obtain rfl : (f table).1 = table' := Option.some.inj htable'
      have hlen := hf.len_le table
      have hroom := h table hflows
      omega

/-- Packets with different tuples, as long as there is room for both. -/
theorem Proxy.HasRoom.independent
    {crates : Crates} {now : Instant} {a b : Arrival} {p : Proxy}
    (hroom : p.HasRoom 2)
    (hapart : a.Apart b) :
    Independent (a.process crates now) (b.process crates now) p :=
  Arrival.independent_of_actsBy fun _ _ table ha hb hflows =>
    ha.independent hb hapart (hroom table hflows)

/-! ## Packets without a tuple -/

/-- An ICMP echo request or reply. -/
def Ipv4Packet.isEcho (pkt : Ipv4Packet) : Bool :=
  match pkt.payload.icmp with
  | none => false
  | some icmp =>
      (icmp.msgType == .echoRequest || icmp.msgType == .echoReply) && icmp.msgCode == 0

/-- Fragments, and packets that are neither TCP nor UDP nor ICMP echo. -/
def Ipv4Packet.neverTracked (pkt : Ipv4Packet) : Bool :=
  pkt.isFragment ||
    match pkt.nextHeader with
    | .tcp => false
    | .udp => false
    | .icmp => !pkt.isEcho
    | .other _ => true

theorem Tracked.neverTracked_eq_false
    {pkt : Ipv4Packet} {direction : FlowDirection} {probe : Probe}
    (h : Tracked pkt direction probe) :
    pkt.neverTracked = false := by
  cases h <;> simp [Ipv4Packet.neverTracked, Ipv4Packet.isEcho, *]

theorem Arrival.key_of_neverTracked
    {a : Arrival}
    (h : a.pkt.neverTracked = true) :
    a.key = none := by
  cases hkey : a.key with
  | none => rfl
  | some key =>
      obtain ⟨probe, htracked, _⟩ := packetKey_eq_some_iff.mp hkey
      rw [htracked.neverTracked_eq_false] at h
      cases h

/-! ## Non-interference -/

section NonInterference

variable (crates : Crates)
variable (p : Proxy)
variable (now : Instant)

/--
Two packets of either side that are handled at the same time, in any state of the proxy.  If
they do not have the same tuple and two slots are free, either order gives each of them the
same verdict and leads to the same state.  A packet without a tuple can be exchanged with any
packet, and with no slot free.
-/
theorem independent_flows_commute
    (a b : Arrival) :
    (p.HasRoom 2 → (∀ key, a.key = some key → b.key ≠ some key) →
      Independent (a.process crates now) (b.process crates now) p) ∧
    (a.key = none → Independent (a.process crates now) (b.process crates now) p) ∧
    (a.pkt.neverTracked = true →
      a.key = none ∧ Independent (a.process crates now) (b.process crates now) p) := by
  have hkeyless : a.key = none →
      Independent (a.process crates now) (b.process crates now) p := fun hkey =>
    Arrival.independent_of_actsBy fun f g table ha hb _ => ha.independent_of_keyless hb hkey
  refine ⟨fun hroom hapart => hroom.independent hapart, hkeyless, fun hnever => ?_⟩
  have hkey := Arrival.key_of_neverTracked hnever
  exact ⟨hkey, hkeyless hkey⟩

/-- Two requests of the VM from different ports, both of which are stored. -/
theorem independent_flows_commute_requests :
    let a : Arrival := ⟨.fromVm, 0, vmDatagram⟩
    let b : Arrival := ⟨.fromVm, 0, udpPacket 0x0a000002 1235 0x0a000001 40000⟩
    (a.process plainCrates 5 askingVm).2 = some () ∧
      (b.process plainCrates 5 (a.process plainCrates 5 askingVm).1).2 = some () ∧
      (b.process plainCrates 5 (a.process plainCrates 5 askingVm).1).1 =
        (a.process plainCrates 5 (b.process plainCrates 5 askingVm).1).1 := by
  intro a b
  have hroom : askingVm.HasRoom 2 := by
    intro table htable
    cases htable
    decide
  have hindependent := (independent_flows_commute plainCrates askingVm 5 a b).1 hroom (by decide)
  exact ⟨by decide, by decide, hindependent.state⟩

/--
A burst of packets that are handled at the same time.  If no two of them have the same tuple
and there is room for all of them, their order does not matter.
-/
theorem burst_in_any_order
    {burst burst' : List Arrival}
    (hperm : burst.Perm burst')
    (hapart : burst.Pairwise Arrival.Apart)
    (hroom : p.HasRoom burst.length) :
    (results (Arrival.process crates now) burst p).1 =
        (results (Arrival.process crates now) burst' p).1 ∧
      (results (Arrival.process crates now) burst p).2.Perm
        (results (Arrival.process crates now) burst' p).2 := by
  refine results_perm Proxy.HasRoom (fun n a p h => h.process crates now a) ?_
    (fun a b => Arrival.Apart.symm) hperm hapart hroom
  intro n a b p hroom hapart
  refine Proxy.HasRoom.independent ?_ hapart
  intro table hflows
  have hfree := hroom table hflows
  omega

end NonInterference

end Softnet
