import Softnet.Flows.TableSpec
import Softnet.Proxy.Admission

/-!
# What one packet can do

The two packet decisions have about a dozen exits.  Here they are sorted by what
happens to the flow table: a packet is screened out, bypasses the table, or is
inspected and then settled by the table, by the policy, or by a commit.
`Proxy.Outcome` has one constructor for each of these, and every later result
about packets goes through `Proxy.decidePacket_outcome`.

The rules enter through a ruling: reject the packet, pass it without tracking,
or track its flow.
-/

namespace Softnet

/-- An entry stays as it is, or goes because it had expired. -/
def Lapses (now : Instant) (before after : Option Flow) : Prop :=
  after = before ∨
    after = none ∧ ∃ flow, before = some flow ∧ flow.expiresAt ≤ now

/-- The action that the rules of a direction select for a packet. -/
def Rules.packetAction
    (rules : Rules)
    (pkt : Ipv4Packet) :
    Direction → Option Action
  | .inbound =>
      rules.select pkt.srcAddr .inbound pkt.nextHeader ((packetPorts pkt).map Prod.snd)
  | .outbound =>
      rules.select pkt.dstAddr .outbound pkt.nextHeader ((packetPorts pkt).map Prod.snd)

theorem Rules.policyDecision_eq
    (rules : Rules)
    (pkt : Ipv4Packet)
    (direction : Direction) :
    rules.policyDecision pkt direction =
      (rules.packetAction pkt direction).map
        (fun action =>
          match action, rules.mode with
          | .block, _ => .block
          | .allow, .legacy => .allowStateless
          | .allow, .stateful => .allowStateful) := by
  cases direction with
  | inbound =>
      simp only [Rules.policyDecision, Rules.packetAction]
      rcases rules.select pkt.srcAddr .inbound pkt.nextHeader _ with _ | _ | _ <;>
        cases rules.mode <;> rfl
  | outbound =>
      simp only [Rules.policyDecision, Rules.packetAction]
      rcases rules.select pkt.dstAddr .outbound pkt.nextHeader _ with _ | _ | _ <;>
        cases rules.mode <;> rfl

/-- What policy says about a packet that the flow table did not settle. -/
inductive Ruling where
  | reject
  | pass
  /-- Commit the flow; a packet without one is dropped only if tracking is required. -/
  | track (required : Bool)
deriving DecidableEq

/-- The verdict on a packet that has no flow to commit. -/
def Ruling.untracked : Ruling → Option Unit
  | .reject => none
  | .pass => some ()
  | .track required => if required then none else some ()

/-- The direction whose rules judge a packet. -/
def FlowDirection.policy : FlowDirection → Direction
  | .fromHost => .inbound
  | .fromVm => .outbound

namespace Proxy

section Outcome

variable (crates : Crates)
variable (p : Proxy)
variable (direction : FlowDirection)
variable (destinationMac : EthernetAddress)
variable (pkt : Ipv4Packet)
variable (now : Instant)

/-- The decision on an IPv4 packet of either direction. -/
def decidePacket : Proxy × Option Unit :=
  match direction with
  | .fromVm => p.allowedFromVmIpv4 crates destinationMac pkt now
  | .fromHost => p.allowedFromHostIpv4 pkt now

/-- Packets dropped before the flow table and the rules are consulted. -/
def screens : Bool :=
  match direction with
  | .fromVm =>
      consumeDhcp pkt || p.host.vmIp != pkt.srcAddr || p.consumeDns destinationMac pkt
  | .fromHost => isDhcpReply pkt

/-- The table that inspects the packet. -/
def inspector : Option FlowTable :=
  match direction with
  | .fromVm => p.flows
  | .fromHost => if p.host.vmIp = pkt.dstAddr then p.flows else none

/-- The ruling of outbound policy with its fallbacks. -/
def outboundRuling : Ruling :=
  match p.rules.policyDecision pkt .outbound with
  | some .block => .reject
  | some .allowStateless => if p.rules.isStateful pkt .inbound then .track false else .pass
  | some .allowStateful => .track true
  | none =>
      if crates.isGlobal pkt.dstAddr ∨ pkt.dstAddr = p.host.gatewayIp then
        .track false
      else
        .reject

/-- The ruling of inbound policy; packets pass by default. -/
def inboundRuling : Ruling :=
  match p.rules.policyDecision pkt .inbound with
  | some .block => .reject
  | some .allowStateless => .reject
  | some .allowStateful => .track true
  | none => if p.rules.isStateful pkt .outbound then .track false else .pass

/-- The ruling on a packet.  Without a flow table the host side is not judged. -/
def ruling : Ruling :=
  match direction with
  | .fromVm => p.outboundRuling crates pkt
  | .fromHost => if p.flows.isNone then .pass else p.inboundRuling pkt

/-- The state after an inspection that commits nothing. -/
def swept (table : FlowTable) : Proxy :=
  { p with flows := some (table.sweepIfDue now) }

/-- The verdict of the flow table. -/
def tableVerdict (table : FlowTable) : FlowMatch :=
  (classify pkt direction).answer (table.sweepIfDue now).find direction now

/-- Carry out a ruling. -/
def settle (ruling : Ruling) (pending : Option PendingFlow) : Proxy × Option Unit :=
  match ruling, pending with
  | .track _, some pending => p.admitWithTracking pending
  | ruling, _ => (p, ruling.untracked)

/-- Outbound policy lets a packet through by an allow or by its fallbacks. -/
theorem ruling_fromVm
    (h : p.ruling crates .fromVm pkt ≠ .reject) :
    p.rules.packetAction pkt .outbound = some .allow ∨
      p.rules.packetAction pkt .outbound = none ∧
        (crates.isGlobal pkt.dstAddr = true ∨ pkt.dstAddr = p.host.gatewayIp) := by
  simp only [ruling, outboundRuling, Rules.policyDecision_eq] at h
  cases haction : p.rules.packetAction pkt .outbound with
  | none =>
      simp only [haction, Option.map_none] at h
      refine Or.inr ⟨rfl, ?_⟩
      by_contra hfallback
      exact h (if_neg hfallback)
  | some action =>
      cases action with
      | allow => exact Or.inl rfl
      | block => simp [haction] at h

/-- In stateful mode whatever the VM sends is tracked or dropped. -/
theorem ruling_fromVm_ne_pass
    (hmode : p.rules.mode = .stateful) :
    p.ruling crates .fromVm pkt ≠ .pass := by
  simp only [ruling, outboundRuling, Rules.policyDecision_eq, hmode]
  cases p.rules.packetAction pkt .outbound with
  | none =>
      dsimp only [Option.map_none]
      split <;> simp
  | some action => cases action <;> simp

/-- Inbound policy requires tracking of what it allows and passes what it ignores. -/
theorem ruling_fromHost
    (hflows : p.flows.isSome = p.rules.hasStateful)
    (htable : p.flows.isSome = true)
    (h : p.ruling crates .fromHost pkt ≠ .reject) :
    p.rules.packetAction pkt .inbound = some .allow ∧
        p.ruling crates .fromHost pkt = .track true ∨
      p.rules.packetAction pkt .inbound = none ∧
        p.ruling crates .fromHost pkt =
          if p.rules.isStateful pkt .outbound then .track false else .pass := by
  have hnone : p.flows.isNone = false := by
    simpa [Option.isSome_iff_ne_none] using htable
  have hmode : p.rules.mode = .stateful := by
    simpa [Rules.hasStateful] using hflows.symm.trans htable
  simp only [ruling, hnone, inboundRuling, Rules.policyDecision_eq] at h ⊢
  cases haction : p.rules.packetAction pkt .inbound with
  | none =>
      exact Or.inr ⟨rfl, by simp⟩
  | some action =>
      cases action with
      | allow => exact Or.inl ⟨rfl, by simp [hmode]⟩
      | block => simp [haction] at h

theorem outboundPolicy_eq
    (pending : Option PendingFlow) :
    p.outboundPolicy crates pkt pending =
      p.settle (p.outboundRuling crates pkt) pending := by
  unfold outboundPolicy outboundRuling
  cases p.rules.policyDecision pkt .outbound with
  | none =>
      by_cases hglobal : crates.isGlobal pkt.dstAddr = true <;>
        by_cases hgateway : pkt.dstAddr = p.host.gatewayIp <;>
          cases pending <;>
            simp [hglobal, hgateway, settle, admitWithTrackingIfTrackable,
              Ruling.untracked]
  | some decision =>
      cases decision with
      | block => rfl
      | allowStateful => cases pending <;> rfl
      | allowStateless =>
          by_cases hstateful : p.rules.isStateful pkt .inbound = true <;>
            cases pending <;>
              simp [hstateful, settle, admitWithTrackingIfStateful,
                admitWithTrackingIfTrackable, Ruling.untracked]

theorem inboundPolicy_eq
    (pending : Option PendingFlow) :
    p.inboundPolicy pkt pending = p.settle (p.inboundRuling pkt) pending := by
  unfold inboundPolicy inboundRuling
  cases p.rules.policyDecision pkt .inbound with
  | none =>
      by_cases hstateful : p.rules.isStateful pkt .outbound = true <;>
        cases pending <;>
          simp [hstateful, settle, admitWithTrackingIfStateful,
            admitWithTrackingIfTrackable, Ruling.untracked]
  | some decision =>
      cases decision with
      | block => rfl
      | allowStateless => rfl
      | allowStateful => cases pending <;> rfl

@[simp] theorem settle_none
    (ruling : Ruling) :
    p.settle ruling none = (p, ruling.untracked) := by
  cases ruling <;> rfl

theorem inspect_eq
    {t : FlowTable}
    (hflows : p.flows = some t) :
    p.inspect pkt direction now = (p.swept now t, tableVerdict direction pkt now t) := by
  simp only [inspect, hflows, inspectAt_eq, swept, tableVerdict]

/-- The ways a packet can be decided. -/
inductive Outcome : Proxy → Option Unit → Prop
  | screened
      (screened : p.screens direction destinationMac pkt = true) :
      Outcome p none
  | bypassed
      (unscreened : p.screens direction destinationMac pkt = false)
      (table : p.inspector direction pkt = none) :
      Outcome p (p.ruling crates direction pkt).untracked
  | returned
      {t : FlowTable}
      (unscreened : p.screens direction destinationMac pkt = false)
      (table : p.inspector direction pkt = some t)
      (verdict : tableVerdict direction pkt now t = .allowed) :
      Outcome (p.swept now t) (some ())
  | denied
      {t : FlowTable}
      (unscreened : p.screens direction destinationMac pkt = false)
      (table : p.inspector direction pkt = some t)
      (verdict : tableVerdict direction pkt now t = .denied) :
      Outcome (p.swept now t) none
  | untracked
      {t : FlowTable}
      (unscreened : p.screens direction destinationMac pkt = false)
      (table : p.inspector direction pkt = some t)
      (verdict : tableVerdict direction pkt now t = .untracked) :
      Outcome (p.swept now t) (p.ruling crates direction pkt).untracked
  | undisturbed
      {t : FlowTable} {pending : PendingFlow}
      (unscreened : p.screens direction destinationMac pkt = false)
      (table : p.inspector direction pkt = some t)
      (verdict : tableVerdict direction pkt now t = .candidate pending)
      (policy : ∀ required, p.ruling crates direction pkt ≠ .track required) :
      Outcome (p.swept now t) (p.ruling crates direction pkt).untracked
  | committed
      {t : FlowTable} {pending : PendingFlow} {required : Bool}
      (unscreened : p.screens direction destinationMac pkt = false)
      (table : p.inspector direction pkt = some t)
      (verdict : tableVerdict direction pkt now t = .candidate pending)
      (policy : p.ruling crates direction pkt = .track required)
      (stored : ((t.sweepIfDue now).commit pending).2 = true) :
      Outcome { p with flows := some ((t.sweepIfDue now).commit pending).1 } (some ())
  | refused
      {t : FlowTable} {pending : PendingFlow} {required : Bool}
      (unscreened : p.screens direction destinationMac pkt = false)
      (table : p.inspector direction pkt = some t)
      (verdict : tableVerdict direction pkt now t = .candidate pending)
      (policy : p.ruling crates direction pkt = .track required)
      (full : ((t.sweepIfDue now).commit pending).2 = false) :
      Outcome (p.swept now t) none

variable {crates p direction destinationMac pkt now}

theorem flows_of_inspector
    {t : FlowTable}
    (h : p.inspector direction pkt = some t) :
    p.flows = some t := by
  cases direction with
  | fromVm => exact h
  | fromHost =>
      unfold inspector at h
      dsimp only at h
      split at h
      · exact h
      · cases h

theorem screens_fromVm_eq_false_iff :
    p.screens .fromVm destinationMac pkt = false ↔
      (consumeDhcp pkt = false ∧ p.host.vmIp = pkt.srcAddr) ∧
        p.consumeDns destinationMac pkt = false := by
  simp [screens]

/-- A screened packet is dropped. -/
theorem decidePacket_of_screens
    (hscreen : p.screens direction destinationMac pkt = true) :
    p.decidePacket crates direction destinationMac pkt now = (p, none) := by
  cases direction with
  | fromVm =>
      simp only [screens, Bool.or_eq_true, bne_iff_ne] at hscreen
      simp only [decidePacket, allowedFromVmIpv4]
      rcases hscreen with (hdhcp | hspoofed) | hdns
      · simp [hdhcp]
      · simp [hspoofed]
      · simp [hdns]
  | fromHost =>
      simp only [screens] at hscreen
      simp [decidePacket, allowedFromHostIpv4, hscreen]

/-- A packet that no table inspects is left to the ruling. -/
theorem decidePacket_of_bypass
    (unscreened : p.screens direction destinationMac pkt = false)
    (table : p.inspector direction pkt = none) :
    p.decidePacket crates direction destinationMac pkt now =
      (p, (p.ruling crates direction pkt).untracked) := by
  cases direction with
  | fromVm =>
      obtain ⟨⟨hdhcp, hsource⟩, hdns⟩ := screens_fromVm_eq_false_iff.mp unscreened
      have hflows : p.flows = none := table
      simp [decidePacket, allowedFromVmIpv4, hdhcp, hsource, hdns, inspect, hflows,
        outboundPolicy_eq, ruling]
  | fromHost =>
      have hreply : isDhcpReply pkt = false := unscreened
      cases hflows : p.flows with
      | none =>
          simp [decidePacket, allowedFromHostIpv4, hreply, hflows, ruling, Ruling.untracked]
      | some t =>
          -- only packets to the reserved address are inspected
          have hdst : p.host.vmIp ≠ pkt.dstAddr := by
            intro hdst
            simp [inspector, hdst, hflows] at table
          simp [decidePacket, allowedFromHostIpv4, hreply, hflows, hdst, ruling,
            inboundPolicy_eq]

/-- A packet that is inspected is settled by the verdict of the table, or by the ruling. -/
theorem decidePacket_of_inspect
    {t : FlowTable}
    (unscreened : p.screens direction destinationMac pkt = false)
    (table : p.inspector direction pkt = some t) :
    p.decidePacket crates direction destinationMac pkt now =
      match tableVerdict direction pkt now t with
      | .allowed => (p.swept now t, some ())
      | .denied => (p.swept now t, none)
      | .candidate pending =>
          (p.swept now t).settle (p.ruling crates direction pkt) (some pending)
      | .untracked =>
          (p.swept now t).settle (p.ruling crates direction pkt) none := by
  have hflows := flows_of_inspector table
  cases direction with
  | fromVm =>
      obtain ⟨⟨hdhcp, hsource⟩, hdns⟩ := screens_fromVm_eq_false_iff.mp unscreened
      simp only [decidePacket, allowedFromVmIpv4, hdhcp, hsource, hdns,
        Bool.false_eq_true, if_false, if_true, inspect_eq _ _ _ _ hflows]
      cases tableVerdict .fromVm pkt now t <;>
        simp only [outboundPolicy_eq] <;> rfl
  | fromHost =>
      have hreply : isDhcpReply pkt = false := unscreened
      have hdst : p.host.vmIp = pkt.dstAddr := by
        by_contra hdst
        simp [inspector, hdst] at table
      have hruling : p.ruling crates .fromHost pkt = p.inboundRuling pkt := by
        simp [ruling, hflows]
      simp only [decidePacket, allowedFromHostIpv4, hreply, hflows, hdst, hruling,
        Option.isNone_some, Bool.false_eq_true, if_false, if_true,
        inspect_eq _ _ _ _ hflows]
      cases tableVerdict .fromHost pkt now t <;>
        simp only [inboundPolicy_eq] <;> rfl

/-- An inspected packet has one of the outcomes that follow an inspection. -/
theorem outcome_of_inspect
    {t : FlowTable}
    (unscreened : p.screens direction destinationMac pkt = false)
    (table : p.inspector direction pkt = some t) :
    Outcome crates p direction destinationMac pkt now
      (p.decidePacket crates direction destinationMac pkt now).1
      (p.decidePacket crates direction destinationMac pkt now).2 := by
  rw [decidePacket_of_inspect unscreened table]
  cases hverdict : tableVerdict direction pkt now t with
  | allowed => exact .returned unscreened table hverdict
  | denied => exact .denied unscreened table hverdict
  | untracked =>
      have huntracked : Outcome crates p direction destinationMac pkt now _ _ :=
        Outcome.untracked unscreened table hverdict
      simpa using huntracked
  | candidate pending =>
      have hundisturbed := fun policy =>
        (Outcome.undisturbed unscreened table hverdict policy :
          Outcome crates p direction destinationMac pkt now _ _)
      cases hruling : p.ruling crates direction pkt with
      | reject => simpa [settle, hruling] using hundisturbed
      | pass => simpa [settle, hruling] using hundisturbed
      | track required =>
          cases hstored : ((t.sweepIfDue now).commit pending).2 with
          | true =>
              have hcommitted := Outcome.committed unscreened table hverdict hruling hstored
              simpa [settle, admitWithTracking, swept, hstored] using hcommitted
          | false =>
              have hrefused := Outcome.refused unscreened table hverdict hruling hstored
              simpa [settle, admitWithTracking, swept, hstored,
                FlowTable.commit_refused hstored] using hrefused

/-- Every decision is one of the outcomes. -/
theorem decidePacket_outcome
    (crates : Crates)
    (p : Proxy)
    (direction : FlowDirection)
    (destinationMac : EthernetAddress)
    (pkt : Ipv4Packet)
    (now : Instant) :
    Outcome crates p direction destinationMac pkt now
      (p.decidePacket crates direction destinationMac pkt now).1
      (p.decidePacket crates direction destinationMac pkt now).2 := by
  cases hscreen : p.screens direction destinationMac pkt with
  | true =>
      rw [decidePacket_of_screens hscreen]
      exact .screened hscreen
  | false =>
      cases table : p.inspector direction pkt with
      | none =>
          rw [decidePacket_of_bypass hscreen table]
          exact .bypassed hscreen table
      | some t => exact outcome_of_inspect hscreen table

end Outcome

/-! ## The effect on the state -/

section Effect

variable {crates : Crates}
variable {p : Proxy}
variable {direction : FlowDirection}
variable {destinationMac : EthernetAddress}
variable {pkt : Ipv4Packet}
variable {now : Instant}

/-- The flow stored for a tuple, if there is a table. -/
def tracked (p : Proxy) (key : FlowKey) : Option Flow :=
  p.flows.bind (fun t => t.find key)

/-- The packet matches a live flow of the other side. -/
def IsReturnTraffic
    (p : Proxy)
    (direction : FlowDirection)
    (pkt : Ipv4Packet)
    (now : Instant) :
    Prop :=
  ∃ t, p.inspector direction pkt = some t ∧
    (t.inspectAt pkt direction now).2 = .allowed

/-- An inspection that commits nothing only loses expired entries. -/
theorem swept_lapses
    {t : FlowTable}
    (hflows : p.flows = some t)
    (key : FlowKey) :
    Lapses now (p.tracked key) ((p.swept now t).tracked key) := by
  simpa [Lapses, tracked, swept, hflows] using t.find_sweepIfDue now key

/-- What a commit stores is the packet's own tuple, direction and timeout. -/
theorem committed_flow
    {t : FlowTable} {pending : PendingFlow}
    (verdict : tableVerdict direction pkt now t = .candidate pending) :
    packetKey pkt direction = some pending.key ∧
      pending.flow = ⟨direction, now + packetTimeout pkt⟩ := by
  obtain ⟨probe, hclass, rfl, _⟩ := PacketClass.answer_candidate verdict
  have htracked := classify_eq_probe_iff.mp hclass
  exact ⟨packetKey_eq_some_iff.mpr ⟨probe, htracked, rfl⟩, by simp [htracked.timeout_eq]⟩

/-- The packet's flow was proposed, authorized and stored. -/
structure Commits
    (crates : Crates)
    (p : Proxy)
    (direction : FlowDirection)
    (destinationMac : EthernetAddress)
    (pkt : Ipv4Packet)
    (now : Instant)
    (pending : PendingFlow)
    (p' : Proxy) :
    Prop where
  unscreened : p.screens direction destinationMac pkt = false
  verdict : ∃ t, p.inspector direction pkt = some t ∧
    tableVerdict direction pkt now t = .candidate pending
  policy : ∃ required, p.ruling crates direction pkt = .track required
  stored : p'.tracked pending.key = some pending.flow
  others : ∀ key, key ≠ pending.key → Lapses now (p.tracked key) (p'.tracked key)

variable {p' : Proxy}
variable {verdict : Option Unit}

/-- A packet leaves the state alone, has the table swept, or stores a flow in addition. -/
theorem Outcome.state_cases
    (h : Outcome crates p direction destinationMac pkt now p' verdict) :
    p' = p ∨
      (∃ t, p.flows = some t ∧ p' = p.swept now t) ∨
      ∃ t pending required,
        verdict = some () ∧
        p.screens direction destinationMac pkt = false ∧
        p.inspector direction pkt = some t ∧
        tableVerdict direction pkt now t = .candidate pending ∧
        p.ruling crates direction pkt = .track required ∧
        ((t.sweepIfDue now).commit pending).2 = true ∧
        p' = { p with flows := some ((t.sweepIfDue now).commit pending).1 } := by
  cases h with
  | screened => exact Or.inl rfl
  | bypassed => exact Or.inl rfl
  | returned _ table => exact Or.inr (Or.inl ⟨_, flows_of_inspector table, rfl⟩)
  | denied _ table => exact Or.inr (Or.inl ⟨_, flows_of_inspector table, rfl⟩)
  | untracked _ table => exact Or.inr (Or.inl ⟨_, flows_of_inspector table, rfl⟩)
  | undisturbed _ table => exact Or.inr (Or.inl ⟨_, flows_of_inspector table, rfl⟩)
  | refused _ table => exact Or.inr (Or.inl ⟨_, flows_of_inspector table, rfl⟩)
  | committed unscreened table candidate policy stored =>
      exact Or.inr (Or.inr
        ⟨_, _, _, rfl, unscreened, table, candidate, policy, stored, rfl⟩)

/-- Nothing but the flow table changes, and a table neither appears nor goes. -/
theorem Outcome.frame
    (h : Outcome crates p direction destinationMac pkt now p' verdict) :
    ∃ flows, p' = { p with flows := flows } ∧ flows.isSome = p.flows.isSome := by
  rcases h.state_cases with rfl | ⟨t, hflows, rfl⟩ | ⟨t, _, _, _, _, table, _, _, _, rfl⟩
  · exact ⟨_, rfl, rfl⟩
  · exact ⟨_, rfl, by simp [hflows]⟩
  · exact ⟨_, rfl, by simp [flows_of_inspector table]⟩

/-- A packet loses expired entries only, unless it is admitted and its flow stored. -/
theorem Outcome.lapses_or_commits
    (h : Outcome crates p direction destinationMac pkt now p' verdict) :
    (∀ key, Lapses now (p.tracked key) (p'.tracked key)) ∨
      verdict = some () ∧
        ∃ pending, Commits crates p direction destinationMac pkt now pending p' := by
  rcases h.state_cases with rfl | ⟨t, hflows, rfl⟩ |
    ⟨t, pending, required, hadmitted, unscreened, table, candidate, policy, stored, rfl⟩
  · exact Or.inl fun _ => Or.inl rfl
  · exact Or.inl (swept_lapses hflows)
  · refine Or.inr ⟨hadmitted, pending, unscreened, ⟨t, table, candidate⟩,
      ⟨required, policy⟩, ?_, ?_⟩
    · simp [tracked, FlowTable.find_commit stored]
    · intro key hkey
      have hflows := flows_of_inspector table
      simpa [Lapses, tracked, hflows, FlowTable.find_commit stored, hkey]
        using t.find_sweepIfDue now key

/-- The table stays within its bound. -/
theorem Outcome.len_le
    (h : Outcome crates p direction destinationMac pkt now p' verdict)
    (hbound : ∀ t, p.flows = some t → t.len ≤ maxFlows)
    (t' : FlowTable)
    (hflows : p'.flows = some t') :
    t'.len ≤ maxFlows := by
  have hswept : ∀ t, p.flows = some t → (t.sweepIfDue now).len ≤ maxFlows := fun t hflows =>
    (t.len_sweepIfDue_le now).trans (hbound t hflows)
  rcases h.state_cases with rfl | ⟨t, hold, rfl⟩ | ⟨t, _, _, _, _, table, _, _, _, rfl⟩
  · exact hbound t' hflows
  · cases hflows
    exact hswept t hold
  · cases hflows
    exact FlowTable.len_commit_le (hswept t (flows_of_inspector table)) _

/-- Return traffic never renews a flow. -/
theorem Outcome.lapses_of_return
    (h : Outcome crates p direction destinationMac pkt now p' verdict)
    (hreturn : p.IsReturnTraffic direction pkt now)
    (key : FlowKey) :
    Lapses now (p.tracked key) (p'.tracked key) := by
  rcases h.lapses_or_commits with hlapses | ⟨_, pending, hcommits⟩
  · exact hlapses key
  · obtain ⟨t, table, hallowed⟩ := hreturn
    obtain ⟨t', table', hcandidate⟩ := hcommits.verdict
    obtain rfl : t = t' := Option.some.inj (table.symm.trans table')
    rw [inspectAt_eq] at hallowed
    exact absurd (hcandidate.symm.trans hallowed) (by simp)

/--
Packets that are not admitted leave the state intact up to expired entries, and so
does return traffic; any other packet can in addition store its own tuple, with its
own direction and timeout.
-/
theorem packet_frame_effect
    (crates : Crates)
    (p : Proxy)
    (direction : FlowDirection)
    (destinationMac : EthernetAddress)
    (pkt : Ipv4Packet)
    (now : Instant) :
    let p' := (p.decidePacket crates direction destinationMac pkt now).1
    let verdict := (p.decidePacket crates direction destinationMac pkt now).2
    p'.rules = p.rules ∧ p'.allow = p.allow ∧ p'.block = p.block ∧
    p'.flows.isSome = p.flows.isSome ∧
    (verdict = none ∨ p.IsReturnTraffic direction pkt now →
      ∀ key, Lapses now (p.tracked key) (p'.tracked key)) ∧
    ((∀ key, Lapses now (p.tracked key) (p'.tracked key)) ∨
      ∃ own, packetKey pkt direction = some own ∧
        p'.tracked own = some ⟨direction, now + packetTimeout pkt⟩ ∧
        ∀ key, key ≠ own → Lapses now (p.tracked key) (p'.tracked key)) := by
  intro p' verdict
  have houtcome : Outcome crates p direction destinationMac pkt now p' verdict :=
    p.decidePacket_outcome crates direction destinationMac pkt now
  obtain ⟨flows, hframe, hpresent⟩ := houtcome.frame
  refine ⟨by rw [hframe], by rw [hframe], by rw [hframe], by rw [hframe]; exact hpresent,
    ?_, ?_⟩
  · rintro (hdropped | hreturn) key
    · rcases houtcome.lapses_or_commits with hlapses | ⟨hadmitted, _⟩
      · exact hlapses key
      · exact absurd (hdropped.symm.trans hadmitted) (by simp)
    · exact houtcome.lapses_of_return hreturn key
  · rcases houtcome.lapses_or_commits with hlapses | ⟨_, pending, hcommits⟩
    · exact Or.inl hlapses
    · obtain ⟨t, _, hcandidate⟩ := hcommits.verdict
      obtain ⟨hkey, hflow⟩ := committed_flow hcandidate
      exact Or.inr ⟨pending.key, hkey, hflow ▸ hcommits.stored, hcommits.others⟩

end Effect

end Proxy

end Softnet
