import Softnet.Dhcp.Reservation
import Softnet.Manager.Deployment
import Softnet.Proxy.Serving

/-!
# What a proxy puts on the wire

The runs of the loop of `lib/proxy/mod.rs`, by what they write.  The proxy has handled the
packets and commands that the loop took, in order, so what is known about its decisions holds
of every frame that the loop writes to either side.
-/

namespace Softnet

open Transition

section Runs

variable {crates : Crates}
variable {dhcpCrates : DhcpCrates}
variable {proxy : Proxy}
variable {subnetMask : Ipv4Address}
variable {searchDomains : List Name}
variable {start : Instant}
variable {history : List (Step Serving Turn)}
variable {s : Serving}

/-- What no event changes is the same throughout the loop. -/
theorem ServingRun.keeps
    {α : Type} {f : Proxy → α}
    (hf : ∀ p event, f (Proxy.handle crates p event) = f p)
    (run : ServingRun crates dhcpCrates proxy subnetMask searchDomains start history s) :
    f s.endpoint.proxy = f proxy := by
  refine run.2.invariant (I := fun s => f s.endpoint.proxy = f proxy) rfl ?_
  intro s turn s' hs hstep
  obtain ⟨steps, c, handled, habstracts, _⟩ :=
    hstep.simulated (c := ⟨s.endpoint.proxy, s.clock⟩) ⟨rfl, le_rfl⟩
  rw [← habstracts.proxy]
  refine handled.invariant (I := fun c => f c.proxy = f proxy) hs ?_
  intro c event c' hc hevent
  rw [hevent.proxy_eq, hf, hc]

/-- The loop serves the VM that it was started for. -/
theorem ServingRun.identity
    (run : ServingRun crates dhcpCrates proxy subnetMask searchDomains start history s) :
    s.endpoint.proxy.host = proxy.host ∧ s.endpoint.proxy.vmMacAddress = proxy.vmMacAddress :=
  ⟨run.keeps fun p event => (p.handle_identity crates event).1,
    run.keeps fun p event => (p.handle_identity crates event).2⟩

/-- The events that the proxy of the loop has handled, against what the loop took and wrote. -/
structure Trace
    (crates : Crates)
    (vmMacAddress : EthernetAddress)
    (history : List (Step Serving Turn))
    (s : Serving)
    (events : List (Step Clocked Event))
    (c : Clocked) :
    Prop where
  reaches : Reaches crates events c
  abstracts : s.Abstracts c
  labels : events.map (·.label) =
    produced (fun turn => turn.cause.events vmMacAddress) history
  recorded : ∀ before t after, events = before ++ t :: after →
    ∀ direction destinationMac pkt now,
    t.label = .packet direction destinationMac pkt now →
    (t.pre.proxy.decidePacket crates direction destinationMac pkt now).2 = some () →
    ∃ past u rest, history = past ++ u :: rest ∧
      before.map (·.label) = produced (fun turn => turn.cause.events vmMacAddress) past ∧
      u.label.cause.events vmMacAddress = [t.label] ∧
      u.label.Transmits pkt now direction

theorem Trace.snoc
    {vmMacAddress : EthernetAddress} {turn : Turn} {s' : Serving}
    {events : List (Step Clocked Event)} {c : Clocked}
    (h : Trace crates vmMacAddress history s events c)
    (simulated : Simulated crates c vmMacAddress turn s') :
    ∃ events c, Trace crates vmMacAddress (history ++ [⟨s, turn, s'⟩]) s' events c := by
  obtain ⟨steps, c', continued, habstracts, hlabels, hrecords⟩ := simulated
  refine ⟨events ++ steps, c', h.reaches.append continued, habstracts, ?_, ?_⟩
  · simp [h.labels, hlabels]
  · intro before t after hcut direction destinationMac pkt now hlabel hadmitted
    have hone : steps.length ≤ 1 := by
      rw [← List.length_map (·.label), hlabels]
      exact turn.cause.length_events_le vmMacAddress
    -- The event is the one of the last turn
    have hlast : before = events → steps = t :: after →
        ∃ past u rest, history ++ [⟨s, turn, s'⟩] = past ++ u :: rest ∧
          before.map (·.label) = produced (fun turn => turn.cause.events vmMacAddress) past ∧
          u.label.cause.events vmMacAddress = [t.label] ∧
          u.label.Transmits pkt now direction := by
      rintro rfl rfl
      obtain rfl : after = [] := by
        simpa using hone
      exact ⟨history, ⟨s, turn, s'⟩, [], rfl, h.labels, hlabels.symm, hrecords t
        (List.mem_singleton_self _) direction destinationMac pkt now hlabel hadmitted⟩
    rcases List.append_eq_append_iff.mp hcut with ⟨more, hbefore, hsteps⟩ | ⟨more, rfl, hrest⟩
    · obtain rfl : more = [] := by
        rw [hsteps] at hone
        simp only [List.length_append, List.length_cons] at hone
        exact List.length_eq_zero_iff.mp (by omega)
      exact hlast (by simpa using hbefore) hsteps
    · cases more with
      | nil => exact hlast (by simp) hrest.symm
      | cons first more =>
          cases hrest
          obtain ⟨past, u, rest, rfl, hbefore, hevents, htransmits⟩ :=
            h.recorded before t more rfl direction destinationMac pkt now hlabel hadmitted
          exact ⟨past, u, rest ++ [⟨s, turn, s'⟩], by simp, hbefore, hevents, htransmits⟩

theorem ServingRun.trace
    (run : ServingRun crates dhcpCrates proxy subnetMask searchDomains start history s) :
    ∃ events c, Trace crates proxy.vmMacAddress history s events c := by
  obtain ⟨fresh, taken⟩ := run
  induction taken with
  | nil =>
      exact ⟨[], ⟨proxy, start⟩, ⟨proxy, start, fresh, .nil⟩, ⟨rfl, le_rfl⟩, rfl, by simp⟩
  | snoc before step ih =>
      obtain ⟨events, c, htrace⟩ := ih
      have hsimulated := step.simulated htrace.abstracts
      rw [(ServingRun.identity ⟨fresh, before⟩).2] at hsimulated
      exact htrace.snoc hsimulated

/--
The loop refines the runs of its proxy.  Whatever the loop went through, its proxy has handled
exactly the IPv4 packets that were to be judged and the commands, in the order in which the
loop took them, and every packet that was let through was written to the other side in the very
turn that took it.
-/
theorem serving_refines_events
    (crates : Crates)
    (dhcpCrates : DhcpCrates)
    (proxy : Proxy)
    (subnetMask : Ipv4Address)
    (searchDomains : List Name)
    (start : Instant)
    (history : List (Step Serving Turn))
    (s : Serving)
    (run : ServingRun crates dhcpCrates proxy subnetMask searchDomains start history s) :
    ∃ events c, Reaches crates events c ∧
      c.proxy = s.endpoint.proxy ∧ c.clock ≤ s.clock ∧
      events.map (·.label) =
        produced (fun turn => turn.cause.events proxy.vmMacAddress) history ∧
      ∀ before t after, events = before ++ t :: after →
        ∀ direction destinationMac pkt now,
        t.label = .packet direction destinationMac pkt now →
        (t.pre.proxy.decidePacket crates direction destinationMac pkt now).2 = some () →
        ∃ past u rest, history = past ++ u :: rest ∧
          before.map (·.label) =
            produced (fun turn => turn.cause.events proxy.vmMacAddress) past ∧
          u.label.cause.events proxy.vmMacAddress = [t.label] ∧
          u.label.Transmits pkt now direction := by
  obtain ⟨events, c, htrace⟩ := run.trace
  exact ⟨events, c, htrace.reaches, htrace.abstracts.proxy, htrace.abstracts.clock,
    htrace.labels, htrace.recorded⟩

/-- In the small exchange, the proxy judged the request and then the reply. -/
theorem serving_refines_events_exchange :
    ∃ events c, Reaches plainCrates events c ∧
      events.map (·.label) =
        [.packet .fromVm 0 vmDatagram 5, .packet .fromHost 0x020000000002 hostDatagram 6] := by
  obtain ⟨events, c, hreaches, _, _, hlabels, _⟩ :=
    serving_refines_events plainCrates discoveringCrates askingVm 0xffffff00 [] 0 _ _
      (exchange_run (.ok ()))
  exact ⟨events, c, hreaches, hlabels⟩

end Runs

/-! ## Writes -/

section Writes

variable {crates : Crates}
variable {dhcpCrates : DhcpCrates}
variable {s s' : Serving}
variable {turn : Turn}

def Effect.isWrite : Effect → Bool
  | .toHost _ _ | .toVm _ _ => true
  | .report _ => false

/-- What is written when the loop takes something: at most one packet, for at most one reason. -/
inductive Written (crates : Crates) (dhcpCrates : DhcpCrates) (s : Serving) :
    Cause → List Effect → Prop
  | nothing
      {cause : Cause} :
      Written crates dhcpCrates s cause []
  | toHost
      {frame : EthernetFrame} {now : Instant} {answers : WriteAnswers}
      (later : s.clock ≤ now)
      (allowed : (s.endpoint.proxy.allowedFromVm crates frame now).2 = some ()) :
      Written crates dhcpCrates s (.vmFrame (some frame) now answers)
        [.toHost frame answers.host]
  | reply
      {frame : EthernetFrame} {now : Instant} {answers : WriteAnswers} {reply : VmPacket}
      (consumed : (s.endpoint.proxy.allowedFromVm crates frame now).2 = none)
      (sent : Endpoint.FrameReply dhcpCrates s.endpoint frame reply) :
      Written crates dhcpCrates s (.vmFrame (some frame) now answers)
        [.toVm reply answers.vm]
  | toVm
      {frame : EthernetFrame} {now : Instant} {answer peerAddr : Except IoError Unit}
      (later : s.clock ≤ now)
      (allowed : (s.endpoint.proxy.allowedFromHost frame now).2 = some ()) :
      Written crates dhcpCrates s (.hostFrame (some frame) now answer peerAddr)
        [.toVm (.frame frame) answer]

theorem filter_isWrite_reports (reports : List Report) :
    (reports.map Effect.report).filter Effect.isWrite = [] := by
  simp [List.filter_eq_nil_iff, Effect.isWrite]

theorem filter_isWrite_toVm
    (packet : VmPacket)
    (answer : Except IoError Unit)
    (reports : List Report) :
    (Effect.toVm packet answer :: reports.map .report).filter Effect.isWrite =
      [.toVm packet answer] := by
  rw [List.filter_cons_of_pos rfl, filter_isWrite_reports]

theorem Endpoint.VmOutcome.written
    {frame : EthernetFrame} {now : Instant} {answers : WriteAnswers}
    {result : Endpoint × List Effect × Except ProxyError Unit}
    (h : Endpoint.VmOutcome crates dhcpCrates s.endpoint frame now answers result)
    (later : s.clock ≤ now) :
    Written crates dhcpCrates s (.vmFrame (some frame) now answers)
      (result.2.1.filter Effect.isWrite) := by
  cases h with
  | dropped reports =>
      rw [filter_isWrite_reports]
      exact .nothing
  | forwarded allowed => exact .toHost later allowed
  | answered consumed sent named =>
      obtain ⟨_, ⟨reports, heffects⟩, _⟩ := Endpoint.sendReply_frame named
      rw [heffects, filter_isWrite_toVm]
      exact .reply (congrArg Prod.snd consumed) sent

theorem Endpoint.HostOutcome.written
    {frame : EthernetFrame} {now : Instant} {answer : Except IoError Unit}
    {result : Endpoint × List Effect × Except ProxyError Unit}
    (h : Endpoint.HostOutcome s.endpoint frame now answer result)
    (later : s.clock ≤ now)
    (peerAddr : Except IoError Unit) :
    Written crates dhcpCrates s (.hostFrame (some frame) now answer peerAddr)
      (result.2.1.filter Effect.isWrite) := by
  cases h with
  | dropped => exact .nothing
  | forwarded allowed written =>
      obtain ⟨_, ⟨reports, heffects⟩, _⟩ := written.frame
      rw [heffects, filter_isWrite_toVm]
      exact .toVm later allowed

theorem ServingStep.written
    (h : ServingStep crates dhcpCrates s turn s') :
    Written crates dhcpCrates s turn.cause (turn.effects.filter Effect.isWrite) := by
  cases h.outcome with
  | idle | command => exact .nothing
  | vm later taken =>
      obtain ⟨_, ⟨rfl, _, rfl⟩ | ⟨frame, result, rfl, outcome⟩⟩ := taken.cases
      · exact .nothing
      · exact outcome.written later
  | host later taken =>
      obtain ⟨_, ⟨rfl, _, rfl⟩ | ⟨frame, result, rfl, outcome⟩⟩ := taken.cases
      · exact .nothing
      · exact outcome.written later _

/-- The local servers never write a frame of the host. -/
theorem Endpoint.FrameReply.ne_frame
    {e : Endpoint} {frame other : EthernetFrame} {reply : VmPacket}
    (h : Endpoint.FrameReply dhcpCrates e frame reply) :
    reply ≠ .frame other := by
  cases h.reply <;> simp

theorem Effect.mem_filter_isWrite
    {effect : Effect} {effects : List Effect}
    (hmem : effect ∈ effects)
    (hwrite : effect.isWrite = true) :
    effect ∈ effects.filter Effect.isWrite :=
  List.mem_filter.mpr ⟨hmem, hwrite⟩

/-- What is written to the host is the frame that was just taken from the VM, and was allowed. -/
theorem ServingStep.toHost
    {frame : EthernetFrame} {result : Except ErrorChain Unit}
    (h : ServingStep crates dhcpCrates s turn s')
    (written : .toHost frame result ∈ turn.effects) :
    ∃ now answers, turn.cause = .vmFrame (some frame) now answers ∧ s.clock ≤ now ∧
      (s.endpoint.proxy.allowedFromVm crates frame now).2 = some () := by
  have hwritten := h.written
  have hmem := Effect.mem_filter_isWrite written rfl
  generalize turn.effects.filter Effect.isWrite = writes at hwritten hmem
  generalize turn.cause = cause at hwritten
  cases hwritten with
  | nothing => cases hmem
  | toHost later allowed =>
      cases List.mem_singleton.mp hmem
      exact ⟨_, _, rfl, later, allowed⟩
  | reply => cases List.mem_singleton.mp hmem
  | toVm => cases List.mem_singleton.mp hmem

/-- A frame that is written to the VM was just taken from the host, and was allowed. -/
theorem ServingStep.toVm_frame
    {frame : EthernetFrame} {result : Except IoError Unit}
    (h : ServingStep crates dhcpCrates s turn s')
    (written : .toVm (.frame frame) result ∈ turn.effects) :
    ∃ now answer peerAddr, turn.cause = .hostFrame (some frame) now answer peerAddr ∧
      s.clock ≤ now ∧ (s.endpoint.proxy.allowedFromHost frame now).2 = some () := by
  have hwritten := h.written
  have hmem := Effect.mem_filter_isWrite written rfl
  generalize turn.effects.filter Effect.isWrite = writes at hwritten hmem
  generalize turn.cause = cause at hwritten
  cases hwritten with
  | nothing => cases hmem
  | toHost => cases List.mem_singleton.mp hmem
  | reply consumed sent =>
      cases List.mem_singleton.mp hmem
      exact absurd rfl sent.ne_frame
  | toVm later allowed =>
      cases List.mem_singleton.mp hmem
      exact ⟨_, _, _, rfl, later, allowed⟩

end Writes

/-! ## Both directions -/

section Directions

variable {crates : Crates}
variable {dhcpCrates : DhcpCrates}
variable {proxy : Proxy}
variable {subnetMask : Ipv4Address}
variable {searchDomains : List Name}
variable {start : Instant}
variable {history : List (Step Serving Turn)}
variable {s : Serving}

/-- An earlier turn of the loop wrote the request that this packet answers, not too long ago. -/
def AnswersWritten
    (before : List (Step Serving Turn))
    (direction : FlowDirection)
    (reply : Ipv4Packet)
    (now : Instant) :
    Prop :=
  ∃ u ∈ before, ∃ request sent,
    u.label.Transmits request sent direction ∧ Mirrors reply request ∧
    now < sent + packetTimeout request

theorem Trace.answersWritten
    {vmMacAddress : EthernetAddress} {events : List (Step Clocked Event)} {c : Clocked}
    {direction : FlowDirection} {reply : Ipv4Packet} {now : Instant}
    (h : Trace crates vmMacAddress history s events c)
    (answers : AnswersForwarded crates events direction reply now) :
    AnswersWritten history direction reply now := by
  obtain ⟨before, t, after, destinationMac, request, sent, key, hcut, hlabel, hadmitted,
    hmirrors, hlive, _⟩ := answers
  obtain ⟨past, u, rest, rfl, _, _, htransmits⟩ :=
    h.recorded before t after hcut direction destinationMac request sent hlabel hadmitted
  exact ⟨u, List.mem_append_right _ List.mem_cons_self, request, sent, htransmits, hmirrors, hlive⟩

/-- What a frame of the VM must be in order to be forwarded, before its packet is judged. -/
theorem Proxy.allowedFromVm_eq_some
    {p : Proxy} {frame : EthernetFrame} {now : Instant}
    (h : (p.allowedFromVm crates frame now).2 = some ()) :
    frame.srcAddr = p.vmMacAddress ∧
      (frame.ethertype = .arp ∧
          (∃ arpPkt operation sourceProtocolAddr,
            frame.arp = some arpPkt ∧
            arpPkt.repr = some (.ethernetIpv4 operation p.vmMacAddress sourceProtocolAddr) ∧
            (sourceProtocolAddr = p.host.vmIp ∨ sourceProtocolAddr = 0)) ∨
        frame.ethertype = .ipv4 ∧
          (p.allowedFromVmIpv4 crates frame.dstAddr frame.ipv4 now).2 = some ()) := by
  unfold Proxy.allowedFromVm at h
  split at h
  · cases h
  · next hsource =>
      refine ⟨not_not.mp hsource, ?_⟩
      split at h
      · next htype =>
          split at h
          · cases h
          · next arpPkt harp =>
              obtain ⟨operation, sourceProtocolAddr, hrepr, _, hown⟩ :=
                Proxy.vmArpAllowed_eq_some h
              exact .inl ⟨htype, arpPkt, operation, sourceProtocolAddr, harp, hrepr, hown⟩
      · next htype =>
          split at h
          · cases h
          · split at h
            · cases h
            · exact .inr ⟨htype, h⟩
      · cases h

/-- What an IPv4 packet of the host must be in order to be admitted. -/
theorem Reaches.ingress_ipv4
    {events : List (Step Clocked Event)} {c : Clocked} {pkt : Ipv4Packet} {now : Instant}
    (h : Reaches crates events c)
    (admitted : (c.proxy.allowedFromHostIpv4 pkt now).2 = some ()) :
    ¬ IsDhcpReply pkt ∧
      (c.proxy.flows = none ∨
        c.proxy.rules.packetAction pkt .inbound = some .allow ∨
        c.proxy.rules.packetAction pkt .inbound = none ∨
        pkt.dstAddr = c.proxy.host.vmIp ∧
          AnswersForwarded crates events .fromVm pkt now) := by
  have houtcome := c.proxy.decidePacket_outcome crates .fromHost 0 pkt now
  simp only [Proxy.decidePacket] at houtcome
  rw [admitted] at houtcome
  obtain ⟨unscreened, hcause⟩ := houtcome.admitted
  refine ⟨fun hreply => ?_, ?_⟩
  · simp [Proxy.screens, Proxy.isDhcpReply_iff.mpr hreply] at unscreened
  · rcases hcause with ⟨t, table, hallowed⟩ | hruling
    · exact .inr (.inr (.inr
        ⟨Proxy.dstAddr_of_inspector table, h.answersForwarded table hallowed⟩))
    · cases hflows : c.proxy.flows with
      | none => exact .inl rfl
      | some table =>
          rcases c.proxy.ruling_fromHost crates pkt h.wellFormed.mode (by simp [hflows])
            hruling with ⟨hallow, _⟩ | ⟨hnone, _⟩
          · exact .inr (.inl hallow)
          · exact .inr (.inr (.inl hnone))

/-- A frame that is written to the host was just taken from the VM and names the VM. -/
theorem ServingRun.egress_source
    {before after : List (Step Serving Turn)} {t : Step Serving Turn} {frame : EthernetFrame}
    {result : Except ErrorChain Unit}
    (run : ServingRun crates dhcpCrates proxy subnetMask searchDomains start history s)
    (hcut : history = before ++ t :: after)
    (written : .toHost frame result ∈ t.label.effects) :
    ∃ now answers, t.label.cause = .vmFrame (some frame) now answers ∧
      frame.srcAddr = proxy.vmMacAddress ∧
      (frame.ethertype = .arp ∧
          (∃ arpPkt operation sourceProtocolAddr,
            frame.arp = some arpPkt ∧
            arpPkt.repr =
              some (.ethernetIpv4 operation proxy.vmMacAddress sourceProtocolAddr) ∧
            (sourceProtocolAddr = proxy.host.vmIp ∨ sourceProtocolAddr = 0)) ∨
        frame.ethertype = .ipv4) := by
  obtain ⟨hbefore, hstep, _⟩ := run.2.split hcut
  obtain ⟨hhost, hmac⟩ := ServingRun.identity ⟨run.1, hbefore⟩
  obtain ⟨now, answers, hcause, _, hallowed⟩ := hstep.toHost written
  obtain ⟨hsource, hkind⟩ := Proxy.allowedFromVm_eq_some hallowed
  rw [hmac, hhost] at hkind
  exact ⟨now, answers, hcause, hsource.trans hmac, hkind.imp_right And.left⟩

/-- An IPv4 packet that is written to the host comes from the VM's address and is permitted. -/
theorem ServingRun.egress_ipv4
    {before after : List (Step Serving Turn)} {t : Step Serving Turn} {frame : EthernetFrame}
    {result : Except ErrorChain Unit} {now : Instant} {answers : WriteAnswers}
    (run : ServingRun crates dhcpCrates proxy subnetMask searchDomains start history s)
    (hcut : history = before ++ t :: after)
    (written : .toHost frame result ∈ t.label.effects)
    (hcause : t.label.cause = .vmFrame (some frame) now answers)
    (hipv4 : frame.ethertype = .ipv4) :
    frame.ipv4.srcAddr = proxy.host.vmIp ∧
      ¬ IsDhcpRequest frame.ipv4 ∧
      (t.pre.endpoint.proxy.rules.packetAction frame.ipv4 .outbound = some .allow ∨
        t.pre.endpoint.proxy.rules.packetAction frame.ipv4 .outbound = none ∧
          (crates.isGlobal frame.ipv4.dstAddr = true ∨
            frame.ipv4.dstAddr = proxy.host.gatewayIp) ∨
        AnswersWritten before .fromHost frame.ipv4 now) := by
  obtain ⟨hbefore, hstep, _⟩ := run.2.split hcut
  have hrun : ServingRun crates dhcpCrates proxy subnetMask searchDomains start before t.pre :=
    ⟨run.1, hbefore⟩
  obtain ⟨events, c, htrace⟩ := hrun.trace
  obtain ⟨_, _, hcause', _, hallowed⟩ := hstep.toHost written
  rw [hcause] at hcause'
  cases hcause'
  obtain ⟨_, ⟨harp, _⟩ | ⟨_, hadmitted⟩⟩ := Proxy.allowedFromVm_eq_some hallowed
  · rw [hipv4] at harp
    cases harp
  · rw [← htrace.abstracts.proxy] at hadmitted
    obtain ⟨hown, hdhcp, hpolicy⟩ := htrace.reaches.egress_ipv4 hadmitted
    rw [htrace.abstracts.proxy, hrun.identity.1] at hown hpolicy
    refine ⟨hown, hdhcp, ?_⟩
    rcases hpolicy with hallow | hdefault | hanswers
    · exact .inl hallow
    · exact .inr (.inl hdefault)
    · exact .inr (.inr (htrace.answersWritten hanswers))

/--
Egress on the wire.  Every frame that the loop writes to the host is the frame that it just
took from the VM.  It carries the VM's own addresses, is no DHCP request, and is allowed by the
outbound rules of that moment, or unmatched by them and bound for a global address or the
gateway, or answers a packet that the loop wrote to the VM before.
-/
theorem egress_on_the_wire
    (crates : Crates)
    (dhcpCrates : DhcpCrates)
    (proxy : Proxy)
    (subnetMask : Ipv4Address)
    (searchDomains : List Name)
    (start : Instant)
    (history : List (Step Serving Turn))
    (s : Serving)
    (run : ServingRun crates dhcpCrates proxy subnetMask searchDomains start history s)
    (before after : List (Step Serving Turn))
    (t : Step Serving Turn)
    (hcut : history = before ++ t :: after)
    (frame : EthernetFrame)
    (result : Except ErrorChain Unit)
    (written : .toHost frame result ∈ t.label.effects) :
    ∃ now answers, t.label.cause = .vmFrame (some frame) now answers ∧
      frame.srcAddr = proxy.vmMacAddress ∧
      (frame.ethertype = .arp ∧
          (∃ arpPkt operation sourceProtocolAddr,
            frame.arp = some arpPkt ∧
            arpPkt.repr =
              some (.ethernetIpv4 operation proxy.vmMacAddress sourceProtocolAddr) ∧
            (sourceProtocolAddr = proxy.host.vmIp ∨ sourceProtocolAddr = 0)) ∨
        frame.ethertype = .ipv4 ∧
          frame.ipv4.srcAddr = proxy.host.vmIp ∧
          ¬ IsDhcpRequest frame.ipv4 ∧
          (t.pre.endpoint.proxy.rules.packetAction frame.ipv4 .outbound = some .allow ∨
            t.pre.endpoint.proxy.rules.packetAction frame.ipv4 .outbound = none ∧
              (crates.isGlobal frame.ipv4.dstAddr = true ∨
                frame.ipv4.dstAddr = proxy.host.gatewayIp) ∨
            AnswersWritten before .fromHost frame.ipv4 now)) := by
  obtain ⟨now, answers, hcause, hsource, harp | hipv4⟩ := run.egress_source hcut written
  · exact ⟨now, answers, hcause, hsource, .inl harp⟩
  · exact ⟨now, answers, hcause, hsource, .inr ⟨hipv4, run.egress_ipv4 hcut written hcause hipv4⟩⟩

/-- The request of the small exchange carries the VM's address. -/
theorem egress_on_the_wire_exchange :
    .toHost (frameOfVm vmDatagram) (.ok ()) ∈ requestTaken.label.effects ∧
      vmDatagram.srcAddr = askingVm.host.vmIp ∧ ¬ IsDhcpRequest vmDatagram := by
  have hwritten : .toHost (frameOfVm vmDatagram) (.ok ()) ∈ requestTaken.label.effects :=
    List.mem_singleton_self _
  obtain ⟨_, _, _, _, harp | ⟨_, hown, hdhcp, _⟩⟩ :=
    egress_on_the_wire plainCrates discoveringCrates askingVm 0xffffff00 [] 0 _ _
      (exchange_run (.ok ())) [] _ requestTaken rfl _ _ hwritten
  · cases harp.1
  · exact ⟨hwritten, hown, hdhcp⟩

/--
Ingress on the wire.  Every frame that the loop writes to the VM on behalf of the host is the
frame that it just took from the host: ARP, or an IPv4 packet that is no DHCP reply.  Under a
policy with a flow table, the packet is allowed or unmatched by the inbound rules of that
moment, or it is for the VM and answers a packet that the loop wrote to the host before.
-/
theorem ingress_on_the_wire
    (crates : Crates)
    (dhcpCrates : DhcpCrates)
    (proxy : Proxy)
    (subnetMask : Ipv4Address)
    (searchDomains : List Name)
    (start : Instant)
    (history : List (Step Serving Turn))
    (s : Serving)
    (run : ServingRun crates dhcpCrates proxy subnetMask searchDomains start history s)
    (before after : List (Step Serving Turn))
    (t : Step Serving Turn)
    (hcut : history = before ++ t :: after)
    (frame : EthernetFrame)
    (result : Except IoError Unit)
    (written : .toVm (.frame frame) result ∈ t.label.effects) :
    ∃ now answer peerAddr,
      t.label.cause = .hostFrame (some frame) now answer peerAddr ∧
      t.pre.clock ≤ now ∧
      (frame.ethertype = .arp ∨
        frame.ethertype = .ipv4 ∧ ¬ IsDhcpReply frame.ipv4 ∧
          (t.pre.endpoint.proxy.flows = none ∨
            t.pre.endpoint.proxy.rules.packetAction frame.ipv4 .inbound = some .allow ∨
            t.pre.endpoint.proxy.rules.packetAction frame.ipv4 .inbound = none ∨
            frame.ipv4.dstAddr = proxy.host.vmIp ∧
              AnswersWritten before .fromVm frame.ipv4 now)) := by
  obtain ⟨hbefore, hstep, _⟩ := run.2.split hcut
  have hrun : ServingRun crates dhcpCrates proxy subnetMask searchDomains start before t.pre :=
    ⟨run.1, hbefore⟩
  obtain ⟨hhost, _⟩ := hrun.identity
  obtain ⟨events, c, htrace⟩ := hrun.trace
  obtain ⟨now, answer, peerAddr, hcause, later, hallowed⟩ := hstep.toVm_frame written
  refine ⟨now, answer, peerAddr, hcause, later, ?_⟩
  by_cases hipv4 : frame.ethertype = .ipv4 ∧ frame.ipv4Parses = true
  · rw [Proxy.allowedFromHost_of_ipv4 crates _ hipv4, ← htrace.abstracts.proxy] at hallowed
    obtain ⟨hdhcp, hpolicy⟩ := htrace.reaches.ingress_ipv4 hallowed
    rw [htrace.abstracts.proxy, hhost] at hpolicy
    refine .inr ⟨hipv4.1, hdhcp, ?_⟩
    rcases hpolicy with hopen | hallow | hnone | ⟨hown, hanswers⟩
    · exact .inl hopen
    · exact .inr (.inl hallow)
    · exact .inr (.inr (.inl hnone))
    · exact .inr (.inr (.inr ⟨hown, htrace.answersWritten hanswers⟩))
  · exact .inl ((Proxy.allowedFromHost_of_not_ipv4 hipv4 _).2 hallowed)

/-- The reply of the small exchange passes an inbound block, since it answers the request. -/
theorem ingress_on_the_wire_exchange :
    requestTaken.post.endpoint.proxy.rules.packetAction hostDatagram .inbound = some .block ∧
      AnswersWritten (requestTaken :: replyRead) .fromVm hostDatagram 6 := by
  have hblock :
      requestTaken.post.endpoint.proxy.rules.packetAction hostDatagram .inbound =
        some .block := by
    decide
  refine ⟨hblock, ?_⟩
  obtain ⟨now, _, _, hcause, _, hkind⟩ :=
    ingress_on_the_wire plainCrates discoveringCrates askingVm 0xffffff00 [] 0 _ _
      (exchange_run (.ok ())) (requestTaken :: replyRead) [] (replyTaken (.ok ())) rfl
      (frameForVm hostDatagram) (.ok ()) (List.mem_singleton_self _)
  obtain rfl : 6 = now := (Cause.hostFrame.inj hcause).2.1
  rcases hkind with harp | ⟨_, _, hopen | hallow | hnone | ⟨_, hanswers⟩⟩
  · cases harp
  · cases hopen
  · cases hblock.symm.trans hallow
  · cases hblock.symm.trans hnone
  · exact hanswers

end Directions

/-! ## Order -/

section Order

variable {crates : Crates}
variable {dhcpCrates : DhcpCrates}
variable {s s' : Serving}
variable {turn : Turn}

/-- The frame that was taken from the VM. -/
def Turn.vmFrames (turn : Turn) : List EthernetFrame :=
  match turn.cause with
  | .vmFrame (some frame) _ _ => [frame]
  | _ => []

/-- The frame that was taken from the host. -/
def Turn.hostFrames (turn : Turn) : List EthernetFrame :=
  match turn.cause with
  | .hostFrame (some frame) _ _ _ => [frame]
  | _ => []

def Effect.frameToHost? : Effect → Option EthernetFrame
  | .toHost frame _ => some frame
  | _ => none

def Effect.frameToVm? : Effect → Option EthernetFrame
  | .toVm (.frame frame) _ => some frame
  | _ => none

/-- The frames that were written to the host. -/
def Turn.framesToHost (turn : Turn) : List EthernetFrame :=
  turn.effects.filterMap Effect.frameToHost?

/-- The frames of the host that were written to the VM. -/
def Turn.framesToVm (turn : Turn) : List EthernetFrame :=
  turn.effects.filterMap Effect.frameToVm?

/-- Only writes count. -/
theorem filterMap_filter_isWrite
    {f : Effect → Option EthernetFrame}
    (hreport : ∀ report, f (.report report) = none)
    (effects : List Effect) :
    (effects.filter Effect.isWrite).filterMap f = effects.filterMap f := by
  rw [List.filterMap_filter]
  refine List.filterMap_congr fun effect _ => ?_
  cases effect with
  | toHost => rfl
  | toVm => rfl
  | report report => simp [hreport]

theorem ServingStep.frames_sublist
    (h : ServingStep crates dhcpCrates s turn s') :
    turn.framesToHost.Sublist turn.vmFrames ∧ turn.framesToVm.Sublist turn.hostFrames := by
  have hwritten := h.written
  unfold Turn.framesToHost Turn.framesToVm Turn.vmFrames Turn.hostFrames
  rw [← filterMap_filter_isWrite (f := Effect.frameToHost?) (fun _ => rfl),
    ← filterMap_filter_isWrite (f := Effect.frameToVm?) (fun _ => rfl)]
  generalize turn.effects.filter Effect.isWrite = writes at hwritten
  generalize turn.cause = cause at hwritten
  cases hwritten with
  | nothing => exact ⟨List.nil_sublist _, List.nil_sublist _⟩
  | toHost => exact ⟨List.Sublist.refl _, List.Sublist.refl _⟩
  | @reply frame now answers reply consumed sent =>
      have hother : Effect.frameToVm? (.toVm reply answers.vm) = none := by
        unfold Effect.frameToVm?
        split
        · next hframe =>
            cases hframe
            exact absurd rfl sent.ne_frame
        · rfl
      refine ⟨List.nil_sublist _, ?_⟩
      simp [hother]
  | toVm => exact ⟨List.Sublist.refl _, List.Sublist.refl _⟩

/--
Frames keep their order and are never made up or repeated: what the loop writes to the host are
frames that it took from the VM, in that order, and the frames that it writes to the VM are
frames that it took from the host, in that order; and for one frame at most one packet is
written.
-/
theorem frames_keep_their_order
    (crates : Crates)
    (dhcpCrates : DhcpCrates)
    (start s : Serving)
    (history : List (Step Serving Turn))
    (run : Run (ServingStep crates dhcpCrates) start history s) :
    (produced Turn.framesToHost history).Sublist (produced Turn.vmFrames history) ∧
      (produced Turn.framesToVm history).Sublist (produced Turn.hostFrames history) ∧
      ∀ t ∈ history, (t.label.effects.filter Effect.isWrite).length ≤ 1 := by
  refine ⟨produced_sublist fun t ht => (run.step_of_mem ht).frames_sublist.1,
    produced_sublist fun t ht => (run.step_of_mem ht).frames_sublist.2, ?_⟩
  intro t ht
  have hwritten := (run.step_of_mem ht).written
  generalize t.label.effects.filter Effect.isWrite = writes at hwritten
  generalize t.label.cause = cause at hwritten
  cases hwritten <;> simp

/-- The small exchange writes one frame to each side. -/
theorem frames_keep_their_order_exchange :
    (produced Turn.framesToHost (exchange (.ok ()))).Sublist [frameOfVm vmDatagram] ∧
      (produced Turn.framesToVm (exchange (.ok ()))).Sublist [frameForVm hostDatagram] := by
  obtain ⟨htoHost, htoVm, _⟩ :=
    frames_keep_their_order plainCrates discoveringCrates _ _ _ (exchange_run (.ok ())).2
  exact ⟨htoHost, htoVm⟩

end Order

/-! ## Replies of the local servers -/

section Replies

variable {crates : Crates}
variable {dhcpCrates : DhcpCrates}
variable {s s' : Serving}
variable {turn : Turn}

/-- No step exchanges the DHCP server. -/
theorem ServingStep.dhcpServer_eq
    (h : ServingStep crates dhcpCrates s turn s') :
    s'.endpoint.dhcpServer = s.endpoint.dhcpServer := by
  cases h.outcome with
  | idle _ same => rw [same]
  | command => rfl
  | vm later taken =>
      obtain ⟨_, ⟨_, hsame, _⟩ | ⟨frame, result, _, outcome⟩⟩ := taken.cases
      · rw [hsame]
      · exact outcome.dhcpServer_eq
  | host later taken =>
      obtain ⟨_, ⟨_, hsame, _⟩ | ⟨frame, result, _, outcome⟩⟩ := taken.cases
      · rw [hsame]
      · exact outcome.dhcpServer_eq

/-- The DHCP server of the loop is the one that it was started with. -/
theorem ServingRun.dhcpServer_eq
    {proxy : Proxy} {subnetMask : Ipv4Address} {searchDomains : List Name} {start : Instant}
    {history : List (Step Serving Turn)}
    (run : ServingRun crates dhcpCrates proxy subnetMask searchDomains start history s) :
    s.endpoint.dhcpServer = (Endpoint.new proxy subnetMask searchDomains).dhcpServer :=
  run.2.invariant (I := fun s => s.endpoint.dhcpServer =
    (Endpoint.new proxy subnetMask searchDomains).dhcpServer) rfl
    fun _ _ _ hs h => h.dhcpServer_eq.trans hs

theorem DhcpServer.destination_mac
    (server : DhcpServer)
    (request reply : Message) :
    (server.destination request reply).1 = server.vmMac ∨
      (server.destination request reply).1 = broadcastMac := by
  unfold DhcpServer.destination
  split
  · exact .inr rfl
  · split <;> exact .inl rfl

/-- Where a DHCP reply comes from and where it goes. -/
theorem DhcpServer.frame_of_receiveVm
    {server : DhcpServer} {ip : Ipv4Packet} {udp : UdpPacket} {reply : UdpFrame}
    (h : server.receiveVm dhcpCrates ip udp = .ok (some reply)) :
    reply.sourceMac = dhcpServerMac ∧ reply.sourceIp = server.gatewayIp ∧
      (reply.destinationMac = server.vmMac ∨ reply.destinationMac = broadcastMac) ∧
      reply.sourcePort = serverPort ∧ reply.destinationPort = clientPort := by
  unfold DhcpServer.receiveVm at h
  split at h
  · cases h
  · split at h
    · cases h
    · split at h
      · cases h
      · next request _ =>
          split at h
          · cases h
          · split at h
            · cases h
            · next message _ =>
                have hmac := server.destination_mac request message
                generalize server.destination request message = destination at h hmac
                obtain ⟨packet, hencoded, hpacket⟩ := Except.bind_eq_ok_iff.mp h
                obtain ⟨payload, _, hframe⟩ := Except.bind_eq_ok_iff.mp hencoded
                cases hpacket
                cases hframe
                exact ⟨rfl, rfl, hmac, rfl, rfl⟩

/-- A packet that is written to the VM and is no frame of the host answers the VM. -/
theorem ServingStep.toVm_reply
    {packet : VmPacket} {result : Except IoError Unit}
    (h : ServingStep crates dhcpCrates s turn s')
    (written : .toVm packet result ∈ turn.effects)
    (unforwarded : ∀ frame, packet ≠ .frame frame) :
    ∃ frame now answers, turn.cause = .vmFrame (some frame) now answers ∧
      Endpoint.FrameReply dhcpCrates s.endpoint frame packet ∧ turn.framesToHost = [] := by
  have hwritten := h.written
  have hmem := Effect.mem_filter_isWrite written rfl
  unfold Turn.framesToHost
  rw [← filterMap_filter_isWrite (f := Effect.frameToHost?) (fun _ => rfl)]
  generalize turn.effects.filter Effect.isWrite = writes at hwritten hmem
  generalize turn.cause = cause at hwritten
  cases hwritten with
  | nothing => cases hmem
  | toHost => cases List.mem_singleton.mp hmem
  | reply consumed sent =>
      cases List.mem_singleton.mp hmem
      exact ⟨_, _, _, rfl, sent, rfl⟩
  | toVm =>
      cases List.mem_singleton.mp hmem
      exact absurd rfl (unforwarded _)

/--
The VM is answered by its own servers only.  A packet that the loop writes to the VM and that
is no frame of the host answers the frame that was just taken from the VM, which is not
forwarded: a DHCP reply goes from the gateway's address to the VM or to everybody, and a DNS
reply is what the DNS server responded to a query of the VM's to the gateway.
-/
theorem local_replies_answer_the_vm
    (crates : Crates)
    (dhcpCrates : DhcpCrates)
    (proxy : Proxy)
    (subnetMask : Ipv4Address)
    (searchDomains : List Name)
    (start : Instant)
    (history : List (Step Serving Turn))
    (s : Serving)
    (run : ServingRun crates dhcpCrates proxy subnetMask searchDomains start history s)
    (t : Step Serving Turn)
    (ht : t ∈ history)
    (packet : VmPacket)
    (result : Except IoError Unit)
    (written : .toVm packet result ∈ t.label.effects)
    (unforwarded : ∀ frame, packet ≠ .frame frame) :
    ∃ frame now answers,
      t.label.cause = .vmFrame (some frame) now answers ∧
      frame.srcAddr = proxy.vmMacAddress ∧ t.label.framesToHost = [] ∧
      ((∃ reply, packet = .dhcpReply reply ∧ IsDhcpRequest frame.ipv4 ∧
          reply.sourceMac = dhcpServerMac ∧ reply.sourceIp = proxy.host.gatewayIp ∧
          (reply.destinationMac = proxy.vmMacAddress ∨ reply.destinationMac = broadcastMac) ∧
          reply.sourcePort = serverPort ∧ reply.destinationPort = clientPort) ∨
        ∃ bytes dnsServer udp, packet = .dnsReply bytes ∧
          t.pre.endpoint.proxy.dnsServer = some dnsServer ∧
          frame.ipv4.dstAddr = proxy.host.gatewayIp ∧
          frame.ipv4.payload.udpChecked = some udp ∧ udp.dstPort = dnsPort ∧
          dnsServer.respond proxy.vmMacAddress frame.dstAddr frame.ipv4 udp
            proxy.host.maxPacketSize = .ok (some bytes)) := by
  obtain ⟨before, after, hcut⟩ := List.append_of_mem ht
  obtain ⟨hbefore, hstep, _⟩ := run.2.split hcut
  have hrun : ServingRun crates dhcpCrates proxy subnetMask searchDomains start before t.pre :=
    ⟨run.1, hbefore⟩
  obtain ⟨hhost, hmac⟩ := hrun.identity
  obtain ⟨frame, now, answers, hcause, hreply, hnot⟩ := hstep.toVm_reply written unforwarded
  refine ⟨frame, now, answers, hcause, hreply.srcAddr.trans hmac, hnot, ?_⟩
  cases hreply.reply with
  | dhcp consumed received =>
      rw [hrun.dhcpServer_eq] at received
      exact .inl ⟨_, rfl, Proxy.consumeDhcp_iff.mp consumed,
        DhcpServer.frame_of_receiveVm received⟩
  | dns configured asked checked port responded =>
      rw [hmac, hhost] at responded
      rw [hhost] at asked
      exact .inr ⟨_, _, _, rfl, configured, asked, checked, port, responded⟩

theorem Endpoint.consumeDhcp_of_reply
    {dhcpCrates : DhcpCrates} {e : Endpoint} {pkt : Ipv4Packet} {reply : UdpFrame}
    (shown : Proxy.showsUdpPorts pkt = true)
    (port : pkt.payload.udp.dstPort = serverPort)
    (received : e.dhcpServer.receiveVm dhcpCrates pkt pkt.payload.udp = .ok (some reply)) :
    e.consumeDhcp dhcpCrates pkt (.ok ()) =
      (e, [.toVm (.dhcpReply reply) (.ok ())], true) := by
  simp [consumeDhcp, shown, port, received, sendReply, writeToVm]

/-- A packet that the DHCP server takes goes no further. -/
theorem Endpoint.processFrameFromVm_of_consumed
    {dhcpCrates : DhcpCrates} {e e' : Endpoint} {frame : EthernetFrame} {answers : WriteAnswers}
    {effects : List Effect}
    (crates : Crates)
    (judged : frame.isJudged e.proxy.vmMacAddress = true)
    (consumed : e.consumeDhcp dhcpCrates frame.ipv4 answers.vm = (e', effects, true))
    (now : Instant) :
    e.processFrameFromVm crates dhcpCrates frame now answers = (e', effects, .ok ()) := by
  simp only [EthernetFrame.isJudged, Bool.and_eq_true, beq_iff_eq] at judged
  obtain ⟨⟨⟨hsource, htype⟩, hparses⟩, hheader⟩ := judged
  simp [processFrameFromVm, allowedFromVm, allowedFromVmIpv4, hsource, htype, hparses, hheader,
    consumed]

/-- A message to the DHCP servers, as the VM broadcasts it. -/
def broadcastPacket (bytes : List UInt8) : Ipv4Packet :=
  { (udpPacket 0 clientPort broadcastIp serverPort).withDatagram bytes with
    verifyChecksum := true }

/-- The offer that the discovery is answered with. -/
def discoveryOffer : Message :=
  askingVm.enterLoop.endpoint.dhcpServer.dueReply discovery .offer

theorem discovery_qualified (bytes : List UInt8) :
    askingVm.enterLoop.endpoint.dhcpServer.Qualified (broadcastPacket bytes) discovery where
  destination := .inl rfl
  opcode := rfl
  htype := rfl
  hlen := rfl
  chaddr := by decide
  direct := rfl
  selected := by
    rw [show discovery.serverId = none by decide]
    nofun

theorem discovery_due : askingVm.enterLoop.endpoint.dhcpServer.Due 0 discovery .offer :=
  .offer (by decide) rfl (by decide) (.inl rfl)

theorem processFrameFromVm_discovery
    {dhcpCrates : DhcpCrates} {bytes payload : List UInt8}
    (parses : ∀ ip udp, dhcpCrates.udpParses ip udp = true)
    (decoded : dhcpCrates.fromBytes bytes = some discovery)
    (encoded : dhcpCrates.toVec discoveryOffer = .ok payload) :
    askingVm.enterLoop.endpoint.processFrameFromVm plainCrates dhcpCrates
        (frameOfVm (broadcastPacket bytes)) 5 workingSockets =
      (askingVm.enterLoop.endpoint,
        [.toVm (.dhcpReply (askingVm.enterLoop.endpoint.dhcpServer.replyFrame
          (0x020000000002, 0x0a000002) payload)) (.ok ())], .ok ()) := by
  have hreceived : askingVm.enterLoop.endpoint.dhcpServer.receiveVm dhcpCrates
      (broadcastPacket bytes) (broadcastPacket bytes).payload.udp =
        .ok (some (askingVm.enterLoop.endpoint.dhcpServer.replyFrame
          (0x020000000002, 0x0a000002) payload)) := by
    have hdestination : askingVm.enterLoop.endpoint.dhcpServer.destination discovery
        discoveryOffer = (0x020000000002, 0x0a000002) := by
      decide
    have hintact : DhcpServer.Intact dhcpCrates (broadcastPacket bytes)
        (broadcastPacket bytes).payload.udp :=
      ⟨rfl, rfl, ⟨rfl, rfl⟩, parses _ _⟩
    have hreceived := DhcpServer.receiveVm_of_due hintact decoded (discovery_qualified bytes)
      discovery_due
    rw [← discoveryOffer, encoded, hdestination] at hreceived
    exact hreceived
  have hshown : Proxy.showsUdpPorts (broadcastPacket bytes) = true := by
    have hports : 4 ≤ (broadcastPacket bytes).payload.len := Nat.le_trans (by decide)
      (Nat.le_add_right 8 bytes.length)
    exact Bool.and_eq_true_iff.mpr ⟨rfl, decide_eq_true hports⟩
  have hconsumed : askingVm.enterLoop.endpoint.consumeDhcp dhcpCrates
      (frameOfVm (broadcastPacket bytes)).ipv4 workingSockets.vm = _ :=
    Endpoint.consumeDhcp_of_reply hshown rfl hreceived
  exact Endpoint.processFrameFromVm_of_consumed plainCrates rfl hconsumed 5

/-- The VM looks for a DHCP server. -/
def discoveryTaken : Step Serving Turn :=
  askingVm.enterLoop.takeFromVm (broadcastPacket discovery.octets) 5

/-- The discovery is answered with an offer. -/
theorem effects_discoveryTaken :
    discoveryTaken.label.effects =
      [.toVm (.dhcpReply (askingVm.enterLoop.endpoint.dhcpServer.replyFrame
        (0x020000000002, 0x0a000002) discoveryOffer.octets)) (.ok ())] := by
  have hparses : ∀ ip udp, discoveringCrates.udpParses ip udp = true := fun _ _ => rfl
  have hdecoded : discoveringCrates.fromBytes discovery.octets = some discovery := by
    simp [discoveringCrates]
  have hencoded : discoveringCrates.toVec discoveryOffer = .ok discoveryOffer.octets := by
    simp [discoveringCrates]
  have hprocessed := processFrameFromVm_discovery hparses hdecoded hencoded
  simp only [discoveryTaken, Serving.takeFromVm, Serving.afterVmFrame, hprocessed]

/-- A discovery of the VM is answered in the gateway's name. -/
theorem local_replies_answer_the_vm_discovery :
    ∃ reply, .toVm (.dhcpReply reply) (.ok ()) ∈ discoveryTaken.label.effects ∧
      discoveryTaken.label.framesToHost = [] ∧ reply.sourceIp = askingVm.host.gatewayIp := by
  have run : ServingRun plainCrates discoveringCrates askingVm 0xffffff00 [] 0
      [discoveryTaken] discoveryTaken.post :=
    ⟨askingVm_fresh, Serving.run_takeFromVm rfl _ (Nat.zero_le _)⟩
  obtain ⟨reply, hreply⟩ : ∃ reply, .toVm (.dhcpReply reply) (.ok ()) ∈
      discoveryTaken.label.effects := by
    rw [effects_discoveryTaken]
    exact ⟨_, List.mem_singleton_self _⟩
  obtain ⟨_, _, _, _, _, hunforwarded, ⟨_, hpacket, _, _, hsource, _⟩ | ⟨_, _, _, hpacket, _⟩⟩ :=
    local_replies_answer_the_vm plainCrates discoveringCrates askingVm 0xffffff00 [] 0 _ _ run
      discoveryTaken (List.mem_singleton_self _) _ _ hreply (by simp)
  · cases hpacket
    exact ⟨_, hreply, hunforwarded, hsource⟩
  · cases hpacket

end Replies

end Softnet
