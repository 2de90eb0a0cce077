import Softnet.Proxy.Runs

/-!
# Where return traffic comes from

A packet that the flow table lets through against the rules answers an earlier
packet of the other side.  That packet was forwarded in the run; the policy has
not changed since; its flow has not expired; and its tuple has not been taken
over by the side that now answers.

From this the two soundness results follow: what a frame from the VM and an IPv4
packet from the host must look like in order to be forwarded.
-/

namespace Softnet

/-! ## Mirrored packets -/

/-- The transport headers of a reply and of the request it answers. -/
inductive TransportMirrors (reply request : Payload) : IpProtocol → Prop
  | tcp
      {a b : TcpPacket}
      (replyView : reply.tcp = some a)
      (requestView : request.tcp = some b)
      (srcPort : a.srcPort = b.dstPort)
      (dstPort : a.dstPort = b.srcPort)
      (notOpening : a.isInitialSyn = false) :
      TransportMirrors reply request .tcp
  | udp
      {a b : UdpPacket}
      (replyView : reply.udpChecked = some a)
      (requestView : request.udpChecked = some b)
      (srcPort : a.srcPort = b.dstPort)
      (dstPort : a.dstPort = b.srcPort) :
      TransportMirrors reply request .udp
  | echo
      {a b : Icmpv4Packet}
      (replyView : reply.icmp = some a)
      (requestView : request.icmp = some b)
      (isReply : a.msgType = .echoReply ∧ a.msgCode = 0)
      (isRequest : b.msgType = .echoRequest ∧ b.msgCode = 0)
      (checksum : a.verifyChecksum = true)
      (ident : a.echoIdent = b.echoIdent) :
      TransportMirrors reply request .icmp

/--
Two unfragmented packets of one protocol with swapped addresses and ports, the
second no bare SYN; for an echo, a request and the reply with its identifier.
-/
structure Mirrors (reply request : Ipv4Packet) : Prop where
  replyWhole : reply.isFragment = false
  requestWhole : request.isFragment = false
  protocol : reply.nextHeader = request.nextHeader
  srcAddr : reply.srcAddr = request.dstAddr
  dstAddr : reply.dstAddr = request.srcAddr
  transport : TransportMirrors reply.payload request.payload request.nextHeader

section Mirroring

variable {reply request : Ipv4Packet}
variable {direction : FlowDirection}
variable {answer question : Probe}

/-- Two packets of opposite directions on one tuple mirror each other. -/
theorem Mirrors.of_key_eq
    (hreply : Tracked reply direction.opposite answer)
    (hrequest : Tracked request direction question)
    (hkey : answer.key = question.key)
    (hkind : answer.kind ≠ .opening)
    (hecho : ∀ echo, question.key.echoDirection = some echo → echo = direction) :
    Mirrors reply request := by
  have hprotocol : reply.nextHeader = request.nextHeader := by
    rw [← hreply.protocol_eq, ← hrequest.protocol_eq, hkey]
  have haddrs := hreply.addrs_eq.symm.trans (hkey ▸ hrequest.addrs_eq)
  have hports := hreply.ports_eq.symm.trans (hkey ▸ hrequest.ports_eq)
  rw [FlowDirection.hostVmPair_opposite, FlowDirection.hostVmPair_inj] at haddrs hports
  refine ⟨hreply.whole, hrequest.whole, hprotocol, haddrs.2, haddrs.1, ?_⟩
  cases hrequest with
  | tcp b bWhole bProtocol bView =>
      cases hreply with
      | tcp a aWhole aProtocol aView =>
          simp only [packetPorts, aWhole, aProtocol, aView, bWhole, bProtocol, bView] at hports
          rw [bProtocol]
          refine .tcp aView bView ?_ ?_ ?_
          · simpa using hports.2
          · simpa using hports.1
          · simpa using hkind
      | udp => simp_all
      | echoRequest => simp_all
      | echoReply => simp_all
  | udp b bWhole bProtocol bView =>
      cases hreply with
      | udp a aWhole aProtocol aView =>
          simp only [packetPorts, aWhole, aProtocol, aView, bWhole, bProtocol, bView] at hports
          rw [bProtocol]
          refine .udp aView bView ?_ ?_
          · simpa using hports.2
          · simpa using hports.1
      | tcp => simp_all
      | echoRequest => simp_all
      | echoReply => simp_all
  | echoRequest b bWhole bProtocol bView bChecksum isRequest =>
      cases hreply with
      | echoReply a aWhole aProtocol aView aChecksum isReply =>
          rw [bProtocol]
          refine .echo aView bView isReply isRequest aChecksum ?_
          cases direction <;>
            simp_all [FlowKey.ofIcmpEcho, FlowDirection.hostVmPair, FlowDirection.opposite]
      | echoRequest a =>
          cases direction <;>
            simp [FlowKey.ofIcmpEcho, FlowDirection.hostVmPair,
              FlowDirection.opposite] at hkey
      | tcp => simp_all
      | udp => simp_all
  | echoReply =>
      -- the table never restricts an echo tuple to the side that answers
      cases direction <;>
        simp [FlowKey.ofIcmpEcho, FlowDirection.hostVmPair, FlowDirection.opposite,
          FlowKey.echoDirection] at hecho

/-- A mirrored reply lies on the tuple of its request and does not open it anew. -/
theorem Mirrors.tracked
    (h : Mirrors reply request)
    (hrequest : Tracked request direction question) :
    ∃ answer, Tracked reply direction.opposite answer ∧
      answer.key = question.key ∧
      answer.kind ≠ .opening := by
  obtain ⟨hwhole, _, hprotocol, hsrc, hdst, htransport⟩ := h
  cases hrequest with
  | tcp b bWhole bProtocol bView bSrc bDst =>
      rw [bProtocol] at hprotocol htransport
      cases htransport with
      | @tcp a b' replyView requestView srcPort dstPort notOpening =>
          obtain rfl : b = b' := Option.some.inj (bView.symm.trans requestView)
          refine ⟨_, .tcp a hwhole hprotocol replyView (srcPort ▸ bDst) (dstPort ▸ bSrc),
            ?_, by simp [notOpening]⟩
          simp [FlowKey.ofTcp, hsrc, hdst, srcPort, dstPort]
  | udp b bWhole bProtocol bView bSrc bDst =>
      rw [bProtocol] at hprotocol htransport
      cases htransport with
      | @udp a b' replyView requestView srcPort dstPort =>
          obtain rfl : b = b' := Option.some.inj (bView.symm.trans requestView)
          refine ⟨_, .udp a hwhole hprotocol replyView (srcPort ▸ bDst) (dstPort ▸ bSrc),
            ?_, by simp⟩
          simp [FlowKey.ofUdp, hsrc, hdst, srcPort, dstPort]
  | echoRequest b bWhole bProtocol bView bChecksum bMessage =>
      rw [bProtocol] at hprotocol htransport
      cases htransport with
      | @echo a b' replyView requestView isReply isRequest checksum ident =>
          obtain rfl : b = b' := Option.some.inj (bView.symm.trans requestView)
          refine ⟨_, .echoReply a hwhole hprotocol replyView checksum isReply, ?_, by simp⟩
          cases direction <;>
            simp [FlowKey.ofIcmpEcho, FlowDirection.hostVmPair, FlowDirection.opposite,
              hsrc, hdst, ident]
  | echoReply b bWhole bProtocol bView bChecksum bMessage =>
      rw [bProtocol] at htransport
      cases htransport with
      | @echo a b' replyView requestView isReply isRequest checksum ident =>
          obtain rfl : b = b' := Option.some.inj (bView.symm.trans requestView)
          simp [bMessage.1] at isRequest

end Mirroring

/-! ## Origins -/

/-- A policy request that replaces the policy. -/
def ChangesPolicy (crates : Crates) (u : Transition.Step Clocked Event) : Prop :=
  ∃ order allow block now,
    u.label = .policySet order allow block now ∧
      (u.pre.proxy.allow ≠ normalizeRules crates allow ∨
        u.pre.proxy.block ≠ normalizeRules crates block)

/-- A packet of the given side that proposed a flow for the tuple and had it stored. -/
def CommitsTuple
    (key : FlowKey)
    (direction : FlowDirection)
    (u : Transition.Step Clocked Event) :
    Prop :=
  ∃ destinationMac pkt now t pending,
    u.label = .packet direction destinationMac pkt now ∧
      u.pre.proxy.inspector direction pkt = some t ∧
      (t.inspectAt pkt direction now).2 = .candidate pending ∧
      pending.key = key ∧
      u.post.proxy.tracked key = some pending.flow

/--
The packet answers a packet of the given side that was forwarded earlier: since
then the policy has not changed and no packet of the answering side took the tuple
over, and the flow is still alive.
-/
def AnswersForwarded
    (crates : Crates)
    (history : List (Transition.Step Clocked Event))
    (direction : FlowDirection)
    (reply : Ipv4Packet)
    (now : Instant) :
    Prop :=
  ∃ before t after destinationMac request sent key,
    history = before ++ t :: after ∧
    t.label = .packet direction destinationMac request sent ∧
    (t.pre.proxy.decidePacket crates direction destinationMac request sent).2 = some () ∧
    Mirrors reply request ∧
    now < sent + packetTimeout request ∧
    packetKey request direction = some key ∧
    ∀ u ∈ after, ¬ ChangesPolicy crates u ∧ ¬ CommitsTuple key direction.opposite u

section Origin

variable {crates : Crates}
variable {history : List (Transition.Step Clocked Event)}
variable {s s' : Clocked}
variable {key : FlowKey}
variable {flow : Flow}

/-- A policy request either changes nothing or clears every flow. -/
theorem Proxy.tracked_policySet
    (p : Proxy)
    (order : HashOrder)
    (allow block : List Rule)
    (now : Instant)
    (key : FlowKey) :
    (p.policySet crates order allow block now).1.tracked key =
      if p.allow ≠ normalizeRules crates allow ∨ p.block ≠ normalizeRules crates block then
        none
      else
        p.tracked key := by
  unfold Proxy.policySet Proxy.freshFlows
  dsimp only
  split
  · dsimp only [Proxy.tracked]
    split <;> simp
  · rfl

/-- The step that stores a flow is the packet that proposed it. -/
theorem EventStep.stores
    {event : Event}
    (hstep : EventStep crates s event s')
    (hbefore : s.proxy.tracked key ≠ some flow)
    (hafter : s'.proxy.tracked key = some flow) :
    ∃ destinationMac pkt now,
      event = .packet flow.initiatingDirection destinationMac pkt now ∧
      (s.proxy.decidePacket crates flow.initiatingDirection destinationMac pkt now).2 = some () ∧
      Proxy.Commits crates s.proxy flow.initiatingDirection destinationMac pkt now
        ⟨key, flow⟩ s'.proxy := by
  obtain ⟨_⟩ := hstep
  cases event with
  | policyGet now => exact absurd hafter hbefore
  | policySet order allow block now =>
      simp only [Proxy.handle, Proxy.tracked_policySet] at hafter
      split at hafter
      · cases hafter
      · exact absurd hafter hbefore
  | packet direction destinationMac pkt now =>
      have houtcome := s.proxy.decidePacket_outcome crates direction destinationMac pkt now
      simp only [Proxy.handle] at hafter ⊢
      have hkept :
          ¬ Lapses now (s.proxy.tracked key)
            ((s.proxy.decidePacket crates direction destinationMac pkt now).1.tracked key) := by
        rintro (hsame | ⟨hgone, _⟩)
        · exact hbefore (hsame ▸ hafter)
        · rw [hgone] at hafter
          cases hafter
      rcases houtcome.lapses_or_commits with hlapses | ⟨hadmitted, pending, hcommits⟩
      · exact absurd (hlapses key) hkept
      · obtain rfl : key = pending.key := by
          by_contra hkey
          exact hkept (hcommits.others key hkey)
        obtain rfl : pending.flow = flow :=
          Option.some.inj (hcommits.stored.symm.trans hafter)
        obtain ⟨t, _, hcandidate⟩ := hcommits.verdict
        have hdirection : pending.flow.initiatingDirection = direction := by
          rw [(Proxy.committed_flow hcandidate).2]
        rw [hdirection]
        exact ⟨destinationMac, pkt, now, rfl, hadmitted, hcommits⟩

/-- Every stored flow goes back to a forwarded packet of its initiating side. -/
theorem Reaches.origin
    (h : Reaches crates history s)
    (hflow : s.proxy.tracked key = some flow) :
    ∃ before t after destinationMac pkt now,
      history = before ++ t :: after ∧
      t.label = .packet flow.initiatingDirection destinationMac pkt now ∧
      (t.pre.proxy.decidePacket crates flow.initiatingDirection destinationMac pkt now).2 =
        some () ∧
      Proxy.Commits crates t.pre.proxy flow.initiatingDirection destinationMac pkt now
        ⟨key, flow⟩ t.post.proxy ∧
      ∀ u ∈ after,
        EventStep crates u.pre u.label u.post ∧
          u.pre.proxy.tracked key = some flow ∧
          u.post.proxy.tracked key = some flow := by
  obtain ⟨p, start, hfresh, run⟩ := h
  have hstart : p.tracked key ≠ some flow := by
    simp only [Proxy.tracked, hfresh.flows_eq.2, Proxy.freshFlows]
    split <;> simp
  obtain ⟨before, t, after, hcut, hlow, hhigh, hsince⟩ :=
    run.exists_rise (P := fun s => s.proxy.tracked key = some flow) hstart hflow
  obtain ⟨_, hstep, hafter⟩ := run.split hcut
  obtain ⟨destinationMac, pkt, now, hlabel, hadmitted, hcommits⟩ :=
    hstep.stores hlow hhigh
  exact ⟨before, t, after, destinationMac, pkt, now, hcut, hlabel, hadmitted, hcommits,
    fun u hu => ⟨hafter.step_of_mem hu, hsince u hu⟩⟩

/-- What the flow table lets through answers a packet forwarded earlier. -/
theorem Reaches.answersForwarded
    {direction : FlowDirection} {pkt : Ipv4Packet} {now : Instant} {t : FlowTable}
    (h : Reaches crates history s)
    (table : s.proxy.inspector direction pkt = some t)
    (verdict : Proxy.tableVerdict direction pkt now t = .allowed) :
    AnswersForwarded crates history direction.opposite pkt now := by
  obtain ⟨answer, flow, hclass, hkind, hfind, hlive, hother⟩ :=
    PacketClass.answer_eq_allowed_iff.mp verdict
  have hreply := classify_eq_probe_iff.mp hclass
  have hstored : s.proxy.tracked answer.key = some flow := by
    simpa [Proxy.tracked, Proxy.flows_of_inspector table] using
      FlowTable.find_of_find_sweepIfDue hfind
  have hdirection : flow.initiatingDirection = direction.opposite := by
    cases direction <;> cases hcase : flow.initiatingDirection <;>
      simp_all [FlowDirection.opposite]
  obtain ⟨before, u, after, destinationMac, request, sent, hcut, hlabel, hadmitted,
    hcommits, hsince⟩ := h.origin hstored
  rw [hdirection] at hlabel hadmitted hcommits
  obtain ⟨t', _, hcandidate⟩ := hcommits.verdict
  obtain ⟨hkey, hflow⟩ := Proxy.committed_flow hcandidate
  obtain ⟨question, hquestion, hpending, _⟩ := PacketClass.answer_candidate hcandidate
  have hrequest := classify_eq_probe_iff.mp hquestion
  have hsame : answer.key = question.key := congrArg PendingFlow.key hpending
  refine ⟨before, u, after, destinationMac, request, sent, answer.key, hcut, hlabel,
    hadmitted, ?_, ?_, hkey, ?_⟩
  · refine Mirrors.of_key_eq (by simpa using hreply) hrequest hsame hkind ?_
    intro echo hecho
    rw [← hsame] at hecho
    rw [← hdirection]
    exact ((h.wellFormed.authorized _ _ hstored).echo echo hecho).symm
  · have hexpiry : flow.expiresAt = sent + packetTimeout request :=
      congrArg Flow.expiresAt hflow
    rwa [← hexpiry]
  · intro v hv
    obtain ⟨hstep, _, hpost⟩ := hsince v hv
    constructor
    · rintro ⟨order, allow, block, time, hset, hchanged⟩
      rw [hstep.proxy_eq, hset] at hpost
      simp [Proxy.handle, Proxy.tracked_policySet, hchanged] at hpost
    · rintro ⟨mac, other, time, t'', pending, _, _, hproposed, _, htaken⟩
      rw [inspectAt_eq] at hproposed
      have hown := (Proxy.committed_flow hproposed).2
      rw [hpost, Option.some.injEq] at htaken
      rw [← htaken] at hown
      exact hother (by simpa using (congrArg Flow.initiatingDirection hown).symm)

end Origin

/-! ## Soundness -/

section Soundness

variable {crates : Crates}
variable {history : List (Transition.Step Clocked Event)}
variable {s : Clocked}

/-- A UDP packet with its ports in sight, sent to the DHCP server port. -/
def IsDhcpRequest (pkt : Ipv4Packet) : Prop :=
  pkt.nextHeader = .udp ∧ pkt.fragOffset = 0 ∧ 4 ≤ pkt.payload.len ∧
    pkt.payload.udp.dstPort = serverPort

/-- A UDP packet with its ports in sight, from the DHCP server to the client port. -/
def IsDhcpReply (pkt : Ipv4Packet) : Prop :=
  pkt.nextHeader = .udp ∧ pkt.fragOffset = 0 ∧ 4 ≤ pkt.payload.len ∧
    pkt.payload.udp.srcPort = serverPort ∧ pkt.payload.udp.dstPort = clientPort

/-- An admitted packet was let through by the table or by the ruling. -/
theorem Proxy.Outcome.admitted
    {p p' : Proxy} {direction : FlowDirection} {destinationMac : EthernetAddress}
    {pkt : Ipv4Packet} {now : Instant}
    (h : Proxy.Outcome crates p direction destinationMac pkt now p' (some ())) :
    p.screens direction destinationMac pkt = false ∧
      ((∃ t, p.inspector direction pkt = some t ∧
          Proxy.tableVerdict direction pkt now t = .allowed) ∨
        p.ruling crates direction pkt ≠ .reject) := by
  have hlet : ∀ ruling : Ruling, some () = ruling.untracked → ruling ≠ .reject := by
    rintro ruling hsome rfl
    cases hsome
  generalize hverdict : some () = verdict at h
  cases h with
  | screened => cases hverdict
  | denied => cases hverdict
  | refused => cases hverdict
  | bypassed unscreened => exact ⟨unscreened, Or.inr (hlet _ hverdict)⟩
  | untracked unscreened => exact ⟨unscreened, Or.inr (hlet _ hverdict)⟩
  | undisturbed unscreened => exact ⟨unscreened, Or.inr (hlet _ hverdict)⟩
  | returned unscreened table hallowed =>
      exact ⟨unscreened, Or.inl ⟨_, table, hallowed⟩⟩
  | committed unscreened _ _ policy =>
      exact ⟨unscreened, Or.inr (by rw [policy]; simp)⟩

theorem Proxy.showsUdpPorts_iff
    {pkt : Ipv4Packet} :
    Proxy.showsUdpPorts pkt = true ↔
      pkt.nextHeader = .udp ∧ pkt.fragOffset = 0 ∧ 4 ≤ pkt.payload.len := by
  simp [Proxy.showsUdpPorts, and_assoc]

theorem Proxy.consumeDhcp_iff
    {pkt : Ipv4Packet} :
    Proxy.consumeDhcp pkt = true ↔ IsDhcpRequest pkt := by
  simp [Proxy.consumeDhcp, Proxy.showsUdpPorts_iff, IsDhcpRequest, and_assoc]

theorem Proxy.isDhcpReply_iff
    {pkt : Ipv4Packet} :
    Proxy.isDhcpReply pkt = true ↔ IsDhcpReply pkt := by
  simp [Proxy.isDhcpReply, Proxy.showsUdpPorts_iff, IsDhcpReply, and_assoc]

theorem Proxy.vmArpAllowed_eq_some
    {arpPkt : ArpPacket} {vmMacAddress : EthernetAddress} {address : Ipv4Address}
    (h : Proxy.vmArpAllowed arpPkt vmMacAddress address = some ()) :
    ∃ operation sourceProtocolAddr,
      arpPkt.repr = some (.ethernetIpv4 operation vmMacAddress sourceProtocolAddr) ∧
      (operation = .request ∨ operation = .reply) ∧
      (sourceProtocolAddr = address ∨ sourceProtocolAddr = 0) := by
  unfold Proxy.vmArpAllowed at h
  split at h
  · cases h
  · cases h
  · next operation sourceHardwareAddr sourceProtocolAddr hrepr =>
      split at h
      · cases h
      · next hoperation =>
          split at h
          · cases h
          · next hhardware =>
              split at h
              · next hprotocol =>
                  rw [not_not.mp hhardware] at hrepr
                  exact ⟨operation, sourceProtocolAddr, hrepr, not_not.mp hoperation,
                    hprotocol⟩
              · cases h

/-- What an IPv4 packet from the VM must be in order to be admitted. -/
theorem Reaches.egress_ipv4
    {destinationMac : EthernetAddress} {pkt : Ipv4Packet} {now : Instant}
    (h : Reaches crates history s)
    (admitted :
      (s.proxy.allowedFromVmIpv4 crates destinationMac pkt now).2 = some ()) :
    pkt.srcAddr = s.proxy.host.vmIp ∧ ¬ IsDhcpRequest pkt ∧
      (s.proxy.rules.packetAction pkt .outbound = some .allow ∨
        s.proxy.rules.packetAction pkt .outbound = none ∧
          (crates.isGlobal pkt.dstAddr = true ∨
            pkt.dstAddr = s.proxy.host.gatewayIp) ∨
        AnswersForwarded crates history .fromHost pkt now) := by
  have houtcome := s.proxy.decidePacket_outcome crates .fromVm destinationMac pkt now
  rw [Proxy.decidePacket, admitted] at houtcome
  obtain ⟨unscreened, hcause⟩ := houtcome.admitted
  refine ⟨Proxy.srcAddr_of_unscreened unscreened, ?_, ?_⟩
  · simp only [Proxy.screens, Bool.or_eq_false_iff] at unscreened
    rw [← Proxy.consumeDhcp_iff]
    simp [unscreened.1.1]
  · rcases hcause with ⟨t, table, hallowed⟩ | hruling
    · exact Or.inr (Or.inr (h.answersForwarded table hallowed))
    · rcases s.proxy.ruling_fromVm crates pkt hruling with hallow | hdefault
      · exact Or.inl hallow
      · exact Or.inr (Or.inl hdefault)

/--
Egress is sound.  A frame that is forwarded to the host carries the VM's own
addresses, is no DHCP request, and is allowed by the outbound rules, or unmatched
by them and bound for a global address or the gateway, or live return traffic.
-/
theorem egress_sound
    (crates : Crates)
    (history : List (Transition.Step Clocked Event))
    (s : Clocked)
    (h : Reaches crates history s)
    (frame : EthernetFrame)
    (now : Instant)
    (forwarded : (s.proxy.allowedFromVm crates frame now).2 = some ()) :
    frame.srcAddr = s.proxy.vmMacAddress ∧
    (frame.ethertype = .arp ∧
        (∃ arpPkt operation sourceProtocolAddr,
          frame.arp = some arpPkt ∧
          arpPkt.repr =
            some (.ethernetIpv4 operation s.proxy.vmMacAddress sourceProtocolAddr) ∧
          (operation = .request ∨ operation = .reply) ∧
          (sourceProtocolAddr = s.proxy.host.vmIp ∨ sourceProtocolAddr = 0)) ∨
      frame.ethertype = .ipv4 ∧
        frame.ipv4.headerLen = 20 ∧
        frame.ipv4.srcAddr = s.proxy.host.vmIp ∧
        ¬ IsDhcpRequest frame.ipv4 ∧
        (s.proxy.rules.packetAction frame.ipv4 .outbound = some .allow ∨
          s.proxy.rules.packetAction frame.ipv4 .outbound = none ∧
            (crates.isGlobal frame.ipv4.dstAddr = true ∨
              frame.ipv4.dstAddr = s.proxy.host.gatewayIp) ∨
          AnswersForwarded crates history .fromHost frame.ipv4 now)) := by
  unfold Proxy.allowedFromVm at forwarded
  split at forwarded
  · cases forwarded
  · next hsource =>
      refine ⟨not_not.mp hsource, ?_⟩
      split at forwarded
      · next harp =>
          split at forwarded
          · cases forwarded
          · next arpPkt hview =>
              obtain ⟨operation, sourceProtocolAddr, hrepr⟩ :=
                Proxy.vmArpAllowed_eq_some forwarded
              exact Or.inl ⟨harp, arpPkt, operation, sourceProtocolAddr, hview, hrepr⟩
      · next hipv4 =>
          split at forwarded
          · cases forwarded
          · split at forwarded
            · cases forwarded
            · next hheader =>
                exact Or.inr ⟨hipv4, not_not.mp hheader, h.egress_ipv4 forwarded⟩
      · cases forwarded

/-- The VM answers the gateway against an outbound block. -/
theorem egress_sound_answer :
    let s := (firstEvent askedVm (.packet .fromHost 0 hostDatagram 5)).post
    let answer : EthernetFrame :=
      ⟨0x020000000002, 0, .ipv4, none, vmDatagram, true⟩
    s.proxy.rules.packetAction answer.ipv4 .outbound = some .block ∧
      AnswersForwarded plainCrates
        [firstEvent askedVm (.packet .fromHost 0 hostDatagram 5)] .fromHost answer.ipv4 6 := by
  intro s answer
  have hblock : s.proxy.rules.packetAction answer.ipv4 .outbound = some .block := by
    decide
  refine ⟨hblock, ?_⟩
  have hreached := reaches_firstEvent askedVm_fresh (.packet .fromHost 0 hostDatagram 5)
  obtain ⟨_, harp | ⟨_, _, _, _, hallow | ⟨hnone, _⟩ | hanswers⟩⟩ :=
    egress_sound plainCrates _ s hreached answer 6 (by decide)
  · cases harp.1
  · rw [hblock] at hallow
    cases hallow
  · rw [hblock] at hnone
    cases hnone
  · exact hanswers

/-- A directional rule in the policy gives the proxy a flow table. -/
theorem Proxy.WellFormed.flows_isSome_iff
    {p : Proxy}
    (hwf : p.WellFormed crates) :
    p.flows.isSome = true ↔ (p.allow ++ p.block).any Rule.isStateful = true := by
  obtain ⟨order, hrules⟩ := hwf.compiled
  rw [hwf.mode, hrules]
  simp only [Rules.hasStateful, Rules.new, policyMode]
  split <;> simp_all

/-- A host packet that passes without a flow is matched by no inbound rule. -/
theorem Proxy.packetAction_eq_none_of_untracked
    {p : Proxy} {pkt : Ipv4Packet}
    (hwf : p.WellFormed crates)
    (htable : p.flows.isSome = true)
    (h : some () = (p.ruling crates .fromHost pkt).untracked) :
    p.rules.packetAction pkt .inbound = none := by
  have hlet : p.ruling crates .fromHost pkt ≠ .reject := by
    intro hreject
    rw [hreject] at h
    cases h
  rcases p.ruling_fromHost crates pkt hwf.mode htable hlet with ⟨_, htrack⟩ | ⟨hnone, _⟩
  · rw [htrack] at h
    cases h
  · exact hnone

/--
Ingress is sound.  Under a policy with a directional rule, an IPv4 packet that is
admitted from the host is no DHCP reply, and its flow was allowed by the inbound
rules and is now stored, or no inbound rule matches it, or it is live return
traffic.
-/
theorem ingress_sound
    (crates : Crates)
    (history : List (Transition.Step Clocked Event))
    (s : Clocked)
    (h : Reaches crates history s)
    (directional : (s.proxy.allow ++ s.proxy.block).any Rule.isStateful = true)
    (pkt : Ipv4Packet)
    (now : Instant)
    (admitted : (s.proxy.allowedFromHostIpv4 pkt now).2 = some ()) :
    ¬ IsDhcpReply pkt ∧
    (s.proxy.rules.packetAction pkt .inbound = some .allow ∧
        pkt.dstAddr = s.proxy.host.vmIp ∧
        (∃ t pending, s.proxy.flows = some t ∧
          (t.inspectAt pkt .fromHost now).2 = .candidate pending) ∧
        (∃ key flow, packetKey pkt .fromHost = some key ∧
          (s.proxy.allowedFromHostIpv4 pkt now).1.tracked key = some flow ∧
          flow.initiatingDirection = .fromHost ∧
          now < flow.expiresAt) ∨
      s.proxy.rules.packetAction pkt .inbound = none ∨
      pkt.dstAddr = s.proxy.host.vmIp ∧
        AnswersForwarded crates history .fromVm pkt now) := by
  have hwf := h.wellFormed
  have htable := hwf.flows_isSome_iff.mpr directional
  have houtcome := s.proxy.decidePacket_outcome crates .fromHost 0 pkt now
  simp only [Proxy.decidePacket] at houtcome
  constructor
  · rw [admitted] at houtcome
    have hreply : Proxy.isDhcpReply pkt = false := houtcome.admitted.1
    rw [← Proxy.isDhcpReply_iff]
    simp [hreply]
  · generalize (s.proxy.allowedFromHostIpv4 pkt now).1 = p' at houtcome ⊢
    rw [admitted] at houtcome
    generalize hverdict : some () = verdict at houtcome
    cases houtcome with
    | screened => cases hverdict
    | denied => cases hverdict
    | refused => cases hverdict
    | bypassed =>
        exact Or.inr (Or.inl (Proxy.packetAction_eq_none_of_untracked hwf htable hverdict))
    | untracked =>
        exact Or.inr (Or.inl (Proxy.packetAction_eq_none_of_untracked hwf htable hverdict))
    | undisturbed =>
        exact Or.inr (Or.inl (Proxy.packetAction_eq_none_of_untracked hwf htable hverdict))
    | returned _ table hallowed =>
        exact Or.inr (Or.inr ⟨Proxy.dstAddr_of_inspector table, h.answersForwarded table hallowed⟩)
    | @committed t pending required _ table hcandidate policy stored =>
        have hlet : s.proxy.ruling crates .fromHost pkt ≠ .reject := by
          rw [policy]
          simp
        rcases s.proxy.ruling_fromHost crates pkt hwf.mode htable hlet with
          ⟨hallow, _⟩ | ⟨hnone, _⟩
        · obtain ⟨hkey, hflow⟩ := Proxy.committed_flow hcandidate
          refine Or.inl ⟨hallow, Proxy.dstAddr_of_inspector table,
            ⟨t, pending, Proxy.flows_of_inspector table, by rw [inspectAt_eq]; exact hcandidate⟩,
            pending.key, pending.flow, hkey, ?_, ?_, ?_⟩
          · simp [Proxy.tracked, FlowTable.find_commit stored]
          · rw [hflow]
          · exact PacketClass.expiresAt_of_candidate hcandidate
        · exact Or.inr (Or.inl hnone)

/-- The gateway answers the VM against an inbound block. -/
theorem ingress_sound_answer :
    let s := (firstEvent askingVm (.packet .fromVm 0 vmDatagram 5)).post
    s.proxy.rules.packetAction hostDatagram .inbound = some .block ∧
      AnswersForwarded plainCrates
        [firstEvent askingVm (.packet .fromVm 0 vmDatagram 5)] .fromVm hostDatagram 6 := by
  intro s
  have hblock : s.proxy.rules.packetAction hostDatagram .inbound = some .block := by
    decide
  refine ⟨hblock, ?_⟩
  have hreached := reaches_firstEvent askingVm_fresh (.packet .fromVm 0 vmDatagram 5)
  obtain ⟨_, ⟨hallow, _⟩ | hnone | ⟨_, hanswers⟩⟩ :=
    ingress_sound plainCrates _ s hreached (by decide) hostDatagram 6 (by decide)
  · rw [hblock] at hallow
    cases hallow
  · rw [hblock] at hnone
    cases hnone
  · exact hanswers

end Soundness

end Softnet
