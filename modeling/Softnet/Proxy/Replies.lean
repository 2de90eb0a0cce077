import Softnet.Proxy.ReturnTraffic

/-!
# Replies reach the side that asked

A packet that proposed a flow and was admitted has its reply admitted as well,
as long as the flow lives and nothing else happens on its tuple.  The rules of the
return direction cannot drop such a reply: whether a flow is tracked is decided by
the same search that would judge the reply.
-/

namespace Softnet

section Replies

variable {crates : Crates}
variable {reply request : Ipv4Packet}

/-- A packet with the given tuple. -/
def OnTuple (key : FlowKey) (u : Transition.Step Clocked Event) : Prop :=
  ∃ direction destinationMac pkt now,
    u.label = .packet direction destinationMac pkt now ∧
      packetKey pkt direction = some key

/-- The flow table has no room for a new tuple, even after sweeping. -/
def Proxy.Full (p : Proxy) (now : Instant) : Prop :=
  ∃ t, p.flows = some t ∧ maxFlows ≤ (t.sweepIfDue now).len

/-! ## The return direction -/

/-- The ports of a reply are those of its request, swapped. -/
theorem Mirrors.packetPorts_eq
    (h : Mirrors reply request) :
    packetPorts reply = (packetPorts request).map Prod.swap := by
  obtain ⟨replyWhole, requestWhole, hprotocol, _, _, htransport⟩ := h
  generalize hheader : request.nextHeader = protocol at hprotocol htransport
  cases htransport with
  | tcp replyView requestView srcPort dstPort =>
      simp [packetPorts, replyWhole, requestWhole, hprotocol, hheader, replyView,
        requestView, srcPort, dstPort]
  | udp replyView requestView srcPort dstPort =>
      simp [packetPorts, replyWhole, requestWhole, hprotocol, hheader, replyView,
        requestView, srcPort, dstPort]
  | echo =>
      simp [packetPorts, replyWhole, requestWhole, hprotocol, hheader]

/-- Tracking is decided by the rule that would judge the reply. -/
theorem Rules.isStateful_eq_policyDecision_isSome
    {rules : Rules}
    (hmode : rules.mode = .stateful)
    (h : Mirrors reply request)
    (direction : Direction) :
    rules.isStateful request direction = (rules.policyDecision reply direction).isSome := by
  rw [Rules.policyDecision_eq, Option.isSome_map]
  cases direction <;>
    simp [Rules.isStateful, Rules.packetAction, hmode, h.srcAddr, h.dstAddr, h.protocol,
      h.packetPorts_eq, Function.comp_def]

/-- No DHCP reply answers a packet that got past the DHCP server. -/
theorem Mirrors.not_isDhcpReply
    (h : Mirrors reply request)
    (hrequest : Proxy.consumeDhcp request = false) :
    Proxy.isDhcpReply reply = false := by
  by_contra hreply
  rw [Bool.not_eq_false, Proxy.isDhcpReply_iff] at hreply
  obtain ⟨hudp, _, _, hsrc, _⟩ := hreply
  have hwhole := h.requestWhole
  have htransport := h.transport
  rw [← h.protocol, hudp] at htransport
  cases htransport with
  | @udp a b replyView requestView srcPort dstPort =>
      simp only [Payload.udpChecked, Option.ite_none_right_eq_some,
        Option.some.injEq] at replyView requestView
      obtain ⟨_, rfl⟩ := replyView
      obtain ⟨haccepted, rfl⟩ := requestView
      have hlen : udpHeaderLen ≤ request.payload.len := request.payload.udp_header haccepted
      have hdhcp : IsDhcpRequest request := by
        refine ⟨h.protocol.symm.trans hudp, ?_, le_trans (by decide) hlen,
          srcPort.symm.trans hsrc⟩
        simp only [Ipv4Packet.isFragment, Bool.or_eq_false_iff, bne_eq_false_iff_eq] at hwhole
        exact hwhole.2
      rw [← Proxy.consumeDhcp_iff, hrequest] at hdhcp
      cases hdhcp

/-! ## Nothing happens in between -/

/-- A quiet event: no change of policy and no packet on the tuple. -/
def Quiet (crates : Crates) (key : FlowKey) (u : Transition.Step Clocked Event) : Prop :=
  ¬ ChangesPolicy crates u ∧ ¬ OnTuple key u

/-- What a flow's origin leaves behind: the policy, the addresses, and the live flow. -/
structure Kept (p : Proxy) (key : FlowKey) (flow : Option Flow) (s : Clocked) : Prop where
  rules : s.proxy.rules = p.rules
  host : s.proxy.host = p.host
  flow : ∀ f, flow = some f → s.clock < f.expiresAt → s.proxy.tracked key = some f

theorem Kept.step
    {p : Proxy} {key : FlowKey} {flow : Option Flow}
    {u : Transition.Step Clocked Event}
    (hstep : EventStep crates u.pre u.label u.post)
    (hquiet : Quiet crates key u)
    (h : Kept p key flow u.pre) :
    Kept p key flow u.post := by
  obtain ⟨pre, event, post⟩ := u
  obtain ⟨hpolicy, htuple⟩ := hquiet
  dsimp only at hstep h ⊢
  cases hstep with
  | handle later =>
      cases event with
      | policyGet now =>
          exact ⟨h.rules, h.host, fun f hf hlive => h.flow f hf (later.trans_lt hlive)⟩
      | policySet order allow block now =>
          have hsame : (pre.proxy.policySet crates order allow block now).1 = pre.proxy := by
            unfold Proxy.policySet
            exact if_neg fun hchange => hpolicy ⟨order, allow, block, now, rfl, hchange⟩
          refine ⟨?_, ?_, ?_⟩
          · simpa [Proxy.handle, hsame] using h.rules
          · simpa [Proxy.handle, hsame] using h.host
          · intro f hf hlive
            simpa [Proxy.handle, hsame] using h.flow f hf (later.trans_lt hlive)
      | packet direction destinationMac pkt now =>
          have houtcome := pre.proxy.decidePacket_outcome crates direction destinationMac pkt now
          obtain ⟨flows, hframe, _⟩ := houtcome.frame
          refine ⟨?_, ?_, ?_⟩
          · simpa [Proxy.handle, hframe] using h.rules
          · simpa [Proxy.handle, hframe] using h.host
          · intro f hf hlive
            have hbefore := h.flow f hf (later.trans_lt hlive)
            have hlapses :
                Lapses now (pre.proxy.tracked key)
                  ((pre.proxy.decidePacket crates direction destinationMac pkt now).1.tracked
                    key) := by
              rcases houtcome.lapses_or_commits with hlapses | ⟨_, pending, hcommits⟩
              · exact hlapses key
              · refine hcommits.others key ?_
                rintro rfl
                obtain ⟨t, _, hcandidate⟩ := hcommits.verdict
                exact htuple ⟨direction, destinationMac, pkt, now, rfl,
                  (Proxy.committed_flow hcandidate).1⟩
            rcases hlapses with hsame | ⟨_, old, hold, hexpired⟩
            · exact hsame.trans hbefore
            · rw [hbefore] at hold
              cases hold
              exact absurd hlive (not_lt.mpr hexpired)

/-- A quiet stretch keeps the policy and every live flow of the tuple. -/
theorem Kept.run
    {p : Proxy} {key : FlowKey} {flow : Option Flow} {s s' : Clocked}
    {between : List (Transition.Step Clocked Event)}
    (h : Kept p key flow s)
    (run : Transition.Run (EventStep crates) s between s')
    (quiet : ∀ u ∈ between, Quiet crates key u) :
    Kept p key flow s' :=
  run.carry h fun u hu hstep hpre => hpre.step hstep (quiet u hu)

/-! ## Admission of the reply -/

section Admission

variable {p p' : Proxy}
variable {direction : FlowDirection}
variable {destinationMac : EthernetAddress}
variable {pkt : Ipv4Packet}
variable {now : Instant}
variable {t : FlowTable}
variable {pending : PendingFlow}

/-- The table that a packet is checked against settles what the table says of it. -/
theorem Proxy.tableVerdict_of_inspector
    {verdict : FlowMatch}
    (table : p.inspector direction pkt = some t)
    (settled : Proxy.tableVerdict direction pkt now t = verdict)
    {t' : FlowTable}
    (table' : p.inspector direction pkt = some t') :
    Proxy.tableVerdict direction pkt now t' = verdict := by
  obtain rfl : t = t' := Option.some.inj (table.symm.trans table')
  exact settled

/-- An admitted candidate is stored, unless policy has no use for its flow. -/
theorem Proxy.Outcome.candidate_admitted
    (h : Proxy.Outcome crates p direction destinationMac pkt now p' (some ()))
    (table : p.inspector direction pkt = some t)
    (candidate : Proxy.tableVerdict direction pkt now t = .candidate pending) :
    p'.tracked pending.key = some pending.flow ∨
      p.ruling crates direction pkt = .pass := by
  have hverdict {t' : FlowTable} (table' : p.inspector direction pkt = some t') :=
    Proxy.tableVerdict_of_inspector table candidate table'
  generalize hadmitted : some () = verdict at h
  cases h with
  | screened => cases hadmitted
  | denied => cases hadmitted
  | refused => cases hadmitted
  | bypassed _ table' => simp [table] at table'
  | returned _ table' other => simp [hverdict table'] at other
  | untracked _ table' other => simp [hverdict table'] at other
  | undisturbed _ _ _ policy =>
      cases hruling : p.ruling crates direction pkt with
      | reject => simp [hruling, Ruling.untracked] at hadmitted
      | pass => exact Or.inr rfl
      | track required => exact absurd hruling (policy required)
  | committed _ table' other _ stored =>
      obtain rfl : _ = pending := by
        simpa [hverdict table'] using other.symm
      exact Or.inl (by simp [Proxy.tracked, FlowTable.find_commit stored])

/-- Return traffic of a live flow is admitted. -/
theorem Proxy.decidePacket_of_allowed
    (unscreened : p.screens direction destinationMac pkt = false)
    (table : p.inspector direction pkt = some t)
    (allowed : Proxy.tableVerdict direction pkt now t = .allowed) :
    (p.decidePacket crates direction destinationMac pkt now).2 = some () := by
  rw [Proxy.decidePacket_of_inspect unscreened table, allowed]

/-- The reply to a stored flow is return traffic. -/
theorem Mirrors.tableVerdict_allowed
    {key : FlowKey} {flow : Flow}
    (h : Mirrors reply request)
    (hkey : packetKey request direction = some key)
    (stored : t.find key = some flow)
    (own : flow.initiatingDirection = direction)
    (live : now < flow.expiresAt) :
    Proxy.tableVerdict direction.opposite reply now t = .allowed := by
  obtain ⟨question, hquestion, rfl⟩ := packetKey_eq_some_iff.mp hkey
  obtain ⟨answer, hreply, hsame, hkind⟩ := h.tracked hquestion
  refine PacketClass.answer_eq_allowed_iff.mpr
    ⟨answer, flow, classify_eq_probe_iff.mpr hreply, hkind, ?_, live, ?_⟩
  · rw [hsame]
    exact FlowTable.find_sweepIfDue_of_live stored live
  · rw [own]
    cases direction <;> simp [FlowDirection.opposite]

/-- A tracked packet that the fallbacks let out is admitted while there is room. -/
theorem Proxy.decidePacket_of_fallback
    {probe : Probe}
    (htracked : Tracked pkt .fromVm probe)
    (unscreened : p.screens .fromVm destinationMac pkt = false)
    (policy : p.ruling crates .fromVm pkt = .track false)
    (room : ¬ p.Full now) :
    (p.decidePacket crates .fromVm destinationMac pkt now).2 = some () := by
  have houtcome := p.decidePacket_outcome crates .fromVm destinationMac pkt now
  generalize (p.decidePacket crates .fromVm destinationMac pkt now).1 = p' at houtcome
  generalize (p.decidePacket crates .fromVm destinationMac pkt now).2 = verdict at houtcome ⊢
  cases houtcome with
  | screened screened => simp [unscreened] at screened
  | bypassed => simp [policy, Ruling.untracked]
  | untracked => simp [policy, Ruling.untracked]
  | undisturbed _ _ _ policy' => exact absurd policy (policy' false)
  | returned => rfl
  | committed => rfl
  | denied _ _ denied =>
      simp only [Proxy.tableVerdict, classify_eq_probe_iff.mpr htracked,
        PacketClass.answer] at denied
      exact absurd denied (Probe.answer_ne_denied _ _ _)
  | @refused t' pending _ _ table _ _ full =>
      obtain ⟨_, hfull⟩ := (FlowTable.commit_eq_false_iff _ _).mp full
      exact absurd ⟨t', table, hfull⟩ room

/-- Without a rule, an address that is global or the gateway's is let out with a flow. -/
theorem Proxy.ruling_of_fallback
    (norule : p.rules.packetAction pkt .outbound = none)
    (covered : ¬ (crates.isGlobal pkt.dstAddr = false ∧ pkt.dstAddr ≠ p.host.gatewayIp)) :
    p.ruling crates .fromVm pkt = .track false := by
  simp only [Proxy.ruling, Proxy.outboundRuling, Rules.policyDecision_eq, norule,
    Option.map_none]
  refine if_pos ?_
  by_contra hneither
  obtain ⟨hglobal, hgateway⟩ := not_or.mp hneither
  exact covered ⟨by simpa using hglobal, hgateway⟩

/-- The reply to a flow that is still stored and alive is admitted. -/
theorem Mirrors.decidePacket_of_stored
    {key : FlowKey} {flow : Flow}
    (h : Mirrors reply request)
    (hkey : packetKey request direction = some key)
    (stored : p.tracked key = some flow)
    (own : flow.initiatingDirection = direction)
    (live : now < flow.expiresAt)
    (unscreened : p.screens direction.opposite destinationMac reply = false)
    (toVm : direction = .fromVm → reply.dstAddr = p.host.vmIp) :
    (p.decidePacket crates direction.opposite destinationMac reply now).2 = some () := by
  obtain ⟨t, hflows, hfind⟩ := Option.bind_eq_some_iff.mp stored
  have table : p.inspector direction.opposite reply = some t := by
    cases direction with
    | fromVm => simp [Proxy.inspector, FlowDirection.opposite, toVm rfl, hflows]
    | fromHost => exact hflows
  exact Proxy.decidePacket_of_allowed unscreened table (h.tableVerdict_allowed hkey hfind own live)

/-- Neither direction has a rule for an exchange that passes without a flow. -/
theorem Proxy.WellFormed.packetAction_eq_none_of_pass
    (hwf : p.WellFormed crates)
    (hflows : p.flows.isSome = true)
    (h : Mirrors reply request)
    (hpass : p.ruling crates .fromHost request = .pass) :
    p.rules.packetAction request .inbound = none ∧
      p.rules.packetAction reply .outbound = none := by
  have hmode : p.rules.mode = .stateful := by
    simpa [Rules.hasStateful] using hwf.mode.symm.trans hflows
  have hlet : p.ruling crates .fromHost request ≠ .reject := by
    rw [hpass]
    simp
  rcases p.ruling_fromHost crates request hwf.mode hflows hlet with
    ⟨_, htrack⟩ | ⟨hnone, hruling⟩
  · rw [hpass] at htrack
    cases htrack
  · refine ⟨hnone, ?_⟩
    rw [hpass] at hruling
    split at hruling
    · cases hruling
    · next hstateless =>
        rw [Rules.isStateful_eq_policyDecision_isSome hmode h, Rules.policyDecision_eq]
          at hstateless
        simpa using hstateless

/-- What keeps the VM's reply to a tracked packet from being screened. -/
theorem Mirrors.unscreened_fromVm
    (h : Mirrors reply request)
    (toVm : request.dstAddr = p.host.vmIp)
    (hdhcp : ¬ IsDhcpRequest reply)
    (hdns : ¬ p.consumeDns destinationMac reply = true) :
    p.screens .fromVm destinationMac reply = false := by
  rw [← Proxy.consumeDhcp_iff] at hdhcp
  simp only [Proxy.screens, Bool.or_eq_false_iff, bne_eq_false_iff_eq]
  refine ⟨⟨by simpa using hdhcp, ?_⟩, by simpa using hdns⟩
  rw [h.srcAddr, toVm]

/-- The reply to a packet of a tuple is tracked as well. -/
theorem Mirrors.exists_tracked
    {key : FlowKey}
    (h : Mirrors reply request)
    (hkey : packetKey request direction = some key) :
    ∃ answer, Tracked reply direction.opposite answer := by
  obtain ⟨question, hquestion, _⟩ := packetKey_eq_some_iff.mp hkey
  obtain ⟨answer, htracked, _⟩ := h.tracked hquestion
  exact ⟨answer, htracked⟩

end Admission

/--
Replies to admitted flows are not lost.  If a packet proposed a flow and was
admitted, and until its reply comes the policy stays and the tuple is left alone,
then the reply is admitted: always from the host; from the VM unless it goes to the
DHCP or DNS server, or neither direction has a rule for the exchange and the
fallbacks do not cover it or the table is full.
-/
theorem replies_are_admitted
    (crates : Crates)
    (history : List (Transition.Step Clocked Event))
    (s : Clocked)
    (h : Reaches crates history s)
    (direction : FlowDirection)
    (destinationMac : EthernetAddress)
    (request : Ipv4Packet)
    (sent : Instant)
    (t : FlowTable)
    (pending : PendingFlow)
    (table : s.proxy.inspector direction request = some t)
    (candidate : (t.inspectAt request direction sent).2 = .candidate pending)
    (admitted : (s.proxy.decidePacket crates direction destinationMac request sent).2 = some ())
    (between : List (Transition.Step Clocked Event))
    (s' : Clocked)
    (run : Transition.Run (EventStep crates)
      ⟨(s.proxy.decidePacket crates direction destinationMac request sent).1, sent⟩ between s')
    (quiet : ∀ u ∈ between, ¬ ChangesPolicy crates u ∧ ¬ OnTuple pending.key u)
    (reply : Ipv4Packet)
    (mirrors : Mirrors reply request)
    (replyMac : EthernetAddress)
    (now : Instant)
    (ordered : s'.clock ≤ now)
    (alive : now < sent + packetTimeout request) :
    (direction = .fromVm → (s'.proxy.allowedFromHostIpv4 reply now).2 = some ()) ∧
    (direction = .fromHost →
      (s'.proxy.allowedFromVmIpv4 crates replyMac reply now).2 = some () ∨
      IsDhcpRequest reply ∨
      s'.proxy.consumeDns replyMac reply = true ∨
      s.proxy.rules.packetAction request .inbound = none ∧
        s'.proxy.rules.packetAction reply .outbound = none ∧
        (crates.isGlobal reply.dstAddr = false ∧
            reply.dstAddr ≠ s'.proxy.host.gatewayIp ∨
          s'.proxy.Full now)) ∧
    s.proxy.rules.isStateful request direction.opposite.policy =
      (s'.proxy.rules.policyDecision reply direction.opposite.policy).isSome := by
  have hwf := h.wellFormed
  have hflows : s.proxy.flows.isSome = true := by
    simp [Proxy.flows_of_inspector table]
  have hmode : s.proxy.rules.mode = .stateful := by
    simpa [Rules.hasStateful] using hwf.mode.symm.trans hflows
  have houtcome := s.proxy.decidePacket_outcome crates direction destinationMac request sent
  rw [inspectAt_eq] at candidate
  obtain ⟨hkey, hflow⟩ := Proxy.committed_flow candidate
  obtain ⟨flows, hframe, _⟩ := houtcome.frame
  have unscreened : s.proxy.screens direction destinationMac request = false := by
    rw [admitted] at houtcome
    exact houtcome.admitted.1
  have hstored := (admitted ▸ houtcome).candidate_admitted table candidate
  have hkept : Kept s.proxy pending.key
      ((s.proxy.decidePacket crates direction destinationMac request sent).1.tracked pending.key)
      s' := by
    refine Kept.run ⟨?_, ?_, fun f hf _ => hf⟩ run quiet
    · simp [hframe]
    · simp [hframe]
  have hlive : now < pending.flow.expiresAt := by
    rw [hflow]
    exact alive
  have howner : pending.flow.initiatingDirection = direction := by
    rw [hflow]
  have hreply : ∀ mac,
      (s.proxy.decidePacket crates direction destinationMac request sent).1.tracked pending.key =
        some pending.flow →
      s'.proxy.screens direction.opposite mac reply = false →
      (s'.proxy.decidePacket crates direction.opposite mac reply now).2 = some () := by
    intro mac hstored hscreen
    refine mirrors.decidePacket_of_stored hkey
      (hkept.flow _ hstored (ordered.trans_lt hlive)) howner hlive hscreen ?_
    rintro rfl
    rw [mirrors.dstAddr, hkept.host]
    exact Proxy.srcAddr_of_unscreened unscreened
  refine ⟨?_, ?_, ?_⟩
  · rintro rfl
    have hdhcp : Proxy.consumeDhcp request = false := by
      simp only [Proxy.screens, Bool.or_eq_false_iff] at unscreened
      exact unscreened.1.1
    rcases hstored with hstored | hpass
    · exact hreply 0 hstored (mirrors.not_isDhcpReply hdhcp)
    · exact absurd hpass (s.proxy.ruling_fromVm_ne_pass crates request hmode)
  · rintro rfl
    by_cases hdhcp : IsDhcpRequest reply
    · exact Or.inr (Or.inl hdhcp)
    by_cases hdns : s'.proxy.consumeDns replyMac reply = true
    · exact Or.inr (Or.inr (Or.inl hdns))
    have hscreen : s'.proxy.screens .fromVm replyMac reply = false := by
      refine mirrors.unscreened_fromVm ?_ hdhcp hdns
      rw [hkept.host, Proxy.dstAddr_of_inspector table]
    rcases hstored with hstored | hpass
    · exact Or.inl (hreply replyMac hstored hscreen)
    · obtain ⟨hinbound, houtbound⟩ :=
        hwf.packetAction_eq_none_of_pass hflows mirrors hpass
      rw [← hkept.rules] at houtbound
      by_cases hexempt : crates.isGlobal reply.dstAddr = false ∧
          reply.dstAddr ≠ s'.proxy.host.gatewayIp ∨ s'.proxy.Full now
      · exact Or.inr (Or.inr (Or.inr ⟨hinbound, houtbound, hexempt⟩))
      · obtain ⟨hcovered, hroom⟩ := not_or.mp hexempt
        obtain ⟨answer, htracked⟩ := mirrors.exists_tracked hkey
        exact Or.inl (Proxy.decidePacket_of_fallback htracked hscreen
          (Proxy.ruling_of_fallback houtbound hcovered) hroom)
  · rw [hkept.rules]
    exact Rules.isStateful_eq_policyDecision_isSome hmode mirrors _

/-- The gateway's answer to the first request of the VM, before anything else happens. -/
theorem replies_are_admitted_askingVm :
    ((firstEvent askingVm (.packet .fromVm 0 vmDatagram 5)).post.proxy.allowedFromHostIpv4
      hostDatagram 6).2 = some () := by
  have hstart : Reaches plainCrates [] ⟨askingVm, 0⟩ :=
    ⟨askingVm, 0, askingVm_fresh, .nil⟩
  have hmirrors : Mirrors hostDatagram vmDatagram :=
    ⟨rfl, rfl, rfl, rfl, rfl, .udp rfl rfl rfl rfl⟩
  exact (replies_are_admitted plainCrates [] ⟨askingVm, 0⟩ hstart .fromVm 0 vmDatagram 5
    (FlowTable.new 0) ⟨.udp 0x0a000001 40000 0x0a000002 1234, ⟨.fromVm, 5 + udpTimeout⟩⟩
    (by rfl) (by decide) (by decide) [] _ .nil (by simp) hostDatagram hmirrors 0 6
    (by decide) (by decide)).1 rfl

end Replies

end Softnet
