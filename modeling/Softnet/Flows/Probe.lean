import Softnet.Flows.Table

/-!
# What a packet asks of the flow table

Inspection has two parts that the code interleaves: reading the packet, and
looking up its tuple.  `classify` is the first part alone.  It yields the tuple,
the timeout and the kind of question; `answer` is the second part, over any
lookup function.  `inspectAt_eq` says that inspection is one after the other, on
the swept table, and everything proved about verdicts goes through it.
-/

namespace Softnet

section Probe

/-- How a lookup is used. -/
inductive ProbeKind where
  /-- A bare SYN: proposed to policy whatever is stored. -/
  | opening
  /-- A UDP datagram or an echo request: proposed to policy if nothing is stored. -/
  | initiating
  /-- Other TCP segments and echo replies: untracked if nothing is stored. -/
  | following
deriving DecidableEq

/-- The tuple of a packet, the life of a flow it starts, and the kind of lookup. -/
structure Probe where
  key : FlowKey
  timeout : Duration
  kind : ProbeKind
deriving DecidableEq

/-- What inspection reads from a packet before it consults the table. -/
inductive PacketClass where
  | untracked
  | denied
  | probe (probe : Probe)
deriving DecidableEq

def classifyTcp (pkt : Ipv4Packet) (direction : FlowDirection) : PacketClass :=
  match pkt.payload.tcp with
  | none => .denied
  | some tcp =>
      if tcp.srcPort = 0 ∨ tcp.dstPort = 0 then
        .denied
      else
        let key :=
          FlowKey.ofTcp direction
            (pkt.srcAddr, tcp.srcPort) (pkt.dstAddr, tcp.dstPort)
        if tcp.isInitialSyn then
          .probe ⟨key, synTimeout, .opening⟩
        else
          .probe ⟨key, tcpTimeout, .following⟩

def classifyUdp (pkt : Ipv4Packet) (direction : FlowDirection) : PacketClass :=
  match pkt.payload.udpChecked with
  | none => .denied
  | some udp =>
      if udp.srcPort = 0 ∨ udp.dstPort = 0 then
        .denied
      else
        .probe
          ⟨FlowKey.ofUdp direction
              (pkt.srcAddr, udp.srcPort) (pkt.dstAddr, udp.dstPort),
            udpTimeout, .initiating⟩

def classifyIcmp (pkt : Ipv4Packet) (direction : FlowDirection) : PacketClass :=
  match pkt.payload.icmp with
  | none => .denied
  | some icmp =>
      if !icmp.verifyChecksum then
        .denied
      else if icmp.msgType = .echoRequest ∧ icmp.msgCode = 0 then
        .probe
          ⟨FlowKey.ofIcmpEcho pkt.srcAddr pkt.dstAddr direction direction
              icmp.echoIdent,
            echoTimeout, .initiating⟩
      else if icmp.msgType = .echoReply ∧ icmp.msgCode = 0 then
        .probe
          ⟨FlowKey.ofIcmpEcho pkt.srcAddr pkt.dstAddr direction direction.opposite
              icmp.echoIdent,
            echoTimeout, .following⟩
      else
        .untracked

/-- The part of inspection that does not depend on the table. -/
def classify (pkt : Ipv4Packet) (direction : FlowDirection) : PacketClass :=
  if pkt.isFragment then
    .untracked
  else
    match pkt.nextHeader with
    | .tcp => classifyTcp pkt direction
    | .udp => classifyUdp pkt direction
    | .icmp => classifyIcmp pkt direction
    | .other _ => .untracked

/-- The packets that have a tuple, and the probe each of them makes. -/
inductive Tracked
    (pkt : Ipv4Packet)
    (direction : FlowDirection) :
    Probe → Prop
  | tcp
      (tcp : TcpPacket)
      (whole : pkt.isFragment = false)
      (protocol : pkt.nextHeader = .tcp)
      (view : pkt.payload.tcp = some tcp)
      (srcPort : tcp.srcPort ≠ 0)
      (dstPort : tcp.dstPort ≠ 0) :
      Tracked pkt direction
        ⟨FlowKey.ofTcp direction
            (pkt.srcAddr, tcp.srcPort) (pkt.dstAddr, tcp.dstPort),
          if tcp.isInitialSyn then synTimeout else tcpTimeout,
          if tcp.isInitialSyn then .opening else .following⟩
  | udp
      (udp : UdpPacket)
      (whole : pkt.isFragment = false)
      (protocol : pkt.nextHeader = .udp)
      (view : pkt.payload.udpChecked = some udp)
      (srcPort : udp.srcPort ≠ 0)
      (dstPort : udp.dstPort ≠ 0) :
      Tracked pkt direction
        ⟨FlowKey.ofUdp direction
            (pkt.srcAddr, udp.srcPort) (pkt.dstAddr, udp.dstPort),
          udpTimeout, .initiating⟩
  | echoRequest
      (icmp : Icmpv4Packet)
      (whole : pkt.isFragment = false)
      (protocol : pkt.nextHeader = .icmp)
      (view : pkt.payload.icmp = some icmp)
      (checksum : icmp.verifyChecksum = true)
      (message : icmp.msgType = .echoRequest ∧ icmp.msgCode = 0) :
      Tracked pkt direction
        ⟨FlowKey.ofIcmpEcho pkt.srcAddr pkt.dstAddr direction direction
            icmp.echoIdent,
          echoTimeout, .initiating⟩
  | echoReply
      (icmp : Icmpv4Packet)
      (whole : pkt.isFragment = false)
      (protocol : pkt.nextHeader = .icmp)
      (view : pkt.payload.icmp = some icmp)
      (checksum : icmp.verifyChecksum = true)
      (message : icmp.msgType = .echoReply ∧ icmp.msgCode = 0) :
      Tracked pkt direction
        ⟨FlowKey.ofIcmpEcho pkt.srcAddr pkt.dstAddr direction direction.opposite
            icmp.echoIdent,
          echoTimeout, .following⟩

section Tuples

variable {pkt : Ipv4Packet}
variable {direction : FlowDirection}
variable {p : Probe}

theorem Tracked.of_classifyTcp
    (whole : pkt.isFragment = false)
    (protocol : pkt.nextHeader = .tcp)
    (h : classifyTcp pkt direction = .probe p) :
    Tracked pkt direction p := by
  unfold classifyTcp at h
  split at h
  · cases h
  · next tcp hview =>
      split at h
      · cases h
      · next hports =>
          obtain ⟨hsrc, hdst⟩ := not_or.mp hports
          have htracked : Tracked pkt direction _ :=
            Tracked.tcp tcp whole protocol hview hsrc hdst
          split at h
          · next hsyn =>
              cases h
              simpa [hsyn] using htracked
          · next hsyn =>
              cases h
              simpa [hsyn] using htracked

theorem Tracked.of_classifyUdp
    (whole : pkt.isFragment = false)
    (protocol : pkt.nextHeader = .udp)
    (h : classifyUdp pkt direction = .probe p) :
    Tracked pkt direction p := by
  unfold classifyUdp at h
  split at h
  · cases h
  · next udp hview =>
      split at h
      · cases h
      · next hports =>
          obtain ⟨hsrc, hdst⟩ := not_or.mp hports
          cases h
          exact Tracked.udp udp whole protocol hview hsrc hdst

theorem Tracked.of_classifyIcmp
    (whole : pkt.isFragment = false)
    (protocol : pkt.nextHeader = .icmp)
    (h : classifyIcmp pkt direction = .probe p) :
    Tracked pkt direction p := by
  unfold classifyIcmp at h
  split at h
  · cases h
  · next icmp hview =>
      split at h
      · cases h
      · next hchecksum =>
          have hvalid : icmp.verifyChecksum = true := by
            simpa using hchecksum
          split at h
          · next hmessage =>
              cases h
              exact Tracked.echoRequest icmp whole protocol hview hvalid hmessage
          · split at h
            · next hmessage =>
                cases h
                exact Tracked.echoReply icmp whole protocol hview hvalid hmessage
            · cases h

/-- Classification finds a tuple exactly for the tracked packets. -/
theorem classify_eq_probe_iff :
    classify pkt direction = .probe p ↔ Tracked pkt direction p := by
  constructor
  · intro h
    unfold classify at h
    split at h
    · cases h
    · next hfragment =>
        have whole := Bool.eq_false_iff.mpr hfragment
        split at h
        · next protocol => exact Tracked.of_classifyTcp whole protocol h
        · next protocol => exact Tracked.of_classifyUdp whole protocol h
        · next protocol => exact Tracked.of_classifyIcmp whole protocol h
        · cases h
  · intro h
    cases h with
    | tcp tcp whole protocol view srcPort dstPort =>
        by_cases hsyn : tcp.isInitialSyn = true <;>
          simp [classify, classifyTcp, whole, protocol, view, srcPort, dstPort, hsyn]
    | udp udp whole protocol view srcPort dstPort =>
        simp [classify, classifyUdp, whole, protocol, view, srcPort, dstPort]
    | echoRequest icmp whole protocol view checksum message =>
        simp [classify, classifyIcmp, whole, protocol, view, checksum, message]
    | echoReply icmp whole protocol view checksum message =>
        simp [classify, classifyIcmp, whole, protocol, view, checksum, message]

end Tuples

/-- The verdict when nothing usable is stored for the tuple. -/
def Probe.unmatched
    (probe : Probe)
    (direction : FlowDirection)
    (now : Instant) :
    FlowMatch :=
  if probe.kind = .following then
    .untracked
  else
    .newCandidate probe.key direction now probe.timeout

/-- The verdict for a tuple, given what is stored for it. -/
def Probe.answer
    (probe : Probe)
    (stored : Option Flow)
    (direction : FlowDirection)
    (now : Instant) :
    FlowMatch :=
  match stored with
  | none => probe.unmatched direction now
  | some flow =>
      if probe.kind = .opening ∨ flow.expiresAt ≤ now then
        probe.unmatched direction now
      else if direction = flow.initiatingDirection then
        .newCandidate probe.key direction now probe.timeout
      else
        .allowed

/-- The verdict for a packet, over any lookup function. -/
def PacketClass.answer
    (cls : PacketClass)
    (find : FlowKey → Option Flow)
    (direction : FlowDirection)
    (now : Instant) :
    FlowMatch :=
  match cls with
  | .untracked => .untracked
  | .denied => .denied
  | .probe p => p.answer (find p.key) direction now

/-- The tuple of a packet, if the table can track it. -/
def packetKey (pkt : Ipv4Packet) (direction : FlowDirection) : Option FlowKey :=
  match classify pkt direction with
  | .probe p => some p.key
  | _ => none

/-- A packet has a tuple exactly if it is tracked. -/
theorem packetKey_eq_some_iff
    {pkt : Ipv4Packet}
    {direction : FlowDirection}
    {key : FlowKey} :
    packetKey pkt direction = some key ↔
      ∃ probe, Tracked pkt direction probe ∧ probe.key = key := by
  simp only [← classify_eq_probe_iff]
  unfold packetKey
  cases classify pkt direction <;> simp

/-- The life of a flow that a packet starts or renews. -/
def packetTimeout (pkt : Ipv4Packet) : Duration :=
  match pkt.nextHeader with
  | .tcp =>
      match pkt.payload.tcp with
      | some tcp => if tcp.isInitialSyn then synTimeout else tcpTimeout
      | none => tcpTimeout
  | .udp => udpTimeout
  | _ => echoTimeout

/-- The timeout of a tracked packet is fixed by the packet alone. -/
theorem Tracked.timeout_eq
    {pkt : Ipv4Packet}
    {direction : FlowDirection}
    {p : Probe}
    (h : Tracked pkt direction p) :
    p.timeout = packetTimeout pkt := by
  cases h <;> simp [packetTimeout, *]

theorem Duration.fromSecs_pos
    {secs : Nat}
    (h : 0 < secs) :
    0 < Duration.fromSecs secs :=
  Nat.mul_pos h (by decide)

theorem packetTimeout_pos
    (pkt : Ipv4Packet) :
    0 < packetTimeout pkt := by
  have hpos : ∀ secs, 0 < secs → 0 < Duration.fromSecs secs :=
    fun _ => Duration.fromSecs_pos
  unfold packetTimeout
  split
  · split
    · split
      · exact hpos 60 (by decide)
      · exact hpos (5 * 60) (by decide)
    · exact hpos (5 * 60) (by decide)
  · exact hpos 30 (by decide)
  · exact hpos 30 (by decide)

section Inspection

variable (table : FlowTable)
variable (pkt : Ipv4Packet)
variable (direction : FlowDirection)
variable (now : Instant)

/-- Looking up the tuple of a packet that is not an opening. -/
theorem matchExistingFlow_eq
    (probe : Probe)
    (hkind : probe.kind ≠ .opening) :
    (table.matchExistingFlow probe.key direction now probe.timeout).getD
        (probe.unmatched direction now) =
      probe.answer (table.find probe.key) direction now := by
  simp only [FlowTable.matchExistingFlow, Probe.answer]
  cases table.find probe.key with
  | none =>
      rfl
  | some flow =>
      by_cases hexpired : flow.expiresAt ≤ now
      · simp [hexpired]
      · by_cases hdirection : direction = flow.initiatingDirection <;>
          simp [hkind, hexpired, hdirection]

/-- Looking up a tuple, with untracked as the verdict for a miss. -/
theorem matchExistingFlow_or_untracked
    (key : FlowKey)
    (timeout : Duration) :
    (table.matchExistingFlow key direction now timeout).getD .untracked =
      (⟨key, timeout, .following⟩ : Probe).answer (table.find key) direction now :=
  matchExistingFlow_eq table direction now ⟨key, timeout, .following⟩ (by simp)

/-- Looking up a tuple, with a proposed flow as the verdict for a miss. -/
theorem matchExistingFlow_or_candidate
    (key : FlowKey)
    (timeout : Duration) :
    (table.matchExistingFlow key direction now timeout).getD
        (.newCandidate key direction now timeout) =
      (⟨key, timeout, .initiating⟩ : Probe).answer (table.find key) direction now :=
  matchExistingFlow_eq table direction now ⟨key, timeout, .initiating⟩ (by simp)

theorem inspectTcp_eq :
    table.inspectTcp pkt direction now =
      (classifyTcp pkt direction).answer table.find direction now := by
  simp only [FlowTable.inspectTcp, classifyTcp]
  cases pkt.payload.tcp with
  | none =>
      rfl
  | some tcp =>
      dsimp only
      split
      · rfl
      · split
        · cases hfind : table.find (FlowKey.ofTcp direction
              (pkt.srcAddr, tcp.srcPort) (pkt.dstAddr, tcp.dstPort)) <;>
            simp [PacketClass.answer, Probe.answer, Probe.unmatched, hfind]
        · exact matchExistingFlow_or_untracked table direction now _ _

theorem inspectUdp_eq :
    table.inspectUdp pkt direction now =
      (classifyUdp pkt direction).answer table.find direction now := by
  simp only [FlowTable.inspectUdp, classifyUdp]
  cases pkt.payload.udpChecked with
  | none =>
      rfl
  | some udp =>
      dsimp only
      by_cases hdst : udp.dstPort = 0
      · simp [hdst, PacketClass.answer]
      · by_cases hsrc : udp.srcPort = 0
        · simp [hsrc, hdst, PacketClass.answer]
        · rw [if_neg hdst, if_neg hsrc, if_neg (by simp [hsrc, hdst])]
          simp only [PacketClass.answer]
          rw [← matchExistingFlow_or_candidate]
          split <;> simp_all

theorem inspectIcmp_eq :
    table.inspectIcmp pkt direction now =
      (classifyIcmp pkt direction).answer table.find direction now := by
  simp only [FlowTable.inspectIcmp, classifyIcmp]
  cases pkt.payload.icmp with
  | none =>
      rfl
  | some icmp =>
      dsimp only
      split
      · rfl
      · split
        · simp only [PacketClass.answer, FlowTable.inspectEcho, if_true]
          rw [← matchExistingFlow_or_candidate]
          split <;> simp_all
        · split
          · simp only [PacketClass.answer, FlowTable.inspectEcho,
              Bool.false_eq_true, if_false]
            rw [← matchExistingFlow_or_untracked]
            split <;> simp_all
          · rfl

/-- Inspection sweeps, reads the packet, and answers from the swept table. -/
theorem inspectAt_eq :
    table.inspectAt pkt direction now =
      (table.sweepIfDue now,
        (classify pkt direction).answer (table.sweepIfDue now).find direction now) := by
  simp only [FlowTable.inspectAt, classify]
  split
  · rfl
  · cases pkt.nextHeader with
    | other n => rfl
    | tcp => simp [inspectTcp_eq]
    | udp => simp [inspectUdp_eq]
    | icmp => simp [inspectIcmp_eq]

end Inspection

end Probe

end Softnet
