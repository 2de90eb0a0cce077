import Softnet.Dhcp.Server
import Softnet.Proxy.Runs
import Softnet.Vm

/-!
# Frames and what is written for them

`process_frame_from_vm` in `lib/proxy/vm.rs`, `process_frame_from_host` and `write_to_vm` in
`lib/proxy/host.rs`, with everything that they write.  A frame of the VM is dropped, answered
by the DHCP or the DNS server, or written to the host; a frame of the host is dropped or
written to the VM.  What a socket answers to a write is a parameter; while one frame is
processed, each side is written to at most once.
-/

namespace Softnet

/-- The whole of `Proxy`: what decisions read, the DHCP server, and the note of full buffers. -/
structure Endpoint where
  proxy : Proxy
  dhcpServer : DhcpServer
  enobufsEncountered : Bool

/-- What is written to the VM. -/
inductive VmPacket where
  | frame (frame : EthernetFrame)
  | dhcpReply (reply : UdpFrame)
  | dnsReply (bytes : List UInt8)

/-- What is sent to the error tracker. -/
inductive Report where
  | noBufferSpace
  | dhcpReplyFailed (error : ErrorChain)
  | dnsReplyFailed (error : ErrorChain)
deriving DecidableEq, Repr

inductive Effect where
  | toHost (frame : EthernetFrame) (result : Except ErrorChain Unit)
  | toVm (packet : VmPacket) (result : Except IoError Unit)
  | report (report : Report)

/-- What the two sides answer if they are written to. -/
structure WriteAnswers where
  vm : Except IoError Unit
  host : Except ErrorChain Unit

/-- An error of `anyhow` with the error of the socket in it, if that is its cause. -/
structure ProxyError where
  chain : ErrorChain
  io : Option IoError
deriving DecidableEq, Repr

namespace Endpoint

/-- The DHCP server that `Proxy::new` sets up beside the rest. -/
def new (proxy : Proxy) (subnetMask : Ipv4Address) (searchDomains : List Name) : Endpoint where
  proxy := proxy
  dhcpServer :=
    ⟨proxy.vmMacAddress, proxy.host.vmIp, subnetMask, proxy.host.gatewayIp, searchDomains⟩
  enobufsEncountered := false

def writeToVm
    (e : Endpoint)
    (packet : VmPacket)
    (answer : Except IoError Unit) :
    Endpoint × List Effect × Except ProxyError Unit :=
  match answer with
  | .ok () => (e, [.toVm packet answer], .ok ())
  | .error error =>
      if error.rawOsError = some enobufs then
        if !e.enobufsEncountered then
          ({ e with enobufsEncountered := true },
            [.toVm packet answer, .report .noBufferSpace], .ok ())
        else
          (e, [.toVm packet answer], .ok ())
      else
        (e, [.toVm packet answer],
          .error ⟨["failed to write to the VM", error.text], some error⟩)

/-- Sends a reply of a local server; a failure is reported and otherwise ignored. -/
def sendReply
    (e : Endpoint)
    (failed : ErrorChain → Report)
    (reply : VmPacket)
    (answer : Except IoError Unit) :
    Endpoint × List Effect :=
  match e.writeToVm reply answer with
  | (e, effects, .ok ()) => (e, effects)
  | (e, effects, .error error) => (e, effects ++ [.report (failed error.chain)])

def consumeDhcp
    (dhcpCrates : DhcpCrates)
    (e : Endpoint)
    (pkt : Ipv4Packet)
    (answer : Except IoError Unit) :
    Endpoint × List Effect × Bool :=
  -- Only inspect UDP packets that contain the source and destination ports
  if !Proxy.showsUdpPorts pkt then
    (e, [], false)
  else if pkt.payload.udp.dstPort ≠ serverPort then
    (e, [], false)
  else
    match e.dhcpServer.receiveVm dhcpCrates pkt pkt.payload.udp with
    | .ok (some reply) =>
        let (e, effects) := e.sendReply .dhcpReplyFailed (.dhcpReply reply) answer
        (e, effects, true)
    | .ok none => (e, [], true)
    | .error error => (e, [.report (.dhcpReplyFailed error)], true)

def consumeDns
    (e : Endpoint)
    (destinationMac : EthernetAddress)
    (pkt : Ipv4Packet)
    (answer : Except IoError Unit) :
    Endpoint × List Effect × Bool :=
  match e.proxy.dnsServer with
  | none => (e, [], false)
  | some dnsServer =>
      -- Accept only complete IPv4 UDP datagrams addressed to the gateway
      if pkt.dstAddr ≠ e.proxy.host.gatewayIp ∨ !pkt.verifyChecksum ∨
          pkt.nextHeader ≠ .udp ∨ pkt.moreFrags ∨ pkt.fragOffset ≠ 0 then
        (e, [], false)
      else
        match pkt.payload.udpChecked with
        | none => (e, [], false)
        | some udp =>
            if !udp.verifyChecksum ∨ udp.dstPort ≠ dnsPort ∨
                udp.len.toNat ≠ pkt.payload.len then
              (e, [], false)
            else
              match
                dnsServer.respond e.proxy.vmMacAddress destinationMac pkt udp
                  e.proxy.host.maxPacketSize
              with
              | .ok (some reply) =>
                  let (e, effects) := e.sendReply .dnsReplyFailed (.dnsReply reply) answer
                  (e, effects, true)
              -- Leave queries outside the zone to the system's resolver
              | .ok none => (e, [], false)
              | .error error => (e, [.report (.dnsReplyFailed [error])], true)

def allowedFromVmIpv4
    (crates : Crates)
    (dhcpCrates : DhcpCrates)
    (e : Endpoint)
    (destinationMac : EthernetAddress)
    (pkt : Ipv4Packet)
    (now : Instant)
    (answer : Except IoError Unit) :
    Endpoint × List Effect × Option Unit :=
  match e.consumeDhcp dhcpCrates pkt answer with
  | (e, effects, true) => (e, effects, none)
  | (e, effects, false) =>
      if e.proxy.host.vmIp = pkt.srcAddr then
        match e.consumeDns destinationMac pkt answer with
        | (e, more, true) => (e, effects ++ more, none)
        | (e, more, false) =>
            -- Neither server wants the packet: flows and policy decide
            let (proxy, verdict) := e.proxy.allowedFromVmIpv4 crates destinationMac pkt now
            ({ e with proxy := proxy }, effects ++ more, verdict)
      else
        (e, effects, none)

def allowedFromVm
    (crates : Crates)
    (dhcpCrates : DhcpCrates)
    (e : Endpoint)
    (frame : EthernetFrame)
    (now : Instant)
    (answer : Except IoError Unit) :
    Endpoint × List Effect × Option Unit :=
  if frame.srcAddr ≠ e.proxy.vmMacAddress then
    (e, [], none)
  else
    match frame.ethertype with
    | .arp =>
        match frame.arp with
        | none => (e, [], none)
        | some arpPkt =>
            (e, [], Proxy.vmArpAllowed arpPkt e.proxy.vmMacAddress e.proxy.host.vmIp)
    | .ipv4 =>
        if !frame.ipv4Parses then
          (e, [], none)
        else if frame.ipv4.headerLen ≠ ipv4HeaderLenWithoutOptions then
          (e, [], none)
        else
          e.allowedFromVmIpv4 crates dhcpCrates frame.dstAddr frame.ipv4 now answer
    | .other _ => (e, [], none)

def processFrameFromVm
    (crates : Crates)
    (dhcpCrates : DhcpCrates)
    (e : Endpoint)
    (frame : EthernetFrame)
    (now : Instant)
    (answers : WriteAnswers) :
    Endpoint × List Effect × Except ProxyError Unit :=
  match e.allowedFromVm crates dhcpCrates frame now answers.vm with
  -- Block the packet by not forwarding it to the host
  | (e, effects, none) => (e, effects, .ok ())
  | (e, effects, some ()) =>
      (e, effects ++ [.toHost frame answers.host],
        (context "failed to write to the host" answers.host).mapError fun chain => ⟨chain, none⟩)

def processFrameFromHost
    (e : Endpoint)
    (frame : EthernetFrame)
    (now : Instant)
    (answer : Except IoError Unit) :
    Endpoint × List Effect × Except ProxyError Unit :=
  match e.proxy.allowedFromHost frame now with
  -- Block the packet by not forwarding it to the VM
  | (proxy, none) => ({ e with proxy := proxy }, [], .ok ())
  | (proxy, some ()) => { e with proxy := proxy }.writeToVm (.frame frame) answer

/-! ## What one frame can do -/

section Writes

variable {e : Endpoint}
variable {packet : VmPacket}
variable {answer : Except IoError Unit}

/-- The buffers of the VM were full. -/
def OutOfBuffers (answer : Except IoError Unit) : Prop :=
  ∃ error, answer = .error error ∧ error.rawOsError = some enobufs

/-- A write is recorded, and only an error other than full buffers is passed on. -/
inductive WriteOutcome (e : Endpoint) (packet : VmPacket) (answer : Except IoError Unit) :
    Endpoint × List Effect × Except ProxyError Unit → Prop
  | written
      (sent : answer = .ok ()) :
      WriteOutcome e packet answer (e, [.toVm packet answer], .ok ())
  | noted
      (full : OutOfBuffers answer)
      (first : e.enobufsEncountered = false) :
      WriteOutcome e packet answer
        ({ e with enobufsEncountered := true },
          [.toVm packet answer, .report .noBufferSpace], .ok ())
  | ignored
      (full : OutOfBuffers answer)
      (again : e.enobufsEncountered = true) :
      WriteOutcome e packet answer (e, [.toVm packet answer], .ok ())
  | failed
      {error : IoError}
      (refused : answer = .error error)
      (cause : error.rawOsError ≠ some enobufs) :
      WriteOutcome e packet answer
        (e, [.toVm packet answer],
          .error ⟨["failed to write to the VM", error.text], some error⟩)

theorem writeToVm_outcome
    (e : Endpoint)
    (packet : VmPacket)
    (answer : Except IoError Unit) :
    WriteOutcome e packet answer (e.writeToVm packet answer) := by
  cases hanswer : answer with
  | ok => exact .written rfl
  | error error =>
      unfold writeToVm
      dsimp only
      split
      · next hfull =>
          split
          · next hfirst => exact .noted ⟨error, rfl, hfull⟩ (by simpa using hfirst)
          · next hagain => exact .ignored ⟨error, rfl, hfull⟩ (by simpa using hagain)
      · next hcause => exact .failed rfl hcause

/-- The report of full buffers. -/
def notesFullBuffers : Effect → Bool
  | .report .noBufferSpace => true
  | _ => false

/-- A write is the first thing recorded, changes no decision, and notes full buffers once. -/
theorem WriteOutcome.frame
    {result : Endpoint × List Effect × Except ProxyError Unit}
    (h : WriteOutcome e packet answer result) :
    (∃ flag, result.1 = { e with enobufsEncountered := flag }) ∧
      (∃ reports : List Report,
        result.2.1 = .toVm packet answer :: reports.map .report) ∧
      result.2.1.countP notesFullBuffers + e.enobufsEncountered.toNat =
        result.1.enobufsEncountered.toNat := by
  cases h with
  | written => exact ⟨⟨_, rfl⟩, ⟨[], rfl⟩, by simp [notesFullBuffers]⟩
  | noted full first =>
      exact ⟨⟨_, rfl⟩, ⟨[.noBufferSpace], rfl⟩, by simp [notesFullBuffers, first]⟩
  | ignored => exact ⟨⟨_, rfl⟩, ⟨[], rfl⟩, by simp [notesFullBuffers]⟩
  | failed => exact ⟨⟨_, rfl⟩, ⟨[], rfl⟩, by simp [notesFullBuffers]⟩

theorem sendReply_frame
    {failed : ErrorChain → Report}
    (hfailed : ∀ error, failed error ≠ .noBufferSpace) :
    (∃ flag, (e.sendReply failed packet answer).1 = { e with enobufsEncountered := flag }) ∧
      (∃ reports : List Report,
        (e.sendReply failed packet answer).2 = .toVm packet answer :: reports.map .report) ∧
      (e.sendReply failed packet answer).2.countP notesFullBuffers + e.enobufsEncountered.toNat =
        (e.sendReply failed packet answer).1.enobufsEncountered.toNat := by
  have hframe := (e.writeToVm_outcome packet answer).frame
  unfold sendReply
  generalize e.writeToVm packet answer = result at hframe
  obtain ⟨e', effects, written⟩ := result
  obtain ⟨hflag, ⟨reports, heffects⟩, hnotes⟩ := hframe
  cases written with
  | ok => exact ⟨hflag, ⟨reports, heffects⟩, hnotes⟩
  | error error =>
      refine ⟨hflag, ⟨reports ++ [failed error.chain], ?_⟩, ?_⟩
      · dsimp only at heffects ⊢
        rw [heffects]
        simp
      · have hother : notesFullBuffers (.report (failed error.chain)) = false := by
          unfold notesFullBuffers
          split
          · next hreport =>
              exact absurd (Effect.report.inj hreport) (hfailed _)
          · rfl
        simpa [List.countP_append, hother] using hnotes

end Writes

section Servers

/-- A local server leaves a packet alone, consumes it silently, or replies to it. -/
inductive ServerOutcome
    (e : Endpoint)
    (consumed : Bool)
    (replies : VmPacket → Prop)
    (answer : Except IoError Unit) :
    Endpoint × List Effect × Bool → Prop
  | left
      (alone : consumed = false) :
      ServerOutcome e consumed replies answer (e, [], false)
  | silent
      (reports : List Report)
      (taken : consumed = true)
      (unnoted : .noBufferSpace ∉ reports) :
      ServerOutcome e consumed replies answer (e, reports.map .report, true)
  | replied
      {failed : ErrorChain → Report} {reply : VmPacket}
      (taken : consumed = true)
      (sent : replies reply)
      (named : ∀ error, failed error ≠ .noBufferSpace) :
      ServerOutcome e consumed replies answer
        ((e.sendReply failed reply answer).1, (e.sendReply failed reply answer).2, true)

/-- What the local servers reply to an IPv4 packet of the VM. -/
inductive LocalReply
    (dhcpCrates : DhcpCrates)
    (e : Endpoint)
    (destinationMac : EthernetAddress)
    (pkt : Ipv4Packet) :
    VmPacket → Prop
  | dhcp
      {reply : UdpFrame}
      (consumed : Proxy.consumeDhcp pkt = true)
      (received :
        e.dhcpServer.receiveVm dhcpCrates pkt pkt.payload.udp = .ok (some reply)) :
      LocalReply dhcpCrates e destinationMac pkt (.dhcpReply reply)
  | dns
      {dnsServer : DnsServer} {udp : UdpPacket} {bytes : List UInt8}
      (configured : e.proxy.dnsServer = some dnsServer)
      (asked : pkt.dstAddr = e.proxy.host.gatewayIp)
      (checked : pkt.payload.udpChecked = some udp)
      (port : udp.dstPort = dnsPort)
      (responded :
        dnsServer.respond e.proxy.vmMacAddress destinationMac pkt udp
          e.proxy.host.maxPacketSize = .ok (some bytes)) :
      LocalReply dhcpCrates e destinationMac pkt (.dnsReply bytes)

theorem consumeDhcp_outcome
    (dhcpCrates : DhcpCrates)
    (e : Endpoint)
    (destinationMac : EthernetAddress)
    (pkt : Ipv4Packet)
    (answer : Except IoError Unit) :
    ServerOutcome e (Proxy.consumeDhcp pkt)
      (LocalReply dhcpCrates e destinationMac pkt) answer
      (e.consumeDhcp dhcpCrates pkt answer) := by
  unfold consumeDhcp
  split
  · next hports => exact .left (by simp_all [Proxy.consumeDhcp])
  · next hports =>
      split
      · next hport => exact .left (by simp_all [Proxy.consumeDhcp])
      · next hport =>
          have htaken : Proxy.consumeDhcp pkt = true := by
            simp_all [Proxy.consumeDhcp]
          split
          · next reply hreply =>
              exact .replied htaken (.dhcp htaken hreply) (by simp)
          · exact .silent [] htaken (by simp)
          · next error _ => exact .silent [_] htaken (by simp)

/-- An answer of the DNS server after which the query goes no further. -/
def takesQuery : Except String (Option (List UInt8)) → Bool
  | .ok none => false
  | .ok (some _) => true
  | .error _ => true

/-- What becomes of a query that may reach the DNS server. -/
theorem consumeDns_of_query
    (p : Proxy)
    (destinationMac : EthernetAddress)
    {pkt : Ipv4Packet} {dnsServer : DnsServer} {udp : UdpPacket}
    (hserver : p.dnsServer = some dnsServer)
    (hpacket : ¬ (pkt.dstAddr ≠ p.host.gatewayIp ∨ !pkt.verifyChecksum ∨
      pkt.nextHeader ≠ .udp ∨ pkt.moreFrags ∨ pkt.fragOffset ≠ 0))
    (hchecked : pkt.payload.udpChecked = some udp)
    (hudp : ¬ (!udp.verifyChecksum ∨ udp.dstPort ≠ dnsPort ∨
      udp.len.toNat ≠ pkt.payload.len)) :
    p.consumeDns destinationMac pkt = takesQuery
      (dnsServer.respond p.vmMacAddress destinationMac pkt udp p.host.maxPacketSize) := by
  simp only [Proxy.consumeDns, hserver, hchecked]
  rw [if_neg hpacket, if_neg hudp]
  generalize dnsServer.respond _ _ _ _ _ = answer
  rcases answer with error | _ | bytes <;> rfl

theorem consumeDns_outcome
    (dhcpCrates : DhcpCrates)
    (e : Endpoint)
    (destinationMac : EthernetAddress)
    (pkt : Ipv4Packet)
    (answer : Except IoError Unit) :
    ServerOutcome e (e.proxy.consumeDns destinationMac pkt)
      (LocalReply dhcpCrates e destinationMac pkt) answer
      (e.consumeDns destinationMac pkt answer) := by
  unfold consumeDns
  split
  · next hserver => exact .left (by simp [Proxy.consumeDns, hserver])
  · next dnsServer hserver =>
      split
      · next hpacket =>
          refine .left ?_
          simp only [Proxy.consumeDns, hserver]
          rw [if_pos hpacket]
      · next hpacket =>
          split
          · next hchecked => exact .left (by simp [Proxy.consumeDns, hserver, hchecked])
          · next udp hchecked =>
              split
              · next hudp =>
                  refine .left ?_
                  simp only [Proxy.consumeDns, hserver, hchecked]
                  rw [if_neg hpacket, if_pos hudp]
              · next hudp =>
                  have heq := consumeDns_of_query e.proxy destinationMac hserver hpacket
                    hchecked hudp
                  obtain ⟨hasked, _⟩ := not_or.mp hpacket
                  obtain ⟨_, hport, _⟩ := by simpa only [not_or] using hudp
                  split
                  · next bytes hresponse =>
                      rw [hresponse] at heq
                      exact .replied heq (.dns hserver (not_not.mp hasked) hchecked
                        (not_not.mp hport) hresponse) (by simp)
                  · next hresponse =>
                      rw [hresponse] at heq
                      exact .left heq
                  · next error hresponse =>
                      rw [hresponse] at heq
                      exact .silent [_] heq (by simp)

end Servers

section Frames

/--
The outcome of a decision that the proxy takes as `decided`: nothing is written, or the packet
is consumed and replied to.
-/
inductive Decision
    (e : Endpoint)
    (decided : Proxy × Option Unit)
    (replies : VmPacket → Prop)
    (answer : Except IoError Unit) :
    Endpoint × List Effect × Option Unit → Prop
  | quiet
      (reports : List Report)
      (unnoted : .noBufferSpace ∉ reports)
      (consumed : decided.2 = some () → reports = []) :
      Decision e decided replies answer
        ({ e with proxy := decided.1 }, reports.map .report, decided.2)
  | replied
      {failed : ErrorChain → Report} {reply : VmPacket}
      (consumed : decided = (e.proxy, none))
      (sent : replies reply)
      (named : ∀ error, failed error ≠ .noBufferSpace) :
      Decision e decided replies answer
        ((e.sendReply failed reply answer).1, (e.sendReply failed reply answer).2, none)

/-- The servers change no decision; they only reply to what the proxy consumes. -/
theorem allowedFromVmIpv4_decision
    (crates : Crates)
    (dhcpCrates : DhcpCrates)
    (e : Endpoint)
    (destinationMac : EthernetAddress)
    (pkt : Ipv4Packet)
    (now : Instant)
    (answer : Except IoError Unit) :
    Decision e (e.proxy.allowedFromVmIpv4 crates destinationMac pkt now)
      (LocalReply dhcpCrates e destinationMac pkt) answer
      (e.allowedFromVmIpv4 crates dhcpCrates destinationMac pkt now answer) := by
  have hdhcp := consumeDhcp_outcome dhcpCrates e destinationMac pkt answer
  unfold allowedFromVmIpv4
  generalize e.consumeDhcp dhcpCrates pkt answer = result at hdhcp
  cases hdhcp with
  | silent reports taken unnoted =>
      have hconsumed : e.proxy.allowedFromVmIpv4 crates destinationMac pkt now =
          (e.proxy, none) := by
        simp [Proxy.allowedFromVmIpv4, taken]
      rw [hconsumed]
      exact .quiet reports unnoted (by simp)
  | replied taken sent named =>
      exact .replied (by simp [Proxy.allowedFromVmIpv4, taken]) sent named
  | left alone =>
      by_cases hsource : e.proxy.host.vmIp = pkt.srcAddr
      · have hdns := consumeDns_outcome dhcpCrates e destinationMac pkt answer
        simp only [if_pos hsource]
        generalize e.consumeDns destinationMac pkt answer = result at hdns
        cases hdns with
        | left => exact .quiet [] (by simp) (by simp)
        | silent reports taken unnoted =>
            have hconsumed : e.proxy.allowedFromVmIpv4 crates destinationMac pkt now =
                (e.proxy, none) := by
              simp [Proxy.allowedFromVmIpv4, taken]
            rw [hconsumed]
            exact .quiet reports unnoted (by simp)
        | replied taken sent named =>
            exact .replied (by simp [Proxy.allowedFromVmIpv4, taken]) sent named
      · have hrejected : e.proxy.allowedFromVmIpv4 crates destinationMac pkt now =
            (e.proxy, none) := by
          simp [Proxy.allowedFromVmIpv4, hsource]
        simp only [if_neg hsource]
        rw [hrejected]
        exact .quiet [] (by simp) (by simp)

/-- What the local servers reply to a frame of the VM. -/
structure FrameReply
    (dhcpCrates : DhcpCrates)
    (e : Endpoint)
    (frame : EthernetFrame)
    (reply : VmPacket) :
    Prop where
  srcAddr : frame.srcAddr = e.proxy.vmMacAddress
  ethertype : frame.ethertype = .ipv4
  reply : LocalReply dhcpCrates e frame.dstAddr frame.ipv4 reply

theorem Decision.mono
    {e : Endpoint} {decided : Proxy × Option Unit} {replies replies' : VmPacket → Prop}
    {answer : Except IoError Unit} {result : Endpoint × List Effect × Option Unit}
    (h : Decision e decided replies answer result)
    (hreplies : ∀ reply, replies reply → replies' reply) :
    Decision e decided replies' answer result := by
  cases h with
  | quiet reports unnoted consumed => exact .quiet reports unnoted consumed
  | replied consumed sent named => exact .replied consumed (hreplies _ sent) named

theorem allowedFromVm_decision
    (crates : Crates)
    (dhcpCrates : DhcpCrates)
    (e : Endpoint)
    (frame : EthernetFrame)
    (now : Instant)
    (answer : Except IoError Unit) :
    Decision e (e.proxy.allowedFromVm crates frame now) (FrameReply dhcpCrates e frame) answer
      (e.allowedFromVm crates dhcpCrates frame now answer) := by
  have hquiet : ∀ verdict, Decision e (e.proxy, verdict) (FrameReply dhcpCrates e frame) answer
      (e, [], verdict) :=
    fun verdict => .quiet [] (by simp) (by simp)
  unfold allowedFromVm Proxy.allowedFromVm
  by_cases hsource : frame.srcAddr ≠ e.proxy.vmMacAddress
  · rw [if_pos hsource, if_pos hsource]
    exact hquiet none
  · rw [if_neg hsource, if_neg hsource]
    cases htype : frame.ethertype with
    | arp =>
        cases frame.arp with
        | none => exact hquiet none
        | some arpPkt => exact hquiet _
    | ipv4 =>
        dsimp only
        split
        · exact hquiet none
        · split
          · exact hquiet none
          · exact (allowedFromVmIpv4_decision crates dhcpCrates e _ _ now answer).mono
              fun _ hreply => ⟨not_not.mp hsource, htype, hreply⟩
    | other => exact hquiet none

/-- A frame of the VM is dropped, answered by a local server, or written to the host. -/
inductive VmOutcome
    (crates : Crates)
    (dhcpCrates : DhcpCrates)
    (e : Endpoint)
    (frame : EthernetFrame)
    (now : Instant)
    (answers : WriteAnswers) :
    Endpoint × List Effect × Except ProxyError Unit → Prop
  | dropped
      (reports : List Report)
      (blocked : (e.proxy.allowedFromVm crates frame now).2 = none)
      (unnoted : .noBufferSpace ∉ reports) :
      VmOutcome crates dhcpCrates e frame now answers
        ({ e with proxy := (e.proxy.allowedFromVm crates frame now).1 },
          reports.map .report, .ok ())
  | answered
      {failed : ErrorChain → Report} {reply : VmPacket}
      (consumed : e.proxy.allowedFromVm crates frame now = (e.proxy, none))
      (sent : FrameReply dhcpCrates e frame reply)
      (named : ∀ error, failed error ≠ .noBufferSpace) :
      VmOutcome crates dhcpCrates e frame now answers
        ((e.sendReply failed reply answers.vm).1, (e.sendReply failed reply answers.vm).2,
          .ok ())
  | forwarded
      (allowed : (e.proxy.allowedFromVm crates frame now).2 = some ()) :
      VmOutcome crates dhcpCrates e frame now answers
        ({ e with proxy := (e.proxy.allowedFromVm crates frame now).1 },
          [.toHost frame answers.host],
          (context "failed to write to the host" answers.host).mapError
            fun chain => ⟨chain, none⟩)

theorem processFrameFromVm_outcome
    (crates : Crates)
    (dhcpCrates : DhcpCrates)
    (e : Endpoint)
    (frame : EthernetFrame)
    (now : Instant)
    (answers : WriteAnswers) :
    VmOutcome crates dhcpCrates e frame now answers
      (e.processFrameFromVm crates dhcpCrates frame now answers) := by
  have hdecision := allowedFromVm_decision crates dhcpCrates e frame now answers.vm
  unfold processFrameFromVm
  generalize e.allowedFromVm crates dhcpCrates frame now answers.vm = result at hdecision
  cases hdecision with
  | quiet reports unnoted consumed =>
      cases hverdict : (e.proxy.allowedFromVm crates frame now).2 with
      | none => exact .dropped reports hverdict unnoted
      | some =>
          rw [consumed hverdict]
          exact .forwarded hverdict
  | replied consumed sent named => exact .answered consumed sent named

/-- A frame of the host is dropped or written to the VM. -/
inductive HostOutcome
    (e : Endpoint)
    (frame : EthernetFrame)
    (now : Instant)
    (answer : Except IoError Unit) :
    Endpoint × List Effect × Except ProxyError Unit → Prop
  | dropped
      (blocked : (e.proxy.allowedFromHost frame now).2 = none) :
      HostOutcome e frame now answer
        ({ e with proxy := (e.proxy.allowedFromHost frame now).1 }, [], .ok ())
  | forwarded
      {result : Endpoint × List Effect × Except ProxyError Unit}
      (allowed : (e.proxy.allowedFromHost frame now).2 = some ())
      (written :
        WriteOutcome { e with proxy := (e.proxy.allowedFromHost frame now).1 } (.frame frame)
          answer result) :
      HostOutcome e frame now answer result

theorem processFrameFromHost_outcome
    (e : Endpoint)
    (frame : EthernetFrame)
    (now : Instant)
    (answer : Except IoError Unit) :
    HostOutcome e frame now answer (e.processFrameFromHost frame now answer) := by
  unfold processFrameFromHost
  split
  · next proxy hdecided =>
      have hblocked : HostOutcome e frame now answer _ := .dropped (congrArg Prod.snd hdecided)
      rwa [hdecided] at hblocked
  · next proxy hdecided =>
      refine .forwarded (congrArg Prod.snd hdecided) ?_
      rw [hdecided]
      exact writeToVm_outcome _ _ _

variable {crates : Crates}
variable {dhcpCrates : DhcpCrates}
variable {e : Endpoint}
variable {frame : EthernetFrame}
variable {now : Instant}
variable {result : Endpoint × List Effect × Except ProxyError Unit}

/-- The proxy is left as its decision on the frame leaves it. -/
theorem VmOutcome.proxy_eq
    {answers : WriteAnswers}
    (h : VmOutcome crates dhcpCrates e frame now answers result) :
    result.1.proxy = (e.proxy.allowedFromVm crates frame now).1 := by
  cases h with
  | dropped => rfl
  | forwarded => rfl
  | answered consumed sent named =>
      obtain ⟨⟨_, hflag⟩, _⟩ := sendReply_frame named
      dsimp only
      rw [hflag, consumed]

theorem HostOutcome.proxy_eq
    {answer : Except IoError Unit}
    (h : HostOutcome e frame now answer result) :
    result.1.proxy = (e.proxy.allowedFromHost frame now).1 := by
  cases h with
  | dropped => rfl
  | forwarded allowed written =>
      obtain ⟨⟨_, hflag⟩, _⟩ := written.frame
      rw [hflag]

theorem VmOutcome.dhcpServer_eq
    {answers : WriteAnswers}
    (h : VmOutcome crates dhcpCrates e frame now answers result) :
    result.1.dhcpServer = e.dhcpServer := by
  cases h with
  | dropped => rfl
  | forwarded => rfl
  | answered consumed sent named =>
      obtain ⟨⟨_, hflag⟩, _⟩ := sendReply_frame named
      dsimp only
      rw [hflag]

theorem HostOutcome.dhcpServer_eq
    {answer : Except IoError Unit}
    (h : HostOutcome e frame now answer result) :
    result.1.dhcpServer = e.dhcpServer := by
  cases h with
  | dropped => rfl
  | forwarded allowed written =>
      obtain ⟨⟨_, hflag⟩, _⟩ := written.frame
      rw [hflag]

/-- A frame of the VM that is allowed is all that is written. -/
theorem VmOutcome.effects_of_allowed
    {answers : WriteAnswers}
    (h : VmOutcome crates dhcpCrates e frame now answers result)
    (allowed : (e.proxy.allowedFromVm crates frame now).2 = some ()) :
    result.2.1 = [.toHost frame answers.host] := by
  cases h with
  | dropped reports blocked =>
      rw [blocked] at allowed
      cases allowed
  | forwarded => rfl
  | answered consumed =>
      rw [consumed] at allowed
      cases allowed

theorem HostOutcome.toVm_mem_of_allowed
    {answer : Except IoError Unit}
    (h : HostOutcome e frame now answer result)
    (allowed : (e.proxy.allowedFromHost frame now).2 = some ()) :
    .toVm (.frame frame) answer ∈ result.2.1 := by
  cases h with
  | dropped blocked =>
      rw [blocked] at allowed
      cases allowed
  | forwarded _ written =>
      obtain ⟨_, ⟨reports, heffects⟩, _⟩ := written.frame
      rw [heffects]
      exact List.mem_cons_self

/-- Only the host can make the processing of a frame of the VM fail. -/
theorem VmOutcome.eq_ok
    {answers : WriteAnswers}
    (h : VmOutcome crates dhcpCrates e frame now answers result)
    (written : answers.host = .ok ()) :
    result.2.2 = .ok () := by
  cases h with
  | dropped => rfl
  | answered => rfl
  | forwarded => simp [written, context, Except.mapError]

/-- Full buffers do not make the processing of a frame of the host fail. -/
theorem HostOutcome.eq_ok
    {answer : Except IoError Unit}
    (h : HostOutcome e frame now answer result)
    (written : answer = .ok () ∨ OutOfBuffers answer) :
    result.2.2 = .ok () := by
  cases h with
  | dropped => rfl
  | forwarded allowed outcome =>
      cases outcome with
      | written => rfl
      | noted => rfl
      | ignored => rfl
      | failed refused cause =>
          rcases written with hok | ⟨error, hfull, hcause⟩
          · rw [hok] at refused
            cases refused
          · rw [hfull] at refused
            cases refused
            exact absurd hcause cause

theorem countP_notesFullBuffers_reports
    {reports : List Report}
    (h : .noBufferSpace ∉ reports) :
    (reports.map Effect.report).countP notesFullBuffers = 0 := by
  rw [List.countP_eq_zero]
  intro effect heffect
  obtain ⟨report, hreport, rfl⟩ := List.mem_map.mp heffect
  cases report with
  | noBufferSpace => exact absurd hreport h
  | dhcpReplyFailed => simp [notesFullBuffers]
  | dnsReplyFailed => simp [notesFullBuffers]

/-- Full buffers are reported when they are noted, and not again. -/
theorem VmOutcome.notes
    {answers : WriteAnswers}
    (h : VmOutcome crates dhcpCrates e frame now answers result) :
    result.2.1.countP notesFullBuffers + e.enobufsEncountered.toNat =
      result.1.enobufsEncountered.toNat := by
  cases h with
  | dropped reports blocked unnoted => simp [countP_notesFullBuffers_reports unnoted]
  | answered consumed sent named => exact (sendReply_frame named).2.2
  | forwarded => simp [notesFullBuffers]

theorem HostOutcome.notes
    {answer : Except IoError Unit}
    (h : HostOutcome e frame now answer result) :
    result.2.1.countP notesFullBuffers + e.enobufsEncountered.toNat =
      result.1.enobufsEncountered.toNat := by
  cases h with
  | dropped => simp
  | forwarded allowed outcome => exact outcome.frame.2.2

end Frames

end Endpoint

end Softnet
