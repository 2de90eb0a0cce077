import Softnet.Dhcp.Reservation
import Softnet.Dns.Responding
import Softnet.Proxy.Wire

/-!
# The octets of local replies

What the VM receives from the servers that answer in the gateway's name, over the runs of its
loop: the octets of every reply read back, with valid checksums, as the datagram that answers
the VM's request.
-/

namespace Softnet

open Transition

section Steps

variable {crates : Crates}
variable {dhcpCrates : DhcpCrates}
variable {s s' : Serving}
variable {turn : Turn}

/-- What a frame of the VM makes the loop do is what the proxy does with it. -/
theorem ServingStep.effects_of_vmFrame
    {frame : EthernetFrame} {now : Instant} {answers : WriteAnswers}
    (h : ServingStep crates dhcpCrates s turn s')
    (hcause : turn.cause = .vmFrame (some frame) now answers) :
    turn.effects =
      (s.endpoint.processFrameFromVm crates dhcpCrates frame now answers).2.1 := by
  have heffects : ∀ next, (s.afterVmFrame crates dhcpCrates (some frame) now answers next).2 =
      (s.endpoint.processFrameFromVm crates dhcpCrates frame now answers).2.1 := by
    intro next
    unfold Serving.afterVmFrame
    dsimp only
    split <;> simp_all
  cases h <;> cases hcause <;> exact heffects _

theorem Proxy.handle_dnsServer
    (p : Proxy)
    (crates : Crates)
    (event : Event) :
    (p.handle crates event).dnsServer = p.dnsServer := by
  cases event with
  | packet direction destinationMac pkt now =>
      obtain ⟨flows, hframe, _⟩ :=
        (p.decidePacket_outcome crates direction destinationMac pkt now).frame
      simp only [Proxy.handle]
      rw [hframe]
  | policySet order allow block now =>
      simp only [Proxy.handle, Proxy.policySet]
      split <;> rfl
  | policyGet now => rfl

/-- The DHCP server writes no reply of the DNS server. -/
theorem Endpoint.dnsReply_not_mem_consumeDhcp
    (e : Endpoint)
    (dhcpCrates : DhcpCrates)
    (pkt : Ipv4Packet)
    (answer result : Except IoError Unit)
    (bytes : List UInt8) :
    .toVm (.dnsReply bytes) result ∉ (e.consumeDhcp dhcpCrates pkt answer).2.1 := by
  unfold Endpoint.consumeDhcp
  split
  · simp
  · split
    · simp
    · split
      · next reply _ =>
          obtain ⟨_, ⟨reports, heffects⟩, _⟩ :=
            @Endpoint.sendReply_frame e (.dhcpReply reply) answer .dhcpReplyFailed (by simp)
          simp [heffects]
      · simp
      · simp

/-- The DNS server answers the VM's own address only. -/
theorem Endpoint.source_of_allowedFromVmIpv4
    {e : Endpoint} {destinationMac : EthernetAddress} {pkt : Ipv4Packet} {now : Instant}
    {answer : Except IoError Unit} {bytes : List UInt8} {result : Except IoError Unit}
    (h : .toVm (.dnsReply bytes) result ∈
      (e.allowedFromVmIpv4 crates dhcpCrates destinationMac pkt now answer).2.1) :
    pkt.srcAddr = e.proxy.host.vmIp := by
  have hdhcp := e.dnsReply_not_mem_consumeDhcp dhcpCrates pkt answer result bytes
  have houtcome := e.consumeDhcp_outcome dhcpCrates destinationMac pkt answer
  unfold Endpoint.allowedFromVmIpv4 at h
  generalize e.consumeDhcp dhcpCrates pkt answer = consumed at h hdhcp houtcome
  cases houtcome with
  | silent | replied => exact absurd h hdhcp
  | left =>
      dsimp only at h
      split at h
      · next hsource => exact hsource.symm
      · exact absurd h hdhcp

theorem Endpoint.source_of_dnsReply
    {e : Endpoint} {frame : EthernetFrame} {now : Instant} {answers : WriteAnswers}
    {bytes : List UInt8} {result : Except IoError Unit}
    (h : .toVm (.dnsReply bytes) result ∈
      (e.processFrameFromVm crates dhcpCrates frame now answers).2.1) :
    frame.ipv4.srcAddr = e.proxy.host.vmIp := by
  have hallowed : .toVm (.dnsReply bytes) result ∈
      (e.allowedFromVm crates dhcpCrates frame now answers.vm).2.1 := by
    unfold Endpoint.processFrameFromVm at h
    split at h <;> simp_all
  unfold Endpoint.allowedFromVm at hallowed
  split at hallowed
  · cases hallowed
  · split at hallowed
    · split at hallowed <;> cases hallowed
    · split at hallowed
      · cases hallowed
      · split at hallowed
        · cases hallowed
        · exact Endpoint.source_of_allowedFromVmIpv4 hallowed
    · cases hallowed

end Steps

section Replies

variable {dhcpCrates : DhcpCrates}

/-- What a reply of the DHCP server says and where it goes. -/
theorem DhcpServer.answer_of_receiveVm
    {server : DhcpServer} {ip : Ipv4Packet} {udp : UdpPacket} {reply : UdpFrame}
    (h : server.receiveVm dhcpCrates ip udp = .ok (some reply)) :
    ∃ request kind message destination payload,
      dhcpCrates.fromBytes udp.payload = some request ∧
      server.Answer request kind message destination ∧
      dhcpCrates.toVec message = .ok payload ∧
      reply = server.replyFrame destination payload := by
  obtain ⟨hintact, request, kind, hdecoded, hqualified, hdue⟩ :=
    due_of_receiveVm (by rw [h]; simp)
  have hlen : request.chaddr.length < 256 := by
    rw [hqualified.chaddr, DhcpServer.macOctets_length]
    decide
  rw [receiveVm_of_due hintact hdecoded hqualified hdue] at h
  obtain ⟨payload, hpayload, hreply⟩ := Except.map_eq_ok_iff.mp h
  cases hreply
  exact ⟨request, kind, _, _, payload, hdecoded, hdue.answer hlen, hpayload, rfl⟩

theorem DhcpServer.fits_replyFrame
    (server : DhcpServer)
    (destination : EthernetAddress × Ipv4Address)
    {payload : List UInt8}
    (h : payload.length ≤ 65507) :
    (server.replyFrame destination payload).Fits := by
  unfold UdpFrame.Fits replyFrame
  simp only [List.length_append, List.length_replicate]
  omega

/--
A DHCP client can read what the loop writes.  The octets of every DHCP reply that is written to
the VM and that fits an IPv4 packet are read back, with both checksums verified, as a datagram
of the gateway's that carries, padded to the minimum size, the answer to the request that the
VM had just sent.
-/
theorem dhcp_replies_read_back
    (crates : Crates)
    (dhcpCrates : DhcpCrates)
    (proxy : Proxy)
    (subnetMask : Ipv4Address)
    (searchDomains : List Name)
    (start : Instant)
    (history : List (Step Serving Turn))
    (s : Serving)
    (run : ServingRun crates dhcpCrates proxy subnetMask searchDomains start history s)
    (t : Step Serving Turn)
    (ht : t ∈ history)
    (reply : UdpFrame)
    (result : Except IoError Unit)
    (written : .toVm (.dhcpReply reply) result ∈ t.label.effects)
    (fits : reply.Fits) :
    ∃ frame now answers request kind message destination payload,
      t.label.cause = .vmFrame (some frame) now answers ∧
      frame.srcAddr = proxy.vmMacAddress ∧
      dhcpCrates.fromBytes frame.ipv4.payload.udp.payload = some request ∧
      (Endpoint.new proxy subnetMask searchDomains).dhcpServer.Answer request kind message
        destination ∧
      dhcpCrates.toVec message = .ok payload ∧
      readUdpFrame reply.bytes =
        some ((Endpoint.new proxy subnetMask searchDomains).dhcpServer.replyFrame destination
          payload) := by
  obtain ⟨before, after, hcut⟩ := List.append_of_mem ht
  obtain ⟨hbefore, hstep, _⟩ := run.2.split hcut
  have hrun : ServingRun crates dhcpCrates proxy subnetMask searchDomains start before t.pre :=
    ⟨run.1, hbefore⟩
  obtain ⟨frame, now, answers, hcause, hreply, _⟩ := hstep.toVm_reply written (by simp)
  cases hreply.reply with
  | dhcp _ received =>
      rw [hrun.dhcpServer_eq] at received
      obtain ⟨request, kind, message, destination, payload, hdecoded, hanswer, hpayload, rfl⟩ :=
        DhcpServer.answer_of_receiveVm received
      exact ⟨frame, now, answers, request, kind, message, destination, payload, hcause,
        hreply.srcAddr.trans hrun.identity.2, hdecoded, hanswer, hpayload,
        UdpFrame.readUdpFrame_bytes fits⟩

/-- The VM reads the answer to its discovery. -/
theorem dhcp_replies_read_back_discovery :
    ∃ reply kind message destination payload,
      .toVm (.dhcpReply reply) (.ok ()) ∈ discoveryTaken.label.effects ∧
      askingVm.enterLoop.endpoint.dhcpServer.Answer discovery kind message destination ∧
      discoveringCrates.toVec message = .ok payload ∧
      readUdpFrame reply.bytes =
        some (askingVm.enterLoop.endpoint.dhcpServer.replyFrame destination payload) := by
  have run : ServingRun plainCrates discoveringCrates askingVm 0xffffff00 [] 0
      [discoveryTaken] discoveryTaken.post :=
    ⟨askingVm_fresh, Serving.run_takeFromVm rfl _ (Nat.zero_le _)⟩
  have hwritten : .toVm (.dhcpReply (askingVm.enterLoop.endpoint.dhcpServer.replyFrame
      (0x020000000002, 0x0a000002) discoveryOffer.octets)) (.ok ()) ∈
        discoveryTaken.label.effects := by
    rw [effects_discoveryTaken]
    exact List.mem_singleton_self _
  obtain ⟨frame, _, _, request, kind, message, destination, payload, _, _, hdecoded, hanswer,
      hpayload, hread⟩ :=
    dhcp_replies_read_back plainCrates discoveringCrates askingVm 0xffffff00 [] 0 _ _ run
      discoveryTaken (List.mem_singleton_self _) _ _ hwritten
      (DhcpServer.fits_replyFrame _ _ (by decide +kernel))
  obtain rfl : discovery = request := by
    simp only [discoveringCrates, Option.ite_none_right_eq_some, Option.some.injEq] at hdecoded
    exact hdecoded.2
  exact ⟨_, kind, message, destination, payload, hwritten, hanswer, hpayload, hread⟩

/--
A resolver can read what the loop writes.  The octets of every DNS reply that is written to the
VM fit a frame of the VM's interface and are read back, with both checksums verified, as a
datagram of the gateway's to the port that the VM had just asked from; it carries a response of
the catalog to that query, which is for a name in a zone, within the limit that the query set.
-/
theorem dns_replies_read_back
    (crates : Crates)
    (dhcpCrates : DhcpCrates)
    (dnsCrates : DnsCrates)
    (catalog : Catalog)
    (proxy : Proxy)
    (configured : proxy.dnsServer = some (catalog.server dnsCrates))
    (subnetMask : Ipv4Address)
    (searchDomains : List Name)
    (start : Instant)
    (history : List (Step Serving Turn))
    (s : Serving)
    (run : ServingRun crates dhcpCrates proxy subnetMask searchDomains start history s)
    (t : Step Serving Turn)
    (ht : t ∈ history)
    (bytes : List UInt8)
    (result : Except IoError Unit)
    (written : .toVm (.dnsReply bytes) result ∈ t.label.effects) :
    ∃ frame now answers udp request payload,
      t.label.cause = .vmFrame (some frame) now answers ∧
      frame.srcAddr = proxy.vmMacAddress ∧ frame.ipv4.srcAddr = proxy.host.vmIp ∧
      frame.ipv4.payload.udpChecked = some udp ∧
      catalog.Answers dnsCrates (proxy.host.vmIp, udp.srcPort) udp.payload
        proxy.host.maxPacketSize request payload ∧
      bytes.length ≤ proxy.host.maxPacketSize ∧
      readUdpFrame bytes = some
        ⟨frame.dstAddr, proxy.vmMacAddress, proxy.host.gatewayIp, proxy.host.vmIp, dnsPort,
          udp.srcPort, 64, payload⟩ := by
  obtain ⟨before, after, hcut⟩ := List.append_of_mem ht
  obtain ⟨hbefore, hstep, _⟩ := run.2.split hcut
  have hrun : ServingRun crates dhcpCrates proxy subnetMask searchDomains start before t.pre :=
    ⟨run.1, hbefore⟩
  obtain ⟨hhost, hmac⟩ := hrun.identity
  obtain ⟨frame, now, answers, hcause, hreply, _⟩ := hstep.toVm_reply written (by simp)
  have hsource : frame.ipv4.srcAddr = proxy.host.vmIp := by
    rw [← hhost]
    exact Endpoint.source_of_dnsReply (hstep.effects_of_vmFrame hcause ▸ written)
  cases hreply.reply with
  | @dns dnsServer udp _ hserver asked checked port responded =>
      rw [hrun.keeps fun p event => p.handle_dnsServer crates event, configured] at hserver
      cases hserver
      rw [hmac, hhost] at responded
      rw [hhost] at asked
      obtain ⟨payload, request, rfl, hshort, hanswers⟩ := Catalog.respond_eq_ok_some responded
      rw [hsource] at hanswers
      refine ⟨frame, now, answers, udp, request, payload, hcause, hreply.srcAddr.trans hmac,
        hsource, checked, hanswers, ?_, ?_⟩
      · rw [UdpFrame.length_bytes]
        exact hanswers.frameLimit
      · rw [UdpFrame.readUdpFrame_bytes hshort, Catalog.replyFrame, asked, hsource]

/-- A query for the address of `vm.internal`. -/
def queryOctets : List UInt8 :=
  [0x12, 0x34, 0x01, 0x00, 0, 1, 0, 0, 0, 0, 0, 0,
    2, 0x76, 0x6d, 8, 0x69, 0x6e, 0x74, 0x65, 0x72, 0x6e, 0x61, 0x6c, 0, 0, 1, 0, 1]

/-- The response to it with the address `10.0.0.2`. -/
def responseOctets : List UInt8 :=
  [0x12, 0x34, 0x85, 0x00, 0, 1, 0, 1, 0, 0, 0, 0,
    2, 0x76, 0x6d, 8, 0x69, 0x6e, 0x74, 0x65, 0x72, 0x6e, 0x61, 0x6c, 0, 0, 1, 0, 1,
    0xc0, 0x0c, 0, 1, 0, 1, 0, 0, 0, 60, 0, 4, 10, 0, 0, 2]

def addressResponse : DnsMessage where
  emit maxSize :=
    if responseOctets.length ≤ maxSize.toNat then .ok responseOctets else .error "no room"
  fits := by
    intro maxSize bytes h
    split at h
    · next hroom =>
        cases h
        exact hroom
    · cases h

/-- Only the query is one for a name of the zone. -/
def namingCrates : DnsCrates where
  fromBytes bytes _ :=
    if bytes = queryOctets then some ⟨.query, .query, some ["vm", dnsDomain], 512⟩ else none
  defaultMaxPayloadLen := 1232
  tooLong _ := "too long"

def addressCatalog : Catalog :=
  .new fun _ => .send addressResponse fun _ => .finished

/-- A VM with a DNS server. -/
def namingVm : Proxy :=
  { askingVm with dnsServer := some (addressCatalog.server namingCrates) }

theorem namingVm_fresh : namingVm.Fresh plainCrates 0 :=
  ⟨.insertion, .ok 1514, 0x020000000002, 0x0a000002, ⟨0x0a000001, [0x0a000002]⟩,
    _, _, some (addressCatalog.server namingCrates), rfl⟩

/-- The VM asks the gateway for a name. -/
def queryTaken : Step Serving Turn :=
  let pkt := (udpPacket 0x0a000002 1234 0x0a000001 dnsPort).withDatagram queryOctets
  namingVm.enterLoop.takeFromVm { pkt with verifyChecksum := true } 5

/-- The VM reads its address from port 53 of the gateway. -/
theorem dns_replies_read_back_query :
    ∃ bytes frame, .toVm (.dnsReply bytes) (.ok ()) ∈ queryTaken.label.effects ∧
      bytes.length ≤ 1514 ∧ readUdpFrame bytes = some frame ∧
      frame.sourceIp = 0x0a000001 ∧ frame.destinationIp = 0x0a000002 ∧
      frame.destinationPort = 1234 ∧ frame.payload = responseOctets := by
  have run : ServingRun plainCrates discoveringCrates namingVm 0xffffff00 [] 0
      [queryTaken] queryTaken.post :=
    ⟨namingVm_fresh, Serving.run_takeFromVm rfl _ (Nat.zero_le _)⟩
  obtain ⟨bytes, hwritten⟩ : ∃ bytes, .toVm (.dnsReply bytes) (.ok ()) ∈
      queryTaken.label.effects :=
    ⟨_, List.mem_singleton_self _⟩
  obtain ⟨frame, _, _, udp, _, payload, hcause, _, _, hchecked, hanswers, hlength, hread⟩ :=
    dns_replies_read_back plainCrates discoveringCrates namingCrates addressCatalog namingVm rfl
      0xffffff00 [] 0 _ _ run queryTaken (List.mem_singleton_self _) _ _ hwritten
  cases hcause
  cases hchecked
  have hpayload : payload = responseOctets := by
    obtain ⟨message, limit, hsends, hemitted⟩ := hanswers.encoded
    cases hsends with
    | now =>
        simp only [addressResponse] at hemitted
        split at hemitted
        · exact (Except.ok.inj hemitted).symm
        · cases hemitted
    | later sends => cases sends
  exact ⟨bytes, _, hwritten, hlength, hread, rfl, rfl, rfl, hpayload⟩

end Replies

end Softnet
