import Softnet.Dhcp.Server

/-!
# Only the reserved address, and only to the attached VM

`Due` says which requests are answered, and how: with an OFFER or an ACK of the reserved
address, or with a NAK.  The server answers exactly these, and an `Answer` goes to every
station or to the attached VM at its reserved address, in the frame that `replyFrame` spells
out.  The address that a client claims to have is used for addressing only where it is the
reserved one.
-/

namespace Softnet

namespace DhcpServer

section Specification

/-- A whole datagram of a DHCP client with valid checksums. -/
structure Intact (crates : DhcpCrates) (ip : Ipv4Packet) (udp : UdpPacket) : Prop where
  srcPort : udp.srcPort = clientPort
  ipChecksum : ip.verifyChecksum = true
  whole : ip.moreFrags = false ∧ ip.fragOffset = 0
  udpParses : crates.udpParses ip udp = true

/-- The attached VM asks this server, and asks it directly. -/
structure Qualified (server : DhcpServer) (ip : Ipv4Packet) (request : Message) : Prop where
  destination : ip.dstAddr = broadcastIp ∨ ip.dstAddr = server.gatewayIp
  opcode : request.opcode = .bootRequest
  htype : request.htype = .eth
  hlen : request.hlen = 6
  chaddr : request.chaddr = macOctets server.vmMac
  direct : request.giaddr = 0
  selected : ∀ address, request.serverId = some address → address = server.gatewayIp

/-- The address that a REQUEST is about. -/
inductive Asks (request : Message) : Ipv4Address → Prop
  | selecting
      {address : Ipv4Address}
      (requested : request.requestedIp = some address)
      (unspecified : request.ciaddr = 0) :
      Asks request address
  | renewing
      (notRequested : request.requestedIp = none)
      (notSelected : request.serverId = none)
      (specified : request.ciaddr ≠ 0) :
      Asks request request.ciaddr

/-- The reply that a request from this source address is due. -/
inductive Due (server : DhcpServer) (source : Ipv4Address) (request : Message) :
    MessageType → Prop
  | offer
      (msgType : request.opts.msgType = some .discover)
      (unspecified : request.ciaddr = 0)
      (notSelected : request.serverId = none)
      (origin : source = 0 ∨ source = server.vmIp) :
      Due server source request .offer
  | ack
      (msgType : request.opts.msgType = some .request)
      (asks : Asks request server.vmIp) :
      Due server source request .ack
  | nak
      {address : Ipv4Address}
      (msgType : request.opts.msgType = some .request)
      (asks : Asks request address)
      (other : address ≠ server.vmIp) :
      Due server source request .nak

/-- What every reply of this type says, and where it goes. -/
structure Answer
    (server : DhcpServer)
    (request : Message)
    (kind : MessageType)
    (reply : Message)
    (destination : EthernetAddress × Ipv4Address) :
    Prop where
  opcode : reply.opcode = .bootReply
  msgType : reply.opts.msgType = some kind
  yiaddr : reply.yiaddr = if kind = .nak then 0 else server.vmIp
  xid : reply.xid = request.xid
  chaddr : reply.chaddr = request.chaddr
  clientIdentifier : reply.opts.get .clientIdentifier = request.opts.get .clientIdentifier
  serverId : reply.serverId = some server.gatewayIp
  destination : destination = (broadcastMac, broadcastIp) ∨
    destination = (server.vmMac, server.vmIp)

/-- The frame of a reply: from port 67 of the gateway to port 68, padded to 300 octets. -/
def replyFrame
    (server : DhcpServer)
    (destination : EthernetAddress × Ipv4Address)
    (payload : List UInt8) :
    UdpFrame where
  sourceMac := 0x020000000001
  destinationMac := destination.1
  sourceIp := server.gatewayIp
  destinationIp := destination.2
  sourcePort := 67
  destinationPort := 68
  hopLimit := 64
  payload := payload ++ List.replicate (300 - payload.length) 0

end Specification

/-! ## Replies -/

section Replies

variable (server : DhcpServer)
variable (request : Message)

theorem macOctets_length (address : EthernetAddress) : (macOctets address).length = 6 :=
  rfl

theorem chaddr_setChaddr
    (message : Message)
    {chaddr : List UInt8}
    (h : chaddr.length < 256) :
    (message.setChaddr chaddr).chaddr = chaddr := by
  have hlen : (UInt8.ofNat chaddr.length).toNat = chaddr.length := UInt8.toNat_ofNat_of_lt' h
  simp [Message.chaddr, Message.setChaddr, hlen]

/-- The options of every reply. -/
theorem get_reply
    (kind : MessageType)
    (code : OptionCode) :
    (server.reply request kind).opts.get code =
      if code = .clientIdentifier then
        request.opts.get .clientIdentifier
      else if code = .serverIdentifier then
        some (.serverIdentifier server.gatewayIp)
      else if code = .messageType then
        some (.messageType kind)
      else
        none := by
  cases hidentifier : request.opts.get .clientIdentifier with
  | none =>
      simp only [reply, hidentifier]
      split <;> by_cases hcode : code = .clientIdentifier <;>
        simp [Message.insert, Message.setChaddr, Message.default, DhcpOption.code, hcode]
  | some identifier =>
      obtain ⟨bytes, rfl⟩ : ∃ bytes, identifier = .clientIdentifier bytes := by
        have hkeyed := request.opts.keyed _ _ hidentifier
        cases identifier <;> simp_all [DhcpOption.code]
      simp only [reply, hidentifier]
      split <;>
        simp [Message.insert, Message.setChaddr, Message.default, DhcpOption.code]

theorem get_addressReply
    (kind : MessageType)
    {code : OptionCode}
    (hcode : code = .messageType ∨ code = .serverIdentifier ∨ code = .clientIdentifier) :
    (server.addressReply request kind).opts.get code =
      (server.reply request kind).opts.get code := by
  unfold addressReply
  rcases hcode with rfl | rfl | rfl <;> split <;> simp [Message.insert, DhcpOption.code]

/-- A reply carries the request's transaction and hardware address. -/
theorem reply_fields
    (kind : MessageType) :
    (server.reply request kind).opcode = .bootReply ∧
      (server.reply request kind).xid = request.xid ∧
      (server.reply request kind).yiaddr = 0 ∧
      (server.reply request kind).hlen = (Message.default.setChaddr request.chaddr).hlen ∧
      (server.reply request kind).chaddrField =
        (Message.default.setChaddr request.chaddr).chaddrField := by
  by_cases hkind : kind = .nak <;>
    cases hidentifier : request.opts.get .clientIdentifier <;>
    simp [reply, Message.insert, Message.setChaddr, Message.default, hkind, hidentifier]

theorem addressReply_fields
    (kind : MessageType) :
    (server.addressReply request kind).opcode = (server.reply request kind).opcode ∧
      (server.addressReply request kind).xid = (server.reply request kind).xid ∧
      (server.addressReply request kind).yiaddr = server.vmIp ∧
      (server.addressReply request kind).hlen = (server.reply request kind).hlen ∧
      (server.addressReply request kind).chaddrField =
        (server.reply request kind).chaddrField := by
  unfold addressReply
  split <;> simp [Message.insert]

end Replies

/-! ## Requests -/

section Requests

variable {server : DhcpServer}
variable {ip : Ipv4Packet}
variable {request reply : Message}
variable {kind : MessageType}
variable {source address : Ipv4Address}

/-- The reply of this type. -/
def dueReply (server : DhcpServer) (request : Message) (kind : MessageType) : Message :=
  if kind = .nak then server.reply request kind else server.addressReply request kind

/-- A REQUEST is about one address. -/
theorem Asks.unique
    {address' : Ipv4Address}
    (h : Asks request address)
    (h' : Asks request address') :
    address = address' := by
  cases h <;> cases h' <;> simp_all

/-- At most one type of reply is due. -/
theorem Due.unique
    {kind' : MessageType}
    (h : Due server source request kind)
    (h' : Due server source request kind') :
    kind = kind' := by
  cases h with
  | offer msgType =>
      cases h' with
      | offer => rfl
      | ack msgType' => simp [msgType] at msgType'
      | nak msgType' => simp [msgType] at msgType'
  | ack msgType asks =>
      cases h' with
      | offer msgType' => simp [msgType] at msgType'
      | ack => rfl
      | nak _ asks' other => exact absurd (asks'.unique asks) other
  | nak msgType asks other =>
      cases h' with
      | offer msgType' => simp [msgType] at msgType'
      | ack _ asks' => exact absurd (asks.unique asks') other
      | nak => rfl

/-- The claimed address of a request that is not refused is the reserved one, if any. -/
theorem Due.ciaddr
    (h : Due server source request kind)
    (hkind : kind ≠ .nak) :
    request.ciaddr = 0 ∨ request.ciaddr = server.vmIp := by
  cases h with
  | offer _ unspecified => exact .inl unspecified
  | ack _ asks =>
      generalize server.vmIp = vmIp at asks
      cases asks with
      | selecting _ unspecified => exact .inl unspecified
      | renewing => exact .inr rfl
  | nak => exact absurd rfl hkind

theorem dueReply_get
    {code : OptionCode}
    (hcode : code = .messageType ∨ code = .serverIdentifier ∨ code = .clientIdentifier) :
    (server.dueReply request kind).opts.get code =
      (server.reply request kind).opts.get code := by
  unfold dueReply
  split
  · rfl
  · exact get_addressReply server request kind hcode

theorem dueReply_fields :
    (server.dueReply request kind).opcode = .bootReply ∧
      (server.dueReply request kind).xid = request.xid ∧
      (server.dueReply request kind).yiaddr = (if kind = .nak then 0 else server.vmIp) ∧
      (server.dueReply request kind).hlen = (Message.default.setChaddr request.chaddr).hlen ∧
      (server.dueReply request kind).chaddrField =
        (Message.default.setChaddr request.chaddr).chaddrField := by
  obtain ⟨hopcode, hxid, hyiaddr, hhlen, hchaddr⟩ := reply_fields server request kind
  unfold dueReply
  split
  · exact ⟨hopcode, hxid, hyiaddr, hhlen, hchaddr⟩
  · obtain ⟨hopcode', hxid', hyiaddr', hhlen', hchaddr'⟩ := addressReply_fields server request kind
    exact ⟨hopcode'.trans hopcode, hxid'.trans hxid, hyiaddr', hhlen'.trans hhlen,
      hchaddr'.trans hchaddr⟩

theorem dueReply_msgType : (server.dueReply request kind).opts.msgType = some kind := by
  simp [DhcpOptions.msgType, dueReply_get, get_reply]

/-- A reply is broadcast, or sent to the attached VM at its reserved address. -/
theorem Due.destination_cases
    (h : Due server source request kind) :
    server.destination request (server.dueReply request kind) = (broadcastMac, broadcastIp) ∨
      server.destination request (server.dueReply request kind) = (server.vmMac, server.vmIp) := by
  unfold destination
  rw [dueReply_msgType, dueReply_fields.2.2.1]
  split
  · exact .inl rfl
  · next hunicast =>
      have hkind : kind ≠ .nak := fun h => hunicast (.inl (congrArg some h))
      right
      split
      · next hspecified =>
          rcases h.ciaddr hkind with hciaddr | hciaddr
          · simp [hciaddr, isUnspecified] at hspecified
          · rw [hciaddr]
      · rfl

theorem Due.answer
    (hlen : request.chaddr.length < 256)
    (h : Due server source request kind) :
    Answer server request kind (server.dueReply request kind)
      (server.destination request (server.dueReply request kind)) := by
  obtain ⟨hopcode, hxid, hyiaddr, hhlen, hchaddr⟩ :=
    @dueReply_fields server request kind
  refine ⟨hopcode, dueReply_msgType, hyiaddr, hxid, ?_, ?_, ?_, h.destination_cases⟩
  · rw [Message.chaddr, hhlen, hchaddr]
    exact chaddr_setChaddr Message.default hlen
  · rw [dueReply_get (.inr (.inr rfl)), get_reply, if_pos rfl]
  · simp [Message.serverId, dueReply_get, get_reply]

theorem askedAddress_eq_some_iff :
    request.askedAddress = some address ↔ Asks request address := by
  constructor
  · intro h
    unfold Message.askedAddress at h
    cases selected : request.serverId <;> cases requested : request.requestedIp <;>
      cases unspecified : isUnspecified request.ciaddr <;>
      simp only [selected, requested, unspecified, Option.some.injEq, reduceCtorEq] at h
    · subst h
      exact .renewing requested selected fun h => by simp [h, isUnspecified] at unspecified
    · exact .selecting (h ▸ requested) (isUnspecified_iff.mp unspecified)
    · exact .selecting (h ▸ requested) (isUnspecified_iff.mp unspecified)
  · intro h
    cases h with
    | selecting requested unspecified =>
        simp [Message.askedAddress, requested, isUnspecified_iff.mpr unspecified]
    | renewing requested selected specified =>
        have hspecified : isUnspecified request.ciaddr = false := by
          rw [← Bool.not_eq_true, isUnspecified_iff]
          exact specified
        simp [Message.askedAddress, requested, selected, hspecified]

theorem respond_of_due
    (h : Due server source request kind) :
    server.respond request = some (server.dueReply request kind) := by
  cases h with
  | offer msgType unspecified notSelected =>
      simp [respond, msgType, unspecified, notSelected, dueReply, isUnspecified]
  | ack msgType asks =>
      simp [respond, msgType, askedAddress_eq_some_iff.mpr asks, dueReply]
  | nak msgType asks other =>
      simp [respond, msgType, askedAddress_eq_some_iff.mpr asks, other, dueReply]

theorem due_of_respond
    (horigin : request.opts.msgType = some .request ∨ source = 0 ∨ source = server.vmIp)
    (h : server.respond request = some reply) :
    ∃ kind, Due server source request kind := by
  unfold respond at h
  split at h
  · next msgType =>
      split at h
      · next hfresh =>
          have hsource := horigin.resolve_left (by simp [msgType])
          exact ⟨.offer, .offer msgType (isUnspecified_iff.mp hfresh.1) hfresh.2 hsource⟩
      · cases h
  · next msgType =>
      split at h
      · cases h
      · next address hasked =>
          have asks := askedAddress_eq_some_iff.mp hasked
          by_cases hreserved : address = server.vmIp
          · exact ⟨.ack, .ack msgType (hreserved ▸ asks)⟩
          · exact ⟨.nak, .nak msgType asks hreserved⟩
  · cases h

/-- Requests that pass the checks of `receive` are answered by `respond`. -/
theorem Qualified.receive_eq
    (h : Qualified server ip request) :
    server.receive request = server.respond request := by
  have hvm : ¬ (request.opcode ≠ .bootRequest ∨ request.htype ≠ .eth ∨
      request.hlen ≠ UInt8.ofNat (macOctets server.vmMac).length ∨
      request.chaddr ≠ macOctets server.vmMac ∨ !isUnspecified request.giaddr) := by
    simp only [not_or, not_not, ne_eq, Bool.not_eq_true, Bool.not_eq_false', isUnspecified_iff]
    exact ⟨h.opcode, h.htype, h.hlen, h.chaddr, h.direct⟩
  have hselected : ¬ request.serverId.any (· ≠ server.gatewayIp) = true := by
    cases hserver : request.serverId with
    | none => simp
    | some address => simp [h.selected address hserver]
  rw [receive, if_neg hvm, if_neg hselected]

theorem qualified_of_receive
    (hdestination : ip.dstAddr = broadcastIp ∨ ip.dstAddr = server.gatewayIp)
    (h : server.receive request = some reply) :
    Qualified server ip request := by
  unfold receive at h
  split at h
  · cases h
  · next hvm =>
      split at h
      · cases h
      · next hselected =>
          simp only [not_or, not_not, ne_eq, Bool.not_eq_true, Bool.not_eq_false',
            isUnspecified_iff] at hvm
          obtain ⟨hopcode, hhtype, hhlen, hchaddr, hdirect⟩ := hvm
          refine ⟨hdestination, hopcode, hhtype, hhlen, hchaddr, hdirect, ?_⟩
          intro address haddress
          simpa [haddress] using hselected

end Requests

/-! ## Datagrams -/

section Datagrams

variable {crates : DhcpCrates}
variable {server : DhcpServer}
variable {ip : Ipv4Packet}
variable {udp : UdpPacket}
variable {request : Message}
variable {kind : MessageType}

/-- A reply is sent in its frame, unless its message cannot be encoded. -/
theorem encodePacket_eq
    (server : DhcpServer)
    (reply : Message)
    (destination : EthernetAddress × Ipv4Address) :
    encodePacket crates reply dhcpServerMac destination.1 server.gatewayIp destination.2
        serverPort clientPort =
      (crates.toVec reply).map (server.replyFrame destination) := by
  unfold encodePacket
  cases crates.toVec reply <;> rfl

theorem intact_iff :
    Intact crates ip udp ↔
      ¬ (udp.srcPort ≠ clientPort ∨ !ip.verifyChecksum ∨ ip.moreFrags ∨ ip.fragOffset ≠ 0 ∨
        !crates.udpParses ip udp) := by
  simp only [not_or, not_not, ne_eq, Bool.not_eq_true, Bool.not_eq_false']
  constructor
  · rintro ⟨srcPort, ipChecksum, ⟨last, first⟩, udpParses⟩
    exact ⟨srcPort, ipChecksum, last, first, udpParses⟩
  · rintro ⟨srcPort, ipChecksum, last, first, udpParses⟩
    exact ⟨srcPort, ipChecksum, ⟨last, first⟩, udpParses⟩

/-- An intact request that is due a reply is sent it. -/
theorem receiveVm_of_due
    (hintact : Intact crates ip udp)
    (hdecoded : crates.fromBytes udp.payload = some request)
    (hqualified : Qualified server ip request)
    (hdue : Due server ip.srcAddr request kind) :
    server.receiveVm crates ip udp =
      (crates.toVec (server.dueReply request kind)).map fun payload =>
        some (server.replyFrame (server.destination request (server.dueReply request kind))
          payload) := by
  have horigin : ¬ (request.opts.msgType ≠ some .request ∧ !isUnspecified ip.srcAddr ∧
      server.vmIp ≠ ip.srcAddr) := by
    rintro ⟨hmsgType, hspecified, hother⟩
    cases hdue with
    | offer _ _ _ origin =>
        rcases origin with horigin | horigin
        · simp [horigin, isUnspecified] at hspecified
        · exact hother horigin.symm
    | ack msgType => exact hmsgType msgType
    | nak msgType => exact hmsgType msgType
  simp only [receiveVm, if_neg (intact_iff.mp hintact), if_neg (not_not.mpr hqualified.destination),
    hdecoded, if_neg horigin, hqualified.receive_eq, respond_of_due hdue, encodePacket_eq]
  cases crates.toVec (server.dueReply request kind) <;> rfl

/-- Whatever is answered was an intact request that was due a reply. -/
theorem due_of_receiveVm
    (h : server.receiveVm crates ip udp ≠ .ok none) :
    Intact crates ip udp ∧
      ∃ request kind, crates.fromBytes udp.payload = some request ∧
        Qualified server ip request ∧ Due server ip.srcAddr request kind := by
  unfold receiveVm at h
  split at h
  · exact absurd rfl h
  · next hintact =>
      split at h
      · exact absurd rfl h
      · next hdestination =>
          split at h
          · exact absurd rfl h
          · next request hdecoded =>
              split at h
              · exact absurd rfl h
              · next horigin =>
                  cases hreply : server.receive request with
                  | none => simp [hreply] at h
                  | some reply =>
                      have hqualified := qualified_of_receive (not_not.mp hdestination) hreply
                      rw [hqualified.receive_eq] at hreply
                      have horigin : request.opts.msgType = some .request ∨
                          ip.srcAddr = 0 ∨ ip.srcAddr = server.vmIp := by
                        simp only [not_and_or, not_not, ne_eq, Bool.not_eq_true,
                          Bool.not_eq_false', isUnspecified_iff] at horigin
                        exact horigin.imp_right (Or.imp_right Eq.symm)
                      obtain ⟨kind, hdue⟩ := due_of_respond horigin hreply
                      exact ⟨intact_iff.mpr hintact, request, kind, hdecoded, hqualified, hdue⟩

end Datagrams

end DhcpServer

/-- A client that requests the address it was offered is acknowledged. -/
theorem DhcpServer.Answer.leads_to_ack
    {server : DhcpServer} {request offer request' : Message} {source : Ipv4Address}
    {destination : EthernetAddress × Ipv4Address}
    (h : server.Answer request .offer offer destination)
    (msgType : request'.opts.msgType = some .request)
    (requested : request'.requestedIp = some offer.yiaddr)
    (unspecified : request'.ciaddr = 0) :
    server.Due source request' .ack := by
  have hoffered : offer.yiaddr = server.vmIp := by simp [h.yiaddr]
  exact .ack msgType (hoffered ▸ .selecting requested unspecified)

/--
The server hands out the reserved address only, and only to the attached VM.  It answers
exactly the intact requests that are due a reply, each with a reply of the one type that it
is due; every reply repeats the identifiers of the request, names the gateway as the server,
carries the reserved address unless it is a NAK, and is broadcast or sent to the attached VM
at its reserved address.  What is produced is the frame with that reply and these destinations,
unless the message cannot be encoded.
-/
theorem dhcp_hands_out_reservation_only
    (crates : DhcpCrates)
    (server : DhcpServer)
    (ip : Ipv4Packet)
    (udp : UdpPacket) :
    (server.receiveVm crates ip udp ≠ .ok none →
      DhcpServer.Intact crates ip udp ∧
        ∃ request kind, crates.fromBytes udp.payload = some request ∧
          server.Qualified ip request ∧ server.Due ip.srcAddr request kind) ∧
    ∀ request kind,
      DhcpServer.Intact crates ip udp → crates.fromBytes udp.payload = some request →
      server.Qualified ip request → server.Due ip.srcAddr request kind →
      (∀ kind', server.Due ip.srcAddr request kind' → kind' = kind) ∧
      ∃ reply destination, server.Answer request kind reply destination ∧
        (∀ payload, crates.toVec reply = .ok payload →
          server.receiveVm crates ip udp = .ok (some (server.replyFrame destination payload))) ∧
        ∀ error, crates.toVec reply = .error error →
          server.receiveVm crates ip udp = .error error := by
  refine ⟨DhcpServer.due_of_receiveVm, ?_⟩
  intro request kind hintact hdecoded hqualified hdue
  have hlen : request.chaddr.length < 256 := by
    rw [hqualified.chaddr, DhcpServer.macOctets_length]
    decide
  have hsent := DhcpServer.receiveVm_of_due hintact hdecoded hqualified hdue
  refine ⟨fun kind' hdue' => hdue'.unique hdue, _, _, hdue.answer hlen, ?_, ?_⟩
  · intro payload hpayload
    rw [hsent, hpayload]
    rfl
  · intro error herror
    rw [hsent, herror]
    rfl

end Softnet
