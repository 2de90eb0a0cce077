import Softnet.Network
import Mathlib.Data.Finmap

/-!
# The DHCP server

`lib/dhcp_server/mod.rs`: one server for each VM, which knows the reserved address of its
VM and nothing else.  Messages are what `dhcproto` decodes, with the fields that the
server reads or writes; the frame of a reply is what `smoltcp` was told to write.
-/

namespace Softnet

/-- A DNS name of a VM. -/
abbrev Name : Type := String

/-- `DHCP_SERVER_MAC`. -/
def dhcpServerMac : EthernetAddress := 0x020000000001

/-- `EthernetAddress::BROADCAST`. -/
def broadcastMac : EthernetAddress := 0xffffffffffff

/-- `Ipv4Address::BROADCAST`. -/
def broadcastIp : Ipv4Address := 0xffffffff

/-- `Ipv4Address::is_unspecified`. -/
def isUnspecified (address : Ipv4Address) : Bool :=
  address == 0

@[simp] theorem isUnspecified_iff
    {address : Ipv4Address} :
    isUnspecified address = true ↔ address = 0 :=
  beq_iff_eq

/-- The six bytes of an Ethernet address. -/
def macOctets (address : EthernetAddress) : List UInt8 :=
  [40, 32, 24, 16, 8, 0].map fun shift => UInt8.ofNat (address >>> shift).toNat

/-- `MIN_PACKET_SIZE` of `dhcproto`. -/
def minPacketSize : Nat := 300

/-! ## Messages -/

inductive MessageType where
  | discover
  | offer
  | request
  | decline
  | ack
  | nak
  | release
  | inform
  | other (number : UInt8)
deriving DecidableEq

inductive OptionCode where
  | subnetMask
  | router
  | domainNameServer
  | requestedIpAddress
  | addressLeaseTime
  | messageType
  | serverIdentifier
  | clientIdentifier
  | domainSearch
  | other (number : UInt8)
deriving DecidableEq

inductive DhcpOption where
  | subnetMask (address : Ipv4Address)
  | router (addresses : List Ipv4Address)
  | domainNameServer (addresses : List Ipv4Address)
  | requestedIpAddress (address : Ipv4Address)
  | addressLeaseTime (seconds : UInt32)
  | messageType (messageType : MessageType)
  | serverIdentifier (address : Ipv4Address)
  | clientIdentifier (bytes : List UInt8)
  | domainSearch (domains : List Name)
  | other (number : UInt8) (bytes : List UInt8)
deriving DecidableEq

/-- `OptionCode::from`. -/
def DhcpOption.code : DhcpOption → OptionCode
  | .subnetMask _ => .subnetMask
  | .router _ => .router
  | .domainNameServer _ => .domainNameServer
  | .requestedIpAddress _ => .requestedIpAddress
  | .addressLeaseTime _ => .addressLeaseTime
  | .messageType _ => .messageType
  | .serverIdentifier _ => .serverIdentifier
  | .clientIdentifier _ => .clientIdentifier
  | .domainSearch _ => .domainSearch
  | .other number _ => .other number

/-- The options of a message; each is stored under its own code. -/
structure DhcpOptions where
  entries : Finmap (fun _ : OptionCode => DhcpOption)
  keyed : ∀ code option, entries.lookup code = some option → option.code = code

namespace DhcpOptions

def empty : DhcpOptions :=
  ⟨∅, by simp⟩

def get (options : DhcpOptions) (code : OptionCode) : Option DhcpOption :=
  options.entries.lookup code

def insert (options : DhcpOptions) (option : DhcpOption) : DhcpOptions where
  entries := options.entries.insert option.code option
  keyed := by
    intro code stored h
    by_cases hcode : code = option.code
    · subst hcode
      rw [Finmap.lookup_insert] at h
      cases h
      rfl
    · rw [Finmap.lookup_insert_of_ne _ hcode] at h
      exact options.keyed code stored h

/-- `msg_type`; no other option is stored under its code. -/
def msgType (options : DhcpOptions) : Option MessageType :=
  match options.get .messageType with
  | some (.messageType messageType) => some messageType
  | _ => none

@[simp] theorem get_empty (code : OptionCode) : empty.get code = none := by
  simp [get, empty]

@[simp] theorem get_insert
    (options : DhcpOptions)
    (option : DhcpOption)
    (code : OptionCode) :
    (options.insert option).get code =
      if code = option.code then some option else options.get code := by
  by_cases h : code = option.code
  · subst h
    simp [get, insert]
  · rw [if_neg h]
    exact Finmap.lookup_insert_of_ne _ h

end DhcpOptions

inductive Opcode where
  | bootRequest
  | bootReply
  | unknown (number : UInt8)
deriving DecidableEq

inductive HType where
  | eth
  | other (number : UInt8)
deriving DecidableEq

/-- The flags of a message; the first bit asks for broadcasts. -/
abbrev Flags : Type := BitVec 16

def Flags.broadcast (flags : Flags) : Bool :=
  flags.msb

def Flags.setBroadcast (flags : Flags) : Flags :=
  flags ||| 0x8000

structure Message where
  opcode : Opcode
  htype : HType
  hlen : UInt8
  xid : UInt32
  flags : Flags
  ciaddr : Ipv4Address
  yiaddr : Ipv4Address
  giaddr : Ipv4Address
  /-- The sixteen bytes of the hardware address field. -/
  chaddrField : List UInt8
  opts : DhcpOptions

namespace Message

/-- `Message::default()`, but for its random transaction id. -/
def default : Message where
  opcode := .bootRequest
  htype := .eth
  hlen := 0
  xid := 0
  flags := 0
  ciaddr := 0
  yiaddr := 0
  giaddr := 0
  chaddrField := List.replicate 16 0
  opts := .empty

def chaddr (message : Message) : List UInt8 :=
  message.chaddrField.take message.hlen.toNat

def setChaddr (message : Message) (chaddr : List UInt8) : Message :=
  { message with
    hlen := UInt8.ofNat chaddr.length
    chaddrField := chaddr ++ List.replicate (16 - chaddr.length) 0 }

def insert (message : Message) (option : DhcpOption) : Message :=
  { message with opts := message.opts.insert option }

/-- The server that the client selected. -/
def serverId (message : Message) : Option Ipv4Address :=
  match message.opts.get .serverIdentifier with
  | some (.serverIdentifier address) => some address
  | _ => none

def requestedIp (message : Message) : Option Ipv4Address :=
  match message.opts.get .requestedIpAddress with
  | some (.requestedIpAddress address) => some address
  | _ => none

/--
The address that a REQUEST is about: option 50 for SELECTING and INIT-REBOOT, `ciaddr` for
RENEWING and REBINDING.
-/
def askedAddress (message : Message) : Option Ipv4Address :=
  match message.serverId, message.requestedIp, isUnspecified message.ciaddr with
  | _, some address, true => some address
  | none, none, false => some message.ciaddr
  | _, _, _ => none

end Message

/-- What the crates outside the repository make of datagrams and messages. -/
structure DhcpCrates where
  /-- Whether `UdpRepr::parse` of `smoltcp` accepts a datagram, checksum included. -/
  udpParses : Ipv4Packet → UdpPacket → Bool
  /-- `Message::from_bytes` of `dhcproto`. -/
  fromBytes : List UInt8 → Option Message
  /-- `Message::to_vec` of `dhcproto`. -/
  toVec : Message → Except ErrorChain (List UInt8)

/-- A frame with IPv4 and UDP headers, by what was written into it. -/
structure UdpFrame where
  sourceMac : EthernetAddress
  destinationMac : EthernetAddress
  sourceIp : Ipv4Address
  destinationIp : Ipv4Address
  sourcePort : UInt16
  destinationPort : UInt16
  hopLimit : UInt8
  payload : List UInt8

def encodePacket
    (crates : DhcpCrates)
    (message : Message)
    (sourceMac destinationMac : EthernetAddress)
    (sourceIp destinationIp : Ipv4Address)
    (sourcePort destinationPort : UInt16) :
    Except ErrorChain UdpFrame := do
  let payload ← crates.toVec message
  -- Pad the encoded message to the minimum BOOTP size, including short NAKs
  let payload := payload ++ List.replicate (minPacketSize - payload.length) 0
  return ⟨sourceMac, destinationMac, sourceIp, destinationIp, sourcePort, destinationPort, 64,
    payload⟩

/-! ## The server -/

structure DhcpServer where
  vmMac : EthernetAddress
  vmIp : Ipv4Address
  subnetMask : Ipv4Address
  gatewayIp : Ipv4Address
  searchDomains : List Name

namespace DhcpServer

/-- Builds a DHCP reply with the request's transaction and client identifiers. -/
def reply (server : DhcpServer) (request : Message) (messageType : MessageType) : Message :=
  let reply :=
    { Message.default.setChaddr request.chaddr with
      xid := request.xid
      opcode := .bootReply }
  -- Broadcast NAKs; otherwise retain the client's address and flags
  let reply :=
    if messageType = .nak then
      { reply with flags := Flags.setBroadcast 0 }
    else
      { reply with ciaddr := request.ciaddr, flags := request.flags }
  let reply :=
    (reply.insert (.messageType messageType)).insert (.serverIdentifier server.gatewayIp)
  match request.opts.get .clientIdentifier with
  | some identifier => reply.insert identifier
  | none => reply

/-- Builds an OFFER or ACK with the VM's reserved address and network configuration. -/
def addressReply
    (server : DhcpServer)
    (request : Message)
    (messageType : MessageType) :
    Message :=
  let reply := { server.reply request messageType with yiaddr := server.vmIp }
  let reply :=
    (((reply.insert (.subnetMask server.subnetMask)).insert
      (.router [server.gatewayIp])).insert
      (.domainNameServer [server.gatewayIp])).insert
      (.addressLeaseTime 0xffffffff)
  if server.searchDomains ≠ [] then
    reply.insert (.domainSearch server.searchDomains)
  else
    reply

/-- The last part of `receive`: offer the reserved address or validate a request for it. -/
def respond (server : DhcpServer) (request : Message) : Option Message :=
  match request.opts.msgType with
  | some .discover =>
      if isUnspecified request.ciaddr ∧ request.serverId = none then
        some (server.addressReply request .offer)
      else
        none
  | some .request =>
      match request.askedAddress with
      | none => none
      | some address =>
          if address ≠ server.vmIp then
            some (server.reply request .nak)
          else
            some (server.addressReply request .ack)
  | _ => none

/-- Handles a DHCP request from the attached VM. -/
def receive (server : DhcpServer) (request : Message) : Option Message :=
  -- Only accept direct Ethernet requests from the attached VM
  if request.opcode ≠ .bootRequest ∨ request.htype ≠ .eth ∨
      request.hlen ≠ UInt8.ofNat (macOctets server.vmMac).length ∨
      request.chaddr ≠ macOctets server.vmMac ∨ !isUnspecified request.giaddr then
    none
  -- Ignore requests that select another DHCP server
  else if request.serverId.any (· ≠ server.gatewayIp) then
    none
  else
    server.respond request

/-- Where a reply is sent. -/
def destination
    (server : DhcpServer)
    (request reply : Message) :
    EthernetAddress × Ipv4Address :=
  -- Broadcast NAKs and requested broadcasts; otherwise unicast to the VM
  if reply.opts.msgType = some .nak ∨ request.flags.broadcast then
    (broadcastMac, broadcastIp)
  else if !isUnspecified request.ciaddr then
    (server.vmMac, request.ciaddr)
  else
    (server.vmMac, reply.yiaddr)

/-- Returns a reply for a request sent to the DHCP server port. -/
def receiveVm
    (crates : DhcpCrates)
    (server : DhcpServer)
    (ip : Ipv4Packet)
    (udp : UdpPacket) :
    Except ErrorChain (Option UdpFrame) :=
  -- Accept only intact DHCP client datagrams with valid checksums
  if udp.srcPort ≠ clientPort ∨ !ip.verifyChecksum ∨ ip.moreFrags ∨ ip.fragOffset ≠ 0 ∨
      !crates.udpParses ip udp then
    .ok none
  -- Only accept broadcasts or requests addressed to our gateway
  else if ¬ (ip.dstAddr = broadcastIp ∨ ip.dstAddr = server.gatewayIp) then
    .ok none
  else
    match crates.fromBytes udp.payload with
    | none => .ok none
    | some request =>
        -- Allow REQUESTs from an obsolete address so the VM can receive a NAK
        if request.opts.msgType ≠ some .request ∧ !isUnspecified ip.srcAddr ∧
            server.vmIp ≠ ip.srcAddr then
          .ok none
        else
          match server.receive request with
          | none => .ok none
          | some reply => do
              let (destinationMac, destinationIp) := server.destination request reply
              let packet ← encodePacket crates reply dhcpServerMac destinationMac
                server.gatewayIp destinationIp serverPort clientPort
              return some packet

end DhcpServer

end Softnet
