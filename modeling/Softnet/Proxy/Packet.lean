import Softnet.Proxy.Rule

/-!
# Packets as the wire views read them

Parsing of Ethernet, ARP, IPv4, TCP, UDP and ICMP belongs to the `smoltcp`
crate, which is outside the repository.  A packet is therefore the record of
what its views return: one field for each accessor the proxy calls.  Every
combination of field values is allowed, except that a payload accepted as a UDP
datagram holds a UDP header.
-/

namespace Softnet

abbrev EthernetAddress : Type := BitVec 48

inductive IpProtocol where
  | icmp
  | tcp
  | udp
  | other (number : UInt8)
deriving DecidableEq, Repr

/-- `TcpPacket` over a payload that `new_checked` accepted. -/
structure TcpPacket where
  srcPort : UInt16
  dstPort : UInt16
  syn : Bool
  ack : Bool
  fin : Bool
  rst : Bool
deriving DecidableEq

/--
`UdpPacket::new_unchecked` over a payload.  The checksum is the one computed
with the addresses of the enclosing packet.
-/
structure UdpPacket where
  srcPort : UInt16
  dstPort : UInt16
  len : UInt16
  verifyChecksum : Bool
  payload : List UInt8
deriving DecidableEq

inductive Icmpv4Message where
  | echoReply
  | echoRequest
  | other (number : UInt8)
deriving DecidableEq

/-- `Icmpv4Packet` over a payload that `new_checked` accepted. -/
structure Icmpv4Packet where
  msgType : Icmpv4Message
  msgCode : UInt8
  echoIdent : UInt16
  verifyChecksum : Bool
deriving DecidableEq

/-- `UDP_HEADER_LEN`. -/
def udpHeaderLen : Nat := 8

/-- An IPv4 payload and the transport views of it. -/
structure Payload where
  len : Nat
  /-- `TcpPacket::new_checked(payload).ok()`. -/
  tcp : Option TcpPacket
  /-- `UdpPacket::new_unchecked(payload)`. -/
  udp : UdpPacket
  /-- Whether `UdpPacket::new_checked(payload)` succeeds. -/
  udpAccepted : Bool
  /-- `Icmpv4Packet::new_checked(payload).ok()`. -/
  icmp : Option Icmpv4Packet
  udp_header : udpAccepted = true → udpHeaderLen ≤ len

/-- `UdpPacket::new_checked(payload).ok()`. -/
def Payload.udpChecked (payload : Payload) : Option UdpPacket :=
  if payload.udpAccepted then some payload.udp else none

/-- An `Ipv4Packet` with the fields the proxy reads. -/
structure Ipv4Packet where
  srcAddr : Ipv4Address
  dstAddr : Ipv4Address
  nextHeader : IpProtocol
  headerLen : UInt8
  moreFrags : Bool
  fragOffset : UInt16
  verifyChecksum : Bool
  payload : Payload

/-- `more_frags() || frag_offset() != 0`. -/
def Ipv4Packet.isFragment (pkt : Ipv4Packet) : Bool :=
  pkt.moreFrags || pkt.fragOffset != 0

/-- An unfragmented datagram with a UDP header and nothing after it. -/
def udpPacket
    (srcAddr : Ipv4Address) (srcPort : UInt16)
    (dstAddr : Ipv4Address) (dstPort : UInt16) :
    Ipv4Packet :=
  { srcAddr := srcAddr
    dstAddr := dstAddr
    nextHeader := .udp
    headerLen := 20
    moreFrags := false
    fragOffset := 0
    verifyChecksum := false
    payload :=
      { len := udpHeaderLen
        tcp := none
        udp := ⟨srcPort, dstPort, 8, true, []⟩
        udpAccepted := true
        icmp := none
        udp_header := fun _ => le_refl _ } }

/-- The datagram with these octets after its UDP header. -/
def Ipv4Packet.withDatagram (pkt : Ipv4Packet) (bytes : List UInt8) : Ipv4Packet :=
  { pkt with
    payload :=
      { pkt.payload with
        len := udpHeaderLen + bytes.length
        udp :=
          { pkt.payload.udp with
            len := UInt16.ofNat (udpHeaderLen + bytes.length)
            payload := bytes }
        udp_header := fun _ => Nat.le_add_right _ _ } }

/-- `syn && !ack && !fin && !rst`. -/
def TcpPacket.isInitialSyn (tcp : TcpPacket) : Bool :=
  tcp.syn && !tcp.ack && !tcp.fin && !tcp.rst

inductive ArpOperation where
  | request
  | reply
  | unknown (number : UInt16)
deriving DecidableEq

/-- `ArpRepr`; the enumeration is open, so a repr may be of another kind. -/
inductive ArpRepr where
  | ethernetIpv4
      (operation : ArpOperation)
      (sourceHardwareAddr : EthernetAddress)
      (sourceProtocolAddr : Ipv4Address)
  | other
deriving DecidableEq

/-- An `ArpPacket`, by the result of `ArpRepr::parse` on it. -/
structure ArpPacket where
  repr : Option ArpRepr

inductive EthernetProtocol where
  | arp
  | ipv4
  | other (number : UInt16)
deriving DecidableEq

/-- An `EthernetFrame` with the views of its payload. -/
structure EthernetFrame where
  srcAddr : EthernetAddress
  dstAddr : EthernetAddress
  ethertype : EthernetProtocol
  /-- `ArpPacket::new_checked(payload).ok()`. -/
  arp : Option ArpPacket
  /-- `Ipv4Packet::new_unchecked(payload)`. -/
  ipv4 : Ipv4Packet
  /-- Whether `Ipv4Repr::parse` accepts that packet, checksums ignored. -/
  ipv4Parses : Bool

end Softnet
