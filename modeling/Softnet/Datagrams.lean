import Softnet.Dhcp.Server
import Softnet.Lib.Octets

/-!
# Datagrams as octets

The Ethernet, IPv4 and UDP headers that `encode_packet` in `lib/dhcp_server/mod.rs` and the end
of `respond` in `lib/dns_server/mod.rs` put before their payloads, with both checksums, and what
a receiver makes of such octets.  The receiver is not part of the repository: it checks what
the standards have it check and nothing that depends on the sender.
-/

namespace Softnet

open Octets

/-! ## Writing -/

namespace UdpFrame

/-- The IPv4 header; it must not be fragmented. -/
def ipv4Header (frame : UdpFrame) (checksum : Nat) : List UInt8 :=
  [0x45] ++ ([0] ++ (octets 2 (28 + frame.payload.length) ++ ([0, 0] ++ ([0x40, 0] ++
    ([frame.hopLimit] ++ ([17] ++ (octets 2 checksum ++
      (octets 4 frame.sourceIp.toNat ++ octets 4 frame.destinationIp.toNat))))))))

/-- What the checksum of a datagram covers besides the datagram. -/
def pseudoHeader (sourceIp destinationIp : Ipv4Address) (length : Nat) : List UInt8 :=
  octets 4 sourceIp.toNat ++ (octets 4 destinationIp.toNat ++ ([0, 17] ++ octets 2 length))

/-- The UDP header and the payload. -/
def segment (frame : UdpFrame) (checksum : Nat) : List UInt8 :=
  octets 2 frame.sourcePort.toNat ++ (octets 2 frame.destinationPort.toNat ++
    (octets 2 (8 + frame.payload.length) ++ (octets 2 checksum ++ frame.payload)))

def ipv4Checksum (frame : UdpFrame) : Nat :=
  complement (sumWords (frame.ipv4Header 0))

def udpChecksum (frame : UdpFrame) : Nat :=
  nonzero (complement
    (sumWords (pseudoHeader frame.sourceIp frame.destinationIp (8 + frame.payload.length)) +
      sumWords (frame.segment 0)))

/-- The whole frame. -/
def bytes (frame : UdpFrame) : List UInt8 :=
  octets 6 frame.destinationMac.toNat ++ (octets 6 frame.sourceMac.toNat ++ ([0x08, 0x00] ++
    (frame.ipv4Header frame.ipv4Checksum ++ frame.segment frame.udpChecksum)))

end UdpFrame

/-! ## Reading -/

/-- What the IPv4 header of a UDP packet tells. -/
structure Ipv4Header where
  totalLength : Nat
  hopLimit : UInt8
  sourceIp : Ipv4Address
  destinationIp : Ipv4Address

/-- Accepts the header of an unfragmented packet that carries UDP. -/
def readIpv4Header (header : List UInt8) : Option Ipv4Header := do
  guard (fold (sumWords header) = 65535)
  let (version, header) ← cut 1 header
  guard (version = [0x45])
  let (_, header) ← cut 1 header
  let (totalLength, header) ← cut 2 header
  let (_, header) ← cut 2 header
  let (fragment, header) ← cut 2 header
  -- The first two bits do not tell about fragments
  guard (ofOctets fragment % 0x4000 = 0)
  let (hopLimit, header) ← cut 1 header
  let (protocol, header) ← cut 1 header
  guard (protocol = [17])
  let (_, addresses) ← cut 2 header
  let (sourceIp, destinationIp) ← cut 4 addresses
  return {
    totalLength := ofOctets totalLength
    hopLimit := UInt8.ofNat (ofOctets hopLimit)
    sourceIp := BitVec.ofNat 32 (ofOctets sourceIp)
    destinationIp := BitVec.ofNat 32 (ofOctets destinationIp) }

/-- The header of a packet and what follows it; a packet may be padded. -/
def readIpv4 (packet : List UInt8) : Option (Ipv4Header × List UInt8) := do
  let (header, rest) ← cut 20 packet
  let ip ← readIpv4Header header
  guard (20 ≤ ip.totalLength ∧ ip.totalLength ≤ packet.length)
  return (ip, rest.take (ip.totalLength - 20))

/-- Accepts a datagram with the right length and checksum: its ports and its payload. -/
def readUdp (sourceIp destinationIp : Ipv4Address) (segment : List UInt8) :
    Option (UInt16 × UInt16 × List UInt8) := do
  let (sourcePort, rest) ← cut 2 segment
  let (destinationPort, rest) ← cut 2 rest
  let (length, rest) ← cut 2 rest
  let (checksum, payload) ← cut 2 rest
  guard (ofOctets length = segment.length)
  guard (ofOctets checksum = 0 ∨
    fold (sumWords (UdpFrame.pseudoHeader sourceIp destinationIp (ofOctets length)) +
      sumWords segment) = 65535)
  return (UInt16.ofNat (ofOctets sourcePort), UInt16.ofNat (ofOctets destinationPort), payload)

def readUdpFrame (bytes : List UInt8) : Option UdpFrame := do
  let (destinationMac, bytes) ← cut 6 bytes
  let (sourceMac, bytes) ← cut 6 bytes
  let (ethertype, packet) ← cut 2 bytes
  guard (ofOctets ethertype = 0x0800)
  let (ip, segment) ← readIpv4 packet
  let (sourcePort, destinationPort, payload) ← readUdp ip.sourceIp ip.destinationIp segment
  return {
    sourceMac := BitVec.ofNat 48 (ofOctets sourceMac)
    destinationMac := BitVec.ofNat 48 (ofOctets destinationMac)
    sourceIp := ip.sourceIp
    destinationIp := ip.destinationIp
    sourcePort := sourcePort
    destinationPort := destinationPort
    hopLimit := ip.hopLimit
    payload := payload }

/-! ## Reading what was written -/

namespace UdpFrame

section Sums

variable {frame : UdpFrame}

/-- The payload of a frame whose lengths can be written. -/
def Fits (frame : UdpFrame) : Prop :=
  28 + frame.payload.length ≤ 65535

/-- The checksum is one of the words of the header. -/
theorem sumWords_ipv4Header
    {checksum : Nat}
    (h : checksum ≤ 65535) :
    sumWords (frame.ipv4Header checksum) = sumWords (frame.ipv4Header 0) + checksum := by
  have hsplit : ∀ c, frame.ipv4Header c =
      ([0x45, 0] ++ octets 2 (28 + frame.payload.length) ++
        [0, 0, 0x40, 0, frame.hopLimit, 17]) ++
      (octets 2 c ++ (octets 4 frame.sourceIp.toNat ++ octets 4 frame.destinationIp.toNat)) := by
    intro c
    simp [ipv4Header]
  rw [hsplit, hsplit, sumWords_field _ _ (by simp) h,
    sumWords_field _ _ (by simp) (Nat.zero_le _), Nat.add_zero]

theorem sumWords_segment
    {checksum : Nat}
    (h : checksum ≤ 65535) :
    sumWords (frame.segment checksum) = sumWords (frame.segment 0) + checksum := by
  have hsplit : ∀ c, frame.segment c =
      (octets 2 frame.sourcePort.toNat ++ octets 2 frame.destinationPort.toNat ++
        octets 2 (8 + frame.payload.length)) ++ (octets 2 c ++ frame.payload) := by
    intro c
    simp [segment]
  rw [hsplit, hsplit, sumWords_field _ _ (by simp) h,
    sumWords_field _ _ (by simp) (Nat.zero_le _), Nat.add_zero]

@[simp] theorem length_ipv4Header (checksum : Nat) :
    (frame.ipv4Header checksum).length = 20 := by
  simp [ipv4Header]

@[simp] theorem length_segment (checksum : Nat) :
    (frame.segment checksum).length = 8 + frame.payload.length := by
  simp [segment]
  omega

theorem ipv4Header_verifies :
    fold (sumWords (frame.ipv4Header frame.ipv4Checksum)) = 65535 := by
  have hbound := sumWords_le (frame.ipv4Header 0)
  rw [length_ipv4Header] at hbound
  rw [ipv4Checksum, sumWords_ipv4Header (complement_le _)]
  exact fold_add_complement (by omega)

theorem segment_verifies
    (h : frame.Fits) :
    fold (sumWords (pseudoHeader frame.sourceIp frame.destinationIp (8 + frame.payload.length)) +
      sumWords (frame.segment frame.udpChecksum)) = 65535 := by
  have hpseudo := sumWords_le
    (pseudoHeader frame.sourceIp frame.destinationIp (8 + frame.payload.length))
  have hsegment := sumWords_le (frame.segment 0)
  rw [length_segment] at hsegment
  have hlength : (pseudoHeader frame.sourceIp frame.destinationIp
      (8 + frame.payload.length)).length = 12 := by
    simp [pseudoHeader]
  rw [hlength] at hpseudo
  unfold Fits at h
  rw [udpChecksum, sumWords_segment (nonzero_le (complement_le _)), ← Nat.add_assoc]
  exact fold_add_nonzero (by omega)

theorem length_bytes : frame.bytes.length = 42 + frame.payload.length := by
  simp [bytes]
  omega

end Sums

section RoundTrip

variable {frame : UdpFrame}

theorem readIpv4Header_ipv4Header
    (h : frame.Fits) :
    readIpv4Header (frame.ipv4Header frame.ipv4Checksum) =
      some ⟨28 + frame.payload.length, frame.hopLimit, frame.sourceIp, frame.destinationIp⟩ := by
  unfold Fits at h
  have htotal : ofOctets (octets 2 (28 + frame.payload.length)) = 28 + frame.payload.length :=
    ofOctets_octets (by omega)
  have hsource : ofOctets (octets 4 frame.sourceIp.toNat) = frame.sourceIp.toNat :=
    ofOctets_octets frame.sourceIp.isLt
  have hdestination : ofOctets (octets 4 frame.destinationIp.toNat) = frame.destinationIp.toNat :=
    ofOctets_octets frame.destinationIp.isLt
  have hfragment : ofOctets [0x40, 0] % 0x4000 = 0 := by decide
  have hhop : UInt8.ofNat (ofOctets [frame.hopLimit]) = frame.hopLimit := by
    simp [ofOctets]
  unfold readIpv4Header
  rw [ipv4Header_verifies, ipv4Header]
  simp only [cut_append, length_octets, List.length_cons, List.length_nil, Option.bind_eq_bind,
    Option.bind_some, hfragment, htotal, hsource, hdestination, hhop, guard_true,
    Option.pure_def, BitVec.ofNat_toNat, BitVec.setWidth_eq]

theorem readIpv4_packet
    (h : frame.Fits) :
    readIpv4 (frame.ipv4Header frame.ipv4Checksum ++ frame.segment frame.udpChecksum) =
      some (⟨28 + frame.payload.length, frame.hopLimit, frame.sourceIp, frame.destinationIp⟩,
        frame.segment frame.udpChecksum) := by
  unfold readIpv4
  rw [cut_append (length_ipv4Header _)]
  have hfits : 20 ≤ 28 + frame.payload.length ∧
      28 + frame.payload.length ≤ 20 + (8 + frame.payload.length) := by
    omega
  simp only [Option.bind_eq_bind, Option.bind_some, readIpv4Header_ipv4Header h,
    List.length_append, length_ipv4Header, length_segment, hfits, guard_true, and_self,
    Option.pure_def]
  rw [List.take_of_length_le (by simp only [length_segment]; omega)]

theorem readUdp_segment
    (h : frame.Fits) :
    readUdp frame.sourceIp frame.destinationIp (frame.segment frame.udpChecksum) =
      some (frame.sourcePort, frame.destinationPort, frame.payload) := by
  have hverifies := segment_verifies h
  unfold Fits at h
  have hlength : ofOctets (octets 2 (8 + frame.payload.length)) = 8 + frame.payload.length :=
    ofOctets_octets (by omega)
  have hsource : ofOctets (octets 2 frame.sourcePort.toNat) = frame.sourcePort.toNat :=
    ofOctets_octets frame.sourcePort.toNat_lt
  have hdestination :
      ofOctets (octets 2 frame.destinationPort.toNat) = frame.destinationPort.toNat :=
    ofOctets_octets frame.destinationPort.toNat_lt
  have hcut : cut 2 (frame.segment frame.udpChecksum) = some (octets 2 frame.sourcePort.toNat, _) :=
    cut_append (length_octets _ _) _
  unfold readUdp
  rw [hcut]
  simp only [cut_append, length_octets, Option.bind_eq_bind, Option.bind_some, hlength, hsource,
    hdestination, length_segment, hverifies, or_true, guard_true, Option.pure_def,
    UInt16.ofNat_toNat]

theorem readUdpFrame_bytes
    (h : frame.Fits) :
    readUdpFrame frame.bytes = some frame := by
  have hsource : ofOctets (octets 6 frame.sourceMac.toNat) = frame.sourceMac.toNat :=
    ofOctets_octets frame.sourceMac.isLt
  have hdestination : ofOctets (octets 6 frame.destinationMac.toNat) = frame.destinationMac.toNat :=
    ofOctets_octets frame.destinationMac.isLt
  have hethertype : ofOctets [0x08, 0x00] = 0x0800 := by decide
  unfold readUdpFrame bytes
  simp only [cut_append, length_octets, List.length_cons, List.length_nil, Option.bind_eq_bind,
    Option.bind_some, readIpv4_packet h, readUdp_segment h, hsource, hdestination, hethertype,
    guard_true, Option.pure_def, BitVec.ofNat_toNat, BitVec.setWidth_eq]

end RoundTrip

end UdpFrame

end Softnet
