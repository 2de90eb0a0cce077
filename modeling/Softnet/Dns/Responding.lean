import Softnet.Datagrams
import Softnet.Lib.Fallible
import Softnet.Proxy.Admission
import Mathlib.Data.List.Infix
import Mathlib.Data.Option.Basic

/-!
# Answering queries

`DnsServer::respond` in `lib/dns_server/mod.rs`: a query for a name of the zone is handed to the
catalog of `hickory`, which encodes its response into a cell that is written once, within what
the client accepts and what a frame has room for.  Messages are what `hickory` decodes, with the
parts that are read here; the catalog may send any number of responses.
-/

namespace Softnet

/-- A name in lower case, by its labels. -/
abbrev LowerName : Type := List String

/-- `DNS_DOMAIN`. -/
def dnsDomain : String := "internal"

/-- `Header::LEN` of `hickory`. -/
def dnsHeaderLen : Nat := 12

/-- `ETHERNET_HEADER_LEN + IPV4_HEADER_LEN + UDP_HEADER_LEN`. -/
def frameHeadersLen : Nat := 14 + 20 + 8

inductive DnsMessageType where
  | query
  | response
deriving DecidableEq

inductive DnsOpCode where
  | query
  | other (number : UInt8)
deriving DecidableEq

/-- What `Request::from_bytes` accepted. -/
structure DnsRequest where
  messageType : DnsMessageType
  opCode : DnsOpCode
  /-- The name in the query, where `request_info` finds a single one. -/
  queryName : Option LowerName
  maxPayload : UInt16

/-- A response that can be encoded; the encoder leaves records out to keep within its limit. -/
structure DnsMessage where
  emit : (maxSize : UInt16) → Except String (List UInt8)
  fits : ∀ maxSize bytes, emit maxSize = .ok bytes → bytes.length ≤ maxSize.toNat

/-- How the catalog handles a request: it sends responses and sees whether that worked. -/
inductive Handling where
  | finished
  | send (message : DnsMessage) (next : Except String Unit → Handling)

structure Catalog where
  /-- The names of the zones. -/
  zones : List LowerName
  handleRequest : DnsRequest → Handling

/-- The catalog of `DnsServer::new`, which has one zone. -/
def Catalog.new (handleRequest : DnsRequest → Handling) : Catalog :=
  ⟨[[dnsDomain]], handleRequest⟩

/-- `Catalog::find`: the zone with this name or with the nearest name above it. -/
def Catalog.find (catalog : Catalog) (name : LowerName) : Option LowerName :=
  name.tails.find? (· ∈ catalog.zones)

/-- What the crates outside the repository make of queries and replies. -/
structure DnsCrates where
  /-- `Request::from_bytes` of `hickory`. -/
  fromBytes : List UInt8 → (source : Ipv4Address × UInt16) → Option DnsRequest
  /-- `DEFAULT_MAX_PAYLOAD_LEN` of `hickory`. -/
  defaultMaxPayloadLen : UInt16
  /-- The error of `etherparse` for a payload that is too long. -/
  tooLong : Nat → String

/-! ## The response cell -/

/-- `Response`, with the `OnceLock` that holds the encoded reply. -/
structure DnsResponse where
  bytes : Option (List UInt8)
  maxPayload : UInt16

def DnsResponse.sendResponse
    (response : DnsResponse)
    (message : DnsMessage) :
    DnsResponse × Except String Unit :=
  match message.emit response.maxPayload with
  | .error error => (response, .error error)
  | .ok bytes =>
      match response.bytes with
      | some _ => (response, .error "DNS response already encoded")
      | none => ({ response with bytes := some bytes }, .ok ())

/-- `handle_request`. -/
def Handling.run : Handling → DnsResponse → DnsResponse
  | .finished, response => response
  | .send message next, response =>
      (next (response.sendResponse message).2).run (response.sendResponse message).1

/-- A message that the catalog sends, for some answers to what it sent before. -/
inductive Handling.Sends : Handling → DnsMessage → Prop
  | now
      {message : DnsMessage} {next : Except String Unit → Handling} :
      Handling.Sends (.send message next) message
  | later
      {message message' : DnsMessage} {next : Except String Unit → Handling}
      {result : Except String Unit}
      (sends : Handling.Sends (next result) message) :
      Handling.Sends (.send message' next) message

section Cells

variable {response : DnsResponse}

@[simp] theorem DnsResponse.maxPayload_sendResponse
    (response : DnsResponse)
    (message : DnsMessage) :
    (response.sendResponse message).1.maxPayload = response.maxPayload := by
  unfold sendResponse
  repeat' split
  all_goals rfl

/-- What a cell holds stays there; an empty one may take what was encoded. -/
theorem DnsResponse.bytes_sendResponse
    {message : DnsMessage} {bytes : List UInt8}
    (h : (response.sendResponse message).1.bytes = some bytes) :
    response.bytes = some bytes ∨
      response.bytes = none ∧ message.emit response.maxPayload = .ok bytes := by
  unfold sendResponse at h
  split at h
  · exact .inl h
  · next encoded hemit =>
      split at h
      · exact .inl h
      · next hempty => exact .inr ⟨hempty, by rw [hemit, Option.some.inj h]⟩

/-- What is in the cell at the end was there before or is a message, encoded in its limit. -/
theorem Handling.bytes_run
    {handling : Handling} {bytes : List UInt8}
    (h : (handling.run response).bytes = some bytes) :
    response.bytes = some bytes ∨
      ∃ message, handling.Sends message ∧ message.emit response.maxPayload = .ok bytes := by
  induction handling generalizing response with
  | finished => exact .inl h
  | send message next ih =>
      rcases ih _ h with hbytes | ⟨later, hsends, hemit⟩
      · rcases DnsResponse.bytes_sendResponse hbytes with hbefore | ⟨_, hemit⟩
        · exact .inl hbefore
        · exact .inr ⟨message, .now, hemit⟩
      · rw [DnsResponse.maxPayload_sendResponse] at hemit
        exact .inr ⟨later, .later hsends, hemit⟩

end Cells

/-! ## The server -/

namespace Catalog

/-- The first part of `respond`: a standard query for a name of a zone. -/
def zoneQuery
    (crates : DnsCrates)
    (catalog : Catalog)
    (source : Ipv4Address × UInt16)
    (payload : List UInt8) :
    Option DnsRequest := do
  let request ← crates.fromBytes payload source
  guard (request.messageType = .query ∧ request.opCode = .query)
  let name ← request.queryName
  guard (catalog.find name).isSome
  return request

/-- The second part: the limits of the client, the crate and the frame; a header must fit. -/
def maxPayload (crates : DnsCrates) (request : DnsRequest) (maxPacketSize : Nat) :
    Option UInt16 := do
  guard (frameHeadersLen ≤ maxPacketSize)
  let limit := min (min request.maxPayload.toNat crates.defaultMaxPayloadLen.toNat)
    (maxPacketSize - frameHeadersLen)
  guard (dnsHeaderLen ≤ limit)
  return UInt16.ofNat limit

/-- The reply goes back the way that the query came. -/
def replyFrame
    (sourceMac destinationMac : EthernetAddress)
    (ip : Ipv4Packet)
    (udp : UdpPacket)
    (payload : List UInt8) :
    UdpFrame where
  sourceMac := destinationMac
  destinationMac := sourceMac
  sourceIp := ip.dstAddr
  destinationIp := ip.srcAddr
  sourcePort := dnsPort
  destinationPort := udp.srcPort
  hopLimit := 64
  payload := payload

/-- The last part: resolve, and build the packet of the reply. -/
def resolve
    (crates : DnsCrates)
    (catalog : Catalog)
    (request : DnsRequest)
    (limit : UInt16)
    (reply : List UInt8 → UdpFrame) :
    Except String (List UInt8) :=
  match ((catalog.handleRequest request).run ⟨none, limit⟩).bytes with
  | none => .error "failed to encode DNS response"
  | some payload =>
      if 28 + payload.length ≤ 65535 then
        .ok (reply payload).bytes
      else
        .error (crates.tooLong payload.length)

def respond
    (crates : DnsCrates)
    (catalog : Catalog)
    (sourceMac destinationMac : EthernetAddress)
    (ip : Ipv4Packet)
    (udp : UdpPacket)
    (maxPacketSize : Nat) :
    Except String (Option (List UInt8)) :=
  match catalog.zoneQuery crates (ip.srcAddr, udp.srcPort) udp.payload with
  | none => .ok none
  | some request =>
      match maxPayload crates request maxPacketSize with
      | none => .ok none
      | some limit =>
          (catalog.resolve crates request limit
            (replyFrame sourceMac destinationMac ip udp)).map some

/-- The DNS server of a proxy. -/
def server (crates : DnsCrates) (catalog : Catalog) : DnsServer where
  respond := catalog.respond crates

section Replies

variable {crates : DnsCrates}
variable {catalog : Catalog}
variable {request : DnsRequest}

/-- A name that is found ends in the name of a zone. -/
theorem suffix_of_find
    {name zone : LowerName}
    (h : catalog.find name = some zone) :
    zone ∈ catalog.zones ∧ zone <:+ name := by
  refine ⟨by simpa using List.find?_some h, ?_⟩
  exact (List.mem_tails _ _).mp (List.mem_of_find?_eq_some h)

/-- A standard query whose name lies in a zone of the catalog. -/
structure IsZoneQuery (catalog : Catalog) (request : DnsRequest) : Prop where
  messageType : request.messageType = .query
  opCode : request.opCode = .query
  inZone : ∃ name zone, request.queryName = some name ∧ zone ∈ catalog.zones ∧ zone <:+ name

theorem zoneQuery_eq_some
    {source : Ipv4Address × UInt16} {payload : List UInt8}
    (h : catalog.zoneQuery crates source payload = some request) :
    crates.fromBytes payload source = some request ∧ catalog.IsZoneQuery request := by
  unfold zoneQuery at h
  obtain ⟨decoded, hdecoded, h⟩ := Option.bind_eq_some_iff.mp h
  obtain ⟨_, hstandard, h⟩ := Option.bind_eq_some_iff.mp h
  obtain ⟨name, hname, h⟩ := Option.bind_eq_some_iff.mp h
  obtain ⟨_, hfound, h⟩ := Option.bind_eq_some_iff.mp h
  cases h
  obtain ⟨zone, hzone⟩ := Option.isSome_iff_exists.mp ((Option.guard_eq_some' _).mp hfound)
  obtain ⟨hmember, hsuffix⟩ := suffix_of_find hzone
  obtain ⟨hmessageType, hopCode⟩ := (Option.guard_eq_some' _).mp hstandard
  exact ⟨hdecoded, hmessageType, hopCode, name, zone, hname, hmember, hsuffix⟩

/-- The limit fits the frame, and the client's limit. -/
theorem maxPayload_eq_some
    {maxPacketSize : Nat} {limit : UInt16}
    (h : maxPayload crates request maxPacketSize = some limit) :
    limit ≤ request.maxPayload ∧ frameHeadersLen + limit.toNat ≤ maxPacketSize := by
  unfold maxPayload at h
  obtain ⟨_, hframe, h⟩ := Option.bind_eq_some_iff.mp h
  obtain ⟨_, _, h⟩ := Option.bind_eq_some_iff.mp h
  cases h
  have hroom := (Option.guard_eq_some' _).mp hframe
  have hlimit : min (min request.maxPayload.toNat crates.defaultMaxPayloadLen.toNat)
      (maxPacketSize - frameHeadersLen) < UInt16.size :=
    ((Nat.min_le_left _ _).trans (Nat.min_le_left _ _)).trans_lt request.maxPayload.toNat_lt
  rw [UInt16.le_iff_toNat_le, UInt16.toNat_ofNat_of_lt' hlimit]
  omega

theorem resolve_eq_ok
    {limit : UInt16} {reply : List UInt8 → UdpFrame} {bytes : List UInt8}
    (h : catalog.resolve crates request limit reply = .ok bytes) :
    ∃ payload message, bytes = (reply payload).bytes ∧ 28 + payload.length ≤ 65535 ∧
      (catalog.handleRequest request).Sends message ∧ message.emit limit = .ok payload := by
  unfold resolve at h
  split at h
  · cases h
  · next payload hpayload =>
      split at h
      · next hshort =>
          cases h
          rcases Handling.bytes_run hpayload with hbefore | ⟨message, hsends, hemit⟩
          · cases hbefore
          · exact ⟨payload, message, rfl, hshort, hsends, hemit⟩
      · cases h

/-- What a reply carries is a response to the query, within the limits. -/
structure Answers
    (crates : DnsCrates)
    (catalog : Catalog)
    (source : Ipv4Address × UInt16)
    (query : List UInt8)
    (maxPacketSize : Nat)
    (request : DnsRequest)
    (payload : List UInt8) :
    Prop where
  decoded : crates.fromBytes query source = some request
  isZoneQuery : catalog.IsZoneQuery request
  encoded : ∃ message limit, (catalog.handleRequest request).Sends message ∧
    message.emit limit = .ok payload
  clientLimit : payload.length ≤ request.maxPayload.toNat
  frameLimit : frameHeadersLen + payload.length ≤ maxPacketSize

theorem respond_eq_ok_some
    {sourceMac destinationMac : EthernetAddress} {ip : Ipv4Packet} {udp : UdpPacket}
    {maxPacketSize : Nat} {bytes : List UInt8}
    (h :
      catalog.respond crates sourceMac destinationMac ip udp maxPacketSize = .ok (some bytes)) :
    ∃ payload request, bytes = (replyFrame sourceMac destinationMac ip udp payload).bytes ∧
      (replyFrame sourceMac destinationMac ip udp payload).Fits ∧
      Answers crates catalog (ip.srcAddr, udp.srcPort) udp.payload maxPacketSize request
        payload := by
  unfold respond at h
  split at h
  · cases h
  · next request hquery =>
      split at h
      · cases h
      · next limit hlimit =>
          obtain ⟨hdecoded, hzone⟩ := zoneQuery_eq_some hquery
          obtain ⟨hclient, hframe⟩ := maxPayload_eq_some hlimit
          obtain ⟨_, hresolved, hbytes⟩ := Except.map_eq_ok_iff.mp h
          cases hbytes
          obtain ⟨payload, message, rfl, hshort, hsends, hemit⟩ := resolve_eq_ok hresolved
          have hlength := message.fits _ _ hemit
          have hclient := UInt16.le_iff_toNat_le.mp hclient
          exact ⟨payload, request, rfl, hshort, hdecoded, hzone, ⟨message, limit, hsends, hemit⟩,
            by omega, by omega⟩

end Replies

end Catalog

end Softnet
