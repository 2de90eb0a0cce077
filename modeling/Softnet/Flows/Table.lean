import Softnet.Lib.FiniteMaps
import Softnet.Proxy.Packet

/-!
# The flow table

A bounded cache of exact-tuple permissions for return traffic: the model of
`lib/proxy/flows/`.  An entry says in which direction a flow was authorized and
when the permission ends.

Instants and durations count the ticks of `coarsetime`, of which a second has
`2 ^ 32`.  The clock is read once for each packet and given to the table as an
argument.  Hash-map order is never observed here, so the table is a `Finmap`.
-/

namespace Softnet

abbrev Instant : Type := Nat

abbrev Duration : Type := Nat

def Duration.fromSecs (secs : Nat) : Duration :=
  secs * 2 ^ 32

def maxFlows : Nat := 32768

def sweepInterval : Duration := Duration.fromSecs 1

def synTimeout : Duration := Duration.fromSecs 60

def tcpTimeout : Duration := Duration.fromSecs (5 * 60)

def udpTimeout : Duration := Duration.fromSecs 30

def echoTimeout : Duration := Duration.fromSecs 30

/-- A packet direction across the host–VM boundary. -/
inductive FlowDirection where
  | fromHost
  | fromVm
deriving DecidableEq, Repr

namespace FlowDirection

def hostVmPair {T : Type} : FlowDirection → T → T → T × T
  | .fromHost, src, dst => (src, dst)
  | .fromVm, src, dst => (dst, src)

def opposite : FlowDirection → FlowDirection
  | .fromHost => .fromVm
  | .fromVm => .fromHost

end FlowDirection

/-- The canonical identity used to index a flow-table entry. -/
inductive FlowKey where
  | icmpEcho
      (hostAddr vmAddr : Ipv4Address)
      (ident : UInt16)
      (initiatingDirection : FlowDirection)
  | tcp
      (hostAddr : Ipv4Address) (hostPort : UInt16)
      (vmAddr : Ipv4Address) (vmPort : UInt16)
  | udp
      (hostAddr : Ipv4Address) (hostPort : UInt16)
      (vmAddr : Ipv4Address) (vmPort : UInt16)
deriving DecidableEq

/-- Metadata stored for an admitted flow. -/
structure Flow where
  initiatingDirection : FlowDirection
  expiresAt : Instant
deriving DecidableEq

/-- A proposed flow-table entry awaiting policy authorization. -/
structure PendingFlow where
  key : FlowKey
  flow : Flow
deriving DecidableEq

/-- The result of classifying a packet against the flow table. -/
inductive FlowMatch where
  /-- Exact-tuple return traffic of an admitted flow. -/
  | allowed
  /-- Policy must authorize this initiator-side packet before it is committed. -/
  | candidate (pending : PendingFlow)
  /-- Malformed, or violating a transport invariant that is enforced. -/
  | denied
  /-- The table has no stateful interpretation for this packet. -/
  | untracked
deriving DecidableEq

structure FlowTable where
  flows : Finmap (fun _ : FlowKey => Flow)
  nextSweep : Instant

/-- `FlowMatch::candidate`. -/
def FlowMatch.newCandidate
    (key : FlowKey)
    (initiatingDirection : FlowDirection)
    (now : Instant)
    (timeout : Duration) :
    FlowMatch :=
  .candidate ⟨key, ⟨initiatingDirection, now + timeout⟩⟩

namespace FlowKey

/-- `FlowKey::tcp`, from source and destination endpoint. -/
def ofTcp
    (direction : FlowDirection)
    (src dst : Ipv4Address × UInt16) :
    FlowKey :=
  let (host, vm) := direction.hostVmPair src dst
  .tcp host.1 host.2 vm.1 vm.2

/-- `FlowKey::udp`, from source and destination endpoint. -/
def ofUdp
    (direction : FlowDirection)
    (src dst : Ipv4Address × UInt16) :
    FlowKey :=
  let (host, vm) := direction.hostVmPair src dst
  .udp host.1 host.2 vm.1 vm.2

/-- `FlowKey::icmp_echo`. -/
def ofIcmpEcho
    (srcAddr dstAddr : Ipv4Address)
    (direction initiatingDirection : FlowDirection)
    (ident : UInt16) :
    FlowKey :=
  let (host, vm) := direction.hostVmPair srcAddr dstAddr
  .icmpEcho host vm ident initiatingDirection

end FlowKey

namespace FlowTable

def new (now : Instant) : FlowTable :=
  ⟨∅, now + sweepInterval⟩

/-- `flows.get(&key).copied()`. -/
def find (table : FlowTable) (key : FlowKey) : Option Flow :=
  table.flows.lookup key

/-- `flows.len()`. -/
def len (table : FlowTable) : Nat :=
  table.flows.keys.card

def sweepIfDue (table : FlowTable) (now : Instant) : FlowTable :=
  if now < table.nextSweep then
    table
  else
    { flows := table.flows.retain (fun _ flow => now < flow.expiresAt)
      nextSweep := now + sweepInterval }

def matchExistingFlow
    (table : FlowTable)
    (key : FlowKey)
    (direction : FlowDirection)
    (now : Instant)
    (timeout : Duration) :
    Option FlowMatch :=
  match table.find key with
  | none => none
  | some existing =>
      -- Treat expired entries as missing even before the next sweep
      if existing.expiresAt ≤ now then
        none
      else if direction = existing.initiatingDirection then
        some (.newCandidate key existing.initiatingDirection now timeout)
      else
        some .allowed

def inspectTcp
    (table : FlowTable)
    (pkt : Ipv4Packet)
    (direction : FlowDirection)
    (now : Instant) :
    FlowMatch :=
  match pkt.payload.tcp with
  | none => .denied
  | some tcp =>
      if tcp.srcPort = 0 ∨ tcp.dstPort = 0 then
        .denied
      else
        let key :=
          FlowKey.ofTcp direction
            (pkt.srcAddr, tcp.srcPort) (pkt.dstAddr, tcp.dstPort)
        -- A bare SYN may reuse the tuple in either direction: always ask policy
        if tcp.isInitialSyn then
          .newCandidate key direction now synTimeout
        else
          (table.matchExistingFlow key direction now tcpTimeout).getD .untracked

def inspectUdp
    (table : FlowTable)
    (pkt : Ipv4Packet)
    (direction : FlowDirection)
    (now : Instant) :
    FlowMatch :=
  match pkt.payload.udpChecked with
  | none => .denied
  | some udp =>
      if udp.dstPort = 0 then
        .denied
      else if udp.srcPort = 0 then
        .denied
      else
        let key :=
          FlowKey.ofUdp direction
            (pkt.srcAddr, udp.srcPort) (pkt.dstAddr, udp.dstPort)
        match table.matchExistingFlow key direction now udpTimeout with
        | some matched => matched
        | none => .newCandidate key direction now udpTimeout

def inspectEcho
    (table : FlowTable)
    (pkt : Ipv4Packet)
    (direction : FlowDirection)
    (ident : UInt16)
    (isRequest : Bool)
    (now : Instant) :
    FlowMatch :=
  -- The request direction keeps opposite-direction echo flows distinct
  let initiatingDirection :=
    if isRequest then direction else direction.opposite
  let key :=
    FlowKey.ofIcmpEcho pkt.srcAddr pkt.dstAddr direction initiatingDirection ident
  match table.matchExistingFlow key direction now echoTimeout with
  | some matched => matched
  | none =>
      if isRequest then
        .newCandidate key initiatingDirection now echoTimeout
      else
        .untracked

def inspectIcmp
    (table : FlowTable)
    (pkt : Ipv4Packet)
    (direction : FlowDirection)
    (now : Instant) :
    FlowMatch :=
  match pkt.payload.icmp with
  | none => .denied
  | some icmp =>
      if !icmp.verifyChecksum then
        .denied
      else if icmp.msgType = .echoRequest ∧ icmp.msgCode = 0 then
        table.inspectEcho pkt direction icmp.echoIdent true now
      else if icmp.msgType = .echoReply ∧ icmp.msgCode = 0 then
        table.inspectEcho pkt direction icmp.echoIdent false now
      else
        .untracked

/-- `inspect_at`; `inspect` calls it with the time of the packet. -/
def inspectAt
    (table : FlowTable)
    (pkt : Ipv4Packet)
    (direction : FlowDirection)
    (now : Instant) :
    FlowTable × FlowMatch :=
  let table := table.sweepIfDue now
  -- Fragments cannot be bound to an exact flow, so packet policy must decide
  if pkt.isFragment then
    (table, .untracked)
  else
    match pkt.nextHeader with
    | .icmp => (table, table.inspectIcmp pkt direction now)
    | .tcp => (table, table.inspectTcp pkt direction now)
    | .udp => (table, table.inspectUdp pkt direction now)
    | .other _ => (table, .untracked)

def commit (table : FlowTable) (pending : PendingFlow) : FlowTable × Bool :=
  -- Reject new entries when full while allowing existing entries to be updated
  if (table.find pending.key).isNone ∧ maxFlows ≤ table.len then
    (table, false)
  else
    ({ table with flows := table.flows.insert pending.key pending.flow }, true)

end FlowTable

end Softnet
