import Softnet.Lib.Precedence
import Softnet.Proxy.Packet
import Mathlib.Data.Prod.Lex
import Mathlib.Order.OrderDual

/-!
# Compiled rules

The compilation and the search of `lib/proxy/rules.rs`.  Rules are merged into
one table for each direction, keyed by prefix and then by filter; the filters of
a prefix are sorted by falling priority, so that a search can stop at the first
filter that matches.

A hash map yields its entries in an order that the standard library leaves open,
and it may differ from map to map.  `HashOrder` is that order, and every
compilation takes one.  It also stands for the freedom of `sort_unstable_by_key`:
a list sorted in any admissible way is the sorted list of some iteration order.
-/

namespace Softnet

inductive Action where
  | block
  | allow
deriving DecidableEq, Repr

inductive PolicyDecision where
  | block
  | allowStateless
  | allowStateful
deriving DecidableEq, Repr

inductive Mode where
  | legacy
  | stateful
deriving DecidableEq, Repr

/-- Filters for one prefix, ordered from highest to lowest priority. -/
abbrev FilterRules : Type := List (Filter × Action)

/-- Temporary map for merging rules with the same prefix and filter. -/
abbrev PendingRules : Type :=
  Cidr.PrefixMap 32 (AList (fun _ : Filter => Action))

structure Rules where
  mode : Mode
  inbound : Cidr.PrefixMap 32 FilterRules
  outbound : Cidr.PrefixMap 32 FilterRules

/-- The order in which the hash map of a prefix yields its filters. -/
structure HashOrder where
  iter : Direction → Ipv4Net → FilterRules → FilterRules
  perm : ∀ direction net filters,
    (iter direction net filters).Perm filters

/-- Entries in the order of their insertion. -/
def HashOrder.insertion : HashOrder :=
  ⟨fun _ _ filters => filters, fun _ _ _ => List.Perm.refl _⟩

/-- Lexicographic: port range, prefix length, protocol, narrowness, block. -/
abbrev Priority : Type :=
  Bool ×ₗ Nat ×ₗ Bool ×ₗ Natᵒᵈ ×ₗ Bool

/-- The rule priority, shared by filter sorting and packet matching. -/
def rulePriority
    (prefixLen : Nat)
    (filter : Filter)
    (action : Action) :
    Priority :=
  toLex (filter.destinationPortRange.isSome,
    toLex (prefixLen,
      toLex (filter.protocol.isSome,
        toLex (OrderDual.toDual
            (match filter.destinationPortRange with
              | some range => range.width.toNat
              | none => 65535),
          action == .block))))

/-- The protocol of a packet, if rules can name it. -/
def filterProtocol : IpProtocol → Option Protocol
  | .tcp => some .tcp
  | .udp => some .udp
  | .icmp => some .icmp
  | .other _ => none

/-- The test that `filter_action` applies to each filter. -/
def filterMatches
    (protocol : IpProtocol)
    (destinationPort : Option UInt16)
    (entry : Filter × Action) :
    Bool :=
  if entry.1.protocol.isSome ∧ entry.1.protocol ≠ filterProtocol protocol then
    false
  else
    match entry.1.destinationPortRange with
    | none => true
    | some range =>
        match destinationPort with
        | some port => range.contains port
        | none =>
            -- Unknown TCP/UDP ports can match service blocks, but never service allows
            entry.2 == .block &&
              (filterProtocol protocol == some .tcp ||
                filterProtocol protocol == some .udp)

def filterAction
    (filters : FilterRules)
    (protocol : IpProtocol)
    (destinationPort : Option UInt16) :
    Option (Filter × Action) :=
  filters.find? (filterMatches protocol destinationPort)

/-- `entries.entry(net).or_default().insert(filter, action)`. -/
def PendingRules.insertAt
    (entries : PendingRules)
    (net : Ipv4Net)
    (filter : Filter)
    (action : Action) :
    PendingRules :=
  entries.update net ∅ (fun filters => filters.insert filter action)

def insertFilter
    (entries : PendingRules)
    (target : Target)
    (filter : Filter)
    (action : Action)
    (hostAddress : Ipv4Address)
    (peerAddresses : List Ipv4Address) :
    PendingRules :=
  match target with
  | .netPrefix net => PendingRules.insertAt entries net filter action
  | .host =>
      PendingRules.insertAt entries (Cidr.Net.ofAddress hostAddress) filter action
  | .peers =>
      peerAddresses.foldl
        (fun entries address =>
          PendingRules.insertAt entries (Cidr.Net.ofAddress address) filter action)
        entries

/-- The two tables that `Rules::new` fills. -/
structure PendingTables where
  inbound : PendingRules
  outbound : PendingRules

/-- The body of the loop of `Rules::new`. -/
def insertRule
    (mode : Mode)
    (hostAddress : Ipv4Address)
    (peerAddresses : List Ipv4Address)
    (action : Action)
    (tables : PendingTables)
    (rule : Rule) :
    PendingTables :=
  match rule with
  | .stateless target =>
      -- Bare rules apply in both directions in stateful mode
      { inbound :=
          if mode = .stateful then
            insertFilter tables.inbound target .unrestricted action
              hostAddress peerAddresses
          else
            tables.inbound
        outbound :=
          insertFilter tables.outbound target .unrestricted action
            hostAddress peerAddresses }
  | .stateful .inbound target filter =>
      { tables with
        inbound :=
          insertFilter tables.inbound target filter action
            hostAddress peerAddresses }
  | .stateful .outbound target filter =>
      { tables with
        outbound :=
          insertFilter tables.outbound target filter action
            hostAddress peerAddresses }

/-- The filters of one prefix in the order a search tries them. -/
def sortFilters (net : Ipv4Net) (filters : FilterRules) : FilterRules :=
  filters.insertionSort
    (fun x y =>
      rulePriority net.prefixLen y.1 y.2 ≤ rulePriority net.prefixLen x.1 x.2)

def compileRules
    (order : HashOrder)
    (direction : Direction)
    (entries : PendingRules) :
    Cidr.PrefixMap 32 FilterRules :=
  entries.mapValues
    (fun net filters =>
      sortFilters net
        (order.iter direction net (filters.entries.map (fun e => (e.1, e.2)))))

/-- Legacy for bare rules only; one directional rule makes the policy stateful. -/
def policyMode (allow block : List Rule) : Mode :=
  if (allow ++ block).any Rule.isStateful then .stateful else .legacy

namespace Rules

/-- The tables before compilation: allowing rules first, so that blocks overwrite them. -/
def pendingTables
    (hostAddress : Ipv4Address)
    (peerAddresses : List Ipv4Address)
    (allow block : List Rule) :
    PendingTables :=
  block.foldl
    (insertRule (policyMode allow block) hostAddress peerAddresses .block)
    (allow.foldl
      (insertRule (policyMode allow block) hostAddress peerAddresses .allow)
      ⟨.empty, .empty⟩)

def new
    (order : HashOrder)
    (hostAddress : Ipv4Address)
    (peerAddresses : List Ipv4Address)
    (allow block : List Rule) :
    Rules :=
  let tables := pendingTables hostAddress peerAddresses allow block
  { mode := policyMode allow block
    inbound := compileRules order .inbound tables.inbound
    outbound := compileRules order .outbound tables.outbound }

/-- The table searched for packets of a direction. -/
def entries (rules : Rules) : Direction → Cidr.PrefixMap 32 FilterRules
  | .inbound => rules.inbound
  | .outbound => rules.outbound

def select
    (rules : Rules)
    (address : Ipv4Address)
    (direction : Direction)
    (protocol : IpProtocol)
    (destinationPort : Option UInt16) :
    Option Action :=
  -- A filter mismatch falls back to a broader prefix
  let candidates :=
    ((rules.entries direction).cover (Cidr.Net.ofAddress address)).filterMap
      (fun e =>
        (filterAction e.2 protocol destinationPort).map
          (fun hit => (rulePriority e.1.prefixLen hit.1 hit.2, hit.2)))
  (Precedence.maxByKey Prod.fst candidates).map Prod.snd

end Rules

/-- Source and destination port, unless the packet hides them. -/
def packetPorts (pkt : Ipv4Packet) : Option (UInt16 × UInt16) :=
  if pkt.isFragment then
    none
  else
    match pkt.nextHeader with
    | .tcp => pkt.payload.tcp.map (fun tcp => (tcp.srcPort, tcp.dstPort))
    | .udp => pkt.payload.udpChecked.map (fun udp => (udp.srcPort, udp.dstPort))
    | _ => none

namespace Rules

def policyDecision
    (rules : Rules)
    (pkt : Ipv4Packet)
    (direction : Direction) :
    Option PolicyDecision :=
  let address :=
    match direction with
    | .inbound => pkt.srcAddr
    | .outbound => pkt.dstAddr
  match
    rules.select address direction pkt.nextHeader
      ((packetPorts pkt).map Prod.snd)
  with
  | none => none
  | some .block => some .block
  | some .allow =>
      match rules.mode with
      | .legacy => some .allowStateless
      | .stateful => some .allowStateful

/--
Whether a rule of the given direction decides the replies to a packet.  A
reply's destination port is the packet's source port.
-/
def isStateful
    (rules : Rules)
    (pkt : Ipv4Packet)
    (direction : Direction) :
    Bool :=
  let address :=
    match direction with
    | .inbound => pkt.dstAddr
    | .outbound => pkt.srcAddr
  rules.mode == .stateful &&
    (rules.select address direction pkt.nextHeader
      ((packetPorts pkt).map Prod.fst)).isSome

def len (rules : Rules) : Nat :=
  ((rules.inbound.values ++ rules.outbound.values).map List.length).foldl (· + ·) 0

def hasStateful (rules : Rules) : Bool :=
  rules.mode == .stateful

end Rules

end Softnet
