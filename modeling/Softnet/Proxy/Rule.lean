import Softnet.Lib.PrefixMaps
import Mathlib.Data.List.Destutter
import Mathlib.Data.List.Sort
import Mathlib.Data.String.Basic

/-!
# Policy rules

The rule language of `lib/proxy/rule.rs`: targets, directions, protocol and
port filters, their normal form and their printed text, and the normalization
of rule lists in `lib/proxy/mod.rs`.

Two functions come from crates outside the repository: the printed text of a
prefix (`ipnet`) and whether an address is globally routable (`ip_network`).
They are the fields of `Crates`, a parameter of every definition that needs
them.
-/

namespace Softnet

abbrev Ipv4Address : Type := BitVec 32

abbrev Ipv4Net : Type := Cidr.Net 32

/-- What the crates outside the repository compute. -/
structure Crates where
  /-- `Display for Ipv4Net` of `ipnet`. -/
  netText : Ipv4Net → String
  /-- `IpNetwork::from(address).is_global()` of `ip_network`. -/
  isGlobal : Ipv4Address → Bool

inductive Direction where
  | inbound
  | outbound
deriving DecidableEq, Repr

inductive Protocol where
  | tcp
  | udp
  | icmp
deriving DecidableEq, Repr

/-- An inclusive range of nonzero ports. -/
structure PortRange where
  first : UInt16
  last : UInt16
  first_ne_zero : first ≠ 0
  first_le_last : first ≤ last
deriving DecidableEq

structure Filter where
  protocol : Option Protocol
  destinationPortRange : Option PortRange
deriving DecidableEq

inductive Target where
  | netPrefix (net : Ipv4Net)
  | host
  | peers
deriving DecidableEq

inductive Rule where
  | stateless (target : Target)
  | stateful (direction : Direction) (target : Target) (filter : Filter)
deriving DecidableEq

/-- `Filter::default()`. -/
def Filter.unrestricted : Filter :=
  ⟨none, none⟩

namespace PortRange

/-- `PortRange::new`, with its error texts. -/
def new (first last : UInt16) : Except String PortRange :=
  if hzero : first ≠ 0 ∧ last ≠ 0 then
    if hle : first ≤ last then
      .ok ⟨first, last, hzero.1, hle⟩
    else
      .error "port range start must not exceed its end"
  else
    .error "port bounds must be in 1..65535"

def contains (range : PortRange) (port : UInt16) : Bool :=
  decide (range.first ≤ port ∧ port ≤ range.last)

def width (range : PortRange) : UInt16 :=
  range.last - range.first

/-- `Display for PortRange`. -/
def text (range : PortRange) : String :=
  if range.first = range.last then
    toString range.first.toNat
  else
    toString range.first.toNat ++ ":" ++ toString range.last.toNat

end PortRange

/-- `Display for Direction`. -/
def Direction.text : Direction → String
  | .inbound => "in"
  | .outbound => "out"

/-- `Display for Protocol`. -/
def Protocol.text : Protocol → String
  | .tcp => "tcp"
  | .udp => "udp"
  | .icmp => "icmp"

namespace Target

def normalized : Target → Target
  | .netPrefix net => .netPrefix net.trunc
  | .host => .host
  | .peers => .peers

/-- `Display for Target`. -/
def text (crates : Crates) : Target → String
  | .netPrefix net => crates.netText net
  | .host => "@host"
  | .peers => "@peers"

end Target

namespace Rule

def normalized : Rule → Rule
  | .stateless target => .stateless target.normalized
  | .stateful direction target filter =>
      .stateful direction target.normalized filter

/-- `matches!(rule, Rule::Stateful { .. })`. -/
def isStateful : Rule → Bool
  | .stateless _ => false
  | .stateful .. => true

/-- `Display for Rule`. -/
def text (crates : Crates) : Rule → String
  | .stateless target => target.text crates
  | .stateful direction target filter =>
      direction.text ++ " " ++
        (match filter.protocol with
          | some protocol => "proto " ++ protocol.text ++ " "
          | none => "") ++
        target.text crates ++
        (match filter.destinationPortRange with
          | some port => " port " ++ port.text
          | none => "")

end Rule

/--
Truncate every prefix, sort by printed text, and drop neighbours that are
equal.  `sort_by_key` is stable, as insertion sort is.
-/
def normalizeRules (crates : Crates) (rules : List Rule) : List Rule :=
  ((rules.map Rule.normalized).insertionSort
    (fun a b => a.text crates ≤ b.text crates)).destutter (· ≠ ·)

end Softnet
