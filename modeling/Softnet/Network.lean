import Softnet.Proxy.Admission

/-!
# The shared network of a batch

`lib/network.rs`: the `vmnet` network that all VMs of a batch share, with the
reservation of an address for each VM.  What `vmnet` answers is a parameter.  Errors
keep their texts, as chains of contexts.
-/

namespace Softnet

abbrev Uuid : Type := BitVec 128

/-- An error of `anyhow`: its contexts, outermost first, and its cause. -/
abbrev ErrorChain : Type := List String

/-- `Context::context`. -/
def context {α : Type} (message : String) (result : Except ErrorChain α) :
    Except ErrorChain α :=
  result.mapError (message :: ·)

/-- How the crates outside the repository print identifiers. -/
structure Texts where
  /-- `Display for MacAddress` of `mac_address`. -/
  macText : EthernetAddress → String
  /-- `Display for Uuid` of `uuid`. -/
  uuidText : Uuid → String

/-- `Display for Ipv4Addr`. -/
def ipv4Text (address : Ipv4Address) : String :=
  let octet := fun shift => toString ((address >>> shift).toNat % 256)
  octet 24 ++ "." ++ octet 16 ++ "." ++ octet 8 ++ "." ++ octet 0

/-- `MAX_VMS`: a /29 has six usable addresses, one of them the gateway's. -/
def maxVms : Nat := 5

def subnetPrefixLen : Nat := 29

inductive NetType where
  | nat
  | host
deriving DecidableEq, Repr

structure ExposedPort where
  externalPort : UInt16
  internalPort : UInt16
deriving DecidableEq, Repr

/--
The `k`-th usable address of a network, as `Ipv4Net::hosts` of `ipnet` counts
them: the network and broadcast addresses are usable in the smallest networks
only.
-/
def nthHost (subnet : Ipv4Net) (k : Nat) : Option Ipv4Address :=
  let mask := Cidr.netmask 32 subnet.prefixLen
  let network := (subnet.addr &&& mask).toNat
  let broadcast := (subnet.addr ||| ~~~mask).toNat
  let first := if subnet.prefixLen < 31 then network + 1 else network
  let last := if subnet.prefixLen < 31 then broadcast - 1 else broadcast
  if first + k ≤ last then some (BitVec.ofNat 32 (first + k)) else none

/-- What `vmnet` answers while a network is configured and created. -/
structure Vmnet where
  configuration : NetType → Except ErrorChain Unit
  setIpv4Subnet : (gatewayIp subnetMask : Ipv4Address) → Except ErrorChain Unit
  addDhcpReservation : EthernetAddress → Ipv4Address → Except ErrorChain Unit
  addPortForwardingRule : Ipv4Address → ExposedPort → Except ErrorChain Unit
  network : Except ErrorChain Unit

def Network.new
    (crates : Crates)
    (texts : Texts)
    (vmnet : Vmnet)
    (netType : NetType)
    (subnet : Ipv4Net)
    (reservations : List (EthernetAddress × Ipv4Address))
    (portForwardings : List (Ipv4Address × ExposedPort)) :
    Except ErrorChain Network := do
  context "failed to create vmnet network configuration" (vmnet.configuration netType)
  let gatewayIp ←
    (nthHost subnet 0).elim (.error ["shared VM subnet has no gateway address"]) .ok
  context "failed to configure IPv4 subnet"
    (vmnet.setIpv4Subnet gatewayIp (Cidr.netmask 32 subnet.prefixLen))
  -- Every reservation is published before the network starts
  reservations.forM fun (vmMac, vmIp) =>
    context
      ("failed to reserve " ++ ipv4Text vmIp ++ " for VM MAC address " ++ texts.macText vmMac)
      (vmnet.addDhcpReservation vmMac vmIp)
  portForwardings.forM fun (vmIp, port) =>
    context
      ("failed to add port forwarding rule external_port=" ++
        toString port.externalPort.toNat ++ ", internal_addr=" ++ ipv4Text vmIp ++
        ", internal_port=" ++ toString port.internalPort.toNat)
      (vmnet.addPortForwardingRule vmIp port)
  context ("failed to create vmnet network " ++ crates.netText subnet) vmnet.network
  return ⟨gatewayIp, reservations.map Prod.snd⟩

end Softnet
