import Softnet.Flows.Table
import Softnet.Proxy.Rules

/-!
# The proxy and its packet decisions

The state of `lib/proxy/mod.rs` and the decisions of `lib/proxy/vm.rs` and
`lib/proxy/host.rs`.  A decision takes the state and the time of the packet, and
returns the state after it together with `some ()` when the packet is forwarded.

Not in the state: the sockets, the replies written to the VM, and the note that
a write ran out of buffer space; no decision reads them.  DHCP replies are not in
the model either: a packet to the DHCP server port is consumed whatever the
server makes of it.
-/

namespace Softnet

/-- `dhcproto::v4::SERVER_PORT`. -/
def serverPort : UInt16 := 67

/-- `dhcproto::v4::CLIENT_PORT`. -/
def clientPort : UInt16 := 68

/-- `DNS_PORT`. -/
def dnsPort : UInt16 := 53

/-- `IPV4_HEADER_LEN_WITHOUT_OPTIONS`. -/
def ipv4HeaderLenWithoutOptions : UInt8 := 20

/-- The local DNS server, by what it answers; `ok none` leaves a query to others. -/
structure DnsServer where
  respond :
    (sourceMac destinationMac : EthernetAddress) → Ipv4Packet → UdpPacket →
    (maxPacketSize : Nat) → Except String (Option (List UInt8))

/-- The shared network of a batch. -/
structure Network where
  gatewayIp : Ipv4Address
  vmIps : List Ipv4Address

/-- The host side of one VM's interface. -/
structure Host where
  vmIp : Ipv4Address
  gatewayIp : Ipv4Address
  maxPacketSize : Nat

/--
`Host::new`.  Setting up the `vmnet` interface either fails or reports the
maximal packet size.
-/
def Host.new
    (interface : Except String Nat)
    (network : Network)
    (vmIp : Ipv4Address) :
    Except String Host :=
  match interface with
  | .error message => .error message
  | .ok maxPacketSize => .ok ⟨vmIp, network.gatewayIp, maxPacketSize⟩

structure Proxy where
  host : Host
  vmMacAddress : EthernetAddress
  peerIps : List Ipv4Address
  dnsServer : Option DnsServer
  rules : Rules
  allow : List Rule
  block : List Rule
  flows : Option FlowTable

/-- What a policy request returns. -/
structure Policy where
  allow : List Rule
  block : List Rule
  ruleCount : Nat

namespace Proxy

/-- `rules.has_stateful().then(FlowTable::new)`. -/
def freshFlows (rules : Rules) (now : Instant) : Option FlowTable :=
  if rules.hasStateful then some (FlowTable.new now) else none

def new
    (crates : Crates)
    (order : HashOrder)
    (interface : Except String Nat)
    (vmMacAddress : EthernetAddress)
    (vmIp : Ipv4Address)
    (network : Network)
    (allow block : List Rule)
    (dnsServer : Option DnsServer)
    (now : Instant) :
    Except String Proxy :=
  let allow := normalizeRules crates allow
  let block := normalizeRules crates block
  match Host.new interface network vmIp with
  | .error message => .error message
  | .ok host =>
      -- The other VMs' reservations serve initial and replacement policies
      let peerIps := network.vmIps.filter (fun peerIp => peerIp ≠ vmIp)
      let rules := Rules.new order host.gatewayIp peerIps allow block
      .ok
        { host := host
          vmMacAddress := vmMacAddress
          peerIps := peerIps
          dnsServer := dnsServer
          rules := rules
          allow := allow
          block := block
          flows := freshFlows rules now }

def policyGet (p : Proxy) : Policy :=
  ⟨p.allow, p.block, p.rules.len⟩

def policySet
    (crates : Crates)
    (order : HashOrder)
    (p : Proxy)
    (allow block : List Rule)
    (now : Instant) :
    Proxy × Policy :=
  let allow := normalizeRules crates allow
  let block := normalizeRules crates block
  -- Keep existing tracked flows when the normalized policy is unchanged
  let p :=
    if p.allow ≠ allow ∨ p.block ≠ block then
      let rules := Rules.new order p.host.gatewayIp p.peerIps allow block
      { p with
        rules := rules
        allow := allow
        block := block
        flows := freshFlows rules now }
    else
      p
  (p, p.policyGet)

/-! ## Tracking -/

/-- `flows.as_mut().map(inspect).unwrap_or(Untracked)`. -/
def inspect
    (p : Proxy)
    (pkt : Ipv4Packet)
    (direction : FlowDirection)
    (now : Instant) :
    Proxy × FlowMatch :=
  match p.flows with
  | none => (p, .untracked)
  | some flows =>
      let (flows, verdict) := flows.inspectAt pkt direction now
      ({ p with flows := some flows }, verdict)

/-- Commits the pending flow, rejecting the packet if the table cannot store it. -/
def admitWithTracking (p : Proxy) (pending : PendingFlow) : Proxy × Option Unit :=
  match p.flows with
  | none => (p, none)
  | some flows =>
      let (flows, stored) := flows.commit pending
      ({ p with flows := some flows }, if stored then some () else none)

/-- Commits a pending flow for trackable packets; untracked packets proceed without one. -/
def admitWithTrackingIfTrackable
    (p : Proxy)
    (pending : Option PendingFlow) :
    Proxy × Option Unit :=
  match pending with
  | some pending => p.admitWithTracking pending
  | none => (p, some ())

/-- Commits a pending flow when the return-direction rule is stateful. -/
def admitWithTrackingIfStateful
    (p : Proxy)
    (pending : Option PendingFlow)
    (pkt : Ipv4Packet)
    (returnDirection : Direction) :
    Proxy × Option Unit :=
  if p.rules.isStateful pkt returnDirection then
    p.admitWithTrackingIfTrackable pending
  else
    (p, some ())

/-! ## Packets from the VM -/

/-- A UDP packet that holds its ports. -/
def showsUdpPorts (pkt : Ipv4Packet) : Bool :=
  pkt.nextHeader == .udp && pkt.fragOffset == 0 && decide (4 ≤ pkt.payload.len)

/-- Packets to the DHCP server port are consumed, answered or not. -/
def consumeDhcp (pkt : Ipv4Packet) : Bool :=
  showsUdpPorts pkt && pkt.payload.udp.dstPort == serverPort

def consumeDns
    (p : Proxy)
    (destinationMac : EthernetAddress)
    (pkt : Ipv4Packet) :
    Bool :=
  match p.dnsServer with
  | none => false
  | some dnsServer =>
      -- Accept only complete IPv4 UDP datagrams addressed to the gateway
      if pkt.dstAddr ≠ p.host.gatewayIp ∨ !pkt.verifyChecksum ∨
          pkt.nextHeader ≠ .udp ∨ pkt.moreFrags ∨ pkt.fragOffset ≠ 0 then
        false
      else
        match pkt.payload.udpChecked with
        | none => false
        | some udp =>
            if !udp.verifyChecksum ∨ udp.dstPort ≠ dnsPort ∨
                udp.len.toNat ≠ pkt.payload.len then
              false
            else
              match
                dnsServer.respond p.vmMacAddress destinationMac pkt udp
                  p.host.maxPacketSize
              with
              | .ok none => false
              | .ok (some _) => true
              | .error _ => true

/-- The part of `allowed_from_vm_ipv4` after the flow table had no final answer. -/
def outboundPolicy
    (crates : Crates)
    (p : Proxy)
    (pkt : Ipv4Packet)
    (pending : Option PendingFlow) :
    Proxy × Option Unit :=
  match p.rules.policyDecision pkt .outbound with
  | some .block => (p, none)
  | some .allowStateless => p.admitWithTrackingIfStateful pending pkt .inbound
  | some .allowStateful =>
      match pending with
      | none => (p, none)
      | some pending => p.admitWithTracking pending
  | none =>
      if crates.isGlobal pkt.dstAddr then
        p.admitWithTrackingIfTrackable pending
      else if pkt.dstAddr = p.host.gatewayIp then
        p.admitWithTrackingIfTrackable pending
      else
        (p, none)

def allowedFromVmIpv4
    (crates : Crates)
    (p : Proxy)
    (destinationMac : EthernetAddress)
    (pkt : Ipv4Packet)
    (now : Instant) :
    Proxy × Option Unit :=
  -- Consume DHCP before enforcing the reserved source address
  if consumeDhcp pkt then
    (p, none)
  else if p.host.vmIp = pkt.srcAddr then
    if p.consumeDns destinationMac pkt then
      (p, none)
    else
      match p.inspect pkt .fromVm now with
      | (p, .allowed) => (p, some ())
      | (p, .denied) => (p, none)
      | (p, .candidate pending) => p.outboundPolicy crates pkt (some pending)
      | (p, .untracked) => p.outboundPolicy crates pkt none
  else
    (p, none)

/-- `vm_arp_allowed`. -/
def vmArpAllowed
    (arpPkt : ArpPacket)
    (vmMacAddress : EthernetAddress)
    (address : Ipv4Address) :
    Option Unit :=
  match arpPkt.repr with
  | none => none
  | some .other => none
  | some (.ethernetIpv4 operation sourceHardwareAddr sourceProtocolAddr) =>
      if ¬ (operation = .request ∨ operation = .reply) then
        none
      else if sourceHardwareAddr ≠ vmMacAddress then
        none
      else if sourceProtocolAddr = address ∨ sourceProtocolAddr = 0 then
        some ()
      else
        none

def allowedFromVm
    (crates : Crates)
    (p : Proxy)
    (frame : EthernetFrame)
    (now : Instant) :
    Proxy × Option Unit :=
  if frame.srcAddr ≠ p.vmMacAddress then
    (p, none)
  else
    match frame.ethertype with
    | .arp =>
        match frame.arp with
        | none => (p, none)
        | some arpPkt => (p, vmArpAllowed arpPkt p.vmMacAddress p.host.vmIp)
    | .ipv4 =>
        if !frame.ipv4Parses then
          (p, none)
        -- Source routing could bypass destination-based policy
        else if frame.ipv4.headerLen ≠ ipv4HeaderLenWithoutOptions then
          (p, none)
        else
          p.allowedFromVmIpv4 crates frame.dstAddr frame.ipv4 now
    | .other _ => (p, none)

/-! ## Packets from the host -/

/-- External DHCP replies, including malformed and fragmented ones. -/
def isDhcpReply (pkt : Ipv4Packet) : Bool :=
  showsUdpPorts pkt &&
    (pkt.payload.udp.srcPort == serverPort && pkt.payload.udp.dstPort == clientPort)

/-- The part of `allowed_from_host_ipv4` after the flow table had no final answer. -/
def inboundPolicy
    (p : Proxy)
    (pkt : Ipv4Packet)
    (pending : Option PendingFlow) :
    Proxy × Option Unit :=
  match p.rules.policyDecision pkt .inbound with
  | some .block => (p, none)
  -- Stateless policy is outbound-only; fail closed if this is violated
  | some .allowStateless => (p, none)
  | some .allowStateful =>
      match pending with
      | none => (p, none)
      | some pending => p.admitWithTracking pending
  | none => p.admitWithTrackingIfStateful pending pkt .outbound

def allowedFromHostIpv4
    (p : Proxy)
    (pkt : Ipv4Packet)
    (now : Instant) :
    Proxy × Option Unit :=
  if isDhcpReply pkt then
    (p, none)
  else if p.flows.isNone then
    (p, some ())
  else if p.host.vmIp = pkt.dstAddr then
    match p.inspect pkt .fromHost now with
    | (p, .allowed) => (p, some ())
    | (p, .denied) => (p, none)
    | (p, .candidate pending) => p.inboundPolicy pkt (some pending)
    | (p, .untracked) => p.inboundPolicy pkt none
  else
    p.inboundPolicy pkt none

def allowedFromHost
    (p : Proxy)
    (frame : EthernetFrame)
    (now : Instant) :
    Proxy × Option Unit :=
  match frame.ethertype with
  | .arp => (p, some ())
  | .ipv4 =>
      if !frame.ipv4Parses then
        (p, none)
      else
        p.allowedFromHostIpv4 frame.ipv4 now
  | .other _ => (p, none)

end Proxy

end Softnet
