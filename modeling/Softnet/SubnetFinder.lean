import Softnet.Lib.CidrBlocks
import Softnet.Lib.Fallible
import Softnet.Network

/-!
# Finding an unused subnet

`lib/subnet_finder/mod.rs`: a private subnet of the wanted length is drawn at random until
one is found that overlaps no network of the host.  The interfaces of the host and the
draws are parameters; a draw carries the proof that it is one the code can make.

Overlap is tested as containment either way.  That suffices because blocks nest, so that
the subnet found shares no address with a network of the host
(`findAvailableSubnet_spec`).
-/

namespace Softnet

/-- `Addr` of `network_interface`. -/
inductive InterfaceAddress where
  | v4 (ip : Ipv4Address) (netmask : Option Ipv4Address)
  | v6
deriving DecidableEq

structure NetworkInterface where
  addr : List InterfaceAddress

/-- `Display for PrefixLenError` of `ipnet`. -/
def prefixLenError : ErrorChain := ["invalid IP prefix length"]

/-- `Ipv4Net::new`. -/
def Ipv4Net.new (address : Ipv4Address) (prefixLen : UInt8) : Except ErrorChain Ipv4Net :=
  if h : prefixLen.toNat ≤ 32 then .ok ⟨address, prefixLen.toNat, h⟩ else .error prefixLenError

/-- `Ipv4Net::with_netmask`: the ones of a netmask all stand in front. -/
def Ipv4Net.withNetmask (address mask : Ipv4Address) : Except ErrorChain Ipv4Net :=
  match (List.finRange 33).find? (fun len : Fin 33 => Cidr.netmask 32 len == mask) with
  | some len => .ok ⟨address, len, Nat.lt_succ_iff.mp len.isLt⟩
  | none => .error prefixLenError

/-- `MAX_ATTEMPTS`. -/
def maxAttempts : Nat := 128

/-- The pools that subnets are drawn from. -/
def privateSubnets : List Ipv4Net :=
  [⟨0x0a000000#32, 8, by decide⟩,
    ⟨0xac100000#32, 12, by decide⟩,
    -- The third octet stays below 100
    ⟨0xc0a80000#32, 18, by decide⟩,
    ⟨0xc0a84000#32, 19, by decide⟩,
    ⟨0xc0a86000#32, 22, by decide⟩]

/-- The random choices of one attempt: a pool, and an address of it. -/
structure Draw where
  privateSubnet : Ipv4Net
  address : Ipv4Address
  privateSubnet_mem : privateSubnet ∈ privateSubnets
  network_le : privateSubnet.network ≤ address
  le_broadcast : address ≤ privateSubnet.broadcast

/-- The networks that the interfaces of the host are on. -/
def usedSubnets : List InterfaceAddress → Except ErrorChain (List Ipv4Net)
  | [] => .ok []
  -- Only IPv4 is supported
  | .v6 :: addrs => usedSubnets addrs
  | .v4 ip netmask :: addrs => do
      let mask ← netmask.elim (.error ["IPv4 interface has no netmask"]) .ok
      let usedSubnet ← Ipv4Net.withNetmask ip mask
      let rest ← usedSubnets addrs
      return usedSubnet :: rest

/-- Whether the candidate and the network overlap. -/
def overlaps (candidate usedSubnet : Ipv4Net) : Bool :=
  candidate.containsNet usedSubnet || usedSubnet.containsNet candidate

/-- The first two hosts of a candidate, unless the candidate is in use or too small. -/
def firstTwoHosts (used : List Ipv4Net) (candidate : Ipv4Net) :
    Option (Ipv4Address × Ipv4Address × Ipv4Net) := do
  guard (¬ used.any (overlaps candidate))
  let firstHost ← nthHost candidate 0
  let secondHost ← nthHost candidate 1
  return (firstHost, secondHost, candidate)

/-- One attempt. -/
def attemptSubnet (used : List Ipv4Net) (prefixLen : UInt8) (draw : Draw) :
    Except ErrorChain (Option (Ipv4Address × Ipv4Address × Ipv4Net)) :=
  -- A pool too small for the subnet is passed over
  if prefixLen.toNat < draw.privateSubnet.prefixLen then
    .ok none
  else
    (Ipv4Net.new draw.address prefixLen).map fun net => firstTwoHosts used net.trunc

def searchSubnet (used : List Ipv4Net) (prefixLen : UInt8) :
    List Draw → Except ErrorChain (Ipv4Address × Ipv4Address × Ipv4Net)
  | [] =>
      .error
        ["failed to find an unused private IPv4 /" ++ toString prefixLen.toNat ++
          " subnet after " ++ toString maxAttempts ++ " attempts"]
  | draw :: draws => do
      match ← attemptSubnet used prefixLen draw with
      | some found => return found
      | none => searchSubnet used prefixLen draws

/-- `find_available_subnet`, from what `NetworkInterface::show` answers. -/
def findAvailableSubnet
    (interfaces : Except ErrorChain (List NetworkInterface))
    (draws : Nat → Draw)
    (prefixLen : UInt8) :
    Except ErrorChain (Ipv4Address × Ipv4Address × Ipv4Net) := do
  let used ← usedSubnets ((← interfaces).flatMap NetworkInterface.addr)
  searchSubnet used prefixLen ((List.range maxAttempts).map draws)

section Hosts

/-! ## Usable addresses -/

variable {subnet : Ipv4Net}
variable {a : Ipv4Address}
variable {j k : Nat}

/-- The number of the first usable address. -/
def firstHost (subnet : Ipv4Net) : Nat :=
  if subnet.prefixLen < 31 then subnet.network.toNat + 1 else subnet.network.toNat

/-- The number of the last usable address. -/
def lastHost (subnet : Ipv4Net) : Nat :=
  if subnet.prefixLen < 31 then subnet.broadcast.toNat - 1 else subnet.broadcast.toNat

theorem nthHost_eq_some_iff :
    nthHost subnet k = some a ↔
      firstHost subnet + k ≤ lastHost subnet ∧ a.toNat = firstHost subnet + k := by
  have hlast : lastHost subnet < 2 ^ 32 := by
    have := subnet.broadcast.isLt
    unfold lastHost
    split <;> omega
  have hdef :
      nthHost subnet k =
        if firstHost subnet + k ≤ lastHost subnet then
          some (BitVec.ofNat 32 (firstHost subnet + k))
        else none := rfl
  rw [hdef]
  split
  · next hle =>
      have hsmall : (firstHost subnet + k) % 2 ^ 32 = firstHost subnet + k :=
        Nat.mod_eq_of_lt (by omega)
      rw [Option.some.injEq, ← BitVec.toNat_inj, BitVec.toNat_ofNat, hsmall]
      exact ⟨fun h => ⟨hle, h.symm⟩, fun h => h.2.symm⟩
  · next hle => simp [hle]

/-- Usable addresses at different positions differ. -/
theorem nthHost_injective
    (hj : nthHost subnet j = some a)
    (hk : nthHost subnet k = some a) :
    j = k := by
  have hj' := (nthHost_eq_some_iff.mp hj).2
  have hk' := (nthHost_eq_some_iff.mp hk).2
  omega

/-- A usable address lies in its network, apart from its ends in all but the smallest ones. -/
theorem nthHost_inside
    (h : nthHost subnet k = some a) :
    subnet.contains a = true ∧
      (subnet.prefixLen < 31 → a ≠ subnet.network ∧ a ≠ subnet.broadcast) := by
  obtain ⟨hle, ha⟩ := nthHost_eq_some_iff.mp h
  rw [Cidr.Net.contains_iff_between, BitVec.le_def, BitVec.le_def, ne_eq, ne_eq,
    ← BitVec.toNat_inj, ← BitVec.toNat_inj]
  have hends : subnet.network.toNat ≤ subnet.broadcast.toNat := subnet.network_le_broadcast
  by_cases hlen : subnet.prefixLen < 31
  · simp only [firstHost, lastHost, hlen, if_true] at hle ha
    omega
  · simp only [firstHost, lastHost, hlen, if_false] at hle ha
    omega

/-- All but two addresses of a network are usable. -/
theorem exists_nthHost
    (hlen : subnet.prefixLen < 31)
    (hk : k + 2 < subnet.size) :
    ∃ a, nthHost subnet k = some a := by
  have hnetwork := subnet.toNat_network
  have hbroadcast := subnet.toNat_broadcast
  have hlt := subnet.broadcast.isLt
  refine ⟨BitVec.ofNat 32 (firstHost subnet + k), nthHost_eq_some_iff.mpr ?_⟩
  rw [BitVec.toNat_ofNat]
  simp only [firstHost, lastHost, hlen, if_true]
  omega

end Hosts

section Finding

/-! ## What is found -/

variable {used : List Ipv4Net}
variable {addrs : List InterfaceAddress}
variable {prefixLen : UInt8}
variable {firstHost secondHost : Ipv4Address}
variable {subnet : Ipv4Net}

/-- A subnet of a pool that shares no address with the networks in use. -/
structure Ipv4Net.Available (used : List Ipv4Net) (prefixLen : UInt8) (subnet : Ipv4Net) :
    Prop where
  truncated : subnet.trunc = subnet
  prefixLen_eq : subnet.prefixLen = prefixLen.toNat
  private_pool : ∃ pool ∈ privateSubnets, ∀ a, subnet.contains a = true → pool.contains a = true
  unused :
    ∀ usedSubnet ∈ used, ∀ a, ¬ (subnet.contains a = true ∧ usedSubnet.contains a = true)

theorem Ipv4Net.eq_of_withNetmask
    {ip mask : Ipv4Address} {net : Ipv4Net}
    (h : Ipv4Net.withNetmask ip mask = .ok net) :
    net.addr = ip ∧ Cidr.netmask 32 net.prefixLen = mask := by
  unfold Ipv4Net.withNetmask at h
  cases hfind : (List.finRange 33).find? (fun len : Fin 33 => Cidr.netmask 32 len == mask) with
  | none =>
      rw [hfind] at h
      cases h
  | some len =>
      rw [hfind] at h
      cases h
      exact ⟨rfl, by simpa using List.find?_some hfind⟩

/-- Every network of an interface is among those in use, by its address and its mask. -/
theorem exists_usedSubnet
    (h : usedSubnets addrs = .ok used)
    {ip mask : Ipv4Address}
    (haddr : .v4 ip (some mask) ∈ addrs) :
    ∃ usedSubnet ∈ used,
      ∀ a, usedSubnet.contains a = true ↔ a &&& mask = ip &&& mask := by
  induction addrs generalizing used with
  | nil => cases haddr
  | cons addr addrs ih =>
      cases addr with
      | v6 => exact ih h (by simpa using haddr)
      | v4 ip' netmask =>
          obtain ⟨mask', hmask', h⟩ := Except.bind_eq_ok_iff.mp h
          obtain ⟨net, hnet, h⟩ := Except.bind_eq_ok_iff.mp h
          obtain ⟨rest, hrest, h⟩ := Except.bind_eq_ok_iff.mp h
          cases h
          rcases List.mem_cons.mp haddr with hhead | htail
          · cases hhead
            cases hmask'
            obtain ⟨hip, hmask⟩ := Ipv4Net.eq_of_withNetmask hnet
            refine ⟨net, List.mem_cons_self, fun a => ?_⟩
            rw [Cidr.Net.contains, hmask, hip, beq_iff_eq]
          · obtain ⟨usedSubnet, hmem, hcontains⟩ := ih hrest htail
            exact ⟨usedSubnet, List.mem_cons_of_mem _ hmem, hcontains⟩

theorem firstTwoHosts_spec
    {candidate : Ipv4Net}
    (h : firstTwoHosts used candidate = some (firstHost, secondHost, subnet)) :
    subnet = candidate ∧
      nthHost subnet 0 = some firstHost ∧
      nthHost subnet 1 = some secondHost ∧
      ∀ usedSubnet ∈ used, overlaps subnet usedSubnet = false := by
  obtain ⟨⟨⟩, hfree, h⟩ := Option.bind_eq_some_iff.mp h
  obtain ⟨first, hfirst, h⟩ := Option.bind_eq_some_iff.mp h
  obtain ⟨second, hsecond, h⟩ := Option.bind_eq_some_iff.mp h
  cases h
  exact ⟨rfl, hfirst, hsecond, by simpa [guard, Option.guard] using hfree⟩

/-- An attempt finds a subnet of the pool it draws from. -/
theorem attemptSubnet_spec
    {draw : Draw}
    (h : attemptSubnet used prefixLen draw = .ok (some (firstHost, secondHost, subnet))) :
    subnet.Available used prefixLen ∧
      nthHost subnet 0 = some firstHost ∧
      nthHost subnet 1 = some secondHost := by
  unfold attemptSubnet at h
  split at h
  · cases h
  · next hlen =>
      obtain ⟨net, hnet, hhosts⟩ := Except.map_eq_ok_iff.mp h
      obtain ⟨rfl, hfirst, hsecond, hfree⟩ := firstTwoHosts_spec hhosts
      obtain ⟨hle, rfl⟩ : ∃ hle, (⟨draw.address, prefixLen.toNat, hle⟩ : Ipv4Net) = net := by
        unfold Ipv4Net.new at hnet
        split at hnet
        · next hle => exact ⟨hle, Except.ok.inj hnet⟩
        · cases hnet
      refine ⟨⟨?_, rfl, ⟨_, draw.privateSubnet_mem, fun a ha => ?_⟩, fun usedSubnet hused a => ?_⟩,
        hfirst, hsecond⟩
      · simp [Cidr.Net.trunc, BitVec.and_assoc]
      · -- The address that was drawn is common to the pool and the candidate
        rw [Cidr.Net.contains_trunc] at ha
        exact Cidr.Net.contains_of_common (Nat.not_lt.mp hlen)
          (Cidr.Net.contains_iff_between.mpr ⟨draw.network_le, draw.le_broadcast⟩)
          (Cidr.Net.contains_addr _) ha
      · have hapart := hfree usedSubnet hused
        rw [overlaps, Bool.or_eq_false_iff] at hapart
        exact Cidr.Net.disjoint_of_not_containsNet hapart.1 hapart.2

theorem searchSubnet_spec
    {draws : List Draw}
    (h : searchSubnet used prefixLen draws = .ok (firstHost, secondHost, subnet)) :
    subnet.Available used prefixLen ∧
      nthHost subnet 0 = some firstHost ∧
      nthHost subnet 1 = some secondHost := by
  induction draws with
  | nil => cases h
  | cons draw draws ih =>
      obtain ⟨found, hattempt, h⟩ := Except.bind_eq_ok_iff.mp h
      cases found with
      | none => exact ih h
      | some found =>
          cases h
          exact attemptSubnet_spec hattempt

/--
A subnet that is found has the wanted length and lies in a pool, and shares no address
with the network of any interface.
-/
theorem findAvailableSubnet_spec
    {interfaces : Except ErrorChain (List NetworkInterface)} {draws : Nat → Draw}
    (h : findAvailableSubnet interfaces draws prefixLen = .ok (firstHost, secondHost, subnet)) :
    ∃ shown used,
      interfaces = .ok shown ∧
      usedSubnets (shown.flatMap NetworkInterface.addr) = .ok used ∧
      subnet.Available used prefixLen ∧
      nthHost subnet 0 = some firstHost ∧
      nthHost subnet 1 = some secondHost := by
  obtain ⟨shown, hshown, h⟩ := Except.bind_eq_ok_iff.mp h
  obtain ⟨used, hused, h⟩ := Except.bind_eq_ok_iff.mp h
  exact ⟨shown, used, hshown, hused, searchSubnet_spec h⟩

end Finding

end Softnet
