import Softnet.Manager.Deployment
import Softnet.Proxy.PolicyUpdates
import Softnet.Proxy.RulesPrecedence
import Softnet.SubnetFinder

/-!
# The addresses of a batch

Three places count the usable addresses of a subnet: `initialize` gives the VM at an index
the address behind it, `Network::new` takes the first one for the gateway, and `Proxy::new`
makes the reservations of the other VMs its peers.  They agree: the gateway and the VMs of
a batch are the usable addresses in order (`Plan.Laid`), and every proxy that anybody holds
knows the same gateway and exactly the other VMs (`Batch.Addressed`).
-/

namespace Softnet

open Transition

section Plans

variable {texts : Texts}
variable {surroundings : Surroundings}
variable {subnet : Ipv4Net}
variable {plan : Plan}

/-! ## The plan of a batch -/

/-- The VM at each index has the usable address behind that index. -/
structure Plan.Laid (plan : Plan) : Prop where
  nonempty : 1 ≤ plan.vms.length
  length_le : plan.vms.length ≤ maxVms
  vmIp_eq :
    ∀ (index : Nat) (vm : ConfiguredVm),
      plan.vms[index]? = some vm → nthHost plan.subnet (index + 1) = some vm.vmIp

theorem configureVms_laid
    {start : Nat} {configs : List VmConfig} {vms : List ConfiguredVm}
    (h : configureVms surroundings subnet start configs = .ok vms) :
    vms.length = configs.length ∧
      ∀ (index : Nat) (vm : ConfiguredVm),
        vms[index]? = some vm → nthHost subnet (start + index + 1) = some vm.vmIp := by
  induction configs generalizing start vms with
  | nil =>
      cases h
      simp
  | cons config configs ih =>
      obtain ⟨_, _, h⟩ := Except.bind_eq_ok_iff.mp h
      obtain ⟨vmIp, hvmIp, h⟩ := Except.bind_eq_ok_iff.mp h
      obtain ⟨rest, hrest, h⟩ := Except.bind_eq_ok_iff.mp h
      cases h
      obtain ⟨hlength, hnth⟩ := ih hrest
      refine ⟨by simp [hlength], fun index vm hvm => ?_⟩
      cases index with
      | zero =>
          cases hvm
          exact Except.elim_eq_ok_iff.mp hvmIp
      | succ index =>
          have hnext := hnth index vm hvm
          rwa [show start + 1 + index + 1 = start + (index + 1) + 1 by omega] at hnext

theorem Plan.Prepared.laid
    (h : plan.Prepared texts) :
    plan.Laid := by
  obtain ⟨manager, surroundings, netType, vms, h⟩ := h
  obtain ⟨_, hpos, hle, _, hvms⟩ := Manager.eq_of_prepare h
  obtain ⟨hlength, hnth⟩ := configureVms_laid hvms
  refine ⟨by omega, by omega, fun index vm hvm => ?_⟩
  simpa using hnth index vm hvm

/-- The gateway and the VMs of a batch, in the order of their addresses. -/
def Plan.addresses (plan : Plan) (gateway : Ipv4Address) : List Ipv4Address :=
  gateway :: plan.vms.map ConfiguredVm.vmIp

section Laid

variable {gateway a : Ipv4Address}

theorem Plan.Laid.nthHost_of_addresses
    (h : plan.Laid)
    (hgateway : nthHost plan.subnet 0 = some gateway)
    {index : Nat}
    (ha : (plan.addresses gateway)[index]? = some a) :
    nthHost plan.subnet index = some a := by
  cases index with
  | zero =>
      cases ha
      exact hgateway
  | succ index =>
      rw [Plan.addresses, List.getElem?_cons_succ, List.getElem?_map] at ha
      obtain ⟨vm, hvm, rfl⟩ := Option.map_eq_some_iff.mp ha
      exact h.vmIp_eq index vm hvm

/-- The gateway and the VMs have different addresses. -/
theorem Plan.Laid.nodup
    (h : plan.Laid)
    (hgateway : nthHost plan.subnet 0 = some gateway) :
    (plan.addresses gateway).Nodup := by
  rw [List.nodup_iff_getElem?_ne_getElem?]
  intro i j hij hj heq
  have hjth := List.getElem?_eq_getElem hj
  have hlow := h.nthHost_of_addresses hgateway (heq.trans hjth)
  have hhigh := h.nthHost_of_addresses hgateway hjth
  have := nthHost_injective hlow hhigh
  omega

theorem Plan.Laid.usable
    (h : plan.Laid)
    (hgateway : nthHost plan.subnet 0 = some gateway)
    (hlen : plan.subnet.prefixLen < 31)
    (ha : a ∈ plan.addresses gateway) :
    plan.subnet.contains a = true ∧
      a ≠ plan.subnet.network ∧
      a ≠ plan.subnet.broadcast := by
  obtain ⟨index, hindex⟩ := List.mem_iff_getElem?.mp ha
  obtain ⟨hcontains, hends⟩ := nthHost_inside (h.nthHost_of_addresses hgateway hindex)
  exact ⟨hcontains, hends hlen⟩

end Laid

end Plans

section Batches

variable {crates : Crates}
variable {texts : Texts}
variable {b index : Nat}
variable {batch batch' : Batch}
variable {milestone : Milestone}
variable {vm : ConfiguredVm}
variable {s : Clocked}

/-! ## The proxies of a batch -/

/-- The network that belongs to the plan. -/
structure Plan.Networks (plan : Plan) (network : Network) : Prop where
  gatewayIp_eq : nthHost plan.subnet 0 = some network.gatewayIp
  vmIps_eq : network.vmIps = plan.vms.map ConfiguredVm.vmIp

theorem Network.networks_of_new
    {vmnet : Vmnet} {plan : Plan} {network : Network}
    (h :
      Network.new crates texts vmnet plan.netType plan.subnet plan.reservations
        plan.portForwardings = .ok network) :
    plan.Networks network := by
  obtain ⟨_, _, h⟩ := Except.bind_eq_ok_iff.mp h
  obtain ⟨gatewayIp, hgatewayIp, h⟩ := Except.bind_eq_ok_iff.mp h
  obtain ⟨_, _, h⟩ := Except.bind_eq_ok_iff.mp h
  obtain ⟨_, _, h⟩ := Except.bind_eq_ok_iff.mp h
  obtain ⟨_, _, h⟩ := Except.bind_eq_ok_iff.mp h
  obtain ⟨_, _, h⟩ := Except.bind_eq_ok_iff.mp h
  cases h
  exact ⟨Except.elim_eq_ok_iff.mp hgatewayIp, by simp [Plan.reservations]⟩

/-- A proxy that knows the gateway of the plan, and its other VMs as its peers. -/
structure Proxy.Placed (proxy : Proxy) (plan : Plan) (vm : ConfiguredVm) : Prop where
  gatewayIp_eq : nthHost plan.subnet 0 = some proxy.host.gatewayIp
  peerIps_eq : proxy.peerIps = (plan.vms.map ConfiguredVm.vmIp).filter (fun ip => ip ≠ vm.vmIp)

theorem Proxy.Placed.handle
    {proxy : Proxy} {plan : Plan}
    (h : proxy.Placed plan vm)
    (event : Event) :
    (proxy.handle crates event).Placed plan vm := by
  obtain ⟨hhost, hpeers⟩ := Proxy.handle_frame crates proxy event
  exact ⟨hhost ▸ h.gatewayIp_eq, hpeers ▸ h.peerIps_eq⟩

theorem Plan.Networks.placed
    {plan : Plan} {network : Network} {order : HashOrder} {interface : Except String Nat}
    {now : Instant} {proxy : Proxy}
    (h : plan.Networks network)
    (hnew : vm.newProxy crates plan network order interface now = .ok proxy) :
    proxy.Placed plan vm := by
  unfold ConfiguredVm.newProxy Proxy.new Host.new at hnew
  cases interface with
  | error message => cases hnew
  | ok maxPacketSize =>
      cases hnew
      exact ⟨h.gatewayIp_eq, by rw [← h.vmIps_eq]⟩

/-- What holds for the addresses of a batch at every moment. -/
structure Batch.Addressed (batch : Batch) : Prop where
  laid : batch.plan.Laid
  networks : ∀ network proxies,
    batch.worker = .building network proxies → batch.plan.Networks network
  placed : ∀ index vm s,
    batch.plan.vms[index]? = some vm → batch.Carries index s → s.proxy.Placed batch.plan vm

theorem Batch.addressed_new
    {plan : Plan}
    (h : plan.Prepared texts) :
    (Batch.new plan).Addressed := by
  refine ⟨h.laid, nofun, ?_⟩
  rintro index vm s _ (habsurd | ⟨task, habsurd, _⟩)
  · cases habsurd
  · cases habsurd

/-- The worker builds on the network that it created. -/
theorem WorkerStep.networks
    (h : WorkerStep crates texts batch milestone batch')
    (hbatch : batch.Addressed)
    (network : Network)
    (proxies : List Clocked)
    (hbuilding : batch'.worker = .building network proxies) :
    batch.plan.Networks network := by
  cases h with
  | networkCreated phase created =>
      cases hbuilding
      exact Network.networks_of_new created
  | proxyBuilt phase next built =>
      cases hbuilding
      exact hbatch.networks _ _ phase
  | networkFailed | proxyFailed | allBuilt | handedOver | handoverFailed | completed |
      panicked =>
      cases hbuilding

theorem BatchStep.networks
    (h : BatchStep crates texts b batch milestone batch')
    (hbatch : batch.Addressed)
    (network : Network)
    (proxies : List Clocked)
    (hbuilding : batch'.worker = .building network proxies) :
    batch.plan.Networks network := by
  cases h with
  | call step =>
      rcases step.frame.2 with hsame | hspawned
      · exact hbatch.networks network proxies (hsame ▸ hbuilding)
      · rw [hspawned] at hbuilding
        cases hbuilding
  | worker step => exact step.networks hbatch network proxies hbuilding
  | task => exact hbatch.networks network proxies hbuilding

theorem BatchStep.addressed
    (h : BatchStep crates texts b batch milestone batch')
    (hbatch : batch.Addressed) :
    batch'.Addressed := by
  refine ⟨h.plan_eq ▸ hbatch.laid, ?_, ?_⟩
  · rw [h.plan_eq]
    exact h.networks hbatch
  · intro index vm s hvm hcarries
    rw [h.plan_eq] at hvm ⊢
    rcases h.carries_cases hcarries with
      hsame | ⟨builder, hbuilder, network, _, _, _, hnetwork, hnew⟩ |
      ⟨before, event, hbefore, handled⟩
    · exact hbatch.placed index vm s hvm hsame
    · obtain rfl := Option.some.inj (hbuilder.symm.trans hvm)
      exact (hbatch.networks _ _ hnetwork).placed hnew
    · rw [handled.proxy_eq]
      exact (hbatch.placed index vm before hvm hbefore).handle event

theorem WorldRun.addressed
    {w : World} {history : List (Step World Happening)}
    (run : WorldRun crates texts history w)
    (hget : w.batches[b]? = some batch) :
    batch.Addressed := by
  refine run.invariant
    (I := fun w => ∀ (b : Nat) (batch : Batch), w.batches[b]? = some batch → batch.Addressed)
    (by simp [World.new]) ?_ b batch hget
  exact fun _ _ _ hw h =>
    h.forall_batches (fun _ => Batch.addressed_new) (fun _ _ _ _ step => step.addressed) hw

end Batches

section Isolation

/-! ## The address plan -/

variable {crates : Crates}
variable {texts : Texts}
variable {interfaces : Except ErrorChain (List NetworkInterface)}
variable {draws : Nat → Draw}
variable {firstHost secondHost a : Ipv4Address}
variable {subnet : Ipv4Net}

/-- The length of the subnet that a batch shares. -/
def batchPrefixLen : UInt8 := UInt8.ofNat subnetPrefixLen

theorem exists_nthHost_of_found
    (h :
      findAvailableSubnet interfaces draws batchPrefixLen = .ok (firstHost, secondHost, subnet))
    {k : Nat}
    (hk : k ≤ maxVms) :
    ∃ a, nthHost subnet k = some a := by
  obtain ⟨_, _, _, _, havailable, _, _⟩ := findAvailableSubnet_spec h
  have hlen : subnet.prefixLen = 29 := havailable.prefixLen_eq
  refine exists_nthHost (by omega) ?_
  rw [Cidr.Net.size, hlen]
  simp only [maxVms] at hk
  omega

/-- The subnet is one that a batch can be given. -/
def Ipv4Net.IsFound (subnet : Ipv4Net) : Prop :=
  ∃ interfaces draws firstHost secondHost,
    findAvailableSubnet interfaces draws batchPrefixLen = .ok (firstHost, secondHost, subnet)

/-- The gateway of a batch has an address. -/
theorem Ipv4Net.IsFound.gateway_ne_zero
    (h : subnet.IsFound)
    (hgateway : nthHost subnet 0 = some a) :
    a ≠ 0 := by
  obtain ⟨_, _, _, _, h⟩ := h
  obtain ⟨_, _, _, _, havailable, _, _⟩ := findAvailableSubnet_spec h
  have hlen : subnet.prefixLen = 29 := havailable.prefixLen_eq
  have hfirst := (nthHost_eq_some_iff.mp hgateway).2
  rw [Softnet.firstHost, if_pos (by omega)] at hfirst
  rintro rfl
  simp at hfirst

/-- `@peers` covers the addresses in the list of peers. -/
theorem Target.mem_nets_peers
    {gateway : Ipv4Address} {peerIps : List Ipv4Address} :
    (∃ net ∈ Target.nets gateway peerIps .peers, net.contains a = true) ↔ a ∈ peerIps := by
  simp [Target.nets, Cidr.Net.contains_ofAddress]

/-- What is promised about a subnet that was found, by the interfaces of the host. -/
structure Ipv4Net.Found
    (interfaces : Except ErrorChain (List NetworkInterface))
    (prefixLen : UInt8)
    (firstHost secondHost : Ipv4Address)
    (subnet : Ipv4Net) : Prop where
  truncated : subnet.trunc = subnet
  prefixLen_eq : subnet.prefixLen = prefixLen.toNat
  private_pool : ∃ pool ∈ privateSubnets, ∀ a, subnet.contains a = true → pool.contains a = true
  unused :
    ∃ shown, interfaces = .ok shown ∧
      ∀ interface ∈ shown, ∀ ip mask, .v4 ip (some mask) ∈ interface.addr →
        ∀ a, a &&& mask = ip &&& mask → subnet.contains a = false
  first_host : nthHost subnet 0 = some firstHost
  second_host : nthHost subnet 1 = some secondHost
  hosts_ne : firstHost ≠ secondHost

theorem findAvailableSubnet_found
    {prefixLen : UInt8}
    (h : findAvailableSubnet interfaces draws prefixLen = .ok (firstHost, secondHost, subnet)) :
    subnet.Found interfaces prefixLen firstHost secondHost := by
  obtain ⟨shown, used, hshown, hused, havailable, hfirst, hsecond⟩ := findAvailableSubnet_spec h
  refine ⟨havailable.truncated, havailable.prefixLen_eq, havailable.private_pool,
    ⟨shown, hshown, ?_⟩, hfirst, hsecond, ?_⟩
  · intro interface hinterface ip mask haddr a ha
    obtain ⟨usedSubnet, hmem, hcontains⟩ :=
      exists_usedSubnet hused (List.mem_flatMap.mpr ⟨interface, hinterface, haddr⟩)
    have hapart := havailable.unused usedSubnet hmem a
    rw [hcontains] at hapart
    exact Bool.eq_false_iff.mpr fun hin => hapart ⟨hin, ha⟩
  · rintro rfl
    cases nthHost_injective hfirst hsecond

/-- The gateway, the reservations and the proxies of a batch fit together. -/
structure Batch.Isolated (batch : Batch) (gateway : Ipv4Address) : Prop where
  gateway_eq : nthHost batch.plan.subnet 0 = some gateway
  distinct : (gateway :: batch.plan.vms.map ConfiguredVm.vmIp).Nodup
  usable :
    ∀ a ∈ gateway :: batch.plan.vms.map ConfiguredVm.vmIp,
      batch.plan.subnet.contains a = true ∧
      a ≠ batch.plan.subnet.network ∧
      a ≠ batch.plan.subnet.broadcast
  network :
    ∀ network proxies, batch.worker = .building network proxies →
      network.gatewayIp = gateway ∧
      network.vmIps = batch.plan.vms.map ConfiguredVm.vmIp
  proxies :
    ∀ index vm s, batch.plan.vms[index]? = some vm → batch.Carries index s →
      s.proxy.host.vmIp = vm.vmIp ∧
      s.proxy.host.gatewayIp = gateway ∧
      s.proxy.peerIps = (batch.plan.vms.eraseIdx index).map ConfiguredVm.vmIp ∧
      ∀ a,
        (∃ net ∈ Target.nets s.proxy.host.gatewayIp s.proxy.peerIps .peers,
          net.contains a = true) →
        a ≠ vm.vmIp ∧ a ≠ gateway ∧ a ∈ batch.plan.vms.map ConfiguredVm.vmIp

/-- All addresses but that of the VM at an index are the addresses of the other VMs. -/
theorem filter_vmIp_eq
    {vms : List ConfiguredVm} {index : Nat} {vm : ConfiguredVm}
    (hnodup : (vms.map ConfiguredVm.vmIp).Nodup)
    (hvm : vms[index]? = some vm) :
    (vms.map ConfiguredVm.vmIp).filter (fun ip => ip ≠ vm.vmIp) =
      (vms.eraseIdx index).map ConfiguredVm.vmIp := by
  obtain ⟨hlt, rfl⟩ := List.getElem?_eq_some_iff.mp hvm
  have hindex : index < (vms.map ConfiguredVm.vmIp).length := by simpa using hlt
  have herase := hnodup.erase_getElem index hindex
  rw [hnodup.erase_eq_filter, List.getElem_map, List.eraseIdx_map] at herase
  rw [← herase]
  exact List.filter_congr fun ip _ => Bool.eq_iff_iff.mpr (by simp)

theorem Batch.Addressed.isolated
    {batch : Batch} {gateway : Ipv4Address}
    (h : batch.Addressed)
    (hgateway : nthHost batch.plan.subnet 0 = some gateway)
    (hlen : batch.plan.subnet.prefixLen < 31)
    (hvmIp : ∀ index vm s, batch.plan.vms[index]? = some vm → batch.Carries index s →
      s.proxy.host.vmIp = vm.vmIp) :
    batch.Isolated gateway := by
  have hnodup := h.laid.nodup hgateway
  obtain ⟨hfresh, hvms⟩ := List.nodup_cons.mp hnodup
  refine ⟨hgateway, hnodup, fun a => h.laid.usable hgateway hlen, ?_, ?_⟩
  · intro network proxies hbuilding
    have hnetwork := h.networks network proxies hbuilding
    exact ⟨Option.some.inj (hnetwork.gatewayIp_eq.symm.trans hgateway), hnetwork.vmIps_eq⟩
  · intro index vm s hvm hcarries
    have hplaced := h.placed index vm s hvm hcarries
    have hpeers := hplaced.peerIps_eq
    refine ⟨hvmIp index vm s hvm hcarries,
      Option.some.inj (hplaced.gatewayIp_eq.symm.trans hgateway), ?_, fun a ha => ?_⟩
    · rw [hpeers, filter_vmIp_eq hvms hvm]
    · rw [Target.mem_nets_peers, hpeers, List.mem_filter] at ha
      obtain ⟨hmem, hother⟩ := ha
      exact ⟨by simpa using hother, fun heq => hfresh (heq ▸ hmem), hmem⟩

/--
The address plan is disjoint and isolated.  A subnet that is found lies in a private pool
and shares no address with the host.  On such a subnet the loop over the VMs never runs out
of addresses; and whatever a manager went through, the gateway and the reservations of a
batch are distinct usable addresses, and the peers of every proxy are the other VMs.
-/
theorem address_plan_isolated :
    (∀ interfaces draws prefixLen firstHost secondHost subnet,
      findAvailableSubnet interfaces draws prefixLen = .ok (firstHost, secondHost, subnet) →
      subnet.Found interfaces prefixLen firstHost secondHost) ∧
    (∀ interfaces draws firstHost secondHost subnet surroundings vms,
      findAvailableSubnet interfaces draws batchPrefixLen = .ok (firstHost, secondHost, subnet) →
      vms.length ≤ maxVms →
      (∀ index < vms.length, ∃ vmIp, nthHost subnet (index + 1) = some vmIp) ∧
      ∀ error, configureVms surroundings subnet 0 vms = .error error →
        ∃ index cause,
          index < vms.length ∧
          surroundings.vmNew index = .error cause ∧
          error = .rejected
            ("failed to initialize proxy" ::
              ("failed to prepare VM at index " ++ toString index) :: cause)) ∧
    (∀ history (w : World) (b : Nat) (batch : Batch) interfaces draws firstHost secondHost,
      WorldRun crates texts history w →
      w.batches[b]? = some batch →
      findAvailableSubnet interfaces draws batchPrefixLen =
        .ok (firstHost, secondHost, batch.plan.subnet) →
      batch.Isolated firstHost) := by
  refine ⟨fun _ _ _ _ _ _ => findAvailableSubnet_found, ?_, ?_⟩
  · intro interfaces draws firstHost secondHost subnet surroundings vms hfound hsize
    have hhosts : ∀ index < vms.length, ∃ vmIp, nthHost subnet (index + 1) = some vmIp :=
      fun index hindex => exists_nthHost_of_found hfound (by omega)
    refine ⟨hhosts, fun error herror => ?_⟩
    obtain ⟨index, hlt, ⟨cause, hcause, heq⟩ | ⟨hnone, _⟩⟩ := configureVms_error_cases herror
    · exact ⟨index, cause, by simpa using hlt, hcause, heq⟩
    · obtain ⟨vmIp, hvmIp⟩ := hhosts index (by simpa using hlt)
      rw [hnone] at hvmIp
      cases hvmIp
  · intro history w b batch interfaces draws firstHost secondHost run hget hfound
    have hsubnet := findAvailableSubnet_found hfound
    have hlen : batch.plan.subnet.prefixLen < 31 := by
      rw [hsubnet.prefixLen_eq]
      decide
    refine (run.addressed hget).isolated hsubnet.first_host hlen fun index vm s hvm hcarries => ?_
    exact (run.deployed hget index vm s hvm hcarries).vmIp

/-- Every attempt draws the first address of the first pool. -/
def firstDraw : Draw where
  privateSubnet := privateSubnets.head (List.cons_ne_nil _ _)
  address := 0x0a000000#32
  privateSubnet_mem := List.head_mem _
  network_le := by decide
  le_broadcast := by decide

/-- The host is on `192.168.1.0/24`. -/
def homeInterfaces : List NetworkInterface :=
  [⟨[.v6, .v4 0xc0a80105#32 (some 0xffffff00#32)]⟩]

/-- The first attempt draws an address of that network. -/
def homeDraw : Draw where
  privateSubnet := privateSubnets.get ⟨2, by decide⟩
  address := 0xc0a80142#32
  privateSubnet_mem := List.get_mem _ _
  network_le := by decide
  le_broadcast := by decide

def homeDraws : Nat → Draw
  | 0 => homeDraw
  | _ + 1 => firstDraw

/-- Two VMs with their proxies are set apart from each other, from their gateway and the host. -/
theorem address_plan_isolated_pair :
    findAvailableSubnet (.ok homeInterfaces) homeDraws batchPrefixLen =
        .ok (0x0a000001, 0x0a000002, pairPlan.subnet) ∧
      ∃ history w batch,
        WorldRun plainCrates plainTexts history w ∧
        w.batches[0]? = some batch ∧
        batch.plan = pairPlan ∧
        batch.worker = .building ⟨0x0a000001, [0x0a000002, 0x0a000003]⟩
          (pairPlan.vms.map fun vm => ⟨pairProxy plainCrates vm, 0⟩) ∧
        batch.Isolated 0x0a000001 := by
  have hfound : findAvailableSubnet (.ok homeInterfaces) homeDraws batchPrefixLen =
      .ok (0x0a000001, 0x0a000002, pairPlan.subnet) := rfl
  have called : WorldRun plainCrates plainTexts _ _ :=
    Run.nil.snoc (.called rfl (pairPlan_prepared _))
  have registered := called.snoc (.call rfl rfl (.registered rfl rfl))
  have registered' := registered.snoc (.call rfl rfl (.registered rfl rfl))
  have spawned := registered'.snoc (.call rfl rfl (.workerSpawned rfl rfl))
  have created := spawned.snoc (.worker (b := 0) rfl (.networkCreated rfl (pairPlan_network _ _)))
  have built := created.snoc
    (.worker (b := 0) rfl (.proxyBuilt rfl rfl (pairPlan_proxy _ _ rfl)))
  have built' := built.snoc
    (.worker (b := 0) rfl (.proxyBuilt rfl rfl (pairPlan_proxy _ _ rfl)))
  exact ⟨hfound, _, _, _, built', rfl, rfl, rfl,
    address_plan_isolated.2.2 _ _ 0 _ _ _ _ _ built' rfl hfound⟩

end Isolation

end Softnet
