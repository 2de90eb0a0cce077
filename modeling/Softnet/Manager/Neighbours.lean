import Softnet.Manager.AddressPlan
import Softnet.Proxy.Wire

/-!
# The VMs of a batch as neighbours

What one VM of a batch can do to the others.  `Manager::initialize` gives every VM of a batch a
MAC address and an IPv4 address of its own, and the loop of a VM puts only frames of that VM
on the shared network; so no VM speaks for another one, and a VM reaches another one by a rule
of its own or in reply.
-/

namespace Softnet

open Transition

/-! ## The MAC addresses of a batch -/

section MacAddresses

variable {crates : Crates}
variable {texts : Texts}

/-- The VMs have MAC addresses of their own, none of them that of the DHCP server. -/
structure MacsApart (vms : List VmConfig) : Prop where
  distinct : (vms.map VmConfig.vmMacAddress).Nodup
  unreserved : dhcpServerMac ∉ vms.map VmConfig.vmMacAddress

theorem checkMacAddresses_apart
    {seen : List EthernetAddress} {vms : List VmConfig}
    (h : checkMacAddresses texts seen vms = .ok ()) :
    MacsApart vms ∧ ∀ mac ∈ vms.map VmConfig.vmMacAddress, mac ∉ seen := by
  induction vms generalizing seen with
  | nil => exact ⟨⟨List.nodup_nil, by simp⟩, by simp⟩
  | cons vm vms ih =>
      unfold checkMacAddresses at h
      split at h
      · cases h
      · next hserver =>
          split at h
          · cases h
          · next hnew =>
              obtain ⟨hapart, hunseen⟩ := ih h
              refine ⟨⟨?_, ?_⟩, ?_⟩
              · exact List.nodup_cons.mpr
                  ⟨fun hmem => hunseen _ hmem List.mem_cons_self, hapart.distinct⟩
              · rw [List.map_cons, List.mem_cons, not_or]
                exact ⟨fun heq => hserver heq.symm, hapart.unreserved⟩
              · intro mac hmac
                rcases List.mem_cons.mp hmac with rfl | hmac
                · exact hnew
                · exact fun hmem => hunseen mac hmac (List.mem_cons_of_mem _ hmem)

theorem Plan.Prepared.macsApart
    {plan : Plan}
    (h : plan.Prepared texts) :
    MacsApart (plan.vms.map ConfiguredVm.config) := by
  obtain ⟨manager, surroundings, netType, vms, h⟩ := h
  obtain ⟨_, _, _, _, hvms⟩ := Manager.eq_of_prepare h
  rw [configureVms_configs hvms]
  rw [Manager.prepare_eq] at h
  split at h
  · cases h
  · split at h
    · cases h
    · obtain ⟨_, hmacs, _⟩ := Except.bind_eq_ok_iff.mp h
      exact (checkMacAddresses_apart hmacs).1

/-- Whatever a manager went through, the VMs of a batch have MAC addresses of their own. -/
theorem WorldRun.macsApart
    {history : List (Step World Happening)} {w : World} {b : Nat} {batch : Batch}
    (run : WorldRun crates texts history w)
    (hget : w.batches[b]? = some batch) :
    MacsApart (batch.plan.vms.map ConfiguredVm.config) := by
  refine run.invariant
    (I := fun w => ∀ (b : Nat) (batch : Batch), w.batches[b]? = some batch →
      MacsApart (batch.plan.vms.map ConfiguredVm.config))
    (by simp [World.new]) ?_ b batch hget
  refine fun _ _ _ hw h => h.forall_batches (fun plan prepared => prepared.macsApart) ?_ hw
  intro _ _ _ _ step hbatch
  rw [step.plan_eq]
  exact hbatch

end MacAddresses

/-! ## Two VMs of a batch -/

section Neighbours

variable {crates : Crates}
variable {texts : Texts}
variable {proxy : Proxy}
variable {vm peer : ConfiguredVm}
variable {index other : Nat}

/-- A proxy of one VM, and another VM beside it. -/
structure Neighbours (proxy : Proxy) (vm peer : ConfiguredVm) : Prop where
  vmMacAddress : proxy.vmMacAddress = vm.config.vmMacAddress
  vmIp : proxy.host.vmIp = vm.vmIp
  macs : vm.config.vmMacAddress ≠ peer.config.vmMacAddress
  unreserved : vm.config.vmMacAddress ≠ dhcpServerMac
  ips : vm.vmIp ≠ peer.vmIp
  gateway : peer.vmIp ≠ proxy.host.gatewayIp ∧ vm.vmIp ≠ proxy.host.gatewayIp
  specified : peer.vmIp ≠ 0

/-- The members of a list differ in what no two of them share. -/
theorem ne_of_nodup_map
    {α β : Type} {f : α → β} {l : List α} {a b : α}
    (h : (l.map f).Nodup)
    (ha : l[index]? = some a)
    (hb : l[other]? = some b)
    (hne : index ≠ other) :
    f a ≠ f b := by
  intro heq
  have hindex : (l.map f)[index]? = some (f a) := by simp [ha]
  have hother : (l.map f)[other]? = some (f a) := by simp [hb, heq]
  have hlt := (List.getElem?_eq_some_iff.mp hindex).1
  exact hne ((List.getElem?_inj hlt h).mp (hindex.trans hother.symm))

/-- The gateway of a proxy is the one of its batch. -/
theorem WorldRun.gatewayIp_eq
    {history : List (Step World Happening)} {w : World} {b : Nat} {batch : Batch}
    {start : Instant}
    (run : WorldRun crates texts history w)
    (hget : w.batches[b]? = some batch)
    (built : batch.Builds crates vm ⟨proxy, start⟩) :
    nthHost batch.plan.subnet 0 = some proxy.host.gatewayIp := by
  obtain ⟨network, proxies, order, interface, hbuilding, hnew⟩ := built
  exact (((run.addressed hget).networks network proxies hbuilding).placed hnew).gatewayIp_eq

theorem WorldRun.neighbours
    {history : List (Step World Happening)} {w : World} {b : Nat} {batch : Batch}
    {start : Instant}
    (run : WorldRun crates texts history w)
    (hget : w.batches[b]? = some batch)
    (hvm : batch.plan.vms[index]? = some vm)
    (hpeer : batch.plan.vms[other]? = some peer)
    (hne : index ≠ other)
    (built : batch.Builds crates vm ⟨proxy, start⟩) :
    Neighbours proxy vm peer := by
  have haddressed := run.addressed hget
  obtain ⟨hgateway, hips⟩ :=
    List.nodup_cons.mp (haddressed.laid.nodup (run.gatewayIp_eq hget built))
  obtain ⟨network, proxies, order, interface, hbuilding, hnew⟩ := built
  obtain ⟨hmac, hip⟩ := Proxy.identity_of_new hnew
  have hmacs := run.macsApart hget
  have hvm' : (batch.plan.vms.map ConfiguredVm.config)[index]? = some vm.config := by simp [hvm]
  have hpeer' : (batch.plan.vms.map ConfiguredVm.config)[other]? = some peer.config := by
    simp [hpeer]
  have hapart : ∀ {vm : ConfiguredVm} {index : Nat}, batch.plan.vms[index]? = some vm →
      vm.vmIp ≠ proxy.host.gatewayIp := by
    intro vm index hvm heq
    apply hgateway
    rw [← heq]
    exact List.mem_map_of_mem (List.mem_of_getElem? hvm)
  refine ⟨hmac, hip, ne_of_nodup_map hmacs.distinct hvm' hpeer' hne, ?_,
    ne_of_nodup_map hips hvm hpeer hne, ⟨hapart hpeer, hapart hvm⟩, ?_⟩
  · intro hreserved
    apply hmacs.unreserved
    rw [← hreserved]
    exact List.mem_map_of_mem (List.mem_of_getElem? hvm')
  · intro hzero
    have hhost := (nthHost_eq_some_iff.mp (haddressed.laid.vmIp_eq other peer hpeer)).2
    rw [hzero] at hhost
    simp at hhost

/--
The VMs of a batch keep to themselves.  Whatever a manager went through, let a proxy be built
for one VM of a batch and run its loop.  No frame that the loop writes to the host has the MAC
address of another VM of the batch or of the DHCP server; on a subnet that was found for the
batch, its ARP packets claim and its IPv4 packets carry no address of another VM or of the
gateway; and an IPv4 packet for another VM's address, which is no global one, is allowed by a
rule of that moment or answers a packet that the loop wrote to its VM before.
-/
theorem vms_keep_to_themselves
    (crates : Crates)
    (texts : Texts)
    (dhcpCrates : DhcpCrates)
    (past : List (Step World Happening))
    (w : World)
    (run : WorldRun crates texts past w)
    (b : Nat)
    (batch : Batch)
    (hget : w.batches[b]? = some batch)
    (index other : Nat)
    (vm peer : ConfiguredVm)
    (hvm : batch.plan.vms[index]? = some vm)
    (hpeer : batch.plan.vms[other]? = some peer)
    (hne : index ≠ other)
    (proxy : Proxy)
    (start : Instant)
    (built : batch.Builds crates vm ⟨proxy, start⟩)
    (subnetMask : Ipv4Address)
    (searchDomains : List Name)
    (before after : List (Step Serving Turn))
    (t : Step Serving Turn)
    (s : Serving)
    (serving :
      ServingRun crates dhcpCrates proxy subnetMask searchDomains start (before ++ t :: after) s)
    (frame : EthernetFrame)
    (result : Except ErrorChain Unit)
    (written : .toHost frame result ∈ t.label.effects) :
    ∃ now answers, t.label.cause = .vmFrame (some frame) now answers ∧
      frame.srcAddr ≠ peer.config.vmMacAddress ∧ frame.srcAddr ≠ dhcpServerMac ∧
      (frame.ethertype = .arp ∧
          (∃ arpPkt operation claimedMac claimedIp,
            frame.arp = some arpPkt ∧
            arpPkt.repr = some (.ethernetIpv4 operation claimedMac claimedIp) ∧
            claimedMac ≠ peer.config.vmMacAddress ∧ claimedIp ≠ peer.vmIp ∧
            (batch.plan.subnet.IsFound → claimedIp ≠ proxy.host.gatewayIp) ∧
            (claimedIp = proxy.host.gatewayIp → claimedIp = 0)) ∨
        frame.ethertype = .ipv4 ∧
          frame.ipv4.srcAddr ≠ peer.vmIp ∧ frame.ipv4.srcAddr ≠ proxy.host.gatewayIp ∧
          (frame.ipv4.dstAddr = peer.vmIp → crates.isGlobal peer.vmIp = false →
            t.pre.endpoint.proxy.rules.packetAction frame.ipv4 .outbound = some .allow ∨
              AnswersWritten before .fromHost frame.ipv4 now)) := by
  have hneighbours := run.neighbours hget hvm hpeer hne built
  obtain ⟨now, answers, hcause, hsource, hkind⟩ := serving.egress_source rfl written
  rw [hneighbours.vmMacAddress] at hsource hkind
  rw [hneighbours.vmIp] at hkind
  refine ⟨now, answers, hcause, hsource ▸ hneighbours.macs, hsource ▸ hneighbours.unreserved, ?_⟩
  rcases hkind with ⟨harp, arpPkt, operation, claimedIp, hpacket, hrepr, hown⟩ | hipv4
  · refine .inl ⟨harp, arpPkt, operation, _, claimedIp, hpacket, hrepr, hneighbours.macs, ?_⟩
    rcases hown with rfl | rfl
    · exact ⟨hneighbours.ips, fun _ => hneighbours.gateway.2,
        fun heq => absurd heq hneighbours.gateway.2⟩
    · exact ⟨hneighbours.specified.symm,
        fun found => (found.gateway_ne_zero (run.gatewayIp_eq hget built)).symm, fun _ => rfl⟩
  · obtain ⟨hown, _, hpolicy⟩ := serving.egress_ipv4 rfl written hcause hipv4
    rw [hneighbours.vmIp] at hown
    refine .inr ⟨hipv4, hown ▸ hneighbours.ips, hown ▸ hneighbours.gateway.2, ?_⟩
    intro hdestination hprivate
    rcases hpolicy with hallow | ⟨_, hglobal | hgateway⟩ | hanswers
    · exact .inl hallow
    · rw [hdestination, hprivate] at hglobal
      cases hglobal
    · exact absurd (hdestination.symm.trans hgateway) hneighbours.gateway.1
    · exact .inr hanswers

/-- No address counts as global. -/
def privateCrates : Crates :=
  ⟨fun _ => "", fun _ => false⟩

/-- The proxy of the first of the two VMs. -/
def askingProxy : Proxy :=
  pairProxy privateCrates
    ⟨{ plainVm with allow := [.stateful .outbound .peers .unrestricted] }, 0x0a000002, 0⟩

/-- The first VM sends the other one a datagram. -/
def peerAsked : Step Serving Turn :=
  let frame := frameOfVm (udpPacket 0x0a000002 1234 0x0a000003 40000)
  let (s', effects) := askingProxy.enterLoop.afterVmFrame privateCrates discoveringCrates
    (some frame) 5 workingSockets (.bursting burstRemainder)
  ⟨askingProxy.enterLoop, ⟨.vmFrame (some frame) 5 workingSockets, effects⟩, s'⟩

/-- That datagram is allowed by the rule. -/
theorem vms_keep_to_themselves_pair :
    ∃ frame, .toHost frame (.ok ()) ∈ peerAsked.label.effects ∧
      frame.srcAddr ≠ 0x020000000003 ∧
      (askingProxy.rules.packetAction frame.ipv4 .outbound = some .allow ∨
        AnswersWritten [] .fromHost frame.ipv4 5) := by
  have called : WorldRun privateCrates plainTexts _ _ :=
    Run.nil.snoc (.called rfl (pairPlan_prepared _))
  have registered := called.snoc (.call rfl rfl (.registered rfl rfl))
  have registered' := registered.snoc (.call rfl rfl (.registered rfl rfl))
  have spawned := registered'.snoc (.call rfl rfl (.workerSpawned rfl rfl))
  have created := spawned.snoc (.worker (b := 0) rfl (.networkCreated rfl (pairPlan_network _ _)))
  have hnew : ConfiguredVm.newProxy privateCrates
      ⟨{ plainVm with allow := [.stateful .outbound .peers .unrestricted] }, 0x0a000002, 0⟩
      pairPlan ⟨0x0a000001, [0x0a000002, 0x0a000003]⟩ .insertion (.ok 1514) 0 = .ok askingProxy :=
    pairPlan_proxy _ _ rfl
  have serving : ServingRun privateCrates discoveringCrates askingProxy 0xffffff00 [] 0
      ([] ++ peerAsked :: []) peerAsked.post :=
    ⟨⟨_, _, _, _, _, _, _, _, hnew⟩, Run.nil.snoc (.vmRead rfl (Nat.zero_le _))⟩
  obtain ⟨frame, hwritten⟩ : ∃ frame, .toHost frame (.ok ()) ∈ peerAsked.label.effects :=
    ⟨_, List.mem_singleton_self _⟩
  obtain ⟨now, answers, hcause, hmac, _, ⟨harp, _⟩ | ⟨_, _, _, hpolicy⟩⟩ :=
    vms_keep_to_themselves privateCrates plainTexts discoveringCrates _ _ created 0 _ rfl 0 1 _ _
      rfl rfl (by decide) askingProxy 0 ⟨_, _, _, _, rfl, hnew⟩ 0xffffff00 [] [] [] peerAsked _
      serving frame (.ok ()) hwritten
  · cases hcause
    cases harp
  · cases hcause
    exact ⟨_, hwritten, hmac, hpolicy rfl rfl⟩

end Neighbours

end Softnet
