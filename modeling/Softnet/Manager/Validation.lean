import Softnet.Lib.Fallible
import Softnet.Manager.Initialization

/-!
# The validation of a request

`initialize` validates a request before it changes anything.  What a request has passed when
its validation succeeds is read off the plan (`Manager.eq_of_prepare`); why one is rejected,
with the error it gets, is listed in `Refusal` (`Manager.refusal_of_prepare`).
-/

namespace Softnet

section Validation

variable {texts : Texts}
variable {surroundings : Surroundings}
variable {manager : Manager}
variable {netType : NetType}
variable {vms : List VmConfig}
variable {error : InitializationError}

/-! ## What is accepted -/

/-- The DNS server of a batch that has named VMs. -/
def prepareDns (surroundings : Surroundings) (configured : List ConfiguredVm) :
    Except InitializationError (Option DnsServer) :=
  let dnsRecords := configured.filterMap fun vm => vm.config.name.map (·, vm.vmIp)
  if dnsRecords.isEmpty then
    pure none
  else
    ((surroundings.dnsServerNew dnsRecords).map some).mapError .invalidParams

/-- The validation of a request, once the manager and the size of the batch allow it. -/
def prepareBatch
    (texts : Texts)
    (surroundings : Surroundings)
    (netType : NetType)
    (vms : List VmConfig) :
    Except InitializationError Plan := do
  checkMacAddresses texts [] vms
  let subnet ←
    (context "failed to initialize proxy"
      (surroundings.findAvailableSubnet subnetPrefixLen)).mapError .rejected
  let configured ← configureVms surroundings subnet 0 vms
  let dnsServer ← prepareDns surroundings configured
  return ⟨netType, subnet, configured, dnsServer⟩

theorem Manager.prepare_eq
    (manager : Manager)
    (surroundings : Surroundings)
    (netType : NetType)
    (vms : List VmConfig) :
    manager.prepare texts surroundings netType vms =
      if manager.initialized then
        .error (.rejected ["Softnet is already initialized"])
      else if vms.isEmpty ∨ maxVms < vms.length then
        .error (.rejected
          ["initialization requires between 1 and " ++ toString maxVms ++ " VMs"])
      else
        prepareBatch texts surroundings netType vms := by
  unfold Manager.prepare
  split
  · rfl
  · split
    · rfl
    · refine bind_congr fun _ => bind_congr fun subnet => bind_congr fun configured => ?_
      dsimp only [prepareDns]
      split <;> rfl

/-- What a request has passed when its validation succeeds. -/
theorem Manager.eq_of_prepare
    {plan : Plan}
    (h : manager.prepare texts surroundings netType vms = .ok plan) :
    manager.initialized = false ∧
      1 ≤ vms.length ∧
      vms.length ≤ maxVms ∧
      surroundings.findAvailableSubnet subnetPrefixLen = .ok plan.subnet ∧
      configureVms surroundings plan.subnet 0 vms = .ok plan.vms := by
  rw [Manager.prepare_eq] at h
  split at h
  · cases h
  · next hfresh =>
      split at h
      · cases h
      · next hsize =>
          obtain ⟨_, _, h⟩ := Except.bind_eq_ok_iff.mp h
          obtain ⟨subnet, hsubnet, h⟩ := Except.bind_eq_ok_iff.mp h
          obtain ⟨configured, hconfigured, h⟩ := Except.bind_eq_ok_iff.mp h
          obtain ⟨_, _, h⟩ := Except.bind_eq_ok_iff.mp h
          cases h
          have hfound := Except.mapError_eq_ok_iff.mp (Except.mapError_eq_ok_iff.mp hsubnet)
          rw [List.isEmpty_iff_length_eq_zero] at hsize
          exact ⟨Bool.eq_false_iff.mpr hfresh, by omega, by omega, hfound, hconfigured⟩

theorem Manager.netType_of_prepare
    {plan : Plan}
    (h : manager.prepare texts surroundings netType vms = .ok plan) :
    plan.netType = netType := by
  rw [Manager.prepare_eq] at h
  split at h
  · cases h
  · split at h
    · cases h
    · obtain ⟨_, _, h⟩ := Except.bind_eq_ok_iff.mp h
      obtain ⟨_, _, h⟩ := Except.bind_eq_ok_iff.mp h
      obtain ⟨_, _, h⟩ := Except.bind_eq_ok_iff.mp h
      obtain ⟨_, _, h⟩ := Except.bind_eq_ok_iff.mp h
      cases h
      rfl

/-- The VMs of a plan are those of the request, in their order. -/
theorem configureVms_configs
    {surroundings : Surroundings} {subnet : Ipv4Net} {start : Nat} {configs : List VmConfig}
    {vms : List ConfiguredVm}
    (h : configureVms surroundings subnet start configs = .ok vms) :
    vms.map ConfiguredVm.config = configs := by
  induction configs generalizing start vms with
  | nil =>
      cases h
      rfl
  | cons config configs ih =>
      obtain ⟨_, _, h⟩ := Except.bind_eq_ok_iff.mp h
      obtain ⟨vmIp, _, h⟩ := Except.bind_eq_ok_iff.mp h
      obtain ⟨rest, hrest, h⟩ := Except.bind_eq_ok_iff.mp h
      cases h
      simp [ih hrest]

/-- What some request was validated to. -/
def Plan.Prepared (texts : Texts) (plan : Plan) : Prop :=
  ∃ manager surroundings netType vms,
    Manager.prepare texts surroundings manager netType vms = .ok plan

/-! ## What is rejected -/

/-- Why a request is rejected, with the error it gets. -/
inductive Refusal (texts : Texts) (surroundings : Surroundings) (manager : Manager)
    (vms : List VmConfig) : InitializationError → Prop
  | alreadyInitialized
      (initialized : manager.initialized = true) :
      Refusal texts surroundings manager vms (.rejected ["Softnet is already initialized"])
  | batchSize
      (size : vms.length = 0 ∨ maxVms < vms.length) :
      Refusal texts surroundings manager vms
        (.rejected ["initialization requires between 1 and " ++ toString maxVms ++ " VMs"])
  | reservedMac
      {index : Nat} {vm : VmConfig}
      (present : vms[index]? = some vm)
      (reserved : vm.vmMacAddress = dhcpServerMac) :
      Refusal texts surroundings manager vms
        (.rejected
          ["VM MAC address " ++ texts.macText vm.vmMacAddress ++
            " is reserved for the DHCP server"])
  | duplicateMac
      {index earlier : Nat} {vm other : VmConfig}
      (present : vms[index]? = some vm)
      (before : earlier < index)
      (taken : vms[earlier]? = some other)
      (same : vm.vmMacAddress = other.vmMacAddress) :
      Refusal texts surroundings manager vms
        (.rejected
          ["VM MAC address " ++ texts.macText vm.vmMacAddress ++ " is already in use"])
  | noSubnet
      {cause : ErrorChain}
      (none_found : surroundings.findAvailableSubnet subnetPrefixLen = .error cause) :
      Refusal texts surroundings manager vms (.rejected ("failed to initialize proxy" :: cause))
  | socket
      {index : Nat} {cause : ErrorChain}
      (present : index < vms.length)
      (unusable : surroundings.vmNew index = .error cause) :
      Refusal texts surroundings manager vms
        (.rejected
          ("failed to initialize proxy" ::
            ("failed to prepare VM at index " ++ toString index) :: cause))
  | noAddress
      {index : Nat} {subnet : Ipv4Net}
      (present : index < vms.length)
      (found : surroundings.findAvailableSubnet subnetPrefixLen = .ok subnet)
      (exhausted : nthHost subnet (index + 1) = none) :
      Refusal texts surroundings manager vms
        (.rejected
          ["failed to initialize proxy", "shared VM subnet has no available addresses"])
  | names
      {records : List (Name × Ipv4Address)} {cause : ErrorChain}
      (listed : records.map Prod.fst = vms.filterMap VmConfig.name)
      (faulty : surroundings.dnsServerNew records = .error cause) :
      Refusal texts surroundings manager vms (.invalidParams cause)

theorem checkMacAddresses_refusal
    {rest : List VmConfig}
    (before : List VmConfig)
    (hvms : vms = before ++ rest)
    (h : checkMacAddresses texts (before.map VmConfig.vmMacAddress).reverse rest = .error error) :
    Refusal texts surroundings manager vms error := by
  induction rest generalizing before with
  | nil => cases h
  | cons vm rest ih =>
      have hhere : vms[before.length]? = some vm := by
        simp [hvms]
      unfold checkMacAddresses at h
      split at h
      · next hreserved =>
          cases h
          exact .reservedMac hhere hreserved
      · split at h
        · next hused =>
            cases h
            obtain ⟨other, hmem, hsame⟩ : ∃ other ∈ before,
                other.vmMacAddress = vm.vmMacAddress := by
              simpa using hused
            obtain ⟨earlier, hearlier⟩ := List.mem_iff_getElem?.mp hmem
            have hlt := (List.getElem?_eq_some_iff.mp hearlier).1
            refine .duplicateMac hhere hlt ?_ hsame.symm
            rw [hvms, List.getElem?_append_left hlt, hearlier]
        · exact ih (before ++ [vm]) (by simp [hvms]) (by simpa using h)

/-- The loop over the VMs fails at a socket, or for want of an address. -/
theorem configureVms_error_cases
    {subnet : Ipv4Net} {start : Nat} {configs : List VmConfig}
    (h : configureVms surroundings subnet start configs = .error error) :
    ∃ index,
      index < start + configs.length ∧
      ((∃ cause,
        surroundings.vmNew index = .error cause ∧
        error = .rejected
          ("failed to initialize proxy" ::
            ("failed to prepare VM at index " ++ toString index) :: cause)) ∨
      nthHost subnet (index + 1) = none ∧
        error = .rejected
          ["failed to initialize proxy", "shared VM subnet has no available addresses"]) := by
  induction configs generalizing start with
  | nil => cases h
  | cons config configs ih =>
      rw [List.length_cons]
      rcases Except.bind_eq_error_iff.mp h with hsocket | ⟨_, _, h⟩
      · obtain ⟨_, houter, rfl⟩ := Except.mapError_eq_error_iff.mp hsocket
        obtain ⟨_, hinner, rfl⟩ := Except.mapError_eq_error_iff.mp houter
        obtain ⟨cause, hcause, rfl⟩ := Except.mapError_eq_error_iff.mp hinner
        exact ⟨start, by omega, .inl ⟨cause, hcause, rfl⟩⟩
      · rcases Except.bind_eq_error_iff.mp h with hmissing | ⟨vmIp, _, h⟩
        · obtain ⟨hnone, rfl⟩ := Except.elim_eq_error_iff.mp hmissing
          exact ⟨start, by omega, .inr ⟨hnone, rfl⟩⟩
        · rcases Except.bind_eq_error_iff.mp h with hrest | ⟨_, _, h⟩
          · obtain ⟨index, hlt, hcause⟩ := ih hrest
            exact ⟨index, by omega, hcause⟩
          · cases h

theorem configureVms_refusal
    {subnet : Ipv4Net}
    (hfound : surroundings.findAvailableSubnet subnetPrefixLen = .ok subnet)
    (h : configureVms surroundings subnet 0 vms = .error error) :
    Refusal texts surroundings manager vms error := by
  obtain ⟨index, hlt, ⟨cause, hcause, rfl⟩ | ⟨hnone, rfl⟩⟩ := configureVms_error_cases h
  · exact .socket (by omega) hcause
  · exact .noAddress (by omega) hfound hnone

/-- The DNS records of a batch name its VMs. -/
theorem dnsRecords_names
    {configured : List ConfiguredVm}
    (hconfigs : configured.map ConfiguredVm.config = vms) :
    (configured.filterMap fun vm => vm.config.name.map (·, vm.vmIp)).map Prod.fst =
      vms.filterMap VmConfig.name := by
  subst hconfigs
  rw [List.map_filterMap, List.filterMap_map]
  congr 1
  funext vm
  cases hname : vm.config.name <;> simp [hname]

theorem prepareDns_refusal
    {configured : List ConfiguredVm}
    (hconfigs : configured.map ConfiguredVm.config = vms)
    (h : prepareDns surroundings configured = .error error) :
    Refusal texts surroundings manager vms error := by
  dsimp only [prepareDns] at h
  split at h
  · cases h
  · obtain ⟨cause, hcause, rfl⟩ := Except.mapError_eq_error_iff.mp h
    exact .names (dnsRecords_names hconfigs) (Except.map_eq_error_iff.mp hcause)

/-- The validation fails for one of the listed reasons only. -/
theorem Manager.refusal_of_prepare
    (h : manager.prepare texts surroundings netType vms = .error error) :
    Refusal texts surroundings manager vms error := by
  rw [Manager.prepare_eq] at h
  split at h
  · next hinitialized =>
      cases h
      exact .alreadyInitialized hinitialized
  · split at h
    · next hsize =>
        cases h
        exact .batchSize (by rwa [List.isEmpty_iff_length_eq_zero] at hsize)
    · rcases Except.bind_eq_error_iff.mp h with hmac | ⟨_, _, h⟩
      · exact checkMacAddresses_refusal [] rfl hmac
      · rcases Except.bind_eq_error_iff.mp h with hsubnet | ⟨subnet, hfound, h⟩
        · obtain ⟨_, hcontext, rfl⟩ := Except.mapError_eq_error_iff.mp hsubnet
          obtain ⟨cause, hcause, rfl⟩ := Except.mapError_eq_error_iff.mp hcontext
          exact .noSubnet hcause
        · have hfound := Except.mapError_eq_ok_iff.mp (Except.mapError_eq_ok_iff.mp hfound)
          rcases Except.bind_eq_error_iff.mp h with hconfigured | ⟨configured, hconfigured, h⟩
          · exact configureVms_refusal hfound hconfigured
          · rcases Except.bind_eq_error_iff.mp h with hnames | ⟨_, _, h⟩
            · exact prepareDns_refusal (configureVms_configs hconfigured) hnames
            · cases h

/-- The error of a request that was not activated. -/
def InitializationError.isActivationFailed : InitializationError → Bool
  | .activationFailed _ => true
  | .invalidParams _ | .rejected _ => false

end Validation

end Softnet
