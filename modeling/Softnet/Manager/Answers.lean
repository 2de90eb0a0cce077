import Softnet.Manager.Routing

/-!
# From a request to its answer

What the manager of `lib/manager.rs` does with the one request that it has in hand, from the
channel of the control task to the reply.  The list of an initialization names the VMs of the
batch that was set up for the request, in their order; a policy is what the VM of the request
replied when it handled the command, after that was delivered to it; and an error says which of
these steps was not taken.
-/

namespace Softnet

open Transition

section Definitions

/-- A request is being dispatched. -/
def Activity.serves : Activity → Bool
  | .dispatching | .offering _ _ _ | .acknowledging _ _ => true
  | .idle | .initializing | .running | .finishingControl _ _ | .leaving _ | .joiningWorker
  | .joiningTasks _ => false

/-- The manager has no request in hand. -/
structure Service.IsFree (s : Service) : Prop where
  queued : s.queued = none
  serves : s.activity.serves = false

/-- The VM handles the command with its proxy, and this is what the proxy replies. -/
structure Handles
    (crates : Crates)
    (t : Step Service Occurrence)
    (vm : VmRef)
    (command : Command)
    (policy : Policy) :
    Prop where
  label : t.label = .handled vm command
  replied : ∃ proxy order now,
    t.pre.world.proxy? vm = some proxy ∧
    t.post.world.proxy? vm = some (proxy.handle crates (command.event order now)) ∧
    policy = command.reply crates order now proxy

/-- The VM handles no command in these steps. -/
def Unhandled (steps : List (Step Service Occurrence)) (vm : VmRef) : Prop :=
  ∀ t ∈ steps, ∀ command, t.label ≠ .handled vm command

/-- No command is delivered to a VM in these steps. -/
def Undelivered (steps : List (Step Service Occurrence)) : Prop :=
  ∀ t ∈ steps, ∀ vmId vm command, t.label ≠ .delivered vmId vm command

/-- The command is delivered to the VM, which then handles none. -/
def DeliveredOnly
    (steps : List (Step Service Occurrence))
    (vmId : Option Uuid)
    (vm : VmRef)
    (command : Command) :
    Prop :=
  ∃ before u after, steps = before ++ u :: after ∧
    u.label = .delivered vmId vm command ∧ Unhandled after vm

/-- The command is delivered to the VM, and is what the VM handles next. -/
def DeliveredAndHandled
    (crates : Crates)
    (steps : List (Step Service Occurrence))
    (vmId : Option Uuid)
    (vm : VmRef)
    (command : Command)
    (policy : Policy) :
    Prop :=
  ∃ before t after, steps = before ++ t :: after ∧
    DeliveredOnly before vmId vm command ∧ Handles crates t vm command policy

/-- What is known while the reply of a VM is awaited. -/
inductive Delivery
    (crates : Crates)
    (steps : List (Step Service Occurrence))
    (s : Service)
    (vmId : Option Uuid)
    (vm : VmRef)
    (command : Command) :
    Oneshot Policy → Prop
  | waiting
      (delivered : DeliveredOnly steps vmId vm command)
      (held : (s.sides vm).commands = some command) :
      Delivery crates steps s vmId vm command .waiting
  | sent
      {policy : Policy}
      (handled : DeliveredAndHandled crates steps vmId vm command policy) :
      Delivery crates steps s vmId vm command (.sent policy)
  | abandoned
      (delivered : DeliveredOnly steps vmId vm command)
      (dropped : (s.sides vm).commands = none) :
      Delivery crates steps s vmId vm command .abandoned

/-- The manager finds the VM under the id of a request, or under the default one. -/
def Manager.Finds (manager : Manager) (vmId : Option Uuid) (vm : VmRef) : Prop :=
  ∃ id, vmId.or manager.defaultVmId = some id ∧ manager.proxyHandles.lookup id = some vm

/-- The manager finds no VM for a request. -/
inductive Manager.Misses (texts : Texts) (manager : Manager) (vmId : Option Uuid) :
    ErrorChain → Prop
  | untargeted
      (targetless : vmId.or manager.defaultVmId = none) :
      Misses texts manager vmId ["vmId is required unless initialized with exactly one VM"]
  | unknown
      {id : Uuid}
      (target : vmId.or manager.defaultVmId = some id)
      (missing : manager.proxyHandles.lookup id = none) :
      Misses texts manager vmId ["unknown VM " ++ texts.uuidText id]

/-- One of these steps creates the batch of this number. -/
def Creates (steps : List (Step Service Occurrence)) (b : Nat) : Prop :=
  ∃ t ∈ steps, t.pre.world.batches.length = b ∧ t.post.world.batches.length = b + 1

/-- The VMs of the batch are those of the request, in their order. -/
structure Batch.Serves (netType : NetType) (vms : List VmConfig) (batch : Batch) : Prop where
  netType : batch.plan.netType = netType
  configs : batch.plan.vms.map ConfiguredVm.config = vms

/-- The reply names this VM. -/
structure InitializedVm.Names (vm : ConfiguredVm) (reported : InitializedVm) : Prop where
  vmId : reported.vmId = vm.vmId
  vmMacAddress : reported.vmMacAddress = vm.config.vmMacAddress

/-- The call was made, and failed for this reason. -/
structure Batch.FailedWith (batch : Batch) (chain : ErrorChain) : Prop where
  returned : batch.call = .returned (.error (.activationFailed chain))
  cause :
    (∃ result error, batch.worker = .finished result ∧
      finishInitialization result = .error error ∧
      chain = "failed to initialize proxy" :: error) ∨
    ∃ error, chain = "failed to drop privileges" :: error

/-- The manager has this request in hand; these are the steps since it was sent. -/
inductive InHand
    (crates : Crates)
    (steps : List (Step Service Occurrence))
    (s : Service) :
    Request → Prop
  | queued
      {request : Request}
      (waiting : s.queued = some request)
      (undispatched : s.activity.serves = false)
      (undelivered : Undelivered steps) :
      InHand crates steps s request
  | dispatching
      {netType : NetType} {vms : List VmConfig} {b : Nat}
      (empty : s.queued = none)
      (dispatching : s.activity = .dispatching)
      (busy : s.world.busy = some b)
      (created : Creates steps b)
      (serves : s.world.Holds b (Batch.Serves netType vms)) :
      InHand crates steps s (.initializeVms netType vms)
  | offering
      {vm : VmRef} {vmId : Option Uuid} {command : Command}
      (empty : s.queued = none)
      (offering : s.activity = .offering vm vmId command)
      (found : ∃ t ∈ steps, t.pre.world.manager.Finds vmId vm)
      (undelivered : Undelivered steps) :
      InHand crates steps s (.policy vmId command)
  | acknowledging
      {vm : VmRef} {vmId : Option Uuid} {command : Command} {reply : Oneshot Policy}
      (empty : s.queued = none)
      (acknowledging : s.activity = .acknowledging vm reply)
      (found : ∃ t ∈ steps, t.pre.world.manager.Finds vmId vm)
      (delivery : Delivery crates steps s vmId vm command reply) :
      InHand crates steps s (.policy vmId command)

/--
The answer to a request says what was done for it in these steps, from where it was sent to
where it is answered.
-/
inductive Outcome
    (crates : Crates)
    (texts : Texts)
    (steps : List (Step Service Occurrence))
    (t : Step Service Occurrence) :
    Request → Except CallError Reply → Prop
  /-- A batch was set up for the request, and its VMs are named in their order. -/
  | initialized
      {netType : NetType} {vms : List VmConfig} {b : Nat} {batch : Batch}
      {reply : List InitializedVm}
      (created : Creates steps b)
      (present : t.post.world.batches[b]? = some batch)
      (serves : batch.Serves netType vms)
      (worker : batch.worker = .finished (.ok (.ok ())))
      (returned : batch.call = .returned (.ok reply))
      (named : List.Forall₂ InitializedVm.Names batch.plan.vms reply) :
      Outcome crates texts steps t (.initializeVms netType vms) (.ok (.initialized reply))
  | rejected
      {netType : NetType} {vms : List VmConfig} {surroundings : Surroundings}
      {chain : ErrorChain}
      (refusal : Refusal texts surroundings t.pre.world.manager vms (.rejected chain))
      (unchanged : t.post.world = t.pre.world) :
      Outcome crates texts steps t (.initializeVms netType vms) (.error (.failed chain))
  | misnamed
      {netType : NetType} {vms : List VmConfig} {surroundings : Surroundings}
      {chain : ErrorChain}
      (refusal : Refusal texts surroundings t.pre.world.manager vms (.invalidParams chain))
      (unchanged : t.post.world = t.pre.world) :
      Outcome crates texts steps t (.initializeVms netType vms) (.error (.invalidParams chain))
  /-- A batch was created for the request, but not activated. -/
  | unactivated
      {netType : NetType} {vms : List VmConfig} {b : Nat} {batch : Batch} {chain : ErrorChain}
      (created : Creates steps b)
      (present : t.post.world.batches[b]? = some batch)
      (serves : batch.Serves netType vms)
      (failed : batch.FailedWith chain) :
      Outcome crates texts steps t (.initializeVms netType vms)
        (.error (.failed [": ".intercalate chain]))
  | policy
      {vmId : Option Uuid} {vm : VmRef} {command : Command} {policy : Policy}
      (found : ∃ u ∈ steps, u.pre.world.manager.Finds vmId vm)
      (handled : DeliveredAndHandled crates steps vmId vm command policy) :
      Outcome crates texts steps t (.policy vmId command) (.ok (.policy policy))
  | misaddressed
      {vmId : Option Uuid} {command : Command} {chain : ErrorChain}
      (misses : t.pre.world.manager.Misses texts vmId chain)
      (undelivered : Undelivered steps)
      (unchanged : t.post.world = t.pre.world) :
      Outcome crates texts steps t (.policy vmId command) (.error (.invalidParams chain))
  /-- The VM takes no more commands. -/
  | unaccepted
      {vmId : Option Uuid} {vm : VmRef} {command : Command} {task : VmTask}
      (found : ∃ u ∈ steps, u.pre.world.manager.Finds vmId vm)
      (spawned : t.pre.world.task? vm = some task)
      (gone : task.acceptsCommands = false)
      (undelivered : Undelivered steps) :
      Outcome crates texts steps t (.policy vmId command)
        (.error (.failed ["VM proxy task stopped before accepting command", "channel closed"]))
  /-- The VM has dropped the command without handling it. -/
  | unacknowledged
      {vmId : Option Uuid} {vm : VmRef} {command : Command}
      (found : ∃ u ∈ steps, u.pre.world.manager.Finds vmId vm)
      (delivered : DeliveredOnly steps vmId vm command)
      (dropped : (t.pre.sides vm).commands = none) :
      Outcome crates texts steps t (.policy vmId command)
        (.error
          (.failed ["VM proxy task stopped before acknowledging command", "channel closed"]))

/-- What a step does to the request in hand: it is answered, kept or dropped. -/
inductive Progress
    (crates : Crates)
    (texts : Texts)
    (steps : List (Step Service Occurrence))
    (t : Step Service Occurrence)
    (request : Request) :
    Prop
  | answered
      {result : Except CallError Reply}
      (label : t.label = .answered result)
      (outcome : Outcome crates texts steps t request result)
      (free : t.post.IsFree) :
      Progress crates texts steps t request
  | kept
      (quiet : ∀ result, t.label ≠ .answered result)
      (inHand : InHand crates (steps ++ [t]) t.post request) :
      Progress crates texts steps t request
  | dropped
      (quiet : ∀ result, t.label ≠ .answered result)
      (free : t.post.IsFree) :
      Progress crates texts steps t request

end Definitions

section Steps

variable {crates : Crates}
variable {texts : Texts}
variable {s s' : Service}
variable {occurrence : Occurrence}
variable {steps : List (Step Service Occurrence)}
variable {request : Request}

/-- A step of the control task brings a request; no other step does. -/
def Service.TakesNone (s s' : Service) : Prop :=
  s'.queued = none ∨ s'.queued = s.queued

/-- A batch keeps the plan that it was created with. -/
theorem ServiceStep.serves
    {b : Nat} {netType : NetType} {vms : List VmConfig}
    (h : ServiceStep crates texts s occurrence s')
    (hs : s.Coherent)
    (hbefore : s.world.Holds b (Batch.Serves netType vms)) :
    s'.world.Holds b (Batch.Serves netType vms) := by
  rcases h.refines hs.busy with hsame | ⟨_, hstep⟩
  · rwa [hsame]
  · refine hstep.holds (fun batch milestone batch' step hserves => ?_) hbefore
    exact ⟨step.plan_eq ▸ hserves.netType, step.plan_eq ▸ hserves.configs⟩

theorem Batch.serves_new
    {manager : Manager} {surroundings : Surroundings} {netType : NetType} {vms : List VmConfig}
    {plan : Plan}
    (prepared : manager.prepare texts surroundings netType vms = .ok plan) :
    (Batch.new plan).Serves netType vms := by
  obtain ⟨_, _, _, _, hvms⟩ := Manager.eq_of_prepare prepared
  exact ⟨Manager.netType_of_prepare prepared, configureVms_configs hvms⟩

/-- The reply of a call names the VMs of its plan. -/
theorem Plan.initialized_names (plan : Plan) :
    List.Forall₂ InitializedVm.Names plan.vms plan.initialized := by
  rw [Plan.initialized, List.forall₂_map_right_iff]
  exact List.forall₂_same.mpr fun vm _ => ⟨rfl, rfl⟩

theorem Manager.misses_of_proxyHandle
    {manager : Manager} {vmId : Option Uuid} {chain : ErrorChain}
    (h : manager.proxyHandle texts vmId = .error chain) :
    manager.Misses texts vmId chain := by
  unfold Manager.proxyHandle at h
  cases htarget : vmId.or manager.defaultVmId with
  | none =>
      rw [htarget] at h
      cases h
      exact .untargeted htarget
  | some id =>
      rw [htarget] at h
      cases hfound : manager.proxyHandles.lookup id with
      | none =>
          have hchain : (Except.error ["unknown VM " ++ texts.uuidText id] :
              Except ErrorChain VmRef) = .error chain := by
            rw [← h]
            simp [hfound, bind, Except.bind]
          cases hchain
          exact .unknown htarget hfound
      | some vm => simp [hfound, bind, Except.bind] at h

theorem Creates.mono
    {b : Nat}
    (h : Creates steps b)
    (t : Step Service Occurrence) :
    Creates (steps ++ [t]) b := by
  obtain ⟨u, hu, hcreates⟩ := h
  exact ⟨u, List.mem_append_left _ hu, hcreates⟩

theorem Undelivered.snoc
    {t : Step Service Occurrence}
    (h : Undelivered steps)
    (ht : ∀ vmId vm command, t.label ≠ .delivered vmId vm command) :
    Undelivered (steps ++ [t]) := by
  intro u hu
  rcases List.mem_append.mp hu with hu | hu
  · exact h u hu
  · cases List.mem_singleton.mp hu
    exact ht

theorem exists_mem_snoc
    {P : Step Service Occurrence → Prop}
    (h : ∃ u ∈ steps, P u)
    (t : Step Service Occurrence) :
    ∃ u ∈ steps ++ [t], P u := by
  obtain ⟨u, hu, hP⟩ := h
  exact ⟨u, List.mem_append_left _ hu, hP⟩

theorem DeliveredOnly.of_delivered
    {vmId : Option Uuid} {vm : VmRef} {command : Command} {t : Step Service Occurrence}
    (label : t.label = .delivered vmId vm command) :
    DeliveredOnly (steps ++ [t]) vmId vm command :=
  ⟨steps, t, [], rfl, label, by simp [Unhandled]⟩

/-- A command that was delivered waits on. -/
theorem DeliveredOnly.snoc
    {vmId : Option Uuid} {vm : VmRef} {command : Command} {t : Step Service Occurrence}
    (h : DeliveredOnly steps vmId vm command)
    (ht : ∀ other, t.label ≠ .handled vm other) :
    DeliveredOnly (steps ++ [t]) vmId vm command := by
  obtain ⟨before, u, after, rfl, hlabel, hunhandled⟩ := h
  refine ⟨before, u, after ++ [t], by simp, hlabel, fun v hv => ?_⟩
  rcases List.mem_append.mp hv with hv | hv
  · exact hunhandled v hv
  · cases List.mem_singleton.mp hv
    exact ht

theorem DeliveredAndHandled.snoc
    {vmId : Option Uuid} {vm : VmRef} {command : Command} {policy : Policy}
    (h : DeliveredAndHandled crates steps vmId vm command policy)
    (t : Step Service Occurrence) :
    DeliveredAndHandled crates (steps ++ [t]) vmId vm command policy := by
  obtain ⟨before, u, after, rfl, hdelivered, hhandles⟩ := h
  exact ⟨before, u, after ++ [t], by simp, hdelivered, hhandles⟩

/-- A VM leaves the holder of the manager alone who waits for no reply. -/
theorem Activity.hear_of_not_serves
    {activity : Activity}
    (h : activity.serves = false)
    (vm : VmRef)
    (sign : VmSign) :
    activity.hear vm sign = activity := by
  cases activity with
  | acknowledging => cases h
  | idle | initializing | running | dispatching | offering | finishingControl | leaving
  | joiningWorker | joiningTasks => rfl

theorem Occurrence.ofVm_quiet
    (vm : VmRef)
    (sign : VmSign)
    (result : Except CallError Reply) :
    Occurrence.ofVm vm sign ≠ .answered result := by
  cases sign <;> nofun

theorem Occurrence.ofWorker_quiet
    (b : Nat)
    (milestone : Milestone)
    (result : Except CallError Reply) :
    Occurrence.ofWorker b milestone ≠ .answered result := by
  cases milestone <;> nofun

theorem Occurrence.ofVm_ne_delivered
    (vm : VmRef)
    (sign : VmSign)
    (vmId : Option Uuid)
    (target : VmRef)
    (command : Command) :
    Occurrence.ofVm vm sign ≠ .delivered vmId target command := by
  cases sign <;> nofun

theorem Occurrence.ofWorker_ne_delivered
    (b : Nat)
    (milestone : Milestone)
    (vmId : Option Uuid)
    (target : VmRef)
    (command : Command) :
    Occurrence.ofWorker b milestone ≠ .delivered vmId target command := by
  cases milestone <;> nofun

/-- A call that is not dispatched was made directly. -/
theorem Service.Coherent.initializing_of_busy
    {b : Nat}
    (hs : s.Coherent)
    (holder : s.world.busy = some b)
    (undispatched : s.activity.serves = false) :
    s.activity = .initializing := by
  obtain ⟨hcalling, _⟩ := hs.sane_of_busy holder
  cases hactivity : s.activity with
  | initializing => rfl
  | dispatching | offering | acknowledging =>
      rw [hactivity] at undispatched
      cases undispatched
  | idle | running | finishingControl | leaving | joiningWorker | joiningTasks =>
      rw [hactivity] at hcalling
      cases hcalling

/-- The answer to an initialization that was not validated. -/
theorem Outcome.of_refused
    {surroundings : Surroundings} {netType : NetType} {vms : List VmConfig}
    {error : InitializationError} {t : Step Service Occurrence}
    (prepared : t.pre.world.manager.prepare texts surroundings netType vms = .error error)
    (unchanged : t.post.world = t.pre.world) :
    Outcome crates texts steps t (.initializeVms netType vms) (.error error.callError) := by
  have hrefusal := Manager.refusal_of_prepare prepared
  cases error with
  | invalidParams chain => exact .misnamed hrefusal unchanged
  | rejected chain => exact .rejected hrefusal unchanged
  | activationFailed chain => cases hrefusal

/-- The request goes on waiting in the channel. -/
theorem Progress.of_waiting
    (undelivered : Undelivered steps)
    (waiting : s'.queued = some request)
    (undispatched : s'.activity.serves = false)
    (quiet : ∀ result, occurrence ≠ .answered result)
    (hlabel : ∀ vmId vm command, occurrence ≠ .delivered vmId vm command) :
    Progress crates texts steps ⟨s, occurrence, s'⟩ request :=
  .kept quiet (.queued waiting undispatched (undelivered.snoc hlabel))

/-- The holder of the manager takes the request from the channel, leaves it there or drops it. -/
theorem HolderStep.progress_queued
    (h : HolderStep texts s occurrence s')
    (waiting : s.queued = some request)
    (undispatched : s.activity.serves = false)
    (undelivered : Undelivered steps) :
    Progress crates texts steps ⟨s, occurrence, s'⟩ request := by
  cases h with
  | requestRejected running received prepared =>
      cases received.symm.trans waiting
      exact .answered rfl (.of_refused prepared rfl) ⟨rfl, undispatched⟩
  | misaddressed running received refused =>
      cases received.symm.trans waiting
      exact .answered rfl
        (.misaddressed (Manager.misses_of_proxyHandle refused) undelivered rfl)
        ⟨rfl, undispatched⟩
  | @requestCalled surroundings netType vms plan running received prepared =>
      cases received.symm.trans waiting
      refine .kept nofun (.dispatching rfl rfl rfl ?_ ?_)
      · exact ⟨_, List.mem_append_right _ (List.mem_singleton_self _), rfl,
          World.length_batches_call⟩
      · exact World.holds_call_iff.mpr (.inr ⟨rfl, Batch.serves_new prepared⟩)
  | addressed running received found =>
      cases received.symm.trans waiting
      refine .kept nofun (.offering rfl rfl ?_ (undelivered.snoc nofun))
      exact ⟨_, List.mem_append_right _ (List.mem_singleton_self _),
        Manager.proxyHandle_eq_ok_iff.mp found⟩
  | callsDrained finishing => exact .dropped nofun ⟨rfl, rfl⟩
  | ranOut running tasks control queued =>
      rw [waiting] at queued
      cases queued
  | accepted offering | unaccepted offering =>
      rw [offering] at undispatched
      cases undispatched
  | acknowledged acknowledging | unacknowledged acknowledging =>
      rw [acknowledging] at undispatched
      cases undispatched
  | @reaped vmId vm task result =>
      refine .of_waiting undelivered waiting ?_ nofun nofun
      rcases Activity.afterReap_cases (reapResult texts vmId result)
        (s.world.manager.reap vmId).hasNoTasks with hnext | ⟨_, hnext⟩ | ⟨_, hnext⟩
      all_goals
        dsimp only
        rw [hnext]
        rfl
  | @controlJoined goal =>
      refine .of_waiting undelivered waiting ?_ nofun nofun
      cases goal <;> rfl
  | initializeRejected => exact .of_waiting undelivered waiting undispatched nofun nofun
  | initializeCalled | runStarted | controlGone | runReturned | shutdownStarted | noWorker
  | workerJoined | taskJoined | shutdownReturned | cancelled =>
      exact .of_waiting undelivered waiting rfl nofun nofun

/-- A request that waits in the channel is taken from it, or goes on waiting, or is dropped. -/
theorem ServiceStep.progress_queued
    (h : ServiceStep crates texts s occurrence s')
    (hs : s.Coherent)
    (waiting : s.queued = some request)
    (undispatched : s.activity.serves = false)
    (undelivered : Undelivered steps) :
    Progress crates texts steps ⟨s, occurrence, s'⟩ request := by
  cases h with
  | holder step => exact step.progress_queued waiting undispatched undelivered
  | @call b batch batch' milestone manager' holder present step free =>
      rw [hs.initializing_of_busy holder undispatched]
      refine .of_waiting undelivered waiting ?_ ?_ ?_
      · cases milestone <;> rfl
      · cases milestone <;> nofun
      · exact fun _ _ _ => Occurrence.ofCall_ne rfl _ _
  | replaced => exact .of_waiting undelivered waiting undispatched nofun nofun
  | worker =>
      exact .of_waiting undelivered waiting undispatched (Occurrence.ofWorker_quiet _ _)
        (Occurrence.ofWorker_ne_delivered _ _)
  | @vm vm task task' sign =>
      refine .of_waiting undelivered waiting ?_ (Occurrence.ofVm_quiet _ _)
        (Occurrence.ofVm_ne_delivered _ _)
      dsimp only
      rwa [Activity.hear_of_not_serves undispatched]
  | requestSent serving opened room =>
      rw [waiting] at room
      cases room
  | controlEnded => exact .of_waiting undelivered waiting undispatched nofun nofun

/-- The answer of a call that returns. -/
theorem CallStep.outcome
    {netType : NetType} {vms : List VmConfig} {b : Nat} {batch batch' : Batch}
    {milestone : Milestone} {manager manager' : Manager} {result : Except CallError Reply}
    {t : Step Service Occurrence}
    (h : CallStep b manager batch milestone manager' batch')
    (sound : batch.Sound)
    (label : Occurrence.ofCall .dispatching milestone = .answered result)
    (created : Creates steps b)
    (present : t.post.world.batches[b]? = some batch')
    (serves : batch.Serves netType vms) :
    Outcome crates texts steps t (.initializeVms netType vms) result := by
  cases h with
  | returned phase =>
      cases label
      refine .initialized created present ⟨serves.netType, serves.configs⟩ ?_ rfl
        batch.plan.initialized_names
      exact sound.joined (.inr (by rw [phase]; rfl))
  | workerFailed phase worker failed =>
      cases label
      exact .unactivated created present ⟨serves.netType, serves.configs⟩
        ⟨rfl, .inl ⟨_, _, worker, failed, rfl⟩⟩
  | privilegesKept phase error =>
      cases label
      exact .unactivated created present ⟨serves.netType, serves.configs⟩
        ⟨rfl, .inr ⟨error, rfl⟩⟩
  | registered | workerSpawned | joined | cancelled | privilegesDropped | started => cases label

/-- An initialization that was dispatched goes on, or is answered, or is dropped. -/
theorem ServiceStep.progress_dispatching
    {netType : NetType} {vms : List VmConfig} {b : Nat}
    (h : ServiceStep crates texts s occurrence s')
    (hs : s.Coherent)
    (own : s.TakesNone s')
    (empty : s.queued = none)
    (dispatching : s.activity = .dispatching)
    (busy : s.world.busy = some b)
    (created : Creates steps b)
    (serves : s.world.Holds b (Batch.Serves netType vms)) :
    Progress crates texts steps ⟨s, occurrence, s'⟩ (.initializeVms netType vms) := by
  have hserves := h.serves hs serves
  have hcreated := created.mono ⟨s, occurrence, s'⟩
  have hfree : s.activity.isCalling = false → False := by
    rw [dispatching]
    nofun
  cases h with
  | holder step => exact (hfree step.effect.1).elim
  | @call c batch batch' milestone manager' holder present step free =>
      cases holder.symm.trans busy
      obtain ⟨found, hget, hfound⟩ := serves
      cases present.symm.trans hget
      have hcalling : (Activity.dispatching.afterCall milestone).isCalling =
          batch'.call.inProgress :=
        step.inProgress_eq rfl
      have hpresent : (s.world.batches.set b batch')[b]? = some batch' := by
        rw [List.getElem?_set_self (List.getElem?_eq_some_iff.mp hget).1]
      have hsound := hs.world.batches b batch hget
      rw [dispatching] at hserves hcreated ⊢
      cases milestone with
      | returnedOk reply =>
          exact .answered rfl (step.outcome hsound rfl created hpresent hfound) ⟨empty, rfl⟩
      | returnedErr error =>
          exact .answered rfl (step.outcome hsound rfl created hpresent hfound) ⟨empty, rfl⟩
      | cancelled => exact .dropped nofun ⟨empty, rfl⟩
      | silent | proxyBuilt | handedOver | privilegesDropped | enteredRun =>
          refine .kept nofun (.dispatching empty rfl ?_ hcreated hserves)
          dsimp only
          rw [← hcalling]
          rfl
  | replaced => exact .kept nofun (.dispatching empty dispatching busy hcreated hserves)
  | worker =>
      exact .kept (Occurrence.ofWorker_quiet _ _)
        (.dispatching empty dispatching busy hcreated hserves)
  | vm =>
      refine .kept (Occurrence.ofVm_quiet _ _) (.dispatching empty ?_ busy hcreated hserves)
      dsimp only
      rw [dispatching]
      rfl
  | requestSent => simp [Service.TakesNone, empty] at own
  | controlEnded => exact .kept nofun (.dispatching empty dispatching busy hcreated hserves)

/-- A command that waits for room is delivered, or answered for, or dropped. -/
theorem ServiceStep.progress_offering
    {vm : VmRef} {vmId : Option Uuid} {command : Command}
    (h : ServiceStep crates texts s occurrence s')
    (hs : s.Coherent)
    (own : s.TakesNone s')
    (empty : s.queued = none)
    (offering : s.activity = .offering vm vmId command)
    (found : ∃ t ∈ steps, t.pre.world.manager.Finds vmId vm)
    (undelivered : Undelivered steps) :
    Progress crates texts steps ⟨s, occurrence, s'⟩ (.policy vmId command) := by
  have hfree : s.world.busy = none := hs.free (by rw [offering]; rfl)
  have hfound := exists_mem_snoc found ⟨s, occurrence, s'⟩
  cases h with
  | holder step =>
      cases step with
      | accepted holds =>
          cases holds.symm.trans offering
          exact .kept nofun
            (.acknowledging empty rfl hfound (.waiting (.of_delivered rfl) (by simp)))
      | unaccepted holds spawned dropped =>
          cases holds.symm.trans offering
          exact .answered rfl (.unaccepted found spawned dropped undelivered) ⟨empty, rfl⟩
      | cancelled => exact .dropped nofun ⟨empty, rfl⟩
      | initializeRejected holds | initializeCalled holds | runStarted holds | reaped holds
      | controlGone holds | requestRejected holds | requestCalled holds | misaddressed holds
      | addressed holds | acknowledged holds | unacknowledged holds | ranOut holds
      | runReturned holds | callsDrained holds | controlJoined holds | shutdownStarted holds
      | noWorker holds | workerJoined holds | taskJoined holds | shutdownReturned holds =>
          cases holds.symm.trans offering
  | call holder | replaced holder => cases hfree.symm.trans holder
  | worker =>
      exact .kept (Occurrence.ofWorker_quiet _ _)
        (.offering empty offering hfound (undelivered.snoc (Occurrence.ofWorker_ne_delivered _ _)))
  | @vm other _ _ sign =>
      have hoffering : s.activity.hear other sign = .offering vm vmId command := by
        rw [offering]
        rfl
      exact .kept (Occurrence.ofVm_quiet _ _)
        (.offering empty hoffering hfound (undelivered.snoc (Occurrence.ofVm_ne_delivered _ _)))
  | requestSent => simp [Service.TakesNone, empty] at own
  | controlEnded =>
      exact .kept nofun (.offering empty offering hfound (undelivered.snoc nofun))

/-- What is known of a delivery stays known as long as the command stays where it is. -/
theorem Delivery.snoc
    {vmId : Option Uuid} {vm : VmRef} {command : Command} {reply : Oneshot Policy}
    (h : Delivery crates steps s vmId vm command reply)
    (hother : ∀ command, occurrence ≠ .handled vm command)
    (hcommands : (s'.sides vm).commands = (s.sides vm).commands) :
    Delivery crates (steps ++ [⟨s, occurrence, s'⟩]) s' vmId vm command reply := by
  cases h with
  | waiting delivered held => exact .waiting (delivered.snoc hother) (hcommands.trans held)
  | sent handled => exact .sent (handled.snoc _)
  | abandoned delivered dropped =>
      exact .abandoned (delivered.snoc hother) (hcommands.trans dropped)

theorem Occurrence.internal_ne_handled
    (vm : VmRef)
    (command : Command) :
    Occurrence.internal ≠ .handled vm command := by
  nofun

/-- A step of the VM whose reply is awaited. -/
theorem Delivery.vm
    {vmId : Option Uuid} {vm : VmRef} {command : Command} {reply : Oneshot Policy}
    {task task' : VmTask} {sign : VmSign} {side' : VmSide}
    (h : Delivery crates steps s vmId vm command reply)
    (spawned : s.world.task? vm = some task)
    (step : VmStep crates task (s.sides vm) sign task' side')
    (s' : Service)
    (hworld : s'.world = s.world.setTask vm task')
    (hsides : s'.sides vm = side') :
    ∃ reply', (Activity.acknowledging vm reply).hear vm sign = .acknowledging vm reply' ∧
      Delivery crates (steps ++ [⟨s, .ofVm vm sign, s'⟩]) s' vmId vm command reply' := by
  cases sign with
  | quiet =>
      refine ⟨reply, by simp [Activity.hear], h.snoc (Occurrence.internal_ne_handled vm) ?_⟩
      rw [hsides]
      cases step <;> rfl
  | hungUp =>
      have hdropped : (s'.sides vm).commands = none := by
        rw [hsides]
        cases step <;> rfl
      refine ⟨reply.dropSender, by simp [Activity.hear], ?_⟩
      cases h with
      | waiting delivered | abandoned delivered =>
          exact .abandoned (delivered.snoc (Occurrence.internal_ne_handled vm)) hdropped
      | sent handled => exact .sent (handled.snoc _)
  | handled handledCommand policy =>
      refine ⟨reply.afterSend policy, by simp [Activity.hear], ?_⟩
      cases step with
      | @commandHandled proxy proxy' _ order now phase received handled =>
          cases h with
          | waiting delivered held =>
              cases received.symm.trans held
              refine .sent ⟨steps, _, [], rfl, delivered, rfl, proxy.proxy, order, now, ?_, ?_,
                rfl⟩
              · simp [World.proxy?, spawned, VmTask.proxy?, phase]
              · simp [World.proxy?, hworld, World.task?_setTask spawned, VmTask.proxy?,
                  handled.proxy_eq]
          | sent handled => exact .sent (handled.snoc _)
          | abandoned delivered dropped => cases received.symm.trans dropped

/-- A reply that is awaited comes, or never comes, or is no longer awaited. -/
theorem ServiceStep.progress_acknowledging
    {vm : VmRef} {vmId : Option Uuid} {command : Command} {reply : Oneshot Policy}
    (h : ServiceStep crates texts s occurrence s')
    (hs : s.Coherent)
    (own : s.TakesNone s')
    (empty : s.queued = none)
    (acknowledging : s.activity = .acknowledging vm reply)
    (found : ∃ t ∈ steps, t.pre.world.manager.Finds vmId vm)
    (delivery : Delivery crates steps s vmId vm command reply) :
    Progress crates texts steps ⟨s, occurrence, s'⟩ (.policy vmId command) := by
  have hfree : s.world.busy = none := hs.free (by rw [acknowledging]; rfl)
  have hfound := exists_mem_snoc found ⟨s, occurrence, s'⟩
  cases h with
  | holder step =>
      cases step with
      | acknowledged holds =>
          cases holds.symm.trans acknowledging
          cases delivery with
          | sent handled => exact .answered rfl (.policy found handled) ⟨empty, rfl⟩
      | unacknowledged holds =>
          cases holds.symm.trans acknowledging
          cases delivery with
          | abandoned delivered dropped =>
              exact .answered rfl (.unacknowledged found delivered dropped) ⟨empty, rfl⟩
      | cancelled => exact .dropped nofun ⟨empty, rfl⟩
      | initializeRejected holds | initializeCalled holds | runStarted holds | reaped holds
      | controlGone holds | requestRejected holds | requestCalled holds | misaddressed holds
      | addressed holds | accepted holds | unaccepted holds | ranOut holds
      | runReturned holds | callsDrained holds | controlJoined holds | shutdownStarted holds
      | noWorker holds | workerJoined holds | taskJoined holds | shutdownReturned holds =>
          cases holds.symm.trans acknowledging
  | call holder | replaced holder => cases hfree.symm.trans holder
  | @worker b batch batch' milestone =>
      refine .kept (Occurrence.ofWorker_quiet _ _)
        (.acknowledging empty acknowledging hfound
          (delivery.snoc ?_ sidesAfterWorker_commands))
      cases milestone <;> nofun
  | @vm other task task' sign side' spawned step =>
      refine .kept (Occurrence.ofVm_quiet _ _) ?_
      by_cases hother : other = vm
      · subst hother
        obtain ⟨reply', hhear, hdelivery⟩ := delivery.vm spawned step
          { s with
            world := s.world.setTask other task'
            sides := Function.update s.sides other side'
            activity := s.activity.hear other sign }
          rfl (Function.update_self other side' s.sides)
        exact .acknowledging empty (by rw [← hhear, ← acknowledging]) hfound hdelivery
      · have hhear : s.activity.hear other sign = .acknowledging vm reply := by
          rw [acknowledging]
          exact if_neg (Ne.symm hother)
        refine .acknowledging empty hhear hfound (delivery.snoc ?_ ?_)
        · cases sign with
          | handled => simp [Occurrence.ofVm, hother]
          | quiet | hungUp => nofun
        · simp [Function.update_of_ne (Ne.symm hother)]
  | requestSent => simp [Service.TakesNone, empty] at own
  | controlEnded =>
      exact .kept nofun (.acknowledging empty acknowledging hfound (delivery.snoc nofun rfl))

/-- The request in hand is answered, kept or dropped by every step. -/
theorem ServiceStep.progress
    (h : ServiceStep crates texts s occurrence s')
    (hs : s.Coherent)
    (own : s.TakesNone s')
    (inHand : InHand crates steps s request) :
    Progress crates texts steps ⟨s, occurrence, s'⟩ request := by
  cases inHand with
  | queued waiting undispatched undelivered =>
      exact h.progress_queued hs waiting undispatched undelivered
  | dispatching empty dispatching busy created serves =>
      exact h.progress_dispatching hs own empty dispatching busy created serves
  | offering empty offering found undelivered =>
      exact h.progress_offering hs own empty offering found undelivered
  | acknowledging empty acknowledging found delivery =>
      exact h.progress_acknowledging hs own empty acknowledging found delivery

/-- A manager without a request in hand answers nothing. -/
theorem ServiceStep.isFree
    (h : ServiceStep crates texts s occurrence s')
    (hs : s.Coherent)
    (own : s.TakesNone s')
    (free : s.IsFree) :
    s'.IsFree ∧ ∀ result, occurrence ≠ .answered result := by
  obtain ⟨empty, unserved⟩ := free
  cases h with
  | holder step =>
      cases step with
      | requestRejected running received | requestCalled running received
      | misaddressed running received | addressed running received =>
          rw [empty] at received
          cases received
      | accepted holds | unaccepted holds | acknowledged holds | unacknowledged holds =>
          rw [holds] at unserved
          cases unserved
      | @reaped vmId vm task result =>
          refine ⟨⟨empty, ?_⟩, nofun⟩
          rcases Activity.afterReap_cases (reapResult texts vmId result)
            (s.world.manager.reap vmId).hasNoTasks with hnext | ⟨_, hnext⟩ | ⟨_, hnext⟩
          all_goals
            dsimp only
            rw [hnext]
            rfl
      | @controlJoined goal =>
          refine ⟨⟨empty, ?_⟩, nofun⟩
          cases goal <;> rfl
      | initializeRejected => exact ⟨⟨empty, unserved⟩, nofun⟩
      | callsDrained => exact ⟨⟨rfl, rfl⟩, nofun⟩
      | initializeCalled | runStarted | controlGone | ranOut | runReturned | shutdownStarted
      | noWorker | workerJoined | taskJoined | shutdownReturned | cancelled =>
          exact ⟨⟨empty, rfl⟩, nofun⟩
  | @call b batch batch' milestone manager' holder present step =>
      rw [hs.initializing_of_busy holder unserved]
      refine ⟨⟨empty, ?_⟩, ?_⟩
      · cases milestone <;> rfl
      · cases milestone <;> nofun
  | replaced => exact ⟨⟨empty, unserved⟩, nofun⟩
  | worker => exact ⟨⟨empty, unserved⟩, Occurrence.ofWorker_quiet _ _⟩
  | vm =>
      refine ⟨⟨empty, ?_⟩, Occurrence.ofVm_quiet _ _⟩
      dsimp only
      rwa [Activity.hear_of_not_serves unserved]
  | requestSent => simp [Service.TakesNone, empty] at own
  | controlEnded => exact ⟨⟨empty, unserved⟩, nofun⟩

end Steps

end Softnet
