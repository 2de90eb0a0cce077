import Softnet.Manager.AllOrNothing
import Softnet.Manager.Service

/-!
# Runs of a manager at work

A step of a manager at work is a step of the world of its batches, or leaves that world
alone (`ServiceStep.refines`).  So whatever holds along every run of such a world holds along
every run of a manager at work.

`Service.Coherent` says how the two go together: a call of `initialize` is in progress exactly
when somebody is inside of it, an unfinished worker is retained by the manager, and only a
condemned manager has a call behind it that was lost.
-/

namespace Softnet

open Transition

section Worlds

variable {w : World}
variable {vm : VmRef}
variable {task task' : VmTask}
variable {batch : Batch}

/-! ## The tasks of a world -/

theorem World.task?_eq_some_iff :
    w.task? vm = some task ↔
      ∃ batch, w.batches[vm.batch]? = some batch ∧ batch.tasks[vm.index]? = some task := by
  simp [World.task?, Option.bind_eq_some_iff]

theorem World.setTask_eq_update
    (h : w.batches[vm.batch]? = some batch) :
    w.setTask vm task' =
      w.update vm.batch { batch with tasks := batch.tasks.set vm.index task' } := by
  simp [World.setTask, World.update, List.modify_eq_set_getElem?, h]

variable {w' : World}
variable {batch' : Batch}
variable {P : Batch → Prop}
variable {b c : Nat}

theorem World.holds_set_iff
    (hbatches : w'.batches = w.batches.set b batch')
    (present : w.batches[b]? = some batch) :
    w'.Holds c P ↔ (c = b ∧ P batch') ∨ (c ≠ b ∧ w.Holds c P) := by
  have hlt := (List.getElem?_eq_some_iff.mp present).1
  by_cases hc : c = b
  · subst hc
    simp [World.Holds, hbatches, List.getElem?_set_self hlt]
  · simp [World.Holds, hbatches, List.getElem?_set_ne (Ne.symm hc), hc]

/-- A step of one batch that keeps a property keeps it for all batches. -/
theorem World.holds_set_congr
    (hbatches : w'.batches = w.batches.set b batch')
    (present : w.batches[b]? = some batch)
    (hsame : P batch' ↔ P batch) :
    w'.Holds c P ↔ w.Holds c P := by
  rw [World.holds_set_iff hbatches present]
  by_cases hc : c = b
  · subst hc
    simp [World.Holds, present, hsame]
  · simp [hc]

/-- A step of a task leaves the call and the worker of its batch alone. -/
theorem World.holds_setTask_iff
    (spawned : w.task? vm = some task)
    (hsame : ∀ batch tasks, P { batch with tasks := tasks } ↔ P batch) :
    (w.setTask vm task').Holds c P ↔ w.Holds c P := by
  obtain ⟨batch, present, _⟩ := World.task?_eq_some_iff.mp spawned
  rw [World.setTask_eq_update present]
  exact World.holds_set_congr rfl present (hsame batch _)

theorem World.holds_call_iff
    {plan : Plan} :
    (w.call plan).Holds b P ↔ w.Holds b P ∨ (b = w.batches.length ∧ P (.new plan)) := by
  constructor
  · rintro ⟨found, hget, hP⟩
    rcases getElem?_concat_cases hget with hget | ⟨hb, rfl⟩
    · exact .inl ⟨found, hget, hP⟩
    · exact .inr ⟨hb, hP⟩
  · rintro (⟨found, hget, hP⟩ | ⟨rfl, hP⟩)
    · have hlt := (List.getElem?_eq_some_iff.mp hget).1
      exact ⟨found, by rw [World.call, List.getElem?_append_left hlt, hget], hP⟩
    · exact ⟨.new plan, by simp [World.call], hP⟩

theorem World.length_batches_call
    {plan : Plan} :
    (w.call plan).batches.length = w.batches.length + 1 := by
  simp [World.call]

/-! ## The VMs of a manager -/

theorem Manager.proxyHandle_eq_ok_iff
    {texts : Texts} {manager : Manager} {target : Option Uuid} :
    manager.proxyHandle texts target = .ok vm ↔
      ∃ vmId, target.or manager.defaultVmId = some vmId ∧
        manager.proxyHandles.lookup vmId = some vm := by
  simp only [Manager.proxyHandle, Except.bind_eq_ok_iff, Except.elim_eq_ok_iff]

theorem Manager.eq_empty_of_hasNoTasks
    {manager : Manager}
    (h : manager.hasNoTasks = true) :
    manager.proxyTasks = ∅ := by
  apply Finmap.ext_lookup
  intro vmId
  rw [Finmap.lookup_empty, Finmap.lookup_eq_none, ← Finmap.mem_keys]
  simp [of_decide_eq_true h]

end Worlds

section Refinement

variable {crates : Crates}
variable {texts : Texts}
variable {s s' : Service}
variable {occurrence : Occurrence}

/-! ## Steps of a manager are steps of its world -/

/-- Whoever holds the manager is inside of `initialize`. -/
def Activity.isCalling : Activity → Bool
  | .initializing | .dispatching => true
  | .idle | .running | .offering _ _ _ | .acknowledging _ _ | .finishingControl _ _ | .leaving _
  | .joiningWorker | .joiningTasks _ => false

theorem VmStep.taskStep
    {task task' : VmTask} {side side' : VmSide} {sign : VmSign}
    (h : VmStep crates task side sign task' side')
    (index : Nat) :
    ∃ milestone, TaskStep crates index task milestone task' := by
  cases h with
  | proxyReceived phase received => exact ⟨_, .proxyReceived phase received⟩
  | proxyNeverComes phase received => exact ⟨_, .proxyNeverComes phase received⟩
  | startReceived phase received => exact ⟨_, .startReceived phase received⟩
  | startNeverComes phase received => exact ⟨_, .startNeverComes phase received⟩
  | packetHandled phase handled => exact ⟨_, .served phase handled⟩
  | commandHandled phase received handled => exact ⟨_, .served phase handled⟩
  | runEnded phase result => exact ⟨_, .runEnded phase result⟩
  | cleanedUp phase owned => exact ⟨_, .cleanedUp phase _⟩
  | cleanupLost phase => exact ⟨_, .cleanedUp phase _⟩

/-- A step of a task of a world. -/
theorem WorldStep.of_task
    {w : World} {vm : VmRef} {task task' : VmTask} {milestone : Milestone}
    (spawned : w.task? vm = some task)
    (step : TaskStep crates vm.index task milestone task') :
    WorldStep crates texts w (.batch vm.batch milestone) (w.setTask vm task') := by
  obtain ⟨batch, present, hget⟩ := World.task?_eq_some_iff.mp spawned
  rw [World.setTask_eq_update present]
  exact .task present hget step

/-- What whoever holds the manager does to the world. -/
inductive HolderEffect (texts : Texts) (s : Service) (occurrence : Occurrence) :
    World → Prop
  | unchanged
      (quiet : ∀ vmId, occurrence ≠ .reaped vmId) :
      HolderEffect texts s occurrence s.world
  | called
      {surroundings : Surroundings} {netType : NetType} {vms : List VmConfig} {plan : Plan}
      (quiet : ∀ vmId, occurrence ≠ .reaped vmId)
      (prepared : s.world.manager.prepare texts surroundings netType vms = .ok plan) :
      HolderEffect texts s occurrence (s.world.call plan)
  | reaped
      {vmId : Uuid} {vm : VmRef}
      (label : occurrence = .reaped vmId)
      (tracked : s.world.manager.proxyTasks.lookup vmId = some vm)
      (finished : s.world.HasFinished vm) :
      HolderEffect texts s occurrence (s.world.setManager (s.world.manager.reap vmId))
  | cleared
      (quiet : ∀ vmId, occurrence ≠ .reaped vmId) :
      HolderEffect texts s occurrence
        (s.world.setManager { s.world.manager with proxyHandles := ∅ })
  | joined
      {b : Nat} {batch : Batch} {result : JoinResult}
      (quiet : ∀ vmId, occurrence ≠ .reaped vmId)
      (retained : s.world.manager.initialization = some b)
      (present : s.world.batches[b]? = some batch)
      (ended : batch.worker = .finished result) :
      HolderEffect texts s occurrence
        (s.world.setManager { s.world.manager with initialization := none })

theorem HolderStep.effect
    (h : HolderStep texts s occurrence s') :
    s.activity.isCalling = false ∧ HolderEffect texts s occurrence s'.world := by
  cases h with
  | initializeCalled idle sane prepared =>
      exact ⟨by rw [idle]; rfl, .called nofun prepared⟩
  | requestCalled running received prepared =>
      exact ⟨by rw [running]; rfl, .called nofun prepared⟩
  | reaped holds tracked spawned ended =>
      exact ⟨by rw [holds]; rfl, .reaped rfl tracked ⟨_, _, spawned, ended⟩⟩
  | taskJoined holds tracked spawned ended =>
      exact ⟨by rw [holds]; rfl, .reaped rfl tracked ⟨_, _, spawned, ended⟩⟩
  | @controlJoined goal finishing ended =>
      refine ⟨by rw [finishing]; rfl, ?_⟩
      cases goal with
      | shutDown => exact .cleared nofun
      | keepRunning | endRun => exact .unchanged nofun
  | workerJoined joining retained present ended =>
      exact ⟨by rw [joining]; rfl, .joined nofun retained present ended⟩
  | cancelled waiting =>
      refine ⟨?_, .unchanged nofun⟩
      cases hactivity : s.activity <;> simp_all [Activity.awaits, Activity.isCalling]
  | initializeRejected holds | runStarted holds | controlGone holds | requestRejected holds
  | misaddressed holds | addressed holds | accepted holds | unaccepted holds
  | acknowledged holds | unacknowledged holds | ranOut holds | runReturned holds
  | callsDrained holds | shutdownStarted holds | noWorker holds | shutdownReturned holds =>
      exact ⟨by rw [holds]; rfl, .unchanged nofun⟩

theorem HolderEffect.refines
    {w : World}
    (crates : Crates)
    (h : HolderEffect texts s occurrence w)
    (free : s.world.busy = none) :
    w = s.world ∨ ∃ happening, WorldStep crates texts s.world happening w := by
  cases h with
  | unchanged => exact .inl rfl
  | called quiet prepared => exact .inr ⟨_, .called free prepared⟩
  | reaped label tracked finished =>
      obtain ⟨task, result, spawned, ended⟩ := finished
      obtain ⟨batch, present, hget⟩ := World.task?_eq_some_iff.mp spawned
      exact .inr ⟨_, .reaped free tracked present hget ended⟩
  | cleared => exact .inr ⟨_, .handlesCleared free⟩
  | joined quiet retained present ended =>
      exact .inr ⟨_, .workerJoined free retained present ended⟩

/-- What only whoever holds the manager brings about, and not inside of `initialize`. -/
def Occurrence.isHolders : Occurrence → Bool
  | .delivered _ _ _ | .reaped _ | .runReturned _ | .shutdownReturned _ => true
  | .internal | .built _ | .answered _ | .handled _ _ | .initializeReturned _ | .cancelled => false

/-- What a step inside of `initialize` may show. -/
def Occurrence.isCalls : Occurrence → Bool
  | .internal | .answered _ | .initializeReturned _ | .cancelled => true
  | .built _ | .delivered _ _ _ | .handled _ _ | .reaped _ | .runReturned _
  | .shutdownReturned _ => false

theorem Occurrence.ofCall_ne
    (h : occurrence.isCalls = false)
    (activity : Activity)
    (milestone : Milestone) :
    Occurrence.ofCall activity milestone ≠ occurrence := by
  rintro rfl
  cases milestone with
  | returnedOk | returnedErr => cases activity <;> cases h
  | silent | proxyBuilt | handedOver | privilegesDropped | enteredRun | cancelled => cases h

theorem Occurrence.isCalls_eq_false
    (h : occurrence.isHolders = true) :
    occurrence.isCalls = false := by
  cases occurrence with
  | delivered | reaped | runReturned | shutdownReturned => rfl
  | internal | built | answered | handled | initializeReturned | cancelled => cases h

theorem ServiceStep.holderStep
    (h : ServiceStep crates texts s occurrence s')
    (hlabel : occurrence.isHolders = true) :
    HolderStep texts s occurrence s' := by
  cases h with
  | holder step => exact step
  | @call _ _ _ milestone =>
      have hother := Occurrence.isCalls_eq_false hlabel
      exact absurd rfl (Occurrence.ofCall_ne hother s.activity milestone)
  | @worker _ _ _ milestone => cases milestone <;> cases hlabel
  | @vm _ _ _ sign => cases sign <;> cases hlabel
  | replaced | requestSent | controlEnded => cases hlabel

/-- A step of a manager at work is a step of its world, or none. -/
theorem ServiceStep.refines
    (h : ServiceStep crates texts s occurrence s')
    (hbusy : s.world.busy.isSome = s.activity.isCalling) :
    s'.world = s.world ∨ ∃ happening, WorldStep crates texts s.world happening s'.world := by
  cases h with
  | holder step =>
      obtain ⟨hcalling, heffect⟩ := step.effect
      rw [hcalling] at hbusy
      exact heffect.refines crates (Option.not_isSome_iff_eq_none.mp (Bool.eq_false_iff.mp hbusy))
  | call holder present step free => exact .inr ⟨_, .call holder present step⟩
  | replaced holder present registering registered tracked spawned held error answers =>
      refine .inr ⟨_, .of_task spawned (.aborted ?_ error)⟩
      intro result hfinished
      simp [VmTask.acceptsCommands, hfinished] at held
  | worker present step answers => exact .inr ⟨_, .worker present step⟩
  | vm spawned step =>
      obtain ⟨milestone, htask⟩ := step.taskStep _
      exact .inr ⟨_, .of_task spawned htask⟩
  | requestSent | controlEnded => exact .inl rfl

end Refinement

section Coherence

variable {crates : Crates}
variable {texts : Texts}
variable {s s' : Service}
variable {occurrence : Occurrence}

/-! ## What goes together -/

/-- Whoever holds the manager goes on to use it. -/
def Activity.isTrusting : Activity → Bool
  | .initializing | .running | .dispatching | .offering _ _ _ | .acknowledging _ _
  | .finishingControl _ .keepRunning => true
  | .idle | .finishingControl _ (.endRun _) | .finishingControl _ .shutDown | .leaving _
  | .joiningWorker | .joiningTasks _ => false

/-- `shutdown` is past the end of the control task. -/
def Activity.isJoining : Activity → Bool
  | .joiningWorker | .joiningTasks _ => true
  | .idle | .initializing | .running | .dispatching | .offering _ _ _ | .acknowledging _ _
  | .finishingControl _ _ | .leaving _ => false

/-- What the activity of the holder says about the manager. -/
structure Service.Placed (s : Service) : Prop where
  busy : s.world.busy.isSome = s.activity.isCalling
  trusted : s.activity.isTrusting = true → s.condemned = false
  cleared :
    s.activity.isJoining = true → s.world.manager.proxyHandles = ∅ ∧ s.control = none
  joined : ∀ outcome, s.activity = .joiningTasks outcome → s.world.manager.initialization = none

/-- How a manager at work and its world go together. -/
structure Service.Coherent (s : Service) : Prop extends Service.Placed s where
  world : s.world.Sound
  lost : s.condemned = false → ∀ b, ¬ s.world.Holds b (·.call.isLost = true)
  retained :
    ∀ b, s.world.manager.initialization = some b →
      s.condemned = true ∨ s.world.Holds b (·.call = .awaiting)
  working :
    ∀ b, s.world.Holds b (·.worker.isWorking = true) →
      s.world.manager.initialization = some b

theorem Service.coherent_new (control : Option ControlTask) : (Service.new control).Coherent := by
  refine ⟨⟨rfl, fun _ => rfl, nofun, nofun⟩, World.sound_new, ?_, nofun, ?_⟩
  · simp [Service.new, World.new, World.Holds]
  · simp [Service.new, World.new, World.Holds]

theorem Service.Coherent.free
    (h : s.Coherent)
    (hcalling : s.activity.isCalling = false) :
    s.world.busy = none := by
  have hbusy := h.busy
  rw [hcalling] at hbusy
  exact Option.not_isSome_iff_eq_none.mp (Bool.eq_false_iff.mp hbusy)

/-- A manager in the middle of a call is not condemned. -/
theorem Service.Coherent.sane_of_busy
    {b : Nat}
    (h : s.Coherent)
    (holder : s.world.busy = some b) :
    s.activity.isCalling = true ∧ s.condemned = false := by
  have hcalling : s.activity.isCalling = true := by
    rw [← h.busy, holder]
    rfl
  refine ⟨hcalling, h.trusted ?_⟩
  cases hactivity : s.activity <;> simp_all [Activity.isCalling, Activity.isTrusting]

/-! ### Steps of the holder -/

theorem erase_empty
    (vmId : Uuid) :
    (∅ : Finmap fun _ : Uuid => VmRef).erase vmId = ∅ := by
  apply Finmap.ext_lookup
  intro other
  by_cases hother : other = vmId
  · rw [hother, Finmap.lookup_erase, Finmap.lookup_empty]
  · rw [Finmap.lookup_erase_ne hother]

theorem HolderStep.placed
    (h : HolderStep texts s occurrence s')
    (hs : s.Coherent) :
    s'.Placed := by
  have hfree := hs.free h.effect.1
  have hbusy : s.world.busy.isSome = false := by simp [hfree]
  cases h with
  | initializeRejected | requestRejected | misaddressed =>
      exact ⟨hs.busy, hs.trusted, hs.cleared, hs.joined⟩
  | initializeCalled idle sane => exact ⟨rfl, fun _ => sane, nofun, nofun⟩
  | runStarted idle sane => exact ⟨hbusy, fun _ => sane, nofun, nofun⟩
  | requestCalled holds =>
      exact ⟨rfl, fun _ => hs.trusted (by rw [holds]; rfl), nofun, nofun⟩
  | reaped running =>
      have hsane := hs.trusted (by rw [running]; rfl)
      unfold Activity.afterReap
      split
      · exact ⟨hbusy, fun _ => hsane, nofun, nofun⟩
      · split <;> exact ⟨hbusy, fun _ => hsane, nofun, nofun⟩
  | controlGone holds | addressed holds | accepted holds | unaccepted holds
  | acknowledged holds | unacknowledged holds =>
      exact ⟨hbusy, fun _ => hs.trusted (by rw [holds]; rfl), nofun, nofun⟩
  | ranOut | runReturned | shutdownStarted | shutdownReturned | cancelled =>
      exact ⟨hbusy, nofun, nofun, nofun⟩
  | @callsDrained goal finishing =>
      refine ⟨hbusy, fun htrusting => hs.trusted ?_, nofun, nofun⟩
      rw [finishing]
      cases goal <;> exact htrusting
  | @controlJoined goal finishing ended =>
      cases goal with
      | keepRunning =>
          exact ⟨hbusy, fun _ => hs.trusted (by rw [finishing]; rfl), nofun, nofun⟩
      | endRun => exact ⟨hbusy, nofun, nofun, nofun⟩
      | shutDown => exact ⟨hbusy, nofun, fun _ => ⟨rfl, rfl⟩, nofun⟩
  | noWorker joining none_left =>
      exact ⟨hbusy, nofun, fun _ => hs.cleared (by rw [joining]; rfl), fun _ _ => none_left⟩
  | workerJoined joining =>
      exact ⟨hbusy, nofun, fun _ => hs.cleared (by rw [joining]; rfl), fun _ _ => rfl⟩
  | @taskJoined vmId _ _ _ _ joining =>
      obtain ⟨hhandles, hcontrol⟩ := hs.cleared (by rw [joining]; rfl)
      refine ⟨hbusy, nofun, fun _ => ⟨?_, hcontrol⟩, fun _ _ => hs.joined _ joining⟩
      simp only [World.setManager, Manager.reap, hhandles]
      exact erase_empty vmId

theorem HolderStep.condemned
    (h : HolderStep texts s occurrence s')
    (hafter : s'.condemned = false) :
    s.condemned = false := by
  cases h with
  | cancelled => cases hafter
  | initializeRejected | initializeCalled | runStarted | reaped | controlGone | requestRejected
  | requestCalled | misaddressed | addressed | accepted | unaccepted | acknowledged
  | unacknowledged | ranOut | runReturned | callsDrained | controlJoined | shutdownStarted
  | noWorker | workerJoined | taskJoined | shutdownReturned => exact hafter

theorem HolderStep.coherent
    (crates : Crates)
    (h : HolderStep texts s occurrence s')
    (hs : s.Coherent) :
    s'.Coherent := by
  obtain ⟨hcalling, heffect⟩ := h.effect
  have hworld : s'.world.Sound := by
    rcases heffect.refines crates (hs.free hcalling) with hsame | ⟨_, step⟩
    · exact hsame ▸ hs.world
    · exact step.sound hs.world
  have hcondemned : s.condemned = true → s'.condemned = true := fun hbefore => by
    by_contra hafter
    simp [h.condemned (Bool.eq_false_iff.mpr hafter)] at hbefore
  refine ⟨h.placed hs, hworld, fun hsane b => ?_, fun b hretained => ?_, fun b hworking => ?_⟩
  · have hlost := hs.lost (h.condemned hsane) b
    generalize s'.world = w at heffect
    cases heffect with
    | called =>
        rw [World.holds_call_iff]
        rintro (hbefore | ⟨_, habsurd⟩)
        · exact hlost hbefore
        · cases habsurd
    | unchanged | reaped | cleared | joined => exact hlost
  · generalize s'.world = w at heffect hretained ⊢
    cases heffect with
    | called =>
        rcases hs.retained b hretained with hbefore | hawaiting
        · exact .inl (hcondemned hbefore)
        · exact .inr (World.holds_call_iff.mpr (.inl hawaiting))
    | joined => cases hretained
    | unchanged | reaped | cleared => exact (hs.retained b hretained).imp_left hcondemned
  · generalize s'.world = w at heffect hworking ⊢
    cases heffect with
    | called =>
        rcases World.holds_call_iff.mp hworking with hbefore | ⟨_, habsurd⟩
        · exact hs.working b hbefore
        · cases habsurd
    | joined quiet retained present ended =>
        -- The worker that is joined is the only one that may have been working
        obtain ⟨batch, hget, hbatch⟩ := hworking
        cases retained.symm.trans (hs.working b ⟨batch, hget, hbatch⟩)
        cases present.symm.trans hget
        simp [ended, Worker.isWorking] at hbatch
    | unchanged | reaped | cleared => exact hs.working b hworking

/-! ### Steps of a call -/

section Calls

variable {b : Nat}
variable {manager manager' : Manager}
variable {batch batch' : Batch}
variable {milestone : Milestone}

/-- Whoever is inside of a call leaves it exactly when the call is over. -/
theorem CallStep.inProgress_eq
    (h : CallStep b manager batch milestone manager' batch')
    {activity : Activity}
    (hcalling : activity.isCalling = true) :
    (activity.afterCall milestone).isCalling = batch'.call.inProgress := by
  cases h with
  | registered phase => simpa [Activity.afterCall, phase, CallPhase.inProgress] using hcalling
  | workerSpawned | joined | privilegesDropped | started => exact hcalling
  | workerFailed | cancelled | privilegesKept | returned =>
      cases activity with
      | initializing | dispatching => rfl
      | idle | running | offering | acknowledging | finishingControl | leaving | joiningWorker
      | joiningTasks => cases hcalling

/-- What fails after the validation is reported as a failed activation. -/
theorem CallStep.activationFailed
    {error : InitializationError}
    (h : CallStep b manager batch (.returnedErr error) manager' batch') :
    ∃ chain, error = .activationFailed chain := by
  cases h with
  | workerFailed | privilegesKept => exact ⟨_, rfl⟩

theorem CallStep.isLost_eq
    (h : CallStep b manager batch milestone manager' batch') :
    batch'.call.isLost = milestone.condemns := by
  cases h with
  | registered phase => simp [phase, CallPhase.isLost, Milestone.condemns]
  | workerSpawned | joined | workerFailed | cancelled | privilegesDropped | privilegesKept
  | started | returned => rfl

/-- The manager retains the worker while its call waits for it, and after a cancellation. -/
theorem CallStep.retained_cases
    (h : CallStep b manager batch milestone manager' batch')
    {c : Nat}
    (hretained : manager'.initialization = some c) :
    (c = b ∧ batch'.call = .awaiting) ∨
      manager.initialization = some c ∧
        (batch.call ≠ .awaiting ∨ milestone.condemns = true) := by
  cases h with
  | workerSpawned =>
      cases hretained
      exact .inl ⟨rfl, rfl⟩
  | joined | workerFailed => cases hretained
  | cancelled => exact .inr ⟨hretained, .inr rfl⟩
  | registered phase | privilegesDropped phase | privilegesKept phase | started phase
  | returned phase => exact .inr ⟨hretained, .inl (by simp [phase])⟩

theorem CallStep.working
    (h : CallStep b manager batch milestone manager' batch')
    (hbefore : batch.worker.isWorking = true → manager.initialization = some b)
    (hworking : batch'.worker.isWorking = true) :
    manager'.initialization = some b := by
  cases h with
  | workerSpawned => rfl
  | joined phase worker | workerFailed phase worker =>
      have habsurd : batch.worker.isWorking = true := hworking
      simp [worker, Worker.isWorking] at habsurd
  | registered | cancelled | privilegesDropped | privilegesKept | started | returned =>
      exact hbefore hworking

theorem Activity.afterCall_of_calling
    {activity : Activity}
    (hcalling : activity.isCalling = true)
    (milestone : Milestone) :
    (activity.afterCall milestone).isJoining = false ∧
      (milestone.condemns = true → (activity.afterCall milestone).isTrusting = false) := by
  cases activity with
  | initializing | dispatching =>
      cases milestone <;>
        exact ⟨rfl, by simp [Milestone.condemns, Activity.afterCall, Activity.isTrusting]⟩
  | idle | running | offering | acknowledging | finishingControl | leaving | joiningWorker
  | joiningTasks => cases hcalling

theorem ServiceStep.coherent_call
    (crates : Crates)
    (texts : Texts)
    (hs : s.Coherent)
    (holder : s.world.busy = some b)
    (present : s.world.batches[b]? = some batch)
    (step : CallStep b s.world.manager batch milestone manager' batch') :
    Service.Coherent
      { s with
        world :=
          { manager := manager'
            batches := s.world.batches.set b batch'
            busy := if batch'.call.inProgress then some b else none }
        activity := s.activity.afterCall milestone
        condemned := s.condemned || milestone.condemns } := by
  obtain ⟨hcalling, hsane⟩ := hs.sane_of_busy holder
  obtain ⟨hjoining, hdoubt⟩ := Activity.afterCall_of_calling hcalling milestone
  have hworld := (WorldStep.call holder present step : WorldStep crates texts _ _ _).sound hs.world
  refine ⟨⟨?_, fun htrusting => ?_, fun habsurd => ?_, fun outcome habsurd => ?_⟩, hworld,
    fun hafter c hlost => ?_, fun c hretained => ?_, fun c hworking => ?_⟩
  · rw [step.inProgress_eq hcalling]
    cases batch'.call.inProgress <;> rfl
  · cases hcondemns : milestone.condemns with
    | false => simp [hsane]
    | true => simp [hdoubt hcondemns] at htrusting
  · simp [hjoining] at habsurd
  · change s.activity.afterCall milestone = .joiningTasks outcome at habsurd
    rw [habsurd] at hjoining
    cases hjoining
  · rcases (World.holds_set_iff rfl present).mp hlost with ⟨rfl, hbatch⟩ | ⟨_, hother⟩
    · rw [step.isLost_eq] at hbatch
      simp [hbatch] at hafter
    · exact hs.lost hsane c hother
  · rcases step.retained_cases hretained with ⟨rfl, hawaiting⟩ | ⟨hbefore, hwhy⟩
    · exact .inr ((World.holds_set_iff rfl present).mpr (.inl ⟨rfl, hawaiting⟩))
    · rcases hwhy with hphase | hcondemns
      · rcases hs.retained c hbefore with habsurd | hawaiting
        · simp [hsane] at habsurd
        · refine .inr ((World.holds_set_iff rfl present).mpr (.inr ⟨?_, hawaiting⟩))
          rintro rfl
          obtain ⟨found, hget, hfound⟩ := hawaiting
          cases present.symm.trans hget
          exact hphase hfound
      · simp [hcondemns]
  · rcases (World.holds_set_iff rfl present).mp hworking with ⟨rfl, hbatch⟩ | ⟨hc, hother⟩
    · exact step.working (fun hbefore => hs.working c ⟨batch, present, hbefore⟩) hbatch
    · -- A worker of another batch would be retained by a call of its own
      rcases hs.retained c (hs.working c hother) with habsurd | ⟨found, hget, hfound⟩
      · simp [hsane] at habsurd
      · have hbusy := hs.world.busy c ⟨found, hget, by simp [hfound, CallPhase.inProgress]⟩
        exact absurd (Option.some.inj (hbusy.symm.trans holder)) hc

end Calls

/-! ### Steps of the other parties -/

/-- A reply may come to whoever waits for one; nothing else changes with a step of a VM. -/
theorem Activity.hear_cases (activity : Activity) (vm : VmRef) (sign : VmSign) :
    activity.hear vm sign = activity ∨
      ∃ target reply reply',
        activity = .acknowledging target reply ∧
        activity.hear vm sign = .acknowledging target reply' := by
  cases activity with
  | acknowledging target reply =>
      refine .inr ⟨target, reply, ?_⟩
      by_cases htarget : target = vm
      · cases sign <;> simp [Activity.hear, htarget]
      · simp [Activity.hear, htarget]
  | idle | initializing | running | dispatching | offering | finishingControl | leaving
  | joiningWorker | joiningTasks => exact .inl rfl

/-- Parties other than the holder leave alone what the holder relies on. -/
theorem Service.Coherent.of_background
    (hs : s.Coherent)
    (hworld : s'.world.Sound)
    (hmanager : s'.world.manager = s.world.manager)
    (hbusy : s'.world.busy = s.world.busy)
    (hcondemned : s'.condemned = s.condemned)
    (hcontrol : s.control = none → s'.control = none)
    (hactivity :
      s'.activity = s.activity ∨
        ∃ vm reply reply',
          s.activity = .acknowledging vm reply ∧ s'.activity = .acknowledging vm reply')
    (hcall :
      ∀ b (P : CallPhase → Prop),
        s'.world.Holds b (fun batch => P batch.call) ↔
          s.world.Holds b (fun batch => P batch.call))
    (hworker :
      ∀ b, s'.world.Holds b (·.worker.isWorking = true) →
        s.world.Holds b (·.worker.isWorking = true)) :
    s'.Coherent := by
  refine ⟨?_, hworld, ?_, ?_, ?_⟩
  · rcases hactivity with hsame | ⟨vm, reply, reply', hbefore, hafter⟩
    · refine ⟨?_, ?_, ?_, ?_⟩
      · rw [hbusy, hsame]
        exact hs.busy
      · rw [hcondemned, hsame]
        exact hs.trusted
      · rw [hmanager, hsame]
        exact fun hjoining => (hs.cleared hjoining).imp_right hcontrol
      · rw [hmanager, hsame]
        exact hs.joined
    · have htrusted := hs.trusted (by rw [hbefore]; rfl)
      have hfree := hs.busy
      rw [hbefore] at hfree
      refine ⟨?_, ?_, ?_, ?_⟩
      · rw [hbusy, hafter]
        exact hfree
      · rw [hcondemned]
        exact fun _ => htrusted
      · rw [hafter]
        nofun
      · rw [hafter]
        nofun
  · rw [hcondemned]
    exact fun hsane b => (hcall b (·.isLost = true)).not.mpr (hs.lost hsane b)
  · rw [hmanager, hcondemned]
    exact fun b hretained => (hs.retained b hretained).imp_right (hcall b (· = .awaiting)).mpr
  · rw [hmanager]
    exact fun b hworking => hs.working b (hworker b hworking)

theorem ServiceStep.coherent
    (h : ServiceStep crates texts s occurrence s')
    (hs : s.Coherent) :
    s'.Coherent := by
  have hworld : s'.world.Sound := by
    rcases h.refines hs.busy with hsame | ⟨_, step⟩
    · exact hsame ▸ hs.world
    · exact step.sound hs.world
  cases h with
  | holder step => exact step.coherent crates hs
  | call holder present step free =>
      exact ServiceStep.coherent_call crates texts hs holder present step
  | replaced holder present registering registered tracked spawned held error answers =>
      refine hs.of_background hworld rfl rfl rfl id (.inl rfl) (fun c P => ?_) (fun c => ?_)
      · exact World.holds_setTask_iff spawned fun _ _ => Iff.rfl
      · exact (World.holds_setTask_iff spawned fun _ _ => Iff.rfl).mp
  | worker present step answers =>
      obtain ⟨hworking, _, hcall, _⟩ := step.frame
      refine hs.of_background hworld rfl rfl rfl id (.inl rfl) (fun c P => ?_) (fun c hafter => ?_)
      · exact World.holds_set_congr rfl present (by rw [hcall])
      · rcases (World.holds_set_iff rfl present).mp hafter with ⟨rfl, _⟩ | ⟨_, hother⟩
        · exact ⟨_, present, hworking⟩
        · exact hother
  | vm spawned step =>
      refine hs.of_background hworld rfl rfl rfl id (Activity.hear_cases _ _ _) (fun c P => ?_)
        (fun c => ?_)
      · exact World.holds_setTask_iff spawned fun _ _ => Iff.rfl
      · exact (World.holds_setTask_iff spawned fun _ _ => Iff.rfl).mp
  | requestSent =>
      exact hs.of_background hworld rfl rfl rfl id (.inl rfl) (fun _ _ => Iff.rfl) (fun _ => id)
  | controlEnded serving =>
      refine hs.of_background hworld rfl rfl rfl (fun hgone => ?_) (.inl rfl)
        (fun _ _ => Iff.rfl) (fun _ => id)
      rw [serving] at hgone
      cases hgone

/-! ## Runs -/

/-- The steps taken so far by a manager that began with or without a control task. -/
def ServiceRun (crates : Crates) (texts : Texts) (history : List (Step Service Occurrence))
    (s : Service) : Prop :=
  ∃ control, Run (ServiceStep crates texts) (Service.new control) history s

variable {history : List (Step Service Occurrence)}

theorem ServiceRun.invariant
    {I : Service → Prop}
    (run : ServiceRun crates texts history s)
    (hstart : ∀ control, I (Service.new control))
    (hstep :
      ∀ s occurrence s', s.Coherent → I s → ServiceStep crates texts s occurrence s' → I s') :
    s.Coherent ∧ I s := by
  obtain ⟨control, run⟩ := run
  refine run.invariant (I := fun s => s.Coherent ∧ I s)
    ⟨Service.coherent_new control, hstart control⟩ ?_
  rintro s occurrence s' ⟨hs, hI⟩ h
  exact ⟨h.coherent hs, hstep s occurrence s' hs hI h⟩

theorem ServiceRun.coherent (run : ServiceRun crates texts history s) : s.Coherent :=
  (run.invariant (I := fun _ => True) (fun _ => trivial) fun _ _ _ _ _ _ => trivial).1

/-- The world of a manager at work is one that a manager gets to. -/
theorem ServiceRun.worldRun
    (run : ServiceRun crates texts history s) :
    ∃ steps, WorldRun crates texts steps s.world := by
  refine (run.invariant (I := fun s => ∃ steps, WorldRun crates texts steps s.world)
    (fun _ => ⟨[], Run.nil⟩) ?_).2
  rintro s occurrence s' hs ⟨steps, hrun⟩ h
  rcases h.refines hs.busy with hsame | ⟨_, step⟩
  · exact ⟨steps, hsame ▸ hrun⟩
  · exact ⟨_, hrun.snoc step⟩

end Coherence

section Deployment

/-! ## A deployment of two VMs -/

/-- A step that brings no request and leaves the control task alone. -/
structure InnerStep
    (crates : Crates)
    (texts : Texts)
    (s : Service)
    (occurrence : Occurrence)
    (s' : Service) :
    Prop where
  step : ServiceStep crates texts s occurrence s'
  queued : s'.queued = none ∨ s'.queued = s.queued
  control : s'.control = s.control

theorem InnerStep.serviceRun
    {crates : Crates} {texts : Texts} {s s' : Service} {steps : List (Step Service Occurrence)}
    (run : Run (InnerStep crates texts) s steps s') :
    Run (ServiceStep crates texts) s steps s' := by
  induction run with
  | nil => exact .nil
  | snoc run step ih => exact ih.snoc step.step

/-- `vmnet` stops what it is told to stop. -/
def plainAnswers (_ : Nat) : FinalizeAnswers :=
  ⟨.ok (), .ok ()⟩

/-- A manager in `run` that has been sent its first request. -/
def askedService (request : Request) : Service :=
  { Service.new (some .serving) with activity := .running, queued := some request }

/-- What is reported about the two VMs. -/
def pairReply : List InitializedVm :=
  [⟨0, 0x020000000002⟩, ⟨1, 0x020000000003⟩]

def pairHandles : Finmap (fun _ : Uuid => VmRef) :=
  Finmap.insert 1 ⟨0, 1⟩ (Finmap.insert 0 ⟨0, 0⟩ ∅)

/-- Both VMs forward packets. -/
def pairBatch (crates : Crates) : Batch where
  plan := pairPlan
  call := .returned (.ok pairReply)
  worker := .finished (.ok (.ok ()))
  tasks := pairPlan.vms.map fun vm => ⟨.closed, .closed, .forwarding ⟨pairProxy crates vm, 0⟩⟩

/-- The manager while the batch of the two VMs is being set up. -/
def pairSetup
    (initialization : Option Nat)
    (batch : Batch)
    (sides : VmRef → VmSide) :
    Service where
  world :=
    ⟨⟨pairHandles, pairHandles, initialization, initialization.isNone, none⟩, [batch], some 0⟩
  sides := sides
  control := some .serving
  callsClosed := false
  queued := none
  activity := .dispatching
  condemned := false

/-- The manager of the two VMs in `run`. -/
def pairService
    (crates : Crates)
    (sides : VmRef → VmSide)
    (queued : Option Request) :
    Service where
  world := ⟨⟨pairHandles, pairHandles, none, true, none⟩, [pairBatch crates], none⟩
  sides := sides
  control := some .serving
  callsClosed := false
  queued := queued
  activity := .running
  condemned := false

/-- `shutdown` waits for the two VMs. -/
def pairClosing (crates : Crates) (sides : VmRef → VmSide) : Service where
  world := ⟨⟨∅, pairHandles, none, true, none⟩, [pairBatch crates], none⟩
  sides := sides
  control := none
  callsClosed := true
  queued := none
  activity := .joiningTasks (.ok ())
  condemned := true

/-- No command waits for the two VMs, and their interfaces are up. -/
def ArePlain (sides : VmRef → VmSide) : Prop :=
  ∀ index < 2, sides ⟨0, index⟩ = ⟨none, some .new⟩

section PairRuns

variable (crates : Crates)
variable (texts : Texts)
variable {sides : VmRef → VmSide}

/-- A part of a run, with what it looks like from outside. -/
def Leads (s : Service) (labels : List Occurrence) (s' : Service) : Prop :=
  ∃ steps, Run (InnerStep crates texts) s steps s' ∧ steps.map Step.label = labels

variable {crates texts}

theorem Leads.refl (s : Service) : Leads crates texts s [] s :=
  ⟨[], .nil, rfl⟩

theorem Leads.snoc
    {s s' s'' : Service} {labels : List Occurrence} {occurrence : Occurrence}
    (h : Leads crates texts s labels s')
    (step : ServiceStep crates texts s' occurrence s'')
    (queued : s''.queued = none)
    (control : s''.control = s'.control) :
    Leads crates texts s (labels ++ [occurrence]) s'' := by
  obtain ⟨steps, run, rfl⟩ := h
  exact ⟨_, run.snoc ⟨step, .inl queued, control⟩, by simp⟩

theorem Leads.trans
    {s s' s'' : Service} {labels labels' : List Occurrence}
    (h : Leads crates texts s labels s')
    (h' : Leads crates texts s' labels' s'') :
    Leads crates texts s (labels ++ labels') s'' := by
  obtain ⟨steps, run, rfl⟩ := h
  obtain ⟨steps', run', rfl⟩ := h'
  exact ⟨_, run.append run', by simp⟩

variable (crates texts)

/-- The two VMs are registered, and the worker begins. -/
theorem pair_registered :
    Leads crates texts (askedService (.initializeVms .nat pairVms)) (List.replicate 4 .internal)
      (pairSetup (some 0) ⟨pairPlan, .awaiting, .creating, [.spawned, .spawned]⟩
        fun _ => .empty) := by
  have called := (Leads.refl (askedService (.initializeVms .nat pairVms))).snoc
    (.holder (.requestCalled rfl rfl (pairPlan_prepared texts)) : ServiceStep crates texts _ _ _)
    rfl rfl
  have registered := called.snoc (.call rfl rfl (.registered rfl rfl) nofun) rfl rfl
  have registered' := registered.snoc (.call rfl rfl (.registered rfl rfl) nofun) rfl rfl
  have spawned := registered'.snoc (.call rfl rfl (.workerSpawned rfl rfl) nofun) rfl rfl
  exact spawned

/-- The worker builds their proxies. -/
theorem pair_built :
    ∃ sides, ArePlain sides ∧
      Leads crates texts
        (pairSetup (some 0) ⟨pairPlan, .awaiting, .creating, [.spawned, .spawned]⟩
          fun _ => .empty)
        [.internal, .built ⟨0, 0⟩, .built ⟨0, 1⟩]
        (pairSetup (some 0) ⟨pairPlan, .awaiting,
          .building ⟨0x0a000001, [0x0a000002, 0x0a000003]⟩
            (pairPlan.vms.map fun vm => ⟨pairProxy crates vm, 0⟩), [.spawned, .spawned]⟩
          sides) := by
  have created := (Leads.refl (pairSetup (some 0) ⟨pairPlan, .awaiting, .creating,
    [.spawned, .spawned]⟩ fun _ => .empty)).snoc
    (.worker (b := 0) rfl (.networkCreated rfl (pairPlan_network _ _)) plainAnswers :
      ServiceStep crates texts _ _ _) rfl rfl
  have built := created.snoc
    (.worker (b := 0) rfl (.proxyBuilt rfl rfl (pairPlan_proxy _ _ rfl)) plainAnswers) rfl rfl
  have built' := built.snoc
    (.worker (b := 0) rfl (.proxyBuilt rfl rfl (pairPlan_proxy _ _ rfl)) plainAnswers) rfl rfl
  refine ⟨_, fun index hindex => ?_, built'⟩
  obtain rfl | rfl : index = 0 ∨ index = 1 := by omega
  · rfl
  · rfl

/-- The proxies are handed over, and the privileges dropped. -/
theorem pair_handed (plain : ArePlain sides) :
    ∃ sides', ArePlain sides' ∧
      Leads crates texts
        (pairSetup (some 0) ⟨pairPlan, .awaiting,
          .building ⟨0x0a000001, [0x0a000002, 0x0a000003]⟩
            (pairPlan.vms.map fun vm => ⟨pairProxy crates vm, 0⟩), [.spawned, .spawned]⟩ sides)
        (List.replicate 6 .internal)
        (pairSetup none ⟨pairPlan, .starting 0, .finished (.ok (.ok ())),
          pairPlan.vms.map fun vm =>
            ⟨.sent ⟨pairProxy crates vm, 0⟩, .waiting, .awaitingProxy⟩⟩ sides') := by
  have complete := (Leads.refl (pairSetup (some 0) ⟨pairPlan, .awaiting,
        .building ⟨0x0a000001, [0x0a000002, 0x0a000003]⟩
          (pairPlan.vms.map fun vm => ⟨pairProxy crates vm, 0⟩), [.spawned, .spawned]⟩ sides)).snoc
    (.worker (b := 0) rfl (.allBuilt rfl rfl) plainAnswers : ServiceStep crates texts _ _ _) rfl rfl
  have handed := complete.snoc
    (.worker (b := 0) rfl (.handedOver rfl rfl rfl) plainAnswers) rfl rfl
  have handed' := handed.snoc
    (.worker (b := 0) rfl (.handedOver rfl rfl rfl) plainAnswers) rfl rfl
  have finished := handed'.snoc (.worker (b := 0) rfl (.completed rfl) plainAnswers) rfl rfl
  have joined := finished.snoc (.call rfl rfl (.joined rfl rfl rfl) nofun) rfl rfl
  have dropped := joined.snoc (.call rfl rfl (.privilegesDropped rfl) nofun) rfl rfl
  refine ⟨_, fun index hindex => ?_, dropped⟩
  obtain rfl | rfl : index = 0 ∨ index = 1 := by omega
  · exact plain 0 hindex
  · exact plain 1 hindex

/-- Both VMs are started. -/
theorem pair_started (plain : ArePlain sides) :
    ∃ sides', ArePlain sides' ∧
      Leads crates texts
        (pairSetup none ⟨pairPlan, .starting 0, .finished (.ok (.ok ())),
          pairPlan.vms.map fun vm =>
            ⟨.sent ⟨pairProxy crates vm, 0⟩, .waiting, .awaitingProxy⟩⟩ sides)
        (List.replicate 6 .internal ++ [.answered (.ok (.initialized pairReply))])
        (pairService crates sides' none) := by
  have received := (Leads.refl (pairSetup none ⟨pairPlan, .starting 0, .finished (.ok (.ok ())),
        pairPlan.vms.map fun vm =>
          ⟨.sent ⟨pairProxy crates vm, 0⟩, .waiting, .awaitingProxy⟩⟩ sides)).snoc
    (.vm (rfl : World.task? _ ⟨0, 0⟩ = some _) (.proxyReceived rfl rfl) :
      ServiceStep crates texts _ _ _) rfl rfl
  have received' := received.snoc
    (.vm (rfl : World.task? _ ⟨0, 1⟩ = some _) (.proxyReceived rfl rfl)) rfl rfl
  have started := received'.snoc (.call rfl rfl (.started rfl rfl) nofun) rfl rfl
  have started' := started.snoc (.call rfl rfl (.started rfl rfl) nofun) rfl rfl
  have entered := started'.snoc
    (.vm (rfl : World.task? _ ⟨0, 0⟩ = some _) (.startReceived rfl rfl)) rfl rfl
  have entered' := entered.snoc
    (.vm (rfl : World.task? _ ⟨0, 1⟩ = some _) (.startReceived rfl rfl)) rfl rfl
  have returned := entered'.snoc (.call rfl rfl (.returned rfl rfl) nofun) rfl rfl
  refine ⟨_, fun index hindex => ?_, returned⟩
  obtain rfl | rfl : index = 0 ∨ index = 1 := by omega
  · exact plain 0 hindex
  · exact plain 1 hindex

/-- The two VMs are set up. -/
theorem exists_pair_setup :
    ∃ setup sides,
      Run (InnerStep crates texts) (askedService (.initializeVms .nat pairVms)) setup
        (pairService crates sides none) ∧
      setup.map Step.label =
        List.replicate 5 .internal ++ [.built ⟨0, 0⟩, .built ⟨0, 1⟩] ++
          List.replicate 12 .internal ++ [.answered (.ok (.initialized pairReply))] ∧
      ArePlain sides := by
  obtain ⟨sides, plain, built⟩ := pair_built crates texts
  obtain ⟨sides', plain', handed⟩ := pair_handed crates texts plain
  obtain ⟨sides'', plain'', started⟩ := pair_started crates texts plain'
  obtain ⟨setup, run, labels⟩ := (((pair_registered crates texts).trans built).trans handed).trans
    started
  exact ⟨setup, sides'', run, labels, plain''⟩

/-- A command is answered by the time that it is given. -/
theorem eventStep_policyGet (proxy : Proxy) :
    EventStep crates ⟨proxy, 0⟩ (Command.event .insertion 0 .policyGet) ⟨proxy, 0⟩ :=
  .handle (Nat.le_refl 0)

/-- The second VM is asked for its policy. -/
theorem exists_pair_inquiry (plain : ArePlain sides) :
    ∃ inquiry sides',
      Run (InnerStep crates texts)
        (pairService crates sides (some (.policy (some 1) .policyGet))) inquiry
        (pairService crates sides' none) ∧
      inquiry.map Step.label =
        [.internal, .delivered (some 1) ⟨0, 1⟩ .policyGet, .handled ⟨0, 1⟩ .policyGet,
          .answered (.ok (.policy ⟨[], [], 0⟩))] ∧
      ArePlain sides' := by
  have asked : Leads crates texts _ [] _ :=
    .refl (pairService crates sides (some (.policy (some 1) .policyGet)))
  have addressed := asked.snoc (.holder (.addressed rfl rfl
    (Manager.proxyHandle_eq_ok_iff.mpr ⟨1, rfl, Finmap.lookup_insert _⟩))) rfl rfl
  have delivered := addressed.snoc (.holder (.accepted rfl rfl rfl
    (congrArg VmSide.commands (plain 1 (by decide))))) rfl rfl
  have handled := delivered.snoc (.vm (rfl : World.task? _ ⟨0, 1⟩ = some _)
    (.commandHandled rfl rfl (eventStep_policyGet crates _))) rfl rfl
  have acknowledged := handled.snoc (.holder (.acknowledged rfl)) rfl rfl
  obtain ⟨inquiry, run, labels⟩ := acknowledged
  refine ⟨inquiry, _, run, labels, fun index hindex => ?_⟩
  obtain rfl | rfl : index = 0 ∨ index = 1 := by omega
  · exact plain 0 hindex
  · exact congrArg (fun side => VmSide.mk none side.interface) (plain 1 hindex)

/-- A request for the first VM is dropped with its command in the channel, and `shutdown` begins. -/
theorem exists_pair_closing (plain : ArePlain sides) :
    ∃ closing sides',
      Run (ServiceStep crates texts) (pairService crates sides none) closing
        (pairClosing crates sides') ∧
      closing.map Step.label =
        [.internal, .internal, .delivered (some 0) ⟨0, 0⟩ .policyGet, .cancelled] ++
          List.replicate 5 .internal ∧
      sides' ⟨0, 0⟩ = ⟨some .policyGet, some .new⟩ ∧
      sides' ⟨0, 1⟩ = ⟨none, some .new⟩ := by
  have handle : pairHandles.lookup 0 = some ⟨0, 0⟩ :=
    (Finmap.lookup_insert_of_ne _ (by decide)).trans (Finmap.lookup_insert _)
  have asked : Run (ServiceStep crates texts) (pairService crates sides none) _ _ :=
    Run.nil.snoc (.requestSent rfl rfl rfl (.policy (some 0) .policyGet))
  have addressed := asked.snoc (.holder (.addressed rfl rfl
    (Manager.proxyHandle_eq_ok_iff.mpr ⟨0, rfl, handle⟩)))
  have delivered := addressed.snoc (.holder (.accepted rfl rfl rfl
    (congrArg VmSide.commands (plain 0 (by decide)))))
  have cancelled := delivered.snoc (.holder (.cancelled rfl))
  have started := cancelled.snoc (.holder (.shutdownStarted rfl))
  have drained := started.snoc (.holder (.callsDrained rfl))
  have left := drained.snoc (.controlEnded rfl)
  have cleared := left.snoc (.holder (.controlJoined rfl nofun))
  have joining := cleared.snoc (.holder (.noWorker rfl rfl))
  refine ⟨_, _, joining, rfl, ?_, plain 1 (by decide)⟩
  exact congrArg (fun side => VmSide.mk (some .policyGet) side.interface) (plain 0 (by decide))

/-- Both VMs come to their end, and `shutdown` returns. -/
theorem exists_pair_ending
    (first : sides ⟨0, 0⟩ = ⟨some .policyGet, some .new⟩)
    (second : sides ⟨0, 1⟩ = ⟨none, some .new⟩) :
    ∃ ending s,
      Run (ServiceStep crates texts) (pairClosing crates sides) ending s ∧
      ending.map Step.label =
        .handled ⟨0, 0⟩ .policyGet :: List.replicate 4 .internal ++ [.reaped 0, .reaped 1] ++
          [.shutdownReturned (.ok ())] ∧
      s.world.batches.map Batch.plan = [pairPlan] := by
  have handle : pairHandles.lookup 0 = some ⟨0, 0⟩ :=
    (Finmap.lookup_insert_of_ne _ (by decide)).trans (Finmap.lookup_insert _)
  have handled : Run (ServiceStep crates texts) (pairClosing crates sides) _ _ :=
    Run.nil.snoc (.vm (rfl : World.task? _ ⟨0, 0⟩ = some _)
      (.commandHandled rfl (congrArg VmSide.commands first) (eventStep_policyGet crates _)))
  have ended := handled.snoc
    (.vm (rfl : World.task? _ ⟨0, 0⟩ = some _) (.runEnded rfl (.ok (.ok ()))))
  have cleaned := ended.snoc (.vm (rfl : World.task? _ ⟨0, 0⟩ = some _)
    (.cleanedUp rfl (by exact congrArg VmSide.interface first) (plainAnswers 0) (plainAnswers 0)))
  have ended' := cleaned.snoc
    (.vm (rfl : World.task? _ ⟨0, 1⟩ = some _) (.runEnded rfl (.ok (.ok ()))))
  have cleaned' := ended'.snoc (.vm (rfl : World.task? _ ⟨0, 1⟩ = some _)
    (.cleanedUp rfl (by exact congrArg VmSide.interface second) (plainAnswers 1)
      (plainAnswers 1)))
  have joined := cleaned'.snoc (.holder (.taskJoined rfl (by exact handle) rfl rfl))
  have joined' := joined.snoc (.holder (.taskJoined rfl
    (by exact (Finmap.lookup_erase_ne (by decide)).trans (Finmap.lookup_insert _)) rfl rfl))
  have returned := joined'.snoc (.holder (.shutdownReturned rfl rfl))
  exact ⟨_, _, returned, rfl, rfl⟩

/-- `shutdown` waits for two VMs that forward packets. -/
theorem exists_pair_closed :
    ∃ history sides,
      ServiceRun crates texts history (pairClosing crates sides) ∧
      sides ⟨0, 0⟩ = ⟨some .policyGet, some .new⟩ ∧
      sides ⟨0, 1⟩ = ⟨none, some .new⟩ ∧
      (∀ index < 2, .built ⟨0, index⟩ ∈ history.map Step.label) ∧
      .delivered (some 1) ⟨0, 1⟩ .policyGet ∈ history.map Step.label := by
  have asked : Run (ServiceStep crates texts) (Service.new (some .serving)) _
      (askedService (.initializeVms .nat pairVms)) :=
    (Run.nil.snoc (.holder (.runStarted rfl rfl))).snoc (.requestSent rfl rfl rfl _)
  obtain ⟨setup, sides, settingUp, setupLabels, plain⟩ := exists_pair_setup crates texts
  have asked' := (asked.append (InnerStep.serviceRun settingUp)).snoc
    (.requestSent rfl rfl rfl (.policy (some 1) .policyGet))
  obtain ⟨inquiry, sides', inquiring, inquiryLabels, plain'⟩ :=
    exists_pair_inquiry crates texts plain
  have served := asked'.append (InnerStep.serviceRun inquiring)
  obtain ⟨closing, sides'', shuttingDown, _, first, second⟩ :=
    exists_pair_closing crates texts plain'
  refine ⟨_, sides'', ⟨_, served.append shuttingDown⟩, first, second, fun index hindex => ?_, ?_⟩
  · obtain rfl | rfl : index = 0 ∨ index = 1 := by omega
    · simp [setupLabels]
    · simp [setupLabels]
  · simp [inquiryLabels]

/-- The two VMs are set up, used and cleaned up, and the manager is shut down. -/
theorem exists_complete_run :
    ∃ before t s,
      ServiceRun crates texts (before ++ [t]) s ∧
      t.label = .shutdownReturned (.ok ()) ∧
      (∀ index < 2, ∃ u ∈ before, u.label = .built ⟨0, index⟩) ∧
      (∃ u ∈ before, u.label = .delivered (some 1) ⟨0, 1⟩ .policyGet) ∧
      s.world.batches.map Batch.plan = [pairPlan] := by
  obtain ⟨history, sides, ⟨control, run⟩, first, second, built, delivered⟩ :=
    exists_pair_closed crates texts
  obtain ⟨ending, s, endingRun, labels, plans⟩ := exists_pair_ending crates texts first second
  obtain ⟨earlier, last, rfl, _, hlast⟩ := List.map_eq_append_iff.mp labels
  obtain ⟨t, _, rfl, hlabel, hnone⟩ := List.map_eq_cons_iff.mp hlast
  obtain rfl := List.map_eq_nil_iff.mp hnone
  have mem {label : Occurrence} (h : label ∈ history.map Step.label) :
      ∃ u ∈ history ++ earlier, u.label = label := by
    obtain ⟨u, hu, rfl⟩ := List.mem_map.mp h
    exact ⟨u, List.mem_append_left _ hu, rfl⟩
  refine ⟨history ++ earlier, t, s, ⟨control, ?_⟩, hlabel,
    fun index hindex => mem (built index hindex), mem delivered, plans⟩
  simpa using run.append endingRun

end PairRuns

end Deployment

end Softnet
