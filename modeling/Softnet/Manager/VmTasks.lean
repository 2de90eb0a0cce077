import Softnet.Manager.ServiceRuns

/-!
# The task of one VM

What a step of a manager at work does to the task of one VM is said once
(`ServiceStep.taskChange`): the task takes a step of its own, is aborted or is spawned; in
every other step it stays where it is, and may only find its channels changed.
-/

namespace Softnet

section Worlds

variable {w w' : World}
variable {vm other : VmRef}
variable {task task' : VmTask}

theorem World.task?_set
    {b : Nat} {batch batch' : Batch}
    (hbatches : w'.batches = w.batches.set b batch')
    (present : w.batches[b]? = some batch) :
    w'.task? vm = if vm.batch = b then batch'.tasks[vm.index]? else w.task? vm := by
  have hlt := (List.getElem?_eq_some_iff.mp present).1
  split
  · next heq => simp [World.task?, hbatches, heq, List.getElem?_set_self hlt]
  · next hne => simp [World.task?, hbatches, List.getElem?_set_ne (Ne.symm hne)]

theorem World.task?_setTask
    (spawned : w.task? vm = some task) :
    (w.setTask vm task').task? other = if other = vm then some task' else w.task? other := by
  obtain ⟨batch, present, hget⟩ := World.task?_eq_some_iff.mp spawned
  have hlt := (List.getElem?_eq_some_iff.mp hget).1
  rw [World.setTask_eq_update present, World.task?_set rfl present]
  obtain ⟨b, index⟩ := vm
  obtain ⟨c, index'⟩ := other
  by_cases hc : c = b
  · subst hc
    by_cases hindex : index' = index
    · subst hindex
      simp [List.getElem?_set_self hlt]
    · simp [hindex, List.getElem?_set_ne (Ne.symm hindex), World.task?, present]
  · simp [hc]

theorem World.task?_call
    {plan : Plan} :
    (w.call plan).task? vm = w.task? vm := by
  by_cases hlt : vm.batch < w.batches.length
  · simp [World.task?, World.call, List.getElem?_append_left hlt]
  · have hnone : w.batches[vm.batch]? = none := List.getElem?_eq_none (Nat.not_lt.mp hlt)
    have hnew : (w.call plan).batches[vm.batch]?.bind (·.tasks[vm.index]?) = none := by
      rw [Option.bind_eq_none_iff]
      intro batch hget
      rcases getElem?_concat_cases hget with habsurd | ⟨_, rfl⟩
      · rw [hnone] at habsurd
        cases habsurd
      · rfl
    rw [World.task?, World.task?, hnew, hnone]
    rfl

end Worlds

section Changes

variable {crates : Crates}
variable {texts : Texts}
variable {s s' : Service}
variable {occurrence : Occurrence}
variable {vm : VmRef}
variable {task' : VmTask}

/-- The task of this VM is among those of the manager. -/
def Manager.Tracks (manager : Manager) (vm : VmRef) : Prop :=
  ∃ vmId, manager.proxyTasks.lookup vmId = some vm

/-- The task is not over. -/
def VmTask.IsOpen (task : VmTask) : Prop :=
  ∀ result, task.phase ≠ .finished result

/-- What a step does to the task of a VM. -/
inductive TaskChange (crates : Crates) (s : Service) (occurrence : Occurrence) (s' : Service)
    (vm : VmRef) : Option VmTask → VmTask → Prop
  | waits
      {task task' : VmTask}
      (phase : task'.phase = task.phase)
      (closed : task.proxyChannel = .closed → task'.proxyChannel = .closed) :
      TaskChange crates s occurrence s' vm (some task) task'
  | steps
      {task task' : VmTask} {sign : VmSign}
      (label : occurrence = .ofVm vm sign)
      (step : VmStep crates task (s.sides vm) sign task' (s'.sides vm)) :
      TaskChange crates s occurrence s' vm (some task) task'
  | aborted
      {task : VmTask}
      (error : JoinError) :
      TaskChange crates s occurrence s' vm (some task) (.finish (.error error))
  | spawned
      (tracks : s'.world.manager.Tracks vm) :
      TaskChange crates s occurrence s' vm none .spawned

/-- The call spawns a task, or changes its start channel only. -/
theorem CallStep.taskChange
    {b index : Nat} {manager manager' : Manager} {batch batch' : Batch} {milestone : Milestone}
    (h : CallStep b manager batch milestone manager' batch')
    (hmanager : s'.world.manager = manager')
    (hget : batch'.tasks[index]? = some task') :
    TaskChange crates s occurrence s' ⟨b, index⟩ batch.tasks[index]? task' := by
  cases h with
  | @registered next phase hnext =>
      rcases getElem?_concat_cases hget with hbefore | ⟨rfl, rfl⟩
      · rw [hbefore]
        exact .waits rfl id
      · rw [List.getElem?_eq_none (Nat.le_refl _)]
        refine .spawned ⟨next.vmId, ?_⟩
        rw [hmanager]
        exact Finmap.lookup_insert _
  | workerFailed | cancelled | privilegesKept =>
      simp only [Batch.fail, Batch.stopCall, List.getElem?_map] at hget
      obtain ⟨task, hbefore, rfl⟩ := Option.map_eq_some_iff.mp hget
      rw [hbefore]
      exact .waits rfl id
  | started phase receiver =>
      rcases getElem?_set_cases hget with ⟨rfl, rfl⟩ | ⟨_, hbefore⟩
      · rw [receiver]
        exact .waits rfl id
      · rw [hbefore]
        exact .waits rfl id
  | workerSpawned | joined | privilegesDropped | returned =>
      rw [show batch.tasks[index]? = some task' from hget]
      exact .waits rfl id

/-- The worker changes the proxy channels only. -/
theorem WorkerStep.taskChange
    {index : Nat} {batch batch' : Batch} {milestone : Milestone}
    (h : WorkerStep crates texts batch milestone batch')
    (hget : batch'.tasks[index]? = some task') :
    TaskChange crates s occurrence s' vm batch.tasks[index]? task' := by
  cases h with
  | networkFailed | proxyFailed | handoverFailed | panicked =>
      simp only [Batch.stopWorker, List.getElem?_map] at hget
      obtain ⟨task, hbefore, rfl⟩ := Option.map_eq_some_iff.mp hget
      rw [hbefore]
      refine .waits rfl fun hclosed => ?_
      simp [hclosed, Oneshot.dropSender]
  | handedOver phase receiver sent =>
      rcases getElem?_set_cases hget with ⟨rfl, rfl⟩ | ⟨_, hbefore⟩
      · rw [receiver]
        refine .waits rfl fun hclosed => ?_
        rw [hclosed] at sent
        cases sent
      · rw [hbefore]
        exact .waits rfl id
  | networkCreated | proxyBuilt | allBuilt | completed =>
      rw [show batch.tasks[index]? = some task' from hget]
      exact .waits rfl id

/-- A call registers the next VM, or leaves the VMs of the manager alone. -/
theorem CallStep.registers_cases
    {b : Nat} {manager manager' : Manager} {batch batch' : Batch} {milestone : Milestone}
    (h : CallStep b manager batch milestone manager' batch') :
    (∃ next,
      batch.call = .registering ∧
      batch.plan.vms[batch.tasks.length]? = some next ∧
      manager' = manager.register next.vmId ⟨b, batch.tasks.length⟩ ∧
      batch' = { batch with tasks := batch.tasks ++ [.spawned] }) ∨
    (manager'.proxyHandles = manager.proxyHandles ∧
      manager'.proxyTasks = manager.proxyTasks ∧
      batch'.tasks.length = batch.tasks.length) := by
  cases h with
  | registered phase next => exact .inl ⟨_, phase, next, rfl, rfl⟩
  | workerFailed | cancelled | privilegesKept => exact .inr ⟨rfl, rfl, List.length_map _⟩
  | started => exact .inr ⟨rfl, rfl, List.length_set⟩
  | workerSpawned | joined | privilegesDropped | returned => exact .inr ⟨rfl, rfl, rfl⟩

theorem WorkerStep.length_tasks_eq
    {batch batch' : Batch} {milestone : Milestone}
    (h : WorkerStep crates texts batch milestone batch') :
    batch'.tasks.length = batch.tasks.length := by
  simpa [Batch.startChannels] using congrArg List.length h.frame.2.2.2

theorem HolderEffect.task?_eq
    {w : World}
    (h : HolderEffect texts s occurrence w) :
    w.task? vm = s.world.task? vm := by
  cases h with
  | called => exact World.task?_call
  | unchanged | reaped | cleared | joined => rfl

/-- Everything a step can do to the task of a VM. -/
theorem ServiceStep.taskChange
    (h : ServiceStep crates texts s occurrence s')
    (hafter : s'.world.task? vm = some task') :
    TaskChange crates s occurrence s' vm (s.world.task? vm) task' := by
  have hidle : s.world.task? vm = some task' →
      TaskChange crates s occurrence s' vm (s.world.task? vm) task' := fun hbefore => by
    rw [hbefore]
    exact .waits rfl id
  have hbatch : ∀ {b : Nat} {batch : Batch}, s.world.batches[b]? = some batch → vm.batch = b →
      s.world.task? vm = batch.tasks[vm.index]? := fun present hb => by
    simp [World.task?, hb, present]
  cases h with
  | holder step =>
      rw [step.effect.2.task?_eq] at hafter
      exact hidle hafter
  | call holder present step free =>
      rw [World.task?_set rfl present] at hafter
      split at hafter
      · next hb =>
          rw [hbatch present hb]
          subst hb
          exact step.taskChange rfl hafter
      · exact hidle hafter
  | worker present step answers =>
      rw [World.task?_set rfl present] at hafter
      split at hafter
      · next hb =>
          rw [hbatch present hb]
          exact step.taskChange hafter
      · exact hidle hafter
  | replaced holder present registering registered tracked spawned held error answers =>
      rw [World.task?_setTask spawned] at hafter
      split at hafter
      · next heq =>
          cases hafter
          rw [heq, spawned]
          exact .aborted error
      · exact hidle hafter
  | @vm other _ _ sign side' spawned step =>
      rw [World.task?_setTask spawned] at hafter
      split at hafter
      · next heq =>
          cases hafter
          subst heq
          rw [spawned]
          exact .steps rfl (by simpa using step)
      · exact hidle hafter
  | requestSent | controlEnded => exact hidle hafter

theorem VmStep.isOpen
    {task : VmTask} {side side' : VmSide} {sign : VmSign}
    (h : VmStep crates task side sign task' side') :
    task.IsOpen := by
  intro result habsurd
  cases h with
  | proxyReceived phase | proxyNeverComes phase | startReceived phase | startNeverComes phase
  | packetHandled phase | commandHandled phase | runEnded phase | cleanedUp phase
  | cleanupLost phase => cases phase.symm.trans habsurd

/-- A task that is not over was not over before the step, or is new. -/
theorem TaskChange.isOpen
    {before : Option VmTask}
    (h : TaskChange crates s occurrence s' vm before task')
    (hopen : task'.IsOpen) :
    s'.world.manager.Tracks vm ∨ ∃ task, before = some task ∧ task.IsOpen := by
  cases h with
  | waits phase closed => exact .inr ⟨_, rfl, fun result => phase ▸ hopen result⟩
  | steps label step => exact .inr ⟨_, rfl, step.isOpen⟩
  | aborted error => exact absurd rfl (hopen _)
  | spawned tracks => exact .inl tracks

/-- A task that is over has no proxy in its channel. -/
def VmTask.IsReleased (task : VmTask) : Prop :=
  ∀ result, task.phase = .finished result → task.proxyChannel = .closed

theorem VmStep.isReleased
    {task : VmTask} {side side' : VmSide} {sign : VmSign}
    (h : VmStep crates task side sign task' side') :
    task'.IsReleased := by
  intro result hfinished
  cases h with
  | proxyNeverComes | cleanedUp | cleanupLost => rfl
  | packetHandled | commandHandled | startReceived | startNeverComes | proxyReceived
  | runEnded => cases hfinished

theorem TaskChange.isReleased
    {before : Option VmTask}
    (h : TaskChange crates s occurrence s' vm before task')
    (hbefore : ∀ task, before = some task → task.IsReleased) :
    task'.IsReleased := by
  cases h with
  | waits phase closed =>
      exact fun result hfinished => closed (hbefore _ rfl result (phase ▸ hfinished))
  | steps label step => exact step.isReleased
  | aborted error => exact fun _ _ => rfl
  | spawned tracks => exact nofun

end Changes

end Softnet
