import Softnet.Lib.Runs
import Softnet.Manager.Validation

/-!
# Initialization is all or nothing

No task of a VM enters `Proxy::run` before every proxy of its batch is built and
handed over and the privileges of the process are dropped; none does in a batch
whose call fails or is cancelled; and one call at most succeeds.

A task enters `Proxy::run` only with a start signal in its channel.  One
invariant of a batch, `Batch.Sound`, says that there is none unless the call is
past its last failure, and that the worker has then succeeded.  What happened
earlier is read from the history: a state that holds now was brought about by a
step, and that step is the milestone.
-/

namespace Softnet

open Transition

section Batches

variable {crates : Crates}
variable {texts : Texts}
variable {b : Nat}
variable {batch batch' : Batch}
variable {milestone : Milestone}

/-! ## One step of a batch -/

/-- The call can no longer fail: the privileges of the process are dropped. -/
def CallPhase.isCommitted : CallPhase → Bool
  | .starting _ | .returned (.ok _) => true
  | .registering | .awaiting | .droppingPrivileges | .returned (.error _) | .cancelled => false

/-- The call is over and did not succeed. -/
def CallPhase.isLost : CallPhase → Bool
  | .returned (.error _) | .cancelled => true
  | .registering | .awaiting | .droppingPrivileges | .starting _ | .returned (.ok _) => false

theorem CallPhase.isCommitted_of_isLost
    {call : CallPhase}
    (h : call.isLost = true) :
    call.isCommitted = false := by
  rcases call with _ | _ | _ | _ | (_ | _) | _ <;> first | rfl | cases h

/-- The start channels of the tasks, in the order of the VMs. -/
def Batch.startChannels (batch : Batch) : List (Oneshot Unit) :=
  batch.tasks.map VmTask.startChannel

/-- A step of any party of batch `b`. -/
inductive BatchStep (crates : Crates) (texts : Texts) (b : Nat) :
    Batch → Milestone → Batch → Prop
  | call
      {batch batch' : Batch} {milestone : Milestone} {manager manager' : Manager}
      (step : CallStep b manager batch milestone manager' batch') :
      BatchStep crates texts b batch milestone batch'
  | worker
      {batch batch' : Batch} {milestone : Milestone}
      (step : WorkerStep crates texts batch milestone batch') :
      BatchStep crates texts b batch milestone batch'
  | task
      {batch : Batch} {milestone : Milestone} {index : Nat} {task task' : VmTask}
      (spawned : batch.tasks[index]? = some task)
      (step : TaskStep crates index task milestone task') :
      BatchStep crates texts b batch milestone
        { batch with tasks := batch.tasks.set index task' }

theorem Batch.startChannels_set
    {tasks : List VmTask} {index : Nat} {task task' : VmTask}
    (hget : tasks[index]? = some task)
    (hsame : task'.startChannel = task.startChannel) :
    (tasks.set index task').map VmTask.startChannel = tasks.map VmTask.startChannel := by
  apply List.ext_getElem?
  intro i
  by_cases hi : index = i
  · subst hi
    have hlt := (List.getElem?_eq_some_iff.mp hget).1
    rw [List.getElem?_map, List.getElem?_map, List.getElem?_set_self hlt, hget]
    exact congrArg some hsame
  · simp [hi]

theorem Batch.startChannels_stopWorker (result : JoinResult) :
    (batch.stopWorker result).startChannels = batch.startChannels := by
  simp [Batch.stopWorker, Batch.startChannels, Function.comp_def]

theorem Batch.sent_not_mem_stopCall
    (call : CallPhase)
    (hquiet : .sent () ∉ batch.startChannels) :
    .sent () ∉ (batch.stopCall call).startChannels := by
  intro hsent
  obtain ⟨task, htask, hdropped⟩ : ∃ task ∈ batch.tasks,
      task.startChannel.dropSender = .sent () := by
    simpa [Batch.stopCall, Batch.startChannels] using hsent
  rw [Oneshot.dropSender_eq_sent_iff] at hdropped
  exact hquiet (List.mem_map.mpr ⟨task, htask, hdropped⟩)

/-- The worker leaves the call and the start signals alone. -/
theorem WorkerStep.frame
    (h : WorkerStep crates texts batch milestone batch') :
    batch.worker.isWorking = true ∧
      batch'.plan = batch.plan ∧
      batch'.call = batch.call ∧
      batch'.startChannels = batch.startChannels := by
  cases h with
  | handedOver phase receiver sent =>
      exact ⟨by simp [phase, Worker.isWorking], rfl, rfl,
        Batch.startChannels_set receiver rfl⟩
  | panicked phase error =>
      exact ⟨phase, rfl, rfl, Batch.startChannels_stopWorker _⟩
  | networkCreated phase | allBuilt phase | proxyBuilt phase | completed phase =>
      exact ⟨by simp [phase, Worker.isWorking], rfl, rfl, rfl⟩
  | networkFailed phase | proxyFailed phase | handoverFailed phase =>
      exact ⟨by simp [phase, Worker.isWorking], rfl, rfl, Batch.startChannels_stopWorker _⟩

/-- A task empties its start channel or leaves it alone. -/
theorem TaskStep.startChannel_eq
    {index : Nat} {task task' : VmTask}
    (h : TaskStep crates index task milestone task') :
    task'.startChannel = task.startChannel ∨ task'.startChannel = .closed := by
  cases h with
  | proxyReceived | served | runEnded => exact .inl rfl
  | proxyNeverComes | startReceived | startNeverComes | cleanedUp | aborted => exact .inr rfl

/-- No task sends a start signal. -/
theorem TaskStep.sent_not_mem
    {index : Nat} {task task' : VmTask} {tasks : List VmTask}
    (h : TaskStep crates index task milestone task')
    (hget : tasks[index]? = some task)
    (hquiet : .sent () ∉ tasks.map VmTask.startChannel) :
    .sent () ∉ (tasks.set index task').map VmTask.startChannel := by
  rcases h.startChannel_eq with hsame | hclosed
  · rwa [Batch.startChannels_set hget hsame]
  · intro hsent
    rw [List.map_set, hclosed] at hsent
    rcases List.mem_or_eq_of_mem_set hsent with hmem | habsurd
    · exact hquiet hmem
    · cases habsurd

/-- A VM task enters `Proxy::run` on a start signal only. -/
theorem BatchStep.start_of_enteredRun
    {index : Nat}
    (h : BatchStep crates texts b batch (.enteredRun index) batch') :
    ∃ task, batch.tasks[index]? = some task ∧ task.startChannel = .sent () := by
  cases h with
  | call step => cases step
  | worker step => cases step
  | task spawned step =>
      cases step with
      | startReceived phase received =>
          exact ⟨_, spawned, Oneshot.eq_sent_of_receive received⟩

/-! ## The invariant of a batch -/

/-- What holds in a batch at every moment. -/
structure Batch.Sound (batch : Batch) : Prop where
  unspawned : batch.call = .registering → batch.worker = .unspawned
  tasks_le : batch.startChannels.length ≤ batch.plan.vms.length
  handing_eq :
    ∀ next proxies, batch.worker = .handing next proxies →
      next + proxies.length = batch.plan.vms.length
  joined :
    batch.call = .droppingPrivileges ∨ batch.call.isCommitted = true →
      batch.worker = .finished (.ok (.ok ()))
  quiet : batch.call.isCommitted = false → .sent () ∉ batch.startChannels
  starting_le : ∀ next, batch.call = .starting next → next ≤ batch.startChannels.length

theorem Batch.sound_new (plan : Plan) : (Batch.new plan).Sound := by
  constructor <;> simp [Batch.new, Batch.startChannels, CallPhase.isCommitted]

theorem WorkerStep.handing_eq
    (h : WorkerStep crates texts batch milestone batch')
    (hbatch : batch.Sound)
    (next : Nat)
    (proxies : List Clocked)
    (hhanding : batch'.worker = .handing next proxies) :
    next + proxies.length = batch'.plan.vms.length := by
  cases h with
  | allBuilt phase complete =>
      cases hhanding
      simpa using complete
  | handedOver phase receiver sent =>
      cases hhanding
      have hbefore := hbatch.handing_eq _ _ phase
      simp only [List.length_cons] at hbefore ⊢
      omega
  | networkCreated | networkFailed | proxyBuilt | proxyFailed | handoverFailed | completed |
      panicked =>
      cases hhanding

theorem WorkerStep.sound
    (h : WorkerStep crates texts batch milestone batch')
    (hbatch : batch.Sound) :
    batch'.Sound := by
  obtain ⟨hworking, hplan, hcall, hstart⟩ := h.frame
  -- A working worker was spawned, and its call is still waiting for it
  have hspawned : batch.call ≠ .registering := by
    intro hregistering
    simp [hbatch.unspawned hregistering, Worker.isWorking] at hworking
  have hwaiting :
      ¬ (batch.call = .droppingPrivileges ∨ batch.call.isCommitted = true) := by
    intro hjoined
    simp [hbatch.joined hjoined, Worker.isWorking] at hworking
  constructor
  · exact fun hregistering => absurd (hcall ▸ hregistering) hspawned
  · rw [hstart, hplan]
    exact hbatch.tasks_le
  · exact h.handing_eq hbatch
  · rw [hcall]
    exact fun hjoined => absurd hjoined hwaiting
  · rw [hcall, hstart]
    exact hbatch.quiet
  · rw [hcall, hstart]
    exact hbatch.starting_le

theorem TaskStep.sound
    {index : Nat} {task task' : VmTask}
    (h : TaskStep crates index task milestone task')
    (hget : batch.tasks[index]? = some task)
    (hbatch : batch.Sound) :
    Batch.Sound { batch with tasks := batch.tasks.set index task' } where
  unspawned := hbatch.unspawned
  tasks_le := by
    simpa [Batch.startChannels] using hbatch.tasks_le
  handing_eq := hbatch.handing_eq
  joined := hbatch.joined
  quiet := fun hcall => h.sent_not_mem hget (hbatch.quiet hcall)
  starting_le := by
    simpa [Batch.startChannels] using hbatch.starting_le

/-- The end of a call that does not succeed. -/
theorem Batch.Sound.stopCall
    {call : CallPhase}
    (hbatch : batch.Sound)
    (hlost : call.isLost = true)
    (hopen : batch.call.isCommitted = false) :
    (batch.stopCall call).Sound := by
  have hquiet := Batch.sent_not_mem_stopCall call (hbatch.quiet hopen)
  have htasks := hbatch.tasks_le
  constructor
  · rintro rfl
    cases hlost
  · simpa [Batch.startChannels, Batch.stopCall] using htasks
  · exact hbatch.handing_eq
  · rintro (rfl | hcommitted)
    · cases hlost
    · exact absurd hcommitted (by simp [Batch.stopCall, CallPhase.isCommitted_of_isLost hlost])
  · exact fun _ => hquiet
  · rintro next rfl
    cases hlost

theorem finishInitialization_eq_ok_iff
    {result : JoinResult} :
    finishInitialization result = .ok () ↔ result = .ok (.ok ()) := by
  rcases result with error | error | ⟨⟩ <;> simp [finishInitialization]

theorem CallStep.sound
    {manager manager' : Manager}
    (h : CallStep b manager batch milestone manager' batch')
    (hbatch : batch.Sound) :
    batch'.Sound := by
  cases h with
  | registered phase next =>
      have hlt := (List.getElem?_eq_some_iff.mp next).1
      have hquiet := hbatch.quiet (by simp [phase, CallPhase.isCommitted])
      constructor
      · exact hbatch.unspawned
      · simpa [Batch.startChannels, Nat.succ_le_iff] using hlt
      · exact hbatch.handing_eq
      · exact hbatch.joined
      · intro _
        simpa [Batch.startChannels, VmTask.spawned] using hquiet
      · simp [phase]
  | workerSpawned phase complete =>
      have hquiet := hbatch.quiet (by simp [phase, CallPhase.isCommitted])
      exact ⟨by simp, hbatch.tasks_le, by simp, by simp [CallPhase.isCommitted],
        fun _ => hquiet, by simp⟩
  | joined phase worker succeeded =>
      rw [finishInitialization_eq_ok_iff.mp succeeded] at worker
      have hquiet := hbatch.quiet (by simp [phase, CallPhase.isCommitted])
      exact ⟨by simp, hbatch.tasks_le, hbatch.handing_eq, fun _ => worker,
        fun _ => hquiet, by simp⟩
  | workerFailed phase worker failed =>
      exact hbatch.stopCall rfl (by simp [phase, CallPhase.isCommitted])
  | cancelled phase =>
      exact hbatch.stopCall rfl (by simp [phase, CallPhase.isCommitted])
  | privilegesDropped phase =>
      exact ⟨by simp, hbatch.tasks_le, hbatch.handing_eq,
        fun _ => hbatch.joined (.inl phase), by simp [CallPhase.isCommitted], by simp⟩
  | privilegesKept phase error =>
      exact hbatch.stopCall rfl (by simp [phase, CallPhase.isCommitted])
  | started phase receiver =>
      have hlt := (List.getElem?_eq_some_iff.mp receiver).1
      have htasks := hbatch.tasks_le
      constructor
      · exact nofun
      · simpa [Batch.start, Batch.startChannels] using htasks
      · exact hbatch.handing_eq
      · exact fun _ => hbatch.joined (.inr (by simp [phase, CallPhase.isCommitted]))
      · exact nofun
      · rintro _ ⟨⟩
        simpa [Batch.start, Batch.startChannels, Nat.succ_le_iff] using hlt
  | returned phase complete =>
      exact ⟨by simp, hbatch.tasks_le, hbatch.handing_eq,
        fun _ => hbatch.joined (.inr (by simp [phase, CallPhase.isCommitted])),
        by simp [CallPhase.isCommitted], by simp⟩

/-- Every step of a batch keeps its invariant. -/
theorem BatchStep.sound
    (h : BatchStep crates texts b batch milestone batch')
    (hbatch : batch.Sound) :
    batch'.Sound := by
  cases h with
  | call step => exact step.sound hbatch
  | worker step => exact step.sound hbatch
  | task spawned step => exact step.sound spawned hbatch

/-! ## What a milestone leaves behind -/

/-- Of `total` proxies the one at `index` is built, and none was lost since. -/
def Worker.HasBuilt (total index : Nat) : Worker → Prop
  | .building _ proxies => index < proxies.length
  | .handing _ _ | .finished (.ok (.ok ())) => index < total
  | .unspawned | .creating | .finished _ => False

/-- Of `total` proxies the one at `index` is handed over, and no handover failed since. -/
def Worker.HasHandedOver (total index : Nat) : Worker → Prop
  | .handing next _ => index < next
  | .finished (.ok (.ok ())) => index < total
  | .unspawned | .creating | .building _ _ | .finished _ => False

/-- The call spawns the worker and leaves it alone from then on. -/
theorem CallStep.frame
    {manager manager' : Manager}
    (h : CallStep b manager batch milestone manager' batch') :
    batch'.plan = batch.plan ∧
      (batch'.worker = batch.worker ∨ batch'.worker = .creating) := by
  cases h with
  | workerSpawned => exact ⟨rfl, .inr rfl⟩
  | registered | joined | workerFailed | cancelled | privilegesDropped | privilegesKept |
      started | returned => exact ⟨rfl, .inl rfl⟩

/-- No step changes what a batch set out to do. -/
theorem BatchStep.plan_eq
    (h : BatchStep crates texts b batch milestone batch') :
    batch'.plan = batch.plan := by
  cases h with
  | call step => exact step.frame.1
  | worker step => exact step.frame.2.1
  | task => rfl

/-- What the call and the tasks bring about is not the work of the worker. -/
theorem BatchStep.worker_cases
    {P : Worker → Prop}
    (h : BatchStep crates texts b batch milestone batch')
    (hcreating : ¬ P .creating)
    (hbefore : ¬ P batch.worker)
    (hafter : P batch'.worker) :
    WorkerStep crates texts batch milestone batch' := by
  cases h with
  | call step =>
      rcases step.frame.2 with hsame | hspawned
      · exact absurd (hsame ▸ hafter) hbefore
      · exact absurd (hspawned ▸ hafter) hcreating
  | worker step => exact step
  | task => exact absurd hafter hbefore

theorem BatchStep.proxyBuilt_of_hasBuilt
    {index : Nat}
    (h : BatchStep crates texts b batch milestone batch')
    (hbefore : ¬ batch.worker.HasBuilt batch.plan.vms.length index)
    (hafter : batch'.worker.HasBuilt batch'.plan.vms.length index) :
    milestone = .proxyBuilt index := by
  rw [h.plan_eq] at hafter
  cases h.worker_cases id hbefore hafter with
  | proxyBuilt phase next built =>
      rw [phase] at hbefore
      simp only [Worker.HasBuilt, List.length_append, List.length_singleton] at hbefore hafter
      obtain rfl : index = _ := Nat.le_antisymm (Nat.lt_succ_iff.mp hafter) (Nat.not_lt.mp hbefore)
      rfl
  | allBuilt phase complete =>
      rw [phase] at hbefore
      exact absurd (complete ▸ hafter) hbefore
  | handedOver phase | completed phase =>
      rw [phase] at hbefore
      exact absurd hafter hbefore
  | networkCreated | networkFailed | proxyFailed | handoverFailed | panicked =>
      simp [Worker.HasBuilt, Batch.stopWorker] at hafter

theorem BatchStep.handedOver_of_hasHandedOver
    {index : Nat}
    (h : BatchStep crates texts b batch milestone batch')
    (hbatch : batch.Sound)
    (hbefore : ¬ batch.worker.HasHandedOver batch.plan.vms.length index)
    (hafter : batch'.worker.HasHandedOver batch'.plan.vms.length index) :
    milestone = .handedOver index := by
  rw [h.plan_eq] at hafter
  cases h.worker_cases id hbefore hafter with
  | handedOver phase receiver sent =>
      rw [phase] at hbefore
      simp only [Worker.HasHandedOver] at hbefore hafter
      obtain rfl : index = _ := Nat.le_antisymm (Nat.lt_succ_iff.mp hafter) (Nat.not_lt.mp hbefore)
      rfl
  | completed phase =>
      -- The list of proxies is empty, so that all of them are handed over
      have htotal := hbatch.handing_eq _ _ phase
      rw [phase] at hbefore
      simp only [Worker.HasHandedOver] at hbefore hafter
      simp only [List.length_nil] at htotal
      omega
  | networkCreated | networkFailed | proxyBuilt | proxyFailed | allBuilt | handoverFailed |
      panicked =>
      simp [Worker.HasHandedOver, Batch.stopWorker] at hafter

/-- The call alone moves its phase. -/
theorem BatchStep.call_cases
    {P : CallPhase → Prop}
    (h : BatchStep crates texts b batch milestone batch')
    (hbefore : ¬ P batch.call)
    (hafter : P batch'.call) :
    ∃ manager manager', CallStep b manager batch milestone manager' batch' := by
  cases h with
  | call step => exact ⟨_, _, step⟩
  | worker step => exact absurd (step.frame.2.2.1 ▸ hafter) hbefore
  | task => exact absurd hafter hbefore

theorem BatchStep.privilegesDropped_of_isCommitted
    (h : BatchStep crates texts b batch milestone batch')
    (hbefore : ¬ batch.call.isCommitted = true)
    (hafter : batch'.call.isCommitted = true) :
    milestone = .privilegesDropped := by
  obtain ⟨_, _, step⟩ := h.call_cases (P := (·.isCommitted = true)) hbefore hafter
  cases step with
  | privilegesDropped => rfl
  | started phase | returned phase => simp [phase, CallPhase.isCommitted] at hbefore
  | registered phase => simp [phase, CallPhase.isCommitted] at hafter
  | workerSpawned | joined | workerFailed | cancelled | privilegesKept =>
      simp [CallPhase.isCommitted, Batch.fail, Batch.stopCall] at hafter

theorem BatchStep.returnedOk_of_returned
    {vms : List InitializedVm}
    (h : BatchStep crates texts b batch milestone batch')
    (hbefore : batch.call ≠ .returned (.ok vms))
    (hafter : batch'.call = .returned (.ok vms)) :
    milestone = .returnedOk vms := by
  obtain ⟨_, _, step⟩ := h.call_cases (P := (· = .returned (.ok vms))) hbefore hafter
  cases step with
  | returned =>
      cases hafter
      rfl
  | registered => exact absurd hafter hbefore
  | workerSpawned | joined | workerFailed | cancelled | privilegesDropped | privilegesKept |
      started => cases hafter

/-- A call that cannot fail any more does not fail. -/
theorem BatchStep.isCommitted
    (h : BatchStep crates texts b batch milestone batch')
    (hcommitted : batch.call.isCommitted = true) :
    batch'.call.isCommitted = true := by
  by_contra hafter
  obtain ⟨_, _, step⟩ :=
    h.call_cases (P := fun call => ¬ call.isCommitted = true) (not_not.mpr hcommitted) hafter
  cases step with
  | started | returned => exact hafter rfl
  | registered phase
  | workerSpawned phase
  | joined phase
  | workerFailed phase
  | cancelled phase
  | privilegesDropped phase
  | privilegesKept phase =>
      simp [phase, CallPhase.isCommitted] at hcommitted

/-- A call that is over without success stays so. -/
theorem BatchStep.isLost
    (h : BatchStep crates texts b batch milestone batch')
    (hlost : batch.call.isLost = true) :
    batch'.call.isLost = true := by
  by_contra hafter
  obtain ⟨_, _, step⟩ :=
    h.call_cases (P := fun call => ¬ call.isLost = true) (not_not.mpr hlost) hafter
  cases step with
  | registered phase
  | workerSpawned phase
  | joined phase
  | workerFailed phase
  | cancelled phase
  | privilegesDropped phase
  | privilegesKept phase
  | started phase
  | returned phase =>
      simp [phase, CallPhase.isLost] at hlost

/-- The call returns an error, or is dropped. -/
def Milestone.IsLoss (milestone : Milestone) : Prop :=
  milestone = .cancelled ∨ ∃ error, milestone = .returnedErr error

theorem BatchStep.isLost_of_isLoss
    (h : BatchStep crates texts b batch milestone batch')
    (hloss : milestone.IsLoss) :
    batch'.call.isLost = true := by
  rcases hloss with rfl | ⟨error, rfl⟩
  · cases h with
    | call step => cases step; rfl
    | worker step => cases step
    | task _ step => cases step
  · cases h with
    | call step => cases step <;> rfl
    | worker step => cases step
    | task _ step => cases step

end Batches

section Worlds

variable {crates : Crates}
variable {texts : Texts}
variable {w w' : World}
variable {b : Nat}
variable {happening : Happening}
variable {milestone : Milestone}
variable {history : List (Step World Happening)}

/-! ## One step of a world -/

theorem getElem?_set_cases
    {T : Type} {list : List T} {i j : Nat} {x y : T}
    (h : (list.set i x)[j]? = some y) :
    (j = i ∧ x = y) ∨ (j ≠ i ∧ list[j]? = some y) := by
  by_cases hj : j = i
  · subst hj
    have hlt : j < list.length := by
      simpa using (List.getElem?_eq_some_iff.mp h).1
    rw [List.getElem?_set_self hlt] at h
    exact .inl ⟨rfl, Option.some.inj h⟩
  · rw [List.getElem?_set_ne (Ne.symm hj)] at h
    exact .inr ⟨hj, h⟩

theorem getElem?_concat_cases
    {T : Type} {list : List T} {j : Nat} {x y : T}
    (h : (list ++ [x])[j]? = some y) :
    list[j]? = some y ∨ (j = list.length ∧ x = y) := by
  rw [List.getElem?_append] at h
  split at h
  · exact .inl h
  · next hle =>
      have hlt := (List.getElem?_eq_some_iff.mp h).1
      simp only [List.length_singleton] at hlt
      have hj : j = list.length := by
        omega
      subst hj
      exact .inr ⟨rfl, by simpa using h⟩

/-- A step leaves the batches alone, adds a new one, or is a step of one of them. -/
theorem WorldStep.batches_cases
    (h : WorldStep crates texts w happening w') :
    (w'.batches = w.batches ∧ ∀ b milestone, happening ≠ .batch b milestone) ∨
      (∃ plan,
        plan.Prepared texts ∧ w'.batches = w.batches ++ [.new plan] ∧ happening = .called) ∨
      ∃ b batch milestone batch',
        w.batches[b]? = some batch ∧
        BatchStep crates texts b batch milestone batch' ∧
        w'.batches = w.batches.set b batch' ∧
        happening = .batch b milestone := by
  cases h with
  | rejected | reaped | handlesCleared | workerJoined => exact .inl ⟨rfl, nofun⟩
  | called free prepared => exact .inr (.inl ⟨_, ⟨_, _, _, _, prepared⟩, rfl, rfl⟩)
  | call holder present step => exact .inr (.inr ⟨_, _, _, _, present, .call step, rfl, rfl⟩)
  | worker present step => exact .inr (.inr ⟨_, _, _, _, present, .worker step, rfl, rfl⟩)
  | task present spawned step =>
      exact .inr (.inr ⟨_, _, _, _, present, .task spawned step, rfl, rfl⟩)

/-- Batch `b` is registered and has the property. -/
def World.Holds (w : World) (b : Nat) (P : Batch → Prop) : Prop :=
  ∃ batch, w.batches[b]? = some batch ∧ P batch

/-- A milestone of batch `b` is a step of that batch. -/
theorem WorldStep.of_milestone
    (h : WorldStep crates texts w (.batch b milestone) w') :
    ∃ batch batch',
      w.batches[b]? = some batch ∧
      w'.batches[b]? = some batch' ∧
      BatchStep crates texts b batch milestone batch' := by
  rcases h.batches_cases with
    ⟨_, hother⟩ | ⟨_, _, _, hcalled⟩ | ⟨c, batch, _, batch', hget, step, heq, hlabel⟩
  · exact absurd rfl (hother b milestone)
  · cases hcalled
  · cases hlabel
    refine ⟨batch, batch', hget, ?_, step⟩
    rw [heq, List.getElem?_set_self (List.getElem?_eq_some_iff.mp hget).1]

/-- A batch has its property already, is new, or comes to it by a step of its own. -/
theorem WorldStep.holds_cases
    {P : Batch → Prop}
    (h : WorldStep crates texts w happening w')
    (hafter : w'.Holds b P) :
    w.Holds b P ∨ (∃ plan, plan.Prepared texts ∧ P (.new plan)) ∨
      ∃ batch milestone batch',
        w.batches[b]? = some batch ∧
        BatchStep crates texts b batch milestone batch' ∧
        P batch' ∧
        happening = .batch b milestone := by
  obtain ⟨batch', hget', hP⟩ := hafter
  rcases h.batches_cases with
    ⟨heq, _⟩ | ⟨plan, hplan, heq, _⟩ | ⟨c, batch, milestone, after, hget, step, heq, hlabel⟩
  · exact .inl ⟨batch', heq ▸ hget', hP⟩
  · rw [heq] at hget'
    rcases getElem?_concat_cases hget' with hsame | ⟨_, rfl⟩
    · exact .inl ⟨batch', hsame, hP⟩
    · exact .inr (.inl ⟨plan, hplan, hP⟩)
  · rw [heq] at hget'
    rcases getElem?_set_cases hget' with ⟨rfl, rfl⟩ | ⟨_, hsame⟩
    · exact .inr (.inr ⟨batch, milestone, after, hget, step, hP, hlabel⟩)
    · exact .inl ⟨batch', hsame, hP⟩

/-- A property that every step of a batch keeps is kept by every step of its world. -/
theorem WorldStep.holds
    {P : Batch → Prop}
    (hkeep :
      ∀ batch milestone batch', BatchStep crates texts b batch milestone batch' →
        P batch → P batch')
    (hbefore : w.Holds b P)
    (h : WorldStep crates texts w happening w') :
    w'.Holds b P := by
  obtain ⟨batch, hget, hP⟩ := hbefore
  have hlt := (List.getElem?_eq_some_iff.mp hget).1
  rcases h.batches_cases with
    ⟨heq, _⟩ | ⟨plan, _, heq, _⟩ | ⟨c, before, _, after, hget', step, heq, _⟩
  · exact ⟨batch, heq ▸ hget, hP⟩
  · refine ⟨batch, ?_, hP⟩
    rw [heq, List.getElem?_append_left hlt, hget]
  · by_cases hc : c = b
    · subst hc
      obtain rfl : before = batch := Option.some.inj (hget'.symm.trans hget)
      refine ⟨after, ?_, hkeep _ _ _ step hP⟩
      rw [heq, List.getElem?_set_self hlt]
    · refine ⟨batch, ?_, hP⟩
      rw [heq, List.getElem?_set_ne hc, hget]

/-- What new batches have, and every step of a batch keeps, is kept for all batches. -/
theorem WorldStep.forall_batches
    {P : Batch → Prop}
    (h : WorldStep crates texts w happening w')
    (hnew : ∀ plan, plan.Prepared texts → P (.new plan))
    (hkeep :
      ∀ b batch milestone batch', BatchStep crates texts b batch milestone batch' →
        P batch → P batch')
    (hbefore : ∀ (b : Nat) (batch : Batch), w.batches[b]? = some batch → P batch)
    (b : Nat)
    (batch' : Batch)
    (hget' : w'.batches[b]? = some batch') :
    P batch' := by
  by_contra hbad
  rcases h.holds_cases (P := fun batch => ¬ P batch) ⟨batch', hget', hbad⟩ with
    ⟨batch, hget, hbad⟩ | ⟨plan, hplan, hbad⟩ | ⟨batch, milestone, after, hget, step, hbad, _⟩
  · exact hbad (hbefore b batch hget)
  · exact hbad (hnew plan hplan)
  · exact hbad (hkeep b batch milestone after step (hbefore b batch hget))

/-! ## The invariant of a world -/

/-- What holds in a world at every moment. -/
structure World.Sound (w : World) : Prop where
  batches : ∀ (b : Nat) (batch : Batch), w.batches[b]? = some batch → batch.Sound
  busy : ∀ b, w.Holds b (·.call.inProgress = true) → w.busy = some b
  initialized : ∀ b, w.Holds b (·.call.isCommitted = true) → w.manager.initialized = true

theorem World.sound_new : World.new.Sound := by
  constructor <;> simp [World.new, World.Holds]

theorem CallStep.initialized
    {manager manager' : Manager} {batch batch' : Batch}
    (h : CallStep b manager batch milestone manager' batch') :
    manager'.initialized = true ↔
      manager.initialized = true ∨ milestone = .privilegesDropped := by
  cases h <;> simp [Manager.register]

/-- A manager stays initialized. -/
theorem WorldStep.initialized
    (h : WorldStep crates texts w happening w')
    (hbefore : w.manager.initialized = true) :
    w'.manager.initialized = true := by
  cases h with
  | call holder present step => exact step.initialized.mpr (.inl hbefore)
  | rejected | called | worker | task | reaped | handlesCleared | workerJoined => exact hbefore

theorem WorldStep.initialized_of_privilegesDropped
    (h : WorldStep crates texts w (.batch b .privilegesDropped) w') :
    w'.manager.initialized = true := by
  cases h with
  | call holder present step => exact step.initialized.mpr (.inr rfl)
  | worker present step => cases step
  | task present spawned step => cases step

/-- Whoever is in the middle of a call holds the manager. -/
theorem WorldStep.busy
    (h : WorldStep crates texts w happening w')
    (hw : w.Sound)
    (hprogress : w'.Holds b (·.call.inProgress = true)) :
    w'.busy = some b := by
  obtain ⟨batch', hget', hcall⟩ := hprogress
  cases h with
  | rejected | reaped | handlesCleared | workerJoined => exact hw.busy b ⟨batch', hget', hcall⟩
  | called free prepared =>
      rcases getElem?_concat_cases hget' with hget | ⟨rfl, _⟩
      · have hheld := hw.busy b ⟨batch', hget, hcall⟩
        rw [free] at hheld
        cases hheld
      · rfl
  | @call c _ after _ _ holder present step =>
      rcases getElem?_set_cases hget' with ⟨rfl, rfl⟩ | ⟨hc, hget⟩
      · simp [hcall]
      · have hheld := hw.busy b ⟨batch', hget, hcall⟩
        exact absurd (Option.some.inj (hheld.symm.trans holder)) hc
  | worker present step =>
      rcases getElem?_set_cases hget' with ⟨rfl, rfl⟩ | ⟨_, hget⟩
      · rw [step.frame.2.2.1] at hcall
        exact hw.busy _ ⟨_, present, hcall⟩
      · exact hw.busy b ⟨batch', hget, hcall⟩
  | task present spawned step =>
      rcases getElem?_set_cases hget' with ⟨rfl, rfl⟩ | ⟨_, hget⟩
      · exact hw.busy _ ⟨_, present, hcall⟩
      · exact hw.busy b ⟨batch', hget, hcall⟩

theorem WorldStep.sound
    (h : WorldStep crates texts w happening w')
    (hw : w.Sound) :
    w'.Sound := by
  refine ⟨?_, fun b => h.busy hw, ?_⟩
  · exact h.forall_batches (fun plan _ => Batch.sound_new plan)
      (fun _ _ _ _ step => step.sound) hw.batches
  · intro b hcommitted
    rcases h.holds_cases hcommitted with
      hbefore | ⟨plan, _, hnew⟩ | ⟨batch, milestone, after, hget, step, hafter, rfl⟩
    · exact h.initialized (hw.initialized b hbefore)
    · cases hnew
    · by_cases hbefore : batch.call.isCommitted = true
      · exact h.initialized (hw.initialized b ⟨batch, hget, hbefore⟩)
      · cases step.privilegesDropped_of_isCommitted hbefore hafter
        exact h.initialized_of_privilegesDropped

/-! ## Runs -/

/-- The steps taken so far by a manager, its callers and all parties of its batches. -/
abbrev WorldRun (crates : Crates) (texts : Texts) (history : List (Step World Happening))
    (w : World) : Prop :=
  Run (WorldStep crates texts) World.new history w

/-- The milestone of batch `b` is in the history. -/
def Logged (history : List (Step World Happening)) (b : Nat) (milestone : Milestone) : Prop :=
  ∃ t ∈ history, t.label = .batch b milestone

theorem WorldRun.sound (run : WorldRun crates texts history w) : w.Sound :=
  run.invariant World.sound_new fun _ _ _ hw h => h.sound hw

/-- What a batch did not begin with, and has now, it came to by the milestone. -/
theorem WorldRun.logged
    {P : Batch → Prop}
    (run : WorldRun crates texts history w)
    (hnew : ∀ plan, ¬ P (.new plan))
    (hstep :
      ∀ batch reached batch', batch.Sound → BatchStep crates texts b batch reached batch' →
        ¬ P batch → P batch' → reached = milestone)
    (hnow : w.Holds b P) :
    Logged history b milestone := by
  obtain ⟨before, t, after, hcut, hlow, hhigh, _⟩ :=
    run.exists_rise (P := (·.Holds b P)) (by simp [World.new, World.Holds]) hnow
  obtain ⟨first, taken, _⟩ := run.split hcut
  have ht : t ∈ history := hcut ▸ List.mem_append_right _ List.mem_cons_self
  rcases taken.holds_cases hhigh with
    habsurd | ⟨plan, _, habsurd⟩ | ⟨batch, reached, batch', hget, step, hP, hlabel⟩
  · exact absurd habsurd hlow
  · exact absurd habsurd (hnew plan)
  · have hsound := (WorldRun.sound first).batches b batch hget
    have hfirst : ¬ P batch := fun hP => hlow ⟨batch, hget, hP⟩
    obtain rfl := hstep batch reached batch' hsound step hfirst hP
    exact ⟨t, ht, hlabel⟩

/-- What a milestone of the history made true of its batch, and no step undoes, still holds. -/
theorem WorldRun.holds_of_logged
    {P : Batch → Prop}
    (run : WorldRun crates texts history w)
    (hlogged : Logged history b milestone)
    (hstep :
      ∀ batch batch', batch.Sound → BatchStep crates texts b batch milestone batch' → P batch')
    (hkeep :
      ∀ batch later batch', BatchStep crates texts b batch later batch' → P batch → P batch') :
    w.Holds b P := by
  obtain ⟨t, ht, hlabel⟩ := hlogged
  obtain ⟨before, after, hcut⟩ := List.append_of_mem ht
  obtain ⟨first, taken, _⟩ := run.split hcut
  rw [hlabel] at taken
  obtain ⟨batch, batch', hget, hget', step⟩ := taken.of_milestone
  have hsound := (WorldRun.sound first).batches b batch hget
  refine run.since (I := (·.Holds b P)) (fun _ _ _ hbefore h => h.holds hkeep hbefore) ht ?_
  exact ⟨batch', hget', hstep batch batch' hsound step⟩

/-- A VM that enters `Proxy::run` belongs to a call that can no longer fail. -/
theorem BatchStep.committed_of_enteredRun
    {batch batch' : Batch} {index : Nat}
    (h : BatchStep crates texts b batch (.enteredRun index) batch')
    (hbatch : batch.Sound) :
    index < batch.plan.vms.length ∧ batch.call.isCommitted = true := by
  obtain ⟨task, hget, hsent⟩ := h.start_of_enteredRun
  have htask : .sent () ∈ batch.startChannels :=
    List.mem_map.mpr ⟨task, List.mem_of_getElem? hget, hsent⟩
  constructor
  · have hlt : index < batch.startChannels.length := by
      simpa [Batch.startChannels] using (List.getElem?_eq_some_iff.mp hget).1
    exact Nat.lt_of_lt_of_le hlt hbatch.tasks_le
  · by_contra hopen
    exact hbatch.quiet (Bool.eq_false_iff.mpr hopen) htask

/-- Everything the start of a VM waits for is in the history. -/
theorem WorldRun.logged_of_isCommitted
    {batch : Batch}
    (run : WorldRun crates texts history w)
    (hget : w.batches[b]? = some batch)
    (hcommitted : batch.call.isCommitted = true) :
    Logged history b .privilegesDropped ∧
      ∀ index < batch.plan.vms.length,
        Logged history b (.proxyBuilt index) ∧ Logged history b (.handedOver index) := by
  have hworker := (run.sound.batches b batch hget).joined (.inr hcommitted)
  refine ⟨?_, fun index hindex => ?_⟩
  · exact run.logged (P := (·.call.isCommitted = true)) (fun _ => nofun)
      (fun _ _ _ _ step => step.privilegesDropped_of_isCommitted) ⟨batch, hget, hcommitted⟩
  · have hbuilt : batch.worker.HasBuilt batch.plan.vms.length index := by
      rw [hworker]
      exact hindex
    have hhanded : batch.worker.HasHandedOver batch.plan.vms.length index := by
      rw [hworker]
      exact hindex
    constructor
    · exact run.logged
        (P := fun batch => batch.worker.HasBuilt batch.plan.vms.length index) (fun _ => id)
        (fun _ _ _ _ step => step.proxyBuilt_of_hasBuilt) ⟨batch, hget, hbuilt⟩
    · exact run.logged
        (P := fun batch => batch.worker.HasHandedOver batch.plan.vms.length index) (fun _ => id)
        (fun _ _ _ hsound step => step.handedOver_of_hasHandedOver hsound)
        ⟨batch, hget, hhanded⟩

/-- A call that sends its start signals has only steps left that succeed. -/
theorem WorldStep.returns_ok
    {batch : Batch} {next : Nat}
    (hbusy : w.busy = some b)
    (hget : w.batches[b]? = some batch)
    (hcall : batch.call = .starting next)
    (hle : next ≤ batch.tasks.length) :
    ∃ later w',
      Run (WorldStep crates texts) w later w' ∧
      Logged later b (.returnedOk batch.plan.initialized) := by
  -- The start signals still to be sent become fewer
  induction hleft : batch.tasks.length - next generalizing w batch next with
  | zero =>
      have hnext : next = batch.tasks.length := by
        omega
      have step : CallStep b w.manager batch _ _ _ := .returned hcall hnext
      exact ⟨_, _, Run.nil.snoc (.call hbusy hget step), _, List.mem_singleton_self _, rfl⟩
  | succ left ih =>
      have hlt : next < batch.tasks.length := by
        omega
      have hlast := (List.getElem?_eq_some_iff.mp hget).1
      have step : CallStep b w.manager batch _ _ _ :=
        .started hcall (List.getElem?_eq_getElem hlt)
      have taken : WorldStep crates texts w _ _ := .call hbusy hget step
      have hlength : (batch.start next batch.tasks[next]).tasks.length = batch.tasks.length :=
        List.length_set
      obtain ⟨later, w', run, t, ht, hlabel⟩ :=
        ih (w := ⟨_, _, _⟩) rfl (List.getElem?_set_self hlast) (rfl : (batch.start next _).call = _)
          (hlength ▸ hlt) (by omega)
      exact ⟨_, w', (Run.nil.snoc taken).append run, t, List.mem_append_right _ ht, hlabel⟩

/-! ## One success at most -/

/-- No call is in progress, and none will get past its validation. -/
def World.Settled (w : World) : Prop :=
  w.busy = none ∧ w.manager.initialized = true

/-- An initialized manager rejects every request. -/
theorem Manager.prepare_of_initialized
    {manager : Manager}
    (h : manager.initialized = true)
    (surroundings : Surroundings)
    (netType : NetType)
    (vms : List VmConfig) :
    manager.prepare texts surroundings netType vms =
      .error (.rejected ["Softnet is already initialized"]) := by
  rw [Manager.prepare_eq, if_pos h]

theorem WorldStep.settled
    (h : WorldStep crates texts w happening w')
    (hbefore : w.Settled) :
    w'.Settled := by
  cases h with
  | called free prepared =>
      rw [Manager.prepare_of_initialized hbefore.2] at prepared
      cases prepared
  | call holder =>
      rw [hbefore.1] at holder
      cases holder
  | rejected | worker | task | reaped | handlesCleared | workerJoined => exact hbefore

theorem WorldStep.settled_of_returnedOk
    {vms : List InitializedVm}
    (h : WorldStep crates texts w (.batch b (.returnedOk vms)) w')
    (hw : w.Sound) :
    ¬ w.Settled ∧ w'.Settled := by
  cases h with
  | call holder present step =>
      constructor
      · intro hsettled
        rw [hsettled.1] at holder
        cases holder
      · cases step with
        | returned phase complete =>
            exact ⟨rfl, hw.initialized b ⟨_, present, by simp [phase, CallPhase.isCommitted]⟩⟩
  | worker present step => cases step
  | task present spawned step => cases step

/-- The step in which a call returns `Ok`. -/
def Happening.isSuccess : Happening → Bool
  | .batch _ (.returnedOk _) => true
  | .batch _ _ | .rejected _ | .called | .housekeeping => false

theorem Happening.eq_of_isSuccess
    (h : happening.isSuccess = true) :
    ∃ b vms, happening = .batch b (.returnedOk vms) := by
  cases happening with
  | batch b milestone => cases milestone <;> simp_all [Happening.isSuccess]
  | rejected | called | housekeeping => cases h

theorem WorldRun.countP_isSuccess_le_one
    (run : WorldRun crates texts history w) :
    history.countP (·.label.isSuccess) ≤ 1 := by
  refine run.countP_le_one (A := World.Settled) World.sound_new
    (fun _ _ _ hw h => h.sound hw) (fun _ _ _ hsettled h => h.settled hsettled) ?_
  rintro ⟨_, happening, _⟩ hp hw taken
  obtain ⟨b, vms, rfl⟩ := Happening.eq_of_isSuccess hp
  exact taken.settled_of_returnedOk hw

/-! ## All or nothing -/

/-- A call in which a VM entered `Proxy::run` has succeeded, or has only its success ahead. -/
theorem WorldRun.succeeds_of_isCommitted
    (run : WorldRun crates texts history w)
    (hcommitted : w.Holds b (·.call.isCommitted = true)) :
    (∃ vms, Logged history b (.returnedOk vms)) ∨
      w.busy = some b ∧
      ∃ later w' vms,
        Run (WorldStep crates texts) w later w' ∧ Logged later b (.returnedOk vms) := by
  obtain ⟨batch, hget, hcommitted⟩ := hcommitted
  have hsound := run.sound.batches b batch hget
  cases hcall : batch.call with
  | starting next =>
      have hbusy := run.sound.busy b ⟨batch, hget, by simp [hcall, CallPhase.inProgress]⟩
      have hle : next ≤ batch.tasks.length := by
        simpa [Batch.startChannels] using hsound.starting_le next hcall
      obtain ⟨later, w', more, hlogged⟩ := WorldStep.returns_ok hbusy hget hcall hle
      exact .inr ⟨hbusy, later, w', _, more, hlogged⟩
  | returned result =>
      cases result with
      | ok vms =>
          refine .inl ⟨vms, run.logged (P := (·.call = .returned (.ok vms))) (fun _ => nofun) ?_
            ⟨batch, hget, hcall⟩⟩
          exact fun _ _ _ _ step => step.returnedOk_of_returned
      | error error => simp [hcall, CallPhase.isCommitted] at hcommitted
  | registering | awaiting | droppingPrivileges | cancelled =>
      simp [hcall, CallPhase.isCommitted] at hcommitted

/--
Initialization is all or nothing.  A VM enters `Proxy::run` only after all proxies of its
batch were built and handed over and the privileges were dropped.  The call of its
batch does not fail and is not cancelled, before or after: it returns `Ok`, or has nothing
but that left to do.  A rejected request leaves no trace, and one call at most returns `Ok`.
-/
theorem initialization_all_or_nothing
    (run : WorldRun crates texts history w) :
    (∀ before t after b index,
      history = before ++ t :: after →
      t.label = .batch b (.enteredRun index) →
      ∃ batch,
        t.pre.batches[b]? = some batch ∧
        index < batch.plan.vms.length ∧
        Logged before b .privilegesDropped ∧
        ∀ other < batch.plan.vms.length,
          Logged before b (.proxyBuilt other) ∧ Logged before b (.handedOver other)) ∧
    (∀ b index, Logged history b (.enteredRun index) →
      (∀ milestone, Logged history b milestone → ¬ milestone.IsLoss) ∧
      ((∃ vms, Logged history b (.returnedOk vms)) ∨
        w.busy = some b ∧
        ∃ later w' vms,
          Run (WorldStep crates texts) w later w' ∧ Logged later b (.returnedOk vms))) ∧
    (∀ t ∈ history, ∀ error, t.label = .rejected error → t.post = t.pre) ∧
    history.countP (·.label.isSuccess) ≤ 1 := by
  refine ⟨?_, ?_, ?_, run.countP_isSuccess_le_one⟩
  · intro before t after b index hcut hlabel
    obtain ⟨first, taken, _⟩ := run.split hcut
    rw [hlabel] at taken
    obtain ⟨batch, _, hget, _, step⟩ := taken.of_milestone
    have hsound := (WorldRun.sound first).batches b batch hget
    obtain ⟨hindex, hcommitted⟩ := step.committed_of_enteredRun hsound
    obtain ⟨hprivileges, hproxies⟩ := WorldRun.logged_of_isCommitted first hget hcommitted
    exact ⟨batch, hget, hindex, hprivileges, hproxies⟩
  · intro b index hentered
    have hcommitted : w.Holds b (·.call.isCommitted = true) :=
      run.holds_of_logged hentered
        (fun _ _ hsound step => step.isCommitted (step.committed_of_enteredRun hsound).2)
        (fun _ _ _ step => step.isCommitted)
    refine ⟨?_, run.succeeds_of_isCommitted hcommitted⟩
    intro milestone hlogged hloss
    obtain ⟨batch, hget, hlost⟩ : w.Holds b (·.call.isLost = true) :=
      run.holds_of_logged hlogged (fun _ _ _ step => step.isLost_of_isLoss hloss)
        (fun _ _ _ step => step.isLost)
    obtain ⟨batch', hget', hcommitted⟩ := hcommitted
    obtain rfl := Option.some.inj (hget.symm.trans hget')
    rw [CallPhase.isCommitted_of_isLost hlost] at hcommitted
    cases hcommitted
  · intro t ht error hlabel
    have taken := run.step_of_mem ht
    rw [hlabel] at taken
    generalize t.pre = w₀, t.post = w₁ at taken ⊢
    cases taken
    rfl

end Worlds

section Deployment

/-! ## A small deployment -/

/-- Identifiers are not printed. -/
def plainTexts : Texts :=
  ⟨fun _ => "", fun _ => ""⟩

/-- The system grants whatever a request needs. -/
def grantingSurroundings : Surroundings where
  findAvailableSubnet := fun _ => .ok ⟨0x0a000000, 29, by decide⟩
  vmNew := fun _ => .ok ()
  nowV7 := fun index => BitVec.ofNat 128 index
  dnsServerNew := fun _ => .ok ⟨fun _ _ _ _ _ => .ok none⟩

def grantingVmnet : Vmnet where
  configuration := fun _ => .ok ()
  setIpv4Subnet := fun _ _ => .ok ()
  addDhcpReservation := fun _ _ => .ok ()
  addPortForwardingRule := fun _ _ => .ok ()
  network := .ok ()

/-- A VM without a policy of its own. -/
def plainVm : VmConfig :=
  ⟨0x020000000002, none, [], [], []⟩

def plainPlan : Plan :=
  ⟨.nat, ⟨0x0a000000, 29, by decide⟩, [⟨plainVm, 0x0a000002, 0⟩], none⟩

theorem plainPlan_prepared :
    Manager.new.prepare plainTexts grantingSurroundings .nat [plainVm] = .ok plainPlan := rfl

theorem plainPlan_network :
    Network.new plainCrates plainTexts grantingVmnet .nat plainPlan.subnet
      plainPlan.reservations plainPlan.portForwardings =
        .ok ⟨0x0a000001, [0x0a000002]⟩ := rfl

theorem plainPlan_proxy :
    ConfiguredVm.newProxy plainCrates ⟨plainVm, 0x0a000002, 0⟩ plainPlan
      ⟨0x0a000001, [0x0a000002]⟩ .insertion (.ok 1514) 0 = .ok (createProxy [] []) := rfl

/-! ### Two VMs -/

/-- Two VMs, of which the first may ask the other one. -/
def pairVms : List VmConfig :=
  [{ plainVm with allow := [.stateful .outbound .peers .unrestricted] },
    { plainVm with vmMacAddress := 0x020000000003 }]

def pairPlan : Plan where
  netType := .nat
  subnet := plainPlan.subnet
  vms :=
    [⟨{ plainVm with allow := [.stateful .outbound .peers .unrestricted] }, 0x0a000002, 0⟩,
      ⟨{ plainVm with vmMacAddress := 0x020000000003 }, 0x0a000003, 1⟩]
  dnsServer := none

theorem pairPlan_prepared (texts : Texts) :
    Manager.new.prepare texts grantingSurroundings .nat pairVms = .ok pairPlan := rfl

theorem pairPlan_network (crates : Crates) (texts : Texts) :
    Network.new crates texts grantingVmnet .nat pairPlan.subnet
      pairPlan.reservations pairPlan.portForwardings =
        .ok ⟨0x0a000001, [0x0a000002, 0x0a000003]⟩ := rfl

/-- The proxy of one of the two VMs. -/
def pairProxy (crates : Crates) (vm : ConfiguredVm) : Proxy :=
  let peerIps := [0x0a000002, 0x0a000003].filter (fun peerIp => peerIp ≠ vm.vmIp)
  let allow := normalizeRules crates vm.config.allow
  let rules := Rules.new .insertion 0x0a000001 peerIps allow []
  { host := ⟨vm.vmIp, 0x0a000001, 1514⟩
    vmMacAddress := vm.config.vmMacAddress
    peerIps := peerIps
    dnsServer := none
    rules := rules
    allow := allow
    block := []
    flows := Proxy.freshFlows rules 0 }

theorem pairPlan_proxy
    (crates : Crates)
    (vm : ConfiguredVm)
    (unblocked : vm.config.block = []) :
    vm.newProxy crates pairPlan ⟨0x0a000001, [0x0a000002, 0x0a000003]⟩ .insertion (.ok 1514) 0 =
      .ok (pairProxy crates vm) := by
  rw [ConfiguredVm.newProxy, unblocked]
  rfl

/-- The second of the two VMs enters its loop. -/
theorem exists_started_run :
    ∃ history w,
      WorldRun plainCrates plainTexts history w ∧
      Logged history 0 (.enteredRun 1) := by
  have called : WorldRun plainCrates plainTexts _ _ :=
    Run.nil.snoc (.called rfl (pairPlan_prepared _))
  have registered := called.snoc (.call rfl rfl (.registered rfl rfl))
  have registered' := registered.snoc (.call rfl rfl (.registered rfl rfl))
  have spawned := registered'.snoc (.call rfl rfl (.workerSpawned rfl rfl))
  have created := spawned.snoc (.worker (b := 0) rfl (.networkCreated rfl (pairPlan_network _ _)))
  have built := created.snoc (.worker (b := 0) rfl (.proxyBuilt rfl rfl (pairPlan_proxy _ _ rfl)))
  have built' := built.snoc (.worker (b := 0) rfl (.proxyBuilt rfl rfl (pairPlan_proxy _ _ rfl)))
  have complete := built'.snoc (.worker (b := 0) rfl (.allBuilt rfl rfl))
  have handed := complete.snoc (.worker (b := 0) rfl (.handedOver rfl rfl rfl))
  have handed' := handed.snoc (.worker (b := 0) rfl (.handedOver rfl rfl rfl))
  have finished := handed'.snoc (.worker (b := 0) rfl (.completed rfl))
  have joined := finished.snoc (.call rfl rfl (.joined rfl rfl rfl))
  have dropped := joined.snoc (.call rfl rfl (.privilegesDropped rfl))
  have received := dropped.snoc
    (.task (b := 0) rfl rfl (.proxyReceived rfl rfl : TaskStep _ 1 _ _ _))
  have started := received.snoc (.call rfl rfl (.started rfl rfl))
  have started' := started.snoc (.call rfl rfl (.started rfl rfl))
  have entered := started'.snoc
    (.task (b := 0) rfl rfl (.startReceived rfl rfl : TaskStep _ 1 _ _ _))
  exact ⟨_, _, entered, _, List.mem_append_right _ (List.mem_singleton_self _), rfl⟩

/-- That VM waited for both proxies and for the privileges. -/
theorem initialization_all_or_nothing_started :
    ∃ history w,
      WorldRun plainCrates plainTexts history w ∧
      (∃ before t after,
        history = before ++ t :: after ∧
        t.label = .batch 0 (.enteredRun 1) ∧
        Logged before 0 (.proxyBuilt 0) ∧
        Logged before 0 (.proxyBuilt 1) ∧
        Logged before 0 .privilegesDropped) ∧
      history.countP (·.label.isSuccess) ≤ 1 := by
  obtain ⟨history, w, run, t, ht, hlabel⟩ := exists_started_run
  obtain ⟨before, after, hcut⟩ := List.append_of_mem ht
  obtain ⟨hearlier, _, _, honce⟩ := initialization_all_or_nothing run
  obtain ⟨batch, _, hindex, hprivileges, hall⟩ := hearlier before t after 0 1 hcut hlabel
  exact ⟨history, w, run, ⟨before, t, after, hcut, hlabel, (hall 0 (by omega)).1,
    (hall 1 hindex).1, hprivileges⟩, honce⟩

end Deployment

end Softnet
