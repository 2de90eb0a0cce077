import Softnet.Lib.Accounts
import Softnet.Manager.Routing
import Softnet.Manager.Shutdown

/-!
# A shutdown comes to its end

`shutdown` (`lib/manager.rs`) joins the control task, a worker that a cancelled call left
behind, and every VM task.  A VM task may be waiting for its proxy or for its start signal,
and it goes on only when somebody sends, or when the sender is dropped.

`Batch.Fed` says who still holds the sender of a channel that somebody waits on.  By the time
that the tasks are joined the worker and the call are over, so that no channel is without an
answer, and the command channels are closed, so that every VM stops forwarding
(`Service.CommandsOver`).  Every step of anybody lowers what is left to do (`Service.remaining`),
the forwarding of packets apart.
-/

namespace Softnet

open Transition

section Senders

variable {crates : Crates}
variable {texts : Texts}
variable {b : Nat}
variable {batch batch' : Batch}
variable {milestone : Milestone}

/-! ## Who holds the senders -/

/-- The worker has a sender for the proxy of the VM at this position, or will be given it. -/
def Worker.HoldsSender (index : Nat) : Worker → Prop
  | .unspawned | .creating | .building _ _ => True
  | .handing next _ => next ≤ index
  | .finished _ => False

/-- The call holds the sender of the start signal of the VM at this position. -/
def CallPhase.HoldsSender (index : Nat) : CallPhase → Prop
  | .registering | .awaiting | .droppingPrivileges => True
  | .starting next => next ≤ index
  | .returned _ | .cancelled => False

/-- A task that waits on a channel has not closed it. -/
def VmTask.Listens (task : VmTask) : Prop :=
  match task.phase with
  | .awaitingProxy => task.proxyChannel ≠ .closed ∧ task.startChannel ≠ .closed
  | .awaitingStart _ => task.startChannel ≠ .closed
  | .forwarding _ | .cleaning _ _ | .finished _ => True

/-- What holds of the task at this position of a batch. -/
structure Batch.Feeds (batch : Batch) (index : Nat) (task : VmTask) : Prop where
  proxy : task.proxyChannel = .waiting → batch.worker.HoldsSender index
  start : task.startChannel = .waiting → batch.call.HoldsSender index
  listens : task.Listens

/-- Whoever waits in a batch waits for somebody. -/
structure Batch.Fed (batch : Batch) : Prop where
  registering : batch.worker = .unspawned → batch.call = .registering
  complete : batch.worker ≠ .unspawned → batch.tasks.length = batch.plan.vms.length
  building_le :
    ∀ network proxies, batch.worker = .building network proxies →
      proxies.length ≤ batch.plan.vms.length
  tasks : ∀ index task, batch.tasks[index]? = some task → batch.Feeds index task

theorem Batch.fed_new (plan : Plan) : (Batch.new plan).Fed := by
  constructor <;> simp [Batch.new]

theorem VmTask.listens_spawned : VmTask.spawned.Listens := by
  simp [VmTask.Listens, VmTask.spawned]

/-! ### Steps of the call -/

/-- The call goes on and keeps the senders that somebody waits for. -/
theorem Batch.Fed.setCall
    {call : CallPhase}
    (hbatch : batch.Fed)
    (hspawned : batch.call ≠ .registering)
    (hcall :
      ∀ index < batch.tasks.length, batch.call.HoldsSender index → call.HoldsSender index) :
    Batch.Fed { batch with call := call } where
  registering := fun hunspawned => absurd (hbatch.registering hunspawned) hspawned
  complete := hbatch.complete
  building_le := hbatch.building_le
  tasks := fun index task hget =>
    have hfeeds := hbatch.tasks index task hget
    have hlt := (List.getElem?_eq_some_iff.mp hget).1
    ⟨hfeeds.proxy, fun hwaiting => hcall index hlt (hfeeds.start hwaiting), hfeeds.listens⟩

theorem VmTask.Listens.setStart
    {task : VmTask} {channel : Oneshot Unit}
    (h : task.Listens)
    (hchannel : channel = .closed ↔ task.startChannel = .closed) :
    VmTask.Listens { task with startChannel := channel } := by
  obtain ⟨proxyChannel, startChannel, phase⟩ := task
  cases phase with
  | awaitingProxy => exact ⟨h.1, fun hclosed => h.2 (hchannel.mp hclosed)⟩
  | awaitingStart => exact fun hclosed => h (hchannel.mp hclosed)
  | forwarding | cleaning | finished => trivial

/-- The end of a call drops its senders. -/
theorem Batch.Fed.stopCall
    (hbatch : batch.Fed)
    (hspawned : batch.call ≠ .registering)
    (call : CallPhase) :
    (batch.stopCall call).Fed where
  registering := fun hunspawned => absurd (hbatch.registering hunspawned) hspawned
  complete := fun hworker => by simpa [Batch.stopCall] using hbatch.complete hworker
  building_le := hbatch.building_le
  tasks := by
    intro index task' hget
    simp only [Batch.stopCall, List.getElem?_map] at hget
    obtain ⟨task, hbefore, rfl⟩ := Option.map_eq_some_iff.mp hget
    have hfeeds := hbatch.tasks index task hbefore
    exact ⟨hfeeds.proxy, fun hwaiting => absurd hwaiting (Oneshot.dropSender_ne_waiting _),
      hfeeds.listens.setStart Oneshot.dropSender_eq_closed_iff⟩

theorem Batch.Fed.start
    {next : Nat} {task : VmTask}
    (hbatch : batch.Fed)
    (phase : batch.call = .starting next)
    (receiver : batch.tasks[next]? = some task) :
    (batch.start next task).Fed where
  registering := fun hunspawned => absurd (hbatch.registering hunspawned) (by simp [phase])
  complete := fun hworker => by simpa [Batch.start] using hbatch.complete hworker
  building_le := hbatch.building_le
  tasks := by
    intro index task' hget
    rcases getElem?_set_cases hget with ⟨rfl, rfl⟩ | ⟨hne, hbefore⟩
    · have hfeeds := hbatch.tasks _ _ receiver
      exact ⟨hfeeds.proxy, fun hwaiting => absurd hwaiting (Oneshot.afterSend_ne_waiting _ _),
        hfeeds.listens.setStart Oneshot.afterSend_eq_closed_iff⟩
    · have hfeeds := hbatch.tasks index task' hbefore
      refine ⟨hfeeds.proxy, fun hwaiting => ?_, hfeeds.listens⟩
      have hle : next ≤ index := by
        simpa only [phase, CallPhase.HoldsSender] using hfeeds.start hwaiting
      exact Nat.lt_of_le_of_ne hle (Ne.symm hne)

theorem CallStep.fed
    {manager manager' : Manager}
    (h : CallStep b manager batch milestone manager' batch')
    (hsound : batch.Sound)
    (hbatch : batch.Fed) :
    batch'.Fed := by
  cases h with
  | registered phase next =>
      have hunspawned := hsound.unspawned phase
      refine ⟨fun _ => phase, fun habsurd => absurd hunspawned habsurd, hbatch.building_le, ?_⟩
      intro index task hget
      rcases getElem?_concat_cases hget with hbefore | ⟨_, rfl⟩
      · obtain ⟨hproxy, hstart, hlistens⟩ := hbatch.tasks index task hbefore
        exact ⟨hproxy, hstart, hlistens⟩
      · exact ⟨fun _ => by simp [hunspawned, Worker.HoldsSender],
          fun _ => by simp [phase, CallPhase.HoldsSender], VmTask.listens_spawned⟩
  | workerSpawned phase complete =>
      refine ⟨by simp, fun _ => complete, by simp, fun index task hget => ?_⟩
      exact ⟨fun _ => trivial, fun _ => trivial, (hbatch.tasks index task hget).listens⟩
  | joined phase => exact hbatch.setCall (by simp [phase]) fun _ _ _ => trivial
  | privilegesDropped phase =>
      exact hbatch.setCall (by simp [phase]) fun index _ _ => Nat.zero_le index
  | workerFailed phase | cancelled phase | privilegesKept phase =>
      exact hbatch.stopCall (by simp [phase]) _
  | started phase receiver => exact hbatch.start phase receiver
  | returned phase complete =>
      refine hbatch.setCall (by simp [phase]) fun index hlt hholds => ?_
      simp only [phase, CallPhase.HoldsSender, complete] at hholds
      exact absurd hlt (Nat.not_lt.mpr hholds)

/-! ### Steps of the worker -/

/-- The worker goes on and keeps the senders that somebody waits for. -/
theorem Batch.Fed.setWorker
    {worker : Worker}
    (hbatch : batch.Fed)
    (hworking : batch.worker.isWorking = true)
    (hspawned : worker ≠ .unspawned)
    (hle :
      ∀ network proxies, worker = .building network proxies →
        proxies.length ≤ batch.plan.vms.length)
    (hsender :
      ∀ index < batch.tasks.length, batch.worker.HoldsSender index → worker.HoldsSender index) :
    Batch.Fed { batch with worker := worker } where
  registering := fun hunspawned => absurd hunspawned hspawned
  complete := fun _ => hbatch.complete fun hunspawned => by
    simp [hunspawned, Worker.isWorking] at hworking
  building_le := hle
  tasks := fun index task hget =>
    have hfeeds := hbatch.tasks index task hget
    have hlt := (List.getElem?_eq_some_iff.mp hget).1
    ⟨fun hwaiting => hsender index hlt (hfeeds.proxy hwaiting), hfeeds.start, hfeeds.listens⟩

theorem VmTask.Listens.setProxy
    {task : VmTask} {channel : Oneshot Clocked}
    (h : task.Listens)
    (hchannel : channel = .closed → task.proxyChannel = .closed) :
    VmTask.Listens { task with proxyChannel := channel } := by
  obtain ⟨proxyChannel, startChannel, phase⟩ := task
  cases phase with
  | awaitingProxy => exact ⟨fun hclosed => h.1 (hchannel hclosed), h.2⟩
  | awaitingStart => exact h
  | forwarding | cleaning | finished => trivial

/-- The end of the worker drops its senders. -/
theorem Batch.Fed.stopWorker
    (hbatch : batch.Fed)
    (hworking : batch.worker.isWorking = true)
    (result : JoinResult) :
    (batch.stopWorker result).Fed where
  registering := nofun
  complete := fun _ => by
    have hspawned : batch.worker ≠ .unspawned := fun hunspawned => by
      simp [hunspawned, Worker.isWorking] at hworking
    simpa [Batch.stopWorker] using hbatch.complete hspawned
  building_le := nofun
  tasks := by
    intro index task' hget
    simp only [Batch.stopWorker, List.getElem?_map] at hget
    obtain ⟨task, hbefore, rfl⟩ := Option.map_eq_some_iff.mp hget
    have hfeeds := hbatch.tasks index task hbefore
    exact ⟨fun hwaiting => absurd hwaiting (Oneshot.dropSender_ne_waiting _), hfeeds.start,
      hfeeds.listens.setProxy Oneshot.dropSender_eq_closed_iff.mp⟩

theorem Batch.Fed.handOver
    {next : Nat} {proxy : Clocked} {proxies : List Clocked} {task : VmTask}
    {channel : Oneshot Clocked}
    (hbatch : batch.Fed)
    (phase : batch.worker = .handing next (proxy :: proxies))
    (receiver : batch.tasks[next]? = some task)
    (sent : task.proxyChannel.send proxy = .ok channel) :
    Batch.Fed
      { batch with
        worker := .handing (next + 1) proxies
        tasks := batch.tasks.set next { task with proxyChannel := channel } } where
  registering := nofun
  complete := fun _ => by simpa using hbatch.complete (by simp [phase])
  building_le := nofun
  tasks := by
    intro index task' hget
    have hsent := Oneshot.eq_sent_of_send sent
    rcases getElem?_set_cases hget with ⟨rfl, rfl⟩ | ⟨hne, hbefore⟩
    · have hfeeds := hbatch.tasks _ _ receiver
      exact ⟨by simp [hsent], hfeeds.start, hfeeds.listens.setProxy (by simp [hsent])⟩
    · have hfeeds := hbatch.tasks index task' hbefore
      refine ⟨fun hwaiting => ?_, hfeeds.start, hfeeds.listens⟩
      have hle : next ≤ index := by
        simpa only [phase, Worker.HoldsSender] using hfeeds.proxy hwaiting
      exact Nat.lt_of_le_of_ne hle (Ne.symm hne)

theorem WorkerStep.fed
    (h : WorkerStep crates texts batch milestone batch')
    (hsound : batch.Sound)
    (hbatch : batch.Fed) :
    batch'.Fed := by
  have hworking := h.frame.1
  cases h with
  | networkCreated phase =>
      exact hbatch.setWorker hworking (by simp) (by simp) fun _ _ _ => trivial
  | proxyBuilt phase next =>
      have hlt := (List.getElem?_eq_some_iff.mp next).1
      refine hbatch.setWorker hworking (by simp) ?_ fun _ _ _ => trivial
      rintro _ _ ⟨⟩
      simpa [Nat.succ_le_iff] using hlt
  | allBuilt phase =>
      exact hbatch.setWorker hworking (by simp) (by simp) fun index _ _ => Nat.zero_le index
  | handedOver phase receiver sent => exact hbatch.handOver phase receiver sent
  | @completed next phase =>
      -- All proxies are handed over, so that nobody waits for one
      refine hbatch.setWorker hworking (by simp) (by simp) fun index hlt hholds => ?_
      have hnext : next = batch.tasks.length := by
        rw [hbatch.complete (by simp [phase]), ← hsound.handing_eq _ _ phase]
        rfl
      simp only [phase, Worker.HoldsSender] at hholds
      omega
  | networkFailed | proxyFailed | handoverFailed | panicked => exact hbatch.stopWorker hworking _

/-! ### Steps of the tasks -/

/-- A task closes channels only when it is done with them. -/
theorem TaskStep.listens
    {index : Nat} {task task' : VmTask}
    (h : TaskStep crates index task milestone task')
    (hlistens : task.Listens) :
    (task'.proxyChannel = .waiting → task.proxyChannel = .waiting) ∧
      (task'.startChannel = .waiting → task.startChannel = .waiting) ∧
      task'.Listens := by
  cases h with
  | proxyReceived phase =>
      simp only [VmTask.Listens, phase] at hlistens
      exact ⟨nofun, id, hlistens.2⟩
  | startReceived | startNeverComes => exact ⟨id, nofun, trivial⟩
  | served | runEnded => exact ⟨id, id, trivial⟩
  | proxyNeverComes | cleanedUp | aborted => exact ⟨nofun, nofun, trivial⟩

theorem TaskStep.fed
    {index : Nat} {task task' : VmTask}
    (h : TaskStep crates index task milestone task')
    (hget : batch.tasks[index]? = some task)
    (hbatch : batch.Fed) :
    Batch.Fed { batch with tasks := batch.tasks.set index task' } where
  registering := hbatch.registering
  complete := fun hworker => by simpa using hbatch.complete hworker
  building_le := hbatch.building_le
  tasks := by
    intro other found hother
    rcases getElem?_set_cases hother with ⟨rfl, rfl⟩ | ⟨_, hbefore⟩
    · obtain ⟨hproxy, hstart, hlistens⟩ := hbatch.tasks _ _ hget
      obtain ⟨hproxy', hstart', hlistens'⟩ := h.listens hlistens
      exact ⟨fun hwaiting => hproxy (hproxy' hwaiting),
        fun hwaiting => hstart (hstart' hwaiting), hlistens'⟩
    · obtain ⟨hproxy, hstart, hlistens⟩ := hbatch.tasks other found hbefore
      exact ⟨hproxy, hstart, hlistens⟩

theorem BatchStep.fed
    (h : BatchStep crates texts b batch milestone batch')
    (hbatch : batch.Sound ∧ batch.Fed) :
    batch'.Sound ∧ batch'.Fed := by
  refine ⟨h.sound hbatch.1, ?_⟩
  cases h with
  | call step => exact step.fed hbatch.1 hbatch.2
  | worker step => exact step.fed hbatch.1 hbatch.2
  | task spawned step => exact step.fed spawned hbatch.2

end Senders

section Worlds

variable {crates : Crates}
variable {texts : Texts}
variable {w w' : World}
variable {happening : Happening}

/-! ### Steps of a world -/

theorem BatchStep.spawned
    {b : Nat} {batch batch' : Batch} {milestone : Milestone}
    (h : BatchStep crates texts b batch milestone batch')
    (hspawned : batch.worker ≠ .unspawned) :
    batch'.worker ≠ .unspawned := by
  cases h with
  | call step =>
      cases step with
      | workerSpawned => simp
      | registered | joined | workerFailed | cancelled | privilegesDropped | privilegesKept
      | started | returned => exact hspawned
  | worker step => cases step <;> simp [Batch.stopWorker]
  | task spawned step => exact hspawned

theorem BatchStep.length_tasks_le
    {b : Nat} {batch batch' : Batch} {milestone : Milestone}
    (h : BatchStep crates texts b batch milestone batch') :
    batch.tasks.length ≤ batch'.tasks.length := by
  cases h with
  | call step =>
      rcases step.registers_cases with ⟨_, _, _, _, rfl⟩ | ⟨_, _, hlength⟩
      · simp
      · exact hlength.ge
  | worker step => exact step.length_tasks_eq.ge
  | task spawned step => simp

/-- Whoever waits in a world waits for somebody, and what the manager keeps is there. -/
structure World.Fed (w : World) : Prop where
  batches :
    ∀ (b : Nat) (batch : Batch), w.batches[b]? = some batch → batch.Sound ∧ batch.Fed
  retained : ∀ b, w.manager.initialization = some b → w.Holds b (·.worker ≠ .unspawned)
  tracked :
    ∀ vmId vm, w.manager.proxyTasks.lookup vmId = some vm →
      w.Holds vm.batch (vm.index < ·.tasks.length)

theorem World.fed_new : World.new.Fed := by
  constructor <;> simp [World.new, Manager.new]

theorem WorldStep.retained
    (h : WorldStep crates texts w happening w')
    (hw : w.Fed)
    (b : Nat)
    (hretained : w'.manager.initialization = some b) :
    w'.Holds b (·.worker ≠ .unspawned) := by
  have hkept : w.manager.initialization = some b → w'.Holds b (·.worker ≠ .unspawned) :=
    fun hbefore => h.holds (fun _ _ _ step => step.spawned) (hw.retained b hbefore)
  cases h with
  | @call c batch batch' _ _ holder present step =>
      rcases step.retained_cases hretained with ⟨rfl, hawaiting⟩ | ⟨hbefore, _⟩
      · have hlt := (List.getElem?_eq_some_iff.mp present).1
        refine ⟨batch', List.getElem?_set_self hlt, fun hunspawned => ?_⟩
        have hregistering := (step.fed (hw.batches b batch present).1
          (hw.batches b batch present).2).registering hunspawned
        cases hawaiting.symm.trans hregistering
      · exact hkept hbefore
  | workerJoined => cases hretained
  | rejected | called | worker | task | reaped | handlesCleared => exact hkept hretained

theorem WorldStep.tracked
    (h : WorldStep crates texts w happening w')
    (hw : w.Fed)
    (vmId : Uuid)
    (vm : VmRef)
    (htracked : w'.manager.proxyTasks.lookup vmId = some vm) :
    w'.Holds vm.batch (vm.index < ·.tasks.length) := by
  have hkept : w.manager.proxyTasks.lookup vmId = some vm →
      w'.Holds vm.batch (vm.index < ·.tasks.length) := fun hbefore =>
    h.holds (fun _ _ _ step hlt => Nat.lt_of_lt_of_le hlt step.length_tasks_le)
      (hw.tracked vmId vm hbefore)
  cases h with
  | call holder present step =>
      rcases step.registers_cases with ⟨next, _, _, hmanager, rfl⟩ | ⟨_, htasks, _⟩
      · rw [hmanager, Manager.register] at htracked
        by_cases heq : vmId = next.vmId
        · rw [heq, Finmap.lookup_insert] at htracked
          cases htracked
          exact ⟨_, List.getElem?_set_self (List.getElem?_eq_some_iff.mp present).1, by simp⟩
        · rw [Finmap.lookup_insert_of_ne _ heq] at htracked
          exact hkept htracked
      · rw [htasks] at htracked
        exact hkept htracked
  | @reaped other _ _ _ _ free tracked present spawned ended =>
      by_cases heq : vmId = other
      · rw [heq, Finmap.lookup_erase] at htracked
        cases htracked
      · rw [Finmap.lookup_erase_ne heq] at htracked
        exact hkept htracked
  | rejected | called | worker | task | handlesCleared | workerJoined => exact hkept htracked

theorem WorldStep.fed
    (h : WorldStep crates texts w happening w')
    (hw : w.Fed) :
    w'.Fed where
  batches := h.forall_batches (fun plan _ => ⟨Batch.sound_new plan, Batch.fed_new plan⟩)
    (fun _ _ _ _ step => step.fed) hw.batches
  retained := h.retained hw
  tracked := h.tracked hw

theorem ServiceStep.fed
    {s s' : Service} {occurrence : Occurrence}
    (h : ServiceStep crates texts s occurrence s')
    (hs : s.Coherent)
    (hw : s.world.Fed) :
    s'.world.Fed := by
  rcases h.refines hs.busy with hsame | ⟨_, step⟩
  · rwa [hsame]
  · exact step.fed hw

theorem ServiceRun.fed
    {history : List (Step Service Occurrence)} {s : Service}
    (run : ServiceRun crates texts history s) :
    s.world.Fed :=
  (run.invariant (I := fun s => s.world.Fed) (fun _ => World.fed_new)
    fun _ _ _ hs hw h => h.fed hs hw).2

end Worlds

/-! ## What is left to do -/

/-- The steps of a VM task, packets and commands apart. -/
def TaskPhase.remaining : TaskPhase → Nat
  | .awaitingProxy => 4
  | .awaitingStart _ => 3
  | .forwarding _ => 2
  | .cleaning _ _ => 1
  | .finished _ => 0

/-- The steps of the worker of a batch with this many VMs. -/
def Worker.remaining (vms : Nat) : Worker → Nat
  | .creating => 2 * vms + 3
  | .building _ proxies => 2 * vms + 2 - proxies.length
  | .handing _ proxies => proxies.length + 1
  | .unspawned | .finished _ => 0

/-- The steps of `shutdown` itself, the tasks that it joins apart. -/
def Activity.remaining : Activity → Nat
  | .finishingControl false .shutDown => 4
  | .finishingControl true .shutDown => 3
  | .joiningWorker => 2
  | .joiningTasks _ => 1
  | _ => 0

/-- Inside of `shutdown`. -/
def Activity.isShuttingDown : Activity → Bool
  | .finishingControl _ .shutDown | .joiningWorker | .joiningTasks _ => true
  | _ => false

/-- All VMs that have a task. -/
def World.vms (w : World) : List VmRef :=
  w.batches.zipIdx.flatMap fun batch => (List.range batch.1.tasks.length).map (VmRef.mk batch.2)

/-- The steps of the retained worker. -/
def World.workerRemaining (w : World) : Nat :=
  (w.manager.initialization.bind (w.batches[·]?)).elim 0
    fun batch => batch.worker.remaining batch.plan.vms.length

/-- The steps of a VM task, and a command that waits for it. -/
def Service.vmRemaining (s : Service) (vm : VmRef) : Nat :=
  ((s.world.task? vm).map VmTask.phase).elim 0 TaskPhase.remaining +
    (s.sides vm).commands.toList.length

/-- The control task may end, and may send one more request before. -/
def Service.controlRemaining (s : Service) : Nat :=
  (decide (s.control = some .serving)).toNat + (!s.callsClosed && s.queued.isNone).toNat

/-- The steps of everybody, where these are the VMs. -/
def Service.remaining (s : Service) (vms : List VmRef) : Nat :=
  total s.vmRemaining vms + s.world.workerRemaining + s.world.manager.proxyTasks.keys.card +
    s.controlRemaining + s.activity.remaining

/-- A packet is handled, and nothing else changes. -/
def Forwards (s s' : Service) : Prop :=
  ∃ vm task proxy proxy',
    s.world.task? vm = some task ∧
    task.phase = .forwarding proxy ∧
    s'.world = s.world.setTask vm { task with phase := .forwarding proxy' } ∧
    s'.sides = s.sides

section Lowering

variable {crates : Crates}
variable {texts : Texts}
variable {s s' : Service}
variable {occurrence : Occurrence}
variable {vms : List VmRef}

/-- Whoever has a task is among these VMs. -/
def Service.IsCovered (s : Service) (vms : List VmRef) : Prop :=
  ∀ vm task, s.world.task? vm = some task → vm ∈ vms

/-! ### Steps of the holder -/

theorem card_keys_erase_lt
    {vmId : Uuid} {vm : VmRef} {manager : Manager}
    (tracked : manager.proxyTasks.lookup vmId = some vm) :
    (manager.reap vmId).proxyTasks.keys.card < manager.proxyTasks.keys.card := by
  rw [Manager.reap, Finmap.keys_erase]
  exact Finset.card_erase_lt_of_mem (Finmap.mem_keys.mpr (Finmap.mem_iff.mpr ⟨vm, tracked⟩))

/-- `shutdown` itself or the control task goes on, and nobody else has more to do. -/
theorem Service.remaining_lt_of_rest
    (hvms : total s'.vmRemaining vms ≤ total s.vmRemaining vms)
    (hworker : s'.world.workerRemaining ≤ s.world.workerRemaining)
    (htasks :
      s'.world.manager.proxyTasks.keys.card ≤ s.world.manager.proxyTasks.keys.card)
    (hrest :
      s'.controlRemaining + s'.activity.remaining <
        s.controlRemaining + s.activity.remaining) :
    s'.remaining vms < s.remaining vms := by
  unfold Service.remaining
  omega

/-- Every step of a shutdown that goes on lowers what is left. -/
theorem HolderStep.remaining_lt
    (h : HolderStep texts s occurrence s')
    (vms : List VmRef)
    (closing : s.activity.isShuttingDown = true)
    (patient : occurrence ≠ .cancelled)
    (unreturned : ∀ result, occurrence ≠ .shutdownReturned result) :
    s'.activity.isShuttingDown = true ∧
      s'.world.batches = s.world.batches ∧
      s'.remaining vms < s.remaining vms := by
  cases h with
  | @callsDrained goal finishing =>
      rw [finishing] at closing
      cases goal with
      | shutDown =>
          refine ⟨rfl, rfl, Service.remaining_lt_of_rest le_rfl le_rfl le_rfl
            (Nat.add_lt_add_of_le_of_lt ?_ ?_)⟩
          · simp [Service.controlRemaining]
          · simp [finishing, Activity.remaining]
      | keepRunning | endRun => cases closing
  | @controlJoined goal finishing ended =>
      rw [finishing] at closing
      cases goal with
      | shutDown =>
          refine ⟨rfl, rfl, Service.remaining_lt_of_rest le_rfl le_rfl le_rfl
            (Nat.add_lt_add_of_le_of_lt ?_ ?_)⟩
          · simp [Service.controlRemaining]
          · simp [finishing, Goal.next, Activity.remaining]
      | keepRunning | endRun => cases closing
  | noWorker joining none_left =>
      refine ⟨rfl, rfl, Service.remaining_lt_of_rest le_rfl le_rfl le_rfl
        (Nat.add_lt_add_left ?_ _)⟩
      simp [joining, Activity.remaining]
  | workerJoined joining retained present ended =>
      refine ⟨rfl, rfl, Service.remaining_lt_of_rest le_rfl (Nat.zero_le _) le_rfl
        (Nat.add_lt_add_left ?_ _)⟩
      simp [joining, Activity.remaining]
  | @taskJoined vmId _ _ _ _ joining tracked spawned ended =>
      refine ⟨rfl, rfl, ?_⟩
      have hbefore : s.activity.remaining = 1 := by
        rw [joining]
        rfl
      have hcard := card_keys_erase_lt tracked
      change total s.vmRemaining vms + s.world.workerRemaining +
        (s.world.manager.reap vmId).proxyTasks.keys.card + s.controlRemaining + 1 < _
      unfold Service.remaining
      omega
  | shutdownReturned => exact absurd rfl (unreturned _)
  | cancelled => exact absurd rfl patient
  | initializeRejected holds | initializeCalled holds | runStarted holds | reaped holds
  | controlGone holds | requestRejected holds | requestCalled holds | misaddressed holds
  | addressed holds | accepted holds | unaccepted holds | acknowledged holds
  | unacknowledged holds | ranOut holds | runReturned holds | shutdownStarted holds =>
      rw [holds] at closing
      cases closing

/-! ### Steps of the worker -/

theorem WorkerStep.remaining_lt
    {batch batch' : Batch} {milestone : Milestone}
    (h : WorkerStep crates texts batch milestone batch')
    (hbatch : batch.Fed) :
    batch'.worker.remaining batch'.plan.vms.length <
      batch.worker.remaining batch.plan.vms.length := by
  have hworking := h.frame.1
  have hstopped : 0 < batch.worker.remaining batch.plan.vms.length := by
    cases hworker : batch.worker with
    | building network proxies =>
        have hle := hbatch.building_le network proxies hworker
        simp only [Worker.remaining]
        omega
    | creating | handing => simp [Worker.remaining]
    | unspawned | finished => simp [hworker, Worker.isWorking] at hworking
  cases h with
  | networkCreated phase => simp [phase, Worker.remaining]
  | proxyBuilt phase next =>
      have hlt := (List.getElem?_eq_some_iff.mp next).1
      simp only [phase, Worker.remaining, List.length_append, List.length_singleton]
      omega
  | allBuilt phase complete =>
      simp only [phase, Worker.remaining, complete]
      omega
  | handedOver phase => simp [phase, Worker.remaining]
  | completed | networkFailed | proxyFailed | handoverFailed | panicked => exact hstopped

/-- The worker leaves the tasks where they are. -/
theorem WorkerStep.map_phase
    {batch batch' : Batch} {milestone : Milestone}
    (h : WorkerStep crates texts batch milestone batch') :
    batch'.tasks.map VmTask.phase = batch.tasks.map VmTask.phase := by
  cases h with
  | @handedOver next _ _ task channel phase receiver sent =>
      obtain ⟨hlt, rfl⟩ := List.getElem?_eq_some_iff.mp receiver
      rw [List.map_set, ← List.getElem_map VmTask.phase (h := by simpa using hlt),
        List.set_getElem_self]
  | networkFailed | proxyFailed | handoverFailed | panicked =>
      simp [Batch.stopWorker, Function.comp_def]
  | networkCreated | proxyBuilt | allBuilt | completed => rfl

/-- A step of the worker leaves every task in its phase. -/
theorem World.map_phase_update
    {w : World} {b : Nat} {batch batch' : Batch} {milestone : Milestone}
    (present : w.batches[b]? = some batch)
    (step : WorkerStep crates texts batch milestone batch')
    (vm : VmRef) :
    ((w.update b batch').task? vm).map VmTask.phase = (w.task? vm).map VmTask.phase := by
  rw [World.task?_set rfl present]
  split
  · next hb =>
      rw [World.task?, hb, present, Option.bind_some, ← List.getElem?_map, ← List.getElem?_map,
        step.map_phase]
  · rfl

theorem Service.remaining_lt_of_worker
    {b : Nat} {batch batch' : Batch} {milestone : Milestone} {answers : Nat → FinalizeAnswers}
    (hs : s.Coherent)
    (hw : s.world.Fed)
    (present : s.world.batches[b]? = some batch)
    (step : WorkerStep crates texts batch milestone batch') :
    Service.remaining
        { s with
          world := s.world.update b batch'
          sides := sidesAfterWorker s.sides b batch milestone batch' answers } vms <
      s.remaining vms := by
  have hvms : ∀ vm, Service.vmRemaining
      { s with
        world := s.world.update b batch'
        sides := sidesAfterWorker s.sides b batch milestone batch' answers } vm =
      s.vmRemaining vm := fun vm => by
    simp only [Service.vmRemaining, World.map_phase_update present step vm,
      sidesAfterWorker_commands]
  have hworker : (s.world.update b batch').workerRemaining < s.world.workerRemaining := by
    have hretained := hs.working b ⟨batch, present, step.frame.1⟩
    have hlt := (List.getElem?_eq_some_iff.mp present).1
    simp only [World.workerRemaining, World.update, hretained, Option.bind_some,
      List.getElem?_set_self hlt, present, Option.elim_some]
    exact step.remaining_lt (hw.batches b batch present).2
  have htotal := total_le_total vms fun vm => (hvms vm).le
  simp only [Service.remaining]
  change _ + (s.world.update b batch').workerRemaining + s.world.manager.proxyTasks.keys.card +
    s.controlRemaining + s.activity.remaining < _
  omega

/-! ### Steps of a VM -/

/-- A step of a VM task lowers what is left of it, or handles a packet. -/
theorem VmStep.remaining_lt
    {task task' : VmTask} {side side' : VmSide} {sign : VmSign}
    (h : VmStep crates task side sign task' side') :
    task'.phase.remaining + side'.commands.toList.length <
        task.phase.remaining + side.commands.toList.length ∨
      ∃ proxy proxy',
        task.phase = .forwarding proxy ∧
        task' = { task with phase := .forwarding proxy' } ∧
        side' = side := by
  cases h with
  | packetHandled phase => exact .inr ⟨_, _, phase, rfl, rfl⟩
  | commandHandled phase received =>
      refine .inl ?_
      simp [phase, received, TaskPhase.remaining]
  | proxyReceived phase | startReceived phase =>
      refine .inl ?_
      simp [phase, TaskPhase.remaining]
  | proxyNeverComes phase | startNeverComes phase | runEnded phase | cleanedUp phase
  | cleanupLost phase =>
      refine .inl ?_
      simp only [phase, TaskPhase.remaining, VmTask.finish, VmSide.hangUp, VmSide.dropProxy,
        Option.toList_none, List.length_nil]
      omega

theorem Activity.hear_of_isShuttingDown
    {activity : Activity}
    (closing : activity.isShuttingDown = true)
    (vm : VmRef)
    (sign : VmSign) :
    activity.hear vm sign = activity := by
  rcases activity.hear_cases vm sign with hsame | ⟨_, _, _, rfl, _⟩
  · exact hsame
  · cases closing

theorem World.workerRemaining_setTask
    {w : World} {vm : VmRef} {task : VmTask} :
    (w.setTask vm task).workerRemaining = w.workerRemaining := by
  unfold World.workerRemaining World.setTask
  cases w.manager.initialization with
  | none => rfl
  | some b =>
      simp only [Option.bind_some, List.getElem?_modify]
      cases w.batches[b]? with
      | none => rfl
      | some batch =>
          simp only [Option.map_eq_map, Option.map_some, Option.elim_some]
          split <;> rfl

/-- Only the part of its VM changes with a step of a VM task. -/
theorem Service.remaining_setTask
    {vm : VmRef} {task task' : VmTask} {sign : VmSign} {side' : VmSide}
    (vms : List VmRef)
    (closing : s.activity.isShuttingDown = true)
    (spawned : s.world.task? vm = some task)
    (hs' : s' =
      { s with
        world := s.world.setTask vm task'
        sides := Function.update s.sides vm side'
        activity := s.activity.hear vm sign }) :
    (∀ other ≠ vm, s'.vmRemaining other = s.vmRemaining other) ∧
      s'.vmRemaining vm = task'.phase.remaining + side'.commands.toList.length ∧
      s.vmRemaining vm = task.phase.remaining + (s.sides vm).commands.toList.length ∧
      s'.remaining vms + total s.vmRemaining vms =
        s.remaining vms + total s'.vmRemaining vms := by
  refine ⟨fun other hne => ?_, ?_, ?_, ?_⟩
  · simp [hs', Service.vmRemaining, World.task?_setTask spawned, hne]
  · simp [hs', Service.vmRemaining, World.task?_setTask spawned]
  · simp [Service.vmRemaining, spawned]
  · have hworker : s'.world.workerRemaining = s.world.workerRemaining := by
      rw [hs', World.workerRemaining_setTask]
    have hmanager : s'.world.manager = s.world.manager := by
      rw [hs']
      rfl
    have hcontrol : s'.controlRemaining = s.controlRemaining := by
      rw [hs']
      rfl
    have hactivity : s'.activity = s.activity := by
      rw [hs', Activity.hear_of_isShuttingDown closing]
    rw [Service.remaining, Service.remaining, hworker, hmanager, hcontrol, hactivity]
    omega

theorem Service.remaining_lt_of_vm
    {vm : VmRef} {task task' : VmTask} {sign : VmSign} {side' : VmSide}
    (closing : s.activity.isShuttingDown = true)
    (covered : s.IsCovered vms)
    (spawned : s.world.task? vm = some task)
    (hlt :
      task'.phase.remaining + side'.commands.toList.length <
        task.phase.remaining + (s.sides vm).commands.toList.length)
    (hs' : s' =
      { s with
        world := s.world.setTask vm task'
        sides := Function.update s.sides vm side'
        activity := s.activity.hear vm sign }) :
    s'.remaining vms < s.remaining vms := by
  obtain ⟨hother, hself, hbefore, hremaining⟩ :=
    Service.remaining_setTask vms closing spawned hs'
  rw [← hself, ← hbefore] at hlt
  have hle : ∀ other, s'.vmRemaining other ≤ s.vmRemaining other := fun other => by
    by_cases heq : other = vm
    · exact heq ▸ hlt.le
    · exact (hother other heq).le
  have htotal := total_lt_total hle (covered vm task spawned) hlt
  omega

/-- A packet leaves everything to do that was left before. -/
theorem Service.remaining_of_packet
    {vm : VmRef} {task : VmTask} {proxy proxy' : Clocked} {sign : VmSign}
    (closing : s.activity.isShuttingDown = true)
    (spawned : s.world.task? vm = some task)
    (phase : task.phase = .forwarding proxy)
    (hs' : s' =
      { s with
        world := s.world.setTask vm { task with phase := .forwarding proxy' }
        sides := Function.update s.sides vm (s.sides vm)
        activity := s.activity.hear vm sign }) :
    Forwards s s' ∧ s'.remaining vms ≤ s.remaining vms := by
  obtain ⟨hother, hself, hbefore, hremaining⟩ :=
    Service.remaining_setTask vms closing spawned hs'
  have hle : ∀ other, s'.vmRemaining other ≤ s.vmRemaining other := fun other => by
    by_cases heq : other = vm
    · rw [heq, hself, hbefore, phase]
      exact Nat.le_refl _
    · exact (hother other heq).le
  have htotal := total_le_total vms hle
  refine ⟨⟨vm, task, proxy, proxy', spawned, phase, by rw [hs'], ?_⟩, by omega⟩
  rw [hs']
  exact Function.update_eq_self vm s.sides

theorem Service.remaining_lt_of_controlEnded
    (serving : s.control = some .serving) :
    Service.remaining { s with control := some .ended } vms < s.remaining vms := by
  refine Service.remaining_lt_of_rest le_rfl le_rfl le_rfl (Nat.add_lt_add_right ?_ _)
  simp [Service.controlRemaining, serving]

/-! ### Any step -/

/-- Every step of anybody during a shutdown lowers what is left, or handles a packet. -/
theorem ServiceStep.remaining_lt
    (h : ServiceStep crates texts s occurrence s')
    (hs : s.Coherent)
    (hw : s.world.Fed)
    (closing : s.activity.isShuttingDown = true)
    (covered : s.IsCovered vms)
    (patient : occurrence ≠ .cancelled)
    (unreturned : ∀ result, occurrence ≠ .shutdownReturned result) :
    s'.activity.isShuttingDown = true ∧
      s'.IsCovered vms ∧
      (s'.remaining vms < s.remaining vms ∨
        Forwards s s' ∧ s'.remaining vms ≤ s.remaining vms) := by
  have hfree : ∀ b, s.world.busy ≠ some b := fun b hbusy => by
    have hcalling := (hs.sane_of_busy hbusy).1
    cases hactivity : s.activity <;>
      simp_all [Activity.isCalling, Activity.isShuttingDown]
  cases h with
  | holder step =>
      obtain ⟨hclosing, hbatches, hlt⟩ := step.remaining_lt vms closing patient unreturned
      refine ⟨hclosing, fun vm task htask => covered vm task ?_, .inl hlt⟩
      rwa [World.task?, hbatches] at htask
  | call holder => exact absurd holder (hfree _)
  | replaced holder => exact absurd holder (hfree _)
  | worker present step answers =>
      refine ⟨closing, fun vm task htask => ?_,
        .inl (Service.remaining_lt_of_worker hs hw present step)⟩
      have hphase := World.map_phase_update present step vm
      rw [show (s.world.update _ _).task? vm = some task from htask] at hphase
      obtain ⟨found, hfound, _⟩ := Option.map_eq_some_iff.mp hphase.symm
      exact covered vm found hfound
  | @vm vm task task' sign side' spawned step =>
      refine ⟨?_, fun other found hfound => ?_, ?_⟩
      · rwa [Activity.hear_of_isShuttingDown closing]
      · rw [World.task?_setTask spawned] at hfound
        split at hfound
        · next heq => exact heq ▸ covered vm task spawned
        · exact covered other found hfound
      · rcases step.remaining_lt with hlt | ⟨proxy, proxy', phase, rfl, rfl⟩
        · exact .inl (Service.remaining_lt_of_vm closing covered spawned hlt rfl)
        · exact .inr (Service.remaining_of_packet closing spawned phase rfl)
  | requestSent serving opened room request =>
      refine ⟨closing, covered, .inl (Service.remaining_lt_of_rest le_rfl le_rfl le_rfl
        (Nat.add_lt_add_right ?_ _))⟩
      simp [Service.controlRemaining, opened, room]
  | controlEnded serving =>
      exact ⟨closing, covered, .inl (Service.remaining_lt_of_controlEnded serving)⟩

end Lowering

section Progress

variable {crates : Crates}
variable {texts : Texts}
variable {s s' : Service}
variable {vms : List VmRef}

/-! ## Somebody can always move -/

/-- A worker that works can go on without a panic. -/
theorem Batch.Fed.exists_workerStep
    {batch : Batch}
    (hbatch : batch.Fed)
    (hsound : batch.Sound)
    (hworking : batch.worker.isWorking = true) :
    ∃ milestone batch',
      WorkerStep crates texts batch milestone batch' ∧
      ∀ error, batch'.worker ≠ .finished (.error error) := by
  cases phase : batch.worker with
  | unspawned | finished =>
      rw [phase] at hworking
      cases hworking
  | creating =>
      cases hnew : Network.new crates texts grantingVmnet batch.plan.netType batch.plan.subnet
          batch.plan.reservations batch.plan.portForwardings with
      | ok network => exact ⟨_, _, .networkCreated phase hnew, by simp⟩
      | error error => exact ⟨_, _, .networkFailed phase hnew, by simp [Batch.stopWorker]⟩
  | building network proxies =>
      rcases Nat.lt_or_eq_of_le (hbatch.building_le network proxies phase) with hlt | heq
      · have next := List.getElem?_eq_getElem hlt
        cases hnew : (batch.plan.vms[proxies.length]).newProxy crates batch.plan network .insertion
            (.ok 0) 0 with
        | ok proxy => exact ⟨_, _, .proxyBuilt phase next hnew, by simp⟩
        | error message => exact ⟨_, _, .proxyFailed phase next hnew, by simp [Batch.stopWorker]⟩
      · exact ⟨_, _, .allBuilt phase heq, by simp⟩
  | handing next proxies =>
      cases proxies with
      | nil => exact ⟨_, _, .completed phase, by simp⟩
      | cons proxy proxies =>
          have hlt : next < batch.tasks.length := by
            have hhanding := hsound.handing_eq next _ phase
            rw [hbatch.complete (by simp [phase]), ← hhanding, List.length_cons]
            omega
          have receiver := List.getElem?_eq_getElem hlt
          cases hsend : batch.tasks[next].proxyChannel.send proxy with
          | ok channel => exact ⟨_, _, .handedOver phase receiver hsend, by simp⟩
          | error refused =>
              obtain rfl := Oneshot.eq_of_send hsend
              exact ⟨_, _, .handoverFailed phase receiver hsend, by simp [Batch.stopWorker]⟩

/-- A step to a later phase brings the task nearer to its end. -/
theorem VmStep.remaining_lt_of_phase
    {task task' : VmTask} {side side' : VmSide} {sign : VmSign}
    (step : VmStep crates task side sign task' side')
    (h : task'.phase.remaining < task.phase.remaining) :
    task'.phase.remaining + side'.commands.toList.length <
      task.phase.remaining + side.commands.toList.length := by
  refine step.remaining_lt.resolve_right ?_
  rintro ⟨proxy, proxy', hforwarding, rfl, _⟩
  rw [hforwarding] at h
  exact Nat.lt_irrefl 2 h

/-- A task that forwards handles the command that it is sent, or ends if there is none. -/
theorem VmTask.exists_vmStep_forwarding
    {task : VmTask} {proxy : Clocked}
    (crates : Crates)
    (side : VmSide)
    (phase : task.phase = .forwarding proxy) :
    ∃ sign task' side',
      VmStep crates task side sign task' side' ∧
      task'.phase.remaining + side'.commands.toList.length <
        task.phase.remaining + side.commands.toList.length ∧
      (side.commands = none ∧ task'.phase = .cleaning proxy (.ok (.ok ())) ∨
        ∃ proxy', task'.phase = .forwarding proxy') := by
  cases received : side.commands with
  | some command =>
      have handled : EventStep crates proxy (command.event .insertion proxy.clock) _ :=
        .handle (by cases command <;> exact Nat.le_refl _)
      exact ⟨_, _, _, .commandHandled phase received handled,
        by simp [phase, TaskPhase.remaining], .inr ⟨_, rfl⟩⟩
  | none =>
      have step : VmStep crates task side _ _ _ := .runEnded phase (.ok (.ok ()))
      have hlt := step.remaining_lt_of_phase (by simp [phase, TaskPhase.remaining])
      rw [received] at hlt
      exact ⟨_, _, _, step, hlt, .inl ⟨rfl, rfl⟩⟩

/-- A task whose channels are settled can go on; it forwards until it has no command left. -/
theorem VmTask.exists_vmStep
    {task : VmTask}
    (crates : Crates)
    (side : VmSide)
    (hopen : task.IsOpen)
    (hlistens : task.Listens)
    (hproxy : task.proxyChannel ≠ .waiting)
    (hstart : task.startChannel ≠ .waiting) :
    ∃ sign task' side',
      VmStep crates task side sign task' side' ∧
      task'.phase.remaining + side'.commands.toList.length <
        task.phase.remaining + side.commands.toList.length ∧
      ∀ proxy, task.phase = .forwarding proxy →
        side.commands = none ∧ task'.phase = .cleaning proxy (.ok (.ok ())) ∨
          ∃ proxy', task'.phase = .forwarding proxy' := by
  cases phase : task.phase with
  | awaitingProxy =>
      simp only [VmTask.Listens, phase] at hlistens
      obtain ⟨found, hfound⟩ := Oneshot.exists_receive hproxy hlistens.1
      rw [← phase]
      cases found with
      | none =>
          have step : VmStep crates task side _ _ _ := .proxyNeverComes phase hfound
          exact ⟨_, _, _, step, step.remaining_lt_of_phase (by rw [phase]; decide), by simp [phase]⟩
      | some proxy =>
          have step : VmStep crates task side _ _ _ := .proxyReceived phase hfound
          exact ⟨_, _, _, step,
            step.remaining_lt_of_phase (by simp [phase, TaskPhase.remaining]), by simp [phase]⟩
  | awaitingStart proxy =>
      simp only [VmTask.Listens, phase] at hlistens
      obtain ⟨found, hfound⟩ := Oneshot.exists_receive hstart hlistens
      rw [← phase]
      cases found with
      | none =>
          have step : VmStep crates task side _ _ _ := .startNeverComes phase hfound
          exact ⟨_, _, _, step,
            step.remaining_lt_of_phase (by simp [phase, TaskPhase.remaining]), by simp [phase]⟩
      | some =>
          have step : VmStep crates task side _ _ _ := .startReceived phase hfound
          exact ⟨_, _, _, step,
            step.remaining_lt_of_phase (by simp [phase, TaskPhase.remaining]), by simp [phase]⟩
  | forwarding proxy =>
      obtain ⟨sign, task', side', step, hlt, hnext⟩ :=
        VmTask.exists_vmStep_forwarding crates side phase
      rw [phase] at hlt
      refine ⟨sign, task', side', step, hlt, fun found hfound => ?_⟩
      cases hfound
      exact hnext
  | cleaning proxy result =>
      rw [← phase]
      cases owned : side.interface with
      | none =>
          have step : VmStep crates task side _ _ _ :=
            .cleanupLost phase ⟨""⟩ (plainAnswers 0)
          exact ⟨_, _, _, step,
            step.remaining_lt_of_phase (by rw [phase]; exact Nat.zero_lt_one), by simp [phase]⟩
      | some interface =>
          have step : VmStep crates task side _ _ _ :=
            .cleanedUp phase owned (plainAnswers 0) (plainAnswers 0)
          exact ⟨_, _, _, step,
            step.remaining_lt_of_phase (by rw [phase]; exact Nat.zero_lt_one), by simp [phase]⟩
  | finished result => exact absurd phase (hopen result)

/-- The channels of a task are settled once its call and its worker are over. -/
theorem World.Fed.settled
    {w : World} {vm : VmRef} {task : VmTask}
    (hw : w.Fed)
    (spawned : w.task? vm = some task)
    (hcall : ¬ w.Holds vm.batch (·.call.inProgress = true))
    (hworker : ¬ w.Holds vm.batch (·.worker.isWorking = true)) :
    task.proxyChannel ≠ .waiting ∧ task.startChannel ≠ .waiting ∧ task.Listens := by
  obtain ⟨batch, present, hget⟩ := World.task?_eq_some_iff.mp spawned
  obtain ⟨_, hfed⟩ := hw.batches _ _ present
  obtain ⟨hproxy, hstart, hlistens⟩ := hfed.tasks _ _ hget
  have hcalled : batch.call.inProgress ≠ true := fun h => hcall ⟨batch, present, h⟩
  have hworked : batch.worker.isWorking ≠ true := fun h => hworker ⟨batch, present, h⟩
  refine ⟨fun hwaiting => ?_, fun hwaiting => ?_, hlistens⟩
  · have hholds := hproxy hwaiting
    cases phase : batch.worker with
    | unspawned => simp [hfed.registering phase, CallPhase.inProgress] at hcalled
    | creating | building | handing => simp [phase, Worker.isWorking] at hworked
    | finished => simp [phase, Worker.HoldsSender] at hholds
  · have hholds := hstart hwaiting
    cases phase : batch.call with
    | registering | awaiting | droppingPrivileges | starting =>
        simp [phase, CallPhase.inProgress] at hcalled
    | returned | cancelled => simp [phase, CallPhase.HoldsSender] at hholds

/-- A worker panics, or is cancelled before it begins. -/
def Panics (s s' : Service) : Prop :=
  ∃ b error,
    ¬ s.world.Holds b (·.worker = .finished (.error error)) ∧
    s'.world.Holds b (·.worker = .finished (.error error))

/-- The command channel of the VM is closed, and no command is left in it. -/
def Service.CommandsOver (s : Service) (vm : VmRef) : Prop :=
  (∀ vmId, s.world.manager.proxyHandles.lookup vmId ≠ some vm) ∧ (s.sides vm).commands = none

/-- Whoever stops forwarding does so because `commands_rx.recv()` in `Proxy::run` has ended. -/
def Service.IsOrderly (s s' : Service) : Prop :=
  ∀ vm proxy, (s.world.task? vm).map VmTask.phase = some (.forwarding proxy) →
    s.CommandsOver vm ∧
        (s'.world.task? vm).map VmTask.phase = some (.cleaning proxy (.ok (.ok ()))) ∨
      ∃ proxy', (s'.world.task? vm).map VmTask.phase = some (.forwarding proxy')

theorem Service.IsOrderly.of_phases
    (h : ∀ vm, (s'.world.task? vm).map VmTask.phase = (s.world.task? vm).map VmTask.phase) :
    s.IsOrderly s' :=
  fun vm proxy hforwarding => .inr ⟨proxy, (h vm).trans hforwarding⟩

/--
A step by which a shutdown gets on.  Nobody drops it, no worker panics, and no VM is relied upon
to stop by itself.
-/
structure Advances
    (crates : Crates)
    (texts : Texts)
    (vms : List VmRef)
    (s : Service)
    (occurrence : Occurrence)
    (s' : Service) : Prop where
  step : ServiceStep crates texts s occurrence s'
  patient : occurrence ≠ .cancelled
  calm : ¬ Panics s s'
  orderly : s.IsOrderly s'
  nearer :
    s'.remaining vms < s.remaining vms ∨ ∃ result, occurrence = .shutdownReturned result

theorem HolderStep.advances
    {occurrence : Occurrence}
    (h : HolderStep texts s occurrence s')
    (closing : s.activity.isShuttingDown = true)
    (patient : occurrence ≠ .cancelled)
    (unreturned : ∀ result, occurrence ≠ .shutdownReturned result) :
    Advances crates texts vms s occurrence s' := by
  obtain ⟨_, hbatches, hlt⟩ := h.remaining_lt vms closing patient unreturned
  refine ⟨.holder h, patient, ?_, .of_phases fun vm => ?_, .inl hlt⟩
  · rintro ⟨b, error, hbefore, hafter⟩
    rw [World.Holds, hbatches] at hafter
    exact hbefore hafter
  · rw [World.task?, hbatches]
    rfl

/-- A task that gets on brings the shutdown on. -/
theorem VmStep.exists_advance
    {vm : VmRef} {task task' : VmTask} {sign : VmSign} {side' : VmSide}
    (h : VmStep crates task (s.sides vm) sign task' side')
    (closing : s.activity.isShuttingDown = true)
    (covered : s.IsCovered vms)
    (spawned : s.world.task? vm = some task)
    (hlt :
      task'.phase.remaining + side'.commands.toList.length <
        task.phase.remaining + (s.sides vm).commands.toList.length)
    (orderly : ∀ proxy, task.phase = .forwarding proxy →
      s.CommandsOver vm ∧ task'.phase = .cleaning proxy (.ok (.ok ())) ∨
        ∃ proxy', task'.phase = .forwarding proxy') :
    ∃ occurrence s', Advances crates texts vms s occurrence s' := by
  refine ⟨_, _, .vm spawned h, ?_, ?_, fun other proxy hforwarding => ?_,
    .inl (Service.remaining_lt_of_vm closing covered spawned hlt rfl)⟩
  · cases sign <;> simp [Occurrence.ofVm]
  · rintro ⟨b, error, hbefore, hafter⟩
    exact hbefore ((World.holds_setTask_iff spawned fun _ _ => Iff.rfl).mp hafter)
  · rw [World.task?_setTask spawned]
    by_cases hother : other = vm
    · subst hother
      rw [spawned] at hforwarding
      rcases orderly proxy (Option.some.inj hforwarding) with ⟨hover, hcleaning⟩ | ⟨proxy', hproxy'⟩
      · exact .inl ⟨hover, by simp [hcleaning]⟩
      · exact .inr ⟨proxy', by simp [hproxy']⟩
    · exact .inr ⟨proxy, by simpa [hother] using hforwarding⟩

/-- `shutdown` gets on while it waits for the worker. -/
theorem Service.exists_advance_joiningWorker
    (hs : s.Coherent)
    (hw : s.world.Fed)
    (joining : s.activity = .joiningWorker) :
    ∃ occurrence s', Advances crates texts vms s occurrence s' := by
  have closing : s.activity.isShuttingDown = true := by
    rw [joining]
    rfl
  cases hretained : s.world.manager.initialization with
  | none =>
      exact ⟨_, _, (HolderStep.noWorker joining hretained).advances closing (by simp) (by simp)⟩
  | some b =>
      obtain ⟨batch, present, hspawned⟩ := hw.retained b hretained
      obtain ⟨hsound, hfed⟩ := hw.batches b batch present
      by_cases hworking : batch.worker.isWorking = true
      · obtain ⟨milestone, batch', step, hcalm⟩ := hfed.exists_workerStep hsound hworking
        refine ⟨_, _, .worker present step plainAnswers, ?_, ?_,
          .of_phases (World.map_phase_update present step),
          .inl (Service.remaining_lt_of_worker hs hw present step)⟩
        · cases milestone <;> simp [Occurrence.ofWorker]
        · rintro ⟨c, error, hbefore, hafter⟩
          rcases (World.holds_set_iff rfl present).mp hafter with ⟨_, hpanic⟩ | ⟨_, hother⟩
          · exact hcalm error hpanic
          · exact hbefore hother
      · cases ended : batch.worker with
        | finished result =>
            exact ⟨_, _, (HolderStep.workerJoined joining hretained present ended).advances closing
              (by simp) (by simp)⟩
        | unspawned => exact absurd ended hspawned
        | creating | building | handing => simp [ended, Worker.isWorking] at hworking

/-- `shutdown` gets on while it waits for the tasks. -/
theorem Service.exists_advance_joiningTasks
    {outcome : Except ErrorChain Unit}
    (hs : s.Coherent)
    (hw : s.world.Fed)
    (covered : s.IsCovered vms)
    (joining : s.activity = .joiningTasks outcome) :
    ∃ occurrence s', Advances crates texts vms s occurrence s' := by
  have closing : s.activity.isShuttingDown = true := by
    rw [joining]
    rfl
  by_cases htasks : s.world.manager.hasNoTasks = true
  · refine ⟨_, _, .holder (.shutdownReturned joining htasks), by simp, ?_,
      .of_phases fun _ => rfl, .inr ⟨_, rfl⟩⟩
    rintro ⟨b, error, hbefore, hafter⟩
    exact hbefore hafter
  · obtain ⟨vmId, hvmId⟩ : s.world.manager.proxyTasks.keys.Nonempty := by
      rw [Finset.nonempty_iff_ne_empty]
      simpa [Manager.hasNoTasks] using htasks
    obtain ⟨vm, tracked⟩ := Finmap.mem_iff.mp (Finmap.mem_keys.mp hvmId)
    obtain ⟨batch, present, hlt⟩ := hw.tracked vmId vm tracked
    have spawned : s.world.task? vm = some batch.tasks[vm.index] :=
      World.task?_eq_some_iff.mpr ⟨batch, present, List.getElem?_eq_getElem hlt⟩
    by_cases hopen : batch.tasks[vm.index].IsOpen
    · -- The call and the worker are over, so that the task does not wait in vain
      have hcall : ¬ s.world.Holds vm.batch (·.call.inProgress = true) := fun h => by
        have hbusy := hs.world.busy _ h
        rw [hs.free (by rw [joining]; rfl)] at hbusy
        cases hbusy
      have hworker : ¬ s.world.Holds vm.batch (·.worker.isWorking = true) := fun h => by
        have hretained := hs.working _ h
        rw [hs.joined outcome joining] at hretained
        cases hretained
      obtain ⟨hproxy, hstart, hlistens⟩ := hw.settled spawned hcall hworker
      obtain ⟨sign, task', side', step, hlt, hforwarding⟩ :=
        VmTask.exists_vmStep crates (s.sides vm) hopen hlistens hproxy hstart
      refine step.exists_advance closing covered spawned hlt fun proxy hproxy => ?_
      -- `shutdown` has closed every command channel before it joins the tasks
      have hcleared := (hs.cleared (by rw [joining]; rfl)).1
      exact (hforwarding proxy hproxy).imp_left fun hempty =>
        ⟨⟨fun vmId => by simp [hcleared], hempty.1⟩, hempty.2⟩
    · obtain ⟨result, ended⟩ := not_forall_not.mp hopen
      exact ⟨_, _, (HolderStep.taskJoined joining tracked spawned ended).advances closing (by simp)
        (by simp)⟩

theorem Service.exists_advance
    (texts : Texts)
    (hs : s.Coherent)
    (hw : s.world.Fed)
    (covered : s.IsCovered vms)
    (closing : s.activity.isShuttingDown = true) :
    ∃ occurrence s', Advances crates texts vms s occurrence s' := by
  cases hactivity : s.activity with
  | joiningWorker => exact Service.exists_advance_joiningWorker hs hw hactivity
  | joiningTasks => exact Service.exists_advance_joiningTasks hs hw covered hactivity
  | finishingControl drained goal =>
      cases goal with
      | keepRunning | endRun => simp [hactivity, Activity.isShuttingDown] at closing
      | shutDown =>
          cases drained with
          | false =>
              exact ⟨_, _, (HolderStep.callsDrained hactivity).advances closing (by simp)
                (by simp)⟩
          | true =>
              by_cases serving : s.control = some .serving
              · refine ⟨_, _, .controlEnded serving, by simp, ?_, .of_phases fun _ => rfl,
                  .inl (Service.remaining_lt_of_controlEnded serving)⟩
                rintro ⟨b, error, hbefore, hafter⟩
                exact hbefore hafter
              · exact ⟨_, _, (HolderStep.controlJoined hactivity serving).advances closing
                  (by simp) (by simp)⟩
  | idle | initializing | running | dispatching | offering | acknowledging | leaving =>
      simp [hactivity, Activity.isShuttingDown] at closing

end Progress

section Ending

variable {crates : Crates}
variable {texts : Texts}
variable {s s' : Service}
variable {history more : List (Step Service Occurrence)}

/-! ## The end of a shutdown -/

end Ending

end Softnet
