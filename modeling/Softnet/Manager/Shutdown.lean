import Softnet.Manager.Deployment
import Softnet.Manager.VmTasks

/-!
# Shutdown leaks nothing

The interface of a VM belongs to its proxy, and the proxy moves from the worker to the
channel, to the task and to the cleanup.  As long as no stop of the interface was attempted,
somebody owns the proxy (`Service.Kept`): every step hands it on or disposes of it, and
whoever disposes of it tries to stop the interface.

A task that is not over is one of the tasks of the manager (`Service.Tracked`), and a worker
that is not over is retained by it.  So when a shutdown has joined them all, nobody owns a
proxy any more.
-/

namespace Softnet

open Transition

section Ownership

variable {crates : Crates}
variable {texts : Texts}
variable {b index : Nat}
variable {batch batch' : Batch}
variable {milestone : Milestone}

/-! ## Owners of a proxy -/

/-- Somebody owns the proxy of the VM at this position. -/
def Batch.OwnsProxy (batch : Batch) (index : Nat) : Prop :=
  ∃ s, batch.Carries index s

theorem Worker.mem_owned_iff
    {worker : Worker} :
    index ∈ worker.owned ↔ ∃ s, worker.Carries index s := by
  cases worker with
  | building network proxies =>
      simp [Worker.owned, Worker.Carries, List.getElem?_eq_some_iff]
  | handing next proxies =>
      simp only [Worker.owned, List.mem_range'_1, Worker.Carries, exists_and_left]
      refine and_congr_right fun hle => ?_
      simp only [List.getElem?_eq_some_iff, exists_comm, exists_prop, exists_eq', and_true]
      omega
  | unspawned | creating | finished => simp [Worker.owned, Worker.Carries]

/-- What the worker keeps and the tasks keep is still owned. -/
theorem Batch.OwnsProxy.of_kept
    (h : batch.OwnsProxy index)
    (hworker : ∀ s, batch.worker.Carries index s → batch'.worker.Carries index s)
    (htask :
      ∀ task s, batch.tasks[index]? = some task → task.Carries s →
        ∃ task', batch'.tasks[index]? = some task' ∧ task'.Carries s) :
    batch'.OwnsProxy index := by
  rcases h with ⟨s, hs | ⟨task, hget, hs⟩⟩
  · exact ⟨s, .inl (hworker s hs)⟩
  · exact ⟨s, .inr (htask task s hget hs)⟩

/-- Tasks changed in their channels only, where no proxy is lost, carry what they carried. -/
theorem exists_map_carries
    {tasks : List VmTask} {f : VmTask → VmTask} {task : VmTask} {s : Clocked}
    (hf : ∀ task, task.Carries s → (f task).Carries s)
    (hget : tasks[index]? = some task)
    (hs : task.Carries s) :
    ∃ task', (tasks.map f)[index]? = some task' ∧ task'.Carries s :=
  ⟨f task, by rw [List.getElem?_map, hget]; rfl, hf task hs⟩

theorem VmTask.Carries.dropSender
    {task : VmTask} {s : Clocked}
    (h : task.Carries s) :
    VmTask.Carries { task with proxyChannel := task.proxyChannel.dropSender } s :=
  h.imp_left Oneshot.dropSender_eq_sent_iff.mpr

/-- The call hands no proxy on. -/
theorem CallStep.ownsProxy
    {manager manager' : Manager}
    (h : CallStep b manager batch milestone manager' batch')
    (hbatch : batch.Sound)
    (howned : batch.OwnsProxy index) :
    batch'.OwnsProxy index := by
  cases h with
  | registered phase next =>
      refine howned.of_kept (fun _ => id) fun task s hget hs => ⟨task, ?_, hs⟩
      rw [List.getElem?_append_left (List.getElem?_eq_some_iff.mp hget).1, hget]
  | workerSpawned phase complete =>
      refine howned.of_kept (fun s hs => ?_) fun task s hget hs => ⟨task, hget, hs⟩
      rw [hbatch.unspawned phase] at hs
      cases hs
  | workerFailed | cancelled | privilegesKept =>
      exact howned.of_kept (fun _ => id) fun task s => exists_map_carries fun _ => id
  | @started next _ phase hreceiver =>
      refine howned.of_kept (fun _ => id) fun task s hget hs => ?_
      by_cases hindex : index = next
      · subst hindex
        cases hget.symm.trans hreceiver
        exact ⟨_, List.getElem?_set_self (List.getElem?_eq_some_iff.mp hget).1, hs⟩
      · exact ⟨task, by rw [Batch.start, List.getElem?_set_ne (Ne.symm hindex), hget], hs⟩
  | joined | privilegesDropped | returned => exact howned

/-- A worker that is over gives up what it owned. -/
theorem Batch.OwnsProxy.stopWorker
    (result : JoinResult)
    (howned : batch.OwnsProxy index) :
    (batch.stopWorker result).OwnsProxy index ∨
      (batch.stopWorker result).worker.isWorking = false ∧ index ∈ batch.worker.owned := by
  rcases howned with ⟨s, hs | ⟨task, hget, hs⟩⟩
  · exact .inr ⟨rfl, Worker.mem_owned_iff.mpr ⟨s, hs⟩⟩
  · exact .inl ⟨s, .inr (exists_map_carries (fun _ => VmTask.Carries.dropSender) hget hs)⟩

/-- The worker hands a proxy on, or is over and has dropped it. -/
theorem WorkerStep.ownsProxy
    (h : WorkerStep crates texts batch milestone batch')
    (howned : batch.OwnsProxy index) :
    batch'.OwnsProxy index ∨ batch'.worker.isWorking = false ∧ index ∈ batch.worker.owned := by
  cases h with
  | networkFailed | proxyFailed | handoverFailed | panicked => exact howned.stopWorker _
  | networkCreated phase =>
      refine .inl (howned.of_kept (fun s hs => ?_) fun task s hget hs => ⟨task, hget, hs⟩)
      rw [phase] at hs
      cases hs
  | proxyBuilt phase next built =>
      refine .inl (howned.of_kept (fun s hs => ?_) fun task s hget hs => ⟨task, hget, hs⟩)
      rw [phase] at hs
      exact (List.getElem?_append_left (List.getElem?_eq_some_iff.mp hs).1).trans hs
  | allBuilt phase complete =>
      refine .inl (howned.of_kept (fun s hs => ?_) fun task s hget hs => ⟨task, hget, hs⟩)
      rw [phase] at hs
      exact ⟨Nat.zero_le _, hs⟩
  | completed phase =>
      refine .inl (howned.of_kept (fun s hs => ?_) fun task s hget hs => ⟨task, hget, hs⟩)
      rw [phase] at hs
      cases hs.2
  | @handedOver next proxy proxies receiver channel phase hreceiver sent =>
      refine .inl ?_
      have hlt := (List.getElem?_eq_some_iff.mp hreceiver).1
      rcases howned with ⟨s, hs | ⟨task, hget, hs⟩⟩
      · rw [phase] at hs
        obtain ⟨hle, hproxy⟩ := hs
        by_cases hindex : index = next
        · subst hindex
          exact ⟨proxy, .inr ⟨_, List.getElem?_set_self hlt, .inl (Oneshot.eq_sent_of_send sent)⟩⟩
        · refine ⟨s, .inl ⟨by omega, ?_⟩⟩
          rwa [show index - next = index - (next + 1) + 1 by omega,
            List.getElem?_cons_succ] at hproxy
      · by_cases hindex : index = next
        · subst hindex
          exact ⟨proxy, .inr ⟨_, List.getElem?_set_self hlt, .inl (Oneshot.eq_sent_of_send sent)⟩⟩
        · exact ⟨s, .inr ⟨task, by rw [List.getElem?_set_ne (Ne.symm hindex), hget], hs⟩⟩

end Ownership

section Interfaces

variable {crates : Crates}
variable {texts : Texts}
variable {s s' : Service}
variable {occurrence : Occurrence}
variable {vm : VmRef}

/-! ## Interfaces -/

/-- What a step does to the interface of a VM. -/
inductive InterfaceChange (occurrence : Occurrence) (vm : VmRef) :
    Option Interface → Option Interface → Prop
  | kept {interface : Option Interface} : InterfaceChange occurrence vm interface interface
  | built
      {before : Option Interface}
      (label : occurrence = .built vm) :
      InterfaceChange occurrence vm before (some .new)
  | disposed
      {interface interface' : Interface}
      (disposal : interface.Disposed interface') :
      InterfaceChange occurrence vm (some interface) (some interface')

theorem InterfaceChange.dropProxy
    (side : VmSide)
    (answers : FinalizeAnswers) :
    InterfaceChange occurrence vm side.interface (side.dropProxy answers).interface := by
  unfold VmSide.dropProxy
  cases side.interface with
  | none => exact .kept
  | some interface => exact .disposed (.dropped answers)

theorem VmStep.interfaceChange
    {task task' : VmTask} {side side' : VmSide} {sign : VmSign}
    (h : VmStep crates task side sign task' side') :
    InterfaceChange occurrence vm side.interface side'.interface := by
  cases h with
  | cleanedUp phase owned answers later =>
      rw [owned]
      exact .disposed (.finalized answers later)
  | cleanupLost phase error answers => exact .dropProxy side answers
  | proxyReceived | proxyNeverComes | startReceived | startNeverComes | packetHandled
  | commandHandled | runEnded => exact .kept

theorem ServiceStep.interfaceChange
    (h : ServiceStep crates texts s occurrence s')
    (vm : VmRef) :
    InterfaceChange occurrence vm (s.sides vm).interface (s'.sides vm).interface := by
  cases h with
  | holder step =>
      cases step with
      | @accepted _ _ other =>
          by_cases heq : vm = other
          · subst heq
            simpa using InterfaceChange.kept
          · simpa [heq] using InterfaceChange.kept
      | initializeRejected | initializeCalled | runStarted | reaped | controlGone
      | requestRejected | requestCalled | misaddressed | addressed | unaccepted | acknowledged
      | unacknowledged | ranOut | runReturned | callsDrained | controlJoined | shutdownStarted
      | noWorker | workerJoined | taskJoined | shutdownReturned | cancelled => exact .kept
  | @worker b batch batch' milestone present step answers =>
      simp only [sidesAfterWorker]
      split
      · next hbatch =>
          split
          · next hmilestone =>
              subst hbatch hmilestone
              exact .built rfl
          · split
            · exact .dropProxy _ _
            · exact .kept
      · exact .kept
  | @replaced _ _ _ other task _ _ _ _ _ _ _ error answers =>
      by_cases heq : vm = other
      · subst heq
        simp only [Function.update_self, VmSide.abort]
        split
        · exact .dropProxy (s.sides vm).hangUp answers
        · exact .kept
      · simpa [heq] using InterfaceChange.kept
  | @vm other _ _ _ side' spawned step =>
      by_cases heq : vm = other
      · subst heq
        simpa using step.interfaceChange
      · simpa [heq] using InterfaceChange.kept
  | call | requestSent | controlEnded => exact .kept

end Interfaces

section Owners

variable {crates : Crates}
variable {texts : Texts}
variable {w : World}
variable {s s' : Service}
variable {occurrence : Occurrence}
variable {vm : VmRef}

/-! ### Owners along a step -/

/-- Somebody owns the proxy of this VM. -/
def World.OwnsProxy (w : World) (vm : VmRef) : Prop :=
  w.Holds vm.batch (·.OwnsProxy vm.index)

/-- The worker owns it, or the task does. -/
theorem World.ownsProxy_iff :
    w.OwnsProxy vm ↔
      w.Holds vm.batch (vm.index ∈ ·.worker.owned) ∨
        ∃ task s, w.task? vm = some task ∧ task.Carries s := by
  simp only [World.OwnsProxy, World.Holds, Batch.OwnsProxy, Batch.Carries,
    World.task?_eq_some_iff, Worker.mem_owned_iff]
  constructor
  · rintro ⟨batch, present, s, hs | ⟨task, hget, hs⟩⟩
    · exact .inl ⟨batch, present, s, hs⟩
    · exact .inr ⟨task, s, ⟨batch, present, hget⟩, hs⟩
  · rintro (⟨batch, present, s, hs⟩ | ⟨task, s, ⟨batch, present, hget⟩, hs⟩)
    · exact ⟨batch, present, s, .inl hs⟩
    · exact ⟨batch, present, s, .inr ⟨task, hget, hs⟩⟩

/-- The proxy of a VM is disposed of in this step. -/
def Disposes (s s' : Service) (vm : VmRef) : Prop :=
  ∀ interface interface',
    (s.sides vm).interface = some interface →
    (s'.sides vm).interface = some interface' →
    interface.Disposed interface'

theorem VmTask.ownsProxy_iff
    {task : VmTask} :
    task.ownsProxy = true ↔ ∃ s, task.Carries s := by
  obtain ⟨channel, start, phase⟩ := task
  cases channel <;> cases phase <;> simp [VmTask.ownsProxy, VmTask.Carries]

/-- A task keeps its proxy, or disposes of it. -/
theorem VmStep.carries_or_disposed
    {task task' : VmTask} {side side' : VmSide} {sign : VmSign}
    (h : VmStep crates task side sign task' side')
    (hcarries : ∃ s, task.Carries s) :
    (∃ s, task'.Carries s) ∨
      ∀ interface interface',
        side.interface = some interface →
        side'.interface = some interface' →
        interface.Disposed interface' := by
  cases h with
  | proxyReceived | startReceived | startNeverComes | packetHandled | commandHandled | runEnded =>
      exact .inl ⟨_, .inr rfl⟩
  | proxyNeverComes phase received =>
      obtain ⟨s, hchannel | hphase⟩ := hcarries
      · rw [hchannel] at received
        cases received
      · rw [phase] at hphase
        cases hphase
  | cleanedUp phase owned answers later =>
      refine .inr fun interface interface' hbefore hafter => ?_
      cases owned.symm.trans hbefore
      cases hafter
      exact .finalized answers later
  | cleanupLost phase error answers =>
      refine .inr fun interface interface' hbefore hafter => ?_
      simp only [VmSide.dropProxy, hbefore, Option.map_some, Option.some.injEq] at hafter
      subst hafter
      exact .dropped answers

/-- In one step of a VM its proxy is kept or disposed of, and that of no other VM changes hands. -/
theorem World.ownsProxy_setTask
    {other : VmRef} {task task' : VmTask}
    (spawned : w.task? other = some task)
    (howned : w.OwnsProxy vm)
    (htask : vm = other → (∃ s, task.Carries s) → ∃ s, task'.Carries s) :
    (w.setTask other task').OwnsProxy vm := by
  rw [World.ownsProxy_iff] at howned ⊢
  rcases howned with hworker | ⟨carrier, s, hcarrier, hs⟩
  · exact .inl ((World.holds_setTask_iff spawned fun _ _ => Iff.rfl).mpr hworker)
  · refine .inr ?_
    rw [World.task?_setTask spawned]
    by_cases heq : vm = other
    · subst heq
      cases hcarrier.symm.trans spawned
      obtain ⟨s', hs'⟩ := htask rfl ⟨s, hs⟩
      exact ⟨task', s', if_pos rfl, hs'⟩
    · exact ⟨carrier, s, by rw [if_neg heq, hcarrier], hs⟩

theorem HolderEffect.ownsProxy
    (h : HolderEffect texts s occurrence w)
    (howned : s.world.OwnsProxy vm) :
    w.OwnsProxy vm := by
  cases h with
  | called => exact World.holds_call_iff.mpr (.inl howned)
  | unchanged | reaped | cleared | joined => exact howned

theorem WorkerStep.isWorking_of_proxyBuilt
    {batch batch' : Batch} {index : Nat}
    (h : WorkerStep crates texts batch (.proxyBuilt index) batch') :
    batch'.worker.isWorking = true := by
  cases h
  rfl

/-- A proxy that has an owner has one after the step, or is disposed of. -/
theorem ServiceStep.ownsProxy
    (h : ServiceStep crates texts s occurrence s')
    (hs : s.Coherent)
    (howned : s.world.OwnsProxy vm) :
    s'.world.OwnsProxy vm ∨ Disposes s s' vm := by
  cases h with
  | holder step => exact .inl (step.effect.2.ownsProxy howned)
  | @call b batch batch' _ _ holder present step free =>
      refine .inl ((World.holds_set_iff rfl present).mpr ?_)
      by_cases hb : vm.batch = b
      · subst hb
        obtain ⟨found, hget, hfound⟩ := howned
        cases hget.symm.trans present
        exact .inl ⟨rfl, step.ownsProxy (hs.world.batches _ _ present) hfound⟩
      · exact .inr ⟨hb, howned⟩
  | @worker b batch batch' milestone present step answers =>
      by_cases hb : vm.batch = b
      · subst hb
        obtain ⟨found, hget, hfound⟩ := howned
        cases hget.symm.trans present
        rcases step.ownsProxy hfound with hkept | ⟨hover, hmem⟩
        · exact .inl ((World.holds_set_iff rfl present).mpr (.inl ⟨rfl, hkept⟩))
        · refine .inr fun interface interface' hbefore hafter => ?_
          have hquiet : milestone ≠ .proxyBuilt vm.index := by
            rintro rfl
            rw [step.isWorking_of_proxyBuilt] at hover
            cases hover
          simp only [sidesAfterWorker, if_true, if_neg hquiet, if_pos (And.intro hover hmem),
            VmSide.dropProxy, hbefore, Option.map_some, Option.some.injEq] at hafter
          subst hafter
          exact .dropped _
      · exact .inl ((World.holds_set_iff rfl present).mpr (.inr ⟨hb, howned⟩))
  | @replaced _ _ _ other task _ _ _ _ _ spawned held error answers =>
      by_cases hdropped : vm = other ∧ task.ownsProxy = true
      · obtain ⟨rfl, hdropped⟩ := hdropped
        refine .inr fun interface interface' hbefore hafter => ?_
        simp only [Function.update_self, VmSide.abort, if_pos hdropped, VmSide.dropProxy,
          VmSide.hangUp, hbefore, Option.map_some, Option.some.injEq] at hafter
        subst hafter
        exact .dropped answers
      · refine .inl (World.ownsProxy_setTask spawned howned fun heq hcarries => ?_)
        exact absurd ⟨heq, VmTask.ownsProxy_iff.mpr hcarries⟩ hdropped
  | @vm other task task' _ side' spawned step =>
      by_cases hgone : vm = other ∧ (∃ s, task.Carries s) ∧ ¬ ∃ s, task'.Carries s
      · obtain ⟨rfl, hcarries, hgone⟩ := hgone
        have hdisposed := (step.carries_or_disposed hcarries).resolve_left hgone
        refine .inr fun interface interface' hbefore hafter => hdisposed _ _ hbefore ?_
        simpa using hafter
      · refine .inl (World.ownsProxy_setTask spawned howned fun heq hcarries => ?_)
        by_contra hnone
        exact hgone ⟨heq, hcarries, hnone⟩
  | requestSent | controlEnded => exact .inl howned

end Owners

section Keeping

variable {crates : Crates}
variable {texts : Texts}
variable {s s' : Service}
variable {occurrence : Occurrence}
variable {vm : VmRef}

/-! ## Nothing is lost -/

/-- The worker may have built the proxy at this position. -/
def Worker.MayHaveBuilt (index : Nat) : Worker → Prop
  | .building _ proxies => index < proxies.length
  | .handing _ _ | .finished _ => True
  | .unspawned | .creating => False

theorem BatchStep.mayHaveBuilt
    {b index : Nat} {batch batch' : Batch} {milestone : Milestone}
    (h : BatchStep crates texts b batch milestone batch')
    (hbatch : batch.Sound ∧ batch.worker.MayHaveBuilt index) :
    batch'.Sound ∧ batch'.worker.MayHaveBuilt index := by
  refine ⟨h.sound hbatch.1, ?_⟩
  cases h with
  | call step =>
      cases step with
      | workerSpawned phase =>
          have habsurd := hbatch.2
          rw [hbatch.1.unspawned phase] at habsurd
          exact habsurd
      | registered | joined | workerFailed | cancelled | privilegesDropped | privilegesKept
      | started | returned => exact hbatch.2
  | worker step =>
      cases step with
      | networkCreated phase =>
          have habsurd := hbatch.2
          rw [phase] at habsurd
          cases habsurd
      | proxyBuilt phase =>
          have hlt := hbatch.2
          rw [phase] at hlt
          simpa [Worker.MayHaveBuilt] using Nat.lt_succ_of_lt hlt
      | networkFailed | proxyFailed | allBuilt | handedOver | handoverFailed | completed
      | panicked => trivial
  | task => exact hbatch.2

theorem ServiceStep.mayHaveBuilt
    {b index : Nat}
    (h : ServiceStep crates texts s occurrence s')
    (hs : s.Coherent)
    (hbuilt : s.world.Holds b (·.worker.MayHaveBuilt index)) :
    s'.world.Holds b (·.worker.MayHaveBuilt index) := by
  rcases h.refines hs.busy with hsame | ⟨_, step⟩
  · rwa [hsame]
  · obtain ⟨batch, present, hbatch⟩ := hbuilt
    obtain ⟨batch', present', hbatch'⟩ :=
      step.holds (fun _ _ _ step => step.mayHaveBuilt)
        ⟨batch, present, hs.world.batches b batch present, hbatch⟩
    exact ⟨batch', present', hbatch'.2⟩

/-- A host is built at a position that was not built before, and the worker owns it. -/
theorem ServiceStep.of_built
    (h : ServiceStep crates texts s occurrence s')
    (hlabel : occurrence = .built vm) :
    ¬ s.world.Holds vm.batch (·.worker.MayHaveBuilt vm.index) ∧
      s'.world.Holds vm.batch (·.worker.MayHaveBuilt vm.index) ∧
      s'.world.OwnsProxy vm ∧
      (s'.sides vm).interface = some .new := by
  cases h with
  | holder step => cases step <;> cases hlabel
  | call => exact absurd hlabel (Occurrence.ofCall_ne rfl _ _)
  | @worker b batch batch' milestone present step answers =>
      have hlt := (List.getElem?_eq_some_iff.mp present).1
      cases milestone with
      | proxyBuilt index =>
          cases hlabel
          cases step with
          | @proxyBuilt _ proxies _ _ _ _ _ phase next built =>
              refine ⟨?_, ⟨_, List.getElem?_set_self hlt, ?_⟩, ⟨_, List.getElem?_set_self hlt, ?_⟩,
                ?_⟩
              · rintro ⟨found, hget, hfound⟩
                cases hget.symm.trans present
                rw [phase] at hfound
                exact Nat.lt_irrefl _ hfound
              · simp [Worker.MayHaveBuilt]
              · exact ⟨_, .inl List.getElem?_concat_length⟩
              · simp [sidesAfterWorker]
      | silent | handedOver | privilegesDropped | enteredRun | returnedOk | returnedErr
      | cancelled => cases hlabel
  | @vm _ _ _ sign => cases sign <;> cases hlabel
  | replaced | requestSent | controlEnded => cases hlabel

/-- An interface has an owner as long as no stop of it was attempted. -/
structure Service.Keeps (s : Service) (vm : VmRef) (interface : Interface) : Prop where
  orderly : interface.Orderly
  owned : interface.stops = [] → s.world.OwnsProxy vm
  built : s.world.Holds vm.batch (·.worker.MayHaveBuilt vm.index)

/-- Nobody has lost an interface. -/
def Service.Kept (s : Service) : Prop :=
  ∀ vm interface, (s.sides vm).interface = some interface → s.Keeps vm interface

theorem ServiceStep.kept
    (h : ServiceStep crates texts s occurrence s')
    (hs : s.Coherent)
    (hkept : s.Kept) :
    s'.Kept := by
  intro vm interface' hafter
  have hchange := h.interfaceChange vm
  rw [hafter] at hchange
  generalize hbefore : (s.sides vm).interface = before at hchange
  cases hchange with
  | kept =>
      obtain ⟨horderly, howned, hbuilt⟩ := hkept vm interface' hbefore
      refine ⟨horderly, fun hstops => ?_, h.mayHaveBuilt hs hbuilt⟩
      rcases h.ownsProxy hs (howned hstops) with hstill | hdisposes
      · exact hstill
      · exact absurd hstops ((hdisposes _ _ hbefore hafter).stops_ne_nil horderly)
  | built label =>
      obtain ⟨_, hbuilt, howned, _⟩ := h.of_built label
      exact ⟨Interface.orderly_new, fun _ => howned, hbuilt⟩
  | disposed disposal =>
      obtain ⟨horderly, _, hbuilt⟩ := hkept vm _ hbefore
      have hstops := disposal.stops_ne_nil horderly
      exact ⟨disposal.orderly horderly, fun habsurd => absurd habsurd hstops,
        h.mayHaveBuilt hs hbuilt⟩

/-- The stops of an interface are recorded for good. -/
theorem ServiceStep.stops_isPrefix
    {interface : Interface}
    (h : ServiceStep crates texts s occurrence s')
    (hkept : s.Kept)
    (hbefore : (s.sides vm).interface = some interface) :
    ∃ interface',
      (s'.sides vm).interface = some interface' ∧ interface.stops <+: interface'.stops := by
  have hchange := h.interfaceChange vm
  rw [hbefore] at hchange
  generalize (s'.sides vm).interface = after at hchange
  cases hchange with
  | kept => exact ⟨interface, rfl, List.prefix_rfl⟩
  | built label => exact absurd (hkept vm interface hbefore).built (h.of_built label).1
  | disposed disposal => exact ⟨_, rfl, disposal.stops_isPrefix⟩

end Keeping

section Tracking

variable {crates : Crates}
variable {texts : Texts}
variable {s s' : Service}
variable {occurrence : Occurrence}
variable {vm : VmRef}

/-! ## Tasks that are not over -/

/-- Whoever is reaped is over. -/
theorem HolderEffect.tracks
    {w : World}
    (h : HolderEffect texts s occurrence w)
    (htracks : s.world.manager.Tracks vm) :
    w.manager.Tracks vm ∨ s.world.HasFinished vm := by
  cases h with
  | @reaped vmId _ label tracked finished =>
      obtain ⟨found, hfound⟩ := htracks
      by_cases heq : found = vmId
      · subst heq
        cases hfound.symm.trans tracked
        exact .inr finished
      · exact .inl ⟨found, (Finmap.lookup_erase_ne heq).trans hfound⟩
  | unchanged | called | cleared | joined => exact .inl htracks

theorem ServiceStep.tracks
    (h : ServiceStep crates texts s occurrence s')
    (htracks : s.world.manager.Tracks vm) :
    s'.world.manager.Tracks vm ∨ s.world.HasFinished vm := by
  cases h with
  | holder step => exact step.effect.2.tracks htracks
  | call holder present step free =>
      rcases step.registers_cases with ⟨next, phase, hnext, hmanager, _⟩ | ⟨_, htasks, _⟩
      · obtain ⟨vmId, htracked⟩ := htracks
        by_cases heq : vmId = next.vmId
        · subst heq
          exact .inr (free next vm phase hnext htracked)
        · refine .inl ⟨vmId, ?_⟩
          rw [hmanager, Manager.register, Finmap.lookup_insert_of_ne _ heq, htracked]
      · rw [Manager.Tracks, htasks]
        exact .inl htracks
  | replaced | worker | vm | requestSent | controlEnded => exact .inl htracks

/-- Tasks that are not over are those of the manager; the others own nothing. -/
structure Service.Tracked (s : Service) : Prop where
  tracks :
    ∀ vm task, s.world.task? vm = some task → task.IsOpen → s.world.manager.Tracks vm
  released : ∀ vm task, s.world.task? vm = some task → task.IsReleased

theorem Service.tracked_new (control : Option ControlTask) : (Service.new control).Tracked := by
  constructor <;> simp [Service.new, World.new, World.task?]

theorem ServiceStep.tracked
    (h : ServiceStep crates texts s occurrence s')
    (hs : s.Tracked) :
    s'.Tracked := by
  refine ⟨fun vm task' hafter hopen => ?_, fun vm task' hafter => ?_⟩
  · rcases (h.taskChange hafter).isOpen hopen with htracks | ⟨task, hbefore, hopen⟩
    · exact htracks
    · have hbefore' := hs.tracks vm task hbefore hopen
      rcases h.tracks hbefore' with htracks | ⟨found, result, hfound, hover⟩
      · exact htracks
      · cases hbefore.symm.trans hfound
        exact absurd hover (hopen result)
  · exact (h.taskChange hafter).isReleased fun task hbefore => hs.released vm task hbefore

end Tracking

section Shutdown

variable {crates : Crates}
variable {texts : Texts}
variable {s s' : Service}
variable {vm : VmRef}
variable {history : List (Step Service Occurrence)}

/-! ## After a shutdown -/

theorem ServiceRun.kept (run : ServiceRun crates texts history s) : s.Kept :=
  (run.invariant (I := Service.Kept) (fun _ _ _ => nofun) fun _ _ _ hs hkept h => h.kept hs hkept).2

theorem ServiceRun.tracked (run : ServiceRun crates texts history s) : s.Tracked :=
  (run.invariant (I := Service.Tracked) Service.tracked_new fun _ _ _ _ htracked h =>
    h.tracked htracked).2

theorem Worker.isWorking_of_mem_owned
    {worker : Worker} {index : Nat}
    (h : index ∈ worker.owned) :
    worker.isWorking = true := by
  cases worker with
  | building | handing => rfl
  | unspawned | creating | finished => cases h

/-- When the worker and the tasks are joined, nobody owns a proxy any more. -/
theorem Service.Tracked.not_ownsProxy
    (htracked : s.Tracked)
    (hs : s.Coherent)
    (hworker : s.world.manager.initialization = none)
    (htasks : s.world.manager.proxyTasks = ∅) :
    ¬ s.world.OwnsProxy vm := by
  rw [World.ownsProxy_iff]
  rintro (⟨batch, present, hmem⟩ | ⟨task, proxy, htask, hcarries⟩)
  · have hretained := hs.working vm.batch ⟨batch, present, Worker.isWorking_of_mem_owned hmem⟩
    rw [hworker] at hretained
    cases hretained
  · by_cases hopen : task.IsOpen
    · obtain ⟨vmId, hlookup⟩ := htracked.tracks vm task htask hopen
      rw [htasks, Finmap.lookup_empty] at hlookup
      cases hlookup
    · obtain ⟨result, hover⟩ := not_forall_not.mp hopen
      rcases hcarries with hchannel | hphase
      · cases (htracked.released vm task htask result hover).symm.trans hchannel
      · rw [hover] at hphase
        cases hphase

/-- A shutdown returns when it has joined everything. -/
theorem HolderStep.of_shutdownReturned
    {occurrence : Occurrence} {result : Except ErrorChain Unit}
    (h : HolderStep texts s occurrence s')
    (hs : s.Coherent)
    (hlabel : occurrence = .shutdownReturned result) :
    s'.world = s.world ∧
      s'.sides = s.sides ∧
      s'.world.manager.proxyTasks = ∅ ∧
      s'.world.manager.proxyHandles = ∅ ∧
      s'.world.manager.initialization = none ∧
      s'.control = none := by
  cases h with
  | shutdownReturned joining tasks =>
      obtain ⟨hhandles, hcontrol⟩ := hs.cleared (by rw [joining]; rfl)
      exact ⟨rfl, rfl, Manager.eq_empty_of_hasNoTasks tasks, hhandles, hs.joined _ joining,
        hcontrol⟩
  | initializeRejected | initializeCalled | runStarted | reaped | controlGone | requestRejected
  | requestCalled | misaddressed | addressed | accepted | unaccepted | acknowledged
  | unacknowledged | ranOut | runReturned | callsDrained | controlJoined | shutdownStarted
  | noWorker | workerJoined | taskJoined | cancelled => cases hlabel

/-- The interface of a host that was built is still known. -/
theorem ServiceRun.interface_of_built
    {t : Step Service Occurrence}
    (run : ServiceRun crates texts history s)
    (ht : t ∈ history)
    (hlabel : t.label = .built vm) :
    ∃ interface, (s.sides vm).interface = some interface := by
  obtain ⟨control, run⟩ := run
  obtain ⟨before, after, hcut⟩ := List.append_of_mem ht
  obtain ⟨first, taken, rest⟩ := run.split hcut
  have hpost : ServiceRun crates texts (before ++ [t]) t.post := ⟨control, first.snoc taken⟩
  refine (rest.invariant
    (I := fun s => s.Coherent ∧ s.Kept ∧ ∃ interface, (s.sides vm).interface = some interface)
    ⟨hpost.coherent, hpost.kept, _, (taken.of_built hlabel).2.2.2⟩ ?_).2.2
  rintro s occurrence s' ⟨hs, hkept, interface, hbefore⟩ h
  obtain ⟨interface', hafter, _⟩ := h.stops_isPrefix hkept hbefore
  exact ⟨h.coherent hs, h.kept hs hkept, interface', hafter⟩

/--
Shutdown leaks nothing.  Whatever became of `initialize`, of the VM tasks and of earlier
calls, once a shutdown has returned the manager has no tasks, handles, worker or control task
left, and a stop of the interface of every host that was built has been attempted.  No
interface is stopped again after a stop that succeeded, no host is built in the place of
another, and no stop is struck from the record.
-/
theorem shutdown_leaks_nothing
    (run : ServiceRun crates texts history s) :
    (∀ before t after result,
      history = before ++ t :: after →
      t.label = .shutdownReturned result →
      t.post.world.manager.proxyTasks = ∅ ∧
      t.post.world.manager.proxyHandles = ∅ ∧
      t.post.world.manager.initialization = none ∧
      t.post.control = none ∧
      ∀ u ∈ before, ∀ vm, u.label = .built vm →
        ∃ interface, (t.post.sides vm).interface = some interface ∧ interface.stops ≠ []) ∧
    (∀ vm interface,
      (s.sides vm).interface = some interface → true ∉ interface.stops.dropLast) ∧
    (∀ t ∈ history, ∀ vm, t.label = .built vm → (t.pre.sides vm).interface = none) ∧
    (∀ t ∈ history, ∀ vm interface,
      (t.pre.sides vm).interface = some interface →
      ∃ interface',
        (t.post.sides vm).interface = some interface' ∧
        interface.stops <+: interface'.stops) := by
  obtain ⟨control, hrun⟩ := id run
  have hpre : ∀ {before t after}, history = before ++ t :: after →
      ServiceRun crates texts before t.pre ∧ ServiceStep crates texts t.pre t.label t.post :=
    fun hcut => ⟨⟨control, (hrun.split hcut).1⟩, (hrun.split hcut).2.1⟩
  refine ⟨?_, fun vm interface h => (run.kept vm interface h).orderly.once, ?_, ?_⟩
  · intro before t after result hcut hlabel
    obtain ⟨hbefore, taken⟩ := hpre hcut
    obtain ⟨hworld, hsides, htasks, hhandles, hworker, hcontrol⟩ :=
      (taken.holderStep (by rw [hlabel]; rfl)).of_shutdownReturned hbefore.coherent hlabel
    refine ⟨htasks, hhandles, hworker, hcontrol, fun u hu vm hbuilt => ?_⟩
    obtain ⟨interface, hinterface⟩ := hbefore.interface_of_built hu hbuilt
    refine ⟨interface, by rw [hsides, hinterface], fun hstops => ?_⟩
    rw [hworld] at htasks hworker
    exact hbefore.tracked.not_ownsProxy hbefore.coherent hworker htasks
      ((hbefore.kept vm interface hinterface).owned hstops)
  · intro t ht vm hlabel
    obtain ⟨before, after, hcut⟩ := List.append_of_mem ht
    obtain ⟨hbefore, taken⟩ := hpre hcut
    by_contra hsome
    obtain ⟨interface, hinterface⟩ := Option.ne_none_iff_exists'.mp hsome
    exact (taken.of_built hlabel).1 (hbefore.kept vm interface hinterface).built
  · intro t ht vm interface hinterface
    obtain ⟨before, after, hcut⟩ := List.append_of_mem ht
    obtain ⟨hbefore, taken⟩ := hpre hcut
    exact taken.stops_isPrefix hbefore.kept hinterface

/-- The interfaces of both VMs are stopped by the time that the manager is shut down. -/
theorem shutdown_leaks_nothing_complete :
    ∃ before t s,
      ServiceRun plainCrates plainTexts (before ++ [t]) s ∧
      t.label = .shutdownReturned (.ok ()) ∧
      t.post.world.manager.proxyTasks = ∅ ∧
      ∀ index < 2, ∃ interface,
        (t.post.sides ⟨0, index⟩).interface = some interface ∧
        interface.stops ≠ [] := by
  obtain ⟨before, t, s, run, hlabel, hbuilt, _⟩ := exists_complete_run plainCrates plainTexts
  obtain ⟨hshutdown, _⟩ := shutdown_leaks_nothing run
  obtain ⟨htasks, _, _, _, hstopped⟩ := hshutdown before t [] _ rfl hlabel
  refine ⟨before, t, s, run, hlabel, htasks, fun index hindex => ?_⟩
  obtain ⟨u, hu, hlabel⟩ := hbuilt index hindex
  exact hstopped u hu ⟨0, index⟩ hlabel

end Shutdown

end Softnet
