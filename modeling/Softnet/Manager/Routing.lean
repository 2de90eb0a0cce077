import Softnet.Manager.VmTasks
import Softnet.Proxy.PolicyUpdates

/-!
# Policy requests reach the VM they name

The manager keeps two maps of its VMs by their identities, the handles and the tasks, and
the identity that a request without a target is for.  They are changed on different paths:
by `initialize`, by whoever reaps a task, and by `shutdown`.

`Service.Routed` says what the three have to do with each other and with the VMs that
were registered, given the identities that have been reaped.  It is kept by every step as
long as no identity is issued twice.
-/

namespace Softnet

open Transition

section Identities

variable {crates : Crates}
variable {texts : Texts}
variable {w w' : World}
variable {vm : VmRef}
variable {vmId : Uuid}

/-! ## Identities -/

/-- The VM at this position of the batch was issued this identity. -/
def Batch.Issues (batch : Batch) (index : Nat) (vmId : Uuid) : Prop :=
  ∃ vm, batch.plan.vms[index]? = some vm ∧ vm.vmId = vmId

/-- The VM was issued this identity, and has a task. -/
def Batch.SpawnedAs (batch : Batch) (index : Nat) (vmId : Uuid) : Prop :=
  index < batch.tasks.length ∧ batch.Issues index vmId

def World.Issues (w : World) (vm : VmRef) (vmId : Uuid) : Prop :=
  w.Holds vm.batch (·.Issues vm.index vmId)

def World.SpawnedAs (w : World) (vm : VmRef) (vmId : Uuid) : Prop :=
  w.Holds vm.batch (·.SpawnedAs vm.index vmId)

/-- No identity is issued twice. -/
def World.IssuesDistinct (w : World) : Prop :=
  ∀ vm vm' vmId, w.Issues vm vmId → w.Issues vm' vmId → vm = vm'

theorem World.SpawnedAs.issues
    (h : w.SpawnedAs vm vmId) :
    w.Issues vm vmId := by
  obtain ⟨batch, present, _, hissues⟩ := h
  exact ⟨batch, present, hissues⟩

theorem WorldStep.issues
    {happening : Happening}
    (h : WorldStep crates texts w happening w')
    (hbefore : w.Issues vm vmId) :
    w'.Issues vm vmId := by
  refine h.holds (fun batch milestone batch' step hissues => ?_) hbefore
  rwa [Batch.Issues, step.plan_eq]

/-- A batch of the same plan and with as many tasks has spawned the same VMs. -/
theorem World.spawnedAs_set_iff
    {b : Nat} {batch batch' : Batch}
    (hbatches : w'.batches = w.batches.set b batch')
    (present : w.batches[b]? = some batch)
    (hplan : batch'.plan = batch.plan)
    (htasks : batch'.tasks.length = batch.tasks.length) :
    w'.SpawnedAs vm vmId ↔ w.SpawnedAs vm vmId :=
  World.holds_set_congr hbatches present (by
    simp only [Batch.SpawnedAs, Batch.Issues, hplan, htasks])

theorem World.spawnedAs_setTask_iff
    {task task' : VmTask} {other : VmRef}
    (spawned : w.task? other = some task) :
    (w.setTask other task').SpawnedAs vm vmId ↔ w.SpawnedAs vm vmId := by
  obtain ⟨batch, present, _⟩ := World.task?_eq_some_iff.mp spawned
  rw [World.setTask_eq_update present]
  exact World.spawnedAs_set_iff rfl present rfl List.length_set

theorem World.spawnedAs_call_iff
    {plan : Plan} :
    (w.call plan).SpawnedAs vm vmId ↔ w.SpawnedAs vm vmId := by
  refine World.holds_call_iff.trans (or_iff_left ?_)
  rintro ⟨_, habsurd, _⟩
  exact Nat.not_lt_zero _ habsurd

/-- The VM that is registered next joins those that are spawned. -/
theorem World.spawnedAs_register_iff
    {b : Nat} {batch : Batch} {next : ConfiguredVm}
    (hbatches : w'.batches = w.batches.set b { batch with tasks := batch.tasks ++ [.spawned] })
    (present : w.batches[b]? = some batch)
    (hnext : batch.plan.vms[batch.tasks.length]? = some next) :
    w'.SpawnedAs vm vmId ↔
      w.SpawnedAs vm vmId ∨ (vm = ⟨b, batch.tasks.length⟩ ∧ next.vmId = vmId) := by
  obtain ⟨c, index⟩ := vm
  rw [World.SpawnedAs, World.holds_set_iff hbatches present]
  simp only [Batch.SpawnedAs, List.length_append, List.length_singleton, Nat.lt_succ_iff_lt_or_eq]
  constructor
  · rintro (⟨rfl, hlt | heq, hissues⟩ | ⟨_, hother⟩)
    · exact .inl ⟨batch, present, hlt, hissues⟩
    · obtain ⟨found, hfound, rfl⟩ := hissues
      cases heq
      cases hfound.symm.trans hnext
      exact .inr ⟨rfl, rfl⟩
    · exact .inl hother
  · rintro (⟨found, hget, hlt, hissues⟩ | ⟨heq, rfl⟩)
    · by_cases hc : c = b
      · subst hc
        cases hget.symm.trans present
        exact .inl ⟨rfl, .inl hlt, hissues⟩
      · exact .inr ⟨hc, found, hget, hlt, hissues⟩
    · cases heq
      exact .inl ⟨rfl, .inr rfl, next, hnext, rfl⟩

end Identities

section Listing

variable {crates : Crates}
variable {texts : Texts}
variable {w w' : World}
variable {gone gone' : Uuid → Prop}

/-! ## The tasks of the manager -/

/-- The tasks of the manager are those that were spawned and are not gone. -/
structure World.Listed (gone : Uuid → Prop) (w : World) : Prop where
  tracked :
    ∀ vmId vm, w.manager.proxyTasks.lookup vmId = some vm → ¬ gone vmId ∧ w.SpawnedAs vm vmId
  spawned :
    ∀ vm vmId, w.SpawnedAs vm vmId → gone vmId ∨ w.manager.proxyTasks.lookup vmId = some vm
  gone : ∀ vmId, gone vmId → ∃ vm, w.SpawnedAs vm vmId

theorem World.listed_new : World.new.Listed fun _ => False := by
  constructor <;> simp [World.new, Manager.new, World.SpawnedAs, World.Holds]

theorem World.Listed.of_same
    (hw : w.Listed gone)
    (hgone : ∀ vmId, gone' vmId ↔ gone vmId)
    (hspawned : ∀ vm vmId, w'.SpawnedAs vm vmId ↔ w.SpawnedAs vm vmId)
    (htasks : w'.manager.proxyTasks = w.manager.proxyTasks) :
    w'.Listed gone' := by
  obtain rfl : gone' = gone := funext fun vmId => propext (hgone vmId)
  refine ⟨?_, ?_, ?_⟩
  · simpa only [htasks, hspawned] using hw.tracked
  · simpa only [htasks, hspawned] using hw.spawned
  · simpa only [hspawned] using hw.gone

/-- A VM is registered under an identity that was not issued before. -/
theorem World.Listed.register
    {b : Nat} {batch : Batch} {next : ConfiguredVm}
    (hw : w.Listed gone)
    (distinct : w.IssuesDistinct)
    (hbatches : w'.batches = w.batches.set b { batch with tasks := batch.tasks ++ [.spawned] })
    (hmanager : w'.manager = w.manager.register next.vmId ⟨b, batch.tasks.length⟩)
    (present : w.batches[b]? = some batch)
    (hnext : batch.plan.vms[batch.tasks.length]? = some next) :
    w'.Listed gone := by
  have hspawned : ∀ vm vmId, w'.SpawnedAs vm vmId ↔
      w.SpawnedAs vm vmId ∨ (vm = ⟨b, batch.tasks.length⟩ ∧ next.vmId = vmId) :=
    fun _ _ => World.spawnedAs_register_iff hbatches present hnext
  have hfresh : ∀ vm, ¬ w.SpawnedAs vm next.vmId := by
    intro vm h
    obtain rfl := distinct vm ⟨b, batch.tasks.length⟩ next.vmId h.issues
      ⟨batch, present, next, hnext, rfl⟩
    obtain ⟨found, hget, hlt, _⟩ := h
    cases hget.symm.trans present
    exact Nat.lt_irrefl _ hlt
  have hlookup : ∀ vmId, w'.manager.proxyTasks.lookup vmId =
      if vmId = next.vmId then some ⟨b, batch.tasks.length⟩
      else w.manager.proxyTasks.lookup vmId := by
    intro vmId
    split
    · next heq => rw [hmanager, heq, Manager.register, Finmap.lookup_insert]
    · next hne => rw [hmanager, Manager.register, Finmap.lookup_insert_of_ne _ hne]
  refine ⟨fun vmId vm htracked => ?_, fun vm vmId h => ?_, fun vmId hgone => ?_⟩
  · rw [hlookup] at htracked
    split at htracked
    · next heq =>
        cases htracked
        refine ⟨fun hgone => ?_, (hspawned _ _).mpr (.inr ⟨rfl, heq.symm⟩)⟩
        obtain ⟨vm, h⟩ := hw.gone vmId hgone
        exact hfresh vm (heq ▸ h)
    · exact (hw.tracked vmId vm htracked).imp_right fun h => (hspawned _ _).mpr (.inl h)
  · rw [hlookup]
    rcases (hspawned _ _).mp h with hbefore | ⟨rfl, heq⟩
    · rw [if_neg fun heq : vmId = next.vmId => hfresh vm (heq ▸ hbefore)]
      exact hw.spawned vm vmId hbefore
    · exact .inr (if_pos heq.symm)
  · obtain ⟨vm, h⟩ := hw.gone vmId hgone
    exact ⟨vm, (hspawned _ _).mpr (.inl h)⟩

/-- The identity of a task that is reaped is gone. -/
theorem World.Listed.reap
    {vmId : Uuid} {vm : VmRef}
    (hw : w.Listed gone)
    (htracked : w.manager.proxyTasks.lookup vmId = some vm)
    (hgone : ∀ other, gone' other ↔ gone other ∨ other = vmId) :
    (w.setManager (w.manager.reap vmId)).Listed gone' := by
  have hlookup : ∀ other, (w.manager.reap vmId).proxyTasks.lookup other =
      if other = vmId then none else w.manager.proxyTasks.lookup other := by
    intro other
    split
    · next heq => rw [heq, Manager.reap, Finmap.lookup_erase]
    · next hne => rw [Manager.reap, Finmap.lookup_erase_ne hne]
  refine ⟨fun other found h => ?_, fun found other h => ?_, fun other h => ?_⟩
  · rw [World.setManager, hlookup] at h
    split at h
    · cases h
    · next hne =>
        refine (hw.tracked other found h).imp_left fun hbefore hafter => ?_
        exact ((hgone other).mp hafter).elim hbefore hne
  · rw [World.setManager, hlookup, hgone]
    split
    · next heq => exact .inl (.inr heq)
    · exact (hw.spawned found other h).imp_left .inl
  · rcases (hgone other).mp h with hbefore | rfl
    · exact hw.gone other hbefore
    · exact ⟨vm, (hw.tracked _ vm htracked).2⟩

end Listing

section Steps

variable {crates : Crates}
variable {texts : Texts}
variable {s s' : Service}
variable {occurrence : Occurrence}
variable {gone : Uuid → Prop}

/-! ## Steps -/

theorem HolderEffect.listed
    {w : World}
    (h : HolderEffect texts s occurrence w)
    (hs : s.world.Listed gone) :
    w.Listed fun vmId => gone vmId ∨ occurrence = .reaped vmId := by
  cases h with
  | reaped label tracked finished =>
      refine hs.reap tracked fun other => ?_
      simp [label, eq_comm]
  | called quiet prepared =>
      exact hs.of_same (fun vmId => or_iff_left (quiet vmId)) (fun _ _ => World.spawnedAs_call_iff)
        rfl
  | unchanged quiet | cleared quiet | joined quiet =>
      exact hs.of_same (fun vmId => or_iff_left (quiet vmId)) (fun _ _ => Iff.rfl) rfl

theorem ServiceStep.listed
    (h : ServiceStep crates texts s occurrence s')
    (hs : s.world.Listed gone)
    (distinct : s.world.IssuesDistinct) :
    s'.world.Listed fun vmId => gone vmId ∨ occurrence = .reaped vmId := by
  by_cases hholder : HolderStep texts s occurrence s'
  · exact hholder.effect.2.listed hs
  · have hgone : ∀ vmId, gone vmId ∨ occurrence = .reaped vmId ↔ gone vmId :=
      fun vmId => or_iff_left fun hlabel => hholder (h.holderStep (by rw [hlabel]; rfl))
    cases h with
    | holder step => exact absurd step hholder
    | call holder present step free =>
        rcases step.registers_cases with ⟨next, _, hnext, hmanager, rfl⟩ | ⟨_, htasks, hlength⟩
        · exact (hs.register distinct rfl hmanager present hnext).of_same hgone
            (fun _ _ => Iff.rfl) rfl
        · exact hs.of_same hgone
            (fun _ _ => World.spawnedAs_set_iff rfl present step.frame.1 hlength) htasks
    | worker present step answers =>
        exact hs.of_same hgone
          (fun _ _ => World.spawnedAs_set_iff rfl present step.frame.2.1 step.length_tasks_eq) rfl
    | replaced holder present registering registered tracked spawned held error answers =>
        exact hs.of_same hgone (fun _ _ => World.spawnedAs_setTask_iff spawned) rfl
    | vm spawned step =>
        exact hs.of_same hgone (fun _ _ => World.spawnedAs_setTask_iff spawned) rfl
    | requestSent | controlEnded => exact hs.of_same hgone (fun _ _ => Iff.rfl) rfl

/-! ### The handles -/

/-- Inside of `run`. -/
def Activity.isRunning : Activity → Bool
  | .running | .dispatching | .offering _ _ _ | .acknowledging _ _
  | .finishingControl _ .keepRunning | .finishingControl _ (.endRun _) | .leaving _ => true
  | .idle | .initializing | .finishingControl _ .shutDown | .joiningWorker | .joiningTasks _ =>
      false

/-- The command channels were not closed by `shutdown`. -/
def Service.IsOpen (s : Service) : Prop :=
  s.activity.isRunning = true ∨ s.condemned = false ∧ s.activity.isJoining = false

/-- Every task has its handle, and no handle is left of another one. -/
def Manager.HandlesTasks (manager : Manager) : Prop :=
  manager.proxyHandles = manager.proxyTasks

theorem HolderStep.handlesTasks
    (h : HolderStep texts s occurrence s')
    (hs : s.Coherent)
    (hbefore : s.IsOpen → s.world.manager.HandlesTasks)
    (hopen : s'.IsOpen) :
    s'.world.manager.HandlesTasks := by
  cases h with
  | initializeRejected | requestRejected | misaddressed => exact hbefore hopen
  | initializeCalled idle sane | runStarted idle sane =>
      exact hbefore (.inr ⟨sane, by rw [idle]; rfl⟩)
  | @reaped vmId _ _ _ running =>
      have hsame : s.world.manager.proxyHandles = s.world.manager.proxyTasks :=
        hbefore (.inl (by rw [running]; rfl))
      exact congrArg (·.erase vmId) hsame
  | controlGone holds | requestCalled holds | addressed holds | accepted holds
  | unaccepted holds | acknowledged holds | unacknowledged holds | ranOut holds
  | runReturned holds => exact hbefore (.inl (by rw [holds]; rfl))
  | @callsDrained goal finishing =>
      refine hbefore ?_
      rw [Service.IsOpen, finishing]
      cases goal <;> exact hopen
  | @controlJoined goal finishing ended =>
      cases goal with
      | keepRunning | endRun => exact hbefore (.inl (by rw [finishing]; rfl))
      | shutDown => rcases hopen with habsurd | ⟨_, habsurd⟩ <;> cases habsurd
  | shutdownStarted idle =>
      rcases hopen with habsurd | ⟨sane, _⟩
      · cases habsurd
      · exact hbefore (.inr ⟨sane, by rw [idle]; rfl⟩)
  | noWorker | workerJoined | taskJoined =>
      rcases hopen with habsurd | ⟨_, habsurd⟩ <;> cases habsurd
  | shutdownReturned joining tasks =>
      exact (hs.cleared (by rw [joining]; rfl)).1.trans (Manager.eq_empty_of_hasNoTasks tasks).symm
  | cancelled => rcases hopen with habsurd | ⟨habsurd, _⟩ <;> cases habsurd

theorem ServiceStep.handlesTasks
    (h : ServiceStep crates texts s occurrence s')
    (hs : s.Coherent)
    (hbefore : s.IsOpen → s.world.manager.HandlesTasks)
    (hopen : s'.IsOpen) :
    s'.world.manager.HandlesTasks := by
  cases h with
  | holder step => exact step.handlesTasks hs hbefore hopen
  | call holder present step free =>
      obtain ⟨hcalling, hsane⟩ := hs.sane_of_busy holder
      have hsame : s.world.manager.proxyHandles = s.world.manager.proxyTasks := by
        refine hbefore (.inr ⟨hsane, ?_⟩)
        cases hactivity : s.activity <;> rw [hactivity] at hcalling <;> first | rfl | cases hcalling
      rcases step.registers_cases with ⟨next, _, _, hmanager, _⟩ | ⟨hhandles, htasks, _⟩
      · simp only [Manager.HandlesTasks, hmanager, Manager.register, hsame]
      · exact hhandles.trans (hsame.trans htasks.symm)
  | @vm vm _ _ sign _ spawned step =>
      refine hbefore ?_
      rcases s.activity.hear_cases vm sign with hsame | ⟨_, _, _, hwaiting, _⟩
      · rw [Service.IsOpen, hsame] at hopen
        exact hopen
      · exact .inl (by rw [hwaiting]; rfl)
  | replaced | worker | requestSent | controlEnded => exact hbefore hopen

/-! ### The target of a request -/

/-- A request that waits is for the VM whose handle was looked up. -/
def Service.OffersNamed (texts : Texts) (s : Service) : Prop :=
  ∀ vm target command, s.activity = .offering vm target command →
    s.world.manager.proxyHandle texts target = .ok vm

theorem Activity.afterReap_cases (result : Except ErrorChain Unit) (last : Bool) :
    Activity.afterReap result last = .running ∨
      (∃ result', Activity.afterReap result last = .leaving result') ∨
      ∃ goal, Activity.afterReap result last = .finishingControl false goal := by
  rcases result with error | ⟨⟨⟩⟩
  · exact .inr (.inl ⟨_, rfl⟩)
  · cases last with
    | false => exact .inl rfl
    | true => exact .inr (.inr ⟨_, rfl⟩)

theorem HolderStep.offersNamed
    (h : HolderStep texts s occurrence s') :
    s'.OffersNamed texts := by
  intro vm target command hactivity
  cases h with
  | addressed running received found =>
      cases hactivity
      exact found
  | initializeRejected holds | requestRejected holds | misaddressed holds =>
      cases holds.symm.trans hactivity
  | reaped running =>
      rcases Activity.afterReap_cases _ _ with hafter | ⟨_, hafter⟩ | ⟨_, hafter⟩ <;>
        cases hafter.symm.trans hactivity
  | @controlJoined goal => cases goal <;> cases hactivity
  | initializeCalled | runStarted | controlGone | requestCalled | accepted | unaccepted
  | acknowledged | unacknowledged | ranOut | runReturned | callsDrained | shutdownStarted
  | noWorker | workerJoined | taskJoined | shutdownReturned | cancelled => cases hactivity

theorem ServiceStep.offersNamed
    (h : ServiceStep crates texts s occurrence s')
    (hs : s.Coherent)
    (hbefore : s.OffersNamed texts) :
    s'.OffersNamed texts := by
  cases h with
  | holder step => exact step.offersNamed
  | @call _ _ _ milestone _ holder =>
      obtain ⟨hcalling, _⟩ := hs.sane_of_busy holder
      intro vm target command hactivity
      change s.activity.afterCall milestone = _ at hactivity
      cases hbusy : s.activity <;> rw [hbusy] at hcalling hactivity <;> cases hcalling <;>
        cases milestone <;> cases hactivity
  | @vm vm _ _ sign _ spawned step =>
      intro other target command hactivity
      rcases s.activity.hear_cases vm sign with hsame | ⟨_, _, _, _, hafter⟩
      · exact hbefore other target command (hsame.symm.trans hactivity)
      · cases hafter.symm.trans hactivity
  | replaced | worker | requestSent | controlEnded => exact hbefore

end Steps

section Runs

variable {crates : Crates}
variable {texts : Texts}
variable {s s' : Service}
variable {history : List (Step Service Occurrence)}

/-! ## Runs -/

/-- How the manager finds its VMs, where these identities are gone. -/
structure Service.Routed (texts : Texts) (gone : Uuid → Prop) (s : Service) : Prop where
  listed : s.world.Listed gone
  handles : s.IsOpen → s.world.manager.HandlesTasks
  offers : s.OffersNamed texts

theorem Service.routed_new (control : Option ControlTask) :
    (Service.new control).Routed texts fun _ => False :=
  ⟨World.listed_new, fun _ => rfl, nofun⟩

theorem ServiceStep.issues
    {occurrence : Occurrence} {vm : VmRef} {vmId : Uuid}
    (h : ServiceStep crates texts s occurrence s')
    (hs : s.Coherent)
    (hbefore : s.world.Issues vm vmId) :
    s'.world.Issues vm vmId := by
  rcases h.refines hs.busy with hsame | ⟨_, step⟩
  · rwa [hsame]
  · exact step.issues hbefore

/-- What holds of a batch, and is kept by its steps, holds from then on. -/
theorem Run.holds
    {b : Nat} {P : Batch → Prop} {later : List (Step Service Occurrence)}
    (hkeep :
      ∀ batch milestone batch', BatchStep crates texts b batch milestone batch' →
        P batch → P batch')
    (run : Run (ServiceStep crates texts) s later s')
    (hs : s.Coherent)
    (hbefore : s.world.Holds b P) :
    s'.world.Holds b P := by
  refine (run.invariant (I := fun s => s.Coherent ∧ s.world.Holds b P) ⟨hs, hbefore⟩ ?_).2
  intro s occurrence s' ⟨hs, hholds⟩ h
  refine ⟨h.coherent hs, ?_⟩
  rcases h.refines hs.busy with hsame | ⟨_, step⟩
  · rwa [hsame]
  · exact step.holds hkeep hholds

/-- Identities that are distinct now were distinct at any time before. -/
theorem Run.issuesDistinct
    {later : List (Step Service Occurrence)}
    (run : Run (ServiceStep crates texts) s later s')
    (hs : s.Coherent)
    (distinct : s'.world.IssuesDistinct) :
    s.world.IssuesDistinct := by
  have hlater : ∀ vm vmId, s.world.Issues vm vmId → s'.world.Issues vm vmId := by
    intro vm vmId hissues
    refine (run.invariant (I := fun s => s.Coherent ∧ s.world.Issues vm vmId) ⟨hs, hissues⟩ ?_).2
    exact fun _ _ _ hbefore h => ⟨h.coherent hbefore.1, h.issues hbefore.1 hbefore.2⟩
  exact fun vm vm' vmId h h' => distinct vm vm' vmId (hlater vm vmId h) (hlater vm' vmId h')

/-- The task of this identity has been reaped. -/
def HasReaped (history : List (Step Service Occurrence)) (vmId : Uuid) : Prop :=
  ∃ t ∈ history, t.label = .reaped vmId

theorem ServiceRun.routed
    (run : ServiceRun crates texts history s)
    (distinct : s.world.IssuesDistinct) :
    s.Routed texts (HasReaped history) := by
  obtain ⟨control, run⟩ := run
  induction run with
  | nil =>
      have hnone : HasReaped [] = fun _ => False := by
        funext vmId
        simp [HasReaped]
      rw [hnone]
      exact Service.routed_new control
  | @snoc history s s' occurrence run taken ih =>
      have hs : s.Coherent := ServiceRun.coherent ⟨control, run⟩
      have hbefore : s.world.IssuesDistinct :=
        Run.issuesDistinct (Run.nil.snoc taken) hs distinct
      obtain ⟨hlisted, hhandles, hoffers⟩ := ih hbefore
      refine ⟨?_, taken.handlesTasks hs hhandles, taken.offersNamed hs hoffers⟩
      refine (taken.listed hlisted hbefore).of_same (fun vmId => ?_) (fun _ _ => Iff.rfl) rfl
      simp [HasReaped, or_and_right, exists_or]

end Runs

section Requests

variable {crates : Crates}
variable {texts : Texts}
variable {w w' : World}
variable {s s' : Service}
variable {occurrence : Occurrence}
variable {vm : VmRef}
variable {command : Command}

/-! ## Requests -/

theorem Plan.defaultVmId_eq_some_iff
    {plan : Plan} {vmId : Uuid} :
    plan.defaultVmId = some vmId ↔ ∃ vm, plan.vms = [vm] ∧ vm.vmId = vmId := by
  unfold Plan.defaultVmId
  split
  · next vm heq => simp [heq]
  · next hother =>
      refine ⟨nofun, ?_⟩
      rintro ⟨vm, heq, _⟩
      exact absurd heq (hother vm)

/-- The default target is the only VM of a batch. -/
def World.DefaultIssued (w : World) : Prop :=
  ∀ vmId, w.manager.defaultVmId = some vmId → ∃ b, w.Holds b (·.plan.defaultVmId = some vmId)

theorem WorldStep.defaultIssued
    {happening : Happening}
    (h : WorldStep crates texts w happening w')
    (hw : w.DefaultIssued) :
    w'.DefaultIssued := by
  intro vmId hdefault
  have hkeep : w.manager.defaultVmId = some vmId →
      ∃ b, w'.Holds b (·.plan.defaultVmId = some vmId) := by
    intro hbefore
    obtain ⟨b, hb⟩ := hw vmId hbefore
    exact ⟨b, h.holds (fun _ _ _ step hplan => by rwa [step.plan_eq]) hb⟩
  cases h with
  | @call b _ _ _ _ holder present step =>
      cases step with
      | privilegesDropped phase =>
          have hlt := (List.getElem?_eq_some_iff.mp present).1
          exact ⟨b, _, List.getElem?_set_self hlt, hdefault⟩
      | registered | workerSpawned | joined | workerFailed | cancelled | privilegesKept | started
      | returned => exact hkeep hdefault
  | rejected | called | worker | task | reaped | handlesCleared | workerJoined =>
      exact hkeep hdefault

theorem WorldRun.defaultIssued
    {steps : List (Step World Happening)}
    (run : WorldRun crates texts steps w) :
    w.DefaultIssued :=
  run.invariant (by simp [World.new, Manager.new, World.DefaultIssued]) fun _ _ _ hw h =>
    h.defaultIssued hw

/-- A call that succeeded has replied with the identities it issued. -/
def Batch.Replied (batch : Batch) : Prop :=
  ∀ vms, batch.call = .returned (.ok vms) → vms = batch.plan.initialized

theorem BatchStep.replied
    {b : Nat} {batch batch' : Batch} {milestone : Milestone}
    (h : BatchStep crates texts b batch milestone batch')
    (hbatch : batch.Replied) :
    batch'.Replied := by
  intro vms hafter
  by_cases hbefore : batch.call = .returned (.ok vms)
  · rw [h.plan_eq]
    exact hbatch vms hbefore
  · obtain ⟨_, _, step⟩ := h.call_cases (P := (· = .returned (.ok vms))) hbefore hafter
    cases step with
    | returned =>
        cases hafter
        rfl
    | registered => exact absurd hafter hbefore
    | workerSpawned | joined | workerFailed | cancelled | privilegesDropped | privilegesKept
    | started => cases hafter

theorem WorldRun.replied
    {steps : List (Step World Happening)} {b : Nat} {batch : Batch}
    (run : WorldRun crates texts steps w)
    (present : w.batches[b]? = some batch) :
    batch.Replied := by
  refine run.invariant
    (I := fun w => ∀ (b : Nat) (batch : Batch), w.batches[b]? = some batch → batch.Replied)
    (by simp [World.new]) ?_ b batch present
  intro w happening w' hw h
  exact h.forall_batches (fun plan _ vms habsurd => by cases habsurd)
    (fun _ _ _ _ step => step.replied) hw

theorem ServiceStep.offering_of_delivered
    {target : Option Uuid}
    (h : ServiceStep crates texts s occurrence s')
    (hlabel : occurrence = .delivered target vm command) :
    s.activity = .offering vm target command := by
  have step := h.holderStep (by rw [hlabel]; rfl)
  cases step with
  | accepted offering =>
      cases hlabel
      exact offering
  | initializeRejected | initializeCalled | runStarted | reaped | controlGone | requestRejected
  | requestCalled | misaddressed | addressed | unaccepted | acknowledged | unacknowledged | ranOut
  | runReturned | callsDrained | controlJoined | shutdownStarted | noWorker | workerJoined
  | taskJoined | shutdownReturned | cancelled => cases hlabel

/-! ### Commands -/

theorem sidesAfterWorker_commands
    {sides : VmRef → VmSide} {b : Nat} {before after : Batch} {milestone : Milestone}
    {answers : Nat → FinalizeAnswers} :
    (sidesAfterWorker sides b before milestone after answers vm).commands =
      (sides vm).commands := by
  unfold sidesAfterWorker
  split_ifs <;> rfl

/-- A VM takes its command, drops it or leaves it where it is. -/
theorem VmStep.commands_cases
    {task task' : VmTask} {side side' : VmSide} {sign : VmSign}
    (h : VmStep crates task side sign task' side') :
    side'.commands = side.commands ∨ side'.commands = none := by
  cases h with
  | proxyReceived | startReceived | packetHandled | cleanedUp | cleanupLost => exact .inl rfl
  | proxyNeverComes | startNeverComes | commandHandled | runEnded => exact .inr rfl

/-- A command comes to a VM by being delivered to it. -/
theorem ServiceStep.commands_cases
    (h : ServiceStep crates texts s occurrence s')
    (hafter : (s'.sides vm).commands = some command) :
    (s.sides vm).commands = some command ∨ ∃ target, occurrence = .delivered target vm command := by
  cases h with
  | holder step =>
      cases step with
      | @accepted target _ other =>
          by_cases heq : vm = other
          · subst heq
            refine .inr ⟨target, ?_⟩
            simpa using hafter
          · exact .inl (by simpa [heq] using hafter)
      | initializeRejected | initializeCalled | runStarted | reaped | controlGone
      | requestRejected | requestCalled | misaddressed | addressed | unaccepted | acknowledged
      | unacknowledged | ranOut | runReturned | callsDrained | controlJoined | shutdownStarted
      | noWorker | workerJoined | taskJoined | shutdownReturned | cancelled => exact .inl hafter
  | worker present step answers =>
      exact .inl (sidesAfterWorker_commands.symm.trans hafter)
  | @replaced _ _ _ other task _ _ _ _ _ _ _ error answers =>
      by_cases heq : vm = other
      · subst heq
        have habsurd : ((s.sides vm).abort answers task).commands = some command := by
          simpa using hafter
        unfold VmSide.abort at habsurd
        split at habsurd <;> cases habsurd
      · exact .inl (by simpa [heq] using hafter)
  | @vm other _ _ _ side' spawned step =>
      by_cases heq : vm = other
      · subst heq
        have hside : side'.commands = some command := by
          simpa using hafter
        rcases step.commands_cases with hsame | hnone
        · exact .inl (hsame.symm.trans hside)
        · cases hnone.symm.trans hside
      · exact .inl (by simpa [heq] using hafter)
  | call | requestSent | controlEnded => exact .inl hafter

/-- A VM handles the command that waits for it, with its own proxy. -/
theorem ServiceStep.of_handled
    (h : ServiceStep crates texts s occurrence s')
    (hlabel : occurrence = .handled vm command) :
    ∃ task proxy proxy' order now,
      s.world.task? vm = some task ∧
      task.phase = .forwarding proxy ∧
      (s.sides vm).commands = some command ∧
      EventStep crates proxy (command.event order now) proxy' ∧
      s'.world.task? vm = some { task with phase := .forwarding proxy' } ∧
      ∀ other, other ≠ vm → s'.world.task? other = s.world.task? other := by
  cases h with
  | holder step => cases step <;> cases hlabel
  | call => exact absurd hlabel (Occurrence.ofCall_ne rfl _ _)
  | @worker _ _ _ milestone => cases milestone <;> cases hlabel
  | @vm _ task _ sign _ spawned step =>
      cases sign with
      | quiet | hungUp => cases hlabel
      | handled =>
          cases hlabel
          cases step with
          | commandHandled phase received handled =>
              refine ⟨task, _, _, _, _, spawned, phase, received, handled, ?_, fun other hne => ?_⟩
              · rw [World.task?_setTask spawned, if_pos rfl]
              · rw [World.task?_setTask spawned, if_neg hne]
  | replaced | requestSent | controlEnded => cases hlabel

/-! ### Proxies -/

/-- The proxy that the task owns. -/
def VmTask.proxy? (task : VmTask) : Option Proxy :=
  match task.phase with
  | .awaitingStart proxy | .forwarding proxy | .cleaning proxy _ => some proxy.proxy
  | .awaitingProxy | .finished _ => none

/-- The proxy of this VM. -/
def World.proxy? (w : World) (vm : VmRef) : Option Proxy :=
  (w.task? vm).bind VmTask.proxy?

/-- A VM keeps its proxy as it is, or the proxy handles a packet or a command. -/
theorem VmStep.proxy_cases
    {task task' : VmTask} {side side' : VmSide} {sign : VmSign} {proxy proxy' : Proxy}
    (h : VmStep crates task side sign task' side')
    (hbefore : task.proxy? = some proxy)
    (hafter : task'.proxy? = some proxy') :
    proxy' = proxy ∨
      (sign = .quiet ∧
        ∃ direction destinationMac pkt now,
          proxy' = proxy.handle crates (.packet direction destinationMac pkt now)) ∨
      ∃ command policy order now,
        sign = .handled command policy ∧
        proxy' = proxy.handle crates (command.event order now) := by
  cases h with
  | proxyReceived phase | proxyNeverComes phase =>
      simp [VmTask.proxy?, phase] at hbefore
  | cleanedUp | cleanupLost => cases hafter
  | startReceived phase | startNeverComes phase | runEnded phase =>
      simp only [VmTask.proxy?, phase, Option.some.injEq] at hbefore hafter
      exact .inl (hafter.symm.trans hbefore)
  | packetHandled phase handled =>
      simp only [VmTask.proxy?, phase, Option.some.injEq] at hbefore hafter
      subst hbefore hafter
      exact .inr (.inl ⟨rfl, _, _, _, _, handled.proxy_eq⟩)
  | commandHandled phase received handled =>
      simp only [VmTask.proxy?, phase, Option.some.injEq] at hbefore hafter
      subst hbefore hafter
      exact .inr (.inr ⟨_, _, _, _, rfl, handled.proxy_eq⟩)

/-- A proxy changes only by the packets of its VM and by the commands delivered to it. -/
theorem ServiceStep.proxy_cases
    {proxy proxy' : Proxy}
    (h : ServiceStep crates texts s occurrence s')
    (hbefore : s.world.proxy? vm = some proxy)
    (hafter : s'.world.proxy? vm = some proxy') :
    proxy' = proxy ∨
      (occurrence = .internal ∧
        ∃ direction destinationMac pkt now,
          proxy' = proxy.handle crates (.packet direction destinationMac pkt now)) ∨
      ∃ command order now,
        occurrence = .handled vm command ∧
        proxy' = proxy.handle crates (command.event order now) := by
  obtain ⟨task, htask, hbefore⟩ := Option.bind_eq_some_iff.mp hbefore
  obtain ⟨task', htask', hafter⟩ := Option.bind_eq_some_iff.mp hafter
  have hchange := h.taskChange htask'
  rw [htask] at hchange
  cases hchange with
  | waits phase =>
      rw [VmTask.proxy?, phase] at hafter
      exact .inl (Option.some.inj (hafter.symm.trans hbefore))
  | steps label step =>
      rcases step.proxy_cases hbefore hafter with
        hsame | ⟨rfl, hpacket⟩ | ⟨command, policy, order, now, rfl, hcommand⟩
      · exact .inl hsame
      · exact .inr (.inl ⟨label, hpacket⟩)
      · exact .inr (.inr ⟨command, order, now, label, hcommand⟩)
  | aborted error => cases hafter

/-- Setting a policy leaves everything of the proxy but its policy and its flows alone. -/
theorem Proxy.policySet_frame
    (crates : Crates)
    (order : HashOrder)
    (proxy : Proxy)
    (allow block : List Rule)
    (now : Instant) :
    ∃ rules allow' block' flows,
      (proxy.policySet crates order allow block now).1 =
        { proxy with rules := rules, allow := allow', block := block', flows := flows } := by
  simp only [Proxy.policySet]
  split
  · exact ⟨_, _, _, _, rfl⟩
  · exact ⟨_, _, _, _, rfl⟩

/-- A command is handled by the proxy of its VM. -/
theorem ServiceStep.proxy_of_handled
    {proxy proxy' : Proxy}
    (h : ServiceStep crates texts s (.handled vm command) s')
    (hbefore : s.world.proxy? vm = some proxy)
    (hafter : s'.world.proxy? vm = some proxy') :
    ∃ order now, proxy' = proxy.handle crates (command.event order now) := by
  obtain ⟨task, p, p', order, now, htask, phase, _, handled, htask', _⟩ := h.of_handled rfl
  simp only [World.proxy?, htask, htask', Option.bind_some, VmTask.proxy?, phase,
    Option.some.injEq] at hbefore hafter
  exact ⟨order, now, by rw [← hbefore, ← hafter, handled.proxy_eq]⟩

/-- What a step that is no command for this VM means for its proxy. -/
theorem ServiceStep.proxy_of_not_handled
    {proxy proxy' : Proxy}
    (h : ServiceStep crates texts s occurrence s')
    (hbefore : s.world.proxy? vm = some proxy)
    (hafter : s'.world.proxy? vm = some proxy')
    (hother : ∀ command, occurrence ≠ .handled vm command) :
    (∃ flows, proxy' = { proxy with flows := flows }) ∧
      (occurrence ≠ .internal → proxy' = proxy) := by
  rcases h.proxy_cases hbefore hafter with
    rfl | ⟨rfl, direction, destinationMac, pkt, now, rfl⟩ | ⟨command, _, _, hlabel, _⟩
  · exact ⟨⟨_, rfl⟩, fun _ => rfl⟩
  · exact ⟨Proxy.handle_of_not_policySet crates proxy rfl, fun habsurd => absurd rfl habsurd⟩
  · exact absurd hlabel (hother command)

/-- A request with invalid parameters is answered at once. -/
theorem ServiceStep.eq_of_invalidParams
    {error : ErrorChain}
    (h : ServiceStep crates texts s occurrence s')
    (hlabel : occurrence = .answered (.error (.invalidParams error))) :
    s'.world = s.world ∧ s'.sides = s.sides := by
  cases h with
  | holder step =>
      cases step with
      | requestRejected | misaddressed => exact ⟨rfl, rfl⟩
      | initializeRejected | initializeCalled | runStarted | reaped | controlGone
      | requestCalled | addressed | accepted | unaccepted | acknowledged | unacknowledged | ranOut
      | runReturned | callsDrained | controlJoined | shutdownStarted | noWorker | workerJoined
      | taskJoined | shutdownReturned | cancelled => cases hlabel
  | @call _ _ _ milestone _ holder present step =>
      cases milestone with
      | returnedErr error =>
          obtain ⟨chain, rfl⟩ := step.activationFailed
          cases hactivity : s.activity <;> rw [hactivity] at hlabel <;> cases hlabel
      | returnedOk =>
          cases hactivity : s.activity <;> rw [hactivity] at hlabel <;> cases hlabel
      | silent | proxyBuilt | handedOver | privilegesDropped | enteredRun | cancelled =>
          cases hlabel
  | @worker _ _ _ milestone => cases milestone <;> cases hlabel
  | @vm _ _ _ sign => cases sign <;> cases hlabel
  | replaced | requestSent | controlEnded => cases hlabel

end Requests

section Delivery

variable {crates : Crates}
variable {texts : Texts}
variable {s : Service}
variable {history : List (Step Service Occurrence)}
variable {vm : VmRef}
variable {command : Command}

/-! ## Delivery -/

/-- A command waits where it was delivered. -/
theorem ServiceRun.delivered_of_commands
    (run : ServiceRun crates texts history s)
    (hcommands : (s.sides vm).commands = some command) :
    ∃ t ∈ history, ∃ target, t.label = .delivered target vm command := by
  obtain ⟨control, run⟩ := run
  induction run with
  | nil => cases hcommands
  | snoc run taken ih =>
      rcases taken.commands_cases hcommands with hbefore | ⟨target, hlabel⟩
      · obtain ⟨t, ht, hdelivered⟩ := ih hbefore
        exact ⟨t, List.mem_append_left _ ht, hdelivered⟩
      · exact ⟨_, List.mem_append_right _ (List.mem_singleton_self _), target, hlabel⟩

/-- Outside of `initialize`, the calls of a manager that is still used have succeeded. -/
theorem Service.Coherent.exists_returned_ok
    {b : Nat} {batch : Batch}
    (hs : s.Coherent)
    (sane : s.condemned = false)
    (free : s.world.busy = none)
    (present : s.world.batches[b]? = some batch) :
    ∃ vms, batch.call = .returned (.ok vms) := by
  have hlost : batch.call.isLost ≠ true := fun h => hs.lost sane b ⟨batch, present, h⟩
  have hover : batch.call.inProgress ≠ true := fun h => by
    have hbusy := hs.world.busy b ⟨batch, present, h⟩
    rw [free] at hbusy
    cases hbusy
  rcases hcall : batch.call with _ | _ | _ | _ | (_ | vms) | _
  case returned.ok => exact ⟨vms, rfl⟩
  all_goals
    rw [hcall] at hlost hover
    first | exact absurd rfl hlost | exact absurd rfl hover

/-- The VM that a waiting request is for. -/
theorem ServiceRun.target_of_offering
    {target : Option Uuid}
    (run : ServiceRun crates texts history s)
    (distinct : s.world.IssuesDistinct)
    (hactivity : s.activity = .offering vm target command) :
    ∃ batch configured,
      s.world.batches[vm.batch]? = some batch ∧
      batch.call = .returned (.ok batch.plan.initialized) ∧
      batch.plan.vms[vm.index]? = some configured ∧
      ¬ HasReaped history configured.vmId ∧
      (∀ vmId, target = some vmId → configured.vmId = vmId) ∧
      (target = none → batch.plan.vms.length = 1) := by
  have hs := run.coherent
  have hrouted := run.routed distinct
  obtain ⟨steps, worldRun⟩ := run.worldRun
  have hhandles : s.world.manager.proxyHandles = s.world.manager.proxyTasks :=
    hrouted.handles (.inl (by rw [hactivity]; rfl))
  obtain ⟨vmId, htarget, htracked⟩ :=
    Manager.proxyHandle_eq_ok_iff.mp (hrouted.offers vm target command hactivity)
  rw [hhandles] at htracked
  obtain ⟨hgone, hspawned⟩ := hrouted.listed.tracked vmId vm htracked
  obtain ⟨batch, present, _, configured, hconfigured, rfl⟩ := id hspawned
  obtain ⟨vms, hcall⟩ := hs.exists_returned_ok (hs.trusted (by rw [hactivity]; rfl))
    (hs.free (by rw [hactivity]; rfl)) present
  obtain rfl := WorldRun.replied worldRun present vms hcall
  refine ⟨batch, configured, present, hcall, hconfigured, hgone, ?_, ?_⟩
  · rintro vmId rfl
    exact (Option.some.inj htarget).symm
  · rintro rfl
    obtain ⟨b, sole, hsole, hplan⟩ :=
      WorldRun.defaultIssued worldRun configured.vmId htarget
    obtain ⟨first, hvms, hid⟩ := Plan.defaultVmId_eq_some_iff.mp hplan
    -- The default target is issued in its own batch, so that this is the batch of the VM
    obtain rfl := distinct vm ⟨b, 0⟩ configured.vmId hspawned.issues
      ⟨sole, hsole, first, by rw [hvms]; rfl, hid⟩
    cases hsole.symm.trans present
    rw [hvms]
    rfl

/-- The ids with a handle are those whose task was spawned and has not been reaped. -/
theorem Service.Routed.handle_iff
    {gone : Uuid → Prop}
    (h : s.Routed texts gone)
    (hopen : s.IsOpen)
    (vmId : Uuid) :
    (s.world.manager.proxyHandles.lookup vmId).isSome = true ↔
      (∃ vm, s.world.SpawnedAs vm vmId) ∧ ¬ gone vmId := by
  rw [show s.world.manager.proxyHandles = s.world.manager.proxyTasks from h.handles hopen,
    Option.isSome_iff_exists]
  constructor
  · rintro ⟨vm, htracked⟩
    obtain ⟨hgone, hspawned⟩ := h.listed.tracked vmId vm htracked
    exact ⟨⟨vm, hspawned⟩, hgone⟩
  · rintro ⟨⟨vm, hspawned⟩, hgone⟩
    exact ⟨vm, (h.listed.spawned vm vmId hspawned).resolve_left hgone⟩

/-- The VM of an identity is found until it is reaped. -/
theorem Service.Routed.proxyHandle_eq_ok_iff
    {gone : Uuid → Prop} {vm vm' : VmRef} {vmId : Uuid}
    (h : s.Routed texts gone)
    (hopen : s.IsOpen)
    (distinct : s.world.IssuesDistinct)
    (spawned : s.world.SpawnedAs vm vmId) :
    s.world.manager.proxyHandle texts (some vmId) = .ok vm' ↔ vm' = vm ∧ ¬ gone vmId := by
  rw [Manager.proxyHandle_eq_ok_iff,
    show s.world.manager.proxyHandles = s.world.manager.proxyTasks from h.handles hopen]
  constructor
  · rintro ⟨_, htarget, htracked⟩
    cases htarget
    obtain ⟨hgone, hspawned⟩ := h.listed.tracked vmId vm' htracked
    exact ⟨distinct _ _ _ hspawned.issues spawned.issues, hgone⟩
  · rintro ⟨rfl, hgone⟩
    exact ⟨vmId, rfl, (h.listed.spawned vm' vmId spawned).resolve_left hgone⟩

/--
Policy requests reach exactly the VM they name.  Whatever tasks were reaped in whatever
order, a request is delivered only to a VM of a batch whose call has succeeded, which has
not been reaped and whose identity is the one named; without a name, only when the batch had
no other VM.  What a VM handles was delivered to it.  The policy of a proxy changes with a
`policy.set` handled by its VM only, and nothing of another VM changes with that.  An answer
that the parameters are invalid leaves everything as it was.  While `run` goes on, the
identities with a handle are those whose task was spawned and has not been reaped.
-/
theorem policy_requests_reach_named_vm
    (run : ServiceRun crates texts history s)
    (distinct : s.world.IssuesDistinct) :
    (∀ before t after target vm command,
      history = before ++ t :: after →
      t.label = .delivered target vm command →
      ∃ batch configured,
        t.pre.world.batches[vm.batch]? = some batch ∧
        batch.call = .returned (.ok batch.plan.initialized) ∧
        batch.plan.vms[vm.index]? = some configured ∧
        ¬ HasReaped before configured.vmId ∧
        (∀ vmId, target = some vmId → configured.vmId = vmId) ∧
        (target = none → batch.plan.vms.length = 1)) ∧
    (∀ before t after vm command,
      history = before ++ t :: after →
      t.label = .handled vm command →
      (∃ u ∈ before, ∃ target, u.label = .delivered target vm command) ∧
      ∀ other, other ≠ vm → t.post.world.task? other = t.pre.world.task? other) ∧
    (∀ t ∈ history, ∀ vm proxy proxy',
      t.pre.world.proxy? vm = some proxy →
      t.post.world.proxy? vm = some proxy' →
      ((∀ command, t.label ≠ .handled vm command) →
        (∃ flows, proxy' = { proxy with flows := flows }) ∧
        (t.label ≠ .internal → proxy' = proxy)) ∧
      (t.label = .handled vm .policyGet → proxy' = proxy) ∧
      ∀ allow block, t.label = .handled vm (.policySet allow block) →
        (∃ order now, proxy' = (proxy.policySet crates order allow block now).1) ∧
        ∃ rules allow' block' flows, proxy' =
          { proxy with rules := rules, allow := allow', block := block', flows := flows }) ∧
    (∀ t ∈ history, ∀ error,
      t.label = .answered (.error (.invalidParams error)) →
      t.post.world = t.pre.world ∧ t.post.sides = t.pre.sides) ∧
    (s.activity.isRunning = true → ∀ vmId,
      (s.world.manager.proxyHandles.lookup vmId).isSome = true ↔
        (∃ vm, s.world.SpawnedAs vm vmId) ∧ ¬ HasReaped history vmId) := by
  obtain ⟨control, hrun⟩ := id run
  refine ⟨?_, ?_, ?_, ?_, ?_⟩
  · intro before t after target vm command hcut hlabel
    obtain ⟨first, taken, rest⟩ := hrun.split hcut
    have hpre : ServiceRun crates texts before t.pre := ⟨control, first⟩
    have hdistinct : t.pre.world.IssuesDistinct :=
      Run.issuesDistinct ((Run.nil.snoc taken).append rest) hpre.coherent distinct
    exact hpre.target_of_offering hdistinct (taken.offering_of_delivered hlabel)
  · intro before t after vm command hcut hlabel
    obtain ⟨first, taken, _⟩ := hrun.split hcut
    obtain ⟨_, _, _, _, _, _, _, hreceived, _, _, hothers⟩ := taken.of_handled hlabel
    exact ⟨ServiceRun.delivered_of_commands ⟨control, first⟩ hreceived, hothers⟩
  · intro t ht vm proxy proxy' hbefore hafter
    have taken := hrun.step_of_mem ht
    refine ⟨taken.proxy_of_not_handled hbefore hafter, fun hlabel => ?_,
      fun allow block hlabel => ?_⟩
    · rw [hlabel] at taken
      obtain ⟨_, _, rfl⟩ := taken.proxy_of_handled hbefore hafter
      rfl
    · rw [hlabel] at taken
      obtain ⟨order, now, rfl⟩ := taken.proxy_of_handled hbefore hafter
      exact ⟨⟨order, now, rfl⟩, Proxy.policySet_frame crates order proxy allow block now⟩
  · intro t ht error hlabel
    exact (hrun.step_of_mem ht).eq_of_invalidParams hlabel
  · exact fun hrunning => (run.routed distinct).handle_iff (.inl hrunning)

/-- The identity of a VM of the pair is its position. -/
theorem World.issues_pair_cases
    {w : World} {vmId : Uuid}
    (hplans : w.batches.map Batch.plan = [pairPlan])
    (h : w.Issues vm vmId) :
    (vm = ⟨0, 0⟩ ∧ vmId = 0) ∨ (vm = ⟨0, 1⟩ ∧ vmId = 1) := by
  obtain ⟨b, index⟩ := vm
  obtain ⟨batch, present, configured, hconfigured, rfl⟩ := h
  have hplan : (w.batches.map Batch.plan)[b]? = some batch.plan := by
    rw [List.getElem?_map, present]
    rfl
  rw [hplans] at hplan
  obtain ⟨hb, hbatch⟩ := List.getElem?_eq_some_iff.mp hplan
  obtain rfl : b = 0 := by
    simpa using hb
  rw [← hbatch] at hconfigured
  have hindex : index < 2 := (List.getElem?_eq_some_iff.mp hconfigured).1
  obtain rfl | rfl : index = 0 ∨ index = 1 := by omega
  · cases hconfigured
    exact .inl ⟨rfl, rfl⟩
  · cases hconfigured
    exact .inr ⟨rfl, rfl⟩

theorem World.issuesDistinct_pair
    {w : World}
    (hplans : w.batches.map Batch.plan = [pairPlan]) :
    w.IssuesDistinct := by
  intro vm vm' vmId h h'
  rcases World.issues_pair_cases hplans h with ⟨rfl, rfl⟩ | ⟨rfl, rfl⟩
  · rcases World.issues_pair_cases hplans h' with ⟨rfl, _⟩ | ⟨_, habsurd⟩
    · rfl
    · exact absurd habsurd (by decide)
  · rcases World.issues_pair_cases hplans h' with ⟨_, habsurd⟩ | ⟨rfl, _⟩
    · exact absurd habsurd (by decide)
    · rfl

/-- A request that names the second of two VMs reaches that VM. -/
theorem policy_requests_reach_named_vm_second :
    ∃ before t after s,
      ServiceRun plainCrates plainTexts (before ++ t :: after) s ∧
      s.world.IssuesDistinct ∧
      t.label = .delivered (some 1) ⟨0, 1⟩ .policyGet ∧
      ∃ batch configured,
        t.pre.world.batches[0]? = some batch ∧
        batch.plan.vms[1]? = some configured ∧
        configured.vmId = 1 ∧
        ¬ HasReaped before 1 := by
  obtain ⟨steps, last, s, run, _, _, ⟨t, ht, hlabel⟩, hplans⟩ :=
    exists_complete_run plainCrates plainTexts
  obtain ⟨before, after, rfl⟩ := List.append_of_mem ht
  have distinct := World.issuesDistinct_pair hplans
  obtain ⟨hdelivered, _⟩ := policy_requests_reach_named_vm run distinct
  obtain ⟨batch, configured, present, _, hconfigured, hreaped, hnamed, _⟩ :=
    hdelivered before t (after ++ [last]) (some 1) ⟨0, 1⟩ .policyGet (by simp) hlabel
  have hvmId := hnamed 1 rfl
  exact ⟨before, t, after ++ [last], s, by simpa using run, distinct, hlabel, batch, configured,
    present, hconfigured, hvmId, hvmId ▸ hreaped⟩

end Delivery

end Softnet
