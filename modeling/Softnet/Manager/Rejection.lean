import Softnet.Dns.Names
import Softnet.Manager.ServiceRuns

/-!
# Rejected and failed initializations

The error of `initialize` says whether anything was changed.  `Rejected` and `InvalidParams`
come from the validation, before anything is registered; the call has then left no trace, and
can be erased from the history.  Every later failure is `ActivationFailed`.  The manager is not
initialized then, and a run that dispatched the request ends with the error.
-/

namespace Softnet

open Transition

section Calls

variable {crates : Crates}
variable {texts : Texts}
variable {w w' : World}
variable {b : Nat}
variable {happening : Happening}
variable {error : InitializationError}

/-! ## The error of a call -/

/-- In this step `initialize` returns an error. -/
def Happening.ReturnsError (happening : Happening) (error : InitializationError) : Prop :=
  happening = .rejected error ∨ ∃ b, happening = .batch b (.returnedErr error)

/-- What fails after the validation is reported as a failed activation. -/
theorem WorldStep.activationFailed
    (h : WorldStep crates texts w (.batch b (.returnedErr error)) w') :
    ∃ chain, error = .activationFailed chain := by
  cases h with
  | call holder present step => exact step.activationFailed
  | worker present step => cases step
  | task present spawned step => cases step

theorem WorldStep.eq_of_rejected
    (h : WorldStep crates texts w (.rejected error) w') :
    w' = w ∧
      ∃ surroundings netType vms,
        w.manager.prepare texts surroundings netType vms = .error error := by
  cases h with
  | rejected free prepared => exact ⟨rfl, _, _, _, prepared⟩

/-- Any other error comes from the validation, and leaves everything as it was. -/
theorem WorldStep.eq_of_returnsError
    (h : WorldStep crates texts w happening w')
    (hreturns : happening.ReturnsError error)
    (hkind : error.isActivationFailed = false) :
    w' = w ∧
      ∃ surroundings netType vms,
        w.manager.prepare texts surroundings netType vms = .error error := by
  rcases hreturns with rfl | ⟨b, rfl⟩
  · exact h.eq_of_rejected
  · obtain ⟨chain, rfl⟩ := h.activationFailed
    cases hkind

/-- A call that can still fail has not initialized the manager. -/
def World.Tentative (w : World) : Prop :=
  ∀ b, w.busy = some b → w.Holds b (·.call.isCommitted = false) → w.manager.initialized = false

theorem World.tentative_of_free
    (free : w.busy = none) :
    w.Tentative := by
  intro b hbusy
  rw [free] at hbusy
  cases hbusy

theorem CallStep.tentative
    {manager manager' : Manager} {batch batch' : Batch} {milestone : Milestone}
    (h : CallStep b manager batch milestone manager' batch')
    (hbefore : batch.call.isCommitted = false → manager.initialized = false)
    (hopen : batch'.call.isCommitted = false) :
    manager'.initialized = false := by
  cases h with
  | registered phase | workerSpawned phase | joined phase | workerFailed phase
  | cancelled phase | privilegesKept phase =>
      exact hbefore (by simp [phase, CallPhase.isCommitted])
  | privilegesDropped | started | returned => cases hopen

theorem WorldStep.tentative
    (h : WorldStep crates texts w happening w')
    (hw : w.Tentative) :
    w'.Tentative := by
  intro c hbusy hopen
  cases h with
  | called free prepared => exact (Manager.eq_of_prepare prepared).1
  | @call b batch batch' _ _ holder present step =>
      have hc : c = b := by
        by_contra hc
        split at hbusy
        · exact hc (Option.some.inj hbusy).symm
        · cases hbusy
      subst hc
      rcases (World.holds_set_iff rfl present).mp hopen with ⟨_, hbatch⟩ | ⟨habsurd, _⟩
      · exact step.tentative (fun hbefore => hw c holder ⟨batch, present, hbefore⟩) hbatch
      · exact absurd rfl habsurd
  | worker present step =>
      have hcall := step.frame.2.2.1
      exact hw c hbusy ((World.holds_set_congr rfl present (by rw [hcall])).mp hopen)
  | task present spawned step =>
      rcases (World.holds_set_iff rfl present).mp hopen with ⟨rfl, hbatch⟩ | ⟨_, hother⟩
      · exact hw c hbusy ⟨_, present, hbatch⟩
      · exact hw c hbusy hother
  | rejected | reaped | handlesCleared | workerJoined => exact hw c hbusy hopen

theorem CallStep.initialized_of_returnedErr
    {manager' : Manager} {batch batch' : Batch}
    (h : CallStep b w.manager batch (.returnedErr error) manager' batch')
    (hw : w.Tentative)
    (holder : w.busy = some b)
    (present : w.batches[b]? = some batch) :
    manager'.initialized = false := by
  refine h.tentative (fun hbefore => hw b holder ⟨_, present, hbefore⟩) ?_
  cases h <;> rfl

/-- Whatever state a manager is in, a call of it that fails leaves it uninitialized. -/
theorem WorldStep.initialized_of_returnedErr
    (h : WorldStep crates texts w (.batch b (.returnedErr error)) w')
    (hw : w.Tentative) :
    w'.manager.initialized = false := by
  cases h with
  | call holder present step => exact step.initialized_of_returnedErr hw holder present
  | worker present step => cases step
  | task present spawned step => cases step

end Calls

section Service

variable {crates : Crates}
variable {texts : Texts}
variable {s s' : Service}
variable {occurrence : Occurrence}
variable {chain : ErrorChain}

/-! ## The end of a run -/

/-- `run` is about to return this error. -/
def Service.IsEnding (s : Service) (chain : ErrorChain) : Prop :=
  (∃ drained, s.activity = .finishingControl drained (.endRun (.error chain))) ∨
    s.activity = .leaving (.error chain)

/-- `run` returns no result but this error any more. -/
structure Service.Doomed (s : Service) (chain : ErrorChain) : Prop where
  condemned : s.condemned = true
  finishing :
    ∀ drained result,
      s.activity = .finishingControl drained (.endRun result) → result = .error chain
  leaving : ∀ result, s.activity = .leaving result → result = .error chain

theorem HolderStep.not_dispatching
    (h : HolderStep texts s occurrence s') :
    s.activity ≠ .dispatching := by
  intro hdispatching
  have hcalling := h.effect.1
  rw [hdispatching] at hcalling
  cases hcalling

/-- A request whose activation fails ends the run that dispatched it. -/
theorem ServiceStep.ends_run
    {error : CallError}
    (h : ServiceStep crates texts s occurrence s')
    (hw : s.world.Tentative)
    (hdispatching : s.activity = .dispatching)
    (hlabel : occurrence = .answered (.error error)) :
    ∃ chain,
      error = .failed [": ".intercalate chain] ∧
      s'.world.manager.initialized = false ∧
      s'.IsEnding chain ∧
      s'.Doomed chain := by
  cases h with
  | holder step => exact absurd hdispatching step.not_dispatching
  | @call _ _ _ milestone _ holder present step free =>
      rw [hdispatching] at hlabel ⊢
      cases milestone with
      | returnedErr cause =>
          obtain ⟨chain, rfl⟩ := step.activationFailed
          cases hlabel
          refine ⟨chain, rfl, step.initialized_of_returnedErr hw holder present,
            .inl ⟨false, rfl⟩, ?_, ?_, nofun⟩
          · exact Bool.or_true _
          · rintro drained result ⟨⟩
            rfl
      | silent | proxyBuilt | handedOver | privilegesDropped | enteredRun | returnedOk
      | cancelled => cases hlabel
  | replaced | requestSent | controlEnded => cases hlabel
  | @worker _ _ _ milestone => cases milestone <;> cases hlabel
  | @vm _ _ _ sign => cases sign <;> cases hlabel

theorem HolderStep.doomed
    (h : HolderStep texts s occurrence s')
    (hs : s.Coherent)
    (hdoomed : s.Doomed chain) :
    s'.Doomed chain ∧ ∀ result, occurrence = .runReturned result → result = .error chain := by
  have hcondemned := hdoomed.condemned
  have hdoubt : s.activity.isTrusting ≠ true := fun htrusting => by
    rw [hs.trusted htrusting] at hcondemned
    cases hcondemned
  cases h with
  | initializeRejected idle sane | initializeCalled idle sane | runStarted idle sane =>
      rw [sane] at hcondemned
      cases hcondemned
  | reaped holds | controlGone holds | requestRejected holds | requestCalled holds
  | misaddressed holds | addressed holds | accepted holds | unaccepted holds
  | acknowledged holds | unacknowledged holds | ranOut holds =>
      rw [holds] at hdoubt
      exact absurd rfl hdoubt
  | runReturned leaving =>
      refine ⟨⟨hcondemned, nofun, nofun⟩, ?_⟩
      rintro result ⟨⟩
      exact hdoomed.leaving _ leaving
  | callsDrained finishing =>
      refine ⟨⟨hcondemned, ?_, nofun⟩, nofun⟩
      rintro drained result ⟨⟩
      exact hdoomed.finishing _ _ finishing
  | @controlJoined goal finishing ended =>
      cases goal with
      | keepRunning =>
          rw [finishing] at hdoubt
          exact absurd rfl hdoubt
      | endRun result =>
          refine ⟨⟨hcondemned, nofun, ?_⟩, nofun⟩
          rintro result ⟨⟩
          exact hdoomed.finishing _ _ finishing
      | shutDown => exact ⟨⟨hcondemned, nofun, nofun⟩, nofun⟩
  | cancelled => exact ⟨⟨rfl, nofun, nofun⟩, nofun⟩
  | shutdownStarted | noWorker | workerJoined | taskJoined | shutdownReturned =>
      exact ⟨⟨hcondemned, nofun, nofun⟩, nofun⟩

/-- Parties other than the holder do not end a run. -/
theorem Service.Doomed.hear
    (hdoomed : s.Doomed chain)
    (hs : s.Coherent)
    (vm : VmRef)
    (sign : VmSign) :
    s.activity.hear vm sign = s.activity := by
  rcases s.activity.hear_cases vm sign with hsame | ⟨target, reply, _, hwaiting, _⟩
  · exact hsame
  · have hsane := hs.trusted (by rw [hwaiting]; rfl)
    rw [hdoomed.condemned] at hsane
    cases hsane

theorem ServiceStep.doomed
    (h : ServiceStep crates texts s occurrence s')
    (hs : s.Coherent)
    (hdoomed : s.Doomed chain) :
    s'.Doomed chain ∧ ∀ result, occurrence = .runReturned result → result = .error chain := by
  obtain ⟨hcondemned, hfinishing, hleaving⟩ := hdoomed
  cases h with
  | holder step => exact step.doomed hs ⟨hcondemned, hfinishing, hleaving⟩
  | call holder =>
      rw [(hs.sane_of_busy holder).2] at hcondemned
      cases hcondemned
  | @worker _ _ _ milestone =>
      refine ⟨⟨hcondemned, hfinishing, hleaving⟩, fun _ habsurd => ?_⟩
      cases milestone <;> cases habsurd
  | @vm vm _ _ sign _ spawned step =>
      have hsame := Service.Doomed.hear ⟨hcondemned, hfinishing, hleaving⟩ hs vm sign
      refine ⟨⟨hcondemned, ?_, ?_⟩, fun _ habsurd => by cases sign <;> cases habsurd⟩
      · rw [hsame]
        exact hfinishing
      · rw [hsame]
        exact hleaving
  | replaced | requestSent | controlEnded => exact ⟨⟨hcondemned, hfinishing, hleaving⟩, nofun⟩

theorem HolderStep.ending_cases
    (h : HolderStep texts s occurrence s')
    (hending : s.IsEnding chain) :
    s'.IsEnding chain ∨ occurrence = .runReturned (.error chain) ∨ occurrence = .cancelled := by
  cases h with
  | callsDrained finishing =>
      rcases hending with ⟨_, hactivity⟩ | hactivity
      · cases hactivity.symm.trans finishing
        exact .inl (.inl ⟨true, rfl⟩)
      · cases hactivity.symm.trans finishing
  | controlJoined finishing ended =>
      rcases hending with ⟨_, hactivity⟩ | hactivity
      · cases hactivity.symm.trans finishing
        exact .inl (.inr rfl)
      · cases hactivity.symm.trans finishing
  | runReturned leaving =>
      rcases hending with ⟨_, hactivity⟩ | hactivity
      · cases hactivity.symm.trans leaving
      · cases hactivity.symm.trans leaving
        exact .inr (.inl rfl)
  | cancelled => exact .inr (.inr rfl)
  | initializeRejected holds | initializeCalled holds | runStarted holds | reaped holds
  | controlGone holds | requestRejected holds | requestCalled holds | misaddressed holds
  | addressed holds | accepted holds | unaccepted holds | acknowledged holds
  | unacknowledged holds | ranOut holds | shutdownStarted holds | noWorker holds
  | workerJoined holds | taskJoined holds | shutdownReturned holds =>
      rcases hending with ⟨_, hactivity⟩ | hactivity
      · cases hactivity.symm.trans holds
      · cases hactivity.symm.trans holds

/-- A run that is ending returns its error, unless it is dropped. -/
theorem ServiceStep.ending_cases
    (h : ServiceStep crates texts s occurrence s')
    (hs : s.Coherent)
    (hending : s.IsEnding chain) :
    s'.IsEnding chain ∨ occurrence = .runReturned (.error chain) ∨ occurrence = .cancelled := by
  cases h with
  | holder step => exact step.ending_cases hending
  | call holder =>
      have hcalling := (hs.sane_of_busy holder).1
      rcases hending with ⟨_, hactivity⟩ | hactivity
      · rw [hactivity] at hcalling
        cases hcalling
      · rw [hactivity] at hcalling
        cases hcalling
  | vm spawned step =>
      refine .inl ?_
      rcases hending with ⟨drained, hactivity⟩ | hactivity
      · exact .inl ⟨drained, by rw [hactivity]; rfl⟩
      · exact .inr (by rw [hactivity]; rfl)
  | replaced | worker | requestSent | controlEnded => exact .inl hending

/-- The manager goes on to a state in which `run` returns this result. -/
def Service.CanReturn (crates : Crates) (texts : Texts) (s : Service)
    (result : Except ErrorChain Unit) : Prop :=
  ∃ later s',
    Run (ServiceStep crates texts) s later s' ∧ ∃ t ∈ later, t.label = .runReturned result

theorem ServiceStep.canReturn
    {result : Except ErrorChain Unit}
    (h : ServiceStep crates texts s occurrence s')
    (hnext : s'.CanReturn crates texts result) :
    s.CanReturn crates texts result := by
  obtain ⟨later, last, run, t, ht, hlabel⟩ := hnext
  exact ⟨_, last, (Run.nil.snoc h).append run, t, List.mem_append_right _ ht, hlabel⟩

/-- A run that is ending returns as soon as the control task has ended. -/
theorem Service.IsEnding.canReturn
    (hending : s.IsEnding chain) :
    s.CanReturn crates texts (.error chain) := by
  have hleaving : ∀ s : Service, s.activity = .leaving (.error chain) →
      s.CanReturn crates texts (.error chain) := fun s hactivity =>
    ⟨_, _, Run.nil.snoc (.holder (.runReturned hactivity)), _, List.mem_singleton_self _, rfl⟩
  have hjoined : ∀ s : Service, s.activity = .finishingControl true (.endRun (.error chain)) →
      s.control ≠ some .serving → s.CanReturn crates texts (.error chain) :=
    fun s hactivity hcontrol =>
      ServiceStep.canReturn (.holder (.controlJoined hactivity hcontrol)) (hleaving _ rfl)
  have hdrained : ∀ s : Service, s.activity = .finishingControl true (.endRun (.error chain)) →
      s.CanReturn crates texts (.error chain) := fun s hactivity => by
    by_cases hcontrol : s.control = some .serving
    · exact ServiceStep.canReturn (.controlEnded hcontrol) (hjoined _ hactivity nofun)
    · exact hjoined s hactivity hcontrol
  rcases hending with ⟨drained, hactivity⟩ | hactivity
  · cases drained with
    | true => exact hdrained s hactivity
    | false => exact ServiceStep.canReturn (.holder (.callsDrained hactivity)) (hdrained _ rfl)
  · exact hleaving s hactivity

end Service

section Trace

/-! ## The trace of a failed call -/

variable {crates : Crates}
variable {texts : Texts}

/-- Along a run that goes on from an ending one, nothing but its error is returned. -/
theorem Run.doomed
    {s s' : Service} {later : List (Step Service Occurrence)} {chain : ErrorChain}
    (run : Run (ServiceStep crates texts) s later s')
    (hs : s.Coherent)
    (hdoomed : s.Doomed chain) :
    (s'.Coherent ∧ s'.Doomed chain) ∧
      ∀ u ∈ later, ∀ result, u.label = .runReturned result → result = .error chain := by
  induction run with
  | nil => exact ⟨⟨hs, hdoomed⟩, by simp⟩
  | snoc run taken ih =>
      obtain ⟨⟨hs, hdoomed⟩, hbefore⟩ := ih
      obtain ⟨hafter, hresult⟩ := taken.doomed hs hdoomed
      refine ⟨⟨taken.coherent hs, hafter⟩, fun u hu => ?_⟩
      rcases List.mem_append.mp hu with hu | hu
      · exact hbefore u hu
      · cases List.mem_singleton.mp hu
        exact hresult

/-- A run that is ending is still ending, has returned its error, or was dropped. -/
theorem Run.ending
    {s s' : Service} {later : List (Step Service Occurrence)} {chain : ErrorChain}
    (run : Run (ServiceStep crates texts) s later s')
    (hs : s.Coherent)
    (hending : s.IsEnding chain) :
    s'.IsEnding chain ∨
      ∃ u ∈ later, u.label = .runReturned (.error chain) ∨ u.label = .cancelled := by
  induction run with
  | nil => exact .inl hending
  | snoc run taken ih =>
      rcases ih with hstill | ⟨u, hu, hlabel⟩
      · have hcoherent := run.invariant hs fun _ _ _ hs h => h.coherent hs
        rcases taken.ending_cases hcoherent hstill with hstill | hlabel
        · exact .inl hstill
        · exact .inr ⟨_, List.mem_append_right _ (List.mem_singleton_self _), hlabel⟩
      · exact .inr ⟨u, List.mem_append_left _ hu, hlabel⟩

/-- The answer to a request that `run` dispatched and whose activation failed. -/
theorem ServiceRun.ends_run
    {before after : List (Step Service Occurrence)} {t : Step Service Occurrence} {s : Service}
    {error : CallError}
    (run : ServiceRun crates texts (before ++ t :: after) s)
    (hdispatching : t.pre.activity = .dispatching)
    (hlabel : t.label = .answered (.error error)) :
    ∃ chain,
      error = .failed [": ".intercalate chain] ∧
      t.post.world.manager.initialized = false ∧
      t.post.CanReturn crates texts (.error chain) ∧
      (∀ u ∈ after, ∀ result, u.label = .runReturned result → result = .error chain) ∧
      (s.IsEnding chain ∨
        ∃ u ∈ after, u.label = .runReturned (.error chain) ∨ u.label = .cancelled) := by
  obtain ⟨control, run⟩ := run
  obtain ⟨first, taken, rest⟩ := run.split rfl
  have hpre : ServiceRun crates texts before t.pre := ⟨control, first⟩
  have hcoherent := taken.coherent hpre.coherent
  have htentative : t.pre.world.Tentative := by
    obtain ⟨steps, worldRun⟩ := hpre.worldRun
    exact worldRun.invariant (World.tentative_of_free rfl) fun _ _ _ hw h => h.tentative hw
  obtain ⟨chain, herror, hinitialized, hending, hdoomed⟩ :=
    taken.ends_run htentative hdispatching hlabel
  exact ⟨chain, herror, hinitialized, hending.canReturn, (Run.doomed rest hcoherent hdoomed).2,
    Run.ending rest hcoherent hending⟩

/--
A rejected initialization changes nothing and can be retried.  An error of `initialize` other
than `ActivationFailed` comes from the validation, for one of the listed reasons, and leaves the
manager as it was, whatever state that is; without the call, everything else happens as it
did.  Every later failure is an `ActivationFailed`, with the manager uninitialized; a run
that dispatched the request is bound to return that error.
-/
theorem rejected_initialization_leaves_no_trace :
    (∀ w happening w' error,
      WorldStep crates texts w happening w' →
      happening.ReturnsError error →
      error.isActivationFailed = false →
      w' = w ∧
      ∃ surroundings netType vms,
        w.manager.prepare texts surroundings netType vms = .error error ∧
        Refusal texts surroundings w.manager vms error) ∧
    (∀ hickory records cause,
      DnsServer.new hickory records = .error cause → NameFault hickory records cause) ∧
    (∀ start before t after w error,
      Run (WorldStep crates texts) start (before ++ t :: after) w →
      t.label = .rejected error →
      Run (WorldStep crates texts) start (before ++ after) w) ∧
    (∀ (start : World) history w b error,
      start.busy = none →
      Run (WorldStep crates texts) start history w →
      ∀ t ∈ history, t.label = .batch b (.returnedErr error) →
        error.isActivationFailed = true ∧ t.post.manager.initialized = false) ∧
    (∀ before (t : Step Service Occurrence) after s error,
      ServiceRun crates texts (before ++ t :: after) s →
      t.pre.activity = .dispatching →
      t.label = .answered (.error error) →
      ∃ chain,
        error = .failed [": ".intercalate chain] ∧
        t.post.world.manager.initialized = false ∧
        t.post.CanReturn crates texts (.error chain) ∧
        (∀ u ∈ after, ∀ result, u.label = .runReturned result → result = .error chain) ∧
        (s.IsEnding chain ∨
          ∃ u ∈ after, u.label = .runReturned (.error chain) ∨ u.label = .cancelled)) := by
  refine ⟨?_, fun _ _ _ => DnsServer.fault_of_new, ?_, ?_, ?_⟩
  · intro w happening w' error h hreturns hkind
    obtain ⟨hsame, surroundings, netType, vms, prepared⟩ := h.eq_of_returnsError hreturns hkind
    exact ⟨hsame, surroundings, netType, vms, prepared, Manager.refusal_of_prepare prepared⟩
  · intro start before t after w error run hlabel
    obtain ⟨_, taken, _⟩ := run.split rfl
    rw [hlabel] at taken
    exact run.erase taken.eq_of_rejected.1
  · intro start history w b error free run t ht hlabel
    obtain ⟨before, after, hcut⟩ := List.append_of_mem ht
    obtain ⟨first, taken, _⟩ := run.split hcut
    rw [hlabel] at taken
    have htentative : t.pre.Tentative :=
      first.invariant (World.tentative_of_free free) fun _ _ _ hw h => h.tentative hw
    obtain ⟨chain, rfl⟩ := taken.activationFailed
    exact ⟨rfl, taken.initialized_of_returnedErr htentative⟩
  · exact fun before t after s error run => run.ends_run

end Trace

end Softnet
