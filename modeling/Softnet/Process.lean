import Softnet.Lib.Parts
import Softnet.Manager.Shutdown

/-!
# The process around the manager

The model of `try_main` in `src/main.rs`.  What it does before it has a manager is a function of
the answers of the system (`startup`): it becomes root or gives up, configures bootpd(8), and
takes over the control connection.  From then on it is one more party beside the manager
(`ProcessStep`): it calls `initialize` and `run`, drops them when it is interrupted, and calls
`shutdown` whatever came of them.

The model of the manager relies on how it is used: one call at a time, and after a call that
failed or was dropped nothing but `shutdown`.  None of this is assumed here: every run of the
process is shown to be one of the manager (`ProcessRun.serviceRun`).

Outside of the model: the parser of the arguments, the logger and what is reported to Sentry,
and the environment that `sudo` passes on.
-/

namespace Softnet

open Transition

/-! ## Before the manager -/

/-- The arguments that `try_main` reads. -/
structure Args where
  vmFd : Option Nat
  controlFd : Option Nat
  vmMacAddress : Option EthernetAddress
  vmName : Option Name
  vmNetType : NetType
  bootpdLeaseTime : UInt32
  user : Option String
  group : Option String
  allow : List Rule
  block : List Rule
  expose : List ExposedPort
  sudoEscalationProbing : Bool
  sudoEscalationDone : Bool

/-- The calls to the preferences of the system. -/
inductive PreferencesCall where
  | lock
  /-- The value of `bootpd`. -/
  | setValue (dhcpLeaseTimeSecs : Int32) (dhcpIgnoreClientIdentifier : Bool)
  | commitChanges
  | applyChanges
  | unlock
deriving DecidableEq

/-- Makes the calls in order, up to the first that fails. -/
def tryPreferences
    (answers : PreferencesCall → Bool) :
    List (PreferencesCall × String) → List PreferencesCall × Except ErrorChain Unit
  | [] => ([], .ok ())
  | (call, failure) :: rest =>
      if answers call then
        let made := tryPreferences answers rest
        (call :: made.1, made.2)
      else
        ([call], .error [failure])

/-- `configure_bootpd`, with the calls that it makes. -/
def configureBootpd
    (answers : PreferencesCall → Bool)
    (leaseTime : UInt32) :
    List PreferencesCall × Except ErrorChain Unit :=
  if answers .lock then
    let made := tryPreferences answers
      [(.setValue leaseTime.toInt32 true, "failed to set bootpd preferences"),
        (.commitChanges, "failed to commit bootpd preferences"),
        (.applyChanges, "failed to apply bootpd preferences")]
    -- The lock is given back before the result is looked at
    let unlocked := answers .unlock
    (.lock :: made.1 ++ [.unlock],
      made.2.bind fun _ =>
        if unlocked then .ok () else .error ["failed to unlock bootpd preferences"])
  else
    ([.lock], .error ["failed to lock bootpd preferences"])

/-- What the system answers before there is a manager. -/
structure StartAnswers where
  loggerInit : Except ErrorChain Unit
  currentUserName : Option String
  currentGroupName : Option String
  effectiveUid : Nat
  sudoEscalationWorks : Bool
  /-- `exec` does not return. -/
  execReplaces : Bool
  preferences : PreferencesCall → Bool
  /-- `fcntl` on the control descriptor, with the text of the error. -/
  controlFdOpen : Except String Unit
  /-- `Control::new`. -/
  controlNew : Except ErrorChain Unit

/-- How `try_main` ends without a manager. -/
inductive Ending where
  | returned (result : Except ErrorChain Unit)
  /-- The process goes on as another one. -/
  | replaced

inductive Startup where
  | ended (ending : Ending)
  | managing (user group : String) (control : Bool)

/-- `try_main` up to `configure_bootpd`: the names of the real user and group, or the end. -/
def identify
    (args : Args)
    (answers : StartAnswers) :
    Except Ending (String × String) := do
  answers.loggerInit.mapError fun error => Ending.returned (.error error)
  if args.sudoEscalationProbing then
    .error (.returned (.ok ()))
  else do
    let user ←
      answers.currentUserName.elim
        (.error (.returned (.error ["failed to resolve real user name"]))) .ok
    let group ←
      answers.currentGroupName.elim
        (.error (.returned (.error ["failed to resolve real group name"]))) .ok
    if answers.effectiveUid = 0 then
      .ok (user, group)
    else if answers.sudoEscalationWorks ∧ args.sudoEscalationDone = false ∧
        answers.execReplaces then
      .error .replaced
    else
      .error (.returned (.error
        ["root privileges are required to run and passwordless sudo was not available"]))

/-- The control connection that the parent process hands over. -/
def openControl
    (args : Args)
    (answers : StartAnswers) :
    Except ErrorChain Bool :=
  match args.controlFd with
  | none => .ok false
  | some _ => do
      answers.controlFdOpen.mapError fun text => ["invalid control file descriptor", text]
      answers.controlNew
      return true

/-- `try_main` up to `Manager::new`, with the calls to the preferences that it makes. -/
def startup
    (args : Args)
    (answers : StartAnswers) :
    List PreferencesCall × Startup :=
  match identify args answers with
  | .error ending => ([], .ended ending)
  | .ok (user, group) =>
      let bootpd := configureBootpd answers.preferences args.bootpdLeaseTime
      (bootpd.1,
        match bootpd.2.bind fun _ => openControl args answers with
        | .error error => .ended (.returned (.error error))
        | .ok control => .managing (args.user.getD user) (args.group.getD group) control)

/-- The VM of the arguments, which the single-VM path initializes. -/
def Args.vmConfig (args : Args) : Option VmConfig :=
  match args.vmFd, args.vmMacAddress with
  | some _, some vmMacAddress =>
      some ⟨vmMacAddress, args.vmName, args.allow, args.block, args.expose⟩
  | _, _ => none

/-! ## Beside the manager -/

/-- Where `try_main` is once it has a manager. -/
inductive ProcessPhase where
  /-- About to ask for the interrupts of the process. -/
  | watching
  /-- At the `select!`, before its branches are polled. -/
  | selecting
  | initializing
  /-- Between `initialize`, if there is a VM to initialize, and `run`. -/
  | initialized
  | running
  /-- The `select!` is over. -/
  | leaving (result : Except ErrorChain Unit)
  | shuttingDown (result : Except ErrorChain Unit)
  | returned (result : Except ErrorChain Unit)
  | replaced

/-- The process goes on; the manager and its tasks go with it. -/
def ProcessPhase.isAlive : ProcessPhase → Bool
  | .returned _ | .replaced => false
  | .watching | .selecting | .initializing | .initialized | .running | .leaving _
  | .shuttingDown _ => true

structure Process where
  phase : ProcessPhase
  service : Service

def Process.new : Startup → Process
  | .ended (.returned result) => ⟨.returned result, .new none⟩
  | .ended .replaced => ⟨.replaced, .new none⟩
  | .managing _ _ control => ⟨.watching, .new (if control then some .serving else none)⟩

/-- What a step of the process is. -/
inductive ProcessEvent where
  | signalFailed (error : ErrorChain)
  | silent
  | service (occurrence : Occurrence)

/-- A call of the manager is over with this. -/
def Occurrence.endsCall : Occurrence → Bool
  | .initializeReturned _ | .runReturned _ | .shutdownReturned _ | .cancelled => true
  | .internal | .built _ | .answered _ | .delivered _ _ _ | .handled _ _ | .reaped _ => false

section Steps

variable (crates : Crates)
variable (texts : Texts)
variable (args : Args)

/-- The steps of the process, and of everything the manager has set up in it. -/
inductive ProcessStep : Process → ProcessEvent → Process → Prop
  -- The manager is dropped without a shutdown
  | signalFailed
      {s : Service}
      (error : ErrorChain) :
      ProcessStep ⟨.watching, s⟩ (.signalFailed error) ⟨.returned (.error error), s⟩
  | signalWatched
      {s : Service} :
      ProcessStep ⟨.watching, s⟩ .silent ⟨.selecting, s⟩
  | noVm
      {s : Service}
      (absent : args.vmConfig = none) :
      ProcessStep ⟨.selecting, s⟩ .silent ⟨.initialized, s⟩
  | initializeRejected
      {s : Service} {surroundings : Surroundings} {config : VmConfig}
      {error : InitializationError}
      (given : args.vmConfig = some config)
      (prepared :
        s.world.manager.prepare texts surroundings args.vmNetType [config] = .error error) :
      ProcessStep ⟨.selecting, s⟩ (.service (.initializeReturned (.error error)))
        ⟨.leaving (.error error.chain), s⟩
  | initializeCalled
      {s : Service} {surroundings : Surroundings} {config : VmConfig} {plan : Plan}
      (given : args.vmConfig = some config)
      (prepared :
        s.world.manager.prepare texts surroundings args.vmNetType [config] = .ok plan) :
      ProcessStep ⟨.selecting, s⟩ (.service .internal)
        ⟨.initializing, { s with world := s.world.call plan, activity := .initializing }⟩
  | initializeReturned
      {s s' : Service} {vms : List InitializedVm}
      (step : ServiceStep crates texts s (.initializeReturned (.ok vms)) s') :
      ProcessStep ⟨.initializing, s⟩ (.service (.initializeReturned (.ok vms)))
        ⟨.initialized, s'⟩
  | initializeFailed
      {s s' : Service} {error : InitializationError}
      (step : ServiceStep crates texts s (.initializeReturned (.error error)) s') :
      ProcessStep ⟨.initializing, s⟩ (.service (.initializeReturned (.error error)))
        ⟨.leaving (.error error.chain), s'⟩
  | runStarted
      {s : Service} :
      ProcessStep ⟨.initialized, s⟩ (.service .internal)
        ⟨.running, { s with activity := .running }⟩
  | runReturned
      {s s' : Service} {result : Except ErrorChain Unit}
      (step : ServiceStep crates texts s (.runReturned result) s') :
      ProcessStep ⟨.running, s⟩ (.service (.runReturned result)) ⟨.leaving result, s'⟩
  -- The interrupt is polled first
  | interruptedFirst
      {s : Service} :
      ProcessStep ⟨.selecting, s⟩ .silent ⟨.leaving (.ok ()), s⟩
  -- The future of `initialize` and `run` is dropped where it waits
  | interrupted
      {s s' : Service} {phase : ProcessPhase}
      (inside : phase = .initializing ∨ phase = .running)
      (step : ServiceStep crates texts s .cancelled s') :
      ProcessStep ⟨phase, s⟩ (.service .cancelled) ⟨.leaving (.ok ()), s'⟩
  | shutdownStarted
      {s : Service} {result : Except ErrorChain Unit} :
      ProcessStep ⟨.leaving result, s⟩ (.service .internal)
        ⟨.shuttingDown result, { s with activity := .finishingControl false .shutDown }⟩
  | shutdownReturned
      {s s' : Service} {result outcome : Except ErrorChain Unit}
      (step : ServiceStep crates texts s (.shutdownReturned outcome) s') :
      ProcessStep ⟨.shuttingDown result, s⟩ (.service (.shutdownReturned outcome))
        ⟨.returned (result.bind fun _ => outcome), s'⟩
  -- The call that the process is in goes on, or somebody else does
  | worked
      {s s' : Service} {phase : ProcessPhase} {occurrence : Occurrence}
      (alive : phase.isAlive = true)
      (step : ServiceStep crates texts s occurrence s')
      (unended : occurrence.endsCall = false)
      (uncalled : s.activity = .idle → s'.activity = .idle) :
      ProcessStep ⟨phase, s⟩ (.service occurrence) ⟨phase, s'⟩

/-- The steps of a process that was started with these arguments. -/
def ProcessRun (answers : StartAnswers) (history : List (Step Process ProcessEvent))
    (p : Process) : Prop :=
  Run (ProcessStep crates texts args) (.new (startup args answers).2) history p

end Steps

section Startup

variable {args : Args}
variable {answers : StartAnswers}

/-! ## Startup -/

/-- All calls are made if all of them succeed. -/
theorem tryPreferences_eq_ok
    {answers : PreferencesCall → Bool} {calls : List (PreferencesCall × String)}
    (h : (tryPreferences answers calls).2 = .ok ()) :
    (tryPreferences answers calls).1 = calls.map Prod.fst ∧
      ∀ call ∈ calls, answers call.1 = true := by
  induction calls with
  | nil =>
      exact ⟨rfl, by simp⟩
  | cons call rest ih =>
      cases hanswer : answers call.1 with
      | false =>
          simp [tryPreferences, hanswer] at h
      | true =>
          simp only [tryPreferences, hanswer, if_true] at h ⊢
          obtain ⟨hmade, hanswers⟩ := ih h
          exact ⟨by simp [hmade], by simpa [hanswer] using hanswers⟩

/-- The calls of a configuration that succeeds. -/
def bootpdCalls (leaseTime : UInt32) : List PreferencesCall :=
  [.lock, .setValue leaseTime.toInt32 true, .commitChanges, .applyChanges, .unlock]

theorem configureBootpd_eq_ok
    {answers : PreferencesCall → Bool} {leaseTime : UInt32}
    (h : (configureBootpd answers leaseTime).2 = .ok ()) :
    (configureBootpd answers leaseTime).1 = bootpdCalls leaseTime ∧
      ∀ call ∈ bootpdCalls leaseTime, answers call = true := by
  unfold configureBootpd at h ⊢
  cases hlock : answers .lock with
  | false => simp [hlock] at h
  | true =>
      simp only [hlock, if_true] at h ⊢
      obtain ⟨_, htried, hunlock⟩ := Except.bind_eq_ok_iff.mp h
      obtain ⟨hmade, hanswers⟩ := tryPreferences_eq_ok htried
      rw [hmade]
      refine ⟨rfl, ?_⟩
      simp_all [bootpdCalls]

theorem identify_eq_ok
    {names : String × String}
    (h : identify args answers = .ok names) :
    answers.effectiveUid = 0 := by
  obtain ⟨_, _, h⟩ := Except.bind_eq_ok_iff.mp h
  split at h
  · cases h
  · obtain ⟨user, _, h⟩ := Except.bind_eq_ok_iff.mp h
    obtain ⟨group, _, h⟩ := Except.bind_eq_ok_iff.mp h
    split at h
    · assumption
    · split at h <;> cases h

/-- There is a manager only in a process of root that has configured bootpd(8). -/
theorem startup_eq_managing
    {user group : String} {control : Bool}
    (h : (startup args answers).2 = .managing user group control) :
    answers.effectiveUid = 0 ∧
      (startup args answers).1 = bootpdCalls args.bootpdLeaseTime ∧
      ∀ call ∈ bootpdCalls args.bootpdLeaseTime, answers.preferences call = true := by
  unfold startup at h ⊢
  cases hidentify : identify args answers with
  | error ending =>
      rw [hidentify] at h
      cases h
  | ok names =>
      simp only [hidentify] at h ⊢
      split at h
      · cases h
      · next hopened =>
          obtain ⟨_, hbootpd, _⟩ := Except.bind_eq_ok_iff.mp hopened
          obtain ⟨hcalls, hanswers⟩ := configureBootpd_eq_ok hbootpd
          exact ⟨identify_eq_ok hidentify, hcalls, hanswers⟩

end Startup

/-! ## How the process uses the manager -/

/-- The call of the manager that its holder is in. -/
inductive Caller where
  | initializing
  | running
  | shuttingDown

def Activity.caller : Activity → Option Caller
  | .idle => none
  | .initializing => some .initializing
  | .running | .dispatching | .offering _ _ _ | .acknowledging _ _
  | .finishingControl _ .keepRunning | .finishingControl _ (.endRun _) | .leaving _ =>
      some .running
  | .finishingControl _ .shutDown | .joiningWorker | .joiningTasks _ => some .shuttingDown

def ProcessPhase.caller : ProcessPhase → Option Caller
  | .initializing => some .initializing
  | .running => some .running
  | .shuttingDown _ => some .shuttingDown
  | .watching | .selecting | .initialized | .leaving _ | .returned _ | .replaced => none

/-- No call was made yet. -/
def ProcessPhase.isFresh : ProcessPhase → Bool
  | .watching | .selecting => true
  | _ => false

/-- No call has failed or was dropped yet, and none is made. -/
def ProcessPhase.isSane : ProcessPhase → Bool
  | .watching | .selecting | .initialized => true
  | _ => false

/-- The manager has nothing left. -/
structure Service.IsEmptied (s : Service) : Prop where
  tasks : s.world.manager.proxyTasks = ∅
  handles : s.world.manager.proxyHandles = ∅
  worker : s.world.manager.initialization = none

/-- What the place of the process says about its manager. -/
structure Process.Placed (p : Process) : Prop where
  coherent : p.service.Coherent
  caller : p.phase.isAlive = true → p.service.activity.caller = p.phase.caller
  sane : p.phase.isSane = true → p.service.condemned = false
  fresh : p.phase.isFresh = true → p.service.world = World.new
  emptied : ∀ result, p.phase = .returned result → p.service.IsEmptied

section Calls

variable {crates : Crates}
variable {texts : Texts}
variable {s s' : Service}
variable {occurrence : Occurrence}

theorem Activity.eq_idle_of_caller
    {activity : Activity}
    (h : activity.caller = none) :
    activity = .idle := by
  cases activity with
  | idle => rfl
  | finishingControl drained goal => cases goal <;> cases h
  | initializing | running | dispatching | offering | acknowledging | leaving | joiningWorker
  | joiningTasks => cases h

theorem Activity.eq_initializing_of_caller
    {activity : Activity}
    (h : activity.caller = some .initializing) :
    activity = .initializing := by
  cases activity with
  | initializing => rfl
  | finishingControl drained goal => cases goal <;> cases h
  | idle | running | dispatching | offering | acknowledging | leaving | joiningWorker
  | joiningTasks => cases h

theorem ProcessPhase.caller_of_isSane
    {phase : ProcessPhase}
    (h : phase.isSane = true) :
    phase.caller = none := by
  cases phase <;> first | rfl | cases h

theorem ProcessPhase.caller_of_isFresh
    {phase : ProcessPhase}
    (h : phase.isFresh = true) :
    phase.caller = none := by
  cases phase <;> first | rfl | cases h

theorem Service.isEmptied_of_new
    (h : s.world = World.new) :
    s.IsEmptied := by
  constructor <;> rw [h] <;> rfl

theorem HolderStep.caller_eq
    (h : HolderStep texts s occurrence s')
    (unended : occurrence.endsCall = false)
    (uncalled : s.activity = .idle → s'.activity = .idle) :
    s'.activity.caller = s.activity.caller := by
  cases h with
  | initializeRejected | runReturned | shutdownReturned | cancelled => cases unended
  | initializeCalled idle | runStarted idle | shutdownStarted idle => cases uncalled idle
  | reaped running =>
      rw [running]
      unfold Activity.afterReap
      split
      · rfl
      · split <;> rfl
  | requestRejected | misaddressed => rfl
  | @callsDrained goal holds | @controlJoined goal holds =>
      rw [holds]
      cases goal <;> rfl
  | controlGone holds | requestCalled holds | addressed holds | accepted holds | unaccepted holds
  | acknowledged holds | unacknowledged holds | ranOut holds | noWorker holds
  | workerJoined holds | taskJoined holds =>
      rw [holds]
      rfl

theorem Activity.caller_afterCall
    {activity : Activity} {milestone : Milestone}
    (unended : (Occurrence.ofCall activity milestone).endsCall = false) :
    (activity.afterCall milestone).caller = activity.caller := by
  cases milestone with
  | silent | proxyBuilt | handedOver | privilegesDropped | enteredRun => rfl
  | cancelled => cases unended
  | returnedOk | returnedErr => cases activity <;> first | rfl | cases unended

theorem Activity.afterCall_eq_idle
    {activity : Activity} {milestone : Milestone}
    (ended : (Occurrence.ofCall activity milestone).endsCall = true) :
    activity.afterCall milestone = .idle := by
  cases milestone with
  | silent | proxyBuilt | handedOver | privilegesDropped | enteredRun => cases ended
  | cancelled => rfl
  | returnedOk | returnedErr => cases activity <;> first | rfl | cases ended

/-- A call goes on as long as it is not over, and no other is made. -/
theorem ServiceStep.caller_eq
    (h : ServiceStep crates texts s occurrence s')
    (unended : occurrence.endsCall = false)
    (uncalled : s.activity = .idle → s'.activity = .idle) :
    s'.activity.caller = s.activity.caller := by
  cases h with
  | holder step => exact step.caller_eq unended uncalled
  | call holder present step free => exact Activity.caller_afterCall unended
  | @vm vm _ _ sign _ spawned step =>
      rcases s.activity.hear_cases vm sign with hsame | ⟨_, _, _, hbefore, hafter⟩
      · exact congrArg Activity.caller hsame
      · rw [hbefore] at hafter ⊢
        exact (congrArg Activity.caller hafter).trans rfl
  | replaced | worker | requestSent | controlEnded => rfl

/-- Whoever has left a call is in none. -/
theorem ServiceStep.idle_of_endsCall
    (h : ServiceStep crates texts s occurrence s')
    (ended : occurrence.endsCall = true) :
    s'.activity = .idle := by
  cases h with
  | holder step =>
      cases step with
      | initializeRejected idle => exact idle
      | runReturned | shutdownReturned | cancelled => rfl
      | initializeCalled | runStarted | reaped | controlGone | requestRejected | requestCalled
      | misaddressed | addressed | accepted | unaccepted | acknowledged | unacknowledged | ranOut
      | callsDrained | controlJoined | shutdownStarted | noWorker | workerJoined | taskJoined =>
          cases ended
  | call holder present step free => exact Activity.afterCall_eq_idle ended
  | @worker _ _ _ milestone => cases milestone <;> cases ended
  | @vm _ _ _ sign => cases sign <;> cases ended
  | replaced | requestSent | controlEnded => cases ended

/-- Nobody condemns a manager that no call has borrowed, except by dropping a future. -/
theorem ServiceStep.condemned_eq
    (h : ServiceStep crates texts s occurrence s')
    (free : s.world.busy = none)
    (undropped : occurrence ≠ .cancelled) :
    s'.condemned = s.condemned := by
  cases h with
  | holder step =>
      cases step with
      | cancelled => exact absurd rfl undropped
      | initializeRejected | initializeCalled | runStarted | reaped | controlGone
      | requestRejected | requestCalled | misaddressed | addressed | accepted | unaccepted
      | acknowledged | unacknowledged | ranOut | runReturned | callsDrained | controlJoined
      | shutdownStarted | noWorker | workerJoined | taskJoined | shutdownReturned => rfl
  | call holder =>
      rw [free] at holder
      cases holder
  | replaced | worker | vm | requestSent | controlEnded => rfl

/-- A call of `initialize` that succeeds does not condemn the manager. -/
theorem ServiceStep.sane_of_initialized
    {vms : List InitializedVm}
    (h : ServiceStep crates texts s occurrence s')
    (hlabel : occurrence = .initializeReturned (.ok vms)) :
    s'.condemned = s.condemned := by
  cases h with
  | holder step => cases step <;> cases hlabel
  | @call _ _ _ milestone _ holder present step free =>
      cases milestone with
      | returnedOk => exact Bool.or_false _
      | silent | proxyBuilt | handedOver | privilegesDropped | enteredRun | cancelled =>
          cases hlabel
      | returnedErr =>
          cases hactivity : s.activity <;> simp [hactivity, Occurrence.ofCall] at hlabel
  | @worker _ _ _ milestone => cases milestone <;> cases hlabel
  | @vm _ _ _ sign => cases sign <;> cases hlabel
  | replaced | requestSent | controlEnded => cases hlabel

/-- A manager that was never called stays as it is. -/
theorem ServiceStep.world_eq_new
    (h : ServiceStep crates texts s occurrence s')
    (hworld : s.world = World.new)
    (idle : s.activity = .idle)
    (unended : occurrence.endsCall = false)
    (uncalled : s.activity = .idle → s'.activity = .idle) :
    s'.world = World.new := by
  cases h with
  | holder step =>
      cases step with
      | initializeRejected | runReturned | shutdownReturned | cancelled => cases unended
      | initializeCalled | runStarted | shutdownStarted => cases uncalled idle
      | reaped holds | controlGone holds | requestRejected holds | requestCalled holds
      | misaddressed holds | addressed holds | accepted holds | unaccepted holds
      | acknowledged holds | unacknowledged holds | ranOut holds | callsDrained holds
      | controlJoined holds | noWorker holds | workerJoined holds | taskJoined holds =>
          rw [idle] at holds
          cases holds
  | call holder | replaced holder =>
      rw [hworld] at holder
      cases holder
  | worker present =>
      rw [hworld] at present
      cases present
  | vm spawned =>
      rw [hworld] at spawned
      cases spawned
  | requestSent | controlEnded => exact hworld

end Calls

section Processes

variable {crates : Crates}
variable {texts : Texts}
variable {args : Args}
variable {p p' : Process}
variable {event : ProcessEvent}

/-- The part of the manager in a step of the process. -/
def ProcessEvent.occurrence : ProcessEvent → Option Occurrence
  | .service occurrence => some occurrence
  | .signalFailed _ | .silent => none

theorem Process.placed_returned
    {s : Service} {result : Except ErrorChain Unit}
    (hcoherent : s.Coherent)
    (hemptied : s.IsEmptied) :
    Process.Placed ⟨.returned result, s⟩ :=
  ⟨hcoherent, by simp [ProcessPhase.isAlive], by simp [ProcessPhase.isSane],
    by simp [ProcessPhase.isFresh], fun _ _ => hemptied⟩

theorem Process.placed_leaving
    {s : Service} {result : Except ErrorChain Unit}
    (hcoherent : s.Coherent)
    (hidle : s.activity = .idle) :
    Process.Placed ⟨.leaving result, s⟩ :=
  ⟨hcoherent, fun _ => congrArg Activity.caller hidle, by simp [ProcessPhase.isSane],
    by simp [ProcessPhase.isFresh], by simp⟩

theorem Process.placed_new (startup : Startup) : (Process.new startup).Placed := by
  cases startup with
  | ended ending =>
      cases ending with
      | returned result =>
          exact Process.placed_returned (Service.coherent_new none) ⟨rfl, rfl, rfl⟩
      | replaced =>
          exact ⟨Service.coherent_new none, by simp [Process.new, ProcessPhase.isAlive],
            by simp [Process.new, ProcessPhase.isSane], by simp [Process.new, ProcessPhase.isFresh],
            by simp [Process.new]⟩
  | managing user group control =>
      exact ⟨Service.coherent_new _, fun _ => rfl, fun _ => rfl, fun _ => rfl,
        by simp [Process.new]⟩

theorem Process.Placed.idle
    (hp : p.Placed)
    (alive : p.phase.isAlive = true)
    (hphase : p.phase.caller = none) :
    p.service.activity = .idle :=
  Activity.eq_idle_of_caller ((hp.caller alive).trans hphase)

/-- What the process does with the manager is what a holder of it may do. -/
theorem ProcessStep.serviceStep
    (h : ProcessStep crates texts args p event p')
    (hp : p.Placed)
    {occurrence : Occurrence}
    (hevent : event.occurrence = some occurrence) :
    ServiceStep crates texts p.service occurrence p'.service := by
  cases h with
  | signalFailed | signalWatched | noVm | interruptedFirst => cases hevent
  | initializeRejected given prepared =>
      cases hevent
      exact .holder (.initializeRejected (hp.idle rfl rfl) (hp.sane rfl) prepared)
  | initializeCalled given prepared =>
      cases hevent
      exact .holder (.initializeCalled (hp.idle rfl rfl) (hp.sane rfl) prepared)
  | runStarted =>
      cases hevent
      exact .holder (.runStarted (hp.idle rfl rfl) (hp.sane rfl))
  | shutdownStarted =>
      cases hevent
      exact .holder (.shutdownStarted (hp.idle rfl rfl))
  | initializeReturned step | initializeFailed step | runReturned step | shutdownReturned step =>
      cases hevent
      exact step
  | interrupted inside step =>
      cases hevent
      exact step
  | worked alive step =>
      cases hevent
      exact step

theorem ProcessStep.service_eq
    (h : ProcessStep crates texts args p event p')
    (hevent : event.occurrence = none) :
    p'.service = p.service := by
  cases h with
  | signalFailed | signalWatched | noVm | interruptedFirst => rfl
  | initializeRejected | initializeCalled | initializeReturned | initializeFailed | runStarted
  | runReturned | interrupted | shutdownStarted | shutdownReturned | worked => cases hevent

theorem ProcessStep.coherent
    (h : ProcessStep crates texts args p event p')
    (hp : p.Placed) :
    p'.service.Coherent := by
  cases hevent : event.occurrence with
  | none => exact h.service_eq hevent ▸ hp.coherent
  | some occurrence => exact (h.serviceStep hp hevent).coherent hp.coherent

/-- The process and its manager stay in step. -/
theorem ProcessStep.placed
    (h : ProcessStep crates texts args p event p')
    (hp : p.Placed) :
    p'.Placed := by
  have hcoherent := h.coherent hp
  cases h with
  | signalFailed error =>
      exact Process.placed_returned hcoherent (Service.isEmptied_of_new (hp.fresh rfl))
  | signalWatched => exact ⟨hcoherent, hp.caller, hp.sane, hp.fresh, by simp⟩
  | noVm absent =>
      exact ⟨hcoherent, hp.caller, hp.sane, by simp [ProcessPhase.isFresh], by simp⟩
  | interruptedFirst | initializeRejected =>
      exact Process.placed_leaving hcoherent (hp.idle rfl rfl)
  | initializeCalled | runStarted | shutdownStarted =>
      exact ⟨hcoherent, fun _ => rfl, by simp [ProcessPhase.isSane],
        by simp [ProcessPhase.isFresh], by simp⟩
  | @initializeReturned s s' vms step =>
      have hbefore : s.activity = .initializing :=
        Activity.eq_initializing_of_caller (hp.caller rfl)
      have hsane : s.condemned = false := hp.coherent.trusted (by rw [hbefore]; rfl)
      exact ⟨hcoherent, fun _ => congrArg Activity.caller (step.idle_of_endsCall rfl),
        fun _ => (step.sane_of_initialized rfl).trans hsane, by simp [ProcessPhase.isFresh],
        by simp⟩
  | initializeFailed step | runReturned step | interrupted inside step =>
      exact Process.placed_leaving hcoherent (step.idle_of_endsCall rfl)
  | shutdownReturned step =>
      obtain ⟨_, _, htasks, hhandles, hworker, _⟩ :=
        (step.holderStep rfl).of_shutdownReturned hp.coherent rfl
      exact Process.placed_returned hcoherent ⟨htasks, hhandles, hworker⟩
  | @worked s s' phase occurrence alive step unended uncalled =>
      refine ⟨hcoherent, fun _ => (step.caller_eq unended uncalled).trans (hp.caller alive),
        fun hsane => ?_, fun hfresh => ?_, fun result hreturned => ?_⟩
      · have hidle := hp.idle alive (ProcessPhase.caller_of_isSane hsane)
        refine (step.condemned_eq (hp.coherent.free (by rw [hidle]; rfl)) ?_).trans (hp.sane hsane)
        rintro rfl
        cases unended
      · have hidle := hp.idle alive (ProcessPhase.caller_of_isFresh hfresh)
        exact step.world_eq_new (hp.fresh hfresh) hidle unended uncalled
      · rw [show phase = .returned result from hreturned] at alive
        cases alive

theorem Process.exists_service_new
    (startup : Startup) :
    ∃ control, (Process.new startup).service = Service.new control := by
  cases startup with
  | ended ending => cases ending <;> exact ⟨none, rfl⟩
  | managing user group control => exact ⟨_, rfl⟩

variable {answers : StartAnswers}
variable {history : List (Step Process ProcessEvent)}

/-- A run of the process is one of its manager, which is used as its model expects. -/
theorem ProcessRun.serviceRun
    (run : ProcessRun crates texts args answers history p) :
    p.Placed ∧
      ServiceRun crates texts (partOf Process.service ProcessEvent.occurrence history)
        p.service := by
  obtain ⟨control, hstart⟩ := Process.exists_service_new (startup args answers).2
  obtain ⟨hplaced, hpart⟩ : p.Placed ∧ Run (ServiceStep crates texts) _ _ p.service :=
    Run.part_of_invariant Process.service ProcessEvent.occurrence run (Process.placed_new _)
      (fun _ _ _ hp h => h.placed hp) (fun _ _ _ _ hp h hevent => h.serviceStep hp hevent)
      fun _ _ _ _ h hevent => h.service_eq hevent
  rw [hstart] at hpart
  exact ⟨hplaced, control, hpart⟩

/-! ## What the process reports -/

/-- The first of these failures, if there is one. -/
def firstFailure : List ErrorChain → Except ErrorChain Unit
  | [] => .ok ()
  | error :: _ => .error error

theorem firstFailure_append
    (before after : List ErrorChain) :
    firstFailure (before ++ after) = (firstFailure before).bind fun _ => firstFailure after := by
  cases before <;> rfl

/-- The failures of the calls that `try_main` makes. -/
def ProcessEvent.failures : ProcessEvent → List ErrorChain
  | .signalFailed error => [error]
  | .service (.initializeReturned (.error error)) => [error.chain]
  | .service (.runReturned (.error error)) => [error]
  | .service (.shutdownReturned (.error error)) => [error]
  | _ => []

def Startup.failures : Startup → List ErrorChain
  | .ended (.returned (.error error)) => [error]
  | _ => []

/-- The result that `try_main` has so far. -/
def ProcessPhase.result : ProcessPhase → Except ErrorChain Unit
  | .leaving result | .shuttingDown result | .returned result => result
  | .watching | .selecting | .initializing | .initialized | .running | .replaced => .ok ()

theorem Process.result_new
    (startup : Startup) :
    (Process.new startup).phase.result = firstFailure startup.failures := by
  cases startup with
  | ended ending =>
      cases ending with
      | returned result => rcases result with _ | ⟨⟩ <;> rfl
      | replaced => rfl
  | managing => rfl

theorem ProcessEvent.failures_of_unended
    {occurrence : Occurrence}
    (unended : occurrence.endsCall = false) :
    (ProcessEvent.service occurrence).failures = [] := by
  cases occurrence <;> first | rfl | cases unended

/-- A failure is kept unless there was one before. -/
theorem ProcessStep.result_eq
    (h : ProcessStep crates texts args p event p') :
    p'.phase.result = p.phase.result.bind fun _ => firstFailure event.failures := by
  cases h with
  | signalFailed | signalWatched | noVm | initializeRejected | initializeCalled
  | initializeReturned | initializeFailed | runStarted | interruptedFirst => rfl
  | @runReturned _ _ result step => rcases result with _ | ⟨⟩ <;> rfl
  | interrupted inside step => rcases inside with rfl | rfl <;> rfl
  | @shutdownStarted _ result => rcases result with _ | ⟨⟩ <;> rfl
  | @shutdownReturned _ _ result outcome step =>
      rcases result with _ | ⟨⟩ <;> rcases outcome with _ | ⟨⟩ <;> rfl
  | @worked _ _ phase _ alive step unended uncalled =>
      rw [ProcessEvent.failures_of_unended unended]
      rcases phase.result with _ | ⟨⟩ <;> rfl

theorem ProcessRun.result_eq
    (run : ProcessRun crates texts args answers history p) :
    p.phase.result =
      firstFailure
        ((startup args answers).2.failures ++ produced ProcessEvent.failures history) := by
  induction run with
  | nil =>
      rw [produced_nil, List.append_nil]
      exact Process.result_new _
  | snoc run taken ih =>
      rw [taken.result_eq, ih, produced_append, produced_singleton, ← List.append_assoc,
        firstFailure_append _ (ProcessEvent.failures _)]

/-- Only a process that has a manager takes a step. -/
theorem ProcessStep.isAlive
    (h : ProcessStep crates texts args p event p') :
    p.phase.isAlive = true := by
  cases h with
  | interrupted inside step => rcases inside with rfl | rfl <;> rfl
  | worked alive step => exact alive
  | signalFailed | signalWatched | noVm | initializeRejected | initializeCalled
  | initializeReturned | initializeFailed | runStarted | runReturned | interruptedFirst
  | shutdownStarted | shutdownReturned => rfl

theorem ProcessRun.managing
    (run : ProcessRun crates texts args answers history p)
    (hsteps : history ≠ []) :
    ∃ user group control, (startup args answers).2 = .managing user group control := by
  obtain ⟨t, rest, rfl⟩ := List.exists_cons_of_ne_nil hsteps
  obtain ⟨before, taken, _⟩ := Run.split run (List.nil_append _).symm
  cases hstartup : (startup args answers).2 with
  | managing user group control => exact ⟨user, group, control, rfl⟩
  | ended ending =>
      -- A process that has ended at its startup stays ended
      have hended : t.pre.phase.isAlive = false := by
        refine before.invariant (I := fun p => p.phase.isAlive = false) ?_ fun p _ _ hp h => ?_
        · rw [hstartup]
          cases ending <;> rfl
        · cases h.isAlive.symm.trans hp
      cases taken.isAlive.symm.trans hended

/--
A process ends clean.  However it went, and whenever it was interrupted: when `try_main` returns,
its result is the first failure of its startup and its calls, if there was any; it had a manager
only as root and with bootpd(8) configured and unlocked; nothing of the manager is left, and a
stop of the interface of every host that was built has been attempted.
-/
theorem process_ends_clean
    {result : Except ErrorChain Unit}
    (run : ProcessRun crates texts args answers history p)
    (returned : p.phase = .returned result) :
    result =
        firstFailure
          ((startup args answers).2.failures ++ produced ProcessEvent.failures history) ∧
      (history ≠ [] →
        answers.effectiveUid = 0 ∧
        (startup args answers).1 = bootpdCalls args.bootpdLeaseTime ∧
        ∀ call ∈ bootpdCalls args.bootpdLeaseTime, answers.preferences call = true) ∧
      p.service.IsEmptied ∧
      ∀ t ∈ history, ∀ vm, t.label = .service (.built vm) →
        ∃ interface, (p.service.sides vm).interface = some interface ∧ interface.stops ≠ [] := by
  obtain ⟨hplaced, hservice⟩ := run.serviceRun
  have hemptied := hplaced.emptied result returned
  refine ⟨?_, fun hsteps => ?_, hemptied, fun t ht vm hlabel => ?_⟩
  · rw [← run.result_eq, returned]
    rfl
  · obtain ⟨_, _, _, hmanaging⟩ := run.managing hsteps
    exact startup_eq_managing hmanaging
  · have hbuilt : t.label.occurrence = some (.built vm) := by
      rw [hlabel]
      rfl
    obtain ⟨interface, hinterface⟩ := hservice.interface_of_built (mem_partOf ht hbuilt) rfl
    refine ⟨interface, hinterface, fun hstops => ?_⟩
    exact hservice.tracked.not_ownsProxy hservice.coherent hemptied.worker hemptied.tasks
      ((hservice.kept vm interface hinterface).owned hstops)

end Processes

section Interruption

/-! ## An interrupted process -/

/-- A process that is to set up a VM without a policy of its own. -/
def plainArgs : Args where
  vmFd := some 3
  controlFd := none
  vmMacAddress := some plainVm.vmMacAddress
  vmName := none
  vmNetType := .nat
  bootpdLeaseTime := 600
  user := none
  group := none
  allow := []
  block := []
  expose := []
  sudoEscalationProbing := false
  sudoEscalationDone := true

/-- It runs as root, and nothing fails. -/
def grantingAnswers : StartAnswers where
  loggerInit := .ok ()
  currentUserName := some "admin"
  currentGroupName := some "staff"
  effectiveUid := 0
  sudoEscalationWorks := true
  execReplaces := true
  preferences := fun _ => true
  controlFdOpen := .ok ()
  controlNew := .ok ()

/-- The process is interrupted while the worker sets up the VM, and shuts it down. -/
theorem process_ends_clean_interrupted :
    ∃ history p interface,
      ProcessRun plainCrates plainTexts plainArgs grantingAnswers history p ∧
      p.phase = .returned (.ok ()) ∧
      p.service.IsEmptied ∧
      (p.service.sides ⟨0, 0⟩).interface = some interface ∧
      interface.stops ≠ [] := by
  have watched : ProcessRun plainCrates plainTexts plainArgs grantingAnswers _ _ :=
    Run.nil.snoc .signalWatched
  have called := Run.snoc watched (.initializeCalled rfl plainPlan_prepared)
  have registered := called.snoc (.worked rfl (.call rfl rfl (.registered rfl rfl) nofun) rfl nofun)
  have spawned := registered.snoc
    (.worked rfl (.call rfl rfl (.workerSpawned rfl rfl) nofun) rfl nofun)
  have created := spawned.snoc
    (.worked rfl (.worker (b := 0) rfl (.networkCreated rfl plainPlan_network) plainAnswers) rfl
      nofun)
  have built := created.snoc
    (.worked rfl (.worker (b := 0) rfl (.proxyBuilt rfl rfl plainPlan_proxy) plainAnswers) rfl
      nofun)
  obtain ⟨first, run, u, hu, hbuilt⟩ :
      ∃ first, Run _ _ first _ ∧ ∃ u ∈ first, u.label = .service (.built ⟨0, 0⟩) :=
    ⟨_, built, _, List.mem_append_right _ (List.mem_singleton_self _), rfl⟩
  have interrupted := run.snoc (.interrupted (.inl rfl) (.call rfl rfl (.cancelled rfl) nofun))
  have closing := interrupted.snoc .shutdownStarted
  have complete := closing.snoc
    (.worked rfl (.worker (b := 0) rfl (.allBuilt rfl rfl) plainAnswers) rfl nofun)
  have handed := complete.snoc
    (.worked rfl (.worker (b := 0) rfl (.handedOver rfl rfl rfl) plainAnswers) rfl nofun)
  have finished := handed.snoc
    (.worked rfl (.worker (b := 0) rfl (.completed rfl) plainAnswers) rfl nofun)
  have drained := finished.snoc (.worked rfl (.holder (.callsDrained rfl)) rfl nofun)
  have cleared := drained.snoc (.worked rfl (.holder (.controlJoined rfl nofun)) rfl nofun)
  have joined := cleared.snoc (.worked rfl (.holder (.workerJoined rfl rfl rfl rfl)) rfl nofun)
  have received := joined.snoc
    (.worked rfl (.vm (rfl : World.task? _ ⟨0, 0⟩ = some _) (.proxyReceived rfl rfl)) rfl nofun)
  have unstarted := received.snoc
    (.worked rfl (.vm (rfl : World.task? _ ⟨0, 0⟩ = some _) (.startNeverComes rfl rfl)) rfl nofun)
  have cleaned := unstarted.snoc
    (.worked rfl (.vm (rfl : World.task? _ ⟨0, 0⟩ = some _)
      (.cleanedUp rfl rfl (plainAnswers 0) (plainAnswers 0))) rfl nofun)
  have reaped := cleaned.snoc
    (.worked rfl (.holder (.taskJoined rfl (Finmap.lookup_insert _) rfl rfl)) rfl nofun)
  have done := reaped.snoc (.shutdownReturned (.holder (.shutdownReturned rfl rfl)))
  obtain ⟨_, _, hemptied, hstopped⟩ := process_ends_clean done rfl
  obtain ⟨interface, hinterface, hstops⟩ :=
    hstopped u (by simp only [List.mem_append, hu, true_or]) ⟨0, 0⟩ hbuilt
  exact ⟨_, _, interface, done, rfl, hemptied, hinterface, hstops⟩

end Interruption

end Softnet
