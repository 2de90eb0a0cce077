import Softnet.Control.Connection

/-!
# Joining the control task

`finish_control` in `lib/manager.rs`: the channel of the calls is closed and drained, and the
manager waits until the control task is over; `shutdown` has aborted it before.  The session ends
wherever it stands: it is told the answer to its call or that there will be none, and in every
other place it finds the channel closed.  The wait never depends on the peer.
-/

namespace Softnet

open Transition

section Joining

variable {crates : Crates}
variable {texts : Texts}
variable {control : ControlCrates}
variable {chunks : List Chunk}
variable {history : List (Step Connection ConnectionEvent)}
variable {s s' : Connection}

/-- The calls are drained once `finish_control` waits for the control task. -/
def Service.Drained (s : Service) : Prop :=
  ∀ goal, s.activity = .finishingControl true goal → s.callsClosed = true ∧ s.queued = none

theorem HolderStep.drained
    {service service' : Service} {occurrence : Occurrence}
    (h : HolderStep texts service occurrence service')
    (hs : service.Drained) :
    service'.Drained := by
  cases h with
  | initializeRejected => exact hs
  | callsDrained => exact fun _ _ => ⟨rfl, rfl⟩
  | @reaped vmId vm task result =>
      intro goal hactivity
      rcases Activity.afterReap_cases (reapResult texts vmId result)
        (service.world.manager.reap vmId).hasNoTasks with hnext | ⟨_, hnext⟩ | ⟨_, hnext⟩
      all_goals
        cases hnext.symm.trans hactivity
  | @controlJoined before =>
      intro goal hactivity
      cases before <;> cases hactivity
  | requestRejected running | misaddressed running =>
      exact fun goal hactivity => nomatch running.symm.trans hactivity
  | initializeCalled | runStarted | controlGone | requestCalled | addressed | accepted
  | unaccepted | acknowledged | unacknowledged | ranOut | runReturned | shutdownStarted
  | noWorker | workerJoined | taskJoined | shutdownReturned | cancelled => nofun

theorem Activity.afterCall_ne_drained
    {activity : Activity}
    (hcalling : activity.isCalling = true)
    (milestone : Milestone)
    (goal : Goal) :
    activity.afterCall milestone ≠ .finishingControl true goal := by
  cases activity with
  | initializing | dispatching => cases milestone <;> nofun
  | idle | running | offering | acknowledging | finishingControl | leaving | joiningWorker
  | joiningTasks => cases hcalling

theorem ServiceStep.drained
    {service service' : Service} {occurrence : Occurrence}
    (h : ServiceStep crates texts service occurrence service')
    (hcoherent : service.Coherent)
    (hs : service.Drained) :
    service'.Drained := by
  cases h with
  | holder step => exact step.drained hs
  | call holder =>
      obtain ⟨hcalling, _⟩ := hcoherent.sane_of_busy holder
      exact fun goal hactivity => absurd hactivity (Activity.afterCall_ne_drained hcalling _ goal)
  | replaced | worker | controlEnded => exact hs
  | @vm vm task task' sign side' spawned step =>
      intro goal hactivity
      rcases service.activity.hear_cases vm sign with hsame | ⟨_, _, _, _, hheard⟩
      · exact hs goal (hsame.symm.trans hactivity)
      · cases hheard.symm.trans hactivity
  | requestSent serving opened room request =>
      intro goal hactivity
      obtain ⟨hclosed, _⟩ := hs goal hactivity
      cases hclosed.symm.trans opened

theorem ServiceRun.drained
    {past : List (Step Service Occurrence)} {service : Service}
    (run : ServiceRun crates texts past service) :
    service.Drained :=
  (run.invariant (fun _ => nofun) fun _ _ _ hcoherent hs step => step.drained hcoherent hs).2

/-- The session waits for its peer here, or the peer has acted. -/
def ControlEvent.needsPeer : ControlEvent → Bool
  | .received _ | .peerClosed | .readFailed _ | .responded _ | .writeFailed _ => true
  | .called _ | .replied _ | .replyDropped | .callsClosed => false

/-- In these few steps, none of the peer, the connection comes to where the service is so. -/
def Connection.Reaches
    (crates : Crates)
    (texts : Texts)
    (control : ControlCrates)
    (n : Nat)
    (s : Connection)
    (service : Service) :
    Prop :=
  ∃ more s',
    Run (ConnectionStep crates texts control) s more s' ∧
    more.length ≤ n ∧
    (∀ t ∈ more, ∀ event, t.label.control = some event → event.needsPeer = false) ∧
    s'.service = service

theorem Connection.Reaches.refl : s.Reaches crates texts control 0 s.service :=
  ⟨[], s, .nil, Nat.le_refl 0, by simp, rfl⟩

theorem ConnectionStep.reaches
    {event : ConnectionEvent} {n : Nat} {service : Service}
    (step : ConnectionStep crates texts control s event s')
    (peerless : ∀ own, event.control = some own → own.needsPeer = false)
    (later : s'.Reaches crates texts control n service) :
    s.Reaches crates texts control (n + 1) service := by
  obtain ⟨more, last, run, hlength, hpeerless, hservice⟩ := later
  refine ⟨[⟨s, event, s'⟩] ++ more, last, (Run.nil.snoc step).append run, ?_, ?_, hservice⟩
  · simpa using hlength
  · intro t ht
    rcases List.mem_append.mp ht with ht | ht
    · cases List.mem_singleton.mp ht
      exact peerless
    · exact hpeerless t ht

/-- The service after `finish_control`. -/
def Service.joined (s : Service) (goal : Goal) : Service :=
  { s with
    world := s.world.setManager (goal.manager s.world.manager)
    control := none
    activity := goal.next }

theorem Connection.reaches_of_unserved
    {goal : Goal}
    (finishing : s.service.activity = .finishingControl true goal)
    (ended : s.service.control ≠ some .serving) :
    s.Reaches crates texts control 1 (s.service.joined goal) :=
  (ConnectionStep.service (.holder (.controlJoined finishing ended)) (.inr rfl)
    (.inr rfl)).reaches nofun .refl

theorem Connection.reaches_of_ended
    {goal : Goal} {result : Except ErrorChain Unit}
    (finishing : s.service.activity = .finishingControl true goal)
    (serving : s.service.control = some .serving)
    (ended : s.session.phase = .ended result) :
    s.Reaches crates texts control 2 (s.service.joined goal) :=
  (ConnectionStep.stopped serving (.inl ⟨result, ended⟩)).reaches nofun
    (Connection.reaches_of_unserved finishing nofun)

/-- A session that waits for no reply finds that no more calls are taken. -/
theorem Connection.reaches_of_calm
    {goal : Goal}
    (finishing : s.service.activity = .finishingControl true goal)
    (serving : s.service.control = some .serving)
    (closed : s.service.callsClosed = true)
    (calm : ∀ id, s.session.phase ≠ .awaiting id)
    (unended : ∀ result, s.session.phase ≠ .ended result) :
    s.Reaches crates texts control 3 (s.service.joined goal) :=
  (ConnectionStep.session serving rfl (fun _ => closed) (.callsClosed calm unended)).reaches
    (by simp [ControlEvent.needsPeer])
    (Connection.reaches_of_ended finishing serving rfl)

theorem Connection.Reaches.mono
    {n m : Nat} {service : Service}
    (h : s.Reaches crates texts control n service)
    (few : n ≤ m) :
    s.Reaches crates texts control m service := by
  obtain ⟨more, last, run, hlength, hrest⟩ := h
  exact ⟨more, last, run, hlength.trans few, hrest⟩

/-- A session that waits for a reply is told it, or that there is none. -/
theorem Connection.reaches_of_awaiting
    {goal : Goal} {id : RpcId} {pending : List Request}
    {answers replies : List (Except CallError Reply)}
    (finishing : s.service.activity = .finishingControl true goal)
    (serving : s.service.control = some .serving)
    (closed : s.service.callsClosed = true)
    (free : s.service.IsFree)
    (awaiting : s.session.phase = .awaiting id)
    (stage : Stage s pending answers replies) :
    s.Reaches crates texts control 4 (s.service.joined goal) := by
  have habandoned : ∀ t : Connection, t.session = s.session → t.service = s.service →
      t.reply = .abandoned → t.Reaches crates texts control 3 (s.service.joined goal) := by
    intro t hsession hservice hreply
    rw [← hservice] at serving finishing ⊢
    rw [← hsession] at awaiting
    exact (ConnectionStep.replyDropped serving (by simp [hreply, Oneshot.receive])
      (.replyDropped awaiting)).reaches (by simp [ControlEvent.needsPeer])
      (Connection.reaches_of_ended finishing serving rfl)
  obtain ⟨_, hreply, _⟩ | ⟨result, hreply, _⟩ | ⟨hreply, _⟩ := stage.of_awaiting serving awaiting
  · refine (ConnectionStep.hungUp free).reaches (by simp) (habandoned _ rfl rfl ?_)
    simp [hreply, Oneshot.dropSender]
  · exact (ConnectionStep.replied serving (by simp [hreply, Oneshot.receive])
      (.replied awaiting result)).reaches (by simp [ControlEvent.needsPeer])
      (Connection.reaches_of_calm finishing serving closed (by simp) (by simp))
  · exact (habandoned s rfl rfl hreply).mono (by decide)

/--
`finish_control` never hangs on the peer.  From every state that a connection can come to while
the control task is being joined, at most four steps end the wait; no step of the peer is among
them, so that a peer that neither writes nor reads cannot hold up the end of `run` or `shutdown`,
and the workers and the VMs are left as they are.
-/
theorem control_task_can_be_joined
    (crates : Crates)
    (texts : Texts)
    (control : ControlCrates)
    (chunks : List Chunk)
    (history : List (Step Connection ConnectionEvent))
    (s : Connection)
    (run : ConnectionRun crates texts control chunks history s)
    (goal : Goal)
    (finishing : s.service.activity = .finishingControl true goal) :
    ∃ more s',
      Run (ConnectionStep crates texts control) s more s' ∧
      more.length ≤ 4 ∧
      (∀ t ∈ more, ∀ event, t.label.control = some event → event.needsPeer = false) ∧
      s'.service =
        { s.service with
          world := s.service.world.setManager (goal.manager s.service.world.manager)
          control := none
          activity := goal.next } := by
  obtain ⟨hclosed, hempty⟩ := run.serviceRun.drained goal finishing
  obtain ⟨exchanges, before, during, pending, tally⟩ := run.tallied
  change s.Reaches crates texts control 4 (s.service.joined goal)
  by_cases hserving : s.service.control = some .serving
  · cases hphase : s.session.phase with
    | awaiting id =>
        refine Connection.reaches_of_awaiting finishing hserving hclosed ⟨hempty, ?_⟩ hphase
          tally.stage
        rw [finishing]
        rfl
    | ended result =>
        exact (Connection.reaches_of_ended finishing hserving hphase).mono (by decide)
    | receiving | calling | responding =>
        exact (Connection.reaches_of_calm finishing hserving hclosed (by simp [hphase])
          (by simp [hphase])).mono (by decide)
  · exact (Connection.reaches_of_unserved finishing hserving).mono (by decide)

/-- A connection over which nothing was sent, while `shutdown` finishes the control task. -/
def silentConnection (drained : Bool) : Connection where
  session := ⟨⟨[], []⟩, .receiving⟩
  reply := .closed
  service :=
    { Service.new (some .serving) with
      callsClosed := drained, activity := .finishingControl drained .shutDown }
  aborted := true

/-- `shutdown` goes on to the worker although the peer is silent. -/
theorem control_task_can_be_joined_silent :
    ∃ more s',
      Run (ConnectionStep decimalCrates hexTexts (tableControl [])) (silentConnection true)
        more s' ∧
      s'.service.activity = .joiningWorker := by
  have started : ConnectionStep decimalCrates hexTexts (tableControl []) (.new [])
      ⟨none, some .internal⟩ (silentConnection false) :=
    .service (.holder (.shutdownStarted rfl)) (.inr rfl) (.inl rfl)
  have drained : ConnectionStep decimalCrates hexTexts (tableControl [])
      (silentConnection false) ⟨none, some .internal⟩ (silentConnection true) :=
    .service (.holder (.callsDrained rfl)) (.inr rfl) (.inl rfl)
  obtain ⟨more, s', run, _, _, hservice⟩ :=
    control_task_can_be_joined _ _ _ _ _ _ ((Run.nil.snoc started).snoc drained) .shutDown rfl
  exact ⟨more, s', run, by rw [hservice]; rfl⟩

end Joining

end Softnet
