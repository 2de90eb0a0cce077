import Softnet.Interface
import Softnet.Lib.Accounts
import Softnet.Lib.Signals

/-!
# Reading from the host

`Host::read`, the event callback that `Host::new` sets and `Host::finalize` in `lib/host.rs`.
Three parties run side by side: `vmnet`, which buffers packets and calls the callback; the
worker that runs the callback, which wakes the reader and then parks until the reader has
found nothing left; and the reader, whose future is dropped whenever another branch of the
proxy's loop is taken first.

`vmnet` calls the callback on one worker, so that it is never entered twice at a time, and
a read that finds nothing has found its buffer empty.  Everything else may happen in any
order, a packet may arrive at any time, and a read may be dropped wherever it waits.
-/

namespace Softnet

open Transition

/-- Where the worker that runs the callback is. -/
inductive Callback where
  | idle
  /-- Entered, and about to wake the reader. -/
  | entered
  /-- In `recv`, until the reader acknowledges or the sender is dropped. -/
  | parked
deriving DecidableEq, Repr

/-- Where the reader is. -/
inductive ReadPhase where
  /-- No read is in progress. -/
  | between
  /-- At the top of the loop. -/
  | waiting
  /-- About to call `read_batch`. -/
  | polling
deriving DecidableEq, Repr

/-- A host with packets of any kind, and the worker that runs its callback. -/
structure HostReader (π : Type) where
  interface : Interface
  ready : Notify
  draining : Bool
  /-- `callback_can_continue_tx` and its receiver. -/
  callbackCanContinue : BoundedChannel Unit 1
  callback : Callback
  /-- `vmnet` calls the callback. -/
  subscribed : Bool
  /-- What `vmnet` has buffered, oldest first. -/
  pending : List π
  phase : ReadPhase

/-- What happens between `vmnet`, the callback and the reader. -/
inductive Signal (π : Type) where
  | arrived (packets : List π)
  | called
  | notified
  | released
  | readStarted
  | woken
  | resumed
  | foundNothing
  | returned (result : Except ErrorChain (List π))
  | cancelled
  | finalized (answers : FinalizeAnswers)

namespace HostReader

variable {π : Type}

/-- The host that `Host::new` returns. -/
def new : HostReader π where
  interface := .new
  ready := .new
  draining := false
  callbackCanContinue := .new Unit 1
  callback := .idle
  subscribed := true
  pending := []
  phase := .between

/-- The branch of `read` after an empty read. -/
def acknowledge (s : HostReader π) : HostReader π :=
  { s with
    draining := false
    callbackCanContinue :=
      -- Buffer the acknowledgment so that the reader never waits for the callback
      if s.callbackCanContinue.connected then
        s.callbackCanContinue.afterTrySend ()
      else
        s.callbackCanContinue }

def finalize (answers : FinalizeAnswers) (s : HostReader π) : HostReader π :=
  if s.interface.finalized then
    s
  else
    { s with
      interface := (s.interface.finalize answers).1
      callbackCanContinue := s.callbackCanContinue.dropSender
      subscribed := s.subscribed && !answers.clearEventCallback.isOk }

end HostReader

/-- The steps of `vmnet`, of the callback and of the reader. -/
inductive ReaderStep {π : Type} (readMaxPackets : Nat) :
    HostReader π → Signal π → HostReader π → Prop
  | arrived
      {s : HostReader π}
      (packets : List π) :
      ReaderStep readMaxPackets s (.arrived packets)
        { s with pending := s.pending ++ packets }
  | called
      {s : HostReader π}
      (idle : s.callback = .idle)
      (subscribed : s.subscribed = true) :
      ReaderStep readMaxPackets s .called { s with callback := .entered }
  | notified
      {s : HostReader π}
      (entered : s.callback = .entered) :
      ReaderStep readMaxPackets s .notified
        { s with ready := s.ready.notifyOne, callback := .parked }
  -- The callback ignores whether it was acknowledged or disconnected
  | released
      {s : HostReader π} {answer : Option Unit} {channel : BoundedChannel Unit 1}
      (parked : s.callback = .parked)
      (received : s.callbackCanContinue.receive = some (answer, channel)) :
      ReaderStep readMaxPackets s .released
        { s with callbackCanContinue := channel, callback := .idle }
  | readStarted
      {s : HostReader π}
      (between : s.phase = .between) :
      ReaderStep readMaxPackets s .readStarted { s with phase := .waiting }
  | woken
      {s : HostReader π} {ready : Notify}
      (waiting : s.phase = .waiting)
      (undrained : s.draining = false)
      (permit : s.ready.notified = some ready) :
      ReaderStep readMaxPackets s .woken
        { s with ready := ready, draining := true, phase := .polling }
  -- One callback can cover several batches
  | resumed
      {s : HostReader π}
      (waiting : s.phase = .waiting)
      (draining : s.draining = true) :
      ReaderStep readMaxPackets s .resumed { s with phase := .polling }
  | foundNothing
      {s : HostReader π}
      (polling : s.phase = .polling)
      (empty : s.pending = []) :
      ReaderStep readMaxPackets s .foundNothing { s.acknowledge with phase := .waiting }
  | batchRead
      {s : HostReader π} {count : Nat}
      (polling : s.phase = .polling)
      (some : 0 < count)
      (buffers : count ≤ readMaxPackets)
      (available : count ≤ s.pending.length) :
      ReaderStep readMaxPackets s (.returned (.ok (s.pending.take count)))
        { s with pending := s.pending.drop count, phase := .between }
  | readFailed
      {s : HostReader π}
      (polling : s.phase = .polling)
      (error : ErrorChain) :
      ReaderStep readMaxPackets s (.returned (.error error)) { s with phase := .between }
  -- A permit that was on its way to the dropped future is stored again
  | cancelled
      {s : HostReader π}
      (waiting : s.phase = .waiting) :
      ReaderStep readMaxPackets s .cancelled { s with phase := .between }
  | finalized
      {s : HostReader π}
      (between : s.phase = .between)
      (answers : FinalizeAnswers) :
      ReaderStep readMaxPackets s (.finalized answers) (s.finalize answers)

/-- Everything that has happened to a host since `Host::new` returned it. -/
def ReaderRun
    {π : Type}
    (readMaxPackets : Nat)
    (history : List (Step (HostReader π) (Signal π)))
    (s : HostReader π) :
    Prop :=
  Run (ReaderStep readMaxPackets) .new history s

/-! ## The handshake -/

section Handshake

variable {π : Type}
variable {readMaxPackets : Nat}
variable {s s' : HostReader π}
variable {signal : Signal π}
variable {history : List (Step (HostReader π) (Signal π))}

/-- The wake-ups between the callback and the reader: on their way, being served, or answered. -/
def HostReader.wakeups (s : HostReader π) : Nat :=
  s.ready.permit.toNat + s.draining.toNat + s.callbackCanContinue.buffer.length

/-- While the channel is connected, a parked callback stands for exactly one wake-up. -/
structure HostReader.Balanced (s : HostReader π) : Prop where
  wakeups : s.callbackCanContinue.connected = true →
    s.wakeups = if s.callback = .parked then 1 else 0
  polling : s.phase = .polling → s.draining = true
  interface : s.callbackCanContinue.connected = s.interface.callbackCanContinue

theorem HostReader.balanced_new : (new : HostReader π).Balanced := by
  constructor <;> simp [new, wakeups, Notify.new, BoundedChannel.new, Interface.new]

theorem HostReader.Balanced.finalize
    (h : s.Balanced)
    (between : s.phase = .between)
    (answers : FinalizeAnswers) :
    (s.finalize answers).Balanced := by
  unfold HostReader.finalize
  split
  · exact h
  · next hopen =>
      constructor
      · simp [BoundedChannel.dropSender]
      · simp [between]
      · simp [BoundedChannel.dropSender, Interface.finalize, hopen]

/-- An empty read hands the wake-up that the reader was serving back to the callback. -/
theorem HostReader.Balanced.acknowledge
    (h : s.Balanced)
    (polling : s.phase = .polling)
    (connected : s.callbackCanContinue.connected = true) :
    s.callbackCanContinue.buffer = [] ∧ s.callback = .parked ∧
      s.acknowledge.wakeups = 1 := by
  have hwakeups := h.wakeups connected
  have hdraining := h.polling polling
  simp only [HostReader.wakeups, hdraining, Bool.toNat_true] at hwakeups
  have hparked : s.callback = .parked := by
    by_contra hother
    rw [if_neg hother] at hwakeups
    omega
  rw [if_pos hparked] at hwakeups
  have hbuffer : s.callbackCanContinue.buffer = [] :=
    List.eq_nil_of_length_eq_zero (by omega)
  refine ⟨hbuffer, hparked, ?_⟩
  have hsent : (s.callbackCanContinue.afterTrySend ()).buffer = [()] := by
    rw [BoundedChannel.afterTrySend_of_lt (by simp [hbuffer]), hbuffer, List.nil_append]
  simp only [HostReader.wakeups, HostReader.acknowledge, connected, if_true, hsent,
    Bool.toNat_false, List.length_singleton]
  omega

theorem ReaderStep.balanced
    (h : ReaderStep readMaxPackets s signal s')
    (hs : s.Balanced) :
    s'.Balanced := by
  cases h with
  | arrived packets => exact ⟨hs.wakeups, hs.polling, hs.interface⟩
  | called idle subscribed =>
      refine ⟨fun connected => ?_, hs.polling, hs.interface⟩
      simpa [HostReader.wakeups, idle] using hs.wakeups connected
  | notified entered =>
      refine ⟨fun connected => ?_, hs.polling, hs.interface⟩
      have hwakeups := hs.wakeups connected
      simp only [HostReader.wakeups, entered, reduceCtorEq, if_false] at hwakeups
      simp only [HostReader.wakeups, Notify.notifyOne, Bool.toNat_true, if_true]
      omega
  | released parked received =>
      have hkept := BoundedChannel.connected_of_receive received
      refine ⟨fun connected => ?_, hs.polling, hkept.trans hs.interface⟩
      have hwakeups := hs.wakeups (hkept.symm.trans connected)
      obtain ⟨value, _, hbuffer, _⟩ :=
        BoundedChannel.buffer_of_receive (hkept.symm.trans connected) received
      simp only [HostReader.wakeups, parked, hbuffer, List.length_cons, if_true] at hwakeups
      simp only [HostReader.wakeups, reduceCtorEq, if_false]
      omega
  | readStarted between => exact ⟨hs.wakeups, by simp, hs.interface⟩
  | woken waiting undrained permit =>
      obtain ⟨hpermit, rfl⟩ := Notify.notified_eq_some_iff.mp permit
      refine ⟨fun connected => ?_, fun _ => rfl, hs.interface⟩
      have hwakeups := hs.wakeups connected
      simpa [HostReader.wakeups, undrained, hpermit] using hwakeups
  | resumed waiting draining => exact ⟨hs.wakeups, fun _ => draining, hs.interface⟩
  | foundNothing polling empty =>
      have hkept : s.acknowledge.callbackCanContinue.connected =
          s.callbackCanContinue.connected := by
        simp only [HostReader.acknowledge]
        split <;> simp
      refine ⟨fun connected => ?_, by simp, hkept.trans hs.interface⟩
      obtain ⟨_, hparked, hone⟩ := hs.acknowledge polling (hkept.symm.trans connected)
      exact hone.trans (if_pos hparked).symm
  | batchRead polling => exact ⟨hs.wakeups, by simp, hs.interface⟩
  | readFailed polling => exact ⟨hs.wakeups, by simp, hs.interface⟩
  | cancelled waiting => exact ⟨hs.wakeups, by simp, hs.interface⟩
  | finalized between answers => exact hs.finalize between answers

theorem ReaderRun.balanced
    (run : ReaderRun readMaxPackets history s) :
    s.Balanced :=
  run.invariant HostReader.balanced_new fun _ _ _ hs h => h.balanced hs

theorem ReaderStep.polling
    (h : ReaderStep readMaxPackets s .foundNothing s') :
    s.phase = .polling := by
  cases h
  assumption

/-- What one wake-up can be. -/
theorem HostReader.wakeups_eq_one
    (h : s.wakeups = 1) :
    s.ready.permit = true ∧ s.draining = false ∧ s.callbackCanContinue.buffer = [] ∨
      s.ready.permit = false ∧ s.draining = true ∧ s.callbackCanContinue.buffer = [] ∨
      s.ready.permit = false ∧ s.draining = false ∧ s.callbackCanContinue.buffer = [()] := by
  have hbuffer : s.callbackCanContinue.buffer = [] ∨ s.callbackCanContinue.buffer = [()] := by
    have hbound := s.callbackCanContinue.bound
    match hlist : s.callbackCanContinue.buffer with
    | [] => exact .inl rfl
    | [()] => exact .inr rfl
    | _ :: _ :: _ => simp [hlist] at hbound
  cases hpermit : s.ready.permit <;> cases hdraining : s.draining <;>
    rcases hbuffer with hempty | hone <;> simp_all [HostReader.wakeups]

theorem HostReader.wakeups_eq_zero_iff :
    s.wakeups = 0 ↔
      s.ready.permit = false ∧ s.draining = false ∧ s.callbackCanContinue.buffer = [] := by
  simp [HostReader.wakeups, and_assoc]

/--
No wake-up is lost and none is made up.  Until the interface is finalized, a parked callback
has exactly one wake-up on its way to the reader, being served by it, or acknowledged; a
callback that is not parked has none.  So an acknowledgment always finds room in its channel.
-/
theorem wakeups_are_never_lost
    (readMaxPackets : Nat)
    (history : List (Step (HostReader π) (Signal π)))
    (s : HostReader π)
    (run : ReaderRun readMaxPackets history s) :
    (s.callbackCanContinue.connected = true →
      (s.callback = .parked →
        s.ready.permit = true ∧ s.draining = false ∧ s.callbackCanContinue.buffer = [] ∨
        s.ready.permit = false ∧ s.draining = true ∧ s.callbackCanContinue.buffer = [] ∨
        s.ready.permit = false ∧ s.draining = false ∧ s.callbackCanContinue.buffer = [()]) ∧
      (s.callback ≠ .parked →
        s.ready.permit = false ∧ s.draining = false ∧ s.callbackCanContinue.buffer = [])) ∧
    ∀ t ∈ history, t.label = .foundNothing → t.pre.callbackCanContinue.connected = true →
      ∃ channel, t.pre.callbackCanContinue.trySend () = .ok channel := by
  constructor
  · intro connected
    have hwakeups := run.balanced.wakeups connected
    constructor
    · intro hparked
      exact HostReader.wakeups_eq_one (hwakeups.trans (if_pos hparked))
    · intro hother
      exact HostReader.wakeups_eq_zero_iff.mp (hwakeups.trans (if_neg hother))
  · intro t ht hlabel connected
    obtain ⟨before, after, hcut⟩ := List.append_of_mem ht
    obtain ⟨hbefore, hstep, _⟩ := run.split hcut
    obtain ⟨hbuffer, _, _⟩ :=
      (ReaderRun.balanced hbefore).acknowledge (hlabel ▸ hstep).polling connected
    obtain ⟨channel, hsent, _⟩ :=
      BoundedChannel.trySend_of_lt () (by rw [hbuffer]; exact Nat.one_pos)
    exact ⟨channel, hsent⟩

/-- A packet is there, and a read waits for the callback. -/
def waitingReader : HostReader Nat :=
  { (HostReader.new : HostReader Nat) with pending := [7], phase := .waiting }

/-- The callback was called, and has woken the read. -/
def wokenReader : HostReader Nat :=
  { waitingReader with draining := true, callback := .parked, phase := .polling }

theorem waitingReader_run : ∃ history, ReaderRun 1 history waitingReader :=
  ⟨_, (Run.nil.snoc (.arrived [7])).snoc (.readStarted rfl)⟩

theorem wokenReader_run : ∃ later, Run (ReaderStep 1) waitingReader later wokenReader ∧
    later.map (·.label) = [.called, .notified, .woken] :=
  ⟨_, ((Run.nil.snoc (.called rfl rfl)).snoc (.notified rfl)).snoc (.woken rfl rfl rfl), rfl⟩

/-- The wake-up of the parked callback is the one that the woken reader serves. -/
theorem wakeups_are_never_lost_woken :
    wokenReader.callback = .parked ∧ wokenReader.draining = true ∧
      wokenReader.ready.permit = false ∧ wokenReader.callbackCanContinue.buffer = [] := by
  obtain ⟨history, run⟩ := waitingReader_run
  obtain ⟨later, continued, _⟩ := wokenReader_run
  have hone := ((wakeups_are_never_lost 1 _ _ (run.append continued)).1 rfl).1 rfl
  rcases hone with ⟨_, habsurd, _⟩ | ⟨hpermit, hdraining, hbuffer⟩ | ⟨_, habsurd, _⟩
  · cases habsurd
  · exact ⟨rfl, hdraining, hpermit, hbuffer⟩
  · cases habsurd

end Handshake

/-! ## Progress -/

section Progress

variable {π : Type}
variable {readMaxPackets : Nat}
variable {s s' : HostReader π}
variable {signal : Signal π}

def Signal.isArrival : Signal π → Bool
  | .arrived _ => true
  | _ => false

/-- The read in progress returns or is dropped. -/
def Signal.endsRead : Signal π → Bool
  | .returned _ | .cancelled => true
  | _ => false

/-- Packets are waiting for the read in progress, and nobody has finalized the host. -/
structure HostReader.Awaited (s : HostReader π) : Prop where
  balanced : s.Balanced
  inProgress : s.phase ≠ .between
  pending : s.pending ≠ []
  connected : s.callbackCanContinue.connected = true
  subscribed : s.subscribed = true

/-- How many steps the callback and the reader still have to take before the read returns. -/
def HostReader.rank (s : HostReader π) : Nat :=
  match s.phase with
  | .between => 0
  | .polling => 1
  | .waiting =>
      if s.draining || s.ready.permit then
        2
      else
        match s.callback with
        | .entered => 3
        | .idle => 4
        | .parked => 5

theorem HostReader.rank_le (s : HostReader π) : s.rank ≤ 5 := by
  unfold HostReader.rank
  split
  · omega
  · omega
  · split
    · omega
    · split <;> omega

/-- While the reader is served a wake-up, the callback cannot move. -/
theorem HostReader.Awaited.parked_of_wakeup
    (h : s.Awaited)
    (hwakeup : s.draining = true ∨ s.ready.permit = true) :
    s.callback = .parked ∧ s.callbackCanContinue.buffer = [] := by
  have hwakeups := h.balanced.wakeups h.connected
  have hparked : s.callback = .parked := by
    by_contra hother
    obtain ⟨hpermit, hdraining, _⟩ :=
      HostReader.wakeups_eq_zero_iff.mp (hwakeups.trans (if_neg hother))
    rcases hwakeup with h | h
    · simp [hdraining] at h
    · simp [hpermit] at h
  refine ⟨hparked, ?_⟩
  rcases HostReader.wakeups_eq_one (hwakeups.trans (if_pos hparked)) with
    ⟨_, _, hbuffer⟩ | ⟨_, _, hbuffer⟩ | ⟨hpermit, hdraining, _⟩
  · exact hbuffer
  · exact hbuffer
  · simp [hpermit, hdraining] at hwakeup

/-- The callback moves only while the reader waits for it. -/
theorem HostReader.Awaited.quiet
    (h : s.Awaited)
    (hmoves : s.callback ≠ .parked ∨ s.callbackCanContinue.buffer ≠ []) :
    s.phase = .waiting ∧ s.draining = false ∧ s.ready.permit = false := by
  have hnone : ¬ (s.draining = true ∨ s.ready.permit = true) := by
    intro hwakeup
    obtain ⟨hparked, hbuffer⟩ := h.parked_of_wakeup hwakeup
    exact hmoves.elim (· hparked) (· hbuffer)
  obtain ⟨hdraining, hpermit⟩ := not_or.mp hnone
  refine ⟨?_, by simpa using hdraining, by simpa using hpermit⟩
  cases hphase : s.phase with
  | between => exact absurd hphase h.inProgress
  | waiting => rfl
  | polling => exact absurd (h.balanced.polling hphase) hdraining

/-- Whatever happens, a read that packets are waiting for comes closer to its end. -/
theorem ReaderStep.rank_lt
    (h : ReaderStep readMaxPackets s signal s')
    (hs : s.Awaited)
    (unended : signal.endsRead = false) :
    s'.Awaited ∧ s'.rank + (!signal.isArrival).toNat ≤ s.rank := by
  have hbalanced := h.balanced hs.balanced
  cases h with
  | arrived packets =>
      have hmore : s.pending ++ packets ≠ [] := by
        simp [hs.pending]
      exact ⟨⟨hbalanced, hs.inProgress, hmore, hs.connected, hs.subscribed⟩, le_rfl⟩
  | called idle subscribed =>
      obtain ⟨hphase, hdraining, hpermit⟩ := hs.quiet (.inl (by simp [idle]))
      refine ⟨⟨hbalanced, hs.inProgress, hs.pending, hs.connected, hs.subscribed⟩, ?_⟩
      simp [HostReader.rank, Signal.isArrival, hphase, hdraining, hpermit, idle]
  | notified entered =>
      obtain ⟨hphase, hdraining, hpermit⟩ := hs.quiet (.inl (by simp [entered]))
      refine ⟨⟨hbalanced, hs.inProgress, hs.pending, hs.connected, hs.subscribed⟩, ?_⟩
      simp [HostReader.rank, Signal.isArrival, hphase, hdraining, hpermit, entered,
        Notify.notifyOne]
  | released parked received =>
      have hkept := BoundedChannel.connected_of_receive received
      obtain ⟨_, _, hbuffer, _⟩ := BoundedChannel.buffer_of_receive hs.connected received
      obtain ⟨hphase, hdraining, hpermit⟩ := hs.quiet (.inr (by simp [hbuffer]))
      refine ⟨⟨hbalanced, hs.inProgress, hs.pending, hkept.trans hs.connected,
        hs.subscribed⟩, ?_⟩
      simp [HostReader.rank, Signal.isArrival, hphase, hdraining, hpermit, parked]
  | readStarted between => exact absurd between hs.inProgress
  | woken waiting undrained permit =>
      obtain ⟨hpermit, _⟩ := Notify.notified_eq_some_iff.mp permit
      refine ⟨⟨hbalanced, by simp, hs.pending, hs.connected, hs.subscribed⟩, ?_⟩
      simp [HostReader.rank, Signal.isArrival, waiting, hpermit]
  | resumed waiting draining =>
      refine ⟨⟨hbalanced, by simp, hs.pending, hs.connected, hs.subscribed⟩, ?_⟩
      simp [HostReader.rank, Signal.isArrival, waiting, draining]
  | foundNothing polling empty => exact absurd empty hs.pending
  | batchRead | readFailed | cancelled => cases unended
  | finalized between => exact absurd between hs.inProgress

/-- Somebody can always move. -/
theorem HostReader.Awaited.exists_step
    (readMaxPackets : Nat)
    (h : s.Awaited) :
    ∃ signal s', ReaderStep readMaxPackets s signal s' ∧
      signal.isArrival = false ∧ signal ≠ .cancelled := by
  cases hphase : s.phase with
  | between => exact absurd hphase h.inProgress
  | polling => exact ⟨_, _, .readFailed hphase [], rfl, by simp⟩
  | waiting =>
      cases hdraining : s.draining with
      | true => exact ⟨_, _, .resumed hphase hdraining, rfl, by simp⟩
      | false =>
          cases hpermit : s.ready.permit with
          | true =>
              have hnotified := Notify.notified_eq_some_iff.mpr ⟨hpermit, rfl⟩
              exact ⟨_, _, .woken hphase hdraining hnotified, rfl, by simp⟩
          | false =>
              cases hcallback : s.callback with
              | idle => exact ⟨_, _, .called hcallback h.subscribed, rfl, by simp⟩
              | entered => exact ⟨_, _, .notified hcallback, rfl, by simp⟩
              | parked =>
                  have hwakeups := h.balanced.wakeups h.connected
                  rw [if_pos hcallback] at hwakeups
                  have hbuffer : s.callbackCanContinue.buffer ≠ [] := by
                    intro hempty
                    simp [HostReader.wakeups, hdraining, hpermit, hempty] at hwakeups
                  obtain ⟨_, _, hreceived⟩ := BoundedChannel.exists_receive (.inr hbuffer)
                  exact ⟨_, _, .released hcallback hreceived, rfl, by simp⟩

/--
A read that packets are waiting for returns soon.  From any reached state in which the callback
is still subscribed and its channel connected, however the callback and the reader take turns and
whatever else arrives, they take at most five steps until the read has returned or is dropped,
and until then one of them can always move.
-/
theorem read_returns_soon
    (readMaxPackets : Nat)
    (history : List (Step (HostReader π) (Signal π)))
    (s : HostReader π)
    (run : ReaderRun readMaxPackets history s)
    (inProgress : s.phase ≠ .between)
    (pending : s.pending ≠ [])
    (connected : s.callbackCanContinue.connected = true)
    (subscribed : s.subscribed = true)
    (later : List (Step (HostReader π) (Signal π)))
    (s' : HostReader π)
    (continued : Run (ReaderStep readMaxPackets) s later s')
    (unended : ∀ t ∈ later, t.label.endsRead = false) :
    later.countP (fun t => !t.label.isArrival) ≤ 5 ∧
      ∃ signal s'', ReaderStep readMaxPackets s' signal s'' ∧
        signal.isArrival = false ∧ signal ≠ .cancelled := by
  have hawaited : s.Awaited := ⟨run.balanced, inProgress, pending, connected, subscribed⟩
  obtain ⟨hstill, hcount⟩ := continued.countP_add_rank_le
    (I := HostReader.Awaited) HostReader.rank hawaited
    fun t ht hstep hpre => hstep.rank_lt hpre (unended t ht)
  have hrank := s.rank_le
  exact ⟨by omega, hstill.exists_step readMaxPackets⟩

/-- The callback is called, wakes the read, and the read has not returned yet. -/
theorem read_returns_soon_woken :
    ∃ signal s, ReaderStep 1 wokenReader signal s ∧
      signal.isArrival = false ∧ signal ≠ .cancelled := by
  obtain ⟨history, run⟩ := waitingReader_run
  obtain ⟨later, continued, hlabels⟩ := wokenReader_run
  refine (read_returns_soon 1 history waitingReader run (by decide) (by decide) rfl rfl later
    wokenReader continued ?_).2
  intro t ht
  have hlabel := List.mem_map_of_mem (f := (·.label)) ht
  rw [hlabels] at hlabel
  simp only [List.mem_cons, List.not_mem_nil, or_false] at hlabel
  rcases hlabel with h | h | h <;> rw [h] <;> rfl

end Progress

/-! ## Delivery -/

section Delivery

variable {π : Type}
variable {readMaxPackets : Nat}
variable {s s' : HostReader π}
variable {signal : Signal π}

def Signal.arrivals : Signal π → List π
  | .arrived packets => packets
  | _ => []

/-- The packets of a batch that a read returned. -/
def Signal.deliveries : Signal π → List π
  | .returned (.ok packets) => packets
  | _ => []

@[simp] theorem HostReader.pending_acknowledge : s.acknowledge.pending = s.pending :=
  rfl

@[simp] theorem HostReader.pending_finalize
    (answers : FinalizeAnswers) :
    (s.finalize answers).pending = s.pending := by
  unfold HostReader.finalize
  split <;> rfl

theorem ReaderStep.pending_append
    (h : ReaderStep readMaxPackets s signal s') :
    s.pending ++ signal.arrivals = signal.deliveries ++ s'.pending := by
  cases h with
  | batchRead => simp [Signal.arrivals, Signal.deliveries]
  | finalized => simp [Signal.arrivals, Signal.deliveries]
  | foundNothing => simp [Signal.arrivals, Signal.deliveries]
  | arrived | called | notified | released | readStarted | woken | resumed | readFailed
  | cancelled => simp [Signal.arrivals, Signal.deliveries]

/--
Reads lose nothing and repeat nothing.  Whatever was read in batches, dropped or failed, the
packets that reads returned are the packets that arrived, in order, up to those that `vmnet`
still holds.
-/
theorem reads_deliver_in_order
    (readMaxPackets : Nat)
    (history : List (Step (HostReader π) (Signal π)))
    (s : HostReader π)
    (run : ReaderRun readMaxPackets history s) :
    produced Signal.arrivals history = produced Signal.deliveries history ++ s.pending :=
  run.conserves HostReader.pending fun _ _ _ h => h.pending_append

/-- The packet that woke the read is the packet that it returns. -/
theorem reads_deliver_in_order_woken :
    ∃ history s, ReaderRun 1 history s ∧ s.pending = [] ∧
      produced Signal.deliveries history = [7] := by
  have run : ReaderRun 1 _ { wokenReader with pending := [], phase := .between } :=
    (((((Run.nil.snoc (.arrived [7])).snoc (.readStarted rfl)).snoc (.called rfl rfl)).snoc
      (.notified rfl)).snoc (.woken rfl rfl rfl)).snoc (.batchRead rfl Nat.one_pos le_rfl le_rfl)
  exact ⟨_, _, run, rfl, (List.append_nil _).symm.trans (reads_deliver_in_order 1 _ _ run).symm⟩

end Delivery

/-! ## Shutdown -/

section Shutdown

variable {π : Type}
variable {readMaxPackets : Nat}
variable {s s' : HostReader π}
variable {signal : Signal π}

/-- The worker that runs the callback moves. -/
def Signal.ofCallback : Signal π → Bool
  | .called | .notified | .released => true
  | _ => false

/-- How many steps a callback that is not called again still takes. -/
def Callback.remaining : Callback → Nat
  | .idle => 0
  | .parked => 1
  | .entered => 2

/-- A sender that was dropped stays dropped, and a callback that was cleared stays cleared. -/
theorem ReaderStep.released_for_good
    (h : ReaderStep readMaxPackets s signal s') :
    (s.callbackCanContinue.connected = false → s'.callbackCanContinue.connected = false) ∧
      (s.subscribed = false → s'.subscribed = false) := by
  cases h with
  | released parked received =>
      exact ⟨(BoundedChannel.connected_of_receive received).trans, id⟩
  | foundNothing polling empty =>
      refine ⟨fun dropped => ?_, id⟩
      simp [HostReader.acknowledge, dropped]
  | finalized between answers =>
      unfold HostReader.finalize
      split
      · exact ⟨id, id⟩
      · exact ⟨fun _ => rfl, fun cleared => by simp [cleared]⟩
  | arrived | called | notified | readStarted | woken | resumed | batchRead | readFailed
  | cancelled => exact ⟨id, id⟩

/-- A callback that was cleared runs to its end and is not called again. -/
theorem ReaderStep.remaining_lt
    (h : ReaderStep readMaxPackets s signal s')
    (cleared : s.subscribed = false) :
    s'.callback.remaining + signal.ofCallback.toNat ≤ s.callback.remaining := by
  cases h with
  | called idle subscribed => simp [cleared] at subscribed
  | notified entered => simp [Callback.remaining, Signal.ofCallback, entered]
  | released parked => simp [Callback.remaining, Signal.ofCallback, parked]
  | finalized between answers =>
      unfold HostReader.finalize
      split <;> simp [Signal.ofCallback]
  | arrived | readStarted | woken | resumed | foundNothing | batchRead | readFailed
  | cancelled => simp [Signal.ofCallback, HostReader.acknowledge]

/--
Finalizing a host lets go of its callback.  From then on a callback that was entered can
always move without the reader, and if it could be cleared, it moves at most twice more.
-/
theorem finalized_callback_returns
    (readMaxPackets : Nat)
    (s : HostReader π)
    (opened : s.interface.finalized = false)
    (answers : FinalizeAnswers)
    (later : List (Step (HostReader π) (Signal π)))
    (s' : HostReader π)
    (continued : Run (ReaderStep readMaxPackets) (s.finalize answers) later s') :
    (s'.callback ≠ .idle →
      ∃ signal s'', ReaderStep readMaxPackets s' signal s'' ∧ signal.ofCallback = true) ∧
    (answers.clearEventCallback.isOk = true →
      later.countP (fun t => t.label.ofCallback) ≤ 2) := by
  have hstart : s.finalize answers =
      { s with
        interface := (s.interface.finalize answers).1
        callbackCanContinue := s.callbackCanContinue.dropSender
        subscribed := s.subscribed && !answers.clearEventCallback.isOk } := by
    simp [HostReader.finalize, opened]
  constructor
  · intro hentered
    have hdropped : s'.callbackCanContinue.connected = false :=
      continued.invariant (I := fun s => s.callbackCanContinue.connected = false)
        (by rw [hstart]; rfl) fun _ _ _ hs h => h.released_for_good.1 hs
    cases hcallback : s'.callback with
    | idle => exact absurd hcallback hentered
    | entered => exact ⟨_, _, .notified hcallback, rfl⟩
    | parked =>
        obtain ⟨_, _, hreceived⟩ := BoundedChannel.exists_receive (.inl hdropped)
        exact ⟨_, _, .released hcallback hreceived, rfl⟩
  · intro hcleared
    obtain ⟨_, hcount⟩ := continued.countP_add_rank_le
      (I := fun s => s.subscribed = false) (fun s => s.callback.remaining)
      (by rw [hstart]; simp [hcleared])
      fun t _ hstep hpre => ⟨hstep.released_for_good.2 hpre, hstep.remaining_lt hpre⟩
    have hbound : (s.finalize answers).callback.remaining ≤ 2 := by
      cases (s.finalize answers).callback <;> simp [Callback.remaining]
    omega

/-- A parked callback whose reader never acknowledges returns after the host is finalized. -/
theorem finalized_callback_returns_woken :
    ∃ signal s, ReaderStep 1 (wokenReader.finalize ⟨.ok (), .ok ()⟩) signal s ∧
      signal.ofCallback = true :=
  (finalized_callback_returns 1 wokenReader rfl ⟨.ok (), .ok ()⟩ [] _ .nil).1 (by decide)

end Shutdown

end Softnet
