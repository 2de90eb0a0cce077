import Mathlib.Logic.Function.Iterate
import Softnet.Control.Framing

/-!
# The framing loop is bounded

The loop of `ControlTransport::next`, one half of an iteration at a time, call after call and
on any sequence of receive results.  A receive without a result ends the call: the stream has
ended, or receiving has failed.  A finite sequence is one without results from some point on.

Nothing in the loop is limited by a check of its own, apart from the length of a frame: the
other bounds follow from the order in which it decodes, discards and receives.  Between two
decodings at most one buffer is added, so that what is still to be searched never exceeds one.
-/

namespace Softnet

namespace ControlTransport

/-! ## The loop as a machine -/

/-- Where the transport is: between two calls of `next`, or in one of the halves of its loop. -/
inductive Position where
  /-- The last call returned the frame and left these bytes for the next one. -/
  | between (frame : Option Frame) (buffered : List UInt8)
  | decoding (st : Reading)
  | receiving (st : Reading)

/-- A position, and the number of receive results that have been used. -/
structure Loop where
  received : Nat
  position : Position

namespace Loop

/-- One half of an iteration, or the start of the next call. -/
def step (results : Nat → Option Chunk) (loop : Loop) : Loop :=
  match loop.position with
  | .between _ buffered => ⟨loop.received, .decoding ⟨buffered, [], none, .new⟩⟩
  | .decoding st =>
      match st.decode with
      | .inl (frame, input) => ⟨loop.received, .between (some frame) input⟩
      | .inr st => ⟨loop.received, .receiving st⟩
  | .receiving st =>
      match results loop.received with
      | none => ⟨loop.received + 1, .between none []⟩
      | some chunk => ⟨loop.received + 1, .decoding (st.receive chunk)⟩

/-- A new transport, before the first call. -/
def start : Loop :=
  ⟨0, .between none []⟩

/-- The loop after a number of steps of a new transport. -/
def after (results : Nat → Option Chunk) (n : Nat) : Loop :=
  (step results)^[n] start

section Steps

variable {results : Nat → Option Chunk}
variable {received : Nat}
variable {st st' : Reading}

theorem step_of_frame
    (results : Nat → Option Chunk)
    {frame : Frame} {rest : List UInt8}
    (h : st.decode = .inl (frame, rest)) :
    step results ⟨received, .decoding st⟩ = ⟨received, .between (some frame) rest⟩ := by
  simp only [step, h]

theorem step_of_unfinished
    (results : Nat → Option Chunk)
    (h : st.decode = .inr st') :
    step results ⟨received, .decoding st⟩ = ⟨received, .receiving st'⟩ := by
  simp only [step, h]

theorem step_of_end
    (h : results received = none) :
    step results ⟨received, .receiving st⟩ = ⟨received + 1, .between none []⟩ := by
  simp only [step, h]

theorem step_of_chunk
    {chunk : Chunk}
    (h : results received = some chunk) :
    step results ⟨received, .receiving st⟩ =
      ⟨received + 1, .decoding (st.receive chunk)⟩ := by
  simp only [step, h]

end Steps

end Loop

/-! ## Bounds -/

section Bounds

variable {st st' : Reading}

/-- The codec finds a newline that it has not searched yet, or there is none to be found. -/
theorem decode_codec_cases
    (codec : LinesCodec)
    (input : List UInt8) :
    (∃ line rest, codec.decode input = (⟨0⟩, rest, some line) ∧
        codec.nextIndex + rest.length + 1 ≤ input.length) ∨
      codec.decode input = (⟨input.length⟩, input, none) := by
  unfold LinesCodec.decode
  cases hfind : (input.drop codec.nextIndex).findIdx? (· == newline) with
  | none => exact Or.inr rfl
  | some offset =>
      have hoffset := (List.findIdx?_eq_some_iff_findIdx_eq.mp hfind).1
      rw [List.length_drop] at hoffset
      refine Or.inl ⟨_, _, rfl, ?_⟩
      rw [List.length_drop]
      omega

/-- The state before decoding.  At most one buffer has not been searched. -/
structure Reading.Filled (st : Reading) : Prop where
  searched : st.codec.nextIndex ≤ st.input.length
  unsearched : st.input.length ≤ st.codec.nextIndex + readBufferBytes
  size : st.codec.nextIndex ≤ maxRequestBytes
  held : st.fds.length ≤ 2 * maxFrameFds + 1
  few : st.frameError = none → st.fds.length ≤ maxFrameFds
  attached : st.input = [] → st.fds = []

/-- The state before a receive.  Everything in the buffer has been searched. -/
structure Reading.Drained (st : Reading) : Prop where
  searched : st.codec.nextIndex = st.input.length
  size : st.input.length ≤ maxRequestBytes
  few : st.fds.length ≤ maxFrameFds
  attached : st.input = [] → st.fds = []

/-- What holds at each position. -/
def Position.Bounded : Position → Prop
  | .between frame buffered =>
      buffered.length < readBufferBytes ∧
        ∀ returned, frame = some returned → returned.fds.length ≤ maxFrameFds
  | .decoding st => st.Filled
  | .receiving st => st.Drained

/-- A call begins with less than a buffer and without descriptors. -/
theorem Reading.filled_of_buffered
    {buffered : List UInt8}
    (h : buffered.length < readBufferBytes) :
    Reading.Filled ⟨buffered, [], none, .new⟩ := by
  refine ⟨Nat.zero_le _, ?_, Nat.zero_le _, Nat.zero_le _, fun _ => Nat.zero_le _, fun _ => rfl⟩
  exact h.le.trans (Nat.le_add_left _ _)

/--
Decoding returns a frame and what is behind it, keeps all of a proper unfinished frame, or
discards a frame with an error.
-/
theorem Reading.decode_cases
    (st : Reading) :
    (∃ frame rest, st.decode = .inl (frame, rest) ∧
        st.codec.nextIndex + rest.length + 1 ≤ st.input.length ∧
        (frame.fds = [] ∨ st.frameError = none ∧ frame.fds = st.fds)) ∨
      (st.decode = .inr { st with codec := ⟨st.input.length⟩ } ∧
        st.frameError = none ∧ st.input.length ≤ maxRequestBytes) ∨
      ∃ error, st.decode = .inr ⟨[], [], some error, .new⟩ := by
  rcases decode_codec_cases st.codec st.input with ⟨line, rest, hdecode, hlength⟩ | hdecode
  · refine Or.inl ⟨_, rest, Reading.decode_of_line hdecode, hlength, ?_⟩
    unfold Reading.finish
    cases hfault : st.fault (st.input.length - rest.length - 1) with
    | some error => exact Or.inl rfl
    | none =>
        cases line with
        | none => exact Or.inl rfl
        | some text => exact Or.inr ⟨(Reading.fault_eq_none_iff.mp hfault).1, rfl⟩
  · rw [Reading.decode_of_unfinished hdecode]
    cases hfault : st.fault st.input.length with
    | none => exact Or.inr (Or.inl ⟨rfl, Reading.fault_eq_none_iff.mp hfault⟩)
    | some error => exact Or.inr (Or.inr ⟨error, rfl⟩)

/-- A frame that is returned leaves less than a buffer behind. -/
theorem Reading.Filled.bounded_between
    {frame : Frame} {rest : List UInt8}
    (h : st.Filled)
    (hlength : st.codec.nextIndex + rest.length + 1 ≤ st.input.length)
    (hfds : frame.fds = [] ∨ st.frameError = none ∧ frame.fds = st.fds) :
    (Position.between (some frame) rest).Bounded := by
  have hunsearched := h.unsearched
  refine ⟨by omega, ?_⟩
  rintro _ ⟨rfl⟩
  rcases hfds with hfds | ⟨herror, hfds⟩
  · simp [hfds]
  · rw [hfds]
    exact h.few herror

/-- An empty buffer after a discarded frame. -/
theorem Reading.drained_discarded
    (error : FrameError) :
    Reading.Drained ⟨[], [], some error, .new⟩ :=
  ⟨rfl, Nat.zero_le _, Nat.zero_le _, fun _ => rfl⟩

/-- A receive adds at most one buffer to what has been searched. -/
theorem Reading.Drained.receive
    (h : st.Drained)
    (chunk : Chunk) :
    (st.receive chunk).Filled := by
  have hbytes := chunk.bytes_le
  have hfds := chunk.fds_le
  have hfew := h.few
  refine ⟨?_, ?_, ?_, ?_, ?_, ?_⟩
  · simp [h.searched]
  · simpa [h.searched] using hbytes
  · simpa [h.searched] using h.size
  · simp only [receive_fds, List.length_append]
    omega
  · intro herror
    have hprevious : st.frameError = none := by
      by_contra hne
      exact receive_frameError_ne_none hne chunk herror
    rw [receive_fds, List.length_append]
    rcases (receive_frameError hprevious chunk).mp herror with hnone | ⟨hempty, hmany⟩
    · simpa [hnone] using hfew
    · simpa [h.attached hempty] using hmany
  · intro hempty
    simp [chunk.bytes_ne_nil] at hempty

theorem Loop.start_bounded : Loop.start.position.Bounded :=
  ⟨by decide, by simp⟩

/-- One step of the loop keeps the bounds. -/
theorem Loop.step_bounded
    (results : Nat → Option Chunk)
    {loop : Loop}
    (h : loop.position.Bounded) :
    (loop.step results).position.Bounded := by
  obtain ⟨received, position⟩ := loop
  cases position with
  | between frame buffered => exact Reading.filled_of_buffered h.1
  | decoding st =>
      have hfilled : st.Filled := h
      rcases st.decode_cases with ⟨frame, rest, hdecode, hlength, hfds⟩ |
        ⟨hdecode, herror, hsize⟩ | ⟨error, hdecode⟩
      · rw [Loop.step_of_frame results hdecode]
        exact hfilled.bounded_between hlength hfds
      · rw [Loop.step_of_unfinished results hdecode]
        exact ⟨rfl, hsize, hfilled.few herror, hfilled.attached⟩
      · rw [Loop.step_of_unfinished results hdecode]
        exact Reading.drained_discarded error
  | receiving st =>
      have hdrained : st.Drained := h
      cases hresult : results received with
      | none =>
          rw [Loop.step_of_end hresult]
          exact Loop.start_bounded
      | some chunk =>
          rw [Loop.step_of_chunk hresult]
          exact hdrained.receive chunk

theorem Loop.after_bounded
    (results : Nat → Option Chunk)
    (n : Nat) :
    (Loop.after results n).position.Bounded := by
  induction n with
  | zero => exact Loop.start_bounded
  | succ n ih =>
      rw [Loop.after, Function.iterate_succ_apply']
      exact Loop.step_bounded results ih

/--
The bounds of the framing loop, at every point of any number of calls and on every sequence of
receive results.  The decoder's position never exceeds the input, a decoded line takes at least
its newline off the input, and what a call leaves for the next one is less than a buffer.
-/
theorem framing_loop_bounded
    (results : Nat → Option Chunk)
    (n : Nat) :
    (∀ st, (Loop.after results n).position = .decoding st ∨
        (Loop.after results n).position = .receiving st →
      st.input.length ≤ maxRequestBytes + readBufferBytes ∧
      st.fds.length ≤ 2 * maxFrameFds + 1 ∧
      st.codec.nextIndex ≤ st.input.length) ∧
    (∀ st, (Loop.after results n).position = .decoding st →
      (st.codec.decode st.input).2.2.isSome = true →
      (st.codec.decode st.input).2.1.length + 1 ≤ st.input.length) ∧
    (∀ frame buffered, (Loop.after results n).position = .between frame buffered →
      buffered.length < readBufferBytes ∧
      ∀ returned, frame = some returned → returned.fds.length ≤ maxFrameFds) := by
  have hbounded := Loop.after_bounded results n
  refine ⟨?_, ?_, ?_⟩
  · rintro st (hst | hst)
    · rw [hst] at hbounded
      have hfilled : st.Filled := hbounded
      refine ⟨hfilled.unsearched.trans ?_, hfilled.held, hfilled.searched⟩
      exact Nat.add_le_add_right hfilled.size _
    · rw [hst] at hbounded
      have hdrained : st.Drained := hbounded
      have hfew := hdrained.few
      refine ⟨hdrained.size.trans (Nat.le_add_right _ _), by omega, hdrained.searched.le⟩
  · intro st _ hfound
    rcases decode_codec_cases st.codec st.input with ⟨line, rest, hdecode, hlength⟩ | hdecode
    · rw [hdecode]
      dsimp only
      omega
    · rw [hdecode] at hfound
      cases hfound
  · intro frame buffered hposition
    rw [hposition] at hbounded
    exact hbounded

end Bounds

/-! ## The loop and the calls of `next` -/

section Calls

variable {results : Nat → Option Chunk}

/-- From some point on the receive results are those of the socket. -/
def Provides (results : Nat → Option Chunk) (received : Nat) (socket : List Chunk) : Prop :=
  ∀ i, results (received + i) = socket[i]?

theorem Provides.tail
    {received : Nat} {socket : List Chunk}
    (h : Provides results received socket) :
    Provides results (received + 1) socket.tail := by
  intro i
  rw [List.getElem?_tail, ← h (i + 1), Nat.add_right_comm, Nat.add_assoc]

/-- The loop comes to an end as the recursion over the socket does. -/
theorem Loop.reaches_run
    {received : Nat} {socket : List Chunk}
    (hsocket : Provides results received socket)
    (st : Reading) :
    ∃ k received', Provides results received' (st.run socket).2.socket ∧
      (Loop.step results)^[k] ⟨received, .decoding st⟩ =
        ⟨received', .between (st.run socket).1 (st.run socket).2.buffered⟩ := by
  induction socket generalizing received st with
  | nil =>
      unfold Reading.run
      rcases hdecode : st.decode with ⟨frame, rest⟩ | st'
      · exact ⟨1, received, hsocket, Loop.step_of_frame results hdecode⟩
      · have hend : results received = none := hsocket 0
        refine ⟨2, received + 1, hsocket.tail, ?_⟩
        rw [Function.iterate_succ_apply, Loop.step_of_unfinished results hdecode]
        exact Loop.step_of_end hend
  | cons chunk socket ih =>
      unfold Reading.run
      rcases hdecode : st.decode with ⟨frame, rest⟩ | st'
      · exact ⟨1, received, hsocket, Loop.step_of_frame results hdecode⟩
      · have hchunk : results received = some chunk := hsocket 0
        obtain ⟨k, received', hrest, hreached⟩ := ih hsocket.tail (st'.receive chunk)
        refine ⟨k + 2, received', hrest, ?_⟩
        rw [Function.iterate_succ_apply, Function.iterate_succ_apply,
          Loop.step_of_unfinished results hdecode, Loop.step_of_chunk hchunk]
        exact hreached

/-- A call of `next` is a run of the loop. -/
theorem Loop.reaches_next
    {received : Nat} {transport : ControlTransport}
    (hsocket : Provides results received transport.socket)
    (frame : Option Frame) :
    ∃ k received', Provides results received' transport.next.2.socket ∧
      (Loop.step results)^[k] ⟨received, .between frame transport.buffered⟩ =
        ⟨received', .between transport.next.1 transport.next.2.buffered⟩ := by
  obtain ⟨k, received', hrest, hreached⟩ :=
    Loop.reaches_run hsocket ⟨transport.buffered, [], none, .new⟩
  refine ⟨k + 1, received', hrest, ?_⟩
  rw [Function.iterate_succ_apply]
  exact hreached

/-- The states between two calls of `next` are states of the loop. -/
theorem Loop.reaches_afterCalls
    {received : Nat}
    (transport : ControlTransport)
    (frame : Option Frame)
    (hsocket : Provides results received transport.socket)
    (calls : Nat) :
    ∃ k received' frame',
      Provides results received' (afterCalls calls transport).socket ∧
      (Loop.step results)^[k] ⟨received, .between frame transport.buffered⟩ =
        ⟨received', .between frame' (afterCalls calls transport).buffered⟩ := by
  induction calls generalizing received transport frame with
  | zero => exact ⟨0, received, frame, hsocket, rfl⟩
  | succ calls ih =>
      obtain ⟨k, received', hrest, hnext⟩ := Loop.reaches_next hsocket frame
      obtain ⟨k', received'', frame', hlast, hcalls⟩ := ih transport.next.2 transport.next.1 hrest
      refine ⟨k' + k, received'', frame', hlast, ?_⟩
      rw [Function.iterate_add_apply, hnext]
      exact hcalls

/-- What the calls of `next` on a new transport leave for later is less than a buffer. -/
theorem buffered_afterCalls_lt
    (socket : List Chunk)
    (calls : Nat) :
    (afterCalls calls ⟨socket, []⟩).buffered.length < readBufferBytes := by
  have hsocket : Provides (fun i => socket[i]?) 0 socket := fun i => by
    rw [Nat.zero_add]
  obtain ⟨k, received, frame, _, hreached⟩ :=
    Loop.reaches_afterCalls ⟨socket, []⟩ none hsocket calls
  have hbounded := Loop.after_bounded (fun i => socket[i]?) k
  rw [Loop.after, Loop.start, hreached] at hbounded
  exact hbounded.1

end Calls

end ControlTransport

end Softnet
