import Softnet.HostReader
import Softnet.Proxy.Endings
import Softnet.Proxy.Wire

/-!
# From the host to the VM

The loop of `Proxy::run` together with the host that it reads from: `lib/proxy/mod.rs` over
`lib/host.rs`.  While the loop selects, a read of the host is in progress; when another branch
is taken first, the read is dropped, and the next selection starts another one.  `vmnet` and the
callback go on all the time.
-/

namespace Softnet

open Transition

/-- A proxy in its loop, and the host that it reads frames from. -/
structure Pipeline where
  serving : Serving
  reader : HostReader (Option EthernetFrame)

/-- What the loop and what the host do in one step. -/
structure PipelineLabel where
  turn : Option Turn
  signal : Option (Signal (Option EthernetFrame))

/-- `vmnet` and its callback need neither the reader nor the loop. -/
def Signal.isIndependent {π : Type} : Signal π → Bool
  | .arrived _ | .called | .notified | .released => true
  | _ => false

/-- A read that is in progress takes one of its own steps. -/
def Signal.isInternal {π : Type} : Signal π → Bool
  | .readStarted | .woken | .resumed | .foundNothing => true
  | _ => false

/-- The branch of the selection that reads from the host. -/
def Cause.readsHost : Cause → Bool
  | .hostBatch _ _ | .hostFailed _ => true
  | _ => false

inductive PipelineStep (crates : Crates) (dhcpCrates : DhcpCrates) (readMaxPackets : Nat) :
    Pipeline → PipelineLabel → Pipeline → Prop
  | background
      {p : Pipeline} {signal : Signal (Option EthernetFrame)}
      {reader : HostReader (Option EthernetFrame)}
      (independent : signal.isIndependent = true)
      (step : ReaderStep readMaxPackets p.reader signal reader) :
      PipelineStep crates dhcpCrates readMaxPackets p ⟨none, some signal⟩
        { p with reader := reader }
  | reading
      {p : Pipeline} {signal : Signal (Option EthernetFrame)}
      {reader : HostReader (Option EthernetFrame)}
      (selecting : p.serving.phase = .selecting)
      (internal : signal.isInternal = true)
      (step : ReaderStep readMaxPackets p.reader signal reader) :
      PipelineStep crates dhcpCrates readMaxPackets p ⟨none, some signal⟩
        { p with reader := reader }
  | batchRead
      {p : Pipeline} {frames : List (Option EthernetFrame)} {now : Instant}
      {reader : HostReader (Option EthernetFrame)} {serving : Serving}
      (returned : ReaderStep readMaxPackets p.reader (.returned (.ok frames)) reader)
      (taken : ServingStep crates dhcpCrates p.serving ⟨.hostBatch frames now, []⟩ serving) :
      PipelineStep crates dhcpCrates readMaxPackets p
        ⟨some ⟨.hostBatch frames now, []⟩, some (.returned (.ok frames))⟩ ⟨serving, reader⟩
  | readFailed
      {p : Pipeline} {error : ErrorChain}
      {reader : HostReader (Option EthernetFrame)} {serving : Serving}
      (returned : ReaderStep readMaxPackets p.reader (.returned (.error error)) reader)
      (taken : ServingStep crates dhcpCrates p.serving ⟨.hostFailed error, []⟩ serving) :
      PipelineStep crates dhcpCrates readMaxPackets p
        ⟨some ⟨.hostFailed error, []⟩, some (.returned (.error error))⟩ ⟨serving, reader⟩
  -- Another branch is ready first, and the read is dropped
  | readDropped
      {p : Pipeline} {turn : Turn}
      {reader : HostReader (Option EthernetFrame)} {serving : Serving}
      (selecting : p.serving.phase = .selecting)
      (other : turn.cause.readsHost = false)
      (dropped : ReaderStep readMaxPackets p.reader .cancelled reader)
      (taken : ServingStep crates dhcpCrates p.serving turn serving) :
      PipelineStep crates dhcpCrates readMaxPackets p ⟨some turn, some .cancelled⟩
        ⟨serving, reader⟩
  -- No read is in progress, before the first poll or outside the selection
  | looping
      {p : Pipeline} {turn : Turn} {serving : Serving}
      (between : p.reader.phase = .between)
      (other : turn.cause.readsHost = false)
      (taken : ServingStep crates dhcpCrates p.serving turn serving) :
      PipelineStep crates dhcpCrates readMaxPackets p ⟨some turn, none⟩
        { p with serving := serving }

/-- What the loop takes from the host; a frame may be too short to be one. -/
def Turn.taken (turn : Turn) : List (Option EthernetFrame) :=
  match turn.cause with
  | .hostFrame frame _ _ _ => [frame]
  | _ => []

namespace PipelineLabel

/-- What arrives at `vmnet`. -/
def arrivals (label : PipelineLabel) : List (Option EthernetFrame) :=
  label.signal.elim [] Signal.arrivals

/-- What the loop takes from the host. -/
def taken (label : PipelineLabel) : List (Option EthernetFrame) :=
  label.turn.elim [] Turn.taken

/-- What the loop writes to the VM for the host. -/
def framesToVm (label : PipelineLabel) : List EthernetFrame :=
  label.turn.elim [] Turn.framesToVm

end PipelineLabel

/-! ## The loop alone -/

section Loop

variable {crates : Crates}
variable {dhcpCrates : DhcpCrates}
variable {s s' : Serving}
variable {turn : Turn}

/-- The frames of the current batch that the loop has not taken yet. -/
def ServingPhase.untaken : ServingPhase → List (Option EthernetFrame)
  | .batching frames => frames
  | _ => []

theorem VmTurn.untaken_eq
    {next : ServingPhase} {frame : Option EthernetFrame} {now : Instant}
    {answers : WriteAnswers} {effects : List Effect}
    (h : VmTurn crates dhcpCrates s next frame now answers s' effects)
    (hnext : next.untaken = []) :
    s'.phase.untaken = [] := by
  cases h with
  | short => exact hnext
  | processed => exact hnext
  | failed => rfl

/-- What is left of a batch after one frame, unless the frame ends the loop. -/
theorem HostTurn.untaken_eq
    {rest : List (Option EthernetFrame)} {frame : Option EthernetFrame} {now : Instant}
    {answer peerAddr : Except IoError Unit} {effects : List Effect}
    (h : HostTurn s (.batching rest) frame now answer peerAddr s' effects) :
    ∃ dropped, rest = dropped ++ s'.phase.untaken ∧
      (s'.phase.hasEnded = false → dropped = []) := by
  cases h with
  | short => exact ⟨[], rfl, fun _ => rfl⟩
  | processed => exact ⟨[], rfl, fun _ => rfl⟩
  | failed => exact ⟨rest, (List.append_nil rest).symm, fun unended => by cases unended⟩

/-- A loop that has ended takes nothing more. -/
theorem ServingStep.unended
    (h : ServingStep crates dhcpCrates s turn s') :
    s.phase.hasEnded = false := by
  cases h with
  | vmRead selecting | vmReadFailed selecting | hostRead selecting | hostReadFailed selecting
  | commandHandled selecting | commandsClosed selecting | ticked selecting =>
      rw [selecting]; rfl
  | burstRead bursting | burstDrained bursting | burstFailed bursting | burstOver bursting =>
      rw [bursting]; rfl
  | hostFrame batching | batchOver batching => rw [batching]; rfl

/-- The loop takes the frames of a batch one after the other. -/
theorem ServingStep.untaken_eq
    (h : ServingStep crates dhcpCrates s turn s')
    (other : turn.cause.readsHost = false) :
    ∃ dropped, s.phase.untaken = turn.taken ++ (dropped ++ s'.phase.untaken) ∧
      (s'.phase.hasEnded = false → dropped = []) := by
  cases h with
  | vmRead selecting =>
      refine ⟨[], ?_, fun _ => rfl⟩
      rw [selecting, (s.afterVmFrame_turn _ _ _ _ _ _).untaken_eq rfl]
      rfl
  | burstRead bursting =>
      refine ⟨[], ?_, fun _ => rfl⟩
      rw [bursting, (s.afterVmFrame_turn _ _ _ _ _ _).untaken_eq rfl]
      rfl
  | hostFrame batching =>
      obtain ⟨dropped, hrest, hnone⟩ := (s.afterHostFrame_turn _ _ _ _ _).untaken_eq
      refine ⟨dropped, ?_, hnone⟩
      rw [batching, ← hrest]
      rfl
  | ticked selecting =>
      refine ⟨[], ?_, fun _ => rfl⟩
      rw [selecting]
      unfold ServingPhase.afterTick
      split <;> rfl
  | hostRead | hostReadFailed => cases other
  | vmReadFailed selecting | commandHandled selecting | commandsClosed selecting =>
      exact ⟨[], by simp [selecting, Serving.afterCommand, Turn.taken, ServingPhase.untaken],
        fun _ => rfl⟩
  | burstDrained bursting | burstFailed bursting | burstOver bursting =>
      exact ⟨[], by simp [bursting, Turn.taken, ServingPhase.untaken], fun _ => rfl⟩
  | batchOver batching =>
      exact ⟨[], by simp [batching, Turn.taken, ServingPhase.untaken], fun _ => rfl⟩

/-- The loop reads a batch when it has taken all frames of the one before. -/
theorem ServingStep.untaken_of_hostBatch
    {frames : List (Option EthernetFrame)} {now : Instant} {effects : List Effect}
    (h : ServingStep crates dhcpCrates s ⟨.hostBatch frames now, effects⟩ s') :
    s.phase.untaken = [] ∧ s'.phase.untaken = frames := by
  cases h with
  | hostRead selecting => exact ⟨by rw [selecting]; rfl, rfl⟩

theorem ServingStep.untaken_of_hostFailed
    {error : ErrorChain} {effects : List Effect}
    (h : ServingStep crates dhcpCrates s ⟨.hostFailed error, effects⟩ s') :
    s.phase.untaken = [] ∧ s'.phase.untaken = [] := by
  cases h with
  | hostReadFailed selecting => exact ⟨by rw [selecting]; rfl, rfl⟩

theorem Turn.hostFrames_eq (turn : Turn) : turn.hostFrames = turn.taken.filterMap id := by
  obtain ⟨cause, effects⟩ := turn
  cases cause with
  | hostFrame frame => cases frame <;> rfl
  | _ => rfl

end Loop

/-! ## The loop and the host -/

section Delivery

variable {crates : Crates}
variable {dhcpCrates : DhcpCrates}
variable {readMaxPackets : Nat}
variable {start p p' : Pipeline}
variable {label : PipelineLabel}
variable {history : List (Step Pipeline PipelineLabel)}

/-- What is on its way from the host to the loop. -/
def Pipeline.underway (p : Pipeline) : List (Option EthernetFrame) :=
  p.serving.phase.untaken ++ p.reader.pending

theorem Signal.deliveries_eq_nil
    {signal : Signal (Option EthernetFrame)}
    (h : signal.isIndependent = true ∨ signal.isInternal = true) :
    signal.deliveries = [] := by
  cases signal with
  | returned => simp [Signal.isIndependent, Signal.isInternal] at h
  | _ => rfl

/-- Steps of the host alone. -/
theorem ReaderStep.underway_eq
    {signal : Signal (Option EthernetFrame)} {reader : HostReader (Option EthernetFrame)}
    (h : ReaderStep readMaxPackets p.reader signal reader)
    (quiet : signal.isIndependent = true ∨ signal.isInternal = true) :
    p.underway ++ signal.arrivals = p.serving.phase.untaken ++ reader.pending := by
  have hpending := h.pending_append
  rw [Signal.deliveries_eq_nil quiet, List.nil_append] at hpending
  rw [Pipeline.underway, List.append_assoc, hpending]

/-- Steps of the loop alone. -/
theorem ServingStep.underway_eq
    {turn : Turn} {serving : Serving} {reader : HostReader (Option EthernetFrame)}
    (h : ServingStep crates dhcpCrates p.serving turn serving)
    (other : turn.cause.readsHost = false)
    (pending : p.reader.pending = reader.pending) :
    ∃ dropped, p.underway = turn.taken ++ (dropped ++ Pipeline.underway ⟨serving, reader⟩) ∧
      (serving.phase.hasEnded = false → dropped = []) := by
  obtain ⟨dropped, huntaken, hnone⟩ := h.untaken_eq other
  refine ⟨dropped, ?_, hnone⟩
  simp only [Pipeline.underway, huntaken, pending, List.append_assoc]

/-- Only a step that ends the loop drops what was underway. -/
theorem PipelineStep.underway_eq
    (h : PipelineStep crates dhcpCrates readMaxPackets p label p') :
    ∃ dropped, p.underway ++ label.arrivals = label.taken ++ (dropped ++ p'.underway) ∧
      (p'.serving.phase.hasEnded = false → dropped = []) ∧
      (p.serving.phase.hasEnded = true →
        label.taken = [] ∧ dropped = [] ∧ p'.serving.phase.hasEnded = true) := by
  cases h with
  | background independent step =>
      exact ⟨[], step.underway_eq (.inl independent), fun _ => rfl, fun ended => ⟨rfl, rfl, ended⟩⟩
  | reading selecting internal step =>
      exact ⟨[], step.underway_eq (.inr internal), fun _ => rfl, fun ended => ⟨rfl, rfl, ended⟩⟩
  | batchRead returned taken =>
      obtain ⟨hbefore, hafter⟩ := taken.untaken_of_hostBatch
      refine ⟨[], ?_, fun _ => rfl, fun ended => by simp [taken.unended] at ended⟩
      have hpending := returned.pending_append
      simpa [Pipeline.underway, PipelineLabel.arrivals, PipelineLabel.taken, Turn.taken, hbefore,
        hafter, Signal.deliveries] using hpending
  | readFailed returned taken =>
      obtain ⟨hbefore, hafter⟩ := taken.untaken_of_hostFailed
      refine ⟨[], ?_, fun _ => rfl, fun ended => by simp [taken.unended] at ended⟩
      have hpending := returned.pending_append
      simpa [Pipeline.underway, PipelineLabel.arrivals, PipelineLabel.taken, Turn.taken, hbefore,
        hafter, Signal.deliveries] using hpending
  | readDropped selecting other dropped taken =>
      have hpending := dropped.pending_append
      simp only [Signal.arrivals, Signal.deliveries, List.append_nil, List.nil_append] at hpending
      obtain ⟨lost, hunderway, hnone⟩ := taken.underway_eq other hpending
      refine ⟨lost, ?_, hnone, fun ended => by simp [taken.unended] at ended⟩
      exact (List.append_nil _).trans hunderway
  | looping between other taken =>
      obtain ⟨lost, hunderway, hnone⟩ := taken.underway_eq other rfl
      refine ⟨lost, ?_, hnone, fun ended => by simp [taken.unended] at ended⟩
      exact (List.append_nil _).trans hunderway

/-- What arrived was taken, in order, or is underway, or was dropped when the loop ended. -/
theorem Pipeline.conserves
    (run : Run (PipelineStep crates dhcpCrates readMaxPackets) start history p) :
    ∃ dropped, start.underway ++ produced PipelineLabel.arrivals history =
        produced PipelineLabel.taken history ++ (dropped ++ p.underway) ∧
      (p.serving.phase.hasEnded = false → dropped = []) := by
  induction run with
  | nil => exact ⟨[], by simp, fun _ => rfl⟩
  | @snoc history p p' label run step ih =>
      obtain ⟨lost, hbefore, hnone⟩ := ih
      obtain ⟨dropped, hunderway, hnone', hended⟩ := step.underway_eq
      simp only [produced_append, produced_singleton]
      rw [← List.append_assoc, hbefore, List.append_assoc, List.append_assoc, hunderway]
      cases hphase : p.serving.phase.hasEnded with
      | false =>
          refine ⟨dropped, ?_, hnone'⟩
          simp [hnone hphase]
      | true =>
          obtain ⟨htaken, hdropped, hstill⟩ := hended hphase
          refine ⟨lost, ?_, fun unended => by simp [hstill] at unended⟩
          simp [htaken, hdropped]

/-- The turn of the loop in a joint step is a step of the loop. -/
theorem PipelineStep.turn
    {turn : Turn}
    (h : PipelineStep crates dhcpCrates readMaxPackets p label p')
    (hturn : label.turn = some turn) :
    ServingStep crates dhcpCrates p.serving turn p'.serving := by
  cases h with
  | background | reading => cases hturn
  | batchRead returned taken => cases hturn; exact taken
  | readFailed returned taken => cases hturn; exact taken
  | readDropped selecting other dropped taken => cases hturn; exact taken
  | looping between other taken => cases hturn; exact taken

theorem PipelineStep.framesToVm_sublist
    (h : PipelineStep crates dhcpCrates readMaxPackets p label p') :
    label.framesToVm.Sublist (label.taken.filterMap id) := by
  unfold PipelineLabel.framesToVm PipelineLabel.taken
  cases hturn : label.turn with
  | none => exact List.Sublist.refl _
  | some turn =>
      have hframes := (h.turn hturn).frames_sublist.2
      rwa [Turn.hostFrames_eq] at hframes

/--
From the host to the VM.  However the loop's branches, the reads that they drop, the callback
and `vmnet` take turns: while the loop runs, what arrived at `vmnet` is what the loop took, then
the rest of its batch, then what `vmnet` holds, in order, with nothing lost and nothing twice.
What the loop wrote to the VM for the host is part of what arrived, in the same order, also
after the loop has ended.
-/
theorem host_frames_reach_the_loop
    (crates : Crates)
    (dhcpCrates : DhcpCrates)
    (readMaxPackets : Nat)
    (endpoint : Endpoint)
    (clock : Instant)
    (history : List (Step Pipeline PipelineLabel))
    (p : Pipeline)
    (run : Run (PipelineStep crates dhcpCrates readMaxPackets)
      ⟨⟨endpoint, clock, .selecting⟩, .new⟩ history p) :
    (p.serving.phase.hasEnded = false →
      produced PipelineLabel.arrivals history =
        produced PipelineLabel.taken history ++ p.serving.phase.untaken ++ p.reader.pending) ∧
    (produced PipelineLabel.framesToVm history).Sublist
      ((produced PipelineLabel.arrivals history).filterMap id) := by
  obtain ⟨dropped, hconserved, hnone⟩ := Pipeline.conserves run
  have harrivals : produced PipelineLabel.arrivals history =
      produced PipelineLabel.taken history ++ (dropped ++ p.underway) := hconserved
  constructor
  · intro unended
    rw [harrivals, hnone unended, List.nil_append, Pipeline.underway, List.append_assoc]
  · rw [harrivals, List.filterMap_append]
    refine List.Sublist.trans ?_ (List.sublist_append_left _ _)
    rw [filterMap_produced]
    exact produced_sublist fun t ht => (run.step_of_mem ht).framesToVm_sublist

/-- A frame for the VM arrives, and the read that it wakes hands it to the loop. -/
theorem host_frames_reach_the_loop_read :
    ∃ history p,
      Run (PipelineStep plainCrates discoveringCrates 1)
        ⟨askingVm.enterLoop, .new⟩ history p ∧
      produced PipelineLabel.arrivals history =
        produced PipelineLabel.taken history ++ [some (frameForVm hostDatagram)] := by
  let reader : HostReader (Option EthernetFrame) := .new
  let frames := [some (frameForVm hostDatagram)]
  have run : Run (PipelineStep plainCrates discoveringCrates 1) ⟨askingVm.enterLoop, .new⟩ _
      ⟨{ askingVm.enterLoop with clock := 6, phase := .batching frames },
        { reader with draining := true, callback := .parked }⟩ :=
    (((((Run.nil.snoc (.background rfl (.arrived frames))).snoc
      (.reading rfl rfl (.readStarted rfl))).snoc
      (.background rfl (.called rfl rfl))).snoc
      (.background rfl (.notified rfl))).snoc
      (.reading rfl rfl (.woken rfl rfl rfl))).snoc
      (.batchRead (.batchRead rfl Nat.one_pos le_rfl le_rfl)
        (.hostRead rfl (Nat.zero_le _)))
  have hconserved :=
    (host_frames_reach_the_loop plainCrates discoveringCrates 1 _ 0 _ _ run).1 rfl
  exact ⟨_, _, run, hconserved⟩

end Delivery

end Softnet
