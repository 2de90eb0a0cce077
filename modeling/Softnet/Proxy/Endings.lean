import Softnet.Proxy.Serving

/-!
# How long a proxy serves

What ends the loop of `lib/proxy/mod.rs` and what does not, how long a burst of the VM can keep
the loop from everything else, and how often full buffers are reported.
-/

namespace Softnet

open Transition

section Endings

variable {crates : Crates}
variable {dhcpCrates : DhcpCrates}
variable {s s' : Serving}
variable {turn : Turn}

/--
Nothing but frames and commands, whatever they are, a VM that is there, and a host that takes
what it is given.  The buffers of the VM may be full, and replies of the local servers may fail.
-/
def Cause.Harmless : Cause → Prop
  | .vmFrame _ _ answers => answers.host = .ok ()
  | .hostFrame _ _ answer _ => answer = .ok () ∨ Endpoint.OutOfBuffers answer
  | .ticked peerAddr => VM.isConnected peerAddr = .ok true
  | .vmFailed _ _ | .hostFailed _ | .commandsClosed => False
  | .vmDrained | .burstOver | .hostBatch _ _ | .batchOver | .command _ _ _ => True

def ServingPhase.hasEnded : ServingPhase → Bool
  | .ended _ => true
  | _ => false

theorem VmTurn.phase_eq
    {next : ServingPhase} {frame : Option EthernetFrame} {now : Instant}
    {answers : WriteAnswers} {effects : List Effect}
    (h : VmTurn crates dhcpCrates s next frame now answers s' effects)
    (written : answers.host = .ok ()) :
    s'.phase = next := by
  cases h with
  | short => rfl
  | processed => rfl
  | failed outcome => cases outcome.eq_ok written

theorem HostTurn.phase_eq
    {next : ServingPhase} {frame : Option EthernetFrame} {now : Instant}
    {answer peerAddr : Except IoError Unit} {effects : List Effect}
    (h : HostTurn s next frame now answer peerAddr s' effects)
    (written : answer = .ok () ∨ Endpoint.OutOfBuffers answer) :
    s'.phase = next := by
  cases h with
  | short => rfl
  | processed => rfl
  | failed outcome => cases outcome.eq_ok written

theorem ServingStep.goes_on
    (h : ServingStep crates dhcpCrates s turn s')
    (harmless : turn.cause.Harmless) :
    s'.phase.hasEnded = false := by
  cases h with
  | vmRead => rw [(s.afterVmFrame_turn _ _ _ _ _ _).phase_eq harmless]; rfl
  | burstRead => rw [(s.afterVmFrame_turn _ _ _ _ _ _).phase_eq harmless]; rfl
  | hostFrame => rw [(s.afterHostFrame_turn _ _ _ _ _).phase_eq harmless]; rfl
  | commandHandled selecting => simp [Serving.afterCommand, selecting, ServingPhase.hasEnded]
  | ticked =>
      have hconnected : VM.isConnected _ = .ok true := harmless
      simp [ServingPhase.afterTick, hconnected, ServingPhase.hasEnded]
  | vmReadFailed | burstFailed | hostReadFailed | commandsClosed => exact harmless.elim
  | burstDrained | burstOver | hostRead | batchOver => rfl

/-- A loop that has not ended can go on. -/
theorem Serving.exists_step
    (crates : Crates)
    (dhcpCrates : DhcpCrates)
    (h : s.phase.hasEnded = false) :
    ∃ turn s', ServingStep crates dhcpCrates s turn s' := by
  cases hphase : s.phase with
  | selecting => exact ⟨⟨.hostBatch [] s.clock, []⟩, _, .hostRead hphase le_rfl⟩
  | bursting remaining =>
      cases remaining with
      | zero => exact ⟨_, _, .burstOver hphase⟩
      | succ remaining =>
          exact ⟨_, _, .burstDrained hphase ⟨.wouldBlock, none, ""⟩ rfl⟩
  | batching frames =>
      cases frames with
      | nil => exact ⟨_, _, .batchOver hphase⟩
      | cons frame rest =>
          exact ⟨⟨.hostFrame frame s.clock (.ok ()) (.ok ()), _⟩, _, .hostFrame hphase le_rfl⟩
  | ended result => simp [hphase, ServingPhase.hasEnded] at h

/--
No packet ends the loop.  Whatever frames the VM and the host send, whatever commands come,
whether or not the VM's buffers are full and whether or not its DHCP and DNS requests can be
answered: as long as the sockets work and the VM is there, the loop has not ended and goes on.
-/
theorem packets_never_end_the_loop
    (crates : Crates)
    (dhcpCrates : DhcpCrates)
    (start s : Serving)
    (history : List (Step Serving Turn))
    (run : Run (ServingStep crates dhcpCrates) start history s)
    (started : start.phase.hasEnded = false)
    (harmless : ∀ t ∈ history, t.label.cause.Harmless) :
    s.phase.hasEnded = false ∧ ∃ turn s', ServingStep crates dhcpCrates s turn s' := by
  have hserving : s.phase.hasEnded = false :=
    run.carry (I := fun s => s.phase.hasEnded = false) started
      fun t ht hstep _ => hstep.goes_on (harmless t ht)
  exact ⟨hserving, Serving.exists_step crates dhcpCrates hserving⟩

/-- After the small exchange the loop goes on, also if the VM's buffers were full. -/
theorem packets_never_end_the_loop_exchange :
    (replyTaken (.error ⟨.other, some enobufs, ""⟩)).post.phase.hasEnded = false := by
  refine (packets_never_end_the_loop plainCrates discoveringCrates _ _ _
    (exchange_run (.error ⟨.other, some enobufs, ""⟩)).2 rfl ?_).1
  intro t ht
  simp only [exchange, replyRead, List.cons_append, List.nil_append, List.mem_cons,
    List.not_mem_nil, or_false] at ht
  rcases ht with rfl | rfl | rfl | rfl
  · exact rfl
  · exact trivial
  · exact trivial
  · exact .inr ⟨_, rfl, rfl⟩

/-- What `peer_addr` said when the loop asked whether the VM is still there. -/
def Cause.peerAddr? : Cause → Option (Except IoError Unit)
  | .vmFailed _ peerAddr | .hostFrame _ _ _ peerAddr | .ticked peerAddr => some peerAddr
  | _ => none

theorem isConnected_of_vmFailure
    {error : IoError} {peerAddr : Except IoError Unit}
    (h : vmFailure error peerAddr = .ok ()) :
    VM.isConnected peerAddr = .ok false := by
  unfold vmFailure at h
  split at h
  · cases h
  · next hdisconnect => exact VM.isDisconnect_eq_true hdisconnect
  · cases h

theorem isConnected_of_hostFrameFailure
    {error : ProxyError} {peerAddr : Except IoError Unit}
    (h : hostFrameFailure error peerAddr = .ok ()) :
    VM.isConnected peerAddr = .ok false := by
  unfold hostFrameFailure at h
  split at h
  · cases h
  · split at h
    · cases h
    · next hdisconnect => exact VM.isDisconnect_eq_true hdisconnect
    · cases h

theorem VmTurn.ended_error
    {next : ServingPhase} {frame : Option EthernetFrame} {now : Instant}
    {answers : WriteAnswers} {effects : List Effect}
    (h : VmTurn crates dhcpCrates s next frame now answers s' effects)
    (unended : next.hasEnded = false) :
    s'.phase ≠ .ended (.ok ()) := by
  intro hended
  cases h with
  | short => simp_all [ServingPhase.hasEnded]
  | processed => simp_all [ServingPhase.hasEnded]
  | failed => cases hended

theorem HostTurn.isConnected_of_ended
    {next : ServingPhase} {frame : Option EthernetFrame} {now : Instant}
    {answer peerAddr : Except IoError Unit} {effects : List Effect}
    (h : HostTurn s next frame now answer peerAddr s' effects)
    (unended : next.hasEnded = false)
    (hended : s'.phase = .ended (.ok ())) :
    VM.isConnected peerAddr = .ok false := by
  cases h with
  | short => simp_all [ServingPhase.hasEnded]
  | processed => simp_all [ServingPhase.hasEnded]
  | failed outcome => exact isConnected_of_hostFrameFailure (ServingPhase.ended.inj hended)

/--
A normal end has a reason.  When the loop returns without an error, the manager has closed the
channel of its commands, or the loop has just asked for the VM's peer and there was none.
-/
theorem normal_end_has_a_reason
    (crates : Crates)
    (dhcpCrates : DhcpCrates)
    (start s : Serving)
    (history : List (Step Serving Turn))
    (run : Run (ServingStep crates dhcpCrates) start history s)
    (t : Step Serving Turn)
    (ht : t ∈ history)
    (ended : t.post.phase = .ended (.ok ())) :
    t.label.cause = .commandsClosed ∨
      ∃ peerAddr, t.label.cause.peerAddr? = some peerAddr ∧
        VM.isConnected peerAddr = .ok false := by
  obtain ⟨pre, turn, post⟩ := t
  have hstep := run.step_of_mem ht
  dsimp only at hstep ended ⊢
  cases hstep with
  | vmRead => exact absurd ended ((pre.afterVmFrame_turn _ _ _ _ _ _).ended_error rfl)
  | burstRead => exact absurd ended ((pre.afterVmFrame_turn _ _ _ _ _ _).ended_error rfl)
  | hostFrame =>
      exact .inr ⟨_, rfl, (pre.afterHostFrame_turn _ _ _ _ _).isConnected_of_ended rfl ended⟩
  | vmReadFailed =>
      exact .inr ⟨_, rfl, isConnected_of_vmFailure (ServingPhase.ended.inj ended)⟩
  | burstFailed =>
      exact .inr ⟨_, rfl, isConnected_of_vmFailure (ServingPhase.ended.inj ended)⟩
  | commandsClosed => exact .inl rfl
  | ticked =>
      refine .inr ⟨_, rfl, ?_⟩
      unfold ServingPhase.afterTick at ended
      split at ended
      · cases ended
      · next hgone => exact hgone
      · cases ended
  | commandHandled selecting => simp [Serving.afterCommand, selecting] at ended
  | hostReadFailed => cases ended
  | burstDrained | burstOver | hostRead | batchOver => cases ended

/-- The VM is gone when the timer ticks. -/
theorem normal_end_has_a_reason_ticked :
    VM.isConnected (.error ⟨.notConnected, none, ""⟩) = .ok false := by
  have run : Run (ServingStep plainCrates discoveringCrates) askingVm.enterLoop _
      { askingVm.enterLoop with
        phase := .afterTick (.error ⟨.notConnected, none, ""⟩) } :=
    Run.nil.snoc (.ticked rfl)
  obtain habsurd | ⟨_, hasked, hgone⟩ :=
    normal_end_has_a_reason plainCrates discoveringCrates _ _ _ run _
      (List.mem_singleton_self _) rfl
  · cases habsurd
  · cases hasked
    exact hgone

end Endings

/-! ## Bursts -/

section Bursts

variable {crates : Crates}
variable {dhcpCrates : DhcpCrates}
variable {s s' : Serving}
variable {turn : Turn}

def Cause.isVmFrame : Cause → Bool
  | .vmFrame _ _ _ => true
  | _ => false

/-- How many frames of the VM may still be taken before the loop selects again. -/
def ServingPhase.remaining : ServingPhase → Nat
  | .bursting remaining => remaining
  | _ => 0

theorem VmTurn.remaining_le
    {next : ServingPhase} {frame : Option EthernetFrame} {now : Instant}
    {answers : WriteAnswers} {effects : List Effect}
    (h : VmTurn crates dhcpCrates s next frame now answers s' effects) :
    s'.phase.remaining ≤ next.remaining := by
  cases h with
  | short => exact le_rfl
  | processed => exact le_rfl
  | failed => exact Nat.zero_le _

theorem HostTurn.remaining_le
    {next : ServingPhase} {frame : Option EthernetFrame} {now : Instant}
    {answer peerAddr : Except IoError Unit} {effects : List Effect}
    (h : HostTurn s next frame now answer peerAddr s' effects) :
    s'.phase.remaining ≤ next.remaining := by
  cases h with
  | short => exact le_rfl
  | processed => exact le_rfl
  | failed => exact Nat.zero_le _

/-- Outside the selection, every frame of the VM uses up one of those that remain. -/
theorem ServingStep.remaining_lt
    (h : ServingStep crates dhcpCrates s turn s')
    (inside : s.phase ≠ .selecting) :
    s'.phase.remaining + turn.cause.isVmFrame.toNat ≤ s.phase.remaining := by
  cases h with
  | burstRead bursting =>
      rw [bursting]
      exact Nat.add_le_add_right (s.afterVmFrame_turn crates dhcpCrates _ _ _ _).remaining_le 1
  | hostFrame batching =>
      exact (s.afterHostFrame_turn _ _ _ _ _).remaining_le.trans (Nat.zero_le _)
  | vmRead selecting | vmReadFailed selecting | hostRead selecting | hostReadFailed selecting
  | commandHandled selecting | commandsClosed selecting | ticked selecting =>
      exact absurd selecting inside
  | burstDrained | burstFailed | burstOver | batchOver => exact Nat.zero_le _

/--
Bursts of the VM are bounded.  Between two selections of the loop, where the host, the commands
and the timer have their chance, at most 128 frames of the VM are taken.
-/
theorem vm_bursts_are_bounded
    (crates : Crates)
    (dhcpCrates : DhcpCrates)
    (first : Step Serving Turn)
    (rest : List (Step Serving Turn))
    (s : Serving)
    (step : ServingStep crates dhcpCrates first.pre first.label first.post)
    (selecting : first.pre.phase = .selecting)
    (run : Run (ServingStep crates dhcpCrates) first.post rest s)
    (inside : ∀ t ∈ rest, t.pre.phase ≠ .selecting) :
    (first :: rest).countP (fun t => t.label.cause.isVmFrame) ≤ 128 := by
  obtain ⟨_, hcount⟩ := run.countP_add_rank_le (I := fun _ => True)
    (fun s => s.phase.remaining) trivial
    fun t ht hstep _ => ⟨trivial, hstep.remaining_lt (inside t ht)⟩
  have hfirst : first.post.phase.remaining ≤ burstRemainder := by
    obtain ⟨pre, turn, post⟩ := first
    dsimp only at step selecting ⊢
    cases step with
    | vmRead => exact (pre.afterVmFrame_turn crates dhcpCrates _ _ _ _).remaining_le
    | ticked =>
        unfold ServingPhase.afterTick
        split <;> exact Nat.zero_le _
    | commandHandled =>
        simp only [Serving.afterCommand, selecting]
        exact Nat.zero_le _
    | burstRead bursting | burstDrained bursting | burstFailed bursting | burstOver bursting =>
        rw [selecting] at bursting
        cases bursting
    | hostFrame batching | batchOver batching =>
        rw [selecting] at batching
        cases batching
    | vmReadFailed | hostRead | hostReadFailed | commandsClosed => exact Nat.zero_le _
  rw [List.countP_cons]
  simp only [burstRemainder] at hfirst
  split <;> omega

/-- The burst of the small exchange, up to the next selection. -/
theorem vm_bursts_are_bounded_exchange :
    (requestTaken :: replyRead.take 1).countP (fun t => t.label.cause.isVmFrame) ≤ 128 := by
  refine vm_bursts_are_bounded plainCrates discoveringCrates requestTaken _ _
    (.vmRead rfl (Nat.zero_le _)) rfl
    (Run.nil.snoc (.burstDrained rfl ⟨.wouldBlock, none, ""⟩ rfl)) ?_
  intro t ht
  cases List.mem_singleton.mp ht
  intro hselecting
  cases hselecting

end Bursts

/-! ## Reports -/

section Reports

variable {crates : Crates}
variable {dhcpCrates : DhcpCrates}
variable {s s' : Serving}
variable {turn : Turn}

/-- The reports of full buffers in a turn. -/
def Turn.fullBufferReports (turn : Turn) : List Effect :=
  turn.effects.filter Endpoint.notesFullBuffers

theorem ServingStep.notes
    (h : ServingStep crates dhcpCrates s turn s') :
    turn.fullBufferReports.length + s.endpoint.enobufsEncountered.toNat =
      s'.endpoint.enobufsEncountered.toNat := by
  rw [Turn.fullBufferReports, ← List.countP_eq_length_filter]
  cases h.outcome with
  | idle _ same => simp [same]
  | command => simp [Serving.afterCommand]
  | vm later taken =>
      obtain ⟨_, ⟨_, hsame, rfl⟩ | ⟨frame, result, _, outcome⟩⟩ := taken.cases
      · simp [hsame]
      · exact outcome.notes
  | host later taken =>
      obtain ⟨_, ⟨_, hsame, rfl⟩ | ⟨frame, result, _, outcome⟩⟩ := taken.cases
      · simp [hsame]
      · exact outcome.notes

/-- However often the buffers of the VM are full, one proxy reports it once. -/
theorem full_buffers_are_reported_once
    (crates : Crates)
    (dhcpCrates : DhcpCrates)
    (start s : Serving)
    (history : List (Step Serving Turn))
    (run : Run (ServingStep crates dhcpCrates) start history s) :
    (produced Turn.fullBufferReports history).length ≤ 1 := by
  have htally := run.tallies (fun s => s.endpoint.enobufsEncountered.toNat)
    fun _ _ _ h => h.notes
  have hflag := s.endpoint.enobufsEncountered.toNat_le
  omega

/-- Full buffers in the small exchange are reported. -/
theorem full_buffers_are_reported_once_exchange :
    (replyTaken (.error ⟨.other, some enobufs, ""⟩)).label.fullBufferReports.length = 1 ∧
      (produced Turn.fullBufferReports
        (exchange (.error ⟨.other, some enobufs, ""⟩))).length ≤ 1 :=
  ⟨rfl, full_buffers_are_reported_once plainCrates discoveringCrates _ _ _
    (exchange_run (.error ⟨.other, some enobufs, ""⟩)).2⟩

end Reports

end Softnet
