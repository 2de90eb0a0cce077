import Mathlib.Tactic.Common

/-!
# Wake-ups and bounded channels

What two parties that run on their own use to wait for each other: a permit that
is stored until somebody takes it, and a channel that holds a bounded number of
values and whose sender may be dropped.
-/

universe u

/-- A stored wake-up; a second one adds nothing to the first. -/
structure Notify where
  permit : Bool
deriving DecidableEq, Repr

namespace Notify

def new : Notify :=
  ⟨false⟩

def notifyOne (_ : Notify) : Notify :=
  ⟨true⟩

/-- Taking the permit; `none` while there is none. -/
def notified : Notify → Option Notify
  | ⟨true⟩ => some ⟨false⟩
  | ⟨false⟩ => none

theorem notified_eq_some_iff
    {notify after : Notify} :
    notify.notified = some after ↔ notify.permit = true ∧ after = ⟨false⟩ := by
  obtain ⟨_ | _⟩ := notify <;> simp [notified, eq_comm]

end Notify

/-- A channel whose buffer never outgrows its capacity. -/
structure BoundedChannel (α : Type u) (capacity : Nat) where
  buffer : List α
  /-- The sender is still held. -/
  connected : Bool
  bound : buffer.length ≤ capacity

namespace BoundedChannel

variable {α : Type u}
variable {capacity : Nat}

def new (α : Type u) (capacity : Nat) : BoundedChannel α capacity :=
  ⟨[], true, Nat.zero_le _⟩

/-- Sending without waiting gives the value back when the buffer is full. -/
def trySend (value : α) (channel : BoundedChannel α capacity) :
    Except α (BoundedChannel α capacity) :=
  if h : channel.buffer.length < capacity then
    .ok ⟨channel.buffer ++ [value], channel.connected, by rwa [List.length_append]⟩
  else
    .error value

/-- The channel after a send whose result is ignored. -/
def afterTrySend (value : α) (channel : BoundedChannel α capacity) : BoundedChannel α capacity :=
  match channel.trySend value with
  | .ok channel => channel
  | .error _ => channel

def dropSender (channel : BoundedChannel α capacity) : BoundedChannel α capacity :=
  { channel with connected := false }

/-- What the receiver finds; `none` while it has to wait, and no value once nobody can send. -/
def receive (channel : BoundedChannel α capacity) :
    Option (Option α × BoundedChannel α capacity) :=
  match h : channel.buffer with
  | value :: rest =>
      some (some value, ⟨rest, channel.connected, by
        have hbound := channel.bound
        rw [h, List.length_cons] at hbound
        exact Nat.le_of_succ_le hbound⟩)
  | [] => if channel.connected then none else some (none, channel)

section Sending

variable {channel after : BoundedChannel α capacity}
variable {value : α}

theorem trySend_of_lt
    (value : α)
    (h : channel.buffer.length < capacity) :
    ∃ after, channel.trySend value = .ok after ∧
      after.buffer = channel.buffer ++ [value] ∧ after.connected = channel.connected :=
  ⟨_, dif_pos h, rfl, rfl⟩

theorem afterTrySend_of_lt
    (h : channel.buffer.length < capacity) :
    (channel.afterTrySend value).buffer = channel.buffer ++ [value] := by
  simp [afterTrySend, trySend, h]

@[simp] theorem connected_afterTrySend :
    (channel.afterTrySend value).connected = channel.connected := by
  unfold afterTrySend trySend
  split
  · next h =>
      split at h
      · cases h
        rfl
      · cases h
  · rfl

end Sending

section Receiving

variable {channel after : BoundedChannel α capacity}
variable {answer : Option α}

/-- While the sender is held, receiving takes the oldest value. -/
theorem buffer_of_receive
    (connected : channel.connected = true)
    (h : channel.receive = some (answer, after)) :
    ∃ value, answer = some value ∧ channel.buffer = value :: after.buffer ∧
      after.connected = true := by
  unfold receive at h
  split at h
  · next value rest hbuffer =>
      cases h
      exact ⟨value, rfl, hbuffer, connected⟩
  · simp [connected] at h

@[simp] theorem connected_of_receive
    (h : channel.receive = some (answer, after)) :
    after.connected = channel.connected := by
  unfold receive at h
  split at h
  · cases h
    rfl
  · split at h
    · cases h
    · cases h
      rfl

/-- A receiver waits only for a sender that is held and has sent nothing. -/
theorem exists_receive
    (h : channel.connected = false ∨ channel.buffer ≠ []) :
    ∃ answer after, channel.receive = some (answer, after) := by
  unfold receive
  split
  · exact ⟨_, _, rfl⟩
  · next hbuffer =>
      have hdropped : channel.connected = false := h.resolve_right (· hbuffer)
      exact ⟨none, channel, by simp [hdropped]⟩

end Receiving

end BoundedChannel
