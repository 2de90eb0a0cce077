import Mathlib.Tactic.Common

/-!
# One-shot channels

A channel through which one value may pass once.  Its two ends are held by
different parties, and either end may be dropped.  The state says what the two
ends still can do, so a value that was sent twice, or that waits for a receiver
that is gone, cannot be written down.
-/

universe u

/-- What has happened to the two ends of a one-shot channel. -/
inductive Oneshot (α : Type u) where
  /-- Nothing was sent and both ends are held. -/
  | waiting
  /-- The value waits for the receiver. -/
  | sent (value : α)
  /-- The sender was dropped without sending. -/
  | abandoned
  /-- The receiver is gone: it was dropped, or it has received. -/
  | closed
deriving DecidableEq

namespace Oneshot

variable {α : Type u}

/-- Sending gives the value back when nobody can receive it any more. -/
def send (value : α) : Oneshot α → Except α (Oneshot α)
  | .waiting => .ok (.sent value)
  | .sent _ | .abandoned | .closed => .error value

/-- The channel after a send whose result is ignored. -/
def afterSend (value : α) (channel : Oneshot α) : Oneshot α :=
  match channel.send value with
  | .ok channel => channel
  | .error _ => channel

def dropSender : Oneshot α → Oneshot α
  | .waiting => .abandoned
  | .sent value => .sent value
  | .abandoned => .abandoned
  | .closed => .closed

/-- What the receiver finds; `none` while it has to wait. -/
def receive : Oneshot α → Option (Option α)
  | .waiting => none
  | .sent value => some (some value)
  | .abandoned => some none
  | .closed => none

theorem eq_sent_of_send
    {channel after : Oneshot α} {value : α}
    (h : channel.send value = .ok after) :
    after = .sent value := by
  cases channel <;> simp_all [send]

/-- What is refused is given back. -/
theorem eq_of_send
    {channel : Oneshot α} {value refused : α}
    (h : channel.send value = .error refused) :
    value = refused := by
  cases channel <;> simp_all [send]

/-- Only what was sent is received. -/
theorem eq_sent_of_receive
    {channel : Oneshot α} {value : α}
    (h : channel.receive = some (some value)) :
    channel = .sent value := by
  cases channel <;> simp_all [receive]

/-- Dropping the sender sends nothing. -/
theorem dropSender_eq_sent_iff
    {channel : Oneshot α} {value : α} :
    channel.dropSender = .sent value ↔ channel = .sent value := by
  cases channel <;> simp [dropSender]

/-- Nobody waits for a sender that was dropped. -/
theorem dropSender_ne_waiting (channel : Oneshot α) : channel.dropSender ≠ .waiting := by
  cases channel <;> simp [dropSender]

theorem dropSender_eq_closed_iff
    {channel : Oneshot α} :
    channel.dropSender = .closed ↔ channel = .closed := by
  cases channel <;> simp [dropSender]

/-- After a send nobody waits any more. -/
theorem afterSend_ne_waiting
    (channel : Oneshot α)
    (value : α) :
    channel.afterSend value ≠ .waiting := by
  cases channel <;> simp [afterSend, send]

theorem afterSend_eq_closed_iff
    {channel : Oneshot α} {value : α} :
    channel.afterSend value = .closed ↔ channel = .closed := by
  cases channel <;> simp [afterSend, send]

/-- A channel that is neither waiting nor closed has something for its receiver. -/
theorem exists_receive
    {channel : Oneshot α}
    (hwaiting : channel ≠ .waiting)
    (hclosed : channel ≠ .closed) :
    ∃ found, channel.receive = some found := by
  cases channel with
  | waiting =>
      exact absurd rfl hwaiting
  | closed =>
      exact absurd rfl hclosed
  | sent value =>
      exact ⟨some value, rfl⟩
  | abandoned =>
      exact ⟨none, rfl⟩

end Oneshot
