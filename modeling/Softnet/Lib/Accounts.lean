import Softnet.Lib.Runs

/-!
# Accounts of a run

Ways to add up what the steps of a run did.

* `Run.conserves`: a queue that every step extends at one end and consumes at the
  other holds what was put in and has not come out, in order.
* `produced_sublist` and `Run.tallies`: what holds of one step after the other holds of all.
* `Run.countP_add_rank_le`: steps that lower a rank which no step raises are taken
  at most as often as the rank at the start says.
* `total_lt_total`: a rank that is added up from many parties is lowered by each of them.
-/

namespace Transition

universe u v w

section Accounts

variable {σ : Type u}
variable {α : Type v}
variable {β : Type w}
variable {step : σ → α → σ → Prop}
variable {start s : σ}
variable {history : List (Step σ α)}

/-- What the steps produced, oldest first. -/
def produced (out : α → List β) (history : List (Step σ α)) : List β :=
  history.flatMap fun t => out t.label

@[simp] theorem produced_nil (out : α → List β) : produced out ([] : List (Step σ α)) = [] :=
  rfl

@[simp] theorem produced_append
    (out : α → List β)
    (before after : List (Step σ α)) :
    produced out (before ++ after) = produced out before ++ produced out after :=
  List.flatMap_append

@[simp] theorem produced_singleton
    (out : α → List β)
    (t : Step σ α) :
    produced out [t] = out t.label :=
  List.flatMap_singleton _ _

@[simp] theorem produced_cons
    (out : α → List β)
    (t : Step σ α)
    (history : List (Step σ α)) :
    produced out (t :: history) = out t.label ++ produced out history :=
  rfl

theorem filterMap_produced
    {γ : Type w}
    (f : β → Option γ)
    (out : α → List β)
    (history : List (Step σ α)) :
    (produced out history).filterMap f = produced (fun a => (out a).filterMap f) history :=
  List.filterMap_flatMap

/-- Steps that each produce part of what they take produce part of what was taken, in order. -/
theorem produced_sublist
    {out input : α → List β}
    (h : ∀ t ∈ history, (out t.label).Sublist (input t.label)) :
    (produced out history).Sublist (produced input history) := by
  induction history with
  | nil =>
      exact List.Sublist.refl _
  | cons t rest ih =>
      exact (h t List.mem_cons_self).append (ih fun u hu => h u (List.mem_cons_of_mem _ hu))

/-- What every step adds to a tally is what the whole run adds. -/
theorem Run.tallies
    {out : α → List β}
    (run : Run step start history s)
    (tally : σ → Nat)
    (hstep : ∀ s a s', step s a s' → (out a).length + tally s = tally s') :
    (produced out history).length + tally start = tally s := by
  induction run with
  | nil =>
      simp
  | @snoc history s s' a run taken ih =>
      have hlast := hstep s a s' taken
      rw [produced_append, produced_singleton, List.length_append]
      dsimp only
      omega

/-- What went into a queue came out of it or is still in it, in the same order. -/
theorem Run.conserves
    {input output : α → List β}
    (run : Run step start history s)
    (queue : σ → List β)
    (hstep : ∀ s a s', step s a s' → queue s ++ input a = output a ++ queue s') :
    queue start ++ produced input history = produced output history ++ queue s := by
  induction run with
  | nil =>
      simp
  | @snoc history s s' a run taken ih =>
      calc
        queue start ++ produced input (history ++ [⟨s, a, s'⟩])
            = (queue start ++ produced input history) ++ input a := by simp
        _ = produced output history ++ (queue s ++ input a) := by
              rw [ih, List.append_assoc]
        _ = produced output (history ++ [⟨s, a, s'⟩]) ++ queue s' := by
              rw [hstep s a s' taken]
              simp

/-- A rank that no step raises bounds how often the steps that lower it are taken. -/
theorem Run.countP_add_rank_le
    {I : σ → Prop} {lowers : Step σ α → Bool}
    (run : Run step start history s)
    (rank : σ → Nat)
    (hstart : I start)
    (hstep : ∀ t ∈ history, step t.pre t.label t.post → I t.pre →
      I t.post ∧ rank t.post + (lowers t).toNat ≤ rank t.pre) :
    I s ∧ history.countP lowers + rank s ≤ rank start := by
  induction run with
  | nil =>
      exact ⟨hstart, by simp⟩
  | @snoc history s s' a run taken ih =>
      obtain ⟨hbefore, hcount⟩ := ih fun t ht => hstep t (List.mem_append_left _ ht)
      obtain ⟨hafter, hrank⟩ :=
        hstep ⟨s, a, s'⟩ (List.mem_append_right _ (List.mem_singleton_self _)) taken hbefore
      refine ⟨hafter, ?_⟩
      rw [List.countP_append, List.countP_singleton]
      cases hlowers : lowers ⟨s, a, s'⟩ with
      | false =>
          simp only [hlowers, Bool.toNat_false] at hrank
          simp
          omega
      | true =>
          simp only [hlowers, Bool.toNat_true] at hrank
          simp
          omega

end Accounts

section Totals

variable {α : Type u}
variable {f g : α → Nat}
variable {xs : List α}

/-- What `f` gives for the elements of a list, added up. -/
def total (f : α → Nat) : List α → Nat
  | [] => 0
  | x :: xs => f x + total f xs

theorem total_le_total
    (xs : List α)
    (h : ∀ x, g x ≤ f x) :
    total g xs ≤ total f xs := by
  induction xs with
  | nil =>
      exact Nat.le_refl 0
  | cons x xs ih =>
      exact Nat.add_le_add (h x) ih

/-- If no part grows and one of them shrinks, the whole shrinks. -/
theorem total_lt_total
    {x : α}
    (h : ∀ x, g x ≤ f x)
    (hx : x ∈ xs)
    (hlt : g x < f x) :
    total g xs < total f xs := by
  induction xs with
  | nil =>
      cases hx
  | cons y xs ih =>
      rcases List.mem_cons.mp hx with rfl | hrest
      · exact Nat.add_lt_add_of_lt_of_le hlt (total_le_total xs h)
      · exact Nat.add_lt_add_of_le_of_lt (h y) (ih hrest)

end Totals

end Transition
