import Mathlib.Data.List.Basic
import Mathlib.Tactic.Common

/-!
# Runs of a labelled transition system, with their history

A run keeps every step that was taken, oldest first, so that a property of a
reached state can be traced back to the step that made it true.

Two rules are proved for every system.

* `Run.invariant`: what holds at the start and is kept by every step holds in
  every reached state.
* `Run.exists_rise`: a property that fails at the start and holds now was made
  true by some step of the history and has held ever since.
-/

namespace Transition

universe u v

section Runs

variable {σ : Type u}
variable {α : Type v}

/-- One taken step: the state before it, its label and the state after it. -/
structure Step (σ : Type u) (α : Type v) where
  pre : σ
  label : α
  post : σ

/-- The steps taken from `start`, oldest first, and the state they lead to. -/
inductive Run
    (step : σ → α → σ → Prop)
    (start : σ) :
    List (Step σ α) → σ → Prop
  | nil : Run step start [] start
  | snoc
      {history : List (Step σ α)} {s s' : σ} {a : α}
      (run : Run step start history s)
      (taken : step s a s') :
      Run step start (history ++ [⟨s, a, s'⟩]) s'

variable {step : σ → α → σ → Prop}
variable {start s : σ}
variable {history : List (Step σ α)}

/-- A property kept by every step holds in every reached state. -/
theorem Run.invariant
    {I : σ → Prop}
    (hstart : I start)
    (hstep : ∀ s a s', I s → step s a s' → I s')
    (run : Run step start history s) :
    I s := by
  induction run with
  | nil =>
      exact hstart
  | snoc run taken ih =>
      exact hstep _ _ _ ih taken

/-- A property kept by the steps that were taken is carried through the run. -/
theorem Run.carry
    {I : σ → Prop}
    (hstart : I start)
    (run : Run step start history s)
    (hstep : ∀ t ∈ history, step t.pre t.label t.post → I t.pre → I t.post) :
    I s := by
  induction run with
  | nil =>
      exact hstart
  | snoc run taken ih =>
      have hlast := hstep ⟨_, _, _⟩ (List.mem_append_right _ (List.mem_singleton_self _))
      exact hlast taken (ih fun t ht => hstep t (List.mem_append_left _ ht))

/-- Runs compose. -/
theorem Run.append
    {m : σ}
    {later : List (Step σ α)}
    (first : Run step start history m)
    (second : Run step m later s) :
    Run step start (history ++ later) s := by
  induction second with
  | nil =>
      simpa using first
  | snoc run taken ih =>
      rw [← List.append_assoc]
      exact Run.snoc ih taken

/-- A run can be cut at any step of its history. -/
theorem Run.split
    (run : Run step start history s)
    {before after : List (Step σ α)} {t : Step σ α}
    (hcut : history = before ++ t :: after) :
    Run step start before t.pre ∧
      step t.pre t.label t.post ∧
      Run step t.post after s := by
  induction run generalizing after with
  | nil =>
      simp at hcut
  | @snoc history s s' a run taken ih =>
      rcases List.eq_nil_or_concat after with rfl | ⟨rest, last, rfl⟩
      · obtain ⟨rfl, hlast⟩ := List.append_inj' hcut rfl
        obtain rfl : (⟨s, a, s'⟩ : Step σ α) = t := by
          simpa using hlast
        exact ⟨run, taken, Run.nil⟩
      · have hcut' :
            history ++ [⟨s, a, s'⟩] = (before ++ t :: rest) ++ [last] := by
          simpa using hcut
        obtain ⟨hrest, hlast⟩ := List.append_inj' hcut' rfl
        obtain rfl : (⟨s, a, s'⟩ : Step σ α) = last := by
          simpa using hlast
        obtain ⟨hbefore, hstep, hafter⟩ := ih hrest
        refine ⟨hbefore, hstep, ?_⟩
        simpa using Run.snoc hafter taken

/-- Every step of the history was a step of the system. -/
theorem Run.step_of_mem
    (run : Run step start history s)
    {t : Step σ α}
    (ht : t ∈ history) :
    step t.pre t.label t.post := by
  obtain ⟨before, after, hcut⟩ := List.append_of_mem ht
  exact (run.split hcut).2.1

/-- A step that changes nothing can be left out of the history. -/
theorem Run.erase
    {before after : List (Step σ α)} {t : Step σ α}
    (run : Run step start (before ++ t :: after) s)
    (hsame : t.post = t.pre) :
    Run step start (before ++ after) s := by
  obtain ⟨hbefore, _, hafter⟩ := run.split rfl
  exact hbefore.append (hsame ▸ hafter)

/--
A property that fails at the start and holds now was made true by one step of
the history and has held since.
-/
theorem Run.exists_rise
    {P : σ → Prop}
    (hstart : ¬ P start)
    (run : Run step start history s)
    (hnow : P s) :
    ∃ (before : List (Step σ α)) (t : Step σ α) (after : List (Step σ α)),
      history = before ++ t :: after ∧
      ¬ P t.pre ∧
      P t.post ∧
      ∀ u ∈ after, P u.pre ∧ P u.post := by
  induction run with
  | nil =>
      exact absurd hnow hstart
  | @snoc history s s' a run taken ih =>
      by_cases hpre : P s
      · obtain ⟨before, t, after, rfl, hlow, hhigh, hsince⟩ := ih hpre
        refine ⟨before, t, after ++ [⟨s, a, s'⟩], by simp, hlow, hhigh, ?_⟩
        intro u hu
        rcases List.mem_append.mp hu with hu | hu
        · exact hsince u hu
        · obtain rfl : u = ⟨s, a, s'⟩ := by
            simpa using hu
          exact ⟨hpre, hnow⟩
      · exact ⟨history, ⟨s, a, s'⟩, [], rfl, hpre, hnow, by simp⟩

/-- What a step of the history made true, and no step undoes, still holds. -/
theorem Run.since
    {I : σ → Prop}
    (run : Run step start history s)
    (hstep : ∀ s a s', I s → step s a s' → I s')
    {t : Step σ α}
    (ht : t ∈ history)
    (hthen : I t.post) :
    I s := by
  obtain ⟨before, after, hcut⟩ := List.append_of_mem ht
  exact (run.split hcut).2.2.invariant hthen hstep

/-- A step that puts the system for good where no such step can be taken is taken once. -/
theorem Run.countP_le_one
    {I A : σ → Prop} {p : Step σ α → Bool}
    (run : Run step start history s)
    (hstart : I start)
    (hstep : ∀ s a s', I s → step s a s' → I s')
    (hkeep : ∀ s a s', A s → step s a s' → A s')
    (honce : ∀ t, p t = true → I t.pre → step t.pre t.label t.post → ¬ A t.pre ∧ A t.post) :
    history.countP p ≤ 1 := by
  suffices history.countP p = 0 ∨ history.countP p = 1 ∧ A s by
    omega
  induction run with
  | nil =>
      exact .inl rfl
  | @snoc history s s' a run taken ih =>
      have hinv := run.invariant hstart hstep
      rw [List.countP_append, List.countP_singleton]
      split
      · next hp =>
          obtain ⟨hbefore, hafter⟩ := honce ⟨s, a, s'⟩ hp hinv taken
          rcases ih with hnone | ⟨_, hset⟩
          · exact .inr ⟨by omega, hafter⟩
          · exact absurd hset hbefore
      · rcases ih with hnone | ⟨hone, hset⟩
        · exact .inl hnone
        · exact .inr ⟨hone, hkeep _ _ _ hset taken⟩

end Runs

end Transition
