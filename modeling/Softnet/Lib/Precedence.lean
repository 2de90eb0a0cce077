import Mathlib.Data.List.Sort
import Mathlib.Data.Prod.Lex
import Mathlib.Order.Basic

/-!
# Maximal elements by key

Two ways of finding an element of maximal key: scanning a list from left to
right, and stopping at the first hit in a list sorted by falling key.  Keys that are
compared lexicographically may end in a component that only breaks ties.

A verdict that wins ties *prevails* among the candidates if one of maximal key is for it.
Candidates against it never help it, and candidates for it never hurt it.
-/

namespace Precedence

universe u v

section Maximum

variable {α : Type u}
variable {κ : Type v} [LinearOrder κ]

/--
The element of greatest key; among several, the last one.  This is the scan of
Rust's `Iterator::max_by_key`.
-/
def maxByKey
    (key : α → κ) :
    List α → Option α
  | [] => none
  | a :: l =>
      some (l.foldl (fun best x => if key x < key best then best else x) a)

theorem foldl_best_spec
    (key : α → κ)
    (l : List α)
    (a : α) :
    l.foldl (fun best x => if key x < key best then best else x) a ∈ a :: l ∧
      ∀ x ∈ a :: l,
        key x ≤
          key (l.foldl (fun best x => if key x < key best then best else x) a) := by
  induction l generalizing a with
  | nil =>
      simp
  | cons b l ih =>
      simp only [List.foldl_cons]
      by_cases h : key b < key a
      · rw [if_pos h]
        obtain ⟨hmem, hmax⟩ := ih a
        refine ⟨?_, ?_⟩
        · rcases List.mem_cons.mp hmem with hmem | hmem
          · rw [hmem]
            exact List.mem_cons_self
          · exact List.mem_cons_of_mem _ (List.mem_cons_of_mem _ hmem)
        · intro x hx
          have ha := hmax a List.mem_cons_self
          rcases List.mem_cons.mp hx with rfl | hx
          · exact ha
          · rcases List.mem_cons.mp hx with rfl | hx
            · exact h.le.trans ha
            · exact hmax x (List.mem_cons_of_mem _ hx)
      · rw [if_neg h]
        obtain ⟨hmem, hmax⟩ := ih b
        refine ⟨List.mem_cons_of_mem _ hmem, ?_⟩
        intro x hx
        have hb := hmax b List.mem_cons_self
        rcases List.mem_cons.mp hx with rfl | hx
        · exact (not_lt.mp h).trans hb
        · exact hmax x hx

theorem maxByKey_eq_none_iff
    (key : α → κ)
    (l : List α) :
    maxByKey key l = none ↔ l = [] := by
  cases l <;> simp [maxByKey]

/-- The scan returns an element of the list, and none has a greater key. -/
theorem maxByKey_spec
    {key : α → κ}
    {l : List α}
    {m : α}
    (h : maxByKey key l = some m) :
    m ∈ l ∧ ∀ x ∈ l, key x ≤ key m := by
  cases l with
  | nil =>
      simp [maxByKey] at h
  | cons a l =>
      simp only [maxByKey, Option.some.injEq] at h
      subst h
      exact foldl_best_spec key l a

/-- In a list sorted by falling key the first hit has maximal key among the hits. -/
theorem find_max_of_sorted
    {key : α → κ}
    {l : List α}
    (hsorted : l.Pairwise (fun x y => key y ≤ key x))
    {p : α → Bool}
    {m : α}
    (h : l.find? p = some m) :
    ∀ x ∈ l, p x = true → key x ≤ key m := by
  induction l with
  | nil =>
      simp at h
  | cons a l ih =>
      rw [List.pairwise_cons] at hsorted
      intro x hx hp
      rw [List.find?_cons] at h
      by_cases ha : p a = true
      · simp only [ha, Option.some.injEq] at h
        subst h
        rcases List.mem_cons.mp hx with rfl | hx
        · exact le_refl _
        · exact hsorted.1 x hx
      · simp only [ha] at h
        rcases List.mem_cons.mp hx with rfl | hx
        · exact absurd hp ha
        · exact ih hsorted.2 h x hx hp

end Maximum

section Verdicts

variable {α : Type u}
variable {κ : Type v} [LinearOrder κ]
variable (key : α → κ)
variable (wins : α → Prop)

/-- Some candidate of maximal key is for the verdict. -/
def Prevails (candidates : α → Prop) : Prop :=
  ∃ a, candidates a ∧ wins a ∧ ∀ b, candidates b → key b ≤ key a

variable {key wins}
variable {candidates candidates' : α → Prop}

/-- A verdict that prevails does so without the candidates against it, and with more for it. -/
theorem Prevails.mono
    (h : Prevails key wins candidates)
    (kept : ∀ a, candidates a → wins a → candidates' a)
    (fewer : ∀ a, candidates' a → ¬ wins a → candidates a)
    (finite : ∃ l : List α, ∀ a, candidates' a → a ∈ l) :
    Prevails key wins candidates' := by
  classical
  obtain ⟨a, ha, hwins, hmax⟩ := h
  obtain ⟨l, hl⟩ := finite
  -- The greatest of the new candidates is the old one, or is for the verdict
  cases hbest : maxByKey key (l.filter fun b => decide (candidates' b)) with
  | none =>
      rw [maxByKey_eq_none_iff, List.filter_eq_nil_iff] at hbest
      exact absurd (kept a ha hwins) (by simpa using hbest a (hl a (kept a ha hwins)))
  | some best =>
      obtain ⟨hmem, hgreatest⟩ := maxByKey_spec hbest
      have hcandidate : candidates' best := by
        simpa using (List.mem_filter.mp hmem).2
      have hbound : ∀ b, candidates' b → key b ≤ key best := by
        intro b hb
        exact hgreatest b (List.mem_filter.mpr ⟨hl b hb, by simpa using hb⟩)
      by_cases hfor : wins best
      · exact ⟨best, hcandidate, hfor, hbound⟩
      · have hold := hmax best (fewer best hcandidate hfor)
        exact ⟨a, kept a ha hwins, hwins, fun b hb => (hbound b hb).trans hold⟩

end Verdicts

section Ties

variable {α β γ : Type u}
variable [PartialOrder α] [PartialOrder β] [PartialOrder γ]

/-- A component in front leaves what breaks the ties where it is. -/
theorem lex_le_iff
    {a a' : α} {x x' : β} {y y' : γ} {tie : Prop}
    (h : x ≤ x' ↔ y < y' ∨ y = y' ∧ tie) :
    toLex (a, x) ≤ toLex (a', x') ↔
      toLex (a, y) < toLex (a', y') ∨ toLex (a, y) = toLex (a', y') ∧ tie := by
  simp only [Prod.Lex.toLex_le_toLex, Prod.Lex.toLex_lt_toLex, h, EmbeddingLike.apply_eq_iff_eq,
    Prod.mk.injEq, and_or_left, or_assoc, and_assoc]

end Ties

end Precedence
