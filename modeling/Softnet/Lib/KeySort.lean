import Mathlib.Data.List.Destutter
import Mathlib.Data.List.Sort
import Mathlib.Data.Set.Function

/-!
# Lists as sets, in the order of a key

`canonical` sorts a list by a key and drops neighbours that are equal.  Where the key
tells the elements apart, this is a normal form of the set of elements: the key grows
from one element to the next (`pairwise_canonical`), and two lists have the same form
exactly if they have the same elements (`canonical_eq_iff`).
-/

namespace KeySort

universe u v

variable {α : Type u}
variable {κ : Type v} [LinearOrder κ]
variable {key : α → κ}
variable {l l' : List α}

section Order

theorem isChain_lt_of_ne
    (hsorted : l.Pairwise (fun a b => key a ≤ key b))
    (hchain : l.IsChain (· ≠ ·))
    (hinj : Set.InjOn key {a | a ∈ l}) :
    l.IsChain (fun a b => key a < key b) := by
  induction hchain with
  | nil => exact .nil
  | singleton => exact .singleton _
  | @cons_cons a b l hne hchain ih =>
      have hle := List.rel_of_pairwise_cons hsorted List.mem_cons_self
      have hlt : key a < key b :=
        lt_of_le_of_ne hle fun heq => hne (hinj (by simp) (by simp) heq)
      exact .cons_cons hlt (ih hsorted.of_cons fun c hc d hd =>
        hinj (List.mem_cons_of_mem _ hc) (List.mem_cons_of_mem _ hd))

theorem nodup_of_pairwise_lt
    (h : l.Pairwise (fun a b => key a < key b)) :
    l.Nodup := by
  refine h.imp ?_
  rintro a _ hlt rfl
  exact hlt.false

theorem eq_of_pairwise_lt
    (h : l.Pairwise (fun a b => key a < key b))
    (h' : l'.Pairwise (fun a b => key a < key b))
    (hmem : ∀ a, a ∈ l ↔ a ∈ l') :
    l = l' :=
  List.Perm.eq_of_pairwise (fun _ _ _ _ hab hba => absurd hba hab.asymm) h h'
    ((List.perm_ext_iff_of_nodup (nodup_of_pairwise_lt h) (nodup_of_pairwise_lt h')).mpr hmem)

end Order

section Canonical

variable [DecidableEq α]

/-- Sort by the key, then drop each element that is equal to the one before. -/
def canonical (key : α → κ) (l : List α) : List α :=
  (l.insertionSort (fun a b => key a ≤ key b)).destutter (· ≠ ·)

theorem mem_destutter'_ne
    {a b : α} :
    a ∈ l.destutter' (· ≠ ·) b ↔ a = b ∨ a ∈ l := by
  induction l generalizing b with
  | nil =>
      simp
  | cons c l ih =>
      by_cases h : b = c
      · subst h
        rw [List.destutter'_cons_neg _ (by simp), ih]
        simp
      · rw [List.destutter'_cons_pos _ h]
        simp [ih]

/-- Only repetitions are dropped. -/
@[simp] theorem mem_canonical
    {a : α} :
    a ∈ canonical key l ↔ a ∈ l := by
  rw [canonical]
  conv_rhs => rw [← List.mem_insertionSort (fun a b => key a ≤ key b)]
  cases l.insertionSort (fun a b => key a ≤ key b) with
  | nil => simp
  | cons b l => rw [List.destutter_cons', mem_destutter'_ne, List.mem_cons]

/-- If the key tells the elements apart, it grows along the list. -/
theorem pairwise_canonical
    (hinj : Set.InjOn key {a | a ∈ l}) :
    (canonical key l).Pairwise (fun a b => key a < key b) := by
  have hsorted : (canonical key l).Pairwise (fun a b => key a ≤ key b) :=
    List.Pairwise.sublist (List.destutter_sublist _ _)
      (List.pairwise_insertionSort (fun a b => key a ≤ key b) l)
  have hchain : (canonical key l).IsChain (· ≠ ·) := List.isChain_destutter _ _
  have hinj' : Set.InjOn key {a | a ∈ canonical key l} := by
    simpa only [mem_canonical] using hinj
  have : Trans (fun a b => key a < key b) (fun a b => key a < key b)
      (fun a b => key a < key b) := ⟨lt_trans⟩
  exact List.isChain_iff_pairwise.mp (isChain_lt_of_ne hsorted hchain hinj')

/-- The form of a list shows its elements, and nothing else. -/
theorem canonical_eq_iff
    (hinj : Set.InjOn key {a | a ∈ l}) :
    canonical key l = canonical key l' ↔ ∀ a, a ∈ l ↔ a ∈ l' := by
  constructor
  · intro heq a
    calc a ∈ l
      _ ↔ a ∈ canonical key l := mem_canonical.symm
      _ ↔ a ∈ canonical key l' := by rw [heq]
      _ ↔ a ∈ l' := mem_canonical
  · intro hmem
    have hinj' : Set.InjOn key {a | a ∈ l'} := by simpa only [hmem] using hinj
    exact eq_of_pairwise_lt (pairwise_canonical hinj) (pairwise_canonical hinj')
      (by simpa using hmem)

end Canonical

end KeySort
