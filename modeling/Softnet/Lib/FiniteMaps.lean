import Mathlib.Data.Finmap

/-!
# Finite maps: retaining entries and mapping values

Mathlib's `Finmap` forgets the order of its entries and `AList` keeps one.
Hash tables whose order is never observed are modelled by the first, tables
that are iterated by the second.  This file adds the two operations the
standard library of the modelled language has and Mathlib lacks: keeping the
entries that satisfy a predicate, and rewriting every value.
-/

universe u v w

namespace Finmap

section Retain

variable {α : Type u}
variable {β : α → Type v}

/-- Keep exactly the entries that satisfy the predicate. -/
def retain
    (p : ∀ a, β a → Bool)
    (s : Finmap β) :
    Finmap β where
  entries := s.entries.filter (fun e => p e.1 e.2)
  nodupKeys := by
    have hle : (s.entries.filter (fun e => p e.1 e.2)).keys ≤ s.entries.keys :=
      Multiset.map_le_map (Multiset.filter_le _ _)
    exact Multiset.nodup_keys.mp
      (Multiset.nodup_of_le hle (Multiset.nodup_keys.mpr s.nodupKeys))

variable [DecidableEq α]

/-- A retained map finds what the original finds, if it satisfies the predicate. -/
@[simp] theorem lookup_retain
    (p : ∀ a, β a → Bool)
    (s : Finmap β)
    (a : α) :
    (s.retain p).lookup a = (s.lookup a).filter (p a) := by
  apply Option.ext
  intro b
  rw [lookup_eq_some_iff, Option.filter_eq_some_iff, lookup_eq_some_iff]
  simp [retain, Multiset.mem_filter]

/-- Retaining never adds keys. -/
theorem keys_retain_subset
    (p : ∀ a, β a → Bool)
    (s : Finmap β) :
    (s.retain p).keys ⊆ s.keys := by
  intro a ha
  rw [mem_keys, mem_iff] at ha ⊢
  obtain ⟨b, hb⟩ := ha
  rw [lookup_retain, Option.filter_eq_some_iff] at hb
  exact ⟨b, hb.1⟩

/-- Insertion adds its key. -/
@[simp] theorem keys_insert
    (a : α)
    (b : β a)
    (s : Finmap β) :
    (s.insert a b).keys = Insert.insert a s.keys := by
  ext c
  simp [mem_keys, mem_insert]

end Retain

end Finmap

namespace AList

section MapValues

variable {α : Type u}
variable {β : α → Type v}
variable {γ : α → Type w}

/-- Rewrite every value, keeping keys and order. -/
def mapValues
    (f : ∀ a, β a → γ a)
    (s : AList β) :
    AList γ where
  entries := s.entries.map (Sigma.map id f)
  nodupKeys := s.nodupKeys.map₂ f

@[simp] theorem lookup_mapValues
    [DecidableEq α]
    (f : ∀ a, β a → γ a)
    (s : AList β)
    (a : α) :
    (s.mapValues f).lookup a = (s.lookup a).map (f a) :=
  List.dlookup_map₂ a

end MapValues

end AList
