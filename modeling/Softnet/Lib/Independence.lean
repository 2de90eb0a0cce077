import Softnet.Lib.FiniteMaps
import Mathlib.Data.List.Perm.Basic
import Mathlib.Tactic.Common

/-!
# Independent actions

An action changes a state and returns a result.  Two actions are independent in a state if
neither notices that the other one came first, and both orders lead to the same state.

* `independent_atKey`: actions that read and write one entry of a finite map each are
  independent if these are different entries.
* `Independent.of_simulates`: independence carries over from the part of a state that two
  actions work on.
* `results_perm`: where any two actions of a list are independent, they may be taken in any
  order.
-/

namespace StateAction

universe u v w

section Pairs

variable {σ : Type u}
variable {β γ : Type v}
variable {f : σ → σ × β}
variable {g : σ → σ × γ}
variable {s : σ}

/-- Each action returns what it returns alone, and the order does not matter to the state. -/
structure Independent (f : σ → σ × β) (g : σ → σ × γ) (s : σ) : Prop where
  state : (g (f s).1).1 = (f (g s).1).1
  left : (f (g s).1).2 = (f s).2
  right : (g (f s).1).2 = (g s).2

theorem Independent.symm
    (h : Independent f g s) :
    Independent g f s :=
  ⟨h.state.symm, h.right, h.left⟩

/-- An action that leaves the state alone, before and after the other one. -/
theorem Independent.of_unchanged
    {b : β}
    (hfirst : f s = (s, b))
    (hsecond : f (g s).1 = ((g s).1, b)) :
    Independent f g s := by
  constructor
  · rw [hfirst, hsecond]
  · rw [hfirst, hsecond]
  · rw [hfirst]

/-- Actions that first prepare the state.  What one of them leaves behind is prepared. -/
theorem Independent.of_prepared
    (prepare : σ → σ)
    (h : Independent f g (prepare s))
    (hf : prepare (f (prepare s)).1 = (f (prepare s)).1)
    (hg : prepare (g (prepare s)).1 = (g (prepare s)).1) :
    Independent (f ∘ prepare) (g ∘ prepare) s := by
  constructor
  · simp only [Function.comp_apply, hf, hg, h.state]
  · simp only [Function.comp_apply, hg, h.left]
  · simp only [Function.comp_apply, hf, h.right]

variable {τ : Type w}
variable {f' : τ → τ × β}
variable {g' : τ → τ × γ}
variable {t : τ}

/-- On the states that carry a `t` with `P`, the action does what another does to the `t`. -/
def Simulates (carry : τ → σ) (P : τ → Prop) (f : σ → σ × β) (f' : τ → τ × β) : Prop :=
  ∀ t, P t → f (carry t) = (carry (f' t).1, (f' t).2)

theorem Independent.of_simulates
    {carry : τ → σ} {P : τ → Prop}
    (h : Independent f' g' t)
    (hf : Simulates carry P f f')
    (hg : Simulates carry P g g')
    (ht : P t)
    (htf : P (f' t).1)
    (htg : P (g' t).1) :
    Independent f g (carry t) := by
  constructor
  · rw [hf t ht, hg t ht, hg _ htf, hf _ htg, h.state]
  · rw [hf t ht, hg t ht, hf _ htg, h.left]
  · rw [hf t ht, hg t ht, hg _ htf, h.right]

end Pairs

section Entries

variable {κ : Type u} [DecidableEq κ]
variable {ν : Type v}
variable {β γ : Type w}
variable {key key' : κ}

/-- An action that reads one entry and may store another value there. -/
def atKey (key : κ) (act : Option ν → Option ν × β) (m : Finmap fun _ : κ => ν) :
    (Finmap fun _ : κ => ν) × β :=
  ((act (m.lookup key)).1.elim m (m.insert key), (act (m.lookup key)).2)

theorem lookup_atKey_of_ne
    (hne : key' ≠ key)
    (act : Option ν → Option ν × β)
    (m : Finmap fun _ : κ => ν) :
    (atKey key act m).1.lookup key' = m.lookup key' := by
  unfold atKey
  cases (act (m.lookup key)).1 with
  | none => rfl
  | some value => exact Finmap.lookup_insert_of_ne m hne

theorem card_keys_atKey_le
    (key : κ)
    (act : Option ν → Option ν × β)
    (m : Finmap fun _ : κ => ν) :
    (atKey key act m).1.keys.card ≤ m.keys.card + 1 := by
  unfold atKey
  cases (act (m.lookup key)).1 with
  | none => exact Nat.le_succ _
  | some value =>
      rw [Option.elim_some, Finmap.keys_insert]
      exact Finset.card_insert_le _ _

/-- Actions on different entries. -/
theorem independent_atKey
    (hne : key ≠ key')
    (act : Option ν → Option ν × β)
    (act' : Option ν → Option ν × γ)
    (m : Finmap fun _ : κ => ν) :
    Independent (atKey key act) (atKey key' act') m := by
  have hfirst := lookup_atKey_of_ne hne.symm act m
  have hsecond := lookup_atKey_of_ne hne act' m
  refine ⟨?_, congrArg (fun entry => (act entry).2) hsecond,
    congrArg (fun entry => (act' entry).2) hfirst⟩
  rw [atKey, hfirst, atKey, atKey, hsecond, atKey]
  cases (act (m.lookup key)).1 with
  | none => rfl
  | some value =>
      cases (act' (m.lookup key')).1 with
      | none => rfl
      | some value' => exact Finmap.insert_insert_of_ne m hne

end Entries

section Lists

variable {σ : Type u}
variable {α : Type v}
variable {β : Type w}

/-- Takes the actions of a list one after the other, and notes what each of them returns. -/
def results (act : α → σ → σ × β) : List α → σ → σ × List (α × β)
  | [], s => (s, [])
  | a :: l, s =>
      let rest := results act l (act a s).1
      (rest.1, (a, (act a s).2) :: rest.2)

variable {act : α → σ → σ × β}
variable {apart : α → α → Prop}
variable {l l' : List α}

/--
Actions that are apart are independent as long as there is room for them.  A list of them
leads to the same state with the same results, whatever its order.
-/
theorem results_perm
    (room : Nat → σ → Prop)
    (hroom : ∀ n a s, room (n + 1) s → room n (act a s).1)
    (hapart : ∀ n a b s, room (n + 2) s → apart a b → Independent (act a) (act b) s)
    (hsymm : ∀ a b, apart a b → apart b a)
    (hperm : l.Perm l')
    (hpairwise : l.Pairwise apart)
    {s : σ}
    (hs : room l.length s) :
    (results act l s).1 = (results act l' s).1 ∧
      (results act l s).2.Perm (results act l' s).2 := by
  induction hperm generalizing s with
  | nil =>
      exact ⟨rfl, .nil⟩
  | cons a hperm ih =>
      obtain ⟨_, htail⟩ := List.pairwise_cons.mp hpairwise
      obtain ⟨hstate, hresults⟩ := ih htail (hroom _ a s hs)
      exact ⟨hstate, hresults.cons _⟩
  | swap a b l =>
      obtain ⟨hhead, _⟩ := List.pairwise_cons.mp hpairwise
      have hindependent := hapart _ b a s hs (hhead a List.mem_cons_self)
      simp only [results, hindependent.state, hindependent.left, hindependent.right, true_and]
      exact .swap _ _ _
  | trans hfirst hsecond ihfirst ihsecond =>
      obtain ⟨hstate, hresults⟩ := ihfirst hpairwise hs
      have hpairwise' := (hfirst.pairwise_iff fun {a b} => hsymm a b).mp hpairwise
      obtain ⟨hstate', hresults'⟩ := ihsecond hpairwise' (hfirst.length_eq ▸ hs)
      exact ⟨hstate.trans hstate', hresults.trans hresults'⟩

end Lists

end StateAction
