import Softnet.Lib.Accounts

/-!
# Parts of a system

A run of a system is a run of each of its parts: of the steps of the system, those that the
part takes part in, seen from the part.
-/

namespace Transition

universe u v u' v' w

section Parts

variable {σ : Type u}
variable {α : Type v}
variable {τ : Type u'}
variable {β : Type v'}
variable (view : σ → τ)
variable (role : α → Option β)

/-- The steps of the part that `view` shows, with the labels that they have there. -/
def partOf (history : List (Step σ α)) : List (Step τ β) :=
  history.filterMap fun t => (role t.label).map fun b => ⟨view t.pre, b, view t.post⟩

@[simp] theorem partOf_nil : partOf view role [] = [] :=
  rfl

@[simp] theorem partOf_append
    (before after : List (Step σ α)) :
    partOf view role (before ++ after) = partOf view role before ++ partOf view role after :=
  List.filterMap_append

variable {view role}

theorem partOf_singleton
    {t : Step σ α} {b : β}
    (h : role t.label = some b) :
    partOf view role [t] = [⟨view t.pre, b, view t.post⟩] := by
  simp [partOf, h]

theorem partOf_singleton_none
    {t : Step σ α}
    (h : role t.label = none) :
    partOf view role [t] = [] := by
  simp [partOf, h]

/-- A step that the part takes part in is one of its steps. -/
theorem mem_partOf
    {history : List (Step σ α)} {t : Step σ α} {b : β}
    (ht : t ∈ history)
    (h : role t.label = some b) :
    ⟨view t.pre, b, view t.post⟩ ∈ partOf view role history :=
  List.mem_filterMap.mpr ⟨t, ht, by rw [h]; rfl⟩

/-- What the steps of the part produced is what they produced as steps of the system. -/
theorem produced_partOf
    {γ : Type w}
    (out : β → List γ)
    (history : List (Step σ α)) :
    produced out (partOf view role history) =
      produced (fun a => (role a).elim [] out) history := by
  induction history with
  | nil => rfl
  | cons t rest ih =>
      cases hrole : role t.label with
      | none => simpa [produced, partOf, hrole] using ih
      | some b => simpa [produced, partOf, hrole] using ih

/-- From a reached state every step is one of the part or leaves it alone; so is every run. -/
theorem Run.part_of_invariant
    (view : σ → τ)
    (role : α → Option β)
    {step : σ → α → σ → Prop} {stepOf : τ → β → τ → Prop} {I : σ → Prop}
    {start s : σ} {history : List (Step σ α)}
    (run : Run step start history s)
    (hstart : I start)
    (hstep : ∀ s a s', I s → step s a s' → I s')
    (taken : ∀ s a s' b, I s → step s a s' → role a = some b → stepOf (view s) b (view s'))
    (apart : ∀ s a s', I s → step s a s' → role a = none → view s' = view s) :
    I s ∧ Run stepOf (view start) (partOf view role history) (view s) := by
  induction run with
  | nil => exact ⟨hstart, .nil⟩
  | @snoc history s s' a run last ih =>
      obtain ⟨hs, hrun⟩ := ih
      refine ⟨hstep s a s' hs last, ?_⟩
      rw [partOf_append]
      cases hrole : role a with
      | none =>
          rw [partOf_singleton_none hrole, List.append_nil, apart s a s' hs last hrole]
          exact hrun
      | some b =>
          rw [partOf_singleton hrole]
          exact hrun.snoc (taken s a s' b hs last hrole)

/-- Every step is one of the part or leaves the part alone; so is every run. -/
theorem Run.part
    (view : σ → τ)
    (role : α → Option β)
    {step : σ → α → σ → Prop} {stepOf : τ → β → τ → Prop}
    {start s : σ} {history : List (Step σ α)}
    (run : Run step start history s)
    (taken : ∀ s a s' b, step s a s' → role a = some b → stepOf (view s) b (view s'))
    (apart : ∀ s a s', step s a s' → role a = none → view s' = view s) :
    Run stepOf (view start) (partOf view role history) (view s) :=
  (run.part_of_invariant view role (I := fun _ => True) trivial (fun _ _ _ _ _ => trivial)
    (fun s a s' b _ => taken s a s' b) fun s a s' _ => apart s a s').2

end Parts

end Transition
