import Softnet.Network

/-!
# The life of an interface

`Host::finalize` and `Drop for Host` in `lib/host.rs`.  A host is finalized by the task of
its VM, and again when it is dropped unless the interface is stopped by then.  What `vmnet`
answers to either call is a parameter.

The outcome of every call that stops the interface is recorded, so that it can be said that
a stop was attempted, and that none follows one that succeeded.
-/

namespace Softnet

/-- The interface of a host, with the record of its stops. -/
structure Interface where
  /-- The callback still waits for the sender of `callback_can_continue_tx`. -/
  callbackCanContinue : Bool
  finalized : Bool
  /-- Whether each stop succeeded, oldest first. -/
  stops : List Bool
deriving DecidableEq, Repr

/-- What `vmnet` answers when an interface is finalized. -/
structure FinalizeAnswers where
  clearEventCallback : Except ErrorChain Unit
  finalize : Except ErrorChain Unit

namespace Interface

/-- The interface of the host that `Host::new` returns. -/
def new : Interface :=
  ⟨true, false, []⟩

def finalize (answers : FinalizeAnswers) (interface : Interface) :
    Interface × Except ErrorChain Unit :=
  if interface.finalized then
    (interface, .ok ())
  else
    let stopped := answers.finalize.isOk
    -- The callback is released whether or not it could be cleared
    (⟨false, stopped, interface.stops ++ [stopped]⟩, do
      context "failed to clear vmnet interface's event callback" answers.clearEventCallback
      context "failed to finalize vmnet's interface" answers.finalize)

/-- `Drop for Host`. -/
def drop (answers : FinalizeAnswers) (interface : Interface) : Interface :=
  if interface.finalized then interface else (interface.finalize answers).1

section Stops

variable {interface : Interface}

/-- Stops end with the first that succeeds. -/
structure Orderly (interface : Interface) : Prop where
  finalized_iff : interface.finalized = true ↔ true ∈ interface.stops
  once : true ∉ interface.stops.dropLast

theorem orderly_new : new.Orderly := by
  constructor <;> simp [new]

theorem Orderly.finalize
    (h : interface.Orderly)
    (answers : FinalizeAnswers) :
    (interface.finalize answers).1.Orderly := by
  by_cases hfinalized : interface.finalized = true
  · simpa [Interface.finalize, hfinalized] using h
  · have hfailed : true ∉ interface.stops := fun hmem => hfinalized (h.finalized_iff.mpr hmem)
    constructor <;> simp [Interface.finalize, hfinalized, hfailed]

theorem Orderly.drop
    (h : interface.Orderly)
    (answers : FinalizeAnswers) :
    (interface.drop answers).Orderly := by
  unfold Interface.drop
  split
  · exact h
  · exact h.finalize answers

/-- Whoever finalizes an interface leaves a stop behind. -/
theorem Orderly.stops_finalize_ne_nil
    (h : interface.Orderly)
    (answers : FinalizeAnswers) :
    (interface.finalize answers).1.stops ≠ [] := by
  by_cases hfinalized : interface.finalized = true
  · have hmem := h.finalized_iff.mp hfinalized
    simpa [Interface.finalize, hfinalized] using List.ne_nil_of_mem hmem
  · simp [Interface.finalize, hfinalized]

theorem Orderly.stops_drop_ne_nil
    (h : interface.Orderly)
    (answers : FinalizeAnswers) :
    (interface.drop answers).stops ≠ [] := by
  unfold Interface.drop
  split
  · next hfinalized => exact List.ne_nil_of_mem (h.finalized_iff.mp hfinalized)
  · exact h.stops_finalize_ne_nil answers

/-- Stops that were recorded stay recorded. -/
theorem stops_isPrefix_finalize
    (answers : FinalizeAnswers) :
    interface.stops <+: (interface.finalize answers).1.stops := by
  unfold Interface.finalize
  split
  · exact List.prefix_rfl
  · exact List.prefix_append _ _

theorem stops_isPrefix_drop
    (answers : FinalizeAnswers) :
    interface.stops <+: (interface.drop answers).stops := by
  unfold Interface.drop
  split
  · exact List.prefix_rfl
  · exact stops_isPrefix_finalize answers

end Stops

section Disposal

variable {interface interface' : Interface}

/-- The host is dropped, or finalized and then dropped. -/
inductive Disposed (interface : Interface) : Interface → Prop
  | dropped (answers : FinalizeAnswers) : Disposed interface (interface.drop answers)
  | finalized
      (answers later : FinalizeAnswers) :
      Disposed interface ((interface.finalize answers).1.drop later)

theorem Disposed.orderly
    (h : interface.Disposed interface')
    (horderly : interface.Orderly) :
    interface'.Orderly := by
  cases h with
  | dropped answers => exact horderly.drop answers
  | finalized answers later => exact (horderly.finalize answers).drop later

/-- Whoever disposes of a host has tried to stop its interface. -/
theorem Disposed.stops_ne_nil
    (h : interface.Disposed interface')
    (horderly : interface.Orderly) :
    interface'.stops ≠ [] := by
  cases h with
  | dropped answers => exact horderly.stops_drop_ne_nil answers
  | finalized answers later => exact (horderly.finalize answers).stops_drop_ne_nil later

theorem Disposed.stops_isPrefix
    (h : interface.Disposed interface') :
    interface.stops <+: interface'.stops := by
  cases h with
  | dropped answers => exact stops_isPrefix_drop answers
  | finalized answers later =>
      exact (stops_isPrefix_finalize answers).trans (stops_isPrefix_drop later)

end Disposal

end Interface

end Softnet
