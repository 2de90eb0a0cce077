import Mathlib.Data.List.Basic
import Mathlib.Tactic.Common

/-!
# Splitting a list into terminated lines

A line is what precedes a terminator.  What follows the last terminator is no line.

`Cut` is one line cut off a list, `afterLines` cuts off several, and `IsLine` says
by offsets which line stands where; `exists_isLine` connects the two views.
-/

namespace Lines

universe u

section Lines

variable {α : Type u}
variable (isEnd : α → Bool)

/-- The list starts with a line, its terminator and a rest. -/
structure Cut (xs content : List α) (stop : α) (rest : List α) : Prop where
  eq : xs = content ++ stop :: rest
  inside : ∀ x ∈ content, isEnd x = false
  ends : isEnd stop = true

/-- What follows the first line, if there is one. -/
def afterLine : List α → Option (List α)
  | [] => none
  | x :: xs => if isEnd x then some xs else afterLine xs

/-- What remains after a number of lines. -/
def afterLines : Nat → List α → List α
  | 0, xs => xs
  | k + 1, xs =>
      match afterLine isEnd xs with
      | none => []
      | some rest => afterLines k rest

/-- Line number `k` starts at offset `a` and has its terminator at offset `b`. -/
structure IsLine (xs : List α) (k a b : Nat) : Prop where
  le : a ≤ b
  ends : ∃ e, xs[b]? = some e ∧ isEnd e = true
  inside : ∀ o x, a ≤ o → o < b → xs[o]? = some x → isEnd x = false
  start : a = 0 ∨ ∃ e, xs[a - 1]? = some e ∧ isEnd e = true
  index : (xs.take a).countP isEnd = k

variable {isEnd}
variable {xs content rest : List α}
variable {stop : α}

/-- A list with a terminator starts with a line. -/
theorem exists_cut
    (h : 0 < xs.countP isEnd) :
    ∃ content stop rest, Cut isEnd xs content stop rest := by
  induction xs with
  | nil =>
      simp at h
  | cons x xs ih =>
      by_cases hx : isEnd x = true
      · exact ⟨[], x, xs, rfl, by simp, hx⟩
      · obtain ⟨content, stop, rest, rfl, hinside, hends⟩ :=
          ih (by simpa [List.countP_cons, hx] using h)
        refine ⟨x :: content, stop, rest, rfl, ?_, hends⟩
        intro y hy
        rcases List.mem_cons.mp hy with rfl | hy
        · simpa using hx
        · exact hinside y hy

/-- Anything before the first terminator belongs to the line. -/
theorem Cut.of_append
    {pre : List α}
    (hpre : ∀ x ∈ pre, isEnd x = false)
    (h : Cut isEnd (pre ++ xs) content stop rest) :
    ∃ more, content = pre ++ more ∧ Cut isEnd xs more stop rest := by
  rcases List.append_eq_append_iff.mp h.eq with ⟨more, rfl, hxs⟩ | ⟨more, rfl, hstop⟩
  · exact ⟨more, rfl, hxs, fun x hx => h.inside x (by simp [hx]), h.ends⟩
  · cases more with
    | nil =>
        exact ⟨[], by simp, by simpa using hstop.symm, by simp, h.ends⟩
    | cons x more =>
        obtain ⟨rfl, _⟩ := List.cons.inj hstop
        have hinside := hpre stop (by simp)
        rw [h.ends] at hinside
        cases hinside

theorem Cut.append
    (h : Cut isEnd xs content stop rest)
    (ys : List α) :
    Cut isEnd (xs ++ ys) content stop (rest ++ ys) :=
  ⟨by simp [h.eq], h.inside, h.ends⟩

theorem Cut.afterLine_eq
    (h : Cut isEnd xs content stop rest) :
    afterLine isEnd xs = some rest := by
  obtain ⟨rfl, hinside, hends⟩ := h
  induction content with
  | nil =>
      simp [afterLine, hends]
  | cons x content ih =>
      simpa [afterLine, hinside x (by simp)] using ih (fun y hy => hinside y (by simp [hy]))

theorem afterLine_eq_none
    (h : ∀ x ∈ xs, isEnd x = false) :
    afterLine isEnd xs = none := by
  induction xs with
  | nil =>
      rfl
  | cons x xs ih =>
      simpa [afterLine, h x (by simp)] using ih (fun y hy => h y (by simp [hy]))

/-- There is only one way to cut off the first line. -/
theorem Cut.unique
    {content' rest' : List α}
    {stop' : α}
    (h : Cut isEnd xs content stop rest)
    (h' : Cut isEnd xs content' stop' rest') :
    content = content' ∧ stop = stop' ∧ rest = rest' := by
  have hrest : rest = rest' :=
    Option.some.inj (h.afterLine_eq.symm.trans h'.afterLine_eq)
  subst hrest
  have hsplit : content ++ [stop] ++ rest = content' ++ [stop'] ++ rest := by
    simpa using h.eq.symm.trans h'.eq
  obtain ⟨hcontent, hstop⟩ := List.append_inj' (List.append_cancel_right hsplit) rfl
  exact ⟨hcontent, by simpa using hstop, rfl⟩

/-- Cutting off a line uses up one terminator. -/
theorem Cut.countP_eq
    (h : Cut isEnd xs content stop rest) :
    xs.countP isEnd = rest.countP isEnd + 1 := by
  have hzero : content.countP isEnd = 0 := by
    rw [List.countP_eq_zero]
    intro x hx
    simp [h.inside x hx]
  simp [h.eq, List.countP_append, hzero, h.ends]

/-- After as many lines as there are terminators there is no terminator left. -/
theorem afterLines_of_countP_le
    {k : Nat}
    (h : xs.countP isEnd ≤ k) :
    ∀ x ∈ afterLines isEnd k xs, isEnd x = false := by
  induction k generalizing xs with
  | zero =>
      intro x hx
      simpa using List.countP_eq_zero.mp (Nat.le_zero.mp h) x hx
  | succ k ih =>
      rcases Nat.eq_zero_or_pos (xs.countP isEnd) with hzero | hpos
      · have hnone : afterLine isEnd xs = none := by
          apply afterLine_eq_none
          intro x hx
          simpa using List.countP_eq_zero.mp hzero x hx
        simp [afterLines, hnone]
      · obtain ⟨content, stop, rest, hcut⟩ := exists_cut hpos
        rw [hcut.countP_eq] at h
        simp only [afterLines, hcut.afterLine_eq]
        exact ih (Nat.le_of_succ_le_succ h)

/-- A line keeps its place behind another line. -/
theorem IsLine.shift
    {k a b : Nat}
    (hcut : Cut isEnd xs content stop rest)
    (h : IsLine isEnd rest k a b) :
    IsLine isEnd xs (k + 1) (content.length + 1 + a) (content.length + 1 + b) := by
  have hget : ∀ o, xs[content.length + 1 + o]? = rest[o]? := by
    intro o
    rw [hcut.eq, List.getElem?_append_right (by omega),
      show content.length + 1 + o - content.length = o + 1 by omega]
    simp
  have hstop : xs[content.length]? = some stop := by
    simp [hcut.eq]
  refine ⟨Nat.add_le_add_left h.le _, ?_, ?_, Or.inr ?_, ?_⟩
  · simpa only [hget] using h.ends
  · intro o x hlow hhigh hx
    obtain ⟨o, rfl⟩ := Nat.exists_eq_add_of_le (show content.length + 1 ≤ o by omega)
    rw [hget] at hx
    exact h.inside o x (by omega) (by omega) hx
  · cases a with
    | zero => exact ⟨stop, hstop, hcut.ends⟩
    | succ a =>
        obtain ⟨e, hlast, he⟩ := h.start.resolve_left (Nat.succ_ne_zero a)
        exact ⟨e, (hget a).trans hlast, he⟩
  · have htake : Cut isEnd (xs.take (content.length + 1 + a)) content stop (rest.take a) := by
      refine ⟨?_, hcut.inside, hcut.ends⟩
      rw [hcut.eq, List.take_append, List.take_of_length_le (by omega),
        show content.length + 1 + a - content.length = a + 1 by omega, List.take_succ_cons]
    rw [htake.countP_eq, h.index]

/-- Line number `k` stands at certain offsets, and is what `k` cuts leave in front. -/
theorem exists_isLine
    {k : Nat}
    (h : k < xs.countP isEnd) :
    ∃ a b, IsLine isEnd xs k a b ∧ afterLines isEnd k xs = xs.drop a := by
  induction k generalizing xs with
  | zero =>
      obtain ⟨content, stop, rest, hcut⟩ := exists_cut h
      have hstop : xs[content.length]? = some stop := by
        simp [hcut.eq]
      refine ⟨0, content.length, ⟨Nat.zero_le _, ⟨stop, hstop, hcut.ends⟩, ?_, Or.inl rfl,
        by simp⟩, by simp [afterLines]⟩
      intro o x _ ho hx
      rw [hcut.eq, List.getElem?_append_left ho] at hx
      exact hcut.inside x (List.mem_of_getElem? hx)
  | succ k ih =>
      obtain ⟨content, stop, rest, hcut⟩ := exists_cut (Nat.zero_lt_of_lt h)
      rw [hcut.countP_eq] at h
      obtain ⟨a, b, hline, hafter⟩ := ih (Nat.lt_of_succ_lt_succ h)
      refine ⟨_, _, hline.shift hcut, ?_⟩
      simp only [afterLines, hcut.afterLine_eq, hafter]
      rw [hcut.eq, List.drop_append, List.drop_of_length_le (show content.length ≤ _ by omega),
        show content.length + 1 + a - content.length = a + 1 by omega, List.drop_succ_cons,
        List.nil_append]

/-- Lines are the same under a map that keeps terminators. -/
theorem IsLine.map
    {β : Type u}
    {isEnd' : β → Bool}
    {f : α → β}
    {k a b : Nat}
    (hf : ∀ x, isEnd' (f x) = isEnd x)
    (h : IsLine isEnd xs k a b) :
    IsLine isEnd' (xs.map f) k a b := by
  have hterminator : ∀ o : Nat, (∃ e, xs[o]? = some e ∧ isEnd e = true) →
      ∃ e, (xs.map f)[o]? = some e ∧ isEnd' e = true := by
    rintro o ⟨e, hget, he⟩
    exact ⟨f e, by simp [hget], by rw [hf, he]⟩
  refine ⟨h.le, hterminator b h.ends, ?_, h.start.imp_right (hterminator _), ?_⟩
  · intro o y hlow hhigh hy
    rw [List.getElem?_map, Option.map_eq_some_iff] at hy
    obtain ⟨x, hx, rfl⟩ := hy
    rw [hf]
    exact h.inside o x hlow hhigh hx
  · rw [← h.index, ← List.map_take, List.countP_map]
    exact List.countP_congr fun x _ => by simp [hf]

/-- The line between two offsets is the first one of what starts there. -/
theorem IsLine.cut
    {k a b : Nat}
    (h : IsLine isEnd xs k a b) :
    ∃ stop, xs[b]? = some stop ∧
      Cut isEnd (xs.drop a) ((xs.take b).drop a) stop (xs.drop (b + 1)) := by
  obtain ⟨stop, hget, hends⟩ := h.ends
  obtain ⟨hb, hstop⟩ := List.getElem?_eq_some_iff.mp hget
  refine ⟨stop, hget, ?_, ?_, hends⟩
  · have hsplit : xs = xs.take b ++ stop :: xs.drop (b + 1) := by
      rw [← hstop, List.getElem_cons_drop hb, List.take_append_drop]
    have hle := h.le
    conv_lhs => rw [hsplit]
    rw [List.drop_append_of_le_length]
    rw [List.length_take]
    omega
  · intro x hx
    obtain ⟨i, hi, rfl⟩ := List.getElem_of_mem hx
    simp only [List.length_drop, List.length_take] at hi
    refine h.inside (a + i) _ (Nat.le_add_right _ _) (by omega) ?_
    simp

end Lines

end Lines
