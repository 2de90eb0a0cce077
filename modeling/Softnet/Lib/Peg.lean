import Mathlib.Data.List.Basic
import Mathlib.Tactic.Common

/-!
# Parsing expression grammars

An expression reads a prefix of its input.  A choice commits to its first
alternative that matches, a repetition takes as much as it can, and neither is
taken back when something later fails.  A parse leaves a forest: a rule that
shows in it leaves a pair with the text it matched and the pairs inside.

`Derives` is the declarative reading of an expression, which forgets the order of
alternatives and the greed of repetitions.  `derives_of_parse` says that a parse
finds nothing else; the converse fails in general, and the lemmas named
`parse_…` say when it holds.
-/

namespace Peg

universe u

section Expressions

variable {R : Type u}

/-- A rule that matched, with its text and the rules that matched inside. -/
inductive Pair (R : Type u) where
  | mk (rule : R) (text : List Char) (inner : List (Pair R))

namespace Pair

def rule : Pair R → R
  | mk rule _ _ => rule

def text : Pair R → List Char
  | mk _ text _ => text

def inner : Pair R → List (Pair R)
  | mk _ _ inner => inner

end Pair

inductive Expr (R : Type u) where
  | literal (text : String)
  | charClass (p : Char → Bool)
  | seq (first second : Expr R)
  | choice (first second : Expr R)
  | optional (e : Expr R)
  /-- One or more times. -/
  | many (e : Expr R)
  /-- A rule that shows with what is inside. -/
  | node (rule : R) (e : Expr R)
  /-- An atomic rule, which shows without what is inside. -/
  | atom (rule : R) (e : Expr R)
  | endOfInput (rule : R)

/-- Repeats a parser as long as it matches, at most `fuel` times. -/
def repeated
    (step : List Char → Option (List (Pair R) × List Char)) :
    (fuel : Nat) → List Char → List (Pair R) × List Char
  | 0, input => ([], input)
  | fuel + 1, input =>
      match step input with
      | none => ([], input)
      | some (pairs, rest) =>
          let (more, rest') := repeated step fuel rest
          (pairs ++ more, rest')

/-- What an expression makes of its input: the pairs it leaves and the unread rest. -/
def parse : Expr R → List Char → Option (List (Pair R) × List Char)
  | .literal text, input =>
      if text.toList <+: input then some ([], input.drop text.toList.length) else none
  | .charClass _, [] => none
  | .charClass p, c :: rest => if p c then some ([], rest) else none
  | .seq first second, input =>
      match parse first input with
      | none => none
      | some (pairs, rest) =>
          match parse second rest with
          | none => none
          | some (more, rest') => some (pairs ++ more, rest')
  | .choice first second, input =>
      match parse first input with
      | some result => some result
      | none => parse second input
  | .optional e, input =>
      match parse e input with
      | some result => some result
      | none => some ([], input)
  | .many e, input =>
      match parse e input with
      | none => none
      | some (pairs, rest) =>
          -- A repeated expression reads something each time
          let (more, rest') := repeated (parse e) rest.length rest
          some (pairs ++ more, rest')
  | .node rule e, input =>
      match parse e input with
      | none => none
      | some (inner, rest) =>
          some ([⟨rule, input.take (input.length - rest.length), inner⟩], rest)
  | .atom rule e, input =>
      match parse e input with
      | none => none
      | some (_, rest) =>
          some ([⟨rule, input.take (input.length - rest.length), []⟩], rest)
  | .endOfInput rule, input =>
      if input = [] then some ([⟨rule, [], []⟩], []) else none

attribute [local simp] parse repeated

/-! ## The declarative reading -/

/-- The text can be read as the expression, with these pairs. -/
inductive Derives : Expr R → List Char → List (Pair R) → Prop
  | literal (text : String) : Derives (.literal text) text.toList []
  | charClass {p : Char → Bool} {c : Char} (h : p c = true) : Derives (.charClass p) [c] []
  | seq
      {first second : Expr R} {t t' : List Char} {ps ps' : List (Pair R)}
      (h : Derives first t ps)
      (h' : Derives second t' ps') :
      Derives (.seq first second) (t ++ t') (ps ++ ps')
  | left
      {first second : Expr R} {t : List Char} {ps : List (Pair R)}
      (h : Derives first t ps) :
      Derives (.choice first second) t ps
  | right
      {first second : Expr R} {t : List Char} {ps : List (Pair R)}
      (h : Derives second t ps) :
      Derives (.choice first second) t ps
  | absent {e : Expr R} : Derives (.optional e) [] []
  | present
      {e : Expr R} {t : List Char} {ps : List (Pair R)}
      (h : Derives e t ps) :
      Derives (.optional e) t ps
  | once
      {e : Expr R} {t : List Char} {ps : List (Pair R)}
      (h : Derives e t ps) :
      Derives (.many e) t ps
  | more
      {e : Expr R} {t t' : List Char} {ps ps' : List (Pair R)}
      (h : Derives e t ps)
      (h' : Derives (.many e) t' ps') :
      Derives (.many e) (t ++ t') (ps ++ ps')
  | node
      {rule : R} {e : Expr R} {t : List Char} {inner : List (Pair R)}
      (h : Derives e t inner) :
      Derives (.node rule e) t [⟨rule, t, inner⟩]
  | atom
      {rule : R} {e : Expr R} {t : List Char} {inner : List (Pair R)}
      (h : Derives e t inner) :
      Derives (.atom rule e) t [⟨rule, t, []⟩]
  | endOfInput {rule : R} : Derives (.endOfInput rule) [] [⟨rule, [], []⟩]

variable {e first second : Expr R}
variable {input rest t : List Char}
variable {pairs : List (Pair R)}

theorem take_length_sub
    (t rest : List Char) :
    (t ++ rest).take ((t ++ rest).length - rest.length) = t := by
  simp

/-- What is read once, followed by a repetition that reads nothing or what it derives. -/
theorem Derives.followed
    {result : List (Pair R) × List Char}
    (h : Derives e t pairs)
    (hmore :
      result = ([], rest) ∨
        ∃ t', rest = t' ++ result.2 ∧ Derives (.many e) t' result.1) :
    ∃ t', t ++ rest = t' ++ result.2 ∧ Derives (.many e) t' (pairs ++ result.1) := by
  rcases hmore with rfl | ⟨t', rfl, hmore⟩
  · refine ⟨t, rfl, ?_⟩
    rw [List.append_nil]
    exact .once h
  · exact ⟨t ++ t', (List.append_assoc t t' _).symm, .more h hmore⟩

/-- A repetition reads nothing, or derives what it reads. -/
theorem derives_of_repeated
    (hstep :
      ∀ input pairs rest, parse e input = some (pairs, rest) →
        ∃ t, input = t ++ rest ∧ Derives e t pairs)
    (fuel : Nat)
    (input : List Char) :
    repeated (parse e) fuel input = ([], input) ∨
      ∃ t, input = t ++ (repeated (parse e) fuel input).2 ∧
        Derives (.many e) t (repeated (parse e) fuel input).1 := by
  induction fuel generalizing input with
  | zero =>
      exact .inl rfl
  | succ fuel ih =>
      rw [repeated]
      cases hparse : parse e input with
      | none =>
          exact .inl rfl
      | some result =>
          obtain ⟨pairs, rest⟩ := result
          obtain ⟨t, rfl, hderives⟩ := hstep input pairs rest hparse
          exact .inr (hderives.followed (ih rest))

/-- What a parse reads can be read so. -/
theorem derives_of_parse
    (h : parse e input = some (pairs, rest)) :
    ∃ t, input = t ++ rest ∧ Derives e t pairs := by
  induction e generalizing input pairs rest with
  | literal text =>
      simp only [parse, Option.ite_none_right_eq_some, Option.some.injEq, Prod.mk.injEq] at h
      obtain ⟨⟨rest', rfl⟩, rfl, rfl⟩ := h
      exact ⟨text.toList, by simp, .literal text⟩
  | charClass p =>
      cases input with
      | nil =>
          cases h
      | cons c input =>
          simp only [parse, Option.ite_none_right_eq_some, Option.some.injEq,
            Prod.mk.injEq] at h
          obtain ⟨hc, rfl, rfl⟩ := h
          exact ⟨[c], rfl, .charClass hc⟩
  | seq first second ihfirst ihsecond =>
      rw [parse] at h
      split at h
      · cases h
      · next ps rest' hfirst =>
          split at h
          · cases h
          · next ps' rest'' hsecond =>
              cases h
              obtain ⟨t, rfl, hderives⟩ := ihfirst hfirst
              obtain ⟨t', rfl, hderives'⟩ := ihsecond hsecond
              exact ⟨t ++ t', by simp, .seq hderives hderives'⟩
  | choice first second ihfirst ihsecond =>
      rw [parse] at h
      split at h
      · next result hfirst =>
          cases h
          obtain ⟨t, hinput, hderives⟩ := ihfirst hfirst
          exact ⟨t, hinput, .left hderives⟩
      · obtain ⟨t, hinput, hderives⟩ := ihsecond h
        exact ⟨t, hinput, .right hderives⟩
  | optional e ih =>
      rw [parse] at h
      split at h
      · next result he =>
          cases h
          obtain ⟨t, hinput, hderives⟩ := ih he
          exact ⟨t, hinput, .present hderives⟩
      · cases h
        exact ⟨[], rfl, .absent⟩
  | many e ih =>
      rw [parse] at h
      split at h
      · cases h
      · next ps rest' he =>
          cases h
          obtain ⟨t, rfl, hderives⟩ := ih he
          exact hderives.followed (derives_of_repeated (fun _ _ _ => ih) rest'.length rest')
  | node rule e ih =>
      rw [parse] at h
      split at h
      · cases h
      · next inner rest' he =>
          obtain ⟨t, rfl, hderives⟩ := ih he
          rw [take_length_sub] at h
          cases h
          exact ⟨t, rfl, .node hderives⟩
  | atom rule e ih =>
      rw [parse] at h
      split at h
      · cases h
      · next inner rest' he =>
          obtain ⟨t, rfl, hderives⟩ := ih he
          rw [take_length_sub] at h
          cases h
          exact ⟨t, rfl, .atom hderives⟩
  | endOfInput rule =>
      simp only [parse, Option.ite_none_right_eq_some, Option.some.injEq, Prod.mk.injEq] at h
      obtain ⟨rfl, rfl, rfl⟩ := h
      exact ⟨[], rfl, .endOfInput⟩

/-! ## When a parse succeeds -/

theorem parse_literal
    (text : String)
    (rest : List Char) :
    parse (R := R) (.literal text) (text.toList ++ rest) = some ([], rest) := by
  simp

theorem parse_literal_eq_none
    {text : String}
    (h : ¬ text.toList <+: input) :
    parse (R := R) (.literal text) input = none := by
  simp [h]

theorem parse_seq
    {rest' : List Char} {more : List (Pair R)}
    (hfirst : parse first input = some (pairs, rest))
    (hsecond : parse second rest = some (more, rest')) :
    parse (.seq first second) input = some (pairs ++ more, rest') := by
  simp [hfirst, hsecond]

/-- A sequence fails with its second part once the first has read its share. -/
theorem parse_seq_eq_none
    (hfirst : parse first input = some (pairs, rest))
    (hsecond : parse second rest = none) :
    parse (.seq first second) input = none := by
  simp [hfirst, hsecond]

theorem parse_seq_eq_none_of_first
    (hfirst : parse first input = none) :
    parse (.seq first second) input = none := by
  simp [hfirst]

theorem parse_choice_left
    (h : parse first input = some (pairs, rest)) :
    parse (.choice first second) input = some (pairs, rest) := by
  simp [h]

theorem parse_choice_right
    (h : parse first input = none) :
    parse (.choice first second) input = parse second input := by
  simp [h]

theorem parse_optional_present
    (h : parse e input = some (pairs, rest)) :
    parse (.optional e) input = some (pairs, rest) := by
  simp [h]

theorem parse_optional_absent
    (h : parse e input = none) :
    parse (.optional e) input = some ([], input) := by
  simp [h]

theorem parse_node
    {rule : R}
    (h : parse e (t ++ rest) = some (pairs, rest)) :
    parse (.node rule e) (t ++ rest) = some ([⟨rule, t, pairs⟩], rest) := by
  simp [h]

theorem parse_node_eq_none
    {rule : R}
    (h : parse e input = none) :
    parse (.node rule e) input = none := by
  simp [h]

theorem parse_atom
    {rule : R}
    (h : ∃ inner, parse e (t ++ rest) = some (inner, rest)) :
    parse (.atom rule e) (t ++ rest) = some ([⟨rule, t, []⟩], rest) := by
  obtain ⟨inner, h⟩ := h
  simp [h]

theorem parse_atom_eq_none
    {rule : R}
    (h : parse e input = none) :
    parse (.atom rule e) input = none := by
  simp [h]

/-- The expression reads one character of a class, and leaves no pair. -/
structure ReadsOne (e : Expr R) (p : Char → Bool) : Prop where
  nil : parse e [] = none
  cons : ∀ c rest, parse e (c :: rest) = if p c then some ([], rest) else none

theorem ReadsOne.charClass (p : Char → Bool) : ReadsOne (R := R) (.charClass p) p :=
  ⟨rfl, fun _ _ => rfl⟩

theorem ReadsOne.literal
    {text : String} {c : Char}
    (htext : text.toList = [c]) :
    ReadsOne (R := R) (.literal text) (· == c) := by
  constructor
  · simp [htext]
  · intro c' rest
    by_cases hc : c' = c
    · simp [htext, hc]
    · simp [htext, hc, Ne.symm hc]

theorem ReadsOne.choice
    {p p' : Char → Bool}
    (h : ReadsOne first p)
    (h' : ReadsOne second p') :
    ReadsOne (.choice first second) (fun c => p c || p' c) := by
  constructor
  · simp [h.nil, h'.nil]
  · intro c rest
    by_cases hc : p c = true
    · simp [h.cons, hc]
    · simp [h.cons, h'.cons, hc]

/-- The rest of an input does not go on with a character of the class. -/
def Stops (p : Char → Bool) (rest : List Char) : Prop :=
  ∀ c rest', rest = c :: rest' → p c = false

theorem ReadsOne.repeated_eq
    {p : Char → Bool}
    (h : ReadsOne e p)
    (ht : ∀ c ∈ t, p c = true)
    (hrest : Stops p rest)
    {fuel : Nat}
    (hfuel : t.length ≤ fuel) :
    repeated (parse e) fuel (t ++ rest) = ([], rest) := by
  induction t generalizing fuel with
  | nil =>
      cases fuel with
      | zero =>
          rfl
      | succ fuel =>
          cases rest with
          | nil =>
              simp [h.nil]
          | cons c rest =>
              simp [h.cons, hrest c rest rfl]
  | cons c t ih =>
      cases fuel with
      | zero =>
          simp at hfuel
      | succ fuel =>
          have hmore := ih (fun c' hc' => ht c' (List.mem_cons_of_mem c hc'))
            (Nat.le_of_succ_le_succ hfuel)
          simp [h.cons, ht c List.mem_cons_self, hmore]

/-- A repeated class reads the longest run of its characters. -/
theorem ReadsOne.parse_many
    {p : Char → Bool}
    (h : ReadsOne e p)
    (ht : ∀ c ∈ t, p c = true)
    (hne : t ≠ [])
    (hrest : Stops p rest) :
    parse (.many e) (t ++ rest) = some ([], rest) := by
  obtain ⟨c, t, rfl⟩ := List.exists_cons_of_ne_nil hne
  have hmore := h.repeated_eq (fun c' hc' => ht c' (List.mem_cons_of_mem c hc')) hrest
    (show t.length ≤ (t ++ rest).length by simp)
  simp only [List.cons_append, parse, h.cons, ht c List.mem_cons_self, if_true, hmore,
    List.append_nil]

theorem ReadsOne.parse_many_eq_none
    {p : Char → Bool}
    (h : ReadsOne e p)
    (hstop : Stops p input) :
    parse (.many e) input = none := by
  cases input with
  | nil =>
      simp [h.nil]
  | cons c rest =>
      simp [h.cons, hstop c rest rfl]

/-- What a repeated class derives. -/
theorem Derives.many_cases
    {p : Char → Bool}
    (h : Derives (.many e) t pairs)
    (hone : ∀ t ps, Derives e t ps → ps = [] ∧ ∃ c, t = [c] ∧ p c = true) :
    pairs = [] ∧ t ≠ [] ∧ ∀ c ∈ t, p c = true := by
  generalize hmany : Expr.many e = e' at h
  induction h with
  | once h =>
      cases hmany
      obtain ⟨rfl, c, rfl, hc⟩ := hone _ _ h
      simp [hc]
  | more h h' _ ih =>
      cases hmany
      obtain ⟨rfl, c, rfl, hc⟩ := hone _ _ h
      obtain ⟨rfl, _, hall⟩ := ih rfl
      simpa [hc] using hall
  | literal | charClass | seq | left | right | absent | present | node | atom | endOfInput =>
      cases hmany

end Expressions

end Peg
