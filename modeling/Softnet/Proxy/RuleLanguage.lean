import Softnet.Lib.Fallible
import Softnet.Proxy.RuleSyntax

/-!
# The rule language

`Denotes` says what texts are rules, and which rules they are: a target, or a
direction with an optional protocol, target and destination port, in this order and
set apart by spaces.  `fromStr_iff_denotes` says that the parser accepts exactly these
texts, returns the rule they denote, and never panics.

The grammar is settled first.  `Body` is what it reads: a parse derives a body, since
every parse can be read so, and every body is found by the parse, since no optional
part can be mistaken for another one and every run of spaces, digits or target
characters ends where its part ends.
-/

namespace Softnet

open Peg

section Language

/-! ## What a rule is -/

/-- One or more spaces. -/
def blanks (n : Nat) : List Char :=
  List.replicate (n + 1) ' '

/-- An optional part: nothing, or spaces and a text of this shape. -/
inductive Part {α : Type} (shape : List Char → α → Prop) : List Char → Option α → Prop
  | absent : Part shape [] none
  | present
      {n : Nat} {text : List Char} {value : α}
      (h : shape text value) :
      Part shape (blanks n ++ text) (some value)

/-- A keyword, spaces and a text of this shape. -/
inductive Keyword {α : Type} (word : String) (shape : List Char → α → Prop) :
    List Char → α → Prop
  | mk
      {n : Nat} {text : List Char} {value : α}
      (h : shape text value) :
      Keyword word shape (word.toList ++ (blanks n ++ text)) value

/-- The name of a protocol. -/
def IsProtocol (text : List Char) (protocol : Protocol) : Prop :=
  text = protocol.text.toList

/-- Digits, dots and slashes. -/
def isTargetChar (c : Char) : Bool :=
  c.isDigit || (c == '.' || c == '/')

inductive IsTarget (reader : RuleReader) : List Char → Target → Prop
  | host : IsTarget reader "@host".toList .host
  | peers : IsTarget reader "@peers".toList .peers
  | net
      {text : List Char} {net : Ipv4Net}
      (nonempty : text ≠ [])
      (chars : ∀ c ∈ text, isTargetChar c = true)
      (accepted : reader.netFromStr (String.ofList text) = .ok net) :
      IsTarget reader text (.netPrefix net)

/-- A run of digits; leading zeros are allowed. -/
def IsDigits (text : List Char) : Prop :=
  text ≠ [] ∧ ∀ c ∈ text, c.isDigit = true

/-- A run of digits with the value of this port. -/
def IsPort (text : List Char) (port : UInt16) : Prop :=
  IsDigits text ∧ Nat.ofDigitChars 10 text 0 = port.toNat

/-- A port or two with a colon; that the bounds are in order is part of `PortRange`. -/
inductive IsPortRange : List Char → PortRange → Prop
  | single
      {text : List Char} {range : PortRange}
      (port : IsPort text range.first)
      (same : range.last = range.first) :
      IsPortRange text range
  | span
      {low high : List Char} {range : PortRange}
      (first : IsPort low range.first)
      (last : IsPort high range.last) :
      IsPortRange (low ++ ':' :: high) range

/-- The text is a rule, and means this one. -/
inductive Denotes (reader : RuleReader) : List Char → Rule → Prop
  | bare
      {text : List Char} {target : Target}
      (h : IsTarget reader text target) :
      Denotes reader text (.stateless target)
  | directional
      {direction : Direction} {protocol : Option Protocol} {target : Option Target}
      {range : Option PortRange} {protocolText targetText portText : List Char}
      (protocolPart : Part (Keyword "proto" IsProtocol) protocolText protocol)
      (targetPart : Part (IsTarget reader) targetText target)
      (portPart : Part (Keyword "port" IsPortRange) portText range)
      (transport : range = none ∨ protocol = some .tcp ∨ protocol = some .udp) :
      Denotes reader (direction.text.toList ++ (protocolText ++ (targetText ++ portText)))
        (.stateful direction (target.getD Rule.defaultTarget) ⟨protocol, range⟩)

/-! ## What the grammar reads -/

def TargetShape (text : List Char) : Prop :=
  text = "@host".toList ∨ text = "@peers".toList ∨
    text ≠ [] ∧ ∀ c ∈ text, isTargetChar c = true

inductive PortShape : List Char → Prop
  | single {text : List Char} (h : IsDigits text) : PortShape text
  | span
      {low high : List Char}
      (hlow : IsDigits low)
      (hhigh : IsDigits high) :
      PortShape (low ++ ':' :: high)

/-- A text of this shape, as it stands. -/
def Verbatim (shape : List Char → Prop) (text value : List Char) : Prop :=
  value = text ∧ shape text

/-- The pairs inside a directional rule. -/
def fieldPairs
    (direction : Direction)
    (protocol : Option Protocol)
    (target port : Option (List Char)) :
    List (Pair SyntaxRule) :=
  [⟨.direction, direction.text.toList, []⟩] ++
    (protocol.toList.map (fun protocol => ⟨.protocolName, protocol.text.toList, []⟩) ++
      (target.toList.map (fun text => ⟨.target, text, []⟩) ++
        port.toList.map (fun text => ⟨.destinationPort, text, []⟩)))

/-- The pair that a rule leaves. -/
inductive Body : List Char → Pair SyntaxRule → Prop
  | target {text : List Char} (h : TargetShape text) : Body text ⟨.target, text, []⟩
  | stateful
      {direction : Direction} {protocol : Option Protocol} {target port : Option (List Char)}
      {protocolText targetText portText : List Char}
      (protocolPart : Part (Keyword "proto" IsProtocol) protocolText protocol)
      (targetPart : Part (Verbatim TargetShape) targetText target)
      (portPart : Part (Keyword "port" (Verbatim PortShape)) portText port) :
      Body (direction.text.toList ++ (protocolText ++ (targetText ++ portText)))
        ⟨.stateful, direction.text.toList ++ (protocolText ++ (targetText ++ portText)),
          fieldPairs direction protocol target port⟩

end Language

/-! ## Every parse leaves a body -/

section Reading

variable {t : List Char}
variable {ps : List (Pair SyntaxRule)}

theorem eq_blanks
    (hne : t ≠ [])
    (hall : ∀ c ∈ t, (c == ' ') = true) :
    ∃ n, t = blanks n := by
  obtain ⟨c, t, rfl⟩ := List.exists_cons_of_ne_nil hne
  refine ⟨t.length, List.eq_replicate_iff.mpr ⟨rfl, ?_⟩⟩
  simpa using hall

theorem derives_spaces (h : Derives Grammar.spaces t ps) : ps = [] ∧ ∃ n, t = blanks n := by
  obtain ⟨rfl, hne, hall⟩ := h.many_cases (p := (· == ' ')) fun t ps h => by
    cases h
    exact ⟨rfl, ' ', rfl, rfl⟩
  exact ⟨rfl, eq_blanks hne hall⟩

theorem derives_digits
    (h : Derives (.many Grammar.asciiDigit) t ps) :
    ps = [] ∧ IsDigits t := by
  obtain ⟨rfl, hne, hall⟩ := h.many_cases (p := Char.isDigit) fun t ps h => by
    cases h with
    | charClass hc => exact ⟨rfl, _, rfl, hc⟩
  exact ⟨rfl, hne, hall⟩

theorem derives_direction
    (h : Derives Grammar.direction t ps) :
    ∃ direction : Direction,
      t = direction.text.toList ∧ ps = [⟨.direction, direction.text.toList, []⟩] := by
  cases h with
  | node h =>
      cases h with
      | left h =>
          cases h
          exact ⟨.inbound, rfl, rfl⟩
      | right h =>
          cases h
          exact ⟨.outbound, rfl, rfl⟩

theorem derives_protocolName
    (h : Derives Grammar.protocolName t ps) :
    ∃ protocol : Protocol,
      t = protocol.text.toList ∧ ps = [⟨.protocolName, protocol.text.toList, []⟩] := by
  cases h with
  | node h =>
      cases h with
      | left h =>
          cases h
          exact ⟨.tcp, rfl, rfl⟩
      | right h =>
          cases h with
          | left h =>
              cases h
              exact ⟨.udp, rfl, rfl⟩
          | right h =>
              cases h
              exact ⟨.icmp, rfl, rfl⟩

theorem derives_target
    (h : Derives Grammar.target t ps) :
    TargetShape t ∧ ps = [⟨.target, t, []⟩] := by
  cases h with
  | atom h =>
      refine ⟨?_, rfl⟩
      cases h with
      | left h =>
          cases h
          exact .inl rfl
      | right h =>
          cases h with
          | left h =>
              cases h
              exact .inr (.inl rfl)
          | right h =>
              obtain ⟨_, hne, hall⟩ := h.many_cases (p := isTargetChar) fun t ps h => by
                cases h with
                | left h =>
                    cases h with
                    | charClass hc => exact ⟨rfl, _, rfl, by simp [isTargetChar, hc]⟩
                | right h =>
                    cases h with
                    | left h =>
                        cases h
                        exact ⟨rfl, '.', rfl, rfl⟩
                    | right h =>
                        cases h
                        exact ⟨rfl, '/', rfl, rfl⟩
              exact .inr (.inr ⟨hne, hall⟩)

theorem derives_destinationPort
    (h : Derives Grammar.destinationPort t ps) :
    PortShape t ∧ ps = [⟨.destinationPort, t, []⟩] := by
  cases h with
  | atom h =>
      refine ⟨?_, rfl⟩
      cases h with
      | seq hlow hmore =>
          obtain ⟨_, hlow⟩ := derives_digits hlow
          cases hmore with
          | absent =>
              rw [List.append_nil]
              exact .single hlow
          | present hmore =>
              cases hmore with
              | seq hcolon hhigh =>
                  cases hcolon
                  exact .span hlow (derives_digits hhigh).2

/-- A keyword and what it governs. -/
theorem derives_keyword
    {α : Type} {word : String} {e : Expr SyntaxRule} {S : List Char → α → Prop}
    {pairs : α → List (Pair SyntaxRule)}
    (h : Derives (.seq (.literal word) (.seq Grammar.spaces e)) t ps)
    (he : ∀ t ps, Derives e t ps → ∃ value, S t value ∧ ps = pairs value) :
    ∃ value, Keyword word S t value ∧ ps = pairs value := by
  cases h with
  | seq hword hrest =>
      cases hword
      cases hrest with
      | seq hspaces he' =>
          obtain ⟨rfl, n, rfl⟩ := derives_spaces hspaces
          obtain ⟨value, hshape, rfl⟩ := he _ _ he'
          exact ⟨value, .mk hshape, rfl⟩

/-- An optional part of a rule. -/
theorem derives_part
    {α : Type} {e : Expr SyntaxRule} {S : List Char → α → Prop}
    {pair : α → Pair SyntaxRule}
    (h : Derives (.optional (.seq Grammar.spaces e)) t ps)
    (he : ∀ t ps, Derives e t ps → ∃ value, S t value ∧ ps = [pair value]) :
    ∃ value, Part S t value ∧ ps = value.toList.map pair := by
  cases h with
  | absent => exact ⟨none, .absent, rfl⟩
  | present h =>
      cases h with
      | seq hspaces he' =>
          obtain ⟨rfl, n, rfl⟩ := derives_spaces hspaces
          obtain ⟨value, hshape, rfl⟩ := he _ _ he'
          exact ⟨some value, .present hshape, rfl⟩

theorem derives_stateful
    (h : Derives Grammar.stateful t ps) :
    ∃ body, Body t body ∧ ps = [body] := by
  cases h with
  | node h =>
      cases h with
      | seq hdirection h =>
          cases h with
          | seq hprotocol h =>
              cases h with
              | seq htarget hport =>
                  obtain ⟨direction, rfl, rfl⟩ := derives_direction hdirection
                  obtain ⟨protocol, protocolPart, rfl⟩ :=
                    derives_part hprotocol fun _ _ h =>
                      derives_keyword (S := IsProtocol) h fun _ _ => derives_protocolName
                  obtain ⟨target, targetPart, rfl⟩ :=
                    derives_part (S := Verbatim TargetShape) htarget fun t _ h =>
                      ⟨t, ⟨rfl, (derives_target h).1⟩, (derives_target h).2⟩
                  obtain ⟨port, portPart, rfl⟩ :=
                    derives_part hport fun _ _ h =>
                      derives_keyword (S := Verbatim PortShape) h fun t _ h =>
                        ⟨t, ⟨rfl, (derives_destinationPort h).1⟩, (derives_destinationPort h).2⟩
                  exact ⟨_, .stateful protocolPart targetPart portPart, rfl⟩

/-- A parse reads all of a body. -/
theorem body_of_parse
    {text rest : List Char} {pairs : List (Pair SyntaxRule)}
    (h : parse Grammar.rule text = some (pairs, rest)) :
    ∃ body, Body text body ∧ pairs = [body, ⟨.EOI, [], []⟩] ∧ rest = [] := by
  have hrest : rest = [] := by
    unfold Grammar.rule at h
    rw [parse] at h
    split at h
    · cases h
    · simp only [parse] at h
      split at h
      · cases h
      · next heof =>
          cases h
          simp only [Option.ite_none_right_eq_some, Option.some.injEq, Prod.mk.injEq] at heof
          exact heof.2.2.symm
  obtain ⟨t, rfl, hderives⟩ := derives_of_parse h
  subst hrest
  cases hderives with
  | seq hbody heof =>
      cases heof
      rw [List.append_nil, List.append_nil]
      cases hbody with
      | left h =>
          obtain ⟨body, hbody, rfl⟩ := derives_stateful h
          exact ⟨body, hbody, rfl, rfl⟩
      | right h =>
          obtain ⟨hshape, rfl⟩ := derives_target h
          exact ⟨_, .target hshape, rfl, rfl⟩

end Reading

/-! ## Every body is found -/

section Finding

variable {t rest text : List Char}

theorem readsOne_space : ReadsOne (R := SyntaxRule) (.literal " ") (· == ' ') :=
  .literal rfl

theorem readsOne_targetChar :
    ReadsOne (R := SyntaxRule)
      (.choice Grammar.asciiDigit (.choice (.literal ".") (.literal "/"))) isTargetChar :=
  .choice (.charClass _) (.choice (.literal rfl) (.literal rfl))

theorem stops_nil (p : Char → Bool) : Stops p [] :=
  nofun

theorem stops_cons
    {p : Char → Bool} {c : Char}
    (hc : p c = false)
    (rest : List Char) :
    Stops p (c :: rest) := by
  rintro _ _ ⟨⟩
  exact hc

theorem parse_spaces
    (n : Nat)
    (hrest : Stops (· == ' ') rest) :
    parse Grammar.spaces (blanks n ++ rest) = some ([], rest) := by
  refine readsOne_space.parse_many ?_ (by simp [blanks]) hrest
  intro c hc
  simp [List.eq_of_mem_replicate hc]

/-- Spaces that are not there. -/
theorem parse_spaced_eq_none
    {e : Expr SyntaxRule}
    (h : Stops (· == ' ') rest) :
    parse (.seq Grammar.spaces e) rest = none :=
  parse_seq_eq_none_of_first (readsOne_space.parse_many_eq_none h)

theorem parse_keyword
    {α : Type} {word : String} {e : Expr SyntaxRule} {S : List Char → α → Prop} {value : α}
    {pairs : List (Pair SyntaxRule)}
    (h : Keyword word S t value)
    (he : ∀ text, S text value →
      Stops (· == ' ') (text ++ rest) ∧ parse e (text ++ rest) = some (pairs, rest)) :
    parse (.seq (.literal word) (.seq Grammar.spaces e)) (t ++ rest) = some (pairs, rest) := by
  cases h with
  | @mk n text _ hshape =>
      obtain ⟨hstop, hparse⟩ := he text hshape
      rw [List.append_assoc, List.append_assoc]
      exact parse_seq (parse_literal word _) (parse_seq (parse_spaces n hstop) hparse)

/-- An optional part is found if nothing else can be taken for it. -/
theorem parse_part
    {α : Type} {e : Expr SyntaxRule} {S : List Char → α → Prop} {value : Option α}
    {pair : α → Pair SyntaxRule}
    (h : Part S t value)
    (hpresent : ∀ text value, S text value →
      Stops (· == ' ') (text ++ rest) ∧ parse e (text ++ rest) = some ([pair value], rest))
    (habsent : parse (.seq Grammar.spaces e) rest = none) :
    parse (.optional (.seq Grammar.spaces e)) (t ++ rest) =
      some (value.toList.map pair, rest) := by
  cases h with
  | absent => exact parse_optional_absent habsent
  | @present n text value hshape =>
      obtain ⟨hstop, hparse⟩ := hpresent text value hshape
      rw [List.append_assoc]
      exact parse_optional_present (parse_seq (parse_spaces n hstop) hparse)

/-- A part is not taken for another one that it does not begin like. -/
theorem parse_other_part_eq_none
    {α : Type} {e : Expr SyntaxRule} {S : List Char → α → Prop} {value : Option α}
    (h : Part S t value)
    (hpresent : ∀ text value, S text value →
      Stops (· == ' ') (text ++ rest) ∧ parse e (text ++ rest) = none)
    (habsent : parse (.seq Grammar.spaces e) rest = none) :
    parse (.seq Grammar.spaces e) (t ++ rest) = none := by
  cases h with
  | absent => exact habsent
  | @present n text value hshape =>
      obtain ⟨hstop, hparse⟩ := hpresent text value hshape
      rw [List.append_assoc]
      exact parse_seq_eq_none (parse_spaces n hstop) hparse

/-- How a target begins. -/
theorem TargetShape.exists_cons
    (h : TargetShape text) :
    ∃ c text', text = c :: text' ∧ (c = '@' ∨ isTargetChar c = true) := by
  rcases h with rfl | rfl | ⟨hne, hall⟩
  · exact ⟨'@', _, rfl, .inl rfl⟩
  · exact ⟨'@', _, rfl, .inl rfl⟩
  · obtain ⟨c, text, rfl⟩ := List.exists_cons_of_ne_nil hne
    exact ⟨c, text, rfl, .inr (hall c List.mem_cons_self)⟩

/-- A target does not begin with anything else. -/
theorem TargetShape.ne_of_cons
    {c other : Char}
    (h : TargetShape (c :: text))
    (hother : other ≠ '@')
    (hchar : isTargetChar other = false) :
    other ≠ c := by
  obtain ⟨_, _, hcons, hc⟩ := h.exists_cons
  obtain ⟨rfl, _⟩ := List.cons.inj hcons
  rintro rfl
  rcases hc with hat | hclass
  · exact hother hat
  · exact absurd hclass (by simp [hchar])

theorem TargetShape.stops_space
    (h : TargetShape text)
    (rest : List Char) :
    Stops (· == ' ') (text ++ rest) := by
  obtain ⟨c, text, rfl, _⟩ := h.exists_cons
  exact stops_cons (by simpa using (h.ne_of_cons (by decide) (by decide)).symm) _

/-- A literal that begins otherwise is not found at a target. -/
theorem TargetShape.parse_literal_eq_none
    {word : String} {c : Char} {word' : List Char}
    (h : TargetShape text)
    (hword : word.toList = c :: word')
    (hc : c ≠ '@')
    (hchar : isTargetChar c = false)
    (rest : List Char) :
    parse (R := SyntaxRule) (.literal word) (text ++ rest) = none := by
  obtain ⟨c', text, rfl, _⟩ := h.exists_cons
  refine Peg.parse_literal_eq_none ?_
  rw [hword, List.cons_append, List.cons_prefix_cons]
  exact fun hprefix => h.ne_of_cons hc hchar hprefix.1

theorem parse_target
    (h : TargetShape text)
    (hstop : Stops isTargetChar rest) :
    parse Grammar.target (text ++ rest) = some ([⟨.target, text, []⟩], rest) := by
  refine parse_atom ⟨[], ?_⟩
  rcases h with rfl | rfl | ⟨hne, hall⟩
  · exact parse_choice_left (parse_literal "@host" rest)
  · rw [parse_choice_right (Peg.parse_literal_eq_none (by simp))]
    exact parse_choice_left (parse_literal "@peers" rest)
  · have hat : ∀ (word : String) (word' : List Char), word.toList = '@' :: word' →
        ¬ word.toList <+: text ++ rest := by
      obtain ⟨c, text, rfl⟩ := List.exists_cons_of_ne_nil hne
      intro word word' hword hprefix
      rw [hword] at hprefix
      obtain ⟨rfl, _⟩ := List.cons_prefix_cons.mp hprefix
      exact absurd (hall '@' List.mem_cons_self) (by decide)
    rw [parse_choice_right (Peg.parse_literal_eq_none (hat _ _ rfl)),
      parse_choice_right (Peg.parse_literal_eq_none (hat _ _ rfl))]
    exact readsOne_targetChar.parse_many hall hne hstop

theorem parse_digits
    (h : IsDigits text)
    (hstop : Stops Char.isDigit rest) :
    parse (.many Grammar.asciiDigit) (text ++ rest) = some ([], rest) :=
  (ReadsOne.charClass _).parse_many h.2 h.1 hstop

theorem parse_destinationPort
    (h : PortShape text) :
    parse Grammar.destinationPort (text ++ []) = some ([⟨.destinationPort, text, []⟩], []) := by
  cases h with
  | single hdigits =>
      have hnone : parse (R := SyntaxRule) (.literal ":") [] = none :=
        Peg.parse_literal_eq_none (by simp)
      exact parse_atom ⟨_, parse_seq (parse_digits hdigits (stops_nil _))
        (parse_optional_absent (parse_seq_eq_none_of_first hnone))⟩
  | @span low high hlow hhigh =>
      have hcolon : Stops Char.isDigit (':' :: high) := stops_cons (by decide) _
      have hmore : parse (.many Grammar.asciiDigit) high = some ([], []) := by
        simpa using parse_digits hhigh (stops_nil _)
      refine parse_atom ⟨[], ?_⟩
      rw [List.append_nil]
      exact parse_seq (parse_digits hlow hcolon)
        (parse_optional_present (parse_seq (parse_literal ":" high) hmore))

theorem PortShape.stops_space
    (h : PortShape text) :
    Stops (· == ' ') (text ++ []) := by
  have hdigits : ∀ digits more, IsDigits digits → Stops (· == ' ') (digits ++ more) := by
    rintro digits more ⟨hne, hall⟩
    obtain ⟨c, digits, rfl⟩ := List.exists_cons_of_ne_nil hne
    rintro _ _ ⟨⟩
    rw [beq_eq_false_iff_ne]
    rintro rfl
    exact absurd (hall ' ' List.mem_cons_self) (by decide)
  cases h with
  | single h => exact hdigits _ _ h
  | span hlow =>
      rw [List.append_assoc]
      exact hdigits _ _ hlow

theorem letters_proto : "proto".toList = ['p', 'r', 'o', 't', 'o'] :=
  rfl

theorem letters_port : "port".toList = ['p', 'o', 'r', 't'] :=
  rfl

/-- What a keyword part begins with. -/
theorem Keyword.exists_append
    {α : Type} {word : String} {S : List Char → α → Prop} {value : α} {letters : List Char}
    (h : Keyword word S text value)
    (hword : word.toList = letters)
    (rest : List Char) :
    ∃ more, text ++ rest = letters ++ more := by
  cases h
  exact ⟨_, by rw [hword, List.append_assoc]⟩

theorem parse_direction
    (direction : Direction)
    (rest : List Char) :
    parse Grammar.direction (direction.text.toList ++ rest) =
      some ([⟨.direction, direction.text.toList, []⟩], rest) := by
  refine parse_node ?_
  cases direction with
  | inbound => exact parse_choice_left (parse_literal "in" rest)
  | outbound =>
      rw [parse_choice_right (Peg.parse_literal_eq_none (by simp [Direction.text]))]
      exact parse_literal "out" rest

theorem parse_protocolName
    (protocol : Protocol)
    (rest : List Char) :
    parse Grammar.protocolName (protocol.text.toList ++ rest) =
      some ([⟨.protocolName, protocol.text.toList, []⟩], rest) := by
  refine parse_node ?_
  cases protocol with
  | tcp => exact parse_choice_left (parse_literal "tcp" rest)
  | udp =>
      rw [parse_choice_right (Peg.parse_literal_eq_none (by simp [Protocol.text]))]
      exact parse_choice_left (parse_literal "udp" rest)
  | icmp =>
      rw [parse_choice_right (Peg.parse_literal_eq_none (by simp [Protocol.text])),
        parse_choice_right (Peg.parse_literal_eq_none (by simp [Protocol.text]))]
      exact parse_literal "icmp" rest

theorem parse_protocolPart
    {protocol : Option Protocol}
    (h : Part (Keyword "proto" IsProtocol) t protocol)
    (habsent : parse (.seq Grammar.spaces Grammar.protocol) rest = none) :
    parse (.optional (.seq Grammar.spaces Grammar.protocol)) (t ++ rest) =
      some (protocol.toList.map fun protocol =>
        ⟨.protocolName, protocol.text.toList, []⟩, rest) := by
  refine parse_part h (fun text protocol hword => ?_) habsent
  obtain ⟨more, hmore⟩ := hword.exists_append letters_proto rest
  refine ⟨hmore ▸ stops_cons (by decide) _, parse_keyword hword ?_⟩
  rintro _ rfl
  refine ⟨?_, parse_protocolName protocol rest⟩
  cases protocol <;> exact stops_cons (by decide) _

theorem parse_targetPart
    {target : Option (List Char)}
    (h : Part (Verbatim TargetShape) t target)
    (hstop : Stops isTargetChar rest)
    (habsent : parse (.seq Grammar.spaces Grammar.target) rest = none) :
    parse (.optional (.seq Grammar.spaces Grammar.target)) (t ++ rest) =
      some (target.toList.map fun text => ⟨.target, text, []⟩, rest) := by
  refine parse_part h ?_ habsent
  rintro text _ ⟨rfl, hshape⟩
  exact ⟨hshape.stops_space rest, parse_target hshape hstop⟩

theorem parse_portPart
    {port : Option (List Char)}
    (h : Part (Keyword "port" (Verbatim PortShape)) t port) :
    parse (.optional (.seq Grammar.spaces Grammar.port)) (t ++ []) =
      some (port.toList.map fun text => ⟨.destinationPort, text, []⟩, []) := by
  refine parse_part h (fun text port hword => ?_) (parse_spaced_eq_none (stops_nil _))
  obtain ⟨more, hmore⟩ := hword.exists_append letters_port []
  refine ⟨hmore ▸ stops_cons (by decide) _, parse_keyword hword ?_⟩
  rintro text ⟨rfl, hshape⟩
  exact ⟨hshape.stops_space, parse_destinationPort hshape⟩

/-- A port is not taken for a target. -/
theorem parse_target_eq_none_of_port
    {port : Option (List Char)}
    (h : Part (Keyword "port" (Verbatim PortShape)) t port) :
    parse (.seq Grammar.spaces Grammar.target) (t ++ []) = none := by
  refine parse_other_part_eq_none h (fun text port hword => ?_)
    (parse_spaced_eq_none (stops_nil _))
  obtain ⟨more, hmore⟩ := hword.exists_append letters_port []
  rw [hmore]
  refine ⟨stops_cons (by decide) _, parse_atom_eq_none ?_⟩
  rw [parse_choice_right (Peg.parse_literal_eq_none (by simp)),
    parse_choice_right (Peg.parse_literal_eq_none (by simp))]
  exact readsOne_targetChar.parse_many_eq_none (stops_cons (by decide) _)

/-- Neither a target nor a port is taken for a protocol. -/
theorem parse_protocol_eq_none
    {target port : Option (List Char)} {t' : List Char}
    (htarget : Part (Verbatim TargetShape) t target)
    (hport : Part (Keyword "port" (Verbatim PortShape)) t' port) :
    parse (.seq Grammar.spaces Grammar.protocol) (t ++ (t' ++ [])) = none := by
  refine parse_other_part_eq_none htarget ?_ ?_
  · rintro text _ ⟨rfl, hshape⟩
    exact ⟨hshape.stops_space _, parse_seq_eq_none_of_first
      (hshape.parse_literal_eq_none rfl (by decide) (by decide) _)⟩
  · refine parse_other_part_eq_none hport (fun text port hword => ?_)
      (parse_spaced_eq_none (stops_nil _))
    obtain ⟨more, hmore⟩ := hword.exists_append letters_port []
    rw [hmore]
    exact ⟨stops_cons (by decide) _,
      parse_seq_eq_none_of_first (Peg.parse_literal_eq_none (by simp))⟩

/-- The run of target characters ends before a port. -/
theorem stops_targetChar_of_port
    {port : Option (List Char)}
    (h : Part (Keyword "port" (Verbatim PortShape)) t port) :
    Stops isTargetChar (t ++ []) := by
  cases h with
  | absent => exact stops_nil _
  | present => exact stops_cons (by decide) _

theorem parse_of_body
    {body : Pair SyntaxRule}
    (h : Body text body) :
    parse Grammar.rule text = some ([body, ⟨.EOI, [], []⟩], []) := by
  suffices parse (.choice Grammar.stateful Grammar.target) (text ++ []) = some ([body], []) by
    rw [List.append_nil] at this
    exact parse_seq this rfl
  cases h with
  | target hshape =>
      rw [parse_choice_right]
      · exact parse_target hshape (stops_nil _)
      · refine parse_node_eq_none (parse_seq_eq_none_of_first (parse_node_eq_none ?_))
        rw [parse_choice_right (hshape.parse_literal_eq_none rfl (by decide) (by decide) [])]
        exact hshape.parse_literal_eq_none rfl (by decide) (by decide) []
  | @stateful direction _ _ _ _ _ _ protocolPart targetPart portPart =>
      refine parse_choice_left (parse_node ?_)
      simp only [List.append_assoc]
      refine parse_seq (parse_direction direction _) ?_
      refine parse_seq
        (parse_protocolPart protocolPart (parse_protocol_eq_none targetPart portPart)) ?_
      refine parse_seq
        (parse_targetPart targetPart (stops_targetChar_of_port portPart)
          (parse_target_eq_none_of_port portPart)) ?_
      exact parse_portPart portPart

/-- The grammar reads bodies, and nothing else. -/
theorem parse_rule_iff
    {rest : List Char} {pairs : List (Pair SyntaxRule)} :
    parse Grammar.rule text = some (pairs, rest) ↔
      ∃ body, Body text body ∧ pairs = [body, ⟨.EOI, [], []⟩] ∧ rest = [] := by
  constructor
  · exact body_of_parse
  · rintro ⟨body, hbody, rfl, rfl⟩
    exact parse_of_body hbody

end Finding

/-! ## What the fields of a body mean -/

section Ports

variable {text : List Char}

theorem le_ofDigitChars
    (digits : List Char)
    (value : Nat) :
    value ≤ Nat.ofDigitChars 10 digits value := by
  induction digits generalizing value with
  | nil =>
      simp
  | cons c digits ih =>
      rw [Nat.ofDigitChars_cons]
      have := ih (10 * value + (c.toNat - '0'.toNat))
      omega

theorem parseDigits_eq_ok_iff
    {digits : List Char} {value : Nat} {port : UInt16}
    (hvalue : value < UInt16.size) :
    parseDigits value digits = .ok port ↔
      (∀ c ∈ digits, c.isDigit = true) ∧ Nat.ofDigitChars 10 digits value = port.toNat := by
  induction digits generalizing value with
  | nil =>
      simp only [parseDigits, Except.ok.injEq, List.not_mem_nil, false_imp_iff, implies_true,
        true_and, Nat.ofDigitChars_nil]
      constructor
      · rintro rfl
        exact (UInt16.toNat_ofNat_of_lt' hvalue).symm
      · rintro rfl
        exact UInt16.ofNat_toNat
  | cons c digits ih =>
      rw [parseDigits, Nat.ofDigitChars_cons]
      by_cases hc : c.isDigit = true
      · rw [if_pos hc]
        dsimp only
        by_cases hsize : 10 * value + (c.toNat - '0'.toNat) < UInt16.size
        · rw [if_pos hsize, ih hsize]
          simp [hc]
        · rw [if_neg hsize]
          have hle := le_ofDigitChars digits (10 * value + (c.toNat - '0'.toNat))
          have hport := port.toNat_lt_size
          refine iff_of_false nofun ?_
          rintro ⟨_, heq⟩
          omega
      · rw [if_neg hc]
        exact iff_of_false nofun fun h => hc (h.1 c List.mem_cons_self)

theorem parseU16_eq_ok_iff
    {port : UInt16}
    (hplus : '+' ∉ text) :
    parseU16 text = .ok port ↔ IsPort text port := by
  cases text with
  | nil => exact iff_of_false nofun fun h => h.1.1 rfl
  | cons c digits =>
      have hc : c ≠ '+' := by
        rintro rfl
        exact hplus List.mem_cons_self
      have hparse : parseU16 (c :: digits) = parseDigits 0 (c :: digits) := by
        unfold parseU16
        split <;> simp_all
      rw [hparse, parseDigits_eq_ok_iff (by decide)]
      simp [IsPort, IsDigits]

theorem splitOnce_append
    {separator : Char} {low high : List Char}
    (h : separator ∉ low) :
    splitOnce separator (low ++ separator :: high) = some (low, high) := by
  induction low with
  | nil =>
      simp [splitOnce]
  | cons c low ih =>
      rw [List.mem_cons, not_or] at h
      simp [splitOnce, Ne.symm h.1, ih h.2]

theorem splitOnce_of_notMem
    {separator : Char}
    (h : separator ∉ text) :
    splitOnce separator text = none := by
  induction text with
  | nil =>
      rfl
  | cons c text ih =>
      rw [List.mem_cons, not_or] at h
      simp [splitOnce, Ne.symm h.1, ih h.2]

theorem eq_append_of_splitOnce
    {separator : Char} {low high : List Char}
    (h : splitOnce separator text = some (low, high)) :
    text = low ++ separator :: high := by
  induction text generalizing low high with
  | nil =>
      cases h
  | cons c text ih =>
      rw [splitOnce] at h
      split at h
      · next hc =>
          cases h
          simp [hc]
      · obtain ⟨⟨low', high'⟩, hsplit, hparts⟩ := Option.map_eq_some_iff.mp h
        cases hparts
        simp [ih hsplit]

theorem PortRange.new_eq_ok_iff
    {first last : UInt16} {range : PortRange} :
    PortRange.new first last = .ok range ↔ range.first = first ∧ range.last = last := by
  constructor
  · intro h
    unfold PortRange.new at h
    split at h
    · split at h
      · cases h
        exact ⟨rfl, rfl⟩
      · cases h
    · cases h
  · rintro ⟨rfl, rfl⟩
    have hlast : range.last ≠ 0 := by
      have hfirst := range.first_ne_zero
      have hle := range.first_le_last
      rw [Ne, ← UInt16.toNat_inj] at hfirst ⊢
      rw [UInt16.le_iff_toNat_le] at hle
      simp only [UInt16.toNat_zero] at hfirst ⊢
      omega
    simp [PortRange.new, range.first_ne_zero, hlast, range.first_le_last]

theorem context_eq_ok_iff
    {α : Type} {message : String} {result : Except ErrorChain α} {value : α} :
    context message result = .ok value ↔ result = .ok value :=
  Except.mapError_eq_ok_iff

theorem IsDigits.notMem
    {c : Char}
    (h : IsDigits text)
    (hc : c.isDigit = false) :
    c ∉ text := by
  intro hmem
  rw [h.2 c hmem] at hc
  cases hc

/-- Two bounds that are read make a range that is read. -/
theorem PortRange.fromStr_eq_ok_of_bounds
    {low high : List Char} {range : PortRange}
    (reader : RuleReader)
    (hchars : text.all (fun c => c.isDigit || c == ':') = true)
    (hbounds : (splitOnce ':' text).getD (text, text) = (low, high)) :
    PortRange.fromStr reader (String.ofList text) = .ok range ↔
      IsPort low range.first ∧ IsPort high range.last := by
  have hplus : '+' ∉ text := by
    intro hmem
    have := List.all_eq_true.mp hchars '+' hmem
    cases this
  have hlow : '+' ∉ low ∧ '+' ∉ high := by
    cases hsplit : splitOnce ':' text with
    | none =>
        rw [hsplit] at hbounds
        cases hbounds
        exact ⟨hplus, hplus⟩
    | some bounds =>
        rw [hsplit] at hbounds
        cases hbounds
        rw [eq_append_of_splitOnce hsplit] at hplus
        simpa using hplus
  simp only [PortRange.fromStr, String.toList_ofList, hchars, if_true, hbounds,
    Except.bind_eq_ok_iff, context_eq_ok_iff, Except.mapError_eq_ok_iff,
    parseU16_eq_ok_iff hlow.1, parseU16_eq_ok_iff hlow.2, PortRange.new_eq_ok_iff]
  constructor
  · rintro ⟨first, hfirst, last, hlast, rfl, rfl⟩
    exact ⟨hfirst, hlast⟩
  · rintro ⟨hfirst, hlast⟩
    exact ⟨_, hfirst, _, hlast, rfl, rfl⟩

/-- The text of a port range is read as the range it denotes. -/
theorem PortRange.fromStr_eq_ok_iff
    {range : PortRange}
    (reader : RuleReader) :
    PortRange.fromStr reader (String.ofList text) = .ok range ↔ IsPortRange text range := by
  constructor
  · intro h
    have hchars : text.all (fun c => c.isDigit || c == ':') = true := by
      by_contra hbad
      simp [PortRange.fromStr, hbad] at h
    cases hsplit : splitOnce ':' text with
    | none =>
        have hbounds : (splitOnce ':' text).getD (text, text) = (text, text) := by
          rw [hsplit, Option.getD_none]
        rw [PortRange.fromStr_eq_ok_of_bounds reader hchars hbounds] at h
        refine .single h.1 (UInt16.toNat_inj.mp ?_)
        rw [← h.1.2, ← h.2.2]
    | some bounds =>
        have hbounds : (splitOnce ':' text).getD (text, text) = bounds := by
          rw [hsplit, Option.getD_some]
        rw [PortRange.fromStr_eq_ok_of_bounds reader hchars hbounds] at h
        rw [eq_append_of_splitOnce hsplit]
        exact .span h.1 h.2
  · intro h
    cases h with
    | single port same =>
        have hbounds : (splitOnce ':' text).getD (text, text) = (text, text) := by
          rw [splitOnce_of_notMem (port.1.notMem rfl), Option.getD_none]
        rw [PortRange.fromStr_eq_ok_of_bounds reader ?_ hbounds, same]
        · exact ⟨port, port⟩
        · exact List.all_eq_true.mpr fun c hc => by simp [port.1.2 c hc]
    | @span low high _ first last =>
        have hbounds : (splitOnce ':' (low ++ ':' :: high)).getD
            (low ++ ':' :: high, low ++ ':' :: high) = (low, high) := by
          rw [splitOnce_append (first.1.notMem rfl), Option.getD_some]
        rw [PortRange.fromStr_eq_ok_of_bounds reader ?_ hbounds]
        · exact ⟨first, last⟩
        · rw [List.all_append, List.all_cons, Bool.and_eq_true, Bool.and_eq_true]
          exact ⟨List.all_eq_true.mpr fun c hc => by simp [first.1.2 c hc], rfl,
            List.all_eq_true.mpr fun c hc => by simp [last.1.2 c hc]⟩

theorem IsPortRange.shape
    {range : PortRange}
    (h : IsPortRange text range) :
    PortShape text := by
  cases h with
  | single port => exact .single port.1
  | span first last => exact .span first.1 last.1

end Ports

section Meaning

variable {reader : RuleReader}
variable {text : List Char}

theorem IsTarget.shape
    {target : Target}
    (h : IsTarget reader text target) :
    TargetShape text := by
  cases h with
  | host => exact .inl rfl
  | peers => exact .inr (.inl rfl)
  | net nonempty chars => exact .inr (.inr ⟨nonempty, chars⟩)

/-- A target that is named is not read as a prefix. -/
theorem IsTarget.of_at
    {target : Target}
    (h : IsTarget reader ('@' :: text) target) :
    '@' :: text = "@host".toList ∧ target = .host ∨
      '@' :: text = "@peers".toList ∧ target = .peers := by
  generalize hname : '@' :: text = name at h
  cases h with
  | host => exact .inl ⟨rfl, rfl⟩
  | peers => exact .inr ⟨rfl, rfl⟩
  | net _ chars =>
      subst hname
      exact absurd (chars '@' List.mem_cons_self) (by decide)

theorem Target.fromStr_eq_ok_iff
    {target : Target}
    (hshape : TargetShape text) :
    Target.fromStr reader (String.ofList text) = .ok target ↔ IsTarget reader text target := by
  have htext : ∀ word : String, String.ofList text = word ↔ text = word.toList := by
    intro word
    rw [← String.toList_inj, String.toList_ofList]
  simp only [Target.fromStr, htext]
  by_cases hhost : text = "@host".toList
  · subst hhost
    rw [if_pos rfl]
    constructor
    · rintro ⟨⟩
      exact .host
    · intro h
      rcases IsTarget.of_at h with ⟨_, rfl⟩ | ⟨habsurd, _⟩
      · rfl
      · cases habsurd
  by_cases hpeers : text = "@peers".toList
  · subst hpeers
    rw [if_neg hhost, if_pos rfl]
    constructor
    · rintro ⟨⟩
      exact .peers
    · intro h
      rcases IsTarget.of_at h with ⟨habsurd, _⟩ | ⟨_, rfl⟩
      · cases habsurd
      · rfl
  obtain ⟨hne, hall⟩ := (hshape.resolve_left hhost).resolve_left hpeers
  rw [if_neg hhost, if_neg hpeers]
  constructor
  · intro h
    cases hnet : reader.netFromStr (String.ofList text) with
    | error message => simp [hnet, Except.map] at h
    | ok net =>
        rw [hnet] at h
        cases h
        exact .net hne hall hnet
  · intro h
    cases h with
    | host => exact absurd rfl hhost
    | peers => exact absurd rfl hpeers
    | net _ _ accepted =>
        rw [accepted]
        rfl

theorem Rule.parseTarget_eq_done_iff
    {target : Target}
    (hshape : TargetShape text) :
    Rule.parseTarget reader ⟨.target, text, []⟩ = .done target ↔
      IsTarget reader text target := by
  rw [Rule.parseTarget, Attempt.ofExcept_eq_done_iff, context_eq_ok_iff,
    Except.mapError_eq_ok_iff]
  exact Target.fromStr_eq_ok_iff hshape

theorem Direction.fromStr_text (direction : Direction) :
    Direction.fromStr direction.text = .ok direction := by
  cases direction <;> decide

theorem Protocol.fromStr_text (protocol : Protocol) :
    Protocol.fromStr protocol.text = .ok protocol := by
  cases protocol <;> rfl

/-! The fields of a directional rule are read one by one, the port last. -/

theorem Rule.parseFields_port_iff
    {port : Option (List Char)} {protocol protocol' : Option Protocol}
    {range : Option PortRange} {target target' : Target} :
    Rule.parseFields reader (port.toList.map fun text => ⟨.destinationPort, text, []⟩)
        target ⟨protocol, none⟩ = .done (target', ⟨protocol', range⟩) ↔
      target' = target ∧ protocol' = protocol ∧ Option.Rel IsPortRange port range := by
  cases port with
  | none => cases range <;> simp [Rule.parseFields, eq_comm]
  | some text =>
      simp only [Option.toList_some, List.map_cons, List.map_nil, Rule.parseFields, Pair.rule,
        asStr, Pair.text, Attempt.bind_eq_done_iff, Attempt.ofExcept_eq_done_iff,
        PortRange.fromStr_eq_ok_iff, Attempt.done.injEq, Prod.mk.injEq, Filter.mk.injEq]
      constructor
      · rintro ⟨range, hrange, rfl, rfl, rfl⟩
        exact ⟨rfl, rfl, .some hrange⟩
      · rintro ⟨rfl, rfl, hrange⟩
        cases hrange with
        | some hrange => exact ⟨_, hrange, rfl, rfl, rfl⟩

theorem Rule.parseFields_target_iff
    {target port : Option (List Char)} {protocol protocol' : Option Protocol}
    {range : Option PortRange} {target' : Target}
    (hshape : ∀ text, target = some text → TargetShape text) :
    Rule.parseFields reader
        (target.toList.map (fun text => ⟨.target, text, []⟩) ++
          port.toList.map (fun text => ⟨.destinationPort, text, []⟩))
        Rule.defaultTarget ⟨protocol, none⟩ = .done (target', ⟨protocol', range⟩) ↔
      ∃ value, Option.Rel (IsTarget reader) target value ∧
        target' = value.getD Rule.defaultTarget ∧
        protocol' = protocol ∧ Option.Rel IsPortRange port range := by
  cases target with
  | none =>
      rw [Option.toList_none, List.map_nil, List.nil_append, Rule.parseFields_port_iff]
      constructor
      · intro h
        exact ⟨none, .none, h⟩
      · rintro ⟨value, hvalue, h⟩
        cases hvalue
        exact h
  | some text =>
      simp only [Option.toList_some, List.map_cons, List.map_nil, List.cons_append,
        List.nil_append, Rule.parseFields, Pair.rule, Attempt.bind_eq_done_iff,
        Rule.parseTarget_eq_done_iff (hshape text rfl), Rule.parseFields_port_iff]
      constructor
      · rintro ⟨value, htarget, h⟩
        exact ⟨some value, .some htarget, h⟩
      · rintro ⟨value, hvalue, h⟩
        cases hvalue with
        | some htarget => exact ⟨_, htarget, h⟩

theorem Rule.parseFields_eq_done_iff
    {direction : Direction} {protocol protocol' : Option Protocol}
    {target port : Option (List Char)} {range : Option PortRange} {target' : Target}
    (hshape : ∀ text, target = some text → TargetShape text) :
    Rule.parseFields reader (fieldPairs direction protocol target port).tail
        Rule.defaultTarget .unrestricted = .done (target', ⟨protocol', range⟩) ↔
      ∃ value, Option.Rel (IsTarget reader) target value ∧
        target' = value.getD Rule.defaultTarget ∧
        protocol' = protocol ∧ Option.Rel IsPortRange port range := by
  simp only [fieldPairs, List.cons_append, List.nil_append, List.tail_cons, Filter.unrestricted]
  cases protocol with
  | none => exact Rule.parseFields_target_iff hshape
  | some protocol =>
      have hname : ∀ protocol' : Protocol,
          Protocol.fromStr (String.ofList protocol.text.toList) = .ok protocol' ↔
            protocol' = protocol := by
        intro protocol'
        rw [String.ofList_toList, Protocol.fromStr_text, Except.ok.injEq, eq_comm]
      simp only [Option.toList_some, List.map_cons, List.map_nil, List.cons_append,
        List.nil_append, Rule.parseFields, Pair.rule, asStr, Pair.text,
        Attempt.bind_eq_done_iff, Attempt.ofExcept_eq_done_iff, hname, exists_eq_left]
      exact Rule.parseFields_target_iff hshape

theorem Rule.parseFields_ne_panicked
    {fields : List (Pair SyntaxRule)}
    (hfields : ∀ field ∈ fields,
      field.rule = .protocolName ∨ field.rule = .target ∨ field.rule = .destinationPort)
    (target : Target)
    (filter : Filter) :
    Rule.parseFields reader fields target filter ≠ .panicked := by
  induction fields generalizing target filter with
  | nil =>
      simp [Rule.parseFields]
  | cons field fields ih =>
      have hmore := ih fun field hfield => hfields field (List.mem_cons_of_mem _ hfield)
      rcases hfields field List.mem_cons_self with hrule | hrule | hrule
      · simp [Rule.parseFields, hrule, hmore]
      · simp [Rule.parseFields, hrule, hmore, Rule.parseTarget]
      · simp [Rule.parseFields, hrule, hmore]

end Meaning

/-! ## The parser accepts the language -/

section Parser

variable {reader : RuleReader}
variable {t : List Char}

/-- A part that stands for what it means. -/
theorem Part.of_verbatim
    {α : Type} {shape : List Char → Prop} {S : List Char → α → Prop}
    {text : Option (List Char)} {value : Option α}
    (h : Part (Verbatim shape) t text)
    (hmeans : Option.Rel S text value) :
    Part S t value := by
  cases h with
  | absent =>
      cases hmeans
      exact .absent
  | present hverbatim =>
      obtain ⟨rfl, _⟩ := hverbatim
      cases hmeans with
      | some hmeans => exact .present hmeans

theorem Part.verbatim
    {α : Type} {shape : List Char → Prop} {S : List Char → α → Prop} {value : Option α}
    (h : Part S t value)
    (hshape : ∀ text value, S text value → shape text) :
    ∃ text, Part (Verbatim shape) t text ∧ Option.Rel S text value := by
  cases h with
  | absent => exact ⟨none, .absent, .none⟩
  | present hmeans => exact ⟨some _, .present ⟨rfl, hshape _ _ hmeans⟩, .some hmeans⟩

theorem Part.of_verbatim_keyword
    {α : Type} {word : String} {shape : List Char → Prop} {S : List Char → α → Prop}
    {text : Option (List Char)} {value : Option α}
    (h : Part (Keyword word (Verbatim shape)) t text)
    (hmeans : Option.Rel S text value) :
    Part (Keyword word S) t value := by
  cases h with
  | absent =>
      cases hmeans
      exact .absent
  | present hword =>
      cases hword with
      | mk hverbatim =>
          obtain ⟨rfl, _⟩ := hverbatim
          cases hmeans with
          | some hmeans => exact .present (.mk hmeans)

theorem Part.verbatim_keyword
    {α : Type} {word : String} {shape : List Char → Prop} {S : List Char → α → Prop}
    {value : Option α}
    (h : Part (Keyword word S) t value)
    (hshape : ∀ text value, S text value → shape text) :
    ∃ text, Part (Keyword word (Verbatim shape)) t text ∧ Option.Rel S text value := by
  cases h with
  | absent => exact ⟨none, .absent, .none⟩
  | present hword =>
      cases hword with
      | mk hmeans => exact ⟨some _, .present (.mk ⟨rfl, hshape _ _ hmeans⟩), .some hmeans⟩

theorem Part.shape_of_verbatim
    {shape : List Char → Prop} {text : Option (List Char)}
    (h : Part (Verbatim shape) t text) :
    ∀ text', text = some text' → shape text' := by
  rintro text' rfl
  cases h with
  | present hverbatim =>
      obtain ⟨rfl, hshape⟩ := hverbatim
      exact hshape

theorem Rule.parseStateful_eq_done_iff
    {direction : Direction} {protocol : Option Protocol} {target port : Option (List Char)}
    {rule : Rule}
    (hshape : ∀ text, target = some text → TargetShape text) :
    Rule.parseStateful reader ⟨.stateful, t, fieldPairs direction protocol target port⟩ =
        .done rule ↔
      ∃ value range, Option.Rel (IsTarget reader) target value ∧
        Option.Rel IsPortRange port range ∧
        (range = none ∨ protocol = some .tcp ∨ protocol = some .udp) ∧
        rule = .stateful direction (value.getD Rule.defaultTarget) ⟨protocol, range⟩ := by
  have hdirection : Direction.fromStr (String.ofList direction.text.toList) = .ok direction := by
    rw [String.ofList_toList, Direction.fromStr_text]
  have hstart : Rule.parseStateful reader
      ⟨.stateful, t, fieldPairs direction protocol target port⟩ =
        (do
          let fields ←
            Rule.parseFields reader (fieldPairs direction protocol target port).tail
              Rule.defaultTarget .unrestricted
          if fields.2.destinationPortRange = none ∨
              fields.2.protocol = some .tcp ∨ fields.2.protocol = some .udp then
            return .stateful direction fields.1 fields.2
          else
            .failed ["port requires proto tcp or proto udp"]) := by
    simp only [Rule.parseStateful, Pair.inner, fieldPairs, List.cons_append, List.nil_append,
      List.tail_cons, asStr, Pair.text, hdirection]
    rfl
  rw [hstart, Attempt.bind_eq_done_iff]
  constructor
  · rintro ⟨⟨target', protocol', range⟩, hfields, hrule⟩
    obtain ⟨value, hvalue, rfl, rfl, hrange⟩ :=
      (Rule.parseFields_eq_done_iff hshape).mp hfields
    dsimp only at hrule
    split at hrule
    · next htransport =>
        cases hrule
        exact ⟨value, range, hvalue, hrange, htransport, rfl⟩
    · cases hrule
  · rintro ⟨value, range, hvalue, hrange, htransport, rfl⟩
    refine ⟨(_, ⟨protocol, range⟩), (Rule.parseFields_eq_done_iff hshape).mpr
      ⟨value, hvalue, rfl, rfl, hrange⟩, ?_⟩
    exact if_pos htransport

theorem Rule.parseStateful_ne_panicked
    (direction : Direction)
    (protocol : Option Protocol)
    (target port : Option (List Char)) :
    Rule.parseStateful reader ⟨.stateful, t, fieldPairs direction protocol target port⟩ ≠
      .panicked := by
  have hfields :
      Rule.parseFields reader (fieldPairs direction protocol target port).tail
        Rule.defaultTarget .unrestricted ≠ .panicked :=
    Rule.parseFields_ne_panicked ?_ _ _
  · simp only [fieldPairs, List.cons_append, List.nil_append, List.tail_cons] at hfields
    simp only [Rule.parseStateful, Pair.inner, fieldPairs, List.cons_append, List.nil_append]
    rw [Ne, Attempt.bind_eq_panicked_iff, not_or]
    refine ⟨Attempt.ofExcept_ne_panicked _, ?_⟩
    rintro ⟨_, _, hpanicked⟩
    rw [Attempt.bind_eq_panicked_iff] at hpanicked
    rcases hpanicked with hpanicked | ⟨⟨target', filter⟩, _, hpanicked⟩
    · exact hfields hpanicked
    · dsimp only at hpanicked
      split at hpanicked <;> cases hpanicked
  · cases protocol <;> cases target <;> cases port <;> simp [fieldPairs, Pair.rule]

/-- The second half of `Rule::parse`. -/
def Rule.ofBody (reader : RuleReader) (body : Pair SyntaxRule) : Attempt ErrorChain Rule :=
  match body.rule with
  | .target => do
      let target ← Rule.parseTarget reader body
      return .stateless target
  | .stateful => Rule.parseStateful reader body
  | _ => .panicked

theorem Rule.ofBody_target :
    Rule.ofBody reader ⟨.target, t, []⟩ =
      Rule.parseTarget reader ⟨.target, t, []⟩ >>= fun target => pure (.stateless target) :=
  rfl

theorem Rule.ofBody_stateful
    {fields : List (Pair SyntaxRule)} :
    Rule.ofBody reader ⟨.stateful, t, fields⟩ = Rule.parseStateful reader ⟨.stateful, t, fields⟩ :=
  rfl

theorem Rule.fromStr_eq_ofBody
    {input : String} {body : Pair SyntaxRule}
    (h : Body input.toList body) :
    Rule.fromStr reader input = Rule.ofBody reader body := by
  rw [Rule.fromStr, Rule.parse, parse_rule_iff.mpr ⟨body, h, rfl, rfl⟩]
  rfl

theorem Rule.ofBody_ne_panicked
    {body : Pair SyntaxRule}
    (h : Body t body) :
    Rule.ofBody reader body ≠ .panicked := by
  cases h with
  | target h =>
      simp [Rule.ofBody_target, Rule.parseTarget]
  | stateful =>
      rw [Rule.ofBody_stateful]
      apply Rule.parseStateful_ne_panicked

/-- The rule that a body is read as is the one its text denotes. -/
theorem denotes_of_ofBody
    {body : Pair SyntaxRule} {rule : Rule}
    (h : Body t body)
    (hrule : Rule.ofBody reader body = .done rule) :
    Denotes reader t rule := by
  cases h with
  | target h =>
      simp only [Rule.ofBody_target, Attempt.bind_eq_done_iff,
        Rule.parseTarget_eq_done_iff h] at hrule
      obtain ⟨target, htarget, hrule⟩ := hrule
      cases hrule
      exact .bare htarget
  | stateful protocolPart targetPart portPart =>
      rw [Rule.ofBody_stateful,
        Rule.parseStateful_eq_done_iff targetPart.shape_of_verbatim] at hrule
      obtain ⟨value, range, htarget, hrange, htransport, rfl⟩ := hrule
      exact .directional protocolPart (targetPart.of_verbatim htarget)
        (portPart.of_verbatim_keyword hrange) htransport

/-- A text that denotes a rule leaves a body that is read as this rule. -/
theorem Denotes.exists_body
    {rule : Rule}
    (h : Denotes reader t rule) :
    ∃ body, Body t body ∧ Rule.ofBody reader body = .done rule := by
  cases h with
  | bare h =>
      refine ⟨_, .target h.shape, ?_⟩
      simp only [Rule.ofBody_target, Attempt.bind_eq_done_iff,
        Rule.parseTarget_eq_done_iff h.shape]
      exact ⟨_, h, rfl⟩
  | directional protocolPart targetPart portPart htransport =>
      obtain ⟨targetText, targetPart, htarget⟩ := targetPart.verbatim fun _ _ => IsTarget.shape
      obtain ⟨portText, portPart, hrange⟩ :=
        portPart.verbatim_keyword fun _ _ => IsPortRange.shape
      refine ⟨_, .stateful protocolPart targetPart portPart, ?_⟩
      rw [Rule.ofBody_stateful, Rule.parseStateful_eq_done_iff targetPart.shape_of_verbatim]
      exact ⟨_, _, htarget, hrange, htransport, rfl⟩

theorem Rule.fromStr_eq_done_iff
    {input : String} {rule : Rule} :
    Rule.fromStr reader input = .done rule ↔ Denotes reader input.toList rule := by
  constructor
  · intro h
    cases hparse : Peg.parse Grammar.rule input.toList with
    | none => simp [Rule.fromStr, Rule.parse, hparse] at h
    | some result =>
        obtain ⟨body, hbody, _⟩ := parse_rule_iff.mp hparse
        exact denotes_of_ofBody hbody (Rule.fromStr_eq_ofBody hbody ▸ h)
  · intro h
    obtain ⟨body, hbody, hrule⟩ := h.exists_body
    rw [Rule.fromStr_eq_ofBody hbody, hrule]

theorem Rule.fromStr_ne_panicked
    (input : String) :
    Rule.fromStr reader input ≠ .panicked := by
  cases hparse : Peg.parse Grammar.rule input.toList with
  | none => simp [Rule.fromStr, Rule.parse, hparse]
  | some result =>
      obtain ⟨body, hbody, _⟩ := parse_rule_iff.mp hparse
      rw [Rule.fromStr_eq_ofBody hbody]
      exact Rule.ofBody_ne_panicked hbody

end Parser

/--
The parser accepts exactly the rule language: an input is accepted as a rule exactly if it
denotes that rule.  No branch that the source marks as impossible is ever reached.
-/
theorem fromStr_iff_denotes
    (reader : RuleReader)
    (input : String) :
    (∀ rule, Rule.fromStr reader input = .done rule ↔ Denotes reader input.toList rule) ∧
    Rule.fromStr reader input ≠ .panicked :=
  ⟨fun _ => Rule.fromStr_eq_done_iff, Rule.fromStr_ne_panicked input⟩

end Softnet
