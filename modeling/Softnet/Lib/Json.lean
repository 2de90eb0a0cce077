import Mathlib.Data.List.Forall2
import Mathlib.Data.List.Nodup
import Mathlib.Data.List.Perm.Basic
import Mathlib.Tactic.Common

/-!
# JSON documents and records

Documents as they are written, with the members of an object in order and with repetitions, and
how records with named fields are read from them.

A record is spelled as an object with each of its fields at most once and nothing else, or as
an array of the first of its fields in the order of their declaration.  A reader that ignores
members it does not know is the more lenient one of two.

* `Value.get`: the member of an object, where the last of several counts.
* `Value.slots`: what a record finds for each of its fields.
* `Spells`: the documents that give these values for the fields of a record, without reference
  to how they are read.
* `slots_eq_some_iff`: a strict record reads a document exactly if the document spells it.
-/

namespace Json

/-- A number: a natural number of 64 bits, or anything else. -/
inductive Number where
  | natural (value : UInt64)
  | other (text : String)
deriving DecidableEq

inductive Value where
  | null
  | bool (value : Bool)
  | number (value : Number)
  | string (value : String)
  | array (elements : List Value)
  | object (members : List (String × Value))

/-! ## Members -/

section Members

variable {members members' : List (String × Value)}
variable {key : String}
variable {value : Value}

/-- The member of an object; the last one of several. -/
def Value.get (key : String) : Value → Option Value
  | .object members => members.reverse.lookup key
  | _ => none

theorem mem_of_lookup
    (h : members.lookup key = some value) :
    (key, value) ∈ members := by
  obtain ⟨before, after, rfl, _⟩ := List.lookup_eq_some_iff.mp h
  simp

/-- Without repetitions, a member is found where it is. -/
theorem lookup_eq_some_iff
    (hnodup : (members.map Prod.fst).Nodup) :
    members.lookup key = some value ↔ (key, value) ∈ members := by
  refine ⟨mem_of_lookup, fun hmem => ?_⟩
  induction members with
  | nil =>
      cases hmem
  | cons member rest ih =>
      obtain ⟨hnew, hrest⟩ := List.nodup_cons.mp hnodup
      rw [List.lookup_cons]
      rcases List.mem_cons.mp hmem with rfl | hmem
      · simp
      · have hother : key ≠ member.1 := by
          intro hkey
          exact hnew (hkey ▸ List.mem_map_of_mem (f := Prod.fst) hmem)
        rw [beq_false_of_ne hother]
        exact ih hrest hmem

/-- Without repetitions, the order of the members does not matter. -/
theorem lookup_of_perm
    (hnodup : (members.map Prod.fst).Nodup)
    (h : members.Perm members') :
    members.lookup key = members'.lookup key := by
  have hnodup' : (members'.map Prod.fst).Nodup := (h.map Prod.fst).nodup_iff.mp hnodup
  ext value
  rw [lookup_eq_some_iff hnodup, lookup_eq_some_iff hnodup', h.mem_iff]

/-- The member of an object is the last one of its name. -/
theorem get_eq_some_iff :
    (Value.object members).get key = some value ↔
      ∃ before after, members = before ++ (key, value) :: after ∧ key ∉ after.map Prod.fst := by
  rw [Value.get, List.lookup_eq_some_iff]
  constructor
  · rintro ⟨after, before, hcut, hlast⟩
    refine ⟨before.reverse, after.reverse, ?_, ?_⟩
    · rw [← List.reverse_reverse members, hcut]
      simp
    · simpa using fun other hmem => by simpa using hlast (key, other) hmem
  · rintro ⟨before, after, rfl, hlast⟩
    refine ⟨after.reverse, before.reverse, by simp, fun member hmem => ?_⟩
    have hother : key ≠ member.1 := by
      rintro rfl
      exact hlast (List.mem_map_of_mem (List.mem_reverse.mp hmem))
    simpa using hother

theorem get_object
    (hnodup : (members.map Prod.fst).Nodup) :
    (Value.object members).get key = members.lookup key := by
  have hnodup' : (members.reverse.map Prod.fst).Nodup := by
    rwa [List.map_reverse, List.nodup_reverse]
  exact lookup_of_perm hnodup' (List.reverse_perm members)

end Members

/-! ## Records -/

/-- What a record finds for one of its fields. -/
inductive Slot where
  | given (value : Value)
  /-- No such member of the object. -/
  | missing
  /-- The array is over. -/
  | cutOff

def Slot.ofMember : Option Value → Slot
  | some value => .given value
  | none => .missing

def Slot.value? : Slot → Option Value
  | .given value => some value
  | _ => none

section Records

variable {names : List String}
variable {members : List (String × Value)}
variable {found : List Slot}

/-- What a record finds for its fields; a strict one refuses members that it does not know. -/
def Value.slots (strict : Bool) (names : List String) : Value → Option (List Slot)
  | .object members =>
      let keys := members.map Prod.fst
      if strict = true ∧ ¬ keys ⊆ names then
        none
      -- A field may not be given twice
      else if ¬ (keys.filter (· ∈ names)).Nodup then
        none
      else
        some (names.map fun name => .ofMember (members.lookup name))
  | .array elements =>
      if elements.length ≤ names.length then
        some (elements.map .given ++
          List.replicate (names.length - elements.length) .cutOff)
      else
        none
  | _ => none

/-- The members that spell these fields. -/
def spelled (names : List String) (found : List Slot) : List (String × Value) :=
  (names.zip found).filterMap fun field => field.2.value?.map (field.1, ·)

theorem keys_spelled_sublist :
    ((spelled names found).map Prod.fst).Sublist names := by
  induction names generalizing found with
  | nil =>
      simp [spelled]
  | cons name names ih =>
      cases found with
      | nil =>
          simp [spelled]
      | cons slot found =>
          have hrest : ((spelled names found).map Prod.fst).Sublist names := ih
          cases slot with
          | given value => simpa [spelled, Slot.value?] using hrest
          | missing => simpa [spelled, Slot.value?] using hrest.cons name
          | cutOff => simpa [spelled, Slot.value?] using hrest.cons name

theorem mem_spelled_ofMember
    {key : String} {value : Value} :
    (key, value) ∈ spelled names (names.map fun name => .ofMember (members.lookup name)) ↔
      key ∈ names ∧ members.lookup key = some value := by
  induction names with
  | nil =>
      simp [spelled]
  | cons name names ih =>
      have hsplit :
          spelled (name :: names)
            ((name :: names).map fun name => Slot.ofMember (members.lookup name)) =
          ((members.lookup name).map (name, ·)).toList ++
            spelled names (names.map fun name => Slot.ofMember (members.lookup name)) := by
        cases hname : members.lookup name <;>
          simp [spelled, Slot.value?, Slot.ofMember, hname]
      rw [hsplit, List.mem_append, ih, List.mem_cons]
      by_cases hkey : key = name
      · subst hkey
        cases hlookup : members.lookup key <;> simp [eq_comm]
      · have hother : (key, value) ∉ ((members.lookup name).map (name, ·)).toList := by
          cases members.lookup name <;> simp [hkey]
        simp [hother, hkey]

/-- What is found for the fields that were spelled are these fields. -/
theorem slots_of_spelled
    (hnames : names.Nodup)
    (hlength : found.length = names.length)
    (huncut : ∀ slot ∈ found, slot ≠ .cutOff)
    (hlookup : ∀ name ∈ names, members.lookup name = (spelled names found).lookup name) :
    (names.map fun name => Slot.ofMember (members.lookup name)) = found := by
  induction names generalizing found with
  | nil =>
      exact (List.eq_nil_of_length_eq_zero hlength).symm
  | cons name names ih =>
      obtain ⟨hnew, hnames⟩ := List.nodup_cons.mp hnames
      cases found with
      | nil =>
          cases hlength
      | cons slot found =>
          have hsplit : spelled (name :: names) (slot :: found) =
              (slot.value?.map (name, ·)).toList ++ spelled names found := by
            cases slot <;> simp [spelled, Slot.value?]
          have hunspelled : (spelled names found).lookup name = none := by
            rw [List.lookup_eq_none_iff]
            intro field hfield
            have hkey : field.1 ∈ names :=
              keys_spelled_sublist.subset (List.mem_map_of_mem hfield)
            simpa using fun hname : name = field.1 => hnew (hname ▸ hkey)
          have hhead : Slot.ofMember (members.lookup name) = slot := by
            rw [hlookup name List.mem_cons_self, hsplit]
            cases slot with
            | given value => simp [Slot.value?, Slot.ofMember]
            | missing => simp [Slot.value?, Slot.ofMember, hunspelled]
            | cutOff => exact absurd rfl (huncut _ List.mem_cons_self)
          rw [List.map_cons, hhead, ih hnames (Nat.succ.inj hlength)
            (fun slot hslot => huncut slot (List.mem_cons_of_mem _ hslot))]
          intro other hother
          have hne : other ≠ name := by
            rintro rfl
            exact hnew hother
          rw [hlookup other (List.mem_cons_of_mem _ hother), hsplit]
          cases slot.value? with
          | none => rfl
          | some value => simp [List.lookup_cons, beq_false_of_ne hne]

/-- A strict record reads an object exactly if the object lists the given fields in any order. -/
theorem slots_object_iff
    (hnames : names.Nodup) :
    (Value.object members).slots true names = some found ↔
      found.length = names.length ∧ (∀ slot ∈ found, slot ≠ .cutOff) ∧
        members.Perm (spelled names found) := by
  have hspelled : ((spelled names found).map Prod.fst).Nodup :=
    hnames.sublist keys_spelled_sublist
  simp only [Value.slots, true_and]
  constructor
  · intro h
    split at h
    · cases h
    · next hknown =>
        split at h
        · cases h
        · next honce =>
            rw [not_not] at hknown honce
            have hkeys : (members.map Prod.fst).Nodup := by
              rwa [List.filter_eq_self.mpr fun key hkey => by simpa using hknown hkey] at honce
            cases h
            refine ⟨by simp, ?_, ?_⟩
            · intro slot hslot
              obtain ⟨name, _, rfl⟩ := List.mem_map.mp hslot
              cases members.lookup name <;> simp [Slot.ofMember]
            · rw [List.perm_ext_iff_of_nodup hkeys.of_map hspelled.of_map]
              rintro ⟨key, value⟩
              rw [mem_spelled_ofMember, lookup_eq_some_iff hkeys]
              exact ⟨fun hmem => ⟨hknown (List.mem_map_of_mem hmem), hmem⟩, And.right⟩
  · rintro ⟨hlength, huncut, hperm⟩
    have hkeys : (members.map Prod.fst).Nodup := (hperm.map Prod.fst).nodup_iff.mpr hspelled
    have hknown : members.map Prod.fst ⊆ names := by
      intro key hkey
      exact keys_spelled_sublist.subset ((hperm.map Prod.fst).mem_iff.mp hkey)
    rw [if_neg (not_not.mpr hknown), if_neg (not_not.mpr (hkeys.filter _))]
    congr 1
    exact slots_of_spelled hnames hlength huncut fun name _ => lookup_of_perm hkeys hperm

/-- The members of the fields that are given. -/
def given (fields : List (String × Option Value)) : List (String × Value) :=
  fields.filterMap fun field => field.2.map (field.1, ·)

/--
The document gives these values for the fields of a record: as an object, with the given fields
in any order, or as an array of the first fields.
-/
inductive Spells (fields : List (String × Option Value)) : Value → Prop
  | object
      {members : List (String × Value)}
      (listed : members.Perm (given fields)) :
      Spells fields (.object members)
  | array
      {elements : List Value}
      (rest : Nat)
      (listed : fields.map Prod.snd = elements.map some ++ List.replicate rest none) :
      Spells fields (.array elements)

/-- What a record finds for a field of this document. -/
def Slot.ofField (doc : Value) : Option Value → Slot
  | some value => .given value
  | none => match doc with
    | .array _ => .cutOff
    | _ => .missing

theorem Slot.value?_ofField (doc : Value) (value : Option Value) :
    (Slot.ofField doc value).value? = value := by
  cases value with
  | some value => rfl
  | none => cases doc <;> rfl

theorem Slot.ofField_object_value?
    {slot : Slot}
    (h : slot ≠ .cutOff) :
    Slot.ofField (.object members) slot.value? = slot := by
  cases slot with
  | given value => rfl
  | missing => rfl
  | cutOff => exact absurd rfl h

theorem given_eq_spelled
    (doc : Value)
    (fields : List (String × Option Value)) :
    given fields =
      spelled (fields.map Prod.fst) ((fields.map Prod.snd).map (Slot.ofField doc)) := by
  induction fields with
  | nil => rfl
  | cons field fields ih =>
      simp only [given, spelled, List.map_cons, List.zip_cons_cons, List.filterMap_cons,
        Slot.value?_ofField] at ih ⊢
      rw [ih]

/-- The slots of an array are its elements, up to the end of the record. -/
theorem slots_array_iff
    {elements : List Value} :
    (Value.array elements).slots true names = some found ↔
      ∃ rest, elements.length + rest = names.length ∧
        found = elements.map .given ++ List.replicate rest .cutOff := by
  simp only [Value.slots]
  split
  · next hfits =>
      constructor
      · intro h
        cases h
        exact ⟨names.length - elements.length, by omega, rfl⟩
      · rintro ⟨rest, hrest, rfl⟩
        have hlast : names.length - elements.length = rest := by omega
        rw [hlast]
  · next hlong =>
      refine iff_of_false nofun ?_
      rintro ⟨rest, hrest, _⟩
      omega

/-- A strict record reads a document exactly if the document spells it. -/
theorem slots_eq_some_iff
    {doc : Value}
    (hnames : names.Nodup) :
    doc.slots true names = some found ↔
      ∃ fields, fields.map Prod.fst = names ∧ Spells fields doc ∧
        found = (fields.map Prod.snd).map (Slot.ofField doc) := by
  cases doc with
  | object members =>
      rw [slots_object_iff hnames]
      constructor
      · rintro ⟨hlength, huncut, hperm⟩
        have hnamed : (names.zip (found.map Slot.value?)).map Prod.fst = names :=
          List.map_fst_zip (by simp [hlength])
        have hvalues : (names.zip (found.map Slot.value?)).map Prod.snd =
            found.map Slot.value? :=
          List.map_snd_zip (by simp [hlength])
        have hfound : (found.map Slot.value?).map (Slot.ofField (.object members)) = found := by
          rw [List.map_map]
          exact (List.map_congr_left fun slot hslot =>
            Slot.ofField_object_value? (huncut slot hslot)).trans (List.map_id found)
        refine ⟨names.zip (found.map Slot.value?), hnamed, .object ?_, ?_⟩
        · rwa [given_eq_spelled (.object members), hnamed, hvalues, hfound]
        · rw [hvalues, hfound]
      · rintro ⟨fields, rfl, ⟨listed⟩, rfl⟩
        refine ⟨by simp, ?_, by rwa [← given_eq_spelled]⟩
        intro slot hslot
        obtain ⟨value, _, rfl⟩ := List.mem_map.mp hslot
        cases value <;> simp [Slot.ofField]
  | array elements =>
      rw [slots_array_iff]
      constructor
      · rintro ⟨rest, hlength, rfl⟩
        have hvalues : (names.zip (elements.map some ++ List.replicate rest none)).map Prod.snd =
            elements.map some ++ List.replicate rest none :=
          List.map_snd_zip (by simp [hlength])
        refine ⟨_, List.map_fst_zip (by simp [hlength]), .array rest hvalues, ?_⟩
        rw [hvalues]
        simp [Slot.ofField]
      · rintro ⟨fields, rfl, ⟨⟩ | ⟨rest, listed⟩, rfl⟩
        have hlength := congrArg List.length listed
        refine ⟨rest, by simpa using hlength.symm, ?_⟩
        rw [listed]
        simp [Slot.ofField]
  | null | bool | number | string =>
      refine iff_of_false nofun ?_
      rintro ⟨_, _, hspells, _⟩
      cases hspells

theorem Spells.slots
    {fields : List (String × Option Value)} {doc : Value}
    (h : Spells fields doc)
    (names : List String)
    (hnamed : fields.map Prod.fst = names)
    (hnames : names.Nodup) :
    doc.slots true names = some ((fields.map Prod.snd).map (Slot.ofField doc)) :=
  (slots_eq_some_iff hnames).mpr ⟨fields, hnamed, h, rfl⟩

/-- A record that ignores other members is a strict one where there are no others. -/
theorem slots_lenient
    {doc : Value}
    (h : ∀ members, doc = .object members → members.map Prod.fst ⊆ names) :
    doc.slots false names = doc.slots true names := by
  cases doc with
  | object members => simp [Value.slots, h members rfl]
  | _ => rfl

end Records

/-! ## Fields -/

section Fields

variable {α : Type}

def readString : Value → Option String
  | .string value => some value
  | _ => none

def readList (read : Value → Option α) : Value → Option (List α)
  | .array elements => elements.mapM read
  | _ => none

def nullable (read : Value → Option α) : Value → Option (Option α)
  | .null => some none
  | value => (read value).map some

namespace Slot

def required (read : Value → Option α) : Slot → Option α
  | .given value => read value
  | _ => none

/-- A field that need not be there. -/
def defaulted (default : α) (read : Value → Option α) : Slot → Option α
  | .given value => read value
  | _ => some default

/-- A field that may be null, and that an object may leave out. -/
def optional (read : Value → Option α) : Slot → Option (Option α)
  | .given value => nullable read value
  | .missing => some none
  | .cutOff => none

end Slot

@[simp] theorem readString_eq_some_iff
    {value : Value} {text : String} :
    readString value = some text ↔ value = .string text := by
  cases value <;> simp [readString]

theorem readList_eq_some_iff
    {read : Value → Option α} {value : Value} {results : List α} :
    readList read value = some results ↔
      ∃ elements, value = .array elements ∧
        List.Forall₂ (fun element result => read element = some result) elements results := by
  cases value with
  | array elements =>
      simp only [readList, Value.array.injEq, exists_eq_left']
      induction elements generalizing results with
      | nil => cases results <;> simp
      | cons element elements ih =>
          cases results <;> simp [Option.bind_eq_some_iff, ih]
  | null | bool | number | string | object => simp [readList]

theorem readList_strings_iff
    {value : Value} {texts : List String} :
    readList readString value = some texts ↔ value = .array (texts.map .string) := by
  simp only [readList_eq_some_iff, readString_eq_some_iff, List.forall₂_eq_eq_eq,
    ← List.forall₂_map_right_iff (f := Value.string) (R := Eq), exists_eq_right]

/-- A text, null, or nothing at all. -/
inductive IsOptionalText : Option Value → Option String → Prop
  | omitted : IsOptionalText none none
  | null : IsOptionalText (some .null) none
  | text (text : String) : IsOptionalText (some (.string text)) (some text)

/-- A list of texts, which is empty if it is left out. -/
inductive IsTexts : Option Value → List String → Prop
  | omitted : IsTexts none []
  | listed (texts : List String) : IsTexts (some (.array (texts.map .string))) texts

section OfField

variable {doc : Value}
variable {value : Option Value}

theorem required_ofField_iff
    {read : Value → Option α} {result : α} :
    (Slot.ofField doc value).required read = some result ↔
      ∃ given, value = some given ∧ read given = some result := by
  cases value with
  | some value => simp [Slot.ofField, Slot.required]
  | none => cases doc <;> simp [Slot.ofField, Slot.required]

theorem nullable_readString_iff
    {given : Value} {text : Option String} :
    nullable readString given = some text ↔ IsOptionalText (some given) text := by
  constructor
  · intro h
    cases given with
    | null =>
        cases h
        exact .null
    | string given =>
        cases h
        exact .text given
    | bool | number | array | object => cases h
  · rintro (_ | _ | _) <;> rfl

theorem defaulted_text_iff
    {text : Option String} :
    (Slot.ofField doc value).defaulted none (nullable readString) = some text ↔
      IsOptionalText value text := by
  cases value with
  | some value => exact nullable_readString_iff
  | none =>
      have hdefault : (Slot.ofField doc none).defaulted none (nullable readString) =
          some none := by
        cases doc <;> rfl
      rw [hdefault]
      constructor
      · rintro ⟨⟩
        exact .omitted
      · rintro ⟨⟩
        rfl

/-- Only an object may leave out a field that is no default one. -/
theorem optional_text_iff
    {text : Option String} :
    (Slot.ofField doc value).optional readString = some text ↔
      IsOptionalText value text ∧ (value = none → ∀ elements, doc ≠ .array elements) := by
  cases value with
  | some value => exact nullable_readString_iff.trans (by simp)
  | none =>
      cases doc with
      | array elements => exact iff_of_false nofun fun h => h.2 rfl elements rfl
      | null | bool | number | string | object =>
          constructor
          · rintro ⟨⟩
            exact ⟨.omitted, nofun⟩
          · rintro ⟨⟨⟩, _⟩
            rfl

theorem defaulted_texts_iff
    {texts : List String} :
    (Slot.ofField doc value).defaulted [] (readList readString) = some texts ↔
      IsTexts value texts := by
  cases value with
  | some value =>
      refine readList_strings_iff.trans ⟨?_, ?_⟩
      · rintro rfl
        exact .listed texts
      · rintro ⟨⟩
        rfl
  | none =>
      have hdefault : (Slot.ofField doc none).defaulted [] (readList readString) = some [] := by
        cases doc <;> rfl
      rw [hdefault]
      constructor
      · rintro ⟨⟩
        exact .omitted
      · rintro ⟨⟩
        rfl

end OfField

end Fields

end Json
