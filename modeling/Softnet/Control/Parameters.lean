import Softnet.Control.Requests

/-!
# Parameters on the control socket

What the parameters of a request look like and what they mean, next to how `parse_method` in
`lib/control.rs` reads them.  The documents are described by the members that they list
(`IsSpelled`) and the texts in them by what they denote (`Means`), without the readers of the
code; a method is executed exactly if its parameters are `Accepted`, and otherwise is `Refused`
with an error that is right about them.
-/

namespace Softnet

/-! ## Attempts -/

namespace Attempt

variable {ε ε' α β : Type}

@[simp] theorem ofOption_eq_done_iff
    {error : ε} {o : Option α} {value : α} :
    ofOption error o = .done value ↔ o = some value := by
  cases o <;> simp [ofOption]

@[simp] theorem mapError_eq_done_iff
    {f : ε → ε'} {attempt : Attempt ε α} {value : α} :
    attempt.mapError f = .done value ↔ attempt = .done value := by
  cases attempt <;> simp [mapError]

theorem transpose_eq_done_iff
    {parse : α → Attempt ε β} {o : Option α} {result : Option β} :
    transpose parse o = .done result ↔ o.map parse = result.map .done := by
  cases o with
  | none => cases result <;> simp [transpose]
  | some value => cases result <;> simp [transpose]

theorem mapM_eq_done_iff
    {parse : α → Attempt ε β} {values : List α} {results : List β} :
    values.mapM parse = .done results ↔
      List.Forall₂ (fun value result => parse value = .done result) values results := by
  induction values generalizing results with
  | nil => cases results <;> simp [eq_comm]
  | cons value values ih =>
      rw [List.mapM_cons]
      cases results <;> simp [ih]

/-- The code does not panic, and an error that it fails with is one of these. -/
structure Settles (refused : ε → Prop) (attempt : Attempt ε α) : Prop where
  ne_panicked : attempt ≠ .panicked
  refused : ∀ error, attempt = .failed error → refused error

section Settling

variable {refused : ε → Prop}

theorem Settles.done (value : α) : Settles refused (.done value : Attempt ε α) :=
  ⟨nofun, nofun⟩

theorem Settles.failed
    {error : ε}
    (h : refused error) :
    Settles refused (.failed error : Attempt ε α) :=
  ⟨nofun, fun _ herror => failed.inj herror ▸ h⟩

theorem Settles.ofOption
    {error : ε} {o : Option α}
    (h : o = none → refused error) :
    Settles refused (Attempt.ofOption error o) := by
  cases o with
  | none => exact .failed (h rfl)
  | some value => exact .done value

theorem Settles.imp
    {refused' : ε → Prop} {attempt : Attempt ε α}
    (h : Settles refused attempt)
    (himp : ∀ error, refused error → refused' error) :
    Settles refused' attempt :=
  ⟨h.ne_panicked, fun error failed => himp error (h.refused error failed)⟩

theorem Settles.bind
    {attempt : Attempt ε α} {next : α → Attempt ε β}
    (h : Settles refused attempt)
    (hnext : ∀ value, attempt = .done value → Settles refused (next value)) :
    Settles refused (attempt >>= next) := by
  cases attempt with
  | done value => exact hnext value rfl
  | failed error => exact .failed (h.refused error rfl)
  | panicked => exact absurd rfl h.ne_panicked

theorem Settles.mapError
    {refused' : ε' → Prop} {attempt : Attempt ε α} {f : ε → ε'}
    (h : Settles refused attempt)
    (hrefused : ∀ error, refused error → refused' (f error)) :
    Settles refused' (attempt.mapError f) := by
  cases attempt with
  | done value => exact .done value
  | failed error => exact .failed (hrefused error (h.refused error rfl))
  | panicked => exact absurd rfl h.ne_panicked

theorem Settles.transpose
    {parse : α → Attempt ε β}
    (h : ∀ value, Settles refused (parse value))
    (o : Option α) :
    Settles refused (Attempt.transpose parse o) := by
  cases o with
  | none => exact .done none
  | some value => exact (h value).bind fun _ _ => .done _

theorem Settles.mapM
    {parse : α → Attempt ε β}
    (h : ∀ value, Settles refused (parse value))
    (values : List α) :
    Settles refused (values.mapM parse) := by
  induction values with
  | nil => exact .done []
  | cons value values ih =>
      rw [List.mapM_cons]
      exact (h value).bind fun _ _ => ih.bind fun _ _ => .done _

end Settling

end Attempt

/-! ## Exposed ports -/

section ExposedPorts

variable {text : List Char}
variable {value : UInt16}

theorem parseU16_eq_ok_iff_isU16 : parseU16 text = .ok value ↔ IsU16 text value := by
  have hunsigned : ∀ {digits}, IsPort digits value → '+' ∉ digits := by
    rintro digits ⟨⟨_, hdigits⟩, _⟩ hplus
    exact absurd (hdigits '+' hplus) (by decide)
  by_cases hplus : ∃ digits, text = '+' :: digits
  · obtain ⟨digits, rfl⟩ := hplus
    have hsigned : IsU16 ('+' :: digits) value ↔ IsPort digits value := by
      constructor
      · rintro ⟨_, rfl | h, hport⟩
        · exact absurd List.mem_cons_self (hunsigned hport)
        · cases h
          exact hport
      · exact fun hport => ⟨digits, .inr rfl, hport⟩
    rw [hsigned]
    cases digits with
    | nil => exact iff_of_false nofun fun h => h.1.1 rfl
    | cons c digits =>
        have hparse : parseU16 ('+' :: c :: digits) = parseDigits 0 (c :: digits) := rfl
        rw [hparse, parseDigits_eq_ok_iff (by decide)]
        simp [IsPort, IsDigits]
  · have hsame : IsU16 text value ↔ IsPort text value := by
      constructor
      · rintro ⟨digits, rfl | h, hport⟩
        · exact hport
        · exact absurd ⟨digits, h⟩ hplus
      · exact fun hport => ⟨text, .inl rfl, hport⟩
    rw [hsame]
    constructor
    · intro h
      cases text with
      | nil => cases h
      | cons c digits =>
          have hc : c ≠ '+' := fun hc => hplus ⟨digits, by rw [hc]⟩
          have hparse : parseU16 (c :: digits) = parseDigits 0 (c :: digits) := by
            unfold parseU16
            split <;> simp_all
          rw [hparse, parseDigits_eq_ok_iff (by decide)] at h
          exact ⟨⟨by simp, h.1⟩, h.2⟩
    · intro hport
      exact (parseU16_eq_ok_iff (hunsigned hport)).mpr hport

theorem IsU16.colon_notMem
    (h : IsU16 text value) :
    ':' ∉ text := by
  obtain ⟨digits, htext, ⟨_, hdigits⟩, _⟩ := h
  have hcolon : ':' ∉ digits := fun hcolon => absurd (hdigits ':' hcolon) (by decide)
  rcases htext with rfl | rfl
  · exact hcolon
  · simpa using hcolon

/-- A port specification is accepted exactly if it is two ports with a colon. -/
theorem ExposedPort.fromStr_eq_ok_iff
    {reader : RuleReader} {input : String} {port : ExposedPort} :
    ExposedPort.fromStr reader input = .ok port ↔ IsExposedPort input.toList port := by
  have hparts : ∀ {external internal : List Char},
      IsU16 external port.externalPort → IsU16 internal port.internalPort →
      (external ++ ':' :: internal).splitOn ':' = [external, internal] := by
    intro external internal hexternal hinternal
    have hsplit : (List.intercalate [':'] [external, internal]).splitOn ':' =
        [external, internal] :=
      List.splitOn_intercalate ':' (by simp [hexternal.colon_notMem, hinternal.colon_notMem])
        (by simp)
    simpa [List.intercalate] using hsplit
  unfold ExposedPort.fromStr
  dsimp only
  constructor
  · intro h
    split at h
    · next external internal hsplit =>
        obtain ⟨first, hfirst, h⟩ := Except.bind_eq_ok_iff.mp h
        obtain ⟨second, hsecond, h⟩ := Except.bind_eq_ok_iff.mp h
        cases h
        have htext : List.intercalate [':'] (input.toList.splitOn ':') = input.toList :=
          List.intercalate_splitOn ':'
        rw [hsplit] at htext
        refine ⟨external, internal, ?_, ?_, ?_⟩
        · simpa [List.intercalate] using htext.symm
        · exact parseU16_eq_ok_iff_isU16.mp
            (Except.mapError_eq_ok_iff.mp (Except.mapError_eq_ok_iff.mp hfirst))
        · exact parseU16_eq_ok_iff_isU16.mp
            (Except.mapError_eq_ok_iff.mp (Except.mapError_eq_ok_iff.mp hsecond))
    · cases h
  · rintro ⟨external, internal, htext, hexternal, hinternal⟩
    rw [htext, hparts hexternal hinternal]
    dsimp only
    rw [parseU16_eq_ok_iff_isU16.mpr hexternal, parseU16_eq_ok_iff_isU16.mpr hinternal]
    rfl

end ExposedPorts

/-! ## How parameters are spelled -/

section Spelling

open Json

/-- The document spells the parameters of a VM; only an object may leave out the name. -/
def VmParams.IsSpelled (params : VmParams) (doc : Value) : Prop :=
  ∃ name allow block expose,
    Spells
      [("vmMacAddress", some (.string params.vmMacAddress)), ("name", name), ("allow", allow),
        ("block", block), ("expose", expose)] doc ∧
    IsOptionalText name params.name ∧ (name = none → ∀ elements, doc ≠ .array elements) ∧
    IsTexts allow params.allow ∧ IsTexts block params.block ∧ IsTexts expose params.expose

def InitializeParams.IsSpelled (params : InitializeParams) (doc : Value) : Prop :=
  ∃ vmNetType vms,
    Spells [("vmNetType", vmNetType), ("vms", some (.array vms))] doc ∧
    IsOptionalText vmNetType params.vmNetType ∧
    List.Forall₂ (fun doc params => VmParams.IsSpelled params doc) vms params.vms

def GetParams.IsSpelled (params : GetParams) (doc : Value) : Prop :=
  ∃ vmId, Spells [("vmId", vmId)] doc ∧ IsOptionalText vmId params.vmId

def SetParams.IsSpelled (params : SetParams) (doc : Value) : Prop :=
  ∃ vmId,
    Spells
      [("vmId", vmId), ("allow", some (.array (params.allow.map .string))),
        ("block", some (.array (params.block.map .string)))] doc ∧
    IsOptionalText vmId params.vmId

variable {doc : Value}

theorem VmParams.ofJson_eq_some_iff
    {params : VmParams} :
    VmParams.ofJson doc = some params ↔ params.IsSpelled doc := by
  unfold VmParams.ofJson
  constructor
  · intro h
    split at h
    · next hslots =>
        obtain ⟨fields, hnames, hspells, hfound⟩ := (slots_eq_some_iff (by decide)).mp hslots
        simp only [List.map_eq_cons_iff, List.map_eq_nil_iff] at hnames
        obtain ⟨⟨_, mac⟩, _, rfl, rfl, ⟨_, name⟩, _, rfl, rfl, ⟨_, allow⟩, _, rfl, rfl,
          ⟨_, block⟩, _, rfl, rfl, ⟨_, expose⟩, _, rfl, rfl, rfl⟩ := hnames
        cases hfound
        simp only [Option.bind_eq_bind, Option.bind_eq_some_iff, Option.pure_def,
          Option.some.injEq, required_ofField_iff, readString_eq_some_iff, optional_text_iff,
          defaulted_texts_iff] at h
        obtain ⟨_, ⟨_, rfl, rfl⟩, _, ⟨hname, hobject⟩, _, hallow, _, hblock, _, hexpose, rfl⟩ := h
        exact ⟨name, allow, block, expose, hspells, hname, hobject, hallow, hblock, hexpose⟩
    · cases h
  · rintro ⟨name, allow, block, expose, hspells, hname, hobject, hallow, hblock, hexpose⟩
    rw [hspells.slots
      ["vmMacAddress", "name", "allow", "block", "expose"] rfl (by decide)]
    simp only [List.map_cons, List.map_nil]
    rw [required_ofField_iff.mpr ⟨_, rfl, readString_eq_some_iff.mpr rfl⟩,
      optional_text_iff.mpr ⟨hname, hobject⟩,
      defaulted_texts_iff.mpr hallow, defaulted_texts_iff.mpr hblock,
      defaulted_texts_iff.mpr hexpose]
    rfl

theorem InitializeParams.ofJson_eq_some_iff
    {params : InitializeParams} :
    InitializeParams.ofJson doc = some params ↔ params.IsSpelled doc := by
  unfold InitializeParams.ofJson
  constructor
  · intro h
    split at h
    · next hslots =>
        obtain ⟨fields, hnames, hspells, hfound⟩ := (slots_eq_some_iff (by decide)).mp hslots
        simp only [List.map_eq_cons_iff, List.map_eq_nil_iff] at hnames
        obtain ⟨⟨_, vmNetType⟩, _, rfl, rfl, ⟨_, vms⟩, _, rfl, rfl, rfl⟩ := hnames
        cases hfound
        simp only [Option.bind_eq_bind, Option.bind_eq_some_iff, Option.pure_def,
          Option.some.injEq, required_ofField_iff, readList_eq_some_iff, defaulted_text_iff,
          VmParams.ofJson_eq_some_iff] at h
        obtain ⟨_, hnet, _, ⟨_, rfl, vms, rfl, hvms⟩, rfl⟩ := h
        exact ⟨vmNetType, vms, hspells, hnet, hvms⟩
    · cases h
  · rintro ⟨vmNetType, vms, hspells, hnet, hvms⟩
    have hread : readList VmParams.ofJson (.array vms) = some params.vms :=
      readList_eq_some_iff.mpr ⟨vms, rfl, hvms.imp fun _ _ => VmParams.ofJson_eq_some_iff.mpr⟩
    rw [hspells.slots ["vmNetType", "vms"] rfl (by decide)]
    simp only [List.map_cons, List.map_nil]
    rw [required_ofField_iff.mpr ⟨_, rfl, hread⟩, defaulted_text_iff.mpr hnet]
    rfl

theorem GetParams.ofJson_eq_some_iff
    {params : GetParams} :
    GetParams.ofJson doc = some params ↔ params.IsSpelled doc := by
  unfold GetParams.ofJson
  constructor
  · intro h
    split at h
    · next hslots =>
        obtain ⟨fields, hnames, hspells, hfound⟩ := (slots_eq_some_iff (by decide)).mp hslots
        simp only [List.map_eq_cons_iff, List.map_eq_nil_iff] at hnames
        obtain ⟨⟨_, vmId⟩, _, rfl, rfl, rfl⟩ := hnames
        cases hfound
        simp only [Option.bind_eq_bind, Option.bind_eq_some_iff, Option.pure_def,
          Option.some.injEq, defaulted_text_iff] at h
        obtain ⟨_, hvmId, rfl⟩ := h
        exact ⟨vmId, hspells, hvmId⟩
    · cases h
  · rintro ⟨vmId, hspells, hvmId⟩
    rw [hspells.slots ["vmId"] rfl (by decide)]
    simp only [List.map_cons, List.map_nil]
    rw [defaulted_text_iff.mpr hvmId]
    rfl

theorem SetParams.ofJson_eq_some_iff
    {params : SetParams} :
    SetParams.ofJson doc = some params ↔ params.IsSpelled doc := by
  unfold SetParams.ofJson
  constructor
  · intro h
    split at h
    · next hslots =>
        obtain ⟨fields, hnames, hspells, hfound⟩ := (slots_eq_some_iff (by decide)).mp hslots
        simp only [List.map_eq_cons_iff, List.map_eq_nil_iff] at hnames
        obtain ⟨⟨_, vmId⟩, _, rfl, rfl, ⟨_, allow⟩, _, rfl, rfl, ⟨_, block⟩, _, rfl, rfl, rfl⟩ :=
          hnames
        cases hfound
        simp only [Option.bind_eq_bind, Option.bind_eq_some_iff, Option.pure_def,
          Option.some.injEq, required_ofField_iff, readList_strings_iff, defaulted_text_iff] at h
        obtain ⟨_, hvmId, _, ⟨_, rfl, rfl⟩, _, ⟨_, rfl, rfl⟩, rfl⟩ := h
        exact ⟨vmId, hspells, hvmId⟩
    · cases h
  · rintro ⟨vmId, hspells, hvmId⟩
    rw [hspells.slots ["vmId", "allow", "block"] rfl (by decide)]
    simp only [List.map_cons, List.map_nil]
    rw [required_ofField_iff.mpr ⟨_, rfl, readList_strings_iff.mpr rfl⟩,
      required_ofField_iff.mpr ⟨_, rfl, readList_strings_iff.mpr rfl⟩,
      defaulted_text_iff.mpr hvmId]
    rfl

end Spelling
/-! ## What parameters mean -/

def NetType.keyword : NetType → String
  | .nat => "nat"
  | .host => "host"

/-- The parameters of a VM are in order, and mean this configuration. -/
structure VmParams.Means (crates : ControlCrates) (params : VmParams) (config : VmConfig) :
    Prop where
  vmMacAddress : crates.macFromStr params.vmMacAddress = some config.vmMacAddress
  name : params.name.map crates.nameFromAscii = config.name.map some
  rules : params.allow.length + params.block.length ≤ maxRules
  allow : List.Forall₂ (fun text rule => Denotes crates.reader text.toList rule)
    params.allow config.allow
  block : List.Forall₂ (fun text rule => Denotes crates.reader text.toList rule)
    params.block config.block
  expose : List.Forall₂ (fun text port => IsExposedPort text.toList port)
    params.expose config.exposedPorts

/-- The target of a policy request. -/
def IsTargetVm (crates : ControlCrates) (text : Option String) (vmId : Option Uuid) : Prop :=
  text.map crates.uuidFromStr = vmId.map some

/-- The method and its parameters, with the descriptors that came along, mean this request. -/
inductive Accepted (crates : ControlCrates) :
    String → Json.Value → List OwnedFd → Parsed → Prop
  | initializeVms
      {method : String} {doc : Json.Value} {params : InitializeParams} {fds : List OwnedFd}
      {vmNetType : NetType} {vms : List VmConfig}
      (called : method = "softnet.initialize")
      (spelled : params.IsSpelled doc)
      (count : 1 ≤ params.vms.length ∧ params.vms.length ≤ maxVms)
      (descriptors : fds.length = params.vms.length)
      (netType : params.vmNetType.getD "nat" = vmNetType.keyword)
      (means : List.Forall₂ (VmParams.Means crates) params.vms vms) :
      Accepted crates method doc fds ⟨.initializeVms vmNetType vms, fds⟩
  | policyGetDefault
      {method : String} {fds : List OwnedFd}
      (called : method = "softnet.policy.get") :
      Accepted crates method .null fds ⟨.policy none .policyGet, []⟩
  | policyGet
      {method : String} {members : List (String × Json.Value)} {params : GetParams}
      {fds : List OwnedFd} {vmId : Option Uuid}
      (called : method = "softnet.policy.get")
      (spelled : params.IsSpelled (.object members))
      (target : IsTargetVm crates params.vmId vmId) :
      Accepted crates method (.object members) fds ⟨.policy vmId .policyGet, []⟩
  | policySet
      {method : String} {doc : Json.Value} {params : SetParams} {fds : List OwnedFd}
      {vmId : Option Uuid} {allow block : List Rule}
      (called : method = "softnet.policy.set")
      (spelled : params.IsSpelled doc)
      (target : IsTargetVm crates params.vmId vmId)
      (rules : params.allow.length + params.block.length ≤ maxRules)
      (allows : List.Forall₂ (fun text rule => Denotes crates.reader text.toList rule)
        params.allow allow)
      (blocks : List.Forall₂ (fun text rule => Denotes crates.reader text.toList rule)
        params.block block) :
      Accepted crates method doc fds ⟨.policy vmId (.policySet allow block), []⟩

section Methods

variable {crates : ControlCrates}

theorem parsePolicy_eq_done_iff
    {reader : RuleReader} {allow block : List String} {rules : List Rule × List Rule} :
    parsePolicy reader allow block = .done rules ↔
      allow.length + block.length ≤ maxRules ∧
        List.Forall₂ (fun text rule => Denotes reader text.toList rule) allow rules.1 ∧
        List.Forall₂ (fun text rule => Denotes reader text.toList rule) block rules.2 := by
  unfold parsePolicy
  split
  · next hmany => exact iff_of_false nofun fun h => absurd h.1 (by omega)
  · next hfew =>
      simp only [Attempt.bind_eq_done_iff, Attempt.mapM_eq_done_iff,
        Attempt.mapError_eq_done_iff, Rule.fromStr_eq_done_iff, Attempt.pure_eq_done,
        Attempt.done.injEq]
      constructor
      · rintro ⟨_, hallow, _, hblock, rfl⟩
        exact ⟨by omega, hallow, hblock⟩
      · rintro ⟨_, hallow, hblock⟩
        exact ⟨_, hallow, _, hblock, rfl⟩

theorem Control.parseVmId_eq_done_iff
    {text : Option String} {vmId : Option Uuid} :
    Control.parseVmId crates text = .done vmId ↔ IsTargetVm crates text vmId := by
  rw [Control.parseVmId, Attempt.transpose_eq_done_iff, IsTargetVm]
  cases text <;> cases vmId <;> simp

theorem Control.parseVm_eq_done_iff
    {params : VmParams} {config : VmConfig} :
    Control.parseVm crates params = .done config ↔ params.Means crates config := by
  simp only [Control.parseVm, Attempt.bind_eq_done_iff, Attempt.ofOption_eq_done_iff,
    Attempt.transpose_eq_done_iff, parsePolicy_eq_done_iff, Attempt.mapM_eq_done_iff,
    Attempt.mapError_eq_done_iff, Attempt.ofExcept_eq_done_iff, ExposedPort.fromStr_eq_ok_iff,
    Attempt.pure_eq_done, Attempt.done.injEq]
  have hname : ∀ name : Option Name,
      (params.name.map fun name =>
          Attempt.ofOption (invalidParams "invalid name") (crates.nameFromAscii name)) =
        name.map .done ↔
      params.name.map crates.nameFromAscii = name.map some := by
    intro name
    cases params.name <;> cases name <;> simp
  constructor
  · rintro ⟨_, hmac, _, hname', ⟨allow, block⟩, ⟨hcount, hallow, hblock⟩, _, hexpose, rfl⟩
    exact ⟨hmac, (hname _).mp hname', hcount, hallow, hblock, hexpose⟩
  · intro h
    exact ⟨_, h.vmMacAddress, _, (hname _).mpr h.name, (config.allow, config.block),
      ⟨h.rules, h.allow, h.block⟩, _, h.expose, rfl⟩

theorem Control.parseNetType_eq_done_iff
    {text : Option String} {vmNetType : NetType} :
    Control.parseNetType text = .done vmNetType ↔ text.getD "nat" = vmNetType.keyword := by
  unfold Control.parseNetType
  dsimp only
  split
  · next hnat => cases vmNetType <;> simp [hnat, NetType.keyword]
  · next hnat =>
      split
      · next hhost => cases vmNetType <;> simp [hhost, NetType.keyword]
      · next hhost => cases vmNetType <;> simp [hnat, hhost, NetType.keyword]

/-- Values that are paired with something keep it. -/
theorem forall₂_zip_iff
    {α β γ : Type} {R : α → β → Prop} {values : List α} {others : List γ} {results : List (β × γ)}
    (hlength : others.length = values.length) :
    List.Forall₂ (fun pair result => R pair.1 result.1 ∧ pair.2 = result.2)
        (values.zip others) results ↔
      List.Forall₂ R values (results.map Prod.fst) ∧ results.map Prod.snd = others := by
  induction values generalizing others results with
  | nil =>
      rw [List.eq_nil_of_length_eq_zero hlength]
      cases results <;> simp
  | cons value values ih =>
      cases others with
      | nil => cases hlength
      | cons other others =>
          rw [List.zip_cons_cons]
          cases results with
          | nil => simp
          | cons result results =>
              simp only [List.forall₂_cons, List.map_cons, List.cons.injEq,
                ih (Nat.succ.inj hlength)]
              tauto

theorem Control.parseInitialize_eq_done_iff
    {fds : List OwnedFd} {params : InitializeParams} {parsed : Parsed} :
    Control.parseInitialize crates fds params = .done parsed ↔
      (1 ≤ params.vms.length ∧ params.vms.length ≤ maxVms) ∧
        fds.length = params.vms.length ∧
        ∃ vmNetType vms, params.vmNetType.getD "nat" = vmNetType.keyword ∧
          List.Forall₂ (VmParams.Means crates) params.vms vms ∧
          parsed = ⟨.initializeVms vmNetType vms, fds⟩ := by
  unfold Control.parseInitialize
  split
  · next hcount => exact iff_of_false nofun fun h => hcount h.1
  · next hcount =>
      split
      · next hfds => exact iff_of_false nofun fun h => hfds h.2.1
      · next hfds =>
          rw [not_not] at hcount hfds
          have hvm : ∀ (vm : VmParams × OwnedFd) (parsed : VmConfig × OwnedFd),
              (Control.parseVm crates vm.1 >>= fun config => Attempt.done (config, vm.2)) =
                .done parsed ↔ vm.1.Means crates parsed.1 ∧ vm.2 = parsed.2 := by
            rintro vm ⟨config, fd⟩
            simp [Control.parseVm_eq_done_iff]
          simp only [Attempt.bind_eq_done_iff, Control.parseNetType_eq_done_iff,
            Attempt.mapM_eq_done_iff, Attempt.pure_eq_done, hvm, forall₂_zip_iff hfds,
            Attempt.done.injEq]
          constructor
          · rintro ⟨vmNetType, hnet, vms, ⟨hmeans, rfl⟩, rfl⟩
            exact ⟨hcount, hfds, vmNetType, _, hnet, hmeans, rfl⟩
          · rintro ⟨_, _, vmNetType, vms, hnet, hmeans, rfl⟩
            have hlength : fds.length = vms.length := hfds.trans hmeans.length_eq
            have hfst : (vms.zip fds).map Prod.fst = vms :=
              List.map_fst_zip hlength.ge
            have hsnd : (vms.zip fds).map Prod.snd = fds :=
              List.map_snd_zip hlength.le
            exact ⟨vmNetType, hnet, vms.zip fds, ⟨by rwa [hfst], hsnd⟩, by rw [hfst, hsnd]⟩

theorem RpcRequest.parseParams_eq_done_iff
    {α : Type} {request : RpcRequest} {read : Json.Value → Option α} {value : α} :
    request.parseParams crates read = .done value ↔
      read (request.params.getD .null) = some value := by
  rw [RpcRequest.parseParams, Attempt.ofOption_eq_done_iff]

/-- The target of `softnet.policy.get` may be left out with all parameters. -/
theorem Control.parseGetParams_eq_done_iff
    {request : RpcRequest} {params : GetParams} :
    Control.parseGetParams crates request = .done params ↔
      request.params.getD .null = .null ∧ params = ⟨none⟩ ∨
        (∃ members, request.params.getD .null = .object members) ∧
          params.IsSpelled (request.params.getD .null) := by
  simp only [Control.parseGetParams, Attempt.bind_eq_done_iff,
    RpcRequest.parseParams_eq_done_iff, Option.some.injEq, exists_eq_left']
  cases hdoc : request.params.getD .null with
  | null => simp [eq_comm]
  | object members =>
      simp [RpcRequest.parseParams_eq_done_iff, hdoc, GetParams.ofJson_eq_some_iff]
  | bool | number | string | array => simp

/-- A method is executed exactly if its parameters mean a request. -/
theorem Control.parseMethod_eq_done_iff
    {request : RpcRequest} {fds : List OwnedFd} {parsed : Parsed} :
    Control.parseMethod crates request fds = .done parsed ↔
      Accepted crates request.method (request.params.getD .null) fds parsed := by
  generalize hdoc : request.params.getD .null = doc
  unfold Control.parseMethod
  split
  · next hmethod =>
      simp only [Attempt.bind_eq_done_iff, RpcRequest.parseParams_eq_done_iff, hdoc,
        InitializeParams.ofJson_eq_some_iff, Control.parseInitialize_eq_done_iff]
      constructor
      · rintro ⟨params, hspelled, hcount, hfds, vmNetType, vms, hnet, hmeans, rfl⟩
        exact .initializeVms hmethod hspelled hcount hfds hnet hmeans
      · intro h
        cases h with
        | initializeVms called spelled count descriptors netType means =>
            exact ⟨_, spelled, count, descriptors, _, _, netType, means, rfl⟩
        | policyGetDefault called | policyGet called | policySet called =>
            exact absurd (called.symm.trans hmethod) (by decide)
  · next hinitialize =>
      split
      · next hmethod =>
          simp only [Attempt.bind_eq_done_iff, Control.parseGetParams_eq_done_iff, hdoc,
            Control.parseVmId_eq_done_iff, Attempt.pure_eq_done, Attempt.done.injEq]
          constructor
          · rintro ⟨params, ⟨rfl, rfl⟩ | ⟨⟨members, rfl⟩, hspelled⟩, vmId, htarget, rfl⟩
            · cases vmId with
              | none => exact .policyGetDefault hmethod
              | some vmId => cases htarget
            · exact .policyGet hmethod hspelled htarget
          · intro h
            cases h with
            | policyGetDefault => exact ⟨_, .inl ⟨rfl, rfl⟩, none, rfl, rfl⟩
            | policyGet called spelled target =>
                exact ⟨_, .inr ⟨⟨_, rfl⟩, spelled⟩, _, target, rfl⟩
            | initializeVms called | policySet called =>
                exact absurd (called.symm.trans hmethod) (by decide)
      · next hget =>
          split
          · next hmethod =>
              simp only [Attempt.bind_eq_done_iff, RpcRequest.parseParams_eq_done_iff, hdoc,
                SetParams.ofJson_eq_some_iff, Control.parseVmId_eq_done_iff,
                parsePolicy_eq_done_iff, Attempt.pure_eq_done, Attempt.done.injEq]
              constructor
              · rintro ⟨params, hspelled, vmId, htarget, ⟨allow, block⟩,
                  ⟨hcount, hallow, hblock⟩, rfl⟩
                exact .policySet hmethod hspelled htarget hcount hallow hblock
              · intro h
                cases h with
                | policySet called spelled target rules allows blocks =>
                    exact ⟨_, spelled, _, target, (_, _), ⟨rules, allows, blocks⟩, rfl⟩
                | initializeVms called | policyGetDefault called | policyGet called =>
                    exact absurd (called.symm.trans hmethod) (by decide)
          · next hset =>
              refine iff_of_false (by simp) fun h => ?_
              cases h with
              | initializeVms called => exact hinitialize called
              | policyGetDefault called | policyGet called => exact hget called
              | policySet called => exact hset called

end Methods

/-! ## What is wrong with other parameters -/

/-- The methods of the control socket. -/
def controlMethods : List String :=
  ["softnet.initialize", "softnet.policy.get", "softnet.policy.set"]

/-- The parameters have the shape that the method asks for. -/
inductive IsShaped : String → Json.Value → Prop
  | initializeVms
      {method : String} {doc : Json.Value} {params : InitializeParams}
      (called : method = "softnet.initialize")
      (spelled : params.IsSpelled doc) :
      IsShaped method doc
  | policyGetDefault
      {method : String}
      (called : method = "softnet.policy.get") :
      IsShaped method .null
  | policyGet
      {method : String} {members : List (String × Json.Value)} {params : GetParams}
      (called : method = "softnet.policy.get")
      (spelled : params.IsSpelled (.object members)) :
      IsShaped method (.object members)
  | policySet
      {method : String} {doc : Json.Value} {params : SetParams}
      (called : method = "softnet.policy.set")
      (spelled : params.IsSpelled doc) :
      IsShaped method doc

/-- Why a method is not executed, and with which error it is answered. -/
inductive Refused
    (crates : ControlCrates)
    (method : String)
    (doc : Json.Value)
    (fds : List OwnedFd) :
    RpcError → Prop
  | unknownMethod
      (unknown : method ∉ controlMethods) :
      Refused crates method doc fds ⟨methodNotFoundCode, "method not found", none⟩
  | untargeted
      (called : method = "softnet.policy.get")
      (nonNull : doc ≠ .null)
      (unlisted : ∀ members, doc ≠ .object members) :
      Refused crates method doc fds ⟨invalidParamsCode, "invalid policy target", none⟩
  /-- The data of the error says what is wrong with the shape. -/
  | misshapen
      (known : method ∈ controlMethods)
      (targeted : method = "softnet.policy.get" → ∃ members, doc = .object members)
      (unshaped : ¬ IsShaped method doc)
      (complaint : String) :
      Refused crates method doc fds
        ⟨invalidParamsCode, crates.invalidParamsText, some complaint⟩
  | meaningless
      {error : RpcError}
      (shaped : IsShaped method doc)
      (meaningless : ∀ parsed, ¬ Accepted crates method doc fds parsed)
      (code : error.code = invalidParamsCode)
      (data : error.data = none) :
      Refused crates method doc fds error

section Refusals

open Attempt

variable {crates : ControlCrates}

def IsInvalidParams (error : RpcError) : Prop :=
  error.code = invalidParamsCode ∧ error.data = none

theorem isInvalidParams_invalidParams (message : String) :
    IsInvalidParams (invalidParams message) :=
  ⟨rfl, rfl⟩

theorem parsePolicy_settles
    (reader : RuleReader)
    (allow block : List String) :
    Settles IsInvalidParams (parsePolicy reader allow block) := by
  have hrule : ∀ rule : String, Settles IsInvalidParams
      ((Rule.fromStr reader rule).mapError fun _ =>
        rpcError invalidParamsCode ("invalid rule " ++ reader.debugText rule)) := by
    intro rule
    have hparsed : Settles (fun _ => True) (Rule.fromStr reader rule) :=
      ⟨Rule.fromStr_ne_panicked rule, fun _ _ => trivial⟩
    exact hparsed.mapError fun _ _ => isInvalidParams_invalidParams _
  unfold parsePolicy
  split
  · exact .failed (isInvalidParams_invalidParams _)
  · exact (Settles.mapM hrule allow).bind fun _ _ =>
      (Settles.mapM hrule block).bind fun _ _ => .done _

theorem Control.parseVmId_settles (vmId : Option String) :
    Settles IsInvalidParams (Control.parseVmId crates vmId) :=
  .transpose (fun _ => .ofOption fun _ => isInvalidParams_invalidParams _) vmId

theorem Control.parseVm_settles (params : VmParams) :
    Settles IsInvalidParams (Control.parseVm crates params) := by
  have hport : ∀ port : String, Settles IsInvalidParams
      ((ofExcept (ExposedPort.fromStr crates.reader port)).mapError fun _ =>
        invalidParams "invalid exposed port specification") := by
    intro port
    have hparsed : Settles (fun _ => True) (ofExcept (ExposedPort.fromStr crates.reader port)) :=
      ⟨ofExcept_ne_panicked _, fun _ _ => trivial⟩
    exact hparsed.mapError fun _ _ => isInvalidParams_invalidParams _
  refine (Settles.ofOption fun _ => isInvalidParams_invalidParams _).bind fun _ _ => ?_
  refine (Settles.transpose (fun _ => .ofOption fun _ => isInvalidParams_invalidParams _) _).bind
    fun _ _ => ?_
  refine (parsePolicy_settles _ _ _).bind fun _ _ => ?_
  exact (Settles.mapM hport _).bind fun _ _ => .done _

theorem Control.parseNetType_settles (vmNetType : Option String) :
    Settles IsInvalidParams (Control.parseNetType vmNetType) := by
  unfold Control.parseNetType
  dsimp only
  split
  · exact .done _
  · split
    · exact .done _
    · exact .failed (isInvalidParams_invalidParams _)

theorem Control.parseInitialize_settles
    (fds : List OwnedFd)
    (params : InitializeParams) :
    Settles IsInvalidParams (Control.parseInitialize crates fds params) := by
  unfold Control.parseInitialize
  split
  · exact .failed (isInvalidParams_invalidParams _)
  · split
    · exact .failed (isInvalidParams_invalidParams _)
    · refine (Control.parseNetType_settles _).bind fun _ _ => ?_
      refine (Settles.mapM (fun vm => ?_) _).bind fun _ _ => .done _
      exact (Control.parseVm_settles vm.1).bind fun _ _ => .done _

theorem IsShaped.initializeParams
    {method : String} {doc : Json.Value}
    (h : IsShaped method doc)
    (called : method = "softnet.initialize") :
    InitializeParams.ofJson doc ≠ none := by
  cases h with
  | initializeVms _ spelled => simp [InitializeParams.ofJson_eq_some_iff.mpr spelled]
  | policyGetDefault other | policyGet other | policySet other =>
      exact absurd (other.symm.trans called) (by decide)

theorem IsShaped.getParams
    {method : String} {members : List (String × Json.Value)}
    (h : IsShaped method (.object members))
    (called : method = "softnet.policy.get") :
    GetParams.ofJson (.object members) ≠ none := by
  cases h with
  | policyGet _ spelled => simp [GetParams.ofJson_eq_some_iff.mpr spelled]
  | initializeVms other | policySet other =>
      exact absurd (other.symm.trans called) (by decide)

theorem IsShaped.setParams
    {method : String} {doc : Json.Value}
    (h : IsShaped method doc)
    (called : method = "softnet.policy.set") :
    SetParams.ofJson doc ≠ none := by
  cases h with
  | policySet _ spelled => simp [SetParams.ofJson_eq_some_iff.mpr spelled]
  | initializeVms other | policyGetDefault other | policyGet other =>
      exact absurd (other.symm.trans called) (by decide)

/-- Parameters that mean a request have the shape of it. -/
theorem Accepted.isShaped
    {method : String} {doc : Json.Value} {fds : List OwnedFd} {parsed : Parsed}
    (h : Accepted crates method doc fds parsed) :
    IsShaped method doc := by
  cases h with
  | initializeVms called spelled => exact .initializeVms called spelled
  | policyGetDefault called => exact .policyGetDefault called
  | policyGet called spelled => exact .policyGet called spelled
  | policySet called spelled => exact .policySet called spelled

theorem IsShaped.mem_controlMethods
    {method : String} {doc : Json.Value}
    (h : IsShaped method doc) :
    method ∈ controlMethods := by
  cases h with
  | initializeVms called | policyGetDefault called | policyGet called | policySet called =>
      simp [called, controlMethods]

/-- What is refused means no request. -/
theorem Refused.not_accepted
    {method : String} {doc : Json.Value} {fds : List OwnedFd} {error : RpcError} {parsed : Parsed}
    (h : Refused crates method doc fds error) :
    ¬ Accepted crates method doc fds parsed := by
  intro haccepted
  have hshaped := haccepted.isShaped
  cases h with
  | unknownMethod unknown => exact unknown hshaped.mem_controlMethods
  | untargeted called nonNull unlisted =>
      cases hshaped with
      | policyGetDefault => exact nonNull rfl
      | policyGet => exact unlisted _ rfl
      | initializeVms other | policySet other =>
          exact absurd (other.symm.trans called) (by decide)
  | misshapen known targeted unshaped => exact unshaped hshaped
  | meaningless shaped meaningless => exact meaningless parsed haccepted

/-- Parameters are read, or have another shape. -/
theorem RpcRequest.parseParams_settles
    {α : Type} {request : RpcRequest} {read : Json.Value → Option α} {refused : RpcError → Prop}
    (h : read (request.params.getD .null) = none →
      ∀ complaint, refused ⟨invalidParamsCode, crates.invalidParamsText, some complaint⟩) :
    Settles refused (request.parseParams crates read) :=
  .ofOption fun hnone => h hnone _

/-- The parameters of `softnet.policy.get` are read, or refused for their kind or their shape. -/
theorem Control.parseGetParams_settles
    (request : RpcRequest)
    (fds : List OwnedFd)
    (called : request.method = "softnet.policy.get") :
    Settles (Refused crates request.method (request.params.getD .null) fds)
      (Control.parseGetParams crates request) := by
  refine (RpcRequest.parseParams_settles nofun).bind fun value hvalue => ?_
  rw [RpcRequest.parseParams_eq_done_iff, Option.some.injEq] at hvalue
  rw [hvalue]
  split
  · exact .done _
  · next members =>
      refine RpcRequest.parseParams_settles fun hnone complaint => ?_
      rw [hvalue] at hnone
      exact .misshapen (by simp [called, controlMethods]) (fun _ => ⟨members, rfl⟩)
        (fun shaped => shaped.getParams called hnone) complaint
  · next hnull hobject => exact .failed (.untargeted called hnull hobject)

/-- A method is executed, or refused for a reason. -/
theorem Control.parseMethod_settles
    (request : RpcRequest)
    (fds : List OwnedFd) :
    Settles
      (fun error =>
        (∀ parsed, ¬ Accepted crates request.method (request.params.getD .null) fds parsed) →
          Refused crates request.method (request.params.getD .null) fds error)
      (Control.parseMethod crates request fds) := by
  generalize hdoc : request.params.getD .null = doc
  -- Once the shape is right, what is wrong is the meaning
  have hshaped : ∀ attempt : Attempt RpcError Parsed, IsShaped request.method doc →
      Settles IsInvalidParams attempt →
      Settles
        (fun error =>
          (∀ parsed, ¬ Accepted crates request.method doc fds parsed) →
            Refused crates request.method doc fds error) attempt :=
    fun attempt shaped h => h.imp fun error invalid meaningless =>
      .meaningless shaped meaningless invalid.1 invalid.2
  unfold Control.parseMethod
  split
  · next hmethod =>
      refine (RpcRequest.parseParams_settles fun hnone complaint _ => ?_).bind
        fun params hparams => ?_
      · rw [hdoc] at hnone
        exact .misshapen (by simp [hmethod, controlMethods]) (by simp [hmethod])
          (fun shaped => shaped.initializeParams hmethod hnone) complaint
      · rw [RpcRequest.parseParams_eq_done_iff, hdoc,
          InitializeParams.ofJson_eq_some_iff] at hparams
        exact hshaped _ (.initializeVms hmethod hparams) (Control.parseInitialize_settles fds _)
  · next hinitialize =>
      split
      · next hmethod =>
          have htarget : Settles _ (Control.parseGetParams crates request) :=
            Control.parseGetParams_settles request fds hmethod
          rw [hdoc] at htarget
          refine (htarget.imp fun _ refused _ => refused).bind fun params hparams => ?_
          rw [Control.parseGetParams_eq_done_iff, hdoc] at hparams
          refine hshaped _ ?_ ((Control.parseVmId_settles _).bind fun _ _ => .done _)
          rcases hparams with ⟨rfl, _⟩ | ⟨⟨members, rfl⟩, hspelled⟩
          · exact .policyGetDefault hmethod
          · exact .policyGet hmethod hspelled
      · next hget =>
          split
          · next hmethod =>
              refine (RpcRequest.parseParams_settles fun hnone complaint _ => ?_).bind
                fun params hparams => ?_
              · rw [hdoc] at hnone
                exact .misshapen (by simp [hmethod, controlMethods]) (by simp [hmethod])
                  (fun shaped => shaped.setParams hmethod hnone) complaint
              · rw [RpcRequest.parseParams_eq_done_iff, hdoc,
                  SetParams.ofJson_eq_some_iff] at hparams
                exact hshaped _ (.policySet hmethod hparams)
                  ((Control.parseVmId_settles _).bind fun _ _ =>
                    (parsePolicy_settles _ _ _).bind fun _ _ => .done _)
          · next hset =>
              exact .failed fun _ =>
                .unknownMethod (by simp [controlMethods, hinitialize, hget, hset])

end Refusals

end Softnet
