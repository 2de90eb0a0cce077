import Softnet.Control.Parameters

/-!
# What the control socket accepts

The frames that `Control::parse` in `lib/control.rs` hands to the manager, and what it answers to
the others.  A frame is accepted exactly if its line is an object with the members of a JSON-RPC
request, in any order, and the parameters mean a request; every other frame is answered with an
error that names the id of the request wherever there is one.
-/

namespace Softnet

/-! ## Envelopes -/

/-- The members of a JSON-RPC request. -/
def envelope (id : RpcId) (method : String) (params : Option Json.Value) :
    List (String × Json.Value) :=
  [("jsonrpc", .string "2.0"), ("id", id.toJson), ("method", .string method)] ++
    (params.map ("params", ·)).toList

/-- The document is a request with an id, its members in any order. -/
structure IsEnvelope
    (doc : Json.Value)
    (id : RpcId)
    (method : String)
    (params : Option Json.Value) :
    Prop where
  members : ∃ members, doc = .object members ∧ members.Perm (envelope id method params)
  identified : id ≠ .null

section Envelopes

open Json

variable {doc : Value}
variable {id : RpcId}
variable {method : String}
variable {params : Option Value}

@[simp] theorem RpcId.ofJson_toJson (id : RpcId) : RpcId.ofJson id.toJson = some id := by
  cases id <;> rfl

theorem RpcId.ofJson_eq_some_iff
    {value : Value} :
    RpcId.ofJson value = some id ↔ value = id.toJson := by
  unfold RpcId.ofJson
  split
  · cases id <;> simp [RpcId.toJson]
  · cases id <;> simp [RpcId.toJson, eq_comm]
  · cases id <;> simp [RpcId.toJson, eq_comm]
  · next hnull hnumber hstring =>
      refine iff_of_false nofun ?_
      rintro rfl
      cases id with
      | null => exact hnull rfl
      | number value => exact hnumber value rfl
      | str value => exact hstring value rfl

/-- What a request takes for its parameters. -/
def nonNull : Value → Option Value
  | .null => none
  | value => some value

theorem nullable_some (value : Value) : nullable some value = some (nonNull value) := by
  cases value <;> rfl

theorem getD_bind_nonNull (params : Option Value) :
    (params.bind nonNull).getD .null = params.getD .null := by
  rcases params with _ | value
  · rfl
  · cases value <;> rfl

/-- The slots of a request. -/
def envelopeSlots (id : RpcId) (method : String) (params : Option Value) : List Slot :=
  [.given (.string "2.0"), .given id.toJson, .given (.string method), .ofMember params]

theorem spelled_envelopeSlots :
    spelled envelopeFields (envelopeSlots id method params) = envelope id method params := by
  cases params <;> rfl

theorem envelopeFields_nodup : envelopeFields.Nodup := by
  decide

/-- A request is read from its four slots. -/
theorem RpcRequest.ofJson_of_slots
    (line : String)
    (h : doc.slots false envelopeFields = some (envelopeSlots id method params)) :
    RpcRequest.ofJson line doc = some ⟨id, method, params.bind nonNull, line⟩ := by
  unfold RpcRequest.ofJson
  rw [h]
  cases params with
  | none => simp [envelopeSlots, Slot.required, Slot.optional, Slot.ofMember, readString]
  | some value =>
      simp [envelopeSlots, Slot.required, Slot.optional, Slot.ofMember, readString,
        nullable_some]

theorem RpcRequest.slots_of_ofJson
    {line : String} {request : RpcRequest}
    (h : RpcRequest.ofJson line doc = some request) :
    ∃ found, doc.slots false envelopeFields = some found ∧
      ((∀ slot ∈ found, slot ≠ .cutOff) →
        ∃ params, found = envelopeSlots request.id request.method params) := by
  unfold RpcRequest.ofJson at h
  split at h
  · next jsonrpc id method params hslots =>
      refine ⟨_, hslots, fun huncut => ?_⟩
      simp only [Option.bind_eq_bind, Option.bind_eq_some_iff] at h
      obtain ⟨version, hversion, h⟩ := h
      split at h
      · cases h
      · next hcurrent =>
          rw [not_not] at hcurrent
          subst hcurrent
          simp only [Option.bind_eq_some_iff, Option.pure_def, Option.some.injEq] at h
          obtain ⟨_, hid, _, hmethod, _, hparams, rfl⟩ := h
          cases jsonrpc with
          | missing | cutOff => cases hversion
          | given version =>
              cases id with
              | missing | cutOff => cases hid
              | given id =>
                  cases method with
                  | missing | cutOff => cases hmethod
                  | given method =>
                      cases readString_eq_some_iff.mp hversion
                      cases RpcId.ofJson_eq_some_iff.mp hid
                      cases readString_eq_some_iff.mp hmethod
                      cases params with
                      | given params => exact ⟨some params, rfl⟩
                      | missing => exact ⟨none, rfl⟩
                      | cutOff => exact absurd rfl (huncut _ (by simp))
  · cases h

theorem Control.strictEnvelope_iff :
    Control.strictEnvelope doc = true ↔
      ∃ members, doc = .object members ∧ members.map Prod.fst ⊆ envelopeFields := by
  cases doc with
  | object members => simp [Control.strictEnvelope, List.subset_def]
  | _ => simp [Control.strictEnvelope]

theorem envelope_keys_nodup : ((envelope id method params).map Prod.fst).Nodup := by
  rw [← spelled_envelopeSlots]
  exact envelopeFields_nodup.sublist keys_spelled_sublist

theorem get_of_perm_envelope
    {members : List (String × Value)}
    (h : members.Perm (envelope id method params))
    (key : String) :
    (Value.object members).get key = (envelope id method params).lookup key := by
  have hnodup : (members.map Prod.fst).Nodup :=
    (h.map Prod.fst).nodup_iff.mpr envelope_keys_nodup
  rw [get_object hnodup, lookup_of_perm hnodup h]

theorem IsEnvelope.get_eq
    (h : IsEnvelope doc id method params) :
    doc.get "id" = some id.toJson ∧ doc.get "method" = some (.string method) ∧
      doc.get "params" = params := by
  obtain ⟨⟨members, rfl, hperm⟩, _⟩ := h
  simp only [get_of_perm_envelope hperm]
  cases params <;> exact ⟨rfl, rfl, rfl⟩

/-- A document is one request at most. -/
theorem IsEnvelope.unique
    {id' : RpcId} {method' : String} {params' : Option Value}
    (h : IsEnvelope doc id method params)
    (h' : IsEnvelope doc id' method' params') :
    id = id' ∧ method = method' ∧ params = params' := by
  obtain ⟨hid, hmethod, hparams⟩ := h.get_eq
  obtain ⟨hid', hmethod', hparams'⟩ := h'.get_eq
  refine ⟨?_, ?_, hparams.symm.trans hparams'⟩
  · have hsame := congrArg (·.bind RpcId.ofJson) (hid.symm.trans hid')
    simpa using hsame
  · simpa using hmethod.symm.trans hmethod'

theorem Control.validId_of_get
    (h : doc.get "id" = some id.toJson) :
    Control.validId doc = true ↔ id ≠ .null := by
  unfold Control.validId
  rw [h]
  cases id <;> simp [RpcId.toJson]

theorem keys_subset_of_perm_envelope
    {members : List (String × Value)}
    (h : members.Perm (envelope id method params)) :
    members.map Prod.fst ⊆ envelopeFields := by
  intro key hkey
  rw [(h.map Prod.fst).mem_iff, ← spelled_envelopeSlots] at hkey
  exact keys_spelled_sublist.subset hkey

/-- The members of a request fill its four slots. -/
theorem slots_of_perm_envelope
    {members : List (String × Value)}
    (h : members.Perm (envelope id method params)) :
    (Value.object members).slots false envelopeFields =
      some (envelopeSlots id method params) := by
  have hkeys := keys_subset_of_perm_envelope h
  rw [slots_lenient fun _ hmembers => by cases hmembers; exact hkeys,
    slots_object_iff envelopeFields_nodup]
  refine ⟨rfl, ?_, by rwa [spelled_envelopeSlots]⟩
  cases params <;> simp [envelopeSlots, Slot.ofMember]

/-- An object with no other members that is read as a request is one. -/
theorem perm_envelope_of_ofJson
    {line : String} {members : List (String × Value)} {request : RpcRequest}
    (hkeys : members.map Prod.fst ⊆ envelopeFields)
    (hread : RpcRequest.ofJson line (.object members) = some request) :
    ∃ params, members.Perm (envelope request.id request.method params) ∧
      request.params = params.bind nonNull ∧ request.line = line := by
  obtain ⟨found, hslots, hfound⟩ := RpcRequest.slots_of_ofJson hread
  have hlenient : (Value.object members).slots false envelopeFields =
      (Value.object members).slots true envelopeFields :=
    slots_lenient fun _ hmembers => by cases hmembers; exact hkeys
  obtain ⟨_, huncut, hperm⟩ :=
    (slots_object_iff envelopeFields_nodup).mp (hlenient.symm.trans hslots)
  obtain ⟨params, rfl⟩ := hfound huncut
  rw [spelled_envelopeSlots] at hperm
  have hsame := hread.symm.trans (RpcRequest.ofJson_of_slots line hslots)
  rw [Option.some.injEq] at hsame
  exact ⟨params, hperm, congrArg RpcRequest.params hsame, congrArg RpcRequest.line hsame⟩

/-- A line is read as a request exactly if it is an envelope. -/
theorem Control.parseRequest_eq_ok_iff
    {crates : ControlCrates} {line : String} {request : RpcRequest} :
    Control.parseRequest crates line = .ok request ↔
      ∃ doc params, crates.fromStr line = some doc ∧
        IsEnvelope doc request.id request.method params ∧
        request.params = params.bind nonNull ∧ request.line = line := by
  constructor
  · intro h
    unfold Control.parseRequest at h
    split at h
    · cases h
    · next doc hdoc =>
        split at h
        · next read hread =>
            split at h
            · next hvalid =>
                cases h
                obtain ⟨hstrict, hid⟩ := hvalid
                obtain ⟨members, rfl, hkeys⟩ := Control.strictEnvelope_iff.mp hstrict
                obtain ⟨params, hperm, hrest⟩ := perm_envelope_of_ofJson hkeys hread
                refine ⟨_, params, hdoc, ⟨⟨members, rfl, hperm⟩, ?_⟩, hrest⟩
                exact (Control.validId_of_get (get_of_perm_envelope hperm "id")).mp hid
            · cases h
        · cases h
  · rintro ⟨doc, params, hdoc, ⟨⟨members, rfl, hperm⟩, hid⟩, hparams, rfl⟩
    have hstrict : Control.strictEnvelope (.object members) = true :=
      Control.strictEnvelope_iff.mpr ⟨members, rfl, keys_subset_of_perm_envelope hperm⟩
    have hvalid : Control.validId (.object members) = true :=
      (Control.validId_of_get (get_of_perm_envelope hperm "id")).mpr hid
    have hrequest :
        (⟨request.id, request.method, params.bind nonNull, request.line⟩ : RpcRequest) =
          request := by
      rw [← hparams]
    unfold Control.parseRequest
    rw [hdoc]
    dsimp only
    rw [RpcRequest.ofJson_of_slots request.line (slots_of_perm_envelope hperm)]
    dsimp only
    rw [if_pos ⟨hstrict, hvalid⟩, hrequest]

end Envelopes

/-! ## Frames -/

/-- The document has this id, in the last of its members of that name. -/
structure HasId (doc : Json.Value) (id : RpcId) : Prop where
  member : ∃ before after,
    doc = .object (before ++ ("id", id.toJson) :: after) ∧ "id" ∉ after.map Prod.fst
  identified : id ≠ .null

/-- The frame is this request, with this id. -/
def IsRequest (crates : ControlCrates) (frame : Frame) (id : RpcId) (parsed : Parsed) : Prop :=
  ∃ line doc method params, frame.line = .ok line ∧ crates.fromStr line = some doc ∧
    IsEnvelope doc id method params ∧
    Accepted crates method (params.getD .null) frame.fds parsed

/-- Why a frame is answered with an error, which, and with whose id. -/
inductive Rejected (crates : ControlCrates) (frame : Frame) : RpcId → RpcError → Prop
  | unframed
      {error : FrameError}
      (line : frame.line = .error error) :
      Rejected crates frame .null ⟨parseErrorCode, error.text, none⟩
  | unreadable
      {line : String}
      (framed : frame.line = .ok line)
      (unread : crates.fromStr line = none) :
      Rejected crates frame .null ⟨parseErrorCode, "invalid JSON-RPC frame", none⟩
  | invalid
      {line : String} {doc : Json.Value} {id : RpcId}
      (framed : frame.line = .ok line)
      (read : crates.fromStr line = some doc)
      (unenveloped : ∀ id method params, ¬ IsEnvelope doc id method params)
      (identified : HasId doc id) :
      Rejected crates frame id ⟨invalidRequestCode, "invalid JSON-RPC request", none⟩
  | unidentified
      {line : String} {doc : Json.Value}
      (framed : frame.line = .ok line)
      (read : crates.fromStr line = some doc)
      (anonymous : ∀ id, ¬ HasId doc id) :
      Rejected crates frame .null ⟨invalidRequestCode, "invalid JSON-RPC request", none⟩
  | refused
      {line : String} {doc : Json.Value} {id : RpcId} {method : String}
      {params : Option Json.Value} {error : RpcError}
      (framed : frame.line = .ok line)
      (read : crates.fromStr line = some doc)
      (enveloped : IsEnvelope doc id method params)
      (refused : Refused crates method (params.getD .null) frame.fds error) :
      Rejected crates frame id error

section Frames

variable {crates : ControlCrates}
variable {frame : Frame}

theorem hasId_iff
    {doc : Json.Value} {id : RpcId} :
    HasId doc id ↔ doc.get "id" = some id.toJson ∧ id ≠ .null := by
  constructor
  · rintro ⟨⟨before, after, rfl, hlast⟩, hid⟩
    exact ⟨Json.get_eq_some_iff.mpr ⟨before, after, rfl, hlast⟩, hid⟩
  · rintro ⟨hget, hid⟩
    cases doc with
    | object members =>
        obtain ⟨before, after, rfl, hlast⟩ := Json.get_eq_some_iff.mp hget
        exact ⟨⟨before, after, rfl, hlast⟩, hid⟩
    | null | bool | number | string | array => cases hget

theorem IsEnvelope.hasId
    {doc : Json.Value} {id : RpcId} {method : String} {params : Option Json.Value}
    (h : IsEnvelope doc id method params) :
    HasId doc id :=
  hasId_iff.mpr ⟨h.get_eq.1, h.identified⟩

/-- A frame that is rejected is no request. -/
theorem Rejected.not_isRequest
    {id id' : RpcId} {error : RpcError} {parsed : Parsed}
    (h : Rejected crates frame id error) :
    ¬ IsRequest crates frame id' parsed := by
  rintro ⟨line, doc, method, params, hline, hdoc, henvelope, haccepted⟩
  cases h with
  | unframed unframed => cases unframed.symm.trans hline
  | unreadable framed unread =>
      cases framed.symm.trans hline
      cases unread.symm.trans hdoc
  | invalid framed read unenveloped =>
      cases framed.symm.trans hline
      cases read.symm.trans hdoc
      exact unenveloped _ _ _ henvelope
  | unidentified framed read anonymous =>
      cases framed.symm.trans hline
      cases read.symm.trans hdoc
      exact anonymous _ henvelope.hasId
  | refused framed read enveloped refused =>
      cases framed.symm.trans hline
      cases read.symm.trans hdoc
      obtain ⟨_, rfl, rfl⟩ := enveloped.unique henvelope
      exact refused.not_accepted haccepted

/-- The id of an error response is the id of the document wherever there is one. -/
theorem Control.recoveredId_cases (doc : Json.Value) :
    HasId doc (Control.recoveredId doc) ∨
      Control.recoveredId doc = .null ∧ ∀ id, ¬ HasId doc id := by
  unfold Control.recoveredId
  split
  · next value hget => exact .inl (hasId_iff.mpr ⟨hget, nofun⟩)
  · next value hget => exact .inl (hasId_iff.mpr ⟨hget, nofun⟩)
  · next hstring hnumber =>
      refine .inr ⟨rfl, fun id hid => ?_⟩
      obtain ⟨hget, hidentified⟩ := hasId_iff.mp hid
      cases id with
      | null => exact hidentified rfl
      | number value => exact hnumber value hget
      | str value => exact hstring value hget

/-- What is no request is rejected with the id that it has. -/
theorem Rejected.of_unenveloped
    {line : String} {doc : Json.Value}
    (framed : frame.line = .ok line)
    (read : crates.fromStr line = some doc)
    (unenveloped : ∀ id method params, ¬ IsEnvelope doc id method params) :
    Rejected crates frame (Control.recoveredId doc)
      ⟨invalidRequestCode, "invalid JSON-RPC request", none⟩ := by
  rcases Control.recoveredId_cases doc with hid | ⟨hnull, hanonymous⟩
  · exact .invalid framed read unenveloped hid
  · rw [hnull]
    exact .unidentified framed read hanonymous

theorem Control.rejected_of_parseRequest
    {line : String} {response : Response}
    (framed : frame.line = .ok line)
    (h : Control.parseRequest crates line = .error response) :
    ∃ error, response.result = .error error ∧ Rejected crates frame response.id error := by
  have hunenveloped : ∀ doc, crates.fromStr line = some doc →
      ∀ id method params, ¬ IsEnvelope doc id method params := by
    intro doc hdoc id method params henvelope
    have hok : Control.parseRequest crates line = .ok ⟨id, method, params.bind nonNull, line⟩ :=
      Control.parseRequest_eq_ok_iff.mpr ⟨doc, params, hdoc, henvelope, rfl, rfl⟩
    rw [h] at hok
    cases hok
  unfold Control.parseRequest at h
  split at h
  · next hunread =>
      cases h
      exact ⟨_, rfl, .unreadable framed hunread⟩
  · next doc hdoc =>
      split at h
      · split at h
        · cases h
        · cases h
          exact ⟨_, rfl, .of_unenveloped framed hdoc (hunenveloped doc hdoc)⟩
      · cases h
        exact ⟨_, rfl, .of_unenveloped framed hdoc (hunenveloped doc hdoc)⟩

theorem Control.parse_of_error
    {line : String} {response : Response}
    (framed : frame.line = .ok line)
    (h : Control.parseRequest crates line = .error response) :
    Control.parse crates frame = .failed response := by
  unfold Control.parse
  rw [framed]
  dsimp only
  rw [h]
  rfl

theorem Control.parse_of_request
    {line : String} {request : RpcRequest}
    (framed : frame.line = .ok line)
    (h : Control.parseRequest crates line = .ok request) :
    Control.parse crates frame =
      ((Control.parseMethod crates request frame.fds).mapError fun error =>
        (⟨request.id, .error error⟩ : Response)) >>= fun parsed => pure (request.id, parsed) := by
  unfold Control.parse
  rw [framed]
  dsimp only
  rw [h]
  rfl

/-- What is handed to the manager is the request that the frame is. -/
theorem Control.isRequest_of_parse
    {id : RpcId} {parsed : Parsed}
    (h : Control.parse crates frame = .done (id, parsed)) :
    IsRequest crates frame id parsed := by
  unfold Control.parse at h
  cases hline : frame.line with
  | error error =>
      rw [hline] at h
      cases h
  | ok line =>
      rw [hline] at h
      simp only [Attempt.bind_eq_done_iff, Attempt.ofExcept_eq_done_iff,
        Attempt.mapError_eq_done_iff, Control.parseRequest_eq_ok_iff,
        Control.parseMethod_eq_done_iff, Attempt.pure_eq_done, Attempt.done.injEq,
        Prod.mk.injEq] at h
      obtain ⟨request, ⟨doc, params, hdoc, henvelope, hparams, _⟩, _, haccepted, rfl, rfl⟩ := h
      rw [hparams, getD_bind_nonNull] at haccepted
      exact ⟨line, doc, request.method, params, hline, hdoc, henvelope, haccepted⟩

/-- A frame that is a request is handed to the manager. -/
theorem IsRequest.parse
    {id : RpcId} {parsed : Parsed}
    (h : IsRequest crates frame id parsed) :
    Control.parse crates frame = .done (id, parsed) := by
  obtain ⟨line, doc, method, params, hline, hdoc, henvelope, haccepted⟩ := h
  have hrequest : Control.parseRequest crates line =
      .ok ⟨id, method, params.bind nonNull, line⟩ :=
    Control.parseRequest_eq_ok_iff.mpr ⟨doc, params, hdoc, henvelope, rfl, rfl⟩
  have hmethod : Control.parseMethod crates ⟨id, method, params.bind nonNull, line⟩ frame.fds =
      .done parsed := by
    rw [Control.parseMethod_eq_done_iff, getD_bind_nonNull]
    exact haccepted
  rw [Control.parse_of_request hline hrequest, hmethod]
  rfl

/-- A frame that is answered at once is rejected for a reason. -/
theorem Control.rejected_of_parse
    {response : Response}
    (h : Control.parse crates frame = .failed response) :
    ∃ error, response.result = .error error ∧ Rejected crates frame response.id error := by
  cases hline : frame.line with
  | error error =>
      simp only [Control.parse, hline] at h
      cases h
      exact ⟨_, rfl, .unframed hline⟩
  | ok line =>
      cases hrequest : Control.parseRequest crates line with
      | error response =>
          rw [Control.parse_of_error hline hrequest] at h
          cases h
          exact Control.rejected_of_parseRequest hline hrequest
      | ok request =>
          obtain ⟨doc, params, hdoc, henvelope, hparams, _⟩ :=
            Control.parseRequest_eq_ok_iff.mp hrequest
          have hsettles : Attempt.Settles _ (Control.parseMethod crates request frame.fds) :=
            Control.parseMethod_settles request frame.fds
          have hmeans : ∀ parsed, Control.parseMethod crates request frame.fds = .done parsed ↔
              Accepted crates request.method (request.params.getD .null) frame.fds parsed :=
            fun _ => Control.parseMethod_eq_done_iff
          rw [hparams, getD_bind_nonNull] at hsettles hmeans
          rw [Control.parse_of_request hline hrequest] at h
          cases hmethod : Control.parseMethod crates request frame.fds with
          | done parsed =>
              rw [hmethod] at h
              cases h
          | panicked => exact absurd hmethod hsettles.ne_panicked
          | failed error =>
              rw [hmethod] at h
              cases h
              refine ⟨error, rfl, .refused hline hdoc henvelope ?_⟩
              refine hsettles.refused error hmethod fun parsed haccepted => ?_
              cases hmethod.symm.trans ((hmeans parsed).mpr haccepted)

theorem Control.parse_ne_panicked (crates : ControlCrates) (frame : Frame) :
    Control.parse crates frame ≠ .panicked := by
  cases hline : frame.line with
  | error error => simp [Control.parse, hline]
  | ok line =>
      cases hrequest : Control.parseRequest crates line with
      | error response =>
          rw [Control.parse_of_error hline hrequest]
          nofun
      | ok request =>
          have hsettles : Attempt.Settles _ (Control.parseMethod crates request frame.fds) :=
            Control.parseMethod_settles request frame.fds
          rw [Control.parse_of_request hline hrequest]
          cases hmethod : Control.parseMethod crates request frame.fds with
          | done parsed => nofun
          | failed error => nofun
          | panicked => exact absurd hmethod hsettles.ne_panicked

/--
What the control socket accepts.  A frame is handed to the manager exactly if its line is a JSON
object with the members of a JSON-RPC request and no others, in any order, whose id is a string
or a natural number, and if its parameters mean a request.  A request that sets up VMs takes all
descriptors of the frame, one for each VM and in the same order; no other request takes any.
-/
theorem accepted_frames_are_requests
    (crates : ControlCrates)
    (frame : Frame)
    (id : RpcId)
    (parsed : Parsed) :
    Control.parse crates frame = .done (id, parsed) ↔
      ∃ line doc method params, frame.line = .ok line ∧ crates.fromStr line = some doc ∧
        IsEnvelope doc id method params ∧
        Accepted crates method (params.getD .null) frame.fds parsed :=
  ⟨Control.isRequest_of_parse, IsRequest.parse⟩

/--
Whatever arrives on the control socket, parsing it does not panic, and a frame that is not
handed to the manager is answered with an error that is right about it: it names the id of the
request wherever there is one, and its code tells a broken frame or text, a broken envelope, an
unknown method and wrong parameters apart.  The error has data exactly where parameters have
another shape than the method asks for; only a policy target that is neither null nor an object
is refused without data.
-/
theorem rejected_frames_are_answered
    (crates : ControlCrates)
    (frame : Frame) :
    Control.parse crates frame ≠ .panicked ∧
      ∀ response, Control.parse crates frame = .failed response →
        ∃ error, response.result = .error error ∧ Rejected crates frame response.id error :=
  ⟨Control.parse_ne_panicked crates frame, fun _ => Control.rejected_of_parse⟩

end Frames

end Softnet
