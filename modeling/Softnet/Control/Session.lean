import Softnet.Control.Acceptance
import Softnet.Control.Framing
import Softnet.Lib.Accounts

/-!
# A session on the control socket

`Control::run` in `lib/control.rs`: frames are taken from the transport one at a time; a request
is sent to the manager and its reply is awaited, translated and written before the next frame is
taken.  The session ends when the peer or the manager closes its side.

A session is a sequence of *rounds*, each of one frame and one response, and between them at
most one call of the manager.
-/

namespace Softnet

open Transition

/-! ## Replies on the wire -/

def callExecutionFailedCode : Int := -32000

/-- The error object of a call that failed. -/
def CallError.rpcError : CallError → RpcError
  | .invalidParams error => Softnet.rpcError invalidParamsCode (error.headD "")
  | .failed error => Softnet.rpcError callExecutionFailedCode (": ".intercalate error)

def PolicyReply.toJson (reply : PolicyReply) : Json.Value :=
  .object
    [("allow", .array (reply.allow.map .string)), ("block", .array (reply.block.map .string)),
      ("ruleCount", .number (.natural (UInt64.ofNat reply.ruleCount)))]

def InitializedVm.toJson (texts : Texts) (vm : InitializedVm) : Json.Value :=
  .object
    [("vmId", .string (texts.uuidText vm.vmId)),
      ("vmMacAddress", .string (texts.macText vm.vmMacAddress))]

/-- The VMs of a reply keep their order. -/
def Reply.toJson (crates : Crates) (texts : Texts) : Reply → Json.Value
  | .initialized vms => .object [("vms", .array (vms.map (InitializedVm.toJson texts)))]
  | .policy reported => (reported.reply crates).toJson

/-- The result of a call, as it is written. -/
def wireResult (crates : Crates) (texts : Texts) :
    Except CallError Reply → Except RpcError Json.Value
  | .ok reply => .ok (reply.toJson crates texts)
  | .error error => .error error.rpcError

def RpcError.toJson (error : RpcError) : Json.Value :=
  .object
    ([("code", .number (.other (toString error.code))), ("message", .string error.message)] ++
      (error.data.map (("data", .string ·))).toList)

def Response.toJson (response : Response) : Json.Value :=
  .object
    [("jsonrpc", .string "2.0"), ("id", response.id.toJson),
      match response.result with
      | .ok result => ("result", result)
      | .error error => ("error", error.toJson)]

/-! ## The loop -/

/-- Where the loop is. -/
inductive ControlPhase where
  | receiving
  /-- The call waits for room in the channel of the manager. -/
  | calling (id : RpcId) (parsed : Parsed)
  | awaiting (id : RpcId)
  | responding (response : Response)
  | ended (result : Except ErrorChain Unit)

structure ControlSession where
  transport : ControlTransport
  phase : ControlPhase

/-- What the loop does, or what happens to it. -/
inductive ControlEvent where
  | received (frame : Frame)
  | peerClosed
  | readFailed (error : ErrorChain)
  | called (parsed : Parsed)
  | replied (result : Except CallError Reply)
  /-- The manager dropped the sender of the reply. -/
  | replyDropped
  | responded (response : Response)
  | writeFailed (error : ErrorChain)
  /-- The manager no longer takes calls. -/
  | callsClosed

inductive ControlStep (crates : Crates) (texts : Texts) (control : ControlCrates) :
    ControlSession → ControlEvent → ControlSession → Prop
  | accepted
      {s : ControlSession} {frame : Frame} {transport : ControlTransport} {id : RpcId}
      {parsed : Parsed}
      (receiving : s.phase = .receiving)
      (next : s.transport.next = (some frame, transport))
      (valid : Control.parse control frame = .done (id, parsed)) :
      ControlStep crates texts control s (.received frame) ⟨transport, .calling id parsed⟩
  | rejected
      {s : ControlSession} {frame : Frame} {transport : ControlTransport} {response : Response}
      (receiving : s.phase = .receiving)
      (next : s.transport.next = (some frame, transport))
      (invalid : Control.parse control frame = .failed response) :
      ControlStep crates texts control s (.received frame) ⟨transport, .responding response⟩
  | peerClosed
      {s : ControlSession} {transport : ControlTransport}
      (receiving : s.phase = .receiving)
      (next : s.transport.next = (none, transport)) :
      ControlStep crates texts control s .peerClosed ⟨transport, .ended (.ok ())⟩
  | readFailed
      {s : ControlSession}
      (receiving : s.phase = .receiving)
      (error : ErrorChain) :
      ControlStep crates texts control s (.readFailed error)
        { s with phase := .ended (.error error) }
  | called
      {s : ControlSession} {id : RpcId} {parsed : Parsed}
      (calling : s.phase = .calling id parsed) :
      ControlStep crates texts control s (.called parsed) { s with phase := .awaiting id }
  | replied
      {s : ControlSession} {id : RpcId}
      (awaiting : s.phase = .awaiting id)
      (result : Except CallError Reply) :
      ControlStep crates texts control s (.replied result)
        { s with phase := .responding ⟨id, wireResult crates texts result⟩ }
  | replyDropped
      {s : ControlSession} {id : RpcId}
      (awaiting : s.phase = .awaiting id) :
      ControlStep crates texts control s .replyDropped { s with phase := .ended (.ok ()) }
  | responded
      {s : ControlSession} {response : Response}
      (responding : s.phase = .responding response) :
      ControlStep crates texts control s (.responded response) { s with phase := .receiving }
  | writeFailed
      {s : ControlSession} {response : Response}
      (responding : s.phase = .responding response)
      (error : ErrorChain) :
      ControlStep crates texts control s (.writeFailed error)
        { s with phase := .ended (.error error) }
  -- In every select, and when a call cannot be sent; only a reply is always awaited
  | callsClosed
      {s : ControlSession}
      (selecting : ∀ id, s.phase ≠ .awaiting id)
      (unended : ∀ result, s.phase ≠ .ended result) :
      ControlStep crates texts control s .callsClosed { s with phase := .ended (.ok ()) }

/-- What has happened since `run` was called on a fresh connection. -/
def ControlRun
    (crates : Crates)
    (texts : Texts)
    (control : ControlCrates)
    (chunks : List Chunk)
    (history : List (Step ControlSession ControlEvent))
    (s : ControlSession) :
    Prop :=
  Run (ControlStep crates texts control) ⟨⟨chunks, []⟩, .receiving⟩ history s

/-! ## What responses say -/

/-- The document is an error object; it has data only where the error has. -/
def IsErrorObject (doc : Json.Value) (error : RpcError) : Prop :=
  ∃ members, doc = .object members ∧
    members.Perm (Json.given
      [("code", some (.number (.other (toString error.code)))),
        ("message", some (.string error.message)), ("data", error.data.map .string)])

/-- The document is a response with this id and this outcome. -/
def IsResponse (doc : Json.Value) (id : RpcId) (outcome : String × Json.Value) : Prop :=
  ∃ members, doc = .object members ∧
    members.Perm [("jsonrpc", .string "2.0"), ("id", id.toJson), outcome]

/-- The document names this VM. -/
def InitializedVm.IsNamed (texts : Texts) (vm : InitializedVm) (doc : Json.Value) : Prop :=
  ∃ members, doc = .object members ∧
    members.Perm
      [("vmId", .string (texts.uuidText vm.vmId)),
        ("vmMacAddress", .string (texts.macText vm.vmMacAddress))]

/-- The outcome in a response says what came of a call. -/
inductive Reports (crates : Crates) (texts : Texts) :
    Except CallError Reply → String × Json.Value → Prop
  | initialized
      {vms : List InitializedVm} {elements : List Json.Value}
      (listed : List.Forall₂ (InitializedVm.IsNamed texts) vms elements) :
      Reports crates texts (.ok (.initialized vms)) ("result", .object [("vms", .array elements)])
  | policy
      {policy : Policy} {members : List (String × Json.Value)}
      (listed : members.Perm
        [("allow", .array (policy.allow.map fun rule => .string (rule.text crates))),
          ("block", .array (policy.block.map fun rule => .string (rule.text crates))),
          ("ruleCount", .number (.natural (UInt64.ofNat policy.ruleCount)))]) :
      Reports crates texts (.ok (.policy policy)) ("result", .object members)
  | invalidParams
      {chain : ErrorChain} {error : Json.Value}
      (described : IsErrorObject error ⟨-32602, chain.headD "", none⟩) :
      Reports crates texts (.error (.invalidParams chain)) ("error", error)
  | failed
      {chain : ErrorChain} {error : Json.Value}
      (described : IsErrorObject error ⟨-32000, ": ".intercalate chain, none⟩) :
      Reports crates texts (.error (.failed chain)) ("error", error)

section Responses

variable {crates : Crates}
variable {texts : Texts}

theorem RpcError.isErrorObject_toJson (error : RpcError) : IsErrorObject error.toJson error := by
  obtain ⟨code, message, data⟩ := error
  refine ⟨_, rfl, ?_⟩
  cases data <;> exact .refl _

/-- The member that says how the request came out. -/
def Response.outcome (response : Response) : String × Json.Value :=
  match response.result with
  | .ok result => ("result", result)
  | .error error => ("error", error.toJson)

theorem Response.isResponse_toJson (response : Response) :
    IsResponse response.toJson response.id response.outcome := by
  obtain ⟨id, result⟩ := response
  refine ⟨_, rfl, ?_⟩
  cases result <;> exact .refl _

/-- What is written is what came of the call. -/
theorem reports_wireResult
    (id : RpcId)
    (result : Except CallError Reply) :
    Reports crates texts result (Response.outcome ⟨id, wireResult crates texts result⟩) := by
  rcases result with (chain | chain) | (vms | policy)
  · exact .invalidParams (RpcError.isErrorObject_toJson _)
  · exact .failed (RpcError.isErrorObject_toJson _)
  · refine .initialized ?_
    rw [List.forall₂_map_right_iff]
    exact List.forall₂_same.mpr fun vm _ => ⟨_, rfl, .refl _⟩
  · refine .policy ?_
    simp [Policy.reply, Function.comp_def]

end Responses

/-! ## Rounds -/

/-- One frame, the calls that it leads to with what the manager replies, and the response. -/
structure Round where
  frame : Frame
  calls : List Parsed
  replies : List (Except CallError Reply)
  response : Json.Value

/-- A frame that is no request is answered at once, and a request by what the manager replies. -/
inductive Answered (crates : Crates) (texts : Texts) (control : ControlCrates) :
    Frame → List Parsed → List (Except CallError Reply) → Json.Value → Prop
  | rejected
      {frame : Frame} {id : RpcId} {error : RpcError} {object response : Json.Value}
      (rejected : Rejected control frame id error)
      (described : IsErrorObject object error)
      (responded : IsResponse response id ("error", object)) :
      Answered crates texts control frame [] [] response
  | served
      {frame : Frame} {id : RpcId} {parsed : Parsed} {result : Except CallError Reply}
      {outcome : String × Json.Value} {response : Json.Value}
      (request : IsRequest control frame id parsed)
      (reported : Reports crates texts result outcome)
      (responded : IsResponse response id outcome) :
      Answered crates texts control frame [parsed] [result] response

/-- What there is of the round that is not over yet. -/
inductive InProgress (crates : Crates) (texts : Texts) (control : ControlCrates) :
    ControlPhase → List Frame → List Parsed → List (Except CallError Reply) → Prop
  | receiving :
      InProgress crates texts control .receiving [] [] []
  | calling
      {frame : Frame} {id : RpcId} {parsed : Parsed}
      (request : IsRequest control frame id parsed) :
      InProgress crates texts control (.calling id parsed) [frame] [] []
  | awaiting
      {frame : Frame} {id : RpcId} {parsed : Parsed}
      (request : IsRequest control frame id parsed) :
      InProgress crates texts control (.awaiting id) [frame] [parsed] []
  | responding
      {frame : Frame} {calls : List Parsed} {replies : List (Except CallError Reply)}
      {response : Response}
      (answered : Answered crates texts control frame calls replies response.toJson) :
      InProgress crates texts control (.responding response) [frame] calls replies
  | ended
      {phase : ControlPhase} {frames : List Frame} {calls : List Parsed}
      {replies : List (Except CallError Reply)}
      (before : InProgress crates texts control phase frames calls replies)
      (result : Except ErrorChain Unit) :
      InProgress crates texts control (.ended result) frames calls replies

namespace ControlEvent

def frames : ControlEvent → List Frame
  | .received frame => [frame]
  | _ => []

def calls : ControlEvent → List Parsed
  | .called parsed => [parsed]
  | _ => []

def replies : ControlEvent → List (Except CallError Reply)
  | .replied result => [result]
  | _ => []

/-- The documents that are written. -/
def responses : ControlEvent → List Json.Value
  | .responded response => [response.toJson]
  | _ => []

end ControlEvent

section Rounds

variable {crates : Crates}
variable {texts : Texts}
variable {control : ControlCrates}
variable {s s' : ControlSession}
variable {event : ControlEvent}
variable {chunks : List Chunk}
variable {history : List (Step ControlSession ControlEvent)}

/-- The rounds that are over and the one in progress account for everything that happened. -/
structure Account
    (crates : Crates)
    (texts : Texts)
    (control : ControlCrates)
    (history : List (Step ControlSession ControlEvent))
    (phase : ControlPhase)
    (rounds : List Round)
    (frames : List Frame)
    (calls : List Parsed)
    (replies : List (Except CallError Reply)) :
    Prop where
  answered : ∀ r ∈ rounds, Answered crates texts control r.frame r.calls r.replies r.response
  inProgress : InProgress crates texts control phase frames calls replies
  frames_eq : produced ControlEvent.frames history = rounds.map Round.frame ++ frames
  calls_eq : produced ControlEvent.calls history = rounds.flatMap Round.calls ++ calls
  replies_eq : produced ControlEvent.replies history = rounds.flatMap Round.replies ++ replies
  responses_eq : produced ControlEvent.responses history = rounds.map Round.response

/-- A step that starts no round and ends none adds to the round in progress. -/
theorem Account.extend
    {phase phase' : ControlPhase} {rounds : List Round} {frames : List Frame}
    {calls : List Parsed} {replies : List (Except CallError Reply)}
    (h : Account crates texts control history phase rounds frames calls replies)
    (silent : event.responses = [])
    (next : InProgress crates texts control phase' (frames ++ event.frames)
      (calls ++ event.calls) (replies ++ event.replies)) :
    Account crates texts control (history ++ [⟨s, event, s'⟩]) phase' rounds
      (frames ++ event.frames) (calls ++ event.calls) (replies ++ event.replies) where
  answered := h.answered
  inProgress := next
  frames_eq := by simp [h.frames_eq]
  calls_eq := by simp [h.calls_eq]
  replies_eq := by simp [h.replies_eq]
  responses_eq := by simp [h.responses_eq, silent]

/-- A response ends the round in progress. -/
theorem Account.close
    {response : Response} {rounds : List Round} {frame : Frame} {calls : List Parsed}
    {replies : List (Except CallError Reply)}
    (h : Account crates texts control history (.responding response) rounds [frame] calls
      replies)
    (answered : Answered crates texts control frame calls replies response.toJson) :
    Account crates texts control (history ++ [⟨s, .responded response, s'⟩]) .receiving
      (rounds ++ [⟨frame, calls, replies, response.toJson⟩]) [] [] [] where
  answered := by
    intro r hr
    rcases List.mem_append.mp hr with hr | hr
    · exact h.answered r hr
    · cases List.mem_singleton.mp hr
      exact answered
  inProgress := .receiving
  frames_eq := by simp [h.frames_eq, ControlEvent.frames]
  calls_eq := by simp [h.calls_eq, ControlEvent.calls]
  replies_eq := by simp [h.replies_eq, ControlEvent.replies]
  responses_eq := by simp [h.responses_eq, ControlEvent.responses]

/-- The response to a frame that is no request. -/
theorem Answered.of_failed
    {frame : Frame} {response : Response}
    (invalid : Control.parse control frame = .failed response) :
    Answered crates texts control frame [] [] response.toJson := by
  obtain ⟨error, herror, hrejected⟩ := Control.rejected_of_parse invalid
  refine .rejected hrejected error.isErrorObject_toJson ?_
  simpa [Response.outcome, herror] using response.isResponse_toJson

/-- The response to a request. -/
theorem Answered.of_replied
    {frame : Frame} {id : RpcId} {parsed : Parsed}
    (request : IsRequest control frame id parsed)
    (result : Except CallError Reply) :
    Answered crates texts control frame [parsed] [result]
      (Response.mk id (wireResult crates texts result)).toJson :=
  .served request (reports_wireResult id result) (Response.isResponse_toJson _)

/-- A frame that is a request is one call. -/
theorem Answered.calls_of_isRequest
    {frame : Frame} {calls : List Parsed} {replies : List (Except CallError Reply)}
    {response : Json.Value} {id : RpcId} {parsed : Parsed}
    (h : Answered crates texts control frame calls replies response)
    (request : IsRequest control frame id parsed) :
    calls = [parsed] := by
  cases h with
  | rejected rejected => exact absurd request rejected.not_isRequest
  | served served => rw [(Prod.mk.inj (Attempt.done.inj (served.parse.symm.trans request.parse))).2]

/-- A round makes as many calls as it is told replies. -/
theorem Answered.length_eq
    {frame : Frame} {calls : List Parsed} {replies : List (Except CallError Reply)}
    {response : Json.Value}
    (h : Answered crates texts control frame calls replies response) :
    calls.length = replies.length := by
  cases h <;> rfl

theorem ControlStep.account
    {rounds : List Round} {frames : List Frame} {calls : List Parsed}
    {replies : List (Except CallError Reply)}
    (h : ControlStep crates texts control s event s')
    (account : Account crates texts control history s.phase rounds frames calls replies) :
    ∃ rounds frames calls replies,
      Account crates texts control (history ++ [⟨s, event, s'⟩]) s'.phase rounds frames calls
        replies := by
  have hended : ∀ result, event.frames = [] → event.calls = [] → event.replies = [] →
      event.responses = [] →
      ∃ rounds frames calls replies, Account crates texts control (history ++ [⟨s, event, s'⟩])
        (.ended result) rounds frames calls replies := by
    intro result hframes hcalls hreplies hresponses
    refine ⟨_, _, _, _, account.extend hresponses ?_⟩
    rw [hframes, hcalls, hreplies]
    simpa using account.inProgress.ended result
  have hprogress := account.inProgress
  cases h with
  | accepted receiving next valid =>
      rw [receiving] at hprogress account
      cases hprogress
      exact ⟨_, _, _, _, account.extend rfl (.calling (Control.isRequest_of_parse valid))⟩
  | rejected receiving next invalid =>
      rw [receiving] at hprogress account
      cases hprogress
      exact ⟨_, _, _, _, account.extend rfl (.responding (.of_failed invalid))⟩
  | called calling =>
      rw [calling] at hprogress account
      cases hprogress with
      | calling request => exact ⟨_, _, _, _, account.extend rfl (.awaiting request)⟩
  | replied awaiting result =>
      rw [awaiting] at hprogress account
      cases hprogress with
      | awaiting request =>
          exact ⟨_, _, _, _, account.extend rfl (.responding (.of_replied request result))⟩
  | responded responding =>
      rw [responding] at hprogress account
      cases hprogress with
      | responding answered => exact ⟨_, _, _, _, account.close answered⟩
  | peerClosed | readFailed | replyDropped | writeFailed | callsClosed =>
      exact hended _ rfl rfl rfl rfl

theorem ControlRun.account
    (run : ControlRun crates texts control chunks history s) :
    ∃ rounds frames calls replies,
      Account crates texts control history s.phase rounds frames calls replies := by
  induction run with
  | nil => exact ⟨[], [], [], [], by simp, .receiving, rfl, rfl, rfl, rfl⟩
  | snoc run step ih =>
      obtain ⟨rounds, frames, calls, replies, haccount⟩ := ih
      exact step.account haccount

/-! ## Frames and lines -/

theorem ControlTransport.afterCalls_succ
    (k : Nat)
    (transport : ControlTransport) :
    ControlTransport.afterCalls (k + 1) transport =
      (ControlTransport.afterCalls k transport).next.2 := by
  induction k generalizing transport with
  | zero => rfl
  | succ k ih => exact ih transport.next.2

/-- The frames so far are what the first calls of `next` returned, and no other call was made. -/
structure ControlSession.Follows
    (chunks : List Chunk)
    (frames : List Frame)
    (s : ControlSession) :
    Prop where
  transport : (∀ result, s.phase ≠ .ended result) →
    s.transport = ControlTransport.afterCalls frames.length ⟨chunks, []⟩
  frames : ∀ k frame, frames[k]? = some frame →
    ControlTransport.call k ⟨chunks, []⟩ = some frame

theorem ControlSession.Follows.received
    {frames : List Frame} {frame : Frame} {transport : ControlTransport} {phase : ControlPhase}
    (h : s.Follows chunks frames)
    (receiving : s.phase = .receiving)
    (next : s.transport.next = (some frame, transport)) :
    ControlSession.Follows chunks (frames ++ [frame]) ⟨transport, phase⟩ := by
  have hat := h.transport (by simp [receiving])
  constructor
  · intro _
    rw [List.length_append, List.length_singleton, ControlTransport.afterCalls_succ, ← hat, next]
  · intro k other hother
    rcases Nat.lt_or_ge k frames.length with hlt | hge
    · rw [List.getElem?_append_left hlt] at hother
      exact h.frames k other hother
    · rw [List.getElem?_append_right hge] at hother
      have hk : k - frames.length = 0 := by
        by_contra hne
        rw [List.getElem?_eq_none (by simp; omega)] at hother
        cases hother
      rw [hk] at hother
      cases hother
      have hlast : k = frames.length := by omega
      rw [hlast, ControlTransport.call, ← hat, next]

theorem ControlStep.follows
    {frames : List Frame}
    (h : ControlStep crates texts control s event s')
    (hs : s.Follows chunks frames) :
    s'.Follows chunks (frames ++ event.frames) := by
  have hkept : event.frames = [] → s'.transport = s.transport →
      (∀ result, s.phase ≠ .ended result) → s'.Follows chunks (frames ++ event.frames) := by
    intro hnone hsame hopen
    rw [hnone, List.append_nil]
    exact ⟨fun _ => hsame.trans (hs.transport hopen), hs.frames⟩
  have hended : ∀ result, event.frames = [] → s'.phase = .ended result →
      s'.Follows chunks (frames ++ event.frames) := by
    intro result hnone hphase
    rw [hnone, List.append_nil]
    exact ⟨fun hopen => absurd hphase (hopen result), hs.frames⟩
  cases h with
  | accepted receiving next => exact hs.received receiving next
  | rejected receiving next => exact hs.received receiving next
  | called calling => exact hkept rfl rfl (by simp [calling])
  | replied awaiting => exact hkept rfl rfl (by simp [awaiting])
  | responded responding => exact hkept rfl rfl (by simp [responding])
  | peerClosed | readFailed | replyDropped | writeFailed | callsClosed =>
      exact hended _ rfl rfl

theorem ControlRun.follows
    (run : ControlRun crates texts control chunks history s) :
    s.Follows chunks (produced ControlEvent.frames history) := by
  induction run with
  | nil => exact ⟨fun _ => rfl, by simp⟩
  | snoc run step ih =>
      rw [produced_append, produced_singleton]
      exact step.follows ih

/--
Requests are answered one by one and in order.  Whatever the peer sends and the manager replies,
everything that a session received, called, was told and wrote falls into rounds: frame number
`k` is what call number `k` of `next` returned; it is answered at once if it is no request, and
otherwise is one call of the manager, answered with the id of the request and what the manager
replied to that call.  At most one round is not over yet, with at most one call; and none while
the session waits for the next frame.
-/
theorem requests_are_answered_in_order
    (crates : Crates)
    (texts : Texts)
    (control : ControlCrates)
    (chunks : List Chunk)
    (history : List (Step ControlSession ControlEvent))
    (s : ControlSession)
    (run : ControlRun crates texts control chunks history s) :
    (∀ k frame, (produced ControlEvent.frames history)[k]? = some frame →
      ControlTransport.call k ⟨chunks, []⟩ = some frame) ∧
    ∃ (rounds : List Round) (frames : List Frame) (calls : List Parsed)
        (replies : List (Except CallError Reply)),
      (∀ r ∈ rounds, Answered crates texts control r.frame r.calls r.replies r.response) ∧
      InProgress crates texts control s.phase frames calls replies ∧
      produced ControlEvent.frames history = rounds.map Round.frame ++ frames ∧
      produced ControlEvent.calls history = rounds.flatMap Round.calls ++ calls ∧
      produced ControlEvent.replies history = rounds.flatMap Round.replies ++ replies ∧
      produced ControlEvent.responses history = rounds.map Round.response := by
  obtain ⟨rounds, frames, calls, replies, haccount⟩ := run.account
  exact ⟨run.follows.frames, rounds, frames, calls, replies, haccount.answered,
    haccount.inProgress, haccount.frames_eq, haccount.calls_eq, haccount.replies_eq,
    haccount.responses_eq⟩

/-! ### A session of two lines -/

/-- A text as one line. -/
def lineBytes (text : String) : List UInt8 :=
  text.toList.flatMap String.utf8EncodeChar ++ [newline]

theorem utf8_encode (text : String) :
    utf8 (text.toList.flatMap String.utf8EncodeChar) = some text := by
  have hbytes : (text.toList.flatMap String.utf8EncodeChar).toByteArray = text.toByteArray := by
    rw [← List.utf8Encode, String.utf8Encode_toList]
  have hvalid : (text.toList.flatMap String.utf8EncodeChar).toByteArray.IsValidUTF8 :=
    hbytes ▸ text.isValidUTF8
  simp only [utf8, String.fromUTF8?, dif_pos hvalid, Option.some.injEq]
  exact String.toByteArray_inj.mp hbytes

/-- A text without line breaks. -/
structure IsLine (text : String) : Prop where
  single : newline ∉ text.toList.flatMap String.utf8EncodeChar
  uncut : (text.toList.flatMap String.utf8EncodeChar).getLast? ≠ some carriageReturn
  short : (lineBytes text).length ≤ readBufferBytes

instance (text : String) : Decidable (IsLine text) :=
  decidable_of_iff
    (newline ∉ text.toList.flatMap String.utf8EncodeChar ∧
      (text.toList.flatMap String.utf8EncodeChar).getLast? ≠ some carriageReturn ∧
      (lineBytes text).length ≤ readBufferBytes)
    ⟨fun h => ⟨h.1, h.2.1, h.2.2⟩, fun h => ⟨h.single, h.uncut, h.short⟩⟩

/-- A line that arrives at once. -/
def lineChunk (text : String) (fds : List OwnedFd) (line : IsLine text)
    (few : fds.length ≤ maxFrameFds) : Chunk where
  bytes := lineBytes text
  fds := fds
  bytes_ne_nil := by simp [lineBytes]
  bytes_le := line.short
  fds_le := Nat.le_succ_of_le few

/-- A line that arrives at once is one frame, with its descriptors. -/
theorem next_lineChunk
    {text : String} {fds : List OwnedFd}
    (line : IsLine text)
    (few : fds.length ≤ maxFrameFds)
    (rest : List Chunk) :
    ControlTransport.next ⟨lineChunk text fds line few :: rest, []⟩ =
      (some ⟨.ok text, fds⟩, ⟨rest, []⟩) := by
  have hfits : ¬ maxRequestBytes < (lineBytes text).length - 1 := by
    have hshort := line.short
    unfold readBufferBytes at hshort
    unfold maxRequestBytes
    omega
  have hdecoded : LinesCodec.new.decode (lineBytes text) = (⟨0⟩, [], some (some text)) := by
    rw [lineBytes, LinesCodec.decode_found (by simp [LinesCodec.new]) rfl line.single,
      withoutCarriageReturn, if_neg line.uncut, utf8_encode]
  have hempty : (⟨[], [], none, .new⟩ : ControlTransport.Reading).decode =
      .inr ⟨[], [], none, .new⟩ := rfl
  have hreceived :
      (⟨[], [], none, .new⟩ : ControlTransport.Reading).receive (lineChunk text fds line few) =
        ⟨lineBytes text, fds, none, .new⟩ := by
    have hfew : ¬ maxFrameFds < fds.length := by omega
    simp [ControlTransport.Reading.receive, lineChunk, hfew]
  have hframed : (⟨lineBytes text, fds, none, .new⟩ : ControlTransport.Reading).decode =
      .inl (⟨.ok text, fds⟩, []) := by
    simp [ControlTransport.Reading.decode, hdecoded, ControlTransport.frameLength, hfits]
  rw [ControlTransport.next, ControlTransport.Reading.run, hempty]
  dsimp only
  rw [hreceived, ControlTransport.Reading.run, hframed]

/-- The value of a hexadecimal digit. -/
def hexValue (c : Char) : Option Nat :=
  if c.isDigit then some (c.toNat - 48) else if 'a' ≤ c ∧ c ≤ 'f' then some (c.toNat - 87) else none

/-- Groups of hexadecimal digits of these lengths. -/
def readHex (separator : Char) (lengths : List Nat) (text : String) : Option Nat :=
  let groups := text.toList.splitOn separator
  if groups.map List.length = lengths then
    groups.flatten.foldlM (fun n c => (hexValue c).map (16 * n + ·)) 0
  else
    none

def hexText (separator : Char) (lengths : List Nat) (n : Nat) : String :=
  let digits := fun (length below : Nat) =>
    (List.range length).map fun k => Nat.digitChar (n / 16 ^ (below + length - 1 - k) % 16)
  let groups := lengths.foldr
    (fun length rest => (digits length rest.2 :: rest.1, rest.2 + length)) ([], 0)
  String.ofList ([separator].intercalate groups.1)

def hexTexts : Texts where
  macText mac := hexText ':' [2, 2, 2, 2, 2, 2] mac.toNat
  uuidText vmId := hexText '-' [8, 4, 4, 4, 12] vmId.toNat

/-- Reads the lines of this table, and addresses and identities in hexadecimal notation. -/
def tableControl (table : List (String × Json.Value)) : ControlCrates where
  fromStr text := table.lookup text
  invalidParamsText := "Invalid params"
  shapeError _ := ""
  macFromStr text := (readHex ':' [2, 2, 2, 2, 2, 2] text).map (BitVec.ofNat 48)
  nameFromAscii _ := none
  uuidFromStr text := (readHex '-' [8, 4, 4, 4, 12] text).map (BitVec.ofNat 128)
  reader := decimalReader

def policyText : String :=
  "\x7b\"jsonrpc\":\"2.0\",\"id\":1,\"method\":\"softnet.policy.get\"\x7d"

def policyAsked : Json.Value :=
  .object [("jsonrpc", .string "2.0"), ("id", .number (.natural 1)),
    ("method", .string "softnet.policy.get")]

theorem isLine_policyText : IsLine policyText := by
  decide +kernel

/-- A line that breaks off. -/
def brokenText : String := "\x7b"

theorem isLine_brokenText : IsLine brokenText := by
  decide +kernel

/-- The policy that the manager replies to the request. -/
def repliedPolicy : Except CallError Reply :=
  .ok (.policy ⟨[.stateful .outbound .host .unrestricted], [], 1⟩)

def policyControl : ControlCrates :=
  tableControl [(policyText, policyAsked)]

/-- The request and a broken line. -/
def twoLines : List Chunk :=
  [lineChunk policyText [] isLine_policyText (Nat.zero_le _),
    lineChunk brokenText [] isLine_brokenText (Nat.zero_le _)]

/-- The line asks for the policy of the only VM. -/
theorem isRequest_policyText :
    IsRequest policyControl ⟨.ok policyText, []⟩ (.number 1) ⟨.policy none .policyGet, []⟩ :=
  ⟨policyText, policyAsked, "softnet.policy.get", none, rfl, by simp [policyControl, tableControl],
    ⟨⟨_, rfl, .refl _⟩, nofun⟩, .policyGetDefault rfl⟩

theorem exists_session_of_twoLines :
    ∃ history s,
      ControlRun decimalCrates hexTexts policyControl twoLines history s ∧
      s.phase = .receiving ∧
      produced ControlEvent.frames history = [⟨.ok policyText, []⟩, ⟨.ok brokenText, []⟩] ∧
      produced ControlEvent.calls history = [⟨.policy none .policyGet, []⟩] ∧
      produced ControlEvent.replies history = [repliedPolicy] := by
  have invalid : Control.parse policyControl ⟨.ok brokenText, []⟩ =
      .failed (Control.errorResponse .null parseErrorCode "invalid JSON-RPC frame") :=
    Control.parse_of_error rfl rfl
  have run : ControlRun decimalCrates hexTexts policyControl twoLines _ _ :=
    (((((Run.nil.snoc (.accepted rfl (next_lineChunk _ _ _) isRequest_policyText.parse)).snoc
      (.called rfl)).snoc (.replied rfl repliedPolicy)).snoc (.responded rfl)).snoc
      (.rejected rfl (next_lineChunk _ _ _) invalid)).snoc (.responded rfl)
  exact ⟨_, _, run, rfl, rfl, rfl, rfl⟩

/-- The request is served, and the broken line after it is answered at once. -/
theorem requests_are_answered_in_order_served :
    ∃ history s first second,
      ControlRun decimalCrates hexTexts policyControl twoLines history s ∧
      produced ControlEvent.responses history = [first, second] ∧
      Answered decimalCrates hexTexts policyControl ⟨.ok policyText, []⟩
        [⟨.policy none .policyGet, []⟩] [repliedPolicy] first ∧
      Answered decimalCrates hexTexts policyControl ⟨.ok brokenText, []⟩ [] [] second := by
  obtain ⟨history, s, run, hphase, hreceived, hcalled, htold⟩ := exists_session_of_twoLines
  obtain ⟨_, rounds, frames, calls, replies, hanswered, hprogress, hframes, hcalls, hreplies,
    hresponses⟩ := requests_are_answered_in_order _ _ _ _ _ _ run
  rw [hphase] at hprogress
  cases hprogress
  rw [hreceived, List.append_nil] at hframes
  rw [hcalled, List.append_nil] at hcalls
  rw [htold, List.append_nil] at hreplies
  obtain ⟨⟨_, _, told, first⟩, _, rfl, rfl, hrest⟩ := List.map_eq_cons_iff.mp hframes.symm
  obtain ⟨⟨_, _, told', second⟩, _, rfl, rfl, hnone⟩ := List.map_eq_cons_iff.mp hrest
  obtain rfl := List.map_eq_nil_iff.mp hnone
  have hfirst := hanswered _ List.mem_cons_self
  have hsecond := hanswered _ (List.mem_cons_of_mem _ List.mem_cons_self)
  cases hfirst.calls_of_isRequest isRequest_policyText
  obtain ⟨result, rfl⟩ := List.length_eq_one_iff.mp hfirst.length_eq.symm
  simp only [List.flatMap_cons, List.flatMap_nil, List.append_nil, List.singleton_append,
    List.cons.injEq, true_and] at hcalls hreplies
  obtain ⟨rfl, rfl⟩ := hreplies
  subst hcalls
  exact ⟨history, s, first, second, run, hresponses, hfirst, hsecond⟩

end Rounds

end Softnet
