import Softnet.Control.Session
import Softnet.Lib.Parts
import Softnet.Manager.Answers

/-!
# A control connection and its manager

The control task (`Control::run` in `lib/control.rs`) and the manager (`lib/manager.rs`) share a
channel with room for one call, and every call brings a channel for its reply.  Their steps
interleave in any order.

Every call is answered at most once and in order, the session is told the answer to its own call,
and what it writes says what was done for the request.  Whoever joins the control task after
closing the channel never waits for the peer.
-/

namespace Softnet

open Transition

/-! ## The joint system -/

/-- A session with the manager it talks to. -/
structure Connection where
  session : ControlSession
  /-- The reply channel of the last call. -/
  reply : Oneshot (Except CallError Reply)
  service : Service
  /-- `shutdown` has called `abort` on the control task. -/
  aborted : Bool

def Connection.new (chunks : List Chunk) : Connection :=
  ⟨⟨⟨chunks, []⟩, .receiving⟩, .closed, .new (some .serving), false⟩

/-- What a step of the connection is for each of the two. -/
structure ConnectionEvent where
  control : Option ControlEvent
  service : Option Occurrence

/-- The session does this without the manager. -/
def ControlEvent.isAlone : ControlEvent → Bool
  | .received _ | .peerClosed | .readFailed _ | .responded _ | .writeFailed _ | .callsClosed =>
      true
  | .called _ | .replied _ | .replyDropped => false

/-- The reply channel after a step of the manager. -/
def Occurrence.settle (reply : Oneshot (Except CallError Reply)) :
    Occurrence → Oneshot (Except CallError Reply)
  | .answered result => reply.afterSend result
  | .internal | .built _ | .delivered _ _ _ | .handled _ _ | .reaped _ | .initializeReturned _
  | .runReturned _ | .shutdownReturned _ | .cancelled => reply

/-- `shutdown` is here after it has aborted the control task. -/
def Activity.hasAborted : Activity → Bool
  | .finishingControl _ .shutDown => true
  | _ => false

inductive ConnectionStep (crates : Crates) (texts : Texts) (control : ControlCrates) :
    Connection → ConnectionEvent → Connection → Prop
  | session
      {s : Connection} {event : ControlEvent} {session' : ControlSession}
      (serving : s.service.control = some .serving)
      (alone : event.isAlone = true)
      (closed : event = .callsClosed → s.service.callsClosed = true)
      (step : ControlStep crates texts control s.session event session') :
      ConnectionStep crates texts control s ⟨some event, none⟩ { s with session := session' }
  | called
      {s : Connection} {parsed : Parsed} {session' : ControlSession}
      (serving : s.service.control = some .serving)
      (opened : s.service.callsClosed = false)
      (room : s.service.queued = none)
      (step : ControlStep crates texts control s.session (.called parsed) session') :
      ConnectionStep crates texts control s ⟨some (.called parsed), some .internal⟩
        { s with
          session := session'
          reply := .waiting
          service := { s.service with queued := some parsed.request } }
  -- The manager, the workers and the VMs
  | service
      {s : Connection} {occurrence : Occurrence} {service' : Service}
      (step : ServiceStep crates texts s.service occurrence service')
      (own : s.service.TakesNone service')
      (joined : service'.control = s.service.control ∨ service'.control = none) :
      ConnectionStep crates texts control s ⟨none, some occurrence⟩
        { s with
          reply := occurrence.settle s.reply
          service := service'
          aborted := s.aborted || service'.activity.hasAborted }
  -- The call was dropped with the sender of its reply
  | hungUp
      {s : Connection}
      (free : s.service.IsFree) :
      ConnectionStep crates texts control s ⟨none, none⟩ { s with reply := s.reply.dropSender }
  | replied
      {s : Connection} {result : Except CallError Reply} {session' : ControlSession}
      (serving : s.service.control = some .serving)
      (received : s.reply.receive = some (some result))
      (step : ControlStep crates texts control s.session (.replied result) session') :
      ConnectionStep crates texts control s ⟨some (.replied result), none⟩
        { s with session := session', reply := .closed }
  | replyDropped
      {s : Connection} {session' : ControlSession}
      (serving : s.service.control = some .serving)
      (received : s.reply.receive = some none)
      (step : ControlStep crates texts control s.session .replyDropped session') :
      ConnectionStep crates texts control s ⟨some .replyDropped, none⟩
        { s with session := session', reply := .closed }
  -- The control task is over: `run` has returned, or was aborted where it waited
  | stopped
      {s : Connection}
      (serving : s.service.control = some .serving)
      (ended : (∃ result, s.session.phase = .ended result) ∨ s.aborted = true) :
      ConnectionStep crates texts control s ⟨none, some .internal⟩
        { s with service := { s.service with control := some .ended } }

/-- What has happened since a manager was created for a fresh connection. -/
def ConnectionRun
    (crates : Crates)
    (texts : Texts)
    (control : ControlCrates)
    (chunks : List Chunk)
    (history : List (Step Connection ConnectionEvent))
    (s : Connection) :
    Prop :=
  Run (ConnectionStep crates texts control) (Connection.new chunks) history s

/-- The steps of the session. -/
def sessionSteps (history : List (Step Connection ConnectionEvent)) :
    List (Step ControlSession ControlEvent) :=
  partOf Connection.session ConnectionEvent.control history

/-- The steps of the manager and of everything it has set up. -/
def serviceSteps (history : List (Step Connection ConnectionEvent)) :
    List (Step Service Occurrence) :=
  partOf Connection.service ConnectionEvent.service history

namespace ConnectionEvent

/-- The request that was sent to the manager. -/
def requests (event : ConnectionEvent) : List Request :=
  event.control.elim [] fun event => event.calls.map Parsed.request

def answers (event : ConnectionEvent) : List (Except CallError Reply) :=
  match event.service with
  | some (.answered result) => [result]
  | _ => []

/-- What the session was told. -/
def replies (event : ConnectionEvent) : List (Except CallError Reply) :=
  event.control.elim [] ControlEvent.replies

end ConnectionEvent

section Parts

variable {crates : Crates}
variable {texts : Texts}
variable {control : ControlCrates}
variable {chunks : List Chunk}
variable {history : List (Step Connection ConnectionEvent)}
variable {s : Connection}

/-- Seen from the session, a connection is a session. -/
theorem ConnectionRun.controlRun
    (run : ConnectionRun crates texts control chunks history s) :
    ControlRun crates texts control chunks (sessionSteps history) s.session := by
  refine Run.part Connection.session ConnectionEvent.control run
    (fun s event s' ownEvent step role => ?_) (fun s event s' step role => ?_)
  · cases step with
    | session serving alone closed step | called serving opened room step
    | replied serving received step | replyDropped serving received step =>
        cases role
        exact step
    | service | hungUp | stopped => cases role
  · cases step with
    | session | called | replied | replyDropped => cases role
    | service | hungUp | stopped => rfl

/-- Seen from the manager, a connection is a control task that sends what it likes. -/
theorem run_serviceSteps
    {start : Connection}
    (run : Run (ConnectionStep crates texts control) start history s) :
    Run (ServiceStep crates texts) start.service (serviceSteps history) s.service := by
  refine Run.part Connection.service ConnectionEvent.service run
    (fun s event s' occurrence step role => ?_) (fun s event s' step role => ?_)
  · cases step with
    | called serving opened room =>
        cases role
        exact .requestSent serving opened room _
    | service step =>
        cases role
        exact step
    | stopped serving =>
        cases role
        exact .controlEnded serving
    | session | hungUp | replied | replyDropped => cases role
  · cases step with
    | called | service | stopped => cases role
    | session | hungUp | replied | replyDropped => rfl

theorem ConnectionRun.serviceRun
    (run : ConnectionRun crates texts control chunks history s) :
    ServiceRun crates texts (serviceSteps history) s.service :=
  ⟨some .serving, run_serviceSteps run⟩

theorem produced_requests_eq
    (history : List (Step Connection ConnectionEvent)) :
    produced ConnectionEvent.requests history =
      (produced ControlEvent.calls (sessionSteps history)).map Parsed.request := by
  rw [sessionSteps, produced_partOf]
  simp only [produced, List.map_flatMap]
  congr 1
  funext t
  rw [ConnectionEvent.requests]
  cases t.label.control <;> rfl

theorem produced_replies_eq
    (history : List (Step Connection ConnectionEvent)) :
    produced ConnectionEvent.replies history =
      produced ControlEvent.replies (sessionSteps history) :=
  (produced_partOf _ _).symm

end Parts

/-! ## Calls, answers and replies -/

section Calls

variable {crates : Crates}
variable {texts : Texts}
variable {control : ControlCrates}
variable {chunks : List Chunk}
variable {history : List (Step Connection ConnectionEvent)}
variable {s s' : Connection}
variable {event : ConnectionEvent}
variable {pending : List Request}
variable {answers replies : List (Except CallError Reply)}

/-- The session takes no further step. -/
def Connection.IsOver (s : Connection) : Prop :=
  (∃ result, s.session.phase = .ended result) ∨ s.service.control ≠ some .serving

/-- How far the last call has come: what is pending, and what was answered and told so far. -/
inductive Stage (s : Connection) :
    List Request → List (Except CallError Reply) → List (Except CallError Reply) → Prop
  | settled
      {told : List (Except CallError Reply)}
      (calm : ∀ id, s.session.phase ≠ .awaiting id)
      (received : s.reply = .closed) :
      Stage s [] told told
  | waiting
      {told : List (Except CallError Reply)} {id : RpcId} {request : Request}
      (awaiting : s.session.phase = .awaiting id)
      (unanswered : s.reply = .waiting) :
      Stage s [request] told told
  | sent
      {told : List (Except CallError Reply)} {id : RpcId} {result : Except CallError Reply}
      (awaiting : s.session.phase = .awaiting id)
      (answered : s.reply = .sent result) :
      Stage s [] (told ++ [result]) told
  | abandoned
      {told : List (Except CallError Reply)} {id : RpcId} {pending : List Request}
      (awaiting : s.session.phase = .awaiting id)
      (dropped : s.reply = .abandoned)
      (free : s.service.IsFree)
      (few : pending.length ≤ 1) :
      Stage s pending told told
  | departed
      {answers replies : List (Except CallError Reply)} {pending : List Request}
      (gone : s.IsOver)
      (told : replies <+: answers)
      (few : answers.length + pending.length ≤ replies.length + 1) :
      Stage s pending answers replies

/-- At every stage at most one call is not answered, or its answer not told. -/
theorem Stage.counts
    (h : Stage s pending answers replies) :
    replies <+: answers ∧ answers.length + pending.length ≤ replies.length + 1 := by
  cases h with
  | settled | waiting => exact ⟨List.prefix_rfl, by simp⟩
  | sent => exact ⟨List.prefix_append _ _, by simp⟩
  | abandoned awaiting dropped free few => exact ⟨List.prefix_rfl, by omega⟩
  | departed gone told few => exact ⟨told, few⟩

/-- A session that waits for a reply is at one of three stages. -/
theorem Stage.of_awaiting
    {id : RpcId}
    (h : Stage s pending answers replies)
    (serving : s.service.control = some .serving)
    (awaiting : s.session.phase = .awaiting id) :
    (∃ request, s.reply = .waiting ∧ pending = [request] ∧ answers = replies) ∨
    (∃ result, s.reply = .sent result ∧ pending = [] ∧ answers = replies ++ [result]) ∨
    (s.reply = .abandoned ∧ s.service.IsFree ∧ pending.length ≤ 1 ∧ answers = replies) := by
  cases h with
  | settled calm => exact absurd awaiting (calm id)
  | waiting _ unanswered => exact .inl ⟨_, unanswered, rfl, rfl⟩
  | sent _ answered => exact .inr (.inl ⟨_, answered, rfl, rfl⟩)
  | abandoned _ dropped free few => exact .inr (.inr ⟨dropped, free, few, rfl⟩)
  | departed gone =>
      rcases gone with ⟨result, ended⟩ | unserved
      · cases awaiting.symm.trans ended
      · exact absurd serving unserved

/-- A session at work that waits for no reply was told everything. -/
theorem Stage.of_calm
    (h : Stage s pending answers replies)
    (serving : s.service.control = some .serving)
    (calm : ∀ id, s.session.phase ≠ .awaiting id)
    (unended : ∀ result, s.session.phase ≠ .ended result) :
    s.reply = .closed ∧ pending = [] ∧ answers = replies := by
  cases h with
  | settled _ received => exact ⟨received, rfl, rfl⟩
  | waiting awaiting | sent awaiting | abandoned awaiting => exact absurd awaiting (calm _)
  | departed gone =>
      rcases gone with ⟨result, ended⟩ | unserved
      · exact absurd ended (unended result)
      · exact absurd serving unserved

/-- A step that leaves the session and the reply channel alone. -/
theorem Stage.of_same
    (h : Stage s pending answers replies)
    (session : s'.session = s.session)
    (reply : s'.reply = s.reply)
    (free : s.service.IsFree → s'.service.IsFree)
    (gone : s.service.control ≠ some .serving → s'.service.control ≠ some .serving) :
    Stage s' pending answers replies := by
  cases h with
  | settled calm received => exact .settled (session ▸ calm) (reply.trans received)
  | waiting awaiting unanswered =>
      exact .waiting (session ▸ awaiting) (reply.trans unanswered)
  | sent awaiting answered => exact .sent (session ▸ awaiting) (reply.trans answered)
  | abandoned awaiting dropped idle few =>
      exact .abandoned (session ▸ awaiting) (reply.trans dropped) (free idle) few
  | departed departed told few =>
      refine .departed ?_ told few
      rcases departed with ended | unserved
      · exact .inl (session ▸ ended)
      · exact .inr (gone unserved)

/-- The sender of the reply is dropped. -/
theorem Stage.hungUp
    (h : Stage s pending answers replies)
    (free : s.service.IsFree) :
    Stage { s with reply := s.reply.dropSender } pending answers replies := by
  cases h with
  | settled calm received => exact .settled calm (by simp [received, Oneshot.dropSender])
  | waiting awaiting unanswered =>
      exact .abandoned awaiting (by simp [unanswered, Oneshot.dropSender]) free (by simp)
  | sent awaiting answered => exact .sent awaiting (by simp [answered, Oneshot.dropSender])
  | abandoned awaiting dropped idle few =>
      exact .abandoned awaiting (by simp [dropped, Oneshot.dropSender]) idle few
  | departed gone told few => exact .departed gone told few

/-- The pending request is answered. -/
theorem Stage.answered
    {request : Request}
    (h : Stage s [request] answers replies)
    (busy : ¬ s.service.IsFree)
    (result : Except CallError Reply)
    (session : s'.session = s.session)
    (reply : s'.reply = s.reply.afterSend result)
    (gone : s.service.control ≠ some .serving → s'.service.control ≠ some .serving) :
    Stage s' [] (answers ++ [result]) replies := by
  cases h with
  | waiting awaiting unanswered =>
      refine .sent (session ▸ awaiting) ?_
      simp [reply, unanswered, Oneshot.afterSend, Oneshot.send]
  | abandoned _ _ free => exact absurd free busy
  | departed departed told few =>
      refine .departed ?_ (told.trans (List.prefix_append _ _)) (by simpa using few)
      rcases departed with ended | unserved
      · exact .inl (session ▸ ended)
      · exact .inr (gone unserved)

/-- The manager has the pending request in hand, or none. -/
def Held
    (crates : Crates)
    (steps : List (Step Service Occurrence))
    (s : Service)
    (pending : List Request) :
    Prop :=
  s.IsFree ∨ ∃ request, pending = [request] ∧ InHand crates steps s request

/-- A step that answers nothing. -/
theorem ServiceStep.held
    {service service' : Service} {occurrence : Occurrence} {steps : List (Step Service Occurrence)}
    (h : ServiceStep crates texts service occurrence service')
    (hs : service.Coherent)
    (own : service.TakesNone service')
    (quiet : ∀ result, occurrence ≠ .answered result)
    (held : Held crates steps service pending) :
    Held crates (steps ++ [⟨service, occurrence, service'⟩]) service' pending := by
  rcases held with free | ⟨request, hpending, inHand⟩
  · exact .inl (h.isFree hs own free).1
  · cases h.progress hs own inHand with
    | answered label => exact absurd label (quiet _)
    | kept _ inHand => exact .inr ⟨request, hpending, inHand⟩
    | dropped _ free => exact .inl free

/-! ### Exchanges -/

/-- A call of the manager and its answer, with what happened before and in between. -/
structure Exchange where
  before : List (Step Connection ConnectionEvent)
  call : Step Connection ConnectionEvent
  steps : List (Step Connection ConnectionEvent)
  answer : Step Connection ConnectionEvent
  request : Request
  result : Except CallError Reply

def Exchange.all (exchange : Exchange) : List (Step Connection ConnectionEvent) :=
  exchange.before ++ exchange.call :: (exchange.steps ++ [exchange.answer])

/-- There is neither a call nor an answer among these steps. -/
def IsCalm (steps : List (Step Connection ConnectionEvent)) : Prop :=
  ∀ t ∈ steps, t.label.requests = [] ∧ t.label.answers = []

/-- One request is sent and answered, and the answer says what was done for it meanwhile. -/
structure Exchange.IsProper (crates : Crates) (texts : Texts) (exchange : Exchange) : Prop where
  before : IsCalm exchange.before
  called : exchange.call.label.requests = [exchange.request]
  unanswered : exchange.call.label.answers = []
  steps : IsCalm exchange.steps
  answered : exchange.answer.label = ⟨none, some (.answered exchange.result)⟩
  outcome :
    Outcome crates texts (serviceSteps (exchange.call :: exchange.steps))
      ⟨exchange.answer.pre.service, .answered exchange.result, exchange.answer.post.service⟩
      exchange.request exchange.result

theorem IsCalm.nil : IsCalm [] := by
  simp [IsCalm]

theorem IsCalm.snoc
    {steps : List (Step Connection ConnectionEvent)} {t : Step Connection ConnectionEvent}
    (h : IsCalm steps)
    (uncalled : t.label.requests = [])
    (unanswered : t.label.answers = []) :
    IsCalm (steps ++ [t]) := by
  intro u hu
  rcases List.mem_append.mp hu with hu | hu
  · exact h u hu
  · cases List.mem_singleton.mp hu
    exact ⟨uncalled, unanswered⟩

theorem IsCalm.no_requests
    {steps : List (Step Connection ConnectionEvent)}
    (h : IsCalm steps) :
    produced ConnectionEvent.requests steps = [] :=
  List.flatMap_eq_nil_iff.mpr fun t ht => (h t ht).1

theorem Exchange.IsProper.requests_all
    {exchange : Exchange}
    (h : exchange.IsProper crates texts) :
    produced ConnectionEvent.requests exchange.all = [exchange.request] := by
  have hanswer : exchange.answer.label.requests = [] := by
    rw [h.answered]
    rfl
  simp [Exchange.all, h.before.no_requests, h.steps.no_requests, h.called, hanswer]

variable {exchanges : List Exchange}

theorem produced_requests_exchanges
    (h : ∀ e ∈ exchanges, e.IsProper crates texts) :
    produced ConnectionEvent.requests (exchanges.flatMap Exchange.all) =
      exchanges.map Exchange.request := by
  induction exchanges with
  | nil => rfl
  | cons e rest ih =>
      rw [List.flatMap_cons, produced_append, (h e List.mem_cons_self).requests_all,
        ih fun e he => h e (List.mem_cons_of_mem _ he)]
      rfl

/-- The steps since the pending request was sent. -/
inductive Outstanding : List (Step Connection ConnectionEvent) → List Request → Prop
  | none : Outstanding [] []
  | some
      {call : Step Connection ConnectionEvent} {steps : List (Step Connection ConnectionEvent)}
      {request : Request}
      (called : call.label.requests = [request])
      (unanswered : call.label.answers = [])
      (calm : IsCalm steps) :
      Outstanding (call :: steps) [request]

variable {before during : List (Step Connection ConnectionEvent)}

/-- The history falls into exchanges and what has happened since, with the pending request. -/
structure Tally
    (crates : Crates)
    (texts : Texts)
    (history : List (Step Connection ConnectionEvent))
    (s : Connection)
    (exchanges : List Exchange)
    (before during : List (Step Connection ConnectionEvent))
    (pending : List Request) :
    Prop where
  history_eq : history = exchanges.flatMap Exchange.all ++ (before ++ during)
  proper : ∀ e ∈ exchanges, e.IsProper crates texts
  calm : IsCalm before
  outstanding : Outstanding during pending
  held : Held crates (serviceSteps during) s.service pending
  stage : Stage s pending (exchanges.map Exchange.result)
    (produced ConnectionEvent.replies history)

/-- The history of the connection falls into exchanges and a rest. -/
def Tallied
    (crates : Crates)
    (texts : Texts)
    (history : List (Step Connection ConnectionEvent))
    (s : Connection) :
    Prop :=
  ∃ exchanges before during pending, Tally crates texts history s exchanges before during pending

theorem serviceSteps_snoc
    (history : List (Step Connection ConnectionEvent))
    {occurrence : Occurrence}
    (h : event.service = some occurrence) :
    serviceSteps (history ++ [⟨s, event, s'⟩]) =
      serviceSteps history ++ [⟨s.service, occurrence, s'.service⟩] := by
  rw [serviceSteps, partOf_append, partOf_singleton h]
  rfl

theorem serviceSteps_snoc_none
    (history : List (Step Connection ConnectionEvent))
    (h : event.service = none) :
    serviceSteps (history ++ [⟨s, event, s'⟩]) = serviceSteps history := by
  rw [serviceSteps, partOf_append, partOf_singleton_none h, List.append_nil]
  rfl

/-- A step that makes no call and answers none. -/
theorem Tally.extend
    (h : Tally crates texts history s exchanges before during pending)
    (uncalled : event.requests = [])
    (unanswered : event.answers = [])
    (held : Held crates (serviceSteps (during ++ [⟨s, event, s'⟩])) s'.service pending)
    (stage : Stage s' pending (exchanges.map Exchange.result)
      (produced ConnectionEvent.replies history ++ event.replies)) :
    Tallied crates texts (history ++ [⟨s, event, s'⟩]) s' := by
  have hstage : Stage s' pending (exchanges.map Exchange.result)
      (produced ConnectionEvent.replies (history ++ [⟨s, event, s'⟩])) := by
    simpa using stage
  have houtstanding := h.outstanding
  cases houtstanding with
  | none =>
      refine ⟨exchanges, before ++ [⟨s, event, s'⟩], [], [], ?_, h.proper,
        h.calm.snoc uncalled unanswered, .none, ?_, hstage⟩
      · simp [h.history_eq]
      · rcases held with free | ⟨_, hpending, _⟩
        · exact .inl free
        · cases hpending
  | @some call steps request called unanswered' calm =>
      have hsteps : IsCalm (steps ++ [⟨s, event, s'⟩]) := calm.snoc uncalled unanswered
      refine ⟨exchanges, before, call :: (steps ++ [⟨s, event, s'⟩]), [request], ?_, h.proper,
        h.calm, .some called unanswered' hsteps, by simpa using held, hstage⟩
      simp [h.history_eq]

/-- A step of the session, of the reply channel, or of both. -/
theorem Tally.beside
    (h : Tally crates texts history s exchanges before during pending)
    (uncalled : event.requests = [])
    (alone : event.service = none)
    (service : s'.service = s.service)
    (stage : Stage s' pending (exchanges.map Exchange.result)
      (produced ConnectionEvent.replies history ++ event.replies)) :
    Tallied crates texts (history ++ [⟨s, event, s'⟩]) s' := by
  refine h.extend uncalled ?_ ?_ stage
  · simp [ConnectionEvent.answers, alone]
  · rw [serviceSteps_snoc_none during alone, service]
    exact h.held

/-- A step of the manager that answers nothing. -/
theorem Tally.served
    {occurrence : Occurrence}
    (h : Tally crates texts history s exchanges before during pending)
    (hs : s.service.Coherent)
    (step : ServiceStep crates texts s.service occurrence s'.service)
    (own : s.service.TakesNone s'.service)
    (quiet : ∀ result, occurrence ≠ .answered result)
    (stage : Stage s' pending (exchanges.map Exchange.result)
      (produced ConnectionEvent.replies history)) :
    Tallied crates texts (history ++ [⟨s, ⟨none, some occurrence⟩, s'⟩]) s' := by
  refine h.extend rfl ?_ ?_ ?_
  · cases occurrence with
    | answered result => exact absurd rfl (quiet result)
    | internal | built | delivered | handled | reaped | initializeReturned | runReturned
    | shutdownReturned | cancelled => rfl
  · rw [serviceSteps_snoc during rfl]
    exact step.held hs own quiet h.held
  · simpa [ConnectionEvent.replies] using stage

/-- The manager answers the pending request, which ends an exchange. -/
theorem Tally.answered
    {request : Request} {result : Except CallError Reply}
    (h : Tally crates texts history s exchanges before during [request])
    (outcome : Outcome crates texts (serviceSteps during)
      ⟨s.service, .answered result, s'.service⟩ request result)
    (free : s'.service.IsFree)
    (stage : Stage s' [] (exchanges.map Exchange.result ++ [result])
      (produced ConnectionEvent.replies history)) :
    Tallied crates texts (history ++ [⟨s, ⟨none, some (.answered result)⟩, s'⟩]) s' := by
  have houtstanding := h.outstanding
  cases houtstanding with
  | @some call steps _ called unanswered calm =>
      refine ⟨exchanges ++ [⟨before, call, steps,
        ⟨s, ⟨none, some (.answered result)⟩, s'⟩, request, result⟩], [], [], [], ?_, ?_,
        .nil, .none, .inl free, ?_⟩
      · simp [h.history_eq, Exchange.all]
      · intro e he
        rcases List.mem_append.mp he with he | he
        · exact h.proper e he
        · cases List.mem_singleton.mp he
          exact ⟨h.calm, called, unanswered, calm, rfl, outcome⟩
      · simpa [ConnectionEvent.replies] using stage

/-- A step that the session takes alone leads it neither to a call nor to a reply. -/
theorem ControlStep.calm_of_isAlone
    {session session' : ControlSession} {event : ControlEvent}
    (h : ControlStep crates texts control session event session')
    (alone : event.isAlone = true) :
    event.calls = [] ∧ event.replies = [] ∧
    (∀ id, session.phase ≠ .awaiting id) ∧
    (∀ result, session.phase ≠ .ended result) ∧
    ∀ id, session'.phase ≠ .awaiting id := by
  cases h with
  | accepted before | rejected before | peerClosed before | readFailed before
  | responded before | writeFailed before =>
      rw [before]
      exact ⟨rfl, rfl, nofun, nofun, nofun⟩
  | callsClosed selecting unended => exact ⟨rfl, rfl, selecting, unended, nofun⟩
  | called | replied | replyDropped => cases alone

theorem Occurrence.settle_of_quiet
    {occurrence : Occurrence}
    (quiet : ∀ result, occurrence ≠ .answered result)
    (reply : Oneshot (Except CallError Reply)) :
    occurrence.settle reply = reply := by
  cases occurrence with
  | answered result => exact absurd rfl (quiet result)
  | internal | built | delivered | handled | reaped | initializeReturned | runReturned
  | shutdownReturned | cancelled => rfl

/-- A step of the manager, of a worker or of a VM. -/
theorem Tally.service
    {occurrence : Occurrence}
    (h : Tally crates texts history s exchanges before during pending)
    (hs : s.service.Coherent)
    (step : ServiceStep crates texts s.service occurrence s'.service)
    (own : s.service.TakesNone s'.service)
    (joined : s'.service.control = s.service.control ∨ s'.service.control = none)
    (session : s'.session = s.session)
    (reply : s'.reply = occurrence.settle s.reply) :
    Tallied crates texts (history ++ [⟨s, ⟨none, some occurrence⟩, s'⟩]) s' := by
  have hgone : s.service.control ≠ some .serving → s'.service.control ≠ some .serving := by
    intro hbefore
    rcases joined with hsame | hnone
    · rwa [hsame]
    · simp [hnone]
  have hquiet : (∀ result, occurrence ≠ .answered result) →
      Tallied crates texts (history ++ [⟨s, ⟨none, some occurrence⟩, s'⟩]) s' := by
    intro quiet
    refine h.served hs step own quiet (h.stage.of_same session ?_ ?_ hgone)
    · rw [reply, Occurrence.settle_of_quiet quiet]
    · exact fun free => (step.isFree hs own free).1
  rcases h.held with free | ⟨request, rfl, inHand⟩
  · exact hquiet (step.isFree hs own free).2
  · cases step.progress hs own inHand with
    | kept quiet | dropped quiet => exact hquiet quiet
    | @answered result label outcome free =>
        subst label
        have hbusy : ¬ s.service.IsFree :=
          fun idle => (step.isFree hs own idle).2 result rfl
        exact h.answered outcome free (h.stage.answered hbusy result session reply hgone)

/-- A request is sent. -/
theorem Tally.called
    {id : RpcId} {parsed : Parsed}
    (h : Tally crates texts history s exchanges before during pending)
    (serving : s.service.control = some .serving)
    (calling : s.session.phase = .calling id parsed)
    (awaiting : s'.session.phase = .awaiting id)
    (reply : s'.reply = .waiting)
    (service : s'.service = { s.service with queued := some parsed.request }) :
    Tallied crates texts
      (history ++ [⟨s, ⟨some (.called parsed), some .internal⟩, s'⟩]) s' := by
  obtain ⟨_, rfl, htold⟩ := h.stage.of_calm serving (by simp [calling]) (by simp [calling])
  have houtstanding := h.outstanding
  cases houtstanding with
  | none =>
      refine ⟨exchanges, before, [⟨s, ⟨some (.called parsed), some .internal⟩, s'⟩],
        [parsed.request], ?_, h.proper, h.calm, .some rfl rfl .nil, ?_, ?_⟩
      · simp [h.history_eq]
      · rcases h.held with free | ⟨request, hpending, _⟩
        · refine .inr ⟨_, rfl, .queued (by rw [service]) (by rw [service]; exact free.serves) ?_⟩
          intro t ht
          cases List.mem_singleton.mp ht
          nofun
        · cases hpending
      · simp only [produced_append, produced_singleton, ConnectionEvent.replies, Option.elim,
          ControlEvent.replies, List.append_nil, htold]
        exact .waiting awaiting reply

/-- The session is told the answer to its call. -/
theorem Tally.replied
    {id : RpcId} {result : Except CallError Reply}
    (h : Tally crates texts history s exchanges before during pending)
    (serving : s.service.control = some .serving)
    (awaiting : s.session.phase = .awaiting id)
    (sent : s.reply = .sent result)
    (service : s'.service = s.service)
    (calm : ∀ id, s'.session.phase ≠ .awaiting id)
    (received : s'.reply = .closed) :
    Tallied crates texts (history ++ [⟨s, ⟨some (.replied result), none⟩, s'⟩]) s' := by
  obtain ⟨_, hreply, _⟩ | ⟨told, hreply, rfl, hanswers⟩ | ⟨hreply, _⟩ :=
    h.stage.of_awaiting serving awaiting
  · cases sent.symm.trans hreply
  · cases sent.symm.trans hreply
    refine h.beside rfl rfl service ?_
    simp only [ConnectionEvent.replies, Option.elim, ControlEvent.replies, hanswers]
    exact .settled calm received
  · cases sent.symm.trans hreply

theorem ConnectionStep.tallied
    (h : ConnectionStep crates texts control s event s')
    (hs : s.service.Coherent)
    (tally : Tally crates texts history s exchanges before during pending) :
    Tallied crates texts (history ++ [⟨s, event, s'⟩]) s' := by
  cases h with
  | session serving alone closed step =>
      obtain ⟨hcalls, hreplies, hcalm, hunended, hafter⟩ := step.calm_of_isAlone alone
      obtain ⟨hreply, rfl, htold⟩ := tally.stage.of_calm serving hcalm hunended
      refine tally.beside ?_ rfl rfl ?_
      · simp [ConnectionEvent.requests, hcalls]
      · simp only [ConnectionEvent.replies, Option.elim, hreplies, List.append_nil, htold]
        exact .settled hafter hreply
  | called serving opened room step =>
      cases step with
      | called calling => exact tally.called serving calling rfl rfl rfl
  | service step own joined => exact tally.service hs step own joined rfl rfl
  | hungUp free =>
      refine tally.beside rfl rfl rfl ?_
      simpa [ConnectionEvent.replies] using tally.stage.hungUp free
  | replied serving received step =>
      cases step with
      | replied awaiting =>
          exact tally.replied serving awaiting (Oneshot.eq_sent_of_receive received) rfl
            (by simp) rfl
  | replyDropped serving received step =>
      cases step with
      | replyDropped awaiting =>
          obtain ⟨htold, hfew⟩ := tally.stage.counts
          refine tally.beside rfl rfl rfl ?_
          simp only [ConnectionEvent.replies, Option.elim, ControlEvent.replies, List.append_nil]
          exact .departed (.inl ⟨_, rfl⟩) htold hfew
  | stopped serving =>
      obtain ⟨htold, hfew⟩ := tally.stage.counts
      exact tally.served hs (.controlEnded serving) (.inr rfl) (by simp)
        (.departed (.inr (by simp)) htold hfew)

theorem ConnectionRun.tallied
    (run : ConnectionRun crates texts control chunks history s) :
    Tallied crates texts history s := by
  induction run with
  | nil =>
      exact ⟨[], [], [], [], rfl, by simp, .nil, .none, .inl ⟨rfl, rfl⟩, .settled nofun rfl⟩
  | snoc run step ih =>
      obtain ⟨exchanges, before, during, pending, tally⟩ := ih
      exact step.tallied (ConnectionRun.serviceRun run).coherent tally

end Calls

/-! ## A deployment of two VMs -/

section Deployment

variable {crates : Crates}
variable {texts : Texts}
variable {control : ControlCrates}
variable {steps : List (Step Service Occurrence)}
variable {service' : Service}

/-- What the manager does by itself happens on the connection. -/
theorem exists_run_of_innerSteps
    (control : ControlCrates)
    (s : Connection)
    (run : Run (InnerStep crates texts) s.service steps service') :
    ∃ history s',
      Run (ConnectionStep crates texts control) s history s' ∧
      s'.session = s.session ∧
      s'.service = service' ∧
      s'.reply = (steps.map Step.label).foldl (fun reply occurrence => occurrence.settle reply)
        s.reply ∧
      sessionSteps history = [] := by
  generalize hstart : s.service = start at run
  induction run with
  | nil => exact ⟨[], s, .nil, rfl, hstart, rfl, rfl⟩
  | @snoc steps service service' occurrence run step ih =>
      obtain ⟨history, s', hrun, hsession, rfl, hreply, hnone⟩ := ih
      have hstep : ConnectionStep crates texts control s' _ _ :=
        .service step.step step.queued (.inl step.control)
      refine ⟨_, _, hrun.snoc hstep, hsession, rfl, ?_, ?_⟩
      · simp [hreply]
      · rw [sessionSteps, partOf_append, partOf_singleton_none rfl, List.append_nil]
        exact hnone

/-- A request is served while the manager does nothing else. -/
theorem exists_round
    (s : Connection)
    {frame : Frame} {transport : ControlTransport} {id : RpcId} {parsed : Parsed}
    {result : Except CallError Reply}
    (receiving : s.session.phase = .receiving)
    (next : s.session.transport.next = (some frame, transport))
    (request : IsRequest control frame id parsed)
    (serving : s.service.control = some .serving)
    (opened : s.service.callsClosed = false)
    (room : s.service.queued = none)
    (run : Run (InnerStep crates texts) { s.service with queued := some parsed.request } steps
      service')
    (serving' : service'.control = some .serving)
    (answered : (steps.map Step.label).foldl (fun reply occurrence => occurrence.settle reply)
      .waiting = .sent result) :
    ∃ history s',
      Run (ConnectionStep crates texts control) s history s' ∧
      s'.session = ⟨transport, .receiving⟩ ∧
      s'.service = service' ∧
      (sessionSteps history).map Step.label =
        [.received frame, .called parsed, .replied result,
          .responded ⟨id, wireResult crates texts result⟩] := by
  have received : ConnectionStep crates texts control s ⟨some (.received frame), none⟩
      { s with session := ⟨transport, .calling id parsed⟩ } :=
    .session serving rfl (by simp) (.accepted receiving next request.parse)
  have called : ConnectionStep crates texts control
      { s with session := ⟨transport, .calling id parsed⟩ }
      ⟨some (.called parsed), some .internal⟩
      { s with
        session := ⟨transport, .awaiting id⟩
        reply := .waiting
        service := { s.service with queued := some parsed.request } } :=
    .called serving opened room (.called rfl)
  obtain ⟨history, s', hrun, hsession, rfl, hreply, hnone⟩ :=
    exists_run_of_innerSteps control
      { s with
        session := ⟨transport, .awaiting id⟩
        reply := .waiting
        service := { s.service with queued := some parsed.request } } run
  rw [answered] at hreply
  have replied : ConnectionStep crates texts control s' ⟨some (.replied result), none⟩
      { s' with
        session := ⟨transport, .responding ⟨id, wireResult crates texts result⟩⟩
        reply := .closed } := by
    have step : ControlStep crates texts control s'.session (.replied result)
        { s'.session with phase := .responding ⟨id, wireResult crates texts result⟩ } :=
      .replied (by rw [hsession]) result
    rw [show s'.session = ⟨transport, .awaiting id⟩ from hsession] at step
    exact .replied serving' (by simp [hreply, Oneshot.receive]) (by rw [hsession]; exact step)
  have responded : ConnectionStep crates texts control
      { s' with
        session := ⟨transport, .responding ⟨id, wireResult crates texts result⟩⟩
        reply := .closed }
      ⟨some (.responded ⟨id, wireResult crates texts result⟩), none⟩
      { s' with session := ⟨transport, .receiving⟩, reply := .closed } :=
    .session serving' rfl (by simp) (.responded rfl)
  refine ⟨_, _, ((((Run.nil.snoc received).snoc called).append hrun).snoc replied).snoc responded,
    rfl, rfl, ?_⟩
  rw [sessionSteps] at hnone ⊢
  simp only [partOf_append, hnone]
  rfl

/-- The two VMs as the peer asks for them. -/
def initializeText : String :=
  "\x7b\"jsonrpc\":\"2.0\",\"id\":1,\"method\":\"softnet.initialize\",\"params\":\x7b\"vms\":[" ++
    "\x7b\"vmMacAddress\":\"02:00:00:00:00:02\",\"allow\":[\"out @peers\"]\x7d," ++
    "\x7b\"vmMacAddress\":\"02:00:00:00:00:03\"\x7d]\x7d\x7d"

def initializeParams : Json.Value :=
  .object [("vms", .array
    [.object [("vmMacAddress", .string "02:00:00:00:00:02"),
        ("allow", .array [.string "out @peers"])],
      .object [("vmMacAddress", .string "02:00:00:00:00:03")]])]

def initializeAsked : Json.Value :=
  .object [("jsonrpc", .string "2.0"), ("id", .number (.natural 1)),
    ("method", .string "softnet.initialize"), ("params", initializeParams)]

/-- The second VM is asked for its policy by the name that it was given. -/
def secondText : String :=
  "\x7b\"jsonrpc\":\"2.0\",\"id\":2,\"method\":\"softnet.policy.get\",\"params\":" ++
    "\x7b\"vmId\":\"00000000-0000-0000-0000-000000000001\"\x7d\x7d"

def secondMembers : List (String × Json.Value) :=
  [("vmId", .string "00000000-0000-0000-0000-000000000001")]

def secondAsked : Json.Value :=
  .object [("jsonrpc", .string "2.0"), ("id", .number (.natural 2)),
    ("method", .string "softnet.policy.get"), ("params", .object secondMembers)]

theorem isLine_initializeText : IsLine initializeText := by
  decide +kernel

theorem isLine_secondText : IsLine secondText := by
  decide +kernel

def pairControl : ControlCrates :=
  tableControl [(initializeText, initializeAsked), (secondText, secondAsked)]

theorem length_pairFds_le : [3, 4].length ≤ maxFrameFds := by decide

/-- Both requests arrive, the first one with two descriptors. -/
def pairLines : List Chunk :=
  [lineChunk initializeText [3, 4] isLine_initializeText length_pairFds_le,
    lineChunk secondText [] isLine_secondText (Nat.zero_le _)]

theorem denotes_outPeers :
    Denotes decimalReader "out @peers".toList (.stateful .outbound .peers .unrestricted) := by
  have htext : "out @peers".toList =
      Direction.outbound.text.toList ++ ([] ++ ((blanks 0 ++ "@peers".toList) ++ [])) := by
    decide +kernel
  rw [htext]
  exact .directional .absent (.present .peers) .absent (.inl rfl)

theorem isRequest_initializeText :
    IsRequest pairControl ⟨.ok initializeText, [3, 4]⟩ (.number 1)
      ⟨.initializeVms .nat pairVms, [3, 4]⟩ := by
  have first : VmParams.IsSpelled ⟨"02:00:00:00:00:02", none, ["out @peers"], [], []⟩
      (.object [("vmMacAddress", .string "02:00:00:00:00:02"),
        ("allow", .array [.string "out @peers"])]) :=
    ⟨none, some (.array [.string "out @peers"]), none, none, .object (.refl _), .omitted, nofun,
      .listed ["out @peers"], .omitted, .omitted⟩
  have second : VmParams.IsSpelled ⟨"02:00:00:00:00:03", none, [], [], []⟩
      (.object [("vmMacAddress", .string "02:00:00:00:00:03")]) :=
    ⟨none, none, none, none, .object (.refl _), .omitted, nofun, .omitted, .omitted, .omitted⟩
  have spelled : InitializeParams.IsSpelled
      ⟨none, [⟨"02:00:00:00:00:02", none, ["out @peers"], [], []⟩,
        ⟨"02:00:00:00:00:03", none, [], [], []⟩]⟩ initializeParams :=
    ⟨none, _, .object (.refl _), .omitted, .cons first (.cons second .nil)⟩
  refine ⟨initializeText, initializeAsked, "softnet.initialize", some initializeParams, rfl,
    by simp [pairControl, tableControl], ⟨⟨_, rfl, .refl _⟩, nofun⟩,
    .initializeVms rfl spelled (by decide) rfl rfl (.cons ?_ (.cons ?_ .nil))⟩
  · exact ⟨by decide +kernel, rfl, by decide, .cons denotes_outPeers .nil, .nil, .nil⟩
  · exact ⟨by decide +kernel, rfl, by decide, .nil, .nil, .nil⟩

theorem fromStr_secondText : pairControl.fromStr secondText = some secondAsked := by
  have hother : (secondText == initializeText) = false := by decide +kernel
  simp [pairControl, tableControl, List.lookup_cons, hother]

theorem isRequest_secondText :
    IsRequest pairControl ⟨.ok secondText, []⟩ (.number 2) ⟨.policy (some 1) .policyGet, []⟩ := by
  have spelled : GetParams.IsSpelled ⟨some "00000000-0000-0000-0000-000000000001"⟩
      (.object secondMembers) :=
    ⟨_, .object (.refl _), .text _⟩
  refine ⟨secondText, secondAsked, "softnet.policy.get", some (.object secondMembers), rfl,
    fromStr_secondText, ⟨⟨_, rfl, .refl _⟩, nofun⟩, .policyGet rfl spelled ?_⟩
  rw [IsTargetVm]
  decide +kernel

/-- What the peer is answered. -/
def pairResponses (crates : Crates) (texts : Texts) : List Json.Value :=
  [(Response.mk (.number 1) (wireResult crates texts (.ok (.initialized pairReply)))).toJson,
    (Response.mk (.number 2) (wireResult crates texts (.ok (.policy ⟨[], [], 0⟩)))).toJson]

/-- `run` waits for what the peer sends. -/
def pairConnection : Connection :=
  { Connection.new pairLines with
    service := { Service.new (some .serving) with activity := .running } }

/-- The peer asks for two VMs, and then for the policy of the second one. -/
theorem exists_pair_connection (crates : Crates) (texts : Texts) :
    ∃ history s,
      ConnectionRun crates texts pairControl pairLines history s ∧
      produced ConnectionEvent.requests history =
        [.initializeVms .nat pairVms, .policy (some 1) .policyGet] ∧
      produced ConnectionEvent.replies history =
        [.ok (.initialized pairReply), .ok (.policy ⟨[], [], 0⟩)] ∧
      produced ControlEvent.responses (sessionSteps history) = pairResponses crates texts ∧
      ∃ sides, s.service = pairService crates sides none := by
  obtain ⟨setup, sides, settingUp, setupLabels, plain⟩ := exists_pair_setup crates texts
  obtain ⟨inquiry, sides', inquiring, inquiryLabels, _⟩ := exists_pair_inquiry crates texts plain
  have started : ConnectionStep crates texts pairControl (.new pairLines)
      ⟨none, some .internal⟩ pairConnection :=
    .service (.holder (.runStarted rfl rfl)) (.inl rfl) (.inl rfl)
  obtain ⟨first, s₁, hfirst, hsession, hservice, hlabels⟩ :=
    exists_round pairConnection rfl (next_lineChunk _ _ _) isRequest_initializeText rfl rfl rfl
      settingUp rfl (by rw [setupLabels]; rfl)
  obtain ⟨second, s₂, hsecond, _, hservice', hlabels'⟩ :=
    exists_round s₁ (by rw [hsession]) (by rw [hsession]; exact next_lineChunk _ _ _)
      isRequest_secondText (by rw [hservice]; rfl) (by rw [hservice]; rfl) (by rw [hservice]; rfl)
      (by rw [hservice]; exact inquiring) rfl (by rw [inquiryLabels]; rfl)
  obtain ⟨history, hrun, hlabels''⟩ : ∃ history,
      ConnectionRun crates texts pairControl pairLines history s₂ ∧
      (sessionSteps history).map Step.label =
        (sessionSteps first).map Step.label ++ (sessionSteps second).map Step.label := by
    refine ⟨_, ((Run.nil.snoc started).append hfirst).append hsecond, ?_⟩
    simp [sessionSteps, partOf]
  have hproduced {γ : Type} (out : ControlEvent → List γ) :
      produced out (sessionSteps history) =
        ((sessionSteps first).map Step.label ++ (sessionSteps second).map Step.label).flatMap
          out := by
    rw [← hlabels'', List.flatMap_map]
    rfl
  rw [hlabels, hlabels'] at hproduced
  refine ⟨history, s₂, hrun, ?_, ?_, hproduced _, sides', hservice'⟩
  · rw [produced_requests_eq, hproduced]
    rfl
  · rw [produced_replies_eq, hproduced]
    rfl

end Deployment

end Softnet
