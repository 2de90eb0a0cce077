import Softnet.Control.Connection

/-!
# What the peer is told

Every response of a connection is the response to the frame at its position: the error that says
what is wrong with a frame that is no request, or what the manager answered in the exchange for
that very frame.

An exchange is found by its number.  The frames say how many calls were made before theirs
(`Control.calls`), so that the call of a frame is made when that frame is the last one received.
-/

namespace Softnet

open Transition

section Responses

variable {crates : Crates}
variable {texts : Texts}
variable {control : ControlCrates}
variable {chunks : List Chunk}
variable {history : List (Step Connection ConnectionEvent)}
variable {s s' : Connection}
variable {event : ConnectionEvent}
variable {pending : List Request}
variable {replies : List (Except CallError Reply)}
variable {exchanges : List Exchange}
variable {before during : List (Step Connection ConnectionEvent)}

/-! ## The calls of a session -/

/-- The calls that a frame leads to. -/
def Control.calls (control : ControlCrates) (frame : Frame) : List Parsed :=
  match Control.parse control frame with
  | .done (_, parsed) => [parsed]
  | .failed _ | .panicked => []

theorem IsRequest.calls_eq
    {frame : Frame} {id : RpcId} {parsed : Parsed}
    (h : IsRequest control frame id parsed) :
    Control.calls control frame = [parsed] := by
  rw [Control.calls, h.parse]

theorem Answered.calls_eq
    {frame : Frame} {calls : List Parsed} {response : Json.Value}
    (h : Answered crates texts control frame calls replies response) :
    calls = Control.calls control frame := by
  cases h with
  | rejected rejected =>
      rw [Control.calls]
      cases hparse : Control.parse control frame with
      | done pair => exact absurd (Control.isRequest_of_parse hparse) rejected.not_isRequest
      | failed | panicked => rfl
  | served request => exact request.calls_eq.symm

/-- A longer part of a list leads to more, if the next element leads to something. -/
theorem length_flatMap_take_lt
    {α β : Type} {f : α → List β} {xs : List α} {x : α} {j k : Nat}
    (next : xs[j]? = some x)
    (some : f x ≠ [])
    (less : j < k) :
    ((xs.take j).flatMap f).length < ((xs.take k).flatMap f).length := by
  obtain ⟨rest, hrest⟩ := List.take_prefix_take_left (l := xs) (Nat.succ_le_of_lt less)
  rw [← hrest, List.take_add_one, next]
  have hpos := List.length_pos_iff.mpr some
  simp only [Option.toList_some, List.flatMap_append, List.flatMap_singleton, List.length_append]
  omega

/-- Elements that lead to something are told apart by how much there is before them. -/
theorem eq_of_length_flatMap_take
    {α β : Type} {f : α → List β} {xs : List α} {x y : α} {j k : Nat}
    (hx : xs[j]? = some x)
    (hy : xs[k]? = some y)
    (some : f x ≠ [])
    (some' : f y ≠ [])
    (same : ((xs.take j).flatMap f).length = ((xs.take k).flatMap f).length) :
    j = k := by
  rcases Nat.lt_trichotomy j k with hless | hsame | hmore
  · exact absurd same (Nat.ne_of_lt (length_flatMap_take_lt hx some hless))
  · exact hsame
  · exact absurd same.symm (Nat.ne_of_lt (length_flatMap_take_lt hy some' hmore))

theorem flatMap_cut
    {α β : Type} (f : α → List β) {xs : List α} {k : Nat}
    (hk : k < xs.length) :
    xs.flatMap f = (xs.take k).flatMap f ++ (f xs[k] ++ (xs.drop (k + 1)).flatMap f) := by
  rw [← List.flatMap_cons, ← List.drop_eq_getElem_cons hk, ← List.flatMap_append,
    List.take_append_drop]

variable {phase : ControlPhase}
variable {rounds : List Round}
variable {frames : List Frame}
variable {calls : List Parsed}
variable {steps : List (Step ControlSession ControlEvent)}

/-- The rounds that are over say which calls their frames led to. -/
theorem Account.calls_of_frames
    (h : Account crates texts control steps phase rounds frames calls replies) :
    rounds.flatMap Round.calls = (rounds.map Round.frame).flatMap (Control.calls control) := by
  rw [List.flatMap_map]
  exact List.flatMap_congr fun r hr => (h.answered r hr).calls_eq

/-- The calls of the first rounds are those of their frames. -/
theorem Account.take_calls
    (h : Account crates texts control steps phase rounds frames calls replies)
    {k : Nat}
    (few : k ≤ rounds.length) :
    (rounds.take k).flatMap Round.calls =
      ((produced ControlEvent.frames steps).take k).flatMap (Control.calls control) := by
  rw [h.frames_eq, List.take_append_of_le_length (by simpa using few), ← List.map_take,
    List.flatMap_map]
  exact List.flatMap_congr fun r hr => (h.answered r (List.mem_of_mem_take hr)).calls_eq

/-- The first rounds make as many calls as they are told replies. -/
theorem Account.take_length_eq
    (h : Account crates texts control steps phase rounds frames calls replies)
    (k : Nat) :
    ((rounds.take k).flatMap Round.calls).length =
      ((rounds.take k).flatMap Round.replies).length := by
  rw [List.length_flatMap, List.length_flatMap]
  congr 1
  exact List.map_congr_left fun r hr => (h.answered r (List.mem_of_mem_take hr)).length_eq

/-! ## Exchanges by their number -/

/-- The exchange for call number `m`. -/
structure Exchange.IsNumber
    (history : List (Step Connection ConnectionEvent))
    (m : Nat)
    (past : List (Step Connection ConnectionEvent))
    (exchange : Exchange)
    (rest : List (Step Connection ConnectionEvent)) :
    Prop where
  history_eq : history = past ++ exchange.all ++ rest
  number : (produced ConnectionEvent.requests (past ++ exchange.before)).length = m

theorem Tally.exists_isNumber
    {m : Nat} {result : Except CallError Reply}
    (h : Tally crates texts history s exchanges before during pending)
    (told : (produced ConnectionEvent.replies history)[m]? = some result) :
    ∃ (past : List (Step Connection ConnectionEvent)) (exchange : Exchange)
        (rest : List (Step Connection ConnectionEvent)),
      exchange.IsNumber history m past rest ∧
      exchange.IsProper crates texts ∧
      exchange.result = result := by
  have hresult : (exchanges.map Exchange.result)[m]? = some result := by
    obtain ⟨untold, huntold⟩ := h.stage.counts.1
    rw [← huntold, List.getElem?_append_left (List.getElem?_eq_some_iff.mp told).1, told]
  rw [List.getElem?_map, Option.map_eq_some_iff] at hresult
  obtain ⟨exchange, hexchange, rfl⟩ := hresult
  obtain ⟨hm, rfl⟩ := List.getElem?_eq_some_iff.mp hexchange
  have hmem : exchanges[m] ∈ exchanges := List.getElem_mem hm
  refine ⟨(exchanges.take m).flatMap Exchange.all, exchanges[m],
    (exchanges.drop (m + 1)).flatMap Exchange.all ++ (before ++ during), ⟨?_, ?_⟩,
    h.proper _ hmem, rfl⟩
  · rw [h.history_eq, flatMap_cut Exchange.all hm]
    simp
  · rw [produced_append, (h.proper _ hmem).before.no_requests,
      produced_requests_exchanges fun e he => h.proper e (List.mem_of_mem_take he)]
    simpa using hm.le

theorem Exchange.IsNumber.history_cut
    {m : Nat} {past rest : List (Step Connection ConnectionEvent)} {exchange : Exchange}
    (h : exchange.IsNumber history m past rest) :
    history = (past ++ exchange.before) ++
      exchange.call :: (exchange.steps ++ [exchange.answer] ++ rest) := by
  rw [h.history_eq]
  simp [Exchange.all]

/-- The exchange for call number `m` starts with that call. -/
theorem Exchange.IsNumber.called
    {m : Nat} {past rest : List (Step Connection ConnectionEvent)} {exchange : Exchange}
    {parsed : Parsed}
    (h : exchange.IsNumber history m past rest)
    (proper : exchange.IsProper crates texts)
    (called : (produced ControlEvent.calls (sessionSteps history))[m]? = some parsed) :
    exchange.call.label.control = some (.called parsed) ∧ exchange.request = parsed.request := by
  have hcall := proper.called
  have hcontrol : ∃ sent, exchange.call.label.control = some (.called sent) ∧
      sent.request = exchange.request := by
    rw [ConnectionEvent.requests] at hcall
    rcases hlabel : exchange.call.label.control with _ | event
    · rw [hlabel] at hcall
      cases hcall
    · rw [hlabel] at hcall
      cases event with
      | called sent => exact ⟨sent, rfl, List.cons.inj hcall |>.1⟩
      | received | peerClosed | readFailed | replied | replyDropped | responded | writeFailed
      | callsClosed => cases hcall
  obtain ⟨sent, hsent, hrequest⟩ := hcontrol
  have hnumber := h.number
  rw [produced_requests_eq, List.length_map] at hnumber
  rw [h.history_cut, sessionSteps, partOf_append, produced_append,
    List.getElem?_append_right (by rw [← hnumber]; rfl)] at called
  have hfirst : partOf Connection.session ConnectionEvent.control
      (exchange.call :: (exchange.steps ++ [exchange.answer] ++ rest)) =
      ⟨exchange.call.pre.session, .called sent, exchange.call.post.session⟩ ::
        partOf Connection.session ConnectionEvent.control
          (exchange.steps ++ [exchange.answer] ++ rest) := by
    rw [← List.singleton_append, partOf_append, partOf_singleton hsent, List.singleton_append]
  rw [hfirst, ← hnumber] at called
  simp only [sessionSteps, Nat.sub_self, produced_cons, ControlEvent.calls, List.singleton_append,
    List.getElem?_cons_zero, Option.some.injEq] at called
  subst called
  exact ⟨hsent, hrequest.symm⟩

theorem ConnectionStep.calling
    {parsed : Parsed}
    (h : ConnectionStep crates texts control s event s')
    (called : event.control = some (.called parsed)) :
    ∃ id, s.session.phase = .calling id parsed := by
  cases h with
  | session serving alone =>
      cases called
      cases alone
  | called serving opened room step =>
      cases called
      cases step with
      | called calling => exact ⟨_, calling⟩
  | service | hungUp | replied | replyDropped | stopped => cases called

/-- A call is made when its frame is the last one received, and the only one not answered. -/
theorem Exchange.IsNumber.position
    {k : Nat} {past rest : List (Step Connection ConnectionEvent)} {exchange : Exchange}
    {frame : Frame} {id : RpcId} {parsed : Parsed}
    (run : ConnectionRun crates texts control chunks history s)
    (h : exchange.IsNumber history
      (((produced ControlEvent.frames (sessionSteps history)).take k).flatMap
        (Control.calls control)).length past rest)
    (called : exchange.call.label.control = some (.called parsed))
    (received : (produced ControlEvent.frames (sessionSteps history))[k]? = some frame)
    (request : IsRequest control frame id parsed) :
    (produced ControlEvent.frames (sessionSteps (past ++ exchange.before))).length = k + 1 ∧
    (produced ControlEvent.responses (sessionSteps (past ++ exchange.before))).length = k := by
  obtain ⟨hbefore, hstep, _⟩ := run.split h.history_cut
  obtain ⟨id', hcalling⟩ := hstep.calling called
  obtain ⟨rounds, frames, calls, replies, account⟩ :=
    (ConnectionRun.controlRun hbefore).account
  have hprogress := account.inProgress
  rw [hcalling] at hprogress
  cases hprogress with
  | @calling frame' _ _ request' =>
      have hframes := account.frames_eq
      have hnumber := h.number
      rw [produced_requests_eq, account.calls_eq, List.append_nil, account.calls_of_frames,
        List.length_map] at hnumber
      have hall : ∃ later, produced ControlEvent.frames (sessionSteps history) =
          rounds.map Round.frame ++ frame' :: later := by
        have hsplit : sessionSteps history = sessionSteps (past ++ exchange.before) ++
            sessionSteps (exchange.call :: (exchange.steps ++ [exchange.answer] ++ rest)) := by
          rw [h.history_cut]
          exact partOf_append _ _ _ _
        refine ⟨produced ControlEvent.frames
          (sessionSteps (exchange.call :: (exchange.steps ++ [exchange.answer] ++ rest))), ?_⟩
        rw [hsplit, produced_append, hframes, List.append_assoc, List.singleton_append]
      obtain ⟨later, hlater⟩ := hall
      have hnext : (produced ControlEvent.frames (sessionSteps history))[rounds.length]? =
          some frame' := by
        rw [hlater, List.getElem?_append_right (by simp)]
        simp
      have htake : (produced ControlEvent.frames (sessionSteps history)).take rounds.length =
          rounds.map Round.frame := by
        rw [hlater, List.take_left' (by simp)]
      rw [← htake] at hnumber
      have hk : rounds.length = k :=
        eq_of_length_flatMap_take hnext received (by simp [request'.calls_eq])
          (by simp [request.calls_eq]) hnumber
      rw [hframes, account.responses_eq]
      simp [hk]

/-- The exchange is the one for frame number `k`. -/
structure Exchange.Serves
    (exchange : Exchange)
    (k : Nat)
    (parsed : Parsed)
    (past : List (Step Connection ConnectionEvent)) :
    Prop where
  called : exchange.call.label.control = some (.called parsed)
  request : exchange.request = parsed.request
  /-- The call is made after that frame was received, and before the next one is. -/
  received : (produced ControlEvent.frames (sessionSteps (past ++ exchange.before))).length = k + 1
  /-- The frames before it have been answered, and it has not. -/
  responded : (produced ControlEvent.responses (sessionSteps (past ++ exchange.before))).length = k

/-- A response that was written ends a round, and the call of the round has its exchange. -/
theorem ConnectionRun.exists_answered
    {k : Nat} {doc : Json.Value}
    (run : ConnectionRun crates texts control chunks history s)
    (written : (produced ControlEvent.responses (sessionSteps history))[k]? = some doc) :
    ∃ frame calls replies,
      ControlTransport.call k ⟨chunks, []⟩ = some frame ∧
      Answered crates texts control frame calls replies doc ∧
      ∀ id parsed result, calls = [parsed] → replies = [result] →
        IsRequest control frame id parsed →
        ∃ (past : List (Step Connection ConnectionEvent)) (exchange : Exchange)
            (rest : List (Step Connection ConnectionEvent)),
          history = past ++ exchange.all ++ rest ∧
          exchange.IsProper crates texts ∧
          exchange.Serves k parsed past ∧
          exchange.result = result := by
  obtain ⟨rounds, frames, calls, replies, account⟩ := run.controlRun.account
  obtain ⟨exchanges, before, during, pending, tally⟩ := run.tallied
  rw [account.responses_eq, List.getElem?_map, Option.map_eq_some_iff] at written
  obtain ⟨round, hround, rfl⟩ := written
  obtain ⟨hk, rfl⟩ := List.getElem?_eq_some_iff.mp hround
  have hframe : (produced ControlEvent.frames (sessionSteps history))[k]? =
      some rounds[k].frame := by
    rw [account.frames_eq, List.getElem?_append_left (by simpa using hk), List.getElem?_map,
      hround]
    rfl
  refine ⟨rounds[k].frame, rounds[k].calls, rounds[k].replies,
    run.controlRun.follows.frames k _ hframe, account.answered _ (List.getElem_mem hk), ?_⟩
  intro id parsed result hparsed hresult request
  have hcalled : (produced ControlEvent.calls (sessionSteps history))[
      ((rounds.take k).flatMap Round.calls).length]? = some parsed := by
    rw [account.calls_eq, flatMap_cut Round.calls hk, hparsed]
    simp
  have htold : (produced ConnectionEvent.replies history)[
      ((rounds.take k).flatMap Round.calls).length]? = some result := by
    rw [produced_replies_eq, account.replies_eq, account.take_length_eq,
      flatMap_cut Round.replies hk, hresult]
    simp
  obtain ⟨past, exchange, rest, hnumber, hproper, rfl⟩ := tally.exists_isNumber htold
  obtain ⟨hcall, hrequest⟩ := hnumber.called hproper hcalled
  rw [account.take_calls hk.le] at hnumber
  obtain ⟨hreceived, hresponded⟩ := hnumber.position run hcall hframe request
  exact ⟨past, exchange, rest, hnumber.history_eq, hproper,
    ⟨hcall, hrequest, hreceived, hresponded⟩, rfl⟩

end Responses

end Softnet
