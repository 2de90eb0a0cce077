import Softnet.Lib.Runs
import Softnet.Flows.TableSpec

/-!
# Lazy sweeping against a table that forgets nothing

The table drops expired entries in two ways: every lookup checks the expiry, and
a sweep removes them at most once in each interval.  The reference keeps the last
committed flow of every tuple forever and ignores those whose expiry is not later
than now.

A session is any sequence of calls: inspections at times that never go back, and
commits of the flow that the last inspection proposed.  In every session the two
tables give the same verdicts, and the real one differs from the reference only
in expired entries.
-/

namespace Softnet

section Reference

/-- The last committed flow of every tuple. -/
abbrev Reference : Type := FlowKey → Option Flow

/-- Remember a committed flow. -/
def Reference.commit (reference : Reference) (pending : PendingFlow) : Reference :=
  fun key => if key = pending.key then some pending.flow else reference key

/-- The verdict from the flows that have not expired. -/
def Reference.verdict
    (reference : Reference)
    (pkt : Ipv4Packet)
    (direction : FlowDirection)
    (now : Instant) :
    FlowMatch :=
  match classify pkt direction with
  | .untracked => .untracked
  | .denied => .denied
  | .probe p =>
      match p.kind, (reference p.key).filter (fun flow => now < flow.expiresAt) with
      | .opening, _ => .newCandidate p.key direction now p.timeout
      | .initiating, none => .newCandidate p.key direction now p.timeout
      | .following, none => .untracked
      | .initiating, some flow | .following, some flow =>
          if direction = flow.initiatingDirection then
            .newCandidate p.key direction now p.timeout
          else
            .allowed

/-- A table, its reference, the flow proposed last, and the time of the last inspection. -/
structure Session where
  table : FlowTable
  reference : Reference
  pending : Option PendingFlow
  clock : Instant

/-- The calls a caller makes. -/
inductive TableCall where
  | inspect (pkt : Ipv4Packet) (direction : FlowDirection) (now : Instant)
  | commit

/-- The flow a verdict proposes. -/
def FlowMatch.proposed : FlowMatch → Option PendingFlow
  | .candidate pending => some pending
  | _ => none

def Session.new (now : Instant) : Session :=
  ⟨FlowTable.new now, fun _ => none, none, now⟩

/--
One call.  A proposed flow is committed, if at all, before the next inspection;
committing consumes it.
-/
inductive SessionStep : Session → TableCall → Session → Prop
  | inspect
      {s : Session}
      (pkt : Ipv4Packet) (direction : FlowDirection) {now : Instant}
      (later : s.clock ≤ now) :
      SessionStep s (.inspect pkt direction now)
        { table := (s.table.inspectAt pkt direction now).1
          reference := s.reference
          pending := (s.table.inspectAt pkt direction now).2.proposed
          clock := now }
  | commit
      {s : Session} {pending : PendingFlow}
      (proposed : s.pending = some pending) :
      SessionStep s .commit
        { table := (s.table.commit pending).1
          reference :=
            if (s.table.commit pending).2 then s.reference.commit pending
            else s.reference
          pending := none
          clock := s.clock }

/-- What holds between the table and its reference in every session. -/
structure Session.Faithful (s : Session) : Prop where
  subset : ∀ key flow,
    s.table.find key = some flow → s.reference key = some flow
  missing : ∀ key flow,
    s.reference key = some flow → s.table.find key = none →
    flow.expiresAt ≤ s.clock
  /-- Every stored entry outlived the last sweep. -/
  swept : ∀ key flow,
    s.table.find key = some flow →
    s.table.nextSweep < flow.expiresAt + sweepInterval
  /-- A sweep is due at most one interval after the last inspection. -/
  due : s.table.nextSweep ≤ s.clock + sweepInterval
  /-- A sweep is not overdue. -/
  pendingSweep : s.clock < s.table.nextSweep
  bounded : s.table.len ≤ maxFlows
  proposed : ∀ pending, s.pending = some pending → s.clock < pending.flow.expiresAt

theorem Session.new_faithful (now : Instant) :
    (Session.new now).Faithful := by
  have hpos := sweepInterval_pos
  refine ⟨?_, ?_, ?_, le_refl _, ?_, by simp [Session.new], ?_⟩
  · intro key flow hfind
    simp [Session.new] at hfind
  · intro key flow hfind
    simp [Session.new] at hfind
  · intro key flow hfind
    simp [Session.new] at hfind
  · simp only [Session.new, FlowTable.new]
    lia
  · intro pending hpending
    simp [Session.new] at hpending

section Steps

variable {s s' : Session}

/-- An inspection loses expired entries only. -/
theorem Session.Faithful.inspect
    {now : Instant}
    (hs : s.Faithful)
    (pkt : Ipv4Packet)
    (direction : FlowDirection)
    (later : s.clock ≤ now) :
    Session.Faithful
      { table := (s.table.inspectAt pkt direction now).1
        reference := s.reference
        pending := (s.table.inspectAt pkt direction now).2.proposed
        clock := now } := by
  obtain ⟨hahead, hsweep⟩ := s.table.nextSweep_sweepIfDue now
  rw [inspectAt_eq]
  refine ⟨?_, ?_, ?_, ?_, hahead, ?_, ?_⟩
  · intro key flow hfind
    exact hs.subset key flow (FlowTable.find_of_find_sweepIfDue hfind)
  · intro key flow href hmissing
    rcases s.table.find_sweepIfDue now key with hsame | ⟨_, old, hold, hexpired⟩
    · exact (hs.missing key flow href (hsame ▸ hmissing)).trans later
    · rw [hs.subset key old hold] at href
      cases href
      exact hexpired
  · intro key flow hfind
    rcases hsweep with hkeep | ⟨hnext, hlive⟩
    · rw [hkeep]
      exact hs.swept key flow (FlowTable.find_of_find_sweepIfDue hfind)
    · have := hlive key flow hfind
      dsimp only
      lia
  · rcases hsweep with hkeep | ⟨hnext, _⟩
    · have := hs.due
      dsimp only
      lia
    · exact hnext.le
  · exact (s.table.len_sweepIfDue_le now).trans hs.bounded
  · intro pending hpending
    cases hverdict : (classify pkt direction).answer
        (s.table.sweepIfDue now).find direction now with
    | candidate proposal =>
        simp only [hverdict, FlowMatch.proposed, Option.some.injEq] at hpending
        subst hpending
        exact PacketClass.expiresAt_of_candidate hverdict
    | allowed => simp [hverdict, FlowMatch.proposed] at hpending
    | denied => simp [hverdict, FlowMatch.proposed] at hpending
    | untracked => simp [hverdict, FlowMatch.proposed] at hpending

/-- A stored flow is remembered by both tables. -/
theorem Session.Faithful.commit
    {pending : PendingFlow}
    (hs : s.Faithful)
    (proposed : s.pending = some pending)
    (hok : (s.table.commit pending).2 = true) :
    Session.Faithful
      { table := (s.table.commit pending).1
        reference := s.reference.commit pending
        pending := none
        clock := s.clock } := by
  have hfresh := hs.proposed pending proposed
  have hnext := s.table.nextSweep_commit pending
  refine ⟨?_, ?_, ?_, hnext ▸ hs.due, hnext ▸ hs.pendingSweep,
    FlowTable.len_commit_le hs.bounded pending, by simp⟩
  · intro key flow hfind
    rw [FlowTable.find_commit hok] at hfind
    simp only [Reference.commit]
    split
    · next hkey => rwa [if_pos hkey] at hfind
    · next hkey =>
        rw [if_neg hkey] at hfind
        exact hs.subset key flow hfind
  · intro key flow href hmissing
    rw [FlowTable.find_commit hok] at hmissing
    simp only [Reference.commit] at href
    split at hmissing
    · cases hmissing
    · next hkey =>
        rw [if_neg hkey] at href
        exact hs.missing key flow href hmissing
  · intro key flow hfind
    rw [FlowTable.find_commit hok] at hfind
    dsimp only
    rw [hnext]
    split at hfind
    · cases hfind
      have := hs.due
      lia
    · exact hs.swept key flow hfind

theorem SessionStep.faithful
    {call : TableCall}
    (hs : s.Faithful)
    (hstep : SessionStep s call s') :
    s'.Faithful := by
  cases hstep with
  | inspect pkt direction later => exact hs.inspect pkt direction later
  | @commit pending proposed =>
      cases hok : (s.table.commit pending).2 with
      | false =>
          rw [FlowTable.commit_refused hok]
          exact ⟨hs.subset, hs.missing, hs.swept, hs.due, hs.pendingSweep,
            hs.bounded, by simp⟩
      | true => exact hs.commit proposed hok

end Steps

/-- Every session keeps the table faithful to its reference. -/
theorem Session.run_faithful
    {start : Instant}
    {history : List (Transition.Step Session TableCall)}
    {s : Session}
    (run : Transition.Run SessionStep (Session.new start) history s) :
    s.Faithful :=
  run.invariant (Session.new_faithful start)
    (fun _ _ _ hs hstep => hstep.faithful hs)

/-- The swept table answers as the reference does. -/
theorem Session.Faithful.verdict_eq
    {s : Session}
    (hs : s.Faithful)
    (pkt : Ipv4Packet)
    (direction : FlowDirection)
    {now : Instant}
    (later : s.clock ≤ now) :
    (s.table.inspectAt pkt direction now).2 =
      s.reference.verdict pkt direction now := by
  -- both tables show the same live flow for every tuple
  have hlive : ∀ key,
      ((s.table.sweepIfDue now).find key).filter (fun flow => now < flow.expiresAt) =
        (s.reference key).filter (fun flow => now < flow.expiresAt) := by
    intro key
    apply Option.ext
    intro flow
    simp only [Option.filter_eq_some_iff, decide_eq_true_eq]
    constructor
    · rintro ⟨hfind, hlive⟩
      exact ⟨hs.subset key flow (FlowTable.find_of_find_sweepIfDue hfind), hlive⟩
    · rintro ⟨href, hlive⟩
      refine ⟨?_, hlive⟩
      cases hfind : s.table.find key with
      | none =>
          have := hs.missing key flow href hfind
          lia
      | some old =>
          have hold := hs.subset key old hfind
          rw [href] at hold
          cases hold
          exact FlowTable.find_sweepIfDue_of_live hfind hlive
  rw [inspectAt_eq, Reference.verdict]
  cases hclass : classify pkt direction with
  | untracked => rfl
  | denied => rfl
  | probe p =>
      simp only [PacketClass.answer, ← hlive]
      cases hfind : (s.table.sweepIfDue now).find p.key with
      | none =>
          cases hkind : p.kind <;> simp [Probe.answer, Probe.unmatched, hkind]
      | some flow =>
          by_cases hexpired : flow.expiresAt ≤ now
          · have hdead : (some flow).filter (fun f => decide (now < f.expiresAt)) = none := by
              simpa using hexpired
            rw [hdead]
            cases hkind : p.kind <;>
              simp [Probe.answer, Probe.unmatched, hkind, hexpired]
          · have hkept :
                (some flow).filter (fun f => decide (now < f.expiresAt)) = some flow := by
              simpa using hexpired
            rw [hkept]
            cases hkind : p.kind <;>
              simp [Probe.answer, Probe.unmatched, hkind, hexpired]

/--
Lazy sweeping shows only through capacity.  In every session, each verdict is
the reference's; the table is a part of the reference that misses expired
entries only; it holds no entry that expired an interval or more before the last
inspection; and a commit is refused exactly when its tuple is new and the table
is full, which changes nothing.
-/
theorem lazy_sweeping_unobservable
    (start : Instant)
    (history : List (Transition.Step Session TableCall))
    (s : Session)
    (run : Transition.Run SessionStep (Session.new start) history s) :
    (∀ pkt direction now, s.clock ≤ now →
      (s.table.inspectAt pkt direction now).2 =
        s.reference.verdict pkt direction now) ∧
    (∀ key flow, s.table.find key = some flow → s.reference key = some flow) ∧
    (∀ key flow, s.reference key = some flow → s.table.find key = none →
      flow.expiresAt ≤ s.clock) ∧
    (∀ key flow, s.table.find key = some flow →
      ¬ flow.expiresAt + sweepInterval ≤ s.clock) ∧
    (∀ pending,
      ((s.table.commit pending).2 = false ↔
        s.table.find pending.key = none ∧ s.table.len = maxFlows) ∧
      ((s.table.commit pending).2 = false →
        (s.table.commit pending).1 = s.table)) := by
  have hs := Session.run_faithful run
  refine ⟨?_, hs.subset, hs.missing, ?_, ?_⟩
  · intro pkt direction now later
    exact hs.verdict_eq pkt direction later
  · intro key flow hfind
    have := hs.swept key flow hfind
    have := hs.pendingSweep
    lia
  · intro pending
    refine ⟨?_, FlowTable.commit_refused⟩
    rw [FlowTable.commit_eq_false_iff]
    exact and_congr_right fun _ => ⟨fun hfull => hs.bounded.antisymm hfull, ge_of_eq⟩

/-- A datagram of the VM is inspected and committed; both tables then let the answer pass. -/
theorem lazy_sweeping_unobservable_answer :
    ∃ s : Session,
      (s.table.inspectAt (udpPacket 0x0a000001 40000 0x0a000002 1234) .fromHost 6).2 =
          .allowed ∧
        s.reference.verdict (udpPacket 0x0a000001 40000 0x0a000002 1234) .fromHost 6 =
          .allowed := by
  have fresh : Transition.Run SessionStep (Session.new 0) [] (Session.new 0) :=
    Transition.Run.nil
  have opened := Transition.Run.snoc fresh
    (SessionStep.inspect (udpPacket 0x0a000002 1234 0x0a000001 40000) .fromVm (Nat.zero_le 5))
  have stored := Transition.Run.snoc opened (SessionStep.commit rfl)
  obtain ⟨hverdict, _⟩ := lazy_sweeping_unobservable 0 _ _ stored
  have hallowed := hverdict (udpPacket 0x0a000001 40000 0x0a000002 1234) .fromHost 6 (by decide)
  exact ⟨_, by decide, hallowed.symm.trans (by decide)⟩

end Reference

end Softnet
