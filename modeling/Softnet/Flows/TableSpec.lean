import Softnet.Flows.Probe

/-!
# Specifications of the flow-table operations

One statement for each operation of the table: what a sweep keeps, what a commit
stores or refuses, and what each verdict says about the packet and the table.
-/

namespace Softnet

section TableSpec

variable {table : FlowTable}
variable {now : Instant}
variable {key : FlowKey}
variable {flow : Flow}

@[simp] theorem FlowTable.find_new
    (t : Instant)
    (k : FlowKey) :
    (FlowTable.new t).find k = none := by
  rfl

@[simp] theorem FlowTable.len_new
    (t : Instant) :
    (FlowTable.new t).len = 0 := by
  rfl

/-! ## Sweeping -/

/-- A sweep keeps every entry that has not expired. -/
theorem FlowTable.find_sweepIfDue_of_live
    (hfind : table.find key = some flow)
    (hlive : now < flow.expiresAt) :
    (table.sweepIfDue now).find key = some flow := by
  unfold FlowTable.sweepIfDue
  split
  · exact hfind
  · simp only [FlowTable.find, Finmap.lookup_retain] at hfind ⊢
    simp [hfind, hlive]

/-- A sweep adds nothing. -/
theorem FlowTable.find_of_find_sweepIfDue
    (hfind : (table.sweepIfDue now).find key = some flow) :
    table.find key = some flow := by
  unfold FlowTable.sweepIfDue at hfind
  split at hfind
  · exact hfind
  · simp only [FlowTable.find, Finmap.lookup_retain,
      Option.filter_eq_some_iff] at hfind ⊢
    exact hfind.1

/-- A sweep only loses entries that have expired. -/
theorem FlowTable.find_sweepIfDue
    (table : FlowTable)
    (now : Instant)
    (key : FlowKey) :
    (table.sweepIfDue now).find key = table.find key ∨
      (table.sweepIfDue now).find key = none ∧
        ∃ flow, table.find key = some flow ∧ flow.expiresAt ≤ now := by
  cases hswept : (table.sweepIfDue now).find key with
  | some flow =>
      exact Or.inl (FlowTable.find_of_find_sweepIfDue hswept).symm
  | none =>
      cases hfind : table.find key with
      | none =>
          exact Or.inl rfl
      | some flow =>
          refine Or.inr ⟨rfl, flow, rfl, ?_⟩
          by_contra hlive
          rw [FlowTable.find_sweepIfDue_of_live hfind (not_le.mp hlive)] at hswept
          cases hswept

theorem FlowTable.len_sweepIfDue_le
    (table : FlowTable)
    (now : Instant) :
    (table.sweepIfDue now).len ≤ table.len := by
  unfold FlowTable.sweepIfDue
  split
  · exact le_refl _
  · exact Finset.card_le_card (Finmap.keys_retain_subset _ _)

theorem sweepInterval_pos : 0 < sweepInterval :=
  Duration.fromSecs_pos (by decide)

/-- After an inspection the next sweep lies ahead, at most one interval away. -/
theorem FlowTable.nextSweep_sweepIfDue
    (table : FlowTable)
    (now : Instant) :
    now < (table.sweepIfDue now).nextSweep ∧
      ((table.sweepIfDue now).nextSweep = table.nextSweep ∨
        (table.sweepIfDue now).nextSweep = now + sweepInterval ∧
          ∀ key flow, (table.sweepIfDue now).find key = some flow →
            now < flow.expiresAt) := by
  have hpos := sweepInterval_pos
  unfold FlowTable.sweepIfDue
  split
  · next hearly => exact ⟨hearly, Or.inl rfl⟩
  · refine ⟨by dsimp only; lia, Or.inr ⟨rfl, ?_⟩⟩
    intro key flow hfind
    simp only [FlowTable.find, Finmap.lookup_retain,
      Option.filter_eq_some_iff] at hfind
    simpa using hfind.2

/-- A second sweep at the same time does nothing. -/
theorem FlowTable.sweepIfDue_of_lt
    (h : now < table.nextSweep) :
    table.sweepIfDue now = table :=
  if_pos h

/-! ## Committing -/

theorem FlowTable.nextSweep_commit
    (table : FlowTable)
    (pending : PendingFlow) :
    (table.commit pending).1.nextSweep = table.nextSweep := by
  unfold FlowTable.commit
  split <;> rfl

/-- A commit is refused exactly when its tuple is new and the table is full. -/
theorem FlowTable.commit_eq_false_iff
    (table : FlowTable)
    (pending : PendingFlow) :
    (table.commit pending).2 = false
      ↔
    table.find pending.key = none ∧ maxFlows ≤ table.len := by
  unfold FlowTable.commit
  split
  · next h => simpa using h
  · next h => simpa using h

/-- A refused commit changes nothing. -/
theorem FlowTable.commit_refused
    {pending : PendingFlow}
    (h : (table.commit pending).2 = false) :
    (table.commit pending).1 = table := by
  unfold FlowTable.commit at h ⊢
  split
  · rfl
  · next hfree => rw [if_neg hfree] at h; cases h

/-- An accepted commit stores its flow and leaves every other tuple alone. -/
theorem FlowTable.find_commit
    {pending : PendingFlow}
    (h : (table.commit pending).2 = true)
    (k : FlowKey) :
    (table.commit pending).1.find k =
      if k = pending.key then some pending.flow else table.find k := by
  unfold FlowTable.commit at h ⊢
  split
  · next hfull => rw [if_pos hfull] at h; cases h
  · by_cases hk : k = pending.key
    · subst hk
      simp [FlowTable.find]
    · simp [FlowTable.find, hk, Finmap.lookup_insert_of_ne]

theorem FlowTable.len_commit_le_succ
    (table : FlowTable)
    (pending : PendingFlow) :
    (table.commit pending).1.len ≤ table.len + 1 := by
  unfold FlowTable.commit
  split
  · exact Nat.le_succ _
  · simp only [FlowTable.len, Finmap.keys_insert]
    exact Finset.card_insert_le _ _

/-- A table within its bound stays within it. -/
theorem FlowTable.len_commit_le
    (hbound : table.len ≤ maxFlows)
    (pending : PendingFlow) :
    (table.commit pending).1.len ≤ maxFlows := by
  unfold FlowTable.commit
  split
  · exact hbound
  · next h =>
      simp only [FlowTable.len, Finmap.keys_insert] at hbound ⊢
      by_cases hmem : pending.key ∈ table.flows.keys
      · rw [Finset.insert_eq_self.mpr hmem]
        exact hbound
      · have hnone : table.find pending.key = none :=
          Finmap.lookup_eq_none.mpr (fun hin => hmem (Finmap.mem_keys.mpr hin))
        have hlt : table.flows.keys.card < maxFlows :=
          not_le.mp (fun hle => h ⟨by simp [hnone], hle⟩)
        rw [Finset.card_insert_of_notMem hmem]
        exact hlt

/-! ## Verdicts -/

/-- A verdict over one tuple is a candidate only with that tuple's own flow. -/
theorem Probe.answer_candidate
    {probe : Probe}
    {stored : Option Flow}
    {direction : FlowDirection}
    {pending : PendingFlow}
    (h : probe.answer stored direction now = .candidate pending) :
    pending = ⟨probe.key, ⟨direction, now + probe.timeout⟩⟩ ∧
      (probe.kind = .following →
        ∃ flow, stored = some flow ∧ flow.initiatingDirection = direction) := by
  have hunmatched : probe.unmatched direction now = .candidate pending →
      pending = ⟨probe.key, ⟨direction, now + probe.timeout⟩⟩ ∧
        probe.kind ≠ .following := by
    intro h
    unfold Probe.unmatched at h
    split at h
    · cases h
    · next hkind =>
        cases h
        exact ⟨rfl, hkind⟩
  cases stored with
  | none =>
      obtain ⟨hpending, hkind⟩ := hunmatched h
      exact ⟨hpending, fun hf => absurd hf hkind⟩
  | some flow =>
      simp only [Probe.answer] at h
      split at h
      · obtain ⟨hpending, hkind⟩ := hunmatched h
        exact ⟨hpending, fun hf => absurd hf hkind⟩
      · split at h
        · next hdirection =>
            cases h
            exact ⟨rfl, fun _ => ⟨flow, rfl, hdirection.symm⟩⟩
        · cases h

/-- Return traffic needs a live entry that was initiated from the other side. -/
theorem Probe.answer_eq_allowed_iff
    {probe : Probe}
    {stored : Option Flow}
    {direction : FlowDirection} :
    probe.answer stored direction now = .allowed
      ↔
    probe.kind ≠ .opening ∧
      ∃ flow, stored = some flow ∧
        now < flow.expiresAt ∧
        direction ≠ flow.initiatingDirection := by
  have hunmatched : probe.unmatched direction now ≠ .allowed := by
    unfold Probe.unmatched FlowMatch.newCandidate
    split <;> simp
  cases stored with
  | none =>
      simp [Probe.answer, hunmatched]
  | some flow =>
      simp only [Probe.answer]
      by_cases hskip : probe.kind = .opening ∨ flow.expiresAt ≤ now
      · rw [if_pos hskip]
        simp only [hunmatched, false_iff]
        rintro ⟨hkind, f, hf, hlive, _⟩
        cases hf
        rcases hskip with hskip | hskip
        · exact hkind hskip
        · exact absurd hlive (not_lt.mpr hskip)
      · rw [if_neg hskip]
        obtain ⟨hkind, hlive⟩ := not_or.mp hskip
        by_cases hdirection : direction = flow.initiatingDirection
        · simp [hdirection, FlowMatch.newCandidate]
        · simp [hdirection, hkind, not_le.mp hlive]

/-- A packet with a tuple is never denied. -/
theorem Probe.answer_ne_denied
    (probe : Probe)
    (stored : Option Flow)
    (direction : FlowDirection) :
    probe.answer stored direction now ≠ .denied := by
  unfold Probe.answer Probe.unmatched FlowMatch.newCandidate
  repeat' split
  all_goals simp

/-- A candidate carries the packet's own tuple, direction and timeout. -/
theorem PacketClass.answer_candidate
    {cls : PacketClass}
    {find : FlowKey → Option Flow}
    {direction : FlowDirection}
    {pending : PendingFlow}
    (h : cls.answer find direction now = .candidate pending) :
    ∃ p, cls = .probe p ∧
      pending = ⟨p.key, ⟨direction, now + p.timeout⟩⟩ ∧
      (p.kind = .following →
        ∃ flow, find p.key = some flow ∧ flow.initiatingDirection = direction) := by
  cases cls with
  | untracked => cases h
  | denied => cases h
  | probe p =>
      obtain ⟨hpending, hfollowing⟩ := Probe.answer_candidate h
      exact ⟨p, rfl, hpending, hfollowing⟩

/-- A flow is proposed with a life ahead of it. -/
theorem PacketClass.expiresAt_of_candidate
    {pkt : Ipv4Packet}
    {find : FlowKey → Option Flow}
    {direction : FlowDirection}
    {pending : PendingFlow}
    (h : (classify pkt direction).answer find direction now = .candidate pending) :
    now < pending.flow.expiresAt := by
  obtain ⟨p, hprobe, rfl, _⟩ := PacketClass.answer_candidate h
  have htimeout : 0 < p.timeout := by
    rw [(classify_eq_probe_iff.mp hprobe).timeout_eq]
    exact packetTimeout_pos pkt
  exact Nat.lt_add_of_pos_right htimeout

/-- Admitted return traffic matches a live entry initiated from the other side. -/
theorem PacketClass.answer_eq_allowed_iff
    {cls : PacketClass}
    {find : FlowKey → Option Flow}
    {direction : FlowDirection} :
    cls.answer find direction now = .allowed
      ↔
    ∃ p flow, cls = .probe p ∧
      p.kind ≠ .opening ∧
      find p.key = some flow ∧
      now < flow.expiresAt ∧
      direction ≠ flow.initiatingDirection := by
  cases cls with
  | untracked => simp [PacketClass.answer]
  | denied => simp [PacketClass.answer]
  | probe p =>
      simp only [PacketClass.answer, Probe.answer_eq_allowed_iff,
        PacketClass.probe.injEq]
      constructor
      · rintro ⟨hkind, flow, hfind, hlive, hdirection⟩
        exact ⟨p, flow, rfl, hkind, hfind, hlive, hdirection⟩
      · rintro ⟨p', flow, rfl, hkind, hfind, hlive, hdirection⟩
        exact ⟨hkind, flow, hfind, hlive, hdirection⟩

end TableSpec

end Softnet
