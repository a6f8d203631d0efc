import AscensionWatchdog.Queue.Loadable

/-!
# Quarantine and the clock

Two operations take a running job out of the scheduler: the interruption of a daemon, which takes
every running job, and the quarantine of an operator, which names one attempt. Both close the
attempt at the time they are given, and neither compares this time with the start of the attempt.
The reader does: an attempt that ends before it starts is not readable, and with it neither is its
handoff.

`abandoned_loads_iff` is the exact account for every store and every time. After an interruption a
running handoff loads **exactly when** its attempt had started by then; after an operator
quarantine it loads exactly when the attempt that was named belongs to another job, or is the
attempt of the handoff and had started by then.
-/

namespace AscensionWatchdog

open Foundation Foundation.Json

variable {crates : Crates} {bound now : Nat} {h : HandoffRow} {j j' : JobRow} {a a' : AttemptRow}

/-! ### The rows -/

/-- The rows of an unresolved handoff of a quarantined job: its attempt is closed as `unknown`,
and not before it starts. -/
theorem RowsLoad.of_quarantined (hload : RowsLoad crates bound h j a)
    (hopen : h.state.unresolved = true) (hquarantined : j.status = .quarantined) :
    a.status = .unknown ∧ ∀ t ∈ a.finishedAtMs, a.startedAtMs ≤ t := by
  obtain ⟨terminal, -, -, ha, hrelated⟩ := rowsLoad_iff.mp hload
  refine ⟨(hrelated.opened hopen).quarantined hquarantined, fun t ht => ?_⟩
  have htimes := ha.times
  rw [Option.mem_def.mp ht] at htimes
  simpa [outOfOrder] using htimes

/-- The rows of a running handoff: its attempt is running, and its job has no retry to come. -/
theorem RowsLoad.of_running (hload : RowsLoad crates bound h j a)
    (hopen : h.state.unresolved = true) (hrunning : j.status = .running) :
    a.status = .running ∧ j.nextRetryAtMs = none := by
  obtain ⟨terminal, -, hj, -, hrelated⟩ := rowsLoad_iff.mp hload
  exact ⟨((hrelated.opened hopen).running hrunning).1, hj.retry.resolve_left (by simp [hrunning])⟩

/-- A running handoff whose attempt is closed at `now` loads exactly when the attempt had started
by then. -/
theorem RowsLoad.abandon_iff {error : String} (hload : RowsLoad crates bound h j a)
    (outcome : String) (now : Nat) (hopen : h.state.unresolved = true)
    (hrunning : j.status = .running)
    (herror : error.utf8ByteSize ≤ 16384 ∧ containsNul error = false) :
    RowsLoad crates bound h
        { j with status := .quarantined, nextRetryAtMs := none, lastError := some error }
        (a.finish .unknown now outcome) ↔
      a.startedAtMs ≤ now := by
  constructor
  · intro hload'
    exact (hload'.of_quarantined hopen rfl).2 now rfl
  · refine hload.abandon (fun hrejected => ?_) hrunning herror
    rw [hrejected] at hopen
    cases hopen

/-! ### The handoff -/

/-- A running handoff and its attempt load. -/
structure Store.RunningHandoff (crates : Crates) (s : Store) (handoffId : String)
    (handoff : WorkerHandoff) (attempt : AttemptRow) : Prop where
  loads : loadHandoff crates s handoffId = .ok (some handoff)
  loadsAttempt : loadAttemptTx s handoff.row.attemptId = .ok (some attempt)
  unresolved : handoff.row.state.unresolved = true
  running : handoff.job.status = .running

section Store

variable {s s' : Store} {handoffId : String} {handoff : WorkerHandoff} {attempt : AttemptRow}

/-- The record of a consistent job is read from the row of the job. -/
private theorem consistentJob_status {raw : RawHandoff} {job : JobRecord}
    (h : consistentJob crates s raw = .ok job) :
    ∃ j, lookup JobRow.id raw.row.jobId s.jobs = some j ∧ j.status = job.status := by
  obtain ⟨job?, hjob, h⟩ := bind_eq_ok.mp h
  obtain ⟨⟨job', digest⟩, hsome, h⟩ := orError_bind.mp h
  obtain ⟨attempt?, -, h⟩ := bind_eq_ok.mp h
  obtain ⟨attempt, -, h⟩ := bind_eq_ok.mp h
  obtain ⟨-, -, h⟩ := bind_eq_ok.mp h
  cases pure_eq_ok.mp h
  cases hsome
  obtain ⟨j, hj, hrecord⟩ := mapM_eq_ok_some.mp (loadJobTx_eq_ok.mp hjob).2
  obtain ⟨-, -, payload, -, rfl⟩ := boundedJobFromRow_eq_ok.mp hrecord
  exact ⟨j, hj, rfl⟩

/-- The rows behind a running handoff. -/
theorem Store.RunningHandoff.rows (hs : s.RunningHandoff crates handoffId handoff attempt) :
    s.maxPayloadBytes < 2 ^ 63 ∧
      lookup HandoffRow.handoffId handoffId s.handoffs = some handoff.row ∧
      lookup AttemptRow.id handoff.row.attemptId s.attempts = some attempt ∧
      ∃ j, lookup JobRow.id handoff.row.jobId s.jobs = some j ∧ j.status = .running ∧
        RowsLoad crates s.maxPayloadBytes handoff.row j attempt := by
  obtain ⟨a, ha, hattempt⟩ := mapM_eq_ok_some.mp hs.loadsAttempt
  obtain ⟨-, rfl⟩ := rawAttemptFromRow_eq_ok.mp hattempt
  obtain ⟨h, j, a', hbound, hh, hj, ha', hrows⟩ := loads_iff.mp ⟨handoff, hs.loads⟩
  have hload := hs.loads
  rw [loadHandoff, hh] at hload
  obtain ⟨raw, hraw, hload⟩ := bind_eq_ok.mp hload
  obtain ⟨handoff', hhandoff, hload⟩ := bind_eq_ok.mp hload
  cases pure_eq_ok.mp hload
  obtain ⟨job, hjob, hhandoff⟩ := bind_eq_ok.mp hhandoff
  cases pure_eq_ok.mp hhandoff
  obtain ⟨j', hj', hstatus⟩ := consistentJob_status hjob
  -- every row is read twice, under one key
  obtain rfl := rawHandoffFromRow_row hraw
  obtain rfl := Option.some.inj (hj.symm.trans hj')
  obtain rfl := Option.some.inj (ha.symm.trans ha')
  exact ⟨hbound, hh, ha, j, hj, hstatus.trans hs.running, hrows⟩

/-- A store with the same handoffs, and what it has for the job and the attempt of this one. -/
theorem loads_iff_rowsLoad (hbound : s.maxPayloadBytes < 2 ^ 63)
    (hbound' : s'.maxPayloadBytes = s.maxPayloadBytes) (hhandoffs : s'.handoffs = s.handoffs)
    (hh : lookup HandoffRow.handoffId handoffId s.handoffs = some h)
    (hj : lookup JobRow.id h.jobId s'.jobs = some j)
    (ha : lookup AttemptRow.id h.attemptId s'.attempts = some a) :
    s'.Loads crates handoffId ↔ RowsLoad crates s.maxPayloadBytes h j a := by
  rw [loads_iff, hbound', hhandoffs]
  constructor
  · rintro ⟨h', j', a', -, hh', hj', ha', hrows⟩
    obtain rfl := Option.some.inj (hh.symm.trans hh')
    obtain rfl := Option.some.inj (hj.symm.trans hj')
    obtain rfl := Option.some.inj (ha.symm.trans ha')
    exact hrows
  · intro hrows
    exact ⟨h, j, a, hbound, hh, hj, ha, hrows⟩

/-! ### Interruption -/

/-- What the loop over the interrupted jobs writes. -/
theorem quarantineInterruptedJobsTx_eq_ok {ids : List String}
    (h : quarantineInterruptedJobsTx s now ids = .ok s') :
    s'.maxPayloadBytes = s.maxPayloadBytes ∧ s'.handoffs = s.handoffs ∧
      s'.jobs = updateWhere (fun j => ids.contains j.id && j.status == .running)
        JobRow.interrupt s.jobs ∧
      s'.attempts = updateWhere (fun a => ids.contains a.jobId && a.status == .running)
        (·.finish .unknown now "daemon_interrupted") s.attempts := by
  induction ids generalizing s with
  | nil =>
    cases h
    simp
  | cons jobId ids ih =>
    obtain ⟨s₃, hs₃, h⟩ := bind_eq_ok.mp h
    obtain ⟨hbound, hhandoffs, hjobs, hattempts⟩ := ih h
    replace hs₃ := bind_only sqliteTimestamp_eq_ok hs₃
    replace hs₃ := bind_only updateAttemptsTx_eq_ok hs₃
    replace hs₃ := bind_only updateJobsTx_eq_ok hs₃
    obtain ⟨-, -, -, -, rfl⟩ := insertAuditTx_eq_ok.mp hs₃
    refine ⟨hbound, hhandoffs, ?_, ?_⟩
    · -- a row that the head of the loop has written is no longer running
      rw [hjobs, updateWhere_updateWhere (by simp [JobRow.interrupt])]
      refine updateWhere_congr fun r _ => ?_
      simp only [List.contains_cons, Bool.and_or_distrib_right]
    · rw [hattempts, updateWhere_updateWhere (by simp [AttemptRow.finish])]
      refine updateWhere_congr fun r _ => ?_
      simp only [List.contains_cons, Bool.and_or_distrib_right]

/-- After an interruption a running handoff loads exactly when its attempt had started by then. -/
theorem Store.RunningHandoff.interrupted (hs : s.RunningHandoff crates handoffId handoff attempt)
    {n : Nat} (hcommit : s.quarantineInterruptedJobs now = (.ok n, s')) :
    s'.Loads crates handoffId ↔ attempt.startedAtMs ≤ now := by
  obtain ⟨hbound, hh, ha, j, hj, hrunning, hrows⟩ := hs.rows
  obtain ⟨hattempt, hretry⟩ := hrows.of_running hs.unresolved hrunning
  obtain ⟨s₁, hs₁, hroutine⟩ := bind_eq_ok.mp (commit_eq_ok.mp hcommit)
  cases pure_eq_ok.mp hroutine
  obtain ⟨hbound', hhandoffs, hjobs, hattempts⟩ := quarantineInterruptedJobsTx_eq_ok hs₁
  obtain ⟨hmem, hid⟩ := mem_of_lookup hj
  have hids : handoff.row.jobId ∈ s.runningJobIds :=
    List.mem_map.mpr ⟨j, List.mem_filter.mpr ⟨hmem, by simp [hrunning]⟩, hid⟩
  have hj' : lookup JobRow.id handoff.row.jobId s'.jobs = some j.interrupt := by
    have hkey (r : JobRow) : r.interrupt.id = r.id := rfl
    rw [hjobs, lookup_updateWhere hkey, hj]
    simp [hid, hids, hrunning]
  have ha' : lookup AttemptRow.id handoff.row.attemptId s'.attempts =
      some (attempt.finish .unknown now "daemon_interrupted") := by
    have hkey (r : AttemptRow) : (r.finish .unknown now "daemon_interrupted").id = r.id := rfl
    rw [hattempts, lookup_updateWhere hkey, ha]
    simp [hrows.attempt_jobId, hids, hattempt]
  have herror : "daemon interrupted; outcome unknown".utf8ByteSize ≤ 16384 ∧
      containsNul "daemon interrupted; outcome unknown" = false := by decide +kernel
  rw [loads_iff_rowsLoad hbound hbound' hhandoffs hh hj' ha',
    ← hrows.abandon_iff _ now hs.unresolved hrunning herror, JobRow.interrupt, hretry]

/-! ### Operator quarantine -/

/-- What an operator quarantine writes when it is accepted. -/
theorem admitOperatorQuarantine_accepted {context : OperatorCommandContext}
    {attemptId reason : String} {response : Value} {receipt : OperatorCommandReceipt}
    (hcommit : s.admitOperatorQuarantine crates context attemptId reason response now =
      (.ok (.accepted receipt), s')) :
    isName reason maxQuarantineReasonBytes = true ∧
      s'.maxPayloadBytes = s.maxPayloadBytes ∧
      ∃ a, lookup AttemptRow.id attemptId s.attempts = some a ∧
        s'.queue = s.queue.apply (quarantineWrite a reason now) := by
  obtain ⟨⟨-, hreason⟩, hadmits⟩ := admitOperatorQuarantineTx_eq_ok.mp (commit_eq_ok.mp hcommit)
  obtain ⟨-, -, -, -, ⟨⟩, -⟩ | ⟨-, s₁, ⟨a, ha, hs₁⟩, hrecord⟩ := hadmits.answer
  · refine ⟨hreason, ?_, a, ?_, ?_⟩
    · obtain ⟨-, -, -, -, detail, rfl⟩ := recordOperatorCommandTx_eq_ok hrecord
      obtain ⟨now', -, hs₁⟩ := bind_eq_ok.mp hs₁
      obtain ⟨s₂, hs₂, hs₁⟩ := bind_eq_ok.mp hs₁
      replace hs₁ := bind_only updateJobsTx_eq_ok hs₁
      obtain ⟨-, -, -, -, rfl⟩ := insertAuditTx_eq_ok.mp hs₁
      rw [abandonAttemptTx_eq_ok hs₂]
    · obtain ⟨⟨a', j⟩, hfound, ha⟩ := orError_bind.mp ha
      replace ha := bind_passed ha
      replace ha := bind_passed ha
      obtain ⟨latest, -, ha⟩ := bind_eq_ok.mp ha
      replace ha := bind_passed ha
      replace ha := bind_passed ha
      cases pure_eq_ok.mp ha
      obtain ⟨a'', ha, hsame⟩ := Option.bind_eq_some_iff.mp hfound
      obtain ⟨j', -, hsame⟩ := Option.map_eq_some_iff.mp hsame
      cases hsame
      exact ha
    · exact (recordOperatorCommandTx_queue hrecord).trans (quarantineAttemptTx_eq_ok hs₁).1

/-- After an operator quarantine a running handoff loads exactly when the attempt that was named
belongs to another job, or is the attempt of the handoff and had started by then. -/
theorem Store.RunningHandoff.quarantined (hs : s.RunningHandoff crates handoffId handoff attempt)
    {context : OperatorCommandContext} {attemptId reason : String} {response : Value}
    {receipt : OperatorCommandReceipt}
    (hcommit : s.admitOperatorQuarantine crates context attemptId reason response now =
      (.ok (.accepted receipt), s')) :
    s'.Loads crates handoffId ↔
      ∀ named ∈ lookup AttemptRow.id attemptId s.attempts, named.jobId = handoff.row.jobId →
        attemptId = handoff.row.attemptId ∧ attempt.startedAtMs ≤ now := by
  obtain ⟨hbound, hh, ha, j, hj, hrunning, hrows⟩ := hs.rows
  obtain ⟨hattempt, hretry⟩ := hrows.of_running hs.unresolved hrunning
  obtain ⟨hreason, hbound', named, hnamed, hqueue⟩ := admitOperatorQuarantine_accepted hcommit
  obtain ⟨-, hid⟩ := mem_of_lookup hj
  obtain ⟨-, haid⟩ := mem_of_lookup ha
  obtain ⟨-, hnamedId⟩ := mem_of_lookup hnamed
  have hhandoffs : s'.handoffs = s.handoffs := by
    refine (congrArg Queue.handoffs hqueue).trans ?_
    simp [Queue.apply, quarantineWrite, Store.queue]
  have hjobs : s'.jobs = updateWhere (quarantineWrite named reason now).jobSel
      (·.quarantine reason) s.jobs := by
    refine (congrArg Queue.jobs hqueue).trans ?_
    simp [Queue.apply, quarantineWrite, Store.queue]
  have hattempts : s'.attempts = updateWhere (quarantineWrite named reason now).attemptSel
      (·.finish .unknown now s!"operator_quarantine:{reason}") s.attempts := by
    refine (congrArg Queue.attempts hqueue).trans ?_
    simp [Queue.apply, quarantineWrite, Store.queue]
  have hj' : lookup JobRow.id handoff.row.jobId s'.jobs =
      some (if handoff.row.jobId = named.jobId then j.quarantine reason else j) := by
    have hkey (r : JobRow) : (r.quarantine reason).id = r.id := rfl
    rw [hjobs, lookup_updateWhere hkey, hj]
    simp [quarantineWrite, hid, hrunning]
  have ha' : lookup AttemptRow.id handoff.row.attemptId s'.attempts =
      some (if handoff.row.attemptId = attemptId then
        attempt.finish .unknown now s!"operator_quarantine:{reason}" else attempt) := by
    have hkey (r : AttemptRow) :
        (r.finish .unknown now s!"operator_quarantine:{reason}").id = r.id := rfl
    rw [hattempts, lookup_updateWhere hkey, ha]
    by_cases hsame : handoff.row.attemptId = attemptId
    · obtain rfl := Option.some.inj (hnamed.symm.trans (hsame ▸ ha))
      simp [quarantineWrite, hattempt, hsame]
    · simp [quarantineWrite, haid, hnamedId, hsame]
  rw [loads_iff_rowsLoad hbound hbound' hhandoffs hh hj' ha', hnamed]
  simp only [Option.mem_def, Option.some.injEq, forall_eq']
  by_cases hjob : handoff.row.jobId = named.jobId
  · rw [if_pos hjob]
    by_cases hsame : handoff.row.attemptId = attemptId
    · rw [if_pos hsame]
      have hiff := hrows.abandon_iff s!"operator_quarantine:{reason}" now hs.unresolved hrunning
        (lastError_of_isName hreason (by decide))
      simpa [hjob, hsame, JobRow.quarantine] using hiff
    · -- the attempt of the handoff is left running, and its job is quarantined
      rw [if_neg hsame]
      refine iff_of_false (fun hrows' => ?_) fun hiff => hsame (hiff hjob.symm).1.symm
      have hunknown := (hrows'.of_quarantined hs.unresolved rfl).1
      simp [hattempt] at hunknown
  · have hsame : handoff.row.attemptId ≠ attemptId := by
      rintro rfl
      obtain rfl := Option.some.inj (hnamed.symm.trans ha)
      exact hjob hrows.attempt_jobId.symm
    rw [if_neg hjob, if_neg hsame]
    exact iff_of_true hrows fun hjob' => absurd hjob'.symm hjob

/-- **A quarantine and the clock.** For every running handoff that loads with its attempt, and at
every time: after an interruption that commits, the handoff loads exactly when its attempt had
started by then; after an operator quarantine that is accepted, it loads exactly when the attempt
that was named belongs to another job, or is the attempt of the handoff and had started by then. -/
theorem abandoned_loads_iff (crates : Crates)
    (hs : s.RunningHandoff crates handoffId handoff attempt) (now : Nat) :
    (∀ n s', s.quarantineInterruptedJobs now = (.ok n, s') →
      (s'.Loads crates handoffId ↔ attempt.startedAtMs ≤ now)) ∧
    ∀ context attemptId reason response receipt s',
      s.admitOperatorQuarantine crates context attemptId reason response now =
        (.ok (.accepted receipt), s') →
      (s'.Loads crates handoffId ↔
        ∀ named ∈ lookup AttemptRow.id attemptId s.attempts,
          named.jobId = handoff.row.jobId →
            attemptId = handoff.row.attemptId ∧ attempt.startedAtMs ≤ now) :=
  ⟨fun _ _ hcommit => hs.interrupted hcommit,
    fun _ _ _ _ _ _ hcommit => hs.quarantined hcommit⟩

end Store

/-! ### A clock that is set back -/

/-- The store in which the sample handoff has been claimed, at time 2. -/
def sampleClaimed : Store :=
  sampleStore.after sampleCrates sampleClaim

-- One evaluation for everything that is said of the sample, since each repeats its run.
private theorem sampleClaimed_evaluates :
    (sampleClaimed.Loads sampleCrates sampleTuple.handoffId ∧
      (sampleClaimed.quarantineInterruptedJobs 1).1 = .ok 1 ∧
      ¬ (sampleClaimed.quarantineInterruptedJobs 1).2.Loads sampleCrates sampleTuple.handoffId ∧
      accepted (sampleClaimed.admitOperatorQuarantine sampleCrates sampleContext
        sampleTuple.attemptId "reason" emptyParameters 1).1 = true ∧
      ¬ (sampleClaimed.admitOperatorQuarantine sampleCrates sampleContext
        sampleTuple.attemptId "reason" emptyParameters 1).2.Loads sampleCrates
          sampleTuple.handoffId) ∧
    (loadHandoff sampleCrates sampleClaimed sampleTuple.handoffId).toOption.join.map
      (fun handoff => (handoff.row.attemptId, handoff.row.state.unresolved, handoff.job.status)) =
        some (sampleTuple.attemptId, true, .running) ∧
    (loadAttemptTx sampleClaimed sampleTuple.attemptId).toOption.join.map
      AttemptRow.startedAtMs = some 2 ∧
    (sampleClaimed.quarantineInterruptedJobs 2).1 = .ok 1 := by
  decide +kernel

/-- A handoff that was claimed at time 2 loads. A daemon that starts at time 1 commits its
interruption, and so does an operator quarantine; then the handoff no longer loads. -/
theorem handoff_lost_by_earlier_clock :
    sampleClaimed.Loads sampleCrates sampleTuple.handoffId ∧
      (sampleClaimed.quarantineInterruptedJobs 1).1 = .ok 1 ∧
      ¬ (sampleClaimed.quarantineInterruptedJobs 1).2.Loads sampleCrates sampleTuple.handoffId ∧
      accepted (sampleClaimed.admitOperatorQuarantine sampleCrates sampleContext
        sampleTuple.attemptId "reason" emptyParameters 1).1 = true ∧
      ¬ (sampleClaimed.admitOperatorQuarantine sampleCrates sampleContext
        sampleTuple.attemptId "reason" emptyParameters 1).2.Loads sampleCrates
          sampleTuple.handoffId :=
  sampleClaimed_evaluates.1

private theorem eq_ok_some {α : Type} {x : Result (Option α)} {value : α}
    (h : x.toOption.join = some value) : x = .ok (some value) := by
  match x with
  | .ok o => exact congrArg Except.ok h
  | .error e => cases h

private theorem sampleClaimed_running :
    ∃ handoff attempt, sampleClaimed.RunningHandoff sampleCrates sampleTuple.handoffId handoff
      attempt ∧ attempt.startedAtMs = 2 := by
  obtain ⟨-, hhandoff, hattempt, -⟩ := sampleClaimed_evaluates
  obtain ⟨handoff, hhandoff, hfields⟩ := Option.map_eq_some_iff.mp hhandoff
  obtain ⟨attempt, hattempt, htime⟩ := Option.map_eq_some_iff.mp hattempt
  simp only [Prod.mk.injEq] at hfields
  refine ⟨handoff, attempt, ⟨?_, ?_, hfields.2.1, hfields.2.2⟩, htime⟩
  · exact eq_ok_some hhandoff
  · rw [hfields.1]
    exact eq_ok_some hattempt

/-- The same handoff, taken out of the scheduler at time 2: it still loads. -/
theorem abandoned_loads_iff_claimed :
    (sampleClaimed.quarantineInterruptedJobs 2).1 = .ok 1 ∧
      (sampleClaimed.quarantineInterruptedJobs 2).2.Loads sampleCrates sampleTuple.handoffId := by
  obtain ⟨handoff, attempt, hrunning, hstarted⟩ := sampleClaimed_running
  obtain ⟨-, -, -, hcommit⟩ := sampleClaimed_evaluates
  have hloads := (abandoned_loads_iff sampleCrates hrunning 2).1 1 _ (eq_ok_of_fst hcommit)
  exact ⟨hcommit, hloads.mpr hstarted.le⟩

end AscensionWatchdog
