import AscensionWatchdog.Queue.Reservation

/-!
# Jobs and their attempts agree

Jobs and attempts are two tables that a dozen transactions write under different guards. What
keeps them together is one invariant of the rows of a single job, `JobView.Coherent`:

* the attempts carry the sequence numbers `1, …, attemptCount`, in the order of insertion;
* every attempt before the latest one has failed;
* the status of the latest attempt fits the status of the job (`JobStatus.fits`).

A write that selects attempts which have not failed can only select the latest one, so for a
rewriting transaction it is enough to look at the job and its latest attempt
(`JobView.Coherent.rewrite`). From the invariant, `jobs_coherent` gives what the two tables say
about each other in every reachable state, and that a completed job never changes again.
-/

namespace AscensionWatchdog

open Foundation Foundation.Json

variable {crates : Crates}

/-! ### The latest attempt -/

/-- The statuses that the latest attempt of a job may have; `none` when it has no attempt. -/
def JobStatus.fits : JobStatus → Option AttemptStatus → Bool
  | .queued, latest => latest == none || latest == some .failed
  | .running, latest => latest == some .running
  | .completed, latest => latest == some .completed
  | .failed, latest => latest == some .failed
  | .quarantined, latest => latest == none || latest == some .failed || latest == some .unknown

/-- The rows of a job agree with each other. -/
structure JobView.Coherent (v : JobView) : Prop where
  sequences : ∀ j ∈ v.row, v.attempts.map AttemptRow.sequence = List.range' 1 j.attemptCount
  earlier : ∀ a ∈ v.attempts.dropLast, a.status = .failed
  latest : ∀ j ∈ v.row, j.status.fits (v.attempts.getLast?.map AttemptRow.status) = true

section Rewrite

variable {v : JobView} {w : JobWrite}

/-- A write without new rows, on the row of a job. -/
theorem JobView.apply_row {j : JobRow} (hrow : v.row = some j) :
    (v.apply w).row = some (if w.jobSel j then w.job j else j) := by
  simp [JobView.apply, hrow]

theorem JobView.apply_attempts (hnew : w.newAttempt = none) :
    (v.apply w).attempts = updateWhere w.attemptSel w.attempt v.attempts := by
  simp [JobView.apply, hnew]

/-- A row that exists after a write without new rows was there before. -/
theorem JobView.exists_row_of_apply (hnew : w.newJob = none) {j' : JobRow}
    (h : (v.apply w).row = some j') :
    ∃ j, v.row = some j ∧ j' = if w.jobSel j then w.job j else j := by
  cases hrow : v.row with
  | none => simp [JobView.apply, hrow, hnew] at h
  | some j =>
    rw [JobView.apply_row hrow] at h
    exact ⟨j, rfl, (Option.some.inj h).symm⟩

private theorem dropLast_updateWhere {p : AttemptRow → Bool} {f : AttemptRow → AttemptRow}
    {t : List AttemptRow} (h : ∀ a ∈ t.dropLast, p a = false) :
    (updateWhere p f t).dropLast = t.dropLast := by
  have hdrop : (updateWhere p f t).dropLast = updateWhere p f t.dropLast :=
    List.map_dropLast.symm
  rw [hdrop, updateWhere_of_forall_not h]

/-- A write that selects no failed attempt rewrites the latest attempt at most; it keeps the
rows of the job coherent when it keeps the job and its latest attempt in agreement. -/
theorem JobView.Coherent.rewrite (hv : v.Coherent) (hjob : w.newJob = none)
    (hattempt : w.newAttempt = none) (hcount : ∀ j, (w.job j).attemptCount = j.attemptCount)
    (hsequence : ∀ a, (w.attempt a).sequence = a.sequence)
    (hfailed : ∀ a, w.attemptSel a = true → a.status ≠ .failed)
    (hfits : ∀ j, v.row = some j → (if w.jobSel j then w.job j else j).status.fits
      (v.attempts.getLast?.map fun a =>
        (if w.attemptSel a then w.attempt a else a).status) = true) :
    (v.apply w).Coherent := by
  have hunselected : ∀ a ∈ v.attempts.dropLast, w.attemptSel a = false := fun a ha => by
    by_contra hsel
    exact hfailed a (by simpa using hsel) (hv.earlier a ha)
  refine ⟨fun j' hj' => ?_, ?_, fun j' hj' => ?_⟩
  · obtain ⟨j, hj, rfl⟩ := exists_row_of_apply hjob hj'
    have hcount' : (if w.jobSel j then w.job j else j).attemptCount = j.attemptCount := by
      split
      · exact hcount j
      · rfl
    rw [apply_attempts hattempt, map_updateWhere _ hsequence, hcount', hv.sequences j hj]
  · rw [apply_attempts hattempt, dropLast_updateWhere hunselected]
    exact hv.earlier
  · obtain ⟨j, hj, rfl⟩ := exists_row_of_apply hjob hj'
    rw [apply_attempts hattempt, updateWhere, List.getLast?_map, Option.map_map]
    exact hfits j hj

/-- A claimed job gets one more attempt, with the next number. -/
theorem JobView.Coherent.claim (hv : v.Coherent) {j j' : JobRow} {a : AttemptRow}
    (hrow : v.row = some j) (hqueued : j.status = .queued)
    (hsel : w.attemptSel = fun _ => false) (hnew : w.newAttempt = some a)
    (hrow' : (v.apply w).row = some j') (hstatus : j'.status = .running)
    (hcount : j'.attemptCount = j.attemptCount + 1)
    (hsequence : a.sequence = j.attemptCount + 1) (hrunning : a.status = .running) :
    (v.apply w).Coherent := by
  have hattempts : (v.apply w).attempts = v.attempts ++ [a] := by
    simp [JobView.apply, hsel, hnew]
  have hall : ∀ a ∈ v.attempts, a.status = .failed := by
    have hlatest := hv.latest j hrow
    rw [hqueued] at hlatest
    rcases List.eq_nil_or_concat' v.attempts with hnil | ⟨init, l, hconcat⟩
    · rw [hnil]
      exact nofun
    · have hearlier := hv.earlier
      rw [hconcat, List.dropLast_concat] at hearlier
      rw [hconcat] at hlatest ⊢
      have hl : l.status = .failed := by simpa [JobStatus.fits] using hlatest
      intro a ha
      rcases List.mem_append.mp ha with ha | ha
      · exact hearlier a ha
      · rw [List.mem_singleton.mp ha]
        exact hl
  refine ⟨fun j'' hj'' => ?_, ?_, fun j'' hj'' => ?_⟩
  · obtain rfl : j'' = j' := Option.some.inj (hj''.symm.trans hrow')
    rw [hattempts, List.map_append, hv.sequences j hrow, hcount, List.range'_1_concat,
      List.map_singleton, hsequence, Nat.add_comm 1]
  · rw [hattempts, List.dropLast_concat]
    exact hall
  · obtain rfl : j'' = j' := Option.some.inj (hj''.symm.trans hrow')
    rw [hattempts, List.getLast?_concat, hstatus, Option.map_some, hrunning]
    rfl

/-- An attempt that has not failed is the latest one. -/
theorem JobView.Coherent.getLast?_of_not_failed (hv : v.Coherent) {a : AttemptRow}
    (ha : a ∈ v.attempts) (hstatus : a.status ≠ .failed) : v.attempts.getLast? = some a := by
  rcases List.eq_nil_or_concat' v.attempts with hnil | ⟨init, l, hconcat⟩
  · rw [hnil] at ha
    cases ha
  · rw [hconcat] at ha ⊢
    rcases List.mem_append.mp ha with ha | ha
    · have hearlier := hv.earlier
      rw [hconcat, List.dropLast_concat] at hearlier
      exact absurd (hearlier a ha) hstatus
    · rw [List.getLast?_concat, List.mem_singleton.mp ha]

/-- The first row of a table in an order in which the last row precedes all others. -/
private theorem leastBy_concat {t : List AttemptRow} {l : AttemptRow}
    (h : ∀ a ∈ t, l.laterThan a = true) :
    leastBy AttemptRow.laterThan (t ++ [l]) = some l := by
  induction t with
  | nil => rfl
  | cons a t ih =>
    have htail := ih fun a ha => h a (List.mem_cons_of_mem _ ha)
    rw [List.cons_append, leastBy, htail]
    exact if_pos (h a List.mem_cons_self)

/-- The attempt that an operator may name is the latest one. -/
theorem JobView.Coherent.getLast?_of_latest (hv : v.Coherent) {i : String} (hkeys : v.Keyed i)
    {a : AttemptRow} (ha : v.Latest a) : v.attempts.getLast? = some a := by
  obtain ⟨hmem, hid⟩ := ha
  cases hrow : v.row with
  | none =>
    rw [(hkeys.empty hrow).1] at hmem
    cases hmem
  | some j =>
    rcases List.eq_nil_or_concat' v.attempts with hnil | ⟨init, l, hconcat⟩
    · rw [hnil] at hmem
      cases hmem
    · -- sequence numbers increase, so the last row is the first of the query
      have hincreasing : (v.attempts.map AttemptRow.sequence).Pairwise (· < ·) := by
        rw [hv.sequences j hrow]
        exact List.pairwise_lt_range'
      rw [hconcat, List.map_append, List.pairwise_append] at hincreasing
      have hlater : ∀ a ∈ init, l.laterThan a = true := fun a ha => by
        have hlt : a.sequence < l.sequence :=
          hincreasing.2.2 a.sequence (List.mem_map_of_mem ha) l.sequence (by simp)
        simp [AttemptRow.laterThan, hlt]
      rw [hconcat, leastBy_concat hlater, Option.map_some] at hid
      have hlast : l ∈ v.attempts := by
        rw [hconcat]
        exact List.mem_append_right _ (List.mem_singleton.mpr rfl)
      rw [hconcat, List.getLast?_concat,
        eq_of_key_eq hkeys.attemptIds hlast hmem (Option.some.inj hid)]

end Rewrite

/-! ### Every write keeps the rows coherent -/

section Coherent

variable {v : JobView} {w : JobWrite} {i : String} {bound : Nat} {op : Op}

private theorem JobView.Coherent.latest_of_row (hv : v.Coherent) {j : JobRow}
    (hrow : v.row = some j) {a : AttemptRow} (ha : v.attempts.getLast? = some a) :
    j.status.fits (some a.status) = true := by
  have hlatest := hv.latest j hrow
  rwa [ha] at hlatest

theorem JobView.Coherent.apply (hv : v.Coherent) (hkeys : v.Keyed i)
    (hw : Writes crates bound op v w) : (v.apply w).Coherent := by
  cases hw with
  | submit _ hrow =>
    have hattempts : v.attempts = [] := (hkeys.empty hrow).1
    refine ⟨fun j hj => ?_, ?_, fun j hj => ?_⟩
    all_goals simp [JobView.apply, submitWrite, hattempts, hrow] at *
    · subst hj
      rfl
    · subst hj
      rfl
  | claim hrow hqueued _ =>
    refine hv.claim hrow hqueued rfl rfl (JobView.apply_row hrow) ?_ ?_ rfl rfl
    · simp [claimWrite, hqueued, JobRow.claim]
    · simp [claimWrite, hqueued, JobRow.claim]
  | claimHandoff hrow hepisode _ _ =>
    refine hv.claim hrow hepisode.queued rfl rfl (JobView.apply_row hrow) ?_ ?_ rfl rfl
    · simp [claimHandoffWrite, hepisode.queued, hepisode.created, hepisode.due,
        JobRow.claimHandoff, JobRow.claim]
    · simp [claimHandoffWrite, hepisode.queued, hepisode.created, hepisode.due,
        JobRow.claimHandoff, JobRow.claim]
  | complete hrow hrunning ha harunning =>
    have hlast := hv.getLast?_of_not_failed ha (by rw [harunning]; decide)
    refine hv.rewrite rfl rfl (fun _ => rfl) (fun _ => rfl) ?_ fun j hj => ?_
    · intro a ha
      simp only [completeWrite, Bool.and_eq_true, beq_iff_eq] at ha
      simp [ha.2]
    · obtain rfl := Option.some.inj (hrow.symm.trans hj)
      have hjob : _ = i := hkeys.rowId _ hrow
      simp [hlast, completeWrite, hrunning, harunning, hkeys.attemptJob _ ha, hjob,
        JobRow.complete, AttemptRow.finish, JobStatus.fits]
  | fail hrow hrunning ha harunning =>
    have hlast := hv.getLast?_of_not_failed ha (by rw [harunning]; decide)
    refine hv.rewrite rfl rfl (fun _ => rfl) (fun _ => rfl) ?_ fun j hj => ?_
    · intro a ha
      simp only [failWrite, Bool.and_eq_true, beq_iff_eq] at ha
      simp [ha.2]
    · obtain rfl := Option.some.inj (hrow.symm.trans hj)
      rename_i retryAt _
      cases retryAt <;>
        simp [hlast, failWrite, hrunning, harunning, JobRow.fail, AttemptRow.finish,
          failureTarget, JobStatus.fits]
  | interrupt hrow hrunning ha harunning =>
    have hlast := hv.getLast?_of_not_failed ha (by rw [harunning]; decide)
    refine hv.rewrite rfl rfl (fun _ => rfl) (fun _ => rfl) ?_ fun j hj => ?_
    · intro a ha
      simp only [interruptWrite, Bool.and_eq_true, beq_iff_eq] at ha
      simp [ha.2]
    · obtain rfl := Option.some.inj (hrow.symm.trans hj)
      have hjob : _ = i := hkeys.rowId _ hrow
      simp [hlast, interruptWrite, hrunning, harunning, hkeys.attemptJob _ ha, hjob,
        JobRow.interrupt, AttemptRow.finish, JobStatus.fits]
  | dispatch | admission | acknowledge =>
    refine hv.rewrite rfl rfl (fun _ => rfl) (fun _ => rfl) (fun _ h => by cases h) fun j hj => ?_
    exact hv.latest j hj
  | @terminate _ tuple receipt _ h j a _ _ _ hloaded _ _ _ hadmissible _ =>
    have hunfailed : a.status ≠ .failed := fun hfailed => by
      simp [terminallyAdmissible, hfailed] at hadmissible
    have hlast := hv.getLast?_of_not_failed hloaded.attempt hunfailed
    have hjobId : j.id = tuple.jobId := by rw [hloaded.jobId, ← hloaded.tuple]; rfl
    have hattemptId : a.id = tuple.attemptId := by rw [hloaded.attemptId, ← hloaded.tuple]; rfl
    have hattemptJob : a.jobId = tuple.jobId := by
      rw [hkeys.attemptJob a hloaded.attempt, ← hjobId, hkeys.rowId j hloaded.row]
    refine hv.rewrite rfl rfl ?_ (fun _ => rfl) ?_ fun j' hj' => ?_
    · intro j
      simp only [terminateWrite, JobRow.terminate]
      cases receipt.status <;> rfl
    · intro r hr
      simp only [terminateWrite, Bool.and_eq_true, beq_iff_eq] at hr
      rw [hr.2]
      exact hunfailed
    · obtain rfl := Option.some.inj (hloaded.row.symm.trans hj')
      simp only [hlast, terminateWrite, hjobId, JobRow.terminate]
      cases receipt.status <;> simp [hattemptId, hattemptJob, JobRow.complete,
        JobRow.failTerminal, AttemptRow.finish, WorkerTerminalStatus.attemptStatus,
        JobStatus.fits]
  | quarantine hrow hlatest _ _ hstatus =>
    have hlast := hv.getLast?_of_latest hkeys hlatest
    have hfits := hv.latest_of_row hrow hlast
    have hjob := hkeys.rowId _ hrow
    have hattemptJob := hkeys.attemptJob _ hlatest.1
    refine hv.rewrite rfl rfl (fun _ => rfl) (fun _ => rfl) ?_ fun j' hj' => ?_
    · intro r hr
      simp only [quarantineWrite, Bool.and_eq_true, beq_iff_eq] at hr
      simp [hr.2.2]
    · obtain rfl := Option.some.inj (hrow.symm.trans hj')
      -- the latest attempt of a running job is running, that of a failed one has failed
      rcases hstatus with hstatus | hstatus
      all_goals
        rw [hstatus] at hfits
        simp only [JobStatus.fits, beq_iff_eq, Option.some.injEq] at hfits
        simp [hlast, quarantineWrite, hstatus, hfits, hjob, hattemptJob, JobRow.quarantine,
          AttemptRow.finish, JobStatus.fits]
  | retry hrow hlatest hfailed hstatus _ _ =>
    have hlast := hv.getLast?_of_latest hkeys hlatest
    have hjob := hkeys.rowId _ hrow
    have hattemptJob := hkeys.attemptJob _ hlatest.1
    refine hv.rewrite rfl rfl (fun _ => rfl) (fun _ => rfl) (fun _ h => by cases h) fun j' hj' => ?_
    obtain rfl := Option.some.inj (hrow.symm.trans hj')
    rcases hstatus with hstatus | hstatus <;>
      simp [hlast, retryWrite, hstatus, hfailed, hjob, hattemptJob, JobRow.requeue,
        JobStatus.fits]
  | restore =>
    refine hv.rewrite rfl rfl (fun _ => rfl) (fun _ => rfl) ?_ fun j hj => ?_
    · intro a ha
      simp only [restoreWrite, beq_iff_eq] at ha
      simp [ha]
    · have hfits := hv.latest j hj
      cases hlast : v.attempts.getLast? with
      | none =>
        rw [hlast] at hfits
        cases hstatus : j.status <;> rw [hstatus] at hfits <;>
          simp_all [restoreWrite, JobRow.restorable, JobRow.restore, JobStatus.fits]
      | some a =>
        rw [hlast] at hfits
        cases hstatus : j.status <;> cases hattempt : a.status <;>
          simp_all [restoreWrite, JobRow.restorable, JobRow.restore, AttemptRow.finish,
            JobStatus.fits]

/-- No attempt of a completed job is running. -/
theorem JobView.Coherent.not_running_of_completed (hv : v.Coherent) {j : JobRow}
    (hrow : v.row = some j) (hcompleted : j.status = .completed) {a : AttemptRow}
    (ha : a ∈ v.attempts) : a.status ≠ .running := by
  intro hrunning
  have hlast := hv.getLast?_of_not_failed ha (by rw [hrunning]; decide)
  have hfits := hv.latest_of_row hrow hlast
  rw [hcompleted, hrunning] at hfits
  cases hfits

/-- The rows of a completed job are final. -/
theorem JobView.Coherent.apply_of_completed (hv : v.Coherent) {j : JobRow}
    (hrow : v.row = some j) (hcompleted : j.status = .completed)
    (hw : Writes crates bound op v w) :
    (v.apply w).row = some j ∧ (v.apply w).attempts = v.attempts := by
  have hsame : ∀ {j'}, v.row = some j' → j'.status = .completed := fun hj' => by
    rw [← Option.some.inj (hrow.symm.trans hj'), hcompleted]
  cases hw with
  | submit _ hnone => cases hnone.symm.trans hrow
  | claim hj' hqueued => cases (hsame hj').symm.trans hqueued
  | claimHandoff hj' hepisode => cases (hsame hj').symm.trans hepisode.queued
  | complete hj' hrunning | fail hj' hrunning | interrupt hj' hrunning =>
    cases (hsame hj').symm.trans hrunning
  | dispatch | admission | acknowledge =>
    exact ⟨by simp [JobView.apply, dispatchWrite, admitWrite, acknowledgeWrite, hrow],
      by simp [JobView.apply, dispatchWrite, admitWrite, acknowledgeWrite]⟩
  | terminate hloaded _ _ _ hadmissible =>
    simp [terminallyAdmissible, hsame hloaded.row] at hadmissible
  | quarantine hj' _ _ _ hstatus | retry hj' _ _ hstatus =>
    rcases hstatus with hstatus | hstatus <;> cases (hsame hj').symm.trans hstatus
  | restore =>
    have hnone : ∀ a ∈ v.attempts, (a.status == .running) = false := fun a ha => by
      simpa using hv.not_running_of_completed hrow hcompleted ha
    refine ⟨?_, ?_⟩
    · rw [JobView.apply_row hrow]
      simp [restoreWrite, JobRow.restorable, hcompleted]
    · rw [JobView.apply_attempts rfl]
      exact updateWhere_of_forall_not hnone

end Coherent

/-! ### Reachable stores -/

/-- The attempts of a job, first to last. -/
def Store.attemptsOf (s : Store) (jobId : String) : List AttemptRow :=
  s.attempts.filter (·.jobId == jobId)

/-- What the tables of jobs and attempts say about each other. The latest attempt of a job is
the one whose sequence number is the attempt counter of the job. -/
structure Store.JobCoherent (s : Store) (j : JobRow) : Prop where
  sequences : (s.attemptsOf j.id).map AttemptRow.sequence = List.range' 1 j.attemptCount
  running : j.status = .running ↔
    ∃ a ∈ s.attemptsOf j.id, a.sequence = j.attemptCount ∧ a.status = .running
  earlier : ∀ a ∈ s.attemptsOf j.id, a.sequence < j.attemptCount → a.status ≠ .running
  queued : j.status = .queued → ∀ a ∈ s.attemptsOf j.id, a.status = .failed
  completed : j.status = .completed →
    ∃ a ∈ s.attemptsOf j.id, a.sequence = j.attemptCount ∧ a.status = .completed

theorem coherent_empty : JobView.Coherent ⟨none, [], []⟩ :=
  ⟨by simp, by simp, by simp⟩

/-- The rows of every job are coherent in every reachable state. -/
theorem after_coherent {config : StoreConfig} {now : Nat} {epoch : UuidV4} {s₀ : Store}
    (hinit : Store.initialize config now epoch = .ok s₀) (ops : List Op) (i : String) :
    ((s₀.after crates ops).queue.view i).Coherent := by
  refine after_view_invariant (fun _ _ _ _ hkeys hv hw => hv.apply hkeys hw)
    (initialize_keyed hinit) ?_ ops
  rw [initialize_queue hinit]
  exact coherent_empty

section Reading

variable {v : JobView} {j : JobRow}

private theorem JobView.Coherent.cases (hv : v.Coherent) (hrow : v.row = some j) :
    (v.attempts = [] ∧ j.attemptCount = 0) ∨
      ∃ init l, v.attempts = init ++ [l] ∧ l.sequence = j.attemptCount ∧
        (∀ a ∈ init, a.status = .failed ∧ a.sequence < j.attemptCount) ∧
        j.status.fits (some l.status) = true := by
  have hsequences := hv.sequences j hrow
  rcases List.eq_nil_or_concat' v.attempts with hnil | ⟨init, l, hconcat⟩
  · refine .inl ⟨hnil, ?_⟩
    rw [hnil] at hsequences
    simpa using congrArg List.length hsequences.symm
  · have hlength : init.length + 1 = j.attemptCount := by
      rw [hconcat] at hsequences
      simpa using congrArg List.length hsequences
    rw [hconcat, ← hlength, List.range'_1_concat, List.map_append] at hsequences
    obtain ⟨hinit, hlast⟩ := List.append_inj' hsequences rfl
    have hl : l.sequence = 1 + init.length := by simpa using hlast
    have hearlier := hv.earlier
    rw [hconcat, List.dropLast_concat] at hearlier
    refine .inr ⟨init, l, hconcat, by omega, fun a ha => ⟨hearlier a ha, ?_⟩, ?_⟩
    · have hmem : a.sequence ∈ List.range' 1 init.length := by
        rw [← hinit]
        exact List.mem_map_of_mem ha
      have := List.mem_range'_1.mp hmem
      omega
    · have hlatest := hv.latest j hrow
      rwa [hconcat, List.getLast?_concat] at hlatest

/-- The latest attempt of a job has the largest sequence number. -/
theorem JobView.Coherent.sequence_le_of_latest {i : String} {a a' : AttemptRow} (hv : v.Coherent)
    (hkeys : v.Keyed i) (hlatest : v.Latest a) (ha' : a' ∈ v.attempts) :
    a'.sequence ≤ a.sequence := by
  have hlast : v.attempts.getLast? = some a := hv.getLast?_of_latest hkeys hlatest
  cases hrow : v.row with
  | none =>
    rw [(hkeys.empty hrow).1] at ha'
    cases ha'
  | some j =>
    rcases hv.cases hrow with ⟨hnil, -⟩ | ⟨init, l, hconcat, hl, hinit, -⟩
    · rw [hnil] at ha'
      cases ha'
    · rw [hconcat, List.getLast?_concat] at hlast
      obtain rfl := Option.some.inj hlast
      rw [hconcat] at ha'
      rcases List.mem_append.mp ha' with hmem | hmem
      · have hlt := (hinit a' hmem).2
        omega
      · rw [List.mem_singleton.mp hmem]

/-- The invariant, read off the tables. -/
theorem jobCoherent_of_view {s : Store} (hrow : (s.queue.view j.id).row = some j)
    (hv : (s.queue.view j.id).Coherent) : s.JobCoherent j := by
  have hattempts : s.attemptsOf j.id = (s.queue.view j.id).attempts := rfl
  have hsequences := hv.sequences j hrow
  rw [← hattempts] at hsequences
  rcases hv.cases hrow with ⟨hnil, hcount⟩ | ⟨init, l, hconcat, hl, hinit, hfits⟩
  · have hlatest := hv.latest j hrow
    rw [hnil] at hlatest
    rw [← hattempts] at hnil
    refine ⟨hsequences, ⟨fun hrunning => ?_, ?_⟩, ?_, ?_, fun hcompleted => ?_⟩
    · rw [hrunning] at hlatest
      cases hlatest
    · rw [hnil]
      exact nofun
    · rw [hnil]
      exact nofun
    · rw [hnil]
      exact fun _ => nofun
    · rw [hcompleted] at hlatest
      cases hlatest
  · rw [← hattempts] at hconcat
    have hmem : l ∈ s.attemptsOf j.id := by
      rw [hconcat]
      exact List.mem_append_right _ (List.mem_singleton.mpr rfl)
    have hcases : ∀ a ∈ s.attemptsOf j.id,
        a = l ∨ (a.status = .failed ∧ a.sequence < j.attemptCount) := fun a ha => by
      rw [hconcat] at ha
      rcases List.mem_append.mp ha with ha | ha
      · exact .inr (hinit a ha)
      · exact .inl (List.mem_singleton.mp ha)
    refine ⟨hsequences, ⟨fun hrunning => ?_, ?_⟩, ?_, fun hqueued => ?_, fun hcompleted => ?_⟩
    · rw [hrunning] at hfits
      exact ⟨l, hmem, hl, by simpa [JobStatus.fits] using hfits⟩
    · rintro ⟨a, ha, hsequence, hrunning⟩
      rcases hcases a ha with rfl | ⟨hfailed, -⟩
      · rw [hrunning] at hfits
        cases hstatus : j.status <;> rw [hstatus] at hfits <;> first | rfl | cases hfits
      · cases hfailed.symm.trans hrunning
    · intro a ha hlt hrunning
      rcases hcases a ha with rfl | ⟨hfailed, -⟩
      · omega
      · cases hfailed.symm.trans hrunning
    · intro a ha
      rcases hcases a ha with rfl | ⟨hfailed, -⟩
      · rw [hqueued] at hfits
        simpa [JobStatus.fits] using hfits
      · exact hfailed
    · rw [hcompleted] at hfits
      exact ⟨l, hmem, hl, by simpa [JobStatus.fits] using hfits⟩

end Reading

/-- The rows of a completed job stay coherent and, as long as they are, what they are now. -/
theorem after_completed {s : Store} {j : JobRow} {i : String} (hs : s.queue.Keyed)
    (hv : (s.queue.view i).Coherent) (hrow : (s.queue.view i).row = some j)
    (hcompleted : j.status = .completed) (later : List Op) :
    ((s.after crates later).queue.view i).Coherent ∧
      ((s.after crates later).queue.view i).row = some j ∧
      ((s.after crates later).queue.view i).attempts = (s.queue.view i).attempts := by
  refine after_view_invariant (P := fun v =>
    v.Coherent ∧ v.row = some j ∧ v.attempts = (s.queue.view i).attempts) ?_ hs
    ⟨hv, hrow, rfl⟩ later
  intro _ _ v w hkeys hv hw
  obtain ⟨hrow', hattempts'⟩ := hv.1.apply_of_completed hv.2.1 hcompleted hw
  exact ⟨hv.1.apply hkeys hw, hrow', hattempts'.trans hv.2.2⟩

/-- **Jobs and attempts agree.** In every state that a run from a fresh store reaches, every job
is coherent with its attempts; and once a job is completed, no later run changes its row or its
attempts. -/
theorem jobs_coherent {config : StoreConfig} {now : Nat} {epoch : UuidV4} {s₀ s : Store}
    (hinit : Store.initialize config now epoch = .ok s₀) (ops : List Op)
    (hs : s₀.after crates ops = s) :
    ∀ j ∈ s.jobs, s.JobCoherent j ∧
      (j.status = .completed → ∀ later : List Op,
        j ∈ (s.after crates later).jobs ∧
          (s.after crates later).attemptsOf j.id = s.attemptsOf j.id) := by
  subst hs
  intro j hj
  have hkeyed : (s₀.after crates ops).queue.Keyed := after_keyed (initialize_keyed hinit) ops
  have hrow := view_row_of_mem hkeyed hj
  have hcoherent : ((s₀.after crates ops).queue.view j.id).Coherent :=
    after_coherent hinit ops j.id
  refine ⟨jobCoherent_of_view hrow hcoherent, fun hcompleted later => ?_⟩
  obtain ⟨-, hrow', hattempts'⟩ := after_completed hkeyed hcoherent hrow hcompleted later
  exact ⟨(mem_of_lookup hrow').1, hattempts'⟩

/-- The rows of a completed job agree, and stay as they are. -/
theorem jobs_coherent_completed :
    let s := sampleStore.after sampleCrates sampleJob
    s.jobs.map JobRow.status = [.completed] ∧
      ∀ j ∈ s.jobs, s.JobCoherent j ∧ (j.status = .completed → ∀ later,
        j ∈ (s.after sampleCrates later).jobs ∧
          (s.after sampleCrates later).attemptsOf j.id = s.attemptsOf j.id) :=
  ⟨by decide +kernel, jobs_coherent sampleStore_init sampleJob rfl⟩

end AscensionWatchdog
