import AscensionWatchdog.Queue.Handoffs

/-!
# What a restored store may do

A restore trusts nothing that was not finished: the restored store is stopped, in a later
generation, without an active release, and no job of it is queued or running (`Restored`).

From there, a job of the backup can only be claimed after an operator has retried it. Its status
is settled, every write of its machine keeps it settled except a retry
(`Writes.settled_or_retry`), and both claims need a queued job. So the operation that unsettled
it is an admitted retry of its latest attempt, which has failed (`restored_jobs_need_retry`).
-/

namespace AscensionWatchdog

open Foundation Foundation.Json

variable {crates : Crates} {s s' : Store}

/-! ### The restored tables -/

/-- What a restore makes of the store `s`. -/
structure Restored (s s' : Store) : Prop where
  desiredMode : s'.desiredMode = .ok .stopped
  generation : ∃ generation generation', generation < generation' ∧ ∀ missing nonPositive,
    currentGeneration s missing nonPositive = .ok generation ∧
      currentGeneration s' missing nonPositive = .ok generation'
  selection : readSelection s' = .ok emptySelection
  jobs : ∀ j ∈ s'.jobs, j.status ≠ .queued ∧ j.status ≠ .running
  attempts : ∀ a ∈ s'.attempts, a.status ≠ .running
  completed : ∀ j, j.status = .completed → (j ∈ s'.jobs ↔ j ∈ s.jobs)
  completedAttempts : ∀ j ∈ s.jobs, j.status = .completed →
    s'.attemptsOf j.id = s.attemptsOf j.id

variable {generation : Int}

/-- The generation in a table is the one that was written there. -/
private theorem currentGeneration_of_metadata {missing nonPositive : String}
    (hmetadata : s.metadata .restartGeneration = some (toString generation))
    (hpos : 0 < generation) (hlt : generation < 2 ^ 63) :
    currentGeneration s missing nonPositive = .ok generation := by
  have hparse : parseI64 (toString generation) = some generation :=
    parseI64_toString (by omega) hlt
  exact bind_eq_ok.mpr ⟨toString generation, orError_eq_ok.mpr hmetadata,
    bind_eq_ok.mpr ⟨generation, orError_eq_ok.mpr hparse, ensure_bind_eq_ok.mpr ⟨hpos, rfl⟩⟩⟩

/-- The generation that was read does not depend on the texts of its errors. -/
private theorem currentGeneration_eq_ok {missing nonPositive : String}
    (h : currentGeneration s missing nonPositive = .ok generation) :
    0 < generation ∧ ∀ missing nonPositive,
      currentGeneration s missing nonPositive = .ok generation := by
  obtain ⟨text, htext, h⟩ := orError_bind.mp h
  obtain ⟨parsed, hparsed, h⟩ := bind_eq_ok.mp h
  obtain ⟨hpos, h⟩ := ensure_bind_eq_ok.mp h
  cases pure_eq_ok.mp h
  refine ⟨hpos, fun missing nonPositive => ?_⟩
  exact bind_eq_ok.mpr ⟨text, orError_eq_ok.mpr htext,
    bind_eq_ok.mpr ⟨generation, hparsed, ensure_bind_eq_ok.mpr ⟨hpos, rfl⟩⟩⟩

/-- A validated backup has a generation. -/
private theorem validateBackup_eq_ok {config : StoreConfig} {deployment : String}
    (h : validateBackup s config = .ok (deployment, generation)) :
    ∃ missing nonPositive, currentGeneration s missing nonPositive = .ok generation := by
  obtain ⟨_, _, h⟩ := bind_eq_ok.mp h
  obtain ⟨_, _, h⟩ := bind_eq_ok.mp h
  obtain ⟨_, h⟩ := ensure_bind_eq_ok.mp h
  iterate 6 obtain ⟨_, _, h⟩ := bind_eq_ok.mp h
  obtain ⟨_, h⟩ := ensure_bind_eq_ok.mp h
  obtain ⟨read, hread, h⟩ := bind_eq_ok.mp h
  refine ⟨_, _, hread.trans ?_⟩
  split at h
  · obtain ⟨_, h⟩ := ensure_bind_eq_ok.mp h
    cases pure_eq_ok.mp h
    rfl
  · obtain ⟨_, _, h⟩ := bind_eq_ok.mp h
    obtain ⟨_, h⟩ := ensure_bind_eq_ok.mp h
    cases pure_eq_ok.mp h
    rfl

variable {config : RestoreConfig} {epoch : UuidV4}

/-- What a restore writes in the metadata. -/
theorem restoreTx_eq_ok {now : Nat}
    (h : restoreTx s config now epoch = .ok s') :
    s'.desiredMode = .ok .stopped ∧
      (∃ generation generation', generation < generation' ∧ ∀ missing nonPositive,
        currentGeneration s missing nonPositive = .ok generation ∧
          currentGeneration s' missing nonPositive = .ok generation') ∧
      readSelection s' = .ok emptySelection := by
  obtain ⟨⟨deployment, generation⟩, hbackup, h⟩ := bind_eq_ok.mp h
  obtain ⟨next, hnext, h⟩ := bind_eq_ok.mp h
  obtain ⟨hlt, hnext⟩ := ensure_bind_eq_ok.mp hnext
  cases pure_eq_ok.mp hnext
  obtain ⟨s₁, hs₁, h⟩ := bind_eq_ok.mp h
  replace h := bind_only sqliteTimestamp_eq_ok h
  obtain ⟨-, -, -, -, h⟩ := insertAuditTx_bind.mp h
  cases pure_eq_ok.mp h
  obtain ⟨metadata, rfl, hmode, hmetadata, -⟩ := rekeyMetadataTx_metadata hs₁
  obtain ⟨_, _, hread⟩ := validateBackup_eq_ok hbackup
  obtain ⟨hpos, hgeneration⟩ := currentGeneration_eq_ok hread
  refine ⟨?_, ⟨generation, generation + 1, by omega, fun missing nonPositive =>
    ⟨hgeneration missing nonPositive, ?_⟩⟩, rfl⟩
  · exact bind_eq_ok.mpr ⟨"stopped", orError_eq_ok.mpr hmode, rfl⟩
  · exact currentGeneration_of_metadata hmetadata (by omega) hlt

/-- A restore, seen from one job. -/
theorem restoreTx_view {now : Nat}
    (h : restoreTx s config now epoch = .ok s') (i : String) :
    s'.queue.view i = (s.queue.view i).apply (restoreWrite now) := by
  rw [restoreTx_queue h, ← view_apply (by constructor <;> simp [restoreWrite])]
  rfl

/-- The tables of the queue after a restore. -/
theorem restoreTx_tables {now : Nat}
    (h : restoreTx s config now epoch = .ok s') :
    s'.jobs = updateWhere JobRow.restorable JobRow.restore s.jobs ∧
      s'.attempts = updateWhere (·.status == .running)
        (·.finish .unknown now "restored_backup_outcome_unknown") s.attempts ∧
      s'.handoffs = s.handoffs ∧ s'.maxPayloadBytes = config.effective.maxPayloadBytes := by
  obtain ⟨hjobs, hattempts, hhandoffs, hbound⟩ := Queue.mk.inj (restoreTx_queue h)
  simp only [Queue.apply, restoreWrite, Option.toList_none, List.append_nil, updateWhere_false]
    at hjobs hattempts hhandoffs
  exact ⟨hjobs, hattempts, hhandoffs, hbound⟩

/-- A restored store: every running attempt has ended, every job is settled, and a completed job
keeps its rows. -/
theorem restored_of_restoreTx {now : Nat}
    (hkeyed : s.queue.Keyed) (hcoherent : ∀ i, (s.queue.view i).Coherent)
    (h : restoreTx s config now epoch = .ok s') : Restored s s' := by
  obtain ⟨hmode, hgeneration, hselection⟩ := restoreTx_eq_ok h
  obtain ⟨hjobs, hattempts, -, -⟩ := restoreTx_tables h
  refine ⟨hmode, hgeneration, hselection, ?_, ?_, ?_, ?_⟩
  · intro j hj
    rw [hjobs] at hj
    rcases mem_updateWhere_cases hj with ⟨-, hnot⟩ | ⟨j₀, -, -, rfl⟩
    · simp only [JobRow.restorable, Bool.or_eq_false_iff, beq_eq_false_iff_ne] at hnot
      exact ⟨hnot.1.1, hnot.1.2⟩
    · exact ⟨by simp [JobRow.restore], by simp [JobRow.restore]⟩
  · intro a ha
    rw [hattempts] at ha
    rcases mem_updateWhere_cases ha with ⟨-, hnot⟩ | ⟨a₀, -, -, rfl⟩
    · simpa using hnot
    · simp [AttemptRow.finish]
  · intro j hcompleted
    rw [hjobs]
    constructor
    · intro hj
      rcases mem_updateWhere_cases hj with ⟨hj, -⟩ | ⟨j₀, -, -, rfl⟩
      · exact hj
      · cases hcompleted
    · intro hj
      exact mem_updateWhere_of_not hj (by simp [JobRow.restorable, hcompleted])
  · intro j hj hcompleted
    have hrow : (s.queue.view j.id).row = some j := (lookup_eq_some hkeyed.jobIds).mpr ⟨hj, rfl⟩
    have hended : ∀ a ∈ (s.queue.view j.id).attempts, (a.status == .running) = false :=
      fun a ha => by simpa using (hcoherent j.id).not_running_of_completed hrow hcompleted ha
    have hview := congrArg JobView.attempts (restoreTx_view h j.id)
    rw [JobView.apply_attempts rfl] at hview
    exact hview.trans (updateWhere_of_forall_not hended)

theorem restore_eq_ok {now : Nat}
    (h : s.restore config now epoch = (.ok (), s')) : restoreTx s config now epoch = .ok s' := by
  obtain ⟨s'', hs'', h⟩ := bind_eq_ok.mp (commit_eq_ok.mp h)
  cases pure_eq_ok.mp h
  exact hs''

/-! ### Claims of restored jobs -/

/-- The two claim paths. -/
def Op.claims : Op → Bool
  | .claimNextJob .. | .claimNextWorkerHandoff .. => true
  | _ => false

/-- The call is a claim and inserts an attempt of the job `i`. -/
def ClaimsJob (crates : Crates) (op : Op) (s : Store) (i : String) : Prop :=
  op.claims = true ∧ ∃ a ∈ (perform crates op s).attempts, a.jobId = i ∧ a ∉ s.attempts

/-- The row of the job is settled. -/
def JobView.Settled (v : JobView) : Prop :=
  ∃ j, v.row = some j ∧ j.status.settled = true

/-- The jobs of a restored store are settled. -/
theorem settled_of_restoreTx {now : Nat} {i : String}
    {j : JobRow} (h : restoreTx s config now epoch = .ok s')
    (hrow : (s.queue.view i).row = some j) : (s'.queue.view i).Settled := by
  rw [restoreTx_view h]
  refine ⟨_, JobView.apply_row hrow, ?_⟩
  cases hstatus : j.status <;>
    simp [restoreWrite, JobRow.restorable, JobRow.restore, JobStatus.settled, hstatus]

/-- Both claim paths take a queued job and leave the attempts that exist alone. -/
private theorem Writes.of_claims {bound : Nat} {op : Op} {v : JobView} {w : JobWrite}
    (hw : Writes crates bound op v w) (hclaims : op.claims = true) :
    (∃ j, v.row = some j ∧ j.status = .queued) ∧ ∀ a, w.attemptSel a = false := by
  cases hw with
  | claim hrow hqueued => exact ⟨⟨_, hrow, hqueued⟩, fun _ => rfl⟩
  | claimHandoff hrow hepisode => exact ⟨⟨_, hrow, hepisode.queued⟩, fun _ => rfl⟩
  | submit hop =>
    cases op <;> cases hclaims <;> cases hop
  | _ => cases hclaims

theorem ClaimsJob.not_settled {op : Op} {i : String} (hs : s.queue.Keyed)
    (h : ClaimsJob crates op s i) : ¬ (s.queue.view i).Settled := by
  obtain ⟨hclaims, a, ha, rfl, hnew⟩ := h
  rintro ⟨j, hrow, hsettled⟩
  have hop : ∀ now, op ≠ .quarantineInterruptedJobs now := by
    rintro now rfl
    cases hclaims
  have hstep : QueueStep crates op s (perform crates op s) := perform_step hop hs
  cases hstep with
  | same hqueue =>
    have hattempts : (perform crates op s).attempts = s.attempts :=
      congrArg Queue.attempts hqueue
    exact hnew (hattempts ▸ ha)
  | restore config now epoch hrestore =>
    subst hrestore
    cases hclaims
  | job k w hwrites htargets _ _ hqueue =>
    obtain ⟨⟨j', hrow', hqueued⟩, hsel⟩ := hwrites.of_claims hclaims
    have hattempts : (perform crates op s).attempts = _ := congrArg Queue.attempts hqueue
    rw [hattempts] at ha
    rcases List.mem_append.mp ha with ha | ha
    · rw [updateWhere_of_forall_not fun a _ => hsel a] at ha
      exact hnew ha
    · obtain rfl := htargets.inserts.attempt a (by simpa using ha)
      rw [Option.some.inj (hrow.symm.trans hrow'), hqueued] at hsettled
      cases hsettled

/-- A retry that changes the store has been admitted. -/
private theorem admitOperatorRetry_accepted {context : OperatorCommandContext}
    {attemptId : String} {reconstruction : Bool} {response : Value} {now : Nat}
    (h : (s.admitOperatorRetry crates context attemptId reconstruction response now).2 ≠ s) :
    ∃ receipt, (s.admitOperatorRetry crates context attemptId reconstruction response now).1 =
      .ok (.accepted receipt) := by
  unfold Store.admitOperatorRetry at h ⊢
  cases hroutine : admitOperatorRetryTx crates s context attemptId reconstruction response now with
  | error e =>
    rw [hroutine] at h
    exact absurd rfl h
  | ok result =>
    obtain ⟨outcome, s'⟩ := result
    rw [hroutine] at h
    obtain ⟨-, -, -, -, -, rfl⟩ | ⟨-, s₁, -, hrecord⟩ :=
      (admitOperatorRetryTx_eq_ok.mp hroutine).2.answer
    · exact absurd rfl h
    · obtain ⟨-, -, -, rfl, -⟩ := recordOperatorCommandTx_eq_ok hrecord
      exact ⟨_, rfl⟩

/-- Only a retry of its latest attempt unsettles a job. -/
theorem perform_unsettles {op : Op} {i : String} (hs : s.queue.Keyed)
    (hsettled : (s.queue.view i).Settled) (hnot : ¬ ((perform crates op s).queue.view i).Settled) :
    ∃ context a reconstruction response now receipt,
      op = .admitOperatorRetry context a.id reconstruction response now ∧
        (s.admitOperatorRetry crates context a.id reconstruction response now).1 =
          .ok (.accepted receipt) ∧
        (s.queue.view i).Latest a ∧ a.status = .failed := by
  -- a write that keeps the job settled cannot be the one
  have hstep : ∀ bound v w, v.Settled → Writes crates bound op v w →
      (v.apply w).Settled ∨ ∃ context a reconstruction response now,
        op = .admitOperatorRetry context a.id reconstruction response now ∧ v.Latest a ∧
          a.status = .failed := by
    rintro bound v w ⟨j, hrow, hsettled⟩ hw
    rcases hw.settled_or_retry hrow hsettled with h | ⟨_, _, _, _, _, hop, hlatest, hfailed, -⟩
    · exact .inl ⟨_, JobView.apply_row hrow, h⟩
    · exact .inr ⟨_, _, _, _, _, hop, hlatest, hfailed⟩
  by_cases hretry : ∃ context attemptId reconstruction response now,
      op = .admitOperatorRetry context attemptId reconstruction response now
  · obtain ⟨context, attemptId, reconstruction, response, now, rfl⟩ := hretry
    have hop : ∀ t, Op.admitOperatorRetry context attemptId reconstruction response now ≠
        .quarantineInterruptedJobs t := by simp
    have hquiet : QueueStep crates _ s _ := perform_step hop hs
    rcases hquiet.view i with heq | ⟨w, hw, heq⟩
    · rw [heq] at hnot
      exact absurd hsettled hnot
    · rcases hstep _ _ _ hsettled hw with h | ⟨_, a, _, _, _, hop, hlatest, hfailed⟩
      · rw [heq] at hnot
        exact absurd h hnot
      · cases hop
        have hchanged : (s.admitOperatorRetry crates context a.id reconstruction response now).2 ≠
            s := fun hsame => hnot (by simpa only [perform, hsame] using hsettled)
        obtain ⟨receipt, hanswer⟩ := admitOperatorRetry_accepted hchanged
        exact ⟨context, a, reconstruction, response, now, receipt, rfl, hanswer, hlatest, hfailed⟩
  · refine absurd (perform_view_invariant ?_ hs hsettled) hnot
    intro bound v w _ hv hw
    rcases hstep bound v w hv hw with h | ⟨context, a, reconstruction, response, now, hop, -⟩
    · exact h
    · exact absurd ⟨context, a.id, reconstruction, response, now, hop⟩ hretry

/-- What a restore of a reachable store yields, and what it takes to claim one of its jobs
afterwards: an admitted retry of an attempt that has failed and that no attempt of the job
follows. -/
theorem restored_jobs_need_retry {config : StoreConfig} {now : Nat} {epoch : UuidV4}
    {s₀ backup : Store} {ops : List Op} {restoreConfig : RestoreConfig} {restoreNow : Nat}
    {restoreEpoch : UuidV4} (hinit : Store.initialize config now epoch = .ok s₀)
    (hbackup : s₀.after crates ops = backup)
    (hrestore : backup.restore restoreConfig restoreNow restoreEpoch = (.ok (), s)) :
    Restored backup s ∧
      ∀ j ∈ backup.jobs, ∀ later op, ClaimsJob crates op (s.after crates later) j.id →
        ∃ before context a reconstruction response t after receipt,
          later = before ++ .admitOperatorRetry context a.id reconstruction response t :: after ∧
            ((s.after crates before).admitOperatorRetry crates context a.id reconstruction response
              t).1 = .ok (.accepted receipt) ∧
            a ∈ (s.after crates before).attemptsOf j.id ∧ a.status = .failed ∧
            ∀ a' ∈ (s.after crates before).attemptsOf j.id, a'.sequence ≤ a.sequence := by
  have hrestored := restore_eq_ok hrestore
  -- the run from the fresh store to the states after the restore
  have hrun : ∀ later, s.after crates later =
      s₀.after crates (ops ++ .restore restoreConfig restoreNow restoreEpoch :: later) := by
    intro later
    have hperform : perform crates (.restore restoreConfig restoreNow restoreEpoch) backup = s :=
      congrArg Prod.snd hrestore
    unfold Store.after at hbackup ⊢
    rw [run_append, run_cons, hbackup, hperform]
  have hkeyed : ∀ ops, (s₀.after crates ops).queue.Keyed := after_keyed (initialize_keyed hinit)
  have hcoherent : ∀ ops i, ((s₀.after crates ops).queue.view i).Coherent := after_coherent hinit
  refine ⟨restored_of_restoreTx (hbackup ▸ hkeyed ops) (hbackup ▸ hcoherent ops) hrestored, ?_⟩
  intro j hj later op hclaims
  have hsettled : (s.queue.view j.id).Settled := by
    have hrow : (backup.queue.view j.id).row = some j :=
      (lookup_eq_some (hbackup ▸ hkeyed ops).jobIds).mpr ⟨hj, rfl⟩
    exact settled_of_restoreTx hrestored hrow
  have hnot : ¬ ((s.after crates later).queue.view j.id).Settled := by
    refine hclaims.not_settled ?_
    rw [hrun]
    exact hkeyed _
  obtain ⟨before, retry, after, rfl, hbefore, hbreak⟩ :=
    exists_breaking_step (P := fun s : Store => (s.queue.view j.id).Settled) hsettled hnot
  have hbeforeKeyed : (s.after crates before).queue.Keyed := hrun before ▸ hkeyed _
  have hbeforeCoherent : ((s.after crates before).queue.view j.id).Coherent :=
    hrun before ▸ hcoherent _ j.id
  obtain ⟨context, a, reconstruction, response, t, receipt, rfl, hanswer, hlatest, hfailed⟩ :=
    perform_unsettles hbeforeKeyed hbefore hbreak
  exact ⟨before, context, a, reconstruction, response, t, after, receipt, rfl, hanswer,
    hlatest.1, hfailed, fun a' ha' =>
      hbeforeCoherent.sequence_le_of_latest (hbeforeKeyed.view j.id) hlatest ha'⟩

/-- The restore of a backup that was made while a job ran. -/
theorem restored_jobs_need_retry_claimed :
    Restored (sampleStore.after sampleCrates (sampleJob.take 2))
      ((sampleStore.after sampleCrates (sampleJob.take 2)).restore sampleRestoreConfig 9
        (sampleUuid 11)).2 := by
  have hrestore : (sampleStore.after sampleCrates (sampleJob.take 2)).restore
      sampleRestoreConfig 9 (sampleUuid 11) = (.ok (), _) := eq_ok_of_fst (by decide +kernel)
  exact (restored_jobs_need_retry sampleStore_init rfl hrestore).1

/-! ### Handoffs of a restored store -/

/-- When the rows of a handoff that loads still load after a restore: the new bound admits the
payload, and the restore does not rewrite the job. A rejected handoff requires nothing of the
outcome, so its job may be rewritten when the new columns can be read. -/
structure SurvivesRestore (bound now : Nat) (h : HandoffRow) (j : JobRow) (a : AttemptRow) :
    Prop where
  boundRange : bound < 2 ^ 63
  payload : j.payload.utf8ByteSize ≤ bound
  job : h.state ≠ .rejected → j.status = .completed ∨ j.status = .quarantined
  retry : h.state = .rejected → j.status = .queued → j.nextRetryAtMs = none
  attempt : h.state = .rejected → a.status = .running → a.startedAtMs ≤ now

section Survives

variable {bound bound' now : Nat} {h : HandoffRow} {j : JobRow} {a : AttemptRow}

/-- The job of a handoff that is not rejected is rewritten only with a loss: the handoff no longer
loads. -/
theorem not_restorable_of_rowsLoad (hload : RowsLoad crates bound h j.restore a) :
    h.state = .rejected := by
  obtain ⟨terminal, hh, -, -, hrelated⟩ := rowsLoad_iff.mp hload
  rcases hh.cases with hunresolved | ⟨record, rfl⟩ | ⟨hrejected, -⟩
  · cases (hrelated.opened hunresolved).workerId
  · have hclosed := hrelated.closed record rfl
    cases hstatus : record.status with
    | completed => cases (hclosed.completed hstatus).1
    | failed => cases (hclosed.failed hstatus).1
  · exact hrejected

/-- The attempt of a handoff with an outcome that a restore keeps is not running. -/
theorem attempt_not_running (hload : RowsLoad crates bound h j a) (hstate : h.state ≠ .rejected)
    (hj : j.status = .completed ∨ j.status = .quarantined) : a.status ≠ .running := by
  obtain ⟨terminal, hh, -, -, hrelated⟩ := rowsLoad_iff.mp hload
  intro hrunning
  rcases hh.cases with hunresolved | ⟨record, rfl⟩ | ⟨hrejected, -⟩
  · have hopened := hrelated.opened hunresolved
    rcases hopened.status with hstatus | hstatus
    · simp [hstatus] at hj
    · have hunknown := hopened.quarantined hstatus
      simp [hunknown] at hrunning
  · have hclosed := hrelated.closed record rfl
    cases hstatus : record.status with
    | completed => simp [(hclosed.completed hstatus).2.1] at hrunning
    | failed => simp [(hclosed.failed hstatus).2.1] at hrunning
  · exact hstate hrejected

/-- The row of a job after a restore. -/
def JobRow.restored (j : JobRow) : JobRow :=
  if j.restorable then j.restore else j

/-- The row of an attempt after a restore. -/
def AttemptRow.restored (a : AttemptRow) (now : Nat) : AttemptRow :=
  if a.status == .running then a.finish .unknown now "restored_backup_outcome_unknown" else a

theorem restorable_iff : j.restorable = true ↔ ¬ (j.status = .completed ∨ j.status = .quarantined) := by
  cases hstatus : j.status <;> simp [JobRow.restorable, hstatus]

/-- A restored job row can be read when the old one can and the bound admits its payload. -/
private theorem readable_restored (hj : j.Readable crates bound)
    (hpayload : j.payload.utf8ByteSize ≤ bound')
    (hretry : j.status = .queued → j.nextRetryAtMs = none) : j.restored.Readable crates bound' := by
  have hnone : j.nextRetryAtMs = none := hj.retry.elim hretry id
  unfold JobRow.restored
  split
  · refine { hj with
      payloadSize := hpayload
      lastError := ?_
      workerId := by simp [JobRow.restore]
      retry := .inr hnone
      running := by simp [JobRow.restore]
      completed := by simp [JobRow.restore] }
    rintro e ⟨⟩
    decide +kernel
  · exact { hj with payloadSize := hpayload }

private theorem readable_restored_attempt (ha : a.Readable)
    (hstarted : a.status = .running → a.startedAtMs ≤ now) : (a.restored now).Readable := by
  unfold AttemptRow.restored
  split
  next hrunning =>
    refine { ha with times := ?_ }
    have hstarted := hstarted (by simpa using hrunning)
    simpa [outOfOrder, AttemptRow.finish] using hstarted
  next => exact ha

/-- Nothing that a restore writes matters to a rejected handoff. -/
private theorem related_restored (hrelated : Related crates h none j a)
    (hstate : h.state = .rejected) : Related crates h none j.restored (a.restored now) where
  attempt := by
    unfold AttemptRow.restored
    split <;> exact hrelated.attempt
  job := by
    unfold JobRow.restored
    split <;> exact hrelated.job
  opened hunresolved := by
    rw [hstate] at hunresolved
    cases hunresolved
  closed := nofun

/-- A handoff that loads still loads after a restore exactly when its rows survive it. -/
theorem rowsLoad_restored_iff (hload : RowsLoad crates bound h j a) :
    bound' < 2 ^ 63 ∧ RowsLoad crates bound' h j.restored (a.restored now) ↔
      SurvivesRestore bound' now h j a := by
  obtain ⟨terminal, hh, hj, ha, hrelated⟩ := rowsLoad_iff.mp hload
  constructor
  · rintro ⟨hbound, hload'⟩
    obtain ⟨-, -, hj', ha', -⟩ := rowsLoad_iff.mp hload'
    refine ⟨hbound, ?_, fun hstate => ?_, fun hstate hqueued => ?_, fun hstate hrunning => ?_⟩
    · have hsize := hj'.payloadSize
      unfold JobRow.restored at hsize
      split at hsize <;> exact hsize
    · by_contra hstatus
      rw [JobRow.restored, if_pos (restorable_iff.mpr hstatus)] at hload'
      exact hstate (not_restorable_of_rowsLoad hload')
    · have hrestorable : j.restorable = true := restorable_iff.mpr (by simp [hqueued])
      rw [JobRow.restored, if_pos hrestorable] at hj'
      exact hj'.retry.resolve_left (by simp [JobRow.restore])
    · rw [AttemptRow.restored, if_pos (by simp [hrunning])] at ha'
      simpa [outOfOrder, AttemptRow.finish] using ha'.times
  · intro hs
    refine ⟨hs.boundRange, rowsLoad_iff.mpr ?_⟩
    by_cases hstate : h.state = .rejected
    · obtain rfl : terminal = none := by
        have hpresent := hh.present.1
        rw [hstate] at hpresent
        cases terminal with
        | none => rfl
        | some record => cases hpresent
      exact ⟨none, hh, readable_restored hj hs.payload (hs.retry hstate),
        readable_restored_attempt ha (hs.attempt hstate), related_restored hrelated hstate⟩
    · -- the restore writes neither the job nor the attempt
      have hjob : j.restored = j := if_neg fun h => restorable_iff.mp h (hs.job hstate)
      have hattempt : a.restored now = a :=
        if_neg (by simpa using attempt_not_running hload hstate (hs.job hstate))
      rw [hjob, hattempt]
      exact ⟨terminal, hh, { hj with payloadSize := hs.payload }, ha, hrelated⟩

end Survives

/-- After a restore of a store whose handoffs load, they all load exactly when the rows of each of
them survive the restore. -/
theorem restored_handoffs_load_iff {config : RestoreConfig} {now : Nat} {epoch : UuidV4}
    (hs : s.queue.Keyed) (hload : s.AllLoad crates)
    (hrestore : s.restore config now epoch = (.ok (), s')) :
    s'.AllLoad crates ↔ ∀ h ∈ s.handoffs, ∀ j ∈ s.jobs, ∀ a ∈ s.attempts,
      j.id = h.jobId → a.id = h.attemptId →
        SurvivesRestore config.effective.maxPayloadBytes now h j a := by
  have hrestored := restore_eq_ok hrestore
  have hstep : QueueStep crates (.restore config now epoch) s s' := restoreTx_step hrestored
  obtain ⟨hjobs, hattempts, hhandoffs, hbound⟩ := restoreTx_tables hrestored
  have hjob : ∀ i, lookup JobRow.id i s'.jobs = (lookup JobRow.id i s.jobs).map JobRow.restored := by
    intro i
    rw [hjobs]
    exact lookup_updateWhere (restoreWrite now).job_id
  have hattempt : ∀ i, lookup AttemptRow.id i s'.attempts =
      (lookup AttemptRow.id i s.attempts).map (·.restored now) := by
    intro i
    rw [hattempts]
    exact lookup_updateWhere (restoreWrite now).attempt_id
  rw [allLoad_iff (hstep.keyed hs), hhandoffs]
  refine forall₂_congr fun h hh => ?_
  obtain ⟨j, a, -, hj, ha, hrows⟩ := (allLoad_iff hs).mp hload h hh
  -- the rows of the handoff are the only ones with their keys
  rw [hjob, hattempt, hj, ha, hbound]
  have hiff : _ ↔ SurvivesRestore config.effective.maxPayloadBytes now h j a :=
    rowsLoad_restored_iff hrows
  constructor
  · rintro ⟨j', a', hrange, ⟨⟩, ⟨⟩, hload'⟩ j₁ hj₁ a₁ ha₁ hjid haid
    have hj₁ : j₁ = j :=
      Option.some.inj (((lookup_eq_some hs.jobIds).mpr ⟨hj₁, hjid⟩).symm.trans hj)
    have ha₁ : a₁ = a :=
      Option.some.inj (((lookup_eq_some hs.attemptIds).mpr ⟨ha₁, haid⟩).symm.trans ha)
    rw [hj₁, ha₁]
    exact hiff.mp ⟨hrange, hload'⟩
  · intro hsurvives
    obtain ⟨hjmem, hjid⟩ := mem_of_lookup hj
    obtain ⟨hamem, haid⟩ := mem_of_lookup ha
    obtain ⟨hrange, hload'⟩ := hiff.mpr (hsurvives j hjmem a hamem hjid haid)
    exact ⟨_, _, hrange, rfl, rfl, hload'⟩

/-- One evaluation for both statements, since each would repeat the run of the sample. -/
private theorem sampleClaim_restored :
    (sampleStore.after sampleCrates sampleClaim).AllLoad sampleCrates ∧
      ((sampleStore.after sampleCrates sampleClaim).restore sampleRestoreConfig 9
        (sampleUuid 11)).1 = .ok () ∧
      ¬ ((sampleStore.after sampleCrates sampleClaim).restore sampleRestoreConfig 9
        (sampleUuid 11)).2.AllLoad sampleCrates := by
  decide +kernel

/-- The condition, for a backup that was made while a handoff was prepared. -/
theorem restored_handoffs_load_iff_prepared :
    let s := sampleStore.after sampleCrates sampleClaim
    (s.restore sampleRestoreConfig 9 (sampleUuid 11)).2.AllLoad sampleCrates ↔
      ∀ h ∈ s.handoffs, ∀ j ∈ s.jobs, ∀ a ∈ s.attempts, j.id = h.jobId → a.id = h.attemptId →
        SurvivesRestore sampleRestoreConfig.effective.maxPayloadBytes 9 h j a :=
  restored_handoffs_load_iff (after_keyed (initialize_keyed sampleStore_init) sampleClaim)
    sampleClaim_restored.1 (eq_ok_of_fst sampleClaim_restored.2.1)

/-- A prepared handoff loads, and after a successful restore of its store it does not. -/
theorem prepared_handoff_lost_by_restore :
    (sampleStore.after sampleCrates sampleClaim).AllLoad sampleCrates ∧
      ((sampleStore.after sampleCrates sampleClaim).restore sampleRestoreConfig 9
        (sampleUuid 11)).1 = .ok () ∧
      ¬ ((sampleStore.after sampleCrates sampleClaim).restore sampleRestoreConfig 9
        (sampleUuid 11)).2.AllLoad sampleCrates :=
  sampleClaim_restored

end AscensionWatchdog
