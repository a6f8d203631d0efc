import AscensionWatchdog.Ledger.Admissions
import AscensionWatchdog.Queue.Writes

/-!
# The store refines the job machines

Every operation of the store moves the queue by `QueueStep`s (`perform_steps`): most leave it
alone, most others write for one job, the interruption of a daemon writes for one running job
after another, and a restore writes for all of them.

One lemma for each routine peels the routine line by line and reads off what it checked and what
it wrote. From then on no proof about jobs, attempts or handoffs opens a routine again.
-/

namespace AscensionWatchdog

open Foundation Foundation.Json

variable {crates : Crates} {s s' : Store}

/-- A transaction of the queue that is quiet otherwise. -/
structure QuietStep (crates : Crates) (op : Op) (s s' : Store) : Prop where
  step : QueueStep crates op s s'
  quiet : Quiet s s'

variable {op : Op}

theorem QuietStep.refl (s : Store) : QuietStep crates op s s :=
  ⟨.same rfl, .refl s⟩

/-! ### Rows of a view -/

variable {a : AttemptRow} {q : Queue}

theorem mem_view_attempts (ha : a ∈ q.attempts) :
    a ∈ (q.view a.jobId).attempts :=
  List.mem_filter.mpr ⟨ha, by simp⟩

theorem mem_view_handoffs {h : HandoffRow} (hh : h ∈ q.handoffs) :
    h ∈ (q.view h.jobId).handoffs :=
  List.mem_filter.mpr ⟨hh, by simp⟩

theorem mem_of_mem_view_attempts {i : String}
    (ha : a ∈ (q.view i).attempts) : a ∈ q.attempts ∧ a.jobId = i := by
  simpa [Queue.view] using ha

theorem mem_of_mem_view_handoffs {i : String} {h : HandoffRow}
    (hh : h ∈ (q.view i).handoffs) : h ∈ q.handoffs ∧ h.jobId = i := by
  simpa [Queue.view] using hh

/-- A row found by its id is the row of the view. -/
theorem view_row_of_mem (hs : s.queue.Keyed) {j : JobRow} (hj : j ∈ s.jobs) :
    (s.queue.view j.id).row = some j :=
  (lookup_eq_some hs.jobIds).mpr ⟨hj, rfl⟩

/-! ### Submission and claims -/

theorem insertJobTx_step {id kind encoded digest : String} {maxJobs : Nat}
    (hop : op.submits = true)
    (h : insertJobTx s id kind encoded digest maxJobs op.nowMs = .ok s') :
    QuietStep crates op s s' := by
  obtain ⟨hfresh, hlimit, rfl⟩ := insertJobTx_eq_ok h
  refine ⟨.job id (submitWrite (submittedJob id kind encoded digest op.nowMs)) ?_ ?_ ?_ ?_ ?_,
    .logged hlimit (by decide) rfl rfl rfl⟩
  · exact .submit hop (lookup_eq_none.mpr hfresh)
  · exact ⟨⟨by simp [submitWrite, submittedJob], by simp [submitWrite], by simp [submitWrite]⟩,
      by simp [submitWrite], by simp [submitWrite], by simp [submitWrite]⟩
  · exact ⟨by simpa [submitWrite, submittedJob, Store.queue] using hfresh, by simp [submitWrite],
      by simp [submitWrite], by simp [submitWrite], by simp [submitWrite]⟩
  · simp [submitWrite]
  · simp [Store.queue, Queue.apply, submitWrite]

variable {now : Nat} {payload : Value}

theorem claimJobTx_step {job : JobRow} {workerId : String}
    {attemptId : UuidV4} {claim : Option JobClaim} (hs : s.queue.Keyed) (hjob : job ∈ s.jobs)
    (hqueued : job.status = .queued) (hall : ∀ a ∈ s.attempts, a.status.unresolved = false)
    (h : claimJobTx s job payload attemptId.text workerId (job.attemptCount + 1) now now =
      .ok (claim, s')) :
    QuietStep crates (.claimNextJob workerId now attemptId) s s' := by
  unfold claimJobTx at h
  dsimp only at h
  split at h
  · cases pure_eq_ok.mp h
    exact .refl s
  obtain ⟨s₁, hs₁, h⟩ := bind_eq_ok.mp h
  obtain ⟨hfresh, -, -, rfl⟩ := insertAttemptRow_eq_ok.mp hs₁
  obtain ⟨-, -, hlimit, -, h⟩ := insertAuditTx_bind.mp h
  cases pure_eq_ok.mp h
  refine ⟨.job job.id (claimWrite job workerId attemptId.text now) ?_ ?_ ?_ (fun _ => hall) ?_,
    .logged hlimit (by decide) rfl rfl rfl⟩
  · exact .claim (view_row_of_mem hs hjob) hqueued
      fun a ha => hall a (mem_of_mem_view_attempts ha).1
  · exact ⟨⟨by simp [claimWrite], by simp [claimWrite, claimedAttempt], by simp [claimWrite]⟩,
      by simp +contextual [claimWrite], by simp [claimWrite], by simp [claimWrite]⟩
  · exact ⟨by simp [claimWrite], by simpa [claimWrite, Store.queue] using hfresh,
      by simp [claimWrite], by simpa [claimWrite, claimedAttempt] using ⟨job, hjob, rfl⟩,
      by simp [claimWrite]⟩
  · simp [Store.queue, Queue.apply, claimWrite]

/-- A claim writes for the job it found, or leaves the store alone. -/
theorem claimNextJobTx_step {workerId : String} {attemptId : UuidV4}
    {claim : Option JobClaim} (hs : s.queue.Keyed)
    (h : claimNextJobTx crates s workerId now attemptId = .ok (claim, s')) :
    QuietStep crates (.claimNextJob workerId now attemptId) s s' := by
  obtain ⟨-, -, h⟩ := bind_eq_ok.mp h
  obtain ⟨limit, -, h⟩ := bind_eq_ok.mp h
  obtain ⟨desired, -, h⟩ := bind_eq_ok.mp h
  split at h
  · cases pure_eq_ok.mp h
    exact .refl s
  split at h
  · cases pure_eq_ok.mp h
    exact .refl s
  rename_i hresolved
  replace h := bind_only sqliteTimestamp_eq_ok h
  split at h
  · cases pure_eq_ok.mp h
    exact .refl s
  rename_i job hleast
  obtain ⟨-, -, h⟩ := bind_eq_ok.mp h
  obtain ⟨-, -, h⟩ := bind_eq_ok.mp h
  obtain ⟨payload, -, h⟩ := bind_eq_ok.mp h
  obtain ⟨next, hnext, h⟩ := bind_eq_ok.mp h
  obtain ⟨-, rfl⟩ := nextAttemptNumber_eq_ok.mp hnext
  obtain ⟨hjob, hready⟩ := List.mem_filter.mp (mem_of_leastBy hleast)
  refine claimJobTx_step hs hjob ?_ (by simpa using hresolved) h
  have hboth := Bool.and_eq_true_iff.mp hready
  simpa using hboth.1

/-! ### Completion, failure and interruption -/

/-- An attempt found by its id and its job, with a status. -/
private theorem find_attempt {attemptId jobId : String} {status : AttemptStatus}
    (h : (s.attempts.find? fun a => a.id == attemptId && a.jobId == jobId).map
      AttemptRow.status = some status) :
    ∃ a ∈ s.attempts, a.id = attemptId ∧ a.jobId = jobId ∧ a.status = status := by
  obtain ⟨a, ha, hstatus⟩ := Option.map_eq_some_iff.mp h
  have hfound := List.find?_some ha
  simp only [Bool.and_eq_true, beq_iff_eq] at hfound
  exact ⟨a, List.mem_of_find?_eq_some ha, hfound.1, hfound.2, hstatus⟩

theorem completeJobTx_step {jobId attemptId : String} {result : Value}
    {answer : Completion} (hs : s.queue.Keyed)
    (h : completeJobTx crates s jobId attemptId result now = .ok (answer, s')) :
    QuietStep crates (.completeJobAt jobId attemptId result now) s s' := by
  obtain ⟨-, -, h⟩ := bind_eq_ok.mp h
  obtain ⟨job, hjob, h⟩ := orError_bind.mp h
  split at h
  · obtain ⟨replay, -, h⟩ := bind_eq_ok.mp h
    cases pure_eq_ok.mp h
    exact .refl s
  obtain ⟨hrunning, h⟩ := ensure_bind_eq_ok.mp h
  obtain ⟨hattempt, h⟩ := ensure_bind_eq_ok.mp h
  replace h := bind_only sqliteTimestamp_eq_ok h
  replace h := bind_only updateAttemptsTx_eq_ok h
  replace h := bind_only updateJobsTx_eq_ok h
  obtain ⟨-, -, hlimit, -, h⟩ := insertAuditTx_bind.mp h
  cases pure_eq_ok.mp h
  obtain ⟨hmem, rfl⟩ := mem_of_lookup hjob
  obtain ⟨a, ha, rfl, haj, harunning⟩ := find_attempt hattempt
  refine ⟨.rewrite job.id (completeWrite crates job.id a.id result now) ?_
    ⟨rfl, rfl, rfl⟩ ?_ ?_ ?_ ?_,
    .logged hlimit (by decide) rfl rfl rfl⟩
  · exact .complete (view_row_of_mem hs hmem) hrunning
      (haj ▸ mem_view_attempts ha) harunning
  · simp +contextual [completeWrite]
  · simp +contextual [completeWrite]
  · simp [completeWrite]
  · simp [Store.queue, Queue.apply, completeWrite]

/-- An optional time is stored as it is given. -/
private theorem mapM_sqliteTimestamp_eq {o o' : Option Nat}
    (h : o.mapM sqliteTimestamp = .ok o') : o' = o := by
  cases o with
  | none => exact (pure_eq_ok.mp h).symm
  | some t =>
    rw [Option.mapM_some, map_eq_pure_bind] at h
    obtain ⟨t', ht', h⟩ := bind_eq_ok.mp h
    rw [(sqliteTimestamp_eq_ok.mp ht').2, pure_eq_ok.mp h]

theorem failJobTx_step {jobId attemptId error : String} {retryAt : Option Nat}
    {target : JobStatus} (hs : s.queue.Keyed)
    (h : failJobTx s jobId attemptId error retryAt now = .ok (target, s')) :
    QuietStep crates (.failJobAt jobId attemptId error retryAt now) s s' := by
  obtain ⟨-, -, h⟩ := bind_eq_ok.mp h
  obtain ⟨job, hjob, h⟩ := orError_bind.mp h
  obtain ⟨hrunning, h⟩ := ensure_bind_eq_ok.mp h
  obtain ⟨hattempt, h⟩ := ensure_bind_eq_ok.mp h
  replace h := bind_only sqliteTimestamp_eq_ok h
  replace h := bind_only updateAttemptsTx_eq_ok h
  obtain ⟨retryAt', hretry, h⟩ := bind_eq_ok.mp h
  replace h := bind_only updateJobsTx_eq_ok h
  obtain ⟨-, -, hlimit, -, h⟩ := insertAuditTx_bind.mp h
  cases pure_eq_ok.mp h
  obtain ⟨hmem, rfl⟩ := mem_of_lookup hjob
  obtain ⟨a, ha, rfl, haj, harunning⟩ := find_attempt hattempt
  have hsame := mapM_sqliteTimestamp_eq hretry
  subst hsame
  refine ⟨.rewrite job.id (failWrite job.id a.id error retryAt' now) ?_ ⟨rfl, rfl, rfl⟩ ?_ ?_ ?_ ?_,
    .logged hlimit (by decide) rfl rfl rfl⟩
  · exact .fail (view_row_of_mem hs hmem) hrunning
      (haj ▸ mem_view_attempts ha) harunning
  · simp +contextual [failWrite]
  · intro a' ha' hsel
    have hid : a'.id = a.id := by simp_all [failWrite]
    rw [eq_of_key_eq hs.attemptIds ha' ha hid, haj]
  · simp [failWrite]
  · simp [Store.queue, Queue.apply, failWrite]

/-- One interrupted job. -/
theorem quarantineInterruptedJobTx_step {jobId : String} (hs : s.queue.Keyed)
    (h : quarantineInterruptedJobTx s jobId now = .ok s') :
    QuietStep crates (.quarantineInterruptedJobs now) s s' := by
  replace h := bind_only sqliteTimestamp_eq_ok h
  obtain ⟨hone, h⟩ := (bind_of_iff updateAttemptsTx_eq_ok).mp h
  obtain ⟨hjobs, h⟩ := (bind_of_iff updateJobsTx_eq_ok).mp h
  obtain ⟨-, -, hlimit, -, rfl⟩ := insertAuditTx_eq_ok.mp h
  obtain ⟨a, ha, hasel⟩ := List.countP_pos_iff.mp (by rw [hone]; exact Nat.one_pos)
  obtain ⟨j, hj, hjsel⟩ := List.countP_pos_iff.mp (by rw [hjobs]; exact Nat.one_pos)
  simp only [Bool.and_eq_true, beq_iff_eq] at hasel hjsel
  obtain ⟨rfl, hjrunning⟩ := hjsel
  refine ⟨.rewrite j.id (interruptWrite j.id now) ?_ ⟨rfl, rfl, rfl⟩ ?_ ?_ ?_ ?_,
    .logged hlimit (by decide) rfl rfl rfl⟩
  · exact .interrupt (view_row_of_mem hs hj) hjrunning (hasel.1 ▸ mem_view_attempts ha) hasel.2
  · simp +contextual [interruptWrite]
  · simp +contextual [interruptWrite]
  · simp [interruptWrite]
  · simp [Store.queue, Queue.apply, interruptWrite]

/-- The loop over the interrupted jobs: one transaction after another. -/
theorem quarantineInterruptedJobsTx_steps {ids : List String} (hs : s.queue.Keyed)
    (h : quarantineInterruptedJobsTx s now ids = .ok s') :
    Relation.ReflTransGen (QuietStep crates (.quarantineInterruptedJobs now)) s s' := by
  induction ids generalizing s with
  | nil =>
    cases h
    exact .refl
  | cons jobId ids ih =>
    obtain ⟨s₁, hs₁, h⟩ := bind_eq_ok.mp h
    have hstep : QuietStep crates _ s s₁ := quarantineInterruptedJobTx_step hs hs₁
    exact .head hstep (ih (hstep.step.keyed hs) h)

/-! ### Handoff claims -/

/-- A payload that passed the bounded read is the stored text, of bounded size. -/
private theorem claimed_payload {limit : Nat} {text digest : String}
    (hlimit : payloadReadLimit s = .ok limit)
    (h : validateClaimPayload crates (substr text limit) digest s.maxPayloadBytes =
      .ok payload) :
    s.maxPayloadBytes < 2 ^ 63 ∧ text.utf8ByteSize ≤ s.maxPayloadBytes ∧
      hexDigest crates text = digest ∧ crates.fromStr text = some payload := by
  obtain ⟨hrange, hlimit⟩ := ensure_bind_eq_ok.mp hlimit
  cases pure_eq_ok.mp hlimit
  obtain ⟨⟨hsize, hhash⟩, h⟩ := ensure_bind_eq_ok.mp h
  have hwhole : substr text (s.maxPayloadBytes + 1) = text :=
    takeChars_eq_self (Nat.lt_succ_of_le hsize)
  rw [hwhole] at hsize hhash h
  exact ⟨by omega, hsize, hhash, orError_eq_ok.mp h⟩

theorem prepareHandoffTx_step {witness : WorkerClaimWitness} {ids : HandoffIds} {job : JobRow}
    {claimed : Option String} (hs : s.queue.Keyed) (hjob : job ∈ s.jobs)
    (hepisode : ClaimsEpisode crates s.maxPayloadBytes witness now job)
    (hresolved : ∀ a ∈ s.attempts, a.status.unresolved = false)
    (hsettled : ∀ h ∈ s.handoffs, h.state.unresolved = false)
    (h : prepareHandoffTx s witness ids job emptyParameters (job.attemptCount + 1) now now =
      .ok (claimed, s')) :
    QuietStep crates (.claimNextWorkerHandoff witness now ids) s s' := by
  unfold prepareHandoffTx at h
  dsimp only at h
  split at h
  · cases pure_eq_ok.mp h
    exact .refl s
  obtain ⟨s₁, hs₁, h⟩ := bind_eq_ok.mp h
  obtain ⟨hfresh, -, -, rfl⟩ := insertAttemptRow_eq_ok.mp hs₁
  replace h := bind_only sqliteTimestamp_eq_ok h
  obtain ⟨s₂, hs₂, h⟩ := bind_eq_ok.mp h
  obtain ⟨hfresh', -, rfl⟩ := insertHandoffRow_eq_ok hs₂
  obtain ⟨-, -, hlimit, -, h⟩ := insertAuditTx_bind.mp h
  cases pure_eq_ok.mp h
  refine ⟨.job job.id (claimHandoffWrite job witness ids now) ?_ ?_ ?_ (fun _ => hresolved) ?_,
    .logged hlimit (by decide) rfl rfl rfl⟩
  · exact .claimHandoff (view_row_of_mem hs hjob) hepisode
      (fun a ha => hresolved a (mem_of_mem_view_attempts ha).1)
      (fun h hh => hsettled h (mem_of_mem_view_handoffs hh).1)
  · exact ⟨⟨by simp [claimHandoffWrite], by simp [claimHandoffWrite, claimedAttempt],
        by simp [claimHandoffWrite, preparedHandoff]⟩,
      by simp +contextual [claimHandoffWrite], by simp [claimHandoffWrite],
      by simp [claimHandoffWrite]⟩
  · exact ⟨by simp [claimHandoffWrite],
      by simpa [claimHandoffWrite, Store.queue] using hfresh,
      by simpa [claimHandoffWrite, Store.queue] using hfresh',
      by simpa [claimHandoffWrite, claimedAttempt] using ⟨job, hjob, rfl⟩,
      by simpa [claimHandoffWrite, preparedHandoff] using ⟨job, hjob, rfl⟩⟩
  · simp [Store.queue, Queue.apply, claimHandoffWrite]

theorem claimNextWorkerHandoffTx_step {witness : WorkerClaimWitness}
    {ids : HandoffIds} {claimed : Option String} (hs : s.queue.Keyed)
    (h : claimNextWorkerHandoffTx crates s witness now ids = .ok (claimed, s')) :
    QuietStep crates (.claimNextWorkerHandoff witness now ids) s s' := by
  obtain ⟨⟨⟩, hwitness, h⟩ := bind_eq_ok.mp h
  obtain ⟨limit, hlimit, h⟩ := bind_eq_ok.mp h
  replace h := bind_passed h
  split at h
  · cases pure_eq_ok.mp h
    exact .refl s
  rename_i hfree
  replace h := bind_only sqliteTimestamp_eq_ok h
  split at h
  · cases pure_eq_ok.mp h
    exact .refl s
  rename_i job hleast
  replace h := bind_passed h
  obtain ⟨⟨⟩, hname, h⟩ := bind_eq_ok.mp h
  obtain ⟨payload, hpayload, h⟩ := bind_eq_ok.mp h
  split at h
  · cases pure_eq_ok.mp h
    exact .refl s
  rename_i hempty
  split at h
  · cases pure_eq_ok.mp h
    exact .refl s
  rename_i hcreated
  obtain ⟨next, hnext, h⟩ := bind_eq_ok.mp h
  obtain ⟨hcounter, rfl⟩ := nextAttemptNumber_eq_ok.mp hnext
  obtain ⟨hjob, heligible⟩ := List.mem_filter.mp (mem_of_leastBy hleast)
  simp only [Bool.or_eq_true, not_or, Bool.not_eq_true, unresolvedHandoffExists] at hfree
  simp only [Bool.and_eq_true, beq_iff_eq] at heligible
  obtain rfl : payload = emptyParameters := by simpa using hempty
  obtain ⟨hrange, hsize, hhash, hparse⟩ := claimed_payload hlimit hpayload
  refine prepareHandoffTx_step hs hjob ?_ (by simpa using hfree.1) (by simpa using hfree.2) h
  exact {
    queued := heligible.1.1.1
    due := heligible.1.1.2
    created := by omega
    counter := hcounter
    witness := hwitness
    kind := heligible.1.2
    payloadDigest := heligible.2
    id := validateName_eq_ok.mp hname
    boundRange := hrange
    payloadSize := hsize
    payloadHash := hhash
    payload := hparse }

/-! ### Transitions of a handoff -/

variable {tuple : WorkerHandoffTuple}

/-- The rows that a transition has loaded, in the view of the job of its tuple. -/
theorem loadedRows_of_require {raw : RawHandoff}
    (hraw : requireHandoffTx crates s tuple = .ok raw)
    (hmatch : ensureTupleMatches raw tuple = .ok ()) :
    ∃ j a, LoadedRows crates s.maxPayloadBytes (s.queue.view tuple.jobId) tuple raw.row j a ∧
      a ∈ s.attempts := by
  obtain ⟨hhandoff, -, j, a, hj, ha, hload⟩ := requireHandoffTx_eq_ok hraw
  have htuple : raw.row.tuple = tuple := ensure_eq_ok.mp hmatch
  obtain ⟨hmem, hid⟩ := mem_of_lookup hhandoff
  obtain ⟨hamem, haid⟩ := mem_of_lookup ha
  have hjob : tuple.jobId = raw.row.jobId := by rw [← htuple]; rfl
  refine ⟨j, a, ?_, hamem⟩
  rw [hjob]
  exact {
    row := hj
    handoff := mem_view_handoffs hmem
    attempt := hload.attempt_jobId ▸ mem_view_attempts hamem
    jobId := (mem_of_lookup hj).2
    attemptId := haid
    tuple := htuple
    loads := hload }

/-- Handoffs with the id of a loaded one belong to its job. -/
private theorem handoff_target {h : HandoffRow} {j : JobRow}
    {bound : Nat} (hs : s.queue.Keyed)
    (hloaded : LoadedRows crates bound (s.queue.view tuple.jobId) tuple h j a) {h' : HandoffRow}
    (hmem : h' ∈ s.queue.handoffs) (hid : h'.handoffId = tuple.handoffId) :
    h'.jobId = tuple.jobId := by
  obtain ⟨hh, hjob⟩ := mem_of_mem_view_handoffs hloaded.handoff
  have heq : h'.handoffId = h.handoffId := by
    rw [hid, ← hloaded.tuple]
    rfl
  rw [eq_of_key_eq hs.handoffIds hmem hh heq, hjob]

/-- What the dispatch marker has checked and what it writes. -/
theorem markDispatchedTx_eq_ok {u : Unit}
    (h : markDispatchedTx crates s tuple now = .ok (u, s')) :
    ∃ row j a,
      LoadedRows crates s.maxPayloadBytes (s.queue.view tuple.jobId) tuple row j a ∧
        row.state = .prepared ∧ (row.updatedAtMs ≤ now ∧ row.createdAtMs ≤ now) ∧
        validateDispatchControlTx s row = .ok () ∧
        s.audit.length < auditLimit "worker_handoff_may_have_been_dispatched" ∧
        s' = { s with
          handoffs := updateWhere
            (fun h => h.handoffId == tuple.handoffId && h.state == .prepared)
            (·.markDispatched now) s.handoffs
          audit := s.audit ++
            [⟨"worker_handoff_may_have_been_dispatched", tuple.handoffId, now⟩] } := by
  replace h := bind_passed h
  obtain ⟨raw, hraw, h⟩ := bind_eq_ok.mp h
  obtain ⟨⟨⟩, hmatch, h⟩ := bind_eq_ok.mp h
  obtain ⟨hstate, h⟩ := ensure_bind_eq_ok.mp h
  obtain ⟨htime, h⟩ := ensure_bind_eq_ok.mp h
  obtain ⟨⟨⟩, hcontrol, h⟩ := bind_eq_ok.mp h
  replace h := bind_only sqliteTimestamp_eq_ok h
  replace h := bind_only updateHandoffsTx_eq_ok h
  obtain ⟨-, -, hlimit, -, h⟩ := insertAuditTx_bind.mp h
  cases pure_eq_ok.mp h
  obtain ⟨j, a, hloaded, -⟩ := loadedRows_of_require hraw hmatch
  exact ⟨raw.row, j, a, hloaded, hstate, htime, hcontrol, hlimit,
    rfl⟩

theorem markDispatchedTx_step {u : Unit}
    (hs : s.queue.Keyed) (h : markDispatchedTx crates s tuple now = .ok (u, s')) :
    QuietStep crates (.markWorkerHandoffMayHaveBeenDispatchedAt tuple now) s s' := by
  obtain ⟨row, j, a, hloaded, hstate, htime, -, hlimit, rfl⟩ := markDispatchedTx_eq_ok h
  refine ⟨.rewrite tuple.jobId (dispatchWrite tuple.handoffId now) ?_ ⟨rfl, rfl, rfl⟩ ?_ ?_ ?_ ?_,
    .logged hlimit (by decide) rfl rfl rfl⟩
  · exact .dispatch hloaded hstate htime
  · simp [dispatchWrite]
  · simp [dispatchWrite]
  · intro h' hmem hsel
    exact handoff_target hs hloaded hmem (by simp_all [dispatchWrite])
  · simp [Store.queue, Queue.apply, dispatchWrite]

theorem markAdmittedTx_step {already : Bool}
    (hs : s.queue.Keyed) (h : markAdmittedTx crates s tuple now = .ok (already, s')) :
    QuietStep crates (.markWorkerHandoffAdmittedAt tuple now) s s' := by
  replace h := bind_passed h
  obtain ⟨raw, hraw, h⟩ := bind_eq_ok.mp h
  obtain ⟨⟨⟩, hmatch, h⟩ := bind_eq_ok.mp h
  replace h := bind_passed h
  split at h
  · cases pure_eq_ok.mp h
    exact .refl s
  obtain ⟨hstate, h⟩ := ensure_bind_eq_ok.mp h
  obtain ⟨htime, h⟩ := ensure_bind_eq_ok.mp h
  replace h := bind_only sqliteTimestamp_eq_ok h
  replace h := bind_only updateHandoffsTx_eq_ok h
  obtain ⟨-, -, hlimit, -, h⟩ := insertAuditTx_bind.mp h
  cases pure_eq_ok.mp h
  obtain ⟨j, a, hloaded, -⟩ := loadedRows_of_require hraw hmatch
  refine ⟨.rewrite tuple.jobId (admitWrite tuple.handoffId now) ?_ ⟨rfl, rfl, rfl⟩ ?_ ?_ ?_ ?_,
    .logged hlimit (by decide) rfl rfl rfl⟩
  · exact .admission hloaded hstate htime
  · simp [admitWrite]
  · simp [admitWrite]
  · intro h' hmem hsel
    exact handoff_target hs hloaded hmem (by simp_all [admitWrite])
  · simp [Store.queue, Queue.apply, admitWrite]

variable {authority : TerminalAuthority}

/-- What a completion has found and what it writes: a terminal handoff with the same evidence
and nothing, or an unresolved handoff and the end of its episode. -/
theorem completeWorkerHandoffTx_eq_ok
    {receipt : WorkerTerminalReceipt} {already : Bool}
    (hs : s.queue.Keyed)
    (h : completeWorkerHandoffTx crates s tuple receipt authority now = .ok (already, s')) :
    ∃ raw j a, rawHandoffFromRow crates raw.row = .ok raw ∧
      LoadedRows crates s.maxPayloadBytes (s.queue.view tuple.jobId) tuple raw.row j a ∧
      ((raw.row.state.isTerminal = true ∧ s' = s ∧
          ∃ existing, raw.terminal = some existing ∧
            existing.terminalDigest = terminalDigest crates tuple receipt) ∨
        raw.row.state.isTerminal = false ∧ ∃ text digest,
          validateTerminalReceipt receipt = .ok () ∧
            compactTerminalResult crates receipt = .ok (text, digest) ∧
            (raw.row.state = .mayHaveBeenDispatched ∨ raw.row.state = .admitted) ∧
            terminallyAdmissible j.status a.status = true ∧
            (raw.row.updatedAtMs ≤ now ∧
              (raw.row.admittedAtMs.or raw.row.dispatchedAtMs).getD raw.row.createdAtMs ≤ now) ∧
            s.audit.length < auditLimit "worker_handoff_terminal_committed" ∧ now < 2 ^ 63 ∧
            s' = { s with
              jobs := updateWhere (terminateWrite crates tuple receipt j a now text digest).jobSel
                (·.terminate receipt now text digest) s.jobs
              attempts := updateWhere
                (terminateWrite crates tuple receipt j a now text digest).attemptSel
                (·.finish receipt.status.attemptStatus now receipt.status.outcome) s.attempts
              handoffs := updateWhere
                (terminateWrite crates tuple receipt j a now text digest).handoffSel
                (·.terminate receipt receipt.checkpointSequence now text
                  (terminalDigest crates tuple receipt)) s.handoffs
              audit := s.audit ++ [⟨"worker_handoff_terminal_committed",
                s!"{tuple.handoffId}:{receipt.status.asStr}", now⟩] }) := by
  replace h := bind_passed h
  obtain ⟨⟨⟩, hreceipt, h⟩ := bind_eq_ok.mp h
  obtain ⟨⟨text, digest⟩, hresult, h⟩ := bind_eq_ok.mp h
  obtain ⟨raw, hraw, h⟩ := bind_eq_ok.mp h
  obtain ⟨⟨⟩, hmatch, h⟩ := bind_eq_ok.mp h
  replace h := bind_passed h
  obtain ⟨j, a, hloaded, ha⟩ := loadedRows_of_require hraw hmatch
  refine ⟨raw, j, a, (requireHandoffTx_eq_ok hraw).2.1, hloaded, ?_⟩
  split at h
  · rename_i hterminal
    obtain ⟨existing, hexisting, h⟩ := orError_bind.mp h
    obtain ⟨hevidence, h⟩ := ensure_bind_eq_ok.mp h
    cases pure_eq_ok.mp h
    exact .inl ⟨hterminal, rfl, existing, hexisting,
      hevidence.1⟩
  rename_i hterminal
  replace h := bind_passed h
  obtain ⟨hstate, h⟩ := ensure_bind_eq_ok.mp h
  obtain ⟨htime, h⟩ := ensure_bind_eq_ok.mp h
  obtain ⟨s₁, hcommit, h⟩ := bind_eq_ok.mp h
  cases pure_eq_ok.mp h
  obtain ⟨job, hjob, hcommit⟩ := orError_bind.mp hcommit
  obtain ⟨attempt, hattempt, hcommit⟩ := orError_bind.mp hcommit
  obtain ⟨hadmissible, hcommit⟩ := ensure_bind_eq_ok.mp hcommit
  replace hcommit := bind_only sqliteTimestamp_eq_ok hcommit
  replace hcommit := bind_only updateAttemptsTx_eq_ok hcommit
  replace hcommit := bind_only updateJobsTx_eq_ok hcommit
  replace hcommit := bind_only sqliteTimestamp_eq_ok hcommit
  replace hcommit := bind_only updateHandoffsTx_eq_ok hcommit
  obtain ⟨-, -, hlimit, hrange, rfl⟩ := insertAuditTx_eq_ok.mp hcommit
  -- the rows that the commit reads are those of the loaded handoff
  obtain rfl : j = job := by
    have hrow := hloaded.row
    rw [Queue.view] at hrow
    exact Option.some.inj (hrow.symm.trans hjob)
  obtain rfl : a = attempt := by
    have hfound := List.find?_some hattempt
    have hmem := List.mem_of_find?_eq_some hattempt
    simp only [Bool.and_eq_true, beq_iff_eq] at hfound
    refine eq_of_key_eq hs.attemptIds ha hmem ?_
    rw [hloaded.attemptId, hfound.1, ← hloaded.tuple]
    rfl
  exact .inr ⟨by simpa using hterminal, text, digest, hreceipt, hresult, hstate,
    hadmissible, htime, hlimit, hrange, rfl⟩

theorem completeWorkerHandoffTx_step
    {receipt : WorkerTerminalReceipt} {already : Bool}
    (hs : s.queue.Keyed)
    (h : completeWorkerHandoffTx crates s tuple receipt authority now = .ok (already, s')) :
    QuietStep crates (.completeWorkerHandoffWithAuthorityAt tuple receipt authority now) s s' := by
  obtain ⟨raw, j, a, -, hloaded, ⟨-, rfl, -⟩ | ⟨-, text, digest, hreceipt, hresult, hstate,
    hadmissible, htime, hlimit, -, rfl⟩⟩ := completeWorkerHandoffTx_eq_ok hs h
  · exact .refl s'
  refine ⟨.rewrite tuple.jobId (terminateWrite crates tuple receipt j a now text digest) ?_
    ⟨rfl, rfl, rfl⟩ ?_ ?_ ?_ ?_,
    .logged hlimit (by decide) rfl rfl rfl⟩
  · exact .terminate hloaded hreceipt hresult hstate hadmissible htime
  · simp +contextual [terminateWrite]
  · simp +contextual [terminateWrite]
  · intro h' hmem hsel
    exact handoff_target hs hloaded hmem (by simp_all [terminateWrite])
  · simp [Store.queue, Queue.apply, terminateWrite]

/-- What an acknowledgment has found and what it writes: an acknowledged handoff and nothing, or
a terminal one and its acknowledgment. -/
theorem acknowledgeWorkerHandoffTx_eq_ok {digest : String}
    {answer : WorkerAcknowledgment}
    (h : acknowledgeWorkerHandoffTx crates s tuple digest authority now = .ok (answer, s')) :
    ∃ raw j a, rawHandoffFromRow crates raw.row = .ok raw ∧
      LoadedRows crates s.maxPayloadBytes (s.queue.view tuple.jobId) tuple raw.row j a ∧
      (∃ record, raw.terminal = some record ∧ record.terminalDigest = digest) ∧
      ((raw.row.state = .acknowledged ∧ s' = s) ∨
        (raw.row.state = .completed ∨ raw.row.state = .failed) ∧ raw.row.ackIntent = true ∧
          (raw.row.updatedAtMs ≤ now ∧
            (raw.row.acknowledgedAtMs.or raw.row.terminalAtMs).getD raw.row.createdAtMs ≤ now) ∧
          s.audit.length < auditLimit "worker_handoff_acknowledged" ∧
          s' = { s with
            handoffs := updateWhere (acknowledgeWrite tuple.handoffId now).handoffSel
              (·.markAcknowledged now) s.handoffs
            audit := s.audit ++ [⟨"worker_handoff_acknowledged", tuple.handoffId, now⟩] }) := by
  replace h := bind_passed h
  replace h := bind_passed h
  obtain ⟨raw, hraw, h⟩ := bind_eq_ok.mp h
  obtain ⟨⟨⟩, hmatch, h⟩ := bind_eq_ok.mp h
  obtain ⟨record, hrecord, h⟩ := orError_bind.mp h
  obtain ⟨hdigest, h⟩ := ensure_bind_eq_ok.mp h
  replace h := bind_passed h
  obtain ⟨j, a, hloaded, -⟩ := loadedRows_of_require hraw hmatch
  refine ⟨raw, j, a, (requireHandoffTx_eq_ok hraw).2.1, hloaded,
    ⟨record, hrecord, hdigest⟩, ?_⟩
  dsimp only at h
  split at h
  · rename_i hstate
    cases pure_eq_ok.mp h
    exact .inl ⟨hstate, rfl⟩
  obtain ⟨⟨⟩, hstate, h⟩ := bind_eq_ok.mp h
  replace h := bind_passed h
  obtain ⟨htime, h⟩ := ensure_bind_eq_ok.mp h
  replace h := bind_only sqliteTimestamp_eq_ok h
  replace h := bind_only updateHandoffsTx_eq_ok h
  obtain ⟨-, -, hlimit, -, h⟩ := insertAuditTx_bind.mp h
  cases pure_eq_ok.mp h
  obtain ⟨hstate, hintent⟩ := ensure_eq_ok.mp hstate
  exact .inr ⟨hstate, hintent, htime, hlimit, rfl⟩

theorem acknowledgeWorkerHandoffTx_step {digest : String}
    {answer : WorkerAcknowledgment}
    (hs : s.queue.Keyed)
    (h : acknowledgeWorkerHandoffTx crates s tuple digest authority now = .ok (answer, s')) :
    QuietStep crates (.acknowledgeWorkerHandoffWithAuthorityAt tuple digest authority now)
      s s' := by
  obtain ⟨raw, j, a, -, hloaded, -, ⟨-, rfl⟩ | ⟨hstate, hintent, htime, hlimit, rfl⟩⟩ :=
    acknowledgeWorkerHandoffTx_eq_ok h
  · exact .refl s'
  refine ⟨.rewrite tuple.jobId (acknowledgeWrite tuple.handoffId now) ?_ ⟨rfl, rfl, rfl⟩ ?_ ?_ ?_
    ?_, .logged hlimit (by decide) rfl rfl rfl⟩
  · exact .acknowledge hloaded hstate hintent htime
  · simp [acknowledgeWrite]
  · simp [acknowledgeWrite]
  · intro h' hmem hsel
    exact handoff_target hs hloaded hmem (by simp_all [acknowledgeWrite])
  · simp [Store.queue, Queue.apply, acknowledgeWrite]

/-! ### Operator quarantine and retry -/

variable {attemptId : String}

private theorem attemptWithJob_eq_some {j : JobRow}
    (h : attemptWithJob s attemptId = some (a, j)) :
    a ∈ s.attempts ∧ a.id = attemptId ∧ j ∈ s.jobs ∧ j.id = a.jobId := by
  obtain ⟨a', ha, h⟩ := Option.bind_eq_some_iff.mp h
  obtain ⟨j', hj, h⟩ := Option.map_eq_some_iff.mp h
  cases h
  exact ⟨(mem_of_lookup ha).1, (mem_of_lookup ha).2, (mem_of_lookup hj).1, (mem_of_lookup hj).2⟩

/-- The attempt that a quarantine may take. -/
theorem quarantinableAttempt_eq_ok
    (h : quarantinableAttempt s attemptId = .ok a) :
    a ∈ s.attempts ∧ a.id = attemptId ∧ a.status ≠ .completed ∧
      (s.queue.view a.jobId).Latest a ∧
      ∃ j ∈ s.jobs, j.id = a.jobId ∧ (j.status = .running ∨ j.status = .failed) := by
  obtain ⟨⟨a', j⟩, hfound, h⟩ := orError_bind.mp h
  obtain ⟨hcompleted, h⟩ := ensure_bind_eq_ok.mp h
  replace h := bind_passed h
  obtain ⟨latest, hlatest, h⟩ := orError_bind.mp h
  obtain ⟨hsame, h⟩ := ensure_bind_eq_ok.mp h
  obtain ⟨hstatus, h⟩ := ensure_bind_eq_ok.mp h
  cases pure_eq_ok.mp h
  obtain ⟨ha, rfl, hj, hja⟩ := attemptWithJob_eq_some hfound
  refine ⟨ha, rfl, hcompleted.1, ⟨mem_view_attempts ha, ?_⟩, j, hj, hja,
    hstatus⟩
  rw [← hsame]
  exact hlatest

/-- What a quarantine writes in the attempts table. -/
theorem abandonAttemptTx_eq_ok {reason : String}
    (h : abandonAttemptTx s a reason now = .ok s') :
    s' = { s with
      attempts := updateWhere (quarantineWrite a reason now).attemptSel
        (quarantineWrite a reason now).attempt s.attempts } := by
  unfold abandonAttemptTx at h
  by_cases hrunning : a.status = .running
  · rw [if_pos hrunning] at h
    obtain ⟨-, rfl⟩ := updateAttemptsTx_eq_ok.mp h
    simp [quarantineWrite, hrunning]
  · rw [if_neg hrunning] at h
    cases pure_eq_ok.mp h
    have hsel : (quarantineWrite a reason now).attemptSel = fun _ => false := by
      funext r
      simp [quarantineWrite, hrunning]
    rw [hsel, updateWhere_false]

/-- What a quarantine writes. -/
theorem quarantineAttemptTx_eq_ok {reason : String}
    (h : quarantineAttemptTx s a reason now = .ok s') :
    s'.queue = s.queue.apply (quarantineWrite a reason now) ∧ Quiet s s' := by
  replace h := bind_only sqliteTimestamp_eq_ok h
  obtain ⟨s₁, hs₁, h⟩ := bind_eq_ok.mp h
  replace h := bind_only updateJobsTx_eq_ok h
  obtain ⟨-, -, hlimit, -, rfl⟩ := insertAuditTx_eq_ok.mp h
  have hattempts := abandonAttemptTx_eq_ok hs₁
  subst hattempts
  exact ⟨by simp [Store.queue, Queue.apply, quarantineWrite],
    .logged hlimit (by decide) rfl rfl rfl⟩

variable {context : OperatorCommandContext} {response : Value}

theorem quarantineAttemptTx_step {attemptId reason : String}
    (hs : s.queue.Keyed)
    (ha : quarantinableAttempt s attemptId = .ok a)
    (hreason : isName reason maxQuarantineReasonBytes = true)
    (h : quarantineAttemptTx s a reason now = .ok s') :
    QuietStep crates (.admitOperatorQuarantine context attemptId reason response now) s s' := by
  obtain ⟨hmem, rfl, hcompleted, hlatest, j, hj, hja, hstatus⟩ := quarantinableAttempt_eq_ok ha
  obtain ⟨hqueue, hquiet⟩ := quarantineAttemptTx_eq_ok h
  refine ⟨.rewrite a.jobId (quarantineWrite a reason now) ?_ ⟨rfl, rfl, rfl⟩ ?_ ?_ ?_ hqueue, hquiet⟩
  · exact .quarantine (hja ▸ view_row_of_mem hs hj) hlatest hreason hcompleted hstatus
  · simp +contextual [quarantineWrite]
  · intro a' ha' hsel
    have hid : a'.id = a.id := by simp_all [quarantineWrite]
    rw [eq_of_key_eq hs.attemptIds ha' hmem hid]
  · simp [quarantineWrite]

/-- The attempt that a retry may take. -/
private theorem retryableAttempt_eq_ok
    (h : retryableAttempt s attemptId = .ok a) :
    a ∈ s.attempts ∧ a.id = attemptId ∧ a.status = .failed ∧ (s.queue.view a.jobId).Latest a ∧
      (s.queue.view a.jobId).handoffs = [] ∧
      ∃ j ∈ s.jobs, j.id = a.jobId ∧ (j.status = .failed ∨ j.status = .quarantined) ∧
        j.completedAtMs = none ∧ j.result = none ∧ j.completionDigest = none := by
  obtain ⟨⟨a', j⟩, hfound, h⟩ := orError_bind.mp h
  obtain ⟨latest, hlatest, h⟩ := orError_bind.mp h
  obtain ⟨hsame, h⟩ := ensure_bind_eq_ok.mp h
  replace h := bind_passed h
  obtain ⟨hstatus, h⟩ := ensure_bind_eq_ok.mp h
  obtain ⟨hresult, h⟩ := ensure_bind_eq_ok.mp h
  obtain ⟨hhandoffs, h⟩ := ensure_bind_eq_ok.mp h
  cases pure_eq_ok.mp h
  obtain ⟨ha, rfl, hj, hja⟩ := attemptWithJob_eq_some hfound
  obtain ⟨hfailed, hjob⟩ := hstatus
  have hnone : ∀ x ∈ s.handoffs, x.jobId ≠ a.jobId := by
    have hany := hhandoffs
    intro x hx hxj
    exact hany (List.any_eq_true.mpr ⟨x, hx, by simp [hxj]⟩)
  refine ⟨ha, rfl, hfailed, ⟨mem_view_attempts ha, ?_⟩, ?_, j, hj, hja, hjob,
    hresult⟩
  · rw [← hsame]
    exact hlatest
  · exact List.filter_eq_nil_iff.mpr fun x hx => by simpa using hnone x hx

theorem requeueAttemptTx_step
    {reconstruction : Bool} (hs : s.queue.Keyed)
    (ha : retryableAttempt s attemptId = .ok a) (h : requeueAttemptTx s a now = .ok s') :
    QuietStep crates (.admitOperatorRetry context attemptId reconstruction response now) s s' := by
  obtain ⟨-, rfl, hfailed, hlatest, hhandoffs, j, hj, hja, hstatus, hresult⟩ :=
    retryableAttempt_eq_ok ha
  replace h := bind_only sqliteTimestamp_eq_ok h
  replace h := bind_only updateJobsTx_eq_ok h
  obtain ⟨-, -, hlimit, -, rfl⟩ := insertAuditTx_eq_ok.mp h
  refine ⟨.rewrite a.jobId (retryWrite a now) ?_ ⟨rfl, rfl, rfl⟩ ?_ ?_ ?_ ?_,
    .logged hlimit (by decide) rfl rfl rfl⟩
  · exact .retry (hja ▸ view_row_of_mem hs hj) hlatest hfailed hstatus hresult hhandoffs
  · simp +contextual [retryWrite]
  · simp [retryWrite]
  · simp [retryWrite]
  · simp [Store.queue, Queue.apply, retryWrite]

/-! ### Admissions and restore -/

variable {outcome : OperatorCommandOutcome} {command : OperatorCommand}

/-- Recording an admission leaves the queue alone. -/
theorem recordOperatorCommandTx_queue
    {auditAction suffix : String}
    (h : recordOperatorCommandTx s context command response auditAction suffix now =
      .ok (outcome, s')) : s'.queue = s.queue := by
  obtain ⟨-, -, -, -, detail, rfl⟩ := recordOperatorCommandTx_eq_ok h
  rfl

theorem applyDesiredModeTx_queue {mode : Option DesiredMode}
    (h : applyDesiredModeTx s mode now = .ok s') : s'.queue = s.queue := by
  cases mode with
  | none =>
    cases pure_eq_ok.mp h
    rfl
  | some mode =>
    replace h := bind_only updateMetadataTx_eq_ok h
    obtain ⟨-, rfl⟩ := updateMetadataTx_eq_ok.mp h
    rfl

/-- An admission moves the queue as its effect does. -/
theorem Admits.step
    {action suffix : String}
    {replayable : OperatorCommandReceipt → Prop} {effect : Store → Prop}
    (h : Admits crates s context command response action suffix now replayable effect outcome s')
    (heffect : ∀ s₁, effect s₁ → QueueStep crates op s s₁) : QueueStep crates op s s' := by
  obtain ⟨-, -, -, -, -, rfl⟩ | ⟨-, s₁, hs₁, hrecord⟩ := h.answer
  · exact .same rfl
  · exact (heffect s₁ hs₁).congr (recordOperatorCommandTx_queue hrecord)

theorem admitOperatorCommandTx_step
    (h : admitOperatorCommandTx crates s context command response now = .ok (outcome, s')) :
    QueueStep crates (.admitOperatorCommand context command response now) s s' := by
  obtain ⟨-, -, -, rfl⟩ | ⟨-, hadmits⟩ := admitOperatorCommandTx_eq_ok.mp h
  · exact .same rfl
  · exact hadmits.step fun s₁ hs₁ => .same (applyDesiredModeTx_queue hs₁)

theorem admitOperatorJobSubmissionTx_step {kind : String}
    {jobId : UuidV4}
    (h : admitOperatorJobSubmissionTx crates s context kind payload now jobId =
      .ok (outcome, s')) :
    QueueStep crates (.admitOperatorJobSubmission context kind payload now jobId) s s' :=
  (admitOperatorJobSubmissionTx_eq_ok.mp h).2.step fun _ hs₁ => (insertJobTx_step rfl hs₁).step

theorem admitOperatorQuarantineTx_step
    {attemptId reason : String}
    (hs : s.queue.Keyed)
    (h : admitOperatorQuarantineTx crates s context attemptId reason response now =
      .ok (outcome, s')) :
    QueueStep crates (.admitOperatorQuarantine context attemptId reason response now) s s' := by
  obtain ⟨⟨-, hreason⟩, hadmits⟩ := admitOperatorQuarantineTx_eq_ok.mp h
  refine hadmits.step fun s₁ ⟨a, ha, hs₁⟩ => ?_
  exact (quarantineAttemptTx_step hs ha hreason hs₁).step

theorem admitOperatorRetryTx_step
    {reconstruction : Bool}
    (hs : s.queue.Keyed)
    (h : admitOperatorRetryTx crates s context attemptId reconstruction response now =
      .ok (outcome, s')) :
    QueueStep crates (.admitOperatorRetry context attemptId reconstruction response now) s s' :=
  (admitOperatorRetryTx_eq_ok.mp h).2.step fun _ ⟨_, _, ha, hs₁⟩ =>
    (requeueAttemptTx_step hs ha hs₁).step

theorem completeReleaseActivationTx_step
    {releaseId releaseDigest : String} {rollback : Bool}
    (h : completeReleaseActivationTx crates s context releaseId releaseDigest rollback response
      now = .ok (outcome, s')) :
    QueueStep crates
      (.completeReleaseActivation context releaseId releaseDigest rollback response now) s s' := by
  refine (completeReleaseActivationTx_eq_ok.mp h).step fun s₁ ⟨pending, _, hs₁⟩ => ?_
  rw [hs₁]
  exact .same (activate_reselects pending).queue

theorem completeOperatorBackupTx_queue {receipt : OperatorCommandReceipt}
    {backupId : String} {u : Unit}
    (h : completeOperatorBackupTx crates s receipt response backupId now = .ok (u, s')) :
    s'.queue = s.queue := by
  replace h := bind_passed h
  obtain ⟨row, -, h⟩ := bind_eq_ok.mp h
  replace h := bind_passed h
  obtain ⟨existing, -, h⟩ := bind_eq_ok.mp h
  obtain ⟨durable, -, h⟩ := bind_eq_ok.mp h
  split at h
  · cases pure_eq_ok.mp h
    rfl
  · obtain ⟨s₁, hs₁, h⟩ := bind_eq_ok.mp h
    obtain ⟨-, -, -, -, rfl⟩ := insertAuditTx_eq_ok.mp hs₁
    cases pure_eq_ok.mp h
    rfl

theorem setDesiredModeTx_queue {mode : DesiredMode}
    (h : setDesiredModeTx s mode now = .ok s') : s'.queue = s.queue := by
  replace h := bind_only updateMetadataTx_eq_ok h
  replace h := bind_only updateMetadataTx_eq_ok h
  obtain ⟨-, -, -, -, rfl⟩ := insertAuditTx_eq_ok.mp h
  rfl

theorem rekeyMetadataTx_metadata {config : StoreConfig} {generation : Int}
    (h : rekeyMetadataTx s config generation now = .ok s') :
    ∃ metadata, s' = { s with metadata := metadata } ∧
      metadata .desiredMode = some "stopped" ∧
      metadata .restartGeneration = some (toString generation) ∧
      metadata .updatedAtMs = some (toString now) := by
  iterate 5 replace h := bind_only updateMetadataTx_eq_ok h
  obtain ⟨-, rfl⟩ := updateMetadataTx_eq_ok.mp h
  exact ⟨_, rfl, rfl, rfl, rfl⟩

/-- A restore keeps the handoffs as they are and reopens the queue under the new bound. -/
theorem restoreTx_queue {config : RestoreConfig} {epoch : UuidV4}
    (h : restoreTx s config now epoch = .ok s') :
    s'.queue = { s.queue.apply (restoreWrite now) with
      maxPayloadBytes := config.effective.maxPayloadBytes } := by
  obtain ⟨⟨deployment, generation⟩, -, h⟩ := bind_eq_ok.mp h
  obtain ⟨next, -, h⟩ := bind_eq_ok.mp h
  obtain ⟨s₁, hs₁, h⟩ := bind_eq_ok.mp h
  replace h := bind_only sqliteTimestamp_eq_ok h
  obtain ⟨-, -, -, -, h⟩ := insertAuditTx_bind.mp h
  cases pure_eq_ok.mp h
  obtain ⟨metadata, rfl, -⟩ := rekeyMetadataTx_metadata hs₁
  simp [Store.queue, Queue.apply, restoreWrite, reopen, quarantineRestored, upsertMetadataTx,
    clearReleaseSelectionTx, deleteMetadataTx]

theorem restoreTx_step {config : RestoreConfig} {epoch : UuidV4}
    (h : restoreTx s config now epoch = .ok s') :
    QueueStep crates (.restore config now epoch) s s' := by
  have hqueue := restoreTx_queue h
  have hbound : s'.maxPayloadBytes = config.effective.maxPayloadBytes :=
    congrArg Queue.maxPayloadBytes hqueue
  exact .restore config now epoch rfl (by rw [hqueue, hbound])

/-! ### All operations -/

/-- The operations that are quiet in every state. -/
def Op.isQuiet : Op → Bool
  | .admitOperatorCommand .. | .admitOperatorJobSubmission .. | .admitOperatorQuarantine ..
  | .admitOperatorRetry .. | .completeReleaseActivation .. | .completeOperatorBackup ..
  | .prepareReleaseActivation .. | .setDesiredModeAt .. | .restore .. => false
  | .auditEvent action _ _ => !isEmergencyStopAuditAction action
  | _ => true

theorem Outside.quietStep (h : Outside s s') : QuietStep crates op s s' :=
  ⟨.same h.queue, h.toQuiet⟩

private theorem commit_quietStep {α : Type} {routine : Result (α × Store)}
    (h : ∀ a s', routine = .ok (a, s') → QuietStep crates op s s') :
    QuietStep crates op s (commit s routine).2 :=
  commit_induction (.refl s) h

/-- A transaction outside of the queue. -/
private theorem commit_outside {α : Type} {routine : Result (α × Store)}
    (h : ∀ a s', routine = .ok (a, s') → Outside s s') :
    QuietStep crates op s (commit s routine).2 :=
  commit_quietStep fun a s' hok => (h a s' hok).quietStep

/-- A quiet operation, but the interruption of a daemon, is one quiet transaction of the queue. -/
theorem perform_quietStep (hquiet : op.isQuiet = true)
    (hop : ∀ now, op ≠ .quarantineInterruptedJobs now) (hs : s.queue.Keyed) :
    QuietStep crates op s (perform crates op s) := by
  cases op with
  | submitJobAt kind payload now id =>
    rw [perform, Store.submitJobAt, commitThen_snd]
    refine commit_quietStep fun _ s' h => ?_
    replace h := bind_passed h
    replace h := bind_passed h
    obtain ⟨s₁, hs₁, h⟩ := bind_eq_ok.mp h
    cases pure_eq_ok.mp h
    exact insertJobTx_step rfl hs₁
  | claimNextJob workerId now attemptId =>
    exact commit_quietStep fun _ s' h => claimNextJobTx_step hs h
  | completeJobAt jobId attemptId result now =>
    exact commit_quietStep fun _ s' h => completeJobTx_step hs h
  | failJobAt jobId attemptId error retryAt now =>
    exact commit_quietStep fun _ s' h => failJobTx_step hs h
  | quarantineInterruptedJobs now => exact absurd rfl (hop now)
  | configureWorkerBindingAt binding now =>
    exact commit_outside fun _ s' h => configureWorkerBindingTx_outside h
  | setWorkerControlAt control now =>
    exact commit_outside fun _ s' h => setWorkerControlTx_outside h
  | claimNextWorkerHandoff witness now ids =>
    rw [perform, Store.claimNextWorkerHandoff, commitThen_snd]
    exact commit_quietStep fun _ s' h => claimNextWorkerHandoffTx_step hs h
  | markWorkerHandoffMayHaveBeenDispatchedAt tuple now =>
    rw [perform, Store.markWorkerHandoffMayHaveBeenDispatchedAt, commitThen_snd]
    exact commit_quietStep fun _ s' h => markDispatchedTx_step hs h
  | markWorkerHandoffAdmittedAt tuple now =>
    rw [perform, Store.markWorkerHandoffAdmittedAt, commitThen_snd]
    exact commit_quietStep fun _ s' h => markAdmittedTx_step hs h
  | completeWorkerHandoffWithAuthorityAt tuple receipt authority now =>
    rw [perform, Store.completeWorkerHandoffWithAuthorityAt, commitThen_snd]
    exact commit_quietStep fun _ s' h => completeWorkerHandoffTx_step hs h
  | acknowledgeWorkerHandoffWithAuthorityAt tuple digest authority now =>
    exact commit_quietStep fun _ s' h => acknowledgeWorkerHandoffTx_step hs h
  | establishNewGeneration now =>
    exact commit_outside fun _ s' h => establishNewGenerationTx_outside h
  | auditEvent action detail now =>
    refine commit_outside fun _ s' h => .audited h ?_ (.refl s)
    simpa [Op.isQuiet] using hquiet
  | recordReconciliationProgress now =>
    refine commit_outside fun _ s' h => ?_
    obtain ⟨s₁, hs₁, h⟩ := bind_eq_ok.mp h
    cases pure_eq_ok.mp h
    exact recordReconciliationProgressTx_outside hs₁
  | prepareLaunchIntent component nonce incarnation digest containment now id =>
    rw [perform, Store.prepareLaunchIntent, commitThen_snd]
    exact commit_outside fun _ s' h => prepareLaunchIntentTx_outside h
  | recordLaunchProof intentId proof now =>
    rw [perform, Store.recordLaunchProof, commitThen_snd]
    exact commit_outside fun _ s' h => recordLaunchProofTx_outside h
  | activateLaunchIntent intentId now =>
    rw [perform, Store.activateLaunchIntent, commitThen_snd]
    exact commit_outside fun _ s' h => activateLaunchIntentTx_outside h
  | cleanLaunchIntent intentId now =>
    rw [perform, Store.cleanLaunchIntent, commitThen_snd]
    exact commit_outside fun _ s' h => cleanLaunchIntentTx_outside h
  | bindWorkerBootstrap intentId boot nonce component frame now =>
    exact commit_outside fun _ s' h => bindWorkerBootstrapTx_outside h
  | bindGatewayHealth intentId boot nonce frame now =>
    exact commit_outside fun _ s' h => bindGatewayHealthTx_outside h
  | upsertComponent record now =>
    exact commit_outside fun _ s' h => upsertComponentTx_outside h
  | persistComponentIdentity component identity now =>
    exact commit_outside fun _ s' h => persistComponentIdentityTx_outside h
  | clearComponentIdentity component now =>
    exact commit_outside fun _ s' h => clearComponentIdentityTx_outside h
  | recordRestartWithElapsed component now elapsed window =>
    rw [perform, Store.recordRestartWithElapsed, commitThen_snd]
    exact commit_outside fun _ s' h => recordRestartTx_outside h
  | admitOperatorCommand | admitOperatorJobSubmission | admitOperatorQuarantine
  | admitOperatorRetry | completeReleaseActivation | completeOperatorBackup
  | prepareReleaseActivation | setDesiredModeAt | restore => cases hquiet

/-- A transaction of one `QueueStep`. -/
private theorem commit_step {α : Type} {routine : Result (α × Store)}
    (h : ∀ a s', routine = .ok (a, s') → QueueStep crates op s s') :
    QueueStep crates op s (commit s routine).2 :=
  commit_induction (.same rfl) h

/-- A transaction that leaves the queue alone. -/
private theorem commit_same {α : Type} {routine : Result (α × Store)}
    (h : ∀ a s', routine = .ok (a, s') → s'.queue = s.queue) :
    QueueStep crates op s (commit s routine).2 :=
  commit_step fun a s' hok => .same (h a s' hok)

/-- Every operation but the interruption of a daemon is one transaction of the queue. -/
theorem perform_step (hop : ∀ now, op ≠ .quarantineInterruptedJobs now)
    (hs : s.queue.Keyed) : QueueStep crates op s (perform crates op s) := by
  by_cases hquiet : op.isQuiet = true
  · exact (perform_quietStep hquiet hop hs).step
  cases op with
  | admitOperatorCommand context command response now =>
    exact commit_step fun _ s' h => admitOperatorCommandTx_step h
  | admitOperatorJobSubmission context kind payload now jobId =>
    exact commit_step fun _ s' h => admitOperatorJobSubmissionTx_step h
  | admitOperatorQuarantine context attemptId reason response now =>
    exact commit_step fun _ s' h => admitOperatorQuarantineTx_step hs h
  | admitOperatorRetry context attemptId reconstruction response now =>
    exact commit_step fun _ s' h => admitOperatorRetryTx_step hs h
  | completeOperatorBackup receipt response backupId now =>
    exact commit_same fun _ s' h => completeOperatorBackupTx_queue h
  | prepareReleaseActivation requestId key releaseId digest rollback now =>
    rw [perform, Store.prepareReleaseActivation, commitThen_snd]
    exact commit_same fun _ s' h => (prepareReleaseActivationTx_reselects h).queue
  | completeReleaseActivation context releaseId digest rollback response now =>
    exact commit_step fun _ s' h => completeReleaseActivationTx_step h
  | setDesiredModeAt mode now =>
    refine commit_same fun _ s' h => ?_
    obtain ⟨s₁, hs₁, h⟩ := bind_eq_ok.mp h
    cases pure_eq_ok.mp h
    exact setDesiredModeTx_queue hs₁
  | auditEvent action detail now =>
    -- also the record of an accepted stop
    refine commit_same fun _ s' h => ?_
    obtain ⟨-, -, -, -, h⟩ := insertAuditTx_bind.mp h
    cases pure_eq_ok.mp h
    rfl
  | restore config now epoch =>
    refine commit_step fun _ s' h => ?_
    obtain ⟨s₁, hs₁, h⟩ := bind_eq_ok.mp h
    cases pure_eq_ok.mp h
    exact restoreTx_step hs₁
  | _ => exact absurd rfl hquiet

/-- The interruption of a daemon is a transaction for one running job after another. -/
theorem quarantineInterruptedJobs_steps (now : Nat) (hs : s.queue.Keyed) :
    Relation.ReflTransGen (QuietStep crates (.quarantineInterruptedJobs now)) s
      (perform crates (.quarantineInterruptedJobs now) s) := by
  refine commit_induction .refl fun _ s' h => ?_
  obtain ⟨s₁, hs₁, h⟩ := bind_eq_ok.mp h
  cases pure_eq_ok.mp h
  exact quarantineInterruptedJobsTx_steps hs hs₁

/-- Every operation moves the queue by transactions of the job machines. -/
theorem perform_steps (op : Op) (hs : s.queue.Keyed) :
    Relation.ReflTransGen (QueueStep crates op) s (perform crates op s) := by
  by_cases hop : ∃ now, op = .quarantineInterruptedJobs now
  · obtain ⟨now, rfl⟩ := hop
    have hle : QuietStep crates (.quarantineInterruptedJobs now) ≤ QueueStep crates _ :=
      fun _ _ hstep => hstep.step
    exact Relation.ReflTransGen.mono hle _ _ (quarantineInterruptedJobs_steps now hs)
  · exact .single (perform_step (fun now h => hop ⟨now, h⟩) hs)

end AscensionWatchdog
