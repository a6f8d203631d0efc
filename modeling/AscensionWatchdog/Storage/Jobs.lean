import AscensionWatchdog.Foundation.Text
import AscensionWatchdog.Storage.Schema

/-!
# The job queue

Jobs are admitted as `queued`, claimed for one attempt at a time, and left `completed`, `failed`
or `quarantined`. Each routine here is one transaction of `storage_jobs`: it reads the rows it
depends on, updates a job and its attempt **under the status it expects to find there**, checks
that exactly one row changed, and appends an audit record.

The deployment runs one attempt at a time: `claimNextJob` finds no job while any attempt is
`running` or `unknown`.
-/

namespace AscensionWatchdog

open Foundation Foundation.Json

def maxResultBytes : Nat :=
  64 * 1024

/-- A job as the store answers it, with its texts parsed. -/
structure JobRecord where
  id : String
  kind : String
  payload : Value
  payloadDigest : String
  status : JobStatus
  createdAtMs : Nat
  claimedAtMs : Option Nat
  completedAtMs : Option Nat
  attemptCount : Nat
  nextRetryAtMs : Option Nat
  lastError : Option String
  result : Option Value
  workerId : Option String
  deriving DecidableEq, Repr

/-- An atomic claim: the job, and the identity and lineage of its new attempt. -/
structure JobClaim where
  job : JobRecord
  attemptId : String
  attemptNumber : Nat
  lineage : String
  claimedBy : String
  deriving DecidableEq, Repr

/-- A completion, including the acknowledgment of a repeated one. -/
structure Completion where
  jobId : String
  attemptId : String
  result : Value
  alreadyCompleted : Bool
  deriving DecidableEq, Repr

/-! ### Rows -/

variable (j : JobRow) (crates : Crates) (s : Store) (now : Nat) (workerId : String) (job : JobRow)

/-- Insert a job under the constraints of the table. -/
def insertJobRow (row : JobRow) : Result Store := do
  ensure (¬ s.jobs.any (·.id == row.id)) (.sqlite "UNIQUE constraint failed: jobs.id")
  return { s with jobs := s.jobs ++ [row] }

/-- Insert an attempt under the constraints of the table. -/
def insertAttemptRow (row : AttemptRow) : Result Store := do
  ensure (¬ s.attempts.any (·.id == row.id)) (.sqlite "UNIQUE constraint failed: attempts.id")
  ensure (¬ s.attempts.any fun a => a.jobId == row.jobId && a.sequence == row.sequence)
    (.sqlite "UNIQUE constraint failed: attempts.job_id, attempts.sequence")
  ensure (s.jobs.any (·.id == row.jobId)) (.sqlite "FOREIGN KEY constraint failed")
  return { s with attempts := s.attempts ++ [row] }

theorem insertJobRow_eq_ok {s s' : Store} {row : JobRow} :
    insertJobRow s row = .ok s' ↔
      (∀ j ∈ s.jobs, j.id ≠ row.id) ∧ { s with jobs := s.jobs ++ [row] } = s' := by
  rw [insertJobRow, ensure_bind_eq_ok, pure_eq_ok]
  simp

theorem insertAttemptRow_eq_ok {s s' : Store} {row : AttemptRow} :
    insertAttemptRow s row = .ok s' ↔
      (∀ a ∈ s.attempts, a.id ≠ row.id) ∧
        (∀ a ∈ s.attempts, a.jobId = row.jobId → a.sequence ≠ row.sequence) ∧
        (∃ j ∈ s.jobs, j.id = row.jobId) ∧
        { s with attempts := s.attempts ++ [row] } = s' := by
  rw [insertAttemptRow, ensure_bind_eq_ok, ensure_bind_eq_ok, ensure_bind_eq_ok, pure_eq_ok]
  simp

/-- A stored text as JSON. -/
def parseStored (text : String) : Result Value :=
  orError (crates.fromStr text) (.sqlite "stored text is not valid JSON")

def jobFromRow (row : JobRow) : Result JobRecord := do
  let payload ← parseStored crates row.payload
  let attemptCount ← sqliteU32 row.attemptCount "job attempt_count"
  let result ← row.result.mapM (parseStored crates)
  return {
    id := row.id
    kind := row.kind
    payload
    payloadDigest := row.payloadDigest
    status := row.status
    createdAtMs := row.createdAtMs
    claimedAtMs := row.claimedAtMs
    completedAtMs := row.completedAtMs
    attemptCount
    nextRetryAtMs := row.nextRetryAtMs
    lastError := row.lastError
    result
    workerId := row.workerId }

def Store.getJob (id : String) : Result (Option JobRecord) :=
  (lookup JobRow.id id s.jobs).mapM (jobFromRow crates)

/-! ### Submission -/

/-- The row of a job as it is submitted. -/
def submittedJob (id kind encoded digest : String) (now : Nat) : JobRow where
  id := id
  kind := kind
  payload := encoded
  payloadDigest := digest
  status := .queued
  createdAtMs := now
  claimedAtMs := none
  completedAtMs := none
  attemptCount := 0
  nextRetryAtMs := some now
  lastError := none
  result := none
  completionDigest := none
  workerId := none

def insertJobTx (id kind encoded digest : String) (maxJobs nowMs : Nat) : Result Store := do
  ensure (s.jobs.length < maxJobs) (.conflict "job retention bound is full")
  let now ← sqliteTimestamp nowMs
  let s ← insertJobRow s (submittedJob id kind encoded digest now)
  insertAuditTx s "job_submitted" id nowMs

theorem insertJobTx_eq_ok {s s' : Store} {id kind encoded digest : String}
    {maxJobs nowMs : Nat} (h : insertJobTx s id kind encoded digest maxJobs nowMs = .ok s') :
    (∀ j ∈ s.jobs, j.id ≠ id) ∧ s.audit.length < auditLimit "job_submitted" ∧
      s' = { s with
        jobs := s.jobs ++ [submittedJob id kind encoded digest nowMs]
        audit := s.audit ++ [⟨"job_submitted", id, nowMs⟩] } := by
  obtain ⟨-, -, h⟩ := bind_eq_ok.mp h
  replace h := bind_only sqliteTimestamp_eq_ok h
  obtain ⟨s₁, hs₁, h⟩ := bind_eq_ok.mp h
  obtain ⟨hfresh, rfl⟩ := insertJobRow_eq_ok.mp hs₁
  obtain ⟨-, -, haudit, -, rfl⟩ := insertAuditTx_eq_ok.mp h
  exact ⟨hfresh, haudit, rfl⟩

def submitJobTx (kind : String) (payload : Value) (nowMs : Nat) (id : UuidV4) :
    Result (Unit × Store) := do
  validateName kind "job kind" 128
  let encoded := payload.render
  ensure (encoded.utf8ByteSize ≤ s.maxPayloadBytes)
    (.invalidInput s!"job payload exceeds {s.maxPayloadBytes} bytes")
  let s' ← insertJobTx s id.text kind encoded (hexDigest crates encoded) s.maxJobs nowMs
  return ((), s')

/-- Submit a bounded JSON job under a generated identity. -/
def Store.submitJobAt (kind : String) (payload : Value) (nowMs : Nat) (id : UuidV4) :
    Result JobRecord × Store :=
  commitThen s (submitJobTx crates s kind payload nowMs id) fun _ s' => do
    let job ← s'.getJob crates id.text
    orError job (.conflict "job disappeared after commit")

/-! ### Claim -/

/-- An attempt that still reserves the deployment. -/
def AttemptStatus.unresolved : AttemptStatus → Bool
  | .running => true
  | .unknown => true
  | _ => false

/-- The order in which jobs are claimed. -/
def JobRow.claimedBefore (j j' : JobRow) : Bool :=
  j.createdAtMs < j'.createdAtMs || (j.createdAtMs == j'.createdAtMs && j.id < j'.id)

/-- The largest payload the claim query has to read, as an SQLite integer. -/
def payloadReadLimit : Result Nat := do
  ensure (s.maxPayloadBytes + 1 < 2 ^ 63)
    (.invalidInput "job payload bound exceeds SQLite range")
  return s.maxPayloadBytes + 1

/-- `substr(text, 1, limit)`. -/
def substr (text : String) (limit : Nat) : String :=
  takeChars limit text

def validateClaimPayload (text expectedDigest : String) (bound : Nat) : Result Value := do
  ensure (text.utf8ByteSize ≤ bound ∧ hexDigest crates text = expectedDigest)
    (.conflict "stored job payload exceeds its bound or differs from its admission digest")
  orError (crates.fromStr text) (.conflict "stored job payload is not valid JSON")

/-- The number of the attempt after `attemptCount` earlier ones. -/
def nextAttemptNumber (attemptCount : Nat) : Result Nat := do
  ensure (attemptCount < 2 ^ 32) (.conflict "job attempt counter overflow")
  ensure (attemptCount + 1 < 2 ^ 32) (.conflict "job attempt counter exhausted")
  return attemptCount + 1

theorem nextAttemptNumber_eq_ok {attemptCount n : Nat} :
    nextAttemptNumber attemptCount = .ok n ↔ attemptCount + 1 < 2 ^ 32 ∧ attemptCount + 1 = n := by
  rw [nextAttemptNumber, ensure_bind_eq_ok, ensure_bind_eq_ok, pure_eq_ok]
  constructor
  · rintro ⟨-, hlt, rfl⟩
    exact ⟨hlt, rfl⟩
  · rintro ⟨hlt, rfl⟩
    exact ⟨by omega, hlt, rfl⟩

/-- The text that names an attempt of a job. -/
def attemptLineage (jobId : String) (attemptNumber : Nat) : String :=
  s!"{jobId}:{attemptNumber}"

/-- The columns of a job that a claim writes. -/
def JobRow.claim (attemptNumber : Nat) : JobRow :=
  { j with
    status := .running
    claimedAtMs := some now
    workerId := some workerId
    attemptCount := attemptNumber }

/-- The attempt that a claim inserts. -/
def claimedAttempt (id jobId : String) (attemptNumber now : Nat) (workerId : String) :
    AttemptRow where
  id := id
  jobId := jobId
  sequence := attemptNumber
  lineage := attemptLineage jobId attemptNumber
  status := .running
  startedAtMs := now
  finishedAtMs := none
  workerId := some workerId
  outcome := none

/-- The answer to a claim. -/
def jobClaim (payload : Value) (attemptId workerId : String) (attemptNumber nowMs : Nat) :
    JobClaim where
  job :=
    { id := job.id
      kind := job.kind
      payload
      payloadDigest := job.payloadDigest
      status := .running
      createdAtMs := job.createdAtMs
      claimedAtMs := some nowMs
      completedAtMs := none
      attemptCount := attemptNumber
      nextRetryAtMs := none
      lastError := none
      result := none
      workerId := some workerId }
  attemptId := attemptId
  attemptNumber := attemptNumber
  lineage := attemptLineage job.id attemptNumber
  claimedBy := workerId

/-- Write the claim of `job`: the job and its new attempt. -/
def claimJobTx (payload : Value) (attemptId workerId : String) (attemptNumber now nowMs : Nat) :
    Result (Option JobClaim × Store) := do
  let claimed := fun j : JobRow => j.id == job.id && j.status == .queued
  if s.jobs.countP claimed ≠ 1 then
    return (none, s)
  let s := { s with jobs := updateWhere claimed (·.claim now workerId attemptNumber) s.jobs }
  let s ← insertAttemptRow s (claimedAttempt attemptId job.id attemptNumber now workerId)
  let s ← insertAuditTx s "job_claimed" s!"{job.id}:{attemptId}" nowMs
  return (some (jobClaim job payload attemptId workerId attemptNumber nowMs), s)

/-- The queued jobs whose retry time has come. -/
def readyJobs : List JobRow :=
  s.jobs.filter fun j => j.status == .queued && j.nextRetryAtMs.any (· ≤ now)

def claimNextJobTx (nowMs : Nat) (attemptId : UuidV4) : Result (Option JobClaim × Store) := do
  validateName workerId "worker id" 128
  let readLimit ← payloadReadLimit s
  let desired ← s.desiredMode
  if desired ≠ .running then
    return (none, s)
  -- a running or unknown attempt reserves the deployment, whichever worker asks
  if s.attempts.any (·.status.unresolved) then
    return (none, s)
  let now ← sqliteTimestamp nowMs
  match leastBy JobRow.claimedBefore (readyJobs s now) with
  | none => return (none, s)
  | some job =>
    validateName job.id "job id" 128
    validateName job.kind "job kind" 128
    let payload ← validateClaimPayload crates (substr job.payload readLimit) job.payloadDigest
      s.maxPayloadBytes
    let nextAttempt ← nextAttemptNumber job.attemptCount
    claimJobTx s job payload attemptId.text workerId nextAttempt now nowMs

/-- Atomically claim the oldest ready job for a new attempt. -/
def Store.claimNextJob (nowMs : Nat) (attemptId : UuidV4) : Result (Option JobClaim) × Store :=
  commit s (claimNextJobTx crates s workerId nowMs attemptId)

/-! ### Completion -/

/-- The columns of an attempt that its end writes. -/
def AttemptRow.finish (a : AttemptRow) (status : AttemptStatus) (now : Nat) (outcome : String) :
    AttemptRow :=
  { a with status, finishedAtMs := some now, outcome := some outcome }

/-- The columns of a job that its completion writes. -/
def JobRow.complete (result digest : String) : JobRow :=
  { j with
    status := .completed
    completedAtMs := some now
    result := some result
    completionDigest := some digest
    lastError := none }

/-- Update attempts, which must change exactly one row. -/
def updateAttemptsTx (selected : AttemptRow → Bool) (f : AttemptRow → AttemptRow)
    (message : String) : Result Store := do
  ensure (s.attempts.countP selected = 1) (.conflict message)
  return { s with attempts := updateWhere selected f s.attempts }

/-- Update jobs, which must change exactly one row. -/
def updateJobsTx (selected : JobRow → Bool) (f : JobRow → JobRow) (message : String) :
    Result Store := do
  ensure (s.jobs.countP selected = 1) (.conflict message)
  return { s with jobs := updateWhere selected f s.jobs }

theorem updateAttemptsTx_eq_ok {s s' : Store} {selected : AttemptRow → Bool}
    {f : AttemptRow → AttemptRow} {message : String} :
    updateAttemptsTx s selected f message = .ok s' ↔
      s.attempts.countP selected = 1 ∧
        { s with attempts := updateWhere selected f s.attempts } = s' := by
  rw [updateAttemptsTx, ensure_bind_eq_ok, pure_eq_ok]

theorem updateJobsTx_eq_ok {s s' : Store} {selected : JobRow → Bool} {f : JobRow → JobRow}
    {message : String} :
    updateJobsTx s selected f message = .ok s' ↔
      s.jobs.countP selected = 1 ∧ { s with jobs := updateWhere selected f s.jobs } = s' := by
  rw [updateJobsTx, ensure_bind_eq_ok, pure_eq_ok]

/-- The answer to a completion of a job that is completed already. -/
def completedReplay (attemptId digest : String) : Result Completion := do
  let completedAttempts :=
    s.attempts.filter fun a => a.jobId == job.id && a.status == .completed
  let latest := leastBy (fun a a' : AttemptRow => a.sequence > a'.sequence) completedAttempts
  ensure (latest.map AttemptRow.id = some attemptId)
    (.conflict "completion attempt does not match the durable completed attempt")
  ensure (job.completionDigest = some digest)
    (.conflict "job is completed with a different result")
  let parsed ← job.result.mapM fun text =>
    orError (crates.fromStr text) (.json "stored result is not valid JSON")
  return { jobId := job.id, attemptId, result := parsed.getD .null, alreadyCompleted := true }

def completeJobTx (jobId attemptId : String) (result : Value) (nowMs : Nat) :
    Result (Completion × Store) := do
  let encoded := result.render
  ensure (encoded.utf8ByteSize ≤ maxResultBytes)
    (.invalidInput s!"job result exceeds {maxResultBytes} bytes")
  let digest := hexDigest crates encoded
  let job ← orError (lookup JobRow.id jobId s.jobs) (.notFound s!"job {jobId}")
  if job.status = .completed then
    let answer ← completedReplay crates s job attemptId digest
    return (answer, s)
  ensure (job.status = .running) (.conflict s!"job is {job.status.asStr}, not running")
  let attempt := s.attempts.find? fun a => a.id == attemptId && a.jobId == jobId
  ensure (attempt.map AttemptRow.status = some .running)
    (.conflict "attempt is not the active running claim")
  let now ← sqliteTimestamp nowMs
  let s ← updateAttemptsTx s
    (fun a => a.id == attemptId && a.jobId == jobId && a.status == .running)
    (·.finish .completed now encoded) "attempt completion changed concurrently"
  let s ← updateJobsTx s (fun j => j.id == jobId && j.status == .running)
    (·.complete now encoded digest) "job completion changed concurrently"
  let s ← insertAuditTx s "job_completed" s!"{jobId}:{attemptId}" nowMs
  return ({ jobId, attemptId, result, alreadyCompleted := false }, s)

/-- Atomically persist the completion of an attempt and of its job; a repeated completion with
the same result is acknowledged without a change. -/
def Store.completeJobAt (jobId attemptId : String) (result : Value) (nowMs : Nat) :
    Result Completion × Store :=
  commit s (completeJobTx crates s jobId attemptId result nowMs)

/-! ### Interruption -/

/-- The columns of a job that its interruption writes. -/
def JobRow.interrupt : JobRow :=
  { j with status := .quarantined, lastError := some "daemon interrupted; outcome unknown" }

/-- Quarantine one interrupted job: its running attempt becomes `unknown`. -/
def quarantineInterruptedJobTx (jobId : String) (nowMs : Nat) : Result Store := do
  let now ← sqliteTimestamp nowMs
  let s ← updateAttemptsTx s (fun a => a.jobId == jobId && a.status == .running)
    (·.finish .unknown now "daemon_interrupted") "interrupted attempt changed concurrently"
  let s ← updateJobsTx s (fun j => j.id == jobId && j.status == .running) JobRow.interrupt
    "interrupted job changed concurrently"
  insertAuditTx s "job_quarantined_after_interruption" jobId nowMs

/-- The loop over the interrupted jobs. -/
def quarantineInterruptedJobsTx (s : Store) (nowMs : Nat) : List String → Result Store
  | [] => .ok s
  | jobId :: ids => do
    let s ← quarantineInterruptedJobTx s jobId nowMs
    quarantineInterruptedJobsTx s nowMs ids

/-- The jobs a new daemon finds running. -/
def Store.runningJobIds : List String :=
  (s.jobs.filter (·.status == .running)).map JobRow.id

/-- Mark every interrupted running claim as unknown and quarantine its job. -/
def Store.quarantineInterruptedJobs (nowMs : Nat) : Result Nat × Store :=
  commit s do
    let s' ← quarantineInterruptedJobsTx s nowMs s.runningJobIds
    return (s.runningJobIds.length, s')

/-! ### Failure -/

/-- The columns of a job that a known failure writes. -/
def JobRow.fail (target : JobStatus) (retryAt : Option Nat) (error : String) : JobRow :=
  { j with
    status := target
    nextRetryAtMs := retryAt
    lastError := some error
    workerId := none }

/-- The `Debug` form of the status in the audit record of a failure. -/
def JobStatus.debug : JobStatus → String
  | .queued => "Queued"
  | .running => "Running"
  | .completed => "Completed"
  | .failed => "Failed"
  | .quarantined => "Quarantined"

/-- A failed job is queued again when a retry time is given and quarantined otherwise. -/
def failureTarget (retryAtMs : Option Nat) : JobStatus :=
  if retryAtMs.isSome then .queued else .quarantined

def failJobTx (jobId attemptId error : String) (retryAtMs : Option Nat) (nowMs : Nat) :
    Result (JobStatus × Store) := do
  validateDetail error "job error"
  let job ← orError (lookup JobRow.id jobId s.jobs) (.notFound s!"job {jobId}")
  ensure (job.status = .running) (.conflict s!"job is {job.status.asStr}, not running")
  let attempt := s.attempts.find? fun a => a.id == attemptId && a.jobId == jobId
  ensure (attempt.map AttemptRow.status = some .running) (.conflict "attempt is not running")
  let target := failureTarget retryAtMs
  let now ← sqliteTimestamp nowMs
  let s ← updateAttemptsTx s (fun a => a.id == attemptId && a.status == .running)
    (·.finish .failed now error) "attempt failure changed concurrently"
  let retryAt ← retryAtMs.mapM sqliteTimestamp
  let s ← updateJobsTx s (fun j => j.id == jobId && j.status == .running)
    (·.fail target retryAt error) "job failure changed concurrently"
  let s ← insertAuditTx s "job_failed" s!"{jobId}:{target.debug}" nowMs
  return (target, s)

/-- Record a known failure, with a retry time or without one. -/
def Store.failJobAt (jobId attemptId error : String) (retryAtMs : Option Nat) (nowMs : Nat) :
    Result JobStatus × Store :=
  commit s (failJobTx s jobId attemptId error retryAtMs nowMs)

end AscensionWatchdog
