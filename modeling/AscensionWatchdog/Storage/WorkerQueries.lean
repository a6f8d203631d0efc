import AscensionWatchdog.Storage.Jobs
import AscensionWatchdog.Storage.WorkerValidation

/-!
# Loading a worker handoff

A handoff is read together with its job and its attempt, and the reader trusts none of the three
rows: it checks the columns of each, recomputes the digests, and compares them with one another
(`validateHandoffJob`). A row that fails any of these checks **cannot be loaded**, and every
transition of the handoff starts by loading it.

`terminalMaterial` is the text that the terminal digest binds: the tuple and the receipt, written
as one JSON object. `compactTerminalResult` is the text stored as the result of the job.
-/

namespace AscensionWatchdog

open Foundation Foundation.Json

/-- The terminal evidence that a worker sends. -/
structure WorkerTerminalReceipt where
  status : WorkerTerminalStatus
  checkpointSequence : Nat
  terminalRef : String
  resultDigest : String
  deriving DecidableEq, Repr

/-- The terminal evidence as it is kept: with the digest that an acknowledgment names. -/
structure WorkerTerminalRecord where
  status : WorkerTerminalStatus
  checkpointSequence : Nat
  terminalRef : String
  resultDigest : String
  terminalDigest : String
  deriving DecidableEq, Repr

/-- The part of a kept record that the worker sent. -/
def WorkerTerminalRecord.receipt (r : WorkerTerminalRecord) : WorkerTerminalReceipt where
  status := r.status
  checkpointSequence := r.checkpointSequence
  terminalRef := r.terminalRef
  resultDigest := r.resultDigest

/-- A loaded handoff: its row, its terminal record and its job. -/
structure WorkerHandoff where
  row : HandoffRow
  parameters : Value
  job : JobRecord
  terminal : Option WorkerTerminalRecord
  deriving DecidableEq, Repr

/-- States in which the receipt columns are present. -/
def WorkerHandoffState.isTerminal : WorkerHandoffState → Bool
  | .completed => true
  | .failed => true
  | .acknowledged => true
  | _ => false

def maxTerminalRefBytes : Nat :=
  1024

def maxWorkerResultBytes : Nat :=
  64 * 1024

def maxWorkerTextBytes : Nat :=
  128

/-! ### Terminal digest and compact result -/

variable (crates : Crates) (s : Store) (raw : RawHandoff) (tuple : WorkerHandoffTuple)
  (receipt : WorkerTerminalReceipt) (h : HandoffRow)

/-- The fields that the terminal digest binds, in the order in which they are written. -/
def terminalMaterial : Value :=
  Value.ofFields
    [("handoff_id", .string tuple.handoffId),
      ("deployment_id", .string tuple.deploymentId),
      ("job_id", .string tuple.jobId),
      ("attempt_id", .string tuple.attemptId),
      ("attempt_number", .ofNat tuple.attemptNumber),
      ("worker_owner_id", .string tuple.workerOwnerId),
      ("worker_profile_digest", .string tuple.workerProfileDigest),
      ("run_id", .string tuple.runId),
      ("episode_id", .string tuple.episodeId),
      ("trajectory_id", .string tuple.trajectoryId),
      ("payload_digest", .string tuple.payloadDigest),
      ("status", .string receipt.status.asStr),
      ("checkpoint_sequence", .ofNat receipt.checkpointSequence),
      ("terminal_ref", .string receipt.terminalRef),
      ("result_digest", .string receipt.resultDigest)]

def terminalDigest : String :=
  hexDigest crates (terminalMaterial tuple receipt).render

/-- The receipt as a JSON object, with its keys in order. -/
def compactTerminalValue : Value :=
  Value.ofFields
    [("checkpoint_sequence", .ofNat receipt.checkpointSequence),
      ("result_digest", .string receipt.resultDigest),
      ("status", .string receipt.status.asStr),
      ("terminal_ref", .string receipt.terminalRef)]

/-- The text stored as the result of the job, and its digest. -/
def compactTerminalResult : Result (String × String) := do
  let text := (compactTerminalValue receipt).render
  ensure (text.utf8ByteSize ≤ maxWorkerResultBytes)
    (.invalidInput s!"worker result exceeds {maxWorkerResultBytes} bytes")
  return (text, hexDigest crates text)

/-! ### The handoff row -/

/-- A nullable text column that the query bounds: longer text is read as `marker`. -/
def projectText (bound : Nat) (marker : Char) (value : Option String) : Option String :=
  value.map fun text =>
    if text.utf8ByteSize ≤ bound then text else String.ofList [marker]

/-- The checks on the identity columns of a handoff. -/
def validateHandoffIdentity : Result Value := do
  forEach (fun (value, field, bound) => requiredText value field bound)
    [(h.handoffId, "handoff id", 36), (h.deploymentId, "deployment id", 128),
      (h.jobId, "job id", 128), (h.attemptId, "attempt id", 36),
      (h.workerOwnerId, "worker owner id", 128),
      (h.workerProfileDigest, "worker profile digest", 64), (h.runId, "run id", 36),
      (h.episodeId, "episode id", 36), (h.trajectoryId, "trajectory id", 36),
      (h.payloadDigest, "payload digest", 64), (h.watchdogBootId, "watchdog boot id", 36),
      (h.workerBootId, "worker boot id", 36), (h.operation, "worker operation", 128)]
  ensure (h.operation = workerHandoffOperation)
    (.sqlite "worker handoff operation is not admitted")
  requiredText h.parameters "worker parameters" 65536
  ensure (h.parameters = "\x7b\x7d")
    (.sqlite "worker handoff parameters are not the canonical empty object")
  let parameters ← parseStored crates h.parameters
  ensure (parameters = emptyParameters) (.sqlite "worker handoff parameters are not empty")
  let _ ← sqliteU32 h.attemptNumber "worker attempt number"
  toSqliteError (validateTuple h.tuple)
  toSqliteError (validateUuid4 h.watchdogBootId "watchdog boot id")
  toSqliteError (validateUuid4 h.workerBootId "worker boot id")
  ensure (h.watchdogBootId ≠ h.workerBootId)
    (.sqlite "watchdog and worker boot identities must be distinct")
  toSqliteError (validateDigestValue h.workerProfileDigest "worker profile digest")
  toSqliteError (validateDigestValue h.payloadDigest "payload digest")
  ensure (isWireSequence h.modeSequence)
    (.sqlite "worker mode sequence exceeds the wire integer bound")
  return parameters

/-- The five receipt columns, which are present together or not at all. -/
def terminalFromRow : Result (Option WorkerTerminalRecord) :=
  match h.terminalStatus, projectText 1024 '\x01' h.terminalRef,
      projectText 64 '\x01' h.resultDigest, projectText 64 '\x01' h.terminalDigest,
      h.checkpointSequence with
  | none, none, none, none, none => return none
  | some status, some terminalRef, some resultDigest, some terminalDigest,
      some checkpointSequence => do
    ensure (checkpointSequence ≤ maxWorkerWireInteger)
      (.sqlite "worker checkpoint sequence exceeds the wire integer bound")
    toSqliteError (validateName terminalRef "terminal reference" maxTerminalRefBytes)
    toSqliteError (validateDigestValue resultDigest "worker result digest")
    toSqliteError (validateDigestValue terminalDigest "worker terminal digest")
    return some { status, checkpointSequence, terminalRef, resultDigest, terminalDigest }
  | _, _, _, _, _ => .error (.sqlite "worker handoff terminal receipt is partially persisted")

/-- Both times are recorded and the second precedes the first. -/
def outOfOrder (earlier later : Option Nat) : Bool :=
  match earlier, later with
  | some e, some l => l < e
  | _, _ => false

/-- The lifecycle columns that each state requires and excludes. -/
def lifecycleColumnsConsistent : Bool :=
  match h.state with
  | .prepared | .rejected =>
    !h.ackIntent && h.dispatchedAtMs.isNone && h.admittedAtMs.isNone &&
      h.terminalAtMs.isNone && h.acknowledgedAtMs.isNone
  | .mayHaveBeenDispatched =>
    !h.ackIntent && h.dispatchedAtMs.isSome && h.admittedAtMs.isNone &&
      h.terminalAtMs.isNone && h.acknowledgedAtMs.isNone
  | .admitted =>
    !h.ackIntent && h.dispatchedAtMs.isSome && h.admittedAtMs.isSome &&
      h.terminalAtMs.isNone && h.acknowledgedAtMs.isNone
  | .completed | .failed =>
    h.ackIntent && h.dispatchedAtMs.isSome && h.terminalAtMs.isSome &&
      h.acknowledgedAtMs.isNone
  | .acknowledged =>
    h.ackIntent && h.dispatchedAtMs.isSome && h.terminalAtMs.isSome &&
      h.acknowledgedAtMs.isSome

/-- The error for inconsistent lifecycle columns in a state. -/
def lifecycleError : WorkerHandoffState → String
  | .prepared | .rejected =>
    "worker handoff has lifecycle timestamps or acknowledgment intent before dispatch"
  | .mayHaveBeenDispatched => "worker handoff dispatch lifecycle columns are inconsistent"
  | .admitted => "worker handoff admission lifecycle columns are inconsistent"
  | .completed | .failed => "worker handoff terminal lifecycle columns are inconsistent"
  | .acknowledged => "worker handoff acknowledgment lifecycle columns are inconsistent"

/-- The state of a handoff agrees with the status of its receipt. -/
def stateMatchesReceipt (state : WorkerHandoffState) (status : WorkerTerminalStatus) : Bool :=
  match state, status with
  | .completed, .failed => false
  | .failed, .completed => false
  | _, _ => true

/-- The receipt columns against the digest and the compact result recomputed from them. -/
def validateReceiptEvidence (terminalResult : Option String) (record : WorkerTerminalRecord) :
    Result Unit := do
  ensure (record.terminalDigest = terminalDigest crates h.tuple record.receipt)
    (.sqlite "worker terminal digest does not match its exact tuple and receipt")
  let (expectedResult, _) ← toSqliteError (compactTerminalResult crates record.receipt)
  ensure (terminalResult = some expectedResult)
    (.sqlite "worker compact terminal result does not match its receipt")
  ensure (stateMatchesReceipt h.state record.status)
    (.sqlite "worker handoff state does not match terminal receipt status")

def validateTerminalProjection (terminal : Option WorkerTerminalRecord)
    (terminalResult : Option String) : Result Unit := do
  ensure (h.createdAtMs ≤ h.updatedAtMs)
    (.sqlite "worker handoff updated time precedes creation")
  forEach (fun (name, value) =>
      ensure (∀ t ∈ value, h.createdAtMs ≤ t ∧ t ≤ h.updatedAtMs)
        (.sqlite s!"worker handoff {name} time is outside its creation/update interval"))
    [("dispatched", h.dispatchedAtMs), ("admitted", h.admittedAtMs),
      ("terminal", h.terminalAtMs), ("acknowledged", h.acknowledgedAtMs)]
  ensure (h.state.isTerminal = terminal.isSome ∧ h.state.isTerminal = terminalResult.isSome)
    (.sqlite "worker handoff terminal state and receipt columns disagree")
  ensure (lifecycleColumnsConsistent h) (.sqlite (lifecycleError h.state))
  ensure (¬ outOfOrder h.dispatchedAtMs h.admittedAtMs)
    (.sqlite "worker handoff admission precedes dispatch")
  ensure (¬ outOfOrder h.admittedAtMs h.terminalAtMs)
    (.sqlite "worker handoff terminal time precedes admission")
  ensure (¬ outOfOrder h.dispatchedAtMs h.terminalAtMs)
    (.sqlite "worker handoff terminal time precedes dispatch")
  ensure (¬ outOfOrder h.terminalAtMs h.acknowledgedAtMs)
    (.sqlite "worker handoff acknowledgment precedes terminal commit")
  match terminal with
  | none => return ()
  | some record => validateReceiptEvidence crates h terminalResult record

/-- A decoded handoff row. -/
structure RawHandoff where
  row : HandoffRow
  parameters : Value
  terminal : Option WorkerTerminalRecord
  terminalResult : Option String
  deriving DecidableEq, Repr

def rawHandoffFromRow : Result RawHandoff := do
  let parameters ← validateHandoffIdentity crates h
  let terminal ← terminalFromRow h
  let terminalResult := projectText 65536 '\x01' h.terminalResult
  validateTerminalProjection crates h terminal terminalResult
  return { row := h, parameters, terminal, terminalResult }

/-! ### The job and attempt rows -/

/-- A stored result against its digest. -/
def validateStoredResult (resultText completionDigest : Option String) : Result Unit :=
  match resultText, completionDigest with
  | some text, some digest => do
    toSqliteError (validateDigestValue digest "job completion digest")
    ensure (hexDigest crates text = digest)
      (.sqlite "job result differs from its completion digest")
  | _, _ => return ()

/-- The columns of a job as the bounded query reads them. -/
def boundedJobFromRow (bound : Nat) (row : JobRow) : Result (JobRecord × Option String) := do
  forEach (fun (value, field, bound) => requiredText value field bound)
    [(row.id, "job id", 128), (row.kind, "job kind", 128), (row.payload, "job payload", bound),
      (row.payloadDigest, "job payload digest", 64)]
  toSqliteError (validateName row.id "job id" maxWorkerTextBytes)
  toSqliteError (validateName row.kind "job kind" maxWorkerTextBytes)
  toSqliteError (validateDigestValue row.payloadDigest "job payload digest")
  ensure (hexDigest crates row.payload = row.payloadDigest)
    (.sqlite "job payload differs from its admission digest")
  let payload ← parseStored crates row.payload
  let resultText := projectText 65536 '\x01' row.result
  let completionDigest := projectText 64 '\x01' row.completionDigest
  let lastError := projectText 16384 '\x00' row.lastError
  let workerId := projectText 128 '\x01' row.workerId
  ensure (∀ e ∈ lastError, containsNul e = false)
    (.sqlite "job last_error is oversized or malformed")
  workerId.forM fun w => toSqliteError (validateName w "job worker id" maxWorkerTextBytes)
  ensure (completionDigest.isSome = resultText.isSome)
    (.sqlite "job result and completion digest are partially persisted")
  let result ← resultText.mapM (parseStored crates)
  validateStoredResult crates resultText completionDigest
  ensure (¬ outOfOrder (some row.createdAtMs) row.claimedAtMs ∧
      ¬ outOfOrder (some row.createdAtMs) row.completedAtMs ∧
      ¬ outOfOrder row.claimedAtMs row.completedAtMs)
    (.sqlite "job phase timestamps are out of order")
  ensure (row.status = .queued ∨ row.nextRetryAtMs = none)
    (.sqlite "job retry timestamp is present outside the queued state")
  ensure (row.status = .running → row.claimedAtMs.isSome)
    (.sqlite "running job is missing its claim timestamp")
  ensure (row.status = .completed →
      row.claimedAtMs.isSome ∧ row.completedAtMs.isSome ∧ result.isSome)
    (.sqlite "completed job is missing claim, completion, or result evidence")
  let attemptCount ← sqliteU32 row.attemptCount "job attempt_count"
  return (
    { id := row.id
      kind := row.kind
      payload
      payloadDigest := row.payloadDigest
      status := row.status
      createdAtMs := row.createdAtMs
      claimedAtMs := row.claimedAtMs
      completedAtMs := row.completedAtMs
      attemptCount
      nextRetryAtMs := row.nextRetryAtMs
      lastError
      result
      workerId }, completionDigest)

def loadJobTx (jobId : String) : Result (Option (JobRecord × Option String)) := do
  ensure (s.maxPayloadBytes < 2 ^ 63) (.invalidInput "job payload bound exceeds SQLite range")
  (lookup JobRow.id jobId s.jobs).mapM (boundedJobFromRow crates s.maxPayloadBytes)

/-- The columns of an attempt as the bounded query reads them. -/
def rawAttemptFromRow (row : AttemptRow) : Result AttemptRow := do
  forEach (fun (value, field, bound) => requiredText value field bound)
    [(row.id, "attempt id", 128), (row.jobId, "attempt job id", 128),
      (row.lineage, "attempt lineage", 256)]
  let workerId := projectText 128 '\x01' row.workerId
  workerId.forM fun w => toSqliteError (validateName w "attempt worker id" maxWorkerTextBytes)
  let sequence ← sqliteU32 row.sequence "attempt sequence"
  ensure (containsNul row.lineage = false) (.sqlite "attempt lineage is malformed")
  ensure (¬ outOfOrder (some row.startedAtMs) row.finishedAtMs)
    (.sqlite "attempt finish time precedes its start")
  return { row with sequence, workerId }

def loadAttemptTx (attemptId : String) : Result (Option AttemptRow) :=
  (lookup AttemptRow.id attemptId s.attempts).mapM rawAttemptFromRow

/-! ### Consistency of the three rows -/

/-- What an unresolved handoff requires of its job and attempt. -/
def unresolvedPairConsistent (job : JobRecord) (attempt : AttemptRow)
    (completionDigest : Option String) : Prop :=
  (job.status = .running ∨ job.status = .quarantined) ∧ job.result = none ∧
    completionDigest = none ∧ (job.status = .running → attempt.status = .running) ∧
    (job.status = .quarantined → attempt.status = .unknown) ∧
    (job.status = .running → attempt.finishedAtMs = none) ∧
    job.workerId = some h.workerOwnerId

instance (h : HandoffRow) (job : JobRecord) (attempt : AttemptRow)
    (completionDigest : Option String) :
    Decidable (unresolvedPairConsistent h job attempt completionDigest) :=
  inferInstanceAs (Decidable (_ ∧ _ ∧ _ ∧ _ ∧ _ ∧ _ ∧ _))

/-- The stored compact result of a terminal handoff, parsed. -/
def expectedTerminalResult (label : String) : Result (String × Value) := do
  let text ← orError raw.terminalResult
    (.conflict s!"{label} worker handoff is missing result")
  let value ← orError (crates.fromStr text)
    (.conflict "worker compact result is invalid JSON")
  return (text, value)

def validateCompletedPair (job : JobRecord) (attempt : AttemptRow)
    (completionDigest : Option String) : Result Unit := do
  let (text, expected) ← expectedTerminalResult crates raw "completed"
  ensure (job.status = .completed ∧ attempt.status = .completed ∧
      attempt.finishedAtMs = raw.row.terminalAtMs ∧ job.result = some expected ∧
      job.completedAtMs = raw.row.terminalAtMs ∧ job.lastError = none ∧
      job.workerId = some raw.row.workerOwnerId)
    (.conflict "completed worker handoff does not match the completed job result")
  let digest ← orError completionDigest
    (.conflict "completed worker job is missing result digest")
  ensure (hexDigest crates text = digest)
    (.conflict "worker compact result hash differs from job")

def validateFailedPair (job : JobRecord) (attempt : AttemptRow) (completionDigest : Option String) :
    Result Unit := do
  let (text, expected) ← expectedTerminalResult crates raw "failed"
  ensure (job.status = .failed ∧ attempt.status = .failed ∧
      attempt.finishedAtMs = raw.row.terminalAtMs ∧ job.result = some expected ∧
      job.completedAtMs = none ∧ job.workerId = none ∧
      job.lastError = some ((raw.terminal.map WorkerTerminalRecord.terminalRef).getD "") ∧
      completionDigest.isSome)
    (.conflict "failed worker handoff does not match the failed job result")
  let digest ← orError completionDigest
    (.conflict "failed worker job is missing result digest")
  ensure (hexDigest crates text = digest)
    (.conflict "worker compact result hash differs from job")

/-- The job and the attempt against the outcome of the handoff. -/
def validateHandoffOutcome (job : JobRecord) (attempt : AttemptRow)
    (completionDigest : Option String) : Result Unit :=
  -- acknowledgment records delivery: the outcome is the one of the receipt
  match raw.row.state, raw.terminal.map WorkerTerminalRecord.status with
  | .prepared, _ | .mayHaveBeenDispatched, _ | .admitted, _ =>
    ensure (unresolvedPairConsistent raw.row job attempt completionDigest)
      (.conflict "non-terminal worker handoff references a non-running or completed job")
  | .completed, _ | .acknowledged, some .completed =>
    validateCompletedPair crates raw job attempt completionDigest
  | .failed, _ | .acknowledged, some .failed =>
    validateFailedPair crates raw job attempt completionDigest
  | .acknowledged, none =>
    .error (.conflict "acknowledged worker handoff is missing its terminal outcome")
  | .rejected, _ => return ()

def validateHandoffJob (job : JobRecord) (attempt : AttemptRow) (completionDigest : Option String) :
    Result Unit := do
  let h := raw.row
  ensure (attempt.id = h.attemptId ∧ attempt.jobId = h.jobId ∧
      attempt.sequence = h.attemptNumber ∧
      attempt.lineage = attemptLineage h.jobId h.attemptNumber ∧
      attempt.workerId = some h.workerOwnerId ∧ job.attemptCount = h.attemptNumber ∧
      job.claimedAtMs = some h.createdAtMs)
    (.conflict "worker handoff attempt or claim history differs from its durable tuple")
  ensure (attempt.startedAtMs = h.createdAtMs)
    (.conflict "worker handoff and attempt phase clocks differ")
  ensure (job.id = h.jobId ∧ job.kind = workerHandoffOperation ∧
      job.payloadDigest = h.payloadDigest ∧ job.payload = emptyParameters)
    (.conflict "worker handoff job identity or payload differs from durable tuple")
  validateHandoffOutcome crates raw job attempt completionDigest

/-! ### Loading -/

/-- The job of a decoded handoff, once the three rows are consistent. -/
def consistentJob : Result JobRecord := do
  let job? ← loadJobTx crates s raw.row.jobId
  let (job, completionDigest) ← orError job?
    (.conflict "worker handoff references a missing job")
  let attempt? ← loadAttemptTx s raw.row.attemptId
  let attempt ← orError attempt? (.conflict "worker handoff references a missing attempt")
  validateHandoffJob crates raw job attempt completionDigest
  return job

def handoffFromRaw : Result WorkerHandoff := do
  let job ← consistentJob crates s raw
  return { row := raw.row, parameters := raw.parameters, job, terminal := raw.terminal }

def loadHandoff (handoffId : String) : Result (Option WorkerHandoff) :=
  match lookup HandoffRow.handoffId handoffId s.handoffs with
  | none => return none
  | some row => do
    let raw ← rawHandoffFromRow crates row
    let handoff ← handoffFromRaw crates s raw
    return some handoff

/-- Read one handoff without mutating state. -/
def Store.workerHandoff (handoffId : String) : Result (Option WorkerHandoff) := do
  validateUuid4 handoffId "handoff id"
  loadHandoff crates s handoffId

/-- Read one handoff while rejecting any tuple mismatch. -/
def Store.lookupWorkerHandoff : Result (Option WorkerHandoff) := do
  validateTuple tuple
  match ← s.workerHandoff crates tuple.handoffId with
  | none => return none
  | some handoff =>
    ensure (handoff.row.tuple = tuple)
      (.conflict "worker handoff tuple does not match durable history")
    return some handoff

/-- The order in which handoffs are reconciled. -/
def HandoffRow.reconciledBefore (h h' : HandoffRow) : Bool :=
  h.createdAtMs < h'.createdAtMs ||
    (h.createdAtMs == h'.createdAtMs && h.handoffId < h'.handoffId)

/-- The oldest retained handoff that needs reconciliation or acknowledgment. -/
def Store.nextWorkerHandoffForReconciliation : Result (Option WorkerHandoff) := do
  let pending := s.handoffs.filter fun h => h.state != .acknowledged && h.state != .rejected
  match leastBy HandoffRow.reconciledBefore pending with
  | none => return none
  | some h =>
    ensure (h.handoffId.utf8ByteSize = 36) (.sqlite "pending worker handoff id is malformed")
    let handoff? ← s.workerHandoff crates h.handoffId
    let handoff ← orError handoff?
      (.conflict "pending worker handoff disappeared during lookup")
    return some handoff

/-- The handoff that a transition is asked for, with its rows checked. -/
def requireHandoffTx : Result RawHandoff :=
  match lookup HandoffRow.handoffId tuple.handoffId s.handoffs with
  | some row => do
    let raw ← rawHandoffFromRow crates row
    let _ ← consistentJob crates s raw
    return raw
  | none =>
    if s.handoffs.any fun h => h.jobId == tuple.jobId && h.attemptId == tuple.attemptId then
      .error (.conflict "worker attempt already has a different durable handoff tuple")
    else .error (.notFound s!"worker handoff {tuple.handoffId}")

def ensureTupleMatches : Result Unit :=
  ensure (raw.row.tuple = tuple)
    (.conflict "worker handoff tuple does not match durable history")

end AscensionWatchdog
