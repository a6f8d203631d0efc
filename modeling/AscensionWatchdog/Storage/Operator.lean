import AscensionWatchdog.Storage.WorkerCompletion

/-!
# The operator ledger and its admissions

Every mutation that an operator asks for is admitted once, under an idempotency key: the effect,
the ledger row with the recorded response, and the audit record are one transaction. A later call
with the key is answered from the ledger and writes nothing.

The ledger is bounded and rows are never evicted. Ordinary commands may fill it up to 248 rows,
lifecycle commands up to 256, and `stop` has one more slot (`ledgerLimit`); the audit table has
the same three levels.

The admissions share three steps, which are stated once here: `replayReceipt` compares a call
with the row of its key, `ensureFreshRequest` looks for its request id, and
`recordOperatorCommandTx` writes the ledger row and the audit record. They differ in the checks
around them and in what else they write.
-/

namespace AscensionWatchdog

open Foundation Foundation.Json

def maxOperatorCommands : Nat :=
  256

def reservedStopCommands : Nat :=
  1

def reservedLifecycleCommands : Nat :=
  8

def maxOperatorResponseBytes : Nat :=
  8 * 1024

/-! ### Commands and contexts -/

def OperatorCapability.asStr : OperatorCapability → String
  | .read => "read"
  | .admin => "admin"

def OperatorCommand.asStr : OperatorCommand → String
  | .status => "status"
  | .jobs => "jobs"
  | .attempt => "attempt"
  | .releaseInspect => "release_inspect"
  | .start => "start"
  | .pause => "pause"
  | .resume => "resume"
  | .drain => "drain"
  | .stop => "stop"
  | .quarantine => "quarantine"
  | .retry => "retry"
  | .reconcile => "reconcile"
  | .backup => "backup"
  | .restore => "restore"
  | .releaseActivate => "release_activate"
  | .jobSubmit => "job_submit"

def OperatorCommand.isReadOnly : OperatorCommand → Bool
  | .status | .jobs | .attempt | .releaseInspect => true
  | _ => false

/-- The desired mode that a lifecycle command sets. -/
def OperatorCommand.desiredMode : OperatorCommand → Option DesiredMode
  | .start | .resume => some .running
  | .pause => some .paused
  | .drain => some .draining
  | .stop => some .stopped
  | _ => none

variable (crates : Crates) (s : Store) (context : OperatorCommandContext) (attemptId : String)
  (command : OperatorCommand) (response : Value)

def OperatorCommand.isLifecycle : Bool :=
  command.desiredMode.isSome

/-- The authenticated context of a command. -/
structure OperatorCommandContext where
  requestId : String
  idempotencyKey : String
  principal : String
  capability : OperatorCapability
  commandFingerprint : String
  deriving DecidableEq, Repr

/-- The receipt of an admitted mutation. -/
structure OperatorCommandReceipt where
  sequence : Nat
  requestId : String
  idempotencyKey : String
  principal : String
  capability : OperatorCapability
  command : OperatorCommand
  commandFingerprint : String
  desiredMode : Option DesiredMode
  response : Value
  recordedAtMs : Nat
  replayed : Bool
  deriving DecidableEq, Repr

inductive OperatorCommandOutcome where
  | readOnly
  | accepted (receipt : OperatorCommandReceipt)
  | replayed (receipt : OperatorCommandReceipt)
  deriving DecidableEq, Repr

/-- A UUID of version 4, in any of the forms that the parser accepts. -/
def isUuidV4 (value : String) : Bool :=
  match Uuid.parseStr value with
  | some digits => Uuid.versionNum digits == 4
  | none => false

def validateUuidV4 (value name : String) : Result Unit :=
  ensure (isUuidV4 value) (.invalidInput s!"{name} must be a UUIDv4")

def OperatorCommandContext.validate : Result Unit := do
  validateUuidV4 context.requestId "request id"
  validateName context.idempotencyKey "idempotency key" 128
  validateName context.principal "operator principal" 128
  (validateDigest context.commandFingerprint).mapError .invalidInput

/-! ### Decoding ledger rows -/

def operatorReceiptFromRow (row : OperatorCommandRow) : Result OperatorCommandReceipt := do
  toSqliteError (validateUuidV4 row.requestId "operator request id")
  toSqliteError (validateName row.idempotencyKey "operator idempotency key" 128)
  toSqliteError (validateName row.principal "operator principal" 128)
  ensure (row.capability = .admin)
    (.sqlite "operator ledger contains a non-mutating capability")
  ensure (¬ row.command.isReadOnly) (.sqlite "operator ledger contains a read-only command")
  ensure (row.responseJson.utf8ByteSize ≤ maxOperatorResponseBytes)
    (.sqlite "operator response exceeds its persisted bound")
  (validateDigest row.commandFingerprint).mapError .sqlite
  ensure (row.desiredMode = row.command.desiredMode)
    (.sqlite "operator ledger desired mode does not match its command")
  let response ← parseStored crates row.responseJson
  ensure (response ≠ .null) (.sqlite "operator response must not be null")
  ensure (row.sequence ≠ 0) (.sqlite "operator command sequence must be positive")
  return {
    sequence := row.sequence
    requestId := row.requestId
    idempotencyKey := row.idempotencyKey
    principal := row.principal
    capability := row.capability
    command := row.command
    commandFingerprint := row.commandFingerprint
    desiredMode := row.desiredMode
    response
    recordedAtMs := row.recordedAtMs
    replayed := false }

def findOperatorByKey (key : String) : Result (Option OperatorCommandReceipt) :=
  (lookup OperatorCommandRow.idempotencyKey key s.operatorCommands).mapM
    (operatorReceiptFromRow crates)

def findOperatorByRequest (requestId : String) : Result (Option OperatorCommandReceipt) :=
  (lookup OperatorCommandRow.requestId requestId s.operatorCommands).mapM
    (operatorReceiptFromRow crates)

/-! ### Steps shared by the admissions -/

/-- Compare a call with the receipt of its key: the receipt marked as replayed, or the error. -/
def replayReceipt (existing : OperatorCommandReceipt) (context : OperatorCommandContext)
    (command : OperatorCommand) : Result OperatorCommandReceipt := do
  ensure (existing.principal = context.principal ∧ existing.capability = context.capability)
    (.unauthorized "idempotency key belongs to another operator context")
  ensure (existing.commandFingerprint = context.commandFingerprint ∧
      existing.command = command)
    (.conflict "idempotency key was reused with a different command fingerprint")
  return { existing with replayed := true }

def ensureFreshRequest (requestId : String) : Result Unit := do
  let existing? ← findOperatorByRequest crates s requestId
  match existing? with
  | none => return ()
  | some existing =>
    .error (.conflict s!"request id already belongs to idempotency key {existing.idempotencyKey}")

/-- The retention bound that applies to a command. -/
def ledgerLimit : Nat :=
  if command = .stop then maxOperatorCommands + reservedStopCommands
  else if command.isLifecycle then maxOperatorCommands
  else maxOperatorCommands - reservedLifecycleCommands

def enforceLedgerCapacity : Result Unit :=
  ensure (s.operatorCommands.length < ledgerLimit command)
    (.busy "operator command ledger retention bound is full")

def validateResponse : Result Unit := do
  ensure (response ≠ .null) (.invalidInput "operator response must not be null")
  ensure (response.render.utf8ByteSize ≤ maxOperatorResponseBytes)
    (.invalidInput s!"operator response exceeds {maxOperatorResponseBytes} bytes")
  ensure (containsNul response.render = false)
    (.invalidInput "operator response contains NUL")

/-- The next value of the `AUTOINCREMENT` sequence column. -/
def nextOperatorSequence : Nat :=
  (s.operatorCommands.map OperatorCommandRow.sequence).foldr max 0 + 1

/-- Insert a ledger row under the constraints of the table. -/
def insertOperatorRow (row : OperatorCommandRow) : Result Store := do
  ensure (¬ s.operatorCommands.any (·.requestId == row.requestId))
    (.sqlite "UNIQUE constraint failed: operator_commands.request_id")
  ensure (¬ s.operatorCommands.any (·.idempotencyKey == row.idempotencyKey))
    (.sqlite "UNIQUE constraint failed: operator_commands.idempotency_key")
  return { s with operatorCommands := s.operatorCommands ++ [row] }

/-- The audit detail of an admission. -/
def admissionDetail (sequence : Nat) : String :=
  s!"sequence={sequence};request_id={context.requestId};key={context.idempotencyKey};" ++
    s!"principal={context.principal};capability={context.capability.asStr};" ++
    s!"command={command.asStr};fingerprint={context.commandFingerprint}"

/-- The ledger row of an admission. -/
def operatorRow (sequence now : Nat) : OperatorCommandRow where
  sequence := sequence
  requestId := context.requestId
  idempotencyKey := context.idempotencyKey
  principal := context.principal
  capability := context.capability
  command := command
  commandFingerprint := context.commandFingerprint
  desiredMode := command.desiredMode
  responseJson := response.render
  recordedAtMs := now

/-- The receipt of an admission. -/
def operatorReceipt (sequence nowMs : Nat) : OperatorCommandReceipt where
  sequence := sequence
  requestId := context.requestId
  idempotencyKey := context.idempotencyKey
  principal := context.principal
  capability := context.capability
  command := command
  commandFingerprint := context.commandFingerprint
  desiredMode := command.desiredMode
  response := response
  recordedAtMs := nowMs
  replayed := false

/-- Write the ledger row and the audit record of an admission. -/
def recordOperatorCommandTx (auditAction detailSuffix : String) (nowMs : Nat) :
    Result (OperatorCommandOutcome × Store) := do
  let now ← sqliteTimestamp nowMs
  let sequence := nextOperatorSequence s
  let s ← insertOperatorRow s (operatorRow context command response sequence now)
  let s ← insertAuditTx s auditAction (admissionDetail context command sequence ++ detailSuffix)
    nowMs
  return (.accepted (operatorReceipt context command response sequence nowMs), s)

/-- What an admission writes. -/
theorem recordOperatorCommandTx_eq_ok {s s' : Store} {context : OperatorCommandContext}
    {command : OperatorCommand} {response : Value} {auditAction suffix : String} {nowMs : Nat}
    {outcome : OperatorCommandOutcome}
    (h : recordOperatorCommandTx s context command response auditAction suffix nowMs =
      .ok (outcome, s')) :
    (∀ r ∈ s.operatorCommands, r.requestId ≠ context.requestId) ∧
      (∀ r ∈ s.operatorCommands, r.idempotencyKey ≠ context.idempotencyKey) ∧
      s.audit.length < auditLimit auditAction ∧
      outcome = .accepted
        (operatorReceipt context command response (nextOperatorSequence s) nowMs) ∧
      ∃ detail, s' = { s with
        operatorCommands := s.operatorCommands ++
          [operatorRow context command response (nextOperatorSequence s) nowMs]
        audit := s.audit ++ [⟨auditAction, detail, nowMs⟩] } := by
  replace h := bind_only sqliteTimestamp_eq_ok h
  obtain ⟨s₁, hs₁, h⟩ := bind_eq_ok.mp h
  obtain ⟨hrequest, hs₁⟩ := ensure_bind_eq_ok.mp hs₁
  obtain ⟨hkey, hs₁⟩ := ensure_bind_eq_ok.mp hs₁
  cases pure_eq_ok.mp hs₁
  obtain ⟨-, -, hlimit, -, h⟩ := insertAuditTx_bind.mp h
  cases pure_eq_ok.mp h
  exact ⟨by simpa [operatorRow] using hrequest, by simpa [operatorRow] using hkey, hlimit, rfl, _,
    rfl⟩

/-! ### Commands -/

def admitOperatorRead : Result Unit := do
  context.validate
  ensure command.isReadOnly
    (.invalidInput "operator read admission requires a read-only command")

/-- The audit action of an admitted command. -/
def acceptedAction : String :=
  if command = .stop then "operator_command_stop_accepted" else "operator_command_accepted"

/-- Write the mode that a lifecycle command sets. -/
def applyDesiredModeTx (desiredMode : Option DesiredMode) (nowMs : Nat) : Result Store :=
  match desiredMode with
  | none => return s
  | some mode => do
    let s ← updateMetadataTx s .desiredMode (modeAsStr mode)
    updateMetadataTx s .updatedAtMs (toString nowMs)

def admitOperatorCommandTx (nowMs : Nat) : Result (OperatorCommandOutcome × Store) := do
  context.validate
  if command.isReadOnly then
    admitOperatorRead context command
    return (.readOnly, s)
  ensure (context.capability = .admin)
    (.unauthorized "read capability cannot admit a mutating operator command")
  match ← findOperatorByKey crates s context.idempotencyKey with
  | some existing =>
    let receipt ← replayReceipt existing context command
    return (.replayed receipt, s)
  | none =>
    ensureFreshRequest crates s context.requestId
    enforceLedgerCapacity s command
    validateResponse response
    let s ← applyDesiredModeTx s command.desiredMode nowMs
    recordOperatorCommandTx s context command response (acceptedAction command) "" nowMs

/-- Admit one operator command under the singleton owner. -/
def Store.admitOperatorCommand (nowMs : Nat) : Result OperatorCommandOutcome × Store :=
  commit s (admitOperatorCommandTx crates s context command response nowMs)

/-! ### Job submission -/

def jobIdFromResponse : Result String := do
  let jobId ← orError
    ((((response.get? "value").bind fun value => value.get? "job_id")).bind Value.asStr?)
    (.conflict "job submission receipt has no job id")
  validateName jobId "job id" 128
  return jobId

/-- The response recorded for a submitted job. -/
def jobSubmittedResponse (jobId : String) : Value :=
  Value.ofFields
    [("kind", .string "JobSubmitted"),
      ("value", Value.ofFields [("job_id", .string jobId)])]

/-- A replayed submission must ask for the recorded job: same kind and same payload. -/
def replayedSubmission (existing : OperatorCommandReceipt) (kind payloadDigest : String) :
    Result Unit := do
  let jobId ← jobIdFromResponse existing.response
  let job ← orError (lookup JobRow.id jobId s.jobs)
    (.conflict "job submission receipt has no durable job row")
  ensure (job.kind = kind ∧ job.payloadDigest = payloadDigest)
    (.conflict "idempotency key was reused with a different job payload")

def admitOperatorJobSubmissionTx (kind : String) (payload : Value) (nowMs : Nat) (jobId : UuidV4) :
    Result (OperatorCommandOutcome × Store) := do
  context.validate
  ensure (context.capability = .admin)
    (.unauthorized "read capability cannot admit a job submission")
  validateName kind "job kind" 128
  let encoded := payload.render
  ensure (encoded.utf8ByteSize ≤ s.maxPayloadBytes)
    (.invalidInput s!"job payload exceeds {s.maxPayloadBytes} bytes")
  let payloadDigest := hexDigest crates encoded
  match ← findOperatorByKey crates s context.idempotencyKey with
  | some existing =>
    let receipt ← replayReceipt existing context .jobSubmit
    replayedSubmission s existing kind payloadDigest
    return (.replayed receipt, s)
  | none =>
    ensureFreshRequest crates s context.requestId
    enforceLedgerCapacity s .jobSubmit
    let response := jobSubmittedResponse jobId.text
    validateResponse response
    let s ← insertJobTx s jobId.text kind encoded payloadDigest s.maxJobs nowMs
    recordOperatorCommandTx s context .jobSubmit response "operator_command_accepted" "" nowMs

/-- Admit one job submission: the job, the receipt and both audit records together. -/
def Store.admitOperatorJobSubmission (kind : String) (payload : Value) (nowMs : Nat)
    (jobId : UuidV4) : Result OperatorCommandOutcome × Store :=
  commit s (admitOperatorJobSubmissionTx crates s context kind payload nowMs jobId)

/-! ### Quarantine of an attempt -/

def maxQuarantineReasonBytes : Nat :=
  512

/-- An attempt with the job it belongs to. -/
def attemptWithJob : Option (AttemptRow × JobRow) :=
  (lookup AttemptRow.id attemptId s.attempts).bind fun a =>
    (lookup JobRow.id a.jobId s.jobs).map fun j => (a, j)

/-- The order of the latest attempt: largest sequence, then largest id. -/
def AttemptRow.laterThan (a a' : AttemptRow) : Bool :=
  a'.sequence < a.sequence || (a.sequence == a'.sequence && a'.id < a.id)

/-- The id of the latest attempt of a job. -/
def latestAttemptId (jobId : String) : Option String :=
  (leastBy AttemptRow.laterThan (s.attempts.filter (·.jobId == jobId))).map AttemptRow.id

/-- The columns of a job that an operator quarantine writes. -/
def JobRow.quarantine (j : JobRow) (reason : String) : JobRow :=
  { j with status := .quarantined, nextRetryAtMs := none, lastError := some reason }

/-- A running attempt becomes `unknown`; a failed one is left as it is. -/
def abandonAttemptTx (attempt : AttemptRow) (reason : String) (now : Nat) : Result Store :=
  if attempt.status = .running then
    updateAttemptsTx s (fun a => a.id == attempt.id && a.status == .running)
      (·.finish .unknown now s!"operator_quarantine:{reason}")
      "attempt changed before quarantine admission"
  else return s

/-- Write an operator quarantine: a running attempt becomes `unknown`, the job leaves the
scheduler. -/
def quarantineAttemptTx (attempt : AttemptRow) (reason : String) (nowMs : Nat) : Result Store := do
  let now ← sqliteTimestamp nowMs
  let s ← abandonAttemptTx s attempt reason now
  let s ← updateJobsTx s
    (fun j => j.id == attempt.jobId && (j.status == .running || j.status == .failed))
    (·.quarantine reason) "job changed before quarantine admission"
  insertAuditTx s "attempt_quarantined"
    s!"attempt_id={attempt.id};job_id={attempt.jobId};reason={reason}" nowMs

/-- The checks of an operator quarantine on the attempt and its job. -/
def quarantinableAttempt : Result AttemptRow := do
  let (attempt, job) ← orError (attemptWithJob s attemptId) (.notFound s!"attempt {attemptId}")
  ensure (attempt.status ≠ .completed ∧ job.status ≠ .completed)
    (.conflict "completed attempt cannot be quarantined")
  ensure (job.status ≠ .quarantined) (.conflict "attempt job is already quarantined")
  let latest ← orError (latestAttemptId s attempt.jobId) (.sqlite "Query returned no rows")
  ensure (latest = attemptId)
    (.conflict "attempt is not the latest durable attempt for its job")
  ensure (job.status = .running ∨ job.status = .failed)
    (.conflict s!"attempt job is {job.status.asStr}, not eligible for quarantine")
  return attempt

def admitOperatorQuarantineTx (attemptId reason : String) (response : Value) (nowMs : Nat) :
    Result (OperatorCommandOutcome × Store) := do
  context.validate
  ensure (context.capability = .admin)
    (.unauthorized "read capability cannot admit attempt quarantine")
  validateName attemptId "attempt id" 128
  validateName reason "quarantine reason" maxQuarantineReasonBytes
  match ← findOperatorByKey crates s context.idempotencyKey with
  | some existing =>
    let receipt ← replayReceipt existing context .quarantine
    return (.replayed receipt, s)
  | none =>
    ensureFreshRequest crates s context.requestId
    enforceLedgerCapacity s .quarantine
    validateResponse response
    let attempt ← quarantinableAttempt s attemptId
    let s ← quarantineAttemptTx s attempt reason nowMs
    recordOperatorCommandTx s context .quarantine response "operator_command_accepted" "" nowMs

/-- Quarantine one attempt and admit its receipt. -/
def Store.admitOperatorQuarantine (attemptId reason : String) (response : Value) (nowMs : Nat) :
    Result OperatorCommandOutcome × Store :=
  commit s (admitOperatorQuarantineTx crates s context attemptId reason response nowMs)

/-! ### Retry of a known failure -/

/-- The columns of a job that a retry writes. -/
def JobRow.requeue (j : JobRow) (now : Nat) : JobRow :=
  { j with status := .queued, nextRetryAtMs := some now, workerId := none }

/-- The checks of a retry: the latest attempt is a known failure without a terminal result, and
no worker handoff belongs to the job or to the attempt. -/
def retryableAttempt : Result AttemptRow := do
  let (attempt, job) ← orError (attemptWithJob s attemptId) (.notFound s!"attempt {attemptId}")
  let latest ← orError (latestAttemptId s attempt.jobId) (.sqlite "Query returned no rows")
  ensure (latest = attemptId)
    (.conflict "attempt is not the latest durable attempt for its job")
  ensure (attempt.status ≠ .unknown)
    (.conflict "unknown attempt requires authorized reconciliation or reconstruction")
  ensure (attempt.status = .failed ∧ (job.status = .failed ∨ job.status = .quarantined))
    (.conflict s!"only a known-failed latest attempt can be requeued: attempt={attempt.status.asStr}, job={job.status.asStr}")
  ensure (job.completedAtMs = none ∧ job.result = none ∧ job.completionDigest = none)
    (.conflict "terminal job result cannot be retried by watchdog")
  ensure (¬ s.handoffs.any fun h => h.jobId == attempt.jobId || h.attemptId == attemptId)
    (.conflict "worker handoff requires its own terminal reconciliation path")
  return attempt

/-- Write a retry: the job is queued and due at once. -/
def requeueAttemptTx (attempt : AttemptRow) (nowMs : Nat) : Result Store := do
  let now ← sqliteTimestamp nowMs
  let s ← updateJobsTx s
    (fun j => j.id == attempt.jobId && (j.status == .failed || j.status == .quarantined))
    (·.requeue now) "job changed before retry admission"
  insertAuditTx s "attempt_retry_queued" s!"attempt_id={attempt.id};job_id={attempt.jobId}"
    nowMs

def admitOperatorRetryTx (reconstruction : Bool) (response : Value) (nowMs : Nat) :
    Result (OperatorCommandOutcome × Store) := do
  context.validate
  ensure (context.capability = .admin)
    (.unauthorized "read capability cannot retry an attempt")
  validateName attemptId "attempt id" 128
  match ← findOperatorByKey crates s context.idempotencyKey with
  | some existing =>
    let receipt ← replayReceipt existing context .retry
    return (.replayed receipt, s)
  | none =>
    ensureFreshRequest crates s context.requestId
    ensure (reconstruction = false)
      (.unsupported "reconstruction retry requires the harness checkpoint adapter")
    validateResponse response
    enforceLedgerCapacity s .retry
    let attempt ← retryableAttempt s attemptId
    let s ← requeueAttemptTx s attempt nowMs
    recordOperatorCommandTx s context .retry response "operator_command_accepted" "" nowMs

/-- Requeue one latest known-failed attempt and admit its receipt. -/
def Store.admitOperatorRetry (reconstruction : Bool) (response : Value) (nowMs : Nat) :
    Result OperatorCommandOutcome × Store :=
  commit s (admitOperatorRetryTx crates s context attemptId reconstruction response nowMs)

end AscensionWatchdog
