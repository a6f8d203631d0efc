import Mathlib.Logic.Function.Basic
import AscensionWatchdog.Foundation.Table
import AscensionWatchdog.Storage.Values

/-!
# The tables of the watchdog store

The durable state of a deployment is one SQLite database. `Store` has its tables as lists of
rows in insertion order, its metadata as a map from the keys that the code uses to text, and the
two bounds of the configuration that the open store carries. Columns that the code only ever
writes from a closed set of texts are enumerations; `NULL` is `none`.

A **routine** of the store is a function `Store → Result (α × Store)`: it computes the answer
and the tables it would commit, or the error that rolls it back (`Foundation.commit`). This file
has the routines of the metadata table and of the bounded audit table, and the creation of a
fresh store.
-/

namespace AscensionWatchdog

open Foundation Foundation.Json

/-! ### Jobs and attempts -/

inductive JobStatus where
  | queued
  | running
  | completed
  | failed
  | quarantined
  deriving DecidableEq, Repr

def JobStatus.asStr : JobStatus → String
  | .queued => "queued"
  | .running => "running"
  | .completed => "completed"
  | .failed => "failed"
  | .quarantined => "quarantined"

inductive AttemptStatus where
  | running
  | completed
  | failed
  | unknown
  deriving DecidableEq, Repr

def AttemptStatus.asStr : AttemptStatus → String
  | .running => "running"
  | .completed => "completed"
  | .failed => "failed"
  | .unknown => "unknown"

/-- A row of `jobs`. -/
structure JobRow where
  id : String
  kind : String
  payload : String
  payloadDigest : String
  status : JobStatus
  createdAtMs : Nat
  claimedAtMs : Option Nat
  completedAtMs : Option Nat
  attemptCount : Nat
  nextRetryAtMs : Option Nat
  lastError : Option String
  result : Option String
  completionDigest : Option String
  workerId : Option String
  deriving DecidableEq, Repr

/-- A row of `attempts`. -/
structure AttemptRow where
  id : String
  jobId : String
  sequence : Nat
  lineage : String
  status : AttemptStatus
  startedAtMs : Nat
  finishedAtMs : Option Nat
  workerId : Option String
  outcome : Option String
  deriving DecidableEq, Repr

/-! ### Worker binding, control and handoffs -/

inductive WorkerHandoffState where
  | prepared
  | mayHaveBeenDispatched
  | admitted
  | completed
  | failed
  | acknowledged
  | rejected
  deriving DecidableEq, Repr

inductive WorkerTerminalStatus where
  | completed
  | failed
  deriving DecidableEq, Repr

def WorkerTerminalStatus.asStr : WorkerTerminalStatus → String
  | .completed => "completed"
  | .failed => "failed"

inductive WorkerControlMode where
  | running
  | paused
  | draining
  | stopped
  deriving DecidableEq, Repr

/-- The immutable identity of the configured worker: the row of `worker_bindings`. -/
structure WorkerBinding where
  deploymentId : String
  workerOwnerId : String
  workerProfileDigest : String
  releaseDigest : String
  configDigest : String
  schemaDigest : String
  deriving DecidableEq, Repr

/-- The control that the worker last acknowledged: the row of `worker_control`. -/
structure WorkerControlWitness where
  deploymentId : String
  workerOwnerId : String
  workerProfileDigest : String
  watchdogBootId : String
  workerBootId : String
  mode : WorkerControlMode
  modeSequence : Nat
  deriving DecidableEq, Repr

/-- A row of `worker_handoffs`. -/
structure HandoffRow where
  handoffId : String
  deploymentId : String
  jobId : String
  attemptId : String
  attemptNumber : Nat
  workerOwnerId : String
  workerProfileDigest : String
  runId : String
  episodeId : String
  trajectoryId : String
  payloadDigest : String
  watchdogBootId : String
  workerBootId : String
  modeSequence : Nat
  operation : String
  parameters : String
  state : WorkerHandoffState
  terminalStatus : Option WorkerTerminalStatus
  checkpointSequence : Option Nat
  terminalRef : Option String
  resultDigest : Option String
  terminalDigest : Option String
  terminalResult : Option String
  ackIntent : Bool
  createdAtMs : Nat
  updatedAtMs : Nat
  dispatchedAtMs : Option Nat
  admittedAtMs : Option Nat
  terminalAtMs : Option Nat
  acknowledgedAtMs : Option Nat
  deriving DecidableEq, Repr

/-! ### Operator ledger -/

inductive OperatorCapability where
  | read
  | admin
  deriving DecidableEq, Repr

inductive OperatorCommand where
  | status
  | jobs
  | attempt
  | releaseInspect
  | start
  | pause
  | resume
  | drain
  | stop
  | quarantine
  | retry
  | reconcile
  | backup
  | restore
  | releaseActivate
  | jobSubmit
  deriving DecidableEq, Repr

/-- A row of `operator_commands`. -/
structure OperatorCommandRow where
  sequence : Nat
  requestId : String
  idempotencyKey : String
  principal : String
  capability : OperatorCapability
  command : OperatorCommand
  commandFingerprint : String
  desiredMode : Option DesiredMode
  responseJson : String
  recordedAtMs : Nat
  deriving DecidableEq, Repr

/-! ### Components and launches -/

inductive ComponentState where
  | stopped
  | starting
  | running
  | suspect
  | backoff
  | paused
  | blocked
  | quarantined
  deriving DecidableEq, Repr

/-- A row of `components`. -/
structure ComponentRow where
  id : String
  state : ComponentState
  launchNonce : Option String
  pid : Option Nat
  executableDigest : Option String
  startedAtMs : Option Nat
  restartAttempts : Nat
  lastRestartAtMs : Option Nat
  lastError : Option String
  identityJson : Option String
  updatedAtMs : Nat
  deriving DecidableEq, Repr

inductive LaunchIntentState where
  | prepared
  | proofRecorded
  | active
  | cleaned
  deriving DecidableEq, Repr

/-- A row of `launch_intents`. -/
structure LaunchIntentRow where
  id : String
  deploymentId : String
  componentId : String
  launchNonce : String
  expectedIncarnation : Option String
  expectedLaunchSpecDigest : Option String
  plannedContainmentId : Option String
  state : LaunchIntentState
  ownershipProofJson : Option String
  createdAtMs : Nat
  updatedAtMs : Nat
  deriving DecidableEq, Repr

/-- A row of `restart_events`. -/
structure RestartEventRow where
  componentId : String
  occurredAtMs : Nat
  clockEpoch : String
  clockElapsedMs : Nat
  deriving DecidableEq, Repr

/-- A row of `worker_bootstrap_bindings` or of `gateway_health_bindings`. -/
structure BootstrapBindingRow where
  intentId : String
  watchdogBootId : String
  frameSha256 : String
  deriving DecidableEq, Repr

/-! ### Metadata and audit -/

/-- The keys of the metadata table. -/
inductive MetadataKey where
  | schemaVersion
  | deploymentId
  | desiredMode
  | restartGeneration
  | configDigest
  | configCompatDigest
  | operatorLedgerSchemaVersion
  | workerHandoffSchemaVersion
  | workerBootstrapSchema
  | gatewayHealthSchema
  | initializedAtMs
  | updatedAtMs
  | reconciliationSequence
  | lastReconciledAtMs
  | restoreSourceDeploymentId
  | releaseSelectionState
  | activeReleaseId
  | approvedReleaseDigest
  | previousReleaseId
  | previousReleaseDigest
  | pendingReleaseId
  | pendingReleaseDigest
  | pendingReleaseRollback
  | pendingReleaseRequestId
  | pendingReleaseIdempotencyKey
  | pendingReleasePreviousId
  | pendingReleasePreviousDigest
  deriving DecidableEq, Repr

/-- A row of `audit`. -/
structure AuditRow where
  action : String
  detail : String
  occurredAtMs : Nat
  deriving DecidableEq, Repr

/-- An open store: its tables and the bounds and clock epoch that the handle carries. -/
structure Store where
  maxJobs : Nat
  maxPayloadBytes : Nat
  restartClockEpoch : String
  metadata : MetadataKey → Option String
  audit : List AuditRow
  jobs : List JobRow
  attempts : List AttemptRow
  workerBinding : Option WorkerBinding
  workerControl : Option (WorkerControlWitness × Nat)
  handoffs : List HandoffRow
  operatorCommands : List OperatorCommandRow
  components : List ComponentRow
  launchIntents : List LaunchIntentRow
  restartEvents : List RestartEventRow
  workerBootstrapBindings : List BootstrapBindingRow
  gatewayHealthBindings : List BootstrapBindingRow

/-! ### Reading and writing metadata -/

/-- The text of a metadata key, as it appears in the table and in errors. -/
def MetadataKey.text : MetadataKey → String
  | .schemaVersion => "schema_version"
  | .deploymentId => "deployment_id"
  | .desiredMode => "desired_mode"
  | .restartGeneration => "restart_generation"
  | .configDigest => "config_digest"
  | .configCompatDigest => "config_compat_digest"
  | .operatorLedgerSchemaVersion => "operator_ledger_schema_version"
  | .workerHandoffSchemaVersion => "worker_handoff_schema_version"
  | .workerBootstrapSchema => "worker_bootstrap_schema"
  | .gatewayHealthSchema => "gateway_health_schema"
  | .initializedAtMs => "initialized_at_ms"
  | .updatedAtMs => "updated_at_ms"
  | .reconciliationSequence => "reconciliation_sequence"
  | .lastReconciledAtMs => "last_reconciled_at_ms"
  | .restoreSourceDeploymentId => "restore_source_deployment_id"
  | .releaseSelectionState => "release_selection_state"
  | .activeReleaseId => "active_release_id"
  | .approvedReleaseDigest => "approved_release_digest"
  | .previousReleaseId => "previous_release_id"
  | .previousReleaseDigest => "previous_release_digest"
  | .pendingReleaseId => "pending_release_id"
  | .pendingReleaseDigest => "pending_release_digest"
  | .pendingReleaseRollback => "pending_release_rollback"
  | .pendingReleaseRequestId => "pending_release_request_id"
  | .pendingReleaseIdempotencyKey => "pending_release_idempotency_key"
  | .pendingReleasePreviousId => "pending_release_previous_id"
  | .pendingReleasePreviousDigest => "pending_release_previous_digest"

def upsertMetadataTx (s : Store) (key : MetadataKey) (value : String) : Store :=
  { s with metadata := Function.update s.metadata key (some value) }

def updateMetadataTx (s : Store) (key : MetadataKey) (value : String) : Result Store := do
  ensure (s.metadata key).isSome (.conflict s!"metadata key {key.text} is missing")
  return upsertMetadataTx s key value

theorem updateMetadataTx_eq_ok {s s' : Store} {key : MetadataKey} {value : String} :
    updateMetadataTx s key value = .ok s' ↔
      (s.metadata key).isSome ∧ upsertMetadataTx s key value = s' := by
  rw [updateMetadataTx, ensure_bind_eq_ok, pure_eq_ok]

/-- Read-only desired intent. -/
def Store.desiredMode (s : Store) : Result DesiredMode := do
  let value ← orError (s.metadata .desiredMode) (.conflict "desired mode metadata is missing")
  parseMode value

/-- A decimal numeral without sign. -/
def parseDigits (cs : List Char) : Option Nat :=
  if cs.isEmpty || !cs.all Char.isDigit then none
  else some (cs.foldl (fun n c => 10 * n + (c.toNat - 48)) 0)

theorem parseDigits_toDigits (n : Nat) : parseDigits (Nat.toDigits 10 n) = some n := by
  have hall : (Nat.toDigits 10 n).all Char.isDigit = true := List.all_eq_true.mpr fun c hc =>
    Nat.isDigit_of_mem_toDigits (b := 10) (by decide) (by decide) hc
  have hne : (Nat.toDigits 10 n).isEmpty = false := by simp [Nat.toDigits_ne_nil]
  have hvalue := Nat.ofDigitChars_ten_toDigits (n := n)
  rw [Nat.ofDigitChars_eq_foldl] at hvalue
  rw [parseDigits, hall, hne]
  exact congrArg some hvalue

/-- A decimal numeral with an optional sign. -/
def parseSigned : List Char → Option Int
  | '-' :: cs => (parseDigits cs).map fun n => -(n : Int)
  | '+' :: cs => (parseDigits cs).map fun n => (n : Int)
  | cs => (parseDigits cs).map fun n => (n : Int)

theorem parseSigned_toDigits (n : Nat) : parseSigned (Nat.toDigits 10 n) = some (n : Int) := by
  have hhead : ∀ c ∈ (Nat.toDigits 10 n).head?, c.isDigit = true := fun c hc =>
    Nat.isDigit_of_mem_toDigits (b := 10) (by decide) (by decide) (List.mem_of_mem_head? hc)
  unfold parseSigned
  split
  · rename_i cs hcs
    rw [hcs] at hhead
    exact absurd (hhead '-' rfl) (by decide)
  · rename_i cs hcs
    rw [hcs] at hhead
    exact absurd (hhead '+' rfl) (by decide)
  · rw [parseDigits_toDigits]
    rfl

/-- `str::parse::<i64>`: an optional sign, at least one digit, and the range of the type. -/
def parseI64 (value : String) : Option Int :=
  (parseSigned value.toList).bind fun n => if -2 ^ 63 ≤ n ∧ n < 2 ^ 63 then some n else none

/-- A number of the type is read back from its text. -/
theorem parseI64_toString {n : Int} (hpos : 0 ≤ n) (hlt : n < 2 ^ 63) :
    parseI64 (toString n) = some n := by
  obtain ⟨m, rfl⟩ := Int.eq_ofNat_of_zero_le hpos
  have htext : (toString (m : Int)).toList = Nat.toDigits 10 m := Nat.toList_repr
  rw [parseI64, htext, parseSigned_toDigits, Option.bind_some, if_pos ⟨by omega, hlt⟩]

/-- `str::parse::<u64>`. -/
def parseU64 (value : String) : Option Nat :=
  let parsed :=
    match value.toList with
    | '+' :: cs => parseDigits cs
    | cs => parseDigits cs
  parsed.bind fun n => if n < 2 ^ 64 then some n else none

def parseMetadataI64 (key value : String) : Result Int :=
  orError (parseI64 value) (.conflict s!"{key} metadata is not a valid SQLite integer")

/-! ### The bounded audit table -/

def maxAuditRecords : Nat :=
  4096

def reservedCriticalAuditRecords : Nat :=
  8

def reservedStopAuditRecords : Nat :=
  1

def isCriticalAuditAction (action : String) : Bool :=
  action == "desired_mode_changed" ||
    "operator_command_".toList.isPrefixOf action.toList ||
    action == "store_restored_new_watchdog_namespace"

def isEmergencyStopAuditAction (action : String) : Bool :=
  action == "operator_command_stop_accepted"

/-- The retention bound that applies to an action. -/
def auditLimit (action : String) : Nat :=
  if isEmergencyStopAuditAction action then maxAuditRecords + reservedStopAuditRecords
  else if isCriticalAuditAction action then maxAuditRecords
  else maxAuditRecords - reservedCriticalAuditRecords

def insertAuditTx (s : Store) (action detail : String) (nowMs : Nat) : Result Store := do
  validateName action "audit action" 128
  validateDetail detail "audit detail"
  ensure (s.audit.length < auditLimit action)
    (.conflict "audit retention bound is full; explicit archival is required")
  let now ← sqliteTimestamp nowMs
  return { s with audit := s.audit ++ [{ action, detail, occurredAtMs := now }] }

/-- What an audit record needs and what it changes. -/
theorem insertAuditTx_eq_ok {s s' : Store} {action detail : String} {nowMs : Nat} :
    insertAuditTx s action detail nowMs = .ok s' ↔
      isName action 128 ∧
        (detail.utf8ByteSize ≤ maxAuditDetailBytes ∧ containsNul detail = false) ∧
        s.audit.length < auditLimit action ∧ nowMs < 2 ^ 63 ∧
        { s with audit := s.audit ++ [{ action, detail, occurredAtMs := nowMs }] } = s' := by
  simp only [insertAuditTx, bind_eq_ok, validateName_eq_ok, validateDetail_eq_ok, ensure_eq_ok,
    sqliteTimestamp_eq_ok, pure_eq_ok, exists_and_left, exists_const, and_assoc, exists_eq_left']

theorem insertAuditTx_bind {s : Store} {action detail : String} {nowMs : Nat} {α : Type}
    {f : Store → Result α} {b : α} :
    (insertAuditTx s action detail nowMs >>= f) = .ok b ↔
      isName action 128 ∧
        (detail.utf8ByteSize ≤ maxAuditDetailBytes ∧ containsNul detail = false) ∧
        s.audit.length < auditLimit action ∧ nowMs < 2 ^ 63 ∧
        f { s with audit := s.audit ++ [{ action, detail, occurredAtMs := nowMs }] } = .ok b := by
  simp only [bind_eq_ok, insertAuditTx_eq_ok, and_assoc, exists_and_left, exists_eq_left']

/-! ### A fresh store -/

def schemaVersionText : String :=
  "2"

def operatorLedgerSchemaVersion : Nat :=
  2

def workerHandoffSchemaVersion : Nat :=
  1

/-- What the store reads from a validated `WatchdogConfig`: the deployment identity, the initial
mode, the two resource bounds, and the digests of the whole configuration and of its
compatibility projection. -/
structure StoreConfig where
  deploymentId : String
  desiredMode : DesiredMode
  maxJobs : Nat
  maxPayloadBytes : Nat
  digest : String
  compatibilityDigest : String
  deploymentId_valid : isName deploymentId 128 = true
  maxJobs_pos : 0 < maxJobs
  maxPayloadBytes_pos : 0 < maxPayloadBytes
  digest_valid : isDigest digest = true
  compatibilityDigest_valid : isDigest compatibilityDigest = true

/-- The metadata rows written when a store is created. -/
def initialMetadata (config : StoreConfig) (now : Nat) : MetadataKey → Option String
  | .schemaVersion => some schemaVersionText
  | .deploymentId => some config.deploymentId
  | .desiredMode => some (modeAsStr config.desiredMode)
  | .restartGeneration => some "1"
  | .configDigest => some config.digest
  | .configCompatDigest => some config.compatibilityDigest
  | .operatorLedgerSchemaVersion => some (toString operatorLedgerSchemaVersion)
  | .workerHandoffSchemaVersion => some (toString workerHandoffSchemaVersion)
  | .workerBootstrapSchema => some "1"
  | .gatewayHealthSchema => some "1"
  | .initializedAtMs => some (toString now)
  | .updatedAtMs => some (toString now)
  | _ => none

/-- Create the database of a deployment: empty tables, the metadata of the configuration and one
audit record. -/
def Store.initialize (config : StoreConfig) (now : Nat) (epoch : UuidV4) : Result Store :=
  let empty : Store :=
    { maxJobs := config.maxJobs
      maxPayloadBytes := config.maxPayloadBytes
      restartClockEpoch := epoch.text
      metadata := initialMetadata config now
      audit := []
      jobs := []
      attempts := []
      workerBinding := none
      workerControl := none
      handoffs := []
      operatorCommands := []
      components := []
      launchIntents := []
      restartEvents := []
      workerBootstrapBindings := []
      gatewayHealthBindings := [] }
  insertAuditTx empty "store_initialized" s!"schema=2;config_digest={config.digest}" now

end AscensionWatchdog
