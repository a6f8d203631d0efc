import AscensionWatchdog.Storage.Launch

/-!
# Backup completion and restore

A backup is a copy of the database at one moment. Its ledger row is admitted with a response
that says `durable=false`, and is upgraded once the copy is verified.

A restore rewrites a copy before it becomes addressable: a fresh deployment identity, mode
`stopped`, the next generation, no selected release, and nothing that could run by itself.
Running attempts become `unknown`; every job that was queued, running or failed is quarantined.
The rows of worker handoffs are kept as they are.
-/

namespace AscensionWatchdog

open Foundation Foundation.Json

/-! ### Completion of an operator backup -/

/-- Whether a recorded backup response says that the copy is durable. -/
def backupResponseDurable (response : Value) (backupId : String) : Result Bool := do
  let object ← orError response.asObject? (.conflict "backup ledger response is not an object")
  ensure ((object.get? "kind").bind Value.asStr? = some "Backup")
    (.conflict "backup ledger response has an incompatible result kind")
  let value ← orError ((object.get? "value").bind Value.asObject?)
    (.conflict "backup ledger response has no value")
  ensure ((value.get? "backup_id").bind Value.asStr? = some backupId)
    (.conflict "backup ledger response does not match the requested id")
  orError ((value.get? "durable").bind Value.asBool?)
    (.conflict "backup ledger response lacks durability state")

/-- The column that the completion of a backup writes. -/
def OperatorCommandRow.setResponse (row : OperatorCommandRow) (text : String) :
    OperatorCommandRow :=
  { row with responseJson := text }

def completeOperatorBackupTx (crates : Crates) (s : Store) (receipt : OperatorCommandReceipt)
    (response : Value) (backupId : String) (nowMs : Nat) : Result (Unit × Store) := do
  validateResponse response
  let row ← orError (lookup OperatorCommandRow.sequence receipt.sequence s.operatorCommands)
    (.conflict "backup intent receipt disappeared")
  ensure (row.requestId = receipt.requestId ∧ row.idempotencyKey = receipt.idempotencyKey ∧
      row.command = .backup ∧ row.commandFingerprint = receipt.commandFingerprint)
    (.conflict "backup intent receipt changed before completion")
  let existing ← orError (crates.fromStr row.responseJson) (.json row.responseJson)
  if ← backupResponseDurable existing backupId then
    return ((), s)
  let ledger := updateWhere (·.sequence == receipt.sequence) (·.setResponse response.render)
    s.operatorCommands
  let s := { s with operatorCommands := ledger }
  let s ← insertAuditTx s "operator_command_backup_completed"
    s!"sequence={receipt.sequence};key={receipt.idempotencyKey};backup_id={backupId}" nowMs
  return ((), s)

/-- Record that the copy of an admitted backup is durable. -/
def Store.completeOperatorBackup (crates : Crates) (s : Store)
    (receipt : OperatorCommandReceipt) (response : Value) (backupId : String) (nowMs : Nat) :
    Result Unit × Store :=
  commit s (completeOperatorBackupTx crates s receipt response backupId nowMs)

/-! ### Restore -/

/-- The configuration of a restore: the one that the caller gave, and the same one with mode
`stopped`, whose digests are recorded. -/
structure RestoreConfig where
  config : StoreConfig
  effective : StoreConfig
  deploymentId_eq : effective.deploymentId = config.deploymentId
  desiredMode_eq : effective.desiredMode = .stopped
  maxJobs_eq : effective.maxJobs = config.maxJobs
  maxPayloadBytes_eq : effective.maxPayloadBytes = config.maxPayloadBytes

/-- A digest in the metadata of a backup. -/
def backupDigest (s : Store) (key : MetadataKey) : Result String := do
  let digest ← orError (s.metadata key) (.conflict s!"backup {key.text} metadata is missing")
  (validateDigest digest).mapError fun message =>
    .conflict s!"backup {key.text} metadata is invalid: {message}"
  return digest

/-- What a restore reads from the metadata of a backup: its deployment and its generation. -/
def validateBackup (backup : Store) (config : StoreConfig) : Result (String × Int) := do
  let schemaText ← orError (backup.metadata .schemaVersion)
    (.conflict "backup schema_version metadata is missing")
  let schema ← parseMetadataI64 "schema_version" schemaText
  ensure (schema = 2) (.unsupported s!"backup schema {schema} requires an explicit migration")
  let deployment ← orError (backup.metadata .deploymentId)
    (.conflict "backup deployment_id metadata is missing")
  validateMetadataIdentifier "deployment_id" deployment
  let mode ← orError (backup.metadata .desiredMode)
    (.conflict "backup desired_mode metadata is missing")
  discard (parseMode mode)
  discard (backupDigest backup .configDigest)
  let compat ← backupDigest backup .configCompatDigest
  ensure (compat = config.compatibilityDigest)
    (.conflict "restore configuration is incompatible with the backup owner state")
  let generation ← currentGeneration backup "backup restart_generation metadata is missing"
    "backup restart_generation metadata must be positive"
  match backup.metadata .approvedReleaseDigest with
  | none => pure ()
  | some _ => discard (backupDigest backup .approvedReleaseDigest)
  ensure (config.deploymentId ≠ deployment)
    (.conflict "restore requires an explicit fresh deployment identity")
  return (deployment, generation)

/-- The columns of a job that a restore writes. -/
def JobRow.restore (j : JobRow) : JobRow :=
  { j with
    status := .quarantined
    lastError := some "restored backup; prior job outcome requires explicit review"
    workerId := none }

/-- Jobs whose outcome a restore no longer trusts. -/
def JobRow.restorable (j : JobRow) : Bool :=
  j.status == .queued || j.status == .running || j.status == .failed

/-- The columns of a component that a restore writes. -/
def ComponentRow.restore (c : ComponentRow) (now : Nat) : ComponentRow :=
  { c with
    state := .quarantined
    lastError := some "restored backup; process identity requires explicit review"
    updatedAtMs := now }

/-- The metadata that a restore rewrites. -/
def rekeyMetadataTx (s : Store) (config : StoreConfig) (generation : Int) (now : Nat) :
    Result Store := do
  let s ← updateMetadataTx s .deploymentId config.deploymentId
  let s ← updateMetadataTx s .desiredMode "stopped"
  let s ← updateMetadataTx s .configDigest config.digest
  let s ← updateMetadataTx s .configCompatDigest config.compatibilityDigest
  let s ← updateMetadataTx s .restartGeneration (toString generation)
  updateMetadataTx s .updatedAtMs (toString now)

/-- The tables that a restore rewrites. -/
def quarantineRestored (s : Store) (now : Nat) : Store :=
  { s with
    attempts := updateWhere (·.status == .running)
      (·.finish .unknown now "restored_backup_outcome_unknown") s.attempts
    jobs := updateWhere JobRow.restorable JobRow.restore s.jobs
    components := s.components.map (·.restore now) }

/-- The handle under which the restored database is opened. -/
def reopen (s : Store) (config : StoreConfig) (epoch : UuidV4) : Store :=
  { s with
    maxJobs := config.maxJobs
    maxPayloadBytes := config.maxPayloadBytes
    restartClockEpoch := epoch.text }

def restoreTx (backup : Store) (config : RestoreConfig) (nowMs : Nat) (epoch : UuidV4) :
    Result Store := do
  let (deployment, generation) ← validateBackup backup config.config
  let next ← nextGeneration generation "restored generation exhausted"
  let s ← rekeyMetadataTx backup config.effective next nowMs
  let s := clearReleaseSelectionTx s
  let now ← sqliteTimestamp nowMs
  let s := quarantineRestored s now
  let s := upsertMetadataTx s .restoreSourceDeploymentId deployment
  let s ← insertAuditTx s "store_restored_new_watchdog_namespace"
    (s!"source_deployment={deployment};new_deployment={config.effective.deploymentId};" ++
      s!"generation={next};game_authority=unchanged")
    nowMs
  return reopen s config.effective epoch

/-- Restore a copy of the store: the run continues in the restored database. -/
def Store.restore (s : Store) (config : RestoreConfig) (nowMs : Nat) (epoch : UuidV4) :
    Result Unit × Store :=
  commit s (do return ((), ← restoreTx s config nowMs epoch))

end AscensionWatchdog
