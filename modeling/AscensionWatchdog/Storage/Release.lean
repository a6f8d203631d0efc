import AscensionWatchdog.Storage.Operator

/-!
# Metadata operations and the release selector

Single metadata keys are written by the direct mode change, by the generation counter and by
the progress marker of the supervisor loop.

The release selector is a small record spread over twelve metadata keys. An activation first
writes a `prepared` marker that binds the exact request, and completes by moving the marker to
the active release together with the operator receipt. A selector whose keys do not fit together
is reported and never repaired.
-/

namespace AscensionWatchdog

open Foundation Foundation.Json

/-! ### Direct metadata operations -/

variable (crates : Crates) (s : Store) (nowMs : Nat) (context : OperatorCommandContext)

def setDesiredModeTx (mode : DesiredMode) (nowMs : Nat) : Result Store := do
  let s ← updateMetadataTx s .desiredMode (modeAsStr mode)
  let s ← updateMetadataTx s .updatedAtMs (toString nowMs)
  insertAuditTx s "desired_mode_changed" (modeAsStr mode) nowMs

/-- Persist operator intent and audit it. -/
def Store.setDesiredModeAt (mode : DesiredMode) (nowMs : Nat) : Result Unit × Store :=
  commit s (do return ((), ← setDesiredModeTx s mode nowMs))

/-- The recorded generation, which must be positive. -/
def currentGeneration (missing nonPositive : String) : Result Int := do
  let text ← orError (s.metadata .restartGeneration) (.conflict missing)
  let generation ← parseMetadataI64 "restart_generation" text
  ensure (0 < generation) (.conflict nonPositive)
  return generation

/-- `checked_add(1)` on a generation. -/
def nextGeneration (generation : Int) (exhausted : String) : Result Int := do
  ensure (generation + 1 < 2 ^ 63) (.conflict exhausted)
  return generation + 1

def establishNewGenerationTx : Result (Int × Store) := do
  let current ← currentGeneration s "restart_generation metadata is missing"
    "restart_generation metadata must be positive"
  let next ← nextGeneration current "restart generation exhausted"
  let s ← updateMetadataTx s .restartGeneration (toString next)
  let s ← updateMetadataTx s .updatedAtMs (toString nowMs)
  let s ← insertAuditTx s "fresh_reconciliation_generation" (toString next) nowMs
  return (next, s)

/-- Increment the durable generation. -/
def Store.establishNewGeneration : Result Int × Store :=
  commit s (establishNewGenerationTx s nowMs)

/-- Retain an audit event. -/
def Store.auditEvent (action detail : String) (nowMs : Nat) : Result Unit × Store :=
  commit s (do return ((), ← insertAuditTx s action detail nowMs))

/-- The check of the time in the last progress marker. -/
def validatePreviousTime : Option String → Result Unit
  | none => return ()
  | some text => do
    let value ← orError (parseU64 text) (.conflict "invalid reconciliation timestamp")
    discard (sqliteTimestamp value)

/-- The sequence in the last progress marker; zero when there is none. -/
def previousSequence : Option String → Result Nat
  | none => return 0
  | some text => do
    let previous ← orError (parseU64 text) (.conflict "invalid reconciliation sequence")
    ensure (previous ≠ 0) (.conflict "invalid zero reconciliation sequence")
    return previous

def recordReconciliationProgressTx : Result Store := do
  let timestamp ← sqliteTimestamp nowMs
  let sequence := s.metadata .reconciliationSequence
  let previousTime := s.metadata .lastReconciledAtMs
  ensure (sequence.isSome = previousTime.isSome)
    (.conflict "incomplete reconciliation progress marker")
  validatePreviousTime previousTime
  let previous ← previousSequence sequence
  ensure (previous + 1 < 2 ^ 63) (.conflict "reconciliation sequence exhausted")
  let s := upsertMetadataTx s .reconciliationSequence (toString (previous + 1))
  return upsertMetadataTx s .lastReconciledAtMs (toString timestamp)

/-- Commit the loop-progress projection. -/
def Store.recordReconciliationProgress : Result Unit × Store :=
  commit s (do return ((), ← recordReconciliationProgressTx s nowMs))

/-- The metadata that a status reports. -/
structure StoreStatus where
  deploymentId : String
  desiredMode : DesiredMode
  schemaVersion : Int
  restartGeneration : Int
  configDigest : String
  approvedReleaseDigest : Option String
  deriving DecidableEq, Repr

/-- The checks of a status. The job counts, the path and the pragmas are not read here. -/
def Store.status : Result StoreStatus := do
  let deploymentId ← orError (s.metadata .deploymentId)
    (.conflict "deployment_id metadata is missing")
  validateMetadataIdentifier "deployment_id" deploymentId
  let desiredMode ← s.desiredMode
  let schemaText ← orError (s.metadata .schemaVersion)
    (.conflict "schema_version metadata is missing")
  let schemaVersion ← parseMetadataI64 "schema_version" schemaText
  ensure (schemaVersion = 2)
    (.unsupported s!"store schema {schemaVersion} requires an explicit migration")
  let restartGeneration ← currentGeneration s "restart_generation metadata is missing"
    "restart_generation metadata must be positive"
  let configDigest ← orError (s.metadata .configDigest)
    (.conflict "config_digest metadata is missing")
  validateDigestAs .conflict "config_digest metadata is invalid" configDigest
  forEach (validateDigestAs .conflict "approved_release_digest metadata is invalid")
    (s.metadata .approvedReleaseDigest).toList
  return { deploymentId, desiredMode, schemaVersion, restartGeneration, configDigest,
           approvedReleaseDigest := s.metadata .approvedReleaseDigest }

/-! ### The selector -/

inductive ReleaseSelectionState where
  | none
  | prepared
  | active
  deriving DecidableEq, Repr

/-- One immutable release identity. -/
structure ReleaseIdentity where
  releaseId : String
  releaseDigest : String
  deriving DecidableEq, Repr

/-- A pending activation marker. -/
structure PendingReleaseActivation where
  release : ReleaseIdentity
  rollback : Bool
  requestId : String
  idempotencyKey : String
  previous : Option ReleaseIdentity
  deriving DecidableEq, Repr

/-- The selector as the metadata rows describe it. -/
structure ReleaseSelection where
  state : ReleaseSelectionState
  active : Option ReleaseIdentity
  previous : Option ReleaseIdentity
  pending : Option PendingReleaseActivation
  deriving DecidableEq, Repr

/-- The selector of a deployment without releases. -/
def emptySelection : ReleaseSelection where
  state := .none
  active := none
  previous := none
  pending := none

/-- An identity from its two columns: both or neither. -/
def readIdentityValues (id digest : Option String) (label : String) :
    Result (Option ReleaseIdentity) :=
  match id, digest with
  | none, none => return none
  | some id, some digest => do
    validateName id label 128
    (validateDigest digest).mapError .conflict
    return some ⟨id, digest⟩
  | _, _ => .error (.conflict s!"{label} identity is incomplete")

def readIdentity (idKey digestKey : MetadataKey) (label : String) :
    Result (Option ReleaseIdentity) :=
  readIdentityValues (s.metadata idKey) (s.metadata digestKey) label

def parseRollback (text : String) : Result Bool :=
  if text = "0" then .ok false
  else if text = "1" then .ok true
  else .error (.conflict "pending release rollback marker is malformed")

/-- The keys of the pending marker. -/
def pendingKeys : List MetadataKey :=
  [.pendingReleaseId, .pendingReleaseDigest, .pendingReleaseRollback, .pendingReleaseRequestId,
    .pendingReleaseIdempotencyKey, .pendingReleasePreviousId, .pendingReleasePreviousDigest]

def readPending : Result (Option PendingReleaseActivation) :=
  if pendingKeys.all (fun key => (s.metadata key).isNone) then return none
  else
    match s.metadata .pendingReleaseId, s.metadata .pendingReleaseDigest,
        s.metadata .pendingReleaseRollback, s.metadata .pendingReleaseRequestId,
        s.metadata .pendingReleaseIdempotencyKey with
    | some id, some digest, some rollback, some requestId, some idempotencyKey => do
      validateName id "pending release id" 128
      (validateDigest digest).mapError .conflict
      let rollback ← parseRollback rollback
      validateName requestId "pending release request id" 128
      validateName idempotencyKey "pending release idempotency key" 128
      let previous ← readIdentity s .pendingReleasePreviousId .pendingReleasePreviousDigest
        "pending previous release"
      return some { release := ⟨id, digest⟩, rollback, requestId, idempotencyKey, previous }
    | _, _, _, _, _ => .error (.conflict "release selector pending marker is incomplete")

def parseSelectionState (text : String) : Result ReleaseSelectionState :=
  if text = "none" then .ok .none
  else if text = "prepared" then .ok .prepared
  else if text = "active" then .ok .active
  else .error (.conflict "release selector state is malformed")

def readSelection : Result ReleaseSelection := do
  let state ← parseSelectionState ((s.metadata .releaseSelectionState).getD "none")
  let active ← readIdentity s .activeReleaseId .approvedReleaseDigest "active release"
  let previous ← readIdentity s .previousReleaseId .previousReleaseDigest "previous release"
  let pending ← readPending s
  ensure (¬ (state = .prepared ∧ pending.isNone))
    (.conflict "prepared release selector has no pending marker")
  ensure (¬ (state ≠ .prepared ∧ pending.isSome))
    (.conflict "non-prepared release selector has a pending marker")
  ensure (¬ (state = .active ∧ active.isNone))
    (.conflict "active release selector has no active identity")
  ensure (¬ (state = .none ∧ active.isSome))
    (.conflict "empty release selector has an active identity")
  return { state, active, previous, pending }

/-! ### Writing the selector -/

/-- Delete metadata rows. -/
def deleteMetadataTx (keys : List MetadataKey) : Store :=
  { s with metadata := fun key => if key ∈ keys then none else s.metadata key }

/-- Write or delete the two columns of an identity. -/
def writeIdentity (idKey digestKey : MetadataKey) : Option ReleaseIdentity → Store
  | some identity =>
    upsertMetadataTx (upsertMetadataTx s idKey identity.releaseId) digestKey
      identity.releaseDigest
  | none => deleteMetadataTx s [idKey, digestKey]

def writePending (pending : PendingReleaseActivation) : Store :=
  let s := upsertMetadataTx s .releaseSelectionState "prepared"
  let s := upsertMetadataTx s .pendingReleaseId pending.release.releaseId
  let s := upsertMetadataTx s .pendingReleaseDigest pending.release.releaseDigest
  let s := upsertMetadataTx s .pendingReleaseRollback (if pending.rollback then "1" else "0")
  let s := upsertMetadataTx s .pendingReleaseRequestId pending.requestId
  let s := upsertMetadataTx s .pendingReleaseIdempotencyKey pending.idempotencyKey
  writeIdentity s .pendingReleasePreviousId .pendingReleasePreviousDigest pending.previous

def writeActive (active : ReleaseIdentity) (previous : Option ReleaseIdentity) : Store :=
  let s := upsertMetadataTx s .releaseSelectionState "active"
  let s := upsertMetadataTx s .activeReleaseId active.releaseId
  let s := upsertMetadataTx s .approvedReleaseDigest active.releaseDigest
  writeIdentity s .previousReleaseId .previousReleaseDigest previous

def clearPending : Store :=
  deleteMetadataTx s pendingKeys

/-- The keys of the active and the previous release. -/
def selectedKeys : List MetadataKey :=
  [.activeReleaseId, .approvedReleaseDigest, .previousReleaseId, .previousReleaseDigest]

def clearReleaseSelectionTx : Store :=
  deleteMetadataTx (upsertMetadataTx s .releaseSelectionState "none")
    (selectedKeys ++ pendingKeys)

/-! ### Activation -/

/-- A rollback names the recorded previous release of an active selector; an activation names
another release than the active one. -/
def validateTarget (current : ReleaseSelection) (target : ReleaseIdentity) (rollback : Bool) :
    Result Unit :=
  if rollback then do
    let previous ← orError current.previous
      (.conflict "no previous release is available for rollback")
    ensure (previous = target)
      (.conflict "rollback target is not the durably recorded previous release")
    ensure current.active.isSome (.conflict "rollback requires an active release")
  else
    ensure (current.active ≠ some target) (.conflict "requested release is already active")

def prepareReleaseActivationTx (requestId idempotencyKey releaseId releaseDigest : String)
    (rollback : Bool) (nowMs : Nat) : Result (Unit × Store) := do
  validateName requestId "release activation request id" 128
  validateName idempotencyKey "release activation idempotency key" 128
  validateName releaseId "release activation release id" 128
  (validateDigest releaseDigest).mapError .invalidInput
  let desired ← orError (s.metadata .desiredMode) (.conflict "desired mode metadata is missing")
  ensure (desired = modeAsStr .stopped)
    (.conflict "release activation requires durably stopped mode")
  let current ← readSelection s
  match current.pending with
  | some pending =>
    ensure (pending.release = ⟨releaseId, releaseDigest⟩ ∧ pending.rollback = rollback ∧
        pending.requestId = requestId ∧ pending.idempotencyKey = idempotencyKey)
      (.conflict "another release activation is prepared; retry its exact idempotency key first")
    return ((), s)
  | none =>
    match ← findOperatorByKey crates s idempotencyKey with
    | some existing =>
      .error (.conflict s!"idempotency key already belongs to {existing.command.asStr}")
    | none =>
      ensureFreshRequest crates s requestId
      validateTarget current ⟨releaseId, releaseDigest⟩ rollback
      let s := writePending s
        { release := ⟨releaseId, releaseDigest⟩
          rollback
          requestId
          idempotencyKey
          previous := current.active }
      let s ← insertAuditTx s "release_activation_prepared"
        (s!"release_id={releaseId};digest={releaseDigest};rollback={rollback};" ++
          s!"request_id={requestId}")
        nowMs
      return ((), s)

/-- Prepare one exact release request. -/
def Store.prepareReleaseActivation (requestId idempotencyKey releaseId releaseDigest : String)
    (rollback : Bool) (nowMs : Nat) : Result ReleaseSelection × Store :=
  commitThen s
    (prepareReleaseActivationTx crates s requestId idempotencyKey releaseId releaseDigest
      rollback nowMs)
    fun _ s => readSelection s

/-- The release variant of the replay check: the capability is compared with the fingerprint. -/
def verifyDuplicateContext (existing : OperatorCommandReceipt)
    (context : OperatorCommandContext) : Result Unit := do
  ensure (existing.principal = context.principal)
    (.unauthorized "idempotency key belongs to another operator context")
  ensure (existing.capability = context.capability ∧
      existing.commandFingerprint = context.commandFingerprint)
    (.conflict "idempotency key was reused with a different command fingerprint")

/-- The object has exactly the given keys. -/
def hasExactKeys (fields : Fields) (keys : List String) : Bool :=
  fields.keys.all (· ∈ keys) && keys.all (· ∈ fields.keys)

/-- The recorded receipt must describe the prepared selector. -/
def validateActivationResponse (response : Value) (pending : PendingReleaseActivation) :
    Result Unit := do
  let object ← orError (Value.asObject? response)
    (.conflict "release activation response must be an object")
  ensure (hasExactKeys object ["kind", "value"])
    (.conflict "release activation response has unknown or missing fields")
  let value ← orError ((object.get? "value").bind Value.asObject?)
    (.conflict "release activation response is missing its typed value")
  ensure (hasExactKeys value
      ["release_id", "release_digest", "previous_release_id", "previous_release_digest",
        "rollback"])
    (.conflict "release activation value has unknown or missing fields")
  ensure ((object.get? "kind").bind Value.asStr? = some "ReleaseActivation" ∧
      (value.get? "release_id").bind Value.asStr? = some pending.release.releaseId ∧
      (value.get? "release_digest").bind Value.asStr? = some pending.release.releaseDigest ∧
      (value.get? "rollback").bind Value.asBool? = some pending.rollback)
    (.conflict "release activation response does not match the prepared selector")
  ensure ((value.get? "previous_release_id").bind Value.asStr? =
        pending.previous.map ReleaseIdentity.releaseId ∧
      (value.get? "previous_release_digest").bind Value.asStr? =
        pending.previous.map ReleaseIdentity.releaseDigest)
    (.conflict "release activation response has a different previous selector")

/-- The prepared marker that a completion consumes, checked against the request. -/
def matchingPending (releaseId releaseDigest : String) (rollback : Bool) (response : Value) :
    Result PendingReleaseActivation := do
  let selection ← readSelection s
  let pending ← orError selection.pending
    (.conflict "release activation has no prepared recovery marker")
  ensure (pending.release = ⟨releaseId, releaseDigest⟩ ∧ pending.rollback = rollback ∧
      pending.requestId = context.requestId ∧ pending.idempotencyKey = context.idempotencyKey)
    (.conflict "prepared release activation does not match this request")
  validateActivationResponse response pending
  ensure (selection.active = pending.previous)
    (.conflict "active release changed while activation was prepared")
  return pending

def completeReleaseActivationTx (releaseId releaseDigest : String) (rollback : Bool)
    (response : Value) (nowMs : Nat) : Result (OperatorCommandOutcome × Store) := do
  context.validate
  ensure (context.capability = .admin)
    (.unauthorized "read capability cannot activate a release")
  match ← findOperatorByKey crates s context.idempotencyKey with
  | some existing =>
    verifyDuplicateContext existing context
    ensure (existing.command = .releaseActivate)
      (.conflict "idempotency key was reused for another operator command")
    return (.replayed { existing with replayed := true }, s)
  | none =>
    ensureFreshRequest crates s context.requestId
    enforceLedgerCapacity s .releaseActivate
    validateResponse response
    let pending ← matchingPending s context releaseId releaseDigest rollback response
    let s := clearPending (writeActive s pending.release pending.previous)
    recordOperatorCommandTx s context .releaseActivate response
      "operator_command_release_activate_accepted" s!";rollback={rollback}" nowMs

/-- Finalize a prepared activation and its operator receipt. -/
def Store.completeReleaseActivation (releaseId releaseDigest : String) (rollback : Bool)
    (response : Value) (nowMs : Nat) : Result OperatorCommandOutcome × Store :=
  commit s
    (completeReleaseActivationTx crates s context releaseId releaseDigest rollback response nowMs)

end AscensionWatchdog
