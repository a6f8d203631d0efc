import AscensionWatchdog.Storage.Schema

/-!
# Identities of the worker handoff protocol

A worker is bound to a deployment once, by digests; it acknowledges control under the boot
identities of the watchdog and of the worker; and every handoff carries the tuple of identities
of the episode it hands over. This file has the types of those identities and their checks, and
the readers of the two single-row tables that hold the binding and the acknowledged control.

Three checks compare a handoff with the current control, from strict to lax:

* `validateDispatchControlTx` — a dispatch needs the **same boots and mode sequence** as the
  claim, in mode `running`;
* `validateCurrentWorkerIncarnationTx` — a report needs the same boots, in any mode;
* `validateCurrentWorkerRecoveryTx` — recovery needs a witness equal to the current control.
-/

namespace AscensionWatchdog

open Foundation Foundation.Json

def maxWorkerWireInteger : Nat :=
  9007199254740991

def workerHandoffSchemaDigest : String :=
  "bb13d15f6c0e4b8d0f58f7391fe4ba319ebc57a0a09effc06d73ea718bbff4cf"

def workerHandoffOperation : String :=
  "runtime_v3_episode"

/-- The digest of the empty parameters, the only ones that a handoff can carry. -/
def workerHandoffPayloadDigest : String :=
  "44136fa355b3678a1146ad16f7e8649e94fb4fc21fe77e8310c060f61caaff8a"

def emptyParameters : Value :=
  Value.ofFields []

def WorkerControlMode.asStr : WorkerControlMode → String
  | .running => "running"
  | .paused => "paused"
  | .draining => "draining"
  | .stopped => "stopped"

/-- The exact preflight witness required to allocate a handoff. -/
structure WorkerClaimWitness where
  deploymentId : String
  workerOwnerId : String
  workerProfileDigest : String
  releaseDigest : String
  configDigest : String
  schemaDigest : String
  watchdogBootId : String
  workerBootId : String
  modeSequence : Nat
  deriving DecidableEq, Repr

/-- The tuple carried by dispatch, lookup and acknowledgment messages. -/
structure WorkerHandoffTuple where
  handoffId : String
  deploymentId : String
  jobId : String
  attemptId : String
  attemptNumber : Nat
  workerOwnerId : String
  workerProfileDigest : String
  runId : String
  episodeId : String
  trajectoryId : String
  payloadDigest : String
  deriving DecidableEq, Repr

variable (s : Store) (witness : WorkerClaimWitness) (control : WorkerControlWitness)
  (binding : WorkerBinding) (h : HandoffRow)

def HandoffRow.tuple : WorkerHandoffTuple where
  handoffId := h.handoffId
  deploymentId := h.deploymentId
  jobId := h.jobId
  attemptId := h.attemptId
  attemptNumber := h.attemptNumber
  workerOwnerId := h.workerOwnerId
  workerProfileDigest := h.workerProfileDigest
  runId := h.runId
  episodeId := h.episodeId
  trajectoryId := h.trajectoryId
  payloadDigest := h.payloadDigest

/-! ### Field checks -/

def validateDigestValue (value field : String) : Result Unit :=
  validateDigestAs .invalidInput s!"{field} is invalid" value

theorem validateDigestValue_eq_ok {value field : String} {u : Unit} :
    validateDigestValue value field = .ok u ↔ isDigest value = true := by
  simp only [validateDigestValue, validateDigestAs, validateDigest, mapError_eq_ok, ensure_eq_ok]

/-- ASCII letters and digits, and the punctuation of an identity. -/
def isWorkerIdentityChar (c : Char) : Bool :=
  c.isAlphanum || c == '.' || c == '_' || c == '-'

def isWorkerIdentity (value : String) : Bool :=
  !value.isEmpty && value.utf8ByteSize ≤ 128 && value.toList.all isWorkerIdentityChar

def validateWorkerIdentity (value field : String) : Result Unit :=
  ensure (isWorkerIdentity value)
    (.invalidInput s!"{field} must be a bounded ASCII worker identity")

def validateUuid4 (value field : String) : Result Unit := do
  let parsed ← orError (Uuid.parseStr value)
    (.invalidInput s!"{field} is not a canonical UUIDv4: invalid UUID")
  ensure (Uuid.versionNum parsed = 4 ∧ Uuid.isRfc4122 parsed ∧ Uuid.toText parsed = value)
    (.invalidInput s!"{field} must be a lowercase canonical UUIDv4")

theorem validateUuid4_eq_ok {value field : String} {u : Unit} :
    validateUuid4 value field = .ok u ↔ isCanonicalUuid4 value = true := by
  unfold validateUuid4 isCanonicalUuid4
  cases hparse : Uuid.parseStr value with
  | none => simp [bind_eq_ok]
  | some digits => simp [bind_eq_ok, and_assoc]

/-- A sequence number that is positive and fits the integers of the wire. -/
def isWireSequence (n : Nat) : Bool :=
  n != 0 && n ≤ maxWorkerWireInteger

/-- A text column that the query bounds: longer text is read as a missing value. -/
def requiredText (value field : String) (bound : Nat) : Result Unit :=
  ensure (value.utf8ByteSize ≤ bound)
    (.sqlite s!"worker {field} is missing, non-text, or exceeds its bound")

/-! ### Binding and control -/

def validateBinding : Result Unit := do
  let deploymentId ← orError (s.metadata .deploymentId)
    (.conflict "deployment_id metadata is missing")
  validateWorkerIdentity binding.deploymentId "worker deployment id"
  ensure (binding.deploymentId = deploymentId)
    (.conflict "worker binding deployment differs from the owner-local store")
  validateWorkerIdentity binding.workerOwnerId "worker owner id"
  forEach (fun (value, field) => validateDigestValue value field)
    [(binding.workerProfileDigest, "worker profile digest"),
      (binding.releaseDigest, "worker release digest"),
      (binding.configDigest, "worker config digest"),
      (binding.schemaDigest, "worker schema digest")]
  ensure (binding.schemaDigest = workerHandoffSchemaDigest)
    (.conflict "worker binding schema digest is not the frozen worker-handoff-v1 schema")

/-- Decode the row of `worker_bindings`. -/
def bindingFromRow : Result WorkerBinding := do
  forEach (fun (value, field, bound) => requiredText value field bound)
    [(binding.deploymentId, "binding deployment id", 128),
      (binding.workerOwnerId, "binding owner id", 128),
      (binding.workerProfileDigest, "binding profile digest", 64),
      (binding.releaseDigest, "binding release digest", 64),
      (binding.configDigest, "binding config digest", 64),
      (binding.schemaDigest, "binding schema digest", 64)]
  toSqliteError (validateWorkerIdentity binding.deploymentId "worker binding deployment id")
  toSqliteError (validateWorkerIdentity binding.workerOwnerId "worker binding owner id")
  forEach (fun (value, field) => toSqliteError (validateDigestValue value field))
    [(binding.workerProfileDigest, "worker profile digest"),
      (binding.releaseDigest, "worker release digest"),
      (binding.configDigest, "worker config digest"),
      (binding.schemaDigest, "worker schema digest")]
  ensure (binding.schemaDigest = workerHandoffSchemaDigest)
    (.sqlite "worker binding schema digest is not the frozen worker-handoff-v1 schema")
  return binding

def bindingFromTx : Result (Option WorkerBinding) :=
  match s.workerBinding with
  | none => return none
  | some row => do
    let binding ← bindingFromRow row
    validateBinding s binding
    return some binding

def validateControl : Result Unit := do
  validateWorkerIdentity control.deploymentId "worker control deployment id"
  validateWorkerIdentity control.workerOwnerId "worker control owner id"
  validateDigestValue control.workerProfileDigest "worker control profile digest"
  validateUuid4 control.watchdogBootId "watchdog boot id"
  validateUuid4 control.workerBootId "worker boot id"
  ensure (control.watchdogBootId ≠ control.workerBootId)
    (.invalidInput "watchdog and worker boot identities must be distinct")
  ensure (isWireSequence control.modeSequence)
    (.invalidInput
      "worker control mode sequence must be positive and fit the wire integer bound")

/-- Decode the row of `worker_control`. -/
def controlFromRow : Result WorkerControlWitness := do
  forEach (fun (value, field, bound) => requiredText value field bound)
    [(control.deploymentId, "control deployment id", 128),
      (control.workerOwnerId, "control owner id", 128),
      (control.workerProfileDigest, "control profile digest", 64),
      (control.watchdogBootId, "control watchdog boot id", 36),
      (control.workerBootId, "control worker boot id", 36)]
  toSqliteError (validateControl control)
  return control

def controlFromTx : Result (Option WorkerControlWitness) :=
  match s.workerControl with
  | none => return none
  | some (row, _) => do
    let control ← controlFromRow row
    return some control

def validateControlAgainstBinding : Result Unit :=
  ensure (control.deploymentId = binding.deploymentId ∧
      control.workerOwnerId = binding.workerOwnerId ∧
      control.workerProfileDigest = binding.workerProfileDigest)
    (.conflict "worker control scope differs from its configured binding")

/-! ### Claim witness -/

def validateClaimWitness : Result Unit := do
  validateWorkerIdentity witness.deploymentId "worker claim deployment id"
  validateWorkerIdentity witness.workerOwnerId "worker claim owner id"
  forEach (fun (value, field) => validateDigestValue value field)
    [(witness.workerProfileDigest, "worker profile digest"),
      (witness.releaseDigest, "worker release digest"),
      (witness.configDigest, "worker config digest"),
      (witness.schemaDigest, "worker schema digest")]
  validateUuid4 witness.watchdogBootId "watchdog boot id"
  validateUuid4 witness.workerBootId "worker boot id"
  ensure (witness.watchdogBootId ≠ witness.workerBootId)
    (.invalidInput "watchdog and worker boot identities must be distinct")
  ensure (isWireSequence witness.modeSequence)
    (.invalidInput
      "worker claim mode sequence must be positive and fit the wire integer bound")

/-- The binding that a claim witness stands for. -/
def WorkerClaimWitness.expectedBinding : WorkerBinding where
  deploymentId := witness.deploymentId
  workerOwnerId := witness.workerOwnerId
  workerProfileDigest := witness.workerProfileDigest
  releaseDigest := witness.releaseDigest
  configDigest := witness.configDigest
  schemaDigest := witness.schemaDigest

/-- The running control that a claim witness stands for. -/
def WorkerClaimWitness.expectedControl : WorkerControlWitness where
  deploymentId := witness.deploymentId
  workerOwnerId := witness.workerOwnerId
  workerProfileDigest := witness.workerProfileDigest
  watchdogBootId := witness.watchdogBootId
  workerBootId := witness.workerBootId
  mode := .running
  modeSequence := witness.modeSequence

def validateClaimWitnessTx : Result Unit := do
  let binding? ← bindingFromTx s
  let binding ← orError binding? (.conflict "worker binding is not configured")
  ensure (binding = witness.expectedBinding)
    (.conflict "worker claim witness differs from its configured binding")
  let control? ← controlFromTx s
  let control ← orError control? (.conflict "worker control has not been acknowledged")
  ensure (control = witness.expectedControl)
    (.conflict "worker claim witness differs from acknowledged worker control")
  let desired ← s.desiredMode
  ensure (desired = .running)
    (.conflict "durable desired mode does not authorize worker claims")

/-! ### Handoff tuple -/

def validateTuple (tuple : WorkerHandoffTuple) : Result Unit := do
  forEach (fun (value, field) => validateUuid4 value field)
    [(tuple.handoffId, "handoff id"), (tuple.attemptId, "attempt id"), (tuple.runId, "run id"),
      (tuple.episodeId, "episode id"), (tuple.trajectoryId, "trajectory id")]
  validateWorkerIdentity tuple.deploymentId "deployment id"
  validateName tuple.jobId "job id" 128
  ensure (tuple.attemptNumber ≠ 0) (.invalidInput "worker attempt number must be positive")
  validateWorkerIdentity tuple.workerOwnerId "worker owner id"
  validateDigestValue tuple.workerProfileDigest "worker profile digest"
  validateDigestValue tuple.payloadDigest "payload digest"
  ensure (tuple.payloadDigest = workerHandoffPayloadDigest)
    (.invalidInput "worker payload digest is not the frozen empty-parameters digest")
  ensure ([tuple.handoffId, tuple.attemptId, tuple.runId, tuple.episodeId,
      tuple.trajectoryId].Nodup)
    (.invalidInput "worker handoff tuple UUIDs must be pairwise distinct")

/-! ### A handoff against the current control -/

/-- The worker that a binding names is the one a handoff was prepared for. -/
def WorkerBinding.matchesHandoff : Prop :=
  binding.deploymentId = h.deploymentId ∧ binding.workerOwnerId = h.workerOwnerId ∧
    binding.workerProfileDigest = h.workerProfileDigest

instance (binding : WorkerBinding) (h : HandoffRow) : Decidable (binding.matchesHandoff h) :=
  inferInstanceAs (Decidable (_ ∧ _ ∧ _))

/-- A control of the worker and of the two boots under which a handoff was prepared. -/
def WorkerControlWitness.sameIncarnation : Prop :=
  control.deploymentId = h.deploymentId ∧ control.workerOwnerId = h.workerOwnerId ∧
    control.workerProfileDigest = h.workerProfileDigest ∧
    control.watchdogBootId = h.watchdogBootId ∧ control.workerBootId = h.workerBootId

instance (control : WorkerControlWitness) (h : HandoffRow) :
    Decidable (control.sameIncarnation h) :=
  inferInstanceAs (Decidable (_ ∧ _ ∧ _ ∧ _ ∧ _))

def validateDispatchControlTx : Result Unit := do
  let desired ← s.desiredMode
  ensure (desired = .running) (.conflict "durable desired mode no longer authorizes dispatch")
  let binding? ← bindingFromTx s
  let binding ← orError binding? (.conflict "worker binding is not configured")
  ensure (binding.matchesHandoff h)
    (.conflict "worker binding no longer matches the prepared handoff")
  let control? ← controlFromTx s
  let control ← orError control? (.conflict "worker control has not been acknowledged")
  ensure (control.mode = .running ∧ control.sameIncarnation h ∧
      control.modeSequence = h.modeSequence)
    (.conflict "worker control no longer matches the prepared handoff")

def validateCurrentWorkerIncarnationTx : Result Unit := do
  let binding? ← bindingFromTx s
  let binding ← orError binding? (.conflict "worker binding is not configured")
  ensure (binding.matchesHandoff h)
    (.conflict "worker binding no longer matches the worker handoff")
  let control? ← controlFromTx s
  let control ← orError control? (.conflict "worker control has not been acknowledged")
  ensure (control.sameIncarnation h)
    (.conflict "worker report belongs to a stale watchdog or worker boot")

def validateCurrentWorkerRecoveryTx (recovery : WorkerControlWitness) : Result Unit := do
  validateControl recovery
  let binding? ← bindingFromTx s
  let binding ← orError binding? (.conflict "worker binding is not configured")
  validateControlAgainstBinding recovery binding
  ensure (binding.matchesHandoff h)
    (.conflict "worker binding no longer matches the original worker handoff")
  let control? ← controlFromTx s
  let current ← orError control? (.conflict "worker control has not been acknowledged")
  ensure (current = recovery)
    (.conflict "worker recovery credential is not the current acknowledged control")

end AscensionWatchdog
