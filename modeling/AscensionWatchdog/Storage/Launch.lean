import AscensionWatchdog.Storage.Release

/-!
# Launch intents, components and restart accounting

Before a component process is created, a launch intent is committed; it advances from
`prepared` over `proof_recorded` to `active` and ends as `cleaned`, and a component has at most
one intent that is not cleaned. The digests of the bootstrap frames of the worker and of the
gateway are bound to a prepared intent once. Component rows and restart events are the
observations that the supervisor keeps between its passes.
-/

namespace AscensionWatchdog

open Foundation Foundation.Json

/-! ### Launch intents -/

def maxLaunchProofBytes : Nat :=
  8 * 1024

def LaunchIntentState.asStr : LaunchIntentState → String
  | .prepared => "prepared"
  | .proofRecorded => "proof_recorded"
  | .active => "active"
  | .cleaned => "cleaned"

variable (crates : Crates) (s : Store) (record : ComponentRecord) (componentId : String)
  (intentId : String) (nowMs : Nat)

def requireRunningLaunchIntent : Result Unit := do
  let mode ← s.desiredMode
  ensure (mode = .running)
    (.conflict "durable desired mode does not authorize launch admission or activation")

/-- The checks made when a launch intent is read back. -/
def launchIntentFromRow (row : LaunchIntentRow) : Result LaunchIntentRow := do
  ensure (row.expectedIncarnation.isSome = row.expectedLaunchSpecDigest.isSome)
    (.sqlite "launch intent has a partially persisted launch binding")
  forEach (fun incarnation => validateNameSqlite incarnation "expected launch incarnation" 256)
    row.expectedIncarnation.toList
  forEach (fun digest => (validateDigest digest).mapError WatchdogError.sqlite)
    row.expectedLaunchSpecDigest.toList
  forEach (fun proof => ensure (proof.utf8ByteSize ≤ maxLaunchProofBytes)
      (WatchdogError.sqlite "launch ownership proof exceeds its persisted bound"))
    row.ownershipProofJson.toList
  forEach (fun proof => do discard (parseStored crates proof)) row.ownershipProofJson.toList
  ensure (row.state = .proofRecorded ∨ row.state = .active → row.ownershipProofJson.isSome)
    (.sqlite "launch intent state requires a recorded ownership proof")
  ensure (row.state = .prepared → row.ownershipProofJson.isNone)
    (.sqlite "prepared launch intent unexpectedly contains an ownership proof")
  return row

/-- Fetch one launch intent. -/
def Store.launchIntent : Result (Option LaunchIntentRow) := do
  validateName intentId "launch intent id" 128
  (lookup LaunchIntentRow.id intentId s.launchIntents).mapM (launchIntentFromRow crates)

/-- The order of `unsettled_launch_intents`: by creation, then by id. -/
def LaunchIntentRow.listedBefore (a b : LaunchIntentRow) : Bool :=
  a.createdAtMs < b.createdAtMs || (a.createdAtMs == b.createdAtMs && a.id ≤ b.id)

/-- Every launch intent that is not cleaned. -/
def Store.unsettledLaunchIntents : Result (List LaunchIntentRow) :=
  ((s.launchIntents.filter (·.state != .cleaned)).mergeSort LaunchIntentRow.listedBefore).mapM
    (launchIntentFromRow crates)

/-- The read behind the commit of a launch transition. -/
def reloadLaunchIntent (intentId missing : String) : Result LaunchIntentRow := do
  let row? ← s.launchIntent crates intentId
  orError row? (.conflict missing)

def prepareLaunchIntentTx
    (componentId launchNonce expectedIncarnation expectedLaunchSpecDigest : String)
    (plannedContainmentId : Option String) (nowMs : Nat) (id : UuidV4) : Result (Unit × Store) := do
  validateName componentId "component id" 128
  validateName launchNonce "launch nonce" 128
  validateName expectedIncarnation "expected launch incarnation" 256
  (validateDigest expectedLaunchSpecDigest).mapError .invalidInput
  forEach (fun containment => validateName containment "planned containment id" 256)
    plannedContainmentId.toList
  let deploymentId ← orError (s.metadata .deploymentId)
    (.conflict "deployment_id metadata is missing")
  validateMetadataIdentifier "deployment_id" deploymentId
  let now ← sqliteTimestamp nowMs
  requireRunningLaunchIntent s
  match s.launchIntents.find? fun i => i.componentId == componentId && i.state != .cleaned with
  | some existing =>
    .error (.conflict s!"component {componentId} already has an unsettled launch intent {existing.id}")
  | none =>
    ensure (¬ s.launchIntents.any (·.id == id.text))
      (.sqlite "UNIQUE constraint failed: launch_intents.id")
    let s :=
      { s with
        launchIntents := s.launchIntents ++
          [{ id := id.text
             deploymentId
             componentId
             launchNonce
             expectedIncarnation := some expectedIncarnation
             expectedLaunchSpecDigest := some expectedLaunchSpecDigest
             plannedContainmentId
             state := .prepared
             ownershipProofJson := none
             createdAtMs := now
             updatedAtMs := now }] }
    let s ← insertAuditTx s "launch_intent_prepared" s!"{componentId}:{id.text}" nowMs
    return ((), s)

/-- Record the durable pre-spawn admission for one component. -/
def Store.prepareLaunchIntent
    (componentId launchNonce expectedIncarnation expectedLaunchSpecDigest : String)
    (plannedContainmentId : Option String) (nowMs : Nat) (id : UuidV4) :
    Result LaunchIntentRow × Store :=
  commitThen s
    (prepareLaunchIntentTx s componentId launchNonce expectedIncarnation
      expectedLaunchSpecDigest plannedContainmentId nowMs id)
    fun _ s => reloadLaunchIntent crates s id.text "launch intent disappeared after commit"

/-- The columns that recording a proof writes. -/
def LaunchIntentRow.recordProof (i : LaunchIntentRow) (proof : String) (now : Nat) :
    LaunchIntentRow :=
  { i with state := .proofRecorded, ownershipProofJson := some proof, updatedAtMs := now }

/-- The columns that a transition without a proof writes. -/
def LaunchIntentRow.advance (i : LaunchIntentRow) (state : LaunchIntentState) (now : Nat) :
    LaunchIntentRow :=
  { i with state, updatedAtMs := now }

/-- A launch intent with its original binding. -/
def boundIntent : Result LaunchIntentRow := do
  let intent ← orError (lookup LaunchIntentRow.id intentId s.launchIntents)
    (.notFound s!"launch intent {intentId}")
  ensure (intent.expectedIncarnation.isSome ∧ intent.expectedLaunchSpecDigest.isSome)
    (.conflict s!"launch intent {intentId} has no persisted launch binding")
  return intent

/-- `UPDATE launch_intents … WHERE id=? AND state=?`. -/
def updateLaunchIntent (state : LaunchIntentState) (f : LaunchIntentRow → LaunchIntentRow) :
    Store :=
  { s with
    launchIntents := updateWhere (fun i => i.id == intentId && i.state == state) f
      s.launchIntents }

def recordLaunchProofTx (ownershipProof : Value) (nowMs : Nat) : Result (Unit × Store) := do
  validateName intentId "launch intent id" 128
  ensure (ownershipProof ≠ .null) (.invalidInput "launch ownership proof must not be null")
  let encoded := ownershipProof.render
  ensure (encoded.utf8ByteSize ≤ maxLaunchProofBytes)
    (.invalidInput "launch ownership proof exceeds its bound")
  let intent ← boundIntent s intentId
  ensure (intent.state = .prepared)
    (.conflict s!"launch intent {intentId} is {intent.state.asStr}, not prepared")
  let now ← sqliteTimestamp nowMs
  let s := updateLaunchIntent s intentId .prepared (·.recordProof encoded now)
  let s ← insertAuditTx s "launch_proof_recorded" intentId nowMs
  return ((), s)

/-- Retain the bounded platform ownership proof for a bound intent. -/
def Store.recordLaunchProof (ownershipProof : Value) (nowMs : Nat) :
    Result LaunchIntentRow × Store :=
  commitThen s (recordLaunchProofTx s intentId ownershipProof nowMs)
    fun _ s => reloadLaunchIntent crates s intentId "launch intent disappeared after proof commit"

def activateLaunchIntentTx : Result (Unit × Store) := do
  validateName intentId "launch intent id" 128
  requireRunningLaunchIntent s
  let intent ← boundIntent s intentId
  ensure (intent.state = .proofRecorded ∧ intent.ownershipProofJson.isSome)
    (.conflict s!"launch intent {intentId} lacks a recorded ownership proof")
  let now ← sqliteTimestamp nowMs
  let s := updateLaunchIntent s intentId .proofRecorded (·.advance .active now)
  let s ← insertAuditTx s "launch_intent_activated" intentId nowMs
  return ((), s)

/-- Mark an intent active; a recorded proof is mandatory. -/
def Store.activateLaunchIntent : Result LaunchIntentRow × Store :=
  commitThen s (activateLaunchIntentTx s intentId nowMs)
    fun _ s => reloadLaunchIntent crates s intentId "launch intent disappeared after activation"

def cleanLaunchIntentTx : Result (Unit × Store) := do
  validateName intentId "launch intent id" 128
  let intent ← orError (lookup LaunchIntentRow.id intentId s.launchIntents)
    (.notFound s!"launch intent {intentId}")
  if intent.state = .cleaned then
    return ((), s)
  let now ← sqliteTimestamp nowMs
  let s := updateLaunchIntent s intentId intent.state (·.advance .cleaned now)
  let s ← insertAuditTx s "launch_intent_cleaned" intentId nowMs
  return ((), s)

/-- Mark an intent cleaned; a cleaned intent is left as it is. -/
def Store.cleanLaunchIntent : Result LaunchIntentRow × Store :=
  commitThen s (cleanLaunchIntentTx s intentId nowMs)
    fun _ s => reloadLaunchIntent crates s intentId "launch intent disappeared after cleanup"

/-! ### Frame bindings of prepared launches -/

/-- The checks on a recorded frame binding. -/
def readBootstrapBinding (bindings : List BootstrapBindingRow) (intentId invalid : String) :
    Result (Option BootstrapBindingRow) :=
  match lookup BootstrapBindingRow.intentId intentId bindings with
  | none => return none
  | some row => do
    ensure (isCanonicalUuid4 row.watchdogBootId ∧ isDigest row.frameSha256) (.conflict invalid)
    return some row

/-- The frame binding of a worker launch. -/
def Store.workerBootstrapBinding : Result (Option BootstrapBindingRow) := do
  ensure (s.metadata .workerBootstrapSchema = some "1")
    (.conflict "worker bootstrap schema missing or incompatible; explicit migration required")
  readBootstrapBinding s.workerBootstrapBindings intentId
    "invalid persisted worker bootstrap binding"

/-- Bind a frame digest to a prepared intent: the new table and whether a row was added. The
texts are those of the two callers, in the order of the checks. -/
def bindFrame (bindings : List BootstrapBindingRow) (binding : BootstrapBindingRow)
    (componentId launchNonce missing differs invalid replaced : String) :
    Result (List BootstrapBindingRow × Bool) := do
  requireRunningLaunchIntent s
  let intent ← orError (lookup LaunchIntentRow.id binding.intentId s.launchIntents)
    (.notFound missing)
  ensure (intent.componentId = componentId ∧ intent.launchNonce = launchNonce ∧
      intent.state = .prepared) (.conflict differs)
  match ← readBootstrapBinding bindings binding.intentId invalid with
  | some existing =>
    ensure (existing = binding) (.conflict replaced)
    return (bindings, false)
  | none => return (bindings ++ [binding], true)

def bindWorkerBootstrapTx (watchdogBootId launchNonce : UuidV4) (componentId frameSha256 : String)
    (nowMs : Nat) : Result (BootstrapBindingRow × Store) := do
  let binding : BootstrapBindingRow := ⟨intentId, watchdogBootId.text, frameSha256⟩
  ensure (s.metadata .workerBootstrapSchema = some "1")
    (.conflict "worker bootstrap schema missing or incompatible; explicit migration required")
  let (bindings, added) ← bindFrame s s.workerBootstrapBindings binding componentId
    launchNonce.text "bootstrap launch intent" "bootstrap differs from prepared launch intent"
    "invalid persisted worker bootstrap binding" "bootstrap binding cannot be replaced"
  let s := { s with workerBootstrapBindings := bindings }
  if added then
    let s ← insertAuditTx s "worker_bootstrap_bound" intentId nowMs
    return (binding, s)
  else
    return (binding, s)

/-- Bind validated worker frame bytes before launching. -/
def Store.bindWorkerBootstrap (watchdogBootId launchNonce : UuidV4)
    (componentId frameSha256 : String) (nowMs : Nat) : Result BootstrapBindingRow × Store :=
  commit s
    (bindWorkerBootstrapTx s intentId watchdogBootId launchNonce componentId frameSha256 nowMs)

def bindGatewayHealthTx (watchdogBootId launchNonce : UuidV4) (frameSha256 : String) (nowMs : Nat) :
    Result (BootstrapBindingRow × Store) := do
  let binding : BootstrapBindingRow := ⟨intentId, watchdogBootId.text, frameSha256⟩
  ensure (s.metadata .gatewayHealthSchema = some "1")
    (.conflict "gateway health schema missing or incompatible; explicit migration required")
  let (bindings, added) ← bindFrame s s.gatewayHealthBindings binding "gateway"
    launchNonce.text "gateway health launch intent"
    "gateway health differs from the prepared gateway launch"
    "invalid persisted gateway health binding" "gateway health binding cannot be replaced"
  let s := { s with gatewayHealthBindings := bindings }
  if added then
    let s ← insertAuditTx s "gateway_health_bound" intentId nowMs
    return (binding, s)
  else
    return (binding, s)

/-- Bind the digest of the gateway health frame before launching. -/
def Store.bindGatewayHealth (watchdogBootId launchNonce : UuidV4) (frameSha256 : String)
    (nowMs : Nat) : Result BootstrapBindingRow × Store :=
  commit s (bindGatewayHealthTx s intentId watchdogBootId launchNonce frameSha256 nowMs)

/-! ### Components and restarts -/

/-- A component observation. -/
structure ComponentRecord where
  id : String
  state : ComponentState
  launchNonce : Option String
  pid : Option Nat
  executableDigest : Option String
  startedAtMs : Option Nat
  restartAttempts : Nat
  lastRestartAtMs : Option Nat
  lastError : Option String
  deriving DecidableEq, Repr

/-- The row that an observation leaves, given the retained identity. -/
def ComponentRecord.toRow (identityJson : Option String) (now : Nat) : ComponentRow :=
  { id := record.id
    state := record.state
    launchNonce := record.launchNonce
    pid := record.pid
    executableDigest := record.executableDigest
    startedAtMs := record.startedAtMs
    restartAttempts := record.restartAttempts
    lastRestartAtMs := record.lastRestartAtMs
    lastError := record.lastError
    identityJson
    updatedAtMs := now }

def upsertComponentTx : Result (Unit × Store) := do
  validateName record.id "component id" 128
  forEach (fun error => validateDetail error "component error") record.lastError.toList
  forEach (fun time => do discard (sqliteTimestamp time))
    (record.startedAtMs.toList ++ record.lastRestartAtMs.toList)
  let now ← sqliteTimestamp nowMs
  -- an observation without a launch nonce drops the retained identity
  let kept (c : ComponentRow) := if record.launchNonce.isNone then none else c.identityJson
  let components :=
    if s.components.any (·.id == record.id) then
      updateWhere (·.id == record.id) (fun c => record.toRow (kept c) now) s.components
    else s.components ++ [record.toRow none now]
  return ((), { s with components })

/-- Persist a component observation. -/
def Store.upsertComponent : Result Unit × Store :=
  commit s (upsertComponentTx s record nowMs)

/-- The checks made when a component row is read back. -/
def componentRecordFromRow (row : ComponentRow) : Result ComponentRecord := do
  forEach (fun pid => do discard (sqliteU32 pid "component pid")) row.pid.toList
  discard (sqliteU32 row.restartAttempts "component restart_attempts")
  return { id := row.id, state := row.state, launchNonce := row.launchNonce, pid := row.pid,
           executableDigest := row.executableDigest, startedAtMs := row.startedAtMs,
           restartAttempts := row.restartAttempts, lastRestartAtMs := row.lastRestartAtMs,
           lastError := row.lastError }

/-- Read one persisted component state. -/
def Store.component (id : String) : Result (Option ComponentRecord) :=
  (lookup ComponentRow.id id s.components).mapM componentRecordFromRow

/-- The columns that a persisted identity writes. -/
def ComponentRow.setIdentity (c : ComponentRow) (identityJson launchNonce : Option String)
    (pid : Option Nat) (executableDigest : Option String) (now : Nat) : ComponentRow :=
  { c with identityJson, launchNonce, pid, executableDigest, updatedAtMs := now }

/-- What the store reads from a `ProcessIdentity`, with its encoding. -/
structure ProcessIdentity where
  launchNonce : String
  pid : Nat
  executableDigest : String
  encoded : String
  deriving DecidableEq, Repr

def persistComponentIdentityTx (identity : ProcessIdentity) (nowMs : Nat) :
    Result (Unit × Store) := do
  validateName componentId "component id" 128
  ensure (identity.encoded.utf8ByteSize ≤ 4 * 1024)
    (.invalidInput "process identity exceeds its bound")
  let now ← sqliteTimestamp nowMs
  ensure (s.components.any (·.id == componentId)) (.notFound s!"component {componentId}")
  let write (c : ComponentRow) := c.setIdentity (some identity.encoded)
    (some identity.launchNonce) (some identity.pid) (some identity.executableDigest) now
  return ((), { s with components := updateWhere (·.id == componentId) write s.components })

/-- Persist the complete launch identity. -/
def Store.persistComponentIdentity (identity : ProcessIdentity) (nowMs : Nat) :
    Result Unit × Store :=
  commit s (persistComponentIdentityTx s componentId identity nowMs)

def clearComponentIdentityTx : Result (Unit × Store) := do
  let now ← sqliteTimestamp nowMs
  let write (c : ComponentRow) := c.setIdentity none none none none now
  return ((), { s with components := updateWhere (·.id == componentId) write s.components })

/-- Remove an identity after the exact child has been stopped. -/
def Store.clearComponentIdentity : Result Unit × Store :=
  commit s (clearComponentIdentityTx s componentId nowMs)

/-- The events of the current clock epoch of a component. -/
def RestartEventRow.ofEpoch (e : RestartEventRow) (componentId epoch : String) : Bool :=
  e.componentId == componentId && e.clockEpoch == epoch

/-- The elapsed time of a restart: never before the last recorded one of this epoch. -/
def observedElapsed (elapsedMs : Nat) : Nat :=
  ((s.restartEvents.filter (·.ofEpoch componentId s.restartClockEpoch)).map
    RestartEventRow.clockElapsedMs).foldl max elapsedMs

/-- Events of other epochs, and those of this one that are inside the window. -/
def countRestarts (cutoff : Nat) : Nat :=
  s.restartEvents.countP fun e =>
    e.componentId == componentId &&
      (e.clockEpoch != s.restartClockEpoch || cutoff ≤ e.clockElapsedMs)

/-- The restarts of a component in the rolling window. -/
def Store.restartCountWithElapsed (elapsedMs windowMs : Nat) : Result Nat := do
  validateName componentId "component id" 128
  let cutoff ← sqliteTimestamp (elapsedMs - windowMs)
  let count := countRestarts s componentId cutoff
  ensure (count < 2 ^ 32) (.conflict "restart count overflow")
  return count

def recordRestartTx (nowMs elapsedMs windowMs : Nat) : Result (Nat × Store) := do
  validateName componentId "component id" 128
  let observed := observedElapsed s componentId elapsedMs
  let cutoff := observed - windowMs
  discard (sqliteTimestamp cutoff)
  let now ← sqliteTimestamp nowMs
  let elapsed ← sqliteTimestamp observed
  let expired (e : RestartEventRow) :=
    e.ofEpoch componentId s.restartClockEpoch && e.clockElapsedMs < cutoff
  let kept := s.restartEvents.filter fun e => !expired e
  let s := { s with restartEvents := kept ++ [⟨componentId, now, s.restartClockEpoch, elapsed⟩] }
  let s ← insertAuditTx s "component_restart_recorded" componentId nowMs
  return (countRestarts s componentId cutoff, s)

/-- Record a restart with a monotonic elapsed observation. The count is narrowed to 32 bits after
the transaction. -/
def Store.recordRestartWithElapsed (nowMs elapsedMs windowMs : Nat) : Result Nat × Store :=
  commitThen s (recordRestartTx s componentId nowMs elapsedMs windowMs) fun count _ => do
    ensure (count < 2 ^ 32) (.conflict "restart count overflow")
    return count

end AscensionWatchdog
