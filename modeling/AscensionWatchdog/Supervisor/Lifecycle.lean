import AscensionWatchdog.Supervisor.World

/-!
# Starting, aborting and stopping a component

The process effects of reconciliation. A start commits the launch intent and its frame bindings
before any process exists, reads the desired mode once more, and only then launches; a launch that
cannot be bound to its intent afterwards is aborted. A stop that is not confirmed keeps the handle
and leaves the component quarantined.

An intent is settled (`cleanLaunchIntent`) in few places, each behind the fact that lets it: before
the launch, after a launch that ended with an ordinary error, and after a stop which reported the
process gone.
-/

namespace AscensionWatchdog

open Foundation Foundation.Json Program

variable (crates : Crates) (sv : Supervisor)

/-! ### Rows of a component -/

def attemptsOf (prior : Option ComponentRecord) : Nat :=
  (prior.map ComponentRecord.restartAttempts).getD 0

def lastRestartOf (prior : Option ComponentRecord) : Option Nat :=
  prior.bind ComponentRecord.lastRestartAtMs

/-- A row without a process. -/
def processlessRecord (id : String) (state : ComponentState) (startedAtMs : Option Nat)
    (restartAttempts : Nat) (lastRestartAtMs : Option Nat) (lastError : Option String) :
    ComponentRecord where
  id := id
  state := state
  launchNonce := none
  pid := none
  executableDigest := none
  startedAtMs := startedAtMs
  restartAttempts := restartAttempts
  lastRestartAtMs := lastRestartAtMs
  lastError := lastError

/-- A row that names the process of an owned child. -/
def childRecord (id : String) (state : ComponentState) (identity : ChildIdentity)
    (restartAttempts : Nat) (lastRestartAtMs : Option Nat) (lastError : Option String) :
    ComponentRecord where
  id := id
  state := state
  launchNonce := some identity.launchNonce
  pid := some identity.pid
  executableDigest := some identity.executableDigest
  startedAtMs := some identity.startedAtMs
  restartAttempts := restartAttempts
  lastRestartAtMs := lastRestartAtMs
  lastError := lastError

/-- The prior row in another state, with another error. -/
def retainedRecord (id : String) (state : ComponentState) (prior : Option ComponentRecord)
    (lastError : Option String) : ComponentRecord where
  id := id
  state := state
  launchNonce := prior.bind ComponentRecord.launchNonce
  pid := prior.bind ComponentRecord.pid
  executableDigest := prior.bind ComponentRecord.executableDigest
  startedAtMs := prior.bind ComponentRecord.startedAtMs
  restartAttempts := attemptsOf prior
  lastRestartAtMs := lastRestartOf prior
  lastError := lastError

variable (component : ComponentConfig) (intentId : String) (intent : LaunchIntentRow)
  (nonce : UuidV4) (child : RuntimeChild) (nowMs : Nat)

def quarantineComponent (launchNonce : Option String) (pid : Option Nat)
    (executableDigest : Option String) (startedAtMs : Option Nat) (error : String) (nowMs : Nat) :
    SupervisorM Unit := do
  let prior ← readComponent component.id
  upsertComponent
    { id := component.id
      state := .quarantined
      launchNonce, pid, executableDigest, startedAtMs
      restartAttempts := attemptsOf prior
      lastRestartAtMs := lastRestartOf prior
      lastError := some error } nowMs

/-- Write the row of an owned child in quarantine. The two columns that are kept are read one after
the other. -/
def quarantineChild (identity : ChildIdentity) (error : String) (nowMs : Nat) :
    SupervisorM Unit := do
  let forAttempts ← readComponent component.id
  let forLastRestart ← readComponent component.id
  upsertComponent
    (childRecord component.id .quarantined identity (attemptsOf forAttempts)
      (lastRestartOf forLastRestart) (some error)) nowMs

/-- Write the row of a component whose process is gone, with the same two reads. -/
def stopRow : SupervisorM Unit := do
  let forAttempts ← readComponent component.id
  let forLastRestart ← readComponent component.id
  upsertComponent
    (processlessRecord component.id .stopped none (attemptsOf forAttempts)
      (lastRestartOf forLastRestart) none) nowMs

def retainQuarantinedChild (error : String) (nowMs : Nat) : SupervisorM Unit := do
  setChild component.id (some child)
  quarantineComponent component (some child.identity.launchNonce) (some child.identity.pid)
    (some child.identity.executableDigest) (some child.identity.startedAtMs) error nowMs
  auditEvent "launch_intent_quarantined" s!"{intentId}:owned_child_retained" nowMs

/-! ### The release gate -/

/-- No component is launched before the exact release identity has been activated. -/
def releaseStartGate : SupervisorM (Except String Unit) := do
  if !sv.config.releaseCatalog then
    return .ok ()
  else
    match ← attempt (storeRead readSelection) with
    | .error (error : WatchdogError) =>
      return .error s!"release selector unavailable: {error.display}"
    | .ok selection =>
      match selection.active with
      | none => return .error "no release has been explicitly activated"
      | some active =>
        match ← nextAnswer fun | .release r => some r | _ => none with
        | .error text => return .error s!"active release failed protected verification: {text}"
        | .ok inspection =>
          if inspection.manifestDigest ≠ active.releaseDigest then
            return .error "active release selector digest differs from protected bytes"
          else if !inspection.compatible then
            return .error "active release is incompatible with current configuration"
          else return .ok ()

/-! ### Starting -/

def runtimeIncarnation (restartGeneration : Int) : Result String := do
  ensure (0 < restartGeneration)
    (.conflict "restart generation must be positive before native launch")
  return s!"watchdog-generation-{restartGeneration}"

/-- The digest of the worker frame of this launch, for the component that has one. -/
def prepareWorkerBootstrap : SupervisorM (Option String) :=
  if sv.config.allowSyntheticChildren ∨
      sv.config.worker.all (·.componentId != component.id) then
    return none
  else do
    return some (← askHost)

/-- The digest of the health frame of this launch, for the component that has one. -/
def prepareGatewayHealth : SupervisorM (Option String) :=
  if sv.config.gatewayHealth ≠ some component.id then return none
  else if sv.config.allowSyntheticChildren then
    fail (.unsupported "gateway health requires native retained child ownership")
  else do
    return some (← askHost)

/-- Bind the digest of a frame to the prepared intent. No process exists yet, so an intent whose
frame cannot be bound is settled at once. -/
def bindPrepared (bind : Store → Result BootstrapBindingRow × Store) (frame : String)
    (nowMs : Nat) : SupervisorM Unit := do
  match ← attempt (storeCall bind) with
  | .ok _ => return ()
  | .error (error : WatchdogError) =>
    match ← attempt (cleanLaunchIntent crates intent.id nowMs) with
    | .error (cleanup : WatchdogError) => do
      quarantineComponent component (some intent.launchNonce) none none none
        s!"{frame} binding and prepared-intent cleanup failed" nowMs
      fail (.conflict
        s!"{frame} binding failed ({error.display}); intent cleanup failed ({cleanup.display})")
    | .ok _ => fail error

def bindPreparedWorkerBootstrap (frameSha256 : String) (nowMs : Nat) : SupervisorM Unit :=
  bindPrepared crates component intent
    (fun s => s.bindWorkerBootstrap intent.id sv.workerBootId nonce component.id frameSha256 nowMs)
    "worker bootstrap" nowMs

def bindPreparedGatewayHealth (frameSha256 : String) (nowMs : Nat) : SupervisorM Unit :=
  bindPrepared crates component intent
    (fun s => s.bindGatewayHealth intent.id sv.workerBootId nonce frameSha256 nowMs)
    "gateway health" nowMs

/-- Why a cleanup is uncertain, in the order in which the source looks. -/
def abortCleanupError (cleanup : Result RuntimeStopOutcome) (intentCleanup clearIdentity :
    Option WatchdogError) : String :=
  match cleanup with
  | .error error => error.display
  | .ok _ =>
    match intentCleanup, clearIdentity with
    | some error, _ => error.display
    | none, some error => error.display
    | none, none => "launch cleanup or durable cleanup failed"

/-- Keep the handle of a launch whose cleanup is uncertain. A row that cannot be written is not
reported. -/
def retainUncertain (attempts nowMs : Nat) (error : WatchdogError) (cleanupError : String) :
    SupervisorM Unit := do
  setChild component.id (some child)
  let _ ← (attempt (upsertComponent
    (childRecord component.id .quarantined child.identity attempts (some nowMs)
      (some s!"{error.display}; exact cleanup failed: {cleanupError}")) nowMs) :
    SupervisorM (Except WatchdogError Unit))
  fail error

/-- The durable part of an abort, once the process is reported gone. -/
def settleAborted (attempts nowMs : Nat) (error : WatchdogError)
    (cleanup : Result RuntimeStopOutcome) : SupervisorM Unit := do
  match ← attempt (cleanLaunchIntent crates intentId nowMs) with
  | .error (intentError : WatchdogError) =>
    retainUncertain component child attempts nowMs error
      (abortCleanupError cleanup (some intentError) none)
  | .ok _ =>
    match ← attempt (clearComponentIdentity component.id nowMs) with
    | .error (clearError : WatchdogError) =>
      retainUncertain component child attempts nowMs error
        (abortCleanupError cleanup none (some clearError))
    | .ok _ =>
      match ← attempt (upsertComponent
          (processlessRecord component.id .stopped (some child.identity.startedAtMs) attempts
            (some nowMs) (some error.display)) nowMs) with
      | .error (storeError : WatchdogError) => do
        setChild component.id (some child)
        fail storeError
      | .ok _ => fail error

/-- End a launch that cannot be bound to its intent. It always reports the error that led here. -/
def abortLaunchedChild (attempts nowMs : Nat) (error : WatchdogError) : SupervisorM Unit := do
  let cleanup ← attempt (stop child)
  if cleanup.toOption.any RuntimeStopOutcome.isGone then
    settleAborted crates component intentId child attempts nowMs error cleanup
  else
    retainUncertain component child attempts nowMs error (abortCleanupError cleanup none none)

/-- Go on with the value, or abort with the error. -/
def orAbort {α : Type} (m : SupervisorM α) (abort : WatchdogError → SupervisorM Unit)
    (next : α → SupervisorM Unit) : SupervisorM Unit := do
  match ← attempt m with
  | .ok a => next a
  | .error (error : WatchdogError) => abort error

/-- Bind a launched child to its intent and take it over. -/
def adoptLaunched (attempts restartCount nowMs : Nat) : SupervisorM Unit :=
  let abort := abortLaunchedChild crates component intent.id child attempts nowMs
  orAbort ownershipProof abort fun proof =>
  -- the proof is checked against the original launch binding
  orAbort askHost abort fun _ =>
  orAbort (storeCall fun s => s.recordLaunchProof crates intent.id proof nowMs) abort fun _ =>
  orAbort (upsertComponent
    (childRecord component.id .running child.identity attempts (some nowMs) none) nowMs) abort
    fun _ =>
  orAbort (storeCall fun s =>
    s.persistComponentIdentity component.id child.identity.toProcessIdentity nowMs) abort fun _ =>
  orAbort (storeCall fun s => s.activateLaunchIntent crates intent.id nowMs) abort fun _ =>
  orAbort (auditEvent "component_started"
    s!"{component.id}:pid={child.identity.pid};restart_count={restartCount}" nowMs) abort fun _ => do
  setChild component.id (some child)
  editReport fun r => { r with started := r.started ++ [component.id] }

/-- The outcome of a launch that ended with an ordinary error. -/
def settleFailedLaunch (attempts nowMs : Nat) (error : WatchdogError) : SupervisorM Unit := do
  match ← attempt (cleanLaunchIntent crates intent.id nowMs) with
  | .error (cleanError : WatchdogError) => do
    quarantineComponent component (some intent.launchNonce) none none (some nowMs)
      s!"{error.display}; launch-intent cleanup failed: {cleanError.display}" nowMs
    reportError s!"{component.id}: {error.display}"
  | .ok _ => do
    clearComponentIdentity component.id nowMs
    upsertComponent
      (processlessRecord component.id .stopped (some nowMs) attempts (some nowMs)
        (some error.display)) nowMs
    reportError s!"{component.id}: {error.display}"

/-- A launch whose containment could not be proven empty: the intent stays prepared, since settling
it would permit a duplicate launch. -/
def retainUncertainLaunch (error : WatchdogError) : SupervisorM Unit := do
  quarantineComponent component (some intent.launchNonce) none none (some nowMs)
    s!"{error.display}; exact launch containment cleanup is uncertain" nowMs
  auditEvent "launch_intent_quarantined" s!"{intent.id}:linux-launch-cleanup-uncertain" nowMs
  reportError s!"{component.id}: {error.display}"

/-- Launch an admitted intent. -/
def launchAdmitted (planned : String) (bootstraps : LaunchBootstraps)
    (attempts restartCount nowMs : Nat) : SupervisorM Unit := do
  match ← launch sv component.id intent.id planned bootstraps with
  | .ok child => adoptLaunched crates component intent child attempts restartCount nowMs
  | .error (.cleanupUncertain error) => retainUncertainLaunch component intent nowMs error
  | .error (.ordinary error) => settleFailedLaunch crates component intent attempts nowMs error

/-- `u32::saturating_add`. -/
def nextAttempt (attempts : Nat) : Nat :=
  min (attempts + 1) (2 ^ 32 - 1)

/-- Record the restart and launch. -/
def launchPrepared (planned : String) (bootstraps : LaunchBootstraps) (nowMs : Nat) :
    SupervisorM Unit := do
  let elapsed ← readElapsed
  let restartCount ← storeCall fun s =>
    s.recordRestartWithElapsed component.id nowMs elapsed sv.config.policy.restartBudgetWindowMs
  let prior ← readComponent component.id
  let attempts := nextAttempt (attemptsOf prior)
  upsertComponent
    (processlessRecord component.id .starting (some nowMs) attempts (some nowMs) none) nowMs
  launchAdmitted crates sv component intent planned bootstraps attempts restartCount nowMs

/-- What follows the commit of the intent: the frame bindings, and a last look at the mode. -/
def admitPrepared (planned : String) (worker health : Option String) (nowMs : Nat) :
    SupervisorM Unit := do
  forSome (fun frame => bindPreparedWorkerBootstrap crates sv component intent nonce frame nowMs)
    worker
  forSome (fun frame => bindPreparedGatewayHealth crates sv component intent nonce frame nowMs)
    health
  let mode ← storeRead Store.desiredMode
  if mode ≠ .running then
    cleanLaunchIntent crates intent.id nowMs
  else
    launchPrepared crates sv component intent planned
      ⟨worker.map fun frame => ⟨intent.id, sv.workerBootId.text, frame⟩, health.isSome⟩ nowMs

/-- Prepare the launch of a component in a running deployment. -/
def startAdmitted : SupervisorM Unit := do
  let status ← storeRead Store.status
  let incarnation ← ofExcept (runtimeIncarnation status.restartGeneration)
  let nonce ← newUuid
  let worker ← prepareWorkerBootstrap sv component
  let _ ← askHost -- the launch specification
  let health ← prepareGatewayHealth sv component
  let _ ← askHost -- the process authority is ready
  let planned ← askHost
  let digest ← askHost
  let id ← newUuid
  let intent ← storeCall fun s =>
    s.prepareLaunchIntent crates component.id nonce.text incarnation digest (some planned) nowMs id
  admitPrepared crates sv component intent nonce planned worker health nowMs

def startComponent : SupervisorM Unit := do
  let mode ← storeRead Store.desiredMode
  if mode ≠ .running then return ()
  else startAdmitted crates sv component nowMs

/-! ### Stopping -/

/-- Whether the row names a process, by its pid or by a persisted identity. -/
def namesProcess : Option ComponentRecord → SupervisorM Bool
  | none => return false
  | some record =>
    if record.pid.isSome then return true
    else do
      let identity ← componentIdentity sv component.id
      return identity.isSome

/-- Stop a component without an owned handle. A recorded process is never killed by its pid. -/
def stopUnowned : SupervisorM Unit := do
  let prior ← readComponent component.id
  let recorded ← namesProcess sv component prior
  if recorded then do
    upsertComponent
      (retainedRecord component.id .quarantined prior
        (some "owned child handle unavailable; exact orphan identity retained")) nowMs
    reportQuarantined component.id
  else
    upsertComponent
      (processlessRecord component.id .stopped none (attemptsOf prior) (lastRestartOf prior) none)
      nowMs

/-- The process of an owned child is gone: settle its intent, and then release the handle. -/
def settleStopped : SupervisorM Unit := do
  match ← attempt (cleanLaunchIntent crates child.intentId nowMs) with
  | .error (error : WatchdogError) => do
    quarantineChild component child.identity
      s!"exact process stopped but launch intent cleanup failed: {error.display}" nowMs
    reportQuarantined component.id
    reportError s!"{component.id}: {error.display}"
  | .ok _ => do
    setChild component.id none
    auditEvent "component_stopped" s!"{component.id}:status=exited" nowMs
    stopRow component nowMs
    clearComponentIdentity component.id nowMs
    editReport fun r => { r with stopped := r.stopped ++ [component.id] }

/-- Stop an owned child. -/
def stopOwned : SupervisorM Unit := do
  auditEvent "component_stop_intent" component.id nowMs
  match ← attempt (stop child) with
  | .ok outcome =>
    if outcome.isGone then settleStopped crates component child nowMs
    else do
      quarantineChild component child.identity "owned containment stop timed out" nowMs
      reportQuarantined component.id
      reportError s!"{component.id}: owned containment stop timed out"
  | .error (error : WatchdogError) => do
    quarantineChild component child.identity error.display nowMs
    reportQuarantined component.id
    reportError s!"{component.id}: {error.display}"

def stopComponent : SupervisorM Unit := do
  match ← getChild component.id with
  | none => stopUnowned sv component nowMs
  | some child => stopOwned crates component child nowMs

end AscensionWatchdog
