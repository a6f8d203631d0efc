import AscensionWatchdog.Supervisor.Lifecycle

/-!
# Recovery of persisted launches and identities

The first pass of an instance looks at what an earlier one left: first at every launch intent that
is not settled, then at the identities in the component rows. A recorded launch is the only route by
which a restarted supervisor takes over a process; what cannot be decided is quarantined and the
intent is kept.

Whether a persisted proof fits its original launch, and whether a persisted identity still names a
live process, are checks of the host.
-/

namespace AscensionWatchdog

open Foundation Foundation.Json Program

variable (crates : Crates) (sv : Supervisor)

/-! ### Intents that are kept -/

variable (component : ComponentConfig) (intent : LaunchIntentRow) (child : RuntimeChild)
  (nowMs : Nat)

/-- Quarantine the component of an intent that is kept. -/
def quarantineIntent (error tag : String) (nowMs : Nat) : SupervisorM Unit := do
  quarantineComponent component (some intent.launchNonce) none none none error nowMs
  auditEvent "launch_intent_quarantined" s!"{intent.id}:{tag}" nowMs

/-- Keep an intent whose process has no handle that could be rebuilt. -/
def retainUnreconstructable : SupervisorM Unit := do
  let prior ← readComponent component.id
  upsertComponent
    { retainedRecord component.id .quarantined prior
        (some "unreconstructable launch intent retained for operator quarantine") with
      launchNonce := some intent.launchNonce } nowMs
  auditEvent "launch_intent_quarantined" s!"{intent.id}:unreconstructable" nowMs

/-- Keep the handle of a recovered child whose stop is not confirmed. -/
def retainUnstopped (tag : String) (nowMs : Nat) : SupervisorM Unit := do
  setChild component.id (some child)
  auditEvent "launch_intent_quarantined" s!"{intent.id}:{tag}" nowMs

/-- Go on with a recovered child, or keep its handle in quarantine. -/
def orRetain {α : Type} (component : ComponentConfig) (intent : LaunchIntentRow)
    (child : RuntimeChild) (failure : String) (nowMs : Nat) (m : SupervisorM α)
    (next : α → SupervisorM Unit) : SupervisorM Unit :=
  orAbort m
    (fun error => retainQuarantinedChild component intent.id child
      s!"{failure}: {error.display}" nowMs) next

/-! ### Prepared launches -/

/-- The durable part of the recovery of a prepared launch whose containment is gone. -/
def settlePrepared : SupervisorM Unit := do
  cleanLaunchIntent crates intent.id nowMs
  clearComponentIdentity component.id nowMs
  let prior ← readComponent component.id
  upsertComponent
    (processlessRecord component.id .stopped none (attemptsOf prior) (some nowMs)
      (some "prepared launch intent was reconciled by exact containment")) nowMs
  auditEvent "launch_intent_reconciled" s!"{intent.id}:prepared_containment_cleaned" nowMs

/-- Recover a launch of which no proof was recorded. -/
def recoverPrepared : SupervisorM Unit :=
  match intent.plannedContainmentId with
  | none =>
    quarantineIntent component intent
      "prepared launch intent has no planned containment authority" "prepared_without_containment"
      nowMs
  | some planned => do
    let cleanup ← attempt (cleanupPlannedContainment intent.id planned)
    if cleanup.toOption.any RuntimeStopOutcome.isGone then
      settlePrepared crates component intent nowMs
    else
      quarantineIntent component intent "prepared launch containment cleanup remains uncertain"
        "prepared_containment_uncertain" nowMs

/-! ### Recorded launches -/

/-- A recovered worker is never used again: its handle only has the authority to end it. -/
def retireRecoveredWorker : SupervisorM Unit := do
  let binding ← attempt (storeRead fun s => s.workerBootstrapBinding intent.id)
  let reason :=
    match binding with
    | .ok (some row) =>
      if row.watchdogBootId = sv.workerBootId.text then
        "persisted worker has no current in-memory bootstrap handoff proof"
      else "persisted worker belongs to a previous watchdog bootstrap"
    | .ok none => "persisted worker has no bootstrap binding"
    | .error (_ : WatchdogError) => "persisted worker bootstrap binding is unavailable"
  retainQuarantinedChild component intent.id child reason nowMs
  withScratchReport (stopComponent crates sv component nowMs)

/-- Neither can a recovered gateway be: the keys of its health session are lost. -/
def retireRecoveredGateway : SupervisorM Unit := do
  retainQuarantinedChild component intent.id child
    "recovered gateway has no current in-memory health key" nowMs
  withScratchReport (stopComponent crates sv component nowMs)

/-- The durable part of the recovery of a child that is gone. `ended` says in the texts how it came
to be gone. -/
def settleRecovered (ended : String) (record : Option ComponentRecord → ComponentRecord)
    (nowMs : Nat) : SupervisorM Unit :=
  orRetain component intent child s!"{ended} launch intent cleanup failed" nowMs
    (cleanLaunchIntent crates intent.id nowMs) fun _ =>
  orRetain component intent child s!"{ended} component identity cleanup failed" nowMs
    (clearComponentIdentity component.id nowMs) fun _ => do
  let prior ← readComponent component.id
  orRetain component intent child s!"{ended} component state cleanup failed" nowMs
    (upsertComponent (record prior) nowMs) fun _ => return ()

/-- Stop a recovered child and settle it, or keep its handle. -/
def endRecovered (ended tag : String) (record : Option ComponentRecord → ComponentRecord)
    (nowMs : Nat) : SupervisorM Unit := do
  let stopped ← attempt (stop child)
  if stopped.toOption.any RuntimeStopOutcome.isGone then
    settleRecovered crates component intent child ended record nowMs
  else retainUnstopped component intent child tag nowMs

/-- A recovered child that runs in a deployment which does not. -/
def stopRecovered : SupervisorM Unit :=
  endRecovered crates component intent child "stopped" "stop_uncertain"
    (fun prior => processlessRecord component.id .stopped none (attemptsOf prior) (some nowMs) none)
    nowMs

/-- A recovered child that has exited. -/
def reapRecovered : SupervisorM Unit :=
  endRecovered crates component intent child "exited" "exited_cleanup_uncertain"
    (fun prior => processlessRecord component.id .stopped none (attemptsOf prior)
      (lastRestartOf prior) (some "persisted launch exited before recovery")) nowMs

/-- Persist the identity of a recovered child and take it over. -/
def keepRecovered : SupervisorM Unit :=
  orRetain component intent child "persisted process identity could not be stored" nowMs
    (storeCall fun s =>
      s.persistComponentIdentity component.id child.identity.toProcessIdentity nowMs) fun _ => do
  setChild component.id (some child)
  auditEvent "launch_intent_recovered" s!"{intent.id}:pid={child.identity.pid}" nowMs

/-- Take over a recovered child; a launch that was recorded and not activated is activated first. -/
def adoptRecovered : SupervisorM Unit :=
  if intent.state = .proofRecorded then
    orRetain component intent child "recovered launch proof could not be materialized" nowMs
      ownershipProof fun _ =>
    orRetain component intent child "recovered launch proof changed before activation" nowMs
      askHost fun _ =>
    orRetain component intent child "persisted launch activation failed" nowMs
      (storeCall fun s => s.activateLaunchIntent crates intent.id nowMs) fun _ =>
    keepRecovered component intent child nowMs
  else keepRecovered component intent child nowMs

/-- Keep the handle of a recovered child that the platform does not recognise. -/
def holdAmbiguous : SupervisorM Unit := do
  setChild component.id (some child)
  quarantineChild component child.identity
    "persisted process authority is ambiguous during recovery" nowMs
  auditEvent "launch_intent_quarantined" s!"{intent.id}:authority_ambiguous" nowMs

/-- Inspect a recovered child and decide about it. -/
def inspectRecovered : SupervisorM Unit := do
  match ← attempt inspect with
  | .error (error : WatchdogError) =>
    retainQuarantinedChild component intent.id child
      s!"persisted process authority could not be inspected: {error.display}" nowMs
  | .ok .running => do
    let mode ← storeRead Store.desiredMode
    if mode ≠ .running then stopRecovered crates component intent child nowMs
    else adoptRecovered crates component intent child nowMs
  | .ok (.exited _) | .ok .missing => reapRecovered crates component intent child nowMs
  | .ok .identityMismatch | .ok .ambiguous => holdAmbiguous component intent child nowMs

/-- What becomes of a child whose handle was rebuilt. -/
def placeRecovered : SupervisorM Unit :=
  if sv.config.worker.any (·.componentId == component.id) then
    retireRecoveredWorker crates sv component intent child nowMs
  else if sv.config.gatewayHealth = some component.id then
    retireRecoveredGateway crates sv component intent child nowMs
  else inspectRecovered crates component intent child nowMs

/-- Recover a launch of which a proof was recorded. -/
def recoverRecorded : SupervisorM Unit := do
  let _ ← askHost -- the launch specification
  let _ ← ofExcept (orError intent.plannedContainmentId
    (.conflict "launch intent has no planned containment for proof recovery"))
  let _ ← ofExcept (orError intent.ownershipProofJson
    (.conflict s!"launch intent {intent.id} has no ownership proof for recovery"))
  match ← attempt askHost with -- the proof fits the original binding
  | .error (error : WatchdogError) =>
    quarantineIntent component intent
      s!"persisted launch proof failed original binding: {error.display}" "binding_mismatch" nowMs
  | .ok _ =>
    match ← attempt (recoverIntent intent) with
    | .error (error : WatchdogError) =>
      quarantineIntent component intent
        s!"persisted launch authority could not be recovered: {error.display}" "recovery_failed"
        nowMs
    | .ok none => retainUnreconstructable component intent nowMs
    | .ok (some child) => placeRecovered crates sv component intent child nowMs

/-! ### The two recovery passes -/

/-- Recover one launch intent that is not settled. -/
def recoverLaunchIntent (intent : LaunchIntentRow) : SupervisorM Unit :=
  match sv.config.components.find? (·.id == intent.componentId) with
  | none =>
    auditEvent "launch_intent_quarantined" s!"{intent.id}:component_not_configured" nowMs
  | some component =>
    if intent.expectedIncarnation.isNone ∨ intent.expectedLaunchSpecDigest.isNone then
      quarantineIntent component intent "legacy launch intent has no persisted launch binding"
        "legacy_unbound" nowMs
    else if intent.state = .prepared then recoverPrepared crates component intent nowMs
    else recoverRecorded crates sv component intent nowMs

def reconcilePersistedLaunchIntents : SupervisorM Unit := do
  let intents ← storeRead fun s => s.unsettledLaunchIntents crates
  forEach (recoverLaunchIntent crates sv nowMs) intents

/-- Decide about a persisted identity that no intent and no handle accounts for: a live process is
quarantined, and the identity is cleared only after it was proven stale. -/
def settlePersistedIdentity (record : ComponentRecord) (identity : ChildIdentity) (nowMs : Nat) :
    SupervisorM Unit := do
  let quarantined (error : String) :=
    childRecord component.id .quarantined identity record.restartAttempts record.lastRestartAtMs
      (some error)
  match ← attempt askHost with
  | .ok _ => do
    upsertComponent (quarantined "live persisted child has no owned handle; relaunch blocked") nowMs
    auditEvent "orphan_child_quarantined" component.id nowMs
  | .error (.identityMismatch _) => do
    clearComponentIdentity component.id nowMs
    upsertComponent
      (processlessRecord component.id .stopped none record.restartAttempts record.lastRestartAtMs
        (some "persisted child identity is stale")) nowMs
    auditEvent "orphan_identity_stale" component.id nowMs
  | .error error => do
    upsertComponent
      (quarantined s!"persisted child identity could not be verified: {error.display}") nowMs
    auditEvent "orphan_identity_unverified" component.id nowMs

/-- The identity of a component without an owned child and without an unsettled intent. -/
def reconcileOrphan : SupervisorM Unit := do
  match ← readComponent component.id with
  | none => return ()
  | some record =>
    let identity? ← componentIdentity sv component.id
    match identity? with
    | some identity => settlePersistedIdentity component record identity nowMs
    | none =>
      if record.pid.isNone then return ()
      else do
        upsertComponent
          (retainedRecord component.id .quarantined (some record)
            (some "persisted process has no complete launch identity; relaunch blocked")) nowMs
        auditEvent "orphan_identity_incomplete" component.id nowMs

/-- Reconcile the identity of one component. -/
def reconcilePersistedIdentity (component : ComponentConfig) : SupervisorM Unit := do
  match ← getChild component.id with
  | some _ => return ()
  | none => do
    let intents ← storeRead fun s => s.unsettledLaunchIntents crates
    -- an unsettled intent owns the admission decision of its component
    if intents.any (·.componentId == component.id) then return ()
    else reconcileOrphan sv component nowMs

def reconcilePersistedIdentities : SupervisorM Unit :=
  forEach (reconcilePersistedIdentity crates sv nowMs) sv.config.components

end AscensionWatchdog
