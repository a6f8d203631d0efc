import AscensionWatchdog.Supervisor.Lifecycle

/-!
# Reconciling one component

`reconcileComponent` inspects the owned child of a component, settles one that has exited, asks the
policy, and applies its decision. A child whose identity is ambiguous, or which cannot be inspected,
keeps its handle and the component is quarantined without asking the policy.

A running deployment with a release catalog launches nothing before the release gate passes
(`gateComponent`). A component that the gate holds back is recorded as blocked, whatever it was
before, and a later pass on which the gate passes treats a blocked component as a stopped one.
-/

namespace AscensionWatchdog

open Foundation Foundation.Json Program

variable (crates : Crates) (sv : Supervisor)

/-! ### Health of the gateway and of the worker -/

variable (componentId : String) (component : ComponentConfig) (desiredMode : DesiredMode)
  (child : RuntimeChild) (seen : Observed) (decision : ReconcileDecision)

/-- Probe the health of the gateway through its owned child. -/
def probeGatewayHealth : SupervisorM Unit :=
  if sv.config.gatewayHealth ≠ some component.id ∨ desiredMode = .stopped ∨
      desiredMode = .draining then
    return ()
  else do
    .modify fun w => { w with gatewayHealthWitness := none }
    match ← getChild component.id with
    | none => return ()
    | some child =>
      match ← nextAnswer fun | .gatewayHealth r => some r | _ => none with
      | .ok status =>
        .modify fun w => { w with gatewayHealthWitness := some ⟨child.identity, status⟩ }
      | .error error => reportError s!"gateway health unavailable: {error}"

/-- The age of the authenticated worker probe, if it describes the owned child. -/
def workerHeartbeatAgeMs : SupervisorM (Option Nat) := do
  let witness? ← .gets World.workerHeartbeat
  let child? ← getChild componentId
  match witness?, child? with
  | some witness, some child =>
    if witness.componentId ≠ componentId ∨ witness.identity ≠ child.identity then return none
    else do
      let elapsed ← readElapsed
      return some elapsed
  | _, _ => return none

/-- The age of the gateway heartbeat, with the round trip of its probe. -/
def gatewayHeartbeatAgeMs : SupervisorM (Option Nat) := do
  let witness? ← .gets World.gatewayHealthWitness
  let child? ← getChild componentId
  match witness?, child? with
  | some witness, some child =>
    if sv.config.gatewayHealth ≠ some componentId ∨ witness.identity ≠ child.identity then
      return none
    else do
      let elapsed ← readElapsed
      return witness.status.heartbeatAgeMs.bind fun age =>
        if age + elapsed ≤ u64Max then some (age + elapsed) else none
  | _, _ => return none

/-- The worker's heartbeat, or else the gateway's. -/
def heartbeatAgeMs : SupervisorM (Option Nat) := do
  match ← workerHeartbeatAgeMs componentId with
  | some age => return some age
  | none => gatewayHeartbeatAgeMs sv componentId

/-! ### Applying a decision -/

/-- What a pass knows about a component when it asks the policy. -/
structure Observed where
  prior : Option ComponentRecord
  isRunning : Bool
  observation : ComponentObservation

/-- A retained child whose cleanup outcome is unknown keeps its quarantine. -/
def Observed.uncertainCleanup : Bool :=
  seen.isRunning && seen.prior.any (·.state == .quarantined)

/-- The state that a pass without an action records for an owned child. -/
def Observed.restingState (desiredMode : DesiredMode) (decision : ReconcileDecision) :
    ComponentState :=
  if seen.uncertainCleanup then .quarantined
  else if desiredMode = .paused then .paused
  else if desiredMode.stopsChildren then .stopped
  else if decision.action = .markSuspect then .suspect
  else if seen.isRunning then .running
  else decision.resultingState

/-- A pass without an action: the row of an owned child is refreshed, and under a durable stop the
row of a component without one says that it is stopped. -/
def restComponent (nowMs : Nat) : SupervisorM Unit := do
  match ← getChild component.id with
  | some child =>
    upsertComponent
      (childRecord component.id (seen.restingState desiredMode decision) child.identity
        seen.observation.restartAttempts (lastRestartOf seen.prior)
        (if seen.uncertainCleanup then seen.prior.bind ComponentRecord.lastError else none)) nowMs
  | none =>
    if desiredMode.stopsChildren then
      upsertComponent
        (processlessRecord component.id .stopped none seen.observation.restartAttempts
          (lastRestartOf seen.prior) none) nowMs
    else return ()

/-- An owned child is never replaced because it became suspect. -/
def Observed.withoutDuplicate : ReconcileDecision :=
  if seen.isRunning ∧ decision.action = .start then
    { decision with
      action := .markSuspect
      resultingState := .suspect
      reason :=
        "owned process retained pending authority-aware recovery; duplicate launch blocked"
      retryAtMs := none }
  else decision

/-- Apply a decision of the policy. The mode is read again right before a start. -/
def applyDecision (nowMs : Nat) : SupervisorM Unit :=
  match decision.action with
  | .stop => stopComponent crates sv component nowMs
  | .start => do
    let mode ← storeRead Store.desiredMode
    if mode = .running then startComponent crates sv component nowMs else return ()
  | .quarantine => do
    upsertComponent (retainedRecord component.id .quarantined seen.prior (some decision.reason))
      nowMs
    reportQuarantined component.id
  | .wait | .noop | .markSuspect => restComponent component desiredMode seen decision nowMs

/-- Ask the policy and apply what it decides. -/
def decideComponent (restartCount nowMs : Nat) : SupervisorM ReconcileDecision := do
  let decision := seen.withoutDuplicate
    (sv.config.policy.decide crates desiredMode component.restart seen.observation nowMs
      restartCount (lastRestartOf seen.prior))
  applyDecision crates sv component desiredMode seen decision nowMs
  return decision

/-! ### The release gate -/

/-- A component that the release gate holds back. -/
def blockComponent (reason : String) (nowMs : Nat) : SupervisorM ReconcileDecision := do
  let prior ← readComponent component.id
  upsertComponent (retainedRecord component.id .blocked prior (some reason)) nowMs
  auditEvent "component_launch_blocked_release" s!"{component.id}:{reason}" nowMs
  return ⟨component.id, .wait, .blocked, reason, none⟩

/-- A blocked component counts as stopped once the gate passes. -/
def Observed.released : Observed :=
  if seen.prior.any (·.state == .blocked) then
    { seen with observation := { seen.observation with state := .stopped } }
  else seen

/-- The release gate, with its record. -/
def checkGate : SupervisorM (Except String Unit) := do
  let result ← releaseStartGate sv
  .modify fun w => { w with gates := w.gates ++ [(component.id, result)] }
  return result

/-- Pass a component through the release gate of a running deployment. -/
def gateComponent (restartCount nowMs : Nat) : SupervisorM ReconcileDecision := do
  if desiredMode = .running ∧ seen.isRunning = false then
    match ← checkGate sv component with
    | .error reason => blockComponent component reason nowMs
    | .ok _ => decideComponent crates sv component desiredMode seen.released restartCount nowMs
  else decideComponent crates sv component desiredMode seen restartCount nowMs

/-! ### One component -/

/-- Observe a component and decide about it. -/
def observeComponent (nowMs : Nat) : SupervisorM ReconcileDecision := do
  probeGatewayHealth sv component desiredMode
  let prior ← readComponent component.id
  let child? ← getChild component.id
  let heartbeatAge ← heartbeatAgeMs sv component.id
  let elapsed ← readElapsed
  let restartCount ← storeRead fun s =>
    s.restartCountWithElapsed component.id elapsed sv.config.policy.restartBudgetWindowMs
  let seen : Observed :=
    { prior
      isRunning := child?.isSome
      observation :=
        { componentId := component.id
          state :=
            if child?.isSome then .running
            else (prior.map ComponentRecord.state).getD .stopped
          observedAtMs := (prior.bind ComponentRecord.startedAtMs).getD nowMs
          heartbeatAgeMs := heartbeatAge
          consecutiveMisses := 0
          restartAttempts := attemptsOf prior } }
  gateComponent crates sv component desiredMode seen restartCount nowMs

/-- A decision that keeps the handle of a child in quarantine. -/
def quarantineDecision (reason : String) : ReconcileDecision :=
  ⟨component.id, .quarantine, .quarantined, reason, none⟩

/-- Quarantine an owned child and report the decision. -/
def holdChild (error reason : String) (nowMs : Nat) : SupervisorM ReconcileDecision := do
  quarantineChild component child.identity error nowMs
  reportQuarantined component.id
  return quarantineDecision component reason

/-- What is audited about a child that has exited. Native launchers capture no output. -/
def exitDetail (exit : String) : SupervisorM String :=
  if child.isNative then
    return s!"component={component.id} exit={exit} stdout_capture=disabled stderr_capture=disabled"
  else do
    let (stdout, stderr) ← nextAnswer fun | .output a b => some (a, b) | _ => none
    return s!"component={component.id} exit={exit} stdout_bytes={stdout} stderr_bytes={stderr}"

/-- The durable part of an exit, once the containment is reported gone. -/
def settleExited (exit : String) (nowMs : Nat) : SupervisorM ReconcileDecision := do
  let detail ← exitDetail component child exit
  auditEvent "component_exited" detail nowMs
  match ← attempt (cleanLaunchIntent crates child.intentId nowMs) with
  | .error (error : WatchdogError) =>
    holdChild component child s!"child exited but launch intent cleanup failed: {error.display}"
      s!"launch intent cleanup failed: {error.display}" nowMs
  | .ok _ => do
    clearComponentIdentity component.id nowMs
    let prior ← readComponent component.id
    upsertComponent
      (processlessRecord component.id .stopped none (attemptsOf prior) (lastRestartOf prior)
        (some s!"child exited ({exit})")) nowMs
    observeComponent crates sv component desiredMode nowMs

/-- A child that was observed to have exited: its containment is ended before its intent is
settled. -/
def reapExited (exit : String) (nowMs : Nat) : SupervisorM ReconcileDecision := do
  setChild component.id none
  match ← attempt (stop child) with
  | .ok outcome =>
    if outcome.isGone then settleExited crates sv component desiredMode child exit nowMs
    else do
      let error := "native containment cleanup timed out"
      setChild component.id (some child)
      holdChild component child s!"exited process containment cleanup failed: {error}" error nowMs
  | .error (error : WatchdogError) => do
    setChild component.id (some child)
    holdChild component child s!"exited process containment cleanup failed: {error.display}"
      error.display nowMs

/-- The inspection that a component pass makes, with its record. -/
def inspectChild : SupervisorM (Except WatchdogError RuntimeObservation) := do
  let result ← attempt inspect
  .modify fun w => { w with inspections := w.inspections ++ [(component.id, result)] }
  return result

/-- Reconcile one component under the mode that the pass has read. -/
def reconcileComponent (nowMs : Nat) : SupervisorM ReconcileDecision := do
  match ← getChild component.id with
  | none => observeComponent crates sv component desiredMode nowMs
  | some child =>
    match ← inspectChild component with
    | .ok .running => observeComponent crates sv component desiredMode nowMs
    | .ok (.exited code) =>
      reapExited crates sv component desiredMode child
        (match code with | none => "signal" | some value => toString value) nowMs
    | .ok .missing => reapExited crates sv component desiredMode child "missing" nowMs
    | .ok .identityMismatch | .ok .ambiguous =>
      holdChild component child "native process authority reported an ambiguous identity"
        "native process identity is ambiguous" nowMs
    | .error error =>
      holdChild component child error.display
        s!"exact child identity could not be verified: {error.display}" nowMs

end AscensionWatchdog
