import AscensionWatchdog.Supervisor.Client
import AscensionWatchdog.Supervisor.Health

/-!
# The worker phase

A pass talks to the worker twice: before the components are reconciled, so that a live worker learns
the durable mode before anything is stopped, and once more after them. One phase builds a client
from the owned child, probes the worker, brings its control to the durable mode, looks up one
retained handoff, and may claim and dispatch a fresh one in its second run.

The control row is written only after the worker has accepted a request (`ensureWorkerControl`), and
the sequence of the next request is computed from that row.

An exchange that fails ends the phase. `deferWorkerError` decides how: an unavailable worker is put
off to the next pass, and every other error is the error of the phase.
-/

namespace AscensionWatchdog

open Foundation Foundation.Json Program

variable (crates : Crates) (sv : Supervisor)

/-- One historical recovery in every phase. -/
def maxRecoveriesPerReconcile : Nat :=
  1

/-- `MAX_ATTEMPT_NUMBER`. -/
def maxAttemptNumber : Nat :=
  9007199254740991

variable (client : WorkerClient) (worker : WorkerConfig) (witness : WorkerClaimWitness)
  (workerBootId : String) (desiredMode : DesiredMode) (nowMs : Nat)

/-- Persist the approved binding of the worker before any exchange with it. -/
def configureWorkerBinding : SupervisorM Unit :=
  forSome (fun worker : WorkerConfig => do
    let _ ← storeCall fun s => s.configureWorkerBindingAt worker.binding nowMs) sv.config.worker

/-- A drained deployment has no retained handoff. -/
def workerDrainComplete : SupervisorM Bool := do
  let pending ← storeRead fun s => s.nextWorkerHandoffForReconciliation crates
  return pending.isNone

/-! ### The client and its heartbeat -/

/-- Whether the worker frame that a child holds is the recorded one of this supervisor. -/
def currentBinding (held stored : Option BootstrapBindingRow) (watchdogBootId : String) : Bool :=
  held.any fun binding => binding.watchdogBootId == watchdogBootId && stored == some binding

/-- A child that was launched by this supervisor; synthetic children have no frames. -/
def bootstrapIsCurrent (child : RuntimeChild) : PhaseM Bool :=
  if sv.config.allowSyntheticChildren then return true
  else do
    let stored ← orFatal (storeRead fun s => s.workerBootstrapBinding child.intentId)
    return currentBinding child.workerBootstrapBinding stored sv.workerBootId.text

/-- A client is built only from the currently owned child, after the platform has observed it to
run. -/
def workerClient : PhaseM (Option WorkerClient) := do
  match ← getChild worker.componentId with
  | none => return none
  | some child =>
    if ← bootstrapIsCurrent sv child then
      match ← orFatal inspect with
      | .running => do
        let _ ← orFatal askHost -- the peer identity and the endpoint of the owned process
        let _ ← mapError .transport askHost -- `WorkerClient::new`
        return some ⟨worker.binding, worker.timeoutMs, sv.workerBootId.text⟩
      | _ => return none
    else
      fail (.unavailable (.conflict "worker bootstrap is not owned by the current supervisor"))

def clearWorkerHeartbeat : SupervisorM Unit :=
  .modify fun w => { w with workerHeartbeat := none }

/-- Keep a probe as a witness of the exact child that it was made of. -/
def captureWorkerHeartbeat (componentId workerBootId : String) : SupervisorM Unit := do
  match ← getChild componentId with
  | none => do
    clearWorkerHeartbeat
    fail (.identityMismatch "authenticated worker probe has no currently-owned child")
  | some child =>
    .modify fun w =>
      { w with workerHeartbeat := some ⟨componentId, child.identity, workerBootId⟩ }

def workerHeartbeatMatchesCurrent (componentId workerBootId : String) : SupervisorM Bool :=
  .gets fun w =>
    match w.workerHeartbeat, w.children componentId with
    | some witness, some child =>
      witness.componentId == componentId && witness.workerBootId == workerBootId &&
        witness.identity == child.identity
    | _, _ => false

/-- Whether the gateway, where one is configured, is fresh and not shutting down. -/
def gatewayAllowsFreshClaim : SupervisorM Bool := do
  match sv.config.gatewayHealth with
  | none => return true
  | some componentId =>
    match ← attempt (readComponent componentId) with
    | .error (_ : WatchdogError) => return false
    | .ok none => return false
    | .ok (some component) =>
      let age? ← gatewayHeartbeatAgeMs sv componentId
      let witness? ← .gets World.gatewayHealthWitness
      return age?.any fun age =>
        decide (age ≤ saturatingMul sv.config.policy.probeIntervalMs
            sv.config.policy.suspectThreshold) &&
          witness?.any fun witness =>
            component.state == .running && !witness.status.shutdownRequested &&
              !witness.status.draining

/-! ### Failures of a phase -/

/-- Put an unavailable worker off to the next pass. It is audited when it becomes unavailable, and
reported once in every pass. -/
def deferWorkerError (phase : String) (error : WorkerPhaseError) (nowMs : Nat)
    (prePhase : Bool) : SupervisorM Unit := do
  clearWorkerHeartbeat
  match error with
  | .fatal error => fail error
  | .unavailable error => do
    .modify fun w => { w with workerPhasePreFailed := w.workerPhasePreFailed || prePhase }
    let deferred ← .gets World.workerDeferredPhases
    .modify fun w =>
      { w with workerDeferredPhases := phase :: deferred.filter (· != phase) }
    if !deferred.contains phase then
      auditEvent "worker_phase_deferred" s!"{phase}: {error.display}" nowMs
    let marker := s!"worker phase {phase}:"
    editReport fun r =>
      if r.errors.any fun existing => marker.isPrefixOf existing then r
      else { r with errors := r.errors ++ [s!"{marker} {error.display}"] }

def workerPhaseSucceeded (phase : String) : SupervisorM Unit :=
  .modify fun w =>
    { w with workerDeferredPhases := w.workerDeferredPhases.filter (· != phase) }

/-- Go on with the answer of an exchange, or end the phase. -/
def orDefer {α : Type} (phase : String) (nowMs : Nat) (prePhase : Bool) (m : PhaseM α)
    (next : α → SupervisorM Unit) : SupervisorM Unit := do
  match ← attempt m with
  | .ok a => do
    workerPhaseSucceeded phase
    next a
  | .error (error : WorkerPhaseError) => deferWorkerError phase error nowMs prePhase

/-! ### Control -/

/-- The recorded control, if it is one of this supervisor with the given worker boot and mode. -/
def matchingControl (mode : WorkerMode) (current : Option WorkerControlWitness) :
    Option WorkerControlWitness :=
  current.filter fun control =>
    control.watchdogBootId == sv.workerBootId.text && control.workerBootId == workerBootId &&
      control.mode == storageWorkerMode mode

/-- The sequence of the next control request. -/
def nextModeSequence (current : Option WorkerControlWitness) : Except WorkerPhaseError Nat := do
  let sequence ←
    match current with
    | none => pure 1
    | some control =>
      if control.modeSequence = u64Max then
        .error (.fatal (.conflict "worker control sequence exhausted"))
      else pure (control.modeSequence + 1)
  ensure (sequence ≤ maxAttemptNumber)
    (.fatal (.conflict "worker control sequence exceeds the wire bound"))
  return sequence

/-- Send the mode to the worker, and record it once the worker has accepted it. -/
def sendWorkerControl (mode : WorkerMode) (sequence nowMs : Nat) : PhaseM WorkerControlWitness := do
  let scope : ControlScope :=
    ⟨client.binding.deploymentId, client.binding.workerOwnerId,
      client.binding.workerProfileDigest, mode, sequence⟩
  let response ← client.setControlModePhase workerBootId scope
  if response.status ≠ .accepted then
    fail (.unavailable (.conflict "worker rejected the requested control mode"))
  else
    orFatal (storeCall fun s => s.setWorkerControlAt
      { deploymentId := response.scope.deploymentId
        workerOwnerId := response.scope.workerOwnerId
        workerProfileDigest := response.scope.workerProfileDigest
        watchdogBootId := sv.workerBootId.text
        workerBootId
        mode := storageWorkerMode response.scope.mode
        modeSequence := response.scope.modeSequence } nowMs)

/-- Bring the control of the worker to the durable mode. -/
def ensureWorkerControl : PhaseM WorkerControlWitness := do
  let mode := workerMode desiredMode
  let recorded ← orFatal (storeRead Store.currentWorkerControl)
  match matchingControl sv workerBootId mode recorded with
  | some current => return current
  | none => do
    let current ← orFatal (storeRead Store.currentWorkerControl)
    let sequence ← ofExcept (nextModeSequence current)
    sendWorkerControl sv client workerBootId mode sequence nowMs

/-! ### Recovery of a retained handoff -/

/-- Deliver the acknowledgment of a completed handoff and record it. -/
def acknowledgeCompleted (tuple : WorkerHandoffTuple) (workerBootId terminalDigest : String)
    (authority : TerminalAuthority) (nowMs : Nat) (prePhase : Bool) (next : SupervisorM Unit) :
    SupervisorM Unit :=
  orDefer "acknowledge" nowMs prePhase
    (client.acknowledgePhase tuple workerBootId terminalDigest) fun response =>
  if response.status = .acknowledged ∨ response.status = .alreadyAcknowledged then do
    let _ ← storeCall fun s => s.acknowledgeWorkerHandoffWithAuthorityAt crates tuple
      terminalDigest authority nowMs
    next
  else fail (.conflict "worker rejected terminal acknowledgment")

/-- Complete a handoff whose end the worker reports, and acknowledge it. -/
def completeReported (tuple : WorkerHandoffTuple) (workerBootId : String)
    (terminal : Option TerminalReceipt) (missing : String) (authority : TerminalAuthority)
    (nowMs : Nat) (prePhase : Bool) (next : SupervisorM Unit) : SupervisorM Unit := do
  let receipt ← ofExcept (orError terminal (.conflict missing))
  let completion ← storeCall fun s => s.completeWorkerHandoffWithAuthorityAt crates tuple
    (storageReceipt receipt) authority nowMs
  acknowledgeCompleted crates client tuple workerBootId completion.terminalDigest authority nowMs
    prePhase next

/-- Resolve one retained handoff by a lookup. -/
def recoverHandoff (control : WorkerControlWitness) (pending : WorkerHandoff) (nowMs : Nat)
    (prePhase : Bool) (next : SupervisorM Unit) : SupervisorM Unit := do
  let tuple := pending.row.tuple
  let found ← storeRead fun s => s.lookupWorkerHandoff crates tuple
  if found.isNone then fail (.notFound s!"worker handoff {pending.row.handoffId}")
  else
    orDefer "lookup" nowMs prePhase (client.lookupPhase tuple control.workerBootId)
      fun response =>
    if response.status = .terminal then
      completeReported crates client tuple control.workerBootId response.terminal
        "terminal lookup response has no receipt" (.currentRecovery control) nowMs prePhase next
    else next

/-- Resolve at most `n` retained handoffs; the phase ends if one remains. -/
def recoverHandoffs (client : WorkerClient) (control : WorkerControlWitness) (nowMs : Nat)
    (prePhase : Bool) (next : SupervisorM Unit) : Nat → SupervisorM Unit
  | 0 => next
  | n + 1 => do
    match ← storeRead fun s => s.nextWorkerHandoffForReconciliation crates with
    | none => next
    | some pending =>
      recoverHandoff crates client control pending nowMs prePhase do
        let remaining ← storeRead fun s => s.nextWorkerHandoffForReconciliation crates
        if remaining.isSome then return ()
        else recoverHandoffs client control nowMs prePhase next n

/-! ### Fresh claims -/

/-- Dispatch a marked handoff and record what the worker answers. -/
def dispatchMarked (tuple : WorkerHandoffTuple) (marked : WorkerHandoff) (nowMs : Nat)
    (prePhase : Bool) : SupervisorM Unit :=
  orDefer "dispatch" nowMs prePhase (client.dispatchPhase marked) fun response =>
  match response.status with
  | .accepted => do
    let _ ← storeCall fun s => s.markWorkerHandoffAdmittedAt crates tuple nowMs
  | .terminal | .alreadyCompleted =>
    completeReported crates client tuple witness.workerBootId response.terminal
      "terminal worker dispatch response has no receipt" .originalIncarnation nowMs prePhase
      (return ())
  | .busy | .rejected => return ()

/-- The record of a call that may claim a handoff. -/
def noteClaim : SupervisorM Unit :=
  .modify fun w =>
    { w with
      claims := w.claims ++ [⟨witness.workerBootId, w.store.workerControl, w.controls⟩] }

/-- Claim a handoff and dispatch it. -/
def claimAndDispatch (prePhase : Bool) : SupervisorM Unit := do
  let ids ← nextAnswer fun | .handoffIds ids => some ids | _ => none
  noteClaim witness
  match ← storeCall fun s => s.claimNextWorkerHandoff crates witness nowMs ids with
  | none => return ()
  | some claim => do
    let tuple := claim.row.tuple
    let marked ← storeCall fun s =>
      s.markWorkerHandoffMayHaveBeenDispatchedAt crates tuple nowMs
    dispatchMarked crates client witness tuple marked nowMs prePhase

/-- The second probe is the admission barrier: the worker is still ready, and still the same. -/
def admitClaim (prePhase : Bool) : SupervisorM Unit :=
  orDefer "claim_probe" nowMs prePhase client.probePhase fun probe =>
  if !probe.ready then
    deferWorkerError "claim_probe"
      (.unavailable (.conflict "worker probe is not ready for admission")) nowMs prePhase
  else if probe.header.workerBootId ≠ some workerBootId then do
    clearWorkerHeartbeat
    fail (.identityMismatch "worker claim probe boot differs from the control witness")
  else do
    captureWorkerHeartbeat worker.componentId workerBootId
    claimAndDispatch crates client witness nowMs prePhase

/-- What the store has to say before a claim: the component is running, the heartbeat describes the
owned child, and the recorded control is one of the probed worker boot. -/
def prepareClaim (prePhase : Bool) : SupervisorM Unit := do
  let component ← readComponent worker.componentId
  if component.map ComponentRecord.state ≠ some .running then return ()
  else if !(← workerHeartbeatMatchesCurrent worker.componentId workerBootId) then
    clearWorkerHeartbeat
  else
    match ← storeRead Store.currentWorkerClaimWitness with
    | none => return ()
    | some witness =>
      if witness.workerBootId ≠ workerBootId then return ()
      else admitClaim crates client worker witness workerBootId nowMs prePhase

/-- Claims are made only by the second phase of a running pass whose first phase did not fail. -/
def claimFresh (ready : Bool) (desiredMode : DesiredMode) (allowClaim : Bool) (nowMs : Nat)
    (prePhase : Bool) : SupervisorM Unit := do
  let preFailed ← .gets World.workerPhasePreFailed
  if !allowClaim || preFailed then return ()
  else if !(← gatewayAllowsFreshClaim sv) then return ()
  else if desiredMode ≠ .running ∨ ready = false then return ()
  else prepareClaim crates client worker workerBootId nowMs prePhase

/-! ### One phase -/

/-- What follows the probe. -/
def controlWorker (ready : Bool) (desiredMode : DesiredMode) (nowMs : Nat)
    (allowClaim prePhase : Bool) : SupervisorM Unit := do
  captureWorkerHeartbeat worker.componentId workerBootId
  orDefer "control" nowMs prePhase
      (ensureWorkerControl sv client workerBootId desiredMode nowMs) fun control =>
    recoverHandoffs crates client control nowMs prePhase
      (claimFresh crates sv client worker workerBootId ready desiredMode allowClaim nowMs prePhase)
      maxRecoveriesPerReconcile

/-- What follows the construction of the client. -/
def probeWorker (allowClaim prePhase : Bool) : SupervisorM Unit :=
  orDefer "probe" nowMs prePhase client.probePhase fun probe =>
  match probe.header.workerBootId with
  | none => do
    clearWorkerHeartbeat
    fail (.identityMismatch "worker probe omitted its live boot")
  | some workerBootId =>
    controlWorker crates sv client worker workerBootId probe.ready desiredMode nowMs allowClaim
      prePhase

/-- One phase with the configured worker. -/
def reconcileConfiguredWorker (allowClaim prePhase : Bool) : SupervisorM Unit := do
  let expired ← nextAnswer fun | .expired b => some b | _ => none
  if expired then
    deferWorkerError "budget" (.unavailable (.timeout "worker reconciliation budget expired")) nowMs
      prePhase
  else
    match ← attempt (workerClient sv worker) with
    | .error (error : WorkerPhaseError) => deferWorkerError "client" error nowMs prePhase
    | .ok none => clearWorkerHeartbeat
    | .ok (some client) => do
      workerPhaseSucceeded "client"
      probeWorker crates sv client worker desiredMode nowMs allowClaim prePhase

def reconcileWorker (allowClaim prePhase : Bool) : SupervisorM Unit :=
  forSome (fun worker => reconcileConfiguredWorker crates sv worker desiredMode nowMs allowClaim
    prePhase) sv.config.worker

/-- The phase before the components: the ordering barrier of an existing live worker. -/
def reconcileWorkerBeforeComponents : SupervisorM Unit := do
  .modify fun w => { w with workerPhasePreFailed := false }
  reconcileWorker crates sv desiredMode nowMs false true

/-- The phase after the components, the only one that may claim. -/
def reconcileWorkerAfterComponents : SupervisorM Unit :=
  reconcileWorker crates sv desiredMode nowMs true false

end AscensionWatchdog
