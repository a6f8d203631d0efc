import AscensionWatchdog.Supervisor.Recovery
import AscensionWatchdog.Supervisor.WorkerPhase

/-!
# Reconciliation passes

`reconcileOnce` is one pass of a supervisor. The first pass of an instance recovers what an earlier
one left; then the worker learns the durable mode, every configured component is reconciled in turn,
and the worker is looked at once more.

What precedes the loop over the components can end the pass. Under a durable stop one error of the
worker phase does not: a failed authentication of the worker is reported, and the loop runs
(`admitWorkerFirst`).

A **deployment** is a store with its processes and the instance that currently owns them. Instances
follow one another: `Event` has the opening of an instance, its passes, its end, and what others
write to the store meanwhile. A pass that is interrupted ends the instance, and the next one starts
with an empty memory.
-/

namespace AscensionWatchdog

open Foundation Foundation.Json Program

variable (crates : Crates) (sv : Supervisor)

/-! ### One pass -/

variable (desiredMode : DesiredMode) (nowMs : Nat)

/-- What only the first pass of an instance does. -/
def initializeRuntime : SupervisorM Unit := do
  let _ ← storeCall fun s => s.quarantineInterruptedJobs nowMs
  let _ ← storeCall fun s => s.establishNewGeneration nowMs
  auditEvent "reconciler_started" sv.workerId nowMs
  reconcilePersistedLaunchIntents crates sv nowMs
  reconcilePersistedIdentities crates sv nowMs
  .modify fun w => { w with initializedRuntime := true }

/-- What precedes the first look at the worker; it ends with the mode that the pass works under. -/
def preparePass : SupervisorM DesiredMode := do
  .modify fun w => { w with workerHeartbeat := none, gatewayHealthWitness := none }
  let initialized ← .gets World.initializedRuntime
  if !initialized then initializeRuntime crates sv nowMs
  configureWorkerBinding sv nowMs
  let desiredMode ← storeRead Store.desiredMode
  .modify fun w =>
    { w with report := .begin nowMs desiredMode, modes := w.modes ++ [desiredMode] }
  return desiredMode

/-- The worker phase before the components. A failed authentication of the worker cannot veto a
durable stop; the answer says whether it was blocked so. -/
def admitWorkerFirst : SupervisorM Bool := do
  match ← attempt (reconcileWorkerBeforeComponents crates sv desiredMode nowMs) with
  | .ok _ => return false
  | .error (.identityMismatch message) =>
    if desiredMode = .stopped then do
      reportError s!"worker identity blocked during stop: {message}"
      return true
    else fail (.identityMismatch message)
  | .error (error : WatchdogError) => fail error

/-- One round of the loop over the components. -/
def reconcileListed (component : ComponentConfig) : SupervisorM Unit := do
  let decision ← reconcileComponent crates sv component desiredMode nowMs
  editReport fun r => { r with decisions := r.decisions ++ [decision] }

def reconcileComponents : SupervisorM Unit :=
  forEach (reconcileListed crates sv desiredMode nowMs) sv.config.components

/-- Only configured components have children. -/
def hasNoOwnedChildren : SupervisorM Bool :=
  .gets fun w => sv.config.components.all fun component => (w.children component.id).isNone

/-- A drained deployment settles in the stopped mode. -/
def settleDrain : SupervisorM Unit := do
  if desiredMode = .draining ∧ (← hasNoOwnedChildren sv) = true then
    if ← workerDrainComplete crates then
      storeCall fun s => s.setDesiredModeAt .stopped nowMs

/-- What follows the loop over the components. -/
def finishPass (workerBlocked : Bool) (nowMs : Nat) : SupervisorM Unit := do
  if !workerBlocked then reconcileWorkerAfterComponents crates sv desiredMode nowMs
  settleDrain crates sv desiredMode nowMs
  storeCall fun s => s.recordReconciliationProgress nowMs

/-- Reconcile once at the given time. -/
def reconcileOnce : SupervisorM ReconcileReport := do
  let desiredMode ← preparePass crates sv nowMs
  let workerBlocked ← admitWorkerFirst crates sv desiredMode nowMs
  reconcileComponents crates sv desiredMode nowMs
  finishPass crates sv desiredMode workerBlocked nowMs
  .gets World.report

/-! ### Instances -/

/-- The world of an instance that was just opened. -/
def World.opened (w : World) : World :=
  { w with
    children := fun _ => none
    workerDeferredPhases := []
    workerHeartbeat := none
    workerPhasePreFailed := false
    gatewayHealthWitness := none
    initializedRuntime := false
    report := .begin 0 .stopped }

/-- When an instance ends in order, its native children are stopped; the outcomes are not looked
at. -/
def dropSupervisor : SupervisorM Unit :=
  forEach (fun component : ComponentConfig => do
    match ← getChild component.id with
    | none => return ()
    | some child =>
      if child.isNative then do
        let _ ← (attempt (stop child) : SupervisorM (Except WatchdogError RuntimeStopOutcome))
      else return ()) sv.config.components

/-- A store with its processes, and the instance that currently owns them. -/
structure Deployment where
  world : World
  instance? : Option Supervisor

/-- What happens to a deployment. -/
inductive Event where
  /-- a new instance is opened; one that was there before is gone -/
  | opened (sv : Supervisor)
  /-- the instance reconciles once, with the answers that it will get -/
  | pass (nowMs : Nat) (answers : List Answer)
  /-- the instance ends in order -/
  | dropped (answers : List Answer)
  /-- others write to the store; the launch intents and the component rows are the supervisor's -/
  | written (store : Store)

/-- Run a routine of an instance. The records of gates and modes are those of the last routine. -/
def Deployment.perform {α : Type} (d : Deployment) (m : SupervisorM α) (answers : List Answer) :
    Option (Except WatchdogError α) × World :=
  m { d.world with answers, gates := [], modes := [] }

/-- The deployment after an event. -/
def Deployment.step (event : Event) (d : Deployment) : Deployment :=
  match event, d.instance? with
  | .opened sv, _ => ⟨d.world.opened, some sv⟩
  | .pass nowMs answers, some sv =>
    let (result, w) := d.perform (reconcileOnce crates sv nowMs) answers
    ⟨w, if result.isSome then some sv else none⟩
  | .dropped answers, some sv => ⟨(d.perform (dropSupervisor sv) answers).2, none⟩
  | .written store, _ =>
    if store.launchIntents = d.world.store.launchIntents ∧
        store.components = d.world.store.components then
      ⟨{ d.world with store }, d.instance?⟩
    else d
  | _, none => d

end AscensionWatchdog
