import AscensionWatchdog.Foundation.Programs
import AscensionWatchdog.Storage.Operations
import AscensionWatchdog.Supervisor.Policy
import AscensionWatchdog.Supervisor.Protocol

/-!
# The world of a supervisor

A supervisor owns the store and the handles of the processes it launched. Its routines are
programs (`SupervisorM`) on a `World`: the store, the in-memory state of the running instance, and
what other parties will answer.

Whatever the code cannot compute itself is an **answer** from outside: the outcome of a launch, of
an inspection or of a stop, the frame that the worker sends, a generated identity, a clock reading.
A world carries the list of the answers that are still to come, and a call takes the first of them.
A list that ends, or whose next answer is of another kind, interrupts the program at that call; so
the runs over all lists are the runs with all outcomes and with a crash between any two calls.
Every call of the store takes an answer as well: it may fail without an effect, or report a failure
after its effect, and another process may have changed the desired mode before it.

Three further parts of a world are not state of the program. `live` has the launches of which a
process may still be alive: a launch adds one unless it ends with an ordinary error, and a stop or
a cleanup of the containment that reports the process gone removes it. The fields `launches`,
`stops`, `inspections`, `gates`, `controls`, `claims` and `modes` record the calls made and what
they met, and `storeFailed` whether a call of the store has failed.
-/

namespace AscensionWatchdog

open Foundation Foundation.Json

/-! ### Configuration -/

/-- What reconciliation reads from an approved component. -/
structure ComponentConfig where
  id : String
  restart : Bool
  deriving DecidableEq, Repr

structure WorkerConfig where
  componentId : String
  binding : WorkerBinding
  timeoutMs : Nat
  deriving DecidableEq, Repr

/-- The configuration of a supervisor. -/
structure WatchdogConfig where
  components : List ComponentConfig
  worker : Option WorkerConfig
  /-- the component whose health the gateway reports -/
  gatewayHealth : Option String
  releaseCatalog : Bool
  allowSyntheticChildren : Bool
  policy : SupervisorPolicy

/-! ### Processes -/

/-- A process identity: what the store keeps of it, and the start time. -/
structure ChildIdentity extends ProcessIdentity where
  startedAtMs : Nat
  deriving DecidableEq, Repr

/-- A child together with the intent which admitted it. -/
structure RuntimeChild where
  intentId : String
  identity : ChildIdentity
  isNative : Bool
  workerBootstrapBinding : Option BootstrapBindingRow
  hasHealthClient : Bool
  deriving DecidableEq, Repr

inductive RuntimeObservation where
  | running
  | exited (code : Option Int)
  | missing
  | identityMismatch
  | ambiguous
  deriving DecidableEq, Repr

inductive RuntimeStopOutcome where
  | exited (code : Option Int)
  | alreadyExited
  | timedOut
  deriving DecidableEq, Repr

/-- The outcomes which say that the process is gone. -/
def RuntimeStopOutcome.isGone : RuntimeStopOutcome → Bool
  | .exited _ => true
  | .alreadyExited => true
  | .timedOut => false

inductive RuntimeLaunchError where
  | ordinary (error : WatchdogError)
  | cleanupUncertain (error : WatchdogError)
  deriving DecidableEq, Repr

/-- What an inspected release answers. -/
structure ReleaseInspection where
  manifestDigest : String
  compatible : Bool
  deriving DecidableEq, Repr

/-- What the supervisor reads from an authenticated health status. -/
structure GatewayHealthStatus where
  heartbeatAgeMs : Option Nat
  shutdownRequested : Bool
  draining : Bool
  deriving DecidableEq, Repr

structure GatewayHealthWitness where
  identity : ChildIdentity
  status : GatewayHealthStatus
  deriving DecidableEq, Repr

/-- A liveness witness from an authenticated worker probe. -/
structure WorkerHeartbeatWitness where
  componentId : String
  identity : ChildIdentity
  workerBootId : String
  deriving DecidableEq, Repr

/-! ### Answers -/

/-- How a call of the store may fail. -/
inductive StoreFault where
  /-- without an effect -/
  | rejected (error : WatchdogError)
  /-- after its effect was committed -/
  | unreported (error : WatchdogError)
  deriving DecidableEq, Repr

/-- An answer to one call of the supervisor. -/
inductive Answer where
  /-- to a call of the store, with a change of the mode that came before it -/
  | store (fault : Option StoreFault) (modeChange : Option (DesiredMode × Nat))
  /-- to a check of the host, or the text that it derives -/
  | host (result : Result String)
  | generated (id : UuidV4)
  | handoffIds (ids : HandoffIds)
  | elapsed (ms : Nat)
  | expired (isExpired : Bool)
  | output (stdoutBytes stderrBytes : Nat)
  | launched (result : Except RuntimeLaunchError ChildIdentity)
  | inspected (result : Result RuntimeObservation)
  | stopped (result : Result RuntimeStopOutcome)
  | recovered (result : Result (Option ChildIdentity))
  | proof (result : Result Value)
  | release (result : Except String ReleaseInspection)
  | gatewayHealth (result : Except String GatewayHealthStatus)
  /-- to a request of the worker client; a request that failed may have been sent -/
  | peer (sent : Bool) (result : Result ResponseFrame)

/-- A launch of which a process may be alive. -/
structure LaunchRecord where
  componentId : String
  intentId : String
  containment : String
  deriving DecidableEq, Repr

/-- A call of the launcher, with the launches alive at that moment. -/
structure LaunchCall where
  componentId : String
  alive : List LaunchRecord
  deriving DecidableEq, Repr

/-- A control request that was sent to a worker boot. -/
structure ControlRequest where
  workerBootId : String
  mode : WorkerControlMode
  modeSequence : Nat
  deriving DecidableEq, Repr

/-- A fresh claim, with the control row and the control requests sent before it. -/
structure ClaimCall where
  workerBootId : String
  control : Option (WorkerControlWitness × Nat)
  sent : List ControlRequest
  deriving DecidableEq, Repr

/-! ### The world -/

/-- A pass's bounded result. -/
structure ReconcileReport where
  observedAtMs : Nat
  desiredMode : DesiredMode
  decisions : List ReconcileDecision
  started : List String
  stopped : List String
  quarantined : List String
  errors : List String
  deriving DecidableEq, Repr

/-- The report that a pass begins with. -/
def ReconcileReport.begin (observedAtMs : Nat) (desiredMode : DesiredMode) : ReconcileReport where
  observedAtMs := observedAtMs
  desiredMode := desiredMode
  decisions := []
  started := []
  stopped := []
  quarantined := []
  errors := []

/-- The store, the memory of the running instance, the answers to come, and the record of what
was done. -/
structure World where
  store : Store
  children : String → Option RuntimeChild
  workerDeferredPhases : List String
  workerHeartbeat : Option WorkerHeartbeatWitness
  workerPhasePreFailed : Bool
  gatewayHealthWitness : Option GatewayHealthWitness
  initializedRuntime : Bool
  report : ReconcileReport
  answers : List Answer
  live : List LaunchRecord
  launches : List LaunchCall
  stops : List String
  inspections : List (String × Result RuntimeObservation)
  gates : List (String × Except String Unit)
  controls : List ControlRequest
  claims : List ClaimCall
  modes : List DesiredMode
  storeFailed : Bool

/-- A supervisor instance: its configuration and the identity of its worker session. Reading back
a persisted process identity is code of another package. -/
structure Supervisor where
  config : WatchdogConfig
  workerId : String
  workerBootId : UuidV4
  decodeIdentity : String → Option ChildIdentity

/-- Programs of the supervisor. -/
abbrev SupervisorM (α : Type) : Type :=
  Program World WatchdogError α

/-! ### Calls -/

/-- Take the next answer. -/
def nextAnswer {ε α : Type} (pick : Answer → Option α) : Program World ε α := fun w =>
  match w.answers with
  | [] => (none, w)
  | answer :: rest =>
    match pick answer with
    | some a => (some (.ok a), { w with answers := rest })
    | none => (none, { w with answers := rest })

/-- A check of the host, or the text that it derives. -/
def askHost : SupervisorM String := do
  let result ← nextAnswer fun | .host r => some r | _ => none
  .ofExcept result

/-- `Uuid::new_v4`. -/
def newUuid {ε : Type} : Program World ε UuidV4 :=
  nextAnswer fun | .generated id => some id | _ => none

/-- A reading of the monotonic clock. -/
def readElapsed : SupervisorM Nat :=
  nextAnswer fun | .elapsed ms => some ms | _ => none

/-- The effect of another process that changed the desired mode. -/
def changeMode (s : Store) : Option (DesiredMode × Nat) → Store
  | none => s
  | some (mode, nowMs) => (s.setDesiredModeAt mode nowMs).2

/-- One call of the store. -/
def storeCall {α : Type} (call : Store → Result α × Store) : SupervisorM α := fun w =>
  match w.answers with
  | .store fault modeChange :: rest =>
    let w := { w with answers := rest, store := changeMode w.store modeChange }
    let (result, s) := call w.store
    match fault with
    | none => (some result, { w with store := s, storeFailed := w.storeFailed || !result.isOk })
    | some (.rejected error) => (some (.error error), { w with storeFailed := true })
    | some (.unreported error) =>
      (some (.error error), { w with store := s, storeFailed := true })
  | _ => (none, w)

/-- One read of the store. -/
def storeRead {α : Type} (read : Store → Result α) : SupervisorM α :=
  storeCall fun s => (read s, s)

def auditEvent (action detail : String) (nowMs : Nat) : SupervisorM Unit :=
  storeCall fun s => s.auditEvent action detail nowMs

def upsertComponent (record : ComponentRecord) (nowMs : Nat) : SupervisorM Unit :=
  storeCall fun s => s.upsertComponent record nowMs

def clearComponentIdentity (componentId : String) (nowMs : Nat) : SupervisorM Unit :=
  storeCall fun s => s.clearComponentIdentity componentId nowMs

def readComponent (componentId : String) : SupervisorM (Option ComponentRecord) :=
  storeRead fun s => s.component componentId

def cleanLaunchIntent (crates : Crates) (intentId : String) (nowMs : Nat) : SupervisorM Unit := do
  let _ ← storeCall fun s => s.cleanLaunchIntent crates intentId nowMs

/-- Read back the persisted identity of a component. -/
def componentIdentity (sv : Supervisor) (componentId : String) :
    SupervisorM (Option ChildIdentity) :=
  storeRead fun s =>
    match (lookup ComponentRow.id componentId s.components).bind ComponentRow.identityJson with
    | none => .ok none
    | some encoded =>
      (orError (sv.decodeIdentity encoded) (.json "invalid process identity")).map some

def getChild {ε : Type} (componentId : String) : Program World ε (Option RuntimeChild) :=
  .gets fun w => w.children componentId

/-- `children.insert` and `children.remove`. -/
def setChild (componentId : String) (child : Option RuntimeChild) : SupervisorM Unit :=
  .modify fun w => { w with children := Function.update w.children componentId child }

def editReport (edit : ReconcileReport → ReconcileReport) : SupervisorM Unit :=
  .modify fun w => { w with report := edit w.report }

def reportError (message : String) : SupervisorM Unit :=
  editReport fun r => { r with errors := r.errors ++ [message] }

def reportQuarantined (componentId : String) : SupervisorM Unit :=
  editReport fun r => { r with quarantined := r.quarantined ++ [componentId] }

/-- Run a routine that is given a report of its own. -/
def withScratchReport (m : SupervisorM Unit) : SupervisorM Unit := fun w =>
  let (r, w') := m { w with report := .begin 0 .stopped }
  (r, { w' with report := w.report })

/-! ### Calls of the process manager -/

/-- The exact text of a launched child's frame binding. -/
structure LaunchBootstraps where
  worker : Option BootstrapBindingRow
  gatewayHealth : Bool

/-- Launch a process for a prepared intent. A launch that does not end with an ordinary error may
have left a process, and so may one during which the machine stops. -/
def launch (sv : Supervisor) (componentId intentId containment : String)
    (bootstraps : LaunchBootstraps) : SupervisorM (Except RuntimeLaunchError RuntimeChild) :=
  fun w =>
    let call : LaunchCall := ⟨componentId, w.live⟩
    let alive : List LaunchRecord := w.live ++ [⟨componentId, intentId, containment⟩]
    let w := { w with launches := w.launches ++ [call] }
    match w.answers with
    | .launched (.ok identity) :: rest =>
      let child : RuntimeChild :=
        { intentId, identity
          isNative := !sv.config.allowSyntheticChildren
          workerBootstrapBinding := bootstraps.worker
          hasHealthClient := bootstraps.gatewayHealth }
      (some (.ok (.ok child)), { w with answers := rest, live := alive })
    | .launched (.error (.cleanupUncertain error)) :: rest =>
      (some (.ok (.error (.cleanupUncertain error))), { w with answers := rest, live := alive })
    | .launched (.error (.ordinary error)) :: rest =>
      (some (.ok (.error (.ordinary error))), { w with answers := rest })
    | _ => (none, { w with live := alive })

/-- Inspect an owned process. -/
def inspect : SupervisorM RuntimeObservation := do
  let result ← nextAnswer fun | .inspected r => some r | _ => none
  .ofExcept result

/-- The launches that are alive after a stop with the given outcome. -/
def afterStop (gone : LaunchRecord → Bool) (result : Result RuntimeStopOutcome)
    (live : List LaunchRecord) : List LaunchRecord :=
  match result with
  | .ok outcome => if outcome.isGone then live.filter fun r => !gone r else live
  | .error _ => live

/-- End the process of a launch: the launches for which `gone` holds are no longer alive when the
outcome says so. -/
def endProcess (gone : LaunchRecord → Bool) : SupervisorM RuntimeStopOutcome := fun w =>
  match w.answers with
  | .stopped result :: rest =>
    (some result, { w with answers := rest, live := afterStop gone result w.live })
  | _ => (none, w)

/-- Stop an owned child within bounded timeouts. -/
def stop (child : RuntimeChild) : SupervisorM RuntimeStopOutcome := do
  .modify fun w => { w with stops := w.stops ++ [child.intentId] }
  endProcess fun r => r.intentId == child.intentId

/-- Reconcile the prepared launch of an intent by its planned containment. -/
def cleanupPlannedContainment (intentId containment : String) : SupervisorM RuntimeStopOutcome :=
  endProcess fun r => r.intentId == intentId && r.containment == containment

/-- Reconstruct the handle of a recorded launch. -/
def recoverIntent (intent : LaunchIntentRow) : SupervisorM (Option RuntimeChild) := do
  let result ← nextAnswer fun | .recovered r => some r | _ => none
  let identity? ← .ofExcept result
  return identity?.map fun identity =>
    { intentId := intent.id
      identity
      isNative := true
      workerBootstrapBinding := none
      hasHealthClient := false }

/-- The bounded ownership proof of a child. -/
def ownershipProof : SupervisorM Value := do
  let result ← nextAnswer fun | .proof r => some r | _ => none
  .ofExcept result

end AscensionWatchdog
