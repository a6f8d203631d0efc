import AscensionWatchdog.Broker.Transitions
import AscensionWatchdog.Foundation.Programs

/-!
# The broker

The broker answers three calls: a launch, an inspection and a stop of the unit of a request. Each
is a program on a `BrokerWorld`: the memory of the broker, the file of its ledger, and what the
service manager will answer.

As for the supervisor, whatever the code cannot compute itself is taken from a list of answers, and
a list that ends, or whose next answer is of another kind, interrupts the program there. So the
runs over all lists are the runs with all outcomes of the manager and of the file system, and with
a crash between any two calls. A write of the ledger may also be interrupted half way, or fail: then
some of its bytes are in the file, and the ledger is poisoned.

A world also records what was done, in order (`events`): the records that are completely in the
file, the calls of the manager that change something, entered before they are made, and each time
the retirement of a unit was verified.
-/

namespace AscensionWatchdog.Broker

open Foundation Foundation.Journal

/-! ### Calls, answers and events -/

inductive QueuedJobResolution where
  | queued
  | gone
  deriving DecidableEq, Repr

inductive BrokerLifecycleOperation where
  | inspect
  | stop
  deriving DecidableEq, Repr

inductive BrokerLifecycleState where
  | active
  | stopped
  deriving DecidableEq, Repr

structure BrokerLifecycleReceipt where
  receipt : LaunchReceipt
  state : BrokerLifecycleState
  duplicate : Bool
  deriving DecidableEq, Repr

/-- A bootstrap frame with its binding. -/
structure BrokerBootstrapLaunch where
  binding : BrokerBootstrapBinding
  frame : List UInt8
  deriving DecidableEq, Repr

/-- How a write of the ledger ends. -/
inductive WriteOutcome where
  | done
  /-- after some bytes -/
  | failed (bytes : Nat) (error : BrokerError)
  /-- the machine stops after some bytes -/
  | crashed (bytes : Nat)
  deriving DecidableEq, Repr

/-- An answer to one call of the broker. -/
inductive BrokerAnswer where
  | checked (result : Except BrokerError Unit)
  | observed (result : Except BrokerError (Option UnitObservation))
  | started (result : Except BrokerError UnitObservation)
  | queuedJob (job : Option JobBinding)
  | takenJob (result : Except BrokerError JobBinding)
  | retirement (result : Except BrokerError Bool)
  | resolved (result : Except BrokerError QueuedJobResolution)
  | written (outcome : WriteOutcome)

/-- What was done. -/
inductive BrokerEvent where
  /-- the whole record is in the file -/
  | appended (record : LedgerRecord)
  | started (request : BrokerRequest)
  | jobTaken (request : BrokerRequest)
  | retained (request : BrokerRequest) (observation : UnitObservation)
  | jobCancelled (request : BrokerRequest) (job : JobBinding)
  | stopped (request : BrokerRequest) (observation : UnitObservation)
  | retainedStopped (receipt : LaunchReceipt)
  /-- the containment of the receipt was verified to be empty -/
  | retired (receipt : LaunchReceipt)
  | released (receipt : LaunchReceipt)
  deriving DecidableEq, Repr

/-- The memory of a broker. -/
structure LinuxSystemdBroker where
  policy : BrokerPolicy
  ledger : Ledger
  activeUnits : List String

def LinuxSystemdBroker.newWithLedger (policy : BrokerPolicy) (ledger : Ledger) :
    LinuxSystemdBroker where
  policy := policy
  ledger := ledger
  activeUnits := []

structure BrokerWorld where
  broker : LinuxSystemdBroker
  file : List UInt8
  events : List BrokerEvent
  answers : List BrokerAnswer

/-- Programs of the broker. -/
abbrev BrokerM (α : Type) : Type :=
  Program BrokerWorld BrokerError α

def ask {α : Type} (pick : BrokerAnswer → Option α) : BrokerM α := fun w =>
  match w.answers with
  | [] => (none, w)
  | answer :: rest =>
    match pick answer with
    | some a => (some (.ok a), { w with answers := rest })
    | none => (none, { w with answers := rest })

/-- A check by the system. -/
def askChecked : BrokerM Unit := do
  let result ← ask fun | .checked r => some r | _ => none
  .ofExcept result

def emit (event : BrokerEvent) : BrokerM Unit :=
  .modify fun w => { w with events := w.events ++ [event] }

/-! ### The service manager -/

def inspectUnit : BrokerM (Option UnitObservation) := do
  let result ← ask fun | .observed r => some r | _ => none
  .ofExcept result

variable (receipt : LaunchReceipt) (request : BrokerRequest)

/-- The result of a start is looked at only after the queued job was bound. -/
def startUnit : BrokerM (Except BrokerError UnitObservation) := do
  emit (.started request)
  ask fun | .started r => some r | _ => none

def queuedJobBinding : BrokerM (Option JobBinding) :=
  ask fun | .queuedJob job => some job | _ => none

def takeQueuedJobBinding : BrokerM JobBinding := do
  emit (.jobTaken request)
  let result ← ask fun | .takenJob r => some r | _ => none
  .ofExcept result

def retainContainment (observation : UnitObservation) : BrokerM Unit := do
  emit (.retained request observation)
  askChecked

def requireContainment : BrokerM Unit :=
  askChecked

def requireLocalContainment : BrokerM Unit :=
  askChecked

def requireRetainedContainment : BrokerM Unit :=
  askChecked

def verifyRetirement : BrokerM Bool := do
  let result ← ask fun | .retirement r => some r | _ => none
  let retired ← .ofExcept result
  if retired then
    emit (.retired receipt)
    pure true
  else pure false

def stopRetainedContainment : BrokerM Unit := do
  emit (.retainedStopped receipt)
  askChecked

def stopUnit (observation : UnitObservation) : BrokerM Unit := do
  emit (.stopped request observation)
  askChecked

def releaseRetired : BrokerM Unit := do
  emit (.released receipt)
  askChecked

def resolveQueuedJob : BrokerM QueuedJobResolution := do
  let result ← ask fun | .resolved r => some r | _ => none
  .ofExcept result

def cancelQueuedJob (job : JobBinding) : BrokerM Unit := do
  emit (.jobCancelled request job)
  askChecked

/-! ### The ledger and the set of active units -/

section Ledger

variable (crates : Crates) (codec : RecordCodec)

/-- The world after the first bytes of the entry of a record were written. A record is in the file
when all bytes but perhaps the newline are. -/
def BrokerWorld.write (w : BrokerWorld) (record : LedgerRecord) (bytes : Nat) : BrokerWorld :=
  { w with
    file := w.file ++ (entry codec record).take bytes
    events :=
      if (codec.encode record).length ≤ bytes then w.events ++ [.appended record] else w.events }

/-- The ledger is not used any more. -/
def BrokerWorld.poison (w : BrokerWorld) : BrokerWorld :=
  { w with broker := { w.broker with ledger := { w.broker.ledger with poisoned := true } } }

/-- A write that was begun. The memory of a broker that stopped is lost, which is as good as
poisoned. -/
def writeEntry (record : LedgerRecord) : WriteOutcome → BrokerM Unit
  | .done => .modify fun w => w.write codec record (entry codec record).length
  | .failed bytes error => do
    .modify fun w => (w.write codec record bytes).poison
    .fail error
  | .crashed bytes => do
    .modify fun w => (w.write codec record bytes).poison
    .interrupt

def append (record : LedgerRecord) : BrokerM Unit := do
  .ofExcept (ensure ((codec.encode record).length ≤ maxFrameBytes)
    (.invalid "broker ledger record exceeds size bound"))
  -- the directory, the file and its owner and mode
  askChecked
  let file ← .gets BrokerWorld.file
  .ofExcept (ensure (file.length + ((codec.encode record).length + 1) ≤ maxLedgerBytes)
    (.unavailable "broker ledger aggregate size exceeds its reopen bound"))
  let outcome ← ask fun | .written outcome => some outcome | _ => none
  writeEntry codec record outcome

/-- An operation of the ledger; whether it appended a record. -/
def performOp (op : LedgerOp) : BrokerM Bool := do
  let ledger ← .gets (·.broker.ledger)
  let appended ← .ofExcept (op.decide crates ledger)
  match appended with
  | none => pure false
  | some record => do
    append codec record
    .modify fun w => { w with broker := { w.broker with
      ledger := { w.broker.ledger with records := w.broker.ledger.records.insert record } } }
    pure true

end Ledger

def insertActive (unit : String) : BrokerM Unit :=
  .modify fun w => { w with broker := { w.broker with
    activeUnits := w.broker.activeUnits.insert unit } }

def removeActive (unit : String) : BrokerM Unit :=
  .modify fun w => { w with broker := { w.broker with
    activeUnits := w.broker.activeUnits.filter (· ≠ unit) } }

/-- A unit that is not active yet needs room. -/
def checkActiveRoom (unit : String) : BrokerM Unit := do
  let active ← .gets (·.broker.activeUnits)
  .ofExcept (ensure (unit ∈ active ∨ active.length < maxActiveProcesses)
    (.unavailable "broker active-process capacity is exhausted"))

def componentPolicy (request : BrokerRequest) : BrokerM LaunchPolicy := do
  let policy ← .gets (·.broker.policy)
  .ofExcept (policy.component request.component)

def ensureHealthy : BrokerM Unit := do
  let ledger ← .gets (·.broker.ledger)
  .ofExcept ledger.ensureHealthy

/-! ### Bootstrap frames -/

/-- A magic number of eight bytes, a length and the payload. -/
def maxBootstrapFrameBytes : Nat :=
  8 + 4 + 16384

/-- The decoding of the frame, and the comparison of what it holds, is a check of another part. -/
def BrokerBootstrapLaunch.validateForRequest (self : BrokerBootstrapLaunch)
    (request : BrokerRequest) : BrokerM Unit := do
  .ofExcept (self.binding.validate request)
  .ofExcept (ensure (self.frame ≠ [] ∧ self.frame.length ≤ maxBootstrapFrameBytes)
    (.invalid "broker bootstrap frame exceeds its size bound"))
  askChecked

def authenticateWorkerPeer (bootstrap : BrokerBootstrapLaunch) : BrokerM Unit :=
  match bootstrap.binding.kind with
  | .gatewayHealth => pure ()
  | .worker => askChecked

def healthNonceEnv : String :=
  "STS2_GATEWAY_WATCHDOG_LAUNCH_NONCE"

def launchEnvironment (policy : LaunchPolicy) (request : BrokerRequest)
    (bootstrap : Option BrokerBootstrapLaunch) : BrokerM (List String) := do
  let environment := policy.environment.map fun binding => s!"{binding.1}={binding.2}"
  match bootstrap with
  | none => pure environment
  | some bootstrap => do
    bootstrap.validateForRequest request
    match bootstrap.binding.kind with
    | .worker => pure environment
    | .gatewayHealth => do
      .ofExcept (ensure (policy.environment.length < maxEnvironment)
        (.invalid "generated health nonce would exceed the environment bound"))
      .ofExcept (ensure (∀ binding ∈ policy.environment, binding.1 ≠ healthNonceEnv)
        (.invalid "fixed broker policy may not override the generated health nonce"))
      pure (environment ++ [s!"{healthNonceEnv}={request.nonce}"])

/-! ### Launches -/

section Calls

variable (crates : Crates) (codec : RecordCodec)

def cleanupError (error : BrokerError) : Except BrokerError Unit → BrokerError
  | .ok () => error
  | .error cleanup => .conflict s!"launch failed and exact-unit cleanup was not proven: {error.display}; cleanup: {cleanup.display}"

variable (operation : BrokerLifecycleOperation) (request : BrokerRequest) (receipt : LaunchReceipt)
  (policy : LaunchPolicy) (persisted : LaunchReceipt) (stopPending : Bool)

/-- The end of a stop in the ledger and in the set of active units. -/
def settleStop (unit : String) : BrokerM Unit := do
  let _ ← performOp crates codec (.markStopped request receipt)
  removeActive unit

/-- Stop the unit of a launch that cannot be acknowledged. -/
def cleanupFailedLaunch (expected : UnitObservation) : BrokerM Unit := do
  ensureHealthy
  let policy ← componentPolicy request
  requireLocalContainment
  let receipt := receiptFrom request expected false
  let _ ← performOp crates codec (.beginFailedLaunchCleanup request receipt policy)
  stopUnit request expected
  let retired ← verifyRetirement receipt
  if retired then
    settleStop crates codec request receipt expected.unit
    releaseRetired receipt
  else .fail (.conflict "failed launch containment is not proven empty")

/-- A launch whose reservation was there already: it is acknowledged if its unit runs, and never
started again. -/
def resumeLaunch : BrokerM LaunchReceipt := do
  let unit := unitName crates request
  let ledger ← .gets (·.broker.ledger)
  let cancelled ← .ofExcept (ledger.pendingCancelRequested crates request policy)
  .ofExcept (ensure (cancelled = false)
    (.conflict "durable launch cancellation is pending; refusing to relaunch old nonce"))
  let observation ← inspectUnit
  match observation with
  | none =>
    .fail (.conflict "durable launch record has no active unit; refusing to relaunch old nonce")
  | some observation => do
    .ofExcept (observation.verify unit policy)
    let receipt := receiptFrom request observation true
    requireContainment
    let _ ← performOp crates codec (.commit request receipt)
    insertActive unit
    pure receipt

/-- The job that the manager queued is bound before the result of the start is looked at. -/
def bindQueuedJob : BrokerM Unit := do
  let job ← queuedJobBinding
  match job with
  | none => pure ()
  | some job => do
    let _ ← performOp crates codec (.bindJob request policy job)
    let consumed ← takeQueuedJobBinding request
    .ofExcept (ensure (consumed = job)
      (.conflict "backend queued job changed while binding its durable identity"))

/-- The launch of a request that was just reserved. -/
def startReserved : BrokerM LaunchReceipt := do
  let unit := unitName crates request
  let started ← startUnit request
  bindQueuedJob crates codec request policy
  let observation ← .ofExcept started
  .ofExcept (observation.verify unit policy)
  let retained ← (retainContainment request observation).attempt
  match retained with
  | .error error => do
    let cleanup ← (cleanupFailedLaunch crates codec request observation).attempt
    .fail (cleanupError error cleanup)
  | .ok () => do
    let receipt := receiptFrom request observation false
    let committed ← (performOp crates codec (.commit request receipt)).attempt
    match committed with
    | .error error => do
      let ledger ← .gets (·.broker.ledger)
      if ledger.poisoned then .fail error
      else do
        let cleanup ← (cleanupFailedLaunch crates codec request observation).attempt
        .fail (cleanupError error cleanup)
    | .ok _ => do
      insertActive unit
      pure receipt

/-- What is checked before anything is written. -/
def admitLaunch (bootstrap : Option BrokerBootstrapLaunch) : BrokerM LaunchPolicy := do
  .ofExcept request.validate
  -- the credentials of the peer
  askChecked
  .forSome (fun bootstrap => do
    bootstrap.validateForRequest request
    authenticateWorkerPeer bootstrap) bootstrap
  let policy ← componentPolicy request
  let _ ← launchEnvironment policy request bootstrap
  ensureHealthy
  checkActiveRoom (unitName crates request)
  let ledger ← .gets (·.broker.ledger)
  if ledger.contains request then pure policy
  else do
    let observation ← inspectUnit
    .ofExcept (ensure (observation = none)
      (.conflict "active unit has no durable launch reservation"))
    pure policy

def handleLaunch (bootstrap : Option BrokerBootstrapLaunch) : BrokerM LaunchReceipt := do
  let policy ← admitLaunch crates request bootstrap
  let newlyReserved ← performOp crates codec
    (.reserve request policy (bootstrap.map BrokerBootstrapLaunch.binding))
  if newlyReserved then startReserved crates codec request policy
  else resumeLaunch crates codec request policy

/-! ### Inspections and stops -/

def stoppedReceipt : LaunchReceipt :=
  { persisted with duplicate := false }

/-- The end of a stop, after which the retained descriptor is released. -/
def finishStop : BrokerM BrokerLifecycleReceipt := do
  settleStop crates codec request receipt (unitName crates request)
  releaseRetired receipt
  pure ⟨receipt, .stopped, false⟩

/-- Cancel a job that is still queued. -/
def cancelIfQueued (job : JobBinding) : BrokerM Unit := do
  let resolution ← resolveQueuedJob
  match resolution with
  | .queued => cancelQueuedJob request job
  | .gone => pure ()

/-- The stop of a launch that was not acknowledged is recorded before its job is touched. -/
def cancelPending : BrokerM Unit := do
  let _ ← performOp crates codec (.requestPendingStop request policy)
  let ledger ← .gets (·.broker.ledger)
  let job ← .ofExcept (ledger.pendingJobBinding crates request policy)
  .forSome (cancelIfQueued request) job

def lifecyclePending : BrokerM BrokerLifecycleReceipt := do
  if operation = .stop then cancelPending crates codec request policy else pure ()
  .fail (.conflict "lifecycle request has an unresolved launch reservation; exact execution remains uncertain")

def lifecycleStopped : BrokerM BrokerLifecycleReceipt := do
  let unit := unitName crates request
  .ofExcept (verifyReceiptIdentity persisted request unit policy)
  let observation ← inspectUnit
  match observation with
  | none => do
    if operation = .stop then releaseRetired persisted else pure ()
    pure ⟨persisted, .stopped, operation = .stop⟩
  | some observation => do
    .ofExcept (observation.verify unit policy)
    .ofExcept (ensure (sameProcessBinding persisted (receiptFrom request observation false))
      (.conflict "terminal lifecycle unit identity was replaced"))
    .fail (.conflict "terminal lifecycle unit was reactivated")

/-- The intent to stop, unless it is recorded already. -/
def recordStop : BrokerM Unit := do
  if stopPending then pure ()
  else do
    let _ ← performOp crates codec (.beginStop request receipt)
    pure ()

/-- Empty the retained containment of a unit that does not run, unless it is empty. -/
def retireOrphan : BrokerM Unit := do
  let retired ← verifyRetirement persisted
  if retired then pure ()
  else do
    requireRetainedContainment
    recordStop crates codec request persisted stopPending
    stopRetainedContainment persisted
    let retired ← verifyRetirement persisted
    .ofExcept (ensure (retired = true)
      (.conflict "original orphan containment retirement is unproven"))

/-- The unit of a committed launch does not run: the stop works on the retained containment. -/
def stopOrphan : BrokerM BrokerLifecycleReceipt := do
  retireOrphan crates codec request persisted stopPending
  let receipt := stoppedReceipt persisted
  let _ ← performOp crates codec (.beginStop request receipt)
  finishStop crates codec request receipt

/-- Wait until the unit is gone. Every round takes an answer, so that `rounds` may be their
number. -/
def confirmStop (request : BrokerRequest) (policy : LaunchPolicy) (persisted : LaunchReceipt) :
    Nat → BrokerM BrokerLifecycleReceipt
  | 0 => .interrupt
  | rounds + 1 => do
    let unit := unitName crates request
    let observation ← inspectUnit
    match observation with
    | none => do
      let retired ← verifyRetirement persisted
      if retired then finishStop crates codec request (stoppedReceipt persisted)
      else .fail (.conflict "original containment retirement is unproven")
    | some observation => do
      .ofExcept (observation.verify unit policy)
      .ofExcept (ensure (sameProcessBinding persisted (receiptFrom request observation false))
        (.conflict "unit identity changed while exact stop was in flight"))
      -- the time that remains
      askChecked
      confirmStop request policy persisted rounds

/-- The unit of a committed launch runs. -/
def lifecycleActive (observation : UnitObservation) : BrokerM BrokerLifecycleReceipt := do
  let unit := unitName crates request
  .ofExcept (observation.verify unit policy)
  let observed := receiptFrom request observation false
  .ofExcept (ensure (sameProcessBinding persisted observed)
    (.conflict "live lifecycle unit identity differs from its durable receipt"))
  match operation with
  | .inspect => do
    .ofExcept (ensure (stopPending = false)
      (.conflict "lifecycle stop is pending; active state is uncertain"))
    pure ⟨observed, .active, false⟩
  | .stop => do
    requireLocalContainment
    recordStop crates codec request observed stopPending
    checkActiveRoom unit
    insertActive unit
    stopUnit request observation
    let rounds ← .gets (·.answers.length + 1)
    confirmStop crates codec request policy persisted rounds

def lifecycleCommitted : BrokerM BrokerLifecycleReceipt := do
  .ofExcept (verifyReceiptIdentity persisted request (unitName crates request) policy)
  let observation ← inspectUnit
  match observation, operation with
  | some observation, _ =>
    lifecycleActive crates codec operation request policy persisted stopPending observation
  | none, .stop => stopOrphan crates codec request persisted stopPending
  | none, .inspect => .fail (.conflict
      (if stopPending then "stop-pending lifecycle unit is inactive; absence is uncommitted"
      else "committed lifecycle unit is inactive or missing; ownership is uncertain"))

def handleLifecycle : BrokerM BrokerLifecycleReceipt := do
  .ofExcept request.validate
  -- the credentials of the peer
  askChecked
  let policy ← componentPolicy request
  ensureHealthy
  let ledger ← .gets (·.broker.ledger)
  let record ← .ofExcept (ledger.lifecycleRecord request (unitName crates request) policy)
  match record with
  | none => .fail (.conflict "lifecycle request has no durable launch reservation")
  | some .pending => lifecyclePending crates codec operation request policy
  | some (.stopped persisted) => lifecycleStopped crates operation request policy persisted
  | some (.committed persisted) =>
    lifecycleCommitted crates codec operation request policy persisted false
  | some (.stopPending persisted) =>
    lifecycleCommitted crates codec operation request policy persisted true

end Calls

end AscensionWatchdog.Broker
