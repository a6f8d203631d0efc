import AscensionWatchdog.Broker.Protocol
import AscensionWatchdog.Foundation.Journal
import AscensionWatchdog.Foundation.Table

/-!
# The ledger of the broker

The broker writes down what it is about to do before it does it: a journal of one record a line,
in which a request passes from pending over committed and stop-pending to stopped. In memory it
keeps the last record of each request. An operation of the ledger checks the record that is there
and, unless it has nothing to add, appends the next one and then puts it in memory; here an
operation is the function that decides which record that is.

On opening, the journal is read again from the start by a replayer with transition rules of its
own, `checkTransition`, and with bounds on the number of records and of requests.
-/

namespace AscensionWatchdog.Broker

open Foundation

def maxActiveProcesses : Nat :=
  64

def maxLedgerRequests : Nat :=
  128

def maxLedgerTransitions : Nat :=
  maxLedgerRequests * 4

def maxLedgerBytes : Nat :=
  maxLedgerTransitions * (maxFrameBytes + 1)

/-! ### Records -/

inductive LedgerState where
  | pending
  | committed
  | stopPending
  | stopped
  deriving DecidableEq, Repr

/-- The launch details that a reservation pins down. -/
structure LaunchIdentity where
  executable : String
  executableSha256 : String
  arguments : List String
  workingDirectory : String
  environment : List (String × String)
  targetUid : Nat
  targetGid : Nat
  capabilityBoundingSet : Nat
  ambientCapabilities : Nat
  noNewPrivileges : Bool
  tasksMax : Nat
  memoryMaxBytes : Nat
  timeoutNanos : Nat
  deriving DecidableEq, Repr

variable (crates : Crates) (codec : RecordCodec) (self : Ledger) (request : BrokerRequest)
  (receipt : LaunchReceipt) (policy : LaunchPolicy)

def LaunchIdentity.fromPolicy : LaunchIdentity where
  executable := policy.executable
  executableSha256 := policy.executableSha256
  arguments := policy.arguments
  workingDirectory := policy.workingDirectory
  environment := policy.environment
  targetUid := policy.targetUid
  targetGid := policy.targetGid
  capabilityBoundingSet := policy.capabilities.boundingSet
  ambientCapabilities := policy.capabilities.ambientSet
  noNewPrivileges := policy.capabilities.noNewPrivileges
  tasksMax := policy.cgroup.tasksMax
  memoryMaxBytes := policy.cgroup.memoryMaxBytes
  timeoutNanos := min policy.timeout (2 ^ 64 - 1)

def LaunchIdentity.matchesPolicy (self : LaunchIdentity) (policy : LaunchPolicy) : Prop :=
  self = LaunchIdentity.fromPolicy policy

instance (self : LaunchIdentity) (policy : LaunchPolicy) :
    Decidable (self.matchesPolicy policy) :=
  inferInstanceAs (Decidable (_ = _))

structure LedgerRecord where
  request : BrokerRequest
  unit : String
  identity : LaunchIdentity
  bootstrap : Option BrokerBootstrapBinding
  job : Option JobBinding
  cancelRequested : Option Bool
  state : LedgerState
  receipt : Option LaunchReceipt
  deriving DecidableEq, Repr

/-- The last record of each request. -/
abbrev Records : Type :=
  List LedgerRecord

def Records.get (records : Records) (request : BrokerRequest) : Option LedgerRecord :=
  lookup LedgerRecord.request request records

def Records.insert (records : Records) (record : LedgerRecord) : Records :=
  upsert LedgerRecord.request record records

theorem Records.get_insert {records : Records} {record : LedgerRecord} {request : BrokerRequest} :
    (records.insert record).get request =
      if record.request = request then some record else records.get request :=
  lookup_upsert

theorem Records.get_insert_self {records : Records} {record : LedgerRecord} :
    (records.insert record).get record.request = some record := by
  rw [Records.get_insert, if_pos rfl]

theorem Records.request_of_get {records : Records} {record : LedgerRecord}
    {request : BrokerRequest} (h : records.get request = some record) :
    record.request = request :=
  (mem_of_lookup h).2

/-! ### Operations -/

/-- The ledger in memory. It is poisoned by an append of which it is not known what the file
holds. -/
structure Ledger where
  records : Records
  poisoned : Bool

def Ledger.ensureHealthy : Except BrokerError Unit :=
  ensure (self.poisoned = false)
    (.unavailable "broker ledger is poisoned; reopen it from verified durable state")

def Ledger.contains : Bool :=
  (self.records.get request).isSome

/-- The reservation of a request: the pending record, or nothing when it is there already. -/
def Ledger.reserve (unit : String) (policy : LaunchPolicy)
    (bootstrap : Option BrokerBootstrapBinding) : Except BrokerError (Option LedgerRecord) := do
  self.ensureHealthy
  forEach (·.validate request) bootstrap.toList
  match self.records.get request with
  | some record => do
    ensure (record.unit = unit ∧ record.identity.matchesPolicy policy)
      (.conflict "broker ledger identity conflicts with current launch policy")
    ensure (record.bootstrap = bootstrap)
      (.conflict "broker launch bootstrap conflicts with its durable binding")
    ensure (record.state ≠ .stopPending ∧ record.state ≠ .stopped)
      (.conflict "broker lifecycle stop owns this launch nonce")
    ensure (record.cancelRequested ≠ some true)
      (.conflict "broker launch cancellation owns this pending nonce")
    pure none
  | none => do
    ensure (self.records.length < maxLedgerRequests)
      (.unavailable "broker idempotence ledger capacity is exhausted")
    ensure (self.records.countP (·.state ≠ .stopped) < maxActiveProcesses)
      (.unavailable "broker unresolved-process capacity is exhausted")
    pure (some
      { request := request
        unit := unit
        identity := LaunchIdentity.fromPolicy policy
        bootstrap := bootstrap
        job := none
        cancelRequested := none
        state := .pending
        receipt := none })

/-- The job that the manager queued, bound to a pending launch. -/
def Ledger.bindJob (job : JobBinding) : Except BrokerError (Option LedgerRecord) := do
  self.ensureHealthy
  job.validateForRequest crates request
  let previous ← orError (self.records.get request)
    (.conflict "broker job binding has no durable launch reservation")
  ensure (previous.unit = job.unit ∧ previous.identity.matchesPolicy policy)
    (.conflict "broker job binding conflicts with its launch identity")
  match previous.job with
  | some existing => do
    ensure (existing = job) (.conflict "broker launch has a different durable job binding")
    pure none
  | none => do
    ensure (previous.state = .pending)
      (.conflict "broker job binding can only extend a pending launch")
    pure (some { previous with request := request, job := some job })

/-- The request to stop a launch that is still pending. -/
def Ledger.requestPendingStop : Except BrokerError (Option LedgerRecord) := do
  self.ensureHealthy
  let previous ← orError (self.records.get request)
    (.conflict "pending stop has no durable launch reservation")
  ensure (previous.state = .pending)
    (.conflict "pending stop requires a pending launch reservation")
  ensure (previous.unit = unitName crates request ∧ previous.identity.matchesPolicy policy)
    (.conflict "pending stop conflicts with its immutable launch identity")
  if previous.cancelRequested = some true then
    pure none
  else
    pure (some { previous with request := request, cancelRequested := some true })

/-- The receipt of a launch. -/
def Ledger.commit : Except BrokerError (Option LedgerRecord) := do
  self.ensureHealthy
  let previous ← orError (self.records.get request)
    (.conflict "broker launch has no durable reservation")
  ensure (previous.state ≠ .stopPending ∧ previous.state ≠ .stopped)
    (.conflict "broker lifecycle stop owns this launch nonce")
  ensure (previous.unit = receipt.unit ∧ receipt.request = request)
    (.conflict "broker receipt does not match durable reservation")
  if previous.state = .committed then do
    let previousReceipt ← orError previous.receipt
      (.conflict "broker committed record has no persisted receipt")
    ensure (sameProcessBinding previousReceipt receipt)
      (.conflict "broker duplicate receipt has a different process identity")
    pure none
  else
    pure (some
      { previous with
        request := request
        unit := receipt.unit
        state := .committed
        receipt := some receipt })

/-- The intent to stop a committed launch. Unlike the other operations it does not keep a request
to cancel. -/
def Ledger.beginStop : Except BrokerError (Option LedgerRecord) := do
  self.ensureHealthy
  let previous ← orError (self.records.get request)
    (.conflict "broker stop has no durable launch reservation")
  if previous.state = .stopPending then do
    let previousReceipt ← orError previous.receipt
      (.conflict "broker stop-pending record has no persisted receipt")
    ensure (sameProcessBinding previousReceipt receipt)
      (.conflict "broker stop-pending record has a different process identity")
    pure none
  else do
    ensure (previous.state = .committed) (.conflict "broker launch is not committed for stop")
    let previousReceipt ← orError previous.receipt
      (.conflict "broker committed record has no persisted receipt")
    ensure (sameProcessBinding previousReceipt receipt ∧ previous.unit = receipt.unit ∧
        receipt.request = request)
      (.conflict "broker stop receipt does not match durable reservation")
    pure (some
      { previous with
        request := request
        unit := receipt.unit
        cancelRequested := none
        state := .stopPending
        receipt := some receipt })

/-- The intent to stop a launch that was not acknowledged. -/
def Ledger.beginFailedLaunchCleanup : Except BrokerError (Option LedgerRecord) := do
  self.ensureHealthy
  let previous ← orError (self.records.get request)
    (.conflict "failed launch has no durable reservation")
  if previous.state ≠ .pending then
    self.beginStop request receipt
  else do
    ensure (previous.identity.matchesPolicy policy ∧ previous.unit = unitName crates request)
      (.conflict "failed launch policy differs from reservation")
    verifyReceiptIdentity receipt request previous.unit policy
    pure (some
      { previous with
        request := request
        state := .stopPending
        receipt := some receipt })

/-- The end of a stop. -/
def Ledger.markStopped : Except BrokerError (Option LedgerRecord) := do
  self.ensureHealthy
  let previous ← orError (self.records.get request)
    (.conflict "broker stop has no durable launch reservation")
  let previousReceipt ← orError previous.receipt
    (.conflict "broker stop-pending record has no persisted receipt")
  ensure (previous.state = .stopPending ∧ sameProcessBinding previousReceipt receipt)
    (.conflict "broker stopped receipt does not match the pending stop binding")
  pure (some
    { previous with
      request := request
      unit := receipt.unit
      state := .stopped
      receipt := some receipt })

/-! ### Questions -/

inductive LifecycleRecord where
  | pending
  | committed (receipt : LaunchReceipt)
  | stopPending (receipt : LaunchReceipt)
  | stopped (receipt : LaunchReceipt)
  deriving DecidableEq, Repr

def Ledger.lifecycleRecord (unit : String) (policy : LaunchPolicy) :
    Except BrokerError (Option LifecycleRecord) :=
  match self.records.get request with
  | none => pure none
  | some record => do
    ensure (record.unit = unit ∧ record.identity.matchesPolicy policy)
      (.conflict "lifecycle request conflicts with its immutable launch identity")
    match record.state with
    | .pending => pure (some .pending)
    | .committed => do
      let receipt ← orError record.receipt
        (.conflict "broker committed record has no persisted receipt")
      pure (some (.committed receipt))
    | .stopPending => do
      let receipt ← orError record.receipt
        (.conflict "broker stop-pending record has no persisted receipt")
      pure (some (.stopPending receipt))
    | .stopped => do
      let receipt ← orError record.receipt
        (.conflict "broker stopped record has no persisted receipt")
      pure (some (.stopped receipt))

def Ledger.jobBinding : Except BrokerError (Option JobBinding) := do
  self.ensureHealthy
  match self.records.get request with
  | none => pure none
  | some record => do
    ensure (record.unit = unitName crates request ∧ record.identity.matchesPolicy policy)
      (.conflict "broker job lookup conflicts with its launch identity")
    forEach (·.validateForRequest crates request) record.job.toList
    pure record.job

def Ledger.pendingCancelRequested : Except BrokerError Bool := do
  self.ensureHealthy
  match self.records.get request with
  | none => pure false
  | some record =>
    if record.state ≠ .pending then
      pure false
    else do
      ensure (record.unit = unitName crates request ∧ record.identity.matchesPolicy policy)
        (.conflict "pending cancellation conflicts with its immutable launch identity")
      pure (record.cancelRequested = some true)

/-- The queued job of a reservation that is still pending. -/
def Ledger.pendingJobBinding : Except BrokerError (Option JobBinding) :=
  match self.records.get request with
  | none => pure none
  | some record =>
    if record.state ≠ .pending then pure none else self.jobBinding crates request policy

/-! ### Reading the journal -/

/-- What the replayer keeps. -/
structure Replay where
  records : Records
  transitionCount : Nat
  units : List (String × BrokerRequest)

def Replay.start : Replay where
  records := []
  transitionCount := 0
  units := []

def Replay.countTransition (self : Replay) : Except BrokerError Unit :=
  ensure (self.transitionCount + 1 ≤ maxLedgerTransitions)
    (.invalid "broker ledger transition count exceeds bound")

/-- The state that a record with a receipt follows. -/
def LedgerState.expectedPrevious : LedgerState → Option LedgerState
  | .pending => none
  | .committed => some .pending
  | .stopPending => some .committed
  | .stopped => some .stopPending

/-- A pending record may be extended once by the queued job and once by a request to cancel. -/
def extendsPending (previous record : LedgerRecord) : Prop :=
  (previous.state = .pending ∧ previous.receipt = none ∧ previous.job = none ∧
      record.job.isSome = true ∧ previous.cancelRequested = record.cancelRequested) ∨
    (previous.state = .pending ∧ previous.receipt = none ∧ previous.cancelRequested = none ∧
      record.cancelRequested = some true ∧ previous.job = record.job)

instance (previous record : LedgerRecord) : Decidable (extendsPending previous record) :=
  inferInstanceAs (Decidable (_ ∨ _))

/-- The receipt is of the request and of the identity that the record names. -/
def receiptOf (record : LedgerRecord) (receipt : LaunchReceipt) : Prop :=
  receipt.request = record.request ∧ receipt.unit = record.unit ∧
    receipt.executable = record.identity.executable ∧
    receipt.executableSha256 = record.identity.executableSha256 ∧ receipt.pid ≠ 0 ∧
    receipt.creationToken ≠ "" ∧ receipt.uid = record.identity.targetUid ∧
    receipt.gid = record.identity.targetGid ∧
    receipt.capabilityBoundingSet = record.identity.capabilityBoundingSet ∧
    receipt.ambientCapabilities = record.identity.ambientCapabilities ∧
    endsWith receipt.controlGroup s!"/{record.unit}" = true

instance (record : LedgerRecord) (receipt : LaunchReceipt) : Decidable (receiptOf record receipt) :=
  inferInstanceAs (Decidable (_ ∧ _))

/-- A record with a receipt keeps everything but the state, and the process of an earlier
receipt. -/
def followsReceipt (previous record : LedgerRecord) (receipt : LaunchReceipt) : Prop :=
  ((record.state = .stopPending ∧ previous.state = .pending ∧ previous.receipt = none) ∨
      record.state.expectedPrevious = some previous.state) ∧
    previous.unit = record.unit ∧ previous.identity = record.identity ∧
    previous.bootstrap = record.bootstrap ∧ previous.job = record.job ∧
    previous.cancelRequested = record.cancelRequested ∧
    (∀ prior ∈ previous.receipt, sameProcessBinding prior receipt) ∧ receiptOf record receipt

instance (previous record : LedgerRecord) (receipt : LaunchReceipt) :
    Decidable (followsReceipt previous record receipt) :=
  inferInstanceAs (Decidable (_ ∧ _))

def checkTransition (previous : Option LedgerRecord) (record : LedgerRecord) :
    Except BrokerError Unit :=
  match previous, record.state, record.receipt with
  | none, .pending, none =>
    ensure (record.cancelRequested = none)
      (.invalid "broker cancellation intent lacks a pending predecessor")
  | none, .pending, some _ =>
    .error (.invalid "pending broker ledger record must not have a receipt")
  | none, .committed, _ =>
    .error (.invalid "broker ledger committed record lacks a pending predecessor")
  | none, .stopPending, _ | none, .stopped, _ =>
    .error (.invalid "broker ledger lifecycle record lacks a committed predecessor")
  | some previous, .pending, none =>
    ensure (extendsPending previous record ∧ previous.unit = record.unit ∧
        previous.identity = record.identity ∧ previous.bootstrap = record.bootstrap)
      (.invalid "broker ledger has a duplicate or regressed pending record")
  | some _, .pending, some _ =>
    .error (.invalid "broker ledger has a duplicate or regressed pending record")
  | some previous, .committed, some receipt | some previous, .stopPending, some receipt
  | some previous, .stopped, some receipt =>
    ensure (followsReceipt previous record receipt)
      (.conflict "broker ledger committed record is inconsistent")
  | some _, .committed, none | some _, .stopPending, none | some _, .stopped, none =>
    .error (.invalid "terminal broker ledger record lacks a receipt")

/-- One record of the journal. -/
def Replay.applyRecord (self : Replay) (record : LedgerRecord) : Except BrokerError Replay := do
  record.request.validate
  forEach (·.validate record.request) record.bootstrap.toList
  forEach (·.validateForRequest crates record.request) record.job.toList
  ensure (record.unit = unitName crates record.request)
    (.conflict "broker ledger unit does not match request identity")
  ensure (∀ request ∈ self.units.lookup record.unit, request = record.request)
    (.conflict "broker ledger unit is claimed by multiple requests")
  ensure ((self.records.get record.request).isSome = true ∨
      self.records.length < maxLedgerRequests)
    (.invalid "broker ledger distinct request count exceeds bound")
  checkTransition (self.records.get record.request) record
  pure
    { records := self.records.insert record
      transitionCount := self.transitionCount + 1
      units := (record.unit, record.request) :: self.units }

def replayer : Journal.Reader Replay BrokerError LedgerRecord where
  check := Replay.countTransition
  apply := Replay.applyRecord crates

/-- The line feed. -/
def newline : UInt8 :=
  10

/-- How records are written: the serializer, with what is used of it. -/
abbrev RecordCodec : Type :=
  Journal.LineCodec newline BrokerError LedgerRecord

def parseRecords (file : List UInt8) : Except BrokerError Records := do
  let replay ← Journal.readFile codec (replayer crates) Replay.start file
  pure replay.records

/-- The records that a ledger is opened with. -/
def openRecords (file : List UInt8) : Except BrokerError Records := do
  ensure (file.length ≤ maxLedgerBytes) (.invalid "broker ledger exceeds size bound")
  parseRecords crates codec file

/-- The checks of an append that do not depend on the file system. -/
def checkAppend (file : List UInt8) (record : LedgerRecord) : Except BrokerError Unit := do
  ensure ((codec.encode record).length ≤ maxFrameBytes)
    (.invalid "broker ledger record exceeds size bound")
  ensure (file.length + ((codec.encode record).length + 1) ≤ maxLedgerBytes)
    (.unavailable "broker ledger aggregate size exceeds its reopen bound")

theorem parseRecords_eq_ok {crates : Crates} {codec : RecordCodec} {file : List UInt8}
    {records : Records} :
    parseRecords crates codec file = .ok records ↔
      ∃ replay, Journal.readFile codec (replayer crates) Replay.start file = .ok replay ∧
        replay.records = records := by
  rw [parseRecords, bind_eq_ok]
  simp only [pure_eq_ok]

end AscensionWatchdog.Broker
