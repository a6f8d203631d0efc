import AscensionWatchdog.Storage.WorkerCompletion

/-!
# Frames of the worker handoff protocol

The watchdog asks, the worker answers: every exchange is one request frame and one response frame.
`ResponseFrame` has the responses, which are all that a worker can send, and
`ResponseFrame.isValid` says which of them decode. The checks of this file are the ones that the
client makes on what it sends and on what it receives; each has the error it reports.
-/

namespace AscensionWatchdog

open Foundation

inductive Direction where
  | request
  | response
  deriving DecidableEq, Repr

inductive Command where
  | probe
  | dispatch
  | lookup
  | acknowledge
  | setControlMode
  deriving DecidableEq, Repr

inductive Scope where
  | probe
  | dispatch
  | lookup
  | acknowledge
  | control
  deriving DecidableEq, Repr

inductive WorkerMode where
  | running
  | paused
  | draining
  | stopped
  deriving DecidableEq, Repr

inductive DispatchStatus where
  | accepted
  | alreadyCompleted
  | terminal
  | busy
  | rejected
  deriving DecidableEq, Repr

inductive LookupStatus where
  | running
  | terminal
  | unknown
  | rejected
  deriving DecidableEq, Repr

inductive AcknowledgeStatus where
  | acknowledged
  | alreadyAcknowledged
  | conflict
  | rejected
  deriving DecidableEq, Repr

inductive ControlStatus where
  | accepted
  | rejected
  deriving DecidableEq, Repr

def protocolContract : String :=
  "ascension-watchdog-worker-handoff-v1"

def maxTimeoutMs : Nat :=
  5000

structure Header where
  contract : String
  schemaDigest : String
  direction : Direction
  command : Command
  scope : Scope
  requestId : String
  timeoutMs : Nat
  watchdogBootId : String
  workerBootId : Option String
  deriving DecidableEq, Repr

/-- The terminal evidence of a response, with the tuple that it repeats. -/
structure TerminalReceipt where
  tuple : WorkerHandoffTuple
  status : WorkerTerminalStatus
  checkpointSequence : Nat
  terminalRef : String
  resultDigest : String
  deriving DecidableEq, Repr

/-- The part of the evidence that the store keeps. -/
def storageReceipt (receipt : TerminalReceipt) : WorkerTerminalReceipt where
  status := receipt.status
  checkpointSequence := receipt.checkpointSequence
  terminalRef := receipt.terminalRef
  resultDigest := receipt.resultDigest

structure ProbeResponse where
  header : Header
  deploymentId : String
  workerOwnerId : String
  workerProfileDigest : String
  releaseDigest : String
  configDigest : String
  ready : Bool
  admitting : Bool
  deriving DecidableEq, Repr

structure DispatchResponse where
  header : Header
  tuple : WorkerHandoffTuple
  status : DispatchStatus
  terminal : Option TerminalReceipt
  deriving DecidableEq, Repr

structure LookupResponse where
  header : Header
  tuple : WorkerHandoffTuple
  status : LookupStatus
  terminal : Option TerminalReceipt
  deriving DecidableEq, Repr

structure AcknowledgeResponse where
  header : Header
  tuple : WorkerHandoffTuple
  status : AcknowledgeStatus
  deriving DecidableEq, Repr

structure ControlScope where
  deploymentId : String
  workerOwnerId : String
  workerProfileDigest : String
  mode : WorkerMode
  modeSequence : Nat
  deriving DecidableEq, Repr

structure SetControlModeResponse where
  header : Header
  scope : ControlScope
  status : ControlStatus
  deriving DecidableEq, Repr

/-- The frames that `decode_response` can return. -/
inductive ResponseFrame where
  | probe (response : ProbeResponse)
  | dispatch (response : DispatchResponse)
  | lookup (response : LookupResponse)
  | acknowledge (response : AcknowledgeResponse)
  | setControlMode (response : SetControlModeResponse)
  deriving DecidableEq, Repr

/-! ### Frames that decode -/

/-- A UUID of version 4 in canonical text; the variant is not looked at. -/
def isProtocolUuid (value : String) : Bool :=
  match Uuid.parseStr value with
  | none => false
  | some digits => Uuid.versionNum digits == 4 && Uuid.toText digits == value

/-- A durable id: bounded and free of ASCII control characters. -/
def isExistingId (value : String) : Bool :=
  !value.isEmpty && value.utf8ByteSize ≤ 128 &&
    !value.toList.any fun c => c.toNat < 0x20 || c.toNat == 0x7f

def isReference (value : String) : Bool :=
  !value.isEmpty && value.utf8ByteSize ≤ 1024 &&
    !value.toList.any fun c => c.toNat < 0x20 || c.toNat == 0x7f

/-- The header of a frame of the given direction and command, which names a worker boot. -/
def Header.isFrame (header : Header) (direction : Direction) (command : Command) (scope : Scope) :
    Bool :=
  header.contract == protocolContract && header.schemaDigest == workerHandoffSchemaDigest &&
    header.direction == direction && header.command == command && header.scope == scope &&
    isProtocolUuid header.requestId && isProtocolUuid header.watchdogBootId &&
    header.workerBootId.any isProtocolUuid && 0 < header.timeoutMs &&
    header.timeoutMs ≤ maxTimeoutMs

/-- The header of a response to the given command. -/
def Header.isResponse (header : Header) (command : Command) (scope : Scope) : Bool :=
  header.isFrame .response command scope

def WorkerHandoffTuple.isWire (tuple : WorkerHandoffTuple) : Bool :=
  isProtocolUuid tuple.handoffId && isWorkerIdentity tuple.deploymentId &&
    isExistingId tuple.jobId && isExistingId tuple.attemptId &&
    isWireSequence tuple.attemptNumber && isWorkerIdentity tuple.workerOwnerId &&
    isDigest tuple.workerProfileDigest && isProtocolUuid tuple.runId &&
    isProtocolUuid tuple.episodeId && isProtocolUuid tuple.trajectoryId &&
    tuple.payloadDigest == workerHandoffPayloadDigest &&
    [tuple.runId, tuple.episodeId, tuple.trajectoryId, tuple.handoffId].Nodup

def ControlScope.isWire (scope : ControlScope) : Bool :=
  isWorkerIdentity scope.deploymentId && isWorkerIdentity scope.workerOwnerId &&
    isDigest scope.workerProfileDigest && isWireSequence scope.modeSequence

/-- The receipt of a terminal response. The bound on its encoded size follows from the bounds on
its fields. -/
def TerminalReceipt.isWire (receipt : TerminalReceipt) (tuple : WorkerHandoffTuple) : Bool :=
  receipt.tuple == tuple && isReference receipt.terminalRef &&
    receipt.checkpointSequence ≤ maxWorkerWireInteger && isDigest receipt.resultDigest

/-- A receipt stands exactly in the terminal responses. -/
def terminalIsWire (terminal : Bool) (receipt : Option TerminalReceipt)
    (tuple : WorkerHandoffTuple) : Bool :=
  match receipt with
  | none => !terminal
  | some receipt => terminal && receipt.isWire tuple

/-- The request that hands an episode over. -/
structure DispatchRequest where
  header : Header
  tuple : WorkerHandoffTuple
  modeSequence : Nat
  operation : String
  parameters : Json.Value
  deriving DecidableEq, Repr

def maxOperationBytes : Nat :=
  64

/-- The dispatch requests that the protocol lets pass. -/
def DispatchRequest.isWire (request : DispatchRequest) : Bool :=
  request.header.isFrame .request .dispatch .dispatch && request.tuple.isWire &&
    isWireSequence request.modeSequence && request.operation == workerHandoffOperation &&
    request.operation.utf8ByteSize ≤ maxOperationBytes && request.parameters == emptyParameters &&
    request.tuple.payloadDigest == workerHandoffPayloadDigest

/-- The frames that decode. -/
def ResponseFrame.isValid : ResponseFrame → Bool
  | .probe r =>
    r.header.isResponse .probe .probe && isWorkerIdentity r.deploymentId &&
      isWorkerIdentity r.workerOwnerId && isDigest r.workerProfileDigest &&
      isDigest r.releaseDigest && isDigest r.configDigest && !r.admitting
  | .dispatch r =>
    r.header.isResponse .dispatch .dispatch && r.tuple.isWire &&
      terminalIsWire (r.status == .terminal || r.status == .alreadyCompleted) r.terminal r.tuple
  | .lookup r =>
    r.header.isResponse .lookup .lookup && r.tuple.isWire &&
      terminalIsWire (r.status == .terminal) r.terminal r.tuple
  | .acknowledge r => r.header.isResponse .acknowledge .acknowledge && r.tuple.isWire
  | .setControlMode r => r.header.isResponse .setControlMode .control && r.scope.isWire

/-! ### Checks of the client -/

/-- A client of one worker boot: the configured binding and the session of this watchdog. -/
structure WorkerClient where
  binding : WorkerBinding
  timeoutMs : Nat
  watchdogBootId : String
  deriving DecidableEq, Repr

def WorkerClient.header (client : WorkerClient) (command : Command) (scope : Scope)
    (requestId : String) (workerBootId : Option String) : Header where
  contract := protocolContract
  schemaDigest := workerHandoffSchemaDigest
  direction := .request
  command := command
  scope := scope
  requestId := requestId
  timeoutMs := client.timeoutMs
  watchdogBootId := client.watchdogBootId
  workerBootId := workerBootId

/-- The request that `dispatch_phase` builds from a handoff. -/
def WorkerClient.dispatchRequest (client : WorkerClient) (handoff : WorkerHandoff)
    (requestId : String) : DispatchRequest where
  header := client.header .dispatch .dispatch requestId (some handoff.row.workerBootId)
  tuple := handoff.row.tuple
  modeSequence := handoff.row.modeSequence
  operation := workerHandoffOperation
  parameters := emptyParameters

def validateClientUuid4 (value field : String) : Result Unit := do
  let parsed ← orError (Uuid.parseStr value)
    (.invalidInput s!"{field} must be a canonical UUIDv4")
  ensure (Uuid.versionNum parsed = 4 ∧ Uuid.isRfc4122 parsed ∧ Uuid.toText parsed = value)
    (.invalidInput s!"{field} must be a lowercase canonical UUIDv4")

/-- A response correlates exactly with its request. A probe targets no worker boot: the worker
answers with its own, which has to be a fresh identity. -/
def validateResponseHeader (request response : Header) (expectedWorkerBootId : Option String) :
    Result Unit := do
  let workerBootMatches ←
    match expectedWorkerBootId, response.workerBootId with
    | some expected, boot => pure (decide (boot = some expected))
    | none, none => pure false
    | none, some boot => do
      validateClientUuid4 boot "worker boot id"
      pure true
  ensure (response.direction = .response ∧ response.command = request.command ∧
      response.scope = request.scope ∧ response.contract = protocolContract ∧
      response.schemaDigest = workerHandoffSchemaDigest ∧
      response.requestId = request.requestId ∧
      response.watchdogBootId = request.watchdogBootId ∧
      response.timeoutMs = request.timeoutMs ∧ workerBootMatches = true)
    (.identityMismatch "worker response identity or correlation does not match the request")

def validateTupleForClient (client : WorkerClient) (tuple : WorkerHandoffTuple) : Result Unit :=
  ensure (tuple.deploymentId = client.binding.deploymentId ∧
      tuple.workerOwnerId = client.binding.workerOwnerId ∧
      tuple.workerProfileDigest = client.binding.workerProfileDigest)
    (.conflict "worker handoff tuple differs from the configured worker")

def validateStorageTuple (tuple : WorkerHandoffTuple) : Result Unit := do
  validateClientUuid4 tuple.handoffId "handoff id"
  validateClientUuid4 tuple.runId "run id"
  validateClientUuid4 tuple.episodeId "episode id"
  validateClientUuid4 tuple.trajectoryId "trajectory id"
  ensure [tuple.handoffId, tuple.runId, tuple.episodeId, tuple.trajectoryId].Nodup
    (.invalidInput "worker handoff tuple UUIDs must be pairwise distinct")
  ensure (tuple.attemptNumber ≠ 0 ∧ tuple.payloadDigest = workerHandoffPayloadDigest)
    (.invalidInput "worker handoff tuple has an invalid attempt or payload digest")
  validateDigestValue tuple.workerProfileDigest "worker profile digest"
  validateDigestValue tuple.payloadDigest "payload digest"

def validateControlScope (scope : ControlScope) : Result Unit := do
  ensure (¬ scope.deploymentId.isEmpty ∧ ¬ scope.workerOwnerId.isEmpty ∧
      scope.workerProfileDigest.utf8ByteSize = 64 ∧ scope.modeSequence ≠ 0)
    (.invalidInput "worker control scope is outside its bounds")
  validateDigestValue scope.workerProfileDigest "worker profile digest"

/-- What has to be committed before a dispatch may be sent. -/
def validateHandoffForClient (client : WorkerClient) (handoff : WorkerHandoff) : Result Unit := do
  ensure (handoff.row.state = .mayHaveBeenDispatched)
    (.conflict "worker dispatch requires a committed may_have_been_dispatched handoff")
  ensure (handoff.row.operation = workerHandoffOperation ∧ handoff.parameters = emptyParameters ∧
      handoff.row.payloadDigest = workerHandoffPayloadDigest ∧
      handoff.job.workerId = some handoff.row.workerOwnerId)
    (.conflict "worker handoff is not the configured empty runtime-v3 episode")
  ensure (handoff.row.watchdogBootId = client.watchdogBootId)
    (.conflict "worker handoff is not bound to this watchdog session")
  validateStorageTuple handoff.row.tuple
  validateTupleForClient client handoff.row.tuple
  validateClientUuid4 handoff.row.workerBootId "worker boot id"
  ensure (handoff.row.modeSequence ≠ 0)
    (.invalidInput "worker mode sequence must be positive")

/-! ### Modes -/

def workerMode : DesiredMode → WorkerMode
  | .stopped => .stopped
  | .paused => .paused
  | .running => .running
  | .draining => .draining

def storageWorkerMode : WorkerMode → WorkerControlMode
  | .stopped => .stopped
  | .paused => .paused
  | .running => .running
  | .draining => .draining

end AscensionWatchdog
