import AscensionWatchdog.Supervisor.World

/-!
# Exchanges with the worker

The client of one worker boot sends a request frame and waits for the response. A failure of the
transport makes the worker *unavailable*, which the phase may put off; a failed check is *fatal* to
the pass. `ControlRequest`s are recorded as they are sent: a request whose exchange fails may have
reached the worker, and so may one during which the machine stops.
-/

namespace AscensionWatchdog

open Foundation Program

/-- How a failure of an exchange is classified. -/
inductive WorkerPhaseError where
  | unavailable (error : WatchdogError)
  | fatal (error : WatchdogError)
  deriving DecidableEq, Repr

/-- Only failures that the transport itself raises can be put off. -/
def WorkerPhaseError.transport : WatchdogError → WorkerPhaseError
  | .io message => .unavailable (.io message)
  | .timeout message => .unavailable (.timeout message)
  | .unauthorized message => .unavailable (.unauthorized message)
  | .unsupported message => .unavailable (.unsupported message)
  | error => .fatal error

/-- Programs of a worker phase. -/
abbrev PhaseM (α : Type) : Type :=
  Program World WorkerPhaseError α

/-- A routine whose errors are fatal to the phase. -/
def orFatal {α : Type} (m : SupervisorM α) : PhaseM α :=
  mapError .fatal m

def fatalConflict {α : Type} (message : String) : PhaseM α :=
  fail (.fatal (.conflict message))

/-- Send one request and wait for its response. -/
def exchange (sent : World → World) : PhaseM ResponseFrame := fun w =>
  match w.answers with
  | .peer mayHaveBeenSent result :: rest =>
    let w := { w with answers := rest }
    (some (result.mapError .transport), if mayHaveBeenSent || result.isOk then sent w else w)
  | _ => (none, sent w)

/-- The record of a control request. -/
def ControlRequest.record (request : ControlRequest) (w : World) : World :=
  { w with controls := w.controls ++ [request] }

namespace WorkerClient

variable (client : WorkerClient)

/-- The read-only probe. -/
def probePhase : PhaseM ProbeResponse := do
  let requestId ← newUuid
  let header := client.header .probe .probe requestId.text none
  match ← exchange id with
  | .probe response => do
    orFatal (ofExcept (validateResponseHeader header response.header none))
    if response.deploymentId ≠ client.binding.deploymentId ∨
        response.workerOwnerId ≠ client.binding.workerOwnerId ∨
        response.workerProfileDigest ≠ client.binding.workerProfileDigest ∨
        response.releaseDigest ≠ client.binding.releaseDigest ∨
        response.configDigest ≠ client.binding.configDigest then
      fatalConflict "worker probe binding differs from the configured worker"
    else return response
  | _ => fatalConflict "worker probe returned a different response command"

/-- Send a control update to the current worker boot; no durable row is written here. -/
def setControlModePhase (workerBootId : String) (scope : ControlScope) :
    PhaseM SetControlModeResponse := do
  orFatal (ofExcept (validateClientUuid4 workerBootId "worker boot id"))
  orFatal (ofExcept (validateControlScope scope))
  if scope.deploymentId ≠ client.binding.deploymentId ∨
      scope.workerOwnerId ≠ client.binding.workerOwnerId ∨
      scope.workerProfileDigest ≠ client.binding.workerProfileDigest then
    fatalConflict "worker control scope differs from the configured worker"
  else do
    let requestId ← newUuid
    let header := client.header .setControlMode .control requestId.text (some workerBootId)
    let request : ControlRequest :=
      ⟨workerBootId, storageWorkerMode scope.mode, scope.modeSequence⟩
    match ← exchange request.record with
    | .setControlMode response => do
      orFatal (ofExcept (validateResponseHeader header response.header (some workerBootId)))
      if response.scope ≠ scope then
        fatalConflict "worker control response scope does not match the request"
      else return response
    | _ => fatalConflict "worker control returned a different response command"

/-- Send one dispatch, after its marker has been committed. -/
def dispatchPhase (handoff : WorkerHandoff) : PhaseM DispatchResponse := do
  orFatal (ofExcept (validateHandoffForClient client handoff))
  let requestId ← newUuid
  let request := client.dispatchRequest handoff requestId.text
  match ← exchange id with
  | .dispatch response => do
    orFatal (ofExcept
      (validateResponseHeader request.header response.header (some handoff.row.workerBootId)))
    if response.tuple ≠ request.tuple then
      fatalConflict "worker dispatch response tuple does not match the request"
    else return response
  | _ => fatalConflict "worker dispatch returned a different response command"

/-- Read-only lookup of a handoff at the current worker boot. -/
def lookupPhase (tuple : WorkerHandoffTuple) (workerBootId : String) : PhaseM LookupResponse := do
  orFatal (ofExcept (validateStorageTuple tuple))
  orFatal (ofExcept (validateTupleForClient client tuple))
  orFatal (ofExcept (validateClientUuid4 workerBootId "worker boot id"))
  if workerBootId = client.watchdogBootId then
    fail (.fatal (.identityMismatch
      "worker lookup target cannot reuse the watchdog boot identity"))
  else do
    let requestId ← newUuid
    let header := client.header .lookup .lookup requestId.text (some workerBootId)
    match ← exchange id with
    | .lookup response => do
      orFatal (ofExcept (validateResponseHeader header response.header (some workerBootId)))
      if response.tuple ≠ tuple then
        fatalConflict "worker lookup response tuple does not match the request"
      else return response
    | _ => fatalConflict "worker lookup returned a different response command"

/-- Acknowledge a durable receipt at the current worker boot. -/
def acknowledgePhase (tuple : WorkerHandoffTuple) (workerBootId terminalDigest : String) :
    PhaseM AcknowledgeResponse := do
  orFatal (ofExcept (validateStorageTuple tuple))
  orFatal (ofExcept (validateClientUuid4 workerBootId "worker boot id"))
  orFatal (ofExcept (validateTupleForClient client tuple))
  if workerBootId = client.watchdogBootId then
    fail (.fatal (.identityMismatch
      "worker acknowledgment target cannot reuse the watchdog boot identity"))
  else do
    orFatal (ofExcept ((validateDigest terminalDigest).mapError fun message =>
      .invalidInput s!"terminal digest is invalid: {message}"))
    let requestId ← newUuid
    let header := client.header .acknowledge .acknowledge requestId.text (some workerBootId)
    match ← exchange id with
    | .acknowledge response => do
      orFatal (ofExcept (validateResponseHeader header response.header (some workerBootId)))
      if response.tuple ≠ tuple then
        fatalConflict "worker acknowledgment response tuple does not match the request"
      else return response
    | _ => fatalConflict "worker acknowledgment returned a different response command"

end WorkerClient

end AscensionWatchdog
