import AscensionWatchdog.Storage.WorkerClaims

/-!
# Transitions of a worker handoff

Each transition loads the handoff it is asked for, compares its tuple, checks the current control
as far as the transition needs it, and rewrites the row **under the state it expects**:

* `prepared → mayHaveBeenDispatched`, before the first byte is sent to the worker;
* `mayHaveBeenDispatched → admitted`;
* `mayHaveBeenDispatched | admitted → completed | failed`, together with the job and the attempt;
* `completed | failed → acknowledged`.

Completion and acknowledgment exist in two variants: under the original boots, or with a recovery
witness that equals the current control. Repeating a committed transition with identical evidence
answers without a change.
-/

namespace AscensionWatchdog

open Foundation Foundation.Json

/-- The phases of a handoff that a transition time is checked against. -/
inductive HandoffPhase where
  | dispatch
  | admission
  | terminal
  | acknowledgment
  deriving DecidableEq, Repr

def HandoffPhase.name : HandoffPhase → String
  | .dispatch => "dispatch"
  | .admission => "admission"
  | .terminal => "terminal"
  | .acknowledgment => "acknowledgment"

/-- The time of the phase before. -/
def HandoffPhase.priorAtMs (phase : HandoffPhase) (h : HandoffRow) : Nat :=
  match phase with
  | .dispatch => h.createdAtMs
  | .admission => h.dispatchedAtMs.getD h.createdAtMs
  | .terminal => (h.admittedAtMs.or h.dispatchedAtMs).getD h.createdAtMs
  | .acknowledgment => (h.acknowledgedAtMs.or h.terminalAtMs).getD h.createdAtMs

variable (h : HandoffRow) (crates : Crates) (s : Store) (tuple : WorkerHandoffTuple)
  (receipt : WorkerTerminalReceipt) (authority : TerminalAuthority)

def validateHandoffTransitionTime (nowMs : Nat) (phase : HandoffPhase) : Result Unit :=
  ensure (h.updatedAtMs ≤ nowMs ∧ phase.priorAtMs h ≤ nowMs)
    (.conflict s!"worker handoff {phase.name} timestamp moves backwards")

/-- Update handoffs, which must change exactly one row. -/
def updateHandoffsTx (selected : HandoffRow → Bool) (f : HandoffRow → HandoffRow)
    (message : String) : Result Store := do
  ensure (s.handoffs.countP selected = 1) (.conflict message)
  return { s with handoffs := updateWhere selected f s.handoffs }

theorem updateHandoffsTx_eq_ok {s s' : Store} {selected : HandoffRow → Bool}
    {f : HandoffRow → HandoffRow} {message : String} :
    updateHandoffsTx s selected f message = .ok s' ↔
      s.handoffs.countP selected = 1 ∧
        { s with handoffs := updateWhere selected f s.handoffs } = s' := by
  rw [updateHandoffsTx, ensure_bind_eq_ok, pure_eq_ok]

/-- Load a handoff that a transition has just committed or found unchanged. -/
def reloadHandoff (handoffId message : String) : Result WorkerHandoff := do
  let handoff? ← s.workerHandoff crates handoffId
  orError handoff? (.conflict message)

/-! ### Dispatch and admission -/

/-- The columns that the dispatch marker writes. -/
def HandoffRow.markDispatched (now : Nat) : HandoffRow :=
  { h with state := .mayHaveBeenDispatched, dispatchedAtMs := some now, updatedAtMs := now }

def markDispatchedTx (nowMs : Nat) : Result (Unit × Store) := do
  validateTuple tuple
  let current ← requireHandoffTx crates s tuple
  ensureTupleMatches current tuple
  ensure (current.row.state = .prepared)
    (.conflict "handoff is already marked; lookup is allowed and redispatch is forbidden")
  validateHandoffTransitionTime current.row nowMs .dispatch
  validateDispatchControlTx s current.row
  let now ← sqliteTimestamp nowMs
  let s ← updateHandoffsTx s (fun h => h.handoffId == tuple.handoffId && h.state == .prepared)
    (·.markDispatched now) "worker handoff dispatch marker was changed concurrently"
  let s ← insertAuditTx s "worker_handoff_may_have_been_dispatched" tuple.handoffId nowMs
  return ((), s)

/-- Record, before the first byte is sent, that the worker may have been given the handoff. -/
def Store.markWorkerHandoffMayHaveBeenDispatchedAt (nowMs : Nat) : Result WorkerHandoff × Store :=
  commitThen s (markDispatchedTx crates s tuple nowMs) fun _ s' =>
    reloadHandoff crates s' tuple.handoffId "worker handoff disappeared after dispatch marker"

/-- The columns that an admission writes. -/
def HandoffRow.markAdmitted (now : Nat) : HandoffRow :=
  { h with state := .admitted, admittedAtMs := some now, updatedAtMs := now }

/-- Record an admission, or find it recorded; the flag says which. -/
def markAdmittedTx (nowMs : Nat) : Result (Bool × Store) := do
  validateTuple tuple
  let current ← requireHandoffTx crates s tuple
  ensureTupleMatches current tuple
  validateCurrentWorkerIncarnationTx s current.row
  if current.row.state = .admitted then
    return (true, s)
  ensure (current.row.state = .mayHaveBeenDispatched)
    (.conflict "handoff is not awaiting worker admission")
  validateHandoffTransitionTime current.row nowMs .admission
  let now ← sqliteTimestamp nowMs
  let s ← updateHandoffsTx s
    (fun h => h.handoffId == tuple.handoffId && h.state == .mayHaveBeenDispatched)
    (·.markAdmitted now) "worker handoff admission was changed concurrently"
  let s ← insertAuditTx s "worker_handoff_admitted" tuple.handoffId nowMs
  return (false, s)

/-- Record that the worker admitted the dispatch. -/
def Store.markWorkerHandoffAdmittedAt (nowMs : Nat) : Result WorkerHandoff × Store :=
  commitThen s (markAdmittedTx crates s tuple nowMs) fun alreadyAdmitted s' =>
    reloadHandoff crates s' tuple.handoffId
      (if alreadyAdmitted then "worker handoff disappeared"
        else "worker handoff disappeared after admission")

/-! ### Terminal completion -/

/-- Under whose authority a completion or an acknowledgment is made: the boots of the claim, or
a recovery witness that must equal the current control. -/
inductive TerminalAuthority where
  | originalIncarnation
  | currentRecovery (recovery : WorkerControlWitness)
  deriving DecidableEq, Repr

/-- The check of a recovery witness, when the authority is one. -/
def TerminalAuthority.validateRecovery (s : Store) (h : HandoffRow) : Result Unit :=
  match authority with
  | .originalIncarnation => .ok ()
  | .currentRecovery recovery => validateCurrentWorkerRecoveryTx s h recovery

/-- The check of the boots of the claim, when the authority is theirs. -/
def TerminalAuthority.validateIncarnation (s : Store) (h : HandoffRow) : Result Unit :=
  match authority with
  | .originalIncarnation => validateCurrentWorkerIncarnationTx s h
  | .currentRecovery _ => .ok ()

def validateTerminalReceipt : Result Unit := do
  validateName receipt.terminalRef "terminal reference" maxTerminalRefBytes
  validateDigestValue receipt.resultDigest "result digest"
  ensure (receipt.checkpointSequence ≤ maxWorkerWireInteger)
    (.invalidInput "worker checkpoint sequence exceeds the wire integer bound")

def WorkerTerminalStatus.handoffState : WorkerTerminalStatus → WorkerHandoffState
  | .completed => .completed
  | .failed => .failed

def WorkerTerminalStatus.attemptStatus : WorkerTerminalStatus → AttemptStatus
  | .completed => .completed
  | .failed => .failed

def WorkerTerminalStatus.outcome : WorkerTerminalStatus → String
  | .completed => "worker_completed"
  | .failed => "worker_failed"

/-- The columns of a job that a failed episode writes. -/
def JobRow.failTerminal (j : JobRow) (result digest terminalRef : String) : JobRow :=
  { j with
    status := .failed
    result := some result
    completionDigest := some digest
    lastError := some terminalRef
    workerId := none }

/-- The columns of a job that the end of its episode writes. -/
def JobRow.terminate (j : JobRow) (receipt : WorkerTerminalReceipt) (now : Nat)
    (result digest : String) : JobRow :=
  match receipt.status with
  | .completed => j.complete now result digest
  | .failed => j.failTerminal result digest receipt.terminalRef

/-- The columns of a handoff that the end of its episode writes. -/
def HandoffRow.terminate (checkpointSequence now : Nat) (result digest : String) : HandoffRow :=
  { h with
    state := receipt.status.handoffState
    terminalStatus := some receipt.status
    checkpointSequence := some checkpointSequence
    terminalRef := some receipt.terminalRef
    resultDigest := some receipt.resultDigest
    terminalDigest := some digest
    terminalResult := some result
    ackIntent := true
    terminalAtMs := some now
    updatedAtMs := now }

/-- The job and attempt of a handoff that may end: running, or quarantined with its outcome
unknown. -/
def terminallyAdmissible (job : JobStatus) (attempt : AttemptStatus) : Bool :=
  (job == .running && attempt == .running) || (job == .quarantined && attempt == .unknown)

/-- Write the end of an episode: the attempt, the job and the handoff. -/
def commitTerminalTx (resultText resultDigest : String) (nowMs : Nat) : Result Store := do
  let job ← orError (lookup JobRow.id tuple.jobId s.jobs) (.notFound s!"job {tuple.jobId}")
  let attempt ← orError
    (s.attempts.find? fun a => a.id == tuple.attemptId && a.jobId == tuple.jobId)
    (.notFound s!"attempt {tuple.attemptId}")
  ensure (terminallyAdmissible job.status attempt.status)
    (.conflict s!"job/attempt history is not terminally admissible: job={job.status.asStr}, attempt={attempt.status.asStr}")
  let now ← sqliteTimestamp nowMs
  let s ← updateAttemptsTx s
    (fun a => a.id == tuple.attemptId && a.jobId == tuple.jobId && a.status == attempt.status)
    (·.finish receipt.status.attemptStatus now receipt.status.outcome)
    "worker attempt changed concurrently during completion"
  let s ← updateJobsTx s (fun j => j.id == tuple.jobId && j.status == job.status)
    (·.terminate receipt now resultText resultDigest)
    "worker job changed concurrently during completion"
  let checkpointSequence ← sqliteTimestamp receipt.checkpointSequence
  let s ← updateHandoffsTx s
    (fun h => h.handoffId == tuple.handoffId &&
      (h.state == .mayHaveBeenDispatched || h.state == .admitted))
    (·.terminate receipt checkpointSequence now resultText
      (terminalDigest crates tuple receipt))
    "worker handoff changed concurrently during completion"
  insertAuditTx s "worker_handoff_terminal_committed"
    s!"{tuple.handoffId}:{receipt.status.asStr}" nowMs

/-- Commit the end of an episode, or find it committed with the same evidence; the flag says
which. -/
def completeWorkerHandoffTx (nowMs : Nat) : Result (Bool × Store) := do
  validateTuple tuple
  validateTerminalReceipt receipt
  let (resultText, resultDigest) ← compactTerminalResult crates receipt
  let current ← requireHandoffTx crates s tuple
  ensureTupleMatches current tuple
  authority.validateRecovery s current.row
  if current.row.state.isTerminal then
    let existing ← orError current.terminal
      (.conflict "terminal handoff is missing its receipt")
    ensure (existing.terminalDigest = terminalDigest crates tuple receipt ∧
        existing.resultDigest = receipt.resultDigest)
      (.conflict "handoff already has a different terminal receipt")
    return (true, s)
  -- only an unresolved handoff needs the boots of its claim
  authority.validateIncarnation s current.row
  ensure (current.row.state = .mayHaveBeenDispatched ∨ current.row.state = .admitted)
    (.conflict "handoff was never authorized for worker execution")
  validateHandoffTransitionTime current.row nowMs .terminal
  let s ← commitTerminalTx crates s tuple receipt resultText resultDigest nowMs
  return (false, s)

/-- The answer to a terminal completion. -/
structure WorkerCompletion where
  handoff : WorkerHandoff
  terminalDigest : String
  alreadyCompleted : Bool
  deriving DecidableEq, Repr

/-- Commit the end of an episode under the given authority. -/
def Store.completeWorkerHandoffWithAuthorityAt (nowMs : Nat) : Result WorkerCompletion × Store :=
  commitThen s (completeWorkerHandoffTx crates s tuple receipt authority nowMs)
    fun alreadyCompleted s' => do
      let handoff ← reloadHandoff crates s' tuple.handoffId
        (if alreadyCompleted then "worker handoff disappeared"
          else "worker handoff disappeared after completion")
      return { handoff, terminalDigest := terminalDigest crates tuple receipt, alreadyCompleted }

/-! ### Acknowledgment -/

/-- The columns that an acknowledgment writes. -/
def HandoffRow.markAcknowledged (now : Nat) : HandoffRow :=
  { h with state := .acknowledged, acknowledgedAtMs := some now, updatedAtMs := now }

/-- The answer to an acknowledgment. -/
structure WorkerAcknowledgment where
  handoffId : String
  terminalDigest : String
  alreadyAcknowledged : Bool
  deriving DecidableEq, Repr

def acknowledgeWorkerHandoffTx (terminalDigestValue : String) (authority : TerminalAuthority)
    (nowMs : Nat) : Result (WorkerAcknowledgment × Store) := do
  validateTuple tuple
  validateDigestValue terminalDigestValue "terminal digest"
  let current ← requireHandoffTx crates s tuple
  ensureTupleMatches current tuple
  let record ← orError current.terminal
    (.conflict "handoff has no terminal acknowledgment intent")
  ensure (record.terminalDigest = terminalDigestValue)
    (.conflict "terminal acknowledgment digest does not match durable receipt")
  authority.validateRecovery s current.row
  let handoffId := tuple.handoffId
  if current.row.state = .acknowledged then
    return ({ handoffId, terminalDigest := terminalDigestValue, alreadyAcknowledged := true }, s)
  ensure ((current.row.state = .completed ∨ current.row.state = .failed) ∧
      current.row.ackIntent)
    (.conflict "handoff is not awaiting terminal acknowledgment")
  authority.validateIncarnation s current.row
  validateHandoffTransitionTime current.row nowMs .acknowledgment
  let now ← sqliteTimestamp nowMs
  let s ← updateHandoffsTx s
    (fun h => h.handoffId == tuple.handoffId &&
      (h.state == .completed || h.state == .failed) && h.ackIntent)
    (·.markAcknowledged now) "worker acknowledgment was changed concurrently"
  let s ← insertAuditTx s "worker_handoff_acknowledged" tuple.handoffId nowMs
  return ({ handoffId, terminalDigest := terminalDigestValue, alreadyAcknowledged := false }, s)

/-- Commit the acknowledgment of a terminal handoff under the given authority. -/
def Store.acknowledgeWorkerHandoffWithAuthorityAt (terminalDigestValue : String)
    (authority : TerminalAuthority) (nowMs : Nat) : Result WorkerAcknowledgment × Store :=
  commit s (acknowledgeWorkerHandoffTx crates s tuple terminalDigestValue authority nowMs)

end AscensionWatchdog
