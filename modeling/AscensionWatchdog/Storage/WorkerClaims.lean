import AscensionWatchdog.Storage.WorkerQueries

/-!
# Worker binding, control and handoff claims

The binding of the worker is written once. The control row is replaced only by a control with a
**larger mode sequence**; repeating the recorded control changes nothing. A claim allocates, in
one transaction, the attempt and the `prepared` handoff of the oldest eligible episode, under a
witness that must equal the configured binding and the acknowledged running control.

Like `claimNextJob`, a handoff claim finds nothing while an attempt is `running` or `unknown`; it
also finds nothing while any handoff is unresolved.
-/

namespace AscensionWatchdog

open Foundation Foundation.Json

/-! ### Binding and control -/

variable (s : Store) (witness : WorkerClaimWitness) (control : WorkerControlWitness) (nowMs : Nat)

def configureWorkerBindingTx (binding : WorkerBinding) (nowMs : Nat) :
    Result (WorkerBinding × Store) := do
  validateBinding s binding
  let existing ← s.workerBinding.mapM bindingFromRow
  match existing with
  | some existing =>
    ensure (existing = binding)
      (.conflict "worker binding is immutable; explicit owner migration is required")
    return (binding, s)
  | none =>
    let _ ← sqliteTimestamp nowMs
    let s := { s with workerBinding := some binding }
    let s ← insertAuditTx s "worker_binding_configured" binding.workerOwnerId nowMs
    return (binding, s)

/-- Configure the immutable worker binding used by every future claim. -/
def Store.configureWorkerBindingAt (binding : WorkerBinding) (nowMs : Nat) :
    Result WorkerBinding × Store :=
  commit s (configureWorkerBindingTx s binding nowMs)

def ensurePhaseTimeAtLeast (nowMs previous : Nat) (field : String) : Result Unit :=
  ensure (previous ≤ nowMs) (.conflict s!"{field} timestamp moves backwards")

/-- Replace the control row. -/
def upsertWorkerControlTx : Result (WorkerControlWitness × Store) := do
  let modeSequence ← sqliteTimestamp control.modeSequence
  let now ← sqliteTimestamp nowMs
  let s := { s with workerControl := some ({ control with modeSequence }, now) }
  let s ← insertAuditTx s "worker_control_mode_set"
    s!"{control.mode.asStr}:{control.modeSequence}" nowMs
  return (control, s)

def setWorkerControlTx : Result (WorkerControlWitness × Store) := do
  validateControl control
  let binding? ← bindingFromTx s
  let binding ← orError binding? (.conflict "worker binding is not configured")
  validateControlAgainstBinding control binding
  match s.workerControl with
  | none => upsertWorkerControlTx s control nowMs
  | some (row, previousUpdatedAt) =>
    let existing ← controlFromRow row
    ensurePhaseTimeAtLeast nowMs previousUpdatedAt "worker control"
    ensure (existing.modeSequence ≤ control.modeSequence)
      (.conflict "worker control sequence is older than the durable sequence")
    if control.modeSequence = existing.modeSequence then
      ensure (control = existing)
        (.conflict "worker control reuses a sequence with a different scope")
      return (control, s)
    upsertWorkerControlTx s control nowMs

/-- Commit an authenticated control witness. -/
def Store.setWorkerControlAt : Result WorkerControlWitness × Store :=
  commit s (setWorkerControlTx s control nowMs)

/-- The acknowledged control, in any mode: recovery evidence, not permission to claim. -/
def Store.currentWorkerControl : Result (Option WorkerControlWitness) := do
  match ← controlFromTx s with
  | none => return none
  | some control =>
    let binding? ← bindingFromTx s
    let binding ← orError binding? (.conflict "worker control has no configured binding")
    validateControlAgainstBinding control binding
    return some control

/-- The admissible claim witness: `none` unless the control and the desired mode are running. -/
def Store.currentWorkerClaimWitness : Result (Option WorkerClaimWitness) := do
  match ← bindingFromTx s with
  | none => return none
  | some binding =>
    match ← controlFromTx s with
    | none => return none
    | some control =>
      validateControlAgainstBinding control binding
      if control.mode ≠ .running then
        return none
      let desired ← s.desiredMode
      if desired ≠ .running then
        return none
      return some
        { deploymentId := binding.deploymentId
          workerOwnerId := binding.workerOwnerId
          workerProfileDigest := binding.workerProfileDigest
          releaseDigest := binding.releaseDigest
          configDigest := binding.configDigest
          schemaDigest := binding.schemaDigest
          watchdogBootId := control.watchdogBootId
          workerBootId := control.workerBootId
          modeSequence := control.modeSequence }

/-! ### Claim -/

/-- States of a handoff whose episode may still run. -/
def WorkerHandoffState.unresolved : WorkerHandoffState → Bool
  | .prepared => true
  | .mayHaveBeenDispatched => true
  | .admitted => true
  | _ => false

def unresolvedHandoffExists : Bool :=
  s.handoffs.any (·.state.unresolved)

/-- The generated identities of a handoff: five distinct UUIDs. -/
structure HandoffIds where
  handoffId : UuidV4
  attemptId : UuidV4
  runId : UuidV4
  episodeId : UuidV4
  trajectoryId : UuidV4
  distinct : [handoffId.text, attemptId.text, runId.text, episodeId.text,
    trajectoryId.text].Nodup
  deriving DecidableEq, Repr

/-- Insert a handoff under the constraints of the table. -/
def insertHandoffRow (row : HandoffRow) : Result Store := do
  ensure (¬ s.handoffs.any (·.handoffId == row.handoffId))
    (.sqlite "UNIQUE constraint failed: worker_handoffs.handoff_id")
  ensure (¬ s.handoffs.any (·.attemptId == row.attemptId))
    (.sqlite "UNIQUE constraint failed: worker_handoffs.attempt_id")
  ensure (¬ s.handoffs.any (·.episodeId == row.episodeId))
    (.sqlite "UNIQUE constraint failed: worker_handoffs.episode_id")
  ensure (¬ s.handoffs.any (·.runId == row.runId))
    (.sqlite "UNIQUE constraint failed: worker_handoffs.run_id")
  ensure (¬ s.handoffs.any (·.trajectoryId == row.trajectoryId))
    (.sqlite "UNIQUE constraint failed: worker_handoffs.trajectory_id")
  ensure (s.jobs.any (·.id == row.jobId)) (.sqlite "FOREIGN KEY constraint failed")
  ensure (s.attempts.any (·.id == row.attemptId)) (.sqlite "FOREIGN KEY constraint failed")
  return { s with handoffs := s.handoffs ++ [row] }

theorem insertHandoffRow_eq_ok {s s' : Store} {row : HandoffRow}
    (h : insertHandoffRow s row = .ok s') :
    (∀ h ∈ s.handoffs, h.handoffId ≠ row.handoffId) ∧ (∃ j ∈ s.jobs, j.id = row.jobId) ∧
      s' = { s with handoffs := s.handoffs ++ [row] } := by
  simp only [insertHandoffRow, ensure_bind_eq_ok, pure_eq_ok] at h
  obtain ⟨hfresh, -, -, -, -, hjob, -, rfl⟩ := h
  exact ⟨by simpa using hfresh, by simpa using hjob, rfl⟩

/-- The columns of a job that a handoff claim writes. -/
def JobRow.claimHandoff (j : JobRow) (now : Nat) (workerId : String) (attemptNumber : Nat) :
    JobRow :=
  { j.claim now workerId attemptNumber with nextRetryAtMs := none }

/-- A job is due at `now`. -/
def JobRow.due (j : JobRow) (now : Nat) : Bool :=
  j.nextRetryAtMs.any (· ≤ now)

/-- The handoff that a claim inserts. -/
def preparedHandoff (ids : HandoffIds) (job : JobRow) (payload : Value)
    (attemptNumber modeSequence now : Nat) : HandoffRow where
  handoffId := ids.handoffId.text
  deploymentId := witness.deploymentId
  jobId := job.id
  attemptId := ids.attemptId.text
  attemptNumber := attemptNumber
  workerOwnerId := witness.workerOwnerId
  workerProfileDigest := witness.workerProfileDigest
  runId := ids.runId.text
  episodeId := ids.episodeId.text
  trajectoryId := ids.trajectoryId.text
  payloadDigest := job.payloadDigest
  watchdogBootId := witness.watchdogBootId
  workerBootId := witness.workerBootId
  modeSequence := modeSequence
  operation := workerHandoffOperation
  parameters := payload.render
  state := .prepared
  terminalStatus := none
  checkpointSequence := none
  terminalRef := none
  resultDigest := none
  terminalDigest := none
  terminalResult := none
  ackIntent := false
  createdAtMs := now
  updatedAtMs := now
  dispatchedAtMs := none
  admittedAtMs := none
  terminalAtMs := none
  acknowledgedAtMs := none

/-- Write the claim of `job`: the job, its new attempt and its handoff. -/
def prepareHandoffTx (ids : HandoffIds) (job : JobRow) (payload : Value)
    (attemptNumber now nowMs : Nat) : Result (Option String × Store) := do
  let claimed := fun j : JobRow => j.id == job.id && j.status == .queued &&
    j.createdAtMs ≤ now && j.due now
  if s.jobs.countP claimed ≠ 1 then
    return (none, s)
  let s := { s with
    jobs := updateWhere claimed (·.claimHandoff now witness.workerOwnerId attemptNumber) s.jobs }
  let s ← insertAttemptRow s
    (claimedAttempt ids.attemptId.text job.id attemptNumber now witness.workerOwnerId)
  let modeSequence ← sqliteTimestamp witness.modeSequence
  let s ← insertHandoffRow s
    (preparedHandoff witness ids job payload attemptNumber modeSequence now)
  let s ← insertAuditTx s "worker_handoff_prepared"
    s!"{job.id}:{ids.attemptId.text}:{ids.handoffId.text}" nowMs
  return (some ids.handoffId.text, s)

/-- The queued episodes that are due. -/
def eligibleEpisodes (now : Nat) : List JobRow :=
  s.jobs.filter fun j => j.status == .queued && j.due now &&
    j.kind == workerHandoffOperation && j.payloadDigest == workerHandoffPayloadDigest

def claimNextWorkerHandoffTx (crates : Crates) (s : Store) (witness : WorkerClaimWitness)
    (nowMs : Nat) (ids : HandoffIds) : Result (Option String × Store) := do
  validateClaimWitness witness
  let readLimit ← payloadReadLimit s
  validateClaimWitnessTx s witness
  if s.attempts.any (·.status.unresolved) || unresolvedHandoffExists s then
    return (none, s)
  let now ← sqliteTimestamp nowMs
  match leastBy JobRow.claimedBefore (eligibleEpisodes s now) with
  | none => return (none, s)
  | some job =>
    ensure (job.id.utf8ByteSize ≤ 128) (.sqlite "Invalid column type Null at index: 0")
    validateName job.id "job id" 128
    let payload ← validateClaimPayload crates (substr job.payload readLimit) job.payloadDigest
      s.maxPayloadBytes
    if payload ≠ emptyParameters then
      return (none, s)
    if nowMs < job.createdAtMs then
      return (none, s)
    let attemptNumber ← nextAttemptNumber job.attemptCount
    prepareHandoffTx s witness ids job payload attemptNumber now nowMs

/-- Atomically claim the next eligible episode and persist its `prepared` handoff. -/
def Store.claimNextWorkerHandoff (crates : Crates) (s : Store) (witness : WorkerClaimWitness)
    (nowMs : Nat) (ids : HandoffIds) : Result (Option WorkerHandoff) × Store :=
  commitThen s (claimNextWorkerHandoffTx crates s witness nowMs ids) fun claimed s' =>
    match claimed with
    | none => return none
    | some handoffId => do
      let handoff? ← s'.workerHandoff crates handoffId
      let handoff ← orError handoff? (.conflict "worker handoff disappeared after commit")
      return some handoff

end AscensionWatchdog
