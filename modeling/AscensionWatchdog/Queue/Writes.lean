import AscensionWatchdog.Queue.Frames
import AscensionWatchdog.Queue.Loading

/-!
# What an operation may write for a job

The life of a job is a state machine on its view. `Writes crates bound op v w` says that the
operation `op` may write `w` for a job with view `v`: one constructor for each way in which the
store changes the rows of a job, with **everything that the routine has checked** about these
rows as its hypotheses. The writes themselves are named definitions.

`QueueStep` puts the machines of all jobs together: a committed transaction leaves the queue
alone, or writes for exactly one job, or is a restore, which writes the same for every job and
reopens the tables under another bound.
-/

namespace AscensionWatchdog

open Foundation Foundation.Json

/-! ### The writes -/

def submitWrite (row : JobRow) : JobWrite where
  newJob := some row

def claimWrite (j : JobRow) (workerId attemptId : String) (now : Nat) : JobWrite where
  jobSel r := r.id == j.id && r.status == .queued
  job := (·.claim now workerId (j.attemptCount + 1))
  newAttempt := some (claimedAttempt attemptId j.id (j.attemptCount + 1) now workerId)

def claimHandoffWrite (j : JobRow) (witness : WorkerClaimWitness) (ids : HandoffIds)
    (now : Nat) : JobWrite where
  jobSel r := r.id == j.id && r.status == .queued && r.createdAtMs ≤ now && r.due now
  job := (·.claimHandoff now witness.workerOwnerId (j.attemptCount + 1))
  newAttempt := some
    (claimedAttempt ids.attemptId.text j.id (j.attemptCount + 1) now witness.workerOwnerId)
  newHandoff := some
    (preparedHandoff witness ids j emptyParameters (j.attemptCount + 1) witness.modeSequence now)

def completeWrite (crates : Crates) (jobId attemptId : String) (result : Value) (now : Nat) :
    JobWrite where
  jobSel r := r.id == jobId && r.status == .running
  job := (·.complete now result.render (hexDigest crates result.render))
  attemptSel a := a.id == attemptId && a.jobId == jobId && a.status == .running
  attempt := (·.finish .completed now result.render)

def failWrite (jobId attemptId error : String) (retryAt : Option Nat) (now : Nat) :
    JobWrite where
  jobSel r := r.id == jobId && r.status == .running
  job := (·.fail (failureTarget retryAt) retryAt error)
  attemptSel a := a.id == attemptId && a.status == .running
  attempt := (·.finish .failed now error)

def interruptWrite (jobId : String) (now : Nat) : JobWrite where
  jobSel r := r.id == jobId && r.status == .running
  job := JobRow.interrupt
  attemptSel a := a.jobId == jobId && a.status == .running
  attempt := (·.finish .unknown now "daemon_interrupted")

def dispatchWrite (handoffId : String) (now : Nat) : JobWrite where
  handoffSel h := h.handoffId == handoffId && h.state == .prepared
  handoff := (·.markDispatched now)

def admitWrite (handoffId : String) (now : Nat) : JobWrite where
  handoffSel h := h.handoffId == handoffId && h.state == .mayHaveBeenDispatched
  handoff := (·.markAdmitted now)

theorem JobRow.terminate_id (j : JobRow) (receipt : WorkerTerminalReceipt) (now : Nat)
    (result digest : String) : (j.terminate receipt now result digest).id = j.id := by
  unfold JobRow.terminate
  cases receipt.status <;> rfl

def terminateWrite (crates : Crates) (tuple : WorkerHandoffTuple)
    (receipt : WorkerTerminalReceipt) (j : JobRow) (a : AttemptRow) (now : Nat)
    (resultText resultDigest : String) : JobWrite where
  jobSel r := r.id == tuple.jobId && r.status == j.status
  job := (·.terminate receipt now resultText resultDigest)
  attemptSel r := r.id == tuple.attemptId && r.jobId == tuple.jobId && r.status == a.status
  attempt := (·.finish receipt.status.attemptStatus now receipt.status.outcome)
  handoffSel h := h.handoffId == tuple.handoffId &&
    (h.state == .mayHaveBeenDispatched || h.state == .admitted)
  handoff := (·.terminate receipt receipt.checkpointSequence now resultText
    (terminalDigest crates tuple receipt))
  job_id j := j.terminate_id receipt now resultText resultDigest

def acknowledgeWrite (handoffId : String) (now : Nat) : JobWrite where
  handoffSel h := h.handoffId == handoffId && (h.state == .completed || h.state == .failed) &&
    h.ackIntent
  handoff := (·.markAcknowledged now)

/-- An attempt is rewritten only when it was running. -/
def quarantineWrite (a : AttemptRow) (reason : String) (now : Nat) : JobWrite where
  jobSel r := r.id == a.jobId && (r.status == .running || r.status == .failed)
  job := (·.quarantine reason)
  attemptSel r := a.status == .running && (r.id == a.id && r.status == .running)
  attempt := (·.finish .unknown now s!"operator_quarantine:{reason}")

def retryWrite (a : AttemptRow) (now : Nat) : JobWrite where
  jobSel r := r.id == a.jobId && (r.status == .failed || r.status == .quarantined)
  job := (·.requeue now)

def restoreWrite (now : Nat) : JobWrite where
  jobSel := JobRow.restorable
  job := JobRow.restore
  attemptSel a := a.status == .running
  attempt := (·.finish .unknown now "restored_backup_outcome_unknown")

/-! ### The state machine of a job -/

/-- What a handoff claim has checked about the job it takes. -/
structure ClaimsEpisode (crates : Crates) (bound : Nat) (witness : WorkerClaimWitness)
    (now : Nat) (j : JobRow) : Prop where
  queued : j.status = .queued
  due : j.due now = true
  created : j.createdAtMs ≤ now
  counter : j.attemptCount + 1 < 2 ^ 32
  witness : validateClaimWitness witness = .ok ()
  kind : j.kind = workerHandoffOperation
  payloadDigest : j.payloadDigest = workerHandoffPayloadDigest
  id : isName j.id 128 = true
  boundRange : bound < 2 ^ 63
  payloadSize : j.payload.utf8ByteSize ≤ bound
  payloadHash : hexDigest crates j.payload = j.payloadDigest
  payload : crates.fromStr j.payload = some emptyParameters

/-- What a transition of a handoff has checked about the rows of its job. -/
structure LoadedRows (crates : Crates) (bound : Nat) (v : JobView) (tuple : WorkerHandoffTuple)
    (h : HandoffRow) (j : JobRow) (a : AttemptRow) : Prop where
  row : v.row = some j
  handoff : h ∈ v.handoffs
  attempt : a ∈ v.attempts
  jobId : j.id = h.jobId
  attemptId : a.id = h.attemptId
  tuple : h.tuple = tuple
  loads : RowsLoad crates bound h j a

/-- The attempt is the latest one of the view. -/
def JobView.Latest (v : JobView) (a : AttemptRow) : Prop :=
  a ∈ v.attempts ∧ (leastBy AttemptRow.laterThan v.attempts).map AttemptRow.id = some a.id

/-- The operations that submit a job. -/
def Op.submits : Op → Bool
  | .submitJobAt .. | .admitOperatorJobSubmission .. => true
  | _ => false

/-- `op` may write `w` for a job with the rows `v`. -/
inductive Writes (crates : Crates) (bound : Nat) : Op → JobView → JobWrite → Prop where
  | submit {op : Op} {v : JobView} {id kind encoded digest : String}
      (hop : op.submits = true) (hrow : v.row = none) :
      Writes crates bound op v (submitWrite (submittedJob id kind encoded digest op.nowMs))
  | claim {v : JobView} {j : JobRow} {workerId : String} {now : Nat} {attemptId : UuidV4}
      (hrow : v.row = some j) (hqueued : j.status = .queued)
      (hresolved : ∀ a ∈ v.attempts, a.status.unresolved = false) :
      Writes crates bound (.claimNextJob workerId now attemptId) v
        (claimWrite j workerId attemptId.text now)
  | claimHandoff {v : JobView} {j : JobRow} {witness : WorkerClaimWitness} {now : Nat}
      {ids : HandoffIds} (hrow : v.row = some j)
      (hepisode : ClaimsEpisode crates bound witness now j)
      (hresolved : ∀ a ∈ v.attempts, a.status.unresolved = false)
      (hsettled : ∀ h ∈ v.handoffs, h.state.unresolved = false) :
      Writes crates bound (.claimNextWorkerHandoff witness now ids) v
        (claimHandoffWrite j witness ids now)
  | complete {v : JobView} {j : JobRow} {a : AttemptRow} {result : Value} {now : Nat}
      (hrow : v.row = some j) (hrunning : j.status = .running)
      (ha : a ∈ v.attempts) (harunning : a.status = .running) :
      Writes crates bound (.completeJobAt j.id a.id result now) v
        (completeWrite crates j.id a.id result now)
  | fail {v : JobView} {j : JobRow} {a : AttemptRow} {error : String} {retryAt : Option Nat}
      {now : Nat} (hrow : v.row = some j) (hrunning : j.status = .running)
      (ha : a ∈ v.attempts) (harunning : a.status = .running) :
      Writes crates bound (.failJobAt j.id a.id error retryAt now) v
        (failWrite j.id a.id error retryAt now)
  | interrupt {v : JobView} {j : JobRow} {a : AttemptRow} {now : Nat} (hrow : v.row = some j)
      (hrunning : j.status = .running) (ha : a ∈ v.attempts) (harunning : a.status = .running) :
      Writes crates bound (.quarantineInterruptedJobs now) v (interruptWrite j.id now)
  | dispatch {v : JobView} {tuple : WorkerHandoffTuple} {h : HandoffRow} {j : JobRow}
      {a : AttemptRow} {now : Nat} (hloaded : LoadedRows crates bound v tuple h j a)
      (hstate : h.state = .prepared) (htime : h.updatedAtMs ≤ now ∧ h.createdAtMs ≤ now) :
      Writes crates bound (.markWorkerHandoffMayHaveBeenDispatchedAt tuple now) v
        (dispatchWrite tuple.handoffId now)
  | admission {v : JobView} {tuple : WorkerHandoffTuple} {h : HandoffRow} {j : JobRow}
      {a : AttemptRow} {now : Nat} (hloaded : LoadedRows crates bound v tuple h j a)
      (hstate : h.state = .mayHaveBeenDispatched)
      (htime : h.updatedAtMs ≤ now ∧ h.dispatchedAtMs.getD h.createdAtMs ≤ now) :
      Writes crates bound (.markWorkerHandoffAdmittedAt tuple now) v
        (admitWrite tuple.handoffId now)
  | terminate {v : JobView} {tuple : WorkerHandoffTuple} {receipt : WorkerTerminalReceipt}
      {authority : TerminalAuthority} {h : HandoffRow} {j : JobRow} {a : AttemptRow} {now : Nat}
      {resultText resultDigest : String} (hloaded : LoadedRows crates bound v tuple h j a)
      (hreceipt : validateTerminalReceipt receipt = .ok ())
      (hresult : compactTerminalResult crates receipt = .ok (resultText, resultDigest))
      (hstate : h.state = .mayHaveBeenDispatched ∨ h.state = .admitted)
      (hadmissible : terminallyAdmissible j.status a.status = true)
      (htime : h.updatedAtMs ≤ now ∧
        (h.admittedAtMs.or h.dispatchedAtMs).getD h.createdAtMs ≤ now) :
      Writes crates bound (.completeWorkerHandoffWithAuthorityAt tuple receipt authority now) v
        (terminateWrite crates tuple receipt j a now resultText resultDigest)
  | acknowledge {v : JobView} {tuple : WorkerHandoffTuple} {digest : String}
      {authority : TerminalAuthority} {h : HandoffRow} {j : JobRow} {a : AttemptRow} {now : Nat}
      (hloaded : LoadedRows crates bound v tuple h j a)
      (hstate : h.state = .completed ∨ h.state = .failed) (hintent : h.ackIntent = true)
      (htime : h.updatedAtMs ≤ now ∧
        (h.acknowledgedAtMs.or h.terminalAtMs).getD h.createdAtMs ≤ now) :
      Writes crates bound (.acknowledgeWorkerHandoffWithAuthorityAt tuple digest authority now) v
        (acknowledgeWrite tuple.handoffId now)
  | quarantine {v : JobView} {context : OperatorCommandContext} {reason : String}
      {response : Value} {j : JobRow} {a : AttemptRow} {now : Nat} (hrow : v.row = some j)
      (hlatest : v.Latest a) (hreason : isName reason maxQuarantineReasonBytes = true)
      (hcompleted : a.status ≠ .completed)
      (hstatus : j.status = .running ∨ j.status = .failed) :
      Writes crates bound (.admitOperatorQuarantine context a.id reason response now) v
        (quarantineWrite a reason now)
  | retry {v : JobView} {context : OperatorCommandContext} {reconstruction : Bool}
      {response : Value} {j : JobRow} {a : AttemptRow} {now : Nat} (hrow : v.row = some j)
      (hlatest : v.Latest a) (hfailed : a.status = .failed)
      (hstatus : j.status = .failed ∨ j.status = .quarantined)
      (hresult : j.completedAtMs = none ∧ j.result = none ∧ j.completionDigest = none)
      (hhandoffs : v.handoffs = []) :
      Writes crates bound (.admitOperatorRetry context a.id reconstruction response now) v
        (retryWrite a now)
  | restore {v : JobView} {config : RestoreConfig} {now : Nat} {epoch : UuidV4} :
      Writes crates bound (.restore config now epoch) v (restoreWrite now)

/-! ### Transactions of the queue -/

/-- What a committed transaction of `op` does to the queue. -/
inductive QueueStep (crates : Crates) (op : Op) (s s' : Store) : Prop where
  | same (hqueue : s'.queue = s.queue)
  | job (i : String) (w : JobWrite)
      (hwrites : Writes crates s.maxPayloadBytes op (s.queue.view i) w)
      (htargets : w.Targets s.queue i) (hfresh : w.Fresh s.queue)
      (hexclusive : w.newAttempt.isSome → ∀ a ∈ s.attempts, a.status.unresolved = false)
      (hqueue : s'.queue = s.queue.apply w)
  | restore (config : RestoreConfig) (now : Nat) (epoch : UuidV4)
      (hop : op = .restore config now epoch)
      (hqueue : s'.queue =
        { s.queue.apply (restoreWrite now) with maxPayloadBytes := s'.maxPayloadBytes })

section

variable {crates : Crates} {op : Op} {s s' : Store}

/-- A transaction without new rows that selects rows of one job only. -/
theorem QueueStep.rewrite (i : String) (w : JobWrite)
    (hwrites : Writes crates s.maxPayloadBytes op (s.queue.view i) w)
    (hnew : w.newJob = none ∧ w.newAttempt = none ∧ w.newHandoff = none)
    (hjob : ∀ j ∈ s.jobs, w.jobSel j = true → j.id = i)
    (hattempt : ∀ a ∈ s.attempts, w.attemptSel a = true → a.jobId = i)
    (hhandoff : ∀ h ∈ s.handoffs, w.handoffSel h = true → h.jobId = i)
    (hqueue : s'.queue = s.queue.apply w) : QueueStep crates op s s' := by
  obtain ⟨hnewJob, hnewAttempt, hnewHandoff⟩ := hnew
  refine .job i w hwrites ⟨⟨?_, ?_, ?_⟩, hjob, hattempt, hhandoff⟩ ⟨?_, ?_, ?_, ?_, ?_⟩ ?_ hqueue
  all_goals simp [hnewJob, hnewAttempt, hnewHandoff]

/-- What happens outside of the queue does not matter. -/
theorem QueueStep.congr {s'' : Store} (h : QueueStep crates op s s')
    (hqueue : s''.queue = s'.queue) : QueueStep crates op s s'' := by
  cases h with
  | same h => exact .same (hqueue.trans h)
  | job i w hwrites htargets hfresh hexclusive h =>
    exact .job i w hwrites htargets hfresh hexclusive (hqueue.trans h)
  | restore config now epoch hop h =>
    have hbound : s''.maxPayloadBytes = s'.maxPayloadBytes :=
      congrArg Queue.maxPayloadBytes hqueue
    exact .restore config now epoch hop (by rw [hqueue, h, hbound])

theorem QueueStep.keyed (h : QueueStep crates op s s') (hs : s.queue.Keyed) : s'.queue.Keyed := by
  cases h with
  | same hqueue => rwa [hqueue]
  | job i w _ _ hfresh _ hqueue =>
    rw [hqueue]
    exact hs.apply hfresh
  | restore config now epoch _ hqueue =>
    rw [hqueue]
    have hkeyed : (s.queue.apply (restoreWrite now)).Keyed :=
      hs.apply (by constructor <;> simp [restoreWrite])
    exact ⟨hkeyed.jobIds, hkeyed.attemptIds, hkeyed.handoffIds, hkeyed.attemptJob,
      hkeyed.handoffJob⟩

/-- A transaction leaves the view of a job alone or moves it by its state machine. -/
theorem QueueStep.view (h : QueueStep crates op s s') (k : String) :
    s'.queue.view k = s.queue.view k ∨
      ∃ w, Writes crates s.maxPayloadBytes op (s.queue.view k) w ∧
        s'.queue.view k = (s.queue.view k).apply w := by
  cases h with
  | same hqueue => exact .inl (by rw [hqueue])
  | job i w hwrites htargets _ _ hqueue =>
    rw [hqueue]
    by_cases hk : k = i
    · subst hk
      exact .inr ⟨w, hwrites, view_apply htargets.inserts⟩
    · exact .inl (view_apply_of_ne htargets hk)
  | restore config now epoch hop hqueue =>
    refine .inr ⟨restoreWrite now, hop ▸ .restore, ?_⟩
    have hview : (s.queue.apply (restoreWrite now)).view k = _ :=
      view_apply (by constructor <;> simp [restoreWrite])
    rw [hqueue, ← hview]
    rfl

/-- Only a restore changes the bound under which payloads are read. -/
theorem QueueStep.maxPayloadBytes (h : QueueStep crates op s s')
    (hop : ∀ config now epoch, op ≠ .restore config now epoch) :
    s'.maxPayloadBytes = s.maxPayloadBytes := by
  cases h with
  | same hqueue => exact congrArg Queue.maxPayloadBytes hqueue
  | job i w _ _ _ _ hqueue => exact congrArg Queue.maxPayloadBytes hqueue
  | restore config now epoch heq => exact absurd heq (hop config now epoch)

end

end AscensionWatchdog
