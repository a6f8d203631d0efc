import AscensionWatchdog.Storage.Operations

/-!
# Store operations that are not about processes

The supervisor keeps its processes in two tables, the component rows and the launch intents, and the
worker's control in one row. Together they are the `standing` of a store. Each of the operations in
this file leaves it alone, or writes the control row only.
-/

namespace AscensionWatchdog

open Foundation Foundation.Json

/-- The tables of the process lifecycle, and the control row of the worker. -/
def Store.standing (s : Store) :
    List ComponentRow × List LaunchIntentRow × Option (WorkerControlWitness × Nat) :=
  (s.components, s.launchIntents, s.workerControl)

/-- A routine that leaves the standing of the store alone. -/
abbrev Stands {α : Type} (s : Store) (x : Result (α × Store)) : Prop :=
  Yields (fun r => r.2.standing = s.standing) x

/-- The same for a part of a routine, which returns the store only. -/
abbrev StandsAs (s : Store) (x : Result Store) : Prop :=
  Yields (fun s' => s'.standing = s.standing) x

section

variable {s s₀ : Store} {nowMs : Nat}

theorem StandsAs.trans {x : Result Store} (h : s.standing = s₀.standing) (hx : StandsAs s x) :
    StandsAs s₀ x :=
  fun s' hs' => (hx s' hs').trans h

/-! ### Parts of the routines -/

theorem insertAuditTx_standing {action detail : String} :
    StandsAs s (insertAuditTx s action detail nowMs) := by
  intro s' h
  obtain ⟨-, -, -, -, rfl⟩ := insertAuditTx_eq_ok.mp h
  rfl

/-- A routine that ends with an audit record. -/
theorem stands_audited {α : Type} {action detail : String} {a : α}
    (h : s.standing = s₀.standing) :
    Stands s₀ (do
      let s ← insertAuditTx s action detail nowMs
      return (a, s)) :=
  .bind insertAuditTx_standing fun _ hs => .pure (hs.trans h)

theorem updateMetadataTx_standing {key : MetadataKey} {value : String} :
    StandsAs s (updateMetadataTx s key value) := by
  unfold updateMetadataTx
  exact .check fun _ => .pure rfl

theorem updateHandoffsTx_standing {selected : HandoffRow → Bool} {f : HandoffRow → HandoffRow}
    {message : String} : StandsAs s (updateHandoffsTx s selected f message) := by
  unfold updateHandoffsTx
  exact .check fun _ => .pure rfl

theorem updateJobsTx_standing {selected : JobRow → Bool} {f : JobRow → JobRow}
    {message : String} : StandsAs s (updateJobsTx s selected f message) := by
  unfold updateJobsTx
  exact .check fun _ => .pure rfl

theorem updateAttemptsTx_standing {selected : AttemptRow → Bool} {f : AttemptRow → AttemptRow}
    {message : String} : StandsAs s (updateAttemptsTx s selected f message) := by
  unfold updateAttemptsTx
  exact .check fun _ => .pure rfl

theorem insertAttemptRow_standing {row : AttemptRow} : StandsAs s (insertAttemptRow s row) := by
  unfold insertAttemptRow
  exact .check fun _ => .check fun _ => .check fun _ => .pure rfl

theorem insertHandoffRow_standing {row : HandoffRow} : StandsAs s (insertHandoffRow s row) := by
  unfold insertHandoffRow
  repeat refine .check fun _ => ?_
  exact .pure rfl

/-! ### Metadata -/

@[simp]
theorem setDesiredModeAt_standing (mode : DesiredMode) :
    (s.setDesiredModeAt mode nowMs).2.standing = s.standing := by
  refine commit_leaves (.bind (Q := fun s' => s'.standing = s.standing) ?_ fun _ h => .pure h)
  unfold setDesiredModeTx
  refine .bind updateMetadataTx_standing fun _ h₁ => ?_
  refine .bind updateMetadataTx_standing fun _ h₂ => ?_
  exact insertAuditTx_standing.trans (h₂.trans h₁)

@[simp]
theorem establishNewGeneration_standing :
    (s.establishNewGeneration nowMs).2.standing = s.standing := by
  refine commit_leaves (f := Store.standing) ?_
  unfold establishNewGenerationTx
  refine .check fun _ => .check fun _ => ?_
  refine .bind updateMetadataTx_standing fun _ h₁ => ?_
  refine .bind updateMetadataTx_standing fun _ h₂ => ?_
  exact stands_audited (h₂.trans h₁)

@[simp]
theorem auditEvent_standing (action detail : String) :
    (s.auditEvent action detail nowMs).2.standing = s.standing :=
  commit_leaves (.bind insertAuditTx_standing fun _ h => .pure h)

@[simp]
theorem recordReconciliationProgress_standing :
    (s.recordReconciliationProgress nowMs).2.standing = s.standing := by
  refine commit_leaves (.bind (Q := fun s' => s'.standing = s.standing) ?_ fun _ h => .pure h)
  unfold recordReconciliationProgressTx
  exact .check fun _ => .check fun _ => .check fun _ => .check fun _ => .check fun _ => .pure rfl

/-! ### Jobs and handoffs -/

theorem insertJobTx_standing {id kind encoded digest : String} {maxJobs : Nat} :
    StandsAs s (insertJobTx s id kind encoded digest maxJobs nowMs) := by
  intro s' h
  obtain ⟨-, -, rfl⟩ := insertJobTx_eq_ok h
  rfl

variable (crates : Crates) (tuple : WorkerHandoffTuple) (context : OperatorCommandContext)

@[simp]
theorem submitJobAt_standing (kind : String) (payload : Value) (id : UuidV4) :
    (s.submitJobAt crates kind payload nowMs id).2.standing = s.standing := by
  rw [Store.submitJobAt, commitThen_snd]
  refine commit_leaves (f := Store.standing) ?_
  unfold submitJobTx
  exact .check fun _ => .check fun _ => .bind insertJobTx_standing fun _ h => .pure h

private theorem claimJobTx_standing {job : JobRow} {payload : Value} {attemptId workerId : String}
    {attemptNumber now : Nat} :
    Stands s (claimJobTx s job payload attemptId workerId attemptNumber now nowMs) := by
  unfold claimJobTx
  dsimp only
  split
  · exact .pure rfl
  · exact .bind insertAttemptRow_standing fun _ h => stands_audited h

@[simp]
theorem claimNextJob_standing (workerId : String) (attemptId : UuidV4) :
    (s.claimNextJob crates workerId nowMs attemptId).2.standing = s.standing := by
  refine commit_leaves (f := Store.standing) ?_
  unfold claimNextJobTx
  refine .check fun _ => .check fun _ => .check fun _ => ?_
  split
  · exact .pure rfl
  split
  · exact .pure rfl
  refine .check fun _ => ?_
  split
  · exact .pure rfl
  exact .check fun _ => .check fun _ => .check fun _ => .check fun _ => claimJobTx_standing

@[simp]
theorem completeJobAt_standing (jobId attemptId : String) (result : Value) :
    (s.completeJobAt crates jobId attemptId result nowMs).2.standing = s.standing := by
  refine commit_leaves (f := Store.standing) ?_
  unfold completeJobTx
  refine .check fun _ => .check fun _ => ?_
  split
  · exact .check fun _ => .pure rfl
  refine .check fun _ => .check fun _ => .check fun _ => ?_
  refine .bind updateAttemptsTx_standing fun _ h₁ => ?_
  exact .bind updateJobsTx_standing fun _ h₂ => stands_audited (h₂.trans h₁)

@[simp]
theorem failJobAt_standing (jobId attemptId error : String) (retryAtMs : Option Nat) :
    (s.failJobAt jobId attemptId error retryAtMs nowMs).2.standing = s.standing := by
  refine commit_leaves (f := Store.standing) ?_
  unfold failJobTx
  iterate 5 refine .check fun _ => ?_
  refine .bind updateAttemptsTx_standing fun _ h₁ => .check fun _ => ?_
  exact .bind updateJobsTx_standing fun _ h₂ => stands_audited (h₂.trans h₁)

private theorem quarantineInterruptedJobTx_standing {jobId : String} :
    StandsAs s (quarantineInterruptedJobTx s jobId nowMs) := by
  unfold quarantineInterruptedJobTx
  refine .check fun _ => .bind updateAttemptsTx_standing fun _ h₁ => ?_
  refine .bind updateJobsTx_standing fun _ h₂ => ?_
  exact insertAuditTx_standing.trans (h₂.trans h₁)

private theorem quarantineInterruptedJobsTx_standing (ids : List String) :
    StandsAs s (quarantineInterruptedJobsTx s nowMs ids) := by
  induction ids generalizing s with
  | nil => exact Yields.pure rfl
  | cons id ids ih =>
    exact Yields.bind quarantineInterruptedJobTx_standing fun _ h => ih.trans h

@[simp]
theorem quarantineInterruptedJobs_standing :
    (s.quarantineInterruptedJobs nowMs).2.standing = s.standing :=
  commit_leaves (.bind (quarantineInterruptedJobsTx_standing _) fun _ h => .pure h)

@[simp]
theorem configureWorkerBindingAt_standing (binding : WorkerBinding) :
    (s.configureWorkerBindingAt binding nowMs).2.standing = s.standing := by
  refine commit_leaves (f := Store.standing) ?_
  unfold configureWorkerBindingTx
  refine .check fun _ => .check fun existing => ?_
  split
  · exact .check fun _ => .pure rfl
  · exact .check fun _ => stands_audited rfl

private theorem prepareHandoffTx_standing {witness : WorkerClaimWitness} {ids : HandoffIds}
    {job : JobRow} {payload : Value} {attemptNumber now : Nat} :
    Stands s (prepareHandoffTx s witness ids job payload attemptNumber now nowMs) := by
  unfold prepareHandoffTx
  dsimp only
  split
  · exact .pure rfl
  · refine .bind insertAttemptRow_standing fun _ h₁ => .check fun _ => ?_
    exact .bind insertHandoffRow_standing fun _ h₂ => stands_audited (h₂.trans h₁)

private theorem claimNextWorkerHandoffTx_standing {crates : Crates} {witness : WorkerClaimWitness}
    {ids : HandoffIds} : Stands s (claimNextWorkerHandoffTx crates s witness nowMs ids) := by
  unfold claimNextWorkerHandoffTx
  refine .check fun _ => .check fun _ => .check fun _ => ?_
  split
  · exact .pure rfl
  refine .check fun _ => ?_
  split
  · exact .pure rfl
  refine .check fun _ => .check fun _ => .check fun _ => ?_
  split
  · exact .pure rfl
  split
  · exact .pure rfl
  exact .check fun _ => prepareHandoffTx_standing

@[simp]
theorem claimNextWorkerHandoff_standing (witness : WorkerClaimWitness) (ids : HandoffIds) :
    (s.claimNextWorkerHandoff crates witness nowMs ids).2.standing = s.standing := by
  rw [Store.claimNextWorkerHandoff, commitThen_snd]
  exact commit_leaves claimNextWorkerHandoffTx_standing

@[simp]
theorem markWorkerHandoffMayHaveBeenDispatchedAt_standing :
    (s.markWorkerHandoffMayHaveBeenDispatchedAt crates tuple nowMs).2.standing = s.standing := by
  rw [Store.markWorkerHandoffMayHaveBeenDispatchedAt, commitThen_snd]
  refine commit_leaves (f := Store.standing) ?_
  unfold markDispatchedTx
  iterate 7 refine .check fun _ => ?_
  exact .bind updateHandoffsTx_standing fun _ h => stands_audited h

@[simp]
theorem markWorkerHandoffAdmittedAt_standing :
    (s.markWorkerHandoffAdmittedAt crates tuple nowMs).2.standing = s.standing := by
  rw [Store.markWorkerHandoffAdmittedAt, commitThen_snd]
  refine commit_leaves (f := Store.standing) ?_
  unfold markAdmittedTx
  iterate 4 refine .check fun _ => ?_
  split
  · exact .pure rfl
  refine .check fun _ => .check fun _ => .check fun _ => ?_
  exact .bind updateHandoffsTx_standing fun _ h => stands_audited h

private theorem commitTerminalTx_standing {crates : Crates} {tuple : WorkerHandoffTuple}
    {receipt : WorkerTerminalReceipt} {resultText resultDigest : String} :
    StandsAs s (commitTerminalTx crates s tuple receipt resultText resultDigest nowMs) := by
  unfold commitTerminalTx
  iterate 4 refine .check fun _ => ?_
  refine .bind updateAttemptsTx_standing fun _ h₁ => ?_
  refine .bind updateJobsTx_standing fun _ h₂ => .check fun _ => ?_
  refine .bind updateHandoffsTx_standing fun _ h₃ => ?_
  exact insertAuditTx_standing.trans (h₃.trans (h₂.trans h₁))

@[simp]
theorem completeWorkerHandoffWithAuthorityAt_standing (crates : Crates)
    (tuple : WorkerHandoffTuple) (receipt : WorkerTerminalReceipt)
    (authority : TerminalAuthority) :
    (s.completeWorkerHandoffWithAuthorityAt crates tuple receipt authority nowMs).2.standing =
      s.standing := by
  rw [Store.completeWorkerHandoffWithAuthorityAt, commitThen_snd]
  refine commit_leaves (f := Store.standing) ?_
  unfold completeWorkerHandoffTx
  iterate 6 refine .check fun _ => ?_
  split
  · exact .check fun _ => .check fun _ => .pure rfl
  refine .check fun _ => .check fun _ => .check fun _ => ?_
  exact .bind commitTerminalTx_standing fun _ h => .pure h

@[simp]
theorem acknowledgeWorkerHandoffWithAuthorityAt_standing (crates : Crates)
    (tuple : WorkerHandoffTuple) (digest : String) (authority : TerminalAuthority) :
    (s.acknowledgeWorkerHandoffWithAuthorityAt crates tuple digest authority nowMs).2.standing =
      s.standing := by
  refine commit_leaves (f := Store.standing) ?_
  unfold acknowledgeWorkerHandoffTx
  iterate 7 refine .check fun _ => ?_
  dsimp only
  split
  · exact .pure rfl
  iterate 4 refine .check fun _ => ?_
  exact .bind updateHandoffsTx_standing fun _ h => stands_audited h

/-! ### The operator ledger and the release selector -/

theorem recordOperatorCommandTx_standing {context : OperatorCommandContext}
    {command : OperatorCommand} {response : Value} {action suffix : String}
    (h : s.standing = s₀.standing) :
    Stands s₀ (recordOperatorCommandTx s context command response action suffix nowMs) := by
  rintro ⟨outcome, s'⟩ hrecord
  obtain ⟨-, -, -, -, detail, rfl⟩ := recordOperatorCommandTx_eq_ok hrecord
  exact h

private theorem applyDesiredModeTx_standing {mode : Option DesiredMode} :
    StandsAs s (applyDesiredModeTx s mode nowMs) := by
  cases mode with
  | none => exact Yields.pure rfl
  | some mode =>
    refine Yields.bind updateMetadataTx_standing fun _ h => ?_
    exact StandsAs.trans h updateMetadataTx_standing

@[simp]
theorem admitOperatorCommand_standing (command : OperatorCommand) (response : Value) :
    (s.admitOperatorCommand crates context command response nowMs).2.standing = s.standing := by
  refine commit_leaves (f := Store.standing) ?_
  unfold admitOperatorCommandTx
  refine .check fun _ => ?_
  split
  · exact .check fun _ => .pure rfl
  refine .check fun _ => .check fun found => ?_
  cases found with
  | some existing => exact .check fun _ => .pure rfl
  | none =>
    refine .check fun _ => .check fun _ => .check fun _ => ?_
    exact .bind applyDesiredModeTx_standing fun _ h => recordOperatorCommandTx_standing h

@[simp]
theorem admitOperatorJobSubmission_standing (crates : Crates) (context : OperatorCommandContext)
    (kind : String) (payload : Value) (jobId : UuidV4) :
    (s.admitOperatorJobSubmission crates context kind payload nowMs jobId).2.standing =
      s.standing := by
  refine commit_leaves (f := Store.standing) ?_
  unfold admitOperatorJobSubmissionTx
  iterate 4 refine .check fun _ => ?_
  refine .check fun found => ?_
  cases found with
  | some existing => exact .check fun _ => .check fun _ => .pure rfl
  | none =>
    refine .check fun _ => .check fun _ => .check fun _ => ?_
    exact .bind insertJobTx_standing fun _ h => recordOperatorCommandTx_standing h

private theorem abandonAttemptTx_standing {attempt : AttemptRow} {reason : String} {now : Nat} :
    StandsAs s (abandonAttemptTx s attempt reason now) := by
  unfold abandonAttemptTx
  split
  · exact updateAttemptsTx_standing
  · exact .pure rfl

private theorem quarantineAttemptTx_standing {attempt : AttemptRow} {reason : String} :
    StandsAs s (quarantineAttemptTx s attempt reason nowMs) := by
  unfold quarantineAttemptTx
  refine .check fun _ => .bind abandonAttemptTx_standing fun _ h₁ => ?_
  refine .bind updateJobsTx_standing fun _ h₂ => ?_
  exact insertAuditTx_standing.trans (h₂.trans h₁)

@[simp]
theorem admitOperatorQuarantine_standing (crates : Crates) (context : OperatorCommandContext)
    (attemptId reason : String) (response : Value) :
    (s.admitOperatorQuarantine crates context attemptId reason response nowMs).2.standing =
      s.standing := by
  refine commit_leaves (f := Store.standing) ?_
  unfold admitOperatorQuarantineTx
  iterate 4 refine .check fun _ => ?_
  refine .check fun found => ?_
  cases found with
  | some existing => exact .check fun _ => .pure rfl
  | none =>
    iterate 4 refine .check fun _ => ?_
    exact .bind quarantineAttemptTx_standing fun _ h => recordOperatorCommandTx_standing h

private theorem requeueAttemptTx_standing {attempt : AttemptRow} :
    StandsAs s (requeueAttemptTx s attempt nowMs) := by
  unfold requeueAttemptTx
  exact .check fun _ => .bind updateJobsTx_standing fun _ h => insertAuditTx_standing.trans h

@[simp]
theorem admitOperatorRetry_standing (crates : Crates) (context : OperatorCommandContext)
    (attemptId : String) (reconstruction : Bool) (response : Value) :
    (s.admitOperatorRetry crates context attemptId reconstruction response nowMs).2.standing =
      s.standing := by
  refine commit_leaves (f := Store.standing) ?_
  unfold admitOperatorRetryTx
  refine .check fun _ => .check fun _ => .check fun _ => .check fun found => ?_
  cases found with
  | some existing => exact .check fun _ => .pure rfl
  | none =>
    iterate 5 refine .check fun _ => ?_
    exact .bind requeueAttemptTx_standing fun _ h => recordOperatorCommandTx_standing h

@[simp]
theorem completeOperatorBackup_standing (receipt : OperatorCommandReceipt) (response : Value)
    (backupId : String) :
    (s.completeOperatorBackup crates receipt response backupId nowMs).2.standing = s.standing := by
  refine commit_leaves (f := Store.standing) ?_
  unfold completeOperatorBackupTx
  iterate 5 refine .check fun _ => ?_
  split
  · exact .pure rfl
  · exact stands_audited rfl

private theorem writeIdentity_standing {idKey digestKey : MetadataKey}
    (identity : Option ReleaseIdentity) :
    (writeIdentity s idKey digestKey identity).standing = s.standing := by
  cases identity <;> rfl

@[simp]
theorem prepareReleaseActivation_standing (crates : Crates)
    (requestId key releaseId digest : String) (rollback : Bool) :
    (s.prepareReleaseActivation crates requestId key releaseId digest rollback nowMs).2.standing =
      s.standing := by
  rw [Store.prepareReleaseActivation, commitThen_snd]
  refine commit_leaves (f := Store.standing) ?_
  unfold prepareReleaseActivationTx
  iterate 6 refine .check fun _ => ?_
  refine .check fun current => ?_
  split
  · exact .check fun _ => .pure rfl
  refine .check fun found => ?_
  cases found with
  | some existing => exact .error
  | none =>
    refine .check fun _ => .check fun _ => stands_audited ?_
    exact writeIdentity_standing _

@[simp]
theorem completeReleaseActivation_standing (crates : Crates) (context : OperatorCommandContext)
    (releaseId digest : String) (rollback : Bool) (response : Value) :
    (s.completeReleaseActivation crates context releaseId digest rollback response
      nowMs).2.standing = s.standing := by
  refine commit_leaves (f := Store.standing) ?_
  unfold completeReleaseActivationTx
  refine .check fun _ => .check fun _ => .check fun found => ?_
  cases found with
  | some existing => exact .check fun _ => .check fun _ => .pure rfl
  | none =>
    iterate 4 refine .check fun _ => ?_
    exact recordOperatorCommandTx_standing (writeIdentity_standing _)

/-! ### Frame bindings and restart events -/

@[simp]
theorem bindWorkerBootstrap_standing (intentId : String) (boot nonce : UuidV4)
    (componentId frame : String) :
    (s.bindWorkerBootstrap intentId boot nonce componentId frame nowMs).2.standing =
      s.standing := by
  refine commit_leaves (f := Store.standing) ?_
  unfold bindWorkerBootstrapTx
  refine .check fun _ => .check fun ⟨bindings, added⟩ => ?_
  dsimp only
  split
  · exact stands_audited rfl
  · exact .pure rfl

@[simp]
theorem bindGatewayHealth_standing (intentId : String) (boot nonce : UuidV4) (frame : String) :
    (s.bindGatewayHealth intentId boot nonce frame nowMs).2.standing = s.standing := by
  refine commit_leaves (f := Store.standing) ?_
  unfold bindGatewayHealthTx
  refine .check fun _ => .check fun ⟨bindings, added⟩ => ?_
  dsimp only
  split
  · exact stands_audited rfl
  · exact .pure rfl

@[simp]
theorem recordRestartWithElapsed_standing (componentId : String) (elapsedMs windowMs : Nat) :
    (s.recordRestartWithElapsed componentId nowMs elapsedMs windowMs).2.standing =
      s.standing := by
  rw [Store.recordRestartWithElapsed, commitThen_snd]
  refine commit_leaves (f := Store.standing) ?_
  unfold recordRestartTx
  iterate 4 refine .check fun _ => ?_
  exact .bind insertAuditTx_standing fun _ h => .pure h

/-! ### The control row -/

end

end AscensionWatchdog
