import AscensionWatchdog.Queue.Refinement

/-!
# The ledger under all operations

`Op.admission` picks the five admissions among the operations and gives them one shape: a
context, a command, the response to record and the time. In that shape:

* `admission_cases` says what such a call does: it is refused or answered without a change, or it
  is accepted, and then `Accepts` holds;
* `perform_ledger` says what a step of any kind does to the ledger.

All other operations are `Quiet` for the ledger, the mode and the audit reserve
(`perform_quiet`), but for the four that have their own lemmas: the completion of a backup
rewrites one response, a direct mode change and a restore write the mode, and an audit record may
ask for the slot of an accepted stop.
-/

namespace AscensionWatchdog

open Foundation Foundation.Json

variable {crates : Crates} {s s' : Store} {op : Op}

theorem desiredMode_of_metadata {mode : DesiredMode}
    (h : s.metadata .desiredMode = some (modeAsStr mode)) : s.desiredMode = .ok mode :=
  bind_eq_ok.mpr ⟨modeAsStr mode, orError_eq_ok.mpr h, parseMode_modeAsStr mode⟩

/-! ### Admissions among the operations -/

/-- What the five admissions have in common. -/
structure Admission where
  context : OperatorCommandContext
  command : OperatorCommand
  response : Value
  nowMs : Nat

def Op.admission : Op → Option Admission
  | .admitOperatorCommand context command response now => some ⟨context, command, response, now⟩
  | .admitOperatorJobSubmission context _ _ now jobId =>
    some ⟨context, .jobSubmit, jobSubmittedResponse jobId.text, now⟩
  | .admitOperatorQuarantine context _ _ response now =>
    some ⟨context, .quarantine, response, now⟩
  | .admitOperatorRetry context _ _ response now => some ⟨context, .retry, response, now⟩
  | .completeReleaseActivation context _ _ _ response now =>
    some ⟨context, .releaseActivate, response, now⟩
  | _ => none

/-- The answer of an admission. -/
def Op.answer (crates : Crates) (s : Store) : Op → Option (Result OperatorCommandOutcome)
  | .admitOperatorCommand context command response now =>
    some (s.admitOperatorCommand crates context command response now).1
  | .admitOperatorJobSubmission context kind payload now jobId =>
    some (s.admitOperatorJobSubmission crates context kind payload now jobId).1
  | .admitOperatorQuarantine context attemptId reason response now =>
    some (s.admitOperatorQuarantine crates context attemptId reason response now).1
  | .admitOperatorRetry context attemptId reconstruction response now =>
    some (s.admitOperatorRetry crates context attemptId reconstruction response now).1
  | .completeReleaseActivation context releaseId digest rollback response now =>
    some (s.completeReleaseActivation crates context releaseId digest rollback response now).1
  | _ => none

/-- The receipt of an admission that this call makes. -/
def Op.accepts (crates : Crates) (s : Store) (op : Op) : Option OperatorCommandReceipt :=
  match op.answer crates s with
  | some (.ok (.accepted receipt)) => some receipt
  | _ => none

/-- The arguments pass the checks that stand in front of the ledger. -/
def Op.argumentsValid (s : Store) : Op → Bool
  | .admitOperatorCommand _ command _ _ => !command.isReadOnly
  | .admitOperatorJobSubmission _ kind payload _ _ =>
    isName kind 128 && payload.render.utf8ByteSize ≤ s.maxPayloadBytes
  | .admitOperatorQuarantine _ attemptId reason _ _ =>
    isName attemptId 128 && isName reason maxQuarantineReasonBytes
  | .admitOperatorRetry _ attemptId _ _ _ => isName attemptId 128
  | .completeReleaseActivation .. => true
  | _ => false

/-- A submission is answered from the ledger only for the recorded job. -/
def Op.Replayable (crates : Crates) (s : Store) (op : Op) (existing : OperatorCommandReceipt) :
    Prop :=
  match op with
  | .admitOperatorJobSubmission _ kind payload _ _ =>
    replayedSubmission s existing kind (hexDigest crates payload.render) = .ok ()
  | _ => True

/-- What the effect of an admitted command leaves for its record. -/
structure Effect (command : OperatorCommand) (s s₁ : Store) : Prop where
  ledger : s₁.operatorCommands = s.operatorCommands
  mode : s₁.metadata .desiredMode =
    (command.desiredMode.map modeAsStr).or (s.metadata .desiredMode)
  updatedAt : (s.metadata .updatedAtMs).isSome → (s₁.metadata .updatedAtMs).isSome
  audit : s₁.audit.length ≤ max s.audit.length maxAuditRecords

theorem Steady.effect {command : OperatorCommand} (h : Steady s s')
    (hcommand : command.desiredMode = none) : Effect command s s' :=
  ⟨h.ledger, by simpa [hcommand] using h.mode, h.updatedAt, h.audit⟩

theorem applyDesiredModeTx_effect {command : OperatorCommand} {now : Nat}
    (h : applyDesiredModeTx s command.desiredMode now = .ok s') : Effect command s s' := by
  cases hmode : command.desiredMode with
  | none =>
    rw [hmode] at h
    cases pure_eq_ok.mp h
    exact (Steady.refl s).effect hmode
  | some mode =>
    rw [hmode] at h
    replace h := bind_only updateMetadataTx_eq_ok h
    obtain ⟨-, rfl⟩ := updateMetadataTx_eq_ok.mp h
    exact ⟨rfl, by simp [upsertMetadataTx, hmode], by simp [upsertMetadataTx],
      le_max_left _ _⟩

/-- What an accepted admission has checked and what it leaves. -/
structure Accepts (call : Admission) (s s' : Store) (receipt : OperatorCommandReceipt) : Prop where
  valid : call.context.Valid
  admin : call.context.capability = .admin
  mutating : call.command.isReadOnly = false
  admissible : Admissible s call.context call.command call.response
  receipt_eq : receipt = operatorReceipt call.context call.command call.response
    (nextOperatorSequence s) call.nowMs
  ledger : s'.operatorCommands = s.operatorCommands ++
    [operatorRow call.context call.command call.response (nextOperatorSequence s) call.nowMs]
  mode : s'.metadata .desiredMode =
    (call.command.desiredMode.map modeAsStr).or (s.metadata .desiredMode)
  updatedAt : (s.metadata .updatedAtMs).isSome → (s'.metadata .updatedAtMs).isSome
  audit : s'.audit.length ≤ if call.command = .stop then maxAuditRecords + 1 else maxAuditRecords

/-- How an admission that answers ends. -/
inductive Op.Ends (crates : Crates) (s : Store) (op : Op) (call : Admission) :
    OperatorCommandOutcome → Store → Prop where
  | readOnly (hvalid : call.context.Valid) (hread : call.command.isReadOnly = true) :
      op.Ends crates s call .readOnly s
  | replayed {existing : OperatorCommandReceipt} (hvalid : call.context.Valid)
      (hadmin : call.context.capability = .admin) (harguments : op.argumentsValid s = true)
      (hkey : findOperatorByKey crates s call.context.idempotencyKey = .ok (some existing))
      (hmatches : existing.Matches call.context call.command)
      (hreplayable : op.Replayable crates s existing) :
      op.Ends crates s call (.replayed { existing with replayed := true }) s
  | accepted {receipt : OperatorCommandReceipt} {s' : Store}
      (harguments : op.argumentsValid s = true) (haccepts : Accepts call s s' receipt) :
      op.Ends crates s call (.accepted receipt) s'

/-- The bound of the audit table that the action of an admission leaves. -/
private theorem auditLimit_accepted {action : String} {command : OperatorCommand}
    (haction : isEmergencyStopAuditAction action = true → command = .stop) :
    auditLimit action ≤ if command = .stop then maxAuditRecords + 1 else maxAuditRecords := by
  by_cases hstop : isEmergencyStopAuditAction action = true
  · rw [if_pos (haction hstop), auditLimit, if_pos hstop]
    rfl
  · have hle := auditLimit_le (by simpa using hstop)
    split <;> omega

private theorem Admits.ends {call : Admission} {action suffix : String} {effect : Store → Prop}
    {outcome : OperatorCommandOutcome}
    (h : Admits crates s call.context call.command call.response action suffix call.nowMs
      (op.Replayable crates s) effect outcome s')
    (harguments : op.argumentsValid s = true) (hmutating : call.command.isReadOnly = false)
    (haction : isEmergencyStopAuditAction action = true → call.command = .stop)
    (heffect : ∀ s₁, effect s₁ → Effect call.command s s₁) :
    op.Ends crates s call outcome s' := by
  obtain ⟨existing, hkey, hmatches, hreplayable, rfl, rfl⟩ | ⟨hadmissible, s₁, hs₁, hrecord⟩ :=
    h.answer
  · exact .replayed h.valid h.admin harguments hkey hmatches hreplayable
  · have heffect₁ := heffect s₁ hs₁
    have hlimit := auditLimit_accepted haction
    have hsequence : nextOperatorSequence s₁ = nextOperatorSequence s := by
      rw [nextOperatorSequence, heffect₁.ledger]
      rfl
    obtain ⟨-, -, haudit, rfl, detail, rfl⟩ := recordOperatorCommandTx_eq_ok hrecord
    rw [hsequence]
    refine .accepted harguments ⟨h.valid, h.admin, hmutating, hadmissible, rfl, ?_, heffect₁.mode,
      heffect₁.updatedAt, ?_⟩
    · rw [← heffect₁.ledger]
    · rw [List.length_append, List.length_singleton]
      omega

/-- An admission is refused without a change, or ends in one of the three ways. -/
theorem admission_cases (crates : Crates) {call : Admission} (hs : s.queue.Keyed)
    (hop : op.admission = some call) :
    (∃ e, op.answer crates s = some (.error e)) ∧ perform crates op s = s ∨
      ∃ outcome, op.answer crates s = some (.ok outcome) ∧
        op.Ends crates s call outcome (perform crates op s) := by
  -- each admission is one transaction
  have hcommit : ∀ routine : Result (OperatorCommandOutcome × Store),
      (∀ outcome s', routine = .ok (outcome, s') → op.Ends crates s call outcome s') →
      (∃ e, some (commit s routine).1 = some (.error e)) ∧ (commit s routine).2 = s ∨
        ∃ outcome, some (commit s routine).1 = some (.ok outcome) ∧
          op.Ends crates s call outcome (commit s routine).2 := by
    intro routine hends
    rcases commit_cases s routine with ⟨outcome, s', hroutine, hcommit⟩ | ⟨e, -, hcommit⟩
    · rw [hcommit]
      exact .inr ⟨outcome, rfl, hends outcome s' hroutine⟩
    · rw [hcommit]
      exact .inl ⟨⟨e, rfl⟩, rfl⟩
  cases op <;> cases hop
  case admitOperatorCommand context command response now =>
    refine hcommit _ fun outcome s' h => ?_
    obtain ⟨hvalid, hread, rfl, rfl⟩ | ⟨hmutating, hadmits⟩ :=
      admitOperatorCommandTx_eq_ok.mp h
    · exact .readOnly hvalid hread
    · refine hadmits.ends (by simp [Op.argumentsValid, hmutating]) hmutating (fun haction => ?_)
        fun s₁ => applyDesiredModeTx_effect
      by_contra hstop
      rw [acceptedAction, if_neg hstop] at haction
      exact absurd haction (by decide)
  case admitOperatorJobSubmission context kind payload now jobId =>
    refine hcommit _ fun outcome s' h => ?_
    obtain ⟨hvalid, hadmits⟩ := admitOperatorJobSubmissionTx_eq_ok.mp h
    refine hadmits.ends (by simpa [Op.argumentsValid] using hvalid) rfl
      (fun haction => absurd haction (by decide)) fun s₁ hs₁ => ?_
    have hstep : QuietStep crates (.submitJobAt kind payload now jobId) s s₁ :=
      insertJobTx_step rfl hs₁
    exact hstep.quiet.toSteady.effect rfl
  case admitOperatorQuarantine context attemptId reason response now =>
    refine hcommit _ fun outcome s' h => ?_
    obtain ⟨hvalid, hadmits⟩ := admitOperatorQuarantineTx_eq_ok.mp h
    refine hadmits.ends (by simpa [Op.argumentsValid] using hvalid) rfl
      (fun haction => absurd haction (by decide)) ?_
    rintro s₁ ⟨a, -, hs₁⟩
    exact (quarantineAttemptTx_eq_ok hs₁).2.toSteady.effect rfl
  case admitOperatorRetry context attemptId reconstruction response now =>
    refine hcommit _ fun outcome s' h => ?_
    obtain ⟨hvalid, hadmits⟩ := admitOperatorRetryTx_eq_ok.mp h
    refine hadmits.ends (by simpa [Op.argumentsValid] using hvalid) rfl
      (fun haction => absurd haction (by decide)) ?_
    rintro s₁ ⟨-, a, ha, hs₁⟩
    have hstep : QuietStep crates
        (.admitOperatorRetry context attemptId reconstruction response now) s s₁ :=
      requeueAttemptTx_step hs ha hs₁
    exact hstep.quiet.toSteady.effect rfl
  case completeReleaseActivation context releaseId digest rollback response now =>
    refine hcommit _ fun outcome s' h => ?_
    refine (completeReleaseActivationTx_eq_ok.mp h).ends rfl rfl
      (fun haction => absurd haction (by decide)) ?_
    rintro s₁ ⟨pending, -, rfl⟩
    exact (activate_reselects pending).toSteady.effect rfl

/-! ### All other operations -/

/-- The interruption of a daemon is quiet, job after job. -/
private theorem quarantineInterruptedJobs_quiet (now : Nat) (hs : s.queue.Keyed) :
    Quiet s (perform crates (.quarantineInterruptedJobs now) s) := by
  have hsteps : Relation.ReflTransGen (QuietStep crates (.quarantineInterruptedJobs now)) s
      (perform crates (.quarantineInterruptedJobs now) s) := quarantineInterruptedJobs_steps now hs
  generalize perform crates (.quarantineInterruptedJobs now) s = s' at hsteps
  induction hsteps with
  | refl => exact .refl s
  | tail _ hstep ih => exact ih.trans hstep.quiet

theorem perform_quiet (hs : s.queue.Keyed) (hop : op.isQuiet = true) :
    Quiet s (perform crates op s) := by
  by_cases hdaemon : ∃ now, op = .quarantineInterruptedJobs now
  · obtain ⟨now, rfl⟩ := hdaemon
    exact quarantineInterruptedJobs_quiet now hs
  · exact (perform_quietStep hop (fun now h => hdaemon ⟨now, h⟩) hs).quiet

/-- A preparation writes the selector and nothing else. -/
theorem prepareReleaseActivation_reselects
    {requestId key releaseId digest : String} {rollback : Bool} {now : Nat} :
    Reselects s
      (perform crates (.prepareReleaseActivation requestId key releaseId digest rollback now) s) := by
  rw [perform, Store.prepareReleaseActivation, commitThen_snd]
  exact commit_induction (.refl s) fun _ s' h => prepareReleaseActivationTx_reselects h

/-- A direct mode change. -/
theorem setDesiredModeTx_eq_ok {mode : DesiredMode} {now : Nat}
    (h : setDesiredModeTx s mode now = .ok s') :
    s'.operatorCommands = s.operatorCommands ∧
      s'.metadata .desiredMode = some (modeAsStr mode) ∧
      (s'.metadata .updatedAtMs).isSome ∧ s'.audit.length ≤ maxAuditRecords := by
  replace h := bind_only updateMetadataTx_eq_ok h
  replace h := bind_only updateMetadataTx_eq_ok h
  obtain ⟨-, -, hlimit, -, rfl⟩ := insertAuditTx_eq_ok.mp h
  refine ⟨rfl, by simp [upsertMetadataTx], by simp [upsertMetadataTx], ?_⟩
  have hbound : auditLimit "desired_mode_changed" ≤ maxAuditRecords := auditLimit_le (by decide)
  rw [List.length_append, List.length_singleton]
  omega

/-- A restore keeps the ledger and leaves the mode `stopped`. -/
theorem restoreTx_ledger {config : RestoreConfig} {now : Nat} {epoch : UuidV4}
    (h : restoreTx s config now epoch = .ok s') :
    s'.operatorCommands = s.operatorCommands ∧
      s'.metadata .desiredMode = some (modeAsStr .stopped) ∧
      (s'.metadata .updatedAtMs).isSome := by
  obtain ⟨⟨deployment, generation⟩, -, h⟩ := bind_eq_ok.mp h
  obtain ⟨next, -, h⟩ := bind_eq_ok.mp h
  obtain ⟨s₁, hs₁, h⟩ := bind_eq_ok.mp h
  obtain ⟨metadata, rfl, hmode, -, hupdated⟩ := rekeyMetadataTx_metadata hs₁
  obtain ⟨now', -, h⟩ := bind_eq_ok.mp h
  obtain ⟨-, -, -, -, h⟩ := insertAuditTx_bind.mp h
  cases pure_eq_ok.mp h
  refine ⟨rfl, hmode, ?_⟩
  exact Option.isSome_iff_exists.mpr ⟨_, hupdated⟩

/-- The completion of a backup rewrites responses and nothing else of the ledger. -/
theorem completeOperatorBackupTx_eq_ok {receipt : OperatorCommandReceipt} {response : Value}
    {backupId : String} {now : Nat} {u : Unit}
    (h : completeOperatorBackupTx crates s receipt response backupId now = .ok (u, s')) :
    (∀ {κ : Type} (col : OperatorCommandRow → κ), (∀ r text, col (r.setResponse text) = col r) →
      s'.operatorCommands.map col = s.operatorCommands.map col) ∧
      s'.metadata = s.metadata ∧ s'.audit.length ≤ max s.audit.length maxAuditRecords := by
  replace h := bind_passed h
  obtain ⟨row, -, h⟩ := bind_eq_ok.mp h
  replace h := bind_passed h
  obtain ⟨existing, -, h⟩ := bind_eq_ok.mp h
  obtain ⟨durable, -, h⟩ := bind_eq_ok.mp h
  split at h
  · cases pure_eq_ok.mp h
    exact ⟨fun _ _ => rfl, rfl, le_max_left _ _⟩
  · obtain ⟨s₁, hs₁, h⟩ := bind_eq_ok.mp h
    have haudit := (insertAuditTx_outside (by decide) hs₁).audit
    obtain ⟨-, -, -, -, rfl⟩ := insertAuditTx_eq_ok.mp hs₁
    cases pure_eq_ok.mp h
    exact ⟨fun col hcol => map_updateWhere col (fun r => hcol r _) _, rfl, haudit⟩

/-! ### The ledger over a step -/

/-- The completion of a backup: the one operation that rewrites a ledger row. -/
def Op.completesBackup : Op → Bool
  | .completeOperatorBackup .. => true
  | _ => false

/-- Every step but the completion of a backup keeps the ledger, or is an admission that
appends to it. -/
theorem perform_ledger (crates : Crates) (hs : s.queue.Keyed) (hop : op.completesBackup = false) :
    (perform crates op s).operatorCommands = s.operatorCommands ∨
      ∃ call receipt, op.admission = some call ∧
        op.answer crates s = some (.ok (.accepted receipt)) ∧
        Accepts call s (perform crates op s) receipt := by
  cases hcall : op.admission with
  | some call =>
    rcases admission_cases crates hs hcall with ⟨-, hsame⟩ | ⟨outcome, hanswer, hends⟩
    · exact .inl (by rw [hsame])
    · generalize perform crates op s = s' at hends
      cases hends with
      | readOnly => exact .inl rfl
      | replayed => exact .inl rfl
      | accepted _ haccepts => exact .inr ⟨call, _, rfl, hanswer, haccepts⟩
  | none =>
    refine .inl ?_
    by_cases hquiet : op.isQuiet = true
    · exact (perform_quiet hs hquiet).ledger
    cases op
    case setDesiredModeAt mode now =>
      refine commit_induction (R := fun s s' : Store => s'.operatorCommands = s.operatorCommands) rfl
        fun _ s' h => ?_
      obtain ⟨s₁, hs₁, h⟩ := bind_eq_ok.mp h
      cases pure_eq_ok.mp h
      exact (setDesiredModeTx_eq_ok hs₁).1
    case prepareReleaseActivation => exact prepareReleaseActivation_reselects.ledger
    case auditEvent action detail now =>
      refine commit_induction (R := fun s s' : Store => s'.operatorCommands = s.operatorCommands) rfl
        fun _ s' h => ?_
      obtain ⟨s₁, hs₁, h⟩ := bind_eq_ok.mp h
      cases pure_eq_ok.mp h
      obtain ⟨-, -, -, -, rfl⟩ := insertAuditTx_eq_ok.mp hs₁
      rfl
    case restore config now epoch =>
      refine commit_induction (R := fun s s' : Store => s'.operatorCommands = s.operatorCommands) rfl
        fun _ s' h => ?_
      obtain ⟨s₁, hs₁, h⟩ := bind_eq_ok.mp h
      cases pure_eq_ok.mp h
      exact (restoreTx_ledger hs₁).1
    all_goals first
      | exact absurd rfl hquiet
      | exact absurd hcall (Option.some_ne_none _)
      | exact absurd hop (by simp [Op.completesBackup])

end AscensionWatchdog
