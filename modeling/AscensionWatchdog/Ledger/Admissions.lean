import AscensionWatchdog.Storage.Release

/-!
# How admissions end

Five transactions admit a mutation for an operator. They are written separately, with their own
checks in front and their own effects, but each of them ends in one of two ways, which `Admits`
states once:

* the key is in the ledger: the call is compared with the recorded receipt and answered with it,
  and nothing is written;
* the key is not in the ledger: the checks of `Admissible` hold, the effect is written, and
  `recordOperatorCommandTx` writes the ledger row and the audit record.

The lemmas `…Tx_eq_ok` say for each of the five transactions exactly when it returns, and what.
-/

namespace AscensionWatchdog

open Foundation Foundation.Json

variable {crates : Crates} {s s' : Store} {context : OperatorCommandContext}
  {command : OperatorCommand} {response : Value} {now : Nat} {outcome : OperatorCommandOutcome}

/-! ### Checks -/

/-- A well-formed context. -/
structure OperatorCommandContext.Valid (context : OperatorCommandContext) : Prop where
  requestId : isUuidV4 context.requestId = true
  idempotencyKey : isName context.idempotencyKey 128 = true
  principal : isName context.principal 128 = true
  commandFingerprint : isDigest context.commandFingerprint = true

theorem OperatorCommandContext.validate_eq_ok {u : Unit} :
    context.validate = .ok u ↔ context.Valid := by
  simp only [validate, validateUuidV4, validateDigest, bind_eq_ok, exists_const, ensure_eq_ok,
    validateName_eq_ok, mapError_eq_ok]
  constructor
  · rintro ⟨hrequest, hkey, hprincipal, hfingerprint⟩
    exact ⟨hrequest, hkey, hprincipal, hfingerprint⟩
  · rintro ⟨hrequest, hkey, hprincipal, hfingerprint⟩
    exact ⟨hrequest, hkey, hprincipal, hfingerprint⟩

/-- A response that the ledger takes. -/
structure ValidResponse (response : Value) : Prop where
  ne_null : response ≠ .null
  size : response.render.utf8ByteSize ≤ maxOperatorResponseBytes
  noNul : containsNul response.render = false

theorem validateResponse_eq_ok {u : Unit} :
    validateResponse response = .ok u ↔ ValidResponse response := by
  simp only [validateResponse, bind_eq_ok, exists_const, ensure_eq_ok]
  constructor
  · rintro ⟨hnull, hsize, hnul⟩
    exact ⟨hnull, hsize, hnul⟩
  · rintro ⟨hnull, hsize, hnul⟩
    exact ⟨hnull, hsize, hnul⟩

theorem enforceLedgerCapacity_eq_ok {u : Unit} :
    enforceLedgerCapacity s command = .ok u ↔
      s.operatorCommands.length < ledgerLimit command :=
  ensure_eq_ok

theorem findOperatorByKey_eq_none {key : String} :
    findOperatorByKey crates s key = .ok none ↔
      ∀ r ∈ s.operatorCommands, r.idempotencyKey ≠ key := by
  rw [← lookup_eq_none, findOperatorByKey]
  cases lookup OperatorCommandRow.idempotencyKey key s.operatorCommands with
  | none => simp [pure, Except.pure]
  | some row =>
    simp only [Option.mapM_some, reduceCtorEq, iff_false]
    cases operatorReceiptFromRow crates row <;> simp [Functor.map, Except.map]

theorem findOperatorByKey_eq_some {key : String} {existing : OperatorCommandReceipt} :
    findOperatorByKey crates s key = .ok (some existing) ↔
      ∃ row, lookup OperatorCommandRow.idempotencyKey key s.operatorCommands = some row ∧
        operatorReceiptFromRow crates row = .ok existing :=
  mapM_eq_ok_some

theorem ensureFreshRequest_eq_ok {requestId : String} {u : Unit} :
    ensureFreshRequest crates s requestId = .ok u ↔
      ∀ r ∈ s.operatorCommands, r.requestId ≠ requestId := by
  rw [← lookup_eq_none, ensureFreshRequest, findOperatorByRequest]
  cases lookup OperatorCommandRow.requestId requestId s.operatorCommands with
  | none => simp [bind, Except.bind, pure, Except.pure]
  | some row =>
    simp only [Option.mapM_some, reduceCtorEq, iff_false]
    cases operatorReceiptFromRow crates row <;> simp [Functor.map, Except.map, bind, Except.bind]

/-! ### Replays and admissions -/

/-- The receipt was recorded for this operator context and this command. -/
structure OperatorCommandReceipt.Matches (existing : OperatorCommandReceipt)
    (context : OperatorCommandContext) (command : OperatorCommand) : Prop where
  principal : existing.principal = context.principal
  capability : existing.capability = context.capability
  commandFingerprint : existing.commandFingerprint = context.commandFingerprint
  command : existing.command = command

theorem replayReceipt_eq_ok {existing receipt : OperatorCommandReceipt} :
    replayReceipt existing context command = .ok receipt ↔
      existing.Matches context command ∧ receipt = { existing with replayed := true } := by
  simp only [replayReceipt, ensure_bind_eq_ok, pure_eq_ok]
  constructor
  · rintro ⟨⟨hprincipal, hcapability⟩, ⟨hfingerprint, hcommand⟩, rfl⟩
    exact ⟨⟨hprincipal, hcapability, hfingerprint, hcommand⟩, rfl⟩
  · rintro ⟨⟨hprincipal, hcapability, hfingerprint, hcommand⟩, rfl⟩
    exact ⟨⟨hprincipal, hcapability⟩, ⟨hfingerprint, hcommand⟩, rfl⟩

/-- The checks in front of the effect of an admission. -/
structure Admissible (s : Store) (context : OperatorCommandContext) (command : OperatorCommand)
    (response : Value) : Prop where
  key : ∀ r ∈ s.operatorCommands, r.idempotencyKey ≠ context.idempotencyKey
  request : ∀ r ∈ s.operatorCommands, r.requestId ≠ context.requestId
  capacity : s.operatorCommands.length < ledgerLimit command
  response : ValidResponse response

/-- The recorded receipt answers the call: it matches, and `replayable` holds of it. -/
def Replays (crates : Crates) (s : Store) (context : OperatorCommandContext)
    (command : OperatorCommand) (replayable : OperatorCommandReceipt → Prop)
    (outcome : OperatorCommandOutcome) (s' : Store) : Prop :=
  ∃ existing, findOperatorByKey crates s context.idempotencyKey = .ok (some existing) ∧
    existing.Matches context command ∧ replayable existing ∧
    outcome = .replayed { existing with replayed := true } ∧ s' = s

/-- An admission under `context`: a replay, or the effect together with its record. -/
structure Admits (crates : Crates) (s : Store) (context : OperatorCommandContext)
    (command : OperatorCommand) (response : Value) (action suffix : String) (now : Nat)
    (replayable : OperatorCommandReceipt → Prop) (effect : Store → Prop)
    (outcome : OperatorCommandOutcome) (s' : Store) : Prop where
  valid : context.Valid
  admin : context.capability = .admin
  answer : Replays crates s context command replayable outcome s' ∨
    Admissible s context command response ∧ ∃ s₁, effect s₁ ∧
      recordOperatorCommandTx s₁ context command response action suffix now = .ok (outcome, s')

/-- Look the key up, and answer from the ledger or go on. -/
private theorem find_eq_ok_iff_admits {action suffix : String}
    {replayable : OperatorCommandReceipt → Prop} {effect : Store → Prop}
    {answer : Option OperatorCommandReceipt → Result (OperatorCommandOutcome × Store)}
    (hreplay : ∀ existing, answer (some existing) = .ok (outcome, s') ↔
      existing.Matches context command ∧ replayable existing ∧
        outcome = .replayed { existing with replayed := true } ∧ s' = s)
    (hfresh : answer none = .ok (outcome, s') ↔
      (∀ r ∈ s.operatorCommands, r.requestId ≠ context.requestId) ∧
        s.operatorCommands.length < ledgerLimit command ∧ ValidResponse response ∧
        ∃ s₁, effect s₁ ∧ recordOperatorCommandTx s₁ context command response action suffix now =
          .ok (outcome, s')) :
    (context.Valid ∧ context.capability = .admin ∧
      (findOperatorByKey crates s context.idempotencyKey >>= answer) = .ok (outcome, s')) ↔
      Admits crates s context command response action suffix now replayable effect outcome s' := by
  rw [bind_eq_ok]
  constructor
  · rintro ⟨hvalid, hadmin, _ | existing, hkey, h⟩
    · obtain ⟨hrequest, hcapacity, hresponse, heffect⟩ := hfresh.mp h
      exact ⟨hvalid, hadmin,
        .inr ⟨⟨findOperatorByKey_eq_none.mp hkey, hrequest, hcapacity, hresponse⟩, heffect⟩⟩
    · exact ⟨hvalid, hadmin, .inl ⟨existing, hkey, (hreplay existing).mp h⟩⟩
  · rintro ⟨hvalid, hadmin, ⟨existing, hkey, h⟩ | ⟨⟨hkey, hrequest, hcapacity, hresponse⟩, h⟩⟩
    · exact ⟨hvalid, hadmin, some existing, hkey, (hreplay existing).mpr h⟩
    · exact ⟨hvalid, hadmin, none, findOperatorByKey_eq_none.mpr hkey,
        hfresh.mpr ⟨hrequest, hcapacity, hresponse, h⟩⟩

/-- The replay of three of the transactions. -/
private theorem replay_eq_ok (existing : OperatorCommandReceipt) :
    (do
      let receipt ← replayReceipt existing context command
      return (.replayed receipt, s) : Result (OperatorCommandOutcome × Store)) =
        .ok (outcome, s') ↔
      existing.Matches context command ∧ True ∧
        outcome = .replayed { existing with replayed := true } ∧ s' = s := by
  simp only [bind_eq_ok, replayReceipt_eq_ok, pure_eq_ok, Prod.mk.injEq, true_and]
  constructor
  · rintro ⟨receipt, ⟨hmatches, rfl⟩, rfl, rfl⟩
    exact ⟨hmatches, rfl, rfl⟩
  · rintro ⟨hmatches, rfl, rfl⟩
    exact ⟨_, ⟨hmatches, rfl⟩, rfl, rfl⟩

/-! ### The five transactions -/

theorem admitOperatorCommandTx_eq_ok :
    admitOperatorCommandTx crates s context command response now = .ok (outcome, s') ↔
      context.Valid ∧ command.isReadOnly = true ∧ outcome = .readOnly ∧ s' = s ∨
        command.isReadOnly = false ∧
          Admits crates s context command response (acceptedAction command) "" now
            (fun _ => True) (fun s₁ => applyDesiredModeTx s command.desiredMode now = .ok s₁)
            outcome s' := by
  unfold admitOperatorCommandTx
  rw [check_bind_eq_ok, OperatorCommandContext.validate_eq_ok]
  cases hread : command.isReadOnly with
  | true =>
    simp only [if_pos, check_bind_eq_ok, admitOperatorRead, ensure_eq_ok, pure_eq_ok, hread,
      OperatorCommandContext.validate_eq_ok, Prod.mk.injEq]
    constructor
    · rintro ⟨hvalid, -, rfl, rfl⟩
      exact .inl ⟨hvalid, trivial, rfl, rfl⟩
    · rintro (⟨hvalid, -, rfl, rfl⟩ | ⟨h, -⟩)
      · exact ⟨hvalid, ⟨hvalid, trivial⟩, rfl, rfl⟩
      · cases h
  | false =>
    rw [if_neg Bool.false_ne_true, ensure_bind_eq_ok]
    simp only [Bool.false_eq_true, false_and, and_false, false_or, true_and]
    refine find_eq_ok_iff_admits replay_eq_ok ?_
    simp only [bind_eq_ok, exists_const, ensureFreshRequest_eq_ok, enforceLedgerCapacity_eq_ok,
      validateResponse_eq_ok]

/-- The checks of the arguments stand between those of the context and the lookup of the key. -/
private theorem and_front {a b p q c : Prop} : a ∧ b ∧ p ∧ q ∧ c ↔ (p ∧ q) ∧ a ∧ b ∧ c := by
  tauto

theorem admitOperatorJobSubmissionTx_eq_ok {kind : String} {payload : Value} {jobId : UuidV4} :
    admitOperatorJobSubmissionTx crates s context kind payload now jobId = .ok (outcome, s') ↔
      (isName kind 128 = true ∧ payload.render.utf8ByteSize ≤ s.maxPayloadBytes) ∧
        Admits crates s context .jobSubmit (jobSubmittedResponse jobId.text)
          "operator_command_accepted" "" now
          (fun existing =>
            replayedSubmission s existing kind (hexDigest crates payload.render) = .ok ())
          (fun s₁ => insertJobTx s jobId.text kind payload.render
            (hexDigest crates payload.render) s.maxJobs now = .ok s₁) outcome s' := by
  unfold admitOperatorJobSubmissionTx
  rw [check_bind_eq_ok, ensure_bind_eq_ok, check_bind_eq_ok, ensure_bind_eq_ok,
    validateName_eq_ok, OperatorCommandContext.validate_eq_ok, and_front]
  refine and_congr_right fun _ => find_eq_ok_iff_admits (fun existing => ?_) ?_
  · -- the recorded job is compared as well
    simp only [bind_eq_ok, replayReceipt_eq_ok, pure_eq_ok, Prod.mk.injEq]
    constructor
    · rintro ⟨receipt, ⟨hmatches, rfl⟩, ⟨⟩, hjob, rfl, rfl⟩
      exact ⟨hmatches, hjob, rfl, rfl⟩
    · rintro ⟨hmatches, hjob, rfl, rfl⟩
      exact ⟨_, ⟨hmatches, rfl⟩, (), hjob, rfl, rfl⟩
  · simp only [bind_eq_ok, exists_const, ensureFreshRequest_eq_ok, enforceLedgerCapacity_eq_ok,
      validateResponse_eq_ok]

theorem admitOperatorQuarantineTx_eq_ok {attemptId reason : String} :
    admitOperatorQuarantineTx crates s context attemptId reason response now =
        .ok (outcome, s') ↔
      (isName attemptId 128 = true ∧ isName reason maxQuarantineReasonBytes = true) ∧
        Admits crates s context .quarantine response "operator_command_accepted" "" now
          (fun _ => True)
          (fun s₁ => ∃ a, quarantinableAttempt s attemptId = .ok a ∧
            quarantineAttemptTx s a reason now = .ok s₁) outcome s' := by
  unfold admitOperatorQuarantineTx
  rw [check_bind_eq_ok, ensure_bind_eq_ok, check_bind_eq_ok, check_bind_eq_ok,
    validateName_eq_ok, validateName_eq_ok, OperatorCommandContext.validate_eq_ok, and_front]
  refine and_congr_right fun _ => find_eq_ok_iff_admits replay_eq_ok ?_
  simp only [bind_eq_ok, exists_const, ensureFreshRequest_eq_ok, enforceLedgerCapacity_eq_ok,
    validateResponse_eq_ok]
  constructor
  · rintro ⟨hrequest, hcapacity, hresponse, a, ha, s₁, hs₁, h⟩
    exact ⟨hrequest, hcapacity, hresponse, s₁, ⟨a, ha, hs₁⟩, h⟩
  · rintro ⟨hrequest, hcapacity, hresponse, s₁, ⟨a, ha, hs₁⟩, h⟩
    exact ⟨hrequest, hcapacity, hresponse, a, ha, s₁, hs₁, h⟩

/-- A retry checks the response before the capacity of the ledger. -/
theorem admitOperatorRetryTx_eq_ok {attemptId : String} {reconstruction : Bool} :
    admitOperatorRetryTx crates s context attemptId reconstruction response now =
        .ok (outcome, s') ↔
      isName attemptId 128 = true ∧
        Admits crates s context .retry response "operator_command_accepted" "" now
          (fun _ => True)
          (fun s₁ => reconstruction = false ∧ ∃ a, retryableAttempt s attemptId = .ok a ∧
            requeueAttemptTx s a now = .ok s₁) outcome s' := by
  unfold admitOperatorRetryTx
  rw [check_bind_eq_ok, ensure_bind_eq_ok, check_bind_eq_ok, validateName_eq_ok,
    OperatorCommandContext.validate_eq_ok, and_left_comm (a := context.capability = .admin),
    and_left_comm (a := context.Valid)]
  refine and_congr_right fun _ => find_eq_ok_iff_admits replay_eq_ok ?_
  simp only [bind_eq_ok, exists_const, ensure_eq_ok, ensureFreshRequest_eq_ok,
    enforceLedgerCapacity_eq_ok, validateResponse_eq_ok]
  constructor
  · rintro ⟨hrequest, hreconstruction, hresponse, hcapacity, a, ha, s₁, hs₁, h⟩
    exact ⟨hrequest, hcapacity, hresponse, s₁, ⟨hreconstruction, a, ha, hs₁⟩, h⟩
  · rintro ⟨hrequest, hcapacity, hresponse, s₁, ⟨hreconstruction, a, ha, hs₁⟩, h⟩
    exact ⟨hrequest, hreconstruction, hresponse, hcapacity, a, ha, s₁, hs₁, h⟩

theorem completeReleaseActivationTx_eq_ok {releaseId releaseDigest : String} {rollback : Bool} :
    completeReleaseActivationTx crates s context releaseId releaseDigest rollback response now =
        .ok (outcome, s') ↔
      Admits crates s context .releaseActivate response
        "operator_command_release_activate_accepted" s!";rollback={rollback}" now (fun _ => True)
        (fun s₁ => ∃ pending,
          matchingPending s context releaseId releaseDigest rollback response = .ok pending ∧
            s₁ = clearPending (writeActive s pending.release pending.previous)) outcome s' := by
  unfold completeReleaseActivationTx
  rw [check_bind_eq_ok, ensure_bind_eq_ok, OperatorCommandContext.validate_eq_ok]
  refine find_eq_ok_iff_admits (fun existing => ?_) ?_
  · simp only [verifyDuplicateContext, bind_eq_ok, exists_const, ensure_eq_ok, pure_eq_ok,
      Prod.mk.injEq, true_and]
    constructor
    · rintro ⟨⟨hprincipal, hcapability, hfingerprint⟩, hcommand, rfl, rfl⟩
      exact ⟨⟨hprincipal, hcapability, hfingerprint, hcommand⟩, rfl, rfl⟩
    · rintro ⟨⟨hprincipal, hcapability, hfingerprint, hcommand⟩, rfl, rfl⟩
      exact ⟨⟨hprincipal, hcapability, hfingerprint⟩, hcommand, rfl, rfl⟩
  · simp only [bind_eq_ok, exists_const, ensureFreshRequest_eq_ok, enforceLedgerCapacity_eq_ok,
      validateResponse_eq_ok]
    constructor
    · rintro ⟨hrequest, hcapacity, hresponse, pending, hpending, h⟩
      exact ⟨hrequest, hcapacity, hresponse, _, ⟨pending, hpending, rfl⟩, h⟩
    · rintro ⟨hrequest, hcapacity, hresponse, s₁, ⟨pending, hpending, rfl⟩, h⟩
      exact ⟨hrequest, hcapacity, hresponse, pending, hpending, h⟩

end AscensionWatchdog
