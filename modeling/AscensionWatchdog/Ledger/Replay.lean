import AscensionWatchdog.Ledger.Calls
import AscensionWatchdog.Queue.Reservation

/-!
# Idempotency keys

The five admissions share one key space. A key is spent by the call that is accepted under it,
and from then on every admission with that key is answered from its ledger row: nothing is
written, whatever the call asks for.

The answer is the recorded receipt exactly when the call *repeats* the recorded one
(`Op.Repeats`): well-formed, by the same principal, with the same capability, command and
fingerprint, and for a submission also with the kind and the payload of the recorded job. The
receipt is the one that its row decodes to (`OperatorCommandReceipt.reread`): the response is
stored as text and parsed again.
-/

namespace AscensionWatchdog

open Foundation Foundation.Json

variable {crates : Crates} {s s' : Store} {op : Op} {call : Admission}

/-! ### Decoding the row of a receipt -/

/-- A ledger row with its response parsed. -/
def OperatorCommandRow.receipt (row : OperatorCommandRow) (response : Value) :
    OperatorCommandReceipt where
  sequence := row.sequence
  requestId := row.requestId
  idempotencyKey := row.idempotencyKey
  principal := row.principal
  capability := row.capability
  command := row.command
  commandFingerprint := row.commandFingerprint
  desiredMode := row.desiredMode
  response := response
  recordedAtMs := row.recordedAtMs
  replayed := false

/-- The columns of a ledger row that the decoder checks, but for the response text. -/
structure OperatorCommandRow.Readable (row : OperatorCommandRow) : Prop where
  requestId : isUuidV4 row.requestId = true
  idempotencyKey : isName row.idempotencyKey 128 = true
  principal : isName row.principal 128 = true
  capability : row.capability = .admin
  command : row.command.isReadOnly = false
  response : row.responseJson.utf8ByteSize ≤ maxOperatorResponseBytes
  commandFingerprint : isDigest row.commandFingerprint = true
  desiredMode : row.desiredMode = row.command.desiredMode
  sequence : row.sequence ≠ 0

variable {receipt : OperatorCommandReceipt} {row : OperatorCommandRow}

theorem operatorReceiptFromRow_eq_ok
    :
    operatorReceiptFromRow crates row = .ok receipt ↔
      row.Readable ∧ ∃ response, crates.fromStr row.responseJson = some response ∧
        response ≠ .null ∧ receipt = row.receipt response := by
  simp only [operatorReceiptFromRow, toSqliteError, validateUuidV4, validateDigest, parseStored,
    bind_eq_ok, exists_const, mapError_eq_ok, ensure_eq_ok, orError_eq_ok, validateName_eq_ok,
    pure_eq_ok, Bool.not_eq_true]
  constructor
  · rintro ⟨hrequest, hkey, hprincipal, hcapability, hcommand, hsize, hfingerprint, hmode,
      response, hresponse, hnull, hsequence, rfl⟩
    exact ⟨⟨hrequest, hkey, hprincipal, hcapability, hcommand, hsize, hfingerprint, hmode,
      hsequence⟩, response, hresponse, hnull, rfl⟩
  · rintro ⟨⟨hrequest, hkey, hprincipal, hcapability, hcommand, hsize, hfingerprint, hmode,
      hsequence⟩, response, hresponse, hnull, rfl⟩
    exact ⟨hrequest, hkey, hprincipal, hcapability, hcommand, hsize, hfingerprint, hmode,
      response, hresponse, hnull, hsequence, rfl⟩

/-- A receipt as a later call reads it from its row. -/
def OperatorCommandReceipt.reread (crates : Crates) (receipt : OperatorCommandReceipt) :
    Option OperatorCommandReceipt :=
  ((crates.fromStr receipt.response.render).filter (· ≠ .null)).map fun response =>
    { receipt with response }

theorem OperatorCommandReceipt.reread_eq_some {receipt recorded : OperatorCommandReceipt} :
    receipt.reread crates = some recorded ↔
      ∃ response, crates.fromStr receipt.response.render = some response ∧ response ≠ .null ∧
        recorded = { receipt with response } := by
  simp only [reread, Option.map_eq_some_iff, Option.filter_eq_some_iff, decide_eq_true_eq]
  constructor
  · rintro ⟨response, ⟨hresponse, hnull⟩, rfl⟩
    exact ⟨response, hresponse, hnull, rfl⟩
  · rintro ⟨response, hresponse, hnull, rfl⟩
    exact ⟨response, ⟨hresponse, hnull⟩, rfl⟩

/-- The row of an accepted admission decodes to its receipt. -/
theorem Accepts.decodes {receipt recorded : OperatorCommandReceipt}
    (h : Accepts call s s' receipt) :
    operatorReceiptFromRow crates
        (operatorRow call.context call.command call.response (nextOperatorSequence s)
          call.nowMs) = .ok recorded ↔
      receipt.reread crates = some recorded := by
  rw [operatorReceiptFromRow_eq_ok, h.receipt_eq, OperatorCommandReceipt.reread_eq_some]
  have hreadable : (operatorRow call.context call.command call.response
      (nextOperatorSequence s) call.nowMs).Readable :=
    ⟨h.valid.requestId, h.valid.idempotencyKey, h.valid.principal, h.admin, h.mutating,
      h.admissible.response.size, h.valid.commandFingerprint, rfl, Nat.succ_ne_zero _⟩
  exact and_iff_right hreadable

/-! ### Answers from the ledger -/

/-- The call repeats the recorded one: it is answered with the recorded receipt. -/
structure Op.Repeats (crates : Crates) (s : Store) (op : Op) (call : Admission)
    (recorded : OperatorCommandReceipt) : Prop where
  valid : call.context.Valid
  arguments : op.argumentsValid s = true
  receipt : recorded.Matches call.context call.command
  replayable : op.Replayable crates s recorded

private theorem commit_fst {α : Type} {a : α} {routine : Result (α × Store)}
    (h : routine = .ok (a, s')) : some (commit s routine).1 = some (.ok a) := by
  rw [h, commit_ok]

/-- A call that repeats the row of its key is answered with it. -/
theorem Op.Repeats.answer {recorded : OperatorCommandReceipt}
    (h : op.Repeats crates s call recorded) (hop : op.admission = some call)
    (hadmin : recorded.capability = .admin)
    (hkey : findOperatorByKey crates s call.context.idempotencyKey = .ok (some recorded)) :
    op.answer crates s = some (.ok (.replayed { recorded with replayed := true })) := by
  obtain ⟨hvalid, harguments, hmatches, hreplayable⟩ := h
  have hadmin' : call.context.capability = .admin := hmatches.capability ▸ hadmin
  cases op <;> cases hop
  case admitOperatorCommand context command response now =>
    have hmutating : command.isReadOnly = false := by simpa [Op.argumentsValid] using harguments
    exact commit_fst (admitOperatorCommandTx_eq_ok.mpr (.inr ⟨hmutating, hvalid, hadmin',
      .inl ⟨recorded, hkey, hmatches, trivial, rfl, rfl⟩⟩))
  case admitOperatorJobSubmission context kind payload now jobId =>
    exact commit_fst (admitOperatorJobSubmissionTx_eq_ok.mpr
      ⟨by simpa [Op.argumentsValid] using harguments, hvalid, hadmin',
        .inl ⟨recorded, hkey, hmatches, hreplayable, rfl, rfl⟩⟩)
  case admitOperatorQuarantine context attemptId reason response now =>
    exact commit_fst (admitOperatorQuarantineTx_eq_ok.mpr
      ⟨by simpa [Op.argumentsValid] using harguments, hvalid, hadmin',
        .inl ⟨recorded, hkey, hmatches, trivial, rfl, rfl⟩⟩)
  case admitOperatorRetry context attemptId reconstruction response now =>
    exact commit_fst (admitOperatorRetryTx_eq_ok.mpr
      ⟨by simpa [Op.argumentsValid] using harguments, hvalid, hadmin',
        .inl ⟨recorded, hkey, hmatches, trivial, rfl, rfl⟩⟩)
  case completeReleaseActivation context releaseId digest rollback response now =>
    exact commit_fst (completeReleaseActivationTx_eq_ok.mpr
      ⟨hvalid, hadmin', .inl ⟨recorded, hkey, hmatches, trivial, rfl, rfl⟩⟩)

/-- A read-only command is answered without the ledger. -/
theorem answer_readOnly (hop : op.admission = some call) (hvalid : call.context.Valid)
    (hread : call.command.isReadOnly = true) : op.answer crates s = some (.ok .readOnly) := by
  cases op <;> cases hop
  case admitOperatorCommand context command response now =>
    exact commit_fst (admitOperatorCommandTx_eq_ok.mpr (.inl ⟨hvalid, hread, rfl, rfl⟩))
  all_goals cases hread

/-- Under a spent key an admission writes nothing, and its answer comes from the row. -/
theorem answer_of_lookup (crates : Crates) (hs : s.queue.Keyed)
    (hop : op.admission = some call)
    (hrow : lookup OperatorCommandRow.idempotencyKey call.context.idempotencyKey
      s.operatorCommands = some row) :
    perform crates op s = s ∧ ∀ outcome, op.answer crates s = some (.ok outcome) ↔
      outcome = .readOnly ∧ call.command.isReadOnly = true ∧ call.context.Valid ∨
        ∃ recorded, operatorReceiptFromRow crates row = .ok recorded ∧
          op.Repeats crates s call recorded ∧
          outcome = .replayed { recorded with replayed := true } := by
  have hmpr : ∀ outcome,
      outcome = .readOnly ∧ call.command.isReadOnly = true ∧ call.context.Valid ∨
        (∃ recorded, operatorReceiptFromRow crates row = .ok recorded ∧
          op.Repeats crates s call recorded ∧
          outcome = .replayed { recorded with replayed := true }) →
      op.answer crates s = some (.ok outcome) := by
    rintro outcome (⟨rfl, hread, hvalid⟩ | ⟨recorded, hdecodes, hrepeats, rfl⟩)
    · exact answer_readOnly hop hvalid hread
    · obtain ⟨hreadable, response, -, -, rfl⟩ := operatorReceiptFromRow_eq_ok.mp hdecodes
      exact hrepeats.answer hop hreadable.capability
        (findOperatorByKey_eq_some.mpr ⟨row, hrow, hdecodes⟩)
  rcases admission_cases crates hs hop with ⟨⟨e, he⟩, hsame⟩ | ⟨outcome, ho, hends⟩
  · refine ⟨hsame, fun outcome => ⟨fun h => ?_, hmpr outcome⟩⟩
    rw [he] at h
    cases h
  · -- an acceptance would have found no row
    have hcases : perform crates op s = s ∧
        (outcome = .readOnly ∧ call.command.isReadOnly = true ∧ call.context.Valid ∨
          ∃ recorded, operatorReceiptFromRow crates row = .ok recorded ∧
            op.Repeats crates s call recorded ∧
            outcome = .replayed { recorded with replayed := true }) := by
      generalize perform crates op s = s' at hends
      cases hends with
      | readOnly hvalid hread => exact ⟨rfl, .inl ⟨rfl, hread, hvalid⟩⟩
      | replayed hvalid _ harguments hkey hmatches hreplayable =>
        obtain ⟨row', hrow', hdecodes⟩ := findOperatorByKey_eq_some.mp hkey
        cases hrow.symm.trans hrow'
        exact ⟨rfl, .inr ⟨_, hdecodes, ⟨hvalid, harguments, hmatches, hreplayable⟩, rfl⟩⟩
      | accepted _ haccepts =>
        obtain ⟨hmem, hkey⟩ := mem_of_lookup hrow
        exact absurd hkey (haccepts.admissible.key row hmem)
    refine ⟨hcases.1, fun outcome' => ⟨fun h => ?_, hmpr outcome'⟩⟩
    cases ho.symm.trans h
    exact hcases.2

/-! ### Keys over a run -/

/-- What the admissions rely on in every state: rows of the queue and of the ledger have their
own identities. -/
structure Store.LedgerKeyed (s : Store) : Prop where
  queue : s.queue.Keyed
  keys : (s.operatorCommands.map OperatorCommandRow.idempotencyKey).Nodup
  requests : (s.operatorCommands.map OperatorCommandRow.requestId).Nodup

theorem ledgerKeyed_fresh {config : StoreConfig} {now : Nat} {epoch : UuidV4}
    (h : Store.initialize config now epoch = .ok s) : s.LedgerKeyed := by
  refine ⟨initialize_keyed h, ?_, ?_⟩ <;>
    · obtain ⟨-, -, -, -, rfl⟩ := insertAuditTx_eq_ok.mp h
      exact List.nodup_nil

/-- The completion of a backup writes a response, and no key. -/
private theorem completeOperatorBackup_ledgerKeyed
    {response : Value} {backupId : String} {now : Nat} (hs : s.LedgerKeyed) :
    (perform crates (.completeOperatorBackup receipt response backupId now) s).LedgerKeyed := by
  rcases commit_cases s (completeOperatorBackupTx crates s receipt response backupId now)
    with ⟨u, s', h, hcommit⟩ | ⟨e, -, hcommit⟩
  · obtain ⟨hcolumn, -⟩ := completeOperatorBackupTx_eq_ok h
    rw [perform, Store.completeOperatorBackup, hcommit]
    exact ⟨completeOperatorBackupTx_queue h ▸ hs.queue,
      hcolumn OperatorCommandRow.idempotencyKey (fun _ _ => rfl) ▸ hs.keys,
      hcolumn OperatorCommandRow.requestId (fun _ _ => rfl) ▸ hs.requests⟩
  · rw [perform, Store.completeOperatorBackup, hcommit]
    exact hs

theorem perform_ledgerKeyed (crates : Crates) (op : Op) (hs : s.LedgerKeyed) :
    (perform crates op s).LedgerKeyed := by
  by_cases hop : op.completesBackup = true
  · cases op with
    | completeOperatorBackup => exact completeOperatorBackup_ledgerKeyed hs
    | _ => cases hop
  · rcases perform_ledger crates hs.queue (by simpa using hop) with
      hsame | ⟨call, receipt, -, -, haccepts⟩
    · exact ⟨perform_keyed op hs.queue, by rw [hsame]; exact hs.keys,
        by rw [hsame]; exact hs.requests⟩
    · refine ⟨perform_keyed op hs.queue, ?_, ?_⟩
      · rw [haccepts.ledger]
        exact nodup_map_append_singleton hs.keys haccepts.admissible.key
      · rw [haccepts.ledger]
        exact nodup_map_append_singleton hs.requests haccepts.admissible.request

/-- A ledger row that no completion of a backup can rewrite stays. -/
theorem mem_ledger_after {ops : List Op} (hs : s.LedgerKeyed)
    (hrow : row ∈ s.operatorCommands) (hops : ∀ op ∈ ops, op.completesBackup = false) :
    row ∈ (s.after crates ops).operatorCommands := by
  have hstep : ∀ (op : Op) (s : Store), s.LedgerKeyed ∧ row ∈ s.operatorCommands →
      op.completesBackup = false →
      (perform crates op s).LedgerKeyed ∧ row ∈ (perform crates op s).operatorCommands := by
    rintro op s ⟨hs, hrow⟩ hop
    refine ⟨perform_ledgerKeyed crates op hs, ?_⟩
    rcases perform_ledger crates hs.queue hop with
      hsame | ⟨call, receipt, -, -, haccepts⟩
    · rwa [hsame]
    · rw [haccepts.ledger]
      exact List.mem_append_left _ hrow
  exact (run_invariant_of_meets (C := fun (op : Op) _ => op.completesBackup = false) hstep ⟨hs, hrow⟩
    (meets_of_forall fun op hop _ => hops op hop)).2

/-- The call is accepted under this key. -/
def Op.spends (crates : Crates) (key : String) (op : Op) (s : Store) : Bool :=
  (op.accepts crates s).any (·.idempotencyKey == key)

theorem accepts_eq_some (hs : s.queue.Keyed)
    (h : op.accepts crates s = some receipt) :
    ∃ call, op.admission = some call ∧ Accepts call s (perform crates op s) receipt := by
  have hanswer : op.answer crates s = some (.ok (.accepted receipt)) := by
    rw [Op.accepts] at h
    split at h
    · cases h
      assumption
    · cases h
  have hadmission : op.admission.isSome = (op.answer crates s).isSome := by
    cases op <;> rfl
  obtain ⟨call, hcall⟩ := Option.isSome_iff_exists.mp (hadmission.trans (by rw [hanswer]; rfl))
  refine ⟨call, hcall, ?_⟩
  rcases admission_cases crates hs hcall with ⟨⟨e, he⟩, -⟩ | ⟨outcome, ho, hends⟩
  · rw [he] at hanswer
    cases hanswer
  · cases ho.symm.trans hanswer
    generalize perform crates op s = s' at hends ⊢
    cases hends with
    | accepted _ haccepts => exact haccepts

/-- A call that is not accepted changes nothing. -/
theorem perform_of_accepts_none (hs : s.queue.Keyed) (hop : op.admission = some call)
    (h : op.accepts crates s = none) : perform crates op s = s := by
  rcases admission_cases crates hs hop with ⟨-, hsame⟩ | ⟨outcome, ho, hends⟩
  · exact hsame
  · generalize perform crates op s = s' at hends
    cases hends with
    | readOnly => rfl
    | replayed => rfl
    | accepted => simp [Op.accepts, ho] at h

/-- A row with the key is in the ledger. -/
def Store.Spent (s : Store) (key : String) : Prop :=
  key ∈ s.operatorCommands.map OperatorCommandRow.idempotencyKey

theorem perform_spent {key : String} (op : Op) (hs : s.LedgerKeyed) (h : s.Spent key) :
    (perform crates op s).Spent key := by
  unfold Store.Spent at h ⊢
  by_cases hop : op.completesBackup = true
  · cases op with
    | completeOperatorBackup receipt response backupId now =>
      refine commit_induction (R := fun _ s' : Store =>
        key ∈ s'.operatorCommands.map OperatorCommandRow.idempotencyKey) h
        fun _ s' htx => ?_
      rwa [(completeOperatorBackupTx_eq_ok htx).1 _ fun _ _ => rfl]
    | _ => cases hop
  · rcases perform_ledger crates hs.queue (by simpa using hop) with
      hsame | ⟨call, receipt, -, -, haccepts⟩
    · rwa [hsame]
    · rw [haccepts.ledger, List.map_append]
      exact List.mem_append_left _ h

/-- A call accepted under the key spends it. -/
theorem spends_spent {key : String} (hs : s.LedgerKeyed) (h : op.spends crates key s = true) :
    ¬ s.Spent key ∧ (perform crates op s).Spent key := by
  obtain ⟨receipt, hreceipt, hkey⟩ := (Option.any_eq_true _ _).mp h
  obtain ⟨call, -, haccepts⟩ := accepts_eq_some hs.queue hreceipt
  have hkey' : call.context.idempotencyKey = key := by
    rw [haccepts.receipt_eq] at hkey
    exact beq_iff_eq.mp hkey
  constructor
  · intro hspent
    obtain ⟨row, hrow, hrowkey⟩ := List.mem_map.mp hspent
    exact haccepts.admissible.key row hrow (hrowkey.trans hkey'.symm)
  · rw [Store.Spent, haccepts.ledger, List.map_append]
    exact List.mem_append_right _ (List.mem_singleton.mpr hkey'.symm)

/-- **Admissions are idempotent.** In every run from a fresh store no two ledger rows share a
key or a request id, at most one call is accepted under a key, and an admission that is not
accepted changes nothing. After a call was accepted, every later admission with its key changes
nothing either. It returns the recorded receipt when it repeats that call and `readOnly` when it
asks for a read-only command; otherwise it fails. -/
theorem admissions_idempotent {config : StoreConfig} {now : Nat} {epoch : UuidV4} {s₀ : Store}
    (hinit : Store.initialize config now epoch = .ok s₀) (ops : List Op) :
    let s := s₀.after crates ops
    (s.operatorCommands.map OperatorCommandRow.idempotencyKey).Nodup ∧
      (s.operatorCommands.map OperatorCommandRow.requestId).Nodup ∧
      (∀ key, occurrences (perform crates) (Op.spends crates key) s₀ ops ≤ 1) ∧
      (∀ op call, op.admission = some call → op.accepts crates s = none →
        perform crates op s = s) ∧
      ∀ before op between receipt, ops = before ++ op :: between →
        op.accepts crates (s₀.after crates before) = some receipt →
        (∀ op' ∈ between, op'.completesBackup = false) →
        ∀ op' call', op'.admission = some call' →
          call'.context.idempotencyKey = receipt.idempotencyKey →
          perform crates op' s = s ∧ ∀ outcome, op'.answer crates s = some (.ok outcome) ↔
            outcome = .readOnly ∧ call'.command.isReadOnly = true ∧ call'.context.Valid ∨
              ∃ recorded, receipt.reread crates = some recorded ∧
                op'.Repeats crates s call' recorded ∧
                outcome = .replayed { recorded with replayed := true } := by
  intro s
  have hkeyed : ∀ ops', (s₀.after crates ops').LedgerKeyed := fun ops' =>
    run_invariant (P := Store.LedgerKeyed) (fun op _ => perform_ledgerKeyed crates op)
      (ledgerKeyed_fresh hinit) ops'
  refine ⟨(hkeyed ops).keys, (hkeyed ops).requests, fun key => ?_, fun op call hop hnone =>
    perform_of_accepts_none (hkeyed ops).queue hop hnone, ?_⟩
  · exact occurrences_le_one (P := Store.LedgerKeyed) (Q := fun s => s.Spent key)
      (fun op _ => perform_ledgerKeyed crates op) (fun op _ => perform_spent op)
      (fun op s hs hspent => by
        by_contra hspends
        exact (spends_spent hs (by simpa using hspends)).1 hspent)
      (fun op s hs hspends => (spends_spent hs hspends).2) (ledgerKeyed_fresh hinit) ops
  · rintro before op between receipt hops haccepts hbetween op' call' hop' hkey
    obtain ⟨call, -, haccepts⟩ := accepts_eq_some (hkeyed before).queue haccepts
    -- the row of the accepted call is still there
    have hafter : s = (perform crates op (s₀.after crates before)).after crates between := by
      simp only [s, hops, Store.after, run_append, run_cons]
    have hrow : operatorRow call.context call.command call.response
        (nextOperatorSequence (s₀.after crates before)) call.nowMs ∈ s.operatorCommands := by
      rw [hafter]
      refine mem_ledger_after (perform_ledgerKeyed crates op (hkeyed before)) ?_ hbetween
      rw [haccepts.ledger]
      exact List.mem_append_right _ (List.mem_singleton.mpr rfl)
    have hlookup := (lookup_eq_some (hkeyed ops).keys).mpr
      ⟨hrow, (hkey.trans (by rw [haccepts.receipt_eq]; rfl)).symm⟩
    have hanswer := answer_of_lookup crates (hkeyed ops).queue hop' hlookup
    simp only [haccepts.decodes] at hanswer
    exact hanswer

theorem sampleContext_valid : sampleContext.Valid :=
  ⟨by decide +kernel, by decide +kernel, by decide +kernel, by decide +kernel⟩

/-- The submission of a job by the operator of the sample deployment. -/
def sampleSubmission (kind : String) (jobId : UuidV4) : Op :=
  .admitOperatorJobSubmission sampleContext kind emptyParameters 1 jobId

/-- The receipt of that submission. -/
private def sampleReceipted : OperatorCommandReceipt :=
  operatorReceipt sampleContext .jobSubmit (jobSubmittedResponse (sampleUuid 1).text) 1 1

-- One evaluation for what follows, since each part would repeat the run.
private theorem sampleSubmission_evaluates :
    let s := sampleStore.after sampleCrates [sampleSubmission "job" (sampleUuid 1)]
    (sampleSubmission "job" (sampleUuid 1)).accepts sampleCrates sampleStore =
        some sampleReceipted ∧
      sampleReceipted.reread sampleCrates = some sampleReceipted ∧
      (sampleSubmission "job" (sampleUuid 2)).argumentsValid s = true ∧
      replayedSubmission s sampleReceipted "job" (hexDigest sampleCrates emptyParameters.render) =
        .ok () ∧
      (sampleSubmission "other" (sampleUuid 2)).answer sampleCrates s =
        some (.error (.conflict "idempotency key was reused with a different job payload")) := by
  decide +kernel

/-- A submission of the same job again is answered with the receipt of the first one. -/
theorem admissions_idempotent_submitted :
    (sampleSubmission "job" (sampleUuid 2)).answer sampleCrates
        (sampleStore.after sampleCrates [sampleSubmission "job" (sampleUuid 1)]) =
      some (.ok (.replayed { operatorReceipt sampleContext .jobSubmit
        (jobSubmittedResponse (sampleUuid 1).text) 1 1 with replayed := true })) := by
  obtain ⟨haccepts, hreread, harguments, hsubmission, -⟩ := sampleSubmission_evaluates
  have h := (@admissions_idempotent sampleCrates _ _ _ _ sampleStore_init
    [sampleSubmission "job" (sampleUuid 1)]).2.2.2.2 [] _ [] sampleReceipted rfl haccepts
      (by simp) (sampleSubmission "job" (sampleUuid 2)) _ rfl rfl
  refine (h.2 _).mpr (.inr ⟨_, hreread, ?_, rfl⟩)
  exact ⟨sampleContext_valid, harguments, ⟨rfl, rfl, rfl, rfl⟩, hsubmission⟩

/-- A submission of another job under the key of the first is refused, though principal,
capability, command and fingerprint are those of the first. -/
theorem other_submission_refused :
    (sampleSubmission "job" (sampleUuid 1)).accepts sampleCrates sampleStore =
        some (operatorReceipt sampleContext .jobSubmit
          (jobSubmittedResponse (sampleUuid 1).text) 1 1) ∧
      (sampleSubmission "other" (sampleUuid 2)).answer sampleCrates
          (sampleStore.after sampleCrates [sampleSubmission "job" (sampleUuid 1)]) =
        some (.error (.conflict "idempotency key was reused with a different job payload")) :=
  ⟨sampleSubmission_evaluates.1, sampleSubmission_evaluates.2.2.2.2⟩

end AscensionWatchdog
