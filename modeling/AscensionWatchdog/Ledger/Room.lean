import AscensionWatchdog.Ledger.Replay
import AscensionWatchdog.Storage.Identities

/-!
# Room in the ledger

The ledger never grows beyond its last bound, and the sequence numbers of its rows stay within its
length (`LedgerBounded`), so the audit detail of an admission always fits. What remains is room: a
well-formed command with a fresh key and a fresh request id is admitted when both tables have room
for it (`command_admitted`), and is refused when the ledger has none (`command_busy`).
-/

namespace AscensionWatchdog

open Foundation Foundation.Json

variable {crates : Crates} {s s' : Store}

/-! ### The audit detail of an admission -/

theorem isUuidV4_bounds {value : String} (h : isUuidV4 value = true) :
    value.utf8ByteSize ≤ 45 ∧ containsNul value = false ∧ isName value 128 = true := by
  unfold isUuidV4 at h
  split at h
  · next hparse => exact parseStr_isName hparse
  · cases h

private theorem commandText_bounds (command : OperatorCommand) :
    command.asStr.utf8ByteSize ≤ 16 ∧ containsNul command.asStr = false := by
  cases command <;> decide +kernel

private theorem capabilityText_bounds (capability : OperatorCapability) :
    capability.asStr.utf8ByteSize ≤ 5 ∧ containsNul capability.asStr = false := by
  cases capability <;> decide +kernel

/-- A suffix of the audit detail. -/
structure ShortSuffix (suffix : String) : Prop where
  size : suffix.utf8ByteSize ≤ 32
  noNul : containsNul suffix = false

theorem shortSuffix_empty : ShortSuffix "" :=
  ⟨by decide, by decide⟩

variable {context : OperatorCommandContext}

/-- The audit detail of an admission is within its bound. -/
theorem admissionDetail_bounds (command : OperatorCommand)
    {sequence : Nat} {suffix : String} (hcontext : context.Valid)
    (hsequence : sequence < 10 ^ 20) (hsuffix : ShortSuffix suffix) :
    (admissionDetail context command sequence ++ suffix).utf8ByteSize ≤ maxAuditDetailBytes ∧
      containsNul (admissionDetail context command sequence ++ suffix) = false := by
  have htext : admissionDetail context command sequence ++ suffix =
      "sequence=" ++ toString sequence ++ ";request_id=" ++ context.requestId ++ ";key=" ++
        context.idempotencyKey ++ ";" ++
        ("principal=" ++ context.principal ++ ";capability=" ++ context.capability.asStr ++ ";") ++
        ("command=" ++ command.asStr ++ ";fingerprint=" ++ context.commandFingerprint) ++
        suffix := rfl
  obtain ⟨hrequest, hrequestNul, -⟩ := isUuidV4_bounds hcontext.requestId
  obtain ⟨hcommand, hcommandNul⟩ := commandText_bounds command
  obtain ⟨hcapability, hcapabilityNul⟩ := capabilityText_bounds context.capability
  have hkey := isName_size hcontext.idempotencyKey
  have hprincipal := isName_size hcontext.principal
  have hfingerprint := isDigest_size hcontext.commandFingerprint
  have hend := hsuffix.size
  have hnumeral : (toString sequence).utf8ByteSize ≤ 20 :=
    utf8ByteSize_toString_le (by decide) hsequence
  rw [htext]
  constructor
  · have hlabels : "sequence=".utf8ByteSize = 9 ∧ ";request_id=".utf8ByteSize = 12 ∧
        ";key=".utf8ByteSize = 5 ∧ ";".utf8ByteSize = 1 ∧ "principal=".utf8ByteSize = 10 ∧
        ";capability=".utf8ByteSize = 12 ∧ "command=".utf8ByteSize = 8 ∧
        ";fingerprint=".utf8ByteSize = 13 := by
      decide +kernel
    simp only [String.utf8ByteSize_append, maxAuditDetailBytes]
    omega
  · have hlabels : containsNul "sequence=" = false ∧ containsNul ";request_id=" = false ∧
        containsNul ";key=" = false ∧ containsNul ";" = false ∧
        containsNul "principal=" = false ∧ containsNul ";capability=" = false ∧
        containsNul "command=" = false ∧ containsNul ";fingerprint=" = false := by
      decide +kernel
    simp only [containsNul_append, hlabels, hrequestNul, hcommandNul, hcapabilityNul,
      isName_noNul hcontext.idempotencyKey, isName_noNul hcontext.principal,
      isDigest_noNul hcontext.commandFingerprint, containsNul_numeral, hsuffix.noNul,
      Bool.or_self]

variable {now : Nat}

/-- What the record of an admitted command needs. -/
theorem recordOperatorCommandTx_of_room
    (command : OperatorCommand) (response : Value) {action suffix : String}
    (hcontext : context.Valid) (hsuffix : ShortSuffix suffix)
    (hkey : ∀ r ∈ s.operatorCommands, r.idempotencyKey ≠ context.idempotencyKey)
    (hrequest : ∀ r ∈ s.operatorCommands, r.requestId ≠ context.requestId)
    (haction : isName action 128 = true) (haudit : s.audit.length < auditLimit action)
    (hnow : now < 2 ^ 63) (hsequence : nextOperatorSequence s < 10 ^ 20) :
    ∃ outcome s', recordOperatorCommandTx s context command response action suffix now =
      .ok (outcome, s') ∧ s'.audit.length = s.audit.length + 1 := by
  have hdetail := admissionDetail_bounds command hcontext hsequence hsuffix
  have hunique : ¬ s.operatorCommands.any (·.requestId == context.requestId) ∧
      ¬ s.operatorCommands.any (·.idempotencyKey == context.idempotencyKey) := by
    simpa using ⟨hrequest, hkey⟩
  simp only [recordOperatorCommandTx, insertOperatorRow, bind_eq_ok, sqliteTimestamp_eq_ok,
    ensure_eq_ok, exists_const, pure_eq_ok, insertAuditTx_eq_ok]
  exact ⟨_, _, ⟨_, ⟨hnow, rfl⟩, _, ⟨hunique.1, hunique.2, rfl⟩, _,
    ⟨haction, hdetail, haudit, hnow, rfl⟩, rfl⟩, by simp⟩

/-! ### The ledger over a run -/

/-- The bounds of the ledger in every state. -/
structure LedgerBounded (s : Store) : Prop where
  queue : s.queue.Keyed
  ledger : s.operatorCommands.length ≤ maxOperatorCommands + reservedStopCommands
  sequences : ∀ n ∈ s.operatorCommands.map OperatorCommandRow.sequence,
    n ≤ s.operatorCommands.length

private theorem foldr_max_le {ns : List Nat} {bound : Nat} (h : ∀ n ∈ ns, n ≤ bound) :
    ns.foldr max 0 ≤ bound := by
  induction ns with
  | nil => exact Nat.zero_le _
  | cons n ns ih =>
    obtain ⟨hn, hns⟩ := List.forall_mem_cons.mp h
    exact max_le hn (ih hns)

theorem LedgerBounded.sequence_le (h : LedgerBounded s) :
    nextOperatorSequence s ≤ s.operatorCommands.length + 1 :=
  Nat.succ_le_succ (foldr_max_le h.sequences)

theorem LedgerBounded.sequence_lt (h : LedgerBounded s) : nextOperatorSequence s < 10 ^ 20 := by
  have hsequence := h.sequence_le
  have hledger := h.ledger
  have hbound : maxOperatorCommands + reservedStopCommands + 1 < 10 ^ 20 := by decide
  omega

theorem ledgerBounded_fresh {config : StoreConfig} {epoch : UuidV4}
    (h : Store.initialize config now epoch = .ok s) : LedgerBounded s := by
  have hkeyed := initialize_keyed h
  obtain ⟨-, -, -, -, rfl⟩ := insertAuditTx_eq_ok.mp h
  exact ⟨hkeyed, Nat.zero_le _, by simp⟩

theorem ledgerLimit_le (command : OperatorCommand) :
    ledgerLimit command ≤ maxOperatorCommands + reservedStopCommands := by
  unfold ledgerLimit
  split
  · exact le_rfl
  split
  · exact Nat.le_add_right _ _
  · decide

theorem Accepts.length_eq {call : Admission} {receipt : OperatorCommandReceipt}
    (h : Accepts call s s' receipt) :
    s'.operatorCommands.length = s.operatorCommands.length + 1 := by
  rw [h.ledger, List.length_append, List.length_singleton]

theorem Accepts.ledgerBounded {call : Admission} {receipt : OperatorCommandReceipt}
    (h : Accepts call s s' receipt) (hqueue : s'.queue.Keyed) (hs : LedgerBounded s) :
    LedgerBounded s' := by
  have hlength := h.length_eq
  have hcapacity := h.admissible.capacity
  have hlimit := ledgerLimit_le call.command
  refine ⟨hqueue, by omega, fun n hn => ?_⟩
  rw [h.ledger, List.map_append, List.mem_append] at hn
  rcases hn with hn | hn
  · have hle := hs.sequences n hn
    omega
  · rw [List.mem_singleton.mp hn, hlength]
    exact hs.sequence_le

theorem perform_ledgerBounded (crates : Crates) (op : Op) (hs : LedgerBounded s) :
    LedgerBounded (perform crates op s) := by
  have hqueue : (perform crates op s).queue.Keyed := perform_keyed op hs.queue
  by_cases hop : op.completesBackup = true
  · cases op with
    | completeOperatorBackup receipt response backupId now =>
      refine commit_induction (R := fun s s' => LedgerBounded s → LedgerBounded s') id
        (fun _ s' htx hs => ?_) hs
      have hsequences := (completeOperatorBackupTx_eq_ok htx).1 OperatorCommandRow.sequence
        fun _ _ => rfl
      have hlength : s'.operatorCommands.length = s.operatorCommands.length := by
        simpa using congrArg List.length hsequences
      refine ⟨completeOperatorBackupTx_queue htx ▸ hs.queue, hlength ▸ hs.ledger, ?_⟩
      rw [hsequences, hlength]
      exact hs.sequences
    | _ => cases hop
  · rcases perform_ledger crates hs.queue (by simpa using hop) with
      hsame | ⟨call, receipt, -, -, haccepts⟩
    · exact ⟨hqueue, hsame ▸ hs.ledger, hsame ▸ hs.sequences⟩
    · exact haccepts.ledgerBounded hqueue hs

/-! ### When a command is admitted -/

/-- A well-formed command is admitted when both tables have room for it. -/
theorem command_admitted (crates : Crates) {command : OperatorCommand}
    {response : Value} (hcommand : command.isReadOnly = false)
    (hcontext : context.Valid)
    (hadmin : context.capability = .admin) (hnow : now < 2 ^ 63)
    (hadmissible : Admissible s context command response)
    (haudit : s.audit.length < auditLimit (acceptedAction command))
    (hmode : (s.metadata .desiredMode).isSome) (hupdated : (s.metadata .updatedAtMs).isSome)
    (hsequence : nextOperatorSequence s < 10 ^ 20) :
    ∃ receipt s', admitOperatorCommandTx crates s context command response now =
        .ok (.accepted receipt, s') ∧ s'.audit.length = s.audit.length + 1 := by
  have haction : isName (acceptedAction command) 128 = true := by
    unfold acceptedAction
    split <;> decide +kernel
  obtain ⟨s₁, hs₁, hledger, haudit₁⟩ : ∃ s₁,
      applyDesiredModeTx s command.desiredMode now = .ok s₁ ∧
        s₁.operatorCommands = s.operatorCommands ∧ s₁.audit = s.audit := by
    cases command.desiredMode with
    | none => exact ⟨s, rfl, rfl, rfl⟩
    | some mode =>
      simp only [applyDesiredModeTx, bind_eq_ok, updateMetadataTx_eq_ok]
      exact ⟨_, ⟨_, ⟨hmode, rfl⟩, by simpa [upsertMetadataTx] using hupdated, rfl⟩, rfl, rfl⟩
  obtain ⟨outcome, s', hrecord, hlength⟩ := recordOperatorCommandTx_of_room (s := s₁)
    command response hcontext shortSuffix_empty
    (hledger ▸ hadmissible.key) (hledger ▸ hadmissible.request) haction (haudit₁ ▸ haudit) hnow
    (by rwa [nextOperatorSequence, hledger])
  obtain ⟨-, -, -, rfl, -⟩ := recordOperatorCommandTx_eq_ok hrecord
  exact ⟨_, s', admitOperatorCommandTx_eq_ok.mpr (.inr ⟨hcommand, hcontext, hadmin,
    .inr ⟨hadmissible, s₁, hs₁, hrecord⟩⟩), by rw [hlength, haudit₁]⟩

/-- A well-formed command for which the ledger has no room. -/
theorem command_busy (crates : Crates) {command : OperatorCommand}
    (response : Value) (now : Nat) (hcontext : context.Valid)
    (hadmin : context.capability = .admin) (hmutating : command.isReadOnly = false)
    (hkey : ∀ r ∈ s.operatorCommands, r.idempotencyKey ≠ context.idempotencyKey)
    (hrequest : ∀ r ∈ s.operatorCommands, r.requestId ≠ context.requestId)
    (hfull : ledgerLimit command ≤ s.operatorCommands.length) :
    admitOperatorCommandTx crates s context command response now =
      .error (.busy "operator command ledger retention bound is full") := by
  have hvalid : context.validate = .ok () := OperatorCommandContext.validate_eq_ok.mpr hcontext
  have hnone : findOperatorByKey crates s context.idempotencyKey = .ok none :=
    findOperatorByKey_eq_none.mpr hkey
  have hfresh : ensureFreshRequest crates s context.requestId = .ok () :=
    ensureFreshRequest_eq_ok.mpr hrequest
  have hbusy : enforceLedgerCapacity s command =
      .error (.busy "operator command ledger retention bound is full") :=
    if_neg (Nat.not_lt.mpr hfull)
  have hcapability : ensure (context.capability = .admin)
      (WatchdogError.unauthorized "read capability cannot admit a mutating operator command") =
      .ok () := ensure_eq_ok.mpr hadmin
  simp only [admitOperatorCommandTx, hvalid, hmutating, hcapability, hnone, hfresh, hbusy, bind,
    Except.bind, Bool.false_eq_true, if_false]

/-- A direct mode change only needs room in the audit table. -/
theorem setDesiredModeAt_of_room (crates : Crates) (mode : DesiredMode)
    (hmode : (s.metadata .desiredMode).isSome) (hupdated : (s.metadata .updatedAtMs).isSome)
    (haudit : s.audit.length < maxAuditRecords) (hnow : now < 2 ^ 63) :
    ∃ s', perform crates (.setDesiredModeAt mode now) s = s' ∧
      s'.operatorCommands = s.operatorCommands ∧ s'.audit.length = s.audit.length + 1 ∧
      s'.desiredMode = .ok mode := by
  have haction : isName "desired_mode_changed" 128 = true ∧
      auditLimit "desired_mode_changed" = maxAuditRecords := by decide +kernel
  have hdetail : (modeAsStr mode).utf8ByteSize ≤ maxAuditDetailBytes ∧
      containsNul (modeAsStr mode) = false := by
    cases mode <;> decide +kernel
  obtain ⟨s', hs', haudit'⟩ : ∃ s', setDesiredModeTx s mode now = .ok s' ∧
      s'.audit.length = s.audit.length + 1 := by
    simp only [setDesiredModeTx, bind_eq_ok, updateMetadataTx_eq_ok, insertAuditTx_eq_ok]
    refine ⟨_, ⟨_, ⟨hmode, rfl⟩, _, ⟨?_, rfl⟩, haction.1, hdetail, ?_, hnow, rfl⟩, ?_⟩
    · simpa [upsertMetadataTx] using hupdated
    · rw [haction.2]
      exact haudit
    · simp [upsertMetadataTx]
  obtain ⟨hledger, hmode', -⟩ := setDesiredModeTx_eq_ok hs'
  refine ⟨s', ?_, hledger, haudit', desiredMode_of_metadata hmode'⟩
  rw [perform, Store.setDesiredModeAt, hs']
  rfl

end AscensionWatchdog
