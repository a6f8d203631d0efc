import AscensionWatchdog.Ledger.Room
import Mathlib.Data.Fintype.Card

/-!
# The reserve for a stop

The ledger keeps one slot and the audit table one record for an operator's `stop`: no other
command may use them. They are spent by the stop that uses them, and that stop leaves the
deployment stopped. The reserve is kept as long as a deployment that spent it stays stopped
(`StopReserve`).

An operator command that starts a stopped deployment needs room below the reserve, but a direct
mode change does not look at the ledger. After the reserve was spent it starts a deployment that
no operator command can stop (`ReopensFullLedger`). This is the only way to lose the reserve:
`stop_admitted_iff`.
-/

namespace AscensionWatchdog

open Foundation Foundation.Json

variable {crates : Crates} {s s' : Store}

/-! ### The reserve over a run -/

/-- Every well-formed stop with a fresh key and a fresh request id is admitted, and stops the
deployment. -/
def StopAdmitted (crates : Crates) (s : Store) : Prop :=
  s.desiredMode ≠ .ok .stopped → ∀ context response now, context.Valid →
    context.capability = .admin → ValidResponse response → now < 2 ^ 63 →
    (∀ r ∈ s.operatorCommands, r.idempotencyKey ≠ context.idempotencyKey) →
    (∀ r ∈ s.operatorCommands, r.requestId ≠ context.requestId) →
    (∃ receipt, (s.admitOperatorCommand crates context .stop response now).1 =
      .ok (.accepted receipt)) ∧
      (s.admitOperatorCommand crates context .stop response now).2.desiredMode = .ok .stopped

/-- The reserve: both tables have room for a stop unless the deployment is stopped. -/
structure StopReserve (s : Store) : Prop extends LedgerBounded s where
  updatedAt : (s.metadata .updatedAtMs).isSome
  mode : ∃ mode, s.metadata .desiredMode = some (modeAsStr mode) ∧ (mode ≠ .stopped →
    s.operatorCommands.length ≤ maxOperatorCommands ∧ s.audit.length ≤ maxAuditRecords)

theorem StopReserve.stopAdmitted (h : StopReserve s) : StopAdmitted crates s := by
  intro hmode context response now hcontext hadmin hresponse hnow hkey hrequest
  obtain ⟨mode, hmetadata, hroom⟩ := h.mode
  have hrunning : mode ≠ .stopped := by
    rintro rfl
    exact hmode (desiredMode_of_metadata hmetadata)
  obtain ⟨hledger, haudit⟩ := hroom hrunning
  have hadmissible : Admissible s context .stop response :=
    ⟨hkey, hrequest, Nat.lt_succ_of_le hledger, hresponse⟩
  have hmutating : OperatorCommand.isReadOnly .stop = false := rfl
  obtain ⟨receipt, s', htx, -⟩ := command_admitted crates hmutating hcontext hadmin hnow hadmissible (Nat.lt_succ_of_le haudit) (by rw [hmetadata]; rfl)
    h.updatedAt h.sequence_lt
  have hcommit : s.admitOperatorCommand crates context .stop response now =
      (.ok (.accepted receipt), s') := commit_eq_ok.mpr htx
  rw [hcommit]
  refine ⟨⟨receipt, rfl⟩, ?_⟩
  obtain ⟨-, ⟨⟩, -⟩ | ⟨-, hadmits⟩ := admitOperatorCommandTx_eq_ok.mp htx
  obtain ⟨_, -, -, -, ⟨⟩, -⟩ | ⟨-, s₁, hs₁, hrecord⟩ := hadmits.answer
  obtain ⟨-, -, -, -, detail, rfl⟩ := recordOperatorCommandTx_eq_ok hrecord
  have hstopped : _ = some (modeAsStr .stopped) := (applyDesiredModeTx_effect hs₁).mode
  exact desiredMode_of_metadata hstopped

theorem stopReserve_fresh {config : StoreConfig} {now : Nat} {epoch : UuidV4}
    (h : Store.initialize config now epoch = .ok s) : StopReserve s := by
  have hbounded := ledgerBounded_fresh h
  obtain ⟨-, -, -, -, rfl⟩ := insertAuditTx_eq_ok.mp h
  exact ⟨hbounded, rfl, config.desiredMode, rfl,
    fun _ => ⟨Nat.zero_le _, by simp [maxAuditRecords]⟩⟩

/-- The record of an audit event under the name of an accepted stop: it takes the reserve of the
audit table without a stop. -/
def Op.recordsStop : Op → Bool
  | .auditEvent action _ _ => isEmergencyStopAuditAction action
  | _ => false

/-- A direct mode change that starts a deployment whose ledger has no room for a stop. -/
def ReopensFullLedger (op : Op) (s : Store) : Prop :=
  ∃ mode now, op = .setDesiredModeAt mode now ∧ mode ≠ .stopped ∧
    maxOperatorCommands < s.operatorCommands.length ∧ (s.setDesiredModeAt mode now).1 = .ok ()

theorem Steady.stopReserve (h : Steady s s') (hbounded : LedgerBounded s')
    (hs : StopReserve s) : StopReserve s' := by
  obtain ⟨mode, hmode, hroom⟩ := hs.mode
  refine ⟨hbounded, h.updatedAt hs.updatedAt, mode, h.mode.trans hmode, fun hrunning => ?_⟩
  obtain ⟨hledger, haudit⟩ := hroom hrunning
  have hgrown := h.audit
  exact ⟨h.ledger ▸ hledger, by omega⟩

/-- Every command but a stop stays below the reserve. -/
theorem Accepts.stopReserve {call : Admission} {receipt : OperatorCommandReceipt}
    (h : Accepts call s s' receipt) (hbounded : LedgerBounded s') (hs : StopReserve s) :
    StopReserve s' := by
  have hlength := h.length_eq
  have hcapacity := h.admissible.capacity
  obtain ⟨mode, hmode, -⟩ := hs.mode
  refine ⟨hbounded, h.updatedAt hs.updatedAt, ?_⟩
  by_cases hstop : call.command = .stop
  · refine ⟨.stopped, ?_, fun hrunning => absurd rfl hrunning⟩
    rw [h.mode, hstop]
    rfl
  · -- any other command: its bounds are those without the reserve
    have hordinary : ledgerLimit call.command ≤ maxOperatorCommands := by
      rw [ledgerLimit, if_neg hstop]
      split
      · exact le_rfl
      · decide
    have haudit := h.audit
    rw [if_neg hstop] at haudit
    have hroom : s'.operatorCommands.length ≤ maxOperatorCommands ∧
        s'.audit.length ≤ maxAuditRecords := ⟨by omega, haudit⟩
    cases hnew : call.command.desiredMode with
    | none => exact ⟨mode, by rw [h.mode, hnew]; exact hmode, fun _ => hroom⟩
    | some mode' => exact ⟨mode', by rw [h.mode, hnew]; rfl, fun _ => hroom⟩

/-- A direct mode change keeps the reserve, unless it starts a deployment that spent it. -/
private theorem setDesiredModeAt_stopReserve {mode : DesiredMode} {now : Nat}
    (hs : StopReserve s) (hop : ¬ ReopensFullLedger (.setDesiredModeAt mode now) s)
    (hbounded : LedgerBounded (perform crates (.setDesiredModeAt mode now) s)) :
    StopReserve (perform crates (.setDesiredModeAt mode now) s) := by
  rcases commit_cases s (do return ((), ← setDesiredModeTx s mode now)) with
    ⟨⟨⟩, s', htx, hcommit⟩ | ⟨e, -, hcommit⟩
  · have hperform : perform crates (.setDesiredModeAt mode now) s = s' := congrArg Prod.snd hcommit
    rw [hperform] at hbounded ⊢
    obtain ⟨s₁, hs₁, h⟩ := bind_eq_ok.mp htx
    cases pure_eq_ok.mp h
    obtain ⟨hledger, hmode, hupdated, haudit⟩ := setDesiredModeTx_eq_ok hs₁
    refine ⟨hbounded, hupdated, mode, hmode, fun hrunning => ⟨?_, haudit⟩⟩
    by_contra hfull
    rw [hledger] at hfull
    exact hop ⟨mode, now, rfl, hrunning, by omega, congrArg Prod.fst hcommit⟩
  · have hperform : perform crates (.setDesiredModeAt mode now) s = s := congrArg Prod.snd hcommit
    rwa [hperform]

private theorem restore_stopReserve {config : RestoreConfig} {now : Nat} {epoch : UuidV4}
    (hs : StopReserve s)
    (hbounded : LedgerBounded (perform crates (.restore config now epoch) s)) :
    StopReserve (perform crates (.restore config now epoch) s) := by
  rcases commit_cases s (do return ((), ← restoreTx s config now epoch)) with
    ⟨⟨⟩, s', htx, hcommit⟩ | ⟨e, -, hcommit⟩
  · have hperform : perform crates (.restore config now epoch) s = s' := congrArg Prod.snd hcommit
    rw [hperform] at hbounded ⊢
    obtain ⟨s₁, hs₁, h⟩ := bind_eq_ok.mp htx
    cases pure_eq_ok.mp h
    obtain ⟨-, hmode, hupdated⟩ := restoreTx_ledger hs₁
    exact ⟨hbounded, hupdated, .stopped, hmode, fun hrunning => absurd rfl hrunning⟩
  · have hperform : perform crates (.restore config now epoch) s = s := congrArg Prod.snd hcommit
    rwa [hperform]

private theorem completeOperatorBackup_stopReserve {receipt : OperatorCommandReceipt}
    {response : Value} {backupId : String} {now : Nat} (hs : StopReserve s)
    (hbounded : LedgerBounded
      (perform crates (.completeOperatorBackup receipt response backupId now) s)) :
    StopReserve (perform crates (.completeOperatorBackup receipt response backupId now) s) := by
  rcases commit_cases s (completeOperatorBackupTx crates s receipt response backupId now) with
    ⟨⟨⟩, s', htx, hcommit⟩ | ⟨e, -, hcommit⟩
  · have hperform : perform crates (.completeOperatorBackup receipt response backupId now) s = s' :=
      congrArg Prod.snd hcommit
    rw [hperform] at hbounded ⊢
    obtain ⟨hcolumn, hmetadata, haudit⟩ := completeOperatorBackupTx_eq_ok htx
    have hlength : s'.operatorCommands.length = s.operatorCommands.length := by
      simpa using congrArg List.length (hcolumn OperatorCommandRow.sequence fun _ _ => rfl)
    obtain ⟨mode, hmode, hroom⟩ := hs.mode
    refine ⟨hbounded, hmetadata ▸ hs.updatedAt, mode, hmetadata ▸ hmode, fun hrunning => ?_⟩
    obtain ⟨hledger, haudit₀⟩ := hroom hrunning
    exact ⟨hlength ▸ hledger, by omega⟩
  · have hperform : perform crates (.completeOperatorBackup receipt response backupId now) s = s :=
      congrArg Prod.snd hcommit
    rwa [hperform]

theorem perform_stopReserve {op : Op} (hs : StopReserve s) (hordinary : op.recordsStop = false)
    (hop : ¬ ReopensFullLedger op s) : StopReserve (perform crates op s) := by
  have hbounded : LedgerBounded (perform crates op s) := perform_ledgerBounded crates op hs.toLedgerBounded
  by_cases hquiet : op.isQuiet = true
  · exact (perform_quiet hs.queue hquiet).toSteady.stopReserve hbounded hs
  cases hcall : op.admission with
  | some call =>
    by_cases haccepts : op.accepts crates s = none
    · rwa [perform_of_accepts_none hs.queue hcall haccepts]
    · obtain ⟨receipt, hreceipt⟩ := Option.ne_none_iff_exists'.mp haccepts
      obtain ⟨call', -, haccepts⟩ := accepts_eq_some hs.queue hreceipt
      exact haccepts.stopReserve hbounded hs
  | none =>
    cases op with
    | setDesiredModeAt mode now => exact setDesiredModeAt_stopReserve hs hop hbounded
    | prepareReleaseActivation =>
      exact prepareReleaseActivation_reselects.toSteady.stopReserve hbounded hs
    | restore config now epoch => exact restore_stopReserve hs hbounded
    | completeOperatorBackup => exact completeOperatorBackup_stopReserve hs hbounded
    | auditEvent action detail now => simp_all [Op.isQuiet, Op.recordsStop]
    | _ => first | exact absurd rfl hquiet | exact absurd hcall (Option.some_ne_none _)

/-! ### Fresh keys and request ids -/

private theorem hexVal?_hexDigitChar : ∀ n < 16, hexVal? (hexDigitChar n) = some n := by
  decide

private theorem toNat_hexDigitChar_bounds :
    ∀ n < 16, 48 ≤ (hexDigitChar n).toNat ∧ (hexDigitChar n).toNat < 127 := by
  decide

/-- The digits of a numbered UUID. -/
def numberedDigits (i : Fin 4096) : List Nat :=
  List.replicate 12 0 ++ 4 :: List.replicate 16 0 ++ [i.val / 256, i.val / 16 % 16, i.val % 16]

/-- A UUID of version 4 for every number, in simple form. It also serves as a key. -/
def numberedText (i : Fin 4096) : String :=
  String.ofList ((numberedDigits i).map hexDigitChar)

private theorem numberedDigits_lt (i : Fin 4096) : ∀ d ∈ numberedDigits i, d < 16 := by
  have hi := i.isLt
  intro d hd
  simp only [numberedDigits, List.mem_append, List.mem_cons, List.mem_replicate,
    List.not_mem_nil, or_false] at hd
  omega

private theorem length_numberedDigits (i : Fin 4096) : (numberedDigits i).length = 32 :=
  rfl

private theorem mapM_hexDigitChar {ds : List Nat} (h : ∀ d ∈ ds, d < 16) :
    (ds.map hexDigitChar).mapM hexVal? = some ds := by
  induction ds with
  | nil => rfl
  | cons d ds ih =>
    obtain ⟨hd, hds⟩ := List.forall_mem_cons.mp h
    rw [List.map_cons, List.mapM_cons, hexVal?_hexDigitChar d hd, ih hds]
    rfl

theorem isUuidV4_numberedText (i : Fin 4096) : isUuidV4 (numberedText i) = true := by
  have hparse : Uuid.parseStr (numberedText i) = some (numberedDigits i) := by
    have hlength : ((numberedDigits i).map hexDigitChar).length = 32 := by
      rw [List.length_map, length_numberedDigits]
    rw [Uuid.parseStr, numberedText, String.toList_ofList, if_pos hlength, Option.bind_some]
    exact mapM_hexDigitChar (numberedDigits_lt i)
  rw [isUuidV4, hparse]
  rfl

theorem isName_numberedText (i : Fin 4096) : isName (numberedText i) 128 = true := by
  have hchars : ∀ c ∈ (numberedDigits i).map hexDigitChar, 48 ≤ c.toNat ∧ c.toNat < 127 := by
    intro c hc
    obtain ⟨d, hd, rfl⟩ := List.mem_map.mp hc
    exact toNat_hexDigitChar_bounds d (numberedDigits_lt i d hd)
  have htext : (numberedText i).toList = (numberedDigits i).map hexDigitChar :=
    String.toList_ofList
  have hsize : (numberedText i).utf8ByteSize = 32 := by
    refine (utf8ByteSize_of_ascii fun c hc => ?_).trans
      (by rw [List.length_map, length_numberedDigits])
    have hc := hchars c hc
    omega
  have hnul : containsNul (numberedText i) = false := containsNul_of_pos fun c hc => by
    have hc := hchars c (htext ▸ hc)
    omega
  have hcontrol : (numberedText i).toList.any isControl = false := by
    refine List.any_eq_false.mpr fun c hc => ?_
    have hc := hchars c (htext ▸ hc)
    simp only [isControl, Bool.or_eq_true, Bool.and_eq_true, decide_eq_true_eq]
    omega
  simp [isName, String.isEmpty, hsize, hnul, hcontrol]

theorem numberedText_injective : Function.Injective numberedText := by
  intro i j h
  have hdigit : ∀ n < 16, ∀ m < 16, hexDigitChar n = hexDigitChar m → n = m := by decide
  have hi := i.isLt
  have hj := j.isLt
  have hlists := String.ofList_injective h
  simp only [numberedDigits, List.map_append, List.append_cancel_left_eq, List.map_cons,
    List.map_nil, List.cons.injEq, and_true] at hlists
  obtain ⟨h₁, h₂, h₃⟩ := hlists
  have h₁ := hdigit _ (by omega) _ (by omega) h₁
  have h₂ := hdigit _ (by omega) _ (by omega) h₂
  have h₃ := hdigit _ (by omega) _ (by omega) h₃
  exact Fin.ext (by omega)

/-- A ledger within its bounds leaves numbered texts unused. -/
theorem exists_numberedText_notMem (texts : List String) (h : texts.length < 4096) :
    ∃ i, numberedText i ∉ texts := by
  have hcard : texts.toFinset.card < (Finset.univ.image numberedText).card := by
    rw [Finset.card_image_of_injective _ numberedText_injective, Finset.card_univ,
      Fintype.card_fin]
    exact lt_of_le_of_lt (List.toFinset_card_le texts) h
  obtain ⟨text, htext, hnot⟩ := Finset.exists_mem_notMem_of_card_lt_card hcard
  obtain ⟨i, -, rfl⟩ := Finset.mem_image.mp htext
  exact ⟨i, by simpa using hnot⟩

/-- A context of the sample operator with numbered identities. -/
def numberedContext (request key : Fin 4096) : OperatorCommandContext :=
  { sampleContext with requestId := numberedText request, idempotencyKey := numberedText key }

theorem numberedContext_valid (request key : Fin 4096) : (numberedContext request key).Valid where
  requestId := isUuidV4_numberedText request
  idempotencyKey := isName_numberedText key
  principal := sampleContext_valid.principal
  commandFingerprint := sampleContext_valid.commandFingerprint

theorem validResponse_true : ValidResponse (.bool true) :=
  ⟨by decide, by decide +kernel, by decide +kernel⟩

/-! ### The exact condition -/

/-- Once a deployment runs with a full ledger, there is a stop that is refused. -/
theorem ReopensFullLedger.not_stopAdmitted {op : Op} (h : ReopensFullLedger op s)
    (hs : StopReserve s) : ¬ StopAdmitted crates (perform crates op s) := by
  obtain ⟨mode, now, rfl, hrunning, hfull, hok⟩ := h
  rcases commit_cases s (do return ((), ← setDesiredModeTx s mode now)) with
    ⟨⟨⟩, s', htx, hcommit⟩ | ⟨e, -, hcommit⟩
  · have hperform : perform crates (.setDesiredModeAt mode now) s = s' := congrArg Prod.snd hcommit
    rw [hperform]
    obtain ⟨s₁, hs₁, h⟩ := bind_eq_ok.mp htx
    cases pure_eq_ok.mp h
    obtain ⟨hledger, hmode, -⟩ := setDesiredModeTx_eq_ok hs₁
    have hlength := hs.ledger
    have hbound : maxOperatorCommands + reservedStopCommands < 4096 := by decide
    obtain ⟨key, hkey⟩ := exists_numberedText_notMem
      (s'.operatorCommands.map OperatorCommandRow.idempotencyKey)
      (by rw [List.length_map, hledger]; omega)
    obtain ⟨request, hrequest⟩ := exists_numberedText_notMem
      (s'.operatorCommands.map OperatorCommandRow.requestId)
      (by rw [List.length_map, hledger]; omega)
    have hfreshKey : ∀ r ∈ s'.operatorCommands, r.idempotencyKey ≠ numberedText key :=
      fun r hr hkeyr => hkey (hkeyr ▸ List.mem_map_of_mem hr)
    have hfreshRequest : ∀ r ∈ s'.operatorCommands, r.requestId ≠ numberedText request :=
      fun r hr hrequestr => hrequest (hrequestr ▸ List.mem_map_of_mem hr)
    intro hadmitted
    have hmode' : s'.desiredMode ≠ .ok .stopped := by
      rw [desiredMode_of_metadata hmode]
      exact fun h => hrunning (Except.ok.inj h)
    obtain ⟨⟨receipt, hreceipt⟩, -⟩ := hadmitted hmode' (numberedContext request key) (.bool true) 1
      (numberedContext_valid request key) rfl validResponse_true (by decide) hfreshKey
      hfreshRequest
    have hmutating : OperatorCommand.isReadOnly .stop = false := rfl
    have hbusy := command_busy crates (.bool true) 1 (numberedContext_valid request key) rfl
      hmutating hfreshKey hfreshRequest (by rw [hledger]; exact hfull)
    rw [Store.admitOperatorCommand, hbusy] at hreceipt
    cases hreceipt
  · rw [Store.setDesiredModeAt, hcommit] at hok
    cases hok

/-- **The reserve for a stop.** In a run from a fresh store without audit events that pose as an
accepted stop, every well-formed stop is admitted in every state of the run exactly when no
direct mode change starts a deployment whose ledger is full. -/
theorem stop_admitted_iff {config : StoreConfig} {now : Nat} {epoch : UuidV4} {s₀ : Store}
    (hinit : Store.initialize config now epoch = .ok s₀) {ops : List Op}
    (hordinary : ∀ op ∈ ops, op.recordsStop = false) :
    Meets (perform crates) (fun op s => ¬ ReopensFullLedger op s) s₀ ops ↔
      ∀ before, before <+: ops → StopAdmitted crates (s₀.after crates before) := by
  refine meets_iff_throughout
    (I := fun ops s => (∀ op ∈ ops, op.recordsStop = false) ∧ StopReserve s)
    (fun _ _ hs => hs.2.stopAdmitted) (fun op ops s hs hop => ?_) (fun op ops s hs hop => ?_)
    ⟨hordinary, stopReserve_fresh hinit⟩
  · obtain ⟨hhead, htail⟩ := List.forall_mem_cons.mp hs.1
    exact ⟨htail, perform_stopReserve hs.2 hhead hop⟩
  · exact (not_not.mp hop).not_stopAdmitted hs.2

/-- A stop is admitted after a direct mode change of the fresh sample deployment. -/
theorem stop_admitted_iff_paused :
    StopAdmitted sampleCrates (sampleStore.after sampleCrates [.setDesiredModeAt .paused 1]) := by
  have hordinary : ∀ op ∈ [Op.setDesiredModeAt .paused 1], op.recordsStop = false := by decide
  refine (stop_admitted_iff sampleStore_init hordinary).mp ⟨?_, trivial⟩ _ List.prefix_rfl
  rintro ⟨mode, now, -, -, hfull, -⟩
  exact absurd hfull (by decide)

/-! ### A deployment that cannot be stopped -/

/-- The `n`-th command of the operator, with its own key and request id. -/
def numberedCommand (command : OperatorCommand) (n : Fin 4096) : Op :=
  .admitOperatorCommand (numberedContext n n) command (.bool true) 1

/-- The keys and the request ids of the ledger are those of the first `n` numbered commands. -/
structure Numbered (n : Nat) (s : Store) : Prop where
  reserve : StopReserve s
  keys : s.operatorCommands.map OperatorCommandRow.idempotencyKey =
    (List.range n).map fun i => numberedText (Fin.ofNat 4096 i)
  requests : s.operatorCommands.map OperatorCommandRow.requestId =
    (List.range n).map fun i => numberedText (Fin.ofNat 4096 i)
  audit : s.audit.length = n + 1

theorem Numbered.length_eq {n : Nat} (h : Numbered n s) : s.operatorCommands.length = n := by
  simpa using congrArg List.length h.keys

/-- The next numbered identity is fresh. -/
private theorem numberedText_fresh {n : Nat} (hn : n < 4096) {texts : List String}
    (h : texts = (List.range n).map fun i => numberedText (Fin.ofNat 4096 i)) :
    numberedText (Fin.ofNat 4096 n) ∉ texts := by
  rw [h]
  intro hmem
  obtain ⟨i, hi, heq⟩ := List.mem_map.mp hmem
  have hlt : i < n := List.mem_range.mp hi
  have hval := congrArg Fin.val (numberedText_injective heq)
  simp only [Fin.val_ofNat, Nat.mod_eq_of_lt hn, Nat.mod_eq_of_lt (hlt.trans hn)] at hval
  omega

theorem Numbered.fresh {n : Nat} (h : Numbered n s) (hn : n < 4096) :
    (∀ r ∈ s.operatorCommands, r.idempotencyKey ≠ numberedText (Fin.ofNat 4096 n)) ∧
      ∀ r ∈ s.operatorCommands, r.requestId ≠ numberedText (Fin.ofNat 4096 n) :=
  ⟨fun _ hr hkey => numberedText_fresh hn h.keys (hkey ▸ List.mem_map_of_mem hr),
    fun _ hr hrequest => numberedText_fresh hn h.requests (hrequest ▸ List.mem_map_of_mem hr)⟩

/-- A lifecycle command is admitted as long as both tables have room. -/
theorem Numbered.admitted {n : Nat} {mode : DesiredMode} (h : Numbered n s)
    (crates : Crates) (command : OperatorCommand) (hcommand : command.desiredMode = some mode)
    (hledger : n < ledgerLimit command) (haudit : n + 1 < auditLimit (acceptedAction command))
    (hn : n < 4096) :
    Numbered (n + 1) (perform crates (numberedCommand command (Fin.ofNat 4096 n)) s) ∧
      (perform crates (numberedCommand command (Fin.ofNat 4096 n)) s).metadata .desiredMode =
        some (modeAsStr mode) := by
  have hlength := h.length_eq
  have hkeyed := h.reserve.queue
  have hmutating : command.isReadOnly = false := by
    cases command <;> first | rfl | cases hcommand
  obtain ⟨hkey, hrequest⟩ := h.fresh hn
  have hadmissible : Admissible s (numberedContext (Fin.ofNat 4096 n) (Fin.ofNat 4096 n)) command
      (.bool true) := ⟨hkey, hrequest, by omega, validResponse_true⟩
  obtain ⟨mode₀, hmode₀, -⟩ := h.reserve.mode
  have hnow : 1 < 2 ^ 63 := by decide
  obtain ⟨receipt, s', htx, haudit'⟩ := command_admitted crates hmutating
    (numberedContext_valid _ _) rfl hnow hadmissible (by rw [h.audit]; exact haudit)
    (by rw [hmode₀]; rfl) h.reserve.updatedAt h.reserve.sequence_lt
  have hcommit : s.admitOperatorCommand crates
      (numberedContext (Fin.ofNat 4096 n) (Fin.ofNat 4096 n)) command (.bool true) 1 =
        (.ok (.accepted receipt), s') := commit_eq_ok.mpr htx
  have hperform : perform crates
      (numberedCommand command (Fin.ofNat 4096 n)) s = s' := congrArg Prod.snd hcommit
  have haccepted : (numberedCommand command (Fin.ofNat 4096 n)).accepts crates s =
      some receipt := by
    have hanswer : (numberedCommand command (Fin.ofNat 4096 n)).answer crates s =
        some (.ok (.accepted receipt)) := congrArg (some ∘ Prod.fst) hcommit
    rw [Op.accepts, hanswer]
  obtain ⟨call, hcall, haccepts⟩ := accepts_eq_some hkeyed haccepted
  cases hcall
  have hbounded := perform_ledgerBounded crates
    (numberedCommand command (Fin.ofNat 4096 n)) h.reserve.toLedgerBounded
  rw [hperform] at haccepts hbounded ⊢
  refine ⟨⟨haccepts.stopReserve hbounded h.reserve, ?_, ?_, by rw [haudit', h.audit]⟩, ?_⟩
  · rw [haccepts.ledger, List.map_append, h.keys, List.range_succ, List.map_append]
    rfl
  · rw [haccepts.ledger, List.map_append, h.requests, List.range_succ, List.map_append]
    rfl
  · rw [haccepts.mode, hcommand]
    rfl

/-- `n` start commands. -/
def numberedStarts (n : Nat) : List Op :=
  (List.range n).map fun i => numberedCommand .start (Fin.ofNat 4096 i)

theorem numbered_starts (crates : Crates) {n : Nat} (hn : n ≤ maxOperatorCommands) :
    Numbered n (sampleStore.after crates (numberedStarts n)) := by
  induction n with
  | zero => exact ⟨stopReserve_fresh sampleStore_init, rfl, rfl, rfl⟩
  | succ n ih =>
    have hlimits : maxOperatorCommands ≤ ledgerLimit .start ∧
        maxOperatorCommands + 1 < auditLimit (acceptedAction .start) ∧
        maxOperatorCommands < 4096 := by decide
    have hstep := (ih (by omega)).admitted crates .start rfl (by omega) (by omega) (by omega)
    have hops : numberedStarts (n + 1) =
        numberedStarts n ++ [numberedCommand .start (Fin.ofNat 4096 n)] := by
      simp only [numberedStarts, List.range_succ, List.map_append, List.map_cons, List.map_nil]
    rw [hops, after_concat]
    exact hstep.1

/-- The sample deployment with a full ledger: 256 starts and the stop that spends the reserve. -/
def spentReserve : List Op :=
  numberedStarts maxOperatorCommands ++
    [numberedCommand .stop (Fin.ofNat 4096 maxOperatorCommands)]

theorem numbered_spentReserve (crates : Crates) :
    Numbered (maxOperatorCommands + 1) (sampleStore.after crates spentReserve) ∧
      (sampleStore.after crates spentReserve).metadata .desiredMode =
        some (modeAsStr .stopped) := by
  have hstarts := numbered_starts crates (le_refl maxOperatorCommands)
  rw [spentReserve, after_concat]
  generalize sampleStore.after crates (numberedStarts maxOperatorCommands) = s at hstarts ⊢
  have hlimits : maxOperatorCommands < ledgerLimit .stop ∧
      maxOperatorCommands + 1 < auditLimit (acceptedAction .stop) ∧
      maxOperatorCommands < 4096 := by decide
  generalize maxOperatorCommands = n at hstarts hlimits ⊢
  exact hstarts.admitted crates .stop rfl hlimits.1 hlimits.2.1 hlimits.2.2

/-- The context of the `n`-th command. -/
def contextAt (n : Nat) : OperatorCommandContext :=
  numberedContext (Fin.ofNat 4096 n) (Fin.ofNat 4096 n)

/-- A stop with fresh identities is refused by a full ledger. -/
private theorem Numbered.stop_busy {n : Nat} (h : Numbered n s) (crates : Crates) (hn : n < 4096)
    (hfull : ledgerLimit .stop ≤ n) (hledger : s'.operatorCommands = s.operatorCommands) :
    (∀ r ∈ s'.operatorCommands, r.idempotencyKey ≠ (contextAt n).idempotencyKey) ∧
      (∀ r ∈ s'.operatorCommands, r.requestId ≠ (contextAt n).requestId) ∧
      (s'.admitOperatorCommand crates (contextAt n) .stop (.bool true) 1).1 =
        .error (.busy "operator command ledger retention bound is full") := by
  obtain ⟨hkey, hrequest⟩ := h.fresh hn
  rw [← hledger] at hkey hrequest
  have hvalid : (contextAt n).Valid := numberedContext_valid _ _
  have hmutating : OperatorCommand.isReadOnly .stop = false := rfl
  have hbusy := command_busy crates (.bool true) 1 hvalid rfl hmutating hkey hrequest
    (by rwa [hledger, h.length_eq])
  refine ⟨hkey, hrequest, ?_⟩
  rw [Store.admitOperatorCommand, hbusy, commit_error]

/-- After the reserve was spent, a direct mode change starts the deployment again, and the next
well-formed stop is refused. -/
theorem stop_refused_after_direct_start :
    let s := sampleStore.after sampleCrates (spentReserve ++ [.setDesiredModeAt .running 1])
    s.desiredMode = .ok .running ∧ (contextAt (maxOperatorCommands + 1)).Valid ∧
      (∀ r ∈ s.operatorCommands,
        r.idempotencyKey ≠ (contextAt (maxOperatorCommands + 1)).idempotencyKey) ∧
      (∀ r ∈ s.operatorCommands,
        r.requestId ≠ (contextAt (maxOperatorCommands + 1)).requestId) ∧
      (s.admitOperatorCommand sampleCrates (contextAt (maxOperatorCommands + 1)) .stop
        (.bool true) 1).1 =
        .error (.busy "operator command ledger retention bound is full") := by
  have hspent := (numbered_spentReserve sampleCrates).1
  rw [after_concat]
  generalize sampleStore.after sampleCrates spentReserve = s₁ at hspent ⊢
  obtain ⟨mode, hmode₁, -⟩ := hspent.reserve.mode
  have haudit : s₁.audit.length < maxAuditRecords := by
    rw [hspent.audit]
    decide
  have hnow : 1 < 2 ^ 63 := by decide
  obtain ⟨s₂, hs₂, hledger, -, hmode⟩ := setDesiredModeAt_of_room sampleCrates .running
    (by rw [hmode₁]; rfl) hspent.reserve.updatedAt haudit hnow
  have hbusy := hspent.stop_busy sampleCrates (by decide) (by decide) hledger
  rw [hs₂]
  exact ⟨hmode, numberedContext_valid _ _, hbusy⟩

end AscensionWatchdog
