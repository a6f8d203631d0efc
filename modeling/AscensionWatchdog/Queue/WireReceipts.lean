import AscensionWatchdog.Foundation.JsonSize
import AscensionWatchdog.Queue.Loadable
import AscensionWatchdog.Supervisor.Protocol

/-!
# The wire and the store on the same fields

A handoff crosses two stacks of checks that were written apart: the frames of the wire protocol
and the transactions of the store. What the store claims always passes on the wire, because every
check of the store on a tuple is at least as strict. For the receipts that come back the same
strictness is a fault: the wire bounds `terminal_ref` and refuses **ASCII** control characters,
the store refuses every Unicode control character. A receipt with a character of `U+0080..U+009F`
in its reference passes on the wire and cannot be stored.

`wire_receipt_accepted_iff` is the whole comparison, in every reachable store. Besides the
reference, a completion needs room in the audit log and a time that fits the column.
-/

namespace AscensionWatchdog

open Foundation Foundation.Json

variable {crates : Crates}

/-! ### Completion times -/

/-- Only a completed job has a completion time. -/
def JobView.Uncompleted (v : JobView) : Prop :=
  ∀ j ∈ v.row, j.status ≠ .completed → j.completedAtMs = none

section Uncompleted

variable {v : JobView} {w : JobWrite} {bound : Nat} {op : Op}

private theorem JobView.Uncompleted.rewrite (hv : v.Uncompleted) (hnew : w.newJob = none)
    (hjob : ∀ j ∈ v.row, (j.status ≠ .completed → j.completedAtMs = none) →
      w.jobSel j = true → (w.job j).status ≠ .completed → (w.job j).completedAtMs = none) :
    (v.apply w).Uncompleted := by
  intro j' hj'
  obtain ⟨j, hrow, rfl⟩ := JobView.exists_row_of_apply hnew hj'
  by_cases hsel : w.jobSel j = true
  · rw [if_pos hsel]
    exact hjob j hrow (hv j hrow) hsel
  · rw [if_neg hsel]
    exact hv j hrow

theorem JobView.Uncompleted.apply (hv : v.Uncompleted) (hw : Writes crates bound op v w) :
    (v.apply w).Uncompleted := by
  cases hw with
  | submit _ hrow =>
    intro j hj _
    simp only [JobView.apply, hrow, submitWrite, Option.map_none, Option.none_or] at hj
    cases hj
    rfl
  | complete => exact hv.rewrite rfl fun j _ _ _ hstatus => absurd rfl hstatus
  | dispatch | admission | acknowledge => exact hv.rewrite rfl fun j _ _ hsel => by cases hsel
  | @terminate _ _ receipt _ _ j _ _ _ _ hloaded _ _ _ hadmissible =>
    refine hv.rewrite rfl fun j' hj hnone _ => ?_
    obtain rfl : j = j' := Option.some.inj (hloaded.row.symm.trans hj)
    have hopen : j.status ≠ .completed := by
      intro hstatus
      simp [terminallyAdmissible, hstatus] at hadmissible
    simp only [terminateWrite, JobRow.terminate]
    cases receipt.status with
    | completed => exact fun hstatus => absurd rfl hstatus
    | failed => exact fun _ => hnone hopen
  | _ =>
    -- the selected job is not completed, and its completion time is kept
    refine hv.rewrite rfl fun j _ hnone hsel _ => hnone fun hstatus => ?_
    simp [claimWrite, claimHandoffWrite, failWrite, interruptWrite, quarantineWrite, retryWrite,
      restoreWrite, JobRow.restorable, hstatus] at hsel

/-- In every reachable store only completed jobs have a completion time. -/
theorem after_uncompleted {config : StoreConfig} {now : Nat} {epoch : UuidV4} {s₀ : Store}
    (hinit : Store.initialize config now epoch = .ok s₀) (ops : List Op) (i : String) :
    ((s₀.after crates ops).queue.view i).Uncompleted := by
  refine after_view_invariant (fun _ _ _ _ _ hv hw => hv.apply hw) (initialize_keyed hinit) ?_ ops
  rw [initialize_queue hinit]
  intro row hrow
  exact (Option.not_mem_none row hrow).elim

end Uncompleted

/-! ### Field checks -/

variable {value : String}

/-- The store's check of a name is at least as strict as the wire's check of a durable id. -/
theorem isExistingId_of_isName (h : isName value 128 = true) :
    isExistingId value = true := by
  simp only [isName, Bool.and_eq_true, Bool.not_eq_true', List.any_eq_false] at h
  obtain ⟨⟨⟨hne, hsize⟩, -⟩, hcontrol⟩ := h
  have hascii : value.toList.any (fun c => c.toNat < 0x20 || c.toNat == 0x7f) = false := by
    refine List.any_eq_false.mpr fun c hc => ?_
    have hc := hcontrol c hc
    simp only [isControl, Bool.or_eq_true, Bool.and_eq_true, decide_eq_true_eq] at hc
    simp only [Bool.or_eq_true, decide_eq_true_eq, beq_iff_eq]
    omega
  simp only [isExistingId, hne, hsize, hascii, Bool.not_false, Bool.and_self]

/-- A reference of the wire is a name of the store exactly when it has no character of
`U+0080..U+009F`. -/
theorem isName_of_isReference (h : isReference value = true) :
    isName value maxTerminalRefBytes = true ↔
      ∀ c ∈ value.toList, ¬ (0x80 ≤ c.toNat ∧ c.toNat ≤ 0x9f) := by
  simp only [isReference, Bool.and_eq_true, Bool.not_eq_true', List.any_eq_false, Bool.or_eq_true,
    decide_eq_true_eq, beq_iff_eq] at h
  obtain ⟨⟨hne, hsize⟩, hascii⟩ := h
  have hnul : containsNul value = false := containsNul_of_pos fun c hc => by
    have hc := hascii c hc
    omega
  simp only [isName, hne, hnul, Bool.not_false, Bool.true_and, Bool.and_true, Bool.and_eq_true,
    decide_eq_true_eq, maxTerminalRefBytes, hsize, true_and, Bool.not_eq_true', List.any_eq_false,
    isControl, Bool.or_eq_true]
  refine forall₂_congr fun c hc => ?_
  have hc := hascii c hc
  omega

theorem isProtocolUuid_of_canonical (h : isCanonicalUuid4 value = true) :
    isProtocolUuid value = true := by
  rw [isCanonicalUuid4] at h
  rw [isProtocolUuid]
  cases hparse : Uuid.parseStr value with
  | none =>
    rw [hparse] at h
    cases h
  | some digits =>
    rw [hparse] at h
    simp only [Bool.and_eq_true] at h ⊢
    exact ⟨h.1.1, h.2⟩

theorem isName_of_canonical (h : isCanonicalUuid4 value = true) :
    isName value 128 = true := by
  unfold isCanonicalUuid4 at h
  split at h
  · cases h
  next digits hparse => exact (parseStr_isName hparse).2.2

variable {tuple : WorkerHandoffTuple}

/-- A tuple that the store accepts, with an attempt number of 32 bits, passes on the wire. -/
theorem isWire_of_validateTuple (h : validateTuple tuple = .ok ())
    (hnumber : tuple.attemptNumber < 2 ^ 32) : tuple.isWire = true := by
  simp only [validateTuple, validateWorkerIdentity, bind_eq_ok, exists_const, ensure_eq_ok,
    forEach_eq_ok, List.forall_mem_cons, validateUuid4_eq_ok, validateName_eq_ok,
    validateDigestValue_eq_ok] at h
  obtain ⟨⟨hhandoff, hattempt, hrun, hepisode, htrajectory, -⟩, hdeployment, hjob, hpositive, howner,
    hprofile, -, hpayload, hdistinct⟩ := h
  have hnumber : isWireSequence tuple.attemptNumber = true := by
    have hbound : tuple.attemptNumber ≤ maxWorkerWireInteger := by
      unfold maxWorkerWireInteger
      omega
    rw [isWireSequence, Bool.and_eq_true]
    exact ⟨bne_iff_ne.mpr hpositive, decide_eq_true hbound⟩
  have hnodup : [tuple.runId, tuple.episodeId, tuple.trajectoryId, tuple.handoffId].Nodup := by
    simp only [List.nodup_cons, List.mem_cons, List.not_mem_nil, or_false, not_or, not_false_eq_true,
      List.nodup_nil, and_true] at hdistinct ⊢
    grind
  simp only [WorkerHandoffTuple.isWire, isProtocolUuid_of_canonical hhandoff,
    hdeployment, isExistingId_of_isName hjob, isExistingId_of_isName (isName_of_canonical hattempt),
    hnumber, howner, hprofile, isProtocolUuid_of_canonical hrun,
    isProtocolUuid_of_canonical hepisode, isProtocolUuid_of_canonical htrajectory, hpayload,
    hnodup, beq_self_eq_true, decide_true, Bool.and_self]

/-! ### Handoffs that are read -/

theorem HandoffRow.Readable.identified {h : HandoffRow} {terminal : Option WorkerTerminalRecord}
    (hh : h.Readable crates terminal) : h.Identified :=
  (validateHandoffIdentity_eq_ok hh.identity).1

variable {handoff : WorkerHandoff} {handoffId : String}

/-- A handoff that the store has returned is the row that a transition of its tuple loads. -/
theorem requireHandoffTx_of_workerHandoff {s : Store}
    (h : s.workerHandoff crates handoffId = .ok (some handoff)) :
    ∃ raw, requireHandoffTx crates s handoff.row.tuple = .ok raw ∧ raw.row = handoff.row ∧
      s.maxPayloadBytes < 2 ^ 63 := by
  replace h := bind_passed h
  unfold loadHandoff at h
  cases hlookup : lookup HandoffRow.handoffId handoffId s.handoffs with
  | none =>
    rw [hlookup] at h
    cases h
  | some row =>
    rw [hlookup] at h
    obtain ⟨raw, hraw, h⟩ := bind_eq_ok.mp h
    obtain ⟨handoff', hhandoff, h⟩ := bind_eq_ok.mp h
    obtain ⟨job, hjob, hhandoff⟩ := bind_eq_ok.mp hhandoff
    cases pure_eq_ok.mp h
    cases pure_eq_ok.mp hhandoff
    obtain ⟨-, -, hbound, -⟩ := (consistentJob_rowsLoad hraw).mp ⟨job, hjob⟩
    have hrow := rawHandoffFromRow_row hraw
    have hid : raw.row.handoffId = handoffId := hrow ▸ (mem_of_lookup hlookup).2
    refine ⟨raw, ?_, rfl, hbound⟩
    have hfound : lookup HandoffRow.handoffId raw.row.tuple.handoffId s.handoffs = some row := by
      rw [← hlookup, ← hid]
      rfl
    unfold requireHandoffTx
    rw [hfound]
    exact bind_eq_ok.mpr ⟨raw, hraw, bind_eq_ok.mpr ⟨job, hjob, rfl⟩⟩

/-! ### Receipts that fit -/

private theorem isWireSequence_size {n : Nat} (h : n ≤ maxWorkerWireInteger) :
    (toString n).utf8ByteSize ≤ 16 := by
  refine utf8ByteSize_toString_le (by decide) ?_
  unfold maxWorkerWireInteger at h
  omega

/-- The compact text of a receipt that the store accepts fits its column. -/
theorem compactTerminalResult_of_valid {receipt : WorkerTerminalReceipt}
    (h : validateTerminalReceipt receipt = .ok ()) :
    ∃ text digest, compactTerminalResult crates receipt = .ok (text, digest) := by
  obtain ⟨⟨⟩, hname, h⟩ := bind_eq_ok.mp h
  obtain ⟨⟨⟩, hdigest, h⟩ := bind_eq_ok.mp h
  have href := isName_size (validateName_eq_ok.mp hname)
  have hresult := isDigest_size (validateDigestValue_eq_ok.mp hdigest)
  have hsequence := isWireSequence_size (ensure_eq_ok.mp h)
  have hstatus : receipt.status.asStr.utf8ByteSize ≤ 9 := by
    cases receipt.status <;> decide
  refine ⟨_, _, ensure_bind_eq_ok.mpr ⟨(Value.utf8ByteSize_render_le _).trans ?_, rfl⟩⟩
  have hkeys : "checkpoint_sequence".utf8ByteSize = 19 ∧ "result_digest".utf8ByteSize = 13 ∧
      "status".utf8ByteSize = 6 ∧ "terminal_ref".utf8ByteSize = 12 := by
    decide +kernel
  simp only [compactTerminalValue, Value.ofFields, Fields.ofList, Value.ofNat, Value.maxBytes,
    Fields.maxBytes, hkeys, maxWorkerResultBytes, maxTerminalRefBytes] at href ⊢
  omega

/-- The bound of the wire on the encoded receipt. -/
def maxTerminalBytes : Nat :=
  16 * 1024

private theorem isProtocolUuid_size (h : isProtocolUuid value = true) :
    value.utf8ByteSize ≤ 45 := by
  unfold isProtocolUuid at h
  split at h
  · cases h
  next digits hparse => exact (parseStr_isName hparse).1

private theorem isExistingId_size (h : isExistingId value = true) :
    value.utf8ByteSize ≤ 128 := by
  simp only [isExistingId, Bool.and_eq_true, decide_eq_true_eq] at h
  exact h.1.2

/-- The bounds on its fields keep the encoded receipt within the bound of the wire, so that
`TerminalReceipt.isWire` need not ask for it. The receipt is encoded with the fields of the
terminal digest. -/
theorem encodedReceipt_le {receipt : TerminalReceipt}
    (htuple : tuple.isWire = true) (h : receipt.isWire tuple = true) :
    (terminalMaterial receipt.tuple (storageReceipt receipt)).render.utf8ByteSize ≤
      maxTerminalBytes := by
  simp only [TerminalReceipt.isWire, Bool.and_eq_true, beq_iff_eq, decide_eq_true_eq] at h
  obtain ⟨⟨⟨rfl, href⟩, hcheckpoint⟩, hresult⟩ := h
  simp only [WorkerHandoffTuple.isWire, Bool.and_eq_true, beq_iff_eq, decide_eq_true_eq] at htuple
  obtain ⟨⟨⟨⟨⟨⟨⟨⟨⟨⟨⟨hhandoff, hdeployment⟩, hjob⟩, hattempt⟩, hnumber⟩, howner⟩, hprofile⟩, hrun⟩,
    hepisode⟩, htrajectory⟩, hpayload⟩, -⟩ := htuple
  have hdeployment := isName_size (isName_of_isWorkerIdentity hdeployment)
  have howner := isName_size (isName_of_isWorkerIdentity howner)
  have hhandoff := isProtocolUuid_size hhandoff
  have hrun := isProtocolUuid_size hrun
  have hepisode := isProtocolUuid_size hepisode
  have htrajectory := isProtocolUuid_size htrajectory
  have hjob := isExistingId_size hjob
  have hattempt := isExistingId_size hattempt
  have hprofile := isDigest_size hprofile
  have hresult := isDigest_size hresult
  have hpayload : receipt.tuple.payloadDigest.utf8ByteSize = 64 := by
    rw [hpayload]
    decide +kernel
  have hcheckpoint := isWireSequence_size hcheckpoint
  have hnumber : (toString receipt.tuple.attemptNumber).utf8ByteSize ≤ 16 := by
    simp only [isWireSequence, Bool.and_eq_true, decide_eq_true_eq] at hnumber
    exact isWireSequence_size hnumber.2
  have href : receipt.terminalRef.utf8ByteSize ≤ 1024 := by
    simp only [isReference, Bool.and_eq_true, decide_eq_true_eq] at href
    exact href.1.2
  have hstatus : receipt.status.asStr.utf8ByteSize ≤ 9 := by
    cases receipt.status <;> decide
  have hkeys : "handoff_id".utf8ByteSize = 10 ∧ "deployment_id".utf8ByteSize = 13 ∧
      "job_id".utf8ByteSize = 6 ∧ "attempt_id".utf8ByteSize = 10 ∧
      "attempt_number".utf8ByteSize = 14 ∧ "worker_owner_id".utf8ByteSize = 15 ∧
      "worker_profile_digest".utf8ByteSize = 21 ∧ "run_id".utf8ByteSize = 6 ∧
      "episode_id".utf8ByteSize = 10 ∧ "trajectory_id".utf8ByteSize = 13 ∧
      "payload_digest".utf8ByteSize = 14 ∧ "status".utf8ByteSize = 6 ∧
      "checkpoint_sequence".utf8ByteSize = 19 ∧ "terminal_ref".utf8ByteSize = 12 ∧
      "result_digest".utf8ByteSize = 13 := by
    decide +kernel
  refine (Value.utf8ByteSize_render_le _).trans ?_
  simp only [terminalMaterial, storageReceipt, Value.ofFields, Fields.ofList, Value.ofNat,
    Value.maxBytes, Fields.maxBytes, hkeys, maxTerminalBytes]
  omega

/-! ### Completion -/

section Completion

variable {s : Store} {h : HandoffRow} {raw : RawHandoff} {receipt : WorkerTerminalReceipt}
  {authority : TerminalAuthority} {now : Nat}

/-- The rows of an unresolved handoff admit the end of its episode. -/
private theorem OpenPair.admissible {j : JobRow} {a : AttemptRow} (hopened : OpenPair h j a) :
    terminallyAdmissible j.status a.status = true := by
  rcases hopened.status with hstatus | hstatus
  · simp [terminallyAdmissible, hstatus, (hopened.running hstatus).1]
  · simp [terminallyAdmissible, hstatus, hopened.quarantined hstatus]

/-- The audit record of a completion is well formed. -/
private theorem auditDetail_valid (hid : isCanonicalUuid4 handoffId = true)
    (status : WorkerTerminalStatus) :
    let detail := s!"{handoffId}:{status.asStr}"
    detail.utf8ByteSize ≤ maxAuditDetailBytes ∧ containsNul detail = false := by
  have hname := isName_of_canonical hid
  have hsize := isName_size hname
  have htext : s!"{handoffId}:{status.asStr}" = handoffId ++ ":" ++ status.asStr := rfl
  have hstatus : status.asStr.utf8ByteSize ≤ 9 ∧ containsNul status.asStr = false := by
    cases status <;> decide
  have hcolon : ":".utf8ByteSize = 1 ∧ containsNul ":" = false := by decide
  simp only [htext, String.utf8ByteSize_append, containsNul_append, hcolon, hstatus,
    isName_noNul hname, maxAuditDetailBytes, Bool.or_self, and_true]
  omega

/-- The end of an episode can be written: the three rows exist and are unique. -/
private theorem commitTerminalTx_of_rows {j : JobRow} {a : AttemptRow} (hs : s.queue.Keyed)
    (hh : h ∈ s.handoffs) (hj : lookup JobRow.id h.jobId s.jobs = some j) (ha : a ∈ s.attempts)
    (hrelated : a.id = h.attemptId ∧ a.jobId = h.jobId)
    (hid : isCanonicalUuid4 h.handoffId = true) (hopened : OpenPair h j a)
    (hstate : h.state = .mayHaveBeenDispatched ∨ h.state = .admitted)
    (hsequence : receipt.checkpointSequence ≤ maxWorkerWireInteger)
    (hroom : s.audit.length < auditLimit "worker_handoff_terminal_committed")
    (hnow : now < 2 ^ 63) (text digest : String) :
    ∃ s', commitTerminalTx crates s h.tuple receipt text digest now = .ok s' := by
  obtain ⟨hjmem, hjid⟩ := mem_of_lookup hj
  have hattempt : s.attempts.find? (fun r => r.id == h.attemptId && r.jobId == h.jobId) =
      some a := by
    cases hfound : s.attempts.find? (fun r => r.id == h.attemptId && r.jobId == h.jobId) with
    | none =>
      have hnone := List.find?_eq_none.mp hfound a ha
      simp [hrelated] at hnone
    | some r =>
      have hr := List.find?_some hfound
      simp only [Bool.and_eq_true, beq_iff_eq] at hr
      rw [eq_of_key_eq hs.attemptIds (List.mem_of_find?_eq_some hfound) ha
        (hr.1.trans hrelated.1.symm)]
  have hattempts : s.attempts.countP (fun r =>
      r.id == h.attemptId && r.jobId == h.jobId && r.status == a.status) = 1 := by
    refine countP_eq_one hs.attemptIds ha (by simp [hrelated]) fun r _ hr => ?_
    simp only [Bool.and_eq_true, beq_iff_eq] at hr
    exact hr.1.1.trans hrelated.1.symm
  have hjobs : s.jobs.countP (fun r => r.id == h.jobId && r.status == j.status) = 1 := by
    refine countP_eq_one hs.jobIds hjmem (by simp [hjid]) fun r _ hr => ?_
    simp only [Bool.and_eq_true, beq_iff_eq] at hr
    exact hr.1.trans hjid.symm
  have hhandoffs : s.handoffs.countP (fun r => r.handoffId == h.handoffId &&
      (r.state == .mayHaveBeenDispatched || r.state == .admitted)) = 1 := by
    refine countP_eq_one hs.handoffIds hh ?_ fun r _ hr => ?_
    · rcases hstate with hstate | hstate <;> simp [hstate]
    · simp only [Bool.and_eq_true, beq_iff_eq] at hr
      exact hr.1
  have hcheckpoint : receipt.checkpointSequence < 2 ^ 63 := by
    unfold maxWorkerWireInteger at hsequence
    omega
  refine exists_bind_eq_ok (orError_eq_ok.mpr hj) ?_
  refine exists_bind_eq_ok (orError_eq_ok.mpr hattempt) ?_
  refine exists_bind_eq_ok (a := ()) (ensure_eq_ok.mpr hopened.admissible) ?_
  refine exists_bind_eq_ok (sqliteTimestamp_eq_ok.mpr ⟨hnow, rfl⟩) ?_
  refine exists_bind_eq_ok (updateAttemptsTx_eq_ok.mpr ⟨hattempts, rfl⟩) ?_
  refine exists_bind_eq_ok (updateJobsTx_eq_ok.mpr ⟨hjobs, rfl⟩) ?_
  refine exists_bind_eq_ok (sqliteTimestamp_eq_ok.mpr ⟨hcheckpoint, rfl⟩) ?_
  refine exists_bind_eq_ok (updateHandoffsTx_eq_ok.mpr ⟨hhandoffs, rfl⟩) ?_
  exact ⟨_, insertAuditTx_eq_ok.mpr
    ⟨by decide +kernel, auditDetail_valid hid receipt.status, hroom, hnow, rfl⟩⟩

/-- The current control lets the authority report on the handoff. -/
def TerminalAuthority.Current (authority : TerminalAuthority) (s : Store) (h : HandoffRow) :
    Prop :=
  authority.validateRecovery s h = .ok () ∧ authority.validateIncarnation s h = .ok ()

instance (authority : TerminalAuthority) (s : Store) (h : HandoffRow) :
    Decidable (authority.Current s h) :=
  inferInstanceAs (Decidable (_ ∧ _))

/-- The transaction of a completion returns when the receipt is valid, the log has room and the
time fits. -/
private theorem completeWorkerHandoffTx_of_valid (hs : s.queue.Keyed)
    (hraw : requireHandoffTx crates s raw.row.tuple = .ok raw)
    (hstate : raw.row.state = .mayHaveBeenDispatched ∨ raw.row.state = .admitted)
    (hauthority : authority.Current s raw.row)
    (htime : validateHandoffTransitionTime raw.row now .terminal = .ok ())
    (hreceipt : validateTerminalReceipt receipt = .ok ())
    (hroom : s.audit.length < auditLimit "worker_handoff_terminal_committed")
    (hnow : now < 2 ^ 63) :
    ∃ answer, completeWorkerHandoffTx crates s raw.row.tuple receipt authority now =
      .ok answer := by
  obtain ⟨hlookup, -, j, a, hj, ha, hload⟩ := requireHandoffTx_eq_ok hraw
  obtain ⟨terminal, hh, -, -, hrelated⟩ := rowsLoad_iff.mp hload
  have hidentified := hh.identified
  have hopened := hrelated.opened (by rcases hstate with hstate | hstate <;> rw [hstate] <;> rfl)
  have hterminal : raw.row.state.isTerminal = false := by
    rcases hstate with hstate | hstate <;> rw [hstate] <;> rfl
  have hid : isCanonicalUuid4 raw.row.handoffId = true := by
    obtain ⟨⟨⟩, hids, -⟩ := bind_eq_ok.mp hidentified.tuple
    simp only [forEach_eq_ok, List.forall_mem_cons, validateUuid4_eq_ok] at hids
    exact hids.1
  obtain ⟨text, digest, hresult⟩ := @compactTerminalResult_of_valid crates _ hreceipt
  obtain ⟨⟨⟩, -, hsequence⟩ := bind_eq_ok.mp hreceipt
  replace hsequence := bind_passed hsequence
  obtain ⟨s', hcommit⟩ := @commitTerminalTx_of_rows crates s raw.row receipt now j a hs
    (mem_of_lookup hlookup).1 hj (mem_of_lookup ha).1 ⟨hrelated.attempt.1, hrelated.attempt.2.1⟩
    hid hopened hstate (ensure_eq_ok.mp hsequence) hroom hnow text digest
  refine exists_bind_eq_ok hidentified.tuple ?_
  refine exists_bind_eq_ok hreceipt ?_
  refine exists_bind_eq_ok hresult ?_
  refine exists_bind_eq_ok hraw ?_
  refine exists_bind_eq_ok (a := ()) (ensure_eq_ok.mpr rfl) ?_
  refine exists_bind_eq_ok hauthority.1 ?_
  rw [if_neg (by simp [hterminal])]
  refine exists_bind_eq_ok hauthority.2 ?_
  refine exists_bind_eq_ok (a := ()) (ensure_eq_ok.mpr hstate) ?_
  refine exists_bind_eq_ok htime ?_
  exact exists_bind_eq_ok hcommit ⟨_, rfl⟩

/-- A completion that has committed can be read back. -/
private theorem loads_of_completed {s' : Store} {already : Bool} (hs : s.queue.Keyed)
    (huncompleted : (s.queue.view h.jobId).Uncompleted) (hbound : s.maxPayloadBytes < 2 ^ 63)
    (hh : h ∈ s.handoffs) (hstate : h.state = .mayHaveBeenDispatched ∨ h.state = .admitted)
    (hok : completeWorkerHandoffTx crates s h.tuple receipt authority now = .ok (already, s')) :
    s'.Loads crates h.handoffId := by
  obtain ⟨raw, j, a, -, hloaded, hcases⟩ := completeWorkerHandoffTx_eq_ok hs hok
  obtain rfl : h = raw.row := by
    refine eq_of_key_eq hs.handoffIds hh (mem_of_mem_view_handoffs hloaded.handoff).1 ?_
    exact (congrArg WorkerHandoffTuple.handoffId hloaded.tuple).symm
  obtain ⟨hterminal, -⟩ | ⟨-, text, digest, hreceipt, hresult, -, hadmissible, htime, -, -, rfl⟩ :=
    hcases
  · rcases hstate with hstate | hstate <;> rw [hstate] at hterminal <;> cases hterminal
  have hopen : j.status ≠ .completed := by
    intro hcompleted
    simp [terminallyAdmissible, hcompleted] at hadmissible
  have hnone : j.completedAtMs = none := huncompleted j hloaded.row hopen
  have hjob : lookup JobRow.id raw.row.jobId s.jobs = some j := hloaded.row
  have hattempt : lookup AttemptRow.id raw.row.attemptId s.attempts = some a :=
    (lookup_eq_some hs.attemptIds).mpr
      ⟨(mem_of_mem_view_attempts hloaded.attempt).1, hloaded.attemptId⟩
  have hhandoff : lookup HandoffRow.handoffId raw.row.handoffId s.handoffs = some raw.row :=
    (lookup_eq_some hs.handoffIds).mpr ⟨hh, rfl⟩
  refine loads_iff.mpr ⟨_, _, _, hbound, ?_, ?_, ?_,
    hloaded.loads.terminate hreceipt hresult hstate hnone htime.1⟩
  · have hkey : ∀ r : HandoffRow, (r.terminate receipt receipt.checkpointSequence now text
        (terminalDigest crates raw.row.tuple receipt)).handoffId = r.handoffId := fun _ => rfl
    refine (lookup_updateWhere hkey).trans ?_
    rw [hhandoff]
    rcases hstate with hstate | hstate <;> simp [terminateWrite, HandoffRow.tuple, hstate]
  · refine (lookup_updateWhere fun j => j.terminate_id receipt now text digest).trans ?_
    simp [HandoffRow.terminate, hjob, terminateWrite, HandoffRow.tuple, hloaded.jobId]
  · have hkey : ∀ r : AttemptRow, (r.finish receipt.status.attemptStatus now
        receipt.status.outcome).id = r.id := fun _ => rfl
    refine (lookup_updateWhere hkey).trans ?_
    simp [HandoffRow.terminate, hattempt, terminateWrite, HandoffRow.tuple, hloaded.attemptId,
      hloaded.loads.attempt_jobId]

/-- A completion of an unresolved handoff under current control, at a time that does not move
backwards, is accepted exactly when the receipt is valid, the log has room and the time fits. -/
theorem workerCompletion_accepted_iff
    (hs : s.queue.Keyed) (huncompleted : ∀ i, (s.queue.view i).Uncompleted)
    (hload : s.workerHandoff crates handoffId = .ok (some handoff))
    (hstate : handoff.row.state = .mayHaveBeenDispatched ∨ handoff.row.state = .admitted)
    (hauthority : authority.Current s handoff.row)
    (htime : validateHandoffTransitionTime handoff.row now .terminal = .ok ()) :
    (∃ completion, (s.completeWorkerHandoffWithAuthorityAt crates handoff.row.tuple receipt
        authority now).1 = .ok completion) ↔
      validateTerminalReceipt receipt = .ok () ∧
        s.audit.length < auditLimit "worker_handoff_terminal_committed" ∧ now < 2 ^ 63 := by
  obtain ⟨raw, hraw, hrow, hbound⟩ := requireHandoffTx_of_workerHandoff hload
  rw [← hrow] at hraw hstate hauthority htime ⊢
  obtain ⟨hlookup, -, j, a, -, -, hrows⟩ := requireHandoffTx_eq_ok hraw
  have hmem := (mem_of_lookup hlookup).1
  constructor
  · rintro ⟨completion, hanswer⟩
    obtain ⟨already, hok, -⟩ := commitThen_eq_ok.mp (Prod.ext hanswer rfl)
    obtain ⟨raw', j', a', -, hloaded, hcases⟩ := completeWorkerHandoffTx_eq_ok hs hok
    obtain ⟨hterminal, -⟩ | ⟨-, text, digest, hreceipt, -, -, -, -, hroom, hnow, -⟩ := hcases
    · have hsame : raw'.row = raw.row :=
        eq_of_key_eq hs.handoffIds (mem_of_mem_view_handoffs hloaded.handoff).1 hmem
          (congrArg WorkerHandoffTuple.handoffId hloaded.tuple)
      rw [hsame] at hterminal
      rcases hstate with hstate | hstate <;> rw [hstate] at hterminal <;> cases hterminal
    · exact ⟨hreceipt, hroom, hnow⟩
  · rintro ⟨hreceipt, hroom, hnow⟩
    obtain ⟨⟨already, s'⟩, hok⟩ :=
      completeWorkerHandoffTx_of_valid hs hraw hstate hauthority htime hreceipt hroom hnow
    obtain ⟨handoff', hloads⟩ := loads_of_completed hs (huncompleted _) hbound hmem hstate hok
    obtain ⟨terminal, hh, -, -, -⟩ := rowsLoad_iff.mp hrows
    obtain ⟨⟨⟩, hids, -⟩ := bind_eq_ok.mp hh.identified.tuple
    simp only [forEach_eq_ok, List.forall_mem_cons] at hids
    have hread : s'.workerHandoff crates raw.row.tuple.handoffId = .ok (some handoff') := by
      refine bind_eq_ok.mpr ⟨(), ?_, hloads⟩
      exact validateUuid4_eq_ok.mpr (validateUuid4_eq_ok.mp hids.1)
    have hreload : ∀ message, reloadHandoff crates s' raw.row.tuple.handoffId message =
        .ok handoff' := fun _ => bind_eq_ok.mpr ⟨_, hread, orError_eq_ok.mpr rfl⟩
    refine ⟨⟨handoff', terminalDigest crates raw.row.tuple receipt, already⟩,
      congrArg Prod.fst (commitThen_eq_ok.mpr ⟨already, hok, ?_⟩)⟩
    exact bind_eq_ok.mpr ⟨handoff', hreload _, rfl⟩

end Completion

/-! ### The comparison -/

/-- A receipt of the wire is valid for the store exactly when its reference is a name. -/
theorem validateTerminalReceipt_of_isWire {receipt : TerminalReceipt}
    (h : receipt.isWire tuple = true) :
    validateTerminalReceipt (storageReceipt receipt) = .ok () ↔
      ∀ c ∈ receipt.terminalRef.toList, ¬ (0x80 ≤ c.toNat ∧ c.toNat ≤ 0x9f) := by
  simp only [TerminalReceipt.isWire, Bool.and_eq_true, decide_eq_true_eq] at h
  obtain ⟨⟨⟨-, href⟩, hcheckpoint⟩, hresult⟩ := h
  rw [← isName_of_isReference href]
  simp only [validateTerminalReceipt, bind_eq_ok, exists_const, validateName_eq_ok,
    validateDigestValue_eq_ok, ensure_eq_ok, storageReceipt, hcheckpoint, hresult, and_true]

/-- The request for a handoff that the store has returned passes on the wire. -/
theorem dispatchRequest_isWire {s : Store}
    (hload : s.workerHandoff crates handoffId = .ok (some handoff)) {client : WorkerClient}
    (hboot : client.watchdogBootId = handoff.row.watchdogBootId)
    (htimeout : 0 < client.timeoutMs ∧ client.timeoutMs ≤ maxTimeoutMs) (requestId : UuidV4) :
    (client.dispatchRequest handoff requestId.text).isWire = true := by
  obtain ⟨raw, hraw, hrow, -⟩ := requireHandoffTx_of_workerHandoff hload
  obtain ⟨-, -, j, a, -, -, hrows⟩ := requireHandoffTx_eq_ok hraw
  obtain ⟨terminal, hh, -, -, -⟩ := rowsLoad_iff.mp hrows
  have hidentified := hrow ▸ hh.identified
  have htuple := isWire_of_validateTuple hidentified.tuple hidentified.attemptNumber
  have hpayload : handoff.row.tuple.payloadDigest = workerHandoffPayloadDigest := by
    simp only [WorkerHandoffTuple.isWire, Bool.and_eq_true, beq_iff_eq] at htuple
    exact htuple.1.2
  have hheader : (client.header .dispatch .dispatch requestId.text
      (some handoff.row.workerBootId)).isFrame .request .dispatch .dispatch = true := by
    simp only [Header.isFrame, WorkerClient.header, hboot, Option.any_some, beq_self_eq_true,
      isProtocolUuid_of_canonical requestId.canonical,
      isProtocolUuid_of_canonical hidentified.watchdogBoot,
      isProtocolUuid_of_canonical hidentified.workerBoot, htimeout, decide_true, Bool.and_self]
  have hoperation : workerHandoffOperation.utf8ByteSize ≤ maxOperationBytes := by decide +kernel
  simp only [DispatchRequest.isWire, WorkerClient.dispatchRequest, hheader, htuple,
    hidentified.modeSequence, hpayload, hoperation, beq_self_eq_true, decide_true, Bool.and_self]

/-- **The wire and the store accept the same fields, but for control characters.** In every
reachable store: a receipt that passes on the wire for the tuple of an unresolved handoff, under
current control and at a time that does not move backwards, is accepted exactly when its reference
has no character of `U+0080..U+009F`, the audit log has room, and the time fits its column; and the
dispatch request for a handoff that the store has claimed passes on the wire. -/
theorem wire_receipt_accepted_iff {config : StoreConfig} {now₀ : Nat} {epoch : UuidV4} {s₀ : Store}
    (hinit : Store.initialize config now₀ epoch = .ok s₀) (ops : List Op) :
    let s := s₀.after crates ops
    (∀ handoffId handoff receipt authority now,
      s.workerHandoff crates handoffId = .ok (some handoff) →
      (handoff.row.state = .mayHaveBeenDispatched ∨ handoff.row.state = .admitted) →
      TerminalReceipt.isWire receipt handoff.row.tuple = true →
      TerminalAuthority.Current authority s handoff.row →
      validateHandoffTransitionTime handoff.row now .terminal = .ok () →
      ((∃ completion, (s.completeWorkerHandoffWithAuthorityAt crates handoff.row.tuple
          (storageReceipt receipt) authority now).1 = .ok completion) ↔
        (∀ c ∈ receipt.terminalRef.toList, ¬ (0x80 ≤ c.toNat ∧ c.toNat ≤ 0x9f)) ∧
          s.audit.length < auditLimit "worker_handoff_terminal_committed" ∧ now < 2 ^ 63)) ∧
    ∀ witness now ids handoff,
      (s.claimNextWorkerHandoff crates witness now ids).1 = .ok (some handoff) →
      ∀ (client : WorkerClient) (requestId : UuidV4),
        client.watchdogBootId = handoff.row.watchdogBootId →
        (0 < client.timeoutMs ∧ client.timeoutMs ≤ maxTimeoutMs) →
        (client.dispatchRequest handoff requestId.text).isWire = true := by
  intro s
  have hkeyed : s.queue.Keyed := after_keyed (initialize_keyed hinit) ops
  constructor
  · intro handoffId handoff receipt authority now hload hstate hwire hauthority htime
    rw [workerCompletion_accepted_iff hkeyed (after_uncompleted hinit ops) hload hstate hauthority
      htime, validateTerminalReceipt_of_isWire hwire]
  · intro witness now ids handoff hclaim client requestId hboot htimeout
    obtain ⟨claimed, -, hread⟩ := commitThen_eq_ok.mp (Prod.ext hclaim rfl)
    cases claimed with
    | none => cases hread
    | some handoffId =>
      obtain ⟨handoff?, hload, hread⟩ := bind_eq_ok.mp hread
      obtain ⟨handoff', hsome, hread⟩ := orError_bind.mp hread
      cases pure_eq_ok.mp hread
      cases hsome
      exact dispatchRequest_isWire hload hboot htimeout requestId

/-- The sample episode up to its dispatch. -/
def sampleDispatch : List Op :=
  sampleClaim ++ [.markWorkerHandoffMayHaveBeenDispatchedAt sampleTuple 3]

/-- A receipt of the sample episode with the given reference. -/
def sampleTerminal (terminalRef : String) : TerminalReceipt where
  tuple := sampleTuple
  status := .failed
  checkpointSequence := 1
  terminalRef := terminalRef
  resultDigest := workerHandoffPayloadDigest

private theorem sampleTerminal_isWire {terminalRef : String} (h : isReference terminalRef = true) :
    (sampleTerminal terminalRef).isWire sampleTuple = true := by
  have hdigest : isDigest workerHandoffPayloadDigest = true := by decide +kernel
  simp [TerminalReceipt.isWire, sampleTerminal, h, hdigest, maxWorkerWireInteger]

theorem encodedReceipt_le_sample :
    let receipt := sampleTerminal "terminal"
    (terminalMaterial receipt.tuple (storageReceipt receipt)).render.utf8ByteSize ≤
      maxTerminalBytes :=
  encodedReceipt_le (show sampleTuple.isWire = true by decide +kernel)
    (sampleTerminal_isWire (by decide +kernel))

/-- The handoff that the sample episode has dispatched. -/
def sampleHandoff : Option WorkerHandoff :=
  ((sampleStore.after sampleCrates sampleDispatch).workerHandoff sampleCrates
    sampleTuple.handoffId).toOption.join

private theorem sampleHandoff_reports : (∃ handoff ∈ sampleHandoff,
    handoff.row.state = .mayHaveBeenDispatched ∧ handoff.row.tuple = sampleTuple ∧
      TerminalAuthority.originalIncarnation.Current
        (sampleStore.after sampleCrates sampleDispatch) handoff.row ∧
      validateHandoffTransitionTime handoff.row 4 .terminal = .ok ()) ∧
    (sampleStore.after sampleCrates sampleDispatch).audit.length <
      auditLimit "worker_handoff_terminal_committed" := by
  decide +kernel

private theorem sampleHandoff_load (h : handoff ∈ sampleHandoff) :
    (sampleStore.after sampleCrates sampleDispatch).workerHandoff sampleCrates
      sampleTuple.handoffId = .ok (some handoff) := by
  unfold sampleHandoff at h
  cases hread : (sampleStore.after sampleCrates sampleDispatch).workerHandoff sampleCrates
      sampleTuple.handoffId with
  | error e =>
    rw [hread] at h
    cases h
  | ok handoff? =>
    rw [hread] at h
    exact congrArg Except.ok h

/-- The dispatched sample episode: its receipt is accepted. -/
theorem wire_receipt_accepted_iff_sample :
    ∃ handoff ∈ sampleHandoff, ∃ completion,
      ((sampleStore.after sampleCrates sampleDispatch).completeWorkerHandoffWithAuthorityAt
        sampleCrates handoff.row.tuple (storageReceipt (sampleTerminal "terminal"))
        .originalIncarnation 4).1 = .ok completion := by
  obtain ⟨⟨handoff, hmem, hstate, htuple, hauthority, htime⟩, hroom⟩ := sampleHandoff_reports
  have hwire : (sampleTerminal "terminal").isWire handoff.row.tuple = true :=
    htuple ▸ sampleTerminal_isWire (by decide +kernel)
  have hcompare := (wire_receipt_accepted_iff sampleStore_init sampleDispatch).1 _ handoff
    (sampleTerminal "terminal") _ 4 (sampleHandoff_load hmem) (.inl hstate) hwire hauthority htime
  exact ⟨handoff, hmem, hcompare.mpr ⟨forall_mem_of_all (by decide), hroom, by decide⟩⟩

/-- The same receipt with the reference `U+0085`: it passes on the wire and the store refuses
it. -/
theorem control_reference_refused :
    (∃ handoff ∈ sampleHandoff, handoff.row.state = .mayHaveBeenDispatched ∧
      handoff.row.tuple = sampleTuple ∧
      TerminalAuthority.originalIncarnation.Current
        (sampleStore.after sampleCrates sampleDispatch) handoff.row ∧
      validateHandoffTransitionTime handoff.row 4 .terminal = .ok ()) ∧
    (sampleTerminal "\u0085").isWire sampleTuple = true ∧
    ((sampleStore.after sampleCrates sampleDispatch).completeWorkerHandoffWithAuthorityAt
      sampleCrates sampleTuple (storageReceipt (sampleTerminal "\u0085"))
      .originalIncarnation 4).1 = .error (.invalidInput
        "terminal reference must be non-empty, bounded, and free of control characters") :=
  ⟨sampleHandoff_reports.1, sampleTerminal_isWire (by decide +kernel), by decide +kernel⟩

end AscensionWatchdog
