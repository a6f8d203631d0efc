import AscensionWatchdog.Queue.Handoffs
import AscensionWatchdog.Queue.Prepared

/-!
# Handoffs stay loadable

Every transition of a handoff starts by loading it, so a handoff that no longer loads is lost: it
cannot be looked up, completed or acknowledged. Here every write of the production operations is
checked against the reader.

The transitions of the handoff keep its rows readable and related (`RowsLoad.dispatch` and the
lemmas behind it). So does taking a **running** job out of the scheduler, which is what an
interruption and an operator quarantine do. An operator quarantine may also take a **failed** job,
and the reader requires the job of a failed handoff to be failed: such a quarantine loses the
handoff.

`handoffs_loadable_iff` is the result for runs: with nondecreasing times, every handoff loads in
every state of a run exactly when no operator quarantine of the run takes a failed job that has a
handoff.
-/

namespace AscensionWatchdog

open Foundation Foundation.Json

variable {crates : Crates} {bound now : Nat} {h : HandoffRow} {j : JobRow} {a : AttemptRow}

/-! ### Transitions of a handoff -/

/-- The receipt columns of an unresolved handoff are empty. -/
private theorem terminal_eq_none {terminal : Option WorkerTerminalRecord}
    (hh : h.Readable crates terminal) (hstate : h.state.unresolved = true) :
    terminal = none ∧ h.terminalResult = none := by
  have hpresent := hh.present
  have hopen : h.state.isTerminal = false := by
    cases hs : h.state <;> simp_all [WorkerHandoffState.unresolved, WorkerHandoffState.isTerminal]
  rw [hopen] at hpresent
  exact ⟨by simpa using hpresent.1.symm, by simpa using hpresent.2.symm⟩

/-- The recorded times stay within a later update. -/
private theorem widen (htimes : ∀ time ∈ h.transitionTimes, ∀ t ∈ time,
      h.createdAtMs ≤ t ∧ t ≤ h.updatedAtMs) (hnow : h.updatedAtMs ≤ now) :
    ∀ time ∈ h.transitionTimes, ∀ t ∈ time, h.createdAtMs ≤ t ∧ t ≤ now := by
  intro time htime t ht
  obtain ⟨hcreated, hupdated⟩ := htimes time htime t ht
  exact ⟨hcreated, by omega⟩

theorem RowsLoad.dispatch (hload : RowsLoad crates bound h j a) (hstate : h.state = .prepared)
    (htime : h.updatedAtMs ≤ now) : RowsLoad crates bound (h.markDispatched now) j a := by
  obtain ⟨terminal, hh, hj, ha, hrelated⟩ := rowsLoad_iff.mp hload
  obtain ⟨rfl, hresult⟩ := terminal_eq_none hh (by rw [hstate]; rfl)
  have hopened := hrelated.opened (by rw [hstate]; rfl)
  have hcreated := hh.created
  have hcolumns := hh.columns
  simp only [lifecycleColumnsConsistent, hstate, Bool.and_eq_true, Bool.not_eq_true',
    Option.isNone_iff_eq_none] at hcolumns
  obtain ⟨⟨⟨⟨hintent, -⟩, hadmitted⟩, hended⟩, hacknowledged⟩ := hcolumns
  have hreadable : (h.markDispatched now).Readable crates none := {
    identity := hh.identity
    receipt := hh.receipt
    created := by simp only [HandoffRow.markDispatched]; omega
    times := by
      simp [HandoffRow.transitionTimes, HandoffRow.markDispatched, hadmitted, hended, hacknowledged]
      omega
    present := by simp [HandoffRow.markDispatched, WorkerHandoffState.isTerminal, hresult]
    columns := by
      simp [lifecycleColumnsConsistent, HandoffRow.markDispatched, hintent, hadmitted, hended,
        hacknowledged]
    admission := by simp [outOfOrder, HandoffRow.markDispatched, hadmitted]
    ended := by simp [outOfOrder, HandoffRow.markDispatched, hadmitted, hended]
    acknowledgment := by simp [outOfOrder, HandoffRow.markDispatched, hended]
    evidence := nofun }
  exact rowsLoad_iff.mpr ⟨none, hreadable, hj, ha,
    { hrelated with opened := fun _ => { hopened with }, closed := nofun }⟩

theorem RowsLoad.admission (hload : RowsLoad crates bound h j a)
    (hstate : h.state = .mayHaveBeenDispatched) (htime : h.updatedAtMs ≤ now) :
    RowsLoad crates bound (h.markAdmitted now) j a := by
  obtain ⟨terminal, hh, hj, ha, hrelated⟩ := rowsLoad_iff.mp hload
  obtain ⟨rfl, hresult⟩ := terminal_eq_none hh (by rw [hstate]; rfl)
  have hopened := hrelated.opened (by rw [hstate]; rfl)
  have hcreated := hh.created
  have hcolumns := hh.columns
  simp only [lifecycleColumnsConsistent, hstate, Bool.and_eq_true, Bool.not_eq_true',
    Option.isNone_iff_eq_none, Option.isSome_iff_exists] at hcolumns
  obtain ⟨⟨⟨⟨hintent, t, hdispatched⟩, hadmitted⟩, hended⟩, hacknowledged⟩ := hcolumns
  have hdispatchTime : h.createdAtMs ≤ t ∧ t ≤ h.updatedAtMs :=
    hh.times h.dispatchedAtMs (by simp [HandoffRow.transitionTimes]) t hdispatched
  have hreadable : (h.markAdmitted now).Readable crates none := {
    identity := hh.identity
    receipt := hh.receipt
    created := by simp only [HandoffRow.markAdmitted]; omega
    times := by
      simp [HandoffRow.transitionTimes, HandoffRow.markAdmitted, hdispatched, hended,
        hacknowledged]
      omega
    present := by simp [HandoffRow.markAdmitted, WorkerHandoffState.isTerminal, hresult]
    columns := by
      simp [lifecycleColumnsConsistent, HandoffRow.markAdmitted, hintent, hdispatched, hended,
        hacknowledged]
    admission := by
      simp [outOfOrder, HandoffRow.markAdmitted, hdispatched]
      omega
    ended := by simp [outOfOrder, HandoffRow.markAdmitted, hdispatched, hended]
    acknowledgment := by simp [outOfOrder, HandoffRow.markAdmitted, hended]
    evidence := fun _ h => by cases h }
  exact rowsLoad_iff.mpr ⟨none, hreadable, hj, ha,
    { hrelated with opened := fun _ => { hopened with }, closed := fun _ h => by cases h }⟩

/-- An acknowledgment records the delivery of the receipt and nothing else. -/
theorem RowsLoad.acknowledge (hload : RowsLoad crates bound h j a)
    (hstate : h.state = .completed ∨ h.state = .failed) (htime : h.updatedAtMs ≤ now) :
    RowsLoad crates bound (h.markAcknowledged now) j a := by
  obtain ⟨terminal, hh, hj, ha, hrelated⟩ := rowsLoad_iff.mp hload
  have hcreated := hh.created
  have hcolumns : h.ackIntent = true ∧ (∃ d, h.dispatchedAtMs = some d) ∧
      ∃ t, h.terminalAtMs = some t := by
    have hcolumns := hh.columns
    rcases hstate with hstate | hstate <;>
      simp only [lifecycleColumnsConsistent, hstate, Bool.and_eq_true,
        Option.isSome_iff_exists] at hcolumns
    all_goals exact ⟨hcolumns.1.1.1, hcolumns.1.1.2, hcolumns.1.2⟩
  obtain ⟨hintent, ⟨d, hdispatched⟩, t, hended⟩ := hcolumns
  have hendTime : h.createdAtMs ≤ t ∧ t ≤ h.updatedAtMs :=
    hh.times h.terminalAtMs (by simp [HandoffRow.transitionTimes]) t hended
  have hpresent : terminal.isSome ∧ h.terminalResult.isSome := by
    have hpresent := hh.present
    rcases hstate with hstate | hstate <;> rw [hstate] at hpresent <;>
      exact ⟨hpresent.1.symm, hpresent.2.symm⟩
  have hreadable : (h.markAcknowledged now).Readable crates terminal := {
    identity := hh.identity
    receipt := hh.receipt
    created := by simp only [HandoffRow.markAcknowledged]; omega
    times := by
      obtain ⟨hdispatch, hadmission, hend, -⟩ := forall_transitionTimes.mp (widen hh.times htime)
      refine forall_transitionTimes.mpr ⟨hdispatch, hadmission, hend, ?_⟩
      rintro t' ⟨⟩
      exact ⟨by simp only [HandoffRow.markAcknowledged]; omega, le_rfl⟩
    present := by
      simp [HandoffRow.markAcknowledged, WorkerHandoffState.isTerminal, hpresent.1, hpresent.2]
    columns := by
      simp [lifecycleColumnsConsistent, HandoffRow.markAcknowledged, hintent, hdispatched, hended]
    admission := hh.admission
    ended := hh.ended
    acknowledgment := by
      simp [outOfOrder, HandoffRow.markAcknowledged, hended]
      omega
    evidence := by
      intro record hrecord
      obtain ⟨hdigest, hcompact, -⟩ :=
        validateReceiptEvidence_eq_ok.mp (hh.evidence record hrecord)
      exact validateReceiptEvidence_eq_ok.mpr ⟨hdigest, hcompact, rfl⟩ }
  exact rowsLoad_iff.mpr ⟨terminal, hreadable, hj, ha,
    { hrelated with
      opened := by simp [HandoffRow.markAcknowledged, WorkerHandoffState.unresolved]
      closed := fun record hrecord => { hrelated.closed record hrecord with } }⟩

/-! ### The end of an episode -/

section Terminate

variable {receipt : WorkerTerminalReceipt} {resultText resultDigest : String}

/-- What a validated receipt is. -/
private theorem validateTerminalReceipt_eq_ok (h : validateTerminalReceipt receipt = .ok ()) :
    isName receipt.terminalRef 1024 = true ∧ isDigest receipt.resultDigest = true ∧
      receipt.checkpointSequence ≤ maxWorkerWireInteger := by
  simp only [validateTerminalReceipt, bind_eq_ok, exists_const, validateName_eq_ok,
    validateDigestValue_eq_ok, ensure_eq_ok] at h
  exact h

/-- The compact text of a receipt, its size and its digest. -/
private theorem compactTerminalResult_eq_ok
    (h : compactTerminalResult crates receipt = .ok (resultText, resultDigest)) :
    resultText = (compactTerminalValue receipt).render ∧ resultText.utf8ByteSize ≤ 65536 ∧
      resultDigest = hexDigest crates resultText := by
  obtain ⟨hsize, h⟩ := ensure_bind_eq_ok.mp h
  cases pure_eq_ok.mp h
  exact ⟨rfl, hsize, rfl⟩

/-- The compact text of a receipt is accepted by the parser. -/
private theorem fromStr_compact (hsequence : receipt.checkpointSequence ≤ maxWorkerWireInteger) :
    ∃ value, crates.fromStr (compactTerminalValue receipt).render = some value := by
  have hlt : receipt.checkpointSequence < 2 ^ 64 := by
    have hmax : maxWorkerWireInteger < 2 ^ 64 := by decide
    omega
  have hplain : plainValue (compactTerminalValue receipt) = true := by
    simpa [compactTerminalValue, Value.ofFields, Fields.ofList, plainValue, plainFields,
      Value.ofNat] using isU64Lexeme_toString hlt
  have hdepth : (compactTerminalValue receipt).depth ≤ 127 := by
    simp [compactTerminalValue, Value.ofFields, Fields.ofList, Value.depth, Fields.depth,
      Value.ofNat]
  exact Option.isSome_iff_exists.mp (crates.fromStr_render _ hplain hdepth)

/-- The record that the receipt columns of an ended handoff are read as. -/
private def endRecord (receipt : WorkerTerminalReceipt) (digest : String) :
    WorkerTerminalRecord where
  status := receipt.status
  checkpointSequence := receipt.checkpointSequence
  terminalRef := receipt.terminalRef
  resultDigest := receipt.resultDigest
  terminalDigest := digest

private theorem terminalFromRow_terminate {digest : String}
    (hreceipt : validateTerminalReceipt receipt = .ok ()) (hdigest : isDigest digest = true) :
    terminalFromRow (h.terminate receipt receipt.checkpointSequence now resultText digest) =
      .ok (some (endRecord receipt digest)) := by
  obtain ⟨hname, hresult, hsequence⟩ := validateTerminalReceipt_eq_ok hreceipt
  have href : projectText 1024 '\x01' (some receipt.terminalRef) = some receipt.terminalRef :=
    projectText_eq_self (by rintro _ ⟨⟩; exact isName_size hname)
  have hresultText : projectText 64 '\x01' (some receipt.resultDigest) = some receipt.resultDigest :=
    projectText_eq_self (by rintro _ ⟨⟩; exact (isDigest_size hresult).le)
  have hdigestText : projectText 64 '\x01' (some digest) = some digest :=
    projectText_eq_self (by rintro _ ⟨⟩; exact (isDigest_size hdigest).le)
  simp only [terminalFromRow, HandoffRow.terminate, href, hresultText, hdigestText, bind_eq_ok,
    exists_const, ensure_eq_ok, toSqliteError_eq_ok, validateName_eq_ok, validateDigestValue_eq_ok]
  exact ⟨hsequence, hname, hresult, hdigest, rfl⟩

/-- The lifecycle columns of a handoff whose episode may end. -/
private theorem columns_of_dispatched {terminal : Option WorkerTerminalRecord}
    (hh : h.Readable crates terminal)
    (hstate : h.state = .mayHaveBeenDispatched ∨ h.state = .admitted) :
    h.dispatchedAtMs.isSome ∧ h.acknowledgedAtMs = none := by
  have hcolumns := hh.columns
  rcases hstate with hstate | hstate <;>
    simp only [lifecycleColumnsConsistent, hstate, Bool.and_eq_true, Option.isNone_iff_eq_none]
      at hcolumns
  all_goals exact ⟨hcolumns.1.1.1.2, hcolumns.2⟩

/-- Times within the life of a handoff do not follow its end. -/
private theorem not_outOfOrder {time : Option Nat} (h : ∀ t ∈ time, t ≤ now) :
    ¬ outOfOrder time (some now) = true := by
  cases time with
  | none => simp [outOfOrder]
  | some t => simpa [outOfOrder] using h t rfl

private theorem readable_terminate {terminal : Option WorkerTerminalRecord}
    (hh : h.Readable crates terminal) (hreceipt : validateTerminalReceipt receipt = .ok ())
    (hresult : compactTerminalResult crates receipt = .ok (resultText, resultDigest))
    (hstate : h.state = .mayHaveBeenDispatched ∨ h.state = .admitted)
    (htime : h.updatedAtMs ≤ now) :
    (h.terminate receipt receipt.checkpointSequence now resultText
      (terminalDigest crates h.tuple receipt)).Readable crates
        (some (endRecord receipt (terminalDigest crates h.tuple receipt))) := by
  obtain ⟨-, hsize, -⟩ := compactTerminalResult_eq_ok hresult
  obtain ⟨hdispatched, hacknowledged⟩ := columns_of_dispatched hh hstate
  obtain ⟨hdispatch, hadmission, -, -⟩ := forall_transitionTimes.mp (widen hh.times htime)
  have hcreated := hh.created
  have hterminal : receipt.status.handoffState.isTerminal = true := by
    cases receipt.status <;> rfl
  exact {
    identity := hh.identity
    receipt := terminalFromRow_terminate hreceipt (isDigest_hexDigest _)
    created := by simp only [HandoffRow.terminate]; omega
    times := by
      refine forall_transitionTimes.mpr ⟨hdispatch, hadmission, ?_, ?_⟩
      · rintro t ⟨⟩
        exact ⟨by simp only [HandoffRow.terminate]; omega, le_rfl⟩
      · simp [HandoffRow.terminate, hacknowledged]
    present := by simp [HandoffRow.terminate, hterminal]
    columns := by
      cases hstatus : receipt.status <;>
        simp [lifecycleColumnsConsistent, HandoffRow.terminate, WorkerTerminalStatus.handoffState,
          hstatus, hdispatched, hacknowledged]
    admission := hh.admission
    ended := ⟨not_outOfOrder fun t ht => (hadmission t ht).2,
      not_outOfOrder fun t ht => (hdispatch t ht).2⟩
    acknowledgment := by simp [outOfOrder, HandoffRow.terminate, hacknowledged]
    evidence := by
      rintro record ⟨⟩
      refine validateReceiptEvidence_eq_ok.mpr ⟨rfl, ⟨resultText, resultDigest, hresult, ?_⟩, ?_⟩
      · exact projectText_eq_self (by rintro _ ⟨⟩; exact hsize)
      · simp only [endRecord, HandoffRow.terminate]
        cases receipt.status <;> rfl }

/-- The stored result of a job that ends with `text`. -/
private theorem stored_result (hresult : j.result = some resultText)
    (hdigest : j.completionDigest = some (hexDigest crates resultText))
    (hsize : resultText.utf8ByteSize ≤ 65536) :
    j.resultText = some resultText ∧ j.resultDigest = some (hexDigest crates resultText) := by
  rw [JobRow.resultText, JobRow.resultDigest, hresult, hdigest]
  have hdigestSize : (hexDigest crates resultText).utf8ByteSize = 64 :=
    isDigest_size (isDigest_hexDigest resultText)
  exact ⟨projectText_eq_self (by rintro _ ⟨⟩; exact hsize),
    projectText_eq_self (by rintro _ ⟨⟩; exact hdigestSize.le)⟩

private theorem readable_terminate_job (hj : j.Readable crates bound)
    (hreceipt : validateTerminalReceipt receipt = .ok ())
    (hresult : compactTerminalResult crates receipt = .ok (resultText, resultDigest))
    (hstatus : j.status ≠ .queued) (hclaimed : j.claimedAtMs.isSome ∧ ∀ t ∈ j.claimedAtMs, t ≤ now)
    (hcreated : j.createdAtMs ≤ now) :
    (j.terminate receipt now resultText resultDigest).Readable crates bound := by
  obtain ⟨hname, -, hsequence⟩ := validateTerminalReceipt_eq_ok hreceipt
  obtain ⟨htext, hsize, rfl⟩ := compactTerminalResult_eq_ok hresult
  obtain ⟨value, hvalue⟩ : ∃ value, crates.fromStr resultText = some value :=
    htext ▸ fromStr_compact hsequence
  have hretry : j.nextRetryAtMs = none := hj.retry.resolve_left hstatus
  have hevidence : ∀ j' : JobRow, j'.result = some resultText →
      j'.completionDigest = some (hexDigest crates resultText) →
      ∀ text ∈ j'.resultText, (crates.fromStr text).isSome ∧
        ∀ digest ∈ j'.resultDigest, isDigest digest = true ∧ hexDigest crates text = digest := by
    intro j' hj' hdigest'
    obtain ⟨hstored, hstoredDigest⟩ := stored_result hj' hdigest' hsize
    rw [hstored, hstoredDigest]
    rintro _ ⟨⟩
    refine ⟨by rw [hvalue]; rfl, ?_⟩
    rintro _ ⟨⟩
    exact ⟨isDigest_hexDigest _, rfl⟩
  unfold JobRow.terminate
  cases receipt.status with
  | completed =>
    exact { hj with
      lastError := by simp [JobRow.complete]
      evidence := rfl
      result := hevidence _ rfl rfl
      times := ⟨hj.times.1, not_outOfOrder (by rintro _ ⟨⟩; exact hcreated),
        not_outOfOrder hclaimed.2⟩
      retry := .inr hretry
      running := by simp [JobRow.complete]
      completed := fun _ => ⟨hclaimed.1, rfl, rfl⟩ }
  | failed =>
    have hnul : containsNul receipt.terminalRef = false := by
      simp only [isName, Bool.and_eq_true, Bool.not_eq_true'] at hname
      exact hname.1.2
    have hrefSize := isName_size hname
    exact { hj with
      lastError := by
        rintro _ ⟨⟩
        exact ⟨by omega, hnul⟩
      workerId := by simp [JobRow.failTerminal]
      evidence := rfl
      result := hevidence _ rfl rfl
      retry := .inr hretry
      running := by simp [JobRow.failTerminal]
      completed := by simp [JobRow.failTerminal] }

/-- The job and the attempt of an episode that has ended agree with its receipt. -/
private theorem closedPair_terminate {digest : String}
    (hreceipt : validateTerminalReceipt receipt = .ok ())
    (hresult : compactTerminalResult crates receipt = .ok (resultText, resultDigest))
    (hopened : OpenPair h j a) (hcompleted : j.completedAtMs = none) :
    ClosedPair crates (h.terminate receipt receipt.checkpointSequence now resultText digest)
      (endRecord receipt digest) (j.terminate receipt now resultText resultDigest)
      (a.finish receipt.status.attemptStatus now receipt.status.outcome) := by
  obtain ⟨-, -, hsequence⟩ := validateTerminalReceipt_eq_ok hreceipt
  obtain ⟨htext, hsize, rfl⟩ := compactTerminalResult_eq_ok hresult
  obtain ⟨value, hvalue⟩ : ∃ value, crates.fromStr resultText = some value :=
    htext ▸ fromStr_compact hsequence
  have hstored : (j.terminate receipt now resultText (hexDigest crates resultText)).resultText =
        some resultText ∧
      (j.terminate receipt now resultText (hexDigest crates resultText)).resultDigest =
        some (hexDigest crates resultText) := by
    unfold JobRow.terminate
    cases receipt.status <;> exact stored_result rfl rfl hsize
  refine ⟨⟨resultText, value, projectText_eq_self (by rintro _ ⟨⟩; exact hsize), hvalue, ?_,
    hstored.2⟩, rfl, fun hstatus => ?_, fun hstatus => ?_⟩
  · rw [hstored.1]
    exact hvalue
  · have hstatus : receipt.status = .completed := hstatus
    rw [JobRow.terminate, hstatus]
    exact ⟨rfl, rfl, rfl, rfl, hopened.workerId⟩
  · have hstatus : receipt.status = .failed := hstatus
    rw [JobRow.terminate, hstatus]
    exact ⟨rfl, rfl, hcompleted, rfl, rfl⟩

/-- The end of an episode keeps the rows of its handoff loadable. -/
theorem RowsLoad.terminate (hload : RowsLoad crates bound h j a)
    (hreceipt : validateTerminalReceipt receipt = .ok ())
    (hresult : compactTerminalResult crates receipt = .ok (resultText, resultDigest))
    (hstate : h.state = .mayHaveBeenDispatched ∨ h.state = .admitted)
    (hcompleted : j.completedAtMs = none) (htime : h.updatedAtMs ≤ now) :
    RowsLoad crates bound
      (h.terminate receipt receipt.checkpointSequence now resultText
        (terminalDigest crates h.tuple receipt))
      (j.terminate receipt now resultText resultDigest)
      (a.finish receipt.status.attemptStatus now receipt.status.outcome) := by
  obtain ⟨terminal, hh, hj, ha, hrelated⟩ := rowsLoad_iff.mp hload
  have hopened := hrelated.opened (by rcases hstate with hstate | hstate <;> rw [hstate] <;> rfl)
  have hcreated := hh.created
  obtain ⟨hid, hkind, hdigest, hpayload, hcount, hclaimed⟩ := hrelated.job
  have hstarted : a.startedAtMs ≤ now := by
    have hstarted := hrelated.attempt.2.2.2.2.2
    omega
  have hjobCreated : j.createdAtMs ≤ now := by
    have hordered := hj.times.1
    rw [hclaimed] at hordered
    simp only [outOfOrder, decide_eq_true_eq, not_lt] at hordered
    omega
  have hjReadable : (j.terminate receipt now resultText resultDigest).Readable crates bound := by
    refine readable_terminate_job hj hreceipt hresult ?_ ⟨by rw [hclaimed]; rfl, ?_⟩ hjobCreated
    · rcases hopened.status with hstatus | hstatus <;> simp [hstatus]
    · rw [hclaimed]
      rintro _ ⟨⟩
      omega
  have haReadable : (a.finish receipt.status.attemptStatus now receipt.status.outcome).Readable :=
    { ha with times := not_outOfOrder (by rintro _ ⟨⟩; exact hstarted) }
  refine rowsLoad_iff.mpr ⟨_, readable_terminate hh hreceipt hresult hstate htime, hjReadable,
    haReadable, ?_⟩
  exact {
    attempt := hrelated.attempt
    job := by
      unfold JobRow.terminate
      cases receipt.status <;> exact hrelated.job
    opened := by
      simp only [HandoffRow.terminate]
      cases receipt.status <;> simp [WorkerTerminalStatus.handoffState, WorkerHandoffState.unresolved]
    closed := by
      rintro record ⟨⟩
      exact closedPair_terminate hreceipt hresult hopened hcompleted }

end Terminate

/-! ### Taking a job out of the scheduler -/

/-- The handoff of a running job is unresolved, unless it was rejected. -/
theorem RowsLoad.unresolved_of_running (hload : RowsLoad crates bound h j a)
    (hstate : h.state ≠ .rejected) (hrunning : j.status = .running) :
    h.state.unresolved = true := by
  obtain ⟨terminal, hh, -, -, hrelated⟩ := rowsLoad_iff.mp hload
  rcases hh.cases with hunresolved | ⟨record, rfl⟩ | ⟨hrejected, -⟩
  · exact hunresolved
  · have hclosed := hrelated.closed record rfl
    cases hstatus : record.status with
    | completed => simp [(hclosed.completed hstatus).1] at hrunning
    | failed => simp [(hclosed.failed hstatus).1] at hrunning
  · exact absurd hrejected hstate

/-- A running job may be taken out of the scheduler: its attempt becomes `unknown`. -/
theorem RowsLoad.abandon {error outcome : String} (hload : RowsLoad crates bound h j a)
    (hstate : h.state ≠ .rejected) (hrunning : j.status = .running)
    (herror : error.utf8ByteSize ≤ 16384 ∧ containsNul error = false)
    (htime : a.startedAtMs ≤ now) :
    RowsLoad crates bound h
      { j with status := .quarantined, nextRetryAtMs := none, lastError := some error }
      (a.finish .unknown now outcome) := by
  have hunresolved := hload.unresolved_of_running hstate hrunning
  obtain ⟨terminal, hh, hj, ha, hrelated⟩ := rowsLoad_iff.mp hload
  obtain ⟨rfl, -⟩ := terminal_eq_none hh hunresolved
  have hopened := hrelated.opened hunresolved
  refine rowsLoad_iff.mpr ⟨none, hh, ?_, ?_, ?_⟩
  · exact { hj with
      lastError := by rintro _ ⟨⟩; exact herror
      retry := .inr rfl
      running := nofun
      completed := nofun }
  · exact { ha with times := not_outOfOrder (by rintro _ ⟨⟩; exact htime) }
  · exact { hrelated with
      opened := fun _ => ⟨.inr rfl, hopened.result, nofun, fun _ => rfl, hopened.workerId⟩
      closed := nofun }

/-- A job that has failed may not: its handoff is lost. -/
theorem not_rowsLoad_of_quarantined {j' : JobRow} {a' : AttemptRow}
    (hload : RowsLoad crates bound h j a) (hstate : h.state ≠ .rejected)
    (hfailed : j.status = .failed) (hquarantined : j'.status = .quarantined) (bound' : Nat) :
    ¬ RowsLoad crates bound' h j' a' := by
  intro hload'
  obtain ⟨terminal, hh, -, -, hrelated⟩ := rowsLoad_iff.mp hload
  obtain ⟨terminal', hh', -, -, hrelated'⟩ := rowsLoad_iff.mp hload'
  rcases hh.cases with hunresolved | ⟨record, rfl⟩ | ⟨hrejected, -⟩
  · rcases (hrelated.opened hunresolved).status with hstatus | hstatus <;>
      simp [hstatus] at hfailed
  · -- the receipt columns are the same, and no outcome of a receipt is a quarantine
    obtain rfl : terminal' = some record :=
      Except.ok.inj (hh'.receipt.symm.trans hh.receipt)
    have hclosed := hrelated'.closed record rfl
    cases hstatus : record.status with
    | completed => simp [(hclosed.completed hstatus).1] at hquarantined
    | failed => simp [(hclosed.failed hstatus).1] at hquarantined
  · exact absurd hrejected hstate

/-! ### The rows of one job -/

/-- What the row of a job has besides its handoffs: a claim may take it when it is queued, and a
receipt may end it when it is not completed. -/
structure JobRow.Sound (j : JobRow) : Prop where
  lastError : ∀ e ∈ j.lastError, e.utf8ByteSize ≤ 16384 ∧ containsNul e = false
  completedAt : j.status ≠ .completed → j.completedAtMs = none
  queued : j.status = .queued → j.result = none ∧ j.completionDigest = none

/-- The row of a job is sound and its handoffs load. No attempt has started after `clock`. -/
structure JobView.Loadable (crates : Crates) (bound clock : Nat) (v : JobView) : Prop where
  row : ∀ j ∈ v.row, j.Sound
  started : ∀ a ∈ v.attempts, a.startedAtMs ≤ clock
  handoffs : ∀ h ∈ v.handoffs, h.state ≠ .rejected ∧ bound < 2 ^ 63 ∧
    ∃ j ∈ v.row, ∃ a ∈ v.attempts, RowsLoad crates bound h j a

theorem loadable_empty (bound clock : Nat) :
    JobView.Loadable crates bound clock ⟨none, [], []⟩ :=
  ⟨by simp, by simp, by simp⟩

section View

variable {clock : Nat} {op : Op} {v : JobView} {w : JobWrite} {i : String}

theorem JobView.Loadable.mono (hv : v.Loadable crates bound clock) {clock' : Nat}
    (hclock : clock ≤ clock') : v.Loadable crates bound clock' :=
  { hv with started := fun a ha => (hv.started a ha).trans hclock }

/-- A write without new rows has to keep the row sound and the rows of every handoff loadable. -/
theorem JobView.Loadable.rewrite (hv : v.Loadable crates bound clock)
    (hnew : w.newJob = none ∧ w.newAttempt = none ∧ w.newHandoff = none)
    (hjob : ∀ j ∈ v.row, w.jobSel j = true → (w.job j).Sound)
    (hstarted : ∀ a, (w.attempt a).startedAtMs = a.startedAtMs)
    (hload : ∀ h ∈ v.handoffs, ∀ j ∈ v.row, ∀ a ∈ v.attempts, h.state ≠ .rejected →
      RowsLoad crates bound h j a →
        (if w.handoffSel h then w.handoff h else h).state ≠ .rejected ∧
          RowsLoad crates bound (if w.handoffSel h then w.handoff h else h)
            (if w.jobSel j then w.job j else j) (if w.attemptSel a then w.attempt a else a)) :
    (v.apply w).Loadable crates bound clock := by
  obtain ⟨hnewJob, hnewAttempt, hnewHandoff⟩ := hnew
  refine ⟨fun j' hj' => ?_, fun a' ha' => ?_, fun h' hh' => ?_⟩
  · obtain ⟨j, hrow, rfl⟩ := JobView.exists_row_of_apply hnewJob hj'
    by_cases hsel : w.jobSel j = true
    · rw [if_pos hsel]
      exact hjob j hrow hsel
    · rw [if_neg hsel]
      exact hv.row j hrow
  · rw [JobView.apply_attempts hnewAttempt] at ha'
    rcases mem_updateWhere_cases ha' with ⟨ha, -⟩ | ⟨a, ha, -, rfl⟩
    · exact hv.started a' ha
    · rw [hstarted]
      exact hv.started a ha
  · rcases JobView.mem_apply_handoffs hh' with ⟨h, hh, rfl⟩ | hnew
    · obtain ⟨hstate, hbound, j, hj, a, ha, hrows⟩ := hv.handoffs h hh
      obtain ⟨hstate', hrows'⟩ := hload h hh j hj a ha hstate hrows
      refine ⟨hstate', hbound, _, JobView.apply_row hj, _, ?_, hrows'⟩
      rw [JobView.apply_attempts hnewAttempt]
      exact mem_updateWhere.mpr ⟨a, ha, rfl⟩
    · rw [hnewHandoff] at hnew
      cases hnew

/-- The operations of a production deployment: everything but the direct claim, completion and
failure of a job, and the restore of a backup. -/
def Op.production : Op → Bool
  | .claimNextJob .. | .completeJobAt .. | .failJobAt .. | .restore .. => false
  | _ => true

/-- The attempt that an operator quarantine names. -/
def Op.quarantines : Op → Option String
  | .admitOperatorQuarantine _ attemptId _ _ _ => some attemptId
  | _ => none

private theorem loadable_submit {row : JobRow} (hkeys : v.Keyed i) (hrow : v.row = none)
    (hsound : row.Sound) : (v.apply (submitWrite row)).Loadable crates bound clock := by
  obtain ⟨hattempts, hhandoffs⟩ := hkeys.empty hrow
  refine ⟨fun j' hj' => ?_, ?_, ?_⟩
  · simp only [JobView.apply, hrow, submitWrite, Option.map_none, Option.none_or] at hj'
    cases hj'
    exact hsound
  · simp [JobView.apply, hattempts, submitWrite]
  · simp [JobView.apply, hhandoffs, submitWrite]

private theorem loadable_claim {witness : WorkerClaimWitness} {ids : HandoffIds}
    (hv : v.Loadable crates bound now) (hsingle : v.SingleHandoff) (hrow : v.row = some j)
    (hepisode : ClaimsEpisode crates bound witness now j)
    (hsettled : ∀ h ∈ v.handoffs, h.state.unresolved = false) :
    (v.apply (claimHandoffWrite j witness ids now)).Loadable crates bound now := by
  have hnil : v.handoffs = [] := hsingle.handoffs_eq_nil hrow hepisode.queued hsettled
  have hsound := hv.row j hrow
  have hnone : j.completedAtMs = none := hsound.completedAt (by simp [hepisode.queued])
  have hrow' : (v.apply (claimHandoffWrite j witness ids now)).row =
      some (j.claimHandoff now witness.workerOwnerId (j.attemptCount + 1)) := by
    rw [JobView.apply_row hrow]
    simp [claimHandoffWrite, hepisode.queued, hepisode.created, hepisode.due]
  refine ⟨fun j' hj' => ?_, fun a' ha' => ?_, fun h' hh' => ?_⟩
  · rw [hrow'] at hj'
    cases hj'
    exact ⟨hsound.lastError, fun _ => hnone, by simp [JobRow.claimHandoff, JobRow.claim]⟩
  · rcases List.mem_append.mp ha' with ha' | ha'
    · simp only [claimHandoffWrite, updateWhere_false] at ha'
      exact hv.started a' ha'
    · simp only [claimHandoffWrite, Option.toList_some, List.mem_singleton] at ha'
      rw [ha']
      exact le_rfl
  · simp only [JobView.apply, claimHandoffWrite, hnil, updateWhere_nil, List.nil_append,
      Option.toList_some, List.mem_singleton] at hh'
    subst hh'
    refine ⟨by simp [preparedHandoff], hepisode.boundRange, _, hrow',
      claimedAttempt ids.attemptId.text j.id (j.attemptCount + 1) now witness.workerOwnerId,
      ?_, ?_⟩
    · simp [JobView.apply, claimHandoffWrite]
    · exact claimed_rowsLoad hepisode hsound.lastError
        ⟨hnone, hsound.queued hepisode.queued⟩

/-- A transition of one handoff that leaves its job and its attempt alone. -/
private theorem loadable_transition {tuple : WorkerHandoffTuple} {h₀ : HandoffRow}
    (hv : v.Loadable crates bound clock) (hkeys : v.Keyed i)
    (hloaded : LoadedRows crates bound v tuple h₀ j a)
    (hnew : w.newJob = none ∧ w.newAttempt = none ∧ w.newHandoff = none)
    (hjob : ∀ j, w.jobSel j = false) (hattempt : ∀ a, w.attemptSel a = false)
    (hstarted : ∀ a, (w.attempt a).startedAtMs = a.startedAtMs)
    (hsel : ∀ h, w.handoffSel h = true → h.handoffId = tuple.handoffId)
    (hstate : (w.handoff h₀).state ≠ .rejected)
    (hload : ∀ j a, RowsLoad crates bound h₀ j a → RowsLoad crates bound (w.handoff h₀) j a) :
    (v.apply w).Loadable crates bound clock := by
  refine hv.rewrite hnew (fun j _ hj => ?_) hstarted fun h hh j _ a _ hne hrows => ?_
  · rw [hjob] at hj
    cases hj
  · rw [hjob, hattempt, if_neg Bool.false_ne_true, if_neg Bool.false_ne_true]
    by_cases hselected : w.handoffSel h = true
    · have hid : h.handoffId = h₀.handoffId :=
        (hsel h hselected).trans (by rw [← hloaded.tuple]; rfl)
      obtain rfl := eq_of_key_eq hkeys.handoffIds hh hloaded.handoff hid
      rw [if_pos hselected]
      exact ⟨hstate, hload j a hrows⟩
    · rw [if_neg hselected]
      exact ⟨hne, hrows⟩

private theorem sound_terminate {receipt : WorkerTerminalReceipt} {resultText resultDigest : String}
    (hname : isName receipt.terminalRef 1024 = true) (hcompleted : j.completedAtMs = none) :
    (j.terminate receipt now resultText resultDigest).Sound := by
  have hsize := isName_size hname
  simp only [isName, Bool.and_eq_true, Bool.not_eq_true'] at hname
  unfold JobRow.terminate
  cases receipt.status with
  | completed => refine ⟨?_, ?_, ?_⟩ <;> simp [JobRow.complete]
  | failed =>
    refine ⟨?_, fun _ => hcompleted, by simp [JobRow.failTerminal]⟩
    rintro _ ⟨⟩
    exact ⟨by omega, hname.1.2⟩

private theorem loadable_terminate {tuple : WorkerHandoffTuple} {receipt : WorkerTerminalReceipt}
    {resultText resultDigest : String} (hv : v.Loadable crates bound clock) (hkeys : v.Keyed i)
    (hsingle : v.SingleHandoff) (hloaded : LoadedRows crates bound v tuple h j a)
    (hreceipt : validateTerminalReceipt receipt = .ok ())
    (hresult : compactTerminalResult crates receipt = .ok (resultText, resultDigest))
    (hstate : h.state = .mayHaveBeenDispatched ∨ h.state = .admitted)
    (hadmissible : terminallyAdmissible j.status a.status = true)
    (htime : h.updatedAtMs ≤ now) :
    (v.apply (terminateWrite crates tuple receipt j a now resultText
      resultDigest)).Loadable crates bound clock := by
  have hnotCompleted : j.status ≠ .completed := by
    intro hcompleted
    simp [terminallyAdmissible, hcompleted] at hadmissible
  have hcompleted := (hv.row j hloaded.row).completedAt hnotCompleted
  obtain ⟨hname, -, -⟩ := validateTerminalReceipt_eq_ok hreceipt
  refine hv.rewrite ⟨rfl, rfl, rfl⟩ (fun j' hj' _ => ?_) (fun _ => rfl)
    fun h' hh' j' hj' a' ha' _ hrows => ?_
  · obtain rfl := Option.some.inj (hloaded.row.symm.trans hj')
    exact sound_terminate hname hcompleted
  · -- the view has one handoff, so these are the rows that the transition has loaded
    obtain rfl := Option.some.inj (hloaded.row.symm.trans hj')
    obtain rfl := hsingle.eq_of_mem hh' hloaded.handoff
    obtain ⟨terminal, -, -, -, hrelated⟩ := rowsLoad_iff.mp hrows
    obtain rfl : a' = a := eq_of_key_eq hkeys.attemptIds ha' hloaded.attempt
      (hrelated.attempt.1.trans hloaded.attemptId.symm)
    have htuple := hloaded.tuple
    subst htuple
    have hhandoffSel : (terminateWrite crates h'.tuple receipt j a' now resultText
        resultDigest).handoffSel h' = true := by
      rcases hstate with hstate | hstate <;> simp [terminateWrite, HandoffRow.tuple, hstate]
    have hjobSel : (terminateWrite crates h'.tuple receipt j a' now resultText
        resultDigest).jobSel j = true := by
      simp [terminateWrite, HandoffRow.tuple, hloaded.jobId]
    have hattemptSel : (terminateWrite crates h'.tuple receipt j a' now resultText
        resultDigest).attemptSel a' = true := by
      simp [terminateWrite, HandoffRow.tuple, hloaded.attemptId, hrelated.attempt.2.1]
    rw [if_pos hhandoffSel, if_pos hjobSel, if_pos hattemptSel]
    refine ⟨?_, hrows.terminate hreceipt hresult hstate hcompleted htime⟩
    simp only [terminateWrite, HandoffRow.terminate]
    cases receipt.status <;> simp [WorkerTerminalStatus.handoffState]

/-- Texts that fit in the error column of a job. -/
theorem lastError_of_isName {reason : String} {maxBytes : Nat}
    (h : isName reason maxBytes = true) (hmax : maxBytes ≤ 16384) :
    reason.utf8ByteSize ≤ 16384 ∧ containsNul reason = false := by
  have hsize := isName_size h
  simp only [isName, Bool.and_eq_true, Bool.not_eq_true'] at h
  exact ⟨by omega, h.1.2⟩

/-- A running job is taken out of the scheduler, with its running attempt. -/
private theorem loadable_abandon (error outcome : String) (hv : v.Loadable crates bound now)
    (hrow : v.row = some j) (hrunning : j.status = .running)
    (herror : error.utf8ByteSize ≤ 16384 ∧ containsNul error = false)
    (hnew : w.newJob = none ∧ w.newAttempt = none ∧ w.newHandoff = none)
    (hhandoffSel : ∀ h, w.handoffSel h = false) (hjobSel : w.jobSel j = true)
    (hjob : w.job j = { j with
      status := .quarantined, nextRetryAtMs := (w.job j).nextRetryAtMs, lastError := some error })
    (hretry : j.nextRetryAtMs = none → (w.job j).nextRetryAtMs = none)
    (hattemptSel : ∀ a ∈ v.attempts, a.status = .running → w.attemptSel a = true)
    (hattempt : ∀ a, w.attempt a = a.finish .unknown now outcome) :
    (v.apply w).Loadable crates bound now := by
  refine hv.rewrite hnew (fun j' hj' _ => ?_) (fun a => by rw [hattempt]; rfl)
    fun h hh j' hj' a ha hstate hrows => ?_
  · obtain rfl := Option.some.inj (hrow.symm.trans hj')
    rw [hjob]
    refine ⟨?_, fun _ => (hv.row j hrow).completedAt (by simp [hrunning]), nofun⟩
    rintro _ ⟨⟩
    exact herror
  · obtain rfl := Option.some.inj (hrow.symm.trans hj')
    have hunresolved := hrows.unresolved_of_running hstate hrunning
    have hload : RowsLoad crates bound h _ (a.finish .unknown now outcome) :=
      hrows.abandon hstate hrunning herror (hv.started a ha)
    obtain ⟨terminal, -, hj, -, hrelated⟩ := rowsLoad_iff.mp hrows
    have harunning := ((hrelated.opened hunresolved).running hrunning).1
    rw [hhandoffSel, if_neg Bool.false_ne_true, if_pos hjobSel,
      if_pos (hattemptSel a ha harunning), hjob, hattempt,
      hretry (hj.retry.resolve_left (by simp [hrunning]))]
    exact ⟨hstate, hload⟩

/-- One write of a production operation keeps the rows of a job loadable, when it is not an
operator quarantine of a failed job with a handoff. -/
theorem JobView.Loadable.apply (hv : v.Loadable crates bound op.nowMs) (hkeys : v.Keyed i)
    (hcoherent : v.Coherent) (hsingle : v.SingleHandoff) (hop : op.production = true)
    (hsafe : ∀ a ∈ v.attempts, op.quarantines = some a.id →
      ∀ j ∈ v.row, j.status = .failed → v.handoffs = [])
    (hw : Writes crates bound op v w) : (v.apply w).Loadable crates bound op.nowMs := by
  cases hw with
  | claim | complete | fail | restore => cases hop
  | submit _ hrow =>
    exact loadable_submit hkeys hrow ⟨by simp [submittedJob], fun _ => rfl, fun _ => ⟨rfl, rfl⟩⟩
  | claimHandoff hrow hepisode _ hsettled => exact loadable_claim hv hsingle hrow hepisode hsettled
  | @interrupt _ j _ now hrow hrunning =>
    refine loadable_abandon "daemon interrupted; outcome unknown" "daemon_interrupted" hv hrow
      hrunning (by decide +kernel) ⟨rfl, rfl, rfl⟩ (fun _ => rfl)
      (by simp [interruptWrite, hrunning]) rfl id (fun a ha harunning => ?_) fun _ => rfl
    simp [interruptWrite, harunning, hkeys.attemptJob a ha, hkeys.rowId j hrow]
  | dispatch hloaded hstate htime =>
    exact loadable_transition hv hkeys hloaded ⟨rfl, rfl, rfl⟩ (fun _ => rfl) (fun _ => rfl)
      (fun _ => rfl) (by simp +contextual [dispatchWrite])
      (by simp [dispatchWrite, HandoffRow.markDispatched])
      fun j a hrows => hrows.dispatch hstate htime.1
  | admission hloaded hstate htime =>
    exact loadable_transition hv hkeys hloaded ⟨rfl, rfl, rfl⟩ (fun _ => rfl) (fun _ => rfl)
      (fun _ => rfl) (by simp +contextual [admitWrite])
      (by simp [admitWrite, HandoffRow.markAdmitted])
      fun j a hrows => hrows.admission hstate htime.1
  | acknowledge hloaded hstate _ htime =>
    exact loadable_transition hv hkeys hloaded ⟨rfl, rfl, rfl⟩ (fun _ => rfl) (fun _ => rfl)
      (fun _ => rfl) (by simp +contextual [acknowledgeWrite])
      (by simp [acknowledgeWrite, HandoffRow.markAcknowledged])
      fun j a hrows => hrows.acknowledge hstate htime.1
  | terminate hloaded hreceipt hresult hstate hadmissible htime =>
    exact loadable_terminate hv hkeys hsingle hloaded hreceipt hresult hstate hadmissible htime.1
  | @quarantine _ _ reason _ j a₀ now hrow hlatest hreason _ hstatus =>
    have herror := lastError_of_isName hreason (by decide)
    have hid : j.id = a₀.jobId :=
      (hkeys.rowId j hrow).trans (hkeys.attemptJob a₀ hlatest.1).symm
    have hlast := hcoherent.getLast?_of_latest hkeys hlatest
    rcases hstatus with hrunning | hfailed
    · refine loadable_abandon reason s!"operator_quarantine:{reason}" hv hrow hrunning herror
        ⟨rfl, rfl, rfl⟩ (fun _ => rfl) (by simp [quarantineWrite, hrunning, hid]) rfl
        (fun _ => rfl) (fun a ha harunning => ?_) fun _ => rfl
      -- a running attempt is the latest one, which the operator has named
      have hlast' := hcoherent.getLast?_of_not_failed ha (by simp [harunning])
      obtain rfl := Option.some.inj (hlast.symm.trans hlast')
      simp [quarantineWrite, harunning]
    · refine hv.rewrite ⟨rfl, rfl, rfl⟩ (fun j' hj' _ => ?_) (fun _ => rfl) fun h hh => ?_
      · obtain rfl := Option.some.inj (hrow.symm.trans hj')
        refine ⟨?_, fun _ => (hv.row j hrow).completedAt (by simp [hfailed]), fun h => by cases h⟩
        rintro _ ⟨⟩
        exact herror
      · rw [hsafe a₀ hlatest.1 rfl j hrow hfailed] at hh
        cases hh
  | @retry _ _ _ _ j a₀ now hrow _ _ _ hresult hhandoffs =>
    refine hv.rewrite ⟨rfl, rfl, rfl⟩ (fun j' hj' _ => ?_) (fun _ => rfl) fun h hh => ?_
    · obtain rfl := Option.some.inj (hrow.symm.trans hj')
      exact ⟨(hv.row j hrow).lastError, fun _ => hresult.1, fun _ => hresult.2⟩
    · rw [hhandoffs] at hh
      cases hh

end View

/-! ### The tables -/

/-- The rows of every job are loadable, at a time `clock`. -/
structure Store.Loadable (crates : Crates) (clock : Nat) (s : Store) : Prop where
  keyed : s.queue.Keyed
  view : ∀ i, (s.queue.view i).Loadable crates s.maxPayloadBytes clock
  coherent : ∀ i, (s.queue.view i).Coherent
  single : ∀ i, (s.queue.view i).SingleHandoff

section Store

variable {clock : Nat} {op : Op} {s s' : Store}

theorem loadable_fresh {config : StoreConfig} {epoch : UuidV4}
    (hinit : Store.initialize config now epoch = .ok s) : s.Loadable crates clock := by
  have hqueue := initialize_queue hinit
  have hview : ∀ i, s.queue.view i = ⟨none, [], []⟩ := fun i => by rw [hqueue]; rfl
  refine ⟨initialize_keyed hinit, fun i => ?_, fun i => ?_, fun i => ?_⟩ <;> rw [hview i]
  · exact loadable_empty _ _
  · exact coherent_empty
  · exact singleHandoff_empty

/-- In a loadable store every handoff can be read back. -/
theorem Store.Loadable.allLoad (hs : s.Loadable crates clock) : s.AllLoad crates := by
  refine (allLoad_iff hs.keyed).mpr fun h hh => ?_
  obtain ⟨-, hbound, j, hj, a, ha, hrows⟩ := (hs.view h.jobId).handoffs h (mem_view_handoffs hh)
  obtain ⟨terminal, -, -, -, hrelated⟩ := rowsLoad_iff.mp hrows
  exact ⟨j, a, hbound, hj, (lookup_eq_some hs.keyed.attemptIds).mpr
    ⟨(mem_of_mem_view_attempts ha).1, hrelated.attempt.1⟩, hrows⟩

/-- A transaction of a production operation keeps the store loadable, when it does not
quarantine a failed job with a handoff. -/
theorem Store.Loadable.step (hs : s.Loadable crates op.nowMs) (hop : op.production = true)
    (hsafe : ∀ a ∈ s.attempts, op.quarantines = some a.id → ∀ j ∈ s.jobs, j.id = a.jobId →
      j.status = .failed → ∀ h ∈ s.handoffs, h.jobId ≠ j.id)
    (hstep : QueueStep crates op s s') : s'.Loadable crates op.nowMs := by
  have hbound : s'.maxPayloadBytes = s.maxPayloadBytes :=
    hstep.maxPayloadBytes fun _ _ _ heq => by rw [heq] at hop; cases hop
  refine ⟨hstep.keyed hs.keyed, fun i => ?_, fun i => ?_, fun i => ?_⟩
  all_goals
    have hkeys := hs.keyed.view i
    obtain hview | ⟨w, hw, hview⟩ := hstep.view i <;> rw [hview]
  · rw [hbound]
    exact hs.view i
  · rw [hbound]
    refine (hs.view i).apply hkeys (hs.coherent i) (hs.single i) hop (fun a ha hquarantines j hj
      hfailed => ?_) hw
    refine List.eq_nil_iff_forall_not_mem.mpr fun h hh => ?_
    have hjob : j.id = i := hkeys.rowId j hj
    exact hsafe a (mem_of_mem_view_attempts ha).1 hquarantines j (mem_of_lookup hj).1
      (hjob.trans (hkeys.attemptJob a ha).symm) hfailed h (mem_of_mem_view_handoffs hh).1
      ((hkeys.handoffJob h hh).trans hjob.symm)
  · exact hs.coherent i
  · exact (hs.coherent i).apply hkeys hw
  · exact hs.single i
  · exact (hs.single i).apply hkeys hw

/-- The answer of a command that has been admitted by this call. -/
def accepted : Result OperatorCommandOutcome → Bool
  | .ok (.accepted _) => true
  | _ => false

/-- The operation is an operator quarantine that is accepted and takes a failed job with a
handoff. -/
def AbandonsFailedHandoff (crates : Crates) (op : Op) (s : Store) : Prop :=
  match op with
  | .admitOperatorQuarantine context attemptId reason response now =>
    accepted (s.admitOperatorQuarantine crates context attemptId reason response now).1 = true ∧
      ∃ a ∈ s.attempts, ∃ j ∈ s.jobs, ∃ h ∈ s.handoffs,
        a.id = attemptId ∧ j.id = a.jobId ∧ h.jobId = j.id ∧ j.status = .failed
  | _ => False

theorem not_abandonsFailedHandoff (hquarantines : op.quarantines = none) :
    ¬ AbandonsFailedHandoff crates op s := by
  cases op <;> first | exact id | cases hquarantines

/-- A quarantine that is not accepted changes nothing; one that is takes the attempt it names out
of the scheduler. -/
private theorem admitOperatorQuarantine_cases (context : OperatorCommandContext)
    (attemptId reason : String) (response : Value) (now : Nat) :
    let call := s.admitOperatorQuarantine crates context attemptId reason response now
    accepted call.1 = false ∧ call.2 = s ∨
      accepted call.1 = true ∧ ∃ a, quarantinableAttempt s attemptId = .ok a ∧
        call.2.queue = s.queue.apply (quarantineWrite a reason now) := by
  unfold Store.admitOperatorQuarantine
  rcases commit_cases s (admitOperatorQuarantineTx crates s context attemptId reason response now)
    with ⟨outcome, s', hroutine, hcommit⟩ | ⟨e, -, hcommit⟩
  · rw [hcommit]
    obtain ⟨-, -, -, -, rfl, rfl⟩ | ⟨-, s₁, ⟨a, ha, hs₁⟩, hrecord⟩ :=
      (admitOperatorQuarantineTx_eq_ok.mp hroutine).2.answer
    · exact .inl ⟨rfl, rfl⟩
    · have hqueue := recordOperatorCommandTx_queue hrecord
      obtain ⟨-, -, -, rfl, -⟩ := recordOperatorCommandTx_eq_ok hrecord
      exact .inr ⟨rfl, a, ha, hqueue.trans (quarantineAttemptTx_eq_ok hs₁).1⟩
  · rw [hcommit]
    exact .inl ⟨rfl, rfl⟩

/-- Every other operation keeps the store loadable. -/
theorem loadable_perform (hs : s.Loadable crates clock) (hclock : clock ≤ op.nowMs)
    (hop : op.production = true) (hsafe : ¬ AbandonsFailedHandoff crates op s) :
    (perform crates op s).Loadable crates op.nowMs := by
  have hs' : s.Loadable crates op.nowMs :=
    { hs with view := fun i => (hs.view i).mono hclock }
  cases hquarantines : op.quarantines with
  | none =>
    -- interruption included: it is a sequence of transactions
    exact (perform_invariant (P := fun s => s.Loadable crates op.nowMs)
      (fun s s' _ hs hstep => hs.step hop (by simp [hquarantines]) hstep) hs.keyed hs').2
  | some attemptId =>
    obtain ⟨context, reason, response, now, rfl⟩ : ∃ context reason response now,
        op = .admitOperatorQuarantine context attemptId reason response now := by
      cases op <;> cases hquarantines
      exact ⟨_, _, _, _, rfl⟩
    obtain ⟨-, hsame⟩ | ⟨haccepted, -⟩ :=
      admitOperatorQuarantine_cases context attemptId reason response now
    · rw [perform, hsame]
      exact hs'
    · refine hs'.step hop (fun a ha hid j hj hja hfailed h hh hjob => hsafe ?_)
        (perform_step (fun _ h => by cases h) hs.keyed)
      exact ⟨haccepted, a, ha, j, hj, h, hh, (Option.some.inj hid).symm, hja, hjob, hfailed⟩

/-- An operator quarantine of a failed job with a handoff loses the handoff. -/
theorem not_allLoad_perform (hs : s.Loadable crates clock)
    (habandons : AbandonsFailedHandoff crates op s) :
    ¬ (perform crates op s).AllLoad crates := by
  cases op <;> try exact habandons.elim
  rename_i context attemptId reason response now
  obtain ⟨haccepted, a, ha, j, hj, h, hh, rfl, hja, hjob, hfailed⟩ := habandons
  obtain ⟨hnot, -⟩ | ⟨-, a', ha', hqueue⟩ :
      accepted (s.admitOperatorQuarantine crates context a.id reason response now).1 = false ∧ _ ∨
        _ := admitOperatorQuarantine_cases context a.id reason response now
  · rw [haccepted] at hnot
    cases hnot
  -- the job that the attempt names is the failed one, and its row is now quarantined
  obtain ⟨hmem', hid, -⟩ := quarantinableAttempt_eq_ok ha'
  obtain rfl := eq_of_key_eq hs.keyed.attemptIds hmem' ha hid
  obtain ⟨hstate, -, j₀, hj₀, a₀, -, hrows⟩ := (hs.view h.jobId).handoffs h (mem_view_handoffs hh)
  obtain rfl : j₀ = j := Option.some.inj
    (hj₀.symm.trans ((lookup_eq_some hs.keyed.jobIds).mpr ⟨hj, hjob.symm⟩))
  have hview := view_apply (q := s.queue) (w := quarantineWrite a' reason now) (i := h.jobId)
    (by constructor <;> simp [quarantineWrite])
  have hrow := JobView.apply_row (w := quarantineWrite a' reason now) hj₀
  rw [← hview, ← hqueue, if_pos (by simp [quarantineWrite, hja, hfailed])] at hrow
  have hhandoffs : (perform crates (.admitOperatorQuarantine context a'.id reason response
      now) s).handoffs = s.handoffs := by
    refine (congrArg Queue.handoffs hqueue).trans ?_
    simp [Queue.apply, quarantineWrite, Store.queue]
  intro hall
  obtain ⟨j', a₁, -, hj', -, hrows'⟩ :=
    (allLoad_iff (perform_keyed _ hs.keyed)).mp hall h (hhandoffs ▸ hh)
  obtain rfl := Option.some.inj (hj'.symm.trans hrow)
  exact not_rowsLoad_of_quarantined hrows hstate hfailed rfl _ hrows'

/-- The store is loadable, and the operations to come are production operations in the order of
their times. -/
structure Store.ReadyFor (crates : Crates) (ops : List Op) (s : Store) : Prop where
  production : ∀ op ∈ ops, op.production = true
  sorted : (ops.map Op.nowMs).Pairwise (· ≤ ·)
  loadable : ∃ clock, s.Loadable crates clock ∧ ∀ op ∈ ops, clock ≤ op.nowMs

theorem readyFor_fresh {config : StoreConfig} {epoch : UuidV4} {ops : List Op}
    (hinit : Store.initialize config now epoch = .ok s)
    (hproduction : ∀ op ∈ ops, op.production = true)
    (hsorted : (ops.map Op.nowMs).Pairwise (· ≤ ·)) : s.ReadyFor crates ops :=
  ⟨hproduction, hsorted, 0, loadable_fresh hinit, fun _ _ => Nat.zero_le _⟩

theorem Store.ReadyFor.step {ops : List Op} (hs : s.ReadyFor crates (op :: ops))
    (hsafe : ¬ AbandonsFailedHandoff crates op s) : (perform crates op s).ReadyFor crates ops := by
  obtain ⟨hop, hproduction⟩ := List.forall_mem_cons.mp hs.production
  have hsorted := hs.sorted
  rw [List.map_cons, List.pairwise_cons] at hsorted
  obtain ⟨clock, hloadable, hclock⟩ := hs.loadable
  exact ⟨hproduction, hsorted.2, op.nowMs,
    loadable_perform hloadable (hclock op List.mem_cons_self) hop hsafe,
    fun op' hop' => hsorted.1 _ (List.mem_map_of_mem hop')⟩

end Store

/-- **Handoffs stay loadable.** In a run of production operations from a fresh store, with
nondecreasing times, every handoff can be read back in every state exactly when the run has no
operator quarantine that is accepted for a failed job with a handoff. -/
theorem handoffs_loadable_iff {config : StoreConfig} {epoch : UuidV4} {s₀ : Store}
    (hinit : Store.initialize config now epoch = .ok s₀) {ops : List Op}
    (hproduction : ∀ op ∈ ops, op.production = true)
    (htimes : (ops.map Op.nowMs).Pairwise (· ≤ ·)) :
    Meets (perform crates) (fun op s => ¬ AbandonsFailedHandoff crates op s) s₀ ops ↔
      ∀ before, before <+: ops → (s₀.after crates before).AllLoad crates := by
  refine meets_iff_throughout (I := fun ops s => s.ReadyFor crates ops) ?_
    (fun op ops s hs => hs.step) ?_ (readyFor_fresh hinit hproduction htimes)
  · intro ops s hs
    obtain ⟨clock, hloadable, -⟩ := hs.loadable
    exact hloadable.allLoad
  · intro op ops s hs habandons
    obtain ⟨clock, hloadable, -⟩ := hs.loadable
    exact not_allLoad_perform hloadable (Classical.not_not.mp habandons)

private theorem sampleEpisode_meets :
    Meets (perform sampleCrates) (fun op s => ¬ AbandonsFailedHandoff sampleCrates op s)
      sampleStore (sampleEpisode .failed) :=
  meets_of_forall fun op hop _ => not_abandonsFailedHandoff
    ((by decide : ∀ op ∈ sampleEpisode .failed, op.quarantines = none) op hop)

/-- A run without operator quarantine: the handoff loads in every state, up to its failure. -/
theorem handoffs_loadable_iff_failed :
    (sampleEpisode .failed).length = 6 ∧ ∀ before, before <+: sampleEpisode .failed →
      (sampleStore.after sampleCrates before).AllLoad sampleCrates :=
  ⟨rfl, (handoffs_loadable_iff sampleStore_init (by decide) (by decide)).mp sampleEpisode_meets⟩

/-- The operator quarantine of the failed attempt. -/
def sampleQuarantine : Op :=
  .admitOperatorQuarantine sampleContext sampleTuple.attemptId "reason" emptyParameters 5

private theorem sampleQuarantine_abandons :
    AbandonsFailedHandoff sampleCrates sampleQuarantine
      (sampleStore.after sampleCrates (sampleEpisode .failed)) := by
  change accepted _ = true ∧ _
  decide +kernel

/-- After an episode that has failed its handoff loads; the operator quarantine of its attempt is
accepted, and then the handoff no longer loads. -/
theorem failed_handoff_lost_by_quarantine :
    (sampleStore.after sampleCrates (sampleEpisode .failed)).AllLoad sampleCrates ∧
      ¬ (sampleStore.after sampleCrates (sampleEpisode .failed ++ [sampleQuarantine])).AllLoad
        sampleCrates := by
  have hready : sampleStore.ReadyFor sampleCrates (sampleEpisode .failed) :=
    readyFor_fresh sampleStore_init (by decide) (by decide)
  have hafter : (sampleStore.after sampleCrates (sampleEpisode .failed)).ReadyFor sampleCrates [] :=
    run_of_meets (I := fun ops s => Store.ReadyFor sampleCrates ops s)
      (fun op ops s hs => hs.step) hready sampleEpisode_meets
  obtain ⟨clock, hloadable, -⟩ := hafter.loadable
  refine ⟨hloadable.allLoad, ?_⟩
  have hnot := not_allLoad_perform hloadable sampleQuarantine_abandons
  rwa [Store.after, ← run_nil (perform _ _ _), ← run_cons, ← run_append] at hnot

end AscensionWatchdog
