import AscensionWatchdog.Queue.View
import AscensionWatchdog.Storage.Identities

/-!
# Readable rows

The reader of handoffs decodes three rows, checks each of them, and then relates them. Here each
part is a property of rows:

* `JobRow.Readable`, `AttemptRow.Readable` and `HandoffRow.Readable` are the checks on one row;
* `OpenPair` is what an unresolved handoff requires of its job and its attempt, `ClosedPair` what
  a terminal receipt requires of them, and `Related` what the three rows say about each other.

The decoders are characterised by these properties, one iff for each, so that what a write does
to a row can be decided column by column.
-/

namespace AscensionWatchdog

open Foundation Foundation.Json

variable {crates : Crates} {bound : Nat}

/-! ### Bounded columns -/

variable {value : Option String}

/-- A column within its bound is read as it is. -/
theorem projectText_eq_self {marker : Char}
    (h : ∀ text ∈ value, text.utf8ByteSize ≤ bound) : projectText bound marker value = value := by
  cases value with
  | none => rfl
  | some text => simp [projectText, h text rfl]

@[simp]
theorem isSome_projectText (bound : Nat) (marker : Char) (value : Option String) :
    (projectText bound marker value).isSome = value.isSome := by
  cases value <;> rfl

/-- An oversized column is read as its marker, so a check that refuses the marker refuses the
column. -/
private theorem forall_projectText {marker : Char} {p : String → Prop}
    (hmarker : ¬ p (String.ofList [marker])) :
    (∀ text ∈ projectText bound marker value, p text) ↔
      ∀ text ∈ value, text.utf8ByteSize ≤ bound ∧ p text := by
  cases value with
  | none => simp [projectText]
  | some text =>
    by_cases hsize : text.utf8ByteSize ≤ bound
    · simp [projectText, hsize]
    · simpa [projectText, hsize] using hmarker

private theorem not_isName_marker : ¬ isName (String.ofList ['\x01']) 128 = true := by
  decide +kernel

private theorem containsNul_marker : ¬ containsNul (String.ofList ['\x00']) = false := by
  decide +kernel

variable {u : Unit}

/-- The check on an optional worker id. -/
private theorem workerId_eq_ok {name : String} :
    ((projectText 128 '\x01' value).forM fun w =>
        toSqliteError (validateName w name maxWorkerTextBytes)) = .ok u ↔
      ∀ w ∈ value, isName w 128 = true := by
  have hforall : (∀ w ∈ projectText 128 '\x01' value, isName w 128 = true) ↔ _ :=
    forall_projectText not_isName_marker
  have hsize : (∀ w ∈ value, w.utf8ByteSize ≤ 128 ∧ isName w 128 = true) ↔
      ∀ w ∈ value, isName w 128 = true :=
    forall₂_congr fun w _ => ⟨And.right, fun h => ⟨isName_size h, h⟩⟩
  rw [← hsize, ← hforall]
  cases projectText 128 '\x01' value with
  | none => simp [Option.forM, pure_eq_ok]
  | some w => simp [Option.forM, toSqliteError_eq_ok, validateName_eq_ok, maxWorkerTextBytes]

/-! ### The job row -/

/-- The stored result, as the query bounds it. -/
def JobRow.resultText (j : JobRow) : Option String :=
  projectText 65536 '\x01' j.result

/-- The digest of the stored result, as the query bounds it. -/
def JobRow.resultDigest (j : JobRow) : Option String :=
  projectText 64 '\x01' j.completionDigest

/-- The checks on the columns of a job. -/
structure JobRow.Readable (crates : Crates) (bound : Nat) (j : JobRow) : Prop where
  id : isName j.id 128 = true
  kind : isName j.kind 128 = true
  payloadSize : j.payload.utf8ByteSize ≤ bound
  payloadDigest : isDigest j.payloadDigest = true
  payloadHash : hexDigest crates j.payload = j.payloadDigest
  payload : (crates.fromStr j.payload).isSome
  lastError : ∀ e ∈ j.lastError, e.utf8ByteSize ≤ 16384 ∧ containsNul e = false
  workerId : ∀ w ∈ j.workerId, isName w 128 = true
  evidence : j.completionDigest.isSome = j.result.isSome
  result : ∀ text ∈ j.resultText, (crates.fromStr text).isSome ∧
    ∀ digest ∈ j.resultDigest, isDigest digest = true ∧ hexDigest crates text = digest
  times : ¬ outOfOrder (some j.createdAtMs) j.claimedAtMs ∧
    ¬ outOfOrder (some j.createdAtMs) j.completedAtMs ∧
    ¬ outOfOrder j.claimedAtMs j.completedAtMs
  retry : j.status = .queued ∨ j.nextRetryAtMs = none
  running : j.status = .running → j.claimedAtMs.isSome
  completed : j.status = .completed →
    j.claimedAtMs.isSome ∧ j.completedAtMs.isSome ∧ j.result.isSome
  attemptCount : j.attemptCount < 2 ^ 32

/-- The job that a readable row is read as. -/
def JobRow.record (crates : Crates) (j : JobRow) (payload : Value) : JobRecord where
  id := j.id
  kind := j.kind
  payload := payload
  payloadDigest := j.payloadDigest
  status := j.status
  createdAtMs := j.createdAtMs
  claimedAtMs := j.claimedAtMs
  completedAtMs := j.completedAtMs
  attemptCount := j.attemptCount
  nextRetryAtMs := j.nextRetryAtMs
  lastError := j.lastError
  result := j.resultText.bind crates.fromStr
  workerId := j.workerId

theorem parseStored_eq_ok {text : String} {value : Value} :
    parseStored crates text = .ok value ↔ crates.fromStr text = some value :=
  orError_eq_ok

private theorem validateStoredResult_eq_ok {text digest : Option String} :
    validateStoredResult crates text digest = .ok u ↔
      ∀ t ∈ text, ∀ d ∈ digest, isDigest d = true ∧ hexDigest crates t = d := by
  cases text <;> cases digest <;>
    simp [validateStoredResult, pure_eq_ok, check_bind_eq_ok, validateDigestValue_eq_ok]

/-- A result that is read, and its value. -/
private theorem mapM_parseStored_eq_ok {text : Option String} {result : Option Value} :
    text.mapM (parseStored crates) = .ok result ↔
      (∀ t ∈ text, (crates.fromStr t).isSome) ∧ text.bind crates.fromStr = result := by
  cases text with
  | none => simp [pure_eq_ok]
  | some t =>
    rw [Option.mapM_some, map_eq_pure_bind, bind_eq_ok]
    cases hparsed : crates.fromStr t <;> simp [parseStored_eq_ok, pure_eq_ok, hparsed]

theorem requiredText_eq_ok {value field : String} :
    requiredText value field bound = .ok u ↔ value.utf8ByteSize ≤ bound :=
  ensure_eq_ok

theorem boundedJobFromRow_eq_ok {j : JobRow} {job : JobRecord} {digest : Option String} :
    boundedJobFromRow crates bound j = .ok (job, digest) ↔
      j.Readable crates bound ∧ digest = j.resultDigest ∧
        ∃ payload, crates.fromStr j.payload = some payload ∧ job = j.record crates payload := by
  have hlastError : (∀ e ∈ projectText 16384 '\x00' j.lastError, containsNul e = false) ↔ _ :=
    forall_projectText containsNul_marker
  simp only [boundedJobFromRow, bind_eq_ok, exists_const, ensure_eq_ok, forEach_eq_ok,
    List.forall_mem_cons, requiredText_eq_ok, toSqliteError_eq_ok, validateName_eq_ok,
    validateDigestValue_eq_ok, workerId_eq_ok, validateStoredResult_eq_ok, parseStored_eq_ok,
    mapM_parseStored_eq_ok, sqliteU32_eq_ok, pure_eq_ok, Prod.mk.injEq, hlastError,
    isSome_projectText]
  constructor
  · rintro ⟨⟨-, -, hsize, -⟩, hid, hkind, hdigest, hhash, payload, hpayload, herror, hworker,
      hevidence, result, ⟨hparsed, rfl⟩, hresult, htimes, hretry, hrunning, hcompleted, count,
      ⟨hcount, rfl⟩, hjob, hdigest'⟩
    refine ⟨⟨hid, hkind, hsize, hdigest, hhash, by rw [hpayload]; rfl, herror, hworker, hevidence,
      fun text htext => ⟨hparsed text htext, hresult text htext⟩, htimes, hretry, hrunning,
      fun hstatus => ?_, hcount⟩, hdigest'.symm, payload, hpayload, ?_⟩
    · obtain ⟨hclaimed, hcompletedAt, hresult⟩ := hcompleted hstatus
      refine ⟨hclaimed, hcompletedAt, ?_⟩
      rw [← isSome_projectText 65536 '\x01']
      exact Option.isSome_of_isSome_bind hresult
    · rw [← hjob, projectText_eq_self fun e he => (herror e he).1,
        projectText_eq_self fun w hw => isName_size (hworker w hw)]
      rfl
  · rintro ⟨hj, rfl, payload, hpayload, rfl⟩
    refine ⟨⟨isName_size hj.id, isName_size hj.kind, hj.payloadSize,
      (isDigest_size hj.payloadDigest).le, fun _ h => by cases h⟩, hj.id, hj.kind, hj.payloadDigest, hj.payloadHash,
      payload, hpayload, hj.lastError, hj.workerId, hj.evidence, _,
      ⟨fun text htext => (hj.result text htext).1, rfl⟩, fun text htext => (hj.result text htext).2,
      hj.times, hj.retry, hj.running, fun hstatus => ?_, _, ⟨hj.attemptCount, rfl⟩, ?_, rfl⟩
    · obtain ⟨hclaimed, hcompletedAt, hresult⟩ := hj.completed hstatus
      obtain ⟨text, htext⟩ : ∃ text, j.resultText = some text := by
        rw [← isSome_projectText 65536 '\x01'] at hresult
        exact Option.isSome_iff_exists.mp hresult
      refine ⟨hclaimed, hcompletedAt, ?_⟩
      have hparsed := (hj.result text htext).1
      unfold JobRow.resultText at htext
      rw [htext]
      exact hparsed
    · rw [projectText_eq_self fun e he => (hj.lastError e he).1,
        projectText_eq_self fun w hw => isName_size (hj.workerId w hw)]
      rfl

/-! ### The attempt row -/

/-- The checks on the columns of an attempt. -/
structure AttemptRow.Readable (a : AttemptRow) : Prop where
  id : a.id.utf8ByteSize ≤ 128
  jobId : a.jobId.utf8ByteSize ≤ 128
  lineageSize : a.lineage.utf8ByteSize ≤ 256
  lineage : containsNul a.lineage = false
  workerId : ∀ w ∈ a.workerId, isName w 128 = true
  sequence : a.sequence < 2 ^ 32
  times : ¬ outOfOrder (some a.startedAtMs) a.finishedAtMs

theorem rawAttemptFromRow_eq_ok {a a' : AttemptRow} :
    rawAttemptFromRow a = .ok a' ↔ a.Readable ∧ a' = a := by
  simp only [rawAttemptFromRow, bind_eq_ok, exists_const, ensure_eq_ok, forEach_eq_ok,
    List.forall_mem_cons, requiredText_eq_ok, workerId_eq_ok, sqliteU32_eq_ok, pure_eq_ok]
  constructor
  · rintro ⟨⟨hid, hjobId, hsize, -⟩, hworker, sequence, ⟨hsequence, rfl⟩, hlineage, htimes, rfl⟩
    refine ⟨⟨hid, hjobId, hsize, hlineage, hworker, hsequence, htimes⟩, ?_⟩
    rw [projectText_eq_self fun w hw => isName_size (hworker w hw)]
  · rintro ⟨ha, rfl⟩
    refine ⟨⟨ha.id, ha.jobId, ha.lineageSize, nofun⟩, ha.workerId, _, ⟨ha.sequence, rfl⟩, ha.lineage,
      ha.times, ?_⟩
    rw [projectText_eq_self fun w hw => isName_size (ha.workerId w hw)]

/-! ### The handoff row -/

/-- The recorded times of the transitions of a handoff. -/
def HandoffRow.transitionTimes (h : HandoffRow) : List (Option Nat) :=
  [h.dispatchedAtMs, h.admittedAtMs, h.terminalAtMs, h.acknowledgedAtMs]

/-- The checks on the columns of a handoff, whose receipt columns are read as `terminal`. -/
structure HandoffRow.Readable (crates : Crates) (h : HandoffRow)
    (terminal : Option WorkerTerminalRecord) : Prop where
  identity : validateHandoffIdentity crates h = .ok emptyParameters
  receipt : terminalFromRow h = .ok terminal
  created : h.createdAtMs ≤ h.updatedAtMs
  times : ∀ time ∈ h.transitionTimes, ∀ t ∈ time, h.createdAtMs ≤ t ∧ t ≤ h.updatedAtMs
  present : h.state.isTerminal = terminal.isSome ∧ h.state.isTerminal = h.terminalResult.isSome
  columns : lifecycleColumnsConsistent h = true
  admission : ¬ outOfOrder h.dispatchedAtMs h.admittedAtMs
  ended : ¬ outOfOrder h.admittedAtMs h.terminalAtMs ∧ ¬ outOfOrder h.dispatchedAtMs h.terminalAtMs
  acknowledgment : ¬ outOfOrder h.terminalAtMs h.acknowledgedAtMs
  evidence : ∀ record ∈ terminal, validateReceiptEvidence crates h
    (projectText 65536 '\x01' h.terminalResult) record = .ok ()

/-- The recorded times, one by one. -/
theorem forall_transitionTimes {h : HandoffRow} {p : Nat → Prop} :
    (∀ time ∈ h.transitionTimes, ∀ t ∈ time, p t) ↔
      (∀ t ∈ h.dispatchedAtMs, p t) ∧ (∀ t ∈ h.admittedAtMs, p t) ∧ (∀ t ∈ h.terminalAtMs, p t) ∧
        ∀ t ∈ h.acknowledgedAtMs, p t := by
  simp [HandoffRow.transitionTimes]

variable {record : WorkerTerminalRecord}

/-- The evidence of a receipt: its digest, its compact text and its status. -/
theorem validateReceiptEvidence_eq_ok {h : HandoffRow} {result : Option String} :
    validateReceiptEvidence crates h result record = .ok u ↔
      record.terminalDigest = terminalDigest crates h.tuple record.receipt ∧
        (∃ text digest, compactTerminalResult crates record.receipt = .ok (text, digest) ∧
          result = some text) ∧
        stateMatchesReceipt h.state record.status = true := by
  simp only [validateReceiptEvidence, bind_eq_ok, exists_const, ensure_eq_ok, toSqliteError_eq_ok,
    Prod.exists]
  constructor
  · rintro ⟨hdigest, text, digest, hcompact, hresult, hstate⟩
    exact ⟨hdigest, ⟨text, digest, hcompact, hresult⟩, hstate⟩
  · rintro ⟨hdigest, ⟨text, digest, hcompact, hresult⟩, hstate⟩
    exact ⟨hdigest, text, digest, hcompact, hresult, hstate⟩

/-- What the reader has checked of the identity columns. -/
structure HandoffRow.Identified (h : HandoffRow) : Prop where
  tuple : validateTuple h.tuple = .ok ()
  attemptNumber : h.attemptNumber < 2 ^ 32
  watchdogBoot : isCanonicalUuid4 h.watchdogBootId = true
  workerBoot : isCanonicalUuid4 h.workerBootId = true
  modeSequence : isWireSequence h.modeSequence = true

/-- The only parameters that are admitted are the empty ones. -/
theorem validateHandoffIdentity_eq_ok {h : HandoffRow} {parameters : Value}
    (hidentity : validateHandoffIdentity crates h = .ok parameters) :
    h.Identified ∧ parameters = emptyParameters := by
  simp only [validateHandoffIdentity, bind_eq_ok, exists_const, ensure_eq_ok, toSqliteError_eq_ok,
    validateUuid4_eq_ok, validateDigestValue_eq_ok, sqliteU32_eq_ok, pure_eq_ok] at hidentity
  obtain ⟨-, -, -, -, -, -, parsed, -, hempty, number, ⟨hnumber, -⟩, ⟨⟩, htuple, hwatchdog, hworker,
    -, -, -, hsequence, rfl⟩ := hidentity
  exact ⟨⟨htuple, hnumber, hwatchdog, hworker, hsequence⟩, hempty⟩

private theorem validateTerminalProjection_eq_ok {h : HandoffRow}
    {terminal : Option WorkerTerminalRecord} {result : Option String} :
    validateTerminalProjection crates h terminal result = .ok u ↔
      h.createdAtMs ≤ h.updatedAtMs ∧
        (∀ time ∈ h.transitionTimes, ∀ t ∈ time, h.createdAtMs ≤ t ∧ t ≤ h.updatedAtMs) ∧
        (h.state.isTerminal = terminal.isSome ∧ h.state.isTerminal = result.isSome) ∧
        lifecycleColumnsConsistent h = true ∧ ¬ outOfOrder h.dispatchedAtMs h.admittedAtMs ∧
        ¬ outOfOrder h.admittedAtMs h.terminalAtMs ∧
        ¬ outOfOrder h.dispatchedAtMs h.terminalAtMs ∧
        ¬ outOfOrder h.terminalAtMs h.acknowledgedAtMs ∧
        ∀ record ∈ terminal, validateReceiptEvidence crates h result record = .ok () := by
  simp only [validateTerminalProjection, bind_eq_ok, exists_const, ensure_eq_ok, forEach_eq_ok,
    HandoffRow.transitionTimes, List.forall_mem_cons, List.not_mem_nil, false_implies, forall_const]
  cases terminal <;> simp [pure_eq_ok]

theorem rawHandoffFromRow_eq_ok {h : HandoffRow} {raw : RawHandoff} :
    rawHandoffFromRow crates h = .ok raw ↔
      ∃ terminal, h.Readable crates terminal ∧
        raw = ⟨h, emptyParameters, terminal, projectText 65536 '\x01' h.terminalResult⟩ := by
  constructor
  · intro hraw
    obtain ⟨parameters, hidentity, hraw⟩ := bind_eq_ok.mp hraw
    obtain ⟨terminal, hreceipt, hraw⟩ := bind_eq_ok.mp hraw
    obtain ⟨⟨⟩, hprojection, hraw⟩ := bind_eq_ok.mp hraw
    cases pure_eq_ok.mp hraw
    obtain rfl := (validateHandoffIdentity_eq_ok hidentity).2
    rw [validateTerminalProjection_eq_ok, isSome_projectText] at hprojection
    obtain ⟨hcreated, htimes, hpresent, hcolumns, hadmission, hadmitted, hdispatched, hacknowledged,
      hevidence⟩ := hprojection
    exact ⟨terminal, ⟨hidentity, hreceipt, hcreated, htimes, hpresent, hcolumns, hadmission,
      ⟨hadmitted, hdispatched⟩, hacknowledged, hevidence⟩, rfl⟩
  · rintro ⟨terminal, hh, rfl⟩
    refine bind_eq_ok.mpr ⟨_, hh.identity, bind_eq_ok.mpr ⟨_, hh.receipt,
      bind_eq_ok.mpr ⟨(), validateTerminalProjection_eq_ok.mpr ?_, rfl⟩⟩⟩
    rw [isSome_projectText]
    exact ⟨hh.created, hh.times, hh.present, hh.columns, hh.admission, hh.ended.1, hh.ended.2,
      hh.acknowledgment, hh.evidence⟩

/-! ### The three rows -/

/-- What an unresolved handoff requires of its job and its attempt. -/
structure OpenPair (h : HandoffRow) (j : JobRow) (a : AttemptRow) : Prop where
  status : j.status = .running ∨ j.status = .quarantined
  result : j.result = none ∧ j.completionDigest = none
  running : j.status = .running → a.status = .running ∧ a.finishedAtMs = none
  quarantined : j.status = .quarantined → a.status = .unknown
  workerId : j.workerId = some h.workerOwnerId

/-- The stored result of the job is the compact result of the handoff. -/
def SameResult (crates : Crates) (h : HandoffRow) (j : JobRow) : Prop :=
  ∃ text value, projectText 65536 '\x01' h.terminalResult = some text ∧
    crates.fromStr text = some value ∧ j.resultText.bind crates.fromStr = some value ∧
    j.resultDigest = some (hexDigest crates text)

/-- What the receipt of a handoff requires of its job and its attempt. -/
structure ClosedPair (crates : Crates) (h : HandoffRow) (record : WorkerTerminalRecord)
    (j : JobRow) (a : AttemptRow) : Prop where
  result : SameResult crates h j
  finished : a.finishedAtMs = h.terminalAtMs
  completed : record.status = .completed → j.status = .completed ∧ a.status = .completed ∧
    j.completedAtMs = h.terminalAtMs ∧ j.lastError = none ∧ j.workerId = some h.workerOwnerId
  failed : record.status = .failed → j.status = .failed ∧ a.status = .failed ∧
    j.completedAtMs = none ∧ j.workerId = none ∧ j.lastError = some record.terminalRef

/-- What the rows of a handoff, its job and its attempt say about each other. -/
structure Related (crates : Crates) (h : HandoffRow) (terminal : Option WorkerTerminalRecord)
    (j : JobRow) (a : AttemptRow) : Prop where
  attempt : a.id = h.attemptId ∧ a.jobId = h.jobId ∧ a.sequence = h.attemptNumber ∧
    a.lineage = attemptLineage h.jobId h.attemptNumber ∧ a.workerId = some h.workerOwnerId ∧
    a.startedAtMs = h.createdAtMs
  job : j.id = h.jobId ∧ j.kind = workerHandoffOperation ∧ j.payloadDigest = h.payloadDigest ∧
    crates.fromStr j.payload = some emptyParameters ∧ j.attemptCount = h.attemptNumber ∧
    j.claimedAtMs = some h.createdAtMs
  opened : h.state.unresolved = true → OpenPair h j a
  closed : ∀ record ∈ terminal, ClosedPair crates h record j a

/-- A readable job has a result when its row has one. -/
private theorem record_result_eq_none {j : JobRow} {payload : Value}
    (hj : j.Readable crates bound) : (j.record crates payload).result = none ↔ j.result = none := by
  constructor
  · intro hnone
    by_contra hsome
    obtain ⟨text, htext⟩ : ∃ text, j.resultText = some text := by
      rw [← Option.isSome_iff_exists, JobRow.resultText, isSome_projectText,
        Option.isSome_iff_ne_none]
      exact hsome
    have hparsed := (hj.result text htext).1
    have hbind : j.resultText.bind crates.fromStr = none := hnone
    rw [htext, Option.bind_some] at hbind
    rw [hbind] at hparsed
    cases hparsed
  · intro hnone
    simp [JobRow.record, JobRow.resultText, projectText, hnone]

/-- The check of an unresolved handoff, on rows. -/
private theorem unresolvedPairConsistent_iff {h : HandoffRow} {j : JobRow} {a : AttemptRow}
    {payload : Value} (hj : j.Readable crates bound) :
    unresolvedPairConsistent h (j.record crates payload) a j.resultDigest ↔ OpenPair h j a := by
  have hdigest : j.resultDigest = none ↔ j.completionDigest = none := by
    simp [JobRow.resultDigest, projectText]
  unfold unresolvedPairConsistent
  rw [record_result_eq_none hj, hdigest]
  constructor
  · rintro ⟨hstatus, hresult, hdigest, hrunning, hquarantined, hfinished, hworker⟩
    exact ⟨hstatus, ⟨hresult, hdigest⟩, fun h => ⟨hrunning h, hfinished h⟩, hquarantined, hworker⟩
  · intro ho
    exact ⟨ho.status, ho.result.1, ho.result.2, fun h => (ho.running h).1, ho.quarantined,
      fun h => (ho.running h).2, ho.workerId⟩

section Pairs

variable {h : HandoffRow} {j : JobRow} {a : AttemptRow} {payload parameters : Value}
  {terminal : Option WorkerTerminalRecord}

/-- The result check that both terminal outcomes share. -/
private theorem expectedTerminalResult_bind_eq_ok {label : String}
    {next : String × Value → Result Unit} :
    (expectedTerminalResult crates
        ⟨h, parameters, terminal, projectText 65536 '\x01' h.terminalResult⟩ label >>= next) =
          .ok u ↔
      ∃ text value, projectText 65536 '\x01' h.terminalResult = some text ∧
        crates.fromStr text = some value ∧ next (text, value) = .ok u := by
  simp only [expectedTerminalResult, bind_eq_ok, orError_eq_ok, pure_eq_ok]
  constructor
  · rintro ⟨_, ⟨text, htext, value, hvalue, rfl⟩, hnext⟩
    exact ⟨text, value, htext, hvalue, hnext⟩
  · rintro ⟨text, value, htext, hvalue, hnext⟩
    exact ⟨_, ⟨text, htext, value, hvalue, rfl⟩, hnext⟩

private theorem validateCompletedPair_eq_ok :
    validateCompletedPair crates
        ⟨h, parameters, terminal, projectText 65536 '\x01' h.terminalResult⟩
        (j.record crates payload) a j.resultDigest = .ok u ↔
      SameResult crates h j ∧ a.finishedAtMs = h.terminalAtMs ∧ j.status = .completed ∧
        a.status = .completed ∧ j.completedAtMs = h.terminalAtMs ∧ j.lastError = none ∧
        j.workerId = some h.workerOwnerId := by
  rw [validateCompletedPair, expectedTerminalResult_bind_eq_ok]
  simp only [bind_eq_ok, exists_const, orError_eq_ok, ensure_eq_ok]
  constructor
  · rintro ⟨text, value, htext, hvalue, ⟨hj, ha, hfinished, hresult, hcompleted, herror, hworker⟩,
      _, hdigest, rfl⟩
    exact ⟨⟨text, value, htext, hvalue, hresult, hdigest⟩, hfinished, hj, ha, hcompleted, herror,
      hworker⟩
  · rintro ⟨⟨text, value, htext, hvalue, hresult, hdigest⟩, hfinished, hj, ha, hcompleted, herror,
      hworker⟩
    exact ⟨text, value, htext, hvalue, ⟨hj, ha, hfinished, hresult, hcompleted, herror, hworker⟩, _,
      hdigest, rfl⟩

private theorem validateFailedPair_eq_ok :
    validateFailedPair crates
        ⟨h, parameters, some record, projectText 65536 '\x01' h.terminalResult⟩
        (j.record crates payload) a j.resultDigest = .ok u ↔
      SameResult crates h j ∧ a.finishedAtMs = h.terminalAtMs ∧ j.status = .failed ∧
        a.status = .failed ∧ j.completedAtMs = none ∧ j.workerId = none ∧
        j.lastError = some record.terminalRef := by
  rw [validateFailedPair, expectedTerminalResult_bind_eq_ok]
  simp only [bind_eq_ok, exists_const, orError_eq_ok, ensure_eq_ok]
  constructor
  · rintro ⟨text, value, htext, hvalue, ⟨hj, ha, hfinished, hresult, hcompleted, hworker, herror, -⟩,
      _, hdigest, rfl⟩
    exact ⟨⟨text, value, htext, hvalue, hresult, hdigest⟩, hfinished, hj, ha, hcompleted, hworker,
      herror⟩
  · rintro ⟨⟨text, value, htext, hvalue, hresult, hdigest⟩, hfinished, hj, ha, hcompleted, hworker,
      herror⟩
    exact ⟨text, value, htext, hvalue, ⟨hj, ha, hfinished, hresult, hcompleted, hworker, herror,
      by rw [hdigest]; rfl⟩, _, hdigest, rfl⟩

/-- The state of a readable handoff agrees with its receipt. -/
theorem HandoffRow.Readable.stateMatches
    (hh : h.Readable crates (some record)) : stateMatchesReceipt h.state record.status = true :=
  (validateReceiptEvidence_eq_ok.mp (hh.evidence record rfl)).2.2

/-- A state of a readable handoff: unresolved, with a receipt, or rejected. -/
theorem HandoffRow.Readable.cases (hh : h.Readable crates terminal) :
    h.state.unresolved = true ∨ (∃ record, terminal = some record) ∨
      h.state = .rejected ∧ terminal = none := by
  have hpresent := hh.present.1
  cases terminal with
  | some record => exact .inr (.inl ⟨record, rfl⟩)
  | none =>
    cases hstate : h.state <;>
      simp_all [WorkerHandoffState.isTerminal, WorkerHandoffState.unresolved]

/-- The outcome check of the reader, on rows. -/
private theorem validateHandoffOutcome_eq_ok (hh : h.Readable crates terminal)
    (hj : j.Readable crates bound) :
    validateHandoffOutcome crates
        ⟨h, parameters, terminal, projectText 65536 '\x01' h.terminalResult⟩
        (j.record crates payload) a j.resultDigest = .ok u ↔
      (h.state.unresolved = true → OpenPair h j a) ∧
        ∀ record ∈ terminal, ClosedPair crates h record j a := by
  have hterminal := hh.present.1
  unfold validateHandoffOutcome
  cases terminal with
  | none =>
    cases hstate : h.state <;>
      simp_all [WorkerHandoffState.unresolved, WorkerHandoffState.isTerminal,
        unresolvedPairConsistent_iff hj, pure_eq_ok]
  | some record =>
    have hmatches := hh.stateMatches
    have hcompleted (hstatus : record.status = .completed) :
        ClosedPair crates h record j a ↔ validateCompletedPair crates
          ⟨h, parameters, some record, projectText 65536 '\x01' h.terminalResult⟩
          (j.record crates payload) a j.resultDigest = .ok u := by
      rw [validateCompletedPair_eq_ok]
      constructor
      · intro hc
        exact ⟨hc.result, hc.finished, hc.completed hstatus⟩
      · rintro ⟨hresult, hfinished, hrest⟩
        exact ⟨hresult, hfinished, fun _ => hrest, fun hfailed => by simp [hstatus] at hfailed⟩
    have hfailed (hstatus : record.status = .failed) :
        ClosedPair crates h record j a ↔ validateFailedPair crates
          ⟨h, parameters, some record, projectText 65536 '\x01' h.terminalResult⟩
          (j.record crates payload) a j.resultDigest = .ok u := by
      rw [validateFailedPair_eq_ok]
      constructor
      · intro hc
        exact ⟨hc.result, hc.finished, hc.failed hstatus⟩
      · rintro ⟨hresult, hfinished, hrest⟩
        exact ⟨hresult, hfinished, fun hcompleted => by simp [hstatus] at hcompleted,
          fun _ => hrest⟩
    cases hstate : h.state <;> cases hstatus : record.status <;>
      simp_all [WorkerHandoffState.unresolved, WorkerHandoffState.isTerminal, stateMatchesReceipt]

/-- The consistency check of the reader, on rows. -/
theorem validateHandoffJob_eq_ok (hh : h.Readable crates terminal) (hj : j.Readable crates bound)
    (hpayload : crates.fromStr j.payload = some payload) :
    validateHandoffJob crates
        ⟨h, parameters, terminal, projectText 65536 '\x01' h.terminalResult⟩
        (j.record crates payload) a j.resultDigest = .ok u ↔
      Related crates h terminal j a := by
  simp only [validateHandoffJob, bind_eq_ok, exists_const, ensure_eq_ok,
    validateHandoffOutcome_eq_ok hh hj]
  constructor
  · rintro ⟨⟨hid, hjobId, hsequence, hlineage, hworker, hcount, hclaimed⟩, hstarted,
      ⟨hjob, hkind, hdigest, hparsed⟩, hopened, hclosed⟩
    have hparsed : payload = emptyParameters := hparsed
    exact ⟨⟨hid, hjobId, hsequence, hlineage, hworker, hstarted⟩,
      ⟨hjob, hkind, hdigest, hparsed ▸ hpayload, hcount, hclaimed⟩, hopened, hclosed⟩
  · intro hr
    obtain ⟨hid, hjobId, hsequence, hlineage, hworker, hstarted⟩ := hr.attempt
    obtain ⟨hjob, hkind, hdigest, hparsed, hcount, hclaimed⟩ := hr.job
    have hempty : payload = emptyParameters := Option.some.inj (hpayload.symm.trans hparsed)
    exact ⟨⟨hid, hjobId, hsequence, hlineage, hworker, hcount, hclaimed⟩, hstarted,
      ⟨hjob, hkind, hdigest, hempty⟩, hr.opened, hr.closed⟩

end Pairs

end AscensionWatchdog
