import AscensionWatchdog.Broker.Reopen
import AscensionWatchdog.Foundation.Runs

/-!
# The request to cancel a launch

A launch that is still pending can be asked to stop: its record gets a bit that is to stay set in
all later records of the request. Every operation copies the bit from the record before, but for
`beginStop`, which writes none. So the bit stays exactly in the histories in which no committed
launch with the bit is stopped (`cancellation_kept_iff`).

A history goes over any number of openings of the ledger: the records in memory are then those
that the replayer reads from the file.
-/

namespace AscensionWatchdog.Broker

open Foundation Foundation.Journal

variable {crates : Crates} {codec : RecordCodec} {ledger : Ledger} {record previous : LedgerRecord}

/-! ### What an operation does to the bit -/

/-- The operations that begin the stop of a committed launch. -/
def LedgerOp.beginsStop : LedgerOp → Bool
  | .beginStop _ _ | .beginFailedLaunchCleanup _ _ _ => true
  | _ => false

/-- The bit of a record against that of the record before it. -/
def KeepsBit (previous record : LedgerRecord) : Prop :=
  previous.cancelRequested = some true → record.cancelRequested = some true

/-- The operation stops a committed launch that was asked to stop. -/
def StopsCancelled (ledger : Ledger) (op : LedgerOp) : Prop :=
  op.beginsStop = true ∧ ∃ previous, ledger.records.get op.subject = some previous ∧
    previous.state = .committed ∧ previous.cancelRequested = some true

/-- What a record is written from: the record before it, whose bit it keeps unless a committed
launch is stopped, or nothing for a reservation. -/
structure WrittenFrom (ledger : Ledger) (op : LedgerOp) (record : LedgerRecord) : Prop where
  request : record.request = op.subject
  keeps : ∀ previous, ledger.records.get op.subject = some previous →
    ¬ StopsCancelled ledger op → KeepsBit previous record
  loses : StopsCancelled ledger op → record.cancelRequested = none

theorem not_stopsCancelled_of_not_beginsStop {op : LedgerOp} (h : op.beginsStop = false) :
    ¬ StopsCancelled ledger op := by
  rintro ⟨hstops, -⟩
  rw [h] at hstops
  cases hstops

/-- An operation that copies the bit of the record before. -/
private theorem writtenFrom_copy {op : LedgerOp} (hop : op.beginsStop = false)
    (hget : ledger.records.get op.subject = some previous) (hrequest : record.request = op.subject)
    (hkeeps : KeepsBit previous record) : WrittenFrom ledger op record := by
  refine ⟨hrequest, fun previous' hprevious _ => ?_, fun hstops => ?_⟩
  · cases hget.symm.trans hprevious
    exact hkeeps
  · exact absurd hstops (not_stopsCancelled_of_not_beginsStop hop)

theorem writtenFrom_stop {request : BrokerRequest} {receipt : LaunchReceipt} {op : LedgerOp}
    (hop : op.beginsStop = true) (hsubject : op.subject = request)
    (h : DecidesStop ledger request receipt (some record)) : WrittenFrom ledger op record := by
  subst hsubject
  cases h with
  | begun hget hcommitted =>
    refine ⟨rfl, fun previous' hget' hkeeps hbit => ?_, fun _ => rfl⟩
    cases hget.symm.trans hget'
    exact absurd ⟨hop, _, hget, hcommitted, hbit⟩ hkeeps

/-- What a record of the ledger is written from, for all operations. -/
theorem writtenFrom_of_decide {op : LedgerOp}
    (h : op.decide crates ledger = .ok (some record)) : WrittenFrom ledger op record := by
  cases decides_of_decide h with
  | reserved hget =>
    refine ⟨rfl, fun previous hprevious => ?_, fun hstops =>
      absurd hstops (not_stopsCancelled_of_not_beginsStop rfl)⟩
    cases hget.symm.trans hprevious
  | bound hget | committed hget | stopped hget => exact writtenFrom_copy rfl hget rfl fun h => h
  | cancelled hget => exact writtenFrom_copy rfl hget rfl fun _ => rfl
  | stop h | cleanup h => exact writtenFrom_stop rfl rfl h
  | cleanupBegun hget hpending =>
    refine ⟨rfl, fun previous' hprevious _ hbit => ?_, fun hstops => ?_⟩
    · cases hget.symm.trans hprevious
      exact hbit
    · obtain ⟨-, previous', hprevious, hcommitted, -⟩ := hstops
      cases hget.symm.trans hprevious
      cases hpending.symm.trans hcommitted

/-- A stop of a committed launch is written. -/
theorem StopsCancelled.ne_none {op : LedgerOp} {appended : Option LedgerRecord}
    (hstops : StopsCancelled ledger op) (h : op.decide crates ledger = .ok appended) :
    appended ≠ none := by
  obtain ⟨hop, previous, hget, hcommitted, -⟩ := hstops
  rintro rfl
  cases decides_of_decide h with
  | alreadyReserved | alreadyBound | alreadyCancelled | alreadyCommitted => cases hop
  | stop h | cleanup h =>
    cases h with
    | already hget' hstate =>
      cases hget.symm.trans hget'
      cases hstate.symm.trans hcommitted

/-! ### Sessions -/

/-- The ledger of a broker, and all records that were ever appended to it. -/
structure Session where
  current : Journaled
  history : List LedgerRecord

/-- A broker performs an operation, or it is started again and opens the ledger. -/
inductive SessionOp where
  | perform (op : LedgerOp)
  | reopen

def Session.start : Session where
  current := .opened Replay.start []
  history := []

/-- An operation that fails leaves the ledger as it is, and so does a file that cannot be
opened. -/
def Session.step (crates : Crates) (codec : RecordCodec) (op : SessionOp) (self : Session) :
    Session :=
  match op with
  | .perform op =>
    match self.current.perform crates codec op with
    | .ok next =>
      { current := next
        history := self.history ++ next.journal.drop self.current.journal.length }
    | .error _ => self
  | .reopen =>
    match readFile codec (replayer crates) Replay.start self.current.file with
    | .ok u => { self with current := .opened u self.current.file }
    | .error _ => self

/-- **Cancellation stays.** After a record with the bit all records of the request have it. -/
def CancellationKept (s : Session) : Prop :=
  s.history.Pairwise fun a b => a.request = b.request → KeepsBit a b

/-- The exception: a committed launch that was asked to stop is stopped. -/
def NotStoppedCancelled (crates : Crates) (codec : RecordCodec) (op : SessionOp)
    (s : Session) : Prop :=
  ∀ ledgerOp next, op = .perform ledgerOp → s.current.perform crates codec ledgerOp = .ok next →
    ¬ StopsCancelled s.current.ledger ledgerOp

/-- What a session keeps as long as the bit is kept. -/
structure SessionInvariant (crates : Crates) (codec : RecordCodec) (s : Session) : Prop where
  kept : CancellationKept s
  recorded : ∀ request record, s.current.ledger.records.get request = some record →
    record ∈ s.history
  /-- The bit of a record in the history is in the last record of the request. -/
  last : ∀ record ∈ s.history, record.cancelRequested = some true →
    ∃ current, s.current.ledger.records.get record.request = some current ∧
      current.cancelRequested = some true
  /-- The file is what was read when it was opened and what was appended since. -/
  file : ∃ u file, readFile codec (replayer crates) Replay.start file = .ok u ∧
    s.current.file = file ++ entries codec s.current.journal ∧
    s.current.ledger.records = s.current.journal.foldl Records.insert u.records

theorem sessionInvariant_start : SessionInvariant crates codec Session.start where
  kept := List.Pairwise.nil
  recorded _ _ h := by cases h
  last _ h := by cases h
  file := ⟨Replay.start, [], readFile_nil, rfl, rfl⟩

/-- The records after a replay are those of the journal put into those from before. -/
theorem records_of_replay {u v : Replay} {journal : List LedgerRecord}
    (h : (replayer crates).replay u journal = .ok v) :
    v.records = journal.foldl Records.insert u.records := by
  induction journal generalizing u with
  | nil =>
    cases h
    rfl
  | cons record journal ih =>
    obtain ⟨w, hadvance, h⟩ := replay_cons.mp h
    obtain ⟨-, -, -, -, -, -, -, -, rfl⟩ := advance_eq_ok.mp hadvance
    exact ih h

variable {s : Session}

/-- A record that is written is appended to the history. -/
theorem step_perform_of_ok {op : LedgerOp} {next : Journaled}
    (hdecide : op.decide crates s.current.ledger = .ok (some record))
    (hperform : s.current.perform crates codec op = .ok next) :
    s.step crates codec (.perform op) =
      { current := s.current.append codec record, history := s.history ++ [record] } := by
  have hnext : next = s.current.append codec record := by
    rw [Journaled.perform, hdecide] at hperform
    obtain ⟨-, h⟩ := check_bind_eq_ok.mp hperform
    cases h
    rfl
  simp only [Session.step, hperform, hnext, Journaled.append, List.drop_left]

theorem step_perform_cases (op : LedgerOp) :
    s.step crates codec (.perform op) = s ∨
      ∃ record next, op.decide crates s.current.ledger = .ok (some record) ∧
        s.current.perform crates codec op = .ok next := by
  cases hperform : s.current.perform crates codec op with
  | error e =>
    rw [Session.step, hperform]
    exact .inl rfl
  | ok next =>
    obtain rfl | ⟨record, hdecide, -⟩ := perform_cases hperform
    · refine .inl ?_
      simp only [Session.step, hperform, List.drop_length, List.append_nil]
    · exact .inr ⟨record, next, hdecide, rfl⟩

/-- Opening the file again gives the records that are in memory. -/
theorem SessionInvariant.reopen (hs : SessionInvariant crates codec s) :
    SessionInvariant crates codec (s.step crates codec .reopen) := by
  rw [Session.step]
  split
  next v hv =>
    obtain ⟨u, file, hopen, hfile, hrecords⟩ := hs.file
    have hsame : v.records = s.current.ledger.records := by
      have hreplay := hv
      rw [hfile, readFile_entries_iff hopen] at hreplay
      rw [hrecords, records_of_replay hreplay.2]
    refine ⟨hs.kept, ?_, ?_, v, s.current.file, hv, (List.append_nil _).symm, rfl⟩
    · intro request record hget
      exact hs.recorded request record (hsame ▸ hget)
    · intro record hmem hbit
      obtain ⟨current, hget, hcurrent⟩ := hs.last record hmem hbit
      rw [← hsame] at hget
      exact ⟨current, hget, hcurrent⟩
  next => exact hs

/-- A record that keeps the bit of the one before it is appended. -/
theorem SessionInvariant.append (hs : SessionInvariant crates codec s)
    (hbit : ∀ previous, s.current.ledger.records.get record.request = some previous →
      KeepsBit previous record) :
    SessionInvariant crates codec
      { current := s.current.append codec record, history := s.history ++ [record] } := by
  refine ⟨?_, ?_, ?_, ?_⟩
  · -- a record of the same request with the bit gave it to the last record
    refine List.pairwise_append.mpr ⟨hs.kept, List.pairwise_singleton _ _, ?_⟩
    intro a ha b hb hrequest hcancel
    obtain rfl := List.mem_singleton.mp hb
    obtain ⟨current, hget, hcurrent⟩ := hs.last a ha hcancel
    rw [hrequest] at hget
    exact hbit current hget hcurrent
  · intro request found hget
    rw [Journaled.append, Records.get_insert] at hget
    split at hget
    · cases hget
      exact List.mem_append_right _ (List.mem_singleton.mpr rfl)
    · exact List.mem_append_left _ (hs.recorded request found hget)
  · intro found hfound hcancel
    rw [Journaled.append, Records.get_insert]
    split
    next hrequest =>
      refine ⟨record, rfl, ?_⟩
      rcases List.mem_append.mp hfound with hold | hnew
      · obtain ⟨current, hget, hcurrent⟩ := hs.last found hold hcancel
        rw [← hrequest] at hget
        exact hbit current hget hcurrent
      · rw [← List.mem_singleton.mp hnew]
        exact hcancel
    next hrequest =>
      rcases List.mem_append.mp hfound with hold | hnew
      · exact hs.last found hold hcancel
      · rw [List.mem_singleton.mp hnew] at hrequest
        exact absurd rfl hrequest
  · obtain ⟨u, file, hopen, hfile, hrecords⟩ := hs.file
    refine ⟨u, file, hopen, ?_, ?_⟩
    · simp only [Journaled.append, hfile, entries, List.flatMap_append, List.flatMap_singleton,
        List.append_assoc]
    · simp only [Journaled.append, hrecords, List.foldl_append, List.foldl_cons, List.foldl_nil]

theorem SessionInvariant.step (hs : SessionInvariant crates codec s) {op : SessionOp}
    (hop : NotStoppedCancelled crates codec op s) :
    SessionInvariant crates codec (s.step crates codec op) := by
  cases op with
  | reopen => exact hs.reopen
  | perform op =>
    obtain hsame | ⟨record, next, hdecide, hperform⟩ := step_perform_cases op
    · rw [hsame]
      exact hs
    · rw [step_perform_of_ok hdecide hperform]
      have hwritten := writtenFrom_of_decide hdecide
      refine hs.append fun previous hget => ?_
      rw [hwritten.request] at hget
      exact hwritten.keeps previous hget (hop op next rfl hperform)

/-- A stop of a committed launch that was asked to stop writes a record without the bit. -/
theorem SessionInvariant.not_kept (hs : SessionInvariant crates codec s) {op : SessionOp}
    (hop : ¬ NotStoppedCancelled crates codec op s) :
    ¬ CancellationKept (s.step crates codec op) := by
  rw [NotStoppedCancelled] at hop
  push Not at hop
  obtain ⟨ledgerOp, next, rfl, hperform, hstops⟩ := hop
  intro hkept
  obtain ⟨appended, hdecide, -⟩ := bind_eq_ok.mp hperform
  cases appended with
  | none => exact hstops.ne_none hdecide rfl
  | some record =>
    obtain ⟨-, previous, hget, -, hbit⟩ := id hstops
    have hwritten := writtenFrom_of_decide hdecide
    have hrequest : previous.request = record.request := by
      rw [hwritten.request, Records.request_of_get hget]
    rw [step_perform_of_ok hdecide hperform] at hkept
    obtain ⟨-, -, hkept⟩ := List.pairwise_append.mp hkept
    have hlost := hkept previous (hs.recorded _ previous hget) record
      (List.mem_singleton.mpr rfl) hrequest hbit
    rw [hwritten.loses hstops] at hlost
    cases hlost

/-- **The bit over a history.** From an empty ledger, with any operations and any number of
openings in between, the bit stays in all records of a request, in every state of the run,
exactly if no committed launch that was asked to stop is stopped. -/
theorem cancellation_kept_iff (crates : Crates) (codec : RecordCodec) (ops : List SessionOp) :
    Meets (Session.step crates codec) (NotStoppedCancelled crates codec) .start ops ↔
      ∀ before, before <+: ops →
        CancellationKept (run (Session.step crates codec) .start before) :=
  meets_iff_throughout (I := fun _ s => SessionInvariant crates codec s)
    (fun _ _ hs => hs.kept) (fun _ _ _ hs hop => hs.step hop)
    (fun _ _ _ hs hop => hs.not_kept hop) sessionInvariant_start

/-- The sample launch is asked to stop while it is pending, is committed and is then stopped. -/
def sampleSession : List SessionOp :=
  [.perform (.reserve sampleRequest samplePolicy none),
    .perform (.requestPendingStop sampleRequest samplePolicy),
    .perform (.commit sampleRequest sampleReceipt),
    .perform (.beginStop sampleRequest sampleReceipt)]

theorem step_sampleLedger (journal journal' : List LedgerRecord) {op : LedgerOp}
    (hjournal : journal ++ [record] = journal')
    (hsample : journal' <+: sampleJournal)
    (hdecide : op.decide sampleBrokerCrates (sampleLedger journal).ledger = .ok (some record)) :
    Session.step sampleBrokerCrates jsonCodec (.perform op) ⟨sampleLedger journal, journal⟩ =
      ⟨sampleLedger journal', journal'⟩ := by
  subst hjournal
  have hperform := perform_append hdecide (checkAppend_sample hsample)
  rw [sampleLedger_concat]
  exact step_perform_of_ok (s := ⟨sampleLedger journal, journal⟩) hdecide hperform

theorem run_sampleSession : run (Session.step sampleBrokerCrates jsonCodec) .start sampleSession =
    ⟨sampleLedger sampleJournal, sampleJournal⟩ := by
  obtain ⟨hreserved, hcancelled, hcommitted, hstopped⟩ := decide_sample
  have hstart : Session.start = ⟨sampleLedger [], []⟩ := rfl
  have hsample : ∀ n, sampleJournal.take n <+: sampleJournal := fun n => List.take_prefix n _
  rw [sampleSession, run_cons, run_cons, run_cons, run_cons, run_nil, hstart,
    step_sampleLedger [] [sampleReserved] rfl (hsample 1) hreserved,
    step_sampleLedger _ [sampleReserved, sampleCancelled] rfl (hsample 2) hcancelled,
    step_sampleLedger _ [sampleReserved, sampleCancelled, sampleCommitted] rfl (hsample 3)
      hcommitted,
    step_sampleLedger _ sampleJournal rfl (hsample 4) hstopped]

/-- The record of the stop has lost the bit. -/
theorem stop_loses_cancellation :
    ¬ CancellationKept (run (Session.step sampleBrokerCrates jsonCodec) .start sampleSession) := by
  rw [run_sampleSession]
  intro hkept
  have hlost := List.pairwise_iff_getElem.mp hkept 2 3 (by decide) (by decide) (by decide) rfl rfl
  cases hlost

end AscensionWatchdog.Broker
