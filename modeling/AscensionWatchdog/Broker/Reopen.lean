import AscensionWatchdog.Broker.Encoding
import AscensionWatchdog.Broker.Receipts
import AscensionWatchdog.Broker.Transitions

/-!
# Reopening the ledger

The ledger in memory is a transition machine, and the journal is read back by a replayer with
rules of its own. `advance_iff` compares the two for one record: what an operation appends is
taken up by the replayer unless there are too many records, or the unit name of the request is
that of another request, or a stop is begun on a committed record that carries a request to
cancel. From this follows for every run of operations when the file that it wrote can be read
again, starting from an empty ledger (`parse_written_iff`) or from any file that was opened
(`parse_reopened_iff`).
-/

namespace AscensionWatchdog.Broker

open Foundation Foundation.Journal

variable {crates : Crates} {codec : RecordCodec} {records : Records}
variable {record previous : LedgerRecord} {receipt : LaunchReceipt} {u v : Replay}

/-! ### The transition rules of the replayer -/

theorem checkTransition_reserved (record : LedgerRecord) (hstate : record.state = .pending)
    (hreceipt : record.receipt = none) :
    checkTransition none record = .ok () ↔ record.cancelRequested = none := by
  cases record
  cases hstate
  cases hreceipt
  exact ensure_eq_ok

theorem checkTransition_pending (record : LedgerRecord) (hstate : record.state = .pending)
    (hreceipt : record.receipt = none) :
    checkTransition (some previous) record = .ok () ↔
      extendsPending previous record ∧ previous.unit = record.unit ∧
        previous.identity = record.identity ∧ previous.bootstrap = record.bootstrap := by
  cases record
  cases hstate
  cases hreceipt
  exact ensure_eq_ok

theorem checkTransition_receipt (record : LedgerRecord) (hstate : record.state ≠ .pending)
    (hreceipt : record.receipt = some receipt) :
    checkTransition (some previous) record = .ok () ↔ followsReceipt previous record receipt := by
  obtain ⟨_, _, _, _, _, _, state, _⟩ := record
  cases hreceipt
  cases state with
  | pending => exact absurd rfl hstate
  | _ => exact ensure_eq_ok

/-- The records that the replayer takes up are valid. -/
theorem valid_of_checkTransition {found : Option LedgerRecord}
    (hrequest : record.request.validate = .ok ())
    (hbootstrap : forEach (·.validate record.request) record.bootstrap.toList = .ok ())
    (hjob : forEach (·.validateForRequest crates record.request) record.job.toList = .ok ())
    (hunit : record.unit = unitName crates record.request)
    (hfound : ∀ previous ∈ found, ValidRecord crates previous)
    (h : checkTransition found record = .ok ()) : ValidRecord crates record := by
  by_cases hstate : record.state = .pending
  · -- a pending record has no receipt, and it cancels only if it is an extension
    have hreceipt : record.receipt = none := by
      revert h
      cases found <;> cases hr : record.receipt <;> simp [checkTransition, hstate, hr]
    have hcancel : record.cancelRequested ≠ some false := by
      cases found with
      | none => simp [(checkTransition_reserved record hstate hreceipt).mp h]
      | some previous =>
        have hprevious := (hfound previous rfl).cancel
        obtain ⟨hextends, -⟩ := (checkTransition_pending record hstate hreceipt).mp h
        obtain ⟨-, -, -, -, hcancel⟩ | ⟨-, -, -, hcancel, -⟩ := hextends
        · exact hcancel ▸ hprevious
        · simp [hcancel]
    exact ⟨hrequest, hbootstrap, hjob, hunit, hcancel, fun _ => hreceipt,
      fun hne => absurd hstate hne⟩
  · have hexists : ∃ previous receipt, found = some previous ∧ record.receipt = some receipt := by
      revert h
      cases found <;> cases hs : record.state <;> cases hr : record.receipt <;>
        simp_all [checkTransition]
    obtain ⟨previous, receipt, rfl, hreceipt⟩ := hexists
    obtain ⟨-, -, -, -, -, hcancel, -, hof⟩ := (checkTransition_receipt record hstate hreceipt).mp h
    exact ⟨hrequest, hbootstrap, hjob, hunit, hcancel ▸ (hfound previous rfl).cancel,
      fun hpending => absurd hpending hstate, fun _ => ⟨receipt, hreceipt, hof⟩⟩

/-- **The rules compared.** Of the records that operations append, the replayer refuses only a
stop that was begun on a committed record with a request to cancel. -/
theorem checkTransition_iff (hvalid : ValidRecords crates records)
    (h : Appends crates records record) :
    checkTransition (records.get record.request) record = .ok () ↔
      ∀ previous, records.get record.request = some previous → previous.state = .committed →
        previous.cancelRequested = none := by
  -- only a stop that is begun follows a committed record
  have hother : ∀ previous : LedgerRecord, previous.state ≠ .committed →
      ∀ found, some previous = some found → found.state = .committed →
        found.cancelRequested = none := by
    rintro previous hne found ⟨⟩ hcommitted
    exact absurd hcommitted hne
  cases h with
  | @reserved request policy bootstrap _ _ hnone _ =>
    replace hnone : records.get (reservation crates request policy bootstrap).request = none :=
      hnone
    rw [hnone]
    exact iff_of_true ((checkTransition_reserved _ rfl rfl).mpr rfl) (fun _ h => by cases h)
  | @bound previous job hget hstate hjob _ =>
    have hreceipt := (hvalid _ _ hget).pending hstate
    have hextends : extendsPending previous { previous with job := some job } :=
      .inl ⟨hstate, hreceipt, hjob, rfl, rfl⟩
    rw [hget]
    exact iff_of_true ((checkTransition_pending { previous with job := some job } hstate
      hreceipt).mpr ⟨hextends, rfl, rfl, rfl⟩) (hother previous (by simp [hstate]))
  | @cancelled previous hget hstate hcancel =>
    have hprevious := hvalid _ _ hget
    have hreceipt := hprevious.pending hstate
    have hnone : previous.cancelRequested = none := by
      have hfalse := hprevious.cancel
      revert hcancel hfalse
      cases previous.cancelRequested with
      | none => simp
      | some requested => cases requested <;> simp
    have hextends : extendsPending previous { previous with cancelRequested := some true } :=
      .inr ⟨hstate, hreceipt, hnone, rfl, rfl⟩
    rw [hget]
    exact iff_of_true ((checkTransition_pending { previous with cancelRequested := some true }
      hstate hreceipt).mpr ⟨hextends, rfl, rfl, rfl⟩) (hother previous (by simp [hstate]))
  | @committed previous receipt hget hstate hof =>
    have hnone := (hvalid _ _ hget).pending hstate
    have hfollows : followsReceipt previous
        { previous with state := .committed, receipt := some receipt } receipt :=
      ⟨.inr (by rw [hstate]; rfl), rfl, rfl, rfl, rfl, rfl, by simp [hnone], hof⟩
    rw [hget]
    exact iff_of_true ((checkTransition_receipt _ (by simp) rfl).mpr hfollows)
      (hother previous (by simp [hstate]))
  | @stopBegun previous prior receipt hget hstate hprior hsame =>
    obtain ⟨prior', hprior', hof⟩ := (hvalid _ _ hget).receipt (by simp [hstate])
    cases hprior.symm.trans hprior'
    rw [hget, checkTransition_receipt _ (by simp) rfl]
    constructor
    · rintro ⟨-, -, -, -, -, hcancel, -⟩ found hfound -
      cases hfound
      exact hcancel
    · intro hcancel
      exact ⟨.inr (by rw [hstate]; rfl), rfl, rfl, rfl, rfl, hcancel previous rfl hstate,
        by simpa [hprior] using hsame, hof.of_sameProcess hsame⟩
  | @cleanupBegun previous receipt hget hstate hof =>
    have hnone := (hvalid _ _ hget).pending hstate
    have hfollows : followsReceipt previous
        { previous with state := .stopPending, receipt := some receipt } receipt :=
      ⟨.inl ⟨rfl, hstate, hnone⟩, rfl, rfl, rfl, rfl, rfl, by simp [hnone], hof⟩
    rw [hget]
    exact iff_of_true ((checkTransition_receipt _ (by simp) rfl).mpr hfollows)
      (hother previous (by simp [hstate]))
  | @stopped previous prior receipt hget hstate hprior hsame =>
    obtain ⟨prior', hprior', hof⟩ := (hvalid _ _ hget).receipt (by simp [hstate])
    cases hprior.symm.trans hprior'
    have hfollows : followsReceipt previous
        { previous with state := .stopped, receipt := some receipt } receipt :=
      ⟨.inr (by rw [hstate]; rfl), rfl, rfl, rfl, rfl, rfl, by simpa [hprior] using hsame,
        hof.of_sameProcess hsame⟩
    rw [hget]
    exact iff_of_true ((checkTransition_receipt _ (by simp) rfl).mpr hfollows)
      (hother previous (by simp [hstate]))

/-! ### The replayer's state -/

/-- The state after a record was taken up. -/
def Replay.after (self : Replay) (record : LedgerRecord) : Replay where
  records := self.records.insert record
  transitionCount := self.transitionCount + 1
  units := (record.unit, record.request) :: self.units

/-- The records are valid, and the units are theirs. -/
structure Replay.Valid (crates : Crates) (u : Replay) : Prop where
  count : u.transitionCount ≤ maxLedgerTransitions
  records : ValidRecords crates u.records
  units_mem : ∀ unit request, u.units.lookup unit = some request →
    ∃ record, u.records.get request = some record ∧ record.unit = unit
  units_get : ∀ request record, u.records.get request = some record →
    u.units.lookup record.unit = some request

theorem Replay.valid_start : Replay.start.Valid crates where
  count := Nat.zero_le _
  records := validRecords_nil
  units_mem := fun _ _ h => by cases h
  units_get := fun _ _ h => by cases h

theorem advance_eq_ok : (replayer crates).advance u record = .ok v ↔
    u.transitionCount + 1 ≤ maxLedgerTransitions ∧ record.request.validate = .ok () ∧
      forEach (·.validate record.request) record.bootstrap.toList = .ok () ∧
      forEach (·.validateForRequest crates record.request) record.job.toList = .ok () ∧
      record.unit = unitName crates record.request ∧
      (∀ request ∈ u.units.lookup record.unit, request = record.request) ∧
      ((u.records.get record.request).isSome = true ∨ u.records.length < maxLedgerRequests) ∧
      checkTransition (u.records.get record.request) record = .ok () ∧ u.after record = v := by
  simp only [Reader.advance, replayer, Replay.countTransition, Replay.applyRecord,
    ensure_eq_ok, check_bind_eq_ok, pure_eq_ok, Replay.after]

theorem Replay.Valid.advance (hu : u.Valid crates)
    (h : (replayer crates).advance u record = .ok v) : v.Valid crates := by
  obtain ⟨hcount, hrequest, hbootstrap, hjob, hunit, hunits, -, htransition, rfl⟩ :=
    advance_eq_ok.mp h
  have hrecord : ValidRecord crates record :=
    valid_of_checkTransition hrequest hbootstrap hjob hunit
      (fun previous hprevious => hu.records _ previous hprevious) htransition
  refine ⟨hcount, hu.records.insert hrecord, ?_, ?_⟩
  · intro unit request hlookup
    simp only [Replay.after, List.lookup_cons] at hlookup
    split at hlookup
    next heq =>
      cases hlookup
      exact ⟨record, Records.get_insert_self, (beq_iff_eq.mp heq).symm⟩
    next hne =>
      obtain ⟨record', hget, hunit'⟩ := hu.units_mem unit request hlookup
      by_cases hsame : record.request = request
      · have hprevious := hu.records _ record' hget
        have hname : record'.unit = record.unit := by
          rw [hprevious.unit, hunit, Records.request_of_get hget, hsame]
        exact absurd (beq_iff_eq.mpr (hunit'.symm.trans hname)) (by simpa using hne)
      · refine ⟨record', ?_, hunit'⟩
        rw [Replay.after, Records.get_insert, if_neg hsame]
        exact hget
  · intro request record' hget
    simp only [Replay.after, Records.get_insert] at hget
    simp only [Replay.after, List.lookup_cons]
    split at hget
    next hsame =>
      cases hget
      simp [hsame]
    next hdifferent =>
      have hlookup := hu.units_get request record' hget
      split
      next heq =>
        rw [beq_iff_eq.mp heq] at hlookup
        exact absurd (hunits request hlookup).symm hdifferent
      next => exact hlookup

/-- What the replayer asks of a record that an operation appends. -/
structure Fits (u : Replay) (record : LedgerRecord) : Prop where
  count : u.transitionCount < maxLedgerTransitions
  unit : ∀ request other, u.records.get request = some other → other.unit = record.unit →
    request = record.request
  uncancelled : ∀ previous, u.records.get record.request = some previous →
    previous.state = .committed → previous.cancelRequested = none

/-- **One record.** What an operation appends is taken up exactly if it fits. -/
theorem advance_iff (hu : u.Valid crates) (h : Appends crates u.records record) :
    (replayer crates).advance u record = .ok v ↔ Fits u record ∧ u.after record = v := by
  have hrecord := h.valid hu.records
  have hroom : (u.records.get record.request).isSome = true ∨
      u.records.length < maxLedgerRequests := by
    cases h with
    | reserved _ _ _ _ hlength => exact .inr hlength
    | bound hget | cancelled hget | committed hget | stopBegun hget | cleanupBegun hget
    | stopped hget => exact .inl (by rw [hget]; rfl)
  have hunits : (∀ request ∈ u.units.lookup record.unit, request = record.request) ↔
      ∀ request other, u.records.get request = some other → other.unit = record.unit →
        request = record.request := by
    constructor
    · intro hlookup request other hget hunit
      exact hlookup request (hunit ▸ hu.units_get request other hget)
    · intro hfree request hlookup
      obtain ⟨other, hget, hunit⟩ := hu.units_mem record.unit request hlookup
      exact hfree request other hget hunit
  rw [advance_eq_ok, hunits, checkTransition_iff hu.records h]
  constructor
  · rintro ⟨hcount, -, -, -, -, hunit, -, hcancel, hafter⟩
    exact ⟨⟨hcount, hunit, hcancel⟩, hafter⟩
  · rintro ⟨hfits, hafter⟩
    exact ⟨hfits.count, hrecord.request, hrecord.bootstrap, hrecord.job, hrecord.unit,
      hfits.unit, hroom, hfits.uncancelled, hafter⟩

/-! ### Runs of operations -/

/-- A ledger with its file, and what was appended since it was opened. -/
structure Journaled where
  ledger : Ledger
  file : List UInt8
  journal : List LedgerRecord

/-- A ledger that was just opened. -/
def Journaled.opened (u : Replay) (file : List UInt8) : Journaled where
  ledger := { records := u.records, poisoned := false }
  file := file
  journal := []

def Journaled.append (codec : RecordCodec) (self : Journaled) (record : LedgerRecord) :
    Journaled where
  ledger := { self.ledger with records := self.ledger.records.insert record }
  file := self.file ++ entry codec record
  journal := self.journal ++ [record]

/-- An operation, where the file system lets it write. -/
def Journaled.perform (crates : Crates) (codec : RecordCodec) (self : Journaled)
    (op : LedgerOp) : Except BrokerError Journaled := do
  let appended ← op.decide crates self.ledger
  match appended with
  | none => pure self
  | some record => do
    checkAppend codec self.file record
    pure (self.append codec record)

/-- What successful operations lead to. -/
inductive Written (crates : Crates) (codec : RecordCodec) (start : Journaled) :
    Journaled → Prop where
  | start : Written crates codec start start
  | step {s s' : Journaled} {op : LedgerOp} : Written crates codec start s →
      Admitted crates s.ledger op → s.perform crates codec op = .ok s' →
      Written crates codec start s'

/-- The records that the replayer started with and those that were appended. -/
def InHistory (u : Replay) (journal : List LedgerRecord) (record : LedgerRecord) : Prop :=
  u.records.get record.request = some record ∨ record ∈ journal

/-- When the replayer takes up a journal that operations wrote: there are not too many records,
no two requests share a unit, and no stop follows a commit that carries a request to cancel. -/
structure Reopens (u : Replay) (journal : List LedgerRecord) : Prop where
  transitions : u.transitionCount + journal.length ≤ maxLedgerTransitions
  units : ∀ a b, InHistory u journal a → InHistory u journal b → a.unit = b.unit →
    a.request = b.request
  uncancelled : ∀ a b, InHistory u journal a → b ∈ journal → a.request = b.request →
    a.state = .committed → a.cancelRequested = some true → b.state ≠ .stopPending

/-- What holds of a ledger in memory and of its history. -/
structure History (crates : Crates) (u : Replay) (s : Journaled) : Prop where
  valid : ValidRecords crates s.ledger.records
  current : ∀ request record, s.ledger.records.get request = some record →
    InHistory u s.journal record
  unit : ∀ record, InHistory u s.journal record → record.unit = unitName crates record.request
  /-- The last record of a request comes after the others, and at most one is in each of the
  states after pending. -/
  last : ∀ record, InHistory u s.journal record →
    ∃ current, s.ledger.records.get record.request = some current ∧
      record.state.rank ≤ current.state.rank ∧
      (record.state.rank = current.state.rank → record.state ≠ .pending → record = current)

section Steps

variable {s : Journaled} {journal : List LedgerRecord}

theorem InHistory.concat (h : InHistory u journal previous) :
    InHistory u (journal ++ [record]) previous :=
  h.imp_right fun hmem => List.mem_append_left _ hmem

theorem inHistory_concat : InHistory u (journal ++ [record]) previous ↔
    InHistory u journal previous ∨ previous = record := by
  rw [InHistory, InHistory, List.mem_append, List.mem_singleton, or_assoc]

theorem History.opened (hu : u.Valid crates) (file : List UInt8) :
    History crates u (.opened u file) where
  valid := hu.records
  current request record hget := by
    have hrequest := Records.request_of_get hget
    exact .inl (hrequest ▸ hget)
  unit record h := by
    obtain hget | hmem := h
    · exact (hu.records _ _ hget).unit
    · cases hmem
  last record h := by
    obtain hget | hmem := h
    · exact ⟨record, hget, Nat.le_refl _, fun _ _ => rfl⟩
    · cases hmem

theorem History.append (h : History crates u s)
    (happends : Appends crates s.ledger.records record) :
    History crates u (s.append codec record) := by
  have hrecord := happends.valid h.valid
  refine ⟨h.valid.insert hrecord, ?_, ?_, ?_⟩
  · intro request found hget
    rw [Journaled.append, Records.get_insert] at hget
    split at hget
    · cases hget
      exact inHistory_concat.mpr (.inr rfl)
    · exact (h.current request found hget).concat
  · intro found hfound
    obtain hfound | rfl := inHistory_concat.mp hfound
    · exact h.unit found hfound
    · exact hrecord.unit
  · intro found hfound
    rw [Journaled.append, Records.get_insert]
    obtain hfound | rfl := inHistory_concat.mp hfound
    · obtain ⟨current, hget, hle, hunique⟩ := h.last found hfound
      split
      next hrequest =>
        -- the new record is the last one of this request
        rw [← hrequest] at hget
        refine ⟨record, rfl, ?_⟩
        obtain hlt | ⟨hpending, hpending'⟩ := happends.rank_lt hget
        · exact ⟨by omega, fun heq => by omega⟩
        · rw [hpending] at hle
          rw [hpending']
          exact ⟨hle, fun heq hne => absurd (LedgerState.eq_of_rank_eq heq) hne⟩
      next => exact ⟨current, hget, hle, hunique⟩
    · rw [if_pos rfl]
      exact ⟨found, rfl, Nat.le_refl _, fun _ _ => rfl⟩

/-- A journal that is taken up has no part that is not. -/
theorem Reopens.of_concat (h : Reopens u (journal ++ [record])) : Reopens u journal where
  transitions := by
    have hlength := h.transitions
    rw [List.length_append, List.length_singleton] at hlength
    omega
  units a b ha hb := h.units a b ha.concat hb.concat
  uncancelled a b ha hb := h.uncancelled a b ha.concat (List.mem_append_left _ hb)

theorem Reopens.fits (h : Reopens u (s.journal ++ [record])) (hhistory : History crates u s)
    (happends : Appends crates s.ledger.records record) (hrecords : v.records = s.ledger.records)
    (hcount : v.transitionCount = u.transitionCount + s.journal.length) : Fits v record where
  count := by
    have hlength := h.transitions
    rw [List.length_append, List.length_singleton] at hlength
    omega
  unit request other hget hunit := by
    rw [hrecords] at hget
    have hother : InHistory u (s.journal ++ [record]) other :=
      (hhistory.current request other hget).concat
    rw [← Records.request_of_get hget]
    exact h.units other record hother (inHistory_concat.mpr (.inr rfl)) hunit
  uncancelled previous hget hstate := by
    rw [hrecords] at hget
    have hprevious : InHistory u (s.journal ++ [record]) previous :=
      (hhistory.current _ previous hget).concat
    -- what is appended to a committed record is the beginning of a stop
    have hstop : record.state = .stopPending := by
      cases happends with
      | reserved _ _ _ hnone => cases hnone.symm.trans hget
      | bound hget' hpending | cancelled hget' hpending | committed hget' hpending
      | cleanupBegun hget' hpending | stopped hget' hpending =>
        cases hget'.symm.trans hget
        cases hpending.symm.trans hstate
      | stopBegun => rfl
    have hnot : previous.cancelRequested ≠ some true := fun hcancel =>
      h.uncancelled previous record hprevious (by simp) (Records.request_of_get hget) hstate hcancel
        hstop
    have hfalse := (hhistory.valid _ _ hget).cancel
    revert hnot hfalse
    cases previous.cancelRequested with
    | none => simp
    | some requested => cases requested <;> simp

theorem Reopens.concat (h : Reopens u s.journal) (hhistory : History crates u s)
    (happends : Appends crates s.ledger.records record) (hrecords : v.records = s.ledger.records)
    (hcount : v.transitionCount = u.transitionCount + s.journal.length) (hfits : Fits v record) :
    Reopens u (s.journal ++ [record]) := by
  have hrecord := happends.valid hhistory.valid
  -- an earlier record with the unit of the new one is of the same request
  have hshared : ∀ a, InHistory u s.journal a → a.unit = record.unit →
      a.request = record.request := by
    intro a ha hunit
    obtain ⟨current, hget, -⟩ := hhistory.last a ha
    have hcurrent : current.unit = a.unit := by
      rw [(hhistory.valid _ _ hget).unit, hhistory.unit a ha, Records.request_of_get hget]
    rw [← hrecords] at hget
    exact hfits.unit a.request current hget (hcurrent.trans hunit)
  refine ⟨?_, ?_, ?_⟩
  · have hlt := hfits.count
    rw [List.length_append, List.length_singleton]
    omega
  · intro a b ha hb hunit
    obtain hold | rfl := inHistory_concat.mp ha <;> obtain hold' | rfl := inHistory_concat.mp hb
    · exact h.units a b hold hold' hunit
    · exact hshared a hold hunit
    · exact (hshared b hold' hunit.symm).symm
    · rfl
  · intro a b ha hb hrequest hcommitted hcancel hstop
    rw [List.mem_append, List.mem_singleton] at hb
    obtain hold | rfl := inHistory_concat.mp ha <;> obtain hold' | rfl := hb
    · exact h.uncancelled a b hold hold' hrequest hcommitted hcancel hstop
    · -- the new record begins a stop: on the commit itself, or before any commit
      obtain ⟨current, hget, hle, hunique⟩ := hhistory.last a hold
      rw [hrequest] at hget
      obtain hlt | ⟨-, hpending⟩ := happends.rank_lt hget
      · have hstate : current.state = .committed := by
          rw [hcommitted] at hle
          rw [hstop] at hlt
          revert hle hlt
          cases current.state <;> decide
        have heq : a = current :=
          hunique (by rw [hcommitted, hstate]) (by rw [hcommitted]; nofun)
        rw [← hrecords] at hget
        have hnone := hfits.uncancelled current hget hstate
        rw [← heq, hcancel] at hnone
        cases hnone
      · cases hstop.symm.trans hpending
    · -- a commit comes before the stop of its request
      obtain ⟨current, hget, hle, -⟩ := hhistory.last b (.inr hold')
      rw [← hrequest] at hget
      rw [hstop] at hle
      obtain hlt | ⟨-, hpending⟩ := happends.rank_lt hget
      · rw [hcommitted] at hlt
        revert hle hlt
        cases current.state <;> decide
      · cases hcommitted.symm.trans hpending
    · cases hcommitted.symm.trans hstop

end Steps

/-- What a run of operations leaves, compared with the replay of its journal. -/
structure Replayed (crates : Crates) (u : Replay) (s : Journaled) : Prop
    extends History crates u s where
  replayed : ∀ v, (replayer crates).replay u s.journal = .ok v →
    v.records = s.ledger.records ∧ v.transitionCount = u.transitionCount + s.journal.length ∧
      v.Valid crates
  reopens : (∃ v, (replayer crates).replay u s.journal = .ok v) ↔ Reopens u s.journal

theorem Replayed.opened (hu : u.Valid crates) (file : List UInt8) :
    Replayed crates u (.opened u file) where
  toHistory := .opened hu file
  replayed v h := by
    cases h
    exact ⟨rfl, rfl, hu⟩
  reopens := by
    refine iff_of_true ⟨u, rfl⟩ ⟨hu.count, ?_, ?_⟩
    · intro a b ha hb hunit
      obtain ha | ha := ha
      · obtain hb | hb := hb
        · have hlookup := hu.units_get _ a ha
          rw [hunit, hu.units_get _ b hb] at hlookup
          exact (Option.some.inj hlookup).symm
        · cases hb
      · cases ha
    · intro a b ha hb
      cases hb

theorem Replayed.append {s : Journaled} (h : Replayed crates u s)
    (happends : Appends crates s.ledger.records record) :
    Replayed crates u (s.append codec record) := by
  have hadvance : ∀ v v', (replayer crates).replay u s.journal = .ok v →
      ((replayer crates).advance v record = .ok v' ↔ Fits v record ∧ v.after record = v') := by
    intro v v' hv
    obtain ⟨hrecords, -, hvalid⟩ := h.replayed v hv
    exact advance_iff hvalid (hrecords ▸ happends)
  refine ⟨h.toHistory.append happends, ?_, ?_⟩
  · intro v' hv'
    obtain ⟨v, hv, hv'⟩ := replay_concat.mp hv'
    obtain ⟨hrecords, hcount, hvalid⟩ := h.replayed v hv
    have hvalid' := hvalid.advance hv'
    obtain ⟨-, rfl⟩ := (hadvance v v' hv).mp hv'
    refine ⟨?_, ?_, hvalid'⟩
    · rw [Replay.after, hrecords, Journaled.append]
    · rw [Replay.after, hcount, Journaled.append, List.length_append, List.length_singleton,
        Nat.add_assoc]
  · constructor
    · rintro ⟨v', hv'⟩
      obtain ⟨v, hv, hv'⟩ := replay_concat.mp hv'
      obtain ⟨hrecords, hcount, -⟩ := h.replayed v hv
      obtain ⟨hfits, -⟩ := (hadvance v v' hv).mp hv'
      exact (h.reopens.mp ⟨v, hv⟩).concat h.toHistory happends hrecords hcount hfits
    · intro hreopens
      obtain ⟨v, hv⟩ := h.reopens.mpr hreopens.of_concat
      obtain ⟨hrecords, hcount, -⟩ := h.replayed v hv
      have hfits := hreopens.fits h.toHistory happends hrecords hcount
      exact ⟨v.after record, replay_concat.mpr ⟨v, hv, (hadvance v _ hv).mpr ⟨hfits, rfl⟩⟩⟩

/-- What a successful operation does. -/
theorem perform_cases {s s' : Journaled} {op : LedgerOp}
    (h : s.perform crates codec op = .ok s') :
    s' = s ∨ ∃ record, op.decide crates s.ledger = .ok (some record) ∧
      s' = s.append codec record := by
  obtain ⟨appended, hdecide, h⟩ := bind_eq_ok.mp h
  cases appended with
  | none =>
    cases h
    exact .inl rfl
  | some record =>
    obtain ⟨-, h⟩ := check_bind_eq_ok.mp h
    cases h
    exact .inr ⟨record, hdecide, rfl⟩

/-- **Runs.** After any run of operations the replayer takes up the journal exactly if
`Reopens`, and it then holds the records in memory. -/
theorem Written.replayed {file : List UInt8} {s : Journaled} (hu : u.Valid crates)
    (h : Written crates codec (.opened u file) s) :
    Replayed crates u s ∧ s.file = file ++ entries codec s.journal := by
  induction h with
  | start => exact ⟨.opened hu file, (List.append_nil file).symm⟩
  | step _ hadmitted hperform ih =>
    obtain ⟨hreplayed, hfile⟩ := ih
    obtain rfl | ⟨record, hdecide, rfl⟩ := perform_cases hperform
    · exact ⟨hreplayed, hfile⟩
    · refine ⟨hreplayed.append (appends_of_decide hreplayed.valid hadmitted hdecide), ?_⟩
      simp only [Journaled.append, hfile, entries, List.flatMap_append, List.flatMap_singleton,
        List.append_assoc]

theorem valid_of_readFile {file : List UInt8}
    (hopen : readFile codec (replayer crates) Replay.start file = .ok u) : u.Valid crates :=
  readFile_induction (fun _ _ _ hs hadvance => hs.advance hadvance) Replay.valid_start hopen

section Reading

variable {file : List UInt8} {s : Journaled}

/-- Where the file can be read after a run that began with an opened file. -/
theorem reopens_of_parse (hopen : readFile codec (replayer crates) Replay.start file = .ok u)
    (hrun : Written crates codec (.opened u file) s)
    (h : parseRecords crates codec s.file = .ok records) :
    (s.journal = [] ∨ Settled newline file) ∧ Reopens u s.journal := by
  obtain ⟨hreplayed, hfile⟩ := hrun.replayed (valid_of_readFile hopen)
  obtain ⟨v, hv, -⟩ := parseRecords_eq_ok.mp h
  rw [hfile, readFile_entries_iff hopen] at hv
  exact ⟨hv.1, hreplayed.reopens.mp ⟨v, hv.2⟩⟩

/-- What is read of it then is what is in memory. -/
theorem parse_after_run (hopen : readFile codec (replayer crates) Replay.start file = .ok u)
    (hrun : Written crates codec (.opened u file) s) :
    parseRecords crates codec s.file = .ok s.ledger.records ↔
      (s.journal = [] ∨ Settled newline file) ∧ Reopens u s.journal := by
  refine ⟨reopens_of_parse hopen hrun, ?_⟩
  rintro ⟨hsettled, hreopens⟩
  obtain ⟨hreplayed, hfile⟩ := hrun.replayed (valid_of_readFile hopen)
  obtain ⟨v, hv⟩ := hreplayed.reopens.mpr hreopens
  rw [parseRecords_eq_ok, hfile]
  exact ⟨v, (readFile_entries_iff hopen).mpr ⟨hsettled, hv⟩, (hreplayed.replayed v hv).1⟩

end Reading

/-! ### From an empty ledger -/

/-- **The journal of a ledger that was never interrupted.** After any run of operations on an
empty ledger the file is read back as the records in memory exactly if `Reopens`. -/
theorem parse_written_iff {s : Journaled}
    (hrun : Written crates codec (.opened Replay.start []) s) :
    parseRecords crates codec s.file = .ok s.ledger.records ↔ Reopens Replay.start s.journal := by
  rw [parse_after_run readFile_nil hrun]
  exact and_iff_right (.inr (.inl rfl))

theorem perform_append {s : Journaled} {op : LedgerOp}
    (hdecide : op.decide crates s.ledger = .ok (some record))
    (hroom : checkAppend codec s.file record = .ok ()) :
    s.perform crates codec op = .ok (s.append codec record) :=
  bind_eq_ok.mpr ⟨some record, hdecide, check_bind_eq_ok.mpr ⟨hroom, rfl⟩⟩

theorem Written.append {start s : Journaled} {op : LedgerOp} (h : Written crates codec start s)
    (hadmitted : Admitted crates s.ledger op)
    (hdecide : op.decide crates s.ledger = .ok (some record))
    (hroom : checkAppend codec s.file record = .ok ()) :
    Written crates codec start (s.append codec record) :=
  h.step hadmitted (perform_append hdecide hroom)

theorem checkAppend_of_le {file : List UInt8} (hrecord : (codec.encode record).length ≤ 8000)
    (hfile : file.length ≤ 100000) : checkAppend codec file record = .ok () := by
  have hbytes : maxLedgerBytes = 8389120 := rfl
  refine ensure_bind_eq_ok.mpr ⟨hrecord.trans (by decide), ensure_eq_ok.mpr ?_⟩
  omega

/-- The records of a launch that was asked to stop while it was pending: reserved, cancelled,
committed and stopped. -/
def sampleReserved : LedgerRecord where
  request := sampleRequest
  unit := sampleObservation.unit
  identity := LaunchIdentity.fromPolicy samplePolicy
  bootstrap := none
  job := none
  cancelRequested := none
  state := .pending
  receipt := none

def sampleReceipt : LaunchReceipt :=
  receiptFrom sampleRequest sampleObservation false

def sampleCancelled : LedgerRecord :=
  { sampleReserved with cancelRequested := some true }

def sampleCommitted : LedgerRecord :=
  { sampleCancelled with state := .committed, receipt := some sampleReceipt }

def sampleStopPending : LedgerRecord :=
  { sampleCommitted with cancelRequested := none, state := .stopPending }

def sampleJournal : List LedgerRecord :=
  [sampleReserved, sampleCancelled, sampleCommitted, sampleStopPending]

theorem length_encode_sample : ∀ record ∈ sampleJournal,
    (jsonCodec.encode record).length ≤ 8000 := by
  intro record hrecord
  refine (length_encode_le record).trans ?_
  revert record
  decide +kernel

/-- An empty ledger and what is appended to it. -/
noncomputable def sampleLedger (journal : List LedgerRecord) : Journaled :=
  journal.foldl (Journaled.append jsonCodec) (.opened Replay.start [])

theorem sampleLedger_concat (journal : List LedgerRecord) (record : LedgerRecord) :
    sampleLedger (journal ++ [record]) = (sampleLedger journal).append jsonCodec record := by
  rw [sampleLedger, List.foldl_append]
  rfl

theorem length_sampleLedger {journal : List LedgerRecord}
    (h : ∀ record ∈ journal, (jsonCodec.encode record).length ≤ 8000) :
    (sampleLedger journal).file.length ≤ 8001 * journal.length := by
  induction journal using List.reverseRecOn with
  | nil => exact Nat.le_refl 0
  | append_singleton journal record ih =>
    obtain ⟨hjournal, hrecord⟩ := List.forall_mem_append.mp h
    have hlength := ih hjournal
    have hencoded := hrecord record (List.mem_singleton.mpr rfl)
    rw [sampleLedger_concat, Journaled.append, entry, List.length_append, List.length_append,
      List.length_append, List.length_singleton, List.length_singleton]
    omega

theorem checkAppend_sample {journal : List LedgerRecord}
    (hsample : journal ++ [record] <+: sampleJournal) :
    checkAppend jsonCodec (sampleLedger journal).file record = .ok () := by
  have hsmall : ∀ record' ∈ journal ++ [record], (jsonCodec.encode record').length ≤ 8000 :=
    fun record' hmem => length_encode_sample record' (hsample.subset hmem)
  obtain ⟨hjournal, hrecord⟩ := List.forall_mem_append.mp hsmall
  have hfile := length_sampleLedger hjournal
  have hlength : (journal ++ [record]).length ≤ 4 := hsample.length_le
  rw [List.length_append, List.length_singleton] at hlength
  exact checkAppend_of_le (hrecord record (List.mem_singleton.mpr rfl)) (by omega)

/-- The operations that write the sample. -/
theorem decide_sample :
    LedgerOp.decide sampleBrokerCrates (sampleLedger []).ledger
        (.reserve sampleRequest samplePolicy none) = .ok (some sampleReserved) ∧
      LedgerOp.decide sampleBrokerCrates (sampleLedger [sampleReserved]).ledger
        (.requestPendingStop sampleRequest samplePolicy) = .ok (some sampleCancelled) ∧
      LedgerOp.decide sampleBrokerCrates (sampleLedger [sampleReserved, sampleCancelled]).ledger
        (.commit sampleRequest sampleReceipt) = .ok (some sampleCommitted) ∧
      LedgerOp.decide sampleBrokerCrates
        (sampleLedger [sampleReserved, sampleCancelled, sampleCommitted]).ledger
        (.beginStop sampleRequest sampleReceipt) = .ok (some sampleStopPending) := by
  decide +kernel

/-- One more record of the sample. -/
theorem sampleLedger_step (journal : List LedgerRecord) {op : LedgerOp}
    (hrun : Written sampleBrokerCrates jsonCodec (.opened Replay.start []) (sampleLedger journal))
    (hsample : journal ++ [record] <+: sampleJournal)
    (hadmitted : Admitted sampleBrokerCrates (sampleLedger journal).ledger op)
    (hdecide : op.decide sampleBrokerCrates (sampleLedger journal).ledger = .ok (some record)) :
    Written sampleBrokerCrates jsonCodec (.opened Replay.start [])
      (sampleLedger (journal ++ [record])) := by
  rw [sampleLedger_concat]
  exact hrun.append hadmitted hdecide (checkAppend_sample hsample)

theorem sampleLedger_reserved : Written sampleBrokerCrates jsonCodec (.opened Replay.start [])
    (sampleLedger [sampleReserved]) := by
  have hadmitted : Admitted sampleBrokerCrates (sampleLedger []).ledger
      (.reserve sampleRequest samplePolicy none) := by
    show sampleRequest.validate = .ok ()
    decide +kernel
  exact sampleLedger_step [] .start (by decide +kernel) hadmitted decide_sample.1

/-- The statement after one reservation. -/
theorem parse_written_iff_reserved :
    parseRecords sampleBrokerCrates jsonCodec (sampleLedger [sampleReserved]).file =
        .ok (sampleLedger [sampleReserved]).ledger.records ↔
      Reopens Replay.start (sampleLedger [sampleReserved]).journal :=
  parse_written_iff sampleLedger_reserved

theorem sampleLedger_stopPending : Written sampleBrokerCrates jsonCodec
    (.opened Replay.start []) (sampleLedger sampleJournal) := by
  have hcancelled : Written sampleBrokerCrates jsonCodec (.opened Replay.start [])
      (sampleLedger [sampleReserved, sampleCancelled]) := by
    have hadmitted : Admitted sampleBrokerCrates (sampleLedger [sampleReserved]).ledger
        (.requestPendingStop sampleRequest samplePolicy) := trivial
    exact sampleLedger_step [sampleReserved] sampleLedger_reserved (by decide +kernel)
      hadmitted decide_sample.2.1
  have hcommitted : Written sampleBrokerCrates jsonCodec (.opened Replay.start [])
      (sampleLedger [sampleReserved, sampleCancelled, sampleCommitted]) := by
    have hadmitted : Admitted sampleBrokerCrates
        (sampleLedger [sampleReserved, sampleCancelled]).ledger
        (.commit sampleRequest sampleReceipt) := by
      intro record hget
      cases hget.symm.trans (by decide +kernel : _ = some sampleCancelled)
      exact ⟨samplePolicy, rfl, by decide +kernel⟩
    exact sampleLedger_step [sampleReserved, sampleCancelled] hcancelled (by decide +kernel)
      hadmitted decide_sample.2.2.1
  have hadmitted : Admitted sampleBrokerCrates
      (sampleLedger [sampleReserved, sampleCancelled, sampleCommitted]).ledger
      (.beginStop sampleRequest sampleReceipt) := trivial
  exact sampleLedger_step [sampleReserved, sampleCancelled, sampleCommitted] hcommitted
    (by decide +kernel) hadmitted decide_sample.2.2.2

/-- A launch that was asked to stop while it was pending, was committed and is then stopped
leaves a journal that cannot be opened. -/
theorem cancelled_stop_not_reopened :
    ∃ s, Written sampleBrokerCrates jsonCodec (.opened Replay.start []) s ∧
      ∀ records, parseRecords sampleBrokerCrates jsonCodec s.file ≠ .ok records := by
  refine ⟨_, sampleLedger_stopPending, ?_⟩
  intro records hparse
  obtain ⟨-, hreopens⟩ := reopens_of_parse readFile_nil sampleLedger_stopPending hparse
  have hjournal : (sampleLedger sampleJournal).journal = sampleJournal := rfl
  rw [hjournal] at hreopens
  exact hreopens.uncancelled sampleCommitted sampleStopPending
    (.inr (by simp [sampleJournal])) (by simp [sampleJournal]) rfl rfl rfl rfl

/-! ### From a file that an interrupted append left -/

/-- **Crashes.** An append to `file` was interrupted and left the bytes `torn`, and the ledger
could be opened again. After any run of operations from then on the file is read back as the
records in memory exactly if nothing was appended or `file ++ torn` is settled, and `Reopens`.
Of a file that was settled before, the append must not have lost just the newline. -/
theorem parse_reopened_iff {file torn : List UInt8} {s : Journaled}
    (htorn : torn <+: entry codec record)
    (hopen : readFile codec (replayer crates) Replay.start (file ++ torn) = .ok u)
    (hrun : Written crates codec (.opened u (file ++ torn)) s) :
    (parseRecords crates codec s.file = .ok s.ledger.records ↔
        (s.journal = [] ∨ Settled newline (file ++ torn)) ∧ Reopens u s.journal) ∧
      (Settled newline file →
        (Settled newline (file ++ torn) ↔ torn ≠ codec.encode record)) :=
  ⟨parse_after_run hopen hrun, fun hsettled => settled_torn_iff hsettled htorn hopen⟩

/-- The file in which the newline of a reservation was lost. -/
noncomputable def sampleTorn : List UInt8 :=
  jsonCodec.encode sampleReserved

theorem sampleTorn_opened : readFile jsonCodec (replayer sampleBrokerCrates) Replay.start
    ([] ++ sampleTorn) = .ok (Replay.start.after sampleReserved) := by
  rw [List.nil_append, sampleTorn, readFile_encode, advance_eq_ok]
  exact ⟨by decide, by decide +kernel, rfl, rfl, rfl, by decide +kernel, .inr (by decide),
    by decide +kernel, rfl⟩

/-- A request to cancel is appended to the reopened file. -/
noncomputable def sampleGlued : Journaled :=
  (Journaled.opened (Replay.start.after sampleReserved) ([] ++ sampleTorn)).append jsonCodec
    sampleCancelled

theorem sampleGlued_written : Written sampleBrokerCrates jsonCodec
    (.opened (Replay.start.after sampleReserved) ([] ++ sampleTorn)) sampleGlued := by
  have hadmitted : Admitted sampleBrokerCrates
      (Journaled.opened (Replay.start.after sampleReserved) ([] ++ sampleTorn)).ledger
      (.requestPendingStop sampleRequest samplePolicy) := trivial
  have hsmall : ∀ record ∈ sampleJournal, (jsonCodec.encode record).length ≤ 8000 :=
    length_encode_sample
  have hfile : ([] ++ sampleTorn).length ≤ 8000 := hsmall sampleReserved (by simp [sampleJournal])
  exact Written.start.append hadmitted (by decide +kernel)
    (checkAppend_of_le (hsmall sampleCancelled (by simp [sampleJournal]))
      (hfile.trans (by decide)))

/-- The statement for that file. -/
theorem parse_reopened_iff_glued :
    (parseRecords sampleBrokerCrates jsonCodec sampleGlued.file =
          .ok sampleGlued.ledger.records ↔
        (sampleGlued.journal = [] ∨ Settled newline ([] ++ sampleTorn)) ∧
          Reopens (Replay.start.after sampleReserved) sampleGlued.journal) ∧
      (Settled newline ([] : List UInt8) →
        (Settled newline ([] ++ sampleTorn) ↔ sampleTorn ≠ jsonCodec.encode sampleReserved)) :=
  parse_reopened_iff (List.prefix_append _ _) sampleTorn_opened sampleGlued_written

/-- The reservation was read over although its newline is missing, and the next append makes
the file unreadable. -/
theorem lost_newline_not_reopened :
    sampleTorn <+: entry jsonCodec sampleReserved ∧
      parseRecords sampleBrokerCrates jsonCodec ([] ++ sampleTorn) = .ok [sampleReserved] ∧
      Written sampleBrokerCrates jsonCodec
        (.opened (Replay.start.after sampleReserved) ([] ++ sampleTorn)) sampleGlued ∧
      ∀ records, parseRecords sampleBrokerCrates jsonCodec sampleGlued.file ≠ .ok records := by
  refine ⟨List.prefix_append _ _, parseRecords_eq_ok.mpr ⟨_, sampleTorn_opened, rfl⟩,
    sampleGlued_written, ?_⟩
  intro records hparse
  obtain ⟨hsettled, -⟩ := reopens_of_parse sampleTorn_opened sampleGlued_written hparse
  have hnewline := (settled_torn_iff (.inl rfl) (List.prefix_append _ _) sampleTorn_opened).mp
    (hsettled.resolve_left (by simp [sampleGlued, Journaled.append]))
  exact hnewline rfl

end AscensionWatchdog.Broker
