import AscensionWatchdog.Broker.Reopen
import AscensionWatchdog.Broker.Service
import AscensionWatchdog.Foundation.History
import AscensionWatchdog.Foundation.Runs

/-!
# Runs of the broker

What the broker may do depends on what it has done. `Permits l e` says when the event `e` may
follow the history `l`: a record is appended as the ledger allows, a unit is started once and after
its reservation, whatever ends a process comes after the record of the intent to end it, the end is
recorded after the retirement was verified. A history is `Lawful` if each of its events was
permitted when it happened.

The programs of the broker keep the invariant `Sound`: the history is lawful, the file reads back,
if at all, to the records of the history, and the memory of a healthy ledger holds them. It is kept
however a program ends, so also by a crash in the middle of a write, and so it holds in every run
of a host on which brokers are opened, called and stopped (`BrokerHost.sound_run`).
-/

namespace AscensionWatchdog.Broker

open Foundation Foundation.Journal

variable {crates : Crates} {codec : RecordCodec} {records : Records} {record : LedgerRecord}
variable {request : BrokerRequest} {receipt : LaunchReceipt} {policy : LaunchPolicy}
variable {l : List BrokerEvent} {e : BrokerEvent}

/-! ### Histories -/

/-- The record that an event appends. -/
def BrokerEvent.record? : BrokerEvent → Option LedgerRecord
  | .appended record => some record
  | _ => none

theorem eq_appended (h : e.record? = some record) : e = .appended record := by
  cases e <;> simp_all [BrokerEvent.record?]

/-- The last record of each request in a history. -/
def recorded (l : List BrokerEvent) : Records :=
  (l.filterMap BrokerEvent.record?).foldl Records.insert []

theorem recorded_appended (l : List BrokerEvent) (record : LedgerRecord) :
    recorded (l ++ [.appended record]) = (recorded l).insert record := by
  simp [recorded, BrokerEvent.record?, List.filterMap_append]

theorem recorded_concat (l : List BrokerEvent) (h : e.record? = none) :
    recorded (l ++ [e]) = recorded l := by
  simp [recorded, h, List.filterMap_append]

/-- The current record of a request. -/
def Current (request : BrokerRequest) (P : LedgerRecord → Prop) (l : List BrokerEvent) : Prop :=
  ∃ record, (recorded l).get request = some record ∧ P record

/-- The intent to stop the process of a receipt is on record. -/
def StopRecorded (receipt : LaunchReceipt) (l : List BrokerEvent) : Prop :=
  Current receipt.request (fun record => record.state = .stopPending ∧
    ∃ prior, record.receipt = some prior ∧ sameProcessBinding prior receipt) l

/-- The containment of the process of a receipt was verified to be empty. -/
def RetirementVerified (receipt : LaunchReceipt) (l : List BrokerEvent) : Prop :=
  ∃ verified, .retired verified ∈ l ∧ sameProcessBinding verified receipt

/-- When an event may follow a history. -/
def Permits (crates : Crates) (l : List BrokerEvent) : BrokerEvent → Prop
  | .appended record =>
    Appends crates (recorded l) record ∧
      ((recorded l).get record.request = none →
        (recorded l).countP LedgerRecord.unresolved < maxActiveProcesses) ∧
      (record.state = .stopped →
        ∃ receipt, record.receipt = some receipt ∧ RetirementVerified receipt l)
  | .started request => Current request (·.state ≠ .stopped) l ∧ .started request ∉ l
  | .jobTaken request => Current request (·.state ≠ .stopped) l
  | .retained request _ => Current request (·.state ≠ .stopped) l
  | .jobCancelled request job =>
    Current request (fun record => record.state = .pending ∧
      record.cancelRequested = some true ∧ record.job = some job) l
  | .stopped request observation => StopRecorded (receiptFrom request observation false) l
  | .retainedStopped receipt => StopRecorded receipt l
  | .retired _ => True
  | .released receipt => Current receipt.request (·.state = .stopped) l

/-- Histories of the broker. -/
abbrev Lawful (crates : Crates) : List BrokerEvent → Prop :=
  History.Lawful (Permits crates)

theorem Current.mono {P Q : LedgerRecord → Prop} (h : Current request P l)
    (hPQ : ∀ record, P record → Q record) : Current request Q l := by
  obtain ⟨record, hget, hP⟩ := h
  exact ⟨record, hget, hPQ record hP⟩

variable {P : LedgerRecord → Prop}

/-- Only records change what is current. -/
theorem Current.concat (h : Current request P l)
    (he : e.record? = none) : Current request P (l ++ [e]) := by
  rw [Current, recorded_concat l he]
  exact h

theorem current_appended (hP : P record) :
    Current record.request P (l ++ [.appended record]) := by
  rw [Current, recorded_appended]
  exact ⟨record, Records.get_insert_self, hP⟩

theorem Current.append (h : Current request P l)
    (hP : ∀ previous, (recorded l).get request = some previous → record.request = request →
      P previous → P record) : Current request P (l ++ [.appended record]) := by
  obtain ⟨previous, hget, hprevious⟩ := h
  rw [Current, recorded_appended, Records.get_insert]
  by_cases hsame : record.request = request
  · rw [if_pos hsame]
    exact ⟨record, rfl, hP previous hget hsame hprevious⟩
  · rw [if_neg hsame]
    exact ⟨previous, hget, hprevious⟩

theorem StopRecorded.of_same {other : LaunchReceipt} (h : StopRecorded receipt l)
    (hsame : sameProcessBinding receipt other) : StopRecorded other l := by
  have hrequest : receipt.request = other.request := hsame.1
  rw [StopRecorded, ← hrequest]
  refine Current.mono h ?_
  rintro record ⟨hstate, prior, hprior, hsame'⟩
  exact ⟨hstate, prior, hprior, hsame'.trans hsame⟩

/-! ### Lawful histories -/

section Lawful

/-- A property of the records that every append keeps. -/
theorem Lawful.records_induction (P : Records → Prop) (h : Lawful crates l) (hnil : P [])
    (hstep : ∀ l record, Lawful crates l → Permits crates l (.appended record) → P (recorded l) →
      P ((recorded l).insert record)) : P (recorded l) := by
  induction h with
  | nil => exact hnil
  | @concat l e h he ih =>
    cases hrecord : e.record? with
    | none =>
      rw [recorded_concat l hrecord]
      exact ih
    | some record =>
      obtain rfl := eq_appended hrecord
      rw [recorded_appended]
      exact hstep l record h he ih

theorem Lawful.valid (h : Lawful crates l) : ValidRecords crates (recorded l) :=
  h.records_induction (ValidRecords crates) validRecords_nil fun _ _ _ hpermits hvalid =>
    hvalid.insert (hpermits.1.valid hvalid)

/-- There is one record for each request. -/
theorem Lawful.keys (h : Lawful crates l) :
    ((recorded l).map LedgerRecord.request).Nodup := by
  refine h.records_induction (fun records => (records.map LedgerRecord.request).Nodup)
    List.nodup_nil fun l record _ _ hkeys => ?_
  rw [Records.insert, upsert, List.map_cons, List.nodup_cons]
  constructor
  · intro hmem
    obtain ⟨record', hmem, heq⟩ := List.mem_map.mp hmem
    have hne := (List.mem_filter.mp hmem).2
    exact (of_decide_eq_true hne) heq
  · exact hkeys.sublist (List.filter_sublist.map _)

/-- The number of unresolved records is bounded. -/
theorem Lawful.unresolved_le (h : Lawful crates l) :
    (recorded l).countP LedgerRecord.unresolved ≤ maxActiveProcesses := by
  refine h.records_induction (fun records => records.countP LedgerRecord.unresolved ≤ _)
    (Nat.zero_le _) fun l record hl hpermits hcount => ?_
  obtain ⟨happends, hroom, -⟩ := hpermits
  have hsplit := List.countP_eq_countP_filter_add (recorded l) LedgerRecord.unresolved
    (fun record' : LedgerRecord => record'.request ≠ record.request)
  rw [Records.insert, upsert, List.countP_cons]
  cases hget : (recorded l).get record.request with
  | none =>
    have hbelow := hroom hget
    split <;> omega
  | some previous =>
    -- the record before it was unresolved too, and it is not counted any more
    have hunresolved : previous.unresolved = true :=
      decide_eq_true (happends.not_stopped hget)
    have hmem : previous ∈ (recorded l).filter
        (fun record' => !decide (record'.request ≠ record.request)) := by
      rw [List.mem_filter]
      exact ⟨(mem_of_lookup hget).1, by simp [Records.request_of_get hget]⟩
    have hpos := List.countP_pos_iff.mpr ⟨previous, hmem, hunresolved⟩
    split <;> omega

theorem Lawful.appended_mem (h : Lawful crates l)
    (hget : (recorded l).get request = some record) : .appended record ∈ l := by
  induction h with
  | nil => cases hget
  | @concat l e h he ih =>
    cases hrecord : e.record? with
    | none =>
      rw [recorded_concat l hrecord] at hget
      exact List.mem_append_left _ (ih hget)
    | some record' =>
      obtain rfl := eq_appended hrecord
      rw [recorded_appended, Records.get_insert] at hget
      split at hget
      · cases hget
        exact List.mem_append_right _ (List.mem_singleton.mpr rfl)
      · exact List.mem_append_left _ (ih hget)

/-- What is current stays so, if every append keeps it. -/
theorem Lawful.current_concat (hP : ∀ record record', P record →
      Appends crates (recorded l) record' → record'.request = request →
      (recorded l).get request = some record → P record')
    (he : Permits crates l e) (h : Current request P l) : Current request P (l ++ [e]) := by
  cases hrecord : e.record? with
  | none => exact h.concat hrecord
  | some record' =>
    obtain rfl := eq_appended hrecord
    exact h.append fun previous hget hsame hprevious => hP previous record' hprevious he.1 hsame hget

/-- What was started has a record. -/
theorem Lawful.current_of_started (h : Lawful crates l) (hmem : .started request ∈ l) :
    Current request (fun _ => True) l := by
  induction h with
  | nil => cases hmem
  | @concat l e h he ih =>
    rcases List.mem_append.mp hmem with hold | hnew
    · exact Lawful.current_concat (fun _ _ _ _ _ _ => trivial) he (ih hold)
    · rw [List.mem_singleton] at hnew
      subst hnew
      exact (he.1.mono fun _ _ => trivial).concat rfl

/-- The record of the end of a stop stays the last one of its request. -/
theorem Lawful.current_of_stopped (h : Lawful crates l) (hmem : .appended record ∈ l)
    (hstopped : record.state = .stopped) : Current record.request (·.state = .stopped) l := by
  induction h with
  | nil => cases hmem
  | @concat l e h he ih =>
    rcases List.mem_append.mp hmem with hold | hnew
    · refine Lawful.current_concat (fun previous record' hprevious happends hsame hget => ?_) he
        (ih hold)
      exact absurd hprevious (happends.not_stopped (hsame ▸ hget))
    · rw [List.mem_singleton] at hnew
      subst hnew
      exact current_appended hstopped

end Lawful

/-! ### The invariant -/

/-- The file of a ledger and the history: the history is lawful, its records are in the file, and
the file reads back to them, if it can be read. -/
structure FileSound (crates : Crates) (codec : RecordCodec) (file : List UInt8)
    (l : List BrokerEvent) : Prop where
  lawful : Lawful crates l
  durable : ∀ record, .appended record ∈ l → codec.encode record <:+: file
  read : ∀ u, readFile codec (replayer crates) Replay.start file = .ok u → u.records = recorded l

/-- A file that reads back to the history, or never will. -/
def Reads (crates : Crates) (codec : RecordCodec) (file : List UInt8) (l : List BrokerEvent) :
    Prop :=
  (∃ u, readFile codec (replayer crates) Replay.start file = .ok u ∧ u.records = recorded l) ∨
    Dead codec (replayer crates) Replay.start file

/-- The memory of a broker and the history: the memory has the records of an earlier moment, and
those of the present if the ledger is healthy. -/
structure MemorySound (crates : Crates) (codec : RecordCodec) (broker : LinuxSystemdBroker)
    (file : List UInt8) (l : List BrokerEvent) : Prop where
  held : ∃ l', l' <+: l ∧ broker.ledger.records = recorded l'
  healthy : broker.ledger.poisoned = false →
    broker.ledger.records = recorded l ∧ Reads crates codec file l

/-- The active units are those of records that may own a process. -/
def ActiveSound (broker : LinuxSystemdBroker) : Prop :=
  ∀ unit ∈ broker.activeUnits, ∃ request record,
    broker.ledger.records.get request = some record ∧ record.state ≠ .stopped ∧
      record.unit = unit

/-- The invariant of the programs of the broker. -/
structure Sound (crates : Crates) (codec : RecordCodec) (w : BrokerWorld) : Prop where
  file : FileSound crates codec w.file w.events
  memory : MemorySound crates codec w.broker w.file w.events
  active : ActiveSound w.broker

section Writes

variable {file : List UInt8} {w : BrokerWorld} {broker : LinuxSystemdBroker}

/-- The file after a whole entry. -/
theorem Reads.append (h : Reads crates codec file l) (record : LedgerRecord) :
    Reads crates codec (file ++ entry codec record) (l ++ [.appended record]) := by
  obtain ⟨u, hread, hrecords⟩ | hdead := h
  · obtain ⟨t, -, hadvance, hafter⟩ | hdead := readFile_append_entry hread record
    · refine .inl ⟨t, hafter, ?_⟩
      obtain ⟨-, -, -, -, -, -, -, -, rfl⟩ := advance_eq_ok.mp hadvance
      rw [recorded_appended, ← hrecords]
      rfl
    · exact .inr hdead
  · exact .inr (hdead.append _)

/-- The file after a part of an entry: what can be read of it are the records that are in it. -/
theorem Reads.torn (h : Reads crates codec file l) (record : LedgerRecord) (bytes : Nat)
    {u : Replay} (hread : readFile codec (replayer crates) Replay.start
      (file ++ (entry codec record).take bytes) = .ok u) :
    u.records = recorded (if (codec.encode record).length ≤ bytes then l ++ [.appended record]
      else l) := by
  obtain ⟨v, hv, hrecords⟩ | hdead := h
  · have htorn : (entry codec record).take bytes <+: entry codec record := List.take_prefix _ _
    obtain ⟨hnil, rfl⟩ | ⟨hwhole, -, hadvance⟩ := readFile_torn hv htorn hread
    · -- nothing was written, so the record is not there
      have hshort : ¬(codec.encode record).length ≤ bytes := by
        intro hle
        have hne := encode_ne_nil codec record
        rw [List.take_eq_nil_iff] at hnil
        rcases hnil with rfl | hnil
        · exact hne (List.length_eq_zero_iff.mp (Nat.le_zero.mp hle))
        · simp [Journal.entry] at hnil
      rw [if_neg hshort]
      exact hrecords
    · have hlong : (codec.encode record).length ≤ bytes :=
        hwhole.length_le.trans (List.length_take_le _ _)
      obtain ⟨-, -, -, -, -, -, -, -, rfl⟩ := advance_eq_ok.mp hadvance
      rw [if_pos hlong, recorded_appended, ← hrecords]
      rfl
  · exact absurd hread (hdead _ u)

/-- A write of a permitted record, of which some bytes arrive. -/
theorem FileSound.write (h : FileSound crates codec file l) (hreads : Reads crates codec file l)
    (hpermits : Permits crates l (.appended record)) (bytes : Nat) :
    FileSound crates codec (file ++ (entry codec record).take bytes)
      (if (codec.encode record).length ≤ bytes then l ++ [.appended record] else l) := by
  refine ⟨?_, ?_, fun u hu => hreads.torn record bytes hu⟩
  · split
    · exact .concat h.lawful hpermits
    · exact h.lawful
  · intro record' hmem
    have hold : .appended record' ∈ l → codec.encode record' <:+: file ++
        (entry codec record).take bytes := fun hmem =>
      (h.durable record' hmem).trans (List.infix_append' [] file _)
    split at hmem
    next hwhole =>
      rcases List.mem_append.mp hmem with hmem | hnew
      · exact hold hmem
      · cases List.mem_singleton.mp hnew
        have hpart : codec.encode record <+: (entry codec record).take bytes := by
          rw [List.prefix_take_iff]
          exact ⟨List.prefix_append _ _, hwhole⟩
        exact hpart.isInfix.trans (List.suffix_append _ _).isInfix
    next => exact hold hmem

end Writes

/-! ### Operations of the ledger -/

section Operations

variable {op : LedgerOp} {w w' : BrokerWorld}

/-- The world after a record was appended. -/
def BrokerWorld.appendRecord (w : BrokerWorld) (codec : RecordCodec) (record : LedgerRecord) :
    BrokerWorld :=
  { w with
    broker := { w.broker with
      ledger := { w.broker.ledger with records := w.broker.ledger.records.insert record } }
    file := w.file ++ entry codec record
    events := w.events ++ [.appended record] }

/-- Nothing has changed but the answers to come. -/
def Quiet (w w' : BrokerWorld) : Prop :=
  ∃ answers, w' = { w with answers := answers }

instance : Std.Refl Quiet where
  refl w := ⟨w.answers, rfl⟩

instance : IsTrans BrokerWorld Quiet where
  trans := by
    rintro w _ _ ⟨answers, rfl⟩ ⟨answers', rfl⟩
    exact ⟨answers', rfl⟩

theorem ask_quiet {α : Type} (pick : BrokerAnswer → Option α) : Program.Keeps Quiet (ask pick) := by
  intro w
  unfold ask
  split
  · exact ⟨w.answers, rfl⟩
  next answer rest _ =>
    cases pick answer with
    | none => exact ⟨rest, rfl⟩
    | some a => exact ⟨rest, rfl⟩

theorem askChecked_quiet : Program.Keeps Quiet askChecked :=
  .bind (ask_quiet _) fun _ => .ofExcept

/-- How an append ends. -/
inductive AppendEnd (codec : RecordCodec) (record : LedgerRecord) (w : BrokerWorld) :
    Option (Except BrokerError Unit) → BrokerWorld → Prop where
  | written {w₁ : BrokerWorld} : Quiet w w₁ →
      AppendEnd codec record w (some (.ok ()))
        (w₁.write codec record (entry codec record).length)
  | unwritten {result : Option (Except BrokerError Unit)} {w₁ : BrokerWorld} : Quiet w w₁ →
      (∀ u, result ≠ some (.ok u)) → AppendEnd codec record w result w₁
  | torn {result : Option (Except BrokerError Unit)} {w₁ : BrokerWorld} (bytes : Nat) :
      Quiet w w₁ → (∀ u, result ≠ some (.ok u)) →
      AppendEnd codec record w result ((w₁.write codec record bytes).poison)

/-- How an operation ends. -/
inductive OpEnd (crates : Crates) (codec : RecordCodec) (op : LedgerOp) (w : BrokerWorld) :
    Option (Except BrokerError Bool) → BrokerWorld → Prop where
  | kept : op.decide crates w.broker.ledger = .ok none →
      OpEnd crates codec op w (some (.ok false)) w
  | appended {record : LedgerRecord} {w₁ : BrokerWorld} : Quiet w w₁ →
      op.decide crates w.broker.ledger = .ok (some record) →
      OpEnd crates codec op w (some (.ok true)) (w₁.appendRecord codec record)
  | unwritten {result : Option (Except BrokerError Bool)} {w₁ : BrokerWorld} : Quiet w w₁ →
      (∀ appended, result ≠ some (.ok appended)) → OpEnd crates codec op w result w₁
  | torn {record : LedgerRecord} {result : Option (Except BrokerError Bool)} {w₁ : BrokerWorld}
      (bytes : Nat) : Quiet w w₁ → op.decide crates w.broker.ledger = .ok (some record) →
      (∀ appended, result ≠ some (.ok appended)) →
      OpEnd crates codec op w result ((w₁.write codec record bytes).poison)

theorem writeEntry_end {w₁ : BrokerWorld} (hquiet : Quiet w w₁) (outcome : WriteOutcome) :
    AppendEnd codec record w (writeEntry codec record outcome w₁).1
      (writeEntry codec record outcome w₁).2 := by
  cases outcome with
  | done => exact .written hquiet
  | failed bytes error => exact .torn bytes hquiet (by simp [writeEntry, Bind.bind,
      Program.modify, Program.fail])
  | crashed bytes => exact .torn bytes hquiet (by simp [writeEntry, Bind.bind,
      Program.modify, Program.interrupt])

theorem append_end (codec : RecordCodec) (record : LedgerRecord) (w : BrokerWorld) :
    AppendEnd codec record w (append codec record w).1 (append codec record w).2 := by
  -- a part that is quiet and does not answer ends the append before anything is written
  have hquiet : ∀ {α : Type} {m : BrokerM α} {w₁ : BrokerWorld}
      {f : α → BrokerM Unit}, Program.Keeps Quiet m → Quiet w w₁ →
      (∀ a w₂, Quiet w w₂ → m w₁ = (some (.ok a), w₂) →
        AppendEnd codec record w (f a w₂).1 (f a w₂).2) →
      AppendEnd codec record w ((m >>= f) w₁).1 ((m >>= f) w₁).2 := by
    intro α m w₁ f hm hw₁ hf
    have hafter : Quiet w (m w₁).2 := IsTrans.trans _ _ _ hw₁ (hm w₁)
    refine Program.bind_ends (fun a w₂ heq => ?_) fun _ _ => .unwritten hafter
    rw [heq] at hafter
    exact hf a w₂ hafter heq
  refine hquiet .ofExcept (Std.Refl.refl w) fun _ w₁ hw₁ _ => ?_
  refine hquiet askChecked_quiet hw₁ fun _ w₂ hw₂ _ => ?_
  refine hquiet .gets hw₂ fun _ w₃ hw₃ _ => ?_
  refine hquiet .ofExcept hw₃ fun _ w₄ hw₄ _ => ?_
  refine hquiet (ask_quiet _) hw₄ fun outcome w₅ hw₅ _ => ?_
  exact writeEntry_end hw₅ outcome

theorem write_insert (w : BrokerWorld) (record : LedgerRecord) :
    let w₁ := w.write codec record (entry codec record).length
    { w₁ with broker := { w₁.broker with
      ledger := { w₁.broker.ledger with records := w₁.broker.ledger.records.insert record } } } =
      w.appendRecord codec record := by
  have hlength : (codec.encode record).length ≤ (entry codec record).length := by
    simp [Journal.entry]
  simp [BrokerWorld.write, BrokerWorld.appendRecord, hlength]

/-- **Operations end in one of these ways.** -/
theorem performOp_end (crates : Crates) (codec : RecordCodec) (op : LedgerOp) (w : BrokerWorld) :
    OpEnd crates codec op w (performOp crates codec op w).1 (performOp crates codec op w).2 := by
  rw [performOp, Program.gets_bind_apply]
  have hkept : Quiet w (Program.ofExcept (op.decide crates w.broker.ledger) w :
      Option (Except BrokerError (Option LedgerRecord)) × BrokerWorld).2 :=
    Program.Keeps.ofExcept w
  refine Program.bind_ends (fun appended w₂ hdecided => ?_) fun _ _ => .unwritten hkept
  obtain ⟨hdecide, rfl⟩ := Program.ofExcept_eq_ok.mp hdecided
  cases appended with
  | none => exact .kept hdecide
  | some record =>
    have hend := append_end codec record w
    refine Program.bind_ends ?_ ?_
    · intro u w₃ heq
      rw [heq] at hend
      cases hend with
      | @written w₄ hquiet =>
        have happended : OpEnd crates codec op w _ (w₄.appendRecord codec record) :=
          .appended hquiet hdecide
        rw [← write_insert] at happended
        exact happended
      | unwritten _ hresult => exact absurd rfl (hresult u)
      | torn _ _ hresult => exact absurd rfl (hresult u)
    · intro r hnot hr
      generalize append codec record w = result at hend hnot ⊢
      obtain ⟨result, w'⟩ := result
      cases hend with
      | written _ => exact absurd rfl (hnot ())
      | unwritten hquiet _ => exact .unwritten hquiet hr
      | torn bytes hquiet _ => exact .torn bytes hquiet hdecide hr

end Operations

/-! ### Steps -/

section Steps

variable {op : LedgerOp} {w w' : BrokerWorld} {α : Type} {m : BrokerM α}

theorem Sound.quiet (h : Sound crates codec w) (hquiet : Quiet w w') : Sound crates codec w' := by
  obtain ⟨answers, rfl⟩ := hquiet
  exact ⟨h.file, h.memory, h.active⟩

/-- The records of a healthy ledger are valid. -/
theorem Sound.valid (h : Sound crates codec w) (hhealthy : w.broker.ledger.poisoned = false) :
    ValidRecords crates w.broker.ledger.records := by
  rw [(h.memory.healthy hhealthy).1]
  exact h.file.lawful.valid

/-- Assertions of the programs: the ledger is healthy, and something holds of the history. -/
def On (F : List BrokerEvent → Prop) (w : BrokerWorld) : Prop :=
  w.broker.ledger.poisoned = false ∧ F w.events

theorem On.mono {F G : List BrokerEvent → Prop} (h : On F w) (hFG : ∀ l, F l → G l) : On G w :=
  ⟨h.1, hFG _ h.2⟩

/-- The triples of the broker. -/
abbrev Runs (crates : Crates) (codec : RecordCodec) (P : BrokerWorld → Prop) (m : BrokerM α)
    (Q : α → BrokerWorld → Prop) : Prop :=
  Program.Triple (Sound crates codec) P m Q

theorem runs_quiet {P : BrokerWorld → Prop} (hm : Program.Keeps Quiet m)
    (hP : ∀ w w', Quiet w w' → P w → P w') : Runs crates codec P m fun _ => P :=
  hm.triple (fun _ _ hquiet h => h.quiet hquiet) hP

theorem runs_quiet_on {F : List BrokerEvent → Prop} (hm : Program.Keeps Quiet m) :
    Runs crates codec (On F) m fun _ => On F := by
  refine runs_quiet hm ?_
  rintro w _ ⟨answers, rfl⟩ h
  exact h

/-- A part that is quiet, and the rest. -/
theorem runs_quietly {β : Type} {F : List BrokerEvent → Prop} {f : α → BrokerM β}
    {R : β → BrokerWorld → Prop} (hm : Program.Keeps Quiet m)
    (hf : ∀ a, Runs crates codec (On F) (f a) R) : Runs crates codec (On F) (m >>= f) R :=
  .bind (runs_quiet_on hm) hf

theorem runs_quiet_any (hm : Program.Keeps Quiet m) :
    Runs crates codec (fun _ => True) m fun _ _ => True :=
  runs_quiet hm fun _ _ _ h => h

/-- What is done is permitted. -/
theorem runs_emit {F G : List BrokerEvent → Prop} {e : BrokerEvent} (he : e.record? = none)
    (hpermits : ∀ l, Lawful crates l → F l → Permits crates l e)
    (hG : ∀ l, F l → G (l ++ [e])) : Runs crates codec (On F) (emit e) fun _ => On G := by
  refine .modify ?_ ?_
  · intro w h hF
    have hrecorded := recorded_concat w.events he
    refine ⟨?_, ?_, h.active⟩
    · refine ⟨.concat h.file.lawful (hpermits _ h.file.lawful hF.2), ?_, ?_⟩
      · intro record hmem
        rcases List.mem_append.mp hmem with hmem | hnew
        · exact h.file.durable record hmem
        · rw [← List.mem_singleton.mp hnew] at he
          cases he
      · rw [hrecorded]
        exact h.file.read
    · obtain ⟨l, hl, hrecords⟩ := h.memory.held
      refine ⟨⟨l, hl.trans (List.prefix_append _ _), hrecords⟩, fun hhealthy => ?_⟩
      rw [Reads, hrecorded]
      exact h.memory.healthy hhealthy
  · intro w _ hF
    exact ⟨hF.1, hG _ hF.2⟩

/-- The record of an operation is permitted. -/
theorem permits_of_decide (h : Sound crates codec w) (hadmitted : Admitted crates w.broker.ledger op)
    (hretired : record.state = .stopped →
      ∃ receipt, record.receipt = some receipt ∧ RetirementVerified receipt w.events)
    (hdecide : op.decide crates w.broker.ledger = .ok (some record)) :
    Permits crates w.events (.appended record) := by
  have hhealthy := healthy_of_decide hdecide
  have happends := appends_of_decide (h.valid hhealthy) hadmitted hdecide
  have hroom := room_of_decide hdecide
  rw [(h.memory.healthy hhealthy).1] at happends hroom
  exact ⟨happends, hroom, hretired⟩

theorem sound_torn (h : Sound crates codec w) (hhealthy : w.broker.ledger.poisoned = false)
    (hpermits : Permits crates w.events (.appended record)) (bytes : Nat) :
    Sound crates codec ((w.write codec record bytes).poison) := by
  obtain ⟨hrecords, hreads⟩ := h.memory.healthy hhealthy
  refine ⟨h.file.write hreads hpermits bytes, ⟨⟨w.events, ?_, hrecords⟩, nofun⟩, h.active⟩
  show w.events <+: if _ then _ else _
  split
  · exact List.prefix_append _ _
  · exact List.prefix_rfl

/-- A whole record, without the units that are active. -/
theorem sound_appendRecord (h : Sound crates codec w)
    (hhealthy : w.broker.ledger.poisoned = false)
    (hpermits : Permits crates w.events (.appended record)) :
    FileSound crates codec (w.appendRecord codec record).file
        (w.appendRecord codec record).events ∧
      MemorySound crates codec (w.appendRecord codec record).broker
        (w.appendRecord codec record).file (w.appendRecord codec record).events := by
  obtain ⟨hrecords, hreads⟩ := h.memory.healthy hhealthy
  have hafter : (w.appendRecord codec record).broker.ledger.records =
      recorded (w.appendRecord codec record).events := by
    rw [BrokerWorld.appendRecord, recorded_appended, ← hrecords]
  constructor
  · have hwrite := h.file.write hreads hpermits (entry codec record).length
    have hlength : (codec.encode record).length ≤ (entry codec record).length := by
      simp [Journal.entry]
    rw [List.take_length, if_pos hlength] at hwrite
    exact hwrite
  · exact ⟨⟨_, List.prefix_rfl, hafter⟩, fun _ => ⟨hafter, hreads.append record⟩⟩

/-- The units that stay active when the record of one request changes. -/
theorem active_insert {broker : LinuxSystemdBroker} {active : List String}
    (h : ActiveSound broker) (hvalid : ValidRecords crates broker.ledger.records)
    (hrecord : ValidRecord crates record) (hactive : ∀ unit ∈ active, unit ∈ broker.activeUnits ∧
      (record.state = .stopped → unit ≠ unitName crates record.request)) :
    ActiveSound { broker with
      ledger := { broker.ledger with records := broker.ledger.records.insert record }
      activeUnits := active } := by
  intro unit hunit
  obtain ⟨hmem, hother⟩ := hactive unit hunit
  obtain ⟨request, previous, hget, hstate, hname⟩ := h unit hmem
  refine ⟨request, ?_⟩
  show ∃ record', (broker.ledger.records.insert record).get request = some record' ∧ _
  rw [Records.get_insert]
  by_cases hsame : record.request = request
  · -- the new record of the request has the same unit
    have hunitName : unit = unitName crates record.request := by
      rw [← hname, (hvalid request previous hget).unit, Records.request_of_get hget, hsame]
    rw [if_pos hsame]
    exact ⟨record, rfl, fun hstopped => hother hstopped hunitName, hrecord.unit.trans hunitName.symm⟩
  · rw [if_neg hsame]
    exact ⟨previous, hget, hstate, hname⟩

/-- What an operation leaves of the request, where the history goes on with its record. -/
theorem current_of_decide (hdecide : op.decide crates w.broker.ledger = .ok (some record)) :
    Current op.subject op.Ensures (w.events ++ [.appended record]) := by
  obtain ⟨hrequest, hensures⟩ := (ensures_of_decide hdecide).2 record rfl
  rw [← hrequest]
  exact current_appended hensures

/-- An operation that is not the end of a stop. -/
theorem runs_performOp (op : LedgerOp) (F : List BrokerEvent → Prop)
    (hop : ∀ request receipt, op ≠ .markStopped request receipt)
    (hadmitted : ∀ ledger l, ledger.records = recorded l → F l → Admitted crates ledger op) :
    Runs crates codec (On F) (performOp crates codec op) fun appended => On fun l' =>
      Current op.subject op.Ensures l' ∧ ∃ l, Lawful crates l ∧ F l ∧
        ((appended = false ∧ l' = l) ∨ (appended = true ∧ ∃ record,
          op.decide crates ⟨recorded l, false⟩ = .ok (some record) ∧ record.state ≠ .stopped ∧
          Permits crates l (.appended record) ∧ l' = l ++ [.appended record])) := by
  intro w h hF
  have hend := performOp_end crates codec op w
  generalize performOp crates codec op w = r at hend
  obtain ⟨result, w'⟩ := r
  obtain ⟨hhealthy, hF⟩ := hF
  obtain ⟨hrecords, -⟩ := h.memory.healthy hhealthy
  have hledger : w.broker.ledger = ⟨recorded w.events, false⟩ := by
    rw [← hrecords, ← hhealthy]
  -- what is decided to be appended is permitted
  have hpermits : ∀ record, op.decide crates w.broker.ledger = .ok (some record) →
      record.state ≠ .stopped ∧ Permits crates w.events (.appended record) := by
    intro record hdecide
    have hstate := unresolved_of_decide hop hdecide
    exact ⟨hstate, permits_of_decide h (hadmitted _ _ hrecords hF) (fun hs => absurd hs hstate)
      hdecide⟩
  cases hend with
  | kept hdecide =>
    refine ⟨h, ?_⟩
    rintro appended ⟨⟩
    obtain ⟨record, hget, hensures⟩ := (ensures_of_decide hdecide).1 rfl
    rw [hrecords] at hget
    exact ⟨hhealthy, ⟨record, hget, hensures⟩, w'.events, h.file.lawful, hF, .inl ⟨rfl, rfl⟩⟩
  | @appended record w₁ hquiet hdecide =>
    obtain ⟨hstate, hpermitted⟩ := hpermits record hdecide
    have hcurrent := current_of_decide hdecide
    have hrecord : ValidRecord crates record := hpermitted.1.valid h.file.lawful.valid
    obtain ⟨hfile, hmemory⟩ := sound_appendRecord h hhealthy hpermitted
    have hactive := active_insert h.active (h.valid hhealthy) hrecord
      (fun unit hunit => ⟨hunit, fun hs => absurd hs hstate⟩)
    obtain ⟨answers, rfl⟩ := hquiet
    refine ⟨⟨hfile, hmemory, hactive⟩, ?_⟩
    rintro appended ⟨⟩
    rw [hledger] at hdecide
    exact ⟨hhealthy, hcurrent, w.events, h.file.lawful, hF,
      .inr ⟨rfl, record, hdecide, hstate, hpermitted, rfl⟩⟩
  | unwritten hquiet hresult =>
    exact ⟨h.quiet hquiet, fun appended heq => absurd heq (hresult appended)⟩
  | @torn record _ w₁ bytes hquiet hdecide hresult =>
    have hpermitted := (hpermits record hdecide).2
    obtain ⟨answers, rfl⟩ := hquiet
    exact ⟨sound_torn (h.quiet ⟨answers, rfl⟩) hhealthy hpermitted bytes,
      fun appended heq => absurd heq (hresult appended)⟩

/-- The end of a stop, with the unit that is not active any more. -/
theorem runs_settleStop (request : BrokerRequest) (receipt : LaunchReceipt)
    (F : List BrokerEvent → Prop) (hF : ∀ l, F l → RetirementVerified receipt l) :
    Runs crates codec (On F)
      (settleStop crates codec request receipt (unitName crates request))
      fun _ => On (Current request (·.state = .stopped)) := by
  intro w h hon
  have hend := performOp_end crates codec (.markStopped request receipt) w
  obtain ⟨hhealthy, hevents⟩ := hon
  obtain ⟨hrecords, -⟩ := h.memory.healthy hhealthy
  have hpermits : ∀ record,
      LedgerOp.decide crates w.broker.ledger (.markStopped request receipt) = .ok (some record) →
      Permits crates w.events (.appended record) := by
    intro record hdecide
    obtain ⟨-, -, hreceipt⟩ := (ensures_of_decide hdecide).2 record rfl
    have hadmitted : Admitted crates w.broker.ledger (.markStopped request receipt) := trivial
    exact permits_of_decide h hadmitted (fun _ => ⟨receipt, hreceipt, hF _ hevents⟩) hdecide
  refine Program.bind_ends (E := fun r w' => Sound crates codec w' ∧
    ∀ a, r = some (.ok a) → On (Current request (·.state = .stopped)) w') ?_ ?_
  · intro appended w' heq
    rw [heq] at hend
    cases hend with
    | kept hdecide =>
      obtain ⟨record, hget, hstopped, -⟩ := (ensures_of_decide hdecide).1 rfl
      rw [hrecords] at hget
      have hactive : ActiveSound (removeActive (unitName crates request) w').2.broker :=
        fun unit hunit => h.active unit (List.mem_filter.mp hunit).1
      exact ⟨⟨h.file, ⟨h.memory.held, h.memory.healthy⟩, hactive⟩,
        fun _ _ => ⟨hhealthy, record, hget, hstopped⟩⟩
    | @appended record w₁ hquiet hdecide =>
      have hpermitted := hpermits record hdecide
      have hrequest := ((ensures_of_decide hdecide).2 record rfl).1
      have hcurrent := (current_of_decide hdecide).mono fun _ hensures => hensures.1
      have hrecord : ValidRecord crates record := hpermitted.1.valid h.file.lawful.valid
      obtain ⟨hfile, hmemory⟩ := sound_appendRecord h hhealthy hpermitted
      -- the unit of the request is the one that is removed
      have hactive := active_insert h.active (h.valid hhealthy) hrecord (fun unit hunit =>
        ⟨(List.mem_filter.mp hunit).1, fun _ => hrequest ▸
          of_decide_eq_true (List.mem_filter.mp hunit).2⟩)
      obtain ⟨answers, rfl⟩ := hquiet
      exact ⟨⟨hfile, ⟨hmemory.held, hmemory.healthy⟩, hactive⟩, fun _ _ => ⟨hhealthy, hcurrent⟩⟩
    | unwritten hquiet hresult => exact absurd rfl (hresult appended)
    | torn bytes hquiet hdecide hresult => exact absurd rfl (hresult appended)
  · intro r hnot hr
    refine ⟨?_, fun a heq => absurd heq (hr a)⟩
    generalize performOp crates codec (.markStopped request receipt) w = result at hend hnot ⊢
    obtain ⟨result, w'⟩ := result
    cases hend with
    | kept _ => exact absurd rfl (hnot false)
    | appended _ _ => exact absurd rfl (hnot true)
    | unwritten hquiet hresult => exact h.quiet hquiet
    | torn bytes hquiet hdecide hresult =>
      obtain ⟨answers, rfl⟩ := hquiet
      exact sound_torn (h.quiet ⟨answers, rfl⟩) hhealthy (hpermits _ hdecide) bytes

end Steps

/-! ### The programs -/

section Programs

variable {F G : List BrokerEvent → Prop} {observation : UnitObservation}

theorem inspectUnit_quiet : Program.Keeps Quiet inspectUnit :=
  .bind (ask_quiet _) fun _ => .ofExcept

theorem componentPolicy_quiet : Program.Keeps Quiet (componentPolicy request) :=
  .bind .gets fun _ => .ofExcept

theorem checkActiveRoom_quiet (unit : String) : Program.Keeps Quiet (checkActiveRoom unit) :=
  .bind .gets fun _ => .ofExcept

/-- A check of the ledger, after which it is healthy. -/
theorem runs_ensureHealthy :
    Runs crates codec (fun _ => True) ensureHealthy fun _ => On fun _ => True := by
  refine .bind (Q := fun ledger w => w.broker.ledger = ledger) (.gets fun _ _ _ => rfl)
    fun ledger => .ofExcept ?_
  rintro u w hhealthy - rfl
  exact ⟨ensure_eq_ok.mp hhealthy, trivial⟩

/-- A call of the manager that changes something. -/
theorem runs_effect (he : e.record? = none)
    (hpermits : ∀ l, Lawful crates l → F l → Permits crates l e) (hG : ∀ l, F l → G (l ++ [e])) :
    Runs crates codec (On F) (do emit e; askChecked) fun _ => On G :=
  .bind (runs_emit he hpermits hG) fun _ => runs_quiet_on askChecked_quiet

/-- The retirement of a unit is on record if it was verified. -/
theorem runs_verifyRetirement (receipt : LaunchReceipt) :
    Runs crates codec (On F) (verifyRetirement receipt) fun retired => On fun l =>
      (retired = true → RetirementVerified receipt l) ∧ (retired = false → F l) := by
  refine runs_quietly (ask_quiet _) fun result => ?_
  refine runs_quietly .ofExcept fun retired => ?_
  cases retired with
  | false => exact .pure fun w _ h => h.mono fun l hl => ⟨nofun, fun _ => hl⟩
  | true =>
    refine .bind (runs_emit (G := RetirementVerified receipt) rfl (fun _ _ _ => trivial) ?_)
      fun _ => .pure fun w _ h => h.mono fun l hl => ⟨fun _ => hl, nofun⟩
    intro l _
    exact ⟨receipt, List.mem_append_right _ (List.mem_singleton.mpr rfl),
      sameProcessBinding_refl receipt⟩

/-- A release after the end of a stop. -/
theorem runs_releaseRetired (hrequest : receipt.request = request) :
    Runs crates codec (On (Current request (·.state = .stopped))) (releaseRetired receipt)
      fun _ _ => True := by
  subst hrequest
  exact (runs_effect rfl (fun _ _ h => h) (fun _ _ => trivial)).mono (fun _ h => h)
    (fun _ _ (_ : On (fun _ => True) _) => trivial)

/-- The record of an operation after which a stop is on record. -/
theorem runs_stopRecorded (receipt : LaunchReceipt) (op : LedgerOp)
    (hop : ∀ request receipt, op ≠ .markStopped request receipt)
    (hadmitted : ∀ ledger, Admitted crates ledger op) (hsubject : op.subject = receipt.request)
    (hensures : ∀ record, op.Ensures record → record.state = .stopPending ∧
      ∃ prior, record.receipt = some prior ∧ sameProcessBinding prior receipt) :
    Runs crates codec (On F) (performOp crates codec op) fun _ => On (StopRecorded receipt) := by
  refine (runs_performOp op F hop fun ledger _ _ _ => hadmitted ledger).mono (fun _ h => h) ?_
  intro _ w h
  refine h.mono fun l hl => ?_
  rw [StopRecorded, ← hsubject]
  exact hl.1.mono hensures

theorem runs_cleanupFailedLaunch (hunit : observation.unit = unitName crates request) :
    Runs crates codec (fun _ => True) (cleanupFailedLaunch crates codec request observation)
      fun _ _ => True := by
  refine .bind runs_ensureHealthy fun _ => ?_
  refine runs_quietly componentPolicy_quiet fun policy => ?_
  refine runs_quietly askChecked_quiet fun _ => ?_
  refine .bind (runs_stopRecorded (receiptFrom request observation false) _ nofun
    (fun _ => trivial) rfl fun _ h => h) fun _ => ?_
  refine .bind (runs_effect (G := fun _ => True) rfl (fun _ _ h => h) fun _ _ => trivial)
    fun _ => ?_
  refine .bind (runs_verifyRetirement _) fun retired => ?_
  cases retired with
  | false => exact .fail
  | true =>
    rw [hunit]
    refine .bind (runs_settleStop request _ _ fun l hl => hl.1 rfl) fun _ => ?_
    exact runs_releaseRetired rfl

/-- The unit of a request whose record may own a process may be active. -/
theorem runs_insertActive (hF : ∀ l, F l → Current request (·.state ≠ .stopped) l) :
    Runs crates codec (On F) (insertActive (unitName crates request)) fun _ => On F := by
  refine .modify ?_ fun _ _ h => h
  rintro w h ⟨hhealthy, hevents⟩
  obtain ⟨record, hget, hstate⟩ := hF _ hevents
  have hrecord := h.file.lawful.valid request record hget
  have hunit : record.unit = unitName crates request := by
    rw [hrecord.unit, Records.request_of_get hget]
  rw [← (h.memory.healthy hhealthy).1] at hget
  refine ⟨h.file, ⟨h.memory.held, h.memory.healthy⟩, fun unit hmem => ?_⟩
  rcases List.mem_insert_iff.mp hmem with rfl | hmem
  · exact ⟨request, record, hget, hstate, hunit⟩
  · exact h.active unit hmem

/-- The identity of a reservation does not change. -/
theorem Appends.identity {previous : LedgerRecord} (h : Appends crates records record)
    (hget : records.get record.request = some previous) :
    record.identity = previous.identity := by
  cases h with
  | reserved _ _ _ hnone _ => cases hnone.symm.trans hget
  | bound hget' | cancelled hget' | committed hget' | stopBegun hget' | cleanupBegun hget'
  | stopped hget' =>
    cases hget'.symm.trans hget
    rfl

/-- A receipt of a verified observation is committed to the reservation of the policy. -/
theorem runs_commit {duplicate : Bool}
    (hverify : observation.verify (unitName crates request) policy = .ok ()) :
    Runs crates codec (On (Current request (·.identity.matchesPolicy policy)))
      (performOp crates codec (.commit request (receiptFrom request observation duplicate)))
      fun _ => On (Current request (·.state ≠ .stopped)) := by
  refine (runs_performOp (.commit request (receiptFrom request observation duplicate)) _ nofun
    ?_).mono (fun _ h => h) ?_
  · rintro ledger l hrecords ⟨record, hget, hidentity⟩ record' hget'
    rw [hrecords] at hget'
    cases hget.symm.trans hget'
    exact ⟨policy, hidentity, verifyReceiptIdentity_receiptFrom hverify⟩
  · intro _ w h
    refine h.mono fun l hl => hl.1.mono fun record hstate => ?_
    rw [show record.state = .committed from hstate]
    exact nofun

theorem runs_resumeLaunch :
    Runs crates codec (On (Current request (·.identity.matchesPolicy policy)))
      (resumeLaunch crates codec request policy) fun _ _ => True := by
  refine runs_quietly .gets fun ledger => ?_
  refine runs_quietly .ofExcept fun cancelled => ?_
  refine runs_quietly .ofExcept fun _ => ?_
  refine runs_quietly inspectUnit_quiet fun found => ?_
  cases found with
  | none => exact .fail
  | some observation =>
    refine .ofExcept_bind fun _ hverify => ?_
    refine runs_quietly askChecked_quiet fun _ => ?_
    refine .bind (runs_commit hverify) fun _ => ?_
    exact .bind (runs_insertActive fun _ h => h) fun _ => .pure fun _ _ _ => trivial

/-- The record of a launch that has not ended. -/
def Launching (request : BrokerRequest) (policy : LaunchPolicy) : List BrokerEvent → Prop :=
  Current request fun record => record.identity.matchesPolicy policy ∧ record.state ≠ .stopped

theorem Launching.identity (h : Launching request policy l) :
    Current request (·.identity.matchesPolicy policy) l :=
  h.mono fun _ hrecord => hrecord.1

theorem Launching.state (h : Launching request policy l) :
    Current request (·.state ≠ .stopped) l :=
  h.mono fun _ hrecord => hrecord.2

/-- An effect that does not end the launch. -/
theorem runs_emit_launching (he : e.record? = none)
    (hpermits : ∀ l, Launching request policy l → Permits crates l e) :
    Runs crates codec (On (Launching request policy)) (emit e)
      fun _ => On (Launching request policy) :=
  runs_emit he (fun l _ h => hpermits l h) fun _ h => h.concat he

theorem runs_bindJob (job : JobBinding) :
    Runs crates codec (On (Launching request policy))
      (performOp crates codec (.bindJob request policy job))
      fun _ => On (Launching request policy) := by
  refine (runs_performOp (.bindJob request policy job) _ nofun fun _ _ _ _ => trivial).mono
    (fun _ h => h) ?_
  intro _ w h
  refine h.mono fun _ hl => ?_
  obtain ⟨-, l, -, hcurrent, ⟨-, rfl⟩ | ⟨-, record, -, hstate, hpermits, rfl⟩⟩ := hl
  · exact hcurrent
  · refine hcurrent.append fun previous hget hsame hprevious => ⟨?_, hstate⟩
    rw [LaunchIdentity.matchesPolicy, hpermits.1.identity (hsame ▸ hget)]
    exact hprevious.1

/-- The job of a launch that was just started is bound to its reservation. -/
theorem runs_bindQueuedJob :
    Runs crates codec (On (Launching request policy)) (bindQueuedJob crates codec request policy)
      fun _ => On (Launching request policy) := by
  have htake : Runs crates codec (On (Launching request policy)) (takeQueuedJobBinding request)
      fun _ => On (Launching request policy) := by
    refine .bind (runs_emit_launching rfl fun _ h => h.state) fun _ => ?_
    exact runs_quietly (ask_quiet _) fun _ => runs_quiet_on .ofExcept
  refine runs_quietly (ask_quiet _) fun found => ?_
  cases found with
  | none => exact .pure fun _ _ h => h
  | some job =>
    refine .bind (runs_bindJob job) fun _ => ?_
    exact .bind htake fun _ => runs_quiet_on .ofExcept

/-- The launch of a request that was just reserved. -/
theorem runs_startReserved :
    Runs crates codec (On fun l => Launching request policy l ∧ .started request ∉ l)
      (startReserved crates codec request policy) fun _ _ => True := by
  have hstart : Runs crates codec (On fun l => Launching request policy l ∧ .started request ∉ l)
      (startUnit request) fun _ => On (Launching request policy) := by
    refine .bind (runs_emit rfl ?_ fun l h => h.1.concat rfl) fun _ => runs_quiet_on (ask_quiet _)
    exact fun l _ h => ⟨h.1.state, h.2⟩
  have hretain : ∀ observation, Runs crates codec (On (Launching request policy))
      (retainContainment request observation) fun _ => On (Launching request policy) :=
    fun _ => .bind (runs_emit_launching rfl fun _ h => h.state) fun _ =>
      runs_quiet_on askChecked_quiet
  refine .bind hstart fun started => ?_
  refine .bind runs_bindQueuedJob fun _ => ?_
  refine .ofExcept_bind fun observation _ => .ofExcept_bind fun _ hverify => ?_
  have hunit : observation.unit = unitName crates request := (ensure_eq_ok.mp hverify).1
  -- a cleanup needs nothing but the invariant
  have hcleanup : ∀ error, Runs crates codec (fun _ => True) (do
      let cleanup ← (cleanupFailedLaunch crates codec request observation).attempt
      .fail (cleanupError error cleanup) : BrokerM LaunchReceipt) fun _ _ => True :=
    fun error => .bind (runs_cleanupFailedLaunch hunit).attempt fun _ => .fail
  refine .bind (hretain observation).attempt fun retained => ?_
  cases retained with
  | error error => exact (hcleanup error).mono (fun _ _ => trivial) fun _ _ h => h
  | ok u =>
    refine Program.Triple.mono ?_
      (fun w h => (h u rfl).mono fun l hl => Launching.identity hl) fun _ _ h => h
    refine .bind (runs_commit hverify).attempt fun committed => ?_
    cases committed with
    | error error =>
      refine .gets_bind fun ledger => ?_
      cases ledger.poisoned with
      | true => exact .fail
      | false => exact (hcleanup error).mono (fun _ _ => trivial) fun _ _ h => h
    | ok appended =>
      refine Program.Triple.mono ?_ (fun w h => h appended rfl) fun _ _ h => h
      exact .bind (runs_insertActive fun _ h => h) fun _ => .pure fun _ _ _ => trivial

theorem admitLaunch_validate (bootstrap : Option BrokerBootstrapLaunch) :
    Runs crates codec (fun _ => True) (admitLaunch crates request bootstrap)
      fun _ => On fun _ => request.validate = .ok () := by
  have hbootstrap : ∀ bootstrap : BrokerBootstrapLaunch,
      Program.Keeps Quiet (bootstrap.validateForRequest request) := fun _ =>
    .bind .ofExcept fun _ => .bind .ofExcept fun _ => askChecked_quiet
  have hpeer : ∀ bootstrap, Program.Keeps Quiet (authenticateWorkerPeer bootstrap) := by
    intro bootstrap
    unfold authenticateWorkerPeer
    split
    · exact .pure
    · exact askChecked_quiet
  have henvironment : ∀ policy, Program.Keeps Quiet
      (launchEnvironment policy request bootstrap) := by
    intro policy
    cases bootstrap with
    | none => exact .pure
    | some bootstrap =>
      refine .bind (hbootstrap bootstrap) fun _ => ?_
      split
      · exact .pure
      · exact .bind .ofExcept fun _ => .bind .ofExcept fun _ => .pure
  refine .ofExcept_bind fun _ hvalidate => ?_
  refine .bind (runs_quiet_any askChecked_quiet) fun _ => ?_
  refine .bind (runs_quiet_any (.forSome fun bootstrap =>
    .bind (hbootstrap bootstrap) fun _ => hpeer bootstrap)) fun _ => ?_
  refine .bind (runs_quiet_any componentPolicy_quiet) fun policy => ?_
  refine .bind (runs_quiet_any (henvironment policy)) fun _ => ?_
  refine .bind runs_ensureHealthy fun _ => ?_
  refine Program.Triple.mono (P := On fun _ => request.validate = .ok ()) ?_
    (fun w h => h.mono fun _ _ => hvalidate) fun _ _ h => h
  refine runs_quietly (checkActiveRoom_quiet _) fun _ => ?_
  refine runs_quietly .gets fun ledger => ?_
  cases ledger.contains request with
  | true => exact .pure fun _ _ h => h
  | false =>
    refine runs_quietly inspectUnit_quiet fun _ => ?_
    exact runs_quietly .ofExcept fun _ => .pure fun _ _ h => h

/-- **Launches.** -/
theorem runs_handleLaunch (bootstrap : Option BrokerBootstrapLaunch) :
    Runs crates codec (fun _ => True) (handleLaunch crates codec request bootstrap)
      fun _ _ => True := by
  refine .bind (admitLaunch_validate bootstrap) fun policy => ?_
  refine .bind (runs_performOp (.reserve request policy (bootstrap.map BrokerBootstrapLaunch.binding))
    _ nofun fun _ _ _ hvalidate => hvalidate) fun newlyReserved => ?_
  cases newlyReserved with
  | false =>
    exact runs_resumeLaunch.mono (fun w h => h.mono fun l hl => hl.1.mono fun _ hrecord =>
      hrecord.1) fun _ _ h => h
  | true =>
    refine runs_startReserved.mono (fun w h => h.mono fun l hl => ⟨hl.1, ?_⟩) fun _ _ h => h
    obtain ⟨-, l, hlawful, hvalidate, ⟨hfalse, -⟩ | ⟨-, record, hdecide, -, -, rfl⟩⟩ := hl
    · cases hfalse
    · -- the request had no record, so it was not started before
      have hnone : (recorded l).get request = none := by
        cases decides_of_decide hdecide with
        | reserved hget => exact hget
      intro hmem
      rcases List.mem_append.mp hmem with hmem | hnew
      · obtain ⟨record', hget, -⟩ := hlawful.current_of_started hmem
        cases hnone.symm.trans hget
      · cases List.mem_singleton.mp hnew

/-! ### Inspections and stops -/

/-- The record that an answer about the life of a request stands for. -/
def LifecycleRecord.Of : LifecycleRecord → LedgerRecord → Prop
  | .pending, record => record.state = .pending
  | .committed receipt, record => record.state = .committed ∧ record.receipt = some receipt
  | .stopPending receipt, record => record.state = .stopPending ∧ record.receipt = some receipt
  | .stopped receipt, record => record.state = .stopped ∧ record.receipt = some receipt

theorem lifecycleRecord_of {ledger : Ledger} {unit : String} {answer : LifecycleRecord}
    (h : ledger.lifecycleRecord request unit policy = .ok (some answer)) :
    ∃ record, ledger.records.get request = some record ∧ answer.Of record := by
  unfold Ledger.lifecycleRecord at h
  split at h
  · cases h
  next record hget =>
    obtain ⟨-, h⟩ := ensure_bind_eq_ok.mp h
    refine ⟨record, hget, ?_⟩
    split at h
    next hstate =>
      cases h
      exact hstate
    all_goals
      next hstate =>
        obtain ⟨receipt, hreceipt, h⟩ := orError_bind.mp h
        cases h
        exact ⟨hstate, hreceipt⟩

theorem pendingJobBinding_of {ledger : Ledger} {job : JobBinding}
    (h : ledger.pendingJobBinding crates request policy = .ok (some job)) :
    ∃ record, ledger.records.get request = some record ∧ record.job = some job := by
  unfold Ledger.pendingJobBinding at h
  split at h
  · cases h
  next record hget =>
    split at h
    · cases h
    · obtain ⟨-, h⟩ := check_bind_eq_ok.mp h
      rw [hget] at h
      obtain ⟨-, h⟩ := ensure_bind_eq_ok.mp h
      obtain ⟨-, h⟩ := check_bind_eq_ok.mp h
      exact ⟨record, hget, pure_eq_ok.mp h⟩

/-- A reading of the ledger, which holds the records of the history. -/
theorem runs_readLedger {α : Type} {m : Ledger → BrokerM α} {R : α → BrokerWorld → Prop}
    (h : ∀ ledger, Runs crates codec (On fun l => F l ∧ ledger.records = recorded l)
      (m ledger) R) :
    Runs crates codec (On F) (do let ledger ← .gets (·.broker.ledger); m ledger) R := by
  refine .bind (.gets ?_) h
  rintro w hw ⟨hhealthy, hF⟩
  exact ⟨hhealthy, hF, (hw.memory.healthy hhealthy).1⟩

theorem verifyReceiptIdentity_request {unit : String}
    (h : verifyReceiptIdentity receipt request unit policy = .ok ()) :
    receipt.request = request :=
  (ensure_eq_ok.mp h).1

theorem runs_cancelPending :
    Runs crates codec (On F) (cancelPending crates codec request policy) fun _ _ => True := by
  refine .bind (runs_performOp (.requestPendingStop request policy) F nofun
    fun _ _ _ _ => trivial) fun _ => ?_
  refine runs_readLedger fun ledger => ?_
  refine .ofExcept_bind fun found hfound => ?_
  cases found with
  | none => exact .pure fun _ _ _ => trivial
  | some job =>
    refine runs_quietly (.bind (ask_quiet _) fun _ => .ofExcept) fun resolution => ?_
    cases resolution with
    | gone => exact .pure fun _ _ _ => trivial
    | queued =>
      refine (runs_effect (G := fun _ => True) rfl ?_ fun _ _ => trivial).mono (fun _ h => h)
        fun _ _ _ => trivial
      -- the job is the one of the record whose cancellation was just requested
      rintro l - ⟨⟨⟨record, hget, hstate, hcancel⟩, -⟩, hrecords⟩
      obtain ⟨record', hget', hjob⟩ := pendingJobBinding_of hfound
      rw [hrecords] at hget'
      cases hget.symm.trans hget'
      exact ⟨record, hget, hstate, hcancel, hjob⟩

theorem runs_lifecyclePending (operation : BrokerLifecycleOperation) :
    Runs crates codec (On F) (lifecyclePending crates codec operation request policy)
      fun _ _ => True := by
  cases operation with
  | inspect =>
    exact .fail
  | stop => exact .bind runs_cancelPending fun _ => .fail

theorem runs_lifecycleStopped (operation : BrokerLifecycleOperation) :
    Runs crates codec (On (Current request (·.state = .stopped)))
      (lifecycleStopped crates operation request policy receipt) fun _ _ => True := by
  refine .ofExcept_bind fun _ hverify => ?_
  refine runs_quietly inspectUnit_quiet fun found => ?_
  cases found with
  | some observation =>
    exact runs_quietly .ofExcept fun _ => runs_quietly .ofExcept fun _ => .fail
  | none =>
    cases operation with
    | inspect => exact .pure fun _ _ _ => trivial
    | stop =>
      exact .bind (runs_releaseRetired (verifyReceiptIdentity_request hverify)) fun _ =>
        .pure fun _ _ _ => trivial

theorem RetirementVerified.stoppedReceipt (h : RetirementVerified receipt l) :
    RetirementVerified (stoppedReceipt receipt) l := by
  obtain ⟨verified, hmem, hsame⟩ := h
  exact ⟨verified, hmem, hsame.trans (sameProcessBinding_duplicate receipt false)⟩

theorem runs_finishStop (hrequest : receipt.request = request)
    (hF : ∀ l, F l → RetirementVerified receipt l) :
    Runs crates codec (On F) (finishStop crates codec request (stoppedReceipt receipt))
      fun _ _ => True := by
  refine .bind (runs_settleStop request _ F fun l hl => (hF l hl).stoppedReceipt) fun _ => ?_
  exact .bind (runs_releaseRetired hrequest) fun _ => .pure fun _ _ _ => trivial

variable {stopPending : Bool}

theorem runs_recordStop (hrequest : receipt.request = request)
    (hF : stopPending = true → ∀ l, F l → StopRecorded receipt l) :
    Runs crates codec (On F) (recordStop crates codec request receipt stopPending)
      fun _ => On (StopRecorded receipt) := by
  cases stopPending with
  | true => exact .pure fun _ _ h => h.mono (hF rfl)
  | false =>
    refine .bind (runs_stopRecorded receipt (.beginStop request receipt) nofun
      (fun _ => trivial) hrequest.symm fun _ h => h) fun _ => .pure fun _ _ h => h

theorem runs_retireOrphan (hrequest : receipt.request = request)
    (hF : stopPending = true → ∀ l, F l → StopRecorded receipt l) :
    Runs crates codec (On F) (retireOrphan crates codec request receipt stopPending)
      fun _ => On (RetirementVerified receipt) := by
  refine .bind (runs_verifyRetirement receipt) fun retired => ?_
  cases retired with
  | true => exact .pure fun _ _ h => h.mono fun l hl => hl.1 rfl
  | false =>
    refine runs_quietly askChecked_quiet fun _ => ?_
    refine .bind (runs_recordStop hrequest fun hs l hl => hF hs l (hl.2 rfl)) fun _ => ?_
    refine .bind (runs_effect (G := fun _ => True) rfl (fun _ _ h => h) fun _ _ => trivial)
      fun _ => ?_
    refine .bind (runs_verifyRetirement receipt) fun retired => ?_
    refine .ofExcept fun _ w hretired _ h => h.mono fun l hl => hl.1 (ensure_eq_ok.mp hretired)

theorem runs_stopOrphan (hrequest : receipt.request = request)
    (hF : stopPending = true → ∀ l, F l → StopRecorded receipt l) :
    Runs crates codec (On F) (stopOrphan crates codec request receipt stopPending)
      fun _ _ => True := by
  refine .bind (runs_retireOrphan hrequest hF) fun _ => ?_
  refine .bind (runs_performOp (.beginStop request (stoppedReceipt receipt)) _ nofun
    fun _ _ _ _ => trivial) fun _ => ?_
  refine runs_finishStop hrequest ?_
  rintro l ⟨-, l, -, ⟨verified, hmem, hsame⟩, ⟨-, rfl⟩ | ⟨-, record, -, -, -, rfl⟩⟩
  · exact ⟨verified, hmem, hsame⟩
  · exact ⟨verified, List.mem_append_left _ hmem, hsame⟩

theorem runs_confirmStop (hrequest : receipt.request = request) (rounds : Nat) :
    Runs crates codec (On fun _ => True)
      (confirmStop crates codec request policy receipt rounds) fun _ _ => True := by
  induction rounds with
  | zero => exact fun _ h _ => ⟨h, fun _ h => by cases h⟩
  | succ rounds ih =>
    refine runs_quietly inspectUnit_quiet fun found => ?_
    cases found with
    | some observation =>
      refine runs_quietly .ofExcept fun _ => runs_quietly .ofExcept fun _ => ?_
      exact runs_quietly askChecked_quiet fun _ => ih
    | none =>
      refine .bind (runs_verifyRetirement receipt) fun retired => ?_
      cases retired with
      | true => exact runs_finishStop hrequest fun l hl => hl.1 rfl
      | false => exact .fail

theorem runs_lifecycleActive (operation : BrokerLifecycleOperation)
    (hrequest : receipt.request = request)
    (hF : stopPending = true → ∀ l, F l → StopRecorded receipt l) :
    Runs crates codec (On F)
      (lifecycleActive crates codec operation request policy receipt stopPending observation)
      fun _ _ => True := by
  refine .ofExcept_bind fun _ _ => .ofExcept_bind fun _ hsame => ?_
  rw [ensure_eq_ok] at hsame
  cases operation with
  | inspect => exact runs_quietly .ofExcept fun _ => .pure fun _ _ _ => trivial
  | stop =>
    refine runs_quietly askChecked_quiet fun _ => ?_
    refine .bind (runs_recordStop rfl fun hs l hl => (hF hs l hl).of_same hsame) fun _ => ?_
    refine runs_quietly (checkActiveRoom_quiet _) fun _ => ?_
    refine .bind (runs_insertActive fun l hl => ?_) fun _ => ?_
    · refine Current.mono hl fun record hrecord => ?_
      rw [hrecord.1]
      exact nofun
    · refine .bind (runs_effect (G := fun _ => True) rfl (fun _ _ h => h) fun _ _ => trivial)
        fun _ => ?_
      exact runs_quietly .gets fun rounds => runs_confirmStop hrequest rounds

theorem runs_lifecycleCommitted (operation : BrokerLifecycleOperation)
    (hF : stopPending = true → ∀ l, F l → Current request (fun record =>
      record.state = .stopPending ∧ record.receipt = some receipt) l) :
    Runs crates codec (On F)
      (lifecycleCommitted crates codec operation request policy receipt stopPending)
      fun _ _ => True := by
  refine .ofExcept_bind fun _ hverify => ?_
  have hrequest := verifyReceiptIdentity_request hverify
  have hstop : stopPending = true → ∀ l, F l → StopRecorded receipt l := by
    intro hpending l hl
    rw [StopRecorded, hrequest]
    exact (hF hpending l hl).mono fun record hrecord =>
      ⟨hrecord.1, receipt, hrecord.2, sameProcessBinding_refl receipt⟩
  refine runs_quietly inspectUnit_quiet fun found => ?_
  cases found with
  | some observation => exact runs_lifecycleActive operation hrequest hstop
  | none =>
    cases operation with
    | inspect => exact .fail
    | stop => exact runs_stopOrphan hrequest hstop

/-- **Inspections and stops.** -/
theorem runs_handleLifecycle (operation : BrokerLifecycleOperation) :
    Runs crates codec (fun _ => True) (handleLifecycle crates codec operation request)
      fun _ _ => True := by
  refine .bind (runs_quiet_any .ofExcept) fun _ => ?_
  refine .bind (runs_quiet_any askChecked_quiet) fun _ => ?_
  refine .bind (runs_quiet_any componentPolicy_quiet) fun policy => ?_
  refine .bind runs_ensureHealthy fun _ => ?_
  refine runs_readLedger fun ledger => ?_
  refine .ofExcept_bind fun found hfound => ?_
  cases found with
  | none => exact .fail
  | some answer =>
    obtain ⟨record, hget, hof⟩ := lifecycleRecord_of hfound
    have hcurrent : ∀ l, True ∧ ledger.records = recorded l → Current request answer.Of l :=
      fun l hl => ⟨record, hl.2 ▸ hget, hof⟩
    cases answer with
    | pending => exact runs_lifecyclePending operation
    | committed persisted => exact runs_lifecycleCommitted operation nofun
    | stopPending persisted => exact runs_lifecycleCommitted operation fun _ => hcurrent
    | stopped persisted =>
      exact (runs_lifecycleStopped operation).mono
        (fun w h => h.mono fun l hl => (hcurrent l hl).mono fun _ hrecord => hrecord.1)
        fun _ _ h => h

end Programs

end AscensionWatchdog.Broker
