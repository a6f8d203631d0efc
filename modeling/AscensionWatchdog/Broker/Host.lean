import AscensionWatchdog.Broker.Runs

/-!
# The broker over its whole life

A host has one ledger, and at most one broker that works on it. A broker is opened from the ledger,
answers calls, and is lost at any moment: by a halt between two calls, or by a crash in the middle
of one, which also leaves a part of the entry that was being written. What is proved of the
histories of `Broker.Runs` holds for every run of a host:

* `started_at_most_once`: a unit is started at most once for each request;
* `effects_recorded`: what ends a process comes after the record of the intent, the end is recorded
  after its verification, and nothing follows it but the release of the descriptor;
* `running_bounded`: the records that may own a process are at most 64, their units are distinct,
  and the active units are among them.
-/

namespace AscensionWatchdog.Broker

open Foundation Foundation.Journal

variable {crates : Crates} {codec : RecordCodec} {record : LedgerRecord}

/-! ### Hosts -/

inductive BrokerCall where
  | launch (request : BrokerRequest) (bootstrap : Option BrokerBootstrapLaunch)
  | lifecycle (operation : BrokerLifecycleOperation) (request : BrokerRequest)

/-- What happens on a host. A call comes with the answers of the system to it. -/
inductive HostOp where
  | opened (policy : BrokerPolicy)
  | called (call : BrokerCall) (answers : List BrokerAnswer)
  | halted

structure BrokerHost where
  running : Option LinuxSystemdBroker
  file : List UInt8
  events : List BrokerEvent

/-- A host on which no broker has run. -/
def BrokerHost.start : BrokerHost where
  running := none
  file := []
  events := []

section Step

variable (crates : Crates) (codec : RecordCodec)

/-- The end of a call, and whether it was reached. -/
def BrokerCall.perform (w : BrokerWorld) : BrokerCall → Bool × BrokerWorld
  | .launch request bootstrap =>
    let r := handleLaunch crates codec request bootstrap w
    (r.1.isSome, r.2)
  | .lifecycle operation request =>
    let r := handleLifecycle crates codec operation request w
    (r.1.isSome, r.2)

def BrokerHost.step : HostOp → BrokerHost → BrokerHost
  | .opened policy, host =>
    match openRecords crates codec host.file with
    | .ok records => { host with running := some (.newWithLedger policy ⟨records, false⟩) }
    | .error _ => { host with running := none }
  | .called call answers, host =>
    match host.running with
    | none => host
    | some broker =>
      let r := call.perform crates codec ⟨broker, host.file, host.events, answers⟩
      { running := if r.1 then some r.2.broker else none
        file := r.2.file
        events := r.2.events }
  | .halted, host => { host with running := none }

/-- The host after a run. -/
def BrokerHost.after (ops : List HostOp) : BrokerHost :=
  run (BrokerHost.step crates codec) .start ops

end Step

/-- The invariant of a host. -/
structure HostSound (crates : Crates) (codec : RecordCodec) (host : BrokerHost) : Prop where
  file : FileSound crates codec host.file host.events
  running : ∀ broker ∈ host.running, ∀ answers,
    Sound crates codec ⟨broker, host.file, host.events, answers⟩

theorem BrokerCall.sound_perform {w : BrokerWorld} (h : Sound crates codec w) (call : BrokerCall) :
    Sound crates codec (call.perform crates codec w).2 := by
  cases call with
  | launch request bootstrap => exact (runs_handleLaunch bootstrap w h trivial).1
  | lifecycle operation request => exact (runs_handleLifecycle operation w h trivial).1

/-- A broker that is opened from the file. -/
theorem sound_opened {host : BrokerHost} (h : FileSound crates codec host.file host.events)
    {records : Records} (hopen : openRecords crates codec host.file = .ok records)
    (policy : BrokerPolicy) (answers : List BrokerAnswer) :
    Sound crates codec
      ⟨.newWithLedger policy ⟨records, false⟩, host.file, host.events, answers⟩ := by
  obtain ⟨-, hparse⟩ := ensure_bind_eq_ok.mp hopen
  obtain ⟨replay, hread, hrecords⟩ := parseRecords_eq_ok.mp hparse
  have hrecorded := h.read replay hread
  refine ⟨h, ⟨⟨host.events, List.prefix_rfl, ?_⟩, fun _ => ⟨?_, .inl ⟨replay, hread, hrecorded⟩⟩⟩,
    nofun⟩
  · exact hrecords.symm.trans hrecorded
  · exact hrecords.symm.trans hrecorded

theorem BrokerHost.sound_step (op : HostOp) {host : BrokerHost} (h : HostSound crates codec host) :
    HostSound crates codec (host.step crates codec op) := by
  cases op with
  | halted => exact ⟨h.file, nofun⟩
  | opened policy =>
    simp only [BrokerHost.step]
    split
    next records hopen =>
      refine ⟨h.file, ?_⟩
      rintro broker ⟨⟩ answers
      exact sound_opened h.file hopen policy answers
    next => exact ⟨h.file, nofun⟩
  | called call answers =>
    simp only [BrokerHost.step]
    split
    next => exact h
    next broker hrunning =>
      have hafter := call.sound_perform (h.running broker hrunning answers)
      refine ⟨hafter.file, ?_⟩
      intro broker' hbroker' answers'
      rw [Option.mem_def, Option.ite_none_right_eq_some] at hbroker'
      obtain ⟨-, hsome⟩ := hbroker'
      obtain rfl := Option.some.inj hsome
      exact hafter.quiet ⟨answers', rfl⟩

/-- **The invariant holds in every run of a host.** -/
theorem BrokerHost.sound_after (crates : Crates) (codec : RecordCodec) (ops : List HostOp) :
    HostSound crates codec (BrokerHost.after crates codec ops) := by
  refine run_invariant (fun op _ h => BrokerHost.sound_step op h) ?_ ops
  refine ⟨⟨.nil, fun _ h => absurd h List.not_mem_nil, fun u hu => ?_⟩, nofun⟩
  rw [← Except.ok.inj (readFile_nil.symm.trans hu)]
  rfl

/-- A launch whose unit starts, and a stop of the unit that runs. -/
def sampleHostOps : List HostOp :=
  [.opened ⟨[(sampleRequest.component, samplePolicy)]⟩,
    .called (.launch sampleRequest none)
      [.checked (.ok ()), .observed (.ok none), .checked (.ok ()), .written .done,
        .started (.ok sampleObservation), .queuedJob none, .checked (.ok ()),
        .checked (.ok ()), .written .done],
    .called (.lifecycle .stop sampleRequest)
      [.checked (.ok ()), .observed (.ok (some sampleObservation)), .checked (.ok ()),
        .checked (.ok ()), .written .done, .checked (.ok ()), .observed (.ok none),
        .retirement (.ok true), .checked (.ok ()), .written .done, .checked (.ok ())]]

/-! ### Starts -/

/-- **Over every run of the broker, with crashes at any point and reopening, a unit is started at
most once for each request.** -/
theorem started_at_most_once (crates : Crates) (codec : RecordCodec) (ops : List HostOp)
    (request : BrokerRequest) :
    (BrokerHost.after crates codec ops).events.count (.started request) ≤ 1 :=
  (BrokerHost.sound_after crates codec ops).file.lawful.count_le_one fun _ h => h.2

/-! ### Ends -/

/-- The request that an event is about. -/
def BrokerEvent.subject : BrokerEvent → BrokerRequest
  | .appended record => record.request
  | .started request | .jobTaken request | .retained request _ | .jobCancelled request _
  | .stopped request _ => request
  | .retainedStopped receipt | .retired receipt | .released receipt => receipt.request

/-- A record is in the file of the ledger, and was there before what follows the history. -/
def OnFile (codec : RecordCodec) (file : List UInt8) (before : List BrokerEvent)
    (record : LedgerRecord) : Prop :=
  .appended record ∈ before ∧ codec.encode record <:+: file

/-- The intent to stop the process of a receipt is on file. -/
def StopOnFile (codec : RecordCodec) (file : List UInt8) (before : List BrokerEvent)
    (receipt : LaunchReceipt) : Prop :=
  ∃ record, OnFile codec file before record ∧ record.request = receipt.request ∧
    record.state = .stopPending ∧
    ∃ prior, record.receipt = some prior ∧ sameProcessBinding prior receipt

/-- What must have happened before an event that ends a process, or that records the end. -/
def Announced (codec : RecordCodec) (file : List UInt8) (before : List BrokerEvent) :
    BrokerEvent → Prop
  | .stopped request observation =>
    StopOnFile codec file before (receiptFrom request observation false)
  | .retainedStopped receipt => StopOnFile codec file before receipt
  | .jobCancelled request job =>
    ∃ record, OnFile codec file before record ∧ record.request = request ∧
      record.state = .pending ∧ record.cancelRequested = some true ∧ record.job = some job
  | .appended record => record.state = .stopped →
    ∃ receipt, record.receipt = some receipt ∧ RetirementVerified receipt before
  | _ => True

/-- What may still happen after the end of a stop: a verification, which reads, and the release of
the descriptor of the containment. -/
def BrokerEvent.followsEnd : BrokerEvent → Prop
  | .retired _ | .released _ => True
  | _ => False

section Ends

variable {before after : List BrokerEvent} {e : BrokerEvent} {file : List UInt8}

/-- What is current was appended. -/
theorem FileSound.onFile {l : List BrokerEvent} {request : BrokerRequest}
    {P : LedgerRecord → Prop} (h : FileSound crates codec file l) (hl : before <+: l)
    (hcurrent : Current request P before) :
    ∃ record, OnFile codec file before record ∧ record.request = request ∧ P record := by
  obtain ⟨record, hget, hP⟩ := hcurrent
  have hbefore : Lawful crates before := h.lawful.isPrefix hl
  have hmem := hbefore.appended_mem hget
  exact ⟨record, ⟨hmem, h.durable record (hl.subset hmem)⟩, Records.request_of_get hget, hP⟩

theorem FileSound.announced (h : FileSound crates codec file (before ++ e :: after)) :
    Announced codec file before e := by
  have hpermits := h.lawful.permits_of_eq
  have hl : before <+: before ++ e :: after := List.prefix_append _ _
  cases e with
  | stopped request observation => exact h.onFile hl hpermits
  | retainedStopped receipt => exact h.onFile hl hpermits
  | jobCancelled request job => exact h.onFile hl hpermits
  | appended record => exact hpermits.2.2
  | started request => trivial
  | jobTaken request => trivial
  | retained request observation => trivial
  | retired receipt => trivial
  | released receipt => trivial

/-- The end of a stop is the last record of its request, and no event that asks for a process
follows it. -/
theorem Lawful.followsEnd (h : Lawful crates (before ++ .appended record :: after))
    (hstopped : record.state = .stopped) (he : e ∈ after) (hsubject : e.subject = record.request) :
    e.followsEnd := by
  obtain ⟨between, rest, rfl⟩ := List.append_of_mem he
  rw [← List.cons_append, ← List.append_assoc] at h
  have hpermits := h.permits_of_eq
  have hbefore : Lawful crates (before ++ .appended record :: between) :=
    h.isPrefix (List.prefix_append _ _)
  obtain ⟨last, hget, hlast⟩ := hbefore.current_of_stopped
    (List.mem_append_right before List.mem_cons_self) hstopped
  rw [← hsubject] at hget
  -- the record of a request that an event needs is the stopped one
  have hunique : ∀ {P : LedgerRecord → Prop},
      Current e.subject P (before ++ .appended record :: between) → P last := by
    rintro P ⟨last', hget', hP⟩
    cases hget.symm.trans hget'
    exact hP
  cases e with
  | appended record' => exact absurd hlast (hpermits.1.not_stopped hget)
  | started request => exact absurd hlast (hunique hpermits.1)
  | jobTaken request => exact absurd hlast (hunique hpermits)
  | retained request observation => exact absurd hlast (hunique hpermits)
  | jobCancelled request job => cases hlast.symm.trans (hunique hpermits).1
  | stopped request observation => cases hlast.symm.trans (hunique hpermits).1
  | retainedStopped receipt => cases hlast.symm.trans (hunique hpermits).1
  | retired receipt => trivial
  | released receipt => trivial

/-- **Over every run of the broker, what ends a process comes after the record of the intent, with
the same request and binding, and the end is recorded after the retirement of the unit was
verified; after that record there is none of the request any more, and no effect but the release of
the descriptor.** -/
theorem effects_recorded (crates : Crates) (codec : RecordCodec) (ops : List HostOp)
    (hevents : (BrokerHost.after crates codec ops).events = before ++ e :: after) :
    Announced codec (BrokerHost.after crates codec ops).file before e ∧
      ∀ record, e = .appended record → record.state = .stopped →
        ∀ e' ∈ after, e'.subject = record.request → e'.followsEnd := by
  have hfile := (BrokerHost.sound_after crates codec ops).file
  rw [hevents] at hfile
  refine ⟨hfile.announced, ?_⟩
  rintro record rfl hstopped e' he' hsubject
  exact hfile.lawful.followsEnd hstopped he' hsubject

/-- The record of the sample in a state that has a receipt. -/
def sampleRecorded (state : LedgerState) : LedgerRecord :=
  { sampleReserved with state := state, receipt := some sampleReceipt }

theorem sampleHost_events :
    (BrokerHost.after sampleBrokerCrates jsonCodec sampleHostOps).events =
      [.appended sampleReserved, .started sampleRequest, .retained sampleRequest sampleObservation,
        .appended (sampleRecorded .committed), .appended (sampleRecorded .stopPending)] ++
      .stopped sampleRequest sampleObservation ::
      [.retired sampleReceipt, .appended (sampleRecorded .stopped), .released sampleReceipt] := by
  decide +kernel

/-- The stop of the sample is on file before it. -/
theorem effects_recorded_sample :
    StopOnFile jsonCodec (BrokerHost.after sampleBrokerCrates jsonCodec sampleHostOps).file
      [.appended sampleReserved, .started sampleRequest, .retained sampleRequest sampleObservation,
        .appended (sampleRecorded .committed), .appended (sampleRecorded .stopPending)]
      sampleReceipt :=
  (effects_recorded sampleBrokerCrates jsonCodec sampleHostOps sampleHost_events).1

/-- The descriptor of the sample is released after the end of its stop was recorded. -/
theorem released_after_stopped : ∃ before record after e,
    (BrokerHost.after sampleBrokerCrates jsonCodec sampleHostOps).events =
        before ++ .appended record :: after ∧
      record.state = .stopped ∧ e ∈ after ∧ e = .released sampleReceipt ∧
      e.subject = record.request := by
  refine ⟨_, sampleRecorded .stopped, [.released sampleReceipt], .released sampleReceipt,
    sampleHost_events.trans (List.append_assoc _ [_, _] _).symm, rfl, ?_, rfl, rfl⟩
  exact List.mem_singleton.mpr rfl

end Ends

/-! ### Names of units -/

section Names

/-- The part of the digest that is in the name of a unit tells the requests of a ledger apart: what
is assumed of SHA-256. -/
def DigestsDistinct (crates : Crates) (requests : List BrokerRequest) : Prop :=
  ∀ request ∈ requests, ∀ request' ∈ requests,
    (sha256 crates request.bytes).take 12 = (sha256 crates request'.bytes).take 12 →
      request.bytes = request'.bytes

/-- What is before a separator is determined by the whole. -/
theorem eq_of_append_cons_eq {α : Type} {sep : α} {xs ys xs' ys' : List α} (h : sep ∉ xs)
    (h' : sep ∉ xs') (heq : xs ++ sep :: ys = xs' ++ sep :: ys') : xs = xs' ∧ ys = ys' := by
  induction xs generalizing xs' with
  | nil =>
    cases xs' with
    | nil => exact ⟨rfl, (List.cons.inj heq).2⟩
    | cons x' xs' => exact absurd ((List.cons.inj heq).1 ▸ List.mem_cons_self) h'
  | cons x xs ih =>
    cases xs' with
    | nil => exact absurd ((List.cons.inj heq).1 ▸ List.mem_cons_self) h
    | cons x' xs' =>
      obtain ⟨rfl, htail⟩ := List.cons.inj heq
      obtain ⟨rfl, rfl⟩ := ih (fun hm => h (List.mem_cons_of_mem _ hm))
        (fun hm => h' (List.mem_cons_of_mem _ hm)) htail
      exact ⟨rfl, rfl⟩

theorem utf8_eq (text : String) :
    text.toUTF8.data.toList = text.toList.flatMap String.utf8EncodeChar := by
  obtain ⟨cs, rfl⟩ : ∃ cs, text = String.ofList cs := ⟨_, String.ofList_toList.symm⟩
  simp [String.toUTF8, String.toByteArray_ofList, List.utf8Encode, List.data_toByteArray]

theorem utf8_injective {text text' : String}
    (h : text.toUTF8.data.toList = text'.toUTF8.data.toList) : text = text' := by
  rw [utf8_eq, utf8_eq] at h
  have hbegins : text.toList <+: text'.toList :=
    Json.isPrefix_of_flatMap_utf8EncodeChar (by rw [h])
  have hbegins' : text'.toList <+: text.toList :=
    Json.isPrefix_of_flatMap_utf8EncodeChar (by rw [h])
  exact String.toList_inj.mp (hbegins.eq_of_length_le hbegins'.length_le)

/-- There is no NUL in a text without the character. -/
theorem zero_not_mem_utf8 {text : String} (h : ∀ c ∈ text.toList, c.toNat ≠ 0) :
    (0 : UInt8) ∉ text.toUTF8.data.toList := by
  rw [utf8_eq]
  intro hmem
  obtain ⟨c, hc, hzero⟩ := List.mem_flatMap.mp hmem
  exact Json.ascii_not_mem_utf8EncodeChar (b := 0) (by decide) (h c hc) hzero

theorem zero_not_mem_identity {label value : String} (h : validateIdentity label value = .ok ()) :
    (0 : UInt8) ∉ value.toUTF8.data.toList := by
  refine zero_not_mem_utf8 fun c hc hzero => ?_
  obtain ⟨-, -, hall⟩ := ensure_eq_ok.mp h
  have hidentity := List.all_eq_true.mp hall c hc
  obtain rfl : c = Char.ofNat 0 := by
    rw [← hzero, Char.ofNat_toNat]
  exact absurd hidentity (by decide)

/-- The bytes of a valid request determine it. -/
theorem BrokerRequest.bytes_injective {request request' : BrokerRequest}
    (h : request.validate = .ok ()) (h' : request'.validate = .ok ())
    (hbytes : request.bytes = request'.bytes) : request = request' := by
  have hparts : ∀ {request : BrokerRequest}, request.validate = .ok () →
      (0 : UInt8) ∉ request.component.asStr.toUTF8.data.toList ∧
      (0 : UInt8) ∉ request.instanceName.toUTF8.data.toList ∧
      (0 : UInt8) ∉ request.incarnation.toUTF8.data.toList := by
    intro request h
    obtain ⟨hname, h⟩ := check_bind_eq_ok.mp h
    obtain ⟨hincarnation, -⟩ := check_bind_eq_ok.mp h
    refine ⟨zero_not_mem_utf8 ?_, zero_not_mem_identity hname,
      zero_not_mem_identity hincarnation⟩
    cases request.component <;> exact forall_mem_of_all (by decide)
  obtain ⟨hcomponent, hname, hincarnation⟩ := hparts h
  obtain ⟨hcomponent', hname', hincarnation'⟩ := hparts h'
  simp only [BrokerRequest.bytes, List.append_assoc, List.singleton_append] at hbytes
  obtain ⟨heq₁, hbytes⟩ := eq_of_append_cons_eq hcomponent hcomponent' hbytes
  obtain ⟨heq₂, hbytes⟩ := eq_of_append_cons_eq hname hname' hbytes
  obtain ⟨heq₃, heq₄⟩ := eq_of_append_cons_eq hincarnation hincarnation' hbytes
  obtain ⟨component, name, incarnation, nonce⟩ := request
  obtain ⟨component', name', incarnation', nonce'⟩ := request'
  obtain rfl := BrokerComponent.asStr_injective (utf8_injective heq₁)
  obtain rfl := utf8_injective heq₂
  obtain rfl := utf8_injective heq₃
  obtain rfl := utf8_injective heq₄
  rfl

/-- A name has the part of the digest in it. -/
theorem take_sha256_of_unitName_eq {request request' : BrokerRequest}
    (h : unitName crates request = unitName crates request') :
    (sha256 crates request.bytes).take 12 = (sha256 crates request'.bytes).take 12 := by
  have hlength : ∀ request : BrokerRequest,
      (takeChars 24 (hexDigest (sha256 crates request.bytes))).toList.length = 24 := by
    intro request
    rw [takeChars, String.toList_ofList, hexDigest, String.toList_ofList,
      take_flatMap_byteHex _ 12]
    simp [sha256, byteHex]
  rw [← takeChars_hexDigest, ← String.toList_inj]
  rw [unitName, unitName, unitWithDigest_eq, unitWithDigest_eq] at h
  have hchars := congrArg String.toList h
  simp only [String.toList_append, List.append_cancel_right_eq] at hchars
  exact List.append_inj_right' hchars ((hlength request).trans (hlength request').symm)

end Names

/-! ### Bounds -/

section Bounds

variable {broker : LinuxSystemdBroker} {file : List UInt8} {l : List BrokerEvent}

theorem get_of_mem_recorded (h : Lawful crates l) (hmem : record ∈ recorded l) :
    (recorded l).get record.request = some record :=
  (lookup_eq_some h.keys).mpr ⟨hmem, rfl⟩

/-- The units of the records of a ledger are distinct. -/
theorem Lawful.unit_injective (h : Lawful crates l)
    (hdigests : DigestsDistinct crates ((recorded l).map LedgerRecord.request))
    {record' : LedgerRecord} (hmem : record ∈ recorded l) (hmem' : record' ∈ recorded l)
    (hunit : record.unit = record'.unit) : record = record' := by
  have hget := get_of_mem_recorded h hmem
  have hget' := get_of_mem_recorded h hmem'
  have hvalid := h.valid _ _ hget
  have hvalid' := h.valid _ _ hget'
  rw [hvalid.unit, hvalid'.unit] at hunit
  have hbytes := hdigests _ (List.mem_map_of_mem hmem) _ (List.mem_map_of_mem hmem')
    (take_sha256_of_unitName_eq hunit)
  have hrequest := BrokerRequest.bytes_injective hvalid.request hvalid'.request hbytes
  rw [hrequest, hget'] at hget
  exact (Option.some.inj hget).symm

/-- **In every state of the broker, the records that may own a process are at most 64, no two of
them share a unit, and the active units are among theirs.** -/
theorem running_bounded (crates : Crates) (codec : RecordCodec) (ops : List HostOp)
    (hrunning : (BrokerHost.after crates codec ops).running = some broker) :
    broker.ledger.records.countP LedgerRecord.unresolved ≤ maxActiveProcesses ∧
      (DigestsDistinct crates (broker.ledger.records.map LedgerRecord.request) →
        ∀ record ∈ broker.ledger.records, ∀ record' ∈ broker.ledger.records,
          record.unresolved = true → record'.unresolved = true → record.unit = record'.unit →
            record = record') ∧
      ∀ unit ∈ broker.activeUnits,
        ∃ record ∈ broker.ledger.records, record.unresolved = true ∧ record.unit = unit := by
  have hsound := (BrokerHost.sound_after crates codec ops).running broker hrunning []
  obtain ⟨l, hl, hrecords⟩ := hsound.memory.held
  have hlawful : Lawful crates l := hsound.file.lawful.isPrefix hl
  refine ⟨?_, ?_, ?_⟩
  · rw [hrecords]
    exact hlawful.unresolved_le
  · rw [hrecords]
    intro hdigests record hmem record' hmem' _ _ hunit
    exact hlawful.unit_injective hdigests hmem hmem' hunit
  · intro unit hunit
    obtain ⟨request, record, hget, hstate, hname⟩ := hsound.active unit hunit
    exact ⟨record, (mem_of_lookup hget).1, decide_eq_true hstate, hname⟩

/-- The ledger of the sample has one request. -/
theorem digestsDistinct_singleton (request : BrokerRequest) :
    DigestsDistinct crates [request] := by
  intro request₁ h₁ request₂ h₂ _
  rw [List.mem_singleton.mp h₁, List.mem_singleton.mp h₂]

theorem running_bounded_sample : ∃ broker,
    (BrokerHost.after sampleBrokerCrates jsonCodec (sampleHostOps.take 2)).running = some broker ∧
      broker.activeUnits = [sampleObservation.unit] ∧
      broker.ledger.records.countP LedgerRecord.unresolved ≤ maxActiveProcesses ∧
      (∀ record ∈ broker.ledger.records, ∀ record' ∈ broker.ledger.records,
        record.unresolved = true → record'.unresolved = true → record.unit = record'.unit →
          record = record') ∧
      ∀ unit ∈ broker.activeUnits,
        ∃ record ∈ broker.ledger.records, record.unresolved = true ∧ record.unit = unit := by
  have hmemory : (BrokerHost.after sampleBrokerCrates jsonCodec (sampleHostOps.take 2)).running.map
      (fun broker => (broker.activeUnits, broker.ledger.records.map LedgerRecord.request)) =
        some ([sampleObservation.unit], [sampleRequest]) := by
    decide +kernel
  obtain ⟨broker, hrunning, hbroker⟩ := Option.map_eq_some_iff.mp hmemory
  obtain ⟨hactive, hrequests⟩ := Prod.mk.inj hbroker
  obtain ⟨hcount, hunits, hcontained⟩ := running_bounded _ _ _ hrunning
  refine ⟨broker, hrunning, hactive, hcount, hunits ?_, hcontained⟩
  rw [hrequests]
  exact digestsDistinct_singleton sampleRequest

end Bounds

end AscensionWatchdog.Broker
