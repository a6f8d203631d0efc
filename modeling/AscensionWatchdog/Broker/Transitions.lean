import AscensionWatchdog.Broker.Ledger

/-!
# What the operations of the ledger append

`Appends` says once what an operation can add to the ledger, with the conditions under which it
does: a reservation, the two extensions of a pending record, a commit, the two ways in which a
stop begins, and its end. It is stated for the operations as the broker calls them: a request is
validated and its unit is the generated one before it is reserved, and a receipt is verified
against the policy of the reservation before it is committed (`Admitted`).

From it follow the invariant of the records in memory (`ValidRecord`) and the order of the states
of a request (`LedgerState.rank`).
-/

namespace AscensionWatchdog.Broker

open Foundation

variable {crates : Crates} {records : Records} {ledger : Ledger} {record previous : LedgerRecord}
variable {request : BrokerRequest} {policy : LaunchPolicy} {receipt : LaunchReceipt}

/-! ### Operations and what they add -/

/-- The operations of the ledger. -/
inductive LedgerOp where
  | reserve (request : BrokerRequest) (policy : LaunchPolicy)
      (bootstrap : Option BrokerBootstrapBinding)
  | bindJob (request : BrokerRequest) (policy : LaunchPolicy) (job : JobBinding)
  | requestPendingStop (request : BrokerRequest) (policy : LaunchPolicy)
  | commit (request : BrokerRequest) (receipt : LaunchReceipt)
  | beginStop (request : BrokerRequest) (receipt : LaunchReceipt)
  | beginFailedLaunchCleanup (request : BrokerRequest) (receipt : LaunchReceipt)
      (policy : LaunchPolicy)
  | markStopped (request : BrokerRequest) (receipt : LaunchReceipt)

/-- The record that an operation appends, if any. -/
def LedgerOp.decide (crates : Crates) (ledger : Ledger) :
    LedgerOp → Except BrokerError (Option LedgerRecord)
  | .reserve request policy bootstrap =>
    ledger.reserve request (unitName crates request) policy bootstrap
  | .bindJob request policy job => ledger.bindJob crates request policy job
  | .requestPendingStop request policy => ledger.requestPendingStop crates request policy
  | .commit request receipt => ledger.commit request receipt
  | .beginStop request receipt => ledger.beginStop request receipt
  | .beginFailedLaunchCleanup request receipt policy =>
    ledger.beginFailedLaunchCleanup crates request receipt policy
  | .markStopped request receipt => ledger.markStopped request receipt

/-- What the broker has checked before it calls an operation. -/
def Admitted (crates : Crates) (ledger : Ledger) : LedgerOp → Prop
  | .reserve request _ _ => request.validate = .ok ()
  | .commit request receipt => ∀ record, ledger.records.get request = some record →
      ∃ policy, record.identity.matchesPolicy policy ∧
        verifyReceiptIdentity receipt request (unitName crates request) policy = .ok ()
  | _ => True

/-- The record that the reservation of a request writes. -/
def reservation (crates : Crates) (request : BrokerRequest) (policy : LaunchPolicy)
    (bootstrap : Option BrokerBootstrapBinding) : LedgerRecord where
  request := request
  unit := unitName crates request
  identity := LaunchIdentity.fromPolicy policy
  bootstrap := bootstrap
  job := none
  cancelRequested := none
  state := .pending
  receipt := none

/-- What an operation can add to the records. -/
inductive Appends (crates : Crates) (records : Records) : LedgerRecord → Prop where
  | reserved {request : BrokerRequest} (policy : LaunchPolicy)
      {bootstrap : Option BrokerBootstrapBinding} :
      request.validate = .ok () → forEach (·.validate request) bootstrap.toList = .ok () →
      records.get request = none → records.length < maxLedgerRequests →
      Appends crates records (reservation crates request policy bootstrap)
  | bound {previous : LedgerRecord} {job : JobBinding} :
      records.get previous.request = some previous → previous.state = .pending →
      previous.job = none → job.validateForRequest crates previous.request = .ok () →
      Appends crates records { previous with job := some job }
  | cancelled {previous : LedgerRecord} :
      records.get previous.request = some previous → previous.state = .pending →
      previous.cancelRequested ≠ some true →
      Appends crates records { previous with cancelRequested := some true }
  | committed {previous : LedgerRecord} {receipt : LaunchReceipt} :
      records.get previous.request = some previous → previous.state = .pending →
      receiptOf previous receipt →
      Appends crates records { previous with state := .committed, receipt := some receipt }
  | stopBegun {previous : LedgerRecord} {prior receipt : LaunchReceipt} :
      records.get previous.request = some previous → previous.state = .committed →
      previous.receipt = some prior → sameProcessBinding prior receipt →
      Appends crates records
        { previous with cancelRequested := none, state := .stopPending, receipt := some receipt }
  | cleanupBegun {previous : LedgerRecord} {receipt : LaunchReceipt} :
      records.get previous.request = some previous → previous.state = .pending →
      receiptOf previous receipt →
      Appends crates records { previous with state := .stopPending, receipt := some receipt }
  | stopped {previous : LedgerRecord} {prior receipt : LaunchReceipt} :
      records.get previous.request = some previous → previous.state = .stopPending →
      previous.receipt = some prior → sameProcessBinding prior receipt →
      Appends crates records { previous with state := .stopped, receipt := some receipt }

/-! ### The records in memory -/

/-- A record that an opened ledger may hold. -/
structure ValidRecord (crates : Crates) (record : LedgerRecord) : Prop where
  request : record.request.validate = .ok ()
  bootstrap : forEach (·.validate record.request) record.bootstrap.toList = .ok ()
  job : forEach (·.validateForRequest crates record.request) record.job.toList = .ok ()
  unit : record.unit = unitName crates record.request
  cancel : record.cancelRequested ≠ some false
  pending : record.state = .pending → record.receipt = none
  receipt : record.state ≠ .pending →
    ∃ receipt, record.receipt = some receipt ∧ receiptOf record receipt

/-- Every record is valid. -/
def ValidRecords (crates : Crates) (records : Records) : Prop :=
  ∀ request record, records.get request = some record → ValidRecord crates record

theorem validRecords_nil : ValidRecords crates [] := by
  intro request record h
  cases h

theorem ValidRecords.insert (h : ValidRecords crates records) (hrecord : ValidRecord crates record) :
    ValidRecords crates (records.insert record) := by
  intro request record' hget
  rw [Records.get_insert] at hget
  split at hget
  · cases hget
    exact hrecord
  · exact h request record' hget

/-- Receipts of one process are of the same records. -/
theorem receiptOf.of_sameProcess {prior : LaunchReceipt} (h : receiptOf record prior)
    (hsame : sameProcessBinding prior receipt) : receiptOf record receipt := by
  rw [sameProcessBinding_iff] at hsame
  rw [hsame] at h
  exact h

theorem receiptOf_of_verified (hrequest : record.request = request)
    (hidentity : record.identity.matchesPolicy policy)
    (h : verifyReceiptIdentity receipt request record.unit policy = .ok ()) :
    receiptOf record receipt := by
  rw [verifyReceiptIdentity, ensure_eq_ok] at h
  obtain ⟨hreq, hunit, hpid, htoken, hexe, hsha, huid, hgid, hbounding, hambient, hgroup⟩ := h
  rw [LaunchIdentity.matchesPolicy] at hidentity
  subst hrequest
  rw [receiptOf, hidentity]
  exact ⟨hreq, hunit, hexe, hsha, hpid, htoken, huid, hgid, hbounding, hambient, hgroup⟩

/-- What is appended to valid records is valid. -/
theorem Appends.valid (h : Appends crates records record) (hvalid : ValidRecords crates records) :
    ValidRecord crates record := by
  cases h with
  | reserved policy hrequest hbootstrap _ _ =>
    exact
      { request := hrequest
        bootstrap := hbootstrap
        job := rfl
        unit := rfl
        cancel := nofun
        pending := fun _ => rfl
        receipt := fun hstate => absurd rfl hstate }
  | bound hget hstate _ hjob =>
    have hprevious := hvalid _ _ hget
    exact { hprevious with job := forEach_eq_ok.mpr (by simpa using hjob) }
  | cancelled hget hstate _ => exact { hvalid _ _ hget with cancel := by simp }
  | committed hget _ hreceipt | cleanupBegun hget _ hreceipt =>
    exact { hvalid _ _ hget with
      pending := nofun
      receipt := fun _ => ⟨_, rfl, hreceipt⟩ }
  | stopBegun hget hstate hprior hsame =>
    obtain ⟨prior', hprior', hof⟩ := (hvalid _ _ hget).receipt (by simp [hstate])
    cases hprior.symm.trans hprior'
    exact { hvalid _ _ hget with
      cancel := nofun
      pending := nofun
      receipt := fun _ => ⟨_, rfl, hof.of_sameProcess hsame⟩ }
  | stopped hget hstate hprior hsame =>
    obtain ⟨prior', hprior', hof⟩ := (hvalid _ _ hget).receipt (by simp [hstate])
    cases hprior.symm.trans hprior'
    exact { hvalid _ _ hget with
      pending := nofun
      receipt := fun _ => ⟨_, rfl, hof.of_sameProcess hsame⟩ }

/-! ### What the operations decide -/

/-- What the intent to stop decides. -/
inductive DecidesStop (ledger : Ledger) (request : BrokerRequest) (receipt : LaunchReceipt) :
    Option LedgerRecord → Prop where
  | begun {previous prior : _} : ledger.records.get request = some previous →
      previous.state = .committed → previous.receipt = some prior →
      sameProcessBinding prior receipt → previous.unit = receipt.unit →
      DecidesStop ledger request receipt
        (some { previous with
          request := request
          unit := receipt.unit
          cancelRequested := none
          state := .stopPending
          receipt := some receipt })
  | already {previous prior : _} : ledger.records.get request = some previous →
      previous.state = .stopPending → previous.receipt = some prior →
      sameProcessBinding prior receipt → DecidesStop ledger request receipt none

/-- What an operation decides, with what it has checked: the record that it appends, or nothing
when there is such a record already. -/
inductive Decides (crates : Crates) (ledger : Ledger) : LedgerOp → Option LedgerRecord → Prop where
  | reserved {request policy bootstrap : _} : ledger.records.get request = none →
      forEach (·.validate request) bootstrap.toList = .ok () →
      ledger.records.length < maxLedgerRequests →
      ledger.records.countP (·.state ≠ .stopped) < maxActiveProcesses →
      Decides crates ledger (.reserve request policy bootstrap)
        (some (reservation crates request policy bootstrap))
  | alreadyReserved {request policy bootstrap previous : _} :
      ledger.records.get request = some previous → previous.identity.matchesPolicy policy →
      previous.state ≠ .stopped → Decides crates ledger (.reserve request policy bootstrap) none
  | bound {request policy job previous : _} : ledger.records.get request = some previous →
      previous.state = .pending → previous.job = none →
      job.validateForRequest crates request = .ok () →
      Decides crates ledger (.bindJob request policy job)
        (some { previous with request := request, job := some job })
  | alreadyBound {request policy job previous : _} : ledger.records.get request = some previous →
      Decides crates ledger (.bindJob request policy job) none
  | cancelled {request policy previous : _} : ledger.records.get request = some previous →
      previous.state = .pending → previous.cancelRequested ≠ some true →
      Decides crates ledger (.requestPendingStop request policy)
        (some { previous with request := request, cancelRequested := some true })
  | alreadyCancelled {request policy previous : _} : ledger.records.get request = some previous →
      previous.state = .pending → previous.cancelRequested = some true →
      Decides crates ledger (.requestPendingStop request policy) none
  | committed {request receipt previous : _} : ledger.records.get request = some previous →
      previous.state = .pending → previous.unit = receipt.unit →
      Decides crates ledger (.commit request receipt)
        (some { previous with
          request := request
          unit := receipt.unit
          state := .committed
          receipt := some receipt })
  | alreadyCommitted {request receipt previous : _} : ledger.records.get request = some previous →
      previous.state = .committed → Decides crates ledger (.commit request receipt) none
  | stop {request receipt r : _} :
      DecidesStop ledger request receipt r → Decides crates ledger (.beginStop request receipt) r
  | cleanup {request receipt policy r : _} : DecidesStop ledger request receipt r →
      Decides crates ledger (.beginFailedLaunchCleanup request receipt policy) r
  | cleanupBegun {request receipt policy previous : _} :
      ledger.records.get request = some previous → previous.state = .pending → previous.identity.matchesPolicy policy →
      verifyReceiptIdentity receipt request previous.unit policy = .ok () →
      Decides crates ledger (.beginFailedLaunchCleanup request receipt policy)
        (some { previous with
          request := request
          state := .stopPending
          receipt := some receipt })
  | stopped {request receipt previous prior : _} : ledger.records.get request = some previous →
      previous.receipt = some prior → previous.state = .stopPending →
      sameProcessBinding prior receipt →
      Decides crates ledger (.markStopped request receipt)
        (some { previous with
          request := request
          unit := receipt.unit
          state := .stopped
          receipt := some receipt })

variable {op : LedgerOp} {r : Option LedgerRecord}

theorem decidesStop_of_beginStop (h : ledger.beginStop request receipt = .ok r) :
    DecidesStop ledger request receipt r := by
  obtain ⟨-, previous, hget, h⟩ := check_lookup_eq_ok.mp h
  split at h
  next hstate =>
    obtain ⟨prior, hprior, h⟩ := bind_eq_ok.mp h
    obtain ⟨hsame, h⟩ := ensure_bind_eq_ok.mp h
    cases h
    exact .already hget hstate (orError_eq_ok.mp hprior) hsame
  next =>
    obtain ⟨hstate, h⟩ := ensure_bind_eq_ok.mp h
    obtain ⟨prior, hprior, h⟩ := bind_eq_ok.mp h
    obtain ⟨⟨hsame, hunit, -⟩, h⟩ := ensure_bind_eq_ok.mp h
    cases h
    exact .begun hget hstate (orError_eq_ok.mp hprior) hsame hunit

/-- **What the operations decide.** -/
theorem decides_of_decide (h : op.decide crates ledger = .ok r) : Decides crates ledger op r := by
  cases op with
  | reserve request policy bootstrap =>
    obtain ⟨-, h⟩ := check_bind_eq_ok.mp h
    obtain ⟨hbootstrap, h⟩ := check_bind_eq_ok.mp h
    split at h
    next record hget =>
      obtain ⟨⟨-, hidentity⟩, h⟩ := ensure_bind_eq_ok.mp h
      obtain ⟨-, h⟩ := ensure_bind_eq_ok.mp h
      obtain ⟨⟨-, hstate⟩, h⟩ := ensure_bind_eq_ok.mp h
      obtain ⟨-, h⟩ := ensure_bind_eq_ok.mp h
      cases h
      exact .alreadyReserved hget hidentity hstate
    next hget =>
      obtain ⟨hlength, h⟩ := ensure_bind_eq_ok.mp h
      obtain ⟨hroom, h⟩ := ensure_bind_eq_ok.mp h
      cases h
      exact .reserved hget hbootstrap hlength hroom
  | bindJob request policy job =>
    obtain ⟨-, h⟩ := check_bind_eq_ok.mp h
    obtain ⟨hjob, previous, hget, h⟩ := check_lookup_eq_ok.mp h
    obtain ⟨-, h⟩ := ensure_bind_eq_ok.mp h
    split at h
    next =>
      obtain ⟨-, h⟩ := ensure_bind_eq_ok.mp h
      cases h
      exact .alreadyBound hget
    next hnone =>
      obtain ⟨hstate, h⟩ := ensure_bind_eq_ok.mp h
      cases h
      exact .bound hget hstate hnone hjob
  | requestPendingStop request policy =>
    obtain ⟨-, previous, hget, h⟩ := check_lookup_eq_ok.mp h
    obtain ⟨hstate, h⟩ := ensure_bind_eq_ok.mp h
    obtain ⟨-, h⟩ := ensure_bind_eq_ok.mp h
    split at h
    next hcancel =>
      cases h
      exact .alreadyCancelled hget hstate hcancel
    next hcancel =>
      cases h
      exact .cancelled hget hstate hcancel
  | commit request receipt =>
    obtain ⟨-, previous, hget, h⟩ := check_lookup_eq_ok.mp h
    obtain ⟨hstates, h⟩ := ensure_bind_eq_ok.mp h
    obtain ⟨⟨hunit, -⟩, h⟩ := ensure_bind_eq_ok.mp h
    split at h
    next hstate =>
      obtain ⟨prior, -, h⟩ := bind_eq_ok.mp h
      obtain ⟨-, h⟩ := ensure_bind_eq_ok.mp h
      cases h
      exact .alreadyCommitted hget hstate
    next hcommitted =>
      have hstate : previous.state = .pending := by
        revert hcommitted hstates
        cases previous.state <;> decide
      cases h
      exact .committed hget hstate hunit
  | beginStop request receipt => exact .stop (decidesStop_of_beginStop h)
  | beginFailedLaunchCleanup request receipt policy =>
    obtain ⟨-, previous, hget, h⟩ := check_lookup_eq_ok.mp h
    split at h
    next => exact .cleanup (decidesStop_of_beginStop h)
    next hstate =>
      obtain ⟨⟨hidentity, -⟩, h⟩ := ensure_bind_eq_ok.mp h
      obtain ⟨hverified, h⟩ := check_bind_eq_ok.mp h
      cases h
      exact .cleanupBegun hget (not_ne_iff.mp hstate) hidentity hverified
  | markStopped request receipt =>
    obtain ⟨-, previous, hget, h⟩ := check_lookup_eq_ok.mp h
    obtain ⟨prior, hprior, h⟩ := orError_bind.mp h
    obtain ⟨⟨hstate, hsame⟩, h⟩ := ensure_bind_eq_ok.mp h
    cases h
    exact .stopped hget hprior hstate hsame

theorem DecidesStop.appends (h : DecidesStop ledger request receipt (some record)) :
    Appends crates ledger.records record := by
  cases h with
  | begun hget hstate hprior hsame hunit =>
    cases Records.request_of_get hget
    rw [← hunit]
    exact .stopBegun hget hstate hprior hsame

/-- **What the operations append.** -/
theorem appends_of_decide (hvalid : ValidRecords crates ledger.records)
    (hadmitted : Admitted crates ledger op) (h : op.decide crates ledger = .ok (some record)) :
    Appends crates ledger.records record := by
  cases decides_of_decide h with
  | reserved hget hbootstrap hlength hroom => exact .reserved _ hadmitted hbootstrap hget hlength
  | bound hget hstate hnone hjob =>
    cases Records.request_of_get hget
    exact .bound hget hstate hnone hjob
  | cancelled hget hstate hcancel =>
    cases Records.request_of_get hget
    exact .cancelled hget hstate hcancel
  | @committed request receipt previous hget hstate hunit =>
    obtain ⟨policy, hidentity, hverified⟩ := hadmitted previous hget
    cases Records.request_of_get hget
    rw [← (hvalid _ _ hget).unit] at hverified
    rw [← hunit]
    exact .committed hget hstate (receiptOf_of_verified rfl hidentity hverified)
  | stop h | cleanup h => exact h.appends
  | cleanupBegun hget hstate hidentity hverified =>
    cases Records.request_of_get hget
    exact .cleanupBegun hget hstate (receiptOf_of_verified rfl hidentity hverified)
  | @stopped request receipt previous prior hget hprior hstate hsame =>
    cases Records.request_of_get hget
    obtain ⟨prior', hprior', hof⟩ := (hvalid _ _ hget).receipt (by simp [hstate])
    cases hprior.symm.trans hprior'
    have hunit : receipt.unit = previous.unit := (hof.of_sameProcess hsame).2.1
    rw [hunit]
    exact .stopped hget hstate hprior hsame

/-! ### What an operation leaves -/

/-- The request that an operation is about. -/
def LedgerOp.subject : LedgerOp → BrokerRequest
  | .reserve request _ _ | .bindJob request _ _ | .requestPendingStop request _
  | .commit request _ | .beginStop request _ | .beginFailedLaunchCleanup request _ _
  | .markStopped request _ => request

/-- What holds of the record of the request after an operation. -/
def LedgerOp.Ensures : LedgerOp → LedgerRecord → Prop
  | .reserve _ policy _, record =>
    record.identity.matchesPolicy policy ∧ record.state ≠ .stopped
  | .bindJob _ _ _, _ => True
  | .requestPendingStop _ _, record =>
    record.state = .pending ∧ record.cancelRequested = some true
  | .commit _ _, record => record.state = .committed
  | .beginStop _ receipt, record | .beginFailedLaunchCleanup _ receipt _, record =>
    record.state = .stopPending ∧
      ∃ prior, record.receipt = some prior ∧ sameProcessBinding prior receipt
  | .markStopped _ receipt, record => record.state = .stopped ∧ record.receipt = some receipt

/-- The operations ask for a healthy ledger first. -/
theorem healthy_of_decide (h : op.decide crates ledger = .ok r) :
    ledger.poisoned = false := by
  have hhealthy : ledger.ensureHealthy = .ok () := by
    cases op <;> exact (check_bind_eq_ok.mp h).1
  exact ensure_eq_ok.mp hhealthy

theorem DecidesStop.ensures (h : DecidesStop ledger request receipt r) :
    (r = none → ∃ record, ledger.records.get request = some record ∧
        (LedgerOp.beginStop request receipt).Ensures record) ∧
      ∀ record, r = some record → record.request = request ∧
        (LedgerOp.beginStop request receipt).Ensures record := by
  cases h with
  | already hget hstate hprior hsame =>
    exact ⟨fun _ => ⟨_, hget, hstate, _, hprior, hsame⟩, fun _ h => by cases h⟩
  | begun =>
    refine ⟨fun h => by (cases h), ?_⟩
    rintro record ⟨⟩
    exact ⟨rfl, rfl, receipt, rfl, sameProcessBinding_refl receipt⟩

/-- **What an operation leaves**, in the record that was there or in the one that it appends. -/
theorem ensures_of_decide (h : op.decide crates ledger = .ok r) :
    (r = none → ∃ record, ledger.records.get op.subject = some record ∧ op.Ensures record) ∧
      ∀ record, r = some record → record.request = op.subject ∧ op.Ensures record := by
  cases decides_of_decide h with
  | alreadyReserved hget hidentity hstate =>
    exact ⟨fun _ => ⟨_, hget, hidentity, hstate⟩, fun _ h => by cases h⟩
  | alreadyBound hget => exact ⟨fun _ => ⟨_, hget, trivial⟩, fun _ h => by cases h⟩
  | alreadyCancelled hget hstate hcancel =>
    exact ⟨fun _ => ⟨_, hget, hstate, hcancel⟩, fun _ h => by cases h⟩
  | alreadyCommitted hget hstate => exact ⟨fun _ => ⟨_, hget, hstate⟩, fun _ h => by cases h⟩
  | stop h | cleanup h => exact h.ensures
  | cancelled _ hstate _ =>
    refine ⟨fun h => by (cases h), ?_⟩
    rintro record ⟨⟩
    exact ⟨rfl, hstate, rfl⟩
  | cleanupBegun =>
    refine ⟨fun h => by (cases h), ?_⟩
    rintro record ⟨⟩
    exact ⟨rfl, rfl, _, rfl, sameProcessBinding_refl _⟩
  | reserved | bound | committed | stopped =>
    refine ⟨fun h => by (cases h), ?_⟩
    rintro record ⟨⟩
    simp [LedgerOp.Ensures, LedgerOp.subject, reservation, LaunchIdentity.matchesPolicy]

/-- The records that may still own a process. -/
def LedgerRecord.unresolved (record : LedgerRecord) : Bool :=
  record.state ≠ .stopped

/-- A record of a new request is appended only while there is room for its process. -/
theorem room_of_decide (h : op.decide crates ledger = .ok (some record))
    (hnone : ledger.records.get record.request = none) :
    ledger.records.countP LedgerRecord.unresolved < maxActiveProcesses := by
  have hsubject := ((ensures_of_decide h).2 record rfl).1
  rw [hsubject] at hnone
  cases decides_of_decide h with
  | reserved _ _ _ hroom => exact hroom
  | bound hget | cancelled hget | committed hget | cleanupBegun hget | stopped hget =>
    cases hnone.symm.trans hget
  | stop h | cleanup h =>
    cases h with
    | begun hget => cases hnone.symm.trans hget

/-- Only the end of a stop appends a stopped record. -/
theorem unresolved_of_decide (hop : ∀ request receipt, op ≠ .markStopped request receipt)
    (h : op.decide crates ledger = .ok (some record)) : record.state ≠ .stopped := by
  cases decides_of_decide h with
  | bound _ hstate | cancelled _ hstate => simp [hstate]
  | reserved | committed | cleanupBegun => simp [reservation]
  | stop h | cleanup h =>
    cases h with
    | begun => nofun
  | stopped => exact absurd rfl (hop _ _)

/-! ### The order of states -/

/-- How far a request has come. -/
def LedgerState.rank : LedgerState → Nat
  | .pending => 0
  | .committed => 1
  | .stopPending => 2
  | .stopped => 3

theorem LedgerState.eq_of_rank_eq {a b : LedgerState} (h : a.rank = b.rank) : a = b := by
  revert h
  cases a <;> cases b <;> decide

/-- A record that is not pending comes after the ones before it. -/
theorem Appends.rank_lt (h : Appends crates records record)
    (hget : records.get record.request = some previous) :
    previous.state.rank < record.state.rank ∨
      (previous.state = .pending ∧ record.state = .pending) := by
  cases h with
  | reserved policy _ _ hnone _ => cases hnone.symm.trans hget
  | bound hget' hstate _ _ | cancelled hget' hstate _ =>
    cases hget'.symm.trans hget
    exact .inr ⟨hstate, hstate⟩
  | committed hget' hstate _ | stopBegun hget' hstate _ _ | cleanupBegun hget' hstate _
  | stopped hget' hstate _ _ =>
    cases hget'.symm.trans hget
    rw [hstate]
    exact .inl (by simp [LedgerState.rank])

/-- Nothing follows the end of a stop. -/
theorem Appends.not_stopped (h : Appends crates records record)
    (hget : records.get record.request = some previous) : previous.state ≠ .stopped := by
  intro hstopped
  have hrank := h.rank_lt hget
  rw [hstopped] at hrank
  obtain hlt | ⟨hpending, -⟩ := hrank
  · revert hlt
    cases record.state <;> decide
  · cases hpending

end AscensionWatchdog.Broker
