import AscensionWatchdog.Queue.Readable

/-!
# When a handoff loads

Loading a handoff reads three rows and relates them. `RowsLoad` is that check as a property of
the three rows alone, so that what a write does to a handoff can be decided without looking at
the rest of the store. `loads_iff` connects it with the reader: a handoff loads exactly when its
job and its attempt exist and the three rows pass. `rowsLoad_iff` says what they have to pass:
each of them is readable, and they are related.
-/

namespace AscensionWatchdog

open Foundation Foundation.Json

/-- The rows of a handoff, its job and its attempt pass every check of the reader. -/
def RowsLoad (crates : Crates) (bound : Nat) (h : HandoffRow) (j : JobRow) (a : AttemptRow) :
    Prop :=
  ∃ raw job completionDigest attempt,
    rawHandoffFromRow crates h = .ok raw ∧
      boundedJobFromRow crates bound j = .ok (job, completionDigest) ∧
      rawAttemptFromRow a = .ok attempt ∧
      validateHandoffJob crates raw job attempt completionDigest = .ok ()

/-- The handoff can be read back. -/
def Store.Loads (crates : Crates) (s : Store) (handoffId : String) : Prop :=
  ∃ handoff, loadHandoff crates s handoffId = .ok (some handoff)

instance (crates : Crates) (s : Store) (handoffId : String) :
    Decidable (s.Loads crates handoffId) :=
  match h : loadHandoff crates s handoffId with
  | .ok (some handoff) => isTrue ⟨handoff, h⟩
  | .ok none => isFalse fun ⟨_, h'⟩ => by simp [h] at h'
  | .error _ => isFalse fun ⟨_, h'⟩ => by simp [h] at h'

/-- Every handoff of the store can be read back. -/
def Store.AllLoad (crates : Crates) (s : Store) : Prop :=
  ∀ h ∈ s.handoffs, s.Loads crates h.handoffId

instance (crates : Crates) (s : Store) : Decidable (s.AllLoad crates) :=
  inferInstanceAs (Decidable (∀ h ∈ s.handoffs, s.Loads crates h.handoffId))

section

variable {crates : Crates} {s : Store}

theorem rawHandoffFromRow_row {h : HandoffRow} {raw : RawHandoff}
    (hraw : rawHandoffFromRow crates h = .ok raw) : raw.row = h := by
  obtain ⟨terminal, -, rfl⟩ := rawHandoffFromRow_eq_ok.mp hraw
  rfl

/-- The rows of a handoff load exactly when each of them is readable and they are related. -/
theorem rowsLoad_iff {bound : Nat} {h : HandoffRow} {j : JobRow} {a : AttemptRow} :
    RowsLoad crates bound h j a ↔
      ∃ terminal, h.Readable crates terminal ∧ j.Readable crates bound ∧ a.Readable ∧
        Related crates h terminal j a := by
  constructor
  · rintro ⟨raw, job, digest, attempt, hraw, hjob, hattempt, hvalid⟩
    obtain ⟨terminal, hh, rfl⟩ := rawHandoffFromRow_eq_ok.mp hraw
    obtain ⟨hj, rfl, payload, hpayload, rfl⟩ := boundedJobFromRow_eq_ok.mp hjob
    obtain ⟨ha, rfl⟩ := rawAttemptFromRow_eq_ok.mp hattempt
    exact ⟨terminal, hh, hj, ha, (validateHandoffJob_eq_ok hh hj hpayload).mp hvalid⟩
  · rintro ⟨terminal, hh, hj, ha, hrelated⟩
    obtain ⟨payload, hpayload⟩ := Option.isSome_iff_exists.mp hj.payload
    exact ⟨_, _, _, _, rawHandoffFromRow_eq_ok.mpr ⟨terminal, hh, rfl⟩,
      boundedJobFromRow_eq_ok.mpr ⟨hj, rfl, payload, hpayload, rfl⟩,
      rawAttemptFromRow_eq_ok.mpr ⟨ha, rfl⟩, (validateHandoffJob_eq_ok hh hj hpayload).mpr hrelated⟩

theorem loadJobTx_eq_ok {jobId : String} {x : Option (JobRecord × Option String)} :
    loadJobTx crates s jobId = .ok x ↔
      s.maxPayloadBytes < 2 ^ 63 ∧
        (lookup JobRow.id jobId s.jobs).mapM (boundedJobFromRow crates s.maxPayloadBytes) =
          .ok x :=
  ensure_bind_eq_ok

theorem consistentJob_eq_ok {raw : RawHandoff} :
    (∃ job, consistentJob crates s raw = .ok job) ↔
      ∃ j a job completionDigest attempt,
        s.maxPayloadBytes < 2 ^ 63 ∧ lookup JobRow.id raw.row.jobId s.jobs = some j ∧
          boundedJobFromRow crates s.maxPayloadBytes j = .ok (job, completionDigest) ∧
          lookup AttemptRow.id raw.row.attemptId s.attempts = some a ∧
          rawAttemptFromRow a = .ok attempt ∧
          validateHandoffJob crates raw job attempt completionDigest = .ok () := by
  constructor
  · rintro ⟨job, h⟩
    obtain ⟨job?, hjob, h⟩ := bind_eq_ok.mp h
    obtain ⟨⟨job', digest⟩, hsome, h⟩ := orError_bind.mp h
    obtain ⟨attempt?, hattempt, h⟩ := bind_eq_ok.mp h
    obtain ⟨attempt, hsome', h⟩ := orError_bind.mp h
    obtain ⟨⟨⟩, hvalid, _⟩ := bind_eq_ok.mp h
    cases hsome
    cases hsome'
    obtain ⟨hbound, hjob⟩ := loadJobTx_eq_ok.mp hjob
    obtain ⟨j, hj, hjob⟩ := mapM_eq_ok_some.mp hjob
    obtain ⟨a, ha, hattempt⟩ := mapM_eq_ok_some.mp hattempt
    exact ⟨j, a, job', digest, attempt, hbound, hj, hjob, ha, hattempt, hvalid⟩
  · rintro ⟨j, a, job, digest, attempt, hbound, hj, hjob, ha, hattempt, hvalid⟩
    refine ⟨job, bind_eq_ok.mpr ⟨_, loadJobTx_eq_ok.mpr ⟨hbound, mapM_eq_ok_some.mpr ⟨j, hj, hjob⟩⟩,
      bind_eq_ok.mpr ⟨_, orError_eq_ok.mpr rfl, bind_eq_ok.mpr
        ⟨_, mapM_eq_ok_some.mpr ⟨a, ha, hattempt⟩, ?_⟩⟩⟩⟩
    exact bind_eq_ok.mpr ⟨_, orError_eq_ok.mpr rfl, bind_eq_ok.mpr ⟨(), hvalid, rfl⟩⟩

/-- A decoded handoff whose job is consistent: the three rows load. -/
theorem consistentJob_rowsLoad {h : HandoffRow} {raw : RawHandoff}
    (hraw : rawHandoffFromRow crates h = .ok raw) :
    (∃ job, consistentJob crates s raw = .ok job) ↔
      ∃ j a, s.maxPayloadBytes < 2 ^ 63 ∧ lookup JobRow.id h.jobId s.jobs = some j ∧
        lookup AttemptRow.id h.attemptId s.attempts = some a ∧
        RowsLoad crates s.maxPayloadBytes h j a := by
  have hrow := rawHandoffFromRow_row hraw
  rw [consistentJob_eq_ok, hrow]
  constructor
  · rintro ⟨j, a, job, digest, attempt, hbound, hj, hjob, ha, hattempt, hvalid⟩
    exact ⟨j, a, hbound, hj, ha, raw, job, digest, attempt, hraw, hjob, hattempt, hvalid⟩
  · rintro ⟨j, a, hbound, hj, ha, raw', job, digest, attempt, hraw', hjob, hattempt, hvalid⟩
    cases hraw.symm.trans hraw'
    exact ⟨j, a, job, digest, attempt, hbound, hj, hjob, ha, hattempt, hvalid⟩

/-- What a transition knows of the handoff it is asked for. -/
theorem requireHandoffTx_eq_ok {tuple : WorkerHandoffTuple} {raw : RawHandoff}
    (h : requireHandoffTx crates s tuple = .ok raw) :
    lookup HandoffRow.handoffId tuple.handoffId s.handoffs = some raw.row ∧
      rawHandoffFromRow crates raw.row = .ok raw ∧
      ∃ j a, lookup JobRow.id raw.row.jobId s.jobs = some j ∧
        lookup AttemptRow.id raw.row.attemptId s.attempts = some a ∧
        RowsLoad crates s.maxPayloadBytes raw.row j a := by
  unfold requireHandoffTx at h
  cases hlookup : lookup HandoffRow.handoffId tuple.handoffId s.handoffs with
  | none =>
    rw [hlookup] at h
    dsimp only at h
    split at h <;> cases h
  | some row =>
    rw [hlookup] at h
    obtain ⟨raw', hraw, h⟩ := bind_eq_ok.mp h
    obtain ⟨job, hjob, h⟩ := bind_eq_ok.mp h
    cases pure_eq_ok.mp h
    obtain ⟨j, a, -, hj, ha, hload⟩ := (consistentJob_rowsLoad hraw).mp ⟨job, hjob⟩
    rw [rawHandoffFromRow_row hraw]
    exact ⟨rfl, hraw, j, a, hj, ha, hload⟩

/-- A handoff loads exactly when its rows exist and pass the checks of the reader. -/
theorem loads_iff {handoffId : String} :
    s.Loads crates handoffId ↔
      ∃ h j a, s.maxPayloadBytes < 2 ^ 63 ∧
        lookup HandoffRow.handoffId handoffId s.handoffs = some h ∧
        lookup JobRow.id h.jobId s.jobs = some j ∧
        lookup AttemptRow.id h.attemptId s.attempts = some a ∧
        RowsLoad crates s.maxPayloadBytes h j a := by
  unfold Store.Loads loadHandoff
  cases hlookup : lookup HandoffRow.handoffId handoffId s.handoffs with
  | none => simp [pure_eq_ok]
  | some row =>
    constructor
    · rintro ⟨handoff, h⟩
      obtain ⟨raw, hraw, h⟩ := bind_eq_ok.mp h
      obtain ⟨handoff', hhandoff, -⟩ := bind_eq_ok.mp h
      obtain ⟨job, hjob, -⟩ := bind_eq_ok.mp hhandoff
      obtain ⟨j, a, hbound, hj, ha, hload⟩ := (consistentJob_rowsLoad hraw).mp ⟨job, hjob⟩
      exact ⟨row, j, a, hbound, rfl, hj, ha, hload⟩
    · rintro ⟨h, j, a, hbound, hrow, hj, ha, hload⟩
      cases hrow
      obtain ⟨raw, -, -, -, hraw, -⟩ := id hload
      obtain ⟨job, hjob⟩ := (consistentJob_rowsLoad hraw).mpr ⟨j, a, hbound, hj, ha, hload⟩
      exact ⟨_, bind_eq_ok.mpr ⟨raw, hraw, bind_eq_ok.mpr
        ⟨_, bind_eq_ok.mpr ⟨job, hjob, rfl⟩, rfl⟩⟩⟩

/-- All handoffs of keyed tables load exactly when the rows of each of them do. -/
theorem allLoad_iff (hs : s.queue.Keyed) :
    s.AllLoad crates ↔ ∀ h ∈ s.handoffs, ∃ j a, s.maxPayloadBytes < 2 ^ 63 ∧
      lookup JobRow.id h.jobId s.jobs = some j ∧
      lookup AttemptRow.id h.attemptId s.attempts = some a ∧
      RowsLoad crates s.maxPayloadBytes h j a := by
  refine forall₂_congr fun h hh => ?_
  have hlookup : lookup HandoffRow.handoffId h.handoffId s.handoffs = some h :=
    (lookup_eq_some hs.handoffIds).mpr ⟨hh, rfl⟩
  rw [loads_iff]
  constructor
  · rintro ⟨h', j, a, hbound, hh', hj, ha, hload⟩
    obtain rfl := Option.some.inj (hlookup.symm.trans hh')
    exact ⟨j, a, hbound, hj, ha, hload⟩
  · rintro ⟨j, a, hbound, hj, ha, hload⟩
    exact ⟨h, j, a, hbound, hlookup, hj, ha, hload⟩

/-- The attempt of a handoff that loads belongs to the job of the handoff. -/
theorem RowsLoad.attempt_jobId {bound : Nat} {h : HandoffRow} {j : JobRow} {a : AttemptRow}
    (hload : RowsLoad crates bound h j a) : a.jobId = h.jobId := by
  obtain ⟨terminal, -, -, -, hrelated⟩ := rowsLoad_iff.mp hload
  exact hrelated.attempt.2.1

end

end AscensionWatchdog
