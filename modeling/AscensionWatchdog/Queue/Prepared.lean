import AscensionWatchdog.Queue.Writes
import AscensionWatchdog.Storage.Identities

/-!
# The rows that a claim inserts

A handoff claim has checked its witness and the job it takes, and generates five identities. The
three rows that it writes from them load (`claimed_rowsLoad`): every column is within its bound,
and the handoff, its attempt and its job name each other.

The bounds of the reader are on bytes, so most of the work is the size of the texts: a worker
identity has at most 128 bytes, and the lineage of an attempt is a job id and a numeral.
-/

namespace AscensionWatchdog

open Foundation Foundation.Json

variable {crates : Crates}

/-! ### Worker identities and lineages -/

/-- The characters of a worker identity are printable. -/
private theorem isWorkerIdentityChar_printable {c : Char} (h : isWorkerIdentityChar c = true) :
    32 ≤ c.toNat ∧ c.toNat < 127 := by
  simp only [isWorkerIdentityChar, Bool.or_eq_true, beq_iff_eq, Char.isAlphanum, Char.isAlpha,
    Char.isUpper, Char.isLower, Char.isDigit, Bool.and_eq_true, decide_eq_true_eq, ge_iff_le,
    UInt32.le_iff_toNat_le] at h
  rcases h with ((((h | h) | h) | rfl) | rfl) | rfl
  · have h : 65 ≤ c.toNat ∧ c.toNat ≤ 90 := h
    omega
  · have h : 97 ≤ c.toNat ∧ c.toNat ≤ 122 := h
    omega
  · have h : 48 ≤ c.toNat ∧ c.toNat ≤ 57 := h
    omega
  all_goals decide

/-- A worker identity is a name. -/
theorem isName_of_isWorkerIdentity {value : String} (h : isWorkerIdentity value = true) :
    isName value 128 = true := by
  simp only [isWorkerIdentity, Bool.and_eq_true, List.all_eq_true] at h
  obtain ⟨⟨hne, hsize⟩, hchars⟩ := h
  have hprintable : ∀ c ∈ value.toList, 32 ≤ c.toNat ∧ c.toNat < 127 := fun c hc =>
    isWorkerIdentityChar_printable (hchars c hc)
  have hnul : containsNul value = false := containsNul_of_pos fun c hc => by
    have hc := hprintable c hc
    omega
  have hcontrol : value.toList.any isControl = false := by
    refine List.any_eq_false.mpr fun c hc => ?_
    have hc := hprintable c hc
    simp only [isControl, Bool.or_eq_true, Bool.and_eq_true, decide_eq_true_eq]
    omega
  simp only [isName, hne, hsize, hnul, hcontrol, Bool.not_false, Bool.and_self]

/-- The lineage of an attempt, with a job id that is a name. -/
theorem attemptLineage_bounds {jobId : String} {attemptNumber : Nat}
    (hjob : isName jobId 128 = true) (hnumber : attemptNumber < 2 ^ 32) :
    (attemptLineage jobId attemptNumber).utf8ByteSize ≤ 256 ∧
      containsNul (attemptLineage jobId attemptNumber) = false := by
  have htext : attemptLineage jobId attemptNumber = jobId ++ ":" ++ toString attemptNumber := rfl
  have hsize := isName_size hjob
  have hdigits : (toString attemptNumber).utf8ByteSize ≤ 10 :=
    utf8ByteSize_toString_le (by decide) (by omega)
  rw [htext]
  constructor
  · rw [String.utf8ByteSize_append, String.utf8ByteSize_append]
    have hcolon : ":".utf8ByteSize = 1 := rfl
    omega
  · simp only [isName, Bool.and_eq_true, Bool.not_eq_true'] at hjob
    rw [containsNul_append, containsNul_append, hjob.1.2, containsNul_numeral]
    rfl

/-! ### The handoff row -/

/-- What a validated claim witness is. -/
structure WorkerClaimWitness.Valid (witness : WorkerClaimWitness) : Prop where
  deploymentId : isWorkerIdentity witness.deploymentId = true
  workerOwnerId : isWorkerIdentity witness.workerOwnerId = true
  workerProfileDigest : isDigest witness.workerProfileDigest = true
  watchdogBootId : isCanonicalUuid4 witness.watchdogBootId = true
  workerBootId : isCanonicalUuid4 witness.workerBootId = true
  distinct : witness.watchdogBootId ≠ witness.workerBootId
  modeSequence : isWireSequence witness.modeSequence = true

theorem validateClaimWitness_eq_ok {witness : WorkerClaimWitness}
    (h : validateClaimWitness witness = .ok ()) : witness.Valid := by
  simp only [validateClaimWitness, bind_eq_ok, exists_const, forEach_eq_ok, List.forall_mem_cons,
    validateDigestValue_eq_ok, validateUuid4_eq_ok, validateWorkerIdentity, ensure_eq_ok] at h
  obtain ⟨hdeployment, howner, ⟨hprofile, -⟩, hwatchdog, hworker, hdistinct, hsequence⟩ := h
  exact ⟨hdeployment, howner, hprofile, hwatchdog, hworker, hdistinct, hsequence⟩

variable {bound now : Nat} {witness : WorkerClaimWitness} {ids : HandoffIds} {j : JobRow}

/-- The identity columns of a prepared handoff pass the reader. -/
private theorem identity_prepared (hwitness : witness.Valid) (hid : isName j.id 128 = true)
    (hdigest : j.payloadDigest = workerHandoffPayloadDigest)
    (hcounter : j.attemptCount + 1 < 2 ^ 32) :
    validateHandoffIdentity crates (preparedHandoff witness ids j emptyParameters
      (j.attemptCount + 1) witness.modeSequence now) = .ok emptyParameters := by
  have hparameters : emptyParameters.render = "\x7b\x7d" := rfl
  simp only [validateHandoffIdentity, bind_eq_ok, exists_const, forEach_eq_ok,
    List.forall_mem_cons, requiredText_eq_ok, ensure_eq_ok, toSqliteError_eq_ok,
    parseStored_eq_ok, sqliteU32_eq_ok, validateUuid4_eq_ok, validateDigestValue_eq_ok,
    pure_eq_ok, preparedHandoff, hparameters, hdigest, validateTuple, HandoffRow.tuple,
    validateWorkerIdentity, validateName_eq_ok, UuidV4.size]
  have hpayload : isDigest workerHandoffPayloadDigest = true := by decide +kernel
  have hsizes : witness.deploymentId.utf8ByteSize ≤ 128 ∧ witness.workerOwnerId.utf8ByteSize ≤ 128 :=
    ⟨isName_size (isName_of_isWorkerIdentity hwitness.deploymentId),
      isName_size (isName_of_isWorkerIdentity hwitness.workerOwnerId)⟩
  have hboots : witness.watchdogBootId.utf8ByteSize ≤ 36 ∧ witness.workerBootId.utf8ByteSize ≤ 36 :=
    ⟨(isCanonicalUuid4_size hwitness.watchdogBootId).le,
      (isCanonicalUuid4_size hwitness.workerBootId).le⟩
  exact ⟨⟨le_rfl, hsizes.1, isName_size hid, le_rfl, hsizes.2,
      (isDigest_size hwitness.workerProfileDigest).le, le_rfl, le_rfl, le_rfl,
      (isDigest_size hpayload).le, hboots.1, hboots.2, by decide +kernel, nofun⟩,
    trivial, by decide +kernel, trivial, emptyParameters, crates.fromStr_empty, rfl, _,
    ⟨hcounter, rfl⟩,
    ⟨⟨ids.handoffId.canonical, ids.attemptId.canonical, ids.runId.canonical,
      ids.episodeId.canonical, ids.trajectoryId.canonical, nofun⟩, hwitness.deploymentId, hid,
      by omega, hwitness.workerOwnerId, hwitness.workerProfileDigest, hpayload, trivial,
      ids.distinct⟩,
    hwitness.watchdogBootId, hwitness.workerBootId, hwitness.distinct,
    hwitness.workerProfileDigest, hpayload, hwitness.modeSequence, rfl⟩

/-- A prepared handoff can be read. -/
theorem readable_prepared (hwitness : witness.Valid) (hid : isName j.id 128 = true)
    (hdigest : j.payloadDigest = workerHandoffPayloadDigest)
    (hcounter : j.attemptCount + 1 < 2 ^ 32) :
    (preparedHandoff witness ids j emptyParameters (j.attemptCount + 1) witness.modeSequence
      now).Readable crates none where
  identity := identity_prepared hwitness hid hdigest hcounter
  receipt := rfl
  created := le_rfl
  times := by simp [HandoffRow.transitionTimes, preparedHandoff]
  present := ⟨rfl, rfl⟩
  columns := rfl
  admission := by simp [outOfOrder, preparedHandoff]
  ended := by simp [outOfOrder, preparedHandoff]
  acknowledgment := by simp [outOfOrder, preparedHandoff]
  evidence := nofun

/-! ### The job and the attempt -/

/-- The attempt that a claim inserts can be read. -/
theorem readable_claimedAttempt {workerId : String} {attemptNumber : Nat} (attemptId : UuidV4)
    (hid : isName j.id 128 = true) (hnumber : attemptNumber < 2 ^ 32)
    (hworker : isName workerId 128 = true) :
    (claimedAttempt attemptId.text j.id attemptNumber now workerId).Readable := by
  obtain ⟨hsize, hnul⟩ := attemptLineage_bounds hid hnumber
  refine ⟨?_, isName_size hid, hsize, hnul, ?_, hnumber, by simp [outOfOrder, claimedAttempt]⟩
  · have hid := attemptId.size
    simp only [claimedAttempt]
    omega
  · rintro w ⟨⟩
    exact hworker

/-- The row of a claimed job can be read. -/
theorem readable_claimHandoff (hepisode : ClaimsEpisode crates bound witness now j)
    (hlastError : ∀ e ∈ j.lastError, e.utf8ByteSize ≤ 16384 ∧ containsNul e = false)
    (hresult : j.completedAtMs = none ∧ j.result = none ∧ j.completionDigest = none) :
    (j.claimHandoff now witness.workerOwnerId (j.attemptCount + 1)).Readable crates bound := by
  obtain ⟨hcompleted, hnone, hdigest⟩ := hresult
  have hwitness := validateClaimWitness_eq_ok hepisode.witness
  have hkind : isName workerHandoffOperation 128 = true := by decide +kernel
  have hpayloadDigest : isDigest workerHandoffPayloadDigest = true := by decide +kernel
  have hcreated := hepisode.created
  exact {
    id := hepisode.id
    kind := hepisode.kind ▸ hkind
    payloadSize := hepisode.payloadSize
    payloadDigest := hepisode.payloadDigest ▸ hpayloadDigest
    payloadHash := hepisode.payloadHash
    payload := Option.isSome_iff_exists.mpr ⟨_, hepisode.payload⟩
    lastError := hlastError
    workerId := by
      rintro w ⟨⟩
      exact isName_of_isWorkerIdentity hwitness.workerOwnerId
    evidence := by simp [JobRow.claimHandoff, JobRow.claim, hnone, hdigest]
    result := by
      simp [JobRow.resultText, projectText, JobRow.claimHandoff, JobRow.claim, hnone]
    times := by simp [outOfOrder, JobRow.claimHandoff, JobRow.claim, hcompleted, hcreated]
    retry := .inr rfl
    running := fun _ => rfl
    completed := by simp [JobRow.claimHandoff, JobRow.claim]
    attemptCount := hepisode.counter }

/-- The rows that a handoff claim writes load. -/
theorem claimed_rowsLoad (hepisode : ClaimsEpisode crates bound witness now j)
    (hlastError : ∀ e ∈ j.lastError, e.utf8ByteSize ≤ 16384 ∧ containsNul e = false)
    (hresult : j.completedAtMs = none ∧ j.result = none ∧ j.completionDigest = none) :
    RowsLoad crates bound
      (preparedHandoff witness ids j emptyParameters (j.attemptCount + 1) witness.modeSequence now)
      (j.claimHandoff now witness.workerOwnerId (j.attemptCount + 1))
      (claimedAttempt ids.attemptId.text j.id (j.attemptCount + 1) now witness.workerOwnerId) := by
  have hwitness := validateClaimWitness_eq_ok hepisode.witness
  have howner := isName_of_isWorkerIdentity hwitness.workerOwnerId
  refine rowsLoad_iff.mpr ⟨none,
    readable_prepared hwitness hepisode.id hepisode.payloadDigest hepisode.counter,
    readable_claimHandoff hepisode hlastError hresult,
    readable_claimedAttempt ids.attemptId hepisode.id hepisode.counter howner, ?_⟩
  refine ⟨⟨rfl, rfl, rfl, rfl, rfl, rfl⟩,
    ⟨rfl, hepisode.kind, rfl, hepisode.payload, rfl, rfl⟩, fun _ => ?_, nofun⟩
  exact ⟨.inl rfl, hresult.2, fun _ => ⟨rfl, rfl⟩,
    by simp [JobRow.claimHandoff, JobRow.claim], rfl⟩

end AscensionWatchdog
