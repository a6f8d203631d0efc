import AscensionWatchdog.Ledger.Replay

/-!
# The release selector

The selector is one record, `ReleaseSelection`, spread over twelve metadata keys. `Encodes` says
which keys a record is written to; a read returns a record exactly when the metadata encode it
(`readSelection_eq_ok`). The three writes of the selector are functions on records:

* a preparation sets the pending marker and keeps both releases;
* a completion makes the marked release the active one and the release that was active the
  previous one;
* a restore clears everything.

Every other operation leaves the keys alone.
-/

namespace AscensionWatchdog

open Foundation Foundation.Json

variable {crates : Crates} {s s' : Store}

/-! ### Reading -/

/-- An identity that the selector accepts. -/
structure ReleaseIdentity.Valid (identity : ReleaseIdentity) : Prop where
  releaseId : isName identity.releaseId 128 = true
  releaseDigest : isDigest identity.releaseDigest = true

/-- The two columns of an optional identity. -/
structure EncodesIdentity (id digest : Option String) (identity : Option ReleaseIdentity) :
    Prop where
  releaseId : id = identity.map ReleaseIdentity.releaseId
  releaseDigest : digest = identity.map ReleaseIdentity.releaseDigest
  valid : ∀ release ∈ identity, release.Valid

variable {identity : Option ReleaseIdentity}

theorem readIdentityValues_eq_ok {id digest : Option String} {label : String}
    :
    readIdentityValues id digest label = .ok identity ↔ EncodesIdentity id digest identity := by
  unfold readIdentityValues
  split
  · rw [pure_eq_ok]
    constructor
    · rintro rfl
      exact ⟨rfl, rfl, by simp⟩
    · rintro ⟨hid, -, -⟩
      cases identity with
      | none => rfl
      | some => cases hid
  · next id digest =>
    simp only [bind_eq_ok, exists_const, validateName_eq_ok, mapError_eq_ok, validateDigest,
      ensure_eq_ok, pure_eq_ok]
    constructor
    · rintro ⟨hid, hdigest, rfl⟩
      exact ⟨rfl, rfl, fun release hrelease => Option.some.inj hrelease ▸ ⟨hid, hdigest⟩⟩
    · rintro ⟨hid, hdigest, hvalid⟩
      cases identity with
      | none => cases hid
      | some release =>
        cases hid
        cases hdigest
        exact ⟨(hvalid release rfl).releaseId, (hvalid release rfl).releaseDigest, rfl⟩
  · next hnone hsome =>
    refine iff_of_false (fun h => by cases h) fun h => ?_
    cases identity with
    | none => exact hnone h.releaseId h.releaseDigest
    | some => exact hsome _ _ h.releaseId h.releaseDigest

/-- The text of a state. -/
def ReleaseSelectionState.asStr : ReleaseSelectionState → String
  | .none => "none"
  | .prepared => "prepared"
  | .active => "active"

theorem parseSelectionState_eq_ok {text : String} {state : ReleaseSelectionState} :
    parseSelectionState text = .ok state ↔ text = state.asStr := by
  unfold parseSelectionState
  split
  · next h => cases state <;> simp [h, ReleaseSelectionState.asStr]
  split
  · next h => cases state <;> simp [h, ReleaseSelectionState.asStr]
  split
  · next h => cases state <;> simp [h, ReleaseSelectionState.asStr]
  · next hnone hprepared hactive =>
    cases state <;> simp [ReleaseSelectionState.asStr, hnone, hprepared, hactive]

variable {rollback : Bool}

theorem parseRollback_eq_ok {text : String} :
    parseRollback text = .ok rollback ↔ text = if rollback then "1" else "0" := by
  unfold parseRollback
  split
  · next h => cases rollback <;> simp [h]
  split
  · next h => cases rollback <;> simp [h]
  · next hzero hone => cases rollback <;> simp [hzero, hone]

/-- The keys of a pending marker. -/
structure EncodesMarker (metadata : MetadataKey → Option String)
    (pending : PendingReleaseActivation) : Prop where
  releaseId : metadata .pendingReleaseId = some pending.release.releaseId
  releaseDigest : metadata .pendingReleaseDigest = some pending.release.releaseDigest
  rollback : metadata .pendingReleaseRollback = some (if pending.rollback then "1" else "0")
  requestId : metadata .pendingReleaseRequestId = some pending.requestId
  idempotencyKey : metadata .pendingReleaseIdempotencyKey = some pending.idempotencyKey
  previous : EncodesIdentity (metadata .pendingReleasePreviousId)
    (metadata .pendingReleasePreviousDigest) pending.previous
  release_valid : pending.release.Valid
  requestId_valid : isName pending.requestId 128 = true
  idempotencyKey_valid : isName pending.idempotencyKey 128 = true

theorem readPending_eq_none :
    readPending s = .ok none ↔ ∀ key ∈ pendingKeys, s.metadata key = none := by
  unfold readPending
  split
  · next h =>
    refine iff_of_true rfl fun key hkey => ?_
    simpa using List.all_eq_true.mp h key hkey
  · next h =>
    refine iff_of_false (fun hread => ?_) fun hnone => h (List.all_eq_true.mpr fun key hkey => ?_)
    · split at hread
      · replace hread := bind_passed hread
        replace hread := bind_passed hread
        obtain ⟨rollback, -, hread⟩ := bind_eq_ok.mp hread
        replace hread := bind_passed hread
        replace hread := bind_passed hread
        obtain ⟨previous, -, hread⟩ := bind_eq_ok.mp hread
        cases pure_eq_ok.mp hread
      · cases hread
    · rw [hnone key hkey]
      rfl

variable {pending : PendingReleaseActivation}

theorem readPending_eq_some :
    readPending s = .ok (some pending) ↔ EncodesMarker s.metadata pending := by
  unfold readPending
  split
  · next h =>
    refine iff_of_false (fun hread => by cases pure_eq_ok.mp hread) fun hmarker => ?_
    have hid := List.all_eq_true.mp h .pendingReleaseId (by decide)
    rw [hmarker.releaseId] at hid
    cases hid
  · split
    · next id digest rollback requestId idempotencyKey hid hdigest hrollback hrequest hkey =>
      simp only [bind_eq_ok, exists_const, validateName_eq_ok, mapError_eq_ok, validateDigest,
        ensure_eq_ok, pure_eq_ok, parseRollback_eq_ok, readIdentity, readIdentityValues_eq_ok]
      constructor
      · rintro ⟨hidValid, hdigestValid, rollback, rfl, hrequestValid, hkeyValid, previous,
          hprevious, hpending⟩
        cases hpending
        exact ⟨hid, hdigest, hrollback, hrequest, hkey, hprevious, ⟨hidValid, hdigestValid⟩,
          hrequestValid, hkeyValid⟩
      · rintro ⟨hid', hdigest', hrollback', hrequest', hkey', hprevious, hvalid, hrequestValid,
          hkeyValid⟩
        cases hid.symm.trans hid'
        cases hdigest.symm.trans hdigest'
        cases hrollback.symm.trans hrollback'
        cases hrequest.symm.trans hrequest'
        cases hkey.symm.trans hkey'
        exact ⟨hvalid.releaseId, hvalid.releaseDigest, pending.rollback, rfl, hrequestValid,
          hkeyValid, pending.previous, hprevious, rfl⟩
    · next hincomplete =>
      refine iff_of_false (fun h => by cases h) fun hmarker => ?_
      exact hincomplete _ _ _ _ _ hmarker.releaseId hmarker.releaseDigest hmarker.rollback
        hmarker.requestId hmarker.idempotencyKey

/-- The metadata of a selection. -/
structure Encodes (metadata : MetadataKey → Option String) (selection : ReleaseSelection) :
    Prop where
  state : (metadata .releaseSelectionState).getD "none" = selection.state.asStr
  active : EncodesIdentity (metadata .activeReleaseId) (metadata .approvedReleaseDigest)
    selection.active
  previous : EncodesIdentity (metadata .previousReleaseId) (metadata .previousReleaseDigest)
    selection.previous
  unmarked : selection.pending = none → ∀ key ∈ pendingKeys, metadata key = none
  marked : ∀ pending ∈ selection.pending, EncodesMarker metadata pending
  prepared : selection.state = .prepared ↔ selection.pending.isSome
  state_active : selection.state = .active → selection.active.isSome
  state_none : selection.state = .none → selection.active = none

variable {selection : ReleaseSelection}

theorem readSelection_eq_ok :
    readSelection s = .ok selection ↔ Encodes s.metadata selection := by
  obtain ⟨state, active, previous, pending⟩ := selection
  have hpending : readPending s = .ok pending ↔
      (pending = none → ∀ key ∈ pendingKeys, s.metadata key = none) ∧
        ∀ marker ∈ pending, EncodesMarker s.metadata marker := by
    cases pending with
    | none => simp [readPending_eq_none]
    | some marker => simp [readPending_eq_some]
  simp only [readSelection, readIdentity, bind_eq_ok, exists_const, ensure_eq_ok, pure_eq_ok,
    parseSelectionState_eq_ok, readIdentityValues_eq_ok]
  constructor
  · rintro ⟨state, hstate, active, hactive, previous, hprevious, pending', hread, hprepared,
      hunprepared, hnoactive, hnone, heq⟩
    cases heq
    obtain ⟨hunmarked, hmarked⟩ := hpending.mp hread
    refine ⟨hstate, hactive, hprevious, hunmarked, hmarked, ⟨fun h => ?_, fun h => ?_⟩,
      fun h => ?_, fun h => ?_⟩
    · cases pending with
      | none => exact absurd ⟨h, rfl⟩ hprepared
      | some => rfl
    · exact Classical.byContradiction fun hne => hunprepared ⟨hne, h⟩
    · cases active with
      | none => exact absurd ⟨h, rfl⟩ hnoactive
      | some => rfl
    · cases active with
      | none => rfl
      | some => exact absurd ⟨h, rfl⟩ hnone
  · rintro ⟨hstate, hactive, hprevious, hunmarked, hmarked, hprepared, hsome, hnone⟩
    refine ⟨state, hstate, active, hactive, previous, hprevious, pending,
      hpending.mpr ⟨hunmarked, hmarked⟩, ?_, ?_, ?_, ?_, rfl⟩
    · rintro ⟨h, hpending⟩
      have hsome : pending.isSome = true := hprepared.mp h
      cases pending <;> simp_all
    · rintro ⟨h, hpending⟩
      exact h (hprepared.mpr hpending)
    · rintro ⟨h, hactive⟩
      have hsome : active.isSome = true := hsome h
      cases active <;> simp_all
    · rintro ⟨h, hactive⟩
      have hnone : active = none := hnone h
      rw [hnone] at hactive
      cases hactive

/-- A selection is read from the selector keys only. -/
theorem Encodes.congr {metadata metadata' : MetadataKey → Option String}
    (h : Encodes metadata selection)
    (hkeys : ∀ key ∈ selectorKeys, metadata' key = metadata key) :
    Encodes metadata' selection := by
  obtain ⟨hstate, hactive, hprevious, hunmarked, hmarked, hprepared, hsome, hnone⟩ := h
  refine ⟨?_, ?_, ?_, fun hpending key hkey => ?_, fun pending hpending => ?_, hprepared, hsome,
    hnone⟩
  · rw [hkeys _ (by decide)]
    exact hstate
  · rw [hkeys .activeReleaseId (by decide), hkeys .approvedReleaseDigest (by decide)]
    exact hactive
  · rw [hkeys .previousReleaseId (by decide), hkeys .previousReleaseDigest (by decide)]
    exact hprevious
  · rw [hkeys key (List.mem_cons_of_mem _ (List.mem_append_right _ hkey))]
    exact hunmarked hpending key hkey
  · obtain ⟨hid, hdigest, hrollback, hrequest, hkey, hprevious, hvalid, hrequestValid, hkeyValid⟩ :=
      hmarked pending hpending
    refine ⟨?_, ?_, ?_, ?_, ?_, ?_, hvalid, hrequestValid, hkeyValid⟩
    · rw [hkeys .pendingReleaseId (by decide), hid]
    · rw [hkeys .pendingReleaseDigest (by decide), hdigest]
    · rw [hkeys .pendingReleaseRollback (by decide), hrollback]
    · rw [hkeys .pendingReleaseRequestId (by decide), hrequest]
    · rw [hkeys .pendingReleaseIdempotencyKey (by decide), hkey]
    · rw [hkeys .pendingReleasePreviousId (by decide),
        hkeys .pendingReleasePreviousDigest (by decide)]
      exact hprevious

/-! ### Writing -/

@[simp]
theorem upsertMetadataTx_self (key : MetadataKey) (value : String) :
    (upsertMetadataTx s key value).metadata key = some value :=
  Function.update_self ..

theorem upsertMetadataTx_ne {key key' : MetadataKey} (h : key' ≠ key) (value : String) :
    (upsertMetadataTx s key value).metadata key' = s.metadata key' :=
  Function.update_of_ne h ..

theorem writeIdentity_ne {idKey digestKey key : MetadataKey}
    (hid : key ≠ idKey) (hdigest : key ≠ digestKey) :
    (writeIdentity s idKey digestKey identity).metadata key = s.metadata key := by
  cases identity with
  | none => exact if_neg (by simp [hid, hdigest])
  | some identity => rw [writeIdentity, upsertMetadataTx_ne hdigest, upsertMetadataTx_ne hid]

theorem writeIdentity_encodes {idKey digestKey : MetadataKey}
    (hne : idKey ≠ digestKey)
    (hvalid : ∀ release ∈ identity, release.Valid) :
    EncodesIdentity ((writeIdentity s idKey digestKey identity).metadata idKey)
      ((writeIdentity s idKey digestKey identity).metadata digestKey) identity := by
  cases identity with
  | none => exact ⟨if_pos (by simp), if_pos (by simp), hvalid⟩
  | some identity =>
    exact ⟨by rw [writeIdentity, upsertMetadataTx_ne hne, upsertMetadataTx_self]; rfl,
      upsertMetadataTx_self .., hvalid⟩

/-- The selection after a preparation. -/
def ReleaseSelection.prepare (selection : ReleaseSelection) (pending : PendingReleaseActivation) :
    ReleaseSelection :=
  { selection with state := .prepared, pending := some pending }

/-- The selection after a completion of the marker. -/
def ReleaseSelection.activate (pending : PendingReleaseActivation) : ReleaseSelection where
  state := .active
  active := some pending.release
  previous := pending.previous
  pending := none

theorem Encodes.prepare (h : Encodes s.metadata selection)
    (pending : PendingReleaseActivation) (hrelease : pending.release.Valid)
    (hrequest : isName pending.requestId 128 = true)
    (hkey : isName pending.idempotencyKey 128 = true)
    (hprevious : pending.previous = selection.active) :
    Encodes (writePending s pending).metadata (selection.prepare pending) := by
  -- what the marker does not write
  have hother : ∀ key, key ∉ .releaseSelectionState :: pendingKeys →
      (writePending s pending).metadata key = s.metadata key := by
    intro key hkey
    simp only [pendingKeys, List.mem_cons, List.not_mem_nil, or_false, not_or] at hkey
    obtain ⟨h₁, h₂, h₃, h₄, h₅, h₆, h₇, h₈⟩ := hkey
    unfold writePending
    rw [writeIdentity_ne h₇ h₈, upsertMetadataTx_ne h₆, upsertMetadataTx_ne h₅,
      upsertMetadataTx_ne h₄, upsertMetadataTx_ne h₃, upsertMetadataTx_ne h₂,
      upsertMetadataTx_ne h₁]
  have hstate : (writePending s pending).metadata .releaseSelectionState = some "prepared" := by
    simp [writePending, writeIdentity_ne, upsertMetadataTx_ne]
  have hmarker : EncodesMarker (writePending s pending).metadata pending := by
    refine ⟨?_, ?_, ?_, ?_, ?_, ?_, hrelease, hrequest, hkey⟩
    iterate 5 simp [writePending, writeIdentity_ne, upsertMetadataTx_ne]
    exact writeIdentity_encodes (by decide) (hprevious ▸ h.active.valid)
  refine ⟨by rw [hstate]; rfl, ?_, ?_, fun hnone => absurd hnone (by simp [ReleaseSelection.prepare]),
    ?_, by simp [ReleaseSelection.prepare], (fun h => by cases h), fun h => by cases h⟩
  · rw [hother _ (by decide), hother _ (by decide)]
    exact h.active
  · rw [hother _ (by decide), hother _ (by decide)]
    exact h.previous
  · rintro _ ⟨⟩
    exact hmarker

theorem Encodes.activate
    (h : Encodes s.metadata selection) (hpending : selection.pending = some pending) :
    Encodes (clearPending (writeActive s pending.release pending.previous)).metadata
      (.activate pending) := by
  have hmarker := h.marked pending hpending
  have hclear : ∀ key ∉ pendingKeys,
      (clearPending (writeActive s pending.release pending.previous)).metadata key =
        (writeActive s pending.release pending.previous).metadata key :=
    fun key hkey => if_neg hkey
  refine ⟨?_, ⟨?_, ?_, ?_⟩, ?_, fun _ key hkey => if_pos hkey, by simp [ReleaseSelection.activate],
    by simp [ReleaseSelection.activate], fun _ => rfl, nofun⟩
  · rw [hclear _ (by decide)]
    simp [writeActive, writeIdentity_ne, upsertMetadataTx_ne, ReleaseSelection.activate,
      ReleaseSelectionState.asStr]
  · rw [hclear _ (by decide)]
    simp [writeActive, writeIdentity_ne, upsertMetadataTx_ne, ReleaseSelection.activate]
  · rw [hclear _ (by decide)]
    simp [writeActive, writeIdentity_ne, ReleaseSelection.activate]
  · rintro _ ⟨⟩
    exact hmarker.release_valid
  · rw [hclear _ (by decide), hclear _ (by decide)]
    exact writeIdentity_encodes (by decide) hmarker.previous.valid

theorem encodes_clear : Encodes (clearReleaseSelectionTx s).metadata emptySelection := by
  have hcleared : ∀ key ∈ selectedKeys ++ pendingKeys,
      (clearReleaseSelectionTx s).metadata key = none := fun key hkey => if_pos hkey
  refine ⟨rfl, ⟨?_, ?_, by simp [emptySelection]⟩, ⟨?_, ?_, by simp [emptySelection]⟩,
    fun _ key hkey => hcleared key (List.mem_append_right _ hkey), by simp [emptySelection],
    by simp [emptySelection], nofun, fun _ => rfl⟩
  all_goals exact hcleared _ (by decide)

/-! ### Operations that leave the selector alone -/

/-- The operations that write the selector. -/
def Op.reselects : Op → Bool
  | .prepareReleaseActivation .. | .completeReleaseActivation .. | .restore .. => true
  | _ => false

/-- The selector keys are unchanged. -/
def SameSelector (s s' : Store) : Prop :=
  ∀ key ∈ selectorKeys, s'.metadata key = s.metadata key

theorem SameSelector.of_metadata (h : s'.metadata = s.metadata) : SameSelector s s' :=
  fun _ _ => by rw [h]

private theorem commit_sameSelector {α : Type} {routine : Result (α × Store)}
    (h : ∀ a s', routine = .ok (a, s') → SameSelector s s') :
    SameSelector s (commit s routine).2 :=
  commit_induction (fun _ _ => rfl) h

private theorem updateMetadataTx_sameSelector {key : MetadataKey} {value : String}
    (hkey : key ∉ selectorKeys) (h : updateMetadataTx s key value = .ok s') :
    SameSelector s s' := by
  obtain ⟨-, rfl⟩ := updateMetadataTx_eq_ok.mp h
  intro k hk
  have hne : k ≠ key := fun h => hkey (h ▸ hk)
  exact upsertMetadataTx_ne hne _

variable {now : Nat}

theorem applyDesiredModeTx_sameSelector {mode : Option DesiredMode}
    (h : applyDesiredModeTx s mode now = .ok s') : SameSelector s s' := by
  cases mode with
  | none =>
    cases pure_eq_ok.mp h
    exact fun _ _ => rfl
  | some mode =>
    obtain ⟨s₁, hs₁, h⟩ := bind_eq_ok.mp h
    have h₁ := updateMetadataTx_sameSelector (by decide) hs₁
    have h₂ := updateMetadataTx_sameSelector (by decide) h
    exact fun key hkey => (h₂ key hkey).trans (h₁ key hkey)

theorem setDesiredModeTx_sameSelector {mode : DesiredMode}
    (h : setDesiredModeTx s mode now = .ok s') : SameSelector s s' := by
  obtain ⟨s₁, hs₁, h⟩ := bind_eq_ok.mp h
  obtain ⟨s₂, hs₂, h⟩ := bind_eq_ok.mp h
  have h₁ := updateMetadataTx_sameSelector (by decide) hs₁
  have h₂ := updateMetadataTx_sameSelector (by decide) hs₂
  obtain ⟨-, -, -, -, rfl⟩ := insertAuditTx_eq_ok.mp h
  exact fun key hkey => (h₂ key hkey).trans (h₁ key hkey)

variable {context : OperatorCommandContext} {response : Value}

/-- An admission leaves the selector as its effect does. -/
private theorem Admits.sameSelector
    {command : OperatorCommand} {action suffix : String}
    {replayable : OperatorCommandReceipt → Prop} {effect : Store → Prop}
    {outcome : OperatorCommandOutcome}
    (h : Admits crates s context command response action suffix now replayable effect outcome s')
    (heffect : ∀ s₁, effect s₁ → SameSelector s s₁) : SameSelector s s' := by
  obtain ⟨_, -, -, -, -, rfl⟩ | ⟨-, s₁, hs₁, hrecord⟩ := h.answer
  · exact fun _ _ => rfl
  · obtain ⟨-, -, -, -, detail, rfl⟩ := recordOperatorCommandTx_eq_ok hrecord
    exact heffect s₁ hs₁

theorem perform_sameSelector {op : Op} (hs : s.queue.Keyed) (hop : op.reselects = false) :
    SameSelector s (perform crates op s) := by
  by_cases hquiet : op.isQuiet = true
  · exact (perform_quiet hs hquiet).selector
  cases op with
  | admitOperatorCommand context command response now =>
    refine commit_sameSelector fun outcome s' h => ?_
    obtain ⟨-, -, -, rfl⟩ | ⟨-, hadmits⟩ := admitOperatorCommandTx_eq_ok.mp h
    · exact fun _ _ => rfl
    · exact hadmits.sameSelector fun s₁ => applyDesiredModeTx_sameSelector
  | admitOperatorJobSubmission context kind payload now jobId =>
    refine commit_sameSelector fun outcome s' h => ?_
    refine (admitOperatorJobSubmissionTx_eq_ok.mp h).2.sameSelector fun s₁ hs₁ => ?_
    have hstep : QuietStep crates (.submitJobAt kind payload now jobId) s s₁ :=
      insertJobTx_step rfl hs₁
    exact hstep.quiet.selector
  | admitOperatorQuarantine context attemptId reason response now =>
    refine commit_sameSelector fun outcome s' h => ?_
    refine (admitOperatorQuarantineTx_eq_ok.mp h).2.sameSelector ?_
    rintro s₁ ⟨a, -, hs₁⟩
    exact (quarantineAttemptTx_eq_ok hs₁).2.selector
  | admitOperatorRetry context attemptId reconstruction response now =>
    refine commit_sameSelector fun outcome s' h => ?_
    refine (admitOperatorRetryTx_eq_ok.mp h).2.sameSelector ?_
    rintro s₁ ⟨-, a, ha, hs₁⟩
    have hstep : QuietStep crates
        (.admitOperatorRetry context attemptId reconstruction response now) s s₁ :=
      requeueAttemptTx_step hs ha hs₁
    exact hstep.quiet.selector
  | completeOperatorBackup receipt response backupId now =>
    exact commit_sameSelector fun _ s' h => .of_metadata (completeOperatorBackupTx_eq_ok h).2.1
  | setDesiredModeAt mode now =>
    refine commit_sameSelector fun _ s' h => ?_
    obtain ⟨s₁, hs₁, h⟩ := bind_eq_ok.mp h
    cases pure_eq_ok.mp h
    exact setDesiredModeTx_sameSelector hs₁
  | auditEvent action detail now =>
    refine commit_sameSelector fun _ s' h => ?_
    obtain ⟨s₁, hs₁, h⟩ := bind_eq_ok.mp h
    cases pure_eq_ok.mp h
    obtain ⟨-, -, -, -, rfl⟩ := insertAuditTx_eq_ok.mp hs₁
    exact fun _ _ => rfl
  | _ => first | exact absurd rfl hquiet | cases hop

/-! ### Steps of the selector -/

/-- The metadata encode the selection, and a marker has captured the active release. -/
structure Selected (s : Store) (selection : ReleaseSelection) : Prop where
  encodes : Encodes s.metadata selection
  captured : ∀ pending ∈ selection.pending, pending.previous = selection.active

theorem Selected.read (h : Selected s selection) :
    readSelection s = .ok selection :=
  readSelection_eq_ok.mpr h.encodes

theorem Selected.congr (h : Selected s selection)
    (hsame : SameSelector s s') : Selected s' selection :=
  ⟨h.encodes.congr hsame, h.captured⟩

/-- The marker that a preparation writes. -/
def markerOf (requestId idempotencyKey releaseId releaseDigest : String) (rollback : Bool)
    (previous : Option ReleaseIdentity) : PendingReleaseActivation where
  release := ⟨releaseId, releaseDigest⟩
  rollback := rollback
  requestId := requestId
  idempotencyKey := idempotencyKey
  previous := previous

/-- The checks of a preparation on its arguments and on the mode. -/
structure PrepareChecks (s : Store) (requestId idempotencyKey releaseId releaseDigest : String) :
    Prop where
  requestId : isName requestId 128 = true
  idempotencyKey : isName idempotencyKey 128 = true
  releaseId : isName releaseId 128 = true
  releaseDigest : isDigest releaseDigest = true
  stopped : s.metadata .desiredMode = some (modeAsStr .stopped)

theorem prepareReleaseActivationTx_eq_ok
    {requestId idempotencyKey releaseId releaseDigest : String}
    {u : Unit} :
    prepareReleaseActivationTx crates s requestId idempotencyKey releaseId releaseDigest rollback
        now = .ok (u, s') ↔
      PrepareChecks s requestId idempotencyKey releaseId releaseDigest ∧
        ∃ current, readSelection s = .ok current ∧
          ((∃ previous, current.pending = some (markerOf requestId idempotencyKey releaseId
              releaseDigest rollback previous) ∧ s' = s) ∨
            current.pending = none ∧
              (∀ r ∈ s.operatorCommands, r.idempotencyKey ≠ idempotencyKey) ∧
              (∀ r ∈ s.operatorCommands, r.requestId ≠ requestId) ∧
              validateTarget current ⟨releaseId, releaseDigest⟩ rollback = .ok () ∧
              insertAuditTx (writePending s (markerOf requestId idempotencyKey releaseId
                releaseDigest rollback current.active)) "release_activation_prepared"
                (s!"release_id={releaseId};digest={releaseDigest};rollback={rollback};" ++
                  s!"request_id={requestId}") now = .ok s') := by
  constructor
  · intro h
    obtain ⟨⟨⟩, hrequest, h⟩ := bind_eq_ok.mp h
    obtain ⟨⟨⟩, hkey, h⟩ := bind_eq_ok.mp h
    obtain ⟨⟨⟩, hrelease, h⟩ := bind_eq_ok.mp h
    obtain ⟨⟨⟩, hdigest, h⟩ := bind_eq_ok.mp h
    obtain ⟨desired, hdesired, h⟩ := orError_bind.mp h
    obtain ⟨hstopped, h⟩ := ensure_bind_eq_ok.mp h
    obtain ⟨current, hread, h⟩ := bind_eq_ok.mp h
    refine ⟨⟨validateName_eq_ok.mp hrequest, validateName_eq_ok.mp hkey,
      validateName_eq_ok.mp hrelease, ensure_eq_ok.mp (mapError_eq_ok.mp hdigest),
      hstopped ▸ hdesired⟩, current, hread, ?_⟩
    split at h
    · -- a marker is answered as it is when it is the marker of this request
      next pending hpending =>
      obtain ⟨⟨hrelease, hrollback, hrequest, hkey⟩, h⟩ := ensure_bind_eq_ok.mp h
      cases pure_eq_ok.mp h
      refine .inl ⟨pending.previous, ?_, rfl⟩
      rw [hpending, markerOf, ← hrelease, ← hrollback, ← hrequest, ← hkey]
    · next hnone =>
      obtain ⟨existing?, hexisting, h⟩ := bind_eq_ok.mp h
      split at h
      · cases h
      · obtain ⟨⟨⟩, hfresh, h⟩ := bind_eq_ok.mp h
        obtain ⟨⟨⟩, htarget, h⟩ := bind_eq_ok.mp h
        obtain ⟨s₁, hs₁, h⟩ := bind_eq_ok.mp h
        cases pure_eq_ok.mp h
        exact .inr ⟨hnone, findOperatorByKey_eq_none.mp hexisting,
          ensureFreshRequest_eq_ok.mp hfresh, htarget, hs₁⟩
  · rintro ⟨hchecks, current, hread, h⟩
    have hrequest : validateName requestId "release activation request id" 128 = .ok () :=
      validateName_eq_ok.mpr hchecks.requestId
    have hkey : validateName idempotencyKey "release activation idempotency key" 128 = .ok () :=
      validateName_eq_ok.mpr hchecks.idempotencyKey
    have hrelease : validateName releaseId "release activation release id" 128 = .ok () :=
      validateName_eq_ok.mpr hchecks.releaseId
    have hdigest : (validateDigest releaseDigest).mapError WatchdogError.invalidInput = .ok () :=
      mapError_eq_ok.mpr (ensure_eq_ok.mpr hchecks.releaseDigest)
    obtain ⟨previous, hpending, rfl⟩ | ⟨hnone, hfreshKey, hfreshRequest, htarget, haudit⟩ := h
    · simp [prepareReleaseActivationTx, hrequest, hkey, hrelease, hdigest, hchecks.stopped, hread,
        hpending, markerOf, orError, ensure, bind, Except.bind, pure, Except.pure]
    · have hfind : findOperatorByKey crates s idempotencyKey = .ok none :=
        findOperatorByKey_eq_none.mpr hfreshKey
      have hfresh : ensureFreshRequest crates s requestId = .ok () :=
        ensureFreshRequest_eq_ok.mpr hfreshRequest
      simp only [markerOf] at haudit
      simp [prepareReleaseActivationTx, hrequest, hkey, hrelease, hdigest, hchecks.stopped, hread,
        hnone, hfind, hfresh, htarget, haudit, orError, ensure, bind, Except.bind, pure,
        Except.pure]

theorem matchingPending_eq_ok
    {releaseId releaseDigest : String}
    :
    matchingPending s context releaseId releaseDigest rollback response = .ok pending ↔
      ∃ selection, readSelection s = .ok selection ∧ selection.pending = some pending ∧
        (pending.release = ⟨releaseId, releaseDigest⟩ ∧ pending.rollback = rollback ∧
          pending.requestId = context.requestId ∧
          pending.idempotencyKey = context.idempotencyKey) ∧
        validateActivationResponse response pending = .ok () ∧
        selection.active = pending.previous := by
  simp only [matchingPending, bind_eq_ok, orError_eq_ok, ensure_eq_ok, pure_eq_ok, exists_const]
  constructor
  · rintro ⟨selection, hread, _, hpending, hmatches, ⟨⟩, hresponse, hactive, rfl⟩
    exact ⟨selection, hread, hpending, hmatches, hresponse, hactive⟩
  · rintro ⟨selection, hread, hpending, hmatches, hresponse, hactive⟩
    exact ⟨selection, hread, _, hpending, hmatches, (), hresponse, hactive, rfl⟩

/-- The call asks for the completion of this marker. -/
def Op.Completes (op : Op) (pending : PendingReleaseActivation) : Prop :=
  ∃ context response now, op = .completeReleaseActivation context pending.release.releaseId
      pending.release.releaseDigest pending.rollback response now ∧
    pending.requestId = context.requestId ∧ pending.idempotencyKey = context.idempotencyKey

/-- The call completes an activation. -/
def Op.activates (crates : Crates) (s : Store) (op : Op) : Bool :=
  match op with
  | .completeReleaseActivation .. => (op.accepts crates s).isSome
  | _ => false

/-- What an operation does to the selector. -/
inductive SelectionStep (crates : Crates) (op : Op) (s : Store) :
    ReleaseSelection → ReleaseSelection → Prop where
  | same {selection : ReleaseSelection} (hop : op.activates crates s = false) :
      SelectionStep crates op s selection selection
  | prepared {selection : ReleaseSelection} {pending : PendingReleaseActivation}
      (hop : op.activates crates s = false) (hnone : selection.pending = none)
      (hprevious : pending.previous = selection.active)
      (hstopped : (perform crates op s).desiredMode = .ok .stopped) :
      SelectionStep crates op s selection (selection.prepare pending)
  | activated {selection : ReleaseSelection} {pending : PendingReleaseActivation}
      (hop : op.activates crates s = true) (hpending : selection.pending = some pending)
      (hcompletes : op.Completes pending) :
      SelectionStep crates op s selection (.activate pending)
  | cleared {selection : ReleaseSelection} (hop : op.activates crates s = false)
      {config : RestoreConfig} {now : Nat} {epoch : UuidV4}
      (hrestore : op = .restore config now epoch) :
      SelectionStep crates op s selection emptySelection

private theorem prepareReleaseActivation_selected
    {requestId key releaseId digest : String}
    (h : Selected s selection) :
    let op := Op.prepareReleaseActivation requestId key releaseId digest rollback now
    ∃ selection', Selected (perform crates op s) selection' ∧
      SelectionStep crates op s selection selection' := by
  intro op
  have hperform : perform crates op s = (commit s (prepareReleaseActivationTx crates s requestId
      key releaseId digest rollback now)).2 := commitThen_snd ..
  rw [hperform]
  rcases commit_cases s (prepareReleaseActivationTx crates s requestId key releaseId digest
    rollback now) with ⟨u, s', htx, hcommit⟩ | ⟨e, -, hcommit⟩
  · rw [hcommit]
    obtain ⟨hchecks, current, hread, ⟨_, -, rfl⟩ | ⟨hnone, -, -, -, haudit⟩⟩ :=
      prepareReleaseActivationTx_eq_ok.mp htx
    · exact ⟨selection, h, .same rfl⟩
    · cases h.read.symm.trans hread
      obtain ⟨-, -, -, -, rfl⟩ := insertAuditTx_eq_ok.mp haudit
      have hencodes := h.encodes.prepare (markerOf requestId key releaseId digest
        rollback selection.active) ⟨hchecks.releaseId, hchecks.releaseDigest⟩ hchecks.requestId
        hchecks.idempotencyKey rfl
      have hmode : (perform crates op s).metadata .desiredMode = s.metadata .desiredMode :=
        prepareReleaseActivation_reselects.mode
      rw [hperform, hcommit, hchecks.stopped] at hmode
      refine ⟨_, ⟨hencodes, ?_⟩, .prepared rfl hnone rfl ?_⟩
      · rintro _ ⟨⟩
        rfl
      · rw [hperform, hcommit]
        exact desiredMode_of_metadata hmode
  · rw [hcommit]
    exact ⟨selection, h, .same rfl⟩

private theorem completeReleaseActivation_selected
    {releaseId digest : String}
    (hs : s.queue.Keyed) (h : Selected s selection) :
    let op := Op.completeReleaseActivation context releaseId digest rollback response now
    ∃ selection', Selected (perform crates op s) selection' ∧
      SelectionStep crates op s selection selection' := by
  intro op
  cases haccepts : op.accepts crates s with
  | none =>
    rw [perform_of_accepts_none hs rfl haccepts]
    exact ⟨selection, h, .same (by simp only [op, Op.activates] at haccepts ⊢; rw [haccepts]; rfl)⟩
  | some receipt =>
    obtain ⟨call, hcall, hledger⟩ := accepts_eq_some hs haccepts
    have hactivates : op.activates crates s = true := by
      simp only [op, Op.activates] at haccepts ⊢
      rw [haccepts]
      rfl
    rcases commit_cases s (completeReleaseActivationTx crates s context releaseId digest rollback
      response now) with ⟨outcome, s', htx, hcommit⟩ | ⟨e, -, hcommit⟩
    · have hperform : perform crates op s = s' := congrArg Prod.snd hcommit
      rw [hperform] at hledger ⊢
      obtain ⟨_, -, -, -, -, hsame⟩ | ⟨-, s₁, ⟨pending, hpending, rfl⟩, hrecord⟩ :=
        (completeReleaseActivationTx_eq_ok.mp htx).answer
      · -- a replay does not append to the ledger
        have hlength := congrArg List.length hledger.ledger
        rw [hsame] at hlength
        simp at hlength
      · obtain ⟨current, hread, hmarked, ⟨hrelease, hrollback, hrequest, hkey⟩, -, hactive⟩ :=
          matchingPending_eq_ok.mp hpending
        cases h.read.symm.trans hread
        obtain ⟨-, -, -, -, detail, rfl⟩ := recordOperatorCommandTx_eq_ok hrecord
        refine ⟨_, ⟨h.encodes.activate hmarked, by simp [ReleaseSelection.activate]⟩,
          .activated hactivates hmarked ⟨context, response, now, ?_, hrequest, hkey⟩⟩
        rw [hrelease, hrollback]
    · have hfst : op.answer crates s = some (.error e) := congrArg (some ∘ Prod.fst) hcommit
      rw [Op.accepts, hfst] at haccepts
      cases haccepts

private theorem restore_selected {config : RestoreConfig} {epoch : UuidV4}
    (h : Selected s selection) :
    ∃ selection', Selected (perform crates (.restore config now epoch) s) selection' ∧
      SelectionStep crates (.restore config now epoch) s selection selection' := by
  rcases commit_cases s (do return ((), ← restoreTx s config now epoch)) with
    ⟨⟨⟩, s', htx, hcommit⟩ | ⟨e, -, hcommit⟩
  · have hperform : perform crates (.restore config now epoch) s = s' := congrArg Prod.snd hcommit
    rw [hperform]
    obtain ⟨s₁, hs₁, htx⟩ := bind_eq_ok.mp htx
    cases pure_eq_ok.mp htx
    obtain ⟨⟨deployment, generation⟩, -, hs₁⟩ := bind_eq_ok.mp hs₁
    obtain ⟨next, -, hs₁⟩ := bind_eq_ok.mp hs₁
    obtain ⟨s₂, -, hs₁⟩ := bind_eq_ok.mp hs₁
    obtain ⟨now', -, hs₁⟩ := bind_eq_ok.mp hs₁
    obtain ⟨-, -, -, -, hs₁⟩ := insertAuditTx_bind.mp hs₁
    cases pure_eq_ok.mp hs₁
    refine ⟨emptySelection, ⟨(encodes_clear (s := s₂)).congr fun key hkey => ?_,
      by simp [emptySelection]⟩, .cleared rfl rfl⟩
    have hne : key ≠ .restoreSourceDeploymentId := by
      rintro rfl
      revert hkey
      decide
    exact upsertMetadataTx_ne hne deployment
  · have hperform : perform crates (.restore config now epoch) s = s := congrArg Prod.snd hcommit
    rw [hperform]
    exact ⟨selection, h, .same rfl⟩

theorem perform_selected (crates : Crates) (op : Op)
    (hs : s.queue.Keyed) (h : Selected s selection) :
    ∃ selection', Selected (perform crates op s) selection' ∧
      SelectionStep crates op s selection selection' := by
  by_cases hop : op.reselects = true
  · cases op with
    | prepareReleaseActivation => exact prepareReleaseActivation_selected h
    | completeReleaseActivation => exact completeReleaseActivation_selected hs h
    | restore => exact restore_selected h
    | _ => cases hop
  · refine ⟨selection, h.congr (perform_sameSelector hs (by simpa using hop)), .same ?_⟩
    cases op with
    | completeReleaseActivation => exact absurd rfl hop
    | _ => rfl

theorem selected_fresh {config : StoreConfig} {epoch : UuidV4}
    (h : Store.initialize config now epoch = .ok s) : Selected s emptySelection := by
  obtain ⟨-, -, -, -, rfl⟩ := insertAuditTx_eq_ok.mp h
  refine ⟨⟨rfl, ⟨rfl, rfl, by simp [emptySelection]⟩, ⟨rfl, rfl, by simp [emptySelection]⟩, ?_,
    by simp [emptySelection], by simp [emptySelection], nofun, fun _ => rfl⟩,
    by simp [emptySelection]⟩
  intro _ key hkey
  revert key
  simp [pendingKeys, initialMetadata]

/-- A selection in every state of a run. -/
theorem after_selected (crates : Crates) {config : StoreConfig} {epoch : UuidV4} {s₀ : Store}
    (hinit : Store.initialize config now epoch = .ok s₀) (ops : List Op) :
    (s₀.after crates ops).queue.Keyed ∧ ∃ selection, Selected (s₀.after crates ops) selection :=
  run_invariant (P := fun s => s.queue.Keyed ∧ ∃ selection, Selected s selection)
    (fun op _ hs => ⟨perform_keyed op hs.1, by
      obtain ⟨selection, hselected⟩ := hs.2
      obtain ⟨selection', hselected', -⟩ := perform_selected crates op hs.1 hselected
      exact ⟨selection', hselected'⟩⟩)
    ⟨initialize_keyed hinit, emptySelection, selected_fresh hinit⟩ ops

end AscensionWatchdog
