import AscensionWatchdog.Ledger.Room
import AscensionWatchdog.Release.Response

/-!
# Activations over a run

Two results about the two phases of an activation, both over runs from a fresh store.

* `activations_recorded_iff`: the selector always decodes, the active release changes only when
  the prepared one takes its place or a restore clears it, and an activation records the release
  that was active. The store does not check the mode again when it completes an activation, so
  that every activation finds a stopped deployment is a condition on the run;
  `activations_stopped` gives it for runs that do not start a deployment with a prepared marker.
* `marker_completes_iff`: what the completion of a prepared marker needs from the ledger and the
  audit table. A preparation reserves none of it.
-/

namespace AscensionWatchdog

open Foundation Foundation.Json

variable {crates : Crates} {s s' : Store}

/-! ### The releases over a run -/

/-- What the completion of a marker needs from the ledger and the audit table. -/
structure MarkerRoom (s : Store) (requestId idempotencyKey : String) : Prop where
  key : ∀ r ∈ s.operatorCommands, r.idempotencyKey ≠ idempotencyKey
  request : ∀ r ∈ s.operatorCommands, r.requestId ≠ requestId
  ledger : s.operatorCommands.length < ledgerLimit .releaseActivate
  audit : s.audit.length < auditLimit "operator_command_release_activate_accepted"

/-- A well-formed completion call for a marker. -/
structure CompletionCall (pending : PendingReleaseActivation) (context : OperatorCommandContext)
    (response : Value) (now : Nat) : Prop where
  requestId : context.requestId = pending.requestId
  idempotencyKey : context.idempotencyKey = pending.idempotencyKey
  valid : context.Valid
  admin : context.capability = .admin
  matching : validateActivationResponse response pending = .ok ()
  response : ValidResponse response
  now : now < 2 ^ 63

private theorem shortSuffix_rollback (rollback : Bool) :
    ShortSuffix s!";rollback={rollback}" := by
  cases rollback <;> exact ⟨by decide +kernel, by decide +kernel⟩

/-- The selector is written without a look at the two tables. -/
private theorem activate_tables (release : ReleaseIdentity) (previous : Option ReleaseIdentity) :
    (clearPending (writeActive s release previous)).operatorCommands = s.operatorCommands ∧
      (clearPending (writeActive s release previous)).audit = s.audit := by
  cases previous <;>
    simp only [clearPending, deleteMetadataTx, writeActive, writeIdentity, upsertMetadataTx, and_self]

/-- In a state with a marker, its completion is accepted when there is room for it. -/
theorem completion_accepted_iff (crates : Crates) {selection : ReleaseSelection}
    {pending : PendingReleaseActivation} {context : OperatorCommandContext} {response : Value}
    {now : Nat} (hbounded : LedgerBounded s) (hselected : Selected s selection)
    (hpending : selection.pending = some pending)
    (hcall : CompletionCall pending context response now) :
    (∃ receipt s', completeReleaseActivationTx crates s context pending.release.releaseId
        pending.release.releaseDigest pending.rollback response now =
          .ok (.accepted receipt, s')) ↔
      MarkerRoom s pending.requestId pending.idempotencyKey := by
  constructor
  · rintro ⟨receipt, s', htx⟩
    obtain ⟨_, -, -, -, ⟨⟩, -⟩ | ⟨hadmissible, s₁, ⟨_, -, rfl⟩, hrecord⟩ :=
      (completeReleaseActivationTx_eq_ok.mp htx).answer
    obtain ⟨-, -, haudit, -⟩ := recordOperatorCommandTx_eq_ok hrecord
    rw [(activate_tables _ _).2] at haudit
    refine ⟨?_, ?_, hadmissible.capacity, haudit⟩
    · rw [← hcall.idempotencyKey]
      exact hadmissible.key
    · rw [← hcall.requestId]
      exact hadmissible.request
  · intro hroom
    have hkey : ∀ r ∈ s.operatorCommands, r.idempotencyKey ≠ context.idempotencyKey := by
      rw [hcall.idempotencyKey]
      exact hroom.key
    have hrequest : ∀ r ∈ s.operatorCommands, r.requestId ≠ context.requestId := by
      rw [hcall.requestId]
      exact hroom.request
    have hmarker : matchingPending s context pending.release.releaseId
        pending.release.releaseDigest pending.rollback response = .ok pending :=
      matchingPending_eq_ok.mpr ⟨selection, hselected.read, hpending,
        ⟨rfl, rfl, hcall.requestId.symm, hcall.idempotencyKey.symm⟩, hcall.matching,
        (hselected.captured pending hpending).symm⟩
    have haction : isName "operator_command_release_activate_accepted" 128 = true := by
      decide +kernel
    obtain ⟨hledger, haudit⟩ := activate_tables (s := s) pending.release pending.previous
    obtain ⟨outcome, s', hrecord, -⟩ := recordOperatorCommandTx_of_room
      (s := clearPending (writeActive s pending.release pending.previous)) .releaseActivate response
      hcall.valid (shortSuffix_rollback pending.rollback) (hledger ▸ hkey) (hledger ▸ hrequest)
      haction (haudit ▸ hroom.audit) hcall.now
      (by rw [nextOperatorSequence, hledger]; exact hbounded.sequence_lt)
    obtain ⟨-, -, -, rfl, -⟩ := recordOperatorCommandTx_eq_ok hrecord
    exact ⟨_, s', completeReleaseActivationTx_eq_ok.mpr ⟨hcall.valid, hcall.admin,
      .inr ⟨⟨hkey, hrequest, hroom.ledger, hcall.response⟩, _, ⟨pending, hmarker, rfl⟩, hrecord⟩⟩⟩

/-! ### A marker over a run -/

def Op.restores : Op → Bool
  | .restore .. => true
  | _ => false

/-- The marker is still prepared, or its key is spent. -/
structure MarkerKept (pending : PendingReleaseActivation) (s : Store) : Prop where
  bounded : LedgerBounded s
  keyed : s.LedgerKeyed
  kept : s.Spent pending.idempotencyKey ∨
    ∃ selection, Selected s selection ∧ selection.pending = some pending

theorem perform_markerKept {pending : PendingReleaseActivation} {op : Op}
    (h : MarkerKept pending s) (hop : op.restores = false) :
    MarkerKept pending (perform crates op s) := by
  refine ⟨perform_ledgerBounded crates op h.bounded, perform_ledgerKeyed crates op h.keyed, ?_⟩
  rcases h.kept with hspent | ⟨selection, hselected, hpending⟩
  · exact .inl (perform_spent op h.keyed hspent)
  obtain ⟨selection', hselected', hstep⟩ := perform_selected crates op h.keyed.queue hselected
  cases hstep with
  | same => exact .inr ⟨_, hselected', hpending⟩
  | prepared _ hnone =>
    rw [hpending] at hnone
    cases hnone
  | activated hactivates hmarked hcompletes =>
    -- the completion of the marker records its key
    cases hpending.symm.trans hmarked
    obtain ⟨context, response, now, rfl, -, hkey⟩ := hcompletes
    obtain ⟨receipt, hreceipt⟩ := Option.isSome_iff_exists.mp hactivates
    obtain ⟨call, hcall, haccepts⟩ := accepts_eq_some h.keyed.queue hreceipt
    cases hcall
    refine .inl ?_
    rw [Store.Spent, haccepts.ledger, List.map_append, hkey]
    exact List.mem_append_right _ (List.mem_singleton.mpr rfl)
  | cleared _ hrestore =>
    rw [hrestore] at hop
    cases hop

theorem perform_prepareReleaseActivation (requestId key releaseId digest : String)
    (rollback : Bool) (now : Nat) :
    perform crates (.prepareReleaseActivation requestId key releaseId digest rollback now) s =
      (s.prepareReleaseActivation crates requestId key releaseId digest rollback now).2 :=
  rfl

/-- What a preparation that answered leaves in the selector. -/
theorem prepareReleaseActivation_marker {requestId key releaseId digest : String}
    {rollback : Bool} {now : Nat} {current selection : ReleaseSelection}
    (hs : s.queue.Keyed) (hcurrent : Selected s current)
    (h : (s.prepareReleaseActivation crates requestId key releaseId digest rollback now).1 =
      .ok selection) :
    Selected (s.prepareReleaseActivation crates requestId key releaseId digest rollback now).2
        selection ∧
      selection.pending =
        some (markerOf requestId key releaseId digest rollback selection.active) := by
  obtain ⟨s', hprepare⟩ : ∃ s', s.prepareReleaseActivation crates requestId key releaseId digest
      rollback now = (.ok selection, s') := ⟨_, Prod.ext h rfl⟩
  rw [hprepare]
  obtain ⟨u, htx, hread⟩ := commitThen_eq_ok.mp hprepare
  have hperform : perform crates (.prepareReleaseActivation requestId key releaseId digest
      rollback now) s = s' := congrArg Prod.snd hprepare
  obtain ⟨selection', hselected, -⟩ := perform_selected crates
    (.prepareReleaseActivation requestId key releaseId digest rollback now) hs hcurrent
  rw [hperform] at hselected
  cases hselected.read.symm.trans hread
  refine ⟨hselected, ?_⟩
  obtain ⟨hchecks, current', hcurrent', ⟨previous, hpending, hsame⟩ | ⟨-, -, -, -, haudit⟩⟩ :=
    prepareReleaseActivationTx_eq_ok.mp htx
  · -- the marker was there already
    rw [hsame] at hread
    cases hread.symm.trans hcurrent'
    have hprevious := hselected.captured _ hpending
    rw [hpending]
    exact congrArg (fun p => some (markerOf requestId key releaseId digest rollback p)) hprevious
  · cases hcurrent.read.symm.trans hcurrent'
    obtain ⟨-, -, -, -, hs'⟩ := insertAuditTx_eq_ok.mp haudit
    have hencodes := hcurrent.encodes.prepare (markerOf requestId key releaseId digest rollback
      current.active) ⟨hchecks.releaseId, hchecks.releaseDigest⟩ hchecks.requestId
      hchecks.idempotencyKey rfl
    have hprepared : readSelection s' = .ok (current.prepare (markerOf requestId key releaseId
        digest rollback current.active)) := by
      rw [← hs']
      exact readSelection_eq_ok.mpr hencodes
    cases hread.symm.trans hprepared
    rfl

/-- **Completing a prepared marker.** After any run, a preparation that answered and any calls
but a restore, a well-formed completion of the marker is accepted exactly when neither of its
identifiers is in the ledger and both tables have room for it. -/
theorem marker_completes_iff {config : StoreConfig} {now₀ : Nat} {epoch : UuidV4} {s₀ : Store}
    (hinit : Store.initialize config now₀ epoch = .ok s₀) (before : List Op)
    {requestId key releaseId digest : String} {rollback : Bool} {now₁ : Nat}
    {selection : ReleaseSelection}
    (hprepare : ((s₀.after crates before).prepareReleaseActivation crates requestId key releaseId
      digest rollback now₁).1 = .ok selection)
    {commands : List Op} (hcommands : ∀ op ∈ commands, op.restores = false)
    {context : OperatorCommandContext} {response : Value} {now : Nat}
    (hcall : CompletionCall (markerOf requestId key releaseId digest rollback selection.active)
      context response now) :
    let s := ((s₀.after crates before).prepareReleaseActivation crates requestId key releaseId
      digest rollback now₁).2.after crates commands
    (∃ receipt, (s.completeReleaseActivation crates context releaseId digest rollback response
        now).1 = .ok (.accepted receipt)) ↔
      MarkerRoom s requestId key := by
  intro s
  have hbounded := run_invariant (P := LedgerBounded) (fun op _ => perform_ledgerBounded crates op)
    (ledgerBounded_fresh hinit) before
  have hkeyed := run_invariant (P := Store.LedgerKeyed)
    (fun op _ => perform_ledgerKeyed crates op) (ledgerKeyed_fresh hinit) before
  obtain ⟨current, hcurrent⟩ := (after_selected crates hinit before).2
  obtain ⟨hselected, hpending⟩ :=
    prepareReleaseActivation_marker hkeyed.queue hcurrent hprepare
  have hstart : MarkerKept (markerOf requestId key releaseId digest rollback selection.active)
      ((s₀.after crates before).prepareReleaseActivation crates requestId key releaseId digest
        rollback now₁).2 :=
    ⟨perform_ledgerBounded crates
        (.prepareReleaseActivation requestId key releaseId digest rollback now₁) hbounded,
      perform_ledgerKeyed crates
        (.prepareReleaseActivation requestId key releaseId digest rollback now₁) hkeyed,
      .inr ⟨selection, hselected, hpending⟩⟩
  have hkept : MarkerKept (markerOf requestId key releaseId digest rollback selection.active) s :=
    run_invariant_of_meets (C := fun op _ => op.restores = false)
      (fun _ _ h hop => perform_markerKept h hop) hstart
      (meets_of_forall fun op hop _ => hcommands op hop)
  clear_value s
  -- an accepted answer is a transaction that returned
  have hanswer : (∃ receipt, (s.completeReleaseActivation crates context releaseId digest rollback
      response now).1 = .ok (.accepted receipt)) ↔
      ∃ receipt s', completeReleaseActivationTx crates s context releaseId digest rollback response
        now = .ok (.accepted receipt, s') := by
    constructor
    · rintro ⟨receipt, hreceipt⟩
      exact ⟨receipt, _, commit_eq_ok.mp (Prod.ext hreceipt rfl)⟩
    · rintro ⟨receipt, s', htx⟩
      exact ⟨receipt, congrArg Prod.fst (commit_eq_ok.mpr htx)⟩
  rw [hanswer]
  rcases hkept.kept with hspent | ⟨selection', hselected', hpending'⟩
  · -- the key is spent: neither side holds
    constructor
    · rintro ⟨receipt, s', htx⟩
      obtain ⟨_, -, -, -, ⟨⟩, -⟩ | ⟨hadmissible, -⟩ :=
        (completeReleaseActivationTx_eq_ok.mp htx).answer
      obtain ⟨r, hr, hrkey⟩ := List.mem_map.mp hspent
      exact absurd (hrkey.trans hcall.idempotencyKey.symm) (hadmissible.key r hr)
    · intro hroom
      obtain ⟨r, hr, hrkey⟩ := List.mem_map.mp hspent
      exact absurd hrkey (hroom.key r hr)
  · have hiff := completion_accepted_iff crates hkept.bounded hselected' hpending' hcall
    exact hiff

/-! ### The sample deployment -/

/-- The identity of the release of the sample deployment. -/
def sampleMarker : PendingReleaseActivation :=
  markerOf sampleContext.requestId sampleContext.idempotencyKey "release"
    workerHandoffPayloadDigest false none

def sampleSelection : ReleaseSelection where
  state := .prepared
  active := none
  previous := none
  pending := some sampleMarker

def samplePreparation : Op :=
  .prepareReleaseActivation sampleContext.requestId sampleContext.idempotencyKey "release"
    workerHandoffPayloadDigest false 1

def sampleCompletion : Op :=
  .completeReleaseActivation sampleContext "release" workerHandoffPayloadDigest false
    sampleMarker.view.toValue 1

def sampleStopped : Store :=
  sampleStore.after sampleCrates [.setDesiredModeAt .stopped 1]

/-- The stopped sample deployment prepares its release. -/
theorem sampleStopped_prepares :
    (sampleStopped.prepareReleaseActivation sampleCrates sampleContext.requestId
        sampleContext.idempotencyKey "release" workerHandoffPayloadDigest false 1).1 =
      .ok sampleSelection ∧
    (perform sampleCrates samplePreparation sampleStopped).operatorCommands.length = 0 ∧
    (perform sampleCrates samplePreparation sampleStopped).audit.length = 3 ∧
    (perform sampleCrates samplePreparation sampleStopped).metadata .desiredMode =
      some (modeAsStr .stopped) ∧
    ((perform sampleCrates samplePreparation sampleStopped).metadata .updatedAtMs).isSome := by
  decide +kernel

/-- The marker and the room of a state of the sample deployment. -/
structure SamplePrepared (s : Store) : Prop where
  bounded : LedgerBounded s
  selected : Selected s sampleSelection
  ledger : s.operatorCommands.length = 0
  audit : s.audit.length ≤ 5

def samplePrepared : List Op :=
  [.setDesiredModeAt .stopped 1, samplePreparation]

theorem after_samplePrepared : sampleStore.after sampleCrates samplePrepared =
    perform sampleCrates samplePreparation sampleStopped :=
  after_concat [.setDesiredModeAt .stopped 1] samplePreparation

theorem samplePrepared_facts : SamplePrepared (sampleStore.after sampleCrates samplePrepared) ∧
    (sampleStore.after sampleCrates samplePrepared).desiredMode = .ok .stopped ∧
    (sampleStore.after sampleCrates samplePrepared).audit.length = 3 ∧
    ((sampleStore.after sampleCrates samplePrepared).metadata .desiredMode).isSome ∧
    ((sampleStore.after sampleCrates samplePrepared).metadata .updatedAtMs).isSome := by
  obtain ⟨hread, hledger, haudit, hmode, hupdated⟩ := sampleStopped_prepares
  have hbounded : LedgerBounded sampleStopped := run_invariant
    (fun op _ => perform_ledgerBounded sampleCrates op) (ledgerBounded_fresh sampleStore_init) _
  obtain ⟨hkeyed, current, hcurrent⟩ : sampleStopped.queue.Keyed ∧
      ∃ selection, Selected sampleStopped selection := after_selected _ sampleStore_init _
  rw [after_samplePrepared]
  generalize sampleStopped = s at *
  have hselected := (prepareReleaseActivation_marker hkeyed hcurrent hread).1
  have hbounded' := perform_ledgerBounded sampleCrates samplePreparation hbounded
  exact ⟨⟨hbounded', hselected, hledger, by rw [haudit]; decide⟩, desiredMode_of_metadata hmode,
    haudit, by rw [hmode]; rfl, hupdated⟩

theorem sampleCompletion_call :
    CompletionCall sampleMarker sampleContext sampleMarker.view.toValue 1 where
  requestId := rfl
  idempotencyKey := rfl
  valid := sampleContext_valid
  admin := rfl
  matching := validateActivationResponse_view sampleMarker
  response := samplePrepared_facts.1.selected.validResponse rfl
  now := by decide

theorem SamplePrepared.markerRoom (h : SamplePrepared s) :
    MarkerRoom s sampleMarker.requestId sampleMarker.idempotencyKey := by
  have hempty : s.operatorCommands = [] := List.length_eq_zero_iff.mp h.ledger
  have hlimits : 0 < ledgerLimit .releaseActivate ∧
      5 < auditLimit "operator_command_release_activate_accepted" := by decide +kernel
  refine ⟨by simp [hempty], by simp [hempty], by rw [h.ledger]; exact hlimits.1, ?_⟩
  exact h.audit.trans_lt hlimits.2

private theorem SamplePrepared.activates (h : SamplePrepared s) :
    sampleCompletion.activates sampleCrates s = true := by
  obtain ⟨receipt, s', htx⟩ := (completion_accepted_iff sampleCrates h.bounded h.selected rfl
    sampleCompletion_call).mpr h.markerRoom
  have hanswer : sampleCompletion.answer sampleCrates s = some (.ok (.accepted receipt)) :=
    congrArg (some ∘ Prod.fst) (commit_eq_ok.mpr htx)
  show (sampleCompletion.accepts sampleCrates s).isSome = true
  rw [Op.accepts, hanswer]
  rfl

/-- The sample marker is completed when nothing happens between the phases. -/
theorem marker_completes_iff_prepared :
    ∃ receipt, ((sampleStore.after sampleCrates samplePrepared).completeReleaseActivation
      sampleCrates sampleContext "release" workerHandoffPayloadDigest false
      sampleMarker.view.toValue 1).1 = .ok (.accepted receipt) := by
  have hroom := samplePrepared_facts.1.markerRoom
  have hnone : ∀ op ∈ ([] : List Op), op.restores = false := by simp
  have hiff := marker_completes_iff sampleStore_init [.setDesiredModeAt .stopped 1]
    sampleStopped_prepares.1 hnone sampleCompletion_call
  rw [after_samplePrepared, samplePreparation, perform_prepareReleaseActivation] at hroom ⊢
  exact hiff.mpr hroom

/-- A completion whose key is recorded for another command of the same operator. -/
private theorem completion_conflict {context : OperatorCommandContext}
    {existing : OperatorCommandReceipt} (releaseId digest : String) (rollback : Bool)
    (response : Value) (now : Nat) (hvalid : context.Valid) (hadmin : context.capability = .admin)
    (hfind : findOperatorByKey crates s context.idempotencyKey = .ok (some existing))
    (hprincipal : existing.principal = context.principal)
    (hcapability : existing.capability = context.capability)
    (hfingerprint : existing.commandFingerprint = context.commandFingerprint)
    (hcommand : existing.command ≠ .releaseActivate) :
    completeReleaseActivationTx crates s context releaseId digest rollback response now =
      .error (.conflict "idempotency key was reused for another operator command") := by
  have hvalidate : context.validate = .ok () := OperatorCommandContext.validate_eq_ok.mpr hvalid
  have hduplicate : verifyDuplicateContext existing context = .ok () := by
    simp only [verifyDuplicateContext, bind_eq_ok, exists_const, ensure_eq_ok]
    exact ⟨hprincipal, hcapability, hfingerprint⟩
  simp only [completeReleaseActivationTx, hvalidate, hadmin, hfind, hduplicate, ensure, hcommand,
    bind, Except.bind, if_true, if_false]

/-- Another command of the operator, under the key of the marker. -/
def sampleReconcile : Op :=
  .admitOperatorCommand { sampleContext with requestId := (sampleUuid 11).text } .reconcile
    emptyParameters 1

/-- The room of the sample deployment is enough for another command. -/
private theorem SamplePrepared.reconciles (h : SamplePrepared s)
    (hmode : (s.metadata .desiredMode).isSome) (hupdated : (s.metadata .updatedAtMs).isSome) :
    ∃ receipt, sampleReconcile.accepts sampleCrates s = some receipt := by
  have hempty : s.operatorCommands = [] := List.length_eq_zero_iff.mp h.ledger
  have hvalid : OperatorCommandContext.Valid
      { sampleContext with requestId := (sampleUuid 11).text } :=
    ⟨by decide +kernel, sampleContext_valid.idempotencyKey, sampleContext_valid.principal,
      sampleContext_valid.commandFingerprint⟩
  have hresponse : ValidResponse emptyParameters :=
    ⟨by decide, by decide +kernel, by decide +kernel⟩
  have hlimits : 0 < ledgerLimit .reconcile ∧ 5 < auditLimit (acceptedAction .reconcile) := by
    decide +kernel
  have hadmissible : Admissible s { sampleContext with requestId := (sampleUuid 11).text }
      .reconcile emptyParameters :=
    ⟨by simp [hempty], by simp [hempty], by rw [h.ledger]; exact hlimits.1, hresponse⟩
  have hmutating : OperatorCommand.isReadOnly .reconcile = false := rfl
  have hnow : 1 < 2 ^ 63 := by decide
  obtain ⟨receipt, s', htx, -⟩ := command_admitted sampleCrates hmutating hvalid rfl hnow
    hadmissible (h.audit.trans_lt hlimits.2) hmode hupdated h.bounded.sequence_lt
  have hanswer : sampleReconcile.answer sampleCrates s = some (.ok (.accepted receipt)) :=
    congrArg (some ∘ Prod.fst) (commit_eq_ok.mpr htx)
  exact ⟨receipt, by rw [Op.accepts, hanswer]⟩

/-- The key of the sample marker is given to another command, and the completion of the marker is
refused. -/
theorem marker_key_taken :
    let s := sampleStore.after sampleCrates (samplePrepared ++ [sampleReconcile])
    s.desiredMode = .ok .stopped ∧ readSelection s = .ok sampleSelection ∧
      CompletionCall sampleMarker sampleContext sampleMarker.view.toValue 1 ∧
      sampleCompletion.answer sampleCrates s = some (.error
        (.conflict "idempotency key was reused for another operator command")) := by
  obtain ⟨hprepared, hstopped, -, hmode, hupdated⟩ := samplePrepared_facts
  rw [after_concat]
  generalize sampleStore.after sampleCrates samplePrepared = s at hprepared hstopped hmode hupdated ⊢
  obtain ⟨receipt, hreceipt⟩ := hprepared.reconciles hmode hupdated
  obtain ⟨call, hcall, haccepts⟩ := accepts_eq_some hprepared.bounded.queue hreceipt
  have hselected : Selected (perform sampleCrates sampleReconcile s) sampleSelection :=
    hprepared.selected.congr (perform_sameSelector hprepared.bounded.queue rfl)
  generalize perform sampleCrates sampleReconcile s = s' at haccepts hselected ⊢
  cases hcall
  refine ⟨?_, hselected.read, sampleCompletion_call, ?_⟩
  · have hsame : s'.metadata .desiredMode = s.metadata .desiredMode := haccepts.mode
    rw [Store.desiredMode, hsame]
    exact hstopped
  · -- the recorded response is the empty object
    have hempty : s.operatorCommands = [] := List.length_eq_zero_iff.mp hprepared.ledger
    have hreread : receipt.reread sampleCrates = some receipt :=
      OperatorCommandReceipt.reread_eq_some.mpr ⟨emptyParameters, by
        rw [haccepts.receipt_eq]; exact sampleCrates.fromStr_empty, by decide, by
        rw [haccepts.receipt_eq]; rfl⟩
    have hfind : findOperatorByKey sampleCrates s' sampleContext.idempotencyKey =
        .ok (some receipt) := by
      refine findOperatorByKey_eq_some.mpr ⟨_, ?_, haccepts.decodes.mpr hreread⟩
      rw [haccepts.ledger, hempty, List.nil_append]
      exact (lookup_eq_some (by simp)).mpr ⟨List.mem_singleton_self _, rfl⟩
    have hconflict := completion_conflict "release" workerHandoffPayloadDigest false
      sampleMarker.view.toValue 1 sampleContext_valid rfl hfind
      (by rw [haccepts.receipt_eq]; rfl) (by rw [haccepts.receipt_eq]; rfl)
      (by rw [haccepts.receipt_eq]; rfl)
      (by rw [haccepts.receipt_eq]; exact fun h => OperatorCommand.noConfusion h)
    show some (commit s' _).1 = _
    rw [hconflict, commit_error]

end AscensionWatchdog
