import AscensionWatchdog.Release.Activation

/-!
# The dispatcher of a release activation

`dispatchReleaseActivation` is the path of an activation through the owner of the store: a replay
is answered from the ledger, the deployment has to be stopped and idle, the bytes of the release
are verified before the marker is prepared and again before it is completed. When the second
verification fails, or the process ends there, the marker stays.

The marker binds the id of the request that prepared it. `redispatch_completes_iff` says what that
means for a second attempt under the same idempotency key: it completes the activation exactly
when it carries the same request id.
-/

namespace AscensionWatchdog

open Foundation Foundation.Json

variable {crates : Crates} {s s' : Store}

/-! ### The dispatcher -/

/-- Sanitized dispatcher failures. -/
inductive AdminDispatchError where
  | invalid
  | unauthorized
  | notFound
  | conflict
  | busy
  | persistenceUnavailable
  | unsupported
  | timeout
  | internal
  deriving DecidableEq, Repr

def AdminDispatchError.ofWatchdog : WatchdogError → AdminDispatchError
  | .invalidInput _ => .invalid
  | .missingState _ | .notFound _ => .notFound
  | .busy _ => .busy
  | .unauthorized _ => .unauthorized
  | .conflict _ | .identityMismatch _ => .conflict
  | .timeout _ => .timeout
  | .unsupported _ => .unsupported
  | .sqlite _ | .io _ => .persistenceUnavailable
  | .json _ => .invalid

section Dispatch

variable (crates : Crates) (s : Store) (world : DispatchWorld) (context : OperatorCommandContext)
  (request : ReleaseActivateRequest) (selection : ReleaseSelection)

/-- The retained receipt of an idempotency key. -/
def Store.operatorCommand (idempotencyKey : String) : Result (Option OperatorCommandReceipt) := do
  validateName idempotencyKey "idempotency key" 128
  findOperatorByKey crates s idempotencyKey

structure ReleaseActivateRequest where
  releaseId : String
  expectedReleaseDigest : String
  rollback : Bool
  deriving DecidableEq, Repr

def ReleaseActivateRequest.release : ReleaseIdentity :=
  ⟨request.releaseId, request.expectedReleaseDigest⟩

structure ProtectedReleaseInspection where
  manifestDigest : String
  compatible : Bool
  deriving DecidableEq, Repr

/-- What one dispatch meets outside of the store: the owned children, the singleton lock, the
catalog at the two inspections, and the clock at the two writes. -/
structure DispatchWorld where
  children : List String
  locked : Bool
  inspectFirst : String → Except AdminDispatchError ProtectedReleaseInspection
  inspectSecond : String → Except AdminDispatchError ProtectedReleaseInspection
  preparedAtMs : Nat
  completedAtMs : Nat

def verifyReleaseManifest
    (inspect : String → Except AdminDispatchError ProtectedReleaseInspection)
    (releaseId expectedDigest : String) : Except AdminDispatchError Unit := do
  let inspection ← inspect releaseId
  ensure (inspection.manifestDigest = expectedDigest ∧ inspection.compatible = true) .conflict

/-- No child, no unsettled launch and no handoff that waits for reconciliation. -/
def requireIdle (children : List String) : Except AdminDispatchError Unit := do
  ensure (children = []) .busy
  let intents ← (s.unsettledLaunchIntents crates).mapError .ofWatchdog
  ensure (intents = []) .busy
  let handoff? ← (s.nextWorkerHandoffForReconciliation crates).mapError .ofWatchdog
  ensure handoff?.isNone .busy

/-- The request must agree with the selector. -/
def requireSelectable (request : ReleaseActivateRequest) : Except AdminDispatchError Unit :=
  match selection.pending with
  | some pending =>
    ensure (pending.release = request.release ∧ pending.rollback = request.rollback) .conflict
  | none =>
    if request.rollback then do
      let previous ← orError selection.previous .conflict
      ensure (previous = request.release) .conflict
    else ensure (selection.active ≠ some request.release) .conflict

def validateReleaseActivation : Except AdminDispatchError ReleaseSelection := do
  let status ← s.status.mapError .ofWatchdog
  ensure (status.desiredMode = .stopped) .conflict
  requireIdle crates s world.children
  let selection ← (readSelection s).mapError .ofWatchdog
  requireSelectable selection request
  verifyReleaseManifest world.inspectFirst request.releaseId request.expectedReleaseDigest
  return selection

/-- The recorded response, read back. -/
def activationAnswer (response : Value) : Except AdminDispatchError ReleaseActivationView :=
  orError (ReleaseActivationView.fromValue response) .persistenceUnavailable

/-- A replay is answered from the durable receipt before the catalog is opened. -/
def replayActivation (existing : OperatorCommandReceipt) (context : OperatorCommandContext) :
    Except AdminDispatchError ReleaseActivationView := do
  ensure (existing.principal = context.principal ∧ existing.capability = .admin) .unauthorized
  ensure (existing.command = .releaseActivate ∧
    existing.commandFingerprint = context.commandFingerprint) .conflict
  activationAnswer existing.response

/-- The answer that the dispatcher records. -/
def ReleaseActivateRequest.view : ReleaseActivationView where
  releaseId := request.releaseId
  releaseDigest := request.expectedReleaseDigest
  previousReleaseId := selection.active.map ReleaseIdentity.releaseId
  previousReleaseDigest := selection.active.map ReleaseIdentity.releaseDigest
  rollback := request.rollback

/-- After the preparation: the second inspection and the commit of the selector. -/
def completeDispatch : Except AdminDispatchError ReleaseActivationView × Store :=
  match verifyReleaseManifest world.inspectSecond request.releaseId
    request.expectedReleaseDigest with
  | .error e => (.error e, s)
  | .ok () =>
    match s.completeReleaseActivation crates context request.releaseId
      request.expectedReleaseDigest request.rollback (request.view selection).toValue
      world.completedAtMs with
    | (.error e, s) => (.error (.ofWatchdog e), s)
    | (.ok (.accepted receipt), s) | (.ok (.replayed receipt), s) =>
      (activationAnswer receipt.response, s)
    | (.ok .readOnly, s) => (.error .internal, s)

/-- One activation, from the request to its answer. -/
def dispatchReleaseActivation : Except AdminDispatchError ReleaseActivationView × Store :=
  match s.operatorCommand crates context.idempotencyKey with
  | .error e => (.error (.ofWatchdog e), s)
  | .ok (some existing) => (replayActivation existing context, s)
  | .ok none =>
    match validateReleaseActivation crates s world request with
    | .error e => (.error e, s)
    | .ok selection =>
      if world.locked then
        match s.prepareReleaseActivation crates context.requestId context.idempotencyKey
          request.releaseId request.expectedReleaseDigest request.rollback world.preparedAtMs with
        | (.error e, s) => (.error (.ofWatchdog e), s)
        | (.ok _, s) => completeDispatch crates s world context request selection
      else (.error .unauthorized, s)

end Dispatch

/-- A dispatch that passed its checks and stops at the second inspection leaves the marker. -/
theorem dispatch_interrupted {world : DispatchWorld} {context : OperatorCommandContext}
    {request : ReleaseActivateRequest} {selection marked : ReleaseSelection}
    {e : AdminDispatchError}
    (hfresh : s.operatorCommand crates context.idempotencyKey = .ok none)
    (hvalid : validateReleaseActivation crates s world request = .ok selection)
    (hlocked : world.locked = true)
    (hprepare : (s.prepareReleaseActivation crates context.requestId context.idempotencyKey
      request.releaseId request.expectedReleaseDigest request.rollback world.preparedAtMs).1 =
        .ok marked)
    (hverify : verifyReleaseManifest world.inspectSecond request.releaseId
      request.expectedReleaseDigest = .error e) :
    dispatchReleaseActivation crates s world context request =
      (.error e, perform crates (.prepareReleaseActivation context.requestId
        context.idempotencyKey request.releaseId request.expectedReleaseDigest request.rollback
        world.preparedAtMs) s) := by
  obtain ⟨s', hs'⟩ : ∃ s', s.prepareReleaseActivation crates context.requestId
      context.idempotencyKey request.releaseId request.expectedReleaseDigest request.rollback
      world.preparedAtMs = (.ok marked, s') := ⟨_, Prod.ext hprepare rfl⟩
  rw [perform_prepareReleaseActivation, hs']
  simp only [dispatchReleaseActivation, hfresh, hvalid, hlocked, if_true, hs', completeDispatch,
    hverify]

/-! ### Dispatching a prepared activation again -/

/-- What a second attempt meets: the request and the key of the marker, a stopped and idle
deployment, verified bytes, and room in the ledger and the audit table. -/
structure Redispatch (crates : Crates) (s : Store) (pending : PendingReleaseActivation)
    (world : DispatchWorld) (context : OperatorCommandContext)
    (request : ReleaseActivateRequest) : Prop where
  release : request.release = pending.release
  rollback : request.rollback = pending.rollback
  idempotencyKey : context.idempotencyKey = pending.idempotencyKey
  valid : context.Valid
  admin : context.capability = .admin
  stopped : ∃ status, s.status = .ok status ∧ status.desiredMode = .stopped
  idle : requireIdle crates s world.children = .ok ()
  locked : world.locked = true
  verifiedFirst : verifyReleaseManifest world.inspectFirst request.releaseId
    request.expectedReleaseDigest = .ok ()
  verifiedSecond : verifyReleaseManifest world.inspectSecond request.releaseId
    request.expectedReleaseDigest = .ok ()
  room : MarkerRoom s context.requestId context.idempotencyKey
  completedAtMs : world.completedAtMs < 2 ^ 63

section Redispatch

variable {selection : ReleaseSelection} {pending : PendingReleaseActivation}
  {world : DispatchWorld} {context : OperatorCommandContext} {request : ReleaseActivateRequest}

private theorem modeAsStr_of_desiredMode {mode : DesiredMode} (h : s.desiredMode = .ok mode) :
    s.metadata .desiredMode = some (modeAsStr mode) := by
  obtain ⟨text, htext, hmode⟩ := orError_bind.mp h
  rw [htext]
  unfold parseMode at hmode
  repeat' split at hmode
  all_goals first | cases hmode
  all_goals exact congrArg some ‹_›

theorem Redispatch.mode (h : Redispatch crates s pending world context request) :
    s.metadata .desiredMode = some (modeAsStr .stopped) := by
  obtain ⟨status, hstatus, hstopped⟩ := h.stopped
  obtain ⟨_, -, hstatus⟩ := bind_eq_ok.mp hstatus
  obtain ⟨_, -, hstatus⟩ := bind_eq_ok.mp hstatus
  obtain ⟨mode, hmode, hstatus⟩ := bind_eq_ok.mp hstatus
  obtain ⟨_, -, hstatus⟩ := bind_eq_ok.mp hstatus
  obtain ⟨_, -, hstatus⟩ := bind_eq_ok.mp hstatus
  obtain ⟨-, hstatus⟩ := ensure_bind_eq_ok.mp hstatus
  iterate 4 obtain ⟨_, -, hstatus⟩ := bind_eq_ok.mp hstatus
  cases pure_eq_ok.mp hstatus
  exact modeAsStr_of_desiredMode (hstopped ▸ hmode)

theorem Redispatch.operatorCommand (h : Redispatch crates s pending world context request) :
    s.operatorCommand crates context.idempotencyKey = .ok none :=
  bind_eq_ok.mpr ⟨(), validateName_eq_ok.mpr h.valid.idempotencyKey,
    findOperatorByKey_eq_none.mpr h.room.key⟩

theorem Redispatch.validate (h : Redispatch crates s pending world context request)
    (hselected : Selected s selection) (hpending : selection.pending = some pending) :
    validateReleaseActivation crates s world request = .ok selection := by
  obtain ⟨status, hstatus, hstopped⟩ := h.stopped
  have hselectable : requireSelectable selection request = .ok () := by
    rw [requireSelectable, hpending]
    exact ensure_eq_ok.mpr ⟨h.release.symm, h.rollback.symm⟩
  simp only [validateReleaseActivation, bind_eq_ok, mapError_eq_ok, ensure_eq_ok, pure_eq_ok,
    exists_const]
  exact ⟨status, hstatus, hstopped, (), h.idle, selection, hselected.read, (), hselectable, (),
    h.verifiedFirst, rfl⟩

/-- The preparation of a second attempt finds the marker, and compares the request id. -/
theorem Redispatch.prepare (h : Redispatch crates s pending world context request)
    (hselected : Selected s selection) (hpending : selection.pending = some pending) :
    s.prepareReleaseActivation crates context.requestId context.idempotencyKey request.releaseId
        request.expectedReleaseDigest request.rollback world.preparedAtMs =
      if context.requestId = pending.requestId then (.ok selection, s)
      else (.error (.conflict
        "another release activation is prepared; retry its exact idempotency key first"), s) := by
  have hrelease : request.release.Valid := by
    rw [h.release]
    exact (hselected.encodes.marked pending hpending).release_valid
  have hchecks : PrepareChecks s context.requestId context.idempotencyKey request.releaseId
      request.expectedReleaseDigest :=
    ⟨(isUuidV4_bounds h.valid.requestId).2.2, h.valid.idempotencyKey, hrelease.releaseId,
      hrelease.releaseDigest, h.mode⟩
  by_cases hsame : context.requestId = pending.requestId
  · rw [if_pos hsame]
    have hmarker : selection.pending = some (markerOf context.requestId context.idempotencyKey
        request.releaseId request.expectedReleaseDigest request.rollback pending.previous) := by
      rw [hpending, hsame, h.idempotencyKey, h.rollback]
      exact congrArg (fun r => some { pending with release := r }) h.release.symm
    have htx : prepareReleaseActivationTx crates s context.requestId context.idempotencyKey
        request.releaseId request.expectedReleaseDigest request.rollback world.preparedAtMs =
          .ok ((), s) :=
      prepareReleaseActivationTx_eq_ok.mpr ⟨hchecks, selection, hselected.read,
        .inl ⟨pending.previous, hmarker, rfl⟩⟩
    exact commitThen_eq_ok.mpr ⟨(), htx, hselected.read⟩
  · rw [if_neg hsame]
    have hrequest : validateName context.requestId "release activation request id" 128 = .ok () :=
      validateName_eq_ok.mpr hchecks.requestId
    have hkey : validateName context.idempotencyKey "release activation idempotency key" 128 =
        .ok () := validateName_eq_ok.mpr hchecks.idempotencyKey
    have hid : validateName request.releaseId "release activation release id" 128 = .ok () :=
      validateName_eq_ok.mpr hchecks.releaseId
    have hdigest : (validateDigest request.expectedReleaseDigest).mapError
        WatchdogError.invalidInput = .ok () :=
      mapError_eq_ok.mpr (ensure_eq_ok.mpr hchecks.releaseDigest)
    have hother : ¬ (pending.release = ⟨request.releaseId, request.expectedReleaseDigest⟩ ∧
        pending.rollback = request.rollback ∧ pending.requestId = context.requestId ∧
        pending.idempotencyKey = context.idempotencyKey) :=
      fun hall => hsame hall.2.2.1.symm
    have htx : prepareReleaseActivationTx crates s context.requestId context.idempotencyKey
        request.releaseId request.expectedReleaseDigest request.rollback world.preparedAtMs =
          .error (.conflict
            "another release activation is prepared; retry its exact idempotency key first") := by
      simp only [prepareReleaseActivationTx, hrequest, hkey, hid, hdigest, hchecks.stopped,
        hselected.read, hpending, orError, ensure, hother, bind, Except.bind, if_true, if_false]
    rw [Store.prepareReleaseActivation, htx]
    rfl

/-- The completion of a second attempt with the request id of the marker. -/
theorem Redispatch.complete (h : Redispatch crates s pending world context request)
    (hbounded : LedgerBounded s) (hselected : Selected s selection)
    (hpending : selection.pending = some pending)
    (hsame : context.requestId = pending.requestId) :
    ∃ s', completeDispatch crates s world context request selection = (.ok pending.view, s') ∧
      readSelection s' = .ok (.activate pending) := by
  have hview : request.view selection = pending.view := by
    have hcaptured := hselected.captured pending hpending
    have hid : request.releaseId = pending.release.releaseId :=
      congrArg ReleaseIdentity.releaseId h.release
    have hdigest : request.expectedReleaseDigest = pending.release.releaseDigest :=
      congrArg ReleaseIdentity.releaseDigest h.release
    simp only [ReleaseActivateRequest.view, PendingReleaseActivation.view, hcaptured, hid, hdigest,
      h.rollback]
  have hcall : CompletionCall pending context pending.view.toValue world.completedAtMs :=
    ⟨hsame, h.idempotencyKey, h.valid, h.admin, validateActivationResponse_view pending,
      hselected.validResponse hpending, h.completedAtMs⟩
  have hroom : MarkerRoom s pending.requestId pending.idempotencyKey := by
    rw [← hsame, ← h.idempotencyKey]
    exact h.room
  obtain ⟨receipt, s', htx⟩ :=
    (completion_accepted_iff crates hbounded hselected hpending hcall).mpr hroom
  have hrelease : pending.release = ⟨request.releaseId, request.expectedReleaseDigest⟩ :=
    h.release.symm
  rw [hrelease, ← h.rollback] at htx
  have hcommit : s.completeReleaseActivation crates context request.releaseId
      request.expectedReleaseDigest request.rollback pending.view.toValue world.completedAtMs =
        (.ok (.accepted receipt), s') := commit_eq_ok.mpr htx
  refine ⟨s', ?_, ?_⟩
  · -- the answer is read back from the receipt
    obtain ⟨_, -, -, -, ⟨⟩, -⟩ | ⟨-, _, -, hrecord⟩ :=
      (completeReleaseActivationTx_eq_ok.mp htx).answer
    obtain ⟨-, -, -, houtcome, -⟩ := recordOperatorCommandTx_eq_ok hrecord
    have hresponse : receipt.response = pending.view.toValue := by
      cases houtcome
      rfl
    rw [completeDispatch, h.verifiedSecond]
    simp only [hview, hcommit, activationAnswer, hresponse,
      ReleaseActivationView.fromValue_toValue, orError]
  · have hactivates : (Op.completeReleaseActivation context request.releaseId
        request.expectedReleaseDigest request.rollback pending.view.toValue
        world.completedAtMs).activates crates s = true := by
      simp only [Op.activates, Op.accepts, Op.answer, hcommit, Option.isSome_some]
    have hperform : perform crates (.completeReleaseActivation context request.releaseId
        request.expectedReleaseDigest request.rollback pending.view.toValue
        world.completedAtMs) s = s' := congrArg Prod.snd hcommit
    obtain ⟨selection', hselected', hstep⟩ :=
      perform_selected crates _ hbounded.queue hselected
    rw [hperform] at hselected'
    cases hstep with
    | activated _ hmarked =>
      cases hpending.symm.trans hmarked
      exact hselected'.read
    | same hop | prepared hop | cleared hop =>
      rw [hactivates] at hop
      cases hop

/-- A second attempt, in a state with the marker. -/
theorem Redispatch.dispatch (h : Redispatch crates s pending world context request)
    (hbounded : LedgerBounded s) (hselected : Selected s selection)
    (hpending : selection.pending = some pending) :
    (context.requestId = pending.requestId → ∃ s',
        dispatchReleaseActivation crates s world context request = (.ok pending.view, s') ∧
          readSelection s' = .ok (.activate pending)) ∧
      (context.requestId ≠ pending.requestId →
        dispatchReleaseActivation crates s world context request = (.error .conflict, s)) := by
  have hprepare := h.prepare hselected hpending
  have hvalidate := h.validate hselected hpending
  constructor
  · intro hsame
    obtain ⟨s', hs', hread⟩ := h.complete hbounded hselected hpending hsame
    rw [if_pos hsame] at hprepare
    refine ⟨s', ?_, hread⟩
    simp only [dispatchReleaseActivation, h.operatorCommand, hvalidate, h.locked, if_true,
      hprepare, hs']
  · intro hother
    rw [if_neg hother] at hprepare
    simp only [dispatchReleaseActivation, h.operatorCommand, hvalidate, h.locked, if_true,
      hprepare, AdminDispatchError.ofWatchdog]

end Redispatch

/-- **Resuming an activation.** In every state with a prepared marker that a run reaches, a second
attempt under the key of the marker, with everything else in order, completes the activation
exactly when its request id is that of the marker; with another one it is refused and nothing
changes. -/
theorem redispatch_completes_iff {config : StoreConfig} {now : Nat} {epoch : UuidV4} {s₀ : Store}
    (hinit : Store.initialize config now epoch = .ok s₀) {ops : List Op}
    {selection : ReleaseSelection} {pending : PendingReleaseActivation}
    (hread : readSelection (s₀.after crates ops) = .ok selection)
    (hpending : selection.pending = some pending) {world : DispatchWorld}
    {context : OperatorCommandContext} {request : ReleaseActivateRequest}
    (hattempt : Redispatch crates (s₀.after crates ops) pending world context request) :
    ((∃ s', dispatchReleaseActivation crates (s₀.after crates ops) world context request =
          (.ok pending.view, s') ∧ readSelection s' = .ok (.activate pending)) ↔
        context.requestId = pending.requestId) ∧
      (context.requestId ≠ pending.requestId →
        dispatchReleaseActivation crates (s₀.after crates ops) world context request =
          (.error .conflict, s₀.after crates ops)) := by
  have hbounded : LedgerBounded (s₀.after crates ops) :=
    run_invariant (fun op _ => perform_ledgerBounded crates op) (ledgerBounded_fresh hinit) ops
  obtain ⟨-, current, hcurrent⟩ := after_selected crates hinit ops
  cases hcurrent.read.symm.trans hread
  obtain ⟨hcompletes, hrefused⟩ := hattempt.dispatch hbounded hcurrent hpending
  refine ⟨⟨fun hok => ?_, hcompletes⟩, hrefused⟩
  by_contra hother
  obtain ⟨s', hs', -⟩ := hok
  rw [hrefused hother] at hs'
  cases hs'

/-! ### The sample deployment -/

def sampleRequest : ReleaseActivateRequest where
  releaseId := "release"
  expectedReleaseDigest := workerHandoffPayloadDigest
  rollback := false

/-- The catalog of the sample deployment holds the release. -/
def sampleWorld : DispatchWorld where
  children := []
  locked := true
  inspectFirst _ := .ok ⟨workerHandoffPayloadDigest, true⟩
  inspectSecond _ := .ok ⟨workerHandoffPayloadDigest, true⟩
  preparedAtMs := 1
  completedAtMs := 1

/-- The bytes of the release cannot be read at the second inspection. -/
def sampleInterrupted : DispatchWorld :=
  { sampleWorld with inspectSecond := fun _ => .error .conflict }

/-- The request of the operator, built again. -/
def sampleResent : OperatorCommandContext :=
  { sampleContext with requestId := (sampleUuid 11).text }

/-- Nothing runs in a store without launch intents and handoffs. -/
private theorem requireIdle_of_empty (hintents : s.launchIntents.length = 0)
    (hhandoffs : s.handoffs.length = 0) : requireIdle crates s [] = .ok () := by
  have hintents : s.launchIntents = [] := List.length_eq_zero_iff.mp hintents
  have hhandoffs : s.handoffs = [] := List.length_eq_zero_iff.mp hhandoffs
  have hunsettled : s.unsettledLaunchIntents crates = .ok [] := by
    rw [Store.unsettledLaunchIntents, hintents, List.filter_nil, List.mergeSort_nil]
    rfl
  have hpending : s.nextWorkerHandoffForReconciliation crates = .ok none := by
    rw [Store.nextWorkerHandoffForReconciliation, hhandoffs]
    rfl
  simp only [requireIdle, hunsettled, hpending, bind_eq_ok, mapError_eq_ok, ensure_eq_ok,
    exists_const]
  exact ⟨trivial, [], rfl, rfl, none, rfl, rfl⟩

private theorem status_of_mode
    (h : s.status.toOption.map StoreStatus.desiredMode = some .stopped) :
    ∃ status, s.status = .ok status ∧ status.desiredMode = .stopped := by
  obtain ⟨status, hstatus, hmode⟩ := Option.map_eq_some_iff.mp h
  refine ⟨status, ?_, hmode⟩
  cases hs : s.status with
  | ok status' =>
    rw [hs] at hstatus
    cases hstatus
    rfl
  | error e =>
    rw [hs] at hstatus
    cases hstatus

/-- The sample deployment is idle, before and after the preparation. -/
theorem sampleStopped_idle :
    (sampleStopped.launchIntents.length = 0 ∧ sampleStopped.handoffs.length = 0 ∧
      sampleStopped.operatorCommands.length = 0 ∧
      sampleStopped.status.toOption.map StoreStatus.desiredMode = some .stopped ∧
      readSelection sampleStopped = .ok emptySelection) ∧
    (perform sampleCrates samplePreparation sampleStopped).launchIntents.length = 0 ∧
    (perform sampleCrates samplePreparation sampleStopped).handoffs.length = 0 ∧
    (perform sampleCrates samplePreparation sampleStopped).status.toOption.map
      StoreStatus.desiredMode = some .stopped := by
  decide +kernel

private theorem sampleVerified : verifyReleaseManifest sampleWorld.inspectFirst
    sampleRequest.releaseId sampleRequest.expectedReleaseDigest = .ok () :=
  bind_eq_ok.mpr ⟨_, rfl, ensure_eq_ok.mpr ⟨rfl, rfl⟩⟩

/-- Both the request and its repetition find everything in order. -/
private theorem sampleRedispatch {context : OperatorCommandContext} (hvalid : context.Valid)
    (hadmin : context.capability = .admin)
    (hkey : context.idempotencyKey = sampleMarker.idempotencyKey) :
    Redispatch sampleCrates (sampleStore.after sampleCrates samplePrepared) sampleMarker
      sampleWorld context sampleRequest := by
  have hprepared := samplePrepared_facts.1
  obtain ⟨-, hintents, hhandoffs, hstatus⟩ := sampleStopped_idle
  rw [after_samplePrepared] at hprepared ⊢
  generalize perform sampleCrates samplePreparation sampleStopped = s at *
  have hempty : s.operatorCommands = [] := List.length_eq_zero_iff.mp hprepared.ledger
  have hroom := hprepared.markerRoom
  exact
    { release := rfl
      rollback := rfl
      idempotencyKey := hkey
      valid := hvalid
      admin := hadmin
      stopped := status_of_mode hstatus
      idle := requireIdle_of_empty hintents hhandoffs
      locked := rfl
      verifiedFirst := sampleVerified
      verifiedSecond := sampleVerified
      room := ⟨by simp [hempty], by simp [hempty], hroom.ledger, hroom.audit⟩
      completedAtMs := by decide }

/-- The exact request resumes the activation. -/
theorem redispatch_completes_iff_exact :
    ∃ s', dispatchReleaseActivation sampleCrates (sampleStore.after sampleCrates samplePrepared)
        sampleWorld sampleContext sampleRequest = (.ok sampleMarker.view, s') ∧
      readSelection s' = .ok (.activate sampleMarker) :=
  (redispatch_completes_iff sampleStore_init samplePrepared_facts.1.selected.read rfl
    (sampleRedispatch sampleContext_valid rfl rfl)).1.mpr rfl

/-- The first attempt stops at the second inspection. The same command under the same key, built
again, is refused though nothing else is in its way. -/
theorem resent_activation_refused :
    let s := (dispatchReleaseActivation sampleCrates sampleStopped sampleInterrupted sampleContext
      sampleRequest).2
    (dispatchReleaseActivation sampleCrates sampleStopped sampleInterrupted sampleContext
        sampleRequest).1 = .error .conflict ∧
      readSelection s = .ok sampleSelection ∧
      Redispatch sampleCrates s sampleMarker sampleWorld sampleResent sampleRequest ∧
      dispatchReleaseActivation sampleCrates s sampleWorld sampleResent sampleRequest =
        (.error .conflict, s) := by
  obtain ⟨⟨hintents, hhandoffs, hledger, hstatus, hread⟩, -⟩ := sampleStopped_idle
  have hempty : sampleStopped.operatorCommands = [] := List.length_eq_zero_iff.mp hledger
  obtain ⟨status, hstatus, hstopped⟩ := status_of_mode hstatus
  have hfresh : sampleStopped.operatorCommand sampleCrates sampleContext.idempotencyKey =
      .ok none :=
    bind_eq_ok.mpr ⟨(), validateName_eq_ok.mpr sampleContext_valid.idempotencyKey,
      findOperatorByKey_eq_none.mpr (by simp [hempty])⟩
  have hvalid : validateReleaseActivation sampleCrates sampleStopped sampleInterrupted
      sampleRequest = .ok emptySelection := by
    simp only [validateReleaseActivation, bind_eq_ok, mapError_eq_ok, ensure_eq_ok, pure_eq_ok,
      exists_const]
    exact ⟨status, hstatus, hstopped, (), requireIdle_of_empty hintents hhandoffs, emptySelection,
      hread, (), rfl, (), sampleVerified, rfl⟩
  have hinterrupted : dispatchReleaseActivation sampleCrates sampleStopped sampleInterrupted
      sampleContext sampleRequest =
        (.error .conflict, perform sampleCrates samplePreparation sampleStopped) :=
    dispatch_interrupted hfresh hvalid rfl sampleStopped_prepares.1 rfl
  have hresent : sampleResent.Valid :=
    ⟨by decide +kernel, sampleContext_valid.idempotencyKey, sampleContext_valid.principal,
      sampleContext_valid.commandFingerprint⟩
  have hredispatch := sampleRedispatch hresent rfl rfl
  have hprepared := samplePrepared_facts.1
  have hother : sampleResent.requestId ≠ sampleMarker.requestId := by decide +kernel
  have hrefused := (hredispatch.dispatch hprepared.bounded hprepared.selected rfl).2 hother
  rw [after_samplePrepared] at hredispatch hprepared hrefused
  rw [hinterrupted]
  generalize perform sampleCrates samplePreparation sampleStopped = s at *
  exact ⟨rfl, hprepared.selected.read, hredispatch, hrefused⟩

end AscensionWatchdog
