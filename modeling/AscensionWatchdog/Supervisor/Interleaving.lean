import AscensionWatchdog.Ledger.Calls
import AscensionWatchdog.Supervisor.Coordinator

/-!
# Passes as interleavings of store transactions

Between two transactions of the supervisor others may write to the store, and what they wrote is
what the next transaction finds. A pass is therefore not one step of the store but a run of it, in
which the operations of the supervisor alternate with the mode changes of others.

`PassFrame` collects what a relation between worlds has to allow for every routine of a pass to stay
within it: every operation of `Op.ofSupervisor` on the store, with whatever came before it, and
every other call, which leaves the store alone. The routines are then followed once, in the order of
the source, for all such relations. `Interleaves` is the one for the store: the world after a
routine has the store of a run of supervisor operations and of those mode changes that the answers
on the way carried.
-/

namespace AscensionWatchdog

open Foundation Foundation.Json Program

/-- The operations that a pass performs before it settles a drain. -/
def Op.ofSupervisor : Op → Bool
  | .quarantineInterruptedJobs .. | .configureWorkerBindingAt .. | .setWorkerControlAt ..
  | .claimNextWorkerHandoff .. | .markWorkerHandoffMayHaveBeenDispatchedAt ..
  | .markWorkerHandoffAdmittedAt .. | .completeWorkerHandoffWithAuthorityAt ..
  | .acknowledgeWorkerHandoffWithAuthorityAt .. | .establishNewGeneration ..
  | .prepareLaunchIntent .. | .recordLaunchProof .. | .activateLaunchIntent ..
  | .cleanLaunchIntent .. | .bindWorkerBootstrap .. | .bindGatewayHealth .. | .upsertComponent ..
  | .persistComponentIdentity .. | .clearComponentIdentity .. | .recordRestartWithElapsed .. => true
  | .auditEvent action _ _ => !isEmergencyStopAuditAction action
  | _ => false

theorem Op.isQuiet_of_ofSupervisor {op : Op} (h : op.ofSupervisor = true) : op.isQuiet = true := by
  cases op <;> first | rfl | exact h

/-- What a relation between worlds allows, so that the routines of a pass stay within it. -/
structure PassFrame (crates : Crates) (R : World → World → Prop) : Prop where
  refl : ∀ w, R w w
  trans : ∀ w₁ w₂ w₃, R w₁ w₂ → R w₂ w₃ → R w₁ w₃
  /-- memory, records and processes may change, and answers are used up -/
  aside : ∀ w w' : World, w'.store = w.store → w'.answers <:+ w.answers → R w w'
  /-- one operation on the store -/
  operation : ∀ {α : Type} (call : Store → Result α × Store) (op : Op),
    op.ofSupervisor = true → (∀ s, (call s).2 = perform crates op s) → Keeps R (storeCall call)
  /-- a read of the store, before which others may have written -/
  reading : ∀ {α : Type} (read : Store → Result α), Keeps R (storeRead read)

section Frame

variable {crates : Crates} {R : World → World → Prop} (hR : PassFrame crates R)

include hR

namespace PassFrame

variable {α β ε ε' ι : Type}

/-! ### Composition -/

theorem pure {a : α} : Keeps R (pure a : Program World ε α) :=
  fun w => hR.refl w

theorem fail {e : ε} : Keeps R (Program.fail e : Program World ε α) :=
  fun w => hR.refl w

theorem gets {f : World → α} : Keeps R (Program.gets f : Program World ε α) :=
  fun w => hR.refl w

theorem ofExcept {r : Except ε α} : Keeps R (Program.ofExcept r : Program World ε α) := by
  cases r with
  | ok a => exact hR.pure
  | error e => exact hR.fail

theorem bind {m : Program World ε α} {f : α → Program World ε β} (hm : Keeps R m)
    (hf : ∀ a, Keeps R (f a)) : Keeps R (m >>= f) :=
  have : IsTrans World R := ⟨hR.trans⟩
  Keeps.bind hm hf

theorem forEach {body : ι → Program World ε Unit} (h : ∀ a, Keeps R (body a)) (as : List ι) :
    Keeps R (Program.forEach body as) :=
  have : Std.Refl R := ⟨hR.refl⟩
  have : IsTrans World R := ⟨hR.trans⟩
  Keeps.forEach h as

theorem forSome {body : ι → Program World ε Unit} {o : Option ι} (h : ∀ a, Keeps R (body a)) :
    Keeps R (Program.forSome body o) :=
  have : Std.Refl R := ⟨hR.refl⟩
  Keeps.forSome h

theorem modify {f : World → World} (hstore : ∀ w, (f w).store = w.store)
    (hanswers : ∀ w, (f w).answers = w.answers) : Keeps R (Program.modify f : Program World ε Unit) :=
  fun w => hR.aside w (f w) (hstore w) (hanswers w ▸ List.suffix_refl _)

/-- A routine whose error is looked at. -/
theorem caught {m : Program World ε α} {f : Except ε α → Program World ε' β} (hm : Keeps R m)
    (hok : ∀ a, Keeps R (f (.ok a))) (herror : ∀ e, Keeps R (f (.error e))) :
    Keeps R (attempt m >>= f) := by
  refine hR.bind hm.attempt fun r => ?_
  cases r with
  | ok a => exact hok a
  | error e => exact herror e

/-! ### Calls -/

theorem nextAnswer {pick : Answer → Option α} :
    Keeps R (AscensionWatchdog.nextAnswer pick : Program World ε α) := by
  intro w
  unfold AscensionWatchdog.nextAnswer
  cases hanswers : w.answers with
  | nil => exact hR.refl w
  | cons answer rest =>
    have hrest : R w { w with answers := rest } :=
      hR.aside w _ rfl (hanswers ▸ List.suffix_cons answer rest)
    cases hpick : pick answer with
    | some a => simpa [hpick] using hrest
    | none => simpa [hpick] using hrest

theorem askHost : Keeps R askHost :=
  hR.bind hR.nextAnswer fun _ => hR.ofExcept

theorem newUuid : Keeps R (AscensionWatchdog.newUuid : Program World ε UuidV4) :=
  hR.nextAnswer

theorem readElapsed : Keeps R readElapsed :=
  hR.nextAnswer

theorem auditEvent {action : String} (detail : String) (nowMs : Nat)
    (h : isEmergencyStopAuditAction action = false) :
    Keeps R (AscensionWatchdog.auditEvent action detail nowMs) :=
  hR.operation _ (.auditEvent action detail nowMs) (by simp [Op.ofSupervisor, h]) fun _ => rfl

theorem upsertComponent (record : ComponentRecord) (nowMs : Nat) :
    Keeps R (AscensionWatchdog.upsertComponent record nowMs) :=
  hR.operation _ (.upsertComponent record nowMs) rfl fun _ => rfl

theorem clearComponentIdentity (componentId : String) (nowMs : Nat) :
    Keeps R (AscensionWatchdog.clearComponentIdentity componentId nowMs) :=
  hR.operation _ (.clearComponentIdentity componentId nowMs) rfl fun _ => rfl

theorem readComponent (componentId : String) : Keeps R (readComponent componentId) :=
  hR.reading _

theorem cleanLaunchIntent (intentId : String) (nowMs : Nat) :
    Keeps R (AscensionWatchdog.cleanLaunchIntent crates intentId nowMs) :=
  hR.bind (hR.operation _ (.cleanLaunchIntent intentId nowMs) rfl fun _ => rfl) fun _ => hR.pure

theorem componentIdentity (sv : Supervisor) (componentId : String) :
    Keeps R (componentIdentity sv componentId) :=
  hR.reading _

theorem getChild (componentId : String) :
    Keeps R (AscensionWatchdog.getChild componentId : Program World ε _) :=
  hR.gets

theorem setChild (componentId : String) (child : Option RuntimeChild) :
    Keeps R (setChild componentId child) :=
  hR.modify (fun _ => rfl) fun _ => rfl

theorem editReport (edit : ReconcileReport → ReconcileReport) : Keeps R (editReport edit) :=
  hR.modify (fun _ => rfl) fun _ => rfl

theorem reportError (message : String) : Keeps R (reportError message) :=
  hR.editReport _

theorem reportQuarantined (componentId : String) : Keeps R (reportQuarantined componentId) :=
  hR.editReport _

theorem withScratchReport {m : SupervisorM Unit} (h : Keeps R m) :
    Keeps R (withScratchReport m) := by
  intro w
  have hbefore : R w { w with report := .begin 0 .stopped } :=
    hR.aside _ _ rfl (List.suffix_refl _)
  have hafter : R (m { w with report := .begin 0 .stopped }).2
      { (m { w with report := .begin 0 .stopped }).2 with report := w.report } :=
    hR.aside _ _ rfl (List.suffix_refl _)
  exact hR.trans _ _ _ hbefore (hR.trans _ _ _ (h _) hafter)

theorem launch (sv : Supervisor) (componentId intentId containment : String)
    (bootstraps : LaunchBootstraps) :
    Keeps R (launch sv componentId intentId containment bootstraps) := by
  intro w
  unfold AscensionWatchdog.launch
  dsimp only
  split
  next hanswers => exact hR.aside w _ rfl (hanswers ▸ List.suffix_cons _ _)
  next hanswers => exact hR.aside w _ rfl (hanswers ▸ List.suffix_cons _ _)
  next hanswers => exact hR.aside w _ rfl (hanswers ▸ List.suffix_cons _ _)
  next => exact hR.aside w _ rfl (List.suffix_refl _)

theorem inspect : Keeps R inspect :=
  hR.bind hR.nextAnswer fun _ => hR.ofExcept

theorem endProcess (gone : LaunchRecord → Bool) : Keeps R (endProcess gone) := by
  intro w
  unfold AscensionWatchdog.endProcess
  split
  next result rest hanswers =>
    exact hR.aside w _ rfl (hanswers ▸ List.suffix_cons _ rest)
  next => exact hR.refl w

theorem stop (child : RuntimeChild) : Keeps R (stop child) :=
  hR.bind (hR.modify (fun _ => rfl) fun _ => rfl) fun _ => hR.endProcess _

theorem cleanupPlannedContainment (intentId containment : String) :
    Keeps R (cleanupPlannedContainment intentId containment) :=
  hR.endProcess _

theorem recoverIntent (intent : LaunchIntentRow) : Keeps R (recoverIntent intent) :=
  hR.bind hR.nextAnswer fun _ => hR.bind hR.ofExcept fun _ => hR.pure

theorem ownershipProof : Keeps R ownershipProof :=
  hR.bind hR.nextAnswer fun _ => hR.ofExcept

/-! ### Starting, aborting and stopping a component -/

variable {child : RuntimeChild} {next : α → SupervisorM Unit}

section Lifecycle

variable (sv : Supervisor) (component : ComponentConfig) (nowMs : Nat)

theorem quarantineComponent {launchNonce : Option String} {pid : Option Nat}
    {executableDigest : Option String} {startedAtMs : Option Nat} {error : String} :
    Keeps R (quarantineComponent component launchNonce pid executableDigest startedAtMs error
      nowMs) :=
  hR.bind (hR.readComponent _) fun _ => hR.upsertComponent _ _

theorem quarantineChild {identity : ChildIdentity} {error : String} :
    Keeps R (quarantineChild component identity error nowMs) :=
  hR.bind (hR.readComponent _) fun _ =>
  hR.bind (hR.readComponent _) fun _ => hR.upsertComponent _ _

theorem stopRow : Keeps R (stopRow component nowMs) :=
  hR.bind (hR.readComponent _) fun _ =>
  hR.bind (hR.readComponent _) fun _ => hR.upsertComponent _ _

variable {intentId : String}

theorem retainQuarantinedChild {error : String} :
    Keeps R (retainQuarantinedChild component intentId child error nowMs) :=
  hR.bind (hR.setChild _ _) fun _ =>
  hR.bind (hR.quarantineComponent _ _) fun _ => hR.auditEvent _ _ (by decide)

theorem releaseStartGate : Keeps R (releaseStartGate sv) := by
  unfold AscensionWatchdog.releaseStartGate
  split
  · exact hR.pure
  · refine hR.caught (hR.reading _) (fun selection => ?_) fun _ => hR.pure
    dsimp only
    cases selection.active with
    | none => exact hR.pure
    | some active =>
      refine hR.bind hR.nextAnswer fun inspection => ?_
      cases inspection with
      | error text => exact hR.pure
      | ok inspection =>
        dsimp only
        split
        · exact hR.pure
        · split
          · exact hR.pure
          · exact hR.pure

theorem prepareWorkerBootstrap : Keeps R (prepareWorkerBootstrap sv component) := by
  unfold AscensionWatchdog.prepareWorkerBootstrap
  split
  · exact hR.pure
  · exact hR.bind hR.askHost fun _ => hR.pure

theorem prepareGatewayHealth : Keeps R (prepareGatewayHealth sv component) := by
  unfold AscensionWatchdog.prepareGatewayHealth
  split
  · exact hR.pure
  · split
    · exact hR.fail
    · exact hR.bind hR.askHost fun _ => hR.pure

theorem bindPrepared {intent : LaunchIntentRow} {bind : Store → Result BootstrapBindingRow × Store}
    {frame : String} (hbind : Keeps R (storeCall bind)) :
    Keeps R (bindPrepared crates component intent bind frame nowMs) := by
  refine hR.caught hbind (fun _ => hR.pure) fun _ => ?_
  refine hR.caught (hR.cleanLaunchIntent _ _) (fun _ => hR.fail) fun _ => ?_
  exact hR.bind (hR.quarantineComponent _ _) fun _ => hR.fail

theorem bindPreparedWorkerBootstrap {intent : LaunchIntentRow} {nonce : UuidV4} {frame : String} :
    Keeps R (bindPreparedWorkerBootstrap crates sv component intent nonce frame nowMs) :=
  hR.bindPrepared _ _ (hR.operation _
    (.bindWorkerBootstrap intent.id sv.workerBootId nonce component.id frame nowMs) rfl
    fun _ => rfl)

theorem bindPreparedGatewayHealth {intent : LaunchIntentRow} {nonce : UuidV4} {frame : String} :
    Keeps R (bindPreparedGatewayHealth crates sv component intent nonce frame nowMs) :=
  hR.bindPrepared _ _ (hR.operation _
    (.bindGatewayHealth intent.id sv.workerBootId nonce frame nowMs) rfl fun _ => rfl)

variable {error : WatchdogError} {attempts : Nat}

theorem retainUncertain
    {cleanupError : String} :
    Keeps R (retainUncertain component child attempts nowMs error cleanupError) :=
  hR.bind (hR.setChild _ _) fun _ =>
  hR.bind (hR.upsertComponent _ _).attempt fun _ => hR.fail

theorem settleAborted
    {cleanup : Result RuntimeStopOutcome} :
    Keeps R (settleAborted crates component intentId child attempts nowMs error cleanup) := by
  refine hR.caught (hR.cleanLaunchIntent _ _) (fun _ => ?_) fun _ => hR.retainUncertain _ _
  refine hR.caught (hR.clearComponentIdentity _ _) (fun _ => ?_) fun _ => hR.retainUncertain _ _
  refine hR.caught (hR.upsertComponent _ _) (fun _ => hR.fail) fun _ => ?_
  exact hR.bind (hR.setChild _ _) fun _ => hR.fail

theorem abortLaunchedChild
    :
    Keeps R (abortLaunchedChild crates component intentId child attempts nowMs error) := by
  refine hR.bind (hR.stop _).attempt fun cleanup => ?_
  split
  · exact hR.settleAborted _ _
  · exact hR.retainUncertain _ _

theorem orAbort {m : SupervisorM α} {abort : WatchdogError → SupervisorM Unit}
    (hm : Keeps R m) (habort : ∀ e, Keeps R (abort e))
    (hnext : ∀ a, Keeps R (next a)) : Keeps R (orAbort m abort next) :=
  hR.caught hm hnext habort

theorem adoptLaunched {intent : LaunchIntentRow}
    {attempts restartCount : Nat} :
    Keeps R (adoptLaunched crates component intent child attempts restartCount nowMs) := by
  have habort (error : WatchdogError) :
      Keeps R (AscensionWatchdog.abortLaunchedChild crates component intent.id child attempts nowMs error) :=
    hR.abortLaunchedChild _ _
  refine hR.orAbort hR.ownershipProof habort fun proof => ?_
  refine hR.orAbort hR.askHost habort fun _ => ?_
  refine hR.orAbort (hR.operation _ (.recordLaunchProof intent.id proof nowMs) rfl fun _ => rfl)
    habort fun _ => ?_
  refine hR.orAbort (hR.upsertComponent _ _) habort fun _ => ?_
  refine hR.orAbort (hR.operation _
    (.persistComponentIdentity component.id child.identity.toProcessIdentity nowMs) rfl
    fun _ => rfl) habort fun _ => ?_
  refine hR.orAbort (hR.operation _ (.activateLaunchIntent intent.id nowMs) rfl fun _ => rfl)
    habort fun _ => ?_
  refine hR.orAbort (hR.auditEvent _ _ (by decide)) habort fun _ => ?_
  exact hR.bind (hR.setChild _ _) fun _ => hR.editReport _

theorem settleFailedLaunch {intent : LaunchIntentRow} :
    Keeps R (settleFailedLaunch crates component intent attempts nowMs error) := by
  refine hR.caught (hR.cleanLaunchIntent _ _) (fun _ => ?_) fun _ => ?_
  · refine hR.bind (hR.clearComponentIdentity _ _) fun _ => ?_
    exact hR.bind (hR.upsertComponent _ _) fun _ => hR.reportError _
  · exact hR.bind (hR.quarantineComponent _ _) fun _ => hR.reportError _

theorem retainUncertainLaunch {intent : LaunchIntentRow} :
    Keeps R (retainUncertainLaunch component intent nowMs error) :=
  hR.bind (hR.quarantineComponent _ _) fun _ =>
  hR.bind (hR.auditEvent _ _ (by decide)) fun _ => hR.reportError _

variable {planned : String}

theorem launchAdmitted {intent : LaunchIntentRow}
    {bootstraps : LaunchBootstraps} {attempts restartCount : Nat} :
    Keeps R (launchAdmitted crates sv component intent planned bootstraps attempts restartCount
      nowMs) := by
  refine hR.bind (hR.launch _ _ _ _ _) fun result => ?_
  match result with
  | .ok child => exact hR.adoptLaunched _ _
  | .error (.cleanupUncertain error) => exact hR.retainUncertainLaunch _ _
  | .error (.ordinary error) => exact hR.settleFailedLaunch _ _

theorem launchPrepared {intent : LaunchIntentRow}
    {bootstraps : LaunchBootstraps} :
    Keeps R (launchPrepared crates sv component intent planned bootstraps nowMs) := by
  refine hR.bind hR.readElapsed fun elapsed => ?_
  refine hR.bind (hR.operation _ (.recordRestartWithElapsed component.id nowMs elapsed
    sv.config.policy.restartBudgetWindowMs) rfl fun _ => rfl) fun _ => ?_
  refine hR.bind (hR.readComponent _) fun _ => ?_
  exact hR.bind (hR.upsertComponent _ _) fun _ => hR.launchAdmitted _ _ _

theorem admitPrepared {intent : LaunchIntentRow} {nonce : UuidV4}
    {worker health : Option String} :
    Keeps R (admitPrepared crates sv component intent nonce planned worker health nowMs) := by
  refine hR.bind (hR.forSome fun _ => hR.bindPreparedWorkerBootstrap _ _ _) fun _ => ?_
  refine hR.bind (hR.forSome fun _ => hR.bindPreparedGatewayHealth _ _ _) fun _ => ?_
  refine hR.bind (hR.reading _) fun mode => ?_
  split
  · exact hR.cleanLaunchIntent _ _
  · exact hR.launchPrepared _ _ _

theorem startAdmitted : Keeps R (startAdmitted crates sv component nowMs) := by
  refine hR.bind (hR.reading _) fun status => ?_
  refine hR.bind hR.ofExcept fun incarnation => ?_
  refine hR.bind hR.newUuid fun nonce => ?_
  refine hR.bind (hR.prepareWorkerBootstrap _ _) fun worker => ?_
  refine hR.bind hR.askHost fun _ => ?_
  refine hR.bind (hR.prepareGatewayHealth _ _) fun health => ?_
  refine hR.bind hR.askHost fun _ => ?_
  refine hR.bind hR.askHost fun planned => ?_
  refine hR.bind hR.askHost fun digest => ?_
  refine hR.bind hR.newUuid fun id => ?_
  refine hR.bind (hR.operation _ (.prepareLaunchIntent component.id nonce.text incarnation digest
    (some planned) nowMs id) rfl fun _ => rfl) fun intent => ?_
  exact hR.admitPrepared _ _ _

theorem startComponent : Keeps R (startComponent crates sv component nowMs) := by
  refine hR.bind (hR.reading _) fun mode => ?_
  split
  · exact hR.pure
  · exact hR.startAdmitted _ _ _

theorem namesProcess {prior : Option ComponentRecord} :
    Keeps R (namesProcess sv component prior) := by
  unfold AscensionWatchdog.namesProcess
  split
  · exact hR.pure
  · split
    · exact hR.pure
    · exact hR.bind (hR.componentIdentity _ _) fun _ => hR.pure

theorem stopUnowned : Keeps R (stopUnowned sv component nowMs) := by
  refine hR.bind (hR.readComponent _) fun prior => ?_
  refine hR.bind (hR.namesProcess _ _) fun recorded => ?_
  split
  · exact hR.bind (hR.upsertComponent _ _) fun _ => hR.reportQuarantined _
  · exact hR.upsertComponent _ _

theorem settleStopped :
    Keeps R (settleStopped crates component child nowMs) := by
  refine hR.caught (hR.cleanLaunchIntent _ _) (fun _ => ?_) fun _ => ?_
  · refine hR.bind (hR.setChild _ _) fun _ => ?_
    refine hR.bind (hR.auditEvent _ _ (by decide)) fun _ => ?_
    refine hR.bind (hR.stopRow _ _) fun _ => ?_
    exact hR.bind (hR.clearComponentIdentity _ _) fun _ => hR.editReport _
  · refine hR.bind (hR.quarantineChild _ _) fun _ => ?_
    exact hR.bind (hR.reportQuarantined _) fun _ => hR.reportError _

theorem stopOwned :
    Keeps R (stopOwned crates component child nowMs) := by
  have hheld {error : String} {message : String} : Keeps R (do
      AscensionWatchdog.quarantineChild component child.identity error nowMs
      AscensionWatchdog.reportQuarantined component.id
      AscensionWatchdog.reportError message) :=
    hR.bind (hR.quarantineChild _ _) fun _ =>
    hR.bind (hR.reportQuarantined _) fun _ => hR.reportError _
  refine hR.bind (hR.auditEvent _ _ (by decide)) fun _ => ?_
  refine hR.caught (hR.stop _) (fun outcome => ?_) fun _ => hheld
  dsimp only
  split
  · exact hR.settleStopped _ _
  · exact hheld

theorem stopComponent : Keeps R (stopComponent crates sv component nowMs) := by
  refine hR.bind (hR.getChild _) fun child? => ?_
  cases child? with
  | none => exact hR.stopUnowned _ _ _
  | some child => exact hR.stopOwned _ _

end Lifecycle

/-! ### Recovery -/

section Recovery

variable (sv : Supervisor) (component : ComponentConfig) (intent : LaunchIntentRow) (nowMs : Nat)

theorem quarantineIntent {error tag : String} :
    Keeps R (quarantineIntent component intent error tag nowMs) :=
  hR.bind (hR.quarantineComponent _ _) fun _ => hR.auditEvent _ _ (by decide)

theorem retainUnreconstructable : Keeps R (retainUnreconstructable component intent nowMs) :=
  hR.bind (hR.readComponent _) fun _ =>
  hR.bind (hR.upsertComponent _ _) fun _ => hR.auditEvent _ _ (by decide)

theorem retainUnstopped {tag : String} :
    Keeps R (retainUnstopped component intent child tag nowMs) :=
  hR.bind (hR.setChild _ _) fun _ => hR.auditEvent _ _ (by decide)

theorem orRetain {failure : String} {m : SupervisorM α}
    (hm : Keeps R m) (hnext : ∀ a, Keeps R (next a)) :
    Keeps R (orRetain component intent child failure nowMs m next) :=
  hR.orAbort hm (fun _ => hR.retainQuarantinedChild _ _) hnext

theorem settlePrepared : Keeps R (settlePrepared crates component intent nowMs) :=
  hR.bind (hR.cleanLaunchIntent _ _) fun _ =>
  hR.bind (hR.clearComponentIdentity _ _) fun _ =>
  hR.bind (hR.readComponent _) fun _ =>
  hR.bind (hR.upsertComponent _ _) fun _ => hR.auditEvent _ _ (by decide)

theorem recoverPrepared : Keeps R (recoverPrepared crates component intent nowMs) := by
  unfold AscensionWatchdog.recoverPrepared
  split
  · exact hR.quarantineIntent _ _ _
  · refine hR.bind (hR.cleanupPlannedContainment _ _).attempt fun cleanup => ?_
    split
    · exact hR.settlePrepared _ _ _
    · exact hR.quarantineIntent _ _ _

theorem retireRecoveredWorker :
    Keeps R (retireRecoveredWorker crates sv component intent child nowMs) :=
  hR.bind (hR.reading _).attempt fun _ =>
  hR.bind (hR.retainQuarantinedChild _ _) fun _ => hR.withScratchReport (hR.stopComponent _ _ _)

theorem retireRecoveredGateway :
    Keeps R (retireRecoveredGateway crates sv component intent child nowMs) :=
  hR.bind (hR.retainQuarantinedChild _ _) fun _ => hR.withScratchReport (hR.stopComponent _ _ _)

theorem settleRecovered {ended : String}
    {record : Option ComponentRecord → ComponentRecord} :
    Keeps R (settleRecovered crates component intent child ended record nowMs) := by
  refine hR.orRetain _ _ _ (hR.cleanLaunchIntent _ _) fun _ => ?_
  refine hR.orRetain _ _ _ (hR.clearComponentIdentity _ _) fun _ => ?_
  refine hR.bind (hR.readComponent _) fun _ => ?_
  exact hR.orRetain _ _ _ (hR.upsertComponent _ _) fun _ => hR.pure

theorem endRecovered {ended tag : String}
    {record : Option ComponentRecord → ComponentRecord} :
    Keeps R (endRecovered crates component intent child ended tag record nowMs) := by
  refine hR.bind (hR.stop _).attempt fun stopped => ?_
  split
  · exact hR.settleRecovered _ _ _
  · exact hR.retainUnstopped _ _ _

theorem keepRecovered :
    Keeps R (keepRecovered component intent child nowMs) := by
  refine hR.orRetain _ _ _ (hR.operation _
    (.persistComponentIdentity component.id child.identity.toProcessIdentity nowMs) rfl
    fun _ => rfl) fun _ => ?_
  exact hR.bind (hR.setChild _ _) fun _ => hR.auditEvent _ _ (by decide)

theorem adoptRecovered :
    Keeps R (adoptRecovered crates component intent child nowMs) := by
  unfold AscensionWatchdog.adoptRecovered
  split
  · refine hR.orRetain _ _ _ hR.ownershipProof fun _ => ?_
    refine hR.orRetain _ _ _ hR.askHost fun _ => ?_
    refine hR.orRetain _ _ _ (hR.operation _ (.activateLaunchIntent intent.id nowMs) rfl
      fun _ => rfl) fun _ => ?_
    exact hR.keepRecovered _ _ _
  · exact hR.keepRecovered _ _ _

theorem holdAmbiguous :
    Keeps R (holdAmbiguous component intent child nowMs) :=
  hR.bind (hR.setChild _ _) fun _ =>
  hR.bind (hR.quarantineChild _ _) fun _ => hR.auditEvent _ _ (by decide)

theorem inspectRecovered :
    Keeps R (inspectRecovered crates component intent child nowMs) := by
  refine hR.caught hR.inspect (fun observation => ?_) fun _ => hR.retainQuarantinedChild _ _
  cases observation with
  | running =>
    refine hR.bind (hR.reading _) fun mode => ?_
    split
    · exact hR.endRecovered _ _ _
    · exact hR.adoptRecovered _ _ _
  | exited code => exact hR.endRecovered _ _ _
  | missing => exact hR.endRecovered _ _ _
  | identityMismatch => exact hR.holdAmbiguous _ _ _
  | ambiguous => exact hR.holdAmbiguous _ _ _

theorem placeRecovered :
    Keeps R (placeRecovered crates sv component intent child nowMs) := by
  unfold AscensionWatchdog.placeRecovered
  split
  · exact hR.retireRecoveredWorker _ _ _ _
  · split
    · exact hR.retireRecoveredGateway _ _ _ _
    · exact hR.inspectRecovered _ _ _

theorem recoverRecorded : Keeps R (recoverRecorded crates sv component intent nowMs) := by
  refine hR.bind hR.askHost fun _ => ?_
  refine hR.bind hR.ofExcept fun _ => ?_
  refine hR.bind hR.ofExcept fun _ => ?_
  refine hR.caught hR.askHost (fun _ => ?_) fun _ => hR.quarantineIntent _ _ _
  refine hR.caught (hR.recoverIntent _) (fun child? => ?_) fun _ => hR.quarantineIntent _ _ _
  cases child? with
  | none => exact hR.retainUnreconstructable _ _ _
  | some child => exact hR.placeRecovered _ _ _ _

theorem recoverLaunchIntent : Keeps R (recoverLaunchIntent crates sv nowMs intent) := by
  unfold AscensionWatchdog.recoverLaunchIntent
  split
  · exact hR.auditEvent _ _ (by decide)
  · split
    · exact hR.quarantineIntent _ _ _
    · split
      · exact hR.recoverPrepared _ _ _
      · exact hR.recoverRecorded _ _ _ _

omit intent in
theorem reconcilePersistedLaunchIntents :
    Keeps R (reconcilePersistedLaunchIntents crates sv nowMs) :=
  hR.bind (hR.reading _) fun intents => hR.forEach (fun _ => hR.recoverLaunchIntent _ _ _) intents

theorem settlePersistedIdentity {record : ComponentRecord} {identity : ChildIdentity} :
    Keeps R (settlePersistedIdentity component record identity nowMs) := by
  unfold AscensionWatchdog.settlePersistedIdentity
  refine hR.caught hR.askHost (fun _ => ?_) fun error => ?_
  · exact hR.bind (hR.upsertComponent _ _) fun _ => hR.auditEvent _ _ (by decide)
  · cases error with
    | identityMismatch _ =>
      refine hR.bind (hR.clearComponentIdentity _ _) fun _ => ?_
      exact hR.bind (hR.upsertComponent _ _) fun _ => hR.auditEvent _ _ (by decide)
    | _ => exact hR.bind (hR.upsertComponent _ _) fun _ => hR.auditEvent _ _ (by decide)

theorem reconcileOrphan : Keeps R (reconcileOrphan sv component nowMs) := by
  refine hR.bind (hR.readComponent _) fun record? => ?_
  cases record? with
  | none => exact hR.pure
  | some record =>
    refine hR.bind (hR.componentIdentity _ _) fun identity? => ?_
    cases identity? with
    | some identity => exact hR.settlePersistedIdentity _ _
    | none =>
      dsimp only
      split
      · exact hR.pure
      · exact hR.bind (hR.upsertComponent _ _) fun _ => hR.auditEvent _ _ (by decide)

theorem reconcilePersistedIdentity :
    Keeps R (reconcilePersistedIdentity crates sv nowMs component) := by
  refine hR.bind (hR.getChild _) fun child? => ?_
  cases child? with
  | some child => exact hR.pure
  | none =>
    refine hR.bind (hR.reading _) fun intents => ?_
    split
    · exact hR.pure
    · exact hR.reconcileOrphan _ _ _

theorem reconcilePersistedIdentities : Keeps R (reconcilePersistedIdentities crates sv nowMs) :=
  hR.forEach (fun _ => hR.reconcilePersistedIdentity _ _ _) _

end Recovery

/-! ### Reconciling one component -/

section Health

variable (sv : Supervisor) (component : ComponentConfig) (desiredMode : DesiredMode) (nowMs : Nat)

theorem probeGatewayHealth : Keeps R (probeGatewayHealth sv component desiredMode) := by
  unfold AscensionWatchdog.probeGatewayHealth
  split
  · exact hR.pure
  · refine hR.bind (hR.modify (fun _ => rfl) fun _ => rfl) fun _ => ?_
    refine hR.bind (hR.getChild _) fun child? => ?_
    cases child? with
    | none => exact hR.pure
    | some child =>
      refine hR.bind hR.nextAnswer fun result => ?_
      cases result with
      | ok status => exact hR.modify (fun _ => rfl) fun _ => rfl
      | error error => exact hR.reportError _

variable {componentId : String}

theorem workerHeartbeatAgeMs :
    Keeps R (workerHeartbeatAgeMs componentId) := by
  refine hR.bind hR.gets fun witness? => hR.bind (hR.getChild _) fun child? => ?_
  split
  · split
    · exact hR.pure
    · exact hR.bind hR.readElapsed fun _ => hR.pure
  · exact hR.pure

theorem gatewayHeartbeatAgeMs :
    Keeps R (gatewayHeartbeatAgeMs sv componentId) := by
  refine hR.bind hR.gets fun witness? => hR.bind (hR.getChild _) fun child? => ?_
  split
  · split
    · exact hR.pure
    · exact hR.bind hR.readElapsed fun _ => hR.pure
  · exact hR.pure

theorem heartbeatAgeMs : Keeps R (heartbeatAgeMs sv componentId) := by
  refine hR.bind hR.workerHeartbeatAgeMs fun age? => ?_
  cases age? with
  | some age => exact hR.pure
  | none => exact hR.gatewayHeartbeatAgeMs _

variable {seen : Observed}

theorem restComponent {decision : ReconcileDecision} :
    Keeps R (restComponent component desiredMode seen decision nowMs) := by
  refine hR.bind (hR.getChild _) fun child? => ?_
  cases child? with
  | some child => exact hR.upsertComponent _ _
  | none =>
    dsimp only
    split
    · exact hR.upsertComponent _ _
    · exact hR.pure

theorem applyDecision {decision : ReconcileDecision} :
    Keeps R (applyDecision crates sv component desiredMode seen decision nowMs) := by
  unfold AscensionWatchdog.applyDecision
  split
  · exact hR.stopComponent _ _ _
  · refine hR.bind (hR.reading _) fun mode => ?_
    split
    · exact hR.startComponent _ _ _
    · exact hR.pure
  · exact hR.bind (hR.upsertComponent _ _) fun _ => hR.reportQuarantined _
  all_goals exact hR.restComponent _ _ _

theorem decideComponent {restartCount : Nat} :
    Keeps R (decideComponent crates sv component desiredMode seen restartCount nowMs) :=
  hR.bind (hR.applyDecision _ _ _ _) fun _ => hR.pure

theorem blockComponent {reason : String} : Keeps R (blockComponent component reason nowMs) :=
  hR.bind (hR.readComponent _) fun _ =>
  hR.bind (hR.upsertComponent _ _) fun _ =>
  hR.bind (hR.auditEvent _ _ (by decide)) fun _ => hR.pure

theorem checkGate : Keeps R (checkGate sv component) :=
  hR.bind (hR.releaseStartGate _) fun _ =>
  hR.bind (hR.modify (fun _ => rfl) fun _ => rfl) fun _ => hR.pure

theorem gateComponent {restartCount : Nat} :
    Keeps R (gateComponent crates sv component desiredMode seen restartCount nowMs) := by
  unfold AscensionWatchdog.gateComponent
  split
  · refine hR.bind (hR.checkGate _ _) fun result => ?_
    cases result with
    | error reason => exact hR.blockComponent _ _
    | ok _ => exact hR.decideComponent _ _ _ _
  · exact hR.decideComponent _ _ _ _

theorem observeComponent : Keeps R (observeComponent crates sv component desiredMode nowMs) := by
  refine hR.bind (hR.probeGatewayHealth _ _ _) fun _ => ?_
  refine hR.bind (hR.readComponent _) fun prior => ?_
  refine hR.bind (hR.getChild _) fun child? => ?_
  refine hR.bind (hR.heartbeatAgeMs _) fun heartbeatAge => ?_
  refine hR.bind hR.readElapsed fun elapsed => ?_
  exact hR.bind (hR.reading _) fun restartCount => hR.gateComponent _ _ _ _

theorem holdChild {error reason : String} :
    Keeps R (holdChild component child error reason nowMs) :=
  hR.bind (hR.quarantineChild _ _) fun _ =>
  hR.bind (hR.reportQuarantined _) fun _ => hR.pure

theorem exitDetail {exit : String} :
    Keeps R (exitDetail component child exit) := by
  unfold AscensionWatchdog.exitDetail
  split
  · exact hR.pure
  · exact hR.bind hR.nextAnswer fun _ => hR.pure

theorem settleExited {exit : String} :
    Keeps R (settleExited crates sv component desiredMode child exit nowMs) := by
  refine hR.bind (hR.exitDetail _) fun _ => ?_
  refine hR.bind (hR.auditEvent _ _ (by decide)) fun _ => ?_
  refine hR.caught (hR.cleanLaunchIntent _ _) (fun _ => ?_) fun _ => hR.holdChild _ _
  refine hR.bind (hR.clearComponentIdentity _ _) fun _ => ?_
  refine hR.bind (hR.readComponent _) fun _ => ?_
  exact hR.bind (hR.upsertComponent _ _) fun _ => hR.observeComponent _ _ _ _

theorem reapExited {exit : String} :
    Keeps R (reapExited crates sv component desiredMode child exit nowMs) := by
  refine hR.bind (hR.setChild _ _) fun _ => ?_
  refine hR.caught (hR.stop _) (fun outcome => ?_) fun _ => ?_
  · dsimp only
    split
    · exact hR.settleExited _ _ _ _
    · exact hR.bind (hR.setChild _ _) fun _ => hR.holdChild _ _
  · exact hR.bind (hR.setChild _ _) fun _ => hR.holdChild _ _

theorem inspectChild : Keeps R (inspectChild component) :=
  hR.bind hR.inspect.attempt fun _ =>
  hR.bind (hR.modify (fun _ => rfl) fun _ => rfl) fun _ => hR.pure

theorem reconcileComponent :
    Keeps R (reconcileComponent crates sv component desiredMode nowMs) := by
  refine hR.bind (hR.getChild _) fun child? => ?_
  cases child? with
  | none => exact hR.observeComponent _ _ _ _
  | some child =>
    refine hR.bind (hR.inspectChild _) fun result => ?_
    match result with
    | .ok .running => exact hR.observeComponent _ _ _ _
    | .ok (.exited code) => exact hR.reapExited _ _ _ _
    | .ok .missing => exact hR.reapExited _ _ _ _
    | .ok .identityMismatch => exact hR.holdChild _ _
    | .ok .ambiguous => exact hR.holdChild _ _
    | .error error => exact hR.holdChild _ _

theorem reconcileComponents : Keeps R (reconcileComponents crates sv desiredMode nowMs) :=
  hR.forEach (fun _ => hR.bind (hR.reconcileComponent _ _ _ _) fun _ => hR.editReport _) _

end Health

/-! ### Exchanges with the worker -/

section Client

variable (client : WorkerClient)

theorem checked {r : Result α} : Keeps R (orFatal (Program.ofExcept r)) :=
  (hR.ofExcept).mapError

theorem fatalConflict {message : String} :
    Keeps R (AscensionWatchdog.fatalConflict message : PhaseM α) :=
  hR.fail

theorem exchange {sent : World → World} (hstore : ∀ w, (sent w).store = w.store)
    (hanswers : ∀ w, (sent w).answers = w.answers) : Keeps R (exchange sent) := by
  have hsent (w w' : World) (hs : w'.store = w.store) (ha : w'.answers <:+ w.answers) :
      R w (sent w') :=
    hR.aside _ _ ((hstore w').trans hs) (hanswers w' ▸ ha)
  intro w
  unfold AscensionWatchdog.exchange
  split
  next answered result rest hrest =>
    have hsuffix : rest <:+ w.answers := hrest ▸ List.suffix_cons _ rest
    dsimp only
    split
    · exact hsent w _ rfl hsuffix
    · exact hR.aside w _ rfl hsuffix
  next => exact hsent w w rfl (List.suffix_refl _)

/-- A request, and what is checked of its response. -/
theorem request {sent : World → World} {check : ResponseFrame → PhaseM α}
    (hstore : ∀ w, (sent w).store = w.store) (hanswers : ∀ w, (sent w).answers = w.answers)
    (hcheck : ∀ frame, Keeps R (check frame)) :
    Keeps R (AscensionWatchdog.exchange sent >>= check) :=
  hR.bind (hR.exchange hstore hanswers) hcheck

theorem probePhase : Keeps R client.probePhase := by
  refine hR.bind hR.newUuid fun _ => hR.request (fun _ => rfl) (fun _ => rfl) fun frame => ?_
  cases frame with
  | probe response =>
    refine hR.bind hR.checked fun _ => ?_
    split
    · exact hR.fatalConflict
    · exact hR.pure
  | _ => exact hR.fatalConflict

theorem setControlModePhase {workerBootId : String} {scope : ControlScope} :
    Keeps R (client.setControlModePhase workerBootId scope) := by
  refine hR.bind hR.checked fun _ => hR.bind hR.checked fun _ => ?_
  split
  · exact hR.fatalConflict
  · refine hR.bind hR.newUuid fun _ => hR.request (fun _ => rfl) (fun _ => rfl) fun frame => ?_
    cases frame with
    | setControlMode response =>
      refine hR.bind hR.checked fun _ => ?_
      split
      · exact hR.fatalConflict
      · exact hR.pure
    | _ => exact hR.fatalConflict

theorem dispatchPhase {handoff : WorkerHandoff} : Keeps R (client.dispatchPhase handoff) := by
  refine hR.bind hR.checked fun _ => ?_
  refine hR.bind hR.newUuid fun _ => hR.request (fun _ => rfl) (fun _ => rfl) fun frame => ?_
  cases frame with
  | dispatch response =>
    refine hR.bind hR.checked fun _ => ?_
    split
    · exact hR.fatalConflict
    · exact hR.pure
  | _ => exact hR.fatalConflict

theorem lookupPhase {tuple : WorkerHandoffTuple} {workerBootId : String} :
    Keeps R (client.lookupPhase tuple workerBootId) := by
  refine hR.bind hR.checked fun _ => hR.bind hR.checked fun _ => hR.bind hR.checked fun _ => ?_
  split
  · exact hR.fail
  · refine hR.bind hR.newUuid fun _ => hR.request (fun _ => rfl) (fun _ => rfl) fun frame => ?_
    cases frame with
    | lookup response =>
      refine hR.bind hR.checked fun _ => ?_
      split
      · exact hR.fatalConflict
      · exact hR.pure
    | _ => exact hR.fatalConflict

theorem acknowledgePhase {tuple : WorkerHandoffTuple} {workerBootId terminalDigest : String} :
    Keeps R (client.acknowledgePhase tuple workerBootId terminalDigest) := by
  refine hR.bind hR.checked fun _ => hR.bind hR.checked fun _ => hR.bind hR.checked fun _ => ?_
  split
  · exact hR.fail
  · refine hR.bind hR.checked fun _ => ?_
    refine hR.bind hR.newUuid fun _ => hR.request (fun _ => rfl) (fun _ => rfl) fun frame => ?_
    cases frame with
    | acknowledge response =>
      refine hR.bind hR.checked fun _ => ?_
      split
      · exact hR.fatalConflict
      · exact hR.pure
    | _ => exact hR.fatalConflict

end Client

/-! ### The worker phase -/

section WorkerPhase

variable (sv : Supervisor) (client : WorkerClient) (nowMs : Nat)

theorem configureWorkerBinding : Keeps R (configureWorkerBinding sv nowMs) :=
  hR.forSome fun worker => hR.bind (hR.operation _
    (.configureWorkerBindingAt worker.binding nowMs) rfl fun _ => rfl) fun _ => hR.pure

theorem workerDrainComplete : Keeps R (workerDrainComplete crates) :=
  hR.bind (hR.reading _) fun _ => hR.pure

theorem bootstrapIsCurrent : Keeps R (bootstrapIsCurrent sv child) := by
  unfold AscensionWatchdog.bootstrapIsCurrent
  split
  · exact hR.pure
  · exact hR.bind (hR.reading _).mapError fun _ => hR.pure

variable {worker : WorkerConfig}

theorem workerClient : Keeps R (workerClient sv worker) := by
  refine hR.bind (hR.getChild _) fun child? => ?_
  cases child? with
  | none => exact hR.pure
  | some child =>
    refine hR.bind (hR.bootstrapIsCurrent _) fun current => ?_
    split
    · refine hR.bind hR.inspect.mapError fun observation => ?_
      cases observation with
      | running =>
        refine hR.bind hR.askHost.mapError fun _ => ?_
        exact hR.bind hR.askHost.mapError fun _ => hR.pure
      | _ => exact hR.pure
    · exact hR.fail

theorem clearWorkerHeartbeat : Keeps R clearWorkerHeartbeat :=
  hR.modify (fun _ => rfl) fun _ => rfl

theorem captureWorkerHeartbeat {componentId workerBootId : String} :
    Keeps R (captureWorkerHeartbeat componentId workerBootId) := by
  refine hR.bind (hR.getChild _) fun child? => ?_
  cases child? with
  | none => exact hR.bind hR.clearWorkerHeartbeat fun _ => hR.fail
  | some child => exact hR.modify (fun _ => rfl) fun _ => rfl

theorem gatewayAllowsFreshClaim : Keeps R (gatewayAllowsFreshClaim sv) := by
  unfold AscensionWatchdog.gatewayAllowsFreshClaim
  split
  · exact hR.pure
  · refine hR.caught (hR.readComponent _) (fun component? => ?_) fun _ => hR.pure
    cases component? with
    | none => exact hR.pure
    | some component =>
      refine hR.bind (hR.gatewayHeartbeatAgeMs _) fun _ => ?_
      exact hR.bind hR.gets fun _ => hR.pure

theorem deferWorkerError {phase : String} {error : WorkerPhaseError} {prePhase : Bool} :
    Keeps R (deferWorkerError phase error nowMs prePhase) := by
  refine hR.bind hR.clearWorkerHeartbeat fun _ => ?_
  cases error with
  | fatal error => exact hR.fail
  | unavailable error =>
    refine hR.bind (hR.modify (fun _ => rfl) fun _ => rfl) fun _ => ?_
    refine hR.bind hR.gets fun deferred => ?_
    refine hR.bind (hR.modify (fun _ => rfl) fun _ => rfl) fun _ => ?_
    dsimp only
    split
    · exact hR.bind (hR.auditEvent _ _ (by decide)) fun _ => hR.editReport _
    · exact hR.bind hR.pure fun _ => hR.editReport _

theorem orDefer {phase : String} {prePhase : Bool} {m : PhaseM α}
    (hm : Keeps R m) (hnext : ∀ a, Keeps R (next a)) :
    Keeps R (orDefer phase nowMs prePhase m next) :=
  hR.caught hm
    (fun a => hR.bind (hR.modify (fun _ => rfl) fun _ => rfl) fun _ => hnext a)
    fun _ => hR.deferWorkerError _

theorem sendWorkerControl {workerBootId : String} {mode : WorkerMode} {sequence : Nat} :
    Keeps R (sendWorkerControl sv client workerBootId mode sequence nowMs) := by
  refine hR.bind (hR.setControlModePhase _) fun response => ?_
  split
  · exact hR.fail
  · exact (hR.operation _ (.setWorkerControlAt
      { deploymentId := response.scope.deploymentId
        workerOwnerId := response.scope.workerOwnerId
        workerProfileDigest := response.scope.workerProfileDigest
        watchdogBootId := sv.workerBootId.text
        workerBootId
        mode := storageWorkerMode response.scope.mode
        modeSequence := response.scope.modeSequence } nowMs) rfl fun _ => rfl).mapError

theorem ensureWorkerControl {workerBootId : String} {desiredMode : DesiredMode} :
    Keeps R (ensureWorkerControl sv client workerBootId desiredMode nowMs) := by
  refine hR.bind (hR.reading _).mapError fun recorded => ?_
  split
  · exact hR.pure
  · refine hR.bind (hR.reading _).mapError fun current => ?_
    exact hR.bind hR.ofExcept fun sequence => hR.sendWorkerControl _ _ _

section Recover

variable {tuple : WorkerHandoffTuple} {workerBootId : String} {authority : TerminalAuthority}
  {prePhase : Bool} {next : SupervisorM Unit} (hnext : Keeps R next)

include hnext

theorem acknowledgeCompleted {terminalDigest : String} :
    Keeps R (acknowledgeCompleted crates client tuple workerBootId terminalDigest authority nowMs
      prePhase next) := by
  refine hR.orDefer _ (hR.acknowledgePhase _) fun response => ?_
  split
  · exact hR.bind (hR.operation _ (.acknowledgeWorkerHandoffWithAuthorityAt tuple terminalDigest
      authority nowMs) rfl fun _ => rfl) fun _ => hnext
  · exact hR.fail

theorem completeReported {terminal : Option TerminalReceipt} {missing : String} :
    Keeps R (completeReported crates client tuple workerBootId terminal missing authority nowMs
      prePhase next) := by
  refine hR.bind hR.ofExcept fun receipt => ?_
  refine hR.bind (hR.operation _ (.completeWorkerHandoffWithAuthorityAt tuple
    (storageReceipt receipt) authority nowMs) rfl fun _ => rfl) fun _ => ?_
  exact hR.acknowledgeCompleted _ _ hnext

theorem recoverHandoff {control : WorkerControlWitness} {pending : WorkerHandoff} :
    Keeps R (recoverHandoff crates client control pending nowMs prePhase next) := by
  refine hR.bind (hR.reading _) fun found => ?_
  split
  · exact hR.fail
  · refine hR.orDefer _ (hR.lookupPhase _) fun response => ?_
    split
    · exact hR.completeReported _ _ hnext
    · exact hnext

theorem recoverHandoffs {control : WorkerControlWitness} (n : Nat) :
    Keeps R (recoverHandoffs crates client control nowMs prePhase next n) := by
  induction n with
  | zero => exact hnext
  | succ n ih =>
    refine hR.bind (hR.reading _) fun pending? => ?_
    cases pending? with
    | none => exact hnext
    | some pending =>
      refine hR.recoverHandoff _ _ (hR.bind (hR.reading _) fun remaining => ?_)
      split
      · exact hR.pure
      · exact ih

end Recover

variable {witness : WorkerClaimWitness}

theorem dispatchMarked {tuple : WorkerHandoffTuple}
    {marked : WorkerHandoff} {prePhase : Bool} :
    Keeps R (dispatchMarked crates client witness tuple marked nowMs prePhase) := by
  refine hR.orDefer _ (hR.dispatchPhase _) fun response => ?_
  cases response.status with
  | accepted =>
    exact hR.bind (hR.operation _ (.markWorkerHandoffAdmittedAt tuple nowMs) rfl fun _ => rfl)
      fun _ => hR.pure
  | terminal => exact hR.completeReported _ _ hR.pure
  | alreadyCompleted => exact hR.completeReported _ _ hR.pure
  | busy => exact hR.pure
  | rejected => exact hR.pure

theorem claimAndDispatch {prePhase : Bool} :
    Keeps R (claimAndDispatch crates client witness nowMs prePhase) := by
  refine hR.bind hR.nextAnswer fun ids => ?_
  refine hR.bind (hR.modify (fun _ => rfl) fun _ => rfl) fun _ => ?_
  refine hR.bind (hR.operation _ (.claimNextWorkerHandoff witness nowMs ids) rfl fun _ => rfl)
    fun claim? => ?_
  cases claim? with
  | none => exact hR.pure
  | some claim =>
    refine hR.bind (hR.operation _ (.markWorkerHandoffMayHaveBeenDispatchedAt claim.row.tuple
      nowMs) rfl fun _ => rfl) fun marked => ?_
    exact hR.dispatchMarked _ _

theorem admitClaim {workerBootId : String}
    {prePhase : Bool} :
    Keeps R (admitClaim crates client worker witness workerBootId nowMs prePhase) := by
  refine hR.orDefer _ (hR.probePhase _) fun probe => ?_
  split
  · exact hR.deferWorkerError _
  · split
    · exact hR.bind hR.clearWorkerHeartbeat fun _ => hR.fail
    · exact hR.bind hR.captureWorkerHeartbeat fun _ => hR.claimAndDispatch _ _

theorem prepareClaim {workerBootId : String} {prePhase : Bool} :
    Keeps R (prepareClaim crates client worker workerBootId nowMs prePhase) := by
  refine hR.bind (hR.readComponent _) fun component => ?_
  split
  · exact hR.pure
  · refine hR.bind hR.gets fun current => ?_
    split
    · exact hR.clearWorkerHeartbeat
    · refine hR.bind (hR.reading _) fun witness? => ?_
      cases witness? with
      | none => exact hR.pure
      | some witness =>
        dsimp only
        split
        · exact hR.pure
        · exact hR.admitClaim _ _

variable {allowClaim prePhase : Bool}

theorem claimFresh {workerBootId : String} {ready : Bool}
    {desiredMode : DesiredMode} :
    Keeps R (claimFresh crates sv client worker workerBootId ready desiredMode allowClaim nowMs
      prePhase) := by
  refine hR.bind hR.gets fun preFailed => ?_
  split
  · exact hR.pure
  · refine hR.bind (hR.gatewayAllowsFreshClaim _) fun allowed => ?_
    split
    · exact hR.pure
    · split
      · exact hR.pure
      · exact hR.prepareClaim _ _

theorem controlWorker {workerBootId : String} {ready : Bool}
    {desiredMode : DesiredMode} :
    Keeps R (controlWorker crates sv client worker workerBootId ready desiredMode nowMs allowClaim
      prePhase) := by
  refine hR.bind hR.captureWorkerHeartbeat fun _ => ?_
  refine hR.orDefer _ (hR.ensureWorkerControl _ _ _) fun control => ?_
  exact hR.recoverHandoffs _ _ (hR.claimFresh _ _ _) _

theorem probeWorker {desiredMode : DesiredMode}
    :
    Keeps R (probeWorker crates sv client worker desiredMode nowMs allowClaim prePhase) := by
  refine hR.orDefer _ (hR.probePhase _) fun probe => ?_
  cases probe.header.workerBootId with
  | none => exact hR.bind hR.clearWorkerHeartbeat fun _ => hR.fail
  | some workerBootId => exact hR.controlWorker _ _ _

omit client in
theorem reconcileWorker {desiredMode : DesiredMode} :
    Keeps R (reconcileWorker crates sv desiredMode nowMs allowClaim prePhase) := by
  refine hR.forSome fun worker => hR.bind hR.nextAnswer fun expired => ?_
  split
  · exact hR.deferWorkerError _
  · refine hR.caught (hR.workerClient _) (fun client? => ?_) fun _ => hR.deferWorkerError _
    cases client? with
    | none => exact hR.clearWorkerHeartbeat
    | some client =>
      exact hR.bind (hR.modify (fun _ => rfl) fun _ => rfl) fun _ => hR.probeWorker _ _ _

end WorkerPhase

/-! ### The parts of a pass -/

section Pass

variable (sv : Supervisor) (desiredMode : DesiredMode) (nowMs : Nat)

theorem reconcileWorkerBeforeComponents :
    Keeps R (reconcileWorkerBeforeComponents crates sv desiredMode nowMs) :=
  hR.bind (hR.modify (fun _ => rfl) fun _ => rfl) fun _ => hR.reconcileWorker _ _

theorem reconcileWorkerAfterComponents :
    Keeps R (reconcileWorkerAfterComponents crates sv desiredMode nowMs) :=
  hR.reconcileWorker _ _

theorem initializeRuntime : Keeps R (initializeRuntime crates sv nowMs) :=
  hR.bind (hR.operation _ (.quarantineInterruptedJobs nowMs) rfl fun _ => rfl) fun _ =>
  hR.bind (hR.operation _ (.establishNewGeneration nowMs) rfl fun _ => rfl) fun _ =>
  hR.bind (hR.auditEvent _ _ (by decide)) fun _ =>
  hR.bind (hR.reconcilePersistedLaunchIntents _ _) fun _ =>
  hR.bind (hR.reconcilePersistedIdentities _ _) fun _ =>
  hR.modify (fun _ => rfl) fun _ => rfl

theorem preparePass : Keeps R (preparePass crates sv nowMs) := by
  have hread : Keeps R (do
      AscensionWatchdog.configureWorkerBinding sv nowMs
      let desiredMode ← storeRead Store.desiredMode
      .modify fun w =>
        { w with report := .begin nowMs desiredMode, modes := w.modes ++ [desiredMode] }
      return desiredMode) :=
    hR.bind (hR.configureWorkerBinding _ _) fun _ =>
    hR.bind (hR.reading _) fun _ =>
    hR.bind (hR.modify (fun _ => rfl) fun _ => rfl) fun _ => hR.pure
  refine hR.bind (hR.modify (fun _ => rfl) fun _ => rfl) fun _ => ?_
  refine hR.bind hR.gets fun initialized => ?_
  dsimp only
  split
  · exact hR.bind (hR.initializeRuntime _ _) fun _ => hread
  · exact hread

theorem admitWorkerFirst : Keeps R (admitWorkerFirst crates sv desiredMode nowMs) := by
  refine hR.caught (hR.reconcileWorkerBeforeComponents _ _ _) (fun _ => hR.pure) fun error => ?_
  cases error with
  | identityMismatch message =>
    dsimp only
    split
    · exact hR.bind (hR.reportError _) fun _ => hR.pure
    · exact hR.fail
  | _ => exact hR.fail

end Pass

end PassFrame

end Frame

/-! ### The store of a pass -/

/-- The change of the mode that an operation asks for. -/
def Op.modeChange : Op → Option (DesiredMode × Nat)
  | .setDesiredModeAt mode nowMs => some (mode, nowMs)
  | _ => none

/-- The change of the mode that others make before the call which takes the answer. -/
def Answer.modeChange : Answer → Option (DesiredMode × Nat)
  | .store _ change => change
  | _ => none

/-- The transactions on the store between two worlds of a pass: operations of the supervisor, and
mode changes of others, in the order in which the answers carry them. -/
structure Transactions (w w' : World) (ops : List Op) : Prop where
  kinds : ∀ op ∈ ops, op.ofSupervisor = true ∨ op.modeChange.isSome = true
  others : ∃ used, w.answers = used ++ w'.answers ∧
    (ops.filterMap Op.modeChange).Sublist (used.filterMap Answer.modeChange)

/-- The store went from one world to the other by a run of such transactions. -/
def Interleaves (crates : Crates) (w w' : World) : Prop :=
  ∃ ops, w'.store = run (perform crates) w.store ops ∧ Transactions w w' ops

section Interleaves

variable {crates : Crates} {w w' w₁ w₂ w₃ : World} {ops ops' : List Op}

theorem Transactions.append (h : Transactions w₁ w₂ ops) (h' : Transactions w₂ w₃ ops') :
    Transactions w₁ w₃ (ops ++ ops') := by
  obtain ⟨used, hanswers, hothers⟩ := h.others
  obtain ⟨used', hanswers', hothers'⟩ := h'.others
  refine ⟨fun op hop => ?_, used ++ used', ?_, ?_⟩
  · rcases List.mem_append.mp hop with hop | hop
    · exact h.kinds op hop
    · exact h'.kinds op hop
  · rw [hanswers, hanswers', List.append_assoc]
  · rw [List.filterMap_append, List.filterMap_append]
    exact hothers.append hothers'

theorem Transactions.aside (h : w'.answers <:+ w.answers) : Transactions w w' [] := by
  obtain ⟨used, hused⟩ := h
  exact ⟨fun _ hop => absurd hop List.not_mem_nil, used, hused.symm, List.nil_sublist _⟩

theorem Interleaves.trans (h : Interleaves crates w₁ w₂) (h' : Interleaves crates w₂ w₃) :
    Interleaves crates w₁ w₃ := by
  obtain ⟨ops, hrun, htransactions⟩ := h
  obtain ⟨ops', hrun', htransactions'⟩ := h'
  exact ⟨ops ++ ops', by rw [run_append, ← hrun, hrun'], htransactions.append htransactions'⟩

/-- What others do before a call of the store. -/
theorem interleaves_changeMode (crates : Crates) {fault : Option StoreFault}
    {change : Option (DesiredMode × Nat)} {rest : List Answer}
    (h : w.answers = .store fault change :: rest) :
    Interleaves crates w { w with answers := rest, store := changeMode w.store change } := by
  cases change with
  | none => exact ⟨[], rfl, .aside (h ▸ List.suffix_cons _ rest)⟩
  | some change =>
    refine ⟨[.setDesiredModeAt change.1 change.2], rfl, fun op hop => ?_, [_], h, ?_⟩
    · obtain rfl := List.mem_singleton.mp hop
      exact .inr rfl
    · exact List.Sublist.refl _

/-- Operations of the supervisor on the store. -/
theorem interleaves_own {own : List Op} (hkinds : ∀ op ∈ own, op.ofSupervisor = true)
    (hstore : w'.store = run (perform crates) w.store own) (hanswers : w'.answers = w.answers) :
    Interleaves crates w w' := by
  refine ⟨own, hstore, fun op hop => .inl (hkinds op hop), [], hanswers.symm, ?_⟩
  have hmode : own.filterMap Op.modeChange = [] := by
    refine List.filterMap_eq_nil_iff.mpr fun op hop => ?_
    have hop := hkinds op hop
    cases op <;> first | rfl | cases hop
  rw [hmode]
  exact List.nil_sublist _

/-- A call of the store: what others did before it, and the call or nothing. -/
theorem storeCall_interleaves {α : Type} {call : Store → Result α × Store} (own : List Op)
    (hkinds : ∀ op ∈ own, op.ofSupervisor = true)
    (hcall : ∀ s, (call s).2 = run (perform crates) s own) :
    Keeps (Interleaves crates) (storeCall call) := by
  intro w
  unfold storeCall
  split
  next fault change rest hanswers =>
    refine (interleaves_changeMode crates hanswers).trans ?_
    dsimp only
    split
    · exact interleaves_own hkinds (hcall _) rfl
    · exact ⟨[], rfl, .aside (List.suffix_refl _)⟩
    · exact interleaves_own hkinds (hcall _) rfl
  next => exact ⟨[], rfl, .aside (List.suffix_refl _)⟩

/-- The routines of a pass keep to such runs of the store. -/
theorem interleaves_frame (crates : Crates) : PassFrame crates (Interleaves crates) where
  refl _ := ⟨[], rfl, .aside (List.suffix_refl _)⟩
  trans _ _ _ := Interleaves.trans
  aside _ _ hstore hanswers := ⟨[], hstore, .aside hanswers⟩
  operation _ op hop hcall :=
    storeCall_interleaves [op] (fun _ hop' => List.mem_singleton.mp hop' ▸ hop) hcall
  reading _ :=
    storeCall_interleaves [] (fun _ hop => absurd hop List.not_mem_nil) fun _ => rfl

end Interleaves

end AscensionWatchdog
