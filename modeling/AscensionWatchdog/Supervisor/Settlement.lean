import AscensionWatchdog.Queue.Reservation
import AscensionWatchdog.Supervisor.Interleaving
import AscensionWatchdog.Supervisor.Restarts

/-!
# Settling a drain

A pass under the draining mode ends by writing the stopped mode, once no child is owned and no
handoff waits for reconciliation. The mode was read at the start of the pass and is written in a
transaction of its own at its end, which does not look at it again.

`reconcileOnce_eq` cuts a pass at the two points: `settlement` has the world in which the mode was
read and the one in which the transaction begins. `drain_settlement_iff` says what holds there: the
pass owns no child and no handoff waits, whatever others do. Whether the mode that is overwritten
is still the draining one depends on them: it is overwritten rightly **exactly when** the last mode
that others have committed in between, if any, is not running or paused.
-/

namespace AscensionWatchdog

open Foundation Foundation.Json Program

variable (crates : Crates) (sv : Supervisor)

/-! ### The pass around its settlement -/

/-- Whether a pass settles the drain. -/
def settlesDrain (desiredMode : DesiredMode) : SupervisorM Bool := do
  if desiredMode = .draining ∧ (← hasNoOwnedChildren sv) = true then workerDrainComplete crates
  else return false

/-- The part of a pass between the read of the mode and the settlement. -/
def reachSettlement (desiredMode : DesiredMode) (nowMs : Nat) : SupervisorM Bool := do
  let workerBlocked ← admitWorkerFirst crates sv desiredMode nowMs
  reconcileComponents crates sv desiredMode nowMs
  if !workerBlocked then reconcileWorkerAfterComponents crates sv desiredMode nowMs
  settlesDrain crates sv desiredMode

/-- The rest of the pass. -/
def settleAndRecord (nowMs : Nat) (settles : Bool) : SupervisorM ReconcileReport := do
  if settles then storeCall fun s => s.setDesiredModeAt .stopped nowMs
  storeCall fun s => s.recordReconciliationProgress nowMs
  .gets World.report

variable {crates sv} in
/-- The settlement of a pass, with what follows it. -/
theorem settleDrain_bind {desiredMode : DesiredMode} {nowMs : Nat} :
    (do settleDrain crates sv desiredMode nowMs
        storeCall fun s => s.recordReconciliationProgress nowMs
        .gets World.report) =
      settlesDrain crates sv desiredMode >>= settleAndRecord nowMs := by
  unfold settleDrain settlesDrain settleAndRecord
  by_cases hmode : desiredMode = .draining
  · simp only [hmode, true_and, bind_assoc]
    congr 1
    funext owned
    cases owned with
    | false => simp
    | true =>
      simp only [if_true, bind_assoc]
      congr 1
      funext drained
      cases drained <;> simp
  · simp [hmode]

/-- A pass reads the mode, reaches its settlement and settles. -/
theorem reconcileOnce_eq (nowMs : Nat) :
    reconcileOnce crates sv nowMs = (do
      let desiredMode ← preparePass crates sv nowMs
      let settles ← reachSettlement crates sv desiredMode nowMs
      settleAndRecord nowMs settles) := by
  unfold reconcileOnce reachSettlement finishPass
  congr 1
  funext desiredMode
  simp only [bind_assoc]
  congr 1
  funext workerBlocked
  congr 1
  funext _
  cases workerBlocked <;> simp [settleDrain_bind]

/-- The two points of a pass that settles: the world in which the mode was read, and the one in
which the transaction of the settlement begins, with what others wrote before it. -/
structure Settlement where
  read : World
  begins : World

/-- The settlement that a pass reaches. -/
def settlement (nowMs : Nat) (w : World) : Option Settlement :=
  match preparePass crates sv nowMs w with
  | (some (.ok desiredMode), read) =>
    match reachSettlement crates sv desiredMode nowMs read with
    | (some (.ok true), w') =>
      match w'.answers with
      | .store _ change :: rest =>
        some ⟨read, { w' with answers := rest, store := changeMode w'.store change }⟩
      | _ => none
    | _ => none
  | _ => none

/-! ### Modes that others commit -/

/-- The mode that an operation commits. -/
def Op.commitsMode (s : Store) : Op → Option DesiredMode
  | .setDesiredModeAt mode nowMs =>
    if (s.setDesiredModeAt mode nowMs).1 = .ok () then some mode else none
  | _ => none

/-- The modes that a run commits, first to last. -/
def committedModes (s : Store) : List Op → List DesiredMode
  | [] => []
  | op :: ops => (op.commitsMode s).toList ++ committedModes (perform crates op s) ops

section

variable {crates sv} {s s' : Store} {w w' : World} {nowMs : Nat} {op : Op} {ops : List Op}

/-- A change of the mode commits, or it leaves the store as it was. -/
theorem setDesiredModeAt_cases (mode : DesiredMode) (s : Store) (nowMs : Nat) :
    (s.setDesiredModeAt mode nowMs).1 = .ok () ∧
        (s.setDesiredModeAt mode nowMs).2.metadata .desiredMode = some (modeAsStr mode) ∨
      (s.setDesiredModeAt mode nowMs).1 ≠ .ok () ∧ (s.setDesiredModeAt mode nowMs).2 = s := by
  unfold Store.setDesiredModeAt
  rcases commit_cases s (do return ((), ← setDesiredModeTx s mode nowMs)) with
    ⟨⟨⟩, s', hroutine, hcommit⟩ | ⟨e, -, hcommit⟩
  · rw [hcommit]
    obtain ⟨s₁, hs₁, hroutine⟩ := bind_eq_ok.mp hroutine
    cases pure_eq_ok.mp hroutine
    exact .inl ⟨rfl, (setDesiredModeTx_eq_ok hs₁).2.1⟩
  · rw [hcommit]
    exact .inr ⟨nofun, rfl⟩

/-- The mode after one transaction of a pass. -/
theorem desiredMode_perform (hkeys : s.queue.Keyed)
    (hkind : op.ofSupervisor = true ∨ op.modeChange.isSome = true) :
    (perform crates op s).metadata .desiredMode =
      ((op.commitsMode s).map modeAsStr).or (s.metadata .desiredMode) := by
  rcases hkind with hop | hop
  · have hquiet : Quiet s (perform crates op s) := perform_quiet hkeys (op.isQuiet_of_ofSupervisor hop)
    have hnone : op.commitsMode s = none := by
      cases op <;> first | rfl | cases hop
    rw [hquiet.mode, hnone]
    rfl
  · obtain ⟨mode, now, rfl⟩ : ∃ mode now, op = .setDesiredModeAt mode now := by
      cases op <;> first | exact ⟨_, _, rfl⟩ | cases hop
    rcases setDesiredModeAt_cases mode s now with ⟨hok, hmode⟩ | ⟨hfailed, hsame⟩
    · simp [perform, Op.commitsMode, hok, hmode]
    · simp [perform, Op.commitsMode, hfailed, hsame]

/-- The mode after transactions of a pass is the last one that they committed. -/
theorem desiredMode_run (crates : Crates) (hkeys : s.queue.Keyed)
    (hkinds : ∀ op ∈ ops, op.ofSupervisor = true ∨ op.modeChange.isSome = true) :
    (run (perform crates) s ops).metadata .desiredMode =
      ((committedModes crates s ops).getLast?.map modeAsStr).or (s.metadata .desiredMode) := by
  induction ops generalizing s with
  | nil => rfl
  | cons op ops ih =>
    obtain ⟨hop, hops⟩ := List.forall_mem_cons.mp hkinds
    rw [run_cons, ih (perform_keyed op hkeys) hops, desiredMode_perform hkeys hop, committedModes,
      List.getLast?_append]
    cases (committedModes crates (perform crates op s) ops).getLast? <;>
      cases op.commitsMode s <;> rfl

/-! ### The two points -/

/-- What a read of the store that answered has read, and what it leaves. -/
theorem storeRead_eq_ok {α : Type} {read : Store → Result α} {a : α}
    (h : storeRead read w = (some (.ok a), w')) :
    read w'.store = .ok a ∧ w'.children = w.children := by
  unfold storeRead storeCall at h
  split at h
  next fault change rest hanswers =>
    dsimp only at h
    split at h
    · obtain ⟨hread, rfl⟩ := Prod.mk.inj h
      exact ⟨Option.some.inj hread, rfl⟩
    · cases h
    · cases h
  next => cases h

/-- The mode that a pass has read is the one of the store. -/
theorem preparePass_eq_ok {desiredMode : DesiredMode}
    (h : preparePass crates sv nowMs w = (some (.ok desiredMode), w')) :
    w'.store.desiredMode = .ok desiredMode := by
  have hread (w₀ : World) (h : (do
      configureWorkerBinding sv nowMs
      let desiredMode ← storeRead Store.desiredMode
      .modify fun w =>
        { w with report := .begin nowMs desiredMode, modes := w.modes ++ [desiredMode] }
      return desiredMode : SupervisorM DesiredMode) w₀ = (some (.ok desiredMode), w')) :
      w'.store.desiredMode = .ok desiredMode := by
    obtain ⟨⟨⟩, w₁, -, h⟩ := Program.bind_eq_ok.mp h
    obtain ⟨mode, w₂, hmode, h⟩ := Program.bind_eq_ok.mp h
    obtain ⟨⟨⟩, w₃, hmodify, h⟩ := Program.bind_eq_ok.mp h
    obtain ⟨rfl, rfl⟩ := Program.pure_eq_ok.mp h
    rw [← modify_eq_ok.mp hmodify]
    exact (storeRead_eq_ok hmode).1
  obtain ⟨⟨⟩, w₁, -, h⟩ := Program.bind_eq_ok.mp h
  obtain ⟨initialized, w₂, -, h⟩ := Program.bind_eq_ok.mp h
  dsimp only at h
  split at h
  · obtain ⟨⟨⟩, w₃, -, h⟩ := Program.bind_eq_ok.mp h
    exact hread w₃ h
  · exact hread w₂ h

/-- A pass that settles works under the draining mode, owns no child and has found no handoff that
waits. -/
theorem settlesDrain_eq_true {desiredMode : DesiredMode}
    (h : settlesDrain crates sv desiredMode w = (some (.ok true), w')) :
    desiredMode = .draining ∧
      (∀ component ∈ sv.config.components, w'.children component.id = none) ∧
      w'.store.nextWorkerHandoffForReconciliation crates = .ok none := by
  unfold settlesDrain at h
  obtain ⟨unowned, w₁, hunowned, h⟩ := Program.bind_eq_ok.mp h
  obtain ⟨hall, rfl⟩ := gets_eq_ok.mp hunowned
  split at h
  next hsettles =>
    obtain ⟨hmode, rfl⟩ := hsettles
    obtain ⟨pending, w₂, hpending, h⟩ := Program.bind_eq_ok.mp h
    obtain ⟨hnone, rfl⟩ := Program.pure_eq_ok.mp h
    obtain ⟨hread, hchildren⟩ := storeRead_eq_ok hpending
    obtain rfl := Option.isNone_iff_eq_none.mp hnone
    refine ⟨hmode, fun component hcomponent => ?_, hread⟩
    rw [hchildren]
    simpa using List.all_eq_true.mp hall component hcomponent
  next => cases (Program.pure_eq_ok.mp h).1

/-- No handoff waits for reconciliation when none is found. -/
theorem handoffs_settled (h : s.nextWorkerHandoffForReconciliation crates = .ok none) :
    ∀ row ∈ s.handoffs, row.state = .acknowledged ∨ row.state = .rejected := by
  intro row hrow
  unfold Store.nextWorkerHandoffForReconciliation at h
  dsimp only at h
  cases hleast : leastBy HandoffRow.reconciledBefore
      (s.handoffs.filter fun h => h.state != .acknowledged && h.state != .rejected) with
  | some first =>
    rw [hleast] at h
    obtain ⟨-, h⟩ := ensure_bind_eq_ok.mp h
    obtain ⟨handoff?, -, h⟩ := bind_eq_ok.mp h
    obtain ⟨handoff, -, h⟩ := bind_eq_ok.mp h
    cases h
  | none =>
    by_contra hstate
    have hmem : row ∈ s.handoffs.filter fun h => h.state != .acknowledged && h.state != .rejected :=
      List.mem_filter.mpr ⟨hrow, by simpa [not_or] using hstate⟩
    rw [leastBy_eq_none.mp hleast] at hmem
    cases hmem

theorem changeMode_handoffs (s : Store) (change : Option (DesiredMode × Nat)) :
    (changeMode s change).handoffs = s.handoffs := by
  cases change with
  | none => rfl
  | some change =>
    refine commit_leaves (f := Store.handoffs) ?_
    rintro ⟨⟨⟩, s'⟩ hroutine
    obtain ⟨s₁, hs₁, hroutine⟩ := bind_eq_ok.mp hroutine
    cases pure_eq_ok.mp hroutine
    exact congrArg Queue.handoffs (setDesiredModeTx_queue hs₁)

/-- Up to its settlement a pass keeps to operations of the supervisor. -/
theorem reachSettlement_interleaves (crates : Crates) (sv : Supervisor)
    (desiredMode : DesiredMode) (nowMs : Nat) :
    Keeps (Interleaves crates) (reachSettlement crates sv desiredMode nowMs) := by
  have hR := interleaves_frame crates
  have hsettles : Keeps (Interleaves crates) (settlesDrain crates sv desiredMode) := by
    refine hR.bind hR.gets fun _ => ?_
    split
    · exact hR.workerDrainComplete
    · exact hR.pure
  refine hR.bind (hR.admitWorkerFirst _ _ _) fun workerBlocked => ?_
  refine hR.bind (hR.reconcileComponents _ _ _) fun _ => ?_
  dsimp only
  split
  · exact hR.bind (hR.reconcileWorkerAfterComponents _ _ _) fun _ => hsettles
  · exact hsettles

/-- What is known of a pass that settles. -/
theorem settlement_eq_some {pass : Settlement} (h : settlement crates sv nowMs w = some pass) :
    pass.read.store.desiredMode = .ok .draining ∧
      (∀ component ∈ sv.config.components, pass.begins.children component.id = none) ∧
      (∀ row ∈ pass.begins.store.handoffs, row.state = .acknowledged ∨ row.state = .rejected) ∧
      Interleaves crates w pass.read ∧ Interleaves crates pass.read pass.begins := by
  unfold settlement at h
  split at h
  next desiredMode read hread =>
    split at h
    next w₁ hreach =>
      split at h
      next fault change rest hanswers =>
        obtain rfl := Option.some.inj h
        obtain ⟨w₀, hsettles⟩ : ∃ w₀, settlesDrain crates sv desiredMode w₀ = (some (.ok true), w₁) := by
          obtain ⟨blocked, w₂, -, hreach⟩ := Program.bind_eq_ok.mp hreach
          obtain ⟨⟨⟩, w₃, -, hreach⟩ := Program.bind_eq_ok.mp hreach
          dsimp only at hreach
          split at hreach
          · obtain ⟨⟨⟩, w₄, -, hreach⟩ := Program.bind_eq_ok.mp hreach
            exact ⟨w₄, hreach⟩
          · exact ⟨w₃, hreach⟩
        obtain ⟨rfl, hchildren, hpending⟩ := settlesDrain_eq_true hsettles
        have hbefore := (interleaves_frame crates).preparePass sv nowMs w
        rw [hread] at hbefore
        have hpass := reachSettlement_interleaves crates sv .draining nowMs read
        rw [hreach] at hpass
        refine ⟨preparePass_eq_ok hread, hchildren, ?_, hbefore, ?_⟩
        · rw [changeMode_handoffs]
          exact handoffs_settled hpending
        · exact hpass.trans (interleaves_changeMode crates hanswers)
      next => cases h
    next => cases h
  next => cases h

end

/-- **Settling a drain.** In every pass that settles, the pass has read the draining mode, it owns
no child and no handoff waits for reconciliation when the transaction begins. Between the read and
the transaction the store made a run of operations of the supervisor and of mode changes of others,
and the mode that is overwritten is draining, or already stopped, exactly when the last mode
committed in that run, if any, is one of the two. -/
theorem drain_settlement_iff (crates : Crates) (sv : Supervisor) (nowMs : Nat) {w : World}
    (hkeys : w.store.queue.Keyed) {pass : Settlement}
    (hpass : settlement crates sv nowMs w = some pass) :
    pass.read.store.desiredMode = .ok .draining ∧
      (∀ component ∈ sv.config.components, pass.begins.children component.id = none) ∧
      (∀ row ∈ pass.begins.store.handoffs, row.state = .acknowledged ∨ row.state = .rejected) ∧
      ∃ ops, pass.begins.store = run (perform crates) pass.read.store ops ∧
        Transactions pass.read pass.begins ops ∧
        (pass.begins.store.desiredMode = .ok .draining ∨
            pass.begins.store.desiredMode = .ok .stopped ↔
          ∀ mode ∈ (committedModes crates pass.read.store ops).getLast?,
            mode = .draining ∨ mode = .stopped) := by
  obtain ⟨hmode, hchildren, hhandoffs, ⟨ops₀, hrun₀, -⟩, ops, hrun, htransactions⟩ :=
    settlement_eq_some hpass
  refine ⟨hmode, hchildren, hhandoffs, ops, hrun, htransactions, ?_⟩
  have hkeys' : pass.read.store.queue.Keyed := hrun₀ ▸ after_keyed hkeys ops₀
  have hbegins := desiredMode_run crates hkeys' htransactions.kinds
  rw [← hrun] at hbegins
  cases hlast : (committedModes crates pass.read.store ops).getLast? with
  | none =>
    have hsame : pass.begins.store.desiredMode = pass.read.store.desiredMode := by
      rw [hlast] at hbegins
      rw [Store.desiredMode, Store.desiredMode, hbegins]
      rfl
    exact iff_of_true (.inl (hsame.trans hmode)) (by simp)
  | some last =>
    rw [hlast] at hbegins
    rw [desiredMode_of_metadata hbegins]
    simp

/-! ### The ledger of the operators -/

/-- The ledger stays as it is, where the keys of the queue are unique. -/
def LedgerKept (w w' : World) : Prop :=
  w.store.queue.Keyed →
    w'.store.queue.Keyed ∧ w'.store.operatorCommands = w.store.operatorCommands

/-- An operation that writes nothing to the ledger. -/
def Op.SparesLedger (op : Op) : Prop :=
  op.admission = none ∧ op.completesBackup = false

instance : IsTrans World LedgerKept where
  trans := by
    intro w₁ w₂ w₃ h h' hkeys
    obtain ⟨hkeys, hledger⟩ := h hkeys
    exact ⟨(h' hkeys).1, (h' hkeys).2.trans hledger⟩

section Ledger

variable {crates : Crates} {w w' : World} (ops : List Op)

theorem ledgerKept_of_run (hstore : w'.store = run (perform crates) w.store ops)
    (hops : ∀ op ∈ ops, op.SparesLedger) : LedgerKept w w' := by
  intro hkeys
  rw [hstore]
  refine run_invariant_of_meets
    (P := fun s : Store => s.queue.Keyed ∧ s.operatorCommands = w.store.operatorCommands)
    (C := fun op _ => op.SparesLedger) (fun op s hs hop => ⟨perform_keyed op hs.1, ?_⟩)
    ⟨hkeys, rfl⟩ (meets_of_forall fun op hop _ => hops op hop)
  rcases perform_ledger crates hs.1 hop.2 with hsame | ⟨call, -, hcall, -⟩
  · exact hsame.trans hs.2
  · cases hop.1.symm.trans hcall

theorem Interleaves.ledgerKept (h : Interleaves crates w w') : LedgerKept w w' := by
  obtain ⟨ops, hrun, htransactions⟩ := h
  refine ledgerKept_of_run ops hrun fun op hop => ?_
  rcases htransactions.kinds op hop with hkind | hkind <;>
    cases op <;> first | exact ⟨rfl, rfl⟩ | cases hkind

theorem storeCall_ledgerKept (crates : Crates) {call : Store → Result Unit × Store} (op : Op)
    (hop : op.SparesLedger) (hcall : ∀ s, (call s).2 = perform crates op s) :
    Keeps LedgerKept (storeCall call) := by
  intro w
  unfold storeCall
  split
  next fault change rest hanswers =>
    refine IsTrans.trans _ _ _ (interleaves_changeMode crates hanswers).ledgerKept ?_
    dsimp only
    split
    · exact ledgerKept_of_run [op] (hcall _) (by simpa using hop)
    · exact fun hkeys => ⟨hkeys, rfl⟩
    · exact ledgerKept_of_run [op] (hcall _) (by simpa using hop)
  next => exact fun hkeys => ⟨hkeys, rfl⟩

end Ledger

/-- **A pass leaves the ledger of the operators alone**, whatever fails in it, wherever it ends and
whatever others do to the mode. -/
theorem reconcileOnce_keeps_ledger (crates : Crates) (sv : Supervisor) (nowMs : Nat) {w : World}
    (hkeys : w.store.queue.Keyed) :
    (reconcileOnce crates sv nowMs w).2.store.operatorCommands = w.store.operatorCommands := by
  have hrecord : Keeps LedgerKept (do
      storeCall fun s => s.recordReconciliationProgress nowMs
      .gets World.report) :=
    .bind (storeCall_ledgerKept crates (.recordReconciliationProgress nowMs) ⟨rfl, rfl⟩
      fun _ => rfl) fun _ w hkeys => ⟨hkeys, rfl⟩
  have hsettle (settles : Bool) : Keeps LedgerKept (settleAndRecord nowMs settles) := by
    cases settles with
    | false => exact hrecord
    | true =>
      exact .bind (storeCall_ledgerKept crates (.setDesiredModeAt .stopped nowMs) ⟨rfl, rfl⟩
        fun _ => rfl) fun _ => hrecord
  have hpass : Keeps LedgerKept (reconcileOnce crates sv nowMs) := by
    rw [reconcileOnce_eq]
    exact .bind (fun w => ((interleaves_frame crates).preparePass sv nowMs w).ledgerKept)
      fun mode => .bind (fun w => (reachSettlement_interleaves crates sv mode nowMs w).ledgerKept)
        hsettle
  exact (hpass w hkeys).2

/-! ### A mode that is overwritten -/

/-- A supervisor without components and without a worker. -/
def idleSupervisor : Supervisor where
  config :=
    { components := []
      worker := none
      gatewayHealth := none
      releaseCatalog := false
      allowSyntheticChildren := false
      policy := .samplePolicy }
  workerId := "watchdog"
  workerBootId := sampleUuid 3
  decodeIdentity := fun _ => none

/-- A later pass of an instance on a store in the draining mode. -/
def drainingWorld (answers : List Answer) : World where
  store := sampleStore.after sampleCrates [.setDesiredModeAt .draining 2]
  children := fun _ => none
  workerDeferredPhases := []
  workerHeartbeat := none
  workerPhasePreFailed := false
  gatewayHealthWitness := none
  initializedRuntime := true
  report := .begin 0 .stopped
  answers := answers
  live := []
  launches := []
  stops := []
  inspections := []
  gates := []
  controls := []
  claims := []
  modes := []
  storeFailed := false

/-- The answers to a pass in which nothing fails: the read of the mode, the look at the handoffs,
the settlement, before which others may change the mode, and the progress record. -/
def settlingAnswers (change : Option (DesiredMode × Nat)) : List Answer :=
  [.store none none, .store none none, .store none change, .store none none]

/-- An operator resumes the deployment after the pass has looked at the handoffs: the settlement
finds the running mode, and the pass leaves the stopped one. -/
theorem running_mode_overwritten :
    (settlement sampleCrates idleSupervisor 4
        (drainingWorld (settlingAnswers (some (.running, 3))))).map
          (fun pass => (pass.read.store.desiredMode, pass.begins.store.desiredMode)) =
        some (.ok .draining, .ok .running) ∧
      (reconcileOnce sampleCrates idleSupervisor 4
        (drainingWorld (settlingAnswers (some (.running, 3))))).2.store.desiredMode =
        .ok .stopped := by
  decide +kernel

/-- The same pass without the operator. -/
theorem drain_settlement_iff_undisturbed :
    ∃ pass, settlement sampleCrates idleSupervisor 4 (drainingWorld (settlingAnswers none)) =
        some pass ∧
      (∀ row ∈ pass.begins.store.handoffs, row.state = .acknowledged ∨ row.state = .rejected) ∧
      ∃ ops, Transactions pass.read pass.begins ops ∧
        (pass.begins.store.desiredMode = .ok .draining ∨
            pass.begins.store.desiredMode = .ok .stopped ↔
          ∀ mode ∈ (committedModes sampleCrates pass.read.store ops).getLast?,
            mode = .draining ∨ mode = .stopped) := by
  have hsome : (settlement sampleCrates idleSupervisor 4
      (drainingWorld (settlingAnswers none))).isSome = true := by decide +kernel
  obtain ⟨pass, hpass⟩ := Option.isSome_iff_exists.mp hsome
  have hkeys : (drainingWorld (settlingAnswers none)).store.queue.Keyed :=
    after_keyed (initialize_keyed sampleStore_init) _
  obtain ⟨-, -, hhandoffs, ops, -, htransactions, hiff⟩ :=
    drain_settlement_iff sampleCrates idleSupervisor 4 hkeys hpass
  exact ⟨pass, hpass, hhandoffs, ops, htransactions, hiff⟩

theorem reconcileOnce_keeps_ledger_undisturbed :
    (reconcileOnce sampleCrates idleSupervisor 4
        (drainingWorld (settlingAnswers none))).2.store.operatorCommands =
      (drainingWorld (settlingAnswers none)).store.operatorCommands :=
  reconcileOnce_keeps_ledger sampleCrates idleSupervisor 4
    (after_keyed (initialize_keyed sampleStore_init) _)

end AscensionWatchdog
