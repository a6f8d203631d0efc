import AscensionWatchdog.Queue.Receipts
import AscensionWatchdog.Supervisor.StoreFrames

/-!
# The control register of the worker

The control row is a register with a sequence number. A call that sets it is refused if its
sequence is older than the stored one, or equal with other contents; an exact repetition is
accepted and changes nothing. No other operation of the store writes the row.

So in every run the calls that changed the row have increasing sequences, the row is what the last
of them wrote, and every accepted control but that one has a smaller sequence
(`control_register`). A handoff is claimed, and its dispatch marker written, under that control only:
once a pause or a stop was accepted, an older running control authorizes nothing any more.
-/

namespace AscensionWatchdog

open Foundation Foundation.Json

/-- The current control. -/
def Store.control (s : Store) : Option WorkerControlWitness :=
  s.workerControl.map Prod.fst

variable {crates : Crates} {s s' : Store} {control : WorkerControlWitness} {nowMs : Nat}

/-! ### Who writes the row -/

theorem workerControl_of_standing (h : s'.standing = s.standing) :
    s'.workerControl = s.workerControl :=
  congrArg (fun t => t.2.2) h

/-- A routine that leaves the control row alone. -/
abbrev KeepsControl {α : Type} (s : Store) (x : Result (α × Store)) : Prop :=
  Yields (fun r => r.2.workerControl = s.workerControl) x

/-- A routine that ends with an audit record. -/
theorem keepsControl_audited {α : Type} {s₀ : Store} {action detail : String} {a : α}
    (h : s.workerControl = s₀.workerControl) :
    KeepsControl s₀ (do
      let s ← insertAuditTx s action detail nowMs
      return (a, s)) :=
  .bind insertAuditTx_standing fun _ hs => .pure ((workerControl_of_standing hs).trans h)

section Launches

theorem prepareLaunchIntent_workerControl
    (component nonce incarnation digest : String) (containment : Option String) (id : UuidV4) :
    (s.prepareLaunchIntent crates component nonce incarnation digest containment nowMs
      id).2.workerControl = s.workerControl := by
  rw [Store.prepareLaunchIntent, commitThen_snd]
  refine commit_leaves (f := Store.workerControl) ?_
  unfold prepareLaunchIntentTx
  iterate 9 refine .check fun _ => ?_
  split
  · exact .error
  · exact .check fun _ => keepsControl_audited rfl

theorem recordLaunchProof_workerControl (intentId : String) (proof : Value) :
    (s.recordLaunchProof crates intentId proof nowMs).2.workerControl = s.workerControl := by
  rw [Store.recordLaunchProof, commitThen_snd]
  refine commit_leaves (f := Store.workerControl) ?_
  unfold recordLaunchProofTx
  exact .check fun _ => .check fun _ => .check fun _ => .check fun _ => .check fun _ =>
    .check fun _ => keepsControl_audited rfl

theorem activateLaunchIntent_workerControl (intentId : String) :
    (s.activateLaunchIntent crates intentId nowMs).2.workerControl = s.workerControl := by
  rw [Store.activateLaunchIntent, commitThen_snd]
  refine commit_leaves (f := Store.workerControl) ?_
  unfold activateLaunchIntentTx
  exact .check fun _ => .check fun _ => .check fun _ => .check fun _ => .check fun _ =>
    keepsControl_audited rfl

theorem cleanLaunchIntent_workerControl (intentId : String) :
    (s.cleanLaunchIntent crates intentId nowMs).2.workerControl = s.workerControl := by
  rw [Store.cleanLaunchIntent, commitThen_snd]
  refine commit_leaves (f := Store.workerControl) ?_
  unfold cleanLaunchIntentTx
  refine .check fun _ => .check fun _ => ?_
  split
  · exact .pure rfl
  · exact .check fun _ => keepsControl_audited rfl

theorem upsertComponent_workerControl (record : ComponentRecord) :
    (s.upsertComponent record nowMs).2.workerControl = s.workerControl := by
  refine commit_leaves (f := Store.workerControl) ?_
  unfold upsertComponentTx
  exact .check fun _ => .check fun _ => .check fun _ => .check fun _ => .pure rfl

theorem persistComponentIdentity_workerControl (component : String) (identity : ProcessIdentity) :
    (s.persistComponentIdentity component identity nowMs).2.workerControl = s.workerControl := by
  refine commit_leaves (f := Store.workerControl) ?_
  unfold persistComponentIdentityTx
  exact .check fun _ => .check fun _ => .check fun _ => .check fun _ => .pure rfl

theorem clearComponentIdentity_workerControl (component : String) :
    (s.clearComponentIdentity component nowMs).2.workerControl = s.workerControl := by
  refine commit_leaves (f := Store.workerControl) ?_
  unfold clearComponentIdentityTx
  exact .check fun _ => .pure rfl

theorem restore_workerControl (config : RestoreConfig) (epoch : UuidV4) :
    (s.restore config nowMs epoch).2.workerControl = s.workerControl := by
  refine commit_leaves (f := Store.workerControl) ?_
  have hrekey : ∀ {generation : Int},
      StandsAs s (rekeyMetadataTx s config.effective generation nowMs) := by
    intro generation
    unfold rekeyMetadataTx
    refine .bind updateMetadataTx_standing fun _ h₁ => .bind updateMetadataTx_standing fun _ h₂ =>
      .bind updateMetadataTx_standing fun _ h₃ => .bind updateMetadataTx_standing fun _ h₄ =>
      .bind updateMetadataTx_standing fun _ h₅ => ?_
    exact updateMetadataTx_standing.trans (h₅.trans (h₄.trans (h₃.trans (h₂.trans h₁))))
  refine .bind (Q := fun s' => s'.workerControl = s.workerControl) ?_ fun _ h => .pure h
  unfold restoreTx
  refine .check fun _ => .check fun _ => .bind hrekey fun s₁ h₁ => .check fun _ => ?_
  refine .bind insertAuditTx_standing fun s₂ h₂ => .pure ?_
  have hrekeyed : s₁.workerControl = s.workerControl := workerControl_of_standing h₁
  exact (workerControl_of_standing h₂).trans hrekeyed

end Launches

/-- The call that sets the control. -/
def Op.setControl : Op → Option WorkerControlWitness
  | .setWorkerControlAt control _ => some control
  | _ => none

/-- **No other operation writes the row.** -/
theorem perform_workerControl {op : Op} (hop : op.setControl = none) :
    (perform crates op s).workerControl = s.workerControl := by
  cases op with
  | setWorkerControlAt control now => cases hop
  | prepareLaunchIntent => exact prepareLaunchIntent_workerControl ..
  | recordLaunchProof => exact recordLaunchProof_workerControl ..
  | activateLaunchIntent => exact activateLaunchIntent_workerControl ..
  | cleanLaunchIntent => exact cleanLaunchIntent_workerControl ..
  | upsertComponent => exact upsertComponent_workerControl ..
  | persistComponentIdentity => exact persistComponentIdentity_workerControl ..
  | clearComponentIdentity => exact clearComponentIdentity_workerControl ..
  | restore => exact restore_workerControl ..
  | _ => exact workerControl_of_standing (by simp [perform])

/-! ### What a call does -/

/-- How a call that sets the control ends. -/
inductive ControlCall (s : Store) (control : WorkerControlWitness) :
    Result WorkerControlWitness → Store → Prop where
  | refused (e : WatchdogError) : ControlCall s control (.error e) s
  | repeated : s.control = some control → ControlCall s control (.ok control) s
  | changed {s' : Store} : s'.control = some control →
      (∀ previous, s.control = some previous → previous.modeSequence < control.modeSequence) →
      ControlCall s control (.ok control) s'

private theorem upsertWorkerControlTx_control {a : WorkerControlWitness}
    (h : upsertWorkerControlTx s control nowMs = .ok (a, s')) :
    a = control ∧ s'.control = some control := by
  replace h := bind_only sqliteTimestamp_eq_ok h
  obtain ⟨now, -, h⟩ := bind_eq_ok.mp h
  obtain ⟨s₁, hs₁, h⟩ := bind_eq_ok.mp h
  have hrow := workerControl_of_standing (insertAuditTx_standing s₁ hs₁)
  cases pure_eq_ok.mp h
  exact ⟨rfl, congrArg (Option.map Prod.fst) hrow⟩

private theorem controlFromRow_eq {row : WorkerControlWitness}
    (h : controlFromRow row = .ok control) : row = control := by
  obtain ⟨-, -, h⟩ := bind_eq_ok.mp h
  obtain ⟨-, -, h⟩ := bind_eq_ok.mp h
  exact pure_eq_ok.mp h

/-- **A call that sets the control ends in one of these ways.** -/
theorem setWorkerControlAt_call (s : Store) (control : WorkerControlWitness) (nowMs : Nat) :
    ControlCall s control (s.setWorkerControlAt control nowMs).1
      (s.setWorkerControlAt control nowMs).2 := by
  rcases commit_cases s (setWorkerControlTx s control nowMs) with
    ⟨a, s', hok, hcommit⟩ | ⟨e, -, hcommit⟩
  · rw [Store.setWorkerControlAt, hcommit]
    obtain ⟨⟨⟩, -, h⟩ := bind_eq_ok.mp hok
    obtain ⟨binding?, -, h⟩ := bind_eq_ok.mp h
    obtain ⟨binding, -, h⟩ := bind_eq_ok.mp h
    replace h := bind_passed h
    split at h
    next hnone =>
      obtain ⟨rfl, hcontrol⟩ := upsertWorkerControlTx_control h
      refine .changed hcontrol fun previous hprevious => ?_
      rw [Store.control, hnone] at hprevious
      cases hprevious
    next row updatedAt hrow =>
      obtain ⟨existing, hexisting, h⟩ := bind_eq_ok.mp h
      obtain rfl := controlFromRow_eq hexisting
      replace h := bind_passed h
      obtain ⟨hle, h⟩ := ensure_bind_eq_ok.mp h
      have hstored : s.control = some row := by rw [Store.control, hrow]; rfl
      split at h
      next =>
        obtain ⟨heq, hpure⟩ := ensure_bind_eq_ok.mp h
        subst heq
        cases pure_eq_ok.mp hpure
        exact .repeated hstored
      next hne =>
        obtain ⟨rfl, hcontrol⟩ := upsertWorkerControlTx_control h
        refine .changed hcontrol fun previous hprevious => ?_
        cases hstored.symm.trans hprevious
        omega
  · rw [Store.setWorkerControlAt, hcommit]
    exact .refused e

/-! ### Runs -/

section Runs

/-- The control of a call that is accepted. -/
def acceptedBy (s : Store) : Op → List WorkerControlWitness
  | .setWorkerControlAt control now =>
    if (s.setWorkerControlAt control now).1 = .ok control then [control] else []
  | _ => []

/-- The control of a call that changes the row. -/
def changedBy (s : Store) : Op → List WorkerControlWitness
  | .setWorkerControlAt control now =>
    if (s.setWorkerControlAt control now).2.control = s.control then [] else [control]
  | _ => []

/-- The controls that a run accepts, first to last. -/
def acceptedControls (crates : Crates) (s : Store) : List Op → List WorkerControlWitness
  | [] => []
  | op :: ops => acceptedBy s op ++ acceptedControls crates (perform crates op s) ops

/-- The controls that change the row in a run, first to last. -/
def controlChanges (crates : Crates) (s : Store) : List Op → List WorkerControlWitness
  | [] => []
  | op :: ops => changedBy s op ++ controlChanges crates (perform crates op s) ops

/-- The register after calls that were accepted and calls that changed it. -/
structure Register (s : Store) (accepted changes : List WorkerControlWitness) : Prop where
  current : s.control = changes.getLast?
  increasing : changes.Pairwise fun c c' => c.modeSequence < c'.modeSequence
  greatest : ∀ c ∈ accepted, ∃ control, s.control = some control ∧
    (c = control ∨ c.modeSequence < control.modeSequence)

variable {accepted changes : List WorkerControlWitness}

/-- What was written before has smaller sequences than what changes the row. -/
theorem Register.lt_of_changed (h : Register s accepted changes)
    (hnewer : ∀ previous, s.control = some previous →
      previous.modeSequence < control.modeSequence) :
    ∀ c ∈ changes, c.modeSequence < control.modeSequence := by
  intro c hc
  obtain ⟨before, last, rfl⟩ := List.eq_nil_or_concat' changes |>.resolve_left
    (List.ne_nil_of_mem hc)
  have hlast : last.modeSequence < control.modeSequence :=
    hnewer last (h.current.trans List.getLast?_concat)
  rcases List.mem_append.mp hc with hbefore | hc
  · have hlt := (List.pairwise_append.mp h.increasing).2.2 c hbefore last
      (List.mem_singleton.mpr rfl)
    omega
  · rw [List.mem_singleton.mp hc]
    exact hlast

theorem Register.step (h : Register s accepted changes) (op : Op) :
    Register (perform crates op s) (accepted ++ acceptedBy s op) (changes ++ changedBy s op) := by
  cases hset : op.setControl with
  | none =>
    have hkept : (perform crates op s).control = s.control :=
      congrArg (Option.map Prod.fst) (perform_workerControl hset)
    have hnone : acceptedBy s op = [] ∧ changedBy s op = [] := by
      cases op <;> first | exact ⟨rfl, rfl⟩ | cases hset
    rw [hnone.1, hnone.2, List.append_nil, List.append_nil]
    refine ⟨hkept.trans h.current, h.increasing, ?_⟩
    rw [hkept]
    exact h.greatest
  | some control =>
    obtain ⟨now, rfl⟩ : ∃ now, op = .setWorkerControlAt control now := by
      cases op <;> cases hset
      exact ⟨_, rfl⟩
    have hcall := setWorkerControlAt_call s control now
    simp only [perform, acceptedBy, changedBy]
    generalize s.setWorkerControlAt control now = r at hcall
    obtain ⟨answer, s'⟩ := r
    cases hcall with
    | refused e =>
      rw [if_neg (by simp), if_pos rfl, List.append_nil, List.append_nil]
      exact h
    | repeated hstored =>
      rw [if_pos rfl, if_pos rfl, List.append_nil]
      refine ⟨h.current, h.increasing, fun c hc => ?_⟩
      rcases List.mem_append.mp hc with hc | hc
      · exact h.greatest c hc
      · exact ⟨control, hstored, .inl (List.mem_singleton.mp hc)⟩
    | changed hcontrol hnewer =>
      have hne : s'.control ≠ s.control := by
        intro heq
        exact lt_irrefl _ (hnewer control (heq ▸ hcontrol))
      rw [if_pos rfl, if_neg hne]
      refine ⟨hcontrol.trans List.getLast?_concat.symm, ?_, fun c hc => ⟨control, hcontrol, ?_⟩⟩
      · rw [List.pairwise_append]
        refine ⟨h.increasing, List.pairwise_singleton _ _, fun c hc c' hc' => ?_⟩
        rw [List.mem_singleton.mp hc']
        exact h.lt_of_changed hnewer c hc
      · rcases List.mem_append.mp hc with hc | hc
        · -- an earlier control has at most the sequence of the row before
          obtain ⟨previous, hprevious, hle⟩ := h.greatest c hc
          have hlt := hnewer previous hprevious
          rcases hle with rfl | hle
          · exact .inr hlt
          · exact .inr (hle.trans hlt)
        · exact .inl (List.mem_singleton.mp hc)

theorem Register.run (h : Register s accepted changes) (ops : List Op) :
    Register (s.after crates ops) (accepted ++ acceptedControls crates s ops)
      (changes ++ controlChanges crates s ops) := by
  induction ops generalizing s accepted changes with
  | nil =>
    rw [acceptedControls, controlChanges, List.append_nil, List.append_nil]
    exact h
  | cons op ops ih =>
    rw [acceptedControls, controlChanges, ← List.append_assoc, ← List.append_assoc]
    exact ih (h.step op)

end Runs

/-! ### Claims and dispatches -/

/-- A handoff is admitted by the current control: it runs, it is the one that the handoff was
claimed under, and every other control that was accepted has a smaller sequence. -/
def AdmittedByLatest (accepted : List WorkerControlWitness) (s : Store) (h : HandoffRow) : Prop :=
  ∃ control, s.control = some control ∧ control.mode = .running ∧
    control.watchdogBootId = h.watchdogBootId ∧ control.workerBootId = h.workerBootId ∧
    control.modeSequence = h.modeSequence ∧
    ∀ c ∈ accepted, c = control ∨ c.modeSequence < control.modeSequence

theorem Register.admittedByLatest {accepted changes : List WorkerControlWitness} {h : HandoffRow}
    (hregister : Register s accepted changes) (hauthorized : s.AuthorizesDispatch h) :
    AdmittedByLatest accepted s h := by
  obtain ⟨-, control, updatedAt, hrow, hmode, hwatchdog, hworker, hsequence⟩ := hauthorized
  have hcontrol : s.control = some control := by
    rw [Store.control, hrow]
    rfl
  refine ⟨control, hcontrol, hmode, hwatchdog, hworker, hsequence, fun c hc => ?_⟩
  obtain ⟨control', hcontrol', hle⟩ := hregister.greatest c hc
  cases hcontrol.symm.trans hcontrol'
  exact hle

theorem initialize_workerControl {config : StoreConfig} {now : Nat} {epoch : UuidV4}
    (h : Store.initialize config now epoch = .ok s) : s.workerControl = none :=
  workerControl_of_standing (insertAuditTx_standing s h)

/-- **In every run, with calls in any order and repeated, the control row is what the last call that
changed it wrote, the sequences of those calls increase, and a handoff is claimed, or its dispatch
marker written, only under that row, whose sequence is greater than that of every other control
that was accepted.** -/
theorem control_register (crates : Crates) {config : StoreConfig} {now : Nat} {epoch : UuidV4}
    {s₀ : Store} (hinit : Store.initialize config now epoch = .ok s₀) (ops : List Op) :
    (s₀.after crates ops).control = (controlChanges crates s₀ ops).getLast? ∧
      (controlChanges crates s₀ ops).Pairwise (fun c c' => c.modeSequence < c'.modeSequence) ∧
      ∀ op,
        (∀ h' ∈ (perform crates op (s₀.after crates ops)).handoffs,
          (∀ h ∈ (s₀.after crates ops).handoffs, h.handoffId ≠ h'.handoffId) →
          AdmittedByLatest (acceptedControls crates s₀ ops) (s₀.after crates ops) h') ∧
        ∀ h ∈ (s₀.after crates ops).handoffs, h.state = .prepared →
          h ∉ (perform crates op (s₀.after crates ops)).handoffs →
          AdmittedByLatest (acceptedControls crates s₀ ops) (s₀.after crates ops) h := by
  have hfresh : Register s₀ [] [] := by
    refine ⟨?_, List.Pairwise.nil, nofun⟩
    rw [Store.control, initialize_workerControl hinit]
    rfl
  have hregister : Register (s₀.after crates ops) (acceptedControls crates s₀ ops)
      (controlChanges crates s₀ ops) := hfresh.run ops
  have hkeyed : (s₀.after crates ops).queue.Keyed := after_keyed (initialize_keyed hinit) ops
  refine ⟨hregister.current, hregister.increasing, fun op => ⟨fun h' hh' hnew => ?_, ?_⟩⟩
  · exact hregister.admittedByLatest (perform_new_handoff hkeyed hh' hnew).2
  · intro h hh hprepared hmoved
    exact hregister.admittedByLatest (authorizesDispatch_of_perform hkeyed hh hprepared hmoved)

/-- A run with a pause and a delayed repetition of the control before it. -/
def sampleControls : List Op :=
  [.configureWorkerBindingAt sampleBinding 1, .setWorkerControlAt sampleControl 1,
    .setWorkerControlAt { sampleControl with mode := .paused, modeSequence := 2 } 1,
    .setWorkerControlAt sampleControl 2]

private theorem sampleControls_evaluate :
    controlChanges sampleCrates sampleStore sampleControls =
        [sampleControl, { sampleControl with mode := .paused, modeSequence := 2 }] ∧
      acceptedControls sampleCrates sampleStore (sampleClaim.take 3) = [sampleControl] ∧
      (sampleStore.after sampleCrates (sampleClaim.take 3)).handoffs = [] ∧
      (perform sampleCrates (.claimNextWorkerHandoff sampleWitness 2 sampleIds)
        (sampleStore.after sampleCrates (sampleClaim.take 3))).handoffs.length = 1 := by
  decide +kernel

/-- The delayed control leaves the pause in place; the claim of an episode is admitted under the
control of its witness. -/
theorem control_register_sample :
    (sampleStore.after sampleCrates sampleControls).control =
        some { sampleControl with mode := .paused, modeSequence := 2 } ∧
      (perform sampleCrates (.claimNextWorkerHandoff sampleWitness 2 sampleIds)
        (sampleStore.after sampleCrates (sampleClaim.take 3))).handoffs.length = 1 ∧
      ∀ h' ∈ (perform sampleCrates (.claimNextWorkerHandoff sampleWitness 2 sampleIds)
          (sampleStore.after sampleCrates (sampleClaim.take 3))).handoffs,
        AdmittedByLatest [sampleControl] (sampleStore.after sampleCrates (sampleClaim.take 3))
          h' := by
  have hpaused := control_register sampleCrates sampleStore_init sampleControls
  have hclaim := control_register sampleCrates sampleStore_init (sampleClaim.take 3)
  obtain ⟨hchanges, haccepted, hhandoffs, hlength⟩ := sampleControls_evaluate
  refine ⟨?_, hlength, fun h' hh' => ?_⟩
  · rw [hpaused.1, hchanges]
    rfl
  · rw [← haccepted]
    refine (hclaim.2.2 (.claimNextWorkerHandoff sampleWitness 2 sampleIds)).1 h' hh' ?_
    intro h hh
    rw [hhandoffs] at hh
    cases hh

end AscensionWatchdog
