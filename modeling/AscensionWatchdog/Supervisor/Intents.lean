import AscensionWatchdog.Queue.ControlRegister

/-!
# Launch intents over whole runs

A launch intent outlives the process that wrote it: after a crash the next instance settles the
intents that are not cleaned before it launches anything. `LaunchStep` is all that an operation can
do to their table (`perform_launchStep`), `LaunchTable` what it keeps, and
`launch_intents_exclusive` the result for every run.
-/

namespace AscensionWatchdog

open Foundation Foundation.Json

/-- The place of a state on the way of an intent. -/
def LaunchIntentState.rank : LaunchIntentState → Nat
  | .prepared => 0
  | .proofRecorded => 1
  | .active => 2
  | .cleaned => 3

/-- The two checks of `launch_intent_from_row` that relate the proof to the state. -/
structure LaunchIntentRow.Proved (i : LaunchIntentRow) : Prop where
  recorded : i.state = .proofRecorded ∨ i.state = .active → i.ownershipProofJson.isSome = true
  prepared : i.state = .prepared → i.ownershipProofJson = none

/-- A later row of the same intent: it was bound as before, its state did not move back and a
recorded proof is still there. -/
structure LaunchIntentRow.Advances (i i' : LaunchIntentRow) : Prop where
  binding : i' = { i with state := i'.state, ownershipProofJson := i'.ownershipProofJson,
                          updatedAtMs := i'.updatedAtMs }
  rank : i.state.rank ≤ i'.state.rank
  proof : ∀ proof ∈ i.ownershipProofJson, i'.ownershipProofJson = some proof

variable {crates : Crates} {s : Store} {nowMs : Nat} {intentId : String}
  {i i' i'' : LaunchIntentRow} {t t' : List LaunchIntentRow}

theorem LaunchIntentRow.Advances.refl (i : LaunchIntentRow) : i.Advances i :=
  ⟨rfl, le_rfl, fun _ h => h⟩

theorem LaunchIntentRow.Advances.trans (h : i.Advances i') (h' : i'.Advances i'') :
    i.Advances i'' := by
  refine ⟨?_, h.rank.trans h'.rank, fun proof hproof => h'.proof proof (h.proof proof hproof)⟩
  rw [h'.binding, h.binding]

theorem LaunchIntentRow.Advances.cleaned (h : i.Advances i') (hi : i.state = .cleaned) :
    i'.state = .cleaned := by
  have hrank := h.rank
  rw [hi] at hrank
  cases hstate : i'.state <;> simp_all [LaunchIntentState.rank]

/-! ### One operation -/

/-- What an operation does to the table: it advances rows, or adds an intent with a new id for a
component whose intents are all cleaned. -/
inductive LaunchStep (t : List LaunchIntentRow) : List LaunchIntentRow → Prop where
  | advanced (f : LaunchIntentRow → LaunchIntentRow) :
      (∀ r, r.Proved → r.Advances (f r) ∧ (f r).Proved) → LaunchStep t (t.map f)
  | prepared (i : LaunchIntentRow) : i.Proved → (∀ r ∈ t, r.id ≠ i.id) →
      (∀ r ∈ t, r.componentId = i.componentId → r.state = .cleaned) → LaunchStep t (t ++ [i])

theorem LaunchStep.same (h : t' = t) : LaunchStep t t' := by
  have hmap : LaunchStep t (t.map id) := .advanced id fun r hr => ⟨.refl r, hr⟩
  rw [List.map_id] at hmap
  exact h ▸ hmap

/-- A routine that takes such a step. -/
abbrev StepsLaunch {α : Type} (s : Store) (x : Result (α × Store)) : Prop :=
  Yields (fun r => LaunchStep s.launchIntents r.2.launchIntents) x

theorem StepsLaunch.commit {α : Type} {x : Result (α × Store)} (h : StepsLaunch s x) :
    LaunchStep s.launchIntents (commit s x).2.launchIntents :=
  commit_induction (R := fun s s' => LaunchStep s.launchIntents s'.launchIntents) (.same rfl)
    fun a s' hok => h (a, s') hok

theorem launchIntents_of_standing {s' : Store} (h : s'.standing = s.standing) :
    s'.launchIntents = s.launchIntents :=
  congrArg (fun t => t.2.1) h

/-- An update of an intent in one state, with its audit record. -/
theorem stepsLaunch_update {state : LaunchIntentState} {f : LaunchIntentRow → LaunchIntentRow}
    {action : String} (hf : ∀ r, r.state = state → r.Proved → r.Advances (f r) ∧ (f r).Proved) :
    StepsLaunch s (do
      let s ← insertAuditTx (updateLaunchIntent s intentId state f) action intentId nowMs
      return ((), s)) := by
  refine .bind insertAuditTx_standing fun s' hs' => .pure ?_
  rw [launchIntents_of_standing hs']
  refine .advanced _ fun r hr => ?_
  by_cases hselected : (r.id == intentId && r.state == state) = true
  · rw [if_pos hselected]
    exact hf r (by simp_all) hr
  · rw [if_neg hselected]
    exact ⟨.refl r, hr⟩

theorem prepareLaunchIntentTx_stepsLaunch {component nonce incarnation digest : String}
    {containment : Option String} {id : UuidV4} :
    StepsLaunch s (prepareLaunchIntentTx s component nonce incarnation digest containment nowMs
      id) := by
  unfold prepareLaunchIntentTx
  iterate 9 refine .check fun _ => ?_
  split
  · exact .error
  next hnone =>
    intro r hr
    obtain ⟨hfresh, hr⟩ := ensure_bind_eq_ok.mp hr
    obtain ⟨-, -, -, -, hr⟩ := insertAuditTx_bind.mp hr
    cases pure_eq_ok.mp hr
    exact .prepared _ ⟨by simp, fun _ => rfl⟩ (by simpa using hfresh) (by simpa using hnone)

theorem recordLaunchProofTx_stepsLaunch {proof : Value} :
    StepsLaunch s (recordLaunchProofTx s intentId proof nowMs) := by
  unfold recordLaunchProofTx
  iterate 6 refine .check fun _ => ?_
  refine stepsLaunch_update fun i hstate hi => ⟨⟨rfl, ?_, ?_⟩, fun _ => rfl, fun h => by cases h⟩
  · rw [hstate]
    exact Nat.zero_le 1
  · rw [hi.prepared hstate]
    exact fun _ h => by cases h

theorem activateLaunchIntentTx_stepsLaunch :
    StepsLaunch s (activateLaunchIntentTx s intentId nowMs) := by
  unfold activateLaunchIntentTx
  iterate 5 refine .check fun _ => ?_
  refine stepsLaunch_update fun i hstate hi =>
    ⟨⟨rfl, ?_, fun _ h => h⟩, fun _ => hi.recorded (.inl hstate), fun h => by cases h⟩
  rw [hstate]
  exact Nat.le_succ 1

theorem cleanLaunchIntentTx_stepsLaunch :
    StepsLaunch s (cleanLaunchIntentTx s intentId nowMs) := by
  unfold cleanLaunchIntentTx
  refine .check fun _ => .check fun intent => ?_
  split
  · exact .pure (.same rfl)
  · refine .check fun _ => stepsLaunch_update fun i _ _ =>
      ⟨⟨rfl, ?_, fun _ h => h⟩, by simp [LaunchIntentRow.advance], fun h => by cases h⟩
    change i.state.rank ≤ 3
    cases i.state <;> decide

theorem setWorkerControlTx_stepsLaunch {control : WorkerControlWitness} :
    StepsLaunch s (setWorkerControlTx s control nowMs) := by
  have hupsert : StepsLaunch s (upsertWorkerControlTx s control nowMs) := by
    unfold upsertWorkerControlTx
    refine .check fun _ => .check fun _ => .bind insertAuditTx_standing fun s' hs' => ?_
    have hsame := launchIntents_of_standing hs'
    exact .pure (.same hsame)
  unfold setWorkerControlTx
  iterate 4 refine .check fun _ => ?_
  split
  · exact hupsert
  · iterate 3 refine .check fun _ => ?_
    split
    · exact .check fun _ => .pure (.same rfl)
    · exact hupsert

theorem restoreTx_launchIntents {config : RestoreConfig} {epoch : UuidV4} {s' : Store}
    (h : restoreTx s config nowMs epoch = .ok s') : s'.launchIntents = s.launchIntents := by
  obtain ⟨⟨deployment, generation⟩, -, h⟩ := bind_eq_ok.mp h
  obtain ⟨next, -, h⟩ := bind_eq_ok.mp h
  obtain ⟨s₁, hs₁, h⟩ := bind_eq_ok.mp h
  obtain ⟨metadata, rfl, -⟩ := rekeyMetadataTx_metadata hs₁
  obtain ⟨now, -, h⟩ := bind_eq_ok.mp h
  obtain ⟨-, -, -, -, h⟩ := insertAuditTx_bind.mp h
  cases pure_eq_ok.mp h
  rfl

/-- **What an operation of the store does to the intents.** -/
theorem perform_launchStep (crates : Crates) (op : Op) (s : Store) :
    LaunchStep s.launchIntents (perform crates op s).launchIntents := by
  cases op with
  | prepareLaunchIntent =>
    rw [perform, Store.prepareLaunchIntent, commitThen_snd]
    exact prepareLaunchIntentTx_stepsLaunch.commit
  | recordLaunchProof =>
    rw [perform, Store.recordLaunchProof, commitThen_snd]
    exact recordLaunchProofTx_stepsLaunch.commit
  | activateLaunchIntent =>
    rw [perform, Store.activateLaunchIntent, commitThen_snd]
    exact activateLaunchIntentTx_stepsLaunch.commit
  | cleanLaunchIntent =>
    rw [perform, Store.cleanLaunchIntent, commitThen_snd]
    exact cleanLaunchIntentTx_stepsLaunch.commit
  | setWorkerControlAt => exact setWorkerControlTx_stepsLaunch.commit
  | restore =>
    refine StepsLaunch.commit (.bind (fun s' h => restoreTx_launchIntents h) fun s' h => ?_)
    exact .pure (.same h)
  | upsertComponent | persistComponentIdentity | clearComponentIdentity =>
    refine .same (commit_leaves (f := Store.launchIntents) ?_)
    first
      | unfold upsertComponentTx
      | unfold persistComponentIdentityTx
      | unfold clearComponentIdentityTx
    repeat refine .check fun _ => ?_
    exact .pure rfl
  | _ => exact .same (launchIntents_of_standing (by simp [perform]))

/-! ### Runs -/

/-- Two rows have different ids and, if they are of one component, one of them is cleaned. -/
def LaunchIntentRow.Apart (i i' : LaunchIntentRow) : Prop :=
  i.id ≠ i'.id ∧ (i.componentId = i'.componentId → i.state = .cleaned ∨ i'.state = .cleaned)

/-- The invariant of the table. -/
structure LaunchTable (t : List LaunchIntentRow) : Prop where
  apart : t.Pairwise LaunchIntentRow.Apart
  proved : ∀ i ∈ t, i.Proved

theorem LaunchStep.table (h : LaunchStep t t') (ht : LaunchTable t) :
    LaunchTable t' ∧ ∀ i ∈ t, ∃ i' ∈ t', i.Advances i' := by
  cases h with
  | advanced f hf =>
    replace hf := fun r hr => hf r (ht.proved r hr)
    refine ⟨⟨?_, ?_⟩, fun i hi => ⟨f i, List.mem_map_of_mem hi, (hf i hi).1⟩⟩
    · refine List.pairwise_map.mpr (ht.apart.imp_of_mem fun {i i'} hi hi' happart => ?_)
      obtain ⟨hadvances, -⟩ := hf i hi
      obtain ⟨hadvances', -⟩ := hf i' hi'
      rw [LaunchIntentRow.Apart, hadvances.binding, hadvances'.binding]
      exact ⟨happart.1, fun heq => (happart.2 heq).imp hadvances.cleaned hadvances'.cleaned⟩
    · exact List.forall_mem_map.mpr fun i hi => (hf i hi).2
  | prepared i hi hid hcomponent =>
    refine ⟨⟨?_, ?_⟩, fun i hi => ⟨i, List.mem_append_left _ hi, .refl i⟩⟩
    · refine List.pairwise_append.mpr ⟨ht.apart, List.pairwise_singleton _ _, fun r hr i' hi' => ?_⟩
      rw [List.mem_singleton.mp hi']
      exact ⟨hid r hr, fun heq => .inl (hcomponent r hr heq)⟩
    · rw [List.forall_mem_append, List.forall_mem_singleton]
      exact ⟨ht.proved, hi⟩

/-- A run keeps the table and advances its intents. -/
theorem after_launchTable (hs : LaunchTable s.launchIntents) (ops : List Op) :
    LaunchTable (s.after crates ops).launchIntents ∧
      ∀ i ∈ s.launchIntents, ∃ i' ∈ (s.after crates ops).launchIntents, i.Advances i' := by
  induction ops generalizing s with
  | nil => exact ⟨hs, fun i hi => ⟨i, hi, .refl i⟩⟩
  | cons op ops ih =>
    obtain ⟨hnext, hstep⟩ := (perform_launchStep crates op s).table hs
    obtain ⟨htable, hlater⟩ := ih hnext
    refine ⟨htable, fun i hi => ?_⟩
    obtain ⟨i', hi', hadvances⟩ := hstep i hi
    obtain ⟨i'', hi'', hadvances'⟩ := hlater i' hi'
    exact ⟨i'', hi'', hadvances.trans hadvances'⟩

/-- **In every run a component has at most one launch intent that is not cleaned, a proof is there
once the state requires it; and whatever is done later, every intent is still in the table, under
its id, bound as it was, with its recorded proof and in no earlier state.** -/
theorem launch_intents_exclusive (crates : Crates) {config : StoreConfig} {now : Nat}
    {epoch : UuidV4} {s₀ : Store} (hinit : Store.initialize config now epoch = .ok s₀)
    (ops later : List Op) :
    LaunchTable (s₀.after crates ops).launchIntents ∧
      ∀ i ∈ (s₀.after crates ops).launchIntents,
        ∃ i' ∈ ((s₀.after crates ops).after crates later).launchIntents, i.Advances i' := by
  have hfresh : LaunchTable s₀.launchIntents := by
    rw [launchIntents_of_standing (insertAuditTx_standing s₀ hinit)]
    exact ⟨.nil, fun _ h => by cases h⟩
  have htable : LaunchTable (s₀.after crates ops).launchIntents := (after_launchTable hfresh ops).1
  exact ⟨htable, (after_launchTable htable later).2⟩

/-- A launch that is cleaned, and the next one of the component. -/
def sampleLaunches : List Op :=
  [.prepareLaunchIntent "gateway" "first" "boot" workerHandoffPayloadDigest none 1 (sampleUuid 1),
    .cleanLaunchIntent (sampleUuid 1).text 2,
    .prepareLaunchIntent "gateway" "second" "boot" workerHandoffPayloadDigest none 3 (sampleUuid 2)]

theorem launch_intents_exclusive_sample :
    ((sampleStore.after sampleCrates sampleLaunches).launchIntents.map LaunchIntentRow.state =
        [.cleaned, .prepared] ∧
      LaunchTable (sampleStore.after sampleCrates sampleLaunches).launchIntents) :=
  ⟨by decide +kernel, (launch_intents_exclusive sampleCrates sampleStore_init sampleLaunches []).1⟩


end AscensionWatchdog
