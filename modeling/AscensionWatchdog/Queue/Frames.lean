import AscensionWatchdog.Queue.View

/-!
# What most operations leave alone

Most operations of the store are **quiet**: they touch neither the operator ledger nor the
desired mode nor the release selector, and what they append to the audit table is an ordinary
record, which never uses the slot reserved for an emergency stop. Operations on bindings, launches
and components are quiet and also leave the queue alone (`Outside`). Those on the release selector
leave everything else alone (`Reselects`).
-/

namespace AscensionWatchdog

open Foundation Foundation.Json

/-- The keys of the release selector. -/
def selectorKeys : List MetadataKey :=
  .releaseSelectionState :: (selectedKeys ++ pendingKeys)

/-- The ledger and the mode are unchanged, and the audit table grew within the bound of ordinary
and critical records. -/
structure Steady (s s' : Store) : Prop where
  ledger : s'.operatorCommands = s.operatorCommands
  mode : s'.metadata .desiredMode = s.metadata .desiredMode
  updatedAt : (s.metadata .updatedAtMs).isSome → (s'.metadata .updatedAtMs).isSome
  audit : s'.audit.length ≤ max s.audit.length maxAuditRecords

/-- The release selector is unchanged as well. -/
structure Quiet (s s' : Store) : Prop extends Steady s s' where
  selector : ∀ key ∈ selectorKeys, s'.metadata key = s.metadata key

/-- A quiet transaction that leaves the queue alone. -/
structure Outside (s s' : Store) : Prop extends Quiet s s' where
  queue : s'.queue = s.queue

/-- A transaction on the release selector. -/
structure Reselects (s s' : Store) : Prop extends Steady s s' where
  queue : s'.queue = s.queue

variable {nowMs : Nat}

section

variable {s s' s'' : Store}

theorem Steady.refl (s : Store) : Steady s s :=
  ⟨rfl, rfl, id, le_max_left _ _⟩

theorem Steady.trans (h : Steady s s') (h' : Steady s' s'') : Steady s s'' where
  ledger := h'.ledger.trans h.ledger
  mode := h'.mode.trans h.mode
  updatedAt hs := h'.updatedAt (h.updatedAt hs)
  audit := by
    have h₁ := h.audit
    have h₂ := h'.audit
    omega

theorem Quiet.refl (s : Store) : Quiet s s :=
  ⟨.refl s, fun _ _ => rfl⟩

theorem Quiet.trans (h : Quiet s s') (h' : Quiet s' s'') : Quiet s s'' :=
  ⟨h.toSteady.trans h'.toSteady, fun key hkey => (h'.selector key hkey).trans (h.selector key hkey)⟩

/-- Every action but the accepted stop is bounded by the ordinary size of the audit table. -/
theorem auditLimit_le {action : String} (h : isEmergencyStopAuditAction action = false) :
    auditLimit action ≤ maxAuditRecords := by
  unfold auditLimit
  rw [if_neg (by simp [h])]
  split
  · exact le_refl _
  · exact Nat.sub_le _ _

/-- One ordinary audit record, and no change of the ledger or the metadata. -/
theorem Quiet.logged {action detail : String} {now : Nat}
    (hlimit : s.audit.length < auditLimit action)
    (haction : isEmergencyStopAuditAction action = false)
    (haudit : s'.audit = s.audit ++ [⟨action, detail, now⟩])
    (hledger : s'.operatorCommands = s.operatorCommands)
    (hmetadata : s'.metadata = s.metadata) : Quiet s s' where
  ledger := hledger
  mode := by rw [hmetadata]
  updatedAt h := by rwa [hmetadata]
  selector _ _ := by rw [hmetadata]
  audit := by
    have hbound := auditLimit_le haction
    rw [haudit, List.length_append, List.length_singleton]
    omega

theorem Reselects.refl (s : Store) : Reselects s s :=
  ⟨.refl s, rfl⟩

theorem Reselects.trans (h : Reselects s s') (h' : Reselects s' s'') : Reselects s s'' :=
  ⟨h.toSteady.trans h'.toSteady, h'.queue.trans h.queue⟩

theorem Outside.reselects (h : Outside s s') : Reselects s s' :=
  ⟨h.toSteady, h.queue⟩

theorem Outside.refl (s : Store) : Outside s s :=
  ⟨.refl s, rfl⟩

theorem Outside.trans (h : Outside s s') (h' : Outside s' s'') : Outside s s'' :=
  ⟨h.toQuiet.trans h'.toQuiet, h'.queue.trans h.queue⟩

/-- An ordinary audit record is outside. -/
theorem insertAuditTx_outside {action detail : String}
    (haction : isEmergencyStopAuditAction action = false)
    (h : insertAuditTx s action detail nowMs = .ok s') : Outside s s' := by
  obtain ⟨-, -, hlimit, -, rfl⟩ := insertAuditTx_eq_ok.mp h
  exact ⟨.logged hlimit haction rfl rfl rfl, rfl⟩

/-- A transaction that ends with its audit record. -/
theorem Outside.audited {α : Type} {a : Store → α} {b : α} {action detail : String}
    (h : (insertAuditTx s' action detail nowMs >>= fun s₁ => pure (a s₁, s₁)) = .ok (b, s''))
    (haction : isEmergencyStopAuditAction action = false) (h' : Outside s s') :
    Outside s s'' := by
  obtain ⟨s₁, hs₁, h⟩ := bind_eq_ok.mp h
  cases pure_eq_ok.mp h
  exact h'.trans (insertAuditTx_outside haction hs₁)

variable {key : MetadataKey}

/-- A metadata key other than the mode may be written. -/
theorem upsertMetadataTx_reselects {value : String}
    (hkey : key ≠ .desiredMode) : Reselects s (upsertMetadataTx s key value) where
  ledger := rfl
  mode := Function.update_of_ne (Ne.symm hkey) _ _
  updatedAt h := by
    by_cases hupdated : MetadataKey.updatedAtMs = key
    · subst hupdated
      simp [upsertMetadataTx]
    · rw [upsertMetadataTx]
      dsimp only
      rwa [Function.update_of_ne hupdated]
  audit := le_max_left _ _
  queue := rfl

theorem upsertMetadataTx_outside {value : String}
    (hkey : key ∉ .desiredMode :: selectorKeys) : Outside s (upsertMetadataTx s key value) := by
  obtain ⟨hmode, hselector⟩ := not_or.mp (mt List.mem_cons.mpr hkey)
  refine ⟨⟨(upsertMetadataTx_reselects hmode).toSteady, fun k hk => ?_⟩, rfl⟩
  have hne : k ≠ key := fun h => hselector (h ▸ hk)
  exact Function.update_of_ne hne _ _

theorem updateMetadataTx_outside {value : String}
    (hkey : key ∉ .desiredMode :: selectorKeys) (h : updateMetadataTx s key value = .ok s') :
    Outside s s' := by
  obtain ⟨-, rfl⟩ := updateMetadataTx_eq_ok.mp h
  exact upsertMetadataTx_outside hkey

/-- Metadata keys other than the mode and the update time may be deleted. -/
theorem deleteMetadataTx_reselects {keys : List MetadataKey} (hmode : .desiredMode ∉ keys)
    (hupdated : .updatedAtMs ∉ keys) : Reselects s (deleteMetadataTx s keys) where
  ledger := rfl
  mode := if_neg hmode
  updatedAt h := by
    rw [deleteMetadataTx]
    dsimp only
    rwa [if_neg hupdated]
  audit := le_max_left _ _
  queue := rfl

/-- Tables outside of queue, ledger, metadata and audit may change. -/
theorem Outside.of_eq (hqueue : s'.queue = s.queue)
    (hledger : s'.operatorCommands = s.operatorCommands) (hmetadata : s'.metadata = s.metadata)
    (haudit : s'.audit = s.audit) : Outside s s' :=
  ⟨⟨⟨hledger, by rw [hmetadata], fun h => by rwa [hmetadata],
    by rw [haudit]; exact le_max_left _ _⟩, fun _ _ => by rw [hmetadata]⟩, hqueue⟩

end

/-! ### Bindings, control and progress -/

section

variable {s s' : Store}

theorem configureWorkerBindingTx_outside {binding answer : WorkerBinding}
    (h : configureWorkerBindingTx s binding nowMs = .ok (answer, s')) : Outside s s' := by
  replace h := bind_passed h
  obtain ⟨existing, -, h⟩ := bind_eq_ok.mp h
  split at h
  · replace h := bind_passed h
    cases pure_eq_ok.mp h
    exact .refl s
  · obtain ⟨now, -, h⟩ := bind_eq_ok.mp h
    exact .audited h (by decide) (.of_eq rfl rfl rfl rfl)

private theorem upsertWorkerControlTx_outside {control answer : WorkerControlWitness}
    (h : upsertWorkerControlTx s control nowMs = .ok (answer, s')) :
    Outside s s' := by
  obtain ⟨sequence, -, h⟩ := bind_eq_ok.mp h
  obtain ⟨now, -, h⟩ := bind_eq_ok.mp h
  exact .audited h (by decide) (.of_eq rfl rfl rfl rfl)

theorem setWorkerControlTx_outside {control answer : WorkerControlWitness}
    (h : setWorkerControlTx s control nowMs = .ok (answer, s')) : Outside s s' := by
  replace h := bind_passed h
  obtain ⟨binding?, -, h⟩ := bind_eq_ok.mp h
  obtain ⟨binding, -, h⟩ := bind_eq_ok.mp h
  replace h := bind_passed h
  split at h
  · exact upsertWorkerControlTx_outside h
  · obtain ⟨existing, -, h⟩ := bind_eq_ok.mp h
    replace h := bind_passed h
    replace h := bind_passed h
    split at h
    · replace h := bind_passed h
      cases pure_eq_ok.mp h
      exact .refl s
    · exact upsertWorkerControlTx_outside h

theorem establishNewGenerationTx_outside {generation : Int}
    (h : establishNewGenerationTx s nowMs = .ok (generation, s')) : Outside s s' := by
  obtain ⟨current, -, h⟩ := bind_eq_ok.mp h
  obtain ⟨next, -, h⟩ := bind_eq_ok.mp h
  obtain ⟨s₁, hs₁, h⟩ := bind_eq_ok.mp h
  obtain ⟨s₂, hs₂, h⟩ := bind_eq_ok.mp h
  obtain ⟨s₃, hs₃, h⟩ := bind_eq_ok.mp h
  cases pure_eq_ok.mp h
  exact ((updateMetadataTx_outside (by decide) hs₁).trans
    (updateMetadataTx_outside (by decide) hs₂)).trans (insertAuditTx_outside (by decide) hs₃)

theorem recordReconciliationProgressTx_outside
    (h : recordReconciliationProgressTx s nowMs = .ok s') : Outside s s' := by
  obtain ⟨timestamp, -, h⟩ := bind_eq_ok.mp h
  replace h := bind_passed h
  replace h := bind_passed h
  obtain ⟨previous, -, h⟩ := bind_eq_ok.mp h
  replace h := bind_passed h
  cases pure_eq_ok.mp h
  exact (upsertMetadataTx_outside (by decide)).trans (upsertMetadataTx_outside (by decide))

/-! ### The release selector -/

private theorem writeIdentity_reselects {idKey digestKey : MetadataKey}
    {identity : Option ReleaseIdentity} (hid : idKey ≠ .desiredMode ∧ idKey ≠ .updatedAtMs)
    (hdigest : digestKey ≠ .desiredMode ∧ digestKey ≠ .updatedAtMs) :
    Reselects s (writeIdentity s idKey digestKey identity) := by
  cases identity with
  | none =>
    exact deleteMetadataTx_reselects (by simp [hid.1.symm, hdigest.1.symm])
      (by simp [hid.2.symm, hdigest.2.symm])
  | some identity =>
    exact (upsertMetadataTx_reselects hid.1).trans (upsertMetadataTx_reselects hdigest.1)

theorem writePending_reselects (pending : PendingReleaseActivation) :
    Reselects s (writePending s pending) := by
  unfold writePending
  refine .trans ?_ (writeIdentity_reselects (by decide) (by decide))
  iterate 5 refine .trans ?_ (upsertMetadataTx_reselects (by decide))
  exact upsertMetadataTx_reselects (by decide)

/-- Making a prepared release the active one. -/
theorem activate_reselects (pending : PendingReleaseActivation) :
    Reselects s (clearPending (writeActive s pending.release pending.previous)) := by
  unfold clearPending writeActive
  refine .trans ?_ (deleteMetadataTx_reselects (by decide) (by decide))
  refine .trans ?_ (writeIdentity_reselects (by decide) (by decide))
  refine .trans ?_ (upsertMetadataTx_reselects (by decide))
  refine .trans ?_ (upsertMetadataTx_reselects (by decide))
  exact upsertMetadataTx_reselects (by decide)

variable {u : Unit}

theorem prepareReleaseActivationTx_reselects {crates : Crates}
    {requestId idempotencyKey releaseId releaseDigest : String} {rollback : Bool}
    (h : prepareReleaseActivationTx crates s requestId idempotencyKey releaseId releaseDigest
      rollback nowMs = .ok (u, s')) : Reselects s s' := by
  iterate 4 replace h := bind_passed h
  obtain ⟨desired, -, h⟩ := bind_eq_ok.mp h
  replace h := bind_passed h
  obtain ⟨current, -, h⟩ := bind_eq_ok.mp h
  split at h
  · replace h := bind_passed h
    cases pure_eq_ok.mp h
    exact .refl s
  · obtain ⟨existing?, -, h⟩ := bind_eq_ok.mp h
    split at h
    · cases h
    · replace h := bind_passed h
      replace h := bind_passed h
      obtain ⟨s₁, hs₁, h⟩ := bind_eq_ok.mp h
      cases pure_eq_ok.mp h
      have haudit := insertAuditTx_outside (by decide) hs₁
      exact (writePending_reselects _).trans haudit.reselects

/-! ### Launches -/

theorem prepareLaunchIntentTx_outside
    {componentId launchNonce expectedIncarnation expectedLaunchSpecDigest : String}
    {plannedContainmentId : Option String} {id : UuidV4}
    (h : prepareLaunchIntentTx s componentId launchNonce expectedIncarnation
      expectedLaunchSpecDigest plannedContainmentId nowMs id = .ok (u, s')) : Outside s s' := by
  iterate 5 replace h := bind_passed h
  obtain ⟨deployment, -, h⟩ := bind_eq_ok.mp h
  replace h := bind_passed h
  obtain ⟨now, -, h⟩ := bind_eq_ok.mp h
  replace h := bind_passed h
  split at h
  · cases h
  · replace h := bind_passed h
    exact .audited h (by decide) (.of_eq rfl rfl rfl rfl)

variable {intentId : String}

theorem recordLaunchProofTx_outside {proof : Value}
    (h : recordLaunchProofTx s intentId proof nowMs = .ok (u, s')) : Outside s s' := by
  iterate 3 replace h := bind_passed h
  obtain ⟨intent, -, h⟩ := bind_eq_ok.mp h
  replace h := bind_passed h
  obtain ⟨now, -, h⟩ := bind_eq_ok.mp h
  exact .audited h (by decide) (.of_eq rfl rfl rfl rfl)

theorem activateLaunchIntentTx_outside
    (h : activateLaunchIntentTx s intentId nowMs = .ok (u, s')) : Outside s s' := by
  replace h := bind_passed h
  replace h := bind_passed h
  obtain ⟨intent, -, h⟩ := bind_eq_ok.mp h
  replace h := bind_passed h
  obtain ⟨now, -, h⟩ := bind_eq_ok.mp h
  exact .audited h (by decide) (.of_eq rfl rfl rfl rfl)

theorem cleanLaunchIntentTx_outside
    (h : cleanLaunchIntentTx s intentId nowMs = .ok (u, s')) : Outside s s' := by
  replace h := bind_passed h
  obtain ⟨intent, -, h⟩ := bind_eq_ok.mp h
  split at h
  · cases pure_eq_ok.mp h
    exact .refl s
  · obtain ⟨now, -, h⟩ := bind_eq_ok.mp h
    exact .audited h (by decide) (.of_eq rfl rfl rfl rfl)

theorem bindWorkerBootstrapTx_outside {intentId componentId frameSha256 : String}
    {boot nonce : UuidV4} {row : BootstrapBindingRow}
    (h : bindWorkerBootstrapTx s intentId boot nonce componentId frameSha256 nowMs =
      .ok (row, s')) : Outside s s' := by
  replace h := bind_passed h
  obtain ⟨⟨bindings, added⟩, -, h⟩ := bind_eq_ok.mp h
  dsimp only at h
  split at h
  · exact .audited h (by decide) (.of_eq rfl rfl rfl rfl)
  · cases pure_eq_ok.mp h
    exact .of_eq rfl rfl rfl rfl

theorem bindGatewayHealthTx_outside {intentId frameSha256 : String} {boot nonce : UuidV4}
    {row : BootstrapBindingRow}
    (h : bindGatewayHealthTx s intentId boot nonce frameSha256 nowMs = .ok (row, s')) :
    Outside s s' := by
  replace h := bind_passed h
  obtain ⟨⟨bindings, added⟩, -, h⟩ := bind_eq_ok.mp h
  dsimp only at h
  split at h
  · exact .audited h (by decide) (.of_eq rfl rfl rfl rfl)
  · cases pure_eq_ok.mp h
    exact .of_eq rfl rfl rfl rfl

/-! ### Components and restarts -/

theorem upsertComponentTx_outside {record : ComponentRecord}
    (h : upsertComponentTx s record nowMs = .ok (u, s')) : Outside s s' := by
  iterate 3 replace h := bind_passed h
  obtain ⟨now, -, h⟩ := bind_eq_ok.mp h
  cases pure_eq_ok.mp h
  exact .of_eq rfl rfl rfl rfl

variable {componentId : String}

theorem persistComponentIdentityTx_outside {identity : ProcessIdentity}
    (h : persistComponentIdentityTx s componentId identity nowMs = .ok (u, s')) :
    Outside s s' := by
  replace h := bind_passed h
  replace h := bind_passed h
  obtain ⟨now, -, h⟩ := bind_eq_ok.mp h
  replace h := bind_passed h
  cases pure_eq_ok.mp h
  exact .of_eq rfl rfl rfl rfl

theorem clearComponentIdentityTx_outside
    (h : clearComponentIdentityTx s componentId nowMs = .ok (u, s')) : Outside s s' := by
  obtain ⟨now, -, h⟩ := bind_eq_ok.mp h
  cases pure_eq_ok.mp h
  exact .of_eq rfl rfl rfl rfl

theorem recordRestartTx_outside {nowMs elapsedMs windowMs count : Nat}
    (h : recordRestartTx s componentId nowMs elapsedMs windowMs = .ok (count, s')) :
    Outside s s' := by
  replace h := bind_passed h
  replace h := bind_passed h
  obtain ⟨now, -, h⟩ := bind_eq_ok.mp h
  obtain ⟨elapsed, -, h⟩ := bind_eq_ok.mp h
  exact .audited h (by decide) (.of_eq rfl rfl rfl rfl)

end

end AscensionWatchdog
