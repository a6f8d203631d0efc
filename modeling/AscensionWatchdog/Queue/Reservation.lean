import AscensionWatchdog.Queue.Refinement

/-!
# One unresolved attempt in the deployment

A `running` attempt may still have effects, and an `unknown` one may have had some, so either
reserves the whole deployment: `attempts_exclusive` says that no run of the store has two of
them, in whatever order its operations come and whichever of them fail.

Both claims insert an attempt only into a table without unresolved attempts
(`QueueStep.job`, `hexclusive`), and no write of any job machine turns a resolved attempt into
an unresolved one (`Writes.unresolved_of_attempt`).

The file also has the two rules by which the later files lift facts about one transaction to
runs: `after_invariant` for a property of the whole queue and `after_view_invariant` for a
property of the rows of one job.
-/

namespace AscensionWatchdog

open Foundation Foundation.Json

variable {crates : Crates} {s s' : Store}

/-! ### From transactions to runs -/

theorem initialize_queue {config : StoreConfig} {now : Nat} {epoch : UuidV4}
    (h : Store.initialize config now epoch = .ok s) :
    s.queue = ⟨[], [], [], config.maxPayloadBytes⟩ := by
  obtain ⟨-, -, -, -, rfl⟩ := insertAuditTx_eq_ok.mp h
  rfl

theorem keyed_empty (bound : Nat) : Queue.Keyed ⟨[], [], [], bound⟩ :=
  ⟨List.nodup_nil, List.nodup_nil, List.nodup_nil, by simp, by simp⟩

theorem initialize_keyed {config : StoreConfig} {now : Nat} {epoch : UuidV4}
    (h : Store.initialize config now epoch = .ok s) : s.queue.Keyed := by
  rw [initialize_queue h]
  exact keyed_empty _

/-- The last call of a run. -/
theorem after_concat (ops : List Op) (op : Op) :
    s.after crates (ops ++ [op]) = perform crates op (s.after crates ops) := by
  simp only [Store.after, run_append, run_cons, run_nil]

/-- A property that every transaction of an operation keeps is kept by the operation. -/
theorem perform_invariant {op : Op} {P : Store → Prop}
    (hstep : ∀ s s', s.queue.Keyed → P s → QueueStep crates op s s' → P s')
    (hs : s.queue.Keyed) (hinv : P s) :
    (perform crates op s).queue.Keyed ∧ P (perform crates op s) := by
  have hsteps : Relation.ReflTransGen (QueueStep crates op) s (perform crates op s) :=
    perform_steps op hs
  generalize perform crates op s = s' at hsteps
  induction hsteps with
  | refl => exact ⟨hs, hinv⟩
  | tail _ h ih => exact ⟨h.keyed ih.1, hstep _ _ ih.1 ih.2 h⟩

theorem perform_keyed (op : Op) (hs : s.queue.Keyed) : (perform crates op s).queue.Keyed :=
  (perform_invariant (P := fun _ => True) (fun _ _ _ _ _ => trivial) hs trivial).1

theorem after_keyed (hs : s.queue.Keyed) (ops : List Op) : (s.after crates ops).queue.Keyed :=
  run_invariant (P := fun s : Store => s.queue.Keyed) (fun op _ => perform_keyed op) hs ops

/-- A property that every transaction keeps holds after every run. -/
theorem after_invariant {P : Store → Prop}
    (hstep : ∀ op s s', s.queue.Keyed → P s → QueueStep crates op s s' → P s')
    (hs : s.queue.Keyed) (hinv : P s) (ops : List Op) : P (s.after crates ops) :=
  (run_invariant (P := fun s : Store => s.queue.Keyed ∧ P s)
    (fun op _ h => perform_invariant (hstep op) h.1 h.2) ⟨hs, hinv⟩ ops).2

/-- A property of the rows of a job that every write of the job machine keeps is kept by every
operation. -/
theorem perform_view_invariant {op : Op} {i : String} {P : JobView → Prop}
    (hstep : ∀ bound v w, v.Keyed i → P v → Writes crates bound op v w → P (v.apply w))
    (hs : s.queue.Keyed) (hinv : P (s.queue.view i)) :
    P ((perform crates op s).queue.view i) := by
  refine (perform_invariant (P := fun s => P (s.queue.view i)) ?_ hs hinv).2
  intro s s' hs hP h
  rcases h.view i with heq | ⟨w, hw, heq⟩
  · rwa [heq]
  · rw [heq]
    exact hstep _ _ _ (hs.view i) hP hw

/-- The same for runs. -/
theorem after_view_invariant {i : String} {P : JobView → Prop}
    (hstep : ∀ bound op v w, v.Keyed i → P v → Writes crates bound op v w → P (v.apply w))
    (hs : s.queue.Keyed) (hinv : P (s.queue.view i)) (ops : List Op) :
    P ((s.after crates ops).queue.view i) :=
  (run_invariant (P := fun s : Store => s.queue.Keyed ∧ P (s.queue.view i))
    (fun op _ h => ⟨perform_keyed op h.1,
      perform_view_invariant (fun bound => hstep bound op) h.1 h.2⟩) ⟨hs, hinv⟩ ops).2

/-! ### Unresolved attempts -/

/-- A rewritten attempt that is unresolved was unresolved before. -/
theorem Writes.unresolved_of_attempt {bound : Nat} {op : Op} {v : JobView} {w : JobWrite}
    (hw : Writes crates bound op v w) (a : AttemptRow) (hsel : w.attemptSel a = true)
    (h : (w.attempt a).status.unresolved = true) : a.status.unresolved = true := by
  have hrunning : a.status = .running → a.status.unresolved = true := fun ha => by rw [ha]; rfl
  cases hw with
  | submit | claim | claimHandoff | dispatch | admission | acknowledge | retry => exact h
  | complete | fail => cases h
  | interrupt => exact hrunning (by simpa using (Bool.and_eq_true_iff.mp hsel).2)
  | @terminate _ _ receipt =>
    have hstatus : receipt.status.attemptStatus.unresolved = true := h
    cases hreceipt : receipt.status <;> rw [hreceipt] at hstatus <;> cases hstatus
  | quarantine =>
    simp only [quarantineWrite, Bool.and_eq_true, beq_iff_eq] at hsel
    exact hrunning hsel.2.2
  | restore => exact hrunning (by simpa [restoreWrite] using hsel)

/-- The number of attempts that reserve the deployment. -/
def Store.unresolvedAttempts (s : Store) : Nat :=
  s.attempts.countP fun a => a.status == .running || a.status == .unknown

private theorem unresolved_iff (status : AttemptStatus) :
    (status == .running || status == .unknown) = status.unresolved := by
  cases status <;> rfl

theorem QueueStep.unresolvedAttempts_le {op : Op} (h : QueueStep crates op s s')
    (hs : s.unresolvedAttempts ≤ 1) : s'.unresolvedAttempts ≤ 1 := by
  unfold Store.unresolvedAttempts at hs ⊢
  simp only [unresolved_iff] at hs ⊢
  have hrewrite : ∀ {bound v w}, Writes crates bound op v w →
      (updateWhere w.attemptSel w.attempt s.attempts).countP (·.status.unresolved) ≤
        s.attempts.countP (·.status.unresolved) :=
    fun hw => countP_updateWhere_le hw.unresolved_of_attempt s.attempts
  cases h with
  | same hqueue =>
    have hattempts : s'.attempts = s.attempts := congrArg Queue.attempts hqueue
    rwa [hattempts]
  | job i w hw _ _ hexclusive hqueue =>
    have hattempts : s'.attempts = _ := congrArg Queue.attempts hqueue
    rw [hattempts]
    simp only [Queue.apply, List.countP_append]
    have hold := hrewrite hw
    cases hnew : w.newAttempt with
    | none => exact hold.trans hs
    | some a =>
      -- a claim has found no unresolved attempt, so the one it inserts is alone
      have hnone : s.attempts.countP (·.status.unresolved) = 0 := by
        refine List.countP_eq_zero.mpr fun a ha => ?_
        rw [hexclusive (by rw [hnew]; rfl) a ha]
        exact Bool.false_ne_true
      have hzero : (updateWhere w.attemptSel w.attempt s.attempts).countP
          (·.status.unresolved) = 0 := by omega
      have hone : [a].countP (·.status.unresolved) ≤ 1 := List.countP_le_length
      change (updateWhere w.attemptSel w.attempt s.attempts).countP _ + [a].countP _ ≤ 1
      omega
  | restore config now epoch hop hqueue =>
    have hattempts : s'.attempts = _ := congrArg Queue.attempts hqueue
    have hw : Writes crates 0 op ⟨none, [], []⟩ (restoreWrite now) := hop ▸ .restore
    rw [hattempts]
    simp only [Queue.apply, restoreWrite, Option.toList_none, List.append_nil]
    exact (hrewrite hw).trans hs

/-- **One unresolved attempt.** After every run from a fresh store at most one attempt is
`running` or `unknown`. -/
theorem attempts_exclusive {config : StoreConfig} {now : Nat} {epoch : UuidV4} {s₀ : Store}
    (hinit : Store.initialize config now epoch = .ok s₀) (ops : List Op) :
    (s₀.after crates ops).unresolvedAttempts ≤ 1 := by
  refine after_invariant (fun op s s' _ hs h => h.unresolvedAttempts_le hs)
    (initialize_keyed hinit) ?_ ops
  have hattempts : s₀.attempts = [] := congrArg Queue.attempts (initialize_queue hinit)
  unfold Store.unresolvedAttempts
  rw [hattempts]
  exact Nat.zero_le 1

/-- A claimed job holds the one reservation. -/
theorem attempts_exclusive_claimed :
    (sampleStore.after sampleCrates (sampleJob.take 2)).unresolvedAttempts = 1 ∧
      (sampleStore.after sampleCrates (sampleJob.take 2)).unresolvedAttempts ≤ 1 :=
  ⟨by decide +kernel, attempts_exclusive sampleStore_init (sampleJob.take 2)⟩

end AscensionWatchdog
