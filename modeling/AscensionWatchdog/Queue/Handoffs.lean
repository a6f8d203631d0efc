import AscensionWatchdog.Queue.Coherence

/-!
# One handoff for a job, one dispatch for a handoff

`HandoffRow.Step` is the state machine of a single handoff row: what one transaction may do to
it. Rows are never deleted, so in a longer run every handoff is still there, further along
(`perform_handoff`).

Nothing in the schema stops a second handoff for the same job. That there is none is a property
of runs: a handoff claim takes a queued job while no handoff is unresolved, a job whose handoff
has ended is `completed`, `failed` or `quarantined`, and the only way back to `queued` from there
is an operator retry, which refuses jobs with handoffs (`JobView.SingleHandoff`).

`episodes_dispatched_once` puts the two together: the dispatch marker spends the `prepared` state
of the only handoff that the job will ever have.
-/

namespace AscensionWatchdog

open Foundation Foundation.Json

variable {crates : Crates}

/-! ### The state machine of a handoff row -/

/-- What one transaction may do to a handoff. -/
inductive HandoffRow.Step (crates : Crates) : HandoffRow → HandoffRow → Prop where
  | same (h : HandoffRow) : Step crates h h
  | dispatch {h : HandoffRow} (now : Nat) (hstate : h.state = .prepared) :
      Step crates h (h.markDispatched now)
  | admission {h : HandoffRow} (now : Nat) (hstate : h.state = .mayHaveBeenDispatched) :
      Step crates h (h.markAdmitted now)
  | terminate {h : HandoffRow} (receipt : WorkerTerminalReceipt) (now : Nat) (result : String)
      (hstate : h.state = .mayHaveBeenDispatched ∨ h.state = .admitted) :
      Step crates h (h.terminate receipt receipt.checkpointSequence now result
        (AscensionWatchdog.terminalDigest crates h.tuple receipt))
  | acknowledge {h : HandoffRow} (now : Nat) (hstate : h.state = .completed ∨ h.state = .failed) :
      Step crates h (h.markAcknowledged now)

/-- The columns that identify a handoff are never rewritten. -/
theorem HandoffRow.Step.tuple {h h' : HandoffRow} (hstep : HandoffRow.Step crates h h') :
    h'.tuple = h.tuple := by
  cases hstep <;> rfl

/-- No transaction prepares a handoff again. -/
theorem HandoffRow.Step.ne_prepared {h h' : HandoffRow} (hstep : HandoffRow.Step crates h h')
    (hstate : h.state ≠ .prepared) : h'.state ≠ .prepared := by
  cases hstep with
  | same => exact hstate
  | dispatch | admission | acknowledge => exact nofun
  | terminate receipt =>
    change receipt.status.handoffState ≠ .prepared
    cases receipt.status <;> exact nofun

variable {h : HandoffRow}

section Steps

variable {bound : Nat} {op : Op} {v : JobView} {w : JobWrite} {i : String} {s s' : Store}

/-- Every write of a job machine is a step of the handoffs of its job. -/
theorem Writes.handoffStep (hkeys : v.Keyed i) (hw : Writes crates bound op v w)
    (hh : h ∈ v.handoffs) :
    HandoffRow.Step crates h (if w.handoffSel h then w.handoff h else h) := by
  by_cases hsel : w.handoffSel h = true
  · rw [if_pos hsel]
    cases hw with
    | submit | claim | claimHandoff | complete | fail | interrupt | quarantine | retry
    | restore => cases hsel
    | dispatch =>
      simp only [dispatchWrite, Bool.and_eq_true, beq_iff_eq] at hsel
      exact .dispatch _ hsel.2
    | admission =>
      simp only [admitWrite, Bool.and_eq_true, beq_iff_eq] at hsel
      exact .admission _ hsel.2
    | @terminate _ tuple receipt _ h₀ _ _ now result _ hloaded =>
      simp only [terminateWrite, Bool.and_eq_true, Bool.or_eq_true, beq_iff_eq] at hsel
      -- the selected row is the loaded one, so the digest is that of its own tuple
      have hid : h.handoffId = h₀.handoffId := by
        rw [hsel.1, ← hloaded.tuple]
        rfl
      obtain rfl := eq_of_key_eq hkeys.handoffIds hh hloaded.handoff hid
      obtain rfl := hloaded.tuple
      exact .terminate receipt now result hsel.2
    | acknowledge =>
      simp only [acknowledgeWrite, Bool.and_eq_true, Bool.or_eq_true, beq_iff_eq] at hsel
      exact .acknowledge _ hsel.1.2
  · rw [if_neg hsel]
    exact .same h

/-- The rows of a job after a write: the old handoffs, each a step further, and at most one new
one. -/
theorem JobView.mem_apply_handoffs {h' : HandoffRow} (hh : h' ∈ (v.apply w).handoffs) :
    (∃ h ∈ v.handoffs, h' = if w.handoffSel h then w.handoff h else h) ∨
      w.newHandoff = some h' := by
  rcases List.mem_append.mp hh with hh | hh
  · obtain ⟨h, hmem, heq⟩ := mem_updateWhere.mp hh
    exact .inl ⟨h, hmem, heq.symm⟩
  · exact .inr (by simpa using hh)

theorem JobView.mem_apply_of_mem (hh : h ∈ v.handoffs) :
    (if w.handoffSel h then w.handoff h else h) ∈ (v.apply w).handoffs :=
  List.mem_append_left _ (mem_updateWhere.mpr ⟨h, hh, rfl⟩)

/-- A handoff is still there after a transaction, at most one step further. -/
theorem QueueStep.handoff (hs : s.queue.Keyed) (hstep : QueueStep crates op s s')
    (hh : h ∈ s.handoffs) : ∃ h' ∈ s'.handoffs, HandoffRow.Step crates h h' := by
  have hmem : h ∈ (s.queue.view h.jobId).handoffs := mem_view_handoffs hh
  rcases hstep.view h.jobId with heq | ⟨w, hw, heq⟩
  · rw [← heq] at hmem
    exact ⟨h, (mem_of_mem_view_handoffs hmem).1, .same h⟩
  · refine ⟨_, ?_, hw.handoffStep (hs.view _) hmem⟩
    have hmem' := JobView.mem_apply_of_mem (w := w) hmem
    rw [← heq] at hmem'
    exact (mem_of_mem_view_handoffs hmem').1

/-- The interruption of a daemon does not touch handoffs. -/
theorem quarantineInterruptedJobs_handoffs (now : Nat) (hs : s.queue.Keyed) :
    (perform crates (.quarantineInterruptedJobs now) s).handoffs = s.handoffs := by
  have hsteps : Relation.ReflTransGen (QuietStep crates (.quarantineInterruptedJobs now)) s _ :=
    quarantineInterruptedJobs_steps now hs
  generalize perform crates (.quarantineInterruptedJobs now) s = s' at hsteps
  induction hsteps with
  | refl => rfl
  | tail _ hstep ih =>
    rw [← ih]
    cases hstep.step with
    | same hqueue => exact congrArg Queue.handoffs hqueue
    | job i w hw _ _ _ hqueue =>
      cases hw with
      | submit hop => cases hop
      | interrupt =>
        exact (congrArg Queue.handoffs hqueue).trans (by simp [Queue.apply, interruptWrite]; rfl)
    | restore _ _ _ hop => cases hop

/-- A handoff is still there after an operation, at most one step further. -/
theorem perform_handoff (op : Op) (hs : s.queue.Keyed) (hh : h ∈ s.handoffs) :
    ∃ h' ∈ (perform crates op s).handoffs, HandoffRow.Step crates h h' := by
  by_cases hop : ∃ now, op = .quarantineInterruptedJobs now
  · obtain ⟨now, rfl⟩ := hop
    rw [quarantineInterruptedJobs_handoffs now hs]
    exact ⟨h, hh, .same h⟩
  · exact (perform_step (fun now heq => hop ⟨now, heq⟩) hs).handoff hs hh

end Steps

/-! ### One handoff for a job -/

/-- The statuses of a job that waits for nothing. -/
def JobStatus.settled : JobStatus → Bool
  | .completed => true
  | .failed => true
  | .quarantined => true
  | _ => false

/-- A job has at most one handoff, and is settled once the handoff is. -/
structure JobView.SingleHandoff (v : JobView) : Prop where
  single : v.handoffs.length ≤ 1
  settled : ∀ j ∈ v.row, ∀ h ∈ v.handoffs, h.state.unresolved = false → j.status.settled = true

section Single

variable {bound : Nat} {op : Op} {v : JobView} {w : JobWrite} {i : String}

variable {j : JobRow}

/-- A settled job stays settled, unless an operator retries its latest attempt. -/
theorem Writes.settled_or_retry (hw : Writes crates bound op v w)
    (hrow : v.row = some j) (hsettled : j.status.settled = true) :
    (if w.jobSel j then w.job j else j).status.settled = true ∨
      ∃ context a reconstruction response now,
        op = .admitOperatorRetry context a.id reconstruction response now ∧ v.Latest a ∧
          a.status = .failed ∧ v.handoffs = [] := by
  by_cases hsel : w.jobSel j = true
  · rw [if_pos hsel]
    cases hw with
    | submit | dispatch | admission | acknowledge => cases hsel
    | claim hrow' hqueued =>
      rw [Option.some.inj (hrow.symm.trans hrow'), hqueued] at hsettled
      cases hsettled
    | claimHandoff hrow' hepisode =>
      rw [Option.some.inj (hrow.symm.trans hrow'), hepisode.queued] at hsettled
      cases hsettled
    | complete | interrupt | quarantine | restore => exact .inl rfl
    | fail hrow' hrunning =>
      rw [Option.some.inj (hrow.symm.trans hrow'), hrunning] at hsettled
      cases hsettled
    | @terminate _ _ receipt =>
      left
      simp only [terminateWrite, JobRow.terminate]
      cases receipt.status <;> rfl
    | retry _ hlatest hfailed _ _ hnone =>
      exact .inr ⟨_, _, _, _, _, rfl, hlatest, hfailed, hnone⟩
  · rw [if_neg hsel]
    exact .inl hsettled

/-- A settled job with a handoff stays settled. -/
theorem Writes.settled_of_settled (hw : Writes crates bound op v w)
    (hrow : v.row = some j) (hsettled : j.status.settled = true) (hhandoffs : v.handoffs ≠ []) :
    (if w.jobSel j then w.job j else j).status.settled = true := by
  rcases hw.settled_or_retry hrow hsettled with h | ⟨_, _, _, _, _, _, _, _, hnone⟩
  · exact h
  · exact absurd hnone hhandoffs

/-- A handoff becomes settled only together with its job. -/
theorem Writes.settled_of_handoff (hw : Writes crates bound op v w)
    (hrow : v.row = some j)
    (hunresolved : h.state.unresolved = true)
    (hresolved : (if w.handoffSel h then w.handoff h else h).state.unresolved = false) :
    (if w.jobSel j then w.job j else j).status.settled = true := by
  by_cases hsel : w.handoffSel h = true
  · rw [if_pos hsel] at hresolved
    cases hw with
    | submit | claim | claimHandoff | complete | fail | interrupt | quarantine | retry
    | restore => cases hsel
    | dispatch | admission => cases hresolved
    | @terminate _ tuple receipt _ h₀ j₀ _ _ _ _ hloaded =>
      obtain rfl := Option.some.inj (hrow.symm.trans hloaded.row)
      have hjob : j.id = tuple.jobId := by rw [hloaded.jobId, ← hloaded.tuple]; rfl
      simp only [terminateWrite, hjob, BEq.rfl, Bool.and_self, if_true, JobRow.terminate]
      cases receipt.status <;> rfl
    | acknowledge =>
      simp only [acknowledgeWrite, Bool.and_eq_true, Bool.or_eq_true, beq_iff_eq] at hsel
      rcases hsel.1.2 with hstate | hstate <;> rw [hstate] at hunresolved <;> cases hunresolved
  · rw [if_neg hsel, hunresolved] at hresolved
    cases hresolved

private theorem Writes.newHandoff_eq_some (hw : Writes crates bound op v w)
    (hnew : w.newHandoff = some h) :
    h.state = .prepared ∧ (∀ h ∈ v.handoffs, h.state.unresolved = false) ∧
      ∃ j, v.row = some j ∧ j.status = .queued := by
  cases hw with
  | claimHandoff hrow hepisode _ hsettled =>
    cases hnew
    exact ⟨rfl, hsettled, _, hrow, hepisode.queued⟩
  | _ => cases hnew

theorem JobView.SingleHandoff.eq_of_mem (hv : v.SingleHandoff) {h h' : HandoffRow}
    (hh : h ∈ v.handoffs) (hh' : h' ∈ v.handoffs) : h = h' := by
  obtain ⟨x, hx⟩ := List.length_eq_one_iff.mp
    (Nat.le_antisymm hv.single (List.length_pos_of_mem hh))
  rw [hx] at hh hh'
  rw [List.mem_singleton.mp hh, List.mem_singleton.mp hh']

/-- A queued job whose handoffs have all ended has none. -/
theorem JobView.SingleHandoff.handoffs_eq_nil (hv : v.SingleHandoff)
    (hrow : v.row = some j) (hqueued : j.status = .queued)
    (hsettled : ∀ h ∈ v.handoffs, h.state.unresolved = false) : v.handoffs = [] := by
  refine List.eq_nil_iff_forall_not_mem.mpr fun h hh => ?_
  have hjob := hv.settled j hrow h hh (hsettled h hh)
  rw [hqueued] at hjob
  cases hjob

theorem JobView.SingleHandoff.apply (hv : v.SingleHandoff) (hkeys : v.Keyed i)
    (hw : Writes crates bound op v w) : (v.apply w).SingleHandoff := by
  constructor
  · have hlength : (v.apply w).handoffs.length = v.handoffs.length + w.newHandoff.toList.length := by
      simp [JobView.apply]
    cases hnew : w.newHandoff with
    | none =>
      rw [hlength, hnew]
      exact hv.single
    | some h =>
      obtain ⟨-, hsettled, j, hrow, hqueued⟩ := hw.newHandoff_eq_some hnew
      rw [hlength, hnew, hv.handoffs_eq_nil hrow hqueued hsettled]
      rfl
  · intro j' hj' h' hh' hresolved
    cases hrow : v.row with
    | none =>
      rcases JobView.mem_apply_handoffs hh' with ⟨h, hh, -⟩ | hnew
      · rw [(hkeys.empty hrow).2] at hh
        cases hh
      · obtain ⟨hprepared, -⟩ := hw.newHandoff_eq_some hnew
        rw [hprepared] at hresolved
        cases hresolved
    | some j =>
      obtain rfl : (if w.jobSel j then w.job j else j) = j' :=
        Option.some.inj ((JobView.apply_row hrow).symm.trans hj')
      rcases JobView.mem_apply_handoffs hh' with ⟨h, hh, rfl⟩ | hnew
      · cases hstate : h.state.unresolved with
        | true => exact hw.settled_of_handoff hrow hstate hresolved
        | false =>
          exact hw.settled_of_settled hrow (hv.settled j hrow h hh hstate)
            (List.ne_nil_of_mem hh)
      · obtain ⟨hprepared, -⟩ := hw.newHandoff_eq_some hnew
        rw [hprepared] at hresolved
        cases hresolved

end Single

theorem singleHandoff_empty : JobView.SingleHandoff ⟨none, [], []⟩ :=
  ⟨Nat.zero_le 1, by simp⟩

/-! ### One dispatch for a handoff -/

/-- The handoff whose dispatch a call authorizes: the one that a committed marker names. -/
def dispatchedTuple (crates : Crates) (op : Op) (s : Store) : Option WorkerHandoffTuple :=
  match op with
  | .markWorkerHandoffMayHaveBeenDispatchedAt tuple now =>
    if (markDispatchedTx crates s tuple now).isOk then some tuple else none
  | _ => none

section Dispatch

variable {op : Op} {s : Store} {tuple : WorkerHandoffTuple}

/-- A committed marker finds the handoff `prepared` and leaves it in another state. -/
theorem dispatchedTuple_eq_some (h : dispatchedTuple crates op s = some tuple) :
    ∃ row ∈ s.handoffs, row.tuple = tuple ∧ row.state = .prepared ∧
      ∃ row' ∈ (perform crates op s).handoffs, row'.tuple = tuple ∧ row'.state ≠ .prepared := by
  cases op with
  | markWorkerHandoffMayHaveBeenDispatchedAt tuple' now =>
    rw [dispatchedTuple] at h
    split at h
    · cases h
      rename_i hcommitted
      cases hok : markDispatchedTx crates s tuple now with
      | error e =>
        rw [hok] at hcommitted
        cases hcommitted
      | ok answer =>
        obtain ⟨u, s'⟩ := answer
        obtain ⟨row, j, a, hloaded, hstate, -, -, -, hs'⟩ := markDispatchedTx_eq_ok hok
        have hperform : perform crates (.markWorkerHandoffMayHaveBeenDispatchedAt tuple now) s =
            s' := by
          rw [perform, Store.markWorkerHandoffMayHaveBeenDispatchedAt, commitThen_snd, hok]
          rfl
        have hmem : row ∈ s.handoffs := (mem_of_mem_view_handoffs hloaded.handoff).1
        have hid : row.handoffId = tuple.handoffId := by rw [← hloaded.tuple]; rfl
        refine ⟨row, hmem, hloaded.tuple, hstate, row.markDispatched now, ?_, hloaded.tuple,
          fun h => by cases h⟩
        rw [hperform, hs']
        exact mem_updateWhere_of_pos hmem (by simp [hid, hstate])
    · cases h
  | _ => cases h

/-- A column of the tuple that tells the handoffs of every state apart counts at most one
committed marker for each of its values. -/
theorem occurrences_dispatch_le_one {P : Store → Prop} (key : WorkerHandoffTuple → String)
    (hkeyed : ∀ s, P s → s.queue.Keyed) (hP : ∀ op s, P s → P (perform crates op s))
    (hkey : ∀ s, P s → ∀ h ∈ s.handoffs, ∀ h' ∈ s.handoffs, key h.tuple = key h'.tuple → h = h')
    (hs : P s) (k : String) (ops : List Op) :
    occurrences (perform crates) (fun op s => (dispatchedTuple crates op s).any (key · == k)) s
      ops ≤ 1 := by
  -- spent: the handoff with this key has left the state that the marker needs
  refine occurrences_le_one (P := P)
    (Q := fun s => ∃ h ∈ s.handoffs, key h.tuple = k ∧ h.state ≠ .prepared) hP ?_ ?_ ?_ hs ops
  · rintro op s hs ⟨h, hh, hk, hstate⟩
    obtain ⟨h', hh', hstep⟩ := perform_handoff op (hkeyed s hs) hh
    exact ⟨h', hh', by rw [hstep.tuple, hk], hstep.ne_prepared hstate⟩
  · rintro op s hs ⟨h, hh, hk, hstate⟩
    cases hdispatched : dispatchedTuple crates op s with
    | none => rfl
    | some tuple =>
      obtain ⟨row, hrow, htuple, hprepared, -⟩ := dispatchedTuple_eq_some hdispatched
      rw [Option.any_some, beq_eq_false_iff_ne]
      intro hkt
      have heq : h = row := hkey s hs h hh row hrow (by rw [hk, htuple, hkt])
      exact hstate (heq ▸ hprepared)
  · intro op s hs hdispatched
    obtain ⟨tuple, htuple, hk⟩ := (Option.any_eq_true _ _).mp hdispatched
    obtain ⟨-, -, -, -, row', hrow', htuple', hstate'⟩ := dispatchedTuple_eq_some htuple
    exact ⟨row', hrow', by rw [htuple']; simpa using hk, hstate'⟩

end Dispatch

/-- The states that the counting below runs through. -/
private def OneHandoff (s : Store) : Prop :=
  s.queue.Keyed ∧ ∀ i, (s.queue.view i).SingleHandoff

private theorem OneHandoff.perform {s : Store} (hs : OneHandoff s) (op : Op) :
    OneHandoff (perform crates op s) :=
  ⟨perform_keyed op hs.1, fun i =>
    perform_view_invariant (fun _ _ _ hkeys hv hw => hv.apply hkeys hw) hs.1 (hs.2 i)⟩

private theorem oneHandoff_fresh {config : StoreConfig} {now : Nat} {epoch : UuidV4}
    {s₀ : Store} (hinit : Store.initialize config now epoch = .ok s₀) : OneHandoff s₀ := by
  refine ⟨initialize_keyed hinit, fun i => ?_⟩
  rw [initialize_queue hinit]
  exact singleHandoff_empty

private theorem OneHandoff.eq_of_jobId {s : Store} (hs : OneHandoff s) {h h' : HandoffRow}
    (hh : h ∈ s.handoffs) (hh' : h' ∈ s.handoffs) (hjob : h.jobId = h'.jobId) : h = h' := by
  have hmem : h ∈ (s.queue.view h'.jobId).handoffs := hjob ▸ mem_view_handoffs hh
  exact (hs.2 h'.jobId).eq_of_mem hmem (mem_view_handoffs hh')

/-- **One dispatch for an episode.** In every run from a fresh store a job has at most one
handoff, a handoff is marked as dispatched at most once, and so is the episode of a job. -/
theorem episodes_dispatched_once {config : StoreConfig} {now : Nat} {epoch : UuidV4}
    {s₀ : Store} (hinit : Store.initialize config now epoch = .ok s₀) (ops : List Op) :
    (∀ jobId, (s₀.after crates ops).handoffs.countP (·.jobId == jobId) ≤ 1) ∧
      (∀ handoffId, occurrences (perform crates)
        (fun op s => (dispatchedTuple crates op s).any (·.handoffId == handoffId)) s₀ ops ≤ 1) ∧
      ∀ jobId, occurrences (perform crates)
        (fun op s => (dispatchedTuple crates op s).any (·.jobId == jobId)) s₀ ops ≤ 1 := by
  have h₀ : OneHandoff s₀ := oneHandoff_fresh hinit
  have hstep : ∀ op s, OneHandoff s → OneHandoff (perform crates op s) :=
    fun op _ hs => hs.perform op
  have hafter : OneHandoff (s₀.after crates ops) := run_invariant hstep h₀ ops
  refine ⟨fun jobId => ?_, fun handoffId => ?_, fun jobId => ?_⟩
  · rw [List.countP_eq_length_filter]
    exact (hafter.2 jobId).single
  · exact occurrences_dispatch_le_one _ (fun _ hs => hs.1) hstep
      (fun s hs h hh h' hh' heq => eq_of_key_eq hs.1.handoffIds hh hh' heq) h₀ handoffId ops
  · exact occurrences_dispatch_le_one _ (fun _ hs => hs.1) hstep
      (fun s hs h hh h' hh' heq => hs.eq_of_jobId hh hh' heq) h₀ jobId ops

/-- The handoffs and dispatches of an episode that has failed. -/
theorem episodes_dispatched_once_failed :
    (sampleStore.after sampleCrates (sampleEpisode .failed)).handoffs.countP
        (·.jobId == sampleTuple.jobId) ≤ 1 ∧
      occurrences (perform sampleCrates)
        (fun op s => (dispatchedTuple sampleCrates op s).any (·.jobId == sampleTuple.jobId))
        sampleStore (sampleEpisode .failed) ≤ 1 := by
  refine ⟨?_, ?_⟩
  · exact (episodes_dispatched_once sampleStore_init (sampleEpisode .failed)).1 _
  · exact (episodes_dispatched_once sampleStore_init (sampleEpisode .failed)).2.2 _

end AscensionWatchdog
