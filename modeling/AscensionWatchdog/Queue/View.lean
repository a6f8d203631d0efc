import AscensionWatchdog.Storage.Operations

/-!
# The queue, job by job

Three tables make up the queue: jobs, attempts and handoffs. Every row of them belongs to one
job, and what matters about a job is its **view**: its own row, its attempts and its handoffs,
each in the order of insertion.

A transaction of the queue is a `JobWrite`: conditional rewrites of the three tables and at most
one new row in each. The rewrites never touch a key column, which the structure carries as a
proof. The two lemmas that the development rests on are

* `view_apply`: the view of a job after a write is the write applied to its view;
* `view_apply_of_ne`: a write that targets one job leaves the view of every other job alone.

So a property of single jobs is proved about views, where there are no tables and no other jobs.
-/

namespace AscensionWatchdog

open Foundation

/-- The three tables of the queue, and the bound under which payloads are read. -/
structure Queue where
  jobs : List JobRow
  attempts : List AttemptRow
  handoffs : List HandoffRow
  maxPayloadBytes : Nat

/-- The queue of a store. -/
def Store.queue (s : Store) : Queue :=
  ⟨s.jobs, s.attempts, s.handoffs, s.maxPayloadBytes⟩

/-- The rows of one job. -/
structure JobView where
  row : Option JobRow
  attempts : List AttemptRow
  handoffs : List HandoffRow
  deriving DecidableEq, Repr

/-- The rows of the job `i`. -/
def Queue.view (q : Queue) (i : String) : JobView where
  row := lookup JobRow.id i q.jobs
  attempts := q.attempts.filter (·.jobId == i)
  handoffs := q.handoffs.filter (·.jobId == i)

/-! ### Writes -/

/-- What one transaction writes in the queue. -/
structure JobWrite where
  jobSel : JobRow → Bool := fun _ => false
  job : JobRow → JobRow := id
  attemptSel : AttemptRow → Bool := fun _ => false
  attempt : AttemptRow → AttemptRow := id
  handoffSel : HandoffRow → Bool := fun _ => false
  handoff : HandoffRow → HandoffRow := id
  newJob : Option JobRow := none
  newAttempt : Option AttemptRow := none
  newHandoff : Option HandoffRow := none
  job_id : ∀ j, (job j).id = j.id := by intros; rfl
  attempt_id : ∀ a, (attempt a).id = a.id := by intros; rfl
  attempt_jobId : ∀ a, (attempt a).jobId = a.jobId := by intros; rfl
  handoff_id : ∀ h, (handoff h).handoffId = h.handoffId := by intros; rfl
  handoff_jobId : ∀ h, (handoff h).jobId = h.jobId := by intros; rfl
  handoff_attemptId : ∀ h, (handoff h).attemptId = h.attemptId := by intros; rfl

/-- Perform a write on the tables. -/
def Queue.apply (q : Queue) (w : JobWrite) : Queue where
  jobs := updateWhere w.jobSel w.job q.jobs ++ w.newJob.toList
  attempts := updateWhere w.attemptSel w.attempt q.attempts ++ w.newAttempt.toList
  handoffs := updateWhere w.handoffSel w.handoff q.handoffs ++ w.newHandoff.toList
  maxPayloadBytes := q.maxPayloadBytes

/-- Perform a write on the rows of one job. -/
def JobView.apply (v : JobView) (w : JobWrite) : JobView where
  row := (v.row.map fun j => if w.jobSel j then w.job j else j).or w.newJob
  attempts := updateWhere w.attemptSel w.attempt v.attempts ++ w.newAttempt.toList
  handoffs := updateWhere w.handoffSel w.handoff v.handoffs ++ w.newHandoff.toList

/-- The new rows of a write belong to the job `i`. -/
structure JobWrite.Inserts (w : JobWrite) (i : String) : Prop where
  job : ∀ j ∈ w.newJob, j.id = i
  attempt : ∀ a ∈ w.newAttempt, a.jobId = i
  handoff : ∀ h ∈ w.newHandoff, h.jobId = i

/-- A write that touches rows of the job `i` only. -/
structure JobWrite.Targets (w : JobWrite) (q : Queue) (i : String) : Prop where
  inserts : w.Inserts i
  job : ∀ j ∈ q.jobs, w.jobSel j = true → j.id = i
  attempt : ∀ a ∈ q.attempts, w.attemptSel a = true → a.jobId = i
  handoff : ∀ h ∈ q.handoffs, w.handoffSel h = true → h.jobId = i

/-! ### The view of a write -/

section ViewApply

variable {q : Queue} {w : JobWrite} {i k : String}

private theorem lookup_toList {o : Option JobRow} (ho : ∀ j ∈ o, j.id = i) :
    lookup JobRow.id i o.toList = o := by
  cases o with
  | none => rfl
  | some j => simp [lookup, ho j rfl]

private theorem lookup_append (t t' : List JobRow) :
    lookup JobRow.id i (t ++ t') = (lookup JobRow.id i t).or (lookup JobRow.id i t') :=
  List.find?_append

private theorem filter_toList {α : Type} {o : Option α} {p : α → Bool} (ho : ∀ r ∈ o, p r = true) :
    o.toList.filter p = o.toList := by
  rw [List.filter_eq_self]
  simpa using ho

private theorem filter_toList_eq_nil {α : Type} {o : Option α} {p : α → Bool}
    (ho : ∀ r ∈ o, p r = false) : o.toList.filter p = [] := by
  rw [List.filter_eq_nil_iff]
  simpa using ho

/-- The view of a job after a write is the write applied to its view. -/
theorem view_apply (hw : w.Inserts i) : (q.apply w).view i = (q.view i).apply w := by
  unfold Queue.view Queue.apply JobView.apply
  simp only [JobView.mk.injEq]
  refine ⟨?_, ?_, ?_⟩
  · rw [lookup_append, lookup_updateWhere w.job_id, lookup_toList hw.job]
  · rw [List.filter_append, filter_updateWhere (fun a => by rw [w.attempt_jobId]),
      filter_toList (fun a ha => by simpa using hw.attempt a ha)]
  · rw [List.filter_append, filter_updateWhere (fun h => by rw [w.handoff_jobId]),
      filter_toList (fun h hh => by simpa using hw.handoff h hh)]

/-- Selected rows that belong to another job do not show in a view. -/
private theorem updateWhere_filter_of_ne {α : Type} {p : α → Bool} {f : α → α} {key : α → String}
    {t : List α} (hp : ∀ r ∈ t, p r = true → key r = i) (hk : k ≠ i) :
    updateWhere p f (t.filter (key · == k)) = t.filter (key · == k) := by
  refine updateWhere_of_forall_not fun r hr => ?_
  obtain ⟨hrt, hrk⟩ := List.mem_filter.mp hr
  by_contra hsel
  have hri : key r = i := hp r hrt (by simpa using hsel)
  exact hk (by rw [← hri]; exact (by simpa using hrk : key r = k).symm)

/-- A write that targets one job leaves the view of every other job alone. -/
theorem view_apply_of_ne (hw : w.Targets q i) (hk : k ≠ i) : (q.apply w).view k = q.view k := by
  have hnewJob : lookup JobRow.id k w.newJob.toList = none := by
    refine lookup_eq_none.mpr fun j hj => ?_
    rw [hw.inserts.job j (by simpa using hj)]
    exact hk.symm
  unfold Queue.view Queue.apply
  simp only [JobView.mk.injEq]
  refine ⟨?_, ?_, ?_⟩
  · rw [lookup_append, lookup_updateWhere w.job_id, hnewJob, Option.or_none]
    cases hrow : lookup JobRow.id k q.jobs with
    | none => rfl
    | some j =>
      obtain ⟨hj, hjk⟩ := mem_of_lookup hrow
      have hsel : w.jobSel j ≠ true := fun hsel => hk (hjk.symm.trans (hw.job j hj hsel))
      simp [hsel]
  · rw [List.filter_append, filter_updateWhere (fun a => by rw [w.attempt_jobId]),
      filter_toList_eq_nil fun a ha => ?_, List.append_nil,
      updateWhere_filter_of_ne hw.attempt hk]
    rw [hw.inserts.attempt a ha]
    simpa using hk.symm
  · rw [List.filter_append, filter_updateWhere (fun h => by rw [w.handoff_jobId]),
      filter_toList_eq_nil fun h hh => ?_, List.append_nil,
      updateWhere_filter_of_ne hw.handoff hk]
    rw [hw.inserts.handoff h hh]
    simpa using hk.symm

end ViewApply

/-! ### Keys -/

/-- Every table has a key column without duplicates, and attempts and handoffs belong to a job
that exists. -/
structure Queue.Keyed (q : Queue) : Prop where
  jobIds : (q.jobs.map JobRow.id).Nodup
  attemptIds : (q.attempts.map AttemptRow.id).Nodup
  handoffIds : (q.handoffs.map HandoffRow.handoffId).Nodup
  attemptJob : ∀ a ∈ q.attempts, ∃ j ∈ q.jobs, j.id = a.jobId
  handoffJob : ∀ h ∈ q.handoffs, ∃ j ∈ q.jobs, j.id = h.jobId

/-- The new rows of a write have fresh keys and belong to a job that exists. -/
structure JobWrite.Fresh (w : JobWrite) (q : Queue) : Prop where
  job : ∀ j ∈ w.newJob, ∀ j' ∈ q.jobs, j'.id ≠ j.id
  attempt : ∀ a ∈ w.newAttempt, ∀ a' ∈ q.attempts, a'.id ≠ a.id
  handoff : ∀ h ∈ w.newHandoff, ∀ h' ∈ q.handoffs, h'.handoffId ≠ h.handoffId
  attemptJob : ∀ a ∈ w.newAttempt, ∃ j ∈ q.jobs, j.id = a.jobId
  handoffJob : ∀ h ∈ w.newHandoff, ∃ j ∈ q.jobs, j.id = h.jobId

section Keyed

variable {q : Queue} {w : JobWrite}

private theorem nodup_map_append_toList {α κ : Type} {key : α → κ} {t : List α} {o : Option α}
    (ht : (t.map key).Nodup) (ho : ∀ r ∈ o, ∀ r' ∈ t, key r' ≠ key r) :
    ((t ++ o.toList).map key).Nodup := by
  cases o with
  | none => simpa using ht
  | some r => exact nodup_map_append_singleton ht (ho r rfl)

private theorem nodup_updateWhere_append {α κ : Type} {key : α → κ} {p : α → Bool} {f : α → α}
    {t : List α} {o : Option α} (hf : ∀ r, key (f r) = key r) (ht : (t.map key).Nodup)
    (ho : ∀ r ∈ o, ∀ r' ∈ t, key r' ≠ key r) :
    ((updateWhere p f t ++ o.toList).map key).Nodup := by
  refine nodup_map_append_toList (by rwa [map_updateWhere key hf]) fun r hr r' hr' => ?_
  have hkey : key r' ∈ t.map key := by
    rw [← map_updateWhere (p := p) key hf]
    exact List.mem_map_of_mem hr'
  obtain ⟨r₀, hr₀, hr₀'⟩ := List.mem_map.mp hkey
  rw [← hr₀']
  exact ho r hr r₀ hr₀

/-- A job that exists before a write exists after it. -/
theorem exists_job_apply {i : String} (h : ∃ j ∈ q.jobs, j.id = i) :
    ∃ j ∈ (q.apply w).jobs, j.id = i := by
  obtain ⟨j, hj, rfl⟩ := h
  refine ⟨if w.jobSel j then w.job j else j, ?_, ?_⟩
  · exact List.mem_append_left _ (mem_updateWhere.mpr ⟨j, hj, rfl⟩)
  · by_cases hsel : w.jobSel j = true <;> simp [hsel, w.job_id]

theorem Queue.Keyed.apply (hq : q.Keyed) (hw : w.Fresh q) : (q.apply w).Keyed where
  jobIds := nodup_updateWhere_append w.job_id hq.jobIds hw.job
  attemptIds := nodup_updateWhere_append w.attempt_id hq.attemptIds hw.attempt
  handoffIds := nodup_updateWhere_append w.handoff_id hq.handoffIds hw.handoff
  attemptJob := by
    intro a ha
    rcases List.mem_append.mp ha with ha | ha
    · obtain ⟨a₀, ha₀, rfl⟩ := mem_updateWhere.mp ha
      have := exists_job_apply (w := w) (hq.attemptJob a₀ ha₀)
      by_cases hsel : w.attemptSel a₀ = true
      · simpa [hsel, w.attempt_jobId] using this
      · simpa [hsel] using this
    · exact exists_job_apply (hw.attemptJob a (by simpa using ha))
  handoffJob := by
    intro h hh
    rcases List.mem_append.mp hh with hh | hh
    · obtain ⟨h₀, hh₀, rfl⟩ := mem_updateWhere.mp hh
      have := exists_job_apply (w := w) (hq.handoffJob h₀ hh₀)
      by_cases hsel : w.handoffSel h₀ = true
      · simpa [hsel, w.handoff_jobId] using this
      · simpa [hsel] using this
    · exact exists_job_apply (hw.handoffJob h (by simpa using hh))

/-- The rows of a job that does not exist: none. -/
theorem Queue.Keyed.view_of_none (hq : q.Keyed) {i : String} (hrow : (q.view i).row = none) :
    q.view i = ⟨none, [], []⟩ := by
  have hno : ∀ j ∈ q.jobs, j.id ≠ i := lookup_eq_none.mp hrow
  have hattempts : (q.view i).attempts = [] := by
    refine List.filter_eq_nil_iff.mpr fun a ha hai => ?_
    obtain ⟨j, hj, hja⟩ := hq.attemptJob a ha
    exact hno j hj (hja.trans (by simpa using hai))
  have hhandoffs : (q.view i).handoffs = [] := by
    refine List.filter_eq_nil_iff.mpr fun h hh hhi => ?_
    obtain ⟨j, hj, hjh⟩ := hq.handoffJob h hh
    exact hno j hj (hjh.trans (by simpa using hhi))
  rw [← hrow, ← hattempts, ← hhandoffs]

/-- What keyed tables mean for the rows of the job `i`. -/
structure JobView.Keyed (v : JobView) (i : String) : Prop where
  rowId : ∀ j ∈ v.row, j.id = i
  attemptIds : (v.attempts.map AttemptRow.id).Nodup
  attemptJob : ∀ a ∈ v.attempts, a.jobId = i
  handoffIds : (v.handoffs.map HandoffRow.handoffId).Nodup
  handoffJob : ∀ h ∈ v.handoffs, h.jobId = i
  empty : v.row = none → v.attempts = [] ∧ v.handoffs = []

theorem Queue.Keyed.view (hq : q.Keyed) (i : String) : (q.view i).Keyed i where
  rowId j hj := (mem_of_lookup hj).2
  attemptIds := hq.attemptIds.sublist (List.filter_sublist.map AttemptRow.id)
  attemptJob a ha := by simpa using (List.mem_filter.mp ha).2
  handoffIds := hq.handoffIds.sublist (List.filter_sublist.map HandoffRow.handoffId)
  handoffJob h hh := by simpa using (List.mem_filter.mp hh).2
  empty hrow := by
    rw [hq.view_of_none hrow]
    exact ⟨rfl, rfl⟩

end Keyed

end AscensionWatchdog
