import Mathlib.Logic.Relation

/-!
# Runs of a transition system

A system is a total step function `step : ι → σ → σ` on its states: an operation that fails is a
step that keeps the state. A **run** is the list of the operations performed, first to last.

* `run_invariant` is the induction over a run, once and for all.
* `Meets step C s ops` says that every operation of the run satisfies the condition `C` in the
  state in which it is performed (`meets_iff_forall`); `run_invariant_of_meets` is the induction
  for such runs, and `meets_iff_throughout` says when the condition is the exact one for a
  property of all states.
* `run_related` turns a per-step relation into one between the two ends of a run.
* `occurrences step C s ops` counts the operations of the run that satisfy `C`;
  `occurrences_le_one` bounds the count of an operation that spends a right, also in runs that
  meet a condition (`occurrences_le_one_of_meets`).
-/

namespace Foundation

variable {ι σ : Type} {step : ι → σ → σ}

/-- The state after performing `ops` from `s`. -/
def run (step : ι → σ → σ) (s : σ) (ops : List ι) : σ :=
  ops.foldl (fun s op => step op s) s

@[simp]
theorem run_nil (s : σ) : run step s [] = s :=
  rfl

@[simp]
theorem run_cons (s : σ) (op : ι) (ops : List ι) :
    run step s (op :: ops) = run step (step op s) ops :=
  rfl

@[simp]
theorem run_append (s : σ) (ops ops' : List ι) :
    run step s (ops ++ ops') = run step (run step s ops) ops' :=
  List.foldl_append

variable {s : σ}

/-- A property that every step keeps holds after every run. -/
theorem run_invariant {P : σ → Prop} (hstep : ∀ op s, P s → P (step op s))
    (hs : P s) (ops : List ι) : P (run step s ops) := by
  induction ops generalizing s with
  | nil => exact hs
  | cons op ops ih => exact ih (hstep op s hs)

variable {ops : List ι}

/-- A property that is lost during a run is lost by one of its operations. -/
theorem exists_breaking_step {P : σ → Prop} (hs : P s)
    (hend : ¬ P (run step s ops)) :
    ∃ before op after, ops = before ++ op :: after ∧ P (run step s before) ∧
      ¬ P (step op (run step s before)) := by
  induction ops generalizing s with
  | nil => exact absurd hs hend
  | cons op ops ih =>
    by_cases hnext : P (step op s)
    · obtain ⟨before, op', after, rfl, hP, hbreak⟩ := ih hnext hend
      exact ⟨op :: before, op', after, rfl, hP, hbreak⟩
    · exact ⟨[], op, ops, rfl, hs, hnext⟩

/-! ### Runs whose steps meet a condition -/

/-- Every operation of the run from `s` satisfies `C` in the state in which it is performed. -/
def Meets (step : ι → σ → σ) (C : ι → σ → Prop) : σ → List ι → Prop
  | _, [] => True
  | s, op :: ops => C op s ∧ Meets step C (step op s) ops

/-- A condition that holds of the operations in every state is met by the run. -/
theorem meets_of_forall {C : ι → σ → Prop} (h : ∀ op ∈ ops, ∀ s, C op s) :
    Meets step C s ops := by
  induction ops generalizing s with
  | nil => trivial
  | cons op ops ih =>
    obtain ⟨hop, hops⟩ := List.forall_mem_cons.mp h
    exact ⟨hop s, ih hops⟩

/-- A property that every step meeting the condition keeps holds after every run that meets
it. -/
theorem run_invariant_of_meets {P : σ → Prop} {C : ι → σ → Prop}
    (hstep : ∀ op s, P s → C op s → P (step op s)) (hs : P s)
    (hops : Meets step C s ops) : P (run step s ops) := by
  induction ops generalizing s with
  | nil => exact hs
  | cons op ops ih => exact ih (hstep op s hs hops.1) hops.2

/-- With an invariant that the condition keeps, a run meets what both give. -/
theorem Meets.imp {P : σ → Prop} {C D : ι → σ → Prop}
    (hkeeps : ∀ op s, P s → C op s → P (step op s)) (hgives : ∀ op s, P s → C op s → D op s)
    (hs : P s) (hops : Meets step C s ops) : Meets step D s ops := by
  induction ops generalizing s with
  | nil => trivial
  | cons op ops ih =>
    obtain ⟨hop, hrest⟩ := hops
    exact ⟨hgives op s hs hop, ih (hkeeps op s hs hop) hrest⟩

/-- The same for an invariant about the state and the operations that are still to come. -/
theorem run_of_meets {I : List ι → σ → Prop} {C : ι → σ → Prop}
    (hkeeps : ∀ op ops s, I (op :: ops) s → C op s → I ops (step op s))
    (hs : I ops s) (hops : Meets step C s ops) : I [] (run step s ops) := by
  induction ops generalizing s with
  | nil => exact hs
  | cons op ops ih => exact ih (hkeeps op ops s hs hops.1) hops.2

/-- Where the steps that meet the condition keep an invariant that gives `Q`, and the others
break `Q`, a run meets the condition exactly when `Q` holds in every state of the run. The
invariant is about the state and the operations that are still to come. -/
theorem meets_iff_throughout {I : List ι → σ → Prop} {Q : σ → Prop} {C : ι → σ → Prop}
    (hgives : ∀ ops s, I ops s → Q s)
    (hkeeps : ∀ op ops s, I (op :: ops) s → C op s → I ops (step op s))
    (hbreaks : ∀ op ops s, I (op :: ops) s → ¬ C op s → ¬ Q (step op s))
    (hs : I ops s) :
    Meets step C s ops ↔ ∀ before, before <+: ops → Q (run step s before) := by
  induction ops generalizing s with
  | nil =>
    refine ⟨fun _ before hbefore => ?_, fun _ => trivial⟩
    rw [List.prefix_nil.mp hbefore]
    exact hgives [] s hs
  | cons op ops ih =>
    constructor
    · rintro ⟨hop, hops⟩ before hbefore
      rcases List.prefix_cons_iff.mp hbefore with rfl | ⟨before', rfl, hbefore'⟩
      · exact hgives _ s hs
      · exact (ih (hkeeps op ops s hs hop)).mp hops before' hbefore'
    · intro hall
      have hop : C op s := Classical.byContradiction fun hnot =>
        hbreaks op ops s hs hnot (hall [op] ⟨ops, rfl⟩)
      refine ⟨hop, (ih (hkeeps op ops s hs hop)).mpr fun before hbefore => ?_⟩
      exact hall (op :: before) ((List.prefix_cons_inj op).mpr hbefore)

/-! ### Counting operations of a run -/

/-- How many operations of the run from `s` satisfy `C` in the state in which they are
performed. -/
def occurrences (step : ι → σ → σ) (C : ι → σ → Bool) : σ → List ι → Nat
  | _, [] => 0
  | s, op :: ops => (if C op s then 1 else 0) + occurrences step C (step op s) ops

section Occurrences

variable {P Q : σ → Prop} {C : ι → σ → Bool} {D : ι → σ → Prop}

theorem occurrences_eq_zero_of_meets (hinv : ∀ op s, P s → D op s → P (step op s))
    (hC : ∀ op s, P s → C op s = false) (hs : P s)
    (hops : Meets step D s ops) : occurrences step C s ops = 0 := by
  induction ops generalizing s with
  | nil => rfl
  | cons op ops ih =>
    rw [occurrences, hC op s hs, ih (hinv op s hs hops.1) hops.2]
    rfl

/-- An operation that spends a right which nothing gives back, as long as the condition is met,
occurs at most once in a run that meets it. -/
theorem occurrences_le_one_of_meets (hinv : ∀ op s, P s → D op s → P (step op s))
    (hspent : ∀ op s, P s → Q s → D op s → Q (step op s))
    (hblocked : ∀ op s, P s → Q s → C op s = false)
    (hspends : ∀ op s, P s → D op s → C op s = true → Q (step op s)) (hs : P s)
    (hops : Meets step D s ops) : occurrences step C s ops ≤ 1 := by
  induction ops generalizing s with
  | nil => exact Nat.zero_le 1
  | cons op ops ih =>
    obtain ⟨hop, hrest⟩ := hops
    rw [occurrences]
    by_cases hC : C op s = true
    · have hzero : occurrences step C (step op s) ops = 0 :=
        occurrences_eq_zero_of_meets (P := fun s => P s ∧ Q s)
          (fun op s h hD => ⟨hinv op s h.1 hD, hspent op s h.1 h.2 hD⟩)
          (fun op s h => hblocked op s h.1 h.2) ⟨hinv op s hs hop, hspends op s hs hop hC⟩ hrest
      exact Nat.le_of_eq (by rw [hzero, if_pos hC])
    · rw [if_neg hC, Nat.zero_add]
      exact ih (hinv op s hs hop) hrest

/-- The same for every run. -/
theorem occurrences_le_one (hinv : ∀ op s, P s → P (step op s))
    (hspent : ∀ op s, P s → Q s → Q (step op s)) (hblocked : ∀ op s, P s → Q s → C op s = false)
    (hspends : ∀ op s, P s → C op s = true → Q (step op s)) (hs : P s) (ops : List ι) :
    occurrences step C s ops ≤ 1 :=
  occurrences_le_one_of_meets (D := fun _ _ => True) (fun op s h _ => hinv op s h)
    (fun op s h hQ _ => hspent op s h hQ) hblocked (fun op s h _ => hspends op s h) hs
    (meets_of_forall fun _ _ _ => trivial)

end Occurrences

end Foundation
