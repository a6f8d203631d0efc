import Mathlib.Data.List.Nodup
import Mathlib.Data.List.Range

/-!
# Tables as lists of rows

A relational table is the list of its rows in insertion order. The statements a program runs on
it are three list functions:

* `updateWhere p f t` is `UPDATE t SET f WHERE p`; the number of changed rows is `t.countP p`;
* `t ++ [r]` is `INSERT`, with `lookup` (or `List.any`) for the uniqueness check before it;
* `leastBy lt (t.filter p)` is `SELECT … WHERE p ORDER BY lt LIMIT 1`.

The lemmas say what an update keeps: a column it does not write, the rows it does not select,
the number of rows with a property it cannot create. An update is selected by a *condition*
and not by a position, so these facts do not depend on where the rows are.
-/

namespace Foundation

variable {α κ : Type}

/-! ### Updates -/

/-- Rewrite by `f` the rows of `t` that satisfy `p`. -/
def updateWhere (p : α → Bool) (f : α → α) (t : List α) : List α :=
  t.map fun r => if p r then f r else r

@[simp]
theorem updateWhere_nil (p : α → Bool) (f : α → α) : updateWhere p f [] = [] :=
  rfl

@[simp]
theorem length_updateWhere (p : α → Bool) (f : α → α) (t : List α) :
    (updateWhere p f t).length = t.length := by
  simp [updateWhere]

variable {p : α → Bool} {f : α → α}

theorem mem_updateWhere {t : List α} {r : α} :
    r ∈ updateWhere p f t ↔ ∃ r₀ ∈ t, (if p r₀ then f r₀ else r₀) = r := by
  simp [updateWhere]

/-- Every row after an update is an unselected old row or the rewriting of a selected one. -/
theorem mem_updateWhere_cases {t : List α} {r : α}
    (h : r ∈ updateWhere p f t) :
    (r ∈ t ∧ p r = false) ∨ ∃ r₀ ∈ t, p r₀ = true ∧ r = f r₀ := by
  obtain ⟨r₀, hr₀, rfl⟩ := mem_updateWhere.mp h
  by_cases hp : p r₀ = true
  · exact .inr ⟨r₀, hr₀, hp, by rw [if_pos hp]⟩
  · rw [if_neg hp]
    exact .inl ⟨hr₀, by simpa using hp⟩

theorem mem_updateWhere_of_not {t : List α} {r : α} (hr : r ∈ t)
    (hp : p r = false) : r ∈ updateWhere p f t :=
  mem_updateWhere.mpr ⟨r, hr, by simp [hp]⟩

theorem mem_updateWhere_of_pos {t : List α} {r : α} (hr : r ∈ t)
    (hp : p r = true) : f r ∈ updateWhere p f t :=
  mem_updateWhere.mpr ⟨r, hr, by simp [hp]⟩

/-- An update that selects no row changes nothing. -/
theorem updateWhere_of_forall_not {t : List α}
    (h : ∀ r ∈ t, p r = false) : updateWhere p f t = t := by
  unfold updateWhere
  conv_rhs => rw [← List.map_id t]
  exact List.map_congr_left fun r hr => by simp [h r hr]

@[simp]
theorem updateWhere_false (f : α → α) (t : List α) : updateWhere (fun _ => false) f t = t :=
  updateWhere_of_forall_not fun _ _ => rfl

/-- Updates that select the same rows are the same update. -/
theorem updateWhere_congr {p q : α → Bool} {t : List α} (h : ∀ r ∈ t, p r = q r) :
    updateWhere p f t = updateWhere q f t :=
  List.map_congr_left fun r hr => by rw [h r hr]

/-- An update that is repeated on other rows: those that it has rewritten are not selected again. -/
theorem updateWhere_updateWhere {p q : α → Bool}
    (h : ∀ r, p r = true → q (f r) = false) (t : List α) :
    updateWhere q f (updateWhere p f t) = updateWhere (fun r => p r || q r) f t := by
  unfold updateWhere
  rw [List.map_map]
  refine List.map_congr_left fun r _ => ?_
  by_cases hp : p r = true <;> simp [hp, h]

/-- A column that the update does not write is unchanged. -/
theorem map_updateWhere (col : α → κ) (hcol : ∀ r, col (f r) = col r)
    (t : List α) : (updateWhere p f t).map col = t.map col := by
  unfold updateWhere
  rw [List.map_map]
  refine List.map_congr_left fun r _ => ?_
  by_cases hp : p r = true <;> simp [hp, hcol]

/-- A selection whose condition the update does not touch commutes with it. -/
theorem filter_updateWhere {p q : α → Bool} (hq : ∀ r, q (f r) = q r) (t : List α) :
    (updateWhere p f t).filter q = updateWhere p f (t.filter q) := by
  induction t with
  | nil => rfl
  | cons r t ih =>
    have hhead : q (if p r then f r else r) = q r := by
      by_cases hp : p r = true <;> simp [hp, hq]
    have hcons : updateWhere p f (r :: t) = (if p r then f r else r) :: updateWhere p f t := rfl
    rw [hcons, List.filter_cons, List.filter_cons, hhead, ih]
    by_cases hqr : q r = true
    · rw [if_pos hqr, if_pos hqr]
      rfl
    · rw [if_neg hqr, if_neg hqr]

/-- An update cannot raise the number of rows with a property that it never creates. -/
theorem countP_updateWhere_le {p q : α → Bool}
    (hq : ∀ r, p r = true → q (f r) = true → q r = true) (t : List α) :
    (updateWhere p f t).countP q ≤ t.countP q := by
  unfold updateWhere
  rw [List.countP_map]
  refine List.countP_mono_left fun r _ h => ?_
  by_cases hp : p r = true
  · simp only [Function.comp_apply, hp, if_true] at h
    exact hq r hp h
  · simpa [hp] using h

/-! ### Lookup by a key column -/

/-- The first row whose key column is `k`. -/
def lookup [DecidableEq κ] (key : α → κ) (k : κ) (t : List α) : Option α :=
  t.find? fun r => key r = k

/-- Rows with the same key are the same row. -/
theorem eq_of_key_eq {key : α → κ} {t : List α} {r r' : α} (hkeys : (t.map key).Nodup)
    (hr : r ∈ t) (hr' : r' ∈ t) (h : key r = key r') : r = r' :=
  List.inj_on_of_nodup_map hkeys hr hr' h

/-- An update that selects a row by its key selects no other row. -/
theorem countP_eq_one {key : α → κ} {t : List α} {r : α}
    (hkeys : (t.map key).Nodup) (hr : r ∈ t) (hp : p r = true)
    (hkey : ∀ r' ∈ t, p r' = true → key r' = key r) : t.countP p = 1 := by
  have hselected : ∀ r' ∈ t.filter p, r' = r := by
    intro r' hr'
    obtain ⟨hmem, hp'⟩ := List.mem_filter.mp hr'
    exact eq_of_key_eq hkeys hmem hr (hkey r' hmem hp')
  have hrepeat := List.eq_replicate_iff.mpr ⟨rfl, hselected⟩
  have hnodup : (t.filter p).Nodup := (List.Nodup.of_map key hkeys).filter p
  have hpos : 0 < (t.filter p).length := List.length_pos_of_mem (List.mem_filter.mpr ⟨hr, hp⟩)
  rw [List.countP_eq_length_filter]
  rw [hrepeat, List.nodup_replicate] at hnodup
  omega

section Lookup

variable [DecidableEq κ] {key : α → κ} {k : κ} {t : List α} {r : α}

theorem mem_of_lookup (h : lookup key k t = some r) : r ∈ t ∧ key r = k := by
  refine ⟨List.mem_of_find?_eq_some h, ?_⟩
  simpa using List.find?_some h

theorem lookup_eq_none : lookup key k t = none ↔ ∀ r ∈ t, key r ≠ k := by
  simp [lookup]

/-- In a table whose key column has no duplicates the row with a given key is the one found. -/
theorem lookup_eq_some (hkeys : (t.map key).Nodup) :
    lookup key k t = some r ↔ r ∈ t ∧ key r = k := by
  refine ⟨mem_of_lookup, fun ⟨hr, hk⟩ => ?_⟩
  cases hfound : lookup key k t with
  | none => exact absurd hk (lookup_eq_none.mp hfound r hr)
  | some r' =>
    obtain ⟨hr', hk'⟩ := mem_of_lookup hfound
    rw [List.inj_on_of_nodup_map hkeys hr' hr (hk'.trans hk.symm)]

/-- Lookup commutes with an update that keeps the key column. -/
theorem lookup_updateWhere (hkey : ∀ r, key (f r) = key r) :
    lookup key k (updateWhere p f t) =
      (lookup key k t).map fun r => if p r then f r else r := by
  unfold lookup updateWhere
  rw [List.find?_map]
  congr 2
  funext r
  by_cases hp : p r = true <;> simp [hp, hkey]

end Lookup

/-! ### Appending a row with a fresh key -/

theorem nodup_map_append_singleton {key : α → κ} {t : List α} {r : α}
    (ht : (t.map key).Nodup) (hr : ∀ r' ∈ t, key r' ≠ key r) :
    ((t ++ [r]).map key).Nodup := by
  rw [List.map_append, List.map_singleton, List.nodup_append]
  refine ⟨ht, by simp, ?_⟩
  intro a ha b hb hab
  obtain ⟨r', hr', rfl⟩ := List.mem_map.mp ha
  exact hr r' hr' (by rw [hab]; simpa using hb)

/-! ### Replacing the row of a key -/

/-- The table in which `r` is the row of its key. -/
def upsert [DecidableEq κ] (key : α → κ) (r : α) (t : List α) : List α :=
  r :: t.filter fun r' => key r' ≠ key r

theorem lookup_upsert [DecidableEq κ] {key : α → κ} {k : κ} {t : List α} {r : α} :
    lookup key k (upsert key r t) = if key r = k then some r else lookup key k t := by
  unfold lookup upsert
  rw [List.find?_cons]
  by_cases hk : key r = k
  · simp [hk]
  · simp only [hk, decide_false, if_false]
    rw [List.find?_filter]
    congr 1
    funext r'
    by_cases hr' : key r' = k
    · simp [hr', Ne.symm hk]
    · simp [hr']

/-! ### The first row in an order -/

/-- The first row of `t` that no later row precedes: `ORDER BY lt LIMIT 1`. -/
def leastBy (lt : α → α → Bool) : List α → Option α
  | [] => none
  | r :: t =>
    match leastBy lt t with
    | none => some r
    | some r' => if lt r' r then some r' else some r

theorem mem_of_leastBy {lt : α → α → Bool} {t : List α} {r : α} (h : leastBy lt t = some r) :
    r ∈ t := by
  induction t generalizing r with
  | nil => cases h
  | cons r₀ t ih =>
    rw [leastBy] at h
    cases hrest : leastBy lt t with
    | none => simp_all
    | some r' =>
      simp only [hrest] at h
      by_cases hlt : lt r' r₀ = true
      · rw [if_pos hlt] at h
        cases h
        exact List.mem_cons_of_mem _ (ih hrest)
      · rw [if_neg hlt] at h
        cases h
        exact List.mem_cons_self

theorem leastBy_eq_none {lt : α → α → Bool} {t : List α} : leastBy lt t = none ↔ t = [] := by
  cases t with
  | nil => simp [leastBy]
  | cons r t =>
    rw [leastBy]
    cases leastBy lt t with
    | none => simp
    | some r' => by_cases hlt : lt r' r = true <;> simp [hlt]

end Foundation
