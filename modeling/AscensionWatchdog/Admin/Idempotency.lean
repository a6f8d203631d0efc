import AscensionWatchdog.Foundation.Runs
import Mathlib.Data.List.AList

/-!
# The idempotency cache of the admin exchange

The local admin exchange keeps a bounded memory of the commands it was given: a record is *pending*
from the first `begin` of its key, and *complete* once the reconciliation loop has answered. The
records are a map, and a queue of keys says in which order complete records are evicted. Every call
holds one lock, so an interleaving of the threads is a list of calls.

`CacheState.WellFormed` is the invariant that relates the two structures, and `IdempotencyCache` is
a cache that carries it. What a call does to a record is said once, by `lookup_perform_pending` and
`lookup_perform_complete`; everything about runs is derived from these two.
-/

namespace AscensionWatchdog

open Foundation

/-- What is remembered of a key; `ρ` is the type of the responses. -/
inductive CacheRecord (ρ : Type) where
  | pending (fingerprint : String)
  | complete (fingerprint : String) (response : ρ)
  deriving DecidableEq, Repr

/-- The answer to a `begin`. -/
inductive CacheLookup (ρ : Type) where
  | new
  | pending
  | complete (response : ρ)
  | conflict
  deriving DecidableEq, Repr

/-- The records by key, and the keys in the order of their eviction. -/
structure CacheState (ρ : Type) where
  records : AList fun _ : String => CacheRecord ρ
  order : List String

variable {ρ : Type}

namespace CacheState

def empty : CacheState ρ :=
  ⟨∅, []⟩

/-- The number of records. -/
def size (c : CacheState ρ) : Nat :=
  c.records.keys.length

/-- Make room for one record: complete records are evicted from the front of the order, up to the
first pending one. -/
def reserveSlot (capacity : Nat) (records : AList fun _ : String => CacheRecord ρ) :
    List String → Bool × CacheState ρ
  | [] => (decide (records.keys.length < capacity), ⟨records, []⟩)
  | oldest :: rest =>
    if records.keys.length < capacity then (true, ⟨records, oldest :: rest⟩)
    else
      match records.lookup oldest with
      | some (.complete _ _) => reserveSlot capacity (records.erase oldest) rest
      | some (.pending _) => (false, ⟨records, rest ++ [oldest]⟩)
      | none => reserveSlot capacity records rest

/-- The answer about a key that is retained. -/
def answer (fingerprint : String) : CacheRecord ρ → CacheLookup ρ
  | .pending current => if current = fingerprint then .pending else .conflict
  | .complete current response =>
    if current = fingerprint then .complete response else .conflict

def begin (capacity : Nat) (key fingerprint : String) (c : CacheState ρ) :
    CacheLookup ρ × CacheState ρ :=
  match c.records.lookup key with
  | some record => (answer fingerprint record, c)
  | none =>
    match reserveSlot capacity c.records c.order with
    | (false, c') => (.conflict, c')
    | (true, c') => (.new, ⟨c'.records.insert key (.pending fingerprint), c'.order ++ [key]⟩)

def abandon (key fingerprint : String) (c : CacheState ρ) : CacheState ρ :=
  match c.records.lookup key with
  | some (.pending current) =>
    if current = fingerprint then ⟨c.records.erase key, c.order.filter (· != key)⟩ else c
  | _ => c

def complete (key fingerprint : String) (response : ρ) (c : CacheState ρ) : CacheState ρ :=
  match c.records.lookup key with
  | some (.pending current) =>
    if current = fingerprint then
      ⟨c.records.insert key (.complete fingerprint response), c.order⟩
    else c
  | _ => c

end CacheState

/-- A call of the cache. -/
inductive CacheCall (ρ : Type) where
  | begin (key fingerprint : String)
  | abandon (key fingerprint : String)
  | complete (key fingerprint : String) (response : ρ)

namespace CacheState

/-- The state that a call leaves. -/
def perform (capacity : Nat) (call : CacheCall ρ) (c : CacheState ρ) : CacheState ρ :=
  match call with
  | .begin key fingerprint => (c.begin capacity key fingerprint).2
  | .abandon key fingerprint => c.abandon key fingerprint
  | .complete key fingerprint response => c.complete key fingerprint response

/-- The map and the order hold the same keys, and no more than the capacity. -/
structure WellFormed (capacity : Nat) (c : CacheState ρ) : Prop where
  order : c.order.Perm c.records.keys
  size : c.size ≤ capacity

variable {c : CacheState ρ} {capacity : Nat}

theorem WellFormed.nodup (h : c.WellFormed capacity) :
    c.order.Nodup :=
  h.order.nodup_iff.mpr c.records.keys_nodup

theorem WellFormed.mem_order (h : c.WellFormed capacity)
    {key : String} : key ∈ c.order ↔ key ∈ c.records :=
  h.order.mem_iff


theorem wellFormed_empty (capacity : Nat) : (empty : CacheState ρ).WellFormed capacity :=
  ⟨.refl _, Nat.zero_le _⟩

/-! ### Making room -/

/-- Making room evicts complete records only. -/
theorem lookup_reserveSlot (capacity : Nat) (order : List String)
    (records : AList fun _ : String => CacheRecord ρ) (key : String) :
    (reserveSlot capacity records order).2.records.lookup key = records.lookup key ∨
      (reserveSlot capacity records order).2.records.lookup key = none ∧
        ∃ fingerprint response, records.lookup key = some (.complete fingerprint response) := by
  induction order generalizing records with
  | nil => exact .inl rfl
  | cons oldest rest ih =>
    unfold reserveSlot
    split
    · exact .inl rfl
    · split
      next fingerprint response holdest =>
        by_cases hkey : key = oldest
        · subst hkey
          refine .inr ⟨?_, fingerprint, response, holdest⟩
          rcases ih (records.erase key) with h | ⟨h, -⟩
          · rw [h, AList.lookup_erase]
          · exact h
        · have hne := AList.lookup_erase_ne (s := records) hkey
          rw [← hne]
          exact ih (records.erase oldest)
      next => exact .inl rfl
      next => exact ih records

/-- Making room keeps the invariant, and where it succeeds there is room. -/
theorem wellFormed_reserveSlot {order : List String}
    {records : AList fun _ : String => CacheRecord ρ}
    (h : (⟨records, order⟩ : CacheState ρ).WellFormed capacity) :
    (reserveSlot capacity records order).2.WellFormed capacity ∧
      ((reserveSlot capacity records order).1 = true →
        (reserveSlot capacity records order).2.size < capacity) := by
  induction order generalizing records with
  | nil => exact ⟨h, fun hroom => of_decide_eq_true hroom⟩
  | cons oldest rest ih =>
    have hperm : (oldest :: rest).Perm records.keys := h.order
    have hsize : records.keys.length ≤ capacity := h.size
    unfold reserveSlot
    split
    next hroom => exact ⟨h, fun _ => hroom⟩
    next hfull =>
      split
      next =>
        refine ih ⟨?_, ?_⟩
        · have herase := hperm.erase oldest
          rw [List.erase_cons_head] at herase
          rw [AList.keys_erase]
          exact herase
        · have hle := List.length_erase_le (a := oldest) (l := records.keys)
          rw [size, AList.keys_erase]
          omega
      next =>
        refine ⟨⟨?_, hsize⟩, fun hroom => by cases hroom⟩
        exact (List.perm_append_singleton oldest rest).trans hperm
      next hnone =>
        -- a key of the order is one of the records
        have hmem : oldest ∈ records := hperm.mem_iff.mp List.mem_cons_self
        exact absurd hmem (AList.lookup_eq_none.mp hnone)

/-! ### What a call does -/

theorem WellFormed.begin (h : c.WellFormed capacity)
    (key fingerprint : String) : (c.begin capacity key fingerprint).2.WellFormed capacity := by
  unfold CacheState.begin
  split
  · exact h
  next hnone =>
    obtain ⟨hwf, hroom⟩ := wellFormed_reserveSlot h
    have hlookup := lookup_reserveSlot capacity c.order c.records key
    split
    next c' heq =>
      rw [heq] at hwf
      exact hwf
    next c' heq =>
      rw [heq] at hwf hroom hlookup
      have hkey : key ∉ c'.records := by
        rw [← AList.lookup_eq_none]
        rcases hlookup with hsame | ⟨hgone, -⟩
        · exact hsame.trans hnone
        · exact hgone
      have hkeys : (c'.records.insert key (.pending fingerprint)).keys =
          key :: c'.records.keys := by
        rw [AList.keys_insert, List.erase_of_not_mem (mt AList.mem_keys.mpr hkey)]
      refine ⟨?_, ?_⟩
      · rw [hkeys]
        exact (List.perm_append_singleton key c'.order).trans (hwf.order.cons key)
      · have hlt : c'.records.keys.length < capacity := hroom rfl
        rw [CacheState.size, hkeys, List.length_cons]
        omega

theorem WellFormed.abandon (h : c.WellFormed capacity)
    (key fingerprint : String) : (c.abandon key fingerprint).WellFormed capacity := by
  unfold CacheState.abandon
  split
  · split
    · refine ⟨?_, ?_⟩
      · rw [AList.keys_erase, ← h.nodup.erase_eq_filter]
        exact h.order.erase key
      · have hle := List.length_erase_le (a := key) (l := c.records.keys)
        have hsize : c.records.keys.length ≤ capacity := h.size
        rw [CacheState.size, AList.keys_erase]
        omega
    · exact h
  · exact h

theorem WellFormed.complete (h : c.WellFormed capacity)
    (key fingerprint : String) (response : ρ) :
    (c.complete key fingerprint response).WellFormed capacity := by
  unfold CacheState.complete
  split
  next current hpending =>
    split
    · have hmem : key ∈ c.records.keys :=
        AList.mem_keys.mp (AList.lookup_isSome.mp (by rw [hpending]; rfl))
      have hkeys : (c.records.insert key (.complete fingerprint response)).keys.Perm
          c.records.keys := by
        rw [AList.keys_insert]
        exact (List.perm_cons_erase hmem).symm
      refine ⟨h.order.trans hkeys.symm, ?_⟩
      rw [CacheState.size, hkeys.length_eq]
      exact h.size
    · exact h
  · exact h

/-- Every call keeps the invariant. -/
theorem WellFormed.perform (h : c.WellFormed capacity)
    (call : CacheCall ρ) : (c.perform capacity call).WellFormed capacity := by
  cases call with
  | begin key fingerprint => exact h.begin key fingerprint
  | abandon key fingerprint => exact h.abandon key fingerprint
  | complete key fingerprint response => exact h.complete key fingerprint response

/-- A `begin` keeps the record of a retained key, or evicts it for another key. -/
theorem lookup_begin {key : String} {record : CacheRecord ρ}
    (h : c.records.lookup key = some record) (capacity : Nat) (other fingerprint : String) :
    (c.begin capacity other fingerprint).2.records.lookup key = some record ∨
      (c.begin capacity other fingerprint).2.records.lookup key = none ∧
        other ≠ key ∧ ∃ fp response, record = .complete fp response := by
  unfold CacheState.begin
  split
  · exact .inl h
  next hnone =>
    have hne : key ≠ other := by
      rintro rfl
      rw [h] at hnone
      cases hnone
    have hlookup : (reserveSlot capacity c.records c.order).2.records.lookup key = some record ∨
        (reserveSlot capacity c.records c.order).2.records.lookup key = none ∧
          other ≠ key ∧ ∃ fp response, record = .complete fp response := by
      rcases lookup_reserveSlot capacity c.order c.records key with
        hsame | ⟨hgone, fp, response, hrecord⟩
      · exact .inl (hsame.trans h)
      · rw [h, Option.some.injEq] at hrecord
        exact .inr ⟨hgone, hne.symm, fp, response, hrecord⟩
    split
    next c' heq =>
      rw [heq] at hlookup
      exact hlookup
    next c' heq =>
      rw [heq] at hlookup
      simp only [AList.lookup_insert_ne hne]
      exact hlookup

/-- An `abandon` removes the matching pending record and nothing else. -/
theorem lookup_abandon (c : CacheState ρ) (key other fingerprint : String) :
    (c.abandon other fingerprint).records.lookup key = c.records.lookup key ∨
      other = key ∧ c.records.lookup key = some (.pending fingerprint) ∧
        (c.abandon other fingerprint).records.lookup key = none := by
  unfold CacheState.abandon
  split
  next current hpending =>
    split
    next hfp =>
      subst hfp
      by_cases hkey : key = other
      · subst hkey
        exact .inr ⟨rfl, hpending, AList.lookup_erase _ _⟩
      · exact .inl (AList.lookup_erase_ne hkey)
    next => exact .inl rfl
  next => exact .inl rfl

/-- A `complete` completes the matching pending record and nothing else. -/
theorem lookup_complete (c : CacheState ρ) (key other fingerprint : String) (response : ρ) :
    (c.complete other fingerprint response).records.lookup key = c.records.lookup key ∨
      other = key ∧ c.records.lookup key = some (.pending fingerprint) ∧
        (c.complete other fingerprint response).records.lookup key =
          some (.complete fingerprint response) := by
  unfold CacheState.complete
  split
  next current hpending =>
    split
    next hfp =>
      subst hfp
      by_cases hkey : key = other
      · subst hkey
        exact .inr ⟨rfl, hpending, AList.lookup_insert _⟩
      · exact .inl (AList.lookup_insert_ne hkey)
    next => exact .inl rfl
  next => exact .inl rfl

/-- A pending record stays, or is completed by the matching `complete`, or is removed by the
matching `abandon`. -/
theorem lookup_perform_pending {key fingerprint : String}
    (h : c.records.lookup key = some (.pending fingerprint)) (capacity : Nat)
    (call : CacheCall ρ) :
    (c.perform capacity call).records.lookup key = some (.pending fingerprint) ∨
      (∃ response, call = .complete key fingerprint response ∧
        (c.perform capacity call).records.lookup key = some (.complete fingerprint response)) ∨
      call = .abandon key fingerprint ∧ (c.perform capacity call).records.lookup key = none := by
  cases call with
  | begin other fp =>
    rcases lookup_begin h capacity other fp with
      hsame | ⟨-, -, fp', response, hrecord⟩
    · exact .inl hsame
    · cases hrecord
  | abandon other fp =>
    rcases lookup_abandon c key other fp with hsame | ⟨rfl, hpending, hgone⟩
    · exact .inl (hsame.trans h)
    · rw [h] at hpending
      cases hpending
      exact .inr (.inr ⟨rfl, hgone⟩)
  | complete other fp response =>
    rcases lookup_complete c key other fp response with hsame | ⟨rfl, hpending, hdone⟩
    · exact .inl (hsame.trans h)
    · rw [h] at hpending
      cases hpending
      exact .inr (.inl ⟨response, rfl, hdone⟩)

/-- A complete record stays as it is, or is evicted by the `begin` of another key. -/
theorem lookup_perform_complete {key fingerprint : String}
    {response : ρ} (h : c.records.lookup key = some (.complete fingerprint response))
    (capacity : Nat) (call : CacheCall ρ) :
    (c.perform capacity call).records.lookup key = some (.complete fingerprint response) ∨
      (∃ other fp, call = .begin other fp ∧ other ≠ key) ∧
        (c.perform capacity call).records.lookup key = none := by
  cases call with
  | begin other fp =>
    rcases lookup_begin h capacity other fp with
      hsame | ⟨hgone, hne, -⟩
    · exact .inl hsame
    · exact .inr ⟨⟨other, fp, rfl, hne⟩, hgone⟩
  | abandon other fp =>
    rcases lookup_abandon c key other fp with hsame | ⟨-, hpending, -⟩
    · exact .inl (hsame.trans h)
    · rw [h] at hpending
      cases hpending
  | complete other fp response' =>
    rcases lookup_complete c key other fp response' with hsame | ⟨-, hpending, -⟩
    · exact .inl (hsame.trans h)
    · rw [h] at hpending
      cases hpending

end CacheState

end AscensionWatchdog
