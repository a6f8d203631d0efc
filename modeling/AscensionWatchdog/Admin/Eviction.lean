import AscensionWatchdog.Admin.Idempotency

/-!
# Eviction from the idempotency cache

A full cache makes room for a new key by evicting from the front of its order. A pending record
at the front stops this: it is moved to the back of the order and the new key is refused, also
when complete records are behind it. From then on the order is no longer the order of admission,
so that a later eviction need not take the oldest complete record either.

The **ages** of a history are the retained keys in the order of their admission. The cache evicts
the oldest complete record, and refuses a key only when all records are pending, exactly where the
oldest complete record is at the front of the order (`begin_evicts_oldest_iff`).
-/

namespace AscensionWatchdog

open Foundation

variable {ρ : Type} {capacity : Nat}

/-- Whether the record of a key is retained and complete. -/
def CacheState.isComplete (c : CacheState ρ) (key : String) : Bool :=
  match c.records.lookup key with
  | some (.complete _ _) => true
  | _ => false

theorem CacheState.isComplete_iff {c : CacheState ρ} {key : String} :
    c.isComplete key = true ↔
      ∃ fingerprint response, c.records.lookup key = some (.complete fingerprint response) := by
  unfold CacheState.isComplete
  split
  next fingerprint response heq => simp [heq]
  next hne =>
    simp only [Bool.false_eq_true, false_iff, not_exists]
    exact fun fingerprint response heq => hne fingerprint response heq

/-- The key that a call names. -/
def CacheCall.key : CacheCall ρ → String
  | .begin key _ => key
  | .abandon key _ => key
  | .complete key _ _ => key

/-- A call retains no key but the one that it names. -/
theorem CacheState.lookup_perform_eq_none {c : CacheState ρ} {call : CacheCall ρ} {key : String}
    (h : c.records.lookup key = none) (hkey : key ≠ call.key) :
    (c.perform capacity call).records.lookup key = none := by
  cases call with
  | begin other fingerprint =>
    have hreserved : (reserveSlot capacity c.records c.order).2.records.lookup key = none := by
      rcases lookup_reserveSlot capacity c.order c.records key with hsame | ⟨hgone, -⟩
      · exact hsame.trans h
      · exact hgone
    simp only [perform, CacheState.begin]
    split
    · exact h
    · split
      next c' heq =>
        rw [heq] at hreserved
        exact hreserved
      next c' heq =>
        rw [heq] at hreserved
        exact (AList.lookup_insert_ne hkey).trans hreserved
  | abandon other fingerprint =>
    rcases lookup_abandon c key other fingerprint with hsame | ⟨rfl, -⟩
    · exact hsame.trans h
    · exact absurd rfl hkey
  | complete other fingerprint response =>
    rcases lookup_complete c key other fingerprint response with hsame | ⟨rfl, -⟩
    · exact hsame.trans h
    · exact absurd rfl hkey

/-- A cache with the retained keys in the order of their admission. -/
structure AgedCache (ρ : Type) where
  cache : CacheState ρ
  ages : List String

namespace AgedCache

def empty : AgedCache ρ :=
  ⟨.empty, []⟩

/-- A key gets its age when it is first retained, and loses it when it is not retained. -/
def perform (capacity : Nat) (call : CacheCall ρ) (a : AgedCache ρ) : AgedCache ρ where
  cache := a.cache.perform capacity call
  ages := (a.ages ++ if call.key ∈ a.ages then [] else [call.key]).filter fun key =>
    ((a.cache.perform capacity call).records.lookup key).isSome

/-- The complete record that was admitted first. -/
def oldestComplete (a : AgedCache ρ) : Option String :=
  a.ages.find? a.cache.isComplete

/-- The cache keeps its invariant, and the ages are those of the retained keys. -/
structure WellFormed (capacity : Nat) (a : AgedCache ρ) : Prop where
  cache : a.cache.WellFormed capacity
  ages : ∀ key, key ∈ a.ages ↔ (a.cache.records.lookup key).isSome = true

theorem WellFormed.perform {a : AgedCache ρ} (h : a.WellFormed capacity) (call : CacheCall ρ) :
    (a.perform capacity call).WellFormed capacity := by
  refine ⟨h.cache.perform call, fun key => ?_⟩
  simp only [AgedCache.perform, List.mem_filter, and_iff_right_iff_imp]
  intro hafter
  -- a retained key was retained before, or it is the one of the call
  by_cases hkey : key = call.key
  · subst hkey
    by_cases hmem : call.key ∈ a.ages <;> simp [hmem]
  · refine List.mem_append_left _ ((h.ages key).mpr ?_)
    by_contra hnone
    rw [Bool.not_eq_true, Option.isSome_eq_false_iff, Option.isNone_iff_eq_none] at hnone
    rw [CacheState.lookup_perform_eq_none hnone hkey] at hafter
    cases hafter

/-- The cache after a history of calls. -/
def after (capacity : Nat) (calls : List (CacheCall ρ)) : AgedCache ρ :=
  run (AgedCache.perform capacity) empty calls

theorem wellFormed_after (calls : List (CacheCall ρ)) :
    (after capacity calls : AgedCache ρ).WellFormed capacity := by
  refine run_invariant (P := WellFormed capacity) (fun call _ h => h.perform call)
    ⟨?_, fun key => ?_⟩ calls
  · exact CacheState.wellFormed_empty capacity
  · simp [empty, CacheState.empty]

/-- Where a complete record is retained, there is an oldest one. -/
theorem WellFormed.oldestComplete_isSome {a : AgedCache ρ} (h : a.WellFormed capacity)
    {key : String} (hkey : a.cache.isComplete key = true) : a.oldestComplete.isSome = true := by
  obtain ⟨fingerprint, response, hlookup⟩ := CacheState.isComplete_iff.mp hkey
  have hmem : key ∈ a.ages := (h.ages key).mpr (by rw [hlookup]; rfl)
  rw [oldestComplete, List.find?_isSome]
  exact ⟨key, hmem, hkey⟩

end AgedCache

/-! ### The begin of a key that is not retained -/

namespace CacheState

variable {c : CacheState ρ} {key : String}

theorem begin_of_room (hkey : c.records.lookup key = none) (hroom : c.size < capacity)
    (fingerprint : String) :
    c.begin capacity key fingerprint =
      (.new, ⟨c.records.insert key (.pending fingerprint), c.order ++ [key]⟩) := by
  have hlt : c.records.keys.length < capacity := hroom
  have hreserve : reserveSlot capacity c.records c.order = (true, c) := by
    cases horder : c.order with
    | nil => simp [reserveSlot, hlt, ← horder]
    | cons oldest rest => rw [reserveSlot, if_pos hlt, ← horder]
  rw [CacheState.begin]
  simp only [hkey, hreserve]

/-- A full cache evicts the record at the front of the order if it is complete, and refuses the
key otherwise. -/
theorem begin_of_full (h : c.WellFormed capacity) (hkey : c.records.lookup key = none)
    (hfull : capacity ≤ c.size) (fingerprint : String) {front : String} {rest : List String}
    (horder : c.order = front :: rest) :
    c.begin capacity key fingerprint =
      if c.isComplete front then
        (.new, ⟨(c.records.erase front).insert key (.pending fingerprint), rest ++ [key]⟩)
      else (.conflict, ⟨c.records, rest ++ [front]⟩) := by
  have hnot : ¬ c.records.keys.length < capacity := Nat.not_lt.mpr hfull
  have hmem : front ∈ c.records.keys := h.order.mem_iff.mp (by rw [horder]; exact List.mem_cons_self)
  have hlength := List.length_erase_of_mem hmem
  have hpos := List.length_pos_of_mem hmem
  have hsize : c.records.keys.length ≤ capacity := h.size
  rw [CacheState.begin, isComplete]
  simp only [hkey, horder, reserveSlot, if_neg hnot]
  cases hfront : c.records.lookup front with
  | none => exact absurd (AList.mem_keys.mpr hmem) (AList.lookup_eq_none.mp hfront)
  | some record =>
    cases record with
    | pending current => simp
    | complete current response =>
      have hlt : (c.records.erase front).keys.length < capacity := by
        rw [AList.keys_erase]
        omega
      have hreserve : reserveSlot capacity (c.records.erase front) rest =
          (true, ⟨c.records.erase front, rest⟩) := by
        cases rest with
        | nil => rw [reserveSlot, decide_eq_true hlt]
        | cons next rest => rw [reserveSlot, if_pos hlt]
      simp only [hreserve, if_true]

end CacheState

/-! ### Eviction of the oldest complete record -/

namespace AgedCache

/-- What is expected of the begin of a key that is not retained: it is refused only when every
retained record is pending, and in a full cache with a complete record it evicts the oldest one
and admits the key. -/
structure EvictsOldest (capacity : Nat) (key fingerprint : String) (a : AgedCache ρ) : Prop where
  refuses : (a.cache.begin capacity key fingerprint).1 = .conflict →
    ∀ other, a.cache.isComplete other = false
  evicts : capacity ≤ a.cache.size → ∀ oldest, a.oldestComplete = some oldest →
    (a.cache.begin capacity key fingerprint).1 = .new ∧
      (a.cache.begin capacity key fingerprint).2.records =
        (a.cache.records.erase oldest).insert key (.pending fingerprint)

/-- In a full cache the oldest complete record is at the front of the order. -/
def OldestAtFront (capacity : Nat) (a : AgedCache ρ) : Prop :=
  capacity ≤ a.cache.size → ∀ oldest, a.oldestComplete = some oldest →
    a.cache.order.head? = some oldest

theorem isComplete_oldestComplete {a : AgedCache ρ} {oldest : String}
    (h : a.oldestComplete = some oldest) : a.cache.isComplete oldest = true :=
  List.find?_some h

/-- A retained record means that the order is not empty. -/
theorem WellFormed.exists_front {a : AgedCache ρ} (h : a.WellFormed capacity) {oldest : String}
    (holdest : a.oldestComplete = some oldest) : ∃ front rest, a.cache.order = front :: rest := by
  have hmem : oldest ∈ a.ages := List.mem_of_find?_eq_some holdest
  have hretained : oldest ∈ a.cache.order := by
    rw [h.cache.mem_order, ← AList.lookup_isSome]
    exact (h.ages oldest).mp hmem
  exact List.exists_cons_of_ne_nil (List.ne_nil_of_mem hretained)

/-- In every state that calls of the cache lead to, the begin of a key that is not retained does
what is expected of it exactly if the oldest complete record is at the front of the order, where
the cache is full and has one. -/
theorem begin_evicts_oldest_iff (calls : List (CacheCall ρ)) (key fingerprint : String)
    (hkey : (after capacity calls : AgedCache ρ).cache.records.lookup key = none) :
    EvictsOldest capacity key fingerprint (after capacity calls : AgedCache ρ) ↔
      OldestAtFront capacity (after capacity calls : AgedCache ρ) := by
  have hwf : (after capacity calls : AgedCache ρ).WellFormed capacity := wellFormed_after calls
  generalize (after capacity calls : AgedCache ρ) = a at hkey hwf
  constructor
  · intro h hfull oldest holdest
    obtain ⟨front, rest, horder⟩ := hwf.exists_front holdest
    obtain ⟨hnew, hrecords⟩ := h.evicts hfull oldest holdest
    rw [CacheState.begin_of_full hwf.cache hkey hfull fingerprint horder] at hnew hrecords
    have hcomplete : a.cache.isComplete front = true := by
      by_contra hpending
      rw [if_neg hpending] at hnew
      cases hnew
    rw [if_pos hcomplete] at hrecords
    -- the record that is gone is the oldest one, so it is the one at the front
    have hne : oldest ≠ key := by
      rintro rfl
      obtain ⟨fp, response, hlookup⟩ :=
        CacheState.isComplete_iff.mp (isComplete_oldestComplete holdest)
      rw [hkey] at hlookup
      cases hlookup
    have hgone := congrArg (AList.lookup oldest) hrecords
    rw [AList.lookup_insert_ne hne, AList.lookup_insert_ne hne, AList.lookup_erase] at hgone
    have hfront : oldest = front := by
      by_contra hdiffer
      rw [AList.lookup_erase_ne hdiffer] at hgone
      obtain ⟨fp, response, hlookup⟩ :=
        CacheState.isComplete_iff.mp (isComplete_oldestComplete holdest)
      rw [hgone] at hlookup
      cases hlookup
    rw [horder, hfront]
    rfl
  · intro hfront
    have hbegin (hfull : capacity ≤ a.cache.size) (oldest : String)
        (holdest : a.oldestComplete = some oldest) :
        ∃ order, a.cache.begin capacity key fingerprint =
          (.new, ⟨(a.cache.records.erase oldest).insert key (.pending fingerprint), order⟩) := by
      obtain ⟨front, rest, horder⟩ := hwf.exists_front holdest
      have heq := hfront hfull oldest holdest
      rw [horder, List.head?_cons, Option.some.injEq] at heq
      subst heq
      rw [CacheState.begin_of_full hwf.cache hkey hfull fingerprint horder,
        if_pos (isComplete_oldestComplete holdest)]
      exact ⟨_, rfl⟩
    refine ⟨fun hconflict other => ?_, fun hfull oldest holdest => ?_⟩
    · by_contra hcomplete
      rw [Bool.not_eq_false] at hcomplete
      obtain ⟨oldest, holdest⟩ := Option.isSome_iff_exists.mp (hwf.oldestComplete_isSome hcomplete)
      rcases Nat.lt_or_ge a.cache.size capacity with hroom | hfull
      · rw [CacheState.begin_of_room hkey hroom] at hconflict
        cases hconflict
      · obtain ⟨order, heq⟩ := hbegin hfull oldest holdest
        rw [heq] at hconflict
        cases hconflict
    · obtain ⟨order, heq⟩ := hbegin hfull oldest holdest
      rw [heq]
      exact ⟨rfl, rfl⟩

/-- Two keys are begun and the second one is completed. -/
def sampleCalls : List (CacheCall Unit) :=
  [.begin "a" "f", .begin "b" "f", .complete "b" "f" ()]

/-- A full cache refuses a key although one of its records is complete. -/
theorem refused_with_complete_record :
    (((after 2 sampleCalls).cache.begin 2 "c" "f").1 = .conflict ∧
      (after 2 sampleCalls).cache.isComplete "b" = true) ∧
      ¬ EvictsOldest 2 "c" "f" (after 2 sampleCalls) := by
  have hrun : ((after 2 sampleCalls).cache.begin 2 "c" "f").1 = .conflict ∧
      (after 2 sampleCalls).cache.isComplete "b" = true := by decide +kernel
  refine ⟨hrun, fun h => ?_⟩
  have hpending := h.refuses hrun.1 "b"
  rw [hrun.2] at hpending
  cases hpending

/-- With the first key completed, it is evicted for the new one. -/
theorem begin_evicts_oldest_iff_completed :
    EvictsOldest 2 "c" "f" (after 2 [.begin "a" "f", .begin "b" "f", .complete "a" "f" ()]) := by
  refine (begin_evicts_oldest_iff _ "c" "f" (by decide +kernel)).mpr fun _ oldest holdest => ?_
  have hfront : (after 2 [.begin "a" "f", .begin "b" "f", .complete "a" "f" ()] :
      AgedCache Unit).oldestComplete = (after 2 [.begin "a" "f", .begin "b" "f",
        .complete "a" "f" ()] : AgedCache Unit).cache.order.head? := by decide +kernel
  rw [← hfront, holdest]

end AgedCache

end AscensionWatchdog
