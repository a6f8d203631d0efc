import Mathlib

/-!
# Checked computations and transactions

A routine that validates its arguments and reads before it writes is an `Except` computation
that threads the state it may change. This file collects what proofs about such routines need:

* `ensure` is the guard of a checked routine, `orError` the lookup that must succeed;
* `bind_eq_ok` opens a computation that returned: every prefix of it returned;
* `Yields P x` says that `P` holds of whatever `x` returns; with `commit_leaves` this is how a
  transaction is shown to leave a part of the state alone;
* `commit` runs a routine as one **atomic transaction**: the state is replaced when the
  routine returns and kept when it fails.

Proofs about a routine never unfold the monad: they peel it with `bind_eq_ok`, one `obtain`
for each line of the routine.
-/

namespace Foundation

variable {ε α β σ : Type}

/-- The guard of a checked routine: go on when `c` holds, fail with `e` otherwise. -/
def ensure (c : Prop) [Decidable c] (e : ε) : Except ε Unit :=
  if c then .ok () else .error e

/-- A lookup that must succeed: the found value, or the error `e`. -/
def orError (o : Option α) (e : ε) : Except ε α :=
  match o with
  | some a => .ok a
  | none => .error e

variable {a : α}

/-- A call that answered, with the state it left. (For a call on closed terms, `Prod.ext` would make
the kernel evaluate it.) -/
theorem eq_ok_of_fst {call : Except ε α × σ} (h : call.1 = .ok a) :
    call = (.ok a, call.2) :=
  Prod.ext h rfl

@[simp]
theorem ensure_eq_ok {c : Prop} [Decidable c] {e : ε} {u : Unit} :
    ensure c e = .ok u ↔ c := by
  unfold ensure
  split <;> simp_all

@[simp]
theorem orError_eq_ok {o : Option α} {e : ε} : orError o e = .ok a ↔ o = some a := by
  cases o <;> simp [orError]

variable {f : α → Except ε β} {x : Except ε α} {b : β}

/-- A computation that returned: its first part returned and so did the rest. -/
theorem bind_eq_ok :
    (x >>= f) = .ok b ↔ ∃ a, x = .ok a ∧ f a = .ok b := by
  cases x <;> simp [bind, Except.bind]

/-- A computation returns when its first part returns and the rest does. -/
theorem exists_bind_eq_ok (hx : x = .ok a)
    (hf : ∃ b, f a = .ok b) : ∃ b, (x >>= f) = .ok b := by
  obtain ⟨b, hb⟩ := hf
  exact ⟨b, bind_eq_ok.mpr ⟨a, hx, hb⟩⟩

theorem pure_eq_ok {a b : α} : (pure a : Except ε α) = .ok b ↔ a = b := by
  simp [pure, Except.pure]

/-- A check and what follows it: the sequencing form of `bind_eq_ok`. -/
theorem check_bind_eq_ok {x : Except ε Unit} {f : Unit → Except ε β} :
    (x >>= f) = .ok b ↔ x = .ok () ∧ f () = .ok b := by
  rw [bind_eq_ok]
  constructor
  · rintro ⟨⟨⟩, hx, hf⟩
    exact ⟨hx, hf⟩
  · rintro ⟨hx, hf⟩
    exact ⟨(), hx, hf⟩

/-- What follows a check that passed. -/
theorem bind_passed {x : Except ε Unit} {f : Unit → Except ε β} (h : (x >>= f) = .ok b) :
    f () = .ok b :=
  (check_bind_eq_ok.mp h).2

theorem ensure_bind_eq_ok {c : Prop} [Decidable c] {e : ε} {f : Unit → Except ε β} :
    (ensure c e >>= f) = .ok b ↔ c ∧ f () = .ok b := by
  rw [check_bind_eq_ok, ensure_eq_ok]

/-- A part that returns one value only, when it returns. -/
theorem bind_of_iff {c : Prop} {v : α} (hx : ∀ {a}, x = .ok a ↔ c ∧ v = a) :
    (x >>= f) = .ok b ↔ c ∧ f v = .ok b := by
  rw [bind_eq_ok]
  constructor
  · rintro ⟨a, ha, hf⟩
    obtain ⟨hc, rfl⟩ := hx.mp ha
    exact ⟨hc, hf⟩
  · rintro ⟨hc, hf⟩
    exact ⟨v, hx.mpr ⟨hc, rfl⟩, hf⟩

theorem bind_only {c : Prop} {v : α} (hx : ∀ {a}, x = .ok a ↔ c ∧ v = a)
    (h : (x >>= f) = .ok b) : f v = .ok b :=
  ((bind_of_iff hx).mp h).2

theorem orError_bind {o : Option α} {e : ε} :
    (orError o e >>= f) = .ok b ↔ ∃ a, o = some a ∧ f a = .ok b := by
  simp only [bind_eq_ok, orError_eq_ok]

/-- A lookup that must succeed, after a check. -/
theorem check_lookup_eq_ok {x : Except ε Unit} {o : Option α} {e : ε} :
    (x >>= fun _ => orError o e >>= f) = .ok b ↔ x = .ok () ∧ ∃ a, o = some a ∧ f a = .ok b := by
  rw [check_bind_eq_ok, orError_bind]

/-- Run a check on every element, in order, up to the first that fails. -/
def forEach (check : α → Except ε Unit) : List α → Except ε Unit
  | [] => .ok ()
  | a :: as => do
    check a
    forEach check as

theorem forEach_eq_ok {check : α → Except ε Unit} {as : List α} {u : Unit} :
    forEach check as = .ok u ↔ ∀ a ∈ as, check a = .ok () := by
  induction as with
  | nil => simp [forEach]
  | cons a as ih =>
    rw [forEach, bind_eq_ok, List.forall_mem_cons, ← ih]
    constructor
    · rintro ⟨⟨⟩, ha, has⟩
      exact ⟨ha, has⟩
    · rintro ⟨ha, has⟩
      exact ⟨(), ha, has⟩

/-- A check whose error is reported by another layer. -/
theorem mapError_eq_ok {ε' : Type} {f : ε → ε'} :
    x.mapError f = .ok a ↔ x = .ok a := by
  cases x <;> simp [Except.mapError]

/-- A fallible map over a lookup that answered. -/
theorem mapM_eq_ok_some {o : Option α} :
    o.mapM f = .ok (some b) ↔ ∃ a, o = some a ∧ f a = .ok b := by
  cases o with
  | none => simp [Option.mapM_none, pure_eq_ok]
  | some a =>
    rw [Option.mapM_some, map_eq_pure_bind, bind_eq_ok]
    simp [pure_eq_ok]

/-! ### What a computation yields -/

/-- Whatever the computation returns satisfies `P`. -/
def Yields (P : α → Prop) (x : Except ε α) : Prop :=
  ∀ a, x = .ok a → P a

section Yields

variable {P : β → Prop} {Q : α → Prop}

theorem Yields.pure (h : P b) : Yields P (pure b : Except ε β) := by
  intro b' hb'
  rw [pure_eq_ok] at hb'
  exact hb' ▸ h

theorem Yields.error {e : ε} : Yields P (.error e) :=
  fun _ h => by cases h

theorem Yields.bind (hx : Yields Q x)
    (hf : ∀ a, Q a → Yields P (f a)) : Yields P (x >>= f) := by
  intro b hb
  obtain ⟨a, ha, hfa⟩ := bind_eq_ok.mp hb
  exact hf a (hx a ha) b hfa

/-- What a check returns does not matter. -/
theorem Yields.check (hf : ∀ a, Yields P (f a)) :
    Yields P (x >>= f) :=
  .bind (Q := fun _ => True) (fun _ _ => trivial) fun a _ => hf a

end Yields

/-! ### Atomic transactions -/

/-- Run a routine as one atomic transaction on `s`: its writes are kept when it returns and
rolled back when it fails. -/
def commit (s : σ) (routine : Except ε (α × σ)) : Except ε α × σ :=
  match routine with
  | .ok (a, s') => (.ok a, s')
  | .error e => (.error e, s)

@[simp]
theorem commit_ok (s s' : σ) (a : α) :
    commit (ε := ε) s (.ok (a, s')) = (.ok a, s') :=
  rfl

@[simp]
theorem commit_error (s : σ) (e : ε) :
    commit (α := α) s (.error e) = (.error e, s) :=
  rfl

/-- The state after a transaction: either it returned and the state is the one it computed,
or it failed and the state is the one it started from. -/
theorem commit_cases (s : σ) (routine : Except ε (α × σ)) :
    (∃ a s', routine = .ok (a, s') ∧ commit s routine = (.ok a, s')) ∨
      ∃ e, routine = .error e ∧ commit s routine = (.error e, s) := by
  match routine with
  | .ok (a, s') => exact .inl ⟨a, s', rfl, rfl⟩
  | .error e => exact .inr ⟨e, rfl, rfl⟩

variable {routine : Except ε (α × σ)}

/-- A relation that holds of the writes of a routine and of standing still holds of the whole
transaction. -/
theorem commit_induction {R : σ → σ → Prop} {s : σ}
    (hrefl : R s s) (hok : ∀ a s', routine = .ok (a, s') → R s s') :
    R s (commit s routine).2 := by
  rcases commit_cases s routine with ⟨a, s', hr, hc⟩ | ⟨e, -, hc⟩
  · rw [hc]
    exact hok a s' hr
  · rw [hc]
    exact hrefl

/-- A transaction that answered `a` computed the state it left. -/
theorem commit_eq_ok {s s' : σ} :
    commit s routine = (.ok a, s') ↔ routine = .ok (a, s') := by
  rcases commit_cases s routine with ⟨b, t, hr, hc⟩ | ⟨e, hr, hc⟩
  · rw [hc, hr]
    simp
  · rw [hc, hr]
    simp

/-- A part of the state that the routine leaves alone. -/
theorem commit_leaves {κ : Type} {f : σ → κ} {s : σ}
    (h : Yields (fun r => f r.2 = f s) routine) : f (commit s routine).2 = f s :=
  commit_induction (R := fun s s' => f s' = f s) rfl fun a s' hok => h (a, s') hok

/-- Run a routine as one atomic transaction and then read the answer from the state that was
committed: the read may fail without undoing the transaction. -/
def commitThen (s : σ) (routine : Except ε (α × σ)) (read : α → σ → Except ε β) :
    Except ε β × σ :=
  match routine with
  | .ok (a, s') => (read a s', s')
  | .error e => (.error e, s)

@[simp]
theorem commitThen_snd (s : σ) (routine : Except ε (α × σ)) (read : α → σ → Except ε β) :
    (commitThen s routine read).2 = (commit s routine).2 := by
  rcases routine with _ | ⟨a, s'⟩ <;> rfl

/-- A transaction with a read after it that answered: the routine returned, and so did the
read. -/
theorem commitThen_eq_ok {s s' : σ}
    {read : α → σ → Except ε β} :
    commitThen s routine read = (.ok b, s') ↔
      ∃ a, routine = .ok (a, s') ∧ read a s' = .ok b := by
  rcases routine with e | ⟨a, t⟩
  · simp [commitThen]
  · simp only [commitThen, Prod.mk.injEq, Except.ok.injEq]
    constructor
    · rintro ⟨hread, rfl⟩
      exact ⟨a, ⟨rfl, rfl⟩, hread⟩
    · rintro ⟨a', ⟨rfl, rfl⟩, hread⟩
      exact ⟨hread, rfl⟩

end Foundation
