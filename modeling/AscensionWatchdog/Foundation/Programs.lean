import Mathlib.Order.Defs.Unbundled

/-!
# Programs that may be interrupted

A **program** on states `σ` answers, fails with an error, or is interrupted: the machine it runs
on stops between two of its steps, and what it wrote until then stays written. `attempt` turns
the error of a program into a value, which is how a caller looks at the result of a call instead
of passing its error on.

Three kinds of statements about a program are used:

* `bind_eq_ok` opens a program that answered: every part of it answered;
* `Triple I P m Q`: from states with `I` and `P` the program keeps `I`, however it ends, and
  where it answers, `Q` holds. What has to hold when the machine stops is the invariant `I`.
* `Keeps R m`: the states before and after are related by `R`, however the program ends. With a
  preorder `R` this is closed under composition, and it gives the triples whose assertions do
  not see what `R` allows to change (`Keeps.triple`).
-/

namespace Foundation

/-- A program on states `σ` with errors `ε`: its answer or its error, or `none` where it was
interrupted, and the state that it leaves. -/
def Program (σ ε α : Type) : Type :=
  σ → Option (Except ε α) × σ

namespace Program

variable {σ ε ε' ι α β : Type}

instance : Monad (Program σ ε) where
  pure a := fun s => (some (.ok a), s)
  bind m f := fun s =>
    match m s with
    | (some (.ok a), s') => f a s'
    | (some (.error e), s') => (some (.error e), s')
    | (none, s') => (none, s')

instance : LawfulMonad (Program σ ε) := by
  refine LawfulMonad.mk' _ (fun m => ?_) (fun _ _ => rfl) fun m f g => ?_
  · funext s
    simp only [Functor.map, Function.comp, id]
    split <;> simp_all
  · funext s
    simp only [Bind.bind]
    rcases m s with ⟨_ | ⟨_ | _⟩, s'⟩ <;> rfl

/-- Fail with an error. -/
def fail (e : ε) : Program σ ε α :=
  fun s => (some (.error e), s)

/-- The machine stops. -/
def interrupt : Program σ ε α :=
  fun s => (none, s)

/-- An answer or an error that is known already. -/
def ofExcept : Except ε α → Program σ ε α
  | .ok a => pure a
  | .error e => fail e

/-- Take the error of a program as a value. -/
def attempt (m : Program σ ε α) : Program σ ε' (Except ε α) := fun s =>
  match m s with
  | (some r, s') => (some (.ok r), s')
  | (none, s') => (none, s')

/-- Report the error of a program as one of another layer. -/
def mapError (f : ε → ε') (m : Program σ ε α) : Program σ ε' α := fun s =>
  match m s with
  | (some r, s') => (some (r.mapError f), s')
  | (none, s') => (none, s')

def gets (f : σ → α) : Program σ ε α :=
  fun s => (some (.ok (f s)), s)

def modify (f : σ → σ) : Program σ ε Unit :=
  fun s => (some (.ok ()), f s)

/-- Run a program on every element, up to the first on which it fails. -/
def forEach (body : ι → Program σ ε Unit) : List ι → Program σ ε Unit
  | [] => pure ()
  | a :: as => do
    body a
    forEach body as

/-- Run a program on the value, where there is one. -/
def forSome (body : ι → Program σ ε Unit) : Option ι → Program σ ε Unit
  | none => pure ()
  | some a => body a

/-! ### Programs that answered -/

variable {r : Except ε α} {g : σ → α}

section Answers

variable {m : Program σ ε α} {f : α → Program σ ε β} {a : α} {b : β} {e : ε} {s t s' : σ}

/-- A program that answered: its first part answered and so did the rest. -/
theorem bind_eq_ok : (m >>= f) s = (some (.ok b), s') ↔
    ∃ a t, m s = (some (.ok a), t) ∧ f a t = (some (.ok b), s') := by
  simp only [Bind.bind]
  split
  next a t heq =>
    rw [heq]
    constructor
    · exact fun h => ⟨a, t, rfl, h⟩
    · rintro ⟨a', t', h, h'⟩
      cases h
      exact h'
  next e t heq => simp [heq]
  next t heq => simp [heq]

/-- What follows a part that answered. -/
theorem bind_of_ok (h : m s = (some (.ok a), t)) : (m >>= f) s = f a t := by
  simp [Bind.bind, h]

theorem bind_of_error (h : m s = (some (.error e), t)) : (m >>= f) s = (some (.error e), t) := by
  simp [Bind.bind, h]

/-- Every end of a composition: the rest ends, or the first part did not answer, and neither does
the whole. -/
theorem bind_ends {E : Option (Except ε β) → σ → Prop}
    (hok : ∀ a t, m s = (some (.ok a), t) → E (f a t).1 (f a t).2)
    (hend : ∀ r, (∀ a, (m s).1 ≠ some (.ok a)) → (∀ b, r ≠ some (.ok b)) → E r (m s).2) :
    E ((m >>= f) s).1 ((m >>= f) s).2 := by
  simp only [Bind.bind]
  split
  next a t heq => exact hok a t heq
  all_goals
    next heq =>
      rw [heq] at hend
      exact hend _ (by simp) (by simp)

theorem gets_bind_apply {f : α → Program σ ε β} : (gets g >>= f) s = f (g s) s :=
  rfl

theorem attempt_snd : (attempt m s : Option (Except ε' _) × σ).2 = (m s).2 := by
  unfold attempt
  split <;> simp [*]

theorem mapError_snd {g : ε → ε'} : (mapError g m s).2 = (m s).2 := by
  unfold mapError
  split <;> simp [*]

theorem attempt_of_answer (h : m s = (some r, t)) :
    (attempt m : Program σ ε' (Except ε α)) s = (some (.ok r), t) := by
  simp [attempt, h]

theorem mapError_of_answer {g : ε → ε'} (h : m s = (some r, t)) :
    mapError g m s = (some (r.mapError g), t) := by
  simp [mapError, h]

theorem pure_eq_ok {a' : α} :
    (pure a : Program σ ε α) s = (some (.ok a'), s') ↔ a = a' ∧ s = s' := by
  simp [Pure.pure]

theorem fail_ne_ok : (fail e : Program σ ε α) s ≠ (some (.ok a), s') := by
  simp [fail]

theorem gets_eq_ok :
    (gets g : Program σ ε α) s = (some (.ok a), s') ↔ g s = a ∧ s = s' := by
  simp [gets]

theorem modify_eq_ok {g : σ → σ} {u : Unit} :
    (modify g : Program σ ε Unit) s = (some (.ok u), s') ↔ g s = s' := by
  simp [modify]

theorem ofExcept_eq_ok :
    (ofExcept r : Program σ ε α) s = (some (.ok a), s') ↔ r = .ok a ∧ s = s' := by
  cases r <;> simp [ofExcept, Pure.pure, fail]

end Answers

/-! ### Triples -/

/-- From states with `I` and `P` the program keeps `I`, however it ends, and it answers in states
with `Q`. -/
def Triple (I P : σ → Prop) (m : Program σ ε α) (Q : α → σ → Prop) : Prop :=
  ∀ s, I s → P s → I (m s).2 ∧ ∀ a, (m s).1 = some (.ok a) → Q a (m s).2

section Triples

variable {I P P' : σ → Prop} {m : Program σ ε α} {f : α → Program σ ε β}
  {Q Q' : α → σ → Prop} {R : β → σ → Prop}

/-- What a run of the program that answers leaves. -/
theorem Triple.of_run {s t : σ} {a : α} (h : Triple I P m Q) (hI : I s) (hP : P s)
    (hm : m s = (some (.ok a), t)) : Q a t := by
  have hpost := (h s hI hP).2 a
  rw [hm] at hpost
  exact hpost rfl

theorem Triple.mono (h : Triple I P m Q) (hP : ∀ s, P' s → P s) (hQ : ∀ a s, Q a s → Q' a s) :
    Triple I P' m Q' := by
  intro s hI hs
  obtain ⟨hinv, hpost⟩ := h s hI (hP s hs)
  exact ⟨hinv, fun a ha => hQ a _ (hpost a ha)⟩

theorem Triple.pure {a : α} (h : ∀ s, I s → P s → Q a s) :
    Triple I P (pure a : Program σ ε α) Q := by
  intro s hI hs
  refine ⟨hI, fun b hb => ?_⟩
  cases hb
  exact h s hI hs

theorem Triple.fail {e : ε} : Triple I P (fail e : Program σ ε α) Q :=
  fun _ hI _ => ⟨hI, fun _ ha => by cases ha⟩

theorem Triple.bind (hm : Triple I P m Q) (hf : ∀ a, Triple I (Q a) (f a) R) :
    Triple I P (m >>= f) R := by
  intro s hI hs
  obtain ⟨hinv, hpost⟩ := hm s hI hs
  refine bind_ends (E := fun r s' => I s' ∧ ∀ b, r = some (.ok b) → R b s') ?_ ?_
  · intro a s' heq
    rw [heq] at hinv hpost
    exact hf a s' hinv (hpost a rfl)
  · exact fun r _ hr => ⟨hinv, fun b h => absurd h (hr b)⟩

/-- What a caught error leaves is the invariant. -/
theorem Triple.attempt (h : Triple I P m Q) :
    Triple I P (attempt m : Program σ ε' _) fun r s => ∀ a, r = .ok a → Q a s := by
  intro s hI hs
  obtain ⟨hinv, hpost⟩ := h s hI hs
  unfold Program.attempt
  split
  next r s' heq =>
    rw [heq] at hinv hpost
    refine ⟨hinv, fun r' hr' a ha => ?_⟩
    cases hr'
    exact hpost a (congrArg some ha)
  next s' heq =>
    rw [heq] at hinv
    exact ⟨hinv, fun _ h => by cases h⟩

theorem Triple.ofExcept (h : ∀ a s, r = .ok a → I s → P s → Q a s) :
    Triple I P (ofExcept r) Q := by
  cases r with
  | ok a => exact .pure fun s => h a s rfl
  | error e => exact .fail

theorem Triple.mapError {g : ε → ε'} (h : Triple I P m Q) : Triple I P (mapError g m) Q := by
  intro s hI hs
  obtain ⟨hinv, hpost⟩ := h s hI hs
  unfold Program.mapError
  generalize m s = r at hinv hpost
  obtain ⟨_ | _ | _, s'⟩ := r
  · exact ⟨hinv, fun _ h => by cases h⟩
  · exact ⟨hinv, fun _ h => by cases h⟩
  · exact ⟨hinv, fun a ha => by cases ha; exact hpost _ rfl⟩

/-- What follows a known answer may use it. -/
theorem Triple.ofExcept_bind (h : ∀ a, r = .ok a → Triple I P (f a) R) :
    Triple I P (Program.ofExcept r >>= f) R := by
  cases r with
  | ok a => exact fun s hI hs => h a rfl s hI hs
  | error e => exact fun s hI _ => ⟨hI, fun _ ha => by cases ha⟩

theorem Triple.modify {g : σ → σ} {Q : Unit → σ → Prop} (hI : ∀ s, I s → P s → I (g s))
    (hQ : ∀ s, I s → P s → Q () (g s)) : Triple I P (modify g : Program σ ε Unit) Q :=
  fun s h hs => ⟨hI s h hs, fun _ _ => hQ s h hs⟩

theorem Triple.gets (h : ∀ s, I s → P s → Q (g s) s) :
    Triple I P (gets g : Program σ ε α) Q := by
  intro s hI hs
  refine ⟨hI, fun a ha => ?_⟩
  cases ha
  exact h s hI hs

/-- What follows a reading of the state may use what was read. -/
theorem Triple.gets_bind (h : ∀ a, Triple I (fun s => P s ∧ g s = a) (f a) R) :
    Triple I P (Program.gets g >>= f) R :=
  .bind (.gets fun _ _ hs => ⟨hs, rfl⟩) h

end Triples

/-! ### Relations between the ends of a program -/

/-- The states before and after are related, however the program ends. -/
def Keeps (R : σ → σ → Prop) (m : Program σ ε α) : Prop :=
  ∀ s, R s (m s).2

section Keeps

variable {R : σ → σ → Prop} {m : Program σ ε α} {f : α → Program σ ε β}

/-- What a run of the program leaves. -/
theorem Keeps.of_run {s t : σ} {r : Option (Except ε α)} (h : Keeps R m) (hm : m s = (r, t)) :
    R s t := by
  have hs := h s
  rwa [hm] at hs

theorem Keeps.of_eq [Std.Refl R] (h : ∀ s, (m s).2 = s) : Keeps R m := by
  intro s
  rw [h s]
  exact Std.Refl.refl s

theorem Keeps.pure [Std.Refl R] {a : α} : Keeps R (pure a : Program σ ε α) :=
  .of_eq fun _ => rfl

theorem Keeps.fail [Std.Refl R] {e : ε} : Keeps R (fail e : Program σ ε α) :=
  .of_eq fun _ => rfl

theorem Keeps.gets [Std.Refl R] : Keeps R (gets g : Program σ ε α) :=
  .of_eq fun _ => rfl

theorem Keeps.ofExcept [Std.Refl R] : Keeps R (ofExcept r : Program σ ε α) := by
  cases r with
  | ok a => exact .pure
  | error e => exact .fail

theorem Keeps.modify {g : σ → σ} (h : ∀ s, R s (g s)) : Keeps R (modify g : Program σ ε Unit) :=
  h

theorem Keeps.bind [IsTrans σ R] (hm : Keeps R m) (hf : ∀ a, Keeps R (f a)) :
    Keeps R (m >>= f) := by
  intro s
  have hs := hm s
  refine bind_ends (E := fun _ => R s) (fun a s' heq => ?_) fun _ _ _ => hs
  rw [heq] at hs
  exact IsTrans.trans _ _ _ hs (hf a s')

theorem Keeps.attempt (h : Keeps R m) : Keeps R (attempt m : Program σ ε' _) := by
  intro s
  rw [attempt_snd]
  exact h s

theorem Keeps.mapError {g : ε → ε'} (h : Keeps R m) : Keeps R (mapError g m) := by
  intro s
  rw [mapError_snd]
  exact h s

theorem Keeps.forSome [Std.Refl R] {body : ι → Program σ ε Unit} {o : Option ι}
    (h : ∀ a, Keeps R (body a)) : Keeps R (forSome body o) := by
  cases o with
  | none => exact .pure
  | some a => exact h a

theorem Keeps.forEach [Std.Refl R] [IsTrans σ R] {body : ι → Program σ ε Unit}
    (h : ∀ a, Keeps R (body a)) (as : List ι) : Keeps R (forEach body as) := by
  induction as with
  | nil => exact .pure
  | cons a as ih => exact .bind (h a) fun _ => ih

/-- The states before and after are related unless the program answers. -/
def KeepsUnlessOk (R : σ → σ → Prop) (m : Program σ ε α) : Prop :=
  ∀ s, (∀ a, (m s).1 ≠ some (.ok a)) → R s (m s).2

theorem KeepsUnlessOk.modify {g : σ → σ} : KeepsUnlessOk R (modify g : Program σ ε Unit) :=
  fun _ h => absurd rfl (h ())

/-- Only the last part of the program may do what `R` does not allow. -/
theorem KeepsUnlessOk.bind [IsTrans σ R] (hm : Keeps R m) (hf : ∀ a, KeepsUnlessOk R (f a)) :
    KeepsUnlessOk R (m >>= f) := by
  intro s
  have hs := hm s
  refine bind_ends (E := fun r s' => (∀ b, r ≠ some (.ok b)) → R s s') (fun a s' heq h => ?_)
    fun _ _ _ _ => hs
  rw [heq] at hs
  exact IsTrans.trans _ _ _ hs (hf a s' h)

/-- Assertions that do not see what the program may change. -/
theorem Keeps.triple {I P : σ → Prop} (h : Keeps R m) (hI : ∀ s s', R s s' → I s → I s')
    (hP : ∀ s s', R s s' → P s → P s') : Triple I P m fun _ => P :=
  fun s hs hPs => ⟨hI s _ (h s) hs, fun _ _ => hP s _ (h s) hPs⟩

end Keeps

end Program

end Foundation
