import Mathlib.Data.List.Count
import Mathlib.Data.List.Infix

/-!
# Histories of permitted events

A system that acts on the world leaves a history of what it did. `permits l e` says when the event
`e` may follow the history `l`, and a history is `Lawful` if each of its events was permitted when
it happened. An ordering property (a write before the effect that it announces, nothing after an
end) is a property of `permits`, and a program keeps it if every event that it adds is permitted.
-/

namespace Foundation.History

variable {ε : Type} {permits : List ε → ε → Prop} {l : List ε} {e : ε}

/-- Histories all of whose events were permitted. -/
inductive Lawful (permits : List ε → ε → Prop) : List ε → Prop where
  | nil : Lawful permits []
  | concat {l : List ε} {e : ε} : Lawful permits l → permits l e → Lawful permits (l ++ [e])

theorem Lawful.of_concat (h : Lawful permits (l ++ [e])) : Lawful permits l ∧ permits l e := by
  generalize hl : l ++ [e] = l' at h
  cases h with
  | nil => simp at hl
  | concat h he =>
    obtain ⟨rfl, rfl⟩ := List.append_inj' hl rfl |>.imp id List.singleton_inj.mp
    exact ⟨h, he⟩

theorem Lawful.isPrefix {l' : List ε} (h : Lawful permits l') (hl : l <+: l') :
    Lawful permits l := by
  induction h with
  | nil =>
    rw [List.prefix_nil.mp hl]
    exact .nil
  | concat h he ih =>
    obtain rfl | hl := List.prefix_concat_iff.mp hl
    · exact .concat h he
    · exact ih hl

/-- What happened was permitted when it happened. -/
theorem Lawful.permits_of_eq {before after : List ε} (h : Lawful permits (before ++ e :: after)) :
    permits before e := by
  have hle : before ++ [e] <+: before ++ e :: after := by simp
  exact (h.isPrefix hle).of_concat.2

/-- What is permitted only before it happened happens once. -/
theorem Lawful.count_le_one [BEq ε] [LawfulBEq ε] (h : Lawful permits l)
    (he : ∀ l, permits l e → e ∉ l) : l.count e ≤ 1 := by
  induction h with
  | nil => exact Nat.zero_le _
  | @concat l e' h he' ih =>
    rw [List.count_append, List.count_singleton]
    split
    next hsame =>
      obtain rfl := beq_iff_eq.mp hsame
      rw [List.count_eq_zero.mpr (he l he')]
    next => exact ih

end Foundation.History
