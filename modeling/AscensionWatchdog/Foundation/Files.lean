import Mathlib.Logic.Function.Basic
import Mathlib.Order.Defs.Unbundled

/-!
# Files

The regular files of a file system with their contents, and its directories, by canonical path.
A file that is opened with `create_new` did not exist, so a program that writes only to files
that it created itself keeps the content of every file there was: `Kept`.
-/

namespace Foundation

structure Files (β : Type) where
  content : String → Option β
  directory : String → Bool

namespace Files

variable {β : Type} {f g h : Files β} {p q : String} {c : β}

/-- Whether something has the path. -/
def occupied (f : Files β) (p : String) : Bool :=
  (f.content p).isSome || f.directory p

/-- Give a file a content. -/
def write (f : Files β) (p : String) (c : β) : Files β :=
  { f with content := Function.update f.content p (some c) }

def makeDirectory (f : Files β) (p : String) : Files β :=
  { f with directory := Function.update f.directory p true }

@[simp] theorem makeDirectory_content : (f.makeDirectory p).content = f.content := rfl

@[simp] theorem write_content_self : (f.write p c).content p = some c := by
  simp [write]

theorem write_content_of_ne (hq : q ≠ p) : (f.write p c).content q = f.content q := by
  simp [write, hq]

theorem content_of_not_occupied (hp : f.occupied p = false) : f.content p = none := by
  simp only [occupied, Bool.or_eq_false_iff, Option.isSome_eq_false_iff, Option.isNone_iff_eq_none]
    at hp
  exact hp.1

/-- Every file there was has its content. -/
def Kept (f g : Files β) : Prop :=
  ∀ p c, f.content p = some c → g.content p = some c

theorem Kept.refl (f : Files β) : f.Kept f :=
  fun _ _ hc => hc

theorem Kept.trans (hfg : f.Kept g) (hgh : g.Kept h) : f.Kept h :=
  fun p c hc => hgh p c (hfg p c hc)

theorem Kept.content_eq_none (hfg : f.Kept g) (hp : g.content p = none) : f.content p = none := by
  rw [Option.eq_none_iff_forall_ne_some]
  intro c hc
  have hg := hfg p c hc
  rw [hp] at hg
  cases hg

/-- A write to a file that is new. -/
theorem Kept.write (hfg : f.Kept g) (hp : f.content p = none) : f.Kept (g.write p c) := by
  intro q d hd
  have hne : q ≠ p := by
    rintro rfl
    rw [hp] at hd
    cases hd
  rw [write_content_of_ne hne]
  exact hfg q d hd

end Files

end Foundation
