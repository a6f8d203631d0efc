import Mathlib.Data.List.Basic
import Mathlib.Data.Nat.Digits.Defs

/-!
# Sizes of texts

A text has a length in characters and a size in bytes of its UTF-8 encoding. Bounds in a program
are on bytes while a database cuts text by characters, so the two have to be compared. They agree
for ASCII text, and a decimal numeral is one.
-/

namespace Foundation

/-- What holds of the characters of a closed text, by evaluation: to decide `∀ c ∈ cs` itself might
range over all characters. -/
theorem forall_mem_of_all {α : Type} {cs : List α} {P : α → Prop} [DecidablePred P]
    (h : (cs.all fun c => decide (P c)) = true) : ∀ c ∈ cs, P c := by
  simpa using h

/-- A character takes at least one byte. -/
theorem length_le_utf8ByteSize (cs : List Char) :
    cs.length ≤ (String.ofList cs).utf8ByteSize := by
  induction cs with
  | nil => exact Nat.zero_le _
  | cons c cs ih =>
    have hpos := Char.utf8Size_pos c
    rw [String.ofList_cons, String.utf8ByteSize_append, String.utf8ByteSize_singleton,
      List.length_cons]
    omega

/-- ASCII text takes one byte for each character. -/
theorem utf8ByteSize_of_ascii {cs : List Char} (h : ∀ c ∈ cs, c.toNat < 128) :
    (String.ofList cs).utf8ByteSize = cs.length := by
  induction cs with
  | nil => rfl
  | cons c cs ih =>
    have hc : c.utf8Size = 1 := by
      have hlt : c.toNat < 128 := h c List.mem_cons_self
      rw [Char.utf8Size_eq_one_iff, UInt32.le_iff_toNat_le]
      exact Nat.le_of_lt_succ hlt
    rw [String.ofList_cons, String.utf8ByteSize_append, String.utf8ByteSize_singleton,
      List.length_cons, hc, ih fun c' hc' => h c' (List.mem_cons_of_mem _ hc')]
    omega

/-- The digits of a numeral. -/
theorem isDigit_of_mem_toString {n : Nat} {c : Char} (hc : c ∈ (toString n).toList) :
    c.isDigit = true := by
  have htext : (toString n).toList = Nat.toDigits 10 n := Nat.toList_repr
  rw [htext] at hc
  exact Nat.isDigit_of_mem_toDigits (b := 10) (by decide) (by decide) hc

theorem toNat_of_isDigit {c : Char} (h : c.isDigit = true) : 48 ≤ c.toNat ∧ c.toNat ≤ 57 := by
  simp only [Char.isDigit, ge_iff_le, Bool.and_eq_true, decide_eq_true_eq,
    UInt32.le_iff_toNat_le] at h
  exact h

/-- The numeral of a number below `10 ^ e` has at most `e` bytes. -/
theorem utf8ByteSize_toString_le {n e : Nat} (he : 0 < e) (hn : n < 10 ^ e) :
    (toString n).utf8ByteSize ≤ e := by
  have htext : (toString n).toList = Nat.toDigits 10 n := Nat.toList_repr
  have hsize : (String.ofList (toString n).toList).utf8ByteSize = (toString n).toList.length := by
    refine utf8ByteSize_of_ascii fun c hc => ?_
    have hdigit := toNat_of_isDigit (isDigit_of_mem_toString hc)
    omega
  rw [String.ofList_toList] at hsize
  rw [hsize, htext]
  exact Nat.toDigits_length 10 n e he hn

/-- The first `n` characters of a text. -/
def takeChars (n : Nat) (text : String) : String :=
  String.ofList (text.toList.take n)

/-- A prefix of `n` characters that is smaller than `n` bytes is the whole text. -/
theorem takeChars_eq_self {n : Nat} {text : String} (h : (takeChars n text).utf8ByteSize < n) :
    takeChars n text = text := by
  have hle := length_le_utf8ByteSize (text.toList.take n)
  rw [takeChars] at h
  rw [List.length_take] at hle
  have hlen : text.toList.length ≤ n := by omega
  rw [takeChars, List.take_of_length_le hlen, String.ofList_toList]

/-- Unicode white space. -/
def isWhitespace (c : Char) : Bool :=
  (0x9 ≤ c.toNat && c.toNat ≤ 0xd) || c.toNat == 0x20 || c.toNat == 0x85 || c.toNat == 0xa0 ||
    c.toNat == 0x1680 || (0x2000 ≤ c.toNat && c.toNat ≤ 0x200a) || c.toNat == 0x2028 ||
    c.toNat == 0x2029 || c.toNat == 0x202f || c.toNat == 0x205f || c.toNat == 0x3000

end Foundation
