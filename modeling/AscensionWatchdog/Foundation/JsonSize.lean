import AscensionWatchdog.Foundation.JsonText
import AscensionWatchdog.Foundation.Text

/-!
# Sizes of compact texts

A bound on the bytes of the compact text of a value, by recursion on the value: a character of a
string takes at most six bytes for each of its own, which is what `\u00XX` takes for a control
character. Escaping removes the control characters, so a compact text has none.
-/

namespace Foundation.Json

/-- The bytes of a list of characters. -/
def byteCount (cs : List Char) : Nat :=
  (String.ofList cs).utf8ByteSize

@[simp]
theorem byteCount_nil : byteCount [] = 0 :=
  rfl

@[simp]
theorem byteCount_cons (c : Char) (cs : List Char) :
    byteCount (c :: cs) = c.utf8Size + byteCount cs := by
  rw [byteCount, String.ofList_cons, String.utf8ByteSize_append, String.utf8ByteSize_singleton]
  rfl

@[simp]
theorem byteCount_append (cs ds : List Char) :
    byteCount (cs ++ ds) = byteCount cs + byteCount ds := by
  rw [byteCount, String.ofList_append, String.utf8ByteSize_append]
  rfl

theorem byteCount_toList (text : String) : byteCount text.toList = text.utf8ByteSize := by
  rw [byteCount, String.ofList_toList]

private theorem byteCount_of_length {cs : List Char} (h : ∀ c ∈ cs, c.toNat < 128) :
    byteCount cs = cs.length :=
  utf8ByteSize_of_ascii h

/-- The digits of an escape are visible characters. -/
private theorem toNat_hexDigitChar {n : Nat} (h : n < 16) :
    0x20 ≤ (hexDigitChar n).toNat ∧ (hexDigitChar n).toNat < 128 := by
  have hall : ∀ n : Fin 16, 0x20 ≤ (hexDigitChar n).toNat ∧ (hexDigitChar n).toNat < 128 := by
    decide
  exact hall ⟨n, h⟩

/-- An escape is short visible ASCII text; any other character stands for itself. -/
private theorem escapeChar_cases (c : Char) :
    (escapeChar c = [c] ∧ 0x20 ≤ c.toNat) ∨
      (escapeChar c).length ≤ 6 ∧ ∀ d ∈ escapeChar c, 0x20 ≤ d.toNat ∧ d.toNat < 128 := by
  by_cases hcontrol : c.toNat < 0x20
  · right
    have hhigh := toNat_hexDigitChar (n := c.toNat / 16) (by omega)
    have hlow := toNat_hexDigitChar (n := c.toNat % 16) (by omega)
    unfold escapeChar
    repeat' split
    all_goals first | omega | simp [hhigh, hlow]
  · unfold escapeChar
    repeat' split
    all_goals first | exact .inl ⟨rfl, by omega⟩ | exact .inr ⟨by decide, forall_mem_of_all rfl⟩

theorem byteCount_escapeChar_le (c : Char) : byteCount (escapeChar c) ≤ 6 * c.utf8Size := by
  have hpos := Char.utf8Size_pos c
  rcases escapeChar_cases c with ⟨heq, -⟩ | ⟨hlength, hascii⟩
  · rw [heq, byteCount_cons, byteCount_nil]
    omega
  · rw [byteCount_of_length fun d hd => (hascii d hd).2]
    omega

theorem visible_of_mem_escapeChar {c d : Char} (hd : d ∈ escapeChar c) : 0x20 ≤ d.toNat := by
  rcases escapeChar_cases c with ⟨heq, hc⟩ | ⟨-, hascii⟩
  · rw [heq, List.mem_singleton] at hd
    rw [hd]
    exact hc
  · exact (hascii d hd).1

theorem byteCount_stringChars_le (s : String) :
    byteCount (stringChars s) ≤ 6 * s.utf8ByteSize + 2 := by
  have hescaped : ∀ cs : List Char, byteCount (cs.flatMap escapeChar) ≤ 6 * byteCount cs := by
    intro cs
    induction cs with
    | nil => exact Nat.le_refl 0
    | cons c cs ih =>
      have hc := byteCount_escapeChar_le c
      rw [List.flatMap_cons, byteCount_append, byteCount_cons]
      omega
  have hs := hescaped s.toList
  have hquote : Char.utf8Size '\x22' = 1 := by decide
  rw [byteCount_toList] at hs
  simp only [stringChars, byteCount_cons, byteCount_append, byteCount_nil, hquote]
  omega

theorem visible_of_mem_stringChars {s : String} {c : Char} (hc : c ∈ stringChars s) :
    0x20 ≤ c.toNat := by
  simp only [stringChars, List.mem_cons, List.mem_append, List.mem_flatMap, List.not_mem_nil,
    or_false] at hc
  rcases hc with rfl | ⟨_, -, hc⟩ | rfl
  · decide
  · exact visible_of_mem_escapeChar hc
  · decide

/-! ### Values -/

mutual

/-- A bound on the bytes of the text. -/
def Value.maxBytes : Value → Nat
  | .null => 4
  | .bool _ => 5
  | .number lexeme => lexeme.utf8ByteSize
  | .string s => 6 * s.utf8ByteSize + 2
  | .array items => items.maxBytes + 2
  | .object fields => fields.maxBytes + 2

def Items.maxBytes : Items → Nat
  | .nil => 0
  | .cons v rest => v.maxBytes + rest.maxBytes + 1

def Fields.maxBytes : Fields → Nat
  | .nil => 0
  | .cons key v rest => 6 * key.utf8ByteSize + v.maxBytes + rest.maxBytes + 4

end

mutual

theorem Value.byteCount_chars_le : ∀ v : Value, byteCount v.chars ≤ v.maxBytes
  | .null => by decide
  | .bool b => by cases b <;> decide
  | .number lexeme => by rw [Value.chars, Value.maxBytes, byteCount_toList]
  | .string s => by rw [Value.chars, Value.maxBytes]; exact byteCount_stringChars_le s
  | .array .nil => by decide
  | .array (.cons v rest) => by
    have hv := v.byteCount_chars_le
    have hrest := rest.byteCount_tail_le
    have hsizes : Char.utf8Size '[' = 1 ∧ Char.utf8Size ']' = 1 := by decide
    simp only [Value.chars, Items.chars_cons, Value.maxBytes, Items.maxBytes, byteCount_cons,
      byteCount_append, byteCount_nil, hsizes]
    omega
  | .object .nil => by decide
  | .object (.cons key v rest) => by
    have hkey := byteCount_stringChars_le key
    have hv := v.byteCount_chars_le
    have hrest := rest.byteCount_tail_le
    have hsizes : Char.utf8Size '\x7b' = 1 ∧ Char.utf8Size '\x7d' = 1 ∧
        Char.utf8Size ':' = 1 := by decide
    simp only [Value.chars, Fields.chars_cons, Value.maxBytes, Fields.maxBytes, byteCount_cons,
      byteCount_append, byteCount_nil, hsizes]
    omega

theorem Items.byteCount_tail_le : ∀ items : Items, byteCount items.tail ≤ items.maxBytes
  | .nil => by decide
  | .cons v rest => by
    have hv := v.byteCount_chars_le
    have hrest := rest.byteCount_tail_le
    have hcomma : Char.utf8Size ',' = 1 := by decide
    simp only [Items.tail, Items.maxBytes, byteCount_cons, byteCount_append, hcomma]
    omega

theorem Fields.byteCount_tail_le : ∀ fields : Fields, byteCount fields.tail ≤ fields.maxBytes
  | .nil => by decide
  | .cons key v rest => by
    have hkey := byteCount_stringChars_le key
    have hv := v.byteCount_chars_le
    have hrest := rest.byteCount_tail_le
    have hsizes : Char.utf8Size ',' = 1 ∧ Char.utf8Size ':' = 1 := by decide
    simp only [Fields.tail, Fields.maxBytes, byteCount_cons, byteCount_append, hsizes]
    omega

end

/-- The size of a compact text. -/
theorem Value.utf8ByteSize_render_le (v : Value) : v.render.utf8ByteSize ≤ v.maxBytes :=
  v.byteCount_chars_le

theorem visible_of_numberChar {c : Char} (h : numberChar c = true) : 0x20 ≤ c.toNat := by
  simp only [numberChar, Bool.or_eq_true, beq_iff_eq] at h
  rcases h with ((((h | rfl) | rfl) | rfl) | rfl) | rfl
  · have hdigit := toNat_of_isDigit h
    omega
  all_goals decide

mutual

theorem Value.visible_of_mem_chars :
    ∀ v : Value, v.lexical = true → ∀ c ∈ v.chars, 0x20 ≤ c.toNat
  | .null, _ => forall_mem_of_all rfl
  | .bool b, _ => by cases b <;> exact forall_mem_of_all rfl
  | .number lexeme, h => by
    rw [Value.lexical, Bool.and_eq_true, List.all_eq_true] at h
    intro c hc
    rw [Value.chars] at hc
    exact visible_of_numberChar (h.2 c hc)
  | .string s, _ => by
    intro c hc
    rw [Value.chars] at hc
    exact visible_of_mem_stringChars hc
  | .array .nil, _ => forall_mem_of_all rfl
  | .array (.cons v rest), h => by
    rw [Value.lexical, Items.lexical, Bool.and_eq_true] at h
    intro c hc
    simp only [Value.chars, Items.chars_cons, List.mem_cons, List.mem_append, List.not_mem_nil,
      or_false] at hc
    rcases hc with rfl | (hc | hc) | rfl
    · decide
    · exact v.visible_of_mem_chars h.1 c hc
    · exact rest.visible_of_mem_tail h.2 c hc
    · decide
  | .object .nil, _ => forall_mem_of_all rfl
  | .object (.cons key v rest), h => by
    rw [Value.lexical, Fields.lexical, Bool.and_eq_true] at h
    intro c hc
    simp only [Value.chars, Fields.chars_cons, List.mem_cons, List.mem_append, List.not_mem_nil,
      or_false] at hc
    rcases hc with rfl | (hc | rfl | hc | hc) | rfl
    · decide
    · exact visible_of_mem_stringChars hc
    · decide
    · exact v.visible_of_mem_chars h.1 c hc
    · exact rest.visible_of_mem_tail h.2 c hc
    · decide

theorem Items.visible_of_mem_tail :
    ∀ items : Items, items.lexical = true → ∀ c ∈ items.tail, 0x20 ≤ c.toNat
  | .nil, _ => by simp [Items.tail]
  | .cons v rest, h => by
    rw [Items.lexical, Bool.and_eq_true] at h
    intro c hc
    simp only [Items.tail, List.mem_cons, List.mem_append] at hc
    rcases hc with rfl | hc | hc
    · decide
    · exact v.visible_of_mem_chars h.1 c hc
    · exact rest.visible_of_mem_tail h.2 c hc

theorem Fields.visible_of_mem_tail :
    ∀ fields : Fields, fields.lexical = true → ∀ c ∈ fields.tail, 0x20 ≤ c.toNat
  | .nil, _ => by simp [Fields.tail]
  | .cons key v rest, h => by
    rw [Fields.lexical, Bool.and_eq_true] at h
    intro c hc
    simp only [Fields.tail, List.mem_cons, List.mem_append] at hc
    rcases hc with rfl | hc | rfl | hc | hc
    · decide
    · exact visible_of_mem_stringChars hc
    · decide
    · exact v.visible_of_mem_chars h.1 c hc
    · exact rest.visible_of_mem_tail h.2 c hc

end

/-- A compact text has no control characters. -/
theorem Value.visible_of_mem_render {v : Value} (h : v.lexical = true) :
    ∀ c ∈ v.render.toList, 0x20 ≤ c.toNat := by
  intro c hc
  rw [Value.render, String.toList_ofList] at hc
  exact v.visible_of_mem_chars h c hc

end Foundation.Json
