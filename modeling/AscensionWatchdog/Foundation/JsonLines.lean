import AscensionWatchdog.Foundation.Journal
import AscensionWatchdog.Foundation.JsonSize

/-!
# Objects as the lines of a journal

A serializer writes a record as the compact text of an object, in UTF-8, and leaves out the fields
that it is told to skip. Such a line has no newline in it, and the text of one object is never the
beginning of another's: this makes the texts of records a codec for journals (`objectCodec`).
-/

namespace Foundation.Json

/-! ### Bytes of a text -/

/-- The bytes of a compact text. -/
def Value.bytes (v : Value) : List UInt8 :=
  v.chars.flatMap String.utf8EncodeChar

theorem Value.length_bytes_le (v : Value) : v.bytes.length ≤ v.maxBytes := by
  have hlength : ∀ cs : List Char, (cs.flatMap String.utf8EncodeChar).length = byteCount cs := by
    intro cs
    induction cs with
    | nil => rfl
    | cons c cs ih =>
      rw [List.flatMap_cons, List.length_append, ih, String.length_utf8EncodeChar, byteCount_cons]
  rw [Value.bytes, hlength]
  exact v.byteCount_chars_le

/-- The line feed. -/
def lineFeed : UInt8 :=
  10

/-- An ASCII byte is among the bytes of its own character only. -/
theorem ascii_not_mem_utf8EncodeChar {c : Char} {b : UInt8} (hb : b.toNat < 128)
    (h : c.toNat ≠ b.toNat) : b ∉ String.utf8EncodeChar c := by
  have hval : c.val.toNat = c.toNat := rfl
  -- one byte is the character itself, and the bytes of a longer sequence are above 127
  have hbyte : ∀ n : Nat, b = UInt8.ofNat n → n % 256 = b.toNat := by
    intro n hn
    have hnat := congrArg UInt8.toNat hn
    rw [UInt8.toNat_ofNat'] at hnat
    exact hnat.symm
  intro hmem
  simp only [String.utf8EncodeChar, hval] at hmem
  split at hmem
  · have h₁ := hbyte _ (List.mem_singleton.mp hmem)
    omega
  split at hmem
  · simp only [List.mem_cons, List.not_mem_nil, or_false] at hmem
    rcases hmem with h₁ | h₁ <;> have h₁ := hbyte _ h₁ <;> omega
  split at hmem
  · simp only [List.mem_cons, List.not_mem_nil, or_false] at hmem
    rcases hmem with h₁ | h₁ | h₁ <;> have h₁ := hbyte _ h₁ <;> omega
  · simp only [List.mem_cons, List.not_mem_nil, or_false] at hmem
    rcases hmem with h₁ | h₁ | h₁ | h₁ <;> have h₁ := hbyte _ h₁ <;> omega

theorem Value.lineFeed_not_mem_bytes {v : Value} (h : v.lexical = true) : lineFeed ∉ v.bytes := by
  intro hmem
  obtain ⟨c, hc, hb⟩ := List.mem_flatMap.mp hmem
  have hvisible := v.visible_of_mem_chars h c hc
  have hne : c.toNat ≠ 10 := by omega
  exact ascii_not_mem_utf8EncodeChar (b := lineFeed) (by decide) hne hb

/-- A text that begins with another in bytes begins with it in characters. -/
theorem isPrefix_of_flatMap_utf8EncodeChar {cs ds : List Char}
    (h : cs.flatMap String.utf8EncodeChar <+: ds.flatMap String.utf8EncodeChar) : cs <+: ds := by
  obtain ⟨rest, hrest⟩ := h
  refine List.isPrefix_of_utf8Encode_append_eq_utf8Encode rest.toByteArray ?_
  rw [List.utf8Encode, List.utf8Encode, ← hrest, List.toByteArray_append]

/-- The text of an object is not the beginning of another object's. -/
theorem Fields.eq_of_isPrefix {fields fields' : Fields} (h : fields.lexical = true)
    (h' : fields'.lexical = true)
    (hbytes : (Value.object fields).bytes <+: (Value.object fields').bytes) :
    fields = fields' := by
  obtain ⟨rest, hrest⟩ := isPrefix_of_flatMap_utf8EncodeChar hbytes
  simp only [Value.chars, List.cons_append, List.append_assoc, List.nil_append,
    List.cons.injEq, true_and] at hrest
  exact (Fields.chars_append_inj fields fields' h h' hrest).1

/-- The opening brace. -/
def openingBrace : UInt8 :=
  123

theorem Value.bytes_object (fields : Fields) :
    ∃ rest, (Value.object fields).bytes = openingBrace :: rest := by
  rw [Value.bytes, Value.chars, List.flatMap_cons]
  exact ⟨_, rfl⟩

/-- Records that are written as objects. -/
noncomputable def objectCodec {ε ρ : Type} (refuse : ε) (fields : ρ → Fields)
    (hlexical : ∀ r, (fields r).lexical = true) (hinjective : Function.Injective fields) :
    Journal.LineCodec lineFeed ε ρ :=
  .ofEncoding openingBrace (fun r => (Value.object (fields r)).bytes) refuse
    (fun r => Value.lineFeed_not_mem_bytes (hlexical r)) (fun r => Value.bytes_object (fields r))
    fun r r' h => hinjective (Fields.eq_of_isPrefix (hlexical r) (hlexical r') h)

/-! ### Fields that may be skipped -/

/-- The fields that have a value. -/
def Fields.present : List (String × Option Value) → Fields
  | [] => .nil
  | (key, some v) :: rest => .cons key v (Fields.present rest)
  | (_, none) :: rest => Fields.present rest

theorem Fields.lexical_present {l : List (String × Option Value)}
    (h : ∀ field ∈ l, ∀ v ∈ field.2, v.lexical = true) : (Fields.present l).lexical = true := by
  induction l with
  | nil => rfl
  | cons field l ih =>
    obtain ⟨hfield, hl⟩ := List.forall_mem_cons.mp h
    obtain ⟨key, _ | v⟩ := field
    · exact ih hl
    · simp only [Fields.present, Fields.lexical, Bool.and_eq_true]
      exact ⟨hfield v rfl, ih hl⟩

theorem Fields.key_of_present {l : List (String × Option Value)} {key : String} {v : Value}
    {rest : Fields} (h : Fields.present l = .cons key v rest) : key ∈ l.map Prod.fst := by
  induction l with
  | nil => cases h
  | cons field l ih =>
    obtain ⟨key', _ | v'⟩ := field
    · exact List.mem_cons_of_mem _ (ih h)
    · simp only [Fields.present, Fields.cons.injEq] at h
      rw [List.map_cons, ← h.1]
      exact List.mem_cons_self

/-- With the same keys, each once, the fields that are present determine the others. -/
theorem Fields.present_injective {l l' : List (String × Option Value)}
    (hkeys : l.map Prod.fst = l'.map Prod.fst) (hnodup : (l.map Prod.fst).Nodup)
    (h : Fields.present l = Fields.present l') : l = l' := by
  induction l generalizing l' with
  | nil => exact (List.map_eq_nil_iff.mp hkeys.symm).symm
  | cons field l ih =>
    obtain _ | ⟨field', l'⟩ := l'
    · cases hkeys
    obtain ⟨key, value⟩ := field
    obtain ⟨key', value'⟩ := field'
    simp only [List.map_cons, List.cons.injEq] at hkeys
    obtain ⟨rfl, hkeys⟩ := hkeys
    obtain ⟨hfresh, hrest⟩ := List.nodup_cons.mp hnodup
    cases value with
    | none =>
      replace h : Fields.present l = Fields.present ((key, value') :: l') := h
      cases value' with
      | none => rw [ih hkeys hrest h]
      | some v' =>
        have hkey : key ∈ l.map Prod.fst := Fields.key_of_present h
        exact absurd hkey hfresh
    | some v =>
      cases value' with
      | none =>
        have hkey : key ∈ l'.map Prod.fst := Fields.key_of_present h.symm
        rw [← hkeys] at hkey
        exact absurd hkey hfresh
      | some v' =>
        simp only [Fields.present, Fields.cons.injEq, true_and] at h
        rw [h.1, ih hkeys hrest h.2]

theorem Items.ofList_injective {l l' : List Value} (h : Items.ofList l = Items.ofList l') :
    l = l' := by
  induction l generalizing l' with
  | nil =>
    cases l' with
    | nil => rfl
    | cons v' l' => cases h
  | cons v l ih =>
    cases l' with
    | nil => cases h
    | cons v' l' =>
      simp only [Items.ofList, Items.cons.injEq] at h
      rw [h.1, ih h.2]

theorem Items.lexical_ofList {l : List Value} (h : ∀ v ∈ l, v.lexical = true) :
    (Items.ofList l).lexical = true := by
  induction l with
  | nil => rfl
  | cons v l ih =>
    obtain ⟨hv, hl⟩ := List.forall_mem_cons.mp h
    simp only [Items.ofList, Items.lexical, Bool.and_eq_true]
    exact ⟨hv, ih hl⟩

end Foundation.Json
