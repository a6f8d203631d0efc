import AscensionWatchdog.Foundation.JsonText
import AscensionWatchdog.Foundation.Text
import AscensionWatchdog.Storage.Values

/-!
# Sizes of names and identities

The bounds of the store are on bytes, and text columns must not contain NUL. A name is within its
bound by its check; a digest has 64 bytes; a UUID has 36 bytes in canonical form, and at most 45 in
any form that the parser accepts.
-/

namespace AscensionWatchdog

open Foundation Foundation.Json

variable {crates : Crates}

/-! ### Names and digests -/

variable {value : String}

theorem isName_size {maxBytes : Nat} (h : isName value maxBytes = true) :
    value.utf8ByteSize ≤ maxBytes := by
  simp only [isName, Bool.and_eq_true, decide_eq_true_eq] at h
  exact h.1.1.2

theorem isName_noNul {maxBytes : Nat} (h : isName value maxBytes = true) :
    containsNul value = false := by
  simp only [isName, Bool.and_eq_true, Bool.not_eq_true'] at h
  exact h.1.2

theorem isDigest_size (h : isDigest value = true) : value.utf8ByteSize = 64 := by
  simp only [isDigest, Bool.and_eq_true, beq_iff_eq] at h
  exact h.1

theorem containsNul_append (s t : String) :
    containsNul (s ++ t) = (containsNul s || containsNul t) := by
  simp [containsNul]

/-- Text without the character NUL. -/
theorem containsNul_of_pos (h : ∀ c ∈ value.toList, 0 < c.toNat) :
    containsNul value = false := by
  refine List.any_eq_false.mpr fun c hc => ?_
  have hc := h c hc
  simp only [beq_iff_eq]
  omega

theorem containsNul_numeral (n : Nat) : containsNul (toString n) = false :=
  containsNul_of_pos fun c hc => by
    have hc := toNat_of_isDigit (isDigit_of_mem_toString hc)
    omega

/-- Characters between two others, by their code points. -/
private theorem toNat_of_between {c lo hi : Char} (h : (lo ≤ c && c ≤ hi) = true) :
    lo.toNat ≤ c.toNat ∧ c.toNat ≤ hi.toNat := by
  simp only [Bool.and_eq_true, decide_eq_true_eq] at h
  exact h

theorem isDigest_noNul (h : isDigest value = true) :
    containsNul value = false := by
  simp only [isDigest, Bool.and_eq_true, List.all_eq_true] at h
  refine containsNul_of_pos fun c hc => ?_
  have hc := h.2 c hc
  simp only [isLowerHex, Bool.or_eq_true] at hc
  rcases hc with hc | hc
  · have hdigit := toNat_of_isDigit hc
    omega
  · have hlower : 97 ≤ c.toNat ∧ c.toNat ≤ 102 := toNat_of_between hc
    omega

/-! ### Hexadecimal digits -/

private theorem toNat_hexDigitChar : ∀ n < 16, (hexDigitChar n).toNat < 128 := by
  decide

private theorem isLowerHex_hexDigitChar : ∀ n < 16, isLowerHex (hexDigitChar n) = true := by
  decide

theorem hexVal?_eq_some {c : Char} {n : Nat} (h : hexVal? c = some n) :
    n < 16 ∧ 48 ≤ c.toNat ∧ c.toNat ≤ 102 := by
  unfold hexVal? at h
  split at h
  · next hdigit =>
    have hdigit := toNat_of_isDigit hdigit
    cases h
    omega
  split at h
  · next hlower =>
    have hlower : 97 ≤ c.toNat ∧ c.toNat ≤ 102 := toNat_of_between hlower
    cases h
    omega
  split at h
  · next hupper =>
    have hupper : 65 ≤ c.toNat ∧ c.toNat ≤ 70 := toNat_of_between hupper
    cases h
    omega
  · cases h

/-! ### UUIDs -/

private theorem length_unhyphenate {cs ds : List Char} (h : unhyphenate cs = some ds) :
    ds.length = 32 := by
  unfold unhyphenate at h
  split at h
  · next hlength =>
    cases h
    simp [hlength.1]
  · cases h

private theorem mapM_hexVal? {cs : List Char} {ds : List Nat} (h : cs.mapM hexVal? = some ds) :
    (ds.length = cs.length ∧ ∀ d ∈ ds, d < 16) ∧ ∀ c ∈ cs, 48 ≤ c.toNat ∧ c.toNat ≤ 102 := by
  induction cs generalizing ds with
  | nil =>
    cases h
    simp
  | cons c cs ih =>
    rw [List.mapM_cons] at h
    obtain ⟨d, hd, h⟩ := Option.bind_eq_some_iff.mp h
    obtain ⟨ds', hds', h⟩ := Option.bind_eq_some_iff.mp h
    cases h
    obtain ⟨⟨hlength, hdigits⟩, hchars⟩ := ih hds'
    obtain ⟨hdigit, hchar⟩ := hexVal?_eq_some hd
    exact ⟨⟨by simp [hlength], List.forall_mem_cons.mpr ⟨hdigit, hdigits⟩⟩,
      List.forall_mem_cons.mpr ⟨hchar, hchars⟩⟩

variable {digits : List Nat}

/-- A parsed UUID has 32 hexadecimal digits. -/
private theorem parseStr_eq_some
    (h : Uuid.parseStr value = some digits) : digits.length = 32 ∧ ∀ d ∈ digits, d < 16 := by
  obtain ⟨cs, hcs, h⟩ := Option.bind_eq_some_iff.mp h
  have hlength : cs.length = 32 := by
    split at hcs
    · next hlength =>
      cases hcs
      exact hlength
    split at hcs
    · exact length_unhyphenate hcs
    split at hcs
    · exact length_unhyphenate hcs
    split at hcs
    · exact length_unhyphenate hcs
    · cases hcs
  obtain ⟨⟨hsame, hdigits⟩, -⟩ := mapM_hexVal? h
  exact ⟨hsame.trans hlength, hdigits⟩

/-- A canonical UUID has 36 bytes. -/
theorem isCanonicalUuid4_size (h : isCanonicalUuid4 value = true) :
    value.utf8ByteSize = 36 := by
  unfold isCanonicalUuid4 at h
  split at h
  · cases h
  next digits hparse =>
  obtain ⟨hlength, hdigits⟩ := parseStr_eq_some hparse
  simp only [Bool.and_eq_true, beq_iff_eq] at h
  have hascii : ∀ c ∈ digits.map hexDigitChar, c.toNat < 128 := by
    intro c hc
    obtain ⟨d, hd, rfl⟩ := List.mem_map.mp hc
    exact toNat_hexDigitChar d (hdigits d hd)
  rw [← h.2, Uuid.toText, utf8ByteSize_of_ascii]
  · simp [hlength]
  · intro c hc
    simp only [List.mem_append, List.mem_cons] at hc
    rcases hc with hc | rfl | hc | rfl | hc | rfl | hc | rfl | hc
    · exact hascii c (List.mem_of_mem_take hc)
    · decide
    · exact hascii c (List.mem_of_mem_drop (List.mem_of_mem_take hc))
    · decide
    · exact hascii c (List.mem_of_mem_drop (List.mem_of_mem_take hc))
    · decide
    · exact hascii c (List.mem_of_mem_drop (List.mem_of_mem_take hc))
    · decide
    · exact hascii c (List.mem_of_mem_drop hc)

theorem UuidV4.size (id : UuidV4) : id.text.utf8ByteSize = 36 :=
  isCanonicalUuid4_size id.canonical

/-- The digits of a digest. -/
private theorem exists_of_mem_hexDigits {bytes : List UInt8} {c : Char}
    (hc : c ∈ bytes.flatMap byteHex) : ∃ n < 16, c = hexDigitChar n := by
  obtain ⟨b, -, hc⟩ := List.mem_flatMap.mp hc
  have hb : b.toNat < 256 := b.toNat_lt
  simp only [byteHex, List.mem_cons, List.not_mem_nil, or_false] at hc
  rcases hc with rfl | rfl
  · exact ⟨b.toNat / 16, by omega, rfl⟩
  · exact ⟨b.toNat % 16, by omega, rfl⟩

private theorem hexDigitChar_injective {m n : Nat} (hm : m < 16) (hn : n < 16)
    (h : hexDigitChar m = hexDigitChar n) : m = n := by
  rw [← hexValue_hexDigitChar hm, h, hexValue_hexDigitChar hn]

private theorem byteHex_injective {b b' : UInt8} (h : byteHex b = byteHex b') : b = b' := by
  have hb : b.toNat < 256 := b.toNat_lt
  have hb' : b'.toNat < 256 := b'.toNat_lt
  simp only [byteHex, List.cons.injEq, and_true] at h
  have hhigh := hexDigitChar_injective (by omega) (by omega) h.1
  have hlow := hexDigitChar_injective (by omega) (by omega) h.2
  exact UInt8.toNat_inj.mp (by omega)

/-- Bytes are read back from their hexadecimal digits. -/
theorem flatMap_byteHex_injective {bs bs' : List UInt8}
    (h : bs.flatMap byteHex = bs'.flatMap byteHex) : bs = bs' := by
  induction bs generalizing bs' with
  | nil =>
    cases bs' with
    | nil => rfl
    | cons b' bs' => cases h
  | cons b bs ih =>
    cases bs' with
    | nil => cases h
    | cons b' bs' =>
      rw [List.flatMap_cons, List.flatMap_cons] at h
      obtain ⟨hhead, htail⟩ := List.append_inj h rfl
      rw [byteHex_injective hhead, ih htail]

/-- 32 bytes in hexadecimal have the form of a digest. -/
theorem isDigest_of_length {bytes : List UInt8} (h : bytes.length = 32) :
    isDigest (String.ofList (bytes.flatMap byteHex)) = true := by
  have hlength : (bytes.flatMap byteHex).length = 64 := by
    simp [List.length_flatMap, byteHex, h]
  rw [isDigest, utf8ByteSize_of_ascii, hlength, String.toList_ofList]
  · simp only [BEq.rfl, Bool.true_and, List.all_eq_true]
    intro c hc
    obtain ⟨n, hn, rfl⟩ := exists_of_mem_hexDigits hc
    exact isLowerHex_hexDigitChar n hn
  · intro c hc
    obtain ⟨n, hn, rfl⟩ := exists_of_mem_hexDigits hc
    exact toNat_hexDigitChar n hn

/-- The digest of a text has the form of a digest. -/
theorem isDigest_hexDigest (text : String) : isDigest (hexDigest crates text) = true :=
  isDigest_of_length (by simp)

/-! ### UUIDs in any form -/

/-- A hyphenated text has its digits and hyphens. -/
private theorem mem_of_unhyphenate {cs ds : List Char} (h : unhyphenate cs = some ds) {c : Char}
    (hc : c ∈ cs) : c = '-' ∨ c ∈ ds := by
  unfold unhyphenate at h
  split at h
  · next hform =>
    obtain ⟨hlength, h8, h13, h18, h23⟩ := hform
    cases h
    obtain ⟨i, hi⟩ := List.mem_iff_getElem?.mp hc
    -- the piece of the text that position `i` is in
    have hpiece : ∀ lo n, lo ≤ i → i < lo + n → c ∈ (cs.drop lo).take n := by
      intro lo n hlo hhi
      refine List.mem_iff_getElem?.mpr ⟨i - lo, ?_⟩
      rw [List.getElem?_take_of_lt (by omega), List.getElem?_drop,
        show lo + (i - lo) = i by omega]
      exact hi
    have hhyphen : ∀ k, cs[k]? = some '-' → i = k → c = '-' := by
      rintro k hk rfl
      exact Option.some.inj (hi.symm.trans hk)
    have hlt : i < 36 := by
      by_contra hge
      rw [List.getElem?_eq_none (by omega)] at hi
      cases hi
    simp only [List.mem_append]
    have hpositions : i < 8 ∨ i = 8 ∨ (9 ≤ i ∧ i < 9 + 4) ∨ i = 13 ∨ (14 ≤ i ∧ i < 14 + 4) ∨
        i = 18 ∨ (19 ≤ i ∧ i < 19 + 4) ∨ i = 23 ∨ (24 ≤ i ∧ i < 24 + 12) := by
      omega
    rcases hpositions with hi | hi | hi | hi | hi | hi | hi | hi | hi
    · exact .inr (.inl (.inl (.inl (.inl (by simpa using hpiece 0 8 (by omega) (by omega))))))
    · exact .inl (hhyphen 8 h8 hi)
    · exact .inr (.inl (.inl (.inl (.inr (hpiece 9 4 hi.1 hi.2)))))
    · exact .inl (hhyphen 13 h13 hi)
    · exact .inr (.inl (.inl (.inr (hpiece 14 4 hi.1 hi.2))))
    · exact .inl (hhyphen 18 h18 hi)
    · exact .inr (.inl (.inr (hpiece 19 4 hi.1 hi.2)))
    · exact .inl (hhyphen 23 h23 hi)
    · exact .inr (.inr (List.mem_of_mem_take (hpiece 24 12 hi.1 hi.2)))
  · cases h

/-- Every form of a UUID is short and printable ASCII. -/
theorem parseStr_printable
    (h : Uuid.parseStr value = some digits) :
    (32 ≤ value.toList.length ∧ value.toList.length ≤ 45) ∧
      ∀ c ∈ value.toList, 0x20 < c.toNat ∧ c.toNat < 0x7f := by
  obtain ⟨ds, hds, h⟩ := Option.bind_eq_some_iff.mp h
  have hdigit : ∀ c ∈ ds, 0x20 < c.toNat ∧ c.toNat < 0x7f := fun c hc => by
    have hc := (mapM_hexVal? h).2 c hc
    omega
  have hplain : ∀ cs, unhyphenate cs = some ds → ∀ c ∈ cs, 0x20 < c.toNat ∧ c.toNat < 0x7f := by
    intro cs hcs c hc
    rcases mem_of_unhyphenate hcs hc with rfl | hc
    · decide
    · exact hdigit c hc
  generalize value.toList = cs at hds ⊢
  split at hds
  · next hlength =>
    cases hds
    exact ⟨⟨by omega, by omega⟩, hdigit⟩
  split at hds
  · next hlength => exact ⟨⟨by omega, by omega⟩, hplain cs hds⟩
  split at hds
  · next hform =>
    -- braces around the hyphenated form
    obtain ⟨hlength, hhead, hlast⟩ := hform
    refine ⟨⟨by omega, by omega⟩, fun c hc => ?_⟩
    obtain ⟨middle, rfl⟩ : ∃ middle, cs = '\x7b' :: (middle ++ ['\x7d']) := by
      obtain ⟨rest, rfl⟩ := List.head?_eq_some_iff.mp hhead
      obtain ⟨front, hfront⟩ := List.getLast?_eq_some_iff.mp hlast
      cases front with
      | nil => simp_all
      | cons b front =>
        rw [List.cons_append, List.cons.injEq] at hfront
        exact ⟨front, by rw [hfront.2]⟩
    have hmiddle : (('\x7b' :: (middle ++ ['\x7d'])).drop 1).take 36 = middle := by
      simp only [List.length_cons, List.length_append, List.length_nil] at hlength
      rw [List.drop_succ_cons, List.drop_zero, List.take_append_of_le_length (by omega),
        List.take_of_length_le (by omega)]
    rw [hmiddle] at hds
    simp only [List.mem_cons, List.mem_append, List.not_mem_nil, or_false] at hc
    rcases hc with rfl | hc | rfl
    · decide
    · exact hplain middle hds c hc
    · decide
  split at hds
  · next hform =>
    obtain ⟨hlength, htake⟩ := hform
    refine ⟨⟨by omega, by omega⟩, fun c hc => ?_⟩
    rw [← List.take_append_drop 9 cs, htake] at hc
    have hurn : ∀ c ∈ "urn:uuid:".toList, 0x20 < c.toNat ∧ c.toNat < 0x7f :=
      forall_mem_of_all (by decide)
    rcases List.mem_append.mp hc with hc | hc
    · exact hurn c hc
    · exact hplain _ hds c hc
  · cases hds

/-- Every form of a UUID is a name. -/
theorem parseStr_isName
    (h : Uuid.parseStr value = some digits) :
    value.utf8ByteSize ≤ 45 ∧ containsNul value = false ∧ isName value 128 = true := by
  obtain ⟨hlength, hchars⟩ := parseStr_printable h
  have hsize := @utf8ByteSize_of_ascii value.toList fun c hc => by
    have hc := hchars c hc
    omega
  rw [String.ofList_toList] at hsize
  have hnul : containsNul value = false := containsNul_of_pos fun c hc => by
    have hc := hchars c hc
    omega
  have hcontrol : value.toList.any isControl = false := by
    refine List.any_eq_false.mpr fun c hc => ?_
    have hc := hchars c hc
    simp only [isControl, Bool.or_eq_true, Bool.and_eq_true, decide_eq_true_eq]
    omega
  have hempty : value.isEmpty = false := by
    rw [← Bool.not_eq_true, String.isEmpty_iff]
    rintro rfl
    simp at hlength
  refine ⟨by omega, hnul, ?_⟩
  simp only [isName, hempty, hnul, hcontrol, Bool.not_false, Bool.true_and, Bool.and_true,
    decide_eq_true_eq]
  omega

end AscensionWatchdog
