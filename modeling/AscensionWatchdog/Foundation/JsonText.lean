import AscensionWatchdog.Foundation.Json

/-!
# Compact text is unambiguous

Two JSON values with the same compact text are the same value (`Value.render_injective`), as
long as their numbers are written with characters of numbers (`Value.lexical`). A digest of the
text therefore binds every field of the value, up to collisions of the digest.

The text of a value is a **prefix code**: `Value.chars_append_inj` reads the value off the front
of a longer text and leaves the rest. A literal ends at its first unescaped quote, an array or
object at its closing bracket, and a number where the next character is not one of a number.
-/

namespace Foundation.Json

/-! ### String literals -/

/-- The value of a lowercase hexadecimal digit. -/
def hexValue (c : Char) : Nat :=
  if c.toNat < 58 then c.toNat - 48 else c.toNat - 87

/-- The character that a short escape stands for. -/
def unescapeShort (c : Char) : Char :=
  if c = 'b' then Char.ofNat 0x08
  else if c = 't' then Char.ofNat 0x09
  else if c = 'n' then Char.ofNat 0x0a
  else if c = 'f' then Char.ofNat 0x0c
  else if c = 'r' then Char.ofNat 0x0d
  else c

/-- Read one character of a string literal. -/
def unescape : List Char → Option (Char × List Char)
  | '\\' :: 'u' :: _ :: _ :: a :: b :: rest =>
    some (Char.ofNat (16 * hexValue a + hexValue b), rest)
  | '\\' :: c :: rest => some (unescapeShort c, rest)
  | c :: rest => some (c, rest)
  | [] => none

theorem hexValue_hexDigitChar {n : Nat} (h : n < 16) : hexValue (hexDigitChar n) = n := by
  revert n
  decide

theorem unescape_escapeChar (c : Char) (rest : List Char) :
    unescape (escapeChar c ++ rest) = some (c, rest) := by
  have hof : ∀ {n}, c.toNat = n → c = Char.ofNat n := fun h => by rw [← h, Char.ofNat_toNat]
  unfold escapeChar
  split_ifs with hquote hbackslash hb ht hn hf hr hcontrol
  · rw [hof hquote]
    rfl
  · rw [hbackslash]
    rfl
  · rw [hof hb]
    rfl
  · rw [hof ht]
    rfl
  · rw [hof hn]
    rfl
  · rw [hof hf]
    rfl
  · rw [hof hr]
    rfl
  · have hvalue : 16 * hexValue (hexDigitChar (c.toNat / 16)) +
        hexValue (hexDigitChar (c.toNat % 16)) = c.toNat := by
      rw [hexValue_hexDigitChar (by omega), hexValue_hexDigitChar (by omega)]
      omega
    change some (Char.ofNat (16 * _ + _), rest) = _
    rw [hvalue, Char.ofNat_toNat]
  · -- any other character stands for itself
    cases rest <;> simp [unescape, hbackslash]

/-- No character is written with a quote at the front. -/
theorem escapeChar_ne_quote {c : Char} {x y : List Char} : escapeChar c ++ x ≠ '\x22' :: y := by
  unfold escapeChar
  split_ifs with hquote
  all_goals intro h
  all_goals have hhead := (List.cons.inj h).1
  all_goals first | exact absurd hhead (by decide) | skip
  exact hquote (by rw [hhead]; rfl)

private theorem body_append_inj {cs cs' r r' : List Char}
    (h : cs.flatMap escapeChar ++ '\x22' :: r = cs'.flatMap escapeChar ++ '\x22' :: r') :
    cs = cs' ∧ r = r' := by
  induction cs generalizing cs' with
  | nil =>
    cases cs' with
    | nil => exact ⟨rfl, (List.cons.inj h).2⟩
    | cons c' cs' =>
      rw [List.flatMap_cons, List.append_assoc] at h
      exact absurd h.symm escapeChar_ne_quote
  | cons c cs ih =>
    cases cs' with
    | nil =>
      rw [List.flatMap_cons, List.append_assoc] at h
      exact absurd h escapeChar_ne_quote
    | cons c' cs' =>
      rw [List.flatMap_cons, List.flatMap_cons, List.append_assoc, List.append_assoc] at h
      have hread := congrArg unescape h
      rw [unescape_escapeChar, unescape_escapeChar] at hread
      obtain ⟨rfl, hrest⟩ := Prod.mk.inj (Option.some.inj hread)
      obtain ⟨rfl, rfl⟩ := ih hrest
      exact ⟨rfl, rfl⟩

/-- A string literal is read off the front of a text. -/
theorem stringChars_append_inj {s s' : String} {r r' : List Char}
    (h : stringChars s ++ r = stringChars s' ++ r') : s = s' ∧ r = r' := by
  simp only [stringChars, List.cons_append, List.append_assoc, List.nil_append,
    List.cons.injEq, true_and] at h
  obtain ⟨hs, hr⟩ := body_append_inj h
  exact ⟨String.toList_inj.mp hs, hr⟩

/-! ### Values -/

/-- The characters with which a number is written. -/
def numberChar (c : Char) : Bool :=
  c.isDigit || c == '-' || c == '+' || c == '.' || c == 'e' || c == 'E'

mutual

/-- Every number of the value is written with characters of numbers. -/
def Value.lexical : Value → Bool
  | .number lexeme => !lexeme.toList.isEmpty && lexeme.toList.all numberChar
  | .array items => items.lexical
  | .object fields => fields.lexical
  | _ => true

def Items.lexical : Items → Bool
  | .nil => true
  | .cons v rest => v.lexical && rest.lexical

def Fields.lexical : Fields → Bool
  | .nil => true
  | .cons _ v rest => v.lexical && rest.lexical

end

/-- A text that does not go on with a number. -/
def Stops (r : List Char) : Prop :=
  ∀ c ∈ r.head?, numberChar c = false

private theorem takeWhile_number {cs r : List Char} (hcs : cs.all numberChar = true)
    (hr : Stops r) : (cs ++ r).takeWhile numberChar = cs := by
  have hnil : r.takeWhile numberChar = [] := by
    cases r with
    | nil => rfl
    | cons c r => rw [List.takeWhile_cons, hr c rfl]; rfl
  rw [List.takeWhile_append_of_pos (by simpa using hcs), hnil, List.append_nil]

private theorem number_append_inj {cs cs' r r' : List Char} (hcs : cs.all numberChar = true)
    (hcs' : cs'.all numberChar = true) (hr : Stops r) (hr' : Stops r')
    (h : cs ++ r = cs' ++ r') : cs = cs' ∧ r = r' := by
  have hprefix := congrArg (List.takeWhile numberChar) h
  rw [takeWhile_number hcs hr, takeWhile_number hcs' hr'] at hprefix
  subst hprefix
  exact ⟨rfl, List.append_cancel_left h⟩

/-- The kinds of values, which the first character of the text tells apart. -/
inductive Kind where
  | null
  | bool
  | number
  | string
  | array
  | object
  | other
  deriving DecidableEq

def Kind.ofChar (c : Char) : Kind :=
  if c = 'n' then .null
  else if c = 't' || c = 'f' then .bool
  else if c = '\x22' then .string
  else if c = '[' then .array
  else if c = '\x7b' then .object
  else if numberChar c then .number
  else .other

def Value.kind : Value → Kind
  | .null => .null
  | .bool _ => .bool
  | .number _ => .number
  | .string _ => .string
  | .array _ => .array
  | .object _ => .object

private theorem kind_of_numberChar {c : Char} (h : numberChar c = true) :
    Kind.ofChar c = .number := by
  have hne : ∀ d, numberChar d = false → c ≠ d := fun d hd hcd => by
    rw [hcd, hd] at h
    cases h
  simp [Kind.ofChar, h, hne 'n' (by decide), hne 't' (by decide), hne 'f' (by decide),
    hne '\x22' (by decide), hne '[' (by decide), hne '\x7b' (by decide)]

/-- The text of a value starts with a character of its kind. -/
theorem Value.head_kind {v : Value} (hv : v.lexical = true) :
    ∃ c t, v.chars = c :: t ∧ Kind.ofChar c = v.kind := by
  cases v with
  | null => exact ⟨'n', "ull".toList, rfl, rfl⟩
  | bool b =>
    cases b
    · exact ⟨'f', "alse".toList, rfl, rfl⟩
    · exact ⟨'t', "rue".toList, rfl, rfl⟩
  | number lexeme =>
    rw [Value.lexical, Bool.and_eq_true] at hv
    obtain ⟨hne, hall⟩ := hv
    cases hcs : lexeme.toList with
    | nil =>
      rw [hcs] at hne
      cases hne
    | cons c t =>
      rw [hcs, List.all_cons, Bool.and_eq_true] at hall
      exact ⟨c, t, by rw [Value.chars, hcs], kind_of_numberChar hall.1⟩
  | string s => exact ⟨'\x22', _, rfl, rfl⟩
  | array items => exact ⟨'[', _, rfl, rfl⟩
  | object fields => exact ⟨'\x7b', _, rfl, rfl⟩

private theorem Value.kind_eq {v v' : Value} {r r' : List Char} (hv : v.lexical = true)
    (hv' : v'.lexical = true) (h : v.chars ++ r = v'.chars ++ r') : v.kind = v'.kind := by
  obtain ⟨c, t, ht, hkind⟩ := Value.head_kind hv
  obtain ⟨c', t', ht', hkind'⟩ := Value.head_kind hv'
  rw [ht, ht'] at h
  rw [← hkind, ← hkind', (List.cons.inj h).1]

private theorem Value.chars_ne_close {v : Value} {x y : List Char} {c : Char}
    (hv : v.lexical = true) (hc : Kind.ofChar c = .other) : v.chars ++ x ≠ c :: y := by
  intro h
  obtain ⟨d, t, ht, hkind⟩ := Value.head_kind hv
  rw [ht] at h
  rw [(List.cons.inj h).1, hc] at hkind
  cases v <;> cases hkind

private theorem stops_of_kind {c : Char} {r : List Char} (hc : numberChar c = false) :
    Stops (c :: r) := by
  intro d hd
  cases hd
  exact hc

/-- What follows the first element of an array: a comma and the others, or nothing. -/
def Items.tail : Items → List Char
  | .nil => []
  | .cons v rest => ',' :: (v.chars ++ rest.tail)

/-- What follows the first field of an object: a comma and the others, or nothing. -/
def Fields.tail : Fields → List Char
  | .nil => []
  | .cons key v rest => ',' :: (stringChars key ++ ':' :: (v.chars ++ rest.tail))

theorem Items.chars_cons (v : Value) :
    ∀ rest : Items, (Items.cons v rest).chars = v.chars ++ rest.tail
  | .nil => by rw [Items.chars, Items.tail, List.append_nil]
  | .cons w rest => by rw [Items.chars, Items.tail, Items.chars_cons w rest]

theorem Fields.chars_cons (key : String) (v : Value) :
    ∀ rest : Fields,
      (Fields.cons key v rest).chars = stringChars key ++ ':' :: (v.chars ++ rest.tail)
  | .nil => by rw [Fields.chars, Fields.tail, List.append_nil]
  | .cons key' w rest => by rw [Fields.chars, Fields.tail, Fields.chars_cons key' w rest]

private theorem Items.stops_tail (items : Items) (r : List Char) :
    Stops (items.tail ++ ']' :: r) := by
  cases items with
  | nil => exact stops_of_kind (by decide)
  | cons v rest => exact stops_of_kind (by decide)

private theorem Fields.stops_tail (fields : Fields) (r : List Char) :
    Stops (fields.tail ++ '\x7d' :: r) := by
  cases fields with
  | nil => exact stops_of_kind (by decide)
  | cons key v rest => exact stops_of_kind (by decide)

mutual

/-- The text of a value is read off the front of a longer text. -/
theorem Value.chars_append_inj (v v' : Value) {r r' : List Char} (hv : v.lexical = true)
    (hv' : v'.lexical = true) (hr : Stops r) (hr' : Stops r')
    (h : v.chars ++ r = v'.chars ++ r') : v = v' ∧ r = r' := by
  have hkind := Value.kind_eq hv hv' h
  cases v with
  | null =>
    cases v' <;> cases hkind
    exact ⟨rfl, List.append_cancel_left h⟩
  | bool b =>
    cases v' <;> cases hkind
    rename_i b'
    cases b <;> cases b'
    · exact ⟨rfl, List.append_cancel_left h⟩
    · exact absurd (List.cons.inj h).1 (by decide)
    · exact absurd (List.cons.inj h).1 (by decide)
    · exact ⟨rfl, List.append_cancel_left h⟩
  | number lexeme =>
    cases v' <;> cases hkind
    rename_i lexeme'
    rw [Value.lexical, Bool.and_eq_true] at hv hv'
    obtain ⟨hcs, hrest⟩ := number_append_inj hv.2 hv'.2 hr hr' h
    exact ⟨by rw [String.toList_inj.mp hcs], hrest⟩
  | string s =>
    cases v' <;> cases hkind
    obtain ⟨rfl, hrest⟩ := stringChars_append_inj h
    exact ⟨rfl, hrest⟩
  | array items =>
    cases v' <;> cases hkind
    rename_i items'
    simp only [Value.chars, List.cons_append, List.append_assoc, List.nil_append,
      List.cons.injEq, true_and] at h
    obtain ⟨rfl, hrest⟩ := Items.chars_append_inj items items' hv hv' h
    exact ⟨rfl, hrest⟩
  | object fields =>
    cases v' <;> cases hkind
    rename_i fields'
    simp only [Value.chars, List.cons_append, List.append_assoc, List.nil_append,
      List.cons.injEq, true_and] at h
    obtain ⟨rfl, hrest⟩ := Fields.chars_append_inj fields fields' hv hv' h
    exact ⟨rfl, hrest⟩

theorem Items.chars_append_inj (items items' : Items) {r r' : List Char}
    (hv : items.lexical = true) (hv' : items'.lexical = true)
    (h : items.chars ++ ']' :: r = items'.chars ++ ']' :: r') : items = items' ∧ r = r' := by
  match items, items' with
  | .nil, .nil => exact ⟨rfl, (List.cons.inj h).2⟩
  | .nil, .cons w rest' =>
    rw [Items.lexical, Bool.and_eq_true] at hv'
    rw [Items.chars_cons, List.append_assoc] at h
    exact absurd h.symm (Value.chars_ne_close hv'.1 rfl)
  | .cons v rest, .nil =>
    rw [Items.lexical, Bool.and_eq_true] at hv
    rw [Items.chars_cons, List.append_assoc] at h
    exact absurd h (Value.chars_ne_close hv.1 rfl)
  | .cons v rest, .cons w rest' =>
    rw [Items.lexical, Bool.and_eq_true] at hv hv'
    rw [Items.chars_cons, Items.chars_cons, List.append_assoc, List.append_assoc] at h
    obtain ⟨rfl, htail⟩ := Value.chars_append_inj v w hv.1 hv'.1 (rest.stops_tail r)
      (rest'.stops_tail r') h
    obtain ⟨rfl, hr⟩ := Items.tail_append_inj rest rest' hv.2 hv'.2 htail
    exact ⟨rfl, hr⟩

theorem Items.tail_append_inj (items items' : Items) {r r' : List Char}
    (hv : items.lexical = true) (hv' : items'.lexical = true)
    (h : items.tail ++ ']' :: r = items'.tail ++ ']' :: r') : items = items' ∧ r = r' := by
  match items, items' with
  | .nil, .nil => exact ⟨rfl, (List.cons.inj h).2⟩
  | .nil, .cons w rest' => exact absurd (List.cons.inj h).1 (by decide)
  | .cons v rest, .nil => exact absurd (List.cons.inj h).1 (by decide)
  | .cons v rest, .cons w rest' =>
    rw [Items.lexical, Bool.and_eq_true] at hv hv'
    simp only [Items.tail, List.cons_append, List.append_assoc, List.cons.injEq, true_and] at h
    obtain ⟨rfl, htail⟩ := Value.chars_append_inj v w hv.1 hv'.1 (rest.stops_tail r)
      (rest'.stops_tail r') h
    obtain ⟨rfl, hr⟩ := Items.tail_append_inj rest rest' hv.2 hv'.2 htail
    exact ⟨rfl, hr⟩

theorem Fields.chars_append_inj (fields fields' : Fields) {r r' : List Char}
    (hv : fields.lexical = true) (hv' : fields'.lexical = true)
    (h : fields.chars ++ '\x7d' :: r = fields'.chars ++ '\x7d' :: r') :
    fields = fields' ∧ r = r' := by
  match fields, fields' with
  | .nil, .nil => exact ⟨rfl, (List.cons.inj h).2⟩
  | .nil, .cons key' w rest' =>
    rw [Fields.chars_cons] at h
    exact absurd (List.cons.inj h).1 (by decide)
  | .cons key v rest, .nil =>
    rw [Fields.chars_cons] at h
    exact absurd (List.cons.inj h).1 (by decide)
  | .cons key v rest, .cons key' w rest' =>
    rw [Fields.lexical, Bool.and_eq_true] at hv hv'
    simp only [Fields.chars_cons, List.append_assoc, List.cons_append] at h
    obtain ⟨rfl, hvalue⟩ := stringChars_append_inj h
    obtain ⟨rfl, htail⟩ := Value.chars_append_inj v w hv.1 hv'.1 (rest.stops_tail r)
      (rest'.stops_tail r') (List.cons.inj hvalue).2
    obtain ⟨rfl, hr⟩ := Fields.tail_append_inj rest rest' hv.2 hv'.2 htail
    exact ⟨rfl, hr⟩

theorem Fields.tail_append_inj (fields fields' : Fields) {r r' : List Char}
    (hv : fields.lexical = true) (hv' : fields'.lexical = true)
    (h : fields.tail ++ '\x7d' :: r = fields'.tail ++ '\x7d' :: r') :
    fields = fields' ∧ r = r' := by
  match fields, fields' with
  | .nil, .nil => exact ⟨rfl, (List.cons.inj h).2⟩
  | .nil, .cons key' w rest' => exact absurd (List.cons.inj h).1 (by decide)
  | .cons key v rest, .nil => exact absurd (List.cons.inj h).1 (by decide)
  | .cons key v rest, .cons key' w rest' =>
    rw [Fields.lexical, Bool.and_eq_true] at hv hv'
    simp only [Fields.tail, List.cons_append, List.append_assoc, List.cons.injEq, true_and] at h
    obtain ⟨rfl, hvalue⟩ := stringChars_append_inj h
    obtain ⟨rfl, htail⟩ := Value.chars_append_inj v w hv.1 hv'.1 (rest.stops_tail r)
      (rest'.stops_tail r') (List.cons.inj hvalue).2
    obtain ⟨rfl, hr⟩ := Fields.tail_append_inj rest rest' hv.2 hv'.2 htail
    exact ⟨rfl, hr⟩

end

/-- **Compact text is unambiguous**: it determines the value. -/
theorem Value.render_injective {v v' : Value} (hv : v.lexical = true) (hv' : v'.lexical = true)
    (h : v.render = v'.render) : v = v' := by
  have hchars : v.chars = v'.chars := by
    have := congrArg String.toList h
    rwa [Value.render, Value.render, String.toList_ofList, String.toList_ofList] at this
  have hstops : Stops [] := by simp [Stops]
  refine (Value.chars_append_inj v v' hv hv' hstops hstops ?_).1
  rw [hchars]

/-- Decimal numerals are lexemes. -/
theorem Value.lexical_ofNat (n : Nat) : (Value.ofNat n).lexical = true := by
  have htext : (toString n).toList = Nat.toDigits 10 n := Nat.toList_repr
  rw [Value.ofNat, Value.lexical, htext, Bool.and_eq_true, List.all_eq_true]
  refine ⟨by simp [Nat.toDigits_ne_nil], fun c hc => ?_⟩
  have hdigit : c.isDigit = true := Nat.isDigit_of_mem_toDigits (b := 10) (by decide) (by decide) hc
  simp [numberChar, hdigit]

/-- Different numbers have different numerals. -/
theorem toString_injective {m n : Nat} (h : toString m = toString n) : m = n := by
  have hdigits : Nat.toDigits 10 m = Nat.toDigits 10 n := by
    have htext : ∀ k : Nat, (toString k).toList = Nat.toDigits 10 k := fun _ => Nat.toList_repr
    rw [← htext, ← htext, h]
  rw [← Nat.ofDigitChars_ten_toDigits (n := m), hdigits, Nat.ofDigitChars_ten_toDigits]

end Foundation.Json
