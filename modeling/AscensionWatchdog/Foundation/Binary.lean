import Mathlib.Data.List.Basic
import AscensionWatchdog.Foundation.Checked

/-!
# Binary formats

A decoder takes bytes from the front of its input. It reads a format exactly when it returns a
value for the encodings of the valid values, followed by anything, and for nothing else
(`Reads`). This one equivalence gives a codec both of its directions: what was encoded is decoded
to the same value, and what is decoded has no other encoding. The rules below build it along the
structure of a decoder.

* `take n`, `byte` and `unsigned n` read bytes and numbers, `done` is the end of the input.
* `bind_run_eq_ok` takes a decoder apart at a bind. There is a form of it for each first part:
  `Reads.bind_run`, `byte_bind_run`, `lift_bind_run` for a check, and `done_bind_run`.
* `Reads.pair` and `Reads.counted` are for pairs and for lists behind their number.
* `Writes` is the same for an encoder that can refuse a value, with `Writes.bind_eq_ok` and
  `Writes.each`.
-/

namespace Foundation.Binary

/-! ### Numbers -/

/-- The low `n` bytes of a number, the lowest first. -/
def littleEndian : Nat → Nat → List UInt8
  | 0, _ => []
  | n + 1, x => UInt8.ofNat x :: littleEndian n (x / 256)

def ofLittleEndian : List UInt8 → Nat
  | [] => 0
  | byte :: bytes => byte.toNat + 256 * ofLittleEndian bytes

@[simp]
theorem length_littleEndian (n x : Nat) : (littleEndian n x).length = n := by
  induction n generalizing x with
  | zero => rfl
  | succ n ih => rw [littleEndian, List.length_cons, ih]

theorem ofLittleEndian_littleEndian {n x : Nat} (h : x < 256 ^ n) :
    ofLittleEndian (littleEndian n x) = x := by
  induction n generalizing x with
  | zero =>
    rw [Nat.pow_zero, Nat.lt_one_iff] at h
    rw [h, littleEndian, ofLittleEndian]
  | succ n ih =>
    have hrest : x / 256 < 256 ^ n := by
      rw [Nat.pow_succ] at h
      exact Nat.div_lt_of_lt_mul (by omega)
    have hbyte : (UInt8.ofNat x).toNat = x % 256 := by simp
    rw [littleEndian, ofLittleEndian, ih hrest, hbyte]
    exact Nat.mod_add_div x 256

theorem ofLittleEndian_lt (bytes : List UInt8) : ofLittleEndian bytes < 256 ^ bytes.length := by
  induction bytes with
  | nil => exact Nat.one_pos
  | cons byte bytes ih =>
    have hbyte := byte.toNat_lt
    rw [ofLittleEndian, List.length_cons, Nat.pow_succ]
    omega

theorem littleEndian_ofLittleEndian (bytes : List UInt8) :
    littleEndian bytes.length (ofLittleEndian bytes) = bytes := by
  induction bytes with
  | nil => rfl
  | cons byte bytes ih =>
    have hbyte := byte.toNat_lt
    have hrest : (byte.toNat + 256 * ofLittleEndian bytes) / 256 = ofLittleEndian bytes := by
      omega
    have hfirst : UInt8.ofNat (byte.toNat + 256 * ofLittleEndian bytes) = byte := by
      refine UInt8.toNat_inj.mp ?_
      rw [UInt8.toNat_ofNat']
      omega
    rw [ofLittleEndian, List.length_cons, littleEndian, hrest, ih, hfirst]

/-! ### Texts -/

/-- The bytes of a text in UTF-8. -/
def utf8 (text : String) : List UInt8 :=
  text.toByteArray.data.toList

/-- The text that bytes are, if they are one. -/
def ofUtf8? (bytes : List UInt8) : Option String :=
  String.fromUTF8? ⟨bytes.toArray⟩

@[simp]
theorem length_utf8 (text : String) : (utf8 text).length = text.utf8ByteSize := by
  rw [utf8, Array.length_toList]
  exact String.size_toByteArray

theorem ofUtf8?_eq_some {bytes : List UInt8} {text : String} :
    ofUtf8? bytes = some text ↔ utf8 text = bytes := by
  rw [ofUtf8?, String.fromUTF8?, utf8]
  constructor
  · intro h
    split at h
    · cases h
      rfl
    · cases h
  · rintro rfl
    rw [Array.toArray_toList]
    exact dif_pos text.isValidUTF8

/-! ### Decoders -/

/-- A decoder with errors `ε`: the state is what is left of the input. -/
abbrev Decoder (ε : Type) : Type → Type :=
  StateT (List UInt8) (Except ε)

variable {ε α β : Type} {input rest : List UInt8}

/-- Takes the next `n` bytes. -/
def take (n : Nat) (e : ε) : Decoder ε (List UInt8) := fun input =>
  if n ≤ input.length then .ok (input.take n, input.drop n) else .error e

/-- Takes the next byte. -/
def byte (e : ε) : Decoder ε UInt8
  | [] => .error e
  | byte :: rest => .ok (byte, rest)

/-- Takes a number of `n` bytes. -/
def unsigned (n : Nat) (e : ε) : Decoder ε Nat := do
  let bytes ← take n e
  pure (ofLittleEndian bytes)

/-- Nothing is left. -/
def done (e : ε) : Decoder ε Unit
  | [] => .ok ((), [])
  | _ :: _ => .error e

/-- Takes `n` values one after another. -/
def many (d : Decoder ε α) : Nat → Decoder ε (List α)
  | 0 => pure []
  | n + 1 => do
    let a ← d
    let as ← many d n
    pure (a :: as)

variable {d : Decoder ε α}

theorem bind_run_eq_ok {f : α → Decoder ε β} {b : β} :
    (d >>= f) input = .ok (b, rest) ↔
      ∃ a middle, d input = .ok (a, middle) ∧ f a middle = .ok (b, rest) := by
  have hbind : (d >>= f) input = (d input >>= fun p => f p.1 p.2) := rfl
  rw [hbind, bind_eq_ok]
  exact ⟨fun ⟨p, hp, h⟩ => ⟨p.1, p.2, hp, h⟩, fun ⟨a, middle, ha, h⟩ => ⟨(a, middle), ha, h⟩⟩

theorem pure_run_eq_ok {a b : α} :
    (pure a : Decoder ε α) input = .ok (b, rest) ↔ a = b ∧ input = rest := by
  have hpure : (pure a : Decoder ε α) input = .ok (a, input) := rfl
  rw [hpure, Except.ok.injEq, Prod.mk.injEq]

/-- A check takes nothing. -/
theorem lift_run_eq_ok {x : Except ε α} {a : α} :
    (StateT.lift x : Decoder ε α) input = .ok (a, rest) ↔ x = .ok a ∧ input = rest := by
  have hlift : (StateT.lift x : Decoder ε α) input = (x >>= fun a => .ok (a, input)) := rfl
  rw [hlift, bind_eq_ok]
  simp

variable {e : ε}

theorem take_run_eq_ok {n : Nat} {bytes : List UInt8} :
    take n e input = .ok (bytes, rest) ↔ bytes.length = n ∧ input = bytes ++ rest := by
  rw [take]
  split
  next hle =>
    rw [Except.ok.injEq, Prod.mk.injEq]
    constructor
    · rintro ⟨rfl, rfl⟩
      exact ⟨List.length_take_of_le hle, (List.take_append_drop n input).symm⟩
    · rintro ⟨rfl, rfl⟩
      exact ⟨List.take_left, List.drop_left⟩
  next hlt =>
    refine iff_of_false nofun ?_
    rintro ⟨rfl, rfl⟩
    rw [List.length_append] at hlt
    omega

theorem byte_run_eq_ok {b : UInt8} :
    byte e input = .ok (b, rest) ↔ input = b :: rest := by
  cases input with
  | nil => exact iff_of_false nofun nofun
  | cons first input => rw [byte, Except.ok.injEq, Prod.mk.injEq, List.cons.injEq]

theorem unsigned_run_eq_ok {n x : Nat} :
    unsigned n e input = .ok (x, rest) ↔ x < 256 ^ n ∧ input = littleEndian n x ++ rest := by
  rw [unsigned, bind_run_eq_ok]
  constructor
  · rintro ⟨bytes, middle, htake, hpure⟩
    obtain ⟨rfl, rfl⟩ := take_run_eq_ok.mp htake
    obtain ⟨rfl, rfl⟩ := pure_run_eq_ok.mp hpure
    exact ⟨ofLittleEndian_lt bytes, by rw [littleEndian_ofLittleEndian]⟩
  · rintro ⟨hlt, rfl⟩
    exact ⟨littleEndian n x, rest, take_run_eq_ok.mpr ⟨length_littleEndian n x, rfl⟩,
      pure_run_eq_ok.mpr ⟨ofLittleEndian_littleEndian hlt, rfl⟩⟩

theorem done_run_eq_ok {u : Unit} :
    done e input = .ok (u, rest) ↔ input = [] ∧ rest = [] := by
  cases input with
  | nil => simp [done, eq_comm]
  | cons first input => exact iff_of_false nofun nofun

/-- **Exactness.** The decoder returns a value for the encodings of the valid values only. -/
def Reads (d : Decoder ε α) (encode : α → List UInt8) (Valid : α → Prop) : Prop :=
  ∀ input a rest, d input = .ok (a, rest) ↔ Valid a ∧ input = encode a ++ rest

/-! ### Sequences -/

section Sequences

variable {f : α → Decoder ε β} {b : β}

theorem Reads.bind_run {encode : α → List UInt8} {Valid : α → Prop}
    (h : Reads d encode Valid) :
    (d >>= f) input = .ok (b, rest) ↔
      ∃ a middle, Valid a ∧ input = encode a ++ middle ∧ f a middle = .ok (b, rest) := by
  rw [bind_run_eq_ok]
  refine exists_congr fun a => exists_congr fun middle => ?_
  rw [h, and_assoc]

theorem byte_bind_run {f : UInt8 → Decoder ε β} :
    (byte e >>= f) input = .ok (b, rest) ↔
      ∃ first middle, input = first :: middle ∧ f first middle = .ok (b, rest) := by
  rw [bind_run_eq_ok]
  refine exists_congr fun first => exists_congr fun middle => ?_
  rw [byte_run_eq_ok]

theorem take_bind_run {f : List UInt8 → Decoder ε β} {n : Nat} :
    (take n e >>= f) input = .ok (b, rest) ↔
      ∃ bytes middle, bytes.length = n ∧ input = bytes ++ middle ∧
        f bytes middle = .ok (b, rest) := by
  rw [bind_run_eq_ok]
  refine exists_congr fun bytes => exists_congr fun middle => ?_
  rw [take_run_eq_ok, and_assoc]

theorem lift_bind_run {x : Except ε α} :
    ((StateT.lift x : Decoder ε α) >>= f) input = .ok (b, rest) ↔
      ∃ a, x = .ok a ∧ f a input = .ok (b, rest) := by
  rw [bind_run_eq_ok]
  constructor
  · rintro ⟨a, middle, hlift, h⟩
    obtain ⟨hx, rfl⟩ := lift_run_eq_ok.mp hlift
    exact ⟨a, hx, h⟩
  · rintro ⟨a, hx, h⟩
    exact ⟨a, input, lift_run_eq_ok.mpr ⟨hx, rfl⟩, h⟩

theorem done_bind_run {f : Unit → Decoder ε β} :
    (done e >>= f) input = .ok (b, rest) ↔ input = [] ∧ f () [] = .ok (b, rest) := by
  rw [bind_run_eq_ok]
  constructor
  · rintro ⟨⟨⟩, middle, hdone, h⟩
    obtain ⟨rfl, rfl⟩ := done_run_eq_ok.mp hdone
    exact ⟨rfl, h⟩
  · rintro ⟨rfl, h⟩
    exact ⟨(), [], done_run_eq_ok.mpr ⟨rfl, rfl⟩, h⟩

end Sequences

/-- A counted list. -/
theorem Reads.many {encode : α → List UInt8} {Valid : α → Prop}
    (h : Reads d encode Valid) {n : Nat} {as : List α} :
    Binary.many d n input = .ok (as, rest) ↔
      as.length = n ∧ (∀ a ∈ as, Valid a) ∧ input = as.flatMap encode ++ rest := by
  induction n generalizing input as with
  | zero =>
    rw [Binary.many, pure_run_eq_ok, List.length_eq_zero_iff]
    constructor
    · rintro ⟨rfl, rfl⟩
      exact ⟨rfl, nofun, rfl⟩
    · rintro ⟨rfl, -, rfl⟩
      exact ⟨rfl, rfl⟩
  | succ n ih =>
    rw [Binary.many, h.bind_run]
    constructor
    · rintro ⟨a, middle, hvalid, rfl, hmany⟩
      obtain ⟨as', last, hrest, hpure⟩ := bind_run_eq_ok.mp hmany
      obtain ⟨rfl, rfl⟩ := pure_run_eq_ok.mp hpure
      obtain ⟨hlength, hall, rfl⟩ := ih.mp hrest
      refine ⟨by rw [List.length_cons, hlength], List.forall_mem_cons.mpr ⟨hvalid, hall⟩, ?_⟩
      rw [List.flatMap_cons, List.append_assoc]
    · rintro ⟨hlength, hall, rfl⟩
      cases as with
      | nil => cases hlength
      | cons a as =>
        obtain ⟨hvalid, hall⟩ := List.forall_mem_cons.mp hall
        have hrest := ih.mpr ⟨Nat.succ_inj.mp hlength, hall, rfl⟩
        refine ⟨a, as.flatMap encode ++ rest, hvalid, ?_, ?_⟩
        · rw [List.flatMap_cons, List.append_assoc]
        · exact bind_run_eq_ok.mpr ⟨as, rest, hrest, pure_run_eq_ok.mpr ⟨rfl, rfl⟩⟩

/-- A list behind the number of its members. -/
theorem Reads.counted {count : Decoder ε Nat} {encodeCount : Nat → List UInt8}
    {ValidCount : Nat → Prop} {encode : α → List UInt8} {Valid : α → Prop}
    (hcount : Reads count encodeCount ValidCount) (h : Reads d encode Valid) :
    Reads (count >>= Binary.many d) (fun as => encodeCount as.length ++ as.flatMap encode)
      fun as => ValidCount as.length ∧ ∀ a ∈ as, Valid a := by
  intro input as rest
  simp only [hcount.bind_run, h.many]
  constructor
  · rintro ⟨n, middle, hvalid, rfl, rfl, hall, rfl⟩
    exact ⟨⟨hvalid, hall⟩, (List.append_assoc _ _ _).symm⟩
  · rintro ⟨⟨hvalid, hall⟩, rfl⟩
    exact ⟨as.length, _, hvalid, List.append_assoc _ _ _, rfl, hall, rfl⟩

theorem Reads.pair {encode : α → List UInt8} {Valid : α → Prop}
    {d' : Decoder ε β} {encode' : β → List UInt8} {Valid' : β → Prop}
    (h : Reads d encode Valid) (h' : Reads d' encode' Valid') :
    Reads (do
        let a ← d
        let b ← d'
        pure (a, b))
      (fun p => encode p.1 ++ encode' p.2) fun p => Valid p.1 ∧ Valid' p.2 := by
  rintro input ⟨a, b⟩ rest
  simp only [h.bind_run, h'.bind_run, pure_run_eq_ok, Prod.mk.injEq, List.append_assoc]
  constructor
  · rintro ⟨a', _, hvalid, rfl, b', _, hvalid', rfl, ⟨rfl, rfl⟩, rfl⟩
    exact ⟨⟨hvalid, hvalid'⟩, rfl⟩
  · rintro ⟨⟨hvalid, hvalid'⟩, rfl⟩
    exact ⟨a, _, hvalid, rfl, b, _, hvalid', rfl, ⟨rfl, rfl⟩, rfl⟩

/-! ### Encoders -/

/-- The encoder writes the valid values and refuses the others. -/
def Writes (put : α → Except ε (List UInt8)) (encode : α → List UInt8) (Valid : α → Prop) : Prop :=
  ∀ a bytes, put a = .ok bytes ↔ Valid a ∧ encode a = bytes

/-- Writes the members of a list one after another. -/
def each (put : α → Except ε (List UInt8)) : List α → Except ε (List UInt8)
  | [] => pure []
  | a :: as => do
    let first ← put a
    let others ← each put as
    pure (first ++ others)

section Encoders

variable {put : α → Except ε (List UInt8)} {encode : α → List UInt8} {Valid : α → Prop}

theorem Writes.bind_eq_ok (h : Writes put encode Valid) {a : α}
    {f : List UInt8 → Except ε β} {b : β} :
    (put a >>= f) = .ok b ↔ Valid a ∧ f (encode a) = .ok b := by
  rw [Foundation.bind_eq_ok]
  constructor
  · rintro ⟨bytes, hput, hf⟩
    obtain ⟨hvalid, rfl⟩ := (h a bytes).mp hput
    exact ⟨hvalid, hf⟩
  · rintro ⟨hvalid, hf⟩
    exact ⟨encode a, (h a _).mpr ⟨hvalid, rfl⟩, hf⟩

theorem Writes.each (h : Writes put encode Valid) :
    Writes (each put) (fun as => as.flatMap encode) fun as => ∀ a ∈ as, Valid a := by
  intro as bytes
  induction as generalizing bytes with
  | nil => simp [Binary.each, pure_eq_ok]
  | cons a as ih =>
    simp only [Binary.each, h.bind_eq_ok, List.forall_mem_cons, and_assoc, List.flatMap_cons]
    refine and_congr_right fun _ => ?_
    rw [Foundation.bind_eq_ok]
    constructor
    · rintro ⟨others, hothers, hpure⟩
      obtain ⟨hall, rfl⟩ := (ih others).mp hothers
      exact ⟨hall, pure_eq_ok.mp hpure⟩
    · rintro ⟨hall, rfl⟩
      exact ⟨_, (ih _).mpr ⟨hall, rfl⟩, rfl⟩

end Encoders

end Foundation.Binary
