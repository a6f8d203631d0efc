import AscensionWatchdog.Foundation.Binary

/-!
# The secure hash SHA-256

The definition of SHA-256 in FIPS 180-4, for messages of whole bytes: the message is padded with
a one bit, zeros and its length to a multiple of 64 bytes, and the blocks are compressed one
after another into eight words.

What a program that hashes piece by piece needs is that the blocks of a text are compressed one
after another wherever it is cut between blocks (`hashBlocks_append`).
-/

namespace Foundation.Sha256

open Foundation.Binary

/-! ### Words -/

/-- The word rotated to the right. -/
def rotr (n : UInt32) (x : UInt32) : UInt32 :=
  (x >>> n) ||| (x <<< (32 - n))

def ch (x y z : UInt32) : UInt32 :=
  (x &&& y) ^^^ (~~~x &&& z)

def maj (x y z : UInt32) : UInt32 :=
  (x &&& y) ^^^ (x &&& z) ^^^ (y &&& z)

def bigSigma0 (x : UInt32) : UInt32 :=
  rotr 2 x ^^^ rotr 13 x ^^^ rotr 22 x

def bigSigma1 (x : UInt32) : UInt32 :=
  rotr 6 x ^^^ rotr 11 x ^^^ rotr 25 x

def smallSigma0 (x : UInt32) : UInt32 :=
  rotr 7 x ^^^ rotr 18 x ^^^ (x >>> 3)

def smallSigma1 (x : UInt32) : UInt32 :=
  rotr 17 x ^^^ rotr 19 x ^^^ (x >>> 10)

/-- The first 32 bits of the fractional parts of the cube roots of the first 64 primes. -/
def constants : List UInt32 :=
  [0x428a2f98, 0x71374491, 0xb5c0fbcf, 0xe9b5dba5, 0x3956c25b, 0x59f111f1, 0x923f82a4, 0xab1c5ed5,
    0xd807aa98, 0x12835b01, 0x243185be, 0x550c7dc3, 0x72be5d74, 0x80deb1fe, 0x9bdc06a7, 0xc19bf174,
    0xe49b69c1, 0xefbe4786, 0x0fc19dc6, 0x240ca1cc, 0x2de92c6f, 0x4a7484aa, 0x5cb0a9dc, 0x76f988da,
    0x983e5152, 0xa831c66d, 0xb00327c8, 0xbf597fc7, 0xc6e00bf3, 0xd5a79147, 0x06ca6351, 0x14292967,
    0x27b70a85, 0x2e1b2138, 0x4d2c6dfc, 0x53380d13, 0x650a7354, 0x766a0abb, 0x81c2c92e, 0x92722c85,
    0xa2bfe8a1, 0xa81a664b, 0xc24b8b70, 0xc76c51a3, 0xd192e819, 0xd6990624, 0xf40e3585, 0x106aa070,
    0x19a4c116, 0x1e376c08, 0x2748774c, 0x34b0bcb5, 0x391c0cb3, 0x4ed8aa4a, 0x5b9cca4f, 0x682e6ff3,
    0x748f82ee, 0x78a5636f, 0x84c87814, 0x8cc70208, 0x90befffa, 0xa4506ceb, 0xbef9a3f7, 0xc67178f2]

/-- The constants are these roots: `n` is the whole part of the root of a prime `p`. -/
example :
    let primes := (List.range 312).filter fun p => 2 ≤ p && (List.range p).all fun d =>
      d < 2 || p % d ≠ 0
    (primes.zip constants).all (fun (p, k) => (List.range 7).any fun n =>
      (n * 2 ^ 32 + k.toNat) ^ 3 ≤ p * 2 ^ 96 && p * 2 ^ 96 < (n * 2 ^ 32 + k.toNat + 1) ^ 3) ∧
    primes.length = 64 := by
  decide +kernel

/-! ### Compression -/

/-- The eight working variables, and the eight words of a hash value. -/
structure Registers where
  a : UInt32
  b : UInt32
  c : UInt32
  d : UInt32
  e : UInt32
  f : UInt32
  g : UInt32
  h : UInt32
  deriving DecidableEq, Repr

def Registers.words (r : Registers) : List UInt32 :=
  [r.a, r.b, r.c, r.d, r.e, r.f, r.g, r.h]

/-- The first 32 bits of the fractional parts of the square roots of the first eight primes. -/
def initialHash : Registers where
  a := 0x6a09e667
  b := 0xbb67ae85
  c := 0x3c6ef372
  d := 0xa54ff53a
  e := 0x510e527f
  f := 0x9b05688c
  g := 0x1f83d9ab
  h := 0x5be0cd19

/-- The message schedule of a block with the words `m`. -/
def schedule (m : Nat → UInt32) (t : Nat) : UInt32 :=
  if t < 16 then
    m t
  else
    smallSigma1 (schedule m (t - 2)) + schedule m (t - 7) + smallSigma0 (schedule m (t - 15)) +
      schedule m (t - 16)
termination_by t

/-- One round, with the constant `k` and the word `w` of the schedule. -/
def Registers.round (r : Registers) (k w : UInt32) : Registers :=
  let t1 := r.h + bigSigma1 r.e + ch r.e r.f r.g + k + w
  let t2 := bigSigma0 r.a + maj r.a r.b r.c
  { a := t1 + t2
    b := r.a
    c := r.b
    d := r.c
    e := r.d + t1
    f := r.e
    g := r.f
    h := r.g }

def Registers.add (r s : Registers) : Registers where
  a := r.a + s.a
  b := r.b + s.b
  c := r.c + s.c
  d := r.d + s.d
  e := r.e + s.e
  f := r.f + s.f
  g := r.g + s.g
  h := r.h + s.h

/-- The rounds before the round `n`. -/
def rounds (m : Nat → UInt32) (hash : Registers) (n : Nat) : Registers :=
  (List.range n).foldl (fun r t => r.round (constants.getD t 0) (schedule m t)) hash

def compressWords (hash : Registers) (m : Nat → UInt32) : Registers :=
  hash.add (rounds m hash 64)

/-! ### Messages -/

/-- A number in `n` bytes, the highest first. -/
def bigEndian (n x : Nat) : List UInt8 :=
  (littleEndian n x).reverse

theorem length_bigEndian (n x : Nat) : (bigEndian n x).length = n := by
  rw [bigEndian, List.length_reverse, length_littleEndian]

/-- The number of the bytes, the highest first. -/
def ofBigEndian (bytes : List UInt8) : Nat :=
  ofLittleEndian bytes.reverse

/-- The word `t` of a block. -/
def blockWord (block : List UInt8) (t : Nat) : UInt32 :=
  UInt32.ofNat (ofBigEndian ((block.drop (4 * t)).take 4))

def compress (hash : Registers) (block : List UInt8) : Registers :=
  compressWords hash (blockWord block)

/-- The compression of the whole blocks of a text, of 64 bytes each. -/
def hashBlocks (hash : Registers) (text : List UInt8) : Registers :=
  if 64 ≤ text.length then
    hashBlocks (compress hash (text.take 64)) (text.drop 64)
  else
    hash
termination_by text.length
decreasing_by
  rw [List.length_drop]
  omega

/-- The zero bytes of the padding: the fewest that leave 8 bytes of a block for the length. -/
def zeroCount (length : Nat) : Nat :=
  (119 - length % 64) % 64

/-- The padded message. -/
def pad (message : List UInt8) : List UInt8 :=
  message ++ [0x80] ++ List.replicate (zeroCount message.length) 0 ++
    bigEndian 8 (8 * message.length)

/-- **SHA-256** of a message of less than `2 ^ 61` bytes. -/
def sha256 (message : List UInt8) : List UInt8 :=
  (hashBlocks initialHash (pad message)).words.flatMap fun word => bigEndian 4 word.toNat

/-- Two hexadecimal digits for each byte. -/
def hex (bytes : List UInt8) : String :=
  String.ofList (bytes.flatMap fun byte =>
    [Nat.digitChar (byte.toNat / 16), Nat.digitChar (byte.toNat % 16)])

/-! ### Texts that are cut -/

theorem hashBlocks_of_lt {hash : Registers} {text : List UInt8} (h : text.length < 64) :
    hashBlocks hash text = hash := by
  rw [hashBlocks, if_neg (by omega)]

theorem hashBlocks_of_le {hash : Registers} {text : List UInt8} (h : 64 ≤ text.length) :
    hashBlocks hash text = hashBlocks (compress hash (text.take 64)) (text.drop 64) := by
  rw [hashBlocks, if_pos h]

/-- One block. -/
theorem hashBlocks_block {hash : Registers} {block : List UInt8} (h : block.length = 64) :
    hashBlocks hash block = compress hash block := by
  have hrest : (block.drop 64).length < 64 := by
    rw [List.length_drop]
    omega
  rw [hashBlocks_of_le (by omega), hashBlocks_of_lt hrest, List.take_of_length_le (by omega)]

/-- A text may be cut between two blocks. The induction is on the number of blocks before the
cut. -/
theorem hashBlocks_append {hash : Registers} {text more : List UInt8}
    (h : text.length % 64 = 0) :
    hashBlocks hash (text ++ more) = hashBlocks (hashBlocks hash text) more := by
  obtain ⟨n, hn⟩ := Nat.dvd_of_mod_eq_zero h
  clear h
  induction n generalizing hash text with
  | zero =>
    have hnil : text = [] := List.length_eq_zero_iff.mp hn
    have hempty : hashBlocks hash [] = hash := hashBlocks_of_lt (by decide)
    rw [hnil, List.nil_append, hempty]
  | succ n ih =>
    have hle : 64 ≤ text.length := by omega
    have hdrop : (text.drop 64).length = 64 * n := by
      rw [List.length_drop]
      omega
    have hlong : 64 ≤ (text ++ more).length := by
      rw [List.length_append]
      omega
    rw [hashBlocks_of_le hlong, hashBlocks_of_le hle, List.take_append_of_le_length hle,
      List.drop_append_of_le_length hle, ih hdrop]

end Foundation.Sha256
