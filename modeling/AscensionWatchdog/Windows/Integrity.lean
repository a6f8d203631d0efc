import AscensionWatchdog.Foundation.Checked
import AscensionWatchdog.Foundation.Sha256

/-!
# The digest of an executable

Before it starts an executable, the Windows adapter hashes the file it holds open. It reads the
file piece by piece into a hash of its own: the bytes that do not fill a block wait in a buffer
of 64 bytes, whose other bytes are stale, and the end of the message is padded in that buffer,
in one block or in two.

The reference is the definition of SHA-256 for a whole message (`Foundation.Sha256`). What the
state stands for is said by `Represents`: its words are the hash of the whole blocks so far, the
first bytes of its buffer are the rest of the message, and its counter is the length of the
message in bits. Every `update` keeps this for the message with the new bytes, so that the cuts
between the pieces do not matter.
-/

namespace AscensionWatchdog.Windows

open Foundation Foundation.Binary Foundation.Sha256

/-! ### The hash as it is computed -/

def sha256K : Vector UInt32 64 :=
  #v[0x428a2f98, 0x71374491, 0xb5c0fbcf, 0xe9b5dba5, 0x3956c25b, 0x59f111f1, 0x923f82a4, 0xab1c5ed5,
    0xd807aa98, 0x12835b01, 0x243185be, 0x550c7dc3, 0x72be5d74, 0x80deb1fe, 0x9bdc06a7, 0xc19bf174,
    0xe49b69c1, 0xefbe4786, 0x0fc19dc6, 0x240ca1cc, 0x2de92c6f, 0x4a7484aa, 0x5cb0a9dc, 0x76f988da,
    0x983e5152, 0xa831c66d, 0xb00327c8, 0xbf597fc7, 0xc6e00bf3, 0xd5a79147, 0x06ca6351, 0x14292967,
    0x27b70a85, 0x2e1b2138, 0x4d2c6dfc, 0x53380d13, 0x650a7354, 0x766a0abb, 0x81c2c92e, 0x92722c85,
    0xa2bfe8a1, 0xa81a664b, 0xc24b8b70, 0xc76c51a3, 0xd192e819, 0xd6990624, 0xf40e3585, 0x106aa070,
    0x19a4c116, 0x1e376c08, 0x2748774c, 0x34b0bcb5, 0x391c0cb3, 0x4ed8aa4a, 0x5b9cca4f, 0x682e6ff3,
    0x748f82ee, 0x78a5636f, 0x84c87814, 0x8cc70208, 0x90befffa, 0xa4506ceb, 0xbef9a3f7, 0xc67178f2]

structure Sha256 where
  state : Vector UInt32 8
  buffer : Vector UInt8 64
  buffered : Nat
  lengthBits : UInt64

def Sha256.new : Sha256 where
  state := #v[0x6a09e667, 0xbb67ae85, 0x3c6ef372, 0xa54ff53a, 0x510e527f, 0x9b05688c, 0x1f83d9ab,
    0x5be0cd19]
  buffer := Vector.replicate 64 0
  buffered := 0
  lengthBits := 0

/-- `buffer[start..start + slice.len()].copy_from_slice(slice)`, and `fill` for a slice of one
byte repeated. -/
@[irreducible]
def copyFromSlice (buffer : Vector UInt8 64) (start : Nat) (slice : List UInt8) :
    Vector UInt8 64 :=
  Vector.ofFn fun i =>
    if start ≤ i.val ∧ i.val < start + slice.length then slice.getD (i.val - start) 0
    else buffer[i]

/-- The first 16 words are those of the block. -/
def loadWord (block : List UInt8) (index : Nat) (h : index < 16) (words : Vector UInt32 64) :
    Vector UInt32 64 :=
  let offset := index * 4
  words.set index (UInt32.ofNat (ofBigEndian
    [block.getD offset 0, block.getD (offset + 1) 0, block.getD (offset + 2) 0,
      block.getD (offset + 3) 0]))

def expandWord (index : Nat) (h : 16 ≤ index ∧ index < 64) (words : Vector UInt32 64) :
    Vector UInt32 64 :=
  let s0 := rotr 7 words[index - 15] ^^^ rotr 18 words[index - 15] ^^^ (words[index - 15] >>> 3)
  let s1 := rotr 17 words[index - 2] ^^^ rotr 19 words[index - 2] ^^^ (words[index - 2] >>> 10)
  words.set index (words[index - 16] + s0 + words[index - 7] + s1)

def compressRound (words : Vector UInt32 64) (index : Nat) (h : index < 64)
    (state : Vector UInt32 8) : Vector UInt32 8 :=
  let choice := (state[4] &&& state[5]) ^^^ (~~~state[4] &&& state[6])
  let majority := (state[0] &&& state[1]) ^^^ (state[0] &&& state[2]) ^^^ (state[1] &&& state[2])
  let sigma0 := rotr 2 state[0] ^^^ rotr 13 state[0] ^^^ rotr 22 state[0]
  let sigma1 := rotr 6 state[4] ^^^ rotr 11 state[4] ^^^ rotr 25 state[4]
  let temp1 := state[7] + sigma1 + choice + sha256K[index] + words[index]
  let temp2 := sigma0 + majority
  let state := state.set 7 state[6]
  let state := state.set 6 state[5]
  let state := state.set 5 state[4]
  let state := state.set 4 (state[3] + temp1)
  let state := state.set 3 state[2]
  let state := state.set 2 state[1]
  let state := state.set 1 state[0]
  state.set 0 (temp1 + temp2)

/-- The words of `compress` after its first two loops. -/
def messageWords (block : List UInt8) : Vector UInt32 64 :=
  let words := Nat.fold 16 (fun index h words => loadWord block index h words)
    (Vector.replicate 64 0)
  Nat.fold 48 (fun index h words => expandWord (16 + index) ⟨by omega, by omega⟩ words) words

def Sha256.compress (s : Sha256) (block : List UInt8) : Sha256 :=
  let words := messageWords block
  let state := Nat.fold 64 (fun index h state => compressRound words index h state) s.state
  { s with state := s.state.zipWith (fun slot value => slot + value) state }

/-- The loop of `update` over the whole blocks, with the bytes that are left. -/
def Sha256.compressBlocks (s : Sha256) (input : List UInt8) : Sha256 × List UInt8 :=
  if 64 ≤ input.length then
    (s.compress (input.take 64)).compressBlocks (input.drop 64)
  else
    (s, input)
termination_by input.length
decreasing_by
  rw [List.length_drop]
  omega

/-- The counter of bits wraps, as the code has it. -/
def Sha256.count (s : Sha256) (input : List UInt8) : Sha256 :=
  let count : UInt64 :=
    if input.length < 2 ^ 64 then UInt64.ofNat input.length else UInt64.ofNat (2 ^ 64 - 1)
  { s with lengthBits := s.lengthBits + count * 8 }

/-- The slice copied behind the buffered bytes. The code sets `buffered` in the line after. -/
def Sha256.write (s : Sha256) (slice : List UInt8) : Sha256 :=
  { s with
    buffer := copyFromSlice s.buffer s.buffered slice
    buffered := s.buffered + slice.length }

/-- The full buffer compressed. -/
def Sha256.flush (s : Sha256) : Sha256 :=
  { s.compress s.buffer.toList with buffered := 0 }

/-- The end of `update`, once the buffer is empty. -/
def Sha256.absorb (s : Sha256) (input : List UInt8) : Sha256 :=
  let (s, input) := s.compressBlocks input
  { s with
    buffer := copyFromSlice s.buffer 0 input
    buffered := input.length }

def Sha256.update (s : Sha256) (input : List UInt8) : Sha256 :=
  let s := s.count input
  if s.buffered ≠ 0 then
    let needed := 64 - s.buffered
    if input.length < needed then
      s.write input
    else
      (s.write (input.take needed)).flush.absorb (input.drop needed)
  else
    s.absorb input

/-- The end of the message in a block of its own, if the length does not fit behind it. -/
def Sha256.makeRoom (s : Sha256) : Sha256 :=
  if 56 < s.buffered then (s.write (List.replicate (64 - s.buffered) 0)).flush else s

def Sha256.finalize (s : Sha256) : List UInt8 :=
  let s := (s.write [0x80]).makeRoom
  let s := s.write (List.replicate (56 - s.buffered) 0)
  let s := (s.write (bigEndian 8 s.lengthBits.toNat)).flush
  s.state.toList.flatMap fun word => bigEndian 4 word.toNat

def hexTable : Vector Char 16 :=
  #v['0', '1', '2', '3', '4', '5', '6', '7', '8', '9', 'a', 'b', 'c', 'd', 'e', 'f']

def Sha256.hex (s : Sha256) : String :=
  String.ofList (s.finalize.flatMap fun byte : UInt8 =>
    [hexTable.toList.getD (byte >>> 4).toNat '0', hexTable.toList.getD (byte &&& 0x0f).toNat '0'])

/-! ### Compression -/

/-- The words of a hash value, as the code keeps them. -/
def ofRegisters (r : Registers) : Vector UInt32 8 :=
  #v[r.a, r.b, r.c, r.d, r.e, r.f, r.g, r.h]

variable {index : Nat}

theorem sha256K_eq (h : index < 64) : sha256K[index] = constants.getD index 0 := by
  have hall : ∀ i : Fin 64, sha256K.get i = constants.getD i.val 0 := by decide +kernel
  exact hall ⟨index, h⟩

variable {block : List UInt8}

/-- The four bytes that are read for a word. -/
theorem word_of_bytes (h : index * 4 + 3 < block.length) :
    (block.drop (4 * index)).take 4 =
      [block.getD (index * 4) 0, block.getD (index * 4 + 1) 0, block.getD (index * 4 + 2) 0,
        block.getD (index * 4 + 3) 0] := by
  rw [Nat.mul_comm 4 index, List.drop_eq_getElem_cons (by omega),
    List.drop_eq_getElem_cons (by omega), List.drop_eq_getElem_cons (by omega),
    List.drop_eq_getElem_cons (by omega)]
  simp only [List.take_succ_cons, List.take_zero, List.getD_eq_getElem?_getD]
  rw [List.getElem?_eq_getElem (by omega), List.getElem?_eq_getElem (by omega),
    List.getElem?_eq_getElem (by omega), List.getElem?_eq_getElem (by omega)]
  rfl

theorem loadWord_get (h : index < 16)
    (hblock : block.length = 64) (words : Vector UInt32 64) {t : Nat} (ht : t < 64) :
    (loadWord block index h words)[t] = if t = index then blockWord block t else words[t] := by
  rw [loadWord, Vector.getElem_set]
  by_cases heq : t = index
  · rw [if_pos heq.symm, if_pos heq, blockWord, heq, word_of_bytes (by omega)]
  · rw [if_neg (Ne.symm heq), if_neg heq]

theorem expandWord_get (h : 16 ≤ index ∧ index < 64) (words : Vector UInt32 64)
    {t : Nat} (ht : t < 64) :
    (expandWord index h words)[t] =
      if t = index then
        smallSigma1 words[index - 2] + words[index - 7] + smallSigma0 words[index - 15] +
          words[index - 16]
      else words[t] := by
  rw [expandWord, Vector.getElem_set]
  by_cases heq : t = index
  · rw [if_pos heq.symm, if_pos heq, smallSigma0, smallSigma1]
    ac_rfl
  · rw [if_neg (Ne.symm heq), if_neg heq]

/-- The first loop, after `n` rounds. -/
theorem fold_loadWord (hblock : block.length = 64)
    (words : Vector UInt32 64) {n : Nat} (hn : n ≤ 16) {t : Nat} (ht : t < n) :
    (Nat.fold n (fun index h words => loadWord block index (by omega) words) words)[t] =
      blockWord block t := by
  induction n with
  | zero => omega
  | succ n ih =>
    rw [Nat.fold_succ, loadWord_get _ hblock]
    by_cases heq : t = n
    · rw [if_pos heq]
    · rw [if_neg heq, ih (by omega) (by omega)]

/-- The second loop, after `n` rounds: the words so far are those of the schedule. -/
theorem fold_expandWord {m : Nat → UInt32} {words : Vector UInt32 64}
    (hwords : ∀ (t : Nat) (ht : t < 16), words[t] = m t) {n : Nat} (hn : n ≤ 48) (t : Nat)
    (ht : t < 16 + n) :
    (Nat.fold n (fun index h words => expandWord (16 + index) ⟨by omega, by omega⟩ words)
      words)[t] = schedule m t := by
  induction n generalizing t with
  | zero =>
    rw [schedule, if_pos ht]
    exact hwords t ht
  | succ n ih =>
    rw [Nat.fold_succ, expandWord_get]
    by_cases heq : t = 16 + n
    · rw [if_pos heq, ih (by omega) _ (by omega), ih (by omega) _ (by omega),
        ih (by omega) _ (by omega), ih (by omega) _ (by omega), schedule.eq_def m t,
        if_neg (by omega), heq]
    · rw [if_neg heq]
      exact ih (by omega) t (by omega)

/-- The words of a block are its message schedule. -/
theorem messageWords_get (hblock : block.length = 64) {t : Nat}
    (ht : t < 64) : (messageWords block)[t] = schedule (blockWord block) t := by
  have hload : ∀ (t : Nat) (_ : t < 16),
      (Nat.fold 16 (fun index h words => loadWord block index h words)
        (Vector.replicate 64 0))[t] = blockWord block t :=
    fun t ht => fold_loadWord hblock (Vector.replicate 64 0) (Nat.le_refl 16) ht
  exact fold_expandWord hload (Nat.le_refl 48) t (by omega)

theorem compressRound_eq (words : Vector UInt32 64) (h : index < 64)
    (r : Registers) :
    compressRound words index h (ofRegisters r) =
      ofRegisters (r.round sha256K[index] words[index]) :=
  rfl

/-- The third loop, after `n` rounds. -/
theorem fold_compressRound {m : Nat → UInt32} {words : Vector UInt32 64}
    (hwords : ∀ (t : Nat) (ht : t < 64), words[t] = schedule m t) (r : Registers) {n : Nat}
    (hn : n ≤ 64) :
    Nat.fold n (fun index h state => compressRound words index (by omega) state) (ofRegisters r) =
      ofRegisters (rounds m r n) := by
  induction n with
  | zero => rfl
  | succ n ih =>
    rw [Nat.fold_succ, ih (by omega), compressRound_eq, sha256K_eq (by omega), hwords n (by omega),
      rounds, rounds, List.range_succ, List.foldl_append, List.foldl_cons, List.foldl_nil]

theorem zipWith_ofRegisters (r s : Registers) :
    (ofRegisters r).zipWith (fun slot value => slot + value) (ofRegisters s) =
      ofRegisters (r.add s) := by
  apply Vector.ext
  intro i hi
  rw [Vector.getElem_zipWith]
  match i, hi with
  | 0, _ | 1, _ | 2, _ | 3, _ | 4, _ | 5, _ | 6, _ | 7, _ => rfl

variable {s : Sha256}

/-- One block is compressed as the standard defines it. -/
theorem compress_eq {r : Registers} (hs : s.state = ofRegisters r)
    (hblock : block.length = 64) :
    s.compress block =
      { s with state := ofRegisters (Foundation.Sha256.compress r block) } := by
  have hrounds := fold_compressRound (fun t ht => messageWords_get hblock ht) r (Nat.le_refl 64)
  rw [Sha256.compress, hs, hrounds, zipWith_ofRegisters]
  rfl

/-! ### The buffer -/

/-- The first bytes of the buffer are the text. -/
def Holds (buffer : Vector UInt8 64) (text : List UInt8) : Prop :=
  buffer.toList.take text.length = text

theorem holds_nil (buffer : Vector UInt8 64) : Holds buffer [] :=
  List.take_zero

variable {buffer : Vector UInt8 64} {text : List UInt8}

theorem Holds.toList_eq (h : Holds buffer text)
    (hlength : text.length = 64) : buffer.toList = text := by
  rw [Holds, hlength, List.take_of_length_le (by simp)] at h
  exact h

theorem toList_copyFromSlice {start : Nat} {slice : List UInt8}
    (hroom : start + slice.length ≤ 64) :
    (copyFromSlice buffer start slice).toList =
      buffer.toList.take start ++ slice ++ buffer.toList.drop (start + slice.length) := by
  rw [copyFromSlice, Vector.toList_ofFn]
  have hlength : buffer.toList.length = 64 := Vector.length_toList
  apply List.ext_getElem
  · simp only [List.length_ofFn, List.length_append, List.length_take, List.length_drop, hlength]
    omega
  · intro i hi hj
    rw [List.length_ofFn] at hi
    rw [List.getElem_ofFn]
    -- the three parts of the right side are before, inside and behind the slice
    simp only [List.getElem_append, List.getElem_take, List.getElem_drop, List.length_append,
      List.length_take, hlength]
    grind

/-- A slice that is copied behind the text extends it. -/
theorem Holds.copyFromSlice (h : Holds buffer text)
    (slice : List UInt8) (hroom : text.length + slice.length ≤ 64) :
    Holds (copyFromSlice buffer text.length slice) (text ++ slice) := by
  rw [Holds, toList_copyFromSlice hroom, h]
  exact List.take_left

/-! ### What the state stands for -/

/-- The state after a hash value, with a text in the buffer. -/
structure Holding (s : Sha256) (hash : Registers) (text : List UInt8) : Prop where
  state : s.state = ofRegisters hash
  buffered : s.buffered = text.length
  buffer : Holds s.buffer text

variable {hash : Registers}

theorem Holding.write (h : Holding s hash text)
    (slice : List UInt8) (hroom : text.length + slice.length ≤ 64) :
    Holding (s.write slice) hash (text ++ slice) where
  state := h.state
  buffered := by rw [Sha256.write, h.buffered, List.length_append]
  buffer := by
    rw [Sha256.write, h.buffered]
    exact h.buffer.copyFromSlice slice hroom

theorem Holding.flush
    (h : Holding s hash block) (hblock : block.length = 64) :
    Holding s.flush (hashBlocks hash block) [] where
  state := by
    rw [Sha256.flush, h.buffer.toList_eq hblock, compress_eq h.state hblock,
      hashBlocks_block hblock]
  buffered := rfl
  buffer := holds_nil _

/-- The state after the whole blocks `blocks` and the bytes `rest` behind them. -/
structure Represents (s : Sha256) (blocks rest : List UInt8) : Prop where
  whole : blocks.length % 64 = 0
  short : rest.length < 64
  holding : Holding s (hashBlocks initialHash blocks) rest
  lengthBits : s.lengthBits = UInt64.ofNat (8 * (blocks ++ rest).length)

theorem represents_new : Represents Sha256.new [] [] where
  whole := rfl
  short := by decide
  holding := by
    rw [hashBlocks_of_lt (by decide)]
    exact ⟨rfl, rfl, holds_nil _⟩
  lengthBits := rfl

/-- The loop over whole blocks stops before the last bytes, and the blocks before them are
hashed. -/
theorem compressBlocks_spec {r : Registers} (input : List UInt8)
    (hs : s.state = ofRegisters r) :
    ∃ blocks rest, input = blocks ++ rest ∧ blocks.length % 64 = 0 ∧ rest.length < 64 ∧
      s.compressBlocks input = ({ s with state := ofRegisters (hashBlocks r blocks) }, rest) := by
  induction s, input using Sha256.compressBlocks.induct generalizing r with
  | case1 s input hle ih =>
    have htake : (input.take 64).length = 64 := by
      rw [List.length_take]
      omega
    have hcompress := compress_eq hs htake
    obtain ⟨blocks, rest, hinput, hwhole, hrest, heq⟩ :=
      ih (r := Foundation.Sha256.compress r (input.take 64)) (by rw [hcompress])
    refine ⟨input.take 64 ++ blocks, rest, ?_, ?_, hrest, ?_⟩
    · rw [List.append_assoc, ← hinput, List.take_append_drop]
    · rw [List.length_append]
      omega
    · rw [Sha256.compressBlocks, if_pos hle, heq, hcompress, hashBlocks_append (by omega),
        hashBlocks_block htake]
  | case2 s input hlt =>
    refine ⟨[], input, rfl, rfl, by omega, ?_⟩
    rw [Sha256.compressBlocks, if_neg hlt, hashBlocks_of_lt (by decide), ← hs]

/-- The end of `update`: the blocks so far end where the new bytes begin. -/
theorem represents_absorb {blocks input : List UInt8}
    (hwhole : blocks.length % 64 = 0)
    (hstate : s.state = ofRegisters (hashBlocks initialHash blocks))
    (hbits : s.lengthBits = UInt64.ofNat (8 * (blocks ++ input).length)) :
    ∃ blocks' rest', blocks ++ input = blocks' ++ rest' ∧
      Represents (s.absorb input) blocks' rest' := by
  obtain ⟨more, rest, hinput, hmore, hrest, heq⟩ := compressBlocks_spec input hstate
  have hsame : blocks ++ input = blocks ++ more ++ rest := by
    rw [hinput, List.append_assoc]
  refine ⟨blocks ++ more, rest, hsame, ?_, hrest, ?_, ?_⟩
  · rw [List.length_append]
    omega
  · rw [Sha256.absorb, heq, hashBlocks_append hwhole]
    exact ⟨rfl, rfl, (holds_nil s.buffer).copyFromSlice rest (by rw [List.length_nil]; omega)⟩
  · rw [Sha256.absorb, heq, ← hsame, hbits]

/-- The counter after another piece. -/
theorem lengthBits_count {text input : List UInt8} (hinput : input.length < 2 ^ 64)
    (h : s.lengthBits = UInt64.ofNat (8 * text.length)) :
    (s.count input).lengthBits = UInt64.ofNat (8 * (text ++ input).length) := by
  simp only [Sha256.count, if_pos hinput]
  rw [h, List.length_append, Nat.mul_add, UInt64.ofNat_add, UInt64.ofNat_mul 8 input.length,
    UInt64.mul_comm (UInt64.ofNat input.length)]
  rfl

variable {blocks rest : List UInt8}

/-- **Every piece is added to the message**, wherever it begins in a block. -/
theorem Represents.update (h : Represents s blocks rest)
    (input : List UInt8) (hinput : input.length < 2 ^ 64) :
    ∃ blocks' rest', blocks ++ rest ++ input = blocks' ++ rest' ∧
      Represents (s.update input) blocks' rest' := by
  have hshort := h.short
  have hwhole := h.whole
  have hbits := lengthBits_count hinput h.lengthBits
  have hcount : Holding (s.count input) (hashBlocks initialHash blocks) rest :=
    ⟨h.holding.state, h.holding.buffered, h.holding.buffer⟩
  generalize hs : s.count input = counted at hbits hcount
  rw [Sha256.update, hs, hcount.buffered]
  by_cases hempty : rest.length = 0
  · have hnil : rest = [] := List.length_eq_zero_iff.mp hempty
    rw [hnil, List.append_nil] at hbits ⊢
    exact represents_absorb hwhole hcount.state hbits
  · rw [if_pos hempty]
    by_cases hless : input.length < 64 - rest.length
    · rw [if_pos hless]
      refine ⟨blocks, rest ++ input, List.append_assoc blocks rest input, hwhole, ?_, ?_, ?_⟩
      · rw [List.length_append]
        omega
      · exact hcount.write input (by omega)
      · rw [← List.append_assoc]
        exact hbits
    · rw [if_neg hless]
      -- the piece fills the block, and what is left of it follows
      have hfill : (rest ++ input.take (64 - rest.length)).length = 64 := by
        rw [List.length_append, List.length_take]
        omega
      have hmessage : blocks ++ rest ++ input =
          blocks ++ (rest ++ input.take (64 - rest.length)) ++ input.drop (64 - rest.length) := by
        rw [List.append_assoc, List.append_assoc, List.append_assoc, List.take_append_drop]
      have hflush := (hcount.write _ (by rw [← List.length_append]; omega)).flush hfill
      rw [hmessage] at hbits ⊢
      refine represents_absorb ?_ ?_ hbits
      · rw [List.length_append]
        omega
      · rw [hashBlocks_append hwhole, hflush.state]

/-- A run of `update` over any pieces. -/
theorem represents_run (h : Represents s blocks rest)
    (chunks : List (List UInt8)) (hchunks : chunks.flatten.length < 2 ^ 64) :
    ∃ blocks' rest', blocks ++ rest ++ chunks.flatten = blocks' ++ rest' ∧
      Represents (chunks.foldl Sha256.update s) blocks' rest' := by
  induction chunks generalizing s blocks rest with
  | nil => exact ⟨blocks, rest, by rw [List.flatten_nil, List.append_nil], h⟩
  | cons chunk chunks ih =>
    rw [List.flatten_cons, List.length_append] at hchunks
    obtain ⟨blocks₁, rest₁, heq₁, h₁⟩ := h.update chunk (by omega)
    obtain ⟨blocks₂, rest₂, heq₂, h₂⟩ := ih h₁ (by omega)
    refine ⟨blocks₂, rest₂, ?_, h₂⟩
    rw [List.flatten_cons, ← List.append_assoc, heq₁, heq₂]

/-! ### The digest -/

theorem lengthBits_makeRoom (s : Sha256) : s.makeRoom.lengthBits = s.lengthBits := by
  rw [Sha256.makeRoom]
  split <;> rfl

/-- The padding before the length: either it fits behind the text, or it fills the block of the
text and most of the next one. -/
theorem Holding.makeRoom
    (h : Holding s hash text) (hshort : text.length ≤ 64) :
    ∃ first waiting, first.length % 64 = 0 ∧ waiting.length ≤ 56 ∧
      Holding s.makeRoom (hashBlocks hash first) waiting ∧
      text ++ List.replicate ((120 - text.length) % 64) 0 =
        first ++ (waiting ++ List.replicate (56 - waiting.length) 0) := by
  rw [Sha256.makeRoom, h.buffered]
  by_cases hlong : 56 < text.length
  · have hfull : (text ++ List.replicate (64 - text.length) (0 : UInt8)).length = 64 := by
      rw [List.length_append, List.length_replicate]
      omega
    have hwrite := h.write (List.replicate (64 - text.length) 0) (by
      rw [List.length_replicate]
      omega)
    have hcount : (120 - text.length) % 64 = 64 - text.length + 56 := by omega
    rw [if_pos hlong]
    refine ⟨_, [], by rw [hfull], by decide, hwrite.flush hfull, ?_⟩
    rw [hcount, ← List.replicate_append_replicate, List.append_assoc]
    rfl
  · have hcount : (120 - text.length) % 64 = 56 - text.length := by omega
    rw [if_neg hlong]
    refine ⟨[], text, rfl, by omega, ?_, ?_⟩
    · rw [hashBlocks_of_lt (by decide)]
      exact h
    · rw [hcount]
      rfl

/-- The digest of the message that the state stands for. -/
theorem Represents.finalize (h : Represents s blocks rest)
    (hlength : (blocks ++ rest).length < 2 ^ 61) : s.finalize = sha256 (blocks ++ rest) := by
  have hshort := h.short
  have hwhole := h.whole
  have htext : (rest ++ [0x80]).length = rest.length + 1 := List.length_append
  obtain ⟨first, waiting, hfirst, hwaiting, hholding, hpadding⟩ :=
    (h.holding.write [0x80] (by rw [List.length_singleton]; omega)).makeRoom (by omega)
  have hbits : (s.write [0x80]).makeRoom.lengthBits.toNat = 8 * (blocks ++ rest).length := by
    rw [lengthBits_makeRoom, Sha256.write, h.lengthBits, UInt64.toNat_ofNat_of_lt']
    exact Nat.lt_of_lt_of_le (Nat.mul_lt_mul_of_pos_left hlength (by decide)) (by decide)
  have hzeros := hholding.write (List.replicate (56 - waiting.length) 0) (by
    rw [List.length_replicate]
    omega)
  have hfull : (waiting ++ List.replicate (56 - waiting.length) 0 ++
      bigEndian 8 (8 * (blocks ++ rest).length)).length = 64 := by
    rw [List.length_append, List.length_append, List.length_replicate, length_bigEndian]
    omega
  have hlast := (hzeros.write (bigEndian 8 (8 * (blocks ++ rest).length)) (by
    rw [List.length_append] at hfull
    omega)).flush hfull
  have hpad : pad (blocks ++ rest) = blocks ++ (first ++ (waiting ++
      List.replicate (56 - waiting.length) 0 ++ bigEndian 8 (8 * (blocks ++ rest).length))) := by
    have hcount : zeroCount (blocks ++ rest).length = (120 - (rest ++ [0x80]).length) % 64 := by
      rw [zeroCount, htext, List.length_append]
      omega
    rw [pad, hcount, ← List.append_assoc first, ← hpadding]
    simp only [List.append_assoc]
  rw [Sha256.finalize, hholding.buffered]
  simp only [Sha256.write] at hlast hbits ⊢
  rw [hbits, hlast.state, sha256, hpad, hashBlocks_append hwhole, hashBlocks_append hfirst]
  rfl

/-- The digits of a byte. -/
theorem hexTable_eq (byte : UInt8) :
    [hexTable.toList.getD (byte >>> 4).toNat '0', hexTable.toList.getD (byte &&& 0x0f).toNat '0'] =
      [Nat.digitChar (byte.toNat / 16), Nat.digitChar (byte.toNat % 16)] := by
  have hall : ∀ n : Fin 16, hexTable.toList.getD n.val '0' = Nat.digitChar n.val := by decide
  have hhigh : (byte >>> 4).toNat = byte.toNat / 16 := by
    rw [UInt8.toNat_shiftRight]
    exact Nat.shiftRight_eq_div_pow _ 4
  have hlow : (byte &&& 0x0f).toNat = byte.toNat % 16 := by
    rw [UInt8.toNat_and]
    exact Nat.and_two_pow_sub_one_eq_mod _ 4
  have hbyte := byte.toNat_lt
  rw [hhigh, hlow, hall ⟨byte.toNat / 16, by omega⟩, hall ⟨byte.toNat % 16, by omega⟩]

theorem hex_eq (s : Sha256) : s.hex = Foundation.Sha256.hex s.finalize := by
  rw [Sha256.hex, Foundation.Sha256.hex]
  exact congrArg (fun f => String.ofList (s.finalize.flatMap f)) (funext hexTable_eq)

/-- **The digest of an executable is its SHA-256**, however its bytes are cut into pieces. -/
theorem hex_of_chunks (chunks : List (List UInt8)) (h : chunks.flatten.length < 2 ^ 61) :
    (chunks.foldl Sha256.update Sha256.new).hex = Foundation.Sha256.hex (sha256 chunks.flatten) := by
  obtain ⟨blocks, rest, heq, hrepresents⟩ := represents_run represents_new chunks (by omega)
  rw [List.append_nil, List.nil_append] at heq
  rw [hex_eq, hrepresents.finalize (by rw [← heq]; exact h), heq]

theorem hex_of_chunks_abc :
    [[0x61], [], [0x62, 0x63]].flatten.length < 2 ^ 61 ∧
      ([[0x61], [], [0x62, 0x63]].foldl Sha256.update Sha256.new).hex =
        Foundation.Sha256.hex (sha256 [0x61, 0x62, 0x63]) :=
  ⟨by decide, hex_of_chunks [[0x61], [], [0x62, 0x63]] (by decide)⟩

end AscensionWatchdog.Windows
