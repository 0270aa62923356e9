import GameServer.Lib.Loop
import GameServer.Lib.SecureHash
import Mathlib.Data.UInt

/-!
# GameServer.Crypto.Sha256

SHA-256 as the account server computes it for password checks, against the
standard.

The code works on bytes and on arrays of words, and reads every block out of
a padded copy of the message; a read outside it has no result.

* `paddedMessage`, `processChunk`, `sha256` — the padding, one chunk, the digest
* `zeroPad_eq` — the padding loop, which ends after at most 63 rounds
* `loadBlock_spec`, `extend_spec`, `rounds_spec` — what the loops over a chunk compute
* `sha256_conforms` — the digest is the one of the standard
-/

namespace GameServer

namespace Sha256

/-! ## Functions -/

/-- `kTable`. -/
def kTable : Vector UInt32 64 := #v[
  0x428a2f98, 0x71374491, 0xb5c0fbcf, 0xe9b5dba5,
  0x3956c25b, 0x59f111f1, 0x923f82a4, 0xab1c5ed5,
  0xd807aa98, 0x12835b01, 0x243185be, 0x550c7dc3,
  0x72be5d74, 0x80deb1fe, 0x9bdc06a7, 0xc19bf174,
  0xe49b69c1, 0xefbe4786, 0x0fc19dc6, 0x240ca1cc,
  0x2de92c6f, 0x4a7484aa, 0x5cb0a9dc, 0x76f988da,
  0x983e5152, 0xa831c66d, 0xb00327c8, 0xbf597fc7,
  0xc6e00bf3, 0xd5a79147, 0x06ca6351, 0x14292967,
  0x27b70a85, 0x2e1b2138, 0x4d2c6dfc, 0x53380d13,
  0x650a7354, 0x766a0abb, 0x81c2c92e, 0x92722c85,
  0xa2bfe8a1, 0xa81a664b, 0xc24b8b70, 0xc76c51a3,
  0xd192e819, 0xd6990624, 0xf40e3585, 0x106aa070,
  0x19a4c116, 0x1e376c08, 0x2748774c, 0x34b0bcb5,
  0x391c0cb3, 0x4ed8aa4a, 0x5b9cca4f, 0x682e6ff3,
  0x748f82ee, 0x78a5636f, 0x84c87814, 0x8cc70208,
  0x90befffa, 0xa4506ceb, 0xbef9a3f7, 0xc67178f2]

/-- `RotR`. -/
def rotR (x n : UInt32) : UInt32 := (x >>> n) ||| (x <<< (32 - n))

/-- `Ch`. -/
def ch (x y z : UInt32) : UInt32 := (x &&& y) ^^^ (~~~x &&& z)

/-- `Maj`. -/
def maj (x y z : UInt32) : UInt32 := (x &&& y) ^^^ (x &&& z) ^^^ (y &&& z)

/-- `BigSigma0`. -/
def bigSigma0 (x : UInt32) : UInt32 := rotR x 2 ^^^ rotR x 13 ^^^ rotR x 22

/-- `BigSigma1`. -/
def bigSigma1 (x : UInt32) : UInt32 := rotR x 6 ^^^ rotR x 11 ^^^ rotR x 25

/-- `SmallSigma0`. -/
def smallSigma0 (x : UInt32) : UInt32 := rotR x 7 ^^^ rotR x 18 ^^^ (x >>> 3)

/-- `SmallSigma1`. -/
def smallSigma1 (x : UInt32) : UInt32 := rotR x 17 ^^^ rotR x 19 ^^^ (x >>> 10)

/-! ## Padding -/

/-- `while ((msg.size() % 64) != 56) msg.push_back(0x00)`. -/
def zeroPad (msg : List UInt8) : List UInt8 :=
  if msg.length % 64 ≠ 56 then zeroPad (msg ++ [0x00]) else msg
termination_by (120 - msg.length % 64) % 64
decreasing_by
  rw [List.length_append, List.length_singleton]
  omega

/-- The eight bytes of the length, most significant first. -/
def lengthBytes (bitLen : UInt64) : List UInt8 :=
  [7, 6, 5, 4, 3, 2, 1, 0].map fun i : UInt64 => ((bitLen >>> (i * 8)) &&& 0xff).toUInt8

/-- `msg` in front of the loop over its chunks. -/
def paddedMessage (data : List UInt8) : List UInt8 :=
  let msg := zeroPad (data ++ [0x80])
  let bitLen := UInt64.ofNat data.length * 8
  msg ++ lengthBytes bitLen

/-! ## Chunks -/

/-- The words `h0` to `h7`. -/
structure HashWords where
  h0 : UInt32
  h1 : UInt32
  h2 : UInt32
  h3 : UInt32
  h4 : UInt32
  h5 : UInt32
  h6 : UInt32
  h7 : UInt32
deriving DecidableEq, Repr

/-- The variables `a` to `h` of a chunk. -/
structure WorkingVars where
  a : UInt32
  b : UInt32
  c : UInt32
  d : UInt32
  e : UInt32
  f : UInt32
  g : UInt32
  h : UInt32
deriving DecidableEq, Repr

/-- A word of a chunk, from four bytes. -/
def loadWord (msg : List UInt8) (j : Nat) : Option UInt32 := do
  let b0 ← msg[j]?
  let b1 ← msg[j + 1]?
  let b2 ← msg[j + 2]?
  let b3 ← msg[j + 3]?
  return (b0.toUInt32 <<< 24) ||| (b1.toUInt32 <<< 16) ||| (b2.toUInt32 <<< 8) ||| b3.toUInt32

/-- The first loop of a chunk: 16 words of `w`, the others are zero. -/
def loadBlock (msg : List UInt8) (chunk : Nat) : Option (Vector UInt32 64) :=
  Nat.fold 16 (fun i _ w => do
    let w ← w
    let word ← loadWord msg (chunk + i * 4)
    return w.set i word) (some (Vector.replicate 64 0))

/-- The second loop, for `i` from 16 to 63. -/
def extend (w : Vector UInt32 64) : Vector UInt32 64 :=
  Nat.fold 48 (fun k _ w =>
    let i := k + 16
    w.set i (smallSigma1 w[i - 2] + w[i - 7] + smallSigma0 w[i - 15] + w[i - 16])) w

/-- One pass of the third loop. -/
def round (k w : UInt32) (v : WorkingVars) : WorkingVars :=
  let t1 := v.h + bigSigma1 v.e + ch v.e v.f v.g + k + w
  let t2 := bigSigma0 v.a + maj v.a v.b v.c
  { h := v.g
    g := v.f
    f := v.e
    e := v.d + t1
    d := v.c
    c := v.b
    b := v.a
    a := t1 + t2 }

/-- The third loop. -/
def rounds (w : Vector UInt32 64) (v : WorkingVars) : WorkingVars :=
  Nat.fold 64 (fun i _ v => round kTable[i] w[i] v) v

/-- The variables before the third loop. -/
def HashWords.vars (h : HashWords) : WorkingVars where
  a := h.h0
  b := h.h1
  c := h.h2
  d := h.h3
  e := h.h4
  f := h.h5
  g := h.h6
  h := h.h7

/-- What a chunk does to the words. -/
def processChunk (msg : List UInt8) (chunk : Nat) (h : HashWords) : Option HashWords := do
  let w ← loadBlock msg chunk
  let v := rounds (extend w) h.vars
  return {
    h0 := h.h0 + v.a
    h1 := h.h1 + v.b
    h2 := h.h2 + v.c
    h3 := h.h3 + v.d
    h4 := h.h4 + v.e
    h5 := h.h5 + v.f
    h6 := h.h6 + v.g
    h7 := h.h7 + v.h }

/-- `for (chunk = ...; chunk < msg.size(); chunk += 64)`. -/
def processFrom (msg : List UInt8) (chunk : Nat) (h : HashWords) : Option HashWords :=
  if chunk < msg.length then (processChunk msg chunk h).bind (processFrom msg (chunk + 64))
  else some h
termination_by msg.length - chunk

/-! ## Digests -/

def initialWords : HashWords where
  h0 := 0x6a09e667
  h1 := 0xbb67ae85
  h2 := 0x3c6ef372
  h3 := 0xa54ff53a
  h4 := 0x510e527f
  h5 := 0x9b05688c
  h6 := 0x1f83d9ab
  h7 := 0x5be0cd19

/-- The four bytes of a word in `out`. -/
def wordBytes (h : UInt32) : List UInt8 :=
  [((h >>> 24) &&& 0xff).toUInt8, ((h >>> 16) &&& 0xff).toUInt8, ((h >>> 8) &&& 0xff).toUInt8,
    (h &&& 0xff).toUInt8]

/-- `Sha256Bytes_`. -/
def sha256Bytes (data : List UInt8) : Option (List UInt8) := do
  let h ← processFrom (paddedMessage data) 0 initialWords
  return [h.h0, h.h1, h.h2, h.h3, h.h4, h.h5, h.h6, h.h7].flatMap wordBytes

/-- `Sha256` of a text. -/
def sha256Text (text : List UInt8) : Option (List UInt8) := sha256Bytes text

/-- `Sha256` of a vector. -/
def sha256 (data : List UInt8) : Option (List UInt8) :=
  if data.isEmpty then sha256Bytes [] else sha256Bytes data

/-! ## Functions and constants of the standard -/

theorem toBitVec_smallSigma0 (x : UInt32) :
    (smallSigma0 x).toBitVec = SecureHash.smallSigma0 x.toBitVec := rfl

theorem toBitVec_smallSigma1 (x : UInt32) :
    (smallSigma1 x).toBitVec = SecureHash.smallSigma1 x.toBitVec := rfl

/-- The table of the code holds the constants of the standard, round by round. -/
theorem toBitVec_kTable {t : Nat} (h : t < 64) :
    kTable[t].toBitVec = SecureHash.roundConstant t := by
  have htable : SecureHash.primes.map (SecureHash.rootFraction 3) =
      kTable.toList.map UInt32.toBitVec := by decide +kernel
  have hget := congrArg (·[t]?) htable
  simp only [List.getElem?_map] at hget
  rw [List.getElem?_eq_getElem (show t < SecureHash.primes.length from h),
    List.getElem?_eq_getElem (show t < kTable.toList.length from h)] at hget
  rw [SecureHash.roundConstant, SecureHash.nth_prime h]
  exact (Option.some.inj hget).symm

/-- The words as registers of the standard. -/
def HashWords.registers (h : HashWords) : SecureHash.Registers :=
  ⟨h.h0.toBitVec, h.h1.toBitVec, h.h2.toBitVec, h.h3.toBitVec, h.h4.toBitVec, h.h5.toBitVec,
    h.h6.toBitVec, h.h7.toBitVec⟩

/-- The variables as registers of the standard. -/
def WorkingVars.registers (v : WorkingVars) : SecureHash.Registers :=
  ⟨v.a.toBitVec, v.b.toBitVec, v.c.toBitVec, v.d.toBitVec, v.e.toBitVec, v.f.toBitVec,
    v.g.toBitVec, v.h.toBitVec⟩

theorem registers_vars (h : HashWords) : h.vars.registers = h.registers := rfl

/-- The code starts from the initial value of the standard. -/
theorem registers_initialWords : initialWords.registers = SecureHash.initialRegisters := by
  have hprime : ∀ t (h : t < 64), SecureHash.initialHash t =
      SecureHash.rootFraction 2 (SecureHash.primes.get ⟨t, h⟩) := fun t h => by
    rw [SecureHash.initialHash, SecureHash.nth_prime h]
  rw [SecureHash.initialRegisters, hprime 0 (by decide), hprime 1 (by decide), hprime 2 (by decide),
    hprime 3 (by decide), hprime 4 (by decide), hprime 5 (by decide), hprime 6 (by decide),
    hprime 7 (by decide)]
  decide +kernel

/-! ## Words and bytes -/

theorem digitsBE_four (n : Nat) :
    digitsBE 256 4 n = [n / 2 ^ 24 % 256, n / 2 ^ 16 % 256, n / 2 ^ 8 % 256, n % 256] := by
  simp only [digitsBE, Nat.div_div_eq_div_mul, List.nil_append, List.cons_append]
  rfl

/-- A byte that is shifted by up to three bytes loses nothing. -/
theorem toNat_shiftLeft_byte (b : UInt8) {k : UInt32} (hk : k.toNat ≤ 24) :
    (b.toUInt32 <<< k).toNat = 2 ^ k.toNat * b.toNat := by
  have hlt : 2 ^ k.toNat * b.toNat < 2 ^ 24 * 2 ^ 8 :=
    Nat.mul_lt_mul_of_le_of_lt (Nat.pow_le_pow_right (by decide) hk) b.toNat_lt (by decide)
  rw [UInt32.toNat_shiftLeft, UInt8.toNat_toUInt32, Nat.mod_eq_of_lt (show k.toNat < 32 by omega),
    Nat.shiftLeft_eq, Nat.mul_comm]
  exact Nat.mod_eq_of_lt hlt

/-- Four bytes make up the word with these places. -/
theorem digitsBE_word (b0 b1 b2 b3 : UInt8) :
    digitsBE 256 4 ((b0.toUInt32 <<< 24) ||| (b1.toUInt32 <<< 16) ||| (b2.toUInt32 <<< 8) |||
      b3.toUInt32).toNat = [b0, b1, b2, b3].map UInt8.toNat := by
  have h0 := b0.toNat_lt
  have h1 := b1.toNat_lt
  have h2 := b2.toNat_lt
  have h3 := b3.toNat_lt
  have htwo : 2 ^ 24 * b0.toNat ||| 2 ^ 16 * b1.toNat = 2 ^ 16 * (2 ^ 8 * b0.toNat + b1.toNat) := by
    rw [← Nat.two_pow_add_eq_or_of_lt (show 2 ^ 16 * b1.toNat < 2 ^ 24 by omega)]
    omega
  have hthree : 2 ^ 16 * (2 ^ 8 * b0.toNat + b1.toNat) ||| 2 ^ 8 * b2.toNat =
      2 ^ 8 * (2 ^ 8 * (2 ^ 8 * b0.toNat + b1.toNat) + b2.toNat) := by
    rw [← Nat.two_pow_add_eq_or_of_lt (show 2 ^ 8 * b2.toNat < 2 ^ 16 by omega)]
    omega
  have hword : ((b0.toUInt32 <<< 24) ||| (b1.toUInt32 <<< 16) ||| (b2.toUInt32 <<< 8) |||
      b3.toUInt32).toNat =
      2 ^ 8 * (2 ^ 8 * (2 ^ 8 * b0.toNat + b1.toNat) + b2.toNat) + b3.toNat := by
    rw [UInt32.toNat_or, UInt32.toNat_or, UInt32.toNat_or, toNat_shiftLeft_byte b0 (by decide),
      toNat_shiftLeft_byte b1 (by decide), toNat_shiftLeft_byte b2 (by decide),
      UInt8.toNat_toUInt32, Nat.two_pow_add_eq_or_of_lt h3, ← hthree, ← htwo]
    rfl
  rw [hword, digitsBE_four]
  simp only [List.map_cons, List.map_nil, List.cons.injEq, and_true]
  omega

/-- A word is written with its most significant byte first. -/
theorem map_wordBytes (h : UInt32) : (wordBytes h).map UInt8.toNat = digitsBE 256 4 h.toNat := by
  have hbyte : ∀ x : UInt32, (x &&& 0xff).toUInt8.toNat = x.toNat % 256 := by
    intro x
    rw [UInt32.toNat_toUInt8, UInt32.toNat_and]
    exact (congrArg (· % 2 ^ 8) (Nat.and_two_pow_sub_one_eq_mod x.toNat 8)).trans (Nat.mod_mod _ _)
  rw [digitsBE_four]
  simp only [wordBytes, List.map_cons, List.map_nil, hbyte, UInt32.toNat_shiftRight,
    Nat.shiftRight_eq_div_pow]
  rfl

/-! ## The padded message -/

/-- The padding loop ends, after at most 63 rounds. -/
theorem zeroPad_eq (msg : List UInt8) :
    zeroPad msg = msg ++ List.replicate ((120 - msg.length % 64) % 64) 0x00 := by
  induction msg using zeroPad.induct with
  | case1 msg hlength ih =>
      have hrounds : (120 - msg.length % 64) % 64 =
          (120 - (msg ++ [0x00]).length % 64) % 64 + 1 := by
        rw [List.length_append, List.length_singleton]
        omega
      rw [zeroPad, if_pos hlength, ih, hrounds, List.append_assoc, List.replicate_succ]
      rfl
  | case2 msg hlength =>
      have hzero : (120 - msg.length % 64) % 64 = 0 := by omega
      rw [zeroPad, if_neg hlength, hzero, List.replicate_zero, List.append_nil]

theorem paddedMessage_eq (data : List UInt8) :
    paddedMessage data = data ++ [0x80] ++
      List.replicate ((120 - (data.length + 1) % 64) % 64) 0x00 ++
        lengthBytes (UInt64.ofNat data.length * 8) := by
  rw [paddedMessage, zeroPad_eq, List.length_append, List.length_singleton]

theorem length_paddedMessage (data : List UInt8) :
    (paddedMessage data).length = data.length + 9 + (120 - (data.length + 1) % 64) % 64 := by
  rw [paddedMessage_eq, List.length_append, List.length_append, List.length_append,
    List.length_replicate, List.length_singleton, lengthBytes, List.length_map]
  simp only [List.length_cons, List.length_nil]
  omega

/-- So is the length in bits. -/
theorem map_lengthBytes (bitLen : UInt64) :
    (lengthBytes bitLen).map UInt8.toNat = digitsBE 256 8 bitLen.toNat := by
  have hbyte : ∀ x : UInt64, (x &&& 0xff).toUInt8.toNat = x.toNat % 256 := by
    intro x
    rw [UInt64.toNat_toUInt8, UInt64.toNat_and]
    exact (congrArg (· % 2 ^ 8) (Nat.and_two_pow_sub_one_eq_mod x.toNat 8)).trans (Nat.mod_mod _ _)
  simp only [lengthBytes, List.map_cons, List.map_nil, hbyte, UInt64.toNat_shiftRight,
    Nat.shiftRight_eq_div_pow, digitsBE, Nat.div_div_eq_div_mul, List.nil_append, List.cons_append]
  have hlast : bitLen.toNat / 2 ^ ((0 * 8 : UInt64).toNat % 64) = bitLen.toNat := Nat.div_one _
  rw [hlast]
  rfl

/-- The padded message is the one of the standard. -/
theorem bitsOfBytes_paddedMessage {data : List UInt8} (h : data.length < 2 ^ 61) :
    SecureHash.bitsOfBytes (paddedMessage data) = SecureHash.pad (SecureHash.bitsOfBytes data) := by
  have hzeros : SecureHash.zeroBits (8 * data.length) =
      7 + 8 * ((120 - (data.length + 1) % 64) % 64) :=
    SecureHash.zeroBits_eq (by omega) (by omega)
  have hbitLen : (UInt64.ofNat data.length * 8).toNat = 8 * data.length := by
    rw [UInt64.toNat_mul, UInt64.toNat_ofNat_of_lt' (by rw [UInt64.size]; omega)]
    show data.length * 8 % 2 ^ 64 = 8 * data.length
    omega
  have hmark : SecureHash.bitsOfBytes [0x80] = true :: List.replicate 7 false := by decide
  have hfill : ∀ k, SecureHash.bitsOfBytes (List.replicate k 0x00) =
      List.replicate (8 * k) false := by
    intro k
    induction k with
    | zero => rfl
    | succ k ih =>
        rw [List.replicate_succ, SecureHash.bitsOfBytes_cons, ih, Nat.mul_succ, Nat.add_comm,
          List.replicate_add]
        rfl
  rw [paddedMessage_eq, SecureHash.pad, SecureHash.length_bitsOfBytes, hzeros]
  simp only [SecureHash.bitsOfBytes_append]
  rw [hmark, hfill, SecureHash.bitsOfBytes_eq_toBits (map_lengthBytes _), hbitLen,
    List.replicate_add]
  simp only [List.append_assoc, List.cons_append, List.nil_append]

/-! ## A chunk -/

theorem toBitVec_eq_ofNat (word : UInt32) : word.toBitVec = BitVec.ofNat 32 word.toNat := by
  rw [← UInt32.toNat_toBitVec, BitVec.ofNat_toNat, BitVec.setWidth_eq]

/-- The first `n` entries of `w` are those of `W`. -/
def Filled (w : Vector UInt32 64) (n : Nat) (W : Nat → SecureHash.Word) : Prop :=
  ∀ t (_ : t < n) (ht : t < 64), w[t].toBitVec = W t

/-- Each turn of the schedule loop fills one more word. -/
theorem Filled.set {w : Vector UInt32 64} {n : Nat} {W : Nat → SecureHash.Word} {word : UInt32}
    (h : Filled w n W) (hn : n < 64) (hword : word.toBitVec = W n) :
    Filled (w.set n word) (n + 1) W := by
  intro t hlt ht
  by_cases heq : t = n
  · subst heq
    rw [Vector.getElem_set_self, hword]
  · rw [Vector.getElem_set_ne _ _ (Ne.symm heq)]
    exact h t (by omega) ht

section Chunk

variable {msg : List UInt8} {i : Nat} (hroom : 64 * i + 64 ≤ msg.length)

include hroom

/-- Every word of a chunk lies inside the message. -/
theorem loadWord_spec {t : Nat} (ht : t < 16) :
    ∃ word, loadWord msg (64 * i + t * 4) = some word ∧
      word.toBitVec = SecureHash.blockWord (SecureHash.bitsOfBytes msg) i t := by
  have hbytes : (msg.drop (64 * i + 4 * t)).take 4 =
      [msg[64 * i + 4 * t], msg[64 * i + 4 * t + 1], msg[64 * i + 4 * t + 2],
        msg[64 * i + 4 * t + 3]] := by
    rw [List.drop_eq_getElem_cons (by omega), List.drop_eq_getElem_cons (by omega),
      List.drop_eq_getElem_cons (by omega), List.drop_eq_getElem_cons (by omega)]
    rfl
  refine ⟨_, by
    rw [loadWord, Nat.mul_comm t 4, List.getElem?_eq_getElem (by omega),
      List.getElem?_eq_getElem (by omega), List.getElem?_eq_getElem (by omega),
      List.getElem?_eq_getElem (by omega)]
    rfl, ?_⟩
  rw [SecureHash.blockWord_bitsOfBytes (by rw [hbytes, digitsBE_word])]
  exact toBitVec_eq_ofNat _

/-- The first loop of a chunk. -/
theorem loadBlock_spec : ∃ w, loadBlock msg (64 * i) = some w ∧
    Filled w 16 (SecureHash.blockWord (SecureHash.bitsOfBytes msg) i) := by
  refine fold_invariant (fun n (filled : Option (Vector UInt32 64)) => ∃ w, filled = some w ∧
    Filled w n (SecureHash.blockWord (SecureHash.bitsOfBytes msg) i))
    ⟨_, rfl, fun t ht => absurd ht (Nat.not_lt_zero t)⟩ ?_
  rintro n hn _ ⟨w, rfl, hw⟩
  obtain ⟨word, hload, hword⟩ := loadWord_spec hroom hn
  refine ⟨w.set n word, ?_, hw.set (by omega) hword⟩
  simp only [Option.bind_eq_bind, Option.bind_some, hload]
  rfl

end Chunk

/-- The second loop fills up the schedule of the block. -/
theorem extend_spec {w : Vector UInt32 64} {block : Nat → SecureHash.Word}
    (h : Filled w 16 block) : Filled (extend w) 64 (SecureHash.schedule block) := by
  refine fold_invariant (fun n (w : Vector UInt32 64) =>
    Filled w (n + 16) (SecureHash.schedule block)) (fun t ht ht' => ?_) fun n hn w hw => ?_
  · rw [h t (by omega) ht', SecureHash.schedule_of_lt _ (by omega)]
  · -- the entries that the new one is made of are filled
    have hword : (smallSigma1 w[n + 16 - 2] + w[n + 16 - 7] + smallSigma0 w[n + 16 - 15] +
        w[n + 16 - 16]).toBitVec = SecureHash.schedule block (n + 16) := by
      rw [SecureHash.schedule_add, UInt32.toBitVec_add, UInt32.toBitVec_add, UInt32.toBitVec_add,
        toBitVec_smallSigma1, toBitVec_smallSigma0, hw _ (by omega) (by omega),
        hw _ (by omega) (by omega), hw _ (by omega) (by omega), hw _ (by omega) (by omega)]
      rfl
    have hnext := hw.set (by omega) hword
    rw [Nat.add_right_comm] at hnext
    exact hnext

theorem registers_round (k w : UInt32) (v : WorkingVars) :
    (round k w v).registers = SecureHash.round k.toBitVec w.toBitVec v.registers := rfl

/-- The third loop runs the rounds. -/
theorem rounds_spec {w : Vector UInt32 64} {W : Nat → SecureHash.Word}
    (h : Filled w 64 W) (v : WorkingVars) :
    (rounds w v).registers =
      Nat.fold 64 (fun t _ r => SecureHash.round (SecureHash.roundConstant t) (W t) r)
        v.registers := by
  refine fold_map WorkingVars.registers (fun t ht v => ?_) v
  rw [registers_round, toBitVec_kTable ht, h t ht ht]

/-- A chunk inside the message is processed as the standard says. -/
theorem processChunk_spec {msg : List UInt8} {i : Nat} (hroom : 64 * i + 64 ≤ msg.length)
    (h : HashWords) :
    ∃ h', processChunk msg (64 * i) h = some h' ∧ h'.registers = SecureHash.compress h.registers
      (SecureHash.schedule (SecureHash.blockWord (SecureHash.bitsOfBytes msg) i)) := by
  obtain ⟨w, hload, hw⟩ := loadBlock_spec hroom
  refine ⟨_, by rw [processChunk, hload]; rfl, ?_⟩
  have hrounds := rounds_spec (extend_spec hw) h.vars
  rw [registers_vars] at hrounds
  rw [SecureHash.compress, ← hrounds]
  simp only [HashWords.registers, WorkingVars.registers, UInt32.toBitVec_add, BitVec.add_comm]

/-- So are all chunks from one on, in a message of whole chunks. -/
theorem processFrom_spec {msg : List UInt8} {n : Nat} (hlength : msg.length = 64 * n) {i : Nat}
    (hi : i ≤ n) {h : HashWords}
    (hbefore : h.registers = SecureHash.hashAfter (SecureHash.bitsOfBytes msg) i) :
    ∃ h', processFrom msg (64 * i) h = some h' ∧
      h'.registers = SecureHash.hashAfter (SecureHash.bitsOfBytes msg) n := by
  induction hi using Nat.decreasingInduction generalizing h with
  | self =>
      refine ⟨h, ?_, hbefore⟩
      rw [processFrom, if_neg (by omega)]
  | of_succ i hi ih =>
      have hroom : 64 * i + 64 ≤ msg.length := by omega
      obtain ⟨h₁, hchunk, hregisters⟩ := processChunk_spec hroom h
      rw [hbefore] at hregisters
      obtain ⟨h', hrest, hend⟩ := ih hregisters
      refine ⟨h', ?_, hend⟩
      rw [processFrom, if_pos (by omega), hchunk, Option.bind_some, ← hrest]
      rfl

/-! ## Digests -/

/-- The digest is the eight words one after the other. -/
theorem digestBits_registers (h : HashWords) :
    SecureHash.digestBits h.registers =
      SecureHash.bitsOfBytes
        ([h.h0, h.h1, h.h2, h.h3, h.h4, h.h5, h.h6, h.h7].flatMap wordBytes) := by
  have hword : ∀ word : UInt32,
      SecureHash.toBits 32 word.toNat = SecureHash.bitsOfBytes (wordBytes word) := fun word =>
    (SecureHash.bitsOfBytes_eq_toBits (map_wordBytes word)).symm
  simp only [SecureHash.digestBits, HashWords.registers, UInt32.toNat_toBitVec,
    List.flatMap_cons, List.flatMap_nil, hword, SecureHash.bitsOfBytes_append]
  rfl

theorem sha256_eq (data : List UInt8) : sha256 data = sha256Bytes data := by
  cases data with
  | nil => rfl
  | cons byte data => rfl

/-- What the code does with a message: both overloads return the 32 bytes of
the digest, so no read is out of range; the padding loop ends; the padded
length is the next number of whole chunks with room for the mark and the
length; and what is read of a chunk lies inside. -/
structure Conforms (data : List UInt8) : Prop where
  digest : ∃ digest, sha256 data = some digest ∧ sha256Text data = some digest ∧
    digest.length = 32 ∧
    SecureHash.bitsOfBytes digest = SecureHash.hash (SecureHash.bitsOfBytes data)
  zeros : ∃ k < 64, zeroPad (data ++ [0x80]) = data ++ [0x80] ++ List.replicate k 0x00
  chunks : 64 ∣ (paddedMessage data).length
  room : data.length + 9 ≤ (paddedMessage data).length
  least : (paddedMessage data).length < data.length + 9 + 64
  inside : ∀ chunk, 64 ∣ chunk → chunk < (paddedMessage data).length →
    ∀ i < 16, ∀ k < 4, chunk + i * 4 + k < (paddedMessage data).length

/-- **The digest is the one of the standard**, for every message whose length
in bits is a number of 64 bits. -/
theorem sha256_conforms (data : List UInt8) (h : data.length < 2 ^ 61) : Conforms data := by
  have hlength := length_paddedMessage data
  have hchunks : 64 ∣ (paddedMessage data).length := Nat.dvd_of_mod_eq_zero (by omega)
  obtain ⟨n, hn⟩ := hchunks
  obtain ⟨words, hrun, hwords⟩ := processFrom_spec hn (Nat.zero_le n) registers_initialWords
  have hbytes : sha256Bytes data =
      some ([words.h0, words.h1, words.h2, words.h3, words.h4, words.h5, words.h6,
        words.h7].flatMap wordBytes) := by
    rw [Nat.mul_zero] at hrun
    rw [sha256Bytes, hrun]
    rfl
  have hblocks : (SecureHash.pad (SecureHash.bitsOfBytes data)).length / 512 = n := by
    rw [← bitsOfBytes_paddedMessage h, SecureHash.length_bitsOfBytes, hn]
    omega
  have hdigest : SecureHash.hash (SecureHash.bitsOfBytes data) =
      SecureHash.digestBits words.registers := by
    rw [SecureHash.hash, hblocks, ← bitsOfBytes_paddedMessage h, hwords]
  exact {
    digest := ⟨_, (sha256_eq data).trans hbytes, hbytes, rfl, by
      rw [hdigest, digestBits_registers]⟩
    zeros := ⟨_, Nat.mod_lt _ (by decide), zeroPad_eq _⟩
    chunks := ⟨n, hn⟩
    room := by omega
    least := by omega
    inside := fun chunk hchunk hlt i hi k hk => by omega }

/-- A message of 60 bytes: the length takes a second block. -/
theorem sha256_conforms_sixty : Conforms (List.replicate 60 0x61) :=
  sha256_conforms (List.replicate 60 0x61) (by decide)

/-- The digest of `abc`. -/
example : sha256 [0x61, 0x62, 0x63] = some [
    0xba, 0x78, 0x16, 0xbf, 0x8f, 0x01, 0xcf, 0xea, 0x41, 0x41, 0x40, 0xde, 0x5d, 0xae, 0x22, 0x23,
    0xb0, 0x03, 0x61, 0xa3, 0x96, 0x17, 0x7a, 0x9c, 0xb4, 0x10, 0xff, 0x61, 0xf2, 0x00, 0x15,
    0xad] := by decide +kernel

end Sha256

end GameServer
