import GameServer.Lib.Positional
import Mathlib.Analysis.SpecialFunctions.Pow.NthRootLemmas
import Mathlib.Data.BitVec
import Mathlib.Data.Nat.Nth
import Mathlib.Data.Nat.Prime.Basic

/-!
# GameServer.Lib.SecureHash

The secure hash standard with 256 bits, for messages that are bit strings.

The constants are what the standard says they are, parts of roots of primes,
and not a table.

* `pad`, `blockWord` — a message as blocks of 16 words
* `schedule`, `compress` — what a block does to the hash value
* `hash` — the digest
* `primes`, `nth_prime` — the primes whose roots they are
-/

namespace GameServer

namespace SecureHash

/-- Words of 32 bits. -/
abbrev Word := BitVec 32

/-! ## Bit strings -/

/-- The `w` low bits of a number, most significant first. -/
def toBits (w n : Nat) : List Bool := (digitsBE 2 w n).map (· == 1)

/-- The number that a bit string denotes. -/
def ofBits (bits : List Bool) : Nat := ofDigitsBE 2 (bits.map Bool.toNat)

/-- Bytes as a bit string. -/
def bitsOfBytes (bytes : List UInt8) : List Bool := bytes.flatMap fun b => toBits 8 b.toNat

/-! ## Functions -/

def ch (x y z : Word) : Word := (x &&& y) ^^^ (~~~x &&& z)

def maj (x y z : Word) : Word := (x &&& y) ^^^ (x &&& z) ^^^ (y &&& z)

def bigSigma0 (x : Word) : Word := x.rotateRight 2 ^^^ x.rotateRight 13 ^^^ x.rotateRight 22

def bigSigma1 (x : Word) : Word := x.rotateRight 6 ^^^ x.rotateRight 11 ^^^ x.rotateRight 25

def smallSigma0 (x : Word) : Word := x.rotateRight 7 ^^^ x.rotateRight 18 ^^^ (x >>> 3)

def smallSigma1 (x : Word) : Word := x.rotateRight 17 ^^^ x.rotateRight 19 ^^^ (x >>> 10)

/-! ## Constants -/

/-- The first 32 bits of the fractional part of the `k`-th root of `n`: the
root with 32 binary places, without its integer part. -/
def rootFraction (k n : Nat) : Word := BitVec.ofNat 32 (Nat.nthRoot k (n * 2 ^ (k * 32)))

/-- The constant of round `t`, from the cube root of the prime number `t`. -/
noncomputable def roundConstant (t : Nat) : Word := rootFraction 3 (Nat.nth Nat.Prime t)

/-- The word `j` of the initial hash value, from a square root. -/
noncomputable def initialHash (j : Nat) : Word := rootFraction 2 (Nat.nth Nat.Prime j)

/-! ## Messages -/

theorem exists_zeroBits (length : Nat) : ∃ k, (length + 1 + k) % 512 = 448 :=
  ⟨(959 - length % 512) % 512, by omega⟩

/-- The number of zeros behind the closing bit: the smallest that leaves 64
bits of the last block. -/
def zeroBits (length : Nat) : Nat := Nat.find (exists_zeroBits length)

/-- The message, a one, the zeros and the length. -/
def pad (message : List Bool) : List Bool :=
  message ++ [true] ++ List.replicate (zeroBits message.length) false ++ toBits 64 message.length

/-- The word `t` of block `i`. -/
def blockWord (padded : List Bool) (i t : Nat) : Word :=
  BitVec.ofNat 32 (ofBits ((padded.drop (512 * i + 32 * t)).take 32))

/-! ## Compression -/

/-- The message schedule of a block. -/
def schedule (block : Nat → Word) (t : Nat) : Word :=
  if t < 16 then block t
  else smallSigma1 (schedule block (t - 2)) + schedule block (t - 7) +
    smallSigma0 (schedule block (t - 15)) + schedule block (t - 16)
termination_by t

/-- The working variables, and the words of a hash value. -/
structure Registers where
  a : Word
  b : Word
  c : Word
  d : Word
  e : Word
  f : Word
  g : Word
  h : Word
deriving DecidableEq, Repr

/-- One round. -/
def round (k w : Word) (r : Registers) : Registers :=
  let t1 := r.h + bigSigma1 r.e + ch r.e r.f r.g + k + w
  let t2 := bigSigma0 r.a + maj r.a r.b r.c
  ⟨t1 + t2, r.a, r.b, r.c, r.d + t1, r.e, r.f, r.g⟩

/-- The 64 rounds with a schedule, added to the hash value. -/
noncomputable def compress (H : Registers) (W : Nat → Word) : Registers :=
  let r := Nat.fold 64 (fun t _ r => round (roundConstant t) (W t) r) H
  ⟨r.a + H.a, r.b + H.b, r.c + H.c, r.d + H.d, r.e + H.e, r.f + H.f, r.g + H.g, r.h + H.h⟩

noncomputable def initialRegisters : Registers :=
  ⟨initialHash 0, initialHash 1, initialHash 2, initialHash 3, initialHash 4, initialHash 5,
    initialHash 6, initialHash 7⟩

/-- The bits of a hash value. -/
def digestBits (H : Registers) : List Bool :=
  [H.a, H.b, H.c, H.d, H.e, H.f, H.g, H.h].flatMap fun word => toBits 32 word.toNat

/-- The hash value after so many blocks. -/
noncomputable def hashAfter (padded : List Bool) : Nat → Registers
  | 0 => initialRegisters
  | i + 1 => compress (hashAfter padded i) (schedule (blockWord padded i))

/-- The digest of a message. -/
noncomputable def hash (message : List Bool) : List Bool :=
  let padded := pad message
  digestBits (hashAfter padded (padded.length / 512))

/-! ## Bits of numbers and of bytes -/

@[simp] theorem length_toBits (w n : Nat) : (toBits w n).length = w := by simp [toBits]

/-- The bits of a number give it back, up to their width. -/
theorem ofBits_toBits (w n : Nat) : ofBits (toBits w n) = n % 2 ^ w := by
  have hdigits : (toBits w n).map Bool.toNat = digitsBE 2 w n := by
    rw [toBits, List.map_map]
    refine (List.map_congr_left fun d hd => ?_).trans (List.map_id _)
    have hlt := lt_of_mem_digitsBE (by decide) hd
    obtain rfl | rfl : d = 0 ∨ d = 1 := by omega
    · rfl
    · rfl
  rw [ofBits, hdigits, ofDigitsBE_digitsBE]

/-- Bytes that are the places of a number have its bits. -/
theorem bitsOfBytes_eq_toBits {bytes : List UInt8} {k n : Nat}
    (h : bytes.map UInt8.toNat = digitsBE 256 k n) : bitsOfBytes bytes = toBits (k * 8) n := by
  have hbase : (256 : Nat) = 2 ^ 8 := rfl
  rw [toBits, ← flatMap_digitsBE 8 k n, ← hbase, ← h, List.map_flatMap, List.flatMap_map]
  rfl

@[simp] theorem bitsOfBytes_append (bytes rest : List UInt8) :
    bitsOfBytes (bytes ++ rest) = bitsOfBytes bytes ++ bitsOfBytes rest :=
  List.flatMap_append

theorem bitsOfBytes_cons (byte : UInt8) (bytes : List UInt8) :
    bitsOfBytes (byte :: bytes) = toBits 8 byte.toNat ++ bitsOfBytes bytes := rfl

/-- Bytes with the same bits are the same. -/
theorem bitsOfBytes_inj {bytes bytes' : List UInt8} (h : bitsOfBytes bytes = bitsOfBytes bytes') :
    bytes = bytes' := by
  induction bytes generalizing bytes' with
  | nil =>
      cases bytes' with
      | nil => rfl
      | cons byte' bytes' => cases h
  | cons byte bytes ih =>
      cases bytes' with
      | nil => cases h
      | cons byte' bytes' =>
          rw [bitsOfBytes_cons, bitsOfBytes_cons] at h
          obtain ⟨hhead, htail⟩ := List.append_inj h (by simp)
          have hbyte : byte = byte' := by
            have hvalue := congrArg ofBits hhead
            rw [ofBits_toBits, ofBits_toBits] at hvalue
            have hlt := byte.toNat_lt
            have hlt' := byte'.toNat_lt
            exact UInt8.toNat_inj.mp (by omega)
          rw [hbyte, ih htail]

/-- Eight bits a byte. -/
@[simp] theorem length_bitsOfBytes (bytes : List UInt8) :
    (bitsOfBytes bytes).length = 8 * bytes.length := by
  induction bytes with
  | nil => rfl
  | cons byte bytes ih =>
      rw [bitsOfBytes_cons, List.length_append, length_toBits, ih, List.length_cons]
      omega

/-- Whole bytes are dropped from the bits. -/
theorem drop_bitsOfBytes (bytes : List UInt8) (j : Nat) :
    (bitsOfBytes bytes).drop (8 * j) = bitsOfBytes (bytes.drop j) := by
  induction bytes generalizing j with
  | nil => simp [bitsOfBytes]
  | cons byte bytes ih =>
      cases j with
      | zero => rfl
      | succ j =>
          have hsplit : 8 * (j + 1) = (toBits 8 byte.toNat).length + 8 * j := by
            rw [length_toBits]
            omega
          rw [bitsOfBytes_cons, hsplit, List.drop_length_add_append, ih, List.drop_succ_cons]

/-- And taken. -/
theorem take_bitsOfBytes (bytes : List UInt8) (j : Nat) :
    (bitsOfBytes bytes).take (8 * j) = bitsOfBytes (bytes.take j) := by
  have hsplit := congrArg (List.take (8 * j)) (bitsOfBytes_append (bytes.take j) (bytes.drop j))
  rw [List.take_append_drop] at hsplit
  rw [hsplit]
  by_cases hj : j ≤ bytes.length
  · have hlength : (bitsOfBytes (bytes.take j)).length = 8 * j := by
      rw [length_bitsOfBytes, List.length_take_of_le hj]
    rw [← hlength, List.take_left]
  · rw [List.drop_eq_nil_of_le (by omega), bitsOfBytes, bitsOfBytes, List.flatMap_nil,
      List.append_nil, List.take_of_length_le]
    rw [← bitsOfBytes, length_bitsOfBytes, List.length_take]
    omega

/-- A word of a block, from its four bytes. -/
theorem blockWord_bitsOfBytes {bytes : List UInt8} {i t n : Nat}
    (h : ((bytes.drop (64 * i + 4 * t)).take 4).map UInt8.toNat = digitsBE 256 4 n) :
    blockWord (bitsOfBytes bytes) i t = BitVec.ofNat 32 n := by
  have hdrop : 512 * i + 32 * t = 8 * (64 * i + 4 * t) := by omega
  have htake : (32 : Nat) = 8 * 4 := rfl
  rw [blockWord, hdrop, drop_bitsOfBytes]
  nth_rewrite 2 [htake]
  rw [take_bitsOfBytes, bitsOfBytes_eq_toBits h, ofBits_toBits]
  exact BitVec.eq_of_toNat_eq (by rw [BitVec.toNat_ofNat, BitVec.toNat_ofNat, Nat.mod_mod])

/-! ## Padding -/

theorem zeroBits_eq {length k : Nat} (hk : k < 512) (h : (length + 1 + k) % 512 = 448) :
    zeroBits length = k := by
  rw [zeroBits, Nat.find_eq_iff]
  exact ⟨h, fun j hj => by omega⟩

/-! ## The schedule -/

theorem schedule_of_lt (block : Nat → Word) {t : Nat} (h : t < 16) :
    schedule block t = block t := by
  rw [schedule, if_pos h]

theorem schedule_add (block : Nat → Word) (t : Nat) :
    schedule block (t + 16) = smallSigma1 (schedule block (t + 14)) + schedule block (t + 9) +
      smallSigma0 (schedule block (t + 1)) + schedule block t := by
  rw [schedule, if_neg (by omega)]
  rfl

/-! ## The constants as a table -/

/-- The numbers with a property, in order. -/
theorem filter_range_eq_map_nth (p : Nat → Prop) [DecidablePred p] (n : Nat) :
    (List.range n).filter p = (List.range (Nat.count p n)).map (Nat.nth p) := by
  induction n with
  | zero => rfl
  | succ n ih =>
      rw [List.range_succ, List.filter_append, ih, Nat.count_succ]
      by_cases hn : p n
      · rw [if_pos hn, List.range_succ, List.map_append, List.map_singleton, Nat.nth_count hn,
          List.filter_singleton, decide_eq_true hn]
        rfl
      · rw [if_neg hn, List.filter_singleton, decide_eq_false hn, Nat.add_zero]
        exact List.append_nil _

/-- The first 64 primes. -/
def primes : List Nat :=
  [2, 3, 5, 7, 11, 13, 17, 19, 23, 29, 31, 37, 41, 43, 47, 53, 59, 61, 67, 71, 73, 79, 83, 89, 97,
    101, 103, 107, 109, 113, 127, 131, 137, 139, 149, 151, 157, 163, 167, 173, 179, 181, 191, 193,
    197, 199, 211, 223, 227, 229, 233, 239, 241, 251, 257, 263, 269, 271, 277, 281, 283, 293, 307,
    311]

theorem filter_prime_range : (List.range 312).filter Nat.Prime = primes := by
  have hfilter : (List.range 312).filter (fun n => @decide _ (Nat.decidablePrime' n)) = primes := by
    decide +kernel
  rw [← hfilter]
  refine List.filter_congr fun n _ => ?_
  exact decide_eq_decide.mpr Iff.rfl

/-- The table of primes holds the first 64: counting them. -/
theorem nth_prime {t : Nat} (h : t < 64) : Nat.nth Nat.Prime t = primes.get ⟨t, h⟩ := by
  have hmap := filter_range_eq_map_nth Nat.Prime 312
  rw [filter_prime_range] at hmap
  have hget := congrArg (·[t]?) hmap
  have hcount : Nat.count Nat.Prime 312 = 64 := by
    have hlength := congrArg List.length hmap
    rw [List.length_map, List.length_range] at hlength
    exact hlength.symm
  simp only [List.getElem?_map, hcount, List.getElem?_range h, Option.map_some] at hget
  rw [List.getElem?_eq_getElem h] at hget
  exact (Option.some.inj hget).symm

end SecureHash

end GameServer
