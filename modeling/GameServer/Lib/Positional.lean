import Mathlib.Data.Nat.Log
import Mathlib.Algebra.Order.Ring.Int
import Mathlib.Tactic.Common

/-!
# GameServer.Lib.Positional

Numbers as digits to a base, most significant first, in so many places.

* `digitsBE_add`, `digitsBE_inj` — places split, and what they determine
* `flatMap_digitsBE` — the places of a power of the base are groups of places
  of the base
* `toDigits_eq` — the text of a number has its leading digit in front
-/

namespace GameServer

variable {b : Nat}

/-- The `k` low digits of `n`, most significant first. -/
def digitsBE (b : Nat) : Nat → Nat → List Nat
  | 0, _ => []
  | k + 1, n => digitsBE b k (n / b) ++ [n % b]

/-- The number that the digits denote. -/
def ofDigitsBE (b : Nat) (digits : List Nat) : Nat :=
  digits.foldl (fun n d => n * b + d) 0

@[simp] theorem length_digitsBE (k n : Nat) : (digitsBE b k n).length = k := by
  induction k generalizing n with
  | zero => rfl
  | succ k ih => simp [digitsBE, ih]

/-! ## Splitting -/

/-- The digits of a number, cut in two. -/
theorem digitsBE_add (j k n : Nat) :
    digitsBE b (j + k) n = digitsBE b j (n / b ^ k) ++ digitsBE b k n := by
  induction k generalizing n with
  | zero => simp [digitsBE]
  | succ k ih =>
      rw [← Nat.add_assoc, digitsBE, ih, digitsBE, Nat.div_div_eq_div_mul, ← Nat.pow_succ',
        List.append_assoc]

/-- Digits above the places are not seen. -/
theorem digitsBE_mod (k n : Nat) : digitsBE b k (n % b ^ k) = digitsBE b k n := by
  induction k generalizing n with
  | zero => rfl
  | succ k ih =>
      have hdiv : n % b ^ (k + 1) / b = n / b % b ^ k := by
        rw [Nat.pow_succ', Nat.mod_mul_right_div_self]
      have hmod : n % b ^ (k + 1) % b = n % b :=
        Nat.mod_mod_of_dvd n (Dvd.intro_left (b ^ k) rfl)
      rw [digitsBE, hdiv, ih, hmod, digitsBE]

/-- The places of a number in front of those of another one. -/
theorem digitsBE_mul_add {k y : Nat} (hy : y < b ^ k) (j x : Nat) :
    digitsBE b (j + k) (x * b ^ k + y) = digitsBE b j x ++ digitsBE b k y := by
  have hpos : 0 < b ^ k := Nat.zero_lt_of_lt hy
  have hdiv : (x * b ^ k + y) / b ^ k = x := by
    rw [Nat.mul_comm, Nat.mul_add_div hpos, Nat.div_eq_of_lt hy, Nat.add_zero]
  have hmod : (x * b ^ k + y) % b ^ k = y := by
    rw [Nat.mul_add_mod_of_lt hy]
  rw [digitsBE_add, hdiv, ← digitsBE_mod k (x * b ^ k + y), hmod]

@[simp] theorem digitsBE_zero (k : Nat) : digitsBE b k 0 = List.replicate k 0 := by
  induction k with
  | zero => rfl
  | succ k ih => rw [digitsBE, Nat.zero_div, ih, Nat.zero_mod, List.replicate_succ']

/-- Zeros behind a number. -/
theorem digitsBE_mul_pow (hb : 0 < b) (j k x : Nat) :
    digitsBE b (j + k) (x * b ^ k) = digitsBE b j x ++ List.replicate k 0 := by
  have h := digitsBE_mul_add (Nat.pow_pos (n := k) hb) j x
  rw [Nat.add_zero, digitsBE_zero] at h
  exact h

/-! ## Values -/

theorem ofDigitsBE_concat (digits : List Nat) (d : Nat) :
    ofDigitsBE b (digits ++ [d]) = ofDigitsBE b digits * b + d := by
  rw [ofDigitsBE, List.foldl_append]
  rfl

theorem ofDigitsBE_digitsBE (k n : Nat) : ofDigitsBE b (digitsBE b k n) = n % b ^ k := by
  induction k generalizing n with
  | zero => rw [Nat.pow_zero, Nat.mod_one]; rfl
  | succ k ih =>
      rw [digitsBE, ofDigitsBE_concat, ih, Nat.pow_succ', Nat.mod_mul, Nat.add_comm, Nat.mul_comm]

/-- The places determine what they show. -/
theorem digitsBE_inj {k m n : Nat} : digitsBE b k m = digitsBE b k n ↔ m % b ^ k = n % b ^ k := by
  constructor
  · intro h
    rw [← ofDigitsBE_digitsBE, h, ofDigitsBE_digitsBE]
  · intro h
    rw [← digitsBE_mod, h, digitsBE_mod]

/-- Every digit is below the base. -/
theorem lt_of_mem_digitsBE (hb : 0 < b) {k n d : Nat} (h : d ∈ digitsBE b k n) : d < b := by
  induction k generalizing n with
  | zero => cases h
  | succ k ih =>
      rw [digitsBE, List.mem_append, List.mem_singleton] at h
      rcases h with hmem | rfl
      · exact ih hmem
      · exact Nat.mod_lt n hb

/-! ## Groups -/

/-- The places of `b ^ w`, each shown in `w` places of `b`. -/
theorem flatMap_digitsBE (w k n : Nat) :
    (digitsBE (b ^ w) k n).flatMap (digitsBE b w) = digitsBE b (k * w) n := by
  induction k generalizing n with
  | zero => rw [Nat.zero_mul]; rfl
  | succ k ih =>
      rw [digitsBE, List.flatMap_append, ih, List.flatMap_singleton, digitsBE_mod, Nat.succ_mul,
        digitsBE_add]

/-! ## Texts -/

/-- The text of a number: as many places as its leading digit needs. -/
theorem toDigits_eq (hb : 1 < b) (n : Nat) :
    Nat.toDigits b n = (digitsBE b (Nat.log b n + 1) n).map Nat.digitChar := by
  induction n using Nat.strong_induction_on with
  | h n ih =>
      by_cases hn : n < b
      · rw [Nat.toDigits_of_lt_base hn, Nat.log_of_lt hn, Nat.zero_add, digitsBE, digitsBE,
          Nat.mod_eq_of_lt hn]
        rfl
      · have hle : b ≤ n := Nat.le_of_not_lt hn
        have hlt : n / b < n := Nat.div_lt_self (by omega) hb
        have hsplit : digitsBE b (Nat.log b (n / b) + 1 + 1) n =
            digitsBE b (Nat.log b (n / b) + 1) (n / b) ++ [n % b] := rfl
        rw [Nat.toDigits_of_base_le hb hle, ih _ hlt, Nat.log_of_one_lt_of_le hb hle, hsplit,
          List.map_append]
        rfl

end GameServer
