import Mathlib.Data.UInt
import Mathlib.Tactic.Common

/-!
# GameServer.Lib.Bytes

Little-endian byte images of natural numbers, as a packed C struct on a
little-endian machine lays out its integer fields.
-/

namespace GameServer

/-- The `k` low bytes of `n`, least significant first. -/
def toBytesLE : Nat → Nat → List UInt8
  | 0, _ => []
  | k + 1, n => UInt8.ofNat (n % 256) :: toBytesLE k (n / 256)

/-- The number a little-endian byte string denotes. -/
def ofBytesLE : List UInt8 → Nat
  | [] => 0
  | b :: bs => b.toNat + 256 * ofBytesLE bs

@[simp] theorem length_toBytesLE (k n : Nat) : (toBytesLE k n).length = k := by
  induction k generalizing n with
  | zero => rfl
  | succ k ih => simp [toBytesLE, ih]

/-- The bytes of a number give it back, up to their width. -/
theorem ofBytesLE_toBytesLE (k n : Nat) : ofBytesLE (toBytesLE k n) = n % 256 ^ k := by
  induction k generalizing n with
  | zero => simp [toBytesLE, ofBytesLE, Nat.mod_one]
  | succ k ih =>
      have hbyte : (UInt8.ofNat (n % 256)).toNat = n % 256 := by
        simp [UInt8.toNat_ofNat']
      simp only [toBytesLE, ofBytesLE, ih, hbyte]
      rw [Nat.pow_succ', Nat.mod_mul]

end GameServer
