import Mathlib.Algebra.Order.Ring.Int
import Mathlib.Tactic.Common

/-!
# GameServer.Lib.Signed

Machine arithmetic that fails where it would overflow.

A step of signed arithmetic is computed without bounds and then has to be a
number of the width: a computation that ends with a value never overflowed,
and its value is the one of unbounded arithmetic.
-/

namespace GameServer

/-- A number of `w`-bit signed arithmetic, if it is one. -/
def signed (w : Nat) (v : Int) : Option Int :=
  if -2 ^ (w - 1) ≤ v ∧ v < 2 ^ (w - 1) then some v else none

theorem signed32_eq {v : Int} (hlow : -2 ^ 31 ≤ v) (hhigh : v < 2 ^ 31) :
    signed 32 v = some v := if_pos ⟨hlow, hhigh⟩

theorem signed64_eq {v : Int} (hlow : -2 ^ 63 ≤ v) (hhigh : v < 2 ^ 63) :
    signed 64 v = some v := if_pos ⟨hlow, hhigh⟩

theorem signed32_eq_none {v : Int} (h : 2 ^ 31 ≤ v) : signed 32 v = none :=
  if_neg fun hbounds => hbounds.2.not_ge h

/-- The elements that pass a test, if the test has an answer for all. -/
def filterChecked {α : Type} (p : α → Option Bool) : List α → Option (List α)
  | [] => some []
  | a :: as => do
      let keep ← p a
      let rest ← filterChecked p as
      return if keep then a :: rest else rest

/-- A filter whose test never overflows is the plain filter. -/
theorem filterChecked_eq {α : Type} {p : α → Option Bool} {q : α → Bool} {l : List α}
    (h : ∀ a ∈ l, p a = some (q a)) : filterChecked p l = some (l.filter q) := by
  induction l with
  | nil => rfl
  | cons a as ih =>
      have ha := h a List.mem_cons_self
      have has := ih fun b hb => h b (List.mem_cons_of_mem a hb)
      simp only [filterChecked, ha, has, Option.bind_eq_bind, Option.bind_some, Option.pure_def,
        List.filter_cons]

end GameServer
