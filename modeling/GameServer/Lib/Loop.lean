import Mathlib.Tactic.Common

/-!
# GameServer.Lib.Loop

Rules for counted loops, as `Nat.fold` runs them.

* `fold_invariant` — the invariant rule
* `fold_map` — a loop that does what another one does
-/

namespace GameServer

variable {α β : Type}

/-- What holds before the first round and is handed on by each holds after the
last. -/
theorem fold_invariant {n : Nat} {f : (i : Nat) → i < n → α → α} {a : α} (P : Nat → α → Prop)
    (hstart : P 0 a) (hround : ∀ i hi a, P i a → P (i + 1) (f i hi a)) : P n (Nat.fold n f a) := by
  induction n with
  | zero => exact hstart
  | succ n ih =>
      rw [Nat.fold_succ]
      exact hround n (Nat.lt_succ_self n) _ (ih fun i hi a h => hround i (by omega) a h)

/-- Two loops whose rounds do the same end in the same. -/
theorem fold_map {n : Nat} {f : (i : Nat) → i < n → α → α} {g : (i : Nat) → i < n → β → β}
    (φ : α → β) (hround : ∀ i hi a, φ (f i hi a) = g i hi (φ a)) (a : α) :
    φ (Nat.fold n f a) = Nat.fold n g (φ a) := by
  induction n with
  | zero => rfl
  | succ n ih =>
      rw [Nat.fold_succ, Nat.fold_succ, hround, ih fun i hi a => hround i (by omega) a]

end GameServer
