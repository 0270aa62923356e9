import Mathlib.Logic.Function.Basic
import Mathlib.Tactic.Common

/-!
# GameServer.Lib.Table

Finite-map tables as partial functions.

A hash map that is only looked up, assigned, erased by key and erased by a
predicate on its values is a function `K → Option V`; the order in which
the real map iterates never shows in such uses.

* `Table.set` / `Table.erase` — assignment and erasure of one key;
* `Table.eraseMatching` — erasure of one key if it holds a given value;
* `Table.eraseWhere` — the `for (it …) if (p(it->second)) erase(it)` loop.
-/

namespace GameServer

/-- A lookup table: `none` where the key is absent. -/
abbrev Table (K V : Type) := K → Option V

namespace Table

variable {K V : Type} [DecidableEq K]

/-- The table without entries. -/
def empty : Table K V := fun _ => none

/-- `t[k] = v`. -/
def set (t : Table K V) (k : K) (v : V) : Table K V := Function.update t k (some v)

/-- `t.erase(k)`. -/
def erase (t : Table K V) (k : K) : Table K V := Function.update t k none

/-- `it = t.find(k); if (it != t.end() && it->second == v) t.erase(it)`. -/
def eraseMatching [DecidableEq V] (t : Table K V) (k : K) (v : V) : Table K V :=
  if t k = some v then t.erase k else t

omit [DecidableEq K] in
/-- Erase every entry whose value satisfies `p`. -/
def eraseWhere (t : Table K V) (p : V → Bool) : Table K V := fun k => (t k).filter fun v => !p v

omit [DecidableEq K] in
@[simp] theorem empty_apply (k : K) : (empty : Table K V) k = none := rfl

theorem set_apply (t : Table K V) (k : K) (v : V) (k' : K) :
    t.set k v k' = if k' = k then some v else t k' :=
  Function.update_apply t k (some v) k'

@[simp] theorem set_self (t : Table K V) (k : K) (v : V) : t.set k v k = some v := by
  rw [set_apply, if_pos rfl]

theorem set_of_ne (t : Table K V) {k k' : K} (v : V) (h : k' ≠ k) : t.set k v k' = t k' := by
  rw [set_apply, if_neg h]

theorem erase_apply (t : Table K V) (k k' : K) :
    t.erase k k' = if k' = k then none else t k' :=
  Function.update_apply t k none k'

@[simp] theorem erase_self (t : Table K V) (k : K) : t.erase k k = none := by
  rw [erase_apply, if_pos rfl]

theorem erase_of_ne (t : Table K V) {k k' : K} (h : k' ≠ k) : t.erase k k' = t k' := by
  rw [erase_apply, if_neg h]

theorem erase_of_eq_none {t : Table K V} {k : K} (h : t k = none) : t.erase k = t := by
  rw [erase, ← h, Function.update_eq_self]

theorem erase_eq_some_iff {t : Table K V} {k k' : K} {v : V} :
    t.erase k k' = some v ↔ k' ≠ k ∧ t k' = some v := by
  rw [erase_apply]
  split <;> simp_all

/-- A matching erase takes an entry only if it has that value. -/
theorem eraseMatching_eq_some_iff [DecidableEq V] {t : Table K V} {k k' : K} {v v' : V} :
    t.eraseMatching k v k' = some v' ↔ t k' = some v' ∧ ¬(k' = k ∧ v' = v) := by
  simp only [eraseMatching]
  split
  case isTrue h =>
    rw [erase_eq_some_iff]
    constructor
    · rintro ⟨hk, h'⟩
      exact ⟨h', fun hc => hk hc.1⟩
    · rintro ⟨h', hc⟩
      refine ⟨fun hk => hc ⟨hk, ?_⟩, h'⟩
      subst hk
      exact Option.some.inj (h'.symm.trans h)
  case isFalse h =>
    constructor
    · intro h'
      refine ⟨h', ?_⟩
      rintro ⟨rfl, rfl⟩
      exact h h'
    · exact fun h' => h'.1

theorem eraseMatching_eq_none [DecidableEq V] {t : Table K V} {k : K} (h : t k = none) (k' : K)
    (v : V) : t.eraseMatching k' v k = none := by
  refine Option.eq_none_iff_forall_ne_some.mpr fun v' hc => ?_
  rw [(eraseMatching_eq_some_iff.mp hc).1] at h
  cases h

/-- An assignment hides what was erased at its key. -/
theorem set_eraseMatching [DecidableEq V] (t : Table K V) (k : K) (v w : V) :
    (t.eraseMatching k v).set k w = t.set k w := by
  funext k'
  simp only [set_apply, eraseMatching]
  split
  · rfl
  case isFalse h =>
    split
    · rw [erase_of_ne t h]
    · rfl

omit [DecidableEq K] in
theorem eraseWhere_eq_some_iff {t : Table K V} {p : V → Bool} {k : K} {v : V} :
    t.eraseWhere p k = some v ↔ t k = some v ∧ p v = false := by
  simp [eraseWhere, Option.filter_eq_some_iff]

omit [DecidableEq K] in
theorem eraseWhere_of_eq_some {t : Table K V} {p : V → Bool} {k : K} {v : V}
    (h : t k = some v) (hp : p v = false) : t.eraseWhere p k = some v :=
  eraseWhere_eq_some_iff.mpr ⟨h, hp⟩

end Table

end GameServer
