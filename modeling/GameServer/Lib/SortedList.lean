import Mathlib.Data.List.Sort
import Mathlib.Tactic.Common

/-!
# GameServer.Lib.SortedList

The algorithms on sorted ranges that a diff of two collections needs, and the
beginning of a sorted list.

* `unique` — drop the elements equal to the one before them;
* `setDifference`, `setIntersection` — the multiset difference and the
  intersection of two sorted lists, in one pass over both;
* `mem_take_iff_countP_lt` — what a cut leaves of a sorted list.
-/

namespace GameServer

section Unique

variable {α : Type} [DecidableEq α]

/-- `std::unique` followed by the erasure of the tail it leaves. -/
def unique : List α → List α
  | [] => []
  | [a] => [a]
  | a :: b :: l => if a = b then unique (b :: l) else a :: unique (b :: l)

@[simp] theorem mem_unique {x : α} (l : List α) : x ∈ unique l ↔ x ∈ l := by
  fun_induction unique l with
  | case1 => rfl
  | case2 a => rfl
  | case3 a l ih => simp_all
  | case4 a b l hab ih => simp only [List.mem_cons, ih]

end Unique

section SetDifference

variable {α : Type} [LinearOrder α]

/-- `std::set_difference`. -/
def setDifference : List α → List α → List α
  | [], _ => []
  | a :: as, [] => a :: as
  | a :: as, b :: bs =>
      if a < b then a :: setDifference as (b :: bs)
      else if b < a then setDifference (a :: as) bs
      else setDifference as bs
termination_by as bs => as.length + bs.length

/-- Every element is kept as often as it is more frequent in the first
list. -/
theorem count_setDifference (x : α) {as bs : List α} (has : as.Pairwise (· ≤ ·))
    (hbs : bs.Pairwise (· ≤ ·)) :
    (setDifference as bs).count x = as.count x - bs.count x := by
  fun_induction setDifference as bs with
  | case1 bs => simp
  | case2 a as => simp
  | case3 a as b bs hlt ih =>
      -- `a` is smaller than everything in the second list.
      have hnot : a ∉ b :: bs := by
        intro hmem
        cases List.mem_cons.mp hmem with
        | inl heq => exact absurd heq hlt.ne
        | inr htail => exact absurd ((List.pairwise_cons.mp hbs).1 a htail) (not_le.mpr hlt)
      have hzero : (b :: bs).count a = 0 := List.count_eq_zero.mpr hnot
      rw [List.count_cons, ih (List.pairwise_cons.mp has).2 hbs, List.count_cons (a := x) (b := a)]
      split
      next heq =>
        rw [beq_iff_eq] at heq
        subst heq
        omega
      next => rfl
  | case4 a as b bs hnlt hlt ih =>
      have hnot : b ∉ a :: as := by
        intro hmem
        cases List.mem_cons.mp hmem with
        | inl heq => exact absurd heq hlt.ne
        | inr htail => exact absurd ((List.pairwise_cons.mp has).1 b htail) (not_le.mpr hlt)
      have hzero : (a :: as).count b = 0 := List.count_eq_zero.mpr hnot
      rw [ih has (List.pairwise_cons.mp hbs).2, List.count_cons (a := x) (b := b)]
      split
      next heq =>
        rw [beq_iff_eq] at heq
        subst heq
        omega
      next => rfl
  | case5 a as b bs hnlt hnlt' ih =>
      have hab : a = b := le_antisymm (not_lt.mp hnlt') (not_lt.mp hnlt)
      subst hab
      rw [ih (List.pairwise_cons.mp has).2 (List.pairwise_cons.mp hbs).2, List.count_cons,
        List.count_cons]
      omega

/-- On lists without repetition it is the difference of sets. -/
theorem mem_setDifference_sort {x : α} {as bs : List α} (has : as.Nodup) :
    x ∈ setDifference (as.insertionSort (· ≤ ·)) (bs.insertionSort (· ≤ ·)) ↔
      x ∈ as ∧ x ∉ bs := by
  have hcount := count_setDifference x (as.pairwise_insertionSort (· ≤ ·))
    (bs.pairwise_insertionSort (· ≤ ·))
  rw [(as.perm_insertionSort _).count_eq, (bs.perm_insertionSort _).count_eq] at hcount
  have hone := List.nodup_iff_count_le_one.mp has x
  rw [← List.count_pos_iff, hcount, ← List.count_pos_iff (l := as), ← List.count_eq_zero]
  omega

/-- A difference repeats nothing. -/
theorem nodup_setDifference_sort {as bs : List α} (has : as.Nodup) :
    (setDifference (as.insertionSort (· ≤ ·)) (bs.insertionSort (· ≤ ·))).Nodup := by
  rw [List.nodup_iff_count_le_one]
  intro x
  rw [count_setDifference x (as.pairwise_insertionSort (· ≤ ·))
    (bs.pairwise_insertionSort (· ≤ ·)), (as.perm_insertionSort _).count_eq]
  exact (Nat.sub_le _ _).trans (List.nodup_iff_count_le_one.mp has x)

/-- `std::set_intersection`. -/
def setIntersection : List α → List α → List α
  | [], _ => []
  | _ :: _, [] => []
  | a :: as, b :: bs =>
      if a < b then setIntersection as (b :: bs)
      else if b < a then setIntersection (a :: as) bs
      else a :: setIntersection as bs
termination_by as bs => as.length + bs.length

end SetDifference

section Take

variable {α : Type} {p : α → Bool} {w : α} {l : List α}

/-- An element is among the first `n` of a sorted list if fewer than `n` are
before it. -/
theorem mem_take_iff_countP_lt
    (h : l.Pairwise fun a b => (b = w → p a = true) ∧ (a = w → p b = false)) (hw : w ∈ l)
    (hself : p w = false) (n : Nat) : w ∈ l.take n ↔ l.countP p < n := by
  induction l generalizing n with
  | nil => cases hw
  | cons a l ih =>
      rw [List.pairwise_cons] at h
      cases n with
      | zero => simp
      | succ n =>
          by_cases haw : a = w
          · subst haw
            have hnone : l.countP p = 0 :=
              List.countP_eq_zero.mpr fun b hb => Bool.not_eq_true _ ▸ (h.1 b hb).2 rfl
            rw [List.take_succ_cons, List.countP_cons_of_neg (by simp [hself]), hnone]
            exact iff_of_true List.mem_cons_self n.succ_pos
          · have hin : w ∈ l := List.mem_of_ne_of_mem (Ne.symm haw) hw
            rw [List.take_succ_cons, List.countP_cons_of_pos ((h.1 w hin).1 rfl), List.mem_cons,
              or_iff_right (Ne.symm haw), ih h.2 hin n]
            exact Nat.succ_lt_succ_iff.symm

end Take

/-- Ids are compared as numbers. -/
instance instLinearOrderUInt64 : LinearOrder UInt64 where
  le_refl := UInt64.le_refl
  le_trans _ _ _ := UInt64.le_trans
  le_antisymm _ _ := UInt64.le_antisymm
  le_total := UInt64.le_total
  lt_iff_le_not_ge _ _ := by
    rw [UInt64.not_le]
    exact ⟨fun h => ⟨UInt64.le_of_lt h, h⟩, fun h => h.2⟩
  toDecidableLE := inferInstance
  toDecidableEq := inferInstance
  toDecidableLT := inferInstance

end GameServer
