import Mathlib.Algebra.BigOperators.Group.Finset.Basic
import Mathlib.Algebra.GroupWithZero.Nat
import Mathlib.Data.List.AList

/-!
# GameServer.Lib.Counts

How many values of a finite map have a property.

A program that keeps such a number in a counter of its own adjusts it with
every insert and erase; these are the adjustments it has to make.

* `countValues` — the number of values with a property, `size` — of all;
* `countValues_erase_add`, `countValues_insert` — what an erase and an insert
  do to it;
* `sum_countValues` — the numbers for all values of an attribute add up.
-/

namespace GameServer

namespace Counts

variable {κ β ι : Type} [DecidableEq κ] [DecidableEq ι]

omit [DecidableEq κ] in
/-- The number of values that satisfy `p`. -/
def countValues (p : β → Bool) (m : AList fun _ : κ => β) : Nat := m.entries.countP fun e => p e.2

omit [DecidableEq κ] in
/-- The number of entries, `m.size()`. -/
def size (m : AList fun _ : κ => β) : Nat := m.entries.length

omit [DecidableEq κ] in
theorem countValues_true (m : AList fun _ : κ => β) : countValues (fun _ => true) m = size m :=
  congrFun List.countP_true m.entries

/-- An erase takes the value under its key out of the count. -/
theorem countValues_erase_add (p : β → Bool) (m : AList fun _ : κ => β) (k : κ) :
    countValues p (AList.erase k m) + (m.lookup k).elim 0 (fun v => (p v).toNat) =
      countValues p m := by
  by_cases hk : k ∈ m
  · obtain ⟨v, l₁, l₂, hnot, hl, herase⟩ := List.exists_of_kerase hk
    have hv : m.lookup k = some v := by
      refine AList.mem_lookup_iff.mpr ?_
      rw [hl]
      exact List.mem_append_right _ List.mem_cons_self
    have herase : (AList.erase k m).entries = l₁ ++ l₂ := herase
    rw [hv, countValues, countValues, herase, hl, List.countP_append, List.countP_append,
      List.countP_cons]
    cases hp : p v with
    | false => simp [hp]
    | true =>
        simp only [hp, if_true, Option.elim_some, Bool.toNat_true]
        omega
  · have hnone : m.lookup k = none := AList.lookup_eq_none.mpr hk
    have herase : (AList.erase k m).entries = m.entries := List.kerase_of_notMem_keys hk
    rw [hnone, countValues, countValues, herase]
    rfl

/-- An insert replaces the value under its key. -/
theorem countValues_insert (p : β → Bool) (m : AList fun _ : κ => β) (k : κ) (v : β) :
    countValues p (AList.insert k v m) = countValues p (AList.erase k m) + (p v).toNat := by
  have hentries : (AList.insert k v m).entries = ⟨k, v⟩ :: (AList.erase k m).entries :=
    AList.entries_insert
  rw [countValues, hentries, List.countP_cons, countValues]
  cases p v <;> rfl

theorem countValues_insert_add (p : β → Bool) (m : AList fun _ : κ => β) (k : κ) (v : β) :
    countValues p (AList.insert k v m) + (m.lookup k).elim 0 (fun v => (p v).toNat) =
      countValues p m + (p v).toNat := by
  rw [countValues_insert, ← countValues_erase_add p m k]
  omega

theorem size_erase_add (m : AList fun _ : κ => β) (k : κ) :
    size (AList.erase k m) + (m.lookup k).elim 0 (fun _ => 1) = size m := by
  have h := countValues_erase_add (fun _ => true) m k
  rwa [countValues_true, countValues_true] at h

theorem size_insert_add (m : AList fun _ : κ => β) (k : κ) (v : β) :
    size (AList.insert k v m) + (m.lookup k).elim 0 (fun _ => 1) = size m + 1 := by
  have h := countValues_insert_add (fun _ => true) m k v
  rwa [countValues_true, countValues_true] at h

/-- An assignment to a key that is there adds no entry. -/
theorem size_insert_of_lookup {m : AList fun _ : κ => β} {k : κ} {v : β}
    (h : m.lookup k = some v) (v' : β) : size (AList.insert k v' m) = size m := by
  have hsize := size_insert_add m k v'
  rw [h] at hsize
  exact Nat.succ.inj hsize

/-- A count is positive exactly if there is something to count. -/
theorem countValues_pos_iff {p : β → Bool} {m : AList fun _ : κ => β} :
    0 < countValues p m ↔ ∃ k v, m.lookup k = some v ∧ p v = true := by
  rw [countValues, List.countP_pos_iff]
  constructor
  · rintro ⟨e, he, hp⟩
    exact ⟨e.1, e.2, AList.mem_lookup_iff.mpr he, hp⟩
  · rintro ⟨k, v, hv, hp⟩
    exact ⟨⟨k, v⟩, AList.mem_lookup_iff.mp hv, hp⟩

omit [DecidableEq κ] in
theorem countValues_le_size (p : β → Bool) (m : AList fun _ : κ => β) :
    countValues p m ≤ size m :=
  List.countP_le_length

/-- The values counted by an attribute are all values, if the list has every
value of the attribute once. -/
theorem sum_countValues {f : β → ι} {m : AList fun _ : κ => β} {is : List ι} (hnodup : is.Nodup)
    (hcover : ∀ k v, m.lookup k = some v → f v ∈ is) :
    (is.map fun i => countValues (fun v => decide (f v = i)) m).sum = size m := by
  have hmem : ∀ i ∈ ((m.entries.map fun e => f e.2 : List ι) : Multiset ι), i ∈ is.toFinset := by
    intro i hi
    obtain ⟨e, he, rfl⟩ := List.mem_map.mp (Multiset.mem_coe.mp hi)
    exact List.mem_toFinset.mpr (hcover e.1 e.2 (AList.mem_lookup_iff.mpr he))
  have hsum := Multiset.sum_count_eq_card hmem
  rw [List.sum_toFinset _ hnodup, Multiset.coe_card, List.length_map] at hsum
  rw [size, ← hsum]
  refine congrArg List.sum (List.map_congr_left fun i _ => ?_)
  rw [Multiset.coe_count, List.count, List.countP_map]
  refine List.countP_congr fun e _ => ?_
  simp

end Counts

end GameServer
