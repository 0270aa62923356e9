import Mathlib.Data.List.AList
import GameServer.Lib.ListSet

/-!
# GameServer.Lib.Buckets

Sets of ids filed under keys, as hash maps of hash sets are used: an insert
makes the set of its key, an erase drops a set that it empties.

* `idsAt` — the ids under a key;
* `mem_idsAt_insertId`, `mem_idsAt_eraseId` — what an insert and an erase do
  to them;
* `NoEmpty` — no key is left with an empty set.
-/

namespace GameServer

/-- The ids under each key that has any. -/
abbrev Buckets (κ α : Type) := AList fun _ : κ => ListSet α

namespace Buckets

variable {κ α : Type} [DecidableEq κ] [DecidableEq α]

/-- `buckets[k].insert(id)`. -/
def insertId (b : Buckets κ α) (k : κ) (id : α) : Buckets κ α :=
  AList.insert k (((b.lookup k).getD ListSet.empty).insert id) b

/-- Erase an id from the set of a key, and the set once it is empty. -/
def eraseId (b : Buckets κ α) (k : κ) (id : α) : Buckets κ α :=
  match b.lookup k with
  | none => b
  | some s =>
      if (s.erase id).elems.isEmpty then AList.erase k b
      else AList.insert k (s.erase id) b

omit [DecidableEq α] in
/-- The ids under a key. -/
def idsAt (b : Buckets κ α) (k : κ) : List α :=
  match b.lookup k with
  | none => []
  | some s => s.elems

omit [DecidableEq α] in
/-- An insert replaces one bucket. -/
theorem idsAt_insert (b : Buckets κ α) (k k' : κ) (s : ListSet α) :
    idsAt (AList.insert k s b) k' = if k' = k then s.elems else b.idsAt k' := by
  unfold idsAt
  split_ifs with h
  · subst h
    rw [AList.lookup_insert]
  · rw [AList.lookup_insert_ne h]

omit [DecidableEq α] in
/-- An erase empties one bucket. -/
theorem idsAt_erase (b : Buckets κ α) (k k' : κ) :
    idsAt (AList.erase k b) k' = if k' = k then [] else b.idsAt k' := by
  unfold idsAt
  split_ifs with h
  · subst h
    rw [AList.lookup_erase]
  · rw [AList.lookup_erase_ne h]

/-- An insert adds one id to one bucket. -/
theorem mem_idsAt_insertId {b : Buckets κ α} {k k' : κ} {id x : α} :
    x ∈ (b.insertId k id).idsAt k' ↔ (k' = k ∧ x = id) ∨ x ∈ b.idsAt k' := by
  rw [insertId, idsAt_insert]
  split_ifs with h
  · subst h
    simp only [ListSet.mem_insert, true_and, idsAt]
    cases b.lookup k' with
    | none => simp [ListSet.empty]
    | some s => rfl
  · simp [h]

/-- An erase takes one id out of one bucket. -/
theorem mem_idsAt_eraseId {b : Buckets κ α} {k k' : κ} {id x : α} :
    x ∈ (b.eraseId k id).idsAt k' ↔ x ∈ b.idsAt k' ∧ ¬(k' = k ∧ x = id) := by
  unfold eraseId
  cases hs : b.lookup k with
  | none =>
      have hids : b.idsAt k = [] := by rw [idsAt, hs]
      constructor
      · intro hx
        refine ⟨hx, fun hk => ?_⟩
        rw [hk.1, hids] at hx
        cases hx
      · exact fun hx => hx.1
  | some s =>
      have hids : b.idsAt k = s.elems := by rw [idsAt, hs]
      dsimp only
      by_cases hk : k' = k
      · subst hk
        split_ifs with hempty
        · rw [idsAt_erase, if_pos rfl, hids]
          have hnone : x ∉ (s.erase id).elems := by simp [List.isEmpty_iff.mp hempty]
          rw [ListSet.mem_erase] at hnone
          simp only [List.not_mem_nil, true_and, false_iff]
          tauto
        · rw [idsAt_insert, if_pos rfl, hids, ListSet.mem_erase]
          tauto
      · split_ifs
        · rw [idsAt_erase, if_neg hk]
          tauto
        · rw [idsAt_insert, if_neg hk]
          tauto

omit [DecidableEq α] in
/-- No key is left with an empty set. -/
def NoEmpty (b : Buckets κ α) : Prop := ∀ k s, b.lookup k = some s → s.elems ≠ []

/-- A bucket that got an id is not empty. -/
theorem NoEmpty.insertId {b : Buckets κ α} (h : b.NoEmpty) (k : κ) (id : α) :
    (b.insertId k id).NoEmpty := by
  intro k' s hs
  by_cases hk : k' = k
  · subst hk
    rw [Buckets.insertId, AList.lookup_insert] at hs
    cases hs
    exact List.ne_nil_of_mem (ListSet.mem_insert.mpr (.inl rfl))
  · rw [Buckets.insertId, AList.lookup_insert_ne hk] at hs
    exact h k' s hs

/-- A bucket that lost its last id is erased. -/
theorem NoEmpty.eraseId {b : Buckets κ α} (h : b.NoEmpty) (k : κ) (id : α) :
    (b.eraseId k id).NoEmpty := by
  intro k' s hs
  unfold Buckets.eraseId at hs
  split at hs
  next => exact h k' s hs
  next s' hs' =>
    split_ifs at hs with hempty
    · by_cases hk : k' = k
      · subst hk
        rw [AList.lookup_erase] at hs
        cases hs
      · rw [AList.lookup_erase_ne hk] at hs
        exact h k' s hs
    · by_cases hk : k' = k
      · subst hk
        rw [AList.lookup_insert] at hs
        cases hs
        simpa using hempty
      · rw [AList.lookup_insert_ne hk] at hs
        exact h k' s hs

end Buckets

end GameServer
