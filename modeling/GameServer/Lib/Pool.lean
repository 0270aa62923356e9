import Mathlib.Data.List.Count
import Mathlib.Tactic.Common

/-!
# GameServer.Lib.Pool

Counting where the items of a pool are.

A pool hands items to holders (free list, queues, workers).  An item is in
exactly one place when the lists of all places together contain it once, so
a step is checked by counting: `count_flatMap_set` says how the total changes
when one holder of a list of holders changes.  `replaceAt` is one task of a
list of tasks going on or ending.
-/

namespace GameServer

variable {α β : Type}

/-- Replacing one holder changes the total by what it held and holds. -/
theorem count_flatMap_set [DecidableEq β] (f : α → List β) {l : List α} {i : Nat} {a : α}
    (h : l[i]? = some a) (b : α) (x : β) :
    ((l.set i b).flatMap f).count x + (f a).count x =
      (l.flatMap f).count x + (f b).count x := by
  induction l generalizing i with
  | nil => simp at h
  | cons c l ih =>
      cases i with
      | zero =>
          simp only [List.getElem?_cons_zero, Option.some.injEq] at h
          subst h
          simp only [List.set_cons_zero, List.flatMap_cons, List.count_append]
          omega
      | succ i =>
          have htail := ih (by simpa using h)
          simp only [List.set_cons_succ, List.flatMap_cons, List.count_append]
          omega

/-- What a changed list of holders contains, one of the holders contains. -/
theorem mem_flatMap_set (f : α → List β) {l : List α} {i : Nat} {b : α} {x : β}
    (h : x ∈ (l.set i b).flatMap f) : x ∈ l.flatMap f ∨ x ∈ f b := by
  obtain ⟨a, ha, hx⟩ := List.mem_flatMap.mp h
  cases List.mem_or_eq_of_mem_set ha with
  | inl hold => exact .inl (List.mem_flatMap.mpr ⟨a, hold, hx⟩)
  | inr hnew => exact .inr (hnew ▸ hx)

/-- Taking one entry out of a list leaves the others. -/
theorem count_eraseIdx_map [DecidableEq β] (f : α → β) {l : List α} {i : Nat} {a : α}
    (h : l[i]? = some a) (x : β) :
    (f a :: (l.eraseIdx i).map f).count x = (l.map f).count x := by
  induction l generalizing i with
  | nil => simp at h
  | cons c l ih =>
      cases i with
      | zero =>
          simp only [List.getElem?_cons_zero, Option.some.injEq] at h
          subst h
          rfl
      | succ i =>
          have htail := ih (by simpa using h)
          simp only [List.eraseIdx_cons_succ, List.map_cons, List.count_cons] at htail ⊢
          omega

/-- Filtering out an item that counts lowers the count. -/
theorem countP_filter_lt {p q : α → Bool} {l : List α} {a : α} (ha : a ∈ l)
    (hp : p a = true) (hq : q a = false) : (l.filter q).countP p < l.countP p := by
  have hsplit : l.countP p = (l.filter q).countP p + (l.filter fun b => !q b).countP p :=
    List.countP_eq_countP_filter_add ..
  have hpos : 0 < (l.filter fun b => !q b).countP p :=
    List.countP_pos_iff.mpr ⟨a, List.mem_filter.mpr ⟨ha, by simp [hq]⟩, hp⟩
  omega

/-- The same, of the contents as a whole. -/
theorem flatMap_set_perm (f : α → List β) {l : List α} {i : Nat} {a : α} (h : l[i]? = some a)
    (b : α) : ((l.set i b).flatMap f ++ f a).Perm (l.flatMap f ++ f b) := by
  classical
  refine List.perm_iff_count.mpr fun x => ?_
  rw [List.count_append, List.count_append]
  exact count_flatMap_set f h b x

theorem map_eraseIdx_perm (f : α → β) {l : List α} {i : Nat} {a : α} (h : l[i]? = some a) :
    (f a :: (l.eraseIdx i).map f).Perm (l.map f) := by
  classical
  exact List.perm_iff_count.mpr (count_eraseIdx_map f h)

/-- The `k`-th element replaced, or dropped. -/
def replaceAt {α : Type} (l : List α) (k : Nat) : Option α → List α
  | none => l.eraseIdx k
  | some a => l.set k a

/-- What is there after a replacement was there, or is the new one. -/
theorem mem_of_mem_replaceAt {α : Type} {l : List α} {k : Nat} {o : Option α} {x : α}
    (h : x ∈ replaceAt l k o) : x ∈ l ∨ o = some x := by
  cases o with
  | none => exact .inl (List.mem_of_mem_eraseIdx h)
  | some a =>
      cases List.mem_or_eq_of_mem_set h with
      | inl hold => exact .inl hold
      | inr heq => exact .inr (heq ▸ rfl)

/-- The others stay. -/
theorem mem_replaceAt_of_mem_eraseIdx {α : Type} {l : List α} {k : Nat} {x : α} (o : Option α)
    (h : x ∈ l.eraseIdx k) : x ∈ replaceAt l k o := by
  cases o with
  | none => exact h
  | some b =>
      obtain ⟨i, hik, hi⟩ := List.mem_eraseIdx_iff_getElem?.mp h
      refine List.mem_iff_getElem?.mpr ⟨i, ?_⟩
      rw [replaceAt, List.getElem?_set_ne (Ne.symm hik), hi]

/-- What was there is still there, unless it was replaced. -/
theorem mem_replaceAt_of_mem {α : Type} {l : List α} {k : Nat} {a x : α} (hk : l[k]? = some a)
    (o : Option α) (h : x ∈ l) : x = a ∨ x ∈ replaceAt l k o := by
  obtain ⟨i, hi⟩ := List.mem_iff_getElem?.mp h
  by_cases hik : i = k
  · subst hik
    rw [hk] at hi
    exact .inl (Option.some.inj hi).symm
  · have hother : x ∈ l.eraseIdx k := List.mem_eraseIdx_iff_getElem?.mpr ⟨i, hik, hi⟩
    exact .inr (mem_replaceAt_of_mem_eraseIdx o hother)

/-- The last task goes on or ends. -/
theorem replaceAt_append_length {α : Type} (l : List α) (a : α) (o : Option α) :
    replaceAt (l ++ [a]) l.length o = l ++ o.toList := by
  cases o with
  | none => simp [replaceAt, List.eraseIdx_append_of_length_le]
  | some b => simp [replaceAt]

theorem mem_replaceAt_self {α : Type} {l : List α} {k : Nat} {a b : α} (hk : l[k]? = some a) :
    b ∈ replaceAt l k (some b) := by
  have hlt : k < l.length := (List.getElem?_eq_some_iff.mp hk).1
  exact List.mem_set hlt b

end GameServer
