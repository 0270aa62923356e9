import Mathlib.Data.List.Perm.Basic
import Mathlib.Tactic.Common

/-!
# GameServer.Lib.Records

Hash maps whose values carry their own key, as lists of records.

`std::unordered_map<Id, Record>` with `record.id` equal to the key is a list
of records; the iteration order is the order of the list.  Lookup is
`List.find?`, erasure is `List.filter`, and `upsertBy` is `map[id] = record`.
-/

namespace GameServer

variable {α K : Type} [DecidableEq K]

/-- `map[key(a)] = a`: an older record under the same key is dropped. -/
def upsertBy (key : α → K) (a : α) (l : List α) : List α :=
  l.filter (fun b => key b ≠ key a) ++ [a]

theorem mem_upsertBy {key : α → K} {a b : α} {l : List α} :
    b ∈ upsertBy key a l → b ∈ l ∨ b = a := by
  simp only [upsertBy, List.mem_append, List.mem_filter, List.mem_singleton]
  rintro (⟨hb, -⟩ | hb)
  · exact .inl hb
  · exact .inr hb

omit [DecidableEq K] in
/-- Erasing records keeps the keys distinct. -/
theorem nodup_map_filter {key : α → K} {q : α → Bool} {l : List α} (h : (l.map key).Nodup) :
    ((l.filter q).map key).Nodup :=
  h.sublist (List.filter_sublist.map key)

/-- An assignment keeps one record per key. -/
theorem nodup_map_upsertBy {key : α → K} {a : α} {l : List α} (h : (l.map key).Nodup) :
    ((upsertBy key a l).map key).Nodup := by
  rw [upsertBy, List.map_append, List.nodup_append]
  refine ⟨nodup_map_filter h, by simp, fun k hk k' hk' => ?_⟩
  obtain ⟨b, hb, rfl⟩ := List.mem_map.mp hk
  have hk' : k' = key a := by simpa using hk'
  rw [hk']
  exact of_decide_eq_true (List.mem_filter.mp hb).2

/-- Assigning a key that is not there adds the record. -/
theorem upsertBy_of_forall_ne {key : α → K} {a : α} {l : List α} (h : ∀ b ∈ l, key b ≠ key a) :
    upsertBy key a l = l ++ [a] := by
  rw [upsertBy, List.filter_eq_self.mpr fun b hb => decide_eq_true (h b hb)]

/-- With one record per key, what a lookup finds is all there is. -/
theorem filter_eq_toList_find? {key : α → K} {k : K} {l : List α} (h : (l.map key).Nodup) :
    l.filter (key · == k) = (l.find? (key · == k)).toList := by
  induction l with
  | nil => rfl
  | cons a l ih =>
      rw [List.map_cons, List.nodup_cons] at h
      by_cases hk : key a = k
      · have hnone : l.filter (key · == k) = [] := by
          rw [List.filter_eq_nil_iff]
          intro b hb hbk
          refine h.1 (List.mem_map.mpr ⟨b, hb, ?_⟩)
          rw [beq_iff_eq.mp hbk, hk]
        simp [hk, hnone]
      · simp [hk, ih h.2]

omit [DecidableEq K] in
/-- What a search loop ends with is an element, or what it began with, if each
pass keeps its candidate or takes the element. -/
theorem mem_or_eq_of_foldl {f : Option α → α → Option α} {l : List α} {best : Option α} {a : α}
    (hf : ∀ best b c, f best b = some c → c = b ∨ best = some c) (h : l.foldl f best = some a) :
    a ∈ l ∨ best = some a := by
  induction l generalizing best with
  | nil => exact .inr h
  | cons b l ih =>
      rcases ih h with hmem | hbest
      · exact .inl (List.mem_cons_of_mem b hmem)
      · rcases hf best b a hbest with rfl | hkept
        · exact .inl List.mem_cons_self
        · exact .inr hkept

/-- The lookup of a record's own key finds it. -/
theorem find?_eq_some_of_mem {key : α → K} {a : α} {l : List α} (h : (l.map key).Nodup)
    (ha : a ∈ l) : l.find? (key · == key a) = some a := by
  have hfilter : a ∈ l.filter (key · == key a) := List.mem_filter.mpr ⟨ha, beq_self_eq_true _⟩
  rw [filter_eq_toList_find? h] at hfilter
  exact Option.mem_toList.mp hfilter

/-- Among different keys the record that is found is the one that has the key. -/
theorem find?_eq_some_iff {key : α → K} {k : K} {a : α} {l : List α} (h : (l.map key).Nodup) :
    l.find? (key · == k) = some a ↔ a ∈ l ∧ key a = k := by
  constructor
  · intro hfind
    have hkey := List.find?_some hfind
    exact ⟨List.mem_of_find?_eq_some hfind, eq_of_beq hkey⟩
  · rintro ⟨ha, rfl⟩
    exact find?_eq_some_of_mem h ha

/-- What a lookup finds, and what is left when it is erased. -/
theorem perm_cons_filter_of_find? {key : α → K} {k : K} {a : α} {l : List α}
    (h : (l.map key).Nodup) (ha : l.find? (key · == k) = some a) :
    l.Perm (a :: l.filter fun b => key b ≠ k) := by
  have hfound : l.filter (key · == k) = [a] := by
    rw [filter_eq_toList_find? h, ha]
    rfl
  have hrest : (l.filter fun b => !(key b == k)) = l.filter fun b => key b ≠ k := by
    refine List.filter_congr fun b _ => ?_
    by_cases hb : key b = k <;> simp [hb]
  have hperm := List.filter_append_perm (key · == k) l
  rw [hfound, hrest] at hperm
  exact hperm.symm

omit [DecidableEq K] in
/-- A list without what is at an index. -/
theorem perm_cons_eraseIdx {i : Nat} {a : α} {l : List α} (h : l[i]? = some a) :
    l.Perm (a :: l.eraseIdx i) := by
  obtain ⟨hi, rfl⟩ := List.getElem?_eq_some_iff.mp h
  exact (List.getElem_cons_eraseIdx_perm hi).symm

end GameServer
