import GameServer.Lib.Records
import GameServer.Lib.Table

/-!
# GameServer.Lib.Firsts

The first of the elements with each key, and the index of a list by key.

One pass over a list keeps an element unless it has seen its key before; then
each key has one element, and a table from keys to positions leads to it.

* `firsts` — the elements that are kept;
* `find?_firsts` — the first element with a key is one of them;
* `positions` — the table;
* `positions_bind_getElem?` — a lookup by position is a search by key.
-/

namespace GameServer

variable {α κ : Type} [DecidableEq κ] {key : α → κ}

/-- One element of the pass. -/
def addFirst (key : α → κ) (out : List α) (a : α) : List α :=
  if key a ∈ out.map key then out else out ++ [a]

/-- The first element of each key, in order. -/
def firsts (key : α → κ) (l : List α) : List α := l.foldl (addFirst key) []

/-- The first element of each key is found: induction on the list. -/
theorem find?_foldl_addFirst (l out : List α) (k : κ) :
    (l.foldl (addFirst key) out).find? (key · == k) = (out ++ l).find? (key · == k) := by
  induction l generalizing out with
  | nil => rw [List.append_nil, List.foldl_nil]
  | cons a l ih =>
      rw [List.foldl_cons, ih, addFirst]
      split
      next hseen =>
        -- an element with the key of `a` is found before `a`
        rw [List.find?_append, List.find?_append, List.find?_cons]
        by_cases hak : key a = k
        · obtain ⟨b, hb, hba⟩ := List.mem_map.mp hseen
          have hsome : (out.find? (key · == k)).isSome :=
            List.find?_isSome.mpr ⟨b, hb, beq_iff_eq.mpr (hba.trans hak)⟩
          obtain ⟨c, hc⟩ := Option.isSome_iff_exists.mp hsome
          rw [hc, Option.some_or, Option.some_or]
        · rw [beq_eq_false_iff_ne.mpr hak]
      next => rw [List.append_assoc, List.singleton_append]

theorem find?_firsts (l : List α) (k : κ) :
    (firsts key l).find? (key · == k) = l.find? (key · == k) :=
  find?_foldl_addFirst l [] k

/-- No key is kept twice. -/
theorem nodup_foldl_addFirst (l : List α) {out : List α} (h : (out.map key).Nodup) :
    ((l.foldl (addFirst key) out).map key).Nodup := by
  induction l generalizing out with
  | nil => exact h
  | cons a l ih =>
      refine ih ?_
      rw [addFirst]
      split
      next => exact h
      next hnew =>
        rw [List.map_append, List.map_singleton]
        exact List.nodup_append.mpr ⟨h, List.pairwise_singleton _ _, fun k hk k' hk' heq =>
          hnew (List.mem_singleton.mp hk' ▸ heq ▸ hk)⟩

/-- Each key is kept once. -/
theorem nodup_firsts (l : List α) : ((firsts key l).map key).Nodup :=
  nodup_foldl_addFirst l List.nodup_nil

/-- Nothing is kept that was not there. -/
theorem mem_foldl_addFirst {l out : List α} {a : α} (h : a ∈ l.foldl (addFirst key) out) :
    a ∈ out ∨ a ∈ l := by
  induction l generalizing out with
  | nil => exact .inl h
  | cons b l ih =>
      rcases ih h with hout | hl
      · rw [addFirst] at hout
        split at hout
        · exact .inl hout
        · rcases List.mem_append.mp hout with hold | hnew
          · exact .inl hold
          · exact .inr (List.mem_singleton.mp hnew ▸ List.mem_cons_self)
      · exact .inr (List.mem_cons_of_mem b hl)

theorem mem_of_mem_firsts {l : List α} {a : α} (h : a ∈ firsts key l) : a ∈ l :=
  (mem_foldl_addFirst h).resolve_left List.not_mem_nil

/-! ## Positions -/

/-- `index[key(l[i])] = i`, in order, on top of an index. -/
def setPositions (key : α → κ) (n : Nat) (l : List α) (index : Table κ Nat) : Table κ Nat :=
  (l.zipIdx n).foldl (fun index e => index.set (key e.1) e.2) index

/-- Each key is at the position of its element. -/
theorem setPositions_apply {l : List α} (h : (l.map key).Nodup) (n : Nat) (index : Table κ Nat)
    (k : κ) : setPositions key n l index k =
      match l.findIdx? (key · == k) with
      | some i => some (i + n)
      | none => index k := by
  induction l generalizing n index with
  | nil => rfl
  | cons a l ih =>
      rw [List.map_cons, List.nodup_cons] at h
      rw [setPositions, List.zipIdx_cons, List.foldl_cons, ← setPositions, ih h.2,
        List.findIdx?_cons]
      by_cases hak : key a = k
      · have hnone : l.findIdx? (key · == k) = none :=
          List.findIdx?_eq_none_iff.mpr fun b hb => beq_eq_false_iff_ne.mpr fun hbk =>
            h.1 (List.mem_map.mpr ⟨b, hb, hbk.trans hak.symm⟩)
        rw [hnone, beq_iff_eq.mpr hak, ← hak]
        exact (Table.set_self _ _ _).trans (congrArg some n.zero_add.symm)
      · rw [beq_eq_false_iff_ne.mpr hak, if_neg Bool.false_ne_true]
        cases l.findIdx? (key · == k) with
        | none => exact Table.set_of_ne _ _ (Ne.symm hak)
        | some i =>
            dsimp only [Option.map_some]
            rw [Nat.add_right_comm, Nat.add_assoc]

/-- The positions of the elements of a list, by key. -/
def positions (key : α → κ) (l : List α) : Table κ Nat := setPositions key 0 l .empty

theorem positions_bind_getElem? {l : List α} (h : (l.map key).Nodup) (k : κ) :
    ((positions key l k).bind fun i => l[i]?) = l.find? (key · == k) := by
  rw [positions, setPositions_apply h, List.find?_eq_bind_findIdx?_getElem?]
  cases l.findIdx? (key · == k) with
  | none => rfl
  | some i => rfl

end GameServer
