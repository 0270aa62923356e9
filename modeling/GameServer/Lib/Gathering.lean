import Mathlib.Data.List.Sort
import Mathlib.Tactic.Common

/-!
# GameServer.Lib.Gathering

Tables that are filled source by source, in an order that nothing fixes.

The table is `l.flatMap c`, where `c i` are the rows of the source `i`.  It may
be sorted afterwards; what a sort does with rows of the same key is left open.

* `OrderFree` -- nothing depends on the order of the sources
* `Numbered` -- rows that carry their number within the source
* `SortBy` -- what a sort by a key may do
* `flatMap_orderFree_iff` -- when the table depends on no order
* `sort_orderFree_iff` -- when the sorted table depends on no order
-/

namespace GameServer

/-! ## Two sources in either order -/

section Order

variable {ι α β : Type}

/-- What is made of the sources does not depend on their order. -/
def OrderFree (table : List ι → β) (l : List ι) : Prop :=
  ∀ l' : List ι, l'.Perm l → table l' = table l

/-- A loop that appends the rows of a source in each step. -/
theorem foldl_gather {σ : Type} {step : σ → ι → σ} (table : σ → List α) {c : ι → List α}
    (h : ∀ st i, table (step st i) = table st ++ c i) (l : List ι) (st : σ) :
    table (l.foldl step st) = table st ++ l.flatMap c := by
  induction l generalizing st with
  | nil => exact (List.append_nil _).symm
  | cons i l ih => rw [List.foldl_cons, ih, h, List.append_assoc, List.flatMap_cons]

/-- Two members may come first, in either order. -/
theorem exists_perm_cons_cons {l : List ι} {i j : ι} (hi : i ∈ l) (hj : j ∈ l) (hne : i ≠ j) :
    ∃ rest, (i :: j :: rest).Perm l ∧ (j :: i :: rest).Perm l := by
  classical
  have hmem : j ∈ l.erase i := (List.mem_erase_of_ne hne.symm).mpr hj
  have hperm : (i :: j :: (l.erase i).erase j).Perm l :=
    ((List.perm_cons_erase hmem).symm.cons i).trans (List.perm_cons_erase hi).symm
  exact ⟨_, hperm, (List.Perm.swap i j _).trans hperm⟩

/-- If the order does not matter, then the rows of two sources commute. -/
theorem append_comm_of_orderFree {l : List ι} {c : ι → List α} {i j : ι}
    (h : OrderFree (·.flatMap c) l) (hi : i ∈ l) (hj : j ∈ l) : c i ++ c j = c j ++ c i := by
  by_cases hne : i = j
  · rw [hne]
  · obtain ⟨rest, hij, hji⟩ := exists_perm_cons_cons hi hj hne
    have hboth := (h _ hij).trans (h _ hji).symm
    dsimp only at hboth
    rw [List.flatMap_cons, List.flatMap_cons, List.flatMap_cons, List.flatMap_cons,
      ← List.append_assoc, ← List.append_assoc] at hboth
    exact List.append_cancel_right hboth

/-- If the rows of any two sources commute, then the order does not matter. -/
theorem orderFree_of_append_comm {l : List ι} {c : ι → List α}
    (h : ∀ i ∈ l, ∀ j ∈ l, c i ++ c j = c j ++ c i) : OrderFree (·.flatMap c) l := by
  have hfold : ∀ l : List ι, l.flatMap c = l.foldr (fun i rows => c i ++ rows) [] := by
    intro l
    induction l with
    | nil => rfl
    | cons i l ih => rw [List.flatMap_cons, List.foldr_cons, ih]
  intro l' hperm
  dsimp only
  rw [hfold, hfold]
  refine (hperm.symm.foldr_eq' (fun i hi j hj rows => ?_) []).symm
  rw [← List.append_assoc, ← List.append_assoc, h j hj i hi]

end Order

/-! ## Numbered rows -/

section Numbered

variable {ι α : Type} (start : Nat) (num : α → Nat)

/-- The rows are numbered one after the other. -/
def Numbered (rows : List α) : Prop := rows.map num = List.range' start rows.length

variable {start num}

/-- Of two numbered lists that commute under append, neither is longer. -/
theorem length_le_of_append_comm {u v : List α} (hu : Numbered start num u)
    (hv : Numbered start num v) (hne : u ≠ []) (h : u ++ v = v ++ u) : v.length ≤ u.length := by
  by_contra hlt
  rw [Nat.not_le] at hlt
  have hpos : 0 < u.length := List.length_pos_iff.mpr hne
  -- the row behind `u` is the first one of `v`, and one in the middle of it
  have hnums : List.range' start u.length ++ List.range' start v.length =
      List.range' start v.length ++ List.range' start u.length := by
    have hmap := congrArg (List.map num) h
    rwa [List.map_append, List.map_append, hu, hv] at hmap
  have hat := congrArg (fun nums => nums[u.length]?) hnums
  rw [List.getElem?_append_right (by simp), List.getElem?_append_left (by simpa using hlt)] at hat
  rw [List.length_range', Nat.sub_self, List.getElem?_range' (hpos.trans hlt),
    List.getElem?_range' hlt] at hat
  have hstart := Option.some.inj hat
  omega

/-- Two numbered lists that commute are the same. -/
theorem eq_of_append_comm {u v : List α} (hu : Numbered start num u) (hv : Numbered start num v)
    (hune : u ≠ []) (hvne : v ≠ []) (h : u ++ v = v ++ u) : u = v :=
  (List.append_inj h (Nat.le_antisymm (length_le_of_append_comm hv hu hvne h.symm)
    (length_le_of_append_comm hu hv hune h))).1

/-- **The order of the sources does not matter** exactly if all that have rows
have the same. -/
theorem flatMap_orderFree_iff {l : List ι} {c : ι → List α}
    (hnum : ∀ i ∈ l, Numbered start num (c i)) :
    OrderFree (·.flatMap c) l ↔ ∀ i ∈ l, ∀ j ∈ l, c i ≠ [] → c j ≠ [] → c i = c j := by
  constructor
  · intro h i hi j hj hine hjne
    exact eq_of_append_comm (hnum i hi) (hnum j hj) hine hjne (append_comm_of_orderFree h hi hj)
  · intro h
    refine orderFree_of_append_comm fun i hi j hj => ?_
    by_cases hine : c i = []
    · rw [hine, List.nil_append, List.append_nil]
    by_cases hjne : c j = []
    · rw [hjne, List.nil_append, List.append_nil]
    rw [h i hi j hj hine hjne]

end Numbered

/-! ## Sorted tables -/

section Sorted

variable {ι α κ : Type} [LinearOrder κ]

/-- What a sort may do: the rows in the order of their keys, those of one key
in any order. -/
structure SortBy (key : α → κ) where
  run : List α → List α
  perm : ∀ l, (run l).Perm l
  sorted : ∀ l, (run l).Pairwise fun a b => key a ≤ key b

namespace SortBy

variable {key : α → κ}

/-- A sort that keeps the order of the rows of one key. -/
def stable (key : α → κ) : SortBy key where
  run := List.insertionSort fun a b => key a ≤ key b
  perm := List.perm_insertionSort _
  sorted l := by
    have htotal : Std.Total fun a b => key a ≤ key b := ⟨fun a b => le_total (key a) (key b)⟩
    have htrans : IsTrans α fun a b => key a ≤ key b := ⟨fun a b c => le_trans⟩
    exact List.pairwise_insertionSort _ l

/-- A stable sort keeps the order of equal keys. -/
theorem filter_stable (l : List α) (k : κ) :
    ((stable key).run l).filter (fun a => key a = k) = l.filter (fun a => key a = k) := by
  have hpair : (l.filter fun a => key a = k).Pairwise fun a b => key a ≤ key b := by
    refine List.pairwise_of_forall_mem_list fun a ha b hb => ?_
    rw [of_decide_eq_true (List.mem_filter.mp ha).2, of_decide_eq_true (List.mem_filter.mp hb).2]
  have hsub : (l.filter fun a => key a = k).Sublist ((stable key).run l) :=
    List.sublist_insertionSort hpair List.filter_sublist
  have hfilter := hsub.filter fun a => key a = k
  rw [List.filter_filter] at hfilter
  simp only [Bool.and_self] at hfilter
  exact (hfilter.eq_of_length (((stable key).perm l).filter _).length_eq.symm).symm

/-- All sorts agree on rows that are the same if their keys are. -/
theorem run_eq_of_perm (s s' : SortBy key) {l l' : List α} (hperm : l'.Perm l)
    (h : ∀ a ∈ l, ∀ b ∈ l, key a = key b → a = b) : s.run l' = s'.run l := by
  have hruns : (s.run l').Perm (s'.run l) := (s.perm l').trans (hperm.trans (s'.perm l).symm)
  refine List.Perm.eq_of_pairwise (fun a b ha hb hab hba => ?_) (s.sorted l') (s'.sorted l) hruns
  have hal : a ∈ l := ((s.perm l').trans hperm).mem_iff.mp ha
  exact h a hal b ((s'.perm l).mem_iff.mp hb) (le_antisymm hab hba)

end SortBy

variable {key : α → κ}

/-- A row is the only one of its key. -/
theorem filter_key_eq {rows : List α} (h : (rows.map key).Nodup) {a : α} (ha : a ∈ rows) :
    rows.filter (fun b => key b = key a) = [a] := by
  induction rows with
  | nil => exact absurd ha List.not_mem_nil
  | cons b rows ih =>
      rw [List.map_cons, List.nodup_cons] at h
      rcases List.mem_cons.mp ha with rfl | hmem
      · rw [List.filter_cons_of_pos (by simp)]
        refine congrArg (a :: ·) (List.filter_eq_nil_iff.mpr fun b hb => ?_)
        intro hkey
        exact h.1 (of_decide_eq_true hkey ▸ List.mem_map_of_mem hb)
      · have hne : key b ≠ key a := fun hkey => h.1 (hkey ▸ List.mem_map_of_mem hmem)
        rw [List.filter_cons_of_neg (by simpa using hne), ih h.2 hmem]

/-- **The order of the sources does not matter for the sorted table** exactly
if rows of the same key are the same. -/
theorem sort_orderFree_iff {l : List ι} {c : ι → List α}
    (hnodup : ∀ i ∈ l, ((c i).map key).Nodup) :
    (∀ s : SortBy key, OrderFree (fun l => s.run (l.flatMap c)) l) ↔
      ∀ i ∈ l, ∀ j ∈ l, ∀ a ∈ c i, ∀ b ∈ c j, key a = key b → a = b := by
  constructor
  · intro h i hi j hj a ha b hb hkey
    -- of the rows with this key, each source has one
    have hfilter : OrderFree (·.flatMap fun i => (c i).filter fun x => key x = key a) l := by
      intro l' hperm
      have hrun := congrArg (List.filter fun x => key x = key a) (h (SortBy.stable key) l' hperm)
      rwa [SortBy.filter_stable, SortBy.filter_stable, List.filter_flatMap,
        List.filter_flatMap] at hrun
    have hcomm := append_comm_of_orderFree hfilter hi hj
    rw [filter_key_eq (hnodup i hi) ha, hkey, filter_key_eq (hnodup j hj) hb] at hcomm
    exact (List.cons.inj hcomm).1
  · intro h s l' hperm
    refine SortBy.run_eq_of_perm s s (hperm.flatMap_right c) fun a ha b hb => ?_
    obtain ⟨i, hi, hai⟩ := List.mem_flatMap.mp ha
    obtain ⟨j, hj, hbj⟩ := List.mem_flatMap.mp hb
    exact h i hi j hj a hai b hbj

end Sorted

end GameServer
