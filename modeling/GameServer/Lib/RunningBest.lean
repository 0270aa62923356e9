import Mathlib.Data.List.Basic
import Mathlib.Data.List.Nodup
import Mathlib.Data.List.Perm.Basic
import Mathlib.Order.Basic
import Mathlib.Tactic.Common

/-!
# GameServer.Lib.RunningBest

A search loop that keeps the best element seen so far and replaces it by any
`better` one.  Nothing is assumed about `better`: it need not be an order.

* `runningBest` -- the loop
* `runningBest_le` -- what every replacement keeps low ends lowest
* `Strongest` -- an element that beats all others and is beaten by none
* `forall_perm_runningBest_iff` -- the loop ends with one element from every
  order of the list exactly when that element is the strongest
-/

namespace GameServer

variable {α : Type}

/-- One pass of the loop. -/
def keepBetter (better : α → α → Bool) (best : Option α) (current : α) : Option α :=
  match best with
  | none => some current
  | some b => if better current b then some current else some b

/-- The loop over `l`, from nothing. -/
def runningBest (better : α → α → Bool) (l : List α) : Option α :=
  l.foldl (keepBetter better) none

/-- `z` is in the list, beats every other element and is beaten by none. -/
def Strongest (better : α → α → Bool) (l : List α) (z : α) : Prop :=
  z ∈ l ∧ ∀ y ∈ l, y ≠ z → better z y = true ∧ better y z = false

section Passes

variable {better : α → α → Bool}

@[simp]
theorem keepBetter_none (a : α) : keepBetter better none a = some a := rfl

theorem keepBetter_of_better {a b : α} (h : better a b = true) :
    keepBetter better (some b) a = some a := if_pos h

theorem keepBetter_of_not_better {a b : α} (h : better a b = false) :
    keepBetter better (some b) a = some b := by
  rw [keepBetter, h]
  rfl

/-- A pass ends with the element it looked at or with the one it had. -/
theorem keepBetter_cases {best : Option α} {a c : α} (h : keepBetter better best a = some c) :
    c = a ∨ best = some c := by
  cases best with
  | none => exact .inl (Option.some.inj h).symm
  | some b =>
      cases hab : better a b with
      | true => exact .inl (Option.some.inj (keepBetter_of_better hab ▸ h)).symm
      | false => exact .inr (keepBetter_of_not_better hab ▸ h)

/-- Once there is a best, there is one at the end. -/
theorem isSome_foldl_keepBetter (l : List α) (b : α) :
    (l.foldl (keepBetter better) (some b)).isSome = true := by
  induction l generalizing b with
  | nil => rfl
  | cons a l ih =>
      rw [List.foldl_cons, keepBetter]
      split <;> exact ih _

/-- What the loop ends with is an element, or what it began with. -/
theorem mem_or_eq_of_foldl_keepBetter {l : List α} {best : Option α} {c : α}
    (h : l.foldl (keepBetter better) best = some c) : c ∈ l ∨ best = some c := by
  induction l generalizing best with
  | nil => exact .inr h
  | cons a l ih =>
      rcases ih h with hmem | hbest
      · exact .inl (List.mem_cons_of_mem a hmem)
      · rcases keepBetter_cases hbest with rfl | hkept
        · exact .inl List.mem_cons_self
        · exact .inr hkept

theorem runningBest_mem {l : List α} {c : α} (h : runningBest better l = some c) : c ∈ l :=
  (mem_or_eq_of_foldl_keepBetter h).resolve_right (Option.some_ne_none c).symm

/-- The loop finds nothing only where there is nothing. -/
theorem runningBest_eq_none_iff {l : List α} : runningBest better l = none ↔ l = [] := by
  cases l with
  | nil => exact iff_of_true rfl rfl
  | cons a l =>
      have hsome : (l.foldl (keepBetter better) (some a)).isSome = true :=
        isSome_foldl_keepBetter l a
      refine iff_of_false (fun h => ?_) (List.cons_ne_nil a l)
      rw [show l.foldl (keepBetter better) (some a) = none from h] at hsome
      exact Bool.false_ne_true hsome

/-! ## A measure the replacements keep low -/

/-- From a best so far on, the measure of the best never rises and ends no
higher than that of any element passed. -/
theorem foldl_keepBetter_le {β : Type} [Preorder β] {μ : α → β}
    (hbetter : ∀ a b, better a b = true → μ a ≤ μ b)
    (hnot : ∀ a b, better a b = false → μ b ≤ μ a) {l : List α} {b c : α}
    (h : l.foldl (keepBetter better) (some b) = some c) :
    μ c ≤ μ b ∧ ∀ a ∈ l, μ c ≤ μ a := by
  induction l generalizing b with
  | nil => exact ⟨(congrArg μ (Option.some.inj h)).ge, List.forall_mem_nil _⟩
  | cons a l ih =>
      rw [List.foldl_cons] at h
      cases hab : better a b with
      | true =>
          rw [keepBetter_of_better hab] at h
          obtain ⟨hca, hl⟩ := ih h
          exact ⟨hca.trans (hbetter a b hab), List.forall_mem_cons.mpr ⟨hca, hl⟩⟩
      | false =>
          rw [keepBetter_of_not_better hab] at h
          obtain ⟨hcb, hl⟩ := ih h
          exact ⟨hcb, List.forall_mem_cons.mpr ⟨hcb.trans (hnot a b hab), hl⟩⟩

/-- For a comparison by a measure nothing measures less than the best. -/
theorem runningBest_le {β : Type} [Preorder β] {μ : α → β}
    (hbetter : ∀ a b, better a b = true → μ a ≤ μ b)
    (hnot : ∀ a b, better a b = false → μ b ≤ μ a) {l : List α} {c : α}
    (h : runningBest better l = some c) : ∀ a ∈ l, μ c ≤ μ a := by
  cases l with
  | nil => exact List.forall_mem_nil _
  | cons a l => exact List.forall_mem_cons.mpr (foldl_keepBetter_le hbetter hnot h)

/-! ## The strongest element -/

/-- Once the strongest element is the best so far it stays so. -/
theorem foldl_keepBetter_strongest {l : List α} {z : α}
    (h : ∀ y ∈ l, y ≠ z → better y z = false) :
    l.foldl (keepBetter better) (some z) = some z := by
  induction l with
  | nil => rfl
  | cons a l ih =>
      have hpass : keepBetter better (some z) a = some z := by
        by_cases ha : a = z
        · rw [ha, keepBetter, ite_self]
        · exact keepBetter_of_not_better (h a List.mem_cons_self ha)
      rw [List.foldl_cons, hpass]
      exact ih fun y hy => h y (List.mem_cons_of_mem a hy)

/-- The loop ends with the strongest element, wherever it stands. -/
theorem runningBest_eq_some_of_strongest {l : List α} {z : α} (h : Strongest better l z) :
    runningBest better l = some z := by
  obtain ⟨hz, hbeats⟩ := h
  obtain ⟨s, t, rfl⟩ := List.append_of_mem hz
  have hpass : keepBetter better (s.foldl (keepBetter better) none) z = some z := by
    cases hs : s.foldl (keepBetter better) none with
    | none => rfl
    | some b =>
        by_cases hb : b = z
        · rw [hb, keepBetter, ite_self]
        · have hmem : b ∈ s ++ z :: t := List.mem_append_left _ (runningBest_mem hs)
          exact keepBetter_of_better (hbeats b hmem hb).1
  rw [runningBest, List.foldl_append, List.foldl_cons, hpass]
  exact foldl_keepBetter_strongest fun y hy hyz =>
    (hbeats y (List.mem_append_right _ (List.mem_cons_of_mem z hy)) hyz).2

/-- An element that the first pass drops is not what the loop ends with. -/
theorem ne_of_foldl_keepBetter {l : List α} {y z : α} (hz : z ∉ l) (hyz : y ≠ z) :
    l.foldl (keepBetter better) (some y) ≠ some z := by
  intro h
  rcases mem_or_eq_of_foldl_keepBetter h with hmem | heq
  · exact hz hmem
  · exact hyz (Option.some.inj heq)

/-- An element that every order of the list ends with is the strongest: two
orders begin with it and another element, and the one they drop is gone. -/
theorem strongest_of_forall_perm {l : List α} {z : α} (hl : l.Nodup)
    (h : ∀ l', l'.Perm l → runningBest better l' = some z) : Strongest better l z := by
  have hz : z ∈ l := runningBest_mem (h l (List.Perm.refl l))
  refine ⟨hz, fun y hy hyz => ?_⟩
  obtain ⟨s, t, rfl⟩ := List.append_of_mem hz
  have hperm : (z :: (s ++ t)).Perm (s ++ z :: t) := List.perm_middle.symm
  have hnodup : (z :: (s ++ t)).Nodup := hperm.nodup_iff.mpr hl
  have hyst : y ∈ s ++ t := (List.mem_cons.mp (hperm.mem_iff.mpr hy)).resolve_left hyz
  obtain ⟨u, v, huv⟩ := List.append_of_mem hyst
  rw [huv] at hperm hnodup
  have hzuv : z ∉ u ++ v := fun hmem =>
    (List.nodup_cons.mp hnodup).1 ((List.perm_middle.mem_iff).mpr (List.mem_cons_of_mem y hmem))
  have hzy : (z :: y :: (u ++ v)).Perm (s ++ z :: t) :=
    (List.perm_middle.symm.cons z).trans hperm
  have hyz' : (y :: z :: (u ++ v)).Perm (s ++ z :: t) := (List.Perm.swap z y _).trans hzy
  constructor
  · by_contra hnot
    have hdrop := h _ hyz'
    rw [runningBest, List.foldl_cons, keepBetter_none, List.foldl_cons,
      keepBetter_of_not_better (Bool.eq_false_iff.mpr hnot)] at hdrop
    exact ne_of_foldl_keepBetter hzuv hyz hdrop
  · by_contra hnot
    have hdrop := h _ hzy
    rw [runningBest, List.foldl_cons, keepBetter_none, List.foldl_cons,
      keepBetter_of_better (Bool.not_eq_false _ ▸ hnot)] at hdrop
    exact ne_of_foldl_keepBetter hzuv hyz hdrop

theorem forall_perm_runningBest_iff {l : List α} {z : α} (hl : l.Nodup) :
    (∀ l', l'.Perm l → runningBest better l' = some z) ↔ Strongest better l z := by
  refine ⟨strongest_of_forall_perm hl, fun h l' hl' => ?_⟩
  refine runningBest_eq_some_of_strongest ⟨hl'.mem_iff.mpr h.1, fun y hy => ?_⟩
  exact h.2 y (hl'.mem_iff.mp hy)

/-- The loop does not depend on the order exactly when there is nothing to
choose from or there is a strongest element. -/
theorem runningBest_perm_iff {l : List α} (hl : l.Nodup) :
    (∀ l', l'.Perm l → runningBest better l' = runningBest better l) ↔
      l = [] ∨ ∃ z, Strongest better l z := by
  constructor
  · intro h
    cases hbest : runningBest better l with
    | none => exact .inl (runningBest_eq_none_iff.mp hbest)
    | some z =>
        exact .inr ⟨z, strongest_of_forall_perm hl fun l' hl' => (h l' hl').trans hbest⟩
  · rintro (rfl | ⟨z, hz⟩) l' hl'
    · rw [hl'.eq_nil]
    · rw [runningBest_eq_some_of_strongest hz]
      exact (forall_perm_runningBest_iff hl).mpr hz l' hl'

end Passes

end GameServer
