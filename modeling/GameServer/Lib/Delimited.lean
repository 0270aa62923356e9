import Mathlib.Data.List.Basic
import Mathlib.Tactic.Common

/-!
# GameServer.Lib.Delimited

Texts that are read piece by piece up to a delimiter.

`std::getline` takes what stands before the next delimiter or the end of the
text, and nothing where no text is left: a delimiter at the end begins no
further piece.

* `getlines` -- the pieces that a loop over `getline` sees
* `getlines_terminated` -- pieces that each end with the delimiter
* `getlines_intercalate` -- pieces with the delimiter between them
-/

namespace GameServer

variable {α : Type}

/-- Whatever stands between the pieces stands in a piece or in a separator. -/
theorem mem_intercalate {c : α} {sep : List α} {pieces : List (List α)}
    (h : c ∈ sep.intercalate pieces) : c ∈ sep ∨ ∃ piece ∈ pieces, c ∈ piece := by
  induction pieces with
  | nil => exact absurd h (List.not_mem_nil)
  | cons piece pieces ih =>
      cases pieces with
      | nil => exact .inr ⟨piece, List.mem_cons_self, by simpa using h⟩
      | cons piece' pieces =>
          rw [List.intercalate_cons_cons, List.mem_append, List.mem_append] at h
          rcases h with (hpiece | hsep) | hrest
          · exact .inr ⟨piece, List.mem_cons_self, hpiece⟩
          · exact .inl hsep
          · rcases ih hrest with hsep | ⟨q, hq, hc⟩
            · exact .inl hsep
            · exact .inr ⟨q, List.mem_cons_of_mem _ hq, hc⟩

variable [DecidableEq α]

/-- The pieces that `while (std::getline(is, piece, d))` sees. -/
def getlines (d : α) : List α → List (List α)
  | [] => []
  | c :: s =>
      if c = d then [] :: getlines d s
      else
        match getlines d s with
        | [] => [[c]]
        | piece :: pieces => (c :: piece) :: pieces

/-- A piece ends at its delimiter. -/
theorem getlines_append_cons {d : α} {piece : List α} (h : d ∉ piece) (s : List α) :
    getlines d (piece ++ d :: s) = piece :: getlines d s := by
  induction piece with
  | nil => simp [getlines]
  | cons c piece ih =>
      rw [List.mem_cons, not_or] at h
      rw [List.cons_append, getlines, if_neg (Ne.symm h.1), ih h.2]

/-- The last piece needs no delimiter, unless it is empty. -/
theorem getlines_of_not_mem {d : α} {piece : List α} (hne : piece ≠ []) (h : d ∉ piece) :
    getlines d piece = [piece] := by
  induction piece with
  | nil => exact absurd rfl hne
  | cons c piece ih =>
      rw [List.mem_cons, not_or] at h
      rw [getlines, if_neg (Ne.symm h.1)]
      cases piece with
      | nil => rfl
      | cons c' piece => rw [ih (List.cons_ne_nil c' piece) h.2]

/-- Terminated pieces are read back as lines. -/
theorem getlines_terminated {d : α} {pieces : List (List α)} (h : ∀ piece ∈ pieces, d ∉ piece) :
    getlines d (pieces.flatMap (· ++ [d])) = pieces := by
  induction pieces with
  | nil => rfl
  | cons piece pieces ih =>
      rw [List.forall_mem_cons] at h
      rw [List.flatMap_cons, List.append_assoc, List.singleton_append,
        getlines_append_cons h.1, ih h.2]

/-- So are separated ones, if none is empty. -/
theorem getlines_intercalate {d : α} {pieces : List (List α)}
    (hne : ∀ piece ∈ pieces, piece ≠ []) (h : ∀ piece ∈ pieces, d ∉ piece) :
    getlines d ([d].intercalate pieces) = pieces := by
  induction pieces with
  | nil => rfl
  | cons piece pieces ih =>
      rw [List.forall_mem_cons] at hne h
      cases pieces with
      | nil => rw [List.intercalate_singleton, getlines_of_not_mem hne.1 h.1]
      | cons piece' pieces =>
          rw [List.intercalate_cons_cons, List.append_assoc, List.singleton_append,
            getlines_append_cons h.1, ih hne.2 h.2]

end GameServer
