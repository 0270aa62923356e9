import Mathlib.Data.List.Nodup
import Mathlib.Tactic.Common

/-!
# GameServer.Lib.ListSet

Sets that can be iterated: lists that carry the proof that nothing in them
repeats.

A hash set visits its elements in an order that its users must not rely
on; here the order is the one of the list.
-/

namespace GameServer

/-- A list without repetitions. -/
structure ListSet (α : Type) where
  elems : List α
  nodup : elems.Nodup

namespace ListSet

variable {α : Type} [DecidableEq α]

omit [DecidableEq α] in
/-- The empty set. -/
def empty : ListSet α := ⟨[], List.nodup_nil⟩

/-- `s.insert(a)`. -/
def insert (s : ListSet α) (a : α) : ListSet α := ⟨s.elems.insert a, s.nodup.insert⟩

/-- `s.erase(a)`. -/
def erase (s : ListSet α) (a : α) : ListSet α := ⟨s.elems.erase a, s.nodup.erase a⟩

@[simp] theorem mem_insert {s : ListSet α} {a x : α} :
    x ∈ (s.insert a).elems ↔ x = a ∨ x ∈ s.elems :=
  List.mem_insert_iff

@[simp] theorem mem_erase {s : ListSet α} {a x : α} :
    x ∈ (s.erase a).elems ↔ x ≠ a ∧ x ∈ s.elems :=
  s.nodup.mem_erase_iff

end ListSet

end GameServer
