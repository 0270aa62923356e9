import Mathlib.Data.List.Perm.Basic
import Mathlib.Tactic.Common

/-!
# GameServer.Lib.Mailbox

Posts of many senders to many actors, in one list in the order they were
made.

An actor sees the posts addressed to it, oldest first; in which order two
actors come to theirs is open.

* `inbox` — what waits for an actor;
* `oldest` / `withoutOldest` — what an actor takes next, and what is left;
* `perm_cons_withoutOldest` — nothing is lost and nothing doubled.
-/

namespace GameServer

namespace Mailbox

variable {P A : Type} [DecidableEq A] (addr : P → A)

/-- What waits for an actor, oldest first. -/
def inbox (a : A) (mail : List P) : List P := mail.filter fun p => addr p = a

/-- What an actor takes next. -/
def oldest (a : A) (mail : List P) : Option P := mail.find? fun p => addr p = a

/-- The mail once an actor has taken its oldest post. -/
def withoutOldest (a : A) (mail : List P) : List P := mail.eraseP fun p => addr p = a

variable {addr} {a b : A} {p : P} {mail : List P}

@[simp] theorem inbox_nil : inbox addr a [] = [] := rfl

theorem inbox_append (mail' : List P) :
    inbox addr a (mail ++ mail') = inbox addr a mail ++ inbox addr a mail' :=
  List.filter_append ..

@[simp] theorem inbox_singleton_self : inbox addr (addr p) [p] = [p] := by
  simp [inbox]

theorem inbox_singleton_of_ne (h : addr p ≠ a) : inbox addr a [p] = [] := by
  simp [inbox, h]

theorem addr_of_oldest (h : oldest addr a mail = some p) : addr p = a := by
  simpa using List.find?_some h

/-- The oldest post is the head of the inbox. -/
theorem inbox_eq_cons (h : oldest addr a mail = some p) :
    inbox addr a mail = p :: inbox addr a (withoutOldest addr a mail) := by
  unfold oldest at h
  unfold inbox withoutOldest
  induction mail with
  | nil => cases h
  | cons q mail ih =>
      by_cases hq : addr q = a
      · rw [List.find?_cons_of_pos (by simpa using hq)] at h
        cases h
        simp [hq]
      · rw [List.find?_cons_of_neg (by simpa using hq)] at h
        simp [hq, ih h]

/-- Taking the oldest post takes nothing else. -/
theorem perm_cons_withoutOldest (h : oldest addr a mail = some p) :
    mail.Perm (p :: withoutOldest addr a mail) := by
  unfold oldest at h
  unfold withoutOldest
  induction mail with
  | nil => cases h
  | cons q mail ih =>
      by_cases hq : addr q = a
      · rw [List.find?_cons_of_pos (by simpa using hq)] at h
        cases h
        rw [List.eraseP_cons_of_pos (by simpa using hq)]
      · rw [List.find?_cons_of_neg (by simpa using hq)] at h
        rw [List.eraseP_cons_of_neg (by simpa using hq)]
        exact ((ih h).cons q).trans (List.Perm.swap p q _)

/-- A post is taken next, or is left. -/
theorem oldest_or_mem_withoutOldest (a : A) (h : p ∈ mail) :
    oldest addr a mail = some p ∨ p ∈ withoutOldest addr a mail := by
  cases hold : oldest addr a mail with
  | none =>
      refine .inr ?_
      unfold withoutOldest
      rwa [List.eraseP_of_forall_not fun q hq => List.find?_eq_none.mp hold q hq]
  | some head =>
      cases List.mem_cons.mp ((perm_cons_withoutOldest hold).mem_iff.mp h) with
      | inl heq => exact .inl (congrArg some heq.symm)
      | inr hmem => exact .inr hmem

/-- The others' inboxes stay. -/
theorem inbox_withoutOldest_of_ne (h : b ≠ a) :
    inbox addr b (withoutOldest addr a mail) = inbox addr b mail := by
  unfold inbox withoutOldest
  induction mail with
  | nil => rfl
  | cons q mail ih =>
      by_cases hq : addr q = a
      · simp [hq, h.symm]
      · simp only [hq, decide_false, Bool.false_eq_true, not_false_eq_true,
          List.eraseP_cons_of_neg, List.filter_cons, ih]

end Mailbox

end GameServer
