import GameServer.Lib.Table

/-!
# GameServer.Lib.FoldedTable

Tables whose keys are folded into smaller ones.

A table over `P` is kept under `key p` instead of `p`.  If the fold is not
injective, then two entries can meet under one key; as long as none do, the
folded table is as good as the other.

* `Folds` -- the folded table has the entries of the other, and no more
* `Alone` -- no other entry has the key of this one
* `Folds.lookup`, `Folds.set`, `Folds.erase` -- the three uses of an entry
  that is alone
-/

namespace GameServer

variable {P K V : Type}

/-- The entries of `t`, each under its folded key. -/
structure Folds (key : P → K) (t : Table P V) (f : Table K V) : Prop where
  held : ∀ p v, t p = some v → f (key p) = some v
  owned : ∀ k v, f k = some v → ∃ p, key p = k ∧ t p = some v

/-- No other entry has the key of `p`. -/
def Alone (key : P → K) (t : Table P V) (p : P) : Prop :=
  ∀ q, q ≠ p → key q = key p → t q = none

variable {key : P → K} {t : Table P V} {f : Table K V} {p : P}

theorem Alone.key_ne (h : Alone key t p) {q : P} {v : V} (hq : t q = some v) (hqp : q ≠ p) :
    key q ≠ key p := by
  intro hkey
  rw [h q hqp hkey] at hq
  exact Option.some_ne_none v hq.symm

namespace Folds

theorem empty (key : P → K) : Folds key (Table.empty : Table P V) Table.empty :=
  ⟨fun _ _ h => absurd h.symm (Option.some_ne_none _),
    fun _ _ h => absurd h.symm (Option.some_ne_none _)⟩

/-- The lookup of an entry that is alone. -/
theorem lookup (h : Folds key t f) (halone : Alone key t p) : f (key p) = t p := by
  cases hp : t p with
  | some v => exact h.held p v hp
  | none =>
      by_contra hne
      obtain ⟨v, hv⟩ := Option.ne_none_iff_exists'.mp hne
      obtain ⟨q, hq, hqv⟩ := h.owned (key p) v hv
      refine halone.key_ne hqv ?_ hq
      rintro rfl
      rw [hp] at hqv
      exact Option.some_ne_none v hqv.symm

variable [DecidableEq P] [DecidableEq K]

/-- A key that nobody shares may be set in both tables. -/
theorem set (h : Folds key t f) (halone : Alone key t p) (v : V) :
    Folds key (t.set p v) (f.set (key p) v) := by
  refine ⟨fun q w hq => ?_, fun k w hk => ?_⟩
  · rw [Table.set_apply] at hq
    split_ifs at hq with hqp
    · rw [hqp, Table.set_self, hq]
    · rw [Table.set_of_ne _ _ (halone.key_ne hq hqp), h.held q w hq]
  · rw [Table.set_apply] at hk
    split_ifs at hk with hkp
    · exact ⟨p, hkp.symm, by rw [Table.set_self, hk]⟩
    · obtain ⟨q, rfl, hqw⟩ := h.owned k w hk
      have hqp : q ≠ p := fun hqp => hkp (congrArg key hqp)
      exact ⟨q, rfl, by rw [Table.set_of_ne _ _ hqp, hqw]⟩

/-- And erased in both. -/
theorem erase (h : Folds key t f) (halone : Alone key t p) :
    Folds key (t.erase p) (f.erase (key p)) := by
  refine ⟨fun q w hq => ?_, fun k w hk => ?_⟩
  · obtain ⟨hqp, hqw⟩ := Table.erase_eq_some_iff.mp hq
    rw [Table.erase_of_ne _ (halone.key_ne hqw hqp), h.held q w hqw]
  · obtain ⟨hkp, hkw⟩ := Table.erase_eq_some_iff.mp hk
    obtain ⟨q, rfl, hqw⟩ := h.owned k w hkw
    exact ⟨q, rfl, Table.erase_eq_some_iff.mpr ⟨fun hqp => hkp (congrArg key hqp), hqw⟩⟩

end Folds

end GameServer
