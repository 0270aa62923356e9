import GameServer.Lib.Table

/-!
# GameServer.Lib.Index

Secondary indices of a table.

A primary table `t : Table P V` is accompanied by an index
`idx : Table K R` that maps a field of the stored values to a reference to
the place they are stored at.  Two properties make the index a view of
the table:

* `Index.Sound` — every index entry refers to a stored value with that
  field;
* `Index.Complete` — every stored value is the one its index entry names,
  which makes the field a key of the table (`Index.Complete.unique`).

Erasing a row together with its matching entry keeps both, and so does
adding a row at a free place under an unused field value.  A row may change
(`Index.Sound.modify`), and change its field with its entry
(`Index.Sound.rekey`).  Overwriting an occupied place breaks soundness
(`Index.not_sound_set`).
-/

namespace GameServer

namespace Index

variable {P V K R : Type} (ref : P → V → R) (field : V → K)

/-- Every entry of the index refers to a stored value with that field. -/
def Sound (t : Table P V) (idx : Table K R) : Prop :=
  ∀ k r, idx k = some r → ∃ p v, t p = some v ∧ ref p v = r ∧ field v = k

/-- Every stored value is the one the index entry of its field refers to. -/
def Complete (t : Table P V) (idx : Table K R) : Prop :=
  ∀ p v, t p = some v → idx (field v) = some (ref p v)

variable {ref field} {t : Table P V} {idx : Table K R} {p : P} {v : V}

theorem sound_empty : Sound ref field (Table.empty : Table P V) (Table.empty : Table K R) := by
  intro k r h
  simp at h

theorem complete_empty : Complete ref field (Table.empty : Table P V) (Table.empty : Table K R) := by
  intro p v h
  simp at h

/-- The field of a complete index is a key. -/
theorem Complete.unique (hc : Complete ref field t idx)
    (hinj : ∀ {p v p' v'}, ref p v = ref p' v' → p = p') {p' : P} {v' : V}
    (h : t p = some v) (h' : t p' = some v') (hf : field v = field v') : p = p' := by
  have hv := hc p v h
  have hv' := hc p' v' h'
  rw [hf, hv'] at hv
  exact (hinj (Option.some.inj hv)).symm

section Update

variable [DecidableEq P] [DecidableEq K]

/-- Erasing an entry with its own index entry keeps the index sound. -/
theorem Sound.erase [DecidableEq R] (hs : Sound ref field t idx) (h : t p = some v) :
    Sound ref field (t.erase p) (idx.eraseMatching (field v) (ref p v)) := by
  intro k r hk
  obtain ⟨hk, hne⟩ := Table.eraseMatching_eq_some_iff.mp hk
  obtain ⟨p₁, v₁, h₁, hr, hf⟩ := hs k r hk
  refine ⟨p₁, v₁, Table.erase_eq_some_iff.mpr ⟨?_, h₁⟩, hr, hf⟩
  rintro rfl
  obtain rfl := Option.some.inj (h₁.symm.trans h)
  exact hne ⟨hf.symm, hr.symm⟩

/-- And complete, if different entries have different references. -/
theorem Complete.erase [DecidableEq R] (hc : Complete ref field t idx)
    (hinj : ∀ {p v p' v'}, ref p v = ref p' v' → p = p') (v : V) :
    Complete ref field (t.erase p) (idx.eraseMatching (field v) (ref p v)) := by
  intro p₁ v₁ h₁
  obtain ⟨hp, h₁⟩ := Table.erase_eq_some_iff.mp h₁
  refine Table.eraseMatching_eq_some_iff.mpr ⟨hc p₁ v₁ h₁, ?_⟩
  rintro ⟨_, hr⟩
  exact hp (hinj hr)

/-- A new entry on a free place keeps it sound. -/
theorem Sound.set (hs : Sound ref field t idx) (hfree : t p = none) :
    Sound ref field (t.set p v) (idx.set (field v) (ref p v)) := by
  intro k r hk
  rw [Table.set_apply] at hk
  split at hk
  next heq => exact ⟨p, v, Table.set_self t p v, Option.some.inj hk, heq.symm⟩
  next =>
    obtain ⟨p₁, v₁, h₁, hr, hf⟩ := hs k r hk
    have hp : p₁ ≠ p := by
      rintro rfl
      simp [hfree] at h₁
    exact ⟨p₁, v₁, by rw [Table.set_of_ne t v hp, h₁], hr, hf⟩

/-- And complete, if nobody has its field. -/
theorem Complete.set (hc : Complete ref field t idx)
    (hunused : ∀ p' v', t p' = some v' → field v' ≠ field v) :
    Complete ref field (t.set p v) (idx.set (field v) (ref p v)) := by
  intro p₁ v₁ h₁
  rw [Table.set_apply] at h₁
  split at h₁
  next heq =>
    subst heq
    obtain rfl := Option.some.inj h₁
    exact Table.set_self idx _ _
  next => rw [Table.set_of_ne idx _ (hunused p₁ v₁ h₁), hc p₁ v₁ h₁]

omit [DecidableEq K] in
/-- A row at a free place needs no entry of its own. -/
theorem Sound.set_row (hs : Sound ref field t idx) (hfree : t p = none) (v : V) :
    Sound ref field (t.set p v) idx := by
  intro k r hk
  obtain ⟨p₁, v₁, h₁, hr, hf⟩ := hs k r hk
  have hp : p₁ ≠ p := by
    rintro rfl
    rw [hfree] at h₁
    cases h₁
  exact ⟨p₁, v₁, by rw [Table.set_of_ne t v hp, h₁], hr, hf⟩

omit [DecidableEq K] in
/-- A row may change as long as its entry names it by the same field. -/
theorem Sound.modify (hs : Sound ref field t idx) (h : t p = some v) {v' : V}
    (href : ref p v' = ref p v) (hfield : field v' = field v ∨ idx (field v) ≠ some (ref p v)) :
    Sound ref field (t.set p v') idx := by
  intro k r hk
  obtain ⟨p₁, v₁, h₁, hr, hf⟩ := hs k r hk
  by_cases hp : p₁ = p
  · subst hp
    obtain rfl := Option.some.inj (h₁.symm.trans h)
    refine ⟨p₁, v', Table.set_self t p₁ v', href.trans hr, ?_⟩
    rcases hfield with hsame | hnone
    · exact hsame.trans hf
    · rw [hf, hr] at hnone
      exact absurd hk hnone
  · exact ⟨p₁, v₁, by rw [Table.set_of_ne t v' hp, h₁], hr, hf⟩

omit [DecidableEq K] in
/-- A change that keeps reference and field keeps the index complete. -/
theorem Complete.modify (hc : Complete ref field t idx) (h : t p = some v) {v' : V}
    (href : ref p v' = ref p v) (hfield : field v' = field v) :
    Complete ref field (t.set p v') idx := by
  intro p₁ v₁ h₁
  rw [Table.set_apply] at h₁
  split at h₁
  · next hp =>
    subst hp
    obtain rfl := Option.some.inj h₁
    rw [hfield, href]
    exact hc p₁ v h
  · exact hc p₁ v₁ h₁

/-- A row gets a new field: its old entry goes, and a new one comes. -/
theorem Sound.rekey [DecidableEq R] (hs : Sound ref field t idx) (h : t p = some v) {v' : V}
    (href : ref p v' = ref p v) :
    Sound ref field (t.set p v') ((idx.eraseMatching (field v) (ref p v)).set (field v')
      (ref p v)) := by
  intro k r hk
  rw [Table.set_apply] at hk
  split at hk
  · next hkey =>
    exact ⟨p, v', Table.set_self t p v', href.trans (Option.some.inj hk), hkey.symm⟩
  · obtain ⟨hk, hne⟩ := Table.eraseMatching_eq_some_iff.mp hk
    obtain ⟨p₁, v₁, h₁, hr, hf⟩ := hs k r hk
    have hp : p₁ ≠ p := by
      rintro rfl
      obtain rfl := Option.some.inj (h₁.symm.trans h)
      exact hne ⟨hf.symm, hr.symm⟩
    exact ⟨p₁, v₁, by rw [Table.set_of_ne t v' hp, h₁], hr, hf⟩

/-- Overwriting an occupied place by a value with another field leaves the
old value's entry dangling. -/
theorem not_sound_set (v₀ : V) {r : R} (hinj : ∀ {p v p' v'}, ref p v = ref p' v' → p = p')
    (hold : idx (field v₀) = some (ref p v₀)) (hne : field v ≠ field v₀) :
    ¬ Sound ref field (t.set p v) (idx.set (field v) r) := by
  intro hs
  have hentry : (idx.set (field v) r) (field v₀) = some (ref p v₀) := by
    rw [Table.set_of_ne idx r hne.symm, hold]
  obtain ⟨p₁, v₁, h₁, hr, hf⟩ := hs _ _ hentry
  obtain rfl := hinj hr
  rw [Table.set_self] at h₁
  obtain rfl := Option.some.inj h₁
  exact hne hf

end Update

end Index

end GameServer
