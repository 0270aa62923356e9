import GameServer.Data.ItemTemplates

/-!
# GameServer.Data.LevelTable

The level table of the legacy file (`legacy_level_csv_loader.cpp`): what each
level adds to the combat stats, by tribe.

* `LegacyLevelTable.find`, `loadLegacyLevelTable` — the table and its loader;
* `find_loadLegacyLevelTable` — a level has the last of its lines, where an item
  has the first.
-/

namespace GameServer.Data

/-- `LegacyLevelEntry`; the columns go by tribe. -/
structure LegacyLevelEntry where
  valid : Bool := false
  attack : Fin 3 → UInt32 := fun _ => 0
  defense : Fin 3 → UInt32 := fun _ => 0
  life : Fin 3 → UInt32 := fun _ => 0
  mana : Fin 3 → UInt32 := fun _ => 0

/-- `LegacyLevelTable`. -/
structure LegacyLevelTable where
  loaded : Bool := false
  entries : List LegacyLevelEntry := []

/-- `LegacyLevelTable::Find`. -/
def LegacyLevelTable.find (t : LegacyLevelTable) (level : UInt32) : Option LegacyLevelEntry :=
  if t.loaded = false ∨ level = 0 then none else t.entries[level.toNat]?.filter (·.valid)

/-- A line of the level file, with its level. -/
def parseLevelLine (longBits : Nat) (line : List Char) : Option (UInt32 × LegacyLevelEntry) :=
  let cols := splitTab line
  let column (i : Nat) : UInt32 := parseUInt longBits (cols.getD i [])
  if cols.length < 28 then none
  else
    some
      (column 0,
        { valid := true
          attack := fun i => column (6 + i)
          defense := fun i => column (9 + i)
          life := fun i => column (21 + i)
          mana := fun i => column (24 + i) })

/-- One pass of the loop of `LoadLegacyLevelTable_`. -/
def setLevelRow (entries : List LegacyLevelEntry) :
    Option (UInt32 × LegacyLevelEntry) → List LegacyLevelEntry
  | none => entries
  | some (level, row) =>
      if level = 0 ∨ entries.length ≤ level.toNat then entries else entries.set level.toNat row

/-- `LoadLegacyLevelTable_`; a file that is not there has no lines. -/
def loadLegacyLevelTable (longBits : Nat) (file : Option (List Char)) : LegacyLevelTable :=
  match getlines '\n' (file.getD []) with
  | [] => {}
  | _ :: lines =>
      { loaded := true
        entries := (lines.map (parseLevelLine longBits)).foldl setLevelRow
          (List.replicate 146 {}) }

/-- The row of a level that comes last. -/
def lastLevelRow (rows : List (Option (UInt32 × LegacyLevelEntry))) (level : UInt32) :
    Option LegacyLevelEntry :=
  rows.reverse.findSome? fun row => row.bind fun r => if r.1 = level then some r.2 else none

/-- A row is written into an existing entry. -/
theorem length_setLevelRow (entries : List LegacyLevelEntry)
    (row : Option (UInt32 × LegacyLevelEntry)) :
    (setLevelRow entries row).length = entries.length := by
  unfold setLevelRow
  split
  next => rfl
  next =>
    split
    next => rfl
    next => exact List.length_set

theorem length_foldl_setLevelRow (rows : List (Option (UInt32 × LegacyLevelEntry)))
    (entries : List LegacyLevelEntry) :
    (rows.foldl setLevelRow entries).length = entries.length := by
  induction rows generalizing entries with
  | nil => rfl
  | cons row rows ih => exact (ih _).trans (length_setLevelRow entries row)

/-- A row changes the entry of its own level. -/
theorem getElem?_setLevelRow {entries : List LegacyLevelEntry} {level : UInt32}
    (hlevel : level ≠ 0) (hlength : level.toNat < entries.length)
    (row : Option (UInt32 × LegacyLevelEntry)) :
    (setLevelRow entries row)[level.toNat]? =
      (row.bind fun r => if r.1 = level then some r.2 else none).or entries[level.toNat]? := by
  cases row with
  | none => rfl
  | some r =>
      obtain ⟨level', row⟩ := r
      simp only [setLevelRow, Option.bind_some]
      by_cases hsame : level' = level
      · subst hsame
        rw [if_neg (not_or.mpr ⟨hlevel, Nat.not_le.mpr hlength⟩), if_pos rfl, Option.some_or,
          List.getElem?_set_self hlength]
      · rw [if_neg hsame, Option.none_or]
        split
        next => rfl
        next => exact List.getElem?_set_ne fun heq => hsame (UInt32.toNat_inj.mp heq)

/-- The last row of a level wins: induction on the rows. -/
theorem getElem?_foldl_setLevelRow {level : UInt32} (hlevel : level ≠ 0)
    (rows : List (Option (UInt32 × LegacyLevelEntry))) {entries : List LegacyLevelEntry}
    (hlength : level.toNat < entries.length) :
    (rows.foldl setLevelRow entries)[level.toNat]? =
      (lastLevelRow rows level).or entries[level.toNat]? := by
  induction rows generalizing entries with
  | nil => rfl
  | cons row rows ih =>
      have hnext := (length_setLevelRow entries row).symm ▸ hlength
      rw [List.foldl_cons, ih hnext, getElem?_setLevelRow hlevel hlength, lastLevelRow,
        lastLevelRow, List.reverse_cons, List.findSome?_append, List.findSome?_singleton,
        Option.or_assoc]

/-- A row that was read is valid. -/
theorem valid_of_lastLevelRow {longBits : Nat} {lines : List (List Char)} {level : UInt32}
    {row : LegacyLevelEntry}
    (h : lastLevelRow (lines.map (parseLevelLine longBits)) level = some row) :
    row.valid = true := by
  obtain ⟨parsed, hmem, hrow⟩ := List.exists_of_findSome?_eq_some h
  obtain ⟨line, -, rfl⟩ := List.mem_map.mp (List.mem_reverse.mp hmem)
  obtain ⟨r, hparsed, hlevel⟩ := Option.bind_eq_some_iff.mp hrow
  rw [parseLevelLine] at hparsed
  split at hlevel
  next =>
    obtain rfl := Option.some.inj hlevel
    split at hparsed
    next => cases hparsed
    next => exact (Option.some.inj hparsed) ▸ rfl
  next => cases hlevel

/-- A level has the last line of the file that is its own; only the levels from
1 to 145 have lines. -/
theorem find_loadLegacyLevelTable (longBits : Nat) (file : Option (List Char)) (level : UInt32) :
    (loadLegacyLevelTable longBits file).find level =
      if level = 0 ∨ 146 ≤ level.toNat then none
      else lastLevelRow ((dataLines file).map (parseLevelLine longBits)) level := by
  rw [loadLegacyLevelTable, dataLines]
  cases getlines '\n' (file.getD []) with
  | nil => exact (ite_self none).symm
  | cons header lines =>
      rw [LegacyLevelTable.find, List.tail_cons]
      by_cases hzero : level = 0
      · rw [if_pos (.inr hzero), if_pos (.inl hzero)]
      · rw [if_neg (not_or.mpr ⟨Bool.noConfusion, hzero⟩)]
        by_cases hlength : level.toNat < 146
        · have hentries : level.toNat < (List.replicate 146 ({} : LegacyLevelEntry)).length := by
            rwa [List.length_replicate]
          rw [if_neg (not_or.mpr ⟨hzero, Nat.not_le.mpr hlength⟩),
            getElem?_foldl_setLevelRow hzero _ hentries, List.getElem?_replicate_of_lt hlength]
          cases hrow : lastLevelRow (lines.map (parseLevelLine longBits)) level with
          | none => rfl
          | some row => exact Option.filter_some_pos (valid_of_lastLevelRow hrow)
        · have hlong : ((lines.map (parseLevelLine longBits)).foldl setLevelRow
              (List.replicate 146 {})).length ≤ level.toNat := by
            rw [length_foldl_setLevelRow, List.length_replicate]
            exact Nat.not_lt.mp hlength
          rw [if_pos (.inr (Nat.not_lt.mp hlength)), List.getElem?_eq_none hlong]
          rfl

end GameServer.Data
