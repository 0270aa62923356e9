import GameServer.Lib.Buckets
import GameServer.World.SessionKey

/-!
# GameServer.Zone.SpatialIndex

The spatial index of a zone process: for each map instance the characters in
each cell of a grid.

* `resolveSpatialCellCoord` — the cell of a coordinate, by floor division
  (`toInt_resolveSpatialCellCoord`);
* `SpatialIndex`, `insertActorIntoSpatialIndex`,
  `removeActorFromSpatialIndex` — the two-level table;
* `mem_listed_insertActor`, `mem_listed_removeActor` — what they do to the
  characters listed in a cell.
-/

namespace GameServer

/-! ## Cells -/

/-- The part of `AoiConfig` that the zone process reads. -/
structure AoiConfig where
  worldSightUnit : Int32 := 10
  aoiRadiusCells : Int32 := 5
deriving DecidableEq, Repr

/-- `ResolveAoiCellSize_`. -/
def resolveAoiCellSize (cfg : AoiConfig) : Int32 :=
  let radiusM := max 1 (cfg.worldSightUnit * cfg.aoiRadiusCells)
  max 1 (radiusM / 2)

/-- `MakeSpatialCellKey_`. -/
def makeSpatialCellKey (cellX cellY : Int32) : UInt64 :=
  (cellX.toUInt32.toUInt64 <<< 32) ||| cellY.toUInt32.toUInt64

/-- `ResolveSpatialCellCoord_`. -/
def resolveSpatialCellCoord (value cellSize : Int32) : Int32 :=
  if cellSize ≤ 0 then 0
  else
    let numerator := value.toInt64
    let denominator := cellSize.toInt64
    let q := numerator / denominator
    let r := numerator % denominator
    (if r ≠ 0 ∧ decide (r > 0) ≠ decide (denominator > 0) then q - 1 else q).toInt32

/-- A cell has a positive size, whatever is configured. -/
theorem resolveAoiCellSize_pos (cfg : AoiConfig) : 0 < (resolveAoiCellSize cfg).toInt := by
  have hone : (1 : Int32).toInt = 1 := rfl
  have hmax : ∀ x : Int32, 0 < (max 1 x).toInt := by
    intro x
    rw [show max 1 x = if 1 ≤ x then x else 1 from rfl]
    split_ifs with hx
    · rw [Int32.le_iff_toInt_le, hone] at hx
      omega
    · rw [hone]
      omega
  exact hmax _

/-- Different cells have different keys. -/
theorem makeSpatialCellKey_inj {x y x' y' : Int32} :
    makeSpatialCellKey x y = makeSpatialCellKey x' y' ↔ x = x' ∧ y = y' := by
  have hpack : makeSpatialCellKey x y = makeSpatialCellKey x' y' ↔
      x.toUInt32 = x'.toUInt32 ∧ y.toUInt32 = y'.toUInt32 := packSessionKey_inj
  rw [hpack]
  constructor
  · intro h
    exact ⟨congrArg Int32.ofUInt32 h.1, congrArg Int32.ofUInt32 h.2⟩
  · intro h
    exact ⟨congrArg _ h.1, congrArg _ h.2⟩

/-- Truncated division, one less where the remainder is negative, is floor
division. -/
theorem ediv_eq_of_tdiv {v c : Int} (hc : 0 < c) :
    v / c = if v.tmod c < 0 then v.tdiv c - 1 else v.tdiv c := by
  have hsum := Int.tmod_add_mul_tdiv v c
  have hlt := Int.tmod_lt_of_pos v hc
  have hgt := Int.lt_tmod_of_pos v hc
  split_ifs with hneg
  · have hstep : v.tmod c + c + c * (v.tdiv c - 1) = v := by
      rw [Int.mul_sub, Int.mul_one]
      omega
    exact ((Int.ediv_emod_unique hc).mpr ⟨hstep, by omega, by omega⟩).1
  · exact ((Int.ediv_emod_unique hc).mpr ⟨hsum, by omega, hlt⟩).1

/-- A cell coordinate is the floor division of the coordinate. -/
theorem toInt_resolveSpatialCellCoord (value : Int32) {cellSize : Int32}
    (hsize : 0 < cellSize.toInt) :
    (resolveSpatialCellCoord value cellSize).toInt = value.toInt / cellSize.toInt := by
  have hzero : (0 : Int32).toInt = 0 := rfl
  have hzero' : (0 : Int64).toInt = 0 := rfl
  have hone' : (1 : Int64).toInt = 1 := rfl
  have hlow := Int32.le_toInt value
  have hhigh := Int32.toInt_lt value
  -- The floor is a 32-bit number, so no step overflows.
  have hfloor_low : -2 ^ 31 ≤ value.toInt / cellSize.toInt :=
    Int.le_ediv_of_mul_le hsize (by omega)
  have hfloor_high : value.toInt / cellSize.toInt < 2 ^ 31 :=
    Int.ediv_lt_of_lt_mul hsize (by omega)
  have hfloor := ediv_eq_of_tdiv (v := value.toInt) hsize
  have hq : (value.toInt64 / cellSize.toInt64).toInt = value.toInt.tdiv cellSize.toInt := by
    rw [Int64.toInt_div, Int32.toInt_toInt64, Int32.toInt_toInt64]
    apply Int.bmod_eq_of_le
    · split_ifs at hfloor <;> omega
    · split_ifs at hfloor <;> omega
  have hr : (value.toInt64 % cellSize.toInt64).toInt = value.toInt.tmod cellSize.toInt := by
    rw [Int64.toInt_mod, Int32.toInt_toInt64, Int32.toInt_toInt64]
  have hpos : cellSize.toInt64 > 0 := by
    rw [gt_iff_lt, Int64.lt_iff_toInt_lt, Int32.toInt_toInt64, hzero']
    exact hsize
  have hcond : (value.toInt64 % cellSize.toInt64 ≠ 0 ∧
      decide (value.toInt64 % cellSize.toInt64 > 0) ≠ decide (cellSize.toInt64 > 0)) ↔
        value.toInt.tmod cellSize.toInt < 0 := by
    rw [decide_eq_true hpos, ne_eq, ← Int64.toInt_inj, hr, hzero', ne_eq, decide_eq_true_eq,
      gt_iff_lt, Int64.lt_iff_toInt_lt, hr, hzero']
    omega
  unfold resolveSpatialCellCoord
  rw [if_neg (by rw [Int32.le_iff_toInt_le, hzero]; omega)]
  dsimp only
  rw [Int64.toInt_toInt32]
  simp only [hcond]
  split_ifs at hfloor ⊢ with hneg
  · rw [Int64.toInt_sub, hq, hone', ← hfloor]
    rw [Int.bmod_eq_of_le (m := 2 ^ 64) (by omega) (by omega)]
    exact Int.bmod_eq_of_le (by omega) (by omega)
  · rw [hq, ← hfloor]
    exact Int.bmod_eq_of_le (by omega) (by omega)

/-! ## The index -/

/-- `spatial_index_by_map_key_`. -/
abbrev SpatialIndex := AList fun _ : UInt64 => Buckets UInt64 UInt64

namespace SpatialIndex

/-- `InsertActorIntoSpatialIndex_`. -/
def insertActorIntoSpatialIndex (idx : SpatialIndex) (mapKey charId : UInt64)
    (cellX cellY : Int32) : SpatialIndex :=
  let cells := (idx.lookup mapKey).getD ∅
  AList.insert mapKey (cells.insertId (makeSpatialCellKey cellX cellY) charId) idx

/-- `RemoveActorFromSpatialIndex_`. -/
def removeActorFromSpatialIndex (idx : SpatialIndex) (mapKey charId : UInt64)
    (cellX cellY : Int32) : SpatialIndex :=
  match idx.lookup mapKey with
  | none => idx
  | some cells =>
      match cells.lookup (makeSpatialCellKey cellX cellY) with
      | none => idx
      | some _ =>
          let cells := cells.eraseId (makeSpatialCellKey cellX cellY) charId
          if cells.entries.isEmpty then AList.erase mapKey idx else AList.insert mapKey cells idx

/-- The characters listed in a cell of a map instance. -/
def listed (idx : SpatialIndex) (mapKey : UInt64) (cellX cellY : Int32) : List UInt64 :=
  match idx.lookup mapKey with
  | none => []
  | some cells => cells.idsAt (makeSpatialCellKey cellX cellY)

/-- An insert lists one character in one cell. -/
theorem mem_listed_insertActor {idx : SpatialIndex} {mapKey mapKey' charId id : UInt64}
    {x y x' y' : Int32} :
    id ∈ (idx.insertActorIntoSpatialIndex mapKey charId x y).listed mapKey' x' y' ↔
      (mapKey' = mapKey ∧ x' = x ∧ y' = y ∧ id = charId) ∨ id ∈ idx.listed mapKey' x' y' := by
  unfold insertActorIntoSpatialIndex listed
  by_cases hmap : mapKey' = mapKey
  · subst hmap
    rw [AList.lookup_insert]
    dsimp only
    rw [Buckets.mem_idsAt_insertId, makeSpatialCellKey_inj]
    cases idx.lookup mapKey' with
    | none => simp [Buckets.idsAt, and_assoc]
    | some cells => simp [and_assoc]
  · rw [AList.lookup_insert_ne hmap]
    simp [hmap]

/-- A remove takes one character out of one cell. -/
theorem mem_listed_removeActor {idx : SpatialIndex} {mapKey mapKey' charId id : UInt64}
    {x y x' y' : Int32} :
    id ∈ (idx.removeActorFromSpatialIndex mapKey charId x y).listed mapKey' x' y' ↔
      id ∈ idx.listed mapKey' x' y' ∧ ¬(mapKey' = mapKey ∧ x' = x ∧ y' = y ∧ id = charId) := by
  unfold removeActorFromSpatialIndex
  cases hcells : idx.lookup mapKey with
  | none =>
      simp only [iff_self_and]
      rintro hid ⟨rfl, -⟩
      simp [listed, hcells] at hid
  | some cells =>
      dsimp only
      cases hids : cells.lookup (makeSpatialCellKey x y) with
      | none =>
          simp only [iff_self_and]
          rintro hid ⟨rfl, rfl, rfl, -⟩
          simp [listed, hcells, Buckets.idsAt, hids] at hid
      | some ids =>
          dsimp only
          have hrest : ∀ id, id ∈ (cells.eraseId (makeSpatialCellKey x y) charId).idsAt
              (makeSpatialCellKey x' y') ↔
                id ∈ cells.idsAt (makeSpatialCellKey x' y') ∧ ¬(x' = x ∧ y' = y ∧ id = charId) := by
            intro id
            rw [Buckets.mem_idsAt_eraseId, makeSpatialCellKey_inj, and_assoc]
          by_cases hmap : mapKey' = mapKey
          · subst hmap
            have hold : idx.listed mapKey' x' y' = cells.idsAt (makeSpatialCellKey x' y') := by
              simp only [listed, hcells]
            rw [hold, eq_self_iff_true, true_and, ← hrest]
            split_ifs with hempty
            · simp only [listed, AList.lookup_erase, List.not_mem_nil, false_iff]
              have hnone : cells.eraseId (makeSpatialCellKey x y) charId = ∅ :=
                AList.ext (List.isEmpty_iff.mp hempty)
              rw [hnone]
              simp [Buckets.idsAt]
            · simp only [listed, AList.lookup_insert]
          · have hsame : ∀ idx' : SpatialIndex, idx'.lookup mapKey' = idx.lookup mapKey' →
                idx'.listed mapKey' x' y' = idx.listed mapKey' x' y' := by
              intro idx' h
              simp only [listed, h]
            split_ifs
            · rw [hsame _ (AList.lookup_erase_ne hmap)]
              simp [hmap]
            · rw [hsame _ (AList.lookup_insert_ne hmap)]
              simp [hmap]

end SpatialIndex

end GameServer
