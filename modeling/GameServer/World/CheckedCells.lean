import GameServer.Lib.Signed
import GameServer.World.ZoneSector

/-!
# GameServer.World.CheckedCells

The mapping of positions to cells with every machine operation checked.

`ToCell` divides a negative coordinate by negating it first and adding the
cell unit to it; a coordinate near the lower end of 32 bits has no room for
that.  Wrapped around, such a coordinate lands in a column right of the map's
first one.

* `checkedToCell` — `ToCell`, which has no result where an operation overflows
* `HasRoom` — the coordinates for which none does
* `floorCells_iff` — for these, and for no other, the mapping is the monotone
  floor division
-/

namespace GameServer

namespace SectorContainer

variable (s : SectorContainer)

/-! ## The mapping, checked -/

/-- `ToCell`. -/
def checkedToCell (v : Int32) : Option Int32 :=
  if 0 ≤ v then (signed 32 (v.toInt.tdiv s.unit.toInt)).map Int32.ofInt
  else do
    let negated ← signed 32 (-v.toInt)
    let sum ← signed 32 (negated + s.unit.toInt)
    let sum ← signed 32 (sum - 1)
    let quotient ← signed 32 (sum.tdiv s.unit.toInt)
    let cell ← signed 32 (-quotient)
    return Int32.ofInt cell

/-- `ToCellClamped`. -/
def checkedToCellClamped (pos : Vec2i) : Option Vec2i := do
  let cx ← s.checkedToCell pos.x
  let cy ← s.checkedToCell pos.y
  return ⟨s.clampCx cx, s.clampCy cy⟩

/-- `ToCell` evaluates without overflow to the floor of the quotient. -/
def MapsToFloor (v : Int32) : Prop :=
  ∃ c, s.checkedToCell v = some c ∧ c.toInt = v.toInt.fdiv s.unit.toInt

/-- The cell is one of the map. -/
structure OnMap (c : Vec2i) : Prop where
  x_nonneg : 0 ≤ c.x
  x_le : c.x ≤ s.maxCx
  y_nonneg : 0 ≤ c.y
  y_le : c.y ≤ s.maxCy

/-- Both positions are mapped by floor division, to cells of the map that are
ordered as they are. -/
structure FloorCells (p q : Vec2i) : Prop where
  floor_left : s.MapsToFloor p.x ∧ s.MapsToFloor p.y
  floor_right : s.MapsToFloor q.x ∧ s.MapsToFloor q.y
  clamped : ∃ c d, s.checkedToCellClamped p = some c ∧ s.checkedToCellClamped q = some d ∧
    s.OnMap c ∧ s.OnMap d ∧ (p.x ≤ q.x → c.x ≤ d.x) ∧ (p.y ≤ q.y → c.y ≤ d.y) ∧
    (p.x < 0 → c.x = 0) ∧ (p.y < 0 → c.y = 0)

/-- There is room for the unit beside a negative coordinate. -/
def HasRoom (v : Int32) : Prop := v < 0 → s.unit.toInt - v.toInt < 2 ^ 31

instance (v : Int32) : Decidable (s.HasRoom v) := inferInstanceAs (Decidable (_ → _))

/-! ## Cells of coordinates -/

omit s in
/-- The division of a negative coordinate. -/
theorem neg_div_eq {v unit : Int} (hunit : 0 < unit) (hv : v < 0) :
    -((-v + unit - 1).tdiv unit) = v / unit := by
  rw [Int.tdiv_eq_ediv_of_nonneg (by omega)]
  symm
  rw [Int.ediv_eq_iff_of_pos hunit]
  have hdiv := Int.mul_ediv_add_emod (-v + unit - 1) unit
  have hmod := Int.emod_nonneg (-v + unit - 1) hunit.ne'
  have hlt := Int.emod_lt_of_pos (-v + unit - 1) hunit
  rw [Int.mul_comm] at hdiv
  rw [Int.neg_mul]
  omega

omit s in
theorem tdiv_bounds {a unit : Int} (ha : 0 ≤ a) (hunit : 0 < unit) :
    0 ≤ a.tdiv unit ∧ a.tdiv unit ≤ a :=
  ⟨Int.tdiv_nonneg ha hunit.le, Int.tdiv_le_self unit ha⟩

omit s in
/-- A quotient by a positive number is a number of the width. -/
theorem ediv_bounds {v : Int32} {unit : Int} (hunit : 0 < unit) :
    -2 ^ 31 ≤ v.toInt / unit ∧ v.toInt / unit < 2 ^ 31 := by
  have hlow := v.le_toInt
  have hhigh := v.toInt_lt
  constructor
  · rw [Int.le_ediv_iff_mul_le hunit]
    omega
  · rw [Int.ediv_lt_iff_lt_mul hunit]
    omega

variable {s} {v v' : Int32}

theorem toInt_ofInt_ediv {unit : Int} (hunit : 0 < unit) :
    (Int32.ofInt (v.toInt / unit)).toInt = v.toInt / unit := by
  obtain ⟨hlow, hhigh⟩ := ediv_bounds (v := v) hunit
  exact Int32.toInt_ofInt_of_le hlow hhigh

/-- With room, the checked mapping is floor division. -/
theorem checkedToCell_of_hasRoom (hunit : 0 < s.unit.toInt) (h : s.HasRoom v) :
    s.checkedToCell v = some (Int32.ofInt (v.toInt / s.unit.toInt)) := by
  obtain ⟨hlow, hhigh⟩ := ediv_bounds (v := v) hunit
  have hulow := s.unit.toInt_lt
  have hvlow := v.le_toInt
  unfold checkedToCell
  split
  next hv =>
    rw [Int32.le_iff_toInt_le] at hv
    rw [Int.tdiv_eq_ediv_of_nonneg hv, signed32_eq hlow hhigh, Option.map_some]
  next hv =>
    have hroom := h (Int32.not_le.mp hv)
    have hneg : v.toInt < 0 := Int32.lt_iff_toInt_lt.mp (Int32.not_le.mp hv)
    have hquotient := neg_div_eq hunit hneg
    have hbounds := tdiv_bounds (show 0 ≤ -v.toInt + s.unit.toInt - 1 by omega) hunit
    simp only [Option.bind_eq_bind]
    rw [signed32_eq (by omega) (by omega), Option.bind_some, signed32_eq (by omega) (by omega),
      Option.bind_some, signed32_eq (by omega) (by omega), Option.bind_some,
      signed32_eq (by omega) (by omega), Option.bind_some, hquotient, signed32_eq hlow hhigh,
      Option.bind_some]
    rfl

/-- Without it, the negation or the addition overflows. -/
theorem checkedToCell_of_not_hasRoom (h : ¬s.HasRoom v) : s.checkedToCell v = none := by
  rw [HasRoom, Classical.not_imp, Int.not_lt] at h
  obtain ⟨hv, hfull⟩ := h
  rw [checkedToCell, if_neg (Int32.not_le.mpr hv)]
  simp only [Option.bind_eq_bind]
  by_cases hmin : 2 ^ 31 ≤ -v.toInt
  · rw [signed32_eq_none hmin, Option.bind_none]
  · have hneg : v.toInt < 0 := Int32.lt_iff_toInt_lt.mp hv
    rw [signed32_eq (by omega) (by omega), Option.bind_some, signed32_eq_none (by omega),
      Option.bind_none]

/-- With room, the mapping that wraps around is the same. -/
theorem toCell_of_hasRoom (hunit : 0 < s.unit.toInt) (h : s.HasRoom v) :
    s.toCell v = Int32.ofInt (v.toInt / s.unit.toInt) := by
  obtain ⟨hlow, hhigh⟩ := ediv_bounds (v := v) hunit
  have hult := s.unit.toInt_lt
  have hvlow := v.le_toInt
  have hone : (1 : Int32).toInt = 1 := rfl
  rw [← Int32.toInt_inj, toInt_ofInt_ediv hunit, toCell]
  split
  next hv =>
    have hnonneg : 0 ≤ v.toInt := Int32.le_iff_toInt_le.mp hv
    rw [Int32.toInt_div, Int.tdiv_eq_ediv_of_nonneg hnonneg]
    exact Int.bmod_eq_of_le (by omega) (by omega)
  next hv =>
    have hroom := h (Int32.not_le.mp hv)
    have hneg : v.toInt < 0 := Int32.lt_iff_toInt_lt.mp (Int32.not_le.mp hv)
    have hminus : (-v).toInt = -v.toInt := by
      rw [Int32.toInt_neg]
      exact Int.bmod_eq_of_le (by omega) (by omega)
    have hsum : (-v + s.unit - 1).toInt = -v.toInt + s.unit.toInt - 1 := by
      rw [Int32.toInt_sub, Int32.toInt_add, hminus, hone,
        Int.bmod_eq_of_le (n := -v.toInt + s.unit.toInt) (by omega) (by omega)]
      exact Int.bmod_eq_of_le (by omega) (by omega)
    have hbounds := tdiv_bounds (show 0 ≤ -v.toInt + s.unit.toInt - 1 by omega) hunit
    rw [Int32.toInt_neg, Int32.toInt_div, hsum,
      Int.bmod_eq_of_le (n := (-v.toInt + s.unit.toInt - 1).tdiv _) (by omega) (by omega),
      ← neg_div_eq hunit hneg]
    exact Int.bmod_eq_of_le (by omega) (by omega)

/-- The division is the floor exactly where the negation has room. -/
theorem mapsToFloor_iff (hunit : 0 < s.unit.toInt) : s.MapsToFloor v ↔ s.HasRoom v := by
  constructor
  · rintro ⟨c, hc, -⟩
    by_contra hroom
    rw [checkedToCell_of_not_hasRoom hroom] at hc
    exact Option.some_ne_none c hc.symm
  · intro hroom
    refine ⟨_, checkedToCell_of_hasRoom hunit hroom, ?_⟩
    rw [Int.fdiv_eq_ediv_of_nonneg _ hunit.le]
    exact toInt_ofInt_ediv hunit

/-! ## Clamps -/

section Clamp

variable {top c c' : Int32}

theorem clampTo_bounds (hinited : s.inited = true) (htop : 0 ≤ top) :
    0 ≤ s.clampTo top c ∧ s.clampTo top c ≤ top := by
  rw [clampTo, if_neg (by simp [hinited])]
  simp only [Int32.le_iff_toInt_le, Int32.lt_iff_toInt_lt] at htop ⊢
  split_ifs <;> omega

theorem clampTo_mono (hinited : s.inited = true) (htop : 0 ≤ top) (h : c ≤ c') :
    s.clampTo top c ≤ s.clampTo top c' := by
  have hnot : ¬s.inited = false := by simp [hinited]
  rw [clampTo, clampTo, if_neg hnot, if_neg hnot]
  simp only [Int32.le_iff_toInt_le, Int32.lt_iff_toInt_lt] at htop h ⊢
  split_ifs <;> omega

theorem clampTo_of_neg (hinited : s.inited = true) (h : c < 0) : s.clampTo top c = 0 := by
  rw [clampTo, if_neg (by simp [hinited]), if_pos h]

end Clamp

/-! ## The grid -/

/-- The grid has a cell unit and at least one cell. -/
structure Gridded (s : SectorContainer) : Prop where
  inited : s.inited = true
  unit_pos : 0 < s.unit.toInt
  maxCx_nonneg : 0 ≤ s.maxCx
  maxCy_nonneg : 0 ≤ s.maxCy

/-- The last cell of a positive extent has an index that is not negative. -/
theorem nonneg_of_extent {size unit : Int32} (hsize : ¬size ≤ 0) (hunit : ¬unit ≤ 0) :
    0 ≤ (size - 1) / unit := by
  have hone : (1 : Int32).toInt = 1 := rfl
  have hzero : (0 : Int32).toInt = 0 := rfl
  have hlt := size.toInt_lt
  have hult := unit.toInt_lt
  rw [Int32.le_iff_toInt_le, hzero] at hsize hunit ⊢
  have hsub : (size - 1).toInt = size.toInt - 1 := by
    rw [Int32.toInt_sub, hone]
    exact Int.bmod_eq_of_le (by omega) (by omega)
  have hbounds :=
    tdiv_bounds (show 0 ≤ size.toInt - 1 by omega) (show 0 < unit.toInt by omega)
  rw [Int32.toInt_div, hsub, Int.bmod_eq_of_le (by omega) (by omega)]
  exact hbounds.1

/-- A sector that was inited has a positive unit and a grid. -/
theorem gridded_of_initSector {rcSize : Vec2i} {unit radius : Int32}
    (h : initSector rcSize unit radius = some s) : s.Gridded := by
  unfold initSector at h
  split at h
  next => cases h
  next hunit =>
    split at h
    next => cases h
    next hsize =>
      rw [not_or] at hsize
      have hpos : 0 < unit.toInt := Int32.lt_iff_toInt_lt.mp (Int32.not_le.mp hunit)
      rw [← Option.some.inj h]
      exact ⟨rfl, hpos, nonneg_of_extent hsize.1 hunit, nonneg_of_extent hsize.2 hunit⟩

theorem Gridded.onMap (h : s.Gridded) (cx cy : Int32) : s.OnMap ⟨s.clampCx cx, s.clampCy cy⟩ :=
  have hx := clampTo_bounds (c := cx) h.inited h.maxCx_nonneg
  have hy := clampTo_bounds (c := cy) h.inited h.maxCy_nonneg
  ⟨hx.1, hx.2, hy.1, hy.2⟩

/-- The floor is monotone, and negative left of the map. -/
theorem ofInt_ediv_mono {unit : Int} (hunit : 0 < unit) (h : v ≤ v') :
    Int32.ofInt (v.toInt / unit) ≤ Int32.ofInt (v'.toInt / unit) := by
  rw [Int32.le_iff_toInt_le, toInt_ofInt_ediv hunit, toInt_ofInt_ediv hunit]
  exact Int.ediv_le_ediv hunit (Int32.le_iff_toInt_le.mp h)

theorem ofInt_ediv_neg {unit : Int} (hunit : 0 < unit) (h : v < 0) :
    Int32.ofInt (v.toInt / unit) < 0 := by
  rw [Int32.lt_iff_toInt_lt, toInt_ofInt_ediv hunit]
  exact Int.ediv_neg_of_neg_of_pos (Int32.lt_iff_toInt_lt.mp h) hunit

/-- The mapping of two positions is right **exactly if** there is room beside
each of their coordinates. -/
theorem floorCells_iff {rcSize : Vec2i} {unit radius : Int32}
    (h : initSector rcSize unit radius = some s) (p q : Vec2i) :
    s.FloorCells p q ↔ s.HasRoom p.x ∧ s.HasRoom p.y ∧ s.HasRoom q.x ∧ s.HasRoom q.y := by
  have hgrid := gridded_of_initSector h
  have hunit := hgrid.unit_pos
  constructor
  · intro hcells
    obtain ⟨hpx, hpy⟩ := hcells.floor_left
    obtain ⟨hqx, hqy⟩ := hcells.floor_right
    rw [mapsToFloor_iff hunit] at hpx hpy hqx hqy
    exact ⟨hpx, hpy, hqx, hqy⟩
  · rintro ⟨hpx, hpy, hqx, hqy⟩
    refine ⟨⟨(mapsToFloor_iff hunit).mpr hpx, (mapsToFloor_iff hunit).mpr hpy⟩,
      ⟨(mapsToFloor_iff hunit).mpr hqx, (mapsToFloor_iff hunit).mpr hqy⟩, ?_⟩
    refine ⟨_, _, by rw [checkedToCellClamped, checkedToCell_of_hasRoom hunit hpx,
      checkedToCell_of_hasRoom hunit hpy]; rfl, by rw [checkedToCellClamped,
      checkedToCell_of_hasRoom hunit hqx, checkedToCell_of_hasRoom hunit hqy]; rfl,
      hgrid.onMap _ _, hgrid.onMap _ _, fun hle => ?_, fun hle => ?_, fun hneg => ?_,
      fun hneg => ?_⟩
    · exact clampTo_mono hgrid.inited hgrid.maxCx_nonneg (ofInt_ediv_mono hunit hle)
    · exact clampTo_mono hgrid.inited hgrid.maxCy_nonneg (ofInt_ediv_mono hunit hle)
    · exact clampTo_of_neg hgrid.inited (ofInt_ediv_neg hunit hneg)
    · exact clampTo_of_neg hgrid.inited (ofInt_ediv_neg hunit hneg)

/-- A grid of ten by ten cells. -/
def tenByTen : SectorContainer := (initSector ⟨100, 100⟩ 10 1).getD {}

theorem floorCells_iff_tenByTen :
    tenByTen.FloorCells ⟨-5, 7⟩ ⟨12, 250⟩ ↔
      tenByTen.HasRoom (-5) ∧ tenByTen.HasRoom 7 ∧ tenByTen.HasRoom 12 ∧ tenByTen.HasRoom 250 :=
  floorCells_iff (show initSector ⟨100, 100⟩ 10 1 = some tenByTen from rfl) ⟨-5, 7⟩ ⟨12, 250⟩

/-- The smallest coordinate: the negation overflows; wrapped around, the cell
is in the last column. -/
theorem leftmost_not_floor :
    ¬tenByTen.FloorCells ⟨-2147483648, 0⟩ ⟨0, 0⟩ ∧
      tenByTen.checkedToCell (-2147483648) = none ∧
      tenByTen.toCellClamped ⟨-2147483648, 0⟩ = ⟨9, 0⟩ := by
  have hnone : tenByTen.checkedToCell (-2147483648) = none := by decide
  refine ⟨fun h => ?_, hnone, by decide⟩
  obtain ⟨⟨c, hc, -⟩, -⟩ := h.floor_left
  exact Option.some_ne_none c (hc.symm.trans hnone)

end SectorContainer

end GameServer
