import GameServer.Lib.SortedList

/-!
# GameServer.World.ZoneSector

The sector grid of a zone (`ZoneActor::SectorContainer`): positions to
cells, cells to keys, the window of cells around a cell, and the edges of
the window that are precomputed for each direction of a one-cell move.

Coordinates are 32-bit and wrap; the grid clamps every cell it computes to
the map.

* `cellKey_inj` — a key determines its cell;
* `mem_window`, `Ready.broadCells_eq` — the window, as a set of cells;
* `mem_window_of_mem_window` — a window moved by one cell has no new cells
  other than those of its entered edge.
-/

namespace GameServer

/-- `Vec2i`. -/
structure Vec2i where
  x : Int32 := 0
  y : Int32 := 0
deriving DecidableEq, Repr

/-- `SectorContainer`. -/
structure SectorContainer where
  inited : Bool := false
  mapSize : Vec2i := {}
  unit : Int32 := 10
  aoiR : Int32 := 1
  maxCx : Int32 := 0
  maxCy : Int32 := 0
  enteredEdgeOffs : List (List Vec2i) := List.replicate 9 []
  leftEdgeOffs : List (List Vec2i) := List.replicate 9 []
deriving DecidableEq, Repr

namespace SectorContainer

/-! ## Edges -/

/-- `for (int o = -r; o <= r; ++o)`. -/
def offsets (r : Int32) : List Int32 :=
  (List.range (2 * r.toInt.toNat + 1)).map fun i : Nat => Int32.ofInt (i - r.toInt)

/-- `DirIndex`. -/
def dirIndex (dx dy : Int32) : Nat := ((dx + 1) + (dy + 1) * 3).toInt.toNat

/-- The order the edges are sorted by. -/
def offsetLe (a b : Vec2i) : Prop := if a.x ≠ b.x then a.x < b.x else a.y ≤ b.y

instance : DecidableRel offsetLe := fun a b => by unfold offsetLe; infer_instance

/-- The column at `-r` or `r` and the row at `-r` or `r` on the sides given by
`sx` and `sy`, sorted, without repetition. -/
def edgeOffsets (r sx sy : Int32) : List Vec2i :=
  let column :=
    if sx = 1 then (offsets r).map fun oy => (⟨r, oy⟩ : Vec2i)
    else if sx = -1 then (offsets r).map fun oy => ⟨-r, oy⟩
    else []
  let row :=
    if sy = 1 then (offsets r).map fun ox => (⟨ox, r⟩ : Vec2i)
    else if sy = -1 then (offsets r).map fun ox => ⟨ox, -r⟩
    else []
  unique ((column ++ row).insertionSort offsetLe)

/-- The directions, in the order of `DirIndex`. -/
def directions : List (Int32 × Int32) :=
  [(-1, -1), (0, -1), (1, -1), (-1, 0), (0, 0), (1, 0), (-1, 1), (0, 1), (1, 1)]

/-- `BuildEdgeCaches_`: what a one-cell move enters is on the side it goes to,
what it leaves is on the opposite side. -/
def buildEdgeCaches (s : SectorContainer) : SectorContainer :=
  let r := max 0 s.aoiR
  { s with
    enteredEdgeOffs := directions.map fun d => edgeOffsets r d.1 d.2
    leftEdgeOffs := directions.map fun d => edgeOffsets r (-d.1) (-d.2) }

/-- `init_sector`; `none` where it returns `false`. -/
def initSector (rcSize : Vec2i) (worldSightUnit aoiRadiusCells : Int32) :
    Option SectorContainer :=
  if worldSightUnit ≤ 0 then none
  else if rcSize.x ≤ 0 ∨ rcSize.y ≤ 0 then none
  else
    let s : SectorContainer :=
      { mapSize := rcSize
        unit := worldSightUnit
        aoiR := if aoiRadiusCells < 0 then 0 else aoiRadiusCells
        maxCx := (rcSize.x - 1) / worldSightUnit
        maxCy := (rcSize.y - 1) / worldSightUnit }
    some { s.buildEdgeCaches with inited := true }

/-! ## Cells -/

variable (s : SectorContainer)

/-- `ToCell`: floor division. -/
def toCell (v : Int32) : Int32 :=
  if 0 ≤ v then v / s.unit else -((-v + s.unit - 1) / s.unit)

/-- The body of `ClampCx` and `ClampCy`. -/
def clampTo (top c : Int32) : Int32 :=
  if s.inited = false then c
  else if c < 0 then 0
  else if top < c then top
  else c

/-- `ClampCx`. -/
def clampCx (cx : Int32) : Int32 := s.clampTo s.maxCx cx

/-- `ClampCy`. -/
def clampCy (cy : Int32) : Int32 := s.clampTo s.maxCy cy

/-- `ToCellClamped`. -/
def toCellClamped (pos : Vec2i) : Vec2i where
  x := s.clampCx (s.toCell pos.x)
  y := s.clampCy (s.toCell pos.y)

omit s in
/-- `CellKey`. -/
def cellKey (cx cy : Int32) : Int64 := (cx.toInt64 <<< 32) ^^^ cy.toUInt32.toUInt64.toInt64

/-- `BroadCells`. -/
def broadCells (cx cy : Int32) : List Int64 :=
  let r := max 0 s.aoiR
  (offsets r).flatMap fun dy =>
    (offsets r).map fun dx => cellKey (s.clampCx (cx + dx)) (s.clampCy (cy + dy))

/-- `EnteredEdgeOffsets`. -/
def enteredEdgeOffsets (dx dy : Int32) : List Vec2i :=
  s.enteredEdgeOffs.getD (dirIndex dx dy) []

/-- `LeftEdgeOffsets`. -/
def leftEdgeOffsets (dx dy : Int32) : List Vec2i :=
  s.leftEdgeOffs.getD (dirIndex dx dy) []

/-! ## Keys -/

omit s in
/-- A key has the column in its upper half, as `key >> 32` reads it. -/
theorem cellKey_high (cx cy : Int32) : (cellKey cx cy >>> 32).toInt32 = cx := by
  have hbits : ∀ a b : BitVec 32,
      (((a.signExtend 64 <<< 32) ^^^ b.setWidth 64).sshiftRight 32).signExtend 32 = a := by
    intro a b
    ext i hi
    have hi' : 32 + i < 64 := by omega
    simp [BitVec.getElem_signExtend, BitVec.getElem_sshiftRight, hi, hi', show i < 64 by omega]
  apply Int32.toBitVec_inj.mp
  simpa [cellKey] using hbits cx.toBitVec cy.toBitVec

omit s in
/-- And the row in its lower half. -/
theorem cellKey_low (cx cy : Int32) : (cellKey cx cy).toUInt64.toUInt32.toInt32 = cy := by
  apply Int32.toBitVec_inj.mp
  simp [cellKey]

omit s in
/-- A key determines its cell. -/
theorem cellKey_inj {a b : Vec2i} (h : cellKey a.x a.y = cellKey b.x b.y) : a = b := by
  have hx : a.x = b.x := by rw [← cellKey_high a.x a.y, h, cellKey_high]
  have hy : a.y = b.y := by rw [← cellKey_low a.x a.y, h, cellKey_low]
  cases a
  cases b
  simp_all

/-! ## Offsets -/

omit s in
theorem toInt_neg_of_nonneg {r : Int32} (hr : 0 ≤ r) : (-r).toInt = -r.toInt := by
  have hrlt := r.toInt_lt
  have hrle : 0 ≤ r.toInt := Int32.le_iff_toInt_le.mp hr
  rw [Int32.toInt_neg]
  exact Int.bmod_eq_of_le (by omega) (by omega)

omit s in
/-- The offsets run from minus the radius to the radius. -/
theorem mem_offsets {r o : Int32} (hr : 0 ≤ r) : o ∈ offsets r ↔ -r ≤ o ∧ o ≤ r := by
  have hrlt := r.toInt_lt
  have hrle : 0 ≤ r.toInt := Int32.le_iff_toInt_le.mp hr
  have holt := o.toInt_lt
  have hsize : Int32.size = 4294967296 := rfl
  simp only [offsets, List.mem_map, List.mem_range, Int32.le_iff_toInt_le, ← Int32.toInt_inj,
    Int32.toInt_ofInt, toInt_neg_of_nonneg hr]
  constructor
  · rintro ⟨i, hi, h⟩
    rw [Int.bmod_eq_of_le (by omega) (by omega)] at h
    omega
  · rintro ⟨hlow, hhigh⟩
    refine ⟨(o.toInt + r.toInt).toNat, by omega, ?_⟩
    rw [Int.bmod_eq_of_le (by omega) (by omega)]
    omega

/-- A difference of cells that the edge caches are built for. -/
def IsUnitStep (d : Int32) : Prop := -1 ≤ d ∧ d ≤ 1

instance (d : Int32) : Decidable (IsUnitStep d) := inferInstanceAs (Decidable (_ ∧ _))

omit s in
theorem IsUnitStep.eq {d : Int32} (h : IsUnitStep d) : d = -1 ∨ d = 0 ∨ d = 1 := by
  have hone : (1 : Int32).toInt = 1 := rfl
  have hminus : (-1 : Int32).toInt = -1 := rfl
  have hzero : (0 : Int32).toInt = 0 := rfl
  simp only [IsUnitStep, Int32.le_iff_toInt_le, ← Int32.toInt_inj] at *
  omega

omit s in
/-- Moved by at most one, an offset is an offset again or was at the end it is
moved over. -/
theorem mem_offsets_add {r o d : Int32} (hr : 0 ≤ r) (hd : IsUnitStep d) (ho : o ∈ offsets r) :
    d + o ∈ offsets r ∨ (d = 1 ∧ o = r) ∨ (d = -1 ∧ o = -r) := by
  have hrlt := r.toInt_lt
  have holt := o.toInt_lt
  have hole := o.le_toInt
  have hone : (1 : Int32).toInt = 1 := rfl
  have hminus : (-1 : Int32).toInt = -1 := rfl
  rw [mem_offsets hr] at ho ⊢
  simp only [IsUnitStep, Int32.le_iff_toInt_le, ← Int32.toInt_inj, toInt_neg_of_nonneg hr, hone,
    hminus, Int32.toInt_add] at hd ho ⊢
  by_cases hend : d.toInt = 1 ∧ o.toInt = r.toInt ∨ d.toInt = -1 ∧ o.toInt = -r.toInt
  · exact .inr hend
  · rw [Int.bmod_eq_of_le (by omega) (by omega)]
    omega

omit s in
/-- The offsets of an edge: one column for a step in x, one row for a step in y. -/
theorem mem_edgeOffsets {r sx sy : Int32} {o : Vec2i} :
    o ∈ edgeOffsets r sx sy ↔
      (((sx = 1 ∧ o.x = r) ∨ (sx = -1 ∧ o.x = -r)) ∧ o.y ∈ offsets r) ∨
      (o.x ∈ offsets r ∧ ((sy = 1 ∧ o.y = r) ∨ (sy = -1 ∧ o.y = -r))) := by
  obtain ⟨ox, oy⟩ := o
  simp only [edgeOffsets, mem_unique, List.mem_insertionSort, List.mem_append]
  refine or_congr ?_ ?_
  · split
    next h => simp [h, and_comm, eq_comm]
    next h =>
      split
      next h' => simp [h', and_comm, eq_comm]
      next h' => simp [h, h']
  · split
    next h => simp [h, eq_comm]
    next h =>
      split
      next h' => simp [h', eq_comm]
      next h' => simp [h, h']

/-! ## Windows -/

/-- The cell at an offset from a cell, as the grid clamps it. -/
def cellAt (c o : Vec2i) : Vec2i := ⟨s.clampCx (c.x + o.x), s.clampCy (c.y + o.y)⟩

/-- The cells around `c` that are seen from it. -/
def window (c : Vec2i) : List Vec2i :=
  (offsets s.aoiR).flatMap fun oy => (offsets s.aoiR).map fun ox => s.cellAt c ⟨ox, oy⟩

/-- The edge of the window of `c` on the side away from `c'`. -/
def edge (c' c : Vec2i) : List Vec2i :=
  (edgeOffsets s.aoiR (c.x - c'.x) (c.y - c'.y)).map (s.cellAt c)

/-- A window is made of the cells at the offsets, after the clamp. -/
theorem mem_window {c cell : Vec2i} :
    cell ∈ s.window c ↔
      ∃ o : Vec2i, o.x ∈ offsets s.aoiR ∧ o.y ∈ offsets s.aoiR ∧ s.cellAt c o = cell := by
  simp only [window, List.mem_flatMap, List.mem_map]
  constructor
  · rintro ⟨oy, hoy, ox, hox, h⟩
    exact ⟨⟨ox, oy⟩, hox, hoy, h⟩
  · rintro ⟨o, hox, hoy, h⟩
    exact ⟨o.y, hoy, o.x, hox, h⟩

/-- A window moved by at most one cell has no new cells other than those of
the edge on the side it moves to. -/
theorem mem_window_of_mem_window (hr : 0 ≤ s.aoiR) {c c' cell : Vec2i}
    (hx : IsUnitStep (c.x - c'.x)) (hy : IsUnitStep (c.y - c'.y)) (h : cell ∈ s.window c) :
    cell ∈ s.window c' ∨ cell ∈ s.edge c' c := by
  obtain ⟨o, hox, hoy, rfl⟩ := s.mem_window.mp h
  cases mem_offsets_add hr hx hox with
  | inr hend =>
      exact .inr (List.mem_map_of_mem (mem_edgeOffsets.mpr (.inl ⟨hend, hoy⟩)))
  | inl hox' =>
      cases mem_offsets_add hr hy hoy with
      | inr hend =>
          exact .inr (List.mem_map_of_mem (mem_edgeOffsets.mpr (.inr ⟨hox, hend⟩)))
      | inl hoy' =>
          refine .inl (s.mem_window.mpr ⟨⟨_, _⟩, hox', hoy', ?_⟩)
          have hcx : c'.x + (c.x - c'.x + o.x) = c.x + o.x := by grind
          have hcy : c'.y + (c.y - c'.y + o.y) = c.y + o.y := by grind
          simp only [cellAt, hcx, hcy]

omit s in
theorem mem_offsets_ends {r : Int32} (hr : 0 ≤ r) : r ∈ offsets r ∧ -r ∈ offsets r := by
  have hrle : 0 ≤ r.toInt := Int32.le_iff_toInt_le.mp hr
  simp only [mem_offsets hr, Int32.le_iff_toInt_le, toInt_neg_of_nonneg hr]
  omega

/-- The edge is part of the window. -/
theorem mem_window_of_mem_edge (hr : 0 ≤ s.aoiR) {c c' cell : Vec2i} (h : cell ∈ s.edge c' c) :
    cell ∈ s.window c := by
  obtain ⟨o, ho, rfl⟩ := List.mem_map.mp h
  have hends := mem_offsets_ends hr
  refine s.mem_window.mpr ⟨o, ?_, ?_, rfl⟩
  · rcases mem_edgeOffsets.mp ho with ⟨⟨-, hx⟩ | ⟨-, hx⟩, -⟩ | ⟨hx, -⟩
    · exact hx ▸ hends.1
    · exact hx ▸ hends.2
    · exact hx
  · rcases mem_edgeOffsets.mp ho with ⟨-, hy⟩ | ⟨-, ⟨-, hy⟩ | ⟨-, hy⟩⟩
    · exact hy
    · exact hy ▸ hends.1
    · exact hy ▸ hends.2

/-! ## What `init_sector` accepts -/

/-- The grid is as `init_sector` leaves it. -/
structure Ready : Prop where
  inited : s.inited = true
  aoiR_nonneg : 0 ≤ s.aoiR
  entered : s.enteredEdgeOffs = directions.map fun d => edgeOffsets s.aoiR d.1 d.2
  left : s.leftEdgeOffs = directions.map fun d => edgeOffsets s.aoiR (-d.1) (-d.2)

variable {s}

theorem max_zero_of_nonneg {r : Int32} (h : 0 ≤ r) : max 0 r = r := if_pos h

theorem ready_buildEdgeCaches (hr : 0 ≤ s.aoiR) :
    ({ s.buildEdgeCaches with inited := true } : SectorContainer).Ready where
  inited := rfl
  aoiR_nonneg := hr
  entered := by simp only [buildEdgeCaches, max_zero_of_nonneg hr]
  left := by simp only [buildEdgeCaches, max_zero_of_nonneg hr]

/-- A sector that was inited is ready. -/
theorem ready_of_initSector {rcSize : Vec2i} {unit radius : Int32}
    (h : initSector rcSize unit radius = some s) : s.Ready := by
  simp only [initSector] at h
  split_ifs at h with hunit hsize hradius
  · cases h
    exact ready_buildEdgeCaches Int32.le_rfl
  · cases h
    exact ready_buildEdgeCaches (Int32.not_lt.mp hradius)

theorem Ready.broadCells_eq (h : s.Ready) (c : Vec2i) :
    s.broadCells c.x c.y = (s.window c).map fun cell => cellKey cell.x cell.y := by
  simp only [broadCells, max_zero_of_nonneg h.aoiR_nonneg, window, cellAt, List.map_flatMap, List.map_map]
  rfl

theorem Ready.enteredEdgeOffsets_eq (h : s.Ready) {dx dy : Int32} (hx : IsUnitStep dx)
    (hy : IsUnitStep dy) : s.enteredEdgeOffsets dx dy = edgeOffsets s.aoiR dx dy := by
  rw [enteredEdgeOffsets, h.entered]
  rcases hx.eq with rfl | rfl | rfl <;> rcases hy.eq with rfl | rfl | rfl <;> rfl

theorem Ready.leftEdgeOffsets_eq (h : s.Ready) {dx dy : Int32} (hx : IsUnitStep dx)
    (hy : IsUnitStep dy) : s.leftEdgeOffsets dx dy = edgeOffsets s.aoiR (-dx) (-dy) := by
  rw [leftEdgeOffsets, h.left]
  rcases hx.eq with rfl | rfl | rfl <;> rcases hy.eq with rfl | rfl | rfl <;> rfl

end SectorContainer

end GameServer
