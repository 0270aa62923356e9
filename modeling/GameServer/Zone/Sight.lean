import Mathlib.Algebra.Order.Ring.Abs
import Mathlib.Tactic.Linarith
import GameServer.Zone.AoiMessages

/-!
# GameServer.Zone.Sight

Who is in sight of whom, as a matter of positions alone, and that the search
through the cells of the spatial index finds exactly them.

The machine integers of the search do not overflow for a radius up to
`2 ^ 30`: coordinates may be `2 ^ 32` apart, but those of two characters in
cells next to each other are not.

* `InSight` — on one map instance, at most the radius apart;
* `mem_buildVisible` — what the search finds, in numbers;
* `mem_visible_iff_inSight` — it finds the players in sight.
-/

namespace GameServer

/-! ## Cells around a position -/

/-- The loop over coordinates reaches every one between its bounds. -/
theorem mem_coordRange {lo hi c : Int32} :
    c ∈ coordRange lo hi ↔ lo.toInt ≤ c.toInt ∧ c.toInt ≤ hi.toInt := by
  have hlo := Int32.le_toInt lo
  have hhi := Int32.toInt_lt hi
  unfold coordRange
  rw [List.mem_map]
  constructor
  · rintro ⟨i, hi', rfl⟩
    rw [List.mem_range] at hi'
    rw [Int32.toInt_ofInt_of_le (by omega) (by omega)]
    omega
  · rintro ⟨hle, hge⟩
    refine ⟨(c.toInt - lo.toInt).toNat, ?_, ?_⟩
    · rw [List.mem_range]
      omega
    · rw [show lo.toInt + ((c.toInt - lo.toInt).toNat : Int) = c.toInt by omega, Int32.ofInt_toInt]

/-- The radius, as a number. -/
def sightRadius (cfg : AoiConfig) : Int := cfg.worldSightUnit.toInt * cfg.aoiRadiusCells.toInt

/-- The radii that the search is exact for. -/
def SightBounded (cfg : AoiConfig) : Prop := 4 ≤ sightRadius cfg ∧ sightRadius cfg ≤ 2 ^ 30

instance (cfg : AoiConfig) : Decidable (SightBounded cfg) := inferInstanceAs (Decidable (_ ∧ _))

section Radius

variable {cfg : AoiConfig} (h : SightBounded cfg)

include h

theorem toInt_aoiRadius : (aoiRadius cfg).toInt = sightRadius cfg := by
  obtain ⟨hlow, hhigh⟩ := h
  unfold aoiRadius
  rw [Int64.toInt_mul, Int32.toInt_toInt64, Int32.toInt_toInt64]
  exact Int.bmod_eq_of_le (by unfold sightRadius at *; omega) (by unfold sightRadius at *; omega)

/-- The cell is half the sight radius, rounded down. -/
theorem toInt_resolveAoiCellSize : (resolveAoiCellSize cfg).toInt = sightRadius cfg / 2 := by
  obtain ⟨hlow, hhigh⟩ := h
  have hone : (1 : Int32).toInt = 1 := rfl
  have htwo : (2 : Int32).toInt = 2 := rfl
  have hmul : (cfg.worldSightUnit * cfg.aoiRadiusCells).toInt = sightRadius cfg := by
    rw [Int32.toInt_mul]
    exact Int.bmod_eq_of_le (by unfold sightRadius at *; omega) (by unfold sightRadius at *; omega)
  have hmax : ∀ v : Int32, 1 ≤ v.toInt → (max 1 v) = v := by
    intro v hv
    rw [show max 1 v = if 1 ≤ v then v else 1 from rfl, if_pos]
    rw [Int32.le_iff_toInt_le, hone]
    exact hv
  have hhalf : (cfg.worldSightUnit * cfg.aoiRadiusCells / 2).toInt = sightRadius cfg / 2 := by
    rw [Int32.toInt_div_of_ne_right _ _ (by decide), hmul, htwo,
      Int.tdiv_eq_ediv_of_nonneg (by omega)]
  unfold resolveAoiCellSize
  dsimp only
  rw [hmax (cfg.worldSightUnit * cfg.aoiRadiusCells) (by rw [hmul]; omega),
    hmax (cfg.worldSightUnit * cfg.aoiRadiusCells / 2) (by rw [hhalf]; omega), hhalf]

/-- How many cells away the search goes: two or three, and as far as the
radius. -/
theorem rangeQuotient_spec :
    2 ≤ (sightRadius cfg + sightRadius cfg / 2 - 1) / (sightRadius cfg / 2) ∧
      (sightRadius cfg + sightRadius cfg / 2 - 1) / (sightRadius cfg / 2) < 4 ∧
        sightRadius cfg ≤
          (sightRadius cfg + sightRadius cfg / 2 - 1) / (sightRadius cfg / 2) *
            (sightRadius cfg / 2) := by
  obtain ⟨hlow, -⟩ := h
  set c := sightRadius cfg / 2 with hc
  set q := (sightRadius cfg + c - 1) / c with hq
  have hpos : 0 < c := by omega
  have hge : 2 ≤ q := (Int.le_ediv_iff_mul_le hpos).mpr (by omega)
  have hlt : q < 4 := Int.ediv_lt_of_lt_mul hpos (by omega)
  have hnext := Int.lt_ediv_add_one_mul_self (sightRadius cfg + c - 1) hpos
  rw [← hq, add_mul, one_mul] at hnext
  exact ⟨hge, hlt, by omega⟩

/-- The range is the radius in cells, rounded up. -/
theorem toInt_neighborRange :
    (neighborRange cfg).toInt =
      (sightRadius cfg + sightRadius cfg / 2 - 1) / (sightRadius cfg / 2) := by
  have hcell := toInt_resolveAoiCellSize h
  have hradius := toInt_aoiRadius h
  obtain ⟨hge, hlt, -⟩ := rangeQuotient_spec h
  obtain ⟨hlow, hhigh⟩ := h
  have hone : (1 : Int32).toInt = 1 := rfl
  have hone' : (1 : Int64).toInt = 1 := rfl
  have hsum : (aoiRadius cfg + (resolveAoiCellSize cfg).toInt64 - 1).toInt =
      sightRadius cfg + sightRadius cfg / 2 - 1 := by
    rw [Int64.toInt_sub, Int64.toInt_add, hradius, Int32.toInt_toInt64, hcell, hone',
      Int.bmod_eq_of_le (m := 2 ^ 64) (n := sightRadius cfg + sightRadius cfg / 2) (by omega)
        (by omega)]
    exact Int.bmod_eq_of_le (by omega) (by omega)
  set c := sightRadius cfg / 2 with hc
  set q := (sightRadius cfg + c - 1) / c with hq
  have hquot : ((aoiRadius cfg + (resolveAoiCellSize cfg).toInt64 - 1) /
      (resolveAoiCellSize cfg).toInt64).toInt32.toInt = q := by
    rw [Int64.toInt_toInt32, Int64.toInt_div, hsum, Int32.toInt_toInt64, hcell,
      Int.tdiv_eq_ediv_of_nonneg (by omega), ← hq,
      Int.bmod_eq_of_le (m := 2 ^ 64) (by omega) (by omega)]
    exact Int.bmod_eq_of_le (by omega) (by omega)
  unfold neighborRange
  dsimp only
  rw [show ∀ v : Int32, max 1 v = if 1 ≤ v then v else 1 from fun _ => rfl, if_pos, hquot]
  rw [Int32.le_iff_toInt_le, hone, hquot]
  omega

/-- The cells searched reach as far as the radius. -/
theorem neighborRange_spec :
    1 ≤ (neighborRange cfg).toInt ∧ (neighborRange cfg).toInt ≤ 3 ∧
      sightRadius cfg ≤ (neighborRange cfg).toInt * (sightRadius cfg / 2) := by
  obtain ⟨hge, hlt, hreach⟩ := rangeQuotient_spec h
  rw [toInt_neighborRange h]
  exact ⟨by omega, by omega, hreach⟩

/-- The cells are far from the limits of 32 bits. -/
theorem cellCoord_bounds (v : Int32) :
    -2 ^ 30 ≤ v.toInt / (sightRadius cfg / 2) ∧ v.toInt / (sightRadius cfg / 2) < 2 ^ 30 := by
  obtain ⟨hlow, -⟩ := h
  have hv := Int32.le_toInt v
  have hv' := Int32.toInt_lt v
  set c := sightRadius cfg / 2
  have hc : 2 ≤ c := by omega
  exact ⟨Int.le_ediv_of_mul_le (by omega) (by nlinarith),
    Int.ediv_lt_of_lt_mul (by omega) (by nlinarith)⟩

/-- The bounds of the loops over the cells. -/
theorem toInt_searchBounds (v : Int32) :
    (resolveSpatialCellCoord v (resolveAoiCellSize cfg) - neighborRange cfg).toInt =
        v.toInt / (sightRadius cfg / 2) - (neighborRange cfg).toInt ∧
      (resolveSpatialCellCoord v (resolveAoiCellSize cfg) + neighborRange cfg).toInt =
        v.toInt / (sightRadius cfg / 2) + (neighborRange cfg).toInt := by
  have hcell := cellCoord_bounds h v
  have hsize := toInt_resolveAoiCellSize h
  obtain ⟨hone, hthree, -⟩ := neighborRange_spec h
  rw [Int32.toInt_sub, Int32.toInt_add,
    toInt_resolveSpatialCellCoord v (resolveAoiCellSize_pos cfg), hsize]
  exact ⟨Int.bmod_eq_of_le (by omega) (by omega), Int.bmod_eq_of_le (by omega) (by omega)⟩

/-! ## The distance test -/

omit h in
/-- Two coordinates are in cells within the range searched. -/
def CellNear (cfg : AoiConfig) (u v : Int32) : Prop :=
  v.toInt / (sightRadius cfg / 2) - (neighborRange cfg).toInt ≤ u.toInt / (sightRadius cfg / 2) ∧
    u.toInt / (sightRadius cfg / 2) ≤ v.toInt / (sightRadius cfg / 2) + (neighborRange cfg).toInt

/-- What is in sight is in a neighbouring cell. -/
theorem cellNear_of_near {u v : Int32} (hle : u.toInt - v.toInt ≤ sightRadius cfg)
    (hge : v.toInt - u.toInt ≤ sightRadius cfg) : CellNear cfg u v := by
  obtain ⟨-, -, hreach⟩ := neighborRange_spec h
  have hpos : 0 < sightRadius cfg / 2 := by
    obtain ⟨hlow, -⟩ := h
    omega
  set c := sightRadius cfg / 2
  have hshift : ∀ a b : Int, a ≤ b + sightRadius cfg →
      a / c ≤ b / c + (neighborRange cfg).toInt := by
    intro a b hab
    calc a / c ≤ (b + (neighborRange cfg).toInt * c) / c :=
          Int.ediv_le_ediv hpos (by omega)
      _ = b / c + (neighborRange cfg).toInt := Int.add_mul_ediv_right _ _ hpos.ne'
  have hup := hshift u.toInt v.toInt (by omega)
  have hdown := hshift v.toInt u.toInt (by omega)
  exact ⟨Int.sub_right_le_of_le_add hdown, hup⟩

/-- Between neighbouring cells the difference of coordinates does not overflow. -/
theorem lt_of_cellNear {u v : Int32} (hnear : CellNear cfg u v) :
    -2 ^ 31 < u.toInt - v.toInt ∧ u.toInt - v.toInt < 2 ^ 31 := by
  obtain ⟨-, hrange, -⟩ := neighborRange_spec h
  obtain ⟨hlow, hhigh⟩ := h
  obtain ⟨hdown, hup⟩ := hnear
  set c := sightRadius cfg / 2
  have hpos : 0 < c := by omega
  -- A coordinate is less than one cell above the start of its cell.
  have hcell : ∀ a : Int, a / c * c ≤ a ∧ a < a / c * c + c := by
    intro a
    refine ⟨Int.ediv_mul_le a hpos.ne', ?_⟩
    have hnext := Int.lt_ediv_add_one_mul_self a hpos
    rwa [add_mul, one_mul] at hnext
  have hfar : ∀ a b : Int, a / c ≤ b / c + (neighborRange cfg).toInt → a - b < 2 ^ 31 := by
    intro a b hab
    have hmul : a / c * c ≤ b / c * c + 3 * c := by
      calc a / c * c ≤ (b / c + 3) * c :=
            Int.mul_le_mul_of_nonneg_right (by omega) hpos.le
        _ = b / c * c + 3 * c := add_mul _ _ _
    have ha := hcell a
    have hb := hcell b
    omega
  have h₁ := hfar u.toInt v.toInt hup
  have h₂ := hfar v.toInt u.toInt (by omega)
  exact ⟨by omega, h₁⟩

/-- The test of the search is the test on numbers: no square overflows. -/
theorem withinRadius_iff {other : PlayerBindingState} {x y : Int32}
    (hx : -2 ^ 31 < other.x.toInt - x.toInt ∧ other.x.toInt - x.toInt < 2 ^ 31)
    (hy : -2 ^ 31 < other.y.toInt - y.toInt ∧ other.y.toInt - y.toInt < 2 ^ 31) :
    withinRadius cfg other x y ↔
      (other.x.toInt - x.toInt) ^ 2 + (other.y.toInt - y.toInt) ^ 2 ≤ sightRadius cfg ^ 2 := by
  have hradius := toInt_aoiRadius h
  obtain ⟨hlow, hhigh⟩ := h
  have hdiff : ∀ u v : Int32, (u.toInt64 - v.toInt64).toInt = u.toInt - v.toInt := by
    intro u v
    have hu := Int32.le_toInt u
    have hu' := Int32.toInt_lt u
    have hv := Int32.le_toInt v
    have hv' := Int32.toInt_lt v
    rw [Int64.toInt_sub, Int32.toInt_toInt64, Int32.toInt_toInt64]
    exact Int.bmod_eq_of_le (by omega) (by omega)
  have hsq : ∀ a : Int, -2 ^ 31 < a → a < 2 ^ 31 → 0 ≤ a * a ∧ a * a < 2 ^ 62 := by
    intro a ha ha'
    exact ⟨mul_self_nonneg a, by nlinarith⟩
  have hx2 := hsq _ hx.1 hx.2
  have hy2 := hsq _ hy.1 hy.2
  have hr2 := hsq (sightRadius cfg) (by omega) (by omega)
  have hsquare : ∀ u v : Int32, (u.toInt - v.toInt) * (u.toInt - v.toInt) < 2 ^ 62 →
      ((u.toInt64 - v.toInt64) * (u.toInt64 - v.toInt64)).toInt =
        (u.toInt - v.toInt) * (u.toInt - v.toInt) := by
    intro u v hlt
    have hnonneg := mul_self_nonneg (u.toInt - v.toInt)
    rw [Int64.toInt_mul, hdiff]
    exact Int.bmod_eq_of_le (by omega) (by omega)
  unfold withinRadius
  dsimp only
  rw [Bool.not_eq_true', decide_eq_false_iff_not, gt_iff_lt, Int64.lt_iff_toInt_lt, not_lt,
    Int64.toInt_add, hsquare _ _ hx2.2, hsquare _ _ hy2.2, Int64.toInt_mul, hradius,
    Int.bmod_eq_of_le (m := 2 ^ 64) (by omega) (by omega),
    Int.bmod_eq_of_le (m := 2 ^ 64) (by omega) (by omega), sq, sq, sq]

end Radius

namespace ZoneRuntime

variable {cfg : ZoneConfig} {z : ZoneRuntime}

/-! ## What the search finds -/

/-- The candidates are the characters with a position in a cell near by. -/
theorem mem_candidateIds (hr : SightBounded cfg.aoi) (hexact : z.SpatialExact cfg)
    {id mapKey : UInt64} {x y : Int32} :
    id ∈ z.candidateIds cfg mapKey x y ↔ ∃ b, z.playerBindings.lookup id = some b ∧
      b.hasPosition ∧ b.mapKey = mapKey ∧ CellNear cfg.aoi b.x x ∧ CellNear cfg.aoi b.y y := by
  have hsize := toInt_resolveAoiCellSize hr
  have hpos := resolveAoiCellSize_pos cfg.aoi
  have hbounds := toInt_searchBounds hr
  unfold candidateIds
  simp only [ZoneConfig.cellOf, List.mem_dedup, List.mem_flatMap, mem_coordRange, (hbounds x).1,
    (hbounds x).2, (hbounds y).1, (hbounds y).2]
  constructor
  · rintro ⟨cy, hcy, cx, hcx, hid⟩
    obtain ⟨b, hb, hposition, hmap, hx, hy⟩ := (hexact mapKey cx cy id).mp hid
    rw [hsize] at hx hy
    refine ⟨b, hb, hposition, hmap, ?_, ?_⟩
    · rwa [hx] at hcx
    · rwa [hy] at hcy
  · rintro ⟨b, hb, hposition, hmap, hx, hy⟩
    have hcell := fun v : Int32 => toInt_resolveSpatialCellCoord v hpos
    refine ⟨resolveSpatialCellCoord b.y (resolveAoiCellSize cfg.aoi), ?_,
      resolveSpatialCellCoord b.x (resolveAoiCellSize cfg.aoi), ?_, ?_⟩
    · rwa [hcell, hsize]
    · rwa [hcell, hsize]
    · exact (hexact _ _ _ id).mpr ⟨b, hb, hposition, hmap, hcell b.x, hcell b.y⟩

/-- **The search is exact**: it finds the other characters of the map
instance whose distance is at most the radius. -/
theorem mem_buildVisible (hr : SightBounded cfg.aoi) (hexact : z.SpatialExact cfg)
    {id charId mapKey : UInt64} {x y : Int32} :
    id ∈ z.buildVisibleActorIdsForPosition cfg charId mapKey x y ↔
      id ≠ 0 ∧ id ≠ charId ∧ ∃ b, z.playerBindings.lookup id = some b ∧ b.hasPosition ∧
        b.mapKey = mapKey ∧
        (b.x.toInt - x.toInt) ^ 2 + (b.y.toInt - y.toInt) ^ 2 ≤ sightRadius cfg.aoi ^ 2 := by
  unfold buildVisibleActorIdsForPosition
  rw [(nodup_mem_sanitizeEntityIds _).2, List.mem_filter, mem_candidateIds hr hexact]
  refine and_congr_right fun _ => ?_
  cases hb : z.playerBindings.lookup id with
  | none => simp
  | some b =>
      simp only [Option.some.injEq, exists_eq_left', Bool.and_eq_true, bne_iff_ne, ne_eq,
        beq_iff_eq]
      constructor
      · rintro ⟨⟨-, -, hx, hy⟩, ⟨⟨hne, hmap⟩, hposition⟩, hwithin⟩
        exact ⟨hne, hposition, hmap,
          (withinRadius_iff hr (lt_of_cellNear hr hx) (lt_of_cellNear hr hy)).mp hwithin⟩
      · rintro ⟨hne, hposition, hmap, hdist⟩
        have hnonneg : 0 ≤ sightRadius cfg.aoi := by
          obtain ⟨hlow, -⟩ := hr
          omega
        -- Neither coordinate is further away than the radius.
        have hleg : ∀ u v : Int, u ^ 2 + v ^ 2 ≤ sightRadius cfg.aoi ^ 2 →
            u ≤ sightRadius cfg.aoi ∧ -u ≤ sightRadius cfg.aoi := by
          intro u v huv
          have hle : u ^ 2 ≤ sightRadius cfg.aoi ^ 2 := by
            have := sq_nonneg v
            omega
          obtain ⟨hge, hle⟩ := abs_le_of_sq_le_sq' hle hnonneg
          exact ⟨hle, by omega⟩
        obtain ⟨hx, hx'⟩ := hleg _ _ hdist
        obtain ⟨hy, hy'⟩ := hleg _ _ ((add_comm _ _).le.trans hdist)
        have hnearx : CellNear cfg.aoi b.x x := cellNear_of_near hr hx (by omega)
        have hneary : CellNear cfg.aoi b.y y := cellNear_of_near hr hy (by omega)
        exact ⟨⟨hposition, hmap, hnearx, hneary⟩, ⟨⟨hne, hmap⟩, hposition⟩,
          (withinRadius_iff hr (lt_of_cellNear hr hnearx) (lt_of_cellNear hr hneary)).mpr hdist⟩

/-! ## Sight -/

/-- Two players have positions on one map instance, at most the radius
apart. -/
def Near (cfg : AoiConfig) (b b' : PlayerBindingState) : Prop :=
  b.hasPosition ∧ b'.hasPosition ∧ b'.mapKey = b.mapKey ∧
    (b'.x.toInt - b.x.toInt) ^ 2 + (b'.y.toInt - b.y.toInt) ^ 2 ≤ sightRadius cfg ^ 2

instance (cfg : AoiConfig) (b b' : PlayerBindingState) : Decidable (Near cfg b b') :=
  inferInstanceAs (Decidable (_ ∧ _ ∧ _ ∧ _))

/-- Another player is within the radius of a player. -/
def InSight (cfg : ZoneConfig) (z : ZoneRuntime) (id other : UInt64) : Prop :=
  other ≠ id ∧ ∃ b ∈ z.playerBindings.lookup id, ∃ b' ∈ z.playerBindings.lookup other,
    Near cfg.aoi b b'

instance (id other : UInt64) : Decidable (z.InSight cfg id other) :=
  inferInstanceAs (Decidable (_ ∧ _))

/-- Sight is mutual. -/
theorem Near.symm {cfg : AoiConfig} {b b' : PlayerBindingState} (h : Near cfg b b') :
    Near cfg b' b := by
  obtain ⟨hb, hb', hmap, hdist⟩ := h
  refine ⟨hb', hb, hmap.symm, ?_⟩
  calc (b.x.toInt - b'.x.toInt) ^ 2 + (b.y.toInt - b'.y.toInt) ^ 2
      = (b'.x.toInt - b.x.toInt) ^ 2 + (b'.y.toInt - b.y.toInt) ^ 2 := by
        rw [sub_sq_comm b.x.toInt, sub_sq_comm b.y.toInt]
    _ ≤ sightRadius cfg ^ 2 := hdist

/-- Sight is mutual. -/
theorem InSight.symm {id other : UInt64} (h : z.InSight cfg id other) :
    z.InSight cfg other id := by
  obtain ⟨hne, b, hb, b', hb', hnear⟩ := h
  exact ⟨hne.symm, b', hb', b, hb, hnear.symm⟩

/-- The visible actors are those in sight, if the index is exact. -/
theorem mem_visible_iff_inSight (hr : SightBounded cfg.aoi) (hexact : z.SpatialExact cfg)
    {id charId : UInt64} {b : PlayerBindingState} (hb : z.playerBindings.lookup charId = some b)
    (hpos : b.hasPosition) (hzero : id = 0 → z.playerBindings.lookup id = none) :
    id ∈ z.buildVisibleActorIdsForPosition cfg charId b.mapKey b.x b.y ↔
      z.InSight cfg charId id := by
  rw [mem_buildVisible hr hexact]
  simp only [InSight, hb, Option.mem_def, Option.some.injEq, exists_eq_left', Near, hpos, true_and]
  constructor
  · rintro ⟨-, hsight⟩
    exact hsight
  · rintro ⟨hne, b', hb', hnear⟩
    refine ⟨fun hid => ?_, hne, b', hb', hnear⟩
    rw [hzero hid] at hb'
    cases hb'

end ZoneRuntime

end GameServer
