import GameServer.Lib.Signed
import GameServer.Zone.Sight

/-!
# GameServer.Zone.CheckedSight

The search for the players in sight, with every machine operation checked,
against a scan of all players in unbounded integers.

* `checkedVisible` — `BuildVisibleActorIdsForPosition_`, which has no result
  where an operation overflows;
* `fullScan` — the players within the radius;
* `checkedVisible_eq_fullScan` — the two agree, and nothing overflows.
-/

namespace GameServer

/-! ## The search, checked -/

/-- `ResolveAoiCellSize_`. -/
def checkedCellSize (cfg : AoiConfig) : Option Int := do
  let product ← signed 32 (cfg.worldSightUnit.toInt * cfg.aoiRadiusCells.toInt)
  let radiusM := max 1 product
  let half ← signed 32 (radiusM.tdiv 2)
  return max 1 half

/-- `ResolveSpatialCellCoord_`. -/
def checkedCellCoord (value cellSize : Int) : Option Int :=
  if cellSize ≤ 0 then some 0
  else do
    let q ← signed 64 (value.tdiv cellSize)
    let r ← signed 64 (value.tmod cellSize)
    let q ← if r ≠ 0 ∧ decide (r > 0) ≠ decide (cellSize > 0) then signed 64 (q - 1) else some q
    signed 32 q

/-- `radius_m`. -/
def checkedRadius (cfg : AoiConfig) : Option Int :=
  signed 64 (cfg.worldSightUnit.toInt * cfg.aoiRadiusCells.toInt)

/-- `neighbor_range`. -/
def checkedNeighborRange (radiusM cellSize : Int) : Option Int := do
  let sum ← signed 64 (radiusM + cellSize)
  let sum ← signed 64 (sum - 1)
  let quotient ← signed 64 (sum.tdiv cellSize)
  let quotient ← signed 32 quotient
  return max 1 quotient

/-- The values of a loop `for (c = cell - range; c <= cell + range; ++c)`;
the last increment goes one further. -/
def checkedLoop (cell range : Int) : Option (List Int) := do
  let lo ← signed 32 (cell - range)
  let hi ← signed 32 (cell + range)
  let _ ← signed 32 (hi + 1)
  return (List.range (hi - lo + 1).toNat).map fun i : Nat => lo + i

/-- The distance test. -/
def checkedWithin (radiusSq : Int) (other : PlayerBindingState) (x y : Int) : Option Bool := do
  let dx ← signed 64 (other.x.toInt - x)
  let dy ← signed 64 (other.y.toInt - y)
  let dx2 ← signed 64 (dx * dx)
  let dy2 ← signed 64 (dy * dy)
  let sum ← signed 64 (dx2 + dy2)
  return !decide (sum > radiusSq)

namespace ZoneRuntime

/-- Whether a candidate is in sight. -/
def checkedKeep (z : ZoneRuntime) (radiusSq : Int) (charId mapKey : UInt64) (x y : Int)
    (otherCharId : UInt64) : Option Bool :=
  match z.playerBindings.lookup otherCharId with
  | none => some false
  | some other =>
      if otherCharId == charId then some false
      else if other.mapKey != mapKey || !other.hasPosition then some false
      else checkedWithin radiusSq other x y

/-- `BuildVisibleActorIdsForPosition_`. -/
def checkedVisible (cfg : ZoneConfig) (z : ZoneRuntime) (charId mapKey : UInt64) (x y : Int32) :
    Option (List UInt64) := do
  let cellSize ← checkedCellSize cfg.aoi
  let radiusM ← checkedRadius cfg.aoi
  let radiusSq ← signed 64 (radiusM * radiusM)
  let queryCellX ← checkedCellCoord x.toInt cellSize
  let queryCellY ← checkedCellCoord y.toInt cellSize
  let range ← checkedNeighborRange radiusM cellSize
  let cellYs ← checkedLoop queryCellY range
  let cellXs ← checkedLoop queryCellX range
  let candidateIds := (cellYs.flatMap fun cellY => cellXs.flatMap fun cellX =>
    z.spatialIndex.listed mapKey (Int32.ofInt cellX) (Int32.ofInt cellY)).dedup
  let ids ← filterChecked (z.checkedKeep radiusSq charId mapKey x.toInt y.toInt) candidateIds
  return sanitizeEntityIds ids

/-- All players that are within the radius of a position, other than one of
them. -/
def fullScan (cfg : ZoneConfig) (z : ZoneRuntime) (charId mapKey : UInt64) (x y : Int32) :
    List UInt64 :=
  z.playerBindings.keys.filter fun id =>
    id ≠ 0 ∧ id ≠ charId ∧ ∃ b ∈ z.playerBindings.lookup id, b.mapKey = mapKey ∧ b.hasPosition ∧
      (b.x.toInt - x.toInt) * (b.x.toInt - x.toInt) +
          (b.y.toInt - y.toInt) * (b.y.toInt - y.toInt) ≤
        sightRadius cfg.aoi * sightRadius cfg.aoi

end ZoneRuntime

/-! ## Nothing overflows -/

section Radius

variable {cfg : AoiConfig} (h : SightBounded cfg)

include h

theorem checkedRadius_eq : checkedRadius cfg = some (sightRadius cfg) := by
  obtain ⟨hlow, hhigh⟩ := h
  exact signed64_eq (by unfold sightRadius at hlow; omega) (by unfold sightRadius at hhigh; omega)

/-- The cell size is computed without overflow. -/
theorem checkedCellSize_eq : checkedCellSize cfg = some (sightRadius cfg / 2) := by
  obtain ⟨hlow, hhigh⟩ := h
  have hproduct : signed 32 (cfg.worldSightUnit.toInt * cfg.aoiRadiusCells.toInt) =
      some (sightRadius cfg) :=
    signed32_eq (by unfold sightRadius at hlow; omega) (by unfold sightRadius at hhigh; omega)
  have hmax : max 1 (sightRadius cfg) = sightRadius cfg := max_eq_right (by omega)
  have hhalf : (sightRadius cfg).tdiv 2 = sightRadius cfg / 2 :=
    Int.tdiv_eq_ediv_of_nonneg (by omega)
  simp only [checkedCellSize, hproduct, Option.bind_eq_bind, Option.bind_some, hmax, hhalf]
  rw [signed32_eq (by omega) (by omega), Option.bind_some, max_eq_right (by omega)]
  rfl

/-- So is the range. -/
theorem checkedNeighborRange_eq :
    checkedNeighborRange (sightRadius cfg) (sightRadius cfg / 2) =
      some (neighborRange cfg).toInt := by
  obtain ⟨hge, hlt, -⟩ := rangeQuotient_spec h
  rw [toInt_neighborRange h]
  obtain ⟨hlow, hhigh⟩ := h
  simp only [checkedNeighborRange, Option.bind_eq_bind]
  rw [signed64_eq (by omega) (by omega), Option.bind_some, signed64_eq (by omega) (by omega),
    Option.bind_some, Int.tdiv_eq_ediv_of_nonneg (by omega), signed64_eq (by omega) (by omega),
    Option.bind_some, signed32_eq (by omega) (by omega), Option.bind_some,
    max_eq_right (by omega)]
  rfl

end Radius

/-- A cell coordinate is a 32-bit number, and so is every step to it. -/
theorem checkedCellCoord_eq (value : Int32) {c : Int} (hc : 0 < c) (hc' : c < 2 ^ 31) :
    checkedCellCoord value.toInt c = some (value.toInt / c) := by
  have hlow := Int32.le_toInt value
  have hhigh := Int32.toInt_lt value
  have hfloor_low : -2 ^ 31 ≤ value.toInt / c := Int.le_ediv_of_mul_le hc (by omega)
  have hfloor_high : value.toInt / c < 2 ^ 31 := Int.ediv_lt_of_lt_mul hc (by omega)
  have hfloor := ediv_eq_of_tdiv (v := value.toInt) hc
  have hlt := Int.tmod_lt_of_pos value.toInt hc
  have hgt := Int.lt_tmod_of_pos value.toInt hc
  have hq : signed 64 (value.toInt.tdiv c) = some (value.toInt.tdiv c) := by
    split_ifs at hfloor
    · exact signed64_eq (by omega) (by omega)
    · exact signed64_eq (by omega) (by omega)
  have hr : signed 64 (value.toInt.tmod c) = some (value.toInt.tmod c) :=
    signed64_eq (by omega) (by omega)
  have hcond : (value.toInt.tmod c ≠ 0 ∧ decide (value.toInt.tmod c > 0) ≠ decide (c > 0)) ↔
      value.toInt.tmod c < 0 := by
    rw [decide_eq_true (show c > 0 from hc), ne_eq, ne_eq, decide_eq_true_eq]
    omega
  unfold checkedCellCoord
  rw [if_neg (not_le.mpr hc)]
  simp only [hq, hr, hcond, Option.bind_eq_bind, Option.bind_some]
  split_ifs at hfloor ⊢ with hneg
  · rw [← hfloor, signed64_eq (by omega) (by omega), Option.bind_some]
    exact signed32_eq hfloor_low hfloor_high
  · rw [← hfloor]
    exact signed32_eq hfloor_low hfloor_high

section Radius

variable {cfg : AoiConfig} (h : SightBounded cfg)

include h

/-- The loops run over the same cells. -/
theorem checkedLoop_eq (v : Int32) :
    ∃ cs, checkedLoop (v.toInt / (sightRadius cfg / 2)) (neighborRange cfg).toInt = some cs ∧
      cs.map Int32.ofInt =
        coordRange (resolveSpatialCellCoord v (resolveAoiCellSize cfg) - neighborRange cfg)
          (resolveSpatialCellCoord v (resolveAoiCellSize cfg) + neighborRange cfg) := by
  obtain ⟨hlow, hhigh⟩ := toInt_searchBounds h v
  have hcell := cellCoord_bounds h v
  obtain ⟨hone, hthree, -⟩ := neighborRange_spec h
  set cell := v.toInt / (sightRadius cfg / 2)
  set range := (neighborRange cfg).toInt
  refine ⟨(List.range (cell + range - (cell - range) + 1).toNat).map fun i : Nat =>
    cell - range + i, ?_, ?_⟩
  · simp only [checkedLoop, Option.bind_eq_bind]
    rw [signed32_eq (by omega) (by omega), Option.bind_some, signed32_eq (by omega) (by omega),
      Option.bind_some, signed32_eq (by omega) (by omega), Option.bind_some]
    rfl
  · rw [coordRange, hlow, hhigh, List.map_map]
    rfl

/-- Between cells that are near, the distance test does not overflow. -/
theorem checkedWithin_eq {other : PlayerBindingState} {x y : Int32}
    (hx : CellNear cfg other.x x) (hy : CellNear cfg other.y y) :
    checkedWithin (sightRadius cfg * sightRadius cfg) other x.toInt y.toInt =
      some (withinRadius cfg other x y) := by
  have hx := lt_of_cellNear h hx
  have hy := lt_of_cellNear h hy
  have hsq : ∀ a : Int, -2 ^ 31 < a → a < 2 ^ 31 → 0 ≤ a * a ∧ a * a < 2 ^ 62 :=
    fun a ha ha' => ⟨mul_self_nonneg a, by nlinarith⟩
  have hx2 := hsq _ hx.1 hx.2
  have hy2 := hsq _ hy.1 hy.2
  have htest : (!decide ((other.x.toInt - x.toInt) * (other.x.toInt - x.toInt) +
      (other.y.toInt - y.toInt) * (other.y.toInt - y.toInt) >
        sightRadius cfg * sightRadius cfg)) = withinRadius cfg other x y := by
    rw [Bool.eq_iff_iff, withinRadius_iff h hx hy, Bool.not_eq_true', decide_eq_false_iff_not,
      gt_iff_lt, not_lt, sq, sq, sq]
  simp only [checkedWithin, Option.bind_eq_bind]
  rw [signed64_eq (by omega) (by omega), Option.bind_some, signed64_eq (by omega) (by omega),
    Option.bind_some, signed64_eq (by omega) (by omega), Option.bind_some,
    signed64_eq (by omega) (by omega), Option.bind_some, signed64_eq (by omega) (by omega),
    Option.bind_some, htest]
  rfl

end Radius

/-! ## The search and the scan -/

namespace ZoneRuntime

variable {cfg : ZoneConfig} {z : ZoneRuntime}

/-- The checked search finds what the search finds. -/
theorem checkedVisible_eq (hr : SightBounded cfg.aoi) (hexact : z.SpatialExact cfg)
    (charId mapKey : UInt64) (x y : Int32) :
    z.checkedVisible cfg charId mapKey x y =
      some (z.buildVisibleActorIdsForPosition cfg charId mapKey x y) := by
  obtain ⟨xs, hxs, hxs'⟩ := checkedLoop_eq hr x
  obtain ⟨ys, hys, hys'⟩ := checkedLoop_eq hr y
  have hcandidates : (ys.flatMap fun cellY => xs.flatMap fun cellX =>
      z.spatialIndex.listed mapKey (Int32.ofInt cellX) (Int32.ofInt cellY)).dedup =
        z.candidateIds cfg mapKey x y := by
    simp only [candidateIds, ZoneConfig.cellOf, ← hxs', ← hys', List.flatMap_map]
  -- Only candidates are tested, and those are in cells near by.
  have hkeep : ∀ id ∈ z.candidateIds cfg mapKey x y,
      z.checkedKeep (sightRadius cfg.aoi * sightRadius cfg.aoi) charId mapKey x.toInt y.toInt id =
        some (match z.playerBindings.lookup id with
          | none => false
          | some other => id != charId && other.mapKey == mapKey && other.hasPosition &&
              withinRadius cfg.aoi other x y) := by
    intro id hid
    obtain ⟨b, hb, hposition, hmap, hx, hy⟩ := (mem_candidateIds hr hexact).mp hid
    simp only [checkedKeep, hb, hposition, hmap, checkedWithin_eq hr hx hy]
    by_cases hself : id = charId
    · simp [hself]
    · simp [hself]
  have hsquare : signed 64 (sightRadius cfg.aoi * sightRadius cfg.aoi) =
      some (sightRadius cfg.aoi * sightRadius cfg.aoi) := by
    obtain ⟨hlow, hhigh⟩ := hr
    exact signed64_eq (by nlinarith) (by nlinarith)
  have hsize : 0 < sightRadius cfg.aoi / 2 ∧ sightRadius cfg.aoi / 2 < 2 ^ 31 := by
    obtain ⟨hlow, hhigh⟩ := hr
    omega
  simp only [checkedVisible, checkedCellSize_eq hr, checkedRadius_eq hr, hsquare,
    checkedCellCoord_eq _ hsize.1 hsize.2, checkedNeighborRange_eq hr, hxs, hys, hcandidates,
    filterChecked_eq hkeep, Option.bind_eq_bind, Option.bind_some]
  rfl

/-- The full scan compares the squared distance over the integers. -/
theorem mem_fullScan {id charId mapKey : UInt64} {x y : Int32} :
    id ∈ z.fullScan cfg charId mapKey x y ↔
      id ≠ 0 ∧ id ≠ charId ∧ ∃ b, z.playerBindings.lookup id = some b ∧ b.hasPosition ∧
        b.mapKey = mapKey ∧
        (b.x.toInt - x.toInt) ^ 2 + (b.y.toInt - y.toInt) ^ 2 ≤ sightRadius cfg.aoi ^ 2 := by
  unfold fullScan
  rw [List.mem_filter, decide_eq_true_eq]
  simp only [sq]
  constructor
  · rintro ⟨-, hzero, hself, b, hb, hmap, hposition, hdist⟩
    exact ⟨hzero, hself, b, hb, hposition, hmap, hdist⟩
  · rintro ⟨hzero, hself, b, hb, hposition, hmap, hdist⟩
    refine ⟨?_, hzero, hself, b, hb, hmap, hposition, hdist⟩
    exact AList.mem_keys.mp (AList.lookup_isSome.mp (by rw [hb]; rfl))

/-- **The spatial query is exact.**  With an exact index and a radius between
`4` and `2 ^ 30`, no operation of the search overflows, nobody is found
twice, and it finds whom a scan of all players finds. -/
theorem checkedVisible_eq_fullScan (cfg : ZoneConfig) (z : ZoneRuntime)
    (hr : SightBounded cfg.aoi) (hexact : z.SpatialExact cfg) (charId mapKey : UInt64)
    (x y : Int32) :
    z.checkedVisible cfg charId mapKey x y =
        some (z.buildVisibleActorIdsForPosition cfg charId mapKey x y) ∧
      (z.buildVisibleActorIdsForPosition cfg charId mapKey x y).Nodup ∧
        (z.buildVisibleActorIdsForPosition cfg charId mapKey x y).Perm
          (z.fullScan cfg charId mapKey x y) := by
  have hnodup : (z.buildVisibleActorIdsForPosition cfg charId mapKey x y).Nodup :=
    (nodup_mem_sanitizeEntityIds _).1
  refine ⟨checkedVisible_eq hr hexact charId mapKey x y, hnodup, ?_⟩
  have hscan : (z.fullScan cfg charId mapKey x y).Nodup := z.playerBindings.keys_nodup.filter _
  refine (List.perm_ext_iff_of_nodup hnodup hscan).mpr fun id => ?_
  rw [mem_buildVisible hr hexact, mem_fullScan]

/-- Players 11 and 12 enter map 1 and go to places on both sides of the
corner of four cells. -/
def enterAround : List Event :=
  [.mapAssign 0 { mapTemplateId := 1, createIfMissing := 1 },
    .playerEnter 0 { charId := 11, mapTemplateId := 1 },
    .playerMoveInternal 0 { charId := 11, mapTemplateId := 1, x := 5, y := 5 },
    .playerEnter 0 { charId := 12, mapTemplateId := 1 },
    .playerMoveInternal 0 { charId := 12, mapTemplateId := 1, x := -20, y := -30 }]

example : (run (step twoMaps) {} enterAround).checkedVisible twoMaps 11
    (makeMapInstanceKey 1 0) 5 5 = some [12] := by decide

theorem checkedVisible_enterAround :
    (run (step twoMaps) {} enterAround).checkedVisible twoMaps 11 (makeMapInstanceKey 1 0) 5 5 =
      some ((run (step twoMaps) {} enterAround).buildVisibleActorIdsForPosition twoMaps 11
        (makeMapInstanceKey 1 0) 5 5) :=
  (checkedVisible_eq_fullScan twoMaps _ (by decide) (spatialExact_run (by decide)).1 11 _ 5 5).1

end ZoneRuntime

end GameServer
