import Mathlib.Data.List.Basic
import Mathlib.Tactic.Common

/-!
# GameServer.Data.ZoneData

The zone data (`server_common/data/zone_runtime_data.h`): six tables of maps,
portals and regions, how the builder completes the portals and how the servers
look regions up.

* `ZoneRegionRecord`, `ZonePortalRecord`, `ZoneRuntimeDataPack` -- the records
* `resolvePortalDestinations` -- the builder's loop over the portals
* `findCircularRegion` -- the first region a position is in
* `resolvePortals_eq_map` -- the loop looks at nothing that it changes
-/

namespace GameServer.Data

/-! ## Records -/

/-- `kZoneRuntimeDataMagic`. -/
def zoneRuntimeDataMagic : UInt32 := 0x31444E5A

/-- `kZoneRuntimeDataVersion`. -/
def zoneRuntimeDataVersion : UInt32 := 1

/-- `ZoneRuntimeDataHeader`. -/
structure ZoneRuntimeDataHeader where
  magic : UInt32 := zoneRuntimeDataMagic
  version : UInt32 := zoneRuntimeDataVersion
  mapCount : UInt32 := 0
  portalCount : UInt32 := 0
  npcCount : UInt32 := 0
  monsterCount : UInt32 := 0
  safeCount : UInt32 := 0
  specialCount : UInt32 := 0
deriving DecidableEq, Repr

/-- `ZoneMapRecord`. -/
structure ZoneMapRecord where
  zoneId : UInt32 := 0
  mapId : UInt32 := 0
deriving DecidableEq, Repr

/-- The fields that all region records have. -/
structure ZoneRegionRecord where
  zoneId : UInt32 := 0
  mapId : UInt32 := 0
  regionId : UInt32 := 0
  value01 : Int32 := 0
  value02 : Int32 := 0
  value03 : Int32 := 0
  value04 : Int32 := 0
  centerX : Int32 := 0
  centerY : Int32 := 0
  centerZ : Int32 := 0
  radius : Int32 := 0
deriving DecidableEq, Repr

/-- `ZonePortalRecord`. -/
structure ZonePortalRecord extends ZoneRegionRecord where
  destZoneId : UInt32 := 0
  destMapId : UInt32 := 0
  destX : Int32 := 0
  destY : Int32 := 0
  destZ : Int32 := 0
deriving DecidableEq, Repr

/-- `ZoneNpcRecord`. -/
abbrev ZoneNpcRecord := ZoneRegionRecord

/-- `ZoneMonsterRecord`. -/
abbrev ZoneMonsterRecord := ZoneRegionRecord

/-- `ZoneSafeRecord`. -/
abbrev ZoneSafeRecord := ZoneRegionRecord

/-- `ZoneSpecialRecord`. -/
abbrev ZoneSpecialRecord := ZoneRegionRecord

/-- `ZoneRuntimeDataPack`. -/
structure ZoneRuntimeDataPack where
  header : ZoneRuntimeDataHeader := {}
  maps : List ZoneMapRecord := []
  portals : List ZonePortalRecord := []
  npcs : List ZoneNpcRecord := []
  monsters : List ZoneMonsterRecord := []
  safeRegions : List ZoneSafeRecord := []
  specialRegions : List ZoneSpecialRecord := []
deriving DecidableEq, Repr

/-! ## Destinations of the portals -/

/-- The zone and the map of the destination, where they are missing. -/
def completeTarget (p : ZonePortalRecord) : ZonePortalRecord :=
  let p :=
    if p.destZoneId = 0 ∧ 0 < p.value02 then { p with destZoneId := p.value02.toUInt32 } else p
  if p.destMapId = 0 then
    { p with destMapId := if p.destZoneId ≠ 0 then p.destZoneId else p.mapId }
  else p

/-- The first portal of the destination zone that leads back. -/
def findReciprocal (portals : List ZonePortalRecord) (p : ZonePortalRecord) :
    Option ZonePortalRecord :=
  portals.find? fun candidate =>
    candidate.zoneId == p.destZoneId && candidate.value02 == p.zoneId.toInt32

/-- The position of the destination: the centre of the portal that leads back,
or of the portal itself. -/
def arriveAt (p : ZonePortalRecord) (region : ZoneRegionRecord) : ZonePortalRecord :=
  { p with destX := region.centerX, destY := region.centerZ, destZ := region.centerY }

/-- One pass of the loop: `portals` is the table as it stands, with the zone
and the map of this portal completed. -/
def resolvePortal (portals : List ZonePortalRecord) (p : ZonePortalRecord) : ZonePortalRecord :=
  let p := completeTarget p
  match findReciprocal portals p with
  | some reciprocal => arriveAt p reciprocal.toZoneRegionRecord
  | none => arriveAt p p.toZoneRegionRecord

/-- The loop, after the portals `done`. -/
def resolvePortals (done : List ZonePortalRecord) : List ZonePortalRecord → List ZonePortalRecord
  | [] => done
  | p :: rest =>
      resolvePortals (done ++ [resolvePortal (done ++ completeTarget p :: rest) p]) rest

/-- `ResolvePortalDestinations`. -/
def resolvePortalDestinations (pack : ZoneRuntimeDataPack) : ZoneRuntimeDataPack :=
  { pack with portals := resolvePortals [] pack.portals }

/-! ## Looking up regions -/

/-- `FindCircularRegion_`; `within` is the comparison of the distance with the
radius, in double precision. -/
def findCircularRegion {α : Type} (within : Int32 → Int32 → ZoneRegionRecord → Bool)
    (region : α → ZoneRegionRecord) (rows : List α) (zoneId mapId : UInt32) (x y : Int32) :
    Option α :=
  rows.find? fun row =>
    (region row).zoneId == zoneId &&
      !((region row).mapId != 0 && mapId != 0 && (region row).mapId != mapId) &&
      within x y (region row)

/-- `FindTriggeredPortal`. -/
def findTriggeredPortal (within : Int32 → Int32 → ZoneRegionRecord → Bool)
    (pack : ZoneRuntimeDataPack) (zoneId mapId : UInt32) (x y : Int32) : Option ZonePortalRecord :=
  findCircularRegion within (·.toZoneRegionRecord) pack.portals zoneId mapId x y

/-! ## The loop over the portals -/

theorem toZoneRegionRecord_completeTarget (p : ZonePortalRecord) :
    (completeTarget p).toZoneRegionRecord = p.toZoneRegionRecord := by
  unfold completeTarget
  dsimp only
  split_ifs <;> rfl

theorem toZoneRegionRecord_resolvePortal (portals : List ZonePortalRecord) (p : ZonePortalRecord) :
    (resolvePortal portals p).toZoneRegionRecord = p.toZoneRegionRecord := by
  unfold resolvePortal
  dsimp only
  split <;> exact toZoneRegionRecord_completeTarget p

/-- The search for the way back reads only the regions of the portals. -/
theorem findReciprocal_region (portals : List ZonePortalRecord) (p : ZonePortalRecord) :
    (findReciprocal portals p).map (·.toZoneRegionRecord) =
      (portals.map (·.toZoneRegionRecord)).find? fun region =>
        region.zoneId == p.destZoneId && region.value02 == p.zoneId.toInt32 := by
  rw [List.find?_map]
  rfl

/-- A portal is resolved from the regions of the portals alone. -/
theorem resolvePortal_congr {portals portals' : List ZonePortalRecord}
    (h : portals.map (·.toZoneRegionRecord) = portals'.map (·.toZoneRegionRecord))
    (p : ZonePortalRecord) : resolvePortal portals p = resolvePortal portals' p := by
  have hfind := findReciprocal_region portals (completeTarget p)
  rw [h, ← findReciprocal_region portals'] at hfind
  unfold resolvePortal
  dsimp only
  cases hp : findReciprocal portals (completeTarget p) with
  | none =>
      rw [hp, Option.map_none] at hfind
      rw [Option.map_eq_none_iff.mp hfind.symm]
  | some r =>
      rw [hp, Option.map_some] at hfind
      obtain ⟨r', hr', hregion⟩ := Option.map_eq_some_iff.mp hfind.symm
      rw [hr']
      exact congrArg (arriveAt (completeTarget p)) hregion.symm

/-- **The loop is a map**: what it changes of a portal no later pass reads. -/
theorem resolvePortals_eq_map {portals done rest : List ZonePortalRecord}
    (h : (done ++ rest).map (·.toZoneRegionRecord) = portals.map (·.toZoneRegionRecord)) :
    resolvePortals done rest = done ++ rest.map (resolvePortal portals) := by
  induction rest generalizing done with
  | nil => simp [resolvePortals]
  | cons p rest ih =>
      have hcurrent : (done ++ completeTarget p :: rest).map (·.toZoneRegionRecord) =
          portals.map (·.toZoneRegionRecord) := by
        rw [← h]
        simp [toZoneRegionRecord_completeTarget]
      have hpass : resolvePortal (done ++ completeTarget p :: rest) p = resolvePortal portals p :=
        resolvePortal_congr hcurrent p
      rw [resolvePortals, hpass, ih ?_]
      · simp
      · rw [← h]
        simp [toZoneRegionRecord_resolvePortal]

theorem portals_resolvePortalDestinations (pack : ZoneRuntimeDataPack) :
    (resolvePortalDestinations pack).portals =
      pack.portals.map (resolvePortal pack.portals) :=
  resolvePortals_eq_map rfl

/-- Completing the portals leaves their regions as they are. -/
theorem map_region_resolvePortalDestinations (pack : ZoneRuntimeDataPack) :
    (resolvePortalDestinations pack).portals.map (·.toZoneRegionRecord) =
      pack.portals.map (·.toZoneRegionRecord) := by
  rw [portals_resolvePortalDestinations, List.map_map]
  exact List.map_congr_left fun p _ => toZoneRegionRecord_resolvePortal pack.portals p

/-- A completed portal leads to the centre of the portal that leads back, if
there is one. -/
theorem dest_of_findReciprocal {pack : ZoneRuntimeDataPack} {p r : ZonePortalRecord}
    (hp : p ∈ (resolvePortalDestinations pack).portals)
    (hr : findReciprocal (resolvePortalDestinations pack).portals p = some r) :
    p.destX = r.centerX ∧ p.destY = r.centerZ ∧ p.destZ = r.centerY := by
  rw [portals_resolvePortalDestinations] at hp
  obtain ⟨q, -, rfl⟩ := List.mem_map.mp hp
  have hkeys : (resolvePortal pack.portals q).destZoneId = (completeTarget q).destZoneId ∧
      (resolvePortal pack.portals q).zoneId = (completeTarget q).zoneId := by
    unfold resolvePortal
    dsimp only
    split <;> exact ⟨rfl, rfl⟩
  have hfind := findReciprocal_region (resolvePortalDestinations pack).portals
    (resolvePortal pack.portals q)
  rw [hr, map_region_resolvePortalDestinations, hkeys.1, hkeys.2,
    ← findReciprocal_region pack.portals (completeTarget q)] at hfind
  obtain ⟨r', hr', hregion⟩ := Option.map_eq_some_iff.mp hfind.symm
  have hresolved : resolvePortal pack.portals q =
      arriveAt (completeTarget q) r.toZoneRegionRecord := by
    unfold resolvePortal
    dsimp only
    rw [hr']
    exact congrArg (arriveAt (completeTarget q)) hregion
  rw [hresolved]
  exact ⟨rfl, rfl, rfl⟩

end GameServer.Data
