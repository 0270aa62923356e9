import GameServer.Data.ZoneData
import GameServer.World.ActorTasks

/-!
# GameServer.World.PortalData

Where a move through a portal of the zone data leads.

The builder completes the destination of every portal.  `HandleWorldMove` takes
a destination field that is zero as missing, and falls back to the centre of
the portal and to the map of the player, although zero is a coordinate like any
other.

* `ActorConfig.withPortals` -- the portals of a pack, as a move looks them up
* `LeadsAsStored` -- a move ends where the pack says
* `leadsAsStored_iff` -- when it does
-/

namespace GameServer

open Data (ZoneRuntimeDataPack ZoneRegionRecord resolvePortalDestinations findReciprocal)

/-- The fields of a portal that a move reads. -/
def triggeredPortal (p : Data.ZonePortalRecord) : ZonePortalRecord where
  centerX := p.centerX
  centerZ := p.centerZ
  destZoneId := p.destZoneId
  destMapId := p.destMapId
  destX := p.destX
  destY := p.destY

/-- The actors with the portals of a pack. -/
def ActorConfig.withPortals (cfg : ActorConfig) (within : Int32 → Int32 → ZoneRegionRecord → Bool)
    (pack : ZoneRuntimeDataPack) : ActorConfig :=
  { cfg with
    findTriggeredPortal := fun zoneId mapId x y =>
      (Data.findTriggeredPortal within pack zoneId mapId x y).map triggeredPortal }

/-- The map and the coordinates that a move through a portal uses. -/
def MoveOutcome.destination : MoveOutcome → Option (UInt32 × Int32 × Int32)
  | .transfer request =>
      some (request.targetMapTemplateId, request.targetX, request.targetY)
  | .portalMove _ mapId x y => some (mapId, x, y)
  | .ignored | .walk => none

/-- The destination is the one stored for the portal, which is the centre of
the portal that leads back, if there is one. -/
structure LeadsAsStored (pack : ZoneRuntimeDataPack) (p : Data.ZonePortalRecord)
    (destination : UInt32 × Int32 × Int32) : Prop where
  stored : destination = (p.destMapId, p.destX, p.destY)
  reciprocal : ∀ r, findReciprocal pack.portals p = some r →
    p.destX = r.centerX ∧ p.destY = r.centerZ

/-- The destination is the same, whether the zone changes or not. -/
theorem destination_ite {c : Prop} [Decidable c] {request : PendingPortalTransfer}
    {zoneId mapId : UInt32} {x y : Int32}
    (h : (request.targetMapTemplateId, request.targetX, request.targetY) = (mapId, x, y)) :
    (if c then MoveOutcome.transfer request else .portalMove zoneId mapId x y).destination =
      some (mapId, x, y) := by
  split
  · exact congrArg some h
  · rfl

/-- The destination that is used, with a fallback for every zero. -/
theorem destination_of_triggered {cfg : ActorConfig}
    {within : Int32 → Int32 → ZoneRegionRecord → Bool} {pack : ZoneRuntimeDataPack}
    {a : PlayerActor} {charId : UInt64} {sid : UInt32} {x y : Int32} {ans : MoveAnswers}
    {p : Data.ZonePortalRecord} {destination : UInt32 × Int32 × Int32}
    (hp : Data.findTriggeredPortal within pack a.getZoneId a.getMapId x y = some p)
    (hmove : (decideWorldMove (cfg.withPortals within pack) a charId sid x y ans).destination =
      some destination) :
    destination = (if p.destMapId ≠ 0 then p.destMapId else a.getMapId,
      if p.destX ≠ 0 then p.destX else p.centerX, if p.destY ≠ 0 then p.destY else p.centerZ) := by
  have hportal : (cfg.withPortals within pack).findTriggeredPortal a.getZoneId a.getMapId x y =
      some (triggeredPortal p) := congrArg (Option.map triggeredPortal) hp
  unfold decideWorldMove at hmove
  rw [hportal] at hmove
  dsimp only at hmove
  split at hmove
  · exact absurd hmove.symm (Option.some_ne_none _)
  split at hmove
  · exact absurd hmove.symm (Option.some_ne_none _)
  split at hmove
  · exact absurd hmove.symm (Option.some_ne_none _)
  rw [destination_ite rfl] at hmove
  exact (Option.some.inj hmove).symm

/-- A move through a completed portal ends where the pack says exactly if the
fields that are taken as missing agree with what replaces them. -/
theorem leadsAsStored_iff (cfg : ActorConfig) (within : Int32 → Int32 → ZoneRegionRecord → Bool)
    (pack : ZoneRuntimeDataPack) (a : PlayerActor) (charId : UInt64) (sid : UInt32) (x y : Int32)
    (ans : MoveAnswers) {p : Data.ZonePortalRecord} {destination : UInt32 × Int32 × Int32}
    (hp : Data.findTriggeredPortal within (resolvePortalDestinations pack) a.getZoneId a.getMapId
      x y = some p)
    (hmove : (decideWorldMove (cfg.withPortals within (resolvePortalDestinations pack)) a charId
      sid x y ans).destination = some destination) :
    LeadsAsStored (resolvePortalDestinations pack) p destination ↔
      (p.destMapId = 0 → a.getMapId = 0) ∧ (p.destX = 0 → p.centerX = 0) ∧
        (p.destY = 0 → p.centerZ = 0) := by
  have hused := destination_of_triggered hp hmove
  have hmem : p ∈ (resolvePortalDestinations pack).portals := List.mem_of_find?_eq_some hp
  have hfallback : ∀ {α : Type} [DecidableEq α] (d z c : α),
      (if d ≠ z then d else c) = d ↔ (d = z → c = z) := by
    intro α _ d z c
    by_cases hd : d = z
    · simp [hd]
    · simp [hd]
  constructor
  · rintro ⟨hstored, -⟩
    rw [hused, Prod.mk.injEq, Prod.mk.injEq, hfallback, hfallback, hfallback] at hstored
    exact hstored
  · intro hzero
    refine ⟨?_, fun r hr => ?_⟩
    · rw [hused, Prod.mk.injEq, Prod.mk.injEq, hfallback, hfallback, hfallback]
      exact hzero
    · obtain ⟨hx, hy, -⟩ := Data.dest_of_findReciprocal hmem hr
      exact ⟨hx, hy⟩

/-- The distance without rounding. -/
def withinExact (x y : Int32) (region : ZoneRegionRecord) : Bool :=
  (x - region.centerX).toInt ^ 2 + (y - region.centerZ).toInt ^ 2 ≤ (max 0 region.radius.toInt) ^ 2

/-- Two portals that lead to each other; the second stands on the axis. -/
def portalToAxis : ZoneRuntimeDataPack where
  portals :=
    [{ zoneId := 1, mapId := 1, value02 := 2, centerX := 100, centerZ := 100, radius := 5 },
     { zoneId := 2, mapId := 2, value02 := 1, centerX := 0, centerZ := 50, radius := 5 }]

/-- A player of map 1. -/
def portalUser : PlayerActor := { charId := 7, zoneId := 1, mapTemplateId := 1 }

/-- The first of them, completed. -/
def portalOfUser : Data.ZonePortalRecord where
  zoneId := 1
  mapId := 1
  value02 := 2
  centerX := 100
  centerZ := 100
  radius := 5
  destZoneId := 2
  destMapId := 2
  destY := 50

theorem leadsAsStored_iff_axis :
    LeadsAsStored (resolvePortalDestinations portalToAxis) portalOfUser (2, 100, 50) ↔
      (portalOfUser.destMapId = 0 → portalUser.getMapId = 0) ∧
        (portalOfUser.destX = 0 → portalOfUser.centerX = 0) ∧
        (portalOfUser.destY = 0 → portalOfUser.centerZ = 0) :=
  leadsAsStored_iff {} withinExact portalToAxis portalUser 7 3 101 99 {} (by decide) (by decide)

/-- The portal leads to the axis, and the move ends beside it. -/
theorem portal_to_axis_misses :
    Data.findTriggeredPortal withinExact (resolvePortalDestinations portalToAxis)
      portalUser.getZoneId portalUser.getMapId 101 99 = some portalOfUser ∧
    (decideWorldMove (ActorConfig.withPortals {} withinExact
      (resolvePortalDestinations portalToAxis)) portalUser 7 3 101 99 {}).destination =
      some (2, 100, 50) ∧
    ¬LeadsAsStored (resolvePortalDestinations portalToAxis) portalOfUser (2, 100, 50) := by
  refine ⟨by decide, by decide, fun h => ?_⟩
  have hstored := h.stored
  revert hstored
  decide

end GameServer
