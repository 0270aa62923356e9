import GameServer.Zone.SpatialIndex

/-!
# GameServer.Zone.ZoneRuntime

The zone process: its map instances, the players bound to them and the
spatial index (`ZoneRuntime`).

The requests of the world process run one after the other on the thread of
the line; each is one function of the state here, with the answer it sends
where it sends one.  Messages about who sees whom are not part of this
module.

* `onMapAssignRequest` — makes a map instance, within the capacity;
* `onPlayerEnterRequest`, `onPlayerLeaveRequest`,
  `onPlayerMoveInternalRequest` — the bindings of the players;
* `reapEmptyDungeonInstances` — drops dungeons that stay empty.
-/

namespace GameServer

/-- `ZoneRuntime::MapInstanceState`; times are of the steady clock, in
nanoseconds. -/
structure MapInstanceState where
  mapTemplateId : UInt32 := 0
  instanceId : UInt32 := 0
  dungeonInstance : Bool := false
  activePlayerCount : UInt16 := 0
  createdAt : Nat := 0
  lastAccessAt : Nat := 0
deriving DecidableEq, Repr

/-- `ZoneRuntime::PlayerBindingState`. -/
structure PlayerBindingState where
  mapKey : UInt64 := 0
  mapTemplateId : UInt32 := 0
  instanceId : UInt32 := 0
  sid : UInt32 := 0
  serial : UInt32 := 0
  x : Int32 := 0
  y : Int32 := 0
  cellX : Int32 := 0
  cellY : Int32 := 0
  hasPosition : Bool := false
deriving DecidableEq, Repr

/-- `WorldZoneMapAssignRequest`. -/
structure WorldZoneMapAssignRequest where
  traceId : UInt64 := 0
  requestId : UInt64 := 0
  mapTemplateId : UInt32 := 0
  instanceId : UInt32 := 0
  createIfMissing : UInt8 := 0
  dungeonInstance : UInt8 := 0
deriving DecidableEq, Repr

/-- `ZoneMapAssignResultCode`. -/
inductive ZoneMapAssignResultCode where
  | ok
  | notFound
  | capacityFull
  | internalError
deriving DecidableEq, Repr

/-- `ZoneWorldMapAssignResponse`. -/
structure ZoneWorldMapAssignResponse where
  traceId : UInt64
  requestId : UInt64
  resultCode : ZoneMapAssignResultCode
  zoneId : UInt16
  mapTemplateId : UInt32
  instanceId : UInt32
deriving DecidableEq, Repr

/-- `WorldZonePlayerEnter`. -/
structure WorldZonePlayerEnter where
  traceId : UInt64 := 0
  requestId : UInt64 := 0
  charId : UInt64 := 0
  mapTemplateId : UInt32 := 0
  instanceId : UInt32 := 0
  zoneId : UInt16 := 0
deriving DecidableEq, Repr

/-- `ZonePlayerEnterResultCode`. -/
inductive ZonePlayerEnterResultCode where
  | ok
  | mapNotFound
  | internalError
deriving DecidableEq, Repr

/-- `ZoneWorldPlayerEnterAck`. -/
structure ZoneWorldPlayerEnterAck where
  traceId : UInt64
  requestId : UInt64
  resultCode : ZonePlayerEnterResultCode
  zoneId : UInt16
  charId : UInt64
  mapTemplateId : UInt32
  instanceId : UInt32
deriving DecidableEq, Repr

/-- `WorldZonePlayerLeave`. -/
structure WorldZonePlayerLeave where
  charId : UInt64 := 0
  mapTemplateId : UInt32 := 0
  instanceId : UInt32 := 0
  zoneId : UInt16 := 0
deriving DecidableEq, Repr

/-- `WorldZonePlayerMoveInternal`. -/
structure WorldZonePlayerMoveInternal where
  traceId : UInt64 := 0
  requestId : UInt64 := 0
  charId : UInt64 := 0
  sid : UInt32 := 0
  serial : UInt32 := 0
  mapTemplateId : UInt32 := 0
  instanceId : UInt32 := 0
  zoneId : UInt16 := 0
  channelId : UInt16 := 0
  x : Int32 := 0
  y : Int32 := 0
deriving DecidableEq, Repr

/-- The settings of a zone process and the zone data it has loaded
(`ZoneRuntimeDataStore::HasMap`). -/
structure ZoneConfig where
  zoneId : UInt16 := 1
  mapInstanceCapacity : UInt16 := 128
  servedMapIds : List UInt32 := [1]
  hasMap : UInt16 → UInt32 → Bool
  aoi : AoiConfig := {}

/-- The state of `ZoneRuntime`. -/
structure ZoneRuntime where
  mapInstances : AList fun _ : UInt64 => MapInstanceState := ∅
  playerBindings : AList fun _ : UInt64 => PlayerBindingState := ∅
  spatialIndex : SpatialIndex := ∅
  activeMapInstanceCount : UInt16 := 0
  activePlayerCount : UInt16 := 0
  loadScore : UInt16 := 0

/-- `MakeMapInstanceKey_`. -/
def makeMapInstanceKey (mapTemplateId instanceId : UInt32) : UInt64 :=
  (mapTemplateId.toUInt64 <<< 32) ||| instanceId.toUInt64

namespace ZoneConfig

variable (cfg : ZoneConfig)

/-- `ResolveGameplayZoneId_`. -/
def resolveGameplayZoneId (mapTemplateId : UInt32) : UInt16 :=
  if mapTemplateId = 0 then cfg.zoneId else mapTemplateId.toUInt16

/-- `OwnsMapTemplate_`. -/
def ownsMapTemplate (mapTemplateId : UInt32) : Bool :=
  cfg.servedMapIds.isEmpty || cfg.servedMapIds.contains mapTemplateId

/-- `ValidateZoneMapRuntimeData_`. -/
def validateZoneMapRuntimeData (mapTemplateId : UInt32) : Bool :=
  cfg.ownsMapTemplate mapTemplateId &&
    cfg.hasMap (cfg.resolveGameplayZoneId mapTemplateId) mapTemplateId

/-- The cell of a position. -/
def cellOf (x y : Int32) : Int32 × Int32 :=
  (resolveSpatialCellCoord x (resolveAoiCellSize cfg.aoi),
    resolveSpatialCellCoord y (resolveAoiCellSize cfg.aoi))

end ZoneConfig

namespace ZoneRuntime

/-- `k_ReapEmptyDungeonInstances_`: 30 seconds. -/
def reapAfter : Nat := 30 * 10 ^ 9

/-- `RefreshMetrics_`. -/
def refreshMetrics (z : ZoneRuntime) : ZoneRuntime :=
  let players : UInt32 := (z.mapInstances.entries.map fun e => e.2.activePlayerCount.toUInt32).sum
  let instances := z.mapInstances.entries.length
  { z with
    activeMapInstanceCount := UInt16.ofNat instances
    activePlayerCount := players.toUInt16
    loadScore := UInt16.ofNat (instances + players.toNat) }

/-- Change one map instance that exists. -/
def modifyInstance (z : ZoneRuntime) (mapKey : UInt64)
    (f : MapInstanceState → MapInstanceState) : ZoneRuntime :=
  match z.mapInstances.lookup mapKey with
  | none => z
  | some inst => { z with mapInstances := AList.insert mapKey (f inst) z.mapInstances }

/-- A player is no longer counted. -/
def countOut (now : Nat) (inst : MapInstanceState) : MapInstanceState :=
  { inst with
    activePlayerCount :=
      if inst.activePlayerCount > 0 then inst.activePlayerCount - 1 else inst.activePlayerCount
    lastAccessAt := now }

/-- `EnsureMapInstance_`. -/
def ensureMapInstance (z : ZoneRuntime) (now : Nat) (mapTemplateId instanceId : UInt32)
    (createIfMissing dungeonInstance : Bool) : ZoneRuntime :=
  let key := makeMapInstanceKey mapTemplateId instanceId
  match z.mapInstances.lookup key with
  | some inst =>
      { z with mapInstances := AList.insert key { inst with lastAccessAt := now } z.mapInstances }
  | none =>
      if !createIfMissing then z
      else
        let st : MapInstanceState :=
          { mapTemplateId, instanceId
            dungeonInstance := dungeonInstance || mapTemplateId ≥ 2000
            createdAt := now
            lastAccessAt := now }
        { z with mapInstances := AList.insert key st z.mapInstances }.refreshMetrics

/-- `OnMapAssignRequest`. -/
def onMapAssignRequest (cfg : ZoneConfig) (z : ZoneRuntime) (now : Nat)
    (req : WorldZoneMapAssignRequest) : ZoneRuntime × ZoneWorldMapAssignResponse :=
  let respond (resultCode : ZoneMapAssignResultCode) : ZoneWorldMapAssignResponse :=
    { traceId := req.traceId, requestId := req.requestId, resultCode
      zoneId := cfg.resolveGameplayZoneId req.mapTemplateId
      mapTemplateId := req.mapTemplateId, instanceId := req.instanceId }
  let existsBefore :=
    (z.mapInstances.lookup (makeMapInstanceKey req.mapTemplateId req.instanceId)).isSome
  if !cfg.validateZoneMapRuntimeData req.mapTemplateId then (z, respond .notFound)
  else if !existsBefore && req.createIfMissing == 0 then (z, respond .notFound)
  else if !existsBefore && req.createIfMissing != 0 &&
      z.mapInstances.entries.length ≥ cfg.mapInstanceCapacity.toNat then
    (z, respond .capacityFull)
  else
    (z.ensureMapInstance now req.mapTemplateId req.instanceId (req.createIfMissing != 0)
      (req.dungeonInstance != 0), respond .ok)

/-- The binding that an enter leaves: the map is the new one, the connection
and the position are those of the binding before, if there was one. -/
def enteredBinding (mapKey : UInt64) (req : WorldZonePlayerEnter) :
    Option PlayerBindingState → PlayerBindingState
  | none => { mapKey, mapTemplateId := req.mapTemplateId, instanceId := req.instanceId }
  | some old =>
      { old with mapKey, mapTemplateId := req.mapTemplateId, instanceId := req.instanceId }

/-- `OnPlayerEnterRequest_`. -/
def onPlayerEnterRequest (cfg : ZoneConfig) (z : ZoneRuntime) (now : Nat)
    (req : WorldZonePlayerEnter) : ZoneRuntime × ZoneWorldPlayerEnterAck :=
  let ack (resultCode : ZonePlayerEnterResultCode) : ZoneWorldPlayerEnterAck :=
    { traceId := req.traceId, requestId := req.requestId, resultCode
      zoneId := cfg.resolveGameplayZoneId req.mapTemplateId, charId := req.charId
      mapTemplateId := req.mapTemplateId, instanceId := req.instanceId }
  let key := makeMapInstanceKey req.mapTemplateId req.instanceId
  match z.mapInstances.lookup key with
  | none => (z, ack .mapNotFound)
  | some _ =>
      let old := z.playerBindings.lookup req.charId
      if old.any (·.mapKey = key) then
        (z.modifyInstance key fun inst => { inst with lastAccessAt := now }, ack .ok)
      else
        let z :=
          match old with
          | none => z
          | some old => z.modifyInstance old.mapKey fun inst =>
              if inst.activePlayerCount > 0 then countOut now inst else inst
        let z := z.modifyInstance key fun inst =>
          { inst with activePlayerCount := inst.activePlayerCount + 1, lastAccessAt := now }
        let spatialIndex :=
          match old with
          | none => z.spatialIndex
          | some old =>
              if old.hasPosition ∧ old.mapKey ≠ key then
                z.spatialIndex.removeActorFromSpatialIndex old.mapKey req.charId old.cellX old.cellY
              else z.spatialIndex
        let z :=
          { z with
            spatialIndex
            playerBindings := AList.insert req.charId (enteredBinding key req old) z.playerBindings }
        (z.refreshMetrics, ack .ok)

/-- `OnPlayerLeaveRequest_`. -/
def onPlayerLeaveRequest (z : ZoneRuntime) (now : Nat) (req : WorldZonePlayerLeave) :
    ZoneRuntime :=
  match z.playerBindings.lookup req.charId with
  | none => z
  | some b =>
      let spatialIndex :=
        if b.hasPosition then
          z.spatialIndex.removeActorFromSpatialIndex b.mapKey req.charId b.cellX b.cellY
        else z.spatialIndex
      let z := { z with spatialIndex }.modifyInstance b.mapKey (countOut now)
      { z with playerBindings := AList.erase req.charId z.playerBindings }.refreshMetrics

/-- `UpdateActorSpatialIndex_`. -/
def updateActorSpatialIndex (idx : SpatialIndex) (mapKey charId : UInt64)
    (beforeState afterState : PlayerBindingState) : SpatialIndex :=
  if !afterState.hasPosition then idx
  else if !beforeState.hasPosition || beforeState.mapKey != mapKey then
    idx.insertActorIntoSpatialIndex mapKey charId afterState.cellX afterState.cellY
  else if beforeState.cellX = afterState.cellX ∧ beforeState.cellY = afterState.cellY then idx
  else
    (idx.removeActorFromSpatialIndex mapKey charId beforeState.cellX beforeState.cellY)
      |>.insertActorIntoSpatialIndex mapKey charId afterState.cellX afterState.cellY

/-- The binding that a move leaves. -/
def movedBinding (cfg : ZoneConfig) (req : WorldZonePlayerMoveInternal)
    (b : PlayerBindingState) : PlayerBindingState :=
  { b with
    sid := req.sid
    serial := req.serial
    x := req.x
    y := req.y
    cellX := (cfg.cellOf req.x req.y).1
    cellY := (cfg.cellOf req.x req.y).2
    hasPosition := true }

/-- `OnPlayerMoveInternalRequest_`, up to the messages. -/
def onPlayerMoveInternalRequest (cfg : ZoneConfig) (z : ZoneRuntime) (now : Nat)
    (req : WorldZonePlayerMoveInternal) : ZoneRuntime :=
  match z.playerBindings.lookup req.charId with
  | none => z
  | some b =>
      let after := movedBinding cfg req b
      let z := z.modifyInstance b.mapKey fun inst => { inst with lastAccessAt := now }
      { z with
        playerBindings := AList.insert req.charId after z.playerBindings
        spatialIndex := updateActorSpatialIndex z.spatialIndex b.mapKey req.charId b after }

/-- An instance that `ReapEmptyDungeonInstances_` erases. -/
def isReapable (now : Nat) (inst : MapInstanceState) : Bool :=
  inst.dungeonInstance && inst.activePlayerCount == 0 && inst.lastAccessAt + reapAfter ≤ now

/-- `ReapEmptyDungeonInstances_`. -/
def reapEmptyDungeonInstances (z : ZoneRuntime) (now : Nat) : ZoneRuntime :=
  let gone := (z.mapInstances.entries.filter fun e => isReapable now e.2).map Sigma.fst
  if gone.isEmpty then z
  else { z with mapInstances := gone.foldl (fun m k => AList.erase k m) z.mapInstances }.refreshMetrics

/-! ## Runs -/

/-- What the process does next, and when. -/
inductive Event where
  | mapAssign (now : Nat) (req : WorldZoneMapAssignRequest)
  | playerEnter (now : Nat) (req : WorldZonePlayerEnter)
  | playerLeave (now : Nat) (req : WorldZonePlayerLeave)
  | playerMoveInternal (now : Nat) (req : WorldZonePlayerMoveInternal)
  | reap (now : Nat)

def step (cfg : ZoneConfig) (z : ZoneRuntime) : Event → ZoneRuntime
  | .mapAssign now req => (z.onMapAssignRequest cfg now req).1
  | .playerEnter now req => (z.onPlayerEnterRequest cfg now req).1
  | .playerLeave now req => z.onPlayerLeaveRequest now req
  | .playerMoveInternal now req => z.onPlayerMoveInternalRequest cfg now req
  | .reap now => z.reapEmptyDungeonInstances now

end ZoneRuntime

end GameServer
