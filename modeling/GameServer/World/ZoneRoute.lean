import GameServer.Lib.Records
import GameServer.Lib.Table
import GameServer.World.CharacterState
import GameServer.World.SessionKey

/-!
# GameServer.World.ZoneRoute

The records of the enter-world protocol and of the zone routes
(`world_runtime_types.h`, `world_session_types.h`), and the part of
`world_runtime_zone_route.cpp` that chooses a zone for a map and keeps the
pending map assignments.

`EnterFlow` collects the pending tables of the protocol: one per answer the
world waits for (ticket consume, character snapshot, map assign with its
parked enters and portal transfers, zone player-enter ack).  Trace ids, time
stamps and the wire format of the answers are left out; nothing modelled
reads them.
-/

namespace GameServer

/-! ## Records -/

/-- `proto::world::EnterWorldResultCode`. -/
inductive EnterWorldResultCode where
  | success
  | invalidPacket
  | authTicketNotFound
  | authTicketExpired
  | authTicketReplayed
  | authTicketMismatch
  | bindInvalidInput
  | internalError
  | zoneNotAvailable
  | zoneAssignSendFailed
  | zoneAssignTimeout
  | zoneAssignRouteLost
  | zoneAssignRejected
  | zoneMapNotFound
  | zoneMapCapacityFull
  | zonePlayerEnterSendFailed
  | accountEnterNotifyFailed
  | zonePlayerEnterTimeout
  | zonePlayerEnterRouteLost
  | zonePlayerEnterRejected
  | zonePlayerMapNotFound
  | enterAlreadyPending
  | alreadyInWorld
  | sessionClosing
deriving DecidableEq, Repr

/-- `PendingEnterWorldConsumeRequest`. -/
structure PendingEnterWorldConsumeRequest where
  requestId : UInt64
  sid : UInt32
  serial : UInt32
  accountId : UInt64
  charId : UInt64
  loginSession : String
  worldToken : String
deriving DecidableEq, Repr

/-- Does the record belong to connection `(sid, serial)`? -/
def PendingEnterWorldConsumeRequest.isOf (p : PendingEnterWorldConsumeRequest)
    (sid serial : UInt32) : Bool := p.sid == sid && p.serial == serial

/-- `PendingCharacterEnterSnapshotRequest`. -/
structure PendingCharacterEnterSnapshotRequest where
  requestId : UInt64
  enterPending : PendingEnterWorldConsumeRequest
deriving DecidableEq, Repr

/-- `PendingZoneAssignRequest`. -/
structure PendingZoneAssignRequest where
  requestId : UInt64
  mapKey : UInt64
  targetSid : UInt32
  targetSerial : UInt32
  targetZoneServerId : UInt32
  targetZoneId : UInt16
  targetChannelId : UInt16
  mapTemplateId : UInt32
  instanceId : UInt32
deriving DecidableEq, Repr

/-- `PendingEnterWorldFinalize`. -/
structure PendingEnterWorldFinalize where
  assignRequestId : UInt64
  enterPending : PendingEnterWorldConsumeRequest
  mapTemplateId : UInt32
  instanceId : UInt32
  coreState : CharacterCoreState
deriving DecidableEq, Repr

/-- `PendingZonePlayerEnterRequest`. -/
structure PendingZonePlayerEnterRequest where
  requestId : UInt64
  targetSid : UInt32 := 0
  targetSerial : UInt32 := 0
  targetZoneServerId : UInt32 := 0
  targetZoneId : UInt16
  enterPending : PendingEnterWorldConsumeRequest
  mapTemplateId : UInt32
  instanceId : UInt32
  coreState : CharacterCoreState
  cachedStateBlob : Blob
deriving DecidableEq, Repr

/-- `PendingPortalTransfer`. -/
structure PendingPortalTransfer where
  assignRequestId : UInt64 := 0
  sid : UInt32
  serial : UInt32
  charId : UInt64
  sourceZoneId : UInt16
  sourceMapTemplateId : UInt32
  sourceInstanceId : UInt32
  targetMapTemplateId : UInt32
  targetInstanceId : UInt32
  targetX : Int32
  targetY : Int32
deriving DecidableEq, Repr

/-- `LeaveWorldContext`. -/
structure LeaveWorldContext where
  charId : UInt64
  sid : UInt32
  serial : UInt32
  zoneId : UInt16
  mapTemplateId : UInt32
  instanceId : UInt32
deriving DecidableEq, Repr

/-- `MapAssignmentEntry`. -/
structure MapAssignmentEntry where
  zoneServerId : UInt32
  zoneId : UInt16
  channelId : UInt16
  mapTemplateId : UInt32
  instanceId : UInt32
deriving DecidableEq, Repr

/-- `ZoneRouteState`. -/
structure ZoneRouteState where
  registered : Bool := true
  sid : UInt32
  serial : UInt32
  serverId : UInt32
  zoneId : UInt16
  worldId : UInt16 := 0
  channelId : UInt16
  mapInstanceCapacity : UInt16 := 0
  activeMapInstanceCount : UInt16 := 0
  activePlayerCount : UInt16 := 0
  loadScore : UInt16 := 0
  flags : UInt32 := 0
  servedMapIds : List UInt32 := []
deriving DecidableEq, Repr

/-- `AssignMapInstanceResultKind`. -/
inductive AssignMapInstanceResultKind where
  | ok
  | pending
  | noZoneAvailable
  | requestSendFailed
  | responseTimeout
  | rejected
deriving DecidableEq, Repr

/-- `AssignMapInstanceResult`. -/
structure AssignMapInstanceResult where
  kind : AssignMapInstanceResultKind := .noZoneAvailable
  requestId : UInt64 := 0
  zoneId : UInt16 := 0
  rejectResultCode : UInt16 := 0
deriving DecidableEq, Repr

/-- A zone process of the server topology file. -/
structure ZoneProcess where
  logicalZoneId : UInt16
  worldId : UInt16
  channelId : UInt16
  maps : List UInt32
deriving DecidableEq, Repr

/-- `server_topology_`, as far as the routes use it: `FindZoneProcess`. -/
abbrev ServerTopology := UInt32 → Option ZoneProcess

/-- The pending tables of the enter-world protocol, the zone routes and the
map assignments. -/
structure EnterFlow where
  pendingEnterWorldConsume : List PendingEnterWorldConsumeRequest
  nextWorldAuthConsumeRequestId : UInt64
  pendingCharacterEnterSnapshot : List PendingCharacterEnterSnapshotRequest
  zoneRoutes : List ZoneRouteState
  mapAssignments : Table UInt64 MapAssignmentEntry
  pendingZoneAssign : List PendingZoneAssignRequest
  pendingZoneAssignRequestIdByMapKey : Table UInt64 UInt64
  nextZoneAssignRequestId : UInt64
  pendingEnterWorldFinalize : List PendingEnterWorldFinalize
  pendingPortalTransfer : List PendingPortalTransfer
  nextDynamicInstanceIdByMap : UInt32 → UInt32
  pendingZonePlayerEnter : List PendingZonePlayerEnterRequest
  nextZonePlayerEnterRequestId : UInt64

namespace EnterFlow

def initial : EnterFlow where
  pendingEnterWorldConsume := []
  nextWorldAuthConsumeRequestId := 1
  pendingCharacterEnterSnapshot := []
  zoneRoutes := []
  mapAssignments := .empty
  pendingZoneAssign := []
  pendingZoneAssignRequestIdByMapKey := .empty
  nextZoneAssignRequestId := 1
  pendingEnterWorldFinalize := []
  pendingPortalTransfer := []
  nextDynamicInstanceIdByMap := fun _ => 0
  pendingZonePlayerEnter := []
  nextZonePlayerEnterRequestId := 1

/-! ## Dropping the records of a connection -/

/-- `ErasePendingEnterWorldConsumeRequestsBySession_`. -/
def erasePendingEnterWorldConsumeRequestsBySession (f : EnterFlow) (sid serial : UInt32) :
    EnterFlow :=
  if isValidSessionKey sid serial then
    { f with
      pendingEnterWorldConsume :=
        f.pendingEnterWorldConsume.filter fun p => !p.isOf sid serial }
  else f

/-- Drop a pending assign request and its map-key entry. -/
def dropZoneAssign (f : EnterFlow) (requestId : UInt64) : EnterFlow :=
  match f.pendingZoneAssign.find? (·.requestId == requestId) with
  | none => f
  | some pending =>
      { f with
        pendingZoneAssignRequestIdByMapKey :=
          f.pendingZoneAssignRequestIdByMapKey.erase pending.mapKey
        pendingZoneAssign := f.pendingZoneAssign.filter (·.requestId ≠ requestId) }

/-- `ErasePendingEnterWorldFinalizeBySession_`: an assign request whose list
of parked enters became empty is dropped as an orphan. -/
def erasePendingEnterWorldFinalizeBySession (f : EnterFlow) (sid serial : UInt32) : EnterFlow :=
  if isValidSessionKey sid serial then
    let kept := f.pendingEnterWorldFinalize.filter fun e => !e.enterPending.isOf sid serial
    let orphans := (f.pendingEnterWorldFinalize.map (·.assignRequestId)).filter fun id =>
      kept.all (·.assignRequestId ≠ id)
    { orphans.foldl dropZoneAssign f with pendingEnterWorldFinalize := kept }
  else f

/-- `ErasePendingCharacterEnterSnapshotRequestsBySession_`. -/
def erasePendingCharacterEnterSnapshotRequestsBySession (f : EnterFlow) (sid serial : UInt32) :
    EnterFlow :=
  if isValidSessionKey sid serial then
    { f with
      pendingCharacterEnterSnapshot :=
        f.pendingCharacterEnterSnapshot.filter fun p => !p.enterPending.isOf sid serial }
  else f

/-- `ErasePendingZonePlayerEnterRequestsBySession_`. -/
def erasePendingZonePlayerEnterRequestsBySession (f : EnterFlow) (sid serial : UInt32) :
    EnterFlow :=
  if isValidSessionKey sid serial then
    { f with
      pendingZonePlayerEnter :=
        f.pendingZonePlayerEnter.filter fun p => !p.enterPending.isOf sid serial }
  else f

/-! ## Choosing a route -/

/-- `MakeMapAssignmentKey_`. -/
def makeMapAssignmentKey (mapTemplateId instanceId : UInt32) : UInt64 :=
  (mapTemplateId.toUInt64 <<< 32) ||| instanceId.toUInt64

/-- `RouteServesMap_`. -/
def routeServesMap (route : ZoneRouteState) (mapTemplateId : UInt32) : Bool :=
  route.servedMapIds.isEmpty || route.servedMapIds.contains mapTemplateId

/-- `CountPendingZoneAssignRequestsBySid_`. -/
def countPendingZoneAssignRequestsBySid (f : EnterFlow) (sid serial : UInt32) : UInt32 :=
  UInt32.ofNat (f.pendingZoneAssign.countP fun p => p.targetSid == sid && p.targetSerial == serial)

/-- `CountPendingZonePlayerEnterRequestsBySid_`. -/
def countPendingZonePlayerEnterRequestsBySid (f : EnterFlow) (sid serial : UInt32) : UInt32 :=
  UInt32.ofNat
    (f.pendingZonePlayerEnter.countP fun p => p.targetSid == sid && p.targetSerial == serial)

/-- `ComputeEffectiveRoutePressure_`. -/
def computeEffectiveRoutePressure (f : EnterFlow) (route : ZoneRouteState) : UInt32 :=
  route.loadScore.toUInt32 + f.countPendingZoneAssignRequestsBySid route.sid route.serial +
    f.countPendingZonePlayerEnterRequestsBySid route.sid route.serial

/-- The common shape of the two route selections: fold over the eligible
routes and keep the one that is `better`. -/
def selectRoute (routes : List ZoneRouteState) (eligible : ZoneRouteState → Bool)
    (better : ZoneRouteState → ZoneRouteState → Bool) : Option ZoneRouteState :=
  (routes.filter fun r => r.registered && r.serial != 0 && r.zoneId != 0 && eligible r).foldl
    (fun best current =>
      match best with
      | none => some current
      | some b => if better current b then some current else some b)
    none

/-- `TrySelectZoneRoute_`. -/
def trySelectZoneRoute (f : EnterFlow) (dungeonInstance : Bool) : Option ZoneRouteState :=
  selectRoute f.zoneRoutes (fun _ => true) fun current best =>
    let pc := f.computeEffectiveRoutePressure current
    let pb := f.computeEffectiveRoutePressure best
    pc < pb ||
      pc == pb && dungeonInstance &&
        decide (current.activeMapInstanceCount < best.activeMapInstanceCount) ||
      pc == pb && decide (current.activePlayerCount < best.activePlayerCount)

/-- `TrySelectZoneRouteForMap_`. -/
def trySelectZoneRouteForMap (f : EnterFlow) (mapTemplateId : UInt32) (dungeonInstance : Bool) :
    Option ZoneRouteState :=
  selectRoute f.zoneRoutes (routeServesMap · mapTemplateId) fun current best =>
    let pc := f.computeEffectiveRoutePressure current
    let pb := f.computeEffectiveRoutePressure best
    let samePlayers := current.activePlayerCount == best.activePlayerCount
    pc < pb ||
      pc == pb && decide (current.activePlayerCount < best.activePlayerCount) ||
      pc == pb && samePlayers && dungeonInstance &&
        decide (current.activeMapInstanceCount < best.activeMapInstanceCount) ||
      pc == pb && samePlayers && current.activeMapInstanceCount == best.activeMapInstanceCount &&
        decide (current.channelId < best.channelId)

/-- `FindZoneRouteByZoneId_`. -/
def findZoneRouteByZoneId (f : EnterFlow) (zoneId : UInt16) : Option ZoneRouteState :=
  f.zoneRoutes.find? fun r => r.registered && r.zoneId == zoneId

/-- `FindZoneRouteByServerChannel_`. -/
def findZoneRouteByServerChannel (f : EnterFlow) (zoneServerId : UInt32) (channelId : UInt16) :
    Option ZoneRouteState :=
  f.zoneRoutes.find? fun r =>
    r.registered && r.serverId == zoneServerId && (channelId == 0 || r.channelId == channelId)

/-- `ResolveZoneRouteForMapInstance_`. -/
def resolveZoneRouteForMapInstance (f : EnterFlow) (zoneId : UInt16)
    (mapTemplateId instanceId : UInt32) : Option ZoneRouteState :=
  match f.mapAssignments (makeMapAssignmentKey mapTemplateId instanceId) with
  | none => f.findZoneRouteByZoneId zoneId
  | some entry =>
      match f.findZoneRouteByServerChannel entry.zoneServerId entry.channelId with
      | some route => some route
      | none => f.findZoneRouteByZoneId zoneId

/-! ## Map assignment -/

/-- `IsDungeonMapTemplate_`. -/
def isDungeonMapTemplate (mapTemplateId : UInt32) : Bool := mapTemplateId ≥ 2000

/-- `ResolvePortalTargetInstanceId_`. -/
def resolvePortalTargetInstanceId (f : EnterFlow) (mapTemplateId requestedInstanceId : UInt32) :
    UInt32 × EnterFlow :=
  if requestedInstanceId ≠ 0 then (requestedInstanceId, f)
  else if isDungeonMapTemplate mapTemplateId = false then (0, f)
  else
    let stored := f.nextDynamicInstanceIdByMap mapTemplateId
    let nextId := if stored = 0 then 1 else stored
    (nextId,
      { f with
        nextDynamicInstanceIdByMap :=
          Function.update f.nextDynamicInstanceIdByMap mapTemplateId (nextId + 1) })

/-- `AssignMapInstance`; `sendOk` is the answer of `SendMapAssignRequest`. -/
def assignMapInstance (f : EnterFlow) (topology : Option ServerTopology)
    (mapTemplateId instanceId : UInt32) (dungeonInstance sendOk : Bool) :
    AssignMapInstanceResult × EnterFlow :=
  let key := makeMapAssignmentKey mapTemplateId instanceId
  match f.mapAssignments key with
  | some entry => ({ kind := .ok, zoneId := entry.zoneId }, f)
  | none =>
      match f.pendingZoneAssignRequestIdByMapKey key with
      | some requestId => ({ kind := .pending, requestId }, f)
      | none =>
          let zone := (f.trySelectZoneRouteForMap mapTemplateId dungeonInstance).or
            (if topology.isNone then f.trySelectZoneRoute dungeonInstance else none)
          match zone with
          | none => ({ kind := .noZoneAvailable }, f)
          | some zone =>
              let requestId := f.nextZoneAssignRequestId
              let f := { f with nextZoneAssignRequestId := requestId + 1 }
              if sendOk then
                ({ kind := .pending, requestId },
                  { f with
                    pendingZoneAssign := upsertBy (·.requestId)
                      { requestId, mapKey := key, targetSid := zone.sid
                        targetSerial := zone.serial, targetZoneServerId := zone.serverId
                        targetZoneId := zone.zoneId, targetChannelId := zone.channelId
                        mapTemplateId, instanceId } f.pendingZoneAssign
                    pendingZoneAssignRequestIdByMapKey :=
                      f.pendingZoneAssignRequestIdByMapKey.set key requestId })
              else
                -- the request was recorded under both tables and is taken back
                ({ kind := .requestSendFailed },
                  { f with
                    pendingZoneAssign := f.pendingZoneAssign.filter (·.requestId ≠ requestId)
                    pendingZoneAssignRequestIdByMapKey :=
                      f.pendingZoneAssignRequestIdByMapKey.erase key })

/-! ## Route registration -/

/-- The topology file overrides what a zone says about itself. -/
def applyTopology (topology : Option ServerTopology) (route : ZoneRouteState) : ZoneRouteState :=
  match topology.bind fun find => find route.serverId with
  | none => route
  | some topo =>
      { route with
        zoneId := topo.logicalZoneId, worldId := topo.worldId, channelId := topo.channelId
        servedMapIds := topo.maps }

/-- `RegisterZoneRoute`; `hello` carries the fields of the request. -/
def registerZoneRoute (f : EnterFlow) (topology : Option ServerTopology) (hello : ZoneRouteState) :
    EnterFlow :=
  { f with
    zoneRoutes := upsertBy (·.sid)
      (applyTopology topology { hello with registered := true, servedMapIds := [] }) f.zoneRoutes }

/-- `OnZoneRouteHeartbeat`; a route keeps the maps it serves unless the
topology names them. -/
def onZoneRouteHeartbeat (f : EnterFlow) (topology : Option ServerTopology)
    (beat : ZoneRouteState) : EnterFlow :=
  { f with
    zoneRoutes := f.zoneRoutes.map fun route =>
      if route.sid = beat.sid ∧ route.serial = beat.serial then
        applyTopology topology
          { beat with registered := route.registered, servedMapIds := route.servedMapIds }
      else route }

/-- `RemoveMapAssignmentsByZoneSid_`. -/
def removeMapAssignmentsByZoneSid (f : EnterFlow) (sid : UInt32) : EnterFlow :=
  match f.zoneRoutes.find? (·.sid == sid) with
  | none => f
  | some route =>
      { f with mapAssignments := f.mapAssignments.eraseWhere (·.zoneServerId == route.serverId) }

end EnterFlow

end GameServer
