import GameServer.Lib.Run
import GameServer.World.DelayedClose
import GameServer.World.SessionRegistry
import GameServer.World.TcpServer
import GameServer.World.ZoneRoute

/-!
# GameServer.World.Runtime

The world process as a state machine: the client line with its slots and the
network tasks it posts, the session registry, the delayed closes, the
enter-world protocol, and the handlers that run on them
(`world_runtime_session.cpp`, `world_runtime_enter_world.cpp`,
`world_runtime_zone_route.cpp`, `networkex_base.h`, `world_handler_*.cpp`).

* Every handler is one step.  What another thread, process or timer decides
  — which posted task runs next, whether a send to the zone or account line
  is accepted, random bytes, which heartbeats are overdue — is part of the
  event, so `step` is a function and a run is a list of events.
* Connect, packet and disconnect callbacks are posted to actors whose key
  changes with the binding, so they may run in any order: `netTasks` is a
  bag, and an event picks one.
* Work dispatched to `duplicate_session_strand_` runs in order: `strand` is a
  queue.
* `out` is what the process has done so far that others can see: results
  sent, actor tasks posted, gameplay applied.
-/

namespace GameServer

/-! ## State -/

/-- The client packets whose handlers act for a character.  All but
`benchMove` pass their name to `ResolveAuthenticatedCharIdOrReject_`;
`actorForward` carries the actor it is for, or 0. -/
inductive GameplayOp where
  | addGold
  | getStats
  | healSelf
  | move
  | spawnMonster
  | attackMonster
  | attackPlayer
  | actorSeqTest
  | benchMove
  | actorForward (targetActorId : UInt64)
deriving DecidableEq, Repr

/-- `LogoutType`. -/
inductive LogoutType where
  | unspecified
  | soft
  | hard
deriving DecidableEq, Repr

/-- The client packets of `DataAnalysis`, parsed. -/
inductive ClientPacket where
  | enterWorldWithToken (accountId : UInt64) (loginSession worldToken : String)
  | logoutWorld (logoutType : LogoutType)
  | reconnectWorld (accountId charId : UInt64) (reconnectToken : String)
  | gameplay (op : GameplayOp)
deriving DecidableEq, Repr

/-- A callback of the network layer, posted to an actor. -/
inductive NetTask where
  | connected (sid serial : UInt32)
  | packet (sid serial : UInt32) (p : ClientPacket)
  | disconnected (sid serial : UInt32)
deriving DecidableEq, Repr

/-- `DuplicateLoginLogContext`: the connection a kick is for. -/
structure DuplicateLoginLogContext where
  traceId : UInt64
  accountId : UInt64
  charId : UInt64
  sid : UInt32
  serial : UInt32
  newSid : UInt32
  newSerial : UInt32
deriving DecidableEq, Repr

/-- Work on `duplicate_session_strand_`. -/
inductive StrandTask where
  | close (sid serial : UInt32) (closeCharId : UInt64) (closeReason : WorldSessionCloseReason)
  | kick (ctx : DuplicateLoginLogContext)
deriving DecidableEq, Repr

/-- What the process has done. -/
inductive Output where
  /-- `SendEnterWorldResult`. -/
  | enterWorldResult (pending : PendingEnterWorldConsumeRequest) (ok : Bool)
      (reason : EnterWorldResultCode)
  /-- The actor task of a completed enter: install the core state, join the zone. -/
  | enterPosted (charId : UInt64) (sid serial : UInt32) (zoneId : UInt16)
      (mapTemplateId instanceId : UInt32) (coreState : CharacterCoreState)
  /-- The actor of `charId` was rebound by a reconnect. -/
  | reconnected (charId : UInt64) (sid serial : UInt32)
  /-- `CleanupClosedWorldSessionActors_` posted the leave of `charId`. -/
  | cleanupPosted (charId : UInt64) (sid serial : UInt32)
  /-- `BeginLeaveWorld_` posted the leave of a character. -/
  | leavePosted (ctx : LeaveWorldContext)
  /-- `CacheCharacterState`. -/
  | cached (worldCode : UInt32) (charId : UInt64) (blob : Blob)
  /-- A gameplay packet of connection `(sid, serial)` acted for `charId`. -/
  | applied (op : GameplayOp) (sid serial : UInt32) (charId : UInt64)
  /-- A gameplay packet was rejected as unauthenticated. -/
  | rejected (op : GameplayOp) (sid serial : UInt32)
  /-- `CompletePortalTransfer_` / `FailPendingPortalTransfer_`. -/
  | portalCompleted (pending : PendingPortalTransfer) (zoneId : UInt16)
      (mapTemplateId instanceId : UInt32)
  | portalDropped (pending : PendingPortalTransfer)
  | portalFailed (pending : PendingPortalTransfer)
deriving DecidableEq, Repr

/-- The world process. -/
structure WorldRuntime where
  tcp : TcpServer
  sessionSerials : Table UInt32 UInt32
  netTasks : List NetTask
  reg : SessionRegistry
  delayed : DelayedCloses
  strand : List StrandTask
  duplicateLoginTraceSeq : UInt64
  flow : EnterFlow
  out : List Output

namespace WorldRuntime

/-- The process after start-up. -/
def initial : WorldRuntime where
  tcp := .initial
  sessionSerials := .empty
  netTasks := []
  reg := .initial
  delayed := .initial
  strand := []
  duplicateLoginTraceSeq := 1
  flow := .initial
  out := []

def emit (st : WorldRuntime) (o : Output) : WorldRuntime := { st with out := st.out ++ [o] }

/-- `GetLatestSerial`. -/
def getLatestSerial (st : WorldRuntime) (idx : UInt32) : UInt32 := (st.sessionSerials idx).getD 0

/-! ## Leaving the world -/

/-- `BeginLeaveWorld_`, up to the posting of the actor task. -/
def beginLeaveWorld (st : WorldRuntime) (ctx : LeaveWorldContext) : WorldRuntime :=
  if ctx.charId = 0 then st else st.emit (.leavePosted ctx)

/-- `CleanupClosedWorldSessionActors_`, up to the posting of the actor task
that calls `BeginLeaveWorld_`. -/
def cleanupClosedWorldSessionActors (st : WorldRuntime) (unbind : UnbindAuthedWorldSessionResult)
    (sid serial : UInt32) : WorldRuntime :=
  if unbind.kind ≠ .removed ∨ unbind.session.charId = 0 then st
  else st.emit (.cleanupPosted unbind.session.charId sid serial)

/-! ## Failing and rolling back an enter -/

/-- `FailPendingEnterWorldConsumeRequest_`. -/
def failPendingEnterWorldConsumeRequest (st : WorldRuntime)
    (pending : PendingEnterWorldConsumeRequest) (reason : EnterWorldResultCode) : WorldRuntime :=
  let st :=
    { st with
      reg := st.reg.cancelPendingEnterWorldSession pending.sid pending.serial pending.charId }
  st.emit (.enterWorldResult pending false reason)

/-- `RollbackBoundEnterWorld_`. -/
def rollbackBoundEnterWorld (st : WorldRuntime) (pending : PendingEnterWorldConsumeRequest)
    (leaveCtx : Option LeaveWorldContext) : WorldRuntime :=
  let st :=
    { st with
      reg := st.reg.cancelPendingEnterWorldSession pending.sid pending.serial pending.charId }
  let rollback := (st.reg.unbindAuthenticatedWorldSessionBySid pending.sid pending.serial).1
  let st :=
    { st with reg := (st.reg.unbindAuthenticatedWorldSessionBySid pending.sid pending.serial).2 }
  match leaveCtx with
  | some ctx => st.beginLeaveWorld ctx
  | none => st.cleanupClosedWorldSessionActors rollback pending.sid pending.serial

/-- Roll a bound enter back and report it; most failures of the protocol do
both. -/
def rollbackAndFail (st : WorldRuntime) (pending : PendingEnterWorldConsumeRequest)
    (reason : EnterWorldResultCode) : WorldRuntime :=
  (st.rollbackBoundEnterWorld pending none).failPendingEnterWorldConsumeRequest pending reason

/-! ## Binding with duplicate kicks -/

/-- `EnqueueDuplicateAuthedSessionCloseIfNeeded_`. -/
def enqueueDuplicateAuthedSessionCloseIfNeeded (st : WorldRuntime) (victim : WorldAuthedSession)
    (fallbackAccountId fallbackCharId : UInt64) (newSid newSerial : UInt32) : WorldRuntime :=
  if isValidSessionKey victim.sid victim.serial = false then st
  else if victim.sid = newSid ∧ victim.serial = newSerial then st
  else
    let ctx : DuplicateLoginLogContext :=
      { traceId := st.duplicateLoginTraceSeq
        accountId := if victim.accountId ≠ 0 then victim.accountId else fallbackAccountId
        charId := if victim.charId ≠ 0 then victim.charId else fallbackCharId
        sid := victim.sid, serial := victim.serial, newSid, newSerial }
    let st := { st with duplicateLoginTraceSeq := st.duplicateLoginTraceSeq + 1 }
    -- `EnqueueDuplicateWorldSessionKickClose_`
    if ctx.charId = 0 then st else { st with strand := st.strand ++ [.kick ctx] }

/-- `BindAuthenticatedWorldSessionForLogin` with the kicks of the sessions it
replaced. -/
def bindAuthenticatedWorldSessionForLogin (st : WorldRuntime) (accountId charId : UInt64)
    (sid serial : UInt32) (bytes : Vector UInt8 32) :
    BindAuthedWorldSessionResult × WorldRuntime :=
  let bound := st.reg.bindAuthenticatedWorldSessionForLogin accountId charId sid serial bytes
  let result := bound.1
  let st := { st with reg := bound.2 }
  let st :=
    if result.hasOldCharSession then
      st.enqueueDuplicateAuthedSessionCloseIfNeeded result.oldCharSession accountId charId sid serial
    else st
  let sameOldSession :=
    result.oldAccountSession.sid = result.oldCharSession.sid ∧
      result.oldAccountSession.serial = result.oldCharSession.serial
  let st :=
    if result.hasOldAccountSession ∧ ¬ sameOldSession then
      st.enqueueDuplicateAuthedSessionCloseIfNeeded result.oldAccountSession accountId charId sid
        serial
    else st
  (result, st)

/-! ## The enter-world protocol -/

/-- `RequestConsumeWorldAuthTicket`; `ready` and `sent` are the answers of
the account line. -/
def requestConsumeWorldAuthTicket (st : WorldRuntime) (sid serial : UInt32) (accountId : UInt64)
    (loginSession worldToken : String) (ready sent : Bool) : Bool × WorldRuntime :=
  if ready = false then (false, st)
  else
    let requestId := st.flow.nextWorldAuthConsumeRequestId
    let flow := { st.flow with nextWorldAuthConsumeRequestId := requestId + 1 }
    if sent then
      (true,
        { st with
          flow := { flow with
            pendingEnterWorldConsume := upsertBy (·.requestId)
              { requestId, sid, serial, accountId, charId := 0, loginSession, worldToken }
              flow.pendingEnterWorldConsume } })
    else
      (false,
        { st with
          flow := { flow with
            pendingEnterWorldConsume :=
              flow.pendingEnterWorldConsume.filter (·.requestId ≠ requestId) } })

/-- `RequestCharacterEnterSnapshotLoad_`; `pushed` is the answer of
`PushDQSData`. -/
def requestCharacterEnterSnapshotLoad (st : WorldRuntime)
    (pending : PendingEnterWorldConsumeRequest) (pushed : Bool) : Bool × WorldRuntime :=
  let requestId := st.flow.nextWorldAuthConsumeRequestId
  let flow := { st.flow with nextWorldAuthConsumeRequestId := requestId + 1 }
  if pushed then
    (true,
      { st with
        flow := { flow with
          pendingCharacterEnterSnapshot := upsertBy (·.requestId)
            { requestId, enterPending := pending } flow.pendingCharacterEnterSnapshot } })
  else
    (false,
      { st with
        flow := { flow with
          pendingCharacterEnterSnapshot :=
            flow.pendingCharacterEnterSnapshot.filter (·.requestId ≠ requestId) } })

/-- `ConsumePendingWorldAuthTicketResultKind`. -/
inductive ConsumeResultKind where
  | ok
  | tokenNotFound
  | expired
  | replayDetected
  | accountMismatch
  | charMismatch
  | loginSessionMismatch
  | worldServerMismatch
deriving DecidableEq, Repr

/-- The reason a refused ticket is reported with. -/
def consumeFailReason : ConsumeResultKind → EnterWorldResultCode
  | .expired => .authTicketExpired
  | .replayDetected => .authTicketReplayed
  | .accountMismatch | .charMismatch | .loginSessionMismatch => .authTicketMismatch
  | _ => .authTicketNotFound

/-- A ticket-consume response of the account server. -/
structure TicketConsumeResponse where
  requestId : UInt64
  resultKind : ConsumeResultKind
  accountId : UInt64
  charId : UInt64
  loginSession : String
  worldToken : String
deriving DecidableEq, Repr

/-- `OnWorldAuthTicketConsumeResponse`. -/
def onWorldAuthTicketConsumeResponse (st : WorldRuntime) (res : TicketConsumeResponse)
    (pushed : Bool) : WorldRuntime :=
  match st.flow.pendingEnterWorldConsume.find? (·.requestId == res.requestId) with
  | none => st
  | some pending =>
      let st :=
        { st with
          flow := { st.flow with
            pendingEnterWorldConsume :=
              st.flow.pendingEnterWorldConsume.filter (·.requestId ≠ res.requestId) } }
      let pending :=
        { pending with charId := if pending.charId = 0 then res.charId else pending.charId }
      if pending.accountId ≠ res.accountId ∨ pending.loginSession ≠ res.loginSession ∨
          pending.worldToken ≠ res.worldToken then
        st.emit (.enterWorldResult pending false .authTicketMismatch)
      else if res.resultKind ≠ .ok then
        st.emit (.enterWorldResult pending false (consumeFailReason res.resultKind))
      else
        let requested := st.requestCharacterEnterSnapshotLoad pending pushed
        if requested.1 then requested.2
        else requested.2.emit (.enterWorldResult pending false .internalError)

/-- `MapBeginEnterFailReason_`. -/
def mapBeginEnterFailReason : BeginEnterWorldSessionResultKind → EnterWorldResultCode
  | .alreadyPending => .enterAlreadyPending
  | .alreadyInWorld => .alreadyInWorld
  | .closing => .sessionClosing
  | _ => .internalError

/-- `ZoneMapAssignResultCode`. -/
inductive ZoneMapAssignResultCode where
  | ok
  | notFound
  | capacityFull
  | internalError
deriving DecidableEq, Repr

/-- `MapZoneAssignRejectCodeToEnterWorldReason_`. -/
def mapZoneAssignRejectCode : ZoneMapAssignResultCode → EnterWorldResultCode
  | .notFound => .zoneMapNotFound
  | .capacityFull => .zoneMapCapacityFull
  | .internalError | .ok => .zoneAssignRejected

/-- `ZonePlayerEnterResultCode`. -/
inductive ZonePlayerEnterResultCode where
  | ok
  | mapNotFound
  | internalError
deriving DecidableEq, Repr

/-- `MapZonePlayerEnterRejectCodeToEnterWorldReason_`. -/
def mapZonePlayerEnterRejectCode : ZonePlayerEnterResultCode → EnterWorldResultCode
  | .mapNotFound => .zonePlayerMapNotFound
  | .internalError | .ok => .zonePlayerEnterRejected

/-- `MapAssignFailureToEnterWorldReason_`, for the kinds an assignment can
fail with. -/
def mapAssignFailure : AssignMapInstanceResultKind → EnterWorldResultCode
  | .noZoneAvailable => .zoneNotAvailable
  | .requestSendFailed => .zoneAssignSendFailed
  | .responseTimeout => .zoneAssignTimeout
  | .rejected => .zoneAssignRejected
  | .pending | .ok => .internalError

/-- `FinalizeEnterWorldSuccess_`; `sendOk` answers the player-enter send,
which is only tried when a route resolves. -/
def finalizeEnterWorldSuccess (st : WorldRuntime) (pending : PendingEnterWorldConsumeRequest)
    (assignedZoneId : UInt16) (mapTemplateId instanceId : UInt32) (coreState : CharacterCoreState)
    (sendOk : Bool) : WorldRuntime :=
  let requestId := st.flow.nextZonePlayerEnterRequestId
  let flow := { st.flow with nextZonePlayerEnterRequestId := requestId + 1 }
  let blank : PendingZonePlayerEnterRequest :=
    { requestId, targetZoneId := assignedZoneId, enterPending := pending, mapTemplateId, instanceId
      coreState, cachedStateBlob := serializeDemo (fromCharacterCoreState coreState) }
  let pendingEnter :=
    match flow.findZoneRouteByZoneId assignedZoneId with
    | none => blank
    | some route =>
        { blank with
          targetSid := route.sid, targetSerial := route.serial
          targetZoneServerId := route.serverId }
  let sent := (flow.resolveZoneRouteForMapInstance assignedZoneId mapTemplateId instanceId).isSome &&
    sendOk
  if sent then
    { st with
      flow := { flow with
        pendingZonePlayerEnter :=
          upsertBy (·.requestId) pendingEnter flow.pendingZonePlayerEnter } }
  else
    let st :=
      { st with
        flow := { flow with
          pendingZonePlayerEnter :=
            flow.pendingZonePlayerEnter.filter (·.requestId ≠ requestId) } }
    st.rollbackAndFail pending .zonePlayerEnterSendFailed

/-- `CompleteEnterWorldSuccessAfterZoneAck_`; `notified` answers the success
notification to the account server. -/
def completeEnterWorldSuccessAfterZoneAck (st : WorldRuntime)
    (pendingEnter : PendingZonePlayerEnterRequest) (notified : Bool) (bytes : Vector UInt8 32) :
    WorldRuntime :=
  let pending := pendingEnter.enterPending
  let promoted :=
    st.reg.promoteEnterWorldSessionToInWorld pending.sid pending.serial pending.charId
  if promoted.1 = false then st
  else
    let st := { st with reg := promoted.2 }
    let st := st.emit (.enterPosted pending.charId pending.sid pending.serial
      pendingEnter.targetZoneId pendingEnter.mapTemplateId pendingEnter.instanceId
      pendingEnter.coreState)
    -- the enter path caches under world code 0
    let st :=
      if pendingEnter.cachedStateBlob ≠ [] then
        st.emit (.cached 0 pending.charId pendingEnter.cachedStateBlob)
      else st
    if notified = false then
      let leaveCtx : LeaveWorldContext :=
        { charId := pending.charId, sid := pending.sid, serial := pending.serial
          zoneId := pendingEnter.targetZoneId, mapTemplateId := pendingEnter.mapTemplateId
          instanceId := pendingEnter.instanceId }
      (st.rollbackBoundEnterWorld pending (some leaveCtx)).failPendingEnterWorldConsumeRequest
        pending .accountEnterNotifyFailed
    else
      let st :=
        { st with
          reg := (st.reg.getOrCreateReconnectTokenForSession pending.sid pending.serial bytes).2 }
      st.emit (.enterWorldResult pending true .success)

/-- A character snapshot result of the database worker. -/
structure SnapshotResult where
  requestId : UInt64
  found : Bool
  success : Bool
  coreState : CharacterCoreState
deriving DecidableEq, Repr

/-- The answers the snapshot handler gets from outside: random bytes for the
token, and whether the two zone sends are accepted. -/
structure EnterAnswers where
  bytes : Vector UInt8 32
  assignSendOk : Bool
  enterSendOk : Bool

/-- The core state an enter continues with. -/
def enteringCoreState (s : CharacterCoreState) : CharacterCoreState :=
  { s with
    hot := { s.hot with
      inWorld := true
      dirtyFlags := s.hot.dirtyFlags ||| CharacterDirtyFlags.resources |||
        CharacterDirtyFlags.position
      version := s.hot.version + 1 } }

/-- The part of `OnCharacterEnterSnapshotResult_` after the bind: find a zone
for the character's map. -/
def assignAfterBind (st : WorldRuntime) (topology : Option ServerTopology)
    (pending : PendingEnterWorldConsumeRequest) (loaded : CharacterCoreState)
    (answers : EnterAnswers) : WorldRuntime :=
  let coreState := enteringCoreState loaded
  let mapTemplateId := if coreState.hot.position.mapId ≠ 0 then coreState.hot.position.mapId else 1
  let assigned := st.flow.assignMapInstance topology mapTemplateId 0 false answers.assignSendOk
  let st := { st with flow := assigned.2 }
  match assigned.1.kind with
  | .ok =>
      st.finalizeEnterWorldSuccess pending assigned.1.zoneId mapTemplateId 0 coreState
        answers.enterSendOk
  | .pending =>
      { st with
        flow := { st.flow with
          pendingEnterWorldFinalize := st.flow.pendingEnterWorldFinalize ++
            [{ assignRequestId := assigned.1.requestId, enterPending := pending, mapTemplateId
               instanceId := 0, coreState }] } }
  | kind => st.rollbackAndFail pending (mapAssignFailure kind)

/-- `OnCharacterEnterSnapshotResult_`. -/
def onCharacterEnterSnapshotResult (st : WorldRuntime) (topology : Option ServerTopology)
    (rr : SnapshotResult) (answers : EnterAnswers) : WorldRuntime :=
  match st.flow.pendingCharacterEnterSnapshot.find? (·.requestId == rr.requestId) with
  | none => st
  | some snapshot =>
      let st :=
        { st with
          flow := { st.flow with
            pendingCharacterEnterSnapshot :=
              st.flow.pendingCharacterEnterSnapshot.filter (·.requestId ≠ rr.requestId) } }
      let pending := snapshot.enterPending
      if rr.found = false ∨ rr.success = false ∨ rr.coreState.identity.valid = false then
        st.failPendingEnterWorldConsumeRequest pending .internalError
      else
        let begun := st.reg.tryBeginEnterWorldSession pending.sid pending.serial pending.accountId
          pending.charId
        let st := { st with reg := begun.2 }
        if begun.1.kind ≠ .started then
          st.emit (.enterWorldResult pending false (mapBeginEnterFailReason begun.1.kind))
        else
          let bound := st.bindAuthenticatedWorldSessionForLogin pending.accountId pending.charId
            pending.sid pending.serial answers.bytes
          let st := bound.2
          if bound.1.kind = .invalidInput then
            let st :=
              { st with
                reg := st.reg.cancelPendingEnterWorldSession pending.sid pending.serial
                  pending.charId }
            st.emit (.enterWorldResult pending false .bindInvalidInput)
          else st.assignAfterBind topology pending rr.coreState answers

/-! ## Portal transfers -/

/-- `FailPendingPortalTransfer_`. -/
def failPendingPortalTransfer (st : WorldRuntime) (pending : PendingPortalTransfer) :
    WorldRuntime :=
  st.emit (.portalFailed pending)

/-- `CompletePortalTransfer_`, up to the posting of the actor tasks. -/
def completePortalTransfer (st : WorldRuntime) (pending : PendingPortalTransfer)
    (assignedZoneId : UInt16) (mapTemplateId instanceId : UInt32) : WorldRuntime :=
  match st.reg.tryGetAuthenticatedWorldSession pending.sid pending.serial with
  | none => st.emit (.portalDropped pending)
  | some session =>
      if session.charId ≠ pending.charId then st.emit (.portalDropped pending)
      else st.emit (.portalCompleted pending assignedZoneId mapTemplateId instanceId)

/-- `BeginPortalTransfer`; `request` has the target instance as requested. -/
def beginPortalTransfer (st : WorldRuntime) (topology : Option ServerTopology)
    (request : PendingPortalTransfer) (assignSendOk : Bool) : WorldRuntime :=
  let resolved := st.flow.resolvePortalTargetInstanceId request.targetMapTemplateId
    request.targetInstanceId
  let assigned := resolved.2.assignMapInstance topology request.targetMapTemplateId resolved.1
    (EnterFlow.isDungeonMapTemplate request.targetMapTemplateId) assignSendOk
  let st := { st with flow := assigned.2 }
  match assigned.1.kind with
  | .pending =>
      { st with
        flow := { st.flow with
          pendingPortalTransfer := upsertBy (·.assignRequestId)
            { request with
              assignRequestId := assigned.1.requestId, targetInstanceId := resolved.1 }
            st.flow.pendingPortalTransfer } }
  | .ok =>
      match st.flow.mapAssignments
          (EnterFlow.makeMapAssignmentKey request.targetMapTemplateId resolved.1) with
      | none => st
      | some entry =>
          st.completePortalTransfer
            { request with assignRequestId := 0, targetInstanceId := resolved.1 } entry.zoneId
            request.targetMapTemplateId resolved.1
  | _ => st

/-! ## Answers of the zones -/

/-- A map-assign response. -/
structure ZoneMapAssignResponse where
  requestId : UInt64
  resultCode : ZoneMapAssignResultCode
  zoneId : UInt16
  mapTemplateId : UInt32
  instanceId : UInt32
deriving DecidableEq, Repr

/-- The parked enters of a request that failed: those still pending are rolled
back and reported. -/
def failFinalizeList (st : WorldRuntime) (list : List PendingEnterWorldFinalize)
    (reason : EnterWorldResultCode) : WorldRuntime :=
  list.foldl
    (fun st e =>
      let p := e.enterPending
      if st.reg.isEnterWorldSessionPending p.sid p.serial p.charId then st.rollbackAndFail p reason
      else st)
    st

/-- `OnZoneMapAssignResponse`; `sendOk` answers the player-enter sends by
request id. -/
def onZoneMapAssignResponse (st : WorldRuntime) (sid serial : UInt32) (res : ZoneMapAssignResponse)
    (sendOk : UInt64 → Bool) : WorldRuntime :=
  match st.flow.pendingZoneAssign.find? (·.requestId == res.requestId) with
  | none => st
  | some assign =>
      if assign.targetSid ≠ sid ∨ assign.targetSerial ≠ serial then st
      else
        let finalizeList :=
          st.flow.pendingEnterWorldFinalize.filter (·.assignRequestId == res.requestId)
        let portal := st.flow.pendingPortalTransfer.find? (·.assignRequestId == res.requestId)
        let st :=
          { st with
            flow := { st.flow with
              pendingZoneAssign :=
                st.flow.pendingZoneAssign.filter (·.requestId ≠ res.requestId)
              pendingZoneAssignRequestIdByMapKey :=
                st.flow.pendingZoneAssignRequestIdByMapKey.erase assign.mapKey
              pendingEnterWorldFinalize :=
                st.flow.pendingEnterWorldFinalize.filter (·.assignRequestId ≠ res.requestId)
              pendingPortalTransfer :=
                st.flow.pendingPortalTransfer.filter (·.assignRequestId ≠ res.requestId) } }
        if assign.mapTemplateId ≠ res.mapTemplateId ∨ assign.instanceId ≠ res.instanceId then
          -- unlike the other failures, this one does not ask whether the enter is still pending
          let st := finalizeList.foldl
            (fun st e => st.rollbackAndFail e.enterPending .zoneAssignRouteLost) st
          portal.elim st st.failPendingPortalTransfer
        else if res.resultCode ≠ .ok then
          let st := st.failFinalizeList finalizeList (mapZoneAssignRejectCode res.resultCode)
          portal.elim st st.failPendingPortalTransfer
        else
          let st :=
            { st with
              flow := { st.flow with
                mapAssignments := st.flow.mapAssignments.set
                  (EnterFlow.makeMapAssignmentKey res.mapTemplateId res.instanceId)
                  { zoneServerId := assign.targetZoneServerId, zoneId := res.zoneId
                    channelId := assign.targetChannelId, mapTemplateId := res.mapTemplateId
                    instanceId := res.instanceId } } }
          let st := finalizeList.foldl
            (fun st e =>
              let p := e.enterPending
              if st.reg.isEnterWorldSessionPending p.sid p.serial p.charId then
                st.finalizeEnterWorldSuccess p res.zoneId e.mapTemplateId e.instanceId e.coreState
                  (sendOk st.flow.nextZonePlayerEnterRequestId)
              else st)
            st
          portal.elim st fun p =>
            st.completePortalTransfer p res.zoneId res.mapTemplateId res.instanceId

/-- A player-enter ack. -/
structure ZonePlayerEnterAck where
  requestId : UInt64
  resultCode : ZonePlayerEnterResultCode
  charId : UInt64
  zoneId : UInt16
  mapTemplateId : UInt32
  instanceId : UInt32
deriving DecidableEq, Repr

/-- `OnZonePlayerEnterAck`. -/
def onZonePlayerEnterAck (st : WorldRuntime) (sid serial : UInt32) (ack : ZonePlayerEnterAck)
    (notified : Bool) (bytes : Vector UInt8 32) : WorldRuntime :=
  match st.flow.pendingZonePlayerEnter.find? (·.requestId == ack.requestId) with
  | none => st
  | some enter =>
      if enter.targetSid ≠ sid ∨ enter.targetSerial ≠ serial then st
      else
        let p := enter.enterPending
        let st :=
          { st with
            flow := { st.flow with
              pendingZonePlayerEnter :=
                st.flow.pendingZonePlayerEnter.filter (·.requestId ≠ ack.requestId) } }
        if st.reg.isEnterWorldSessionPending p.sid p.serial p.charId = false then st
        else if p.charId ≠ ack.charId ∨ enter.mapTemplateId ≠ ack.mapTemplateId ∨
            enter.instanceId ≠ ack.instanceId ∨ enter.targetZoneId ≠ ack.zoneId then
          st.rollbackAndFail p .internalError
        else if ack.resultCode ≠ .ok then
          st.rollbackAndFail p (mapZonePlayerEnterRejectCode ack.resultCode)
        else st.completeEnterWorldSuccessAfterZoneAck enter notified bytes

/-- `FailPendingZoneAssignRequestsByZoneSid_`. -/
def failPendingZoneAssignRequestsByZoneSid (st : WorldRuntime) (sid : UInt32) : WorldRuntime :=
  (st.flow.pendingZoneAssign.filter (·.targetSid == sid)).foldl
    (fun st assign =>
      let finalizeList :=
        st.flow.pendingEnterWorldFinalize.filter (·.assignRequestId == assign.requestId)
      let portal := st.flow.pendingPortalTransfer.find? (·.assignRequestId == assign.requestId)
      let st :=
        { st with
          flow := { st.flow with
            pendingZoneAssignRequestIdByMapKey :=
              st.flow.pendingZoneAssignRequestIdByMapKey.erase assign.mapKey
            pendingEnterWorldFinalize :=
              st.flow.pendingEnterWorldFinalize.filter (·.assignRequestId ≠ assign.requestId)
            pendingPortalTransfer :=
              st.flow.pendingPortalTransfer.filter (·.assignRequestId ≠ assign.requestId)
            pendingZoneAssign :=
              st.flow.pendingZoneAssign.filter (·.requestId ≠ assign.requestId) } }
      let st := st.failFinalizeList finalizeList .zoneAssignRouteLost
      portal.elim st st.failPendingPortalTransfer)
    st

/-- Drop player-enter requests and fail those whose enter is still pending. -/
def failZonePlayerEnters (st : WorldRuntime) (dropped : PendingZonePlayerEnterRequest → Bool)
    (reason : EnterWorldResultCode) : WorldRuntime :=
  (st.flow.pendingZonePlayerEnter.filter dropped).foldl
    (fun st enter =>
      let p := enter.enterPending
      let st :=
        { st with
          flow := { st.flow with
            pendingZonePlayerEnter :=
              st.flow.pendingZonePlayerEnter.filter (·.requestId ≠ enter.requestId) } }
      if st.reg.isEnterWorldSessionPending p.sid p.serial p.charId then st.rollbackAndFail p reason
      else st)
    st

/-- `FailPendingZonePlayerEnterRequestsByZoneSid_`. -/
def failPendingZonePlayerEnterRequestsByZoneSid (st : WorldRuntime) (sid : UInt32) :
    WorldRuntime :=
  st.failZonePlayerEnters (·.targetSid == sid) .zonePlayerEnterRouteLost

/-- What losing the route of a zone connection undoes. -/
def loseZoneRoute (st : WorldRuntime) (sid : UInt32) : WorldRuntime :=
  let st := { st with flow := st.flow.removeMapAssignmentsByZoneSid sid }
  let st := st.failPendingZoneAssignRequestsByZoneSid sid
  let st := st.failPendingZonePlayerEnterRequestsByZoneSid sid
  { st with flow := { st.flow with zoneRoutes := st.flow.zoneRoutes.filter (·.sid ≠ sid) } }

/-- `UnregisterZoneRoute`. -/
def unregisterZoneRoute (st : WorldRuntime) (sid serial : UInt32) : WorldRuntime :=
  match st.flow.zoneRoutes.find? (·.sid == sid) with
  | none => st
  | some route => if route.serial ≠ serial then st else st.loseZoneRoute sid

/-- `ExpireStaleZoneRoutes_`: the events name what is overdue. -/
def expireStaleZoneRoutes (st : WorldRuntime) (routes : List UInt32) (enters portals : List UInt64) :
    WorldRuntime :=
  let st := (st.flow.zoneRoutes.filter fun r => routes.contains r.sid).foldl
    (fun st r => st.loseZoneRoute r.sid) st
  let st := st.failZonePlayerEnters (fun e => enters.contains e.requestId) .zonePlayerEnterTimeout
  (st.flow.pendingPortalTransfer.filter fun p => portals.contains p.assignRequestId).foldl
    (fun st p =>
      let st :=
        { st with
          flow := { st.flow with
            pendingPortalTransfer :=
              st.flow.pendingPortalTransfer.filter (·.assignRequestId ≠ p.assignRequestId) } }
      st.failPendingPortalTransfer p)
    st

/-! ## Closing a session -/

/-- `AbortEnterWorldFlowBySession_`. -/
def abortEnterWorldFlowBySession (st : WorldRuntime) (sid serial : UInt32) : WorldRuntime :=
  if isValidSessionKey sid serial = false then st
  else
    { st with
      reg := st.reg.abortEnterWorldStage sid serial
      flow := ((st.flow.erasePendingEnterWorldConsumeRequestsBySession sid
        serial).erasePendingEnterWorldFinalizeBySession sid
        serial).erasePendingCharacterEnterSnapshotRequestsBySession sid serial
        |>.erasePendingZonePlayerEnterRequestsBySession sid serial }

/-- `HandleWorldSessionClosed`, up to the dispatch to the strand. -/
def handleWorldSessionClosed (st : WorldRuntime) (sid serial : UInt32) : WorldRuntime :=
  let key := packSessionKey sid serial
  let st := st.abortEnterWorldFlowBySession sid serial
  let reg := st.reg.markEnterWorldSessionClosing sid serial
  let reg := { reg with worldEnterStageBySessionKey := reg.worldEnterStageBySessionKey.erase key }
  let st := { st with reg }
  let closeReason := (st.reg.sessionCloseReasonBySessionKey key).getD .networkDisconnect
  let closeCharId := ((st.reg.findAuthenticatedWorldSessionBySid sid).map (·.charId)).getD 0
  { st with strand := st.strand ++ [.close sid serial closeCharId closeReason] }

/-- `ProcessWorldSessionClosedOnIo_`. -/
def processWorldSessionClosedOnIo (st : WorldRuntime) (sid serial : UInt32) : WorldRuntime :=
  if isValidSessionKey sid serial = false then st
  else
    let st :=
      { st with delayed := (st.delayed.releaseDelayedWorldCloseReservation sid serial).2 }
    let unbind := (st.reg.unbindAuthenticatedWorldSessionBySid sid serial).1
    let st := { st with reg := (st.reg.unbindAuthenticatedWorldSessionBySid sid serial).2 }
    st.cleanupClosedWorldSessionActors unbind sid serial

/-- The strand task of `HandleWorldSessionClosed`: unless the client logged
out, the close waits for the reconnect grace period. -/
def runCloseTask (st : WorldRuntime) (sid serial : UInt32) (closeCharId : UInt64)
    (closeReason : WorldSessionCloseReason) : WorldRuntime :=
  let allowGrace := closeReason ≠ .explicitSoftLogout ∧ closeReason ≠ .explicitHardLogout
  let reserved := st.delayed.tryReserveDelayedWorldClose sid serial
  if allowGrace ∧ reserved.1 = true then
    let reason :=
      (st.reg.sessionCloseReasonBySessionKey (packSessionKey sid serial)).getD .networkDisconnect
    let armed := reserved.2.armReservedDelayedWorldClose sid serial .grace 0 closeCharId reason
      (st.reg.tryGetAuthenticatedWorldSession sid serial) st.out.length
    if armed.1 then { st with delayed := armed.2 }
    else
      processWorldSessionClosedOnIo
        { st with delayed := (armed.2.releaseDelayedWorldCloseReservation sid serial).2 } sid serial
  else st.processWorldSessionClosedOnIo sid serial

/-- `ProcessDuplicateWorldSessionKickOnIo_`. -/
def processDuplicateWorldSessionKickOnIo (st : WorldRuntime) (ctx : DuplicateLoginLogContext) :
    WorldRuntime :=
  if ctx.charId = 0 ∨ isValidSessionKey ctx.sid ctx.serial = false then st
  else
    -- `TryBeginDuplicateWorldSessionKickClose_`
    let st := st.abortEnterWorldFlowBySession ctx.sid ctx.serial
    let st := { st with reg := st.reg.markWorldSessionCloseReason ctx.sid ctx.serial .duplicateKick }
    let reserved := st.delayed.tryReserveDelayedWorldClose ctx.sid ctx.serial
    if reserved.1 = false then st
    else
      let st := { st with delayed := reserved.2 }
      let armed := st.delayed.armReservedDelayedWorldClose ctx.sid ctx.serial .kick ctx.traceId
        ctx.charId .duplicateKick (st.reg.tryGetAuthenticatedWorldSession ctx.sid ctx.serial)
        st.out.length
      if st.tcp.send ctx.sid ctx.serial ∧ armed.1 = true then { st with delayed := armed.2 }
      else
        -- `CloseDuplicateWorldSessionImmediately_`
        { st with
          delayed := st.delayed.updateReservedDelayedWorldCloseContext ctx.sid ctx.serial ctx.traceId
            ctx.charId
          tcp := st.tcp.close ctx.sid ctx.serial }

/-- The completion of a delayed-close timer: `aborted` is
`operation_aborted`, which only a cancelled wait gets. -/
def onDelayedCloseTimer (st : WorldRuntime) (t : CloseTimer) (aborted : Bool) : WorldRuntime :=
  let st := { st with delayed := st.delayed.completeTimer t }
  if aborted then st else { st with tcp := st.tcp.close t.sid t.serial }

/-! ## Client packets -/

/-- The actor `HandleWorldBenchMove` makes up for a slot without a session. -/
def benchActorId (sid : UInt32) : UInt64 := ((1 : UInt64) <<< 63) ||| sid.toUInt64

/-- The character a handler acts for; 0 if it rejects the packet.  A bench
move is never rejected, and an actor forward is only if it names no actor. -/
def resolveCharId (st : WorldRuntime) (sid : UInt32) (op : GameplayOp) : UInt64 :=
  let charId := st.reg.findCharIdBySession sid
  match op with
  | .benchMove => if charId = 0 then benchActorId sid else charId
  | .actorForward targetActorId => if targetActorId = 0 then charId else targetActorId
  | _ => charId

/-- A gameplay handler: it acts for the character it resolves, or rejects the
packet (`ResolveAuthenticatedCharIdOrReject_`). -/
def handleGameplay (st : WorldRuntime) (sid serial : UInt32) (op : GameplayOp) : WorldRuntime :=
  let charId := st.resolveCharId sid op
  if charId ≠ 0 then st.emit (.applied op sid serial charId)
  else st.emit (.rejected op sid serial)

/-- `HandleLogoutWorld`. -/
def handleLogoutWorld (st : WorldRuntime) (sid serial : UInt32) (logoutType : LogoutType) :
    WorldRuntime :=
  if serial = 0 then st
  else match st.reg.tryGetAuthenticatedWorldSession sid serial with
    | none => st
    | some _ =>
        let reason : WorldSessionCloseReason :=
          if logoutType = .hard then .explicitHardLogout else .explicitSoftLogout
        { st with
          reg := st.reg.markWorldSessionCloseReason sid serial reason
          tcp := st.tcp.close sid serial }

/-- `HandleReconnectWorld` with `TryReconnectWorldSession`. -/
def handleReconnectWorld (st : WorldRuntime) (sid serial : UInt32) (accountId charId : UInt64)
    (token : String) : WorldRuntime :=
  if serial = 0 then st
  else
    let result := (st.reg.tryReconnectWorldSession accountId charId token sid serial).1
    let st :=
      { st with reg := (st.reg.tryReconnectWorldSession accountId charId token sid serial).2 }
    if result.code ≠ .success then st
    else
      let previous := result.previousSession
      -- `CancelDelayedWorldClose`
      let st :=
        { st with
          delayed := (st.delayed.releaseDelayedWorldCloseReservation previous.sid
            previous.serial).2.markTakenOver previous.sid previous.serial }
      st.emit (.reconnected charId sid serial)

/-- `HandleEnterWorldWithToken`. -/
def handleEnterWorldWithToken (st : WorldRuntime) (sid serial : UInt32) (accountId : UInt64)
    (loginSession worldToken : String) (ready sent : Bool) : WorldRuntime :=
  if serial = 0 then st
  else
    let requested :=
      st.requestConsumeWorldAuthTicket sid serial accountId loginSession worldToken ready sent
    if requested.1 then requested.2
    else
      requested.2.emit (.enterWorldResult
        { requestId := 0, sid, serial, accountId, charId := 0, loginSession, worldToken } false
        .internalError)

/-- `HandlePacket_` and `DataAnalysis`: the serial the handlers read back
with `GetLatestSerial` is the one just stored. -/
def handlePacket (st : WorldRuntime) (sid serial : UInt32) (p : ClientPacket) (ready sent : Bool) :
    WorldRuntime :=
  let st := { st with sessionSerials := st.sessionSerials.set sid serial }
  let serial := st.getLatestSerial sid
  match p with
  | .enterWorldWithToken accountId loginSession worldToken =>
      st.handleEnterWorldWithToken sid serial accountId loginSession worldToken ready sent
  | .logoutWorld logoutType => st.handleLogoutWorld sid serial logoutType
  | .reconnectWorld accountId charId token =>
      st.handleReconnectWorld sid serial accountId charId token
  | .gameplay op => st.handleGameplay sid serial op

/-- `HandleDisconnected_`: a close counts only for the latest serial of the
slot. -/
def handleDisconnected (st : WorldRuntime) (sid serial : UInt32) : WorldRuntime :=
  let st := if st.getLatestSerial sid = serial then st.handleWorldSessionClosed sid serial else st
  { st with sessionSerials := st.sessionSerials.eraseMatching sid serial }

/-- Run one posted network task. -/
def runNetTask (st : WorldRuntime) (task : NetTask) (ready sent : Bool) : WorldRuntime :=
  match task with
  | .connected sid serial => { st with sessionSerials := st.sessionSerials.set sid serial }
  | .packet sid serial p => st.handlePacket sid serial p ready sent
  | .disconnected sid serial => st.handleDisconnected sid serial

/-- Run one strand task. -/
def runStrandTask (st : WorldRuntime) : StrandTask → WorldRuntime
  | .close sid serial closeCharId closeReason => st.runCloseTask sid serial closeCharId closeReason
  | .kick ctx => st.processDuplicateWorldSessionKickOnIo ctx

/-! ## Events -/

/-- What can happen to the process. -/
inductive Event where
  /-- The acceptor registers a new connection. -/
  | accept
  /-- A packet arrives on a live connection. -/
  | receive (sid serial : UInt32) (p : ClientPacket)
  /-- A connection ends, from either side. -/
  | terminate (sid serial : UInt32)
  /-- Some posted network task runs. -/
  | netTask (task : NetTask) (ready sent : Bool)
  /-- The next strand task runs. -/
  | strand
  /-- A delayed-close timer completes. -/
  | timer (id : Nat) (aborted : Bool)
  | ticketConsumeResponse (res : TicketConsumeResponse) (pushed : Bool)
  | snapshotResult (rr : SnapshotResult) (answers : EnterAnswers)
  | zoneMapAssignResponse (sid serial : UInt32) (res : ZoneMapAssignResponse)
      (sendOk : UInt64 → Bool)
  | zonePlayerEnterAck (sid serial : UInt32) (ack : ZonePlayerEnterAck) (notified : Bool)
      (bytes : Vector UInt8 32)
  | registerZoneRoute (hello : ZoneRouteState)
  | zoneRouteHeartbeat (beat : ZoneRouteState)
  | unregisterZoneRoute (sid serial : UInt32)
  | expireStaleZoneRoutes (routes : List UInt32) (enters portals : List UInt64)
  | beginPortalTransfer (request : PendingPortalTransfer) (assignSendOk : Bool)
  /-- A hash table is rehashed: its iteration order changes. -/
  | rehash (routes : List ZoneRouteState) (assigns : List PendingZoneAssignRequest)
      (enters : List PendingZonePlayerEnterRequest)

/-- One step of the process.  An event that does not apply (a task that was
not posted, a connection that is not live, a timer that is not running)
changes nothing. -/
def step (topology : Option ServerTopology) (st : WorldRuntime) : Event → WorldRuntime
  | .accept =>
      let (sid, serial) := st.tcp.nextConnection
      { st with tcp := st.tcp.accept, netTasks := .connected sid serial :: st.netTasks }
  | .receive sid serial p =>
      if st.tcp.isConnected sid serial then
        { st with netTasks := .packet sid serial p :: st.netTasks }
      else st
  | .terminate sid serial =>
      if st.tcp.isConnected sid serial then
        { st with
          tcp := st.tcp.terminate sid serial
          netTasks := .disconnected sid serial :: st.netTasks }
      else st
  | .netTask task ready sent =>
      if task ∈ st.netTasks then
        { st with netTasks := st.netTasks.erase task }.runNetTask task ready sent
      else st
  | .strand =>
      match st.strand with
      | [] => st
      | task :: rest => { st with strand := rest }.runStrandTask task
  | .timer id aborted =>
      match st.delayed.timers.find? (·.id == id) with
      | none => st
      | some t =>
          if aborted = true ∧ t.cancelled = false then st else st.onDelayedCloseTimer t aborted
  | .ticketConsumeResponse res pushed => st.onWorldAuthTicketConsumeResponse res pushed
  | .snapshotResult rr answers => st.onCharacterEnterSnapshotResult topology rr answers
  | .zoneMapAssignResponse sid serial res sendOk => st.onZoneMapAssignResponse sid serial res sendOk
  | .zonePlayerEnterAck sid serial ack notified bytes =>
      st.onZonePlayerEnterAck sid serial ack notified bytes
  | .registerZoneRoute hello => { st with flow := st.flow.registerZoneRoute topology hello }
  | .zoneRouteHeartbeat beat => { st with flow := st.flow.onZoneRouteHeartbeat topology beat }
  | .unregisterZoneRoute sid serial => st.unregisterZoneRoute sid serial
  | .expireStaleZoneRoutes routes enters portals => st.expireStaleZoneRoutes routes enters portals
  | .beginPortalTransfer request assignSendOk =>
      st.beginPortalTransfer topology request assignSendOk
  | .rehash routes assigns enters =>
      if routes.Perm st.flow.zoneRoutes ∧ assigns.Perm st.flow.pendingZoneAssign ∧
          enters.Perm st.flow.pendingZonePlayerEnter then
        { st with
          flow := { st.flow with
            zoneRoutes := routes, pendingZoneAssign := assigns, pendingZonePlayerEnter := enters } }
      else st

/-! ## A typical enter

The events that take a connection into the world, in the order in which they
happen when nothing else does.  `n` is the number of enters before. -/

/-- Zone process 1, on connection `(5, 1)` of the zone line, registers. -/
def zoneUp : Event :=
  .registerZoneRoute { sid := 5, serial := 1, serverId := 1, zoneId := 1, channelId := 1 }

/-- The next connection is `(sid, serial)`. -/
def connect (sid serial : UInt32) : List Event :=
  [.accept, .netTask (.connected sid serial) true true]

/-- The client asks to enter, and its ticket is accepted. -/
def askToEnter (sid serial : UInt32) (accountId charId n : UInt64) : List Event :=
  [.receive sid serial (.enterWorldWithToken accountId "login" "ticket"),
   .netTask (.packet sid serial (.enterWorldWithToken accountId "login" "ticket")) true true,
   .ticketConsumeResponse ⟨2 * n + 1, .ok, accountId, charId, "login", "ticket"⟩ true]

/-- The character's snapshot arrives, and the zone lets it in.  The map is
assigned by the first enter. -/
def answersToEnter (accountId charId n : UInt64) : List Event :=
  [.snapshotResult ⟨2 * n + 2, true, true, makeDefaultCharacterCoreState accountId charId⟩
     ⟨.replicate 32 n.toUInt8, true, true⟩,
   .zoneMapAssignResponse 5 1 ⟨n + 1, .ok, 1, 1, 0⟩ fun _ => true,
   .zonePlayerEnterAck 5 1 ⟨n + 1, .ok, charId, 1, 1, 0⟩ true (.replicate 32 n.toUInt8)]

/-- A connection enters the world. -/
def enterWorld (sid serial : UInt32) (accountId charId n : UInt64) : List Event :=
  askToEnter sid serial accountId charId n ++ answersToEnter accountId charId n

/-- A connection ends and its close is handled. -/
def disconnect (sid serial : UInt32) : List Event :=
  [.terminate sid serial, .netTask (.disconnected sid serial) true true, .strand]

end WorldRuntime

end GameServer
