import GameServer.World.CharacterZones
import GameServer.World.ZoneLink

/-!
# GameServer.World.PositionLink

The player actors of a world process and the zone process that mirrors their
positions.

A position is decided by a task of a player actor and written again by the
zone process, into the binding of the player.  What tells the zone is sent in
three places: the task itself (`MirrorPlayerMoveToZone`), the task posted to
the zone actor after an enter or a transfer (`RequestZoneInitialSnapshot`),
and the leaves and enters that change the map.  All of it travels in order on
one connection whose routes are present; the session registry and the map
assignments are answers given with the events.

* `requestsOf` — what a task sends to the zone;
* `PositionLink.step` — one event of the whole;
* `PositionLink.Agrees` — with nothing outstanding, the two processes agree.
-/

namespace GameServer

/-- Where a character is. -/
structure Place where
  mapTemplateId : UInt32
  instanceId : UInt32
  pos : Vec2i
deriving DecidableEq, Repr

/-- The place a player actor holds. -/
def PlayerActor.place (a : PlayerActor) : Place := ⟨a.getMapId, a.mapInstanceId, a.getPosition⟩

/-- The place a zone process has a player bound at. -/
def PlayerBindingState.place (b : PlayerBindingState) : Place :=
  ⟨b.mapTemplateId, b.instanceId, ⟨b.x, b.y⟩⟩

/-- The two processes, and what the world mirrors. -/
structure PositionConfig where
  actors : ActorConfig := {}
  zone : ZoneConfig
  enableZoneAoiSnapshot : Bool := true
  enableZoneAoiMoveDiff : Bool := true

/-- What the session registry says when an answer of the zone arrives: whether
a transfer's session is still the character's, whether an enter's session
waits (`IsEnterWorldSessionPending`) and is promoted
(`PromoteEnterWorldSessionToInWorld`), and whose session a rollback unbinds. -/
structure AnswerChecks where
  bound : Bool := true
  pending : Bool := true
  promoted : Bool := true
  unboundCharId : UInt64 := 0
deriving DecidableEq, Repr

/-! ## What is sent -/

/-- The packets of `CompletePortalTransfer_`. -/
def transferRequests (pending : PendingPortalTransfer) (zoneId : UInt16)
    (mapTemplateId instanceId : UInt32) : List ZoneRequest :=
  [.playerLeave
      { charId := pending.charId, mapTemplateId := pending.sourceMapTemplateId
        instanceId := pending.sourceInstanceId, zoneId := pending.sourceZoneId },
    .playerEnter { charId := pending.charId, mapTemplateId, instanceId, zoneId }]

/-- `MirrorPlayerMoveToZone`. -/
def mirrorPlayerMoveToZone (cfg : PositionConfig) (charId : UInt64) (sid serial : UInt32)
    (a : PlayerActor) : List ZoneRequest :=
  if cfg.enableZoneAoiSnapshot = false ∧ cfg.enableZoneAoiMoveDiff = false then []
  else
    [.playerMoveInternal
      { charId, sid, serial
        mapTemplateId := a.getMapId
        instanceId := a.mapInstanceId
        zoneId := a.getZoneId.toUInt16
        x := a.getPosition.x
        y := a.getPosition.y }]

/-- `RequestZoneInitialSnapshot`, up to the map and the reason, which do not
matter to the binding. -/
def requestZoneInitialSnapshot (cfg : PositionConfig) (zoneId : UInt32) (charId : UInt64)
    (pos : Vec2i) (sid serial : UInt32) : List ZoneRequest :=
  if cfg.enableZoneAoiSnapshot = false then []
  else
    [.playerMoveInternal
      { charId, sid, serial, zoneId := zoneId.toUInt16, x := pos.x, y := pos.y }]

/-- What `HandleWorldMove` sends to the zone: a walk is mirrored, and a
transfer may be completed at once.  A portal within the map sends nothing. -/
def moveRequests (cfg : PositionConfig) (a : PlayerActor) (charId : UInt64) (sid : UInt32)
    (x y : Int32) (ans : MoveAnswers) : List ZoneRequest :=
  match decideWorldMove cfg.actors a charId sid x y ans with
  | .ignored => []
  | .transfer request =>
      match ans.assign with
      | .ok zoneId true =>
          transferRequests request zoneId request.targetMapTemplateId request.targetInstanceId
      | _ => []
  | .portalMove _ _ _ _ => []
  | .walk =>
      let a' := a.setWorldPosition a.getZoneId a.getMapId a.mapInstanceId x y 0 0
      if a'.getZoneId = a.getZoneId ∧ a'.getMapId = a.getMapId ∧
          a'.mapInstanceId = a.mapInstanceId ∧ a'.getPosition = a.getPosition then []
      else mirrorPlayerMoveToZone cfg charId sid ans.serial a'

/-- What a task of the world sends to the zone. -/
def requestsOf (cfg : PositionConfig) (st : WorldActors) (ans : MoveAnswers) :
    ActorPost → List ZoneRequest
  | .player charId (.move sid x y) => moveRequests cfg (st.players charId) charId sid x y ans
  | .player _ (.leaveWorld ctx) =>
      if ctx.zoneId ≠ 0 then
        [.playerLeave
          { charId := ctx.charId, mapTemplateId := ctx.mapTemplateId
            instanceId := ctx.instanceId, zoneId := ctx.zoneId }]
      else []
  | .player _ _ => []
  | .zone zoneId (.join charId pos sid serial) =>
      requestZoneInitialSnapshot cfg zoneId charId pos sid serial
  | .zone _ _ => []

/-! ## Events -/

/-- The two processes and what is on the way between them. -/
structure PositionLink where
  actors : WorldActors := {}
  zone : ZoneRuntime := {}
  toZone : List ZoneRequest := []
  toWorld : List ZoneAnswer := []
  /-- `pending_zone_player_enter_requests_`. -/
  enters : List PendingZonePlayerEnterRequest := []
  nextZonePlayerEnterRequestId : UInt64 := 1

namespace PositionLink

/-- What can happen. -/
inductive Event where
  /-- `FinalizeEnterWorldSuccess_` records an enter and sends it. -/
  | enterSent (enter : PendingZonePlayerEnterRequest)
  /-- An enter that waits is dropped: its session closed, or it took too long. -/
  | enterDropped (requestId : UInt64)
  | assignSent (req : WorldZoneMapAssignRequest)
  | transferFailed (requestId : UInt64)
  | sessionClosed (charId : UInt64) (sid serial : UInt32)
  | leaveBegun (ctx : LeaveWorldContext)
  /-- A move packet of a client is posted to its actor. -/
  | movePacket (charId : UInt64) (sid : UInt32) (x y : Int32)
  /-- An actor of the world runs its oldest task. -/
  | run (actor : ActorAddr) (ans : MoveAnswers)
  /-- The zone handles the next request. -/
  | zone (now : Nat)
  | reap (now : Nat)
  /-- The world handles the next answer of the zone. -/
  | receive (checks : AnswerChecks)

/-- The mail once an actor has taken its oldest task. -/
def taken (l : PositionLink) (actor : ActorAddr) : PositionLink :=
  { l with actors := l.actors.taken actor }

/-- An enter that waits is dropped. -/
def dropEnter (l : PositionLink) (requestId : UInt64) : PositionLink :=
  { l with enters := l.enters.filter (·.requestId ≠ requestId) }

/-- `CompletePortalTransfer_`. -/
def completePortalTransfer (l : PositionLink) (pending : PendingPortalTransfer) (zoneId : UInt16)
    (mapTemplateId instanceId : UInt32) (bound : Bool) : PositionLink :=
  { l with
    actors := l.actors.completePortalTransfer pending zoneId mapTemplateId instanceId bound
    toZone := l.toZone ++
      if bound then transferRequests pending zoneId mapTemplateId instanceId else [] }

/-- The portal transfer of `OnZoneMapAssignResponse`. -/
def onZoneMapAssignResponse (l : PositionLink) (res : ZoneWorldMapAssignResponse) (bound : Bool) :
    PositionLink :=
  match l.actors.pendingPortalTransfer.find? (·.assignRequestId == res.requestId) with
  | none => l
  | some pending =>
      let l := { l with actors := l.actors.failPendingPortalTransfer res.requestId }
      if res.resultCode = .ok then
        l.completePortalTransfer pending res.zoneId res.mapTemplateId res.instanceId bound
      else l

/-- The answer is the one to the enter. -/
def matchesAck (enter : PendingZonePlayerEnterRequest) (ack : ZoneWorldPlayerEnterAck) : Bool :=
  enter.enterPending.charId == ack.charId && enter.mapTemplateId == ack.mapTemplateId &&
    enter.instanceId == ack.instanceId && enter.targetZoneId == ack.zoneId

/-- `OnZonePlayerEnterAck`. -/
def onZonePlayerEnterAck (l : PositionLink) (ack : ZoneWorldPlayerEnterAck)
    (checks : AnswerChecks) : PositionLink :=
  match l.enters.find? (·.requestId == ack.requestId) with
  | none => l
  | some enter =>
      let p := enter.enterPending
      let l := l.dropEnter ack.requestId
      if checks.pending = false then l
      else if matchesAck enter ack = false ∨ ack.resultCode ≠ .ok then
        { l with
          actors := l.actors.cleanupClosedWorldSessionActors checks.unboundCharId p.sid p.serial }
      else if checks.promoted = false then l
      else
        { l with
          actors := l.actors.completeEnterWorldSuccessAfterZoneAck p.charId enter.coreState p.sid
            p.serial enter.targetZoneId enter.mapTemplateId enter.instanceId }

/-- An answer of the zone. -/
def onAnswer (l : PositionLink) (checks : AnswerChecks) : ZoneAnswer → PositionLink
  | .mapAssign res => l.onZoneMapAssignResponse res checks.bound
  | .playerEnter ack => l.onZonePlayerEnterAck ack checks

/-- One event. -/
def step (cfg : PositionConfig) (l : PositionLink) : Event → PositionLink
  | .enterSent enter =>
      let enter := { enter with requestId := l.nextZonePlayerEnterRequestId }
      { l with
        nextZonePlayerEnterRequestId := l.nextZonePlayerEnterRequestId + 1
        enters := upsertBy (·.requestId) enter l.enters
        toZone := l.toZone ++ [ZoneLink.enterRequest enter] }
  | .enterDropped requestId => l.dropEnter requestId
  | .assignSent req => { l with toZone := l.toZone ++ [.mapAssign req] }
  | .transferFailed requestId => { l with actors := l.actors.failPendingPortalTransfer requestId }
  | .sessionClosed charId sid serial =>
      { l with actors := l.actors.cleanupClosedWorldSessionActors charId sid serial }
  | .leaveBegun ctx => { l with actors := l.actors.beginLeaveWorld ctx }
  | .movePacket charId sid x y =>
      { l with actors := l.actors.post (.player charId (.move sid x y)) }
  | .run actor ans =>
      { l with
        actors := l.actors.runOldest cfg.actors actor ans
        toZone := l.toZone ++
          (Mailbox.oldest ActorPost.addr actor l.actors.mail).elim []
            (requestsOf cfg l.actors ans) }
  | .zone now =>
      match l.toZone with
      | [] => l
      | request :: rest =>
          let r := l.zone.handle cfg.zone now request
          { l with zone := r.1, toZone := rest, toWorld := l.toWorld ++ r.2 }
  | .reap now => { l with zone := l.zone.reapEmptyDungeonInstances now }
  | .receive checks =>
      match l.toWorld with
      | [] => l
      | answer :: rest => { l with toWorld := rest }.onAnswer checks answer

/-- No message and no task is outstanding. -/
structure Quiet (l : PositionLink) : Prop where
  toZone : l.toZone = []
  toWorld : l.toWorld = []
  mail : l.actors.mail = []

/-- With nothing outstanding, a character in the world whose binding has a
position is bound where its player actor is. -/
def Agrees (l : PositionLink) : Prop :=
  l.Quiet → ∀ c, (l.actors.players c).isInWorld = true →
    ∀ b, l.zone.playerBindings.lookup c = some b → b.hasPosition = true →
      b.place = (l.actors.players c).place

end PositionLink

end GameServer
