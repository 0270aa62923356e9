import GameServer.World.ActorTasks
import GameServer.World.Runtime
import GameServer.Zone.ZoneRuntime

/-!
# GameServer.World.ZoneLink

A world process and a zone process on one connection of the zone line.

The two processes share nothing: the world sends requests, the zone answers,
and each direction of the connection is a queue that loses nothing.  A request
leaves the world while an event of it is handled, or while an actor runs a
task that was posted earlier.

* `ZoneRequest`, `ZoneAnswer` — what travels between them;
* `ZoneLink.advance` — a step of the world process, with the requests it
  sends and the tasks it posts;
* `ZoneLink.step` — one event of the whole.
-/

namespace GameServer

/-- The packets of `WorldZoneHandler`. -/
inductive ZoneRequest where
  | mapAssign (req : WorldZoneMapAssignRequest)
  | playerEnter (req : WorldZonePlayerEnter)
  | playerLeave (req : WorldZonePlayerLeave)
  | playerMoveInternal (req : WorldZonePlayerMoveInternal)
deriving DecidableEq, Repr

/-- The answers of a zone process, up to those about who sees whom. -/
inductive ZoneAnswer where
  | mapAssign (res : ZoneWorldMapAssignResponse)
  | playerEnter (ack : ZoneWorldPlayerEnterAck)
deriving DecidableEq, Repr

namespace ZoneRuntime

/-- The zone process handles a request, and answers it if it is one that is
answered. -/
def handle (cfg : ZoneConfig) (z : ZoneRuntime) (now : Nat) :
    ZoneRequest → ZoneRuntime × List ZoneAnswer
  | .mapAssign req =>
      let r := z.onMapAssignRequest cfg now req
      (r.1, [.mapAssign r.2])
  | .playerEnter req =>
      let r := z.onPlayerEnterRequest cfg now req
      (r.1, [.playerEnter r.2])
  | .playerLeave req => (z.onPlayerLeaveRequest now req, [])
  | .playerMoveInternal req => (z.onPlayerMoveInternalRequest cfg now req, [])

/-- The event of the zone process that a request is. -/
def eventOf (now : Nat) : ZoneRequest → Event
  | .mapAssign req => .mapAssign now req
  | .playerEnter req => .playerEnter now req
  | .playerLeave req => .playerLeave now req
  | .playerMoveInternal req => .playerMoveInternal now req

theorem handle_fst (cfg : ZoneConfig) (z : ZoneRuntime) (now : Nat) (request : ZoneRequest) :
    (z.handle cfg now request).1 = z.step cfg (eventOf now request) := by
  cases request <;> rfl

end ZoneRuntime

/-- Both processes, and the connection of the zone at the world. -/
structure LinkConfig where
  topology : Option ServerTopology := none
  actors : ActorConfig := {}
  zone : ZoneConfig
  sid : UInt32 := 5
  serial : UInt32 := 1

/-- A player-enter that was sent: for an enter of the protocol with its
record, for a portal transfer without. -/
structure EnterSent where
  charId : UInt64
  record : Option PendingZonePlayerEnterRequest
deriving DecidableEq

/-- The two processes and what is on the way between them. -/
structure ZoneLink where
  world : WorldRuntime := .initial
  actors : WorldActors := {}
  zone : ZoneRuntime := {}
  toZone : List ZoneRequest := []
  toWorld : List ZoneAnswer := []
  /-- Every player-enter that was ever sent. -/
  entersSent : List EnterSent := []

namespace ZoneLink

/-! ## What a step of the world sends and posts -/

/-- A packet about a place goes to the zone of this connection. -/
def reaches (cfg : LinkConfig) (f : EnterFlow) (zoneId : UInt16)
    (mapTemplateId instanceId : UInt32) : Bool :=
  (f.resolveZoneRouteForMapInstance zoneId mapTemplateId instanceId).any fun route =>
    route.sid == cfg.sid && route.serial == cfg.serial

/-- The map-assign request `SendMapAssignRequest` sent: the one recorded under
the id that was drawn. -/
def mapAssignsSent (cfg : LinkConfig) (dungeonInstance : Bool) (st st' : WorldRuntime) :
    List ZoneRequest :=
  if st'.flow.nextZoneAssignRequestId = st.flow.nextZoneAssignRequestId then []
  else
    (st'.flow.pendingZoneAssign.filter fun a =>
      a.requestId == st.flow.nextZoneAssignRequestId && a.targetSid == cfg.sid &&
        a.targetSerial == cfg.serial).map fun a =>
      .mapAssign
        { requestId := a.requestId
          mapTemplateId := a.mapTemplateId
          instanceId := a.instanceId
          createIfMissing := 1
          dungeonInstance := if dungeonInstance then 1 else 0 }

/-- The request ids that a step drew for player-enters. -/
def enterIdsDrawn (st st' : WorldRuntime) : List UInt64 :=
  let first := st.flow.nextZonePlayerEnterRequestId
  (List.range (st'.flow.nextZonePlayerEnterRequestId - first).toNat).map fun i =>
    first + UInt64.ofNat i

/-- The enters `FinalizeEnterWorldSuccess_` sent to this connection: those
recorded under the ids that were drawn. -/
def recordsSent (cfg : LinkConfig) (st st' : WorldRuntime) : List PendingZonePlayerEnterRequest :=
  (enterIdsDrawn st st').filterMap fun requestId =>
    (st'.flow.pendingZonePlayerEnter.find? (·.requestId == requestId)).filter fun record =>
      reaches cfg st'.flow record.targetZoneId record.mapTemplateId record.instanceId

/-- The packet of a recorded enter. -/
def enterRequest (record : PendingZonePlayerEnterRequest) : ZoneRequest :=
  .playerEnter
    { requestId := record.requestId
      charId := record.enterPending.charId
      mapTemplateId := record.mapTemplateId
      instanceId := record.instanceId
      zoneId := record.targetZoneId }

/-- The packets of a portal transfer that completes; the results of the two
sends are not looked at. -/
def transferRequests (cfg : LinkConfig) (f : EnterFlow) : Output → List ZoneRequest
  | .portalCompleted p zoneId mapTemplateId instanceId =>
      (if reaches cfg f p.sourceZoneId p.sourceMapTemplateId p.sourceInstanceId then
        [.playerLeave
          { charId := p.charId, mapTemplateId := p.sourceMapTemplateId
            instanceId := p.sourceInstanceId, zoneId := p.sourceZoneId }]
      else []) ++
      (if reaches cfg f zoneId mapTemplateId instanceId then
        [.playerEnter { charId := p.charId, mapTemplateId, instanceId, zoneId }]
      else [])
  | _ => []

/-- The character a player-enter is for. -/
def enteringChar? : ZoneRequest → Option UInt64
  | .playerEnter req => some req.charId
  | _ => none

/-- What an output of the world process posts to the actors. -/
def postOutput (a : WorldActors) : Output → WorldActors
  | .enterPosted charId sid serial zoneId mapTemplateId instanceId coreState =>
      a.completeEnterWorldSuccessAfterZoneAck charId coreState sid serial zoneId mapTemplateId
        instanceId
  | .cleanupPosted charId sid serial => a.cleanupClosedWorldSessionActors charId sid serial
  | .leavePosted ctx => a.beginLeaveWorld ctx
  | .portalCompleted p zoneId mapTemplateId instanceId =>
      a.completePortalTransfer p zoneId mapTemplateId instanceId true
  | _ => a

/-- `IsDungeonMapTemplate_` is asked by portal transfers only. -/
def asksForDungeon : WorldRuntime.Event → Bool
  | .beginPortalTransfer request _ => EnterFlow.isDungeonMapTemplate request.targetMapTemplateId
  | _ => false

/-- A step of the world process. -/
def advance (cfg : LinkConfig) (l : ZoneLink) (e : WorldRuntime.Event) : ZoneLink :=
  let st := l.world
  let st' := st.step cfg.topology e
  let outputs := st'.out.drop st.out.length
  let records := recordsSent cfg st st'
  let transfers := outputs.flatMap (transferRequests cfg st'.flow)
  { l with
    world := st'
    actors := outputs.foldl postOutput l.actors
    toZone := l.toZone ++ mapAssignsSent cfg (asksForDungeon e) st st' ++
      records.map enterRequest ++ transfers
    entersSent := l.entersSent ++
      records.map (fun record => ⟨record.enterPending.charId, some record⟩) ++
      (transfers.filterMap enteringChar?).map fun charId => ⟨charId, none⟩ }

/-! ## Events -/

/-- What can happen. -/
inductive Event where
  /-- An event of the world process that is not an answer of a zone. -/
  | world (e : WorldRuntime.Event)
  /-- The world handles the next answer of the zone. -/
  | receive (sendOk : UInt64 → Bool) (notified : Bool) (bytes : Vector UInt8 32)
  /-- An actor of the world runs its oldest task. -/
  | actor (actor : ActorAddr) (ans : MoveAnswers)
  /-- A move packet of a client is posted to its actor. -/
  | movePacket (charId : UInt64) (sid : UInt32) (x y : Int32)
  /-- A position is mirrored to the zone; which and when is left open. -/
  | mirror (req : WorldZonePlayerMoveInternal)
  /-- The zone handles the next request. -/
  | zone (now : Nat)
  /-- The zone sweeps its empty dungeons. -/
  | reap (now : Nat)

/-- The events that only a zone can cause. -/
def isZoneAnswer : WorldRuntime.Event → Bool
  | .zoneMapAssignResponse .. | .zonePlayerEnterAck .. => true
  | _ => false

/-- The result codes as the world reads them. -/
def mapAssignCode : ZoneMapAssignResultCode → WorldRuntime.ZoneMapAssignResultCode
  | .ok => .ok
  | .notFound => .notFound
  | .capacityFull => .capacityFull
  | .internalError => .internalError

/-- The result codes as the world reads them. -/
def playerEnterCode : ZonePlayerEnterResultCode → WorldRuntime.ZonePlayerEnterResultCode
  | .ok => .ok
  | .mapNotFound => .mapNotFound
  | .internalError => .internalError

/-- The event of the world process that an answer is. -/
def answerEvent (cfg : LinkConfig) (sendOk : UInt64 → Bool) (notified : Bool)
    (bytes : Vector UInt8 32) : ZoneAnswer → WorldRuntime.Event
  | .mapAssign res =>
      .zoneMapAssignResponse cfg.sid cfg.serial
        ⟨res.requestId, mapAssignCode res.resultCode, res.zoneId, res.mapTemplateId,
          res.instanceId⟩ sendOk
  | .playerEnter ack =>
      .zonePlayerEnterAck cfg.sid cfg.serial
        ⟨ack.requestId, playerEnterCode ack.resultCode, ack.charId, ack.zoneId,
          ack.mapTemplateId, ack.instanceId⟩ notified bytes

/-- `SendZonePlayerLeave_` of the task that an actor runs. -/
def leavesSent (cfg : LinkConfig) (l : ZoneLink) (actor : ActorAddr) : List ZoneRequest :=
  match Mailbox.oldest ActorPost.addr actor l.actors.mail with
  | some (.player _ (.leaveWorld ctx)) =>
      if ctx.zoneId ≠ 0 ∧
          reaches cfg l.world.flow ctx.zoneId ctx.mapTemplateId ctx.instanceId then
        [.playerLeave
          { charId := ctx.charId, mapTemplateId := ctx.mapTemplateId
            instanceId := ctx.instanceId, zoneId := ctx.zoneId }]
      else []
  | _ => []

/-- One event.  A transfer that a move asks for is begun by an event of the
world process. -/
def step (cfg : LinkConfig) (l : ZoneLink) : Event → ZoneLink
  | .world e => if isZoneAnswer e then l else l.advance cfg e
  | .receive sendOk notified bytes =>
      match l.toWorld with
      | [] => l
      | answer :: rest =>
          { l with toWorld := rest }.advance cfg (answerEvent cfg sendOk notified bytes answer)
  | .actor actor ans =>
      { l with
        actors := l.actors.runOldest cfg.actors actor { ans with assign := .refused }
        toZone := l.toZone ++ l.leavesSent cfg actor }
  | .movePacket charId sid x y =>
      { l with actors := l.actors.post (.player charId (.move sid x y)) }
  | .mirror req => { l with toZone := l.toZone ++ [.playerMoveInternal req] }
  | .zone now =>
      match l.toZone with
      | [] => l
      | request :: rest =>
          let r := l.zone.handle cfg.zone now request
          { l with zone := r.1, toZone := rest, toWorld := l.toWorld ++ r.2 }
  | .reap now => { l with zone := l.zone.reapEmptyDungeonInstances now }

/-- Nothing is on the way between the processes. -/
def Delivered (l : ZoneLink) : Prop := l.toZone = [] ∧ l.toWorld = []

/-- Nothing is on the way, and all that was posted has run. -/
structure Quiet (l : ZoneLink) : Prop where
  delivered : l.Delivered
  mail : l.actors.mail = []
  netTasks : l.world.netTasks = []
  strand : l.world.strand = []
  timers : l.world.delayed.timers = []

end ZoneLink

end GameServer
