import GameServer.Lib.Mailbox
import GameServer.Lib.Records
import GameServer.Lib.Run
import GameServer.World.PlayerActor
import GameServer.World.ZoneActor
import GameServer.World.ZoneRoute

/-!
# GameServer.World.ActorTasks

The actors of the world process and the tasks posted to them.

Entering, moving and leaving change a player and a zone, and each is an
actor of its own: what the runtime does to them is posted as tasks, built
from what was known when they were posted.

* `PlayerTask`, `ZoneTask` — the tasks, with what they capture;
* `handleWorldMove`, `completePortalTransfer`, `beginLeaveWorld`, … — what is
  done at once and what is posted;
* `WorldActors.step` — one event: a request of the runtime, or an actor that
  runs its oldest task.
-/

namespace GameServer

/-- `ZonePortalRecord`, as far as a move reads it. -/
structure ZonePortalRecord where
  centerX : Int32 := 0
  centerZ : Int32 := 0
  destZoneId : UInt32 := 0
  destMapId : UInt32 := 0
  destX : Int32 := 0
  destY : Int32 := 0
deriving DecidableEq, Repr

/-- What the actors are configured with: the sectors of a new zone, the
portals of the zone data and the combat tables. -/
structure ActorConfig where
  sector : SectorContainer := {}
  findTriggeredPortal : UInt32 → UInt32 → Int32 → Int32 → Option ZonePortalRecord :=
    fun _ _ _ _ => none
  recompute : CharacterCoreState → CharacterCombatRuntimeStats := fun core => core.combatStats

/-- The tasks of a player actor. -/
inductive PlayerTask where
  | enter (coreState : CharacterCoreState) (sid serial : UInt32) (zoneId : UInt16)
      (mapTemplateId instanceId : UInt32)
  | setWorldPosition (zoneId : UInt16) (mapTemplateId instanceId : UInt32) (x y : Int32)
  | cleanup (sid serial : UInt32)
  | leaveWorld (ctx : LeaveWorldContext)
  | move (sid : UInt32) (x y : Int32)

/-- The tasks of a zone actor. -/
inductive ZoneTask where
  | join (charId : UInt64) (pos : Vec2i) (sid serial : UInt32)
  | leave (charId : UInt64)
  /-- `Leave` and `JoinOrUpdate` in one task. -/
  | rejoin (charId : UInt64) (pos : Vec2i) (sid serial : UInt32)
  | move (charId : UInt64) (pos : Vec2i) (sid serial : UInt32)

/-- An actor. -/
inductive ActorAddr where
  | player (charId : UInt64)
  | zone (zoneId : UInt32)
deriving DecidableEq, Repr

/-- A posted task. -/
inductive ActorPost where
  | player (charId : UInt64) (task : PlayerTask)
  | zone (zoneId : UInt32) (task : ZoneTask)

namespace ActorPost

/-- The actor a task was posted to. -/
def addr : ActorPost → ActorAddr
  | .player charId _ => .player charId
  | .zone zoneId _ => .zone zoneId

end ActorPost

namespace ZoneTask

/-- The character a task is about. -/
def charId : ZoneTask → UInt64
  | .join charId _ _ _ => charId
  | .leave charId => charId
  | .rejoin charId _ _ _ => charId
  | .move charId _ _ _ => charId

/-- Whether the character is in the zone afterwards. -/
def holds : ZoneTask → Bool
  | .leave _ => false
  | _ => true

/-- What a task does to its zone. -/
def apply (z : ZoneActor) : ZoneTask → ZoneActor
  | .join charId pos sid serial => z.joinOrUpdate charId pos sid serial
  | .leave charId => z.leave charId
  | .rejoin charId pos sid serial => (z.leave charId).joinOrUpdate charId pos sid serial
  | .move charId pos sid serial => (z.move charId pos sid serial).1

end ZoneTask

/-- The actors, what is posted to them, and the transfers that wait for a map
assignment. -/
structure WorldActors where
  players : UInt64 → PlayerActor := fun charId => { charId }
  zones : AList fun _ : UInt32 => ZoneActor := ∅
  mail : List ActorPost := []
  pendingPortalTransfer : List PendingPortalTransfer := []

/-- The answer of the map assignment to `BeginPortalTransfer`; an assigned
map is followed by the session check of `CompletePortalTransfer_`. -/
inductive PortalAssign where
  | refused
  | pending (requestId : UInt64)
  | ok (zoneId : UInt16) (bound : Bool)
deriving DecidableEq, Repr

/-- What a move packet learns from the rest of the process: whether the session
is the character's, its serial, the cooldown, the instance that the portal's
`value02` is resolved to, and the map assignment. -/
structure MoveAnswers where
  resolved : Bool := true
  serial : UInt32 := 1
  coolingDown : Bool := false
  targetInstanceId : UInt32 := 0
  assign : PortalAssign := .refused
deriving DecidableEq, Repr

/-- What `HandleWorldMove` decides to do. -/
inductive MoveOutcome where
  | ignored
  | transfer (request : PendingPortalTransfer)
  | portalMove (zoneId mapId : UInt32) (x y : Int32)
  | walk
deriving DecidableEq, Repr

/-- The decision of `HandleWorldMove`. -/
def decideWorldMove (cfg : ActorConfig) (a : PlayerActor) (charId : UInt64) (sid : UInt32)
    (x y : Int32) (ans : MoveAnswers) : MoveOutcome :=
  if ans.resolved = false ∨ ans.serial = 0 then .ignored
  else if a.getPosition.x = x ∧ a.getPosition.y = y then .ignored
  else
    match cfg.findTriggeredPortal a.getZoneId a.getMapId x y with
    | none => .walk
    | some portal =>
        if ans.coolingDown then .ignored
        else
          let destZoneId := if portal.destZoneId ≠ 0 then portal.destZoneId else a.getZoneId
          let destMapId := if portal.destMapId ≠ 0 then portal.destMapId else a.getMapId
          let destX := if portal.destX ≠ 0 then portal.destX else portal.centerX
          let destY := if portal.destY ≠ 0 then portal.destY else portal.centerZ
          if destZoneId ≠ a.getZoneId ∨ destMapId ≠ a.getMapId then
            .transfer
              { sid, serial := ans.serial, charId
                sourceZoneId := a.getZoneId.toUInt16
                sourceMapTemplateId := a.getMapId
                sourceInstanceId := a.mapInstanceId
                targetMapTemplateId := destMapId
                targetInstanceId := ans.targetInstanceId
                targetX := destX, targetY := destY }
          else .portalMove destZoneId destMapId destX destY

/-- Everything a move can come to. -/
theorem decideWorldMove_cases (cfg : ActorConfig) (a : PlayerActor) (charId : UInt64)
    (sid : UInt32) (x y : Int32) (ans : MoveAnswers) :
    decideWorldMove cfg a charId sid x y ans = .ignored ∨
      ((⟨x, y⟩ : Vec2i) ≠ a.getPosition ∧ decideWorldMove cfg a charId sid x y ans = .walk) ∨
      (∃ request : PendingPortalTransfer, request.charId = charId ∧
        decideWorldMove cfg a charId sid x y ans = .transfer request) ∨
      ∃ destX destY, decideWorldMove cfg a charId sid x y ans =
        .portalMove a.getZoneId a.getMapId destX destY := by
  unfold decideWorldMove
  split
  · exact .inl rfl
  split
  · exact .inl rfl
  next hne =>
  have hpos : (⟨x, y⟩ : Vec2i) ≠ a.getPosition := by
    intro heq
    exact hne ⟨by rw [← heq], by rw [← heq]⟩
  split
  · exact .inr (.inl ⟨hpos, rfl⟩)
  split
  · exact .inl rfl
  extract_lets destZoneId destMapId destX destY
  split
  · exact .inr (.inr (.inl ⟨_, rfl, rfl⟩))
  next hsame =>
    rw [not_or, not_not, not_not] at hsame
    exact .inr (.inr (.inr ⟨destX, destY, by rw [hsame.1, hsame.2]⟩))

namespace WorldActors

variable (cfg : ActorConfig) (st : WorldActors)

/-- `GetOrCreateZoneActor`. -/
def getOrCreateZoneActor (zoneId : UInt32) : ZoneActor :=
  (st.zones.lookup zoneId).getD { sector := cfg.sector }

/-- `PostActor`. -/
def post (p : ActorPost) : WorldActors := { st with mail := st.mail ++ [p] }

/-- A change of a player actor. -/
def setPlayer (charId : UInt64) (a : PlayerActor) : WorldActors :=
  { st with players := Function.update st.players charId a }

/-! ## Requests of the runtime -/

/-- The actor tasks of `CompleteEnterWorldSuccessAfterZoneAck_`. -/
def completeEnterWorldSuccessAfterZoneAck (charId : UInt64) (coreState : CharacterCoreState)
    (sid serial : UInt32) (zoneId : UInt16) (mapTemplateId instanceId : UInt32) : WorldActors :=
  st.post (.player charId (.enter coreState sid serial zoneId mapTemplateId instanceId))

/-- `CompletePortalTransfer_`; `bound` is whether the session still belongs to
the character. -/
def completePortalTransfer (pending : PendingPortalTransfer) (assignedZoneId : UInt16)
    (mapTemplateId instanceId : UInt32) (bound : Bool) : WorldActors :=
  if bound = false then st
  else
    ((st.post (.player pending.charId
        (.setWorldPosition assignedZoneId mapTemplateId instanceId pending.targetX
          pending.targetY))).post
      (.zone pending.sourceZoneId.toUInt32 (.leave pending.charId))).post
      (.zone assignedZoneId.toUInt32
        (.join pending.charId ⟨pending.targetX, pending.targetY⟩ pending.sid pending.serial))

/-- `BeginPortalTransfer`. -/
def beginPortalTransfer (request : PendingPortalTransfer) (assign : PortalAssign) : WorldActors :=
  match assign with
  | .refused => st
  | .pending requestId =>
      { st with
        pendingPortalTransfer := upsertBy (·.assignRequestId)
          { request with assignRequestId := requestId } st.pendingPortalTransfer }
  | .ok zoneId bound =>
      st.completePortalTransfer request zoneId request.targetMapTemplateId
        request.targetInstanceId bound

/-- The portal transfer of a map-assign response. -/
def onZoneMapAssignResponse (requestId : UInt64) (zoneId : UInt16)
    (mapTemplateId instanceId : UInt32) (bound : Bool) : WorldActors :=
  match st.pendingPortalTransfer.find? (·.assignRequestId == requestId) with
  | none => st
  | some pending =>
      { st with
        pendingPortalTransfer := st.pendingPortalTransfer.filter (·.assignRequestId ≠ requestId)
      }.completePortalTransfer pending zoneId mapTemplateId instanceId bound

/-- A transfer that is given up: its request failed or its route was lost. -/
def failPendingPortalTransfer (requestId : UInt64) : WorldActors :=
  { st with
    pendingPortalTransfer := st.pendingPortalTransfer.filter (·.assignRequestId ≠ requestId) }

/-- `CleanupClosedWorldSessionActors_`. -/
def cleanupClosedWorldSessionActors (charId : UInt64) (sid serial : UInt32) : WorldActors :=
  if charId = 0 then st else st.post (.player charId (.cleanup sid serial))

/-- `BeginLeaveWorld_`. -/
def beginLeaveWorld (ctx : LeaveWorldContext) : WorldActors :=
  if ctx.charId = 0 then st else st.post (.player ctx.charId (.leaveWorld ctx))

/-! ## Tasks of a player -/

/-- The task of an enter: the actor gets its state, and the zone is told. -/
def runEnter (charId : UInt64) (coreState : CharacterCoreState) (sid serial : UInt32)
    (zoneId : UInt16) (mapTemplateId instanceId : UInt32) : WorldActors :=
  let a := (st.players charId).applyCharacterCoreState cfg.recompute coreState sid serial zoneId
    mapTemplateId instanceId
  (st.setPlayer charId a).post
    (.zone a.getZoneId
      (.join charId ⟨coreState.hot.position.x, coreState.hot.position.y⟩ sid serial))

/-- The first task of a closed session: it reads where the character is. -/
def runCleanup (charId : UInt64) (sid serial : UInt32) : WorldActors :=
  let a := st.players charId
  st.beginLeaveWorld
    { charId, sid, serial
      zoneId := a.getZoneId.toUInt16
      mapTemplateId := a.getMapId
      instanceId := a.mapInstanceId }

/-- The actor of a character that leaves, after `unbind_session`. -/
def unbound (a : PlayerActor) (ctx : LeaveWorldContext) : PlayerActor :=
  if isValidSessionKey ctx.sid ctx.serial then a.unbindSession ctx.sid ctx.serial else a

/-- The leave is about the place the actor is at. -/
def leavesFrom (a : PlayerActor) (ctx : LeaveWorldContext) : Bool :=
  a.getZoneId.toUInt16 = ctx.zoneId ∧ a.getMapId = ctx.mapTemplateId ∧
    a.mapInstanceId = ctx.instanceId

/-- The task of `BeginLeaveWorld_`. -/
def runLeaveWorld (ctx : LeaveWorldContext) : WorldActors :=
  let a := unbound (st.players ctx.charId) ctx
  let a' := if leavesFrom a ctx then a.clearWorldPosition else a
  let st := st.setPlayer ctx.charId a'
  if ctx.zoneId ≠ 0 then st.post (.zone ctx.zoneId.toUInt32 (.leave ctx.charId)) else st

/-- `HandleWorldMove`. -/
def handleWorldMove (charId : UInt64) (sid : UInt32) (x y : Int32) (ans : MoveAnswers) :
    WorldActors :=
  let a := st.players charId
  match decideWorldMove cfg a charId sid x y ans with
  | .ignored => st
  | .transfer request => st.beginPortalTransfer request ans.assign
  | .portalMove zoneId mapId destX destY =>
      let a' := a.setWorldPosition zoneId mapId a.mapInstanceId destX destY 0 0
      let st := st.setPlayer charId a'
      if a'.getZoneId = a.getZoneId then
        st.post (.zone a.getZoneId (.rejoin charId a'.getPosition sid ans.serial))
      else
        (st.post (.zone a.getZoneId (.leave charId))).post
          (.zone a'.getZoneId (.join charId a'.getPosition sid ans.serial))
  | .walk =>
      let a' := a.setWorldPosition a.getZoneId a.getMapId a.mapInstanceId x y 0 0
      let st := st.setPlayer charId a'
      if a'.getZoneId = a.getZoneId ∧ a'.getMapId = a.getMapId ∧
          a'.mapInstanceId = a.mapInstanceId ∧ a'.getPosition = a.getPosition then st
      else st.post (.zone a'.getZoneId (.move charId a'.getPosition sid ans.serial))

/-- A task of a player actor. -/
def runPlayerTask (charId : UInt64) (task : PlayerTask) (ans : MoveAnswers) : WorldActors :=
  match task with
  | .enter coreState sid serial zoneId mapTemplateId instanceId =>
      st.runEnter cfg charId coreState sid serial zoneId mapTemplateId instanceId
  | .setWorldPosition zoneId mapTemplateId instanceId x y =>
      st.setPlayer charId
        ((st.players charId).setWorldPosition zoneId.toUInt32 mapTemplateId instanceId x y 0 0)
  | .cleanup sid serial => st.runCleanup charId sid serial
  | .leaveWorld ctx => st.runLeaveWorld ctx
  | .move sid x y => st.handleWorldMove cfg charId sid x y ans

/-- A task of a zone actor. -/
def runZoneTask (zoneId : UInt32) (task : ZoneTask) : WorldActors :=
  { st with zones := AList.insert zoneId (task.apply (st.getOrCreateZoneActor cfg zoneId)) st.zones }

/-- An actor runs its oldest task; `ans` answers a move. -/
def runOldest (actor : ActorAddr) (ans : MoveAnswers) : WorldActors :=
  let st' := { st with mail := Mailbox.withoutOldest ActorPost.addr actor st.mail }
  match Mailbox.oldest ActorPost.addr actor st.mail with
  | none => st
  | some (.player charId task) => st'.runPlayerTask cfg charId task ans
  | some (.zone zoneId task) => st'.runZoneTask cfg zoneId task

end WorldActors

/-- What happens to the actors. -/
inductive ActorEvent where
  | enterCompleted (charId : UInt64) (coreState : CharacterCoreState) (sid serial : UInt32)
      (zoneId : UInt16) (mapTemplateId instanceId : UInt32)
  | movePacket (charId : UInt64) (sid : UInt32) (x y : Int32)
  | transferAnswered (requestId : UInt64) (zoneId : UInt16) (mapTemplateId instanceId : UInt32)
      (bound : Bool)
  | transferFailed (requestId : UInt64)
  | sessionClosed (charId : UInt64) (sid serial : UInt32)
  | leaveBegun (ctx : LeaveWorldContext)
  | run (actor : ActorAddr) (ans : MoveAnswers)

namespace WorldActors

/-- One event. -/
def step (cfg : ActorConfig) (st : WorldActors) : ActorEvent → WorldActors
  | .enterCompleted charId coreState sid serial zoneId mapTemplateId instanceId =>
      st.completeEnterWorldSuccessAfterZoneAck charId coreState sid serial zoneId mapTemplateId
        instanceId
  | .movePacket charId sid x y => st.post (.player charId (.move sid x y))
  | .transferAnswered requestId zoneId mapTemplateId instanceId bound =>
      st.onZoneMapAssignResponse requestId zoneId mapTemplateId instanceId bound
  | .transferFailed requestId => st.failPendingPortalTransfer requestId
  | .sessionClosed charId sid serial => st.cleanupClosedWorldSessionActors charId sid serial
  | .leaveBegun ctx => st.beginLeaveWorld ctx
  | .run actor ans => st.runOldest cfg actor ans

/-- A character is in the players map of a zone. -/
def InZone (cfg : ActorConfig) (st : WorldActors) (zoneId : UInt32) (charId : UInt64) : Prop :=
  ((st.getOrCreateZoneActor cfg zoneId).players charId).isSome = true

instance instDecidableInZone (cfg : ActorConfig) (st : WorldActors) (zoneId : UInt32)
    (charId : UInt64) :
    Decidable (st.InZone cfg zoneId charId) :=
  inferInstanceAs (Decidable (_ = true))

/-- **One zone for each character**: with no task outstanding, a character is
in one zone at most, and a character in the world is in the zone of its
player actor. -/
def OneZone (cfg : ActorConfig) (st : WorldActors) : Prop :=
  st.mail = [] → ∀ charId,
    (∀ z z', st.InZone cfg z charId → st.InZone cfg z' charId → z = z') ∧
      ((st.players charId).isInWorld = true →
        st.InZone cfg (st.players charId).getZoneId charId)

end WorldActors

end GameServer
