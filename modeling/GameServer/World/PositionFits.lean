import GameServer.World.PositionLink
import GameServer.Zone.SpatialExact

/-!
# GameServer.World.PositionFits

What is on the way for a character, and the steps that keep world and zone in
agreement on its position.

* `destPlace`, `snapshots` — where a character will be once the posted tasks
  have run, and what the zone will be told about it then;
* `bindings` — how it may be bound once what was sent is handled;
* `SettlesAt` — the zone will have a character at a place, if anywhere;
* `Fits` — the steps that keep this.
-/

namespace GameServer

/-! ## What is still to come -/

namespace ActorPost

/-- The place of a player actor after a post. -/
def placeAfter (p : Place) : ActorPost → Place
  | .player _ (.setWorldPosition _ mapTemplateId instanceId x y) =>
      ⟨mapTemplateId, instanceId, ⟨x, y⟩⟩
  | _ => p

/-- A place for its player actor. -/
def isPlacing : ActorPost → Bool
  | .player _ (.setWorldPosition _ _ _ _ _) => true
  | _ => false

/-- A position of the character that a snapshot will tell the zone. -/
def snapshot (c : UInt64) : ActorPost → Option Vec2i
  | .zone _ (.join charId pos _ _) => if charId = c then some pos else none
  | _ => none

/-- The character will be put into the world. -/
def isEnter (c : UInt64) : ActorPost → Bool
  | .player charId (.enter _ _ _ _ _ _) => charId == c
  | _ => false

/-- A leave of the character will be sent. -/
def isLeave (c : UInt64) : ActorPost → Bool
  | .player charId (.cleanup _ _) => charId == c && charId != 0
  | .player _ (.leaveWorld ctx) => ctx.charId == c && ctx.zoneId != 0
  | _ => false

/-- The character a task is about. -/
def about : ActorPost → UInt64
  | .player _ (.leaveWorld ctx) => ctx.charId
  | .player charId _ => charId
  | .zone _ task => task.charId

end ActorPost

namespace WorldActors

open Mailbox

variable (st : WorldActors) (c : UInt64)

/-- Where the places that wait will put the actor of a character. -/
def destPlace : Place :=
  (inbox ActorPost.addr (.player c) st.mail).foldl ActorPost.placeAfter (st.players c).place

/-- A place waits for the actor of a character. -/
def placing : Bool := (inbox ActorPost.addr (.player c) st.mail).any ActorPost.isPlacing

/-- The positions of a character that zone actors have yet to tell the zone. -/
def snapshots : List Vec2i := st.mail.filterMap (ActorPost.snapshot c)

end WorldActors

namespace PositionLink

open Mailbox

/-- What a request may do to the binding of a player; an enter may be
refused. -/
def effects (cfg : ZoneConfig) (c : UInt64) (o : Option PlayerBindingState) :
    ZoneRequest → List (Option PlayerBindingState)
  | .mapAssign _ => [o]
  | .playerEnter req =>
      if req.charId = c then
        let key := makeMapInstanceKey req.mapTemplateId req.instanceId
        [o, if o.any (·.mapKey = key) then o else some (ZoneRuntime.enteredBinding key req o)]
      else [o]
  | .playerLeave req => if req.charId = c then [none] else [o]
  | .playerMoveInternal req =>
      if req.charId = c then [o.map (ZoneRuntime.movedBinding cfg req)] else [o]

/-- What requests may do, one after the other. -/
def outcomes (cfg : ZoneConfig) (c : UInt64) :
    List ZoneRequest → Option PlayerBindingState → List (Option PlayerBindingState)
  | [], o => [o]
  | request :: rest, o => (effects cfg c o request).flatMap (outcomes cfg c rest)

section

variable (cfg : PositionConfig) (l : PositionLink) (c : UInt64)

/-- How the zone may have a character bound once it has handled what was sent. -/
def bindings : List (Option PlayerBindingState) :=
  outcomes cfg.zone c l.toZone (l.zone.playerBindings.lookup c)

/-- An enter of the character is under way. -/
def entering : Bool :=
  l.enters.any (·.enterPending.charId == c) || l.actors.mail.any (ActorPost.isEnter c)

/-- A leave of the character is under way. -/
def leaving : Bool := l.actors.mail.any (ActorPost.isLeave c)

/-- The character is in the world, and stays there for all that is known. -/
structure Followed : Prop where
  inWorld : (l.actors.players c).isInWorld = true
  entering : l.entering c = false
  leaving : l.leaving c = false

/-- If the zone has the character bound, then in the map instance of `p`; the
position that it has or will be told is that of `p`. -/
structure BoundAt (snapshots : List Vec2i) (p : Place) (b : PlayerBindingState) : Prop where
  mapTemplateId : b.mapTemplateId = p.mapTemplateId
  instanceId : b.instanceId = p.instanceId
  told : ∀ pos ∈ snapshots, pos = p.pos
  position : snapshots = [] → b.hasPosition = true → (⟨b.x, b.y⟩ : Vec2i) = p.pos

/-- The zone will have the character at a place, if anywhere. -/
def SettlesAt (p : Place) : Prop :=
  ∀ o ∈ l.bindings cfg c, ∀ b ∈ o, BoundAt (l.actors.snapshots c) p b

/-! ## The steps that keep the processes in agreement -/

/-- An enter that is dropped, as the last of a character that stays in the
world, has not taken it to another place. -/
def DropFits (requestId : UInt64) : Prop :=
  ∀ r ∈ l.enters, r.requestId = requestId →
    (l.dropEnter requestId).Followed r.enterPending.charId →
      l.SettlesAt cfg r.enterPending.charId (l.actors.destPlace r.enterPending.charId)

/-- When a transfer completes, no snapshot with another position waits. -/
def TransferFits (pos : Vec2i) : Prop :=
  l.Followed c → ∀ q ∈ l.actors.snapshots c, q = pos

/-- When the last enter of a character runs, the zone has the character in
the map instance entered, if anywhere, and no other place or position waits. -/
def EnterFits (p : Place) : Prop :=
  l.entering c = false → l.leaving c = false →
    (∀ o ∈ l.bindings cfg c, ∀ b ∈ o,
      b.mapTemplateId = p.mapTemplateId ∧ b.instanceId = p.instanceId) ∧
      (∀ q ∈ l.actors.snapshots c, q = p.pos) ∧
      (inbox ActorPost.addr (.player c) l.actors.mail).foldl ActorPost.placeAfter p = p

/-- A cleanup leaves a zone, or nothing is wrong. -/
def CleanupFits : Prop :=
  l.Followed c → (l.actors.players c).getZoneId.toUInt16 ≠ 0 ∨
    l.SettlesAt cfg c (l.actors.destPlace c)

/-- A walk is not overtaken by what the zone is told about an earlier
position: no snapshot waits, or a place waits that will be told. -/
def WalkFits (pos : Vec2i) : Prop :=
  l.Followed c → (∀ o ∈ l.bindings cfg c, o = none) ∨
    if l.actors.placing c then l.actors.snapshots c ≠ [] ∨ pos = (l.actors.destPlace c).pos
    else l.actors.snapshots c = []

/-- A portal within the map leads to where the zone has the character
already, or the zone has no position of it, or another place waits. -/
def PortalFits (pos : Vec2i) : Prop :=
  l.Followed c → l.actors.placing c = true ∨
    l.SettlesAt cfg c { (l.actors.players c).place with pos }

/-- A move fits. -/
def MoveFits (x y : Int32) : MoveOutcome → PortalAssign → Prop
  | .transfer request, .ok _ true => l.TransferFits c ⟨request.targetX, request.targetY⟩
  | .portalMove _ _ destX destY, _ => l.PortalFits cfg c ⟨destX, destY⟩
  | .walk, _ => l.WalkFits cfg c ⟨x, y⟩
  | _, _ => True

/-- A task fits, once it is taken. -/
def PostFits (ans : MoveAnswers) : ActorPost → Prop
  | .player charId (.enter coreState _ _ _ mapTemplateId instanceId) =>
      l.EnterFits cfg charId
        ⟨mapTemplateId, instanceId, ⟨coreState.hot.position.x, coreState.hot.position.y⟩⟩
  | .player charId (.cleanup _ _) => l.CleanupFits cfg charId
  | .player charId (.move sid x y) =>
      l.MoveFits cfg charId x y
        (decideWorldMove cfg.actors (l.actors.players charId) charId sid x y ans) ans.assign
  | _ => True

/-- The enter is completed by its answer, or rolled back with a leave. -/
def concludes (enter : PendingZonePlayerEnterRequest) (ack : ZoneWorldPlayerEnterAck)
    (checks : AnswerChecks) : Bool :=
  checks.pending &&
    if matchesAck enter ack && ack.resultCode == .ok then checks.promoted
    else enter.enterPending.charId != 0 && checks.unboundCharId == enter.enterPending.charId

/-- An answer fits. -/
def AnswerFits (checks : AnswerChecks) : ZoneAnswer → Prop
  | .mapAssign res =>
      res.resultCode = .ok → checks.bound = true →
        ∀ pending ∈ l.actors.pendingPortalTransfer.find? (·.assignRequestId == res.requestId),
          l.TransferFits pending.charId ⟨pending.targetX, pending.targetY⟩
  | .playerEnter ack =>
      ∀ enter ∈ l.enters.find? (·.requestId == ack.requestId),
        concludes enter ack checks = true ∨ l.DropFits cfg ack.requestId

/-- The step fits. -/
def Fits : Event → Prop
  | .enterSent _ => l.DropFits cfg l.nextZonePlayerEnterRequestId
  | .enterDropped requestId => l.DropFits cfg requestId
  | .run actor ans =>
      ∀ p ∈ oldest ActorPost.addr actor l.actors.mail, (l.taken actor).PostFits cfg ans p
  | .receive checks =>
      ∀ answer ∈ l.toWorld.head?, { l with toWorld := l.toWorld.tail }.AnswerFits cfg checks answer
  | _ => True

end

variable {cfg : PositionConfig} {l l' : PositionLink} {c : UInt64}

/-! ## The zone -/

section Zone

variable (cfg : ZoneConfig) (z : ZoneRuntime) (now : Nat) (c : UInt64)

/-- A request does to the binding of a player what it may do. -/
theorem lookup_handle_mem (request : ZoneRequest) :
    (z.handle cfg now request).1.playerBindings.lookup c ∈
      effects cfg c (z.playerBindings.lookup c) request := by
  cases request with
  | mapAssign req =>
      rw [ZoneRuntime.handle, effects, ZoneRuntime.playerBindings_onMapAssignRequest]
      exact List.mem_singleton_self _
  | playerEnter req =>
      rw [ZoneRuntime.handle, effects, ZoneRuntime.lookup_onPlayerEnterRequest]
      by_cases hc : req.charId = c
      · rw [if_pos hc]
        by_cases henters : z.EntersMap req
        · have hkey : ¬(z.playerBindings.lookup c).any
              (·.mapKey = makeMapInstanceKey req.mapTemplateId req.instanceId) = true := by
            intro hany
            obtain ⟨b, hb, hb'⟩ := Option.any_eq_true _ _ |>.mp hany
            exact henters.2 b (hc ▸ hb) (of_decide_eq_true hb')
          rw [if_pos ⟨hc, henters⟩]
          dsimp only
          rw [if_neg hkey]
          exact List.mem_cons_of_mem _ (List.mem_singleton_self _)
        · rw [if_neg fun h => henters h.2]
          exact List.mem_cons_self
      · rw [if_neg hc, if_neg fun h => hc h.1]
        exact List.mem_singleton_self _
  | playerLeave req =>
      rw [ZoneRuntime.handle, effects, ZoneRuntime.lookup_onPlayerLeaveRequest]
      split_ifs <;> exact List.mem_singleton_self _
  | playerMoveInternal req =>
      rw [ZoneRuntime.handle, effects, ZoneRuntime.lookup_onPlayerMoveInternalRequest]
      split_ifs <;> exact List.mem_singleton_self _

end Zone

/-- What requests lead to, in two parts. -/
theorem outcomes_append (cfg : ZoneConfig) (c : UInt64) (ms ms' : List ZoneRequest)
    (o : Option PlayerBindingState) :
    outcomes cfg c (ms ++ ms') o = (outcomes cfg c ms o).flatMap (outcomes cfg c ms') := by
  induction ms generalizing o with
  | nil => simp [outcomes]
  | cons m ms ih =>
      rw [List.cons_append, outcomes, outcomes, List.flatMap_assoc]
      exact congrArg (List.flatMap · _) (funext ih)

/-- What is sent now is handled last. -/
theorem mem_bindings_send (l : PositionLink) {ms : List ZoneRequest}
    {o : Option PlayerBindingState} (ho : o ∈ l'.bindings cfg c) (hzone : l'.zone = l.zone)
    (hsent : l'.toZone = l.toZone ++ ms) :
    ∃ o' ∈ l.bindings cfg c, o ∈ outcomes cfg.zone c ms o' := by
  unfold bindings at ho
  rw [hzone, hsent, outcomes_append] at ho
  exact List.mem_flatMap.mp ho

/-- The character a request is about. -/
def charId? : ZoneRequest → Option UInt64
  | .mapAssign _ => none
  | .playerEnter req => some req.charId
  | .playerLeave req => some req.charId
  | .playerMoveInternal req => some req.charId

/-- Requests about others do nothing to a player. -/
theorem outcomes_of_others {ms : List ZoneRequest} (h : ∀ m ∈ ms, charId? m ≠ some c)
    (o : Option PlayerBindingState) : outcomes cfg.zone c ms o = [o] := by
  induction ms with
  | nil => rfl
  | cons m ms ih =>
      have hm := h m List.mem_cons_self
      have heffects : effects cfg.zone c o m = [o] := by
        cases m <;> simp_all [effects, charId?]
      rw [outcomes, heffects, List.flatMap_singleton]
      exact ih fun m' hm' => h m' (List.mem_cons_of_mem m hm')

end PositionLink

/-! ## Tasks -/

namespace WorldActors

open Mailbox

variable {st st' : WorldActors} {c : UInt64} {p : ActorPost} {actor : ActorAddr}

/-- The character comes into the world by no step in between, and its enters
and leaves still wait. -/
structure Later (st st' : WorldActors) (c : UInt64) : Prop where
  inWorld : (st'.players c).isInWorld = true → (st.players c).isInWorld = true
  enters : st.mail.any (ActorPost.isEnter c) = true → st'.mail.any (ActorPost.isEnter c) = true
  leaves : st.mail.any (ActorPost.isLeave c) = true → st'.mail.any (ActorPost.isLeave c) = true

theorem Later.trans {st'' : WorldActors} (h : Later st st' c) (h' : Later st' st'' c) :
    Later st st'' c where
  inWorld hin := h.inWorld (h'.inWorld hin)
  enters hany := h'.enters (h.enters hany)
  leaves hany := h'.leaves (h.leaves hany)

/-- Nothing is new about a character. -/
structure SameAt (st st' : WorldActors) (c : UInt64) : Prop extends Later st st' c where
  dest : st'.destPlace c = st.destPlace c
  snapshots : ∀ pos, pos ∈ st'.snapshots c ↔ pos ∈ st.snapshots c

theorem SameAt.refl (st : WorldActors) (c : UInt64) : SameAt st st c :=
  ⟨⟨id, id, id⟩, rfl, fun _ => Iff.rfl⟩

theorem SameAt.trans {st'' : WorldActors} (h : SameAt st st' c) (h' : SameAt st' st'' c) :
    SameAt st st'' c where
  toLater := h.toLater.trans h'.toLater
  dest := h'.dest.trans h.dest
  snapshots pos := (h'.snapshots pos).trans (h.snapshots pos)

/-! ### Posts -/

theorem any_post (f : ActorPost → Bool) : (st.post p).mail.any f = (st.mail.any f || f p) := by
  simp [post]

theorem mem_snapshots_post (pos : Vec2i) :
    pos ∈ (st.post p).snapshots c ↔ pos ∈ st.snapshots c ∨ p.snapshot c = some pos := by
  simp [snapshots, post, List.filterMap_append]

theorem destPlace_post_of_ne (h : p.addr ≠ .player c) :
    (st.post p).destPlace c = st.destPlace c := by
  unfold destPlace post
  dsimp only
  rw [inbox_append, inbox_singleton_of_ne h, List.append_nil]

theorem destPlace_post_zone (zoneId : UInt32) (task : ZoneTask) :
    (st.post (.zone zoneId task)).destPlace c = st.destPlace c :=
  destPlace_post_of_ne nofun

/-- A posted task moves the destination of its own character. -/
theorem destPlace_post_player (task : PlayerTask) :
    (st.post (.player c task)).destPlace c =
      (ActorPost.player c task).placeAfter (st.destPlace c) := by
  have hinbox : inbox ActorPost.addr (.player c) [ActorPost.player c task] = [.player c task] :=
    inbox_singleton_self
  unfold destPlace post
  dsimp only
  rw [inbox_append, List.foldl_append, hinbox]
  rfl

theorem later_post (st : WorldActors) (p : ActorPost) (c : UInt64) : Later st (st.post p) c where
  inWorld := id
  enters hany := by rw [any_post, hany, Bool.true_or]
  leaves hany := by rw [any_post, hany, Bool.true_or]

/-- A task that places nobody and takes no snapshot is nothing new. -/
theorem sameAt_post (hplace : p.addr ≠ .player c ∨ ∀ d, p.placeAfter d = d)
    (hsnapshot : p.snapshot c = none) : SameAt st (st.post p) c where
  toLater := later_post st p c
  dest := by
    by_cases haddr : p.addr = .player c
    · cases p with
      | player charId task =>
          obtain rfl : charId = c := ActorAddr.player.inj haddr
          rw [destPlace_post_player]
          exact hplace.resolve_left (fun h => h haddr) _
      | zone zoneId task => cases haddr
    · exact destPlace_post_of_ne haddr
  snapshots pos := by
    rw [mem_snapshots_post, hsnapshot]
    exact or_iff_left nofun

/-- Nor is a change of another player. -/
theorem sameAt_setPlayer {charId : UInt64} {a : PlayerActor} (h : c ≠ charId) :
    SameAt st (st.setPlayer charId a) c where
  inWorld hin := by rwa [players_setPlayer_of_ne h] at hin
  dest := by
    unfold destPlace
    rw [players_setPlayer_of_ne h]
    rfl
  snapshots _ := Iff.rfl
  enters hany := hany
  leaves hany := hany

/-! ### Taking a task -/

theorem any_taken (h : oldest ActorPost.addr actor st.mail = some p) (f : ActorPost → Bool) :
    st.mail.any f = (f p || (st.taken actor).mail.any f) := by
  rw [(perm_cons_withoutOldest h).any_eq, List.any_cons]
  rfl

theorem mem_snapshots_taken (h : oldest ActorPost.addr actor st.mail = some p) (pos : Vec2i) :
    pos ∈ st.snapshots c ↔ p.snapshot c = some pos ∨ pos ∈ (st.taken actor).snapshots c := by
  unfold snapshots
  rw [((perm_cons_withoutOldest h).filterMap _).mem_iff]
  simp [taken, List.filterMap_cons]
  cases p.snapshot c <;> simp [eq_comm]

theorem mem_snapshots_taken_of_none (h : oldest ActorPost.addr actor st.mail = some p)
    (hsnapshot : p.snapshot c = none) (pos : Vec2i) :
    pos ∈ st.snapshots c ↔ pos ∈ (st.taken actor).snapshots c := by
  rw [mem_snapshots_taken h, hsnapshot]
  exact or_iff_right (Option.some_ne_none pos).symm

/-- Taking a task of another actor leaves the destination. -/
theorem destPlace_taken_of_ne (h : actor ≠ .player c) :
    (st.taken actor).destPlace c = st.destPlace c := by
  have hinbox : inbox ActorPost.addr (.player c) (st.taken actor).mail =
      inbox ActorPost.addr (.player c) st.mail := inbox_withoutOldest_of_ne (Ne.symm h)
  unfold destPlace
  rw [hinbox]
  rfl

/-- The rest of the tasks puts the player where all of them do, from the
place the task at hand puts it. -/
theorem foldl_placeAfter_taken (h : oldest ActorPost.addr (.player c) st.mail = some p)
    (d : Place) :
    (inbox ActorPost.addr (.player c) (st.taken (.player c)).mail).foldl ActorPost.placeAfter
        (p.placeAfter d) =
      (inbox ActorPost.addr (.player c) st.mail).foldl ActorPost.placeAfter d := by
  rw [inbox_eq_cons h]
  rfl

/-- Taking a task that places nobody leaves the destination. -/
theorem destPlace_taken (h : oldest ActorPost.addr actor st.mail = some p)
    (hplace : ∀ d, p.placeAfter d = d) (c : UInt64) :
    (st.taken actor).destPlace c = st.destPlace c := by
  by_cases hactor : actor = .player c
  · subst hactor
    have hfold := foldl_placeAfter_taken h (st.players c).place
    rw [hplace] at hfold
    exact hfold
  · exact destPlace_taken_of_ne hactor

/-- And is nothing new, if the task is no enter and no leave. -/
theorem sameAt_taken (h : oldest ActorPost.addr actor st.mail = some p)
    (hplace : actor ≠ .player c ∨ ∀ d, p.placeAfter d = d) (hsnapshot : p.snapshot c = none)
    (henter : p.isEnter c = false) (hleave : p.isLeave c = false) :
    SameAt st (st.taken actor) c where
  inWorld := id
  dest := hplace.elim destPlace_taken_of_ne fun hp => destPlace_taken h hp c
  snapshots pos := (mem_snapshots_taken_of_none h hsnapshot pos).symm
  enters hany := by
    rw [any_taken h, henter] at hany
    exact hany
  leaves hany := by
    rw [any_taken h, hleave] at hany
    exact hany

/-! ### Tasks about others -/

theorem ne_player_of_ne {charId : UInt64} (h : c ≠ charId) : ActorAddr.player charId ≠ .player c :=
  fun heq => h (ActorAddr.player.inj heq).symm

theorem sameAt_post_player {charId : UInt64} {task : PlayerTask} (h : c ≠ charId) :
    SameAt st (st.post (.player charId task)) c := by
  refine sameAt_post (.inl (ne_player_of_ne h)) ?_
  cases task <;> rfl

/-- A task of a zone is about its own character. -/
theorem sameAt_post_zone {charId : UInt64} {zoneId : UInt32} {task : ZoneTask} (h : c ≠ charId)
    (htask : task.charId = charId) : SameAt st (st.post (.zone zoneId task)) c := by
  subst htask
  refine sameAt_post (.inl nofun) ?_
  cases task with
  | join charId pos sid serial => exact if_neg (Ne.symm h)
  | _ => rfl

/-- Which transfers are parked does not matter to a place. -/
theorem sameAt_parked (l : List PendingPortalTransfer) :
    SameAt st { st with pendingPortalTransfer := l } c :=
  ⟨⟨id, id, id⟩, rfl, fun _ => Iff.rfl⟩

/-- The transfer of another player is nothing new. -/
theorem sameAt_completePortalTransfer {pending : PendingPortalTransfer} (zoneId : UInt16)
    (mapTemplateId instanceId : UInt32) (bound : Bool) (h : c ≠ pending.charId) :
    SameAt st (st.completePortalTransfer pending zoneId mapTemplateId instanceId bound) c := by
  unfold completePortalTransfer
  split_ifs
  · exact SameAt.refl st c
  · exact ((sameAt_post_player h).trans (sameAt_post_zone h rfl)).trans (sameAt_post_zone h rfl)

/-- A move that leads to a transfer asks for its own character. -/
theorem charId_of_transfer {cfg : ActorConfig} {a : PlayerActor} {charId : UInt64} {sid : UInt32}
    {x y : Int32} {ans : MoveAnswers} {request : PendingPortalTransfer}
    (h : decideWorldMove cfg a charId sid x y ans = .transfer request) :
    request.charId = charId := by
  obtain heq | ⟨-, heq⟩ | ⟨_, hcharId, heq⟩ | ⟨_, _, heq⟩ :=
    decideWorldMove_cases cfg a charId sid x y ans <;> rw [heq] at h <;> cases h
  exact hcharId

/-- The move of another player is nothing new. -/
theorem sameAt_handleWorldMove (cfg : ActorConfig) {charId : UInt64} (sid : UInt32) (x y : Int32)
    (ans : MoveAnswers) (h : c ≠ charId) :
    SameAt st (st.handleWorldMove cfg charId sid x y ans) c := by
  unfold handleWorldMove
  dsimp only
  cases hmove : decideWorldMove cfg (st.players charId) charId sid x y ans with
  | ignored => exact SameAt.refl st c
  | transfer request =>
      unfold beginPortalTransfer
      dsimp only
      cases ans.assign with
      | refused => exact SameAt.refl st c
      | pending requestId => exact sameAt_parked _
      | ok zoneId bound =>
          exact sameAt_completePortalTransfer _ _ _ _ (by rwa [charId_of_transfer hmove])
  | portalMove zoneId mapId destX destY =>
      dsimp only
      split_ifs
      · exact (sameAt_setPlayer h).trans (sameAt_post_zone h rfl)
      · exact ((sameAt_setPlayer h).trans (sameAt_post_zone h rfl)).trans (sameAt_post_zone h rfl)
  | walk =>
      dsimp only
      split_ifs
      · exact sameAt_setPlayer h
      · exact (sameAt_setPlayer h).trans (sameAt_post_zone h rfl)

/-- A cleanup waits in the mailbox and moves nobody yet. -/
theorem sameAt_cleanupClosedWorldSessionActors (st : WorldActors) (charId : UInt64)
    (sid serial : UInt32) :
    SameAt st (st.cleanupClosedWorldSessionActors charId sid serial) c := by
  unfold cleanupClosedWorldSessionActors
  split_ifs
  · exact SameAt.refl st c
  · exact sameAt_post (.inr fun _ => rfl) rfl

theorem sameAt_beginLeaveWorld {ctx : LeaveWorldContext} :
    SameAt st (st.beginLeaveWorld ctx) c := by
  unfold beginLeaveWorld
  split_ifs
  · exact SameAt.refl st c
  · exact sameAt_post (.inr fun _ => rfl) rfl

/-- Nor is its leave. -/
theorem sameAt_runLeaveWorld {ctx : LeaveWorldContext} (h : c ≠ ctx.charId) :
    SameAt st (st.runLeaveWorld ctx) c := by
  unfold runLeaveWorld
  dsimp only
  split_ifs
  · exact (sameAt_setPlayer h).trans (sameAt_post_zone h rfl)
  · exact (sameAt_setPlayer h).trans (sameAt_post_zone h rfl)
  · exact sameAt_setPlayer h
  · exact sameAt_setPlayer h

/-- A task that is run changes nothing for those it is not about. -/
theorem sameAt_runOldest (cfg : ActorConfig) (ans : MoveAnswers)
    (hold : oldest ActorPost.addr actor st.mail = some p) (h : c ≠ p.about) :
    SameAt st (st.runOldest cfg actor ans) c := by
  obtain rfl := addr_of_oldest hold
  unfold runOldest
  rw [hold]
  cases p with
  | player charId task =>
      cases task with
      | enter coreState sid serial zoneId mapTemplateId instanceId =>
          have htaken := sameAt_taken hold (.inl (ne_player_of_ne h)) rfl
            (beq_eq_false_iff_ne.mpr (Ne.symm h)) rfl
          exact (htaken.trans (sameAt_setPlayer h)).trans (sameAt_post_zone h rfl)
      | setWorldPosition zoneId mapTemplateId instanceId x y =>
          exact (sameAt_taken hold (.inl (ne_player_of_ne h)) rfl rfl rfl).trans
            (sameAt_setPlayer h)
      | cleanup sid serial =>
          have hne : (charId == c) = false := beq_eq_false_iff_ne.mpr (Ne.symm h)
          have hleave : ActorPost.isLeave c (.player charId (.cleanup sid serial)) = false := by
            rw [ActorPost.isLeave, hne, Bool.false_and]
          exact (sameAt_taken hold (.inr fun _ => rfl) rfl rfl hleave).trans sameAt_beginLeaveWorld
      | leaveWorld ctx =>
          have hne : (ctx.charId == c) = false := beq_eq_false_iff_ne.mpr (Ne.symm h)
          have hleave : ActorPost.isLeave c (.player charId (.leaveWorld ctx)) = false := by
            rw [ActorPost.isLeave, hne, Bool.false_and]
          exact (sameAt_taken hold (.inr fun _ => rfl) rfl rfl hleave).trans
            (sameAt_runLeaveWorld h)
      | move sid x y =>
          exact (sameAt_taken hold (.inr fun _ => rfl) rfl rfl rfl).trans
            (sameAt_handleWorldMove cfg sid x y ans h)
  | zone zoneId task =>
      have hsnapshot : (ActorPost.zone zoneId task).snapshot c = none := by
        cases task with
        | join charId pos sid serial => exact if_neg (Ne.symm h)
        | _ => rfl
      have htaken := sameAt_taken hold (.inl nofun) hsnapshot rfl rfl
      exact ⟨⟨htaken.inWorld, htaken.enters, htaken.leaves⟩, htaken.dest, htaken.snapshots⟩

end WorldActors

end GameServer
