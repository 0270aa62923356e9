import GameServer.World.SettledPositions

/-!
# GameServer.World.MirroredPositions

World and zone process agree on positions, as far as they do.

A same-map portal changes the position of the player actor and tells the zone
nothing.  And the snapshot that follows an enter or a transfer is sent by the
task of another actor: what the player did since then is told to the zone
before it, and is overwritten.

* `Waiting` — every enter recorded is on its way, or its answer back;
* `agrees_of_along` — after a run of steps that fit the processes agree.
-/

namespace GameServer

namespace PositionLink

open Mailbox WorldActors

variable {cfg : PositionConfig} {l l' : PositionLink} {c : UInt64}

/-! ## Enters under way -/

/-- The enter with the id is on its way to the zone, or its answer back. -/
def UnderWay (l : PositionLink) (requestId : UInt64) : Prop :=
  (∃ req, ZoneRequest.playerEnter req ∈ l.toZone ∧ req.requestId = requestId) ∨
    ∃ ack, ZoneAnswer.playerEnter ack ∈ l.toWorld ∧ ack.requestId = requestId

theorem UnderWay.mono {requestId : UInt64} (h : l.UnderWay requestId)
    (hzone : ∀ m ∈ l.toZone, m ∈ l'.toZone) (hworld : ∀ m ∈ l.toWorld, m ∈ l'.toWorld) :
    l'.UnderWay requestId :=
  h.imp (fun ⟨req, hreq, hid⟩ => ⟨req, hzone _ hreq, hid⟩)
    fun ⟨ack, hack, hid⟩ => ⟨ack, hworld _ hack, hid⟩

/-- The answer carries the id of its request. -/
theorem requestId_onPlayerEnterRequest (cfg : ZoneConfig) (z : ZoneRuntime) (now : Nat)
    (req : WorldZonePlayerEnter) :
    (z.onPlayerEnterRequest cfg now req).2.requestId = req.requestId := by
  unfold ZoneRuntime.onPlayerEnterRequest
  dsimp only
  split
  · rfl
  · split_ifs <;> rfl

/-- Every enter that waits is under way, and its id is its own. -/
structure Waiting (l : PositionLink) : Prop where
  keyed : (l.enters.map (·.requestId)).Nodup
  underWay : ∀ r ∈ l.enters, l.UnderWay r.requestId

/-- The same enters wait, and nothing was taken off the connection. -/
theorem Waiting.of_sends (h : l.Waiting) (henters : l'.enters = l.enters)
    (hzone : ∀ m ∈ l.toZone, m ∈ l'.toZone) (hworld : l'.toWorld = l.toWorld) : l'.Waiting where
  keyed := by rw [henters]; exact h.keyed
  underWay r hr := (h.underWay r (henters ▸ hr)).mono hzone fun m hm => hworld ▸ hm

theorem Waiting.dropEnter (h : l.Waiting) (requestId : UInt64) :
    (l.dropEnter requestId).Waiting where
  keyed := nodup_map_filter h.keyed
  underWay r hr := h.underWay r (List.mem_of_mem_filter hr)

/-- An enter that the zone takes is under way in its answer. -/
theorem waiting_zone (now : Nat) (h : l.Waiting) : (l.step cfg (.zone now)).Waiting := by
  unfold step
  dsimp only
  split
  · exact h
  next request rest hrequests =>
    refine ⟨h.keyed, fun r hr => ?_⟩
    rcases h.underWay r hr with ⟨req, hreq, hid⟩ | ⟨ack, hack, hid⟩
    · rw [hrequests] at hreq
      rcases List.mem_cons.mp hreq with rfl | hrest
      · -- Handled now: the answer has its id.
        refine .inr ⟨_, List.mem_append_right _ (List.mem_singleton_self _), ?_⟩
        exact (requestId_onPlayerEnterRequest ..).trans hid
      · exact .inl ⟨req, hrest, hid⟩
    · exact .inr ⟨ack, List.mem_append_left _ hack, hid⟩

/-- What an answer to an enter leaves of the enters: none with its id. -/
theorem enters_onZonePlayerEnterAck (l : PositionLink) (ack : ZoneWorldPlayerEnterAck)
    (checks : AnswerChecks) :
    (l.onZonePlayerEnterAck ack checks).enters = l.enters.filter (·.requestId ≠ ack.requestId) ∧
      (l.onZonePlayerEnterAck ack checks).toZone = l.toZone ∧
      (l.onZonePlayerEnterAck ack checks).toWorld = l.toWorld := by
  unfold onZonePlayerEnterAck
  dsimp only
  split
  next hfind =>
    refine ⟨(List.filter_eq_self.mpr fun r hr => ?_).symm, rfl, rfl⟩
    simpa using List.find?_eq_none.mp hfind r hr
  next => split_ifs <;> exact ⟨rfl, rfl, rfl⟩

/-- A map answer takes nothing away from the zone. -/
theorem sends_onZoneMapAssignResponse (l : PositionLink) (res : ZoneWorldMapAssignResponse)
    (bound : Bool) :
    (l.onZoneMapAssignResponse res bound).enters = l.enters ∧
      (∀ m ∈ l.toZone, m ∈ (l.onZoneMapAssignResponse res bound).toZone) ∧
      (l.onZoneMapAssignResponse res bound).toWorld = l.toWorld := by
  unfold onZoneMapAssignResponse
  dsimp only
  split
  · exact ⟨rfl, fun _ => id, rfl⟩
  · split
    · exact ⟨rfl, fun m hm => List.mem_append_left _ hm, rfl⟩
    · exact ⟨rfl, fun _ => id, rfl⟩

/-- An enter whose answer arrives is taken from the table. -/
theorem waiting_receive (checks : AnswerChecks) (h : l.Waiting) :
    (l.step cfg (.receive checks)).Waiting := by
  unfold step
  dsimp only
  split
  · exact h
  next answer rest hanswers =>
    -- Every other answer is still to be handled.
    have hrest : ∀ r ∈ l.enters, (∀ ack, answer = .playerEnter ack → r.requestId ≠ ack.requestId) →
        ({ l with toWorld := rest } : PositionLink).UnderWay r.requestId := by
      intro r hr hother
      rcases h.underWay r hr with hreq | ⟨ack, hack, hid⟩
      · exact .inl hreq
      · rw [hanswers] at hack
        rcases List.mem_cons.mp hack with hhead | hlater
        · exact absurd hid.symm (hother ack hhead.symm)
        · exact .inr ⟨ack, hlater, hid⟩
    cases answer with
    | mapAssign res =>
        obtain ⟨henters, hzone, hworld⟩ :=
          sends_onZoneMapAssignResponse { l with toWorld := rest } res checks.bound
        exact Waiting.of_sends (l := { l with toWorld := rest })
          ⟨h.keyed, fun r hr => hrest r hr nofun⟩ henters hzone hworld
    | playerEnter ack =>
        obtain ⟨henters, hzone, hworld⟩ :=
          enters_onZonePlayerEnterAck { l with toWorld := rest } ack checks
        refine ⟨?_, fun r hr => ?_⟩
        · rw [onAnswer, henters]
          exact nodup_map_filter h.keyed
        · rw [onAnswer, henters] at hr
          obtain ⟨hr, hne⟩ := List.mem_filter.mp hr
          refine (hrest r hr fun ack' heq => ?_).mono (fun m hm => ?_) fun m hm => ?_
          · cases heq
            exact of_decide_eq_true hne
          · rw [onAnswer, hzone]
            exact hm
          · rw [onAnswer, hworld]
            exact hm

/-- Whatever happens, an enter that waits is under way. -/
theorem waiting_step (e : Event) (h : l.Waiting) : (l.step cfg e).Waiting := by
  cases e with
  | enterSent enter =>
      refine ⟨nodup_map_upsertBy h.keyed, fun r hr => ?_⟩
      rcases mem_upsertBy hr with hold | rfl
      · exact (h.underWay r hold).mono (fun m hm => List.mem_append_left _ hm) fun _ => id
      · exact .inl ⟨_, List.mem_append_right _ (List.mem_singleton_self _), rfl⟩
  | enterDropped requestId => exact h.dropEnter requestId
  | assignSent req => exact h.of_sends rfl (fun m hm => List.mem_append_left _ hm) rfl
  | run actor ans => exact h.of_sends rfl (fun m hm => List.mem_append_left _ hm) rfl
  | zone now => exact waiting_zone now h
  | receive checks => exact waiting_receive checks h
  | _ => exact h.of_sends rfl (fun _ => id) rfl

/-! ## Runs -/

/-- **Step**: a step that fits keeps every character settled. -/
theorem settled_step (haoi : cfg.enableZoneAoiSnapshot = true) (e : Event)
    (hfits : l.Fits cfg e) (hwaiting : l.Waiting) (hc : l.Settled cfg c) :
    (l.step cfg e).Settled cfg c := by
  cases e with
  | enterSent enter => exact settled_enterSent enter hfits hc
  | enterDropped requestId =>
      exact settled_answered (SameAt.refl _ _) (fun _ hf => DropFits.settlesAt hfits hf) hc
  | assignSent req =>
      refine (sameFor_of_sameAt [.mapAssign req] (SameAt.refl l.actors c) fun m hm => ?_).settled hc
      rw [List.mem_singleton.mp hm]
      exact nofun
  | transferFailed requestId => exact (sameFor_of_actors (sameAt_parked _)).settled hc
  | sessionClosed charId sid serial =>
      exact (sameFor_of_actors (sameAt_cleanupClosedWorldSessionActors ..)).settled hc
  | leaveBegun ctx => exact (sameFor_of_actors sameAt_beginLeaveWorld).settled hc
  | movePacket charId sid x y =>
      exact (sameFor_of_actors (sameAt_post (.inr fun _ => rfl) rfl)).settled hc
  | run actor ans => exact settled_run haoi hfits hc
  | zone now => exact settled_zone now hc
  | reap now => exact settled_reap now hc
  | receive checks => exact settled_receive hwaiting.keyed hfits hc

/-- With nothing outstanding, a settled character is bound where its actor
is. -/
theorem agrees_of_settled (hc : ∀ c, l.Settled cfg c) (hwaiting : l.Waiting) : l.Agrees := by
  intro hquiet c hin b hb hpos
  have hentered : l.enters = [] := by
    refine List.eq_nil_iff_forall_not_mem.mpr fun r hr => ?_
    rcases hwaiting.underWay r hr with ⟨req, hreq, -⟩ | ⟨ack, hack, -⟩
    · rw [hquiet.toZone] at hreq
      cases hreq
    · rw [hquiet.toWorld] at hack
      cases hack
  have hfollowed : l.Followed c := by
    refine ⟨hin, ?_, ?_⟩
    · rw [entering, hentered, hquiet.mail]
      rfl
    · rw [leaving, hquiet.mail]
      rfl
  have hbindings : l.zone.playerBindings.lookup c ∈ l.bindings cfg c := by
    rw [bindings, hquiet.toZone]
    exact List.mem_singleton_self _
  have hnone : l.actors.snapshots c = [] := by
    rw [snapshots, hquiet.mail]
    rfl
  have hdest : l.actors.destPlace c = (l.actors.players c).place := by
    rw [destPlace, hquiet.mail]
    rfl
  have hbound := hc c hfollowed _ hbindings b hb
  rw [hdest] at hbound
  rw [PlayerBindingState.place, hbound.mapTemplateId, hbound.instanceId, hbound.position hnone hpos]

theorem settled_initial (cfg : PositionConfig) (c : UInt64) : Settled cfg {} c := by
  intro hfollowed
  cases hfollowed.inWorld

/-- **World and zone agree on positions**: in every run whose steps fit,
whenever no message and no task is outstanding, each character in the world
whose binding has a position is bound where its player actor is. -/
theorem agrees_of_along (cfg : PositionConfig) (haoi : cfg.enableZoneAoiSnapshot = true)
    (es : List Event) (h : Along (step cfg) (Fits cfg) {} es) :
    Always (step cfg) Agrees {} es := by
  have hkept : Always (step cfg) (fun l => (∀ c, l.Settled cfg c) ∧ l.Waiting) {} es := by
    refine always_of_along ⟨settled_initial cfg, List.nodup_nil, nofun⟩ (fun l e hl hfits => ?_) h
    exact ⟨fun c => settled_step haoi e hfits hl.2 (hl.1 c), waiting_step e hl.2⟩
  exact hkept.imp fun l hl => agrees_of_settled hl.1 hl.2

/-! ## Deciding it -/

section Deciding

variable {snapshots : List Vec2i} {p : Place} {pos : Vec2i} {ans : MoveAnswers} {x y : Int32}
  {requestId : UInt64}

instance {b : PlayerBindingState} : Decidable (BoundAt snapshots p b) :=
  decidable_of_iff
    (b.mapTemplateId = p.mapTemplateId ∧ b.instanceId = p.instanceId ∧
      (∀ pos ∈ snapshots, pos = p.pos) ∧
        (snapshots = [] → b.hasPosition = true → (⟨b.x, b.y⟩ : Vec2i) = p.pos))
    ⟨fun ⟨hmap, hinstance, htold, hpos⟩ => ⟨hmap, hinstance, htold, hpos⟩,
      fun h => ⟨h.mapTemplateId, h.instanceId, h.told, h.position⟩⟩

instance : Decidable (l.SettlesAt cfg c p) := inferInstanceAs (Decidable (∀ _ ∈ _, ∀ _ ∈ _, _))

instance : Decidable (l.Followed c) :=
  decidable_of_iff
    ((l.actors.players c).isInWorld = true ∧ l.entering c = false ∧ l.leaving c = false)
    ⟨fun ⟨hin, henter, hleave⟩ => ⟨hin, henter, hleave⟩,
      fun h => ⟨h.inWorld, h.entering, h.leaving⟩⟩

instance : Decidable (l.DropFits cfg requestId) :=
  inferInstanceAs (Decidable (∀ _ ∈ l.enters, _ → _ → _))

instance : Decidable (l.TransferFits c pos) := inferInstanceAs (Decidable (_ → ∀ _ ∈ _, _))

instance : Decidable (l.EnterFits cfg c p) :=
  inferInstanceAs (Decidable (_ → _ → (∀ _ ∈ _, ∀ _ ∈ _, _ ∧ _) ∧ (∀ _ ∈ _, _) ∧ _))

instance : Decidable (l.CleanupFits cfg c) := inferInstanceAs (Decidable (_ → _ ∨ _))

instance : Decidable (l.WalkFits cfg c pos) :=
  inferInstanceAs (Decidable (_ → (∀ o ∈ l.bindings cfg c, o = none) ∨
    if l.actors.placing c = true then
      l.actors.snapshots c ≠ [] ∨ pos = (l.actors.destPlace c).pos
    else l.actors.snapshots c = []))

instance : Decidable (l.PortalFits cfg c pos) := inferInstanceAs (Decidable (_ → _ ∨ _))

instance : (outcome : MoveOutcome) → (assign : PortalAssign) →
    Decidable (l.MoveFits cfg c x y outcome assign)
  | .transfer request, .ok _ true =>
      inferInstanceAs (Decidable (l.TransferFits c ⟨request.targetX, request.targetY⟩))
  | .transfer _, .ok _ false => isTrue trivial
  | .transfer _, .refused => isTrue trivial
  | .transfer _, .pending _ => isTrue trivial
  | .portalMove _ _ destX destY, _ =>
      inferInstanceAs (Decidable (l.PortalFits cfg c ⟨destX, destY⟩))
  | .walk, _ => inferInstanceAs (Decidable (l.WalkFits cfg c ⟨x, y⟩))
  | .ignored, _ => isTrue trivial

instance : (post : ActorPost) → Decidable (l.PostFits cfg ans post)
  | .player charId (.enter coreState _ _ _ mapTemplateId instanceId) =>
      inferInstanceAs (Decidable (l.EnterFits cfg charId
        ⟨mapTemplateId, instanceId, ⟨coreState.hot.position.x, coreState.hot.position.y⟩⟩))
  | .player charId (.cleanup _ _) => inferInstanceAs (Decidable (l.CleanupFits cfg charId))
  | .player charId (.move sid x y) =>
      inferInstanceAs (Decidable (l.MoveFits cfg charId x y
        (decideWorldMove cfg.actors (l.actors.players charId) charId sid x y ans) ans.assign))
  | .player _ (.setWorldPosition _ _ _ _ _) => isTrue trivial
  | .player _ (.leaveWorld _) => isTrue trivial
  | .zone _ _ => isTrue trivial

instance {checks : AnswerChecks} :
    (answer : ZoneAnswer) → Decidable (l.AnswerFits cfg checks answer)
  | .mapAssign _ =>
      inferInstanceAs (Decidable (_ → _ → ∀ _ ∈ l.actors.pendingPortalTransfer.find? _, _))
  | .playerEnter _ => inferInstanceAs (Decidable (∀ _ ∈ l.enters.find? _, _ ∨ _))

instance : (e : Event) → Decidable (l.Fits cfg e)
  | .enterSent _ => inferInstanceAs (Decidable (l.DropFits cfg _))
  | .enterDropped requestId => inferInstanceAs (Decidable (l.DropFits cfg requestId))
  | .run actor ans =>
      inferInstanceAs (Decidable (∀ p ∈ oldest ActorPost.addr actor l.actors.mail,
        (l.taken actor).PostFits cfg ans p))
  | .receive _ => inferInstanceAs (Decidable (∀ _ ∈ l.toWorld.head?, _))
  | .assignSent _ => isTrue trivial
  | .transferFailed _ => isTrue trivial
  | .sessionClosed _ _ _ => isTrue trivial
  | .leaveBegun _ => isTrue trivial
  | .movePacket _ _ _ _ => isTrue trivial
  | .zone _ => isTrue trivial
  | .reap _ => isTrue trivial

end Deciding

/-! ## A visit -/

/-- Two portals of map 1: at 20 within the map, at 30 to map 2. -/
def portalMap : PositionConfig where
  actors :=
    { findTriggeredPortal := fun _ mapId x _ =>
        if mapId = 1 ∧ x = 20 then some { destX := 70, destY := 70 }
        else if mapId = 1 ∧ x = 30 then
          some { destZoneId := 2, destMapId := 2, destX := 5, destY := 5 }
        else none }
  zone := { servedMapIds := [], hasMap := fun _ _ => true }

/-- Character 7 enters map 1, whose zone it is told to make first. -/
def entersMapOne : List Event :=
  [.assignSent { mapTemplateId := 1, createIfMissing := 1 }, .zone 0, .receive {},
    .enterSent
      { requestId := 0, targetZoneId := 1, mapTemplateId := 1, instanceId := 0
        enterPending :=
          { requestId := 0, sid := 1, serial := 1, accountId := 0, charId := 7
            loginSession := "", worldToken := "" }
        coreState := makeDefaultCharacterCoreState 1 7, cachedStateBlob := [] },
    .zone 0, .receive {}, .run (.player 7) {}, .run (.zone 1) {}, .zone 0]

/-- It walks, takes the portal to map 2, walks there, and leaves. -/
def visitsMapTwo : List Event :=
  entersMapOne ++
    [.movePacket 7 1 10 10, .run (.player 7) {}, .run (.zone 1) {}, .zone 0,
      .assignSent { mapTemplateId := 2, createIfMissing := 1 }, .zone 0, .receive {},
      .movePacket 7 1 30 10, .run (.player 7) { assign := .ok 2 true }, .run (.player 7) {},
      .run (.zone 1) {}, .run (.zone 2) {}, .zone 0, .zone 0, .zone 0, .receive {},
      .movePacket 7 1 8 8, .run (.player 7) {}, .run (.zone 2) {}, .zone 0,
      .sessionClosed 7 1 1, .run (.player 7) {}, .run (.player 7) {}, .run (.zone 2) {}, .zone 0]

theorem agrees_visitsMapTwo :
    portalMap.enableZoneAoiSnapshot = true ∧
      Along (step portalMap) (Fits portalMap) {} visitsMapTwo ∧
        Always (step portalMap) Agrees {} visitsMapTwo := by
  have h : Along (step portalMap) (Fits portalMap) {} visitsMapTwo := by decide
  exact ⟨rfl, h, agrees_of_along portalMap rfl visitsMapTwo h⟩

/-- Character 7 takes the portal within map 1. -/
def takesPortal : List Event :=
  entersMapOne ++ [.movePacket 7 1 20 10, .run (.player 7) {}, .run (.zone 1) {}]

/-- The actor is at 70, the zone has it where it entered. -/
theorem not_agrees_takesPortal : ¬Always (step portalMap) Agrees {} takesPortal := by
  intro h
  have hend := always_iff_forall_part.mp h takesPortal List.prefix_rfl
  set l := run (step portalMap) {} takesPortal with hl
  have hquiet : l.Quiet := ⟨by decide, by decide, by decide⟩
  have hin : (l.actors.players 7).isInWorld = true := by decide
  have hplace : (l.zone.playerBindings.lookup 7).map (fun b => (b.hasPosition, b.x)) =
      some (true, (makeDefaultCharacterCoreState 1 7).hot.position.x) := by decide
  obtain ⟨b, hb, hposition⟩ := Option.map_eq_some_iff.mp hplace
  have hagrees := hend hquiet 7 hin b hb (congrArg Prod.fst hposition)
  have hx := congrArg (fun place : Place => place.pos.x) hagrees
  have hbx : b.x = (makeDefaultCharacterCoreState 1 7).hot.position.x := congrArg Prod.snd hposition
  have hax : (l.actors.players 7).place.pos.x = 70 := by decide
  rw [hax] at hx
  exact absurd (hbx.symm.trans hx) (by decide)

end PositionLink

end GameServer
