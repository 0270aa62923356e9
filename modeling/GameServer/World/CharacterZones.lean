import GameServer.World.ActorTasks

/-!
# GameServer.World.CharacterZones

Each character is in one zone.

* `WillHold`, `destZone` — where a character will be once the posted tasks
  have run;
* `HomeOf` — it will be in one zone at most, and in the world in the zone its
  actor will be at;
* `Fits` — the steps that keep this: a transfer that completes takes the
  character out of the zone it is in, an enter and a move find it in no other
  zone;
* `oneZone_of_along` — a run of such steps keeps each character in one zone.
-/

namespace GameServer

namespace ActorPost

/-- What a post does to the zone it is for. -/
def applyZone (z : ZoneActor) : ActorPost → ZoneActor
  | .player _ _ => z
  | .zone _ task => task.apply z

/-- The zone a player is at after a post. -/
def destination (z : UInt32) : ActorPost → UInt32
  | .player _ (.setWorldPosition zoneId _ _ _ _) => zoneId.toUInt32
  | _ => z

end ActorPost

namespace ZoneTask

/-- A leave removes its own character. -/
theorem isSome_players_leave (z : ZoneActor) (charId c : UInt64) :
    ((z.leave charId).players c).isSome = if c = charId then false else (z.players c).isSome := by
  have hplayers : (z.leave charId).players = z.players.erase charId := by
    unfold ZoneActor.leave
    split
    · next h => rw [Table.erase_of_eq_none h]
    · rfl
  rw [hplayers, Table.erase_apply]
  split <;> rfl

theorem isSome_players_set (players : Table UInt64 PlayerInfo) (charId c : UInt64)
    (info : PlayerInfo) :
    (players.set charId info c).isSome = if c = charId then true else (players c).isSome := by
  rw [Table.set_apply]
  split <;> rfl

/-- A task is about one character: it is in the zone afterwards or not. -/
theorem isSome_players_apply (z : ZoneActor) (task : ZoneTask) (c : UInt64) :
    ((task.apply z).players c).isSome =
      if c = task.charId then task.holds else (z.players c).isSome := by
  cases task with
  | join charId pos sid serial => exact isSome_players_set z.players charId c _
  | leave charId => exact isSome_players_leave z charId c
  | rejoin charId pos sid serial =>
      change ((z.leave charId).players.set charId _ c).isSome = if c = charId then true else _
      rw [isSome_players_set, isSome_players_leave]
      by_cases hc : c = charId
      · rw [if_pos hc, if_pos hc]
      · rw [if_neg hc, if_neg hc, if_neg hc]
  | move charId pos sid serial =>
      have hplayers : ∃ info, (z.move charId pos sid serial).1.players =
          z.players.set charId info := by
        unfold ZoneActor.move
        split
        · exact ⟨_, rfl⟩
        · dsimp only
          split
          · exact ⟨_, rfl⟩
          · split <;> exact ⟨_, rfl⟩
      obtain ⟨info, hplayers⟩ := hplayers
      have hset := isSome_players_set z.players charId c info
      rw [← hplayers] at hset
      exact hset

end ZoneTask

namespace WorldActors

open Mailbox

section

variable (cfg : ActorConfig) (st : WorldActors)

/-! ## Where a character will be -/

/-- The zone once its tasks have run. -/
def settledZone (zoneId : UInt32) : ZoneActor :=
  (inbox ActorPost.addr (.zone zoneId) st.mail).foldl ActorPost.applyZone
    (st.getOrCreateZoneActor cfg zoneId)

/-- The character will be in the zone. -/
def WillHold (zoneId : UInt32) (charId : UInt64) : Prop :=
  ((st.settledZone cfg zoneId).players charId).isSome = true

/-- The zone the positions that wait will put the actor of a character at. -/
def destZone (charId : UInt64) : UInt32 :=
  (inbox ActorPost.addr (.player charId) st.mail).foldl ActorPost.destination
    (st.players charId).getZoneId

/-- The character will be in no other zone than these. -/
def HeldOnlyBy (charId : UInt64) (zones : List UInt32) : Prop :=
  ∀ z, st.WillHold cfg z charId → z ∈ zones

/-- The character will be in one zone at most, and in the world in the zone
of its actor. -/
structure HomeOf (charId : UInt64) : Prop where
  unique : ∀ z z', st.WillHold cfg z charId → st.WillHold cfg z' charId → z = z'
  home : (st.players charId).isInWorld = true → st.WillHold cfg (st.destZone charId) charId

/-! ## The steps that keep it -/

/-- A transfer that completes takes the character out of the zone it is in. -/
def TransferFits (pending : PendingPortalTransfer) (zoneId : UInt16) : Bool → Prop
  | true => st.HeldOnlyBy cfg pending.charId [pending.sourceZoneId.toUInt32, zoneId.toUInt32]
  | false => True

/-- A move finds the character in no zone but its actor's. -/
def MoveFits (charId : UInt64) : MoveOutcome → PortalAssign → Prop
  | .ignored, _ => True
  | .transfer request, .ok zoneId bound => st.TransferFits cfg request zoneId bound
  | .transfer _, _ => True
  | .portalMove _ _ _ _, _ => st.HeldOnlyBy cfg charId [(st.players charId).getZoneId]
  | .walk, _ => st.HeldOnlyBy cfg charId [(st.players charId).getZoneId]

/-- A leave takes a character that stays in the world out of no zone that it
is in: it is the leave of the actor's connection, or from the actor's place,
or for another zone. -/
def LeaveFits (ctx : LeaveWorldContext) : Prop :=
  let a := st.players ctx.charId
  a.isInWorld = true → ctx.zoneId ≠ 0 → ctx.zoneId.toUInt32 = st.destZone ctx.charId →
    (isValidSessionKey ctx.sid ctx.serial = true ∧ a.sid = ctx.sid ∧ a.serial = ctx.serial) ∨
      leavesFrom a ctx = true

/-- An enter finds the character in no other zone, and no position for
another zone waits for its actor. -/
def EnterFits (charId : UInt64) (zoneId : UInt32) : Prop :=
  st.HeldOnlyBy cfg charId [zoneId] ∧
    (inbox ActorPost.addr (.player charId) st.mail).foldl ActorPost.destination zoneId = zoneId

/-- The task of a player fits. -/
def TaskFits (charId : UInt64) (ans : MoveAnswers) : PlayerTask → Prop
  | .enter _ _ _ zoneId _ _ => st.EnterFits cfg charId zoneId.toUInt32
  | .setWorldPosition _ _ _ _ _ => True
  | .cleanup _ _ => True
  | .leaveWorld ctx => st.LeaveFits ctx
  | .move sid x y =>
      st.MoveFits cfg charId (decideWorldMove cfg (st.players charId) charId sid x y ans) ans.assign

/-- The post of an actor fits. -/
def PostFits (ans : MoveAnswers) : ActorPost → Prop
  | .player charId task => st.TaskFits cfg charId ans task
  | .zone _ _ => True

/-- The step puts no character into a zone besides one that it stays in. -/
def Fits : ActorEvent → Prop
  | .transferAnswered requestId zoneId _ _ bound =>
      ∀ pending ∈ st.pendingPortalTransfer.find? (·.assignRequestId == requestId),
        st.TransferFits cfg pending zoneId bound
  | .run actor ans => ∀ p ∈ oldest ActorPost.addr actor st.mail, st.PostFits cfg ans p
  | _ => True

end

variable {cfg : ActorConfig} {st st' : WorldActors} {c charId : UInt64} {z zoneId : UInt32}

/-! ## Deciding it -/

/-- The zones that exist or have mail. -/
def knownZones (st : WorldActors) : List UInt32 :=
  st.zones.keys ++ st.mail.filterMap fun
    | .zone zoneId _ => some zoneId
    | .player _ _ => none

/-- No other zone can come to hold anybody. -/
theorem mem_knownZones (h : st.WillHold cfg z c) : z ∈ st.knownZones := by
  by_contra hz
  have hz' : z ∉ st.zones.keys ∧ z ∉ st.mail.filterMap _ := not_or.mp (List.mem_append.not.mp hz)
  have hzone : st.getOrCreateZoneActor cfg z = { sector := cfg.sector } := by
    unfold getOrCreateZoneActor
    rw [AList.lookup_eq_none.mpr hz'.1]
    rfl
  have hinbox : inbox ActorPost.addr (.zone z) st.mail = [] := by
    refine List.filter_eq_nil_iff.mpr fun p hp hpz => hz'.2 ?_
    cases p with
    | player charId task => simp [ActorPost.addr] at hpz
    | zone zoneId task =>
        have hid : zoneId = z := by simpa [ActorPost.addr] using hpz
        exact List.mem_filterMap.mpr ⟨_, hp, congrArg some hid⟩
  unfold WillHold settledZone at h
  rw [hinbox, hzone] at h
  cases h

instance instDecidableWillHold : Decidable (st.WillHold cfg z c) :=
  inferInstanceAs (Decidable (_ = true))

instance instDecidableHeldOnlyBy {zones : List UInt32} : Decidable (st.HeldOnlyBy cfg c zones) :=
  -- over the list, not over all zone ids
  let : Decidable (∀ z ∈ st.knownZones, st.WillHold cfg z c → z ∈ zones) :=
    List.decidableBAll (fun z => st.WillHold cfg z c → z ∈ zones) st.knownZones
  decidable_of_iff (∀ z ∈ st.knownZones, st.WillHold cfg z c → z ∈ zones)
    ⟨fun h z hz => h z (mem_knownZones hz) hz, fun h z _ hz => h z hz⟩

instance instDecidableTransferFits {pending : PendingPortalTransfer} {assigned : UInt16} :
    (bound : Bool) → Decidable (st.TransferFits cfg pending assigned bound)
  | true => instDecidableHeldOnlyBy
  | false => isTrue trivial

instance instDecidableMoveFits : (outcome : MoveOutcome) → (assign : PortalAssign) →
    Decidable (st.MoveFits cfg charId outcome assign)
  | .ignored, _ => isTrue trivial
  | .transfer _, .ok _ bound => instDecidableTransferFits bound
  | .transfer _, .refused => isTrue trivial
  | .transfer _, .pending _ => isTrue trivial
  | .portalMove _ _ _ _, _ => instDecidableHeldOnlyBy
  | .walk, _ => instDecidableHeldOnlyBy

instance instDecidableTaskFits {ans : MoveAnswers} :
    (task : PlayerTask) → Decidable (st.TaskFits cfg charId ans task)
  | .enter _ _ _ _ _ _ => inferInstanceAs (Decidable (_ ∧ _))
  | .setWorldPosition _ _ _ _ _ => isTrue trivial
  | .cleanup _ _ => isTrue trivial
  | .leaveWorld _ => inferInstanceAs (Decidable (_ → _ → _ → _ ∨ _))
  | .move _ _ _ => instDecidableMoveFits _ _

instance instDecidablePostFits {ans : MoveAnswers} :
    (p : ActorPost) → Decidable (st.PostFits cfg ans p)
  | .player _ task => instDecidableTaskFits task
  | .zone _ _ => isTrue trivial

instance instDecidableFits : (e : ActorEvent) → Decidable (st.Fits cfg e)
  | .transferAnswered _ _ _ _ _ => inferInstanceAs (Decidable (∀ _ ∈ _, _))
  | .run _ _ => inferInstanceAs (Decidable (∀ _ ∈ _, _))
  | .enterCompleted _ _ _ _ _ _ _ => isTrue trivial
  | .movePacket _ _ _ _ => isTrue trivial
  | .transferFailed _ => isTrue trivial
  | .sessionClosed _ _ _ => isTrue trivial
  | .leaveBegun _ => isTrue trivial

/-! ## Posts -/

theorem settledZone_post_player (charId : UInt64) (task : PlayerTask) :
    (st.post (.player charId task)).settledZone cfg z = st.settledZone cfg z := by
  have hinbox : inbox ActorPost.addr (.zone z) [ActorPost.player charId task] = [] :=
    inbox_singleton_of_ne nofun
  unfold settledZone post getOrCreateZoneActor
  rw [inbox_append, hinbox, List.append_nil]

theorem willHold_post_player (charId : UInt64) (task : PlayerTask) :
    (st.post (.player charId task)).WillHold cfg z c ↔ st.WillHold cfg z c := by
  unfold WillHold
  rw [settledZone_post_player]

/-- A task for a zone decides about its own character there. -/
theorem willHold_post_zone (zoneId : UInt32) (task : ZoneTask) :
    (st.post (.zone zoneId task)).WillHold cfg z c ↔
      if z = zoneId ∧ c = task.charId then task.holds = true else st.WillHold cfg z c := by
  unfold WillHold settledZone post
  rw [inbox_append, List.foldl_append]
  by_cases hz : z = zoneId
  · subst hz
    have hinbox : inbox ActorPost.addr (.zone z) [ActorPost.zone z task] = [.zone z task] :=
      inbox_singleton_self
    rw [hinbox]
    simp only [List.foldl_cons, List.foldl_nil, ActorPost.applyZone,
      ZoneTask.isSome_players_apply, true_and]
    split <;> rfl
  · have hinbox : inbox ActorPost.addr (.zone z) [ActorPost.zone zoneId task] = [] :=
      inbox_singleton_of_ne fun h => hz (ActorAddr.zone.inj h).symm
    rw [hinbox, if_neg fun h => hz h.1]
    rfl

theorem destZone_post_zone (zoneId : UInt32) (task : ZoneTask) :
    (st.post (.zone zoneId task)).destZone c = st.destZone c := by
  have hinbox : inbox ActorPost.addr (.player c) [ActorPost.zone zoneId task] = [] :=
    inbox_singleton_of_ne nofun
  unfold destZone post
  rw [inbox_append, hinbox, List.append_nil]

/-- A posted task moves the destination of its own character. -/
theorem destZone_post_player (charId : UInt64) (task : PlayerTask) :
    (st.post (.player charId task)).destZone c =
      if c = charId then (ActorPost.player charId task).destination (st.destZone c)
      else st.destZone c := by
  unfold destZone post
  rw [inbox_append, List.foldl_append]
  split
  · next hc =>
    subst hc
    have hinbox : inbox ActorPost.addr (.player c) [ActorPost.player c task] = [.player c task] :=
      inbox_singleton_self
    rw [hinbox]
    rfl
  · next hc =>
    have hinbox : inbox ActorPost.addr (.player c) [ActorPost.player charId task] = [] :=
      inbox_singleton_of_ne fun h => hc (ActorAddr.player.inj h).symm
    rw [hinbox]
    rfl

/-! ## Changes of a player -/

theorem willHold_setPlayer (charId : UInt64) (a : PlayerActor) :
    (st.setPlayer charId a).WillHold cfg z c ↔ st.WillHold cfg z c := Iff.rfl

theorem players_setPlayer_self (st : WorldActors) (charId : UInt64) (a : PlayerActor) :
    (st.setPlayer charId a).players charId = a := by
  simp [setPlayer]

theorem players_setPlayer_of_ne {a : PlayerActor} (h : c ≠ charId) :
    (st.setPlayer charId a).players c = st.players c := by
  simp [setPlayer, h]

theorem destZone_setPlayer_self (charId : UInt64) (a : PlayerActor) :
    (st.setPlayer charId a).destZone charId =
      (inbox ActorPost.addr (.player charId) st.mail).foldl ActorPost.destination a.getZoneId := by
  unfold destZone
  rw [players_setPlayer_self]
  rfl

theorem destZone_setPlayer_of_ne {a : PlayerActor} (h : c ≠ charId) :
    (st.setPlayer charId a).destZone c = st.destZone c := by
  unfold destZone
  rw [players_setPlayer_of_ne h]
  rfl

/-! ## One character -/

/-- The step says nothing about the character. -/
structure SameFor (cfg : ActorConfig) (st st' : WorldActors) (c : UInt64) : Prop where
  willHold : ∀ z, st'.WillHold cfg z c ↔ st.WillHold cfg z c
  dest : st'.destZone c = st.destZone c
  inWorld : (st'.players c).isInWorld = true → (st.players c).isInWorld = true

theorem SameFor.homeOf (h : SameFor cfg st st' c) (hc : st.HomeOf cfg c) : st'.HomeOf cfg c where
  unique z z' hz hz' := hc.unique z z' ((h.willHold z).mp hz) ((h.willHold z').mp hz')
  home hin := by
    rw [h.dest, h.willHold]
    exact hc.home (h.inWorld hin)

theorem SameFor.trans {st'' : WorldActors} (h : SameFor cfg st st' c)
    (h' : SameFor cfg st' st'' c) : SameFor cfg st st'' c where
  willHold z := (h'.willHold z).trans (h.willHold z)
  dest := h'.dest.trans h.dest
  inWorld hin := h.inWorld (h'.inWorld hin)

/-- A task that is about another character, or places nobody, changes nothing here. -/
theorem sameFor_post_player {charId : UInt64} {task : PlayerTask}
    (h : c ≠ charId ∨ ∀ d, (ActorPost.player charId task).destination d = d) :
    SameFor cfg st (st.post (.player charId task)) c where
  willHold _ := willHold_post_player charId task
  dest := by
    rw [destZone_post_player]
    split
    · next hc => exact h.elim (fun hne => absurd hc hne) fun hd => hd _
    · rfl
  inWorld h := h

theorem sameFor_post_zone {zoneId : UInt32} {task : ZoneTask} (h : c ≠ task.charId) :
    SameFor cfg st (st.post (.zone zoneId task)) c where
  willHold z := by rw [willHold_post_zone, if_neg fun hc => h hc.2]
  dest := destZone_post_zone zoneId task
  inWorld h := h

theorem sameFor_setPlayer {a : PlayerActor} (h : c ≠ charId) :
    SameFor cfg st (st.setPlayer charId a) c where
  willHold _ := Iff.rfl
  dest := destZone_setPlayer_of_ne h
  inWorld hin := by rwa [players_setPlayer_of_ne h] at hin

/-- A character that will be in one zone only, its actor's, has its home
there. -/
theorem homeOf_of_sole (hold : st.WillHold cfg zoneId c) (honly : st.HeldOnlyBy cfg c [zoneId])
    (hdest : (st.players c).isInWorld = true → st.destZone c = zoneId) : st.HomeOf cfg c where
  unique z z' hz hz' := by
    have h := List.mem_singleton.mp (honly z hz)
    have h' := List.mem_singleton.mp (honly z' hz')
    rw [h, h']
  home hin := by
    rw [hdest hin]
    exact hold

/-- Joining a zone that no other zone competes with. -/
theorem willHold_post_join (task : ZoneTask) (hholds : task.holds = true)
    (honly : st.HeldOnlyBy cfg task.charId [zoneId]) :
    (st.post (.zone zoneId task)).WillHold cfg zoneId task.charId ∧
      (st.post (.zone zoneId task)).HeldOnlyBy cfg task.charId [zoneId] := by
  constructor
  · rw [willHold_post_zone, if_pos ⟨rfl, rfl⟩]
    exact hholds
  · intro z hz
    rw [willHold_post_zone] at hz
    split at hz
    · next h => exact List.mem_singleton.mpr h.1
    · exact honly z hz

/-! ## Transfers -/

/-- A transfer leaves one zone and joins another, in the order of the two mailboxes. -/
theorem homeOf_completePortalTransfer {pending : PendingPortalTransfer} {assigned : UInt16}
    {mapTemplateId instanceId : UInt32} {bound : Bool}
    (hfits : st.TransferFits cfg pending assigned bound) (h : ∀ c, st.HomeOf cfg c) (c : UInt64) :
    (st.completePortalTransfer pending assigned mapTemplateId instanceId bound).HomeOf cfg c := by
  unfold completePortalTransfer
  cases bound with
  | false => exact h c
  | true =>
  have honly : st.HeldOnlyBy cfg pending.charId
      [pending.sourceZoneId.toUInt32, assigned.toUInt32] := hfits
  rw [if_neg nofun]
  by_cases hc : c = pending.charId
  · subst hc
    -- out of the recorded source first, so that only the target can be left
    set moved := (st.post (.player pending.charId
      (.setWorldPosition assigned mapTemplateId instanceId pending.targetX pending.targetY))).post
        (.zone pending.sourceZoneId.toUInt32 (.leave pending.charId)) with hmoved
    have honly' : moved.HeldOnlyBy cfg pending.charId [assigned.toUInt32] := by
      intro z hz
      rw [hmoved, willHold_post_zone, willHold_post_player] at hz
      split at hz
      · cases hz
      · next hne =>
        have hmem := honly z hz
        simp only [List.mem_cons, List.not_mem_nil, or_false] at hmem ⊢
        exact hmem.resolve_left fun hs => hne ⟨hs, rfl⟩
    have hdest : moved.destZone pending.charId = assigned.toUInt32 := by
      rw [hmoved, destZone_post_zone, destZone_post_player, if_pos rfl]
      rfl
    have hjoin := willHold_post_join
      (.join pending.charId ⟨pending.targetX, pending.targetY⟩ pending.sid pending.serial) rfl
      honly'
    exact homeOf_of_sole hjoin.1 hjoin.2 fun _ => by rw [destZone_post_zone, hdest]
  · have hpos : SameFor cfg st (st.post (.player pending.charId
        (.setWorldPosition assigned mapTemplateId instanceId pending.targetX pending.targetY))) c :=
      sameFor_post_player (Or.inl hc)
    have hleave : c ≠ (ZoneTask.leave pending.charId).charId := hc
    have hjoin : c ≠ (ZoneTask.join pending.charId ⟨pending.targetX, pending.targetY⟩ pending.sid
        pending.serial).charId := hc
    exact ((hpos.trans (sameFor_post_zone hleave)).trans (sameFor_post_zone hjoin)).homeOf (h c)

/-- Which transfers are parked does not matter to a character's zone. -/
theorem homeOf_of_parked {l : List PendingPortalTransfer} (h : st.HomeOf cfg c) :
    { st with pendingPortalTransfer := l }.HomeOf cfg c :=
  ⟨h.unique, h.home⟩

/-- A transfer is refused, kept until its map is assigned, or completed at once. -/
theorem homeOf_beginPortalTransfer {request : PendingPortalTransfer} {assign : PortalAssign}
    (hfits : st.MoveFits cfg charId (.transfer request) assign) (h : ∀ c, st.HomeOf cfg c)
    (c : UInt64) : (st.beginPortalTransfer request assign).HomeOf cfg c := by
  cases assign with
  | refused => exact h c
  | pending requestId => exact homeOf_of_parked (h c)
  | ok zoneId bound => exact homeOf_completePortalTransfer hfits h c

/-! ## Tasks of a player -/

/-- The mail once an actor has taken its oldest task. -/
def taken (st : WorldActors) (actor : ActorAddr) : WorldActors :=
  { st with mail := withoutOldest ActorPost.addr actor st.mail }

/-- The zones do not read the mailbox of a player. -/
theorem willHold_taken_player (charId : UInt64) :
    (st.taken (.player charId)).WillHold cfg z c ↔ st.WillHold cfg z c := by
  have hinbox : inbox ActorPost.addr (.zone z) (st.taken (.player charId)).mail =
      inbox ActorPost.addr (.zone z) st.mail := inbox_withoutOldest_of_ne nofun
  unfold WillHold settledZone
  rw [hinbox]
  rfl

/-- Where the rest of the tasks puts a player that the task at hand has put
somewhere. -/
theorem foldl_destination_taken {p : ActorPost}
    (h : oldest ActorPost.addr (.player charId) st.mail = some p) (d : UInt32) :
    (inbox ActorPost.addr (.player charId) (st.taken (.player charId)).mail).foldl
        ActorPost.destination (p.destination d) =
      (inbox ActorPost.addr (.player charId) st.mail).foldl ActorPost.destination d := by
  rw [inbox_eq_cons h]
  rfl

/-- Taking a task of another player does not touch the destination. -/
theorem destZone_taken_of_ne (h : c ≠ charId) :
    (st.taken (.player charId)).destZone c = st.destZone c := by
  have hinbox : inbox ActorPost.addr (.player c) (st.taken (.player charId)).mail =
      inbox ActorPost.addr (.player c) st.mail :=
    inbox_withoutOldest_of_ne fun hc => h (ActorAddr.player.inj hc)
  unfold destZone
  rw [hinbox]
  rfl

/-- Taking a task that is not a position changes nothing for anybody. -/
theorem destZone_taken {p : ActorPost}
    (h : oldest ActorPost.addr (.player charId) st.mail = some p)
    (hp : ∀ d, p.destination d = d) (c : UInt64) :
    (st.taken (.player charId)).destZone c = st.destZone c := by
  by_cases hc : c = charId
  · subst hc
    have hfold := foldl_destination_taken h (st.players c).getZoneId
    rw [hp] at hfold
    exact hfold
  · exact destZone_taken_of_ne hc

/-- So taking a task that places nobody keeps the character at home. -/
theorem homeOf_taken {p : ActorPost} (h : oldest ActorPost.addr (.player charId) st.mail = some p)
    (hp : ∀ d, p.destination d = d) (hc : st.HomeOf cfg c) :
    (st.taken (.player charId)).HomeOf cfg c :=
  SameFor.homeOf
    { willHold := fun _ => willHold_taken_player charId
      dest := destZone_taken h hp c
      inWorld := fun hin => hin } hc

theorem heldOnlyBy_taken (charId : UInt64) {zones : List UInt32} :
    (st.taken (.player charId)).HeldOnlyBy cfg c zones ↔ st.HeldOnlyBy cfg c zones :=
  forall_congr' fun _ => imp_congr (willHold_taken_player charId) Iff.rfl

/-- An enter into the only zone that can hold the character. -/
theorem homeOf_runEnter {coreState : CharacterCoreState} {sid serial : UInt32} {zoneId : UInt16}
    {mapTemplateId instanceId : UInt32} (hfits : st.EnterFits cfg charId zoneId.toUInt32)
    (h : ∀ c, st.HomeOf cfg c) (c : UInt64) :
    (st.runEnter cfg charId coreState sid serial zoneId mapTemplateId instanceId).HomeOf cfg c := by
  obtain ⟨honly, hdest⟩ := hfits
  unfold runEnter
  dsimp only
  set a := (st.players charId).applyCharacterCoreState cfg.recompute coreState sid serial zoneId
    mapTemplateId instanceId with ha
  have hzone : a.getZoneId = zoneId.toUInt32 := PlayerActor.getZoneId_applyCharacterCoreState ..
  set task := ZoneTask.join charId ⟨coreState.hot.position.x, coreState.hot.position.y⟩ sid serial
    with htask
  rw [hzone]
  by_cases hc : c = charId
  · subst hc
    have honly' : (st.setPlayer c a).HeldOnlyBy cfg task.charId [zoneId.toUInt32] := honly
    have hjoin := willHold_post_join task rfl honly'
    refine homeOf_of_sole hjoin.1 hjoin.2 fun _ => ?_
    rw [destZone_post_zone, destZone_setPlayer_self, hzone, hdest]
  · have hne : c ≠ task.charId := hc
    exact ((sameFor_setPlayer hc).trans (sameFor_post_zone hne)).homeOf (h c)

theorem homeOf_beginLeaveWorld (ctx : LeaveWorldContext) (h : st.HomeOf cfg c) :
    (st.beginLeaveWorld ctx).HomeOf cfg c := by
  unfold beginLeaveWorld
  split
  · exact h
  · exact (sameFor_post_player (Or.inr fun _ => rfl)).homeOf h

/-- Who is still in the world after leaving: a connection that is not the
actor's, from another place. -/
theorem isInWorld_of_left {a : PlayerActor} {ctx : LeaveWorldContext}
    (h : (if leavesFrom (unbound a ctx) ctx then (unbound a ctx).clearWorldPosition
      else unbound a ctx).isInWorld = true) :
    unbound a ctx = a ∧ a.isInWorld = true ∧ leavesFrom a ctx = false ∧
      ¬(isValidSessionKey ctx.sid ctx.serial = true ∧ a.sid = ctx.sid ∧ a.serial = ctx.serial) := by
  split at h
  · cases h
  next hfrom =>
  unfold unbound at h hfrom ⊢
  split at h
  · next hvalid =>
    obtain ⟨hin, hkey⟩ := PlayerActor.isInWorld_of_unbindSession h
    have hsame : a.unbindSession ctx.sid ctx.serial = a := if_pos hkey
    rw [if_pos hvalid, hsame] at hfrom ⊢
    exact ⟨rfl, hin, by simpa using hfrom, fun hc => hkey.elim (· hc.2.1) (· hc.2.2)⟩
  · next hvalid =>
    rw [if_neg hvalid] at hfrom ⊢
    exact ⟨rfl, h, by simpa using hfrom, fun hc => hvalid hc.1⟩

/-- A leave that fits takes the character out of the zone that holds it. -/
theorem homeOf_runLeaveWorld {ctx : LeaveWorldContext} (hfits : st.LeaveFits ctx)
    (h : ∀ c, st.HomeOf cfg c) (c : UInt64) :
    (st.runLeaveWorld ctx).HomeOf cfg c := by
  unfold runLeaveWorld
  dsimp only
  set a := st.players ctx.charId with ha
  set a' := if leavesFrom (unbound a ctx) ctx then (unbound a ctx).clearWorldPosition
    else unbound a ctx with ha'
  have hkept : a'.isInWorld = true → a' = a ∧ a.isInWorld = true ∧
      (ctx.zoneId ≠ 0 → ctx.zoneId.toUInt32 ≠ st.destZone ctx.charId) := by
    intro hin
    obtain ⟨hsame, hworld, hfrom, hkey⟩ := isInWorld_of_left hin
    refine ⟨?_, hworld, fun hzero hdest => ?_⟩
    · rw [ha', hsame, if_neg (by simpa using hfrom)]
    · rcases hfits hworld hzero hdest with hk | hf
      · exact hkey hk
      · exact absurd hf (by simpa using hfrom)
  have hset : (st.setPlayer ctx.charId a').HomeOf cfg c := by
    by_cases hc : c = ctx.charId
    · subst hc
      refine ⟨(h _).unique, fun hin => ?_⟩
      rw [players_setPlayer_self] at hin
      rw [destZone_setPlayer_self, (hkept hin).1]
      exact (h _).home (hkept hin).2.1
    · exact (sameFor_setPlayer hc).homeOf (h c)
  split
  case isFalse => exact hset
  case isTrue hzero =>
    by_cases hc : c = ctx.charId
    · subst hc
      constructor
      · intro z z' hz hz'
        rw [willHold_post_zone] at hz hz'
        split at hz
        · cases hz
        · split at hz'
          · cases hz'
          · exact hset.unique z z' hz hz'
      · intro hin
        have hin' : a'.isInWorld = true := by rwa [← players_setPlayer_self st ctx.charId a']
        rw [destZone_post_zone, willHold_post_zone]
        have hdest : (st.setPlayer ctx.charId a').destZone ctx.charId = st.destZone ctx.charId := by
          rw [destZone_setPlayer_self, (hkept hin').1]
          rfl
        rw [if_neg fun hz => (hkept hin').2.2 hzero (hz.1.symm.trans hdest)]
        exact hset.home hin
    · have hne : c ≠ (ZoneTask.leave ctx.charId).charId := hc
      exact (sameFor_post_zone hne).homeOf hset

/-- A move within the zone of the actor, when no other zone can hold the
character. -/
theorem homeOf_moveInZone {a' : PlayerActor} (task : ZoneTask)
    (honly : st.HeldOnlyBy cfg task.charId [(st.players task.charId).getZoneId])
    (hholds : task.holds = true) (hzone : a'.getZoneId = (st.players task.charId).getZoneId)
    (hworld : a'.isInWorld = true → (st.players task.charId).isInWorld = true)
    (h : ∀ c, st.HomeOf cfg c) (c : UInt64) :
    ((st.setPlayer task.charId a').post
      (.zone (st.players task.charId).getZoneId task)).HomeOf cfg c := by
  by_cases hc : c = task.charId
  · subst hc
    have honly' : (st.setPlayer task.charId a').HeldOnlyBy cfg task.charId
        [(st.players task.charId).getZoneId] := honly
    have hjoin := willHold_post_join task hholds honly'
    refine homeOf_of_sole hjoin.1 hjoin.2 fun hin => ?_
    have hin' : a'.isInWorld = true := by
      rwa [← players_setPlayer_self st task.charId a']
    have hdest := honly _ ((h task.charId).home (hworld hin'))
    rw [destZone_post_zone, destZone_setPlayer_self, hzone]
    exact List.mem_singleton.mp hdest
  · exact ((sameFor_setPlayer hc).trans (sameFor_post_zone hc)).homeOf (h c)

/-- A portal that does not change the zone and the map keeps the zone. -/
theorem zoneId_of_portalMove {a : PlayerActor} {sid : UInt32} {x y : Int32} {ans : MoveAnswers}
    {mapId : UInt32} {destX destY : Int32}
    (h : decideWorldMove cfg a charId sid x y ans = .portalMove zoneId mapId destX destY) :
    zoneId = a.getZoneId := by
  obtain heq | ⟨-, heq⟩ | ⟨_, -, heq⟩ | ⟨_, _, heq⟩ :=
    decideWorldMove_cases cfg a charId sid x y ans <;> rw [heq] at h <;> cases h
  rfl

/-- A move within the zone rejoins it; one across a portal is a transfer. -/
theorem homeOf_handleWorldMove {sid : UInt32} {x y : Int32} {ans : MoveAnswers}
    (hfits : st.MoveFits cfg charId (decideWorldMove cfg (st.players charId) charId sid x y ans)
      ans.assign)
    (h : ∀ c, st.HomeOf cfg c) (c : UInt64) :
    (st.handleWorldMove cfg charId sid x y ans).HomeOf cfg c := by
  unfold handleWorldMove
  dsimp only
  cases hmove : decideWorldMove cfg (st.players charId) charId sid x y ans with
  | ignored => exact h c
  | transfer request =>
      rw [hmove] at hfits
      exact homeOf_beginPortalTransfer hfits h c
  | portalMove zoneId mapId destX destY =>
      rw [hmove] at hfits
      have hzone := zoneId_of_portalMove hmove
      set a' := (st.players charId).setWorldPosition zoneId mapId (st.players charId).mapInstanceId
        destX destY 0 0 with ha'
      have hsame : a'.getZoneId = (st.players charId).getZoneId := hzone
      dsimp only
      rw [if_pos hsame]
      exact homeOf_moveInZone (.rejoin charId a'.getPosition sid ans.serial) hfits rfl hsame
        PlayerActor.isInWorld_of_setWorldPosition h c
  | walk =>
      rw [hmove] at hfits
      set a' := (st.players charId).setWorldPosition (st.players charId).getZoneId
        (st.players charId).getMapId (st.players charId).mapInstanceId x y 0 0 with ha'
      have hsame : a'.getZoneId = (st.players charId).getZoneId := rfl
      dsimp only
      split
      · -- never taken, since the position differs, but nothing would be posted
        by_cases hc : c = charId
        · subst hc
          refine ⟨(h c).unique, fun hin => ?_⟩
          rw [players_setPlayer_self] at hin
          rw [destZone_setPlayer_self]
          exact (h c).home (PlayerActor.isInWorld_of_setWorldPosition hin)
        · exact (sameFor_setPlayer hc).homeOf (h c)
      · exact homeOf_moveInZone (.move charId a'.getPosition sid ans.serial) hfits rfl hsame
          PlayerActor.isInWorld_of_setWorldPosition h c

/-- A position that waited is now the actor's. -/
theorem homeOf_runSetWorldPosition {zoneId : UInt16} {mapTemplateId instanceId : UInt32}
    {x y : Int32}
    (hold : oldest ActorPost.addr (.player charId) st.mail =
      some (.player charId (.setWorldPosition zoneId mapTemplateId instanceId x y)))
    (h : st.HomeOf cfg c) :
    ((st.taken (.player charId)).setPlayer charId
      ((st.players charId).setWorldPosition zoneId.toUInt32 mapTemplateId instanceId x y 0 0)).HomeOf
        cfg c := by
  set a' := (st.players charId).setWorldPosition zoneId.toUInt32 mapTemplateId instanceId x y 0 0
    with ha'
  have hdest : ((st.taken (.player charId)).setPlayer charId a').destZone c = st.destZone c := by
    by_cases hc : c = charId
    · subst hc
      rw [destZone_setPlayer_self]
      exact foldl_destination_taken hold (st.players c).getZoneId
    · rw [destZone_setPlayer_of_ne hc, destZone_taken_of_ne hc]
  have hworld : (((st.taken (.player charId)).setPlayer charId a').players c).isInWorld = true →
      (st.players c).isInWorld = true := by
    intro hin
    by_cases hc : c = charId
    · subst hc
      rw [players_setPlayer_self] at hin
      exact PlayerActor.isInWorld_of_setWorldPosition hin
    · rwa [players_setPlayer_of_ne hc] at hin
  have hsame : SameFor cfg st ((st.taken (.player charId)).setPlayer charId a') c :=
    ⟨fun _ => (willHold_setPlayer charId a').trans (willHold_taken_player charId), hdest, hworld⟩
  exact hsame.homeOf h

/-! ## Steps and runs -/

/-- The condition of a move does not read the task that is taken. -/
theorem moveFits_taken {outcome : MoveOutcome} {assign : PortalAssign}
    (h : st.MoveFits cfg charId outcome assign) :
    (st.taken (.player charId)).MoveFits cfg charId outcome assign := by
  cases outcome with
  | ignored => trivial
  | transfer request =>
      cases assign with
      | refused => trivial
      | pending requestId => trivial
      | ok zoneId bound =>
          cases bound with
          | false => trivial
          | true => exact (heldOnlyBy_taken charId).mpr h
  | portalMove zoneId mapId destX destY => exact (heldOnlyBy_taken charId).mpr h
  | walk => exact (heldOnlyBy_taken charId).mpr h

/-- Nor does that of any task that places nobody. -/
theorem taskFits_taken {p : ActorPost} {ans : MoveAnswers} {task : PlayerTask}
    (hold : oldest ActorPost.addr (.player charId) st.mail = some p)
    (hp : ∀ d, p.destination d = d) (h : st.TaskFits cfg charId ans task) :
    (st.taken (.player charId)).TaskFits cfg charId ans task := by
  cases task with
  | enter coreState sid serial zoneId mapTemplateId instanceId =>
      have hfold := foldl_destination_taken hold zoneId.toUInt32
      rw [hp] at hfold
      exact ⟨(heldOnlyBy_taken charId).mpr h.1, hfold.trans h.2⟩
  | setWorldPosition zoneId mapTemplateId instanceId x y => trivial
  | cleanup sid serial => trivial
  | leaveWorld ctx =>
      intro hin hzero hdest
      rw [destZone_taken hold hp] at hdest
      exact h hin hzero hdest
  | move sid x y => exact moveFits_taken h

/-- Running a zone's oldest task is what was expected of it. -/
theorem settledZone_runZoneTask {task : ZoneTask}
    (hold : oldest ActorPost.addr (.zone zoneId) st.mail = some (.zone zoneId task)) :
    ((st.taken (.zone zoneId)).runZoneTask cfg zoneId task).settledZone cfg z =
      st.settledZone cfg z := by
  unfold settledZone runZoneTask getOrCreateZoneActor
  by_cases hz : z = zoneId
  · subst hz
    rw [inbox_eq_cons hold, AList.lookup_insert]
    rfl
  · have hinbox : inbox ActorPost.addr (.zone z) (st.taken (.zone zoneId)).mail =
        inbox ActorPost.addr (.zone z) st.mail :=
      inbox_withoutOldest_of_ne fun hc => hz (ActorAddr.zone.inj hc)
    dsimp only
    rw [hinbox, AList.lookup_insert_ne hz]
    rfl

/-- A join or leave that runs moves from the mailbox into the zone. -/
theorem homeOf_runZoneTask {task : ZoneTask}
    (hold : oldest ActorPost.addr (.zone zoneId) st.mail = some (.zone zoneId task))
    (h : st.HomeOf cfg c) : ((st.taken (.zone zoneId)).runZoneTask cfg zoneId task).HomeOf cfg c := by
  have hinbox : inbox ActorPost.addr (.player c) (st.taken (.zone zoneId)).mail =
      inbox ActorPost.addr (.player c) st.mail := inbox_withoutOldest_of_ne nofun
  have hsame : SameFor cfg st ((st.taken (.zone zoneId)).runZoneTask cfg zoneId task) c := by
    refine ⟨fun z => ?_, ?_, fun hin => hin⟩
    · unfold WillHold
      rw [settledZone_runZoneTask hold]
    · exact congrArg (fun l => l.foldl ActorPost.destination (st.players c).getZoneId) hinbox
  exact hsame.homeOf h

/-- One case for each task of a player actor. -/
theorem homeOf_runPlayerTask {task : PlayerTask} {ans : MoveAnswers}
    (hold : oldest ActorPost.addr (.player charId) st.mail = some (.player charId task))
    (hfits : st.TaskFits cfg charId ans task) (h : ∀ c, st.HomeOf cfg c) (c : UInt64) :
    ((st.taken (.player charId)).runPlayerTask cfg charId task ans).HomeOf cfg c := by
  have hrest (hp : ∀ d, (ActorPost.player charId task).destination d = d) :
      (∀ c, (st.taken (.player charId)).HomeOf cfg c) ∧
        (st.taken (.player charId)).TaskFits cfg charId ans task :=
    ⟨fun c => homeOf_taken hold hp (h c), taskFits_taken hold hp hfits⟩
  cases task with
  | enter coreState sid serial zoneId mapTemplateId instanceId =>
      obtain ⟨hhome, hfits'⟩ := hrest fun _ => rfl
      exact homeOf_runEnter hfits' hhome c
  | setWorldPosition zoneId mapTemplateId instanceId x y =>
      exact homeOf_runSetWorldPosition hold (h c)
  | cleanup sid serial =>
      obtain ⟨hhome, _⟩ := hrest fun _ => rfl
      exact homeOf_beginLeaveWorld _ (hhome c)
  | leaveWorld ctx =>
      obtain ⟨hhome, hfits'⟩ := hrest fun _ => rfl
      exact homeOf_runLeaveWorld hfits' hhome c
  | move sid x y =>
      obtain ⟨hhome, hfits'⟩ := hrest fun _ => rfl
      exact homeOf_handleWorldMove hfits' hhome c

/-- The oldest task of an actor, of either kind. -/
theorem homeOf_runOldest {actor : ActorAddr} {ans : MoveAnswers}
    (hfits : st.Fits cfg (.run actor ans)) (h : ∀ c, st.HomeOf cfg c) (c : UInt64) :
    (st.runOldest cfg actor ans).HomeOf cfg c := by
  unfold runOldest
  cases hold : oldest ActorPost.addr actor st.mail with
  | none => exact h c
  | some p =>
      obtain rfl := addr_of_oldest hold
      cases p with
      | player charId task =>
          have hfits' : st.TaskFits cfg charId ans task := hfits _ hold
          exact homeOf_runPlayerTask hold hfits' h c
      | zone zoneId task => exact homeOf_runZoneTask hold (h c)

/-- **Step**: a step that fits keeps every character at home. -/
theorem homeOf_step (e : ActorEvent) (hfits : st.Fits cfg e) (h : ∀ c, st.HomeOf cfg c)
    (c : UInt64) : (st.step cfg e).HomeOf cfg c := by
  cases e with
  | enterCompleted charId coreState sid serial zoneId mapTemplateId instanceId =>
      exact (sameFor_post_player (Or.inr fun _ => rfl)).homeOf (h c)
  | movePacket charId sid x y => exact (sameFor_post_player (Or.inr fun _ => rfl)).homeOf (h c)
  | transferAnswered requestId zoneId mapTemplateId instanceId bound =>
      unfold step onZoneMapAssignResponse
      dsimp only
      cases hfind : st.pendingPortalTransfer.find? (·.assignRequestId == requestId) with
      | none => exact h c
      | some pending =>
          have hpending : st.TransferFits cfg pending zoneId bound := hfits pending hfind
          refine homeOf_completePortalTransfer ?_ (fun c => homeOf_of_parked (h c)) c
          cases bound with
          | false => trivial
          | true => exact hpending
  | transferFailed requestId => exact homeOf_of_parked (h c)
  | sessionClosed charId sid serial =>
      unfold step cleanupClosedWorldSessionActors
      dsimp only
      split
      · exact h c
      · exact (sameFor_post_player (Or.inr fun _ => rfl)).homeOf (h c)
  | leaveBegun ctx => exact homeOf_beginLeaveWorld ctx (h c)
  | run actor ans => exact homeOf_runOldest hfits h c

/-- With no task outstanding, where a character will be is where it is. -/
theorem oneZone_of_homeOf (h : ∀ c, st.HomeOf cfg c) : st.OneZone cfg := by
  intro hmail c
  have hzone : ∀ z, st.WillHold cfg z c ↔ st.InZone cfg z c := by
    intro z
    unfold WillHold settledZone
    rw [hmail]
    rfl
  have hdest : st.destZone c = (st.players c).getZoneId := by
    unfold destZone
    rw [hmail]
    rfl
  refine ⟨fun z z' hz hz' => (h c).unique z z' ((hzone z).mpr hz) ((hzone z').mpr hz'), fun hin => ?_⟩
  rw [← hzone, ← hdest]
  exact (h c).home hin

theorem homeOf_init (cfg : ActorConfig) (c : UInt64) : HomeOf cfg {} c where
  unique z z' hz := by
    have hnone : ¬WillHold cfg {} z c := Bool.false_ne_true
    exact absurd hz hnone
  home hin := by cases hin

/-- **One zone for each character**: in every run whose steps fit, a
character is in one zone at most whenever no task is outstanding, and in the
world in the zone of its player actor. -/
theorem oneZone_of_along (cfg : ActorConfig) (es : List ActorEvent)
    (h : Along (step cfg) (Fits cfg) {} es) : Always (step cfg) (OneZone cfg) {} es := by
  have hhome : Always (step cfg) (fun st => ∀ c, st.HomeOf cfg c) {} es :=
    always_of_along (homeOf_init cfg) (fun st e hst hfits => homeOf_step e hfits hst) h
  exact hhome.imp fun st hst => oneZone_of_homeOf hst

/-- Two portals: at 20 to map 1002, at 30 to map 1003. -/
def portalHall : ActorConfig :=
  { findTriggeredPortal := fun _ _ x _ =>
      if x = 20 then some { destMapId := 1002, destX := 5, destY := 5 }
      else if x = 30 then some { destMapId := 1003, destX := 5, destY := 5 }
      else none }

/-- Character 7 enters zone 1. -/
def entersZoneOne : List ActorEvent :=
  [.enterCompleted 7 (makeDefaultCharacterCoreState 1 7) 1 1 1 1001 0,
    .run (.player 7) {}, .run (.zone 1) {}]

/-- The tasks of a transfer from one zone to another. -/
def transferRuns (source target : UInt32) : List ActorEvent :=
  [.run (.player 7) {}, .run (.zone source) {}, .run (.zone target) {}]

/-- Character 7 walks to a portal whose map has to be assigned, waits there,
and leaves the world from the zone it came to. -/
def oneTransfer : List ActorEvent :=
  entersZoneOne ++
    [.movePacket 7 1 10 10, .run (.player 7) {}, .run (.zone 1) {},
      .movePacket 7 1 20 10, .run (.player 7) { assign := .pending 5 },
      .transferAnswered 5 2 1002 0 true] ++
    transferRuns 1 2 ++
    [.sessionClosed 7 1 1, .run (.player 7) {}, .run (.player 7) {}, .run (.zone 2) {}]

theorem oneZone_oneTransfer :
    Along (step portalHall) (Fits portalHall) {} oneTransfer ∧
      Always (step portalHall) (OneZone portalHall) {} oneTransfer := by
  have h : Along (step portalHall) (Fits portalHall) {} oneTransfer := by decide
  exact ⟨h, oneZone_of_along portalHall oneTransfer h⟩

/-- While the map of the first portal is being assigned, character 7 takes the
second one, whose map is in zone 3; then the first map is assigned to zone
2. -/
def twoTransfers : List ActorEvent :=
  entersZoneOne ++
    [.movePacket 7 1 20 10, .run (.player 7) { assign := .pending 5 },
      .movePacket 7 1 30 10, .run (.player 7) { assign := .ok 3 true }] ++
    transferRuns 1 3 ++ [.transferAnswered 5 2 1002 0 true] ++ transferRuns 1 2

/-- The first transfer takes the character out of zone 1, where it no longer
is, and leaves it in zone 3. -/
theorem not_oneZone_twoTransfers :
    ¬Always (step portalHall) (OneZone portalHall) {} twoTransfers := by
  intro h
  have hend := always_iff_forall_part.mp h twoTransfers List.prefix_rfl
  have hmail : (run (step portalHall) {} twoTransfers).mail = [] := by decide
  have htwo : (run (step portalHall) {} twoTransfers).InZone portalHall 2 7 := by decide
  have hthree : (run (step portalHall) {} twoTransfers).InZone portalHall 3 7 := by decide
  have heq := (hend hmail 7).1 2 3 htwo hthree
  exact absurd heq (by decide)

end WorldActors

end GameServer
