import GameServer.World.PositionFits

/-!
# GameServer.World.SettledPositions

A step that fits keeps every character settled: a lemma for each step, and
for each task of an actor.
-/

namespace GameServer

/-! ## Steps -/

namespace PositionLink

open Mailbox WorldActors

variable {cfg : PositionConfig} {l l' : PositionLink} {c : UInt64}

/-- Nothing is new about a character but what the zone may still do. -/
structure SameFor (cfg : PositionConfig) (l l' : PositionLink) (c : UInt64) : Prop where
  followed : l'.Followed c → l.Followed c
  dest : l'.actors.destPlace c = l.actors.destPlace c
  snapshots : ∀ pos, pos ∈ l'.actors.snapshots c ↔ pos ∈ l.actors.snapshots c
  bindings : ∀ o ∈ l'.bindings cfg c, o ∈ l.bindings cfg c

/-- `BoundAt` depends on which positions wait, not on their order or number. -/
theorem BoundAt.congr {snapshots snapshots' : List Vec2i} {p : Place} {b : PlayerBindingState}
    (h : BoundAt snapshots p b) (hsame : ∀ pos, pos ∈ snapshots' ↔ pos ∈ snapshots) :
    BoundAt snapshots' p b where
  mapTemplateId := h.mapTemplateId
  instanceId := h.instanceId
  told pos hpos := h.told pos ((hsame pos).mp hpos)
  position hnil := h.position (List.eq_nil_iff_forall_not_mem.mpr fun pos hpos => by
    have hpos' := (hsame pos).mpr hpos
    rw [hnil] at hpos'
    cases hpos')

/-- The place of a position that the zone is told, as of all it was told
before. -/
theorem BoundAt.of_told {snapshots snapshots' : List Vec2i} {p : Place} {b : PlayerBindingState}
    (hmap : b.mapTemplateId = p.mapTemplateId) (hinstance : b.instanceId = p.instanceId)
    (htold : ∀ pos ∈ snapshots, pos = p.pos)
    (hsnapshots : ∀ pos, pos ∈ snapshots' ↔ pos ∈ snapshots ∨ pos = p.pos) :
    BoundAt snapshots' p b where
  mapTemplateId := hmap
  instanceId := hinstance
  told pos hpos := ((hsnapshots pos).mp hpos).elim (htold pos) id
  position hnil := by
    have hmem := (hsnapshots _).mpr (.inr rfl)
    rw [hnil] at hmem
    cases hmem

theorem SameFor.settlesAt (h : SameFor cfg l l' c) {p : Place} (hp : l.SettlesAt cfg c p) :
    l'.SettlesAt cfg c p :=
  fun o ho b hb => (hp o (h.bindings o ho) b hb).congr h.snapshots

/-- The invariant for one character. -/
def Settled (cfg : PositionConfig) (l : PositionLink) (c : UInt64) : Prop :=
  l.Followed c → l.SettlesAt cfg c (l.actors.destPlace c)

theorem SameFor.settled (h : SameFor cfg l l' c) (hc : l.Settled cfg c) : l'.Settled cfg c := by
  intro hfollowed
  rw [h.dest]
  exact h.settlesAt (hc (h.followed hfollowed))

/-- A character that is followed after a step with nothing new about it was followed
before. -/
theorem followed_of_later {st : WorldActors} {ms : List ZoneRequest} (h : Later l.actors st c)
    (hf : ({ l with actors := st, toZone := l.toZone ++ ms } : PositionLink).Followed c) :
    l.Followed c where
  inWorld := h.inWorld hf.inWorld
  entering := by
    have henter := hf.entering
    unfold PositionLink.entering at henter ⊢
    rw [Bool.or_eq_false_iff] at henter ⊢
    exact ⟨henter.1,
      Bool.eq_false_iff.mpr fun hany => Bool.eq_false_iff.mp henter.2 (h.enters hany)⟩
  leaving := Bool.eq_false_iff.mpr fun hany => Bool.eq_false_iff.mp hf.leaving (h.leaves hany)

/-- Requests about others leave what may become of the binding. -/
theorem mem_bindings_of_others (l : PositionLink) {ms : List ZoneRequest}
    {o : Option PlayerBindingState} (ho : o ∈ l'.bindings cfg c) (hzone : l'.zone = l.zone)
    (hsent : l'.toZone = l.toZone ++ ms) (h : ∀ m ∈ ms, charId? m ≠ some c) :
    o ∈ l.bindings cfg c := by
  obtain ⟨o', ho', ho⟩ := mem_bindings_send l ho hzone hsent
  rw [outcomes_of_others h, List.mem_singleton] at ho
  rwa [ho]

/-- A step of the world that is about others. -/
theorem sameFor_of_sameAt {st : WorldActors} (ms : List ZoneRequest) (h : SameAt l.actors st c)
    (hms : ∀ m ∈ ms, charId? m ≠ some c) :
    SameFor cfg l { l with actors := st, toZone := l.toZone ++ ms } c where
  followed := followed_of_later h.toLater
  dest := h.dest
  snapshots := h.snapshots
  bindings _ ho := mem_bindings_of_others l ho rfl rfl hms

/-- A step of the world that sends nothing. -/
theorem sameFor_of_actors {st : WorldActors} (h : SameAt l.actors st c) :
    SameFor cfg l { l with actors := st } c := by
  have hsame : SameFor cfg l { l with actors := st, toZone := l.toZone ++ [] } c :=
    sameFor_of_sameAt [] h nofun
  rwa [List.append_nil] at hsame

/-! ### Enters that are dropped -/

/-- A character is followed once an enter is dropped: it was before, or the
enter was its own. -/
theorem settlesAt_of_dropEnter {requestId : UInt64}
    (hfits : ∀ r ∈ l.enters, r.requestId = requestId → r.enterPending.charId = c →
      l.SettlesAt cfg c (l.actors.destPlace c))
    (hc : l.Settled cfg c) (hfollowed : (l.dropEnter requestId).Followed c) :
    l.SettlesAt cfg c (l.actors.destPlace c) := by
  have henter := hfollowed.entering
  unfold entering at henter
  rw [Bool.or_eq_false_iff] at henter
  cases hany : l.enters.any (·.enterPending.charId == c) with
  | false =>
      refine hc ⟨hfollowed.inWorld, ?_, hfollowed.leaving⟩
      rw [entering, hany]
      exact henter.2
  | true =>
      obtain ⟨r, hr, hcharId⟩ := List.any_eq_true.mp hany
      obtain rfl : r.enterPending.charId = c := by simpa using hcharId
      by_cases hid : r.requestId = requestId
      · exact hfits r hr hid rfl
      · have hkept : r ∈ (l.dropEnter requestId).enters :=
          List.mem_filter.mpr ⟨hr, decide_eq_true hid⟩
        have hnone := List.any_eq_false.mp henter.1 r hkept
        exact absurd hcharId hnone

/-- An enter that goes out replaces a record only under the id it draws. -/
theorem settled_enterSent (enter : PendingZonePlayerEnterRequest)
    (hfits : l.DropFits cfg l.nextZonePlayerEnterRequestId) (hc : l.Settled cfg c) :
    (l.step cfg (.enterSent enter)).Settled cfg c := by
  intro hfollowed
  set enter' := { enter with requestId := l.nextZonePlayerEnterRequestId } with henter'
  have hentering := hfollowed.entering
  unfold entering at hentering
  rw [Bool.or_eq_false_iff] at hentering
  have hnone := List.any_eq_false.mp hentering.1
  have hne : enter'.enterPending.charId ≠ c := by
    have hself := hnone enter' (List.mem_append_right _ (List.mem_singleton_self _))
    simpa using hself
  -- What is dropped is the record that had the id before.
  have hdropped : (l.dropEnter l.nextZonePlayerEnterRequestId).Followed c := by
    refine ⟨hfollowed.inWorld, ?_, hfollowed.leaving⟩
    unfold entering
    rw [Bool.or_eq_false_iff]
    refine ⟨List.any_eq_false.mpr fun r hr => hnone r ?_, hentering.2⟩
    exact List.mem_append_left _ hr
  have hsettles := settlesAt_of_dropEnter
    (fun r hr hid hcharId => by
      subst hcharId
      exact hfits r hr hid hdropped) hc hdropped
  have hothers : ∀ m ∈ [ZoneLink.enterRequest enter'], charId? m ≠ some c := by
    intro m hm
    rw [List.mem_singleton.mp hm]
    exact fun heq => hne (Option.some.inj heq)
  intro o ho b hb
  exact hsettles o (mem_bindings_of_others l ho rfl rfl hothers) b hb

/-! ### The zone -/

/-- What the zone handles was already counted among what waits for it. -/
theorem settled_zone (now : Nat) (hc : l.Settled cfg c) :
    (l.step cfg (.zone now)).Settled cfg c := by
  unfold step
  dsimp only
  split
  · exact hc
  next request rest hrequests =>
    refine SameFor.settled (l := l) ⟨fun hf => ⟨hf.inWorld, hf.entering, hf.leaving⟩, rfl,
      fun _ => Iff.rfl, fun o ho => ?_⟩ hc
    unfold bindings
    rw [hrequests, outcomes]
    exact List.mem_flatMap.mpr ⟨_, lookup_handle_mem cfg.zone l.zone now c request, ho⟩

/-- The reaper removes instances that hold no player. -/
theorem settled_reap (now : Nat) (hc : l.Settled cfg c) :
    (l.step cfg (.reap now)).Settled cfg c := by
  refine SameFor.settled (l := l) ⟨fun hf => ⟨hf.inWorld, hf.entering, hf.leaving⟩, rfl,
    fun _ => Iff.rfl, fun o ho => ?_⟩ hc
  unfold step bindings at ho
  dsimp only at ho
  rw [ZoneRuntime.playerBindings_reapEmptyDungeonInstances] at ho
  exact ho

/-! ### Transfers -/

/-- What a transfer leaves of a binding. -/
theorem mem_outcomes_transferRequests {pending : PendingPortalTransfer} {zoneId : UInt16}
    {mapTemplateId instanceId : UInt32} {o o' : Option PlayerBindingState}
    (h : o' ∈ outcomes cfg.zone pending.charId
      (transferRequests pending zoneId mapTemplateId instanceId) o) :
    ∀ b ∈ o', b.mapTemplateId = mapTemplateId ∧ b.instanceId = instanceId := by
  simp only [transferRequests, outcomes, effects, if_true, List.flatMap_cons, List.flatMap_nil,
    List.append_nil, Option.any_none, Bool.false_eq_true, if_false, List.mem_append,
    List.mem_singleton] at h
  rintro b hb
  rcases h with rfl | rfl
  · cases hb
  · cases hb
    exact ⟨rfl, rfl⟩

/-- A transfer that completes puts its target among the snapshots and makes it the
destination. -/
theorem completePortalTransfer_true (st : WorldActors) (pending : PendingPortalTransfer)
    (zoneId : UInt16) (mapTemplateId instanceId : UInt32) :
    Later st (st.completePortalTransfer pending zoneId mapTemplateId instanceId true)
        pending.charId ∧
      (st.completePortalTransfer pending zoneId mapTemplateId instanceId true).destPlace
          pending.charId = ⟨mapTemplateId, instanceId, ⟨pending.targetX, pending.targetY⟩⟩ ∧
      ∀ pos, pos ∈ (st.completePortalTransfer pending zoneId mapTemplateId instanceId
            true).snapshots pending.charId ↔
          pos ∈ st.snapshots pending.charId ∨ pos = ⟨pending.targetX, pending.targetY⟩ := by
  unfold WorldActors.completePortalTransfer
  rw [if_neg nofun]
  refine ⟨((later_post ..).trans (later_post ..)).trans (later_post ..), ?_, fun pos => ?_⟩
  · rw [destPlace_post_zone, destPlace_post_zone, destPlace_post_player]
    rfl
  · rw [mem_snapshots_post, mem_snapshots_post, mem_snapshots_post]
    simp [ActorPost.snapshot, eq_comm]

/-- It settles its own character if no snapshot with another position waits. -/
theorem settled_completePortalTransfer (pending : PendingPortalTransfer) (zoneId : UInt16)
    (mapTemplateId instanceId : UInt32) {bound : Bool}
    (hfits : bound = true → l.TransferFits pending.charId ⟨pending.targetX, pending.targetY⟩)
    (hc : l.Settled cfg c) :
    (l.completePortalTransfer pending zoneId mapTemplateId instanceId bound).Settled cfg c := by
  unfold completePortalTransfer
  cases bound with
  | false => exact (sameFor_of_sameAt [] (SameAt.refl l.actors c) nofun).settled hc
  | true =>
  rw [if_pos rfl]
  by_cases hcharId : c = pending.charId
  · subst hcharId
    obtain ⟨hlater, hdest, hsnapshots⟩ :=
      completePortalTransfer_true l.actors pending zoneId mapTemplateId instanceId
    intro hfollowed
    have htold := hfits rfl (followed_of_later hlater hfollowed)
    intro o ho b hb
    obtain ⟨o', -, ho⟩ := mem_bindings_send l ho rfl rfl
    obtain ⟨hmap, hinstance⟩ := mem_outcomes_transferRequests ho b hb
    dsimp only
    rw [hdest]
    exact .of_told hmap hinstance htold hsnapshots
  · refine (sameFor_of_sameAt _ (sameAt_completePortalTransfer zoneId mapTemplateId instanceId true
      hcharId) fun m hm heq => hcharId ?_).settled hc
    simp only [transferRequests, List.mem_cons, List.not_mem_nil, or_false] at hm
    rcases hm with rfl | rfl <;> exact (Option.some.inj heq).symm

/-! ### Answers -/

/-- A map answer completes one transfer, or none. -/
theorem settled_onZoneMapAssignResponse {res : ZoneWorldMapAssignResponse} {checks : AnswerChecks}
    (hfits : l.AnswerFits cfg checks (.mapAssign res)) (hc : l.Settled cfg c) :
    (l.onZoneMapAssignResponse res checks.bound).Settled cfg c := by
  unfold onZoneMapAssignResponse
  dsimp only
  split
  · exact hc
  next pending hfind =>
    have hparked : Settled cfg { l with
        actors := l.actors.failPendingPortalTransfer res.requestId } c :=
      (sameFor_of_actors (sameAt_parked _)).settled hc
    split
    next hok =>
      refine settled_completePortalTransfer pending _ _ _ (fun hbound hf => ?_) hparked
      exact hfits hok hbound pending hfind ⟨hf.inWorld, hf.entering, hf.leaving⟩
    next => exact hparked

/-- An enter is no longer waited for, and its character has not been taken to
another place or is not followed. -/
theorem settled_answered {requestId : UInt64} {st : WorldActors} (hsame : SameAt l.actors st c)
    (hfits : ({ l.dropEnter requestId with actors := st } : PositionLink).Followed c →
      (l.dropEnter requestId).Followed c →
        ∀ r ∈ l.enters, r.requestId = requestId → r.enterPending.charId = c →
          l.SettlesAt cfg c (l.actors.destPlace c)) (hc : l.Settled cfg c) :
    ({ l.dropEnter requestId with actors := st } : PositionLink).Settled cfg c := by
  intro hfollowed
  have hbefore :
      SameFor cfg (l.dropEnter requestId) { l.dropEnter requestId with actors := st } c :=
    sameFor_of_actors hsame
  have hdropped := hbefore.followed hfollowed
  have hsettles := settlesAt_of_dropEnter (hfits hfollowed hdropped) hc hdropped
  rw [hbefore.dest]
  exact hbefore.settlesAt hsettles

/-- The condition on a dropped enter, for the character it was for. -/
theorem DropFits.settlesAt {requestId : UInt64} (h : l.DropFits cfg requestId)
    (hfollowed : (l.dropEnter requestId).Followed c) :
    ∀ r ∈ l.enters, r.requestId = requestId → r.enterPending.charId = c →
      l.SettlesAt cfg c (l.actors.destPlace c) := by
  intro r hr hid hcharId
  subst hcharId
  exact h r hr hid hfollowed

/-- Whose session is rolled back leaves. -/
theorem not_followed_cleanup {charId : UInt64} (hzero : charId ≠ 0) (sid serial : UInt32) :
    ¬Followed { l with
      actors := l.actors.cleanupClosedWorldSessionActors charId sid serial } charId := by
  intro hf
  have hleave := hf.leaving
  dsimp only [leaving] at hleave
  rw [WorldActors.cleanupClosedWorldSessionActors, if_neg hzero, any_post,
    Bool.or_eq_false_iff] at hleave
  have hposted := hleave.2
  simp [ActorPost.isLeave, hzero] at hposted

/-- Whose enter was accepted is about to enter. -/
theorem not_followed_completeEnter {charId : UInt64} (coreState : CharacterCoreState)
    (sid serial : UInt32) (zoneId : UInt16) (mapTemplateId instanceId : UInt32) :
    ¬Followed { l with
      actors := l.actors.completeEnterWorldSuccessAfterZoneAck charId coreState sid serial zoneId
        mapTemplateId instanceId } charId := by
  intro hf
  have henter := hf.entering
  unfold entering at henter
  rw [Bool.or_eq_false_iff] at henter
  have hposted := henter.2
  dsimp only [WorldActors.completeEnterWorldSuccessAfterZoneAck] at hposted
  rw [any_post, Bool.or_eq_false_iff] at hposted
  simpa [ActorPost.isEnter] using hposted.2

/-- An acknowledgement announces its enter to the actor; a refused one drops it. -/
theorem settled_onZonePlayerEnterAck {ack : ZoneWorldPlayerEnterAck} {checks : AnswerChecks}
    (hkeyed : (l.enters.map (·.requestId)).Nodup)
    (hfits : l.AnswerFits cfg checks (.playerEnter ack)) (hc : l.Settled cfg c) :
    (l.onZonePlayerEnterAck ack checks).Settled cfg c := by
  unfold onZonePlayerEnterAck
  dsimp only
  split
  · exact hc
  next enter hfind =>
    have hdrop := hfits enter hfind
    have hsole : ∀ r ∈ l.enters, r.requestId = ack.requestId → r = enter := by
      intro r hr hid
      have hfind' := find?_eq_some_of_mem hkeyed hr
      rw [hid, hfind] at hfind'
      exact (Option.some.inj hfind').symm
    have hdropped (hnot : concludes enter ack checks = false) :
        (l.dropEnter ack.requestId).Settled cfg c :=
      settled_answered (SameAt.refl _ _)
        (fun _ hf => (hdrop.resolve_left (Bool.eq_false_iff.mp hnot)).settlesAt hf) hc
    cases hpending : checks.pending with
    | false =>
        rw [if_pos rfl]
        exact hdropped (by rw [concludes, hpending, Bool.false_and])
    | true =>
    rw [if_neg nofun]
    split
    next hrefused =>
      -- The character leaves, or its enter is dropped.
      refine settled_answered (sameAt_cleanupClosedWorldSessionActors ..)
        (fun hf hf' r hr hid hcharId => ?_) hc
      refine hdrop.elim (fun hconcludes => ?_) fun hfits' => hfits'.settlesAt hf' r hr hid hcharId
      obtain rfl := hsole r hr hid
      have hmatch : (matchesAck r ack && ack.resultCode == .ok) = false := by
        rcases hrefused with hno | hno <;> simp [hno]
      rw [concludes, hpending, hmatch, Bool.true_and, if_neg nofun, Bool.and_eq_true, bne_iff_ne,
        beq_iff_eq] at hconcludes
      rw [hconcludes.2, hcharId] at hf
      exact absurd hf (not_followed_cleanup (l := l.dropEnter ack.requestId)
        (hcharId ▸ hconcludes.1) _ _)
    next haccepted =>
    rw [not_or, not_not] at haccepted
    have hmatch : (matchesAck enter ack && ack.resultCode == .ok) = true := by
      simp [Bool.not_eq_false _ |>.mp haccepted.1, haccepted.2]
    cases hpromoted : checks.promoted with
    | false =>
        rw [if_pos rfl]
        exact hdropped (by rw [concludes, hpending, hmatch, hpromoted]; rfl)
    | true =>
        rw [if_neg nofun]
        -- The enter waits in the mail of its actor now.
        refine settled_answered (sameAt_post (.inr fun _ => rfl) rfl)
          (fun hf _ r hr hid hcharId => ?_) hc
        obtain rfl := hsole r hr hid
        rw [hcharId] at hf
        exact absurd hf (not_followed_completeEnter (l := l.dropEnter ack.requestId) _ _ _ _ _ _)

/-- One message of the zone: an answer to an assign or an enter request. -/
theorem settled_receive {checks : AnswerChecks} (hkeyed : (l.enters.map (·.requestId)).Nodup)
    (hfits : l.Fits cfg (.receive checks)) (hc : l.Settled cfg c) :
    (l.step cfg (.receive checks)).Settled cfg c := by
  unfold step
  dsimp only
  split
  · exact hc
  next answer rest hanswers =>
    have hanswer := hfits answer (by rw [hanswers]; rfl)
    rw [hanswers, List.tail_cons] at hanswer
    cases answer with
    | mapAssign res =>
        exact settled_onZoneMapAssignResponse (l := { l with toWorld := rest }) hanswer
          fun hf => hc ⟨hf.inWorld, hf.entering, hf.leaving⟩
    | playerEnter ack =>
        exact settled_onZonePlayerEnterAck (l := { l with toWorld := rest }) hkeyed hanswer
          fun hf => hc ⟨hf.inWorld, hf.entering, hf.leaving⟩

/-! ### Tasks -/

theorem place_setWorldPosition (a : PlayerActor) (zoneId mapId mapInstanceId : UInt32)
    (x y z : Int32) (heading : Int16) :
    (a.setWorldPosition zoneId mapId mapInstanceId x y z heading).place =
      ⟨mapId, mapInstanceId, ⟨x, y⟩⟩ := rfl

theorem place_applyCharacterCoreState (a : PlayerActor)
    (recompute : CharacterCoreState → CharacterCombatRuntimeStats) (coreState : CharacterCoreState)
    (sid serial : UInt32) (assignedZoneId : UInt16) (mapTemplateId instanceId : UInt32) :
    (a.applyCharacterCoreState recompute coreState sid serial assignedZoneId mapTemplateId
        instanceId).place =
      ⟨mapTemplateId, instanceId, ⟨coreState.hot.position.x, coreState.hot.position.y⟩⟩ := rfl

/-- Only the last of the places that wait matters. -/
theorem foldl_placeAfter_of_any {mail : List ActorPost} (h : mail.any ActorPost.isPlacing = true)
    (d d' : Place) : mail.foldl ActorPost.placeAfter d = mail.foldl ActorPost.placeAfter d' := by
  induction mail generalizing d d' with
  | nil => cases h
  | cons p mail ih =>
      rw [List.any_cons, Bool.or_eq_true] at h
      rcases h with hp | hrest
      · have hsame : p.placeAfter d = p.placeAfter d' := by
          cases p with
          | player charId task => cases task <;> first | rfl | cases hp
          | zone zoneId task => cases hp
        rw [List.foldl_cons, List.foldl_cons, hsame]
      · exact ih hrest _ _

/-- Tasks that place nobody leave the destination alone: induction on the mailbox. -/
theorem foldl_placeAfter_of_not_any {mail : List ActorPost}
    (h : mail.any ActorPost.isPlacing = false) (d : Place) :
    mail.foldl ActorPost.placeAfter d = d := by
  induction mail with
  | nil => rfl
  | cons p mail ih =>
      rw [List.any_cons, Bool.or_eq_false_iff] at h
      have hp : p.placeAfter d = d := by
        cases p with
        | player charId task => cases task <;> first | rfl | cases h.1
        | zone zoneId task => rfl
      rw [List.foldl_cons, hp]
      exact ih h.2

theorem placeAfter_player (st : WorldActors) {charId : UInt64} {a : PlayerActor} :
    (st.setPlayer charId a).destPlace charId =
      (inbox ActorPost.addr (.player charId) st.mail).foldl ActorPost.placeAfter a.place := by
  unfold destPlace
  rw [players_setPlayer_self]
  rfl

/-- An enter that runs. -/
theorem settled_runEnter {coreState : CharacterCoreState} {sid serial : UInt32} {zoneId : UInt16}
    {mapTemplateId instanceId : UInt32}
    (hfits : l.EnterFits cfg c
      ⟨mapTemplateId, instanceId, ⟨coreState.hot.position.x, coreState.hot.position.y⟩⟩) :
    Settled cfg { l with
      actors := l.actors.runEnter cfg.actors c coreState sid serial zoneId mapTemplateId
        instanceId } c := by
  intro hfollowed
  set a := (l.actors.players c).applyCharacterCoreState cfg.actors.recompute coreState sid serial
    zoneId mapTemplateId instanceId with ha
  have hposts := later_post (l.actors.setPlayer c a) (.zone a.getZoneId
    (.join c ⟨coreState.hot.position.x, coreState.hot.position.y⟩ sid serial)) c
  have hentering : l.entering c = false := by
    have henter := hfollowed.entering
    unfold entering at henter ⊢
    rw [Bool.or_eq_false_iff] at henter ⊢
    exact ⟨henter.1, Bool.eq_false_iff.mpr fun h => Bool.eq_false_iff.mp henter.2 (hposts.enters h)⟩
  have hleaving : l.leaving c = false :=
    Bool.eq_false_iff.mpr fun h => Bool.eq_false_iff.mp hfollowed.leaving (hposts.leaves h)
  obtain ⟨hmaps, htold, hplaces⟩ := hfits hentering hleaving
  have hdest : (l.actors.runEnter cfg.actors c coreState sid serial zoneId mapTemplateId
      instanceId).destPlace c =
        ⟨mapTemplateId, instanceId, ⟨coreState.hot.position.x, coreState.hot.position.y⟩⟩ := by
    unfold runEnter
    dsimp only
    rw [destPlace_post_zone, placeAfter_player, place_applyCharacterCoreState]
    exact hplaces
  intro o ho b hb
  dsimp only
  rw [hdest]
  have hsnapshots (pos : Vec2i) : pos ∈ (l.actors.runEnter cfg.actors c coreState sid serial zoneId
      mapTemplateId instanceId).snapshots c ↔ pos ∈ l.actors.snapshots c ∨
        pos = ⟨coreState.hot.position.x, coreState.hot.position.y⟩ := by
    unfold runEnter
    dsimp only
    rw [mem_snapshots_post]
    refine or_congr Iff.rfl ?_
    simp [ActorPost.snapshot, eq_comm]
  obtain ⟨hmap, hinstance⟩ := hmaps o ho b hb
  exact .of_told hmap hinstance htold hsnapshots

/-- The player actor is moved to where the zone is told it is, or will be. -/
theorem settled_setPlayer {a : PlayerActor} {ms : List ZoneRequest} {zoneId : UInt32}
    {task : ZoneTask} (hin : a.isInWorld = true → (l.actors.players c).isInWorld = true)
    (htask : (ActorPost.zone zoneId task).snapshot c = none)
    (hsettles : l.Followed c → ∀ o ∈ l.bindings cfg c, ∀ o' ∈ outcomes cfg.zone c ms o,
      ∀ b ∈ o', BoundAt (l.actors.snapshots c)
        ((inbox ActorPost.addr (.player c) l.actors.mail).foldl ActorPost.placeAfter a.place) b) :
    Settled cfg { l with
      actors := (l.actors.setPlayer c a).post (.zone zoneId task)
      toZone := l.toZone ++ ms } c := by
  have hlater : Later l.actors ((l.actors.setPlayer c a).post (.zone zoneId task)) c := by
    have hset : Later l.actors (l.actors.setPlayer c a) c :=
      ⟨fun hin' => hin (by rwa [players_setPlayer_self] at hin'), id, id⟩
    exact hset.trans (later_post ..)
  intro hfollowed o ho b hb
  obtain ⟨o', ho', ho⟩ := mem_bindings_send l ho rfl rfl
  have hbound := hsettles (followed_of_later hlater hfollowed) o' ho' o ho b hb
  dsimp only
  rw [destPlace_post_zone, placeAfter_player]
  refine hbound.congr fun pos => ?_
  rw [mem_snapshots_post, htask]
  exact or_iff_left nofun

/-- A portal that does not change the zone and the map keeps both. -/
theorem mapId_of_portalMove {acfg : ActorConfig} {a : PlayerActor} {sid : UInt32} {x y : Int32}
    {ans : MoveAnswers} {zoneId mapId : UInt32} {destX destY : Int32}
    (h : decideWorldMove acfg a c sid x y ans = .portalMove zoneId mapId destX destY) :
    mapId = a.getMapId := by
  obtain heq | ⟨-, heq⟩ | ⟨_, -, heq⟩ | ⟨_, _, heq⟩ :=
    decideWorldMove_cases acfg a c sid x y ans <;> rw [heq] at h <;> cases h
  rfl

/-- A walk leads to another position than the actor has. -/
theorem pos_ne_of_walk {acfg : ActorConfig} {a : PlayerActor} {sid : UInt32} {x y : Int32}
    {ans : MoveAnswers} (h : decideWorldMove acfg a c sid x y ans = .walk) :
    (⟨x, y⟩ : Vec2i) ≠ a.getPosition := by
  obtain heq | ⟨hne, -⟩ | ⟨_, -, heq⟩ | ⟨_, _, heq⟩ := decideWorldMove_cases acfg a c sid x y ans
  · rw [heq] at h
    cases h
  · exact hne
  · rw [heq] at h
    cases h
  · rw [heq] at h
    cases h

/-- A walk is mirrored, and nothing that waits overwrites it. -/
theorem settled_walk {sid serial : UInt32} {x y : Int32} {zoneId : UInt32}
    (haoi : cfg.enableZoneAoiSnapshot = true) (hfits : l.WalkFits cfg c ⟨x, y⟩)
    (hc : l.Settled cfg c) {a : PlayerActor}
    (ha : a = (l.actors.players c).setWorldPosition zoneId (l.actors.players c).getMapId
      (l.actors.players c).mapInstanceId x y 0 0) :
    Settled cfg { l with
      actors := (l.actors.setPlayer c a).post (.zone a.getZoneId (.move c a.getPosition sid serial))
      toZone := l.toZone ++ mirrorPlayerMoveToZone cfg c sid serial a } c := by
  subst ha
  refine settled_setPlayer PlayerActor.isInWorld_of_setWorldPosition rfl ?_
  intro hfollowed o ho o' ho' b hb
  have hmirror : o' = o.map (ZoneRuntime.movedBinding cfg.zone
      { charId := c, sid, serial, mapTemplateId := (l.actors.players c).getMapId
        instanceId := (l.actors.players c).mapInstanceId, zoneId := zoneId.toUInt16, x, y }) := by
    rw [mirrorPlayerMoveToZone, if_neg fun h => Bool.false_ne_true (h.1.symm.trans haoi)] at ho'
    simp only [outcomes, effects, if_true, List.flatMap_cons, List.flatMap_nil, List.append_nil,
      List.mem_singleton] at ho'
    exact ho'
  rw [hmirror] at hb
  obtain ⟨b', hb', rfl⟩ := Option.mem_map.mp hb
  have hbound := hc hfollowed o ho b' hb'
  rcases hfits hfollowed with hunbound | hwaits
  · rw [hunbound o ho] at hb'
    cases hb'
  rw [place_setWorldPosition]
  unfold destPlace at hbound hwaits
  cases hplacing : l.actors.placing c with
  | true =>
      -- The place that waits is told later.
      rw [hplacing, if_pos rfl] at hwaits
      rw [foldl_placeAfter_of_any hplacing _ (l.actors.players c).place]
      refine ⟨hbound.mapTemplateId, hbound.instanceId, hbound.told, fun hnil _ => ?_⟩
      exact hwaits.resolve_left (absurd hnil)
  | false =>
      rw [hplacing, if_neg Bool.false_ne_true] at hwaits
      rw [foldl_placeAfter_of_not_any hplacing] at hbound ⊢
      refine ⟨hbound.mapTemplateId, hbound.instanceId, fun pos hpos => ?_, fun _ _ => rfl⟩
      rw [hwaits] at hpos
      cases hpos

/-- A portal within the map moves the actor at once and tells the zone when the rejoin
runs. -/
theorem settled_portalMove {sid serial : UInt32} {zoneId zone' : UInt32} {destX destY : Int32}
    (hfits : l.PortalFits cfg c ⟨destX, destY⟩) (hc : l.Settled cfg c) {a : PlayerActor}
    (ha : a = (l.actors.players c).setWorldPosition zoneId (l.actors.players c).getMapId
      (l.actors.players c).mapInstanceId destX destY 0 0) :
    Settled cfg { l with
      actors := (l.actors.setPlayer c a).post (.zone zone' (.rejoin c a.getPosition sid serial))
      toZone := l.toZone ++ [] } c := by
  subst ha
  refine settled_setPlayer PlayerActor.isInWorld_of_setWorldPosition rfl ?_
  intro hfollowed o ho o' ho' b hb
  rw [outcomes, List.mem_singleton] at ho'
  subst ho'
  rw [place_setWorldPosition]
  cases hplacing : l.actors.placing c with
  | true =>
      rw [foldl_placeAfter_of_any hplacing _ (l.actors.players c).place]
      exact hc hfollowed o' ho b hb
  | false =>
      rw [foldl_placeAfter_of_not_any hplacing]
      exact (hfits hfollowed).resolve_left (by simp [hplacing]) o' ho b hb

/-- A move of the character. -/
theorem settled_handleWorldMove (haoi : cfg.enableZoneAoiSnapshot = true) {sid : UInt32}
    {x y : Int32} {ans : MoveAnswers}
    (hfits : l.MoveFits cfg c x y (decideWorldMove cfg.actors (l.actors.players c) c sid x y ans)
      ans.assign) (hc : l.Settled cfg c) :
    Settled cfg { l with
      actors := l.actors.handleWorldMove cfg.actors c sid x y ans
      toZone := l.toZone ++ moveRequests cfg (l.actors.players c) c sid x y ans } c := by
  unfold handleWorldMove moveRequests
  dsimp only
  cases hmove : decideWorldMove cfg.actors (l.actors.players c) c sid x y ans with
  | ignored => exact (sameFor_of_sameAt [] (SameAt.refl l.actors c) nofun).settled hc
  | transfer request =>
      rw [hmove] at hfits
      obtain rfl := charId_of_transfer hmove
      dsimp only
      unfold WorldActors.beginPortalTransfer
      cases hassign : ans.assign with
      | refused => exact (sameFor_of_sameAt [] (SameAt.refl l.actors _) nofun).settled hc
      | pending requestId => exact (sameFor_of_sameAt [] (sameAt_parked _) nofun).settled hc
      | ok assigned bound =>
          rw [hassign] at hfits
          cases bound with
          | false => exact (sameFor_of_sameAt [] (SameAt.refl l.actors _) nofun).settled hc
          | true => exact settled_completePortalTransfer request assigned _ _ (fun _ => hfits) hc
  | portalMove zoneId mapId destX destY =>
      rw [hmove] at hfits
      obtain rfl := zoneId_of_portalMove hmove
      obtain rfl := mapId_of_portalMove hmove
      dsimp only
      have hzone : ((l.actors.players c).setWorldPosition (l.actors.players c).getZoneId
          (l.actors.players c).getMapId (l.actors.players c).mapInstanceId destX destY 0
            0).getZoneId = (l.actors.players c).getZoneId := rfl
      rw [if_pos hzone]
      exact settled_portalMove hfits hc rfl
  | walk =>
      rw [hmove] at hfits
      dsimp only
      have hmoved := pos_ne_of_walk hmove
      rw [if_neg fun h => hmoved h.2.2.2, if_neg fun h => hmoved h.2.2.2]
      exact settled_walk haoi hfits hc rfl

/-- A cleanup posts the leave from where the actor is. -/
theorem settled_runCleanup {sid serial : UInt32} (hfits : l.CleanupFits cfg c)
    (hzero : c = 0 → l.Settled cfg c) :
    Settled cfg { l with actors := l.actors.runCleanup c sid serial } c := by
  have hsame : SameAt l.actors (l.actors.runCleanup c sid serial) c := sameAt_beginLeaveWorld
  have hframe : SameFor cfg l { l with actors := l.actors.runCleanup c sid serial } c :=
    sameFor_of_actors hsame
  by_cases hc : c = 0
  · exact hframe.settled (hzero hc)
  intro hfollowed
  have hzone : ¬(l.actors.players c).getZoneId.toUInt16 ≠ 0 := by
    intro hne
    have hleave := hfollowed.leaving
    unfold leaving at hleave
    unfold runCleanup WorldActors.beginLeaveWorld at hleave
    dsimp only at hleave
    rw [if_neg hc, any_post, Bool.or_eq_false_iff] at hleave
    simp [ActorPost.isLeave, hne] at hleave
  rw [hframe.dest]
  exact hframe.settlesAt ((hfits (hframe.followed hfollowed)).resolve_left hzone)

/-- A leave takes the character out of the zone, or changes nothing for one
that stays in the world. -/
theorem settled_runLeaveWorld {ctx : LeaveWorldContext}
    (hzero : ctx.zoneId = 0 → l.Settled cfg ctx.charId) :
    Settled cfg { l with
      actors := l.actors.runLeaveWorld ctx
      toZone := l.toZone ++
        if ctx.zoneId ≠ 0 then
          [.playerLeave
            { charId := ctx.charId, mapTemplateId := ctx.mapTemplateId
              instanceId := ctx.instanceId, zoneId := ctx.zoneId }]
        else [] } ctx.charId := by
  intro hfollowed
  by_cases hz : ctx.zoneId = 0
  · have hstays : l.actors.runLeaveWorld ctx = l.actors := by
      have hin := hfollowed.inWorld
      unfold runLeaveWorld at hin ⊢
      dsimp only at hin ⊢
      rw [if_neg (not_not.mpr hz)] at hin ⊢
      rw [players_setPlayer_self] at hin
      obtain ⟨hunbound, -, hfrom, -⟩ := isInWorld_of_left hin
      rw [hunbound, if_neg (by simp [hfrom])]
      exact congrArg (fun players => { l.actors with players }) (Function.update_eq_self ..)
    rw [if_neg (not_not.mpr hz), List.append_nil, hstays] at hfollowed ⊢
    exact hzero hz hfollowed
  · rw [if_pos hz]
    intro o ho b hb
    obtain ⟨o', -, ho⟩ := mem_bindings_send l ho rfl rfl
    simp only [outcomes, effects, if_true, List.flatMap_cons, List.flatMap_nil, List.append_nil,
      List.mem_singleton] at ho
    rw [ho] at hb
    cases hb

/-- A snapshot tells the zone the position that was to be told. -/
theorem settled_snapshot (haoi : cfg.enableZoneAoiSnapshot = true) {zoneId : UInt32} {pos : Vec2i}
    {sid serial : UInt32} {st : WorldActors} (hlater : Later l.actors st c)
    (hdest : st.destPlace c = l.actors.destPlace c)
    (hsnapshots : ∀ q, q ∈ l.actors.snapshots c ↔ q = pos ∨ q ∈ st.snapshots c)
    (hc : l.Settled cfg c) :
    Settled cfg { l with
      actors := st
      toZone := l.toZone ++ requestZoneInitialSnapshot cfg zoneId c pos sid serial } c := by
  intro hfollowed o ho b hb
  obtain ⟨o', ho', ho⟩ := mem_bindings_send l ho rfl rfl
  rw [requestZoneInitialSnapshot, if_neg fun h => Bool.false_ne_true (h.symm.trans haoi)] at ho
  simp only [outcomes, effects, if_true, List.flatMap_cons, List.flatMap_nil, List.append_nil,
    List.mem_singleton] at ho
  rw [ho] at hb
  obtain ⟨b', hb', rfl⟩ := Option.mem_map.mp hb
  have hbound := hc (followed_of_later hlater hfollowed) o' ho' b' hb'
  dsimp only
  rw [hdest]
  refine ⟨hbound.mapTemplateId, hbound.instanceId, fun q hq => ?_, fun _ _ => ?_⟩
  · exact hbound.told q ((hsnapshots q).mpr (.inr hq))
  · exact hbound.told pos ((hsnapshots pos).mpr (.inl rfl))

/-- What a task sends to the zone is about the character of the task. -/
theorem charId?_requestsOf (st : WorldActors) (ans : MoveAnswers) (p : ActorPost) :
    ∀ m ∈ requestsOf cfg st ans p, charId? m = some p.about := by
  intro m hm
  cases p with
  | player charId task =>
      cases task with
      | move sid x y =>
          rw [requestsOf, moveRequests] at hm
          split at hm
          · cases hm
          next request hmove =>
            split at hm
            · simp only [transferRequests, List.mem_cons, List.not_mem_nil, or_false] at hm
              have hcharId := charId_of_transfer hmove
              rcases hm with rfl | rfl <;> exact congrArg some hcharId
            · cases hm
          · cases hm
          · dsimp only at hm
            split at hm
            · cases hm
            · rw [mirrorPlayerMoveToZone] at hm
              split at hm
              · cases hm
              · rw [List.mem_singleton.mp hm]
                rfl
      | leaveWorld ctx =>
          rw [requestsOf] at hm
          split at hm
          · rw [List.mem_singleton.mp hm]
            rfl
          · cases hm
      | _ => cases hm
  | zone zoneId task =>
      cases task with
      | join charId pos sid serial =>
          rw [requestsOf, requestZoneInitialSnapshot] at hm
          split at hm
          · cases hm
          · rw [List.mem_singleton.mp hm]
            rfl
      | _ => cases hm

/-- Taking a task that neither enters nor leaves. -/
theorem settled_taken {actor : ActorAddr} {p : ActorPost}
    (hold : oldest ActorPost.addr actor l.actors.mail = some p)
    (hplace : ∀ d, p.placeAfter d = d) (hsnapshot : p.snapshot c = none)
    (henter : p.isEnter c = false) (hleave : p.isLeave c = false) (hc : l.Settled cfg c) :
    (l.taken actor).Settled cfg c :=
  (sameFor_of_actors (sameAt_taken hold (.inr hplace) hsnapshot henter hleave)).settled hc

/-- A task of a player settles that player. -/
theorem settled_runPlayerTask (haoi : cfg.enableZoneAoiSnapshot = true) {charId : UInt64}
    {task : PlayerTask} {ans : MoveAnswers}
    (hold : oldest ActorPost.addr (.player charId) l.actors.mail = some (.player charId task))
    (hfits : (l.taken (.player charId)).PostFits cfg ans (.player charId task))
    (hc : l.Settled cfg (ActorPost.player charId task).about) :
    Settled cfg { l with
      actors := (l.actors.taken (.player charId)).runPlayerTask cfg.actors charId task ans
      toZone := l.toZone ++ requestsOf cfg l.actors ans (.player charId task) }
      (ActorPost.player charId task).about := by
  cases task with
  | enter coreState sid serial zoneId mapTemplateId instanceId =>
      have hnone : requestsOf cfg l.actors ans (.player charId
          (.enter coreState sid serial zoneId mapTemplateId instanceId)) = [] := rfl
      rw [hnone, List.append_nil]
      exact settled_runEnter (l := l.taken (.player charId)) hfits
  | setWorldPosition zoneId mapTemplateId instanceId x y =>
      have hnone : requestsOf cfg l.actors ans (.player charId
          (.setWorldPosition zoneId mapTemplateId instanceId x y)) = [] := rfl
      rw [hnone, List.append_nil]
      refine (sameFor_of_actors ⟨⟨fun hin => ?_, fun hany => ?_, fun hany => ?_⟩, ?_,
        fun pos => ?_⟩).settled hc
      · dsimp only [runPlayerTask, ActorPost.about] at hin
        rw [players_setPlayer_self] at hin
        exact PlayerActor.isInWorld_of_setWorldPosition hin
      · rw [any_taken hold] at hany
        exact hany
      · rw [any_taken hold] at hany
        exact hany
      · dsimp only [runPlayerTask, ActorPost.about]
        rw [placeAfter_player, place_setWorldPosition]
        exact foldl_placeAfter_taken hold (l.actors.players charId).place
      · exact (mem_snapshots_taken_of_none hold rfl pos).symm
  | cleanup sid serial =>
      have hnone : requestsOf cfg l.actors ans (.player charId (.cleanup sid serial)) = [] := rfl
      rw [hnone, List.append_nil]
      refine settled_runCleanup (l := l.taken (.player charId)) hfits fun hzero => ?_
      exact settled_taken hold (fun _ => rfl) rfl rfl (by simp [ActorPost.isLeave, hzero]) hc
  | leaveWorld ctx =>
      refine settled_runLeaveWorld (l := l.taken (.player charId)) fun hzero => ?_
      exact settled_taken hold (fun _ => rfl) rfl rfl (by simp [ActorPost.isLeave, hzero]) hc
  | move sid x y =>
      exact settled_handleWorldMove (l := l.taken (.player charId)) haoi hfits
        (settled_taken hold (fun _ => rfl) rfl rfl rfl hc)

/-- A task of a zone actor passes a position on that its player had when it was posted. -/
theorem settled_runZoneTask (haoi : cfg.enableZoneAoiSnapshot = true) {zoneId : UInt32}
    {task : ZoneTask} {ans : MoveAnswers}
    (hold : oldest ActorPost.addr (.zone zoneId) l.actors.mail = some (.zone zoneId task))
    (hc : l.Settled cfg c) :
    Settled cfg { l with
      actors := (l.actors.taken (.zone zoneId)).runZoneTask cfg.actors zoneId task
      toZone := l.toZone ++ requestsOf cfg l.actors ans (.zone zoneId task) } c := by
  have hlater : Later l.actors
      ((l.actors.taken (.zone zoneId)).runZoneTask cfg.actors zoneId task) c := by
    refine ⟨id, fun hany => ?_, fun hany => ?_⟩
    · rw [any_taken hold] at hany
      exact hany
    · rw [any_taken hold] at hany
      exact hany
  have hdest := destPlace_taken hold (fun _ => rfl) c
  cases task with
  | join charId pos sid serial =>
      by_cases hcharId : charId = c
      · subst hcharId
        refine settled_snapshot haoi hlater hdest (fun q => (mem_snapshots_taken hold q).trans ?_) hc
        refine or_congr ?_ Iff.rfl
        simp [ActorPost.snapshot, eq_comm]
      · refine (sameFor_of_sameAt _ ⟨hlater, hdest, fun q => ?_⟩ fun m hm heq => ?_).settled hc
        · exact (mem_snapshots_taken_of_none hold (if_neg hcharId) q).symm
        · rw [charId?_requestsOf _ _ _ m hm] at heq
          exact hcharId (Option.some.inj heq)
  | _ =>
      refine (sameFor_of_sameAt _ ⟨hlater, hdest, fun q => ?_⟩ fun m hm => by cases hm).settled hc
      exact (mem_snapshots_taken_of_none hold rfl q).symm

/-- The oldest task of an actor, of either kind. -/
theorem settled_run (haoi : cfg.enableZoneAoiSnapshot = true) {actor : ActorAddr}
    {ans : MoveAnswers} (hfits : l.Fits cfg (.run actor ans)) (hc : l.Settled cfg c) :
    (l.step cfg (.run actor ans)).Settled cfg c := by
  unfold step
  dsimp only
  cases hold : oldest ActorPost.addr actor l.actors.mail with
  | none =>
      have hstays : l.actors.runOldest cfg.actors actor ans = l.actors := by
        rw [runOldest, hold]
      rw [hstays]
      exact (sameFor_of_sameAt [] (SameAt.refl l.actors c) nofun).settled hc
  | some p =>
      by_cases habout : c = p.about
      · subst habout
        obtain rfl := addr_of_oldest hold
        have hpost := hfits p hold
        unfold runOldest
        rw [hold]
        cases p with
        | player charId task => exact settled_runPlayerTask haoi hold hpost hc
        | zone zoneId task => exact settled_runZoneTask haoi hold hc
      · refine (sameFor_of_sameAt _ (sameAt_runOldest cfg.actors ans hold habout)
          fun m hm heq => ?_).settled hc
        rw [charId?_requestsOf _ _ _ m hm] at heq
        exact habout (Option.some.inj heq).symm

end PositionLink

end GameServer
