import GameServer.World.AssignedInstances
import GameServer.World.RecalledEnters
import GameServer.Zone.SpatialExact

/-!
# GameServer.World.AbandonedEnters

Whether an enter that the world gives up leaves a player in the zone.

The zone binds a player when it handles the player-enter, whatever has become
of the enter in the meantime.  It is up to the world to send a leave after it,
on the same connection, and each way to give an enter up does that by posting
a task to the player's actor.

* `mayHold` — the zone holds a player, or is about to once its requests are
  handled;
* `Watched` — an enter that may hold a player is still waiting, has
  succeeded, or its leave is on its way;
* `recallsEnters` — a step does not give an enter up without a leave that
  reaches the zone;
* `noLeak_run` — if no step does, no given up enter leaves a player behind.
-/

namespace GameServer

namespace ZoneRuntime

/-! ## Whether a player is bound -/

variable {cfg : ZoneConfig} {z : ZoneRuntime} {c : UInt64}

/-- The player is bound to a map instance. -/
def bound (z : ZoneRuntime) (c : UInt64) : Bool := (z.playerBindings.lookup c).isSome

theorem bound_onMapAssignRequest (now : Nat) (req : WorldZoneMapAssignRequest) :
    (z.onMapAssignRequest cfg now req).1.bound c = z.bound c := by
  rw [bound, bound, playerBindings_onMapAssignRequest]

/-- An enter binds its own character at most. -/
theorem bound_onPlayerEnterRequest {now : Nat} {req : WorldZonePlayerEnter}
    (h : (z.onPlayerEnterRequest cfg now req).1.bound c = true) :
    z.bound c = true ∨ req.charId = c := by
  rw [bound, lookup_onPlayerEnterRequest] at h
  split_ifs at h with henters
  · exact .inr henters.1
  · exact .inl h

/-- A leave unbinds its own. -/
theorem bound_onPlayerLeaveRequest {now : Nat} {req : WorldZonePlayerLeave}
    (h : (z.onPlayerLeaveRequest now req).bound c = true) :
    z.bound c = true ∧ req.charId ≠ c := by
  rw [bound, lookup_onPlayerLeaveRequest] at h
  split_ifs at h with hc
  · cases h
  · exact ⟨h, hc⟩

theorem bound_onPlayerMoveInternalRequest {now : Nat} {req : WorldZonePlayerMoveInternal}
    (h : (z.onPlayerMoveInternalRequest cfg now req).bound c = true) : z.bound c = true := by
  rw [bound, lookup_onPlayerMoveInternalRequest] at h
  split_ifs at h
  · rwa [Option.isSome_map] at h
  · exact h

theorem bound_reapEmptyDungeonInstances (now : Nat) :
    (z.reapEmptyDungeonInstances now).bound c = z.bound c := by
  rw [bound, bound, playerBindings_reapEmptyDungeonInstances]

/-- Whether the player may be bound after a request. -/
def mayBind (c : UInt64) (held : Bool) : ZoneRequest → Bool
  | .playerEnter req => held || req.charId == c
  | .playerLeave req => held && req.charId != c
  | .mapAssign _ | .playerMoveInternal _ => held

/-- A binding after a request was there before, or the request may bind. -/
theorem mayBind_of_bound_handle {now : Nat} {request : ZoneRequest}
    (h : (z.handle cfg now request).1.bound c = true) : mayBind c (z.bound c) request = true := by
  cases request with
  | mapAssign req =>
      rw [handle, bound_onMapAssignRequest] at h
      exact h
  | playerEnter req =>
      rcases bound_onPlayerEnterRequest h with hold | hnew
      · simp [mayBind, hold]
      · simp [mayBind, hnew]
  | playerLeave req => simpa [mayBind] using bound_onPlayerLeaveRequest h
  | playerMoveInternal req => exact bound_onPlayerMoveInternalRequest h

/-- More bindings to start with, more at the end: induction on the requests. -/
theorem foldl_mayBind_mono {held held' : Bool} (h : held = true → held' = true)
    {requests : List ZoneRequest} (hheld : requests.foldl (mayBind c) held = true) :
    requests.foldl (mayBind c) held' = true := by
  induction requests generalizing held held' with
  | nil => exact h hheld
  | cons request requests ih =>
      refine ih (fun hnext => ?_) hheld
      cases request with
      | playerEnter req =>
          simp only [mayBind, Bool.or_eq_true] at hnext ⊢
          exact hnext.imp_left h
      | playerLeave req =>
          simp only [mayBind, Bool.and_eq_true] at hnext ⊢
          exact hnext.imp_left h
      | mapAssign req => exact h hnext
      | playerMoveInternal req => exact h hnext

/-- Requests that enter nobody else bind nobody else. -/
theorem held_of_foldl_mayBind {held : Bool} {requests : List ZoneRequest}
    (hno : ∀ request ∈ requests, ZoneLink.enteringChar? request ≠ some c)
    (h : requests.foldl (mayBind c) held = true) : held = true := by
  induction requests generalizing held with
  | nil => exact h
  | cons request requests ih =>
      have hnext := ih (fun r hr => hno r (List.mem_cons_of_mem _ hr)) h
      have hfirst := hno request List.mem_cons_self
      cases request with
      | playerEnter req =>
          simp only [mayBind, Bool.or_eq_true, beq_iff_eq] at hnext
          exact hnext.resolve_right fun heq => hfirst (congrArg some heq)
      | playerLeave req =>
          simp only [mayBind, Bool.and_eq_true] at hnext
          exact hnext.1
      | mapAssign req => exact hnext
      | playerMoveInternal req => exact hnext

end ZoneRuntime

/-! ## Leaves that wait in the mail of the actors -/

namespace WorldActors

/-- A task that ends with a leave of the character. -/
def leaves (c : UInt64) : ActorPost → Bool
  | .player charId (.cleanup _ _) => charId == c && c != 0
  | .player _ (.leaveWorld ctx) => ctx.charId == c && c != 0
  | _ => false

/-- A leave of the character is on its way through the actors. -/
def leaveComing (c : UInt64) (mail : List ActorPost) : Bool := mail.any (leaves c)

variable {cfg : ActorConfig} {a : WorldActors} {c : UInt64}

theorem leaveComing_of_isPrefix {mail mail' : List ActorPost} (h : mail <+: mail')
    (hcoming : leaveComing c mail = true) : leaveComing c mail' = true := by
  obtain ⟨p, hp, hleaves⟩ := List.any_eq_true.mp hcoming
  exact List.any_eq_true.mpr ⟨p, h.subset hp, hleaves⟩

theorem mail_beginLeaveWorld (a : WorldActors) (ctx : LeaveWorldContext) :
    a.mail <+: (a.beginLeaveWorld ctx).mail := by
  unfold beginLeaveWorld
  split
  · exact List.prefix_rfl
  · exact List.prefix_append _ _

/-- A transfer only appends to the mailboxes. -/
theorem mail_completePortalTransfer (a : WorldActors) (pending : PendingPortalTransfer)
    (zoneId : UInt16) (mapTemplateId instanceId : UInt32) (bound : Bool) :
    a.mail <+: (a.completePortalTransfer pending zoneId mapTemplateId instanceId bound).mail := by
  unfold completePortalTransfer
  split
  · exact List.prefix_rfl
  · simp only [post, List.append_assoc]
    exact List.prefix_append _ _

/-- So does every task of a player. -/
theorem mail_runPlayerTask (a : WorldActors) (charId : UInt64) (task : PlayerTask)
    (ans : MoveAnswers) : a.mail <+: (a.runPlayerTask cfg charId task ans).mail := by
  cases task with
  | enter coreState sid serial zoneId mapTemplateId instanceId => exact List.prefix_append _ _
  | setWorldPosition zoneId mapTemplateId instanceId x y => exact List.prefix_rfl
  | cleanup sid serial => exact mail_beginLeaveWorld a _
  | leaveWorld ctx =>
      simp only [runPlayerTask, runLeaveWorld]
      split
      · exact List.prefix_append _ _
      · exact List.prefix_rfl
  | move sid x y =>
      simp only [runPlayerTask, handleWorldMove]
      split
      · exact List.prefix_rfl
      · unfold beginPortalTransfer
        split
        · exact List.prefix_rfl
        · exact List.prefix_rfl
        · exact mail_completePortalTransfer a _ _ _ _ _
      · split
        · exact List.prefix_append _ _
        · simp only [post, List.append_assoc]
          exact List.prefix_append _ _
      · split
        · exact List.prefix_rfl
        · exact List.prefix_append _ _

/-- The first task of a closed session posts the second. -/
theorem leaveComing_runCleanup (hc : c ≠ 0) (sid serial : UInt32) :
    leaveComing c (a.runCleanup c sid serial).mail = true := by
  simp [leaveComing, runCleanup, beginLeaveWorld, hc, post, leaves]

end WorldActors

namespace ZoneLink

open WorldActors

/-- What an output posts is added to the mail. -/
theorem mail_postOutput (a : WorldActors) (o : Output) : a.mail <+: (postOutput a o).mail := by
  cases o with
  | enterPosted charId sid serial zoneId mapTemplateId instanceId coreState =>
      exact List.prefix_append _ _
  | cleanupPosted charId sid serial =>
      simp only [postOutput, cleanupClosedWorldSessionActors]
      split
      · exact List.prefix_rfl
      · exact List.prefix_append _ _
  | leavePosted ctx => exact mail_beginLeaveWorld a ctx
  | portalCompleted p zoneId mapTemplateId instanceId =>
      exact mail_completePortalTransfer a _ _ _ _ _
  | _ => exact List.prefix_rfl

/-- An output that recalls a character puts a leave in its mailbox. -/
theorem leaveComing_postOutput {a : WorldActors} {c : UInt64} {o : Output}
    (h : o.recalls c = true) : leaveComing c (postOutput a o).mail = true := by
  cases o with
  | cleanupPosted charId sid serial =>
      simp only [Output.recalls, Bool.and_eq_true, beq_iff_eq, bne_iff_ne] at h
      obtain ⟨rfl, hc⟩ := h
      simp [postOutput, cleanupClosedWorldSessionActors, hc, post, leaveComing, leaves]
  | leavePosted ctx =>
      simp only [Output.recalls, Bool.and_eq_true, beq_iff_eq, bne_iff_ne] at h
      obtain ⟨rfl, hc⟩ := h
      simp [postOutput, beginLeaveWorld, hc, post, leaveComing, leaves]
  | _ => cases h

theorem mail_foldl_postOutput (outputs : List Output) (a : WorldActors) :
    a.mail <+: (outputs.foldl postOutput a).mail :=
  foldl_of_trans (R := fun a a' : WorldActors => a.mail <+: a'.mail) (fun _ => List.prefix_rfl)
    List.IsPrefix.trans (fun a o _ => mail_postOutput a o) a

theorem leaveComing_foldl_postOutput {outputs : List Output} {c : UInt64} {o : Output}
    (ho : o ∈ outputs) (hrecalls : o.recalls c = true) (a : WorldActors) :
    leaveComing c (outputs.foldl postOutput a).mail = true := by
  obtain ⟨before, after, rfl⟩ := List.append_of_mem ho
  rw [List.foldl_append, List.foldl_cons]
  exact leaveComing_of_isPrefix (mail_foldl_postOutput _ _) (leaveComing_postOutput hrecalls)

/-! ## What a step of the world sends -/

variable {cfg : LinkConfig} {l : ZoneLink}

/-- The requests a step sends, and the enters among them. -/
structure Sends (l l' : ZoneLink) : Prop where
  sent : ∃ requests enters, l'.toZone = l.toZone ++ requests ∧
    l'.entersSent = l.entersSent ++ enters ∧
    requests.filterMap enteringChar? = enters.map (·.charId) ∧
    ∀ s ∈ enters, ∀ r, s.record = some r →
      s.charId = r.enterPending.charId ∧ r ∈ l'.world.flow.pendingZonePlayerEnter

theorem mem_of_mem_recordsSent {st st' : WorldRuntime} {r : PendingZonePlayerEnterRequest}
    (h : r ∈ recordsSent cfg st st') : r ∈ st'.flow.pendingZonePlayerEnter := by
  obtain ⟨requestId, -, hfound⟩ := List.mem_filterMap.mp h
  exact List.mem_of_find?_eq_some (Option.filter_eq_some_iff.mp hfound).1

/-- Every enter that the world sends is one of its records. -/
theorem sends_advance (cfg : LinkConfig) (l : ZoneLink) (e : WorldRuntime.Event) :
    Sends l (l.advance cfg e) := by
  let st' := l.world.step cfg.topology e
  let records := recordsSent cfg l.world st'
  let transfers := (st'.out.drop l.world.out.length).flatMap (transferRequests cfg st'.flow)
  let assigns := mapAssignsSent cfg (asksForDungeon e) l.world st'
  refine ⟨assigns ++ (records.map enterRequest ++ transfers),
    records.map (fun record => ⟨record.enterPending.charId, some record⟩) ++
      (transfers.filterMap enteringChar?).map fun charId => ⟨charId, none⟩, ?_, ?_, ?_,
    fun s hs r hr => ?_⟩
  · simp [advance, assigns, records, transfers, st']
  · simp [advance, records, transfers, st']
  · have hassigns : assigns.filterMap enteringChar? = [] := by
      unfold assigns mapAssignsSent
      split
      · rfl
      · simp [enteringChar?]
    have hrecords : (records.map enterRequest).filterMap enteringChar? =
        records.map (·.enterPending.charId) := by
      rw [List.filterMap_map, ← List.filterMap_eq_map]
      rfl
    simp [List.filterMap_append, hassigns, hrecords, Function.comp_def]
  · rcases List.mem_append.mp hs with hrecord | htransfer
    · obtain ⟨record, hmem, rfl⟩ := List.mem_map.mp hrecord
      obtain rfl := Option.some.inj hr
      exact ⟨rfl, mem_of_mem_recordsSent hmem⟩
    · obtain ⟨charId, -, rfl⟩ := List.mem_map.mp htransfer
      cases hr

/-! ## Enters that may leave a player behind -/

/-- The zone holds the player, or may once it has handled what is on its way. -/
def mayHold (l : ZoneLink) (c : UInt64) : Bool :=
  l.toZone.foldl (ZoneRuntime.mayBind c) (l.zone.bound c)

/-- The enter is the only one that was ever sent for its character. -/
def onlyEnter (l : ZoneLink) (r : PendingZonePlayerEnterRequest) : Bool :=
  l.entersSent.filter (·.charId == r.enterPending.charId) == [⟨r.enterPending.charId, some r⟩]

/-- The world still waits for the ack of the enter. -/
def waiting (l : ZoneLink) (r : PendingZonePlayerEnterRequest) : Bool :=
  l.world.flow.pendingZonePlayerEnter.contains r

/-- The enter was reported as a success. -/
def succeeded (l : ZoneLink) (r : PendingZonePlayerEnterRequest) : Bool :=
  l.world.out.any (·.succeeds r.enterPending)

/-- The enter may leave a player behind that the world does not know of. -/
def atRisk (l : ZoneLink) (r : PendingZonePlayerEnterRequest) : Bool :=
  l.onlyEnter r && l.mayHold r.enterPending.charId && !l.succeeded r

/-- What is still to come for an enter: its ack, the close of its connection,
or a leave. -/
def inHand (l : ZoneLink) (r : PendingZonePlayerEnterRequest) : Bool :=
  l.waiting r || l.world.closeQueued r.enterPending ||
    leaveComing r.enterPending.charId l.actors.mail

/-- No player is held that the world does not know of. -/
structure Watched (l : ZoneLink) : Prop where
  keyed : l.world.EntersKeyed
  unsent : ∀ c, (∀ s ∈ l.entersSent, s.charId ≠ c) → l.mayHold c = false
  inHand : ∀ r, l.atRisk r = true → l.inHand r = true

/-- A given up enter leaves nobody behind: once all is delivered and has run,
the zone has no binding for the character, and counts those it has. -/
def NoLeak (l : ZoneLink) : Prop :=
  l.Quiet → ∀ r, l.onlyEnter r = true → l.waiting r = false → l.succeeded r = false →
    l.zone.playerBindings.lookup r.enterPending.charId = none ∧
      ∀ k n, l.zone.playerCount k = some n → n.toNat = l.zone.boundPlayers k

/-! ## What a step must see to -/

/-- A step of the world does not lose sight of the enter. -/
def recallsInWorld (l : ZoneLink) (r : PendingZonePlayerEnterRequest) (e : WorldRuntime.Event) :
    Bool :=
  if l.waiting r then l.world.minds r e
  else leaveComing r.enterPending.charId l.actors.mail || l.world.closes r.enterPending e

/-- A step does not lose sight of the enter; and the last leave that an actor
sends for it reaches the zone. -/
def recallsEnter (cfg : LinkConfig) (l : ZoneLink) (r : PendingZonePlayerEnterRequest) :
    Event → Bool
  | .world e => isZoneAnswer e || l.recallsInWorld r e
  | .receive sendOk notified bytes =>
      match l.toWorld with
      | [] => true
      | answer :: _ => l.recallsInWorld r (answerEvent cfg sendOk notified bytes answer)
  | .actor actor _ =>
      match Mailbox.oldest ActorPost.addr actor l.actors.mail with
      | some (.player _ (.leaveWorld ctx)) =>
          ctx.charId != r.enterPending.charId || l.waiting r ||
            l.world.closeQueued r.enterPending || !(l.leavesSent cfg actor).isEmpty ||
            leaveComing r.enterPending.charId
              (Mailbox.withoutOldest ActorPost.addr actor l.actors.mail)
      | _ => true
  | _ => true

/-- A step does not lose sight of any enter that may leave a player behind. -/
def recallsEnters (cfg : LinkConfig) (l : ZoneLink) (e : Event) : Bool :=
  l.entersSent.all fun sent => sent.record.all fun r => !l.atRisk r || l.recallsEnter cfg r e

/-- The condition on all enters, at one of them. -/
theorem recallsEnter_of_recallsEnters {e : Event} {r : PendingZonePlayerEnterRequest}
    (h : recallsEnters cfg l e = true) (hrisk : l.atRisk r = true) :
    l.recallsEnter cfg r e = true := by
  have honly : l.entersSent.filter (·.charId == r.enterPending.charId) =
      [⟨r.enterPending.charId, some r⟩] := by
    simp only [atRisk, onlyEnter, Bool.and_eq_true, beq_iff_eq] at hrisk
    exact hrisk.1.1
  have hsent : (⟨r.enterPending.charId, some r⟩ : EnterSent) ∈ l.entersSent := by
    refine List.mem_of_mem_filter (p := (·.charId == r.enterPending.charId)) ?_
    rw [honly]
    exact List.mem_cons_self
  have hall := List.all_eq_true.mp h _ hsent
  simpa [hrisk] using hall

/-! ## Steps -/

/-- Requests that enter nobody else make no other player held. -/
theorem mayHold_of_append {requests : List ZoneRequest} {c : UInt64} {held : Bool}
    (hno : ∀ request ∈ requests, enteringChar? request ≠ some c)
    (h : (l.toZone ++ requests).foldl (ZoneRuntime.mayBind c) held = true) :
    l.toZone.foldl (ZoneRuntime.mayBind c) held = true := by
  rw [List.foldl_append] at h
  exact ZoneRuntime.held_of_foldl_mayBind hno h

/-- An enter that was in hand is in hand still, if it has not succeeded. -/
theorem inHand_advance (cfg : LinkConfig) (h : Watched l) {e : WorldRuntime.Event}
    {r : PendingZonePlayerEnterRequest} (hrisk : l.atRisk r = true)
    (hrecalls : l.recallsInWorld r e = true)
    (hfailed : (l.advance cfg e).succeeded r = false) : (l.advance cfg e).inHand r = true := by
  have hcoming {o : Output} (ho : o ∈ WorldRuntime.emitted l.world (l.advance cfg e).world)
      (hrecalls : o.recalls r.enterPending.charId = true) :
      (l.advance cfg e).inHand r = true :=
    Bool.or_eq_true_iff.mpr (.inr (leaveComing_foldl_postOutput ho hrecalls l.actors))
  have hqueued (hclose : (l.advance cfg e).world.closeQueued r.enterPending = true) :
      (l.advance cfg e).inHand r = true := by
    simp [ZoneLink.inHand, hclose]
  unfold recallsInWorld at hrecalls
  split at hrecalls
  next hwaits =>
    -- its record stays, or is taken with an answer, a leave or a close
    have hmem : r ∈ l.world.flow.pendingZonePlayerEnter := by
      simpa [waiting] using hwaits
    obtain ⟨hstays | ⟨o, ho, hsettles⟩ | hclose⟩ :=
      WorldRuntime.waits_step cfg.topology h.keyed hmem hrecalls
    · have hstays' : r ∈ (l.advance cfg e).world.flow.pendingZonePlayerEnter := hstays
      simp [ZoneLink.inHand, waiting, hstays']
    · rcases Bool.or_eq_true_iff.mp hsettles with hsucceeds | hrecalls
      · have hsucceeded : (l.advance cfg e).succeeded r = true :=
          List.any_eq_true.mpr ⟨o, List.mem_of_mem_drop ho, hsucceeds⟩
        exact Bool.noConfusion (hfailed.symm.trans hsucceeded)
      · exact hcoming ho hrecalls
    · exact hqueued hclose
  next hwaits =>
    rcases Bool.or_eq_true_iff.mp hrecalls with hleave | hcloses
    · have hleave' : leaveComing r.enterPending.charId (l.advance cfg e).actors.mail = true :=
        leaveComing_of_isPrefix (mail_foldl_postOutput _ l.actors) hleave
      exact Bool.or_eq_true_iff.mpr (.inr hleave')
    · have hinHand := h.inHand r hrisk
      simp only [ZoneLink.inHand, Bool.or_eq_true] at hinHand
      rcases hinHand with (hwaits' | hclosing) | hleave
      · exact absurd hwaits' hwaits
      · rcases WorldRuntime.closed_step cfg.topology hclosing hcloses with hclose | ⟨o, ho, hrecalls⟩
        · exact hqueued hclose
        · exact hcoming ho hrecalls
      · exact Bool.or_eq_true_iff.mpr
          (.inr (leaveComing_of_isPrefix (mail_foldl_postOutput _ l.actors) hleave))

/-- A step of the world: a record that goes must be recalled or succeed. -/
theorem watched_advance (cfg : LinkConfig) (h : Watched l) (e : WorldRuntime.Event)
    (hrecalls : ∀ r, l.atRisk r = true → l.recallsInWorld r e = true) :
    Watched (l.advance cfg e) := by
  obtain ⟨requests, enters, htoZone, henters, hchars, hrecords⟩ := sends_advance cfg l e
  have hno {c : UInt64} (hc : ∀ s ∈ enters, s.charId ≠ c) :
      ∀ request ∈ requests, enteringChar? request ≠ some c := by
    intro request hrequest hentering
    have hmem : c ∈ requests.filterMap enteringChar? :=
      List.mem_filterMap.mpr ⟨request, hrequest, hentering⟩
    rw [hchars] at hmem
    obtain ⟨s, hs, hsc⟩ := List.mem_map.mp hmem
    exact hc s hs hsc
  have hhold {c : UInt64} (hc : ∀ s ∈ enters, s.charId ≠ c)
      (hold : (l.advance cfg e).mayHold c = true) : l.mayHold c = true := by
    unfold mayHold at hold ⊢
    rw [htoZone] at hold
    exact mayHold_of_append (hno hc) hold
  have hout : l.world.out <+: (l.advance cfg e).world.out := by
    obtain ⟨os, hos⟩ := WorldRuntime.exists_out_step cfg.topology l.world e
    exact ⟨os, hos.symm⟩
  refine ⟨WorldRuntime.entersKeyed_step cfg.topology h.keyed e, fun c hc => ?_, fun r hrisk => ?_⟩
  · rw [henters] at hc
    refine Bool.eq_false_iff.mpr fun hold => ?_
    have hnone := h.unsent c fun s hs => hc s (List.mem_append_left _ hs)
    have hheld := hhold (fun s hs => hc s (List.mem_append_right _ hs)) hold
    exact Bool.noConfusion (hnone.symm.trans hheld)
  · simp only [atRisk, onlyEnter, Bool.and_eq_true, beq_iff_eq, henters, List.filter_append,
      Bool.not_eq_true'] at hrisk
    obtain ⟨⟨honly, hold⟩, hfailed⟩ := hrisk
    rcases List.append_eq_singleton_iff.mp honly with ⟨-, hnew⟩ | ⟨honce, hnone⟩
    · -- the enter was sent in this step
      have hmem : (⟨r.enterPending.charId, some r⟩ : EnterSent) ∈ enters := by
        refine List.mem_of_mem_filter (p := (·.charId == r.enterPending.charId)) ?_
        rw [hnew]
        exact List.mem_cons_self
      have hwaits := (hrecords _ hmem r rfl).2
      simp only [ZoneLink.inHand, waiting, List.contains_eq_mem, hwaits, decide_true, Bool.true_or]
    · have hothers : ∀ s ∈ enters, s.charId ≠ r.enterPending.charId := by
        intro s hs
        simpa using List.filter_eq_nil_iff.mp hnone s hs
      have hfailed' : l.succeeded r = false := by
        refine Bool.eq_false_iff.mpr fun hsucceeded => ?_
        obtain ⟨o, ho, hsucceeds⟩ := List.any_eq_true.mp hsucceeded
        have hagain : (l.advance cfg e).succeeded r = true :=
          List.any_eq_true.mpr ⟨o, hout.subset ho, hsucceeds⟩
        exact Bool.noConfusion (hfailed.symm.trans hagain)
      have hrisk : l.atRisk r = true := by
        simp [atRisk, onlyEnter, honce, hhold hothers hold, hfailed']
      exact inHand_advance cfg h hrisk (hrecalls r hrisk) hfailed

/-- A step that sends at most leaves, and loses none of what is in hand. -/
theorem Watched.quiet_step {l' : ZoneLink} (h : Watched l) (hworld : l'.world = l.world)
    (hsent : l'.entersSent = l.entersSent)
    (hhold : ∀ c, l'.mayHold c = true → l.mayHold c = true)
    (hcoming : ∀ r, l.atRisk r = true → l'.mayHold r.enterPending.charId = true →
      l.waiting r = false → l.world.closeQueued r.enterPending = false →
      leaveComing r.enterPending.charId l.actors.mail = true →
      leaveComing r.enterPending.charId l'.actors.mail = true) : Watched l' := by
  refine ⟨hworld ▸ h.keyed, fun c hc => ?_, fun r hrisk => ?_⟩
  · refine Bool.eq_false_iff.mpr fun hold => ?_
    exact Bool.noConfusion ((h.unsent c (hsent ▸ hc)).symm.trans (hhold c hold))
  · have hparts : (l.onlyEnter r = true ∧ l'.mayHold r.enterPending.charId = true) ∧
        l.succeeded r = false := by
      simpa [atRisk, onlyEnter, succeeded, hworld, hsent] using hrisk
    obtain ⟨⟨honly, hold⟩, hfailed⟩ := hparts
    have hrisk' : l.atRisk r = true := by
      simp [atRisk, honly, hhold _ hold, hfailed]
    have hinHand := h.inHand r hrisk'
    unfold ZoneLink.inHand waiting at hinHand ⊢
    rw [hworld]
    cases hwaits : l.world.flow.pendingZonePlayerEnter.contains r with
    | true => rfl
    | false =>
        cases hclose : l.world.closeQueued r.enterPending with
        | true => rfl
        | false =>
            rw [hwaits, hclose] at hinHand
            exact hcoming r hrisk' hold hwaits hclose hinHand

/-- After a leave that is sent, the player is not held. -/
theorem mayHold_leavesSent {actor : ActorAddr} {charId : UInt64} {ctx : LeaveWorldContext}
    (holdest : Mailbox.oldest ActorPost.addr actor l.actors.mail =
      some (.player charId (.leaveWorld ctx))) (hsent : (l.leavesSent cfg actor).isEmpty = false)
    (held : Bool) :
    (l.toZone ++ l.leavesSent cfg actor).foldl (ZoneRuntime.mayBind ctx.charId) held = false := by
  unfold leavesSent at hsent ⊢
  rw [holdest] at hsent ⊢
  dsimp only at hsent ⊢
  split at hsent
  next hreaches =>
    rw [if_pos hreaches, List.foldl_append]
    simp [ZoneRuntime.mayBind]
  next => cases hsent

/-- What a task sends to the zone are leaves. -/
theorem enteringChar?_leavesSent {actor : ActorAddr} {c : UInt64} :
    ∀ request ∈ l.leavesSent cfg actor, enteringChar? request ≠ some c := by
  intro request hrequest
  unfold leavesSent at hrequest
  split at hrequest
  · split at hrequest
    · obtain rfl := List.mem_singleton.mp hrequest
      exact Option.some_ne_none c ∘ Eq.symm
    · cases hrequest
  · cases hrequest

/-- A step of an actor: the leave that runs reaches the zone. -/
theorem watched_actor (h : Watched l) {actor : ActorAddr} {ans : MoveAnswers}
    (hrecalls : ∀ r, l.atRisk r = true → l.recallsEnter cfg r (.actor actor ans) = true) :
    Watched (l.step cfg (.actor actor ans)) := by
  refine h.quiet_step rfl rfl (fun c hold => mayHold_of_append enteringChar?_leavesSent hold)
    fun r hrisk hold hwaits hclose hcoming => ?_
  simp only [step, runOldest]
  have hrest : leaveComing r.enterPending.charId
      (Mailbox.withoutOldest ActorPost.addr actor l.actors.mail) = true ∨
      ∃ p, Mailbox.oldest ActorPost.addr actor l.actors.mail = some p ∧
        leaves r.enterPending.charId p = true := by
    obtain ⟨p, hp, hleaves⟩ := List.any_eq_true.mp hcoming
    cases Mailbox.oldest_or_mem_withoutOldest actor hp with
    | inl holdest => exact .inr ⟨p, holdest, hleaves⟩
    | inr hmem => exact .inl (List.any_eq_true.mpr ⟨p, hmem, hleaves⟩)
  split
  next => exact hcoming
  next charId task holdest =>
    rcases hrest with hrest | ⟨p, hp, hleaves⟩
    · exact leaveComing_of_isPrefix
        (mail_runPlayerTask { l.actors with mail := _ } charId task _) hrest
    · obtain rfl := Option.some.inj (holdest.symm.trans hp)
      cases task with
      | cleanup sid serial =>
          simp only [leaves, Bool.and_eq_true, beq_iff_eq, bne_iff_ne] at hleaves
          obtain ⟨rfl, hc⟩ := hleaves
          exact leaveComing_runCleanup hc sid serial
      | leaveWorld ctx =>
          simp only [leaves, Bool.and_eq_true, beq_iff_eq, bne_iff_ne] at hleaves
          have hrecall := hrecalls r hrisk
          simp only [recallsEnter, holdest, hwaits, hclose, hleaves.1, bne_self_eq_false,
            Bool.false_or, Bool.or_eq_true, Bool.not_eq_true'] at hrecall
          rcases hrecall with hsent | hrest
          · -- the leave reaches the zone
            have hgone := mayHold_leavesSent holdest hsent (l.zone.bound r.enterPending.charId)
            rw [hleaves.1] at hgone
            exact Bool.noConfusion (hgone.symm.trans hold)
          · exact leaveComing_of_isPrefix
              (mail_runPlayerTask { l.actors with mail := _ } charId (.leaveWorld ctx) _) hrest
      | enter => cases hleaves
      | setWorldPosition => cases hleaves
      | move => cases hleaves
  next zoneId task holdest =>
    rcases hrest with hrest | ⟨p, hp, hleaves⟩
    · exact hrest
    · obtain rfl := Option.some.inj (holdest.symm.trans hp)
      cases hleaves

/-- The step lemma of the composition. -/
theorem watched_step (h : Watched l) (e : Event) (hrecalls : recallsEnters cfg l e = true) :
    Watched (l.step cfg e) := by
  have hrecall (r : PendingZonePlayerEnterRequest) (hrisk : l.atRisk r = true) :
      l.recallsEnter cfg r e = true := recallsEnter_of_recallsEnters hrecalls hrisk
  cases e with
  | world e =>
      simp only [step]
      split
      next => exact h
      next he =>
        refine watched_advance cfg h e fun r hrisk => ?_
        simpa [recallsEnter, he] using hrecall r hrisk
  | receive sendOk notified bytes =>
      simp only [step]
      split
      next => exact h
      next answer rest hanswers =>
        have hrest : Watched { l with toWorld := rest } := ⟨h.keyed, h.unsent, h.inHand⟩
        refine watched_advance cfg hrest _ fun r hrisk => ?_
        have hreceive := hrecall r hrisk
        simp only [recallsEnter, hanswers] at hreceive
        exact hreceive
  | actor actor ans => exact watched_actor h hrecall
  | movePacket charId sid x y =>
      exact h.quiet_step rfl rfl (fun _ hold => hold) fun r _ _ _ _ hcoming =>
        leaveComing_of_isPrefix (List.prefix_append _ _) hcoming
  | mirror req =>
      refine h.quiet_step rfl rfl (fun c hold => mayHold_of_append (fun request hrequest => ?_) hold)
        fun r _ _ _ _ hcoming => hcoming
      obtain rfl := List.mem_singleton.mp hrequest
      rintro ⟨⟩
  | zone now =>
      simp only [step]
      split
      next => exact h
      next request rest hrequests =>
        refine h.quiet_step rfl rfl (fun c hold => ?_) fun r _ _ _ _ hcoming => hcoming
        unfold mayHold at hold ⊢
        rw [hrequests, List.foldl_cons]
        exact ZoneRuntime.foldl_mayBind_mono ZoneRuntime.mayBind_of_bound_handle hold
  | reap now =>
      refine h.quiet_step rfl rfl (fun c hold => ?_) fun r _ _ _ _ hcoming => hcoming
      unfold mayHold at hold ⊢
      rwa [show (l.step cfg (.reap now)).zone.bound c = l.zone.bound c from
        ZoneRuntime.bound_reapEmptyDungeonInstances now] at hold

theorem watched_initial : Watched {} := by
  refine ⟨List.nodup_nil, fun c _ => rfl, fun r hrisk => ?_⟩
  cases hrisk

/-! ## Runs -/

/-- What the zone does in a step is a step of the zone. -/
theorem zone_step (cfg : LinkConfig) (l : ZoneLink) (e : Event) :
    (l.step cfg e).zone = l.zone ∨ ∃ ze, (l.step cfg e).zone = l.zone.step cfg.zone ze := by
  cases e with
  | world e =>
      simp only [step]
      split <;> exact .inl rfl
  | receive sendOk notified bytes =>
      simp only [step]
      split <;> exact .inl rfl
  | actor actor ans => exact .inl rfl
  | movePacket charId sid x y => exact .inl rfl
  | mirror req => exact .inl rfl
  | zone now =>
      simp only [step]
      split
      next => exact .inl rfl
      next request rest _ =>
        exact .inr ⟨_, ZoneRuntime.handle_fst cfg.zone l.zone now request⟩
  | reap now => exact .inr ⟨.reap now, rfl⟩

/-- The zone counts its players rightly over every run, as long as the counts fit. -/
theorem booked_run (cfg : LinkConfig) (es : List Event)
    (hsmall : Always (step cfg) (fun l => l.zone.Small) {} es) :
    Always (step cfg) (fun l => l.zone.Booked cfg.zone) {} es := by
  refine always_of_along (ZoneRuntime.booked_empty cfg.zone) (fun l e h hsmall => ?_)
    (along_of_always hsmall)
  rcases zone_step cfg l e with hsame | ⟨ze, hstep⟩
  · rw [hsame]
    exact h
  · rw [hstep] at hsmall ⊢
    exact ZoneRuntime.booked_step h ze hsmall

/-- **A given up enter leaves no binding**: in every run in which no step
loses sight of an enter that may leave a player behind, and the players of the
zone fit its counters, the zone has no binding for the character of a given up
enter once all is delivered and all that was posted has run, and its instances
count the players that are bound. -/
theorem noLeak_run (cfg : LinkConfig) (es : List Event)
    (hsmall : Always (step cfg) (fun l => l.zone.Small) {} es)
    (hrun : Along (step cfg) (fun l e => recallsEnters cfg l e = true) {} es) :
    Always (step cfg) NoLeak {} es := by
  have hwatched : Always (step cfg) Watched {} es :=
    always_of_along watched_initial (fun l e h hok => watched_step h e hok) hrun
  refine always_iff_forall_part.mpr fun p hp hquiet r honly hgivenUp hfailed => ?_
  have h := always_iff_forall_part.mp hwatched p hp
  have hbooked := always_iff_forall_part.mp (booked_run cfg es hsmall) p hp
  refine ⟨?_, hbooked.accounted.counted⟩
  refine Option.isNone_iff_eq_none.mp
    (Option.isSome_eq_false_iff.mp (Bool.eq_false_iff.mpr fun hbound => ?_))
  have hheld : (run (step cfg) {} p).mayHold r.enterPending.charId = true := by
    unfold mayHold
    rw [hquiet.delivered.1]
    exact hbound
  have hinHand := h.inHand r (by simp [atRisk, honly, hheld, hfailed])
  simp [ZoneLink.inHand, hgivenUp, WorldRuntime.closeQueued, leaveComing, hquiet.strand,
    hquiet.mail] at hinHand

/-- The enter of character 11 has been sent, and waits for the zone. -/
def enterSent : List Event := entersMapOne.take (entersMapOne.length - 2)

/-- The actor of character 11 runs its oldest task. -/
def playerRuns : Event := .actor (.player 11) {}

/-- The enter times out after the zone has handled it.  Its session closes by a
task of the actor, and the leave follows it. -/
def timedOut : List Event :=
  enterSent ++ [.zone 0, .world (.expireStaleZoneRoutes [] [1] []), answered, playerRuns,
    playerRuns, .actor (.zone 1) {}, .zone 0]

theorem noLeak_timedOut : Always (step oneZone) NoLeak {} timedOut :=
  noLeak_run oneZone timedOut (by decide) (by decide)

/-- The client disconnects before the ack, and the grace period runs out. -/
def closedBeforeAck : List Event :=
  enterSent ++ (WorldRuntime.disconnect 1 1 ++ [WorldRuntime.Event.timer 0 false]).map .world ++
    [.zone 0, answered]

/-- Everything has run, no leave was ever posted, and the zone keeps the
player. -/
theorem not_noLeak_closedBeforeAck : ¬ Always (step oneZone) NoLeak {} closedBeforeAck := by
  intro h
  have hend := always_iff_forall_part.mp h _ List.prefix_rfl
  have hquiet : (run (step oneZone) {} closedBeforeAck).Quiet :=
    ⟨⟨by decide, by decide⟩, rfl, by decide, by decide, by decide⟩
  have hkept : (run (step oneZone) {} closedBeforeAck).entersSent.any (fun sent =>
      sent.record.any fun r =>
        (run (step oneZone) {} closedBeforeAck).onlyEnter r &&
          !(run (step oneZone) {} closedBeforeAck).waiting r &&
          !(run (step oneZone) {} closedBeforeAck).succeeded r &&
          (run (step oneZone) {} closedBeforeAck).zone.bound r.enterPending.charId) = true := by
    decide
  obtain ⟨sent, -, hsent⟩ := List.any_eq_true.mp hkept
  cases hr : sent.record with
  | none => simp [hr] at hsent
  | some r =>
      simp only [hr, Option.any_some, Bool.and_eq_true, Bool.not_eq_true'] at hsent
      obtain ⟨⟨⟨honly, hgivenUp⟩, hfailed⟩, hbound⟩ := hsent
      have hnone := (hend hquiet r honly hgivenUp hfailed).1
      simp [ZoneRuntime.bound, hnone] at hbound

end ZoneLink

end GameServer
