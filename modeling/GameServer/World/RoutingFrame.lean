import GameServer.World.AssignEffects

/-!
# GameServer.World.RoutingFrame

What the handlers of the world process show of its routing tables.

`routing` is the zone routes with the map assignments.  Five events work on
them: a zone registers, sends a heartbeat, is lost, or accepts a map, and a
rehash.  `standing` has the counters of the generated instance ids as well,
which only a portal transfer moves.  One lemma per handler says that everything
else leaves them alone; `routing_loseZoneRoute` and
`routing_onZoneMapAssignResponse` say what the two longer handlers do.
-/

namespace GameServer

/-- The zone routes and the map assignments. -/
def EnterFlow.routing (f : EnterFlow) : List ZoneRouteState × Table UInt64 MapAssignmentEntry :=
  (f.zoneRoutes, f.mapAssignments)

/-- The routing tables and the counters of the generated instance ids: what no
answer that is pending is kept in. -/
def EnterFlow.standing (f : EnterFlow) :
    (List ZoneRouteState × Table UInt64 MapAssignmentEntry) × (UInt32 → UInt32) :=
  (f.routing, f.nextDynamicInstanceIdByMap)

namespace EnterFlow

variable {f : EnterFlow}

theorem standing_dropZoneAssign (f : EnterFlow) (requestId : UInt64) :
    (f.dropZoneAssign requestId).standing = f.standing := by
  unfold dropZoneAssign
  split <;> rfl

/-- Erasing waiting enters changes no route. -/
theorem standing_erasePendingEnterWorldFinalizeBySession (f : EnterFlow) (sid serial : UInt32) :
    (f.erasePendingEnterWorldFinalizeBySession sid serial).standing = f.standing := by
  have hfold : ∀ (ids : List UInt64) (f : EnterFlow),
      (ids.foldl dropZoneAssign f).standing = f.standing := by
    intro ids
    induction ids with
    | nil => exact fun _ => rfl
    | cons id ids ih => exact fun f => (ih _).trans (standing_dropZoneAssign f id)
  unfold erasePendingEnterWorldFinalizeBySession
  split
  · exact hfold _ f
  · rfl

/-- Choosing an instance draws its id and assigns nothing. -/
theorem routing_resolvePortalTargetInstanceId (f : EnterFlow)
    (mapTemplateId requestedInstanceId : UInt32) :
    (f.resolvePortalTargetInstanceId mapTemplateId requestedInstanceId).2.routing = f.routing := by
  unfold resolvePortalTargetInstanceId
  split
  · rfl
  split <;> rfl

/-- An assign request is recorded; the assignment itself waits for the answer. -/
theorem standing_assignMapInstance (f : EnterFlow) (topology : Option ServerTopology)
    (mapTemplateId instanceId : UInt32) (dungeonInstance sendOk : Bool) :
    (f.assignMapInstance topology mapTemplateId instanceId dungeonInstance sendOk).2.standing =
      f.standing := by
  unfold assignMapInstance
  dsimp only
  repeat' split
  all_goals rfl

end EnterFlow

namespace WorldRuntime

variable {st : WorldRuntime}

/-- The routing tables of the process. -/
def routing (st : WorldRuntime) : List ZoneRouteState × Table UInt64 MapAssignmentEntry :=
  st.flow.routing

/-- The routing tables and the instance counters of the process. -/
def standing (st : WorldRuntime) :
    (List ZoneRouteState × Table UInt64 MapAssignmentEntry) × (UInt32 → UInt32) :=
  st.flow.standing

theorem standing_foldl {α : Type} {f : WorldRuntime → α → WorldRuntime} {l : List α}
    (h : ∀ st a, (f st a).standing = st.standing) (st : WorldRuntime) :
    (l.foldl f st).standing = st.standing := by
  induction l generalizing st with
  | nil => rfl
  | cons a l ih => rw [List.foldl_cons, ih, h]

/-! ## Handlers that leave the tables alone -/

theorem standing_cleanupClosedWorldSessionActors (st : WorldRuntime)
    (unbind : UnbindAuthedWorldSessionResult) (sid serial : UInt32) :
    (st.cleanupClosedWorldSessionActors unbind sid serial).standing = st.standing := by
  unfold cleanupClosedWorldSessionActors
  split <;> rfl

/-- The rollback works on sessions and actors. -/
theorem standing_rollbackBoundEnterWorld (st : WorldRuntime)
    (pending : PendingEnterWorldConsumeRequest) (leaveCtx : Option LeaveWorldContext) :
    (st.rollbackBoundEnterWorld pending leaveCtx).standing = st.standing := by
  unfold rollbackBoundEnterWorld
  cases leaveCtx with
  | none => exact standing_cleanupClosedWorldSessionActors _ _ _ _
  | some ctx =>
      unfold beginLeaveWorld
      dsimp only
      split <;> rfl

theorem standing_rollbackAndFail (st : WorldRuntime) (pending : PendingEnterWorldConsumeRequest)
    (reason : EnterWorldResultCode) :
    (st.rollbackAndFail pending reason).standing = st.standing :=
  standing_rollbackBoundEnterWorld st pending none

/-- The zone server is asked to take the player in over a route that stays. -/
theorem standing_finalizeEnterWorldSuccess (st : WorldRuntime)
    (pending : PendingEnterWorldConsumeRequest) (zoneId : UInt16)
    (mapTemplateId instanceId : UInt32) (coreState : CharacterCoreState) (sendOk : Bool) :
    (st.finalizeEnterWorldSuccess pending zoneId mapTemplateId instanceId coreState
      sendOk).standing = st.standing := by
  unfold finalizeEnterWorldSuccess
  dsimp only
  split
  · rfl
  · exact standing_rollbackAndFail _ _ _

/-- Failing waiting enters changes no route: induction on the list. -/
theorem standing_failFinalizeList (st : WorldRuntime) (list : List PendingEnterWorldFinalize)
    (reason : EnterWorldResultCode) :
    (st.failFinalizeList list reason).standing = st.standing := by
  refine standing_foldl (fun st e => ?_) st
  dsimp only
  split
  · exact standing_rollbackAndFail _ _ _
  · rfl

/-- Failing zone enters changes no route. -/
theorem standing_failZonePlayerEnters (st : WorldRuntime)
    (dropped : PendingZonePlayerEnterRequest → Bool) (reason : EnterWorldResultCode) :
    (st.failZonePlayerEnters dropped reason).standing = st.standing := by
  refine standing_foldl (fun st e => ?_) st
  dsimp only
  split
  · exact standing_rollbackAndFail _ _ _
  · rfl

/-- The portal transfer of a request that failed, if one waits for it. -/
theorem standing_portalElim (st : WorldRuntime) (portal : Option PendingPortalTransfer) :
    (portal.elim st st.failPendingPortalTransfer).standing = st.standing := by
  cases portal <;> rfl

theorem standing_failPendingZoneAssignRequestsByZoneSid (st : WorldRuntime) (sid : UInt32) :
    (st.failPendingZoneAssignRequestsByZoneSid sid).standing = st.standing := by
  refine standing_foldl (fun st assign => ?_) st
  dsimp only
  exact (standing_portalElim _ _).trans (standing_failFinalizeList _ _ _)

/-- Completing an enter works on the session and its actor. -/
theorem standing_completeEnterWorldSuccessAfterZoneAck (st : WorldRuntime)
    (enter : PendingZonePlayerEnterRequest) (notified : Bool) (bytes : Vector UInt8 32) :
    (st.completeEnterWorldSuccessAfterZoneAck enter notified bytes).standing = st.standing := by
  unfold completeEnterWorldSuccessAfterZoneAck
  extract_lets pending promoted st₁ st₂ st₃ leaveCtx st₄
  split
  · rfl
  have hcached : st₃.standing = st.standing := by
    unfold st₃
    split <;> rfl
  split
  · exact (standing_rollbackBoundEnterWorld _ _ _).trans hcached
  · exact hcached

/-- The acknowledgement of an enter says nothing about routes. -/
theorem standing_onZonePlayerEnterAck (st : WorldRuntime) (sid serial : UInt32)
    (ack : ZonePlayerEnterAck) (notified : Bool) (bytes : Vector UInt8 32) :
    (st.onZonePlayerEnterAck sid serial ack notified bytes).standing = st.standing := by
  unfold onZonePlayerEnterAck
  split
  · rfl
  dsimp only
  split_ifs
  · rfl
  · rfl
  · exact standing_rollbackAndFail _ _ _
  · exact standing_rollbackAndFail _ _ _
  · exact standing_completeEnterWorldSuccessAfterZoneAck _ _ _ _

/-- The ticket answer is about an account. -/
theorem standing_onWorldAuthTicketConsumeResponse (st : WorldRuntime)
    (res : TicketConsumeResponse) (pushed : Bool) :
    (st.onWorldAuthTicketConsumeResponse res pushed).standing = st.standing := by
  unfold onWorldAuthTicketConsumeResponse
  split
  · rfl
  dsimp only
  cases pushed <;> split_ifs <;> rfl

/-- Arming a close is about a session. -/
theorem standing_enqueueDuplicateAuthedSessionCloseIfNeeded (st : WorldRuntime)
    (victim : WorldAuthedSession) (accountId charId : UInt64) (newSid newSerial : UInt32) :
    (st.enqueueDuplicateAuthedSessionCloseIfNeeded victim accountId charId newSid
      newSerial).standing = st.standing := by
  unfold enqueueDuplicateAuthedSessionCloseIfNeeded
  split
  · rfl
  split
  · rfl
  dsimp only
  split_ifs <;> rfl

/-- The bind is about a session. -/
theorem standing_bindAuthenticatedWorldSessionForLogin (st : WorldRuntime)
    (accountId charId : UInt64) (sid serial : UInt32) (bytes : Vector UInt8 32) :
    (st.bindAuthenticatedWorldSessionForLogin accountId charId sid serial bytes).2.standing =
      st.standing := by
  unfold bindAuthenticatedWorldSessionForLogin
  extract_lets bound result st₁ st₂ same st₃
  have hchar : st₂.standing = st.standing := by
    unfold st₂
    split
    · exact standing_enqueueDuplicateAuthedSessionCloseIfNeeded _ _ _ _ _ _
    · rfl
  rw [← hchar]
  unfold st₃
  dsimp only
  split
  · exact standing_enqueueDuplicateAuthedSessionCloseIfNeeded _ _ _ _ _ _
  · rfl

/-- The enter asks for a map and leaves the routes standing. -/
theorem standing_assignAfterBind (st : WorldRuntime) (topology : Option ServerTopology)
    (pending : PendingEnterWorldConsumeRequest) (loaded : CharacterCoreState)
    (answers : EnterAnswers) :
    (st.assignAfterBind topology pending loaded answers).standing = st.standing := by
  unfold assignAfterBind
  extract_lets coreState mapTemplateId assigned st₁
  have hassigned : st₁.standing = st.standing := EnterFlow.standing_assignMapInstance _ _ _ _ _ _
  rw [← hassigned]
  split
  · exact standing_finalizeEnterWorldSuccess _ _ _ _ _ _ _
  · rfl
  · exact standing_rollbackAndFail _ _ _

/-- The snapshot result binds and asks for a map. -/
theorem standing_onCharacterEnterSnapshotResult (st : WorldRuntime)
    (topology : Option ServerTopology) (rr : SnapshotResult) (answers : EnterAnswers) :
    (st.onCharacterEnterSnapshotResult topology rr answers).standing = st.standing := by
  unfold onCharacterEnterSnapshotResult
  split
  · rfl
  dsimp only
  split_ifs
  · rfl
  · rfl
  · exact standing_bindAuthenticatedWorldSessionForLogin _ _ _ _ _ _
  · exact (standing_assignAfterBind _ _ _ _ _).trans
      (standing_bindAuthenticatedWorldSessionForLogin _ _ _ _ _ _)

/-- The end of a portal transfer moves one player. -/
theorem standing_completePortalTransfer (st : WorldRuntime) (pending : PendingPortalTransfer)
    (assignedZoneId : UInt16) (mapTemplateId instanceId : UInt32) :
    (st.completePortalTransfer pending assignedZoneId mapTemplateId instanceId).standing =
      st.standing := by
  unfold completePortalTransfer
  split
  · rfl
  split <;> rfl

/-- A portal transfer counts the instance it asks for and assigns nothing yet. -/
theorem routing_beginPortalTransfer (st : WorldRuntime) (topology : Option ServerTopology)
    (request : PendingPortalTransfer) (assignSendOk : Bool) :
    (st.beginPortalTransfer topology request assignSendOk).routing = st.routing := by
  unfold beginPortalTransfer
  extract_lets resolved assigned st₁
  have hassigned : st₁.routing = st.routing :=
    (congrArg Prod.fst (EnterFlow.standing_assignMapInstance _ _ _ _ _ _)).trans
      (EnterFlow.routing_resolvePortalTargetInstanceId _ _ _)
  rw [← hassigned]
  split
  · rfl
  · split
    · rfl
    · exact congrArg Prod.fst (standing_completePortalTransfer _ _ _ _ _)
  · rfl

/-- The abort takes back assign requests, which are no assignments yet. -/
theorem standing_abortEnterWorldFlowBySession (st : WorldRuntime) (sid serial : UInt32) :
    (st.abortEnterWorldFlowBySession sid serial).standing = st.standing := by
  have hfilters : ∀ f : EnterFlow,
      (f.erasePendingCharacterEnterSnapshotRequestsBySession sid serial
        |>.erasePendingZonePlayerEnterRequestsBySession sid serial).standing = f.standing := by
    intro f
    unfold EnterFlow.erasePendingCharacterEnterSnapshotRequestsBySession
      EnterFlow.erasePendingZonePlayerEnterRequestsBySession
    split_ifs <;> rfl
  have hconsume : (st.flow.erasePendingEnterWorldConsumeRequestsBySession sid serial).standing =
      st.flow.standing := by
    unfold EnterFlow.erasePendingEnterWorldConsumeRequestsBySession
    split <;> rfl
  unfold abortEnterWorldFlowBySession
  split
  · rfl
  · exact (hfilters _).trans
      ((EnterFlow.standing_erasePendingEnterWorldFinalizeBySession _ _ _).trans hconsume)

theorem standing_processWorldSessionClosedOnIo (st : WorldRuntime) (sid serial : UInt32) :
    (st.processWorldSessionClosedOnIo sid serial).standing = st.standing := by
  unfold processWorldSessionClosedOnIo
  split
  · rfl
  · exact standing_cleanupClosedWorldSessionActors _ _ _ _

/-- The tasks of the strand close sessions. -/
theorem standing_runStrandTask (st : WorldRuntime) (task : StrandTask) :
    (st.runStrandTask task).standing = st.standing := by
  cases task with
  | close sid serial closeCharId closeReason =>
      simp only [runStrandTask, runCloseTask]
      split_ifs
      · rfl
      · exact standing_processWorldSessionClosedOnIo _ _ _
      · exact standing_processWorldSessionClosedOnIo _ _ _
  | kick ctx =>
      simp only [runStrandTask, processDuplicateWorldSessionKickOnIo]
      split_ifs
      · rfl
      all_goals exact standing_abortEnterWorldFlowBySession _ _ _

/-- No packet of a client changes a route. -/
theorem standing_handlePacket (st : WorldRuntime) (sid serial : UInt32) (p : ClientPacket)
    (ready sent : Bool) : (st.handlePacket sid serial p ready sent).standing = st.standing := by
  unfold handlePacket
  extract_lets st₁ serial'
  have hserial : st₁.standing = st.standing := rfl
  rw [← hserial]
  cases p with
  | enterWorldWithToken accountId loginSession worldToken =>
      simp only [handleEnterWorldWithToken, requestConsumeWorldAuthTicket]
      split_ifs <;> rfl
  | logoutWorld logoutType =>
      simp only [handleLogoutWorld]
      split
      · rfl
      · split <;> rfl
  | reconnectWorld accountId charId token =>
      simp only [handleReconnectWorld]
      split_ifs <;> rfl
  | gameplay op =>
      simp only [handleGameplay]
      split <;> rfl

/-- Nor does any other network task. -/
theorem standing_runNetTask (st : WorldRuntime) (task : NetTask) (ready sent : Bool) :
    (st.runNetTask task ready sent).standing = st.standing := by
  cases task with
  | connected sid serial => rfl
  | packet sid serial p => exact standing_handlePacket st sid serial p ready sent
  | disconnected sid serial =>
      simp only [runNetTask, handleDisconnected, handleWorldSessionClosed]
      split
      · exact standing_abortEnterWorldFlowBySession _ _ _
      · rfl

/-! ## Handlers that work on the tables -/

/-- A lost zone takes the assignments of its server id along. -/
theorem standing_loseZoneRoute (st : WorldRuntime) (sid : UInt32) :
    (st.loseZoneRoute sid).standing =
      ((st.flow.zoneRoutes.filter (·.sid ≠ sid),
        (st.flow.removeMapAssignmentsByZoneSid sid).mapAssignments),
        st.flow.nextDynamicInstanceIdByMap) := by
  unfold loseZoneRoute
  extract_lets st₁ st₂ st₃
  have hfailed : st₃.standing = st₁.standing :=
    (standing_failZonePlayerEnters _ _ _).trans
      (standing_failPendingZoneAssignRequestsByZoneSid _ _)
  have hremoved : (st.flow.removeMapAssignmentsByZoneSid sid).zoneRoutes = st.flow.zoneRoutes ∧
      (st.flow.removeMapAssignmentsByZoneSid sid).nextDynamicInstanceIdByMap =
        st.flow.nextDynamicInstanceIdByMap := by
    unfold EnterFlow.removeMapAssignmentsByZoneSid
    split <;> exact ⟨rfl, rfl⟩
  have hroutes : st₃.flow.zoneRoutes = st.flow.zoneRoutes :=
    (congrArg (·.1.1) hfailed).trans hremoved.1
  refine Prod.ext (Prod.ext ?_ (congrArg (·.1.2) hfailed)) ?_
  · change st₃.flow.zoneRoutes.filter _ = _
    rw [hroutes]
  · exact (congrArg (·.2) hfailed).trans hremoved.2

theorem routing_loseZoneRoute (st : WorldRuntime) (sid : UInt32) :
    (st.loseZoneRoute sid).routing =
      (st.flow.zoneRoutes.filter (·.sid ≠ sid),
        (st.flow.removeMapAssignmentsByZoneSid sid).mapAssignments) :=
  congrArg Prod.fst (standing_loseZoneRoute st sid)

/-- The request that a response answers with the map it was for. -/
def acceptedAssign (st : WorldRuntime) (sid serial : UInt32) (res : ZoneMapAssignResponse) :
    Option PendingZoneAssignRequest :=
  (st.flow.pendingZoneAssign.find? (·.requestId == res.requestId)).filter fun a =>
    a.targetSid == sid && a.targetSerial == serial && a.mapTemplateId == res.mapTemplateId &&
      a.instanceId == res.instanceId && res.resultCode == .ok

/-- The entry an accepted map gets. -/
def assignedEntry (assign : PendingZoneAssignRequest) (res : ZoneMapAssignResponse) :
    MapAssignmentEntry where
  zoneServerId := assign.targetZoneServerId
  zoneId := res.zoneId
  channelId := assign.targetChannelId
  mapTemplateId := res.mapTemplateId
  instanceId := res.instanceId

/-- A response enters the map of its request, if it accepts it. -/
theorem standing_onZoneMapAssignResponse (st : WorldRuntime) (sid serial : UInt32)
    (res : ZoneMapAssignResponse) (sendOk : UInt64 → Bool) :
    (st.onZoneMapAssignResponse sid serial res sendOk).standing =
      ((st.flow.zoneRoutes,
        match st.acceptedAssign sid serial res with
        | none => st.flow.mapAssignments
        | some assign =>
            st.flow.mapAssignments.set
              (EnterFlow.makeMapAssignmentKey res.mapTemplateId res.instanceId)
              (assignedEntry assign res)),
        st.flow.nextDynamicInstanceIdByMap) := by
  unfold onZoneMapAssignResponse acceptedAssign
  split
  next hfind =>
    rw [hfind]
    rfl
  next assign hfind =>
    rw [hfind]
    dsimp only
    split_ifs with htarget hmap hcode
    · rw [Option.filter_some_neg (by simp; tauto)]
      rfl
    · rw [Option.filter_some_neg (by simp; tauto)]
      refine (standing_portalElim _ _).trans ?_
      exact standing_foldl (fun st e => standing_rollbackAndFail _ _ _) _
    · rw [Option.filter_some_neg (by simp; tauto)]
      exact (standing_portalElim _ _).trans (standing_failFinalizeList _ _ _)
    · rw [Option.filter_some_pos (by simp; tauto)]
      have hportal (st' : WorldRuntime) (portal : Option PendingPortalTransfer) :
          (portal.elim st' fun p => st'.completePortalTransfer p res.zoneId res.mapTemplateId
            res.instanceId).standing = st'.standing := by
        cases portal with
        | none => rfl
        | some p => exact standing_completePortalTransfer _ _ _ _ _
      refine (hportal _ _).trans ((standing_foldl (fun st e => ?_) _).trans rfl)
      split
      · exact standing_finalizeEnterWorldSuccess _ _ _ _ _ _ _
      · rfl

/-- A map answer stores one assignment, when it matches a pending request. -/
theorem routing_onZoneMapAssignResponse (st : WorldRuntime) (sid serial : UInt32)
    (res : ZoneMapAssignResponse) (sendOk : UInt64 → Bool) :
    (st.onZoneMapAssignResponse sid serial res sendOk).routing =
      (st.flow.zoneRoutes,
        match st.acceptedAssign sid serial res with
        | none => st.flow.mapAssignments
        | some assign =>
            st.flow.mapAssignments.set
              (EnterFlow.makeMapAssignmentKey res.mapTemplateId res.instanceId)
              (assignedEntry assign res)) :=
  congrArg Prod.fst (standing_onZoneMapAssignResponse st sid serial res sendOk)

/-- Only the routes that are lost matter to the tables. -/
theorem standing_expireStaleZoneRoutes (st : WorldRuntime) (sids : List UInt32)
    (enters portals : List UInt64) :
    (st.expireStaleZoneRoutes sids enters portals).standing =
      ((st.flow.zoneRoutes.filter fun r => sids.contains r.sid).foldl
        (fun st r => st.loseZoneRoute r.sid) st).standing := by
  unfold expireStaleZoneRoutes
  refine (standing_foldl (fun st p => ?_) _).trans (standing_failZonePlayerEnters _ _ _)
  rfl

theorem routing_expireStaleZoneRoutes (st : WorldRuntime) (sids : List UInt32)
    (enters portals : List UInt64) :
    (st.expireStaleZoneRoutes sids enters portals).routing =
      ((st.flow.zoneRoutes.filter fun r => sids.contains r.sid).foldl
        (fun st r => st.loseZoneRoute r.sid) st).routing :=
  congrArg Prod.fst (standing_expireStaleZoneRoutes st sids enters portals)

/-- The events that work on the tables. -/
def Event.touchesRouting : Event → Bool
  | .registerZoneRoute _ | .zoneRouteHeartbeat _ | .unregisterZoneRoute ..
  | .expireStaleZoneRoutes .. | .zoneMapAssignResponse .. | .rehash .. => true
  | _ => false

/-- The events that work on the counters. -/
def Event.isTransfer : Event → Bool
  | .beginPortalTransfer .. => true
  | _ => false

/-- All other events leave both alone. -/
theorem standing_step (topology : Option ServerTopology) (st : WorldRuntime) {e : Event}
    (he : e.touchesRouting = false) (htransfer : e.isTransfer = false) :
    (step topology st e).standing = st.standing := by
  cases e with
  | registerZoneRoute hello => cases he
  | zoneRouteHeartbeat beat => cases he
  | zoneMapAssignResponse sid serial res sendOk => cases he
  | unregisterZoneRoute sid serial => cases he
  | expireStaleZoneRoutes routes enters portals => cases he
  | rehash routes assigns enters => cases he
  | beginPortalTransfer request sendOk => cases htransfer
  | accept => rfl
  | receive sid serial p =>
      simp only [step]
      split <;> rfl
  | terminate sid serial =>
      simp only [step]
      split <;> rfl
  | netTask task ready sent =>
      simp only [step]
      split
      · exact standing_runNetTask _ _ _ _
      · rfl
  | strand =>
      simp only [step]
      split
      · rfl
      · exact standing_runStrandTask _ _
  | timer id aborted =>
      simp only [step, onDelayedCloseTimer]
      split
      · rfl
      · split_ifs <;> rfl
  | ticketConsumeResponse res pushed => exact standing_onWorldAuthTicketConsumeResponse _ _ _
  | snapshotResult rr answers => exact standing_onCharacterEnterSnapshotResult _ _ _ _
  | zonePlayerEnterAck sid serial ack notified bytes =>
      exact standing_onZonePlayerEnterAck _ _ _ _ _ _

/-- A transfer leaves the routing tables alone as well. -/
theorem routing_step (topology : Option ServerTopology) (st : WorldRuntime) {e : Event}
    (he : e.touchesRouting = false) : (step topology st e).routing = st.routing := by
  cases htransfer : e.isTransfer with
  | false => exact congrArg Prod.fst (standing_step topology st he htransfer)
  | true =>
      cases e with
      | beginPortalTransfer request sendOk => exact routing_beginPortalTransfer _ _ _ _
      | _ => cases htransfer

end WorldRuntime

end GameServer
