import GameServer.World.AssignTables
import GameServer.World.Runtime

/-!
# GameServer.World.AssignFrame

What the handlers of the world process show of the board of map-assign
requests.

`assignView` is the board with the outcomes of portal transfers.  Most
handlers leave it alone: they work on the session registry, on the other
pending tables and on the outputs that no transfer waits for.  One lemma per
handler says so; the handlers that do work on the board are in
`GameServer.World.AssignEffects`.
-/

namespace GameServer

/-- The transfer an output is the outcome of: a call of
`CompletePortalTransfer_` or `FailPendingPortalTransfer_`. -/
def Output.transfer? : Output → Option PendingPortalTransfer
  | .portalCompleted p _ _ _ | .portalDropped p | .portalFailed p => some p
  | _ => none

namespace WorldRuntime

variable {st : WorldRuntime}

/-! ## The view of a state -/

/-- The transfers that had an outcome so far. -/
def transferOutcomes (st : WorldRuntime) : List PendingPortalTransfer :=
  st.out.filterMap Output.transfer?

/-- The board and the outcomes. -/
def assignView (st : WorldRuntime) : AssignTables × List PendingPortalTransfer :=
  (st.flow.assignTables, st.transferOutcomes)

theorem assignView_emit (st : WorldRuntime) (o : Output) :
    (st.emit o).assignView =
      (st.flow.assignTables, st.transferOutcomes ++ o.transfer?.toList) := by
  cases h : o.transfer? <;> simp [assignView, transferOutcomes, emit, h]

/-- Outputs other than the outcomes of transfers do not show. -/
theorem assignView_emit_of_none {o : Output} (h : o.transfer? = none) :
    (st.emit o).assignView = st.assignView := by
  rw [assignView_emit, h]
  simp [assignView]

theorem assignView_foldl {α : Type} {f : WorldRuntime → α → WorldRuntime} {l : List α}
    (h : ∀ st a, (f st a).assignView = st.assignView) (st : WorldRuntime) :
    (l.foldl f st).assignView = st.assignView := by
  induction l generalizing st with
  | nil => rfl
  | cons a l ih => rw [List.foldl_cons, ih, h]

/-! ### Handlers that leave the board alone -/

theorem assignView_failPendingEnterWorldConsumeRequest (st : WorldRuntime)
    (pending : PendingEnterWorldConsumeRequest) (reason : EnterWorldResultCode) :
    (st.failPendingEnterWorldConsumeRequest pending reason).assignView = st.assignView :=
  assignView_emit_of_none rfl

/-- A cleanup is posted and asks for no map. -/
theorem assignView_cleanupClosedWorldSessionActors (st : WorldRuntime)
    (unbind : UnbindAuthedWorldSessionResult) (sid serial : UInt32) :
    (st.cleanupClosedWorldSessionActors unbind sid serial).assignView = st.assignView := by
  unfold cleanupClosedWorldSessionActors
  split
  · rfl
  · exact assignView_emit_of_none rfl

/-- The rollback unbinds and posts; nobody waits for a map any less. -/
theorem assignView_rollbackBoundEnterWorld (st : WorldRuntime)
    (pending : PendingEnterWorldConsumeRequest) (leaveCtx : Option LeaveWorldContext) :
    (st.rollbackBoundEnterWorld pending leaveCtx).assignView = st.assignView := by
  unfold rollbackBoundEnterWorld
  cases leaveCtx with
  | none => exact assignView_cleanupClosedWorldSessionActors _ _ _ _
  | some ctx =>
      unfold beginLeaveWorld
      dsimp only
      split
      · rfl
      · exact assignView_emit_of_none rfl

@[simp] theorem assignView_rollbackAndFail (st : WorldRuntime)
    (pending : PendingEnterWorldConsumeRequest) (reason : EnterWorldResultCode) :
    (st.rollbackAndFail pending reason).assignView = st.assignView := by
  rw [rollbackAndFail, assignView_failPendingEnterWorldConsumeRequest,
    assignView_rollbackBoundEnterWorld]

/-- The end of an enter comes after its wait for a map. -/
@[simp] theorem assignView_finalizeEnterWorldSuccess (st : WorldRuntime)
    (pending : PendingEnterWorldConsumeRequest) (zoneId : UInt16)
    (mapTemplateId instanceId : UInt32) (coreState : CharacterCoreState) (sendOk : Bool) :
    (st.finalizeEnterWorldSuccess pending zoneId mapTemplateId instanceId coreState
      sendOk).assignView = st.assignView := by
  unfold finalizeEnterWorldSuccess
  dsimp only
  split
  · rfl
  · rw [assignView_rollbackAndFail]
    rfl

/-- The entries are dropped before they are failed. -/
theorem assignView_failFinalizeList (st : WorldRuntime) (list : List PendingEnterWorldFinalize)
    (reason : EnterWorldResultCode) :
    (st.failFinalizeList list reason).assignView = st.assignView := by
  refine assignView_foldl (fun st e => ?_) st
  dsimp only
  split
  · exact assignView_rollbackAndFail _ _ _
  · rfl

/-- Those enters wait for a zone and have their map. -/
theorem assignView_failZonePlayerEnters (st : WorldRuntime)
    (dropped : PendingZonePlayerEnterRequest → Bool) (reason : EnterWorldResultCode) :
    (st.failZonePlayerEnters dropped reason).assignView = st.assignView := by
  refine assignView_foldl (fun st e => ?_) st
  dsimp only
  split
  · rw [assignView_rollbackAndFail]
    rfl
  · rfl

/-- Completing an enter works on its session and actor. -/
theorem assignView_completeEnterWorldSuccessAfterZoneAck (st : WorldRuntime)
    (enter : PendingZonePlayerEnterRequest) (notified : Bool) (bytes : Vector UInt8 32) :
    (st.completeEnterWorldSuccessAfterZoneAck enter notified bytes).assignView =
      st.assignView := by
  unfold completeEnterWorldSuccessAfterZoneAck
  extract_lets pending promoted st₁ st₂ st₃ leaveCtx st₄
  split
  · rfl
  have hposted : st₂.assignView = st.assignView := assignView_emit_of_none rfl
  have hcached : st₃.assignView = st.assignView := by
    rw [← hposted]
    unfold st₃
    split
    · exact assignView_emit_of_none rfl
    · rfl
  split
  · rw [assignView_failPendingEnterWorldConsumeRequest, assignView_rollbackBoundEnterWorld,
      hcached]
  · rw [assignView_emit_of_none rfl, ← hcached]
    rfl

/-- The acknowledgement of a zone asks for no map. -/
theorem assignView_onZonePlayerEnterAck (st : WorldRuntime) (sid serial : UInt32)
    (ack : ZonePlayerEnterAck) (notified : Bool) (bytes : Vector UInt8 32) :
    (st.onZonePlayerEnterAck sid serial ack notified bytes).assignView = st.assignView := by
  unfold onZonePlayerEnterAck
  split
  · rfl
  dsimp only
  split_ifs
  · rfl
  · rfl
  · rw [assignView_rollbackAndFail]
    rfl
  · rw [assignView_rollbackAndFail]
    rfl
  · rw [assignView_completeEnterWorldSuccessAfterZoneAck]
    rfl

theorem assignView_requestCharacterEnterSnapshotLoad (st : WorldRuntime)
    (pending : PendingEnterWorldConsumeRequest) (pushed : Bool) :
    (st.requestCharacterEnterSnapshotLoad pending pushed).2.assignView = st.assignView := by
  cases pushed <;> rfl

/-- Nor does a ticket answer, which only starts the load. -/
theorem assignView_onWorldAuthTicketConsumeResponse (st : WorldRuntime)
    (res : TicketConsumeResponse) (pushed : Bool) :
    (st.onWorldAuthTicketConsumeResponse res pushed).assignView = st.assignView := by
  unfold onWorldAuthTicketConsumeResponse
  split
  · rfl
  next pending _ =>
    dsimp only
    generalize (if pending.charId = 0 then res.charId else pending.charId) = charId
    have hrequested (st' : WorldRuntime) (hst : st'.assignView = st.assignView) :
        (st'.requestCharacterEnterSnapshotLoad { pending with charId } pushed).2.assignView =
          st.assignView := by
      rw [assignView_requestCharacterEnterSnapshotLoad, hst]
    split
    · exact assignView_emit_of_none rfl
    split
    · exact assignView_emit_of_none rfl
    split
    · exact hrequested _ rfl
    · rw [assignView_emit_of_none rfl]
      exact hrequested _ rfl

/-- Queuing a kick asks for no map. -/
theorem assignView_enqueueDuplicateAuthedSessionCloseIfNeeded (st : WorldRuntime)
    (victim : WorldAuthedSession) (accountId charId : UInt64) (newSid newSerial : UInt32) :
    (st.enqueueDuplicateAuthedSessionCloseIfNeeded victim accountId charId newSid
      newSerial).assignView = st.assignView := by
  unfold enqueueDuplicateAuthedSessionCloseIfNeeded
  split
  · rfl
  split
  · rfl
  dsimp only
  split_ifs <;> rfl

/-- Nor does a bind. -/
theorem assignView_bindAuthenticatedWorldSessionForLogin (st : WorldRuntime)
    (accountId charId : UInt64) (sid serial : UInt32) (bytes : Vector UInt8 32) :
    (st.bindAuthenticatedWorldSessionForLogin accountId charId sid serial bytes).2.assignView =
      st.assignView := by
  unfold bindAuthenticatedWorldSessionForLogin
  extract_lets bound result st₁ st₂ same st₃
  have hchar : st₂.assignView = st.assignView := by
    unfold st₂
    split
    · exact assignView_enqueueDuplicateAuthedSessionCloseIfNeeded _ _ _ _ _ _
    · rfl
  rw [← hchar]
  unfold st₃
  dsimp only
  split
  · exact assignView_enqueueDuplicateAuthedSessionCloseIfNeeded _ _ _ _ _ _
  · rfl

theorem assignView_processWorldSessionClosedOnIo (st : WorldRuntime) (sid serial : UInt32) :
    (st.processWorldSessionClosedOnIo sid serial).assignView = st.assignView := by
  unfold processWorldSessionClosedOnIo
  split
  · rfl
  · exact assignView_cleanupClosedWorldSessionActors _ _ _ _

/-- Nor does a close task, armed or run at once. -/
theorem assignView_runCloseTask (st : WorldRuntime) (sid serial : UInt32) (closeCharId : UInt64)
    (closeReason : WorldSessionCloseReason) :
    (st.runCloseTask sid serial closeCharId closeReason).assignView = st.assignView := by
  unfold runCloseTask
  dsimp only
  split_ifs
  · rfl
  · exact assignView_processWorldSessionClosedOnIo _ _ _
  · exact assignView_processWorldSessionClosedOnIo _ _ _

/-- A client packet leaves the board alone. -/
theorem assignView_handlePacket (st : WorldRuntime) (sid serial : UInt32) (p : ClientPacket)
    (ready sent : Bool) :
    (st.handlePacket sid serial p ready sent).assignView = st.assignView := by
  unfold handlePacket
  extract_lets st₁ serial'
  have hserial : st₁.assignView = st.assignView := rfl
  rw [← hserial]
  cases p with
  | enterWorldWithToken accountId loginSession worldToken =>
      simp only [handleEnterWorldWithToken, requestConsumeWorldAuthTicket]
      split_ifs
      all_goals first
        | rfl
        | exact assignView_emit_of_none rfl
  | logoutWorld logoutType =>
      simp only [handleLogoutWorld]
      split
      · rfl
      · split <;> rfl
  | reconnectWorld accountId charId token =>
      simp only [handleReconnectWorld]
      split_ifs
      · rfl
      · rfl
      · exact assignView_emit_of_none rfl
  | gameplay op =>
      simp only [handleGameplay]
      split <;> exact assignView_emit_of_none rfl

end WorldRuntime

end GameServer
