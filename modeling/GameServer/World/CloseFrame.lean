import GameServer.World.HandlerEffects

/-!
# GameServer.World.CloseFrame

The close of a connection on its way through the process, and the handlers
that have nothing to do with it.

A connection that ends leaves one thing after the other behind: the task of
its disconnect callback, the close on the strand, and the grace timer.
`closing` is where all of them are kept.  Five events work on it; every other
handler leaves it alone, and posts the cleanup of no connection but those of
the pending records it rolls back.

* `Beside B` — a handler of this kind, for records of connections in `B`;
* `beside_handlePacket`, `beside_kick` — packets and kicks are;
* `runCloseTask_cases` — a close on the strand arms its timer or ends the
  session;
* `closeStep_step` — what an event can do to the closes.
-/

namespace GameServer

/-- The strand task is the close of a connection. -/
def StrandTask.isClose : StrandTask → Bool
  | .close .. => true
  | .kick _ => false

/-- The task of a disconnect callback. -/
def NetTask.isDisconnected : NetTask → Bool
  | .disconnected .. => true
  | _ => false

/-- A wait without what a release or a reconnect marks on it. -/
def CloseTimer.wait (t : CloseTimer) : CloseTimer :=
  { t with cancelled := false, takenOver := false }

/-- Which connections the slots hold, and the serials handed out last. -/
def TcpServer.serials (t : TcpServer) : (UInt32 → Option UInt32) × (UInt32 → UInt32) :=
  (fun idx => (t.slots idx).map TcpSession.serial, t.slotSerials)

theorem TcpServer.serials_close (t : TcpServer) (index serial : UInt32) :
    (t.close index serial).serials = t.serials := by
  simp only [serials, serial_close, slotSerials_close]

/-- The grace timers of a list of waits. -/
def graceWaits (timers : List CloseTimer) : List CloseTimer :=
  (timers.filter (·.origin == .grace)).map CloseTimer.wait

/-- Marking waits adds and drops none. -/
theorem graceWaits_mark (timers : List CloseTimer) {mark : CloseTimer → CloseTimer}
    (h : ∀ t, (mark t).wait = t.wait) : graceWaits (timers.map mark) = graceWaits timers := by
  have horigin : ∀ t, (mark t).origin = t.origin := fun t => by
    simpa [CloseTimer.wait] using congrArg CloseTimer.origin (h t)
  unfold graceWaits
  rw [List.filter_map, List.map_map]
  have hfilter : ((fun t : CloseTimer => t.origin == .grace) ∘ mark) =
      fun t => t.origin == .grace := by
    funext t
    simp [horigin]
  rw [hfilter]
  exact List.map_congr_left fun t _ => h t

/-- Releasing a reservation drops its timer before it waits; no waiting timer changes. -/
theorem DelayedCloses.graceWaits_release (d : DelayedCloses) (sid serial : UInt32) :
    graceWaits (d.releaseDelayedWorldCloseReservation sid serial).2.timers =
      graceWaits d.timers := by
  unfold releaseDelayedWorldCloseReservation
  split
  · split
    · rfl
    · refine graceWaits_mark _ fun t => ?_
      split <;> rfl
  · rfl

theorem DelayedCloses.graceWaits_markTakenOver (d : DelayedCloses) (sid serial : UInt32) :
    graceWaits (d.markTakenOver sid serial).timers = graceWaits d.timers := by
  refine graceWaits_mark _ fun t => ?_
  split <;> rfl

theorem DelayedCloses.timers_tryReserve (d : DelayedCloses) (sid serial : UInt32) :
    (d.tryReserveDelayedWorldClose sid serial).2.timers = d.timers := by
  unfold tryReserveDelayedWorldClose
  split
  · split <;> rfl
  · rfl

theorem DelayedCloses.nextTimer_tryReserve (d : DelayedCloses) (sid serial : UInt32) :
    (d.tryReserveDelayedWorldClose sid serial).2.nextTimer = d.nextTimer := by
  unfold tryReserveDelayedWorldClose
  split
  · split <;> rfl
  · rfl

/-- An arming that succeeds adds its wait. -/
theorem DelayedCloses.timers_arm {d : DelayedCloses} {sid serial : UInt32}
    {origin : CloseTimerOrigin} {traceId charId : UInt64} {reason : WorldSessionCloseReason}
    {session : Option WorldAuthedSession} {outputs : Nat}
    (h : (d.armReservedDelayedWorldClose sid serial origin traceId charId reason session
      outputs).1 = true) :
    isValidSessionKey sid serial = true ∧
      (d.armReservedDelayedWorldClose sid serial origin traceId charId reason session
          outputs).2.timers =
        d.timers ++ [{ id := d.nextTimer, sid, serial, origin, session, outputs }] := by
  unfold armReservedDelayedWorldClose at h ⊢
  split at h
  case isFalse => cases h
  case isTrue hvalid =>
    split at h
    · cases h
    case h_2 entry hentry =>
      split at h
      · cases h
      case isFalse hfree => exact ⟨hvalid, by simp [hvalid, hfree]⟩

/-- An arming that fails does nothing. -/
theorem DelayedCloses.arm_eq_self {d : DelayedCloses} {sid serial : UInt32}
    {origin : CloseTimerOrigin} {traceId charId : UInt64} {reason : WorldSessionCloseReason}
    {session : Option WorldAuthedSession} {outputs : Nat}
    (h : (d.armReservedDelayedWorldClose sid serial origin traceId charId reason session
      outputs).1 = false) :
    (d.armReservedDelayedWorldClose sid serial origin traceId charId reason session outputs).2 =
      d := by
  revert h
  unfold armReservedDelayedWorldClose
  split
  · split
    · exact fun _ => rfl
    · split
      · exact fun _ => rfl
      · exact fun h => by cases h
  · exact fun _ => rfl

namespace WorldRuntime

variable {B : UInt32 → UInt32 → Prop} {st st₁ st₂ st₃ : WorldRuntime}

/-- Where the close of a connection is kept. -/
def closing (st : WorldRuntime) :
    ((UInt32 → Option UInt32) × (UInt32 → UInt32)) × List NetTask × List StrandTask ×
      List CloseTimer :=
  (st.tcp.serials, st.netTasks.filter NetTask.isDisconnected,
    st.strand.filter StrandTask.isClose, graceWaits st.delayed.timers)

/-! ## Handlers beside the closes -/

/-- A handler that moves no close on, and posts cleanups of connections in `B`
only. -/
structure Beside (B : UInt32 → UInt32 → Prop) (st st' : WorldRuntime) : Prop where
  closing : st'.closing = st.closing
  out : ∃ os, st'.out = st.out ++ os ∧ ∀ c sid serial, .cleanupPosted c sid serial ∈ os →
    B sid serial
  records : RecordsIn B st'.flow

namespace Beside

theorem refl (hrec : RecordsIn B st.flow) : Beside B st st := ⟨rfl, ⟨[], by simp⟩, hrec⟩

/-- A second handler goes on with the records the first has left. -/
theorem trans (h₁ : Beside B st₁ st₂) (h₂ : RecordsIn B st₂.flow → Beside B st₂ st₃) :
    Beside B st₁ st₃ := by
  obtain ⟨hclosing, ⟨os₂, hout₂, hos₂⟩, hrec⟩ := h₂ h₁.records
  obtain ⟨os₁, hout₁, hos₁⟩ := h₁.out
  refine ⟨hclosing.trans h₁.closing, ⟨os₁ ++ os₂, ?_, fun c sid serial ho => ?_⟩, hrec⟩
  · rw [hout₂, hout₁, List.append_assoc]
  · exact (List.mem_append.mp ho).elim (hos₁ c sid serial) (hos₂ c sid serial)

/-- A change of the registry, the records and what else does not show. -/
theorem idle {st' : WorldRuntime} (hrec : RecordsIn B st'.flow)
    (hclosing : st'.closing = st.closing)
    (hout : st'.out = st.out) : Beside B st st' :=
  ⟨hclosing, ⟨[], by simp [hout]⟩, hrec⟩

theorem emit {o : Output} (hrec : RecordsIn B st.flow)
    (ho : ∀ c sid serial, o = .cleanupPosted c sid serial → B sid serial) :
    Beside B st (st.emit o) :=
  ⟨rfl, ⟨[o], rfl, fun c sid serial h => ho c sid serial (List.mem_singleton.mp h).symm⟩, hrec⟩

theorem notice {o : Output} (hrec : RecordsIn B st.flow) (ho : o.isNotice = true) :
    Beside B st (st.emit o) :=
  emit hrec fun c sid serial heq => by simp [heq, Output.isNotice] at ho

/-- A handler that first changes something that does not show. -/
theorem after (h : Beside B st₂ st₃) (hclosing : st₂.closing = st₁.closing)
    (hout : st₂.out = st₁.out) : Beside B st₁ st₃ :=
  ⟨h.closing.trans hclosing, by rw [← hout]; exact h.out, h.records⟩

/-- A loop whose passes are. -/
theorem foldl {α : Type} {f : WorldRuntime → α → WorldRuntime} {l : List α}
    (hrec : RecordsIn B st.flow)
    (h : ∀ st, RecordsIn B st.flow → ∀ a ∈ l, Beside B st (f st a)) :
    Beside B st (l.foldl f st) := by
  induction l generalizing st with
  | nil => exact refl hrec
  | cons a l ih =>
      have hhead := h st hrec a List.mem_cons_self
      exact hhead.trans fun hrec' =>
        ih hrec' fun st hst b hb => h st hst b (List.mem_cons_of_mem a hb)

/-- The portal transfer parked on a map-assign request comes last. -/
theorem portal {portal : Option PendingPortalTransfer} {f : PendingPortalTransfer → WorldRuntime}
    (h : Beside B st₁ st₂) (hp : RecordsIn B st₂.flow → ∀ p, Beside B st₂ (f p)) :
    Beside B st₁ (portal.elim st₂ f) := by
  cases portal with
  | none => exact h
  | some p => exact h.trans fun hrec => hp hrec p

end Beside

/-- The cleanup after an unbind reaches only the pending enters of the closed connection. -/
theorem beside_cleanup (hrec : RecordsIn B st.flow) (unbind : UnbindAuthedWorldSessionResult)
    {sid serial : UInt32} (hB : B sid serial) :
    Beside B st (st.cleanupClosedWorldSessionActors unbind sid serial) := by
  unfold cleanupClosedWorldSessionActors
  split
  next => exact .refl hrec
  next =>
    refine .emit hrec fun c sid' serial' heq => ?_
    cases heq
    exact hB

theorem beside_failPendingEnterWorldConsumeRequest (hrec : RecordsIn B st.flow)
    (pending : PendingEnterWorldConsumeRequest) (reason : EnterWorldResultCode) :
    Beside B st (st.failPendingEnterWorldConsumeRequest pending reason) := by
  unfold failPendingEnterWorldConsumeRequest
  dsimp only
  exact (Beside.notice (by exact hrec) rfl).after rfl rfl

/-- The rollback posts cleanups for the connection of the failed enter only. -/
theorem beside_rollbackAndFail (hrec : RecordsIn B st.flow)
    {pending : PendingEnterWorldConsumeRequest} (hB : B pending.sid pending.serial)
    (reason : EnterWorldResultCode) : Beside B st (st.rollbackAndFail pending reason) := by
  have hrollback : Beside B st (st.rollbackBoundEnterWorld pending none) := by
    unfold rollbackBoundEnterWorld
    dsimp only
    exact (beside_cleanup (by exact hrec) _ hB).after rfl rfl
  exact hrollback.trans fun hrec => beside_failPendingEnterWorldConsumeRequest hrec pending reason

/-- The kick of a displaced session is queued beside the closes. -/
theorem beside_enqueueDuplicateAuthedSessionCloseIfNeeded (hrec : RecordsIn B st.flow)
    (victim : WorldAuthedSession) (accountId charId : UInt64) (newSid newSerial : UInt32) :
    Beside B st (st.enqueueDuplicateAuthedSessionCloseIfNeeded victim accountId charId newSid
      newSerial) := by
  simp only [enqueueDuplicateAuthedSessionCloseIfNeeded]
  split_ifs
  any_goals exact .idle hrec rfl rfl
  all_goals exact .idle hrec (by simp [closing, StrandTask.isClose]) rfl

/-- A bind queues the kicks of the sessions it displaces. -/
theorem beside_bindAuthenticatedWorldSessionForLogin (hrec : RecordsIn B st.flow)
    (accountId charId : UInt64) (sid serial : UInt32) (bytes : Vector UInt8 32) :
    Beside B st
      (st.bindAuthenticatedWorldSessionForLogin accountId charId sid serial bytes).2 := by
  unfold bindAuthenticatedWorldSessionForLogin
  extract_lets bound result st₁ st₂ same st₃
  have hchar : Beside B st st₂ := by
    have hbound : Beside B st st₁ := .idle hrec rfl rfl
    unfold st₂
    split
    · exact hbound.trans fun hrec =>
        beside_enqueueDuplicateAuthedSessionCloseIfNeeded hrec _ _ _ _ _
    · exact hbound
  unfold st₃
  dsimp only
  split
  · exact hchar.trans fun hrec => beside_enqueueDuplicateAuthedSessionCloseIfNeeded hrec _ _ _ _ _
  · exact hchar

/-! ## Enters -/

/-- A load that cannot be queued fails the enter of its own connection. -/
theorem beside_requestCharacterEnterSnapshotLoad (hrec : RecordsIn B st.flow)
    (pending : PendingEnterWorldConsumeRequest) (pushed : Bool)
    (hB : B pending.sid pending.serial) :
    Beside B st (st.requestCharacterEnterSnapshotLoad pending pushed).2 := by
  have hrec' := (tidy_requestCharacterEnterSnapshotLoad st pending pushed hB).records hrec
  revert hrec'
  simp only [requestCharacterEnterSnapshotLoad]
  split_ifs <;> exact fun hrec' => .idle hrec' rfl rfl

/-- The answer is matched by its pending request, whose connection is the one it can fail. -/
theorem beside_onWorldAuthTicketConsumeResponse (hrec : RecordsIn B st.flow)
    (res : TicketConsumeResponse) (pushed : Bool) :
    Beside B st (st.onWorldAuthTicketConsumeResponse res pushed) := by
  simp only [onWorldAuthTicketConsumeResponse]
  split
  next => exact .refl hrec
  next pending hfind =>
    have hB := hrec.consume pending (List.mem_of_find?_eq_some hfind)
    have hdrop : Tidy B st _ := .dropConsume (·.requestId ≠ res.requestId)
    refine Beside.trans (.idle (hdrop.records hrec) rfl rfl) fun hrec => ?_
    generalize (if pending.charId = 0 then res.charId else pending.charId) = charId
    split_ifs
    · exact .notice hrec rfl
    · exact .notice hrec rfl
    · exact beside_requestCharacterEnterSnapshotLoad hrec { pending with charId } pushed hB
    · exact (beside_requestCharacterEnterSnapshotLoad hrec { pending with charId } pushed
        hB).trans fun hrec => .notice hrec rfl

/-- The end of an enter can only post a cleanup for the connection that entered. -/
theorem beside_finalizeEnterWorldSuccess (hrec : RecordsIn B st.flow)
    {pending : PendingEnterWorldConsumeRequest} (assignedZoneId : UInt16)
    (mapTemplateId instanceId : UInt32) (coreState : CharacterCoreState) (sendOk : Bool)
    (hB : B pending.sid pending.serial) :
    Beside B st (st.finalizeEnterWorldSuccess pending assignedZoneId mapTemplateId instanceId
      coreState sendOk) := by
  have hrec' := (tidy_finalizeEnterWorldSuccess st assignedZoneId mapTemplateId instanceId coreState
    sendOk hB).records hrec
  revert hrec'
  simp only [finalizeEnterWorldSuccess]
  split
  next => exact fun hrec' => .idle hrec' rfl rfl
  next =>
    intro _
    refine (beside_rollbackAndFail ?_ hB _).after rfl rfl
    exact hrec.mono (by simp) (by simp) (by simp) (List.filter_subset_self _)

/-- After the bind only the entering connection can fail. -/
theorem beside_assignAfterBind (hrec : RecordsIn B st.flow) (topology : Option ServerTopology)
    {pending : PendingEnterWorldConsumeRequest} (loaded : CharacterCoreState)
    (answers : EnterAnswers) (hB : B pending.sid pending.serial) :
    Beside B st (st.assignAfterBind topology pending loaded answers) := by
  unfold assignAfterBind
  extract_lets coreState mapTemplateId assigned st₁
  have hassigned : Beside B st st₁ := .idle (hrec.assignMapInstance ..) rfl rfl
  refine hassigned.trans fun hrec => ?_
  split
  next => exact beside_finalizeEnterWorldSuccess hrec _ _ _ _ _ hB
  next =>
    refine .idle ⟨hrec.consume, hrec.snapshot, fun e he => ?_, hrec.playerEnter⟩ rfl rfl
    cases List.mem_append.mp he with
    | inl hold => exact hrec.finalize e hold
    | inr hnew => exact List.mem_singleton.mp hnew ▸ hB
  next => exact beside_rollbackAndFail hrec hB _

/-- A snapshot result is matched by its pending request, like the ticket answer. -/
theorem beside_onCharacterEnterSnapshotResult (hrec : RecordsIn B st.flow)
    (topology : Option ServerTopology) (rr : SnapshotResult) (answers : EnterAnswers) :
    Beside B st (st.onCharacterEnterSnapshotResult topology rr answers) := by
  unfold onCharacterEnterSnapshotResult
  split
  next => exact .refl hrec
  next snapshot hfind =>
    extract_lets f st₁ pending begun st₂ bound st₃ st₄
    have hB : B pending.sid pending.serial :=
      hrec.snapshot snapshot (List.mem_of_find?_eq_some hfind)
    have htidy : Tidy B st st₁ := .dropSnapshot (·.requestId ≠ rr.requestId)
    have hdrop : Beside B st st₁ := .idle (htidy.records hrec) rfl rfl
    have hbound : Beside B st st₃ := hdrop.trans fun hrec =>
      (beside_bindAuthenticatedWorldSessionForLogin (by exact hrec) _ _ _ _ _).after rfl rfl
    split
    next => exact hdrop.trans fun hrec => beside_failPendingEnterWorldConsumeRequest hrec _ _
    next =>
      split
      next => exact hdrop.trans fun hrec => (Beside.notice (by exact hrec) rfl).after rfl rfl
      next =>
        split
        next => exact hbound.trans fun hrec => (Beside.notice (by exact hrec) rfl).after rfl rfl
        next => exact hbound.trans fun hrec => beside_assignAfterBind hrec topology _ answers hB

/-- The leave of an enter that was announced and taken back is no cleanup of a
close. -/
theorem beside_completeEnterWorldSuccessAfterZoneAck (hrec : RecordsIn B st.flow)
    (enter : PendingZonePlayerEnterRequest) (notified : Bool) (bytes : Vector UInt8 32) :
    Beside B st (st.completeEnterWorldSuccessAfterZoneAck enter notified bytes) := by
  have hannounce : Beside B st (st.announceEnter enter) := by
    unfold announceEnter
    dsimp only
    split
    next =>
      refine Beside.trans ?_ fun hrec => .notice hrec rfl
      exact (Beside.emit (by exact hrec) (by simp)).after rfl rfl
    next => exact (Beside.emit (by exact hrec) (by simp)).after rfl rfl
  obtain ⟨-, h⟩ | ⟨-, -, h⟩ | ⟨-, -, h⟩ :=
    completeEnterWorldSuccessAfterZoneAck_cases st enter notified bytes
  · rw [h]
    exact .refl hrec
  · rw [h]
    refine hannounce.trans fun hrec => ?_
    exact (Beside.notice (by exact hrec) rfl).after rfl rfl
  · rw [h]
    refine hannounce.trans fun hrec => Beside.trans ?_ fun hrec =>
      beside_failPendingEnterWorldConsumeRequest hrec _ _
    unfold leaveAnnounced beginLeaveWorld
    dsimp only
    split
    next => exact .idle hrec rfl rfl
    next => exact (Beside.emit (by exact hrec) (by simp)).after rfl rfl

/-- The acknowledgement ends a pending enter or portal transfer of its own connection. -/
theorem beside_onZonePlayerEnterAck (hrec : RecordsIn B st.flow) (sid serial : UInt32)
    (ack : ZonePlayerEnterAck) (notified : Bool) (bytes : Vector UInt8 32) :
    Beside B st (st.onZonePlayerEnterAck sid serial ack notified bytes) := by
  unfold onZonePlayerEnterAck
  split
  next => exact .refl hrec
  next enter hfind =>
    have hB := hrec.playerEnter enter (List.mem_of_find?_eq_some hfind)
    have htidy : Tidy B st _ := .dropPlayerEnter (·.requestId ≠ ack.requestId)
    have hdrop : Beside B st _ := .idle (htidy.records hrec) rfl rfl
    dsimp only
    split_ifs
    · exact .refl hrec
    · exact hdrop
    · exact hdrop.trans fun hrec => beside_rollbackAndFail hrec hB _
    · exact hdrop.trans fun hrec => beside_rollbackAndFail hrec hB _
    · exact hdrop.trans fun hrec => beside_completeEnterWorldSuccessAfterZoneAck hrec _ _ _

/-! ## Portals and zones -/

/-- The end of a portal transfer posts no cleanup. -/
theorem beside_completePortalTransfer (hrec : RecordsIn B st.flow)
    (pending : PendingPortalTransfer) (zoneId : UInt16) (mapTemplateId instanceId : UInt32) :
    Beside B st (st.completePortalTransfer pending zoneId mapTemplateId instanceId) := by
  simp only [completePortalTransfer]
  split
  next => exact .notice hrec rfl
  next => split <;> exact .notice hrec rfl

/-- A portal transfer binds and unbinds nobody. -/
theorem beside_beginPortalTransfer (hrec : RecordsIn B st.flow) (topology : Option ServerTopology)
    (request : PendingPortalTransfer) (assignSendOk : Bool) :
    Beside B st (st.beginPortalTransfer topology request assignSendOk) := by
  unfold beginPortalTransfer
  extract_lets resolved assigned st₁
  have hassigned : Beside B st st₁ :=
    .idle ((hrec.resolvePortalTargetInstanceId ..).assignMapInstance ..) rfl rfl
  refine hassigned.trans fun hrec => ?_
  split
  next => exact .idle (hrec.congr rfl rfl rfl rfl) rfl rfl
  next =>
    split
    next => exact .refl hrec
    next => exact beside_completePortalTransfer hrec _ _ _ _
  next => exact .refl hrec

/-- Failing a list of enters touches the connections of the list: induction on it. -/
theorem beside_failFinalizeList (hrec : RecordsIn B st.flow) {list : List PendingEnterWorldFinalize}
    (hlist : ∀ e ∈ list, B e.enterPending.sid e.enterPending.serial)
    (reason : EnterWorldResultCode) : Beside B st (st.failFinalizeList list reason) := by
  refine Beside.foldl hrec fun st hrec e he => ?_
  dsimp only
  split
  next => exact beside_rollbackAndFail hrec (hlist e he) reason
  next => exact .refl hrec

/-- Forgetting an assign request leaves the sessions alone. -/
theorem beside_dropAssign (hrec : RecordsIn B st.flow) (requestId mapKey : UInt64) :
    Beside B st { st with flow := { st.flow with
      pendingZoneAssign := st.flow.pendingZoneAssign.filter (·.requestId ≠ requestId)
      pendingZoneAssignRequestIdByMapKey :=
        st.flow.pendingZoneAssignRequestIdByMapKey.erase mapKey
      pendingEnterWorldFinalize :=
        st.flow.pendingEnterWorldFinalize.filter (·.assignRequestId ≠ requestId)
      pendingPortalTransfer :=
        st.flow.pendingPortalTransfer.filter (·.assignRequestId ≠ requestId) } } :=
  .idle ((Tidy.dropAssign (A := B) requestId mapKey).records hrec) rfl rfl

/-- A map answer releases or fails the enters that wait for it. -/
theorem beside_onZoneMapAssignResponse (hrec : RecordsIn B st.flow) (sid serial : UInt32)
    (res : ZoneMapAssignResponse) (sendOk : UInt64 → Bool) :
    Beside B st (st.onZoneMapAssignResponse sid serial res sendOk) := by
  have hlist : ∀ e ∈ st.flow.pendingEnterWorldFinalize.filter (·.assignRequestId == res.requestId),
      B e.enterPending.sid e.enterPending.serial :=
    fun e he => hrec.finalize e (List.mem_of_mem_filter he)
  simp only [onZoneMapAssignResponse]
  split
  next => exact .refl hrec
  next assign hfind =>
    split
    next => exact .refl hrec
    next =>
      refine (beside_dropAssign hrec res.requestId assign.mapKey).trans fun hrec => ?_
      split_ifs
      · refine Beside.portal (.foldl hrec fun st hrec e he => ?_) fun hrec p => .notice hrec rfl
        exact beside_rollbackAndFail hrec (hlist e he) _
      · exact Beside.portal (beside_failFinalizeList hrec hlist _) fun hrec p => .notice hrec rfl
      · refine Beside.portal (.after (.foldl (by exact hrec.congr rfl rfl rfl rfl)
          fun st' hrec e he => ?_) rfl rfl) fun hrec p => beside_completePortalTransfer hrec p _ _ _
        split
        next => exact beside_finalizeEnterWorldSuccess hrec _ _ _ _ _ (hlist e he)
        next => exact .refl hrec

/-- A lost zone fails the enters whose assign request went to it. -/
theorem beside_failPendingZoneAssignRequestsByZoneSid (hrec : RecordsIn B st.flow) (sid : UInt32) :
    Beside B st (st.failPendingZoneAssignRequestsByZoneSid sid) := by
  refine Beside.foldl hrec fun st hrec assign _ => ?_
  have hlist : ∀ e ∈ st.flow.pendingEnterWorldFinalize.filter
      (·.assignRequestId == assign.requestId), B e.enterPending.sid e.enterPending.serial :=
    fun e he => hrec.finalize e (List.mem_of_mem_filter he)
  refine (beside_dropAssign hrec assign.requestId assign.mapKey).trans fun hrec => ?_
  exact Beside.portal (beside_failFinalizeList hrec hlist _) fun hrec p => .notice hrec rfl

/-- The dropped enter requests fail one after the other. -/
theorem beside_failZonePlayerEnters (hrec : RecordsIn B st.flow)
    (dropped : PendingZonePlayerEnterRequest → Bool) (reason : EnterWorldResultCode) :
    Beside B st (st.failZonePlayerEnters dropped reason) := by
  have hlist : ∀ e ∈ st.flow.pendingZonePlayerEnter.filter dropped,
      B e.enterPending.sid e.enterPending.serial :=
    fun e he => hrec.playerEnter e (List.mem_of_mem_filter he)
  refine Beside.foldl hrec fun st hrec enter he => ?_
  have htidy : Tidy B st _ := .dropPlayerEnter (·.requestId ≠ enter.requestId)
  have hdrop := htidy.records hrec
  dsimp only
  split
  next => exact (beside_rollbackAndFail hdrop (hlist enter he) reason).after rfl rfl
  next => exact .idle hdrop rfl rfl

/-- A zone that goes away fails what waited for it and unbinds nobody else. -/
theorem beside_loseZoneRoute (hrec : RecordsIn B st.flow) (sid : UInt32) :
    Beside B st (st.loseZoneRoute sid) := by
  unfold loseZoneRoute
  extract_lets st₁ st₂ st₃
  have hunassigned : Beside B st st₁ := .idle (hrec.removeMapAssignmentsByZoneSid sid) rfl rfl
  have hassigns : Beside B st st₂ := hunassigned.trans fun hrec =>
    beside_failPendingZoneAssignRequestsByZoneSid hrec sid
  have henters : Beside B st st₃ := hassigns.trans fun hrec => beside_failZonePlayerEnters hrec _ _
  exact henters.trans fun hrec => .idle (hrec.congr rfl rfl rfl rfl) rfl rfl

/-- Unregistering is losing the route, if there was one. -/
theorem beside_unregisterZoneRoute (hrec : RecordsIn B st.flow) (sid serial : UInt32) :
    Beside B st (st.unregisterZoneRoute sid serial) := by
  simp only [unregisterZoneRoute]
  split
  next => exact .refl hrec
  next =>
    split
    next => exact .refl hrec
    next => exact beside_loseZoneRoute hrec sid

/-- The expiry loses routes and fails overdue requests. -/
theorem beside_expireStaleZoneRoutes (hrec : RecordsIn B st.flow) (routes : List UInt32)
    (enters portals : List UInt64) :
    Beside B st (st.expireStaleZoneRoutes routes enters portals) := by
  unfold expireStaleZoneRoutes
  extract_lets st₁ st₂
  have hroutes : Beside B st st₁ :=
    .foldl hrec fun st hrec (r : ZoneRouteState) _ => beside_loseZoneRoute hrec r.sid
  have henters : Beside B st st₂ := hroutes.trans fun hrec => beside_failZonePlayerEnters hrec _ _
  refine henters.trans fun hrec => .foldl hrec fun st hrec p _ => ?_
  exact (Beside.notice (by exact hrec.congr rfl rfl rfl rfl) rfl).after rfl rfl

/-! ## Packets -/

/-- An enter request records the connection that sent it. -/
theorem beside_handleEnterWorldWithToken (hrec : RecordsIn B st.flow) {sid serial : UInt32}
    (accountId : UInt64) (loginSession worldToken : String) (ready sent : Bool)
    (hB : B sid serial) :
    Beside B st (st.handleEnterWorldWithToken sid serial accountId loginSession worldToken ready
      sent) := by
  have hrequested : Beside B st (st.requestConsumeWorldAuthTicket sid serial accountId loginSession
      worldToken ready sent).2 := by
    have hrec' := (tidy_requestConsumeWorldAuthTicket st accountId loginSession worldToken ready
      sent hB).records hrec
    revert hrec'
    simp only [requestConsumeWorldAuthTicket]
    split_ifs <;> exact fun hrec' => .idle hrec' rfl rfl
  simp only [handleEnterWorldWithToken]
  split
  next => exact .refl hrec
  next =>
    split
    next => exact hrequested
    next => exact hrequested.trans fun hrec => .notice hrec rfl

/-- A logout marks its reason; the disconnect that follows is an event of its own. -/
theorem beside_handleLogoutWorld (hrec : RecordsIn B st.flow) (sid serial : UInt32)
    (logoutType : LogoutType) : Beside B st (st.handleLogoutWorld sid serial logoutType) := by
  simp only [handleLogoutWorld]
  split
  next => exact .refl hrec
  next =>
    split
    next => exact .refl hrec
    next => exact .idle hrec (by simp only [closing, TcpServer.serials_close]) rfl

/-- A reconnect moves a session and moves no close on. -/
theorem beside_handleReconnectWorld (hrec : RecordsIn B st.flow) (sid serial : UInt32)
    (accountId charId : UInt64) (token : String) :
    Beside B st (st.handleReconnectWorld sid serial accountId charId token) := by
  simp only [handleReconnectWorld]
  split
  next => exact .refl hrec
  next =>
    split
    next => exact .idle hrec rfl rfl
    next =>
      refine (Beside.emit (by exact hrec) (by simp)).after ?_ rfl
      simp only [closing, DelayedCloses.graceWaits_markTakenOver, DelayedCloses.graceWaits_release]

theorem beside_handleGameplay (hrec : RecordsIn B st.flow) (sid serial : UInt32) (op : GameplayOp) :
    Beside B st (st.handleGameplay sid serial op) := by
  simp only [handleGameplay]
  split <;> exact .emit hrec (by simp)

/-- The events that may leave a record, for a connection in `B` only: the
others work on records that are there. -/
def Event.EntersFor (B : UInt32 → UInt32 → Prop) : Event → Prop
  | .netTask (.packet sid serial (.enterWorldWithToken ..)) _ _ => B sid serial
  | _ => True

/-- Every packet of the client is one of the handlers above. -/
theorem beside_handlePacket (hrec : RecordsIn B st.flow) {sid serial : UInt32} {p : ClientPacket}
    {ready sent : Bool} (hB : Event.EntersFor B (.netTask (.packet sid serial p) ready sent)) :
    Beside B st (st.handlePacket sid serial p ready sent) := by
  simp only [handlePacket, getLatestSerial, Table.set_self, Option.getD_some]
  refine Beside.trans (.idle (by exact hrec) rfl rfl) fun hrec => ?_
  cases p with
  | enterWorldWithToken accountId loginSession worldToken =>
      exact (beside_handleEnterWorldWithToken (by exact hrec) _ _ _ _ _ hB).after rfl rfl
  | logoutWorld logoutType => exact (beside_handleLogoutWorld (by exact hrec) _ _ _).after rfl rfl
  | reconnectWorld accountId charId token =>
      exact (beside_handleReconnectWorld (by exact hrec) _ _ _ _ _).after rfl rfl
  | gameplay op => exact (beside_handleGameplay (by exact hrec) _ _ _).after rfl rfl

/-! ## Closes -/

/-- An abort drops records and posts no cleanup. -/
theorem beside_abortEnterWorldFlowBySession (hrec : RecordsIn B st.flow) (sid serial : UInt32) :
    Beside B st (st.abortEnterWorldFlowBySession sid serial) := by
  have hrec' := (tidy_abortEnterWorldFlowBySession st sid serial).records hrec
  revert hrec'
  unfold abortEnterWorldFlowBySession
  split
  next => exact fun _ => .refl hrec
  next => exact fun hrec' => .idle hrec' rfl rfl

/-- The close posts the cleanup of its own connection. -/
theorem beside_processWorldSessionClosedOnIo (hrec : RecordsIn B st.flow) {sid serial : UInt32}
    (hB : B sid serial) : Beside B st (st.processWorldSessionClosedOnIo sid serial) := by
  simp only [processWorldSessionClosedOnIo]
  split
  next => exact .refl hrec
  next =>
    refine (beside_cleanup (by exact hrec) _ hB).after ?_ rfl
    simp only [closing, DelayedCloses.graceWaits_release]

/-- A kick arms no grace timer, and its close does not end the session. -/
theorem beside_kick (hrec : RecordsIn B st.flow) (ctx : DuplicateLoginLogContext) :
    Beside B st (st.processDuplicateWorldSessionKickOnIo ctx) := by
  unfold processDuplicateWorldSessionKickOnIo
  split
  next => exact .refl hrec
  next =>
    extract_lets st₁ st₂ reserved st₃ armed
    have haborted : Beside B st st₁ := beside_abortEnterWorldFlowBySession hrec ctx.sid ctx.serial
    have hmarked : Beside B st st₂ := haborted.trans fun hrec => .idle hrec rfl rfl
    have hreserved : Beside B st st₃ := by
      refine hmarked.trans fun hrec => .idle hrec ?_ rfl
      simp only [closing, st₃, reserved, DelayedCloses.timers_tryReserve]
    split
    next => exact hmarked
    next =>
      split
      next harmed =>
        refine hreserved.trans fun hrec => .idle (by exact hrec) ?_ rfl
        simp [closing, graceWaits, armed, (DelayedCloses.timers_arm harmed.2).2]
      next =>
        refine hreserved.trans fun hrec => .idle (by exact hrec) ?_ rfl
        simp only [closing, TcpServer.serials_close,
          DelayedCloses.updateReservedDelayedWorldCloseContext]
        split
        next => split <;> rfl
        next => rfl

/-- What a close on the strand does: it arms the grace timer of its connection,
or unbinds the session and posts its cleanup. -/
theorem runCloseTask_cases (hrec : RecordsIn B st.flow) (sid serial : UInt32)
    (closeCharId : UInt64) (closeReason : WorldSessionCloseReason) :
    (B sid serial → Beside B st (st.runCloseTask sid serial closeCharId closeReason)) ∨
      isValidSessionKey sid serial = true ∧
        ∃ d, st.runCloseTask sid serial closeCharId closeReason = { st with delayed := d } ∧
          d.timers = st.delayed.timers ++
            [{ id := st.delayed.nextTimer, sid, serial, origin := .grace,
               session := st.reg.tryGetAuthenticatedWorldSession sid serial,
               outputs := st.out.length }] := by
  unfold runCloseTask
  extract_lets allowGrace reserved reason armed
  split
  next =>
    split
    next harmed =>
      obtain ⟨hvalid, htimers⟩ := DelayedCloses.timers_arm harmed
      refine .inr ⟨hvalid, _, rfl, htimers.trans ?_⟩
      rw [DelayedCloses.timers_tryReserve, DelayedCloses.nextTimer_tryReserve]
    next hnot =>
      refine .inl fun hB => (beside_processWorldSessionClosedOnIo (by exact hrec) hB).after ?_ rfl
      have hsame : armed.2 = reserved.2 := DelayedCloses.arm_eq_self (Bool.eq_false_iff.mpr hnot)
      simp only [closing, DelayedCloses.graceWaits_release, hsame, reserved,
        DelayedCloses.timers_tryReserve]
  next => exact .inl fun hB => beside_processWorldSessionClosedOnIo hrec hB

/-! ## Steps -/

/-- What an event can do to the closes. -/
inductive CloseStep (B : UInt32 → UInt32 → Prop) (st : WorldRuntime) : Event → WorldRuntime → Prop
    where
  | beside {e : Event} {st' : WorldRuntime} (hbeside : Beside B st st')
      (hserials : st'.tcp.slotSerials = st.tcp.slotSerials) : CloseStep B st e st'
  | accept : CloseStep B st .accept
      { st with
        tcp := st.tcp.accept
        netTasks := .connected st.tcp.nextConnection.1 st.tcp.nextConnection.2 :: st.netTasks }
  | terminate {sid serial : UInt32} (hconnected : st.tcp.isConnected sid serial = true) :
      CloseStep B st (.terminate sid serial)
        { st with
          tcp := st.tcp.terminate sid serial
          netTasks := .disconnected sid serial :: st.netTasks }
  | disconnected {sid serial : UInt32} {ready sent : Bool}
      (hmem : NetTask.disconnected sid serial ∈ st.netTasks) :
      CloseStep B st (.netTask (.disconnected sid serial) ready sent)
        (handleDisconnected
          { st with netTasks := st.netTasks.erase (.disconnected sid serial) } sid serial)
  | close {sid serial : UInt32} {closeCharId : UInt64} {closeReason : WorldSessionCloseReason}
      {rest : List StrandTask}
      (hstrand : st.strand = .close sid serial closeCharId closeReason :: rest) :
      CloseStep B st .strand
        (runCloseTask { st with strand := rest } sid serial closeCharId closeReason)
  | timer {id : Nat} {aborted : Bool} {t : CloseTimer}
      (hfind : st.delayed.timers.find? (·.id == id) = some t) :
      CloseStep B st (.timer id aborted) (st.onDelayedCloseTimer t aborted)

/-- The slots are handed out by accepts only. -/
theorem slotSerials_step (topology : Option ServerTopology) (st : WorldRuntime) {e : Event}
    (he : e ≠ .accept) : (step topology st e).tcp.slotSerials = st.tcp.slotSerials := by
  cases hgameplay : e.isGameplay with
  | true => rw [(step_of_isGameplay topology st hgameplay).2.2.1]
  | false =>
      exact (handledFor_step topology (recordsIn_true st.flow) e.actsFor_true he
        hgameplay).slotSerials

/-- A task other than a disconnect is taken out. -/
theorem Beside.netTask {task : NetTask} {st' : WorldRuntime}
    (h : Beside B { st with netTasks := st.netTasks.erase task } st')
    (htask : task.isDisconnected = false) : Beside B st st' := by
  refine h.after ?_ rfl
  have hfilter : (st.netTasks.erase task).filter NetTask.isDisconnected =
      st.netTasks.filter NetTask.isDisconnected := by
    rw [← List.erase_filter, List.erase_of_not_mem]
    simp [htask]
  simp only [WorldRuntime.closing, hfilter]

/-- Beside the closes: the slots are those of before, but for an accept. -/
theorem closeStep_of_beside (topology : Option ServerTopology) {e : Event} (he : e ≠ .accept)
    (h : Beside B st (step topology st e)) : CloseStep B st e (step topology st e) :=
  .beside h (slotSerials_step topology st he)

/-- Of the network tasks only a disconnect moves a close on. -/
theorem closeStep_netTask (topology : Option ServerTopology) {task : NetTask} {ready sent : Bool}
    (hrec : RecordsIn B st.flow) (hB : Event.EntersFor B (.netTask task ready sent)) :
    CloseStep B st (.netTask task ready sent) (step topology st (.netTask task ready sent)) := by
  by_cases hmem : task ∈ st.netTasks
  · cases task with
    | connected sid serial =>
        refine closeStep_of_beside topology (by simp) ?_
        simp only [step, if_pos hmem, runNetTask]
        exact Beside.netTask (.idle (by exact hrec) rfl rfl) rfl
    | packet sid serial p =>
        refine closeStep_of_beside topology (by simp) ?_
        simp only [step, if_pos hmem, runNetTask]
        exact (beside_handlePacket (by exact hrec) hB).netTask rfl
    | disconnected sid serial =>
        simp only [step, if_pos hmem, runNetTask]
        exact .disconnected hmem
  · refine closeStep_of_beside topology (by simp) ?_
    simp only [step, if_neg hmem]
    exact .refl hrec

/-- Of the strand tasks only a close does. -/
theorem closeStep_strand (topology : Option ServerTopology) (hrec : RecordsIn B st.flow) :
    CloseStep B st .strand (step topology st .strand) := by
  cases hstrand : st.strand with
  | nil =>
      refine closeStep_of_beside topology (by simp) ?_
      simp only [step, hstrand]
      exact .refl hrec
  | cons task rest =>
      cases task with
      | close sid serial closeCharId closeReason =>
          simp only [step, hstrand, runStrandTask]
          exact .close hstrand
      | kick ctx =>
          refine closeStep_of_beside topology (by simp) ?_
          simp only [step, hstrand, runStrandTask]
          refine (beside_kick (by exact hrec) ctx).after ?_ rfl
          simp [closing, hstrand, StrandTask.isClose]

/-- A timer that has neither been cancelled nor fired goes on waiting. -/
theorem closeStep_timer (topology : Option ServerTopology) {id : Nat} {aborted : Bool}
    (hrec : RecordsIn B st.flow) :
    CloseStep B st (.timer id aborted) (step topology st (.timer id aborted)) := by
  cases hfind : st.delayed.timers.find? (·.id == id) with
  | none =>
      refine closeStep_of_beside topology (by simp) ?_
      simp only [step, hfind]
      exact .refl hrec
  | some t =>
      by_cases hwaits : aborted = true ∧ t.cancelled = false
      · refine closeStep_of_beside topology (by simp) ?_
        simp only [step, hfind, if_pos hwaits]
        exact .refl hrec
      · simp only [step, hfind, if_neg hwaits]
        exact .timer hfind

/-- **What an event does to the closes**: it works on one of them, or is
beside all of them. -/
theorem closeStep_step (topology : Option ServerTopology) {e : Event} (hrec : RecordsIn B st.flow)
    (hB : e.EntersFor B) : CloseStep B st e (step topology st e) := by
  have hbeside : e ≠ .accept → Beside B st (step topology st e) →
      CloseStep B st e (step topology st e) := closeStep_of_beside topology
  cases e with
  | accept => exact .accept
  | receive sid serial p =>
      refine hbeside (by simp) ?_
      simp only [step]
      split
      next => exact .idle hrec (by simp [closing, NetTask.isDisconnected]) rfl
      next => exact .refl hrec
  | terminate sid serial =>
      by_cases hconnected : st.tcp.isConnected sid serial = true
      · simp only [step, if_pos hconnected]
        exact .terminate hconnected
      · refine hbeside (by simp) ?_
        simp only [step, if_neg hconnected]
        exact .refl hrec
  | netTask task ready sent => exact closeStep_netTask topology hrec hB
  | strand => exact closeStep_strand topology hrec
  | timer id aborted => exact closeStep_timer topology hrec
  | ticketConsumeResponse res pushed =>
      exact hbeside (by simp) (beside_onWorldAuthTicketConsumeResponse hrec res pushed)
  | snapshotResult rr answers =>
      exact hbeside (by simp) (beside_onCharacterEnterSnapshotResult hrec topology rr answers)
  | zoneMapAssignResponse sid serial res sendOk =>
      exact hbeside (by simp) (beside_onZoneMapAssignResponse hrec sid serial res sendOk)
  | zonePlayerEnterAck sid serial ack notified bytes =>
      exact hbeside (by simp) (beside_onZonePlayerEnterAck hrec sid serial ack notified bytes)
  | registerZoneRoute hello => exact hbeside (by simp) (.idle (hrec.congr rfl rfl rfl rfl) rfl rfl)
  | zoneRouteHeartbeat beat => exact hbeside (by simp) (.idle (hrec.congr rfl rfl rfl rfl) rfl rfl)
  | unregisterZoneRoute sid serial =>
      exact hbeside (by simp) (beside_unregisterZoneRoute hrec sid serial)
  | expireStaleZoneRoutes routes enters portals =>
      exact hbeside (by simp) (beside_expireStaleZoneRoutes hrec routes enters portals)
  | beginPortalTransfer request assignSendOk =>
      exact hbeside (by simp) (beside_beginPortalTransfer hrec topology request assignSendOk)
  | rehash routes assigns enters =>
      refine hbeside (by simp) ?_
      simp only [step]
      split
      next hperm => exact .idle (hrec.perm hperm.2.2) rfl rfl
      next => exact .refl hrec

end WorldRuntime

end GameServer
