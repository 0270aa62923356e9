import GameServer.World.RegistryEffects
import GameServer.World.Runtime

/-!
# GameServer.World.HandlerEffects

What a handler can do, said once.

* `Tidy A st st'` — `st'` is reached from `st` by writing outside the
  registry, by stage operations for connections in `A`, and by unbinding
  sessions together with their cleanup.  Most handlers are tidy for every
  `A` that contains the connection they were given and those of the pending
  records.
* `HandledFor A st st'` — the weaker fact that holds of all handlers:
  sessions may also be bound or reconnected for connections in `A`.

The properties of whole runs follow from these and never look into a handler
again.
-/

namespace GameServer

/-- An output that neither moves a character in or out of the world nor acts
for one. -/
def Output.isNotice : Output → Bool
  | .enterPosted .. | .reconnected .. | .cleanupPosted .. | .leavePosted _ | .applied .. => false
  | _ => true

/-- An output of a gameplay handler that acted for a character. -/
def Output.isApplied : Output → Bool
  | .applied .. => true
  | _ => false

namespace WorldRuntime

/-! ## Pending records -/

/-- Every pending enter-world record belongs to a connection in `A`. -/
structure RecordsIn (A : UInt32 → UInt32 → Prop) (f : EnterFlow) : Prop where
  consume : ∀ p ∈ f.pendingEnterWorldConsume, A p.sid p.serial
  snapshot : ∀ r ∈ f.pendingCharacterEnterSnapshot, A r.enterPending.sid r.enterPending.serial
  finalize : ∀ e ∈ f.pendingEnterWorldFinalize, A e.enterPending.sid e.enterPending.serial
  playerEnter : ∀ e ∈ f.pendingZonePlayerEnter, A e.enterPending.sid e.enterPending.serial

variable {A : UInt32 → UInt32 → Prop} {st st₁ st₂ st₃ : WorldRuntime}

/-- Fewer records still belong to the same connections. -/
theorem RecordsIn.mono {f f' : EnterFlow} (h : RecordsIn A f)
    (hc : f'.pendingEnterWorldConsume ⊆ f.pendingEnterWorldConsume)
    (hs : f'.pendingCharacterEnterSnapshot ⊆ f.pendingCharacterEnterSnapshot)
    (hf : f'.pendingEnterWorldFinalize ⊆ f.pendingEnterWorldFinalize)
    (hp : f'.pendingZonePlayerEnter ⊆ f.pendingZonePlayerEnter) : RecordsIn A f' where
  consume p hmem := h.consume p (hc hmem)
  snapshot r hmem := h.snapshot r (hs hmem)
  finalize e hmem := h.finalize e (hf hmem)
  playerEnter e hmem := h.playerEnter e (hp hmem)

/-- The same records, in tables that hold no more. -/
theorem RecordsIn.congr {f f' : EnterFlow} (h : RecordsIn A f)
    (hc : f'.pendingEnterWorldConsume = f.pendingEnterWorldConsume)
    (hs : f'.pendingCharacterEnterSnapshot = f.pendingCharacterEnterSnapshot)
    (hf : f'.pendingEnterWorldFinalize = f.pendingEnterWorldFinalize)
    (hp : f'.pendingZonePlayerEnter = f.pendingZonePlayerEnter) : RecordsIn A f' :=
  h.mono (by simp [hc]) (by simp [hs]) (by simp [hf]) (by simp [hp])

/-- Choosing a zone for a map touches no enter-world record. -/
theorem RecordsIn.assignMapInstance {f : EnterFlow} (h : RecordsIn A f)
    (topology : Option ServerTopology) (mapTemplateId instanceId : UInt32)
    (dungeonInstance sendOk : Bool) :
    RecordsIn A (f.assignMapInstance topology mapTemplateId instanceId dungeonInstance sendOk).2 := by
  simp only [EnterFlow.assignMapInstance]
  split
  next => exact h
  next =>
    split
    next => exact h
    next =>
      split
      next => exact h
      next => split <;> exact h.congr rfl rfl rfl rfl

/-- Nor does choosing the instance of a portal. -/
theorem RecordsIn.resolvePortalTargetInstanceId {f : EnterFlow} (h : RecordsIn A f)
    (mapTemplateId requestedInstanceId : UInt32) :
    RecordsIn A (f.resolvePortalTargetInstanceId mapTemplateId requestedInstanceId).2 := by
  simp only [EnterFlow.resolvePortalTargetInstanceId]
  split_ifs
  · exact h
  · exact h
  · exact h.congr rfl rfl rfl rfl
  · exact h.congr rfl rfl rfl rfl

/-- Nor does dropping the assignments of a zone. -/
theorem RecordsIn.removeMapAssignmentsByZoneSid {f : EnterFlow} (h : RecordsIn A f) (sid : UInt32) :
    RecordsIn A (f.removeMapAssignmentsByZoneSid sid) := by
  simp only [EnterFlow.removeMapAssignmentsByZoneSid]
  split
  next => exact h
  next => exact h.congr rfl rfl rfl rfl

/-! ## Tidy steps -/

/-- Unbind a connection and post the cleanup of its character. -/
def unbindAndCleanup (st : WorldRuntime) (sid serial : UInt32) : WorldRuntime :=
  cleanupClosedWorldSessionActors
    { st with reg := (st.reg.unbindAuthenticatedWorldSessionBySid sid serial).2 }
    (st.reg.unbindAuthenticatedWorldSessionBySid sid serial).1 sid serial

/-- What most handlers do: see the module header. -/
inductive Tidy (A : UInt32 → UInt32 → Prop) : WorldRuntime → WorldRuntime → Prop where
  | frame {st st' : WorldRuntime} (hreg : st'.reg = st.reg)
      (hserials : st'.tcp.slotSerials = st.tcp.slotSerials)
      (hout : ∃ os, st'.out = st.out ++ os ∧ ∀ o ∈ os, o.isNotice = true)
      (hrec : RecordsIn A st.flow → RecordsIn A st'.flow) : Tidy A st st'
  | stage {st : WorldRuntime} (op : RegistryOp) (hst : op.isStageOp = true) (hop : op.ActsFor A) :
      Tidy A st { st with reg := op.apply st.reg }
  | unbind {st : WorldRuntime} (sid serial : UInt32) : Tidy A st (st.unbindAndCleanup sid serial)
  | trans {st₁ st₂ st₃ : WorldRuntime} (h₁ : Tidy A st₁ st₂) (h₂ : Tidy A st₂ st₃) : Tidy A st₁ st₃

namespace Tidy

theorem refl (st : WorldRuntime) : Tidy A st st :=
  frame rfl rfl ⟨[], by simp⟩ id

/-- Nothing the session properties read has changed. -/
theorem same {st' : WorldRuntime} (hreg : st'.reg = st.reg) (hout : st'.out = st.out)
    (hflow : st'.flow = st.flow) (hserials : st'.tcp.slotSerials = st.tcp.slotSerials) :
    Tidy A st st' :=
  frame hreg hserials ⟨[], by simp [hout]⟩ (by rw [hflow]; exact id)

theorem delayed (d : DelayedCloses) : Tidy A st { st with delayed := d } :=
  same rfl rfl rfl rfl

theorem serials (t : Table UInt32 UInt32) : Tidy A st { st with sessionSerials := t } :=
  same rfl rfl rfl rfl

theorem flow {f : EnterFlow} (h : RecordsIn A st.flow → RecordsIn A f) :
    Tidy A st { st with flow := f } :=
  frame rfl rfl ⟨[], by simp⟩ h

theorem emit {o : Output} (h : o.isNotice = true) : Tidy A st (st.emit o) :=
  frame rfl rfl ⟨[o], rfl, by simpa using h⟩ id

/-- A tidy change leaves records of `A` only. -/
theorem records (h : Tidy A st₁ st₂) (hrec : RecordsIn A st₁.flow) : RecordsIn A st₂.flow := by
  induction h with
  | frame _ _ _ hflow => exact hflow hrec
  | stage => exact hrec
  | unbind sid serial =>
      simp only [unbindAndCleanup, cleanupClosedWorldSessionActors]
      split <;> exact hrec
  | trans _ _ ih₁ ih₂ => exact ih₂ (ih₁ hrec)

/-! Taking pending records out of their tables, one rule per table. -/

theorem dropConsume (q : PendingEnterWorldConsumeRequest → Bool) :
    Tidy A st { st with flow := { st.flow with
      pendingEnterWorldConsume := st.flow.pendingEnterWorldConsume.filter q } } :=
  flow fun h => h.mono (List.filter_subset_self _) (by simp) (by simp) (by simp)

theorem dropSnapshot (q : PendingCharacterEnterSnapshotRequest → Bool) :
    Tidy A st { st with flow := { st.flow with
      pendingCharacterEnterSnapshot := st.flow.pendingCharacterEnterSnapshot.filter q } } :=
  flow fun h => h.mono (by simp) (List.filter_subset_self _) (by simp) (by simp)

theorem dropPlayerEnter (q : PendingZonePlayerEnterRequest → Bool) :
    Tidy A st { st with flow := { st.flow with
      pendingZonePlayerEnter := st.flow.pendingZonePlayerEnter.filter q } } :=
  flow fun h => h.mono (by simp) (by simp) (by simp) (List.filter_subset_self _)

theorem dropPortal (q : PendingPortalTransfer → Bool) :
    Tidy A st { st with flow := { st.flow with
      pendingPortalTransfer := st.flow.pendingPortalTransfer.filter q } } :=
  flow fun h => h.congr rfl rfl rfl rfl

theorem assignments (t : Table UInt64 MapAssignmentEntry) :
    Tidy A st { st with flow := { st.flow with mapAssignments := t } } :=
  flow fun h => h.congr rfl rfl rfl rfl

/-- A map-assign request goes with everything parked on it. -/
theorem dropAssign (requestId mapKey : UInt64) :
    Tidy A st { st with flow := { st.flow with
      pendingZoneAssign := st.flow.pendingZoneAssign.filter (·.requestId ≠ requestId)
      pendingZoneAssignRequestIdByMapKey :=
        st.flow.pendingZoneAssignRequestIdByMapKey.erase mapKey
      pendingEnterWorldFinalize :=
        st.flow.pendingEnterWorldFinalize.filter (·.assignRequestId ≠ requestId)
      pendingPortalTransfer :=
        st.flow.pendingPortalTransfer.filter (·.assignRequestId ≠ requestId) } } :=
  flow fun h => h.mono (by simp) (by simp) (List.filter_subset_self _) (by simp)

/-- A loop is tidy if each pass is. -/
theorem foldl {α : Type} {f : WorldRuntime → α → WorldRuntime} {l : List α}
    (h : ∀ st, ∀ a ∈ l, Tidy A st (f st a)) (st : WorldRuntime) : Tidy A st (l.foldl f st) :=
  foldl_of_trans refl trans h st

end Tidy

/-! ## The tidy handlers -/

theorem tidy_failPendingEnterWorldConsumeRequest (st : WorldRuntime)
    (pending : PendingEnterWorldConsumeRequest) (reason : EnterWorldResultCode) :
    Tidy A st (st.failPendingEnterWorldConsumeRequest pending reason) :=
  (Tidy.stage (.cancel pending.sid pending.serial pending.charId) rfl trivial).trans (.emit rfl)

theorem tidy_rollbackAndFail (st : WorldRuntime) (pending : PendingEnterWorldConsumeRequest)
    (reason : EnterWorldResultCode) : Tidy A st (st.rollbackAndFail pending reason) := by
  have hcancel : Tidy A st _ :=
    .stage (.cancel pending.sid pending.serial pending.charId) rfl trivial
  have hunbind := hcancel.trans (.unbind pending.sid pending.serial)
  exact hunbind.trans (tidy_failPendingEnterWorldConsumeRequest _ pending reason)

/-- Arming the close of a displaced session adds a timer for it. -/
theorem tidy_enqueueDuplicateAuthedSessionCloseIfNeeded (st : WorldRuntime)
    (victim : WorldAuthedSession) (accountId charId : UInt64) (newSid newSerial : UInt32) :
    Tidy A st (st.enqueueDuplicateAuthedSessionCloseIfNeeded victim accountId charId newSid
      newSerial) := by
  simp only [enqueueDuplicateAuthedSessionCloseIfNeeded]
  split_ifs
  · exact .refl st
  · exact .refl st
  all_goals exact .same rfl rfl rfl rfl

/-- The ticket request is recorded under the connection that asked. -/
theorem tidy_requestConsumeWorldAuthTicket (st : WorldRuntime) {sid serial : UInt32}
    (accountId : UInt64) (loginSession worldToken : String) (ready sent : Bool)
    (hA : A sid serial) :
    Tidy A st (st.requestConsumeWorldAuthTicket sid serial accountId loginSession worldToken ready
      sent).2 := by
  simp only [requestConsumeWorldAuthTicket]
  split_ifs
  · exact .refl st
  · refine .flow fun h => ⟨fun p hp => ?_, h.snapshot, h.finalize, h.playerEnter⟩
    cases mem_upsertBy hp with
    | inl hold => exact h.consume p hold
    | inr hnew => exact hnew ▸ hA
  · exact .flow fun h => h.mono (List.filter_subset_self _) (by simp) (by simp) (by simp)

/-- The load is recorded under the connection of the ticket request. -/
theorem tidy_requestCharacterEnterSnapshotLoad (st : WorldRuntime)
    (pending : PendingEnterWorldConsumeRequest) (pushed : Bool)
    (hA : A pending.sid pending.serial) :
    Tidy A st (st.requestCharacterEnterSnapshotLoad pending pushed).2 := by
  simp only [requestCharacterEnterSnapshotLoad]
  split_ifs
  · refine .flow fun h => ⟨h.consume, fun r hr => ?_, h.finalize, h.playerEnter⟩
    cases mem_upsertBy hr with
    | inl hold => exact h.snapshot r hold
    | inr hnew => exact hnew ▸ hA
  · exact .flow fun h => h.mono (by simp) (List.filter_subset_self _) (by simp) (by simp)

/-- The answer passes its record on to the snapshot load, or fails it. -/
theorem tidy_onWorldAuthTicketConsumeResponse (hrec : RecordsIn A st.flow)
    (res : TicketConsumeResponse) (pushed : Bool) :
    Tidy A st (st.onWorldAuthTicketConsumeResponse res pushed) := by
  simp only [onWorldAuthTicketConsumeResponse]
  split
  next => exact .refl st
  next pending hfind =>
    have hA := hrec.consume pending (List.mem_of_find?_eq_some hfind)
    refine (Tidy.dropConsume (·.requestId ≠ res.requestId)).trans ?_
    generalize (if pending.charId = 0 then res.charId else pending.charId) = charId
    split_ifs
    · exact .emit rfl
    · exact .emit rfl
    · exact tidy_requestCharacterEnterSnapshotLoad _ { pending with charId } pushed hA
    · refine (tidy_requestCharacterEnterSnapshotLoad _ { pending with charId } pushed hA).trans ?_
      exact .emit rfl

/-- The record moves on to the wait for the zone server's acknowledgement. -/
theorem tidy_finalizeEnterWorldSuccess (st : WorldRuntime)
    {pending : PendingEnterWorldConsumeRequest} (assignedZoneId : UInt16)
    (mapTemplateId instanceId : UInt32) (coreState : CharacterCoreState) (sendOk : Bool)
    (hA : A pending.sid pending.serial) :
    Tidy A st (st.finalizeEnterWorldSuccess pending assignedZoneId mapTemplateId instanceId
      coreState sendOk) := by
  simp only [finalizeEnterWorldSuccess]
  split
  next =>
    refine .flow fun h => ⟨h.consume, h.snapshot, h.finalize, fun e he => ?_⟩
    cases mem_upsertBy he with
    | inl hold => exact h.playerEnter e hold
    | inr hnew =>
        subst hnew
        split <;> exact hA
  next =>
    refine Tidy.trans (.flow fun h => ?_) (tidy_rollbackAndFail _ pending _)
    exact h.mono (by simp) (by simp) (by simp) (List.filter_subset_self _)

/-- After the bind the enter waits for its map, goes on at once, or fails. -/
theorem tidy_assignAfterBind (st : WorldRuntime) (topology : Option ServerTopology)
    {pending : PendingEnterWorldConsumeRequest} (loaded : CharacterCoreState)
    (answers : EnterAnswers) (hA : A pending.sid pending.serial) :
    Tidy A st (st.assignAfterBind topology pending loaded answers) := by
  unfold assignAfterBind
  extract_lets coreState mapTemplateId assigned st₁
  have hassigned : Tidy A st st₁ := .flow fun h => h.assignMapInstance ..
  refine hassigned.trans ?_
  split
  next => exact tidy_finalizeEnterWorldSuccess _ _ _ _ _ _ hA
  next =>
    refine .flow fun h => ⟨h.consume, h.snapshot, fun e he => ?_, h.playerEnter⟩
    cases List.mem_append.mp he with
    | inl hold => exact h.finalize e hold
    | inr hnew => exact List.mem_singleton.mp hnew ▸ hA
  next => exact tidy_rollbackAndFail _ pending _

/-- The end of a portal transfer posts one notice. -/
theorem tidy_completePortalTransfer (st : WorldRuntime) (pending : PendingPortalTransfer)
    (zoneId : UInt16) (mapTemplateId instanceId : UInt32) :
    Tidy A st (st.completePortalTransfer pending zoneId mapTemplateId instanceId) := by
  simp only [completePortalTransfer]
  split
  next => exact .emit rfl
  next => split <;> exact .emit rfl

/-- A portal transfer makes no enter record. -/
theorem tidy_beginPortalTransfer (st : WorldRuntime) (topology : Option ServerTopology)
    (request : PendingPortalTransfer) (assignSendOk : Bool) :
    Tidy A st (st.beginPortalTransfer topology request assignSendOk) := by
  unfold beginPortalTransfer
  extract_lets resolved assigned st₁
  have hassigned : Tidy A st st₁ :=
    .flow fun h => (h.resolvePortalTargetInstanceId ..).assignMapInstance ..
  refine hassigned.trans ?_
  split
  next => exact .flow fun h => h.congr rfl rfl rfl rfl
  next =>
    split
    next => exact .refl _
    next => exact tidy_completePortalTransfer _ _ _ _ _
  next => exact .refl _

/-- The portal transfer parked on a map-assign request comes last. -/
theorem Tidy.portal {portal : Option PendingPortalTransfer}
    {f : PendingPortalTransfer → WorldRuntime} (h : Tidy A st₁ st₂) (hp : ∀ p, Tidy A st₂ (f p)) :
    Tidy A st₁ (portal.elim st₂ f) := by
  cases portal with
  | none => exact h
  | some p => exact h.trans (hp p)

/-- The enters that wait for a map fail one after the other. -/
theorem tidy_failFinalizeList (st : WorldRuntime) (list : List PendingEnterWorldFinalize)
    (reason : EnterWorldResultCode) : Tidy A st (st.failFinalizeList list reason) := by
  refine Tidy.foldl (fun st e _ => ?_) st
  dsimp only
  split
  next => exact tidy_rollbackAndFail st _ reason
  next => exact .refl st

/-- A map answer moves the enters that wait for it on, one by one. -/
theorem tidy_onZoneMapAssignResponse (hrec : RecordsIn A st.flow) (sid serial : UInt32)
    (res : ZoneMapAssignResponse) (sendOk : UInt64 → Bool) :
    Tidy A st (st.onZoneMapAssignResponse sid serial res sendOk) := by
  simp only [onZoneMapAssignResponse]
  split
  next => exact .refl st
  next assign hfind =>
    split
    next => exact .refl st
    next =>
      refine (Tidy.dropAssign res.requestId assign.mapKey).trans ?_
      split_ifs
      · refine Tidy.portal (.foldl (fun st e _ => ?_) _) fun p => .emit rfl
        exact tidy_rollbackAndFail st _ _
      · exact Tidy.portal (tidy_failFinalizeList _ _ _) fun p => .emit rfl
      · refine Tidy.portal (.trans (.assignments _) (.foldl (fun st' e he => ?_) _)) fun p => ?_
        · split
          next =>
            have hmem : e ∈ st.flow.pendingEnterWorldFinalize := List.mem_of_mem_filter he
            exact tidy_finalizeEnterWorldSuccess st' _ _ _ _ _ (hrec.finalize e hmem)
          next => exact .refl st'
        · exact tidy_completePortalTransfer _ p _ _ _

theorem tidy_failPendingZoneAssignRequestsByZoneSid (st : WorldRuntime) (sid : UInt32) :
    Tidy A st (st.failPendingZoneAssignRequestsByZoneSid sid) := by
  refine Tidy.foldl (fun st assign _ => ?_) st
  refine (Tidy.dropAssign assign.requestId assign.mapKey).trans ?_
  exact Tidy.portal (tidy_failFinalizeList _ _ _) fun p => .emit rfl

/-- The dropped enters fail one after the other: induction on their list. -/
theorem tidy_failZonePlayerEnters (st : WorldRuntime)
    (dropped : PendingZonePlayerEnterRequest → Bool) (reason : EnterWorldResultCode) :
    Tidy A st (st.failZonePlayerEnters dropped reason) := by
  refine Tidy.foldl (fun st enter _ => ?_) st
  refine (Tidy.dropPlayerEnter (·.requestId ≠ enter.requestId)).trans ?_
  dsimp only
  split
  next => exact tidy_rollbackAndFail _ _ reason
  next => exact .refl _

/-- A lost zone fails what waited for it and drops its assignments. -/
theorem tidy_loseZoneRoute (st : WorldRuntime) (sid : UInt32) :
    Tidy A st (st.loseZoneRoute sid) := by
  have hassign : Tidy A st _ := .flow fun h => h.removeMapAssignmentsByZoneSid sid
  have hassigns := hassign.trans (tidy_failPendingZoneAssignRequestsByZoneSid _ sid)
  have henters := hassigns.trans
    (tidy_failZonePlayerEnters _ (·.targetSid == sid) .zonePlayerEnterRouteLost)
  exact henters.trans (.flow fun h => h.congr rfl rfl rfl rfl)

/-- Unregistering a zone fails what waited for it. -/
theorem tidy_unregisterZoneRoute (st : WorldRuntime) (sid serial : UInt32) :
    Tidy A st (st.unregisterZoneRoute sid serial) := by
  simp only [unregisterZoneRoute]
  split
  next => exact .refl st
  next =>
    split
    next => exact .refl st
    next => exact tidy_loseZoneRoute st sid

/-- The expiry fails what waited for the zones it loses. -/
theorem tidy_expireStaleZoneRoutes (st : WorldRuntime) (routes : List UInt32)
    (enters portals : List UInt64) :
    Tidy A st (st.expireStaleZoneRoutes routes enters portals) := by
  have hroutes : Tidy A st _ :=
    .foldl (l := st.flow.zoneRoutes.filter fun r => routes.contains r.sid)
    (fun st r _ => tidy_loseZoneRoute st r.sid) st
  have henters := hroutes.trans
    (tidy_failZonePlayerEnters _ (fun e => enters.contains e.requestId) .zonePlayerEnterTimeout)
  refine henters.trans (.foldl (fun st p _ => ?_) _)
  exact (Tidy.dropPortal (·.assignRequestId ≠ p.assignRequestId)).trans (.emit rfl)

/-! ### Closing -/

/-- Dropping orphaned assign requests touches no enter-world record. -/
theorem records_foldl_dropZoneAssign (ids : List UInt64) (f : EnterFlow) :
    (ids.foldl EnterFlow.dropZoneAssign f).pendingEnterWorldConsume = f.pendingEnterWorldConsume ∧
      (ids.foldl EnterFlow.dropZoneAssign f).pendingCharacterEnterSnapshot =
        f.pendingCharacterEnterSnapshot ∧
      (ids.foldl EnterFlow.dropZoneAssign f).pendingZonePlayerEnter =
        f.pendingZonePlayerEnter := by
  induction ids generalizing f with
  | nil => simp
  | cons id ids ih =>
      have hone : (f.dropZoneAssign id).pendingEnterWorldConsume = f.pendingEnterWorldConsume ∧
          (f.dropZoneAssign id).pendingCharacterEnterSnapshot = f.pendingCharacterEnterSnapshot ∧
          (f.dropZoneAssign id).pendingZonePlayerEnter = f.pendingZonePlayerEnter := by
        simp only [EnterFlow.dropZoneAssign]
        split <;> simp
      simpa [hone] using ih (f.dropZoneAssign id)

/-- An abort filters the records of the connection out of all four tables. -/
theorem flow_abortEnterWorldFlowBySession (st : WorldRuntime) {sid serial : UInt32}
    (hvalid : isValidSessionKey sid serial = true) :
    let f := (st.abortEnterWorldFlowBySession sid serial).flow
    f.pendingEnterWorldConsume =
        st.flow.pendingEnterWorldConsume.filter (fun p => !p.isOf sid serial) ∧
      f.pendingCharacterEnterSnapshot =
        st.flow.pendingCharacterEnterSnapshot.filter (fun p => !p.enterPending.isOf sid serial) ∧
      f.pendingEnterWorldFinalize =
        st.flow.pendingEnterWorldFinalize.filter (fun p => !p.enterPending.isOf sid serial) ∧
      f.pendingZonePlayerEnter =
        st.flow.pendingZonePlayerEnter.filter (fun p => !p.enterPending.isOf sid serial) := by
  simp [abortEnterWorldFlowBySession, hvalid,
    EnterFlow.erasePendingEnterWorldConsumeRequestsBySession,
    EnterFlow.erasePendingEnterWorldFinalizeBySession,
    EnterFlow.erasePendingCharacterEnterSnapshotRequestsBySession,
    EnterFlow.erasePendingZonePlayerEnterRequestsBySession, records_foldl_dropZoneAssign]

/-- The abort erases records and adds none. -/
theorem tidy_abortEnterWorldFlowBySession (st : WorldRuntime) (sid serial : UInt32) :
    Tidy A st (st.abortEnterWorldFlowBySession sid serial) := by
  cases hvalid : isValidSessionKey sid serial with
  | false =>
      simp only [abortEnterWorldFlowBySession, hvalid, if_true]
      exact .refl st
  | true =>
      obtain ⟨hc, hs, hf, hp⟩ := flow_abortEnterWorldFlowBySession st hvalid
      have hrec (h : RecordsIn A st.flow) :
          RecordsIn A (st.abortEnterWorldFlowBySession sid serial).flow :=
        h.mono (by simp [hc]) (by simp [hs]) (by simp [hf]) (by simp [hp])
      simp only [abortEnterWorldFlowBySession, hvalid, Bool.true_eq_false, if_false] at hrec ⊢
      exact (Tidy.stage (.abort sid serial) rfl trivial).trans (.flow hrec)

/-- `HandleWorldSessionClosed` ends the enter of the connection and queues
its close. -/
theorem handleWorldSessionClosed_eq (st : WorldRuntime) (sid serial : UInt32) :
    ∃ closeCharId closeReason, st.handleWorldSessionClosed sid serial =
      { st with
        reg := RegistryOp.apply st.reg (.close sid serial)
        flow := (st.abortEnterWorldFlowBySession sid serial).flow
        strand := st.strand ++ [.close sid serial closeCharId closeReason] } := by
  cases hvalid : isValidSessionKey sid serial with
  | false =>
      simp only [handleWorldSessionClosed, abortEnterWorldFlowBySession, hvalid, if_true,
        RegistryOp.apply, SessionRegistry.closeEnterWorldStage,
        SessionRegistry.abortEnterWorldStage, Bool.false_eq_true, if_false]
      exact ⟨_, _, rfl⟩
  | true =>
      simp only [handleWorldSessionClosed, abortEnterWorldFlowBySession, hvalid, Bool.true_eq_false,
        if_false]
      exact ⟨_, _, rfl⟩

/-- A close is queued on the strand. -/
theorem tidy_handleWorldSessionClosed (st : WorldRuntime) (sid serial : UInt32) :
    Tidy A st (st.handleWorldSessionClosed sid serial) := by
  obtain ⟨closeCharId, closeReason, heq⟩ := handleWorldSessionClosed_eq st sid serial
  rw [heq]
  have hstage : Tidy A st _ := .stage (.close sid serial) rfl trivial
  refine hstage.trans (.frame rfl rfl ⟨[], by simp⟩ fun h => ?_)
  exact (tidy_abortEnterWorldFlowBySession st sid serial).records h

/-- The close task releases its timer, unbinds the connection and posts the cleanup. -/
theorem tidy_processWorldSessionClosedOnIo (st : WorldRuntime) (sid serial : UInt32) :
    Tidy A st (st.processWorldSessionClosedOnIo sid serial) := by
  simp only [processWorldSessionClosedOnIo]
  split
  next => exact .refl st
  next =>
    exact (Tidy.delayed (st.delayed.releaseDelayedWorldCloseReservation sid serial).2).trans
      (.unbind sid serial)

/-- A close task arms the grace timer, or closes at once. -/
theorem tidy_runCloseTask (st : WorldRuntime) (sid serial : UInt32) (closeCharId : UInt64)
    (closeReason : WorldSessionCloseReason) :
    Tidy A st (st.runCloseTask sid serial closeCharId closeReason) := by
  simp only [runCloseTask]
  split
  next =>
    split
    next => exact .same rfl rfl rfl rfl
    next => exact (Tidy.delayed _).trans (tidy_processWorldSessionClosedOnIo _ sid serial)
  next => exact tidy_processWorldSessionClosedOnIo st sid serial

/-- The kick aborts the enters of the displaced connection, marks the reason and arms the
close. -/
theorem tidy_processDuplicateWorldSessionKickOnIo (st : WorldRuntime)
    (ctx : DuplicateLoginLogContext) :
    Tidy A st (st.processDuplicateWorldSessionKickOnIo ctx) := by
  simp only [processDuplicateWorldSessionKickOnIo]
  split
  next => exact .refl st
  next =>
    have hmarked := (tidy_abortEnterWorldFlowBySession (A := A) st ctx.sid ctx.serial).trans
      (.stage (.markCloseReason ctx.sid ctx.serial .duplicateKick) rfl trivial)
    refine hmarked.trans ?_
    split
    next => exact .refl _
    next =>
      split
      next => exact .same rfl rfl rfl rfl
      next => exact .same rfl rfl rfl (TcpServer.slotSerials_close _ _ _)

theorem tidy_onDelayedCloseTimer (st : WorldRuntime) (t : CloseTimer) (aborted : Bool) :
    Tidy A st (st.onDelayedCloseTimer t aborted) := by
  simp only [onDelayedCloseTimer]
  split
  next => exact .same rfl rfl rfl rfl
  next => exact .same rfl rfl rfl (TcpServer.slotSerials_close _ _ _)

theorem tidy_runStrandTask (st : WorldRuntime) (task : StrandTask) :
    Tidy A st (st.runStrandTask task) := by
  cases task with
  | close sid serial closeCharId closeReason =>
      exact tidy_runCloseTask st sid serial closeCharId closeReason
  | kick ctx => exact tidy_processDuplicateWorldSessionKickOnIo st ctx

/-- A disconnect aborts the pending enters and queues the close. -/
theorem tidy_handleDisconnected (st : WorldRuntime) (sid serial : UInt32) :
    Tidy A st (st.handleDisconnected sid serial) := by
  simp only [handleDisconnected]
  split
  next =>
    exact (tidy_handleWorldSessionClosed st sid serial).trans (.same rfl rfl rfl rfl)
  next => exact .same rfl rfl rfl rfl

/-! ### Packets -/

/-- A logout marks the close reason; the unbind comes with the close task. -/
theorem tidy_handleLogoutWorld (st : WorldRuntime) (sid serial : UInt32)
    (logoutType : LogoutType) : Tidy A st (st.handleLogoutWorld sid serial logoutType) := by
  simp only [handleLogoutWorld]
  split
  next => exact .refl st
  next =>
    split
    next => exact .refl st
    next =>
      generalize (if logoutType = .hard then WorldSessionCloseReason.explicitHardLogout
        else .explicitSoftLogout) = reason
      have hmark : Tidy A st _ := .stage (.markCloseReason sid serial reason) rfl trivial
      exact hmark.trans (.same rfl rfl rfl (TcpServer.slotSerials_close _ _ _))

/-- An accepted enter packet leaves one record, under its own connection. -/
theorem tidy_handleEnterWorldWithToken (st : WorldRuntime) {sid serial : UInt32}
    (accountId : UInt64) (loginSession worldToken : String) (ready sent : Bool)
    (hA : A sid serial) :
    Tidy A st (st.handleEnterWorldWithToken sid serial accountId loginSession worldToken ready
      sent) := by
  simp only [handleEnterWorldWithToken]
  have hrequest := tidy_requestConsumeWorldAuthTicket st accountId loginSession worldToken ready
    sent hA
  split
  next => exact .refl st
  next =>
    split
    next => exact hrequest
    next => exact hrequest.trans (.emit rfl)

/-! ## All handlers -/

/-- What every handler but those of gameplay packets does: see the module
header. -/
structure HandledFor (A : UInt32 → UInt32 → Prop) (st st' : WorldRuntime) : Prop where
  reg : ∃ ops, st'.reg = run RegistryOp.apply st.reg ops ∧ ∀ op ∈ ops, op.ActsFor A
  out : ∃ os, st'.out = st.out ++ os ∧ ∀ o ∈ os, o.isApplied = false
  records : RecordsIn A st.flow → RecordsIn A st'.flow
  slotSerials : st'.tcp.slotSerials = st.tcp.slotSerials

namespace HandledFor

/-- Two handled steps after one another are one. -/
theorem trans (h₁ : HandledFor A st₁ st₂) (h₂ : HandledFor A st₂ st₃) : HandledFor A st₁ st₃ := by
  obtain ⟨ops₁, hreg₁, hops₁⟩ := h₁.reg
  obtain ⟨ops₂, hreg₂, hops₂⟩ := h₂.reg
  obtain ⟨os₁, hout₁, hos₁⟩ := h₁.out
  obtain ⟨os₂, hout₂, hos₂⟩ := h₂.out
  refine ⟨⟨ops₁ ++ ops₂, ?_, ?_⟩, ⟨os₁ ++ os₂, ?_, ?_⟩, ?_, ?_⟩
  · rw [hreg₂, hreg₁, run_append]
  · intro op hop
    exact (List.mem_append.mp hop).elim (hops₁ op) (hops₂ op)
  · rw [hout₂, hout₁, List.append_assoc]
  · intro o ho
    exact (List.mem_append.mp ho).elim (hos₁ o) (hos₂ o)
  · exact fun h => h₂.records (h₁.records h)
  · exact h₂.slotSerials.trans h₁.slotSerials

/-- One registry operation, with outputs. -/
theorem op {st' : WorldRuntime} (op : RegistryOp) (hop : op.ActsFor A)
    (hreg : st'.reg = op.apply st.reg)
    (hout : ∃ os, st'.out = st.out ++ os ∧ ∀ o ∈ os, o.isApplied = false)
    (hflow : st'.flow = st.flow) (htcp : st'.tcp = st.tcp) : HandledFor A st st' where
  reg := ⟨[op], hreg, by simpa using hop⟩
  out := hout
  records := by rw [hflow]; exact id
  slotSerials := by rw [htcp]

end HandledFor

theorem Output.isApplied_of_isNotice {o : Output} (h : o.isNotice = true) :
    o.isApplied = false := by
  cases o <;> simp_all [Output.isNotice, Output.isApplied]

/-- A tidy change is the case in which nobody is bound. -/
theorem Tidy.handledFor (h : Tidy A st₁ st₂) : HandledFor A st₁ st₂ := by
  induction h with
  | frame hreg hserials hout hrec =>
      obtain ⟨os, hos, hnotice⟩ := hout
      exact ⟨⟨[], hreg, by simp⟩,
        ⟨os, hos, fun o ho => Output.isApplied_of_isNotice (hnotice o ho)⟩,
        hrec, hserials⟩
  | stage op _ hop => exact .op op hop rfl ⟨[], by simp⟩ rfl rfl
  | unbind sid serial =>
      refine .op (.session (.unbind sid serial)) trivial ?_ ?_ ?_ ?_ <;>
        simp only [unbindAndCleanup, cleanupClosedWorldSessionActors]
      · split <;> rfl
      · split
        next => exact ⟨[], by simp⟩
        next => exact ⟨_, rfl, by simp [Output.isApplied]⟩
      · split <;> rfl
      · split <;> rfl
  | trans _ _ ih₁ ih₂ => exact ih₁.trans ih₂

/-! ### Binding -/

/-- The kicks of a bind are tidy. -/
theorem tidy_bindAuthenticatedWorldSessionForLogin (st : WorldRuntime) (accountId charId : UInt64)
    (sid serial : UInt32) (bytes : Vector UInt8 32) :
    Tidy A
      { st with
        reg := (st.reg.bindAuthenticatedWorldSessionForLogin accountId charId sid serial bytes).2 }
      (st.bindAuthenticatedWorldSessionForLogin accountId charId sid serial bytes).2 := by
  simp only [bindAuthenticatedWorldSessionForLogin]
  split <;> split
  · exact (tidy_enqueueDuplicateAuthedSessionCloseIfNeeded _ _ _ _ _ _).trans
      (tidy_enqueueDuplicateAuthedSessionCloseIfNeeded _ _ _ _ _ _)
  · exact tidy_enqueueDuplicateAuthedSessionCloseIfNeeded _ _ _ _ _ _
  · exact tidy_enqueueDuplicateAuthedSessionCloseIfNeeded _ _ _ _ _ _
  · exact .refl _

/-- The snapshot result is good, and its pending record begins an enter. -/
structure BeginsEnter (st : WorldRuntime) (rr : SnapshotResult)
    (snapshot : PendingCharacterEnterSnapshotRequest) : Prop where
  pending : st.flow.pendingCharacterEnterSnapshot.find? (·.requestId == rr.requestId) =
    some snapshot
  found : rr.found = true
  success : rr.success = true
  valid : rr.coreState.identity.valid = true
  started : (st.reg.tryBeginEnterWorldSession snapshot.enterPending.sid
    snapshot.enterPending.serial snapshot.enterPending.accountId
    snapshot.enterPending.charId).1.kind = .started

/-- A snapshot result is tidy, or it begins the enter of a pending record,
binds its connection and goes on tidily. -/
theorem onCharacterEnterSnapshotResult_cases (hrec : RecordsIn A st.flow)
    (topology : Option ServerTopology) (rr : SnapshotResult) (answers : EnterAnswers) :
    Tidy A st (st.onCharacterEnterSnapshotResult topology rr answers) ∨
      ∃ snapshot f,
        BeginsEnter st rr snapshot ∧ RecordsIn A f ∧
          let p := snapshot.enterPending
          Tidy A
            { st with
              flow := f
              reg := ((st.reg.tryBeginEnterWorldSession p.sid p.serial p.accountId
                p.charId).2.bindAuthenticatedWorldSessionForLogin p.accountId p.charId p.sid p.serial
                answers.bytes).2 }
            (st.onCharacterEnterSnapshotResult topology rr answers) := by
  unfold onCharacterEnterSnapshotResult
  split
  next => exact .inl (.refl st)
  next snapshot hfind =>
    dsimp only
    have hA := hrec.snapshot snapshot (List.mem_of_find?_eq_some hfind)
    have hdrop : Tidy A st _ := .dropSnapshot (·.requestId ≠ rr.requestId)
    split
    next => exact .inl (hdrop.trans (tidy_failPendingEnterWorldConsumeRequest _ _ _))
    next hgood =>
      simp only [not_or, Bool.not_eq_false] at hgood
      split
      next =>
        refine .inl (hdrop.trans (.trans (.stage (.tryBegin snapshot.enterPending.sid
          snapshot.enterPending.serial snapshot.enterPending.accountId
          snapshot.enterPending.charId) rfl hA) (.emit rfl)))
      next hstarted =>
        refine .inr ⟨snapshot, _, ⟨hfind, hgood.1, hgood.2.1, hgood.2.2, not_not.mp hstarted⟩,
          hdrop.records hrec, ?_⟩
        have hbind := tidy_bindAuthenticatedWorldSessionForLogin (A := A)
          { st with
            flow := { st.flow with
              pendingCharacterEnterSnapshot :=
                st.flow.pendingCharacterEnterSnapshot.filter (·.requestId ≠ rr.requestId) }
            reg := (st.reg.tryBeginEnterWorldSession snapshot.enterPending.sid
              snapshot.enterPending.serial snapshot.enterPending.accountId
              snapshot.enterPending.charId).2 }
          snapshot.enterPending.accountId snapshot.enterPending.charId snapshot.enterPending.sid
          snapshot.enterPending.serial answers.bytes
        refine hbind.trans ?_
        split
        next =>
          exact Tidy.trans (.stage (.cancel snapshot.enterPending.sid snapshot.enterPending.serial
            snapshot.enterPending.charId) rfl trivial) (.emit rfl)
        next => exact tidy_assignAfterBind _ topology _ answers hA

/-- A snapshot result is where an enter gets bound, under the connection of its record. -/
theorem handledFor_onCharacterEnterSnapshotResult (hrec : RecordsIn A st.flow)
    (topology : Option ServerTopology) (rr : SnapshotResult) (answers : EnterAnswers) :
    HandledFor A st (st.onCharacterEnterSnapshotResult topology rr answers) := by
  obtain htidy | ⟨snapshot, f, hbegins, hf, htidy⟩ :=
    onCharacterEnterSnapshotResult_cases hrec topology rr answers
  · exact htidy.handledFor
  · have hA := hrec.snapshot snapshot (List.mem_of_find?_eq_some hbegins.pending)
    refine HandledFor.trans ?_ htidy.handledFor
    refine ⟨⟨[.tryBegin snapshot.enterPending.sid snapshot.enterPending.serial
        snapshot.enterPending.accountId snapshot.enterPending.charId,
        .session (.bind snapshot.enterPending.accountId snapshot.enterPending.charId
          snapshot.enterPending.sid snapshot.enterPending.serial answers.bytes)], rfl, ?_⟩,
      ⟨[], by simp⟩, fun _ => hf, rfl⟩
    simp [RegistryOp.ActsFor, hA]

/-! ### Completing -/

/-- A player-enter ack is tidy, or it completes the enter of its record. -/
theorem onZonePlayerEnterAck_cases (sid serial : UInt32) (ack : ZonePlayerEnterAck)
    (notified : Bool) (bytes : Vector UInt8 32) :
    Tidy A st (st.onZonePlayerEnterAck sid serial ack notified bytes) ∨
      ∃ enter st₁,
        st.flow.pendingZonePlayerEnter.find? (·.requestId == ack.requestId) = some enter ∧
          Tidy A st st₁ ∧ st₁.reg = st.reg ∧ st₁.out = st.out ∧
          st.onZonePlayerEnterAck sid serial ack notified bytes =
            st₁.completeEnterWorldSuccessAfterZoneAck enter notified bytes := by
  unfold onZonePlayerEnterAck
  split
  next => exact .inl (.refl st)
  next enter hfind =>
    have hdrop : Tidy A st _ := .dropPlayerEnter (·.requestId ≠ ack.requestId)
    split
    next => exact .inl (.refl st)
    next =>
      dsimp only
      split
      next => exact .inl hdrop
      next =>
        split
        next => exact .inl (hdrop.trans (tidy_rollbackAndFail _ _ _))
        next =>
          split
          next => exact .inl (hdrop.trans (tidy_rollbackAndFail _ _ _))
          next => exact .inr ⟨enter, _, hfind, hdrop, rfl, rfl, rfl⟩

/-- The state in which a completed enter is announced: the connection is
promoted, and the actor task that joins the zone is posted. -/
def announceEnter (st : WorldRuntime) (enter : PendingZonePlayerEnterRequest) : WorldRuntime :=
  let p := enter.enterPending
  let st :=
    emit { st with reg := (st.reg.promoteEnterWorldSessionToInWorld p.sid p.serial p.charId).2 }
      (.enterPosted p.charId p.sid p.serial enter.targetZoneId enter.mapTemplateId enter.instanceId
        enter.coreState)
  if enter.cachedStateBlob ≠ [] then st.emit (.cached 0 p.charId enter.cachedStateBlob) else st

/-- The leave of an enter that was announced and then taken back. -/
def leaveAnnounced (st : WorldRuntime) (enter : PendingZonePlayerEnterRequest) : WorldRuntime :=
  let p := enter.enterPending
  let st :=
    { st with reg := (st.reg.cancelPendingEnterWorldSession p.sid p.serial p.charId) }
  beginLeaveWorld
    { st with reg := (st.reg.unbindAuthenticatedWorldSessionBySid p.sid p.serial).2 }
    { charId := p.charId, sid := p.sid, serial := p.serial, zoneId := enter.targetZoneId
      mapTemplateId := enter.mapTemplateId, instanceId := enter.instanceId }

/-- Completing an enter does nothing, announces it, or announces it and takes
it back because the account server could not be told. -/
theorem completeEnterWorldSuccessAfterZoneAck_cases (st : WorldRuntime)
    (enter : PendingZonePlayerEnterRequest) (notified : Bool) (bytes : Vector UInt8 32) :
    let p := enter.enterPending
    let st' := st.completeEnterWorldSuccessAfterZoneAck enter notified bytes
    let promoted := st.reg.promoteEnterWorldSessionToInWorld p.sid p.serial p.charId
    (promoted.1 = false ∧ st' = st) ∨
      (promoted.1 = true ∧ notified = true ∧
        st' = emit
          { st.announceEnter enter with
            reg := ((st.announceEnter enter).reg.getOrCreateReconnectTokenForSession p.sid p.serial
              bytes).2 }
          (.enterWorldResult p true .success)) ∨
      (promoted.1 = true ∧ notified = false ∧
        st' = ((st.announceEnter enter).leaveAnnounced enter).failPendingEnterWorldConsumeRequest p
          .accountEnterNotifyFailed) := by
  dsimp only
  cases hp : (st.reg.promoteEnterWorldSessionToInWorld enter.enterPending.sid
      enter.enterPending.serial enter.enterPending.charId).1 with
  | false => simp [completeEnterWorldSuccessAfterZoneAck, hp]
  | true =>
      cases notified with
      | true =>
          refine .inr (.inl ⟨rfl, rfl, ?_⟩)
          simp only [completeEnterWorldSuccessAfterZoneAck, hp, Bool.true_eq_false, if_false]
          rfl
      | false =>
          refine .inr (.inr ⟨rfl, rfl, ?_⟩)
          simp only [completeEnterWorldSuccessAfterZoneAck, hp, Bool.true_eq_false, if_false,
            if_true]
          rfl

/-- The announcement posts to the player actor of the enter itself. -/
theorem handledFor_announceEnter (st : WorldRuntime) (enter : PendingZonePlayerEnterRequest)
    (hA : A enter.enterPending.sid enter.enterPending.serial) :
    HandledFor A st (st.announceEnter enter) := by
  refine .op (.promote enter.enterPending.sid enter.enterPending.serial enter.enterPending.charId)
    hA ?_ ?_ ?_ ?_ <;> simp only [announceEnter]
  · split <;> rfl
  · split
    next => exact ⟨[_, _], List.append_assoc _ _ _, by simp [Output.isApplied]⟩
    next => exact ⟨[_], rfl, by simp [Output.isApplied]⟩
  · split <;> rfl
  · split <;> rfl

/-- Taking the announcement back posts to the same actor. -/
theorem handledFor_leaveAnnounced (st : WorldRuntime) (enter : PendingZonePlayerEnterRequest) :
    HandledFor A st (st.leaveAnnounced enter) := by
  have hcancel : Tidy A st _ := .stage (.cancel enter.enterPending.sid enter.enterPending.serial
    enter.enterPending.charId) rfl trivial
  refine hcancel.handledFor.trans (.op (.session (.unbind enter.enterPending.sid
    enter.enterPending.serial)) trivial ?_ ?_ ?_ ?_) <;>
    simp only [leaveAnnounced, beginLeaveWorld]
  · split <;> rfl
  · split
    next => exact ⟨[], by simp⟩
    next => exact ⟨_, rfl, by simp [Output.isApplied]⟩
  · split <;> rfl
  · split <;> rfl

/-- The acknowledgement ends one enter, matched by its request id. -/
theorem handledFor_onZonePlayerEnterAck (hrec : RecordsIn A st.flow) (sid serial : UInt32)
    (ack : ZonePlayerEnterAck) (notified : Bool) (bytes : Vector UInt8 32) :
    HandledFor A st (st.onZonePlayerEnterAck sid serial ack notified bytes) := by
  obtain htidy | ⟨enter, st₁, hfind, htidy, -, -, heq⟩ :=
    onZonePlayerEnterAck_cases (A := A) sid serial ack notified bytes
  · exact htidy.handledFor
  · have hA := hrec.playerEnter enter (List.mem_of_find?_eq_some hfind)
    have hannounce := htidy.handledFor.trans (handledFor_announceEnter st₁ enter hA)
    rw [heq]
    obtain ⟨-, h⟩ | ⟨-, -, h⟩ | ⟨-, -, h⟩ :=
      completeEnterWorldSuccessAfterZoneAck_cases st₁ enter notified bytes
    · rw [h]
      exact htidy.handledFor
    · rw [h]
      refine hannounce.trans (.op (.session (.getOrCreateReconnectToken enter.enterPending.sid
        enter.enterPending.serial bytes)) hA rfl ⟨_, rfl, ?_⟩ rfl rfl)
      simp [Output.isApplied]
    · rw [h]
      refine (hannounce.trans (handledFor_leaveAnnounced _ enter)).trans ?_
      exact (tidy_failPendingEnterWorldConsumeRequest _ _ _).handledFor

/-! ### Reconnecting -/

/-- A reconnect packet fails without effect on the sessions of others, or
moves the session it names to its connection. -/
theorem handledFor_handleReconnectWorld (st : WorldRuntime) {sid serial : UInt32}
    (accountId charId : UInt64) (token : String) (hA : A sid serial) :
    HandledFor A st (st.handleReconnectWorld sid serial accountId charId token) := by
  simp only [handleReconnectWorld]
  split
  next => exact (Tidy.refl st).handledFor
  next =>
    have hop : (RegistryOp.session (.reconnect accountId charId token sid serial)).ActsFor A := hA
    split
    next => exact .op _ hop rfl ⟨[], by simp⟩ rfl rfl
    next => exact .op _ hop rfl ⟨_, rfl, by simp [Output.isApplied]⟩ rfl rfl

/-! ## Steps -/

/-- The connection a client packet must have for its handler to act for
connections in `A` only: packets that begin an enter or reconnect act for
their own connection. -/
def PacketFor (A : UInt32 → UInt32 → Prop) (sid serial : UInt32) : ClientPacket → Prop
  | .enterWorldWithToken .. | .reconnectWorld .. => A sid serial
  | .logoutWorld _ | .gameplay _ => True

/-- The events that act for connections in `A`. -/
def Event.ActsFor (A : UInt32 → UInt32 → Prop) : Event → Prop
  | .netTask (.packet sid serial p) _ _ => PacketFor A sid serial p
  | _ => True

/-- A gameplay packet whose task is run. -/
def Event.isGameplay : Event → Bool
  | .netTask (.packet _ _ (.gameplay _)) _ _ => true
  | _ => false

/-- The events whose handlers are tidy. -/
def Event.isTidy : Event → Bool
  | .accept | .netTask (.packet _ _ (.gameplay _)) _ _ |
    .netTask (.packet _ _ (.reconnectWorld ..)) _ _ | .snapshotResult .. |
    .zonePlayerEnterAck .. => false
  | _ => true

/-- Choosing an order for the hash tables keeps the records. -/
theorem RecordsIn.perm {f : EnterFlow} (h : RecordsIn A f) {routes : List ZoneRouteState}
    {assigns : List PendingZoneAssignRequest} {enters : List PendingZonePlayerEnterRequest}
    (hperm : enters.Perm f.pendingZonePlayerEnter) :
    RecordsIn A { f with
      zoneRoutes := routes, pendingZoneAssign := assigns, pendingZonePlayerEnter := enters } :=
  h.mono (by simp) (by simp) (by simp) hperm.subset

/-- The step lemma for the events that bind nobody, one case for each event. -/
theorem tidy_step (topology : Option ServerTopology) {e : Event} (hrec : RecordsIn A st.flow)
    (hA : e.ActsFor A) (htidy : e.isTidy = true) : Tidy A st (step topology st e) := by
  cases e with
  | accept => simp [Event.isTidy] at htidy
  | receive sid serial p =>
      simp only [step]
      split
      next => exact .same rfl rfl rfl rfl
      next => exact .refl st
  | terminate sid serial =>
      simp only [step]
      split
      next => exact .same rfl rfl rfl (TcpServer.slotSerials_terminate _ _ _)
      next => exact .refl st
  | netTask task ready sent =>
      simp only [step]
      split
      next =>
        have htaken : Tidy A st { st with netTasks := st.netTasks.erase task } :=
          .same rfl rfl rfl rfl
        refine htaken.trans ?_
        cases task with
        | connected sid serial => exact .same rfl rfl rfl rfl
        | packet sid serial p =>
            simp only [runNetTask, handlePacket, getLatestSerial, Table.set_self, Option.getD_some]
            refine Tidy.trans (.serials (st.sessionSerials.set sid serial)) ?_
            cases p with
            | enterWorldWithToken accountId loginSession worldToken =>
                exact tidy_handleEnterWorldWithToken _ _ _ _ _ _ hA
            | logoutWorld logoutType => exact tidy_handleLogoutWorld _ _ _ _
            | reconnectWorld accountId charId token => simp [Event.isTidy] at htidy
            | gameplay op => simp [Event.isTidy] at htidy
        | disconnected sid serial => exact tidy_handleDisconnected _ sid serial
      next => exact .refl st
  | strand =>
      simp only [step]
      split
      next => exact .refl st
      next task rest _ =>
        have htaken : Tidy A st { st with strand := rest } := .same rfl rfl rfl rfl
        exact htaken.trans (tidy_runStrandTask _ task)
  | timer id aborted =>
      simp only [step]
      split
      next => exact .refl st
      next t _ =>
        split
        next => exact .refl st
        next => exact tidy_onDelayedCloseTimer st t aborted
  | ticketConsumeResponse res pushed =>
      exact tidy_onWorldAuthTicketConsumeResponse hrec res pushed
  | snapshotResult rr answers => simp [Event.isTidy] at htidy
  | zoneMapAssignResponse sid serial res sendOk =>
      exact tidy_onZoneMapAssignResponse hrec sid serial res sendOk
  | zonePlayerEnterAck sid serial ack notified bytes => simp [Event.isTidy] at htidy
  | registerZoneRoute hello =>
      have h : RecordsIn A st.flow → RecordsIn A (st.flow.registerZoneRoute topology hello) :=
        fun h => h.congr rfl rfl rfl rfl
      exact .flow h
  | zoneRouteHeartbeat beat =>
      have h : RecordsIn A st.flow → RecordsIn A (st.flow.onZoneRouteHeartbeat topology beat) :=
        fun h => h.congr rfl rfl rfl rfl
      exact .flow h
  | unregisterZoneRoute sid serial => exact tidy_unregisterZoneRoute st sid serial
  | expireStaleZoneRoutes routes enters portals =>
      exact tidy_expireStaleZoneRoutes st routes enters portals
  | beginPortalTransfer request assignSendOk =>
      exact tidy_beginPortalTransfer st topology request assignSendOk
  | rehash routes assigns enters =>
      simp only [step]
      split
      next hperm => exact .flow fun h => h.perm hperm.2.2
      next => exact .refl st

/-- A gameplay packet only adds outputs. -/
theorem step_of_isGameplay (topology : Option ServerTopology) (st : WorldRuntime) {e : Event}
    (he : e.isGameplay = true) :
    (step topology st e).reg = st.reg ∧ (step topology st e).flow = st.flow ∧
      (step topology st e).tcp = st.tcp ∧ ∃ os, (step topology st e).out = st.out ++ os := by
  cases e with
  | netTask task ready sent =>
      cases task with
      | packet sid serial p =>
          cases p with
          | gameplay op =>
              simp only [step, runNetTask, handlePacket, handleGameplay]
              split
              next => split <;> exact ⟨rfl, rfl, rfl, _, rfl⟩
              next => exact ⟨rfl, rfl, rfl, [], by simp⟩
          | _ => simp [Event.isGameplay] at he
      | _ => simp [Event.isGameplay] at he
  | _ => simp [Event.isGameplay] at he

/-- An accept and a gameplay packet leave the registry and the pending
records alone. -/
theorem step_of_accept_or_gameplay (topology : Option ServerTopology) (st : WorldRuntime)
    {e : Event} (he : e = .accept ∨ e.isGameplay = true) :
    (step topology st e).reg = st.reg ∧ (step topology st e).flow = st.flow ∧
      ∃ os, (step topology st e).out = st.out ++ os := by
  rcases he with rfl | he
  · exact ⟨rfl, rfl, [], by simp [step]⟩
  · obtain ⟨hreg, hflow, -, hout⟩ := step_of_isGameplay topology st he
    exact ⟨hreg, hflow, hout⟩

/-- **What a step can do**: every event but an accept and a gameplay packet
is handled for the connections it acts for and those of the pending records. -/
theorem handledFor_step (topology : Option ServerTopology) {e : Event}
    (hrec : RecordsIn A st.flow) (hA : e.ActsFor A) (haccept : e ≠ .accept)
    (hgameplay : e.isGameplay = false) : HandledFor A st (step topology st e) := by
  cases htidy : e.isTidy with
  | true => exact (tidy_step topology hrec hA htidy).handledFor
  | false =>
      cases e with
      | accept => exact absurd rfl haccept
      | netTask task ready sent =>
          simp only [step]
          split
          next =>
            have htaken : Tidy A st { st with netTasks := st.netTasks.erase task } :=
              .same rfl rfl rfl rfl
            refine htaken.handledFor.trans ?_
            cases task with
            | packet sid serial p =>
                simp only [runNetTask, handlePacket, getLatestSerial, Table.set_self, Option.getD_some]
                refine (Tidy.serials (st.sessionSerials.set sid serial)).handledFor.trans ?_
                cases p with
                | reconnectWorld accountId charId token =>
                    exact handledFor_handleReconnectWorld _ _ _ _ hA
                | gameplay op => simp [Event.isGameplay] at hgameplay
                | _ => simp [Event.isTidy] at htidy
            | _ => simp [Event.isTidy] at htidy
          next => exact (Tidy.refl st).handledFor
      | snapshotResult rr answers =>
          exact handledFor_onCharacterEnterSnapshotResult hrec topology rr answers
      | zonePlayerEnterAck sid serial ack notified bytes =>
          exact handledFor_onZonePlayerEnterAck hrec sid serial ack notified bytes
      | _ => simp [Event.isTidy] at htidy

/-! ## The outputs and the registry of a run -/

theorem recordsIn_true (f : EnterFlow) : RecordsIn (fun _ _ => True) f := by
  constructor <;> simp

theorem Event.actsFor_true (e : Event) : e.ActsFor fun _ _ => True := by
  unfold Event.ActsFor PacketFor
  split
  next => split <;> trivial
  next => trivial

/-- Outputs are only added. -/
theorem exists_out_step (topology : Option ServerTopology) (st : WorldRuntime) (e : Event) :
    ∃ os, (step topology st e).out = st.out ++ os := by
  by_cases he : e = .accept ∨ e.isGameplay = true
  · obtain ⟨-, -, os, hos⟩ := step_of_accept_or_gameplay topology st he
    exact ⟨os, hos⟩
  · simp only [not_or, Bool.not_eq_true] at he
    have hstep := handledFor_step topology (recordsIn_true st.flow) e.actsFor_true he.1 he.2
    obtain ⟨os, hos, -⟩ := hstep.out
    exact ⟨os, hos⟩

/-- Every step works on the registry by registry operations. -/
theorem exists_registryOps_step (topology : Option ServerTopology) (st : WorldRuntime) (e : Event) :
    ∃ ops, (step topology st e).reg = run RegistryOp.apply st.reg ops := by
  by_cases he : e = .accept ∨ e.isGameplay = true
  · exact ⟨[], (step_of_accept_or_gameplay topology st he).1⟩
  · simp only [not_or, Bool.not_eq_true] at he
    have hstep := handledFor_step topology (recordsIn_true st.flow) e.actsFor_true he.1 he.2
    obtain ⟨ops, hreg, -⟩ := hstep.reg
    exact ⟨ops, hreg⟩

/-- **The runtime runs on the registry model**: whatever happens, the registry
has gone through a sequence of registry operations. -/
theorem exists_registryOps_run (topology : Option ServerTopology) (st : WorldRuntime)
    (es : List Event) :
    ∃ ops, (run (step topology) st es).reg = run RegistryOp.apply st.reg ops := by
  induction es generalizing st with
  | nil => exact ⟨[], rfl⟩
  | cons e es ih =>
      obtain ⟨ops₁, h₁⟩ := exists_registryOps_step topology st e
      obtain ⟨ops₂, h₂⟩ := ih (step topology st e)
      exact ⟨ops₁ ++ ops₂, by rw [run_cons, h₂, h₁, run_append]⟩

/-- Every session is stored under its own slot, whatever happens. -/
theorem storedWellFormed_step (topology : Option ServerTopology) (e : Event)
    (hwf : st.reg.StoredWellFormed) : (step topology st e).reg.StoredWellFormed := by
  obtain ⟨ops, hreg⟩ := exists_registryOps_step topology st e
  rw [hreg]
  exact run_induction hwf fun r op h => RegistryOp.storedWellFormed_apply h op

/-- A client asks to enter as character 11 and again as character 22; the
snapshot of the first arrives and its enter waits for a zone, then the load
of the second fails. -/
def secondEnterFails : List Event :=
  zoneUp :: connect 1 1 ++ askToEnter 1 1 100 11 0 ++
    (answersToEnter 100 11 0).take 1 ++ askToEnter 1 1 100 22 1 ++
    [.snapshotResult ⟨4, false, false, makeDefaultCharacterCoreState 100 22⟩
      ⟨.replicate 32 0, true, true⟩]

/-- The failure for character 22 clears the stage of the connection, and the
pending entry of character 11 is left without one. -/
theorem not_stagesAgree_secondEnterFails :
    ¬ (run (step none) initial secondEnterFails).reg.StagesAgree := by
  intro h
  have hstage := h.stage_of_entry 11 (packSessionKey 1 1) (by decide)
  exact absurd hstage (by decide)

end WorldRuntime

end GameServer
