import GameServer.World.EnterAnswers
import GameServer.World.EnterTarget

/-!
# GameServer.World.WaitingEnters

The enters that wait for the ack of their zone, and the closes that wait for
their turn.

A player-enter that was sent is recorded in
`pending_zone_player_enter_requests_` until its ack is read, or until it is
given up: at a timeout, when the zone connection is lost, or when the
connection of the client is closed or kicked.  All other handlers leave the
record alone.

* `SameEnters` — a handler that has nothing to do with these enters;
* `EntersStay keep` — a handler that lets the enters go that are not `keep`;
* `entersStay_step` — which enters an event lets go (`Keeps`).
-/

namespace GameServer

/-- The enters that wait for their zone, and the next request id. -/
def EnterFlow.enterView (f : EnterFlow) : List PendingZonePlayerEnterRequest × UInt64 :=
  (f.pendingZonePlayerEnter, f.nextZonePlayerEnterRequestId)

namespace EnterFlow

/-- Assigning a map instance asks a zone server and records no enter. -/
theorem enterView_assignMapInstance (f : EnterFlow) (topology : Option ServerTopology)
    (mapTemplateId instanceId : UInt32) (dungeonInstance sendOk : Bool) :
    (f.assignMapInstance topology mapTemplateId instanceId dungeonInstance sendOk).2.enterView =
      f.enterView := by
  unfold assignMapInstance
  dsimp only
  repeat' split
  all_goals rfl

/-- Choosing the instance behind a portal counts instances only. -/
theorem enterView_resolvePortalTargetInstanceId (f : EnterFlow)
    (mapTemplateId requestedInstanceId : UInt32) :
    (f.resolvePortalTargetInstanceId mapTemplateId requestedInstanceId).2.enterView =
      f.enterView := by
  unfold resolvePortalTargetInstanceId
  split
  · rfl
  split <;> rfl

end EnterFlow

namespace WorldRuntime

variable {st st' st₁ st₂ st₃ : WorldRuntime}

/-! ## Handlers beside the enters -/

/-- The enters that wait for their zone are the same, and closes are only
queued. -/
structure SameEnters (st st' : WorldRuntime) : Prop where
  view : st'.flow.enterView = st.flow.enterView
  strand : st.strand <+: st'.strand

namespace SameEnters

theorem refl (st : WorldRuntime) : SameEnters st st := ⟨rfl, List.prefix_rfl⟩

theorem trans (h₁ : SameEnters st₁ st₂) (h₂ : SameEnters st₂ st₃) : SameEnters st₁ st₃ :=
  ⟨h₂.view.trans h₁.view, h₁.strand.trans h₂.strand⟩

/-- A change of the registry, the outputs and what else does not show. -/
theorem idle (hflow : st'.flow = st.flow) (hstrand : st'.strand = st.strand) :
    SameEnters st st' :=
  ⟨by rw [hflow], by rw [hstrand]⟩

/-- A handler that first changes something that does not show. -/
theorem after (h : SameEnters st₂ st₃) (hflow : st₂.flow = st₁.flow)
    (hstrand : st₂.strand = st₁.strand) : SameEnters st₁ st₃ :=
  trans (idle hflow hstrand) h

theorem flow {f : EnterFlow} (h : f.enterView = st.flow.enterView) :
    SameEnters st { st with flow := f } :=
  ⟨h, List.prefix_rfl⟩

theorem foldl {α : Type} {f : WorldRuntime → α → WorldRuntime} {l : List α}
    (h : ∀ st a, SameEnters st (f st a)) (st : WorldRuntime) : SameEnters st (l.foldl f st) :=
  foldl_of_trans refl trans (fun st a _ => h st a) st

end SameEnters

theorem sameEnters_cleanupClosedWorldSessionActors (st : WorldRuntime)
    (unbind : UnbindAuthedWorldSessionResult) (sid serial : UInt32) :
    SameEnters st (st.cleanupClosedWorldSessionActors unbind sid serial) := by
  unfold cleanupClosedWorldSessionActors
  split <;> exact .idle rfl rfl

/-- The rollback of a bound enter unbinds and posts; the records of the enters stay. -/
theorem sameEnters_rollbackBoundEnterWorld (st : WorldRuntime)
    (pending : PendingEnterWorldConsumeRequest) (leaveCtx : Option LeaveWorldContext) :
    SameEnters st (st.rollbackBoundEnterWorld pending leaveCtx) := by
  unfold rollbackBoundEnterWorld
  cases leaveCtx with
  | none =>
      dsimp only
      exact (sameEnters_cleanupClosedWorldSessionActors _ _ _ _).after rfl rfl
  | some ctx =>
      unfold beginLeaveWorld
      dsimp only
      split <;> exact .idle rfl rfl

theorem sameEnters_rollbackAndFail (st : WorldRuntime)
    (pending : PendingEnterWorldConsumeRequest) (reason : EnterWorldResultCode) :
    SameEnters st (st.rollbackAndFail pending reason) :=
  (sameEnters_rollbackBoundEnterWorld st pending none).trans (.idle rfl rfl)

/-- The enters that fail there have not been sent to a zone. -/
theorem sameEnters_failFinalizeList (st : WorldRuntime) (list : List PendingEnterWorldFinalize)
    (reason : EnterWorldResultCode) : SameEnters st (st.failFinalizeList list reason) := by
  refine SameEnters.foldl (fun st e => ?_) st
  dsimp only
  split
  · exact sameEnters_rollbackAndFail _ _ _
  · exact .refl _

theorem sameEnters_portalElim (st : WorldRuntime) (portal : Option PendingPortalTransfer) :
    SameEnters st (portal.elim st st.failPendingPortalTransfer) := by
  cases portal <;> exact .idle rfl rfl

/-- A lost zone fails enters that wait for a map, not those that wait for an
acknowledgement. -/
theorem sameEnters_failPendingZoneAssignRequestsByZoneSid (st : WorldRuntime) (sid : UInt32) :
    SameEnters st (st.failPendingZoneAssignRequestsByZoneSid sid) := by
  refine SameEnters.foldl (fun st assign => ?_) st
  have hdropped : SameEnters st
      { st with
        flow := { st.flow with
          pendingZoneAssignRequestIdByMapKey :=
            st.flow.pendingZoneAssignRequestIdByMapKey.erase assign.mapKey
          pendingEnterWorldFinalize :=
            st.flow.pendingEnterWorldFinalize.filter (·.assignRequestId ≠ assign.requestId)
          pendingPortalTransfer :=
            st.flow.pendingPortalTransfer.filter (·.assignRequestId ≠ assign.requestId)
          pendingZoneAssign :=
            st.flow.pendingZoneAssign.filter (·.requestId ≠ assign.requestId) } } := .flow rfl
  exact hdropped.trans ((sameEnters_failFinalizeList _ _ _).trans (sameEnters_portalElim _ _))

/-- The record is taken before the enter completes. -/
theorem sameEnters_completeEnterWorldSuccessAfterZoneAck (st : WorldRuntime)
    (enter : PendingZonePlayerEnterRequest) (notified : Bool) (bytes : Vector UInt8 32) :
    SameEnters st (st.completeEnterWorldSuccessAfterZoneAck enter notified bytes) := by
  unfold completeEnterWorldSuccessAfterZoneAck
  extract_lets pending promoted st₁ st₂ st₃ leaveCtx st₄
  have hcached : SameEnters st st₃ := by
    unfold st₃
    split <;> exact .idle rfl rfl
  split
  · exact .refl st
  split
  · exact hcached.trans ((sameEnters_rollbackBoundEnterWorld _ _ _).trans (.idle rfl rfl))
  · exact hcached.trans (.idle rfl rfl)

/-- A ticket answer comes long before the zone server is asked. -/
theorem sameEnters_onWorldAuthTicketConsumeResponse (st : WorldRuntime)
    (res : TicketConsumeResponse) (pushed : Bool) :
    SameEnters st (st.onWorldAuthTicketConsumeResponse res pushed) := by
  unfold onWorldAuthTicketConsumeResponse
  split
  · exact .refl st
  · dsimp only
    cases pushed <;> split_ifs <;> exact ⟨rfl, List.prefix_rfl⟩

/-- Arming a close records no enter. -/
theorem sameEnters_enqueueDuplicateAuthedSessionCloseIfNeeded (st : WorldRuntime)
    (victim : WorldAuthedSession) (accountId charId : UInt64) (newSid newSerial : UInt32) :
    SameEnters st (st.enqueueDuplicateAuthedSessionCloseIfNeeded victim accountId charId newSid
      newSerial) := by
  unfold enqueueDuplicateAuthedSessionCloseIfNeeded
  split
  · exact .refl st
  split
  · exact .refl st
  dsimp only
  split_ifs <;> first | exact .idle rfl rfl | exact ⟨rfl, List.prefix_append _ _⟩

/-- The bind records no enter. -/
theorem sameEnters_bindAuthenticatedWorldSessionForLogin (st : WorldRuntime)
    (accountId charId : UInt64) (sid serial : UInt32) (bytes : Vector UInt8 32) :
    SameEnters st (st.bindAuthenticatedWorldSessionForLogin accountId charId sid serial bytes).2 := by
  unfold bindAuthenticatedWorldSessionForLogin
  extract_lets bound result st₁ st₂ same st₃
  have hchar : SameEnters st st₂ := by
    unfold st₂
    split
    · exact (sameEnters_enqueueDuplicateAuthedSessionCloseIfNeeded st₁ _ _ _ _ _).after rfl rfl
    · exact .idle rfl rfl
  refine hchar.trans ?_
  unfold st₃
  dsimp only
  split
  · exact sameEnters_enqueueDuplicateAuthedSessionCloseIfNeeded _ _ _ _ _ _
  · exact .refl _

/-- A portal transfer is no enter. -/
theorem sameEnters_completePortalTransfer (st : WorldRuntime) (pending : PendingPortalTransfer)
    (assignedZoneId : UInt16) (mapTemplateId instanceId : UInt32) :
    SameEnters st (st.completePortalTransfer pending assignedZoneId mapTemplateId instanceId) := by
  unfold completePortalTransfer
  split
  · exact .idle rfl rfl
  split <;> exact .idle rfl rfl

/-- A portal transfer has a table of its own. -/
theorem sameEnters_beginPortalTransfer (st : WorldRuntime) (topology : Option ServerTopology)
    (request : PendingPortalTransfer) (assignSendOk : Bool) :
    SameEnters st (st.beginPortalTransfer topology request assignSendOk) := by
  unfold beginPortalTransfer
  extract_lets resolved assigned st₁
  have hassigned : SameEnters st st₁ := .flow ((EnterFlow.enterView_assignMapInstance _ _ _ _ _ _).trans
    (EnterFlow.enterView_resolvePortalTargetInstanceId _ _ _))
  refine hassigned.trans ?_
  split
  · exact .flow rfl
  · split
    · exact .refl _
    · exact sameEnters_completePortalTransfer _ _ _ _ _
  · exact .refl _

/-- A close unbinds; the enters were dropped by the disconnect. -/
theorem sameEnters_processWorldSessionClosedOnIo (st : WorldRuntime) (sid serial : UInt32) :
    SameEnters st (st.processWorldSessionClosedOnIo sid serial) := by
  unfold processWorldSessionClosedOnIo
  split
  · exact .refl st
  · dsimp only
    exact (sameEnters_cleanupClosedWorldSessionActors _ _ _ _).after rfl rfl

/-- A close task unbinds; the enters of the connection are dropped by the disconnect. -/
theorem sameEnters_runCloseTask (st : WorldRuntime) (sid serial : UInt32) (closeCharId : UInt64)
    (closeReason : WorldSessionCloseReason) :
    SameEnters st (st.runCloseTask sid serial closeCharId closeReason) := by
  unfold runCloseTask
  dsimp only
  split_ifs
  · exact .idle rfl rfl
  · exact (sameEnters_processWorldSessionClosedOnIo _ _ _).after rfl rfl
  · exact sameEnters_processWorldSessionClosedOnIo _ _ _

/-- No packet of a client reaches the enters that wait for a zone server. -/
theorem sameEnters_handlePacket (st : WorldRuntime) (sid serial : UInt32) (p : ClientPacket)
    (ready sent : Bool) : SameEnters st (st.handlePacket sid serial p ready sent) := by
  unfold handlePacket
  extract_lets st₁ serial'
  have hserial : SameEnters st st₁ := .idle rfl rfl
  refine hserial.trans ?_
  cases p with
  | enterWorldWithToken accountId loginSession worldToken =>
      simp only [handleEnterWorldWithToken, requestConsumeWorldAuthTicket]
      split_ifs <;> exact ⟨rfl, List.prefix_rfl⟩
  | logoutWorld logoutType =>
      simp only [handleLogoutWorld]
      split
      · exact .refl _
      · split <;> exact .idle rfl rfl
  | reconnectWorld accountId charId token =>
      simp only [handleReconnectWorld]
      split_ifs <;> exact .idle rfl rfl
  | gameplay op =>
      simp only [handleGameplay]
      split <;> exact .idle rfl rfl

/-! ## Handlers of the enters -/

/-- One record per request id. -/
def EntersKeyed (st : WorldRuntime) : Prop :=
  (st.flow.pendingZonePlayerEnter.map (·.requestId)).Nodup

/-- A handler that lets no enter go that is `keep`. -/
structure EntersStay (keep : PendingZonePlayerEnterRequest → Prop) (st st' : WorldRuntime) :
    Prop where
  stay : st.EntersKeyed → ∀ r ∈ st.flow.pendingZonePlayerEnter, keep r →
    r ∈ st'.flow.pendingZonePlayerEnter
  keyed : st.EntersKeyed → st'.EntersKeyed
  strand : st.strand <+: st'.strand

variable {keep keep' : PendingZonePlayerEnterRequest → Prop}

theorem SameEnters.entersStay (h : SameEnters st st') : EntersStay keep st st' := by
  have henters : st'.flow.pendingZonePlayerEnter = st.flow.pendingZonePlayerEnter :=
    congrArg Prod.fst h.view
  refine ⟨fun _ r hr _ => henters ▸ hr, fun hkeyed => ?_, h.strand⟩
  unfold EntersKeyed
  rwa [henters]

namespace EntersStay

theorem refl (st : WorldRuntime) : EntersStay keep st st := (SameEnters.refl st).entersStay

theorem trans (h₁ : EntersStay keep st₁ st₂) (h₂ : EntersStay keep st₂ st₃) :
    EntersStay keep st₁ st₃ where
  stay hkeyed r hr hkeep := h₂.stay (h₁.keyed hkeyed) r (h₁.stay hkeyed r hr hkeep) hkeep
  keyed hkeyed := h₂.keyed (h₁.keyed hkeyed)
  strand := h₁.strand.trans h₂.strand

theorem mono (h : EntersStay keep st st') (hkeep : ∀ r, keep' r → keep r) :
    EntersStay keep' st st' :=
  ⟨fun hkeyed r hr hr' => h.stay hkeyed r hr (hkeep r hr'), h.keyed, h.strand⟩

theorem foldl {α : Type} {f : WorldRuntime → α → WorldRuntime} {l : List α}
    (h : ∀ st, ∀ a ∈ l, EntersStay keep st (f st a)) (st : WorldRuntime) :
    EntersStay keep st (l.foldl f st) :=
  foldl_of_trans refl trans h st

/-- Records are taken out of the table. -/
theorem filter {q : PendingZonePlayerEnterRequest → Bool} (h : ∀ r, keep r → q r = true) :
    EntersStay keep st { st with flow := { st.flow with
      pendingZonePlayerEnter := st.flow.pendingZonePlayerEnter.filter q } } :=
  ⟨fun _ r hr hkeep => List.mem_filter.mpr ⟨hr, h r hkeep⟩, nodup_map_filter, List.prefix_rfl⟩

end EntersStay

/-- A new enter, or one that could not be sent: only a record under its id
goes. -/
theorem entersStay_finalizeEnterWorldSuccess (st : WorldRuntime)
    (pending : PendingEnterWorldConsumeRequest) (zoneId : UInt16)
    (mapTemplateId instanceId : UInt32) (coreState : CharacterCoreState) (sendOk : Bool) :
    EntersStay (·.requestId ≠ st.flow.nextZonePlayerEnterRequestId) st
      (st.finalizeEnterWorldSuccess pending zoneId mapTemplateId instanceId coreState sendOk) := by
  unfold finalizeEnterWorldSuccess
  extract_lets requestId src flow blank pendingEnter sent
  have hid : pendingEnter.requestId = st.flow.nextZonePlayerEnterRequestId := by
    unfold pendingEnter
    split <;> rfl
  split
  · refine ⟨fun _ r hr hne => ?_, fun hkeyed => nodup_map_upsertBy hkeyed, List.prefix_rfl⟩
    refine List.mem_append_left _ (List.mem_filter.mpr ⟨hr, ?_⟩)
    simpa [hid] using hne
  · refine EntersStay.trans ?_ (sameEnters_rollbackAndFail _ _ _).entersStay
    refine ⟨fun _ r hr hne => ?_, fun hkeyed => nodup_map_filter hkeyed, List.prefix_rfl⟩
    exact List.mem_filter.mpr ⟨hr, by simpa using hne⟩

/-- The end of an enter takes one request id, whether or not the send works. -/
theorem nextId_finalizeEnterWorldSuccess (st : WorldRuntime)
    (pending : PendingEnterWorldConsumeRequest) (zoneId : UInt16)
    (mapTemplateId instanceId : UInt32) (coreState : CharacterCoreState) (sendOk : Bool) :
    (st.finalizeEnterWorldSuccess pending zoneId mapTemplateId instanceId coreState
      sendOk).flow.nextZonePlayerEnterRequestId = st.flow.nextZonePlayerEnterRequestId + 1 := by
  unfold finalizeEnterWorldSuccess
  extract_lets requestId src flow blank pendingEnter sent
  split
  · rfl
  · rw [flow_rollbackAndFail]

/-- The zone for an enter is looked for after other work. -/
theorem entersStay_assignAfterBind (h : SameEnters st st') (topology : Option ServerTopology)
    (pending : PendingEnterWorldConsumeRequest) (loaded : CharacterCoreState)
    (answers : EnterAnswers) :
    EntersStay (·.requestId ≠ st.flow.nextZonePlayerEnterRequestId) st
      (st'.assignAfterBind topology pending loaded answers) := by
  unfold assignAfterBind
  extract_lets coreState mapTemplateId assigned st₁
  have hassigned : SameEnters st st₁ :=
    h.trans (.flow (EnterFlow.enterView_assignMapInstance _ _ _ _ _ _))
  have hnext : st₁.flow.nextZonePlayerEnterRequestId = st.flow.nextZonePlayerEnterRequestId :=
    congrArg Prod.snd hassigned.view
  refine hassigned.entersStay.trans ?_
  split
  · rw [← hnext]
    exact entersStay_finalizeEnterWorldSuccess _ _ _ _ _ _ _
  · exact SameEnters.entersStay ⟨rfl, List.prefix_rfl⟩
  · exact (sameEnters_rollbackAndFail _ _ _).entersStay

/-- Only an enter under the very id that is handed out next can be displaced. -/
theorem entersStay_onCharacterEnterSnapshotResult (st : WorldRuntime)
    (topology : Option ServerTopology) (rr : SnapshotResult) (answers : EnterAnswers) :
    EntersStay (·.requestId ≠ st.flow.nextZonePlayerEnterRequestId) st
      (st.onCharacterEnterSnapshotResult topology rr answers) := by
  unfold onCharacterEnterSnapshotResult
  split
  · exact .refl st
  extract_lets src st₁ pending begun st₂ bound st₃ st₄
  have hbegun : SameEnters st st₂ := ⟨rfl, List.prefix_rfl⟩
  have hbound : SameEnters st st₃ :=
    hbegun.trans (sameEnters_bindAuthenticatedWorldSessionForLogin st₂ _ _ _ _ _)
  split
  · exact SameEnters.entersStay ⟨rfl, List.prefix_rfl⟩
  split
  · exact SameEnters.entersStay ⟨rfl, List.prefix_rfl⟩
  split
  · exact SameEnters.entersStay (hbound.trans ⟨rfl, List.prefix_rfl⟩)
  · exact entersStay_assignAfterBind hbound topology pending _ answers

/-- The parked enters of a map are let in one after the other. -/
theorem entersStay_foldl_finalize {f : WorldRuntime → PendingEnterWorldFinalize → WorldRuntime}
    (hf : ∀ st e, SameEnters st (f st e) ∨ ∃ zoneId sendOk, f st e =
      st.finalizeEnterWorldSuccess e.enterPending zoneId e.mapTemplateId e.instanceId e.coreState
        sendOk)
    (l : List PendingEnterWorldFinalize) (st : WorldRuntime) :
    EntersStay
      (fun r => ∀ i < l.length,
        r.requestId ≠ st.flow.nextZonePlayerEnterRequestId + UInt64.ofNat i)
      st (l.foldl f st) := by
  induction l generalizing st with
  | nil => exact .refl st
  | cons e l ih =>
      have htail := ih (f st e)
      rw [List.foldl_cons]
      rcases hf st e with hsame | ⟨zoneId, sendOk, hfinalize⟩
      · have hnext : (f st e).flow.nextZonePlayerEnterRequestId =
            st.flow.nextZonePlayerEnterRequestId := congrArg Prod.snd hsame.view
        rw [hnext] at htail
        exact hsame.entersStay.trans
          (htail.mono fun r hr i hi => hr i (Nat.lt_succ_of_lt hi))
      · have hnext := nextId_finalizeEnterWorldSuccess st e.enterPending zoneId e.mapTemplateId
          e.instanceId e.coreState sendOk
        rw [← hfinalize] at hnext
        rw [hnext] at htail
        have hhead := entersStay_finalizeEnterWorldSuccess st e.enterPending zoneId e.mapTemplateId
          e.instanceId e.coreState sendOk
        rw [← hfinalize] at hhead
        refine (hhead.mono fun r hr => ?_).trans (htail.mono fun r hr i hi => ?_)
        · simpa using hr 0 (Nat.zero_lt_succ _)
        · have hne := hr (i + 1) (Nat.succ_lt_succ hi)
          rwa [UInt64.ofNat_add, UInt64.add_comm (UInt64.ofNat i), ← UInt64.add_assoc] at hne

/-- The enters released by a map answer take consecutive ids; an enter under another id
stays. -/
theorem entersStay_onZoneMapAssignResponse (st : WorldRuntime) (sid serial : UInt32)
    (res : ZoneMapAssignResponse) (sendOk : UInt64 → Bool) :
    EntersStay
      (fun r => ∀ i < st.flow.pendingEnterWorldFinalize.length,
        r.requestId ≠ st.flow.nextZonePlayerEnterRequestId + UInt64.ofNat i)
      st (st.onZoneMapAssignResponse sid serial res sendOk) := by
  unfold onZoneMapAssignResponse
  split
  · exact .refl st
  split
  · exact .refl st
  extract_lets finalizeList portal src st₁ st₂ st₃ src' st₄ st₅
  have hdropped : SameEnters st st₁ := ⟨rfl, List.prefix_rfl⟩
  split
  · refine SameEnters.entersStay (hdropped.trans (.trans ?_ (sameEnters_portalElim _ _)))
    exact SameEnters.foldl (fun st e => sameEnters_rollbackAndFail _ _ _) _
  split
  · exact (hdropped.trans ((sameEnters_failFinalizeList _ _ _).trans
      (sameEnters_portalElim _ _))).entersStay
  · have hportal (st' : WorldRuntime) : SameEnters st'
        (portal.elim st' fun p => st'.completePortalTransfer p res.zoneId res.mapTemplateId
          res.instanceId) := by
      cases portal with
      | none => exact .refl _
      | some p => exact sameEnters_completePortalTransfer _ _ _ _ _
    have hassigned : SameEnters st st₄ := ⟨rfl, List.prefix_rfl⟩
    refine EntersStay.trans ?_ (hportal _).entersStay
    refine hassigned.entersStay.trans ?_
    refine (entersStay_foldl_finalize (fun st e => ?_) finalizeList st₄).mono fun r hr i hi => ?_
    · dsimp only
      split
      · exact .inr ⟨_, _, rfl⟩
      · exact .inl (.refl _)
    · exact hr i (lt_of_lt_of_le hi (List.length_filter_le _ _))

/-- An ack takes the record of its id, if it comes from where the enter was
sent. -/
theorem entersStay_onZonePlayerEnterAck (st : WorldRuntime) (sid serial : UInt32)
    (ack : ZonePlayerEnterAck) (notified : Bool) (bytes : Vector UInt8 32) :
    EntersStay
      (fun r => ¬ (r.requestId = ack.requestId ∧ r.targetSid = sid ∧ r.targetSerial = serial))
      st (st.onZonePlayerEnterAck sid serial ack notified bytes) := by
  unfold onZonePlayerEnterAck
  split
  · exact .refl st
  next enter hfind =>
    split
    · exact .refl st
    next htarget =>
      extract_lets p src st₁
      have hdropped : EntersStay
          (fun r => ¬ (r.requestId = ack.requestId ∧ r.targetSid = sid ∧ r.targetSerial = serial))
          st st₁ := by
        refine ⟨fun hkeyed r hr hkeep => List.mem_filter.mpr ⟨hr, decide_eq_true fun hid => ?_⟩,
          fun hkeyed => nodup_map_filter hkeyed, List.prefix_rfl⟩
        have hsame : r = enter := by
          refine List.inj_on_of_nodup_map hkeyed hr (List.mem_of_find?_eq_some hfind) ?_
          have henter : enter.requestId = ack.requestId := by simpa using List.find?_some hfind
          exact hid.trans henter.symm
        have hmatch : enter.targetSid = sid ∧ enter.targetSerial = serial := by
          simpa [not_or] using htarget
        exact hkeep ⟨hid, hsame ▸ hmatch.1, hsame ▸ hmatch.2⟩
      split
      · exact hdropped
      split
      · exact hdropped.trans (sameEnters_rollbackAndFail _ _ _).entersStay
      split
      · exact hdropped.trans (sameEnters_rollbackAndFail _ _ _).entersStay
      · exact hdropped.trans (sameEnters_completeEnterWorldSuccessAfterZoneAck _ _ _ _).entersStay

/-- Failing an enter takes its own record. -/
theorem entersStay_failZonePlayerEnter (reason : EnterWorldResultCode) (st : WorldRuntime)
    (enter : PendingZonePlayerEnterRequest) :
    EntersStay (·.requestId ≠ enter.requestId) st (failZonePlayerEnter reason st enter) := by
  unfold failZonePlayerEnter
  extract_lets p src st₁
  have hdropped : EntersStay (·.requestId ≠ enter.requestId) st st₁ := .filter fun r hr => by
    simpa using hr
  split
  · exact hdropped.trans (sameEnters_rollbackAndFail _ _ _).entersStay
  · exact hdropped

/-- Failing a list of enters takes the records of that list. -/
theorem entersStay_failZonePlayerEnters (st : WorldRuntime)
    (dropped : PendingZonePlayerEnterRequest → Bool) (reason : EnterWorldResultCode) :
    EntersStay (dropped · = false) st (st.failZonePlayerEnters dropped reason) := by
  have hloop : EntersStay
      (fun r => ∀ enter ∈ st.flow.pendingZonePlayerEnter.filter dropped,
        r.requestId ≠ enter.requestId)
      st (st.failZonePlayerEnters dropped reason) :=
    EntersStay.foldl (fun st enter henter =>
      (entersStay_failZonePlayerEnter reason st enter).mono fun r hr => hr enter henter) st
  refine ⟨fun hkeyed r hr hkeep => hloop.stay hkeyed r hr fun enter henter hid => ?_,
    hloop.keyed, hloop.strand⟩
  obtain ⟨hmem, hdropped⟩ := List.mem_filter.mp henter
  obtain rfl := List.inj_on_of_nodup_map hkeyed hr hmem hid
  exact Bool.noConfusion (hkeep.symm.trans hdropped)

/-- A lost zone takes the enters that were sent to it. -/
theorem entersStay_loseZoneRoute (st : WorldRuntime) (sid : UInt32) :
    EntersStay (·.targetSid ≠ sid) st (st.loseZoneRoute sid) := by
  unfold loseZoneRoute
  extract_lets st₁ st₂ st₃
  have hassignments : SameEnters st st₁ := by
    refine .flow ?_
    unfold EnterFlow.removeMapAssignmentsByZoneSid
    split <;> rfl
  have hassigns : SameEnters st st₂ :=
    hassignments.trans (sameEnters_failPendingZoneAssignRequestsByZoneSid st₁ sid)
  have henters : EntersStay (·.targetSid ≠ sid) st₂ st₃ :=
    (entersStay_failZonePlayerEnters st₂ (·.targetSid == sid) .zonePlayerEnterRouteLost).mono
      fun r hr => by simpa using hr
  exact hassigns.entersStay.trans (henters.trans (SameEnters.entersStay ⟨rfl, List.prefix_rfl⟩))

/-- Unregistering is losing the route, if there was one. -/
theorem entersStay_unregisterZoneRoute (st : WorldRuntime) (sid serial : UInt32) :
    EntersStay (·.targetSid ≠ sid) st (st.unregisterZoneRoute sid serial) := by
  unfold unregisterZoneRoute
  split
  · exact .refl st
  split
  · exact .refl st
  · exact entersStay_loseZoneRoute st sid

/-- The expiry takes the enters of the lost zones and the overdue ones. -/
theorem entersStay_expireStaleZoneRoutes (st : WorldRuntime) (routes : List UInt32)
    (enters portals : List UInt64) :
    EntersStay (fun r => r.targetSid ∉ routes ∧ r.requestId ∉ enters) st
      (st.expireStaleZoneRoutes routes enters portals) := by
  unfold expireStaleZoneRoutes
  extract_lets st₁ st₂
  have hroutes : EntersStay (fun r => r.targetSid ∉ routes ∧ r.requestId ∉ enters) st st₁ := by
    refine EntersStay.foldl (fun st route hroute => ?_) st
    refine (entersStay_loseZoneRoute st route.sid).mono fun r hr heq => ?_
    exact hr.1 (heq ▸ by simpa using (List.mem_filter.mp hroute).2)
  have henters : EntersStay (fun r => r.targetSid ∉ routes ∧ r.requestId ∉ enters) st st₂ :=
    hroutes.trans ((entersStay_failZonePlayerEnters _ _ _).mono fun r hr => by simpa using hr.2)
  refine henters.trans (SameEnters.entersStay (SameEnters.foldl (fun st p => ?_) st₂))
  exact ⟨rfl, List.prefix_rfl⟩

/-! ## Closing -/

/-- An abort takes the enters of its own connection. -/
theorem entersStay_abortEnterWorldFlowBySession (st : WorldRuntime) (sid serial : UInt32) :
    EntersStay (·.enterPending.isOf sid serial = false) st
      (st.abortEnterWorldFlowBySession sid serial) := by
  cases hvalid : isValidSessionKey sid serial with
  | false =>
      simp only [abortEnterWorldFlowBySession, hvalid, if_true]
      exact .refl st
  | true =>
      obtain ⟨-, -, -, henters⟩ := flow_abortEnterWorldFlowBySession st hvalid
      have hstrand : (st.abortEnterWorldFlowBySession sid serial).strand = st.strand := by
        unfold abortEnterWorldFlowBySession
        split <;> rfl
      refine ⟨fun _ r hr hkeep => ?_, fun hkeyed => ?_, by rw [hstrand]⟩
      · rw [henters]
        exact List.mem_filter.mpr ⟨hr, by simp [hkeep]⟩
      · unfold EntersKeyed
        rw [henters]
        exact nodup_map_filter hkeyed

/-- A disconnect is an abort and a close. -/
theorem entersStay_handleDisconnected (st : WorldRuntime) (sid serial : UInt32) :
    EntersStay (·.enterPending.isOf sid serial = false) st (st.handleDisconnected sid serial) := by
  unfold handleDisconnected
  dsimp only
  split
  · obtain ⟨closeCharId, closeReason, hclosed⟩ := handleWorldSessionClosed_eq st sid serial
    have habort := entersStay_abortEnterWorldFlowBySession st sid serial
    rw [hclosed]
    exact ⟨habort.stay, habort.keyed, List.prefix_append _ _⟩
  · exact SameEnters.entersStay (.idle rfl rfl)

/-- An enter goes away with its connection only when a close is queued. -/
theorem closing_handleDisconnected (st : WorldRuntime) (sid serial : UInt32)
    {r : PendingZonePlayerEnterRequest} (hr : r ∈ st.flow.pendingZonePlayerEnter) :
    r ∈ (st.handleDisconnected sid serial).flow.pendingZonePlayerEnter ∨
      ∃ closeCharId closeReason, .close sid serial closeCharId closeReason ∈
        (st.handleDisconnected sid serial).strand := by
  unfold handleDisconnected
  dsimp only
  split
  · obtain ⟨closeCharId, closeReason, hclosed⟩ := handleWorldSessionClosed_eq st sid serial
    rw [hclosed]
    exact .inr ⟨closeCharId, closeReason, List.mem_append_right _ List.mem_cons_self⟩
  · exact .inl hr

/-- A kick aborts the displaced connection only. -/
theorem entersStay_processDuplicateWorldSessionKickOnIo (st : WorldRuntime)
    (ctx : DuplicateLoginLogContext) :
    EntersStay (·.enterPending.isOf ctx.sid ctx.serial = false) st
      (st.processDuplicateWorldSessionKickOnIo ctx) := by
  unfold processDuplicateWorldSessionKickOnIo
  split
  · exact .refl st
  have habort := entersStay_abortEnterWorldFlowBySession st ctx.sid ctx.serial
  dsimp only
  split_ifs <;> exact ⟨habort.stay, habort.keyed, habort.strand⟩

/-- Of the network tasks only a disconnect takes an enter, and only of its own connection. -/
theorem entersStay_runNetTask (st : WorldRuntime) (task : NetTask) (ready sent : Bool) :
    EntersStay (fun r => ∀ sid serial, task = .disconnected sid serial →
      r.enterPending.isOf sid serial = false) st (st.runNetTask task ready sent) := by
  cases task with
  | connected sid serial => exact SameEnters.entersStay (.idle rfl rfl)
  | packet sid serial p => exact (sameEnters_handlePacket st sid serial p ready sent).entersStay
  | disconnected sid serial =>
      exact (entersStay_handleDisconnected st sid serial).mono fun r hr => hr sid serial rfl

/-! ## Steps -/

/-- The enters that an event lets stay. -/
def Keeps (st : WorldRuntime) : Event → PendingZonePlayerEnterRequest → Prop
  | .snapshotResult .., r => r.requestId ≠ st.flow.nextZonePlayerEnterRequestId
  | .zoneMapAssignResponse .., r => ∀ i < st.flow.pendingEnterWorldFinalize.length,
      r.requestId ≠ st.flow.nextZonePlayerEnterRequestId + UInt64.ofNat i
  | .zonePlayerEnterAck sid serial ack _ _, r =>
      ¬ (r.requestId = ack.requestId ∧ r.targetSid = sid ∧ r.targetSerial = serial)
  | .unregisterZoneRoute sid _, r => r.targetSid ≠ sid
  | .expireStaleZoneRoutes routes enters _, r => r.targetSid ∉ routes ∧ r.requestId ∉ enters
  | .netTask task _ _, r => ∀ sid serial, task = .disconnected sid serial →
      r.enterPending.isOf sid serial = false
  | _, _ => True

/-- All events but those of the strand keep the enters they are said to. -/
theorem entersStay_step (topology : Option ServerTopology) (st : WorldRuntime) {e : Event}
    (he : e ≠ .strand) : EntersStay (st.Keeps e) st (step topology st e) := by
  cases e with
  | accept => exact SameEnters.entersStay (.idle rfl rfl)
  | receive sid serial p =>
      simp only [step]
      split
      · exact SameEnters.entersStay (.idle rfl rfl)
      · exact .refl st
  | terminate sid serial =>
      simp only [step]
      split
      · exact SameEnters.entersStay (.idle rfl rfl)
      · exact .refl st
  | netTask task ready sent =>
      simp only [step]
      split
      · have htaken : SameEnters st { st with netTasks := st.netTasks.erase task } := .idle rfl rfl
        exact htaken.entersStay.trans (entersStay_runNetTask _ task ready sent)
      · exact .refl st
  | strand => exact absurd rfl he
  | timer id aborted =>
      simp only [step, onDelayedCloseTimer]
      split
      · exact .refl st
      · split_ifs <;> exact SameEnters.entersStay (.idle rfl rfl)
  | ticketConsumeResponse res pushed =>
      exact (sameEnters_onWorldAuthTicketConsumeResponse st res pushed).entersStay
  | snapshotResult rr answers => exact entersStay_onCharacterEnterSnapshotResult st topology rr answers
  | zoneMapAssignResponse sid serial res sendOk =>
      exact entersStay_onZoneMapAssignResponse st sid serial res sendOk
  | zonePlayerEnterAck sid serial ack notified bytes =>
      exact entersStay_onZonePlayerEnterAck st sid serial ack notified bytes
  | registerZoneRoute hello => exact SameEnters.entersStay ⟨rfl, List.prefix_rfl⟩
  | zoneRouteHeartbeat beat => exact SameEnters.entersStay ⟨rfl, List.prefix_rfl⟩
  | unregisterZoneRoute sid serial => exact entersStay_unregisterZoneRoute st sid serial
  | expireStaleZoneRoutes routes enters portals =>
      exact entersStay_expireStaleZoneRoutes st routes enters portals
  | beginPortalTransfer request assignSendOk =>
      exact (sameEnters_beginPortalTransfer st topology request assignSendOk).entersStay
  | rehash routes assigns enters =>
      simp only [step]
      split
      next hperm =>
        refine ⟨fun _ r hr _ => hperm.2.2.mem_iff.mpr hr, fun hkeyed => ?_, List.prefix_rfl⟩
        exact (hperm.2.2.map _).nodup_iff.mpr hkeyed
      · exact .refl st

/-- A strand task lets an enter go only by a kick of its connection. -/
theorem entersStay_runStrandTask (st : WorldRuntime) (task : StrandTask) :
    EntersStay (fun r => ∀ ctx, task = .kick ctx → r.enterPending.isOf ctx.sid ctx.serial = false)
      st (st.runStrandTask task) := by
  cases task with
  | close sid serial closeCharId closeReason =>
      exact (sameEnters_runCloseTask st sid serial closeCharId closeReason).entersStay
  | kick ctx =>
      exact (entersStay_processDuplicateWorldSessionKickOnIo st ctx).mono fun r hr => hr ctx rfl

/-- Request ids stay distinct, since a new record replaces the one under its id. -/
theorem entersKeyed_step (topology : Option ServerTopology) (hkeyed : st.EntersKeyed) (e : Event) :
    (step topology st e).EntersKeyed := by
  by_cases he : e = .strand
  · subst he
    simp only [step]
    split
    · exact hkeyed
    next task rest _ => exact (entersStay_runStrandTask { st with strand := rest } task).keyed hkeyed
  · exact (entersStay_step topology st he).keyed hkeyed

/-- A queued close stays queued until its turn comes. -/
theorem mem_strand_step (topology : Option ServerTopology) {task : StrandTask}
    (htask : task ∈ st.strand) (e : Event) :
    task ∈ (step topology st e).strand ∨ e = .strand ∧ st.strand.head? = some task := by
  by_cases he : e = .strand
  · subst he
    simp only [step]
    split
    next hnil => simp [hnil] at htask
    next head rest hstrand =>
      rw [hstrand] at htask
      cases List.mem_cons.mp htask with
      | inl hhead => exact .inr ⟨trivial, by rw [hstrand, hhead]; rfl⟩
      | inr hrest =>
          exact .inl ((entersStay_runStrandTask { st with strand := rest } head).strand.subset hrest)
  · exact .inl ((entersStay_step topology st he).strand.subset htask)

end WorldRuntime

end GameServer
