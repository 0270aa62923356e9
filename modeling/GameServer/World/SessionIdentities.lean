import GameServer.World.GhostCharacters
import GameServer.World.EnterRequests
import GameServer.World.EnterTarget

/-!
# GameServer.World.SessionIdentities

Where the account and the character of a stored session come from.

* `Named P` — every stored session is of an account and a character in `P`;
  only a bind names them, the other operations keep or move what is stored;
* `Narrows` — no ticket consume and no snapshot load is under way that was not
  before: what every handler does but two;
* `Vetted P` — the stored sessions and the snapshot loads under way are in
  `P`, and the consumes under way name no character yet;
* `vetted_step` — a step keeps it if the ticket it may be told of is in `P`.
-/

namespace GameServer

namespace SessionRegistry

variable {P : UInt64 → UInt64 → Prop} {r r' : SessionRegistry}

/-- Every stored session is of an account and a character in `P`. -/
def Named (P : UInt64 → UInt64 → Prop) (r : SessionRegistry) : Prop :=
  ∀ sid s, r.authedSessionsBySid sid = some s → P s.accountId s.charId

/-- A registry that only loses identities keeps the property. -/
theorem Named.subset (h : r.Named P)
    (hsub : ∀ sid s, r'.authedSessionsBySid sid = some s →
      ∃ sid' s', r.authedSessionsBySid sid' = some s' ∧ s'.accountId = s.accountId ∧
        s'.charId = s.charId) : r'.Named P := by
  intro sid s hs
  obtain ⟨sid', s', hs', haccount, hchar⟩ := hsub sid s hs
  rw [← haccount, ← hchar]
  exact h sid' s' hs'

/-- Sessions only go. -/
theorem Named.drop (h : r.Named P)
    (hsub : ∀ sid s, r'.authedSessionsBySid sid = some s → r.authedSessionsBySid sid = some s) :
    r'.Named P :=
  h.subset fun sid s hs => ⟨sid, s, hsub sid s hs, rfl, rfl⟩

theorem Named.congr (h : r.Named P) (heq : r'.authedSessionsBySid = r.authedSessionsBySid) :
    r'.Named P :=
  h.drop fun sid s hs => by rwa [heq] at hs

/-- Storing a session adds its identity alone. -/
theorem Named.store (h : r.Named P) {s : WorldAuthedSession} (hs : P s.accountId s.charId) :
    (r.storeAuthedSession s).Named P := by
  intro sid t ht
  simp only [storeAuthedSession, Table.set_apply] at ht
  split at ht
  · obtain rfl := Option.some.inj ht
    exact hs
  · exact h sid t ht

/-- A bind adds the identity that it binds. -/
theorem Named.bindReplacing (h : r.Named P) {accountId charId : UInt64} (hP : P accountId charId)
    (sid serial : UInt32) (bytes : Vector UInt8 32) :
    (r.bindReplacing accountId charId sid serial bytes).2.Named P := by
  have herased (oldChar oldAccount : WorldAuthedSession) :
      (r.eraseReplaced oldChar oldAccount).Named P :=
    h.drop fun _ _ => RegistryOp.stored_of_eraseReplaced
  exact ((herased _ _).store (s := ⟨accountId, charId, sid, serial, _⟩) hP).congr rfl

/-- A bind names the account and the character it is for. -/
theorem Named.bind (h : r.Named P) {accountId charId : UInt64} (hP : P accountId charId)
    (sid serial : UInt32) (bytes : Vector UInt8 32) :
    (r.bindAuthenticatedWorldSessionForLogin accountId charId sid serial bytes).2.Named P := by
  unfold bindAuthenticatedWorldSessionForLogin
  dsimp only
  split
  · exact h
  split
  · exact h.bindReplacing hP sid serial bytes
  split
  · exact h
  · have hcleared : (r.eraseAuthedSidNolock sid).Named P :=
      h.drop fun _ _ => RegistryOp.stored_of_eraseAuthedSidNolock
    exact hcleared.bindReplacing hP sid serial bytes

/-- An unbind removes sessions and renames none. -/
theorem Named.unbind (h : r.Named P) (sid serial : UInt32) :
    (r.unbindAuthenticatedWorldSessionBySid sid serial).2.Named P := by
  unfold unbindAuthenticatedWorldSessionBySid
  split
  · split
    · exact h
    dsimp only
    split
    · exact h
    · exact h.drop fun _ _ hs => (Table.erase_eq_some_iff.mp hs).2
  · exact h

/-- A session that is given its token keeps its names. -/
theorem Named.getOrCreate (h : r.Named P) (sid serial : UInt32) (bytes : Vector UInt8 32) :
    (r.getOrCreateReconnectTokenForSession sid serial bytes).2.Named P := by
  unfold getOrCreateReconnectTokenForSession
  split
  · split
    · exact h
    next session hsession =>
      split
      · exact h
      · intro sid' s hs
        simp only [Table.set_apply] at hs
        split at hs
        · obtain rfl := Option.some.inj hs
          exact h sid session hsession
        · exact h sid' s hs
  · exact h

/-- A reconnect moves a stored session. -/
theorem Named.reconnect (h : r.Named P) (accountId charId : UInt64) (token : String)
    (sid serial : UInt32) :
    (r.tryReconnectWorldSession accountId charId token sid serial).2.Named P := by
  obtain ⟨previous, oldKey, -, -, hfound, heq⟩ | ⟨-, heq | ⟨-, -, -, heq⟩⟩ :=
    tryReconnectWorldSession_cases r accountId charId token sid serial <;> rw [heq]
  · obtain ⟨oldSid, hstored, -⟩ := findSessionByKey_eq_some_iff.mp hfound
    have hcleared : Named P
        { r with authedSessionsBySid := r.authedSessionsBySid.erase (unpackSessionSid oldKey) } :=
      h.drop fun _ _ hs => (Table.erase_eq_some_iff.mp hs).2
    have hmoved := hcleared.store (s := { previous with sid, serial }) (h oldSid previous hstored)
    exact hmoved.congr rfl
  · exact h
  · exact h.congr rfl

end SessionRegistry

namespace WorldRuntime

variable {A : UInt32 → UInt32 → Prop} {P : UInt64 → UInt64 → Prop}
  {st st' st₁ st₂ st₃ : WorldRuntime}

/-! ## Sessions -/

/-- What most handlers do names no session. -/
theorem Tidy.named (h : Tidy A st₁ st₂) (hnamed : st₁.reg.Named P) : st₂.reg.Named P := by
  induction h with
  | frame hreg => rwa [hreg]
  | stage op hst => exact hnamed.congr (RegistryOp.sessions_apply_of_isStageOp _ op hst).1
  | unbind sid serial =>
      have hunbound := hnamed.unbind sid serial
      unfold unbindAndCleanup cleanupClosedWorldSessionActors
      split <;> exact hunbound
  | trans _ _ ih₁ ih₂ => exact ih₂ (ih₁ hnamed)

/-- Sessions are named by the binds of snapshot results alone. -/
theorem named_step (topology : Option ServerTopology) (e : Event) (hnamed : st.reg.Named P)
    (hbind : ∀ rr answers snapshot, e = .snapshotResult rr answers → BeginsEnter st rr snapshot →
      P snapshot.enterPending.accountId snapshot.enterPending.charId) :
    (step topology st e).reg.Named P := by
  cases htidy : e.isTidy with
  | true => exact (tidy_step topology (recordsIn_true st.flow) e.actsFor_true htidy).named hnamed
  | false =>
      cases e with
      | accept => exact hnamed
      | netTask task ready sent =>
          simp only [step]
          split
          · cases task with
            | packet sid serial p =>
                cases p with
                | reconnectWorld accountId charId token =>
                    have hmoved := hnamed.reconnect accountId charId token sid serial
                    simp only [runNetTask, handlePacket, getLatestSerial, Table.set_self,
                      Option.getD_some, handleReconnectWorld]
                    split
                    · exact hnamed
                    split <;> exact hmoved
                | gameplay op =>
                    simp only [runNetTask, handlePacket, handleGameplay]
                    split <;> exact hnamed
                | _ => simp [Event.isTidy] at htidy
            | _ => simp [Event.isTidy] at htidy
          · exact hnamed
      | snapshotResult rr answers =>
          obtain h | ⟨snapshot, f, hbegins, -, h⟩ := onCharacterEnterSnapshotResult_cases
            (A := fun _ _ => True) (recordsIn_true st.flow) topology rr answers
          · exact h.named hnamed
          · have hP := hbind rr answers snapshot rfl hbegins
            have hstage := RegistryOp.sessions_apply_of_isStageOp st.reg
              (.tryBegin snapshot.enterPending.sid snapshot.enterPending.serial
                snapshot.enterPending.accountId snapshot.enterPending.charId) rfl
            exact h.named ((hnamed.congr hstage.1).bind hP _ _ _)
      | zonePlayerEnterAck sid serial ack notified bytes =>
          obtain h | ⟨enter, st₁, -, -, hreg, -, heq⟩ := onZonePlayerEnterAck_cases
            (A := fun _ _ => True) sid serial ack notified bytes
          · exact h.named hnamed
          · have hannounced : (st₁.announceEnter enter).reg.Named P := by
              refine hnamed.congr ?_
              rw [authedSessionsBySid_announceEnter, hreg]
            simp only [step, heq]
            obtain ⟨-, h⟩ | ⟨-, -, h⟩ | ⟨-, -, h⟩ :=
              completeEnterWorldSuccessAfterZoneAck_cases st₁ enter notified bytes
            · rw [h, hreg]
              exact hnamed
            · rw [h]
              exact hannounced.getOrCreate _ _ _
            · have hcancel := RegistryOp.sessions_apply_of_isStageOp (st₁.announceEnter enter).reg
                (.cancel enter.enterPending.sid enter.enterPending.serial
                  enter.enterPending.charId) rfl
              have hunbound := (hannounced.congr hcancel.1).unbind enter.enterPending.sid
                enter.enterPending.serial
              rw [h]
              refine (tidy_failPendingEnterWorldConsumeRequest _ _ _).named
                (A := fun _ _ => True) ?_
              unfold leaveAnnounced beginLeaveWorld
              dsimp only
              split <;> exact hunbound
      | _ => simp [Event.isTidy] at htidy

/-! ## Records -/

/-- No ticket consume and no snapshot load is under way that was not before. -/
structure Narrows (st st' : WorldRuntime) : Prop where
  consume : st'.flow.pendingEnterWorldConsume ⊆ st.flow.pendingEnterWorldConsume
  snapshot : st'.flow.pendingCharacterEnterSnapshot ⊆ st.flow.pendingCharacterEnterSnapshot

namespace Narrows

/-- The two tables are as they were. -/
theorem same (hconsume : st'.flow.pendingEnterWorldConsume = st.flow.pendingEnterWorldConsume)
    (hsnapshot : st'.flow.pendingCharacterEnterSnapshot = st.flow.pendingCharacterEnterSnapshot) :
    Narrows st st' :=
  ⟨by rw [hconsume]; exact List.Subset.refl _, by rw [hsnapshot]; exact List.Subset.refl _⟩

theorem idle (hflow : st'.flow = st.flow) : Narrows st st' :=
  same (by rw [hflow]) (by rw [hflow])

theorem refl (st : WorldRuntime) : Narrows st st := idle rfl

theorem trans (h₁ : Narrows st₁ st₂) (h₂ : Narrows st₂ st₃) : Narrows st₁ st₃ :=
  ⟨fun _ hp => h₁.consume (h₂.consume hp), fun _ hr => h₁.snapshot (h₂.snapshot hr)⟩

/-- A handler that first changes something that does not show. -/
theorem after (h : Narrows st₂ st₃) (hflow : st₂.flow = st₁.flow) : Narrows st₁ st₃ :=
  trans (idle hflow) h

theorem foldl {α : Type} {f : WorldRuntime → α → WorldRuntime} {l : List α}
    (h : ∀ st a, Narrows st (f st a)) (st : WorldRuntime) : Narrows st (l.foldl f st) :=
  foldl_of_trans refl trans (fun st a _ => h st a) st

end Narrows

theorem narrows_rollbackAndFail (st : WorldRuntime) (pending : PendingEnterWorldConsumeRequest)
    (reason : EnterWorldResultCode) : Narrows st (st.rollbackAndFail pending reason) :=
  .idle (flow_rollbackAndFail st pending reason)

/-- Failing waiting enters adds none: induction on the list. -/
theorem narrows_failFinalizeList (st : WorldRuntime) (list : List PendingEnterWorldFinalize)
    (reason : EnterWorldResultCode) : Narrows st (st.failFinalizeList list reason) := by
  refine Narrows.foldl (fun st e => ?_) st
  dsimp only
  split
  · exact narrows_rollbackAndFail _ _ _
  · exact .refl _

theorem narrows_portalElim (st : WorldRuntime) (portal : Option PendingPortalTransfer) :
    Narrows st (portal.elim st st.failPendingPortalTransfer) := by
  cases portal <;> exact .idle rfl

/-- Asking for a map starts no ticket consume and no snapshot load. -/
theorem narrows_assignMapInstance (st : WorldRuntime) (f : EnterFlow)
    (hconsume : f.pendingEnterWorldConsume = st.flow.pendingEnterWorldConsume)
    (hsnapshot : f.pendingCharacterEnterSnapshot = st.flow.pendingCharacterEnterSnapshot)
    (topology : Option ServerTopology) (mapTemplateId instanceId : UInt32)
    (dungeonInstance sendOk : Bool) :
    Narrows st
      { st with
        flow := (f.assignMapInstance topology mapTemplateId instanceId dungeonInstance
          sendOk).2 } := by
  refine .same ?_ ?_
  · rw [← hconsume]
    simp only [EnterFlow.assignMapInstance]
    repeat' split
    all_goals rfl
  · rw [← hsnapshot]
    simp only [EnterFlow.assignMapInstance]
    repeat' split
    all_goals rfl

/-- The enter has left both tables before it ends. -/
theorem narrows_finalizeEnterWorldSuccess (st : WorldRuntime)
    (pending : PendingEnterWorldConsumeRequest) (zoneId : UInt16)
    (mapTemplateId instanceId : UInt32) (coreState : CharacterCoreState) (sendOk : Bool) :
    Narrows st
      (st.finalizeEnterWorldSuccess pending zoneId mapTemplateId instanceId coreState sendOk) := by
  unfold finalizeEnterWorldSuccess
  extract_lets requestId src flow blank pendingEnter sent
  split
  · exact .same rfl rfl
  · have hflow := flow_rollbackAndFail
      { st with
        flow := { flow with
          pendingZonePlayerEnter :=
            flow.pendingZonePlayerEnter.filter (·.requestId ≠ requestId) } }
      pending .zonePlayerEnterSendFailed
    exact .same (congrArg (·.pendingEnterWorldConsume) hflow)
      (congrArg (·.pendingCharacterEnterSnapshot) hflow)

/-- Nor does an enter go back to them after its bind. -/
theorem narrows_assignAfterBind (st : WorldRuntime) (topology : Option ServerTopology)
    (pending : PendingEnterWorldConsumeRequest) (loaded : CharacterCoreState)
    (answers : EnterAnswers) : Narrows st (st.assignAfterBind topology pending loaded answers) := by
  unfold assignAfterBind
  extract_lets coreState mapTemplateId assigned st₁
  have hassigned : Narrows st st₁ :=
    narrows_assignMapInstance st st.flow rfl rfl topology mapTemplateId 0 false answers.assignSendOk
  refine hassigned.trans ?_
  split
  · exact narrows_finalizeEnterWorldSuccess _ _ _ _ _ _ _
  · exact .same rfl rfl
  · exact narrows_rollbackAndFail _ _ _

/-- A snapshot result takes the load it answers. -/
theorem narrows_onCharacterEnterSnapshotResult (st : WorldRuntime)
    (topology : Option ServerTopology) (rr : SnapshotResult) (answers : EnterAnswers) :
    Narrows st (st.onCharacterEnterSnapshotResult topology rr answers) := by
  unfold onCharacterEnterSnapshotResult
  split
  · exact .refl st
  extract_lets src st₁ pending begun st₂ bound st₃ st₄
  have htaken : Narrows st st₂ := ⟨List.Subset.refl _, List.filter_subset_self _⟩
  have hbound : Narrows st st₃ := htaken.trans
    (.idle (flow_bindAuthenticatedWorldSessionForLogin st₂ pending.accountId pending.charId
      pending.sid pending.serial answers.bytes).1)
  split
  · exact htaken.trans (.idle rfl)
  split
  · exact htaken.trans (.idle rfl)
  split
  · exact hbound.trans (.idle rfl)
  · exact hbound.trans (narrows_assignAfterBind _ topology _ _ answers)

/-- Nor does the end of a portal transfer. -/
theorem narrows_completePortalTransfer (st : WorldRuntime) (pending : PendingPortalTransfer)
    (zoneId : UInt16) (mapTemplateId instanceId : UInt32) :
    Narrows st (st.completePortalTransfer pending zoneId mapTemplateId instanceId) := by
  unfold completePortalTransfer
  split
  · exact .idle rfl
  split <;> exact .idle rfl

/-- A portal transfer starts neither. -/
theorem narrows_beginPortalTransfer (st : WorldRuntime) (topology : Option ServerTopology)
    (request : PendingPortalTransfer) (assignSendOk : Bool) :
    Narrows st (st.beginPortalTransfer topology request assignSendOk) := by
  unfold beginPortalTransfer
  extract_lets resolved assigned st₁
  have hresolved : resolved.2.pendingEnterWorldConsume = st.flow.pendingEnterWorldConsume ∧
      resolved.2.pendingCharacterEnterSnapshot = st.flow.pendingCharacterEnterSnapshot := by
    unfold resolved EnterFlow.resolvePortalTargetInstanceId
    split
    · exact ⟨rfl, rfl⟩
    split <;> exact ⟨rfl, rfl⟩
  have hassigned : Narrows st st₁ := narrows_assignMapInstance st resolved.2 hresolved.1
    hresolved.2 topology request.targetMapTemplateId resolved.1 _ assignSendOk
  refine hassigned.trans ?_
  split
  · exact .same rfl rfl
  · split
    · exact .refl _
    · exact narrows_completePortalTransfer _ _ _ _ _
  · exact .refl _

/-- A map answer continues enters that have left both tables. -/
theorem narrows_onZoneMapAssignResponse (st : WorldRuntime) (sid serial : UInt32)
    (res : ZoneMapAssignResponse) (sendOk : UInt64 → Bool) :
    Narrows st (st.onZoneMapAssignResponse sid serial res sendOk) := by
  unfold onZoneMapAssignResponse
  split
  · exact .refl st
  split
  · exact .refl st
  extract_lets finalizeList portal src st₁ st₂ st₃ src' st₄ st₅
  have htaken : Narrows st st₁ := .same rfl rfl
  split
  · refine htaken.trans (.trans ?_ (narrows_portalElim _ _))
    exact Narrows.foldl (fun st e => narrows_rollbackAndFail _ _ _) _
  split
  · exact htaken.trans ((narrows_failFinalizeList _ _ _).trans (narrows_portalElim _ _))
  · have hassigned : Narrows st st₄ := .same rfl rfl
    have hfinalized : Narrows st₄ st₅ := by
      refine Narrows.foldl (fun st e => ?_) st₄
      dsimp only
      split
      · exact narrows_finalizeEnterWorldSuccess _ _ _ _ _ _ _
      · exact .refl _
    refine hassigned.trans (hfinalized.trans ?_)
    cases portal with
    | none => exact .refl _
    | some p => exact narrows_completePortalTransfer _ _ _ _ _

/-- So does the acknowledgement of a zone. -/
theorem narrows_onZonePlayerEnterAck (st : WorldRuntime) (sid serial : UInt32)
    (ack : ZonePlayerEnterAck) (notified : Bool) (bytes : Vector UInt8 32) :
    Narrows st (st.onZonePlayerEnterAck sid serial ack notified bytes) := by
  unfold onZonePlayerEnterAck
  split
  · exact .refl st
  next enter _ =>
    split
    · exact .refl st
    extract_lets p src st₁
    have htaken : Narrows st st₁ := .same rfl rfl
    split
    · exact htaken
    split
    · exact htaken.trans (narrows_rollbackAndFail _ _ _)
    split
    · exact htaken.trans (narrows_rollbackAndFail _ _ _)
    · exact htaken.trans (.idle (flow_completeEnterWorldSuccessAfterZoneAck st₁ enter notified
        bytes))

/-! ### Losing a zone -/

theorem narrows_failPendingZoneAssignRequestsByZoneSid (st : WorldRuntime) (sid : UInt32) :
    Narrows st (st.failPendingZoneAssignRequestsByZoneSid sid) := by
  refine Narrows.foldl (fun st assign => ?_) st
  extract_lets finalizeList portal src st₁ st₂
  have htaken : Narrows st st₁ := .same rfl rfl
  exact htaken.trans ((narrows_failFinalizeList _ _ _).trans (narrows_portalElim _ _))

/-- Failing enters adds no record: induction on their list. -/
theorem narrows_failZonePlayerEnters (st : WorldRuntime)
    (dropped : PendingZonePlayerEnterRequest → Bool) (reason : EnterWorldResultCode) :
    Narrows st (st.failZonePlayerEnters dropped reason) := by
  refine Narrows.foldl (fun st enter => ?_) st
  extract_lets p src st₁
  have htaken : Narrows st st₁ := .same rfl rfl
  split
  · exact htaken.trans (narrows_rollbackAndFail _ _ _)
  · exact htaken

/-- A lost zone fails enters and adds none. -/
theorem narrows_loseZoneRoute (st : WorldRuntime) (sid : UInt32) :
    Narrows st (st.loseZoneRoute sid) := by
  unfold loseZoneRoute
  extract_lets st₁ st₂ st₃
  have hassignments : Narrows st st₁ := by
    unfold st₁ EnterFlow.removeMapAssignmentsByZoneSid
    refine .same ?_ ?_ <;> dsimp only <;> split <;> rfl
  have hassigns : Narrows st₁ st₂ := narrows_failPendingZoneAssignRequestsByZoneSid st₁ sid
  have henters : Narrows st₂ st₃ := narrows_failZonePlayerEnters _ _ _
  exact hassignments.trans (hassigns.trans (henters.trans (.same rfl rfl)))

/-- Unregistering is losing the route, if there was one. -/
theorem narrows_unregisterZoneRoute (st : WorldRuntime) (sid serial : UInt32) :
    Narrows st (st.unregisterZoneRoute sid serial) := by
  unfold unregisterZoneRoute
  split
  · exact .refl st
  split
  · exact .refl st
  · exact narrows_loseZoneRoute st sid

/-- The expiry loses routes and fails overdue enters. -/
theorem narrows_expireStaleZoneRoutes (st : WorldRuntime) (routes : List UInt32)
    (enters portals : List UInt64) :
    Narrows st (st.expireStaleZoneRoutes routes enters portals) := by
  unfold expireStaleZoneRoutes
  extract_lets st₁ st₂
  have hroutes : Narrows st st₁ := Narrows.foldl (fun st r => narrows_loseZoneRoute st _) st
  have henters : Narrows st₁ st₂ := narrows_failZonePlayerEnters _ _ _
  refine hroutes.trans (henters.trans (Narrows.foldl (fun st p => ?_) st₂))
  exact .same rfl rfl

/-! ### Closing -/

/-- An abort only erases records. -/
theorem narrows_abortEnterWorldFlowBySession (st : WorldRuntime) (sid serial : UInt32) :
    Narrows st (st.abortEnterWorldFlowBySession sid serial) := by
  cases hvalid : isValidSessionKey sid serial with
  | false =>
      simp only [abortEnterWorldFlowBySession, hvalid, if_true]
      exact .refl st
  | true =>
      obtain ⟨hconsume, hsnapshot, -, -⟩ := flow_abortEnterWorldFlowBySession st hvalid
      refine ⟨?_, ?_⟩
      · rw [hconsume]
        exact List.filter_subset_self _
      · rw [hsnapshot]
        exact List.filter_subset_self _

/-- The close task unbinds and adds no record. -/
theorem narrows_processWorldSessionClosedOnIo (st : WorldRuntime) (sid serial : UInt32) :
    Narrows st (st.processWorldSessionClosedOnIo sid serial) := by
  unfold processWorldSessionClosedOnIo
  split
  · exact .refl st
  · unfold cleanupClosedWorldSessionActors
    dsimp only
    split <;> exact .idle rfl

/-- No task of the strand starts a consume or a load. -/
theorem narrows_runStrandTask (st : WorldRuntime) (task : StrandTask) :
    Narrows st (st.runStrandTask task) := by
  cases task with
  | close sid serial closeCharId closeReason =>
      simp only [runStrandTask, runCloseTask]
      split_ifs
      · exact .idle rfl
      · exact (narrows_processWorldSessionClosedOnIo _ _ _).after rfl
      · exact narrows_processWorldSessionClosedOnIo _ _ _
  | kick ctx =>
      have habort := narrows_abortEnterWorldFlowBySession st ctx.sid ctx.serial
      simp only [runStrandTask, processDuplicateWorldSessionKickOnIo]
      split
      · exact .refl st
      split
      · exact habort.trans (.idle rfl)
      split <;> exact habort.trans (.idle rfl)

/-- A packet other than that of an enter asks for no ticket. -/
theorem narrows_handlePacket (st : WorldRuntime) (sid serial : UInt32) {p : ClientPacket}
    (hp : ∀ accountId loginSession worldToken,
      p ≠ .enterWorldWithToken accountId loginSession worldToken) (ready sent : Bool) :
    Narrows st (st.handlePacket sid serial p ready sent) := by
  cases p with
  | enterWorldWithToken accountId loginSession worldToken => exact absurd rfl (hp _ _ _)
  | logoutWorld logoutType =>
      simp only [handlePacket, handleLogoutWorld]
      split
      · exact .idle rfl
      split <;> exact .idle rfl
  | reconnectWorld accountId charId token =>
      simp only [handlePacket, handleReconnectWorld]
      split_ifs <;> exact .idle rfl
  | gameplay op =>
      simp only [handlePacket, handleGameplay]
      split <;> exact .idle rfl

/-- A disconnect is an abort and a close. -/
theorem narrows_handleDisconnected (st : WorldRuntime) (sid serial : UInt32) :
    Narrows st (st.handleDisconnected sid serial) := by
  unfold handleDisconnected
  dsimp only
  split
  · exact (narrows_abortEnterWorldFlowBySession st sid serial).trans (.idle rfl)
  · exact .idle rfl

/-! ## Steps -/

/-- The events that ask for a ticket or are told of one. -/
def Event.isTicket : Event → Bool
  | .netTask (.packet _ _ (.enterWorldWithToken ..)) _ _ | .ticketConsumeResponse .. => true
  | _ => false

/-- The step lemma: every event but those of the tickets narrows. -/
theorem narrows_step (topology : Option ServerTopology) (st : WorldRuntime) {e : Event}
    (he : e.isTicket = false) : Narrows st (step topology st e) := by
  cases e with
  | accept => exact .idle rfl
  | receive sid serial p =>
      simp only [step]
      split <;> exact .idle rfl
  | terminate sid serial =>
      simp only [step]
      split <;> exact .idle rfl
  | netTask task ready sent =>
      simp only [step]
      split
      · have htaken : Narrows st { st with netTasks := st.netTasks.erase task } := .idle rfl
        refine htaken.trans ?_
        cases task with
        | connected sid serial => exact .idle rfl
        | packet sid serial p =>
            refine narrows_handlePacket _ sid serial (fun _ _ _ hp => ?_) ready sent
            subst hp
            exact Bool.noConfusion he
        | disconnected sid serial => exact narrows_handleDisconnected _ sid serial
      · exact .refl st
  | strand =>
      simp only [step]
      split
      · exact .refl st
      next task rest _ =>
        have htaken : Narrows st { st with strand := rest } := .idle rfl
        exact htaken.trans (narrows_runStrandTask _ task)
  | timer id aborted =>
      simp only [step, onDelayedCloseTimer]
      split
      · exact .refl st
      split_ifs <;> exact .idle rfl
  | ticketConsumeResponse res pushed => exact Bool.noConfusion he
  | snapshotResult rr answers => exact narrows_onCharacterEnterSnapshotResult st topology rr answers
  | zoneMapAssignResponse sid serial res sendOk =>
      exact narrows_onZoneMapAssignResponse st sid serial res sendOk
  | zonePlayerEnterAck sid serial ack notified bytes =>
      exact narrows_onZonePlayerEnterAck st sid serial ack notified bytes
  | registerZoneRoute hello => exact .same rfl rfl
  | zoneRouteHeartbeat beat => exact .same rfl rfl
  | unregisterZoneRoute sid serial => exact narrows_unregisterZoneRoute st sid serial
  | expireStaleZoneRoutes routes enters portals =>
      exact narrows_expireStaleZoneRoutes st routes enters portals
  | beginPortalTransfer request assignSendOk =>
      exact narrows_beginPortalTransfer st topology request assignSendOk
  | rehash routes assigns enters =>
      simp only [step]
      split <;> exact .same rfl rfl

/-- What is authenticated, or about to be, is of an account and a character in
`P`; a ticket that is still asked for names no character yet. -/
structure Vetted (P : UInt64 → UInt64 → Prop) (st : WorldRuntime) : Prop where
  sessions : st.reg.Named P
  consume : ∀ p ∈ st.flow.pendingEnterWorldConsume, p.charId = 0
  snapshot : ∀ r ∈ st.flow.pendingCharacterEnterSnapshot,
    P r.enterPending.accountId r.enterPending.charId

theorem vetted_initial : Vetted P initial where
  sessions _ _ h := by cases h
  consume := by simp [initial, EnterFlow.initial]
  snapshot := by simp [initial, EnterFlow.initial]

theorem Vetted.mono {Q : UInt64 → UInt64 → Prop} (h : Vetted P st)
    (hPQ : ∀ accountId charId, P accountId charId → Q accountId charId) : Vetted Q st where
  sessions sid s hs := hPQ _ _ (h.sessions sid s hs)
  consume := h.consume
  snapshot r hr := hPQ _ _ (h.snapshot r hr)

/-- A request for a ticket. -/
theorem Vetted.requestConsumeWorldAuthTicket (h : Vetted P st) (sid serial : UInt32)
    (accountId : UInt64) (loginSession worldToken : String) (ready sent : Bool) :
    Vetted P (st.requestConsumeWorldAuthTicket sid serial accountId loginSession worldToken ready
      sent).2 := by
  unfold WorldRuntime.requestConsumeWorldAuthTicket
  dsimp only
  split
  · exact h
  split
  · refine ⟨h.sessions, fun p hp => ?_, h.snapshot⟩
    cases mem_upsertBy hp with
    | inl hold => exact h.consume p hold
    | inr hnew => rw [hnew]
  · exact ⟨h.sessions, fun p hp => h.consume p (List.mem_of_mem_filter hp), h.snapshot⟩

/-- A consumed ticket names the character of the load that it starts. -/
theorem Vetted.onWorldAuthTicketConsumeResponse (h : Vetted P st) (res : TicketConsumeResponse)
    (pushed : Bool) (hres : res.resultKind = .ok → P res.accountId res.charId) :
    Vetted P (st.onWorldAuthTicketConsumeResponse res pushed) := by
  unfold WorldRuntime.onWorldAuthTicketConsumeResponse
  split
  · exact h
  next found hfind =>
    extract_lets src st₁ pending requested
    have htaken : Vetted P st₁ :=
      ⟨h.sessions, fun p hp => h.consume p (List.mem_of_mem_filter hp), h.snapshot⟩
    have hchar : pending.charId = res.charId :=
      if_pos (h.consume found (List.mem_of_find?_eq_some hfind))
    split
    · exact ⟨htaken.sessions, htaken.consume, htaken.snapshot⟩
    next hsame =>
      split
      · exact ⟨htaken.sessions, htaken.consume, htaken.snapshot⟩
      next hok =>
        have hP : P pending.accountId pending.charId := by
          have haccount : pending.accountId = res.accountId := by
            simpa using (not_or.mp hsame).1
          rw [haccount, hchar]
          exact hres (not_not.mp hok)
        have hrequested : Vetted P requested.2 := by
          unfold requested requestCharacterEnterSnapshotLoad
          dsimp only
          split
          · refine ⟨htaken.sessions, htaken.consume, fun r hr => ?_⟩
            cases mem_upsertBy hr with
            | inl hold => exact htaken.snapshot r hold
            | inr hnew => exact hnew ▸ hP
          · exact ⟨htaken.sessions, htaken.consume,
              fun r hr => htaken.snapshot r (List.mem_of_mem_filter hr)⟩
        split
        · exact hrequested
        · exact ⟨hrequested.sessions, hrequested.consume, hrequested.snapshot⟩

/-- **A step keeps to `P`** if the ticket that it is told of does. -/
theorem vetted_step (topology : Option ServerTopology) (h : Vetted P st) (e : Event)
    (hres : ∀ res pushed, e = .ticketConsumeResponse res pushed → res.resultKind = .ok →
      P res.accountId res.charId) : Vetted P (step topology st e) := by
  have hsessions := named_step topology e h.sessions fun rr answers snapshot _ hbegins =>
    h.snapshot snapshot (List.mem_of_find?_eq_some hbegins.pending)
  cases he : e.isTicket with
  | false =>
      have hnarrows := narrows_step topology st he
      exact ⟨hsessions, fun p hp => h.consume p (hnarrows.consume hp),
        fun r hr => h.snapshot r (hnarrows.snapshot hr)⟩
  | true =>
      cases e with
      | netTask task ready sent =>
          simp only [step]
          split
          · cases task with
            | packet sid serial p =>
                cases p with
                | enterWorldWithToken accountId loginSession worldToken =>
                    simp only [runNetTask, handlePacket, handleEnterWorldWithToken]
                    have htaken : Vetted P
                        { st with
                          netTasks := st.netTasks.erase (.packet sid serial
                            (.enterWorldWithToken accountId loginSession worldToken))
                          sessionSerials := st.sessionSerials.set sid serial } :=
                      ⟨h.sessions, h.consume, h.snapshot⟩
                    split
                    · exact htaken
                    · have hrequested := htaken.requestConsumeWorldAuthTicket sid
                        (getLatestSerial { st with
                          netTasks := st.netTasks.erase (.packet sid serial
                            (.enterWorldWithToken accountId loginSession worldToken))
                          sessionSerials := st.sessionSerials.set sid serial } sid)
                        accountId loginSession worldToken ready sent
                      split
                      · exact hrequested
                      · exact ⟨hrequested.sessions, hrequested.consume, hrequested.snapshot⟩
                | _ => exact Bool.noConfusion he
            | _ => exact Bool.noConfusion he
          · exact h
      | ticketConsumeResponse res pushed =>
          exact h.onWorldAuthTicketConsumeResponse res pushed (hres res pushed rfl)
      | _ => exact Bool.noConfusion he

end WorldRuntime

end GameServer
