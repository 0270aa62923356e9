import GameServer.World.WaitingEnters

/-!
# GameServer.World.RecalledEnters

What becomes of an enter that was sent to a zone.

Its record goes away when it is answered, when it is given up at a timeout or
with the route of its zone, or with its own connection.  What is then left to
do in the zone is up to a leave that is posted, and that is posted only if the
session of the enter is still found.

* `Recallable` — the enter is pending, and its session bound;
* `Output.settles` — an output that settles an enter: its success, or a leave;
* `Carries` — a handler that may give a recallable enter up, but then posts a
  leave for it;
* `minds`, `closes` — what a step must find for each way to give up an enter;
* `waits_step` — an enter that waited waits on, is settled, or its connection
  is being closed;
* `closed_step` — a close that is queued stays queued, or posts a leave.
-/

namespace GameServer

/-! ## Recallable enters -/

/-- What `PromoteEnterWorldSessionToInWorld` asks for: the enter is pending at
the registry, and its session is bound. -/
structure Recallable (reg : SessionRegistry) (p : PendingEnterWorldConsumeRequest) : Prop where
  valid : isValidSessionKey p.sid p.serial = true
  charId : p.charId ≠ 0
  stage : reg.worldEnterStageBySessionKey (packSessionKey p.sid p.serial) = some .enterPending
  entry : reg.pendingEnterSessionKeyByCharId p.charId = some (packSessionKey p.sid p.serial)
  session : ∃ s, reg.authedSessionsBySid p.sid = some s ∧ s.serial = p.serial ∧
    s.charId = p.charId

namespace Recallable

variable {reg : SessionRegistry} {p q : PendingEnterWorldConsumeRequest}

/-- The promotion succeeds exactly on a session that can be recalled. -/
theorem promote_iff :
    (reg.promoteEnterWorldSessionToInWorld p.sid p.serial p.charId).1 = true ↔
      Recallable reg p := by
  simp only [SessionRegistry.promoteEnterWorldSessionToInWorld]
  split_ifs with hin hstage hauth hentry
  · refine iff_of_false not_false fun h => ?_
    exact hin.elim (fun hvalid => Bool.noConfusion (hvalid.symm.trans h.valid)) h.charId
  · exact iff_of_false not_false fun h => hstage h.stage
  · refine iff_of_false not_false fun h => ?_
    obtain ⟨s, hs, hserial, hchar⟩ := h.session
    simp [hs, hserial, hchar] at hauth
  · exact iff_of_false not_false fun h => hentry h.entry
  · refine iff_of_true rfl ?_
    simp only [not_or, Bool.not_eq_false] at hin
    refine ⟨hin.1, hin.2, not_not.mp hstage, not_not.mp hentry, ?_⟩
    cases hs : reg.authedSessionsBySid p.sid with
    | none => simp [hs] at hauth
    | some s => exact ⟨s, rfl, by simpa [hs] using hauth⟩

instance instDecidableRecallable (reg : SessionRegistry) (p : PendingEnterWorldConsumeRequest) :
    Decidable (Recallable reg p) :=
  decidable_of_iff _ promote_iff

theorem pending (h : Recallable reg p) :
    reg.isEnterWorldSessionPending p.sid p.serial p.charId = true := by
  simp only [SessionRegistry.isEnterWorldSessionPending, h.valid, h.stage, h.entry]
  simpa using h.charId

theorem key_ne (hne : q.isOf p.sid p.serial = false) :
    packSessionKey p.sid p.serial ≠ packSessionKey q.sid q.serial := by
  rintro heq
  obtain ⟨hsid, hserial⟩ := packSessionKey_inj.mp heq
  simp [PendingEnterWorldConsumeRequest.isOf, hsid, hserial] at hne

/-- The cancel of another connection leaves an enter recallable. -/
theorem cancel (h : Recallable reg p) (hne : q.isOf p.sid p.serial = false) (charId : UInt64) :
    Recallable (reg.cancelPendingEnterWorldSession q.sid q.serial charId) p := by
  simp only [SessionRegistry.cancelPendingEnterWorldSession]
  split
  · refine ⟨h.valid, h.charId, ?_, ?_, h.session⟩
    · exact Table.eraseMatching_eq_some_iff.mpr ⟨h.stage, fun hkey => key_ne hne hkey.1⟩
    · dsimp only
      split
      · exact Table.eraseMatching_eq_some_iff.mpr ⟨h.entry, fun hkey => key_ne hne hkey.2⟩
      · exact h.entry
  · exact h

/-- The unbind of another connection leaves an enter recallable. -/
theorem unbind (h : Recallable reg p) (hne : q.isOf p.sid p.serial = false) :
    Recallable (reg.unbindAuthenticatedWorldSessionBySid q.sid q.serial).2 p := by
  simp only [SessionRegistry.unbindAuthenticatedWorldSessionBySid]
  split
  · split
    · exact h
    next s hs =>
      split
      · exact h
      next hserial =>
        rw [ne_eq, not_not] at hserial
        have hsid : p.sid ≠ q.sid := by
          rintro hsid
          obtain ⟨s', hs', hserial', -⟩ := h.session
          rw [hsid, hs] at hs'
          obtain rfl := Option.some.inj hs'
          rw [PendingEnterWorldConsumeRequest.isOf, ← hsid, ← hserial, hserial'] at hne
          simp at hne
        have hkey := key_ne hne
        refine ⟨h.valid, h.charId, ?_, ?_, ?_⟩ <;> dsimp only [SessionRegistry.eraseIndexEntries]
        · exact Table.erase_eq_some_iff.mpr ⟨hkey, h.stage⟩
        · exact Table.eraseWhere_eq_some_iff.mpr ⟨h.entry, beq_eq_false_iff_ne.mpr hkey⟩
        · rw [Table.erase_of_ne _ hsid]
          exact h.session
  · exact h

/-- The unbind of a recallable enter's own connection finds its character. -/
theorem unbind_self (h : Recallable reg p) (charId : UInt64) :
    let unbound := ((reg.cancelPendingEnterWorldSession p.sid p.serial
      charId).unbindAuthenticatedWorldSessionBySid p.sid p.serial).1
    unbound.kind = .removed ∧ unbound.session.charId = p.charId := by
  obtain ⟨s, hs, hserial, hchar⟩ := h.session
  have hkept : (reg.cancelPendingEnterWorldSession p.sid p.serial charId).authedSessionsBySid =
      reg.authedSessionsBySid := by
    simp only [SessionRegistry.cancelPendingEnterWorldSession]
    split <;> rfl
  simp [SessionRegistry.unbindAuthenticatedWorldSessionBySid, h.valid, hkept, hs, hserial, hchar]

end Recallable

/-! ## Outputs that settle an enter -/

namespace Output

/-- A leave of the character is posted. -/
def recalls (c : UInt64) : Output → Bool
  | .cleanupPosted charId _ _ => charId == c && c != 0
  | .leavePosted ctx => ctx.charId == c && c != 0
  | _ => false

/-- The success of the enter. -/
def succeeds (p : PendingEnterWorldConsumeRequest) : Output → Bool
  | .enterWorldResult q ok _ => ok && q == p
  | _ => false

/-- The success of the enter, or a leave of its character. -/
def settles (p : PendingEnterWorldConsumeRequest) (o : Output) : Bool :=
  o.succeeds p || o.recalls p.charId

end Output

namespace WorldRuntime

variable {st st₁ st₂ st₃ : WorldRuntime} {r : PendingZonePlayerEnterRequest}

theorem mem_emitted_of_append {o : Output} (os : List Output) (hout : st₂.out = st₁.out ++ os)
    (ho : o ∈ os) : o ∈ emitted st₁ st₂ := by
  unfold emitted
  rwa [hout, List.drop_left]

/-- A rollback of a recallable enter posts a leave. -/
theorem recalled_rollbackAndFail (st : WorldRuntime) {p : PendingEnterWorldConsumeRequest}
    (h : Recallable st.reg p) (reason : EnterWorldResultCode) :
    ∃ o ∈ emitted st (st.rollbackAndFail p reason), o.recalls p.charId = true := by
  obtain ⟨hkind, hchar⟩ := h.unbind_self p.charId
  have hout : (st.rollbackAndFail p reason).out =
      st.out ++ [.cleanupPosted p.charId p.sid p.serial, .enterWorldResult p false reason] := by
    simp [rollbackAndFail, failPendingEnterWorldConsumeRequest, rollbackBoundEnterWorld,
      cleanupClosedWorldSessionActors, hkind, hchar, h.charId, emit]
  refine ⟨_, mem_emitted_of_append _ hout List.mem_cons_self, ?_⟩
  simpa [Output.recalls] using h.charId

/-- What a rollback leaves of the registry. -/
theorem rollback_reg (st : WorldRuntime) (p : PendingEnterWorldConsumeRequest)
    (reason : EnterWorldResultCode) :
    (st.rollbackAndFail p reason).reg =
      ((st.reg.cancelPendingEnterWorldSession p.sid p.serial
        p.charId).unbindAuthenticatedWorldSessionBySid p.sid
          p.serial).2.cancelPendingEnterWorldSession p.sid p.serial p.charId := by
  obtain ⟨-, -, hreg⟩ := rollbackBoundEnterWorld_effects st p none
  exact congrArg (SessionRegistry.cancelPendingEnterWorldSession · p.sid p.serial p.charId) hreg

/-- The rollback of another connection's enter. -/
theorem recallable_rollbackAndFail {p q : PendingEnterWorldConsumeRequest}
    (h : Recallable st.reg p) (hne : q.isOf p.sid p.serial = false)
    (reason : EnterWorldResultCode) : Recallable (st.rollbackAndFail q reason).reg p := by
  rw [rollback_reg]
  exact ((h.cancel hne q.charId).unbind hne).cancel hne q.charId

/-! ## Loops over enters that are given up -/

/-- No other enter of the same connection is under way. -/
def alone (st : WorldRuntime) (r : PendingZonePlayerEnterRequest) : Bool :=
  (st.flow.pendingZonePlayerEnter.all fun other =>
    other.requestId == r.requestId ||
      !other.enterPending.isOf r.enterPending.sid r.enterPending.serial) &&
  st.flow.pendingEnterWorldFinalize.all fun parked =>
    !parked.enterPending.isOf r.enterPending.sid r.enterPending.serial

/-- An enter waits, and can be given up without a trace. -/
structure Held (r : PendingZonePlayerEnterRequest) (st : WorldRuntime) : Prop where
  keyed : st.EntersKeyed
  waits : r ∈ st.flow.pendingZonePlayerEnter
  recallable : Recallable st.reg r.enterPending
  alone : st.alone r = true

/-- A handler that holds on to an enter, or posts a leave for it. -/
structure Carries (r : PendingZonePlayerEnterRequest) (st st' : WorldRuntime) : Prop where
  out : st.out <+: st'.out
  held : Held r st → Held r st' ∨ ∃ o ∈ emitted st st', o.recalls r.enterPending.charId = true

/-- Fewer enters are under way, but this one is. -/
theorem Held.restrict (h : Held r st₁) (hreg : st₂.reg = st₁.reg)
    (henters : st₂.flow.pendingZonePlayerEnter.Sublist st₁.flow.pendingZonePlayerEnter)
    (hwaits : r ∈ st₂.flow.pendingZonePlayerEnter)
    (hparked : st₂.flow.pendingEnterWorldFinalize ⊆ st₁.flow.pendingEnterWorldFinalize) :
    Held r st₂ := by
  refine ⟨(henters.map _).nodup h.keyed, hwaits, hreg ▸ h.recallable, ?_⟩
  have halone := h.alone
  simp only [WorldRuntime.alone, Bool.and_eq_true, List.all_eq_true] at halone ⊢
  exact ⟨fun other hother => halone.1 other (henters.subset hother),
    fun parked hmem => halone.2 parked (hparked hmem)⟩

theorem Held.isOf_parked (h : Held r st) {e : PendingEnterWorldFinalize}
    (he : e ∈ st.flow.pendingEnterWorldFinalize) :
    e.enterPending.isOf r.enterPending.sid r.enterPending.serial = false := by
  have halone := h.alone
  simp only [WorldRuntime.alone, Bool.and_eq_true, List.all_eq_true] at halone
  simpa using halone.2 e he

/-- Another waiting enter has another id and another connection. -/
theorem Held.eq_or_other (h : Held r st) {other : PendingZonePlayerEnterRequest}
    (hother : other ∈ st.flow.pendingZonePlayerEnter) :
    other = r ∨ r.requestId ≠ other.requestId ∧
      other.enterPending.isOf r.enterPending.sid r.enterPending.serial = false := by
  by_cases hid : other.requestId = r.requestId
  · exact .inl (List.inj_on_of_nodup_map h.keyed hother h.waits hid)
  · have halone := h.alone
    simp only [WorldRuntime.alone, Bool.and_eq_true, List.all_eq_true] at halone
    exact .inr ⟨Ne.symm hid, by simpa [hid] using halone.1 other hother⟩

theorem emitted_of_isPrefix (h₁ : st₁.out <+: st₂.out) (h₂ : st₂.out <+: st₃.out) :
    emitted st₁ st₃ = emitted st₁ st₂ ++ emitted st₂ st₃ := by
  obtain ⟨os₁, hos₁⟩ := h₁
  obtain ⟨os₂, hos₂⟩ := h₂
  simp only [emitted, ← hos₁, ← hos₂]
  simp

namespace Carries

theorem refl (st : WorldRuntime) : Carries r st st := ⟨List.prefix_rfl, .inl⟩

/-- What two steps carry, they carry together. -/
theorem trans (h₁ : Carries r st₁ st₂) (h₂ : Carries r st₂ st₃) : Carries r st₁ st₃ := by
  refine ⟨h₁.out.trans h₂.out, fun hheld => ?_⟩
  rw [emitted_of_isPrefix h₁.out h₂.out]
  rcases h₁.held hheld with hheld₂ | ⟨o, ho, hrecalls⟩
  · rcases h₂.held hheld₂ with hheld₃ | ⟨o, ho, hrecalls⟩
    · exact .inl hheld₃
    · exact .inr ⟨o, List.mem_append_right _ ho, hrecalls⟩
  · exact .inr ⟨o, List.mem_append_left _ ho, hrecalls⟩

theorem foldl {α : Type} {f : WorldRuntime → α → WorldRuntime} {l : List α}
    (h : ∀ st, ∀ a ∈ l, Carries r st (f st a)) (st : WorldRuntime) :
    Carries r st (l.foldl f st) :=
  foldl_of_trans refl trans h st

/-- A handler that only takes others' enters out of the tables. -/
theorem restrict (hout : st₁.out <+: st₂.out) (hreg : st₂.reg = st₁.reg)
    (henters : st₂.flow.pendingZonePlayerEnter.Sublist st₁.flow.pendingZonePlayerEnter)
    (hwaits : r ∈ st₁.flow.pendingZonePlayerEnter → r ∈ st₂.flow.pendingZonePlayerEnter)
    (hparked : st₂.flow.pendingEnterWorldFinalize ⊆ st₁.flow.pendingEnterWorldFinalize) :
    Carries r st₁ st₂ :=
  ⟨hout, fun h => .inl (h.restrict hreg henters (hwaits h.waits) hparked)⟩

/-- A handler that does not touch the enters. -/
theorem idle (hout : st₁.out <+: st₂.out) (hreg : st₂.reg = st₁.reg)
    (henters : st₂.flow.pendingZonePlayerEnter = st₁.flow.pendingZonePlayerEnter)
    (hparked : st₂.flow.pendingEnterWorldFinalize ⊆ st₁.flow.pendingEnterWorldFinalize) :
    Carries r st₁ st₂ :=
  restrict hout hreg (by rw [henters]) (fun h => henters ▸ h) hparked

end Carries

theorem out_rollbackAndFail (st : WorldRuntime) (p : PendingEnterWorldConsumeRequest)
    (reason : EnterWorldResultCode) : st.out <+: (st.rollbackAndFail p reason).out := by
  obtain ⟨os, hos, -⟩ := (fails_rollbackAndFail st p reason).answers.out
  exact ⟨os, hos.symm⟩

/-- The rollback of another connection carries the enter along. -/
theorem carries_rollbackAndFail {q : PendingEnterWorldConsumeRequest}
    (hne : q.isOf r.enterPending.sid r.enterPending.serial = false)
    (reason : EnterWorldResultCode) : Carries r st (st.rollbackAndFail q reason) := by
  have hflow := flow_rollbackAndFail st q reason
  refine ⟨out_rollbackAndFail st q reason, fun h => .inl ⟨?_, ?_, ?_, ?_⟩⟩
  · unfold EntersKeyed
    rw [hflow]
    exact h.keyed
  · rw [hflow]
    exact h.waits
  · exact recallable_rollbackAndFail h.recallable hne reason
  · unfold WorldRuntime.alone
    rw [hflow]
    exact h.alone

/-- So does failing a list without that connection: induction on it. -/
theorem carries_failFinalizeList {list : List PendingEnterWorldFinalize}
    (hlist : ∀ e ∈ list,
      e.enterPending.isOf r.enterPending.sid r.enterPending.serial = false)
    (reason : EnterWorldResultCode) : Carries r st (st.failFinalizeList list reason) := by
  refine Carries.foldl (fun st e he => ?_) st
  dsimp only
  split
  · exact carries_rollbackAndFail (hlist e he) reason
  · exact .refl st

theorem carries_portalElim (portal : Option PendingPortalTransfer) :
    Carries r st (portal.elim st st.failPendingPortalTransfer) := by
  cases portal with
  | none => exact .refl st
  | some p => exact .idle (List.prefix_append _ _) rfl rfl (List.Subset.refl _)

/-- The parked enters of a lost zone connection are others' enters. -/
theorem carries_failPendingZoneAssignRequestsByZoneSid (st : WorldRuntime) (sid : UInt32) :
    Carries r st (st.failPendingZoneAssignRequestsByZoneSid sid) := by
  refine Carries.foldl (fun st assign _ => ?_) st
  extract_lets finalizeList portal src st₁ st₂
  have hdropped : Carries r st st₁ :=
    .idle List.prefix_rfl rfl rfl fun _ => List.mem_of_mem_filter
  have hfailed : Carries r st st₂ := by
    obtain ⟨os, hos, -⟩ := (fails_failFinalizeList st₁ finalizeList .zoneAssignRouteLost).answers.out
    refine ⟨⟨os, hos.symm⟩, fun hheld => (hdropped.trans ?_).held hheld⟩
    refine carries_failFinalizeList (fun e he => ?_) _
    exact hheld.isOf_parked (List.mem_of_mem_filter he)
  exact hfailed.trans (carries_portalElim portal)

/-- One pass over the enters that are given up: this one, or another. -/
theorem carries_failZonePlayerEnter {other : PendingZonePlayerEnterRequest}
    (h : other = r ∨ r.requestId ≠ other.requestId ∧
      other.enterPending.isOf r.enterPending.sid r.enterPending.serial = false)
    (reason : EnterWorldResultCode) : Carries r st (failZonePlayerEnter reason st other) := by
  unfold failZonePlayerEnter
  extract_lets p src st₁
  rcases h with rfl | ⟨hid, hne⟩
  · -- its own turn: it is recalled
    refine ⟨?_, fun hheld => .inr ?_⟩
    · split
      · exact out_rollbackAndFail st₁ p reason
      · exact List.prefix_rfl
    · have hpending : st₁.reg.isEnterWorldSessionPending p.sid p.serial p.charId = true :=
        hheld.recallable.pending
      rw [if_pos hpending]
      exact recalled_rollbackAndFail st₁ hheld.recallable reason
  · have hdropped : Carries r st st₁ := by
      refine .restrict List.prefix_rfl rfl List.filter_sublist (fun hr => ?_) (List.Subset.refl _)
      exact List.mem_filter.mpr ⟨hr, by simpa using hid⟩
    split
    · exact hdropped.trans (carries_rollbackAndFail hne reason)
    · exact hdropped

/-- Enters that fail at a zone are recalled one after the other. -/
theorem carries_failZonePlayerEnters (st : WorldRuntime)
    (dropped : PendingZonePlayerEnterRequest → Bool) (reason : EnterWorldResultCode) :
    Carries r st (st.failZonePlayerEnters dropped reason) := by
  obtain ⟨os, hos, -⟩ := (fails_failZonePlayerEnters st dropped reason).answers.out
  refine ⟨⟨os, hos.symm⟩, fun hheld => Carries.held (Carries.foldl (fun st other hother => ?_) st)
    hheld⟩
  exact carries_failZonePlayerEnter (hheld.eq_or_other (List.mem_of_mem_filter hother)) reason

/-- A lost zone recalls what it fails. -/
theorem carries_loseZoneRoute (st : WorldRuntime) (sid : UInt32) :
    Carries r st (st.loseZoneRoute sid) := by
  unfold loseZoneRoute
  extract_lets st₁ st₂ st₃
  have hassignments : Carries r st st₁ := by
    have hkept : st₁.flow.pendingZonePlayerEnter = st.flow.pendingZonePlayerEnter ∧
        st₁.flow.pendingEnterWorldFinalize = st.flow.pendingEnterWorldFinalize := by
      unfold st₁ EnterFlow.removeMapAssignmentsByZoneSid
      dsimp only
      split <;> exact ⟨rfl, rfl⟩
    exact .idle List.prefix_rfl rfl hkept.1 (by rw [hkept.2]; exact List.Subset.refl _)
  have hassigns := hassignments.trans (carries_failPendingZoneAssignRequestsByZoneSid st₁ sid)
  have henters : Carries r st st₃ := hassigns.trans (carries_failZonePlayerEnters st₂ _ _)
  exact henters.trans (.idle List.prefix_rfl rfl rfl (List.Subset.refl _))

/-- Unregistering is losing the route, if there was one. -/
theorem carries_unregisterZoneRoute (st : WorldRuntime) (sid serial : UInt32) :
    Carries r st (st.unregisterZoneRoute sid serial) := by
  unfold unregisterZoneRoute
  split
  · exact .refl st
  split
  · exact .refl st
  · exact carries_loseZoneRoute st sid

/-- The expiry loses routes one after the other. -/
theorem carries_expireStaleZoneRoutes (st : WorldRuntime) (routes : List UInt32)
    (enters portals : List UInt64) :
    Carries r st (st.expireStaleZoneRoutes routes enters portals) := by
  unfold expireStaleZoneRoutes
  extract_lets st₁ st₂
  have hroutes : Carries r st st₁ :=
    Carries.foldl (fun st route _ => carries_loseZoneRoute st route.sid) st
  have henters : Carries r st st₂ := hroutes.trans (carries_failZonePlayerEnters st₁ _ _)
  refine henters.trans (Carries.foldl (fun st p _ => ?_) st₂)
  exact .idle (List.prefix_append _ _) rfl rfl (List.Subset.refl _)

/-! ## The ack -/

theorem settles_of_recalls {p : PendingEnterWorldConsumeRequest} {o : Output}
    (h : o.recalls p.charId = true) : o.settles p = true := by
  simp [Output.settles, h]

/-- The answer to a recallable enter settles it. -/
theorem settled_completeEnterWorldSuccessAfterZoneAck (st : WorldRuntime)
    (h : Recallable st.reg r.enterPending) (notified : Bool) (bytes : Vector UInt8 32) :
    ∃ o ∈ emitted st (st.completeEnterWorldSuccessAfterZoneAck r notified bytes),
      o.settles r.enterPending = true := by
  have hannounced : st.out <+: (st.announceEnter r).out := by
    unfold announceEnter
    dsimp only
    split
    · exact ⟨[_, _], (List.append_assoc _ [_] [_]).symm⟩
    · exact List.prefix_append _ _
  obtain ⟨os, hos⟩ := hannounced
  obtain ⟨hpromoted, -⟩ | ⟨-, -, hdone⟩ | ⟨-, -, htaken⟩ :=
    completeEnterWorldSuccessAfterZoneAck_cases st r notified bytes
  · exact Bool.noConfusion (hpromoted.symm.trans (Recallable.promote_iff.mpr h))
  · rw [hdone]
    refine ⟨.enterWorldResult r.enterPending true .success,
      mem_emitted_of_append (os ++ [_]) ?_ (List.mem_append_right _ List.mem_cons_self), ?_⟩
    · simp only [emit, ← hos, List.append_assoc]
    · simp [Output.settles, Output.succeeds]
  · rw [htaken]
    refine ⟨.leavePosted { charId := r.enterPending.charId, sid := r.enterPending.sid
                           serial := r.enterPending.serial, zoneId := r.targetZoneId
                           mapTemplateId := r.mapTemplateId, instanceId := r.instanceId },
      mem_emitted_of_append (os ++
        [_, .enterWorldResult r.enterPending false .accountEnterNotifyFailed]) ?_
        (List.mem_append_right _ List.mem_cons_self),
      settles_of_recalls (by simpa [Output.recalls] using h.charId)⟩
    simp only [failPendingEnterWorldConsumeRequest, leaveAnnounced, beginLeaveWorld,
      if_neg h.charId, emit, ← hos, List.append_assoc]
    rfl

/-- So it is when the answer is a mismatch or a refusal. -/
theorem settled_onZonePlayerEnterAck (hkeyed : st.EntersKeyed)
    (hr : r ∈ st.flow.pendingZonePlayerEnter) (h : Recallable st.reg r.enterPending)
    {sid serial : UInt32} {ack : ZonePlayerEnterAck} (hid : r.requestId = ack.requestId)
    (htarget : r.targetSid = sid ∧ r.targetSerial = serial) (notified : Bool)
    (bytes : Vector UInt8 32) :
    ∃ o ∈ emitted st (st.onZonePlayerEnterAck sid serial ack notified bytes),
      o.settles r.enterPending = true := by
  have hfind : st.flow.pendingZonePlayerEnter.find? (·.requestId == ack.requestId) = some r := by
    obtain ⟨found, hfound⟩ := Option.isSome_iff_exists.mp
      (List.find?_isSome (p := (·.requestId == ack.requestId)).mpr ⟨r, hr, by simpa using hid⟩)
    have hsame : found.requestId = r.requestId := by
      have hack : found.requestId = ack.requestId := by simpa using List.find?_some hfound
      exact hack.trans hid.symm
    rwa [List.inj_on_of_nodup_map hkeyed (List.mem_of_find?_eq_some hfound) hr hsame] at hfound
  have hcheck : ¬ (r.targetSid ≠ sid ∨ r.targetSerial ≠ serial) := by simp [htarget]
  unfold onZonePlayerEnterAck
  split
  next hnone =>
    rw [hnone] at hfind
    cases hfind
  next enter henter =>
  obtain rfl := Option.some.inj (hfind.symm.trans henter)
  rw [if_neg hcheck]
  extract_lets p src st₁
  have hrolled (reason : EnterWorldResultCode) :
      ∃ o ∈ emitted st (st₁.rollbackAndFail r.enterPending reason),
        o.settles r.enterPending = true := by
    obtain ⟨o, ho, hrecalls⟩ := recalled_rollbackAndFail st₁ h reason
    exact ⟨o, ho, settles_of_recalls hrecalls⟩
  have hpending : ¬ st₁.reg.isEnterWorldSessionPending p.sid p.serial p.charId = false :=
    Bool.eq_false_iff.not.mpr (not_not.mpr h.pending)
  rw [if_neg hpending]
  split
  · exact hrolled _
  split
  · exact hrolled _
  · exact settled_completeEnterWorldSuccessAfterZoneAck st₁ h notified bytes

/-! ## Closing the connection of an enter -/

/-- A close is carried out at once: the client has logged out, or another
close of the connection is under way. -/
def closesAtOnce (st : WorldRuntime) (sid serial : UInt32)
    (closeReason : WorldSessionCloseReason) : Bool :=
  closeReason == .explicitSoftLogout || closeReason == .explicitHardLogout ||
    !(st.delayed.tryReserveDelayedWorldClose sid serial).1

/-- The session of the enter is bound. -/
def bindsEnter (st : WorldRuntime) (p : PendingEnterWorldConsumeRequest) : Bool :=
  p.charId != 0 &&
    (st.reg.tryGetAuthenticatedWorldSession p.sid p.serial).any (·.charId == p.charId)

/-- A close that is carried out at once posts a leave for the character of the
session. -/
theorem recalled_runCloseTask (st : WorldRuntime) {p : PendingEnterWorldConsumeRequest}
    {closeReason : WorldSessionCloseReason} (closeCharId : UInt64)
    (honce : st.closesAtOnce p.sid p.serial closeReason = true) (hbound : st.bindsEnter p = true) :
    ∃ o ∈ emitted st (st.runCloseTask p.sid p.serial closeCharId closeReason),
      o.recalls p.charId = true := by
  have hgrace : ¬ ((closeReason ≠ .explicitSoftLogout ∧ closeReason ≠ .explicitHardLogout) ∧
      (st.delayed.tryReserveDelayedWorldClose p.sid p.serial).1 = true) := by
    simp only [closesAtOnce, Bool.or_eq_true, beq_iff_eq, Bool.not_eq_true'] at honce
    rintro ⟨⟨hsoft, hhard⟩, hreserved⟩
    rcases honce with (hsoft' | hhard') | hrefused
    · exact hsoft hsoft'
    · exact hhard hhard'
    · exact Bool.noConfusion (hrefused.symm.trans hreserved)
  simp only [bindsEnter, SessionRegistry.tryGetAuthenticatedWorldSession,
    SessionRegistry.findAuthenticatedWorldSessionBySid, Bool.and_eq_true, bne_iff_ne, ne_eq] at hbound
  obtain ⟨hchar, hsession⟩ := hbound
  split_ifs at hsession with hvalid hsid
  · simp at hsession
  · cases hs : st.reg.authedSessionsBySid p.sid with
    | none => simp [hs] at hsession
    | some s =>
        have hfound : s.serial = p.serial ∧ s.charId = p.charId := by
          simpa [hs, Option.filter, apply_ite] using hsession
        have hout : (st.runCloseTask p.sid p.serial closeCharId closeReason).out =
            st.out ++ [.cleanupPosted p.charId p.sid p.serial] := by
          unfold runCloseTask
          dsimp only
          rw [if_neg hgrace]
          simp [processWorldSessionClosedOnIo, hvalid, cleanupClosedWorldSessionActors,
            SessionRegistry.unbindAuthenticatedWorldSessionBySid, hs, hfound, hchar, emit]
        refine ⟨_, mem_emitted_of_append _ hout List.mem_cons_self, ?_⟩
        simpa [Output.recalls] using hchar
  · simp at hsession

/-- A close of the enter's connection waits for its turn. -/
def closeQueued (st : WorldRuntime) (p : PendingEnterWorldConsumeRequest) : Bool :=
  st.strand.any fun
    | .close sid serial _ _ => p.isOf sid serial
    | .kick _ => false

/-! ## Steps -/

/-- The ids that are drawn next are not the enter's. -/
def drawsOthers (st : WorldRuntime) (r : PendingZonePlayerEnterRequest) (n : Nat) : Bool :=
  (List.range n).all fun i =>
    r.requestId != st.flow.nextZonePlayerEnterRequestId + UInt64.ofNat i

/-- A waiting enter is minded: whatever takes its record finds it recallable,
and not the enter of a connection that is kicked. -/
def minds (st : WorldRuntime) (r : PendingZonePlayerEnterRequest) : Event → Bool
  | .snapshotResult .. => st.drawsOthers r 1
  | .zoneMapAssignResponse .. => st.drawsOthers r st.flow.pendingEnterWorldFinalize.length
  | .zonePlayerEnterAck sid serial ack _ _ =>
      r.requestId != ack.requestId || r.targetSid != sid || r.targetSerial != serial ||
        decide (Recallable st.reg r.enterPending)
  | .unregisterZoneRoute sid _ =>
      r.targetSid != sid || (decide (Recallable st.reg r.enterPending) && st.alone r)
  | .expireStaleZoneRoutes routes enters _ =>
      (!routes.contains r.targetSid && !enters.contains r.requestId) ||
        (decide (Recallable st.reg r.enterPending) && st.alone r)
  | .strand =>
      match st.strand.head? with
      | some (.kick ctx) => !r.enterPending.isOf ctx.sid ctx.serial
      | _ => true
  | _ => true

/-- An enter that waits is waiting still, is settled, or goes with its
connection. -/
structure Follows (r : PendingZonePlayerEnterRequest) (st st' : WorldRuntime) : Prop where
  cases : r ∈ st'.flow.pendingZonePlayerEnter ∨
    (∃ o ∈ emitted st st', o.settles r.enterPending = true) ∨
      st'.closeQueued r.enterPending = true

theorem Carries.follows (h : Carries r st₁ st₂) (hheld : Held r st₁) : Follows r st₁ st₂ := by
  rcases h.held hheld with hheld' | ⟨o, ho, hrecalls⟩
  · exact ⟨.inl hheld'.waits⟩
  · exact ⟨.inr (.inl ⟨o, ho, settles_of_recalls hrecalls⟩)⟩

/-- The step lemma for an enter that waits: it goes on waiting, succeeds or is recalled. -/
theorem waits_step (topology : Option ServerTopology) (hkeyed : st.EntersKeyed)
    (hr : r ∈ st.flow.pendingZonePlayerEnter) {e : Event} (hminds : st.minds r e = true) :
    Follows r st (step topology st e) := by
  have hstay (he : e ≠ .strand) (hkeeps : st.Keeps e r) : Follows r st (step topology st e) :=
    ⟨.inl ((entersStay_step topology st he).stay hkeyed r hr hkeeps)⟩
  cases e with
  | snapshotResult rr answers =>
      refine hstay (by simp) ?_
      simpa [minds, drawsOthers, Keeps] using hminds
  | zoneMapAssignResponse sid serial res sendOk =>
      refine hstay (by simp) ?_
      simpa [minds, drawsOthers, Keeps] using hminds
  | zonePlayerEnterAck sid serial ack notified bytes =>
      by_cases hack : r.requestId = ack.requestId ∧ r.targetSid = sid ∧ r.targetSerial = serial
      · have hrecallable : Recallable st.reg r.enterPending := by
          simpa [minds, hack.1, hack.2.1, hack.2.2] using hminds
        exact ⟨.inr (.inl (settled_onZonePlayerEnterAck hkeyed hr hrecallable hack.1 hack.2 notified
          bytes))⟩
      · exact hstay (by simp) hack
  | unregisterZoneRoute sid serial =>
      by_cases hsid : r.targetSid = sid
      · have hheld : Recallable st.reg r.enterPending ∧ st.alone r = true := by
          simpa [minds, hsid] using hminds
        exact (carries_unregisterZoneRoute st sid serial).follows ⟨hkeyed, hr, hheld.1, hheld.2⟩
      · exact hstay (by simp) hsid
  | expireStaleZoneRoutes routes enters portals =>
      by_cases hkept : r.targetSid ∉ routes ∧ r.requestId ∉ enters
      · exact hstay (by simp) hkept
      · have hheld : Recallable st.reg r.enterPending ∧ st.alone r = true := by
          simp only [minds, Bool.or_eq_true, Bool.and_eq_true, decide_eq_true_eq] at hminds
          refine hminds.resolve_left fun hnone => hkept ?_
          simpa using hnone
        exact (carries_expireStaleZoneRoutes st routes enters portals).follows
          ⟨hkeyed, hr, hheld.1, hheld.2⟩
  | netTask task ready sent =>
      by_cases htask : ∀ sid serial, task = .disconnected sid serial →
          r.enterPending.isOf sid serial = false
      · exact hstay (by simp) htask
      · push Not at htask
        obtain ⟨sid, serial, rfl, hof⟩ := htask
        simp only [step]
        split
        · rcases closing_handleDisconnected
              { st with netTasks := st.netTasks.erase (.disconnected sid serial) } sid serial hr with
            hwaits | ⟨closeCharId, closeReason, hclose⟩
          · exact ⟨.inl hwaits⟩
          · refine ⟨.inr (.inr (List.any_eq_true.mpr ⟨_, hclose, ?_⟩))⟩
            simpa using hof
        · exact ⟨.inl hr⟩
  | strand =>
      simp only [step]
      split
      · exact ⟨.inl hr⟩
      next task rest hstrand =>
        refine ⟨.inl ((entersStay_runStrandTask { st with strand := rest } task).stay hkeyed r hr
          fun ctx htask => ?_)⟩
        simpa [minds, hstrand, htask] using hminds
  | accept => exact hstay (by simp) trivial
  | receive sid serial p => exact hstay (by simp) trivial
  | terminate sid serial => exact hstay (by simp) trivial
  | timer id aborted => exact hstay (by simp) trivial
  | ticketConsumeResponse res pushed => exact hstay (by simp) trivial
  | registerZoneRoute hello => exact hstay (by simp) trivial
  | zoneRouteHeartbeat beat => exact hstay (by simp) trivial
  | beginPortalTransfer request assignSendOk => exact hstay (by simp) trivial
  | rehash routes assigns enters => exact hstay (by simp) trivial

/-- A close of the enter's connection is minded: it is carried out at once and
finds the session, unless there is another one. -/
def closes (st : WorldRuntime) (p : PendingEnterWorldConsumeRequest) (e : Event) : Bool :=
  match e, st.strand with
  | .strand, .close sid serial _ closeReason :: rest =>
      !p.isOf sid serial || { st with strand := rest }.closeQueued p ||
        (st.closesAtOnce sid serial closeReason && st.bindsEnter p)
  | _, _ => true

/-- The step lemma for a connection whose close is queued: the close stays queued or posts
the recall. -/
theorem closed_step (topology : Option ServerTopology) {p : PendingEnterWorldConsumeRequest}
    (hqueued : st.closeQueued p = true) {e : Event} (hcloses : st.closes p e = true) :
    (step topology st e).closeQueued p = true ∨
      ∃ o ∈ emitted st (step topology st e), o.recalls p.charId = true := by
  obtain ⟨task, htask, hof⟩ := List.any_eq_true.mp hqueued
  rcases mem_strand_step topology htask e with hstays | ⟨rfl, hhead⟩
  · exact .inl (List.any_eq_true.mpr ⟨task, hstays, hof⟩)
  -- its turn has come
  obtain ⟨rest, hstrand⟩ := List.head?_eq_some_iff.mp hhead
  cases task with
  | kick ctx => cases hof
  | close sid serial closeCharId closeReason =>
      have hpopped : step topology st .strand =
          { st with strand := rest }.runCloseTask sid serial closeCharId closeReason := by
        simp [step, hstrand, runStrandTask]
      simp only [closes, hstrand, hof, Bool.not_true, Bool.false_or, Bool.or_eq_true,
        Bool.and_eq_true] at hcloses
      rw [hpopped]
      rcases hcloses with hother | ⟨honce, hbound⟩
      · obtain ⟨task', htask', hof'⟩ := List.any_eq_true.mp hother
        have hkept := (sameEnters_runCloseTask { st with strand := rest } sid serial closeCharId
          closeReason).strand
        exact .inl (List.any_eq_true.mpr ⟨task', hkept.subset htask', hof'⟩)
      · have hconnection : p.sid = sid ∧ p.serial = serial := by
          simpa [PendingEnterWorldConsumeRequest.isOf] using hof
        obtain ⟨rfl, rfl⟩ := hconnection
        exact .inr (recalled_runCloseTask { st with strand := rest } closeCharId honce hbound)

end WorldRuntime

end GameServer
