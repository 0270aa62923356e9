import GameServer.Login.LateResults
import GameServer.Login.RequestAccounts

/-!
# GameServer.Login.RequestSources

Where the login server has its requests and its sessions from.

* `SameIdentity` — a session's serial, account and login session do not change;
* `StepSources` — after a step, what is asked was read of a session, what is
  issued was asked, what is sent was kept by its handler, and a session that
  is not an old one is that of a login whose result was taken;
* `stepSources_step` — so every step.
-/

namespace GameServer

/-! ## Sessions -/

namespace LoginLine

/-- The slot has a session with that identity. -/
def HasIdentity (r : LoginLine) (sid : UInt32) (session' : LoginSessionAuthState) : Prop :=
  ∃ session, r.loginSessions sid = some session ∧ session.serial = session'.serial ∧
    session.accountId = session'.accountId ∧ session.loginSession = session'.loginSession

/-- Every session was there before, with the same identity. -/
def SameIdentity (r r' : LoginLine) : Prop :=
  ∀ sid session', r'.loginSessions sid = some session' → r.HasIdentity sid session'

section

variable (r : LoginLine)

theorem SameIdentity.refl : SameIdentity r r := fun _ session hs => ⟨session, hs, rfl, rfl, rfl⟩

/-- A session is written, and keeps its identity. -/
theorem sameIdentity_set {r r' : LoginLine} {sid : UInt32} {st st' : LoginSessionAuthState}
    (hold : r.loginSessions sid = some st)
    (hset : r'.loginSessions = r.loginSessions.set sid st') (hserial : st.serial = st'.serial)
    (haccount : st.accountId = st'.accountId) (hsession : st.loginSession = st'.loginSession) :
    SameIdentity r r' := by
  intro sid' session hs
  rw [hset, Table.set_apply] at hs
  split_ifs at hs with hsid
  · cases hs
    exact ⟨st, by rw [hsid, hold], hserial, haccount, hsession⟩
  · exact ⟨session, hs, rfl, rfl, rfl⟩

theorem sameIdentity_removeLoginSession (sid serial : UInt32) :
    SameIdentity r (r.removeLoginSession sid serial) :=
  fun _ session hs => ⟨session, (loginSessions_removeLoginSession.mp hs).1, rfl, rfl, rfl⟩

/-- A world selection keeps who the session is. -/
theorem sameIdentity_onWorldSelectResult (clientSid clientSerial : UInt32) (ok : Bool)
    (accountId : UInt64) (worldId : UInt16) (worldHost : String) (worldPort : UInt16) :
    SameIdentity r (r.onWorldSelectResult clientSid clientSerial ok accountId worldId worldHost
      worldPort) := by
  unfold onWorldSelectResult
  cases hold : r.loginSessions clientSid with
  | none => exact .refl r
  | some st =>
      dsimp only
      split
      · exact sameIdentity_set hold rfl rfl rfl rfl
      · exact .refl r

/-- So does a character selection. -/
theorem sameIdentity_onCharacterSelectResult (clientSid clientSerial : UInt32) (ok : Bool)
    (charId : UInt64) (worldToken worldHost : String) (worldPort : UInt16) :
    SameIdentity r (r.onCharacterSelectResult clientSid clientSerial ok charId worldToken worldHost
      worldPort) := by
  unfold onCharacterSelectResult
  cases hold : r.loginSessions clientSid with
  | none => exact .refl r
  | some st =>
      dsimp only
      split
      · exact sameIdentity_set hold rfl rfl rfl rfl
      · exact .refl r

/-- The session whose enter succeeded goes away as a whole. -/
theorem sameIdentity_onWorldEnterSuccessNotify (accountId charId : UInt64)
    (loginSession worldToken : String) :
    SameIdentity r (r.onWorldEnterSuccessNotify accountId charId loginSession worldToken) := by
  unfold onWorldEnterSuccessNotify
  split
  · exact fun sid session hs =>
      ⟨session, (loginSessions_removeLoginSession.mp hs).1, rfl, rfl, rfl⟩
  · split_ifs <;> exact fun sid session hs => ⟨session, hs, rfl, rfl, rfl⟩

end

end LoginLine

namespace LoginRuntime

open LoginLine

/-- The session is that of a login whose result was taken. -/
def OfTakenLogin (st : LoginRuntime) (sid : UInt32) (session : LoginSessionAuthState) : Prop :=
  ∃ p r worldToken failReason, (p, r) ∈ st.taken ∧
    r.reply = .login true session.accountId session.loginSession worldToken failReason ∧
    sid = p.clientSid ∧ session.serial = p.clientSerial

/-- Where the requests and the sessions after a step come from. -/
structure StepSources (st st' : LoginRuntime) (e : Event) : Prop where
  opened : ∀ o ∈ st'.opened, o ∈ st.opened ∨ OpenIssue.Reads st o
  issued : ∀ q ∈ st'.issued, q ∈ st.issued ∨
    ∃ o ∈ st.opened, q.clientSid = o.sid ∧ q.clientSerial = o.serial ∧ q.ask = o.ask
  sent : ∀ a ∈ st'.sent, a ∈ st.sent ∨ ∃ w ∈ st.kept, a = w.pending.packet
  taken : ∀ t ∈ st'.taken, t ∈ st.taken ∨ e = .result t.2
  sessions : ∀ sid session', st'.line.loginSessions sid = some session' →
    st.line.HasIdentity sid session' ∨ OfTakenLogin st sid session'

section

variable {st st' : LoginRuntime} {e : Event}

/-- Nothing is asked, issued, sent or taken. -/
theorem StepSources.of_line (hopened : st'.opened = st.opened) (hissued : st'.issued = st.issued)
    (hsent : st'.sent = st.sent) (htaken : ∀ t ∈ st'.taken, t ∈ st.taken)
    (hline : ∀ sid session', st'.line.loginSessions sid = some session' →
      st.line.HasIdentity sid session' ∨ OfTakenLogin st sid session') : StepSources st st' e where
  opened _ ho := .inl (hopened ▸ ho)
  issued _ hq := .inl (hissued ▸ hq)
  sent _ ha := .inl (hsent ▸ ha)
  taken t ht := .inl (htaken t ht)
  sessions := hline

/-- The sessions after a reply. -/
theorem session_applyReply {p : PendingRequest} {r : AccountReply} {sid : UInt32}
    {session' : LoginSessionAuthState}
    (h : (st.applyReply p r).loginSessions sid = some session') :
    st.line.HasIdentity sid session' ∨
    ∃ worldToken failReason,
      r = .login true session'.accountId session'.loginSession worldToken failReason ∧
      sid = p.clientSid ∧ session'.serial = p.clientSerial := by
  cases r with
  | login ok accountId loginSession worldToken failReason =>
      simp only [applyReply] at h
      by_cases hrefused : ok = false ∨ accountId = 0 ∨ loginSession = ""
      · rw [completeLoginRequest, if_pos hrefused] at h
        exact .inl ⟨session', h, rfl, rfl, rfl⟩
      · obtain ⟨hself, hother⟩ := st.line.loginSessions_completeLoginRequest p.clientSid
          p.clientSerial worldToken hrefused
        by_cases hsid : sid = p.clientSid
        · rw [hsid, hself] at h
          cases h
          obtain rfl : ok = true := by
            by_contra hok
            exact hrefused (.inl (Bool.eq_false_iff.mpr hok))
          exact .inr ⟨worldToken, failReason, rfl, hsid, rfl⟩
        · exact .inl ⟨session', hother sid session' hsid h, rfl, rfl, rfl⟩
  | worldList => exact .inl ⟨session', h, rfl, rfl, rfl⟩
  | worldSelect => exact .inl (st.line.sameIdentity_onWorldSelectResult _ _ _ _ _ _ _ _ _ h)
  | characterList => exact .inl ⟨session', h, rfl, rfl, rfl⟩
  | characterSelect =>
      exact .inl (st.line.sameIdentity_onCharacterSelectResult _ _ _ _ _ _ _ _ _ h)

/-- A session that was there is who it was. -/
theorem line_sources (st : LoginRuntime) (sid : UInt32) (session' : LoginSessionAuthState)
    (hs : st.line.loginSessions sid = some session') :
    st.line.HasIdentity sid session' ∨ OfTakenLogin st sid session' :=
  .inl ⟨session', hs, rfl, rfl, rfl⟩

/-- An event that does nothing makes nothing. -/
theorem stepSources_refl (st : LoginRuntime) (e : Event) : StepSources st st e :=
  .of_line rfl rfl rfl (fun _ => id) st.line_sources

/-- A handler that has read a question goes on with it, or refuses it. -/
theorem stepSources_dataAnalysis (st : LoginRuntime) (sid serial : UInt32) (useProtobuf : Bool)
    (ask : ClientAsk) :
    StepSources st (st.step (.dataAnalysis sid serial useProtobuf ask))
      (.dataAnalysis sid serial useProtobuf ask) := by
  simp only [step]
  obtain ⟨o, heq, -, hreads⟩ | ⟨reply, heq, -⟩ :=
    st.dataAnalysis_cases sid serial useProtobuf ask
  · rw [heq]
    refine ⟨fun o' ho' => ?_, fun q hq => .inl hq, fun a ha => .inl ha, fun t ht => .inl ht,
      st.line_sources⟩
    rcases List.mem_append.mp ho' with hold | hnew
    · exact .inl hold
    · rw [List.mem_singleton.mp hnew]
      exact .inr hreads
  · rw [heq]
    exact .of_line rfl rfl rfl (fun _ => id) st.line_sources

/-- A request is issued for what was asked. -/
theorem stepSources_draw (st : LoginRuntime) (i : Nat) (traceId : UInt64) (now : Nat) :
    StepSources st (st.step (.draw i traceId now)) (.draw i traceId now) := by
  simp only [step]
  split
  next => exact stepSources_refl st _
  next o ho =>
    refine ⟨fun o' ho' => .inl (List.mem_of_mem_eraseIdx ho'), fun q hq => ?_,
      fun a ha => .inl ha, fun t ht => .inl ht, st.line_sources⟩
    rcases List.mem_append.mp hq with hold | hnew
    · exact .inl hold
    · rw [List.mem_singleton.mp hnew]
      exact .inr ⟨o, List.mem_of_getElem? ho, rfl, rfl, rfl⟩

/-- A packet is sent for a request that is kept. -/
theorem stepSources_sendRequest (st : LoginRuntime) (i : Nat) (sendOk : Bool) :
    StepSources st (st.step (.sendRequest i sendOk)) (.sendRequest i sendOk) := by
  simp only [step, sendRequest]
  split
  next => exact stepSources_refl st _
  next w hw =>
    split
    next =>
      refine ⟨fun o ho => .inl ho, fun q hq => .inl hq, fun a ha => ?_, fun t ht => .inl ht,
        st.line_sources⟩
      rcases List.mem_append.mp ha with hold | hnew
      · exact .inl hold
      · exact .inr ⟨w, List.mem_of_getElem? hw, List.mem_singleton.mp hnew⟩
    next => exact .of_line rfl rfl rfl (fun _ => id) st.line_sources

/-- A result is taken with its request. -/
theorem stepSources_result (st : LoginRuntime) (r : AccountResult) :
    StepSources st (st.step (.result r)) (.result r) := by
  simp only [step, onResult]
  split
  next => exact stepSources_refl st _
  next p hp =>
    refine ⟨fun o ho => .inl ho, fun q hq => .inl hq, fun a ha => .inl ha, fun t ht => ?_,
      st.line_sources⟩
    rcases List.mem_append.mp ht with hold | hnew
    · exact .inl hold
    · rw [List.mem_singleton.mp hnew]
      exact .inr rfl

/-- A login that was accepted makes a session of its account. -/
theorem stepSources_complete (st : LoginRuntime) (i : Nat) :
    StepSources st (st.step (.complete i)) (.complete i) := by
  simp only [step]
  split
  next => exact stepSources_refl st _
  next p r hpr =>
    refine .of_line rfl rfl rfl (fun t ht => List.mem_of_mem_eraseIdx ht) fun sid session' hs => ?_
    refine Or.imp_right ?_ (session_applyReply hs)
    rintro ⟨worldToken, failReason, hreply, hsid, hserial⟩
    exact ⟨p, r, worldToken, failReason, List.mem_of_getElem? hpr, hreply, hsid, hserial⟩

/-- One case for each event of the login server. -/
theorem stepSources_step (st : LoginRuntime) (e : Event) : StepSources st (st.step e) e := by
  cases e with
  | dataAnalysis sid serial useProtobuf ask =>
      exact st.stepSources_dataAnalysis sid serial useProtobuf ask
  | draw i traceId now => exact st.stepSources_draw i traceId now
  | keep i =>
      simp only [step]
      split
      next => exact stepSources_refl st _
      next => exact .of_line rfl rfl rfl (fun _ => id) st.line_sources
  | sendRequest i sendOk => exact st.stepSources_sendRequest i sendOk
  | takeBack i =>
      simp only [step]
      split
      next => exact stepSources_refl st _
      next => exact .of_line rfl rfl rfl (fun _ => id) st.line_sources
  | result r => exact st.stepSources_result r
  | complete i => exact st.stepSources_complete i
  | expire timeout now =>
      simp only [step, expirePendingLoginRequests, foldl_answerTo]
      exact .of_line rfl rfl rfl (fun _ => id) st.line_sources
  | accountRegistered sid serial => exact .of_line rfl rfl rfl (fun _ => id) st.line_sources
  | accountDisconnected sid serial =>
      simp only [step, onAccountDisconnected]
      split
      next => exact stepSources_refl st _
      next => exact .of_line rfl rfl rfl (fun _ => id) st.line_sources
  | worldEnterSuccessNotify accountId charId loginSession worldToken =>
      exact .of_line rfl rfl rfl (fun _ => id) fun sid session' hs =>
        .inl (st.line.sameIdentity_onWorldEnterSuccessNotify _ _ _ _ sid session' hs)
  | removeLoginSession sid serial =>
      exact .of_line rfl rfl rfl (fun _ => id) fun sid' session' hs =>
        .inl (st.line.sameIdentity_removeLoginSession sid serial sid' session' hs)

end

end LoginRuntime

end GameServer
