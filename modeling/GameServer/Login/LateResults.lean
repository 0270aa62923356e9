import GameServer.Login.LoginIndex

/-!
# GameServer.Login.LateResults

Auth results that come late.

The login server asks the account server about every login, and keeps the
request under an id of its own with the connection it came from. When the
answer comes, that connection may have been closed and its slot given to
another.

* `LoginServer`, `step` — the connections, the requests and their answers, in
  any order; an answer is taken first and completed later;
* `LateResultKeeps` — an answer for a closed connection stores no session and
  leaves the session of the connection that has its slot now;
* `lateResultKeeps_run_iff` — this is so precisely if no login is completed for
  a closed connection.
-/

namespace GameServer

/-- `PendingLoginRequest`. -/
structure PendingLoginRequest where
  requestId : UInt64
  clientSid : UInt32
  clientSerial : UInt32
  loginId : String
  password : String
  issuedAt : Nat
deriving DecidableEq, Repr

/-- What an auth result says. -/
structure AccountAuthAnswer where
  ok : Bool
  accountId : UInt64
  loginSession : String
  worldToken : String
deriving DecidableEq, Repr

/-- `LoginLineRuntime` with its client line. `connections` has the serial of
the connection of each slot, and `taken` the requests that
`OnAccountAuthResult` has taken and not completed. -/
structure LoginServer where
  connections : Table UInt32 UInt32 := .empty
  sessionSerials : Table UInt32 UInt32 := .empty
  nextLoginRequestId : UInt64 := 1
  pendingLoginRequests : Table UInt64 PendingLoginRequest := .empty
  taken : List (PendingLoginRequest × AccountAuthAnswer) := []
  line : LoginLine := {}

namespace LoginServer

section

variable (st : LoginServer)

/-- `GetLatestSerial`. -/
def getLatestSerial (sid : UInt32) : UInt32 := (st.sessionSerials sid).getD 0

/-- `HandleConnected_`. -/
def handleConnected (sid serial : UInt32) : LoginServer :=
  { st with sessionSerials := st.sessionSerials.set sid serial }

/-- `IssueLoginRequest`; `ready` is `IsAccountReady`, and `sent` whether the
request could be sent. -/
def issueLoginRequest (now : Nat) (sid serial : UInt32) (loginId password : String)
    (ready sent : Bool) : LoginServer :=
  if ready = false then st
  else
    let pending : PendingLoginRequest :=
      { requestId := st.nextLoginRequestId, clientSid := sid, clientSerial := serial
        loginId, password, issuedAt := now }
    let pendingLoginRequests := st.pendingLoginRequests.set pending.requestId pending
    { st with
      nextLoginRequestId := st.nextLoginRequestId + 1
      pendingLoginRequests :=
        if sent then pendingLoginRequests else pendingLoginRequests.erase pending.requestId }

/-- A login request is received (`HandlePacket_`, `DataAnalysis`). -/
def onLoginRequest (now : Nat) (sid serial : UInt32) (loginId password : String)
    (ready sent : Bool) : LoginServer :=
  let st := { st with sessionSerials := st.sessionSerials.set sid serial }
  st.issueLoginRequest now sid (st.getLatestSerial sid) loginId password ready sent

/-- `OnLineClosed`, if `ShouldHandleClose`. -/
def onLineClosed (sid serial : UInt32) : LoginServer :=
  if st.getLatestSerial sid ≠ serial then st
  else { st with line := st.line.removeLoginSession sid serial }

/-- `HandleDisconnected_`. -/
def handleDisconnected (sid serial : UInt32) : LoginServer :=
  let st := st.onLineClosed sid serial
  { st with sessionSerials := st.sessionSerials.eraseMatching sid serial }

/-- `OnAccountAuthResult`, up to `CompleteLoginRequest_`. -/
def onAccountAuthResult (requestId : UInt64) (answer : AccountAuthAnswer) : LoginServer :=
  match st.pendingLoginRequests requestId with
  | none => st
  | some pending =>
      { st with
        pendingLoginRequests := st.pendingLoginRequests.erase requestId
        taken := st.taken ++ [(pending, answer)] }

/-- `CompleteLoginRequest_`. -/
def completeLoginRequest (pending : PendingLoginRequest) (answer : AccountAuthAnswer) :
    LoginServer :=
  { st with
    line := st.line.completeLoginRequest pending.clientSid pending.clientSerial answer.ok
      answer.accountId answer.loginSession answer.worldToken }

/-- `ExpirePendingLoginRequests_`. -/
def expirePendingLoginRequests (timeout now : Nat) : LoginServer :=
  { st with
    pendingLoginRequests := st.pendingLoginRequests.eraseWhere fun p => p.issuedAt + timeout ≤ now }

end

/-- What can happen next. A slot is given to a connection when the one before
has ended, and an answer that was taken is completed at any time after; the
other results are those of the login line. -/
inductive Event where
  | accept (sid serial : UInt32)
  | loginRequest (now : Nat) (sid : UInt32) (loginId password : String) (ready sent : Bool)
  | disconnect (sid : UInt32)
  | authResult (requestId : UInt64) (answer : AccountAuthAnswer)
  | complete (i : Nat)
  | expire (now : Nat)
  | worldSelectResult (clientSid clientSerial : UInt32) (ok : Bool) (accountId : UInt64)
      (worldId : UInt16) (worldHost : String) (worldPort : UInt16)
  | characterSelectResult (clientSid clientSerial : UInt32) (ok : Bool) (charId : UInt64)
      (worldToken worldHost : String) (worldPort : UInt16)
  | worldEnterSuccessNotify (accountId charId : UInt64) (loginSession worldToken : String)
deriving DecidableEq, Repr

/-- One step of the login server; `timeout` is `k_login_request_timeout`. -/
def step (timeout : Nat) (st : LoginServer) : Event → LoginServer
  | .accept sid serial =>
      if st.connections sid = none then
        { st with connections := st.connections.set sid serial }.handleConnected sid serial
      else st
  | .loginRequest now sid loginId password ready sent =>
      match st.connections sid with
      | none => st
      | some serial => st.onLoginRequest now sid serial loginId password ready sent
  | .disconnect sid =>
      match st.connections sid with
      | none => st
      | some serial =>
          { st with connections := st.connections.erase sid }.handleDisconnected sid serial
  | .authResult requestId answer => st.onAccountAuthResult requestId answer
  | .complete i =>
      match st.taken[i]? with
      | none => st
      | some (pending, answer) =>
          { st with taken := st.taken.eraseIdx i }.completeLoginRequest pending answer
  | .expire now => st.expirePendingLoginRequests timeout now
  | .worldSelectResult clientSid clientSerial ok accountId worldId worldHost worldPort =>
      { st with
        line := st.line.onWorldSelectResult clientSid clientSerial ok accountId worldId worldHost
          worldPort }
  | .characterSelectResult clientSid clientSerial ok charId worldToken worldHost worldPort =>
      { st with
        line := st.line.onCharacterSelectResult clientSid clientSerial ok charId worldToken
          worldHost worldPort }
  | .worldEnterSuccessNotify accountId charId loginSession worldToken =>
      { st with
        line := st.line.onWorldEnterSuccessNotify accountId charId loginSession worldToken }

/-- What an answer leaves alone: if the connection of the request has closed,
there is no login session afterwards that was not there before; and the
session of another connection that is live at the slot stays as it is. -/
structure Keeps (st st' : LoginServer) (pending : PendingLoginRequest) : Prop where
  none_created : st.connections pending.clientSid ≠ some pending.clientSerial →
    ∀ sid session, st'.line.loginSessions sid = some session →
      st.line.loginSessions sid = some session
  live_kept : ∀ session, st.line.loginSessions pending.clientSid = some session →
    session.serial ≠ pending.clientSerial →
    st.connections pending.clientSid = some session.serial →
    st'.line.loginSessions pending.clientSid = some session

/-- **Late auth results** touch no other connection. -/
def LateResultKeeps (timeout : Nat) (st : LoginServer) (e : Event) : Prop :=
  ∀ i pending answer, e = .complete i → st.taken[i]? = some (pending, answer) →
    Keeps st (st.step timeout e) pending

/-- A login is completed only while its connection is there. -/
def OnTime (st : LoginServer) (e : Event) : Prop :=
  ∀ i pending answer, e = .complete i → st.taken[i]? = some (pending, answer) →
    answer.ok = true → answer.accountId ≠ 0 → answer.loginSession ≠ "" →
    st.connections pending.clientSid = some pending.clientSerial

end LoginServer

/-! ## The sessions -/

namespace LoginLine

/-- Every session was there before, at its slot and with its serial. -/
def NoNewSession (r r' : LoginLine) : Prop :=
  ∀ sid session', r'.loginSessions sid = some session' →
    ∃ session, r.loginSessions sid = some session ∧ session.serial = session'.serial

section

variable (r : LoginLine)

/-- The sessions of a login: the new one, and those that are not replaced. -/
theorem loginSessions_completeLoginRequest (clientSid clientSerial : UInt32) {ok : Bool}
    {accountId : UInt64} {loginSession : String} (worldToken : String)
    (hok : ¬(ok = false ∨ accountId = 0 ∨ loginSession = "")) :
    let r' := r.completeLoginRequest clientSid clientSerial ok accountId loginSession worldToken
    r'.loginSessions clientSid =
        some (newSession clientSid clientSerial accountId loginSession) ∧
      ∀ sid session, sid ≠ clientSid → r'.loginSessions sid = some session →
        r.loginSessions sid = some session := by
  unfold completeLoginRequest
  rw [if_neg hok]
  refine ⟨Table.set_self _ _ _, fun sid session hne hsession => ?_⟩
  simp only [storeLoginSession, eraseDetachedWorldEnterState, Table.set_of_ne _ _ hne] at hsession
  -- The victims are only removed.
  have hkept := foldl_of_trans
    (R := fun r r' : LoginLine => ∀ sid session, r'.loginSessions sid = some session →
      r.loginSessions sid = some session)
    (fun _ _ _ => id) (fun h h' sid session hs => h sid session (h' sid session hs))
    (fun r v _ sid session hs => (loginSessions_removeLoginSession.mp hs).1)
    (r.removeLoginSession clientSid clientSerial) sid session hsession
  exact (loginSessions_removeLoginSession.mp hkept).1

theorem NoNewSession.refl : NoNewSession r r := fun _ session hs => ⟨session, hs, rfl⟩

/-- A session is written, and keeps its serial. -/
theorem noNewSession_set {r r' : LoginLine} {sid : UInt32} {st st' : LoginSessionAuthState}
    (hold : r.loginSessions sid = some st)
    (hset : r'.loginSessions = r.loginSessions.set sid st') (hserial : st'.serial = st.serial) :
    NoNewSession r r' := by
  intro sid' session hs
  rw [hset, Table.set_apply] at hs
  split_ifs at hs with hsid
  · cases hs
    exact ⟨st, by rw [hsid, hold], hserial.symm⟩
  · exact ⟨session, hs, rfl⟩

/-- A world selection continues a session and makes none. -/
theorem noNewSession_onWorldSelectResult (clientSid clientSerial : UInt32) (ok : Bool)
    (accountId : UInt64) (worldId : UInt16) (worldHost : String) (worldPort : UInt16) :
    NoNewSession r (r.onWorldSelectResult clientSid clientSerial ok accountId worldId worldHost
      worldPort) := by
  unfold onWorldSelectResult
  cases hold : r.loginSessions clientSid with
  | none => exact .refl r
  | some st =>
      dsimp only
      split
      · exact noNewSession_set hold rfl rfl
      · exact .refl r

/-- Nor does a character selection make one. -/
theorem noNewSession_onCharacterSelectResult (clientSid clientSerial : UInt32) (ok : Bool)
    (charId : UInt64) (worldToken worldHost : String) (worldPort : UInt16) :
    NoNewSession r (r.onCharacterSelectResult clientSid clientSerial ok charId worldToken worldHost
      worldPort) := by
  unfold onCharacterSelectResult
  cases hold : r.loginSessions clientSid with
  | none => exact .refl r
  | some st =>
      dsimp only
      split
      · exact noNewSession_set hold rfl rfl
      · exact .refl r

/-- The notice of an enter removes a session. -/
theorem noNewSession_onWorldEnterSuccessNotify (accountId charId : UInt64)
    (loginSession worldToken : String) :
    NoNewSession r (r.onWorldEnterSuccessNotify accountId charId loginSession worldToken) := by
  unfold onWorldEnterSuccessNotify
  split
  · exact fun sid session hs => ⟨session, (loginSessions_removeLoginSession.mp hs).1, rfl⟩
  · split_ifs <;> exact fun sid session hs => ⟨session, hs, rfl⟩

end

end LoginLine

namespace LoginServer

/-! ## Steps -/

/-- Every login session is that of the connection of its slot, and the handler
knows the serial of each connection. -/
structure SessionsConnected (st : LoginServer) : Prop where
  session : ∀ sid session, st.line.loginSessions sid = some session →
    st.connections sid = some session.serial
  latest : ∀ sid serial, st.connections sid = some serial → st.sessionSerials sid = some serial

theorem sessionsConnected_init : SessionsConnected {} where
  session _ _ h := by cases h
  latest _ _ h := by cases h

section

variable {st : LoginServer}

/-- A step of the other kinds: the connections and serials stay, and there is
no new session. -/
theorem SessionsConnected.congr {st' : LoginServer} (h : SessionsConnected st)
    (hconnections : st'.connections = st.connections)
    (hserials : st'.sessionSerials = st.sessionSerials)
    (hline : LoginLine.NoNewSession st.line st'.line) : SessionsConnected st' where
  session sid session' hs := by
    obtain ⟨session, hsession, hserial⟩ := hline sid session' hs
    rw [hconnections, ← hserial]
    exact h.session sid session hsession
  latest sid serial hconn := by
    rw [hconnections] at hconn
    rw [hserials]
    exact h.latest sid serial hconn

/-- A new connection on a free slot has a new serial. -/
theorem SessionsConnected.accept (h : SessionsConnected st) {sid serial : UInt32}
    (hfree : st.connections sid = none) :
    SessionsConnected
      ({ st with connections := st.connections.set sid serial }.handleConnected sid serial) where
  session sid' session hs := by
    have hconn := h.session sid' session hs
    have hne : sid' ≠ sid := by
      rintro rfl
      rw [hfree] at hconn
      cases hconn
    exact (Table.set_of_ne _ _ hne).trans hconn
  latest sid' serial' hconn := by
    simp only [handleConnected, Table.set_apply] at hconn ⊢
    split_ifs at hconn ⊢ with hsid
    · exact hconn
    · exact h.latest sid' serial' hconn

/-- A login request comes over a connection that is there. -/
theorem SessionsConnected.loginRequest (h : SessionsConnected st) {sid serial : UInt32}
    (hconn : st.connections sid = some serial) (now : Nat) (loginId password : String)
    (ready sent : Bool) :
    SessionsConnected (st.onLoginRequest now sid serial loginId password ready sent) := by
  have hserials : st.sessionSerials.set sid serial = st.sessionSerials := by
    funext sid'
    rw [Table.set_apply]
    split_ifs with hsid
    · rw [hsid, h.latest sid serial hconn]
    · rfl
  unfold onLoginRequest issueLoginRequest
  split_ifs
  · exact h.congr rfl hserials fun sid session hs => ⟨session, hs, rfl⟩
  all_goals exact h.congr rfl hserials fun sid session hs => ⟨session, hs, rfl⟩

/-- A disconnect removes the session of its connection. -/
theorem SessionsConnected.disconnect (h : SessionsConnected st) {sid serial : UInt32}
    (hconn : st.connections sid = some serial) :
    SessionsConnected
      ({ st with connections := st.connections.erase sid }.handleDisconnected sid serial) := by
  have hlatest : st.getLatestSerial sid = serial := by
    unfold getLatestSerial
    rw [h.latest sid serial hconn]
    rfl
  have hclosed : { st with connections := st.connections.erase sid }.onLineClosed sid serial =
      { st with
        connections := st.connections.erase sid
        line := st.line.removeLoginSession sid serial } :=
    if_neg (not_not.mpr hlatest)
  unfold handleDisconnected
  rw [hclosed]
  refine ⟨fun sid' session hs => ?_, fun sid' serial' hconn' => ?_⟩
  · obtain ⟨hold, hnot⟩ := LoginLine.loginSessions_removeLoginSession.mp hs
    have hconn' := h.session sid' session hold
    refine Table.erase_eq_some_iff.mpr ⟨?_, hconn'⟩
    rintro rfl
    exact hnot ⟨rfl, Option.some.inj (hconn'.symm.trans hconn)⟩
  · obtain ⟨hne, hconn'⟩ := Table.erase_eq_some_iff.mp hconn'
    exact Table.eraseMatching_eq_some_iff.mpr
      ⟨h.latest sid' serial' hconn', fun hc => hne hc.1⟩

/-- A login is completed while its connection is there. -/
theorem SessionsConnected.complete (h : SessionsConnected st) {pending : PendingLoginRequest}
    {answer : AccountAuthAnswer}
    (hon : answer.ok = true → answer.accountId ≠ 0 → answer.loginSession ≠ "" →
      st.connections pending.clientSid = some pending.clientSerial) :
    SessionsConnected (st.completeLoginRequest pending answer) := by
  by_cases hok : answer.ok = false ∨ answer.accountId = 0 ∨ answer.loginSession = ""
  · unfold completeLoginRequest LoginLine.completeLoginRequest
    rw [if_pos hok]
    exact h
  · obtain ⟨hnew, hothers⟩ := st.line.loginSessions_completeLoginRequest pending.clientSid
      pending.clientSerial answer.worldToken hok
    obtain ⟨hans, haccount, hlogin⟩ := by simpa only [not_or] using hok
    have hconn := hon (by simpa using hans) haccount hlogin
    refine ⟨fun sid session hs => ?_, h.latest⟩
    by_cases hsid : sid = pending.clientSid
    · subst hsid
      obtain rfl := Option.some.inj (hnew.symm.trans hs)
      exact hconn
    · exact h.session sid session (hothers sid session hsid hs)

/-- A completed answer keeps what it must precisely if its connection is
there: otherwise the session it stores is of a closed connection. -/
theorem keeps_completeLoginRequest_iff (h : SessionsConnected st) {pending : PendingLoginRequest}
    {answer : AccountAuthAnswer} :
    Keeps st (st.completeLoginRequest pending answer) pending ↔
      (answer.ok = true → answer.accountId ≠ 0 → answer.loginSession ≠ "" →
        st.connections pending.clientSid = some pending.clientSerial) := by
  constructor
  · intro hkeeps hans haccount hlogin
    have hok : ¬(answer.ok = false ∨ answer.accountId = 0 ∨ answer.loginSession = "") := by
      simp [hans, haccount, hlogin]
    obtain ⟨hnew, -⟩ := st.line.loginSessions_completeLoginRequest pending.clientSid
      pending.clientSerial answer.worldToken hok
    by_contra hclosed
    exact hclosed (h.session _ _ (hkeeps.none_created hclosed _ _ hnew))
  · intro hon
    by_cases hok : answer.ok = false ∨ answer.accountId = 0 ∨ answer.loginSession = ""
    · unfold completeLoginRequest LoginLine.completeLoginRequest
      rw [if_pos hok]
      exact ⟨fun _ _ _ => id, fun _ hs _ _ => hs⟩
    · obtain ⟨hans, haccount, hlogin⟩ := by simpa only [not_or] using hok
      have hconn := hon (by simpa using hans) haccount hlogin
      refine ⟨fun hclosed => absurd hconn hclosed, fun session _ hne hlive => ?_⟩
      exact absurd (Option.some.inj (hlive.symm.trans hconn)) hne

/-- Exactly a result that comes after the disconnect makes a session without a connection. -/
theorem lateResultKeeps_iff (h : SessionsConnected st) (timeout : Nat) (e : Event) :
    LateResultKeeps timeout st e ↔ OnTime st e := by
  unfold LateResultKeeps OnTime
  refine forall_congr' fun i => forall_congr' fun pending => forall_congr' fun answer =>
    forall_congr' fun he => forall_congr' fun htaken => ?_
  subst he
  simp only [step, htaken]
  -- The list of what was taken is not part of it.
  have htail : SessionsConnected { st with taken := st.taken.eraseIdx i } := ⟨h.session, h.latest⟩
  exact ⟨fun hkeeps => (keeps_completeLoginRequest_iff htail).mp
      ⟨hkeeps.none_created, hkeeps.live_kept⟩,
    fun hon => ⟨((keeps_completeLoginRequest_iff htail).mpr hon).none_created,
      ((keeps_completeLoginRequest_iff htail).mpr hon).live_kept⟩⟩

/-- The step lemma, while results come in time. -/
theorem sessionsConnected_step (h : SessionsConnected st) (timeout : Nat) {e : Event}
    (hon : OnTime st e) : SessionsConnected (st.step timeout e) := by
  cases e with
  | accept sid serial =>
      simp only [step]
      split_ifs with hfree
      · exact h.accept hfree
      · exact h
  | loginRequest now sid loginId password ready sent =>
      simp only [step]
      cases hconn : st.connections sid with
      | none => exact h
      | some serial => exact h.loginRequest hconn now loginId password ready sent
  | disconnect sid =>
      simp only [step]
      cases hconn : st.connections sid with
      | none => exact h
      | some serial => exact h.disconnect hconn
  | authResult requestId answer =>
      simp only [step, onAccountAuthResult]
      split <;> exact h.congr rfl rfl (.refl _)
  | complete i =>
      simp only [step]
      cases htaken : st.taken[i]? with
      | none => exact h
      | some p =>
          have htail : SessionsConnected { st with taken := st.taken.eraseIdx i } :=
            ⟨h.session, h.latest⟩
          exact htail.complete (hon i p.1 p.2 rfl htaken)
  | expire now => exact h.congr rfl rfl (.refl _)
  | worldSelectResult clientSid clientSerial ok accountId worldId worldHost worldPort =>
      exact h.congr rfl rfl (st.line.noNewSession_onWorldSelectResult clientSid clientSerial ok
        accountId worldId worldHost worldPort)
  | characterSelectResult clientSid clientSerial ok charId worldToken worldHost worldPort =>
      exact h.congr rfl rfl (st.line.noNewSession_onCharacterSelectResult clientSid clientSerial ok
        charId worldToken worldHost worldPort)
  | worldEnterSuccessNotify accountId charId loginSession worldToken =>
      exact h.congr rfl rfl (st.line.noNewSession_onWorldEnterSuccessNotify accountId charId
        loginSession worldToken)

end

/-! ## Runs -/

/-- **Late auth results**: in a run no auth result touches another connection
precisely if logins are completed only while their connections are there. -/
theorem lateResultKeeps_run_iff (timeout : Nat) (es : List Event) :
    Along (step timeout) (LateResultKeeps timeout) {} es ↔ Along (step timeout) OnTime {} es := by
  constructor
  · exact along_of_along sessionsConnected_init
      (fun st e h hkeeps => sessionsConnected_step h timeout
        ((lateResultKeeps_iff h timeout e).mp hkeeps))
      (fun st e h => (lateResultKeeps_iff h timeout e).mp)
  · exact along_of_along sessionsConnected_init
      (fun st e h => sessionsConnected_step h timeout)
      (fun st e h => (lateResultKeeps_iff h timeout e).mpr)

/-- A client asks for a login and disconnects, and the next client at its slot
logs in; then the first request is answered. -/
def answeredLate : List Event :=
  [.accept 1 1, .loginRequest 0 1 "first" "" true true, .disconnect 1, .accept 1 2,
    .loginRequest 1 1 "second" "" true true,
    .authResult 2 { ok := true, accountId := 20, loginSession := "b", worldToken := "" },
    .complete 0,
    .authResult 1 { ok := true, accountId := 10, loginSession := "a", worldToken := "" }]

/-- The late answer puts a session of the first client, which has gone, in the
place of the session of the second. -/
theorem not_lateResultKeeps_answeredLate :
    ¬ ∀ timeout es, Along (step timeout) (LateResultKeeps timeout) {} es := by
  intro h
  have hlate := h (5 * 10 ^ 9) (answeredLate ++ [.complete 0])
  rw [along_append] at hlate
  have hkeeps := hlate.2.1 0
    { requestId := 1, clientSid := 1, clientSerial := 1, loginId := "first", password := ""
      issuedAt := 0 }
    { ok := true, accountId := 10, loginSession := "a", worldToken := "" } rfl (by decide +kernel)
  have hkept := hkeeps.live_kept (LoginLine.newSession 1 2 20 "b") (by decide +kernel)
    (by decide) (by decide +kernel)
  revert hkept
  decide +kernel

end LoginServer

end GameServer
