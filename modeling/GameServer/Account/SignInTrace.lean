import Mathlib.Data.List.TakeWhile
import GameServer.Account.SignIn
import GameServer.Account.TicketWorlds
import GameServer.Login.RequestSources

/-!
# GameServer.Account.SignInTrace

Every ticket goes back to a login.

* `Traced` — what the messages and the tables of the two servers say about the
  logins before them;
* `traced_step` — every step keeps it;
* `tickets_signedIn` — in every run, a ticket and an accepted consume are of a
  character that was selected by a connection logged in as its account.
-/

namespace GameServer

open PasswordCheck

namespace SignIn

/-- A login that the account server was asked about. -/
def AskedBy (s : SignIn) (job : AccountAuthRequest) : Prop :=
  ∃ p ∈ s.login.issued, ∃ loginId password, p.ask = .login loginId password ∧
    p.requestId = job.requestId ∧ job.loginId = cString loginIdMaxLen loginId ∧
    job.password = cString loginPwMaxLen password

/-- A login with that id was accepted. -/
def AcceptedUnder (s : SignIn) (requestId accountId : UInt64) (loginSession : String) : Prop :=
  ∃ p, Accepted s p accountId loginSession ∧ p.requestId = requestId

/-- What is sent and kept goes back to logins. -/
structure Traced (s : SignIn) : Prop where
  placed : ∃ asked, s.login.Placed asked
  distinct : (s.login.issued.map (·.requestId)).Nodup
  sent : ∀ a ∈ s.login.sent, ∃ p ∈ s.login.issued, a = p.packet
  opened : ∀ o ∈ s.login.opened, ∀ i, o.ask.identity = some i →
    LoggedInAs s o.sid o.serial i.1 i.2
  issued : ∀ q ∈ s.login.issued, ∀ i, q.ask.identity = some i →
    LoggedInAs s q.clientSid q.clientSerial i.1 i.2
  sessions : ∀ sid session, s.login.line.loginSessions sid = some session →
    LoggedInAs s sid session.serial session.accountId session.loginSession
  jobs : ∀ job ∈ s.jobs, AskedBy s job
  authResults : ∀ rr ∈ s.authResults, rr.ok ≠ 0 → rr.result = .success →
    AcceptedUnder s rr.requestId rr.accountId (textOf rr.loginSession)
  results : ∀ r ∈ s.results, ∀ accountId loginSession worldToken failReason,
    r.reply = .login true accountId loginSession worldToken failReason →
    AcceptedUnder s r.requestId accountId loginSession
  taken : ∀ t ∈ s.login.taken, t.2 ∈ s.results
  tickets : ∀ token t, s.account.pendingWorldUpserts token = some t →
    SelectedBy s t.accountId t.charId t.loginSession
  responses : ∀ r ∈ s.responses, r.resultCode = .ok →
    SelectedBy s r.accountId r.charId r.loginSession

/-- Before the first event nobody has signed in. -/
theorem traced_init : Traced {} where
  placed := ⟨[], LoginRuntime.placed_init⟩
  distinct := List.nodup_nil
  sent := by simp
  opened := by simp
  issued := by simp
  sessions _ _ h := by cases h
  jobs := by simp
  authResults := by simp
  results := by simp
  taken := by simp
  tickets _ _ h := by cases h
  responses := by simp

/-! ## What stays true -/

/-- Nothing that was issued or read is forgotten. -/
structure Grows (s s' : SignIn) : Prop where
  issued : ∀ p ∈ s.login.issued, p ∈ s'.login.issued
  rowsRead : ∀ row ∈ s.rowsRead, row ∈ s'.rowsRead

section

variable {s s' : SignIn}

theorem Grows.refl (s : SignIn) : Grows s s := ⟨fun _ => id, fun _ => id⟩

theorem Accepted.mono {p : PendingRequest} {accountId : UInt64} {loginSession : String}
    (h : Accepted s p accountId loginSession) (hg : Grows s s') :
    Accepted s' p accountId loginSession := by
  obtain ⟨hissued, loginId, password, row, token, hask, hrow, hrest⟩ := h
  exact ⟨hg.issued p hissued, loginId, password, row, token, hask, hg.rowsRead _ hrow, hrest⟩

theorem LoggedInAs.mono {sid serial : UInt32} {accountId : UInt64} {loginSession : String}
    (h : LoggedInAs s sid serial accountId loginSession) (hg : Grows s s') :
    LoggedInAs s' sid serial accountId loginSession :=
  let ⟨p, hp, hconnection⟩ := h
  ⟨p, hp.mono hg, hconnection⟩

theorem AcceptedUnder.mono {requestId accountId : UInt64} {loginSession : String}
    (h : AcceptedUnder s requestId accountId loginSession) (hg : Grows s s') :
    AcceptedUnder s' requestId accountId loginSession :=
  let ⟨p, hp, hid⟩ := h
  ⟨p, hp.mono hg, hid⟩

theorem SelectedBy.mono {accountId charId : UInt64} {loginSession : String}
    (h : SelectedBy s accountId charId loginSession) (hg : Grows s s') :
    SelectedBy s' accountId charId loginSession :=
  let ⟨q, hq, hask, hlogged⟩ := h
  ⟨q, hg.issued q hq, hask, hlogged.mono hg⟩

theorem AskedBy.mono {job : AccountAuthRequest} (h : AskedBy s job) (hg : Grows s s') :
    AskedBy s' job :=
  let ⟨p, hp, hrest⟩ := h
  ⟨p, hg.issued p hp, hrest⟩

/-- A step of the account server: the login server is as it was, and what is
new is traced. -/
theorem Traced.account (h : Traced s) (hlogin : s'.login = s.login)
    (hrows : ∀ row ∈ s.rowsRead, row ∈ s'.rowsRead)
    (hjobs : ∀ job ∈ s'.jobs, job ∈ s.jobs ∨ AskedBy s job)
    (hauth : ∀ rr ∈ s'.authResults, rr ∈ s.authResults ∨ (rr.ok ≠ 0 → rr.result = .success →
      AcceptedUnder s' rr.requestId rr.accountId (textOf rr.loginSession)))
    (hold : ∀ r ∈ s.results, r ∈ s'.results)
    (hresults : ∀ r ∈ s'.results, r ∈ s.results ∨
      ∀ accountId loginSession worldToken failReason,
        r.reply = .login true accountId loginSession worldToken failReason →
        AcceptedUnder s r.requestId accountId loginSession)
    (htickets : ∀ token t, s'.account.pendingWorldUpserts token = some t →
      s.account.pendingWorldUpserts token = some t ∨
        SelectedBy s t.accountId t.charId t.loginSession)
    (hresponses : ∀ r ∈ s'.responses, r ∈ s.responses ∨
      (r.resultCode = .ok → SelectedBy s r.accountId r.charId r.loginSession)) :
    Traced s' := by
  have hg : Grows s s' := ⟨fun p hp => hlogin ▸ hp, hrows⟩
  refine ⟨hlogin ▸ h.placed, hlogin ▸ h.distinct, hlogin ▸ h.sent, ?_, ?_, ?_, ?_, ?_, ?_, ?_, ?_,
    ?_⟩
  · rw [hlogin]
    exact fun o ho i hi => (h.opened o ho i hi).mono hg
  · rw [hlogin]
    exact fun q hq i hi => (h.issued q hq i hi).mono hg
  · rw [hlogin]
    exact fun sid session hs => (h.sessions sid session hs).mono hg
  · exact fun job hjob => ((hjobs job hjob).elim (h.jobs job) id).mono hg
  · intro rr hrr hok hresult
    rcases hauth rr hrr with hbefore | hnew
    · exact (h.authResults rr hbefore hok hresult).mono hg
    · exact hnew hok hresult
  · intro r hr accountId loginSession worldToken failReason hreply
    rcases hresults r hr with hbefore | hnew
    · exact (h.results r hbefore _ _ _ _ hreply).mono hg
    · exact (hnew _ _ _ _ hreply).mono hg
  · rw [hlogin]
    exact fun t ht => hold _ (h.taken t ht)
  · intro token t ht
    rcases htickets token t ht with hbefore | hnew
    · exact (h.tickets token t hbefore).mono hg
    · exact hnew.mono hg
  · intro r hr hok
    rcases hresponses r hr with hbefore | hnew
    · exact (h.responses r hbefore hok).mono hg
    · exact (hnew hok).mono hg

/-! ## Steps of the login server -/

/-- What was accepted under the id of an issued request was that request. -/
theorem Traced.accepted_of_id (h : Traced s) {p : PendingRequest} (hp : p ∈ s.login.issued)
    {accountId : UInt64} {loginSession : String}
    (ha : AcceptedUnder s p.requestId accountId loginSession) :
    Accepted s p accountId loginSession := by
  obtain ⟨q, hq, hid⟩ := ha
  have heq : q = p := List.inj_on_of_nodup_map h.distinct hq.issued hp hid
  rwa [← heq]

/-- A session whose identity was there, or that of a taken login, is traced. -/
theorem Traced.session (h : Traced s) {sid : UInt32} {session : LoginSessionAuthState}
    (hs : s.login.line.HasIdentity sid session ∨ LoginRuntime.OfTakenLogin s.login sid session) :
    LoggedInAs s sid session.serial session.accountId session.loginSession := by
  obtain ⟨before, hbefore, hserial, haccount, hsession⟩ |
    ⟨p, r, worldToken, failReason, htaken, hreply, hsid, hserial⟩ := hs
  · rw [← hserial, ← haccount, ← hsession]
    exact h.sessions sid before hbefore
  · obtain ⟨asked, hplaced⟩ := h.placed
    obtain ⟨ended, hplaces⟩ := hplaced.places
    have hkey := hplaced.taken (p, r) htaken
    have hp : p ∈ s.login.issued := hplaces.taken_mem_issued htaken
    have haccepted := h.results r (h.taken (p, r) htaken) _ _ _ _ hreply
    rw [show r.requestId = p.requestId from congrArg RequestKey.requestId hkey] at haccepted
    exact ⟨p, h.accepted_of_id hp haccepted, hsid.symm, hserial.symm⟩

/-- A step of the login server; a result is one that was sent. -/
theorem Traced.login (h : Traced s) (e : LoginRuntime.Event)
    (hresult : ∀ r, e = .result r → r ∈ s.results)
    (hlt : (s.login.step e).issued.length < 2 ^ 64) :
    Traced { s with login := s.login.step e } := by
  obtain ⟨asked, hplaced⟩ := h.placed
  have hbefore := (LoginRuntime.length_issued_le s.login e).trans_lt hlt
  have hnext := hplaced.step hbefore e
  have hsources := LoginRuntime.stepSources_step s.login e
  have hg : Grows s { s with login := s.login.step e } :=
    ⟨fun p hp => (LoginRuntime.issued_prefix_step s.login e).subset hp, fun _ => id⟩
  refine ⟨⟨_, hnext⟩, hnext.numbered.nodup hlt, ?_, ?_, ?_, ?_,
    fun job hjob => (h.jobs job hjob).mono hg,
    fun rr hrr hok hr => (h.authResults rr hrr hok hr).mono hg,
    fun r hr a l w f hreply => (h.results r hr a l w f hreply).mono hg, ?_,
    fun token t ht => (h.tickets token t ht).mono hg,
    fun r hr hok => (h.responses r hr hok).mono hg⟩
  · intro a ha
    rcases hsources.sent a ha with hold | ⟨w, hw, heq⟩
    · obtain ⟨p, hp, heq⟩ := h.sent a hold
      exact ⟨p, hg.issued p hp, heq⟩
    · have hissued := (hplaced.handlers w (List.mem_append_right _ (List.mem_append_left _ hw))).1
      exact ⟨w.pending, hg.issued _ hissued, heq⟩
  · intro o ho i hi
    rcases hsources.opened o ho with hold | hreads
    · exact (h.opened o hold i hi).mono hg
    · obtain ⟨session, hsession, rfl⟩ := hreads.identity i hi
      obtain ⟨hfound, hcond⟩ := Option.filter_eq_some_iff.mp hsession
      have hserial := (of_decide_eq_true hcond).1
      have hlogged := h.sessions o.sid session hfound
      rw [hserial] at hlogged
      exact hlogged.mono hg
  · intro q hq i hi
    rcases hsources.issued q hq with hold | ⟨o, ho, hsid, hserial, hask⟩
    · exact (h.issued q hold i hi).mono hg
    · rw [hsid, hserial]
      rw [hask] at hi
      exact (h.opened o ho i hi).mono hg
  · intro sid session hs
    exact (h.session (hsources.sessions sid session hs)).mono hg
  · intro t ht
    rcases hsources.taken t ht with hold | heq
    · exact h.taken t hold
    · exact hresult t.2 heq

/-! ## Steps of the account server -/

/-- A reply that accepts no login. -/
def AcceptsNone (r : AccountReply) : Prop :=
  ∀ accountId loginSession worldToken failReason,
    r ≠ .login true accountId loginSession worldToken failReason

/-- A reply is sent, and tickets may be dropped. -/
theorem Traced.reply (h : Traced s) {account : AccountLine} (requestId : UInt64)
    {reply : AccountReply} (hdrops : AccountLine.Drops s.account account)
    (hreply : AcceptsNone reply) : Traced ({ s with account }.reply requestId reply) := by
  refine h.account rfl (fun _ => id) (fun _ => .inl) (fun _ => .inl)
    (fun r hr => List.mem_append_left _ hr) (fun r hr => ?_)
    (fun token t ht => .inl (hdrops.pending token t ht)) (fun _ => .inl)
  rcases List.mem_append.mp hr with hold | hnew
  · exact .inl hold
  · rw [List.mem_singleton.mp hnew]
    exact .inr fun _ _ _ _ heq => absurd heq (hreply _ _ _ _)

/-- Tickets may be dropped, and nothing is sent. -/
theorem Traced.drops (h : Traced s) {account : AccountLine}
    (hdrops : AccountLine.Drops s.account account) : Traced { s with account } :=
  h.account rfl (fun _ => id) (fun _ => .inl) (fun _ => .inl) (fun _ => id) (fun _ => .inl)
    (fun token t ht => .inl (hdrops.pending token t ht)) (fun _ => .inl)

/-- A text that fits is copied as it is. -/
theorem cString_cString (max : Nat) (text : List UInt8) :
    cString max (cString max text) = cString max text := by
  have hnonzero : (cString max text).takeWhile (· ≠ 0) = cString max text := by
    rw [List.takeWhile_eq_self_iff]
    intro b hb
    have hmem : b ∈ text.takeWhile (· ≠ 0) := List.mem_of_mem_take hb
    simpa using List.mem_takeWhile_imp hmem
  rw [cString, hnonzero, cString, List.take_take, Nat.min_self]

theorem length_cString_le (max : Nat) (text : List UInt8) : (cString max text).length ≤ max :=
  List.length_take_le _ _

/-- A login request reaches the account server with the credentials its client sent. -/
theorem traced_onLoginAuthRequest (h : Traced s) {p : PendingRequest} (hp : p ∈ s.login.issued)
    {loginId password : List UInt8} (hask : p.ask = .login loginId password)
    (sid serial : UInt32) (traceId : UInt64) (pushOk : Bool) :
    Traced (s.onLoginAuthRequest sid serial traceId p.requestId (cString loginIdMaxLen loginId)
      (cString loginPwMaxLen password) pushOk) := by
  have hfail : ∀ reason, Traced (s.reply p.requestId (authFail reason)) := fun reason =>
    h.reply p.requestId (.refl _) (fun _ _ _ _ heq => by cases heq)
  unfold onLoginAuthRequest
  split
  next => exact hfail _
  next =>
    split
    next => exact hfail _
    next =>
      split
      next =>
        refine h.account rfl (fun _ => id) (fun job hjob => ?_) (fun _ => .inl) (fun _ => id)
          (fun _ => .inl) (fun _ _ => .inl) (fun _ => .inl)
        rcases List.mem_append.mp hjob with hold | hnew
        · exact .inl hold
        · rw [List.mem_singleton.mp hnew]
          exact .inr ⟨p, hp, loginId, password, hask, rfl, cString_cString _ _,
            cString_cString _ _⟩
      next => exact hfail _

theorem acceptsNone_onWorldListRequest (account : AccountLine) (accountId : UInt64)
    (loginSession : String) : AcceptsNone (account.onWorldListRequest accountId loginSession) := by
  unfold AccountLine.onWorldListRequest
  split <;> exact fun _ _ _ _ heq => by cases heq

/-- The refusal of a character list is no login. -/
theorem acceptsNone_onCharacterListRequest {account : AccountLine} {accountId : UInt64}
    {worldId : UInt16} {loginSession : String} {sendOk : Bool} {reply : AccountReply}
    (h : account.onCharacterListRequest accountId worldId loginSession sendOk = some reply) :
    AcceptsNone reply := by
  unfold AccountLine.onCharacterListRequest at h
  rintro a l w f rfl
  grind

/-- A character list is no login. -/
theorem acceptsNone_characterListReply {account : AccountLine} {sid serial : UInt32}
    {accountId : UInt64} {ok : Bool} {loginSession failReason : String}
    {characters : List CharacterSummary} {reply : AccountReply}
    (h : account.characterListReply sid serial accountId ok loginSession characters failReason =
      some reply) : AcceptsNone reply := by
  unfold AccountLine.characterListReply at h
  rintro a l w f rfl
  grind

theorem acceptsNone_worldSelectReply (accountId : UInt64) (worldId : UInt16)
    (result : Except String (String × UInt16)) :
    AcceptsNone (AccountLine.worldSelectReply accountId worldId result) := by
  cases result <;> exact fun _ _ _ _ heq => by cases heq

theorem acceptsNone_characterSelectReply (accountId charId : UInt64)
    (result : Except String PendingWorldTicketUpsert) :
    AcceptsNone (AccountLine.characterSelectReply accountId charId result) := by
  cases result <;> exact fun _ _ _ _ heq => by cases heq

/-- A world selection issues no ticket. -/
theorem drops_onWorldSelectRequest (account : AccountLine) (now : Nat) (accountId : UInt64)
    (worldId : UInt16) (loginSession : String) :
    AccountLine.Drops account
      (account.onWorldSelectRequest now accountId worldId loginSession).1 := by
  unfold AccountLine.onWorldSelectRequest
  split
  · exact .refl _
  · split <;> exact ⟨fun _ _ => id, fun _ => id⟩

/-- Nor does a character list. -/
theorem drops_onWorldCharacterListResponse (account : AccountLine) (now : Nat)
    (sid serial : UInt32) (accountId : UInt64) (ok : Bool) (loginSession : String)
    (characters : List CharacterSummary) :
    AccountLine.Drops account
      (account.onWorldCharacterListResponse now sid serial accountId ok loginSession
        characters) := by
  unfold AccountLine.onWorldCharacterListResponse
  split
  · exact .refl _
  · split
    · exact .refl _
    · split_ifs <;> exact ⟨fun _ _ => id, fun _ => id⟩

/-- A ticket is issued for a character that was selected. -/
theorem traced_onCharacterSelectRequest (h : Traced s) {p : PendingRequest}
    (hp : p ∈ s.login.issued) {accountId charId : UInt64} {loginSession : String}
    (hask : p.ask = .characterSelect accountId charId loginSession) (now : Nat)
    (sid serial : UInt32) (worldToken : String) :
    Traced ({ s with
      account := (s.account.onCharacterSelectRequest now sid serial p.traceId p.requestId accountId
        charId loginSession worldToken).1 }.reply p.requestId
      (AccountLine.characterSelectReply accountId charId
        (s.account.onCharacterSelectRequest now sid serial p.traceId p.requestId accountId charId
          loginSession worldToken).2)) := by
  have hnone := acceptsNone_characterSelectReply accountId charId
  unfold AccountLine.onCharacterSelectRequest
  cases hissue : s.account.tryIssueWorldTicket now sid serial p.traceId p.requestId accountId charId
      loginSession worldToken with
  | error reason => exact h.reply p.requestId (.refl _) (hnone _)
  | ok t =>
      obtain ⟨-, -, -, haccount, hsession, hchar, -⟩ :=
        AccountLine.tryIssueWorldTicket_ok hissue
      have hselected : SelectedBy s t.accountId t.charId t.loginSession := by
        rw [haccount, hsession, hchar]
        exact ⟨p, hp, hask, h.issued p hp (accountId, loginSession) (by rw [hask]; rfl)⟩
      refine h.account rfl (fun _ => id) (fun _ => .inl) (fun _ => .inl)
        (fun r hr => List.mem_append_left _ hr) (fun r hr => ?_) (fun token t' ht' => ?_)
        (fun _ => .inl)
      · rcases List.mem_append.mp hr with hold | hnew
        · exact .inl hold
        · rw [List.mem_singleton.mp hnew]
          exact .inr fun _ _ _ _ heq => by cases heq
      · simp only [SignIn.reply, Table.set_apply] at ht'
        split_ifs at ht' with htoken
        · cases ht'
          exact .inr hselected
        · exact .inl ht'

/-- The packet of a login carries its two texts, cut to their fields. -/
theorem packet_ask_login {p : PendingRequest} {loginId password : List UInt8}
    (h : p.packet.ask = .login loginId password) :
    ∃ loginId' password', p.ask = .login loginId' password' ∧
      loginId = cString loginIdMaxLen loginId' ∧ password = cString loginPwMaxLen password' := by
  unfold PendingRequest.packet at h
  cases hask : p.ask <;> simp only [hask] at h <;> cases h
  exact ⟨_, _, rfl, rfl, rfl⟩

theorem packet_ask_characterSelect {p : PendingRequest} {accountId charId : UInt64}
    {loginSession : String} (h : p.packet.ask = .characterSelect accountId charId loginSession) :
    p.ask = .characterSelect accountId charId loginSession := by
  unfold PendingRequest.packet at h
  cases hask : p.ask <;> simp only [hask] at h <;> cases h
  rfl

/-- One case for each kind of request. -/
theorem traced_onAccountRequest (h : Traced s) {a : AccountRequest} (ha : a ∈ s.login.sent)
    (now : Nat) (sid serial : UInt32) (worldToken : String) (pushOk sendOk : Bool) :
    Traced (s.onAccountRequest now sid serial worldToken pushOk sendOk a) := by
  obtain ⟨p, hp, rfl⟩ := h.sent a ha
  unfold onAccountRequest
  cases hask : p.packet.ask with
  | login loginId password =>
      obtain ⟨loginId', password', hlogin, rfl, rfl⟩ := packet_ask_login hask
      exact traced_onLoginAuthRequest h hp hlogin sid serial p.traceId pushOk
  | worldList accountId loginSession =>
      exact h.reply _ (.refl _) (acceptsNone_onWorldListRequest _ _ _)
  | worldSelect accountId worldId channelId loginSession =>
      exact h.reply _ (drops_onWorldSelectRequest _ _ _ _ _) (acceptsNone_worldSelectReply _ _ _)
  | characterList accountId worldId loginSession =>
      dsimp only
      split
      next => exact h
      next reply hreply =>
        exact h.reply _ (.refl _) (acceptsNone_onCharacterListRequest hreply)
  | characterSelect accountId charId loginSession =>
      exact traced_onCharacterSelectRequest h hp (packet_ask_characterSelect hask) now sid serial
        worldToken

/-- The database accepts a login: its row is read, and the password is the
row's. -/
theorem traced_onDbAnswer (h : Traced s) {job : AccountAuthRequest} (hjob : job ∈ s.jobs)
    (row : Option (Option AccountRow)) (token : List UInt8) :
    Traced (s.onDbAnswer job row token) := by
  unfold onDbAnswer
  split
  next hsalt =>
    refine h.account rfl (fun _ => List.mem_append_left _) (fun _ => .inl) (fun rr hrr => ?_)
      (fun _ => id) (fun _ => .inl) (fun _ _ => .inl) (fun _ => .inl)
    rcases List.mem_append.mp hrr with hold | hnew
    · exact .inl hold
    · refine .inr fun hok hresult => ?_
      obtain rfl := List.mem_singleton.mp hnew
      obtain ⟨p, hp, loginId, password, hask, hid, hlogin, hpassword⟩ := h.jobs job hjob
      have haccepted : (executeAuth (fun _ => row) job).ok = true := by
        by_contra hno
        simp [applyAccountAuthRequestResult, hno] at hok
      obtain ⟨account, hrow, hstate, haccount, hof⟩ :=
        (executeAuth_ok_iff (fun _ => row) job (fun account hrow => by
          have hbound : account.passwordSaltHex.length ≤ 256 := by simpa [hrow] using hsalt
          have hlen := length_cString_le loginPwMaxLen password
          rw [hpassword]
          simp only [loginPwMaxLen] at hlen ⊢
          omega) _).mp ⟨haccepted, rfl⟩
      refine ⟨p, ⟨hp, loginId, password, account, token, hask, ?_, hstate, ?_, ?_, ?_⟩, hid⟩
      · rw [hrow, hlogin]
        simp
      · exact haccount
      · rw [← hpassword]
        exact hof
      · simp [applyAccountAuthRequestResult, haccepted]
  next => exact h

/-- The result of the password check is where a login session is opened. -/
theorem traced_handleDqsResult (h : Traced s) {rr : AccountAuthResult} (hrr : rr ∈ s.authResults)
    (now : Nat) : Traced (s.handleDqsResult now rr) := by
  unfold handleDqsResult
  split
  next hok =>
    refine h.account rfl (fun _ => id) (fun _ => .inl) (fun _ => .inl)
      (fun r hr => List.mem_append_left _ hr) (fun r hr => ?_) (fun _ _ => .inl) (fun _ => .inl)
    rcases List.mem_append.mp hr with hold | hnew
    · exact .inl hold
    · rw [List.mem_singleton.mp hnew]
      refine .inr fun accountId loginSession worldToken failReason heq => ?_
      cases heq
      exact h.authResults rr hrr hok.1 hok.2
  next => exact h.reply _ (.refl _) (fun _ _ _ _ heq => by cases heq)

/-- The list goes back to the login server under its request id. -/
theorem traced_onWorldCharacterListResponse (h : Traced s) (now : Nat) (sid serial : UInt32)
    (requestId accountId : UInt64) (ok : Bool) (loginSession : String)
    (characters : List CharacterSummary) (failReason : String) :
    Traced (s.onWorldCharacterListResponse now sid serial requestId accountId ok loginSession
      characters failReason) := by
  have hdrops := drops_onWorldCharacterListResponse s.account now sid serial accountId ok
    loginSession characters
  unfold onWorldCharacterListResponse
  dsimp only
  split
  next => exact h.drops hdrops
  next reply hreply => exact h.reply _ hdrops (acceptsNone_characterListReply hreply)

/-- An accepted consume is of a pending ticket. -/
theorem consumed_of_ok (cfg : AccountConfig) (account : AccountLine) (now : Nat)
    (sid serial : UInt32) (traceId requestId accountId : UInt64) (loginSession worldToken : String)
    (hok : (account.onWorldTicketConsumeRequest cfg now sid serial traceId requestId accountId
      loginSession worldToken).2.resultCode = .ok) :
    ∃ token t, account.pendingWorldUpserts token = some t ∧
      (account.onWorldTicketConsumeRequest cfg now sid serial traceId requestId accountId
        loginSession worldToken).2 =
      { traceId := (AccountLine.consumedTicket now traceId t).traceId, requestId
        resultCode := .ok, accountId := t.accountId, charId := t.charId
        loginSession := t.loginSession, worldToken := t.worldToken } := by
  unfold AccountLine.onWorldTicketConsumeRequest AccountLine.consumeIssuedWorldTicket at hok ⊢
  cases hworld : account.tryResolveRegisteredWorldId sid serial with
  | none => simp [hworld] at hok
  | some worldId =>
      cases ht : account.pendingWorldUpserts worldToken with
      | none =>
          simp only [hworld, ht] at hok
          split_ifs at hok
      | some t =>
          simp only [hworld, ht] at hok ⊢
          refine ⟨worldToken, t, ht, ?_⟩
          split_ifs at hok ⊢
          rfl

/-- A consume request takes pending tickets away at most. -/
theorem pending_onWorldTicketConsumeRequest (cfg : AccountConfig) (account : AccountLine)
    (now : Nat) (sid serial : UInt32) (traceId requestId accountId : UInt64)
    (loginSession worldToken : String) {token : String} {t : PendingWorldTicketUpsert}
    (ht : (account.onWorldTicketConsumeRequest cfg now sid serial traceId requestId accountId
      loginSession worldToken).1.pendingWorldUpserts token = some t) :
    account.pendingWorldUpserts token = some t := by
  simp only [AccountLine.onWorldTicketConsumeRequest] at ht
  rcases account.consumeIssuedWorldTicket_cases cfg now sid serial traceId accountId loginSession
    worldToken with ⟨-, -, hs⟩ | ⟨-, hs⟩ | ⟨-, t', worldId, -, -, -, -, -, -, hs⟩
  · rwa [hs] at ht
  · rw [hs] at ht
    exact (Table.erase_eq_some_iff.mp ht).2
  · rw [hs] at ht
    exact (Table.erase_eq_some_iff.mp ht).2

/-- A ticket that is consumed was pending. -/
theorem traced_onWorldTicketConsumeRequest (h : Traced s) (cfg : AccountConfig) (now : Nat)
    (sid serial : UInt32) (traceId requestId accountId : UInt64)
    (loginSession worldToken : String) :
    Traced (s.onWorldTicketConsumeRequest cfg now sid serial traceId requestId accountId
      loginSession worldToken) := by
  refine h.account rfl (fun _ => id) (fun _ => .inl) (fun _ => .inl) (fun _ => id)
    (fun _ => .inl) (fun token t ht => .inl (pending_onWorldTicketConsumeRequest cfg s.account now
      sid serial traceId requestId accountId loginSession worldToken ht)) (fun r hr => ?_)
  rcases List.mem_append.mp hr with hold | hnew
  · exact .inl hold
  · have hresponse := List.mem_singleton.mp hnew
    refine .inr fun hok => ?_
    rw [hresponse] at hok
    obtain ⟨token, t, ht, heq⟩ := consumed_of_ok _ _ _ _ _ _ _ _ _ _ hok
    rw [hresponse.trans heq]
    exact h.tickets token t ht

/-- What no message between the servers brings about drops tickets at most. -/
theorem drops_of_isLocal (cfg : AccountConfig) (account : AccountLine) {e : AccountLine.Event}
    (he : isLocal e = true) : AccountLine.Drops account (account.step cfg e) := by
  have hsame : ∀ {account' : AccountLine},
      account'.pendingWorldUpserts = account.pendingWorldUpserts →
      account'.consumedWorldEntersAwaitingNotify = account.consumedWorldEntersAwaitingNotify →
      AccountLine.Drops account account' := fun hp hc => ⟨by simp [hp], by simp [hc]⟩
  cases e with
  | loginRegistered sid serial => exact hsame rfl rfl
  | loginDisconnected sid serial =>
      simp only [AccountLine.step, AccountLine.onLoginCoordinatorDisconnected]
      split_ifs <;> exact hsame rfl rfl
  | rehash worldsBySid =>
      simp only [AccountLine.step]
      split_ifs <;> exact hsame rfl rfl
  | worldHello => exact AccountLine.drops_onWorldServerHello ..
  | worldReady =>
      simp only [AccountLine.step, AccountLine.onWorldReadyNotify]
      split <;> exact hsame rfl rfl
  | worldHeartbeat =>
      simp only [AccountLine.step, AccountLine.onWorldRouteHeartbeat]
      split
      · exact .refl account
      · split_ifs <;> exact hsame rfl rfl
  | worldDisconnected sid serial => exact account.drops_onWorldRouteDisconnected sid serial
  | expireStaleWorldRoutes now => exact account.drops_expireStaleWorldRoutes cfg now
  | authResult => cases he
  | worldSelect => cases he
  | characterList => cases he
  | characterSelect => cases he
  | ticketConsume => cases he
  | enterSuccessNotify => exact AccountLine.drops_onWorldEnterSuccessNotify ..
  | expirePendingWorldTickets now => exact AccountLine.drops_eraseWhere rfl rfl

/-! ## Runs -/

/-- The step lemma, while fewer than 2^64 requests were issued. -/
theorem traced_step (h : Traced s) (cfg : AccountConfig) (e : Event)
    (hlt : (s.step cfg e).login.issued.length < 2 ^ 64) : Traced (s.step cfg e) := by
  cases e with
  | login e =>
      cases e with
      | result r => exact h
      | _ => exact h.login _ (fun r heq => by cases heq) hlt
  | loginResult k =>
      simp only [step] at hlt ⊢
      cases hr : s.results[k]? with
      | none => exact h
      | some r =>
          rw [hr] at hlt
          refine h.login _ (fun r' heq => ?_) hlt
          cases heq
          exact List.mem_of_getElem? hr
  | accountRequest i now sid serial worldToken pushOk sendOk =>
      simp only [step]
      split
      next => exact h
      next a ha =>
        exact traced_onAccountRequest h (List.mem_of_getElem? ha) now sid serial worldToken pushOk
          sendOk
  | dbAnswer j row token =>
      simp only [step]
      split
      next => exact h
      next job hjob => exact traced_onDbAnswer h (List.mem_of_getElem? hjob) row token
  | dbError j reason =>
      simp only [step]
      split
      next => exact h
      next job hjob =>
        refine h.account rfl (fun _ => id) (fun _ => .inl) (fun rr hrr => ?_) (fun _ => id)
          (fun _ => .inl) (fun _ _ => .inl) (fun _ => .inl)
        rcases List.mem_append.mp hrr with hold | hnew
        · exact .inl hold
        · rw [List.mem_singleton.mp hnew]
          exact .inr fun _ hresult => by cases hresult
  | dqsResult k now =>
      simp only [step]
      split
      next => exact h
      next rr hrr => exact traced_handleDqsResult h (List.mem_of_getElem? hrr) now
  | worldCharacterList =>
      exact traced_onWorldCharacterListResponse h _ _ _ _ _ _ _ _ _
  | ticketConsume => exact traced_onWorldTicketConsumeRequest h cfg _ _ _ _ _ _ _ _
  | account e =>
      simp only [step]
      split
      next he => exact h.drops (drops_of_isLocal cfg s.account he)
      next => exact h

end

/-! ## What was asked and read -/

/-- The requests issued and the rows read. -/
def history (s : SignIn) : List PendingRequest × List (List UInt8 × AccountRow) :=
  (s.login.issued, s.rowsRead)

/-- A request adds nothing to the history of the passed checks. -/
theorem history_onAccountRequest (s : SignIn) (now : Nat) (sid serial : UInt32)
    (worldToken : String) (pushOk sendOk : Bool) (r : AccountRequest) :
    (s.onAccountRequest now sid serial worldToken pushOk sendOk r).history = s.history := by
  unfold onAccountRequest
  split
  next =>
    unfold onLoginAuthRequest
    split_ifs <;> rfl
  next => rfl
  next => rfl
  next => split <;> rfl
  next => rfl

/-- The requests issued and the rows read are only added to. -/
theorem history_step (cfg : AccountConfig) (s : SignIn) (e : Event) :
    s.login.issued <+: (s.step cfg e).login.issued ∧ s.rowsRead <+: (s.step cfg e).rowsRead := by
  have hsame : ∀ {s' : SignIn}, s'.history = s.history →
      s.login.issued <+: s'.login.issued ∧ s.rowsRead <+: s'.rowsRead := by
    intro s' h
    have hissued : s'.login.issued = s.login.issued := congrArg Prod.fst h
    have hrows : s'.rowsRead = s.rowsRead := congrArg Prod.snd h
    rw [hissued, hrows]
    exact ⟨List.prefix_rfl, List.prefix_rfl⟩
  cases e with
  | login e =>
      cases e with
      | result r => exact hsame rfl
      | _ => exact ⟨LoginRuntime.issued_prefix_step s.login _, List.prefix_rfl⟩
  | loginResult k =>
      simp only [step]
      split
      next => exact hsame rfl
      next => exact ⟨LoginRuntime.issued_prefix_step s.login _, List.prefix_rfl⟩
  | accountRequest i now sid serial worldToken pushOk sendOk =>
      simp only [step]
      split
      next => exact hsame rfl
      next => exact hsame (history_onAccountRequest ..)
  | dbAnswer j row token =>
      simp only [step, onDbAnswer]
      split
      next => exact hsame rfl
      next =>
        split
        next => exact ⟨List.prefix_rfl, List.prefix_append _ _⟩
        next => exact hsame rfl
  | dbError j reason =>
      simp only [step]
      split <;> exact hsame rfl
  | dqsResult k now =>
      simp only [step, handleDqsResult]
      split
      next => exact hsame rfl
      next => split <;> exact hsame rfl
  | worldCharacterList =>
      simp only [step, onWorldCharacterListResponse]
      split <;> exact hsame rfl
  | ticketConsume => exact hsame rfl
  | account e =>
      simp only [step]
      split <;> exact hsame rfl

theorem length_issued_le (cfg : AccountConfig) (s : SignIn) (e : Event) :
    s.login.issued.length ≤ (s.step cfg e).login.issued.length :=
  (history_step cfg s e).1.length_le

theorem grows_step (cfg : AccountConfig) (s : SignIn) (e : Event) : Grows s (s.step cfg e) :=
  ⟨fun _ hp => (history_step cfg s e).1.subset hp, fun _ hrow =>
    (history_step cfg s e).2.subset hrow⟩

/-- **Every ticket goes back to a login**: in every state of every run, as long
as no id has been drawn twice, a pending ticket and an accepted consume are of
a character that was selected by a connection that logged in as its account,
with a password that the database had for it. -/
theorem tickets_signedIn (cfg : AccountConfig) (es : List Event) :
    Always (step cfg) (fun s => s.login.issued.length < 2 ^ 64 →
      (∀ token t, s.account.pendingWorldUpserts token = some t →
        SelectedBy s t.accountId t.charId t.loginSession) ∧
      ∀ r ∈ s.responses, r.resultCode = .ok →
        SelectedBy s r.accountId r.charId r.loginSession) {} es := by
  have htraced : Always (step cfg) (fun s => s.login.issued.length < 2 ^ 64 → Traced s) {} es := by
    refine always_of_forall_step (fun _ => traced_init) fun s e h hlt => ?_
    exact traced_step (h ((length_issued_le cfg s e).trans_lt hlt)) cfg e hlt
  exact htraced.imp fun s h hlt => ⟨(h hlt).tickets, (h hlt).responses⟩

end SignIn

end GameServer
