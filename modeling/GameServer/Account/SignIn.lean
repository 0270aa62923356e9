import GameServer.Account.PasswordCheck
import GameServer.Login.RequestAccounts

/-!
# GameServer.Account.SignIn

The login server and the account server together.

Each sends its messages into a pool; a message of a pool may be delivered at
any time, again, or never. Worlds and the database answer as they like.

* `onLoginAuthRequest`, `onWorldListRequest`, `onCharacterListRequest` — the
  account server's handlers beside those of `AccountLine`;
* `SignIn`, `SignIn.step` — the two servers, and the messages between them;
* `LoggedInAs` — a connection logged in with a password that the database has
  for the account.
-/

namespace GameServer

open PasswordCheck

namespace AccountLine

/-! ## Handlers of the account server -/

/-- The order of the world list: by world, channel and load, and more active
zones first. -/
def worldSummaryLe (a b : WorldSummary) : Bool :=
  if a.worldId ≠ b.worldId then a.worldId < b.worldId
  else if a.channelId ≠ b.channelId then a.channelId < b.channelId
  else if a.loadScore ≠ b.loadScore then a.loadScore < b.loadScore
  else a.activeZoneCount ≥ b.activeZoneCount

/-- The summary of an endpoint. -/
def worldSummary (e : RegisteredWorldEndpoint) : WorldSummary where
  worldId := e.worldId
  activeZoneCount := e.activeZoneCount
  loadScore := e.loadScore
  publicPort := e.publicPort
  flags := e.flags
  serverName := e.serverName
  publicHost := e.publicHost

/-- `BuildWorldSummaryList_`. -/
def buildWorldSummaryList (s : AccountLine) : List WorldSummary :=
  ((s.worldsBySid.entries.filter fun e => isWorldSelectable e.2).map fun e =>
    worldSummary e.2).mergeSort worldSummaryLe

/-- `OnWorldListRequestFromHandler`. -/
def onWorldListRequest (s : AccountLine) (accountId : UInt64) (loginSession : String) :
    AccountReply :=
  match s.findLoginSession accountId loginSession with
  | none => .worldList false [] "invalid_login_session"
  | some _ =>
      let worlds := s.buildWorldSummaryList
      .worldList (!worlds.isEmpty) (worlds.take LoginRuntime.worldListMaxCount)
        (if worlds.isEmpty then "world_not_ready" else "")

/-- `TryResolveWorldRouteSessionById_`. -/
def tryResolveWorldRouteSessionById (s : AccountLine) (worldId : UInt32) :
    Option (UInt32 × UInt32) :=
  ((s.worldSidByWorldId worldId).bind s.worldsBySid.lookup).bind fun e =>
    if isValidSessionKey e.sid e.serial then some (e.sid, e.serial) else none

/-- `OnCharacterListRequestFromHandler`, if it does not pass the request on to
a world; `sendOk` is what `SendWorldCharacterListRequest` returns. -/
def onCharacterListRequest (s : AccountLine) (accountId : UInt64) (worldId : UInt16)
    (loginSession : String) (sendOk : Bool) : Option AccountReply :=
  match s.findLoginSession accountId loginSession with
  | none => some (.characterList false [] "invalid_login_session")
  | some session =>
      if session.selectedWorldId = 0 then some (.characterList false [] "world_not_selected")
      else if worldId ≠ 0 ∧ worldId ≠ session.selectedWorldId then
        some (.characterList false [] "world_selection_mismatch")
      else
        match s.tryResolveWorldRouteSessionById session.selectedWorldId.toUInt32 with
        | none => some (.characterList false [] "world_route_not_ready")
        | some _ =>
            if sendOk then none else some (.characterList false [] "world_route_send_failed")

/-- The message of `OnWorldCharacterListResponseFromHandler`. -/
def characterListReply (s : AccountLine) (sid serial : UInt32) (accountId : UInt64) (ok : Bool)
    (loginSession : String) (characters : List CharacterSummary) (failReason : String) :
    Option AccountReply :=
  match s.tryResolveRegisteredWorldId sid serial with
  | none => none
  | some senderWorldId =>
      match s.findLoginSession accountId loginSession with
      | none => none
      | some session =>
          if session.selectedWorldId.toUInt32 ≠ senderWorldId then none
          else if ok then some (.characterList true (characters.take characterListMaxCount) "")
          else some (.characterList false [] failReason)

/-- The reply of `OnWorldSelectRequestFromHandler`. -/
def worldSelectReply (accountId : UInt64) (worldId : UInt16) :
    Except String (String × UInt16) → AccountReply
  | .error reason => .worldSelect false accountId worldId "" 0 reason
  | .ok (host, port) => .worldSelect true accountId worldId host port ""

/-- The reply of `OnCharacterSelectRequestFromHandler`. -/
def characterSelectReply (accountId charId : UInt64) :
    Except String PendingWorldTicketUpsert → AccountReply
  | .error reason =>
      .characterSelect false accountId (if reason = "invalid_login_session" then 0 else charId) ""
        "" 0 reason
  | .ok t => .characterSelect true accountId charId t.worldToken t.worldHost t.worldPort ""

end AccountLine

/-! ## The two servers -/

/-- A C string as text. -/
def textOf (bytes : List UInt8) : String := String.ofList (bytes.map fun b => Char.ofNat b.toNat)

/-- The login server, the account server, and what was sent between them:
`jobs` are the logins the database was asked about, `authResults` what was
posted of them, `results` the replies to the login server and `responses`
those to the worlds. `rowsRead` are the rows that were found for a login id. -/
structure SignIn where
  login : LoginRuntime := {}
  account : AccountLine := {}
  jobs : List AccountAuthRequest := []
  rowsRead : List (List UInt8 × AccountRow) := []
  authResults : List AccountAuthResult := []
  results : List AccountResult := []
  responses : List AccountLine.TicketConsumeResponse := []

namespace SignIn

section

variable (s : SignIn)

/-- A reply to the login server. -/
def reply (requestId : UInt64) (reply : AccountReply) : SignIn :=
  { s with results := s.results ++ [{ requestId, reply }] }

/-- The failure of a login. -/
def authFail (reason : String) : AccountReply := .login false 0 "" "" reason

/-- `OnLoginAuthRequestFromHandler`; `pushOk` is what `PushAccountAuthDqs_`
returns. -/
def onLoginAuthRequest (sid serial : UInt32) (traceId requestId : UInt64)
    (loginId password : List UInt8) (pushOk : Bool) : SignIn :=
  if loginId = [] then s.reply requestId (authFail "empty_login_id")
  else if password = [] then s.reply requestId (authFail "empty_password")
  else if pushOk then
    { s with
      jobs := s.jobs ++
        [{ sid, serial, traceId, requestId
           loginId := cString loginIdMaxLen loginId
           password := cString loginPwMaxLen password }] }
  else s.reply requestId (authFail "db_queue_full")

/-- `DataAnalysis` of `AccountLoginHandler`; `worldToken` is the token that
`GenerateWorldToken_` would make. -/
def onAccountRequest (now : Nat) (sid serial : UInt32) (worldToken : String)
    (pushOk sendOk : Bool) (r : AccountRequest) : SignIn :=
  match r.ask with
  | .login loginId password =>
      s.onLoginAuthRequest sid serial r.traceId r.requestId loginId password pushOk
  | .worldList accountId loginSession =>
      s.reply r.requestId (s.account.onWorldListRequest accountId loginSession)
  | .worldSelect accountId worldId _ loginSession =>
      let (account, result) := s.account.onWorldSelectRequest now accountId worldId loginSession
      { s with account }.reply r.requestId (AccountLine.worldSelectReply accountId worldId result)
  | .characterList accountId worldId loginSession =>
      match s.account.onCharacterListRequest accountId worldId loginSession sendOk with
      | none => s
      | some reply => s.reply r.requestId reply
  | .characterSelect accountId charId loginSession =>
      let (account, result) := s.account.onCharacterSelectRequest now sid serial r.traceId
        r.requestId accountId charId loginSession worldToken
      { s with account }.reply r.requestId
        (AccountLine.characterSelectReply accountId charId result)

/-- `OnDqsRunOne_` of a login: the database returns a row, none, or throws.
`CONVERT(VARCHAR(256), …)` bounds the salt. -/
def onDbAnswer (job : AccountAuthRequest) (row : Option (Option AccountRow))
    (token : List UInt8) : SignIn :=
  if row.join.all fun account => account.passwordSaltHex.length ≤ 256 then
    { s with
      rowsRead := s.rowsRead ++ (row.join.toList.map fun account => (job.loginId, account))
      authResults := s.authResults ++
        [applyAccountAuthRequestResult token (executeAuth (fun _ => row) job)
          (makePendingAccountAuthResult job)] }
  else s

/-- `HandleDqsResult_` of an `AccountAuthResult`. -/
def handleDqsResult (now : Nat) (rr : AccountAuthResult) : SignIn :=
  if rr.ok ≠ 0 ∧ rr.result = .success then
    { s with
      account := s.account.handleAuthResult now rr.sid rr.serial rr.traceId rr.accountId
        (textOf rr.loginSession) }.reply rr.requestId
      (.login true rr.accountId (textOf rr.loginSession) "" "")
  else s.reply rr.requestId (authFail (textOf rr.failReason))

/-- `OnWorldCharacterListResponseFromHandler`. -/
def onWorldCharacterListResponse (now : Nat) (sid serial : UInt32) (requestId accountId : UInt64)
    (ok : Bool) (loginSession : String) (characters : List CharacterSummary)
    (failReason : String) : SignIn :=
  let account := s.account.onWorldCharacterListResponse now sid serial accountId ok loginSession
    characters
  match s.account.characterListReply sid serial accountId ok loginSession characters failReason with
  | none => { s with account }
  | some reply => { s with account }.reply requestId reply

/-- `OnWorldTicketConsumeRequestFromHandler`. -/
def onWorldTicketConsumeRequest (cfg : AccountConfig) (now : Nat) (sid serial : UInt32)
    (traceId requestId accountId : UInt64) (loginSession worldToken : String) : SignIn :=
  let (account, response) := s.account.onWorldTicketConsumeRequest cfg now sid serial traceId
    requestId accountId loginSession worldToken
  { s with account, responses := s.responses ++ [response] }

end

/-- The events of the account server that no message between the two servers
brings about. -/
def isLocal : AccountLine.Event → Bool
  | .authResult .. => false
  | .worldSelect .. => false
  | .characterList .. => false
  | .characterSelect .. => false
  | .ticketConsume .. => false
  | _ => true

/-- What happens next. The numbers choose a message of a pool. -/
inductive Event where
  | login (e : LoginRuntime.Event)
  | loginResult (k : Nat)
  | accountRequest (i now : Nat) (sid serial : UInt32) (worldToken : String)
      (pushOk sendOk : Bool)
  | dbAnswer (j : Nat) (row : Option (Option AccountRow)) (token : List UInt8)
  | dbError (j : Nat) (reason : List UInt8)
  | dqsResult (k now : Nat)
  | worldCharacterList (now : Nat) (sid serial : UInt32) (requestId accountId : UInt64)
      (ok : Bool) (loginSession : String) (characters : List CharacterSummary)
      (failReason : String)
  | ticketConsume (now : Nat) (sid serial : UInt32) (traceId requestId accountId : UInt64)
      (loginSession worldToken : String)
  | account (e : AccountLine.Event)

/-- One step of the two servers. -/
def step (cfg : AccountConfig) (s : SignIn) : Event → SignIn
  | .login (.result _) => s
  | .login e => { s with login := s.login.step e }
  | .loginResult k =>
      match s.results[k]? with
      | none => s
      | some r => { s with login := s.login.step (.result r) }
  | .accountRequest i now sid serial worldToken pushOk sendOk =>
      match s.login.sent[i]? with
      | none => s
      | some r => s.onAccountRequest now sid serial worldToken pushOk sendOk r
  | .dbAnswer j row token =>
      match s.jobs[j]? with
      | none => s
      | some job => s.onDbAnswer job row token
  | .dbError j reason =>
      match s.jobs[j]? with
      | none => s
      | some job =>
          { s with
            authResults := s.authResults ++ [setAccountAuthDbError
              (makePendingAccountAuthResult job) reason] }
  | .dqsResult k now =>
      match s.authResults[k]? with
      | none => s
      | some rr => s.handleDqsResult now rr
  | .worldCharacterList now sid serial requestId accountId ok loginSession characters failReason =>
      s.onWorldCharacterListResponse now sid serial requestId accountId ok loginSession characters
        failReason
  | .ticketConsume now sid serial traceId requestId accountId loginSession worldToken =>
      s.onWorldTicketConsumeRequest cfg now sid serial traceId requestId accountId loginSession
        worldToken
  | .account e => if isLocal e then { s with account := s.account.step cfg e } else s

/-! ## Where an identity comes from -/

/-- A login was accepted: its password is the one of the row that the database
had for its login id, and the account and the token are those of the login
session. -/
structure Accepted (s : SignIn) (p : PendingRequest) (accountId : UInt64) (loginSession : String) :
    Prop where
  issued : p ∈ s.login.issued
  password : ∃ loginId password row token, p.ask = .login loginId password ∧
    (cString loginIdMaxLen loginId, row) ∈ s.rowsRead ∧ row.accountState = 1 ∧
    row.accountId = accountId ∧ PasswordOf (cString loginPwMaxLen password) row ∧
    loginSession = textOf (cString loginSessionMaxLen token)

/-- The connection logged in as the account, with the login session. -/
def LoggedInAs (s : SignIn) (sid serial : UInt32) (accountId : UInt64) (loginSession : String) :
    Prop :=
  ∃ p, Accepted s p accountId loginSession ∧ p.clientSid = sid ∧ p.clientSerial = serial

/-- A character was selected by a connection that is logged in as its
account. -/
def SelectedBy (s : SignIn) (accountId charId : UInt64) (loginSession : String) : Prop :=
  ∃ q ∈ s.login.issued, q.ask = .characterSelect accountId charId loginSession ∧
    LoggedInAs s q.clientSid q.clientSerial accountId loginSession

end SignIn

end GameServer
