import GameServer.Account.AccountDqs
import GameServer.Account.AccountLine
import GameServer.Lib.Records
import GameServer.Lib.Run
import GameServer.Login.LoginLine

/-!
# GameServer.Login.LoginRequests

What clients ask the login server (`LoginHandler`, `LoginLineRuntime`).

A question of a client becomes a request to the account server under an id of
its own, kept with the connection that asked until its result comes. A
question that cannot be asked is refused at once. No lock is held while a
request is sent: between its steps, a handler's request may be answered or
expire.

* `issueLoginRequest`, … — the five questions, up to the session they read;
* `draw`, `keep`, `sendRequest`, `takeBack` — the rest of their handlers;
* `onResult`, `complete` — a result takes its request, and is answered;
* `expirePendingLoginRequests` — the one kind of request that expires;
* `LoginRuntime.step` — handlers of several threads, in any order.
-/

namespace GameServer

/-! ## Messages -/

/-- `WorldSelectFailReason`. -/
inductive WorldSelectFailReason where
  | success
  | notLoggedIn
  | worldNotFound
  | worldNotSelectable
  | invalidLoginSession
  | internalError
deriving DecidableEq, Repr

/-- `CharacterSelectFailReason`. -/
inductive CharacterSelectFailReason where
  | success
  | notLoggedIn
  | characterNotFound
  | characterNotSelectable
  | characterAccountMismatch
  | invalidLoginSession
  | worldNotReady
  | internalError
  | worldNotSelected
deriving DecidableEq, Repr

/-- `WorldSummary`. -/
structure WorldSummary where
  worldId : UInt16 := 0
  channelId : UInt16 := 0
  activeZoneCount : UInt16 := 0
  loadScore : UInt16 := 0
  publicPort : UInt16 := 0
  flags : UInt32 := 0
  serverName : String := ""
  publicHost : String := ""
deriving DecidableEq, Repr

/-- What a request asks the account server (`LoginC2SMsg`, and the session's
part of it). -/
inductive AccountAsk where
  | login (loginId password : List UInt8)
  | worldList (accountId : UInt64) (loginSession : String)
  | worldSelect (accountId : UInt64) (worldId channelId : UInt16) (loginSession : String)
  | characterList (accountId : UInt64) (worldId : UInt16) (loginSession : String)
  | characterSelect (accountId charId : UInt64) (loginSession : String)
deriving DecidableEq, Repr

/-- The five tables of pending requests. -/
inductive RequestKind where
  | login
  | worldList
  | worldSelect
  | characterList
  | characterSelect
deriving DecidableEq, Repr

/-- The table of a request. -/
def AccountAsk.kind : AccountAsk → RequestKind
  | .login .. => .login
  | .worldList .. => .worldList
  | .worldSelect .. => .worldSelect
  | .characterList .. => .characterList
  | .characterSelect .. => .characterSelect

/-- `PendingLoginRequest`, `PendingWorldListRequest`, … -/
structure PendingRequest where
  traceId : UInt64
  requestId : UInt64
  clientSid : UInt32
  clientSerial : UInt32
  useProtobuf : Bool
  ask : AccountAsk
  issuedAt : Nat
deriving DecidableEq, Repr

/-- A table and an id in it. -/
structure RequestKey where
  kind : RequestKind
  requestId : UInt64
deriving DecidableEq, Repr

/-- Where a pending request is kept. -/
def PendingRequest.key (p : PendingRequest) : RequestKey := ⟨p.ask.kind, p.requestId⟩

/-- `k_login_id_max_len`. -/
def loginIdMaxLen : Nat := 32

/-- `k_login_pw_max_len`. -/
def loginPwMaxLen : Nat := 64

/-- A request on its way to the account server. -/
structure AccountRequest where
  traceId : UInt64
  requestId : UInt64
  ask : AccountAsk
deriving DecidableEq, Repr

/-- `SendAccountAuthRequest`, `SendWorldListRequest`, …: the packet has no
channel, and room for so much of a login id and a password. -/
def PendingRequest.packet (p : PendingRequest) : AccountRequest where
  traceId := p.traceId
  requestId := p.requestId
  ask :=
    match p.ask with
    | .login loginId password =>
        .login (cString loginIdMaxLen loginId) (cString loginPwMaxLen password)
    | .worldSelect accountId worldId _ loginSession => .worldSelect accountId worldId 0 loginSession
    | ask => ask

/-- What the account server answers, as far as the login server reads it. -/
inductive AccountReply where
  | login (ok : Bool) (accountId : UInt64) (loginSession worldToken failReason : String)
  | worldList (ok : Bool) (worlds : List WorldSummary) (failReason : String)
  | worldSelect (ok : Bool) (accountId : UInt64) (worldId : UInt16) (worldHost : String)
      (worldPort : UInt16) (failReason : String)
  | characterList (ok : Bool) (characters : List CharacterSummary) (failReason : String)
  | characterSelect (ok : Bool) (accountId charId : UInt64) (worldToken worldHost : String)
      (worldPort : UInt16) (failReason : String)
deriving DecidableEq, Repr

/-- The table that a reply is looked up in. -/
def AccountReply.kind : AccountReply → RequestKind
  | .login .. => .login
  | .worldList .. => .worldList
  | .worldSelect .. => .worldSelect
  | .characterList .. => .characterList
  | .characterSelect .. => .characterSelect

/-- A reply under the id of its request. -/
structure AccountResult where
  requestId : UInt64
  reply : AccountReply
deriving DecidableEq, Repr

/-- Where a result looks for its request. -/
def AccountResult.key (r : AccountResult) : RequestKey := ⟨r.reply.kind, r.requestId⟩

/-- What a client is told (`LoginS2CMsg`). -/
inductive ClientReply where
  | loginResult (ok : Bool) (accountId : UInt64) (loginSession failReason : String)
  | worldList (ok : Bool) (worlds : List WorldSummary) (failReason : String)
  | worldSelect (ok : Bool) (worldId : UInt16) (worldHost : String) (worldPort : UInt16)
      (failReason : WorldSelectFailReason)
  | characterList (ok : Bool) (characters : List CharacterSummary) (failReason : String)
  | characterSelect (ok : Bool) (accountId charId : UInt64) (worldToken worldHost : String)
      (worldPort : UInt16) (failReason : CharacterSelectFailReason)
deriving DecidableEq, Repr

/-- `LoginC2SMsg`, with the body. -/
inductive ClientAsk where
  | loginRequest (loginId password : List UInt8)
  | worldListRequest
  | worldSelectRequest (worldId channelId : UInt16)
  | characterListRequest
  | characterSelectRequest (charId : UInt64)
deriving DecidableEq, Repr

/-! ## State -/

/-- An `Issue…Request` that has read the session: what it asks, and what the
client is told if that cannot be sent. -/
structure OpenIssue where
  sid : UInt32
  serial : UInt32
  useProtobuf : Bool
  ask : AccountAsk
  unsent : ClientReply
deriving DecidableEq, Repr

/-- An `Issue…Request` that has made its request: `pending`, and what the
client is told if that cannot be sent. -/
structure IssuedRequest where
  pending : PendingRequest
  unsent : ClientReply
deriving DecidableEq, Repr

/-- Why a client is told something. -/
inductive AnswerCause where
  | refused
  | unsent (p : PendingRequest)
  | timeout (p : PendingRequest)
  | result (p : PendingRequest) (r : AccountResult)
deriving DecidableEq, Repr

/-- The request that an answer is the end of. -/
def AnswerCause.request : AnswerCause → Option PendingRequest
  | .refused => none
  | .unsent p => some p
  | .timeout p => some p
  | .result p _ => some p

/-- A message to a client. -/
structure ClientAnswer where
  sid : UInt32
  serial : UInt32
  useProtobuf : Bool
  reply : ClientReply
  cause : AnswerCause
deriving DecidableEq, Repr

/-- The requests of `LoginLineRuntime`. Handlers under way are `opened` (with
the session they have read), `drawn`, `kept` and `unsent` (with a request that
they have yet to keep, to send and to take back) and `taken` (with a result).
`issued`, `sent` and `answers` are what was issued, sent to the account server
and sent to clients so far. -/
structure LoginRuntime where
  line : LoginLine := {}
  accountReady : Bool := false
  accountSid : UInt32 := 0
  accountSerial : UInt32 := 0
  nextLoginRequestId : UInt64 := 1
  pending : List PendingRequest := []
  opened : List OpenIssue := []
  drawn : List IssuedRequest := []
  kept : List IssuedRequest := []
  unsent : List IssuedRequest := []
  taken : List (PendingRequest × AccountResult) := []
  issued : List PendingRequest := []
  sent : List AccountRequest := []
  answers : List ClientAnswer := []

namespace LoginRuntime

section

variable (st : LoginRuntime)

/-- A message to a connection. -/
def answer (sid serial : UInt32) (useProtobuf : Bool) (reply : ClientReply) (cause : AnswerCause) :
    LoginRuntime :=
  { st with answers := st.answers ++ [{ sid, serial, useProtobuf, reply, cause }] }

/-- The answer to a pending request. -/
def answerTo (p : PendingRequest) (reply : ClientReply) (cause : AnswerCause) : LoginRuntime :=
  st.answer p.clientSid p.clientSerial p.useProtobuf reply cause

/-! ## Questions -/

/-- The session of a connection that has logged in. -/
def loggedInSession (sid serial : UInt32) : Option LoginSessionAuthState :=
  (st.line.loginSessions sid).filter fun s => s.serial = serial ∧ s.loggedIn = true

/-- The handler goes on with what it has read. -/
def openIssue (o : OpenIssue) : LoginRuntime := { st with opened := st.opened ++ [o] }

/-- `SendLoginResultFail_`. -/
def loginFail (reason : String) : ClientReply := .loginResult false 0 "" reason

/-- `IssueLoginRequest`, with the answer that `DataAnalysis` gives if it
fails. -/
def issueLoginRequest (sid serial : UInt32) (loginId password : List UInt8) (useProtobuf : Bool) :
    LoginRuntime :=
  if st.accountReady then
    st.openIssue
      { sid, serial, useProtobuf
        ask := .login loginId password
        unsent := loginFail "account_route_not_ready" }
  else st.answer sid serial useProtobuf (loginFail "account_route_not_ready") .refused

/-- `IssueWorldListRequest`. -/
def issueWorldListRequest (sid serial : UInt32) (useProtobuf : Bool) : LoginRuntime :=
  match st.loggedInSession sid serial with
  | none => st.answer sid serial useProtobuf (.worldList false [] "not_logged_in") .refused
  | some s =>
      st.openIssue
        { sid, serial, useProtobuf
          ask := .worldList s.accountId s.loginSession
          unsent := .worldList false [] "account_route_not_ready" }

/-- `IssueWorldSelectRequest`. -/
def issueWorldSelectRequest (sid serial : UInt32) (worldId channelId : UInt16)
    (useProtobuf : Bool) : LoginRuntime :=
  match st.loggedInSession sid serial with
  | none =>
      st.answer sid serial useProtobuf (.worldSelect false worldId "" 0 .notLoggedIn) .refused
  | some s =>
      st.openIssue
        { sid, serial, useProtobuf
          ask := .worldSelect s.accountId worldId channelId s.loginSession
          unsent := .worldSelect false worldId "" 0 .internalError }

/-- `IssueCharacterListRequest`. -/
def issueCharacterListRequest (sid serial : UInt32) (useProtobuf : Bool) : LoginRuntime :=
  match st.loggedInSession sid serial with
  | none => st.answer sid serial useProtobuf (.characterList false [] "not_logged_in") .refused
  | some s =>
      if s.selectedWorldId = 0 then
        st.answer sid serial useProtobuf (.characterList false [] "world_not_selected") .refused
      else
        st.openIssue
          { sid, serial, useProtobuf
            ask := .characterList s.accountId s.selectedWorldId s.loginSession
            unsent := .characterList false [] "account_route_not_ready" }

/-- `IssueCharacterSelectRequest`. -/
def issueCharacterSelectRequest (sid serial : UInt32) (charId : UInt64) (useProtobuf : Bool) :
    LoginRuntime :=
  match st.loggedInSession sid serial with
  | none =>
      st.answer sid serial useProtobuf (.characterSelect false 0 0 "" "" 0 .notLoggedIn) .refused
  | some s =>
      if s.selectedWorldId = 0 then
        st.answer sid serial useProtobuf
          (.characterSelect false s.accountId charId "" "" 0 .worldNotSelected) .refused
      else
        st.openIssue
          { sid, serial, useProtobuf
            ask := .characterSelect s.accountId charId s.loginSession
            unsent := .characterSelect false s.accountId charId "" "" 0 .internalError }

/-- `DataAnalysis` of `LoginHandler`. -/
def dataAnalysis (sid serial : UInt32) (useProtobuf : Bool) : ClientAsk → LoginRuntime
  | .loginRequest loginId password =>
      st.issueLoginRequest sid serial loginId password useProtobuf
  | .worldListRequest => st.issueWorldListRequest sid serial useProtobuf
  | .worldSelectRequest worldId channelId =>
      st.issueWorldSelectRequest sid serial worldId channelId useProtobuf
  | .characterListRequest => st.issueCharacterListRequest sid serial useProtobuf
  | .characterSelectRequest charId => st.issueCharacterSelectRequest sid serial charId useProtobuf

/-- The request of a handler that goes on. -/
def newRequest (o : OpenIssue) (traceId : UInt64) (now : Nat) : PendingRequest where
  traceId := traceId
  requestId := st.nextLoginRequestId
  clientSid := o.sid
  clientSerial := o.serial
  useProtobuf := o.useProtobuf
  ask := o.ask
  issuedAt := now

/-- The request gets its id. -/
def draw (o : OpenIssue) (traceId : UInt64) (now : Nat) : LoginRuntime :=
  let p := st.newRequest o traceId now
  { st with
    nextLoginRequestId := st.nextLoginRequestId + 1
    issued := st.issued ++ [p]
    drawn := st.drawn ++ [{ pending := p, unsent := o.unsent }] }

/-- The request is put into its table. -/
def keep (w : IssuedRequest) : LoginRuntime :=
  { st with pending := upsertBy (·.key) w.pending st.pending, kept := st.kept ++ [w] }

/-- `SendAccountAuthRequest_`, `SendWorldListRequest_`, …; `sendOk` is what
`Send` returns. -/
def sendRequest (w : IssuedRequest) (sendOk : Bool) : LoginRuntime :=
  if isValidSessionKey st.accountSid st.accountSerial && sendOk then
    { st with sent := st.sent ++ [w.pending.packet] }
  else { st with unsent := st.unsent ++ [w] }

/-- The request that could not be sent is erased, whether it is still there
or not, and its client is told. -/
def takeBack (w : IssuedRequest) : LoginRuntime :=
  { st with pending := st.pending.filter (·.key ≠ w.pending.key) }.answerTo w.pending w.unsent
    (.unsent w.pending)

/-! ## Results -/

/-- `OnAccountAuthResult`, `OnWorldListResult`, …, up to the end of the
pending request. -/
def onResult (r : AccountResult) : LoginRuntime :=
  match st.pending.find? (·.key == r.key) with
  | none => st
  | some p =>
      { st with pending := st.pending.filter (·.key ≠ r.key), taken := st.taken ++ [(p, r)] }

/-- The `fail_code` of `OnWorldSelectResult`. -/
def worldSelectFailCode (ok : Bool) (failReason : String) : WorldSelectFailReason :=
  if ok then .success
  else if failReason = "world_not_found" then .worldNotFound
  else if failReason = "world_not_selectable" then .worldNotSelectable
  else if failReason = "invalid_login_session" then .invalidLoginSession
  else .internalError

/-- The `fail_code` of `OnCharacterSelectResult`. -/
def characterSelectFailCode (ok : Bool) (failReason : String) : CharacterSelectFailReason :=
  if ok then .success
  else if failReason = "character_not_found" then .characterNotFound
  else if failReason = "character_account_mismatch" then .characterAccountMismatch
  else if failReason = "invalid_login_session" then .invalidLoginSession
  else if failReason = "world_not_ready" then .worldNotReady
  else if failReason = "world_not_selected" then .worldNotSelected
  else if failReason = "character_not_selectable" then .characterNotSelectable
  else .internalError

/-- `k_world_list_max_count`. -/
def worldListMaxCount : Nat := 16

/-- The line after a result, for the connection of its request. -/
def applyReply (p : PendingRequest) : AccountReply → LoginLine
  | .login ok accountId loginSession worldToken _ =>
      st.line.completeLoginRequest p.clientSid p.clientSerial ok accountId loginSession worldToken
  | .worldSelect ok accountId worldId worldHost worldPort _ =>
      st.line.onWorldSelectResult p.clientSid p.clientSerial ok accountId worldId worldHost
        worldPort
  | .characterSelect ok _ charId worldToken worldHost worldPort _ =>
      st.line.onCharacterSelectResult p.clientSid p.clientSerial ok charId worldToken worldHost
        worldPort
  | .worldList .. => st.line
  | .characterList .. => st.line

/-- What a client is told of a reply. -/
def clientReply : AccountReply → ClientReply
  | .login ok accountId loginSession _ failReason =>
      if ok = false then loginFail (if failReason = "" then "account_auth_failed" else failReason)
      else if accountId = 0 ∨ loginSession = "" then loginFail "invalid_auth_identity"
      else .loginResult true accountId loginSession ""
  | .worldList ok worlds failReason => .worldList ok (worlds.take worldListMaxCount) failReason
  | .worldSelect ok _ worldId worldHost worldPort failReason =>
      .worldSelect ok worldId worldHost worldPort (worldSelectFailCode ok failReason)
  | .characterList ok characters failReason =>
      .characterList ok (characters.take AccountLine.characterListMaxCount) failReason
  | .characterSelect ok accountId charId worldToken worldHost worldPort failReason =>
      .characterSelect ok accountId charId worldToken worldHost worldPort
        (characterSelectFailCode ok failReason)

/-- The rest of a result's handler: `CompleteLoginRequest_`, or what
`OnWorldSelectResult`, … do with the request they took. -/
def complete (p : PendingRequest) (r : AccountResult) : LoginRuntime :=
  { st with line := st.applyReply p r.reply }.answerTo p (clientReply r.reply) (.result p r)

/-- `ExpirePendingLoginRequests_`. -/
def expirePendingLoginRequests (timeout now : Nat) : LoginRuntime :=
  let expired := st.pending.filter fun p => p.ask.kind = .login ∧ p.issuedAt + timeout ≤ now
  expired.foldl (fun st p => st.answerTo p (loginFail "account_timeout") (.timeout p))
    { st with
      pending := st.pending.filter fun p => ¬(p.ask.kind = .login ∧ p.issuedAt + timeout ≤ now) }

/-! ## The route to the account server -/

/-- `OnAccountRegistered`. -/
def onAccountRegistered (sid serial : UInt32) : LoginRuntime :=
  { st with accountSid := sid, accountSerial := serial, accountReady := true }

/-- `OnAccountDisconnected`. -/
def onAccountDisconnected (sid serial : UInt32) : LoginRuntime :=
  if st.accountSid ≠ 0 ∧ ¬(st.accountSid = sid ∧ st.accountSerial = serial) then st
  else { st with accountReady := false, accountSid := 0, accountSerial := 0 }

end

/-- What happens next: a question, a handler under way that goes on, a
result, or another event of the line. -/
inductive Event where
  | dataAnalysis (sid serial : UInt32) (useProtobuf : Bool) (ask : ClientAsk)
  | draw (i : Nat) (traceId : UInt64) (now : Nat)
  | keep (i : Nat)
  | sendRequest (i : Nat) (sendOk : Bool)
  | takeBack (i : Nat)
  | result (r : AccountResult)
  | complete (i : Nat)
  | expire (timeout now : Nat)
  | accountRegistered (sid serial : UInt32)
  | accountDisconnected (sid serial : UInt32)
  | worldEnterSuccessNotify (accountId charId : UInt64) (loginSession worldToken : String)
  | removeLoginSession (sid serial : UInt32)
deriving DecidableEq, Repr

/-- One step of the login server. -/
def step (st : LoginRuntime) : Event → LoginRuntime
  | .dataAnalysis sid serial useProtobuf ask => st.dataAnalysis sid serial useProtobuf ask
  | .draw i traceId now =>
      match st.opened[i]? with
      | none => st
      | some o => { st with opened := st.opened.eraseIdx i }.draw o traceId now
  | .keep i =>
      match st.drawn[i]? with
      | none => st
      | some w => { st with drawn := st.drawn.eraseIdx i }.keep w
  | .sendRequest i sendOk =>
      match st.kept[i]? with
      | none => st
      | some w => { st with kept := st.kept.eraseIdx i }.sendRequest w sendOk
  | .takeBack i =>
      match st.unsent[i]? with
      | none => st
      | some w => { st with unsent := st.unsent.eraseIdx i }.takeBack w
  | .result r => st.onResult r
  | .complete i =>
      match st.taken[i]? with
      | none => st
      | some (p, r) => { st with taken := st.taken.eraseIdx i }.complete p r
  | .expire timeout now => st.expirePendingLoginRequests timeout now
  | .accountRegistered sid serial => st.onAccountRegistered sid serial
  | .accountDisconnected sid serial => st.onAccountDisconnected sid serial
  | .worldEnterSuccessNotify accountId charId loginSession worldToken =>
      { st with
        line := st.line.onWorldEnterSuccessNotify accountId charId loginSession worldToken }
  | .removeLoginSession sid serial => { st with line := st.line.removeLoginSession sid serial }

end LoginRuntime

end GameServer
