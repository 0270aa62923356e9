import Mathlib.Data.List.AList
import Mathlib.Data.List.Perm.Basic
import GameServer.Lib.Table
import GameServer.World.SessionKey

/-!
# GameServer.Account.AccountLine

The account server (`AccountLineRuntime`): the worlds that have registered,
the login sessions with the world and the character they selected, and the
tickets a client enters a world with.

A ticket is issued when a character is selected, and moves from
`pendingWorldUpserts` to `consumedWorldEntersAwaitingNotify` when a world
consumes it.  Each handler is one function of the state; the durations that
differ between builds are settings.

* `onWorldServerHello`, `onWorldReadyNotify`, `onWorldRouteHeartbeat`,
  `onWorldRouteDisconnected`, `expireStaleWorldRoutes` — the registry;
* `handleAuthResult`, `onWorldSelectRequest`, `onWorldCharacterListResponse`,
  `onCharacterSelectRequest` — the way to a ticket;
* `consumeIssuedWorldTicket`, `onWorldEnterSuccessNotify`,
  `expirePendingWorldTickets` — the way of a ticket.
-/

namespace GameServer

/-! ## Data -/

/-- `ConfiguredWorldEntry`. -/
structure ConfiguredWorldEntry where
  worldId : UInt16 := 0
deriving DecidableEq, Repr

/-- `RegisteredWorldEndpoint`. -/
structure RegisteredWorldEndpoint where
  sid : UInt32 := 0
  serial : UInt32 := 0
  worldId : UInt16 := 0
  activeZoneCount : UInt16 := 0
  loadScore : UInt16 := 0
  flags : UInt32 := 0
  serverName : String := ""
  publicHost : String := ""
  publicPort : UInt16 := 0
  ready : Bool := false
  registeredAt : Nat := 0
  lastHeartbeatAt : Nat := 0
deriving DecidableEq, Repr

/-- `CharacterSummary`. -/
structure CharacterSummary where
  charId : UInt64 := 0
  level : UInt32 := 0
  job : UInt16 := 0
  appearanceCode : UInt32 := 0
  lastLoginAtEpochSec : UInt64 := 0
deriving DecidableEq, Repr

/-- `LoginCharacterSession`. -/
structure LoginCharacterSession where
  traceId : UInt64 := 0
  loginSid : UInt32 := 0
  loginSerial : UInt32 := 0
  accountId : UInt64 := 0
  selectedCharId : UInt64 := 0
  selectedWorldId : UInt16 := 0
  selectedWorldHost : String := ""
  selectedWorldPort : UInt16 := 0
  loginSession : String := ""
  cachedCharacters : List CharacterSummary := []
  updatedAt : Nat := 0
deriving DecidableEq, Repr

/-- `PendingWorldTicketUpsert`. -/
structure PendingWorldTicketUpsert where
  traceId : UInt64 := 0
  requestId : UInt64 := 0
  loginSid : UInt32 := 0
  loginSerial : UInt32 := 0
  targetWorldId : UInt16 := 0
  accountId : UInt64 := 0
  charId : UInt64 := 0
  loginSession : String := ""
  worldToken : String := ""
  worldHost : String := ""
  worldPort : UInt16 := 0
  issuedAt : Nat := 0
deriving DecidableEq, Repr

/-- `ConsumedWorldTicketAwaitingNotify`. -/
structure ConsumedWorldTicketAwaitingNotify where
  traceId : UInt64 := 0
  requestId : UInt64 := 0
  loginSid : UInt32 := 0
  loginSerial : UInt32 := 0
  targetWorldId : UInt32 := 0
  accountId : UInt64 := 0
  charId : UInt64 := 0
  loginSession : String := ""
  worldToken : String := ""
  worldHost : String := ""
  worldPort : UInt16 := 0
  consumedAt : Nat := 0
deriving DecidableEq, Repr

/-- `ConsumePendingWorldAuthTicketResultKind`. -/
inductive ConsumeTicketResultKind where
  | ok
  | tokenNotFound
  | expired
  | replayDetected
  | accountMismatch
  | charMismatch
  | loginSessionMismatch
  | worldServerMismatch
deriving DecidableEq, Repr

/-- The settings: the configured worlds and the durations of `constants.h`,
in nanoseconds. -/
structure AccountConfig where
  configuredWorldsByName : String → Option ConfiguredWorldEntry
  accountWorldExpire : Nat := 30 * 10 ^ 9
  pendingWorldUpsertsExpire : Nat := 30 * 10 ^ 9
  consumedAwaitingNotifyExpire : Nat := 30 * 10 ^ 9
  worldRouteHeartbeatTimeout : Nat := 10 * 10 ^ 9

/-- The state of `AccountLineRuntime`. -/
structure AccountLine where
  loginSid : UInt32 := 0
  loginSerial : UInt32 := 0
  loginReady : Bool := false
  worldsBySid : AList fun _ : UInt32 => RegisteredWorldEndpoint := ∅
  worldSidByWorldId : Table UInt32 UInt32 := Table.empty
  pendingWorldUpserts : Table String PendingWorldTicketUpsert := Table.empty
  consumedWorldEntersAwaitingNotify : Table String ConsumedWorldTicketAwaitingNotify := Table.empty
  loginCharacterSessions : Table String LoginCharacterSession := Table.empty

namespace AccountLine

/-! ## Login coordinator -/

/-- `OnLoginCoordinatorRegisteredFromHandler`. -/
def onLoginCoordinatorRegistered (s : AccountLine) (sid serial : UInt32) : AccountLine :=
  { s with loginSid := sid, loginSerial := serial, loginReady := true }

/-- `OnLoginCoordinatorDisconnectedFromHandler`. -/
def onLoginCoordinatorDisconnected (s : AccountLine) (sid serial : UInt32) : AccountLine :=
  if s.loginSid ≠ 0 ∧ ¬ (s.loginSid = sid ∧ s.loginSerial = serial) then s
  else { s with loginSid := 0, loginSerial := 0, loginReady := false }

/-! ## Registered worlds -/

/-- The endpoint of a connection, if it is the one of that serial. -/
def findWorld (s : AccountLine) (sid serial : UInt32) : Option RegisteredWorldEndpoint :=
  (s.worldsBySid.lookup sid).filter fun e => e.sid = sid ∧ e.serial = serial

/-- `TryResolveRegisteredWorldId_`. -/
def tryResolveRegisteredWorldId (s : AccountLine) (sid serial : UInt32) : Option UInt32 :=
  ((s.findWorld sid serial).map fun e => e.worldId.toUInt32).filter (· ≠ 0)

/-- `IsWorldSelectable_`; bits 0 and 1 of the flags are "accepting players"
and "visible". -/
def isWorldSelectable (e : RegisteredWorldEndpoint) : Bool :=
  e.ready && e.publicHost ≠ "" && e.publicPort ≠ 0 && e.flags &&& 1 ≠ 0 && e.flags &&& 2 ≠ 0

/-- `TryResolveSelectedWorldRoute_`. -/
def tryResolveSelectedWorldRoute (s : AccountLine) (worldId : UInt16) : Option (String × UInt16) :=
  (s.worldsBySid.entries.find? fun e => isWorldSelectable e.2 && e.2.worldId == worldId).map
    fun e => (e.2.publicHost, e.2.publicPort)

/-- `On_world_server_hello`. -/
def onWorldServerHello (cfg : AccountConfig) (s : AccountLine) (now : Nat) (sid serial : UInt32)
    (serverName publicHost : String) (publicPort : UInt16) : AccountLine :=
  match cfg.configuredWorldsByName serverName with
  | none => s
  | some entry =>
      let endpoint : RegisteredWorldEndpoint :=
        { sid, serial, worldId := entry.worldId, serverName, publicHost, publicPort
          registeredAt := now, lastHeartbeatAt := now }
      let worldId := entry.worldId.toUInt32
      let s :=
        if worldId = 0 then s
        else
          -- The connection that had the world id before loses its endpoint.
          let worldsBySid :=
            match s.worldSidByWorldId worldId with
            | none => s.worldsBySid
            | some other => if other ≠ sid then AList.erase other s.worldsBySid else s.worldsBySid
          { s with worldsBySid, worldSidByWorldId := s.worldSidByWorldId.set worldId sid }
      { s with worldsBySid := AList.insert sid endpoint s.worldsBySid }

/-- `OnWorldReadyNotifyFromHandler`. -/
def onWorldReadyNotify (s : AccountLine) (now : Nat) (sid serial : UInt32) (worldId : UInt16)
    (flags : UInt32) : AccountLine :=
  match s.findWorld sid serial with
  | none => s
  | some e =>
      let e := { e with ready := true, worldId, flags, lastHeartbeatAt := now }
      { s with worldsBySid := AList.insert sid e s.worldsBySid }

/-- `OnWorldRouteHeartbeatReceived`. -/
def onWorldRouteHeartbeat (s : AccountLine) (now : Nat) (sid serial : UInt32) (worldId : UInt16)
    (activeZoneCount loadScore : UInt16) (flags : UInt32) : AccountLine :=
  match s.worldsBySid.lookup sid with
  | none => s
  | some e =>
      if e.serial ≠ serial ∨ e.worldId ≠ worldId then s
      else
        let e := { e with worldId, activeZoneCount, loadScore, flags, lastHeartbeatAt := now }
        { s with worldsBySid := AList.insert sid e s.worldsBySid }

/-- `ErasePendingWorldTicketsForServer_`. -/
def erasePendingWorldTicketsForServer (s : AccountLine) (worldId : UInt32) : AccountLine :=
  { s with
    pendingWorldUpserts :=
      s.pendingWorldUpserts.eraseWhere fun t => t.targetWorldId.toUInt32 = worldId
    consumedWorldEntersAwaitingNotify :=
      s.consumedWorldEntersAwaitingNotify.eraseWhere fun t => t.targetWorldId = worldId }

/-- Drop the entry of a world id if it names the connection. -/
def eraseWorldIndex (s : AccountLine) (worldId : UInt16) (sid : UInt32) : AccountLine :=
  if worldId ≠ 0 ∧ s.worldSidByWorldId worldId.toUInt32 = some sid then
    { s with worldSidByWorldId := s.worldSidByWorldId.erase worldId.toUInt32 }
  else s

/-- `OnWorldRouteDisconnectedFromHandler`. -/
def onWorldRouteDisconnected (s : AccountLine) (sid serial : UInt32) : AccountLine :=
  match s.findWorld sid serial with
  | none => s
  | some e =>
      let s := { s with worldsBySid := AList.erase sid s.worldsBySid }.eraseWorldIndex e.worldId sid
      if e.worldId ≠ 0 then s.erasePendingWorldTicketsForServer e.worldId.toUInt32 else s

/-- `ExpireStaleWorldRoutes_`; the closes that it asks for come back as
disconnects. -/
def expireStaleWorldRoutes (cfg : AccountConfig) (s : AccountLine) (now : Nat) : AccountLine :=
  let stale := s.worldsBySid.entries.filter fun e =>
    e.2.lastHeartbeatAt + cfg.worldRouteHeartbeatTimeout ≤ now
  let s := stale.foldl (fun (s : AccountLine) e =>
    { s with worldsBySid := AList.erase e.1 s.worldsBySid }.eraseWorldIndex e.2.worldId e.1) s
  (stale.filter fun e => e.2.worldId ≠ 0).foldl
    (fun s e => s.erasePendingWorldTicketsForServer e.2.worldId.toUInt32) s

/-! ## From the login to a ticket -/

/-- `HandleDqsResult_` of a successful `AccountAuthResult`. -/
def handleAuthResult (s : AccountLine) (now : Nat) (sid serial : UInt32) (traceId accountId : UInt64)
    (loginSession : String) : AccountLine :=
  let session : LoginCharacterSession :=
    { traceId, loginSid := sid, loginSerial := serial, accountId, loginSession, updatedAt := now }
  { s with loginCharacterSessions := s.loginCharacterSessions.set loginSession session }

/-- The login session of an account. -/
def findLoginSession (s : AccountLine) (accountId : UInt64) (loginSession : String) :
    Option LoginCharacterSession :=
  (s.loginCharacterSessions loginSession).filter fun session => session.accountId = accountId

/-- `OnWorldSelectRequestFromHandler`, with its failure reason. -/
def onWorldSelectRequest (s : AccountLine) (now : Nat) (accountId : UInt64) (worldId : UInt16)
    (loginSession : String) : AccountLine × Except String (String × UInt16) :=
  match s.findLoginSession accountId loginSession with
  | none => (s, .error "invalid_login_session")
  | some session =>
      match s.tryResolveSelectedWorldRoute worldId with
      | none => (s, .error "world_not_found")
      | some (host, port) =>
          let session :=
            { session with
              selectedWorldId := worldId
              selectedWorldHost := host
              selectedWorldPort := port
              updatedAt := now }
          ({ s with loginCharacterSessions := s.loginCharacterSessions.set loginSession session },
            .ok (host, port))

/-- `k_character_list_max_count`. -/
def characterListMaxCount : Nat := 8

/-- `OnWorldCharacterListResponseFromHandler`, up to the message. -/
def onWorldCharacterListResponse (s : AccountLine) (now : Nat) (sid serial : UInt32)
    (accountId : UInt64) (ok : Bool) (loginSession : String) (characters : List CharacterSummary) :
    AccountLine :=
  match s.tryResolveRegisteredWorldId sid serial with
  | none => s
  | some senderWorldId =>
      match s.findLoginSession accountId loginSession with
      | none => s
      | some session =>
          if session.selectedWorldId.toUInt32 ≠ senderWorldId then s
          else
            let session :=
              { session with
                cachedCharacters := if ok then characters.take characterListMaxCount else []
                updatedAt := now }
            { s with loginCharacterSessions := s.loginCharacterSessions.set loginSession session }

/-- The ticket that `OnCharacterSelectRequestFromHandler` issues with a fresh
token, or the reason why it does not. -/
def tryIssueWorldTicket (s : AccountLine) (now : Nat) (sid serial : UInt32)
    (traceId requestId accountId charId : UInt64) (loginSession worldToken : String) :
    Except String PendingWorldTicketUpsert :=
  match s.findLoginSession accountId loginSession with
  | none => .error "invalid_login_session"
  | some session =>
      if !session.cachedCharacters.any (·.charId = charId) then .error "character_not_found"
      else if session.selectedWorldId = 0 then .error "world_not_selected"
      else
        let ticket (host : String) (port : UInt16) : PendingWorldTicketUpsert :=
          { traceId, requestId, loginSid := sid, loginSerial := serial
            targetWorldId := session.selectedWorldId, accountId, charId, loginSession, worldToken
            worldHost := host, worldPort := port, issuedAt := now }
        if session.selectedWorldHost = "" ∨ session.selectedWorldPort = 0 then
          match s.tryResolveSelectedWorldRoute session.selectedWorldId with
          | none => .error "world_not_ready"
          | some (host, port) => .ok (ticket host port)
        else .ok (ticket session.selectedWorldHost session.selectedWorldPort)

/-- `OnCharacterSelectRequestFromHandler`. -/
def onCharacterSelectRequest (s : AccountLine) (now : Nat) (sid serial : UInt32)
    (traceId requestId accountId charId : UInt64) (loginSession worldToken : String) :
    AccountLine × Except String PendingWorldTicketUpsert :=
  match s.tryIssueWorldTicket now sid serial traceId requestId accountId charId loginSession
      worldToken with
  | .error reason => (s, .error reason)
  | .ok ticket =>
      let sessions :=
        match s.loginCharacterSessions loginSession with
        | none => s.loginCharacterSessions
        | some session => s.loginCharacterSessions.set loginSession
            { session with selectedCharId := charId, traceId, updatedAt := now }
      ({ s with
          pendingWorldUpserts := s.pendingWorldUpserts.set ticket.worldToken ticket
          loginCharacterSessions := sessions }, .ok ticket)

/-! ## The way of a ticket -/

/-- The consumed ticket: the fields of the pending one, and the time. -/
def consumedTicket (now : Nat) (traceId : UInt64) (t : PendingWorldTicketUpsert) :
    ConsumedWorldTicketAwaitingNotify :=
  { traceId := if t.traceId ≠ 0 then t.traceId else traceId
    requestId := t.requestId
    loginSid := t.loginSid
    loginSerial := t.loginSerial
    targetWorldId := t.targetWorldId.toUInt32
    accountId := t.accountId
    charId := t.charId
    loginSession := t.loginSession
    worldToken := t.worldToken
    worldHost := t.worldHost
    worldPort := t.worldPort
    consumedAt := now }

/-- `ConsumeIssuedWorldTicket_`. -/
def consumeIssuedWorldTicket (cfg : AccountConfig) (s : AccountLine) (now : Nat)
    (sid serial : UInt32) (traceId accountId : UInt64) (loginSession worldToken : String) :
    AccountLine × ConsumeTicketResultKind × ConsumedWorldTicketAwaitingNotify :=
  match s.tryResolveRegisteredWorldId sid serial with
  | none => (s, .worldServerMismatch, {})
  | some senderWorldServerId =>
      match s.pendingWorldUpserts worldToken with
      | none =>
          if (s.consumedWorldEntersAwaitingNotify worldToken).isSome then (s, .replayDetected, {})
          else (s, .tokenNotFound, {})
      | some t =>
          if t.issuedAt + cfg.accountWorldExpire ≤ now then
            ({ s with pendingWorldUpserts := s.pendingWorldUpserts.erase worldToken }, .expired, {})
          else if t.loginSession ≠ loginSession then (s, .loginSessionMismatch, {})
          else if t.accountId ≠ accountId then (s, .accountMismatch, {})
          else if t.targetWorldId.toUInt32 ≠ senderWorldServerId then (s, .worldServerMismatch, {})
          else
            let consumed := consumedTicket now traceId t
            ({ s with
                consumedWorldEntersAwaitingNotify :=
                  s.consumedWorldEntersAwaitingNotify.set consumed.worldToken consumed
                pendingWorldUpserts := s.pendingWorldUpserts.erase worldToken },
              .ok, consumed)

/-- The answer to a consume request. -/
structure TicketConsumeResponse where
  traceId : UInt64
  requestId : UInt64
  resultCode : ConsumeTicketResultKind
  accountId : UInt64
  charId : UInt64
  loginSession : String
  worldToken : String
deriving DecidableEq, Repr

/-- `OnWorldTicketConsumeRequestFromHandler`. -/
def onWorldTicketConsumeRequest (cfg : AccountConfig) (s : AccountLine) (now : Nat)
    (sid serial : UInt32) (traceId requestId accountId : UInt64)
    (loginSession worldToken : String) : AccountLine × TicketConsumeResponse :=
  let (s, resultCode, consumed) :=
    s.consumeIssuedWorldTicket cfg now sid serial traceId accountId loginSession worldToken
  (s, { traceId := if resultCode = .ok then consumed.traceId else traceId
        requestId, resultCode
        accountId := consumed.accountId, charId := consumed.charId
        loginSession := consumed.loginSession, worldToken := consumed.worldToken })

/-- `TryMatchConsumedWorldEnterSuccessNotify_`. -/
def tryMatchConsumedWorldEnterSuccessNotify (s : AccountLine) (sid serial : UInt32)
    (traceId accountId charId : UInt64) (loginSession worldToken : String) :
    Option ConsumedWorldTicketAwaitingNotify :=
  match s.tryResolveRegisteredWorldId sid serial with
  | none => none
  | some senderWorldId =>
      (s.consumedWorldEntersAwaitingNotify worldToken).filter fun c =>
        ¬ ((traceId ≠ 0 ∧ c.traceId ≠ traceId) ∨ c.accountId ≠ accountId ∨ c.charId ≠ charId ∨
          c.loginSession ≠ loginSession ∨ c.targetWorldId ≠ senderWorldId)

/-- `OnWorldEnterSuccessNotifyFromHandler`; `sent` is whether the relay to
the login server is. -/
def onWorldEnterSuccessNotify (s : AccountLine) (sid serial : UInt32)
    (traceId accountId charId : UInt64) (loginSession worldToken : String) (sent : Bool) :
    AccountLine :=
  match s.tryMatchConsumedWorldEnterSuccessNotify sid serial traceId accountId charId loginSession
      worldToken with
  | none => s
  | some _ =>
      if s.loginReady ∧ sent then
        { s with consumedWorldEntersAwaitingNotify :=
            s.consumedWorldEntersAwaitingNotify.erase worldToken }
      else s

/-- `ExpirePendingWorldTickets_`. -/
def expirePendingWorldTickets (cfg : AccountConfig) (s : AccountLine) (now : Nat) : AccountLine :=
  { s with
    pendingWorldUpserts := s.pendingWorldUpserts.eraseWhere fun t =>
      t.issuedAt + cfg.pendingWorldUpsertsExpire ≤ now
    consumedWorldEntersAwaitingNotify := s.consumedWorldEntersAwaitingNotify.eraseWhere fun t =>
      t.consumedAt + cfg.consumedAwaitingNotifyExpire ≤ now }

/-! ## Runs -/

/-- What the account server does next, and when.  `rehash` is a hash table
that iterates in another order. -/
inductive Event where
  | loginRegistered (sid serial : UInt32)
  | loginDisconnected (sid serial : UInt32)
  | rehash (worldsBySid : AList fun _ : UInt32 => RegisteredWorldEndpoint)
  | worldHello (now : Nat) (sid serial : UInt32) (serverName publicHost : String)
      (publicPort : UInt16)
  | worldReady (now : Nat) (sid serial : UInt32) (worldId : UInt16) (flags : UInt32)
  | worldHeartbeat (now : Nat) (sid serial : UInt32) (worldId activeZoneCount loadScore : UInt16)
      (flags : UInt32)
  | worldDisconnected (sid serial : UInt32)
  | expireStaleWorldRoutes (now : Nat)
  | authResult (now : Nat) (sid serial : UInt32) (traceId accountId : UInt64)
      (loginSession : String)
  | worldSelect (now : Nat) (accountId : UInt64) (worldId : UInt16) (loginSession : String)
  | characterList (now : Nat) (sid serial : UInt32) (accountId : UInt64) (ok : Bool)
      (loginSession : String) (characters : List CharacterSummary)
  | characterSelect (now : Nat) (sid serial : UInt32) (traceId requestId accountId charId : UInt64)
      (loginSession worldToken : String)
  | ticketConsume (now : Nat) (sid serial : UInt32) (traceId requestId accountId : UInt64)
      (loginSession worldToken : String)
  | enterSuccessNotify (sid serial : UInt32) (traceId accountId charId : UInt64)
      (loginSession worldToken : String) (sent : Bool)
  | expirePendingWorldTickets (now : Nat)

def step (cfg : AccountConfig) (s : AccountLine) : Event → AccountLine
  | .loginRegistered sid serial => s.onLoginCoordinatorRegistered sid serial
  | .loginDisconnected sid serial => s.onLoginCoordinatorDisconnected sid serial
  | .rehash worldsBySid =>
      if worldsBySid.entries.Perm s.worldsBySid.entries then { s with worldsBySid } else s
  | .worldHello now sid serial serverName publicHost publicPort =>
      s.onWorldServerHello cfg now sid serial serverName publicHost publicPort
  | .worldReady now sid serial worldId flags => s.onWorldReadyNotify now sid serial worldId flags
  | .worldHeartbeat now sid serial worldId activeZoneCount loadScore flags =>
      s.onWorldRouteHeartbeat now sid serial worldId activeZoneCount loadScore flags
  | .worldDisconnected sid serial => s.onWorldRouteDisconnected sid serial
  | .expireStaleWorldRoutes now => s.expireStaleWorldRoutes cfg now
  | .authResult now sid serial traceId accountId loginSession =>
      s.handleAuthResult now sid serial traceId accountId loginSession
  | .worldSelect now accountId worldId loginSession =>
      (s.onWorldSelectRequest now accountId worldId loginSession).1
  | .characterList now sid serial accountId ok loginSession characters =>
      s.onWorldCharacterListResponse now sid serial accountId ok loginSession characters
  | .characterSelect now sid serial traceId requestId accountId charId loginSession worldToken =>
      (s.onCharacterSelectRequest now sid serial traceId requestId accountId charId loginSession
        worldToken).1
  | .ticketConsume now sid serial traceId requestId accountId loginSession worldToken =>
      (s.onWorldTicketConsumeRequest cfg now sid serial traceId requestId accountId loginSession
        worldToken).1
  | .enterSuccessNotify sid serial traceId accountId charId loginSession worldToken sent =>
      s.onWorldEnterSuccessNotify sid serial traceId accountId charId loginSession worldToken sent
  | .expirePendingWorldTickets now => s.expirePendingWorldTickets cfg now

end AccountLine

end GameServer
