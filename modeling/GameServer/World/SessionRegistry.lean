import GameServer.Lib.Table
import GameServer.World.SessionKey

/-!
# GameServer.World.SessionRegistry

The tables of `WorldRuntime` that are guarded by `world_session_mtx_`, and
the operations on them (`services/world/runtime/world_runtime_session.cpp`).

Each operation here is the critical section of the runtime function of the
same name; what the function does after it released the lock (kicks, posted
actor tasks, timers) is in `GameServer.World.Runtime`.  Random bytes drawn
inside a critical section are an argument.

The tables fall into two groups:

* the authenticated sessions by slot index, with their three indices by
  character, by account and by reconnect token;
* the enter-world stage of each connection, the character each pending
  enter is for, and the recorded close reasons.
-/

namespace GameServer

/-! ## Data model (`i_world_runtime.h`) -/

/-- `WorldAuthedSession`; the defaults are those of the source. -/
structure WorldAuthedSession where
  accountId : UInt64 := 0
  charId : UInt64 := 0
  sid : UInt32 := 0
  serial : UInt32 := 0
  reconnectToken : String := ""
deriving DecidableEq, Repr, Inhabited

/-- The packed key of the session's connection. -/
def WorldAuthedSession.key (s : WorldAuthedSession) : UInt64 := packSessionKey s.sid s.serial

/-- `WorldEnterStage`. -/
inductive WorldEnterStage where
  | none
  | enterPending
  | inWorld
  | closing
deriving DecidableEq, Repr

/-- `BeginEnterWorldSessionResultKind`. -/
inductive BeginEnterWorldSessionResultKind where
  | invalidInput
  | started
  | alreadyPending
  | alreadyInWorld
  | closing
deriving DecidableEq, Repr

/-- `BeginEnterWorldSessionResult`. -/
structure BeginEnterWorldSessionResult where
  kind : BeginEnterWorldSessionResultKind := .invalidInput
  stage : WorldEnterStage := .none
deriving DecidableEq, Repr

/-- `BindAuthedWorldSessionResultKind`. -/
inductive BindAuthedWorldSessionResultKind where
  | invalidInput
  | inserted
  | replacedCharSession
  | replacedAccountSession
  | replacedBoth
  | alreadyBoundSameSession
deriving DecidableEq, Repr

/-- `DuplicateSessionCause`. -/
inductive DuplicateSessionCause where
  | none
  | duplicateCharSession
  | duplicateAccountSession
  | duplicateCharAndAccountSession
deriving DecidableEq, Repr

/-- `BindAuthedWorldSessionResult`: an absent old session is the default
record, recognised by `sid == 0`. -/
structure BindAuthedWorldSessionResult where
  kind : BindAuthedWorldSessionResultKind := .invalidInput
  duplicateCause : DuplicateSessionCause := .none
  currentSession : WorldAuthedSession := {}
  oldCharSession : WorldAuthedSession := {}
  oldAccountSession : WorldAuthedSession := {}
deriving DecidableEq, Repr

namespace BindAuthedWorldSessionResult

def hasOldCharSession (res : BindAuthedWorldSessionResult) : Bool := res.oldCharSession.sid != 0

def hasOldAccountSession (res : BindAuthedWorldSessionResult) : Bool :=
  res.oldAccountSession.sid != 0

end BindAuthedWorldSessionResult

/-- `UnbindAuthedWorldSessionResultKind`. -/
inductive UnbindAuthedWorldSessionResultKind where
  | invalidInput
  | notFoundBySid
  | serialMismatch
  | removed
deriving DecidableEq, Repr

/-- `UnbindAuthedWorldSessionResult`. -/
structure UnbindAuthedWorldSessionResult where
  kind : UnbindAuthedWorldSessionResultKind := .invalidInput
  session : WorldAuthedSession := {}
deriving DecidableEq, Repr

/-- `WorldSessionCloseReason`. -/
inductive WorldSessionCloseReason where
  | none
  | networkDisconnect
  | explicitSoftLogout
  | explicitHardLogout
  | duplicateKick
  | serverShutdown
deriving DecidableEq, Repr

/-- `proto::world::ReconnectWorldResultCode`. -/
inductive ReconnectWorldResultCode where
  | success
  | tokenNotFound
  | accountMismatch
  | charMismatch
  | sessionExpired
  | internalError
deriving DecidableEq, Repr

/-- `ReconnectWorldSessionResult`, without the actor's position, which is
filled in after the critical section. -/
structure ReconnectWorldSessionResult where
  code : ReconnectWorldResultCode := .internalError
  currentSession : WorldAuthedSession := {}
  previousSession : WorldAuthedSession := {}
  reconnectToken : String := ""
deriving DecidableEq, Repr

/-- The state guarded by `world_session_mtx_`. -/
structure SessionRegistry where
  authedSessionsBySid : Table UInt32 WorldAuthedSession
  authedSessionKeyByCharId : Table UInt64 UInt64
  authedSessionKeyByAccountId : Table UInt64 UInt64
  reconnectSessionKeyByToken : Table String UInt64
  worldEnterStageBySessionKey : Table UInt64 WorldEnterStage
  pendingEnterSessionKeyByCharId : Table UInt64 UInt64
  sessionCloseReasonBySessionKey : Table UInt64 WorldSessionCloseReason

/-! ## Reconnect tokens -/

/-- The hex digit of a nibble. -/
def hexDigit (n : UInt8) : Char := "0123456789ABCDEF".toList.getD n.toNat '0'

/-- `GenerateReconnectToken_`: 32 random bytes in upper-case hex. -/
def generateReconnectToken (bytes : Vector UInt8 32) : String :=
  String.ofList (bytes.toList.flatMap fun b : UInt8 =>
    [hexDigit ((b >>> 4) &&& 0x0f), hexDigit (b &&& 0x0f)])

/-- A token has the digits of 32 bytes. -/
theorem generateReconnectToken_ne_empty (bytes : Vector UInt8 32) :
    generateReconnectToken bytes ≠ "" := by
  intro h
  have hlen : (generateReconnectToken bytes).toList.length = 64 := by
    simp [generateReconnectToken, List.length_flatMap]
  rw [h] at hlen
  simp at hlen

namespace SessionRegistry

/-- The registry at start-up: every table is empty. -/
def initial : SessionRegistry where
  authedSessionsBySid := .empty
  authedSessionKeyByCharId := .empty
  authedSessionKeyByAccountId := .empty
  reconnectSessionKeyByToken := .empty
  worldEnterStageBySessionKey := .empty
  pendingEnterSessionKeyByCharId := .empty
  sessionCloseReasonBySessionKey := .empty

/-! ## Lookups -/

/-- `FindAuthenticatedWorldSessionBySid_`. -/
def findAuthenticatedWorldSessionBySid (r : SessionRegistry) (sid : UInt32) :
    Option WorldAuthedSession :=
  if sid = 0 then none else r.authedSessionsBySid sid

/-- The stored session a packed key names: found under its `sid`, with its
`serial`. -/
def findSessionByKey (r : SessionRegistry) (key : UInt64) : Option WorldAuthedSession :=
  (r.authedSessionsBySid (unpackSessionSid key)).filter fun s =>
    s.serial == unpackSessionSerial key

/-- `TryGetAuthenticatedWorldSession`. -/
def tryGetAuthenticatedWorldSession (r : SessionRegistry) (sid serial : UInt32) :
    Option WorldAuthedSession :=
  if isValidSessionKey sid serial then
    (r.findAuthenticatedWorldSessionBySid sid).filter fun s => s.serial == serial
  else none

/-- `FindCharIdBySession`: the serial is not an argument. -/
def findCharIdBySession (r : SessionRegistry) (sid : UInt32) : UInt64 :=
  if sid = 0 then 0
  else match r.authedSessionsBySid sid with
    | none => 0
    | some s => s.charId

/-! ## Authenticated sessions -/

/-- Drop the index entries of `victim` that still hold `key`. -/
def eraseIndexEntries (r : SessionRegistry) (victim : WorldAuthedSession) (key : UInt64) :
    SessionRegistry :=
  { r with
    authedSessionKeyByCharId :=
      if victim.charId ≠ 0 then r.authedSessionKeyByCharId.eraseMatching victim.charId key
      else r.authedSessionKeyByCharId
    authedSessionKeyByAccountId :=
      if victim.accountId ≠ 0 then
        r.authedSessionKeyByAccountId.eraseMatching victim.accountId key
      else r.authedSessionKeyByAccountId
    reconnectSessionKeyByToken :=
      if victim.reconnectToken ≠ "" then
        r.reconnectSessionKeyByToken.eraseMatching victim.reconnectToken key
      else r.reconnectSessionKeyByToken }

/-- The lambda `erase_authed_sid_nolock` of the bind. -/
def eraseAuthedSidNolock (r : SessionRegistry) (victimSid : UInt32) : SessionRegistry :=
  match r.authedSessionsBySid victimSid with
  | none => r
  | some victim =>
      let r := r.eraseIndexEntries victim victim.key
      { r with
        sessionCloseReasonBySessionKey := r.sessionCloseReasonBySessionKey.erase victim.key
        authedSessionsBySid := r.authedSessionsBySid.erase victimSid }

/-- Store a session and let the three indices name it. -/
def storeAuthedSession (r : SessionRegistry) (s : WorldAuthedSession) : SessionRegistry :=
  { r with
    authedSessionsBySid := r.authedSessionsBySid.set s.sid s
    authedSessionKeyByCharId := r.authedSessionKeyByCharId.set s.charId s.key
    authedSessionKeyByAccountId := r.authedSessionKeyByAccountId.set s.accountId s.key
    reconnectSessionKeyByToken := r.reconnectSessionKeyByToken.set s.reconnectToken s.key }

/-- The kind and cause a bind reports, by the old sessions it found. -/
def bindResultKind (hasOldChar hasOldAccount : Bool) :
    BindAuthedWorldSessionResultKind × DuplicateSessionCause :=
  match hasOldChar, hasOldAccount with
  | true, true => (.replacedBoth, .duplicateCharAndAccountSession)
  | true, false => (.replacedCharSession, .duplicateCharSession)
  | false, true => (.replacedAccountSession, .duplicateAccountSession)
  | false, false => (.inserted, .none)

/-- Erase the sessions a bind replaces: that of the same character, then
that of the same account if it is another one. -/
def eraseReplaced (r : SessionRegistry) (oldChar oldAccount : WorldAuthedSession) :
    SessionRegistry :=
  let r := if oldChar.sid ≠ 0 then r.eraseAuthedSidNolock oldChar.sid else r
  if oldAccount.sid ≠ 0 ∧ oldAccount.sid ≠ oldChar.sid then r.eraseAuthedSidNolock oldAccount.sid
  else r

/-- The part of the bind that runs once the slot holds no other session:
replace the sessions of the same character and of the same account. -/
def bindReplacing (r : SessionRegistry) (accountId charId : UInt64) (sid serial : UInt32)
    (bytes : Vector UInt8 32) : BindAuthedWorldSessionResult × SessionRegistry :=
  let oldChar := ((r.authedSessionKeyByCharId charId).bind r.findSessionByKey).getD {}
  let oldAccount := ((r.authedSessionKeyByAccountId accountId).bind r.findSessionByKey).getD {}
  let r := r.eraseReplaced oldChar oldAccount
  -- the character's token survives a new login
  let token :=
    if oldChar.reconnectToken ≠ "" then oldChar.reconnectToken else generateReconnectToken bytes
  let current : WorldAuthedSession := ⟨accountId, charId, sid, serial, token⟩
  let r := r.storeAuthedSession current
  let r :=
    { r with
      sessionCloseReasonBySessionKey := r.sessionCloseReasonBySessionKey.erase current.key }
  let kind := bindResultKind (oldChar.sid != 0) (oldAccount.sid != 0)
  (⟨kind.1, kind.2, current, oldChar, oldAccount⟩, r)

/-- `BindAuthenticatedWorldSessionForLogin`. -/
def bindAuthenticatedWorldSessionForLogin (r : SessionRegistry) (accountId charId : UInt64)
    (sid serial : UInt32) (bytes : Vector UInt8 32) :
    BindAuthedWorldSessionResult × SessionRegistry :=
  let current : WorldAuthedSession := ⟨accountId, charId, sid, serial, ""⟩
  if accountId = 0 ∨ charId = 0 ∨ sid = 0 ∨ serial = 0 then
    ({ kind := .invalidInput, currentSession := current }, r)
  else match r.authedSessionsBySid sid with
    | none => r.bindReplacing accountId charId sid serial bytes
    | some existing =>
        if existing.serial = serial ∧ existing.accountId = accountId ∧ existing.charId = charId then
          ({ kind := .alreadyBoundSameSession, currentSession := current }, r)
        else (r.eraseAuthedSidNolock sid).bindReplacing accountId charId sid serial bytes

/-- `UnbindAuthenticatedWorldSessionBySid`. -/
def unbindAuthenticatedWorldSessionBySid (r : SessionRegistry) (sid serial : UInt32) :
    UnbindAuthedWorldSessionResult × SessionRegistry :=
  if isValidSessionKey sid serial then
    match r.authedSessionsBySid sid with
    | none => ({ kind := .notFoundBySid }, r)
    | some session =>
        if session.serial ≠ serial then ({ kind := .serialMismatch, session }, r)
        else
          let key := packSessionKey sid serial
          let r := r.eraseIndexEntries session key
          ({ kind := .removed, session },
            { r with
              authedSessionsBySid := r.authedSessionsBySid.erase sid
              sessionCloseReasonBySessionKey := r.sessionCloseReasonBySessionKey.erase key
              worldEnterStageBySessionKey := r.worldEnterStageBySessionKey.erase key
              pendingEnterSessionKeyByCharId :=
                r.pendingEnterSessionKeyByCharId.eraseWhere (· == key) })
  else ({ kind := .invalidInput }, r)

/-- `GetOrCreateReconnectTokenForSession`. -/
def getOrCreateReconnectTokenForSession (r : SessionRegistry) (sid serial : UInt32)
    (bytes : Vector UInt8 32) : String × SessionRegistry :=
  if isValidSessionKey sid serial then
    match r.authedSessionsBySid sid with
    | none => ("", r)
    | some session =>
        if session.serial ≠ serial then ("", r)
        else
          let token :=
            if session.reconnectToken = "" then generateReconnectToken bytes
            else session.reconnectToken
          (token,
            { r with
              authedSessionsBySid :=
                r.authedSessionsBySid.set sid { session with reconnectToken := token }
              reconnectSessionKeyByToken :=
                r.reconnectSessionKeyByToken.set token (packSessionKey sid serial) })
  else ("", r)

/-- The rewriting at the end of `TryReconnectWorldSession`, once every check
has passed: `previous`, stored under `oldKey`, moves to `(sid, serial)`. -/
def reconnectTo (r : SessionRegistry) (previous : WorldAuthedSession) (oldKey : UInt64)
    (sid serial : UInt32) : SessionRegistry :=
  let replacement := { previous with sid, serial }
  let r := { r with authedSessionsBySid := r.authedSessionsBySid.erase (unpackSessionSid oldKey) }
  let r := r.storeAuthedSession replacement
  let newKey := packSessionKey sid serial
  { r with
    worldEnterStageBySessionKey :=
      (r.worldEnterStageBySessionKey.erase oldKey).set newKey .inWorld
    sessionCloseReasonBySessionKey :=
      (r.sessionCloseReasonBySessionKey.erase oldKey).erase newKey
    pendingEnterSessionKeyByCharId := r.pendingEnterSessionKeyByCharId.eraseWhere (· == oldKey) }

/-- `TryReconnectWorldSession`. -/
def tryReconnectWorldSession (r : SessionRegistry) (accountId charId : UInt64)
    (reconnectToken : String) (sid serial : UInt32) :
    ReconnectWorldSessionResult × SessionRegistry :=
  let result : ReconnectWorldSessionResult :=
    { code := .internalError, currentSession := ⟨accountId, charId, sid, serial, ""⟩ }
  if isValidSessionKey sid serial = false ∨ accountId = 0 ∨ charId = 0 ∨ reconnectToken = "" then
    (result, r)
  else match r.reconnectSessionKeyByToken reconnectToken with
    | none => ({ result with code := .tokenNotFound }, r)
    | some oldKey =>
        match r.findSessionByKey oldKey with
        | none =>
            ({ result with code := .sessionExpired },
              { r with
                reconnectSessionKeyByToken := r.reconnectSessionKeyByToken.erase reconnectToken })
        | some previous =>
            let result := { result with previousSession := previous }
            if previous.accountId ≠ accountId then ({ result with code := .accountMismatch }, r)
            else if previous.charId ≠ charId then ({ result with code := .charMismatch }, r)
            else if previous.reconnectToken ≠ reconnectToken then
              ({ result with code := .tokenNotFound }, r)
            else
              ({ result with
                  code := .success
                  currentSession := { previous with sid, serial }
                  reconnectToken := previous.reconnectToken },
                r.reconnectTo previous oldKey sid serial)

/-- `MarkWorldSessionCloseReason`. -/
def markWorldSessionCloseReason (r : SessionRegistry) (sid serial : UInt32)
    (reason : WorldSessionCloseReason) : SessionRegistry :=
  if isValidSessionKey sid serial then
    { r with
      sessionCloseReasonBySessionKey :=
        r.sessionCloseReasonBySessionKey.set (packSessionKey sid serial) reason }
  else r

/-! ## Enter-world stages -/

/-- `TryBeginEnterWorldSession`. -/
def tryBeginEnterWorldSession (r : SessionRegistry) (sid serial : UInt32)
    (accountId charId : UInt64) : BeginEnterWorldSessionResult × SessionRegistry :=
  if isValidSessionKey sid serial = false ∨ accountId = 0 ∨ charId = 0 then
    ({ kind := .invalidInput }, r)
  else
    let key := packSessionKey sid serial
    match r.worldEnterStageBySessionKey key with
    | some .enterPending => ({ kind := .alreadyPending, stage := .enterPending }, r)
    | some .inWorld => ({ kind := .alreadyInWorld, stage := .inWorld }, r)
    | some .closing => ({ kind := .closing, stage := .closing }, r)
    | some .none | none =>
        if (r.pendingEnterSessionKeyByCharId charId).any (· != key) then
          ({ kind := .alreadyPending, stage := .enterPending }, r)
        else
          ({ kind := .started, stage := .enterPending },
            { r with
              worldEnterStageBySessionKey := r.worldEnterStageBySessionKey.set key .enterPending
              pendingEnterSessionKeyByCharId := r.pendingEnterSessionKeyByCharId.set charId key })

/-- `CancelPendingEnterWorldSession`. -/
def cancelPendingEnterWorldSession (r : SessionRegistry) (sid serial : UInt32) (charId : UInt64) :
    SessionRegistry :=
  if isValidSessionKey sid serial then
    let key := packSessionKey sid serial
    { r with
      worldEnterStageBySessionKey :=
        r.worldEnterStageBySessionKey.eraseMatching key .enterPending
      pendingEnterSessionKeyByCharId :=
        if charId ≠ 0 then r.pendingEnterSessionKeyByCharId.eraseMatching charId key
        else r.pendingEnterSessionKeyByCharId }
  else r

/-- `IsEnterWorldSessionPending`. -/
def isEnterWorldSessionPending (r : SessionRegistry) (sid serial : UInt32) (charId : UInt64) :
    Bool :=
  let key := packSessionKey sid serial
  isValidSessionKey sid serial && charId != 0 &&
    r.worldEnterStageBySessionKey key == some .enterPending &&
    r.pendingEnterSessionKeyByCharId charId == some key

/-- `PromoteEnterWorldSessionToInWorld`. -/
def promoteEnterWorldSessionToInWorld (r : SessionRegistry) (sid serial : UInt32)
    (charId : UInt64) : Bool × SessionRegistry :=
  let key := packSessionKey sid serial
  if isValidSessionKey sid serial = false ∨ charId = 0 then (false, r)
  else if r.worldEnterStageBySessionKey key ≠ some .enterPending then (false, r)
  else if (r.authedSessionsBySid sid).all (fun s => s.serial != serial || s.charId != charId) then
    (false, r)
  else if r.pendingEnterSessionKeyByCharId charId ≠ some key then (false, r)
  else
    (true,
      { r with
        pendingEnterSessionKeyByCharId := r.pendingEnterSessionKeyByCharId.erase charId
        worldEnterStageBySessionKey := r.worldEnterStageBySessionKey.set key .inWorld })

/-- `MarkEnterWorldSessionClosing`. -/
def markEnterWorldSessionClosing (r : SessionRegistry) (sid serial : UInt32) : SessionRegistry :=
  if isValidSessionKey sid serial then
    let key := packSessionKey sid serial
    { r with
      worldEnterStageBySessionKey := r.worldEnterStageBySessionKey.set key .closing
      pendingEnterSessionKeyByCharId :=
        match r.authedSessionsBySid sid with
        | none => r.pendingEnterSessionKeyByCharId
        | some s =>
            if s.serial = serial then r.pendingEnterSessionKeyByCharId.eraseMatching s.charId key
            else r.pendingEnterSessionKeyByCharId }
  else r

/-- The critical section of `AbortEnterWorldFlowBySession_`. -/
def abortEnterWorldStage (r : SessionRegistry) (sid serial : UInt32) : SessionRegistry :=
  if isValidSessionKey sid serial then
    let key := packSessionKey sid serial
    { r with
      worldEnterStageBySessionKey := r.worldEnterStageBySessionKey.set key .closing
      pendingEnterSessionKeyByCharId := r.pendingEnterSessionKeyByCharId.eraseWhere (· == key) }
  else r

/-- What `HandleWorldSessionClosed` does to the stage tables: abort, mark
closing, then erase the stage (the last without a validity check). -/
def closeEnterWorldStage (r : SessionRegistry) (sid serial : UInt32) : SessionRegistry :=
  let r := (r.abortEnterWorldStage sid serial).markEnterWorldSessionClosing sid serial
  { r with
    worldEnterStageBySessionKey :=
      r.worldEnterStageBySessionKey.erase (packSessionKey sid serial) }

end SessionRegistry

end GameServer
