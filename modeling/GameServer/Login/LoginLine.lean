import GameServer.Lib.Table
import GameServer.World.SessionKey

/-!
# GameServer.Login.LoginLine

The login sessions of the login server (`LoginLineRuntime`).

A session is stored under the slot index of its connection and found again
by account, by character, by login session and by world token; what an
ended session had selected is kept aside until the world reports the enter.

* `completeLoginRequest` — a login: the account's other session is evicted;
* `onWorldSelectResult`, `onCharacterSelectResult` — what was selected;
* `onWorldEnterSuccessNotify` — the session has done its work;
* `LoginLine.step` — one result, notification or removal.
-/

namespace GameServer

/-- `LoginSessionAuthState`. -/
structure LoginSessionAuthState where
  sid : UInt32 := 0
  serial : UInt32 := 0
  loggedIn : Bool := false
  accountId : UInt64 := 0
  charId : UInt64 := 0
  selectedWorldId : UInt16 := 0
  worldHost : String := ""
  worldPort : UInt16 := 0
  loginSession : String := ""
  worldToken : String := ""
deriving DecidableEq, Repr

/-- `SessionRef`. -/
structure LoginSessionRef where
  sid : UInt32 := 0
  serial : UInt32 := 0
deriving DecidableEq, Repr

/-- `SessionRef::valid`. -/
def LoginSessionRef.valid (ref : LoginSessionRef) : Bool := isValidSessionKey ref.sid ref.serial

/-- The sessions, their indices and the detached identities of
`LoginLineRuntime`. -/
structure LoginLine where
  loginSessions : Table UInt32 LoginSessionAuthState := .empty
  accountSessionIndex : Table UInt64 LoginSessionRef := .empty
  charSessionIndex : Table UInt64 LoginSessionRef := .empty
  loginSessionIndex : Table String LoginSessionRef := .empty
  worldTokenIndex : Table String LoginSessionRef := .empty
  detachedWorldEnterByToken : Table String LoginSessionAuthState := .empty
  detachedWorldEnterTokenByLoginSession : Table String String := .empty

namespace LoginLine

/-- `IsValidAuthIdentity_`. -/
def isValidAuthIdentity (accountId charId : UInt64) (loginSession worldToken : String) : Bool :=
  accountId != 0 && charId != 0 && loginSession != "" && worldToken != ""

section

variable (r : LoginLine)

/-! ## Removal -/

/-- The detached identity that a removed session leaves. -/
def keepDetachedIdentity (st : LoginSessionAuthState) : LoginLine :=
  if st.loggedIn &&
      isValidAuthIdentity st.accountId st.charId st.loginSession st.worldToken then
    { r with
      detachedWorldEnterByToken :=
        r.detachedWorldEnterByToken.set st.worldToken { st with sid := 0, serial := 0 }
      detachedWorldEnterTokenByLoginSession :=
        r.detachedWorldEnterTokenByLoginSession.set st.loginSession st.worldToken }
  else r

/-- The indices without the entries that refer to a session by its keys. -/
def eraseIndexEntries (st : LoginSessionAuthState) (ref : LoginSessionRef) : LoginLine :=
  { r with
    accountSessionIndex :=
      if st.accountId ≠ 0 then r.accountSessionIndex.eraseMatching st.accountId ref
      else r.accountSessionIndex
    charSessionIndex :=
      if st.charId ≠ 0 then r.charSessionIndex.eraseMatching st.charId ref
      else r.charSessionIndex
    loginSessionIndex :=
      if st.loginSession ≠ "" then r.loginSessionIndex.eraseMatching st.loginSession ref
      else r.loginSessionIndex
    worldTokenIndex :=
      if st.worldToken ≠ "" then r.worldTokenIndex.eraseMatching st.worldToken ref
      else r.worldTokenIndex }

/-- `RemoveLoginSession_NoLock_`. -/
def removeLoginSession (sid serial : UInt32) : LoginLine :=
  match r.loginSessions sid with
  | none => r
  | some st =>
      if st.serial ≠ serial then r
      else
        let r := (r.keepDetachedIdentity st).eraseIndexEntries st ⟨sid, serial⟩
        { r with loginSessions := r.loginSessions.erase sid }

/-- `EraseDetachedWorldEnterState_NoLock_`. -/
def eraseDetachedWorldEnterState (loginSession worldToken : String) : LoginLine :=
  { r with
    detachedWorldEnterTokenByLoginSession :=
      if loginSession ≠ "" then r.detachedWorldEnterTokenByLoginSession.erase loginSession
      else r.detachedWorldEnterTokenByLoginSession
    detachedWorldEnterByToken :=
      if worldToken ≠ "" then r.detachedWorldEnterByToken.erase worldToken
      else r.detachedWorldEnterByToken }

/-! ## Login -/

/-- `AddDuplicateCandidateBySid_NoLock_`: the session a reference finds,
unless it is the new one. -/
def duplicateCandidate (ref : LoginSessionRef) (newSid newSerial : UInt32) :
    Option LoginSessionAuthState :=
  if ref.valid = false then none
  else
    (r.loginSessions ref.sid).filter fun st =>
      st.serial = ref.serial ∧ ¬(st.sid = newSid ∧ st.serial = newSerial)

/-- `CollectDuplicateSessions_NoLock_`. -/
def collectDuplicateSessions (accountId charId : UInt64) (newSid newSerial : UInt32) :
    List LoginSessionAuthState :=
  let byAccount :=
    if accountId ≠ 0 then
      (r.accountSessionIndex accountId).bind fun ref => r.duplicateCandidate ref newSid newSerial
    else none
  let byChar :=
    if charId ≠ 0 then
      (r.charSessionIndex charId).bind fun ref => r.duplicateCandidate ref newSid newSerial
    else none
  byAccount.toList ++
    (byChar.filter fun st =>
      ¬byAccount.any fun st' => st'.sid = st.sid ∧ st'.serial = st.serial).toList

/-- The session that a login stores. -/
def newSession (clientSid clientSerial : UInt32) (accountId : UInt64) (loginSession : String) :
    LoginSessionAuthState :=
  { sid := clientSid, serial := clientSerial, loggedIn := true, accountId, loginSession }

/-- The new session and its index entries. -/
def storeLoginSession (clientSid clientSerial : UInt32) (accountId : UInt64)
    (loginSession : String) : LoginLine :=
  { r with
    loginSessions :=
      r.loginSessions.set clientSid (newSession clientSid clientSerial accountId loginSession)
    accountSessionIndex := r.accountSessionIndex.set accountId ⟨clientSid, clientSerial⟩
    loginSessionIndex := r.loginSessionIndex.set loginSession ⟨clientSid, clientSerial⟩ }

/-- `CompleteLoginRequest_`, for the connection of the pending request. -/
def completeLoginRequest (clientSid clientSerial : UInt32) (ok : Bool) (accountId : UInt64)
    (loginSession worldToken : String) : LoginLine :=
  if ok = false ∨ accountId = 0 ∨ loginSession = "" then r
  else
    let r := r.removeLoginSession clientSid clientSerial
    let victims := r.collectDuplicateSessions accountId 0 clientSid clientSerial
    let r := victims.foldl (fun r v => r.removeLoginSession v.sid v.serial) r
    (r.eraseDetachedWorldEnterState loginSession worldToken).storeLoginSession clientSid
      clientSerial accountId loginSession

/-! ## Selection -/

/-- `OnWorldSelectResult`, for the connection of the pending request. -/
def onWorldSelectResult (clientSid clientSerial : UInt32) (ok : Bool) (accountId : UInt64)
    (worldId : UInt16) (worldHost : String) (worldPort : UInt16) : LoginLine :=
  match r.loginSessions clientSid with
  | none => r
  | some st =>
      if ok = true ∧ st.serial = clientSerial ∧ st.accountId = accountId then
        { r with
          loginSessions := r.loginSessions.set clientSid
            { st with selectedWorldId := worldId, worldHost, worldPort, worldToken := "" } }
      else r

/-- `OnCharacterSelectResult`, for the connection of the pending request. -/
def onCharacterSelectResult (clientSid clientSerial : UInt32) (ok : Bool) (charId : UInt64)
    (worldToken worldHost : String) (worldPort : UInt16) : LoginLine :=
  match r.loginSessions clientSid with
  | none => r
  | some st =>
      if ok = true ∧ st.serial = clientSerial then
        let ref : LoginSessionRef := ⟨clientSid, clientSerial⟩
        { r with
          loginSessions := r.loginSessions.set clientSid
            { st with charId, worldToken, worldHost, worldPort }
          charSessionIndex :=
            (if st.charId ≠ 0 then r.charSessionIndex.eraseMatching st.charId ref
              else r.charSessionIndex).set charId ref
          worldTokenIndex :=
            (if st.worldToken ≠ "" then r.worldTokenIndex.eraseMatching st.worldToken ref
              else r.worldTokenIndex).set worldToken ref }
      else r

/-! ## The enter -/

/-- The reference that `OnWorldEnterSuccessNotify` resolves: by world token,
and else by login session. -/
def resolveNotifyRef (loginSession worldToken : String) : LoginSessionRef :=
  let byToken :=
    if worldToken ≠ "" then (r.worldTokenIndex worldToken).getD {} else {}
  if byToken.valid = false ∧ loginSession ≠ "" then
    (r.loginSessionIndex loginSession).getD byToken
  else byToken

/-- The session of a notification: it matches in every key. -/
def notifiedSession (accountId charId : UInt64) (loginSession worldToken : String) :
    Option LoginSessionAuthState :=
  let ref := r.resolveNotifyRef loginSession worldToken
  if ref.valid = false then none
  else
    (r.loginSessions ref.sid).filter fun st =>
      st.serial = ref.serial ∧ st.accountId = accountId ∧ st.charId = charId ∧
        st.loginSession = loginSession ∧ st.worldToken = worldToken

/-- Whether a detached identity is the one of a notification, by token or by
login session. -/
def isDetachedNotify (accountId charId : UInt64) (loginSession worldToken : String) : Bool :=
  let byToken :=
    worldToken != "" &&
      (r.detachedWorldEnterByToken worldToken).any fun st =>
        st.accountId = accountId ∧ st.charId = charId ∧ st.loginSession = loginSession
  let byLoginSession :=
    loginSession != "" &&
      ((r.detachedWorldEnterTokenByLoginSession loginSession).bind
        r.detachedWorldEnterByToken).any fun st =>
          st.accountId = accountId ∧ st.charId = charId ∧ st.worldToken = worldToken
  byToken || byLoginSession

/-- `OnWorldEnterSuccessNotify`. -/
def onWorldEnterSuccessNotify (accountId charId : UInt64) (loginSession worldToken : String) :
    LoginLine :=
  match r.notifiedSession accountId charId loginSession worldToken with
  | some st =>
      (r.removeLoginSession st.sid st.serial).eraseDetachedWorldEnterState loginSession worldToken
  | none =>
      if r.isDetachedNotify accountId charId loginSession worldToken then
        r.eraseDetachedWorldEnterState loginSession worldToken
      else r

end

/-- What reaches the login sessions. -/
inductive Event where
  | authResult (clientSid clientSerial : UInt32) (ok : Bool) (accountId : UInt64)
      (loginSession worldToken : String)
  | worldSelectResult (clientSid clientSerial : UInt32) (ok : Bool) (accountId : UInt64)
      (worldId : UInt16) (worldHost : String) (worldPort : UInt16)
  | characterSelectResult (clientSid clientSerial : UInt32) (ok : Bool) (charId : UInt64)
      (worldToken worldHost : String) (worldPort : UInt16)
  | worldEnterSuccessNotify (accountId charId : UInt64) (loginSession worldToken : String)
  | removeLoginSession (sid serial : UInt32)
deriving DecidableEq, Repr

/-- One step of the login line. -/
def step (r : LoginLine) : Event → LoginLine
  | .authResult clientSid clientSerial ok accountId loginSession worldToken =>
      r.completeLoginRequest clientSid clientSerial ok accountId loginSession worldToken
  | .worldSelectResult clientSid clientSerial ok accountId worldId worldHost worldPort =>
      r.onWorldSelectResult clientSid clientSerial ok accountId worldId worldHost worldPort
  | .characterSelectResult clientSid clientSerial ok charId worldToken worldHost worldPort =>
      r.onCharacterSelectResult clientSid clientSerial ok charId worldToken worldHost worldPort
  | .worldEnterSuccessNotify accountId charId loginSession worldToken =>
      r.onWorldEnterSuccessNotify accountId charId loginSession worldToken
  | .removeLoginSession sid serial => r.removeLoginSession sid serial

end LoginLine

end GameServer
