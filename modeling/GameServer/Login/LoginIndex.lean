import GameServer.Lib.Index
import GameServer.Lib.Run
import GameServer.Login.LoginLine

/-!
# GameServer.Login.LoginIndex

The indices of the login sessions are views of the stored sessions
(`IndicesLive`).

* a removal keeps it, and a login that stores its session at a free slot;
* a character select moves the entries of the session it changes, but a
  world select clears the world token and leaves its entry;
* `keepsKeys`, `indicesLive_of_along` — it holds along a run in which no
  world select clears a token that is indexed, no login overwrites the
  session of another account or takes its login session, and no zero or
  empty key is stored.
-/

namespace GameServer

namespace LoginLine

/-- The reference an index entry holds to a session stored under `sid`. -/
def sessionRef (sid : UInt32) (st : LoginSessionAuthState) : LoginSessionRef := ⟨sid, st.serial⟩

theorem sessionRef_inj {sid sid' : UInt32} {st st' : LoginSessionAuthState}
    (h : sessionRef sid st = sessionRef sid' st') : sid = sid' := by
  injection h

/-- **Login session indices**: every entry refers to a stored session that
carries the key, every logged-in session is found by its account and by its
login session, and an account has one session at most. -/
structure IndicesLive (r : LoginLine) : Prop where
  account_sound : Index.Sound sessionRef LoginSessionAuthState.accountId r.loginSessions
    r.accountSessionIndex
  char_sound : Index.Sound sessionRef LoginSessionAuthState.charId r.loginSessions
    r.charSessionIndex
  login_sound : Index.Sound sessionRef LoginSessionAuthState.loginSession r.loginSessions
    r.loginSessionIndex
  token_sound : Index.Sound sessionRef LoginSessionAuthState.worldToken r.loginSessions
    r.worldTokenIndex
  account_found : ∀ sid st, r.loginSessions sid = some st → st.loggedIn = true →
    r.accountSessionIndex st.accountId = some ⟨sid, st.serial⟩
  login_found : ∀ sid st, r.loginSessions sid = some st → st.loggedIn = true →
    r.loginSessionIndex st.loginSession = some ⟨sid, st.serial⟩
  one_session : ∀ sid st sid' st', r.loginSessions sid = some st →
    r.loginSessions sid' = some st' → st.accountId = st'.accountId → sid = sid'

/-- The session that the login-session index has for a key is the connection's
own, or of the account. -/
def ownLoginSession (r : LoginLine) (sid serial : UInt32) (accountId : UInt64)
    (loginSession : String) : Bool :=
  (r.loginSessionIndex loginSession).all fun ref =>
    (r.loginSessions ref.sid).all fun st =>
      ref = ⟨sid, serial⟩ ∨ st.accountId = accountId

/-- The step leaves no entry without its session. -/
def keepsKeys (r : LoginLine) : Event → Bool
  | .authResult sid serial ok accountId loginSession _ =>
      (ok = false ∨ accountId = 0 ∨ loginSession = "") ||
        isValidSessionKey sid serial &&
        (r.loginSessions sid).all (fun st => st.serial = serial ∨ st.accountId = accountId) &&
        r.ownLoginSession sid serial accountId loginSession
  | .worldSelectResult sid serial ok accountId _ _ _ =>
      (r.loginSessions sid).all fun st =>
        ¬(ok = true ∧ st.serial = serial ∧ st.accountId = accountId) ∨
          r.worldTokenIndex st.worldToken ≠ some ⟨sid, serial⟩
  | .characterSelectResult sid serial ok charId worldToken _ _ =>
      (r.loginSessions sid).all fun st =>
        ¬(ok = true ∧ st.serial = serial) ∨ charId ≠ 0 ∧ worldToken ≠ ""
  | .worldEnterSuccessNotify _ _ _ _ => true
  | .removeLoginSession _ _ => true

/-! ## The invariant -/

/-- What every stored session has. -/
structure StoredAs (sid : UInt32) (st : LoginSessionAuthState) : Prop where
  sid_eq : st.sid = sid
  valid : isValidSessionKey sid st.serial = true
  accountId_ne : st.accountId ≠ 0
  loginSession_ne : st.loginSession ≠ ""

/-- The indices are views of the sessions, and have no zero or empty key. -/
structure Indexed (r : LoginLine) : Prop where
  stored : ∀ sid st, r.loginSessions sid = some st → StoredAs sid st
  account_sound : Index.Sound sessionRef LoginSessionAuthState.accountId r.loginSessions
    r.accountSessionIndex
  account_complete : Index.Complete sessionRef LoginSessionAuthState.accountId r.loginSessions
    r.accountSessionIndex
  char_sound : Index.Sound sessionRef LoginSessionAuthState.charId r.loginSessions
    r.charSessionIndex
  char_zero : r.charSessionIndex 0 = none
  login_sound : Index.Sound sessionRef LoginSessionAuthState.loginSession r.loginSessions
    r.loginSessionIndex
  login_complete : Index.Complete sessionRef LoginSessionAuthState.loginSession r.loginSessions
    r.loginSessionIndex
  token_sound : Index.Sound sessionRef LoginSessionAuthState.worldToken r.loginSessions
    r.worldTokenIndex
  token_empty : r.worldTokenIndex "" = none

/-- Before the first login nothing is indexed. -/
theorem indexed_init : Indexed {} where
  stored _ _ h := by cases h
  account_sound := Index.sound_empty
  account_complete := Index.complete_empty
  char_sound := Index.sound_empty
  char_zero := rfl
  login_sound := Index.sound_empty
  login_complete := Index.complete_empty
  token_sound := Index.sound_empty
  token_empty := rfl

variable {r : LoginLine} {sid serial : UInt32} {st : LoginSessionAuthState}

/-- What is indexed is a live session that names its index. -/
theorem Indexed.indicesLive (h : Indexed r) : IndicesLive r where
  account_sound := h.account_sound
  char_sound := h.char_sound
  login_sound := h.login_sound
  token_sound := h.token_sound
  account_found sid st hst _ := h.account_complete sid st hst
  login_found sid st hst _ := h.login_complete sid st hst
  one_session _ _ _ _ hst hst' heq := h.account_complete.unique sessionRef_inj hst hst' heq

/-- A stored session is stored under its own key. -/
theorem Indexed.stored_set (h : Indexed r) (hst : StoredAs sid st) (sid' : UInt32)
    (st' : LoginSessionAuthState) (hst' : r.loginSessions.set sid st sid' = some st') :
    StoredAs sid' st' := by
  rw [Table.set_apply] at hst'
  split at hst'
  · next heq =>
    obtain rfl := Option.some.inj hst'
    rw [heq]
    exact hst
  · exact h.stored sid' st' hst'

/-- The result of a selection leaves the keys of the session as they were. -/
theorem Indexed.stored_modify {st' : LoginSessionAuthState} (h : Indexed r)
    (hst : r.loginSessions sid = some st) (hsid : st'.sid = st.sid)
    (hserial : st'.serial = st.serial) (haccountId : st'.accountId = st.accountId)
    (hloginSession : st'.loginSession = st.loginSession) :
    ∀ sid'' st'', r.loginSessions.set sid st' sid'' = some st'' → StoredAs sid'' st'' := by
  have hstored := h.stored sid st hst
  apply h.stored_set
  constructor
  · rw [hsid]
    exact hstored.sid_eq
  · rw [hserial]
    exact hstored.valid
  · rw [haccountId]
    exact hstored.accountId_ne
  · rw [hloginSession]
    exact hstored.loginSession_ne

/-- The detached identities do not matter. -/
theorem Indexed.congr {r' : LoginLine} (h : Indexed r)
    (hsessions : r'.loginSessions = r.loginSessions)
    (haccount : r'.accountSessionIndex = r.accountSessionIndex)
    (hchar : r'.charSessionIndex = r.charSessionIndex)
    (hlogin : r'.loginSessionIndex = r.loginSessionIndex)
    (htoken : r'.worldTokenIndex = r.worldTokenIndex) : Indexed r' := by
  obtain ⟨_, _, _, _, _, _, _⟩ := r'
  dsimp only at hsessions haccount hchar hlogin htoken
  subst hsessions haccount hchar hlogin htoken
  exact ⟨h.stored, h.account_sound, h.account_complete, h.char_sound, h.char_zero, h.login_sound,
    h.login_complete, h.token_sound, h.token_empty⟩

/-- Without an entry for the absent key, the guard of an erasure does not
matter. -/
theorem eraseMatching_guarded {K : Type} [DecidableEq K] {idx : Table K LoginSessionRef} {absent : K}
    (habsent : idx absent = none) (k : K) (ref : LoginSessionRef) :
    (if k ≠ absent then idx.eraseMatching k ref else idx) = idx.eraseMatching k ref := by
  by_cases hk : k = absent
  · have hnone : ¬idx k = some ref := by
      rw [hk, habsent]
      nofun
    rw [if_neg (not_not.mpr hk), Table.eraseMatching, if_neg hnone]
  · rw [if_pos hk]

/-! ## Removal -/

@[simp] theorem loginSessions_keepDetachedIdentity (st : LoginSessionAuthState) :
    (r.keepDetachedIdentity st).loginSessions = r.loginSessions := by
  unfold keepDetachedIdentity
  split <;> rfl

theorem Indexed.keepDetachedIdentity (h : Indexed r) (st : LoginSessionAuthState) :
    Indexed (r.keepDetachedIdentity st) := by
  unfold LoginLine.keepDetachedIdentity
  split
  · exact h.congr rfl rfl rfl rfl rfl
  · exact h

theorem Indexed.eraseDetachedWorldEnterState (h : Indexed r) (loginSession worldToken : String) :
    Indexed (r.eraseDetachedWorldEnterState loginSession worldToken) :=
  h.congr rfl rfl rfl rfl rfl

/-- A session goes with its entries. -/
theorem Indexed.eraseSession (h : Indexed r) (hst : r.loginSessions sid = some st) :
    Indexed { r.eraseIndexEntries st (sessionRef sid st) with
      loginSessions := r.loginSessions.erase sid } := by
  have hstored := h.stored sid st hst
  have haccount : (r.eraseIndexEntries st (sessionRef sid st)).accountSessionIndex =
      r.accountSessionIndex.eraseMatching st.accountId (sessionRef sid st) :=
    if_pos hstored.accountId_ne
  have hlogin : (r.eraseIndexEntries st (sessionRef sid st)).loginSessionIndex =
      r.loginSessionIndex.eraseMatching st.loginSession (sessionRef sid st) :=
    if_pos hstored.loginSession_ne
  have hchar : (r.eraseIndexEntries st (sessionRef sid st)).charSessionIndex =
      r.charSessionIndex.eraseMatching st.charId (sessionRef sid st) :=
    eraseMatching_guarded h.char_zero st.charId (sessionRef sid st)
  have htoken : (r.eraseIndexEntries st (sessionRef sid st)).worldTokenIndex =
      r.worldTokenIndex.eraseMatching st.worldToken (sessionRef sid st) :=
    eraseMatching_guarded h.token_empty st.worldToken (sessionRef sid st)
  constructor
  · intro sid' st' hst'
    exact h.stored sid' st' (Table.erase_eq_some_iff.mp hst').2
  · rw [haccount]
    exact h.account_sound.erase hst
  · rw [haccount]
    exact h.account_complete.erase sessionRef_inj st
  · rw [hchar]
    exact h.char_sound.erase hst
  · rw [hchar]
    exact Table.eraseMatching_eq_none h.char_zero st.charId (sessionRef sid st)
  · rw [hlogin]
    exact h.login_sound.erase hst
  · rw [hlogin]
    exact h.login_complete.erase sessionRef_inj st
  · rw [htoken]
    exact h.token_sound.erase hst
  · rw [htoken]
    exact Table.eraseMatching_eq_none h.token_empty st.worldToken (sessionRef sid st)

/-- A removed session takes the entries with it that name it. -/
theorem Indexed.removeLoginSession (h : Indexed r) (sid serial : UInt32) :
    Indexed (r.removeLoginSession sid serial) := by
  unfold LoginLine.removeLoginSession
  cases hst : r.loginSessions sid with
  | none => exact h
  | some st =>
      dsimp only
      split
      · exact h
      next hserial =>
      rw [not_not] at hserial
      subst hserial
      have hst' : (r.keepDetachedIdentity st).loginSessions sid = some st := by
        rw [loginSessions_keepDetachedIdentity, hst]
      exact (h.keepDetachedIdentity st).eraseSession hst'

/-- What a removal leaves. -/
theorem loginSessions_removeLoginSession {sid' : UInt32} {st' : LoginSessionAuthState} :
    (r.removeLoginSession sid serial).loginSessions sid' = some st' ↔
      r.loginSessions sid' = some st' ∧ ¬(sid' = sid ∧ st'.serial = serial) := by
  unfold removeLoginSession
  cases hst : r.loginSessions sid with
  | none =>
      refine ⟨fun h => ⟨h, ?_⟩, And.left⟩
      rintro ⟨rfl, _⟩
      rw [hst] at h
      cases h
  | some st =>
      dsimp only
      split
      · next hserial =>
        refine ⟨fun h => ⟨h, ?_⟩, And.left⟩
        rintro ⟨rfl, hc⟩
        obtain rfl := Option.some.inj (hst.symm.trans h)
        exact hserial hc
      · next hserial =>
        rw [not_not] at hserial
        subst hserial
        change ((r.keepDetachedIdentity st).loginSessions.erase sid) sid' = some st' ↔ _
        rw [loginSessions_keepDetachedIdentity, Table.erase_eq_some_iff]
        constructor
        · rintro ⟨hne, h⟩
          exact ⟨h, fun hc => hne hc.1⟩
        · rintro ⟨h, hne⟩
          refine ⟨fun hc => ?_, h⟩
          subst hc
          obtain rfl := Option.some.inj (hst.symm.trans h)
          exact hne ⟨rfl, rfl⟩

/-! ## Login -/

/-- The evicted sessions: after their removal the account has none. -/
theorem evicted {accountId : UInt64} (h : Indexed r) (haccount : accountId ≠ 0)
    (hself : ∀ st, r.loginSessions sid = some st → st.serial ≠ serial) :
    ∃ r', (r.collectDuplicateSessions accountId 0 sid serial).foldl
        (fun r v => r.removeLoginSession v.sid v.serial) r = r' ∧ Indexed r' ∧
      ∀ sid' st', r'.loginSessions sid' = some st' ↔
        r.loginSessions sid' = some st' ∧ st'.accountId ≠ accountId := by
  unfold collectDuplicateSessions
  rw [if_pos haccount, if_neg (not_not.mpr rfl)]
  cases hidx : r.accountSessionIndex accountId with
  | none =>
      refine ⟨r, rfl, h, fun sid' st' => ⟨fun hst => ⟨hst, ?_⟩, And.left⟩⟩
      rintro rfl
      rw [h.account_complete sid' st' hst] at hidx
      cases hidx
  | some ref =>
      obtain ⟨p, v, hv, rfl, rfl⟩ := h.account_sound _ _ hidx
      have hstored := h.stored p v hv
      have hcandidate : r.duplicateCandidate (sessionRef p v) sid serial = some v := by
        unfold duplicateCandidate
        have hvalid : ¬(sessionRef p v).valid = false := by
          have := hstored.valid
          simp [LoginSessionRef.valid, sessionRef, this]
        rw [if_neg hvalid]
        refine Option.filter_eq_some_iff.mpr ⟨hv, ?_⟩
        simp only [sessionRef, decide_eq_true_eq, true_and]
        intro hc
        rw [hstored.sid_eq] at hc
        obtain ⟨rfl, hserial⟩ := hc
        exact hself v hv hserial
      simp only [Option.bind_some, hcandidate, Option.toList_some, Option.filter_none,
        Option.toList_none, List.append_nil, List.foldl_cons, List.foldl_nil]
      refine ⟨_, rfl, h.removeLoginSession v.sid v.serial, fun sid' st' => ?_⟩
      rw [loginSessions_removeLoginSession, hstored.sid_eq]
      refine and_congr_right fun hst' => not_congr ⟨?_, fun hacc => ?_⟩
      · rintro ⟨rfl, _⟩
        obtain rfl := Option.some.inj (hv.symm.trans hst')
        rfl
      · have hsid : sid' = p := h.account_complete.unique sessionRef_inj hst' hv hacc
        subst hsid
        obtain rfl := Option.some.inj (hv.symm.trans hst')
        exact ⟨rfl, rfl⟩

/-- A new session at a free slot, with an account and a login session that no
other has. -/
theorem Indexed.storeLoginSession {accountId : UInt64} {loginSession : String} (h : Indexed r)
    (hvalid : isValidSessionKey sid serial = true) (haccount : accountId ≠ 0)
    (hlogin : loginSession ≠ "") (hfree : r.loginSessions sid = none)
    (hnoAccount : ∀ sid' st', r.loginSessions sid' = some st' → st'.accountId ≠ accountId)
    (hnoLogin : ∀ sid' st', r.loginSessions sid' = some st' → st'.loginSession ≠ loginSession) :
    Indexed (r.storeLoginSession sid serial accountId loginSession) := by
  set new := newSession sid serial accountId loginSession with hnew
  have hstored : StoredAs sid new := ⟨rfl, hvalid, haccount, hlogin⟩
  constructor
  · exact h.stored_set hstored
  · exact h.account_sound.set (v := new) hfree
  · exact h.account_complete.set (v := new) hnoAccount
  · exact h.char_sound.set_row hfree new
  · exact h.char_zero
  · exact h.login_sound.set (v := new) hfree
  · exact h.login_complete.set (v := new) hnoLogin
  · exact h.token_sound.set_row hfree new
  · exact h.token_empty

/-- A login first ends the connection's own session, then the account's. -/
theorem Indexed.cleared {accountId : UInt64} (h : Indexed r) (haccount : accountId ≠ 0)
    (sid serial : UInt32) :
    ∃ r', ((r.removeLoginSession sid serial).collectDuplicateSessions accountId 0 sid serial).foldl
        (fun r v => r.removeLoginSession v.sid v.serial) (r.removeLoginSession sid serial) = r' ∧
      Indexed r' ∧
      ∀ sid' st', r'.loginSessions sid' = some st' → r.loginSessions sid' = some st' ∧
        ¬((sid' = sid ∧ st'.serial = serial) ∨ st'.accountId = accountId) := by
  have hremoved := h.removeLoginSession sid serial
  have hself : ∀ st, (r.removeLoginSession sid serial).loginSessions sid = some st →
      st.serial ≠ serial := by
    intro st hst hserial
    exact (loginSessions_removeLoginSession.mp hst).2 ⟨rfl, hserial⟩
  obtain ⟨r', hr', hindexed, hleft⟩ := evicted hremoved haccount hself
  refine ⟨r', hr', hindexed, fun sid' st' hst' => ?_⟩
  obtain ⟨hst, hne⟩ := (hleft sid' st').mp hst'
  obtain ⟨hst, hnot⟩ := loginSessions_removeLoginSession.mp hst
  exact ⟨hst, not_or.mpr ⟨hnot, hne⟩⟩

/-- Who has the login session is ended by the login. -/
theorem Indexed.ended_of_ownLoginSession {accountId : UInt64} {loginSession : String}
    {sid' : UInt32} {st' : LoginSessionAuthState} (h : Indexed r)
    (hown : r.ownLoginSession sid serial accountId loginSession = true)
    (hst : r.loginSessions sid' = some st') (hls : st'.loginSession = loginSession) :
    (sid' = sid ∧ st'.serial = serial) ∨ st'.accountId = accountId := by
  have hentry := h.login_complete sid' st' hst
  rw [hls] at hentry
  unfold ownLoginSession at hown
  rw [hentry] at hown
  change (r.loginSessions sid').all _ = true at hown
  rw [hst] at hown
  have hcases : sessionRef sid' st' = ⟨sid, serial⟩ ∨ st'.accountId = accountId := by
    simpa using hown
  refine hcases.imp_left fun href => ?_
  injection href with hsid hserial
  exact ⟨hsid, hserial⟩

/-- A login result indexes its session anew, if it changes no key that is in use. -/
theorem Indexed.completeLoginRequest {ok : Bool} {accountId : UInt64}
    {loginSession worldToken : String} (h : Indexed r)
    (hkeeps : r.keepsKeys (.authResult sid serial ok accountId loginSession worldToken) = true) :
    Indexed (r.completeLoginRequest sid serial ok accountId loginSession worldToken) := by
  unfold LoginLine.completeLoginRequest
  split
  · exact h
  next heffective =>
  obtain ⟨_, haccount, hlogin⟩ := by simpa only [not_or] using heffective
  have hconds : (isValidSessionKey sid serial = true ∧
      (r.loginSessions sid).all (fun st => st.serial = serial ∨ st.accountId = accountId) = true) ∧
      r.ownLoginSession sid serial accountId loginSession = true := by
    unfold keepsKeys at hkeeps
    simpa [heffective] using hkeeps
  obtain ⟨⟨hvalid, hslot⟩, hown⟩ := hconds
  obtain ⟨r', hr', hindexed, hleft⟩ := h.cleared haccount sid serial
  dsimp only
  rw [hr']
  have hfree : r'.loginSessions sid = none := by
    refine Option.eq_none_iff_forall_ne_some.mpr fun st hst => ?_
    obtain ⟨hst, hnot⟩ := hleft sid st hst
    rw [hst] at hslot
    have hcases : st.serial = serial ∨ st.accountId = accountId := by simpa using hslot
    exact hnot (hcases.imp_left fun hserial => ⟨rfl, hserial⟩)
  refine (hindexed.eraseDetachedWorldEnterState loginSession worldToken).storeLoginSession hvalid
    haccount hlogin hfree ?_ ?_
  · intro sid' st' hst' hacc
    exact (hleft sid' st' hst').2 (Or.inr hacc)
  · intro sid' st' hst' hls
    obtain ⟨hst, hnot⟩ := hleft sid' st' hst'
    exact hnot (h.ended_of_ownLoginSession hown hst hls)

/-! ## Selection -/

/-- A world selection stores the session again, if its keys stay what they are. -/
theorem Indexed.onWorldSelectResult {ok : Bool} {accountId : UInt64} {worldId : UInt16}
    {worldHost : String} {worldPort : UInt16} (h : Indexed r)
    (hkeeps : r.keepsKeys (.worldSelectResult sid serial ok accountId worldId worldHost worldPort) =
      true) :
    Indexed (r.onWorldSelectResult sid serial ok accountId worldId worldHost worldPort) := by
  unfold LoginLine.onWorldSelectResult
  cases hst : r.loginSessions sid with
  | none => exact h
  | some st =>
      dsimp only
      split
      case isFalse => exact h
      next heffective =>
      have hentry : r.worldTokenIndex st.worldToken ≠ some (sessionRef sid st) := by
        unfold keepsKeys at hkeeps
        dsimp only at hkeeps
        rw [hst] at hkeeps
        have hcases : r.worldTokenIndex st.worldToken ≠ some ⟨sid, serial⟩ := by
          simpa [heffective] using hkeeps
        rw [sessionRef, heffective.2.1]
        exact hcases
      constructor
      · exact h.stored_modify hst rfl rfl rfl rfl
      · exact h.account_sound.modify hst rfl (Or.inl rfl)
      · exact h.account_complete.modify hst rfl rfl
      · exact h.char_sound.modify hst rfl (Or.inl rfl)
      · exact h.char_zero
      · exact h.login_sound.modify hst rfl (Or.inl rfl)
      · exact h.login_complete.modify hst rfl rfl
      · exact h.token_sound.modify hst rfl (Or.inr hentry)
      · exact h.token_empty

/-- A character selection adds the key of its world token. -/
theorem Indexed.onCharacterSelectResult {ok : Bool} {charId : UInt64}
    {worldToken worldHost : String} {worldPort : UInt16} (h : Indexed r)
    (hkeeps : r.keepsKeys
      (.characterSelectResult sid serial ok charId worldToken worldHost worldPort) = true) :
    Indexed (r.onCharacterSelectResult sid serial ok charId worldToken worldHost worldPort) := by
  unfold LoginLine.onCharacterSelectResult
  cases hst : r.loginSessions sid with
  | none => exact h
  | some st =>
      dsimp only
      split
      case isFalse => exact h
      next heffective =>
      obtain ⟨hok, rfl⟩ := heffective
      have hkeys : charId ≠ 0 ∧ worldToken ≠ "" := by
        unfold keepsKeys at hkeeps
        dsimp only at hkeeps
        rw [hst] at hkeeps
        simpa [hok] using hkeeps
      constructor
      · exact h.stored_modify hst rfl rfl rfl rfl
      · exact h.account_sound.modify hst rfl (Or.inl rfl)
      · exact h.account_complete.modify hst rfl rfl
      · dsimp only
        rw [eraseMatching_guarded h.char_zero]
        exact h.char_sound.rekey hst rfl
      · dsimp only
        rw [eraseMatching_guarded h.char_zero, Table.set_of_ne _ _ hkeys.1.symm]
        exact Table.eraseMatching_eq_none h.char_zero _ _
      · exact h.login_sound.modify hst rfl (Or.inl rfl)
      · exact h.login_complete.modify hst rfl rfl
      · dsimp only
        rw [eraseMatching_guarded h.token_empty]
        exact h.token_sound.rekey hst rfl
      · dsimp only
        rw [eraseMatching_guarded h.token_empty, Table.set_of_ne _ _ hkeys.2.symm]
        exact Table.eraseMatching_eq_none h.token_empty _ _

/-- The session whose enter succeeded is removed. -/
theorem Indexed.onWorldEnterSuccessNotify (h : Indexed r) (accountId charId : UInt64)
    (loginSession worldToken : String) :
    Indexed (r.onWorldEnterSuccessNotify accountId charId loginSession worldToken) := by
  unfold LoginLine.onWorldEnterSuccessNotify
  split
  · next st _ =>
    have hremoved := h.removeLoginSession st.sid st.serial
    exact hremoved.eraseDetachedWorldEnterState loginSession worldToken
  · split
    · exact h.eraseDetachedWorldEnterState loginSession worldToken
    · exact h

/-! ## Runs -/

/-- The step lemma over all events, under the condition on keys. -/
theorem Indexed.step (h : Indexed r) (e : Event) (hkeeps : r.keepsKeys e = true) :
    Indexed (r.step e) := by
  cases e with
  | authResult sid serial ok accountId loginSession worldToken =>
      exact h.completeLoginRequest hkeeps
  | worldSelectResult sid serial ok accountId worldId worldHost worldPort =>
      exact h.onWorldSelectResult hkeeps
  | characterSelectResult sid serial ok charId worldToken worldHost worldPort =>
      exact h.onCharacterSelectResult hkeeps
  | worldEnterSuccessNotify accountId charId loginSession worldToken =>
      exact h.onWorldEnterSuccessNotify accountId charId loginSession worldToken
  | removeLoginSession sid serial => exact h.removeLoginSession sid serial

/-- **Login session indices**: they are views of the live sessions in every
state of a run that keeps the keys. -/
theorem indicesLive_of_along (es : List Event)
    (h : Along LoginLine.step (fun r e => r.keepsKeys e = true) {} es) :
    Always LoginLine.step IndicesLive {} es := by
  have hindexed : Always LoginLine.step Indexed {} es :=
    always_of_along indexed_init (fun _ e hr hkeeps => hr.step e hkeeps) h
  exact hindexed.imp fun _ hr => hr.indicesLive

/-- A login that selects a world and a character, is replaced by another login
of the account, and that one enters the world. -/
def loginAgain : List Event :=
  [.authResult 1 1 true 10 "a" "", .worldSelectResult 1 1 true 10 1 "h" 7000,
    .characterSelectResult 1 1 true 7 "t" "h" 7000, .authResult 2 1 true 10 "b" "",
    .removeLoginSession 1 1, .worldSelectResult 2 1 true 10 1 "h" 7000,
    .characterSelectResult 2 1 true 7 "u" "h" 7000, .worldEnterSuccessNotify 10 7 "b" "u"]

theorem indicesLive_loginAgain :
    Along LoginLine.step (fun r e => r.keepsKeys e = true) {} loginAgain ∧
      Always LoginLine.step IndicesLive {} loginAgain := by
  have h : Along LoginLine.step (fun r e => r.keepsKeys e = true) {} loginAgain := by decide
  exact ⟨h, indicesLive_of_along loginAgain h⟩

/-- A player goes back from the character select and selects the world
again. -/
def worldSelectAgain : List Event :=
  [.authResult 1 1 true 10 "a" "", .worldSelectResult 1 1 true 10 1 "h" 7000,
    .characterSelectResult 1 1 true 7 "t" "h" 7000, .worldSelectResult 1 1 true 10 1 "h" 7000]

/-- The world token `t` still finds the session, which has none. -/
theorem not_indicesLive_worldSelectAgain :
    ¬Always LoginLine.step IndicesLive {} worldSelectAgain := by
  intro h
  have hend := always_iff_forall_part.mp h worldSelectAgain List.prefix_rfl
  have hentry : (run LoginLine.step {} worldSelectAgain).worldTokenIndex "t" = some ⟨1, 1⟩ := by
    decide
  obtain ⟨sid, st, hst, href, htoken⟩ := hend.token_sound "t" ⟨1, 1⟩ hentry
  obtain rfl : sid = 1 := by injection href
  have hstored : (run LoginLine.step {} worldSelectAgain).loginSessions 1 =
      some { sid := 1, serial := 1, loggedIn := true, accountId := 10, charId := 7,
             selectedWorldId := 1, worldHost := "h", worldPort := 7000, loginSession := "a" } := by
    decide
  rw [hstored] at hst
  obtain rfl := Option.some.inj hst
  exact absurd htoken (by decide)

end LoginLine

end GameServer
