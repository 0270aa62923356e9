import GameServer.Lib.Index
import GameServer.Lib.Run
import GameServer.World.SessionRegistry

/-!
# GameServer.World.RegistryIndex

The representation invariant of the session tables: the indices by
character, by account and by reconnect token are views of the sessions
stored by slot index (`IndicesAgree`).

* `eraseAuthedSidNolock` and `storeAuthedSession` at a free slot keep it,
  hence so do the bind and the unbind;
* an accepted reconnect is an erase followed by a store
  (`reconnectTo_tables`), except that nothing erases a session the new
  slot may still hold;
* so the invariant holds along a run precisely if no accepted reconnect
  lands on a slot that stores another session
  (`indicesAgree_run_iff`).
-/

namespace GameServer

/-- The fields that a stored session always has. -/
structure WorldAuthedSession.WellFormed (s : WorldAuthedSession) : Prop where
  sid_ne : s.sid ≠ 0
  serial_ne : s.serial ≠ 0
  accountId_ne : s.accountId ≠ 0
  charId_ne : s.charId ≠ 0
  token_ne : s.reconnectToken ≠ ""

namespace SessionRegistry

/-! ## The invariants -/

/-- Every session is stored under its own slot index and is well formed.
No operation breaks this one. -/
def StoredWellFormed (r : SessionRegistry) : Prop :=
  ∀ sid s, r.authedSessionsBySid sid = some s → s.sid = sid ∧ s.WellFormed

/-- The reference an index entry holds to a session stored under `sid`. -/
def sessionRef (sid : UInt32) (s : WorldAuthedSession) : UInt64 := packSessionKey sid s.serial

theorem sessionRef_inj {sid sid' : UInt32} {s s' : WorldAuthedSession}
    (h : sessionRef sid s = sessionRef sid' s') : sid = sid' :=
  (packSessionKey_inj.mp h).1

/-- The three secondary indices agree with the stored sessions. -/
structure IndicesAgree (r : SessionRegistry) : Prop where
  char_sound : Index.Sound sessionRef WorldAuthedSession.charId
    r.authedSessionsBySid r.authedSessionKeyByCharId
  account_sound : Index.Sound sessionRef WorldAuthedSession.accountId
    r.authedSessionsBySid r.authedSessionKeyByAccountId
  token_sound : Index.Sound sessionRef WorldAuthedSession.reconnectToken
    r.authedSessionsBySid r.reconnectSessionKeyByToken
  char_complete : Index.Complete sessionRef WorldAuthedSession.charId
    r.authedSessionsBySid r.authedSessionKeyByCharId
  account_complete : Index.Complete sessionRef WorldAuthedSession.accountId
    r.authedSessionsBySid r.authedSessionKeyByAccountId

/-- At most one stored session per account and per character. -/
def OneSessionEach (r : SessionRegistry) : Prop :=
  ∀ sid s sid' s', r.authedSessionsBySid sid = some s → r.authedSessionsBySid sid' = some s' →
    s.accountId = s'.accountId ∨ s.charId = s'.charId → sid = sid'

theorem IndicesAgree.oneSessionEach {r : SessionRegistry} (h : r.IndicesAgree) :
    r.OneSessionEach := by
  intro sid s sid' s' hs hs' heq
  cases heq with
  | inl hacc => exact h.account_complete.unique sessionRef_inj hs hs' hacc
  | inr hchar => exact h.char_complete.unique sessionRef_inj hs hs' hchar

theorem storedWellFormed_initial : initial.StoredWellFormed := by
  intro sid s h
  simp [initial] at h

theorem indicesAgree_initial : initial.IndicesAgree :=
  ⟨Index.sound_empty, Index.sound_empty, Index.sound_empty, Index.complete_empty,
    Index.complete_empty⟩

/-- Agreement only looks at the four session tables. -/
theorem IndicesAgree.congr {r r' : SessionRegistry} (h : r.IndicesAgree)
    (hsid : r'.authedSessionsBySid = r.authedSessionsBySid)
    (hchar : r'.authedSessionKeyByCharId = r.authedSessionKeyByCharId)
    (hacc : r'.authedSessionKeyByAccountId = r.authedSessionKeyByAccountId)
    (htok : r'.reconnectSessionKeyByToken = r.reconnectSessionKeyByToken) :
    r'.IndicesAgree := by
  constructor
  · rw [hsid, hchar]
    exact h.char_sound
  · rw [hsid, hacc]
    exact h.account_sound
  · rw [hsid, htok]
    exact h.token_sound
  · rw [hsid, hchar]
    exact h.char_complete
  · rw [hsid, hacc]
    exact h.account_complete

/-! ## Lookups by key -/

/-- The session under a packed key is the stored one of that slot and serial. -/
theorem findSessionByKey_eq_some_iff {r : SessionRegistry} {key : UInt64}
    {s : WorldAuthedSession} :
    r.findSessionByKey key = some s ↔
      ∃ sid, r.authedSessionsBySid sid = some s ∧ sessionRef sid s = key := by
  simp only [findSessionByKey, Option.filter_eq_some_iff, beq_iff_eq, sessionRef]
  constructor
  · rintro ⟨hs, hserial⟩
    exact ⟨_, hs, by rw [hserial, packSessionKey_unpack]⟩
  · rintro ⟨sid, hs, rfl⟩
    simp [hs]

/-- A sound and complete index finds the stored session with a given field. -/
theorem bind_findSessionByKey_eq_some_iff {K : Type} {field : WorldAuthedSession → K}
    {r : SessionRegistry} {idx : Table K UInt64}
    (hs : Index.Sound sessionRef field r.authedSessionsBySid idx)
    (hc : Index.Complete sessionRef field r.authedSessionsBySid idx) {k : K}
    {s : WorldAuthedSession} :
    (idx k).bind r.findSessionByKey = some s ↔
      ∃ sid, r.authedSessionsBySid sid = some s ∧ field s = k := by
  simp only [Option.bind_eq_some_iff, findSessionByKey_eq_some_iff]
  constructor
  · rintro ⟨key, hkey, sid, hstored, href⟩
    obtain ⟨sid', s', hstored', href', hfield⟩ := hs k key hkey
    obtain rfl := sessionRef_inj (href.trans href'.symm)
    obtain rfl := Option.some.inj (hstored.symm.trans hstored')
    exact ⟨sid, hstored, hfield⟩
  · rintro ⟨sid, hstored, rfl⟩
    exact ⟨_, hc sid s hstored, sid, hstored, rfl⟩

/-! ## Erasing a session -/

@[simp] theorem authedSessionsBySid_eraseIndexEntries (r : SessionRegistry)
    (s : WorldAuthedSession) (key : UInt64) :
    (r.eraseIndexEntries s key).authedSessionsBySid = r.authedSessionsBySid := rfl

/-- An erase takes the slot, and the two indices with it. -/
@[simp] theorem authedSessionsBySid_eraseAuthedSidNolock (r : SessionRegistry) (sid : UInt32) :
    (r.eraseAuthedSidNolock sid).authedSessionsBySid = r.authedSessionsBySid.erase sid := by
  simp only [eraseAuthedSidNolock]
  split
  next h =>
    funext sid'
    rw [Table.erase_apply]
    split
    next heq => rw [heq, h]
    next => rfl
  next => rfl

theorem StoredWellFormed.erase {r r' : SessionRegistry} (h : r.StoredWellFormed) {sid : UInt32}
    (hsid : r'.authedSessionsBySid = r.authedSessionsBySid.erase sid) : r'.StoredWellFormed := by
  intro sid' s hs
  rw [hsid] at hs
  exact h sid' s (Table.erase_eq_some_iff.mp hs).2

/-- Erasing a well-formed stored session together with its matching index
entries keeps the agreement, whatever else the step does. -/
theorem IndicesAgree.erase {r r' : SessionRegistry} (h : r.IndicesAgree) {sid : UInt32}
    {victim : WorldAuthedSession} (hv : r.authedSessionsBySid sid = some victim)
    (hwf : victim.WellFormed)
    (hsid : r'.authedSessionsBySid = r.authedSessionsBySid.erase sid)
    (hidx : r'.authedSessionKeyByCharId =
        (r.eraseIndexEntries victim (sessionRef sid victim)).authedSessionKeyByCharId ∧
      r'.authedSessionKeyByAccountId =
        (r.eraseIndexEntries victim (sessionRef sid victim)).authedSessionKeyByAccountId ∧
      r'.reconnectSessionKeyByToken =
        (r.eraseIndexEntries victim (sessionRef sid victim)).reconnectSessionKeyByToken) :
    r'.IndicesAgree := by
  obtain ⟨hchar, hacc, htok⟩ := hidx
  simp only [eraseIndexEntries, ne_eq, hwf.charId_ne, hwf.accountId_ne, hwf.token_ne,
    not_false_eq_true, if_true] at hchar hacc htok
  constructor
  · rw [hsid, hchar]
    exact h.char_sound.erase hv
  · rw [hsid, hacc]
    exact h.account_sound.erase hv
  · rw [hsid, htok]
    exact h.token_sound.erase hv
  · rw [hsid, hchar]
    exact h.char_complete.erase sessionRef_inj victim
  · rw [hsid, hacc]
    exact h.account_complete.erase sessionRef_inj victim

/-- It takes an index entry only if that entry names the session erased. -/
theorem IndicesAgree.eraseAuthedSidNolock {r : SessionRegistry} (h : r.IndicesAgree)
    (hwf : r.StoredWellFormed) (sid : UInt32) : (r.eraseAuthedSidNolock sid).IndicesAgree := by
  cases hv : r.authedSessionsBySid sid with
  | none =>
      simp only [SessionRegistry.eraseAuthedSidNolock, hv]
      exact h
  | some victim =>
      obtain ⟨hvsid, hvwf⟩ := hwf sid victim hv
      refine h.erase hv hvwf (authedSessionsBySid_eraseAuthedSidNolock r sid) ?_
      have hkey : victim.key = sessionRef sid victim := by
        rw [WorldAuthedSession.key, sessionRef, hvsid]
      simp only [SessionRegistry.eraseAuthedSidNolock, hv, hkey, and_self]

/-! ## Storing a session -/

/-- A well-formed session may be stored. -/
theorem StoredWellFormed.store {r : SessionRegistry} (h : r.StoredWellFormed)
    {s : WorldAuthedSession} (hs : s.WellFormed) : (r.storeAuthedSession s).StoredWellFormed := by
  intro sid s' hs'
  simp only [storeAuthedSession, Table.set_apply] at hs'
  split at hs'
  next heq =>
    obtain rfl := Option.some.inj hs'
    exact ⟨heq.symm, hs⟩
  next => exact h sid s' hs'

/-- Storing at a free slot a session whose character and account have none
keeps the agreement. -/
theorem IndicesAgree.store {r : SessionRegistry} (h : r.IndicesAgree) {s : WorldAuthedSession}
    (hfree : r.authedSessionsBySid s.sid = none)
    (hchar : ∀ sid s', r.authedSessionsBySid sid = some s' → s'.charId ≠ s.charId)
    (hacc : ∀ sid s', r.authedSessionsBySid sid = some s' → s'.accountId ≠ s.accountId) :
    (r.storeAuthedSession s).IndicesAgree where
  char_sound := h.char_sound.set hfree
  account_sound := h.account_sound.set hfree
  token_sound := h.token_sound.set hfree
  char_complete := h.char_complete.set hchar
  account_complete := h.account_complete.set hacc

/-! ## The bind -/

theorem StoredWellFormed.eraseAuthedSidNolock {r : SessionRegistry} (h : r.StoredWellFormed)
    (sid : UInt32) : (r.eraseAuthedSidNolock sid).StoredWellFormed :=
  h.erase (authedSessionsBySid_eraseAuthedSidNolock r sid)

/-- Erasing the displaced sessions leaves well-formed ones. -/
theorem StoredWellFormed.eraseReplaced {r : SessionRegistry} (h : r.StoredWellFormed)
    (oldChar oldAccount : WorldAuthedSession) :
    (r.eraseReplaced oldChar oldAccount).StoredWellFormed := by
  simp only [SessionRegistry.eraseReplaced]
  split <;> split
  · exact (h.eraseAuthedSidNolock _).eraseAuthedSidNolock _
  · exact h.eraseAuthedSidNolock _
  · exact h.eraseAuthedSidNolock _
  · exact h

/-- And indices that agree with what is left. -/
theorem IndicesAgree.eraseReplaced {r : SessionRegistry} (h : r.IndicesAgree)
    (hwf : r.StoredWellFormed) (oldChar oldAccount : WorldAuthedSession) :
    (r.eraseReplaced oldChar oldAccount).IndicesAgree := by
  simp only [SessionRegistry.eraseReplaced]
  split <;> split
  · exact (h.eraseAuthedSidNolock hwf _).eraseAuthedSidNolock (hwf.eraseAuthedSidNolock _) _
  · exact h.eraseAuthedSidNolock hwf _
  · exact h.eraseAuthedSidNolock hwf _
  · exact h

/-- What survives the replacement is stored under neither old slot. -/
theorem authedSessionsBySid_eraseReplaced {r : SessionRegistry} (hwf : r.StoredWellFormed)
    {oldChar oldAccount : WorldAuthedSession} {sid : UInt32} {s : WorldAuthedSession} :
    (r.eraseReplaced oldChar oldAccount).authedSessionsBySid sid = some s ↔
      r.authedSessionsBySid sid = some s ∧ sid ≠ oldChar.sid ∧ sid ≠ oldAccount.sid := by
  have hne : r.authedSessionsBySid sid = some s → sid ≠ 0 := by
    intro hs
    obtain ⟨rfl, hswf⟩ := hwf sid s hs
    exact hswf.sid_ne
  simp only [SessionRegistry.eraseReplaced]
  split <;> split <;>
    simp only [authedSessionsBySid_eraseAuthedSidNolock, Table.erase_eq_some_iff, ne_eq] <;>
    grind

/-- The session a bind finds through an index is the stored one with that
field; afterwards no session has it. -/
theorem field_ne_of_not_found {K : Type} {field : WorldAuthedSession → K} {r : SessionRegistry}
    {idx : Table K UInt64} (hs : Index.Sound sessionRef field r.authedSessionsBySid idx)
    (hc : Index.Complete sessionRef field r.authedSessionsBySid idx) (hwf : r.StoredWellFormed)
    {k : K} {sid : UInt32} {s : WorldAuthedSession} (hstored : r.authedSessionsBySid sid = some s)
    (hsid : sid ≠ (((idx k).bind r.findSessionByKey).getD {}).sid) : field s ≠ k := by
  rintro hk
  have hfound := (bind_findSessionByKey_eq_some_iff hs hc).mpr ⟨sid, hstored, hk⟩
  rw [hfound, Option.getD_some, (hwf sid s hstored).1] at hsid
  exact hsid rfl

/-- A bind stores a session of four nonzero parts. -/
theorem StoredWellFormed.bindReplacing {r : SessionRegistry} (h : r.StoredWellFormed)
    {accountId charId : UInt64} {sid serial : UInt32} (bytes : Vector UInt8 32)
    (hin : ¬(accountId = 0 ∨ charId = 0 ∨ sid = 0 ∨ serial = 0)) :
    (r.bindReplacing accountId charId sid serial bytes).2.StoredWellFormed := by
  simp only [not_or] at hin
  obtain ⟨hacc, hchar, hsid, hserial⟩ := hin
  refine (h.eraseReplaced _ _).store ⟨hsid, hserial, hacc, hchar, ?_⟩
  dsimp only
  split
  next htok => exact htok
  next => exact generateReconnectToken_ne_empty bytes

/-- A bind onto a free slot indexes the new session under both of its ids. -/
theorem IndicesAgree.bindReplacing {r : SessionRegistry} (h : r.IndicesAgree)
    (hwf : r.StoredWellFormed) (accountId charId : UInt64) {sid : UInt32} (serial : UInt32)
    (bytes : Vector UInt8 32) (hfree : r.authedSessionsBySid sid = none) :
    (r.bindReplacing accountId charId sid serial bytes).2.IndicesAgree := by
  refine IndicesAgree.congr (IndicesAgree.store (h.eraseReplaced hwf _ _) ?_ ?_ ?_) rfl rfl rfl rfl
  · apply Option.eq_none_iff_forall_ne_some.mpr
    intro s hs
    have hs' := ((authedSessionsBySid_eraseReplaced hwf).mp hs).1
    simp [hfree] at hs'
  · intro sid' s hs
    obtain ⟨hs, hne, _⟩ := (authedSessionsBySid_eraseReplaced hwf).mp hs
    exact field_ne_of_not_found h.char_sound h.char_complete hwf hs hne
  · intro sid' s hs
    obtain ⟨hs, _, hne⟩ := (authedSessionsBySid_eraseReplaced hwf).mp hs
    exact field_ne_of_not_found h.account_sound h.account_complete hwf hs hne

/-! ## The reconnect -/

/-- The session a reconnect token names. -/
def reconnectPrevious (r : SessionRegistry) (token : String) : Option WorldAuthedSession :=
  (r.reconnectSessionKeyByToken token).bind r.findSessionByKey

/-- The checks of `TryReconnectWorldSession` as a predicate on the state it
finds: `previous` is the session that would move to `(sid, serial)`. -/
structure AcceptsReconnect (r : SessionRegistry) (accountId charId : UInt64) (token : String)
    (sid serial : UInt32) (previous : WorldAuthedSession) : Prop where
  valid : isValidSessionKey sid serial = true
  accountId_ne : accountId ≠ 0
  charId_ne : charId ≠ 0
  token_ne : token ≠ ""
  found : r.reconnectPrevious token = some previous
  account : previous.accountId = accountId
  char : previous.charId = charId
  same_token : previous.reconnectToken = token

/-- A token has one session. -/
theorem AcceptsReconnect.forall_iff {r : SessionRegistry} {accountId charId : UInt64}
    {token : String} {sid serial : UInt32} {previous : WorldAuthedSession}
    (h : r.AcceptsReconnect accountId charId token sid serial previous)
    (P : WorldAuthedSession → Prop) :
    (∀ p, r.AcceptsReconnect accountId charId token sid serial p → P p) ↔ P previous := by
  constructor
  · intro hall
    exact hall previous h
  · intro hprevious p hp
    have hsame := hp.found.symm.trans h.found
    rwa [Option.some.inj hsame]

/-- Everything a reconnect can do: move the session, drop a token entry
that names no session, or nothing. -/
theorem tryReconnectWorldSession_cases (r : SessionRegistry) (accountId charId : UInt64)
    (token : String) (sid serial : UInt32) :
    (∃ previous oldKey, r.AcceptsReconnect accountId charId token sid serial previous ∧
        r.reconnectSessionKeyByToken token = some oldKey ∧
        r.findSessionByKey oldKey = some previous ∧
        (r.tryReconnectWorldSession accountId charId token sid serial).2 =
          r.reconnectTo previous oldKey sid serial) ∨
      ((∀ previous, ¬ r.AcceptsReconnect accountId charId token sid serial previous) ∧
        ((r.tryReconnectWorldSession accountId charId token sid serial).2 = r ∨
          ∃ key, r.reconnectSessionKeyByToken token = some key ∧ r.findSessionByKey key = none ∧
            (r.tryReconnectWorldSession accountId charId token sid serial).2 =
              { r with
                reconnectSessionKeyByToken := r.reconnectSessionKeyByToken.erase token })) := by
  simp only [tryReconnectWorldSession]
  split
  next hin =>
    refine .inr ⟨fun previous hacc => ?_, .inl rfl⟩
    have := hacc.valid
    grind [hacc.accountId_ne, hacc.charId_ne, hacc.token_ne]
  next hin =>
    simp only [not_or, Bool.not_eq_false] at hin
    obtain ⟨hvalid, hacc, hchar, htok⟩ := hin
    split
    next hkey =>
      refine .inr ⟨fun previous h => ?_, .inl rfl⟩
      have hfound := h.found
      simp [reconnectPrevious, hkey] at hfound
    next oldKey hkey =>
      have hprev : r.reconnectPrevious token = r.findSessionByKey oldKey := by
        simp [reconnectPrevious, hkey]
      split
      next hnone =>
        refine .inr ⟨fun previous h => ?_, .inr ⟨oldKey, hkey, hnone, rfl⟩⟩
        have hfound := h.found
        simp [hprev, hnone] at hfound
      next previous hsome =>
        have huniq : ∀ p, r.AcceptsReconnect accountId charId token sid serial p → p = previous := by
          intro p h
          have hfound := h.found
          rw [hprev, hsome] at hfound
          exact (Option.some.inj hfound).symm
        split
        next hne => exact .inr ⟨fun p h => hne (huniq p h ▸ h.account), .inl rfl⟩
        next ha =>
          split
          next hne => exact .inr ⟨fun p h => hne (huniq p h ▸ h.char), .inl rfl⟩
          next hc =>
            split
            next hne => exact .inr ⟨fun p h => hne (huniq p h ▸ h.same_token), .inl rfl⟩
            next ht =>
              refine .inl ⟨previous, oldKey, ?_, hkey, hsome, rfl⟩
              exact ⟨hvalid, hacc, hchar, htok, hprev.trans hsome, not_not.mp ha, not_not.mp hc,
                not_not.mp ht⟩

/-- Success is reported only when the checks passed. -/
theorem acceptsReconnect_of_success {r : SessionRegistry} {accountId charId : UInt64}
    {token : String} {sid serial : UInt32}
    (h : (r.tryReconnectWorldSession accountId charId token sid serial).1.code = .success) :
    ∃ previous, r.AcceptsReconnect accountId charId token sid serial previous := by
  simp only [tryReconnectWorldSession] at h
  split at h
  next => simp at h
  next hin =>
    simp only [not_or, Bool.not_eq_false] at hin
    split at h
    next => simp at h
    next oldKey hkey =>
      split at h
      next => simp at h
      next previous hsome =>
        split_ifs at h with ha hc ht
        exact ⟨previous, hin.1, hin.2.1, hin.2.2.1, hin.2.2.2, by simp [reconnectPrevious, hkey, hsome],
          not_not.mp ha, not_not.mp hc, not_not.mp ht⟩

/-- On the session tables an accepted reconnect is an erase of the previous
session followed by a store of the moved one. -/
theorem reconnectTo_tables {r : SessionRegistry} (hwf : r.StoredWellFormed)
    {previous : WorldAuthedSession} {oldKey : UInt64}
    (hfound : r.findSessionByKey oldKey = some previous) (sid serial : UInt32) :
    let r₁ := (r.eraseAuthedSidNolock previous.sid).storeAuthedSession { previous with sid, serial }
    let r₂ := r.reconnectTo previous oldKey sid serial
    r₂.authedSessionsBySid = r₁.authedSessionsBySid ∧
      r₂.authedSessionKeyByCharId = r₁.authedSessionKeyByCharId ∧
      r₂.authedSessionKeyByAccountId = r₁.authedSessionKeyByAccountId ∧
      r₂.reconnectSessionKeyByToken = r₁.reconnectSessionKeyByToken := by
  obtain ⟨oldSid, hstored, hkey⟩ := findSessionByKey_eq_some_iff.mp hfound
  obtain ⟨hsid, hp⟩ := hwf oldSid previous hstored
  have hold : unpackSessionSid oldKey = previous.sid := by
    rw [← hkey, sessionRef, unpackSessionSid_packSessionKey, hsid]
  subst hsid
  simp only [reconnectTo, storeAuthedSession, hold, authedSessionsBySid_eraseAuthedSidNolock]
  refine ⟨trivial, ?_, ?_, ?_⟩ <;>
    simp only [SessionRegistry.eraseAuthedSidNolock, hstored, eraseIndexEntries, ne_eq,
      hp.charId_ne, hp.accountId_ne, hp.token_ne, not_false_eq_true, if_true,
      Table.set_eraseMatching]

/-- A reconnect stores the old session under a valid new key. -/
theorem StoredWellFormed.reconnectTo {r : SessionRegistry} (hwf : r.StoredWellFormed)
    {previous : WorldAuthedSession} {oldKey : UInt64}
    (hfound : r.findSessionByKey oldKey = some previous) {sid serial : UInt32}
    (hvalid : isValidSessionKey sid serial = true) :
    (r.reconnectTo previous oldKey sid serial).StoredWellFormed := by
  obtain ⟨oldSid, hstored, _⟩ := findSessionByKey_eq_some_iff.mp hfound
  have hp := (hwf oldSid previous hstored).2
  have hv := isValidSessionKey_eq_true.mp hvalid
  have hrepl : ({ previous with sid, serial } : WorldAuthedSession).WellFormed :=
    ⟨hv.1, hv.2, hp.accountId_ne, hp.charId_ne, hp.token_ne⟩
  intro sid' s hs
  rw [(reconnectTo_tables hwf hfound sid serial).1] at hs
  exact (hwf.eraseAuthedSidNolock _).store hrepl sid' s hs

/-- **Reconnect and the indices**: moving a session to `(sid, serial)` keeps
the agreement precisely if the slot is its own or free. -/
theorem indicesAgree_reconnectTo_iff {r : SessionRegistry} (h : r.IndicesAgree)
    (hwf : r.StoredWellFormed) {previous : WorldAuthedSession} {oldKey : UInt64}
    (hfound : r.findSessionByKey oldKey = some previous) (sid serial : UInt32) :
    (r.reconnectTo previous oldKey sid serial).IndicesAgree ↔
      sid = previous.sid ∨ r.authedSessionsBySid sid = none := by
  obtain ⟨oldSid, hstored, -⟩ := findSessionByKey_eq_some_iff.mp hfound
  obtain ⟨rfl, -⟩ := hwf oldSid previous hstored
  obtain ⟨hauth, hchar, hacc, htok⟩ := reconnectTo_tables hwf hfound sid serial
  constructor
  · intro hagree
    by_contra hocc
    obtain ⟨hne, hsome⟩ := not_or.mp hocc
    obtain ⟨other, hother⟩ := Option.ne_none_iff_exists'.mp hsome
    have hdiff : previous.charId ≠ other.charId := by
      intro heq
      exact hne (h.char_complete.unique sessionRef_inj hother hstored heq.symm)
    refine Index.not_sound_set other ?_ ?_ ?_ hagree.char_sound
    · exact sessionRef_inj
    · exact h.char_complete sid other hother
    · exact hdiff
  · intro hfree
    refine IndicesAgree.congr (IndicesAgree.store (h.eraseAuthedSidNolock hwf previous.sid) ?_ ?_ ?_)
      hauth hchar hacc htok
    · rw [authedSessionsBySid_eraseAuthedSidNolock, Table.erase_apply]
      grind
    · intro sid' s hs heq
      rw [authedSessionsBySid_eraseAuthedSidNolock, Table.erase_eq_some_iff] at hs
      exact hs.1 (h.char_complete.unique sessionRef_inj hs.2 hstored heq)
    · intro sid' s hs heq
      rw [authedSessionsBySid_eraseAuthedSidNolock, Table.erase_eq_some_iff] at hs
      exact hs.1 (h.account_complete.unique sessionRef_inj hs.2 hstored heq)

end SessionRegistry

/-! ## Runs -/

/-- The operations that rewrite the session tables, with arbitrary
arguments. -/
inductive SessionOp where
  | bind (accountId charId : UInt64) (sid serial : UInt32) (bytes : Vector UInt8 32)
  | unbind (sid serial : UInt32)
  | getOrCreateReconnectToken (sid serial : UInt32) (bytes : Vector UInt8 32)
  | reconnect (accountId charId : UInt64) (token : String) (sid serial : UInt32)

namespace SessionOp

open SessionRegistry

def apply (r : SessionRegistry) : SessionOp → SessionRegistry
  | bind accountId charId sid serial bytes =>
      (r.bindAuthenticatedWorldSessionForLogin accountId charId sid serial bytes).2
  | unbind sid serial => (r.unbindAuthenticatedWorldSessionBySid sid serial).2
  | getOrCreateReconnectToken sid serial bytes =>
      (r.getOrCreateReconnectTokenForSession sid serial bytes).2
  | reconnect accountId charId token sid serial =>
      (r.tryReconnectWorldSession accountId charId token sid serial).2

/-- A reconnect that passes the checks goes to the session's own slot or to
one that stores no session. -/
def ReconnectsToFreeSlot (r : SessionRegistry) : SessionOp → Prop
  | reconnect accountId charId token sid serial =>
      ∀ previous, r.AcceptsReconnect accountId charId token sid serial previous →
        sid = previous.sid ∨ r.authedSessionsBySid sid = none
  | _ => True

/-- The token call rewrites a stored session with the token it has. -/
theorem getOrCreate_cases {r : SessionRegistry} (hwf : r.StoredWellFormed) (sid serial : UInt32)
    (bytes : Vector UInt8 32) :
    (r.getOrCreateReconnectTokenForSession sid serial bytes).2 = r ∨
      ∃ s, r.authedSessionsBySid sid = some s ∧ s.serial = serial ∧
        (r.getOrCreateReconnectTokenForSession sid serial bytes).2 =
          { r with
            reconnectSessionKeyByToken :=
              r.reconnectSessionKeyByToken.set s.reconnectToken (packSessionKey sid serial) } := by
  simp only [getOrCreateReconnectTokenForSession]
  split
  next =>
    split
    next => exact .inl rfl
    next s hs =>
      split
      next => exact .inl rfl
      next hserial =>
        have htok : s.reconnectToken ≠ "" := (hwf sid s hs).2.token_ne
        refine .inr ⟨s, hs, not_not.mp hserial, ?_⟩
        have hsame : r.authedSessionsBySid.set sid s = r.authedSessionsBySid := by
          funext sid'
          rw [Table.set_apply]
          split
          next heq => rw [heq, hs]
          next => rfl
        simp only [htok, if_false, hsame]
  next => exact .inl rfl

/-- One case for each operation. -/
theorem storedWellFormed_apply {r : SessionRegistry} (h : r.StoredWellFormed) (op : SessionOp) :
    (op.apply r).StoredWellFormed := by
  cases op with
  | bind accountId charId sid serial bytes =>
      simp only [apply, bindAuthenticatedWorldSessionForLogin]
      split
      next => exact h
      next hin =>
        split
        next => exact h.bindReplacing bytes hin
        next =>
          split
          next => exact h
          next => exact (h.eraseAuthedSidNolock sid).bindReplacing bytes hin
  | unbind sid serial =>
      simp only [apply, unbindAuthenticatedWorldSessionBySid]
      split
      next =>
        split
        next => exact h
        next =>
          split
          next => exact h
          next => exact h.erase rfl
      next => exact h
  | getOrCreateReconnectToken sid serial bytes =>
      simp only [apply]
      obtain heq | ⟨s, hs, hserial, heq⟩ := getOrCreate_cases h sid serial bytes <;> rw [heq]
      · exact h
      · exact h
  | reconnect accountId charId token sid serial =>
      simp only [apply]
      obtain ⟨previous, oldKey, hacc, -, hfound, heq⟩ | ⟨-, heq | ⟨key, -, -, heq⟩⟩ :=
        tryReconnectWorldSession_cases r accountId charId token sid serial <;> rw [heq]
      · exact h.reconnectTo hfound hacc.valid
      · exact h
      · exact h

/-- One step keeps the agreement precisely if it is no reconnect onto a
slot of another session. -/
theorem indicesAgree_apply_iff {r : SessionRegistry} (hwf : r.StoredWellFormed)
    (h : r.IndicesAgree) (op : SessionOp) :
    (op.apply r).IndicesAgree ↔ op.ReconnectsToFreeSlot r := by
  cases op with
  | bind accountId charId sid serial bytes =>
      refine iff_of_true ?_ trivial
      simp only [apply, bindAuthenticatedWorldSessionForLogin]
      split
      next => exact h
      next =>
        split
        next hfree => exact h.bindReplacing hwf accountId charId serial bytes hfree
        next =>
          split
          next => exact h
          next =>
            refine (h.eraseAuthedSidNolock hwf sid).bindReplacing (hwf.eraseAuthedSidNolock sid)
              accountId charId serial bytes ?_
            rw [authedSessionsBySid_eraseAuthedSidNolock, Table.erase_self]
  | unbind sid serial =>
      refine iff_of_true ?_ trivial
      simp only [apply, unbindAuthenticatedWorldSessionBySid]
      split
      next =>
        split
        next => exact h
        next s hs =>
          split
          next => exact h
          next hserial =>
            obtain rfl := not_not.mp hserial
            exact h.erase hs (hwf sid s hs).2 rfl ⟨rfl, rfl, rfl⟩
      next => exact h
  | getOrCreateReconnectToken sid serial bytes =>
      refine iff_of_true ?_ trivial
      simp only [apply]
      obtain heq | ⟨s, hs, hserial, heq⟩ := getOrCreate_cases hwf sid serial bytes <;> rw [heq]
      · exact h
      · refine ⟨h.char_sound, h.account_sound, ?_, h.char_complete, h.account_complete⟩
        intro token key hkey
        simp only [Table.set_apply] at hkey
        split at hkey
        next htok =>
          subst hserial
          exact ⟨sid, s, hs, Option.some.inj hkey, htok.symm⟩
        next => exact h.token_sound token key hkey
  | reconnect accountId charId token sid serial =>
      simp only [apply, ReconnectsToFreeSlot]
      obtain ⟨previous, oldKey, hacc, hkey, hfound, heq⟩ | ⟨hrej, heq | ⟨key, hkey, hnone, heq⟩⟩ :=
        tryReconnectWorldSession_cases r accountId charId token sid serial <;> rw [heq]
      · rw [indicesAgree_reconnectTo_iff h hwf hfound]
        exact (hacc.forall_iff fun p => sid = p.sid ∨ r.authedSessionsBySid sid = none).symm
      · exact iff_of_true h fun p hp => absurd hp (hrej p)
      · -- a sound token index never names a missing session
        obtain ⟨sid', s, hs, href, -⟩ := h.token_sound token key hkey
        have hsome := findSessionByKey_eq_some_iff.mpr ⟨sid', hs, href⟩
        simp [hnone] at hsome

end SessionOp

namespace SessionRegistry

/-- **Registry representation invariant**: from the empty registry, the
indices agree with the stored sessions — and an account or a character has
at most one session — in every state of a run precisely if no accepted
reconnect of the run lands on a slot that stores another session. -/
theorem indicesAgree_run_iff (ops : List SessionOp) :
    Always SessionOp.apply (fun r => r.IndicesAgree ∧ r.OneSessionEach) initial ops ↔
      Along SessionOp.apply (fun r op => op.ReconnectsToFreeSlot r) initial ops := by
  have hand : ∀ r : SessionRegistry, r.IndicesAgree ∧ r.OneSessionEach ↔ r.IndicesAgree :=
    fun r => ⟨And.left, fun h => ⟨h, h.oneSessionEach⟩⟩
  simp only [hand]
  exact always_iff_along storedWellFormed_initial indicesAgree_initial
    (fun _ op h => SessionOp.storedWellFormed_apply h op)
    (fun _ op hwf h => SessionOp.indicesAgree_apply_iff hwf h op)

/-- Two clients log in, and the second connection reconnects with the first
one's token. -/
def reconnectOntoBoundSlot : List SessionOp :=
  [.bind 1 11 1 100 (.replicate 32 0xA1), .bind 2 22 2 200 (.replicate 32 0xB2),
    .reconnect 1 11 (generateReconnectToken (.replicate 32 0xA1)) 2 200]

/-- The entry of character 22 is left behind: it names connection (2, 200),
which now stores character 11. -/
theorem not_indicesAgree_reconnectOntoBoundSlot :
    ¬ Always SessionOp.apply (fun r => r.IndicesAgree ∧ r.OneSessionEach) initial
      reconnectOntoBoundSlot := by
  intro h
  have hagree := (always_iff_forall_part.mp h _ List.prefix_rfl).1
  have hentry : (run SessionOp.apply initial reconnectOntoBoundSlot).authedSessionKeyByCharId 22 =
      some (packSessionKey 2 200) := by
    decide
  have hstored : ((run SessionOp.apply initial reconnectOntoBoundSlot).authedSessionsBySid 2).map
      WorldAuthedSession.charId = some 11 := by
    decide
  obtain ⟨sid, s, hs, href, hchar⟩ := hagree.char_sound 22 _ hentry
  obtain ⟨rfl, -⟩ := packSessionKey_inj.mp href
  rw [hs, Option.map_some, hchar] at hstored
  simp at hstored

end SessionRegistry

end GameServer
