import GameServer.World.HandlerEffects

/-!
# GameServer.World.GhostCharacters

Characters in the world without an owner.

A character is in the world from the moment its enter is announced (or its
session is reconnected) until its leave is posted; `inWorld` reads that off
the outputs.  It is a ghost when it is in the world and no stored session
carries it.

Sessions are removed in several places.  An unbind comes with the cleanup of
its character (`Tidy`), and a completed enter that is taken back posts the
leave itself.  A bind and a reconnect do not: they drop the sessions they
replace, and the close of the kicked connection, when it comes, no longer
finds a session to clean up after.  So a character is lost precisely when it
is not the one that the bind or the reconnect is for.
-/

namespace GameServer

/-- What an output says about a character's presence in the world. -/
def Output.presence : Output → Option (UInt64 × Bool)
  | .enterPosted charId .. => some (charId, true)
  | .reconnected charId .. => some (charId, true)
  | .cleanupPosted charId .. => some (charId, false)
  | .leavePosted ctx => some (ctx.charId, false)
  | _ => none

/-- The presence of character `c` after one more output. -/
def Output.updatePresence (c : UInt64) (present : Bool) (o : Output) : Bool :=
  match o.presence with
  | some (c', v) => if c' = c then v else present
  | none => present

/-- Is character `c` in the world, by what has been posted? -/
def inWorld (out : List Output) (c : UInt64) : Bool := out.foldl (Output.updatePresence c) false

theorem inWorld_append (out os : List Output) (c : UInt64) :
    inWorld (out ++ os) c = os.foldl (Output.updatePresence c) (inWorld out c) :=
  List.foldl_append

/-- Outputs about other characters change no presence: induction on them. -/
theorem foldl_updatePresence_of_none {c : UInt64} {os : List Output}
    (h : ∀ o ∈ os, ∀ v, o.presence ≠ some (c, v)) (present : Bool) :
    os.foldl (Output.updatePresence c) present = present := by
  induction os generalizing present with
  | nil => rfl
  | cons o os ih =>
      have hhead : Output.updatePresence c present o = present := by
        have ho := h o List.mem_cons_self
        unfold Output.updatePresence
        split
        next c' v heq =>
          split
          next hc => exact absurd (hc ▸ heq) (ho v)
          next => rfl
        next => rfl
      rw [List.foldl_cons, hhead]
      exact ih (fun o' ho' => h o' (List.mem_cons_of_mem o ho')) present

theorem Output.presence_of_isNotice {o : Output} (h : o.isNotice = true) : o.presence = none := by
  cases o <;> simp_all [Output.isNotice, Output.presence]

/-- A character that is gone has been told to leave. -/
theorem exists_leave_of_foldl {c : UInt64} {os : List Output}
    (h : os.foldl (Output.updatePresence c) true = false) :
    ∃ o ∈ os, o.presence = some (c, false) := by
  induction os with
  | nil => simp at h
  | cons o os ih =>
      rw [List.foldl_cons] at h
      cases hnext : Output.updatePresence c true o with
      | true =>
          rw [hnext] at h
          obtain ⟨o', ho', hleave⟩ := ih h
          exact ⟨o', List.mem_cons_of_mem o ho', hleave⟩
      | false =>
          refine ⟨o, List.mem_cons_self, ?_⟩
          unfold Output.updatePresence at hnext
          split at hnext
          next c' v heq =>
            split at hnext
            next hc => rw [heq, hc, hnext]
            next => simp at hnext
          next => simp at hnext

/-- A character that goes out of the world has had its leave posted. -/
theorem exists_leave_of_not_inWorld {out os : List Output} {c : UInt64}
    (hbefore : inWorld out c = true) (hafter : inWorld (out ++ os) c = false) :
    ∃ o ∈ os, o.presence = some (c, false) := by
  rw [inWorld_append, hbefore] at hafter
  exact exists_leave_of_foldl hafter

namespace SessionRegistry

/-- Some stored session carries character `c`. -/
def HasSession (r : SessionRegistry) (c : UInt64) : Prop :=
  ∃ sid s, r.authedSessionsBySid sid = some s ∧ s.charId = c

/-- The sessions a bind of `charId` for `accountId` on slot `sid` drops: that
of the slot, that of the character and that of the account. -/
def Replaces (r : SessionRegistry) (accountId charId : UInt64) (sid : UInt32)
    (s : WorldAuthedSession) : Prop :=
  r.authedSessionsBySid sid = some s ∨
    (r.authedSessionKeyByCharId charId).bind r.findSessionByKey = some s ∨
    (r.authedSessionKeyByAccountId accountId).bind r.findSessionByKey = some s

variable {r r' : SessionRegistry} {c : UInt64}

theorem HasSession.congr (h : r.HasSession c)
    (heq : r'.authedSessionsBySid = r.authedSessionsBySid) : r'.HasSession c := by
  rw [HasSession, heq]
  exact h

/-- A character keeps its session when another session is erased. -/
theorem HasSession.erase (h : r.HasSession c) (sid : UInt32)
    (hother : ∀ s, r.authedSessionsBySid sid = some s → s.charId ≠ c)
    (heq : r'.authedSessionsBySid = r.authedSessionsBySid.erase sid) : r'.HasSession c := by
  obtain ⟨sid', s, hs, hc⟩ := h
  refine ⟨sid', s, ?_, hc⟩
  rw [heq]
  refine Table.erase_eq_some_iff.mpr ⟨?_, hs⟩
  rintro rfl
  exact hother s hs hc

/-- Storing a session loses only the character of the slot. -/
theorem HasSession.store (h : r.HasSession c) {s : WorldAuthedSession}
    (hother : ∀ s', r.authedSessionsBySid s.sid = some s' → s'.charId ≠ c) :
    (r.storeAuthedSession s).HasSession c := by
  obtain ⟨sid', s', hs', hc⟩ := h
  refine ⟨sid', s', ?_, hc⟩
  simp only [storeAuthedSession, Table.set_apply]
  split
  next heq => exact absurd hc (hother s' (heq ▸ hs'))
  next => exact hs'

theorem hasSession_store (r : SessionRegistry) (s : WorldAuthedSession) :
    (r.storeAuthedSession s).HasSession s.charId :=
  ⟨s.sid, s, by simp [storeAuthedSession], rfl⟩

/-! ## The bind -/

/-- What a lookup finds after a slot was cleared, it found before. -/
theorem bind_find_mono {o o' : Option UInt64} {s : WorldAuthedSession}
    (hidx : ∀ key, o' = some key → o = some key)
    (hstored : ∀ sid s, r'.authedSessionsBySid sid = some s → r.authedSessionsBySid sid = some s)
    (h : o'.bind r'.findSessionByKey = some s) : o.bind r.findSessionByKey = some s := by
  simp only [Option.bind_eq_some_iff, findSessionByKey_eq_some_iff] at h ⊢
  obtain ⟨key, hkey, sid, hs, href⟩ := h
  exact ⟨key, hidx key hkey, sid, hstored sid s hs, href⟩

/-- What an index names after entries were erased, it named before. -/
theorem eq_some_of_eraseMatching {α β : Type} [DecidableEq α] [DecidableEq β] {t : Table α β}
    {a a' : α} {b b' : β} {p : Prop} [Decidable p]
    (h : (if p then t.eraseMatching a b else t) a' = some b') : t a' = some b' := by
  split at h
  next => exact (Table.eraseMatching_eq_some_iff.mp h).1
  next => exact h

/-- An erase adds no index entry. -/
theorem indexed_of_eraseAuthedSidNolock (r : SessionRegistry) (slot : UInt32) :
    (∀ charId key, (r.eraseAuthedSidNolock slot).authedSessionKeyByCharId charId = some key →
        r.authedSessionKeyByCharId charId = some key) ∧
      ∀ accountId key,
        (r.eraseAuthedSidNolock slot).authedSessionKeyByAccountId accountId = some key →
          r.authedSessionKeyByAccountId accountId = some key := by
  unfold SessionRegistry.eraseAuthedSidNolock
  cases r.authedSessionsBySid slot with
  | none => exact ⟨fun _ _ => id, fun _ _ => id⟩
  | some victim => exact ⟨fun _ _ => eq_some_of_eraseMatching, fun _ _ => eq_some_of_eraseMatching⟩

/-- So what a bind replaces after it, it replaced before. -/
theorem Replaces.of_eraseAuthedSidNolock {accountId charId : UInt64} {slot sid : UInt32}
    {s : WorldAuthedSession} (h : (r.eraseAuthedSidNolock slot).Replaces accountId charId sid s) :
    r.Replaces accountId charId sid s := by
  have hstored : ∀ sid s, (r.eraseAuthedSidNolock slot).authedSessionsBySid sid = some s →
      r.authedSessionsBySid sid = some s :=
    fun _ _ => RegistryOp.stored_of_eraseAuthedSidNolock
  obtain ⟨hchar, haccount⟩ := indexed_of_eraseAuthedSidNolock r slot
  rcases h with h | h | h
  · exact .inl (hstored sid s h)
  · exact .inr (.inl (bind_find_mono (hchar charId) hstored h))
  · exact .inr (.inr (bind_find_mono (haccount accountId) hstored h))

/-- The slot an old session is erased from holds that session. -/
theorem bind_find_of_slot (hwf : r.StoredWellFormed) {o : Option UInt64} {s : WorldAuthedSession}
    (hne : ((o.bind r.findSessionByKey).getD {}).sid ≠ 0)
    (hs : r.authedSessionsBySid ((o.bind r.findSessionByKey).getD {}).sid = some s) :
    o.bind r.findSessionByKey = some s := by
  cases hfound : o.bind r.findSessionByKey with
  | none => simp [hfound] at hne
  | some old =>
      simp only [hfound, Option.getD_some] at hs
      obtain ⟨key, -, hold⟩ := Option.bind_eq_some_iff.mp hfound
      obtain ⟨sid, hstored, -⟩ := findSessionByKey_eq_some_iff.mp hold
      rw [(hwf sid old hstored).1, hstored] at hs
      exact hs

/-- A bind that replaces other characters only leaves this one its session. -/
theorem HasSession.bindReplacing (h : r.HasSession c) (hwf : r.StoredWellFormed)
    {accountId charId : UInt64} {sid : UInt32}
    (hspared : ∀ s, r.Replaces accountId charId sid s → s.charId ≠ c) (serial : UInt32)
    (bytes : Vector UInt8 32) :
    (r.bindReplacing accountId charId sid serial bytes).2.HasSession c := by
  have herased : ∀ oldChar oldAccount : WorldAuthedSession,
      (oldChar.sid ≠ 0 → ∀ s, r.authedSessionsBySid oldChar.sid = some s → s.charId ≠ c) →
      (oldAccount.sid ≠ 0 → ∀ s, r.authedSessionsBySid oldAccount.sid = some s → s.charId ≠ c) →
      (r.eraseReplaced oldChar oldAccount).HasSession c := by
    intro oldChar oldAccount hchar haccount
    have hone : ∀ {r₁ : SessionRegistry} {slot : UInt32}, r₁.HasSession c →
        (∀ sid s, r₁.authedSessionsBySid sid = some s → r.authedSessionsBySid sid = some s) →
        (∀ s, r.authedSessionsBySid slot = some s → s.charId ≠ c) →
        (r₁.eraseAuthedSidNolock slot).HasSession c := by
      intro r₁ slot h₁ hsub hslot
      exact h₁.erase slot (fun s hs => hslot s (hsub slot s hs))
        (authedSessionsBySid_eraseAuthedSidNolock r₁ slot)
    simp only [SessionRegistry.eraseReplaced]
    split <;> split
    next ha hc =>
      exact hone (hone h (fun _ _ => id) (hchar hc))
        (fun _ _ => RegistryOp.stored_of_eraseAuthedSidNolock) (haccount ha.1)
    next ha _ => exact hone h (fun _ _ => id) (haccount ha.1)
    next _ hc => exact hone h (fun _ _ => id) (hchar hc)
    next => exact h
  refine HasSession.store (herased _ _ ?_ ?_) ?_
  · intro hne s hs
    exact hspared s (.inr (.inl (bind_find_of_slot hwf hne hs)))
  · intro hne s hs
    exact hspared s (.inr (.inr (bind_find_of_slot hwf hne hs)))
  · intro s hs
    exact hspared s (.inl (RegistryOp.stored_of_eraseReplaced hs))

/-- A bind keeps the session of every character it does not replace. -/
theorem HasSession.bind (h : r.HasSession c) (hwf : r.StoredWellFormed)
    {accountId charId : UInt64} {sid : UInt32}
    (hspared : ∀ s, r.Replaces accountId charId sid s → s.charId ≠ c ∨ s.charId = charId)
    (serial : UInt32) (bytes : Vector UInt8 32) :
    (r.bindAuthenticatedWorldSessionForLogin accountId charId sid serial bytes).2.HasSession c := by
  simp only [bindAuthenticatedWorldSessionForLogin]
  by_cases hc : c = charId
  · -- the new session carries the character
    subst hc
    have hnew : ∀ r' : SessionRegistry,
        (r'.bindReplacing accountId c sid serial bytes).2.HasSession c :=
      fun r' => (hasSession_store _ _).congr rfl
    split
    next => exact h
    next =>
      split
      next => exact hnew r
      next =>
        split
        next => exact h
        next => exact hnew _
  · have hother : ∀ s, r.Replaces accountId charId sid s → s.charId ≠ c := by
      intro s hs
      exact (hspared s hs).elim id fun heq hsc => hc (hsc ▸ heq)
    split
    next => exact h
    next =>
      split
      next => exact h.bindReplacing hwf hother serial bytes
      next =>
        split
        next => exact h
        next =>
          have hcleared : (r.eraseAuthedSidNolock sid).HasSession c :=
            h.erase sid (fun s hs => hother s (.inl hs))
              (authedSessionsBySid_eraseAuthedSidNolock r sid)
          exact hcleared.bindReplacing (hwf.eraseAuthedSidNolock sid)
            (fun s hs => hother s hs.of_eraseAuthedSidNolock) serial bytes

end SessionRegistry

namespace WorldRuntime

variable {A : UInt32 → UInt32 → Prop} {st st₁ st₂ : WorldRuntime} {c : UInt64}

/-! ## Ownership -/

/-- If character `c` is in the world, a session carries it. -/
def Owned (c : UInt64) (st : WorldRuntime) : Prop :=
  inWorld st.out c = true → st.reg.HasSession c

/-- No character is in the world without a session. -/
def NoGhosts (st : WorldRuntime) : Prop := ∀ c, c ≠ 0 → Owned c st

/-- What leaves the sessions alone and posts only notices changes no owner. -/
theorem Owned.congr (h : Owned c st₁)
    (hreg : st₂.reg.authedSessionsBySid = st₁.reg.authedSessionsBySid)
    (hout : ∃ os, st₂.out = st₁.out ++ os ∧ ∀ o ∈ os, o.presence = none) : Owned c st₂ := by
  obtain ⟨os, heq, hos⟩ := hout
  intro hin
  rw [heq, inWorld_append, foldl_updatePresence_of_none fun o ho v => by simp [hos o ho]] at hin
  exact (h hin).congr hreg

/-- An unbind with its cleanup leaves no character behind. -/
theorem Owned.unbindAndCleanup (h : Owned c st) (hc : c ≠ 0) (sid serial : UInt32) :
    Owned c (st.unbindAndCleanup sid serial) := by
  simp only [WorldRuntime.unbindAndCleanup, SessionRegistry.unbindAuthenticatedWorldSessionBySid]
  split
  next =>
    split
    next => exact h.congr rfl ⟨[], by simp [cleanupClosedWorldSessionActors]⟩
    next session hs =>
      split
      next => exact h.congr rfl ⟨[], by simp [cleanupClosedWorldSessionActors]⟩
      next =>
        have hkept : inWorld st.out c = true → session.charId ≠ c →
            ({ st.reg with authedSessionsBySid := st.reg.authedSessionsBySid.erase sid } :
              SessionRegistry).HasSession c := by
          intro hin hne
          refine (h hin).erase sid (fun s hs' => ?_) rfl
          rw [hs] at hs'
          exact Option.some.inj hs' ▸ hne
        simp only [cleanupClosedWorldSessionActors, ne_eq, not_true_eq_false, false_or]
        split
        next hzero =>
          intro hin
          exact (hkept hin fun heq => hc (heq ▸ hzero)).congr rfl
        next =>
          intro hin
          simp only [emit, inWorld_append, List.foldl_cons, List.foldl_nil,
            Output.updatePresence, Output.presence] at hin
          split at hin
          next => simp at hin
          next hne => exact (hkept hin hne).congr rfl
  next => exact h.congr rfl ⟨[], by simp [cleanupClosedWorldSessionActors]⟩

/-- Tidy handlers make no ghosts. -/
theorem Tidy.owned (h : Tidy A st₁ st₂) (hc : c ≠ 0) (howned : Owned c st₁) : Owned c st₂ := by
  induction h with
  | frame hreg _ hout _ =>
      obtain ⟨os, heq, hos⟩ := hout
      exact howned.congr (by rw [hreg]) ⟨os, heq, fun o ho => Output.presence_of_isNotice (hos o ho)⟩
  | stage op hst _ =>
      exact howned.congr (RegistryOp.sessions_apply_of_isStageOp _ op hst).1 ⟨[], by simp⟩
  | unbind sid serial => exact howned.unbindAndCleanup hc sid serial
  | trans _ _ ih₁ ih₂ => exact ih₂ (ih₁ howned)

/-! ## Binding, completing, reconnecting -/

/-- A snapshot result makes no ghost of `c` if the bind replaces no session of
an in-world character but that of the character it is for. -/
theorem Owned.snapshotResult (h : Owned c st) (hc : c ≠ 0) (hwf : st.reg.StoredWellFormed)
    {rr : SnapshotResult}
    (hspared : ∀ snapshot, BeginsEnter st rr snapshot → ∀ s,
      st.reg.Replaces snapshot.enterPending.accountId snapshot.enterPending.charId
        snapshot.enterPending.sid s →
      inWorld st.out s.charId = true → s.charId = snapshot.enterPending.charId)
    (topology : Option ServerTopology) (answers : EnterAnswers) :
    Owned c (st.onCharacterEnterSnapshotResult topology rr answers) := by
  obtain htidy | ⟨snapshot, f, hbegins, -, htidy⟩ :=
    onCharacterEnterSnapshotResult_cases (recordsIn_true st.flow) topology rr answers
  · exact htidy.owned hc h
  · refine htidy.owned hc fun hin => ?_
    let op : RegistryOp := .tryBegin snapshot.enterPending.sid snapshot.enterPending.serial
      snapshot.enterPending.accountId snapshot.enterPending.charId
    obtain ⟨hsids, hchars, haccounts, -⟩ :=
      RegistryOp.sessions_apply_of_isStageOp st.reg op rfl
    have hwf' := RegistryOp.storedWellFormed_apply hwf op
    refine SessionRegistry.HasSession.bind ((h hin).congr hsids) hwf' ?_ _ _
    intro s hs
    have hs' : st.reg.Replaces snapshot.enterPending.accountId snapshot.enterPending.charId
        snapshot.enterPending.sid s := by
      have hfind : (op.apply st.reg).findSessionByKey = st.reg.findSessionByKey := by
        funext key
        simp only [SessionRegistry.findSessionByKey, hsids]
      simpa only [SessionRegistry.Replaces, hsids, hchars, haccounts, hfind, op] using hs
    by_cases hsc : s.charId = c
    · exact .inr (hspared snapshot hbegins s hs' (hsc ▸ hin))
    · exact .inl hsc

/-- A promoted connection is bound to the character it enters with. -/
theorem stored_of_promoted {r : SessionRegistry} {sid serial : UInt32} {charId : UInt64}
    (h : (r.promoteEnterWorldSessionToInWorld sid serial charId).1 = true) :
    isValidSessionKey sid serial = true ∧ charId ≠ 0 ∧
      ∃ s, r.authedSessionsBySid sid = some s ∧ s.serial = serial ∧ s.charId = charId := by
  simp only [SessionRegistry.promoteEnterWorldSessionToInWorld] at h
  split_ifs at h with hvalid hstage hstored hentry
  simp only [not_or, Bool.not_eq_false] at hvalid
  refine ⟨hvalid.1, hvalid.2, ?_⟩
  cases hs : r.authedSessionsBySid sid with
  | none => simp [hs] at hstored
  | some s => exact ⟨s, rfl, by simpa [hs] using hstored⟩

/-- The announcement stores no session. -/
@[simp] theorem authedSessionsBySid_announceEnter (st : WorldRuntime)
    (enter : PendingZonePlayerEnterRequest) :
    (st.announceEnter enter).reg.authedSessionsBySid = st.reg.authedSessionsBySid := by
  have hop := (RegistryOp.sessions_apply_of_isStageOp st.reg (.promote enter.enterPending.sid
    enter.enterPending.serial enter.enterPending.charId) rfl).1
  simp only [announceEnter]
  split <;> exact hop

/-- Announcing an enter adds an owned character. -/
theorem Owned.announceEnter (h : Owned c st) {enter : PendingZonePlayerEnterRequest}
    (hpromoted : (st.reg.promoteEnterWorldSessionToInWorld enter.enterPending.sid
      enter.enterPending.serial enter.enterPending.charId).1 = true) :
    Owned c (st.announceEnter enter) := by
  obtain ⟨-, -, s, hs, -, hchar⟩ := stored_of_promoted hpromoted
  have hsids := authedSessionsBySid_announceEnter st enter
  by_cases hc : c = enter.enterPending.charId
  · intro _
    exact ⟨enter.enterPending.sid, s, by rw [hsids, hs], hchar.trans hc.symm⟩
  · intro hin
    refine (h ?_).congr hsids
    have hne : ¬ enter.enterPending.charId = c := fun heq => hc heq.symm
    simp only [WorldRuntime.announceEnter] at hin
    split at hin <;>
      simpa [emit, inWorld_append, Output.updatePresence, Output.presence, hne] using hin

/-- Taking an announced enter back posts the leave of the character it
unbinds. -/
theorem Owned.leaveAnnounced (h : Owned c st) {enter : PendingZonePlayerEnterRequest}
    (hchar : enter.enterPending.charId ≠ 0)
    (hstored : ∀ s, st.reg.authedSessionsBySid enter.enterPending.sid = some s →
      s.charId = enter.enterPending.charId) : Owned c (st.leaveAnnounced enter) := by
  intro hin
  simp only [WorldRuntime.leaveAnnounced, beginLeaveWorld, hchar, if_false, emit, inWorld_append,
    List.foldl_cons, List.foldl_nil, Output.updatePresence, Output.presence] at hin ⊢
  split at hin
  next => simp at hin
  next hne =>
    have hcancel := (RegistryOp.sessions_apply_of_isStageOp st.reg (.cancel enter.enterPending.sid
      enter.enterPending.serial enter.enterPending.charId) rfl).1
    have hkept := (h hin).congr hcancel
    simp only [RegistryOp.apply] at hcancel hkept
    simp only [SessionRegistry.unbindAuthenticatedWorldSessionBySid]
    split
    next =>
      split
      next => exact hkept
      next session hs =>
        split
        next => exact hkept
        next =>
          refine hkept.erase enter.enterPending.sid (fun s hs' => ?_) rfl
          rw [hcancel] at hs'
          exact hstored s hs' ▸ hne
    next => exact hkept

/-- A session that is given its token keeps its character. -/
theorem Owned.getOrCreate (h : Owned c st) (sid serial : UInt32) (bytes : Vector UInt8 32) :
    Owned c
      { st with reg := (st.reg.getOrCreateReconnectTokenForSession sid serial bytes).2 } := by
  simp only [SessionRegistry.getOrCreateReconnectTokenForSession]
  split
  next =>
    split
    next => exact h
    next session hs =>
      split
      next => exact h
      next =>
        intro hin
        obtain ⟨sid', s, hs', hsc⟩ := h hin
        by_cases heq : sid' = sid
        · subst heq
          obtain rfl := Option.some.inj (hs.symm.trans hs')
          exact ⟨sid', _, Table.set_self _ _ _, hsc⟩
        · exact ⟨sid', s, (Table.set_of_ne _ _ heq).trans hs', hsc⟩
  next => exact h

/-- The acknowledgement announces the character of a session, or leaves it. -/
theorem Owned.zonePlayerEnterAck (h : Owned c st) (hc : c ≠ 0) (sid serial : UInt32)
    (ack : ZonePlayerEnterAck) (notified : Bool) (bytes : Vector UInt8 32) :
    Owned c (st.onZonePlayerEnterAck sid serial ack notified bytes) := by
  obtain htidy | ⟨enter, st₁, -, -, hreg, hout, heq⟩ :=
    onZonePlayerEnterAck_cases (A := fun _ _ => True) sid serial ack notified bytes
  · exact htidy.owned hc h
  · have h₁ : Owned c st₁ := h.congr (by rw [hreg]) ⟨[], by simp [hout]⟩
    rw [heq]
    obtain ⟨-, h'⟩ | ⟨hpromoted, -, h'⟩ | ⟨hpromoted, -, h'⟩ :=
      completeEnterWorldSuccessAfterZoneAck_cases st₁ enter notified bytes
    · rw [h']
      exact h₁
    · have hannounced := h₁.announceEnter hpromoted
      rw [h']
      refine (hannounced.getOrCreate enter.enterPending.sid enter.enterPending.serial bytes).congr
        rfl ⟨[_], rfl, by simp [Output.presence]⟩
    · obtain ⟨-, hchar, s, hs, -, hsc⟩ := stored_of_promoted hpromoted
      rw [h']
      refine (tidy_failPendingEnterWorldConsumeRequest _ _ _).owned (A := fun _ _ => True) hc
        ((h₁.announceEnter hpromoted).leaveAnnounced hchar fun s' hs' => ?_)
      rw [authedSessionsBySid_announceEnter, hs] at hs'
      exact Option.some.inj hs' ▸ hsc

/-- A reconnect makes no ghost of `c` unless it overwrites its session. -/
theorem Owned.reconnectWorld (h : Owned c st) (hwf : st.reg.StoredWellFormed)
    {sid serial : UInt32} {accountId charId : UInt64} {token : String}
    (hspared : ∀ previous, st.reg.AcceptsReconnect accountId charId token sid serial previous →
      ∀ s, st.reg.authedSessionsBySid sid = some s → inWorld st.out s.charId = true →
        s.charId = charId) :
    Owned c (st.handleReconnectWorld sid serial accountId charId token) := by
  simp only [handleReconnectWorld]
  split
  next => exact h
  next =>
    obtain ⟨previous, oldKey, hacc, -, hfound, heq⟩ | ⟨hrej, heq⟩ :=
      SessionRegistry.tryReconnectWorldSession_cases st.reg accountId charId token sid serial
    · have htables := (SessionRegistry.reconnectTo_tables hwf hfound sid serial).1
      obtain ⟨oldSid, hstored, -⟩ := SessionRegistry.findSessionByKey_eq_some_iff.mp hfound
      have hprevious : st.reg.authedSessionsBySid previous.sid = some previous := by
        rw [(hwf oldSid previous hstored).1, hstored]
      -- the moved session carries `charId`; any other character in the world keeps its own
      have hkept : (c = charId ∨ inWorld st.out c = true) →
          (st.reg.reconnectTo previous oldKey sid serial).HasSession c := by
        intro hcase
        by_cases hc : c = charId
        · have hnew := SessionRegistry.hasSession_store
            (st.reg.eraseAuthedSidNolock previous.sid) { previous with sid, serial }
          rw [hc, ← hacc.char]
          exact hnew.congr htables
        · have hin := hcase.resolve_left hc
          have hother : ∀ s, st.reg.authedSessionsBySid previous.sid = some s → s.charId ≠ c := by
            intro s hs hsc
            rw [hprevious] at hs
            exact hc (hsc ▸ Option.some.inj hs ▸ hacc.char)
          have hcleared := (h hin).erase previous.sid hother
            (SessionRegistry.authedSessionsBySid_eraseAuthedSidNolock st.reg previous.sid)
          refine (hcleared.store (s := { previous with sid, serial })
            fun s hs hsc => ?_).congr htables
          have hs' := RegistryOp.stored_of_eraseAuthedSidNolock hs
          exact hc (hsc ▸ hspared previous hacc s hs' (hsc ▸ hin))
      split
      next =>
        intro hin
        rw [heq]
        exact hkept (.inr hin)
      next =>
        intro hin
        simp only [emit, inWorld_append, List.foldl_cons, List.foldl_nil, Output.updatePresence,
          Output.presence] at hin
        simp only [emit, heq]
        split at hin
        next hc => exact hkept (.inl hc.symm)
        next => exact hkept (.inr hin)
    · have hfailed : (st.reg.tryReconnectWorldSession accountId charId token sid serial).1.code ≠
          .success := by
        intro hsuccess
        obtain ⟨previous, hacc⟩ := SessionRegistry.acceptsReconnect_of_success hsuccess
        exact hrej previous hacc
      rw [if_pos hfailed]
      refine h.congr ?_ ⟨[], by simp⟩
      obtain heq | ⟨_, _, _, heq⟩ := heq <;> simp [heq]

/-! ## Runs -/

/-- A bind or a reconnect of the step drops no session of an in-world
character other than the one it is for. -/
def SparesOthers (st : WorldRuntime) : Event → Prop
  | .snapshotResult rr _ =>
      ∀ snapshot, BeginsEnter st rr snapshot → ∀ s,
        st.reg.Replaces snapshot.enterPending.accountId snapshot.enterPending.charId
          snapshot.enterPending.sid s →
        inWorld st.out s.charId = true → s.charId = snapshot.enterPending.charId
  | .netTask (.packet sid serial (.reconnectWorld accountId charId token)) _ _ =>
      .packet sid serial (.reconnectWorld accountId charId token) ∈ st.netTasks →
        ∀ previous, st.reg.AcceptsReconnect accountId charId token sid serial previous →
          ∀ s, st.reg.authedSessionsBySid sid = some s → inWorld st.out s.charId = true →
            s.charId = charId
  | _ => True

/-- The step lemma: a character in the world has a session, or a leave is on its way. -/
theorem owned_step (topology : Option ServerTopology) {e : Event} (hwf : st.reg.StoredWellFormed)
    (h : Owned c st) (hc : c ≠ 0) (hspares : SparesOthers st e) :
    Owned c (step topology st e) := by
  by_cases htidy : e.isTidy = true
  · exact (tidy_step topology (recordsIn_true st.flow) e.actsFor_true htidy).owned hc h
  · cases e with
    | accept => exact h
    | netTask task ready sent =>
        cases task with
        | packet sid serial p =>
            cases p with
            | gameplay op =>
                simp only [step, runNetTask, handlePacket, handleGameplay]
                split
                next =>
                  split <;> exact h.congr rfl ⟨[_], rfl, by simp [Output.presence]⟩
                next => exact h
            | reconnectWorld accountId charId token =>
                simp only [step, runNetTask, handlePacket, getLatestSerial, Table.set_self,
                  Option.getD_some]
                split
                next hmem =>
                  have h' : Owned c
                      { st with
                        netTasks := st.netTasks.erase
                          (.packet sid serial (.reconnectWorld accountId charId token))
                        sessionSerials := st.sessionSerials.set sid serial } := h
                  exact h'.reconnectWorld hwf (hspares hmem)
                next => exact h
            | _ => simp [Event.isTidy] at htidy
        | _ => simp [Event.isTidy] at htidy
    | snapshotResult rr answers => exact h.snapshotResult hc hwf hspares topology answers
    | zonePlayerEnterAck sid serial ack notified bytes =>
        exact h.zonePlayerEnterAck hc sid serial ack notified bytes
    | _ => simp [Event.isTidy] at htidy

/-- The step removes the last session of an in-world character only with a
leave of that character posted. -/
def CleansUp (topology : Option ServerTopology) (st : WorldRuntime) (e : Event) : Prop :=
  ∀ c, c ≠ 0 → inWorld st.out c = true → st.reg.HasSession c →
    ¬ (step topology st e).reg.HasSession c →
      ∃ o ∈ (step topology st e).out.drop st.out.length, o.presence = some (c, false)

/-- If there is no ghost after the step, the step has cleaned up. -/
theorem cleansUp_of_owned (topology : Option ServerTopology) {e : Event}
    (h : NoGhosts (step topology st e)) : CleansUp topology st e := by
  intro c hc hin _ hremoved
  obtain ⟨os, hos⟩ := exists_out_step topology st e
  have hout : inWorld (st.out ++ os) c = false := by
    rw [← hos, Bool.eq_false_iff]
    exact fun hin' => hremoved (h c hc hin')
  obtain ⟨o, ho, hleave⟩ := exists_leave_of_not_inWorld hin hout
  exact ⟨o, by simpa [hos] using ho, hleave⟩

/-- **No ghost characters**: in every run whose binds and reconnects drop no
session of another in-world character, each removal of the last session of
an in-world character posts its leave in the same step, and in no state is a
character in the world without a session. -/
theorem no_ghosts_of_sparesOthers (topology : Option ServerTopology) (es : List Event)
    (h : Along (step topology) SparesOthers initial es) :
    Along (step topology) (CleansUp topology) initial es ∧
      Always (step topology) NoGhosts initial es := by
  have hinit : initial.reg.StoredWellFormed ∧ NoGhosts initial := by
    refine ⟨SessionRegistry.storedWellFormed_initial, fun c _ hin => ?_⟩
    simp [initial, inWorld] at hin
  have hstep : ∀ st e, st.reg.StoredWellFormed ∧ NoGhosts st → SparesOthers st e →
      (step topology st e).reg.StoredWellFormed ∧ NoGhosts (step topology st e) := by
    rintro st e ⟨hwf, hno⟩ hspares
    exact ⟨storedWellFormed_step topology e hwf,
      fun c hc => owned_step topology hwf (hno c hc) hc hspares⟩
  refine ⟨along_of_along hinit hstep (fun st e hinv hspares => ?_) h, ?_⟩
  · exact cleansUp_of_owned topology (hstep st e hinv hspares).2
  · have hinv : Always (step topology)
        (fun st => st.reg.StoredWellFormed ∧ NoGhosts st) initial es :=
      always_of_along hinit hstep h
    exact hinv.imp fun _ h => h.2

/-- Character 11 is in the world on connection `(1, 1)`, and its account asks
to enter as `charId` on connection `(2, 1)`. -/
def secondLogin (charId : UInt64) : List Event :=
  zoneUp :: connect 1 1 ++ enterWorld 1 1 100 11 0 ++ connect 2 1 ++ askToEnter 2 1 100 charId 1

/-- The session of the first connection. -/
def firstSession : WorldAuthedSession :=
  ⟨100, 11, 1, 1, generateReconnectToken (.replicate 32 0)⟩

/-- The same character logs in again: its session moves to the new
connection. -/
theorem no_ghosts_secondLogin_sameCharacter :
    Along (step none) SparesOthers initial (secondLogin 11 ++ answersToEnter 100 11 1) ∧
      Along (step none) (CleansUp none) initial (secondLogin 11 ++ answersToEnter 100 11 1) ∧
      Always (step none) NoGhosts initial (secondLogin 11 ++ answersToEnter 100 11 1) := by
  have h : Along (step none) SparesOthers initial (secondLogin 11 ++ answersToEnter 100 11 1) := by
    refine (along_append _).mpr ⟨?_, ?_, trivial, trivial, trivial⟩
    · -- nobody is in the world at the first bind
      refine ⟨trivial, trivial, trivial, trivial, trivial, trivial, ?_, trivial, trivial, trivial,
        trivial, trivial, trivial, trivial, trivial⟩
      intro snapshot _ s _ hin
      exact absurd hin Bool.false_ne_true
    · -- at the second bind only the character itself has a session
      intro snapshot hbegins s hs _
      let enter : PendingEnterWorldConsumeRequest := ⟨3, 2, 1, 100, 11, "login", "ticket"⟩
      have hsnapshot : some ⟨4, enter⟩ = some snapshot := hbegins.pending
      obtain rfl := Option.some.inj hsnapshot
      rcases hs with hs | hs | hs
      · exact absurd hs.symm (Option.some_ne_none s)
      · have hfirst : some firstSession = some s := hs
        exact Option.some.inj hfirst ▸ rfl
      · have hfirst : some firstSession = some s := hs
        exact Option.some.inj hfirst ▸ rfl
  exact ⟨h, no_ghosts_of_sparesOthers none _ h⟩

/-- The kick of the first connection goes out, its timer fires, the
connection ends, and the grace timer of its close fires. -/
def kickAndClose : List Event := [.strand, .timer 0 false] ++ disconnect 1 1 ++ [.timer 1 false]

/-- The session of the second connection. -/
def secondSession : WorldAuthedSession :=
  ⟨100, 22, 2, 1, generateReconnectToken (.replicate 32 1)⟩

/-- Another character of the account logs in.  The bind drops the session of
character 11 without its leave, and when the kicked connection is closed and
nothing is left to do, character 11 is still in the world. -/
theorem ghost_secondLogin_otherCharacter :
    ¬ Along (step none) (CleansUp none) initial (secondLogin 22 ++ answersToEnter 100 22 1) ∧
      let st :=
        run (step none) initial (secondLogin 22 ++ answersToEnter 100 22 1 ++ kickAndClose)
      (st.netTasks = [] ∧ st.strand = [] ∧ st.delayed.timers = []) ∧
        inWorld st.out 11 = true ∧ ¬ st.reg.HasSession 11 := by
  -- the session of connection `(1, 1)` is stored, given its token and erased, the other stored
  let bound : Table UInt32 WorldAuthedSession :=
    (((Table.empty.set 1 firstSession).set 1 firstSession).erase 1).set 2 secondSession
  have hbound : ∀ sid s, bound sid = some s → s.charId ≠ 11 := by
    intro sid s hs
    simp only [bound, Table.set_apply, Table.erase_apply, Table.empty_apply] at hs
    split_ifs at hs
    obtain rfl := Option.some.inj hs
    decide
  refine ⟨fun h => ?_, by decide, by decide, ?_⟩
  · obtain ⟨-, hbind, -⟩ := (along_append _).mp h
    have hbefore : (run (step none) initial (secondLogin 22)).reg.HasSession 11 :=
      ⟨1, firstSession, by decide, rfl⟩
    have hafter : ¬ (run (step none) initial
        (secondLogin 22 ++ (answersToEnter 100 22 1).take 1)).reg.HasSession 11 := by
      rintro ⟨sid, s, hs, hchar⟩
      exact hbound sid s hs hchar
    obtain ⟨o, ho, hleave⟩ := hbind 11 (by decide) (by decide) hbefore hafter
    revert o
    decide
  · rintro ⟨sid, s, hs, hchar⟩
    have hs : bound.set 2 secondSession sid = some s := hs
    rw [Table.set_apply] at hs
    split at hs
    next =>
      obtain rfl := Option.some.inj hs
      exact absurd hchar (by decide)
    next => exact hbound sid s hs hchar

end WorldRuntime

end GameServer
