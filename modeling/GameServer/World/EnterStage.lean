import GameServer.World.RegistryIndex

/-!
# GameServer.World.EnterStage

The enter-world stage of a connection and the character its pending enter
is for are two views of one fact: a connection is in stage `EnterPending`
exactly if one character's pending entry names it (`StagesAgree`).

The tables are keyed differently — the stage by connection, the pending
entry by character — and two operations update them by one key only:

* a cancel erases the stage of the connection and the entry of the
  *character it is given*, which need not be the pending one;
* a reconnect moves a connection that is itself in the middle of an enter
  to `InWorld` and clears the entries of the *previous* connection only.

`stagesAgree_run_iff` says that nothing else goes wrong: along a run the
views agree throughout precisely if no cancel and no reconnect of the run
does that.
-/

namespace GameServer

namespace SessionRegistry

/-! ## The invariant -/

/-- The two views of a pending enter agree: a connection has stage
`EnterPending` iff exactly one character's pending entry names it, and
every pending entry names such a connection. -/
structure StagesAgree (r : SessionRegistry) : Prop where
  pending_iff : ∀ key, r.worldEnterStageBySessionKey key = some .enterPending ↔
    ∃! c, r.pendingEnterSessionKeyByCharId c = some key
  stage_of_entry : ∀ c key, r.pendingEnterSessionKeyByCharId c = some key →
    r.worldEnterStageBySessionKey key = some .enterPending

/-- Pending entries are for real characters and valid connections.  No
operation breaks this one. -/
def PendingWellFormed (r : SessionRegistry) : Prop :=
  ∀ c key, r.pendingEnterSessionKeyByCharId c = some key →
    c ≠ 0 ∧ ∃ sid serial, isValidSessionKey sid serial = true ∧ key = packSessionKey sid serial

theorem stagesAgree_initial : initial.StagesAgree := by
  constructor
  · intro key
    simp [initial, ExistsUnique]
  · intro c key h
    simp [initial] at h

theorem pendingWellFormed_initial : initial.PendingWellFormed := by
  intro c key h
  simp [initial] at h

/-- The stage fixes the character: two entries never name one connection. -/
theorem StagesAgree.entry_unique {r : SessionRegistry} (h : r.StagesAgree) {c c' key : UInt64}
    (hc : r.pendingEnterSessionKeyByCharId c = some key)
    (hc' : r.pendingEnterSessionKeyByCharId c' = some key) : c = c' :=
  ((h.pending_iff key).mp (h.stage_of_entry c key hc)).unique hc hc'

theorem StagesAgree.no_entry {r : SessionRegistry} (h : r.StagesAgree) {key : UInt64}
    (hstage : r.worldEnterStageBySessionKey key ≠ some .enterPending) (c : UInt64) :
    r.pendingEnterSessionKeyByCharId c ≠ some key :=
  fun hc => hstage (h.stage_of_entry c key hc)

/-- The agreement reads the two stage tables only. -/
theorem StagesAgree.congr {r r' : SessionRegistry} (h : r.StagesAgree)
    (hstage : r'.worldEnterStageBySessionKey = r.worldEnterStageBySessionKey)
    (hpend : r'.pendingEnterSessionKeyByCharId = r.pendingEnterSessionKeyByCharId) :
    r'.StagesAgree := by
  constructor
  · rw [hstage, hpend]
    exact h.pending_iff
  · rw [hstage, hpend]
    exact h.stage_of_entry

/-- **Clearing rule**: a step that ends a pending enter of `key` in both
views and touches no other connection keeps the agreement. -/
theorem StagesAgree.clear {r r' : SessionRegistry} (h : r.StagesAgree) (key : UInt64)
    (hstage : ∀ k, k ≠ key → (r'.worldEnterStageBySessionKey k = some .enterPending ↔
      r.worldEnterStageBySessionKey k = some .enterPending))
    (hpend : ∀ c k, k ≠ key → (r'.pendingEnterSessionKeyByCharId c = some k ↔
      r.pendingEnterSessionKeyByCharId c = some k))
    (hstage' : r'.worldEnterStageBySessionKey key ≠ some .enterPending)
    (hpend' : ∀ c, r'.pendingEnterSessionKeyByCharId c ≠ some key) : r'.StagesAgree := by
  constructor
  · intro k
    by_cases hk : k = key
    · subst hk
      exact iff_of_false hstage' fun ⟨c, hc, _⟩ => hpend' c hc
    · rw [hstage k hk, h.pending_iff k]
      simp only [hpend _ k hk]
  · intro c k hc
    have hk : k ≠ key := by
      rintro rfl
      exact hpend' c hc
    exact (hstage k hk).mpr (h.stage_of_entry c k ((hpend c k hk).mp hc))

/-! ## One operation at a time -/

/-- The stage and pending tables after a begin, and when it starts. -/
theorem tryBeginEnterWorldSession_cases (r : SessionRegistry) (sid serial : UInt32)
    (accountId charId : UInt64) :
    (r.tryBeginEnterWorldSession sid serial accountId charId).2 = r ∨
      (isValidSessionKey sid serial = true ∧ charId ≠ 0 ∧
        r.worldEnterStageBySessionKey (packSessionKey sid serial) ≠ some .enterPending ∧
        (r.tryBeginEnterWorldSession sid serial accountId charId).2 =
          { r with
            worldEnterStageBySessionKey :=
              r.worldEnterStageBySessionKey.set (packSessionKey sid serial) .enterPending
            pendingEnterSessionKeyByCharId :=
              r.pendingEnterSessionKeyByCharId.set charId (packSessionKey sid serial) } ∧
        (r.pendingEnterSessionKeyByCharId charId = none ∨
          r.pendingEnterSessionKeyByCharId charId = some (packSessionKey sid serial))) := by
  have hentry : ∀ key, ¬ (r.pendingEnterSessionKeyByCharId charId).any (· != key) = true →
      r.pendingEnterSessionKeyByCharId charId = none ∨
        r.pendingEnterSessionKeyByCharId charId = some key := by
    intro key h
    cases hp : r.pendingEnterSessionKeyByCharId charId with
    | none => exact .inl rfl
    | some k =>
        simp [hp] at h
        exact .inr (congrArg some h)
  simp only [tryBeginEnterWorldSession]
  split
  next => exact .inl rfl
  next hin =>
    simp only [not_or, Bool.not_eq_false] at hin
    obtain ⟨hvalid, -, hchar⟩ := hin
    split
    next => exact .inl rfl
    next => exact .inl rfl
    next => exact .inl rfl
    next hnone =>
      split
      next => exact .inl rfl
      next hp => exact .inr ⟨hvalid, hchar, by simp [hnone], rfl, hentry _ hp⟩
    next hnone =>
      split
      next => exact .inl rfl
      next hp => exact .inr ⟨hvalid, hchar, by simp [hnone], rfl, hentry _ hp⟩

/-- A begin stores its stage and its pending entry together. -/
theorem StagesAgree.tryBegin {r : SessionRegistry} (h : r.StagesAgree) (sid serial : UInt32)
    (accountId charId : UInt64) :
    (r.tryBeginEnterWorldSession sid serial accountId charId).2.StagesAgree := by
  obtain heq | ⟨-, -, hstage, heq, hp⟩ :=
    tryBeginEnterWorldSession_cases r sid serial accountId charId <;> rw [heq]
  · exact h
  · -- the connection had no pending enter, so the character had no entry at all
    have hnone := h.no_entry hstage
    have hfree : r.pendingEnterSessionKeyByCharId charId = none := by
      cases hp with
      | inl hp => exact hp
      | inr hp => exact absurd hp (hnone charId)
    have hentry : ∀ c k, r.pendingEnterSessionKeyByCharId.set charId (packSessionKey sid serial) c =
        some k ↔ (c = charId ∧ k = packSessionKey sid serial) ∨
          r.pendingEnterSessionKeyByCharId c = some k := by
      intro c k
      rw [Table.set_apply]
      grind
    constructor
    · intro k
      simp only [hentry]
      rw [Table.set_apply]
      by_cases hk : k = packSessionKey sid serial
      · subst hk
        simp only [hnone, or_false, and_true, if_true, true_iff]
        exact ⟨charId, rfl, fun c hc => hc⟩
      · simp only [hk, if_false, and_false, false_or]
        exact h.pending_iff k
    · intro c k hc
      rw [hentry] at hc
      dsimp only
      rw [Table.set_apply]
      split
      next => rfl
      next hk =>
        cases hc with
        | inl hc => exact absurd hc.2 hk
        | inr hc => exact h.stage_of_entry c k hc

/-- **Cancel and the stages**: a cancel keeps the agreement precisely if,
whenever it ends a pending enter, it is given the character of that enter. -/
theorem stagesAgree_cancel_iff {r : SessionRegistry} (h : r.StagesAgree)
    (hwf : r.PendingWellFormed) (sid serial : UInt32) (charId : UInt64) :
    (r.cancelPendingEnterWorldSession sid serial charId).StagesAgree ↔
      (isValidSessionKey sid serial = true →
        r.worldEnterStageBySessionKey (packSessionKey sid serial) = some .enterPending →
        r.pendingEnterSessionKeyByCharId charId = some (packSessionKey sid serial)) := by
  simp only [cancelPendingEnterWorldSession]
  split
  next hvalid =>
    have hpend : ∀ c k, (if charId ≠ 0 then r.pendingEnterSessionKeyByCharId.eraseMatching charId
          (packSessionKey sid serial) else r.pendingEnterSessionKeyByCharId) c = some k ↔
        r.pendingEnterSessionKeyByCharId c = some k ∧
          ¬(c = charId ∧ k = packSessionKey sid serial) := by
      intro c k
      split
      next => exact Table.eraseMatching_eq_some_iff
      next hzero =>
        refine ⟨fun hc => ⟨hc, ?_⟩, And.left⟩
        rintro ⟨rfl, -⟩
        exact hzero (hwf c k hc).1
    constructor
    · intro h' _ hstage
      by_contra hne
      obtain ⟨c, hc, -⟩ := (h.pending_iff _).mp hstage
      have hc' := (hpend c _).mpr ⟨hc, fun hcc => hne (hcc.1 ▸ hc)⟩
      have hgone := h'.stage_of_entry c _ hc'
      simp [Table.eraseMatching_eq_some_iff] at hgone
    · intro hok
      refine h.clear (packSessionKey sid serial) ?_ ?_ ?_ ?_
      · intro k hk
        simp [Table.eraseMatching_eq_some_iff, hk]
      · intro c k hk
        simp only [hpend, hk, and_false, not_false_eq_true, and_true]
      · simp [Table.eraseMatching_eq_some_iff]
      · intro c hc
        obtain ⟨hc, hne⟩ := (hpend c _).mp hc
        have hchar := hok hvalid (h.stage_of_entry c _ hc)
        exact hne ⟨h.entry_unique hc hchar, rfl⟩
  next hvalid => exact iff_of_true h fun hv => absurd hv hvalid

/-- A promotion takes the pending entry and leaves the stage in the world. -/
theorem StagesAgree.promote {r : SessionRegistry} (h : r.StagesAgree) (sid serial : UInt32)
    (charId : UInt64) : (r.promoteEnterWorldSessionToInWorld sid serial charId).2.StagesAgree := by
  simp only [promoteEnterWorldSessionToInWorld]
  split_ifs with hin hstage hauth hpend <;> try exact h
  rw [ne_eq, not_not] at hstage
  rw [ne_eq, not_not] at hpend
  have herase : ∀ c k, r.pendingEnterSessionKeyByCharId.erase charId c = some k ↔
      r.pendingEnterSessionKeyByCharId c = some k ∧ k ≠ packSessionKey sid serial := by
    intro c k
    rw [Table.erase_eq_some_iff]
    constructor
    · rintro ⟨hc, hk⟩
      refine ⟨hk, ?_⟩
      rintro rfl
      exact hc (h.entry_unique hk hpend)
    · rintro ⟨hk, hne⟩
      refine ⟨?_, hk⟩
      rintro rfl
      exact hne (Option.some.inj (hk.symm.trans hpend))
  refine h.clear (packSessionKey sid serial) ?_ ?_ ?_ ?_
  · intro k hk
    simp [Table.set_of_ne _ _ hk]
  · intro c k hk
    simp [herase, hk]
  · simp
  · intro c hc
    exact ((herase c _).mp hc).2 rfl

/-- Setting the stage of `key` to something else than pending and erasing
every entry that names it ends a pending enter. -/
theorem StagesAgree.clearWhere {r r' : SessionRegistry} (h : r.StagesAgree) (key : UInt64)
    (hstage : ∀ k, k ≠ key → r'.worldEnterStageBySessionKey k = r.worldEnterStageBySessionKey k)
    (hstage' : r'.worldEnterStageBySessionKey key ≠ some .enterPending)
    (hpend : r'.pendingEnterSessionKeyByCharId =
      r.pendingEnterSessionKeyByCharId.eraseWhere (· == key)) : r'.StagesAgree := by
  refine h.clear key ?_ ?_ hstage' ?_
  · intro k hk
    rw [hstage k hk]
  · intro c k hk
    simp [hpend, Table.eraseWhere_eq_some_iff, hk]
  · intro c hc
    rw [hpend, Table.eraseWhere_eq_some_iff] at hc
    simp at hc

/-- An abort takes both. -/
theorem StagesAgree.abort {r : SessionRegistry} (h : r.StagesAgree) (sid serial : UInt32) :
    (r.abortEnterWorldStage sid serial).StagesAgree := by
  simp only [abortEnterWorldStage]
  split
  next =>
    refine h.clearWhere (packSessionKey sid serial) ?_ ?_ rfl
    · exact fun k hk => Table.set_of_ne _ _ hk
    · simp
  next => exact h

/-- An unbind clears the stage and the pending entry of its session. -/
theorem StagesAgree.unbind {r : SessionRegistry} (h : r.StagesAgree) (sid serial : UInt32) :
    (r.unbindAuthenticatedWorldSessionBySid sid serial).2.StagesAgree := by
  simp only [unbindAuthenticatedWorldSessionBySid]
  split
  next =>
    split
    next => exact h
    next =>
      split
      next => exact h
      next =>
        refine h.clearWhere (packSessionKey sid serial) ?_ ?_ rfl
        · exact fun k hk => Table.erase_of_ne _ hk
        · simp
  next => exact h

/-- After the abort the connection has no entry left, so marking it closing
and dropping its stage changes nothing that matters. -/
theorem StagesAgree.close {r : SessionRegistry} (h : r.StagesAgree) (hwf : r.PendingWellFormed)
    (sid serial : UInt32) : (r.closeEnterWorldStage sid serial).StagesAgree := by
  by_cases hvalid : isValidSessionKey sid serial = true
  · have hentries : (r.closeEnterWorldStage sid serial).pendingEnterSessionKeyByCharId =
        r.pendingEnterSessionKeyByCharId.eraseWhere (· == packSessionKey sid serial) := by
      simp only [closeEnterWorldStage, markEnterWorldSessionClosing, abortEnterWorldStage, hvalid,
        if_true]
      split
      next => rfl
      next s hs =>
        split
        next => rw [Table.eraseMatching, if_neg (by simp [Table.eraseWhere_eq_some_iff])]
        next => rfl
    refine h.clearWhere (packSessionKey sid serial) ?_ ?_ hentries
    · intro k hk
      simp [closeEnterWorldStage, markEnterWorldSessionClosing, abortEnterWorldStage, hvalid,
        Table.erase_of_ne _ hk, Table.set_of_ne _ _ hk]
    · simp [closeEnterWorldStage]
  · -- an invalid connection has no pending enter
    have hnone : ∀ c, r.pendingEnterSessionKeyByCharId c ≠ some (packSessionKey sid serial) := by
      intro c hc
      obtain ⟨-, sid', serial', hv, hkey⟩ := hwf c _ hc
      obtain ⟨rfl, rfl⟩ := packSessionKey_inj.mp hkey
      exact hvalid hv
    simp only [closeEnterWorldStage, markEnterWorldSessionClosing, abortEnterWorldStage, hvalid,
      Bool.false_eq_true, if_false]
    refine h.clear (packSessionKey sid serial) ?_ (fun c k _ => Iff.rfl) ?_ hnone
    · intro k hk
      simp [Table.erase_of_ne _ hk]
    · simp

/-- **Reconnect and the stages**: moving a session to `(sid, serial)` keeps
the agreement precisely if that connection is the same one or is not itself
in the middle of an enter. -/
theorem stagesAgree_reconnectTo_iff {r : SessionRegistry} (h : r.StagesAgree)
    (previous : WorldAuthedSession) (oldKey : UInt64) (sid serial : UInt32) :
    (r.reconnectTo previous oldKey sid serial).StagesAgree ↔
      oldKey = packSessionKey sid serial ∨
        r.worldEnterStageBySessionKey (packSessionKey sid serial) ≠ some .enterPending := by
  constructor
  · intro h'
    by_contra hbad
    simp only [not_or, ne_eq, not_not] at hbad
    obtain ⟨hne, hstage⟩ := hbad
    obtain ⟨c, hc, -⟩ := (h.pending_iff _).mp hstage
    have hkept : (r.reconnectTo previous oldKey sid serial).pendingEnterSessionKeyByCharId c =
        some (packSessionKey sid serial) :=
      Table.eraseWhere_of_eq_some hc (by simpa using fun heq => hne heq.symm)
    have hstage' := h'.stage_of_entry c _ hkept
    simp [reconnectTo] at hstage'
  · intro hok
    -- first the previous connection loses its stage and entries, then the new one gets `InWorld`
    have hold : ({ r with
        worldEnterStageBySessionKey := r.worldEnterStageBySessionKey.erase oldKey
        pendingEnterSessionKeyByCharId :=
          r.pendingEnterSessionKeyByCharId.eraseWhere (· == oldKey) } :
          SessionRegistry).StagesAgree :=
      h.clearWhere oldKey (fun k hk => Table.erase_of_ne _ hk) (by simp) rfl
    refine hold.clear (packSessionKey sid serial) ?_ ?_ ?_ ?_
    · intro k hk
      simp [reconnectTo, storeAuthedSession, Table.set_of_ne _ _ hk]
    · intro c k _
      exact Iff.rfl
    · simp [reconnectTo]
    · intro c hc
      obtain ⟨hc, hne⟩ := Table.eraseWhere_eq_some_iff.mp hc
      cases hok with
      | inl heq => simp [heq] at hne
      | inr hstage => exact hstage (h.stage_of_entry c _ hc)

/-! ## Pending entries stay well formed -/

/-- Entries only disappear, unless a begin adds one. -/
theorem PendingWellFormed.mono {r r' : SessionRegistry} (h : r.PendingWellFormed)
    (hsub : ∀ c k, r'.pendingEnterSessionKeyByCharId c = some k →
      r.pendingEnterSessionKeyByCharId c = some k) : r'.PendingWellFormed :=
  fun c k hc => h c k (hsub c k hc)

/-- A begin is refused for a key that is not valid. -/
theorem PendingWellFormed.tryBegin {r : SessionRegistry} (h : r.PendingWellFormed)
    (sid serial : UInt32) (accountId charId : UInt64) :
    (r.tryBeginEnterWorldSession sid serial accountId charId).2.PendingWellFormed := by
  obtain heq | ⟨hvalid, hchar, -, heq, -⟩ :=
    tryBeginEnterWorldSession_cases r sid serial accountId charId <;> rw [heq]
  · exact h
  · intro c k hc
    simp only [Table.set_apply] at hc
    split at hc
    next hcc =>
      obtain rfl := Option.some.inj hc
      exact ⟨hcc ▸ hchar, sid, serial, hvalid, rfl⟩
    next => exact h c k hc

@[simp] theorem pending_eraseIndexEntries (r : SessionRegistry) (s : WorldAuthedSession)
    (key : UInt64) : (r.eraseIndexEntries s key).pendingEnterSessionKeyByCharId =
      r.pendingEnterSessionKeyByCharId := rfl

@[simp] theorem stage_eraseIndexEntries (r : SessionRegistry) (s : WorldAuthedSession)
    (key : UInt64) : (r.eraseIndexEntries s key).worldEnterStageBySessionKey =
      r.worldEnterStageBySessionKey := rfl

@[simp] theorem pending_eraseAuthedSidNolock (r : SessionRegistry) (sid : UInt32) :
    (r.eraseAuthedSidNolock sid).pendingEnterSessionKeyByCharId =
      r.pendingEnterSessionKeyByCharId := by
  simp only [eraseAuthedSidNolock]
  split <;> rfl

@[simp] theorem stage_eraseAuthedSidNolock (r : SessionRegistry) (sid : UInt32) :
    (r.eraseAuthedSidNolock sid).worldEnterStageBySessionKey =
      r.worldEnterStageBySessionKey := by
  simp only [eraseAuthedSidNolock]
  split <;> rfl

/-- A bind leaves the stage tables alone. -/
theorem bind_stages (r : SessionRegistry) (accountId charId : UInt64) (sid serial : UInt32)
    (bytes : Vector UInt8 32) :
    let r' := (r.bindAuthenticatedWorldSessionForLogin accountId charId sid serial bytes).2
    r'.worldEnterStageBySessionKey = r.worldEnterStageBySessionKey ∧
      r'.pendingEnterSessionKeyByCharId = r.pendingEnterSessionKeyByCharId := by
  have hrepl : ∀ (r : SessionRegistry) oldChar oldAccount,
      (r.eraseReplaced oldChar oldAccount).worldEnterStageBySessionKey =
          r.worldEnterStageBySessionKey ∧
        (r.eraseReplaced oldChar oldAccount).pendingEnterSessionKeyByCharId =
          r.pendingEnterSessionKeyByCharId := by
    intro r oldChar oldAccount
    simp only [eraseReplaced]
    split <;> split <;> simp
  simp only [bindAuthenticatedWorldSessionForLogin]
  split
  next => exact ⟨rfl, rfl⟩
  next =>
    split
    next => exact hrepl r _ _
    next =>
      split
      next => exact ⟨rfl, rfl⟩
      next =>
        obtain ⟨hs, hp⟩ := hrepl (r.eraseAuthedSidNolock sid) _ _
        exact ⟨hs.trans (stage_eraseAuthedSidNolock r sid),
          hp.trans (pending_eraseAuthedSidNolock r sid)⟩

/-- The token call leaves the stage tables alone. -/
theorem getOrCreate_stages (r : SessionRegistry) (sid serial : UInt32) (bytes : Vector UInt8 32) :
    let r' := (r.getOrCreateReconnectTokenForSession sid serial bytes).2
    r'.worldEnterStageBySessionKey = r.worldEnterStageBySessionKey ∧
      r'.pendingEnterSessionKeyByCharId = r.pendingEnterSessionKeyByCharId := by
  simp only [getOrCreateReconnectTokenForSession]
  split
  next =>
    split
    next => exact ⟨rfl, rfl⟩
    next => split <;> exact ⟨rfl, rfl⟩
  next => exact ⟨rfl, rfl⟩

end SessionRegistry

/-! ## Runs -/

/-- The operations of the enter-world handlers on the tables, with arbitrary
arguments.  `close` is what `HandleWorldSessionClosed` does; it is the only
caller of `MarkEnterWorldSessionClosing`. -/
inductive RegistryOp where
  | session (op : SessionOp)
  | tryBegin (sid serial : UInt32) (accountId charId : UInt64)
  | cancel (sid serial : UInt32) (charId : UInt64)
  | promote (sid serial : UInt32) (charId : UInt64)
  | abort (sid serial : UInt32)
  | close (sid serial : UInt32)
  | markCloseReason (sid serial : UInt32) (reason : WorldSessionCloseReason)

namespace RegistryOp

open SessionRegistry

def apply (r : SessionRegistry) : RegistryOp → SessionRegistry
  | session op => op.apply r
  | tryBegin sid serial accountId charId =>
      (r.tryBeginEnterWorldSession sid serial accountId charId).2
  | cancel sid serial charId => r.cancelPendingEnterWorldSession sid serial charId
  | promote sid serial charId => (r.promoteEnterWorldSessionToInWorld sid serial charId).2
  | abort sid serial => r.abortEnterWorldStage sid serial
  | close sid serial => r.closeEnterWorldStage sid serial
  | markCloseReason sid serial reason => r.markWorldSessionCloseReason sid serial reason

/-- A cancel of a connection with a pending enter is given the character of
that enter, and an accepted reconnect goes to the session's own connection
or to one without a pending enter. -/
def KeepsStages (r : SessionRegistry) : RegistryOp → Prop
  | cancel sid serial charId =>
      isValidSessionKey sid serial = true →
        r.worldEnterStageBySessionKey (packSessionKey sid serial) = some .enterPending →
        r.pendingEnterSessionKeyByCharId charId = some (packSessionKey sid serial)
  | session (.reconnect accountId charId token sid serial) =>
      ∀ previous, r.AcceptsReconnect accountId charId token sid serial previous →
        previous.key = packSessionKey sid serial ∨
          r.worldEnterStageBySessionKey (packSessionKey sid serial) ≠ some .enterPending
  | _ => True

/-- The invariants that every operation keeps. -/
def WellFormed (r : SessionRegistry) : Prop := r.StoredWellFormed ∧ r.PendingWellFormed

/-- One case for each operation on the registry. -/
theorem storedWellFormed_apply {r : SessionRegistry} (h : r.StoredWellFormed) (op : RegistryOp) :
    (op.apply r).StoredWellFormed := by
  have hsame : ∀ r' : SessionRegistry, r'.authedSessionsBySid = r.authedSessionsBySid →
      r'.StoredWellFormed := by
    intro r' heq sid s hs
    rw [heq] at hs
    exact h sid s hs
  cases op with
  | session op => exact SessionOp.storedWellFormed_apply h op
  | tryBegin sid serial accountId charId =>
      simp only [apply]
      obtain heq | ⟨-, -, -, heq, -⟩ :=
        tryBeginEnterWorldSession_cases r sid serial accountId charId <;> rw [heq]
      · exact h
      · exact h
  | cancel sid serial charId =>
      simp only [apply, cancelPendingEnterWorldSession]
      split <;> exact h
  | promote sid serial charId =>
      simp only [apply, promoteEnterWorldSessionToInWorld]
      split_ifs <;> exact h
  | abort sid serial =>
      simp only [apply, abortEnterWorldStage]
      split <;> exact h
  | close sid serial =>
      refine hsame _ ?_
      simp only [apply, closeEnterWorldStage, abortEnterWorldStage, markEnterWorldSessionClosing]
      split <;> rfl
  | markCloseReason sid serial reason =>
      simp only [apply, markWorldSessionCloseReason]
      split <;> exact h

/-- Only a begin adds a pending entry. -/
theorem pending_of_apply {r : SessionRegistry} {op : RegistryOp}
    (hop : ∀ sid serial accountId charId, op ≠ .tryBegin sid serial accountId charId)
    {c key : UInt64} (h : (op.apply r).pendingEnterSessionKeyByCharId c = some key) :
    r.pendingEnterSessionKeyByCharId c = some key := by
  have hwhere : ∀ {p : UInt64 → Bool}, r.pendingEnterSessionKeyByCharId.eraseWhere p c = some key →
      r.pendingEnterSessionKeyByCharId c = some key :=
    fun hc => (Table.eraseWhere_eq_some_iff.mp hc).1
  have hmatch : ∀ {t : Table UInt64 UInt64} {c₀ k₀}, t.eraseMatching c₀ k₀ c = some key →
      t c = some key :=
    fun hc => (Table.eraseMatching_eq_some_iff.mp hc).1
  cases op with
  | session op =>
      cases op with
      | bind accountId charId sid serial bytes =>
          rwa [apply, SessionOp.apply, (bind_stages r accountId charId sid serial bytes).2] at h
      | unbind sid serial =>
          simp only [apply, SessionOp.apply, unbindAuthenticatedWorldSessionBySid] at h
          split at h
          next =>
            split at h
            next => exact h
            next =>
              split at h
              next => exact h
              next => exact hwhere h
          next => exact h
      | getOrCreateReconnectToken sid serial bytes =>
          rwa [apply, SessionOp.apply, (getOrCreate_stages r sid serial bytes).2] at h
      | reconnect accountId charId token sid serial =>
          simp only [apply, SessionOp.apply] at h
          obtain ⟨_, _, _, _, _, heq⟩ | ⟨_, heq | ⟨_, _, _, heq⟩⟩ :=
            tryReconnectWorldSession_cases r accountId charId token sid serial <;> rw [heq] at h
          · exact hwhere h
          · exact h
          · exact h
  | tryBegin sid serial accountId charId => exact absurd rfl (hop sid serial accountId charId)
  | cancel sid serial charId =>
      simp only [apply, cancelPendingEnterWorldSession] at h
      split at h
      next =>
        dsimp only at h
        split at h
        next => exact hmatch h
        next => exact h
      next => exact h
  | promote sid serial charId =>
      simp only [apply, promoteEnterWorldSessionToInWorld] at h
      split_ifs at h <;> try exact h
      exact (Table.erase_eq_some_iff.mp h).2
  | abort sid serial =>
      simp only [apply, abortEnterWorldStage] at h
      split at h
      next => exact hwhere h
      next => exact h
  | close sid serial =>
      simp only [apply, closeEnterWorldStage, markEnterWorldSessionClosing,
        abortEnterWorldStage] at h
      split at h
      next =>
        cases hs : r.authedSessionsBySid sid with
        | none =>
            simp only [hs] at h
            exact hwhere h
        | some s =>
            simp only [hs] at h
            split at h
            next => exact hwhere (hmatch h)
            next => exact hwhere h
      next => exact h
  | markCloseReason sid serial reason =>
      simp only [apply, markWorldSessionCloseReason] at h
      split at h <;> exact h

/-- Only a begin adds a pending entry. -/
theorem pendingWellFormed_apply {r : SessionRegistry} (h : r.PendingWellFormed)
    (op : RegistryOp) : (op.apply r).PendingWellFormed := by
  by_cases hbegin : ∃ sid serial accountId charId, op = .tryBegin sid serial accountId charId
  · obtain ⟨sid, serial, accountId, charId, rfl⟩ := hbegin
    exact h.tryBegin sid serial accountId charId
  · refine h.mono fun c k hc => pending_of_apply ?_ hc
    intro sid serial accountId charId heq
    exact hbegin ⟨sid, serial, accountId, charId, heq⟩

/-- One operation keeps the agreement of the two views precisely if
`KeepsStages` holds of it. -/
theorem stagesAgree_apply_iff {r : SessionRegistry} (hwf : WellFormed r) (h : r.StagesAgree)
    (op : RegistryOp) : (op.apply r).StagesAgree ↔ op.KeepsStages r := by
  cases op with
  | session op =>
      cases op with
      | bind accountId charId sid serial bytes =>
          obtain ⟨hs, hp⟩ := bind_stages r accountId charId sid serial bytes
          exact iff_of_true (h.congr hs hp) trivial
      | unbind sid serial => exact iff_of_true (h.unbind sid serial) trivial
      | getOrCreateReconnectToken sid serial bytes =>
          obtain ⟨hs, hp⟩ := getOrCreate_stages r sid serial bytes
          exact iff_of_true (h.congr hs hp) trivial
      | reconnect accountId charId token sid serial =>
          simp only [apply, SessionOp.apply, KeepsStages]
          obtain ⟨previous, oldKey, hacc, hkey, hfound, heq⟩ | ⟨hrej, heq | ⟨_, _, _, heq⟩⟩ :=
            tryReconnectWorldSession_cases r accountId charId token sid serial <;> rw [heq]
          · obtain ⟨sid', hs, href⟩ := findSessionByKey_eq_some_iff.mp hfound
            have hold : previous.key = oldKey := by
              rw [← href, WorldAuthedSession.key, sessionRef, (hwf.1 sid' previous hs).1]
            rw [stagesAgree_reconnectTo_iff h, ← hold]
            exact (hacc.forall_iff fun p => p.key = packSessionKey sid serial ∨
              r.worldEnterStageBySessionKey (packSessionKey sid serial) ≠ some .enterPending).symm
          · exact iff_of_true h fun p hp => absurd hp (hrej p)
          · exact iff_of_true (h.congr rfl rfl) fun p hp => absurd hp (hrej p)
  | tryBegin sid serial accountId charId =>
      exact iff_of_true (h.tryBegin sid serial accountId charId) trivial
  | cancel sid serial charId => exact stagesAgree_cancel_iff h hwf.2 sid serial charId
  | promote sid serial charId => exact iff_of_true (h.promote sid serial charId) trivial
  | abort sid serial => exact iff_of_true (h.abort sid serial) trivial
  | close sid serial => exact iff_of_true (h.close hwf.2 sid serial) trivial
  | markCloseReason sid serial reason =>
      refine iff_of_true ?_ trivial
      simp only [apply, markWorldSessionCloseReason]
      split
      next => exact h.congr rfl rfl
      next => exact h

end RegistryOp

namespace SessionRegistry

/-- **Enter-world stage invariant**: the stage and the pending entries agree
in every state of a run precisely if no cancel of the run ends the pending
enter of another character, and no reconnect of it lands on a connection
with a pending enter. -/
theorem stagesAgree_run_iff (ops : List RegistryOp) :
    Always RegistryOp.apply StagesAgree initial ops ↔
      Along RegistryOp.apply (fun r op => op.KeepsStages r) initial ops := by
  refine always_iff_along (W := RegistryOp.WellFormed) ?_ stagesAgree_initial ?_ ?_
  · exact ⟨storedWellFormed_initial, pendingWellFormed_initial⟩
  · intro r op h
    exact ⟨RegistryOp.storedWellFormed_apply h.1 op, RegistryOp.pendingWellFormed_apply h.2 op⟩
  · intro r op hwf h
    exact RegistryOp.stagesAgree_apply_iff hwf h op

end SessionRegistry

end GameServer
