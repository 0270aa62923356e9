import GameServer.World.EnterStage

/-!
# GameServer.World.RegistryEffects

What an operation of the registry can do to connections it does not act for.

`RegistryOp.ActsFor A` — the operation binds, begins, promotes, reconnects
or gives a token only to connections in `A`.  Whatever such operations do, a
session or a pending or in-world stage of a connection outside `A` was there
before (`stored_of_run`, `stage_of_run`).
-/

namespace GameServer

/-! ## Registry operations on behalf of connections -/

namespace RegistryOp

open SessionRegistry

variable {A : UInt32 → UInt32 → Prop} {r : SessionRegistry} {op : RegistryOp}

/-- The connection an operation binds, begins, promotes, reconnects or gives
a token is in `A`; the other operations act for nobody. -/
def ActsFor (A : UInt32 → UInt32 → Prop) : RegistryOp → Prop
  | session (.bind _ _ sid serial _) => A sid serial
  | session (.reconnect _ _ _ sid serial) => A sid serial
  | session (.getOrCreateReconnectToken sid serial _) => A sid serial
  | tryBegin sid serial _ _ => A sid serial
  | promote sid serial _ => A sid serial
  | _ => True

/-- An operation on the stage tables only. -/
def isStageOp : RegistryOp → Bool
  | session _ => false
  | _ => true

/-- Stage operations leave the stored sessions and their indices alone. -/
theorem sessions_apply_of_isStageOp (r : SessionRegistry) (op : RegistryOp)
    (hop : op.isStageOp = true) :
    (op.apply r).authedSessionsBySid = r.authedSessionsBySid ∧
      (op.apply r).authedSessionKeyByCharId = r.authedSessionKeyByCharId ∧
      (op.apply r).authedSessionKeyByAccountId = r.authedSessionKeyByAccountId ∧
      (op.apply r).reconnectSessionKeyByToken = r.reconnectSessionKeyByToken := by
  cases op with
  | session op => simp [isStageOp] at hop
  | tryBegin sid serial accountId charId =>
      simp only [apply]
      obtain heq | ⟨-, -, -, heq, -⟩ :=
        tryBeginEnterWorldSession_cases r sid serial accountId charId <;> simp [heq]
  | cancel sid serial charId =>
      simp only [apply, cancelPendingEnterWorldSession]
      split <;> simp
  | promote sid serial charId =>
      simp only [apply, promoteEnterWorldSessionToInWorld]
      split_ifs <;> simp
  | abort sid serial =>
      simp only [apply, abortEnterWorldStage]
      split <;> simp
  | close sid serial =>
      simp only [apply, closeEnterWorldStage, abortEnterWorldStage, markEnterWorldSessionClosing]
      split <;> simp
  | markCloseReason sid serial reason =>
      simp only [apply, markWorldSessionCloseReason]
      split <;> simp

/-! ### Stored sessions -/

theorem stored_of_eraseAuthedSidNolock {victim sid : UInt32} {s : WorldAuthedSession}
    (h : (r.eraseAuthedSidNolock victim).authedSessionsBySid sid = some s) :
    r.authedSessionsBySid sid = some s := by
  rw [authedSessionsBySid_eraseAuthedSidNolock] at h
  exact (Table.erase_eq_some_iff.mp h).2

/-- What is left after the erase was there before. -/
theorem stored_of_eraseReplaced {oldChar oldAccount : WorldAuthedSession} {sid : UInt32}
    {s : WorldAuthedSession}
    (h : (r.eraseReplaced oldChar oldAccount).authedSessionsBySid sid = some s) :
    r.authedSessionsBySid sid = some s := by
  simp only [eraseReplaced] at h
  split at h <;> split at h
  · exact stored_of_eraseAuthedSidNolock (stored_of_eraseAuthedSidNolock h)
  · exact stored_of_eraseAuthedSidNolock h
  · exact stored_of_eraseAuthedSidNolock h
  · exact h

/-- A stored session is the new one or an old one. -/
theorem stored_of_storeAuthedSession {s t : WorldAuthedSession} {sid : UInt32}
    (hne : ¬ (t.sid = sid ∧ t.serial = s.serial))
    (h : (r.storeAuthedSession t).authedSessionsBySid sid = some s) :
    r.authedSessionsBySid sid = some s := by
  simp only [storeAuthedSession, Table.set_apply] at h
  split at h
  next heq =>
    obtain rfl := Option.some.inj h
    exact absurd ⟨heq.symm, rfl⟩ hne
  next => exact h

theorem stored_of_bindReplacing {accountId charId : UInt64} {sid serial sid' : UInt32}
    {bytes : Vector UInt8 32} {s : WorldAuthedSession} (hne : ¬ (sid = sid' ∧ serial = s.serial))
    (h : (r.bindReplacing accountId charId sid serial bytes).2.authedSessionsBySid sid' = some s) :
    r.authedSessionsBySid sid' = some s :=
  stored_of_eraseReplaced (stored_of_storeAuthedSession hne h)

/-- A session of a connection outside `A` was stored before, just so. -/
theorem stored_of_apply (hop : op.ActsFor A) {sid : UInt32} {s : WorldAuthedSession}
    (hA : ¬ A sid s.serial) (h : (op.apply r).authedSessionsBySid sid = some s) :
    r.authedSessionsBySid sid = some s := by
  have hne : ∀ {sid₁ serial₁}, A sid₁ serial₁ → ¬ (sid₁ = sid ∧ serial₁ = s.serial) := by
    rintro sid₁ serial₁ h₁ ⟨rfl, rfl⟩
    exact hA h₁
  by_cases hst : op.isStageOp = true
  · rwa [(sessions_apply_of_isStageOp r op hst).1] at h
  · cases op with
    | session op =>
        cases op with
        | bind accountId charId sid₁ serial₁ bytes =>
            simp only [apply, SessionOp.apply, bindAuthenticatedWorldSessionForLogin] at h
            split at h
            next => exact h
            next =>
              split at h
              next => exact stored_of_bindReplacing (hne hop) h
              next =>
                split at h
                next => exact h
                next =>
                  exact stored_of_eraseAuthedSidNolock (stored_of_bindReplacing (hne hop) h)
        | unbind sid₁ serial₁ =>
            simp only [apply, SessionOp.apply, unbindAuthenticatedWorldSessionBySid] at h
            split at h
            next =>
              split at h
              next => exact h
              next =>
                split at h
                next => exact h
                next => exact (Table.erase_eq_some_iff.mp h).2
            next => exact h
        | getOrCreateReconnectToken sid₁ serial₁ bytes =>
            simp only [apply, SessionOp.apply, getOrCreateReconnectTokenForSession] at h
            split at h
            next =>
              split at h
              next => exact h
              next s₁ hs₁ =>
                split at h
                next => exact h
                next hserial =>
                  simp only [Table.set_apply] at h
                  split at h
                  next heq =>
                    obtain rfl := Option.some.inj h
                    exact absurd ⟨heq.symm, (not_not.mp hserial).symm⟩ (hne hop)
                  next => exact h
            next => exact h
        | reconnect accountId charId token sid₁ serial₁ =>
            simp only [apply, SessionOp.apply] at h
            obtain ⟨previous, oldKey, _, _, _, heq⟩ | ⟨_, heq | ⟨_, _, _, heq⟩⟩ :=
              tryReconnectWorldSession_cases r accountId charId token sid₁ serial₁ <;> rw [heq] at h
            · have hstored := stored_of_storeAuthedSession
                (t := { previous with sid := sid₁, serial := serial₁ }) (hne hop) h
              exact (Table.erase_eq_some_iff.mp hstored).2
            · exact h
            · exact h
    | _ => simp [isStageOp] at hst

/-! ### Stages -/

/-- Whatever stage a connection outside `A` has, it had it before, unless it
was just marked closing. -/
theorem stage_of_apply (hop : op.ActsFor A) {sid serial : UInt32} {v : WorldEnterStage}
    (hA : ¬ A sid serial) (hv : v ≠ .closing)
    (h : (op.apply r).worldEnterStageBySessionKey (packSessionKey sid serial) = some v) :
    r.worldEnterStageBySessionKey (packSessionKey sid serial) = some v := by
  have hne : ∀ {sid₁ serial₁}, A sid₁ serial₁ →
      packSessionKey sid serial ≠ packSessionKey sid₁ serial₁ := by
    intro sid₁ serial₁ h₁ heq
    obtain ⟨rfl, rfl⟩ := packSessionKey_inj.mp heq
    exact hA h₁
  generalize packSessionKey sid serial = key at h hne ⊢
  have hclosing : ∀ (t : Table UInt64 WorldEnterStage) (key k : UInt64),
      t.set key .closing k = some v → t k = some v := by
    intro t key k hk
    rw [Table.set_apply] at hk
    split at hk
    · exact absurd (Option.some.inj hk).symm hv
    · exact hk
  cases op with
  | session op =>
      cases op with
      | bind accountId charId sid₁ serial₁ bytes =>
          rwa [apply, SessionOp.apply, (bind_stages r accountId charId sid₁ serial₁ bytes).1] at h
      | unbind sid₁ serial₁ =>
          simp only [apply, SessionOp.apply, unbindAuthenticatedWorldSessionBySid] at h
          split at h
          next =>
            split at h
            next => exact h
            next =>
              split at h
              next => exact h
              next => exact (Table.erase_eq_some_iff.mp h).2
          next => exact h
      | getOrCreateReconnectToken sid₁ serial₁ bytes =>
          rwa [apply, SessionOp.apply, (getOrCreate_stages r sid₁ serial₁ bytes).1] at h
      | reconnect accountId charId token sid₁ serial₁ =>
          simp only [apply, SessionOp.apply] at h
          obtain ⟨previous, oldKey, _, _, _, heq⟩ | ⟨_, heq | ⟨_, _, _, heq⟩⟩ :=
            tryReconnectWorldSession_cases r accountId charId token sid₁ serial₁ <;> rw [heq] at h
          · simp only [reconnectTo, storeAuthedSession, Table.set_of_ne _ _ (hne hop)] at h
            exact (Table.erase_eq_some_iff.mp h).2
          · exact h
          · exact h
  | tryBegin sid₁ serial₁ accountId charId =>
      simp only [apply] at h
      obtain heq | ⟨_, _, _, heq, _⟩ :=
        tryBeginEnterWorldSession_cases r sid₁ serial₁ accountId charId <;> rw [heq] at h
      · exact h
      · simpa only [Table.set_of_ne _ _ (hne hop)] using h
  | cancel sid₁ serial₁ charId =>
      simp only [apply, cancelPendingEnterWorldSession] at h
      split at h
      next => exact (Table.eraseMatching_eq_some_iff.mp h).1
      next => exact h
  | promote sid₁ serial₁ charId =>
      simp only [apply, promoteEnterWorldSessionToInWorld] at h
      split_ifs at h <;> try exact h
      simpa only [Table.set_of_ne _ _ (hne hop)] using h
  | abort sid₁ serial₁ =>
      simp only [apply, abortEnterWorldStage] at h
      split at h
      next => exact hclosing _ _ _ h
      next => exact h
  | close sid₁ serial₁ =>
      simp only [apply, closeEnterWorldStage, markEnterWorldSessionClosing,
        abortEnterWorldStage] at h
      have h := (Table.erase_eq_some_iff.mp h).2
      split at h
      next => exact hclosing _ _ _ (hclosing _ _ _ h)
      next => exact h
  | markCloseReason sid₁ serial₁ reason =>
      simp only [apply, markWorldSessionCloseReason] at h
      split at h <;> exact h

/-- A pending entry that names a connection outside `A` was there before. -/
theorem entry_of_apply (hop : op.ActsFor A) {sid serial : UInt32} {c : UInt64}
    (hA : ¬ A sid serial)
    (h : (op.apply r).pendingEnterSessionKeyByCharId c = some (packSessionKey sid serial)) :
    r.pendingEnterSessionKeyByCharId c = some (packSessionKey sid serial) := by
  by_cases hbegin : ∃ sid₁ serial₁ accountId charId,
      op = .tryBegin sid₁ serial₁ accountId charId
  · obtain ⟨sid₁, serial₁, accountId, charId, rfl⟩ := hbegin
    simp only [apply] at h
    obtain heq | ⟨_, _, _, heq, _⟩ :=
      tryBeginEnterWorldSession_cases r sid₁ serial₁ accountId charId <;> rw [heq] at h
    · exact h
    · simp only [Table.set_apply] at h
      split at h
      next =>
        obtain ⟨rfl, rfl⟩ := packSessionKey_inj.mp (Option.some.inj h)
        exact absurd hop hA
      next => exact h
  · refine pending_of_apply ?_ h
    intro sid₁ serial₁ accountId charId heq
    exact hbegin ⟨sid₁, serial₁, accountId, charId, heq⟩

/-! ### Sequences of operations -/

variable {ops : List RegistryOp}

theorem stored_of_run (hops : ∀ op ∈ ops, op.ActsFor A) {sid : UInt32} {s : WorldAuthedSession}
    (hA : ¬ A sid s.serial) (h : (run apply r ops).authedSessionsBySid sid = some s) :
    r.authedSessionsBySid sid = some s :=
  run_backward (P := fun r : SessionRegistry => r.authedSessionsBySid sid = some s)
    (fun _ op hop => stored_of_apply (hops op hop) hA) h

/-- Over a run for others no stage of the connection is made: induction on the operations. -/
theorem stage_of_run (hops : ∀ op ∈ ops, op.ActsFor A) {sid serial : UInt32}
    {v : WorldEnterStage} (hA : ¬ A sid serial) (hv : v ≠ .closing)
    (h : (run apply r ops).worldEnterStageBySessionKey (packSessionKey sid serial) = some v) :
    r.worldEnterStageBySessionKey (packSessionKey sid serial) = some v :=
  run_backward
    (P := fun r : SessionRegistry =>
      r.worldEnterStageBySessionKey (packSessionKey sid serial) = some v)
    (fun _ op hop => stage_of_apply (hops op hop) hA hv) h

/-- Nor a pending entry. -/
theorem entry_of_run (hops : ∀ op ∈ ops, op.ActsFor A) {sid serial : UInt32} {c : UInt64}
    (hA : ¬ A sid serial)
    (h : (run apply r ops).pendingEnterSessionKeyByCharId c = some (packSessionKey sid serial)) :
    r.pendingEnterSessionKeyByCharId c = some (packSessionKey sid serial) :=
  run_backward
    (P := fun r : SessionRegistry =>
      r.pendingEnterSessionKeyByCharId c = some (packSessionKey sid serial))
    (fun _ op hop => entry_of_apply (hops op hop) hA) h

end RegistryOp

end GameServer
