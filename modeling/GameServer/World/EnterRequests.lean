import GameServer.World.HandlerEffects

/-!
# GameServer.World.EnterRequests

What the handlers make of enter requests.

An enter request waits in one of four tables: for its ticket, for its
snapshot, for the assignment of its map, or for the ack of its zone.  A
handler takes it from its table, and puts it into the next one or answers it.

* `Answers` — what a handler makes of the requests it has in hand: it answers
  each at most once.
* `Silent` handlers answer nothing, `Refuses` is for enters that are not bound
  yet, and `Fails` for those that are: their connection is unbound.
-/

namespace GameServer

/-- The request an output answers, and how. -/
def Output.answer? : Output → Option (PendingEnterWorldConsumeRequest × Bool)
  | .enterWorldResult pending ok _ => some (pending, ok)
  | _ => none

/-- How many outputs answer a request id. -/
def answersTo (r : UInt64) (out : List Output) : Nat :=
  out.countP fun o => o.answer?.any (·.1.requestId = r)

/-- How many of the requests have an id. -/
def countId (r : UInt64) (ps : List PendingEnterWorldConsumeRequest) : Nat :=
  ps.countP (·.requestId = r)

namespace EnterFlow

/-- The enters that are bound and wait for a zone. -/
def boundEnters (f : EnterFlow) : List PendingEnterWorldConsumeRequest :=
  f.pendingEnterWorldFinalize.map (·.enterPending) ++
    f.pendingZonePlayerEnter.map (·.enterPending)

/-- The enters that wait for an answer. -/
def waitingEnters (f : EnterFlow) : List PendingEnterWorldConsumeRequest :=
  f.pendingEnterWorldConsume ++ f.pendingCharacterEnterSnapshot.map (·.enterPending) ++
    f.boundEnters

end EnterFlow

namespace WorldRuntime

/-- No session is bound to the connection. -/
def Unbound (reg : SessionRegistry) (sid serial : UInt32) : Prop :=
  ∀ s, reg.authedSessionsBySid sid = some s → s.serial ≠ serial

/-- No session is bound to the connection, if it is one. -/
def Gone (reg : SessionRegistry) (sid serial : UInt32) : Prop :=
  isValidSessionKey sid serial = true → Unbound reg sid serial

/-- The session of the request is in the world, and it is bound. -/
def Entered (reg : SessionRegistry) (p : PendingEnterWorldConsumeRequest) : Prop :=
  reg.worldEnterStageBySessionKey (packSessionKey p.sid p.serial) = some .inWorld ∧
    ∃ s, reg.authedSessionsBySid p.sid = some s ∧ s.serial = p.serial ∧ s.charId = p.charId

/-- The snapshot result binds the session of the enter. -/
def BindsEnter (st : WorldRuntime) (e : Event) (p : PendingEnterWorldConsumeRequest) : Prop :=
  ∃ rr answers snapshot, e = .snapshotResult rr answers ∧
    st.flow.pendingCharacterEnterSnapshot.find? (·.requestId == rr.requestId) = some snapshot ∧
    p = snapshot.enterPending ∧
    (rr.found = true ∧ rr.success = true ∧ rr.coreState.identity.valid = true) ∧
    (st.reg.tryBeginEnterWorldSession p.sid p.serial p.accountId p.charId).1.kind = .started ∧
    ((st.reg.tryBeginEnterWorldSession p.sid p.serial p.accountId
      p.charId).2.bindAuthenticatedWorldSessionForLogin p.accountId p.charId p.sid p.serial
        answers.bytes).1.kind ≠ .invalidInput

/-! ## Requests in hand -/

/-- A handler that has the requests `ps` in hand, besides those that wait: its
outputs are `ok`, and it answers no request twice. -/
structure Answers (ps : List PendingEnterWorldConsumeRequest) (ok : Output → Prop)
    (st st' : WorldRuntime) : Prop where
  out : ∃ os, st'.out = st.out ++ os ∧ (∀ o ∈ os, ok o) ∧
    ∀ r, answersTo r os + countId r st'.flow.waitingEnters ≤
      countId r st.flow.waitingEnters + countId r ps

/-- A handler that only fails enters, and leaves the connections of those it
fails unbound. -/
structure Fails (ps : List PendingEnterWorldConsumeRequest) (st st' : WorldRuntime) : Prop where
  answers : Answers ps
    (fun o => ∀ p ok, o.answer? = some (p, ok) → ok = false ∧ Gone st'.reg p.sid p.serial) st st'
  unbound : ∀ sid serial, Unbound st.reg sid serial → Unbound st'.reg sid serial

/-- A handler that answers nothing. -/
def Silent (ps : List PendingEnterWorldConsumeRequest) (st st' : WorldRuntime) : Prop :=
  Answers ps (fun o => o.answer? = none) st st'

section

variable {ps qs : List PendingEnterWorldConsumeRequest} {ok ok' : Output → Prop}
  {st st₁ st₂ st₃ : WorldRuntime} {r : UInt64}

theorem answersTo_append (os os' : List Output) :
    answersTo r (os ++ os') = answersTo r os + answersTo r os' :=
  List.countP_append

theorem countId_append (ps qs : List PendingEnterWorldConsumeRequest) :
    countId r (ps ++ qs) = countId r ps + countId r qs :=
  List.countP_append

theorem countId_le_of_sublist (h : ps.Sublist qs) : countId r ps ≤ countId r qs := h.countP_le

/-- Answers of two steps add up. -/
theorem Answers.trans (h₁ : Answers ps ok st₁ st₂) (h₂ : Answers qs ok st₂ st₃) :
    Answers (ps ++ qs) ok st₁ st₃ := by
  obtain ⟨os₁, hout₁, hok₁, hcount₁⟩ := h₁.out
  obtain ⟨os₂, hout₂, hok₂, hcount₂⟩ := h₂.out
  refine ⟨os₁ ++ os₂, by rw [hout₂, hout₁, List.append_assoc], ?_, fun r => ?_⟩
  · intro o ho
    exact (List.mem_append.mp ho).elim (hok₁ o) (hok₂ o)
  · have h₁ := hcount₁ r
    have h₂ := hcount₂ r
    rw [answersTo_append, countId_append]
    omega

theorem Answers.imp (h : Answers ps ok st₁ st₂) (himp : ∀ o, ok o → ok' o) :
    Answers ps ok' st₁ st₂ := by
  obtain ⟨os, hout, hok, hcount⟩ := h.out
  exact ⟨os, hout, fun o ho => himp o (hok o ho), hcount⟩

/-- Requests that are taken from their table are in hand. -/
theorem Answers.taken (h : Answers ps ok st₂ st₃) (hout : st₂.out = st₁.out)
    (htaken : ∀ r, countId r st₂.flow.waitingEnters + countId r ps ≤
      countId r st₁.flow.waitingEnters) : Answers [] ok st₁ st₃ := by
  obtain ⟨os, hos, hok, hcount⟩ := h.out
  refine ⟨os, hout ▸ hos, hok, fun r => ?_⟩
  have h₁ := hcount r
  have h₂ := htaken r
  have hnil : countId r [] = 0 := rfl
  omega

theorem Fails.trans (h₁ : Fails ps st₁ st₂) (h₂ : Fails qs st₂ st₃) : Fails (ps ++ qs) st₁ st₃ where
  answers := by
    refine Answers.trans (h₁.answers.imp fun o ho p ok hans => ?_) h₂.answers
    exact ⟨(ho p ok hans).1, fun hvalid => h₂.unbound _ _ ((ho p ok hans).2 hvalid)⟩
  unbound sid serial h := h₂.unbound sid serial (h₁.unbound sid serial h)

/-- Who answers nothing fails nobody. -/
theorem Silent.fails (h : Silent ps st₁ st₂)
    (hunbound : ∀ sid serial, Unbound st₁.reg sid serial → Unbound st₂.reg sid serial) :
    Fails ps st₁ st₂ where
  answers := h.imp fun o ho p ok hans => by
    rw [ho] at hans
    cases hans
  unbound := hunbound

/-- Outputs that answer nothing, and tables that hold no more than what was
in hand. -/
theorem Silent.of_tables {os : List Output} (hout : st₂.out = st₁.out ++ os)
    (hos : ∀ o ∈ os, o.answer? = none)
    (hwaiting : ∀ r, countId r st₂.flow.waitingEnters ≤
      countId r st₁.flow.waitingEnters + countId r ps) : Silent ps st₁ st₂ := by
  refine ⟨os, hout, hos, fun r => ?_⟩
  have hnone : answersTo r os = 0 := by
    refine List.countP_eq_zero.mpr fun o ho => ?_
    simp [hos o ho]
  have hr := hwaiting r
  omega

/-- No outputs, and tables that hold no more than what was in hand. -/
theorem Silent.parked (hout : st₂.out = st₁.out)
    (hwaiting : ∀ r, countId r st₂.flow.waitingEnters ≤
      countId r st₁.flow.waitingEnters + countId r ps) : Silent ps st₁ st₂ :=
  .of_tables (hout.trans (List.append_nil _).symm) (by simp) hwaiting

/-- Outputs that answer nothing, and the tables as they were. -/
theorem Silent.same {os : List Output} (hout : st₂.out = st₁.out ++ os)
    (hos : ∀ o ∈ os, o.answer? = none) (hflow : st₂.flow.waitingEnters = st₁.flow.waitingEnters) :
    Silent [] st₁ st₂ :=
  .of_tables hout hos fun r => by rw [hflow]; exact Nat.le_add_right _ _

/-- Nothing that has to do with enters. -/
theorem Silent.idle (hout : st₂.out = st₁.out)
    (hflow : st₂.flow.waitingEnters = st₁.flow.waitingEnters) : Silent [] st₁ st₂ :=
  .same (hout.trans (List.append_nil _).symm) (by simp) hflow

theorem Silent.refl (st : WorldRuntime) : Silent [] st st := .idle rfl rfl

theorem Silent.trans (h₁ : Silent ps st₁ st₂) (h₂ : Silent qs st₂ st₃) :
    Silent (ps ++ qs) st₁ st₃ :=
  Answers.trans h₁ h₂

/-- A request in hand is answered; the registry may change. -/
theorem answers_emit {p : PendingEnterWorldConsumeRequest} (b : Bool)
    (reason : EnterWorldResultCode) (hout : st₂.out = st₁.out) (hflow : st₂.flow = st₁.flow) :
    Answers [p] (fun o => ∀ q ok, o.answer? = some (q, ok) → q = p ∧ ok = b) st₁
      (st₂.emit (.enterWorldResult p b reason)) := by
  refine ⟨[.enterWorldResult p b reason], ?_, ?_, fun r => ?_⟩
  · rw [← hout]
    rfl
  · intro o ho q ok hans
    obtain rfl := List.mem_singleton.mp ho
    obtain ⟨rfl, rfl⟩ : p = q ∧ b = ok := by simpa [Output.answer?] using hans
    exact ⟨rfl, rfl⟩
  · have hone : answersTo r [.enterWorldResult p b reason] = countId r [p] := by
      simp [answersTo, countId, Output.answer?, List.countP_cons]
    rw [hone, emit, hflow]
    omega

/-- A loop that handles the request of each element. -/
theorem Fails.foldl {α : Type} {f : WorldRuntime → α → WorldRuntime} {l : List α}
    {pending : α → PendingEnterWorldConsumeRequest}
    (h : ∀ st, ∀ a ∈ l, Fails [pending a] st (f st a)) (st : WorldRuntime) :
    Fails (l.map pending) st (l.foldl f st) := by
  induction l generalizing st with
  | nil => exact (Silent.refl st).fails fun _ _ => id
  | cons a l ih =>
      have hhead := h st a List.mem_cons_self
      have htail := ih (fun st b hb => h st b (List.mem_cons_of_mem a hb)) (f st a)
      exact hhead.trans htail

end

/-! ## Tables -/

section

variable {α : Type} {r : UInt64} {key : α → UInt64} {k : UInt64}
  {pending : α → PendingEnterWorldConsumeRequest} {l : List α}

/-- An upsert adds one record at most. -/
theorem countId_map_upsertBy_le (key : α → UInt64)
    (pending : α → PendingEnterWorldConsumeRequest) (a : α) (l : List α) :
    countId r ((upsertBy key a l).map pending) ≤
      countId r (l.map pending) + countId r [pending a] := by
  have hsub : (upsertBy key a l).Sublist (l ++ [a]) := List.filter_sublist.append_right [a]
  have hle := countId_le_of_sublist (r := r) (hsub.map pending)
  rwa [List.map_append, countId_append] at hle

theorem countId_map_filter_le (pending : α → PendingEnterWorldConsumeRequest) (q : α → Bool)
    (l : List α) :
    countId r ((l.filter q).map pending) ≤ countId r (l.map pending) :=
  countId_le_of_sublist (List.filter_sublist.map pending)

/-- The records that pass a test and the others are all there are. -/
theorem countId_map_filter_add (pending : α → PendingEnterWorldConsumeRequest) (q : α → Bool)
    (l : List α) :
    countId r ((l.filter (!q ·)).map pending) + countId r ((l.filter q).map pending) =
      countId r (l.map pending) := by
  have hsplit := List.countP_eq_countP_filter_add l (fun a => (pending a).requestId = r) (!q ·)
  simp only [Bool.not_not] at hsplit
  simp only [countId, List.countP_map, Function.comp_def]
  exact hsplit.symm

theorem countId_map_filter_key (k : UInt64) (key : α → UInt64)
    (pending : α → PendingEnterWorldConsumeRequest) (l : List α) :
    countId r ((l.filter (key · ≠ k)).map pending) +
      countId r ((l.filter (key · == k)).map pending) = countId r (l.map pending) := by
  simpa [Bool.beq_eq_decide_eq] using countId_map_filter_add pending (key · == k) l

/-- What a lookup finds is one of the records under the key. -/
theorem countId_map_filter_find? (pending : α → PendingEnterWorldConsumeRequest) {a : α}
    (h : l.find? (key · == k) = some a) :
    countId r ((l.filter (key · ≠ k)).map pending) + countId r [pending a] ≤
      countId r (l.map pending) := by
  have ha : a ∈ l.filter (key · == k) :=
    List.mem_filter.mpr ⟨List.mem_of_find?_eq_some h, List.find?_some (p := (key · == k)) h⟩
  have hsub : [pending a].Sublist ((l.filter (key · == k)).map pending) :=
    List.singleton_sublist.mpr (List.mem_map_of_mem ha)
  have hle := countId_le_of_sublist (r := r) hsub
  have hall := countId_map_filter_key (r := r) k key pending l
  omega

/-- The enters that wait, table by table. -/
theorem countId_waitingEnters (f : EnterFlow) :
    countId r f.waitingEnters =
      countId r f.pendingEnterWorldConsume +
        countId r (f.pendingCharacterEnterSnapshot.map (·.enterPending)) +
        (countId r (f.pendingEnterWorldFinalize.map (·.enterPending)) +
          countId r (f.pendingZonePlayerEnter.map (·.enterPending))) := by
  simp only [EnterFlow.waitingEnters, EnterFlow.boundEnters, countId_append]

/-! A lookup takes a request from its table. -/

/-- Taking the record of a ticket request takes exactly one record of its id. -/
theorem countId_takenConsume {f : EnterFlow} {p : PendingEnterWorldConsumeRequest}
    (h : f.pendingEnterWorldConsume.find? (·.requestId == k) = some p) :
    countId r { f with
        pendingEnterWorldConsume :=
          f.pendingEnterWorldConsume.filter (·.requestId ≠ k) }.waitingEnters + countId r [p] ≤
      countId r f.waitingEnters := by
  have hle := countId_map_filter_find? (r := r) id h
  rw [countId_waitingEnters, countId_waitingEnters]
  simp only [List.map_id, id_eq] at hle ⊢
  omega

/-- Taking the record of a snapshot load takes exactly one record of its id. -/
theorem countId_takenSnapshot {f : EnterFlow} {e : PendingCharacterEnterSnapshotRequest}
    (h : f.pendingCharacterEnterSnapshot.find? (·.requestId == k) = some e) :
    countId r { f with
        pendingCharacterEnterSnapshot :=
          f.pendingCharacterEnterSnapshot.filter (·.requestId ≠ k) }.waitingEnters +
        countId r [e.enterPending] ≤
      countId r f.waitingEnters := by
  have hle := countId_map_filter_find? (r := r) (·.enterPending) h
  rw [countId_waitingEnters, countId_waitingEnters]
  dsimp only at hle ⊢
  omega

/-- Taking the record of a zone enter takes exactly one record of its id. -/
theorem countId_takenPlayerEnter {f : EnterFlow} {e : PendingZonePlayerEnterRequest}
    (h : f.pendingZonePlayerEnter.find? (·.requestId == k) = some e) :
    countId r { f with
        pendingZonePlayerEnter :=
          f.pendingZonePlayerEnter.filter (·.requestId ≠ k) }.waitingEnters +
        countId r [e.enterPending] ≤
      countId r f.waitingEnters := by
  have hle := countId_map_filter_find? (r := r) (·.enterPending) h
  rw [countId_waitingEnters, countId_waitingEnters]
  dsimp only at hle ⊢
  omega

end

/-! ## Rolling back -/

section

variable {st st₁ st₂ : WorldRuntime} {reg : SessionRegistry} {sid serial : UInt32}

/-- What acts for nobody binds nobody. -/
theorem Unbound.apply (h : Unbound reg sid serial) (op : RegistryOp)
    (hop : op.ActsFor fun _ _ => False) : Unbound (op.apply reg) sid serial :=
  fun s hs => h s (RegistryOp.stored_of_apply hop id hs)

/-- After the unbind no session is bound to the connection. -/
theorem unbound_unbindAuthenticatedWorldSessionBySid (reg : SessionRegistry)
    (hvalid : isValidSessionKey sid serial = true) :
    Unbound (reg.unbindAuthenticatedWorldSessionBySid sid serial).2 sid serial := by
  intro s hs
  simp only [SessionRegistry.unbindAuthenticatedWorldSessionBySid, hvalid, if_true] at hs
  split at hs
  next hnone =>
    rw [hnone] at hs
    cases hs
  next session hsession =>
    split at hs
    next hserial =>
      rw [hsession] at hs
      obtain rfl := Option.some.inj hs
      exact hserial
    next => simp [Table.erase_self] at hs

/-- A rollback unbinds the connection and answers nothing. -/
theorem rollbackBoundEnterWorld_effects (st : WorldRuntime) (p : PendingEnterWorldConsumeRequest)
    (leaveCtx : Option LeaveWorldContext) :
    let st' := st.rollbackBoundEnterWorld p leaveCtx
    (∃ os, st'.out = st.out ++ os ∧ ∀ o ∈ os, o.answer? = none) ∧ st'.flow = st.flow ∧
      st'.reg = RegistryOp.apply (RegistryOp.apply st.reg (.cancel p.sid p.serial p.charId))
        (.session (.unbind p.sid p.serial)) := by
  dsimp only [rollbackBoundEnterWorld]
  split
  next ctx _ =>
    simp only [beginLeaveWorld]
    split
    next => exact ⟨⟨[], by simp⟩, rfl, rfl⟩
    next => exact ⟨⟨_, rfl, by simp [Output.answer?]⟩, rfl, rfl⟩
  next =>
    simp only [cleanupClosedWorldSessionActors]
    split
    next => exact ⟨⟨[], by simp⟩, rfl, rfl⟩
    next => exact ⟨⟨_, rfl, by simp [Output.answer?]⟩, rfl, rfl⟩

/-- A request that is rolled back and reported is answered once, and its
connection is not bound any more. -/
theorem fails_rollbackBoundEnterWorld (st : WorldRuntime) (p : PendingEnterWorldConsumeRequest)
    (leaveCtx : Option LeaveWorldContext) (reason : EnterWorldResultCode) :
    Fails [p] st
      ((st.rollbackBoundEnterWorld p leaveCtx).failPendingEnterWorldConsumeRequest p reason) := by
  obtain ⟨⟨os, hout, hos⟩, hflow, hreg⟩ := rollbackBoundEnterWorld_effects st p leaveCtx
  generalize st.rollbackBoundEnterWorld p leaveCtx = st' at hout hflow hreg
  have hcancel : (st'.failPendingEnterWorldConsumeRequest p reason).reg =
      RegistryOp.apply st'.reg (.cancel p.sid p.serial p.charId) := rfl
  have hgone : Gone (st'.failPendingEnterWorldConsumeRequest p reason).reg p.sid p.serial := by
    intro hvalid
    have hunbound := unbound_unbindAuthenticatedWorldSessionBySid
      (RegistryOp.apply st.reg (.cancel p.sid p.serial p.charId)) hvalid
    rw [hcancel, hreg]
    exact hunbound.apply (.cancel p.sid p.serial p.charId) trivial
  have hrolled : Silent [] st st' := .same hout hos (by rw [hflow])
  have hfailed : Answers [p] _ st' (st'.failPendingEnterWorldConsumeRequest p reason) :=
    answers_emit false reason rfl rfl
  refine ⟨?_, fun sid serial h => ?_⟩
  · refine Answers.trans (hrolled.imp fun o ho q ok hans => ?_)
      (hfailed.imp fun o ho q ok hans => ?_)
    · exact absurd (ho.symm.trans hans) (by simp)
    · obtain ⟨rfl, rfl⟩ := ho q ok hans
      exact ⟨rfl, hgone⟩
  · rw [hcancel, hreg]
    have hcancelled := h.apply (.cancel p.sid p.serial p.charId) trivial
    have hunbound := hcancelled.apply (.session (.unbind p.sid p.serial)) trivial
    exact hunbound.apply (.cancel p.sid p.serial p.charId) trivial

theorem fails_rollbackAndFail (st : WorldRuntime) (p : PendingEnterWorldConsumeRequest)
    (reason : EnterWorldResultCode) : Fails [p] st (st.rollbackAndFail p reason) :=
  fails_rollbackBoundEnterWorld st p none reason

end

/-! ## Handing a request on -/

section

variable {st st₁ st₂ : WorldRuntime} {ps : List PendingEnterWorldConsumeRequest}

/-- Records that are dropped from the player-enter table. -/
theorem fails_dropPlayerEnter (st : WorldRuntime) (q : PendingZonePlayerEnterRequest → Bool)
    {f : EnterFlow}
    (hf : f.waitingEnters = { st.flow with
      pendingZonePlayerEnter := st.flow.pendingZonePlayerEnter.filter q }.waitingEnters) :
    Fails [] st { st with flow := f } := by
  refine Silent.fails (.parked rfl fun r => ?_) fun _ _ => id
  have hle := countId_map_filter_le (r := r) (·.enterPending) q st.flow.pendingZonePlayerEnter
  dsimp only
  rw [hf, countId_waitingEnters, countId_waitingEnters]
  dsimp only
  omega

/-- The enter is recorded again, or failed when the send fails. -/
theorem fails_finalizeEnterWorldSuccess (st : WorldRuntime) (p : PendingEnterWorldConsumeRequest)
    (assignedZoneId : UInt16) (mapTemplateId instanceId : UInt32) (coreState : CharacterCoreState)
    (sendOk : Bool) :
    Fails [p] st (st.finalizeEnterWorldSuccess p assignedZoneId mapTemplateId instanceId coreState
      sendOk) := by
  simp only [finalizeEnterWorldSuccess]
  split
  next =>
    refine Silent.fails (.parked rfl fun r => ?_) fun _ _ => id
    rw [countId_waitingEnters, countId_waitingEnters]
    dsimp only
    refine (Nat.add_le_add_left (Nat.add_le_add_left (countId_map_upsertBy_le ..) _) _).trans ?_
    split <;> dsimp only <;> omega
  next =>
    refine Fails.trans (fails_dropPlayerEnter st
      (·.requestId ≠ st.flow.nextZonePlayerEnterRequestId) ?_) (fails_rollbackAndFail _ p _)
    rfl

/-- A loop body that looks whether the enter is still pending. -/
theorem Fails.ite {q : Prop} [Decidable q] {p : PendingEnterWorldConsumeRequest}
    (h : Fails [p] st st₁) : Fails [p] st (if q then st₁ else st) := by
  split
  next => exact h
  next =>
    refine Silent.fails (.parked rfl fun r => ?_) fun _ _ => id
    exact Nat.le_add_right _ _

theorem fails_failFinalizeList (st : WorldRuntime) (list : List PendingEnterWorldFinalize)
    (reason : EnterWorldResultCode) :
    Fails (list.map (·.enterPending)) st (st.failFinalizeList list reason) :=
  Fails.foldl (fun st e _ => (fails_rollbackAndFail st e.enterPending reason).ite) st

/-- An output that answers nothing. -/
theorem Silent.emit {o : Output} (h : o.answer? = none) : Silent [] st (st.emit o) :=
  .same rfl (by simpa using h) rfl

theorem Fails.emit {o : Output} (h : o.answer? = none) : Fails [] st (st.emit o) :=
  (Silent.emit h).fails fun _ _ => id

/-- The portal transfer parked on a map-assign request comes last. -/
theorem Fails.portal {portal : Option PendingPortalTransfer}
    {f : PendingPortalTransfer → WorldRuntime} (h : Fails ps st₁ st₂)
    (hp : ∀ p, Fails [] st₂ (f p)) : Fails ps st₁ (portal.elim st₂ f) := by
  cases portal with
  | none => exact h
  | some p => simpa using h.trans (hp p)

/-- The end of a portal transfer answers no enter. -/
theorem silent_completePortalTransfer (st : WorldRuntime) (pending : PendingPortalTransfer)
    (zoneId : UInt16) (mapTemplateId instanceId : UInt32) :
    Silent [] st (st.completePortalTransfer pending zoneId mapTemplateId instanceId) := by
  simp only [completePortalTransfer]
  split
  next => exact .emit rfl
  next => split <;> exact .emit rfl

/-- It leaves the sessions as they are. -/
theorem reg_completePortalTransfer (st : WorldRuntime) (pending : PendingPortalTransfer)
    (zoneId : UInt16) (mapTemplateId instanceId : UInt32) :
    (st.completePortalTransfer pending zoneId mapTemplateId instanceId).reg = st.reg := by
  simp only [completePortalTransfer]
  split
  next => rfl
  next => split <;> rfl

/-- The enters parked on a map-assign request are in hand once they are taken
from their table. -/
theorem Fails.takenFinalize {f : EnterFlow} (id : UInt64)
    (h : Fails ((st₁.flow.pendingEnterWorldFinalize.filter (·.assignRequestId == id)).map
      (·.enterPending)) { st₁ with flow := f } st₂)
    (hf : f.waitingEnters = { st₁.flow with
      pendingEnterWorldFinalize :=
        st₁.flow.pendingEnterWorldFinalize.filter (·.assignRequestId ≠ id) }.waitingEnters) :
    Fails [] st₁ st₂ where
  answers := h.answers.taken rfl fun r => by
    have hall := countId_map_filter_key (r := r) id (·.assignRequestId) (·.enterPending)
      st₁.flow.pendingEnterWorldFinalize
    rw [hf, countId_waitingEnters, countId_waitingEnters]
    dsimp only
    omega
  unbound := h.unbound

/-- Every enter that waited for the map goes on or is answered: induction on their list. -/
theorem fails_onZoneMapAssignResponse (st : WorldRuntime) (sid serial : UInt32)
    (res : ZoneMapAssignResponse) (sendOk : UInt64 → Bool) :
    Fails [] st (st.onZoneMapAssignResponse sid serial res sendOk) := by
  have hrefl : Fails [] st st := (Silent.refl st).fails fun _ _ => id
  simp only [onZoneMapAssignResponse]
  split
  next => exact hrefl
  next assign _ =>
    split
    next => exact hrefl
    next =>
      split
      next =>
        refine Fails.takenFinalize res.requestId (Fails.portal (Fails.foldl
          (fun st e _ => fails_rollbackAndFail st e.enterPending _) _) fun p => .emit rfl) ?_
        rfl
      next =>
        split
        next =>
          refine Fails.takenFinalize res.requestId (Fails.portal
            (fails_failFinalizeList _ _ _) fun p => .emit rfl) ?_
          rfl
        next =>
          refine Fails.takenFinalize res.requestId (Fails.portal (Fails.foldl
            (fun st e _ => (fails_finalizeEnterWorldSuccess st e.enterPending _ _ _ _ _).ite) _)
            fun p => ?_) ?_
          · refine (silent_completePortalTransfer _ p _ _ _).fails fun _ _ h => ?_
            rwa [reg_completePortalTransfer]
          · rfl

end

/-! ## Losing a zone -/

section

variable {st st₁ st₂ : WorldRuntime}

theorem Fails.refl (st : WorldRuntime) : Fails [] st st := (Silent.refl st).fails fun _ _ => id

/-- A step that leaves the tables and the registry alone. -/
theorem Fails.same {os : List Output} (hout : st₂.out = st₁.out ++ os)
    (hos : ∀ o ∈ os, o.answer? = none) (hflow : st₂.flow.waitingEnters = st₁.flow.waitingEnters)
    (hreg : st₂.reg = st₁.reg) : Fails [] st₁ st₂ :=
  (Silent.same hout hos hflow).fails fun _ _ h => by rwa [hreg]

theorem Fails.idle (hout : st₂.out = st₁.out)
    (hflow : st₂.flow.waitingEnters = st₁.flow.waitingEnters) (hreg : st₂.reg = st₁.reg) :
    Fails [] st₁ st₂ :=
  .same (hout.trans (List.append_nil _).symm) (by simp) hflow hreg

/-- A loop whose passes have nothing in hand when they begin. -/
theorem Fails.loop {α : Type} {f : WorldRuntime → α → WorldRuntime} {l : List α}
    (h : ∀ st, ∀ a ∈ l, Fails [] st (f st a)) (st : WorldRuntime) : Fails [] st (l.foldl f st) :=
  foldl_of_trans Fails.refl (fun h₁ h₂ => h₁.trans h₂) h st

theorem fails_failPendingZoneAssignRequestsByZoneSid (st : WorldRuntime) (sid : UInt32) :
    Fails [] st (st.failPendingZoneAssignRequestsByZoneSid sid) := by
  refine Fails.loop (fun st assign _ => ?_) st
  refine Fails.takenFinalize assign.requestId (Fails.portal
    (fails_failFinalizeList _ _ .zoneAssignRouteLost) fun p => .emit rfl) ?_
  rfl

/-- One pass of `failZonePlayerEnters`. -/
def failZonePlayerEnter (reason : EnterWorldResultCode) (st : WorldRuntime)
    (enter : PendingZonePlayerEnterRequest) : WorldRuntime :=
  let p := enter.enterPending
  let st :=
    { st with
      flow := { st.flow with
        pendingZonePlayerEnter :=
          st.flow.pendingZonePlayerEnter.filter (·.requestId ≠ enter.requestId) } }
  if st.reg.isEnterWorldSessionPending p.sid p.serial p.charId then st.rollbackAndFail p reason
  else st

/-- The tables without the player-enter requests of a list. -/
def withoutPlayerEnters (f : EnterFlow) (l : List PendingZonePlayerEnterRequest) : EnterFlow :=
  { f with
    pendingZonePlayerEnter := f.pendingZonePlayerEnter.filter fun e =>
      l.all (·.requestId ≠ e.requestId) }

/-- A rollback does not look at the tables. -/
theorem rollbackAndFail_with_flow (st : WorldRuntime) (f : EnterFlow)
    (p : PendingEnterWorldConsumeRequest) (reason : EnterWorldResultCode) :
    { st with flow := f }.rollbackAndFail p reason =
      { st.rollbackAndFail p reason with flow := f } := by
  simp only [rollbackAndFail, failPendingEnterWorldConsumeRequest, rollbackBoundEnterWorld,
    cleanupClosedWorldSessionActors, emit]
  split <;> rfl

/-- The loop answers each request at most once, also where two have one id:
the first pass then drops both, and the second still has its own in hand. -/
theorem fails_foldl_failZonePlayerEnter (reason : EnterWorldResultCode)
    (l : List PendingZonePlayerEnterRequest) (st : WorldRuntime) :
    Fails (l.map (·.enterPending)) { st with flow := withoutPlayerEnters st.flow l }
      (l.foldl (failZonePlayerEnter reason) st) := by
  induction l generalizing st with
  | nil =>
      have hall : withoutPlayerEnters st.flow [] = st.flow := by
        simp [withoutPlayerEnters]
      rw [hall]
      exact .refl st
  | cons enter l ih =>
      have hrest := ih (failZonePlayerEnter reason st enter)
      have hflow : withoutPlayerEnters (failZonePlayerEnter reason st enter).flow l =
          withoutPlayerEnters st.flow (enter :: l) := by
        have hdrop : (failZonePlayerEnter reason st enter).flow =
            { st.flow with
              pendingZonePlayerEnter :=
                st.flow.pendingZonePlayerEnter.filter (·.requestId ≠ enter.requestId) } := by
          simp only [failZonePlayerEnter, rollbackAndFail_with_flow]
          split <;> rfl
        rw [hdrop]
        simp [withoutPlayerEnters, List.filter_filter, Bool.and_comm, eq_comm]
      have hpass : Fails [enter.enterPending]
          { st with flow := withoutPlayerEnters st.flow (enter :: l) }
          { failZonePlayerEnter reason st enter with
            flow := withoutPlayerEnters st.flow (enter :: l) } := by
        have hfails := (fails_rollbackAndFail
          { st with flow := withoutPlayerEnters st.flow (enter :: l) } enter.enterPending
          reason).ite (q := st.reg.isEnterWorldSessionPending enter.enterPending.sid
            enter.enterPending.serial enter.enterPending.charId)
        rw [rollbackAndFail_with_flow] at hfails
        simp only [failZonePlayerEnter, rollbackAndFail_with_flow]
        split
        next hpending => rwa [if_pos hpending] at hfails
        next hpending => rwa [if_neg hpending] at hfails
      rw [hflow] at hrest
      exact hpass.trans hrest

/-- Each dropped enter is answered once: induction on the list. -/
theorem fails_failZonePlayerEnters (st : WorldRuntime)
    (dropped : PendingZonePlayerEnterRequest → Bool) (reason : EnterWorldResultCode) :
    Fails [] st (st.failZonePlayerEnters dropped reason) := by
  have hloop := fails_foldl_failZonePlayerEnter reason
    (st.flow.pendingZonePlayerEnter.filter dropped) st
  refine ⟨hloop.answers.taken rfl fun r => ?_, hloop.unbound⟩
  have hkept : countId r ((withoutPlayerEnters st.flow
        (st.flow.pendingZonePlayerEnter.filter dropped)).pendingZonePlayerEnter.map
          (·.enterPending)) ≤
      countId r ((st.flow.pendingZonePlayerEnter.filter (!dropped ·)).map (·.enterPending)) := by
    -- a request that is dropped has the id of one in the list: its own
    simp only [withoutPlayerEnters, countId, List.countP_map, List.countP_filter]
    refine List.countP_mono_left fun e he hq => ?_
    simp only [Function.comp_apply, Bool.and_eq_true, List.all_eq_true, decide_eq_true_eq] at hq
    simp only [Function.comp_apply, Bool.and_eq_true, decide_eq_true_eq, Bool.not_eq_true']
    refine ⟨hq.1, Bool.eq_false_iff.mpr fun hdropped => ?_⟩
    exact hq.2 e (List.mem_filter.mpr ⟨he, hdropped⟩) rfl
  have hall := countId_map_filter_add (r := r) (·.enterPending) dropped
    st.flow.pendingZonePlayerEnter
  rw [countId_waitingEnters, countId_waitingEnters]
  simp only [withoutPlayerEnters] at hkept ⊢
  omega

/-- A lost zone answers the enters that waited for it with a failure. -/
theorem fails_loseZoneRoute (st : WorldRuntime) (sid : UInt32) :
    Fails [] st (st.loseZoneRoute sid) := by
  have hremoved : Fails [] st { st with flow := st.flow.removeMapAssignmentsByZoneSid sid } := by
    refine .idle rfl ?_ rfl
    simp only [EnterFlow.removeMapAssignmentsByZoneSid]
    split <;> rfl
  have hassigns := hremoved.trans (fails_failPendingZoneAssignRequestsByZoneSid _ sid)
  have henters := hassigns.trans
    (fails_failZonePlayerEnters _ (·.targetSid == sid) .zonePlayerEnterRouteLost)
  exact henters.trans (.idle rfl rfl rfl)

/-- Unregistering is losing the route, if there was one. -/
theorem fails_unregisterZoneRoute (st : WorldRuntime) (sid serial : UInt32) :
    Fails [] st (st.unregisterZoneRoute sid serial) := by
  simp only [unregisterZoneRoute]
  split
  next => exact .refl st
  next =>
    split
    next => exact .refl st
    next => exact fails_loseZoneRoute st sid

/-- The expiry answers every enter it drops. -/
theorem fails_expireStaleZoneRoutes (st : WorldRuntime) (routes : List UInt32)
    (enters portals : List UInt64) :
    Fails [] st (st.expireStaleZoneRoutes routes enters portals) := by
  have hroutes : Fails [] st _ :=
    .loop (l := st.flow.zoneRoutes.filter fun r => routes.contains r.sid)
      (fun st r _ => fails_loseZoneRoute st r.sid) st
  have henters := hroutes.trans
    (fails_failZonePlayerEnters _ (fun e => enters.contains e.requestId) .zonePlayerEnterTimeout)
  refine henters.trans (.loop (fun st p _ => ?_) _)
  exact .same rfl (by simp [Output.answer?]) rfl rfl

/-! ## After the bind -/

/-- Asking for a map adds no enter that waits. -/
theorem waitingEnters_assignMapInstance (f : EnterFlow) (topology : Option ServerTopology)
    (mapTemplateId instanceId : UInt32) (dungeonInstance sendOk : Bool) :
    (f.assignMapInstance topology mapTemplateId instanceId dungeonInstance sendOk).2.waitingEnters =
      f.waitingEnters := by
  simp only [EnterFlow.assignMapInstance]
  split
  next => rfl
  next =>
    split
    next => rfl
    next =>
      split
      next => rfl
      next => split <;> rfl

/-- After the bind the enter waits for its map, goes on, or is answered with a failure. -/
theorem fails_assignAfterBind (st : WorldRuntime) (topology : Option ServerTopology)
    (p : PendingEnterWorldConsumeRequest) (loaded : CharacterCoreState) (answers : EnterAnswers) :
    Fails [p] st (st.assignAfterBind topology p loaded answers) := by
  unfold assignAfterBind
  extract_lets coreState mapTemplateId assigned st₁ flow
  have hassigned : Fails [] st st₁ :=
    .idle rfl (waitingEnters_assignMapInstance ..) rfl
  refine hassigned.trans ?_
  split
  next => exact fails_finalizeEnterWorldSuccess st₁ p _ _ _ _ _
  next =>
    refine Silent.fails (.parked rfl fun r => ?_) fun _ _ => id
    rw [countId_waitingEnters, countId_waitingEnters, List.map_append, countId_append]
    simp only [List.map_singleton, flow]
    omega
  next => exact fails_rollbackAndFail st₁ p _

end

/-! ## Before the bind -/

/-- A handler that refuses enters which are not bound yet. -/
structure Refuses (ps : List PendingEnterWorldConsumeRequest) (st st' : WorldRuntime) : Prop where
  answers : Answers ps (fun o => ∀ p ok, o.answer? = some (p, ok) → ok = false) st st'
  bound : st'.flow.boundEnters = st.flow.boundEnters

section

variable {st st₁ st₂ : WorldRuntime} {p : PendingEnterWorldConsumeRequest}
  {ps qs : List PendingEnterWorldConsumeRequest}

theorem Refuses.trans (h₁ : Refuses ps st₁ st₂) {st₃ : WorldRuntime} (h₂ : Refuses qs st₂ st₃) :
    Refuses (ps ++ qs) st₁ st₃ :=
  ⟨h₁.answers.trans h₂.answers, h₂.bound.trans h₁.bound⟩

theorem Silent.refuses (h : Silent ps st₁ st₂)
    (hbound : st₂.flow.boundEnters = st₁.flow.boundEnters) : Refuses ps st₁ st₂ :=
  ⟨h.imp fun o ho p ok hans => absurd (ho.symm.trans hans) (by simp), hbound⟩

/-- A request in hand is refused; the registry may change. -/
theorem refuses_emit (reason : EnterWorldResultCode) (hout : st₁.out = st.out)
    (hflow : st₁.flow = st.flow) :
    Refuses [p] st (st₁.emit (.enterWorldResult p false reason)) := by
  refine ⟨(answers_emit false reason hout hflow).imp fun o ho q ok hans => (ho q ok hans).2, ?_⟩
  rw [emit, hflow]

/-- A refused load leaves no record; the caller answers the enter. -/
theorem refuses_requestCharacterEnterSnapshotLoad (st : WorldRuntime)
    (p : PendingEnterWorldConsumeRequest) (pushed : Bool) :
    Refuses (if (st.requestCharacterEnterSnapshotLoad p pushed).1 then [p] else []) st
      (st.requestCharacterEnterSnapshotLoad p pushed).2 := by
  simp only [requestCharacterEnterSnapshotLoad]
  split
  next =>
    refine Silent.refuses (.parked rfl fun r => ?_) rfl
    have hle := countId_map_upsertBy_le (r := r) (·.requestId) (·.enterPending)
      { requestId := st.flow.nextWorldAuthConsumeRequestId, enterPending := p }
      st.flow.pendingCharacterEnterSnapshot
    rw [countId_waitingEnters, countId_waitingEnters]
    simp only [if_true] at hle ⊢
    omega
  next =>
    refine Silent.refuses (.parked rfl fun r => ?_) rfl
    have hle := countId_map_filter_le (r := r) (·.enterPending)
      (·.requestId ≠ st.flow.nextWorldAuthConsumeRequestId) st.flow.pendingCharacterEnterSnapshot
    rw [countId_waitingEnters, countId_waitingEnters]
    simp only [Bool.false_eq_true, if_false]
    omega

/-- The enter of the answer goes on to the load or is answered with the refusal. -/
theorem refuses_onWorldAuthTicketConsumeResponse (st : WorldRuntime) (res : TicketConsumeResponse)
    (pushed : Bool) : Refuses [] st (st.onWorldAuthTicketConsumeResponse res pushed) := by
  simp only [onWorldAuthTicketConsumeResponse]
  split
  next => exact (Silent.refl st).refuses rfl
  next pending hfind =>
    generalize (if pending.charId = 0 then res.charId else pending.charId) = charId
    have htaken {st₂ : WorldRuntime} (h : Refuses [{ pending with charId }]
        { st with
          flow := { st.flow with
            pendingEnterWorldConsume :=
              st.flow.pendingEnterWorldConsume.filter (·.requestId ≠ res.requestId) } } st₂) :
        Refuses [] st st₂ := by
      -- the character id is filled in, the request id stays
      have hid (r : UInt64) : countId r [{ pending with charId }] = countId r [pending] := rfl
      refine ⟨h.answers.taken rfl fun r => ?_, h.bound⟩
      rw [hid]
      exact countId_takenConsume hfind
    refine htaken ?_
    split_ifs with hmismatch hrefused hpushed
    · exact refuses_emit _ rfl rfl
    · exact refuses_emit _ rfl rfl
    · have h := refuses_requestCharacterEnterSnapshotLoad { st with
        flow := { st.flow with
          pendingEnterWorldConsume :=
            st.flow.pendingEnterWorldConsume.filter (·.requestId ≠ res.requestId) } }
        { pending with charId } pushed
      rwa [if_pos hpushed] at h
    · have h := refuses_requestCharacterEnterSnapshotLoad { st with
        flow := { st.flow with
          pendingEnterWorldConsume :=
            st.flow.pendingEnterWorldConsume.filter (·.requestId ≠ res.requestId) } }
        { pending with charId } pushed
      rw [if_neg hpushed] at h
      exact h.trans (refuses_emit _ rfl rfl)

/-- The answer to a packet is under the id of its ticket-consume request. -/
theorem refuses_handleEnterWorldWithToken (st : WorldRuntime) {sid serial : UInt32}
    (accountId : UInt64) (loginSession worldToken : String) (ready sent : Bool)
    (hserial : serial ≠ 0) :
    ∃ p : PendingEnterWorldConsumeRequest,
      p.requestId = (if ready && sent then st.flow.nextWorldAuthConsumeRequestId else 0) ∧
        Refuses [p] st (st.handleEnterWorldWithToken sid serial accountId loginSession worldToken
          ready sent) := by
  simp only [handleEnterWorldWithToken, hserial, if_false, requestConsumeWorldAuthTicket]
  cases ready with
  | false =>
      refine ⟨_, ?_, refuses_emit _ rfl rfl⟩
      rfl
  | true =>
      cases sent with
      | false =>
          have hdrop : Refuses [] st { st with
              flow := { st.flow with
                nextWorldAuthConsumeRequestId := st.flow.nextWorldAuthConsumeRequestId + 1
                pendingEnterWorldConsume := st.flow.pendingEnterWorldConsume.filter
                  (·.requestId ≠ st.flow.nextWorldAuthConsumeRequestId) } } := by
            refine Silent.refuses (.parked rfl fun r => ?_) rfl
            have hle := countId_map_filter_le (r := r) id
              (·.requestId ≠ st.flow.nextWorldAuthConsumeRequestId) st.flow.pendingEnterWorldConsume
            rw [countId_waitingEnters, countId_waitingEnters]
            simp only [List.map_id] at hle ⊢
            omega
          refine ⟨_, ?_, hdrop.trans (refuses_emit _ rfl rfl)⟩
          rfl
      | true =>
          refine ⟨⟨st.flow.nextWorldAuthConsumeRequestId, sid, serial, accountId, 0, loginSession,
            worldToken⟩, rfl, ?_⟩
          refine Silent.refuses (.parked rfl fun r => ?_) rfl
          have hle := countId_map_upsertBy_le (r := r) (·.requestId) id
            ⟨st.flow.nextWorldAuthConsumeRequestId, sid, serial, accountId, 0, loginSession,
              worldToken⟩ st.flow.pendingEnterWorldConsume
          rw [countId_waitingEnters, countId_waitingEnters]
          simp only [List.map_id, id_eq, Bool.true_eq_false, if_false, if_true] at hle ⊢
          omega

/-- The bind changes no pending enter, emits nothing, and its result is the registry's. -/
theorem flow_bindAuthenticatedWorldSessionForLogin (st : WorldRuntime) (accountId charId : UInt64)
    (sid serial : UInt32) (bytes : Vector UInt8 32) :
    let bound := st.bindAuthenticatedWorldSessionForLogin accountId charId sid serial bytes
    bound.2.flow = st.flow ∧ bound.2.out = st.out ∧
      bound.1 = (st.reg.bindAuthenticatedWorldSessionForLogin accountId charId sid serial
        bytes).1 := by
  have hkick (st : WorldRuntime) (victim : WorldAuthedSession) (accountId charId : UInt64)
      (newSid newSerial : UInt32) :
      let st' := st.enqueueDuplicateAuthedSessionCloseIfNeeded victim accountId charId newSid
        newSerial
      st'.flow = st.flow ∧ st'.out = st.out := by
    simp only [enqueueDuplicateAuthedSessionCloseIfNeeded]
    split_ifs <;> simp
  simp only [bindAuthenticatedWorldSessionForLogin]
  split <;> split <;> simp [hkick]

/-- What it takes for a snapshot result to bind the enter of its record. -/
theorem BindsEnter.of_find? {rr : SnapshotResult} {answers : EnterAnswers}
    {snapshot : PendingCharacterEnterSnapshotRequest}
    (h : BindsEnter st (.snapshotResult rr answers) p)
    (hfind : st.flow.pendingCharacterEnterSnapshot.find? (·.requestId == rr.requestId) =
      some snapshot) :
    let pending := snapshot.enterPending
    let begun := st.reg.tryBeginEnterWorldSession pending.sid pending.serial pending.accountId
      pending.charId
    (rr.found = true ∧ rr.success = true ∧ rr.coreState.identity.valid = true) ∧
      begun.1.kind = .started ∧
        (begun.2.bindAuthenticatedWorldSessionForLogin pending.accountId pending.charId
          pending.sid pending.serial answers.bytes).1.kind ≠ .invalidInput := by
  obtain ⟨rr', answers', snapshot', heq, hfind', rfl, hgood, hstarted, hbound⟩ := h
  obtain ⟨rfl, rfl⟩ : rr = rr' ∧ answers = answers' := by simpa using heq
  rw [hfind] at hfind'
  obtain rfl := Option.some.inj hfind'
  exact ⟨hgood, hstarted, hbound⟩

/-- A snapshot result refuses an enter that is not bound, or binds it and goes
on. -/
theorem onCharacterEnterSnapshotResult_answers (st : WorldRuntime)
    (topology : Option ServerTopology) (rr : SnapshotResult) (answers : EnterAnswers) :
    let st' := st.onCharacterEnterSnapshotResult topology rr answers
    (Refuses [] st st' ∧ ∀ p, ¬ BindsEnter st (.snapshotResult rr answers) p) ∨
      Answers [] (fun o => ∀ p ok, o.answer? = some (p, ok) → ok = false ∧
        Gone st'.reg p.sid p.serial) st st' := by
  dsimp only
  unfold onCharacterEnterSnapshotResult
  split
  next hnone =>
    refine .inl ⟨(Silent.refl st).refuses rfl, ?_⟩
    rintro p ⟨rr', answers', snapshot, heq, hfind, -⟩
    obtain ⟨rfl, rfl⟩ : rr = rr' ∧ answers = answers' := by simpa using heq
    rw [hnone] at hfind
    cases hfind
  next snapshot hfind =>
    have htaken (st₁ : WorldRuntime) (hflow : st₁.flow = { st.flow with
          pendingCharacterEnterSnapshot :=
            st.flow.pendingCharacterEnterSnapshot.filter (·.requestId ≠ rr.requestId) })
        (r : UInt64) :
        countId r st₁.flow.waitingEnters + countId r [snapshot.enterPending] ≤
          countId r st.flow.waitingEnters := by
      rw [hflow]
      exact countId_takenSnapshot hfind
    have hrefused {st₁ st₂ : WorldRuntime} (h : Refuses [snapshot.enterPending] st₁ st₂)
        (hout : st₁.out = st.out) (hflow : st₁.flow = { st.flow with
          pendingCharacterEnterSnapshot :=
            st.flow.pendingCharacterEnterSnapshot.filter (·.requestId ≠ rr.requestId) }) :
        Refuses [] st st₂ :=
      ⟨h.answers.taken hout (htaken st₁ hflow), by rw [h.bound, hflow]; rfl⟩
    have hbinds (p : PendingEnterWorldConsumeRequest)
        (h : BindsEnter st (.snapshotResult rr answers) p) := h.of_find? hfind
    dsimp only
    split
    next hbad =>
      refine .inl ⟨hrefused (refuses_emit _ rfl rfl) rfl rfl, fun p hp => ?_⟩
      simp [hbinds p hp] at hbad
    next hgood =>
      split
      next hnot =>
        exact .inl ⟨hrefused (refuses_emit _ rfl rfl) rfl rfl, fun p hp => hnot (hbinds p hp).2.1⟩
      next =>
        obtain ⟨hflow, hout, hkind⟩ := flow_bindAuthenticatedWorldSessionForLogin
          { st with
            flow := { st.flow with
              pendingCharacterEnterSnapshot :=
                st.flow.pendingCharacterEnterSnapshot.filter (·.requestId ≠ rr.requestId) }
            reg := (st.reg.tryBeginEnterWorldSession snapshot.enterPending.sid
              snapshot.enterPending.serial snapshot.enterPending.accountId
              snapshot.enterPending.charId).2 }
          snapshot.enterPending.accountId snapshot.enterPending.charId snapshot.enterPending.sid
          snapshot.enterPending.serial answers.bytes
        split
        next hinvalid =>
          refine .inl ⟨hrefused (refuses_emit _ hout hflow) rfl rfl, fun p hp => ?_⟩
          rw [hkind] at hinvalid
          exact (hbinds p hp).2.2 hinvalid
        next =>
          exact .inr ((fails_assignAfterBind _ topology snapshot.enterPending rr.coreState
            answers).answers.taken hout (htaken _ hflow))

end

/-! ## After the zone has answered -/

section

variable {st : WorldRuntime} {p : PendingEnterWorldConsumeRequest}

/-- Only a bound session can be promoted. -/
theorem entered_promoteEnterWorldSessionToInWorld {reg : SessionRegistry}
    (h : (reg.promoteEnterWorldSessionToInWorld p.sid p.serial p.charId).1 = true) :
    Entered (reg.promoteEnterWorldSessionToInWorld p.sid p.serial p.charId).2 p := by
  simp only [SessionRegistry.promoteEnterWorldSessionToInWorld] at h ⊢
  split at h
  next => cases h
  next hvalid =>
    split at h
    next => cases h
    next hstage =>
      split at h
      next => cases h
      next hbound =>
        split at h
        next => cases h
        next hentry =>
          rw [if_neg hvalid, if_neg hstage, if_neg hbound, if_neg hentry]
          refine ⟨Table.set_self _ _ _, ?_⟩
          cases hs : reg.authedSessionsBySid p.sid with
          | none => simp [hs] at hbound
          | some s => exact ⟨s, rfl, by simpa [hs] using hbound⟩

/-- A token leaves the session where it is. -/
theorem Entered.getOrCreateReconnectToken {reg : SessionRegistry} (h : Entered reg p)
    (bytes : Vector UInt8 32) :
    Entered (reg.getOrCreateReconnectTokenForSession p.sid p.serial bytes).2 p := by
  obtain ⟨hstage, s, hs, hserial, hchar⟩ := h
  refine ⟨?_, ?_⟩
  · rw [(SessionRegistry.getOrCreate_stages reg p.sid p.serial bytes).1]
    exact hstage
  · simp only [SessionRegistry.getOrCreateReconnectTokenForSession, hs, hserial, ne_eq,
      not_true_eq_false, if_false]
    split
    next => exact ⟨_, Table.set_self _ _ _, rfl, hchar⟩
    next => exact ⟨s, hs, hserial, hchar⟩

theorem silent_announceEnter (st : WorldRuntime) (enter : PendingZonePlayerEnterRequest) :
    Silent [] st (st.announceEnter enter) := by
  simp only [announceEnter]
  split
  next => exact .same (List.append_assoc _ _ _) (by simp [Output.answer?]) rfl
  next => exact .same rfl (by simp [Output.answer?]) rfl

theorem reg_announceEnter (st : WorldRuntime) (enter : PendingZonePlayerEnterRequest) :
    (st.announceEnter enter).reg = (st.reg.promoteEnterWorldSessionToInWorld enter.enterPending.sid
      enter.enterPending.serial enter.enterPending.charId).2 := by
  simp only [announceEnter]
  split <;> rfl

/-- A completed enter succeeds for a session that is promoted and bound, fails
like the others, or is not answered. -/
theorem completeEnterWorldSuccessAfterZoneAck_answers (st : WorldRuntime)
    (enter : PendingZonePlayerEnterRequest) (notified : Bool) (bytes : Vector UInt8 32) :
    let p := enter.enterPending
    let st' := st.completeEnterWorldSuccessAfterZoneAck enter notified bytes
    Fails [p] st st' ∨
      (st.reg.promoteEnterWorldSessionToInWorld p.sid p.serial p.charId).1 = true ∧
        Entered st'.reg p ∧
        Answers [p] (fun o => ∀ q ok, o.answer? = some (q, ok) → q = p ∧ ok = true) st st' := by
  have hannounced := silent_announceEnter st enter
  have hpromoted := reg_announceEnter st enter
  obtain ⟨-, heq⟩ | ⟨hp, -, heq⟩ | ⟨hp, -, heq⟩ :=
    completeEnterWorldSuccessAfterZoneAck_cases st enter notified bytes
  · dsimp only
    rw [heq]
    refine .inl (Silent.fails (.parked rfl fun r => ?_) ?_)
    · exact Nat.le_add_right _ _
    · exact fun _ _ => id
  · refine .inr ⟨hp, ?_, ?_⟩
    · rw [heq]
      have hentered := entered_promoteEnterWorldSessionToInWorld hp
      rw [← hpromoted] at hentered
      exact hentered.getOrCreateReconnectToken bytes
    · rw [heq]
      refine Answers.trans (hannounced.imp fun o ho q ok hans => ?_) (answers_emit true _ rfl rfl)
      exact absurd (ho.symm.trans hans) (by simp)
  · dsimp only
    rw [heq]
    refine .inl (Fails.trans (hannounced.fails fun sid serial h s hs => h s ?_)
      (fails_rollbackBoundEnterWorld _ enter.enterPending (some _) _))
    rw [hpromoted] at hs
    rwa [← (RegistryOp.sessions_apply_of_isStageOp st.reg (.promote enter.enterPending.sid
      enter.enterPending.serial enter.enterPending.charId) rfl).1]

/-- A player-enter ack takes its request from the table and completes it,
fails it, or drops it. -/
theorem onZonePlayerEnterAck_answers (st : WorldRuntime) (sid serial : UInt32)
    (ack : ZonePlayerEnterAck) (notified : Bool) (bytes : Vector UInt8 32) :
    let st' := st.onZonePlayerEnterAck sid serial ack notified bytes
    Fails [] st st' ∨
      ∃ p : PendingEnterWorldConsumeRequest,
        (st.reg.promoteEnterWorldSessionToInWorld p.sid p.serial p.charId).1 = true ∧
          Entered st'.reg p ∧
          Answers [] (fun o => ∀ q ok, o.answer? = some (q, ok) → q = p ∧ ok = true) st st' := by
  dsimp only
  unfold onZonePlayerEnterAck
  split
  next => exact .inl (.refl st)
  next enter hfind =>
    split
    next => exact .inl (.refl st)
    next =>
      have htaken (r : UInt64) : countId r { st.flow with
          pendingZonePlayerEnter := st.flow.pendingZonePlayerEnter.filter
            (·.requestId ≠ ack.requestId) }.waitingEnters + countId r [enter.enterPending] ≤
          countId r st.flow.waitingEnters := countId_takenPlayerEnter hfind
      have hfails {st' : WorldRuntime} (h : Fails [enter.enterPending] { st with
          flow := { st.flow with
            pendingZonePlayerEnter := st.flow.pendingZonePlayerEnter.filter
              (·.requestId ≠ ack.requestId) } } st') : Fails [] st st' :=
        ⟨h.answers.taken rfl htaken, h.unbound⟩
      dsimp only
      split
      next => exact .inl (fails_dropPlayerEnter st (·.requestId ≠ ack.requestId) rfl)
      next =>
        split
        next => exact .inl (hfails (fails_rollbackAndFail _ _ _))
        next =>
          split
          next => exact .inl (hfails (fails_rollbackAndFail _ _ _))
          next =>
            obtain h | ⟨hp, hentered, hanswers⟩ :=
              completeEnterWorldSuccessAfterZoneAck_answers { st with
                flow := { st.flow with
                  pendingZonePlayerEnter := st.flow.pendingZonePlayerEnter.filter
                    (·.requestId ≠ ack.requestId) } } enter notified bytes
            · exact .inl (hfails h)
            · exact .inr ⟨enter.enterPending, hp, hentered, hanswers.taken rfl htaken⟩

end

/-! ## Closing, and the rest -/

section

variable {st : WorldRuntime}

/-- An abort only takes requests from the tables. -/
theorem waitingEnters_abortEnterWorldFlowBySession (st : WorldRuntime) (sid serial : UInt32)
    (r : UInt64) :
    countId r (st.abortEnterWorldFlowBySession sid serial).flow.waitingEnters ≤
      countId r st.flow.waitingEnters := by
  cases hvalid : isValidSessionKey sid serial with
  | false => simp [abortEnterWorldFlowBySession, hvalid]
  | true =>
      obtain ⟨hc, hs, hf, hp⟩ := flow_abortEnterWorldFlowBySession st hvalid
      have hconsume := countId_map_filter_le (r := r) id (fun p => !p.isOf sid serial)
        st.flow.pendingEnterWorldConsume
      have hsnapshot := countId_map_filter_le (r := r) (·.enterPending)
        (fun p => !p.enterPending.isOf sid serial) st.flow.pendingCharacterEnterSnapshot
      have hfinalize := countId_map_filter_le (r := r) (·.enterPending)
        (fun p => !p.enterPending.isOf sid serial) st.flow.pendingEnterWorldFinalize
      have henter := countId_map_filter_le (r := r) (·.enterPending)
        (fun p => !p.enterPending.isOf sid serial) st.flow.pendingZonePlayerEnter
      rw [countId_waitingEnters, countId_waitingEnters, hc, hs, hf, hp]
      simp only [List.map_id] at hconsume
      omega

/-- An abort drops enters without an answer; their connection is going away. -/
theorem silent_abortEnterWorldFlowBySession (st : WorldRuntime) (sid serial : UInt32) :
    Silent [] st (st.abortEnterWorldFlowBySession sid serial) := by
  have hout : (st.abortEnterWorldFlowBySession sid serial).out = st.out := by
    simp only [abortEnterWorldFlowBySession]
    split <;> simp
  refine .parked hout fun r => ?_
  have hle := waitingEnters_abortEnterWorldFlowBySession st sid serial r
  omega

/-- A closed connection gets no answer. -/
theorem silent_handleWorldSessionClosed (st : WorldRuntime) (sid serial : UInt32) :
    Silent [] st (st.handleWorldSessionClosed sid serial) := by
  obtain ⟨closeCharId, closeReason, heq⟩ := handleWorldSessionClosed_eq st sid serial
  rw [heq]
  refine .parked rfl fun r => ?_
  have hle := waitingEnters_abortEnterWorldFlowBySession st sid serial r
  dsimp only
  omega

/-- The close task answers nobody. -/
theorem silent_processWorldSessionClosedOnIo (st : WorldRuntime) (sid serial : UInt32) :
    Silent [] st (st.processWorldSessionClosedOnIo sid serial) := by
  simp only [processWorldSessionClosedOnIo, cleanupClosedWorldSessionActors]
  split
  next => exact .refl st
  next =>
    split
    next => exact .idle rfl rfl
    next => exact .same rfl (by simp [Output.answer?]) rfl

/-- The tasks of the strand close connections and answer nobody. -/
theorem silent_runStrandTask (st : WorldRuntime) (task : StrandTask) :
    Silent [] st (st.runStrandTask task) := by
  cases task with
  | close sid serial closeCharId closeReason =>
      simp only [runStrandTask, runCloseTask]
      split
      next =>
        split
        next => exact .idle rfl rfl
        next =>
          have hreleased {d : DelayedCloses} : Silent [] st { st with delayed := d } :=
            .idle rfl rfl
          exact hreleased.trans (silent_processWorldSessionClosedOnIo _ sid serial)
      next => exact silent_processWorldSessionClosedOnIo st sid serial
  | kick ctx =>
      simp only [runStrandTask, processDuplicateWorldSessionKickOnIo]
      split
      next => exact .refl st
      next =>
        have haborted := silent_abortEnterWorldFlowBySession st ctx.sid ctx.serial
        refine haborted.trans ?_
        split
        next => exact .idle rfl rfl
        next => split <;> exact .idle rfl rfl

/-- A portal transfer answers no enter. -/
theorem silent_beginPortalTransfer (st : WorldRuntime) (topology : Option ServerTopology)
    (request : PendingPortalTransfer) (assignSendOk : Bool) :
    Silent [] st (st.beginPortalTransfer topology request assignSendOk) := by
  unfold beginPortalTransfer
  extract_lets resolved assigned st₁
  have hresolved : resolved.2.waitingEnters = st.flow.waitingEnters := by
    simp only [resolved, EnterFlow.resolvePortalTargetInstanceId]
    split_ifs <;> rfl
  have hassigned : Silent [] st st₁ :=
    .idle rfl
      ((waitingEnters_assignMapInstance ..).trans hresolved)
  refine hassigned.trans ?_
  split
  next => exact .idle rfl rfl
  next =>
    split
    next => exact .refl _
    next => exact silent_completePortalTransfer _ _ _ _ _
  next => exact .refl _

/-- The packets that answer no enter. -/
theorem silent_handlePacket (st : WorldRuntime) (sid serial : UInt32) {p : ClientPacket}
    (ready sent : Bool)
    (hp : ∀ accountId loginSession worldToken,
      p ≠ .enterWorldWithToken accountId loginSession worldToken) :
    Silent [] st (st.handlePacket sid serial p ready sent) := by
  simp only [handlePacket, getLatestSerial, Table.set_self, Option.getD_some]
  cases p with
  | enterWorldWithToken accountId loginSession worldToken => exact absurd rfl (hp _ _ _)
  | logoutWorld logoutType =>
      simp only [handleLogoutWorld]
      split
      next => exact .idle rfl rfl
      next => split <;> exact .idle rfl rfl
  | reconnectWorld accountId charId token =>
      simp only [handleReconnectWorld]
      split
      next => exact .idle rfl rfl
      next =>
        split
        next => exact .idle rfl rfl
        next => exact .same rfl (by simp [Output.answer?]) rfl
  | gameplay op =>
      simp only [handleGameplay]
      split <;> exact .same rfl (by simp [Output.answer?]) rfl

end

end WorldRuntime

end GameServer
