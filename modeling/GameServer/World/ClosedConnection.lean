import GameServer.World.HandlerEffects

/-!
# GameServer.World.ClosedConnection

A closed connection never enters the world.

`HandleWorldSessionClosed` drops every pending record of the connection, in
the four tables of the protocol and in the pending entries of the stage
tables.  From then on no answer of another process finds a record to go on
with: whatever the handlers do, they do for other connections.  Only the
connection's own packets could change that — an enter request, which the
theorem excludes, and a reconnect, which is not an answer to an earlier
request.
-/

namespace GameServer

namespace WorldRuntime

variable {sid serial : UInt32} {st : WorldRuntime}

/-- Every connection but `(sid, serial)`. -/
def Others (sid serial sid' serial' : UInt32) : Prop := ¬ (sid' = sid ∧ serial' = serial)

theorem not_others_self : ¬ Others sid serial sid serial := fun h => h ⟨rfl, rfl⟩

/-- No pending enter-world record belongs to the connection, and no
character's pending entry names it. -/
structure NoRecords (sid serial : UInt32) (st : WorldRuntime) : Prop where
  records : RecordsIn (Others sid serial) st.flow
  entries : ∀ c, st.reg.pendingEnterSessionKeyByCharId c ≠ some (packSessionKey sid serial)

/-- A step does not let the connection into the world: it neither binds it
nor moves its stage to `EnterPending` or `InWorld`. -/
structure NotEntered (sid serial : UInt32) (st st' : WorldRuntime) : Prop where
  bound : ∀ s, st'.reg.authedSessionsBySid sid = some s → s.serial = serial →
    st.reg.authedSessionsBySid sid = some s
  pending : st'.reg.worldEnterStageBySessionKey (packSessionKey sid serial) = some .enterPending →
    st.reg.worldEnterStageBySessionKey (packSessionKey sid serial) = some .enterPending
  inWorld : st'.reg.worldEnterStageBySessionKey (packSessionKey sid serial) = some .inWorld →
    st.reg.worldEnterStageBySessionKey (packSessionKey sid serial) = some .inWorld

/-- The task of an enter request of `(sid, serial)` is run. -/
def Event.isEnterRequestOf (sid serial : UInt32) : Event → Bool
  | .netTask (.packet sid' serial' (.enterWorldWithToken ..)) _ _ =>
      sid' == sid && serial' == serial
  | _ => false

/-- The task of a reconnect of `(sid, serial)` is run. -/
def Event.isReconnectOf (sid serial : UInt32) : Event → Bool
  | .netTask (.packet sid' serial' (.reconnectWorld ..)) _ _ => sid' == sid && serial' == serial
  | _ => false

/-! ## One step -/

/-- What works for other connections lets this one neither in nor leaves a
record of it behind. -/
theorem HandledFor.notEntered {st' : WorldRuntime}
    (h : HandledFor (Others sid serial) st st') : NotEntered sid serial st st' := by
  obtain ⟨ops, hreg, hops⟩ := h.reg
  refine ⟨fun s hs hserial => ?_, fun hst => ?_, fun hst => ?_⟩
  · rw [hreg] at hs
    exact RegistryOp.stored_of_run hops (hserial ▸ not_others_self) hs
  · rw [hreg] at hst
    exact RegistryOp.stage_of_run hops not_others_self (by simp) hst
  · rw [hreg] at hst
    exact RegistryOp.stage_of_run hops not_others_self (by simp) hst

theorem HandledFor.noRecords {st' : WorldRuntime} (h : HandledFor (Others sid serial) st st')
    (hno : NoRecords sid serial st) : NoRecords sid serial st' := by
  obtain ⟨ops, hreg, hops⟩ := h.reg
  refine ⟨h.records hno.records, fun c hc => ?_⟩
  rw [hreg] at hc
  exact hno.entries c (RegistryOp.entry_of_run hops not_others_self hc)

/-- An event that is no enter request and no reconnect of the connection acts for others. -/
theorem actsFor_others {e : Event} (henter : e.isEnterRequestOf sid serial = false)
    (hreconnect : e.isReconnectOf sid serial = false) : e.ActsFor (Others sid serial) := by
  cases e with
  | netTask task ready sent =>
      cases task with
      | packet sid' serial' p =>
          cases p with
          | enterWorldWithToken accountId loginSession worldToken =>
              rintro ⟨rfl, rfl⟩
              simp [Event.isEnterRequestOf] at henter
          | reconnectWorld accountId charId token =>
              rintro ⟨rfl, rfl⟩
              simp [Event.isReconnectOf] at hreconnect
          | _ => trivial
      | _ => trivial
  | _ => trivial

/-- A step that is not the connection's own enter request or reconnect works
for other connections, or not on the registry at all. -/
theorem step_others (topology : Option ServerTopology) {e : Event} (hno : NoRecords sid serial st)
    (henter : e.isEnterRequestOf sid serial = false)
    (hreconnect : e.isReconnectOf sid serial = false) :
    NoRecords sid serial (step topology st e) ∧
      NotEntered sid serial st (step topology st e) := by
  by_cases he : e = .accept ∨ e.isGameplay = true
  · obtain ⟨hreg, hflow, -⟩ := step_of_accept_or_gameplay topology st he
    refine ⟨⟨hflow ▸ hno.records, hreg ▸ hno.entries⟩, ?_⟩
    constructor <;> rw [hreg]
    · exact fun s hs _ => hs
    · exact id
    · exact id
  · simp only [not_or, Bool.not_eq_true] at he
    have hstep := handledFor_step topology hno.records (actsFor_others henter hreconnect) he.1 he.2
    exact ⟨hstep.noRecords hno, hstep.notEntered⟩

/-- A reconnect leaves no pending record behind either. -/
theorem noRecords_step_of_isReconnectOf (topology : Option ServerTopology) {e : Event}
    (hno : NoRecords sid serial st) (he : e.isReconnectOf sid serial = true) :
    NoRecords sid serial (step topology st e) := by
  cases e with
  | netTask task ready sent =>
      cases task with
      | packet sid' serial' p =>
          cases p with
          | reconnectWorld accountId charId token =>
              simp only [step, runNetTask, handlePacket, getLatestSerial, Table.set_self,
                Option.getD_some, handleReconnectWorld]
              have hentries : ∀ c, ((RegistryOp.session (.reconnect accountId charId token sid'
                  serial')).apply st.reg).pendingEnterSessionKeyByCharId c ≠
                    some (packSessionKey sid serial) :=
                fun c hc => hno.entries c (RegistryOp.pending_of_apply (by simp) hc)
              split
              next =>
                split
                next => exact ⟨hno.records, hno.entries⟩
                next => split <;> exact ⟨hno.records, hentries⟩
              next => exact hno
          | _ => simp [Event.isReconnectOf] at he
      | _ => simp [Event.isReconnectOf] at he
  | _ => simp [Event.isReconnectOf] at he

theorem noRecords_step (topology : Option ServerTopology) {e : Event}
    (hno : NoRecords sid serial st) (henter : e.isEnterRequestOf sid serial = false) :
    NoRecords sid serial (step topology st e) := by
  cases hreconnect : e.isReconnectOf sid serial with
  | true => exact noRecords_step_of_isReconnectOf topology hno hreconnect
  | false => exact (step_others topology hno henter hreconnect).1

/-! ## The close -/

/-- A close leaves no pending entry that names its connection. -/
theorem entry_closeEnterWorldStage (r : SessionRegistry)
    (hvalid : isValidSessionKey sid serial = true) (c : UInt64) :
    (r.closeEnterWorldStage sid serial).pendingEnterSessionKeyByCharId c ≠
      some (packSessionKey sid serial) := by
  have haborted : (r.abortEnterWorldStage sid serial).pendingEnterSessionKeyByCharId c ≠
      some (packSessionKey sid serial) := by
    simp [SessionRegistry.abortEnterWorldStage, hvalid, Table.eraseWhere_eq_some_iff]
  intro hc
  refine haborted ?_
  simp only [SessionRegistry.closeEnterWorldStage, SessionRegistry.markEnterWorldSessionClosing,
    hvalid, if_true] at hc
  cases hs : (r.abortEnterWorldStage sid serial).authedSessionsBySid sid with
  | none => simpa only [hs] using hc
  | some s =>
      simp only [hs] at hc
      split at hc
      next => exact (Table.eraseMatching_eq_some_iff.mp hc).1
      next => exact hc

/-- A close drops every pending record of its connection. -/
theorem noRecords_handleWorldSessionClosed (st : WorldRuntime)
    (hvalid : isValidSessionKey sid serial = true) :
    NoRecords sid serial (st.handleWorldSessionClosed sid serial) := by
  obtain ⟨closeCharId, closeReason, heq⟩ := handleWorldSessionClosed_eq st sid serial
  obtain ⟨hc, hs, hf, hp⟩ := flow_abortEnterWorldFlowBySession st hvalid
  have hkept : ∀ p : PendingEnterWorldConsumeRequest, p.isOf sid serial = false →
      Others sid serial p.sid p.serial := by
    rintro p hp ⟨rfl, rfl⟩
    simp [PendingEnterWorldConsumeRequest.isOf] at hp
  rw [heq]
  refine ⟨⟨?_, ?_, ?_, ?_⟩, ?_⟩
  · intro p hmem
    simp only [hc, List.mem_filter, Bool.not_eq_true'] at hmem
    exact hkept p hmem.2
  · intro p hmem
    simp only [hs, List.mem_filter, Bool.not_eq_true'] at hmem
    exact hkept p.enterPending hmem.2
  · intro p hmem
    simp only [hf, List.mem_filter, Bool.not_eq_true'] at hmem
    exact hkept p.enterPending hmem.2
  · intro p hmem
    simp only [hp, List.mem_filter, Bool.not_eq_true'] at hmem
    exact hkept p.enterPending hmem.2
  · exact entry_closeEnterWorldStage st.reg hvalid

/-! ## Runs -/

/-- **A closed connection never enters the world**: after its close, in every
run without an enter request of the connection, no state holds a pending
record of it, and no event but its own reconnect — so no ticket-consume
response, snapshot result, map-assign response or player-enter ack — binds it
or moves it to `EnterPending` or `InWorld`. -/
theorem closed_connection_never_enters (topology : Option ServerTopology) (st : WorldRuntime)
    {sid serial : UInt32} (hvalid : isValidSessionKey sid serial = true) (es : List Event)
    (henter : ∀ e ∈ es, e.isEnterRequestOf sid serial = false) :
    Always (step topology) (NoRecords sid serial) (st.handleWorldSessionClosed sid serial) es ∧
      Along (step topology)
        (fun st e => e.isReconnectOf sid serial = false →
          NotEntered sid serial st (step topology st e))
        (st.handleWorldSessionClosed sid serial) es := by
  have hno := noRecords_handleWorldSessionClosed st hvalid
  generalize st.handleWorldSessionClosed sid serial = st at hno ⊢
  induction es generalizing st with
  | nil => exact ⟨hno, trivial⟩
  | cons e es ih =>
      have he := henter e List.mem_cons_self
      obtain ⟨hrecords, hentered⟩ := ih (fun e' he' => henter e' (List.mem_cons_of_mem e he'))
        (step topology st e) (noRecords_step topology hno he)
      refine ⟨⟨hno, hrecords⟩, ⟨fun hreconnect => ?_, hentered⟩⟩
      exact (step_others topology hno he hreconnect).2

/-- The answers to an enter request come after the close. -/
theorem closed_connection_never_enters_lateAnswers :
    (isValidSessionKey 1 1 = true ∧
        ∀ e ∈ answersToEnter 100 11 0, e.isEnterRequestOf 1 1 = false) ∧
      let closed :=
        handleWorldSessionClosed
          (run (step none) initial (zoneUp :: connect 1 1 ++ askToEnter 1 1 100 11 0)) 1 1
      Always (step none) (NoRecords 1 1) closed (answersToEnter 100 11 0) ∧
        Along (step none)
          (fun st e => e.isReconnectOf 1 1 = false → NotEntered 1 1 st (step none st e)) closed
          (answersToEnter 100 11 0) :=
  ⟨⟨by decide, by decide⟩,
    closed_connection_never_enters none _ (by decide) (answersToEnter 100 11 0) (by decide)⟩

/-- Without the close the same answers let the connection in. -/
example : (run (step none) initial
    (zoneUp :: connect 1 1 ++ enterWorld 1 1 100 11 0)).reg.worldEnterStageBySessionKey
      (packSessionKey 1 1) = some .inWorld := by
  decide

end WorldRuntime

end GameServer
