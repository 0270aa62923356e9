import GameServer.World.HandlerEffects

/-!
# GameServer.World.SlotReuse

Whose character a gameplay packet acts for.

The handlers resolve the character of a packet by the slot index of its
connection alone (`FindCharIdBySession`), and the session stored under a slot
outlives its connection: it stays through the reconnect grace period, and
longer (see `GraceClose`).  Meanwhile the slot can be handed to a new
connection, whose packets then act for the character of the old one.

Two handlers act without a stored session at all: a bench move on a slot that
resolves to nobody moves an actor made up from the slot index, and an actor
forward runs for whatever actor the packet names.

`actsForOwn_of_keepsSlots` says what is needed for that not to happen: while
a slot holds a session or a pending enter-world record, it is not handed out
again, the packets of a connection are handled before its slot is, bench
moves come from slots with a character, and actor forwards name no other.
-/

namespace GameServer

namespace WorldRuntime

variable {A : UInt32 → UInt32 → Prop} {st : WorldRuntime}

/-- Every gameplay packet the step applies acts for the character whose
stored session is that of the packet's connection. -/
def ActsForOwn (topology : Option ServerTopology) (st : WorldRuntime) (e : Event) : Prop :=
  ∀ op sid serial c, .applied op sid serial c ∈ (step topology st e).out.drop st.out.length →
    ∃ s, st.reg.authedSessionsBySid sid = some s ∧ s.serial = serial ∧ s.charId = c

/-- No pending enter-world record is of a connection on slot `idx`. -/
def noRecordsOn (f : EnterFlow) (idx : UInt32) : Bool :=
  f.pendingEnterWorldConsume.all (·.sid ≠ idx) &&
    f.pendingCharacterEnterSnapshot.all (·.enterPending.sid ≠ idx) &&
    f.pendingEnterWorldFinalize.all (·.enterPending.sid ≠ idx) &&
    f.pendingZonePlayerEnter.all (·.enterPending.sid ≠ idx)

/-- The packet is resolved by the slot of its connection alone: a bench move
finds a character there, and an actor forward names no other. -/
def resolvesBySlot (r : SessionRegistry) (sid : UInt32) : ClientPacket → Bool
  | .gameplay .benchMove => r.findCharIdBySession sid ≠ 0
  | .gameplay (.actorForward targetActorId) =>
      targetActorId = 0 || targetActorId = r.findCharIdBySession sid
  | _ => true

/-- An accept hands out a slot without a stored session or pending record,
and a packet is handled while its connection is the latest of its slot, and
resolved by it. -/
def keepsSlots (st : WorldRuntime) : Event → Bool
  | .accept =>
      let idx := st.tcp.nextConnection.1
      (st.reg.authedSessionsBySid idx).isNone && noRecordsOn st.flow idx
  | .netTask (.packet sid serial p) _ _ =>
      !st.netTasks.contains (.packet sid serial p) ||
        serial == st.tcp.slotSerials sid && resolvesBySlot st.reg sid p
  | _ => true

/-! ## The latest connections -/

/-- The latest connection of its slot. -/
def Latest (t : TcpServer) (sid serial : UInt32) : Prop := serial = t.slotSerials sid

/-- Sessions and pending records are of the latest connections of their
slots. -/
structure SlotsLatest (st : WorldRuntime) : Prop where
  stored : ∀ sid s, st.reg.authedSessionsBySid sid = some s → Latest st.tcp sid s.serial
  records : RecordsIn (Latest st.tcp) st.flow

theorem slotsLatest_initial : SlotsLatest initial := by
  refine ⟨fun sid s hs => ?_, ?_⟩
  · simp [initial, SessionRegistry.initial] at hs
  · constructor <;> simp [initial, EnterFlow.initial]

/-- The invariant reads the registry, the pending enters and the slots. -/
theorem SlotsLatest.congr {st' : WorldRuntime} (h : SlotsLatest st) (hreg : st'.reg = st.reg)
    (hflow : st'.flow = st.flow) (htcp : st'.tcp = st.tcp) : SlotsLatest st' := by
  constructor
  · rw [hreg, htcp]
    exact h.stored
  · rw [hflow, htcp]
    exact h.records

/-- Handlers that act for the latest connections keep it that way. -/
theorem SlotsLatest.handledFor {st' : WorldRuntime} (h : SlotsLatest st)
    (hstep : HandledFor (Latest st.tcp) st st') : SlotsLatest st' := by
  have hlatest : Latest st'.tcp = Latest st.tcp := by
    funext sid serial
    simp only [Latest, hstep.slotSerials]
  obtain ⟨ops, hreg, hops⟩ := hstep.reg
  constructor
  · intro sid s hs
    rw [hlatest]
    rw [hreg] at hs
    by_contra hnot
    exact hnot (h.stored sid s (RegistryOp.stored_of_run hops hnot hs))
  · rw [hlatest]
    exact hstep.records h.records

/-- A new connection on a slot that holds nothing. -/
theorem SlotsLatest.accept (h : SlotsLatest st)
    (hsession : st.reg.authedSessionsBySid st.tcp.nextConnection.1 = none)
    (hrecords : noRecordsOn st.flow st.tcp.nextConnection.1 = true)
    (topology : Option ServerTopology) : SlotsLatest (step topology st .accept) := by
  have hlatest : ∀ sid serial, sid ≠ st.tcp.nextConnection.1 → Latest st.tcp sid serial →
      Latest (step topology st .accept).tcp sid serial := by
    intro sid serial hne hold
    simp only [step, TcpServer.accept, Latest, Function.update_of_ne hne]
    simp only [TcpServer.allocSlot]
    split <;> exact hold
  simp only [noRecordsOn, Bool.and_eq_true, List.all_eq_true, decide_eq_true_eq] at hrecords
  obtain ⟨⟨⟨hc, hs⟩, hf⟩, hp⟩ := hrecords
  refine ⟨fun sid s hstored => ?_, ⟨?_, ?_, ?_, ?_⟩⟩
  · refine hlatest sid s.serial ?_ (h.stored sid s hstored)
    rintro rfl
    exact absurd (hstored.symm.trans hsession) (Option.some_ne_none s)
  · exact fun p hmem => hlatest _ _ (hc p hmem) (h.records.consume p hmem)
  · exact fun p hmem => hlatest _ _ (hs p hmem) (h.records.snapshot p hmem)
  · exact fun p hmem => hlatest _ _ (hf p hmem) (h.records.finalize p hmem)
  · exact fun p hmem => hlatest _ _ (hp p hmem) (h.records.playerEnter p hmem)

/-! ## Steps and runs -/

/-- A packet task that is not posted does nothing. -/
theorem step_of_not_mem (topology : Option ServerTopology) {task : NetTask} {ready sent : Bool}
    (h : task ∉ st.netTasks) : step topology st (.netTask task ready sent) = st := by
  simp [step, h]

theorem keepsSlots_packet {sid serial : UInt32} {p : ClientPacket} {ready sent : Bool}
    (hkeeps : st.keepsSlots (.netTask (.packet sid serial p) ready sent) = true)
    (hmem : NetTask.packet sid serial p ∈ st.netTasks) :
    serial = st.tcp.slotSerials sid ∧ resolvesBySlot st.reg sid p = true := by
  simpa [keepsSlots, hmem] using hkeeps

/-- The step lemma: the session of a slot is of the slot's latest serial. -/
theorem slotsLatest_step (topology : Option ServerTopology) {e : Event} (h : SlotsLatest st)
    (hkeeps : st.keepsSlots e = true) : SlotsLatest (step topology st e) := by
  by_cases haccept : e = .accept
  · subst haccept
    simp only [keepsSlots, Bool.and_eq_true, Option.isNone_iff_eq_none] at hkeeps
    exact h.accept hkeeps.1 hkeeps.2 topology
  · cases hgameplay : e.isGameplay with
    | true =>
        obtain ⟨hreg, hflow, htcp, -⟩ := step_of_isGameplay topology st hgameplay
        exact h.congr hreg hflow htcp
    | false =>
        by_cases hA : e.ActsFor (Latest st.tcp)
        · exact h.handledFor (handledFor_step topology h.records hA haccept hgameplay)
        · -- a packet of an earlier connection is only allowed if its task is not posted
          cases e with
          | netTask task ready sent =>
              cases task with
              | packet sid serial p =>
                  have hnot : NetTask.packet sid serial p ∉ st.netTasks := by
                    intro hmem
                    refine hA ?_
                    have hserial := (keepsSlots_packet hkeeps hmem).1
                    cases p <;> simp [Event.ActsFor, PacketFor, Latest, hserial]
                  rw [step_of_not_mem topology hnot]
                  exact h
              | _ => exact absurd trivial hA
          | _ => exact absurd trivial hA

/-- The character a slot resolves to is that of the stored session. -/
theorem exists_stored_of_findCharIdBySession {r : SessionRegistry} {sid : UInt32}
    (h : r.findCharIdBySession sid ≠ 0) :
    ∃ s, r.authedSessionsBySid sid = some s ∧ s.charId = r.findCharIdBySession sid := by
  unfold SessionRegistry.findCharIdBySession at h ⊢
  split at h
  next => exact absurd rfl h
  next hsid =>
    cases hs : r.authedSessionsBySid sid with
    | none => simp [hs] at h
    | some s => exact ⟨s, rfl, by simp [hsid]⟩

/-- A packet that is resolved by its slot is for the character found there. -/
theorem resolveCharId_of_resolvesBySlot {sid : UInt32} {op : GameplayOp}
    (h : resolvesBySlot st.reg sid (.gameplay op) = true) :
    st.resolveCharId sid op = st.reg.findCharIdBySession sid := by
  cases op with
  | benchMove => simp_all [resolvesBySlot, resolveCharId]
  | actorForward targetActorId =>
      simp only [resolvesBySlot, Bool.or_eq_true, decide_eq_true_eq] at h
      rcases h with rfl | rfl
      · simp [resolveCharId]
      · simp only [resolveCharId]
        split <;> rfl
  | _ => rfl

/-- A gameplay packet then acts for the character of its own connection. -/
theorem actsForOwn_gameplay (topology : Option ServerTopology) (h : SlotsLatest st)
    {sid serial : UInt32} {op : GameplayOp} {ready sent : Bool}
    (hkeeps : st.keepsSlots (.netTask (.packet sid serial (.gameplay op)) ready sent) = true) :
    ActsForOwn topology st (.netTask (.packet sid serial (.gameplay op)) ready sent) := by
  intro op' sid' serial' c happlied
  by_cases hmem : NetTask.packet sid serial (.gameplay op) ∈ st.netTasks
  · obtain ⟨hserial, hresolves⟩ := keepsSlots_packet hkeeps hmem
    have hchar := resolveCharId_of_resolvesBySlot hresolves
    simp only [resolveCharId] at hchar
    simp only [step, hmem, if_true, runNetTask, handlePacket, getLatestSerial, Table.set_self,
      Option.getD_some, handleGameplay, resolveCharId, hchar] at happlied
    split at happlied
    next hfound =>
      simp only [emit, List.drop_left, List.mem_singleton, Output.applied.injEq] at happlied
      obtain ⟨rfl, rfl, rfl, rfl⟩ := happlied
      obtain ⟨s, hs, hsc⟩ := exists_stored_of_findCharIdBySession hfound
      exact ⟨s, hs, (h.stored _ s hs).trans hserial.symm, hsc⟩
    next => simp [emit] at happlied
  · rw [step_of_not_mem topology hmem] at happlied
    simp at happlied

/-- Only a gameplay packet is applied, and for the character of its own
connection. -/
theorem actsForOwn_step (topology : Option ServerTopology) {e : Event} (h : SlotsLatest st)
    (hkeeps : st.keepsSlots e = true) : ActsForOwn topology st e := by
  by_cases haccept : e = .accept
  · subst haccept
    intro op sid serial c happlied
    simp [step] at happlied
  · cases hgameplay : e.isGameplay with
    | true =>
        unfold Event.isGameplay at hgameplay
        split at hgameplay
        next => exact actsForOwn_gameplay topology h hkeeps
        next => simp at hgameplay
    | false =>
        intro op sid serial c happlied
        obtain ⟨os, hos, hnone⟩ := (handledFor_step topology (recordsIn_true st.flow)
          e.actsFor_true haccept hgameplay).out
        rw [hos, List.drop_left] at happlied
        exact absurd (hnone _ happlied) (by simp [Output.isApplied])

/-- **No connection acts for a character it did not authenticate**, in every
run that hands out no slot while it holds a session or a pending enter-world
record, handles the packets of a connection before its slot is handed on, and
handles no bench move of a slot without a character and no actor forward for
another actor. -/
theorem actsForOwn_of_keepsSlots (topology : Option ServerTopology) (es : List Event)
    (h : Along (step topology) (fun st e => st.keepsSlots e = true) initial es) :
    Along (step topology) (ActsForOwn topology) initial es :=
  along_of_along slotsLatest_initial (fun _ _ hst hkeeps => slotsLatest_step topology hst hkeeps)
    (fun _ _ hst hkeeps => actsForOwn_step topology hst hkeeps) h

/-- Character 11 enters on connection `(1, 1)`, asks for gold and sends a
bench move. -/
theorem actsForOwn_enterAndPlay :
    let es := zoneUp :: connect 1 1 ++ enterWorld 1 1 100 11 0 ++
      [.receive 1 1 (.gameplay .addGold), .receive 1 1 (.gameplay .benchMove),
       .netTask (.packet 1 1 (.gameplay .benchMove)) true true,
       .netTask (.packet 1 1 (.gameplay .addGold)) true true]
    Along (step none) (fun st e => st.keepsSlots e = true) initial es ∧
      Along (step none) (ActsForOwn none) initial es :=
  ⟨by decide, actsForOwn_of_keepsSlots none _ (by decide)⟩

/-- Its connection breaks, and within the grace period the slot goes to
connection `(1, 2)`, whose client sends a gameplay packet. -/
def strangerOnReusedSlot : List Event :=
  zoneUp :: connect 1 1 ++ enterWorld 1 1 100 11 0 ++ disconnect 1 1 ++ connect 1 2 ++
    [.receive 1 2 (.gameplay .addGold)]

/-- The packet of the stranger acts for character 11. -/
theorem not_actsForOwn_strangerOnReusedSlot :
    ¬ Along (step none) (ActsForOwn none) initial
      (strangerOnReusedSlot ++ [.netTask (.packet 1 2 (.gameplay .addGold)) true true]) := by
  intro h
  obtain ⟨-, hlast, -⟩ := (along_append _).mp h
  obtain ⟨s, hs, hserial, -⟩ := hlast .addGold 1 2 11 (by decide)
  have hold : some (⟨100, 11, 1, 1, generateReconnectToken (.replicate 32 0)⟩ :
      WorldAuthedSession) = some s := hs
  obtain rfl := Option.some.inj hold
  exact absurd hserial (by decide)

/-- The made-up actor has the highest bit set. -/
theorem benchActorId_ne_zero (sid : UInt32) : benchActorId sid ≠ 0 := by
  intro h
  have hbit : (benchActorId sid).toBitVec.getLsbD 63 = true := by
    simp [benchActorId]
  simp [h] at hbit

/-- A bench move on a slot without a session is not rejected: it moves an
actor made up from the slot index. -/
theorem not_actsForOwn_of_benchMove (topology : Option ServerTopology) {sid serial : UInt32}
    (hmem : NetTask.packet sid serial (.gameplay .benchMove) ∈ st.netTasks)
    (hnone : st.reg.authedSessionsBySid sid = none) (ready sent : Bool) :
    ¬ ActsForOwn topology st (.netTask (.packet sid serial (.gameplay .benchMove)) ready sent) := by
  intro h
  have hfound : st.reg.findCharIdBySession sid = 0 := by
    simp [SessionRegistry.findCharIdBySession, hnone]
  obtain ⟨s, hs, -, -⟩ := h .benchMove sid serial (benchActorId sid) (by
    simp [step, hmem, runNetTask, handlePacket, getLatestSerial, handleGameplay, resolveCharId,
      hfound, benchActorId_ne_zero, emit])
  exact absurd hs (by simp [hnone])

/-- A client that has not entered the world sends a bench move. -/
example :
    ¬ Along (step none) (ActsForOwn none) initial
      (connect 1 1 ++ [.receive 1 1 (.gameplay .benchMove),
        .netTask (.packet 1 1 (.gameplay .benchMove)) true true]) := by
  intro h
  obtain ⟨-, -, -, hlast, -⟩ := h
  exact not_actsForOwn_of_benchMove none (by decide) (by decide) true true hlast

end WorldRuntime

end GameServer
