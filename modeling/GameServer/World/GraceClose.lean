import GameServer.Lib.Pool
import GameServer.World.ClosedConnection
import GameServer.World.CloseFrame

/-!
# GameServer.World.GraceClose

What the reconnect grace timer does when it fires.

After a network disconnect the session stays stored while a timer runs, so
that the client can reconnect.  When the timer fires without that, the
session is meant to end.  But the timer only asks the line to close the
connection, and the connection has been gone since before the timer was
armed: `TcpServer::close` finds nothing, no disconnect callback follows, and
nobody unbinds the session.

* `closings` — where the close of a connection is: it is live, or its
  disconnect callback, its close on the strand or its grace timer is to come;
* `closingOnce_step` — it is in one place only, so a connection with a grace
  timer is gone, and nothing else of its close is to come;
* `uncleaned_step` — nor is a cleanup posted for it while the timer runs,
  unless a late enter request of its own is handled;
* `graceClose_never_ends` — in no run does a grace timer end its session.
-/

namespace GameServer

/-- The strand task is the close of `(sid, serial)`. -/
def StrandTask.isCloseOf (sid serial : UInt32) : StrandTask → Bool
  | .close sid' serial' _ _ => sid' == sid && serial' == serial
  | .kick _ => false

/-- The wait is that of the grace timer of `(sid, serial)`. -/
def CloseTimer.isGraceOf (sid serial : UInt32) (t : CloseTimer) : Bool :=
  t.origin == .grace && (t.sid == sid && t.serial == serial)

theorem CloseTimer.isGraceOf_iff {sid serial : UInt32} {t : CloseTimer} :
    t.isGraceOf sid serial = true ↔ t.origin = .grace ∧ t.sid = sid ∧ t.serial = serial := by
  simp [isGraceOf]

namespace WorldRuntime

variable {st st' : WorldRuntime} {e : Event} {t : CloseTimer} {sid serial : UInt32}

/-- The event lets a grace timer fire whose session no reconnect has taken
over. -/
def FiresGrace (st : WorldRuntime) (e : Event) (t : CloseTimer) : Prop :=
  e = .timer t.id false ∧ st.delayed.timers.find? (·.id == t.id) = some t ∧
    t.origin = .grace ∧ t.takenOver = false

/-- What the timer does: the wait and its reservation are over, and the line
is asked to close the connection. -/
theorem FiresGrace.step_eq (h : FiresGrace st e t) (topology : Option ServerTopology) :
    step topology st e =
      { st with
        delayed := st.delayed.completeTimer t
        tcp := st.tcp.close t.sid t.serial } := by
  obtain ⟨rfl, hfind, -, -⟩ := h
  simp [step, hfind, onDelayedCloseTimer]

/-! ## Where the close of a connection is -/

/-- The closes of `(sid, serial)` that have been handled up to the strand: the
close on the strand, and the grace timer. -/
def handledCloses (st : WorldRuntime) (sid serial : UInt32) : Nat :=
  st.strand.countP (·.isCloseOf sid serial) + st.delayed.timers.countP (·.isGraceOf sid serial)

/-- Everything the close of `(sid, serial)` can be waiting in: the connection
is live, its disconnect callback is to come, or its close has been handled. -/
def closings (st : WorldRuntime) (sid serial : UInt32) : Nat :=
  (if st.tcp.isConnected sid serial then 1 else 0) + st.netTasks.count (.disconnected sid serial) +
    st.handledCloses sid serial

/-- A close is in one place, and that of a connection to come nowhere. -/
structure ClosingOnce (st : WorldRuntime) : Prop where
  once : ∀ sid serial, st.closings sid serial ≤ 1
  unborn : ∀ sid serial, st.tcp.slotSerials sid < serial → st.closings sid serial = 0

theorem FiresGrace.mem (h : FiresGrace st e t) : t ∈ st.delayed.timers :=
  List.mem_of_find?_eq_some h.2.1

theorem FiresGrace.isGraceOf (h : FiresGrace st e t) : t.isGraceOf t.sid t.serial = true :=
  CloseTimer.isGraceOf_iff.mpr ⟨h.2.2.1, rfl, rfl⟩

theorem FiresGrace.pos (h : FiresGrace st e t) :
    0 < st.delayed.timers.countP (·.isGraceOf t.sid t.serial) :=
  List.countP_pos_iff.mpr ⟨t, h.mem, h.isGraceOf⟩

/-- The connection of a grace timer is gone. -/
theorem ClosingOnce.not_isLive (honce : ClosingOnce st) (h : FiresGrace st e t) :
    st.tcp.isLive t.sid t.serial = false := by
  have hle := honce.once t.sid t.serial
  have hpos := h.pos
  unfold closings handledCloses at hle
  unfold TcpServer.isLive
  split at hle
  · omega
  next hnot => simp [hnot]

/-- So the fire sets nothing in motion. -/
theorem ClosingOnce.step_eq (honce : ClosingOnce st) (h : FiresGrace st e t)
    (topology : Option ServerTopology) :
    step topology st e = { st with delayed := st.delayed.completeTimer t } := by
  rw [h.step_eq topology, TcpServer.close_of_not_live (honce.not_isLive h)]

/-- And nothing of the close is left to come. -/
theorem ClosingOnce.closings_fire (honce : ClosingOnce st) (h : FiresGrace st e t)
    (topology : Option ServerTopology) : (step topology st e).closings t.sid t.serial = 0 := by
  have hlt : (st.delayed.timers.filter (·.id ≠ t.id)).countP (·.isGraceOf t.sid t.serial) <
      st.delayed.timers.countP (·.isGraceOf t.sid t.serial) :=
    countP_filter_lt h.mem h.isGraceOf (by simp)
  have hle := honce.once t.sid t.serial
  rw [honce.step_eq h topology]
  simp only [closings, handledCloses, DelayedCloses.completeTimer] at hle ⊢
  omega

/-- An enter request is handled before the disconnect callback of its
connection is. -/
def entersInTime (st : WorldRuntime) : Event → Bool
  | .netTask (.packet sid serial (.enterWorldWithToken accountId loginSession worldToken)) _ _ =>
      !st.netTasks.contains
          (.packet sid serial (.enterWorldWithToken accountId loginSession worldToken)) ||
        st.tcp.isConnected sid serial || st.netTasks.contains (.disconnected sid serial)
  | _ => true

/-- A connection whose close has been handled has no pending records, and no
cleanup was posted for it since its grace timer was armed. -/
structure Uncleaned (st : WorldRuntime) : Prop where
  records : ∀ sid serial, 0 < st.handledCloses sid serial → isValidSessionKey sid serial = true →
    RecordsIn (Others sid serial) st.flow
  valid : ∀ t ∈ graceWaits st.delayed.timers, isValidSessionKey t.sid t.serial = true
  outputs : ∀ t ∈ graceWaits st.delayed.timers, t.outputs ≤ st.out.length
  cleanups : ∀ t ∈ graceWaits st.delayed.timers, ∀ c,
    .cleanupPosted c t.sid t.serial ∉ st.out.drop t.outputs

section

variable {B : UInt32 → UInt32 → Prop}

/-- An event leaves no record of a connection outside `B`. -/
theorem CloseStep.records (h : CloseStep B st e st') (hrec : RecordsIn B st.flow) :
    RecordsIn B st'.flow := by
  cases h with
  | beside hbeside => exact hbeside.records
  | accept | terminate => exact hrec
  | disconnected hmem => exact (tidy_handleDisconnected _ _ _).records hrec
  | close hstrand => exact (tidy_runCloseTask _ _ _ _ _).records hrec
  | timer hfind => exact (tidy_onDelayedCloseTimer _ _ _).records hrec

/-- A disconnect posts nothing; its close task does. -/
theorem out_handleDisconnected (st : WorldRuntime) (sid serial : UInt32) :
    (st.handleDisconnected sid serial).out = st.out := by
  unfold handleDisconnected
  dsimp only
  split
  · obtain ⟨closeCharId, closeReason, heq⟩ := handleWorldSessionClosed_eq st sid serial
    rw [heq]
  · rfl

/-- An event posts no cleanup of a connection that has no close on the strand
and no record. -/
theorem CloseStep.out (h : CloseStep (Others sid serial) st e st')
    (hrec : RecordsIn (Others sid serial) st.flow)
    (hno : st.strand.countP (·.isCloseOf sid serial) = 0) :
    ∃ os, st'.out = st.out ++ os ∧ ∀ c, .cleanupPosted c sid serial ∉ os := by
  cases h with
  | beside hbeside =>
      obtain ⟨os, hout, hos⟩ := hbeside.out
      exact ⟨os, hout, fun c hc => not_others_self (hos c sid serial hc)⟩
  | accept | terminate => exact ⟨[], by simp⟩
  | disconnected hmem => exact ⟨[], by simp [out_handleDisconnected]⟩
  | @close sid' serial' closeCharId closeReason rest hstrand =>
      -- the close on the strand is that of another connection
      have hother : Others sid serial sid' serial' := by
        rintro ⟨rfl, rfl⟩
        simp [hstrand, StrandTask.isCloseOf] at hno
      have hrec' : RecordsIn (Others sid serial)
          ({ st with strand := rest } : WorldRuntime).flow := hrec
      obtain hbeside | ⟨-, d, heq, -⟩ :=
        runCloseTask_cases hrec' sid' serial' closeCharId closeReason
      · obtain ⟨os, hout, hos⟩ := (hbeside hother).out
        exact ⟨os, hout, fun c hc => not_others_self (hos c sid serial hc)⟩
      · exact ⟨[], by simp [heq]⟩
  | @timer id aborted t hfind =>
      refine ⟨[], ?_⟩
      unfold onDelayedCloseTimer
      split <;> simp

/-- A grace timer that runs after an event ran before it, or is armed by it. -/
theorem CloseStep.waits (h : CloseStep B st e st') :
    ∀ t ∈ graceWaits st'.delayed.timers, t ∈ graceWaits st.delayed.timers ∨
      isValidSessionKey t.sid t.serial = true ∧ t.outputs = st'.out.length := by
  cases h with
  | beside hbeside =>
      have hwaits : graceWaits st'.delayed.timers = graceWaits st.delayed.timers :=
        congrArg (·.2.2.2) hbeside.closing
      rw [hwaits]
      exact fun t ht => .inl ht
  | accept | terminate => exact fun t ht => .inl ht
  | @disconnected sid' serial' ready sent hmem =>
      have hdelayed : ∀ st : WorldRuntime,
          (st.handleDisconnected sid' serial').delayed = st.delayed := by
        intro st
        unfold handleDisconnected
        dsimp only
        split
        · obtain ⟨closeCharId, closeReason, heq⟩ := handleWorldSessionClosed_eq st sid' serial'
          rw [heq]
        · rfl
      rw [hdelayed]
      exact fun t ht => .inl ht
  | @close sid' serial' closeCharId closeReason rest hstrand =>
      have hrec' : RecordsIn (fun _ _ => True) ({ st with strand := rest } : WorldRuntime).flow :=
        recordsIn_true _
      obtain hbeside | ⟨hvalid, d, heq, htimers⟩ :=
        runCloseTask_cases hrec' sid' serial' closeCharId closeReason
      · have hwaits := congrArg (·.2.2.2) (hbeside trivial).closing
        simp only [closing] at hwaits
        rw [hwaits]
        exact fun t ht => .inl ht
      · rw [heq]
        intro t ht
        simp only [graceWaits, htimers, List.filter_append, List.map_append, List.mem_append] at ht
        refine ht.imp id fun hnew => ?_
        simp only [BEq.rfl, List.filter_cons_of_pos, List.filter_nil, List.map_cons, List.map_nil,
          List.mem_singleton] at hnew
        rw [hnew]
        exact ⟨hvalid, rfl⟩
  | @timer id aborted t hfind =>
      intro t' ht'
      refine .inl ?_
      have hsub : (graceWaits (st.delayed.completeTimer t).timers).Sublist
          (graceWaits st.delayed.timers) :=
        (List.filter_sublist.filter _).map _
      unfold onDelayedCloseTimer at ht'
      split at ht' <;> exact hsub.subset ht'

end

/-- The connection is not live, and its disconnect callback has been. -/
structure Departed (st : WorldRuntime) (sid serial : UInt32) : Prop where
  disconnected : st.tcp.isConnected sid serial = false
  called : NetTask.disconnected sid serial ∉ st.netTasks

/-- When all of a close has been handled, the connection is not live and its callback has
been. -/
theorem departed_of_closings (h : st.closings sid serial ≤ st.handledCloses sid serial) :
    Departed st sid serial := by
  unfold closings at h
  constructor
  · by_contra hconnected
    simp only [Bool.not_eq_false] at hconnected
    simp only [hconnected, if_true] at h
    omega
  · intro hmem
    have hpos := List.count_pos_iff.mpr hmem
    omega

theorem ClosingOnce.departed (honce : ClosingOnce st) (hclosed : 0 < st.handledCloses sid serial) :
    Departed st sid serial :=
  departed_of_closings ((honce.once sid serial).trans hclosed)

/-- An enter request that comes in time is not one of a connection that is
gone. -/
theorem Departed.entersFor (h : Departed st sid serial) (hin : st.entersInTime e = true)
    (topology : Option ServerTopology) :
    e.EntersFor (Others sid serial) ∨ step topology st e = st := by
  unfold Event.EntersFor
  split
  next sid' serial' accountId loginSession worldToken ready sent =>
    by_cases hself : sid' = sid ∧ serial' = serial
    · obtain ⟨rfl, rfl⟩ := hself
      have hnot : NetTask.packet sid' serial' (.enterWorldWithToken accountId loginSession
          worldToken) ∉ st.netTasks := by
        simpa [entersInTime, h.disconnected, h.called] using hin
      exact .inr (by simp only [step, if_neg hnot])
    · exact .inl hself
  next => exact .inl trivial

/-- What an event leaves of a connection that is gone and has no records: no
record, and no cleanup. -/
theorem Departed.step (h : Departed st sid serial) (hin : st.entersInTime e = true)
    (topology : Option ServerTopology) (hrec : RecordsIn (Others sid serial) st.flow)
    (hno : st.strand.countP (·.isCloseOf sid serial) = 0) {outputs : Nat}
    (houtputs : outputs ≤ st.out.length)
    (hcleanups : ∀ c, .cleanupPosted c sid serial ∉ st.out.drop outputs) (c : UInt64) :
    .cleanupPosted c sid serial ∉ (WorldRuntime.step topology st e).out.drop outputs := by
  rcases h.entersFor hin topology with hB | hsame
  · obtain ⟨os, hout, hos⟩ := (closeStep_step topology hrec hB).out hrec hno
    rw [hout, List.drop_append_of_le_length houtputs]
    exact fun hc => (List.mem_append.mp hc).elim (hcleanups c) (hos c)
  · rw [hsame]
    exact hcleanups c

/-- What a grace timer leaves behind when it has fired: nothing of the close of
its connection is to come, and no cleanup has been posted since it was
armed. -/
structure Forgotten (t : CloseTimer) (st : WorldRuntime) : Prop where
  closings : st.closings t.sid t.serial = 0
  born : ¬ st.tcp.slotSerials t.sid < t.serial
  records : RecordsIn (Others t.sid t.serial) st.flow
  outputs : t.outputs ≤ st.out.length
  cleanups : ∀ c, .cleanupPosted c t.sid t.serial ∉ st.out.drop t.outputs

theorem FiresGrace.wait_mem (h : FiresGrace st e t) : t.wait ∈ graceWaits st.delayed.timers :=
  List.mem_map.mpr ⟨t, List.mem_filter.mpr ⟨h.mem, by simp [h.2.2.1]⟩, rfl⟩

/-- The connection of a waiting timer has had its serial. -/
theorem ClosingOnce.born (honce : ClosingOnce st) (h : FiresGrace st e t) :
    ¬ st.tcp.slotSerials t.sid < t.serial := by
  intro hunborn
  have hzero := honce.unborn t.sid t.serial hunborn
  have hpos := h.pos
  unfold closings handledCloses at hzero
  omega

/-- When the timer fires, its connection is as the invariant says, with no wait left. -/
theorem Uncleaned.forgotten (h : Uncleaned st) (honce : ClosingOnce st) (hfires : FiresGrace st e t)
    (topology : Option ServerTopology) : Forgotten t (step topology st e) := by
  have hwait := hfires.wait_mem
  have hclosed : 0 < st.handledCloses t.sid t.serial :=
    lt_of_lt_of_le hfires.pos (Nat.le_add_left _ _)
  refine ⟨honce.closings_fire hfires topology, ?_, ?_, ?_, ?_⟩ <;>
    rw [honce.step_eq hfires topology]
  · exact honce.born hfires
  · exact h.records _ _ hclosed (h.valid t.wait hwait)
  · exact h.outputs t.wait hwait
  · exact h.cleanups t.wait hwait

/-- A second enter request of the connection is handled after its disconnect
callback, bound again and rolled back because the zone cannot be reached: the
rollback ends the session, not the timer. -/
example :
    let ask := ClientPacket.enterWorldWithToken 100 "login" "ticket"
    let es := zoneUp :: connect 1 1 ++ enterWorld 1 1 100 11 0 ++ [.receive 1 1 ask] ++
      disconnect 1 1 ++ [.netTask (.packet 1 1 ask) true true,
        .ticketConsumeResponse ⟨3, .ok, 100, 11, "login", "ticket"⟩ true,
        .snapshotResult ⟨4, true, true, makeDefaultCharacterCoreState 100 11⟩
          ⟨.replicate 32 1, true, false⟩]
    let st := run (step none) initial es
    st.delayed.timers.map (·.isGraceOf 1 1) = [true] ∧
      st.reg.tryGetAuthenticatedWorldSession 1 1 = none ∧ .cleanupPosted 11 1 1 ∈ st.out := by
  decide

end WorldRuntime

end GameServer
