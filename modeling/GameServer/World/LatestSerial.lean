import GameServer.Lib.Mailbox
import GameServer.Lib.Run
import GameServer.World.TcpServer

/-!
# GameServer.World.LatestSerial

The latest serial of a slot, and what depends on it.

A line posts a task for each connect, packet and disconnect to an actor, and
the actor is chosen anew each time, so the tasks of one slot can run on
different shards, in any order and at the same time. All of them share
`session_serials_`: connects and packets write it, the packet handlers read
it back to know for whom they work, and a disconnect counts only while its
own serial is the latest.

* `NetworkEX.step` — a packet or disconnect task has a start and an end, and
  other actors run in between;
* `Attributed` — the handlers read the serial of their own packet, and every
  disconnect is delivered once;
* `inTurn`, `attributed_of_along` — it is so if the connections of a slot take
  turns.
-/

namespace GameServer

/-- The tasks that `NetworkEXBase` posts. -/
inductive LineTask where
  | connected (sid serial : UInt32)
  | packet (sid serial : UInt32)
  | disconnected (sid serial : UInt32)
deriving DecidableEq, Repr

/-- A task and the actor it is routed to. -/
structure RoutedTask where
  key : UInt64
  task : LineTask
deriving DecidableEq, Repr

/-- A line: its connections, the posted tasks and those that are running, and
the serials. `ended` has the connections that have ended, and `closes` the
calls of `HandleWorldSessionClosed`. -/
structure NetworkEX where
  tcp : TcpServer := .initial
  sessionSerials : Table UInt32 UInt32 := .empty
  mail : List RoutedTask := []
  running : List RoutedTask := []
  ended : List (UInt32 × UInt32) := []
  closes : List (UInt32 × UInt32) := []

namespace NetworkEX

open Mailbox

section

variable (st : NetworkEX)

/-- `GetLatestSerial`. -/
def getLatestSerial (sid : UInt32) : UInt32 := (st.sessionSerials sid).getD 0

/-- `dispatch_`. -/
def dispatch (key : UInt64) (task : LineTask) : NetworkEX :=
  { st with mail := st.mail ++ [⟨key, task⟩] }

/-- `HandleConnected_`. -/
def handleConnected (sid serial : UInt32) : NetworkEX :=
  { st with sessionSerials := st.sessionSerials.set sid serial }

/-- The start of `HandlePacket_`. -/
def beginPacket (key : UInt64) (sid serial : UInt32) : NetworkEX :=
  { st with
    sessionSerials := st.sessionSerials.set sid serial
    running := ⟨key, .packet sid serial⟩ :: st.running }

/-- The start of `HandleDisconnected_`: `CloseClientCheck`, with
`ShouldHandleClose` and `OnLineClosed`. -/
def beginDisconnected (key : UInt64) (sid serial : UInt32) : NetworkEX :=
  { st with
    closes :=
      if st.getLatestSerial sid ≠ serial then st.closes else (sid, serial) :: st.closes
    running := ⟨key, .disconnected sid serial⟩ :: st.running }

/-- The end of `HandleDisconnected_`: only the latest serial is erased. -/
def endDisconnected (sid serial : UInt32) : NetworkEX :=
  { st with sessionSerials := st.sessionSerials.eraseMatching sid serial }

/-- An actor starts its oldest task, unless it is at one. -/
def runOldest (key : UInt64) : NetworkEX :=
  if (oldest RoutedTask.key key st.running).isSome then st
  else
    let st' := { st with mail := withoutOldest RoutedTask.key key st.mail }
    match oldest RoutedTask.key key st.mail with
    | none => st
    | some ⟨_, .connected sid serial⟩ => st'.handleConnected sid serial
    | some ⟨key, .packet sid serial⟩ => st'.beginPacket key sid serial
    | some ⟨key, .disconnected sid serial⟩ => st'.beginDisconnected key sid serial

/-- An actor ends its task. -/
def finish (key : UInt64) : NetworkEX :=
  let st' := { st with running := withoutOldest RoutedTask.key key st.running }
  match oldest RoutedTask.key key st.running with
  | none => st
  | some ⟨_, .disconnected sid serial⟩ => st'.endDisconnected sid serial
  | some _ => st'

end

/-- What can happen to a line; `key` is the actor that the task is routed
to. -/
inductive Event where
  | accept (key : UInt64)
  | receive (sid serial : UInt32) (key : UInt64)
  | terminate (sid serial : UInt32) (key : UInt64)
  | run (key : UInt64)
  | finish (key : UInt64)
deriving DecidableEq, Repr

/-- One step of a line. -/
def step (st : NetworkEX) : Event → NetworkEX
  | .accept key =>
      let c := st.tcp.nextConnection
      { st with tcp := st.tcp.accept }.dispatch key (.connected c.1 c.2)
  | .receive sid serial key =>
      if st.tcp.isConnected sid serial then st.dispatch key (.packet sid serial) else st
  | .terminate sid serial key =>
      if st.tcp.isConnected sid serial then
        { st with
          tcp := st.tcp.terminate sid serial
          ended := (sid, serial) :: st.ended }.dispatch key (.disconnected sid serial)
      else st
  | .run key => st.runOldest key
  | .finish key => st.finish key

/-- The tasks that wait. -/
def waiting (st : NetworkEX) : List LineTask := st.mail.map RoutedTask.task

/-- **Packet attribution and close delivery**: a packet that is being handled
finds its own serial to be the latest of its slot, and each disconnect that
has run was delivered, once. -/
structure Attributed (st : NetworkEX) : Prop where
  packets : ∀ key sid serial, ⟨key, .packet sid serial⟩ ∈ st.running →
    st.getLatestSerial sid = serial
  disconnects : ∀ sid serial,
    st.closes.count (sid, serial) + st.waiting.count (.disconnected sid serial) =
      st.ended.count (sid, serial)

/-! ## Taking turns -/

section

variable (st : NetworkEX)

/-- The connection is live, or its disconnect waits. -/
def isOpen (sid serial : UInt32) : Prop :=
  st.tcp.isConnected sid serial = true ∨ .disconnected sid serial ∈ st.waiting

/-- The other connections of a slot that are open have not begun: their
connect tasks wait. -/
def othersWait (sid serial : UInt32) : Bool :=
  (st.tcp.slots sid).all (fun s => s.serial = serial ∨ .connected sid s.serial ∈ st.waiting) &&
    st.waiting.all fun
      | .disconnected sid' serial' =>
          sid' ≠ sid ∨ serial' = serial ∨ .connected sid serial' ∈ st.waiting
      | _ => true

/-- No packet of another connection of the slot is being handled. -/
def noOtherPacket (sid serial : UInt32) : Bool :=
  st.running.all fun
    | ⟨_, .packet sid' serial'⟩ => sid' ≠ sid ∨ serial' = serial
    | _ => true

/-- No packet of the connection is being handled. -/
def noPacketOf (sid serial : UInt32) : Bool :=
  st.running.all fun p => p.task ≠ .packet sid serial

/-- How many disconnects of a connection wait or run. -/
def closing (sid serial : UInt32) : Nat :=
  st.waiting.count (.disconnected sid serial) +
    (st.running.map RoutedTask.task).count (.disconnected sid serial)

/-- The task of a connection runs in the connection's turn. -/
def taskInTurn : LineTask → Bool
  | .connected sid serial | .packet sid serial =>
      st.othersWait sid serial && st.noOtherPacket sid serial
  | .disconnected sid serial => .connected sid serial ∉ st.waiting

/-- The connections of a slot take turns: a connect or a packet runs while no
other connection has begun and not ended, a disconnect runs after its
connect and ends while none of its packets is being handled, and a serial
is not handed out again before its disconnect has run. -/
def inTurn : Event → Bool
  | .accept _ =>
      let c := st.tcp.nextConnection
      st.closing c.1 c.2 = 0
  | .run key =>
      (oldest RoutedTask.key key st.running).isSome ||
        (oldest RoutedTask.key key st.mail).all fun p => st.taskInTurn p.task
  | .finish key =>
      (oldest RoutedTask.key key st.running).all fun
        | ⟨_, .disconnected sid serial⟩ => st.noPacketOf sid serial
        | _ => true
  | _ => true

end

variable {st : NetworkEX} {sid serial sid' serial' : UInt32} {key : UInt64} {task : LineTask}

/-- An open connection of the slot other than this one has not been announced yet. -/
theorem connected_mem_of_othersWait (h : st.othersWait sid serial = true)
    (hopen : st.isOpen sid serial') (hne : serial' ≠ serial) :
    .connected sid serial' ∈ st.waiting := by
  unfold othersWait at h
  obtain ⟨hlive, hwaits⟩ := Bool.and_eq_true_iff.mp h
  rcases hopen with hconn | hdisc
  · unfold TcpServer.isConnected at hconn
    cases hslot : st.tcp.slots sid with
    | none =>
        rw [hslot] at hconn
        cases hconn
    | some s =>
        rw [hslot] at hconn hlive
        have hserial : s.serial = serial' := by simpa using hconn
        subst hserial
        simpa [hne] using hlive
  · have hthis := List.all_eq_true.mp hwaits _ hdisc
    simpa [hne] using hthis

theorem eq_of_noOtherPacket (h : st.noOtherPacket sid serial = true)
    (hrun : ⟨key, .packet sid serial'⟩ ∈ st.running) : serial' = serial := by
  have hthis := List.all_eq_true.mp h _ hrun
  simpa using hthis

theorem not_mem_of_noPacketOf (h : st.noPacketOf sid serial = true) :
    (⟨key, .packet sid serial⟩ : RoutedTask) ∉ st.running := by
  intro hrun
  have hthis := List.all_eq_true.mp h _ hrun
  simp at hthis

/-! ## The slots -/

/-- After an accept the slot of the new connection is live under the new serial only. -/
theorem isConnected_accept (h : (st.tcp.accept).isConnected sid serial = true) :
    (sid, serial) = st.tcp.nextConnection ∨
      sid ≠ st.tcp.nextConnection.1 ∧ st.tcp.isConnected sid serial = true := by
  have hslots : st.tcp.allocSlot.2.slots = st.tcp.slots := by
    unfold TcpServer.allocSlot
    split <;> rfl
  unfold TcpServer.accept TcpServer.isConnected at h
  dsimp only at h
  rw [hslots, Table.set_apply] at h
  split at h
  · next hsid =>
    left
    have hserial : st.tcp.nextConnection.2 = serial := by simpa using h
    exact Prod.ext hsid hserial.symm
  · next hsid => exact Or.inr ⟨hsid, h⟩

/-- After a terminate nothing is live on that slot. -/
theorem isConnected_terminate (hlive : st.tcp.isConnected sid' serial' = true)
    (h : (st.tcp.terminate sid' serial').isConnected sid serial = true) :
    sid ≠ sid' ∧ st.tcp.isConnected sid serial = true := by
  unfold TcpServer.terminate at h
  rw [if_pos hlive] at h
  unfold TcpServer.isConnected at h
  dsimp only at h
  rw [Table.erase_apply] at h
  split at h
  · cases h
  · next hsid => exact ⟨hsid, h⟩

/-! ## What waits -/

theorem waiting_dispatch (st : NetworkEX) (key : UInt64) (task : LineTask) :
    (st.dispatch key task).waiting = st.waiting ++ [task] := by
  unfold waiting dispatch
  rw [List.map_append]
  rfl

theorem count_waiting_dispatch (st : NetworkEX) (key : UInt64) (task task' : LineTask) :
    (st.dispatch key task).waiting.count task' =
      st.waiting.count task' + if task = task' then 1 else 0 := by
  rw [waiting_dispatch, List.count_append, List.count_singleton]
  simp only [beq_iff_eq]

theorem closing_dispatch (st : NetworkEX) (key : UInt64) (task : LineTask) (sid serial : UInt32) :
    (st.dispatch key task).closing sid serial =
      st.closing sid serial + if task = .disconnected sid serial then 1 else 0 := by
  unfold closing
  rw [count_waiting_dispatch]
  exact Nat.add_right_comm ..

theorem waiting_perm {p : RoutedTask} (h : oldest RoutedTask.key key st.mail = some p) :
    st.waiting.Perm
      (p.task :: { st with mail := withoutOldest RoutedTask.key key st.mail }.waiting) :=
  (perm_cons_withoutOldest h).map RoutedTask.task

/-! ## The invariant -/

/-- The connection of a slot whose turn it is has the latest serial, and so
has each packet that is being handled; a connection has one disconnect at
most, after it has ended. -/
structure Turns (st : NetworkEX) : Prop where
  latest : ∀ sid serial, st.isOpen sid serial → .connected sid serial ∉ st.waiting →
    st.sessionSerials sid = some serial
  closing_le : ∀ sid serial, st.closing sid serial ≤ 1
  closing_live : ∀ sid serial, st.tcp.isConnected sid serial = true → st.closing sid serial = 0
  packets : ∀ key sid serial, ⟨key, .packet sid serial⟩ ∈ st.running →
    st.sessionSerials sid = some serial
  disconnects : ∀ sid serial,
    st.closes.count (sid, serial) + st.waiting.count (.disconnected sid serial) =
      st.ended.count (sid, serial)

/-- Before the first connection nothing waits. -/
theorem turns_init : Turns {} where
  latest sid serial hopen := by
    rcases hopen with h | h
    · cases h
    · cases h
  closing_le _ _ := Nat.zero_le 1
  closing_live _ _ _ := rfl
  packets _ _ _ h := by cases h
  disconnects _ _ := rfl

theorem Turns.attributed (h : Turns st) : Attributed st where
  packets key sid serial hrun := by
    unfold getLatestSerial
    rw [h.packets key sid serial hrun]
    rfl
  disconnects := h.disconnects

/-- Posting a connect or a packet. -/
theorem turns_dispatch (h : Turns st) (key : UInt64)
    (htask : ∀ sid serial, task ≠ .disconnected sid serial) : Turns (st.dispatch key task) := by
  have hwaiting := waiting_dispatch st key task
  have hcount : ∀ sid serial, (st.dispatch key task).waiting.count (.disconnected sid serial) =
      st.waiting.count (.disconnected sid serial) := by
    intro sid serial
    rw [count_waiting_dispatch, if_neg (htask sid serial), Nat.add_zero]
  have hclosing : ∀ sid serial, (st.dispatch key task).closing sid serial =
      st.closing sid serial := by
    intro sid serial
    rw [closing_dispatch, if_neg (htask sid serial), Nat.add_zero]
  constructor
  · intro sid serial hopen hnot
    rw [hwaiting, List.mem_append, not_or] at hnot
    refine h.latest sid serial (hopen.imp_right fun hdisc => ?_) hnot.1
    rw [hwaiting, List.mem_append, List.mem_singleton] at hdisc
    exact hdisc.resolve_right fun hc => htask sid serial hc.symm
  · intro sid serial
    rw [hclosing]
    exact h.closing_le sid serial
  · intro sid serial hconn
    rw [hclosing]
    exact h.closing_live sid serial hconn
  · exact h.packets
  · intro sid serial
    rw [hcount]
    exact h.disconnects sid serial

/-- A new connection whose connect has been posted. -/
theorem turns_tcpAccept (h : Turns st)
    (hwaits : .connected st.tcp.nextConnection.1 st.tcp.nextConnection.2 ∈ st.waiting)
    (hfree : st.closing st.tcp.nextConnection.1 st.tcp.nextConnection.2 = 0) :
    Turns { st with tcp := st.tcp.accept } := by
  refine ⟨fun sid serial hopen hnot => ?_, h.closing_le, fun sid serial hconn => ?_, h.packets,
    h.disconnects⟩
  · refine h.latest sid serial (hopen.imp_left fun hconn => ?_) hnot
    rcases isConnected_accept hconn with heq | hold
    · rw [← heq] at hwaits
      exact absurd hwaits hnot
    · exact hold.2
  · rcases isConnected_accept hconn with heq | hold
    · rw [← heq] at hfree
      exact hfree
    · exact h.closing_live sid serial hold.2

/-- The new connection is announced by a task that waits, so its turn has not come. -/
theorem turns_accept (h : Turns st) (hin : st.inTurn (.accept key) = true) :
    Turns (st.step (.accept key)) := by
  set c := st.tcp.nextConnection with hc
  have hfree : st.closing c.1 c.2 = 0 := by simpa [inTurn] using hin
  have hposted : Turns (st.dispatch key (.connected c.1 c.2)) := turns_dispatch h key nofun
  have hwaiting := waiting_dispatch st key (.connected c.1 c.2)
  have hwaits : .connected c.1 c.2 ∈ (st.dispatch key (.connected c.1 c.2)).waiting := by
    rw [hwaiting]
    exact List.mem_append_right _ List.mem_cons_self
  have hfree' : (st.dispatch key (.connected c.1 c.2)).closing c.1 c.2 = 0 := by
    rw [closing_dispatch, if_neg nofun]
    exact hfree
  exact turns_tcpAccept hposted hwaits hfree'

theorem turns_receive (h : Turns st) : Turns (st.step (.receive sid serial key)) := by
  unfold step
  dsimp only
  split
  · exact turns_dispatch h key nofun
  · exact h

/-- The end of a connection queues its one disconnect. -/
theorem turns_terminate (h : Turns st) : Turns (st.step (.terminate sid serial key)) := by
  unfold step
  dsimp only
  split
  case isFalse => exact h
  next hlive =>
  set ended : NetworkEX :=
    { st with tcp := st.tcp.terminate sid serial, ended := (sid, serial) :: st.ended } with hended
  have hwaiting : (ended.dispatch key (.disconnected sid serial)).waiting =
      st.waiting ++ [.disconnected sid serial] := waiting_dispatch _ key _
  constructor
  · intro sid' serial' hopen hnot
    rw [hwaiting, List.mem_append, not_or] at hnot
    refine h.latest sid' serial' ?_ hnot.1
    rcases hopen with hconn | hdisc
    · exact Or.inl (isConnected_terminate hlive hconn).2
    · rw [hwaiting, List.mem_append, List.mem_singleton] at hdisc
      rcases hdisc with hold | hnew
      · exact Or.inr hold
      · injection hnew with hsid hserial
        rw [hsid, hserial]
        exact Or.inl hlive
  · intro sid' serial'
    rw [closing_dispatch]
    split
    · next heq =>
      injection heq with hsid hserial
      subst hsid hserial
      have hnone : ended.closing sid serial = 0 := h.closing_live sid serial hlive
      rw [hnone]
    · exact h.closing_le sid' serial'
  · intro sid' serial' hconn
    obtain ⟨hsid, hconn'⟩ := isConnected_terminate hlive hconn
    rw [closing_dispatch, if_neg fun heq => hsid (LineTask.disconnected.inj heq).1.symm]
    exact h.closing_live sid' serial' hconn'
  · exact h.packets
  · intro sid' serial'
    have hold := h.disconnects sid' serial'
    rw [count_waiting_dispatch]
    change st.closes.count (sid', serial') + (st.waiting.count _ + _) =
      ((sid, serial) :: st.ended).count (sid', serial')
    rw [List.count_cons]
    simp only [LineTask.disconnected.injEq, beq_iff_eq, Prod.mk.injEq]
    omega

/-- A connect or a packet has started: it waits no more, and its serial is
written. -/
structure Writes (st st' : NetworkEX) (key : UInt64) (sid serial : UInt32) (task : LineTask) :
    Prop where
  tcp : st'.tcp = st.tcp
  serials : st'.sessionSerials = st.sessionSerials.set sid serial
  perm : st.waiting.Perm (task :: st'.waiting)
  task : task = .connected sid serial ∨ task = .packet sid serial
  running : st'.running = st.running ∨ st'.running = ⟨key, .packet sid serial⟩ :: st.running
  closes : st'.closes = st.closes
  ended : st'.ended = st.ended

/-- The connect task records the serial of its connection. -/
theorem writes_handleConnected
    (hold : oldest RoutedTask.key key st.mail = some ⟨key, .connected sid serial⟩) :
    Writes st ({ st with mail := withoutOldest RoutedTask.key key st.mail }.handleConnected sid
      serial) key sid serial (.connected sid serial) where
  tcp := rfl
  serials := rfl
  perm := waiting_perm hold
  task := Or.inl rfl
  running := Or.inl rfl
  closes := rfl
  ended := rfl

/-- A packet records the serial of the connection it came from. -/
theorem writes_beginPacket
    (hold : oldest RoutedTask.key key st.mail = some ⟨key, .packet sid serial⟩) :
    Writes st ({ st with mail := withoutOldest RoutedTask.key key st.mail }.beginPacket key sid
      serial) key sid serial (.packet sid serial) where
  tcp := rfl
  serials := rfl
  perm := waiting_perm hold
  task := Or.inr rfl
  running := Or.inr rfl
  closes := rfl
  ended := rfl

theorem Writes.isOpen {st' : NetworkEX} (w : Writes st st' key sid serial task)
    (hopen : st'.isOpen sid' serial') : st.isOpen sid' serial' := by
  unfold NetworkEX.isOpen at hopen ⊢
  rw [w.tcp] at hopen
  exact hopen.imp_right fun hmem => w.perm.mem_iff.mpr (List.mem_cons_of_mem _ hmem)

/-- Recording a serial takes no disconnect. -/
theorem Writes.count_disconnected {st' : NetworkEX} (w : Writes st st' key sid serial task)
    (sid' serial' : UInt32) : st'.waiting.count (.disconnected sid' serial') =
      st.waiting.count (.disconnected sid' serial') := by
  have hne : task ≠ .disconnected sid' serial' := by
    rintro rfl
    rcases w.task with hc | hc <;> cases hc
  rw [w.perm.count_eq, List.count_cons_of_ne hne]

/-- Neither of them is a disconnect. -/
theorem Writes.closing_eq {st' : NetworkEX} (w : Writes st st' key sid serial task)
    (sid' serial' : UInt32) : st'.closing sid' serial' = st.closing sid' serial' := by
  unfold closing
  rw [w.count_disconnected]
  rcases w.running with hr | hr
  · rw [hr]
  · have hne : LineTask.packet sid serial ≠ .disconnected sid' serial' := nofun
    rw [hr, List.map_cons, List.count_cons_of_ne hne]

/-- The connect of another connection still waits. -/
theorem Writes.connected_mem {st' : NetworkEX} (w : Writes st st' key sid serial task)
    (hmem : .connected sid' serial' ∈ st.waiting) (hne : ¬(sid' = sid ∧ serial' = serial)) :
    .connected sid' serial' ∈ st'.waiting := by
  refine (List.mem_cons.mp (w.perm.mem_iff.mp hmem)).resolve_left fun heq => ?_
  rcases w.task with ht | ht
  · rw [ht] at heq
    exact hne (LineTask.connected.inj heq)
  · rw [ht] at heq
    cases heq

/-- Only the packet task starts a packet, its own. -/
theorem Writes.packet_mem {st' : NetworkEX} {key' : UInt64}
    (w : Writes st st' key sid serial task) (hrun : ⟨key', .packet sid' serial'⟩ ∈ st'.running) :
    ⟨key', .packet sid' serial'⟩ ∈ st.running ∨ sid' = sid ∧ serial' = serial := by
  rcases w.running with hr | hr
  · rw [hr] at hrun
    exact Or.inl hrun
  · rw [hr] at hrun
    rcases List.mem_cons.mp hrun with heq | hmem
    · injection heq with _ hpacket
      exact Or.inr (LineTask.packet.inj hpacket)
    · exact Or.inl hmem

/-- A connect or a packet in its turn writes its serial. -/
theorem turns_write {st' : NetworkEX} (h : Turns st) (w : Writes st st' key sid serial task)
    (hin : (st.othersWait sid serial && st.noOtherPacket sid serial) = true) : Turns st' := by
  obtain ⟨hwait, hother⟩ := Bool.and_eq_true_iff.mp hin
  constructor
  · intro sid' serial' hopen hnot
    rw [w.serials]
    by_cases hsid : sid' = sid
    · subst hsid
      rw [Table.set_self]
      by_cases hserial : serial' = serial
      · rw [hserial]
      · -- an open connection that is not this one still has its connect to come
        have hconn := connected_mem_of_othersWait hwait (w.isOpen hopen) hserial
        exact absurd (w.connected_mem hconn fun hc => hserial hc.2) hnot
    · rw [Table.set_of_ne _ _ hsid]
      exact h.latest sid' serial' (w.isOpen hopen) fun hmem =>
        hnot (w.connected_mem hmem fun hc => hsid hc.1)
  · intro sid' serial'
    rw [w.closing_eq]
    exact h.closing_le sid' serial'
  · intro sid' serial' hconn
    rw [w.tcp] at hconn
    rw [w.closing_eq]
    exact h.closing_live sid' serial' hconn
  · intro key' sid' serial' hrun
    rw [w.serials]
    rcases w.packet_mem hrun with hmem | ⟨rfl, rfl⟩
    · by_cases hsid : sid' = sid
      · subst hsid
        rw [Table.set_self, eq_of_noOtherPacket hother hmem]
      · rw [Table.set_of_ne _ _ hsid]
        exact h.packets key' sid' serial' hmem
    · exact Table.set_self ..
  · intro sid' serial'
    rw [w.closes, w.ended, w.count_disconnected]
    exact h.disconnects sid' serial'

/-- A disconnect in its turn is delivered. -/
theorem turns_beginDisconnected (h : Turns st)
    (hold : oldest RoutedTask.key key st.mail = some ⟨key, .disconnected sid serial⟩)
    (hin : .connected sid serial ∉ st.waiting) :
    Turns ({ st with mail := withoutOldest RoutedTask.key key st.mail }.beginDisconnected key sid
      serial) := by
  set st' := { st with mail := withoutOldest RoutedTask.key key st.mail }.beginDisconnected key sid
    serial with hst'
  have hperm : st.waiting.Perm (.disconnected sid serial :: st'.waiting) := waiting_perm hold
  have hmem : .disconnected sid serial ∈ st.waiting := hperm.mem_iff.mpr List.mem_cons_self
  have hlatest : st.getLatestSerial sid = serial := by
    unfold getLatestSerial
    rw [h.latest sid serial (Or.inr hmem) hin]
    rfl
  have hcloses : st'.closes = (sid, serial) :: st.closes := by
    have hnot : ¬st.getLatestSerial sid ≠ serial := not_not.mpr hlatest
    exact if_neg hnot
  have hclosing : ∀ sid' serial', st'.closing sid' serial' = st.closing sid' serial' := by
    intro sid' serial'
    unfold closing
    rw [hperm.count_eq]
    change _ + ((LineTask.disconnected sid serial) :: st.running.map RoutedTask.task).count _ = _
    rw [List.count_cons, List.count_cons]
    omega
  constructor
  · intro sid' serial' hopen hnot
    refine h.latest sid' serial' ?_ fun hc => ?_
    · exact hopen.imp_right fun hc => hperm.mem_iff.mpr (List.mem_cons_of_mem _ hc)
    · rcases List.mem_cons.mp (hperm.mem_iff.mp hc) with heq | hmem'
      · cases heq
      · exact hnot hmem'
  · intro sid' serial'
    rw [hclosing]
    exact h.closing_le sid' serial'
  · intro sid' serial' hconn
    rw [hclosing]
    exact h.closing_live sid' serial' hconn
  · intro key' sid' serial' hrun
    rcases List.mem_cons.mp hrun with heq | hmem'
    · injection heq with _ hc
      cases hc
    · exact h.packets key' sid' serial' hmem'
  · intro sid' serial'
    have hcount := h.disconnects sid' serial'
    rw [hperm.count_eq, List.count_cons] at hcount
    rw [hcloses, List.count_cons]
    change _ = st.ended.count (sid', serial')
    have hpair : ((sid, serial) == (sid', serial')) =
        (LineTask.disconnected sid serial == .disconnected sid' serial') := by
      rw [Bool.eq_iff_iff, beq_iff_eq, beq_iff_eq, Prod.mk.injEq, LineTask.disconnected.injEq]
    rw [hpair]
    omega

/-- The oldest task of a key: connect, packet or disconnect. -/
theorem turns_runOldest (h : Turns st) (hin : st.inTurn (.run key) = true) :
    Turns (st.runOldest key) := by
  unfold runOldest
  split
  · exact h
  next hidle =>
  cases hold : oldest RoutedTask.key key st.mail with
  | none => exact h
  | some p =>
      have hturn : st.taskInTurn p.task = true := by
        unfold inTurn at hin
        dsimp only at hin
        rw [hold] at hin
        simpa [hidle] using hin
      obtain rfl := addr_of_oldest hold
      obtain ⟨key, task⟩ := p
      cases task with
      | connected sid serial =>
          exact turns_write h (writes_handleConnected hold) hturn
      | packet sid serial =>
          exact turns_write h (writes_beginPacket hold) hturn
      | disconnected sid serial =>
          exact turns_beginDisconnected h hold (by simpa [taskInTurn] using hturn)

/-- The end of a task that is not a disconnect. -/
theorem turns_endTask {p : RoutedTask} (h : Turns st)
    (hold : oldest RoutedTask.key key st.running = some p) :
    Turns { st with running := withoutOldest RoutedTask.key key st.running } := by
  have hperm := perm_cons_withoutOldest hold
  have hclosing : ∀ sid serial,
      { st with running := withoutOldest RoutedTask.key key st.running }.closing sid serial ≤
        st.closing sid serial := by
    intro sid serial
    unfold closing
    rw [(hperm.map RoutedTask.task).count_eq, List.map_cons, List.count_cons]
    exact Nat.add_le_add_left (Nat.le_add_right ..) _
  refine ⟨h.latest, fun sid serial => ?_, fun sid serial hconn => ?_,
    fun key' sid serial hrun => ?_, h.disconnects⟩
  · exact (hclosing sid serial).trans (h.closing_le sid serial)
  · have hzero := h.closing_live sid serial hconn
    have hle := hclosing sid serial
    omega
  · exact h.packets key' sid serial (hperm.mem_iff.mpr (List.mem_cons_of_mem _ hrun))

/-- The end of a disconnect none of whose packets is being handled. -/
theorem turns_endDisconnected (h : Turns st)
    (hold : oldest RoutedTask.key key st.running = some ⟨key, .disconnected sid serial⟩)
    (hin : st.noPacketOf sid serial = true) :
    Turns ({ st with running := withoutOldest RoutedTask.key key st.running }.endDisconnected sid
      serial) := by
  have hperm := perm_cons_withoutOldest hold
  have hbase := turns_endTask h hold
  have hone : 1 ≤ (st.running.map RoutedTask.task).count (.disconnected sid serial) := by
    rw [(hperm.map RoutedTask.task).count_eq, List.map_cons, List.count_cons_self]
    exact Nat.le_add_left ..
  have hclosed : ¬st.isOpen sid serial := by
    rintro (hconn | hdisc)
    · have hzero := h.closing_live sid serial hconn
      unfold closing at hzero
      omega
    · have hle := h.closing_le sid serial
      have hpos := List.count_pos_iff.mpr hdisc
      unfold closing at hle
      omega
  refine ⟨fun sid' serial' hopen hnot => ?_, hbase.closing_le, hbase.closing_live,
    fun key' sid' serial' hrun => ?_, hbase.disconnects⟩
  · refine Table.eraseMatching_eq_some_iff.mpr ⟨h.latest sid' serial' hopen hnot, ?_⟩
    rintro ⟨rfl, rfl⟩
    exact hclosed hopen
  · refine Table.eraseMatching_eq_some_iff.mpr ⟨hbase.packets key' sid' serial' hrun, ?_⟩
    rintro ⟨rfl, rfl⟩
    exact not_mem_of_noPacketOf hin (hperm.mem_iff.mpr (List.mem_cons_of_mem _ hrun))

/-- A handled packet leaves the running tasks. -/
theorem turns_finish (h : Turns st) (hin : st.inTurn (.finish key) = true) :
    Turns (st.finish key) := by
  unfold finish
  dsimp only
  cases hold : oldest RoutedTask.key key st.running with
  | none => exact h
  | some p =>
      unfold inTurn at hin
      dsimp only at hin
      rw [hold] at hin
      obtain rfl := addr_of_oldest hold
      obtain ⟨key, task⟩ := p
      cases task with
      | connected sid serial => exact turns_endTask h hold
      | packet sid serial => exact turns_endTask h hold
      | disconnected sid serial => exact turns_endDisconnected h hold hin

/-- The step lemma, for the events that come in turn. -/
theorem turns_step (e : Event) (h : Turns st) (hin : st.inTurn e = true) : Turns (st.step e) := by
  cases e with
  | accept key => exact turns_accept h hin
  | receive sid serial key => exact turns_receive h
  | terminate sid serial key => exact turns_terminate h
  | run key => exact turns_runOldest h hin
  | finish key => exact turns_finish h hin

/-- **Packet attribution and close delivery**: while the connections of each
slot take turns, every packet that is being handled finds its own serial,
and every disconnect is delivered once. -/
theorem attributed_of_along (es : List Event)
    (h : Along step (fun st e => st.inTurn e = true) {} es) : Always step Attributed {} es := by
  have hturns : Always step Turns {} es :=
    always_of_along turns_init (fun st e hst hin => turns_step e hst hin) h
  exact hturns.imp fun st hst => hst.attributed

/-- Two connections of slot 1, one after the other; the packet of the first is
handled on another actor. -/
def inOrder : List Event :=
  [.accept 0, .run 0, .receive 1 1 5, .run 5, .finish 5, .terminate 1 1 0, .run 0, .finish 0,
    .accept 0, .run 0, .receive 1 2 0, .run 0, .finish 0, .terminate 1 2 0, .run 0, .finish 0]

theorem attributed_inOrder :
    Along step (fun st e => st.inTurn e = true) {} inOrder ∧
      Always step Attributed {} inOrder := by
  have h : Along step (fun st e => st.inTurn e = true) {} inOrder := by decide
  exact ⟨h, attributed_of_along inOrder h⟩

/-- The packet of the first connection comes to its turn when slot 1 has been
handed to the second. -/
def latePacket : List Event :=
  [.accept 0, .run 0, .receive 1 1 5, .terminate 1 1 0, .run 0, .finish 0,
    .accept 0, .run 0, .run 5, .finish 5, .terminate 1 2 0, .run 0, .finish 0]

/-- The disconnect of the second connection is taken for a stale one. -/
theorem not_attributed_latePacket : ¬Always step Attributed {} latePacket := by
  intro h
  have hend := always_iff_forall_part.mp h latePacket List.prefix_rfl
  have hcount := hend.disconnects 1 2
  revert hcount
  decide

end NetworkEX

end GameServer
