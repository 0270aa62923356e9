import GameServer.Lib.Table
import GameServer.World.SessionKey

/-!
# GameServer.World.TcpServer

The slot table of a listening line (`net/tcp/tcp_server.h`).

A connection gets a slot index and a serial: indices are reused through a
free list, and the serial of a slot grows by one each time it is handed out,
so the pair tells an old connection of a slot from a new one — as long as
whoever keeps the pair also compares the serial.

* `accept` — `run()` up to `slots_[index] = session`;
* `close` / `send` — the calls with a serial, which do nothing on a slot
  that is free or holds another connection;
* `terminate` — the end of a session's coroutine: the slot is freed.
-/

namespace GameServer

/-- A live `TcpSession`: its serial, and whether its socket was closed from
our side (the read loop then ends on its own). -/
structure TcpSession where
  serial : UInt32
  closeRequested : Bool := false
deriving DecidableEq, Repr

/-- `TcpServer`.  `freeList` has the back of `free_list_` first. -/
structure TcpServer where
  slots : Table UInt32 TcpSession
  slotSerials : UInt32 → UInt32
  freeList : List UInt32
  slotCount : UInt32

namespace TcpServer

/-- Index 0 is reserved, so the first slot handed out is 1. -/
def initial : TcpServer where
  slots := .empty
  slotSerials := fun _ => 0
  freeList := []
  slotCount := 1

/-- `alloc_slot_`. -/
def allocSlot (t : TcpServer) : UInt32 × TcpServer :=
  match t.freeList with
  | idx :: rest => (idx, { t with freeList := rest })
  | [] => (t.slotCount, { t with slotCount := t.slotCount + 1 })

/-- The index and the serial the next accepted connection gets. -/
def nextConnection (t : TcpServer) : UInt32 × UInt32 :=
  let idx := t.allocSlot.1
  (idx, t.slotSerials idx + 1)

/-- The accept loop's registration of a new connection. -/
def accept (t : TcpServer) : TcpServer :=
  let (idx, serial) := t.nextConnection
  let t := t.allocSlot.2
  { t with
    slotSerials := Function.update t.slotSerials idx serial
    slots := t.slots.set idx { serial } }

/-- Does the slot hold the connection `(index, serial)`? -/
def isConnected (t : TcpServer) (index serial : UInt32) : Bool :=
  (t.slots index).any (·.serial == serial)

/-- `try_get_session_`: is `(index, serial)` a valid key and the connection
of its slot? -/
def isLive (t : TcpServer) (index serial : UInt32) : Bool :=
  isValidSessionKey index serial && t.isConnected index serial

/-- `close(index, serial)`. -/
def close (t : TcpServer) (index serial : UInt32) : TcpServer :=
  if t.isLive index serial then
    { t with slots := t.slots.set index { serial, closeRequested := true } }
  else t

/-- `send(index, serial, …)`: accepted iff the connection is live. -/
def send (t : TcpServer) (index serial : UInt32) : Bool := t.isLive index serial

/-- The registry cleanup after `co_await session->start()`. -/
def terminate (t : TcpServer) (index serial : UInt32) : TcpServer :=
  if t.isConnected index serial then
    { t with slots := t.slots.erase index, freeList := index :: t.freeList }
  else t

/-- A close on a connection that is not live changes nothing. -/
theorem close_of_not_live {t : TcpServer} {index serial : UInt32}
    (h : t.isLive index serial = false) : t.close index serial = t := by
  simp [close, h]

@[simp] theorem slotSerials_close (t : TcpServer) (index serial : UInt32) :
    (t.close index serial).slotSerials = t.slotSerials := by
  simp only [close]
  split <;> rfl

@[simp] theorem slotSerials_terminate (t : TcpServer) (index serial : UInt32) :
    (t.terminate index serial).slotSerials = t.slotSerials := by
  simp only [terminate]
  split <;> rfl

/-- An accept stores the next connection in its slot. -/
theorem slots_accept (t : TcpServer) :
    t.accept.slots = t.slots.set t.nextConnection.1 { serial := t.nextConnection.2 } := by
  have hslots : t.allocSlot.2.slots = t.slots := by
    unfold allocSlot
    split <;> rfl
  unfold accept
  dsimp only
  rw [hslots]

/-- With no free slot, a new one is made. -/
theorem accept_of_free_nil {t : TcpServer} (h : t.freeList = []) :
    t.accept =
      { slots := t.slots.set t.slotCount { serial := t.slotSerials t.slotCount + 1 }
        slotSerials := Function.update t.slotSerials t.slotCount (t.slotSerials t.slotCount + 1)
        freeList := []
        slotCount := t.slotCount + 1 } := by
  simp [accept, nextConnection, allocSlot, h]

/-- The slot that was freed last is used again. -/
theorem accept_of_free_cons {t : TcpServer} {idx : UInt32} {rest : List UInt32}
    (h : t.freeList = idx :: rest) :
    t.accept =
      { t with
        slots := t.slots.set idx { serial := t.slotSerials idx + 1 }
        slotSerials := Function.update t.slotSerials idx (t.slotSerials idx + 1)
        freeList := rest } := by
  simp [accept, nextConnection, allocSlot, h]

theorem slots_terminate {t : TcpServer} {index serial : UInt32}
    (h : t.isConnected index serial = true) :
    (t.terminate index serial).slots = t.slots.erase index := by
  rw [terminate, if_pos h]

/-- A close is only asked for: the slot keeps its connection. -/
theorem serial_close (t : TcpServer) (index serial idx : UInt32) :
    ((t.close index serial).slots idx).map TcpSession.serial =
      (t.slots idx).map TcpSession.serial := by
  unfold close
  split
  next hlive =>
    have hconnected := (Bool.and_eq_true_iff.mp hlive).2
    dsimp only
    by_cases hidx : idx = index
    · subst hidx
      rw [Table.set_self]
      unfold isConnected at hconnected
      cases hslot : t.slots idx with
      | none => simp [hslot] at hconnected
      | some s =>
          rw [hslot] at hconnected
          exact congrArg some (eq_of_beq hconnected).symm
    · rw [Table.set_of_ne _ _ hidx]
  next => rfl

theorem isConnected_eq (t : TcpServer) (index serial : UInt32) :
    t.isConnected index serial = (((t.slots index).map TcpSession.serial) == some serial) := by
  unfold isConnected
  cases t.slots index with
  | none => rfl
  | some s => rfl

@[simp] theorem isConnected_close (t : TcpServer) (index serial idx ser : UInt32) :
    (t.close index serial).isConnected idx ser = t.isConnected idx ser := by
  rw [isConnected_eq, isConnected_eq, serial_close]

@[simp] theorem slotCount_close (t : TcpServer) (index serial : UInt32) :
    (t.close index serial).slotCount = t.slotCount := by
  simp only [close]
  split <;> rfl

@[simp] theorem freeList_close (t : TcpServer) (index serial : UInt32) :
    (t.close index serial).freeList = t.freeList := by
  simp only [close]
  split <;> rfl

/-! ## Free slots -/

/-- The free slots hold no connection, and none is free twice. -/
structure FreeSlots (t : TcpServer) : Prop where
  empty : ∀ idx ∈ t.freeList, t.slots idx = none
  below : ∀ idx ∈ t.freeList, idx < t.slotCount
  taken : ∀ idx s, t.slots idx = some s → idx < t.slotCount
  nodup : t.freeList.Nodup

variable {t : TcpServer} {index serial : UInt32}

theorem freeSlots_initial : FreeSlots initial where
  empty idx h := by cases h
  below idx h := by cases h
  taken idx s h := by cases h
  nodup := List.nodup_nil

/-- The next connection gets a slot that holds none. -/
theorem FreeSlots.nextConnection (h : t.FreeSlots) : t.slots t.nextConnection.1 = none := by
  unfold TcpServer.nextConnection allocSlot
  cases hfree : t.freeList with
  | nil =>
      refine Option.eq_none_iff_forall_ne_some.mpr fun s hslot => ?_
      exact UInt32.lt_irrefl _ (h.taken _ s hslot)
  | cons idx rest => exact h.empty idx (hfree ▸ List.mem_cons_self)

/-- It adds one slot at most. -/
theorem slotCount_accept_le (t : TcpServer) :
    t.accept.slotCount.toNat ≤ t.slotCount.toNat + 1 := by
  cases hfree : t.freeList with
  | nil =>
      rw [accept_of_free_nil hfree, UInt32.toNat_add]
      exact Nat.mod_le _ _
  | cons idx rest =>
      rw [accept_of_free_cons hfree]
      exact Nat.le_succ _

/-- So does the one after it, as long as there is an index for a new slot. -/
theorem FreeSlots.accept (h : t.FreeSlots) (hroom : t.slotCount.toNat + 1 < 2 ^ 32) :
    t.accept.FreeSlots := by
  cases hfree : t.freeList with
  | nil =>
      have hgrows : (t.slotCount + 1).toNat = t.slotCount.toNat + 1 := by
        rw [UInt32.toNat_add]
        exact Nat.mod_eq_of_lt hroom
      rw [accept_of_free_nil hfree]
      refine ⟨fun idx hidx => (List.not_mem_nil hidx).elim, fun idx hidx =>
        (List.not_mem_nil hidx).elim, fun idx s hs => ?_, List.nodup_nil⟩
      rw [UInt32.lt_iff_toNat_lt, hgrows]
      by_cases hidx : idx = t.slotCount
      · rw [hidx]
        exact Nat.lt_succ_self _
      · dsimp only at hs
        rw [Table.set_of_ne _ _ hidx] at hs
        exact Nat.lt_succ_of_lt (UInt32.lt_iff_toNat_lt.mp (h.taken idx s hs))
  | cons idx rest =>
      have hnodup := h.nodup
      rw [hfree, List.nodup_cons] at hnodup
      have hmem (i : UInt32) (hi : i ∈ rest) : i ∈ t.freeList := hfree ▸ List.mem_cons_of_mem idx hi
      rw [accept_of_free_cons hfree]
      refine ⟨fun i hi => ?_, fun i hi => h.below i (hmem i hi), fun i s hs => ?_, hnodup.2⟩
      · have hne : i ≠ idx := fun heq => hnodup.1 (heq ▸ hi)
        exact (Table.set_of_ne _ _ hne).trans (h.empty i (hmem i hi))
      · by_cases hidx : i = idx
        · exact hidx ▸ h.below idx (hfree ▸ List.mem_cons_self)
        · exact h.taken i s ((Table.set_of_ne _ _ hidx).symm.trans hs)

/-- The slot of a connection that ends becomes free once. -/
theorem FreeSlots.terminate (h : t.FreeSlots) (hconn : t.isConnected index serial = true) :
    (t.terminate index serial).FreeSlots := by
  have hslot : ∃ s, t.slots index = some s := by
    unfold isConnected at hconn
    exact Option.isSome_iff_exists.mp (Option.isSome_of_any hconn)
  obtain ⟨s, hs⟩ := hslot
  have hout : index ∉ t.freeList := fun hin => by
    rw [h.empty index hin] at hs
    cases hs
  rw [TcpServer.terminate, if_pos hconn]
  refine ⟨fun i hi => ?_, fun i hi => ?_, fun i s' hs' => ?_, List.nodup_cons.mpr ⟨hout, h.nodup⟩⟩
  · rcases List.mem_cons.mp hi with rfl | hi
    · exact Table.erase_self _ _
    · have hne : i ≠ index := fun heq => hout (heq ▸ hi)
      exact (Table.erase_of_ne _ hne).trans (h.empty i hi)
  · rcases List.mem_cons.mp hi with rfl | hi
    · exact h.taken i s hs
    · exact h.below i hi
  · exact h.taken i s' (Table.erase_eq_some_iff.mp hs').2

/-- A close marks the connection; its slot stays taken. -/
theorem FreeSlots.close (h : t.FreeSlots) (index serial : UInt32) :
    (t.close index serial).FreeSlots := by
  have hsame (i : UInt32) : (t.close index serial).slots i = none ↔ t.slots i = none := by
    rw [← Option.map_eq_none_iff, serial_close, Option.map_eq_none_iff]
  refine ⟨fun i hi => ?_, fun i hi => ?_, fun i s hs => ?_, by rw [freeList_close]; exact h.nodup⟩
  · rw [freeList_close] at hi
    exact (hsame i).mpr (h.empty i hi)
  · rw [freeList_close] at hi
    rw [slotCount_close]
    exact h.below i hi
  · rw [slotCount_close]
    cases hslot : t.slots i with
    | none =>
        rw [(hsame i).mpr hslot] at hs
        cases hs
    | some s' => exact h.taken i s' hslot

end TcpServer

end GameServer
