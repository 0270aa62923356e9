import GameServer.Lib.Run
import GameServer.Lib.Table
import GameServer.World.TcpServer

/-!
# GameServer.Net.SlotTable

The slots of a listening line, with the session objects they point to
(`net/tcp/tcp_server.h`).

A slot holds a weak pointer: it finds its session while the coroutine of the
connection, or somebody who is sending to it, keeps the object.  A session
is named by the order in which it was made.

* `accept`, `finish` — `run()`: a slot is handed out, and given back by the
  coroutine when the connection has ended;
* `SlotsExclusive` — no slot is shared or both free and taken, and a key finds
  the session it was made for or none;
* `slotsExclusive_run_iff` — this is so until the 32-bit index comes around;
* `simulates_of_along` — the slots as the handlers see them (`TcpServer`).
-/

namespace GameServer

/-- `TcpServer` with its sessions.  `freeList` has the back of `free_list_`
first; `running` are the sessions whose coroutine has not ended, and `held`
those that another shared pointer keeps. -/
structure SlotTable where
  slots : Table Nat Nat := .empty
  slotCount : Nat := 1
  slotSerials : Nat → UInt32 := fun _ => 0
  freeList : List UInt32 := []
  sessions : List (UInt32 × UInt32) := []
  running : List Nat := []
  held : List Nat := []

namespace SlotTable

section

variable (t : SlotTable)

/-- The object exists. -/
def alive (id : Nat) : Bool := id ∈ t.running || id ∈ t.held

/-- `slots_[index].lock()`. -/
def lock (index : Nat) : Option Nat := (t.slots index).filter t.alive

/-- `index()` and `serial()` of a session. -/
def key (id : Nat) : UInt32 × UInt32 := t.sessions.getD id (0, 0)

/-- `try_get_session_`. -/
def tryGetSession (index serial : UInt32) : Option Nat :=
  if isValidSessionKey index serial = false then none
  else if t.slotCount ≤ index.toNat then none
  else (t.lock index.toNat).filter fun id => (t.key id).2 = serial

/-- `alloc_slot_`. -/
def allocSlot : UInt32 × SlotTable :=
  match t.freeList with
  | idx :: rest => (idx, { t with freeList := rest })
  | [] => (UInt32.ofNat t.slotCount, { t with slotCount := t.slotCount + 1 })

/-- A connection is accepted. -/
def accept : SlotTable :=
  let idx := t.allocSlot.1
  let serial := t.slotSerials idx.toNat + 1
  let id := t.sessions.length
  let t := t.allocSlot.2
  { t with
    slotSerials := Function.update t.slotSerials idx.toNat serial
    slots := t.slots.set idx.toNat id
    sessions := t.sessions ++ [(idx, serial)]
    running := id :: t.running }

/-- What the coroutine does with the slot once `start()` has returned. -/
def cleanup (id : Nat) : SlotTable :=
  let idx := (t.key id).1
  if idx.toNat < t.slotCount then
    match t.lock idx.toNat with
    | some cur =>
        if (t.key cur).2 = (t.key id).2 then
          { t with slots := t.slots.erase idx.toNat, freeList := idx :: t.freeList }
        else t
    | none => { t with freeList := idx :: t.freeList }
  else t

/-- The coroutine ends, and lets go of its session. -/
def endCoroutine (id : Nat) : SlotTable := { t with running := t.running.erase id }

end

/-- What happens to the slots.  A coroutine that is abandoned ends by an
exception of a handler, without a cleanup. -/
inductive Event where
  | accept
  | finish (id : Nat)
  | abandon (id : Nat)
  | hold (id : Nat)
  | release (id : Nat)
deriving DecidableEq, Repr

/-- One step of the slots. -/
def step (t : SlotTable) : Event → SlotTable
  | .accept => t.accept
  | .finish id => if id ∈ t.running then (t.cleanup id).endCoroutine id else t
  | .abandon id => if id ∈ t.running then t.endCoroutine id else t
  | .hold id => if t.alive id then { t with held := id :: t.held } else t
  | .release id => { t with held := t.held.erase id }

/-- How often a slot was handed out. -/
def handouts (t : SlotTable) (index : UInt32) : Nat := (t.sessions.map Prod.fst).count index

/-- **Slot allocation**: live sessions have slots of their own, no slot is
free twice or free and taken, index 0 is not handed out, and the key of a
session finds that session or none, as long as its slot was not reused 2^32
times. -/
structure SlotsExclusive (t : SlotTable) : Prop where
  own : ∀ id ∈ t.running, ∀ id' ∈ t.running, (t.key id).1 = (t.key id').1 → id = id'
  not_zero : ∀ c ∈ t.sessions, c.1 ≠ 0
  free_nodup : t.freeList.Nodup
  free_not_live : ∀ id ∈ t.running, (t.key id).1 ∉ t.freeList
  exact_key : ∀ id c, t.sessions[id]? = some c → t.handouts c.1 ≤ 2 ^ 32 →
    t.tryGetSession c.1 c.2 = none ∨ t.tryGetSession c.1 c.2 = some id

/-- There is a free slot, or an index for a new one. -/
def hasIndex (t : SlotTable) : Event → Bool
  | .accept => t.freeList ≠ [] ∨ t.slotCount < 2 ^ 32
  | _ => true

/-! ## Serials -/

/-- The serial of a session tells how often its slot had been handed out. -/
structure Counted (t : SlotTable) : Prop where
  current : ∀ index : UInt32, t.slotSerials index.toNat = UInt32.ofNat (t.handouts index)
  session : ∀ id c, t.sessions[id]? = some c →
    c.2 = UInt32.ofNat (((t.sessions.take (id + 1)).map Prod.fst).count c.1)

variable {t : SlotTable} {id : Nat}

theorem counted_init : Counted {} where
  current _ := rfl
  session id c h := by cases h

/-- `Counted` reads the serials and the sessions only. -/
theorem Counted.congr {t' : SlotTable} (h : Counted t) (hserials : t'.slotSerials = t.slotSerials)
    (hsessions : t'.sessions = t.sessions) : Counted t' where
  current index := by
    unfold handouts
    rw [hserials, hsessions]
    exact h.current index
  session id c hc := by
    rw [hsessions] at hc ⊢
    exact h.session id c hc

theorem slotSerials_allocSlot : t.allocSlot.2.slotSerials = t.slotSerials := by
  unfold allocSlot
  split <;> rfl

theorem sessions_allocSlot : t.allocSlot.2.sessions = t.sessions := by
  unfold allocSlot
  split <;> rfl

theorem sessions_accept : t.accept.sessions =
    t.sessions ++ [(t.allocSlot.1, t.slotSerials t.allocSlot.1.toNat + 1)] := by
  unfold accept
  dsimp only
  rw [sessions_allocSlot]

/-- An accept counts one more handout of its slot and bumps that slot's serial with it. -/
theorem Counted.accept (h : Counted t) : Counted t.accept := by
  set idx := t.allocSlot.1 with hidx
  have hserial : t.slotSerials idx.toNat + 1 = UInt32.ofNat (t.handouts idx + 1) := by
    rw [h.current, UInt32.ofNat_add]
    rfl
  constructor
  · intro index
    have hcount : t.accept.handouts index =
        t.handouts index + if idx = index then 1 else 0 := by
      unfold handouts
      rw [sessions_accept, List.map_append, List.count_append, List.map_singleton,
        List.count_singleton]
      simp only [beq_iff_eq, ← hidx]
    rw [hcount]
    unfold SlotTable.accept
    dsimp only
    rw [slotSerials_allocSlot, ← hidx]
    by_cases hi : idx = index
    · subst hi
      rw [if_pos rfl, Function.update_self, hserial]
    · have hne : index.toNat ≠ idx.toNat := fun hc => hi (UInt32.toNat_inj.mp hc).symm
      rw [if_neg hi, Function.update_of_ne hne, h.current, Nat.add_zero]
  · intro id c hc
    rw [sessions_accept] at hc ⊢
    rcases Nat.lt_trichotomy id t.sessions.length with hlt | heq | hgt
    · rw [List.getElem?_append_left hlt] at hc
      rw [List.take_append_of_le_length hlt]
      exact h.session id c hc
    · subst heq
      rw [List.getElem?_append_right (Nat.le_refl _), Nat.sub_self] at hc
      obtain rfl := Option.some.inj hc
      dsimp only
      rw [List.take_of_length_le (by simp), List.map_append, List.count_append,
        List.map_singleton, List.count_singleton_self, ← hidx, hserial]
      rfl
    · rw [List.getElem?_eq_none (by simp; omega)] at hc
      cases hc

/-- A cleanup leaves the history of the sessions as it is. -/
theorem sessions_cleanup : (t.cleanup id).sessions = t.sessions := by
  unfold cleanup
  dsimp only
  split
  · split
    · split <;> rfl
    · rfl
  · rfl

/-- A cleanup leaves the serials as they are. -/
theorem slotSerials_cleanup : (t.cleanup id).slotSerials = t.slotSerials := by
  unfold cleanup
  dsimp only
  split
  · split
    · split <;> rfl
    · rfl
  · rfl

/-- Every event keeps the count. -/
theorem Counted.step (h : Counted t) (e : Event) : Counted (t.step e) := by
  cases e with
  | accept => exact h.accept
  | finish id =>
      unfold SlotTable.step
      dsimp only
      split
      · exact h.congr slotSerials_cleanup sessions_cleanup
      · exact h
  | abandon id =>
      unfold SlotTable.step
      dsimp only
      split
      · exact h.congr rfl rfl
      · exact h
  | hold id =>
      unfold SlotTable.step
      dsimp only
      split
      · exact h.congr rfl rfl
      · exact h
  | release id => exact h.congr rfl rfl

/-- A later session of the same slot has seen more handouts. -/
theorem handouts_take_lt {id' : Nat} {c : UInt32 × UInt32} (hlt : id < id')
    (hc' : t.sessions[id']? = some c) :
    ((t.sessions.take (id + 1)).map Prod.fst).count c.1 <
      ((t.sessions.take (id' + 1)).map Prod.fst).count c.1 := by
  obtain ⟨hbound, hget⟩ := List.getElem?_eq_some_iff.mp hc'
  have hlast : t.sessions.take (id' + 1) = t.sessions.take id' ++ [c] := by
    rw [List.take_succ_eq_append_getElem hbound, hget]
  have hle : ((t.sessions.take (id + 1)).map Prod.fst).count c.1 ≤
      ((t.sessions.take id').map Prod.fst).count c.1 :=
    ((List.take_sublist_take_left hlt).map Prod.fst).count_le c.1
  rw [hlast, List.map_append, List.count_append, List.map_singleton, List.count_singleton_self]
  omega

/-- The serials of a slot come around only after 2^32 handouts. -/
theorem Counted.not_lt {id' : Nat} {c : UInt32 × UInt32} (h : Counted t)
    (hc : t.sessions[id]? = some c) (hc' : t.sessions[id']? = some c)
    (hle : t.handouts c.1 ≤ 2 ^ 32) : ¬id < id' := by
  intro hlt
  have hserial := h.session id c hc
  have hserial' := h.session id' c hc'
  have hcount := handouts_take_lt hlt hc'
  have hpos : 0 < ((t.sessions.take (id + 1)).map Prod.fst).count c.1 := by
    rw [List.count_pos_iff]
    have hmem : c ∈ t.sessions.take (id + 1) := by
      refine List.mem_of_getElem? (i := id) ?_
      rw [List.getElem?_take_of_lt (Nat.lt_succ_self id), hc]
    exact List.mem_map_of_mem hmem
  have hall : ((t.sessions.take (id' + 1)).map Prod.fst).count c.1 ≤ t.handouts c.1 :=
    ((List.take_sublist _ _).map Prod.fst).count_le c.1
  rw [hserial'] at hserial
  have hmod := congrArg UInt32.toNat hserial
  rw [UInt32.toNat_ofNat', UInt32.toNat_ofNat'] at hmod
  omega

/-- The key of a session is its own. -/
theorem Counted.key_inj {id' : Nat} {c : UInt32 × UInt32} (h : Counted t)
    (hc : t.sessions[id]? = some c) (hc' : t.sessions[id']? = some c)
    (hle : t.handouts c.1 ≤ 2 ^ 32) : id = id' := by
  have hlt := h.not_lt hc hc' hle
  have hgt := h.not_lt hc' hc hle
  omega

/-! ## Slots -/

/-- The slots of the live sessions point to them, and the others are free or
have been left behind. -/
structure Allocated (t : SlotTable) : Prop where
  slotCount_pos : 1 ≤ t.slotCount
  slotCount_le : t.slotCount ≤ 2 ^ 32
  index : ∀ c ∈ t.sessions, c.1 ≠ 0 ∧ c.1.toNat < t.slotCount
  points : ∀ i id, t.slots i = some id → ∃ c, t.sessions[id]? = some c ∧ c.1.toNat = i
  taken : ∀ id ∈ t.running, ∃ c, t.sessions[id]? = some c ∧ t.slots c.1.toNat = some id
  free : ∀ f ∈ t.freeList, f ≠ 0 ∧ f.toNat < t.slotCount ∧ t.slots f.toNat = none
  free_nodup : t.freeList.Nodup
  running_nodup : t.running.Nodup

/-- Before the first accept no slot is out. -/
theorem allocated_init : Allocated {} where
  slotCount_pos := Nat.le_refl 1
  slotCount_le := by decide
  index c h := by cases h
  points i id h := by cases h
  taken id h := by cases h
  free f h := by cases h
  free_nodup := List.nodup_nil
  running_nodup := List.nodup_nil

theorem key_eq {c : UInt32 × UInt32} (hc : t.sessions[id]? = some c) : t.key id = c := by
  unfold key
  rw [List.getD_eq_getElem?_getD, hc]
  rfl

theorem Allocated.running_lt (h : Allocated t) (hid : id ∈ t.running) : id < t.sessions.length := by
  obtain ⟨c, hc, _⟩ := h.taken id hid
  exact (List.getElem?_eq_some_iff.mp hc).1

/-- What is handed out: a slot that no session has. -/
structure Fresh (t : SlotTable) (idx : UInt32) (t' : SlotTable) : Prop where
  ne_zero : idx ≠ 0
  vacant : t.slots idx.toNat = none ∨ idx.toNat = t.slotCount
  lt : idx.toNat < t'.slotCount
  slotCount_le : t.slotCount ≤ t'.slotCount
  bound : t'.slotCount ≤ 2 ^ 32
  not_free : idx ∉ t'.freeList
  free_nodup : t'.freeList.Nodup
  free_sub : ∀ f ∈ t'.freeList, f ∈ t.freeList
  slots : t'.slots = t.slots
  running : t'.running = t.running

/-- With an index left, the allocator returns a slot that nobody holds. -/
theorem Allocated.fresh (h : Allocated t) (hok : t.hasIndex .accept = true) :
    Fresh t t.allocSlot.1 t.allocSlot.2 := by
  unfold allocSlot
  cases hfree : t.freeList with
  | cons f rest =>
      have hmem : f ∈ t.freeList := by
        rw [hfree]
        exact List.mem_cons_self
      have hnodup := h.free_nodup
      rw [hfree, List.nodup_cons] at hnodup
      obtain ⟨hne, hlt, hvacant⟩ := h.free f hmem
      refine ⟨hne, Or.inl hvacant, hlt, Nat.le_refl _, h.slotCount_le, hnodup.1, hnodup.2, ?_, rfl,
        rfl⟩
      intro f' hf'
      rw [hfree]
      exact List.mem_cons_of_mem f hf'
  | nil =>
      have hlt : t.slotCount < 2 ^ 32 := by
        unfold hasIndex at hok
        simpa [hfree] using hok
      have hnat : (UInt32.ofNat t.slotCount).toNat = t.slotCount := UInt32.toNat_ofNat_of_lt' hlt
      have hpos := h.slotCount_pos
      dsimp only
      refine ⟨?_, Or.inr hnat, ?_, Nat.le_succ _, hlt, List.not_mem_nil, List.nodup_nil, ?_, rfl,
        rfl⟩
      · intro hzero
        rw [hzero] at hnat
        change 0 = t.slotCount at hnat
        omega
      · dsimp only
        omega
      · intro f hf
        cases hf

/-- Nobody has the slot that is handed out. -/
theorem Allocated.not_taken {idx : UInt32} {t' : SlotTable} {c : UInt32 × UInt32}
    (h : Allocated t) (hfresh : Fresh t idx t') (hc : t.sessions[id]? = some c)
    (hslot : t.slots c.1.toNat = some id) : c.1.toNat ≠ idx.toNat := by
  intro heq
  rcases hfresh.vacant with hnone | hnew
  · rw [heq, hnone] at hslot
    cases hslot
  · have hlt := (h.index c (List.mem_of_getElem? hc)).2
    omega

/-- The new session holds a slot that was free and is its only holder. -/
theorem Allocated.accept (h : Allocated t) (hok : t.hasIndex .accept = true) :
    Allocated t.accept := by
  have hfresh := h.fresh hok
  have hold : ∀ {id : Nat} {c : UInt32 × UInt32}, t.sessions[id]? = some c →
      t.accept.sessions[id]? = some c := by
    intro id c hc
    rw [sessions_accept, List.getElem?_append_left (List.getElem?_eq_some_iff.mp hc).1, hc]
  have hnew : t.accept.sessions[t.sessions.length]? =
      some (t.allocSlot.1, t.slotSerials t.allocSlot.1.toNat + 1) := by
    rw [sessions_accept, List.getElem?_append_right (Nat.le_refl _), Nat.sub_self]
    rfl
  have hslots : t.accept.slots = t.slots.set t.allocSlot.1.toNat t.sessions.length := by
    unfold SlotTable.accept
    dsimp only
    rw [hfresh.slots]
  have hrunning : t.accept.running = t.sessions.length :: t.running := by
    unfold SlotTable.accept
    dsimp only
    rw [hfresh.running]
  constructor
  · exact h.slotCount_pos.trans hfresh.slotCount_le
  · exact hfresh.bound
  · intro c hc
    rw [sessions_accept, List.mem_append, List.mem_singleton] at hc
    rcases hc with hc | rfl
    · obtain ⟨hne, hlt⟩ := h.index c hc
      exact ⟨hne, hlt.trans_le hfresh.slotCount_le⟩
    · exact ⟨hfresh.ne_zero, hfresh.lt⟩
  · intro i id hid
    rw [hslots, Table.set_apply] at hid
    split at hid
    · next hi =>
      obtain rfl := Option.some.inj hid
      exact ⟨_, hnew, hi.symm⟩
    · obtain ⟨c, hc, hi⟩ := h.points i id hid
      exact ⟨c, hold hc, hi⟩
  · intro id hid
    rw [hrunning, List.mem_cons] at hid
    rcases hid with rfl | hid
    · refine ⟨_, hnew, ?_⟩
      rw [hslots, Table.set_self]
    · obtain ⟨c, hc, hslot⟩ := h.taken id hid
      refine ⟨c, hold hc, ?_⟩
      rw [hslots, Table.set_of_ne _ _ (h.not_taken hfresh hc hslot), hslot]
  · intro f hf
    obtain ⟨hne, hlt, hvacant⟩ := h.free f (hfresh.free_sub f hf)
    refine ⟨hne, hlt.trans_le hfresh.slotCount_le, ?_⟩
    have hother : f.toNat ≠ t.allocSlot.1.toNat := by
      intro heq
      rw [UInt32.toNat_inj.mp heq] at hf
      exact hfresh.not_free hf
    rw [hslots, Table.set_of_ne _ _ hother, hvacant]
  · exact hfresh.free_nodup
  · rw [hrunning, List.nodup_cons]
    refine ⟨fun hmem => ?_, h.running_nodup⟩
    have hlt := h.running_lt hmem
    omega

/-- The weak pointer of a live session's slot finds that session: its own
coroutine keeps it. -/
theorem Allocated.lock_eq {c : UInt32 × UInt32} (hid : id ∈ t.running)
    (hslot : t.slots c.1.toNat = some id) : t.lock c.1.toNat = some id := by
  unfold lock alive
  rw [hslot]
  simp [hid]

/-- So the cleanup of a live session frees its slot, through the first of the
two branches. -/
theorem Allocated.cleanup_eq {c : UInt32 × UInt32} (h : Allocated t) (hid : id ∈ t.running)
    (hc : t.sessions[id]? = some c) (hslot : t.slots c.1.toNat = some id) :
    t.cleanup id =
      { t with slots := t.slots.erase c.1.toNat, freeList := c.1 :: t.freeList } := by
  have hlt := (h.index c (List.mem_of_getElem? hc)).2
  unfold cleanup
  dsimp only
  rw [key_eq hc, if_pos hlt, Allocated.lock_eq hid hslot]
  dsimp only
  rw [key_eq hc, if_pos rfl]

/-- The slot goes back to the free list exactly once, when its own session ends. -/
theorem Allocated.finish (h : Allocated t) (hid : id ∈ t.running) :
    Allocated ((t.cleanup id).endCoroutine id) := by
  obtain ⟨c, hc, hslot⟩ := h.taken id hid
  rw [h.cleanup_eq hid hc hslot]
  obtain ⟨hne, hlt⟩ := h.index c (List.mem_of_getElem? hc)
  have hnotFree : c.1 ∉ t.freeList := by
    intro hmem
    have hnone := (h.free c.1 hmem).2.2
    rw [hslot] at hnone
    cases hnone
  constructor
  · exact h.slotCount_pos
  · exact h.slotCount_le
  · exact h.index
  · intro i id' hid'
    exact h.points i id' (Table.erase_eq_some_iff.mp hid').2
  · intro id' hid'
    obtain ⟨hother, hmem⟩ := h.running_nodup.mem_erase_iff.mp hid'
    obtain ⟨c', hc', hslot'⟩ := h.taken id' hmem
    refine ⟨c', hc', Table.erase_eq_some_iff.mpr ⟨fun heq => hother ?_, hslot'⟩⟩
    rw [heq, hslot] at hslot'
    exact (Option.some.inj hslot').symm
  · intro f hf
    rcases List.mem_cons.mp hf with rfl | hmem
    · exact ⟨hne, hlt, Table.erase_self _ _⟩
    · obtain ⟨hf0, hflt, hvacant⟩ := h.free f hmem
      refine ⟨hf0, hflt, ?_⟩
      change t.slots.erase c.1.toNat f.toNat = none
      rw [Table.erase_apply]
      split
      · rfl
      · exact hvacant
  · exact List.nodup_cons.mpr ⟨hnotFree, h.free_nodup⟩
  · exact h.running_nodup.erase id

/-- A coroutine that ends without its cleanup keeps its slot out of the list. -/
theorem Allocated.abandon (h : Allocated t) (id : Nat) : Allocated (t.endCoroutine id) where
  slotCount_pos := h.slotCount_pos
  slotCount_le := h.slotCount_le
  index := h.index
  points := h.points
  taken id' hid' := h.taken id' (List.mem_of_mem_erase hid')
  free := h.free
  free_nodup := h.free_nodup
  running_nodup := h.running_nodup.erase id

/-- Other pointers to the sessions do not matter to the slots. -/
theorem Allocated.held (h : Allocated t) (held : List Nat) : Allocated { t with held } :=
  ⟨h.slotCount_pos, h.slotCount_le, h.index, h.points, h.taken, h.free, h.free_nodup,
    h.running_nodup⟩

/-- The step lemma, under the condition that an accept has an index left. -/
theorem Allocated.step (h : Allocated t) (e : Event) (hok : t.hasIndex e = true) :
    Allocated (t.step e) := by
  cases e with
  | accept => exact h.accept hok
  | finish id =>
      unfold SlotTable.step
      dsimp only
      split
      · next hid => exact h.finish hid
      · exact h
  | abandon id =>
      unfold SlotTable.step
      dsimp only
      split
      · exact h.abandon id
      · exact h
  | hold id =>
      unfold SlotTable.step
      dsimp only
      split
      · exact h.held _
      · exact h
  | release id => exact h.held _

/-! ## Runs -/

/-- A key that finds a session finds one that was made with it. -/
theorem Allocated.tryGetSession_eq_some {index serial : UInt32} (h : Allocated t)
    (hget : t.tryGetSession index serial = some id) :
    t.sessions[id]? = some (index, serial) := by
  unfold tryGetSession at hget
  split at hget
  · cases hget
  · split at hget
    · cases hget
    · obtain ⟨hlock, hserial⟩ := Option.filter_eq_some_iff.mp hget
      unfold lock at hlock
      obtain ⟨c, hc, hi⟩ := h.points _ id (Option.filter_eq_some_iff.mp hlock).1
      have hkey : c.2 = serial := by
        rw [key_eq hc] at hserial
        simpa using hserial
      rw [hc, ← UInt32.toNat_inj.mp hi, ← hkey]

/-- The two invariants together give exclusive slots. -/
theorem slotsExclusive_of (h : Allocated t) (hcounted : Counted t) : SlotsExclusive t where
  own id hid id' hid' heq := by
    obtain ⟨c, hc, hslot⟩ := h.taken id hid
    obtain ⟨c', hc', hslot'⟩ := h.taken id' hid'
    rw [key_eq hc, key_eq hc'] at heq
    rw [heq, hslot'] at hslot
    exact (Option.some.inj hslot).symm
  not_zero c hc := (h.index c hc).1
  free_nodup := h.free_nodup
  free_not_live id hid hfree := by
    obtain ⟨c, hc, hslot⟩ := h.taken id hid
    rw [key_eq hc] at hfree
    have hnone := (h.free c.1 hfree).2.2
    rw [hslot] at hnone
    cases hnone
  exact_key id c hc hle := by
    cases hget : t.tryGetSession c.1 c.2 with
    | none => exact Or.inl rfl
    | some id' =>
        have hc' := h.tryGetSession_eq_some hget
        exact Or.inr (congrArg some (hcounted.key_inj hc' hc hle))

/-- With no index left, the next connection gets index 0. -/
theorem not_slotsExclusive_accept (hfree : t.freeList = []) (hcount : t.slotCount = 2 ^ 32) :
    ¬SlotsExclusive t.accept := by
  intro hexcl
  have hidx : t.allocSlot.1 = 0 := by
    unfold allocSlot
    rw [hfree]
    dsimp only
    rw [hcount]
    rfl
  refine hexcl.not_zero (t.allocSlot.1, t.slotSerials t.allocSlot.1.toNat + 1) ?_ hidx
  rw [sessions_accept]
  exact List.mem_append_right _ List.mem_cons_self

/-- Without an index left the accept hands out a slot that is held. -/
theorem hasIndex_of_slotsExclusive (h : Allocated t) (e : Event)
    (hexcl : SlotsExclusive (t.step e)) : t.hasIndex e = true := by
  cases e with
  | accept =>
      by_contra hno
      obtain ⟨hnil, hfull⟩ : t.freeList = [] ∧ 2 ^ 32 ≤ t.slotCount := by
        unfold hasIndex at hno
        simpa using hno
      have hcount : t.slotCount = 2 ^ 32 := Nat.le_antisymm h.slotCount_le hfull
      exact not_slotsExclusive_accept hnil hcount hexcl
  | _ => rfl

/-- **Slot allocation**: whatever the order in which connections come and
end, the slots stay exclusive exactly as long as each connection finds a free
slot or an index below 2^32 for a new one. -/
theorem slotsExclusive_run_iff (es : List Event) :
    Always step SlotsExclusive {} es ↔ Along step (fun t e => t.hasIndex e = true) {} es :=
  always_iff_along_of_strong (W := fun t => Allocated t ∧ Counted t)
    ⟨allocated_init, counted_init⟩ (fun _ h => slotsExclusive_of h.1 h.2)
    (fun _ e h hok => ⟨h.1.step e hok, h.2.step e⟩)
    fun _ e h hexcl => hasIndex_of_slotsExclusive h.1 e hexcl

/-- Connections that come and never end take the slots in order. -/
theorem run_accepts (n : Nat) :
    (run step {} (List.replicate n .accept)).freeList = [] ∧
      (run step {} (List.replicate n .accept)).slotCount = n + 1 := by
  induction n with
  | zero => exact ⟨rfl, rfl⟩
  | succ n ih =>
      rw [List.replicate_succ', run_append]
      set t := run step {} (List.replicate n .accept) with ht
      have hstep : run step t [.accept] = t.accept := rfl
      rw [hstep]
      unfold accept allocSlot
      rw [ih.1]
      exact ⟨rfl, congrArg (· + 1) ih.2⟩

theorem not_slotsExclusive_replicate {n : Nat} (hn : n + 1 = 2 ^ 32) :
    ¬SlotsExclusive (run step {} (List.replicate (n + 1) .accept)) := by
  obtain ⟨hfree, hcount⟩ := run_accepts n
  rw [List.replicate_succ', run_append]
  exact not_slotsExclusive_accept hfree (hcount.trans hn)

/-- The connection after 2^32 - 1 that are all live gets index 0. -/
theorem not_slotsExclusive_accepts :
    ¬Always step SlotsExclusive {} (List.replicate (2 ^ 32 - 1 + 1) .accept) := by
  intro h
  have hend := always_iff_forall_part.mp h _ List.prefix_rfl
  exact not_slotsExclusive_replicate (by decide) hend

/-! ## As the handlers see it -/

/-- The slots of `TcpServer` are those of the table: the handlers see the
serial that a slot points to. -/
structure Simulates (t : SlotTable) (tcp : TcpServer) : Prop where
  slots : ∀ index : UInt32, (tcp.slots index).map TcpSession.serial =
    (t.slots index.toNat).map fun id => (t.key id).2
  slotSerials : ∀ index : UInt32, tcp.slotSerials index = t.slotSerials index.toNat
  freeList : tcp.freeList = t.freeList
  slotCount : tcp.slotCount = UInt32.ofNat t.slotCount

/-- The same step of `TcpServer`; who keeps a session does not show there. -/
def tcpStep (t : SlotTable) (tcp : TcpServer) : Event → TcpServer
  | .accept => tcp.accept
  | .finish id => if id ∈ t.running then tcp.terminate (t.key id).1 (t.key id).2 else tcp
  | _ => tcp

theorem simulates_init : Simulates {} .initial where
  slots _ := rfl
  slotSerials _ := rfl
  freeList := rfl
  slotCount := rfl

/-- Both allocators take the same slot and leave the same free list. -/
theorem Simulates.allocSlot {tcp : TcpServer} (h : Simulates t tcp) :
    tcp.allocSlot.1 = t.allocSlot.1 ∧ tcp.allocSlot.2.freeList = t.allocSlot.2.freeList ∧
      tcp.allocSlot.2.slotCount = UInt32.ofNat t.allocSlot.2.slotCount ∧
      tcp.allocSlot.2.slots = tcp.slots ∧ tcp.allocSlot.2.slotSerials = tcp.slotSerials := by
  unfold TcpServer.allocSlot SlotTable.allocSlot
  rw [h.freeList]
  cases hfree : t.freeList with
  | nil =>
      refine ⟨h.slotCount, rfl, ?_, rfl, rfl⟩
      change tcp.slotCount + 1 = UInt32.ofNat (t.slotCount + 1)
      rw [h.slotCount, UInt32.ofNat_add]
      rfl
  | cons f rest => exact ⟨rfl, rfl, h.slotCount, rfl, rfl⟩

theorem key_accept_of_lt (hid : id < t.sessions.length) : t.accept.key id = t.key id := by
  unfold key
  rw [sessions_accept, List.getD_eq_getElem?_getD, List.getD_eq_getElem?_getD,
    List.getElem?_append_left hid]

theorem key_accept_new : t.accept.key t.sessions.length =
    (t.allocSlot.1, t.slotSerials t.allocSlot.1.toNat + 1) := by
  refine key_eq ?_
  rw [sessions_accept, List.getElem?_append_right (Nat.le_refl _), Nat.sub_self]
  rfl

/-- An accept of the table is an accept of the server. -/
theorem Simulates.accept {tcp : TcpServer} (h : Simulates t tcp) (halloc : Allocated t)
    (hok : t.hasIndex .accept = true) : Simulates t.accept tcp.accept := by
  have hfresh := halloc.fresh hok
  obtain ⟨hidx, hfree, hcount, hslots, hserials⟩ := h.allocSlot
  have hserial : tcp.slotSerials t.allocSlot.1 + 1 = t.slotSerials t.allocSlot.1.toNat + 1 :=
    congrArg (· + 1) (h.slotSerials t.allocSlot.1)
  constructor
  · intro index
    unfold TcpServer.accept TcpServer.nextConnection
    dsimp only
    rw [hslots, hidx, hserial]
    have hslots' : t.accept.slots = t.slots.set t.allocSlot.1.toNat t.sessions.length := by
      unfold SlotTable.accept
      dsimp only
      rw [hfresh.slots]
    rw [hslots', Table.set_apply, Table.set_apply]
    by_cases hi : index = t.allocSlot.1
    · rw [if_pos hi, if_pos (congrArg UInt32.toNat hi), Option.map_some, Option.map_some,
        key_accept_new]
    · rw [if_neg hi, if_neg fun hc => hi (UInt32.toNat_inj.mp hc), h.slots]
      cases hslot : t.slots index.toNat with
      | none => rfl
      | some id =>
          obtain ⟨c, hc, _⟩ := halloc.points _ id hslot
          rw [Option.map_some, Option.map_some,
            key_accept_of_lt (List.getElem?_eq_some_iff.mp hc).1]
  · intro index
    unfold TcpServer.accept TcpServer.nextConnection SlotTable.accept
    dsimp only
    rw [hserials, hidx, hserial, slotSerials_allocSlot]
    by_cases hi : index = t.allocSlot.1
    · rw [hi, Function.update_self, Function.update_self]
    · rw [Function.update_of_ne hi,
        Function.update_of_ne fun hc => hi (UInt32.toNat_inj.mp hc), h.slotSerials]
  · exact hfree
  · exact hcount

/-- The end of a session is the server's terminate. -/
theorem Simulates.finish {tcp : TcpServer} (h : Simulates t tcp) (halloc : Allocated t)
    (hid : id ∈ t.running) :
    Simulates ((t.cleanup id).endCoroutine id) (tcp.terminate (t.key id).1 (t.key id).2) := by
  obtain ⟨c, hc, hslot⟩ := halloc.taken id hid
  have hserial : (tcp.slots c.1).map TcpSession.serial = some c.2 := by
    rw [h.slots, hslot, Option.map_some, key_eq hc]
  have hconnected : tcp.isConnected c.1 c.2 = true := by
    unfold TcpServer.isConnected
    obtain ⟨session, hsession, hs⟩ := Option.map_eq_some_iff.mp hserial
    simp [hsession, hs]
  rw [halloc.cleanup_eq hid hc hslot, key_eq hc]
  unfold TcpServer.terminate
  rw [if_pos hconnected]
  constructor
  · intro index
    change (tcp.slots.erase c.1 index).map _ = (t.slots.erase c.1.toNat index.toNat).map _
    rw [Table.erase_apply, Table.erase_apply]
    by_cases hi : index = c.1
    · rw [if_pos hi, if_pos (congrArg UInt32.toNat hi)]
      rfl
    · rw [if_neg hi, if_neg fun hc => hi (UInt32.toNat_inj.mp hc), h.slots]
      rfl
  · exact h.slotSerials
  · exact congrArg (c.1 :: ·) h.freeList
  · exact h.slotCount

/-- The slots of `TcpServer` follow those of the table. -/
theorem simulates_step {tcp : TcpServer} (h : Simulates t tcp) (halloc : Allocated t) (e : Event)
    (hok : t.hasIndex e = true) : Simulates (t.step e) (t.tcpStep tcp e) := by
  cases e with
  | accept => exact h.accept halloc hok
  | finish id =>
      unfold step tcpStep
      dsimp only
      split
      · next hid => exact h.finish halloc hid
      · exact h
  | abandon id =>
      unfold step tcpStep
      dsimp only
      split
      · exact ⟨h.slots, h.slotSerials, h.freeList, h.slotCount⟩
      · exact h
  | hold id =>
      unfold step tcpStep
      dsimp only
      split
      · exact ⟨h.slots, h.slotSerials, h.freeList, h.slotCount⟩
      · exact h
  | release id => exact ⟨h.slots, h.slotSerials, h.freeList, h.slotCount⟩

/-- The table and `TcpServer` side by side. -/
def sideBySide (p : SlotTable × TcpServer) (e : Event) : SlotTable × TcpServer :=
  (p.1.step e, p.1.tcpStep p.2 e)

/-- **The slots of `TcpServer`** are those of the table in every state of a
run. -/
theorem simulates_of_along {es : List Event}
    (hok : Along sideBySide (fun p e => p.1.hasIndex e = true) ({}, .initial) es) :
    Always sideBySide (fun p => Simulates p.1 p.2) ({}, .initial) es := by
  have hboth : Always sideBySide (fun p => Allocated p.1 ∧ Simulates p.1 p.2) ({}, .initial) es :=
    always_of_along ⟨allocated_init, simulates_init⟩
      (fun _ e h hok => ⟨h.1.step e hok, simulates_step h.2 h.1 e hok⟩) hok
  exact hboth.imp fun _ h => h.2

/-- What `try_get_session_` finds is live for `TcpServer`, and the other way
round unless the session was left behind. -/
theorem isSome_tryGetSession_iff {tcp : TcpServer} (h : Simulates t tcp) (halloc : Allocated t)
    (index serial : UInt32) : (t.tryGetSession index serial).isSome = true ↔
      tcp.isLive index serial = true ∧ (t.lock index.toNat).isSome = true := by
  have hconnected : tcp.isConnected index serial = true ↔
      (t.slots index.toNat).map (fun id => (t.key id).2) = some serial := by
    rw [← h.slots index]
    unfold TcpServer.isConnected
    cases tcp.slots index <;> simp
  unfold TcpServer.isLive tryGetSession
  rw [Bool.and_eq_true, hconnected]
  by_cases hvalid : isValidSessionKey index serial = true
  · rw [if_neg (by simp [hvalid])]
    unfold lock
    cases hslot : t.slots index.toNat with
    | none => simp
    | some id =>
        obtain ⟨c, hc, hi⟩ := halloc.points _ id hslot
        have hlt : ¬t.slotCount ≤ index.toNat := by
          have hbound := (halloc.index c (List.mem_of_getElem? hc)).2
          omega
        rw [if_neg hlt]
        cases halive : t.alive id <;> simp [halive, hvalid]
  · have hfalse : isValidSessionKey index serial = false := Bool.eq_false_iff.mpr hvalid
    simp [hfalse]

end SlotTable

end GameServer
