import GameServer.Lib.Run
import GameServer.Lib.Table
import GameServer.Net.Framing
import Mathlib.Data.List.AList

/-!
# GameServer.World.PendingSends

The messages that a zone actor holds back for its players
(`pending_by_sid_`, `pending_bytes_by_sid_`): `EnqueueSend_` with its limits
and its coalescing of moves, `FlushPendingSends_` with its budgets.

Whether the connection takes a message is an answer from outside, which may
depend on all that was tried before.

* `PendingSends` — the queues and the byte counters;
* `enqueueSend`, `flushPendingSends` — the two operations;
* `Accounted` — counters and queues agree, within the limits;
* `accounted_run` — they do after any operations, and a flush sends the
  front of each queue in order.
-/

namespace GameServer

/-- `PendingNetSend`. -/
structure PendingNetSend where
  sid : UInt32
  serial : UInt32
  h : MsgHeader
  body : Option (List UInt8) := none
  msgType : UInt16
  moveCharId : UInt64 := 0
deriving DecidableEq, Repr

namespace PendingNetSend

/-- `PendingNetSend::bytes`. -/
def bytes (ps : PendingNetSend) : UInt64 := ps.h.wSize.toUInt64

/-- A queued message that a newer move takes the place of. -/
def Replaces (ps prev : PendingNetSend) : Prop :=
  prev.msgType = ps.msgType ∧ prev.moveCharId = ps.moveCharId

instance (ps prev : PendingNetSend) : Decidable (ps.Replaces prev) :=
  inferInstanceAs (Decidable (_ ∧ _))

end PendingNetSend

/-- The sizes in the headers of a queue. -/
def sumBytes (q : List PendingNetSend) : Nat := (q.map fun ps => ps.h.wSize.toNat).sum

/-- `pending_by_sid_` and `pending_bytes_by_sid_`. -/
structure PendingSends where
  queues : AList fun _ : UInt32 => List PendingNetSend := ∅
  bytes : Table UInt32 UInt64 := Table.empty

/-- `kMaxPendingMsgsPerSid`. -/
def maxPendingMsgsPerSid : Nat := 5000

/-- `kMaxPendingBytesPerSid`. -/
def maxPendingBytesPerSid : UInt64 := 4 * 1024 * 1024

namespace PendingSends

/-- `pending_by_sid_[sid]`. -/
def queue (s : PendingSends) (sid : UInt32) : List PendingNetSend := (s.queues.lookup sid).getD []

/-- `pending_bytes_by_sid_[sid]`. -/
def byteCount (s : PendingSends) (sid : UInt32) : UInt64 := (s.bytes sid).getD 0

/-- Store a queue and its counter. -/
def put (s : PendingSends) (sid : UInt32) (q : List PendingNetSend) (b : UInt64) :
    PendingSends where
  queues := s.queues.insert sid q
  bytes := s.bytes.set sid b

/-- Erase a queue and its counter. -/
def erase (s : PendingSends) (sid : UInt32) : PendingSends where
  queues := s.queues.erase sid
  bytes := s.bytes.erase sid

/-- Store what is left of a queue, or erase it if that is nothing. -/
def storeRest (s : PendingSends) (sid : UInt32) (q : List PendingNetSend) (b : UInt64) :
    PendingSends :=
  if q.isEmpty then s.erase sid else s.put sid q b

/-! ## Enqueueing -/

/-- The scan for an older move, over the queue from its end: the queue with
the new move in its place, and the one replaced. -/
def replaceMove (ps : PendingNetSend) :
    Nat → List PendingNetSend → Option (List PendingNetSend × PendingNetSend)
  | 0, _ => none
  | _, [] => none
  | scan + 1, prev :: older =>
      if ps.Replaces prev then some (ps :: older, prev)
      else (replaceMove ps scan older).map fun r => (prev :: r.1, r.2)

/-- Whether there is no room for another message. -/
def Full (s : PendingSends) (ps : PendingNetSend) : Prop :=
  (s.queue ps.sid).length + 1 > maxPendingMsgsPerSid ∨
    s.byteCount ps.sid + ps.bytes > maxPendingBytesPerSid

instance (s : PendingSends) (ps : PendingNetSend) : Decidable (s.Full ps) :=
  inferInstanceAs (Decidable (_ ∨ _))

/-- `EnqueueSend_`. -/
def enqueueSend (s : PendingSends) (ps : PendingNetSend) : PendingSends :=
  let q := s.queue ps.sid
  let b := s.byteCount ps.sid
  if s.Full ps then s.put ps.sid q b
  else
    match if ps.moveCharId ≠ 0 then replaceMove ps (min q.length 256) q.reverse else none with
    | some (q', prev) =>
        let b := if b ≥ prev.bytes then b - prev.bytes else b
        s.put ps.sid q'.reverse (b + ps.bytes)
    | none => s.put ps.sid (q ++ [ps]) (b + ps.bytes)

/-! ## Flushing -/

/-- What a flush has done so far: the sends it tried with the answers, what
it counts against its budgets, and whether a counter went below zero. -/
structure FlushTally where
  attempts : List (PendingNetSend × Bool) := []
  n : Nat := 0
  bytes : Nat := 0
  wrapped : Bool := false
deriving DecidableEq, Repr

/-- The messages that the connection took. -/
def FlushTally.sent (f : FlushTally) : List PendingNetSend := (f.attempts.filter (·.2)).map (·.1)

/-- The answers of `TrySendLossy`. -/
abbrev Answers := List (PendingNetSend × Bool) → PendingNetSend → Bool

section Budgets

variable (answers : Answers) (budgetMsgs budgetBytes : Nat)

/-- The loop over one queue. -/
def drain :
    List PendingNetSend → UInt64 → FlushTally → List PendingNetSend × UInt64 × FlushTally
  | [], b, f => ([], b, f)
  | ps :: q, b, f =>
      if f.n < budgetMsgs ∧ f.bytes < budgetBytes then
        let wrapped := f.wrapped || decide (b < ps.bytes)
        let b := b - ps.bytes
        if answers f.attempts ps then
          drain q b
            { attempts := f.attempts ++ [(ps, true)]
              n := f.n + 1
              bytes := f.bytes + ps.h.wSize.toNat
              wrapped }
        else (ps :: q, b + ps.bytes, { f with attempts := f.attempts ++ [(ps, false)], wrapped })
      else (ps :: q, b, f)

/-- The loop over the sids. -/
def flushSids : List UInt32 → PendingSends → FlushTally → PendingSends × FlushTally
  | [], s, f => (s, f)
  | sid :: sids, s, f =>
      match s.queues.lookup sid with
      | none => flushSids sids s f
      | some q =>
          let r := drain answers budgetMsgs budgetBytes q (s.byteCount sid) f
          let s := s.storeRest sid r.1 r.2.1
          if r.2.2.n ≥ budgetMsgs ∨ r.2.2.bytes ≥ budgetBytes then (s, r.2.2)
          else flushSids sids s r.2.2

/-- `FlushPendingSends_`. -/
def flushPendingSends (s : PendingSends) : PendingSends × FlushTally :=
  flushSids answers budgetMsgs budgetBytes
    (s.queues.keys.filter fun sid => !(s.queue sid).isEmpty) s {}

end Budgets

/-- A call of one of the operations. -/
inductive SendOp where
  | enqueue (ps : PendingNetSend)
  | flush (answers : Answers) (budgetMsgs budgetBytes : Nat)

def step (s : PendingSends) : SendOp → PendingSends
  | .enqueue ps => s.enqueueSend ps
  | .flush answers budgetMsgs budgetBytes =>
      (s.flushPendingSends answers budgetMsgs budgetBytes).1

/-! ## Queues and counters -/

/-- A stored queue replaces that of its own session. -/
@[simp] theorem queue_put (s : PendingSends) (sid : UInt32) (q : List PendingNetSend) (b : UInt64)
    (t : UInt32) : (s.put sid q b).queue t = if t = sid then q else s.queue t := by
  unfold queue put
  split_ifs with h
  · subst h
    rw [AList.lookup_insert, Option.getD_some]
  · rw [AList.lookup_insert_ne h]

/-- And so does its count. -/
@[simp] theorem byteCount_put (s : PendingSends) (sid : UInt32) (q : List PendingNetSend)
    (b : UInt64) (t : UInt32) :
    (s.put sid q b).byteCount t = if t = sid then b else s.byteCount t := by
  unfold byteCount put
  dsimp only
  rw [Table.set_apply]
  split_ifs <;> rfl

/-- An erased queue is empty. -/
@[simp] theorem queue_erase (s : PendingSends) (sid t : UInt32) :
    (s.erase sid).queue t = if t = sid then [] else s.queue t := by
  unfold queue erase
  split_ifs with h
  · subst h
    rw [AList.lookup_erase, Option.getD_none]
  · rw [AList.lookup_erase_ne h]

@[simp] theorem byteCount_erase (s : PendingSends) (sid t : UInt32) :
    (s.erase sid).byteCount t = if t = sid then 0 else s.byteCount t := by
  unfold byteCount erase
  dsimp only
  rw [Table.erase_apply]
  split_ifs <;> rfl

/-- What is left of a queue is stored under its own session. -/
@[simp] theorem queue_storeRest (s : PendingSends) (sid : UInt32) (q : List PendingNetSend)
    (b : UInt64) (t : UInt32) :
    (s.storeRest sid q b).queue t = if t = sid then q else s.queue t := by
  unfold storeRest
  split_ifs with hempty ht ht
  · rw [queue_erase, if_pos ht, List.isEmpty_iff.mp hempty]
  · rw [queue_erase, if_neg ht]
  · rw [queue_put, if_pos ht]
  · rw [queue_put, if_neg ht]

theorem queue_of_lookup {s : PendingSends} {sid : UInt32} {q : List PendingNetSend}
    (h : s.queues.lookup sid = some q) : s.queue sid = q := by rw [queue, h, Option.getD_some]

end PendingSends

@[simp] theorem sumBytes_nil : sumBytes [] = 0 := rfl

@[simp] theorem sumBytes_cons (ps : PendingNetSend) (q : List PendingNetSend) :
    sumBytes (ps :: q) = ps.h.wSize.toNat + sumBytes q := by
  rw [sumBytes, List.map_cons, List.sum_cons, ← sumBytes]

@[simp] theorem sumBytes_append (q q' : List PendingNetSend) :
    sumBytes (q ++ q') = sumBytes q + sumBytes q' := by
  rw [sumBytes, List.map_append, List.sum_append, ← sumBytes, ← sumBytes]

theorem PendingNetSend.toNat_bytes (ps : PendingNetSend) : ps.bytes.toNat = ps.h.wSize.toNat :=
  UInt16.toNat_toUInt64 _

namespace PendingSends

/-- A queue and its counter: the messages of one sid, within the limits, and
their sizes. -/
structure QueueOk (sid : UInt32) (q : List PendingNetSend) (b : UInt64) : Prop where
  count : b.toNat = sumBytes q
  msgs : q.length ≤ maxPendingMsgsPerSid
  bytes : sumBytes q ≤ maxPendingBytesPerSid.toNat
  sid_eq : ∀ ps ∈ q, ps.sid = sid

/-- All queues and counters are in order. -/
def Accounted (s : PendingSends) : Prop := ∀ sid, QueueOk sid (s.queue sid) (s.byteCount sid)

theorem accounted_empty : Accounted {} :=
  fun _ => ⟨rfl, Nat.zero_le _, Nat.zero_le _, fun _ h => absurd h List.not_mem_nil⟩

/-- A queue whose bytes are counted may be stored. -/
theorem Accounted.put {s : PendingSends} (h : s.Accounted) {sid : UInt32}
    {q : List PendingNetSend} {b : UInt64} (hq : QueueOk sid q b) : (s.put sid q b).Accounted := by
  intro t
  rw [queue_put, byteCount_put]
  split_ifs with ht
  · rw [ht]
    exact hq
  · exact h t

/-- Nothing is counted for a queue that was erased. -/
theorem Accounted.erase {s : PendingSends} (h : s.Accounted) (sid : UInt32) :
    (s.erase sid).Accounted := by
  intro t
  rw [queue_erase, byteCount_erase]
  split_ifs
  · exact ⟨rfl, Nat.zero_le _, Nat.zero_le _, fun _ h => absurd h List.not_mem_nil⟩
  · exact h t

/-- The rest of a queue is stored, or erased when it is empty. -/
theorem Accounted.storeRest {s : PendingSends} (h : s.Accounted) {sid : UInt32}
    {q : List PendingNetSend} {b : UInt64} (hq : QueueOk sid q b) :
    (s.storeRest sid q b).Accounted := by
  unfold PendingSends.storeRest
  split_ifs
  · exact h.erase sid
  · exact h.put hq

/-! ## What enqueueing does -/

/-- A replaced move and the messages newer than it, which are not replaced. -/
theorem replaceMove_eq_some {ps prev : PendingNetSend} {scan : Nat} {q q' : List PendingNetSend}
    (h : replaceMove ps scan q = some (q', prev)) :
    ∃ newer older, q = newer ++ prev :: older ∧ q' = newer ++ ps :: older ∧ ps.Replaces prev ∧
      (∀ p ∈ newer, ¬ps.Replaces p) ∧ newer.length < scan := by
  induction scan generalizing q q' with
  | zero => cases q <;> cases h
  | succ scan ih =>
      cases q with
      | nil => cases h
      | cons p older =>
          rw [replaceMove] at h
          split_ifs at h with hp
          · cases h
            exact ⟨[], older, rfl, rfl, hp, fun _ h => absurd h List.not_mem_nil, Nat.succ_pos scan⟩
          · obtain ⟨⟨r, prev'⟩, hr, heq⟩ := Option.map_eq_some_iff.mp h
            cases heq
            obtain ⟨newer, older', rfl, rfl, hprev, hnewer, hlength⟩ := ih hr
            refine ⟨p :: newer, older', rfl, rfl, hprev, fun p' hp' => ?_,
              Nat.succ_lt_succ hlength⟩
            rcases List.mem_cons.mp hp' with rfl | hp'
            · exact hp
            · exact hnewer p' hp'

/-- What a call does to the queue: nothing where it is full; a move takes the
place of an older one; anything else goes to the end. -/
theorem enqueueSend_cases (s : PendingSends) (ps : PendingNetSend) :
    (s.Full ps ∧ s.enqueueSend ps = s.put ps.sid (s.queue ps.sid) (s.byteCount ps.sid)) ∨
      (¬s.Full ps ∧ ∃ older prev newer, s.queue ps.sid = older ++ prev :: newer ∧
        ps.moveCharId ≠ 0 ∧ ps.Replaces prev ∧ (∀ p ∈ newer, ¬ps.Replaces p) ∧
        newer.length < 256 ∧
        s.enqueueSend ps = s.put ps.sid (older ++ ps :: newer)
          ((if s.byteCount ps.sid ≥ prev.bytes then s.byteCount ps.sid - prev.bytes
            else s.byteCount ps.sid) + ps.bytes)) ∨
      (¬s.Full ps ∧
        s.enqueueSend ps =
          s.put ps.sid (s.queue ps.sid ++ [ps]) (s.byteCount ps.sid + ps.bytes)) := by
  unfold enqueueSend
  dsimp only
  split_ifs with hfull hmove
  · exact .inl ⟨hfull, rfl⟩
  · cases hscan : replaceMove ps (min (s.queue ps.sid).length 256) (s.queue ps.sid).reverse with
    | none => exact .inr (.inr ⟨hfull, rfl⟩)
    | some r =>
        obtain ⟨newer, older, hq, hq', hprev, hnewer, hlength⟩ := replaceMove_eq_some hscan
        have hqueue : s.queue ps.sid = older.reverse ++ r.2 :: newer.reverse := by
          rw [← List.reverse_reverse (s.queue ps.sid), hq]
          simp
        have hqueue' : r.1.reverse = older.reverse ++ ps :: newer.reverse := by
          rw [hq']
          simp
        refine .inr (.inl ⟨hfull, older.reverse, r.2, newer.reverse, hqueue, hmove, hprev,
          fun p hp => hnewer p (List.mem_reverse.mp hp), ?_, ?_⟩)
        · rw [List.length_reverse]
          omega
        rw [← hqueue']
  · exact .inr (.inr ⟨hfull, rfl⟩)

/-- Where there is room, the new size is within the limit. -/
theorem room_of_not_full {s : PendingSends} {ps : PendingNetSend} (h : ¬s.Full ps)
    (hok : QueueOk ps.sid (s.queue ps.sid) (s.byteCount ps.sid)) :
    (s.queue ps.sid).length + 1 ≤ maxPendingMsgsPerSid ∧
      (s.byteCount ps.sid + ps.bytes).toNat = sumBytes (s.queue ps.sid) + ps.h.wSize.toNat ∧
        sumBytes (s.queue ps.sid) + ps.h.wSize.toNat ≤ maxPendingBytesPerSid.toNat := by
  have hlimit : maxPendingBytesPerSid.toNat = 4194304 := rfl
  have hsize := ps.h.wSize.toNat_lt
  have hbytes := hok.bytes
  rw [Full, not_or] at h
  obtain ⟨hmsgs, hroom⟩ := h
  have hsum : (s.byteCount ps.sid + ps.bytes).toNat =
      sumBytes (s.queue ps.sid) + ps.h.wSize.toNat := by
    rw [UInt64.toNat_add, hok.count, ps.toNat_bytes, Nat.mod_eq_of_lt (by omega)]
  rw [gt_iff_lt, UInt64.lt_iff_toNat_lt, hsum] at hroom
  exact ⟨by omega, hsum, by omega⟩

/-- An enqueue counts the bytes it adds and those it replaces. -/
theorem Accounted.enqueueSend {s : PendingSends} (h : s.Accounted) (ps : PendingNetSend) :
    (s.enqueueSend ps).Accounted := by
  have hok := h ps.sid
  obtain ⟨-, heq⟩ | ⟨hfull, older, prev, newer, hq, -, -, -, -, heq⟩ | ⟨hfull, heq⟩ :=
    s.enqueueSend_cases ps
  · rw [heq]
    exact h.put hok
  · obtain ⟨hmsgs, hsum, hbytes⟩ := room_of_not_full hfull hok
    have hcount := hok.count
    have hlength := hok.msgs
    have hsid := hok.sid_eq
    rw [hq] at hcount hlength hbytes hsid
    rw [sumBytes_append, sumBytes_cons] at hcount hbytes
    -- The counter covers the message that goes.
    have hge : s.byteCount ps.sid ≥ prev.bytes := by
      rw [ge_iff_le, UInt64.le_iff_toNat_le, hcount, prev.toNat_bytes]
      omega
    have hlimit : maxPendingBytesPerSid.toNat = 4194304 := rfl
    rw [heq, if_pos hge]
    refine h.put ⟨?_, ?_, ?_, fun p hp => ?_⟩
    · rw [UInt64.toNat_add, UInt64.toNat_sub_of_le _ _ hge, hcount, prev.toNat_bytes,
        ps.toNat_bytes, sumBytes_append, sumBytes_cons, Nat.mod_eq_of_lt (by omega)]
      omega
    · simpa using hlength
    · rw [sumBytes_append, sumBytes_cons]
      omega
    · rcases List.mem_append.mp hp with hp | hp
      · exact hsid p (List.mem_append_left _ hp)
      · rcases List.mem_cons.mp hp with rfl | hp
        · rfl
        · exact hsid p (List.mem_append_right _ (List.mem_cons_of_mem _ hp))
  · obtain ⟨hmsgs, hsum, hbytes⟩ := room_of_not_full hfull hok
    rw [heq]
    refine h.put ⟨?_, ?_, ?_, fun p hp => ?_⟩
    · rw [hsum, sumBytes_append, sumBytes_cons, sumBytes_nil, Nat.add_zero]
    · rwa [List.length_append]
    · rw [sumBytes_append, sumBytes_cons, sumBytes_nil, Nat.add_zero]
      exact hbytes
    · rcases List.mem_append.mp hp with hp | hp
      · exact hok.sid_eq p hp
      · rw [List.mem_singleton.mp hp]

/-! ## What a flush does -/

theorem sent_accept (f : FlushTally) (ps : PendingNetSend) (n bytes : Nat) (wrapped : Bool) :
    FlushTally.sent { attempts := f.attempts ++ [(ps, true)], n, bytes, wrapped } =
      f.sent ++ [ps] := by
  simp [FlushTally.sent]

theorem sent_refuse (f : FlushTally) (ps : PendingNetSend) (wrapped : Bool) :
    FlushTally.sent { f with attempts := f.attempts ++ [(ps, false)], wrapped } = f.sent := by
  simp [FlushTally.sent]

variable (answers : Answers) (budgetMsgs budgetBytes : Nat)

/-- The front of a queue goes out; the counter is that of the rest. -/
theorem drain_spec {q : List PendingNetSend} {b : UInt64} (f : FlushTally)
    (hb : b.toNat = sumBytes q) :
    ∃ part, q = part ++ (drain answers budgetMsgs budgetBytes q b f).1 ∧
      (drain answers budgetMsgs budgetBytes q b f).2.2.sent = f.sent ++ part ∧
      (drain answers budgetMsgs budgetBytes q b f).2.1.toNat =
        sumBytes (drain answers budgetMsgs budgetBytes q b f).1 ∧
      (drain answers budgetMsgs budgetBytes q b f).2.2.wrapped = f.wrapped := by
  induction q generalizing b f with
  | nil => exact ⟨[], rfl, (List.append_nil _).symm, hb, rfl⟩
  | cons ps q ih =>
      rw [sumBytes_cons] at hb
      have hle : ps.bytes ≤ b := by
        rw [UInt64.le_iff_toNat_le, ps.toNat_bytes]
        omega
      have hnot : ¬b < ps.bytes := UInt64.not_lt.mpr hle
      have hrest : (b - ps.bytes).toNat = sumBytes q := by
        rw [UInt64.toNat_sub_of_le _ _ hle, ps.toNat_bytes]
        omega
      rw [drain]
      split_ifs with hbudget hanswer
      · obtain ⟨part, hq, hsent, hcount, hwrapped⟩ := ih (b := b - ps.bytes)
          (f := { attempts := f.attempts ++ [(ps, true)], n := f.n + 1
                  bytes := f.bytes + ps.h.wSize.toNat
                  wrapped := f.wrapped || decide (b < ps.bytes) }) hrest
        refine ⟨ps :: part, ?_, ?_, hcount, ?_⟩
        · rw [List.cons_append, ← hq]
        · rw [hsent, sent_accept, List.append_assoc, List.singleton_append]
        · rw [hwrapped, decide_eq_false hnot, Bool.or_false]
      · refine ⟨[], rfl, ?_, ?_, ?_⟩
        · rw [sent_refuse, List.append_nil]
        · dsimp only
          rw [UInt64.sub_add_cancel, hb, sumBytes_cons]
        · dsimp only
          rw [decide_eq_false hnot, Bool.or_false]
      · exact ⟨[], rfl, (List.append_nil _).symm, by rw [sumBytes_cons]; exact hb, rfl⟩

/-- A flush went from one state to another: it sent the front of each queue,
in order, and the counters are right. -/
structure Flushed (s : PendingSends) (f : FlushTally) (s' : PendingSends) (f' : FlushTally) :
    Prop where
  sent : ∃ part, f'.sent = f.sent ++ part ∧
    ∀ sid, s.queue sid = part.filter (·.sid == sid) ++ s'.queue sid
  wrapped : f'.wrapped = f.wrapped
  accounted : s'.Accounted

theorem Flushed.refl {s : PendingSends} (h : s.Accounted) (f : FlushTally) : Flushed s f s f :=
  ⟨⟨[], (List.append_nil _).symm, fun _ => rfl⟩, rfl, h⟩

/-- Two flushes after one another are one. -/
theorem Flushed.trans {s s' s'' : PendingSends} {f f' f'' : FlushTally} (h : Flushed s f s' f')
    (h' : Flushed s' f' s'' f'') : Flushed s f s'' f'' := by
  obtain ⟨part, hpart, hqueue⟩ := h.sent
  obtain ⟨part', hpart', hqueue'⟩ := h'.sent
  refine ⟨⟨part ++ part', ?_, fun sid => ?_⟩, h'.wrapped.trans h.wrapped, h'.accounted⟩
  · rw [hpart', hpart, List.append_assoc]
  · rw [hqueue, hqueue', List.filter_append, List.append_assoc]

/-- One queue: what is sent, dropped and kept adds up. -/
theorem flushed_drain {s : PendingSends} (h : s.Accounted) (f : FlushTally) {sid : UInt32}
    {q : List PendingNetSend} (hq : s.queue sid = q) :
    Flushed s f
      (s.storeRest sid (drain answers budgetMsgs budgetBytes q (s.byteCount sid) f).1
        (drain answers budgetMsgs budgetBytes q (s.byteCount sid) f).2.1)
      (drain answers budgetMsgs budgetBytes q (s.byteCount sid) f).2.2 := by
  have hok := h sid
  rw [hq] at hok
  obtain ⟨part, hsplit, hsent, hcount, hwrapped⟩ :=
    drain_spec answers budgetMsgs budgetBytes f hok.count
  set r := drain answers budgetMsgs budgetBytes q (s.byteCount sid) f
  have hsid := hok.sid_eq
  have hlength := hok.msgs
  have hbytes := hok.bytes
  rw [hsplit] at hsid hlength hbytes
  rw [List.length_append] at hlength
  rw [sumBytes_append] at hbytes
  have hpart : ∀ t, part.filter (·.sid == t) = if t = sid then part else [] := by
    intro t
    split_ifs with ht
    · rw [List.filter_eq_self]
      intro p hp
      rw [ht, hsid p (List.mem_append_left _ hp), beq_self_eq_true]
    · rw [List.filter_eq_nil_iff]
      intro p hp
      rw [hsid p (List.mem_append_left _ hp), beq_iff_eq]
      exact fun hts => ht hts.symm
  refine ⟨⟨part, hsent, fun t => ?_⟩, hwrapped, ?_⟩
  · rw [hpart, queue_storeRest]
    split_ifs with ht
    · rw [ht, hq, ← hsplit]
    · rfl
  · exact h.storeRest
      ⟨hcount, by omega, by omega, fun p hp => hsid p (List.mem_append_right _ hp)⟩

/-- All queues: induction on the sessions. -/
theorem flushed_flushSids {s : PendingSends} (h : s.Accounted) (sids : List UInt32)
    (f : FlushTally) :
    Flushed s f (flushSids answers budgetMsgs budgetBytes sids s f).1
      (flushSids answers budgetMsgs budgetBytes sids s f).2 := by
  induction sids generalizing s f with
  | nil => exact Flushed.refl h f
  | cons sid sids ih =>
      rw [flushSids]
      cases hq : s.queues.lookup sid with
      | none => exact ih h f
      | some q =>
          have hdrain := flushed_drain answers budgetMsgs budgetBytes h f (queue_of_lookup hq)
          dsimp only
          split_ifs
          · exact hdrain
          · exact hdrain.trans (ih hdrain.accounted _)

/-- A flush sends the front of each queue, in order, keeps the rest, and no
counter goes below zero. -/
def FlushesInOrder (s : PendingSends) : Prop :=
  ∀ (answers : Answers) (budgetMsgs budgetBytes : Nat),
    (s.flushPendingSends answers budgetMsgs budgetBytes).2.wrapped = false ∧
      ∀ sid, s.queue sid =
        (s.flushPendingSends answers budgetMsgs budgetBytes).2.sent.filter (·.sid == sid) ++
          (s.flushPendingSends answers budgetMsgs budgetBytes).1.queue sid

theorem Accounted.flushed {s : PendingSends} (h : s.Accounted) :
    Flushed s {} (s.flushPendingSends answers budgetMsgs budgetBytes).1
      (s.flushPendingSends answers budgetMsgs budgetBytes).2 :=
  flushed_flushSids answers budgetMsgs budgetBytes h _ _

/-- What was counted right is flushed in order. -/
theorem Accounted.flushesInOrder {s : PendingSends} (h : s.Accounted) : s.FlushesInOrder := by
  intro answers budgetMsgs budgetBytes
  have hflushed := h.flushed answers budgetMsgs budgetBytes
  obtain ⟨part, hpart, hqueue⟩ := hflushed.sent
  refine ⟨hflushed.wrapped, fun sid => ?_⟩
  rw [hpart]
  exact hqueue sid

theorem accounted_step {s : PendingSends} (h : s.Accounted) (op : SendOp) :
    (s.step op).Accounted := by
  cases op with
  | enqueue ps => exact h.enqueueSend ps
  | flush answers budgetMsgs budgetBytes =>
      exact (h.flushed answers budgetMsgs budgetBytes).accounted

/-- **Accounting and order.**  After any operations every counter is the size
of its queue, within the limits, and every flush sends the front of each
queue in order, without loss or repetition. -/
theorem accounted_run (ops : List SendOp) :
    (run step {} ops).Accounted ∧ (run step {} ops).FlushesInOrder := by
  have h : (run step {} ops).Accounted :=
    run_induction accounted_empty fun _ op hs => accounted_step hs op
  exact ⟨h, h.flushesInOrder⟩

end PendingSends

end GameServer
