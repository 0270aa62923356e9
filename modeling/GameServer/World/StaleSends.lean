import Mathlib.Algebra.Order.BigOperators.Group.List
import Mathlib.Algebra.Order.Ring.Nat
import GameServer.World.PendingSends
import GameServer.World.TcpServer

/-!
# GameServer.World.StaleSends

Messages that wait for a connection which is gone.

The queues of `PendingSends` go by slot, the messages in them by connection:
`try_send_lossy` refuses what is for an earlier connection of the slot, and a
refused message stays at the head of its queue.

* `queue_flush` — a flush takes the live messages from the front;
* `noneLive_flush_iff` — no message for a live connection is left over
  precisely if none waits behind a stale one.
-/

namespace GameServer

/-- `try_send_lossy`: the connection has to be that of the slot, and have
`room`, the answer of `can_accept_send`. -/
def TcpServer.trySendLossy (tcp : TcpServer) (room : PendingSends.Answers) :
    PendingSends.Answers :=
  fun tried ps => tcp.isLive ps.sid ps.serial && room tried ps

/-- Nothing passes a test behind the first that fails it, precisely if what
passes is in front of what fails. -/
theorem forall_mem_dropWhile_iff {α : Type} {p : α → Bool} {l : List α} :
    (∀ a ∈ l.dropWhile p, p a = false) ↔ l.Pairwise fun a b => p b = true → p a = true := by
  induction l with
  | nil => simp
  | cons a l ih =>
      rw [List.pairwise_cons, List.dropWhile_cons]
      split_ifs with ha
      · rw [ih]
        exact (and_iff_right fun b _ _ => ha).symm
      · rw [Bool.not_eq_true] at ha
        constructor
        · intro h
          have hrest : ∀ b ∈ l, p b = false := fun b hb => h b (List.mem_cons_of_mem a hb)
          refine ⟨fun b hb hpb => ?_, ?_⟩
          · rw [hrest b hb] at hpb
            cases hpb
          · refine List.Pairwise.imp_of_mem (R := fun _ _ => True) (fun hb hb' _ hpb => ?_)
              (List.pairwise_of_forall fun _ _ => trivial)
            rw [hrest _ hb'] at hpb
            cases hpb
        · rintro ⟨hfirst, -⟩ b hb
          rcases List.mem_cons.mp hb with rfl | hb
          · exact ha
          · rw [Bool.eq_false_iff]
            intro hpb
            rw [hfirst b hb hpb] at ha
            cases ha

namespace PendingSends

/-- The number of messages that wait. -/
def totalMsgs (s : PendingSends) : Nat := (s.queues.keys.map fun sid => (s.queue sid).length).sum

/-- Their sizes. -/
def totalBytes (s : PendingSends) : Nat :=
  (s.queues.keys.map fun sid => sumBytes (s.queue sid)).sum

/-- No message waits for a live connection. -/
def NoneLive (tcp : TcpServer) (s : PendingSends) : Prop :=
  ∀ sid, ∀ ps ∈ s.queue sid, tcp.isLive ps.sid ps.serial = false

/-- In every queue, what is for a live connection is in front of what is
not. -/
def LiveFirst (tcp : TcpServer) (s : PendingSends) : Prop :=
  ∀ sid, (s.queue sid).Pairwise fun ps ps' =>
    tcp.isLive ps'.sid ps'.serial = true → tcp.isLive ps.sid ps.serial = true

/-! ## A flush with budgets to spare -/

section Accepting

variable {answers : Answers} {p : PendingNetSend → Bool} (h : ∀ tried ps, answers tried ps = p ps)
  {budgetMsgs budgetBytes : Nat}

include h

/-- Within the budgets a drain takes the messages that are accepted, up to the first that
is not. -/
theorem drain_eq (budgetMsgs budgetBytes : Nat) {q : List PendingNetSend} {b : UInt64}
    {f : FlushTally} (hn : f.n + q.length < budgetMsgs)
    (hbytes : f.bytes + sumBytes q < budgetBytes) :
    (drain answers budgetMsgs budgetBytes q b f).1 = q.dropWhile p ∧
      (drain answers budgetMsgs budgetBytes q b f).2.2.n ≤ f.n + q.length ∧
      (drain answers budgetMsgs budgetBytes q b f).2.2.bytes ≤ f.bytes + sumBytes q := by
  induction q generalizing b f with
  | nil => exact ⟨rfl, Nat.le_refl _, Nat.le_refl _⟩
  | cons ps q ih =>
      rw [List.length_cons] at hn
      rw [sumBytes_cons] at hbytes
      rw [drain, if_pos ⟨by omega, by omega⟩]
      dsimp only
      rw [h, List.dropWhile_cons, List.length_cons, sumBytes_cons]
      split_ifs with hp
      · obtain ⟨hq, hn', hbytes'⟩ := ih (b := b - ps.bytes)
          (f := { attempts := f.attempts ++ [(ps, true)], n := f.n + 1
                  bytes := f.bytes + ps.h.wSize.toNat
                  wrapped := f.wrapped || decide (b < ps.bytes) })
          (by dsimp only; omega) (by dsimp only; omega)
        dsimp only at hn' hbytes'
        exact ⟨hq, by omega, by omega⟩
      · exact ⟨rfl, Nat.le_add_right _ _, Nat.le_add_right _ _⟩

/-- So does each queue of a flush: induction on the sessions. -/
theorem queue_flushSids {sids : List UInt32} {s : PendingSends} {f : FlushTally}
    (hnodup : sids.Nodup) (hn : f.n + (sids.map fun sid => (s.queue sid).length).sum < budgetMsgs)
    (hbytes : f.bytes + (sids.map fun sid => sumBytes (s.queue sid)).sum < budgetBytes)
    (t : UInt32) :
    (flushSids answers budgetMsgs budgetBytes sids s f).1.queue t =
      if t ∈ sids then (s.queue t).dropWhile p else s.queue t := by
  induction sids generalizing s f with
  | nil => simp [flushSids]
  | cons sid sids ih =>
      rw [List.nodup_cons] at hnodup
      rw [List.map_cons, List.sum_cons] at hn hbytes
      rw [flushSids]
      cases hq : s.queues.lookup sid with
      | none =>
          have hempty : s.queue sid = [] := by rw [queue, hq, Option.getD_none]
          dsimp only
          rw [ih hnodup.2 (by omega) (by omega)]
          by_cases ht : t = sid
          · subst ht
            simp [hempty]
          · simp [ht]
      | some q =>
          have hqueue := queue_of_lookup hq
          rw [hqueue] at hn hbytes
          obtain ⟨hrest, hn', hbytes'⟩ :=
            drain_eq h budgetMsgs budgetBytes (q := q) (b := s.byteCount sid) (f := f) (by omega)
              (by omega)
          dsimp only
          set r := drain answers budgetMsgs budgetBytes q (s.byteCount sid) f
          -- The queues of the other sids are as before.
          have hothers : ∀ u ∈ sids, (s.storeRest sid r.1 r.2.1).queue u = s.queue u := by
            intro u hu
            rw [queue_storeRest, if_neg]
            rintro rfl
            exact hnodup.1 hu
          have hlengths : (sids.map fun u => ((s.storeRest sid r.1 r.2.1).queue u).length) =
              sids.map fun u => (s.queue u).length :=
            List.map_congr_left fun u hu => by rw [hothers u hu]
          have hsizes : (sids.map fun u => sumBytes ((s.storeRest sid r.1 r.2.1).queue u)) =
              sids.map fun u => sumBytes (s.queue u) :=
            List.map_congr_left fun u hu => by rw [hothers u hu]
          have hspare : ¬(r.2.2.n ≥ budgetMsgs ∨ r.2.2.bytes ≥ budgetBytes) := by omega
          rw [if_neg hspare, ih hnodup.2 (by rw [hlengths]; omega) (by rw [hsizes]; omega),
            queue_storeRest, hrest]
          by_cases ht : t = sid
          · subst ht
            simp [hnodup.1, hqueue]
          · simp [ht]

/-- A flush takes from each queue what is taken from its front. -/
theorem queue_flush {s : PendingSends} (hn : s.totalMsgs < budgetMsgs)
    (hbytes : s.totalBytes < budgetBytes) (t : UInt32) :
    (s.flushPendingSends answers budgetMsgs budgetBytes).1.queue t = (s.queue t).dropWhile p := by
  have hsub : (s.queues.keys.filter fun sid => !(s.queue sid).isEmpty).Sublist s.queues.keys :=
    List.filter_sublist
  have hmsgs := (hsub.map fun sid => (s.queue sid).length).sum_le_sum fun _ _ => Nat.zero_le _
  have hsizes := (hsub.map fun sid => sumBytes (s.queue sid)).sum_le_sum fun _ _ => Nat.zero_le _
  unfold totalMsgs at hn
  unfold totalBytes at hbytes
  rw [flushPendingSends, queue_flushSids h (s.queues.keys_nodup.filter _)
    (by dsimp only; omega) (by dsimp only; omega)]
  split_ifs with ht
  · rfl
  · have hempty : s.queue t = [] := by
      by_contra hne
      refine ht (List.mem_filter.mpr ⟨?_, by simpa using hne⟩)
      refine AList.mem_keys.mp (AList.lookup_isSome.mp ?_)
      cases hq : s.queues.lookup t with
      | none => exact absurd (by rw [queue, hq, Option.getD_none]) hne
      | some q => rfl
    rw [hempty, List.dropWhile_nil]

end Accepting

/-- **Stale messages.**  With budgets larger than the queues and no live
connection saturated, a flush leaves no message for a live connection
precisely if, in every queue, none is behind a message for a connection that
is not live. -/
theorem noneLive_flush_iff (tcp : TcpServer) (room : Answers) (s : PendingSends)
    (hroom : ∀ tried ps, tcp.isLive ps.sid ps.serial = true → room tried ps = true)
    {budgetMsgs budgetBytes : Nat} (hmsgs : s.totalMsgs < budgetMsgs)
    (hbytes : s.totalBytes < budgetBytes) :
    NoneLive tcp (s.flushPendingSends (tcp.trySendLossy room) budgetMsgs budgetBytes).1 ↔
      LiveFirst tcp s := by
  have hanswer : ∀ tried ps, tcp.trySendLossy room tried ps = tcp.isLive ps.sid ps.serial := by
    intro tried ps
    unfold TcpServer.trySendLossy
    cases hlive : tcp.isLive ps.sid ps.serial with
    | false => rfl
    | true => rw [hroom tried ps hlive, Bool.and_self]
  refine forall_congr' fun sid => ?_
  rw [queue_flush hanswer hmsgs hbytes]
  exact forall_mem_dropWhile_iff

/-! ## A slot that is used again -/

/-- Slot 1 has its second connection. -/
def secondConnection : TcpServer := ((TcpServer.initial.accept).terminate 1 1).accept

/-- A despawn for a connection of slot 1. -/
def despawnFor (serial : UInt32) : PendingNetSend where
  sid := 1
  serial
  h := { wSize := 12, byType := (41, 0) }
  body := some [7, 0, 0, 0, 0, 0, 0, 0]
  msgType := 41

/-- A message for the second connection, and behind it one that comes too late
for the first. -/
def lateDespawn : PendingSends :=
  (({} : PendingSends).enqueueSend (despawnFor 2)).enqueueSend (despawnFor 1)

/-- The message of the second connection goes out, and only the other one is
left. -/
theorem noneLive_flush_inFront :
    NoneLive secondConnection
      (lateDespawn.flushPendingSends (secondConnection.trySendLossy fun _ _ => true) 10 1000).1 := by
  have hfirst : LiveFirst secondConnection lateDespawn := by
    intro sid
    have hqueue : lateDespawn.queue sid =
        if sid = 1 then [despawnFor 2, despawnFor 1]
        else (({} : PendingSends).enqueueSend (despawnFor 2)).queue sid := queue_put _ _ _ _ _
    have hnone : sid ≠ 1 → (({} : PendingSends).enqueueSend (despawnFor 2)).queue sid = [] :=
      fun hsid => (queue_put _ _ _ _ _).trans (if_neg hsid)
    rw [hqueue]
    split_ifs with hsid
    · exact List.pairwise_pair.mpr fun h => absurd h (by decide)
    · rw [hnone hsid]
      exact List.Pairwise.nil
  exact (noneLive_flush_iff secondConnection (fun _ _ => true) lateDespawn (fun _ _ _ => rfl)
    (by decide) (by decide)).mpr hfirst

/-- A message for the first connection keeps one for the second from going
out. -/
theorem not_noneLive_behind_stale :
    let s := (({} : PendingSends).enqueueSend (despawnFor 1)).enqueueSend (despawnFor 2)
    s.totalMsgs < 10 ∧ s.totalBytes < 1000 ∧
      ¬NoneLive secondConnection
        (s.flushPendingSends (secondConnection.trySendLossy fun _ _ => true) 10 1000).1 := by
  have hqueue :
      ((({} : PendingSends).enqueueSend (despawnFor 1)).enqueueSend (despawnFor 2)
        |>.flushPendingSends (secondConnection.trySendLossy fun _ _ => true) 10 1000).1.queue 1 =
        [despawnFor 1, despawnFor 2] := by
    decide
  refine ⟨by decide, by decide, fun h => ?_⟩
  have hstale := h 1 (despawnFor 2) (by rw [hqueue]; simp)
  exact absurd hstale (by decide)

end PendingSends

end GameServer
