import GameServer.Net.Batches
import GameServer.World.PendingSends
import GameServer.World.ZoneSector

/-!
# GameServer.World.MoveCoalescing

What a client makes of the messages about players when older moves in its
queue are replaced by newer ones.

A queued move is replaced in place, so the newest position of a player gets
in front of everything queued since the older one.

* `PlayerMsg`, `PlayerCodec` — the messages, packed or as protobuf messages;
* `clientView` — the players that a client shows, and where;
* `SendLine` — a session with its queue, what was sent to it, and what was
  enqueued;
* `agrees_run` — the client ends up with the same view, as long as nothing
  about the player is queued behind a move that is replaced.
-/

namespace GameServer

/-! ## Messages about players -/

/-- `player_spawn`, `player_despawn` and `player_move`. -/
inductive PlayerMsg where
  | spawn (charId : UInt64) (pos : Vec2i)
  | despawn (charId : UInt64)
  | move (charId : UInt64) (pos : Vec2i)
deriving DecidableEq, Repr

namespace PlayerMsg

def charId : PlayerMsg → UInt64
  | .spawn id _ | .despawn id | .move id _ => id

def msgType : PlayerMsg → UInt16
  | .spawn _ _ => 40
  | .despawn _ => 41
  | .move _ _ => 42

/-- The id that `EnqueueSend_` coalesces by: only moves have one. -/
def moveCharId : PlayerMsg → UInt64
  | .move id _ => id
  | _ => 0

end PlayerMsg

/-- How messages are put into packets: what is read is what was written. -/
structure PlayerCodec where
  encode : PlayerMsg → MsgHeader × Option (List UInt8)
  decode : MsgHeader × Option (List UInt8) → Option PlayerMsg
  decode_encode : ∀ m, decode (encode m) = some m

/-- `S2C_player_spawn`, `S2C_player_despawn` and `S2C_player_move`. -/
def packedCodec : PlayerCodec where
  encode m :=
    match m with
    | .spawn charId pos =>
        (makeHeader 40 16, some (ActorItem.layout.toBytes { charId, x := pos.x, y := pos.y }))
    | .despawn charId => (makeHeader 41 8, some (Layout.u64.toBytes charId))
    | .move charId pos =>
        (makeHeader 42 16, some (ActorItem.layout.toBytes { charId, x := pos.x, y := pos.y }))
  decode p :=
    match p.2 with
    | none => none
    | some body =>
        let a := ActorItem.layout.ofBytes body
        if p.1.byType = (40, 0) then some (.spawn a.charId ⟨a.x, a.y⟩)
        else if p.1.byType = (41, 0) then some (.despawn (Layout.u64.ofBytes body))
        else if p.1.byType = (42, 0) then some (.move a.charId ⟨a.x, a.y⟩)
        else none
  decode_encode m := by
    have hread : ∀ {α : Type} (l : Layout α) (a : α), l.ofBytes (l.toBytes a) = a := by
      intro α l a
      have h := l.ofBytes_append a []
      rwa [List.append_nil] at h
    cases m with
    | spawn charId pos => simp [makeHeader, hread]
    | despawn charId => simp [makeHeader, hread]
    | move charId pos => simp [makeHeader, hread]

/-- The message as `EnqueueSend_` is given it. -/
def PlayerMsg.send (c : PlayerCodec) (sid serial : UInt32) (m : PlayerMsg) : PendingNetSend where
  sid
  serial
  h := (c.encode m).1
  body := (c.encode m).2
  msgType := m.msgType
  moveCharId := m.moveCharId

/-! ## The client -/

/-- The players that a client shows (`LiveObjects`). -/
abbrev ClientView := UInt64 → Option Vec2i

/-- What a message does to the place of a player.  A client that `upserts`
shows a player at its first move (`UpsertPlayer`), another waits for the
spawn. -/
def PlayerMsg.place (upserts : Bool) (id : UInt64) (o : Option Vec2i) (m : PlayerMsg) :
    Option Vec2i :=
  if m.charId = id then
    match m with
    | .spawn _ pos => some pos
    | .despawn _ => none
    | .move _ pos => if upserts || o.isSome then some pos else none
  else o

/-- The view after some messages. -/
def clientView (upserts : Bool) (ms : List PlayerMsg) : ClientView :=
  fun id => ms.foldl (PlayerMsg.place upserts id) none

/-- What a client reads. -/
def received (c : PlayerCodec) (q : List PendingNetSend) : List PlayerMsg :=
  q.filterMap fun ps => c.decode (ps.h, ps.body)

/-! ## A session -/

/-- The queues with what was sent so far; `enqueued` is kept for
comparison. -/
structure SendLine where
  pending : PendingSends := {}
  sent : List PendingNetSend := []
  enqueued : List PlayerMsg := []

inductive LineOp where
  | enqueue (m : PlayerMsg)
  | flush (answers : PendingSends.Answers) (budgetMsgs budgetBytes : Nat)

namespace SendLine

variable (c : PlayerCodec) (sid serial : UInt32)

/-- A message for the session, or a flush. -/
def step (s : SendLine) : LineOp → SendLine
  | .enqueue m =>
      { s with
        pending := s.pending.enqueueSend (m.send c sid serial)
        enqueued := s.enqueued ++ [m] }
  | .flush answers budgetMsgs budgetBytes =>
      let r := s.pending.flushPendingSends answers budgetMsgs budgetBytes
      { s with pending := r.1, sent := s.sent ++ r.2.sent }

/-- The client sees what it would see without coalescing: when all is sent,
and of what is sent and still queued at any time. -/
def Agrees (upserts : Bool) (s : SendLine) : Prop :=
  clientView upserts (received c (s.sent ++ s.pending.queue sid)) =
      clientView upserts s.enqueued ∧
    (s.pending.queue sid = [] →
      clientView upserts (received c s.sent) = clientView upserts s.enqueued)

/-- The messages behind the one that a move replaces, if it replaces any. -/
def newerThanReplaced (q : List PendingNetSend) (ps : PendingNetSend) :
    Option (List PendingNetSend) :=
  let recent := q.reverse.take 256
  if ps.moveCharId ≠ 0 ∧ recent.any (fun p => ps.Replaces p) then
    some (recent.takeWhile fun p => ¬ps.Replaces p).reverse
  else none

/-- The last word on the player behind the replaced move is not
contradicted: there is none, or it puts the player where the move does. -/
def Harmless (upserts : Bool) (m : PlayerMsg) (newer : List PlayerMsg) : Prop :=
  match newer.reverse.find? (·.charId == m.charId) with
  | some (.spawn id pos) => m = .move id pos
  | some (.despawn _) => upserts = false
  | _ => True

instance (upserts : Bool) (m : PlayerMsg) (newer : List PlayerMsg) :
    Decidable (Harmless upserts m newer) := by
  unfold Harmless
  split <;> infer_instance

/-- There is room for a message, and it replaces none or does no harm. -/
def Allows (upserts : Bool) (s : SendLine) : LineOp → Prop
  | .enqueue m => ¬s.pending.Full (m.send c sid serial) ∧
      ∀ newer ∈ newerThanReplaced (s.pending.queue sid) (m.send c sid serial),
        Harmless upserts m (received c newer)
  | .flush _ _ _ => True

instance (upserts : Bool) (s : SendLine) (op : LineOp) :
    Decidable (s.Allows c sid serial upserts op) := by
  cases op with
  | enqueue m => exact inferInstanceAs (Decidable (_ ∧ _))
  | flush answers budgetMsgs budgetBytes => exact isTrue trivial

end SendLine

/-! ## The client and the order of messages -/

section Place

variable {upserts : Bool}

theorem place_of_ne {id : UInt64} {m : PlayerMsg} (h : m.charId ≠ id) (o : Option Vec2i) :
    m.place upserts id o = o := if_neg h

/-- The place of a player that no move is about is that of the last word on
it. -/
theorem foldl_place_eq {id : UInt64} (newer : List PlayerMsg)
    (h : ∀ pos, PlayerMsg.move id pos ∉ newer) (o : Option Vec2i) :
    newer.foldl (PlayerMsg.place upserts id) o =
      match newer.reverse.find? (·.charId == id) with
      | none => o
      | some (.spawn _ pos) => some pos
      | some _ => none := by
  induction newer using List.reverseRecOn with
  | nil => rfl
  | append_singleton newer m ih =>
      have hnewer : ∀ pos, PlayerMsg.move id pos ∉ newer :=
        fun pos hpos => h pos (List.mem_append_left _ hpos)
      rw [List.foldl_append, List.foldl_cons, List.foldl_nil, List.reverse_append,
        List.reverse_singleton, List.singleton_append, List.find?_cons]
      by_cases hid : m.charId = id
      · rw [beq_iff_eq.mpr hid]
        cases m with
        | spawn charId pos => exact if_pos hid
        | despawn charId => exact if_pos hid
        | move charId pos =>
            refine absurd ?_ (h pos)
            rw [← show charId = id from hid]
            exact List.mem_append_right _ List.mem_cons_self
      · rw [beq_eq_false_iff_ne.mpr hid, place_of_ne hid, ih hnewer]

/-- A move may take the place of an older one if the last word since then
does no harm. -/
theorem clientView_replace {charId : UInt64} (pos : Vec2i) {pos' : Vec2i}
    (older newer : List PlayerMsg)
    (hmoves : ∀ pos, PlayerMsg.move charId pos ∉ newer)
    (h : SendLine.Harmless upserts (.move charId pos') newer) :
    clientView upserts (older ++ .move charId pos' :: newer) =
      clientView upserts (older ++ .move charId pos :: newer ++ [.move charId pos']) := by
  funext id
  simp only [clientView, List.foldl_append, List.foldl_cons, List.foldl_nil]
  by_cases hid : charId = id
  · subst hid
    rw [foldl_place_eq newer hmoves, foldl_place_eq newer hmoves]
    generalize older.foldl (PlayerMsg.place upserts charId) none = o
    have hself : (PlayerMsg.move charId pos').charId = charId := rfl
    rw [SendLine.Harmless, hself] at h
    cases hlast : newer.reverse.find? (·.charId == charId) with
    | none => cases upserts <;> cases o <;> simp [PlayerMsg.place, PlayerMsg.charId]
    | some m =>
        rw [hlast] at h
        cases m with
        | spawn charId' pos₀ =>
            cases h
            simp [PlayerMsg.place, PlayerMsg.charId]
        | despawn charId' =>
            rw [show upserts = false from h]
            simp [PlayerMsg.place]
        | move charId' pos₀ =>
            have hmem := List.mem_of_find?_eq_some hlast
            have hfound := List.find?_some hlast
            rw [beq_iff_eq] at hfound
            rw [show charId' = charId from hfound, List.mem_reverse] at hmem
            exact absurd hmem (hmoves pos₀)
  · have hother : ∀ pos₀, (PlayerMsg.move charId pos₀).charId ≠ id := fun _ => hid
    rw [place_of_ne (hother _), place_of_ne (hother _), place_of_ne (hother _)]

/-- Equal views stay equal under one more message. -/
theorem clientView_append_congr {ms ms' : List PlayerMsg}
    (h : clientView upserts ms = clientView upserts ms') (m : PlayerMsg) :
    clientView upserts (ms ++ [m]) = clientView upserts (ms' ++ [m]) := by
  funext id
  have hid := congrFun h id
  simp only [clientView] at hid
  simp only [clientView, List.foldl_append, hid]

end Place

/-- A client reads back the messages that were sent to it, in order. -/
theorem received_map_send (c : PlayerCodec) (sid serial : UInt32) (ms : List PlayerMsg) :
    received c (ms.map (PlayerMsg.send c sid serial)) = ms := by
  induction ms with
  | nil => rfl
  | cons m ms ih =>
      have hread : c.decode ((m.send c sid serial).h, (m.send c sid serial).body) = some m :=
        c.decode_encode m
      rw [received, List.map_cons, List.filterMap_cons, hread, ← received, ih]

/-! ## The session -/

namespace SendLine

variable {c : PlayerCodec} {sid serial : UInt32} {upserts : Bool}

/-- Everything in the queues and everything sent was enqueued for the
session, and the view is the one of what was enqueued. -/
structure LineOk (c : PlayerCodec) (sid serial : UInt32) (upserts : Bool) (s : SendLine) : Prop where
  accounted : s.pending.Accounted
  only : ∀ t, t ≠ sid → s.pending.queue t = []
  views : ∃ sent queued, s.sent = sent.map (PlayerMsg.send c sid serial) ∧
    s.pending.queue sid = queued.map (PlayerMsg.send c sid serial) ∧
      clientView upserts (sent ++ queued) = clientView upserts s.enqueued

/-- The invariant gives that client and server agree. -/
theorem LineOk.agrees {s : SendLine} (h : LineOk c sid serial upserts s) :
    s.Agrees c sid upserts := by
  obtain ⟨sent, queued, hsent, hqueued, hview⟩ := h.views
  refine ⟨?_, fun hempty => ?_⟩
  · rw [hsent, hqueued, ← List.map_append, received_map_send, hview]
  · rw [hempty] at hqueued
    have hnil : queued = [] := List.map_eq_nil_iff.mp hqueued.symm
    rw [hnil, List.append_nil] at hview
    rw [hsent, received_map_send, hview]

theorem lineOk_empty : LineOk c sid serial upserts {} :=
  ⟨PendingSends.accounted_empty, fun _ _ => rfl, [], [], rfl, rfl, rfl⟩

/-- The scan that replaces a move and the condition see the same messages. -/
theorem newerThanReplaced_eq {ps prev : PendingNetSend} {older newer : List PendingNetSend}
    (hmove : ps.moveCharId ≠ 0) (hprev : ps.Replaces prev) (hnewer : ∀ p ∈ newer, ¬ps.Replaces p)
    (hlength : newer.length < 256) :
    newerThanReplaced (older ++ prev :: newer) ps = some newer := by
  have hrecent : ((older ++ prev :: newer).reverse).take 256 =
      newer.reverse ++ prev :: older.reverse.take (255 - newer.length) := by
    have hreverse : (older ++ prev :: newer).reverse =
        newer.reverse ++ prev :: older.reverse := by simp
    obtain ⟨n, hn⟩ : ∃ n, 256 - newer.length = n + 1 := ⟨255 - newer.length, by omega⟩
    rw [hreverse, List.take_append, List.length_reverse, hn, List.take_succ_cons,
      List.take_of_length_le (by rw [List.length_reverse]; omega),
      show n = 255 - newer.length by omega]
  have hall : ∀ p ∈ newer.reverse, (decide ¬ps.Replaces p) = true :=
    fun p hp => decide_eq_true (hnewer p (List.mem_reverse.mp hp))
  have hprev' : (decide ¬ps.Replaces prev) = false := decide_eq_false (not_not.mpr hprev)
  have hany : (newer.reverse ++ prev :: older.reverse.take (255 - newer.length)).any
      (fun p => decide (ps.Replaces p)) = true :=
    List.any_eq_true.mpr
      ⟨prev, List.mem_append_right _ List.mem_cons_self, decide_eq_true hprev⟩
  unfold newerThanReplaced
  dsimp only
  rw [hrecent, if_pos ⟨hmove, hany⟩, List.takeWhile_append_of_pos hall, List.takeWhile_cons,
    hprev']
  simp

/-- Only a move replaces a message, and only a move of the same player. -/
theorem eq_move_of_replaces {m m' : PlayerMsg} (hmove : m.moveCharId ≠ 0)
    (h : (m.send c sid serial).Replaces (m'.send c sid serial)) :
    ∃ id pos pos', m = .move id pos ∧ m' = .move id pos' := by
  obtain ⟨htype, hid⟩ := h
  cases m with
  | spawn id pos => exact absurd rfl hmove
  | despawn id => exact absurd rfl hmove
  | move id pos =>
      cases m' with
      | spawn id' pos' => exact absurd htype (show (40 : UInt16) ≠ 42 by decide)
      | despawn id' => exact absurd htype (show (41 : UInt16) ≠ 42 by decide)
      | move id' pos' =>
          rw [show id' = id from hid]
          exact ⟨id, pos, pos', rfl, rfl⟩

/-- What is behind a replaced move has no move of the player. -/
theorem move_notMem_of_not_replaces {id : UInt64} {pos : Vec2i} {newer : List PlayerMsg}
    (h : ∀ p ∈ newer.map (PlayerMsg.send c sid serial),
      ¬((PlayerMsg.move id pos).send c sid serial).Replaces p) (pos' : Vec2i) :
    PlayerMsg.move id pos' ∉ newer :=
  fun hmem => h _ (List.mem_map.mpr ⟨_, hmem, rfl⟩) ⟨rfl, rfl⟩

/-- A move may only replace an older one of its own player. -/
theorem LineOk.enqueue {s : SendLine} (h : LineOk c sid serial upserts s) {m : PlayerMsg}
    (hm : s.Allows c sid serial upserts (.enqueue m)) :
    LineOk c sid serial upserts (s.step c sid serial (.enqueue m)) := by
  obtain ⟨hroom, hharmless⟩ := hm
  obtain ⟨sent, queued, hsent, hqueued, hview⟩ := h.views
  have hsid : (m.send c sid serial).sid = sid := rfl
  have hothers : ∀ q b t, t ≠ sid → (s.pending.put sid q b).queue t = [] := by
    intro q b t ht
    rw [PendingSends.queue_put, if_neg ht]
    exact h.only t ht
  have haccounted := h.accounted.enqueueSend (m.send c sid serial)
  obtain ⟨hfull, -⟩ | ⟨-, older, prev, newer, hq, hmove, hprev, hnewer, hlength, heq⟩ | ⟨-, heq⟩ :=
    s.pending.enqueueSend_cases (m.send c sid serial)
  · exact absurd hfull hroom
  · rw [hsid] at hq heq
    refine ⟨haccounted, fun t ht => ?_, ?_⟩
    · dsimp only [SendLine.step]
      rw [heq]
      exact hothers _ _ t ht
    -- The queue is split as it was, in terms of messages.
    have hcond := hharmless newer
      (by rw [hq, newerThanReplaced_eq hmove hprev hnewer hlength]; rfl)
    rw [hqueued] at hq
    obtain ⟨ms, ms', rfl, holder, hrest⟩ := List.map_eq_append_iff.mp hq
    obtain ⟨m', ms'', rfl, hm', hnew⟩ := List.map_eq_cons_iff.mp hrest
    rw [← hm'] at hprev
    obtain ⟨id, pos, pos', rfl, rfl⟩ := eq_move_of_replaces hmove hprev
    rw [← hnew] at hnewer
    rw [← hnew, received_map_send] at hcond
    have hreplace := clientView_replace pos' (sent ++ ms) ms''
      (move_notMem_of_not_replaces hnewer) hcond
    refine ⟨sent, ms ++ .move id pos :: ms'', hsent, ?_, ?_⟩
    · dsimp only [SendLine.step]
      rw [heq, PendingSends.queue_put, if_pos rfl, ← holder, ← hnew, List.map_append, List.map_cons]
    · dsimp only [SendLine.step]
      rw [← List.append_assoc, hreplace]
      refine clientView_append_congr ?_ _
      rw [List.append_assoc]
      exact hview
  · rw [hsid] at heq
    refine ⟨haccounted, fun t ht => ?_, sent, queued ++ [m], hsent, ?_, ?_⟩
    · dsimp only [SendLine.step]
      rw [heq]
      exact hothers _ _ t ht
    · dsimp only [SendLine.step]
      rw [heq, PendingSends.queue_put, if_pos rfl, hqueued, List.map_append, List.map_singleton]
    · dsimp only [SendLine.step]
      rw [← List.append_assoc]
      exact clientView_append_congr hview m

/-- What a flush sends is the front of the queue. -/
theorem LineOk.flush {s : SendLine} (h : LineOk c sid serial upserts s)
    (answers : PendingSends.Answers) (budgetMsgs budgetBytes : Nat) :
    LineOk c sid serial upserts (s.step c sid serial (.flush answers budgetMsgs budgetBytes)) := by
  obtain ⟨sent, queued, hsent, hqueued, hview⟩ := h.views
  obtain ⟨-, hqueues⟩ := h.accounted.flushesInOrder answers budgetMsgs budgetBytes
  have haccounted := (h.accounted.flushed answers budgetMsgs budgetBytes).accounted
  dsimp only [SendLine.step]
  set r := s.pending.flushPendingSends answers budgetMsgs budgetBytes
  -- Nothing was sent to another slot, since nothing waited there.
  have hsids : ∀ ps ∈ r.2.sent, ps.sid = sid := by
    intro ps hps
    by_contra hne
    have hempty := hqueues ps.sid
    rw [h.only _ hne] at hempty
    have hmem : ps ∈ r.2.sent.filter (·.sid == ps.sid) :=
      List.mem_filter.mpr ⟨hps, beq_self_eq_true _⟩
    rw [(List.append_eq_nil_iff.mp hempty.symm).1] at hmem
    exact absurd hmem List.not_mem_nil
  have hfilter : r.2.sent.filter (·.sid == sid) = r.2.sent :=
    List.filter_eq_self.mpr fun ps hps => beq_iff_eq.mpr (hsids ps hps)
  have hsplit := hqueues sid
  rw [hqueued, hfilter] at hsplit
  obtain ⟨front, back, rfl, hfront, hback⟩ := List.map_eq_append_iff.mp hsplit
  refine ⟨haccounted, fun t ht => ?_, sent ++ front, back, ?_, hback.symm, ?_⟩
  · have hempty := hqueues t
    rw [h.only t ht] at hempty
    exact (List.append_eq_nil_iff.mp hempty.symm).2
  · rw [List.map_append, ← hsent, hfront]
  · rw [List.append_assoc]
    exact hview

theorem LineOk.step {s : SendLine} (h : LineOk c sid serial upserts s) {op : LineOp}
    (hop : s.Allows c sid serial upserts op) :
    LineOk c sid serial upserts (s.step c sid serial op) := by
  cases op with
  | enqueue m => exact h.enqueue hop
  | flush answers budgetMsgs budgetBytes => exact h.flush answers budgetMsgs budgetBytes

/-- **Coalescing.**  Along any enqueues that find room and any flushes, the
client's view is that of the messages as they were enqueued, if every move
that replaces an older one finds no contradicting message about its player
queued behind that one. -/
theorem agrees_run (c : PlayerCodec) (sid serial : UInt32) (upserts : Bool) (ops : List LineOp)
    (h : Along (step c sid serial) (Allows c sid serial upserts) {} ops) :
    Always (step c sid serial) (Agrees c sid upserts) {} ops := by
  have hok : Always (step c sid serial) (LineOk c sid serial upserts) {} ops :=
    always_of_along lineOk_empty (fun _ _ hs hop => hs.step hop) h
  exact hok.imp fun _ hs => hs.agrees

/-- Player 7 moves twice before the queue is flushed, and goes away. -/
def movesTwice : List LineOp :=
  [.enqueue (.spawn 7 ⟨0, 0⟩), .enqueue (.move 7 ⟨1, 1⟩), .enqueue (.move 7 ⟨2, 2⟩),
    .flush (fun _ _ => true) 100 10000, .enqueue (.despawn 7)]

theorem agrees_movesTwice :
    Always (step packedCodec 1 1) (Agrees packedCodec 1 true) {} movesTwice :=
  agrees_run packedCodec 1 1 true movesTwice (by decide)

/-- Player 7 moves, goes out of sight, comes back elsewhere and moves on. -/
def comesBack : List LineOp :=
  [.enqueue (.spawn 7 ⟨0, 0⟩), .enqueue (.move 7 ⟨1, 1⟩), .enqueue (.despawn 7),
    .enqueue (.spawn 7 ⟨2, 2⟩), .enqueue (.move 7 ⟨3, 3⟩), .flush (fun _ _ => true) 100 10000]

/-- The newest position gets in front of the despawn, and the client shows
the player where it came back. -/
theorem not_agrees_comesBack :
    ¬Always (step packedCodec 1 1) (Agrees packedCodec 1 true) {} comesBack ∧
      ¬Always (step packedCodec 1 1) (Agrees packedCodec 1 false) {} comesBack := by
  constructor
  all_goals
    intro h
    have hlast := (always_iff_forall_part.mp h comesBack List.prefix_rfl).2 (by decide)
    exact absurd (congrFun hlast 7) (by decide)

end SendLine

end GameServer
