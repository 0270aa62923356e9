import GameServer.World.BatchPackets
import GameServer.World.CellPublish

/-!
# GameServer.World.MoveTick

The tick of a zone actor that sends out the moves since the last one
(`FlushMoveTickIfDue_`).

The pending moves are grouped by the cell of the player that moved; every
cell with players in it gets the groups of the nine cells around it as one
batch, which is enqueued for everyone in the cell.  Here the nine cells are
not clamped: beyond the border there are no groups.

* `flushMoveTickIfDue` — the tick, with the sends it makes;
* `movesAround` — what a player should get: the moves within one cell of it;
* `moveTick_deliversOnce` — every player gets exactly these, in one batch.
-/

namespace GameServer

open SectorContainer BatchFormat

/-- `PendingBenchAck`. -/
structure PendingBenchAck where
  sid : UInt32
  serial : UInt32
  seq : UInt32
  clientTsNs : UInt64
  zoneId : UInt32
deriving DecidableEq, Repr

/-- `S2C_bench_move_ack`. -/
structure BenchMoveAck where
  ok : UInt32 := 1
  seq : UInt32
  clientTsNs : UInt64
  zone : UInt32
  shard : UInt32
deriving DecidableEq, Repr

/-- The state of `ZoneActor` that the tick works on.  Times are in
nanoseconds. -/
structure MoveTick where
  zone : ZoneActor := {}
  pending : PendingSends := {}
  benchAcks : List PendingBenchAck := []
  lastMoveTickTp : Int := 0
  moveTickInited : Bool := false

/-- What the tick is called with: whether a session is in protobuf mode, what
the messages serialize to, the answers of `TrySendLossy`, and the number of
the shard. -/
structure MoveTickEnv where
  isProtoSession : UInt32 → UInt32 → Bool
  msgs : BatchMessages
  answers : PendingSends.Answers
  currentShardIndex : Int32

/-- What a tick does: the calls of `EnqueueSend_`, the flush after them, and
the acks. -/
structure MoveTickResult where
  ret : Bool
  state : MoveTick
  calls : SendCalls := []
  flush : PendingSends.FlushTally := {}
  acks : List (PendingBenchAck × BenchMoveAck) := []

/-! ## The tick -/

/-- `kMoveTickMs`. -/
def moveTickMs : Int32 := 10

/-- The milliseconds between two times, as an `int`. -/
def elapsedMs (now last : Int) : Int32 := Int32.ofInt ((now - last).tdiv 1000000)

/-- `cell_key >> 32` and the lower half. -/
def cellOfKey (ck : Int64) : Vec2i := ⟨(ck >>> 32).toInt32, ck.toUInt64.toUInt32.toInt32⟩

/-- The keys of the nine cells around a cell, not clamped. -/
def keysAround (c : Vec2i) : List Int64 :=
  (offsets 1).flatMap fun dy => (offsets 1).map fun dx => cellKey (c.x + dx) (c.y + dy)

/-- `src_cell_items`: the pending moves by the cells of their players. -/
abbrev SourceItems := Table Int64 (List ActorItem)

namespace ZoneActor

variable (z : ZoneActor)

/-- The first loop: add a pending move to the group of its cell. -/
def addSourceItem (src : SourceItems) (kv : (_ : UInt64) × Vec2i) : SourceItems :=
  match z.players kv.1 with
  | none => src
  | some pi =>
      let ck := cellKey pi.cx pi.cy
      src.set ck ((src ck).getD [] ++ [{ charId := kv.1, x := kv.2.x, y := kv.2.y }])

def sourceItems : SourceItems := z.pendingMoves.entries.foldl z.addSourceItem Table.empty

end ZoneActor

/-- The gathering loop: up to `count` items of the groups under some keys. -/
def gatherItems (src : SourceItems) (count : Nat) : List Int64 → List ActorItem → List ActorItem
  | [], batchItems => batchItems
  | k :: ks, batchItems =>
      if batchItems.length < count then
        match src k with
        | none => gatherItems src count ks batchItems
        | some vec =>
            gatherItems src count ks
              (batchItems ++ vec.take (min vec.length (count - batchItems.length)))
      else batchItems

/-- The packet that a sender hands over. -/
def ClientSend.packet? : ClientSend → Option Packet
  | .legacy (.packet m) => some m
  | .legacy _ => none
  | .framed m => some m

/-- The batch for a session. -/
def MoveTickEnv.moveBatch (env : MoveTickEnv) (batchItems : List ActorItem) (info : PlayerInfo) :
    Option CellMessage :=
  (moveTickPacket env.msgs (env.isProtoSession info.sid info.serial) batchItems).packet?.map
    fun m => { h := m.header, body := some m.body, msgType := 43 }

namespace ZoneActor

variable (env : MoveTickEnv) (z : ZoneActor)

/-- The second loop: one receiving cell. -/
def receivingCell (src : SourceItems) (kvCell : (_ : Int64) × ListSet UInt64) : SendCalls :=
  if kvCell.2.elems.isEmpty then []
  else
    let keys := keysAround (cellOfKey kvCell.1)
    let total := (keys.map fun k => (src k).elim 0 List.length).sum
    if total = 0 then []
    else
      let count := UInt16.ofNat (min total 4096)
      let batchItems := gatherItems src count.toNat keys []
      if batchItems.isEmpty then []
      else kvCell.2.elems.filterMap (z.sendToId (env.moveBatch batchItems))

/-- The sends of all receiving cells. -/
def moveTickCalls : SendCalls := z.cells.entries.flatMap (z.receivingCell env z.sourceItems)

end ZoneActor

namespace MoveTick

/-- The ack that goes out for a pending one. -/
def ackSend (currentShardIndex : Int32) (a : PendingBenchAck) :
    Option (PendingBenchAck × BenchMoveAck) :=
  if a.serial ≠ 0 then
    some (a, {
      seq := a.seq
      clientTsNs := a.clientTsNs
      zone := a.zoneId
      shard := (max 0 currentShardIndex).toUInt32 })
  else none

/-- `FlushMoveTickIfDue_`. -/
def flushMoveTickIfDue (st : MoveTick) (env : MoveTickEnv) (now : Int) (force : Bool) :
    MoveTickResult :=
  let st :=
    if st.moveTickInited then st
    else { st with lastMoveTickTp := now, moveTickInited := true }
  if force = false ∧ elapsedMs now st.lastMoveTickTp < moveTickMs then { ret := false, state := st }
  else if st.zone.pendingMoves.entries.isEmpty ∧ st.benchAcks.isEmpty then
    { ret := true, state := { st with lastMoveTickTp := now } }
  else
    let calls := st.zone.moveTickCalls env
    let flushed :=
      (st.pending.enqueueAll calls).flushPendingSends env.answers 4000 (4 * 1024 * 1024)
    { ret := true
      state := { st with
        zone := { st.zone with pendingMoves := ∅ }
        pending := flushed.1
        benchAcks := []
        lastMoveTickTp := now }
      calls
      flush := flushed.2
      acks := st.benchAcks.filterMap (ackSend env.currentShardIndex) }

end MoveTick

/-! ## What everyone should get -/

/-- A move, as the client sees it. -/
def moveItem (kv : (_ : UInt64) × Vec2i) : ActorItem :=
  { charId := kv.1, x := kv.2.x, y := kv.2.y }

/-- The pending moves of the players whose cells satisfy `p`. -/
def ZoneActor.movesWhere (z : ZoneActor) (p : Vec2i → Bool) : List ActorItem :=
  z.pendingMoves.entries.filterMap fun kv =>
    match z.players kv.1 with
    | none => none
    | some pi => if p pi.cell then some (moveItem kv) else none

/-- The pending moves of the players within one cell of a cell. -/
def ZoneActor.movesAround (z : ZoneActor) (c : Vec2i) : List ActorItem :=
  z.movesWhere fun c' => NearCell c' c

/-- A message that brings moves to the session of a player: a protobuf message
of these items, or a packet of the size that its header says in which the
client reads exactly these items. -/
structure BringsMoves (env : MoveTickEnv) (info : PlayerInfo) (items : List ActorItem)
    (ps : PendingNetSend) : Prop where
  session : ps.sid = info.sid ∧ ps.serial = info.serial
  msgType : ps.msgType = 43
  uncoalesced : ps.moveCharId = 0
  items : (env.isProtoSession info.sid info.serial = true ∧
      ps.body = some (env.msgs.moveBatch items)) ∨
    ∃ body p, ps.body = some body ∧ ps.h.wSize.toNat = msgHeaderSize + body.length ∧
      parseVariableBatchBody playerActorBatch (some body) = some p ∧
        p.readItems playerActorBatch body = items

/-- Everyone with a session gets the moves within one cell of it, all of them
in one message, and no message if there are none. -/
def ZoneActor.DeliversOnce (z : ZoneActor) (env : MoveTickEnv) (calls : SendCalls) : Prop :=
  ∀ id,
    match z.players id with
    | none => calls.sendsTo id = []
    | some info =>
        if info.Connected ∧ z.movesAround info.cell ≠ [] then
          ∃ ps items, calls.sendsTo id = [ps] ∧ items.Perm (z.movesAround info.cell) ∧
            BringsMoves env info items ps
        else calls.sendsTo id = []

/-! ## Groups -/

/-- A key determines its cell, for every pair of 32-bit numbers. -/
theorem cellOfKey_cellKey (cx cy : Int32) : cellOfKey (cellKey cx cy) = ⟨cx, cy⟩ := by
  rw [cellOfKey, cellKey_high, cellKey_low]

namespace ZoneActor

variable {z : ZoneActor}

/-- The items of a cell are the pending moves of the players that are in it. -/
theorem sourceItems_spec (k : Int64) :
    ((z.sourceItems k).getD []) = z.movesWhere fun c => cellKey c.x c.y = k := by
  have hfold : ∀ (kvs : List ((_ : UInt64) × Vec2i)) (src : SourceItems),
      (kvs.foldl z.addSourceItem src k).getD [] = (src k).getD [] ++ kvs.filterMap fun kv =>
        match z.players kv.1 with
        | none => none
        | some pi => if cellKey pi.cx pi.cy = k then some (moveItem kv) else none := by
    intro kvs
    induction kvs with
    | nil => exact fun src => (List.append_nil _).symm
    | cons kv kvs ih =>
        intro src
        rw [List.foldl_cons, ih, List.filterMap_cons, addSourceItem]
        cases hpi : z.players kv.1 with
        | none => rfl
        | some pi =>
            dsimp only
            rw [Table.set_apply]
            by_cases hk : cellKey pi.cx pi.cy = k
            · rw [if_pos hk.symm, if_pos hk, hk, Option.getD_some, List.append_assoc]
              rfl
            · rw [if_neg fun heq => hk heq.symm, if_neg hk]
  have h := hfold z.pendingMoves.entries Table.empty
  rw [sourceItems, h, movesWhere]
  simp only [decide_eq_true_eq]
  rfl

end ZoneActor

/-- The loop takes the first items of all groups. -/
theorem gatherItems_eq (src : SourceItems) (count : Nat) (ks : List Int64)
    {batchItems : List ActorItem} (h : batchItems.length ≤ count) :
    gatherItems src count ks batchItems =
      (batchItems ++ ks.flatMap fun k => (src k).getD []).take count := by
  induction ks generalizing batchItems with
  | nil => rw [gatherItems, List.flatMap_nil, List.append_nil, List.take_of_length_le h]
  | cons k ks ih =>
      rw [gatherItems, List.flatMap_cons]
      split_ifs with hroom
      · cases hk : src k with
        | none =>
            dsimp only
            rw [ih h, Option.getD_none, List.nil_append]
        | some vec =>
            dsimp only
            rw [Option.getD_some, ih (by rw [List.length_append, List.length_take]; omega)]
            by_cases hall : vec.length ≤ count - batchItems.length
            · rw [Nat.min_eq_left hall, List.take_length, List.append_assoc]
            · -- The batch is full within this group.
              have hmin : min vec.length (count - batchItems.length) = count - batchItems.length :=
                Nat.min_eq_right (by omega)
              have hfull : (batchItems ++ vec.take (count - batchItems.length)).length = count := by
                rw [List.length_append, List.length_take]
                omega
              rw [hmin, List.take_append_of_le_length hfull.ge, List.take_of_length_le hfull.le,
                ← List.append_assoc, List.take_append_of_le_length
                  (by rw [List.length_append]; omega), List.take_append, List.take_of_length_le h]
      · have hlength : batchItems.length = count := by omega
        rw [← hlength, List.take_left]

/-- The groups under some keys make up one list, if every element has one
place among them. -/
theorem flatMap_filterMap_perm {κ α β : Type} {ks : List κ} {l : List α} {g : α → κ → Option β}
    {f : α → Option β} (h : ∀ a, (ks.flatMap fun k => (g a k).toList) = (f a).toList) :
    (ks.flatMap fun k => l.filterMap fun a => g a k).Perm (l.filterMap f) := by
  have hcons : ∀ (f : α → Option β) (a : α) (l : List α),
      (a :: l).filterMap f = (f a).toList ++ l.filterMap f := by
    intro f a l
    rw [List.filterMap_cons]
    cases f a <;> rfl
  induction l with
  | nil => simp
  | cons a l ih =>
      simp only [hcons]
      refine (List.flatMap_append_perm ks _ _).symm.trans ?_
      rw [h a]
      exact ih.append_left _

/-- One of the nine keys is that of a cell near by, and none that of another. -/
theorem count_keysAround {s : SectorContainer} {c p : Vec2i}
    (hc : s.AxisCell s.maxCx c.x ∧ s.AxisCell s.maxCy c.y)
    (hp : s.AxisCell s.maxCx p.x ∧ s.AxisCell s.maxCy p.y) :
    (keysAround c).count (cellKey p.x p.y) = if NearCell p c then 1 else 0 := by
  -- A container without a map does not clamp.
  have haxis : ∀ {top c p : Int32}, s.AxisCell top c → s.AxisCell top p →
      ((offsets 1).map fun d => c + d).count p = if Near p c then 1 else 0 := by
    intro top c p hc hp
    have hc' : AxisCell {} top c := ⟨hc.low, hc.high, nofun⟩
    have hp' : AxisCell {} top p := ⟨hp.low, hp.high, nofun⟩
    have h := count_axis hc' hp'
    simpa [clampTo, axisCopies] using h
  have hkeys : keysAround c = ((offsets 1).map fun d => c.y + d).flatMap fun y =>
      ((offsets 1).map fun d => c.x + d).map fun x => cellKey x y := by
    rw [keysAround, List.flatMap_map]
    simp only [List.map_map]
    rfl
  have hpairs := count_flatMap_map (f := fun x y => cellKey x y)
    (fun a b a' b' hab => Vec2i.mk.inj (cellKey_inj (a := ⟨a, b⟩) (b := ⟨a', b'⟩) hab))
    ((offsets 1).map fun d => c.x + d) ((offsets 1).map fun d => c.y + d) p.x p.y
  rw [hkeys, hpairs, haxis hc.1 hp.1, haxis hc.2 hp.2]
  by_cases hx : Near p.x c.x <;> by_cases hy : Near p.y c.y <;> simp [NearCell, hx, hy]

/-- All items around a cell. -/
def SourceItems.around (src : SourceItems) (c : Vec2i) : List ActorItem :=
  (keysAround c).flatMap fun k => (src k).getD []

namespace ZoneActor

variable {z : ZoneActor}

/-- The groups around a cell are the moves within one cell of it. -/
theorem around_perm {rcSize : Vec2i} {unit radius : Int32}
    (hsector : z.sector = initSectorSystem rcSize unit radius) (h : z.GridInvariant) (pos : Vec2i) :
    (z.sourceItems.around (z.sector.toCellClamped pos)).Perm
      (z.movesAround (z.sector.toCellClamped pos)) := by
  rw [SourceItems.around]
  simp only [sourceItems_spec, movesAround, movesWhere]
  refine flatMap_filterMap_perm fun kv => ?_
  cases hpi : z.players kv.1 with
  | none => simp
  | some pi =>
      have hown := axisCells_toCellClamped hsector pi.pos
      rw [← h.cell_eq kv.1 pi hpi] at hown
      have hcount := count_keysAround (axisCells_toCellClamped hsector pos) hown
      dsimp only
      simp only [decide_eq_true_eq, apply_ite Option.toList, Option.toList_some, Option.toList_none]
      rw [flatMap_ite_eq_replicate, hcount]
      split_ifs <;> rfl

theorem length_movesWhere_le (p : Vec2i → Bool) :
    (z.movesWhere p).length ≤ z.pendingMoves.entries.length :=
  List.length_filterMap_le _ _

/-! ## One receiving cell -/

/-- A cell with players in it gets the items around it, if there are any. -/
theorem receivingCell_eq (env : MoveTickEnv) (src : SourceItems) (c : Vec2i)
    (ids : ListSet UInt64) (hfew : (src.around c).length ≤ 4096) :
    z.receivingCell env src ⟨cellKey c.x c.y, ids⟩ =
      if src.around c = [] then []
      else ids.elems.filterMap (z.sendToId (env.moveBatch (src.around c))) := by
  have htotal : ((keysAround c).map fun k => (src k).elim 0 List.length).sum =
      (src.around c).length := by
    rw [SourceItems.around, List.length_flatMap]
    refine congrArg List.sum (List.map_congr_left fun k _ => ?_)
    cases src k <;> rfl
  have hcount : (UInt16.ofNat (min (src.around c).length 4096)).toNat = (src.around c).length := by
    rw [UInt16.toNat_ofNat', Nat.mod_eq_of_lt (by omega), Nat.min_eq_left hfew]
  have hgather : gatherItems src (src.around c).length (keysAround c) [] = src.around c := by
    rw [gatherItems_eq src _ _ (Nat.zero_le _), List.nil_append]
    exact List.take_length
  unfold receivingCell
  dsimp only
  rw [cellOfKey_cellKey, htotal, hcount, hgather]
  cases hids : ids.elems with
  | nil => simp
  | cons id elems =>
      cases hitems : src.around c with
      | nil => simp
      | cons a as => simp

end ZoneActor

/-! ## The batch -/

/-- The packet of 4095 items or fewer is one that a client can cut off the
stream and read. -/
theorem sendBatch_moves {items : List ActorItem} (hne : items ≠ []) (hfew : items.length ≤ 4095) :
    ∃ m p, sendBatch playerActorBatch 43 (actorBatchBodySize items.length)
          (UInt16.ofNat items.length) items = .packet m ∧
      m.header.wSize.toNat = msgHeaderSize + m.body.length ∧
      parseVariableBatchBody playerActorBatch (some m.body) = some p ∧
        p.readItems playerActorBatch m.body = items := by
  obtain ⟨hpacket, -, hhead, hitem, -, -, hlayout, -⟩ := client_sizes
  have hsome : 0 < items.length := List.length_pos_iff.mpr hne
  have hsize : actorBatchBodySize items.length =
      playerActorBatch.head.size + items.length * playerActorBatch.item.size := by
    rw [actorBatchBodySize, if_pos hsome, hpacket, hlayout, hhead, hitem]
    omega
  have hcount : (playerActorBatch.count (UInt16.ofNat items.length)).toNat = items.length := by
    change (UInt16.ofNat items.length).toNat = items.length
    rw [UInt16.toNat_ofNat', Nat.mod_eq_of_lt (by omega)]
  obtain ⟨p, hparse, -, -, hread⟩ := parse_image playerActorBatch [] hcount
  rw [List.append_nil] at hparse hread
  refine ⟨_, p, by rw [hsize, sendBatch_exact], ?_, hparse, hread⟩
  dsimp only
  rw [playerActorBatch.length_image, hhead, hitem, wSize_makeHeader_iff, msgHeaderSize]
  omega

/-- A batch that fits brings its client all the moves, in either codec. -/
theorem moveBatch_spec (env : MoveTickEnv) (info : PlayerInfo) {items : List ActorItem}
    (hne : items ≠ []) (hfew : items.length ≤ 4095) :
    ∃ m, env.moveBatch items info = some m ∧ BringsMoves env info items (m.sendTo info) := by
  obtain ⟨m, p, hsend, hsize, hparse, hread⟩ := sendBatch_moves hne hfew
  have hlegacy : (moveTickPacket env.msgs (env.isProtoSession info.sid info.serial) items) =
        .legacy (.packet m) →
      ∃ m, env.moveBatch items info = some m ∧ BringsMoves env info items (m.sendTo info) := by
    intro hpacket
    refine ⟨{ h := m.header, body := some m.body, msgType := 43 }, ?_, ⟨rfl, rfl⟩, rfl, rfl,
      .inr ⟨m.body, p, rfl, hsize, hparse, hread⟩⟩
    rw [MoveTickEnv.moveBatch, hpacket]
    rfl
  cases hproto : env.isProtoSession info.sid info.serial with
  | false =>
      refine hlegacy ?_
      rw [hproto, moveTickPacket, hsend]
      rfl
  | true =>
      cases hframe : buildFramedMessage 43 (env.msgs.moveBatch items) with
      | none =>
          refine hlegacy ?_
          rw [hproto, moveTickPacket, hsend, framedOr, hframe]
          rfl
      | some frame =>
          have hbody : frame.body = env.msgs.moveBatch items := by
            rw [buildFramedMessage_eq] at hframe
            split_ifs at hframe
            cases hframe
            rfl
          refine ⟨{ h := frame.header, body := some frame.body, msgType := 43 }, ?_, ⟨rfl, rfl⟩,
            rfl, rfl, .inl ⟨hproto, congrArg some hbody⟩⟩
          rw [MoveTickEnv.moveBatch, hproto, moveTickPacket, framedOr, hframe]
          rfl

/-! ## The sends of a tick -/

/-- A loop over a map that does something for one key only. -/
theorem flatMap_entries_eq {κ β γ : Type} [DecidableEq κ] {m : AList fun _ : κ => β} {k : κ}
    {f : ((_ : κ) × β) → List γ} (hf : ∀ e ∈ m.entries, e.1 ≠ k → f e = []) :
    m.entries.flatMap f = (m.lookup k).elim [] fun v => f ⟨k, v⟩ := by
  cases hv : m.lookup k with
  | none =>
      refine List.flatMap_eq_nil_iff.mpr fun e he => hf e he fun hk => ?_
      have hmem : m.lookup e.1 = some e.2 := AList.mem_lookup_iff.mpr he
      rw [hk, hv] at hmem
      cases hmem
  | some v =>
      have hk : k ∈ m := AList.lookup_isSome.mp (by rw [hv]; rfl)
      obtain ⟨v', l₁, l₂, -, hl, herase⟩ := List.exists_of_kerase hk
      have herase : (AList.erase k m).entries = l₁ ++ l₂ := herase
      have hv' : m.lookup k = some v' := by
        refine AList.mem_lookup_iff.mpr ?_
        rw [hl]
        exact List.mem_append_right _ List.mem_cons_self
      rw [hv] at hv'
      cases hv'
      have hother : ∀ e ∈ l₁ ++ l₂, f e = [] := by
        intro e he
        have hne : e.1 ≠ k := by
          have hmem : e ∈ (AList.erase k m).entries := herase ▸ he
          exact (AList.mem_erase.mp (AList.mem_keys.mpr (List.mem_map_of_mem hmem))).1
        refine hf e ?_ hne
        rw [hl]
        rcases List.mem_append.mp he with he | he
        · exact List.mem_append_left _ he
        · exact List.mem_append_right _ (List.mem_cons_of_mem _ he)
      rw [hl, List.flatMap_append, List.flatMap_cons,
        List.flatMap_eq_nil_iff.mpr fun e he => hother e (List.mem_append_left _ he),
        List.flatMap_eq_nil_iff.mpr fun e he => hother e (List.mem_append_right _ he),
        List.nil_append, List.append_nil]
      rfl

namespace ZoneActor

open SendCalls

variable {z : ZoneActor}

/-- A cell sends nothing to those that are not in it. -/
theorem sendsTo_receivingCell_of_notMem (env : MoveTickEnv) (src : SourceItems)
    {kvCell : (_ : Int64) × ListSet UInt64} {id : UInt64} (hid : id ∉ kvCell.2.elems) :
    sendsTo (z.receivingCell env src kvCell) id = [] := by
  unfold receivingCell
  dsimp only
  split_ifs
  · rfl
  · rfl
  · rfl
  · rw [sendsTo_filterMap_sendToId kvCell.2.nodup, if_neg hid]

theorem mem_idsAt_of_mem_entries {cells : CellTable} {e : (_ : Int64) × ListSet UInt64}
    (he : e ∈ cells.entries) {id : UInt64} : id ∈ e.2.elems ↔ id ∈ cells.idsAt e.1 := by
  have hlookup : cells.lookup e.1 = some e.2 := AList.mem_lookup_iff.mpr he
  rw [CellTable.idsAt, hlookup]

/-- A player gets the items around its own cell. -/
theorem sendsTo_moveTickCalls (h : z.GridInvariant) (env : MoveTickEnv) {id : UInt64}
    {info : PlayerInfo} (hinfo : z.players id = some info)
    (hfew : (z.sourceItems.around info.cell).length ≤ 4096) :
    sendsTo (z.moveTickCalls env) id =
      if z.sourceItems.around info.cell = [] ∨ ¬info.Connected then []
      else ((env.moveBatch (z.sourceItems.around info.cell) info).map (·.sendTo info)).toList := by
  have hown : id ∈ z.cells.idsAt (cellKey info.cx info.cy) :=
    (h.mem_idsAt _ id).mpr ⟨info, hinfo, rfl⟩
  rw [moveTickCalls, sendsTo_flatMap]
  rw [flatMap_entries_eq (k := cellKey info.cx info.cy)]
  · cases hlookup : z.cells.lookup (cellKey info.cx info.cy) with
    | none =>
        rw [CellTable.idsAt, hlookup] at hown
        cases hown
    | some ids =>
        rw [CellTable.idsAt, hlookup] at hown
        have hcell := receivingCell_eq (z := z) env z.sourceItems info.cell ids hfew
        have hkey : cellKey info.cell.x info.cell.y = cellKey info.cx info.cy := rfl
        rw [hkey] at hcell
        rw [Option.elim_some, hcell]
        by_cases hnone : z.sourceItems.around info.cell = []
        · simp [hnone]
        · rw [if_neg hnone, sendsTo_filterMap_sendToId ids.nodup, if_pos hown, hinfo]
          by_cases hconnected : info.Connected <;> simp [hnone, hconnected]
  · intro e he hne
    refine sendsTo_receivingCell_of_notMem env _ fun hmem => hne ?_
    exact h.key_unique ((mem_idsAt_of_mem_entries he).mp hmem) hown

/-- Nobody is sent a batch that is not in the zone. -/
theorem sendsTo_moveTickCalls_of_none (h : z.GridInvariant) (env : MoveTickEnv) {id : UInt64}
    (hid : z.players id = none) : sendsTo (z.moveTickCalls env) id = [] := by
  rw [moveTickCalls, sendsTo_flatMap]
  refine List.flatMap_eq_nil_iff.mpr fun e he => ?_
  refine sendsTo_receivingCell_of_notMem env _ fun hmem => ?_
  obtain ⟨info, hinfo, -⟩ := (h.mem_idsAt _ id).mp ((mem_idsAt_of_mem_entries he).mp hmem)
  rw [hid] at hinfo
  cases hinfo

/-- The sends of a tick bring everyone its moves. -/
theorem deliversOnce_moveTickCalls {rcSize : Vec2i} {unit radius : Int32}
    (hsector : z.sector = initSectorSystem rcSize unit radius) (h : z.GridInvariant)
    (hfew : z.pendingMoves.entries.length ≤ 4095) (env : MoveTickEnv) :
    z.DeliversOnce env (z.moveTickCalls env) := by
  intro id
  cases hinfo : z.players id with
  | none => exact sendsTo_moveTickCalls_of_none h env hinfo
  | some info =>
      have hperm := around_perm hsector h info.pos
      rw [← h.cell_eq id info hinfo] at hperm
      have hlength : (z.sourceItems.around info.cell).length ≤ 4095 := by
        rw [hperm.length_eq]
        exact (length_movesWhere_le _).trans hfew
      have hnil : z.sourceItems.around info.cell = [] ↔ z.movesAround info.cell = [] := by
        rw [← List.length_eq_zero_iff, hperm.length_eq, List.length_eq_zero_iff]
      have hsends := sendsTo_moveTickCalls h env hinfo (hlength.trans (by omega))
      dsimp only
      split_ifs with hget
      · obtain ⟨hconnected, hmoves⟩ := hget
        have hne : z.sourceItems.around info.cell ≠ [] := fun heq => hmoves (hnil.mp heq)
        obtain ⟨m, hm, hbrings⟩ := moveBatch_spec env info hne hlength
        refine ⟨m.sendTo info, _, ?_, hperm, hbrings⟩
        rw [hsends, if_neg (not_or.mpr ⟨hne, not_not.mpr hconnected⟩), hm]
        rfl
      · rw [hsends, if_pos]
        rw [not_and_or, not_ne_iff, ← hnil] at hget
        exact hget.symm

end ZoneActor

namespace MoveTick

open SendCalls

/-- Whether a tick is due: ten milliseconds after the last one, or by force. -/
def Due (st : MoveTick) (now : Int) (force : Bool) : Prop :=
  force = true ∨ (st.moveTickInited = true ∧ moveTickMs ≤ elapsedMs now st.lastMoveTickTp)

instance (st : MoveTick) (now : Int) (force : Bool) : Decidable (st.Due now force) :=
  inferInstanceAs (Decidable (_ ∨ _))

/-- The two ways that a due tick goes: there is nothing to send, or the moves
and the acks go out. -/
theorem flushMoveTickIfDue_cases {st : MoveTick} (env : MoveTickEnv) {now : Int} {force : Bool}
    (hdue : st.Due now force) :
    (st.zone.pendingMoves = ∅ ∧
      st.flushMoveTickIfDue env now force =
        { ret := true, state := { st with lastMoveTickTp := now, moveTickInited := true } }) ∨
      st.flushMoveTickIfDue env now force =
        { ret := true
          state := {
            zone := { st.zone with pendingMoves := ∅ }
            pending := ((st.pending.enqueueAll (st.zone.moveTickCalls env)).flushPendingSends
              env.answers 4000 (4 * 1024 * 1024)).1
            benchAcks := []
            lastMoveTickTp := now
            moveTickInited := true }
          calls := st.zone.moveTickCalls env
          flush := ((st.pending.enqueueAll (st.zone.moveTickCalls env)).flushPendingSends
            env.answers 4000 (4 * 1024 * 1024)).2
          acks := st.benchAcks.filterMap (ackSend env.currentShardIndex) } := by
  have hinited : ∀ {st' : MoveTick}, st' = (if st.moveTickInited then st
        else { st with lastMoveTickTp := now, moveTickInited := true }) →
      st'.zone = st.zone ∧ st'.pending = st.pending ∧ st'.benchAcks = st.benchAcks ∧
        st'.moveTickInited = true ∧
          ¬(force = false ∧ elapsedMs now st'.lastMoveTickTp < moveTickMs) := by
    rintro st' rfl
    split_ifs with hinit
    · refine ⟨rfl, rfl, rfl, hinit, fun h => ?_⟩
      rcases hdue with hforce | ⟨-, helapsed⟩
      · rw [hforce] at h
        cases h.1
      · exact absurd h.2 (Int32.not_lt.mpr helapsed)
    · refine ⟨rfl, rfl, rfl, rfl, fun h => ?_⟩
      rcases hdue with hforce | ⟨hinit', -⟩
      · rw [hforce] at h
        cases h.1
      · exact absurd hinit' hinit
  unfold flushMoveTickIfDue
  obtain ⟨hzone, hpending, hacks, hinit, hnot⟩ := hinited rfl
  dsimp only
  rw [if_neg hnot, hzone, hpending, hacks, hinit]
  split_ifs with hempty
  · refine .inl ⟨AList.ext (List.isEmpty_iff.mp hempty.1), rfl⟩
  · exact .inr rfl

/-- A batch is about no single character, so it is never coalesced. -/
theorem moveCharId_moveTickCalls {z : ZoneActor} {env : MoveTickEnv} :
    ∀ call ∈ z.moveTickCalls env, call.2.moveCharId = 0 := by
  intro call hcall
  obtain ⟨e, -, he⟩ := List.mem_flatMap.mp hcall
  unfold ZoneActor.receivingCell at he
  dsimp only at he
  split_ifs at he
  all_goals try cases he
  obtain ⟨rid, -, hrid⟩ := List.mem_filterMap.mp he
  unfold ZoneActor.sendToId at hrid
  split at hrid
  · cases hrid
  · split_ifs at hrid
    obtain ⟨m, -, rfl⟩ := Option.map_eq_some_iff.mp hrid
    rfl

/-- **Tick broadcast**: a due tick with at most 4095 pending moves brings every
player with a session, once and in one batch, the moves of the players within
one cell of it, and nothing if there are none.  No move is pending
afterwards.  Where the queues have room, the batches go to their ends before
the flush takes from their fronts. -/
theorem moveTick_deliversOnce {rcSize : Vec2i} {unit radius : Int32} {st : MoveTick}
    (hsector : st.zone.sector = initSectorSystem rcSize unit radius) (h : st.zone.GridInvariant)
    (hfew : st.zone.pendingMoves.entries.length ≤ 4095) (env : MoveTickEnv) {now : Int}
    {force : Bool} (hdue : st.Due now force) :
    (st.flushMoveTickIfDue env now force).ret = true ∧
      (st.flushMoveTickIfDue env now force).state.zone.pendingMoves = ∅ ∧
      st.zone.DeliversOnce env (st.flushMoveTickIfDue env now force).calls ∧
      (∀ cx cy, cellOfKey (cellKey cx cy) = ⟨cx, cy⟩) ∧
      (st.pending.Accounted → st.pending.HasRoom (st.flushMoveTickIfDue env now force).calls →
        ∀ sid, st.pending.queue sid ++ (st.flushMoveTickIfDue env now force).calls.sendsOn sid =
          (st.flushMoveTickIfDue env now force).flush.sent.filter (·.sid == sid) ++
            (st.flushMoveTickIfDue env now force).state.pending.queue sid) := by
  have hdelivers := ZoneActor.deliversOnce_moveTickCalls hsector h hfew env
  obtain ⟨hnone, heq⟩ | heq := flushMoveTickIfDue_cases env hdue
  · rw [heq]
    refine ⟨rfl, hnone, fun id => ?_, cellOfKey_cellKey, fun _ _ sid => ?_⟩
    · -- No moves are pending: nobody gets any.
      have hmoves : ∀ c, st.zone.movesAround c = [] := by
        intro c
        rw [ZoneActor.movesAround, ZoneActor.movesWhere, hnone]
        rfl
      cases st.zone.players id with
      | none => rfl
      | some info => simp [hmoves]
    · exact List.append_nil _
  · rw [heq]
    refine ⟨rfl, rfl, hdelivers, cellOfKey_cellKey, fun haccounted hroom sid => ?_⟩
    have hflush := (PendingSends.accounted_enqueueAll haccounted
      (st.zone.moveTickCalls env)).flushesInOrder env.answers 4000 (4 * 1024 * 1024)
    rw [← PendingSends.queue_enqueueAll moveCharId_moveTickCalls hroom sid]
    exact hflush.2 sid

/-- Players in neighbouring cells of a map, one of which has moved; all
sessions take packed structs. -/
def oneMove : MoveTick where
  zone := (ZoneActor.twoPlayers ⟨100, 100⟩ ⟨5, 5⟩ ⟨15, 5⟩).moveFastUpdate 11 ⟨6, 5⟩ 1 1

def packedEnv : MoveTickEnv where
  isProtoSession _ _ := false
  msgs := ⟨fun _ => [], fun _ => [], fun _ => []⟩
  answers _ _ := true
  currentShardIndex := 0

/-- The other player gets the move. -/
theorem moveTick_delivers_oneMove :
    (oneMove.flushMoveTickIfDue packedEnv 0 true).state.zone.pendingMoves = ∅ ∧
      ∃ ps, (oneMove.flushMoveTickIfDue packedEnv 0 true).calls.sendsTo 22 = [ps] ∧
        BringsMoves packedEnv { pos := ⟨15, 5⟩, cx := 1, cy := 0, sid := 2, serial := 1 }
          [{ charId := 11, x := 6, y := 5 }] ps := by
  have hsector : oneMove.zone.sector = initSectorSystem ⟨100, 100⟩ 10 1 := rfl
  have hgrid : oneMove.zone.GridInvariant :=
    (ZoneActor.gridInvariant_twoPlayers _ _ _).moveFastUpdate 11 ⟨6, 5⟩ 1 1
  have hdue : oneMove.Due 0 true := .inl rfl
  obtain ⟨-, hempty, hdelivers, -, -⟩ :=
    moveTick_deliversOnce hsector hgrid (by decide) packedEnv hdue
  refine ⟨hempty, ?_⟩
  have hother := hdelivers 22
  rw [show oneMove.zone.players 22 =
    some { pos := ⟨15, 5⟩, cx := 1, cy := 0, sid := 2, serial := 1 } by decide] at hother
  dsimp only at hother
  rw [if_pos (by decide)] at hother
  obtain ⟨ps, items, hsends, hperm, hbrings⟩ := hother
  rw [show oneMove.zone.movesAround _ = [{ charId := 11, x := 6, y := 5 }] by decide,
    List.perm_singleton] at hperm
  subst hperm
  exact ⟨ps, hsends, hbrings⟩

end MoveTick

end GameServer
