import GameServer.World.AoiDiff
import GameServer.World.PendingSends

/-!
# GameServer.World.CellPublish

Publishing a message to the players around a cell (`CellChannels`).

The nine cells around the publishing cell are clamped to the map, and unlike
`GatherNeighborsFromCells` the publishing loop does not drop a cell that
comes twice.  Next to the border a player can be reached more than once.

* `publishToBroadCells` — the calls of `EnqueueSend_`, with the player of
  each;
* `sendsTo_publishToBroadCells` — how many copies a player gets;
* `reachesOnce_iff` — when everyone around gets exactly one.
-/

namespace GameServer

/-! ## Publishing -/

/-- The sector container of a zone actor, after `InitSectorSystem` with the
configured map. -/
def initSectorSystem (mapRcSize : Vec2i) (worldSightUnit aoiRadiusCells : Int32) :
    SectorContainer :=
  (SectorContainer.initSector mapRcSize worldSightUnit aoiRadiusCells).getD {}

/-- `BroadCells3x3`. -/
def SectorContainer.broadCells3x3 (s : SectorContainer) (cx cy : Int32) : List Int64 :=
  (offsets 1).flatMap fun dy =>
    (offsets 1).map fun dx => cellKey (s.clampCx (cx + dx)) (s.clampCy (cy + dy))

/-- A player with a session: `sid` and `serial` are not 0. -/
def PlayerInfo.Connected (info : PlayerInfo) : Prop := info.sid ≠ 0 ∧ info.serial ≠ 0

instance (info : PlayerInfo) : Decidable info.Connected := inferInstanceAs (Decidable (_ ∧ _))

/-- A message, before it is addressed to a session. -/
structure CellMessage where
  h : MsgHeader
  body : Option (List UInt8)
  msgType : UInt16
deriving DecidableEq, Repr

/-- The message for the session of a player. -/
def CellMessage.sendTo (m : CellMessage) (info : PlayerInfo) : PendingNetSend where
  sid := info.sid
  serial := info.serial
  h := m.h
  body := m.body
  msgType := m.msgType

/-- Calls of `EnqueueSend_`, each with the player that it is for. -/
abbrev SendCalls := List (UInt64 × PendingNetSend)

namespace SendCalls

/-- The messages for one player. -/
def sendsTo (calls : SendCalls) (id : UInt64) : List PendingNetSend :=
  (calls.filter (·.1 == id)).map (·.2)

/-- The messages for one session id. -/
def sendsOn (calls : SendCalls) (sid : UInt32) : List PendingNetSend :=
  (calls.map (·.2)).filter (·.sid == sid)

end SendCalls

/-- Make the calls, in order. -/
def PendingSends.enqueueAll (s : PendingSends) (calls : SendCalls) : PendingSends :=
  calls.foldl (fun s call => s.enqueueSend call.2) s

namespace ZoneActor

open SectorContainer

variable (z : ZoneActor)

/-- The call for one id of a cell. -/
def sendToId (msg : PlayerInfo → Option CellMessage) (rid : UInt64) :
    Option (UInt64 × PendingNetSend) :=
  match z.players rid with
  | none => none
  | some info =>
      if info.Connected then (msg info).map fun m => (rid, m.sendTo info) else none

/-- `PublishToCell`. -/
def publishToCell (ck : Int64) (m : CellMessage) : SendCalls :=
  (z.cells.idsAt ck).filterMap (z.sendToId fun _ => some m)

/-- `PublishToBroadCells`. -/
def publishToBroadCells (cx cy : Int32) (m : CellMessage) : SendCalls :=
  (z.sector.broadCells3x3 cx cy).flatMap fun ck => z.publishToCell ck m

end ZoneActor

/-- At most one apart. -/
def Near (a b : Int32) : Prop := a.toInt ≤ b.toInt + 1 ∧ b.toInt ≤ a.toInt + 1

instance (a b : Int32) : Decidable (Near a b) := inferInstanceAs (Decidable (_ ∧ _))

/-- Within one cell in both axes. -/
def NearCell (a b : Vec2i) : Prop := Near a.x b.x ∧ Near a.y b.y

instance (a b : Vec2i) : Decidable (NearCell a b) := inferInstanceAs (Decidable (_ ∧ _))

/-- Everyone with a session within one cell gets the message exactly once, and
nobody else gets it. -/
def ZoneActor.ReachesOnce (z : ZoneActor) (c : Vec2i) (m : CellMessage) : Prop :=
  ∀ id, (z.publishToBroadCells c.x c.y m).sendsTo id =
    match z.players id with
    | none => []
    | some info => if info.Connected ∧ NearCell info.cell c then [m.sendTo info] else []

/-! ## Lists of calls -/

namespace SendCalls

@[simp] theorem sendsTo_nil (id : UInt64) : sendsTo [] id = [] := rfl

theorem sendsTo_append (calls calls' : SendCalls) (id : UInt64) :
    sendsTo (calls ++ calls') id = calls.sendsTo id ++ calls'.sendsTo id := by
  rw [sendsTo, List.filter_append, List.map_append, ← sendsTo, ← sendsTo]

theorem sendsTo_flatMap {ι : Type} (ks : List ι) (f : ι → SendCalls) (id : UInt64) :
    sendsTo (ks.flatMap f) id = ks.flatMap fun k => (f k).sendsTo id := by
  induction ks with
  | nil => rfl
  | cons k ks ih => rw [List.flatMap_cons, sendsTo_append, ih, List.flatMap_cons]

@[simp] theorem sendsOn_nil (sid : UInt32) : sendsOn [] sid = [] := rfl

theorem sendsOn_cons (call : UInt64 × PendingNetSend) (calls : SendCalls) (sid : UInt32) :
    sendsOn (call :: calls) sid =
      (if call.2.sid = sid then [call.2] else []) ++ calls.sendsOn sid := by
  rw [sendsOn, List.map_cons, List.filter_cons, ← sendsOn]
  by_cases h : call.2.sid = sid <;> simp [h]

end SendCalls

namespace PendingSends

open SendCalls

/-- The calls meet no limit. -/
def HasRoom (s : PendingSends) (calls : SendCalls) : Prop :=
  ∀ sid, (s.queue sid).length + (calls.sendsOn sid).length ≤ maxPendingMsgsPerSid ∧
    (s.byteCount sid).toNat + sumBytes (calls.sendsOn sid) ≤ maxPendingBytesPerSid.toNat

/-- Where there is room, a message that is no coalesced move goes to the end. -/
theorem enqueueSend_of_room {s : PendingSends} {ps : PendingNetSend} (hmove : ps.moveCharId = 0)
    (hmsgs : (s.queue ps.sid).length + 1 ≤ maxPendingMsgsPerSid)
    (hbytes : (s.byteCount ps.sid).toNat + ps.h.wSize.toNat ≤ maxPendingBytesPerSid.toNat) :
    s.enqueueSend ps = s.put ps.sid (s.queue ps.sid ++ [ps]) (s.byteCount ps.sid + ps.bytes) ∧
      (s.byteCount ps.sid + ps.bytes).toNat =
        (s.byteCount ps.sid).toNat + ps.h.wSize.toNat := by
  have hlimit : maxPendingBytesPerSid.toNat = 4194304 := rfl
  have hsum : (s.byteCount ps.sid + ps.bytes).toNat =
      (s.byteCount ps.sid).toNat + ps.h.wSize.toNat := by
    rw [UInt64.toNat_add, ps.toNat_bytes, Nat.mod_eq_of_lt (by omega)]
  refine ⟨?_, hsum⟩
  obtain ⟨hfull, -⟩ | ⟨-, older, prev, newer, -, hne, -⟩ | ⟨-, heq⟩ := s.enqueueSend_cases ps
  · rcases hfull with hfull | hfull
    · omega
    · rw [gt_iff_lt, UInt64.lt_iff_toNat_lt, hsum] at hfull
      omega
  · exact absurd hmove hne
  · exact heq

/-- Where there is room, every queue grows by the messages for it. -/
theorem queue_enqueueAll {s : PendingSends} {calls : SendCalls}
    (hmove : ∀ call ∈ calls, call.2.moveCharId = 0) (hroom : s.HasRoom calls) (sid : UInt32) :
    (s.enqueueAll calls).queue sid = s.queue sid ++ calls.sendsOn sid := by
  induction calls generalizing s with
  | nil => exact (List.append_nil _).symm
  | cons call calls ih =>
      have hown := hroom call.2.sid
      rw [sendsOn_cons, if_pos rfl, List.singleton_append, List.length_cons, sumBytes_cons] at hown
      obtain ⟨hput, hsum⟩ := enqueueSend_of_room (s := s) (hmove call List.mem_cons_self)
        (by omega) (by omega)
      have hqueue : ∀ sid, (s.enqueueSend call.2).queue sid =
          s.queue sid ++ if call.2.sid = sid then [call.2] else [] := by
        intro sid
        rw [hput, queue_put]
        by_cases hsid : call.2.sid = sid
        · rw [if_pos hsid.symm, if_pos hsid, hsid]
        · rw [if_neg fun heq => hsid heq.symm, if_neg hsid, List.append_nil]
      have hcount : ∀ sid, ((s.enqueueSend call.2).byteCount sid).toNat =
          (s.byteCount sid).toNat + sumBytes (if call.2.sid = sid then [call.2] else []) := by
        intro sid
        rw [hput, byteCount_put]
        by_cases hsid : call.2.sid = sid
        · rw [if_pos hsid.symm, if_pos hsid, hsum, hsid, sumBytes_cons, sumBytes_nil, Nat.add_zero]
        · rw [if_neg fun heq => hsid heq.symm, if_neg hsid, sumBytes_nil, Nat.add_zero]
      have hroom' : (s.enqueueSend call.2).HasRoom calls := by
        intro sid
        have hsid := hroom sid
        rw [sendsOn_cons, List.length_append, sumBytes_append] at hsid
        rw [hqueue, hcount, List.length_append]
        omega
      rw [enqueueAll, List.foldl_cons, ← enqueueAll,
        ih (fun c hc => hmove c (List.mem_cons_of_mem _ hc)) hroom', hqueue, sendsOn_cons,
        List.append_assoc]

theorem accounted_enqueueAll {s : PendingSends} (h : s.Accounted) (calls : SendCalls) :
    (s.enqueueAll calls).Accounted := by
  induction calls generalizing s with
  | nil => exact h
  | cons call calls ih => exact ih (h.enqueueSend call.2)

end PendingSends

/-- Copies of a value, one for each place where a key comes. -/
theorem flatMap_ite_eq_replicate {κ α : Type} [DecidableEq κ] (ks : List κ) (k : κ) (a : α) :
    (ks.flatMap fun k' => if k = k' then [a] else []) = List.replicate (ks.count k) a := by
  induction ks with
  | nil => rfl
  | cons k' ks ih =>
      rw [List.flatMap_cons, ih, List.count_cons]
      by_cases h : k = k'
      · rw [if_pos h, if_pos (beq_iff_eq.mpr h.symm), List.singleton_append,
          List.replicate_succ]
      · rw [if_neg h, if_neg (fun heq => h (beq_iff_eq.mp heq).symm), List.nil_append,
          Nat.add_zero]

/-- How often a pair comes among all pairs of two lists. -/
theorem count_flatMap_map {α β γ : Type} [DecidableEq α] [DecidableEq β] [DecidableEq γ]
    {f : α → β → γ} (hf : ∀ a b a' b', f a b = f a' b' → a = a' ∧ b = b') (xs : List α)
    (ys : List β) (a : α) (b : β) :
    (ys.flatMap fun y => xs.map fun x => f x y).count (f a b) = xs.count a * ys.count b := by
  have hrow : ∀ y, (xs.map fun x => f x y).count (f a b) = if y = b then xs.count a else 0 := by
    intro y
    split_ifs with hy
    · subst hy
      exact List.count_map_of_injective xs (fun x => f x y) (fun x x' h => (hf x y x' y h).1) a
    · rw [List.count_eq_zero]
      intro hmem
      obtain ⟨x, -, hx⟩ := List.mem_map.mp hmem
      exact hy (hf x y a b hx).2
  induction ys with
  | nil => rfl
  | cons y ys ih =>
      rw [List.flatMap_cons, List.count_append, ih, hrow, List.count_cons]
      by_cases hy : y = b
      · rw [if_pos hy, if_pos (beq_iff_eq.mpr hy), Nat.mul_add, Nat.mul_one, Nat.add_comm]
      · rw [if_neg hy, if_neg (fun heq => hy (beq_iff_eq.mp heq)), Nat.add_zero, Nat.zero_add]

namespace ZoneActor

open SectorContainer SendCalls

variable {z : ZoneActor}

/-! ## One cell -/

/-- Each connected player of a list without repetitions is sent one message. -/
theorem sendsTo_filterMap_sendToId {ids : List UInt64} (hnodup : ids.Nodup)
    (msg : PlayerInfo → Option CellMessage) (id : UInt64) :
    sendsTo (ids.filterMap (z.sendToId msg)) id =
      if id ∈ ids then
        match z.players id with
        | none => []
        | some info =>
            if info.Connected then ((msg info).map (·.sendTo info)).toList else []
      else [] := by
  have hfst : ∀ rid c, z.sendToId msg rid = some c → c.1 = rid := by
    intro rid c hc
    unfold sendToId at hc
    split at hc
    · cases hc
    · split_ifs at hc
      obtain ⟨m, -, rfl⟩ := Option.map_eq_some_iff.mp hc
      rfl
  induction ids with
  | nil => rfl
  | cons rid ids ih =>
      obtain ⟨hrid, hids⟩ := List.nodup_cons.mp hnodup
      have hhead : sendsTo (rid :: ids |>.filterMap (z.sendToId msg)) id =
            sendsTo (z.sendToId msg rid).toList id ++
              sendsTo (ids.filterMap (z.sendToId msg)) id := by
        rw [← sendsTo_append, List.filterMap_cons]
        cases z.sendToId msg rid <;> rfl
      rw [hhead, ih hids]
      by_cases hid : id = rid
      · subst hid
        rw [if_neg hrid, if_pos List.mem_cons_self, List.append_nil]
        unfold sendToId
        cases hinfo : z.players id with
        | none => rfl
        | some info =>
            dsimp only
            split_ifs
            · cases msg info <;> simp [sendsTo]
            · rfl
      · have hnone : sendsTo (z.sendToId msg rid).toList id = [] := by
          cases hc : z.sendToId msg rid with
          | none => rfl
          | some c =>
              have hne : c.1 ≠ id := fun h => hid (h.symm.trans (hfst rid c hc))
              simp [sendsTo, hne]
        rw [hnone, List.nil_append]
        simp only [List.mem_cons, hid, false_or]

theorem nodup_idsAt (cells : CellTable) (k : Int64) : (cells.idsAt k).Nodup := by
  unfold CellTable.idsAt
  split
  · exact List.nodup_nil
  next s _ => exact s.nodup

/-- A cell has the message for the players that stand in it. -/
theorem sendsTo_publishToCell (h : z.GridInvariant) (k : Int64) (m : CellMessage) {id : UInt64}
    {info : PlayerInfo} (hinfo : z.players id = some info) :
    sendsTo (z.publishToCell k m) id =
      if cellKey info.cx info.cy = k ∧ info.Connected then [m.sendTo info] else [] := by
  have hmem : id ∈ z.cells.idsAt k ↔ cellKey info.cx info.cy = k := by
    rw [h.mem_idsAt]
    constructor
    · rintro ⟨info', hinfo', hk⟩
      rw [hinfo] at hinfo'
      cases hinfo'
      exact hk
    · exact fun hk => ⟨info, hinfo, hk⟩
  rw [publishToCell, sendsTo_filterMap_sendToId (nodup_idsAt _ _), hinfo]
  simp only [hmem, ite_and]
  rfl

theorem sendsTo_publishToCell_of_none (k : Int64) (m : CellMessage) {id : UInt64}
    (hid : z.players id = none) : sendsTo (z.publishToCell k m) id = [] := by
  rw [publishToCell, sendsTo_filterMap_sendToId (nodup_idsAt _ _), hid, ite_self]

end ZoneActor

/-! ## One axis -/

namespace SectorContainer

/-- A coordinate of a cell: not at the ends of its type, and on the map where
there is one. -/
structure AxisCell (s : SectorContainer) (top c : Int32) : Prop where
  low : -2147483648 < c.toInt
  high : c.toInt < 2147483647
  onMap : s.inited = true → 0 ≤ c.toInt ∧ c.toInt ≤ top.toInt

/-- The first or the last row of a map. -/
def AtBorder (s : SectorContainer) (top c : Int32) : Prop := s.inited = true ∧ (c = 0 ∨ c = top)

instance (s : SectorContainer) (top c : Int32) : Decidable (s.AtBorder top c) :=
  inferInstanceAs (Decidable (_ ∧ _))

/-- In the row or the column of a cell where that is at the border. -/
def InBorderLine (s : SectorContainer) (c p : Vec2i) : Prop :=
  (p.x = c.x ∧ s.AtBorder s.maxCx c.x) ∨ (p.y = c.y ∧ s.AtBorder s.maxCy c.y)

instance (s : SectorContainer) (c p : Vec2i) : Decidable (s.InBorderLine c p) :=
  inferInstanceAs (Decidable (_ ∨ _))

/-- How many of the three rows around `c` are clamped to `p`. -/
def axisCopies (s : SectorContainer) (top c p : Int32) : Nat :=
  if Near p c then
    1 + (if s.inited = true ∧ p = c ∧ c = 0 then 1 else 0) +
      if s.inited = true ∧ p = c ∧ c = top then 1 else 0
  else 0

variable {s : SectorContainer}

/-- The clamped offsets of an axis hit a cell as often as `axisCopies` says. -/
theorem count_axis {top c p : Int32} (hc : s.AxisCell top c) (hp : s.AxisCell top p) :
    ((offsets 1).map fun d => s.clampTo top (c + d)).count p = s.axisCopies top c p := by
  have hoffsets : offsets 1 = [-1, 0, 1] := by decide
  have hzero : (0 : Int32).toInt = 0 := rfl
  have hone : (1 : Int32).toInt = 1 := rfl
  have hminus : (-1 : Int32).toInt = -1 := rfl
  have hclow := hc.low
  have hchigh := hc.high
  have htop : s.inited = true → 0 ≤ top.toInt := fun h => by
    have := hc.onMap h
    omega
  have hbefore : (c + -1).toInt = c.toInt - 1 := by
    rw [Int32.toInt_add, hminus]
    exact Int.bmod_eq_of_le (by omega) (by omega)
  have hafter : (c + 1).toInt = c.toInt + 1 := by
    rw [Int32.toInt_add, hone]
    exact Int.bmod_eq_of_le (by omega) (by omega)
  rw [hoffsets]
  simp only [List.map_cons, List.map_nil, List.count_cons, List.count_nil, beq_iff_eq,
    ← Int32.toInt_inj, toInt_clampTo htop, hbefore, hafter, Int32.add_zero, axisCopies, Near, hzero]
  cases hinit : s.inited with
  | false =>
      simp only [Bool.false_eq_true, if_false, false_and]
      split_ifs <;> omega
  | true =>
      have hcmap := hc.onMap hinit
      have hpmap := hp.onMap hinit
      have hlow : max 0 (min (c.toInt - 1) top.toInt) = max 0 (c.toInt - 1) := by omega
      have hmid : max 0 (min c.toInt top.toInt) = c.toInt := by omega
      have hhigh : max 0 (min (c.toInt + 1) top.toInt) = min (c.toInt + 1) top.toInt := by omega
      simp only [if_true, true_and, hlow, hmid, hhigh]
      clear hlow hmid hhigh hbefore hafter htop hclow hchigh
      split_ifs <;> omega

/-- Everyone near gets one copy, unless it stands in the same border row. -/
theorem axisCopies_spec (s : SectorContainer) (top c p : Int32) :
    (s.axisCopies top c p = 0 ↔ ¬Near p c) ∧
      (s.axisCopies top c p = 1 ↔ Near p c ∧ ¬(p = c ∧ s.AtBorder top c)) := by
  unfold axisCopies AtBorder
  by_cases hnear : Near p c
  · simp only [hnear, if_true]
    split_ifs <;> grind
  · simp [hnear]

/-! ## The cells of a zone actor -/

/-- The last row of a map. -/
theorem toInt_lastCell {size unit : Int32} (hsize : 0 < size.toInt) (hunit : 0 < unit.toInt) :
    0 ≤ ((size - 1) / unit).toInt ∧ ((size - 1) / unit).toInt < 2147483647 := by
  have hlt := size.toInt_lt
  have hone : (1 : Int32).toInt = 1 := rfl
  have hsub : (size - 1).toInt = size.toInt - 1 := by
    rw [Int32.toInt_sub, hone]
    exact Int.bmod_eq_of_le (by omega) (by omega)
  have hne : unit ≠ -1 := by
    rintro rfl
    exact absurd hunit (by decide)
  have hle := Int.ediv_le_self unit.toInt (a := size.toInt - 1) (by omega)
  rw [Int32.toInt_div_of_ne_right _ _ hne, hsub, Int.tdiv_eq_ediv_of_nonneg (by omega)]
  exact ⟨Int.ediv_nonneg (by omega) (by omega), by omega⟩

/-- A coordinate that is clamped to a map. -/
theorem axisCell_clampTo {top c : Int32} (hinit : s.inited = true) (hnonneg : 0 ≤ top.toInt)
    (hlt : top.toInt < 2147483647) : s.AxisCell top (s.clampTo top c) := by
  have hclamp := toInt_clampTo (fun _ => hnonneg) c (s := s)
  rw [if_pos hinit] at hclamp
  exact ⟨by omega, by omega, fun _ => by omega⟩

/-- Without a map the cells are small, since the positions are 32-bit. -/
theorem toInt_toCell_default (v : Int32) :
    -2147483648 < (toCell {} v).toInt ∧ (toCell {} v).toInt < 2147483647 := by
  have hten : (10 : Int32).toInt = 10 := rfl
  have hdiv : ∀ a : Int32, -2147483647 < (a / 10).toInt ∧ (a / 10).toInt < 2147483647 := by
    intro a
    have hlt := a.toInt_lt
    have hle := a.le_toInt
    have habs : (a.toInt.tdiv 10).natAbs = a.toInt.natAbs / 10 := Int.natAbs_tdiv a.toInt 10
    rw [Int32.toInt_div_of_ne_right _ _ (by decide), hten]
    omega
  have hunit : ({} : SectorContainer).unit = 10 := rfl
  rw [toCell, hunit]
  split_ifs
  · have h := hdiv v
    exact ⟨by omega, h.2⟩
  · have h := hdiv (-v + 10 - 1)
    rw [Int32.toInt_neg, Int.bmod_eq_of_le (by omega) (by omega)]
    omega

/-- Positions are in cells of the map, as the container is configured. -/
theorem axisCells_toCellClamped {rcSize : Vec2i} {unit radius : Int32}
    (hs : s = initSectorSystem rcSize unit radius) (pos : Vec2i) :
    s.AxisCell s.maxCx (s.toCellClamped pos).x ∧ s.AxisCell s.maxCy (s.toCellClamped pos).y := by
  rw [initSectorSystem] at hs
  cases hinit : initSector rcSize unit radius with
  | none =>
      rw [hinit, Option.getD_none] at hs
      subst hs
      obtain ⟨hxlow, hxhigh⟩ := toInt_toCell_default pos.x
      obtain ⟨hylow, hyhigh⟩ := toInt_toCell_default pos.y
      exact ⟨⟨hxlow, hxhigh, nofun⟩, ⟨hylow, hyhigh, nofun⟩⟩
  | some s' =>
      rw [hinit, Option.getD_some] at hs
      subst hs
      simp only [initSector] at hinit
      split_ifs at hinit with hunit hsize
      all_goals
        cases hinit
        rw [not_or, Int32.not_le, Int32.not_le, Int32.lt_iff_toInt_lt, Int32.lt_iff_toInt_lt]
          at hsize
        rw [Int32.not_le, Int32.lt_iff_toInt_lt] at hunit
        have hx := toInt_lastCell hsize.1 hunit
        have hy := toInt_lastCell hsize.2 hunit
        exact ⟨axisCell_clampTo rfl hx.1 hx.2, axisCell_clampTo rfl hy.1 hy.2⟩

end SectorContainer

namespace ZoneActor

open SectorContainer SendCalls

variable {z : ZoneActor}

/-! ## Around a cell -/

/-- The copies of a message that is published in a cell. -/
def copies (z : ZoneActor) (c : Vec2i) (info : PlayerInfo) : Nat :=
  z.sector.axisCopies z.sector.maxCx c.x info.cx * z.sector.axisCopies z.sector.maxCy c.y info.cy

/-- A player gets a copy for each of the nine cells that is its own. -/
theorem sendsTo_publishToBroadCells {rcSize : Vec2i} {unit radius : Int32}
    (hsector : z.sector = initSectorSystem rcSize unit radius) (h : z.GridInvariant) {c pos : Vec2i}
    (hc : c = z.sector.toCellClamped pos) (m : CellMessage) {id : UInt64} {info : PlayerInfo}
    (hinfo : z.players id = some info) :
    (z.publishToBroadCells c.x c.y m).sendsTo id =
      if info.Connected then List.replicate (z.copies c info) (m.sendTo info) else [] := by
  have hcell := axisCells_toCellClamped hsector pos
  rw [← hc] at hcell
  have hown : z.sector.AxisCell z.sector.maxCx info.cx ∧
      z.sector.AxisCell z.sector.maxCy info.cy := by
    have h' := axisCells_toCellClamped hsector info.pos
    rwa [← h.cell_eq id info hinfo] at h'
  have hkeys : (z.sector.broadCells3x3 c.x c.y).count (cellKey info.cx info.cy) =
      z.copies c info := by
    rw [copies, ← count_axis hcell.1 hown.1, ← count_axis hcell.2 hown.2, ← count_flatMap_map
      (f := fun x y => cellKey x y)
      (fun a b a' b' hab => Vec2i.mk.inj (cellKey_inj (a := ⟨a, b⟩) (b := ⟨a', b'⟩) hab)),
      List.flatMap_map]
    simp only [List.map_map]
    rfl
  rw [publishToBroadCells, sendsTo_flatMap]
  simp only [sendsTo_publishToCell h _ m hinfo]
  split_ifs with hconnected
  · simp only [hconnected, and_true]
    rw [flatMap_ite_eq_replicate, hkeys]
  · simp [hconnected]

theorem sendsTo_publishToBroadCells_of_none (cx cy : Int32) (m : CellMessage) {id : UInt64}
    (hid : z.players id = none) : (z.publishToBroadCells cx cy m).sendsTo id = [] := by
  rw [publishToBroadCells, sendsTo_flatMap]
  simp [sendsTo_publishToCell_of_none _ m hid]

/-- The copies are right unless the player is in a border line of the cell. -/
theorem replicate_copies_iff (c : Vec2i) (info : PlayerInfo) (ps : PendingNetSend) :
    List.replicate (z.copies c info) ps = (if NearCell info.cell c then [ps] else []) ↔
      (NearCell info.cell c → ¬z.sector.InBorderLine c info.cell) := by
  obtain ⟨hx0, hx1⟩ := axisCopies_spec z.sector z.sector.maxCx c.x info.cx
  obtain ⟨hy0, hy1⟩ := axisCopies_spec z.sector z.sector.maxCy c.y info.cy
  have hnear : NearCell info.cell c ↔ Near info.cx c.x ∧ Near info.cy c.y := Iff.rfl
  have hline : z.sector.InBorderLine c info.cell ↔
      (info.cx = c.x ∧ z.sector.AtBorder z.sector.maxCx c.x) ∨
        (info.cy = c.y ∧ z.sector.AtBorder z.sector.maxCy c.y) := Iff.rfl
  split_ifs with h
  · rw [← List.replicate_one, List.replicate_inj, copies, mul_eq_one, hx1, hy1, hline]
    rw [hnear] at h
    simp [h.1, h.2, hnear]
  · rw [List.replicate_eq_nil_iff, copies, Nat.mul_eq_zero, hx0, hy0]
    rw [hnear] at h ⊢
    exact iff_of_true (not_and_or.mp h) fun h' => absurd h' h

/-- **Cell publish**: a message published in the cell of a position reaches
everyone around once precisely if nobody within one cell stands in the row or
column of that cell where it is the first or the last of the map. -/
theorem reachesOnce_iff {rcSize : Vec2i} {unit radius : Int32}
    (hsector : z.sector = initSectorSystem rcSize unit radius) (h : z.GridInvariant) (pos : Vec2i)
    (m : CellMessage) :
    z.ReachesOnce (z.sector.toCellClamped pos) m ↔
      ∀ id info, z.players id = some info → info.Connected →
        NearCell info.cell (z.sector.toCellClamped pos) →
          ¬z.sector.InBorderLine (z.sector.toCellClamped pos) info.cell := by
  refine forall_congr' fun id => ?_
  cases hinfo : z.players id with
  | none =>
      refine iff_of_true (sendsTo_publishToBroadCells_of_none _ _ m hinfo) fun info hinfo' => ?_
      cases hinfo'
  | some info =>
      dsimp only
      rw [sendsTo_publishToBroadCells hsector h rfl m hinfo]
      by_cases hconnected : info.Connected
      · simp only [hconnected, if_true, true_and, replicate_copies_iff]
        refine ⟨fun hspare info' hinfo' _ => ?_, fun hspare => hspare info rfl hconnected⟩
        cases hinfo'
        exact hspare
      · simp only [hconnected, if_false, false_and]
        refine iff_of_true trivial fun info' hinfo' hconnected' => ?_
        cases hinfo'
        exact absurd hconnected' hconnected

/-- A message without a body. -/
def bareMessage : CellMessage where
  h := { wSize := 4, byType := (53, 0) }
  body := none
  msgType := 53

/-- In the second column of a map of 10 by 10 cells. -/
theorem reachesOnce_secondColumn :
    (twoPlayers ⟨100, 100⟩ ⟨15, 55⟩ ⟨5, 65⟩).ReachesOnce ⟨1, 5⟩ bareMessage := by
  have hsector : (twoPlayers ⟨100, 100⟩ ⟨15, 55⟩ ⟨5, 65⟩).sector =
      initSectorSystem ⟨100, 100⟩ 10 1 := rfl
  have hcell : (twoPlayers ⟨100, 100⟩ ⟨15, 55⟩ ⟨5, 65⟩).sector.toCellClamped ⟨15, 55⟩ = ⟨1, 5⟩ := by
    decide
  have h := reachesOnce_iff hsector (gridInvariant_twoPlayers _ _ _) ⟨15, 55⟩ bareMessage
  rw [hcell] at h
  -- Column 1 and row 5 are not at the border.
  refine h.mpr fun id info _ _ _ => ?_
  rintro (⟨-, hline⟩ | ⟨-, hline⟩)
  · exact absurd hline (by decide)
  · exact absurd hline (by decide)

/-- In the corner of the map a player gets its own message four times. -/
theorem not_reachesOnce_corner :
    (twoPlayers ⟨100, 100⟩ ⟨5, 5⟩ ⟨55, 55⟩).GridInvariant ∧
      (twoPlayers ⟨100, 100⟩ ⟨5, 5⟩ ⟨55, 55⟩).sector = initSectorSystem ⟨100, 100⟩ 10 1 ∧
      (twoPlayers ⟨100, 100⟩ ⟨5, 5⟩ ⟨55, 55⟩).sector.toCellClamped ⟨5, 5⟩ = ⟨0, 0⟩ ∧
      ((twoPlayers ⟨100, 100⟩ ⟨5, 5⟩ ⟨55, 55⟩).publishToBroadCells 0 0 bareMessage).sendsTo 11 =
        List.replicate 4 (bareMessage.sendTo { sid := 1, serial := 1 }) ∧
      ¬(twoPlayers ⟨100, 100⟩ ⟨5, 5⟩ ⟨55, 55⟩).ReachesOnce ⟨0, 0⟩ bareMessage := by
  refine ⟨gridInvariant_twoPlayers _ _ _, rfl, by decide, by decide, fun h => ?_⟩
  exact absurd (congrArg List.length (h 11)) (by decide)

end ZoneActor

end GameServer
