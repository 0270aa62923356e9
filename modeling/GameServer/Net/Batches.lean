import GameServer.Lib.Layout
import GameServer.Net.Framing
import GameServer.Zone.AoiMessages

/-!
# GameServer.Net.Batches

The layout of the batch packets: a packed struct that ends in a one-element
array and stands for as many elements as its `count` field says.

* `BatchFormat` — such a struct; the formats of the messages between zone and
  world, and of those to the clients;
* `fillBatch` — how a sender fills a buffer, and `parseVariableBatchBody`,
  how the world reads one;
* `parse_image` — the reader finds what the sender wrote;
* `inBody_parse` — what it finds in an arbitrary buffer lies in the buffer;
* `BatchFormat.WellFormed` — a receiver that goes by the header cuts the
  stream where the packet ends; `wellFormed_sendBatch_iff`, when that is.
-/

namespace GameServer

/-! ## Formats -/

namespace ActorItem

/-- `S2C_player_spawn_item`, `S2C_player_move_item`. -/
def layout : Layout ActorItem :=
  (Layout.u64.prod (Layout.i32.prod Layout.i32)).map (fun a => (a.charId, a.x, a.y))
    (fun p => { charId := p.1, x := p.2.1, y := p.2.2 }) fun _ => rfl

end ActorItem

/-- `S2C_player_despawn_item`. -/
def despawnItemLayout : Layout UInt64 := Layout.u64

/-- A struct whose last member stands for an array. -/
structure BatchFormat (Head Item : Type) where
  head : Layout Head
  item : Layout Item
  count : Head → UInt16

namespace BatchFormat

/-- `sizeof(TPacket)`. -/
def packetSize {Head Item : Type} (f : BatchFormat Head Item) : Nat := f.head.size + f.item.size

end BatchFormat

/-- The members of `ZoneWorldAoiSpawnBatch`, `ZoneWorldAoiDespawnBatch` and
`ZoneWorldAoiMoveBatch` in front of the items. -/
structure AoiBatchHead where
  header : AoiHeader
  count : UInt16
  reserved : UInt16 := 0
deriving DecidableEq, Repr

/-- Those of `ZoneWorldAoiSnapshot`. -/
structure AoiSnapshotHead where
  header : AoiHeader
  selfX : Int32
  selfY : Int32
  count : UInt16
  reserved : UInt16 := 0
deriving DecidableEq, Repr

namespace AoiHeader

/-- From `trace_id` to `channel_id`. -/
def layout : Layout AoiHeader :=
  (Layout.u64.prod <| Layout.u32.prod <| Layout.u32.prod <| Layout.u64.prod <|
    Layout.u32.prod <| Layout.u32.prod <| Layout.u16.prod Layout.u16).map
    (fun h => (h.traceId, h.sid, h.serial, h.charId, h.mapTemplateId, h.instanceId, h.zoneId,
      h.channelId))
    (fun p => {
      traceId := p.1
      sid := p.2.1
      serial := p.2.2.1
      charId := p.2.2.2.1
      mapTemplateId := p.2.2.2.2.1
      instanceId := p.2.2.2.2.2.1
      zoneId := p.2.2.2.2.2.2.1
      channelId := p.2.2.2.2.2.2.2 })
    fun _ => rfl

end AoiHeader

namespace BatchFormat

def aoiBatchHead : Layout AoiBatchHead :=
  (AoiHeader.layout.prod <| Layout.u16.prod Layout.u16).map
    (fun h => (h.header, h.count, h.reserved))
    (fun p => { header := p.1, count := p.2.1, reserved := p.2.2 }) fun _ => rfl

def aoiSnapshotHead : Layout AoiSnapshotHead :=
  (AoiHeader.layout.prod <| Layout.i32.prod <| Layout.i32.prod <|
    Layout.u16.prod Layout.u16).map
    (fun h => (h.header, h.selfX, h.selfY, h.count, h.reserved))
    (fun p => {
      header := p.1
      selfX := p.2.1
      selfY := p.2.2.1
      count := p.2.2.2.1
      reserved := p.2.2.2.2 })
    fun _ => rfl

/-- `ZoneWorldAoiSnapshot`. -/
def aoiSnapshot : BatchFormat AoiSnapshotHead ActorItem where
  head := aoiSnapshotHead
  item := ActorItem.layout
  count := AoiSnapshotHead.count

/-- `ZoneWorldAoiSpawnBatch`, and `ZoneWorldAoiMoveBatch` with the same members. -/
def aoiActorBatch : BatchFormat AoiBatchHead ActorItem where
  head := aoiBatchHead
  item := ActorItem.layout
  count := AoiBatchHead.count

/-- `ZoneWorldAoiDespawnBatch`. -/
def aoiDespawnBatch : BatchFormat AoiBatchHead UInt64 where
  head := aoiBatchHead
  item := despawnItemLayout
  count := AoiBatchHead.count

/-- `S2C_player_spawn_batch`, and `S2C_player_move_batch` with the same members. -/
def playerActorBatch : BatchFormat UInt16 ActorItem where
  head := Layout.u16
  item := ActorItem.layout
  count := id

/-- `S2C_player_despawn_batch`. -/
def playerDespawnBatch : BatchFormat UInt16 UInt64 where
  head := Layout.u16
  item := despawnItemLayout
  count := id

example : aoiSnapshot.head.size = 48 ∧ aoiActorBatch.head.size = 40 ∧
    aoiDespawnBatch.head.size = 40 ∧ playerActorBatch.packetSize = 18 ∧
    playerDespawnBatch.packetSize = 10 := by decide

end BatchFormat

/-! ## Writing and reading -/

/-- `make_header`. -/
def makeHeader (type bodySize : UInt16) : MsgHeader where
  wSize := UInt16.ofNat (msgHeaderSize + bodySize.toNat)
  byType := (UInt8.ofNat (type.toNat % 256), UInt8.ofNat (type.toNat / 256 % 256))

/-- A header states the size of a body precisely if the whole frame has a
16-bit size. -/
theorem wSize_makeHeader_iff (type : UInt16) (n : Nat) :
    (makeHeader type (UInt16.ofNat n)).wSize.toNat = msgHeaderSize + n ↔
      msgHeaderSize + n ≤ 65535 := by
  simp only [makeHeader, UInt16.toNat_ofNat', msgHeaderSize]
  omega

/-- What `ParseVariableBatchBody_` gives back.  The items are a pointer into
the body, null where there are none. -/
structure ParsedBatch (Head : Type) where
  packet : Head
  items : Option Nat
  count : Nat
deriving DecidableEq, Repr

section Format

variable {Head Item : Type} (f : BatchFormat Head Item)

/-- A zeroed buffer, the members in front, the items. -/
def fillBatch (bodySize : Nat) (head : Head) (items : List Item) : Option (List UInt8) :=
  (writeAt (List.replicate bodySize 0) 0 (f.head.toBytes head)).bind fun buf =>
    f.item.writeArray buf f.head.size items

/-- `ParseVariableBatchBody_`. -/
def parseVariableBatchBody (body : Option (List UInt8)) : Option (ParsedBatch Head) :=
  let headerSize := f.packetSize - f.item.size
  match body with
  | none => none
  | some bs =>
      if bs.length < headerSize then none
      else
        let packet := f.head.ofBytes bs
        let count := (f.count packet).toNat
        let required := headerSize + count * f.item.size
        if bs.length < required then none
        else some { packet, count, items := if count > 0 then some f.head.size else none }

/-- The items that a parsed batch points to. -/
def ParsedBatch.readItems (bs : List UInt8) (p : ParsedBatch Head) : List Item :=
  match p.items with
  | none => []
  | some off => f.item.readArray p.count (bs.drop off)

/-- The items lie in the body, behind the members in front. -/
def ParsedBatch.InBody (bs : List UInt8) (p : ParsedBatch Head) : Prop :=
  match p.items with
  | none => p.count = 0
  | some off => f.head.size ≤ off ∧ off + p.count * f.item.size ≤ bs.length

/-- The batch of a head and items: what a buffer of the right size holds. -/
def BatchFormat.image (head : Head) (items : List Item) : List UInt8 :=
  f.head.toBytes head ++ f.item.arrayBytes items

theorem BatchFormat.length_image (head : Head) (items : List Item) :
    (f.image head items).length = f.head.size + items.length * f.item.size := by
  rw [image, List.length_append, f.head.length_toBytes, f.item.length_arrayBytes]

/-- What a buffer with enough room holds afterwards: the batch, and zeros. -/
theorem fillBatch_eq {bodySize : Nat} {head : Head} {items : List Item}
    (h : f.head.size + items.length * f.item.size ≤ bodySize) :
    fillBatch f bodySize head items = some (f.image head items ++
      List.replicate (bodySize - (f.head.size + items.length * f.item.size)) 0) := by
  have hhead : (f.head.toBytes head).length ≤ (List.replicate bodySize (0 : UInt8)).length := by
    rw [f.head.length_toBytes, List.length_replicate]
    omega
  have hwrite := writeAt_append [] hhead
  rw [List.nil_append, List.nil_append, List.length_nil, f.head.length_toBytes,
    List.drop_replicate] at hwrite
  have hitems : items.length * f.item.size ≤
      (List.replicate (bodySize - f.head.size) (0 : UInt8)).length := by
    rw [List.length_replicate]
    omega
  have harray := f.item.writeArray_append (f.head.toBytes head) hitems
  rw [f.head.length_toBytes, List.drop_replicate] at harray
  rw [fillBatch, hwrite, Option.bind_some, harray, BatchFormat.image, Nat.sub_sub]

/-- A buffer of exactly the right size holds the batch. -/
theorem fillBatch_exact (head : Head) (items : List Item) :
    fillBatch f (f.head.size + items.length * f.item.size) head items =
      some (f.image head items) := by
  rw [fillBatch_eq f le_rfl, Nat.sub_self, List.replicate_zero, List.append_nil]

/-- **The reader finds what the sender wrote.** -/
theorem parse_image {head : Head} {items : List Item} (rest : List UInt8)
    (hcount : (f.count head).toNat = items.length) :
    ∃ p, parseVariableBatchBody f (some (f.image head items ++ rest)) = some p ∧
      p.packet = head ∧ p.count = items.length ∧
        p.readItems f (f.image head items ++ rest) = items := by
  have hsize : f.packetSize - f.item.size = f.head.size := Nat.add_sub_cancel _ _
  have hpacket : f.head.ofBytes (f.image head items ++ rest) = head := by
    rw [BatchFormat.image, List.append_assoc, f.head.ofBytes_append]
  have hlength : (f.image head items ++ rest).length =
      f.head.size + items.length * f.item.size + rest.length := by
    rw [List.length_append, f.length_image]
  have hdrop : (f.image head items ++ rest).drop f.head.size =
      f.item.arrayBytes items ++ rest := by
    rw [BatchFormat.image, List.append_assoc, ← f.head.length_toBytes head, List.drop_left]
  refine ⟨{ packet := head, count := items.length,
            items := if items.length > 0 then some f.head.size else none }, ?_, rfl, rfl, ?_⟩
  · simp only [parseVariableBatchBody, hsize, hpacket, hcount, hlength]
    rw [if_neg (by omega), if_neg (by omega)]
  · cases items with
    | nil => rfl
    | cons a as =>
        simp only [ParsedBatch.readItems, List.length_cons, Nat.succ_pos, gt_iff_lt, if_true]
        rw [hdrop, ← List.length_cons, f.item.readArray_arrayBytes]

/-- Whatever is accepted has its items in the body. -/
theorem inBody_parse {bs : List UInt8} {p : ParsedBatch Head}
    (h : parseVariableBatchBody f (some bs) = some p) : p.InBody f bs := by
  have hsize : f.packetSize - f.item.size = f.head.size := Nat.add_sub_cancel _ _
  simp only [parseVariableBatchBody, hsize] at h
  split_ifs at h with hhead hitems hcount
  · cases h
    exact ⟨le_rfl, Nat.not_lt.mp hitems⟩
  · cases h
    exact Nat.eq_zero_of_not_pos hcount

/-! ## Packets -/

/-- What a sender hands to the connection: nothing, a packet, or no telling
what, if it stores outside its buffer. -/
inductive BatchSend where
  | nothing
  | packet (m : Packet)
  | overrun
deriving DecidableEq, Repr

/-- The packet of a batch. -/
def sendBatch (type : UInt16) (bodySize : Nat) (head : Head) (items : List Item) : BatchSend :=
  match fillBatch f bodySize head items with
  | none => .overrun
  | some body => .packet { header := makeHeader type (UInt16.ofNat bodySize), body }

/-- The header states the size of the packet, the body is a prefix of the
items, and the count is their number. -/
def BatchFormat.WellFormed (items : List Item) : BatchSend → Prop
  | .nothing => True
  | .overrun => False
  | .packet m => m.header.wSize.toNat = msgHeaderSize + m.body.length ∧
      ∃ head n, m.body = f.image head (items.take n) ∧
        (f.count head).toNat = (items.take n).length

/-- A buffer of exactly the right size makes a packet. -/
theorem sendBatch_exact (type : UInt16) (head : Head) (items : List Item) :
    sendBatch f type (f.head.size + items.length * f.item.size) head items =
      .packet { header := makeHeader type
                  (UInt16.ofNat (f.head.size + items.length * f.item.size))
                body := f.image head items } := by
  rw [sendBatch, fillBatch_exact]

/-- The packet of the first `n` items, with the count cut to 16 bits, is well
formed precisely if its size is a 16-bit number. -/
theorem wellFormed_sendBatch_iff (hitem : 0 < f.item.size) (type : UInt16) {head : Head}
    {items : List Item} {n : Nat} (hn : n ≤ items.length)
    (hcount : f.count head = UInt16.ofNat n) :
    f.WellFormed items
        (sendBatch f type (f.head.size + n * f.item.size) head (items.take n)) ↔
      msgHeaderSize + (f.head.size + n * f.item.size) ≤ 65535 := by
  have hlength : (items.take n).length = n := by rw [List.length_take, Nat.min_eq_left hn]
  have hsend := sendBatch_exact f type head (items.take n)
  rw [hlength] at hsend
  rw [hsend]
  simp only [BatchFormat.WellFormed, f.length_image, hlength]
  rw [wSize_makeHeader_iff]
  refine and_iff_left_of_imp fun hfits => ⟨head, n, rfl, ?_⟩
  have hle : n ≤ n * f.item.size := Nat.le_mul_of_pos_right n hitem
  rw [hlength, hcount, UInt16.toNat_ofNat', Nat.mod_eq_of_lt (by omega)]

end Format

end GameServer
