import GameServer.Net.Batches

/-!
# GameServer.Zone.AoiCodec

The messages about who sees whom, from the zone process to the world and
back: `SendAoi*` and the cases of the world's `DataAnalysis`.

* `sendAoiSnapshot` and its kin — the packet of a message;
* `wellFormed_sendAoi_iff` — which messages have a well-formed packet;
* `aoi_codec` — what the world makes of it.
-/

namespace GameServer

open BatchFormat

/-! ## Encoders -/

/-- `AoiSnapshotBodySize`. -/
def aoiSnapshotBodySize (count : Nat) : Nat :=
  aoiSnapshot.packetSize - ActorItem.layout.size + count * ActorItem.layout.size

/-- `AoiSpawnBatchBodySize`. -/
def aoiSpawnBatchBodySize (count : Nat) : Nat :=
  aoiActorBatch.packetSize - ActorItem.layout.size + count * ActorItem.layout.size

/-- `AoiDespawnBatchBodySize`. -/
def aoiDespawnBatchBodySize (count : Nat) : Nat :=
  aoiDespawnBatch.packetSize - despawnItemLayout.size + count * despawnItemLayout.size

/-- `AoiMoveBatchBodySize`. -/
def aoiMoveBatchBodySize (count : Nat) : Nat :=
  aoiActorBatch.packetSize - ActorItem.layout.size + count * ActorItem.layout.size

/-- `SendAoiSnapshot`. -/
def sendAoiSnapshot (header : AoiHeader) (selfX selfY : Int32) (items : List ActorItem) :
    BatchSend :=
  sendBatch aoiSnapshot 3417 (aoiSnapshotBodySize items.length)
    { header, selfX, selfY, count := UInt16.ofNat items.length } items

/-- `SendAoiSpawnBatch`. -/
def sendAoiSpawnBatch (header : AoiHeader) (items : List ActorItem) : BatchSend :=
  sendBatch aoiActorBatch 3418 (aoiSpawnBatchBodySize items.length)
    { header, count := UInt16.ofNat items.length } items

/-- `SendAoiDespawnBatch`. -/
def sendAoiDespawnBatch (header : AoiHeader) (charIds : List UInt64) : BatchSend :=
  sendBatch aoiDespawnBatch 3419 (aoiDespawnBatchBodySize charIds.length)
    { header, count := UInt16.ofNat charIds.length } charIds

/-- `SendAoiMoveBatch`. -/
def sendAoiMoveBatch (header : AoiHeader) (items : List ActorItem) : BatchSend :=
  sendBatch aoiActorBatch 3420 (aoiMoveBatchBodySize items.length)
    { header, count := UInt16.ofNat items.length } items

namespace AoiMessage

/-- The size of its body. -/
def bodySize : AoiMessage → Nat
  | .snapshot _ _ _ items => aoiSnapshotBodySize items.length
  | .spawnBatch _ items => aoiSpawnBatchBodySize items.length
  | .despawnBatch _ charIds => aoiDespawnBatchBodySize charIds.length
  | .moveBatch _ items => aoiMoveBatchBodySize items.length

/-- The packet of a message is well formed. -/
def WellFormed : AoiMessage → Prop
  | .snapshot header selfX selfY items =>
      aoiSnapshot.WellFormed items (sendAoiSnapshot header selfX selfY items)
  | .spawnBatch header items => aoiActorBatch.WellFormed items (sendAoiSpawnBatch header items)
  | .despawnBatch header charIds =>
      aoiDespawnBatch.WellFormed charIds (sendAoiDespawnBatch header charIds)
  | .moveBatch header items => aoiActorBatch.WellFormed items (sendAoiMoveBatch header items)

end AoiMessage

/-- The world reads the record and the items that a call was made with: the
packet goes out as it is, and its body is as long as the header says. -/
def RoundTrip {Head Item : Type} (f : BatchFormat Head Item) (s : BatchSend) (head : Head)
    (items : List Item) : Prop :=
  ∃ m p, s = .packet m ∧ m.header.bodyLen = m.body.length ∧
    parseVariableBatchBody f (some m.body) = some p ∧
      p.packet = head ∧ p.count = items.length ∧ p.readItems f m.body = items

/-- The round trip of a message, with the record of its type. -/
def AoiMessage.RoundTrips : AoiMessage → Prop
  | .snapshot header selfX selfY items =>
      RoundTrip aoiSnapshot (sendAoiSnapshot header selfX selfY items)
        { header, selfX, selfY, count := UInt16.ofNat items.length } items
  | .spawnBatch header items =>
      RoundTrip aoiActorBatch (sendAoiSpawnBatch header items)
        { header, count := UInt16.ofNat items.length } items
  | .despawnBatch header charIds =>
      RoundTrip aoiDespawnBatch (sendAoiDespawnBatch header charIds)
        { header, count := UInt16.ofNat charIds.length } charIds
  | .moveBatch header items =>
      RoundTrip aoiActorBatch (sendAoiMoveBatch header items)
        { header, count := UInt16.ofNat items.length } items

/-! ## The round trip -/

section Format

variable {Head Item : Type} {f : BatchFormat Head Item}

theorem sendBatch_take_length (type : UInt16) (head : Head) (items : List Item) :
    sendBatch f type (f.packetSize - f.item.size + items.length * f.item.size) head items =
      sendBatch f type (f.head.size + items.length * f.item.size) head
        (items.take items.length) := by
  rw [BatchFormat.packetSize, Nat.add_sub_cancel, List.take_length]

/-- A batch that is sent with its own count is well formed precisely if its
size is a 16-bit number. -/
theorem wellFormed_sendAoi_iff (hitem : 0 < f.item.size) (type : UInt16) {head : Head}
    {items : List Item} (hcount : f.count head = UInt16.ofNat items.length) :
    f.WellFormed items
        (sendBatch f type (f.packetSize - f.item.size + items.length * f.item.size) head items) ↔
      msgHeaderSize + (f.packetSize - f.item.size + items.length * f.item.size) ≤ 65535 := by
  rw [sendBatch_take_length, wellFormed_sendBatch_iff f hitem type le_rfl hcount,
    BatchFormat.packetSize, Nat.add_sub_cancel]

/-- A packet whose count and size fit is read back with its head and items. -/
theorem roundTrip_sendAoi (hitem : 0 < f.item.size) (type : UInt16) {head : Head}
    {items : List Item} (hcount : f.count head = UInt16.ofNat items.length)
    (hfits : msgHeaderSize + (f.packetSize - f.item.size + items.length * f.item.size) ≤ 65535) :
    RoundTrip f
      (sendBatch f type (f.packetSize - f.item.size + items.length * f.item.size) head items)
      head items := by
  rw [BatchFormat.packetSize, Nat.add_sub_cancel] at hfits ⊢
  have hle : items.length ≤ items.length * f.item.size := Nat.le_mul_of_pos_right _ hitem
  have hlength : (f.count head).toNat = items.length := by
    rw [hcount, UInt16.toNat_ofNat', Nat.mod_eq_of_lt (by omega)]
  obtain ⟨p, hp, hpacket, hn, hitems⟩ := parse_image f [] hlength
  rw [List.append_nil] at hp hitems
  refine ⟨_, p, sendBatch_exact f type head items, ?_, hp, hpacket, hn, hitems⟩
  rw [MsgHeader.bodyLen, f.length_image, (wSize_makeHeader_iff type _).mpr hfits]
  exact Nat.add_sub_cancel_left _ _

end Format

theorem layout_sizes : aoiSnapshot.packetSize = 64 ∧ aoiActorBatch.packetSize = 56 ∧
    aoiDespawnBatch.packetSize = 48 ∧ ActorItem.layout.size = 16 ∧
      despawnItemLayout.size = 8 := by
  decide

/-- The sizes of the bodies leave the room that the header takes. -/
theorem fits_of_bodySize_le {m : AoiMessage} (h : m.bodySize ≤ 65535) :
    msgHeaderSize + m.bodySize ≤ 65535 := by
  obtain ⟨hsnapshot, hactors, hdespawn, hitem, hid⟩ := layout_sizes
  cases m <;>
    simp only [AoiMessage.bodySize, aoiSnapshotBodySize, aoiSpawnBatchBodySize,
      aoiDespawnBatchBodySize, aoiMoveBatchBodySize, hsnapshot, hactors, hdespawn, hitem, hid,
      msgHeaderSize] at h ⊢ <;>
    omega

/-- **Zone-world codec.**  A message whose body has a 16-bit size comes out
of the world's parser as it went in; and the parser accepts nothing that
reaches beyond the body. -/
theorem aoi_codec :
    (∀ m : AoiMessage, m.bodySize ≤ 65535 → m.RoundTrips) ∧
      ∀ (Head Item : Type) (f : BatchFormat Head Item) (bs : List UInt8),
        parseVariableBatchBody f (some bs) = none ∨
          ∃ p, parseVariableBatchBody f (some bs) = some p ∧ p.InBody f bs := by
  constructor
  · intro m hsize
    have hfits := fits_of_bodySize_le hsize
    cases m with
    | snapshot header selfX selfY items =>
        exact roundTrip_sendAoi (f := aoiSnapshot) (by decide) 3417 rfl hfits
    | spawnBatch header items =>
        exact roundTrip_sendAoi (f := aoiActorBatch) (by decide) 3418 rfl hfits
    | despawnBatch header charIds =>
        exact roundTrip_sendAoi (f := aoiDespawnBatch) (by decide) 3419 rfl hfits
    | moveBatch header items =>
        exact roundTrip_sendAoi (f := aoiActorBatch) (by decide) 3420 rfl hfits
  · intro Head Item f bs
    cases hp : parseVariableBatchBody f (some bs) with
    | none => exact .inl rfl
    | some p => exact .inr ⟨p, rfl, inBody_parse f hp⟩

/-- Two players come into sight of a third. -/
theorem aoi_codec_twoSpawns :
    (AoiMessage.spawnBatch ⟨1, 2, 3, 4, 5, 6, 7, 8⟩
      [{ charId := 9, x := -1, y := 2 }, { charId := 10, x := 3, y := -4 }]).RoundTrips :=
  aoi_codec.1 _ (by decide)

end GameServer
