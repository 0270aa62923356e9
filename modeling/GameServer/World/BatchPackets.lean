import GameServer.Zone.AoiCodec

/-!
# GameServer.World.BatchPackets

The batch packets that the world process sends to its clients, and which of
all batch packets of the two processes are well formed.

A client speaks either the packed structs or protobuf messages.  What a
protobuf message serializes to is a parameter (`BatchMessages`).

* `sendPlayerSpawnBatch` and the others — the senders, under their names;
* `ClientBatch` — a call of one of them;
* `wellFormed_batches_iff` — a packet is well formed precisely if there are
  few enough items.
-/

namespace GameServer

open BatchFormat

/-! ## Senders -/

/-- `ClampBatchEntityCount`. -/
def clampBatchEntityCount (count : Nat) : UInt16 := UInt16.ofNat (min count maxBatchEntityCount)

/-- `SpawnBatchBodySize`. -/
def spawnBatchBodySize (count : UInt16) : Nat :=
  if count = 0 then 0
  else playerActorBatch.packetSize + (count.toNat - 1) * ActorItem.layout.size

/-- `DespawnBatchBodySize`. -/
def despawnBatchBodySize (count : UInt16) : Nat :=
  if count = 0 then 0
  else playerDespawnBatch.packetSize + (count.toNat - 1) * despawnItemLayout.size

/-- The size that the other senders compute. -/
def actorBatchBodySize (count : Nat) : Nat :=
  playerActorBatch.packetSize + if count > 0 then (count - 1) * ActorItem.layout.size else 0

/-- What the protobuf messages of batches serialize to: `PlayerSpawnBatch`,
`PlayerMoveBatch` and `PlayerDespawnBatch`. -/
structure BatchMessages where
  spawnBatch : List ActorItem → List UInt8
  moveBatch : List ActorItem → List UInt8
  despawnBatch : List UInt64 → List UInt8

/-- `BuildFramedMessage`.  A message is not written to a buffer that it does
not fit in. -/
def buildFramedMessage (msgId : UInt16) (message : List UInt8) : Option Packet :=
  let bodySize := UInt16.ofNat message.length
  if message.length ≤ bodySize.toNat then
    some { header := makeHeader msgId bodySize, body := message }
  else none

/-- What goes to a client. -/
inductive ClientSend where
  | legacy (s : BatchSend)
  | framed (m : Packet)
deriving DecidableEq, Repr

/-- A client in protobuf mode gets the message, if it can be built. -/
def framedOr (protoMode : Bool) (msgId : UInt16) (message : List UInt8) (legacy : BatchSend) :
    ClientSend :=
  if protoMode then
    match buildFramedMessage msgId message with
    | some m => .framed m
    | none => .legacy legacy
  else .legacy legacy

section Senders

variable (msgs : BatchMessages) (protoMode : Bool)

/-- `SendPlayerSpawnBatch_`, and `SendPortalSpawnBatchPacket_` with the same
body. -/
def sendPlayerSpawnBatch (spawnItems : List ActorItem) : ClientSend :=
  framedOr protoMode 44 (msgs.spawnBatch spawnItems) <|
    let count := clampBatchEntityCount spawnItems.length
    sendBatch playerActorBatch 44 (spawnBatchBodySize count) count (spawnItems.take count.toNat)

/-- `SendPlayerDespawnBatch_`. -/
def sendPlayerDespawnBatch (charIds : List UInt64) : ClientSend :=
  framedOr protoMode 45 (msgs.despawnBatch charIds) <|
    let count := clampBatchEntityCount charIds.length
    sendBatch playerDespawnBatch 45 (despawnBatchBodySize count) count (charIds.take count.toNat)

/-- `SendPlayerSpawnBatchRelay`. -/
def sendPlayerSpawnBatchRelay (spawnItems : List ActorItem) : ClientSend :=
  if spawnItems.isEmpty then .legacy .nothing
  else sendPlayerSpawnBatch msgs protoMode spawnItems

/-- `SendPlayerDespawnBatchRelay`. -/
def sendPlayerDespawnBatchRelay (despawnItems : List UInt64) : ClientSend :=
  if despawnItems.isEmpty then .legacy .nothing
  else sendPlayerDespawnBatch msgs protoMode despawnItems

/-- `SendPlayerMoveBatchRelay`. -/
def sendPlayerMoveBatchRelay (moveItems : List ActorItem) : ClientSend :=
  if moveItems.isEmpty then .legacy .nothing
  else
    framedOr protoMode 43 (msgs.moveBatch moveItems) <|
      let count := clampBatchEntityCount moveItems.length
      sendBatch playerActorBatch 43 (actorBatchBodySize count.toNat) count
        (moveItems.take count.toNat)

/-- The packet of `FlushMoveTickIfDue_` for the items of a batch. -/
def moveTickPacket (batchItems : List ActorItem) : ClientSend :=
  framedOr protoMode 43 (msgs.moveBatch batchItems) <|
    sendBatch playerActorBatch 43 (actorBatchBodySize batchItems.length)
      (UInt16.ofNat batchItems.length) batchItems

/-- The packet for all items around a cell, of which it takes 4096. -/
def moveTickBatch (items : List ActorItem) : ClientSend :=
  if items.isEmpty then .legacy .nothing
  else moveTickPacket msgs protoMode (items.take (UInt16.ofNat (min items.length 4096)).toNat)

/-- `SendReconnectPlayerSpawnBatch_`. -/
def sendReconnectPlayerSpawnBatch (spawnItems : List ActorItem) : ClientSend :=
  framedOr protoMode 44 (msgs.spawnBatch spawnItems) <|
    let count := UInt16.ofNat (min spawnItems.length 65535)
    sendBatch playerActorBatch 44 (actorBatchBodySize count.toNat) count
      (spawnItems.take count.toNat)

/-- `SendEnterPlayerSpawnBatch_`. -/
def sendEnterPlayerSpawnBatch (spawnItems : List ActorItem) : ClientSend :=
  if spawnItems.isEmpty then .legacy .nothing
  else sendReconnectPlayerSpawnBatch msgs protoMode spawnItems

/-- `SendPortalSpawnBatchPacket_`. -/
def sendPortalSpawnBatchPacket (items : List ActorItem) : ClientSend :=
  sendPlayerSpawnBatch msgs protoMode items

end Senders

/-- A call of a sender of the world process. -/
inductive ClientBatch where
  | playerSpawnBatch (items : List ActorItem)
  | playerDespawnBatch (charIds : List UInt64)
  | playerSpawnBatchRelay (items : List ActorItem)
  | playerDespawnBatchRelay (charIds : List UInt64)
  | playerMoveBatchRelay (items : List ActorItem)
  | moveTick (items : List ActorItem)
  | reconnectPlayerSpawnBatch (items : List ActorItem)
  | enterPlayerSpawnBatch (items : List ActorItem)
  | portalSpawnBatchPacket (items : List ActorItem)
deriving DecidableEq, Repr

/-- A packed batch is well formed; a protobuf message has the size that its
header says, and is that of a prefix of the items. -/
def ClientSend.WellFormed {Head Item : Type} (f : BatchFormat Head Item)
    (message : List Item → List UInt8) (items : List Item) : ClientSend → Prop
  | .legacy s => f.WellFormed items s
  | .framed m => m.header.wSize.toNat = msgHeaderSize + m.body.length ∧
      ∃ n, m.body = message (items.take n)

namespace ClientBatch

variable (msgs : BatchMessages) (protoMode : Bool)

/-- What the call sends is well formed. -/
def WellFormed : ClientBatch → Prop
  | .playerSpawnBatch items =>
      (sendPlayerSpawnBatch msgs protoMode items).WellFormed playerActorBatch msgs.spawnBatch items
  | .playerDespawnBatch ids =>
      (sendPlayerDespawnBatch msgs protoMode ids).WellFormed BatchFormat.playerDespawnBatch
        msgs.despawnBatch ids
  | .playerSpawnBatchRelay items =>
      (sendPlayerSpawnBatchRelay msgs protoMode items).WellFormed playerActorBatch msgs.spawnBatch
        items
  | .playerDespawnBatchRelay ids =>
      (sendPlayerDespawnBatchRelay msgs protoMode ids).WellFormed BatchFormat.playerDespawnBatch
        msgs.despawnBatch ids
  | .playerMoveBatchRelay items =>
      (sendPlayerMoveBatchRelay msgs protoMode items).WellFormed playerActorBatch msgs.moveBatch
        items
  | .moveTick items =>
      (moveTickBatch msgs protoMode items).WellFormed playerActorBatch msgs.moveBatch items
  | .reconnectPlayerSpawnBatch items =>
      (sendReconnectPlayerSpawnBatch msgs protoMode items).WellFormed playerActorBatch
        msgs.spawnBatch items
  | .enterPlayerSpawnBatch items =>
      (sendEnterPlayerSpawnBatch msgs protoMode items).WellFormed playerActorBatch msgs.spawnBatch
        items
  | .portalSpawnBatchPacket items =>
      (sendPortalSpawnBatchPacket msgs protoMode items).WellFormed playerActorBatch
        msgs.spawnBatch items

/-- The message fits a frame, where it is sent at all; otherwise the items do. -/
def Fits (message : List UInt8) (packed : Prop) : Prop :=
  if protoMode ∧ message.length ≤ 65535 then msgHeaderSize + message.length ≤ 65535 else packed

/-- Few enough items are given, and some where the sender needs one. -/
def FewItems : ClientBatch → Prop
  | .playerSpawnBatch items | .reconnectPlayerSpawnBatch items | .portalSpawnBatchPacket items =>
      Fits protoMode (msgs.spawnBatch items) (1 ≤ items.length ∧ items.length ≤ 4095)
  | .playerDespawnBatch ids => Fits protoMode (msgs.despawnBatch ids) (1 ≤ ids.length)
  | .playerSpawnBatchRelay items | .enterPlayerSpawnBatch items =>
      items = [] ∨ Fits protoMode (msgs.spawnBatch items) (items.length ≤ 4095)
  | .playerDespawnBatchRelay ids => ids = [] ∨ Fits protoMode (msgs.despawnBatch ids) True
  | .playerMoveBatchRelay items =>
      items = [] ∨ Fits protoMode (msgs.moveBatch items) (items.length ≤ 4095)
  | .moveTick items =>
      items = [] ∨ Fits protoMode (msgs.moveBatch (items.take 4096)) (items.length ≤ 4095)

end ClientBatch

/-! ## Which packets are well formed -/

section Format

variable {Head Item : Type} {f : BatchFormat Head Item}

/-- The protobuf message is built precisely if its size is a 16-bit number. -/
theorem buildFramedMessage_eq (msgId : UInt16) (message : List UInt8) :
    buildFramedMessage msgId message =
      if message.length ≤ 65535 then
        some { header := makeHeader msgId (UInt16.ofNat message.length), body := message }
      else none := by
  have hcond : message.length ≤ (UInt16.ofNat message.length).toNat ↔
      message.length ≤ 65535 := by
    rw [UInt16.toNat_ofNat']
    omega
  unfold buildFramedMessage
  dsimp only
  split_ifs with h₁ h₂ h₂
  · rfl
  · exact absurd (hcond.mp h₁) h₂
  · exact absurd (hcond.mpr h₂) h₁
  · rfl

/-- A sender that tries the message first is right if both ways are. -/
theorem wellFormed_framedOr_iff (protoMode : Bool) (msgId : UInt16)
    (serialize : List Item → List UInt8) (n : Nat) {items : List Item} {legacy : BatchSend}
    {packed : Prop} (hpacked : f.WellFormed items legacy ↔ packed) :
    (framedOr protoMode msgId (serialize (items.take n)) legacy).WellFormed f serialize items ↔
      ClientBatch.Fits protoMode (serialize (items.take n)) packed := by
  unfold framedOr ClientBatch.Fits
  rw [buildFramedMessage_eq]
  cases protoMode with
  | false => simpa [ClientSend.WellFormed] using hpacked
  | true =>
      simp only [if_true, true_and]
      split_ifs with hsize
      · simp only [ClientSend.WellFormed, wSize_makeHeader_iff]
        exact and_iff_left ⟨n, rfl⟩
      · simpa [ClientSend.WellFormed] using hpacked

/-- A sender that sends nothing for no items. -/
theorem wellFormed_unless_empty {serialize : List Item → List UInt8} {items : List Item}
    {s : ClientSend} {fits : Prop} (h : items ≠ [] → (s.WellFormed f serialize items ↔ fits)) :
    (if items.isEmpty then ClientSend.legacy .nothing else s).WellFormed f serialize items ↔
      items = [] ∨ fits := by
  cases items with
  | nil => simp [ClientSend.WellFormed, BatchFormat.WellFormed]
  | cons a as => simpa using h (List.cons_ne_nil a as)

/-- A sender whose buffer has room for the items and their count. -/
theorem wellFormed_counted_iff (hhead : f.head.size = 2) (hitem : 0 < f.item.size)
    (msgId : UInt16) {items : List Item} {n : Nat} {head : Head} {bodySize : Nat}
    (hn : n ≤ items.length) (hcount : f.count head = UInt16.ofNat n)
    (hsize : bodySize = 2 + n * f.item.size) :
    f.WellFormed items (sendBatch f msgId bodySize head (items.take n)) ↔
      msgHeaderSize + (2 + n * f.item.size) ≤ 65535 := by
  have h := wellFormed_sendBatch_iff f hitem msgId hn hcount
  rw [hsize]
  rwa [hhead] at h

end Format

theorem client_sizes : playerActorBatch.packetSize = 18 ∧ playerDespawnBatch.packetSize = 10 ∧
    playerActorBatch.head.size = 2 ∧ playerActorBatch.item.size = 16 ∧
      playerDespawnBatch.head.size = 2 ∧ playerDespawnBatch.item.size = 8 ∧
        ActorItem.layout.size = 16 ∧ despawnItemLayout.size = 8 := by
  decide

theorem toNat_clampBatchEntityCount (count : Nat) :
    (clampBatchEntityCount count).toNat = min count 4096 := by
  rw [clampBatchEntityCount, maxBatchEntityCount, UInt16.toNat_ofNat', Nat.mod_eq_of_lt (by omega)]

/-- The clamp of a positive count is positive. -/
theorem clampBatchEntityCount_ne_zero {count : Nat} (h : 1 ≤ count) :
    clampBatchEntityCount count ≠ 0 := by
  intro hzero
  have hnat := toNat_clampBatchEntityCount count
  rw [hzero] at hnat
  change 0 = min count 4096 at hnat
  omega

/-- A batch of one item or more, as the structs of the clients are sized. -/
theorem wellFormed_actors_iff (msgId : UInt16) {items : List ActorItem} {count : UInt16}
    (hpos : 1 ≤ count.toNat) (hle : count.toNat ≤ items.length) {bodySize : Nat}
    (hsize : bodySize = playerActorBatch.packetSize +
      (count.toNat - 1) * ActorItem.layout.size) :
    playerActorBatch.WellFormed items
        (sendBatch playerActorBatch msgId bodySize count (items.take count.toNat)) ↔
      count.toNat ≤ 4095 := by
  obtain ⟨hpacket, -, hhead, hitem, -, -, hlayout, -⟩ := client_sizes
  rw [hpacket, hlayout] at hsize
  rw [wellFormed_counted_iff hhead (by omega) msgId hle (UInt16.ofNat_toNat).symm
    (by rw [hitem]; omega), hitem, msgHeaderSize]
  omega

/-- A spawn batch is exact for 1 to 4095 players. -/
theorem wellFormed_spawn_iff (items : List ActorItem) :
    playerActorBatch.WellFormed items
        (sendBatch playerActorBatch 44 (spawnBatchBodySize (clampBatchEntityCount items.length))
          (clampBatchEntityCount items.length)
          (items.take (clampBatchEntityCount items.length).toNat)) ↔
      1 ≤ items.length ∧ items.length ≤ 4095 := by
  have hcount := toNat_clampBatchEntityCount items.length
  cases items with
  | nil => exact iff_of_false (fun h => h) (by simp)
  | cons a as =>
      have hsome : 1 ≤ (a :: as).length := Nat.succ_pos _
      have hne := clampBatchEntityCount_ne_zero hsome
      rw [wellFormed_actors_iff 44 (by omega) (by omega)
        (by rw [spawnBatchBodySize, if_neg hne]), hcount]
      omega

/-- A despawn batch is exact for any list but the empty one. -/
theorem wellFormed_despawn_iff (ids : List UInt64) :
    playerDespawnBatch.WellFormed ids
        (sendBatch playerDespawnBatch 45 (despawnBatchBodySize (clampBatchEntityCount ids.length))
          (clampBatchEntityCount ids.length)
          (ids.take (clampBatchEntityCount ids.length).toNat)) ↔
      1 ≤ ids.length := by
  obtain ⟨-, hpacket, -, -, hhead, hitem, -, hlayout⟩ := client_sizes
  have hcount := toNat_clampBatchEntityCount ids.length
  cases ids with
  | nil => exact iff_of_false (fun h => h) (by simp)
  | cons a as =>
      have hsome : 1 ≤ (a :: as).length := Nat.succ_pos _
      have hne := clampBatchEntityCount_ne_zero hsome
      have hn : playerDespawnBatch.count (clampBatchEntityCount (a :: as).length) =
          UInt16.ofNat (clampBatchEntityCount (a :: as).length).toNat :=
        UInt16.ofNat_toNat.symm
      -- At most 4096 ids of 8 bytes: every such packet has a 16-bit size.
      rw [wellFormed_counted_iff hhead (by omega) 45 (by omega) hn
        (by rw [despawnBatchBodySize, if_neg hne, hpacket, hlayout, hitem]; omega), hitem,
        msgHeaderSize, hcount]
      omega

/-- An actor batch fits its packet up to 4095 items. -/
theorem wellFormed_actorBatch_iff (msgId : UInt16) {items : List ActorItem} {count : UInt16}
    (hpos : 1 ≤ count.toNat) (hle : count.toNat ≤ items.length) :
    playerActorBatch.WellFormed items
        (sendBatch playerActorBatch msgId (actorBatchBodySize count.toNat) count
          (items.take count.toNat)) ↔
      count.toNat ≤ 4095 :=
  wellFormed_actors_iff msgId hpos hle (by rw [actorBatchBodySize, if_pos (by omega)])

/-- With no items the struct still has room for one, which nothing counts. -/
theorem not_wellFormed_blank (msgId : UInt16) :
    ¬playerActorBatch.WellFormed []
      (sendBatch playerActorBatch msgId (actorBatchBodySize 0) 0 []) := by
  rintro ⟨-, head, n, hbody, -⟩
  have hlength := congrArg List.length hbody
  rw [List.take_nil, playerActorBatch.length_image] at hlength
  dsimp only at hlength
  exact absurd hlength (by decide)

/-- The batch after a reconnect is clamped at 65535 players only, the limit of the
counter. -/
theorem wellFormed_reconnect_iff (items : List ActorItem) :
    playerActorBatch.WellFormed items
        (sendBatch playerActorBatch 44
          (actorBatchBodySize (UInt16.ofNat (min items.length 65535)).toNat)
          (UInt16.ofNat (min items.length 65535))
          (items.take (UInt16.ofNat (min items.length 65535)).toNat)) ↔
      1 ≤ items.length ∧ items.length ≤ 4095 := by
  have hcount : (UInt16.ofNat (min items.length 65535)).toNat = min items.length 65535 := by
    rw [UInt16.toNat_ofNat', Nat.mod_eq_of_lt (by omega)]
  cases items with
  | nil => exact iff_of_false (not_wellFormed_blank 44) (by simp)
  | cons a as =>
      have hsome : 1 ≤ (a :: as).length := Nat.succ_pos _
      rw [wellFormed_actorBatch_iff 44 (by omega) (by omega), hcount]
      omega

/-- A move batch, which is never empty, is exact up to 4095 players. -/
theorem wellFormed_move_iff {items : List ActorItem} (h : items ≠ []) :
    playerActorBatch.WellFormed items
        (sendBatch playerActorBatch 43
          (actorBatchBodySize (clampBatchEntityCount items.length).toNat)
          (clampBatchEntityCount items.length)
          (items.take (clampBatchEntityCount items.length).toNat)) ↔
      items.length ≤ 4095 := by
  have hcount := toNat_clampBatchEntityCount items.length
  have hsome : 1 ≤ items.length := List.length_pos_iff.mpr h
  rw [wellFormed_actorBatch_iff 43 (by omega) (by omega), hcount]
  omega

/-- A sender that is asked for one item or more, and takes what it is given. -/
theorem wellFormed_framedOr_all_iff {Head Item : Type} {f : BatchFormat Head Item}
    {protoMode : Bool} {serialize : List Item → List UInt8} {items : List Item} {msgId : UInt16}
    {legacy : BatchSend} {packed : Prop} (hpacked : f.WellFormed items legacy ↔ packed) :
    (framedOr protoMode msgId (serialize items) legacy).WellFormed f serialize items ↔
      ClientBatch.Fits protoMode (serialize items) packed := by
  have h := wellFormed_framedOr_iff protoMode msgId serialize items.length hpacked
  rwa [List.take_length] at h

/-- Where there are items anyway, asking for one changes nothing. -/
theorem fits_congr {protoMode : Bool} {message : List UInt8} {packed packed' : Prop}
    (h : packed ↔ packed') :
    ClientBatch.Fits protoMode message packed ↔ ClientBatch.Fits protoMode message packed' := by
  rw [ClientBatch.Fits, ClientBatch.Fits, h]

/-- In either codec, with an empty list for no batch at all. -/
theorem wellFormed_spawnRelay_iff (msgs : BatchMessages) (protoMode : Bool)
    (items : List ActorItem) :
    (sendPlayerSpawnBatchRelay msgs protoMode items).WellFormed playerActorBatch msgs.spawnBatch
        items ↔
      items = [] ∨ ClientBatch.Fits protoMode (msgs.spawnBatch items) (items.length ≤ 4095) := by
  refine wellFormed_unless_empty fun hne => ?_
  refine (wellFormed_framedOr_all_iff (wellFormed_spawn_iff items)).trans (fits_congr ?_)
  exact and_iff_right (List.length_pos_iff.mpr hne)

/-- The same for the batch of a tick, which is cut before it is built. -/
theorem wellFormed_moveTick_iff (msgs : BatchMessages) (protoMode : Bool)
    (items : List ActorItem) :
    (moveTickBatch msgs protoMode items).WellFormed playerActorBatch msgs.moveBatch items ↔
      items = [] ∨ ClientBatch.Fits protoMode (msgs.moveBatch (items.take 4096))
        (items.length ≤ 4095) := by
  have hcount : (UInt16.ofNat (min items.length 4096)).toNat = min items.length 4096 := by
    rw [UInt16.toNat_ofNat', Nat.mod_eq_of_lt (by omega)]
  have htake : items.take (min items.length 4096) = items.take 4096 := by
    rw [List.take_eq_take_iff, Nat.min_comm]
    omega
  have hlength : (items.take 4096).length = min items.length 4096 := by
    rw [List.length_take, Nat.min_comm]
  unfold moveTickBatch
  refine wellFormed_unless_empty fun hne => ?_
  have hsome : 1 ≤ items.length := List.length_pos_iff.mpr hne
  rw [hcount, htake, moveTickPacket, hlength]
  refine wellFormed_framedOr_iff _ _ _ _ ?_
  have hpos : 1 ≤ (UInt16.ofNat (min items.length 4096)).toNat := by omega
  have hle : (UInt16.ofNat (min items.length 4096)).toNat ≤ items.length := by omega
  have h := wellFormed_actorBatch_iff 43 hpos hle
  rw [hcount, htake] at h
  rw [h]
  omega

/-- **Which batch packets are well formed.**  The size of a packet is written
in 16 bits: the items of the messages between zone and world have to fit that
many bytes, those to a client must be fewer than the 4096 that the senders
allow.  Two senders have no buffer for an empty list, and one sends a blank
item. -/
theorem wellFormed_batches_iff (msgs : BatchMessages) (protoMode : Bool) :
    (∀ m : AoiMessage, m.WellFormed ↔ msgHeaderSize + m.bodySize ≤ 65535) ∧
      ∀ b : ClientBatch, b.WellFormed msgs protoMode ↔ b.FewItems msgs protoMode := by
  constructor
  · intro m
    cases m with
    | snapshot header selfX selfY items =>
        exact wellFormed_sendAoi_iff (f := aoiSnapshot) (by decide) 3417 rfl
    | spawnBatch header items =>
        exact wellFormed_sendAoi_iff (f := aoiActorBatch) (by decide) 3418 rfl
    | despawnBatch header charIds =>
        exact wellFormed_sendAoi_iff (f := aoiDespawnBatch) (by decide) 3419 rfl
    | moveBatch header items =>
        exact wellFormed_sendAoi_iff (f := aoiActorBatch) (by decide) 3420 rfl
  · intro b
    cases b with
    | playerSpawnBatch items => exact wellFormed_framedOr_all_iff (wellFormed_spawn_iff items)
    | playerDespawnBatch ids => exact wellFormed_framedOr_all_iff (wellFormed_despawn_iff ids)
    | playerSpawnBatchRelay items => exact wellFormed_spawnRelay_iff msgs protoMode items
    | playerDespawnBatchRelay ids =>
        refine wellFormed_unless_empty fun hne => ?_
        refine (wellFormed_framedOr_all_iff (wellFormed_despawn_iff ids)).trans (fits_congr ?_)
        exact iff_true_intro (List.length_pos_iff.mpr hne)
    | playerMoveBatchRelay items =>
        exact wellFormed_unless_empty fun hne =>
          wellFormed_framedOr_all_iff (wellFormed_move_iff hne)
    | moveTick items => exact wellFormed_moveTick_iff msgs protoMode items
    | reconnectPlayerSpawnBatch items =>
        exact wellFormed_framedOr_all_iff (wellFormed_reconnect_iff items)
    | enterPlayerSpawnBatch items =>
        refine wellFormed_unless_empty fun hne => ?_
        refine (wellFormed_framedOr_all_iff (wellFormed_reconnect_iff items)).trans (fits_congr ?_)
        exact and_iff_right (List.length_pos_iff.mpr hne)
    | portalSpawnBatchPacket items =>
        exact wellFormed_framedOr_all_iff (wellFormed_spawn_iff items)

/-- 4096 players come into sight at once: the header of the packet says 6
bytes, and its body has 65538. -/
theorem not_wellFormed_fullSpawnBatch :
    ¬ClientBatch.WellFormed ⟨fun _ => [], fun _ => [], fun _ => []⟩ false
      (.playerSpawnBatchRelay (List.replicate 4096 {})) := by
  generalize hitems : List.replicate 4096 ({} : ActorItem) = items
  have hlength : items.length = 4096 := by rw [← hitems, List.length_replicate]
  intro h
  rcases (wellFormed_spawnRelay_iff _ false items).mp h with rfl | hfits
  · cases hlength
  · rw [ClientBatch.Fits, if_neg (by simp), hlength] at hfits
    exact absurd hfits (by decide)

end GameServer
