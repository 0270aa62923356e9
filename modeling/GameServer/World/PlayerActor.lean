import Mathlib.Data.Finset.Card
import Mathlib.Data.List.AList
import GameServer.World.CharacterState
import GameServer.World.ZoneSector

/-!
# GameServer.World.PlayerActor

The in-memory state of a character (`PlayerActor`): its core state with the
projections kept beside it, its items and the loot transactions it has
committed.

* `addGold`, `commitLoot`, `setCurrentHp`, `setWorldPosition`, … — the
  operations of the gameplay handlers;
* `applyCharacterCoreState` — what an enter installs;
* `Gains`, `Sound` — what each operation does to the gold;
* `isInWorld_of_setWorldPosition`, … — what it does to the place.
-/

namespace GameServer

/-- `CharCombatState`. -/
structure CharCombatState where
  hp : UInt32 := 100
  maxHp : UInt32 := 100
  atk : UInt32 := 20
  defense : UInt32 := 3
  gold : UInt32 := 1000
deriving DecidableEq, Repr

/-- `PlayerActor`. -/
structure PlayerActor where
  charId : UInt64
  online : Bool := false
  sid : UInt32 := 0xFFFFFFFF
  serial : UInt32 := 0
  zoneId : UInt32 := 1
  mapTemplateId : UInt32 := 1001
  mapInstanceId : UInt32 := 0
  pos : Vec2i := {}
  coreState : Option CharacterCoreState := none
  combat : CharCombatState := {}
  items : AList fun _ : UInt32 => UInt32 := ∅
  committedLootTxs : Finset UInt64 := ∅

namespace PlayerActor

/-- `kInvalidSid`. -/
def invalidSid : UInt32 := 0xFFFFFFFF

variable (a : PlayerActor)

/-! ## Reading -/

/-- The core state, as `MutableCoreState` would create it. -/
def core : CharacterCoreState := a.coreState.getD (makeDefaultCharacterCoreState 0 a.charId)

/-- `GetGold`. -/
def getGold : UInt32 :=
  match a.coreState with
  | none => a.combat.gold
  | some core => core.hot.resources.gold

/-- `GetMaxHp`. -/
def getMaxHp : UInt32 :=
  match a.coreState with
  | none => a.combat.maxHp
  | some core => core.combatStats.maxHp

/-- `GetZoneId`. -/
def getZoneId : UInt32 :=
  match a.coreState with
  | none => a.zoneId
  | some core => core.hot.position.zoneId

/-- `GetMapId`. -/
def getMapId : UInt32 :=
  match a.coreState with
  | none => a.mapTemplateId
  | some core => core.hot.position.mapId

/-- `GetPosition`. -/
def getPosition : Vec2i :=
  match a.coreState with
  | none => a.pos
  | some core => ⟨core.hot.position.x, core.hot.position.y⟩

/-- `IsInWorld`. -/
def isInWorld : Bool :=
  match a.coreState with
  | none => a.online
  | some core => core.hot.inWorld

/-! ## Writing -/

/-- A change of the core state through `MutableCoreState`. -/
def modifyCore (f : CharacterCoreState → CharacterCoreState) : PlayerActor :=
  { a with coreState := some (f a.core) }

/-- A change of the hot state through `MutableHotState`. -/
def modifyHot (f : CharacterRuntimeHotState → CharacterRuntimeHotState) : PlayerActor :=
  a.modifyCore fun core => { core with hot := f core.hot }

/-- `SyncCombatProjectionFromAuthoritative`. -/
def syncCombatProjectionFromAuthoritative : PlayerActor :=
  match a.coreState with
  | none => a
  | some core =>
      let stats := core.combatStats
      { a.modifyHot fun hot =>
          { hot with
            resources := { hot.resources with
              maxHp := stats.maxHp
              maxMp := stats.maxMp
              currentHp := min hot.resources.currentHp stats.maxHp
              currentMp := min hot.resources.currentMp stats.maxMp } } with
        combat := { a.combat with
          maxHp := stats.maxHp
          atk := stats.atk
          defense := stats.defense } }

/-- `SyncProjectionFromCoreState`. -/
def syncProjectionFromCoreState : PlayerActor :=
  match a.coreState with
  | none => a
  | some core =>
      { a with
        zoneId := core.hot.position.zoneId
        mapTemplateId := core.hot.position.mapId
        pos := ⟨core.hot.position.x, core.hot.position.y⟩
        online := core.hot.inWorld && a.sid != invalidSid
        combat := { a.combat with
          hp := core.hot.resources.currentHp
          gold := core.hot.resources.gold } }.syncCombatProjectionFromAuthoritative

/-- `MarkHotDirty`. -/
def markHotDirty (flags : CharacterDirtyFlags) : PlayerActor :=
  a.modifyHot fun hot =>
    { hot with dirtyFlags := hot.dirtyFlags ||| flags, version := hot.version + 1 }

/-- `SetCurrentHp`. -/
def setCurrentHp (hp : UInt32) : PlayerActor :=
  let current := min hp (a.modifyHot id).getMaxHp
  ((a.modifyHot fun hot =>
    { hot with
      resources := { hot.resources with currentHp := current }
      alive := current > 0 }).markHotDirty .resources).syncProjectionFromCoreState

/-- `AddGold`. -/
def addGold (amount : UInt32) : PlayerActor :=
  ((a.modifyHot fun hot =>
    { hot with
      resources := { hot.resources with gold := hot.resources.gold + amount } }).markHotDirty
    .resources).syncProjectionFromCoreState

/-- `SetWorldPosition`. -/
def setWorldPosition (zoneId mapId mapInstanceId : UInt32) (x y z : Int32) (heading : Int16) :
    PlayerActor :=
  (({ a.modifyHot fun hot =>
      { hot with position := { zoneId, mapId, x, y, z, heading } } with
    mapInstanceId }).markHotDirty .position).syncProjectionFromCoreState

/-- `ClearWorldPosition`. -/
def clearWorldPosition : PlayerActor :=
  (({ a.modifyHot fun hot => { hot with position := {}, inWorld := false } with
    mapInstanceId := 0 }).markHotDirty .position).syncProjectionFromCoreState

/-- `bind_session`. -/
def bindSession (sid serial : UInt32) : PlayerActor :=
  let a := { a with sid, serial, online := true }
  match a.coreState with
  | none => a
  | some _ => (a.modifyHot fun hot => { hot with inWorld := true }).syncProjectionFromCoreState

/-- `unbind_session`: a stale disconnect changes nothing. -/
def unbindSession (sid serial : UInt32) : PlayerActor :=
  if a.sid ≠ sid ∨ a.serial ≠ serial then a
  else
    let a := { a with online := false, sid := invalidSid, serial := 0 }
    match a.coreState with
    | none => a
    | some _ => (a.modifyHot fun hot => { hot with inWorld := false }).markHotDirty .position

/-- `ApplyCombatRuntimeStats`. -/
def applyCombatRuntimeStats (stats : CharacterCombatRuntimeStats) : PlayerActor :=
  (a.modifyCore fun core =>
    let currentHp := min core.hot.resources.currentHp stats.maxHp
    { core with
      combatStats := stats
      hot := { core.hot with
        resources := { core.hot.resources with
          currentHp
          currentMp := min core.hot.resources.currentMp stats.maxMp }
        alive := currentHp > 0 } }).syncCombatProjectionFromAuthoritative.syncProjectionFromCoreState

/-- `SerializePersistentState`. -/
def serializePersistentState : Blob :=
  match a.coreState with
  | some core => serializeDemo (fromCharacterCoreState core)
  | none => serializeDemo { charId := a.charId, gold := a.combat.gold }

/-! ## Loot -/

/-- `CanAddItem`: at most 30 kinds of items. -/
def canAddItem (itemId : UInt32) : Bool :=
  if itemId = 0 then true
  else if (a.items.lookup itemId).isSome then true
  else a.items.keys.length < 30

/-- The loot transaction is new. -/
def isNewLoot (txId : UInt64) : Bool := txId = 0 || txId ∉ a.committedLootTxs

/-- `CommitLoot`: once for each transaction, as far as the set of
transactions goes back. -/
def commitLoot (txId : UInt64) (itemId count addGold : UInt32) : PlayerActor :=
  if a.isNewLoot txId = false then a
  else
    let txs :=
      if txId = 0 then a.committedLootTxs
      else if (insert txId a.committedLootTxs).card > 2048 then ∅
      else insert txId a.committedLootTxs
    let items :=
      if itemId ≠ 0 ∧ count ≠ 0 then
        AList.insert itemId ((a.items.lookup itemId).getD 0 + count) a.items
      else a.items
    { a with committedLootTxs := txs, items }.addGold addGold

/-- `ApplyCharacterCoreStateToActor_`; the combat stats come from the level
and item tables. -/
def applyCharacterCoreState (recompute : CharacterCoreState → CharacterCombatRuntimeStats)
    (coreState : CharacterCoreState) (sid serial : UInt32) (assignedZoneId : UInt16)
    (mapTemplateId instanceId : UInt32) : PlayerActor :=
  let a := { a with coreState := some coreState }.modifyHot fun hot =>
    { hot with
      inWorld := true
      position := { hot.position with zoneId := assignedZoneId.toUInt32, mapId := mapTemplateId } }
  { (a.applyCombatRuntimeStats (recompute a.core)).bindSession sid serial with
    mapInstanceId := instanceId }

/-! ## Gold -/

omit a in
/-- `a'` is `a` with `n` more gold: the character is the same, and without a
core state nothing has happened to the fallback. -/
structure Gains (n : UInt32) (a a' : PlayerActor) : Prop where
  charId : a'.charId = a.charId
  identity : a'.core.identity.charId = a.core.identity.charId
  gold : a'.core.hot.resources.gold = a.core.hot.resources.gold + n
  fallback : a'.coreState = none → a.coreState = none ∧ a'.combat.gold = a.combat.gold

variable {a}

/-- Gains add up. -/
theorem Gains.trans {n m : UInt32} {a' a'' : PlayerActor} (h : Gains n a a') (h' : Gains m a' a'') :
    Gains (n + m) a a'' where
  charId := h'.charId.trans h.charId
  identity := h'.identity.trans h.identity
  gold := by rw [h'.gold, h.gold, UInt32.add_assoc]
  fallback hnone := by
    obtain ⟨hnone', hgold'⟩ := h'.fallback hnone
    obtain ⟨hnone'', hgold⟩ := h.fallback hnone'
    exact ⟨hnone'', hgold'.trans hgold⟩

theorem Gains.then {n : UInt32} {a' a'' : PlayerActor} (h : Gains n a a') (h' : Gains 0 a' a'') :
    Gains n a a'' := by
  simpa using h.trans h'

/-- A change of the core that adds to the gold gains that much. -/
theorem gains_modifyCore {n : UInt32} {f : CharacterCoreState → CharacterCoreState}
    (hid : (f a.core).identity = a.core.identity)
    (hgold : (f a.core).hot.resources.gold = a.core.hot.resources.gold + n) :
    Gains n a (a.modifyCore f) where
  charId := rfl
  identity := congrArg CharacterIdentity.charId hid
  gold := hgold
  fallback hnone := by simp [modifyCore] at hnone

theorem gains_modifyHot {n : UInt32} {f : CharacterRuntimeHotState → CharacterRuntimeHotState}
    (hgold : (f a.core.hot).resources.gold = a.core.hot.resources.gold + n) :
    Gains n a (a.modifyHot f) :=
  gains_modifyCore rfl hgold

/-- Changes beside the core state. -/
theorem gains_of_coreState_eq {a' : PlayerActor} (hid : a'.charId = a.charId)
    (hcore : a'.coreState = a.coreState)
    (hgold : a.coreState = none → a'.combat.gold = a.combat.gold) : Gains 0 a a' where
  charId := hid
  identity := by simp only [core, hcore, hid]
  gold := by simp only [core, hcore, hid, UInt32.add_zero]
  fallback hnone := ⟨hcore ▸ hnone, hgold (hcore ▸ hnone)⟩

theorem gains_refl (a : PlayerActor) : Gains 0 a a :=
  gains_of_coreState_eq rfl rfl fun _ => rfl

theorem gains_syncCombat : Gains 0 a a.syncCombatProjectionFromAuthoritative := by
  simp only [syncCombatProjectionFromAuthoritative]
  split
  · exact gains_refl a
  · exact ⟨rfl, rfl, (UInt32.add_zero _).symm,
      fun hnone => by simp [modifyHot, modifyCore] at hnone⟩

/-- Syncing the projection gains nothing. -/
theorem gains_sync : Gains 0 a a.syncProjectionFromCoreState := by
  simp only [syncProjectionFromCoreState]
  split
  · exact gains_refl a
  next core hcore =>
    refine Gains.then ?_ gains_syncCombat
    exact gains_of_coreState_eq rfl rfl fun hnone => by simp [hcore] at hnone

theorem gains_markHotDirty (flags : CharacterDirtyFlags) : Gains 0 a (a.markHotDirty flags) :=
  gains_modifyHot (UInt32.add_zero _).symm

/-- The dirty flags and the projections come last. -/
theorem Gains.marked {n : UInt32} {a' : PlayerActor} (h : Gains n a a')
    (flags : CharacterDirtyFlags) :
    Gains n a (a'.markHotDirty flags).syncProjectionFromCoreState :=
  (h.then (gains_markHotDirty flags)).then gains_sync

theorem gains_addGold (amount : UInt32) : Gains amount a (a.addGold amount) := by
  unfold addGold
  apply Gains.marked
  exact gains_modifyHot rfl

theorem gains_setCurrentHp (hp : UInt32) : Gains 0 a (a.setCurrentHp hp) := by
  unfold setCurrentHp
  apply Gains.marked
  exact gains_modifyHot (UInt32.add_zero _).symm

theorem gains_setInstance {n : UInt32} {a' : PlayerActor} (h : Gains n a a') (instanceId : UInt32) :
    Gains n a { a' with mapInstanceId := instanceId } :=
  h.then (gains_of_coreState_eq rfl rfl fun _ => rfl)

theorem gains_setWorldPosition (zoneId mapId mapInstanceId : UInt32) (x y z : Int32)
    (heading : Int16) : Gains 0 a (a.setWorldPosition zoneId mapId mapInstanceId x y z heading) := by
  unfold setWorldPosition
  apply Gains.marked
  apply gains_setInstance
  exact gains_modifyHot (UInt32.add_zero _).symm

theorem gains_clearWorldPosition : Gains 0 a a.clearWorldPosition := by
  unfold clearWorldPosition
  apply Gains.marked
  apply gains_setInstance
  exact gains_modifyHot (UInt32.add_zero _).symm

/-- Nor does binding a session. -/
theorem gains_bindSession (sid serial : UInt32) : Gains 0 a (a.bindSession sid serial) := by
  have hbound : Gains 0 a { a with sid, serial, online := true } :=
    gains_of_coreState_eq rfl rfl fun _ => rfl
  simp only [bindSession]
  split
  · exact hbound
  · exact (hbound.then (gains_modifyHot (UInt32.add_zero _).symm)).then gains_sync

/-- Unbinding a session gains nothing. -/
theorem gains_unbindSession (sid serial : UInt32) : Gains 0 a (a.unbindSession sid serial) := by
  have hunbound : Gains 0 a { a with online := false, sid := invalidSid, serial := 0 } :=
    gains_of_coreState_eq rfl rfl fun _ => rfl
  simp only [unbindSession]
  split_ifs
  · exact gains_refl a
  · split
    · exact hunbound
    · exact (hunbound.then (gains_modifyHot (UInt32.add_zero _).symm)).then (gains_markHotDirty _)

/-- Loot that is committed again adds nothing. -/
theorem gains_commitLoot (txId : UInt64) (itemId count gold : UInt32) :
    Gains (if a.isNewLoot txId then gold else 0) a (a.commitLoot txId itemId count gold) := by
  simp only [commitLoot]
  cases a.isNewLoot txId with
  | false => exact gains_refl a
  | true =>
      have hlooted : ∀ txs items,
          Gains 0 a { a with committedLootTxs := txs, items } :=
        fun _ _ => gains_of_coreState_eq rfl rfl fun _ => rfl
      simpa using (hlooted _ _).trans (gains_addGold gold)

theorem gains_applyCombatRuntimeStats (stats : CharacterCombatRuntimeStats) :
    Gains 0 a (a.applyCombatRuntimeStats stats) := by
  unfold applyCombatRuntimeStats
  refine Gains.then (Gains.then ?_ gains_syncCombat) gains_sync
  exact gains_modifyCore rfl (UInt32.add_zero _).symm

/-- An enter installs the core state it is given. -/
theorem gains_applyCharacterCoreState
    (recompute : CharacterCoreState → CharacterCombatRuntimeStats) (coreState : CharacterCoreState)
    (sid serial : UInt32) (assignedZoneId : UInt16) (mapTemplateId instanceId : UInt32) :
    Gains 0 { a with coreState := some coreState }
      (a.applyCharacterCoreState recompute coreState sid serial assignedZoneId mapTemplateId
        instanceId) := by
  unfold applyCharacterCoreState
  apply gains_setInstance
  refine Gains.then (Gains.then ?_ (gains_applyCombatRuntimeStats _)) (gains_bindSession sid serial)
  exact gains_modifyHot (UInt32.add_zero _).symm

/-- The actor is the one of the character, and its gold without a core state
is that of a fresh character. -/
structure Sound (a : PlayerActor) (c : UInt64) : Prop where
  charId : a.charId = c
  identity : a.core.identity.charId = c
  fallback : a.coreState = none → a.combat.gold = 1000

theorem sound_new (c : UInt64) : Sound { charId := c } c where
  charId := rfl
  identity := rfl
  fallback _ := rfl

theorem Sound.getGold_eq {c : UInt64} (h : a.Sound c) : a.getGold = a.core.hot.resources.gold := by
  cases hcore : a.coreState with
  | none => simp [getGold, core, hcore, h.fallback hcore, makeDefaultCharacterCoreState]
  | some core => simp [getGold, PlayerActor.core, hcore]

/-- What gains keeps its identity. -/
theorem Gains.sound {n : UInt32} {a' : PlayerActor} {c : UInt64} (h : Gains n a a')
    (ha : a.Sound c) : a'.Sound c where
  charId := h.charId.trans ha.charId
  identity := h.identity.trans ha.identity
  fallback hnone := by
    obtain ⟨hnone', hgold⟩ := h.fallback hnone
    exact hgold.trans (ha.fallback hnone')

theorem Gains.getGold {n : UInt32} {a' : PlayerActor} {c : UInt64} (h : Gains n a a')
    (ha : a.Sound c) : a'.getGold = a.getGold + n := by
  rw [(h.sound ha).getGold_eq, ha.getGold_eq, h.gold]

/-- What a sound actor persists reads back as its gold. -/
theorem Sound.serializePersistentState {c : UInt64} (h : a.Sound c) :
    ∃ raw, tryDeserializeDemo a.serializePersistentState = some raw ∧ raw.charId = c ∧
      raw.gold = a.getGold := by
  simp only [PlayerActor.serializePersistentState, PlayerActor.getGold]
  cases hcore : a.coreState with
  | none => exact ⟨_, tryDeserializeDemo_serializeDemo _, h.charId, rfl⟩
  | some core =>
      refine ⟨_, tryDeserializeDemo_serializeDemo _, ?_, rfl⟩
      simpa [PlayerActor.core, hcore, fromCharacterCoreState] using h.identity

/-! ## Place -/

/-- A core state that has to be created is not in the world. -/
theorem isInWorld_of_core (h : a.core.hot.inWorld = true) : a.isInWorld = true := by
  unfold core at h
  unfold isInWorld
  cases hc : a.coreState with
  | none =>
      rw [hc] at h
      cases h
  | some c =>
      rw [hc] at h
      exact h

theorem isInWorld_of_setWorldPosition {zoneId mapId mapInstanceId : UInt32} {x y z : Int32}
    {heading : Int16}
    (h : (a.setWorldPosition zoneId mapId mapInstanceId x y z heading).isInWorld = true) :
    a.isInWorld = true :=
  isInWorld_of_core h

/-- Only a disconnect of another connection leaves the character in the
world. -/
theorem isInWorld_of_unbindSession {sid serial : UInt32}
    (h : (a.unbindSession sid serial).isInWorld = true) :
    a.isInWorld = true ∧ (a.sid ≠ sid ∨ a.serial ≠ serial) := by
  unfold unbindSession at h
  split at h
  · next hk => exact ⟨h, hk⟩
  · unfold isInWorld at h
    cases hc : a.coreState <;> simp [hc, modifyHot, modifyCore, core, markHotDirty] at h

theorem getZoneId_applyCharacterCoreState
    (recompute : CharacterCoreState → CharacterCombatRuntimeStats) (coreState : CharacterCoreState)
    (sid serial : UInt32) (assignedZoneId : UInt16) (mapTemplateId instanceId : UInt32) :
    (a.applyCharacterCoreState recompute coreState sid serial assignedZoneId mapTemplateId
      instanceId).getZoneId = assignedZoneId.toUInt32 := rfl

end PlayerActor

end GameServer
