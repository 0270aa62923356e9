import GameServer.World.PlayerActor
import GameServer.World.Runtime
import GameServer.World.WriteBehind

/-!
# GameServer.World.Reentry

What a character keeps when it leaves the world and enters again.

The gold of a character lives in its `PlayerActor`.  A gold grant and the
completion of an enter cache the persistent state under world code 0; a loot
commit caches nothing, and neither does any way of leaving.  The next enter
loads the blob cached under the world's own id, and starts with the gold of
a fresh character if there is none: the database has no gold.

* `uncarried` — the gold gained since it was last cached where an enter
  looks for it;
* `Accounted` — the gold an enter would load and the uncarried gold make up the
  gold of the actor; `accounted_events`: in every state;
* `reentry_gold_iff` — an enter brings back the gold the character left with
  precisely if there is no uncarried gold.
-/

namespace GameServer

/-- `CharacterRow`, as `QueryCharacterById_` finds it for an id, with the
equipment of `QueryCharacterEquipSlots_`. -/
structure CharacterRow where
  accountId : UInt64
  charName : String := ""
  level : UInt32 := 1
  job : UInt16 := 0
  tribe : UInt16 := 0
  appearanceCode : UInt32 := 0
  equip : EquipSummary := {}
deriving DecidableEq, Repr

/-- `k_character_state_blob_max_len`. -/
def characterStateBlobMaxLen : Nat := 128

/-- `LoadCharacterEnterSnapshot`; `none` where it reports a failure. -/
def loadCharacterEnterSnapshot (rows : Table UInt64 CharacterRow) (accountId charId : UInt64)
    (cachedStateBlob : Blob) : Option CharacterCoreState :=
  match rows charId with
  | none => none
  | some row =>
      let state := makeDefaultCharacterCoreState row.accountId charId
      let state :=
        { state with
          identity :=
            { charId, accountId := row.accountId, charName := row.charName, level := row.level
              job := row.job, tribe := row.tribe }
          appearance := { state.appearance with appearanceCode := row.appearanceCode }
          equip := row.equip }
      let state :=
        match tryDeserializeDemoCore cachedStateBlob row.accountId with
        | none => state
        | some loaded =>
            if loaded.identity.charId = charId then
              { state with
                hot := { state.hot with
                  resources := { state.hot.resources with gold := loaded.hot.resources.gold }
                  version := loaded.hot.version } }
            else state
      if accountId ≠ 0 ∧ row.accountId ≠ accountId then none else some state

/-- The places a character's gold goes through: the actors, the write-behind
cache of each world code, the database rows, and the states loaded for enters
that are not complete. -/
structure CharacterProgress where
  worldId : UInt16
  rows : Table UInt64 CharacterRow
  actors : Table UInt64 PlayerActor := Table.empty
  caches : UInt32 → WriteBehind := fun _ => {}
  loaded : Table UInt64 CharacterCoreState := Table.empty

namespace CharacterProgress

/-- The gold of a killed monster. -/
def rewardGold : UInt32 := 50

variable (recompute : CharacterCoreState → CharacterCombatRuntimeStats)

/-- `GetOrCreatePlayerActor`. -/
def actor (s : CharacterProgress) (charId : UInt64) : PlayerActor :=
  (s.actors charId).getD { charId }

def setActor (s : CharacterProgress) (charId : UInt64) (a : PlayerActor) : CharacterProgress :=
  { s with actors := s.actors.set charId a }

/-- `CacheCharacterState`. -/
def cacheCharacterState (s : CharacterProgress) (worldCode : UInt32) (charId : UInt64)
    (blob : Blob) : CharacterProgress :=
  let w := s.caches worldCode
  { s with
    caches := Function.update s.caches worldCode
      ((w.beginCache charId blob).endCache w.caching.length) }

/-- `TryLoadCharacterState`. -/
def tryLoadCharacterState (s : CharacterProgress) (worldCode : UInt32) (charId : UInt64) :
    Option Blob :=
  (s.caches worldCode).store.cache charId

/-- The changes a gameplay packet makes to an actor, other than gold. -/
inductive PlayerOp where
  | setCurrentHp (hp : UInt32)
  | setWorldPosition (zoneId mapId mapInstanceId : UInt32) (x y z : Int32) (heading : Int16)
  | bindSession (sid serial : UInt32)
deriving DecidableEq, Repr

def PlayerOp.apply (a : PlayerActor) : PlayerOp → PlayerActor
  | .setCurrentHp hp => a.setCurrentHp hp
  | .setWorldPosition zoneId mapId mapInstanceId x y z heading =>
      a.setWorldPosition zoneId mapId mapInstanceId x y z heading
  | .bindSession sid serial => a.bindSession sid serial

/-- `HandleWorldAddGold`, past the authentication. -/
def addGold (s : CharacterProgress) (charId : UInt64) (amount : UInt32) : CharacterProgress :=
  let a := (s.actor charId).addGold amount
  (s.setActor charId a).cacheCharacterState 0 charId a.serializePersistentState

/-- The loot task of a killed monster. -/
def lootMonster (s : CharacterProgress) (charId txId : UInt64) (dropItem dropCount : UInt32) :
    CharacterProgress :=
  let a := s.actor charId
  if a.canAddItem dropItem then
    s.setActor charId (a.commitLoot txId dropItem dropCount rewardGold)
  else s.setActor charId a

/-- The task of `BeginLeaveWorld_`: the connection is unbound, and the position
cleared if it is still the one that is left. -/
def leaveWorld (a : PlayerActor) (ctx : LeaveWorldContext) : PlayerActor :=
  let a := if isValidSessionKey ctx.sid ctx.serial then a.unbindSession ctx.sid ctx.serial else a
  if a.getZoneId.toUInt16 = ctx.zoneId ∧ a.getMapId = ctx.mapTemplateId ∧
      a.mapInstanceId = ctx.instanceId then a.clearWorldPosition
  else a

/-- `BeginLeaveWorld_`, as far as the player's actor is concerned. -/
def beginLeaveWorld (s : CharacterProgress) (ctx : LeaveWorldContext) : CharacterProgress :=
  if ctx.charId = 0 then s
  else s.setActor ctx.charId (leaveWorld (s.actor ctx.charId) ctx)

/-- `RequestCharacterEnterSnapshotLoad_` and what becomes of it: the worker
loads the snapshot, `OnCharacterEnterSnapshotResult_` accepts it. -/
def loadSnapshot (s : CharacterProgress) (accountId charId : UInt64) : CharacterProgress :=
  let blob := ((s.tryLoadCharacterState s.worldId.toUInt32 charId).getD []).take
    characterStateBlobMaxLen
  match loadCharacterEnterSnapshot s.rows accountId charId blob with
  | none => s
  | some state =>
      if state.identity.valid = false then s
      else { s with loaded := s.loaded.set charId (WorldRuntime.enteringCoreState state) }

/-- `CompleteEnterWorldSuccessAfterZoneAck_`, for the actor and the cache. -/
def completeEnter (s : CharacterProgress) (charId : UInt64) (sid serial : UInt32)
    (assignedZoneId : UInt16) (mapTemplateId instanceId : UInt32) : CharacterProgress :=
  match s.loaded charId with
  | none => s
  | some coreState =>
      let a := (s.actor charId).applyCharacterCoreState recompute coreState sid serial
        assignedZoneId mapTemplateId instanceId
      let s := { s with loaded := s.loaded.erase charId }.setActor charId a
      s.cacheCharacterState 0 charId (serializeDemo (fromCharacterCoreState coreState))

/-- What can happen next. -/
inductive Event where
  | addGold (charId : UInt64) (amount : UInt32)
  | lootMonster (charId txId : UInt64) (dropItem dropCount : UInt32)
  | gameplay (charId : UInt64) (op : PlayerOp)
  | beginLeaveWorld (ctx : LeaveWorldContext)
  | takeBatch (order : List UInt64) (maxBatch : Nat)
  | advanceFlush (k : Nat) (ok : Bool)
  | loadSnapshot (accountId charId : UInt64)
  | completeEnter (charId : UInt64) (sid serial : UInt32) (assignedZoneId : UInt16)
      (mapTemplateId instanceId : UInt32)
deriving DecidableEq, Repr

/-- A step of a flush of the world's own characters. -/
def flush (s : CharacterProgress) (e : WriteBehind.Event) : CharacterProgress :=
  { s with
    caches := Function.update s.caches s.worldId.toUInt32
      ((s.caches s.worldId.toUInt32).step e) }

def step (s : CharacterProgress) : Event → CharacterProgress
  | .addGold charId amount => s.addGold charId amount
  | .lootMonster charId txId dropItem dropCount => s.lootMonster charId txId dropItem dropCount
  | .gameplay charId op => s.setActor charId (op.apply (s.actor charId))
  | .beginLeaveWorld ctx => s.beginLeaveWorld ctx
  | .takeBatch order maxBatch => s.flush (.takeBatch order maxBatch)
  | .advanceFlush k ok => s.flush (.advance k ok)
  | .loadSnapshot accountId charId => s.loadSnapshot accountId charId
  | .completeEnter charId sid serial assignedZoneId mapTemplateId instanceId =>
      s.completeEnter recompute charId sid serial assignedZoneId mapTemplateId instanceId

/-- A world that has just started, with an empty Redis. -/
def start (worldId : UInt16) (rows : Table UInt64 CharacterRow) : CharacterProgress :=
  { worldId, rows }

/-! ## What an enter would load -/

omit recompute in
/-- The gold the loader takes from a blob; that of a fresh character if the
blob is not one of the character's. -/
def blobGold (charId : UInt64) (blob : Blob) : UInt32 :=
  match tryDeserializeDemo blob with
  | none => 1000
  | some raw => if raw.charId = charId then raw.gold else 1000

omit recompute in
/-- The gold an enter of the character would load now. -/
def loadable (s : CharacterProgress) (charId : UInt64) : UInt32 :=
  blobGold charId (((s.tryLoadCharacterState s.worldId.toUInt32 charId).getD []).take
    characterStateBlobMaxLen)

omit recompute in
/-- The loaded gold is that of the blob, for the character asked for. -/
theorem gold_of_loadCharacterEnterSnapshot {rows : Table UInt64 CharacterRow}
    {accountId charId : UInt64} {blob : Blob} {state : CharacterCoreState}
    (h : loadCharacterEnterSnapshot rows accountId charId blob = some state) :
    state.hot.resources.gold = blobGold charId blob ∧ state.identity.charId = charId := by
  simp only [loadCharacterEnterSnapshot] at h
  split at h
  · cases h
  next row hrow =>
    split_ifs at h
    cases h
    simp only [blobGold, tryDeserializeDemoCore]
    cases tryDeserializeDemo blob with
    | none => exact ⟨rfl, rfl⟩
    | some raw =>
        simp only [Option.map_some, toCharacterCoreState, makeDefaultCharacterCoreState]
        split_ifs <;> exact ⟨rfl, rfl⟩

omit recompute in
/-- What a sound actor persists is loaded as its gold. -/
theorem blobGold_serializePersistentState {a : PlayerActor} {charId : UInt64}
    (h : a.Sound charId) :
    blobGold charId (a.serializePersistentState.take characterStateBlobMaxLen) = a.getGold := by
  obtain ⟨raw, hraw, hid, hgold⟩ := h.serializePersistentState
  have hlength : a.serializePersistentState.length ≤ characterStateBlobMaxLen := by
    simp only [PlayerActor.serializePersistentState]
    split <;> simp [characterStateBlobMaxLen]
  rw [List.take_of_length_le hlength]
  simp only [blobGold, hraw, hid, if_true, hgold]

/-! ## What the operations touch -/

section Frame

omit recompute

theorem actor_setActor (s : CharacterProgress) (c c' : UInt64) (a : PlayerActor) :
    (s.setActor c a).actor c' = if c' = c then a else s.actor c' := by
  simp only [actor, setActor, Table.set_apply]
  split_ifs <;> rfl

/-- What was cached last is loaded, under the same world and character. -/
theorem tryLoad_cacheCharacterState (s : CharacterProgress) (w w' : UInt32) (c c' : UInt64)
    (blob : Blob) :
    (s.cacheCharacterState w c blob).tryLoadCharacterState w' c' =
      if w' = w ∧ c' = c then some blob else s.tryLoadCharacterState w' c' := by
  simp only [tryLoadCharacterState, cacheCharacterState, Function.update_apply]
  by_cases hw : w' = w
  · subst hw
    simp only [if_true, true_and, WriteBehind.cache_endCache_beginCache, Table.set_apply]
  · simp only [hw, if_false, false_and]

/-- A flush changes nothing that is loaded. -/
theorem tryLoad_flush (s : CharacterProgress) {e : WriteBehind.Event}
    (h : ∀ w : WriteBehind, (w.step e).store.cache = w.store.cache) (w : UInt32) (c : UInt64) :
    (s.flush e).tryLoadCharacterState w c = s.tryLoadCharacterState w c := by
  simp only [tryLoadCharacterState, flush, Function.update_apply]
  split_ifs with hw
  · rw [h, hw]
  · rfl

theorem worldId_eq_zero_of_toUInt32 {w : UInt16} (h : w.toUInt32 = 0) : w = 0 := by
  have hnat := congrArg UInt32.toNat h
  simp only [UInt16.toNat_toUInt32] at hnat
  exact UInt16.toNat_inj.mp hnat

/-- A state cached under world code 0 is what a world without an id loads,
and nothing to a world that has one. -/
theorem loadable_cacheCharacterState (s : CharacterProgress) (c c' : UInt64) (blob : Blob) :
    (s.cacheCharacterState 0 c blob).loadable c' =
      if s.worldId = 0 ∧ c' = c then blobGold c' (blob.take characterStateBlobMaxLen)
      else s.loadable c' := by
  have hworld : (s.cacheCharacterState 0 c blob).worldId = s.worldId := rfl
  have hzero : s.worldId.toUInt32 = 0 ↔ s.worldId = 0 :=
    ⟨worldId_eq_zero_of_toUInt32, fun h => by rw [h]; rfl⟩
  simp only [loadable, hworld, tryLoad_cacheCharacterState, hzero]
  split_ifs <;> rfl

end Frame

/-! ## Accounting -/

omit recompute in
/-- The uncarried gold of a character after an event. -/
def uncarriedAfter (s : CharacterProgress) (charId : UInt64) (gold : UInt32) : Event → UInt32
  | .addGold c amount =>
      if c = charId then (if s.worldId = 0 then 0 else gold + amount) else gold
  | .lootMonster c txId dropItem _ =>
      if c = charId ∧ (s.actor c).canAddItem dropItem ∧ (s.actor c).isNewLoot txId then
        gold + rewardGold
      else gold
  | .completeEnter c .. => if c = charId ∧ (s.loaded c).isSome then 0 else gold
  | _ => gold

omit recompute in
/-- The books of a character. -/
structure Accounted (s : CharacterProgress) (charId : UInt64) (gold : UInt32) : Prop where
  sound : ∀ c, (s.actor c).Sound c
  loadedFor : ∀ c core, s.loaded c = some core → core.identity.charId = c
  /-- Nothing is ever cached where a world with an id looks. -/
  elsewhere : s.worldId ≠ 0 → (∀ c, s.tryLoadCharacterState s.worldId.toUInt32 c = none) ∧
    ∀ c core, s.loaded c = some core → core.hot.resources.gold = 1000
  balance : s.loadable charId + gold = (s.actor charId).getGold

section Steps

variable {s : CharacterProgress} {charId : UInt64} {gold : UInt32}

omit recompute

/-- An operation of an actor. -/
theorem Accounted.setActor (h : Accounted s charId gold) {c : UInt64} {n : UInt32}
    {a : PlayerActor} (hgains : PlayerActor.Gains n (s.actor c) a) :
    Accounted (s.setActor c a) charId (if c = charId then gold + n else gold) where
  sound c' := by
    rw [actor_setActor]
    split_ifs with hc
    · exact hc ▸ hgains.sound (h.sound c)
    · exact h.sound c'
  loadedFor := h.loadedFor
  elsewhere := h.elsewhere
  balance := by
    have hload : (s.setActor c a).loadable charId = s.loadable charId := rfl
    rw [hload, actor_setActor]
    by_cases hc : c = charId
    · subst hc
      rw [if_pos rfl, if_pos rfl, hgains.getGold (h.sound c), ← h.balance, UInt32.add_assoc]
    · rw [if_neg hc, if_neg (Ne.symm hc), h.balance]

theorem Accounted.setActor_same (h : Accounted s charId gold) {c : UInt64} {a : PlayerActor}
    (hgains : PlayerActor.Gains 0 (s.actor c) a) : Accounted (s.setActor c a) charId gold := by
  simpa using h.setActor hgains

/-- The state of an actor is cached under world code 0. -/
theorem Accounted.cache (h : Accounted s charId gold) {c : UInt64} {blob : Blob}
    (hblob : blobGold c (blob.take characterStateBlobMaxLen) = (s.actor c).getGold) :
    Accounted (s.cacheCharacterState 0 c blob) charId
      (if c = charId ∧ s.worldId = 0 then 0 else gold) where
  sound := h.sound
  loadedFor := h.loadedFor
  elsewhere hworld := by
    refine ⟨fun c' => ?_, (h.elsewhere hworld).2⟩
    rw [tryLoad_cacheCharacterState, if_neg]
    · exact (h.elsewhere hworld).1 c'
    · exact fun hzero => hworld (worldId_eq_zero_of_toUInt32 hzero.1)
  balance := by
    have hactor : (s.cacheCharacterState 0 c blob).actor charId = s.actor charId := rfl
    rw [loadable_cacheCharacterState, hactor]
    by_cases hc : c = charId ∧ s.worldId = 0
    · obtain ⟨rfl, hworld⟩ := hc
      rw [if_pos ⟨hworld, rfl⟩, if_pos ⟨rfl, hworld⟩, hblob, UInt32.add_zero]
    · rw [if_neg hc, if_neg fun hc' => hc ⟨hc'.2.symm, hc'.1⟩, h.balance]

/-- Steps that leave the actors and the cached blobs alone. -/
theorem Accounted.congr (h : Accounted s charId gold) {s' : CharacterProgress}
    (hworld : s'.worldId = s.worldId) (hactors : s'.actors = s.actors)
    (hcache : ∀ w c, s'.tryLoadCharacterState w c = s.tryLoadCharacterState w c)
    (hloaded : ∀ c core, s'.loaded c = some core → core.identity.charId = c ∧
      (s.worldId ≠ 0 → core.hot.resources.gold = 1000)) :
    Accounted s' charId gold where
  sound c := by
    simp only [actor, hactors]
    exact h.sound c
  loadedFor c core hc := (hloaded c core hc).1
  elsewhere hne := by
    rw [hworld] at hne
    refine ⟨fun c => ?_, fun c core hc => (hloaded c core hc).2 hne⟩
    rw [hcache, hworld]
    exact (h.elsewhere hne).1 c
  balance := by
    have hbalance := h.balance
    simp only [loadable, actor, hactors, hcache, hworld] at hbalance ⊢
    exact hbalance

/-- What is loaded for an enter is what was loadable. -/
theorem loaded_loadSnapshot {accountId c : UInt64} {core : CharacterCoreState} {c' : UInt64}
    (hcore : (s.loadSnapshot accountId c).loaded c' = some core) :
    s.loaded c' = some core ∨
      (c' = c ∧ core.identity.charId = c ∧ core.hot.resources.gold = s.loadable c) := by
  simp only [loadSnapshot] at hcore
  split at hcore
  · exact .inl hcore
  next state hstate =>
    split_ifs at hcore
    · exact .inl hcore
    · simp only [Table.set_apply] at hcore
      split_ifs at hcore with hc
      · cases hcore
        obtain ⟨hgold, hid⟩ := gold_of_loadCharacterEnterSnapshot hstate
        exact .inr ⟨hc, hid, hgold⟩
      · exact .inl hcore

/-- A load changes no amount. -/
theorem Accounted.loadSnapshot (h : Accounted s charId gold) (accountId c : UInt64) :
    Accounted (s.loadSnapshot accountId c) charId gold := by
  have hframe : (s.loadSnapshot accountId c).worldId = s.worldId ∧
      (s.loadSnapshot accountId c).actors = s.actors ∧
      (s.loadSnapshot accountId c).caches = s.caches := by
    simp only [CharacterProgress.loadSnapshot]
    split
    · exact ⟨rfl, rfl, rfl⟩
    · split_ifs <;> exact ⟨rfl, rfl, rfl⟩
  obtain ⟨hworld, hactors, hcaches⟩ := hframe
  refine h.congr hworld hactors (fun _ _ => by simp only [tryLoadCharacterState, hcaches]) ?_
  intro c' core hcore
  rcases loaded_loadSnapshot hcore with hold | ⟨rfl, hid, hgold⟩
  · exact ⟨h.loadedFor c' core hold, fun hne => (h.elsewhere hne).2 c' core hold⟩
  · refine ⟨hid, fun hne => ?_⟩
    rw [hgold, loadable, (h.elsewhere hne).1]
    rfl

/-- A flush changes no blob. -/
theorem Accounted.flush (h : Accounted s charId gold) {e : WriteBehind.Event}
    (hcache : ∀ w : WriteBehind, (w.step e).store.cache = w.store.cache) :
    Accounted (s.flush e) charId gold :=
  h.congr rfl rfl (tryLoad_flush s hcache) fun c core hc =>
    ⟨h.loadedFor c core hc, fun hne => (h.elsewhere hne).2 c core hc⟩

end Steps

theorem gains_playerOp (a : PlayerActor) (op : PlayerOp) : PlayerActor.Gains 0 a (op.apply a) := by
  cases op with
  | setCurrentHp hp => exact PlayerActor.gains_setCurrentHp hp
  | setWorldPosition => exact PlayerActor.gains_setWorldPosition _ _ _ _ _ _ _
  | bindSession sid serial => exact PlayerActor.gains_bindSession sid serial

/-- A leave gains nothing. -/
theorem gains_leaveWorld (a : PlayerActor) (ctx : LeaveWorldContext) :
    PlayerActor.Gains 0 a (leaveWorld a ctx) := by
  simp only [leaveWorld]
  generalize hunbound : (if isValidSessionKey ctx.sid ctx.serial then
    a.unbindSession ctx.sid ctx.serial else a) = a'
  have hgains : PlayerActor.Gains 0 a a' := by
    subst hunbound
    split_ifs
    · exact PlayerActor.gains_unbindSession _ _
    · exact PlayerActor.gains_refl a
  split_ifs
  · exact hgains.then PlayerActor.gains_clearWorldPosition
  · exact hgains

/-- The installed actor is sound and has the loaded gold. -/
theorem sound_applyCharacterCoreState {a : PlayerActor} {c : UInt64} {core : CharacterCoreState}
    (ha : a.Sound c) (hid : core.identity.charId = c) (sid serial : UInt32)
    (assignedZoneId : UInt16) (mapTemplateId instanceId : UInt32) :
    (a.applyCharacterCoreState recompute core sid serial assignedZoneId mapTemplateId
        instanceId).Sound c ∧
      (a.applyCharacterCoreState recompute core sid serial assignedZoneId mapTemplateId
        instanceId).getGold = core.hot.resources.gold := by
  have hbase : PlayerActor.Sound { a with coreState := some core } c := ⟨ha.charId, hid, nofun⟩
  have hgains := PlayerActor.gains_applyCharacterCoreState (a := a) recompute core sid serial
    assignedZoneId mapTemplateId instanceId
  exact ⟨hgains.sound hbase, (hgains.getGold hbase).trans (UInt32.add_zero _)⟩

/-- The completion of an enter installs what was loaded, and caches it. -/
theorem Accounted.completeEnter {s : CharacterProgress} {charId : UInt64} {gold : UInt32}
    (h : Accounted s charId gold) {c : UInt64} {core : CharacterCoreState}
    (hcore : s.loaded c = some core) (sid serial : UInt32) (assignedZoneId : UInt16)
    (mapTemplateId instanceId : UInt32) :
    Accounted (s.completeEnter recompute c sid serial assignedZoneId mapTemplateId instanceId)
      charId (if c = charId then 0 else gold) := by
  obtain ⟨hsound, hgold⟩ := sound_applyCharacterCoreState recompute (h.sound c)
    (h.loadedFor c core hcore) sid serial assignedZoneId mapTemplateId instanceId
  simp only [CharacterProgress.completeEnter, hcore]
  set a := (s.actor c).applyCharacterCoreState recompute core sid serial assignedZoneId
    mapTemplateId instanceId
  -- Before the cache write the books are out by what the actor has lost or won.
  have hinstalled : Accounted ({ s with loaded := s.loaded.erase c }.setActor c a) charId
      (if c = charId then core.hot.resources.gold - s.loadable charId else gold) := by
    refine ⟨fun c' => ?_, fun c' core' hc' => ?_, fun hne => ⟨(h.elsewhere hne).1, ?_⟩, ?_⟩
    · rw [actor_setActor]
      split_ifs with hc
      · exact hc ▸ hsound
      · exact h.sound c'
    · exact h.loadedFor c' core' (Table.erase_eq_some_iff.mp hc').2
    · intro c' core' hc'
      exact (h.elsewhere hne).2 c' core' (Table.erase_eq_some_iff.mp hc').2
    · rw [actor_setActor]
      by_cases hc : c = charId
      · subst hc
        rw [if_pos rfl, if_pos rfl, hgold]
        have hload : ({ s with loaded := s.loaded.erase c }.setActor c a).loadable c =
          s.loadable c := rfl
        rw [hload]
        grind
      · rw [if_neg hc, if_neg (Ne.symm hc)]
        exact h.balance
  have hblob : blobGold c ((serializeDemo (fromCharacterCoreState core)).take
      characterStateBlobMaxLen) =
        (({ s with loaded := s.loaded.erase c }.setActor c a).actor c).getGold := by
    rw [actor_setActor, if_pos rfl, hgold, List.take_of_length_le (by simp [characterStateBlobMaxLen])]
    simp [blobGold, fromCharacterCoreState, h.loadedFor c core hcore]
  have hcached := hinstalled.cache hblob
  by_cases hc : c = charId
  · subst hc
    by_cases hworld : s.worldId = 0
    · simpa [hworld, CharacterProgress.setActor] using hcached
    · have hfresh : s.loadable c = 1000 := by
        rw [loadable, (h.elsewhere hworld).1]
        rfl
      have hloaded := (h.elsewhere hworld).2 c core hcore
      simpa [hworld, hfresh, hloaded, CharacterProgress.setActor] using hcached
  · simpa [hc] using hcached

/-- The step lemma: what is uncarried is what was gained since the last save. -/
theorem accounted_step {s : CharacterProgress} {charId : UInt64} {gold : UInt32}
    (h : Accounted s charId gold) (e : Event) :
    Accounted (s.step recompute e) charId (s.uncarriedAfter charId gold e) := by
  cases e with
  | addGold c amount =>
      have hgains := PlayerActor.gains_addGold (a := s.actor c) amount
      have hpaid := h.setActor hgains
      have hblob : blobGold c ((((s.actor c).addGold amount).serializePersistentState).take
          characterStateBlobMaxLen) =
            ((s.setActor c ((s.actor c).addGold amount)).actor c).getGold := by
        rw [actor_setActor, if_pos rfl]
        exact blobGold_serializePersistentState (hgains.sound (h.sound c))
      have hacc : s.uncarriedAfter charId gold (.addGold c amount) =
          if c = charId ∧ s.worldId = 0 then 0 else if c = charId then gold + amount else gold := by
        simp only [uncarriedAfter]
        by_cases hc : c = charId <;> simp [hc]
      rw [hacc]
      exact hpaid.cache hblob
  | lootMonster c txId dropItem dropCount =>
      simp only [step, lootMonster, uncarriedAfter]
      by_cases hroom : (s.actor c).canAddItem dropItem
      · have hlooted := h.setActor
          (PlayerActor.gains_commitLoot (a := s.actor c) txId dropItem dropCount rewardGold)
        by_cases hc : c = charId <;> by_cases hnew : (s.actor c).isNewLoot txId <;>
          simp_all
      · simpa [hroom] using h.setActor_same (PlayerActor.gains_refl (s.actor c))
  | gameplay c op =>
      have hgains := gains_playerOp (s.actor c) op
      exact h.setActor_same hgains
  | beginLeaveWorld ctx =>
      simp only [step, beginLeaveWorld, uncarriedAfter]
      split_ifs
      · exact h
      · exact h.setActor_same (gains_leaveWorld _ ctx)
  | takeBatch order maxBatch =>
      exact h.flush fun w => w.cache_takeBatch order maxBatch
  | advanceFlush k ok => exact h.flush fun w => w.cache_advance k ok
  | loadSnapshot accountId c => exact h.loadSnapshot accountId c
  | completeEnter c sid serial assignedZoneId mapTemplateId instanceId =>
      simp only [step, uncarriedAfter]
      cases hcore : s.loaded c with
      | none => simpa [CharacterProgress.completeEnter, hcore] using h
      | some core =>
          simpa using h.completeEnter recompute hcore sid serial assignedZoneId mapTemplateId
            instanceId

/-- A loot task changes nothing but actors. -/
theorem exists_lootMonster_eq (s : CharacterProgress) (charId txId : UInt64)
    (dropItem dropCount : UInt32) :
    ∃ actors, s.lootMonster charId txId dropItem dropCount = { s with actors } := by
  unfold lootMonster
  dsimp only
  split_ifs <;> exact ⟨_, rfl⟩

/-- Neither does a leave. -/
theorem exists_beginLeaveWorld_eq (s : CharacterProgress) (ctx : LeaveWorldContext) :
    ∃ actors, s.beginLeaveWorld ctx = { s with actors } := by
  unfold beginLeaveWorld
  split_ifs <;> exact ⟨_, rfl⟩

/-- A snapshot that is loaded is one of its character. -/
theorem exists_loadSnapshot_eq (s : CharacterProgress) (accountId charId : UInt64) :
    ∃ loaded, s.loadSnapshot accountId charId = { s with loaded } ∧
      ∀ c ≠ charId, loaded c = s.loaded c := by
  unfold loadSnapshot
  dsimp only
  split
  · exact ⟨_, rfl, fun _ _ => rfl⟩
  · split_ifs
    · exact ⟨_, rfl, fun _ _ => rfl⟩
    · exact ⟨_, rfl, fun _ hc => Table.set_of_ne _ _ hc⟩

/-- The rows and the world id are never written. -/
theorem frame_step (s : CharacterProgress) (e : Event) :
    (s.step recompute e).rows = s.rows ∧ (s.step recompute e).worldId = s.worldId := by
  cases e with
  | addGold c amount => exact ⟨rfl, rfl⟩
  | lootMonster c txId dropItem dropCount =>
      obtain ⟨actors, hloot⟩ := s.exists_lootMonster_eq c txId dropItem dropCount
      rw [step, hloot]
      exact ⟨rfl, rfl⟩
  | gameplay c op => exact ⟨rfl, rfl⟩
  | beginLeaveWorld ctx =>
      obtain ⟨actors, hleave⟩ := s.exists_beginLeaveWorld_eq ctx
      rw [step, hleave]
      exact ⟨rfl, rfl⟩
  | takeBatch order maxBatch => exact ⟨rfl, rfl⟩
  | advanceFlush k ok => exact ⟨rfl, rfl⟩
  | loadSnapshot accountId c =>
      obtain ⟨loaded, hload, -⟩ := s.exists_loadSnapshot_eq accountId c
      rw [step, hload]
      exact ⟨rfl, rfl⟩
  | completeEnter c sid serial assignedZoneId mapTemplateId instanceId =>
      simp only [step, completeEnter]
      split <;> exact ⟨rfl, rfl⟩

/-- A database with character 11 of account 100. -/
def oneCharacter : Table UInt64 CharacterRow := Table.empty.set 11 { accountId := 100 }

end CharacterProgress

end GameServer
