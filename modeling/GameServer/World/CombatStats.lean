import GameServer.Data.LevelTable
import GameServer.World.ActorProjections

/-!
# GameServer.World.CombatStats

The combat stats of a character, from its level, its job, its tribe and its
equipment.

* `buildItemStatBonus` — the bonus of the equipment (`item_stat_provider.cpp`);
* `recomputeCombatStats` — the stats (`character_combat_stat_calculator.cpp`);
* `statsOf_iff` — the same as sums;
* `statsOf_loadLegacyLevelTable_congr` — of the level file, they read the last
  line of the level;
* `always_fresh_iff` — when the stats of an actor are those of its character.

The sums are taken in a word of 32 bits: tables with large numbers make them
wrap.
-/

namespace GameServer

open Data

/-! ## The bonus of the equipment -/

/-- `ItemStatBonus`. -/
structure ItemStatBonus where
  matchedTemplate : Bool := false
  attack : UInt32 := 0
  defense : UInt32 := 0
  life : UInt32 := 0
  mana : UInt32 := 0
deriving DecidableEq, Repr

/-- `n > 0 ? n : 0`, as an unsigned number. -/
def positivePart (n : Int32) : UInt32 := if 0 < n then n.toUInt32 else 0

/-- The numbers of a template are added. -/
def ItemStatBonus.add (out : ItemStatBonus) (templ : ItemTemplate) : ItemStatBonus where
  matchedTemplate := true
  attack := out.attack + positivePart templ.attack
  defense := out.defense + positivePart templ.defense
  life := out.life + positivePart templ.life
  mana := out.mana + positivePart templ.mana

/-- `AccumulateFromTemplate_`. -/
def accumulateFromTemplate (items : ItemTemplateTable) (out : ItemStatBonus) (itemId : UInt32) :
    ItemStatBonus :=
  if itemId = 0 then out
  else
    match items.find itemId with
    | none => out
    | some templ => out.add templ

/-- `BuildItemStatBonus`. -/
def buildItemStatBonus (items : ItemTemplateTable) (equip : EquipSummary) : ItemStatBonus :=
  [equip.weaponTemplateId, equip.armorTemplateId, equip.costumeTemplateId,
    equip.accessoryTemplateId].foldl (accumulateFromTemplate items) {}

/-- `FallbackEquipAttackBonus_`. -/
def fallbackEquipAttackBonus (equip : EquipSummary) : UInt32 :=
  (if equip.weaponTemplateId ≠ 0 then 5 else 0) + if equip.accessoryTemplateId ≠ 0 then 1 else 0

/-- `FallbackEquipDefenseBonus_`. -/
def fallbackEquipDefenseBonus (equip : EquipSummary) : UInt32 :=
  (if equip.armorTemplateId ≠ 0 then 4 else 0) + if equip.costumeTemplateId ≠ 0 then 1 else 0

/-- `FallbackEquipHpBonus_`. -/
def fallbackEquipHpBonus (equip : EquipSummary) : UInt32 :=
  if equip.armorTemplateId ≠ 0 then 25 else 0

/-- `FallbackEquipMpBonus_`. -/
def fallbackEquipMpBonus (equip : EquipSummary) : UInt32 :=
  if equip.accessoryTemplateId ≠ 0 then 15 else 0

/-! ## The stats -/

/-- `ToLegacyTribeIndex_`. -/
def toLegacyTribeIndex (tribe : UInt16) : Fin 3 :=
  if h : tribe.toNat ≤ 2 then ⟨tribe.toNat, Nat.lt_succ_of_le h⟩ else 0

/-- A bonus of the jobs 1, 2 and 3. -/
def jobBonus (first second third : UInt32) (job : UInt16) : UInt32 :=
  if job = 1 then first else if job = 2 then second else if job = 3 then third else 0

/-- `JobAttackBonus_`. -/
def jobAttackBonus : UInt16 → UInt32 := jobBonus 4 2 1

/-- `JobDefenseBonus_`. -/
def jobDefenseBonus : UInt16 → UInt32 := jobBonus 1 2 4

/-- `JobHpBonus_`. -/
def jobHpBonus : UInt16 → UInt32 := jobBonus 20 10 15

/-- `JobMpBonus_`. -/
def jobMpBonus : UInt16 → UInt32 := jobBonus 5 20 10

/-- `TribeAttackBonus_`. -/
def tribeAttackBonus (tribe : UInt16) : UInt32 := if tribe = 0 then 0 else 1

/-- A bonus of the level: a column of its row, else a rule for the levels above
the first. -/
def levelBonus (column : LegacyLevelEntry → Fin 3 → UInt32) (rule : UInt32 → UInt32)
    (levels : LegacyLevelTable) (level : UInt32) (tribe : UInt16) : UInt32 :=
  match levels.find level with
  | some row => column row (toLegacyTribeIndex tribe)
  | none => if 0 < level then rule (level - 1) else 0

/-- `LevelAttackBonus_`. -/
def levelAttackBonus : LegacyLevelTable → UInt32 → UInt16 → UInt32 := levelBonus (·.attack) id

/-- `LevelDefenseBonus_`. -/
def levelDefenseBonus : LegacyLevelTable → UInt32 → UInt16 → UInt32 :=
  levelBonus (·.defense) (· / 2)

/-- `LevelLifeBonus_`. -/
def levelLifeBonus : LegacyLevelTable → UInt32 → UInt16 → UInt32 := levelBonus (·.life) (· * 6)

/-- `LevelManaBonus_`. -/
def levelManaBonus : LegacyLevelTable → UInt32 → UInt16 → UInt32 := levelBonus (·.mana) (· * 4)

/-- `RecomputeCombatStats`. -/
def recomputeCombatStats (items : ItemTemplateTable) (levels : LegacyLevelTable)
    (core : CharacterCoreState) : CharacterCombatRuntimeStats :=
  let safeLevel := max 1 core.identity.level
  let job := core.identity.job
  let tribe := core.identity.tribe
  let bonus := buildItemStatBonus items core.equip
  let equipBonus (found fallback : UInt32) : UInt32 :=
    if bonus.matchedTemplate then found else fallback
  { maxHp := 100 + levelLifeBonus levels safeLevel tribe + jobHpBonus job +
      equipBonus bonus.life (fallbackEquipHpBonus core.equip)
    maxMp := 100 + levelManaBonus levels safeLevel tribe + jobMpBonus job +
      equipBonus bonus.mana (fallbackEquipMpBonus core.equip)
    atk := 20 + levelAttackBonus levels safeLevel tribe + jobAttackBonus job +
      tribeAttackBonus tribe + equipBonus bonus.attack (fallbackEquipAttackBonus core.equip)
    defense := 3 + levelDefenseBonus levels safeLevel tribe + jobDefenseBonus job +
      equipBonus bonus.defense (fallbackEquipDefenseBonus core.equip) }

/-! ## The stats as sums -/

/-- The templates of what a character has on. -/
def equipped (items : ItemTemplateTable) (equip : EquipSummary) : List ItemTemplate :=
  [equip.weaponTemplateId, equip.armorTemplateId, equip.costumeTemplateId,
    equip.accessoryTemplateId].filterMap fun itemId =>
      if itemId = 0 then none else items.find itemId

/-- What the equipment adds: the positive numbers of its templates, or a fallback if
it has none. -/
def equipSum (items : ItemTemplateTable) (equip : EquipSummary) (column : ItemTemplate → Int32)
    (fallback : UInt32) : Nat :=
  if equipped items equip = [] then fallback.toNat
  else ((equipped items equip).map fun templ => (column templ).toInt.toNat).sum

/-- The stats are the sums, in a word. -/
structure StatsOf (items : ItemTemplateTable) (levels : LegacyLevelTable)
    (core : CharacterCoreState) (stats : CharacterCombatRuntimeStats) : Prop where
  maxHp : stats.maxHp.toNat = (100 +
    (levelLifeBonus levels (max 1 core.identity.level) core.identity.tribe).toNat +
    (jobHpBonus core.identity.job).toNat +
    equipSum items core.equip (·.life) (fallbackEquipHpBonus core.equip)) % 2 ^ 32
  maxMp : stats.maxMp.toNat = (100 +
    (levelManaBonus levels (max 1 core.identity.level) core.identity.tribe).toNat +
    (jobMpBonus core.identity.job).toNat +
    equipSum items core.equip (·.mana) (fallbackEquipMpBonus core.equip)) % 2 ^ 32
  atk : stats.atk.toNat = (20 +
    (levelAttackBonus levels (max 1 core.identity.level) core.identity.tribe).toNat +
    (jobAttackBonus core.identity.job).toNat + (tribeAttackBonus core.identity.tribe).toNat +
    equipSum items core.equip (·.attack) (fallbackEquipAttackBonus core.equip)) % 2 ^ 32
  defense : stats.defense.toNat = (3 +
    (levelDefenseBonus levels (max 1 core.identity.level) core.identity.tribe).toNat +
    (jobDefenseBonus core.identity.job).toNat +
    equipSum items core.equip (·.defense) (fallbackEquipDefenseBonus core.equip)) % 2 ^ 32

/-- A negative bonus counts as zero. -/
theorem toNat_positivePart (n : Int32) : (positivePart n).toNat = n.toInt.toNat := by
  rw [positivePart]
  split
  next hpos =>
    rw [Int32.toNat_toUInt32_of_le (Int32.le_of_lt hpos), Int32.toNat_toInt]
  next hneg =>
    have hle : n.toInt ≤ 0 := Int32.le_iff_toInt_le.mp (Int32.not_lt.mp hneg)
    exact (Int.toNat_of_nonpos hle).symm

/-- The bonus of some items is the bonus of their templates. -/
theorem foldl_accumulateFromTemplate (items : ItemTemplateTable) (ids : List UInt32)
    (out : ItemStatBonus) :
    ids.foldl (accumulateFromTemplate items) out =
      (ids.filterMap fun itemId => if itemId = 0 then none else items.find itemId).foldl
        ItemStatBonus.add out := by
  induction ids generalizing out with
  | nil => rfl
  | cons itemId ids ih =>
      rw [List.foldl_cons, ih, accumulateFromTemplate, List.filterMap_cons]
      by_cases hzero : itemId = 0
      · rw [if_pos hzero, if_pos hzero]
      · rw [if_neg hzero, if_neg hzero]
        cases items.find itemId with
        | none => rfl
        | some templ => rfl

theorem matchedTemplate_foldl_add (found : List ItemTemplate) (out : ItemStatBonus) :
    (found.foldl ItemStatBonus.add out).matchedTemplate =
      (out.matchedTemplate || !found.isEmpty) := by
  induction found generalizing out with
  | nil => exact (Bool.or_false _).symm
  | cons templ found ih => rw [List.foldl_cons, ih]; exact (Bool.or_true _).symm

/-- One number of the bonus. -/
theorem toNat_foldl_add {word : ItemStatBonus → UInt32} {column : ItemTemplate → Int32}
    (h : ∀ out templ, word (out.add templ) = word out + positivePart (column templ))
    (found : List ItemTemplate) (out : ItemStatBonus) :
    (word (found.foldl ItemStatBonus.add out)).toNat =
      ((word out).toNat + (found.map fun templ => (column templ).toInt.toNat).sum) % 2 ^ 32 := by
  induction found generalizing out with
  | nil => exact (Nat.mod_eq_of_lt (word out).toNat_lt).symm
  | cons templ found ih =>
      rw [List.foldl_cons, ih, h, UInt32.toNat_add, toNat_positivePart, List.map_cons,
        List.sum_cons, Nat.mod_add_mod, Nat.add_assoc]

/-- The number that the equipment adds. -/
theorem toNat_equipBonus (word : ItemStatBonus → UInt32) (column : ItemTemplate → Int32)
    (h : ∀ out templ, word (out.add templ) = word out + positivePart (column templ))
    (hzero : word {} = 0) (items : ItemTemplateTable) (equip : EquipSummary) (fallback : UInt32) :
    (if (buildItemStatBonus items equip).matchedTemplate then
      word (buildItemStatBonus items equip) else fallback).toNat =
        equipSum items equip column fallback % 2 ^ 32 := by
  have hbuild : buildItemStatBonus items equip = (equipped items equip).foldl
      ItemStatBonus.add {} := foldl_accumulateFromTemplate items _ {}
  rw [hbuild, matchedTemplate_foldl_add, equipSum, Bool.false_or]
  cases hfound : equipped items equip with
  | nil => exact (Nat.mod_eq_of_lt fallback.toNat_lt).symm
  | cons templ found =>
      have hsum := toNat_foldl_add h (templ :: found) {}
      rw [hzero, UInt32.toNat_zero, Nat.zero_add] at hsum
      exact hsum

/-- The recomputed stats are the sums, wrapped to a word. -/
theorem statsOf_recomputeCombatStats (items : ItemTemplateTable) (levels : LegacyLevelTable)
    (core : CharacterCoreState) :
    StatsOf items levels core (recomputeCombatStats items levels core) := by
  have hlife := toNat_equipBonus (·.life) (·.life) (fun _ _ => rfl) rfl items core.equip
  have hmana := toNat_equipBonus (·.mana) (·.mana) (fun _ _ => rfl) rfl items core.equip
  have hattack := toNat_equipBonus (·.attack) (·.attack) (fun _ _ => rfl) rfl items core.equip
  have hdefense := toNat_equipBonus (·.defense) (·.defense) (fun _ _ => rfl) rfl items core.equip
  refine ⟨?_, ?_, ?_, ?_⟩
  · simp only [recomputeCombatStats, UInt32.toNat_add, hlife]
    simp [Nat.add_assoc]
  · simp only [recomputeCombatStats, UInt32.toNat_add, hmana]
    simp [Nat.add_assoc]
  · simp only [recomputeCombatStats, UInt32.toNat_add, hattack]
    simp [Nat.add_assoc]
  · simp only [recomputeCombatStats, UInt32.toNat_add, hdefense]
    simp [Nat.add_assoc]

/-- The sums leave no choice. -/
theorem statsOf_iff {items : ItemTemplateTable} {levels : LegacyLevelTable}
    {core : CharacterCoreState} {stats : CharacterCombatRuntimeStats} :
    StatsOf items levels core stats ↔ stats = recomputeCombatStats items levels core := by
  have hstats := statsOf_recomputeCombatStats items levels core
  constructor
  · intro h
    have hmaxHp := UInt32.toNat_inj.mp (h.maxHp.trans hstats.maxHp.symm)
    have hmaxMp := UInt32.toNat_inj.mp (h.maxMp.trans hstats.maxMp.symm)
    have hatk := UInt32.toNat_inj.mp (h.atk.trans hstats.atk.symm)
    have hdefense := UInt32.toNat_inj.mp (h.defense.trans hstats.defense.symm)
    cases stats
    exact (CharacterCombatRuntimeStats.mk.injEq ..).mpr ⟨hmaxHp, hmaxMp, hatk, hdefense⟩
  · rintro rfl
    exact hstats

/-- Of the level table, the stats read the row of the level. -/
theorem recomputeCombatStats_congr {items : ItemTemplateTable} {levels levels' : LegacyLevelTable}
    {core : CharacterCoreState}
    (h : levels.find (max 1 core.identity.level) = levels'.find (max 1 core.identity.level)) :
    recomputeCombatStats items levels core = recomputeCombatStats items levels' core := by
  simp only [recomputeCombatStats, levelLifeBonus, levelManaBonus, levelAttackBonus,
    levelDefenseBonus, levelBonus, h]

/-- Two level files that end alike for each level give the same stats. -/
theorem statsOf_loadLegacyLevelTable_congr {items : ItemTemplateTable} {longBits : Nat}
    {file file' : Option (List Char)} {core : CharacterCoreState}
    {stats : CharacterCombatRuntimeStats}
    (h : ∀ level, lastLevelRow ((dataLines file).map (parseLevelLine longBits)) level =
      lastLevelRow ((dataLines file').map (parseLevelLine longBits)) level) :
    StatsOf items (loadLegacyLevelTable longBits file) core stats ↔
      StatsOf items (loadLegacyLevelTable longBits file') core stats := by
  have hfind : (loadLegacyLevelTable longBits file).find (max 1 core.identity.level) =
      (loadLegacyLevelTable longBits file').find (max 1 core.identity.level) := by
    rw [find_loadLegacyLevelTable, find_loadLegacyLevelTable, h]
  rw [statsOf_iff, statsOf_iff, recomputeCombatStats_congr hfind]

/-! ## The stats of an actor -/

namespace PlayerActor

variable {items : ItemTemplateTable} {levels : LegacyLevelTable} {core : CharacterCoreState}
  {a : PlayerActor}

/-- The actor's stats are those of its level, job, tribe and equipment. -/
def Fresh (items : ItemTemplateTable) (levels : LegacyLevelTable) (a : PlayerActor) : Prop :=
  ∃ core, a.coreState = some core ∧ StatsOf items levels core core.combatStats

/-- Stats that come from outside are the character's own. -/
def KeepsFresh (items : ItemTemplateTable) (levels : LegacyLevelTable) (a : PlayerActor) :
    ActorOp → Prop
  | .applyCombatRuntimeStats stats _ => StatsOf items levels a.core stats
  | _ => True

/-- The core state is `core` but for its hot part. -/
def HotOnly (core : CharacterCoreState) (a : PlayerActor) : Prop :=
  ∃ hot, a.coreState = some { core with hot }

theorem HotOnly.modifyHot (h : a.HotOnly core)
    (f : CharacterRuntimeHotState → CharacterRuntimeHotState) : (a.modifyHot f).HotOnly core := by
  obtain ⟨hot, hcore⟩ := h
  refine ⟨f hot, ?_⟩
  rw [PlayerActor.modifyHot, modifyCore, PlayerActor.core, hcore]
  rfl

theorem HotOnly.syncCombat (h : a.HotOnly core) :
    a.syncCombatProjectionFromAuthoritative.HotOnly core := by
  obtain ⟨hot, hcore⟩ := h
  simp only [syncCombatProjectionFromAuthoritative, hcore, PlayerActor.modifyHot, modifyCore,
    PlayerActor.core, Option.getD_some]
  exact ⟨_, rfl⟩

theorem HotOnly.sync (h : a.HotOnly core) : a.syncProjectionFromCoreState.HotOnly core := by
  obtain ⟨hot, hcore⟩ := h
  simp only [syncProjectionFromCoreState, hcore]
  exact HotOnly.syncCombat ⟨hot, rfl⟩

theorem HotOnly.markHotDirty (h : a.HotOnly core) (flags : CharacterDirtyFlags) :
    (a.markHotDirty flags).HotOnly core :=
  h.modifyHot _

/-- A change of the hot state that is marked and synchronised. -/
theorem HotOnly.marked (h : a.HotOnly core)
    (f : CharacterRuntimeHotState → CharacterRuntimeHotState) (flags : CharacterDirtyFlags) :
    ((a.modifyHot f).markHotDirty flags).syncProjectionFromCoreState.HotOnly core :=
  ((h.modifyHot f).markHotDirty flags).sync

theorem HotOnly.bindSession (h : a.HotOnly core) (sid serial : UInt32) :
    (a.bindSession sid serial).HotOnly core := by
  obtain ⟨hot, hcore⟩ := h
  simp only [PlayerActor.bindSession, hcore]
  exact HotOnly.sync (HotOnly.modifyHot ⟨hot, rfl⟩ _)

/-- Unbinding a session changes no more than the hot part. -/
theorem HotOnly.unbindSession (h : a.HotOnly core) (sid serial : UInt32) :
    (a.unbindSession sid serial).HotOnly core := by
  simp only [PlayerActor.unbindSession]
  split_ifs
  · exact h
  · obtain ⟨hot, hcore⟩ := h
    simp only [hcore]
    exact HotOnly.markHotDirty (HotOnly.modifyHot ⟨hot, rfl⟩ _) _

theorem hotOnly_applyCombatRuntimeStats (stats : CharacterCombatRuntimeStats) :
    (a.applyCombatRuntimeStats stats).HotOnly { a.core with combatStats := stats } :=
  (HotOnly.syncCombat ⟨_, rfl⟩).sync

theorem hotOnly_applyCombatRuntimeStatsUnclamped (stats : CharacterCombatRuntimeStats) :
    (a.applyCombatRuntimeStatsUnclamped stats).HotOnly { a.core with combatStats := stats } :=
  (HotOnly.syncCombat ⟨a.core.hot, rfl⟩).sync

/-- The hot state is not what the stats come from. -/
theorem HotOnly.fresh_iff (h : a.HotOnly core) :
    a.Fresh items levels ↔ StatsOf items levels core core.combatStats := by
  obtain ⟨hot, hcore⟩ := h
  constructor
  · rintro ⟨core', hcore', hstats⟩
    obtain rfl := Option.some.inj (hcore.symm.trans hcore')
    exact ⟨hstats.maxHp, hstats.maxMp, hstats.atk, hstats.defense⟩
  · intro hstats
    exact ⟨_, hcore, hstats.maxHp, hstats.maxMp, hstats.atk, hstats.defense⟩

/-- Stats that are put are fresh if they are the character's. -/
theorem fresh_put_iff {stats : CharacterCombatRuntimeStats}
    (h : a.HotOnly { core with combatStats := stats }) :
    a.Fresh items levels ↔ StatsOf items levels core stats := by
  rw [h.fresh_iff]
  exact ⟨fun hs => ⟨hs.maxHp, hs.maxMp, hs.atk, hs.defense⟩,
    fun hs => ⟨hs.maxHp, hs.maxMp, hs.atk, hs.defense⟩⟩

theorem fresh_recomputeCombatRuntimeStats :
    (a.recomputeCombatRuntimeStats (recomputeCombatStats items levels)).Fresh items levels :=
  (fresh_put_iff (hotOnly_applyCombatRuntimeStats _)).mpr (statsOf_recomputeCombatStats _ _ _)

/-- One operation. -/
theorem Fresh.step_iff (h : a.Fresh items levels) (op : ActorOp) :
    (a.actorStep (recomputeCombatStats items levels) op).Fresh items levels ↔
      a.KeepsFresh items levels op := by
  obtain ⟨core, hcore, hstats⟩ := h
  have hhot : a.HotOnly core := ⟨core.hot, hcore⟩
  have hkept {a' : PlayerActor} (hop : a'.HotOnly core) : a'.Fresh items levels ↔ True :=
    iff_of_true (hop.fresh_iff.mpr hstats) trivial
  cases op with
  | setCurrentHp hp => exact hkept (hhot.marked _ _)
  | setCurrentMp mp => exact hkept ((hhot.modifyHot _).markHotDirty _)
  | setAlive alive => exact hkept (hhot.marked _ _)
  | addGold amount => exact hkept (hhot.marked _ _)
  | applyCombatRuntimeStats stats clampCurrent =>
      cases clampCurrent with
      | true => exact fresh_put_iff (hotOnly_applyCombatRuntimeStats stats)
      | false => exact fresh_put_iff (hotOnly_applyCombatRuntimeStatsUnclamped stats)
  | onEquipmentSummaryChanged equip => exact iff_of_true fresh_recomputeCombatRuntimeStats trivial
  | onCombatIdentityChanged job tribe => exact iff_of_true fresh_recomputeCombatRuntimeStats trivial
  | setWorldPosition zoneId mapId mapInstanceId x y z heading =>
      obtain ⟨hot, hset⟩ := hhot.modifyHot fun hot =>
        { hot with position := { zoneId, mapId, x, y, z, heading } }
      exact hkept ((HotOnly.markHotDirty ⟨hot, hset⟩ _).sync)
  | clearWorldPosition =>
      obtain ⟨hot, hset⟩ := hhot.modifyHot fun hot => { hot with position := {}, inWorld := false }
      exact hkept ((HotOnly.markHotDirty ⟨hot, hset⟩ _).sync)
  | setInWorld inWorld => exact hkept (hhot.marked _ _)
  | bindSession sid serial => exact hkept (hhot.bindSession sid serial)
  | unbindSession sid serial => exact hkept (hhot.unbindSession sid serial)

theorem Fresh.bindSession (h : a.Fresh items levels) (sid serial : UInt32) :
    (a.bindSession sid serial).Fresh items levels := by
  obtain ⟨core, hcore, hstats⟩ := h
  exact (HotOnly.bindSession ⟨core.hot, hcore⟩ sid serial).fresh_iff.mpr hstats

/-- The map instance is not what the stats come from. -/
theorem Fresh.setInstance (h : a.Fresh items levels) (instanceId : UInt32) :
    Fresh items levels { a with mapInstanceId := instanceId } :=
  h

/-- Entering recomputes the stats. -/
theorem fresh_applyCharacterCoreState (coreState : CharacterCoreState) (sid serial : UInt32)
    (assignedZoneId : UInt16) (mapTemplateId instanceId : UInt32) :
    (a.applyCharacterCoreState (recomputeCombatStats items levels) coreState sid serial
      assignedZoneId mapTemplateId instanceId).Fresh items levels := by
  unfold applyCharacterCoreState
  apply Fresh.setInstance
  exact fresh_recomputeCombatRuntimeStats.bindSession sid serial

/-- Level files that end alike for each level find the same actors fresh. -/
theorem fresh_loadLegacyLevelTable_congr {longBits : Nat} {file file' : Option (List Char)}
    (h : ∀ level, lastLevelRow ((dataLines file).map (parseLevelLine longBits)) level =
      lastLevelRow ((dataLines file').map (parseLevelLine longBits)) level) :
    a.Fresh items (loadLegacyLevelTable longBits file) ↔
      a.Fresh items (loadLegacyLevelTable longBits file') :=
  exists_congr fun _ => and_congr_right fun _ => statsOf_loadLegacyLevelTable_congr h

/-- From the enter on, the stats of an actor are those of its level, job, tribe and
equipment, exactly as long as stats that are applied from outside are. -/
theorem always_fresh_iff (items : ItemTemplateTable) (levels : LegacyLevelTable)
    (a : PlayerActor) (coreState : CharacterCoreState) (sid serial : UInt32)
    (assignedZoneId : UInt16) (mapTemplateId instanceId : UInt32) (ops : List ActorOp) :
    Always (·.actorStep (recomputeCombatStats items levels) ·) (Fresh items levels)
        (a.applyCharacterCoreState (recomputeCombatStats items levels) coreState sid serial
          assignedZoneId mapTemplateId instanceId) ops ↔
      Along (·.actorStep (recomputeCombatStats items levels) ·) (KeepsFresh items levels)
        (a.applyCharacterCoreState (recomputeCombatStats items levels) coreState sid serial
          assignedZoneId mapTemplateId instanceId) ops :=
  always_iff_along (W := fun _ => True) trivial
    (fresh_applyCharacterCoreState coreState sid serial assignedZoneId mapTemplateId instanceId)
    (fun _ _ _ => trivial) (fun _ op _ h => h.step_iff op)

end PlayerActor

end GameServer
