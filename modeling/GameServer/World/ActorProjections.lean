import GameServer.Lib.Run
import GameServer.World.PlayerActor

/-!
# GameServer.World.ActorProjections

The values a `PlayerActor` keeps twice: the caps of the resources beside the
combat stats, the alive flag beside the hit points, and the projection fields
beside the core state.  Two synchronisers bring them back in line, and every
setter has to call the right ones.

* `Consistent` -- the copies agree and the resources stay below their caps
* `ActorOp`, `actorStep` -- the operations of the gameplay handlers
* `consistent_step_iff` -- what one operation keeps
* `always_consistent_iff` -- the operations that break it: `SetAlive(true)` of
  a dead actor, and unclamped stats without hit points
-/

namespace GameServer

namespace PlayerActor

variable (a : PlayerActor)

/-! ## The remaining operations -/

/-- `GetMaxMp`. -/
def getMaxMp : UInt32 :=
  match a.coreState with
  | none => 0
  | some core => core.combatStats.maxMp

/-- `SetCurrentMp`: nothing is projected. -/
def setCurrentMp (mp : UInt32) : PlayerActor :=
  let current := min mp (a.modifyHot id).getMaxMp
  (a.modifyHot fun hot =>
    { hot with resources := { hot.resources with currentMp := current } }).markHotDirty .resources

/-- `SetInWorld`. -/
def setInWorld (inWorld : Bool) : PlayerActor :=
  ((a.modifyHot fun hot => { hot with inWorld }).markHotDirty .position).syncProjectionFromCoreState

/-- `SetAlive`: a dead actor has no hit points; a living one keeps those it
has. -/
def setAlive (alive : Bool) : PlayerActor :=
  ((a.modifyHot fun hot =>
    { hot with
      alive
      resources := { hot.resources with
        currentHp := if alive then hot.resources.currentHp else 0 } }).markHotDirty
    .resources).syncProjectionFromCoreState

/-- `ApplyCombatRuntimeStats` with `clamp_current = false`. -/
def applyCombatRuntimeStatsUnclamped (stats : CharacterCombatRuntimeStats) : PlayerActor :=
  let a := a.modifyCore fun core => { core with combatStats := stats }
  a.syncCombatProjectionFromAuthoritative.syncProjectionFromCoreState

/-- `RecomputeCombatRuntimeStats`; the combat stats come from the level and
item tables. -/
def recomputeCombatRuntimeStats
    (recompute : CharacterCoreState → CharacterCombatRuntimeStats) : PlayerActor :=
  a.applyCombatRuntimeStats (recompute a.core)

/-- `OnEquipmentSummaryChanged`. -/
def onEquipmentSummaryChanged (recompute : CharacterCoreState → CharacterCombatRuntimeStats)
    (equip : EquipSummary) : PlayerActor :=
  (a.modifyCore fun core => { core with equip }).recomputeCombatRuntimeStats recompute

/-- `OnCombatIdentityChanged`. -/
def onCombatIdentityChanged (recompute : CharacterCoreState → CharacterCombatRuntimeStats)
    (job tribe : UInt16) : PlayerActor :=
  (a.modifyCore fun core =>
    { core with identity := { core.identity with job, tribe } }).recomputeCombatRuntimeStats
    recompute

/-- The operations of the handlers on an actor. -/
inductive ActorOp where
  | setCurrentHp (hp : UInt32)
  | setCurrentMp (mp : UInt32)
  | setAlive (alive : Bool)
  | addGold (amount : UInt32)
  | applyCombatRuntimeStats (stats : CharacterCombatRuntimeStats) (clampCurrent : Bool)
  | onEquipmentSummaryChanged (equip : EquipSummary)
  | onCombatIdentityChanged (job tribe : UInt16)
  | setWorldPosition (zoneId mapId mapInstanceId : UInt32) (x y z : Int32) (heading : Int16)
  | clearWorldPosition
  | setInWorld (inWorld : Bool)
  | bindSession (sid serial : UInt32)
  | unbindSession (sid serial : UInt32)
deriving DecidableEq, Repr

/-- One operation on the actor. -/
def actorStep (recompute : CharacterCoreState → CharacterCombatRuntimeStats) :
    ActorOp → PlayerActor
  | .setCurrentHp hp => a.setCurrentHp hp
  | .setCurrentMp mp => a.setCurrentMp mp
  | .setAlive alive => a.setAlive alive
  | .addGold amount => a.addGold amount
  | .applyCombatRuntimeStats stats true => a.applyCombatRuntimeStats stats
  | .applyCombatRuntimeStats stats false => a.applyCombatRuntimeStatsUnclamped stats
  | .onEquipmentSummaryChanged equip => a.onEquipmentSummaryChanged recompute equip
  | .onCombatIdentityChanged job tribe => a.onCombatIdentityChanged recompute job tribe
  | .setWorldPosition zoneId mapId mapInstanceId x y z heading =>
      a.setWorldPosition zoneId mapId mapInstanceId x y z heading
  | .clearWorldPosition => a.clearWorldPosition
  | .setInWorld inWorld => a.setInWorld inWorld
  | .bindSession sid serial => a.bindSession sid serial
  | .unbindSession sid serial => a.unbindSession sid serial

/-! ## The invariant -/

omit a in
/-- The core state agrees with itself: the resources are below the caps of the
combat stats, and the alive flag says whether hit points are left. -/
structure Vital (core : CharacterCoreState) : Prop where
  hp_le : core.hot.resources.currentHp ≤ core.hot.resources.maxHp
  mp_le : core.hot.resources.currentMp ≤ core.hot.resources.maxMp
  alive_iff : core.hot.alive = true ↔ 0 < core.hot.resources.currentHp
  maxHp_eq : core.hot.resources.maxHp = core.combatStats.maxHp
  maxMp_eq : core.hot.resources.maxMp = core.combatStats.maxMp

/-- The projection fields say what the core state says. -/
structure Projects (core : CharacterCoreState) : Prop where
  zoneId : a.zoneId = core.hot.position.zoneId
  mapTemplateId : a.mapTemplateId = core.hot.position.mapId
  pos : a.pos = ⟨core.hot.position.x, core.hot.position.y⟩
  hp : a.combat.hp = core.hot.resources.currentHp
  maxHp : a.combat.maxHp = core.combatStats.maxHp
  atk : a.combat.atk = core.combatStats.atk
  defense : a.combat.defense = core.combatStats.defense
  gold : a.combat.gold = core.hot.resources.gold
  online : a.online = (core.hot.inWorld && a.sid != invalidSid)

/-- The actor has a core state that agrees with itself and with the
projections. -/
def Consistent : Prop := ∃ core, a.coreState = some core ∧ Vital core ∧ a.Projects core

/-- The operation leaves the alive flag and the hit points together: nothing
revives an actor without hit points, and stats that are not clamped leave the
actor some. -/
def KeepsAlive : ActorOp → Prop
  | .setAlive true => 0 < a.core.hot.resources.currentHp
  | .applyCombatRuntimeStats stats false =>
      0 < a.core.hot.resources.currentHp → 0 < stats.maxHp
  | _ => True

variable {a}

/-! ## The synchronisers -/

/-- A synchronised actor is consistent if its hit points were below the cap
and its alive flag right. -/
theorem consistent_sync {core : CharacterCoreState} (hcore : a.coreState = some core)
    (hhp : core.hot.resources.currentHp ≤ core.combatStats.maxHp)
    (halive : core.hot.alive = true ↔ 0 < core.hot.resources.currentHp) :
    a.syncProjectionFromCoreState.Consistent := by
  have hmin : min core.hot.resources.currentHp core.combatStats.maxHp =
      core.hot.resources.currentHp := Std.LawfulOrderLeftLeaningMin.min_eq_left _ _ hhp
  simp only [syncProjectionFromCoreState, syncCombatProjectionFromAuthoritative, hcore,
    modifyHot, modifyCore, PlayerActor.core, Option.getD_some, hmin]
  refine ⟨_, rfl, ⟨hhp, Std.min_le_right, halive, rfl, rfl⟩, ?_⟩
  exact ⟨rfl, rfl, rfl, rfl, rfl, rfl, rfl, rfl, rfl⟩

/-- A change of the hot state that is marked and synchronised. -/
theorem consistent_marked {f : CharacterRuntimeHotState → CharacterRuntimeHotState}
    (flags : CharacterDirtyFlags)
    (hhp : (f a.core.hot).resources.currentHp ≤ a.core.combatStats.maxHp)
    (halive : (f a.core.hot).alive = true ↔ 0 < (f a.core.hot).resources.currentHp) :
    ((a.modifyHot f).markHotDirty flags).syncProjectionFromCoreState.Consistent :=
  consistent_sync rfl hhp halive

/-- The clamped stats set the alive flag themselves. -/
theorem consistent_applyCombatRuntimeStats (stats : CharacterCombatRuntimeStats) :
    (a.applyCombatRuntimeStats stats).Consistent := by
  unfold applyCombatRuntimeStats
  refine consistent_sync rfl Std.min_le_right ?_
  have hmin : min (min a.core.hot.resources.currentHp stats.maxHp) stats.maxHp =
      min a.core.hot.resources.currentHp stats.maxHp :=
    Std.LawfulOrderLeftLeaningMin.min_eq_left _ _ Std.min_le_right
  simp only [modifyCore, PlayerActor.core, Option.getD_some] at hmin ⊢
  rw [hmin]
  exact decide_eq_true_iff

/-! ## One operation -/

section Step

variable {recompute : CharacterCoreState → CharacterCombatRuntimeStats}

theorem consistent_setCurrentHp (hp : UInt32) : (a.setCurrentHp hp).Consistent :=
  consistent_marked _ Std.min_le_right decide_eq_true_iff

/-- What a consistent actor gives for its core state. -/
theorem Consistent.vital_core (h : a.Consistent) : Vital a.core := by
  obtain ⟨core, hcore, hvital, -⟩ := h
  rwa [PlayerActor.core, hcore]

theorem Vital.hp_le_stats {core : CharacterCoreState} (h : Vital core) :
    core.hot.resources.currentHp ≤ core.combatStats.maxHp := h.maxHp_eq ▸ h.hp_le

/-- Changes that leave the hit points and the alive flag alone. -/
theorem Consistent.marked {f : CharacterRuntimeHotState → CharacterRuntimeHotState}
    (h : a.Consistent) (flags : CharacterDirtyFlags)
    (hhp : (f a.core.hot).resources.currentHp = a.core.hot.resources.currentHp)
    (halive : (f a.core.hot).alive = a.core.hot.alive) :
    ((a.modifyHot f).markHotDirty flags).syncProjectionFromCoreState.Consistent := by
  refine consistent_marked flags ?_ ?_
  · rw [hhp]
    exact h.vital_core.hp_le_stats
  · rw [hhp, halive]
    exact h.vital_core.alive_iff

/-- The setter keeps core and projection equal. -/
theorem Consistent.setCurrentMp (h : a.Consistent) (mp : UInt32) :
    (a.setCurrentMp mp).Consistent := by
  obtain ⟨core, hcore, hvital, hproj⟩ := h
  have hmp : min mp core.combatStats.maxMp ≤ core.hot.resources.maxMp :=
    hvital.maxMp_eq ▸ Std.min_le_right
  simp only [PlayerActor.setCurrentMp, markHotDirty, modifyHot, modifyCore, PlayerActor.core,
    hcore, Option.getD_some, getMaxMp, id]
  exact ⟨_, rfl, ⟨hvital.hp_le, hmp, hvital.alive_iff, hvital.maxHp_eq, hvital.maxMp_eq⟩,
    ⟨hproj.zoneId, hproj.mapTemplateId, hproj.pos, hproj.hp, hproj.maxHp, hproj.atk,
      hproj.defense, hproj.gold, hproj.online⟩⟩

/-- A bind syncs the projection. -/
theorem Consistent.bindSession (h : a.Consistent) (sid serial : UInt32) :
    (a.bindSession sid serial).Consistent := by
  have hvital := h.vital_core
  obtain ⟨core, hcore, -, -⟩ := h
  simp only [PlayerActor.bindSession, hcore]
  rw [PlayerActor.core, hcore] at hvital
  refine consistent_sync rfl ?_ ?_
  · simpa only [PlayerActor.core, hcore] using hvital.hp_le_stats
  · simpa only [PlayerActor.core, hcore] using hvital.alive_iff

/-- An unbound actor is offline on both sides. -/
theorem Consistent.unbindSession (h : a.Consistent) (sid serial : UInt32) :
    (a.unbindSession sid serial).Consistent := by
  simp only [PlayerActor.unbindSession]
  split_ifs
  · exact h
  · obtain ⟨core, hcore, hvital, hproj⟩ := h
    simp only [hcore, markHotDirty, modifyHot, modifyCore, PlayerActor.core, Option.getD_some]
    exact ⟨_, rfl, ⟨hvital.hp_le, hvital.mp_le, hvital.alive_iff, hvital.maxHp_eq,
        hvital.maxMp_eq⟩,
      ⟨hproj.zoneId, hproj.mapTemplateId, hproj.pos, hproj.hp, hproj.maxHp, hproj.atk,
        hproj.defense, hproj.gold, rfl⟩⟩

/-- `SetAlive(true)` needs hit points to be left. -/
theorem Consistent.setAlive_iff (h : a.Consistent) (alive : Bool) :
    (a.setAlive alive).Consistent ↔ a.KeepsAlive (.setAlive alive) := by
  cases alive with
  | false =>
      refine iff_of_true (consistent_marked _ UInt32.zero_le ?_) trivial
      exact iff_of_false Bool.false_ne_true (UInt32.lt_irrefl 0)
  | true =>
      constructor
      · rintro ⟨core, hcore, hvital, -⟩
        obtain rfl := Option.some.inj hcore
        exact UInt32.lt_of_lt_of_le (hvital.alive_iff.mp rfl) Std.min_le_left
      · intro hpos
        exact consistent_marked _ h.vital_core.hp_le_stats (iff_of_true rfl hpos)

/-- Unclamped stats cut the hit points down without looking at the alive
flag. -/
theorem Consistent.applyCombatRuntimeStatsUnclamped_iff (h : a.Consistent)
    (stats : CharacterCombatRuntimeStats) :
    (a.applyCombatRuntimeStatsUnclamped stats).Consistent ↔
      a.KeepsAlive (.applyCombatRuntimeStats stats false) := by
  have hvital := h.vital_core
  constructor
  · rintro ⟨core, hcore, hvital', -⟩ hpos
    obtain rfl := Option.some.inj hcore
    have hleft := hvital'.alive_iff.mp (hvital.alive_iff.mpr hpos)
    exact UInt32.lt_of_lt_of_le hleft Std.min_le_right
  · intro hkeep
    refine consistent_sync rfl Std.min_le_right ?_
    change a.core.hot.alive = true ↔ 0 < min a.core.hot.resources.currentHp stats.maxHp
    rw [hvital.alive_iff]
    refine ⟨fun hpos => ?_, fun hpos => UInt32.lt_of_lt_of_le hpos Std.min_le_left⟩
    change 0 < if _ ≤ _ then _ else _
    split_ifs
    · exact hpos
    · exact hkeep hpos

/-- **One operation** keeps the actor consistent exactly if it keeps the alive
flag and the hit points together. -/
theorem consistent_step_iff (h : a.Consistent) (op : ActorOp) :
    (a.actorStep recompute op).Consistent ↔ a.KeepsAlive op := by
  have hvital := h.vital_core
  cases op with
  | setCurrentHp hp => exact iff_of_true (consistent_setCurrentHp hp) trivial
  | setCurrentMp mp => exact iff_of_true (h.setCurrentMp mp) trivial
  | setAlive alive => exact h.setAlive_iff alive
  | addGold amount => exact iff_of_true (h.marked _ rfl rfl) trivial
  | applyCombatRuntimeStats stats clampCurrent =>
      cases clampCurrent with
      | true => exact iff_of_true (consistent_applyCombatRuntimeStats stats) trivial
      | false => exact h.applyCombatRuntimeStatsUnclamped_iff stats
  | onEquipmentSummaryChanged equip =>
      exact iff_of_true (consistent_applyCombatRuntimeStats _) trivial
  | onCombatIdentityChanged job tribe =>
      exact iff_of_true (consistent_applyCombatRuntimeStats _) trivial
  | setWorldPosition zoneId mapId mapInstanceId x y z heading =>
      exact iff_of_true (consistent_sync rfl hvital.hp_le_stats hvital.alive_iff) trivial
  | clearWorldPosition =>
      exact iff_of_true (consistent_sync rfl hvital.hp_le_stats hvital.alive_iff) trivial
  | setInWorld inWorld => exact iff_of_true (h.marked _ rfl rfl) trivial
  | bindSession sid serial => exact iff_of_true (h.bindSession sid serial) trivial
  | unbindSession sid serial => exact iff_of_true (h.unbindSession sid serial) trivial

/-- The map instance is not projected. -/
theorem Consistent.setInstance (h : a.Consistent) (instanceId : UInt32) :
    Consistent { a with mapInstanceId := instanceId } := by
  obtain ⟨core, hcore, hvital, hproj⟩ := h
  exact ⟨core, hcore, hvital, ⟨hproj.zoneId, hproj.mapTemplateId, hproj.pos, hproj.hp,
    hproj.maxHp, hproj.atk, hproj.defense, hproj.gold, hproj.online⟩⟩

/-- Whatever core state is loaded, an enter leaves the actor consistent. -/
theorem consistent_applyCharacterCoreState (coreState : CharacterCoreState) (sid serial : UInt32)
    (assignedZoneId : UInt16) (mapTemplateId instanceId : UInt32) :
    (a.applyCharacterCoreState recompute coreState sid serial assignedZoneId mapTemplateId
      instanceId).Consistent := by
  unfold applyCharacterCoreState
  apply Consistent.setInstance
  exact (consistent_applyCombatRuntimeStats _).bindSession sid serial

end Step

/-! ## Whole runs -/

/-- From the enter on, an actor stays consistent exactly as long as nothing
revives it without hit points and no unclamped stats take its last ones. -/
theorem always_consistent_iff (recompute : CharacterCoreState → CharacterCombatRuntimeStats)
    (a : PlayerActor) (coreState : CharacterCoreState) (sid serial : UInt32)
    (assignedZoneId : UInt16) (mapTemplateId instanceId : UInt32) (ops : List ActorOp) :
    Always (·.actorStep recompute ·) Consistent
        (a.applyCharacterCoreState recompute coreState sid serial assignedZoneId mapTemplateId
          instanceId) ops ↔
      Along (·.actorStep recompute ·) KeepsAlive
        (a.applyCharacterCoreState recompute coreState sid serial assignedZoneId mapTemplateId
          instanceId) ops :=
  always_iff_along (W := fun _ => True) trivial
    (consistent_applyCharacterCoreState coreState sid serial assignedZoneId mapTemplateId instanceId)
    (fun _ _ _ => trivial) (fun _ op _ h => consistent_step_iff h op)

/-- A fresh character that has entered map 1000 with the stats it is made
with. -/
def enteredActor : PlayerActor :=
  applyCharacterCoreState { charId := 7 } (·.combatStats) (makeDefaultCharacterCoreState 1 7)
    3 5 1 1000 0

/-- A dead actor that is set alive has no hit points, and unclamped stats
without hit points leave a living actor none. -/
theorem alive_without_hp :
    ¬Always (·.actorStep (·.combatStats) ·) Consistent enteredActor
      [.setCurrentHp 0, .setAlive true] ∧
    ¬Always (·.actorStep (·.combatStats) ·) Consistent enteredActor
      [.applyCombatRuntimeStats { maxHp := 0 } false] := by
  constructor
  · rintro ⟨-, -, core, hcore, hvital, -⟩
    obtain rfl := Option.some.inj hcore
    exact absurd (hvital.alive_iff.mp rfl) (by decide)
  · rintro ⟨-, core, hcore, hvital, -⟩
    obtain rfl := Option.some.inj hcore
    exact absurd (hvital.alive_iff.mp rfl) (by decide)

end PlayerActor

end GameServer
