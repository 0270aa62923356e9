import GameServer.World.ActorTasks
import GameServer.World.Reentry

/-!
# GameServer.World.KillRewards

Monsters, and the reward for killing one.

A zone actor keeps the monsters of its zone.  A kill posts a loot task to the
killer's actor, with a transaction id of the zone; the player actor commits a
transaction once, but does not know which zone it is from.

* `MonsterField` — the monsters of a zone, with `spawnMonster` and `attack`;
* `Battle`, `step` — the requests and the tasks they post, in any order;
* `RewardedOnce` — each monster is killed once at most, and each kill whose
  loot fits is rewarded once;
* `rewardedOnce_run_iff` — this is so as long as no loot task carries a
  transaction id that its player remembers.
-/

namespace GameServer

/-- `MonsterState`.  The last field is a book: the how-manieth monster of its
zone it is. -/
structure MonsterState where
  id : UInt64 := 0
  hp : UInt32 := 50
  atk : UInt32 := 8
  defense : UInt32 := 1
  dropItemId : UInt32 := 1001
  dropCount : UInt32 := 1
  spawn : Nat := 0
deriving DecidableEq, Repr

/-- The monsters of a `ZoneActor`; `spawned` counts them. -/
structure MonsterField where
  nextMonsterId : UInt64 := 1
  nextTxId : UInt64 := 1
  monsters : Table UInt64 MonsterState := .empty
  spawned : Nat := 0

/-- What an attack does to a monster. -/
inductive AttackOutcome where
  | missing
  | hit (damage hp : UInt32)
  | killed (damage : UInt32) (monster : MonsterState) (txId : UInt64)
deriving DecidableEq, Repr

namespace MonsterField

variable (z : MonsterField)

/-- The monster of a template. -/
def ofTemplate (templateId : UInt32) : MonsterState :=
  if templateId = 1 then
    { hp := 120, atk := 15, defense := 4, dropItemId := 2001, dropCount := 1 }
  else { hp := 50, atk := 8, defense := 1, dropItemId := 1001, dropCount := 1 }

/-- The zone task of `HandleWorldSpawnMonster`. -/
def spawnMonster (templateId : UInt32) : MonsterState × MonsterField :=
  let m := { ofTemplate templateId with id := z.nextMonsterId, spawn := z.spawned }
  (m, { z with
    nextMonsterId := z.nextMonsterId + 1
    monsters := z.monsters.set m.id m
    spawned := z.spawned + 1 })

/-- The damage of an attack. -/
def damage (atk defense : UInt32) : UInt32 := if atk > defense then atk - defense else 1

/-- The zone task of `HandleWorldAttackMonster`, up to what it sends and
posts. -/
def attack (attackerAtk : UInt32) (monsterId : UInt64) : AttackOutcome × MonsterField :=
  match z.monsters monsterId with
  | none => (.missing, z)
  | some mon =>
      let dmg := damage attackerAtk mon.defense
      if dmg ≥ mon.hp then
        (.killed dmg mon z.nextTxId,
          { z with monsters := z.monsters.erase monsterId, nextTxId := z.nextTxId + 1 })
      else
        (.hit dmg (mon.hp - dmg),
          { z with monsters := z.monsters.set monsterId { mon with hp := mon.hp - dmg } })

end MonsterField

/-- `GetAttack`. -/
def PlayerActor.getAttack (a : PlayerActor) : UInt32 :=
  match a.coreState with
  | none => a.combat.atk
  | some core => core.combatStats.atk

/-- What the loot task of a kill captures; `victim` is a book: the zone and
the number of the monster. -/
structure Loot where
  attackerId : UInt64
  sid : UInt32
  serial : UInt32
  monsterId : UInt64
  damage : UInt32
  dropItem : UInt32
  dropCount : UInt32
  rewardGold : UInt32
  txId : UInt64
  victim : UInt32 × Nat
deriving DecidableEq, Repr

/-- A task of a zone actor or a player actor. -/
inductive CombatPost where
  | spawn (zoneId templateId sid serial : UInt32)
  | attack (zoneId : UInt32) (attackerId : UInt64) (attackerAtk : UInt32) (monsterId : UInt64)
      (sid serial : UInt32)
  | loot (task : Loot)
deriving DecidableEq, Repr

/-- The actor a task was posted to. -/
def CombatPost.addr : CombatPost → ActorAddr
  | .spawn zoneId .. => .zone zoneId
  | .attack zoneId .. => .zone zoneId
  | .loot task => .player task.attackerId

/-- The loot task of a post. -/
def CombatPost.loot? : CombatPost → Option Loot
  | .loot task => some task
  | _ => none

/-- `S2C_spawn_monster_ok` and `S2C_attack_result`. -/
inductive CombatReply where
  | spawnMonsterOk (monsterId : UInt64) (hp atk defense : UInt32)
  | attackResult (attackerId targetId : UInt64) (damage targetHp : UInt32) (killed : Bool)
      (dropItemId dropCount attackerGold : UInt32)
deriving DecidableEq, Repr

/-- The zone data that the requests look at: safe regions, and the template
of the nearest monster region. -/
structure CombatConfig where
  findSafeRegion : UInt32 → UInt32 → Vec2i → Bool := fun _ _ _ => false
  nearestRegionTemplate : UInt32 → UInt32 → Vec2i → Option Int32 := fun _ _ _ => none

/-- The actors and the tasks posted to them, with what was sent to whom.  The
last two fields are books: the loot of every kill, and the loot tasks that
ran, with whether the item could be added. -/
structure Battle where
  players : UInt64 → PlayerActor := fun charId => { charId }
  zones : UInt32 → MonsterField := fun _ => {}
  mail : List CombatPost := []
  sent : List (UInt32 × UInt32 × CombatReply) := []
  kills : List Loot := []
  ran : List (Loot × Bool) := []

namespace Battle

variable (cfg : CombatConfig) (st : Battle)

/-- `PostActor`. -/
def post (p : CombatPost) : Battle := { st with mail := st.mail ++ [p] }

/-- `Send`. -/
def send (sid serial : UInt32) (reply : CombatReply) : Battle :=
  { st with sent := st.sent ++ [(sid, serial, reply)] }

def setPlayer (charId : UInt64) (a : PlayerActor) : Battle :=
  { st with players := Function.update st.players charId a }

def setZone (zoneId : UInt32) (z : MonsterField) : Battle :=
  { st with zones := Function.update st.zones zoneId z }

/-- `HandleWorldSpawnMonster`, past the authentication. -/
def handleWorldSpawnMonster (charId : UInt64) (sid serial templateId : UInt32) : Battle :=
  let a := st.players charId
  if cfg.findSafeRegion a.getZoneId a.getMapId a.getPosition then st
  else if serial = 0 then st
  else
    let templateId :=
      if templateId = 0 then
        match cfg.nearestRegionTemplate a.getZoneId a.getMapId a.getPosition with
        | some value => (max 1 value).toUInt32
        | none => 0
      else templateId
    st.post (.spawn a.getZoneId templateId sid serial)

/-- `HandleWorldAttackMonster`, past the authentication. -/
def handleWorldAttackMonster (charId : UInt64) (sid serial : UInt32) (monsterId : UInt64) :
    Battle :=
  let a := st.players charId
  if cfg.findSafeRegion a.getZoneId a.getMapId a.getPosition then st
  else if isValidSessionKey sid serial = false then st
  else st.post (.attack a.getZoneId charId a.getAttack monsterId sid serial)

/-- A spawn task runs. -/
def runSpawn (zoneId templateId sid serial : UInt32) : Battle :=
  let spawned := (st.zones zoneId).spawnMonster templateId
  (st.setZone zoneId spawned.2).send sid serial
    (.spawnMonsterOk spawned.1.id spawned.1.hp spawned.1.atk spawned.1.defense)

/-- The loot of a kill. -/
def lootOf (zoneId : UInt32) (attackerId : UInt64) (sid serial damage : UInt32)
    (monsterId : UInt64) (mon : MonsterState) (txId : UInt64) : Loot where
  attackerId
  sid
  serial
  monsterId
  damage
  dropItem := mon.dropItemId
  dropCount := mon.dropCount
  rewardGold := CharacterProgress.rewardGold
  txId
  victim := (zoneId, mon.spawn)

/-- An attack task runs. -/
def runAttack (zoneId : UInt32) (attackerId : UInt64) (attackerAtk : UInt32) (monsterId : UInt64)
    (sid serial : UInt32) : Battle :=
  let attacked := (st.zones zoneId).attack attackerAtk monsterId
  match attacked.1 with
  | .missing => st
  | .hit dmg hp =>
      (st.setZone zoneId attacked.2).send sid serial
        (.attackResult attackerId monsterId dmg hp false 0 0 0)
  | .killed dmg mon txId =>
      let loot := lootOf zoneId attackerId sid serial dmg monsterId mon txId
      { (st.setZone zoneId attacked.2).post (.loot loot) with kills := st.kills ++ [loot] }

/-- A loot task runs. -/
def runLoot (loot : Loot) : Battle :=
  let a := st.players loot.attackerId
  let ok := a.canAddItem loot.dropItem
  let a := if ok then a.commitLoot loot.txId loot.dropItem loot.dropCount loot.rewardGold else a
  { (st.setPlayer loot.attackerId a).send loot.sid loot.serial
      (.attackResult loot.attackerId loot.monsterId loot.damage 0 true
        (if ok then loot.dropItem else 0) (if ok then loot.dropCount else 0) a.getGold) with
    ran := st.ran ++ [(loot, ok)] }

/-- A task runs. -/
def runPost : CombatPost → Battle
  | .spawn zoneId templateId sid serial => st.runSpawn zoneId templateId sid serial
  | .attack zoneId attackerId attackerAtk monsterId sid serial =>
      st.runAttack zoneId attackerId attackerAtk monsterId sid serial
  | .loot task => st.runLoot task

/-- An actor runs its oldest task. -/
def runOldest (actor : ActorAddr) : Battle :=
  match Mailbox.oldest CombatPost.addr actor st.mail with
  | none => st
  | some p => { st with mail := Mailbox.withoutOldest CombatPost.addr actor st.mail }.runPost p

/-- What can happen next. -/
inductive Event where
  | spawnMonster (charId : UInt64) (sid serial templateId : UInt32)
  | attackMonster (charId : UInt64) (sid serial : UInt32) (monsterId : UInt64)
  | gameplay (charId : UInt64) (op : CharacterProgress.PlayerOp)
  | run (actor : ActorAddr)
deriving DecidableEq, Repr

def step : Event → Battle
  | .spawnMonster charId sid serial templateId =>
      st.handleWorldSpawnMonster cfg charId sid serial templateId
  | .attackMonster charId sid serial monsterId =>
      st.handleWorldAttackMonster cfg charId sid serial monsterId
  | .gameplay charId op => st.setPlayer charId (op.apply (st.players charId))
  | .run actor => st.runOldest actor

end Battle

/-- The players of a world, as all the operations on them keep them. -/
structure Roster where
  players : UInt64 → PlayerActor
  sound : ∀ c, (players c).Sound c

namespace Battle

/-- A world without monsters. -/
def start (roster : Roster) : Battle := { players := roster.players }

/-- The loot tasks that have not run. -/
def waiting (st : Battle) : List Loot := st.mail.filterMap CombatPost.loot?

/-- The gold of a player with the rewards of its kills whose loot could be
added. -/
def goldWith (charId : UInt64) (gold : UInt32) (ran : List (Loot × Bool)) : UInt32 :=
  ran.foldl (fun gold r =>
    if r.2 = true ∧ r.1.attackerId = charId then gold + r.1.rewardGold else gold) gold

/-- The count of an item with the drops of these kills. -/
def itemsWith (charId : UInt64) (item count : UInt32) (ran : List (Loot × Bool)) : UInt32 :=
  ran.foldl (fun count r =>
    if r.2 = true ∧ r.1.attackerId = charId ∧ r.1.dropItem = item then count + r.1.dropCount
    else count) count

/-- `items[item]`. -/
def itemCount (st : Battle) (charId : UInt64) (item : UInt32) : UInt32 :=
  ((st.players charId).items.lookup item).getD 0

/-- **Kill rewards**: no monster is killed twice; the loot of every kill waits
or has run, once; and the gold and items of every player are what it had and
the rewards of its kills whose loot could be added. -/
structure RewardedOnce (roster : Roster) (st : Battle) : Prop where
  killed_once : (st.kills.map Loot.victim).Nodup
  delivered : st.kills.Perm (st.ran.map Prod.fst ++ st.waiting)
  gold : ∀ c, (st.players c).getGold = goldWith c (roster.players c).getGold st.ran
  items : ∀ c item, item ≠ 0 → st.itemCount c item =
    itemsWith c item (((roster.players c).items.lookup item).getD 0) st.ran

/-- A loot task whose item can be added has a transaction id that its player
does not remember. -/
def NewLoot (st : Battle) : Event → Prop
  | .run actor => ∀ loot, Mailbox.oldest CombatPost.addr actor st.mail = some (.loot loot) →
      (st.players loot.attackerId).canAddItem loot.dropItem = true →
      (st.players loot.attackerId).isNewLoot loot.txId = true
  | _ => True

end Battle

/-! ## Monsters -/

/-- The monsters of the zones against the victims so far: no victim lives, and
no two monsters have one number. -/
structure Tracked (zones : UInt32 → MonsterField) (victims : List (UInt32 × Nat)) : Prop where
  nodup : victims.Nodup
  numbered : ∀ v ∈ victims, v.2 < (zones v.1).spawned
  alive : ∀ z id m, (zones z).monsters id = some m →
    m.spawn < (zones z).spawned ∧ (z, m.spawn) ∉ victims
  apart : ∀ z id id' m m', (zones z).monsters id = some m → (zones z).monsters id' = some m' →
    m.spawn = m'.spawn → id = id'

section

variable {zones : UInt32 → MonsterField} {victims : List (UInt32 × Nat)} {zoneId : UInt32}

theorem tracked_init : Tracked (fun _ => {}) [] where
  nodup := .nil
  numbered _ h := by cases h
  alive _ _ _ h := by cases h
  apart _ _ _ _ _ h := by cases h

/-- A monster that spawns is alive and has not been counted as a victim. -/
theorem Tracked.spawn (h : Tracked zones victims) (templateId : UInt32) :
    Tracked (Function.update zones zoneId ((zones zoneId).spawnMonster templateId).2) victims := by
  set z' := ((zones zoneId).spawnMonster templateId).2 with hz'
  have hspawned : z'.spawned = (zones zoneId).spawned + 1 := rfl
  have hmonsters : ∀ id m, z'.monsters id = some m →
      (m.spawn = (zones zoneId).spawned ∧ id = (zones zoneId).nextMonsterId) ∨
        (zones zoneId).monsters id = some m := by
    intro id m hm
    simp only [hz', MonsterField.spawnMonster, Table.set_apply] at hm
    split_ifs at hm with hid
    · cases hm
      exact .inl ⟨rfl, hid⟩
    · exact .inr hm
  refine ⟨h.nodup, fun v hv => ?_, fun z id m hm => ?_, fun z id id' m m' hm hm' hspawn => ?_⟩
  · have hlt := h.numbered v hv
    rw [Function.update_apply]
    split_ifs with hz
    · rw [hz] at hlt
      omega
    · exact hlt
  · rw [Function.update_apply] at hm ⊢
    split_ifs at hm ⊢ with hz
    · subst hz
      rcases hmonsters id m hm with ⟨hnew, _⟩ | hold
      · refine ⟨by omega, fun hv => ?_⟩
        have hlt := h.numbered _ hv
        dsimp only at hlt
        omega
      · obtain ⟨hlt, hnot⟩ := h.alive z id m hold
        exact ⟨by omega, hnot⟩
    · exact h.alive z id m hm
  · rw [Function.update_apply] at hm hm'
    split_ifs at hm hm' with hz
    · subst hz
      rcases hmonsters id m hm with ⟨hnew, hid⟩ | hold <;>
        rcases hmonsters id' m' hm' with ⟨hnew', hid'⟩ | hold'
      · rw [hid, hid']
      · have hlt := (h.alive z id' m' hold').1
        omega
      · have hlt := (h.alive z id m hold).1
        omega
      · exact h.apart z id id' m m' hold hold' hspawn
    · exact h.apart z id id' m m' hm hm' hspawn

/-- Every monster was there before, under the same number. -/
theorem Tracked.of_before (h : Tracked zones victims) {zones' : UInt32 → MonsterField}
    (hspawned : ∀ z, (zones' z).spawned = (zones z).spawned)
    (hbefore : ∀ z id m, (zones' z).monsters id = some m →
      ∃ m₀, (zones z).monsters id = some m₀ ∧ m₀.spawn = m.spawn) : Tracked zones' victims := by
  refine ⟨h.nodup, fun v hv => ?_, fun z id m hm => ?_, fun z id id' m m' hm hm' heq => ?_⟩
  · rw [hspawned]
    exact h.numbered v hv
  · obtain ⟨m₀, hm₀, hs⟩ := hbefore z id m hm
    rw [hspawned, ← hs]
    exact h.alive z id m₀ hm₀
  · obtain ⟨m₀, hm₀, hs⟩ := hbefore z id m hm
    obtain ⟨m₀', hm₀', hs'⟩ := hbefore z id' m' hm'
    exact h.apart z id id' m₀ m₀' hm₀ hm₀' (by rw [hs, hs', heq])

/-- A monster that does not live any more may become a victim. -/
theorem Tracked.addVictim (h : Tracked zones victims) {v : UInt32 × Nat}
    (hlt : v.2 < (zones v.1).spawned) (hnot : v ∉ victims)
    (hdead : ∀ id m, (zones v.1).monsters id = some m → m.spawn ≠ v.2) :
    Tracked zones (victims ++ [v]) := by
  refine ⟨?_, fun v' hv' => ?_, fun z id m hm => ?_, h.apart⟩
  · rw [List.nodup_append]
    refine ⟨h.nodup, List.nodup_singleton _, fun v₁ hv₁ v₂ hv₂ heq => ?_⟩
    rw [List.mem_singleton] at hv₂
    exact hnot (hv₂ ▸ heq ▸ hv₁)
  · rcases List.mem_append.mp hv' with hold | hnew
    · exact h.numbered v' hold
    · obtain rfl := List.mem_singleton.mp hnew
      exact hlt
  · obtain ⟨hltm, hnotm⟩ := h.alive z id m hm
    rw [List.mem_append, not_or, List.mem_singleton]
    refine ⟨hltm, hnotm, fun hc => ?_⟩
    subst hc
    exact hdead id m hm rfl

theorem spawned_update {field : MonsterField} (hfield : field.spawned = (zones zoneId).spawned)
    (z : UInt32) : (Function.update zones zoneId field z).spawned = (zones z).spawned := by
  rw [Function.update_apply]
  split_ifs with hz
  · rw [hfield, hz]
  · rfl

/-- A monster that is hit stays the monster it is. -/
theorem Tracked.hit (h : Tracked zones victims) {monsterId : UInt64} {mon mon' : MonsterState}
    (hmon : (zones zoneId).monsters monsterId = some mon) (hspawn : mon'.spawn = mon.spawn) :
    Tracked (Function.update zones zoneId
      { zones zoneId with monsters := (zones zoneId).monsters.set monsterId mon' }) victims := by
  refine h.of_before (spawned_update rfl) fun z id m hm => ?_
  rw [Function.update_apply] at hm
  split_ifs at hm with hz
  · subst hz
    dsimp only at hm
    rw [Table.set_apply] at hm
    split_ifs at hm with hid
    · cases hm
      exact ⟨mon, hid ▸ hmon, hspawn.symm⟩
    · exact ⟨m, hm, rfl⟩
  · exact ⟨m, hm, rfl⟩

/-- A monster that is killed is a victim, and does not live any more. -/
theorem Tracked.kill (h : Tracked zones victims) {monsterId : UInt64} {mon : MonsterState}
    {txId : UInt64} (hmon : (zones zoneId).monsters monsterId = some mon) :
    Tracked (Function.update zones zoneId
      { zones zoneId with
        monsters := (zones zoneId).monsters.erase monsterId, nextTxId := txId })
      (victims ++ [(zoneId, mon.spawn)]) := by
  set field : MonsterField := { zones zoneId with
    monsters := (zones zoneId).monsters.erase monsterId, nextTxId := txId }
  have hspawned : ∀ z, (Function.update zones zoneId field z).spawned = (zones z).spawned :=
    spawned_update rfl
  have hbefore : ∀ z id m, (Function.update zones zoneId field z).monsters id = some m →
      (zones z).monsters id = some m ∧ ¬ (z = zoneId ∧ id = monsterId) := by
    intro z id m hm
    rw [Function.update_apply] at hm
    split_ifs at hm with hz
    · subst hz
      obtain ⟨hid, hold⟩ := Table.erase_eq_some_iff.mp hm
      exact ⟨hold, fun hc => hid hc.2⟩
    · exact ⟨hm, fun hc => hz hc.1⟩
  obtain ⟨hlt, hnot⟩ := h.alive zoneId monsterId mon hmon
  have hleft := h.of_before hspawned fun z id m hm => ⟨m, (hbefore z id m hm).1, rfl⟩
  refine hleft.addVictim ?_ hnot fun id m hm hspawn => ?_
  · rw [hspawned]
    exact hlt
  · obtain ⟨hold, hother⟩ := hbefore zoneId id m hm
    exact hother ⟨rfl, h.apart zoneId id monsterId m mon hold hmon hspawn⟩

end

/-! ## Players -/

namespace PlayerActor

variable {a : PlayerActor}

theorem items_sync : a.syncProjectionFromCoreState.items = a.items := by
  unfold syncProjectionFromCoreState syncCombatProjectionFromAuthoritative
  split
  · rfl
  · split <;> rfl

theorem items_addGold (amount : UInt32) : (a.addGold amount).items = a.items := by
  unfold addGold
  rw [items_sync]
  rfl

/-- No gameplay operation but the loot changes the items. -/
theorem items_playerOp (op : CharacterProgress.PlayerOp) : (op.apply a).items = a.items := by
  cases op with
  | setCurrentHp hp =>
      simp only [CharacterProgress.PlayerOp.apply, setCurrentHp]
      rw [items_sync]
      rfl
  | setWorldPosition zoneId mapId mapInstanceId x y z heading =>
      simp only [CharacterProgress.PlayerOp.apply, setWorldPosition]
      rw [items_sync]
      rfl
  | bindSession sid serial =>
      simp only [CharacterProgress.PlayerOp.apply, bindSession]
      split
      · rfl
      · rw [items_sync]
        rfl

/-- A new loot adds its items. -/
theorem itemCount_commitLoot {txId : UInt64} {itemId count gold item : UInt32}
    (hnew : a.isNewLoot txId = true) (hitem : item ≠ 0) :
    ((a.commitLoot txId itemId count gold).items.lookup item).getD 0 =
      if itemId = item then (a.items.lookup item).getD 0 + count
      else (a.items.lookup item).getD 0 := by
  simp only [commitLoot, hnew, Bool.true_eq_false, if_false, items_addGold]
  by_cases heq : itemId = item
  · subst heq
    by_cases hcount : count = 0
    · simp [hcount]
    · simp [hitem, hcount]
  · rw [if_neg heq]
    split_ifs
    · rw [AList.lookup_insert_ne (Ne.symm heq)]
    · rfl

end PlayerActor

namespace Battle

theorem goldWith_append (c : UInt64) (gold : UInt32) (ran : List (Loot × Bool)) (r : Loot × Bool) :
    goldWith c gold (ran ++ [r]) =
      if r.2 = true ∧ r.1.attackerId = c then goldWith c gold ran + r.1.rewardGold
      else goldWith c gold ran := by
  simp only [goldWith, List.foldl_append, List.foldl_cons, List.foldl_nil]

/-- One more loot counts for its own attacker and item. -/
theorem itemsWith_append (c : UInt64) (item count : UInt32) (ran : List (Loot × Bool))
    (r : Loot × Bool) :
    itemsWith c item count (ran ++ [r]) =
      if r.2 = true ∧ r.1.attackerId = c ∧ r.1.dropItem = item then
        itemsWith c item count ran + r.1.dropCount
      else itemsWith c item count ran := by
  simp only [itemsWith, List.foldl_append, List.foldl_cons, List.foldl_nil]

/-- The players have what they had, with their rewards. -/
structure Paid (roster : Roster) (players : UInt64 → PlayerActor) (ran : List (Loot × Bool)) :
    Prop where
  sound : ∀ c, (players c).Sound c
  gold : ∀ c, (players c).getGold = goldWith c (roster.players c).getGold ran
  items : ∀ c item, item ≠ 0 → ((players c).items.lookup item).getD 0 =
    itemsWith c item (((roster.players c).items.lookup item).getD 0) ran

section

variable {roster : Roster} {players : UInt64 → PlayerActor} {ran : List (Loot × Bool)}

/-- The operations of a player pay nobody else. -/
theorem Paid.gameplay (h : Paid roster players ran) (c : UInt64)
    (op : CharacterProgress.PlayerOp) :
    Paid roster (Function.update players c (op.apply (players c))) ran := by
  have hgains := CharacterProgress.gains_playerOp (players c) op
  refine ⟨fun c' => ?_, fun c' => ?_, fun c' item hitem => ?_⟩
  · rw [Function.update_apply]
    split_ifs with hc
    · subst hc
      exact hgains.sound (h.sound c')
    · exact h.sound c'
  · rw [← h.gold c', Function.update_apply]
    split_ifs with hc
    · subst hc
      rw [hgains.getGold (h.sound c'), UInt32.add_zero]
    · rfl
  · rw [← h.items c' item hitem, Function.update_apply]
    split_ifs with hc
    · rw [hc, PlayerActor.items_playerOp]
    · rfl

/-- A loot task that does not fit pays nothing. -/
theorem Paid.full (h : Paid roster players ran) (loot : Loot) (c : UInt64) :
    Paid roster (Function.update players c (players c)) (ran ++ [(loot, false)]) := by
  rw [Function.update_eq_self]
  refine ⟨h.sound, fun c' => ?_, fun c' item hitem => ?_⟩
  · rw [goldWith_append, if_neg (by simp)]
    exact h.gold c'
  · rw [itemsWith_append, if_neg (by simp)]
    exact h.items c' item hitem

/-- A new loot is paid. -/
theorem Paid.loot (h : Paid roster players ran) (loot : Loot)
    (hnew : (players loot.attackerId).isNewLoot loot.txId = true) :
    Paid roster (Function.update players loot.attackerId
      ((players loot.attackerId).commitLoot loot.txId loot.dropItem loot.dropCount
        loot.rewardGold)) (ran ++ [(loot, true)]) := by
  have hgains := PlayerActor.gains_commitLoot (a := players loot.attackerId) loot.txId
    loot.dropItem loot.dropCount loot.rewardGold
  rw [hnew, if_pos rfl] at hgains
  refine ⟨fun c => ?_, fun c => ?_, fun c item hitem => ?_⟩
  · rw [Function.update_apply]
    split_ifs with hc
    · subst hc
      exact hgains.sound (h.sound _)
    · exact h.sound c
  · rw [goldWith_append, ← h.gold c, Function.update_apply]
    by_cases hc : c = loot.attackerId
    · subst hc
      rw [if_pos rfl, if_pos ⟨rfl, rfl⟩, hgains.getGold (h.sound _)]
    · rw [if_neg hc, if_neg fun heq => hc heq.2.symm]
  · rw [itemsWith_append, ← h.items c item hitem, Function.update_apply]
    by_cases hc : c = loot.attackerId
    · subst hc
      rw [if_pos rfl, PlayerActor.itemCount_commitLoot hnew hitem]
      simp
    · rw [if_neg hc, if_neg fun heq => hc heq.2.1.symm]

end

/-! ## Steps -/

/-- What every step keeps; `held` is the loot in the hands of a task that is
running. -/
structure Tallied (st : Battle) (held : List Loot) : Prop where
  tracked : Tracked st.zones (st.kills.map Loot.victim)
  delivered : st.kills.Perm (st.ran.map Prod.fst ++ (held ++ st.waiting))
  reward : ∀ loot ∈ held ++ st.waiting, loot.rewardGold = CharacterProgress.rewardGold

/-- What the steps keep that take no new loot for an old one. -/
structure Booked (roster : Roster) (st : Battle) : Prop extends Tallied st [] where
  paid : Paid roster st.players st.ran

section

variable {roster : Roster} {st : Battle} {held : List Loot}

theorem tallied_start (roster : Roster) : Tallied (start roster) [] where
  tracked := tracked_init
  delivered := .nil
  reward _ h := by cases h

theorem booked_start (roster : Roster) : Booked roster (start roster) where
  toTallied := tallied_start roster
  paid := ⟨roster.sound, fun _ => rfl, fun _ _ _ => rfl⟩

theorem Booked.rewardedOnce (h : Booked roster st) : RewardedOnce roster st where
  killed_once := h.tracked.nodup
  delivered := h.delivered
  gold := h.paid.gold
  items := h.paid.items

theorem waiting_post (st : Battle) (p : CombatPost) :
    (st.post p).waiting = st.waiting ++ p.loot?.toList := by
  simp only [waiting, post, List.filterMap_append]
  cases h : p.loot? <;> simp [h]

/-- Posting a task that is no loot holds no loot. -/
theorem Tallied.post (h : Tallied st held) {p : CombatPost} (hp : p.loot? = none) :
    Tallied (st.post p) held := by
  have hwaiting : (st.post p).waiting = st.waiting := by
    rw [waiting_post, hp, Option.toList_none, List.append_nil]
  refine ⟨h.tracked, ?_, ?_⟩
  · rw [hwaiting]
    exact h.delivered
  · rw [hwaiting]
    exact h.reward

/-- A task is taken from the mail. -/
theorem Tallied.take (h : Tallied st []) {actor : ActorAddr} {p : CombatPost}
    (hp : Mailbox.oldest CombatPost.addr actor st.mail = some p) :
    Tallied { st with mail := Mailbox.withoutOldest CombatPost.addr actor st.mail }
      p.loot?.toList := by
  have hperm : st.waiting.Perm (p.loot?.toList ++
      (Mailbox.withoutOldest CombatPost.addr actor st.mail).filterMap CombatPost.loot?) := by
    have hmail := (Mailbox.perm_cons_withoutOldest hp).filterMap CombatPost.loot?
    cases hl : p.loot? <;> simpa [waiting, List.filterMap_cons, hl] using hmail
  refine ⟨h.tracked, ?_, fun loot hloot => ?_⟩
  · have hdelivered := h.delivered
    rw [List.nil_append] at hdelivered
    exact hdelivered.trans (hperm.append_left _)
  · have hreward := h.reward loot
    rw [List.nil_append] at hreward
    exact hreward (hperm.symm.subset hloot)

theorem Tallied.runSpawn (h : Tallied st []) (zoneId templateId sid serial : UInt32) :
    Tallied (st.runSpawn zoneId templateId sid serial) [] :=
  ⟨h.tracked.spawn templateId, h.delivered, h.reward⟩

/-- A kill makes one loot, for the attacker that ran it. -/
theorem Tallied.runAttack (h : Tallied st []) (zoneId : UInt32) (attackerId : UInt64)
    (attackerAtk : UInt32) (monsterId : UInt64) (sid serial : UInt32) :
    Tallied (st.runAttack zoneId attackerId attackerAtk monsterId sid serial) [] := by
  unfold Battle.runAttack MonsterField.attack
  cases hmon : (st.zones zoneId).monsters monsterId with
  | none => exact h
  | some mon =>
      dsimp only
      by_cases hkill : MonsterField.damage attackerAtk mon.defense ≥ mon.hp
      · rw [if_pos hkill]
        dsimp only
        generalize hloot : lootOf zoneId attackerId sid serial
          (MonsterField.damage attackerAtk mon.defense) monsterId mon (st.zones zoneId).nextTxId =
            loot
        have hwaiting := waiting_post (st.setZone zoneId
          { st.zones zoneId with
            monsters := (st.zones zoneId).monsters.erase monsterId
            nextTxId := (st.zones zoneId).nextTxId + 1 }) (.loot loot)
        refine ⟨?_, ?_, fun l hl => ?_⟩
        · rw [List.map_append, List.map_singleton, ← hloot]
          exact h.tracked.kill hmon
        · have hdelivered := h.delivered.append_right [loot]
          rw [List.nil_append, List.append_assoc] at hdelivered
          rw [List.nil_append]
          change (st.kills ++ [loot]).Perm (st.ran.map Prod.fst ++ waiting (Battle.post _ _))
          rw [hwaiting]
          exact hdelivered
        · rw [List.nil_append] at hl
          change l ∈ waiting (Battle.post _ _) at hl
          rw [hwaiting] at hl
          rcases List.mem_append.mp hl with hold | hnew
          · exact h.reward l hold
          · obtain rfl := List.mem_singleton.mp hnew
            rw [← hloot]
            rfl
      · rw [if_neg hkill]
        exact ⟨h.tracked.hit hmon rfl, h.delivered, h.reward⟩

theorem players_runLoot (st : Battle) (loot : Loot) : (st.runLoot loot).players =
    Function.update st.players loot.attackerId
      (if (st.players loot.attackerId).canAddItem loot.dropItem then
        (st.players loot.attackerId).commitLoot loot.txId loot.dropItem loot.dropCount
          loot.rewardGold
      else st.players loot.attackerId) := rfl

theorem ran_runLoot (st : Battle) (loot : Loot) : (st.runLoot loot).ran =
    st.ran ++ [(loot, (st.players loot.attackerId).canAddItem loot.dropItem)] := rfl

theorem Tallied.runLoot {loot : Loot} (h : Tallied st [loot]) : Tallied (st.runLoot loot) [] := by
  have hdelivered := h.delivered
  rw [← List.append_assoc] at hdelivered
  refine ⟨h.tracked, ?_, fun l hl => h.reward l (List.mem_cons_of_mem _ hl)⟩
  rw [ran_runLoot, List.map_append, List.nil_append]
  exact hdelivered

/-- The step lemma: every loot is of a kill and runs once. -/
theorem Tallied.step {cfg : CombatConfig} {e : Event} (h : Tallied st []) :
    Tallied (st.step cfg e) [] := by
  cases e with
  | spawnMonster charId sid serial templateId =>
      simp only [Battle.step, handleWorldSpawnMonster]
      split_ifs
      · exact h
      · exact h
      all_goals exact h.post rfl
  | attackMonster charId sid serial monsterId =>
      simp only [Battle.step, handleWorldAttackMonster]
      split_ifs
      · exact h
      · exact h
      · exact h.post rfl
  | gameplay charId op => exact ⟨h.tracked, h.delivered, h.reward⟩
  | run actor =>
      simp only [Battle.step, runOldest]
      cases hp : Mailbox.oldest CombatPost.addr actor st.mail with
      | none => exact h
      | some p =>
          have htaken := h.take hp
          cases p with
          | spawn zoneId templateId sid serial => exact htaken.runSpawn zoneId templateId sid serial
          | attack zoneId attackerId attackerAtk monsterId sid serial =>
              exact htaken.runAttack zoneId attackerId attackerAtk monsterId sid serial
          | loot loot => exact htaken.runLoot

/-- A loot that runs pays its attacker, if it is new to it. -/
theorem paid_runLoot (st : Battle) (h : Paid roster st.players st.ran) {loot : Loot}
    (hnew : (st.players loot.attackerId).canAddItem loot.dropItem = true →
      (st.players loot.attackerId).isNewLoot loot.txId = true) :
    Paid roster (st.runLoot loot).players (st.runLoot loot).ran := by
  rw [players_runLoot, ran_runLoot]
  cases hfits : (st.players loot.attackerId).canAddItem loot.dropItem with
  | false => exact h.full loot loot.attackerId
  | true => exact h.loot loot (hnew hfits)

/-- The step lemma of both parts. -/
theorem Booked.step {cfg : CombatConfig} {e : Event} (h : Booked roster st)
    (hnew : st.NewLoot e) : Booked roster (st.step cfg e) := by
  refine ⟨h.toTallied.step, ?_⟩
  cases e with
  | spawnMonster charId sid serial templateId =>
      simp only [Battle.step, handleWorldSpawnMonster]
      split_ifs <;> exact h.paid
  | attackMonster charId sid serial monsterId =>
      simp only [Battle.step, handleWorldAttackMonster]
      split_ifs <;> exact h.paid
  | gameplay charId op => exact h.paid.gameplay charId op
  | run actor =>
      simp only [Battle.step, runOldest]
      cases hp : Mailbox.oldest CombatPost.addr actor st.mail with
      | none => exact h.paid
      | some p =>
          cases p with
          | spawn zoneId templateId sid serial => exact h.paid
          | attack zoneId attackerId attackerAtk monsterId sid serial =>
              simp only [runPost, Battle.runAttack]
              split <;> exact h.paid
          | loot loot =>
              exact paid_runLoot
                { st with mail := Mailbox.withoutOldest CombatPost.addr actor st.mail } h.paid
                (hnew loot hp)

/-- A loot task that the player takes for an old one is not paid. -/
theorem newLoot_of_rewardedOnce {cfg : CombatConfig} {e : Event} (h : Booked roster st)
    (hafter : RewardedOnce roster (st.step cfg e)) : st.NewLoot e := by
  cases e with
  | run actor =>
      intro loot hp hfits
      by_contra hold
      rw [Bool.not_eq_true] at hold
      have hreward : loot.rewardGold = CharacterProgress.rewardGold :=
        (h.take hp).reward loot List.mem_cons_self
      have hrun : st.step cfg (.run actor) =
          { st with mail := Mailbox.withoutOldest CombatPost.addr actor st.mail }.runLoot loot := by
        simp only [Battle.step, runOldest, hp, runPost]
      have hold' : ((st.players loot.attackerId).commitLoot loot.txId loot.dropItem loot.dropCount
          loot.rewardGold) = st.players loot.attackerId := by
        simp only [PlayerActor.commitLoot, hold, if_true]
      have hgold := hafter.gold loot.attackerId
      rw [hrun, players_runLoot, ran_runLoot, goldWith_append] at hgold
      simp only [hfits, if_true, hold', Function.update_self, and_self] at hgold
      rw [← h.paid.gold loot.attackerId, hreward] at hgold
      have hzero : CharacterProgress.rewardGold = 0 := by
        simpa using hgold
      exact absurd hzero (by decide)
  | _ => trivial

end

/-! ## Runs -/

/-- **Kill rewards**: throughout a run monsters are killed once and kills
rewarded once precisely if no loot task that fits carries a transaction id
its player remembers. -/
theorem rewardedOnce_run_iff (cfg : CombatConfig) (roster : Roster) (es : List Event) :
    Always (step cfg) (RewardedOnce roster) (start roster) es ↔
      Along (step cfg) NewLoot (start roster) es :=
  always_iff_along_of_strong (booked_start roster)
    (fun _ h => h.rewardedOnce) (fun _ _ h hnew => h.step hnew)
    (fun _ _ h hafter => newLoot_of_rewardedOnce h hafter)

/-- The requests of a player that spawns a small monster in its zone and kills
it, with the tasks they post. -/
def hunt (charId : UInt64) (sid serial zoneId : UInt32) : List Event :=
  [.spawnMonster charId sid serial 2, .run (.zone zoneId)] ++
    (List.replicate 3 [.attackMonster charId sid serial 1, .run (.zone zoneId)]).flatten ++
    [.run (.player charId)]

/-- Two zones count their transactions from one: the player commits the first
kill of zone 1, and the loot of the first kill of zone 2 is taken for it. -/
theorem not_rewardedOnce_twoZones : ¬ ∀ cfg roster es,
    Always (step cfg) (RewardedOnce roster) (start roster) es := by
  intro h
  have hend := always_iff_forall_part.mp
    (h {} ⟨fun c => { charId := c }, PlayerActor.sound_new⟩
      (hunt 11 7 70 1 ++ [.gameplay 11 (.setWorldPosition 2 1001 0 0 0 0 0)] ++ hunt 11 7 70 2))
    _ List.prefix_rfl
  have hgold := hend.gold 11
  revert hgold
  decide +kernel

end Battle

end GameServer
