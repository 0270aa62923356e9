import GameServer.World.KillRewards

/-!
# GameServer.World.LootTransactions

The transaction ids of the kills, and which of them a player remembers.

A zone actor counts its kills, so that an id of a zone comes again after 2^64
kills only; but every zone counts from one.  A player remembers the ids that it
has committed, whatever zone they are of, and forgets all of them when they are
too many.

* `Numbered` — the ids of a zone are the numbers of its kills;
* `Remembers` — what a player remembers it has committed since the set was last
  emptied;
* `otherZone_of_not_isNewLoot` — a loot task is taken for an old one only if its
  player has committed the kill of another zone with the same id.
-/

namespace GameServer

namespace Battle

/-- The kills in a zone, in order. -/
def killsIn (st : Battle) (zoneId : UInt32) : List Loot :=
  st.kills.filter fun loot => loot.victim.1 = zoneId

/-- The ids of a zone count its kills. -/
def Numbered (st : Battle) : Prop :=
  ∀ zoneId, (st.killsIn zoneId).map Loot.txId =
      (List.range (st.killsIn zoneId).length).map (fun k => UInt64.ofNat (k + 1)) ∧
    (st.zones zoneId).nextTxId = UInt64.ofNat ((st.killsIn zoneId).length + 1)

/-- One of these tasks has committed an id of the player's; `0` is never
remembered. -/
def Committed (charId : UInt64) (ran : List (Loot × Bool)) (txId : UInt64) : Prop :=
  txId ≠ 0 ∧ ∃ r ∈ ran, r.2 = true ∧ r.1.attackerId = charId ∧ r.1.txId = txId

/-- The player remembers what it has committed in the last so many of the tasks
that ran; if this is all of them, also what it remembered at the start. -/
def Remembers (roster : Roster) (st : Battle) (charId : UInt64) : Prop :=
  ∃ since, since <:+ st.ran ∧ ∀ txId, txId ∈ (st.players charId).committedLootTxs ↔
    Committed charId since txId ∨
      since = st.ran ∧ txId ∈ (roster.players charId).committedLootTxs

/-! ## The ids of a zone -/

section

variable {st : Battle}

theorem numbered_start (roster : Roster) : Numbered (start roster) := fun _ => ⟨rfl, rfl⟩

/-- Zones and kills are looked at only. -/
theorem Numbered.congr (h : Numbered st) {st' : Battle} (hkills : st'.kills = st.kills)
    (hnext : ∀ z, (st'.zones z).nextTxId = (st.zones z).nextTxId) : Numbered st' := by
  intro zoneId
  rw [killsIn, hkills, ← killsIn, hnext]
  exact h zoneId

/-- A zone that draws no id leaves the counters. -/
theorem nextTxId_setZone {zoneId : UInt32} {z : MonsterField}
    (h : z.nextTxId = (st.zones zoneId).nextTxId) (zoneId' : UInt32) :
    ((st.setZone zoneId z).zones zoneId').nextTxId = (st.zones zoneId').nextTxId := by
  simp only [setZone, Function.update_apply]
  split_ifs with hz
  · rw [h, hz]
  · rfl

/-- A kill takes the next id of its zone. -/
theorem numbered_kill (st : Battle) (h : Numbered st) {zoneId : UInt32} {z : MonsterField}
    {loot : Loot}
    (hz : z.nextTxId = (st.zones zoneId).nextTxId + 1) (hzone : loot.victim.1 = zoneId)
    (htx : loot.txId = (st.zones zoneId).nextTxId) :
    Numbered { (st.setZone zoneId z).post (.loot loot) with kills := st.kills ++ [loot] } := by
  intro zoneId'
  have hkills : killsIn { (st.setZone zoneId z).post (.loot loot) with
      kills := st.kills ++ [loot] } zoneId' =
        st.killsIn zoneId' ++ if zoneId' = zoneId then [loot] else [] := by
    rw [killsIn, List.filter_append, killsIn, List.filter_singleton]
    by_cases heq : zoneId' = zoneId
    · simp [heq, hzone]
    · simp [hzone, heq, Ne.symm heq]
  obtain ⟨hids, hnext⟩ := h zoneId'
  rw [hkills]
  simp only [post, setZone, Function.update_apply]
  split_ifs with heq
  · subst heq
    rw [List.length_append, List.length_singleton, List.range_succ, List.map_append, hids,
      List.map_append, List.map_singleton, List.map_singleton, htx, hz, hnext]
    refine ⟨rfl, ?_⟩
    rw [← UInt64.ofNat_one, ← UInt64.ofNat_add]
  · rw [List.append_nil]
    exact ⟨hids, hnext⟩

/-- The step lemma: a kill draws the next id of its zone. -/
theorem Numbered.step {cfg : CombatConfig} {e : Event} (h : Numbered st) :
    Numbered (st.step cfg e) := by
  cases e with
  | spawnMonster charId sid serial templateId =>
      simp only [Battle.step, handleWorldSpawnMonster]
      split_ifs <;> exact h
  | attackMonster charId sid serial monsterId =>
      simp only [Battle.step, handleWorldAttackMonster]
      split_ifs <;> exact h
  | gameplay charId op => exact h
  | run actor =>
      simp only [Battle.step, runOldest]
      cases Mailbox.oldest CombatPost.addr actor st.mail with
      | none => exact h
      | some p =>
          cases p with
          | spawn zoneId templateId sid serial => exact h.congr rfl (nextTxId_setZone rfl)
          | attack zoneId attackerId attackerAtk monsterId sid serial =>
              simp only [runPost, runAttack, MonsterField.attack]
              cases (st.zones zoneId).monsters monsterId with
              | none => exact h
              | some mon =>
                  dsimp only
                  split_ifs
                  · exact numbered_kill { st with mail := _ } h rfl rfl rfl
                  · exact h.congr rfl (nextTxId_setZone rfl)
          | loot loot => exact h

/-- Two kills of a zone have different ids, unless there were more than 2^64 of
them. -/
theorem Numbered.nodup (h : Numbered st) {zoneId : UInt32}
    (hfew : (st.killsIn zoneId).length ≤ 2 ^ 64) :
    ((st.killsIn zoneId).map Loot.txId).Nodup := by
  rw [(h zoneId).1]
  refine List.Nodup.map_on (fun k hk k' hk' heq => ?_) List.nodup_range
  rw [List.mem_range] at hk hk'
  have hnat := congrArg UInt64.toNat heq
  rw [UInt64.toNat_ofNat', UInt64.toNat_ofNat'] at hnat
  omega

end

/-! ## What a player remembers -/

theorem committed_append {c : UInt64} {ran : List (Loot × Bool)} {r : Loot × Bool}
    {txId : UInt64} : Committed c (ran ++ [r]) txId ↔
      Committed c ran txId ∨
        txId ≠ 0 ∧ r.2 = true ∧ r.1.attackerId = c ∧ r.1.txId = txId := by
  simp only [Committed, List.mem_append, List.mem_singleton, or_and_right, exists_or,
    exists_eq_left, and_or_left]

end Battle

namespace PlayerActor

variable {a : PlayerActor}

theorem committedLootTxs_sync :
    a.syncProjectionFromCoreState.committedLootTxs = a.committedLootTxs := by
  unfold syncProjectionFromCoreState syncCombatProjectionFromAuthoritative
  split
  · rfl
  · split <;> rfl

theorem committedLootTxs_addGold (amount : UInt32) :
    (a.addGold amount).committedLootTxs = a.committedLootTxs := by
  unfold addGold
  rw [committedLootTxs_sync]
  rfl

/-- Only the loot commits ids. -/
theorem committedLootTxs_playerOp (op : CharacterProgress.PlayerOp) :
    (op.apply a).committedLootTxs = a.committedLootTxs := by
  cases op with
  | setCurrentHp hp =>
      simp only [CharacterProgress.PlayerOp.apply, setCurrentHp]
      rw [committedLootTxs_sync]
      rfl
  | setWorldPosition zoneId mapId mapInstanceId x y z heading =>
      simp only [CharacterProgress.PlayerOp.apply, setWorldPosition]
      rw [committedLootTxs_sync]
      rfl
  | bindSession sid serial =>
      simp only [CharacterProgress.PlayerOp.apply, bindSession]
      split
      · rfl
      · rw [committedLootTxs_sync]
        rfl

/-- A commit adds its id, or empties the set. -/
theorem committedLootTxs_commitLoot (txId : UInt64) (itemId count gold : UInt32) :
    (∀ t, t ∈ (a.commitLoot txId itemId count gold).committedLootTxs ↔
        t ∈ a.committedLootTxs ∨ t ≠ 0 ∧ t = txId) ∨
      (a.commitLoot txId itemId count gold).committedLootTxs = ∅ := by
  unfold commitLoot
  by_cases hold : a.isNewLoot txId = false
  · -- an id that is taken for an old one is not 0 and in the set
    rw [if_pos hold]
    simp only [isNewLoot, Bool.or_eq_false_iff, decide_eq_false_iff_not, not_not] at hold
    refine .inl fun t => ⟨.inl, ?_⟩
    rintro (ht | ⟨-, rfl⟩)
    · exact ht
    · exact hold.2
  · rw [if_neg hold]
    dsimp only
    rw [committedLootTxs_addGold]
    dsimp only
    by_cases hzero : txId = 0
    · rw [if_pos hzero]
      refine .inl fun t => ⟨.inl, ?_⟩
      rintro (ht | ⟨ht, rfl⟩)
      · exact ht
      · exact absurd hzero ht
    · rw [if_neg hzero]
      split_ifs
      · exact .inr rfl
      · refine .inl fun t => ?_
        rw [Finset.mem_insert, or_comm]
        exact or_congr_right ⟨fun ht => ⟨ht ▸ hzero, ht⟩, And.right⟩

end PlayerActor

namespace Battle

section

variable {roster : Roster} {st : Battle}

theorem remembers_start (roster : Roster) (c : UInt64) : Remembers roster (start roster) c :=
  ⟨[], List.suffix_rfl, fun txId => by simp [Committed, start]⟩

theorem Remembers.congr {c : UInt64} (h : Remembers roster st c) {st' : Battle}
    (hplayer : (st'.players c).committedLootTxs = (st.players c).committedLootTxs)
    (hran : st'.ran = st.ran) : Remembers roster st' c := by
  rw [Remembers, hplayer, hran]
  exact h

/-- A loot that runs is remembered, after a trim if the set was full. -/
theorem Remembers.runLoot (loot : Loot) {c : UInt64} (h : Remembers roster st c) :
    Remembers roster (st.runLoot loot) c := by
  obtain ⟨since, ⟨before, hbefore⟩, hmem⟩ := h
  rw [Remembers, players_runLoot, ran_runLoot]
  generalize hok : (st.players loot.attackerId).canAddItem loot.dropItem = ok
  have hsame : since ++ [(loot, ok)] = st.ran ++ [(loot, ok)] ↔ since = st.ran :=
    List.append_left_inj _
  -- the task adds its id, or nothing
  have hgrows : ∀ txs : Finset UInt64,
      (∀ t, t ∈ txs ↔ t ∈ (st.players c).committedLootTxs ∨
        t ≠ 0 ∧ ok = true ∧ loot.attackerId = c ∧ loot.txId = t) →
      ∃ since', since' <:+ st.ran ++ [(loot, ok)] ∧ ∀ t, t ∈ txs ↔
        Committed c since' t ∨
          since' = st.ran ++ [(loot, ok)] ∧ t ∈ (roster.players c).committedLootTxs := by
    intro txs htxs
    refine ⟨since ++ [(loot, ok)], ⟨before, by rw [← List.append_assoc, hbefore]⟩, fun t => ?_⟩
    rw [htxs, hmem, hsame, committed_append]
    exact or_right_comm
  rw [Function.update_apply]
  by_cases hc : c = loot.attackerId
  · subst hc
    rw [if_pos rfl]
    cases ok with
    | false => exact hgrows _ fun t => by simp
    | true =>
        rw [if_pos rfl]
        rcases (st.players loot.attackerId).committedLootTxs_commitLoot loot.txId loot.dropItem
          loot.dropCount loot.rewardGold with hadds | hempty
        · refine hgrows _ fun t => ?_
          rw [hadds]
          simp [eq_comm]
        · refine ⟨[], List.nil_suffix, fun t => ?_⟩
          rw [hempty]
          simp [Committed]
  · rw [if_neg hc]
    exact hgrows _ fun t => by simp [Ne.symm hc]

/-- The step lemma over all events of the battle. -/
theorem Remembers.step {cfg : CombatConfig} {e : Event} {c : UInt64} (h : Remembers roster st c) :
    Remembers roster (st.step cfg e) c := by
  cases e with
  | spawnMonster charId sid serial templateId =>
      simp only [Battle.step, handleWorldSpawnMonster]
      split_ifs <;> exact h
  | attackMonster charId sid serial monsterId =>
      simp only [Battle.step, handleWorldAttackMonster]
      split_ifs <;> exact h
  | gameplay charId op =>
      refine h.congr ?_ rfl
      simp only [Battle.step, setPlayer, Function.update_apply]
      split_ifs with hc
      · rw [hc, PlayerActor.committedLootTxs_playerOp]
      · rfl
  | run actor =>
      simp only [Battle.step, runOldest]
      cases Mailbox.oldest CombatPost.addr actor st.mail with
      | none => exact h
      | some p =>
          cases p with
          | spawn zoneId templateId sid serial => exact h
          | attack zoneId attackerId attackerAtk monsterId sid serial =>
              simp only [runPost, runAttack]
              split <;> exact h
          | loot loot => exact Remembers.runLoot loot h

end

/-! ## Runs -/

/-- What makes a loot task be taken for an old one, in every run of fewer than
2^64 kills a zone: its player has committed the kill of another zone with the
same id, if it remembered nothing at the start. -/
theorem otherZone_of_not_isNewLoot (cfg : CombatConfig) (roster : Roster) (es : List Event)
    {actor : ActorAddr} {loot : Loot}
    (hfew : ∀ zoneId, ((run (step cfg) (start roster) es).killsIn zoneId).length ≤ 2 ^ 64)
    (hfresh : (roster.players loot.attackerId).committedLootTxs = ∅)
    (hp : Mailbox.oldest CombatPost.addr actor (run (step cfg) (start roster) es).mail =
      some (.loot loot))
    (hold : ((run (step cfg) (start roster) es).players loot.attackerId).isNewLoot loot.txId =
      false) :
    ∃ r ∈ (run (step cfg) (start roster) es).ran, r.2 = true ∧
      r.1.attackerId = loot.attackerId ∧ r.1.txId = loot.txId ∧ r.1.victim.1 ≠ loot.victim.1 := by
  have htallied : Tallied (run (step cfg) (start roster) es) [] :=
    run_induction (W := fun st => Tallied st []) (tallied_start roster) fun _ _ h => h.step
  have hnumbered : Numbered (run (step cfg) (start roster) es) :=
    run_induction (numbered_start roster) fun _ _ h => h.step
  have hremembers : Remembers roster (run (step cfg) (start roster) es) loot.attackerId :=
    run_induction (W := fun st => Remembers roster st loot.attackerId)
      (remembers_start roster loot.attackerId) fun _ _ h => h.step
  generalize run (step cfg) (start roster) es = st at *
  obtain ⟨since, hsuffix, hmem⟩ := hremembers
  simp only [PlayerActor.isNewLoot, Bool.or_eq_false_iff, decide_eq_false_iff_not, not_not] at hold
  rw [hmem, hfresh] at hold
  obtain ⟨-, r, hr, hok, hattacker, htx⟩ := hold.2.resolve_right fun h => absurd h.2 (by simp)
  have hran : r ∈ st.ran := hsuffix.subset hr
  refine ⟨r, hran, hok, hattacker, htx, fun hzone => ?_⟩
  -- both are kills of the zone, and one has run while the other waits
  have hwaits : loot ∈ st.waiting :=
    List.mem_filterMap.mpr
      ⟨_, (Mailbox.perm_cons_withoutOldest hp).symm.subset List.mem_cons_self, rfl⟩
  have hnodup := hnumbered.nodup (hfew loot.victim.1)
  have hperm := (htallied.delivered.filter fun l => l.victim.1 = loot.victim.1).map Loot.txId
  rw [List.nil_append, List.filter_append, List.map_append] at hperm
  have hapart := (List.nodup_append.mp (hperm.nodup_iff.mp hnodup)).2.2
  refine hapart r.1.txId (List.mem_map_of_mem (List.mem_filter.mpr
    ⟨List.mem_map_of_mem hran, by simpa using hzone⟩)) loot.txId (List.mem_map_of_mem
      (List.mem_filter.mpr ⟨hwaits, by simp⟩)) htx

end Battle

end GameServer
