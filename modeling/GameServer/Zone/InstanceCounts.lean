import GameServer.Lib.Counts
import GameServer.Zone.SpatialExact

/-!
# GameServer.Zone.InstanceCounts

The books of a zone process: the player count of each map instance, the
bindings it stands for, and the metrics it publishes.

* `Accounted` — the count of an instance is the number of players bound to
  it, and every player is bound to an instance that exists;
* `Published` — the metrics are the sizes of the two tables and their sum;
* `booked_step` — every request keeps both, as long as the numbers fit;
* `accounting_run` — so does every run from an empty process.
-/

namespace GameServer

namespace ZoneRuntime

open Counts

/-! ## The books -/

/-- The number of players bound to a map instance. -/
def boundPlayers (z : ZoneRuntime) (mapKey : UInt64) : Nat :=
  countValues (fun b => decide (b.mapKey = mapKey)) z.playerBindings

/-- The counter of a map instance. -/
def playerCount (z : ZoneRuntime) (mapKey : UInt64) : Option UInt16 :=
  (z.mapInstances.lookup mapKey).map (·.activePlayerCount)

/-- The counters of the instances are right. -/
structure Accounted (z : ZoneRuntime) : Prop where
  counted : ∀ k n, z.playerCount k = some n → n.toNat = z.boundPlayers k
  housed : ∀ id b, z.playerBindings.lookup id = some b → z.playerCount b.mapKey ≠ none

/-- The published metrics are right. -/
structure Published (z : ZoneRuntime) : Prop where
  instances : z.activeMapInstanceCount.toNat = size z.mapInstances
  players : z.activePlayerCount.toNat = size z.playerBindings
  load : z.loadScore.toNat = size z.mapInstances + size z.playerBindings

/-- Players and instances fit the 16 bits of the counters. -/
def Small (z : ZoneRuntime) : Prop := size z.playerBindings + size z.mapInstances < 65536

instance (z : ZoneRuntime) : Decidable z.Small := inferInstanceAs (Decidable (_ < _))

/-- No sweep removes an instance that has players. -/
def SweepsSpare (z : ZoneRuntime) : Prop :=
  ∀ now k, 0 < z.boundPlayers k →
    (z.reapEmptyDungeonInstances now).mapInstances.lookup k = z.mapInstances.lookup k

/-- The books of a process with a capacity. -/
structure Booked (cfg : ZoneConfig) (z : ZoneRuntime) : Prop where
  accounted : z.Accounted
  published : z.Published
  capacity : size z.mapInstances ≤ cfg.mapInstanceCapacity.toNat

/-! ## Instances -/

variable {cfg : ZoneConfig} {z z' : ZoneRuntime} {k k' : UInt64} {now : Nat}

/-- A change of one instance leaves the others. -/
theorem lookup_modifyInstance (f : MapInstanceState → MapInstanceState) :
    (z.modifyInstance k f).mapInstances.lookup k' =
      if k' = k then (z.mapInstances.lookup k').map f else z.mapInstances.lookup k' := by
  unfold modifyInstance
  cases hk : z.mapInstances.lookup k with
  | none =>
      split_ifs with heq
      · rw [heq, hk]
        rfl
      · rfl
  | some inst =>
      dsimp only
      split_ifs with heq
      · rw [heq, AList.lookup_insert, hk]
        rfl
      · exact AList.lookup_insert_ne heq

/-- A change of an instance is a change of its counter. -/
theorem playerCount_modifyInstance {f : MapInstanceState → MapInstanceState} {g : UInt16 → UInt16}
    (hf : ∀ inst, (f inst).activePlayerCount = g inst.activePlayerCount) :
    (z.modifyInstance k f).playerCount k' =
      if k' = k then (z.playerCount k').map g else z.playerCount k' := by
  unfold playerCount
  rw [lookup_modifyInstance]
  split_ifs
  · rw [Option.map_map, Option.map_map]
    exact congrArg (Option.map · _) (funext hf)
  · rfl

theorem size_modifyInstance (f : MapInstanceState → MapInstanceState) :
    size (z.modifyInstance k f).mapInstances = size z.mapInstances := by
  unfold modifyInstance
  cases hk : z.mapInstances.lookup k with
  | none => rfl
  | some inst => exact size_insert_of_lookup hk (f inst)

theorem metrics_modifyInstance (f : MapInstanceState → MapInstanceState) :
    (z.modifyInstance k f).activeMapInstanceCount = z.activeMapInstanceCount ∧
      (z.modifyInstance k f).activePlayerCount = z.activePlayerCount ∧
      (z.modifyInstance k f).loadScore = z.loadScore := by
  unfold modifyInstance
  split <;> exact ⟨rfl, rfl, rfl⟩

/-- The guarded decrement. -/
def oneLess (n : UInt16) : UInt16 := if n > 0 then n - 1 else n

/-- The count stops at zero. -/
theorem toNat_oneLess (n : UInt16) : (oneLess n).toNat = n.toNat - 1 := by
  unfold oneLess
  split_ifs with hpos
  · have hone : (1 : UInt16) ≤ n := by
      rw [UInt16.le_iff_toNat_le]
      exact UInt16.lt_iff_toNat_lt.mp hpos
    rw [UInt16.toNat_sub_of_le _ _ hone]
    rfl
  · have hzero : n.toNat ≤ 0 := not_lt.mp (UInt16.lt_iff_toNat_lt.not.mp hpos)
    omega

/-! ## Metrics -/

theorem toNat_sum (l : List UInt32) : l.sum.toNat = (l.map UInt32.toNat).sum % 2 ^ 32 := by
  induction l with
  | nil => rfl
  | cons n l ih =>
      rw [List.sum_cons, List.map_cons, List.sum_cons, UInt32.toNat_add, ih]
      omega

theorem mem_instances_of_playerCount (h : z.playerCount k ≠ none) : k ∈ z.mapInstances.keys := by
  refine AList.mem_keys.mp (AList.lookup_isSome.mp ?_)
  unfold playerCount at h
  simpa [Option.isSome_iff_ne_none] using h

/-- The counts of all instances add up to the number of players. -/
theorem Accounted.sum_counts (h : z.Accounted) :
    (z.mapInstances.entries.map fun e => e.2.activePlayerCount.toNat).sum =
      size z.playerBindings := by
  have hkeys : (z.mapInstances.entries.map fun e => e.2.activePlayerCount.toNat) =
      z.mapInstances.keys.map fun k =>
        countValues (fun b => decide (b.mapKey = k)) z.playerBindings := by
    rw [AList.keys, List.keys, List.map_map]
    refine List.map_congr_left fun e he => h.counted e.1 _ ?_
    rw [playerCount, AList.mem_lookup_iff.mpr he]
    rfl
  rw [hkeys]
  exact sum_countValues z.mapInstances.keys_nodup fun id b hb =>
    mem_instances_of_playerCount (h.housed id b hb)

/-- The metrics are published from counts that are right and fit. -/
theorem Accounted.published (h : z.Accounted) (hsmall : z.Small) : z.refreshMetrics.Published := by
  have hsmall : size z.playerBindings + size z.mapInstances < 65536 := hsmall
  have hplayers : (z.mapInstances.entries.map fun e : Sigma fun _ : UInt64 => MapInstanceState =>
      e.2.activePlayerCount.toUInt32).sum.toNat = size z.playerBindings := by
    have hsum := h.sum_counts
    rw [toNat_sum, List.map_map]
    simp only [Function.comp_def, UInt16.toNat_toUInt32]
    rw [hsum]
    omega
  refine ⟨?_, ?_, ?_⟩
  · have hlt : size z.mapInstances < 65536 := by omega
    exact Nat.mod_eq_of_lt hlt
  · change (UInt32.toUInt16 (List.sum _)).toNat = _
    rw [UInt32.toNat_toUInt16, hplayers]
    exact Nat.mod_eq_of_lt (by omega)
  · change (UInt16.ofNat (size z.mapInstances + UInt32.toNat (List.sum _))).toNat = _
    rw [hplayers, UInt16.toNat_ofNat']
    exact Nat.mod_eq_of_lt (by omega)

theorem booked_refreshMetrics (h : z.Accounted) (hsmall : z.Small)
    (hcapacity : size z.mapInstances ≤ cfg.mapInstanceCapacity.toNat) :
    z.refreshMetrics.Booked cfg :=
  ⟨⟨h.counted, h.housed⟩, h.published hsmall, hcapacity⟩

/-! ## Binding and unbinding -/

/-- A player is unbound, and counted out of its instance. -/
theorem Accounted.unbind (h : z.Accounted) {id : UInt64} {b : PlayerBindingState}
    (hb : z.playerBindings.lookup id = some b)
    (hbindings : z'.playerBindings = AList.erase id z.playerBindings)
    (hcounts : ∀ k, z'.playerCount k =
      if k = b.mapKey then (z.playerCount k).map oneLess else z.playerCount k) :
    z'.Accounted := by
  refine ⟨fun k n hn => ?_, fun id' b' hb' => ?_⟩
  · have hcount := countValues_erase_add (fun b => decide (b.mapKey = k)) z.playerBindings id
    rw [hb] at hcount
    rw [boundPlayers, hbindings]
    rw [hcounts] at hn
    split_ifs at hn with heq
    · obtain ⟨n', hn', rfl⟩ := Option.map_eq_some_iff.mp hn
      rw [toNat_oneLess, h.counted k n' hn', boundPlayers, ← hcount]
      simp [heq]
    · rw [h.counted k n hn, boundPlayers, ← hcount]
      simp [Ne.symm heq]
  · rw [hbindings] at hb'
    rw [hcounts]
    by_cases hid : id' = id
    · rw [hid, AList.lookup_erase] at hb'
      cases hb'
    · rw [AList.lookup_erase_ne hid] at hb'
      have hhoused := h.housed id' b' hb'
      split_ifs
      · simpa using hhoused
      · exact hhoused

/-- A player without a binding is bound, and counted in. -/
theorem Accounted.bind (h : z.Accounted) {id : UInt64} {b : PlayerBindingState}
    (hnone : z.playerBindings.lookup id = none) (hinst : z.playerCount b.mapKey ≠ none)
    (hbindings : z'.playerBindings = AList.insert id b z.playerBindings)
    (hsmall : size z'.playerBindings < 65536)
    (hcounts : ∀ k, z'.playerCount k =
      if k = b.mapKey then (z.playerCount k).map (· + 1) else z.playerCount k) :
    z'.Accounted := by
  refine ⟨fun k n hn => ?_, fun id' b' hb' => ?_⟩
  · have hcount := countValues_insert_add (fun b => decide (b.mapKey = k)) z.playerBindings id b
    rw [hnone, ← hbindings] at hcount
    have hle := countValues_le_size (fun b => decide (b.mapKey = k)) z'.playerBindings
    rw [boundPlayers]
    rw [hcounts] at hn
    split_ifs at hn with heq
    · obtain ⟨n', hn', rfl⟩ := Option.map_eq_some_iff.mp hn
      have hn' := h.counted k n' hn'
      simp only [heq, decide_true, Bool.toNat_true, Option.elim_none, add_zero] at hcount hle ⊢
      rw [boundPlayers, heq] at hn'
      rw [UInt16.toNat_add, hn', hcount]
      refine Nat.mod_eq_of_lt ?_
      change _ + 1 < 65536
      omega
    · rw [h.counted k n hn, boundPlayers]
      simpa [Ne.symm heq] using hcount.symm
  · have hhoused : z.playerCount b'.mapKey ≠ none := by
      rw [hbindings] at hb'
      by_cases hid : id' = id
      · rw [hid, AList.lookup_insert] at hb'
        cases hb'
        exact hinst
      · rw [AList.lookup_insert_ne hid] at hb'
        exact h.housed id' b' hb'
    rw [hcounts]
    split_ifs
    · simpa using hhoused
    · exact hhoused

/-! ## Requests -/

/-- A request that changes neither a counter nor a binding. -/
theorem Booked.modifyInstance (h : z.Booked cfg) {f : MapInstanceState → MapInstanceState}
    (hf : ∀ inst, (f inst).activePlayerCount = inst.activePlayerCount) :
    (z.modifyInstance k f).Booked cfg := by
  have hcounts : ∀ k', (z.modifyInstance k f).playerCount k' = z.playerCount k' := by
    intro k'
    rw [playerCount_modifyInstance (g := id) hf, Option.map_id, id_eq, ite_self]
  obtain ⟨hinstances, hplayers, hload⟩ := metrics_modifyInstance (z := z) (k := k) f
  refine ⟨⟨fun k' n hn => ?_, fun id b hb => ?_⟩, ⟨?_, ?_, ?_⟩, ?_⟩
  · rw [hcounts] at hn
    rw [boundPlayers, modifyInstance_playerBindings]
    exact h.accounted.counted k' n hn
  · rw [modifyInstance_playerBindings] at hb
    rw [hcounts]
    exact h.accounted.housed id b hb
  · rw [hinstances, size_modifyInstance]
    exact h.published.instances
  · rw [hplayers, modifyInstance_playerBindings]
    exact h.published.players
  · rw [hload, size_modifyInstance, modifyInstance_playerBindings]
    exact h.published.load
  · rw [size_modifyInstance]
    exact h.capacity

/-- A binding replaced by one to the same instance. -/
theorem Booked.rebind (h : z.Booked cfg) {id : UInt64} {b b' : PlayerBindingState}
    (hb : z.playerBindings.lookup id = some b) (hmap : b'.mapKey = b.mapKey)
    (idx : SpatialIndex) :
    Booked cfg { z with
      playerBindings := AList.insert id b' z.playerBindings, spatialIndex := idx } := by
  have hsize := size_insert_of_lookup hb b'
  refine ⟨⟨fun k n hn => ?_, fun id' b'' hb'' => ?_⟩, ⟨h.published.instances, ?_, ?_⟩,
    h.capacity⟩
  · have hcount := countValues_insert_add (fun b => decide (b.mapKey = k)) z.playerBindings id b'
    rw [hb, hmap] at hcount
    exact (h.accounted.counted k n hn).trans (Nat.add_right_cancel hcount).symm
  · by_cases hid : id' = id
    · subst hid
      rw [AList.lookup_insert] at hb''
      cases hb''
      rw [hmap]
      exact h.accounted.housed id' b hb
    · rw [AList.lookup_insert_ne hid] at hb''
      exact h.accounted.housed id' b'' hb''
  · rw [hsize]
    exact h.published.players
  · rw [hsize]
    exact h.published.load

/-- A move stays within its instance. -/
theorem booked_onPlayerMoveInternalRequest (h : z.Booked cfg) (now : Nat)
    (req : WorldZonePlayerMoveInternal) :
    (z.onPlayerMoveInternalRequest cfg now req).Booked cfg := by
  unfold onPlayerMoveInternalRequest
  cases hb : z.playerBindings.lookup req.charId with
  | none => exact h
  | some b =>
      have htouched : (z.modifyInstance b.mapKey fun inst =>
          { inst with lastAccessAt := now }).Booked cfg := h.modifyInstance fun _ => rfl
      have hb' := hb
      rw [← modifyInstance_playerBindings z b.mapKey
        (fun inst => { inst with lastAccessAt := now })] at hb'
      have hmap : (movedBinding cfg req b).mapKey = b.mapKey := rfl
      exact htouched.rebind hb' hmap _

/-- A leave counts one player less where the player was bound. -/
theorem booked_onPlayerLeaveRequest (h : z.Booked cfg) (now : Nat) (req : WorldZonePlayerLeave)
    (hsmall : (z.onPlayerLeaveRequest now req).Small) :
    (z.onPlayerLeaveRequest now req).Booked cfg := by
  unfold onPlayerLeaveRequest at hsmall ⊢
  cases hb : z.playerBindings.lookup req.charId with
  | none => exact h
  | some b =>
      simp only [hb] at hsmall ⊢
      refine booked_refreshMetrics (h.accounted.unbind hb ?_ fun k => ?_) hsmall ?_
      · simp only [modifyInstance_playerBindings]
      · exact playerCount_modifyInstance fun _ => rfl
      · exact (size_modifyInstance _).le.trans h.capacity

theorem insert_erase (m : AList fun _ : UInt64 => PlayerBindingState) (id : UInt64)
    (b : PlayerBindingState) : AList.insert id b (AList.erase id m) = AList.insert id b m := by
  refine AList.ext ?_
  rw [AList.entries_insert, AList.entries_insert]
  exact congrArg _ (List.kerase_of_notMem_keys (List.notMem_keys_kerase id m.nodupKeys))

/-- An enter moves one player from the instance it was in to the one it enters. -/
theorem booked_onPlayerEnterRequest (h : z.Booked cfg) (now : Nat) (req : WorldZonePlayerEnter)
    (hsmall : (z.onPlayerEnterRequest cfg now req).1.Small) :
    (z.onPlayerEnterRequest cfg now req).1.Booked cfg := by
  unfold onPlayerEnterRequest at hsmall ⊢
  set key := makeMapInstanceKey req.mapTemplateId req.instanceId with hkey
  cases hinst : z.mapInstances.lookup key with
  | none => simpa only [hinst] using h
  | some inst =>
      have hexists : z.playerCount key ≠ none := by simp [playerCount, hinst]
      simp only [hinst] at hsmall ⊢
      split_ifs at hsmall ⊢ with hbound
      · exact h.modifyInstance fun _ => rfl
      · cases hold : z.playerBindings.lookup req.charId with
        | none =>
            simp only [hold] at hsmall ⊢
            have hone := lt_of_le_of_lt (Nat.le_add_right _ _) hsmall
            refine booked_refreshMetrics
              (h.accounted.bind hold (b := enteredBinding key req none) hexists ?_ hone fun k => ?_)
              hsmall ?_
            · simp only [modifyInstance_playerBindings]
            · exact playerCount_modifyInstance fun _ => rfl
            · exact (size_modifyInstance _).le.trans h.capacity
        | some old =>
            simp only [hold] at hsmall ⊢
            have hne : key ≠ old.mapKey := by
              rw [hold] at hbound
              simpa using Ne.symm (by simpa using hbound)
            have hone := lt_of_le_of_lt (Nat.le_add_right _ _) hsmall
            -- out of the old instance first, as if the player had left
            set left : ZoneRuntime := { z.modifyInstance old.mapKey fun inst =>
                if inst.activePlayerCount > 0 then countOut now inst else inst with
              playerBindings := AList.erase req.charId z.playerBindings } with hleft
            have hcounts : ∀ k, left.playerCount k =
                if k = old.mapKey then (z.playerCount k).map oneLess else z.playerCount k := by
              refine fun k => playerCount_modifyInstance fun inst => ?_
              unfold countOut oneLess
              split_ifs <;> rfl
            have hunbound : left.Accounted := h.accounted.unbind hold rfl hcounts
            refine booked_refreshMetrics
              (hunbound.bind (b := enteredBinding key req (some old))
                (AList.lookup_erase req.charId z.playerBindings) ?_ ?_ hone fun k => ?_)
              hsmall ?_
            · exact ((hcounts key).trans (if_neg hne)).symm ▸ hexists
            · rw [insert_erase]
              simp only [modifyInstance_playerBindings]
            · exact playerCount_modifyInstance fun _ => rfl
            · exact (size_modifyInstance _).le.trans ((size_modifyInstance _).le.trans h.capacity)

/-- A new instance has no players. -/
theorem Accounted.create (h : z.Accounted) {inst : MapInstanceState}
    (hnone : z.mapInstances.lookup k = none) (hzero : inst.activePlayerCount = 0) :
    Accounted { z with mapInstances := AList.insert k inst z.mapInstances } := by
  have hcount : z.playerCount k = none := by simp [playerCount, hnone]
  have hempty : z.boundPlayers k = 0 := by
    by_contra hpos
    obtain ⟨id, b, hb, hkey⟩ := countValues_pos_iff.mp (Nat.pos_of_ne_zero hpos)
    exact h.housed id b hb (of_decide_eq_true hkey ▸ hcount)
  have hcounts : ∀ k', playerCount { z with mapInstances := AList.insert k inst z.mapInstances } k' =
      if k' = k then some 0 else z.playerCount k' := by
    intro k'
    unfold playerCount
    split_ifs with heq
    · rw [heq, AList.lookup_insert, Option.map_some, hzero]
    · rw [AList.lookup_insert_ne heq]
  refine ⟨fun k' n hn => ?_, fun id b hb => ?_⟩
  · rw [hcounts] at hn
    split_ifs at hn with heq
    · cases hn
      rw [heq]
      exact hempty.symm
    · exact h.counted k' n hn
  · rw [hcounts]
    split_ifs
    · simp
    · exact h.housed id b hb

/-- A new instance has no players yet. -/
theorem booked_onMapAssignRequest (h : z.Booked cfg) (now : Nat) (req : WorldZoneMapAssignRequest)
    (hsmall : (z.onMapAssignRequest cfg now req).1.Small) :
    (z.onMapAssignRequest cfg now req).1.Booked cfg := by
  unfold onMapAssignRequest at hsmall ⊢
  dsimp only at hsmall ⊢
  split_ifs at hsmall ⊢ with hvalid hmissing hfull
  · exact h
  · exact h
  · exact h
  · unfold ensureMapInstance at hsmall ⊢
    dsimp only at hsmall ⊢
    cases hinst : z.mapInstances.lookup (makeMapInstanceKey req.mapTemplateId req.instanceId) with
    | some inst =>
        have htouched := h.modifyInstance (k := makeMapInstanceKey req.mapTemplateId req.instanceId)
          (f := fun inst => { inst with lastAccessAt := now }) fun _ => rfl
        simpa only [ZoneRuntime.modifyInstance, hinst] using htouched
    | none =>
        simp only [hinst] at hsmall hmissing hfull ⊢
        split_ifs at hsmall ⊢ with hcreate
        · exact h
        · refine booked_refreshMetrics (h.accounted.create hinst rfl) hsmall ?_
          have hsize := size_insert_add z.mapInstances
            (makeMapInstanceKey req.mapTemplateId req.instanceId)
            { mapTemplateId := req.mapTemplateId, instanceId := req.instanceId
              dungeonInstance := (req.dungeonInstance != 0) || req.mapTemplateId ≥ 2000
              createdAt := now, lastAccessAt := now }
          rw [hinst] at hsize
          -- there was room, or the request would have been refused
          have hroom : size z.mapInstances < cfg.mapInstanceCapacity.toNat := by
            have hcreate' : req.createIfMissing ≠ 0 := by simpa using hcreate
            simpa [hcreate', size] using hfull
          exact hsize.le.trans hroom

/-- Erasing a list of keys erases each of them: induction on the list. -/
theorem lookup_foldl_erase {κ β : Type} [DecidableEq κ] {k : κ} (ks : List κ)
    (m : AList fun _ : κ => β) :
    (ks.foldl (fun m k => AList.erase k m) m).lookup k =
      if k ∈ ks then none else m.lookup k := by
  induction ks generalizing m with
  | nil => rfl
  | cons k' ks ih =>
      rw [List.foldl_cons, ih]
      by_cases hk : k = k'
      · subst hk
        simp [AList.lookup_erase]
      · simp [AList.lookup_erase_ne hk, hk]

/-- Erasing instances makes their number no greater. -/
theorem size_foldl_erase_le (ks : List UInt64) (m : AList fun _ : UInt64 => MapInstanceState) :
    size (ks.foldl (fun m k => AList.erase k m) m) ≤ size m := by
  induction ks generalizing m with
  | nil => exact le_rfl
  | cons k' ks ih =>
      have hle := (Nat.le_add_right _ _).trans (size_erase_add m k').le
      exact (ih (AList.erase k' m)).trans hle

/-- A sweep removes the instances that are due, and no others. -/
theorem lookup_reapEmptyDungeonInstances :
    (z.reapEmptyDungeonInstances now).mapInstances.lookup k =
      (z.mapInstances.lookup k).filter fun inst => !isReapable now inst := by
  have hgone : k ∈ (z.mapInstances.entries.filter fun e => isReapable now e.2).map Sigma.fst ↔
      ∃ inst, z.mapInstances.lookup k = some inst ∧ isReapable now inst = true := by
    simp only [List.mem_map, List.mem_filter]
    constructor
    · rintro ⟨e, ⟨he, hdue⟩, rfl⟩
      exact ⟨e.2, AList.mem_lookup_iff.mpr he, hdue⟩
    · rintro ⟨inst, hinst, hdue⟩
      exact ⟨⟨k, inst⟩, ⟨AList.mem_lookup_iff.mp hinst, hdue⟩, rfl⟩
  have hlookup : (((z.mapInstances.entries.filter fun e => isReapable now e.2).map Sigma.fst).foldl
      (fun m k => AList.erase k m) z.mapInstances).lookup k =
        (z.mapInstances.lookup k).filter fun inst => !isReapable now inst := by
    rw [lookup_foldl_erase]
    cases hinst : z.mapInstances.lookup k with
    | none => simp
    | some inst =>
        rw [hinst] at hgone
        cases hdue : isReapable now inst <;> simp [hgone, hdue, Option.filter]
  unfold reapEmptyDungeonInstances
  dsimp only
  split_ifs with hnone
  · rw [← hlookup, List.isEmpty_iff.mp hnone]
    rfl
  · exact hlookup

/-- An instance with players is not due. -/
theorem Accounted.sweepsSpare (h : z.Accounted) : z.SweepsSpare := by
  intro now k hpos
  rw [lookup_reapEmptyDungeonInstances]
  cases hinst : z.mapInstances.lookup k with
  | none => rfl
  | some inst =>
      have hcounted := h.counted k inst.activePlayerCount (by simp [playerCount, hinst])
      have hne : inst.activePlayerCount ≠ 0 := by
        intro hzero
        rw [hzero] at hcounted
        exact absurd hcounted.symm hpos.ne'
      simp [Option.filter, isReapable, hne]

/-- What the reaper removes holds no player. -/
theorem booked_reapEmptyDungeonInstances (h : z.Booked cfg) (now : Nat)
    (hsmall : (z.reapEmptyDungeonInstances now).Small) :
    (z.reapEmptyDungeonInstances now).Booked cfg := by
  have hlookup (k : UInt64) : (z.reapEmptyDungeonInstances now).mapInstances.lookup k =
      (z.mapInstances.lookup k).filter fun inst => !isReapable now inst :=
    lookup_reapEmptyDungeonInstances
  have hspares := h.accounted.sweepsSpare now
  unfold reapEmptyDungeonInstances at hsmall hlookup hspares ⊢
  dsimp only at hsmall hlookup hspares ⊢
  split_ifs at hsmall hlookup hspares ⊢ with hnone
  · exact h
  · refine booked_refreshMetrics ⟨fun k n hn => ?_, fun id b hb => ?_⟩ hsmall ?_
    · refine h.accounted.counted k n ?_
      obtain ⟨inst, hinst, rfl⟩ := Option.map_eq_some_iff.mp hn
      have hinst := (hlookup k).symm.trans hinst
      rw [playerCount, (Option.filter_eq_some_iff.mp hinst).1]
      rfl
    · have hpos : 0 < z.boundPlayers b.mapKey :=
        countValues_pos_iff.mpr ⟨id, b, hb, decide_eq_true rfl⟩
      have hhoused := h.accounted.housed id b hb
      unfold playerCount at hhoused ⊢
      rw [← hspares b.mapKey hpos] at hhoused
      exact hhoused
    · exact (size_foldl_erase_le _ _).trans h.capacity

/-! ## Runs -/

/-- The step lemma, while the counts fit into 16 bits. -/
theorem booked_step (h : z.Booked cfg) (e : Event) (hsmall : (z.step cfg e).Small) :
    (z.step cfg e).Booked cfg := by
  cases e with
  | mapAssign now req => exact booked_onMapAssignRequest h now req hsmall
  | playerEnter now req => exact booked_onPlayerEnterRequest h now req hsmall
  | playerLeave now req => exact booked_onPlayerLeaveRequest h now req hsmall
  | playerMoveInternal now req => exact booked_onPlayerMoveInternalRequest h now req
  | reap now => exact booked_reapEmptyDungeonInstances h now hsmall

theorem booked_empty (cfg : ZoneConfig) : Booked cfg {} :=
  ⟨⟨fun k n hn => by simp [playerCount] at hn, fun id b hb => by simp at hb⟩, ⟨rfl, rfl, rfl⟩,
    Nat.zero_le _⟩

/-- **Instance accounting**: from an empty zone process, in every state of a
run in which players and instances together stay below 65536, the count of
each instance is the number of players bound to it, every player is bound to
an instance that exists, no sweep removes an instance with players, the
instances are within the capacity, and the metrics are the sizes of the
tables and their sum. -/
theorem accounting_run (cfg : ZoneConfig) (es : List Event)
    (hsmall : Always (step cfg) Small {} es) :
    Always (step cfg) (fun z => z.Accounted ∧ z.SweepsSpare ∧
      size z.mapInstances ≤ cfg.mapInstanceCapacity.toNat ∧ z.Published) {} es := by
  have hbooked : Always (step cfg) (Booked cfg) {} es :=
    always_of_along (booked_empty cfg) (fun _ e h hsmall => booked_step h e hsmall)
      (along_of_always hsmall)
  exact hbooked.imp fun z h => ⟨h.accounted, h.accounted.sweepsSpare, h.capacity, h.published⟩

/-- Player 11 enters map 1 and then map 2, and leaves again. -/
theorem accounting_run_enterSecondMap :
    Always (step twoMaps) (fun z => z.Accounted ∧ z.SweepsSpare ∧
      size z.mapInstances ≤ 128 ∧ z.Published) {}
        (enterSecondMap ++ [.playerLeave 0 { charId := 11, mapTemplateId := 2 }]) :=
  accounting_run twoMaps _ (by decide)

end ZoneRuntime

end GameServer
