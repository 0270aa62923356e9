import GameServer.Zone.Sight

/-!
# GameServer.Zone.ClientViews

What the clients of a zone process have on screen: a spawn batch adds its
actors, a despawn batch removes them.

A move tells the player who moved what came into its sight and what went out
of it, and tells the others the same about the player; a leave tells those
who saw the player.

* `ViewsAgree` — every client has on screen exactly the players in sight;
* `viewsAgree_leave`, `viewsAgree_move` — one request, its messages delivered;
* `viewsAgree_run` — whole runs.
-/

namespace GameServer

/-! ## Clients -/

/-- The actors that each character's client has on screen. -/
abbrev Views := UInt64 → List UInt64

namespace AoiMessage

def header : AoiMessage → AoiHeader
  | .snapshot h _ _ _ => h
  | .spawnBatch h _ => h
  | .despawnBatch h _ => h
  | .moveBatch h _ => h

/-- What a batch does to the actors on the screen of its receiver. -/
def apply : AoiMessage → List UInt64 → List UInt64
  | .spawnBatch _ items, view => view ++ items.map ActorItem.charId
  | .despawnBatch _ charIds, view => view.filter fun id => !charIds.contains id
  | _, view => view

theorem apply_despawnBatch (h : AoiHeader) (ids : List UInt64) :
    (despawnBatch h ids).apply = fun view => view.filter (· ∉ ids) := by
  funext view
  simp [apply]

/-- No actor is spawned that is on screen already, and none is despawned that
is not. -/
def Fits : AoiMessage → List UInt64 → Prop
  | .spawnBatch _ items, view =>
      (items.map ActorItem.charId).Nodup ∧ ∀ id ∈ items.map ActorItem.charId, id ∉ view
  | .despawnBatch _ charIds, view => charIds.Nodup ∧ ∀ id ∈ charIds, id ∈ view
  | _, _ => True

end AoiMessage

/-- A message reaches its receiver. -/
def deliver (v : Views) (m : AoiMessage) : Views :=
  Function.update v m.header.charId (m.apply (v m.header.charId))

/-- A message fits what its receiver has on screen. -/
def FitsView (v : Views) (m : AoiMessage) : Prop := m.Fits (v m.header.charId)

/-- The messages take the screens from `v` to `v'`, and each of them fits. -/
def Delivers (v : Views) (ms : List AoiMessage) (v' : Views) : Prop :=
  run deliver v ms = v' ∧ Along deliver FitsView v ms

theorem Delivers.append {v v' v'' : Views} {ms ms' : List AoiMessage} (h : Delivers v ms v')
    (h' : Delivers v' ms' v'') : Delivers v (ms ++ ms') v'' := by
  obtain ⟨rfl, hfits⟩ := h
  obtain ⟨rfl, hfits'⟩ := h'
  exact ⟨run_append ms', (along_append ms').mpr ⟨hfits, hfits'⟩⟩

/-- A batch that is sent only where it changes something. -/
theorem delivers_ite {v : Views} {m : AoiMessage} {k : UInt64} {g : List UInt64 → List UInt64}
    {c : Prop} [Decidable c] (hm : m.header.charId = k) (happly : c → m.apply (v k) = g (v k))
    (hidle : ¬ c → g (v k) = v k) (hfits : c → m.Fits (v k)) :
    Delivers v (if c then [m] else []) (Function.update v k (g (v k))) := by
  split_ifs with hc
  · refine ⟨?_, ?_, trivial⟩
    · rw [run_cons, run_nil, deliver, hm, happly hc]
    · rw [FitsView, hm]
      exact hfits hc
  · refine ⟨?_, trivial⟩
    rw [run_nil, hidle hc, Function.update_eq_self]

/-- Messages that neither spawn nor despawn. -/
theorem delivers_idle {ms : List AoiMessage} {v : Views}
    (h : ∀ m ∈ ms, ∀ view, m.apply view = view ∧ m.Fits view) : Delivers v ms v := by
  induction ms with
  | nil => exact ⟨rfl, trivial⟩
  | cons m ms ih =>
      have hhead := h m List.mem_cons_self
      have hsame : deliver v m = v := by
        rw [deliver, (hhead _).1, Function.update_eq_self]
      obtain ⟨hrun, hfits⟩ := ih fun m' hm' => h m' (List.mem_cons_of_mem m hm')
      refine ⟨?_, (hhead _).2, ?_⟩
      · rw [run_cons, hsame, hrun]
      · rw [hsame]
        exact hfits

namespace ZoneRuntime

variable {cfg : ZoneConfig} {line : AoiTransfer} {z z' : ZoneRuntime} {sent : Bool} {v : Views}

/-! ## One message to each of many -/

/-- The connections of the players are known. -/
def Reachable (z : ZoneRuntime) (ids : List UInt64) : Prop :=
  ∀ id ∈ ids, ∃ b, z.playerBindings.lookup id = some b ∧ isValidSessionKey b.sid b.serial

/-- Each receiver applies its message, and nobody else does. -/
theorem delivers_toReceivers {header : UInt32 → UInt32 → UInt64 → AoiHeader} {ids : List UInt64}
    {m : AoiHeader → AoiMessage} {g : List UInt64 → List UInt64}
    (hheader : ∀ sid serial id, (header sid serial id).charId = id)
    (hm : ∀ h, (m h).header = h ∧ (m h).apply = g) (hnodup : ids.Nodup)
    (hreach : z.Reachable ids) (hfits : ∀ id ∈ ids, ∀ h, (m h).Fits (v id)) :
    Delivers v (z.toReceivers header ids m) fun id => if id ∈ ids then g (v id) else v id := by
  induction ids generalizing v with
  | nil => exact ⟨by simp [toReceivers], trivial⟩
  | cons id ids ih =>
      obtain ⟨hnot, hnodup⟩ := List.nodup_cons.mp hnodup
      obtain ⟨b, hb, hkey⟩ := hreach id List.mem_cons_self
      have hcons : z.toReceivers header (id :: ids) m =
          m (header b.sid b.serial id) :: z.toReceivers header ids m := by
        unfold toReceivers
        rw [List.filterMap_cons_some]
        rw [hb]
        exact if_pos hkey
      have hfirst : (m (header b.sid b.serial id)).header.charId = id := by
        rw [(hm _).1, hheader]
      have hdeliver : deliver v (m (header b.sid b.serial id)) = Function.update v id (g (v id)) := by
        rw [deliver, hfirst, (hm _).2]
      have hrest := ih (v := Function.update v id (g (v id))) hnodup
        (fun id' hid' => hreach id' (List.mem_cons_of_mem id hid')) fun id' hid' h => by
          rw [Function.update_of_ne (ne_of_mem_of_not_mem hid' hnot)]
          exact hfits id' (List.mem_cons_of_mem id hid') h
      rw [hcons]
      refine ⟨?_, ?_, ?_⟩
      · rw [run_cons, hdeliver, hrest.1]
        funext id'
        by_cases hid : id' = id
        · subst hid
          simp [hnot]
        · simp [hid]
      · rw [FitsView, hfirst]
        exact hfits id List.mem_cons_self _
      · rw [hdeliver]
        exact hrest.2

/-- A player is told whom it sees now. -/
theorem delivers_spawnSelf {h : AoiHeader} {ids : List UInt64} {items : List ActorItem}
    {valid : Bool} (hvalid : valid = true) (hitems : items.map ActorItem.charId = ids)
    (hnodup : ids.Nodup) (hnew : ∀ id ∈ ids, id ∉ v h.charId) :
    Delivers v (if !ids.isEmpty && valid && !items.isEmpty then [.spawnBatch h items] else [])
      (Function.update v h.charId (v h.charId ++ ids)) := by
  subst hitems
  refine delivers_ite (g := fun view => view ++ items.map ActorItem.charId) rfl (fun _ => rfl)
    (fun hnone => ?_) fun _ => ⟨hnodup, hnew⟩
  have hempty : items = [] := by
    by_contra hne
    exact hnone (by simp [hne, hvalid])
  rw [hempty, List.map_nil, List.append_nil]

/-- A player is told whom it does not see any more. -/
theorem delivers_despawnSelf {h : AoiHeader} {ids : List UInt64} {valid : Bool}
    (hvalid : valid = true) (hnodup : ids.Nodup) (hold : ∀ id ∈ ids, id ∈ v h.charId) :
    Delivers v (if !ids.isEmpty && valid then [.despawnBatch h ids] else [])
      (Function.update v h.charId ((v h.charId).filter (· ∉ ids))) := by
  refine delivers_ite (g := fun view => view.filter (· ∉ ids)) rfl
    (fun _ => congrFun (AoiMessage.apply_despawnBatch _ _) _) (fun hnone => ?_)
    fun _ => ⟨hnodup, hold⟩
  have hempty : ids = [] := by
    by_contra hne
    exact hnone (by simp [hne, hvalid])
  simp [hempty]

/-- Others are told that they see a player now. -/
theorem delivers_spawnTo {header : UInt32 → UInt32 → UInt64 → AoiHeader} {ids : List UInt64}
    {self : ActorItem} (hheader : ∀ sid serial id, (header sid serial id).charId = id)
    (hnodup : ids.Nodup) (hreach : z.Reachable ids) (hnew : ∀ id ∈ ids, self.charId ∉ v id) :
    Delivers v (z.toReceivers header ids fun h => .spawnBatch h [self])
      fun id => if id ∈ ids then v id ++ [self.charId] else v id := by
  refine delivers_toReceivers (g := fun view => view ++ [self.charId]) hheader
    (fun _ => ⟨rfl, rfl⟩) hnodup hreach fun id hid _ =>
    ⟨List.nodup_singleton _, fun other hother => ?_⟩
  rw [List.mem_singleton.mp hother]
  exact hnew id hid

/-- Others are told that they do not see a player any more. -/
theorem delivers_despawnTo {header : UInt32 → UInt32 → UInt64 → AoiHeader} {ids : List UInt64}
    {charId : UInt64} (hheader : ∀ sid serial id, (header sid serial id).charId = id)
    (hnodup : ids.Nodup) (hreach : z.Reachable ids) (hold : ∀ id ∈ ids, charId ∈ v id) :
    Delivers v (z.toReceivers header ids fun h => .despawnBatch h [charId])
      fun id => if id ∈ ids then (v id).filter (· ∉ [charId]) else v id := by
  refine delivers_toReceivers (g := fun view => view.filter (· ∉ [charId])) hheader
    (fun _ => ⟨rfl, AoiMessage.apply_despawnBatch _ _⟩) hnodup hreach fun id hid _ =>
    ⟨List.nodup_singleton _, fun other hother => ?_⟩
  rw [List.mem_singleton.mp hother]
  exact hold id hid

/-! ## Screens and sight -/

/-- Every client has on screen exactly the players in sight. -/
def ViewsAgree (cfg : ZoneConfig) (z : ZoneRuntime) (v : Views) : Prop :=
  ∀ id, z.playerBindings.lookup id ≠ none → ∀ other, other ∈ v id ↔ z.InSight cfg id other

/-- Character ids are not `0`, and the connections of players with a position
are known. -/
def Addressed (z : ZoneRuntime) : Prop :=
  ∀ id b, z.playerBindings.lookup id = some b →
    id ≠ 0 ∧ (b.hasPosition → isValidSessionKey b.sid b.serial)

/-- The players in sight of a player. -/
def inSightIds (cfg : ZoneConfig) (z : ZoneRuntime) (id : UInt64) : List UInt64 :=
  z.playerBindings.keys.filter fun other => decide (z.InSight cfg id other)

/-- Nobody has more than 4000 players in sight. -/
def Uncrowded (cfg : ZoneConfig) (z : ZoneRuntime) : Prop :=
  ∀ id ∈ z.playerBindings.keys, (z.inSightIds cfg id).length ≤ 4000

instance : DecidablePred (Uncrowded cfg) := fun z => z.playerBindings.keys.decidableBAll _

theorem mem_keys_of_lookup {id : UInt64} {b : PlayerBindingState}
    (hb : z.playerBindings.lookup id = some b) : id ∈ z.playerBindings.keys :=
  AList.mem_keys.mp (AList.lookup_isSome.mp (by rw [hb]; rfl))

theorem inSight_congr {id other : UInt64}
    (hid : z'.playerBindings.lookup id = z.playerBindings.lookup id)
    (hother : z'.playerBindings.lookup other = z.playerBindings.lookup other) :
    z'.InSight cfg id other ↔ z.InSight cfg id other := by
  simp only [InSight, hid, hother]

theorem InSight.exists_binding {id other : UInt64} (h : z.InSight cfg id other) :
    ∃ b, z.playerBindings.lookup other = some b ∧ b.hasPosition := by
  obtain ⟨-, b, -, b', hb', hnear⟩ := h
  exact ⟨b', hb', hnear.2.1⟩

/-- The agreement of the views, one pair of players at a time. -/
theorem viewsAgree_iff : z.ViewsAgree cfg v ↔ ∀ id ∈ z.playerBindings.keys,
    (∀ other ∈ v id, z.InSight cfg id other) ∧
      ∀ other ∈ z.playerBindings.keys, z.InSight cfg id other → other ∈ v id := by
  have hkeys : ∀ id, z.playerBindings.lookup id ≠ none ↔ id ∈ z.playerBindings.keys := by
    intro id
    rw [← AList.mem_keys, ← AList.lookup_isSome, Option.isSome_iff_ne_none]
  simp only [ViewsAgree, hkeys]
  refine forall₂_congr fun id _ => ⟨fun h => ?_, fun h other => ?_⟩
  · exact ⟨fun other => (h other).mp, fun other _ => (h other).mpr⟩
  · refine ⟨h.1 other, fun hin => ?_⟩
    obtain ⟨b, hb, -⟩ := hin.exists_binding
    exact h.2 other (mem_keys_of_lookup hb) hin

instance : Decidable (z.ViewsAgree cfg v) :=
  decidable_of_iff (z.playerBindings.keys.all fun id =>
      ((v id).all fun other => decide (z.InSight cfg id other)) &&
        (z.inSightIds cfg id).all fun other => (v id).contains other)
    (by simp [viewsAgree_iff, inSightIds, imp_iff_not_or])

instance : Decidable z.Addressed :=
  @decidable_of_iff _ (∀ id ∈ z.playerBindings.keys, ∀ b ∈ z.playerBindings.lookup id,
      id ≠ 0 ∧ (b.hasPosition → isValidSessionKey b.sid b.serial))
    ⟨fun h id b hb => h id (mem_keys_of_lookup hb) b hb, fun h id _ b hb => h id b hb⟩
    (List.decidableBAll _ _)

theorem Addressed.reachable (h : z.Addressed) {ids : List UInt64} {id : UInt64}
    (hids : ∀ other ∈ ids, z.InSight cfg id other) : z.Reachable ids := by
  intro other hother
  obtain ⟨b, hb, hpos⟩ := (hids other hother).exists_binding
  exact ⟨b, hb, (h other b hb).2 hpos⟩

theorem Addressed.lookup_zero (h : z.Addressed) {id : UInt64} (hid : id = 0) :
    z.playerBindings.lookup id = none := by
  cases hb : z.playerBindings.lookup id with
  | none => rfl
  | some b => exact absurd hid (h id b hb).1

/-- Players in sight are spawned with their positions, unless they are too
many for one batch. -/
theorem map_buildSpawnItems {ids : List UInt64} {id : UInt64} (hnodup : ids.Nodup)
    (hids : ∀ other ∈ ids, z.InSight cfg id other)
    (hmany : (z.inSightIds cfg id).length ≤ 4000) :
    (z.buildSpawnItemsForActorIds ids).map ActorItem.charId = ids := by
  have hsub : ids ⊆ z.inSightIds cfg id := by
    intro other hother
    obtain ⟨b, hb, -⟩ := (hids other hother).exists_binding
    exact List.mem_filter.mpr ⟨mem_keys_of_lookup hb, decide_eq_true (hids other hother)⟩
  have hlength : ids.length ≤ maxBatchEntityCount :=
    ((hnodup.subperm hsub).length_le.trans hmany).trans (by decide)
  unfold buildSpawnItemsForActorIds
  rw [List.map_take]
  refine (congrArg _ ?_).trans (List.take_of_length_le hlength)
  clear hlength hsub hnodup hmany
  induction ids with
  | nil => rfl
  | cons other ids ih =>
      obtain ⟨b, hb, hpos⟩ := (hids other List.mem_cons_self).exists_binding
      rw [List.filterMap_cons_some (b := { charId := other, x := b.x, y := b.y }), List.map_cons,
        ih fun o ho => hids o (List.mem_cons_of_mem other ho)]
      rw [hb]
      exact if_pos hpos

/-! ## A leave -/

/-- A leave, its messages delivered. -/
theorem viewsAgree_leave (hr : SightBounded cfg.aoi)
    (hline : isValidSessionKey line.worldSid line.worldSerial) (hexact : z.SpatialExact cfg)
    (haddr : z.Addressed) (hviews : z.ViewsAgree cfg v) (now : Nat) (req : WorldZonePlayerLeave) :
    ∃ v', Delivers v (z.leaveMessages cfg line req) v' ∧
      (z.onPlayerLeaveRequest now req).ViewsAgree cfg v' := by
  unfold leaveMessages
  cases hb : z.playerBindings.lookup req.charId with
  | none =>
      have hsame : z.onPlayerLeaveRequest now req = z := by
        unfold onPlayerLeaveRequest
        rw [hb]
      rw [hsame]
      exact ⟨v, ⟨rfl, trivial⟩, hviews⟩
  | some b =>
      have hbindings : (z.onPlayerLeaveRequest now req).playerBindings =
          AList.erase req.charId z.playerBindings := playerBindings_onPlayerLeaveRequest hb
      have hgone : (z.onPlayerLeaveRequest now req).playerBindings.lookup req.charId = none := by
        rw [hbindings, AList.lookup_erase]
      have hkept : ∀ id, id ≠ req.charId →
          (z.onPlayerLeaveRequest now req).playerBindings.lookup id = z.playerBindings.lookup id := by
        intro id hid
        rw [hbindings, AList.lookup_erase_ne hid]
      -- The others see the same, except for the player who left.
      have hsight : ∀ id, id ≠ req.charId → ∀ other,
          (z.onPlayerLeaveRequest now req).InSight cfg id other ↔
            z.InSight cfg id other ∧ other ≠ req.charId := by
        intro id hid other
        by_cases hother : other = req.charId
        · subst hother
          refine iff_of_false (fun hin => ?_) fun hin => hin.2 rfl
          obtain ⟨b', hb', -⟩ := hin.exists_binding
          rw [hgone] at hb'
          cases hb'
        · rw [inSight_congr (hkept id hid) (hkept other hother)]
          exact ⟨fun hin => ⟨hin, hother⟩, And.left⟩
      dsimp only
      by_cases hpos : b.hasPosition
      · rw [if_pos (by rw [hpos, hline]; rfl)]
        set ids := z.buildVisibleActorIdsForPosition cfg req.charId b.mapKey b.x b.y
        have hids : ∀ id, id ∈ ids ↔ z.InSight cfg req.charId id := fun id =>
          mem_visible_iff_inSight hr hexact hb hpos haddr.lookup_zero
        have hnodup : ids.Nodup := (nodup_mem_sanitizeEntityIds _).1
        have hreach : z.Reachable ids := haddr.reachable fun id hid => (hids id).mp hid
        have hold : ∀ id ∈ ids, req.charId ∈ v id := by
          intro id hid
          have hin := (hids id).mp hid
          obtain ⟨b', hb', -⟩ := hin.exists_binding
          exact (hviews id (by rw [hb']; nofun) _).mpr hin.symm
        refine ⟨_, delivers_despawnTo (fun _ _ _ => rfl) hnodup hreach hold, ?_⟩
        intro id hid other
        have hne : id ≠ req.charId := fun heq => hid (heq ▸ hgone)
        rw [hkept id hne] at hid
        rw [hsight id hne, ← hviews id hid]
        dsimp only
        split_ifs with hmem
        · simp
        · rw [iff_self_and]
          intro hother heq
          have hin : z.InSight cfg id req.charId := by
            rw [← heq]
            exact (hviews id hid other).mp hother
          exact hmem ((hids id).mpr hin.symm)
      · rw [if_neg (by simp [hpos])]
        refine ⟨v, ⟨rfl, trivial⟩, fun id hid other => ?_⟩
        have hne : id ≠ req.charId := fun heq => hid (heq ▸ hgone)
        rw [hkept id hne] at hid
        rw [hsight id hne, ← hviews id hid, iff_self_and]
        -- A player without a position is in nobody's sight.
        intro hother heq
        obtain ⟨b', hb', hpos'⟩ := ((hviews id hid other).mp hother).exists_binding
        rw [heq, hb] at hb'
        cases hb'
        exact hpos hpos'

/-! ## A move -/

section Move

variable {req : WorldZonePlayerMoveInternal} {before after : List UInt64}

variable (cfg line) in
/-- The batches of a move, delivered: the player who moved loses what it
does not see any more and gains what it did not see before, and is gained and
lost by the same players. -/
theorem delivers_moveDiff (hline : isValidSessionKey line.worldSid line.worldSerial)
    (hkey : isValidSessionKey req.sid req.serial) (hbefore : before.Nodup) (hafter : after.Nodup)
    (hself : req.charId ∉ before ∧ req.charId ∉ after)
    (hreach : z.Reachable before ∧ z.Reachable after)
    (hitems : ∀ ids : List UInt64, ids.Nodup → ids ⊆ after →
      (z.buildSpawnItemsForActorIds ids).map ActorItem.charId = ids)
    (hview : ∀ other, other ∈ v req.charId ↔ other ∈ before)
    (hothers : ∀ id, z.playerBindings.lookup id ≠ none → id ≠ req.charId →
      (req.charId ∈ v id ↔ id ∈ before)) :
    ∃ v', Delivers v (z.moveDiffMessages cfg line req before after) v' ∧
      (∀ other, other ∈ v' req.charId ↔ other ∈ after) ∧
      ∀ id, z.playerBindings.lookup id ≠ none → id ≠ req.charId → ∀ other,
        other ∈ v' id ↔ if other = req.charId then id ∈ after else other ∈ v id := by
  unfold moveDiffMessages
  dsimp only
  rw [if_neg (by rw [hline]; decide)]
  set entered := setDifference (after.insertionSort (· ≤ ·)) (before.insertionSort (· ≤ ·))
    with hentered
  set exited := setDifference (before.insertionSort (· ≤ ·)) (after.insertionSort (· ≤ ·))
    with hexited
  have hin : ∀ id, id ∈ entered ↔ id ∈ after ∧ id ∉ before := fun _ => mem_setDifference_sort hafter
  have hout : ∀ id, id ∈ exited ↔ id ∈ before ∧ id ∉ after := fun _ => mem_setDifference_sort hbefore
  have hnodup : entered.Nodup := nodup_setDifference_sort hafter
  have hnodup' : exited.Nodup := nodup_setDifference_sort hbefore
  have hitems := hitems entered hnodup fun id hid => ((hin id).mp hid).1
  have hreachIn : z.Reachable entered := fun id hid => hreach.2 id ((hin id).mp hid).1
  have hreachOut : z.Reachable exited := fun id hid => hreach.1 id ((hout id).mp hid).1
  have hheader : ∀ sid serial id, (aoiHeader cfg line req.traceId req.mapTemplateId req.instanceId
      sid serial id).charId = id := fun _ _ _ => rfl
  have hnotIn : req.charId ∉ entered := fun h => hself.2 ((hin _).mp h).1
  have hnotOut : req.charId ∉ exited := fun h => hself.1 ((hout _).mp h).1
  have hbound : ∀ {ids : List UInt64}, z.Reachable ids → ∀ id ∈ ids,
      z.playerBindings.lookup id ≠ none := by
    intro ids hids id hid
    obtain ⟨b, hb, -⟩ := hids id hid
    rw [hb]
    nofun
  refine ⟨_, ((((delivers_spawnSelf hkey hitems hnodup ?hnew).append
    (delivers_despawnSelf hkey hnodup' ?hold)).append
    (delivers_spawnTo hheader hnodup hreachIn ?hnewTo)).append
    (delivers_despawnTo hheader hnodup' hreachOut ?holdTo)).append (delivers_idle ?hidle),
    ?hself, ?hothers⟩
  case hnew =>
    intro id hid
    rw [hheader, hview]
    exact ((hin id).mp hid).2
  case hold =>
    intro id hid
    rw [hheader, Function.update_self]
    exact List.mem_append_left _ ((hview id).mpr ((hout id).mp hid).1)
  case hnewTo =>
    intro id hid
    have hne := ne_of_mem_of_not_mem hid hnotIn
    rw [hheader, Function.update_of_ne hne, Function.update_of_ne hne,
      hothers id (hbound hreachIn id hid) hne]
    exact ((hin id).mp hid).2
  case holdTo =>
    intro id hid
    have hne := ne_of_mem_of_not_mem hid hnotOut
    have hnot : id ∉ entered := fun hid' => ((hin id).mp hid').2 ((hout id).mp hid).1
    rw [if_neg hnot, hheader, Function.update_of_ne hne, Function.update_of_ne hne,
      hothers id (hbound hreachOut id hid) hne]
    exact ((hout id).mp hid).1
  case hidle =>
    intro msg hmsg view
    obtain ⟨_, _, _, _, _, rfl⟩ := mem_toReceivers.mp hmsg
    exact ⟨rfl, trivial⟩
  case hself =>
    intro other
    simp only [hheader, hnotIn, hnotOut, if_false, Function.update_self, List.mem_filter,
      List.mem_append, hview, hin, hout, decide_eq_true_eq]
    tauto
  case hothers =>
    intro id hid hne other
    have hother := hothers id hid hne
    simp only [hheader, Function.update_of_ne hne, hin, hout]
    by_cases heq : other = req.charId
    · rw [heq, if_pos rfl]
      by_cases hb : id ∈ before <;> by_cases ha : id ∈ after <;> simp [ha, hb, hother]
    · rw [if_neg heq]
      split_ifs <;> simp [heq]

/-- A move, its messages delivered. -/
theorem viewsAgree_move (hr : SightBounded cfg.aoi) (hdiff : line.enableZoneAoiMoveDiff)
    (hline : isValidSessionKey line.worldSid line.worldSerial) (hexact : z.SpatialExact cfg)
    (haddr : z.Addressed) (hviews : z.ViewsAgree cfg v) {now : Nat} (hrequest : req.requestId = 0)
    (hkey : isValidSessionKey req.sid req.serial)
    (hposition : ∀ b, z.playerBindings.lookup req.charId = some b → b.hasPosition)
    (hexact' : (z.onPlayerMoveInternalRequest cfg now req).SpatialExact cfg)
    (haddr' : (z.onPlayerMoveInternalRequest cfg now req).Addressed)
    (hmany : (z.onPlayerMoveInternalRequest cfg now req).Uncrowded cfg) :
    ∃ v', Delivers v (z.moveMessages cfg line sent now req) v' ∧
      (z.onPlayerMoveInternalRequest cfg now req).ViewsAgree cfg v' := by
  unfold moveMessages
  cases hb : z.playerBindings.lookup req.charId with
  | none =>
      have hsame : z.onPlayerMoveInternalRequest cfg now req = z := by
        unfold onPlayerMoveInternalRequest
        rw [hb]
      rw [hsame]
      exact ⟨v, ⟨rfl, trivial⟩, hviews⟩
  | some b =>
      have hpos := hposition b hb
      have hbindings : (z.onPlayerMoveInternalRequest cfg now req).playerBindings =
          AList.insert req.charId (movedBinding cfg req b) z.playerBindings :=
        playerBindings_onPlayerMoveInternalRequest hb
      simp only [hdiff, hrequest, hpos, beq_self_eq_true, Bool.and_true, bne_self_eq_false,
        Bool.and_false, Bool.false_eq_true, Bool.not_true, if_true, if_false]
      set z' := z.onPlayerMoveInternalRequest cfg now req
      have hb' : z'.playerBindings.lookup req.charId = some (movedBinding cfg req b) := by
        rw [hbindings, AList.lookup_insert]
      have hkept : ∀ id, id ≠ req.charId →
          z'.playerBindings.lookup id = z.playerBindings.lookup id := by
        intro id hid
        rw [hbindings, AList.lookup_insert_ne hid]
      have hbefore : ∀ id, id ∈ z.buildVisibleActorIdsForPosition cfg req.charId b.mapKey b.x b.y ↔
          z.InSight cfg req.charId id := fun id =>
        mem_visible_iff_inSight hr hexact hb hpos haddr.lookup_zero
      have hafter : ∀ id, id ∈ z'.buildVisibleActorIdsForPosition cfg req.charId
          (movedBinding cfg req b).mapKey (movedBinding cfg req b).x (movedBinding cfg req b).y ↔
            z'.InSight cfg req.charId id := fun id =>
        mem_visible_iff_inSight hr hexact' hb' rfl haddr'.lookup_zero
      set before := z.buildVisibleActorIdsForPosition cfg req.charId b.mapKey b.x b.y
      set after := z'.buildVisibleActorIdsForPosition cfg req.charId (movedBinding cfg req b).mapKey
        (movedBinding cfg req b).x (movedBinding cfg req b).y
      have hnodup : before.Nodup := (nodup_mem_sanitizeEntityIds _).1
      have hnodup' : after.Nodup := (nodup_mem_sanitizeEntityIds _).1
      have hself : req.charId ∉ before ∧ req.charId ∉ after :=
        ⟨fun hin => ((hbefore _).mp hin).1 rfl, fun hin => ((hafter _).mp hin).1 rfl⟩
      have hreach : z'.Reachable before ∧ z'.Reachable after := by
        refine ⟨fun id hid => ?_, haddr'.reachable fun id hid => (hafter id).mp hid⟩
        rw [hkept id (ne_of_mem_of_not_mem hid hself.1)]
        exact haddr.reachable (fun id hid => (hbefore id).mp hid) id hid
      have hcrowd : (z'.inSightIds cfg req.charId).length ≤ 4000 :=
        hmany _ (mem_keys_of_lookup hb')
      obtain ⟨v', hdelivers, hmover, hothers⟩ := delivers_moveDiff cfg line
        (v := v) hline hkey hnodup hnodup' hself hreach
        (fun ids hnodup hsub => map_buildSpawnItems hnodup
          (fun id hid => (hafter id).mp (hsub hid)) hcrowd)
        (fun other => (hviews _ (by rw [hb]; nofun) other).trans (hbefore other).symm)
        (fun id hid hne => by
          rw [hkept id hne] at hid
          rw [hviews id hid, hbefore]
          exact ⟨InSight.symm, InSight.symm⟩)
      refine ⟨v', hdelivers, fun id hid other => ?_⟩
      by_cases hne : id = req.charId
      · rw [hne, hmover, hafter]
      · rw [hothers id hid hne]
        split_ifs with hother
        · rw [hother, hafter]
          exact ⟨InSight.symm, InSight.symm⟩
        · rw [inSight_congr (hkept id hne) (hkept other hother)]
          rw [hkept id hne] at hid
          exact hviews id hid other

end Move

/-! ## Runs -/

/-- A move of a player with a position, with a connection and no request id,
or a leave. -/
def MovesOrLeaves (z : ZoneRuntime) : Event → Prop
  | .playerLeave _ _ => True
  | .playerMoveInternal _ req => req.requestId = 0 ∧ isValidSessionKey req.sid req.serial ∧
      ∀ b, z.playerBindings.lookup req.charId = some b → b.hasPosition
  | _ => False

instance (z : ZoneRuntime) : DecidablePred z.MovesOrLeaves
  | .playerLeave .. => isTrue trivial
  | .playerMoveInternal _ req => inferInstanceAs (Decidable (req.requestId = 0 ∧
      isValidSessionKey req.sid req.serial ∧
        ∀ b ∈ z.playerBindings.lookup req.charId, b.hasPosition))
  | .mapAssign .. | .playerEnter .. | .reap .. => isFalse id

/-- Players that move or leave keep a session they can be reached by. -/
theorem addressed_step (haddr : z.Addressed) {e : Event} (he : z.MovesOrLeaves e) :
    (z.step cfg e).Addressed := by
  cases e with
  | mapAssign now req => exact he.elim
  | playerEnter now req => exact he.elim
  | reap now => exact he.elim
  | playerLeave now req =>
      intro id b hb
      cases hold : z.playerBindings.lookup req.charId with
      | none =>
          refine haddr id b ?_
          rw [← hb, step, onPlayerLeaveRequest, hold]
      | some old =>
          rw [step, playerBindings_onPlayerLeaveRequest hold] at hb
          by_cases hid : id = req.charId
          · rw [hid, AList.lookup_erase] at hb
            cases hb
          · rw [AList.lookup_erase_ne hid] at hb
            exact haddr id b hb
  | playerMoveInternal now req =>
      obtain ⟨-, hkey, -⟩ := he
      intro id b hb
      cases hold : z.playerBindings.lookup req.charId with
      | none =>
          refine haddr id b ?_
          rw [← hb, step, onPlayerMoveInternalRequest, hold]
      | some old =>
          rw [step, playerBindings_onPlayerMoveInternalRequest hold] at hb
          by_cases hid : id = req.charId
          · rw [hid, AList.lookup_insert] at hb
            cases hb
            exact ⟨hid ▸ (haddr req.charId old hold).1, fun _ => hkey⟩
          · rw [AList.lookup_insert_ne hid] at hb
            exact haddr id b hb

variable (line sent) in
/-- What the messages of one request lead to. -/
theorem viewsAgree_step (hr : SightBounded cfg.aoi) (hdiff : line.enableZoneAoiMoveDiff)
    (hline : isValidSessionKey line.worldSid line.worldSerial) (hstored : z.CellsStored cfg)
    (hexact : z.SpatialExact cfg) (haddr : z.Addressed) (hviews : z.ViewsAgree cfg v) {e : Event}
    (he : z.MovesOrLeaves e) (hmany : (z.step cfg e).Uncrowded cfg) :
    (z.step cfg e).SpatialExact cfg ∧
      ∃ v', Delivers v (z.messages cfg line sent e) v' ∧ (z.step cfg e).ViewsAgree cfg v' := by
  have haddr' : (z.step cfg e).Addressed := addressed_step haddr he
  cases e with
  | mapAssign now req => exact he.elim
  | playerEnter now req => exact he.elim
  | reap now => exact he.elim
  | playerLeave now req =>
      exact ⟨(spatialExact_step_iff hstored hexact _).mpr trivial,
        viewsAgree_leave hr hline hexact haddr hviews now req⟩
  | playerMoveInternal now req =>
      obtain ⟨hrequest, hkey, hposition⟩ := he
      have hexact' : (z.step cfg (.playerMoveInternal now req)).SpatialExact cfg :=
        (spatialExact_step_iff hstored hexact _).mpr trivial
      exact ⟨hexact', viewsAgree_move hr hdiff hline hexact haddr hviews hrequest hkey hposition
        hexact' haddr' hmany⟩

/-- **Client views**: after any moves of players with a position and any
leaves, with the messages delivered in order, every client has on screen
exactly the players in sight, if it had so at the start; and no message
spawns what is on screen or despawns what is not. -/
theorem viewsAgree_run (cfg : ZoneConfig) (line : AoiTransfer) (sent : Bool) (z : ZoneRuntime)
    (v : Views) (es : List Event) (hr : SightBounded cfg.aoi) (hdiff : line.enableZoneAoiMoveDiff)
    (hline : isValidSessionKey line.worldSid line.worldSerial)
    (hindex : z.SpatialExact cfg ∧ z.CellsStored cfg) (haddr : z.Addressed)
    (hviews : z.ViewsAgree cfg v) (hes : Along (step cfg) MovesOrLeaves z es)
    (hmany : Always (step cfg) (Uncrowded cfg) z es) :
    (run (step cfg) z es).ViewsAgree cfg
        (run deliver v (run (recording (step cfg) (messages cfg line sent)) (z, []) es).2) ∧
      Along deliver FitsView v
        (run (recording (step cfg) (messages cfg line sent)) (z, []) es).2 := by
  -- The screens so far are those that the messages so far have made.
  suffices hlog : ∀ (log : List AoiMessage) (v' : Views), Delivers v log v' → z.ViewsAgree cfg v' →
      ∃ v', Delivers v (run (recording (step cfg) (messages cfg line sent)) (z, log) es).2 v' ∧
        (run (step cfg) z es).ViewsAgree cfg v' by
    obtain ⟨v', ⟨rfl, hfits⟩, hagree⟩ := hlog [] v ⟨rfl, trivial⟩ hviews
    exact ⟨hagree, hfits⟩
  obtain ⟨hexact, hstored⟩ := hindex
  clear hviews
  induction es generalizing z with
  | nil => exact fun log v' hdelivers hagree => ⟨v', hdelivers, hagree⟩
  | cons e es ih =>
      intro log v' hdelivers hagree
      have hnext : (z.step cfg e).Uncrowded cfg := (along_of_always hmany).1
      obtain ⟨hexact', v'', hdelivers', hagree'⟩ :=
        viewsAgree_step line sent hr hdiff hline hstored hexact haddr hagree hes.1 hnext
      exact ih (z.step cfg e) (addressed_step haddr hes.1) hes.2 hmany.2 hexact'
        (cellsStored_step hstored e) _ v'' (hdelivers.append hdelivers') hagree'

/-- Players 11 and 12 enter map 1, in sight of each other. -/
def enterTogether : List Event :=
  [.mapAssign 0 { mapTemplateId := 1, createIfMissing := 1 },
    .playerEnter 0 { charId := 11, mapTemplateId := 1 },
    .playerEnter 0 { charId := 12, mapTemplateId := 1 },
    .playerMoveInternal 0 { charId := 11, sid := 1, serial := 1, mapTemplateId := 1 },
    .playerMoveInternal 0 { charId := 12, sid := 2, serial := 1, mapTemplateId := 1, x := 30 }]

/-- Player 12 goes out of sight and comes back, and player 11 leaves. -/
def goAndComeBack : List Event :=
  [.playerMoveInternal 1 { charId := 12, sid := 2, serial := 1, mapTemplateId := 1, x := 51 },
    .playerMoveInternal 2 { charId := 12, sid := 2, serial := 1, mapTemplateId := 1, x := 50 },
    .playerLeave 3 { charId := 11, mapTemplateId := 1 }]

theorem viewsAgree_run_goAndComeBack :
    (run (step twoMaps) (run (step twoMaps) {} enterTogether) goAndComeBack).ViewsAgree twoMaps
        (run deliver (fun id => if id = 11 then [12] else [11])
          (run (recording (step twoMaps) (messages twoMaps { worldSid := 1, worldSerial := 1 } true))
            (run (step twoMaps) {} enterTogether, []) goAndComeBack).2) ∧
      Along deliver FitsView (fun id => if id = 11 then [12] else [11])
        (run (recording (step twoMaps) (messages twoMaps { worldSid := 1, worldSerial := 1 } true))
          (run (step twoMaps) {} enterTogether, []) goAndComeBack).2 :=
  viewsAgree_run twoMaps { worldSid := 1, worldSerial := 1 } true _ _ goAndComeBack (by decide) rfl
    rfl (spatialExact_run (by decide)) (by decide) (by decide) (by decide) (by decide)

end ZoneRuntime

end GameServer
