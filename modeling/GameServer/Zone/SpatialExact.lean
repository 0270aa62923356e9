import GameServer.Lib.Run
import GameServer.Zone.ZoneRuntime

/-!
# GameServer.Zone.SpatialExact

What the spatial index of a zone process lists.

An enter takes a player out of the index of the map it comes from, but the
binding keeps the position, and nobody lists it on the new map: a move there
believes that it is listed already.

* `SpatialExact` — the index lists a player in the cell of its position, and
  nowhere else;
* `spatialExact_run_iff` — a run keeps that precisely if no player with a
  position enters a second map.
-/

namespace GameServer

namespace ZoneRuntime

/-! ## What is listed -/

/-- The index lists a character exactly in the floor-division cell of its
position, on the map it is bound to. -/
def SpatialExact (cfg : ZoneConfig) (z : ZoneRuntime) : Prop :=
  ∀ mapKey cx cy id, id ∈ z.spatialIndex.listed mapKey cx cy ↔
    ∃ b, z.playerBindings.lookup id = some b ∧ b.hasPosition ∧ b.mapKey = mapKey ∧
      cx.toInt = b.x.toInt / (resolveAoiCellSize cfg.aoi).toInt ∧
      cy.toInt = b.y.toInt / (resolveAoiCellSize cfg.aoi).toInt

/-- No character is listed in two cells. -/
def ListedOnce (z : ZoneRuntime) : Prop :=
  ∀ id mapKey cx cy mapKey' cx' cy', id ∈ z.spatialIndex.listed mapKey cx cy →
    id ∈ z.spatialIndex.listed mapKey' cx' cy' → mapKey = mapKey' ∧ cx = cx' ∧ cy = cy'

/-- The cell stored in a binding is the one of its position. -/
def CellsStored (cfg : ZoneConfig) (z : ZoneRuntime) : Prop :=
  ∀ id b, z.playerBindings.lookup id = some b → b.hasPosition →
    (b.cellX, b.cellY) = cfg.cellOf b.x b.y

/-- The index lists a character exactly in the cell stored in its binding. -/
def Filed (idx : SpatialIndex) (bindings : AList fun _ : UInt64 => PlayerBindingState) : Prop :=
  ∀ mapKey cx cy id, id ∈ idx.listed mapKey cx cy ↔
    ∃ b, bindings.lookup id = some b ∧ b.hasPosition ∧ b.mapKey = mapKey ∧ b.cellX = cx ∧
      b.cellY = cy

/-- An exact index lists nobody twice. -/
theorem SpatialExact.listedOnce {cfg : ZoneConfig} {z : ZoneRuntime} (h : z.SpatialExact cfg) :
    z.ListedOnce := by
  intro id mapKey cx cy mapKey' cx' cy' hid hid'
  obtain ⟨b, hb, -, hmap, hx, hy⟩ := (h mapKey cx cy id).mp hid
  obtain ⟨b', hb', -, hmap', hx', hy'⟩ := (h mapKey' cx' cy' id).mp hid'
  rw [hb] at hb'
  cases hb'
  exact ⟨hmap.symm.trans hmap', Int32.toInt_inj.mp (hx.trans hx'.symm),
    Int32.toInt_inj.mp (hy.trans hy'.symm)⟩

/-- Exactness in terms of the bindings alone, when the bindings carry their own cells. -/
theorem spatialExact_iff_filed {cfg : ZoneConfig} {z : ZoneRuntime} (h : z.CellsStored cfg) :
    z.SpatialExact cfg ↔ Filed z.spatialIndex z.playerBindings := by
  have hsize := resolveAoiCellSize_pos cfg.aoi
  have hcell : ∀ id b, z.playerBindings.lookup id = some b → b.hasPosition → ∀ cx cy : Int32,
      (cx.toInt = b.x.toInt / (resolveAoiCellSize cfg.aoi).toInt ∧
        cy.toInt = b.y.toInt / (resolveAoiCellSize cfg.aoi).toInt) ↔
          b.cellX = cx ∧ b.cellY = cy := by
    intro id b hb hpos cx cy
    have hstored := h id b hb hpos
    simp only [ZoneConfig.cellOf, Prod.mk.injEq] at hstored
    rw [hstored.1, hstored.2, ← toInt_resolveSpatialCellCoord b.x hsize,
      ← toInt_resolveSpatialCellCoord b.y hsize, Int32.toInt_inj, Int32.toInt_inj, eq_comm,
      eq_comm (a := cy)]
  unfold SpatialExact Filed
  refine forall₄_congr fun mapKey cx cy id => iff_congr Iff.rfl (exists_congr fun b => ?_)
  constructor
  · rintro ⟨hb, hpos, hmap, hx⟩
    exact ⟨hb, hpos, hmap, (hcell id b hb hpos cx cy).mp hx⟩
  · rintro ⟨hb, hpos, hmap, hx⟩
    exact ⟨hb, hpos, hmap, (hcell id b hb hpos cx cy).mpr hx⟩

/-! ## What a request does to the bindings and to the index -/

@[simp] theorem refreshMetrics_spatialIndex (z : ZoneRuntime) :
    z.refreshMetrics.spatialIndex = z.spatialIndex := rfl

@[simp] theorem refreshMetrics_playerBindings (z : ZoneRuntime) :
    z.refreshMetrics.playerBindings = z.playerBindings := rfl

@[simp] theorem modifyInstance_spatialIndex (z : ZoneRuntime) (mapKey : UInt64)
    (f : MapInstanceState → MapInstanceState) :
    (z.modifyInstance mapKey f).spatialIndex = z.spatialIndex := by
  unfold modifyInstance
  split <;> rfl

@[simp] theorem modifyInstance_playerBindings (z : ZoneRuntime) (mapKey : UInt64)
    (f : MapInstanceState → MapInstanceState) :
    (z.modifyInstance mapKey f).playerBindings = z.playerBindings := by
  unfold modifyInstance
  split <;> rfl

/-- The two tables that an invariant of the index is about. -/
def tables (z : ZoneRuntime) :
    SpatialIndex × (AList fun _ : UInt64 => PlayerBindingState) :=
  (z.spatialIndex, z.playerBindings)

/-- A map assignment files nobody. -/
theorem tables_onMapAssignRequest (cfg : ZoneConfig) (z : ZoneRuntime) (now : Nat)
    (req : WorldZoneMapAssignRequest) : (z.onMapAssignRequest cfg now req).1.tables = z.tables := by
  unfold onMapAssignRequest
  dsimp only
  split_ifs
  · rfl
  · rfl
  · rfl
  · unfold ensureMapInstance
    dsimp only
    split
    · rfl
    · split_ifs <;> rfl

theorem tables_reapEmptyDungeonInstances (z : ZoneRuntime) (now : Nat) :
    (z.reapEmptyDungeonInstances now).tables = z.tables := by
  unfold reapEmptyDungeonInstances
  dsimp only
  split_ifs <;> rfl

/-- The map of an enter request that changes the binding: the instance
exists, and the player is not bound to it. -/
def EntersMap (z : ZoneRuntime) (req : WorldZonePlayerEnter) : Prop :=
  z.mapInstances.lookup (makeMapInstanceKey req.mapTemplateId req.instanceId) ≠ none ∧
    ∀ b, z.playerBindings.lookup req.charId = some b →
      b.mapKey ≠ makeMapInstanceKey req.mapTemplateId req.instanceId

instance (z : ZoneRuntime) (req : WorldZonePlayerEnter) : Decidable (z.EntersMap req) :=
  inferInstanceAs (Decidable (_ ≠ _ ∧ ∀ b ∈ z.playerBindings.lookup req.charId, _))

/-- An enter takes the old filing away and stores a binding without a filing. -/
theorem tables_onPlayerEnterRequest (cfg : ZoneConfig) (z : ZoneRuntime) (now : Nat)
    (req : WorldZonePlayerEnter) :
    (z.onPlayerEnterRequest cfg now req).1.tables =
      if z.EntersMap req then
        ((match z.playerBindings.lookup req.charId with
          | none => z.spatialIndex
          | some old =>
              if old.hasPosition then
                z.spatialIndex.removeActorFromSpatialIndex old.mapKey req.charId old.cellX old.cellY
              else z.spatialIndex),
          AList.insert req.charId (enteredBinding
            (makeMapInstanceKey req.mapTemplateId req.instanceId) req
            (z.playerBindings.lookup req.charId)) z.playerBindings)
      else z.tables := by
  cases hinst : z.mapInstances.lookup (makeMapInstanceKey req.mapTemplateId req.instanceId) with
  | none =>
      rw [if_neg fun h => h.1 hinst]
      simp only [onPlayerEnterRequest, hinst]
  | some inst =>
      have hexists : z.mapInstances.lookup
          (makeMapInstanceKey req.mapTemplateId req.instanceId) ≠ none := by simp [hinst]
      cases hold : z.playerBindings.lookup req.charId with
      | none =>
          have henters : z.EntersMap req := ⟨hexists, fun b hb => by simp [hold] at hb⟩
          rw [if_pos henters]
          simp [onPlayerEnterRequest, hinst, hold, tables]
      | some old =>
          by_cases hkey : old.mapKey = makeMapInstanceKey req.mapTemplateId req.instanceId
          · rw [if_neg fun h => h.2 old hold hkey]
            simp [onPlayerEnterRequest, hinst, hold, hkey, tables]
          · have henters : z.EntersMap req := by
              refine ⟨hexists, fun b hb => ?_⟩
              rw [hold] at hb
              cases hb
              exact hkey
            rw [if_pos henters]
            simp [onPlayerEnterRequest, hinst, hold, hkey, tables]

/-- A leave takes the filing and the binding. -/
theorem tables_onPlayerLeaveRequest (z : ZoneRuntime) (now : Nat) (req : WorldZonePlayerLeave) :
    (z.onPlayerLeaveRequest now req).tables =
      match z.playerBindings.lookup req.charId with
      | none => z.tables
      | some b =>
          (if b.hasPosition then
              z.spatialIndex.removeActorFromSpatialIndex b.mapKey req.charId b.cellX b.cellY
            else z.spatialIndex,
            AList.erase req.charId z.playerBindings) := by
  unfold onPlayerLeaveRequest
  cases z.playerBindings.lookup req.charId with
  | none => rfl
  | some b => simp [tables]

/-- A move refiles a player that is bound. -/
theorem tables_onPlayerMoveInternalRequest (cfg : ZoneConfig) (z : ZoneRuntime) (now : Nat)
    (req : WorldZonePlayerMoveInternal) :
    (z.onPlayerMoveInternalRequest cfg now req).tables =
      match z.playerBindings.lookup req.charId with
      | none => z.tables
      | some b =>
          (updateActorSpatialIndex z.spatialIndex b.mapKey req.charId b (movedBinding cfg req b),
            AList.insert req.charId (movedBinding cfg req b) z.playerBindings) := by
  unfold onPlayerMoveInternalRequest
  cases z.playerBindings.lookup req.charId with
  | none => rfl
  | some b => simp [tables]

/-- A leave erases the binding. -/
theorem playerBindings_onPlayerLeaveRequest {z : ZoneRuntime} {now : Nat}
    {req : WorldZonePlayerLeave} {b : PlayerBindingState}
    (hb : z.playerBindings.lookup req.charId = some b) :
    (z.onPlayerLeaveRequest now req).playerBindings = AList.erase req.charId z.playerBindings := by
  have htables := tables_onPlayerLeaveRequest z now req
  rw [hb] at htables
  exact congrArg Prod.snd htables

/-- The binding after the move is the moved one. -/
theorem playerBindings_onPlayerMoveInternalRequest {cfg : ZoneConfig} {z : ZoneRuntime} {now : Nat}
    {req : WorldZonePlayerMoveInternal} {b : PlayerBindingState}
    (hb : z.playerBindings.lookup req.charId = some b) :
    (z.onPlayerMoveInternalRequest cfg now req).playerBindings =
      AList.insert req.charId (movedBinding cfg req b) z.playerBindings := by
  have htables := tables_onPlayerMoveInternalRequest cfg z now req
  rw [hb] at htables
  exact congrArg Prod.snd htables

/-! ## Bindings after a request -/

section Bindings

variable (cfg : ZoneConfig) (z : ZoneRuntime) (now : Nat) (c : UInt64)

theorem playerBindings_onMapAssignRequest (req : WorldZoneMapAssignRequest) :
    (z.onMapAssignRequest cfg now req).1.playerBindings = z.playerBindings :=
  congrArg Prod.snd (tables_onMapAssignRequest cfg z now req)

theorem playerBindings_reapEmptyDungeonInstances :
    (z.reapEmptyDungeonInstances now).playerBindings = z.playerBindings :=
  congrArg Prod.snd (tables_reapEmptyDungeonInstances z now)

/-- An enter changes the binding of its own character, if the map is held. -/
theorem lookup_onPlayerEnterRequest (req : WorldZonePlayerEnter) :
    (z.onPlayerEnterRequest cfg now req).1.playerBindings.lookup c =
      if req.charId = c ∧ z.EntersMap req then
        some (enteredBinding (makeMapInstanceKey req.mapTemplateId req.instanceId) req
          (z.playerBindings.lookup c))
      else z.playerBindings.lookup c := by
  have htables := congrArg Prod.snd (tables_onPlayerEnterRequest cfg z now req)
  rw [tables] at htables
  dsimp only at htables
  rw [htables]
  by_cases henters : z.EntersMap req
  · by_cases hc : req.charId = c
    · rw [if_pos henters, if_pos ⟨hc, henters⟩, hc, AList.lookup_insert]
    · rw [if_pos henters, if_neg fun h => hc h.1, AList.lookup_insert_ne (Ne.symm hc)]
  · rw [if_neg henters, if_neg fun h => henters h.2]
    rfl

/-- A leave removes the binding of its own character. -/
theorem lookup_onPlayerLeaveRequest (req : WorldZonePlayerLeave) :
    (z.onPlayerLeaveRequest now req).playerBindings.lookup c =
      if req.charId = c then none else z.playerBindings.lookup c := by
  cases hb : z.playerBindings.lookup req.charId with
  | none =>
      have hsame : z.onPlayerLeaveRequest now req = z := by
        simp only [onPlayerLeaveRequest, hb]
      rw [hsame]
      split_ifs with hc
      · rw [← hc, hb]
      · rfl
  | some b =>
      rw [playerBindings_onPlayerLeaveRequest hb]
      split_ifs with hc
      · rw [← hc, AList.lookup_erase]
      · rw [AList.lookup_erase_ne (Ne.symm hc)]

/-- A move changes the binding of its own character. -/
theorem lookup_onPlayerMoveInternalRequest (req : WorldZonePlayerMoveInternal) :
    (z.onPlayerMoveInternalRequest cfg now req).playerBindings.lookup c =
      if req.charId = c then
        (z.playerBindings.lookup c).map (movedBinding cfg req)
      else z.playerBindings.lookup c := by
  cases hb : z.playerBindings.lookup req.charId with
  | none =>
      have hsame : z.onPlayerMoveInternalRequest cfg now req = z := by
        simp only [onPlayerMoveInternalRequest, hb]
      rw [hsame]
      split_ifs with hc
      · rw [← hc, hb]
        rfl
      · rfl
  | some b =>
      rw [playerBindings_onPlayerMoveInternalRequest hb]
      split_ifs with hc
      · rw [← hc, hb, AList.lookup_insert]
        rfl
      · rw [AList.lookup_insert_ne (Ne.symm hc)]

end Bindings

/-! ## What keeps the index -/

section Filed

variable {idx idx' : SpatialIndex} {bindings : AList fun _ : UInt64 => PlayerBindingState}
  {charId : UInt64}

/-- The binding of one character changes, and the index lists it as the new
binding says. -/
theorem Filed.insert {b : PlayerBindingState} (h : Filed idx bindings)
    (hidx : ∀ mapKey cx cy id, id ∈ idx'.listed mapKey cx cy ↔
      if id = charId then b.hasPosition ∧ b.mapKey = mapKey ∧ b.cellX = cx ∧ b.cellY = cy
      else id ∈ idx.listed mapKey cx cy) :
    Filed idx' (AList.insert charId b bindings) := by
  intro mapKey cx cy id
  rw [hidx]
  by_cases hid : id = charId
  · subst hid
    rw [if_pos rfl, AList.lookup_insert]
    constructor
    · intro hb
      exact ⟨b, rfl, hb⟩
    · rintro ⟨b', hb', hpos⟩
      cases hb'
      exact hpos
  · rw [if_neg hid, AList.lookup_insert_ne hid]
    exact h mapKey cx cy id

/-- A character without a position is not listed. -/
theorem Filed.not_listed (h : Filed idx bindings)
    (hpos : ∀ b, bindings.lookup charId = some b → ¬ b.hasPosition) (mapKey : UInt64)
    (cx cy : Int32) : charId ∉ idx.listed mapKey cx cy := by
  intro hid
  obtain ⟨b, hb, hp, -⟩ := (h mapKey cx cy charId).mp hid
  exact hpos b hb hp

/-- One with a position is listed in the cell of its binding only. -/
theorem Filed.listed_iff (h : Filed idx bindings) {b : PlayerBindingState}
    (hb : bindings.lookup charId = some b) (hpos : b.hasPosition) (mapKey : UInt64)
    (cx cy : Int32) :
    charId ∈ idx.listed mapKey cx cy ↔ b.mapKey = mapKey ∧ b.cellX = cx ∧ b.cellY = cy := by
  rw [h]
  constructor
  · rintro ⟨b', hb', -, hcell⟩
    rw [hb] at hb'
    cases hb'
    exact hcell
  · intro hcell
    exact ⟨b, hb, hpos, hcell⟩

/-- Taken out of the cell of its binding, a character is not listed, and the
others stay. -/
theorem Filed.mem_removeActor (h : Filed idx bindings) {b : PlayerBindingState}
    (hb : bindings.lookup charId = some b) (hpos : b.hasPosition) {mapKey id : UInt64}
    {cx cy : Int32} :
    id ∈ (idx.removeActorFromSpatialIndex b.mapKey charId b.cellX b.cellY).listed mapKey cx cy ↔
      id ≠ charId ∧ id ∈ idx.listed mapKey cx cy := by
  rw [SpatialIndex.mem_listed_removeActor]
  by_cases hid : id = charId
  · subst hid
    rw [h.listed_iff hb hpos]
    grind
  · simp [hid]

/-- Nobody else was filed under the character that leaves. -/
theorem Filed.leave (h : Filed idx bindings) {b : PlayerBindingState}
    (hb : bindings.lookup charId = some b) :
    Filed (if b.hasPosition then
        idx.removeActorFromSpatialIndex b.mapKey charId b.cellX b.cellY
      else idx) (AList.erase charId bindings) := by
  have hmem : ∀ mapKey cx cy id, id ∈ (if b.hasPosition then
      idx.removeActorFromSpatialIndex b.mapKey charId b.cellX b.cellY else idx).listed
        mapKey cx cy ↔ id ≠ charId ∧ id ∈ idx.listed mapKey cx cy := by
    intro mapKey cx cy id
    split_ifs with hpos
    · exact h.mem_removeActor hb hpos
    · have hnot : charId ∉ idx.listed mapKey cx cy := by
        refine h.not_listed (fun b' hb' => ?_) mapKey cx cy
        rw [hb] at hb'
        cases hb'
        exact hpos
      by_cases hid : id = charId
      · subst hid
        simp [hnot]
      · simp [hid]
  intro mapKey cx cy id
  rw [hmem]
  by_cases hid : id = charId
  · subst hid
    simp [AList.lookup_erase]
  · rw [AList.lookup_erase_ne hid, h]
    simp [hid]

/-- The player leaves its old cell before it is filed in the new one. -/
theorem Filed.move (h : Filed idx bindings) {b b' : PlayerBindingState}
    (hb : bindings.lookup charId = some b) (hpos' : b'.hasPosition) (hmap : b'.mapKey = b.mapKey) :
    Filed (updateActorSpatialIndex idx b.mapKey charId b b') (AList.insert charId b' bindings) := by
  refine h.insert fun mapKey cx cy id => ?_
  unfold updateActorSpatialIndex
  simp only [hpos', Bool.not_true, Bool.false_eq_true, if_false, bne_self_eq_false, Bool.or_false,
    Bool.not_eq_eq_eq_not]
  by_cases hpos : b.hasPosition
  · simp only [hpos, Bool.true_eq_false, if_false]
    split_ifs with hcell hid hid
    · -- The cell is the same, and the character is listed there already.
      subst hid
      rw [h.listed_iff hb hpos, ← hcell.1, ← hcell.2, hmap]
      simp
    · rfl
    · subst hid
      rw [SpatialIndex.mem_listed_insertActor, h.mem_removeActor hb hpos, hmap]
      grind
    · rw [SpatialIndex.mem_listed_insertActor, h.mem_removeActor hb hpos]
      simp [hid]
  · have hnot : charId ∉ idx.listed mapKey cx cy := by
      refine h.not_listed (fun b'' hb'' => ?_) mapKey cx cy
      rw [hb] at hb''
      cases hb''
      exact hpos
    simp only [hpos, if_true, SpatialIndex.mem_listed_insertActor]
    split_ifs with hid
    · subst hid
      rw [hmap]
      grind
    · simp [hid]

/-- An enter of another map: only a player without a position keeps the
index. -/
theorem Filed.enter_iff (h : Filed idx bindings) (mapKey : UInt64)
    (req : WorldZonePlayerEnter) :
    Filed (match bindings.lookup req.charId with
        | none => idx
        | some old =>
            if old.hasPosition then
              idx.removeActorFromSpatialIndex old.mapKey req.charId old.cellX old.cellY
            else idx)
        (AList.insert req.charId (enteredBinding mapKey req (bindings.lookup req.charId)) bindings) ↔
      ∀ b, bindings.lookup req.charId = some b → ¬ b.hasPosition := by
  cases hold : bindings.lookup req.charId with
  | none =>
      refine iff_of_true (h.insert fun mapKey' cx cy id => ?_) nofun
      have hnot : req.charId ∉ idx.listed mapKey' cx cy :=
        h.not_listed (by simp [hold]) mapKey' cx cy
      split_ifs with hid
      · subst hid
        simp [enteredBinding, hnot]
      · rfl
  | some old =>
      dsimp only
      by_cases hpos : old.hasPosition
      · -- It has a position on the new map, and is listed nowhere.
        refine iff_of_false (fun hfiled => ?_) fun hnone => hnone old rfl hpos
        have hlisted := (hfiled mapKey old.cellX old.cellY req.charId).mpr
          ⟨enteredBinding mapKey req (some old), by rw [AList.lookup_insert], hpos, rfl, rfl, rfl⟩
        rw [if_pos hpos, h.mem_removeActor hold hpos] at hlisted
        exact hlisted.1 rfl
      · rw [if_neg hpos]
        refine iff_of_true (h.insert fun mapKey' cx cy id => ?_) fun b hb => ?_
        · have hnot : req.charId ∉ idx.listed mapKey' cx cy := by
            refine h.not_listed (fun b hb => ?_) mapKey' cx cy
            rw [hold] at hb
            cases hb
            exact hpos
          split_ifs with hid
          · subst hid
            simp [enteredBinding, hnot, hpos]
          · rfl
        · cases hb
          exact hpos

end Filed

/-! ## Runs -/

/-- An enter that changes the map of a player finds it without a position. -/
def EntersWithoutPosition (z : ZoneRuntime) : Event → Prop
  | .playerEnter _ req => z.EntersMap req →
      ∀ b, z.playerBindings.lookup req.charId = some b → ¬ b.hasPosition
  | _ => True

instance (z : ZoneRuntime) : DecidablePred z.EntersWithoutPosition
  | .playerEnter _ req => inferInstanceAs
      (Decidable (z.EntersMap req → ∀ b ∈ z.playerBindings.lookup req.charId, ¬ b.hasPosition))
  | .mapAssign .. | .playerLeave .. | .playerMoveInternal .. | .reap .. => isTrue trivial

/-- Every event stores the cell of the position that it stores. -/
theorem cellsStored_step {cfg : ZoneConfig} {z : ZoneRuntime} (h : z.CellsStored cfg) (e : Event) :
    (z.step cfg e).CellsStored cfg := by
  -- A binding is stored with the cell of its position, or had it before.
  have hinsert : ∀ {z' : ZoneRuntime} {charId b}, z'.tables.2 =
      AList.insert charId b z.playerBindings →
        (b.hasPosition → (b.cellX, b.cellY) = cfg.cellOf b.x b.y) → z'.CellsStored cfg := by
    intro z' charId b htables hb id b' hb' hpos
    rw [show z'.playerBindings = _ from htables] at hb'
    by_cases hid : id = charId
    · subst hid
      rw [AList.lookup_insert] at hb'
      cases hb'
      exact hb hpos
    · rw [AList.lookup_insert_ne hid] at hb'
      exact h id b' hb' hpos
  have hsame : ∀ {z' : ZoneRuntime}, z'.tables = z.tables → z'.CellsStored cfg := by
    intro z' htables id b hb
    rw [show z'.playerBindings = z.playerBindings from congrArg Prod.snd htables] at hb
    exact h id b hb
  cases e with
  | mapAssign now req => exact hsame (tables_onMapAssignRequest cfg z now req)
  | playerEnter now req =>
      have htables := tables_onPlayerEnterRequest cfg z now req
      by_cases henters : z.EntersMap req
      · rw [if_pos henters] at htables
        refine hinsert (congrArg Prod.snd htables) fun hpos => ?_
        cases hold : z.playerBindings.lookup req.charId with
        | none =>
            rw [hold] at hpos
            cases hpos
        | some old =>
            rw [hold] at hpos
            exact h req.charId old hold hpos
      · rw [if_neg henters] at htables
        exact hsame htables
  | playerLeave now req =>
      have htables := tables_onPlayerLeaveRequest z now req
      cases hold : z.playerBindings.lookup req.charId with
      | none =>
          rw [hold] at htables
          exact hsame htables
      | some old =>
          rw [hold] at htables
          intro id b hb hpos
          rw [show (z.step cfg (.playerLeave now req)).playerBindings = _ from
            congrArg Prod.snd htables] at hb
          by_cases hid : id = req.charId
          · rw [hid, AList.lookup_erase] at hb
            cases hb
          · rw [AList.lookup_erase_ne hid] at hb
            exact h id b hb hpos
  | playerMoveInternal now req =>
      have htables := tables_onPlayerMoveInternalRequest cfg z now req
      cases hold : z.playerBindings.lookup req.charId with
      | none =>
          rw [hold] at htables
          exact hsame htables
      | some old =>
          rw [hold] at htables
          exact hinsert (congrArg Prod.snd htables) fun _ => rfl
  | reap now => exact hsame (tables_reapEmptyDungeonInstances z now)

/-- Only an enter of a player that has a position already leaves the index inexact. -/
theorem filed_step_iff {cfg : ZoneConfig} {z : ZoneRuntime}
    (h : Filed z.spatialIndex z.playerBindings) (e : Event) :
    Filed (z.step cfg e).spatialIndex (z.step cfg e).playerBindings ↔
      z.EntersWithoutPosition e := by
  -- The tables decide, and they are known for every request.
  have hfiled : ∀ {z' : ZoneRuntime} {idx bindings}, z'.tables = (idx, bindings) →
      (Filed z'.spatialIndex z'.playerBindings ↔ Filed idx bindings) := by
    intro z' idx bindings htables
    rw [show z'.spatialIndex = idx from congrArg Prod.fst htables,
      show z'.playerBindings = bindings from congrArg Prod.snd htables]
  cases e with
  | mapAssign now req =>
      exact iff_of_true ((hfiled (tables_onMapAssignRequest cfg z now req)).mpr h) trivial
  | playerEnter now req =>
      have htables := tables_onPlayerEnterRequest cfg z now req
      by_cases henters : z.EntersMap req
      · rw [if_pos henters] at htables
        rw [show (z.step cfg (.playerEnter now req)) = (z.onPlayerEnterRequest cfg now req).1 from rfl,
          hfiled htables, h.enter_iff]
        simp only [EntersWithoutPosition, henters, true_imp_iff]
      · rw [if_neg henters] at htables
        exact iff_of_true ((hfiled htables).mpr h) fun h' => absurd h' henters
  | playerLeave now req =>
      have htables := tables_onPlayerLeaveRequest z now req
      refine iff_of_true ?_ trivial
      cases hold : z.playerBindings.lookup req.charId with
      | none =>
          rw [hold] at htables
          exact (hfiled htables).mpr h
      | some b =>
          rw [hold] at htables
          exact (hfiled htables).mpr (h.leave hold)
  | playerMoveInternal now req =>
      have htables := tables_onPlayerMoveInternalRequest cfg z now req
      refine iff_of_true ?_ trivial
      cases hold : z.playerBindings.lookup req.charId with
      | none =>
          rw [hold] at htables
          exact (hfiled htables).mpr h
      | some b =>
          rw [hold] at htables
          exact (hfiled htables).mpr (h.move hold rfl rfl)
  | reap now =>
      exact iff_of_true ((hfiled (tables_reapEmptyDungeonInstances z now)).mpr h) trivial

theorem spatialExact_step_iff {cfg : ZoneConfig} {z : ZoneRuntime} (hstored : z.CellsStored cfg)
    (h : z.SpatialExact cfg) (e : Event) :
    (z.step cfg e).SpatialExact cfg ↔ z.EntersWithoutPosition e := by
  rw [spatialExact_iff_filed (cellsStored_step hstored e)]
  exact filed_step_iff ((spatialExact_iff_filed hstored).mp h) e

/-- Both invariants over a run: induction on the events. -/
theorem spatialExact_run {cfg : ZoneConfig} {es : List Event}
    (hes : Along (step cfg) EntersWithoutPosition {} es) :
    (run (step cfg) {} es).SpatialExact cfg ∧ (run (step cfg) {} es).CellsStored cfg := by
  have hstep : ∀ (z : ZoneRuntime) e, z.SpatialExact cfg ∧ z.CellsStored cfg →
      z.EntersWithoutPosition e → (z.step cfg e).SpatialExact cfg ∧ (z.step cfg e).CellsStored cfg :=
    fun z e h he => ⟨(spatialExact_step_iff h.2 h.1 e).mpr he, cellsStored_step h.2 e⟩
  have hempty : ({} : ZoneRuntime).SpatialExact cfg ∧ ({} : ZoneRuntime).CellsStored cfg :=
    ⟨fun mapKey cx cy id => by simp [SpatialIndex.listed], fun id b hb => by simp at hb⟩
  have halways : Always (step cfg) (fun z => z.SpatialExact cfg ∧ z.CellsStored cfg) {} es :=
    always_of_along hempty hstep hes
  exact always_iff_forall_part.mp halways es List.prefix_rfl

/-- **Spatial index**: from an empty zone process, whatever it serves, the
index lists every player in the cell of its position and nowhere else in
every state of a run precisely if every enter that changes the map of a
player finds it without a position. -/
theorem spatialExact_run_iff (cfg : ZoneConfig) (es : List Event) :
    Always (step cfg) (fun z => z.SpatialExact cfg ∧ z.ListedOnce) {} es ↔
      Along (step cfg) EntersWithoutPosition {} es := by
  have hand : ∀ z : ZoneRuntime, z.SpatialExact cfg ∧ z.ListedOnce ↔ z.SpatialExact cfg :=
    fun z => ⟨And.left, fun h => ⟨h, h.listedOnce⟩⟩
  simp only [hand]
  refine always_iff_along (W := fun z => z.CellsStored cfg) ?_ ?_
    (fun z e h => cellsStored_step h e) fun z e hstored h => spatialExact_step_iff hstored h e
  · intro id b hb
    simp at hb
  · intro mapKey cx cy id
    simp [SpatialIndex.listed]

/-- A process that serves maps 1 and 2. -/
def twoMaps : ZoneConfig := { servedMapIds := [1, 2], hasMap := fun _ _ => true }

/-- Player 11 enters map 1, moves, and enters map 2. -/
def enterSecondMap : List Event :=
  [.mapAssign 0 { mapTemplateId := 1, createIfMissing := 1 },
    .mapAssign 0 { mapTemplateId := 2, createIfMissing := 1 },
    .playerEnter 0 { charId := 11, mapTemplateId := 1 },
    .playerMoveInternal 0 { charId := 11, mapTemplateId := 1, x := 5, y := 5 },
    .playerEnter 0 { charId := 11, mapTemplateId := 2 }]

theorem binding_enterSecondMap :
    (run (step twoMaps) {} enterSecondMap).playerBindings.lookup 11 =
      some { mapKey := makeMapInstanceKey 2 0, mapTemplateId := 2, x := 5, y := 5
             cellX := 0, cellY := 0, hasPosition := true } := by
  decide

/-- The binding has a position on map 2, and the index of map 2 is empty. -/
theorem not_spatialExact_enterSecondMap :
    ¬ Always (step twoMaps) (fun z => z.SpatialExact twoMaps ∧ z.ListedOnce) {}
      enterSecondMap := by
  intro h
  have hlast := (always_iff_forall_part.mp h enterSecondMap List.prefix_rfl).1
  have hlisted : (run (step twoMaps) {} enterSecondMap).spatialIndex.listed
      (makeMapInstanceKey 2 0) 0 0 = [] := by
    decide
  have hmem := (hlast (makeMapInstanceKey 2 0) 0 0 11).mpr
    ⟨_, binding_enterSecondMap, rfl, rfl, by decide, by decide⟩
  rw [hlisted] at hmem
  cases hmem

end ZoneRuntime

end GameServer
