import GameServer.Lib.SortedList
import GameServer.Zone.InstanceCounts

/-!
# GameServer.Zone.AoiMessages

What a zone process tells its players about each other: who comes into
sight, who goes out of it, and who moves within it.

* `buildVisibleActorIdsForPosition` — the players in sight, found through
  the spatial index;
* `leaveMessages`, `moveMessages` — the batches that a leave and a move send;
* `untouched_of_otherMap_iff` — a request for a map instance that the player
  is not bound to is carried out all the same.
-/

namespace GameServer

/-- The switches of a zone process and its line to the world
(`world_sid_`, `world_serial_`). -/
structure AoiTransfer where
  worldSid : UInt32 := 0
  worldSerial : UInt32 := 0
  channelId : UInt16 := 1
  enableZoneAoiSnapshot : Bool := true
  enableZoneAoiMoveDiff : Bool := true
deriving DecidableEq, Repr

/-- `S2C_player_spawn_item`, and `S2C_player_move_item` with the same fields. -/
structure ActorItem where
  charId : UInt64 := 0
  x : Int32 := 0
  y : Int32 := 0
deriving DecidableEq, Repr

/-- The fields in front of the items: the receiver, and where it happens. -/
structure AoiHeader where
  traceId : UInt64
  sid : UInt32
  serial : UInt32
  charId : UInt64
  mapTemplateId : UInt32
  instanceId : UInt32
  zoneId : UInt16
  channelId : UInt16
deriving DecidableEq, Repr

/-- The messages about who sees whom. -/
inductive AoiMessage where
  | snapshot (header : AoiHeader) (selfX selfY : Int32) (items : List ActorItem)
  | spawnBatch (header : AoiHeader) (items : List ActorItem)
  | despawnBatch (header : AoiHeader) (charIds : List UInt64)
  | moveBatch (header : AoiHeader) (items : List ActorItem)
deriving DecidableEq, Repr

def AoiMessage.isDespawn : AoiMessage → Bool
  | .despawnBatch _ _ => true
  | _ => false

/-! ## Who is in sight -/

/-- `SanitizeEntityIds`: no id is `0`, and none is repeated.  The ids seen
are those kept. -/
def sanitizeEntityIds (ids : List UInt64) : List UInt64 :=
  ids.foldl (fun out id => if id = 0 then out else if id ∈ out then out else out ++ [id]) []

/-- Sanitizing drops zeros and repetitions, and nothing else. -/
theorem nodup_mem_sanitizeEntityIds (ids : List UInt64) :
    (sanitizeEntityIds ids).Nodup ∧ ∀ id, id ∈ sanitizeEntityIds ids ↔ id ≠ 0 ∧ id ∈ ids := by
  have hloop : ∀ out : List UInt64, out.Nodup → (∀ id ∈ out, id ≠ 0) →
      (ids.foldl (fun out id => if id = 0 then out else if id ∈ out then out else out ++ [id])
          out).Nodup ∧
        ∀ id, id ∈ ids.foldl
            (fun out id => if id = 0 then out else if id ∈ out then out else out ++ [id]) out ↔
          id ∈ out ∨ (id ≠ 0 ∧ id ∈ ids) := by
    induction ids with
    | nil =>
        intro out hnodup _
        simpa using hnodup
    | cons a ids ih =>
        intro out hnodup hzero
        rw [List.foldl_cons]
        split_ifs with ha hmem
        · refine ⟨(ih out hnodup hzero).1, fun id => ?_⟩
          rw [(ih out hnodup hzero).2]
          grind
        · refine ⟨(ih out hnodup hzero).1, fun id => ?_⟩
          rw [(ih out hnodup hzero).2]
          grind
        · have hnodup' : (out ++ [a]).Nodup := by
            rw [List.nodup_append]
            simpa using ⟨hnodup, fun x hx => (ne_of_mem_of_not_mem hx hmem)⟩
          have hzero' : ∀ id ∈ out ++ [a], id ≠ 0 := by grind
          refine ⟨(ih _ hnodup' hzero').1, fun id => ?_⟩
          rw [(ih _ hnodup' hzero').2]
          grind
  simpa [sanitizeEntityIds] using hloop [] List.nodup_nil (by simp)

/-- `kMaxBatchEntityCount`. -/
def maxBatchEntityCount : Nat := 4096

/-- `for (c = lo; c <= hi; ++c)`. -/
def coordRange (lo hi : Int32) : List Int32 :=
  (List.range (hi.toInt - lo.toInt + 1).toNat).map fun i : Nat => Int32.ofInt (lo.toInt + i)

/-- `radius_m`. -/
def aoiRadius (cfg : AoiConfig) : Int64 := cfg.worldSightUnit.toInt64 * cfg.aoiRadiusCells.toInt64

/-- `neighbor_range`. -/
def neighborRange (cfg : AoiConfig) : Int32 :=
  let cellSize := (resolveAoiCellSize cfg).toInt64
  max 1 ((aoiRadius cfg + cellSize - 1) / cellSize).toInt32

/-- The distance test, on the squares. -/
def withinRadius (cfg : AoiConfig) (other : PlayerBindingState) (x y : Int32) : Bool :=
  let dx := other.x.toInt64 - x.toInt64
  let dy := other.y.toInt64 - y.toInt64
  !decide (dx * dx + dy * dy > aoiRadius cfg * aoiRadius cfg)

namespace ZoneRuntime

/-- The characters listed in the cells around a position. -/
def candidateIds (cfg : ZoneConfig) (z : ZoneRuntime) (mapKey : UInt64) (x y : Int32) :
    List UInt64 :=
  let cell := cfg.cellOf x y
  let range := neighborRange cfg.aoi
  ((coordRange (cell.2 - range) (cell.2 + range)).flatMap fun cellY =>
    (coordRange (cell.1 - range) (cell.1 + range)).flatMap fun cellX =>
      z.spatialIndex.listed mapKey cellX cellY).dedup

/-- `BuildVisibleActorIdsForPosition_`. -/
def buildVisibleActorIdsForPosition (cfg : ZoneConfig) (z : ZoneRuntime) (charId mapKey : UInt64)
    (x y : Int32) : List UInt64 :=
  sanitizeEntityIds <| (z.candidateIds cfg mapKey x y).filter fun otherCharId =>
    match z.playerBindings.lookup otherCharId with
    | none => false
    | some other =>
        otherCharId != charId && other.mapKey == mapKey && other.hasPosition &&
          withinRadius cfg.aoi other x y

/-- `BuildSpawnItemsForActorIds_`. -/
def buildSpawnItemsForActorIds (z : ZoneRuntime) (actorIds : List UInt64) : List ActorItem :=
  let items := actorIds.filterMap fun actorId =>
    match z.playerBindings.lookup actorId with
    | none => none
    | some b => if b.hasPosition then some { charId := actorId, x := b.x, y := b.y } else none
  items.take maxBatchEntityCount

/-! ## Messages -/

/-- The header of a message to a player. -/
def aoiHeader (cfg : ZoneConfig) (line : AoiTransfer) (traceId : UInt64)
    (mapTemplateId instanceId : UInt32) (sid serial : UInt32) (charId : UInt64) : AoiHeader where
  traceId
  sid
  serial
  charId
  mapTemplateId
  instanceId
  zoneId := cfg.resolveGameplayZoneId mapTemplateId
  channelId := line.channelId

/-- One message to each player whose connection is known. -/
def toReceivers (z : ZoneRuntime) (header : UInt32 → UInt32 → UInt64 → AoiHeader)
    (ids : List UInt64) (m : AoiHeader → AoiMessage) : List AoiMessage :=
  ids.filterMap fun otherCharId =>
    match z.playerBindings.lookup otherCharId with
    | none => none
    | some other =>
        if isValidSessionKey other.sid other.serial then
          some (m (header other.sid other.serial otherCharId))
        else none

/-- What `OnPlayerLeaveRequest_` sends. -/
def leaveMessages (cfg : ZoneConfig) (line : AoiTransfer) (z : ZoneRuntime)
    (req : WorldZonePlayerLeave) : List AoiMessage :=
  match z.playerBindings.lookup req.charId with
  | none => []
  | some b =>
      if b.hasPosition && isValidSessionKey line.worldSid line.worldSerial then
        z.toReceivers (aoiHeader cfg line 0 b.mapTemplateId b.instanceId)
          (z.buildVisibleActorIdsForPosition cfg req.charId b.mapKey b.x b.y)
          fun h => .despawnBatch h [req.charId]
      else []

/-- `TrySendInitialAoiSnapshot_`; whether the snapshot goes out is the
answer of the line. -/
def trySendInitialAoiSnapshot (cfg : ZoneConfig) (line : AoiTransfer) (z : ZoneRuntime)
    (traceId charId : UInt64) (selfState : PlayerBindingState) (snapshotRequestId : UInt64)
    (sent : Bool) : List AoiMessage :=
  if !selfState.hasPosition then []
  else if !isValidSessionKey selfState.sid selfState.serial then []
  else if !isValidSessionKey line.worldSid line.worldSerial then []
  else if !sent then []
  else
    let visibleIds :=
      z.buildVisibleActorIdsForPosition cfg charId selfState.mapKey selfState.x selfState.y
    let header := aoiHeader cfg line traceId selfState.mapTemplateId selfState.instanceId
    .snapshot (header selfState.sid selfState.serial charId) selfState.x selfState.y
        (z.buildSpawnItemsForActorIds visibleIds) ::
      -- 1: enter, 2: portal, 3: reconnect
      if snapshotRequestId ≠ 3 then
        z.toReceivers header visibleIds
          fun h => .spawnBatch h [{ charId, x := selfState.x, y := selfState.y }]
      else []

/-- The batches of a move: to the player who moved, to those it comes into
sight of, to those it goes out of sight of, and to the others. -/
def moveDiffMessages (cfg : ZoneConfig) (line : AoiTransfer) (z : ZoneRuntime)
    (req : WorldZonePlayerMoveInternal) (before after : List UInt64) : List AoiMessage :=
  let beforeSorted := before.insertionSort (· ≤ ·)
  let afterSorted := after.insertionSort (· ≤ ·)
  let entered := setDifference afterSorted beforeSorted
  let exited := setDifference beforeSorted afterSorted
  let persisted := setIntersection beforeSorted afterSorted
  let header := aoiHeader cfg line req.traceId req.mapTemplateId req.instanceId
  let self : ActorItem := { charId := req.charId, x := req.x, y := req.y }
  let items := z.buildSpawnItemsForActorIds entered
  let valid := isValidSessionKey req.sid req.serial
  if !isValidSessionKey line.worldSid line.worldSerial then []
  else
    (if !entered.isEmpty && valid && !items.isEmpty then
        [.spawnBatch (header req.sid req.serial req.charId) items] else []) ++
      (if !exited.isEmpty && valid then
        [.despawnBatch (header req.sid req.serial req.charId) exited] else []) ++
      z.toReceivers header entered (fun h => .spawnBatch h [self]) ++
      z.toReceivers header exited (fun h => .despawnBatch h [req.charId]) ++
      z.toReceivers header persisted (fun h => .moveBatch h [self])

/-- What `OnPlayerMoveInternalRequest_` sends. -/
def moveMessages (cfg : ZoneConfig) (line : AoiTransfer) (sent : Bool) (z : ZoneRuntime)
    (now : Nat) (req : WorldZonePlayerMoveInternal) : List AoiMessage :=
  match z.playerBindings.lookup req.charId with
  | none => []
  | some before =>
      let beforeVisible :=
        if line.enableZoneAoiMoveDiff && req.requestId == 0 && before.hasPosition then
          z.buildVisibleActorIdsForPosition cfg req.charId before.mapKey before.x before.y
        else []
      let z := z.onPlayerMoveInternalRequest cfg now req
      let b := movedBinding cfg req before
      if line.enableZoneAoiSnapshot && req.requestId != 0 then
        z.trySendInitialAoiSnapshot cfg line req.traceId req.charId b req.requestId sent
      else if !line.enableZoneAoiMoveDiff then []
      else
        z.moveDiffMessages cfg line req beforeVisible
          (z.buildVisibleActorIdsForPosition cfg req.charId b.mapKey b.x b.y)

/-- What the process sends to players at a step. -/
def messages (cfg : ZoneConfig) (line : AoiTransfer) (sent : Bool) (z : ZoneRuntime) :
    Event → List AoiMessage
  | .playerLeave _ req => z.leaveMessages cfg line req
  | .playerMoveInternal now req => z.moveMessages cfg line sent now req
  | _ => []

/-! ## Which messages these are -/

variable {cfg : ZoneConfig} {line : AoiTransfer} {z z' : ZoneRuntime} {sent : Bool}

/-- A message goes to every receiver that is bound over a valid session. -/
theorem mem_toReceivers {header : UInt32 → UInt32 → UInt64 → AoiHeader} {ids : List UInt64}
    {m : AoiHeader → AoiMessage} {msg : AoiMessage} :
    msg ∈ z.toReceivers header ids m ↔ ∃ id ∈ ids, ∃ b, z.playerBindings.lookup id = some b ∧
      isValidSessionKey b.sid b.serial ∧ m (header b.sid b.serial id) = msg := by
  unfold toReceivers
  rw [List.mem_filterMap]
  refine exists_congr fun id => and_congr_right fun _ => ?_
  cases z.playerBindings.lookup id with
  | none => simp
  | some b => simp

/-- Who is in sight is a matter of the bindings and of what is listed. -/
theorem buildVisible_congr (hlookup : ∀ id, z'.playerBindings.lookup id = z.playerBindings.lookup id)
    (hlisted : ∀ k cx cy, z'.spatialIndex.listed k cx cy = z.spatialIndex.listed k cx cy)
    (charId mapKey : UInt64) (x y : Int32) :
    z'.buildVisibleActorIdsForPosition cfg charId mapKey x y =
      z.buildVisibleActorIdsForPosition cfg charId mapKey x y := by
  unfold buildVisibleActorIdsForPosition candidateIds
  simp only [hlookup, hlisted]

/-- A snapshot despawns nobody. -/
theorem not_isDespawn_of_mem_snapshot {traceId charId requestId : UInt64} {b : PlayerBindingState}
    {m : AoiMessage}
    (hm : m ∈ z.trySendInitialAoiSnapshot cfg line traceId charId b requestId sent) :
    m.isDespawn = false := by
  unfold trySendInitialAoiSnapshot at hm
  split_ifs at hm with h₁ h₂ h₃ h₄ h₅
  · cases hm
  · cases hm
  · cases hm
  · cases hm
  · cases hm with
    | head => rfl
    | tail _ hm =>
        obtain ⟨_, _, _, _, _, rfl⟩ := mem_toReceivers.mp hm
        rfl
  · cases hm with
    | head => rfl
    | tail _ hm => cases hm

/-- A move that nobody goes out of sight by despawns nobody. -/
theorem not_isDespawn_of_mem_moveDiff {req : WorldZonePlayerMoveInternal}
    {before after : List UInt64} {m : AoiMessage}
    (hexited : setDifference (before.insertionSort (· ≤ ·)) (after.insertionSort (· ≤ ·)) = [])
    (hm : m ∈ z.moveDiffMessages cfg line req before after) : m.isDespawn = false := by
  unfold moveDiffMessages at hm
  simp only [hexited] at hm
  by_cases hworld : (!isValidSessionKey line.worldSid line.worldSerial) = true
  · rw [if_pos hworld] at hm
    cases hm
  · rw [if_neg hworld] at hm
    simp only [List.mem_append, List.mem_ite_nil_right, List.mem_singleton] at hm
    obtain (((⟨-, rfl⟩ | hm) | hm) | hm) | hm := hm
    · rfl
    · simp at hm
    · obtain ⟨_, _, _, _, _, rfl⟩ := mem_toReceivers.mp hm
      rfl
    · simp [toReceivers] at hm
    · obtain ⟨_, _, _, _, _, rfl⟩ := mem_toReceivers.mp hm
      rfl

/-! ## Requests for another map instance -/

/-- The request is for a player who is bound, to another map instance than
the one that the request names. -/
def ForOtherMap (z : ZoneRuntime) : Event → Prop
  | .playerLeave _ req => ∃ b, z.playerBindings.lookup req.charId = some b ∧
      (req.mapTemplateId, req.instanceId) ≠ (b.mapTemplateId, b.instanceId)
  | .playerMoveInternal _ req => ∃ b, z.playerBindings.lookup req.charId = some b ∧
      (req.mapTemplateId, req.instanceId) ≠ (b.mapTemplateId, b.instanceId)
  | _ => False

/-- The request is a move that repeats the connection and the position of
the binding. -/
def RepeatsBinding (z : ZoneRuntime) : Event → Prop
  | .playerMoveInternal _ req => ∀ b, z.playerBindings.lookup req.charId = some b →
      b.hasPosition ∧ (req.sid, req.serial) = (b.sid, b.serial) ∧ (req.x, req.y) = (b.x, b.y)
  | _ => False

/-- Bindings, counts and index stay as they are, and nobody is despawned. -/
structure Untouched (z z' : ZoneRuntime) (sent : List AoiMessage) : Prop where
  bindings : ∀ id, z'.playerBindings.lookup id = z.playerBindings.lookup id
  counts : ∀ k, z'.playerCount k = z.playerCount k
  index : ∀ k cx cy, z'.spatialIndex.listed k cx cy = z.spatialIndex.listed k cx cy
  noDespawn : ∀ m ∈ sent, m.isDespawn = false

theorem cellsStored_run (cfg : ZoneConfig) (es : List Event) :
    (run (step cfg) {} es).CellsStored cfg :=
  run_induction (W := fun z : ZoneRuntime => z.CellsStored cfg)
    (fun id b hb => by cases (AList.lookup_empty (β := fun _ => PlayerBindingState) id ▸ hb))
    fun _ e h => cellsStored_step h e

/-- A move that repeats session and position leaves the binding as it was. -/
theorem movedBinding_eq_iff {req : WorldZonePlayerMoveInternal} {b : PlayerBindingState}
    (hcell : b.hasPosition → (b.cellX, b.cellY) = cfg.cellOf b.x b.y) :
    movedBinding cfg req b = b ↔
      b.hasPosition ∧ (req.sid, req.serial) = (b.sid, b.serial) ∧ (req.x, req.y) = (b.x, b.y) := by
  constructor
  · intro h
    refine ⟨?_, Prod.ext ?_ ?_, Prod.ext ?_ ?_⟩
    · exact (congrArg PlayerBindingState.hasPosition h).symm
    · exact congrArg PlayerBindingState.sid h
    · exact congrArg PlayerBindingState.serial h
    · exact congrArg PlayerBindingState.x h
    · exact congrArg PlayerBindingState.y h
  · rintro ⟨hpos, hkey, hxy⟩
    obtain ⟨hsid, hserial⟩ := Prod.mk.inj hkey
    obtain ⟨hx, hy⟩ := Prod.mk.inj hxy
    unfold movedBinding
    rw [hsid, hserial, hx, hy, ← hcell hpos]
    cases b
    cases hpos
    rfl

/-- A move to where the player is leaves the tables as they are. -/
theorem untouched_of_movedBinding_eq {now : Nat} {req : WorldZonePlayerMoveInternal}
    {b : PlayerBindingState} (hb : z.playerBindings.lookup req.charId = some b)
    (hpos : b.hasPosition) (hsame : movedBinding cfg req b = b) :
    z.Untouched (z.onPlayerMoveInternalRequest cfg now req)
      (z.moveMessages cfg line sent now req) := by
  have htables := tables_onPlayerMoveInternalRequest cfg z now req
  simp only [hb, hsame] at htables
  have hbindings : ∀ id, (z.onPlayerMoveInternalRequest cfg now req).playerBindings.lookup id =
      z.playerBindings.lookup id := by
    intro id
    rw [playerBindings_onPlayerMoveInternalRequest hb, hsame]
    by_cases hid : id = req.charId
    · rw [hid, AList.lookup_insert, hb]
    · exact AList.lookup_insert_ne hid
  have hlisted : ∀ k cx cy,
      (z.onPlayerMoveInternalRequest cfg now req).spatialIndex.listed k cx cy =
        z.spatialIndex.listed k cx cy := by
    intro k cx cy
    rw [show (z.onPlayerMoveInternalRequest cfg now req).spatialIndex = _ from
      congrArg Prod.fst htables]
    simp [updateActorSpatialIndex, hpos]
  refine ⟨hbindings, fun k => ?_, hlisted, fun m hm => ?_⟩
  · unfold onPlayerMoveInternalRequest
    simp only [hb]
    have hcount : (z.modifyInstance b.mapKey fun inst => { inst with lastAccessAt := now }).playerCount
        k = _ := playerCount_modifyInstance (g := id) fun _ => rfl
    rw [Option.map_id, id_eq, ite_self] at hcount
    exact hcount
  · unfold moveMessages at hm
    simp only [hb, hsame] at hm
    split_ifs at hm with hsnapshot hdiff hbefore
    · exact not_isDespawn_of_mem_snapshot hm
    · cases hm
    · rw [buildVisible_congr hbindings hlisted] at hm
      refine not_isDespawn_of_mem_moveDiff ?_ hm
      refine List.eq_nil_iff_forall_not_mem.mpr fun id hid => ?_
      have hboth := (mem_setDifference_sort (nodup_mem_sanitizeEntityIds _).1).mp hid
      exact hboth.2 hboth.1
    · exact not_isDespawn_of_mem_moveDiff (by simp [setDifference]) hm

/-- **Requests for another map**: in every state of a run, a leave or a move
for a map instance that the player is not bound to leaves bindings, counts
and index as they are and despawns nobody precisely if it is a move that
repeats the connection and the position of the binding. -/
theorem untouched_of_otherMap_iff (cfg : ZoneConfig) (line : AoiTransfer) (sent : Bool)
    (es : List Event) (e : Event) (h : (run (step cfg) {} es).ForOtherMap e) :
    (run (step cfg) {} es).Untouched ((run (step cfg) {} es).step cfg e)
        ((run (step cfg) {} es).messages cfg line sent e) ↔
      (run (step cfg) {} es).RepeatsBinding e := by
  have hstored := cellsStored_run cfg es
  generalize run (step cfg) {} es = z at h hstored ⊢
  cases e with
  | mapAssign now req => exact h.elim
  | playerEnter now req => exact h.elim
  | reap now => exact h.elim
  | playerLeave now req =>
      -- The binding is erased, whatever map it is for.
      obtain ⟨b, hb, -⟩ := h
      refine iff_of_false (fun huntouched => ?_) id
      have hkept := huntouched.bindings req.charId
      rw [hb, show (z.step cfg (.playerLeave now req)).playerBindings = _ from
        playerBindings_onPlayerLeaveRequest hb, AList.lookup_erase] at hkept
      cases hkept
  | playerMoveInternal now req =>
      obtain ⟨b, hb, -⟩ := h
      have hiff : movedBinding cfg req b = b ↔ _ := movedBinding_eq_iff (hstored req.charId b hb)
      simp only [RepeatsBinding, hb, Option.some.injEq, forall_eq', ← hiff]
      constructor
      · intro huntouched
        have hkept := huntouched.bindings req.charId
        rw [hb, show (z.step cfg (.playerMoveInternal now req)).playerBindings = _ from
          playerBindings_onPlayerMoveInternalRequest hb, AList.lookup_insert] at hkept
        exact Option.some.inj hkept
      · intro hsame
        exact untouched_of_movedBinding_eq hb (hiff.mp hsame).1 hsame

/-- The move on map 1 comes again after player 11 has entered map 2. -/
def moveFirstMap : Event := .playerMoveInternal 0 { charId := 11, mapTemplateId := 1, x := 5, y := 5 }

/-- It repeats the binding to map 2, and nothing changes. -/
theorem untouched_of_otherMap_iff_moveFirstMap :
    (run (step twoMaps) {} enterSecondMap).Untouched
      ((run (step twoMaps) {} enterSecondMap).step twoMaps moveFirstMap)
      ((run (step twoMaps) {} enterSecondMap).messages twoMaps {} true moveFirstMap) := by
  have hrepeats : (run (step twoMaps) {} enterSecondMap).RepeatsBinding moveFirstMap := by
    intro b hb
    rw [binding_enterSecondMap, Option.some.injEq] at hb
    rw [← hb]
    exact ⟨rfl, rfl, rfl⟩
  exact (untouched_of_otherMap_iff twoMaps {} true enterSecondMap moveFirstMap
    ⟨_, binding_enterSecondMap, by decide⟩).mpr hrepeats

/-- The leave of map 1 comes after player 11 has entered map 2. -/
def leaveFirstMap : Event := .playerLeave 0 { charId := 11, mapTemplateId := 1 }

/-- Player 11 is bound to map 2, and the leave of map 1 unbinds it. -/
theorem not_untouched_leaveFirstMap :
    (run (step twoMaps) {} enterSecondMap).ForOtherMap leaveFirstMap ∧
      ¬ (run (step twoMaps) {} enterSecondMap).Untouched
        ((run (step twoMaps) {} enterSecondMap).step twoMaps leaveFirstMap)
        ((run (step twoMaps) {} enterSecondMap).messages twoMaps {} true leaveFirstMap) := by
  refine ⟨⟨_, binding_enterSecondMap, by decide⟩, fun h => ?_⟩
  have hkept := h.bindings 11
  rw [binding_enterSecondMap] at hkept
  have hgone : ((run (step twoMaps) {} enterSecondMap).step twoMaps
      leaveFirstMap).playerBindings.lookup 11 = none := by
    decide
  rw [hgone] at hkept
  cases hkept

end ZoneRuntime

end GameServer
