import GameServer.Lib.Buckets
import GameServer.Lib.Run
import GameServer.Lib.Table
import GameServer.World.ZoneSector

/-!
# GameServer.World.ZoneActor

The players of a zone and the grid that finds them (`ZoneActor`).

* `joinOrUpdate`, `leave`, `moveFastUpdate`, `move` — the operations on the
  grid; `move` also reports who comes into sight and who goes out of it;
* `GridInvariant` — a player is in the set of its own cell and in no other;
* `gridInvariant_run_iff` — a run keeps it precisely if nobody joins again
  from another cell.
-/

namespace GameServer

/-- `ZoneActor::PlayerInfo`. -/
structure PlayerInfo where
  pos : Vec2i := {}
  cx : Int32 := 0
  cy : Int32 := 0
  sid : UInt32 := 0
  serial : UInt32 := 0
deriving DecidableEq, Repr

/-- The cell a player is stored with. -/
def PlayerInfo.cell (info : PlayerInfo) : Vec2i := ⟨info.cx, info.cy⟩

/-- `cells`: the ids in each cell that has any. -/
abbrev CellTable := AList fun _ : Int64 => ListSet UInt64

namespace CellTable

/-- `cells[k].insert(id)`. -/
def insertId (cells : CellTable) (k : Int64) (id : UInt64) : CellTable :=
  AList.insert k (((cells.lookup k).getD ListSet.empty).insert id) cells

/-- Erase an id from the set of a cell, and the set once it is empty. -/
def eraseId (cells : CellTable) (k : Int64) (id : UInt64) : CellTable :=
  match cells.lookup k with
  | none => cells
  | some s =>
      if (s.erase id).elems.isEmpty then AList.erase k cells
      else AList.insert k (s.erase id) cells

/-- The ids in a cell. -/
def idsAt (cells : CellTable) (k : Int64) : List UInt64 :=
  match cells.lookup k with
  | none => []
  | some s => s.elems

end CellTable

/-- The state of `ZoneActor` that the grid operations work on. -/
structure ZoneActor where
  sector : SectorContainer := {}
  players : Table UInt64 PlayerInfo := Table.empty
  cells : CellTable := ∅
  pendingMoves : AList fun _ : UInt64 => Vec2i := ∅

/-- `MoveDiff`. -/
structure MoveDiff where
  newPos : Vec2i := {}
  oldVis : List UInt64 := []
  newVis : List UInt64 := []
  enteredVis : List UInt64 := []
  exitedVis : List UInt64 := []
deriving DecidableEq, Repr

namespace ZoneActor

open SectorContainer

/-! ## Who is seen from a cell -/

/-- `GatherNeighborsFromCells`. -/
def gatherNeighborsFromCells (z : ZoneActor) (cellKeys : List Int64) : List UInt64 :=
  cellKeys.dedup.flatMap z.cells.idsAt

/-- `GatherNeighborsVec`. -/
def gatherNeighborsVec (z : ZoneActor) (cx cy : Int32) : List UInt64 :=
  z.gatherNeighborsFromCells (z.sector.broadCells cx cy)

/-- `RemoveFromVis_`. -/
def removeFromVis (v : List UInt64) (charId : UInt64) : List UInt64 :=
  v.filter fun id => id ≠ charId

/-- `CalcEnteredCells`. -/
def calcEnteredCells (z : ZoneActor) (oldCx oldCy newCx newCy : Int32) : List Int64 :=
  let dx := newCx - oldCx
  let dy := newCy - oldCy
  if dx ≥ -1 ∧ dx ≤ 1 ∧ dy ≥ -1 ∧ dy ≤ 1 then
    (z.sector.enteredEdgeOffsets dx dy).map fun off =>
      cellKey (z.sector.clampCx (newCx + off.x)) (z.sector.clampCy (newCy + off.y))
  else z.sector.broadCells newCx newCy

/-- `CalcLeftCells`. -/
def calcLeftCells (z : ZoneActor) (oldCx oldCy newCx newCy : Int32) : List Int64 :=
  let dx := newCx - oldCx
  let dy := newCy - oldCy
  if dx ≥ -1 ∧ dx ≤ 1 ∧ dy ≥ -1 ∧ dy ≤ 1 then
    (z.sector.leftEdgeOffsets dx dy).map fun off =>
      cellKey (z.sector.clampCx (oldCx + off.x)) (z.sector.clampCy (oldCy + off.y))
  else z.sector.broadCells oldCx oldCy

/-- `CalcEnteredExitedFromVis_`: the entered and the exited ids. -/
def calcEnteredExitedFromVis (oldVis newVis : List UInt64) : List UInt64 × List UInt64 :=
  let oldv := oldVis.insertionSort (· ≤ ·)
  let newv := newVis.insertionSort (· ≤ ·)
  (setDifference newv oldv, setDifference oldv newv)

/-! ## Operations -/

/-- `JoinOrUpdate`. -/
def joinOrUpdate (z : ZoneActor) (charId : UInt64) (pos : Vec2i) (sid serial : UInt32) :
    ZoneActor :=
  let c := z.sector.toCellClamped pos
  { z with
    players := z.players.set charId { pos, cx := c.x, cy := c.y, sid, serial }
    cells := z.cells.insertId (cellKey c.x c.y) charId }

/-- `Leave`. -/
def leave (z : ZoneActor) (charId : UInt64) : ZoneActor :=
  match z.players charId with
  | none => z
  | some pi =>
      { z with
        cells := z.cells.eraseId (cellKey pi.cx pi.cy) charId
        players := z.players.erase charId }

/-- The update that `MoveFastUpdate` and `Move` make for a player that is in
the zone: its connection, its position, and the cell where that changes. -/
def moveKnown (z : ZoneActor) (charId : UInt64) (pi : PlayerInfo) (newPos : Vec2i)
    (sid serial : UInt32) : ZoneActor :=
  let nc := z.sector.toCellClamped newPos
  { z with
    cells :=
      if nc.x ≠ pi.cx ∨ nc.y ≠ pi.cy then
        (z.cells.eraseId (cellKey pi.cx pi.cy) charId).insertId (cellKey nc.x nc.y) charId
      else z.cells
    players := z.players.set charId { pos := newPos, cx := nc.x, cy := nc.y, sid, serial } }

/-- `MoveFastUpdate`. -/
def moveFastUpdate (z : ZoneActor) (charId : UInt64) (newPos : Vec2i) (sid serial : UInt32) :
    ZoneActor :=
  let z :=
    match z.players charId with
    | none => z.joinOrUpdate charId newPos sid serial
    | some pi => z.moveKnown charId pi newPos sid serial
  { z with pendingMoves := AList.insert charId newPos z.pendingMoves }

/-- `Move`: the zone afterwards, and the diff. -/
def move (z : ZoneActor) (charId : UInt64) (newPos : Vec2i) (sid serial : UInt32) :
    ZoneActor × MoveDiff :=
  match z.players charId with
  | none =>
      let z := z.joinOrUpdate charId newPos sid serial
      let c := z.sector.toCellClamped newPos
      let newVis := removeFromVis (z.gatherNeighborsVec c.x c.y) charId
      (z, { newPos, newVis, enteredVis := newVis })
  | some pi =>
      let z := z.moveKnown charId pi newPos sid serial
      let c := z.sector.toCellClamped newPos
      let newVis := removeFromVis (z.gatherNeighborsVec c.x c.y) charId
      let dx := c.x - pi.cx
      let dy := c.y - pi.cy
      if dx = 0 ∧ dy = 0 then (z, { newPos, newVis })
      else if dx ≥ -1 ∧ dx ≤ 1 ∧ dy ≥ -1 ∧ dy ≤ 1 then
        (z, { newPos, newVis
              enteredVis := removeFromVis
                (z.gatherNeighborsFromCells (z.calcEnteredCells pi.cx pi.cy c.x c.y)) charId
              exitedVis := removeFromVis
                (z.gatherNeighborsFromCells (z.calcLeftCells pi.cx pi.cy c.x c.y)) charId })
      else
        let oldVis := removeFromVis (z.gatherNeighborsVec pi.cx pi.cy) charId
        let d := calcEnteredExitedFromVis oldVis newVis
        (z, { newPos, oldVis, newVis, enteredVis := d.1, exitedVis := d.2 })

end ZoneActor

/-! ## The grid -/

namespace CellTable

theorem idsAt_eq (cells : CellTable) (k : Int64) : cells.idsAt k = Buckets.idsAt cells k := by
  unfold idsAt Buckets.idsAt
  cases cells.lookup k with
  | none => rfl
  | some s => rfl

theorem eraseId_eq (cells : CellTable) (k : Int64) (id : UInt64) :
    cells.eraseId k id = Buckets.eraseId cells k id := by
  unfold eraseId Buckets.eraseId
  cases cells.lookup k with
  | none => rfl
  | some s => rfl

theorem mem_idsAt_insertId {cells : CellTable} {k k' : Int64} {id x : UInt64} :
    x ∈ (cells.insertId k id).idsAt k' ↔ (k' = k ∧ x = id) ∨ x ∈ cells.idsAt k' := by
  rw [idsAt_eq, idsAt_eq]
  exact Buckets.mem_idsAt_insertId

theorem mem_idsAt_eraseId {cells : CellTable} {k k' : Int64} {id x : UInt64} :
    x ∈ (cells.eraseId k id).idsAt k' ↔ x ∈ cells.idsAt k' ∧ ¬(k' = k ∧ x = id) := by
  rw [idsAt_eq, idsAt_eq, eraseId_eq]
  exact Buckets.mem_idsAt_eraseId

end CellTable

namespace ZoneActor

open SectorContainer

/-- The grid finds every player in its own cell and nowhere else, and keeps
no empty sets. -/
structure GridInvariant (z : ZoneActor) : Prop where
  mem_idsAt : ∀ k id, id ∈ z.cells.idsAt k ↔
    ∃ pi, z.players id = some pi ∧ cellKey pi.cx pi.cy = k
  cell_eq : ∀ id pi, z.players id = some pi → pi.cell = z.sector.toCellClamped pi.pos
  nonempty : ∀ k s, z.cells.lookup k = some s → s.elems ≠ []

/-- A player is in one cell only. -/
theorem GridInvariant.key_unique {z : ZoneActor} (h : z.GridInvariant) {k k' : Int64} {id : UInt64}
    (hk : id ∈ z.cells.idsAt k) (hk' : id ∈ z.cells.idsAt k') : k = k' := by
  obtain ⟨pi, hpi, rfl⟩ := (h.mem_idsAt k id).mp hk
  obtain ⟨pi', hpi', rfl⟩ := (h.mem_idsAt k' id).mp hk'
  rw [hpi] at hpi'
  cases hpi'
  rfl

theorem nonempty_insertId {cells : CellTable} {k : Int64} {id : UInt64}
    (h : ∀ k s, cells.lookup k = some s → s.elems ≠ []) :
    ∀ k' s, (cells.insertId k id).lookup k' = some s → s.elems ≠ [] :=
  Buckets.NoEmpty.insertId (b := cells) h k id

theorem nonempty_eraseId {cells : CellTable} {k : Int64} {id : UInt64}
    (h : ∀ k s, cells.lookup k = some s → s.elems ≠ []) :
    ∀ k' s, (cells.eraseId k id).lookup k' = some s → s.elems ≠ [] := by
  rw [CellTable.eraseId_eq]
  exact Buckets.NoEmpty.eraseId (b := cells) h k id

/-- What a move of a known player does to the grid. -/
theorem mem_idsAt_moveKnown {z : ZoneActor} (h : z.GridInvariant) {charId : UInt64}
    {pi : PlayerInfo} (hpi : z.players charId = some pi) (newPos : Vec2i) (sid serial : UInt32)
    {k : Int64} {id : UInt64} :
    id ∈ (z.moveKnown charId pi newPos sid serial).cells.idsAt k ↔
      if id = charId then
        cellKey (z.sector.toCellClamped newPos).x (z.sector.toCellClamped newPos).y = k
      else id ∈ z.cells.idsAt k := by
  have hself : ∀ k, charId ∈ z.cells.idsAt k ↔ cellKey pi.cx pi.cy = k := by
    intro k
    rw [h.mem_idsAt]
    constructor
    · rintro ⟨pi', hpi', hk⟩
      rw [hpi] at hpi'
      cases hpi'
      exact hk
    · exact fun hk => ⟨pi, hpi, hk⟩
  simp only [moveKnown]
  split_ifs with hcell hid hid
  · subst hid
    rw [CellTable.mem_idsAt_insertId, CellTable.mem_idsAt_eraseId, hself]
    grind
  · rw [CellTable.mem_idsAt_insertId, CellTable.mem_idsAt_eraseId]
    grind
  · subst hid
    rw [hself]
    grind
  · rfl

/-- A move of a known player keeps the grid. -/
theorem GridInvariant.moveKnown {z : ZoneActor} (h : z.GridInvariant) {charId : UInt64}
    {pi : PlayerInfo} (hpi : z.players charId = some pi) (newPos : Vec2i) (sid serial : UInt32) :
    (z.moveKnown charId pi newPos sid serial).GridInvariant where
  mem_idsAt k id := by
    rw [mem_idsAt_moveKnown h hpi]
    simp only [ZoneActor.moveKnown, Table.set_apply]
    split_ifs with hid
    · simp
    · exact h.mem_idsAt k id
  cell_eq id pi' hpi' := by
    simp only [ZoneActor.moveKnown, Table.set_apply] at hpi' ⊢
    split_ifs at hpi' with hid
    · cases hpi'
      rfl
    · exact h.cell_eq id pi' hpi'
  nonempty := by
    simp only [ZoneActor.moveKnown]
    split_ifs
    · exact nonempty_insertId (nonempty_eraseId h.nonempty)
    · exact h.nonempty

theorem gridInvariant_empty (sector : SectorContainer) : GridInvariant { sector } where
  mem_idsAt _ _ := by simp [CellTable.idsAt]
  cell_eq _ _ h := by simp at h
  nonempty _ _ h := by simp at h

/-- So does the arrival of a player that is not in the zone. -/
theorem GridInvariant.joinOrUpdate {z : ZoneActor} (h : z.GridInvariant) {charId : UInt64}
    (habsent : z.players charId = none) (pos : Vec2i) (sid serial : UInt32) :
    (z.joinOrUpdate charId pos sid serial).GridInvariant where
  mem_idsAt k id := by
    simp only [ZoneActor.joinOrUpdate, CellTable.mem_idsAt_insertId, Table.set_apply]
    split_ifs with hid
    · subst hid
      have hnot : id ∉ z.cells.idsAt k := by
        rw [h.mem_idsAt, habsent]
        simp
      simp [hnot, eq_comm]
    · simpa [hid] using h.mem_idsAt k id
  cell_eq id pi hpi := by
    simp only [ZoneActor.joinOrUpdate, Table.set_apply] at hpi ⊢
    split_ifs at hpi with hid
    · cases hpi
      rfl
    · exact h.cell_eq id pi hpi
  nonempty := nonempty_insertId h.nonempty

/-- So does leaving. -/
theorem GridInvariant.leave {z : ZoneActor} (h : z.GridInvariant) (charId : UInt64) :
    (z.leave charId).GridInvariant := by
  simp only [ZoneActor.leave]
  cases hpi : z.players charId with
  | none => exact h
  | some pi =>
      refine ⟨fun k id => ?_, fun id pi' hpi' => ?_, nonempty_eraseId h.nonempty⟩
      · simp only [CellTable.mem_idsAt_eraseId, Table.erase_apply]
        rw [h.mem_idsAt]
        split_ifs with hid
        · subst hid
          rw [hpi]
          simp [eq_comm]
        · simp [hid]
      · exact h.cell_eq id pi' (Table.erase_eq_some_iff.mp hpi').2

/-- A fast update stays in its cell and files nobody. -/
theorem GridInvariant.moveFastUpdate {z : ZoneActor} (h : z.GridInvariant) (charId : UInt64)
    (newPos : Vec2i) (sid serial : UInt32) :
    (z.moveFastUpdate charId newPos sid serial).GridInvariant := by
  -- The move buffer is not part of the grid.
  have hbuffer : ∀ {z' : ZoneActor} {moves}, z'.GridInvariant →
      { z' with pendingMoves := moves }.GridInvariant :=
    fun h' => ⟨h'.mem_idsAt, h'.cell_eq, h'.nonempty⟩
  unfold ZoneActor.moveFastUpdate
  cases hpi : z.players charId with
  | none => exact hbuffer (h.joinOrUpdate hpi newPos sid serial)
  | some pi => exact hbuffer (h.moveKnown hpi newPos sid serial)

/-- A move takes the player out of its old cell before it enters the new one. -/
theorem GridInvariant.move {z : ZoneActor} (h : z.GridInvariant) (charId : UInt64)
    (newPos : Vec2i) (sid serial : UInt32) :
    (z.move charId newPos sid serial).1.GridInvariant := by
  unfold ZoneActor.move
  cases hpi : z.players charId with
  | none => exact h.joinOrUpdate hpi newPos sid serial
  | some pi =>
      have hmoved := h.moveKnown hpi newPos sid serial
      dsimp only
      split_ifs
      · exact hmoved
      · exact hmoved
      · exact hmoved

/-- `JoinOrUpdate` never leaves a cell: a player that is in the zone keeps
the grid only if it stays in its cell. -/
theorem gridInvariant_joinOrUpdate_iff {z : ZoneActor} (h : z.GridInvariant) (charId : UInt64)
    (pos : Vec2i) (sid serial : UInt32) :
    (z.joinOrUpdate charId pos sid serial).GridInvariant ↔
      ∀ pi, z.players charId = some pi → pi.cell = z.sector.toCellClamped pos := by
  constructor
  · intro h' pi hpi
    have hold : charId ∈ (z.joinOrUpdate charId pos sid serial).cells.idsAt
        (cellKey pi.cx pi.cy) := by
      simp only [ZoneActor.joinOrUpdate, CellTable.mem_idsAt_insertId]
      exact .inr ((h.mem_idsAt _ _).mpr ⟨pi, hpi, rfl⟩)
    obtain ⟨pi', hpi', hkey⟩ := (h'.mem_idsAt _ _).mp hold
    simp only [ZoneActor.joinOrUpdate, Table.set_self, Option.some.injEq] at hpi'
    subst hpi'
    have hcell := cellKey_inj (a := z.sector.toCellClamped pos) (b := pi.cell) hkey
    exact hcell.symm
  · intro hstay
    cases hpi : z.players charId with
    | none => exact h.joinOrUpdate hpi pos sid serial
    | some pi =>
        -- An update in place is a move that stays in its cell.
        have hcell := hstay pi hpi
        have hmove := h.moveKnown hpi pos sid serial
        have hcx : (z.sector.toCellClamped pos).x = pi.cx := by rw [← hcell]; rfl
        have hcy : (z.sector.toCellClamped pos).y = pi.cy := by rw [← hcell]; rfl
        have hin : charId ∈ z.cells.idsAt (cellKey pi.cx pi.cy) :=
          (h.mem_idsAt _ _).mpr ⟨pi, hpi, rfl⟩
        refine ⟨fun k id => ?_, hmove.cell_eq, nonempty_insertId h.nonempty⟩
        have hids := hmove.mem_idsAt k id
        simp only [ZoneActor.moveKnown, hcx, hcy, ne_eq, not_true_eq_false, or_self, if_false]
          at hids
        simp only [ZoneActor.joinOrUpdate, CellTable.mem_idsAt_insertId, hcx, hcy]
        rw [← hids, or_iff_right_iff_imp]
        rintro ⟨rfl, rfl⟩
        exact hin

/-! ## Runs -/

/-- The operations on the grid. -/
inductive GridOp where
  | joinOrUpdate (charId : UInt64) (pos : Vec2i) (sid serial : UInt32)
  | leave (charId : UInt64)
  | moveFastUpdate (charId : UInt64) (newPos : Vec2i) (sid serial : UInt32)
  | move (charId : UInt64) (newPos : Vec2i) (sid serial : UInt32)

def GridOp.apply (z : ZoneActor) : GridOp → ZoneActor
  | .joinOrUpdate charId pos sid serial => z.joinOrUpdate charId pos sid serial
  | .leave charId => z.leave charId
  | .moveFastUpdate charId newPos sid serial => z.moveFastUpdate charId newPos sid serial
  | .move charId newPos sid serial => (z.move charId newPos sid serial).1

/-- A join of a player that is in the zone is at a position in its cell. -/
def GridOp.RejoinsInPlace (z : ZoneActor) : GridOp → Prop
  | .joinOrUpdate charId pos _ _ =>
      ∀ pi, z.players charId = some pi → pi.cell = z.sector.toCellClamped pos
  | _ => True

/-- Every player is in exactly one cell, and nobody else is in any. -/
structure OneCellEach (z : ZoneActor) : Prop where
  one : ∀ id, z.players id ≠ none → ∃! k, id ∈ z.cells.idsAt k
  departed : ∀ id, z.players id = none → ∀ k, id ∉ z.cells.idsAt k

/-- Filed exactly where its record says is filed in one cell. -/
theorem GridInvariant.oneCellEach {z : ZoneActor} (h : z.GridInvariant) : z.OneCellEach where
  one id hid := by
    obtain ⟨pi, hpi⟩ := Option.ne_none_iff_exists'.mp hid
    refine ⟨cellKey pi.cx pi.cy, (h.mem_idsAt _ _).mpr ⟨pi, hpi, rfl⟩, fun k hk => ?_⟩
    obtain ⟨pi', hpi', hkey⟩ := (h.mem_idsAt _ _).mp hk
    rw [hpi] at hpi'
    cases hpi'
    exact hkey.symm
  departed id hid k hk := by
    obtain ⟨pi, hpi, -⟩ := (h.mem_idsAt _ _).mp hk
    rw [hid] at hpi
    cases hpi

/-- Of all operations only a join of a player that is in another cell loses it. -/
theorem gridInvariant_apply_iff {z : ZoneActor} (h : z.GridInvariant) (op : GridOp) :
    (op.apply z).GridInvariant ↔ op.RejoinsInPlace z := by
  cases op with
  | joinOrUpdate charId pos sid serial =>
      exact gridInvariant_joinOrUpdate_iff h charId pos sid serial
  | leave charId => exact iff_of_true (h.leave charId) trivial
  | moveFastUpdate charId newPos sid serial =>
      exact iff_of_true (h.moveFastUpdate charId newPos sid serial) trivial
  | move charId newPos sid serial =>
      exact iff_of_true (h.move charId newPos sid serial) trivial

/-- **Grid**: from an empty zone, whatever its sectors, the grid finds every
player in its own cell and nowhere else in every state of a run precisely if
every join of a player that is in the zone stays in its cell. -/
theorem gridInvariant_run_iff (sector : SectorContainer) (ops : List GridOp) :
    Always GridOp.apply (fun z => z.GridInvariant ∧ z.OneCellEach) { sector } ops ↔
      Along GridOp.apply (fun z op => op.RejoinsInPlace z) { sector } ops := by
  have hand : ∀ z : ZoneActor, z.GridInvariant ∧ z.OneCellEach ↔ z.GridInvariant :=
    fun z => ⟨And.left, fun h => ⟨h, h.oneCellEach⟩⟩
  simp only [hand]
  exact always_iff_along (W := fun _ => True) trivial (gridInvariant_empty sector)
    (fun _ _ _ => trivial) (fun _ op _ h => gridInvariant_apply_iff h op)

/-- Player 11 joins, and joins again from another cell; then it leaves. -/
def rejoinElsewhere : List GridOp :=
  [.joinOrUpdate 11 ⟨5, 5⟩ 1 1, .joinOrUpdate 11 ⟨25, 5⟩ 2 1, .leave 11]

/-- The zone has no player any more, but the first cell still has player 11. -/
theorem not_gridInvariant_rejoinElsewhere :
    let sector := ((initSector ⟨100, 100⟩ 10 1).getD {})
    ¬ Always GridOp.apply (fun z => z.GridInvariant ∧ z.OneCellEach) { sector }
      rejoinElsewhere := by
  intro sector h
  have hlast := (always_iff_forall_part.mp h rejoinElsewhere List.prefix_rfl).2
  have hgone : (run GridOp.apply { sector } rejoinElsewhere).players 11 = none := by decide
  have hghost : 11 ∈ (run GridOp.apply { sector } rejoinElsewhere).cells.idsAt (cellKey 0 0) := by
    decide
  exact hlast.departed 11 hgone _ hghost

end ZoneActor

end GameServer
