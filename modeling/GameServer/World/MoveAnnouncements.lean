import GameServer.World.AoiDiff

/-!
# GameServer.World.MoveAnnouncements

Who is announced when a client moves: the zone task of `HandleWorldMove`
takes the lists of `Move`, and where both are empty it compares the visible
players itself.

`Move` fills in the players visible before for a jump only.  For a move
within a cell or to a neighbouring one the comparison is with an empty list,
so it takes everyone in sight for entered.

* `announced` — the entered and the exited ids after the fallback;
* `AnnouncesExact` — they are the players who come into sight and go out of
  it;
* `announcesExact_iff` — the moves for which they are.
-/

namespace GameServer

namespace ZoneActor

open SectorContainer

/-- The entered and the exited ids of the zone task of `HandleWorldMove`. -/
def announced (diff : MoveDiff) : List UInt64 × List UInt64 :=
  let entered := diff.enteredVis
  let exited := diff.exitedVis
  if entered.isEmpty ∧ exited.isEmpty ∧ (!diff.oldVis.isEmpty || !diff.newVis.isEmpty) then
    let oldv := diff.oldVis.insertionSort (· ≤ ·)
    let newv := diff.newVis.insertionSort (· ≤ ·)
    (setDifference newv oldv, setDifference oldv newv)
  else (entered, exited)

/-- The announced ids are who is seen after the move and not before it, and
who is seen before it and not after. -/
def AnnouncesExact (z : ZoneActor) (charId : UInt64) (old newPos : Vec2i) (sid serial : UInt32) :
    Prop :=
  let r := z.move charId newPos sid serial
  let new := z.sector.toCellClamped newPos
  (∀ id, id ∈ (announced r.2).1 ↔ id ∈ r.1.visible charId new ∧ id ∉ z.visible charId old) ∧
    ∀ id, id ∈ (announced r.2).2 ↔ id ∈ z.visible charId old ∧ id ∉ r.1.visible charId new

/-- A move within a cell or to a neighbouring one. -/
def ShortMove (old new : Vec2i) : Prop := IsUnitStep (new.x - old.x) ∧ IsUnitStep (new.y - old.y)

instance (old new : Vec2i) : Decidable (ShortMove old new) := inferInstanceAs (Decidable (_ ∧ _))

/-- Somebody is seen from one of the two cells only. -/
def SightChanges (z : ZoneActor) (charId : UInt64) (old new : Vec2i) : Prop :=
  ∃ id, (id ∈ z.visible charId new ∧ id ∉ z.visible charId old) ∨
    (id ∈ z.visible charId old ∧ id ∉ z.visible charId new)

/-! ## What `Move` returns -/

variable {z : ZoneActor}

theorem edge_self (s : SectorContainer) (c : Vec2i) : s.edge c c = [] := by
  simp [edge, edgeOffsets, unique]

/-- A short move: the lists are those of the edges, and nothing is said about
the players visible before. -/
structure ShortDiff (z : ZoneActor) (charId : UInt64) (old new : Vec2i) (d : MoveDiff) :
    Prop where
  oldVis : d.oldVis = []
  newVis : ∀ id, id ∈ d.newVis ↔ id ∈ z.visible charId new
  enteredVis : ∀ id, id ∈ d.enteredVis ↔
    id ≠ charId ∧ ∃ other, z.players id = some other ∧ other.cell ∈ z.sector.edge old new
  exitedVis : ∀ id, id ∈ d.exitedVis ↔
    id ≠ charId ∧ ∃ other, z.players id = some other ∧ other.cell ∈ z.sector.edge new old

/-- The others stand where they stood. -/
theorem mem_gather_moveKnown (h : z.GridInvariant) {charId id : UInt64} {pi : PlayerInfo}
    (hpi : z.players charId = some pi) (newPos : Vec2i) (sid serial : UInt32)
    (cells : List Vec2i) :
    id ∈ removeFromVis ((z.moveKnown charId pi newPos sid serial).gatherNeighborsFromCells
        (cells.map fun cell => cellKey cell.x cell.y)) charId ↔
      id ≠ charId ∧ ∃ other, z.players id = some other ∧ other.cell ∈ cells := by
  rw [mem_removeFromVis, (h.moveKnown hpi newPos sid serial).mem_gather]
  refine and_congr_right fun hne => ?_
  rw [show (z.moveKnown charId pi newPos sid serial).players id = z.players id from
    Table.set_of_ne _ _ hne]

/-- The lists as `Move` computes them, over the edges. -/
theorem shortDiff_of_lists (hs : z.sector.Ready) (h : z.GridInvariant) {charId : UInt64}
    {pi : PlayerInfo} (hpi : z.players charId = some pi) (newPos : Vec2i) (sid serial : UInt32)
    {z' : ZoneActor} (hz : z.moveKnown charId pi newPos sid serial = z') {old new : Vec2i}
    {entered left : List Int64} {es xs : List UInt64}
    (hin : entered = (z.sector.edge old new).map fun cell => cellKey cell.x cell.y)
    (hout : left = (z.sector.edge new old).map fun cell => cellKey cell.x cell.y)
    (hentered : es = removeFromVis (z'.gatherNeighborsFromCells entered) charId)
    (hexited : xs = removeFromVis (z'.gatherNeighborsFromCells left) charId) :
    z.ShortDiff charId old new
      { newPos, newVis := z'.visible charId new, enteredVis := es, exitedVis := xs } := by
  subst hz
  refine ⟨rfl, fun id => ?_, fun id => ?_, fun id => ?_⟩
  · dsimp only
    exact mem_visible_moveKnown hs h hpi newPos sid serial
  · dsimp only
    rw [hentered, hin]
    exact mem_gather_moveKnown h hpi newPos sid serial _
  · dsimp only
    rw [hexited, hout]
    exact mem_gather_moveKnown h hpi newPos sid serial _

/-- A short move is announced by the two edges, its border cells included. -/
theorem shortDiff_move (hs : z.sector.Ready) (h : z.GridInvariant) {charId : UInt64}
    {pi : PlayerInfo} (hpi : z.players charId = some pi) {newPos : Vec2i} (sid serial : UInt32)
    (hshort : ShortMove pi.cell (z.sector.toCellClamped newPos)) :
    z.ShortDiff charId pi.cell (z.sector.toCellClamped newPos)
      (z.move charId newPos sid serial).2 := by
  have hs' : (z.moveKnown charId pi newPos sid serial).sector.Ready := hs
  have hsector : (z.moveKnown charId pi newPos sid serial).sector = z.sector := rfl
  have hin := @calcEnteredCells_eq _ hs' pi.cell (z.sector.toCellClamped newPos) hshort.1 hshort.2
  have hout := @calcLeftCells_eq _ hs' pi.cell (z.sector.toCellClamped newPos) hshort.1 hshort.2
  have hcx : pi.cell.x = pi.cx := rfl
  have hcy : pi.cell.y = pi.cy := rfl
  rw [hsector, hcx, hcy] at hin hout
  simp only [move, hpi, hsector]
  generalize z.sector.toCellClamped newPos = c at hshort hin hout ⊢
  have hnew : removeFromVis ((z.moveKnown charId pi newPos sid serial).gatherNeighborsVec c.x c.y)
      charId = (z.moveKnown charId pi newPos sid serial).visible charId c := by rw [visible]
  rw [hnew]
  split_ifs with hsame hunit
  · -- The cell does not change: the edges have no cells.
    have heq : c = pi.cell := cell_eq_of_sub_eq_zero hsame.1 hsame.2
    have hnone : removeFromVis ((z.moveKnown charId pi newPos sid
        serial).gatherNeighborsFromCells []) charId = [] := by
      simp [gatherNeighborsFromCells, removeFromVis]
    have hedge : ([] : List Int64) = (z.sector.edge pi.cell c).map
        fun cell => cellKey cell.x cell.y := by rw [heq, edge_self, List.map_nil]
    have hedge' : ([] : List Int64) = (z.sector.edge c pi.cell).map
        fun cell => cellKey cell.x cell.y := by rw [heq, edge_self, List.map_nil]
    exact shortDiff_of_lists hs h hpi newPos sid serial rfl hedge hedge' hnone.symm hnone.symm
  · exact shortDiff_of_lists hs h hpi newPos sid serial rfl hin hout rfl rfl
  · exact absurd ⟨hshort.1.1, hshort.1.2, hshort.2.1, hshort.2.2⟩ hunit

/-- A jump: the lists are the comparison, which the fallback only repeats. -/
theorem announced_of_jump {charId : UInt64} {pi : PlayerInfo}
    (hpi : z.players charId = some pi) {newPos : Vec2i} (sid serial : UInt32)
    (hjump : ¬ShortMove pi.cell (z.sector.toCellClamped newPos)) :
    announced (z.move charId newPos sid serial).2 =
      ((z.move charId newPos sid serial).2.enteredVis,
        (z.move charId newPos sid serial).2.exitedVis) := by
  have hsplit : ∀ d : MoveDiff, calcEnteredExitedFromVis d.oldVis d.newVis =
      (d.enteredVis, d.exitedVis) → announced d = (d.enteredVis, d.exitedVis) := by
    intro d hd
    unfold announced
    dsimp only
    split_ifs
    · exact hd
    · rfl
  refine hsplit _ ?_
  simp only [move, hpi]
  split_ifs with hsame hunit
  · refine absurd ?_ hjump
    rw [ShortMove, show (z.sector.toCellClamped newPos).x - pi.cell.x = 0 from hsame.1,
      show (z.sector.toCellClamped newPos).y - pi.cell.y = 0 from hsame.2]
    decide
  · exact absurd ⟨⟨hunit.1, hunit.2.1⟩, hunit.2.2⟩ hjump
  · dsimp only

/-- After a short move everyone in sight is announced, if nobody is on the
edges. -/
theorem mem_announced_of_short {charId : UInt64} {old new : Vec2i} {d : MoveDiff}
    (hd : z.ShortDiff charId old new d) (id : UInt64) :
    (id ∈ (announced d).1 ↔
      if d.enteredVis = [] ∧ d.exitedVis = [] then id ∈ z.visible charId new
      else id ∈ d.enteredVis) ∧
    (id ∈ (announced d).2 ↔ id ∈ d.exitedVis) := by
  have hnil : ∀ l : List UInt64, setDifference l [] = l := by
    intro l
    cases l <;> simp [setDifference]
  have hnil' : ∀ l : List UInt64, setDifference [] l = [] := by
    intro l
    simp [setDifference]
  unfold announced
  dsimp only
  rw [hd.oldVis]
  simp only [List.isEmpty_iff, List.insertionSort_nil, hnil, hnil']
  by_cases hentered : d.enteredVis = []
  · by_cases hexited : d.exitedVis = []
    · have hvisible := hd.newVis id
      cases hnew : d.newVis with
      | nil =>
          rw [hnew] at hvisible
          simp [hentered, hexited, ← hvisible]
      | cons a as =>
          rw [hnew] at hvisible
          simp only [hentered, hexited, List.isEmpty_nil, List.isEmpty_cons, Bool.not_true,
            Bool.not_false, Bool.or_true, and_self, if_true, List.mem_insertionSort, hvisible]
    · simp [hexited]
  · simp [hentered]

/-! ## Which moves are announced right -/

/-- Who is seen from the cells does not depend on the moved player. -/
theorem announcesExact_iff_before (hs : z.sector.Ready) (h : z.GridInvariant) {charId : UInt64}
    {pi : PlayerInfo} (hpi : z.players charId = some pi) (newPos : Vec2i) (sid serial : UInt32) :
    z.AnnouncesExact charId pi.cell newPos sid serial ↔
      (∀ id, id ∈ (announced (z.move charId newPos sid serial).2).1 ↔
        id ∈ z.visible charId (z.sector.toCellClamped newPos) ∧
          id ∉ z.visible charId pi.cell) ∧
      ∀ id, id ∈ (announced (z.move charId newPos sid serial).2).2 ↔
        id ∈ z.visible charId pi.cell ∧
          id ∉ z.visible charId (z.sector.toCellClamped newPos) := by
  have hfst : (z.move charId newPos sid serial).1 = z.moveKnown charId pi newPos sid serial := by
    simp only [move, hpi]
    split_ifs <;> rfl
  unfold AnnouncesExact
  dsimp only
  rw [hfst]
  simp only [mem_visible_moveKnown hs h hpi]

/-- The edges of a short move have the players who come into sight and those
who go out of it, and possibly others. -/
theorem mem_edges_of_sight (hs : z.sector.Ready) (h : z.GridInvariant) {charId : UInt64}
    {old new : Vec2i} (hshort : ShortMove old new) {d : MoveDiff}
    (hd : z.ShortDiff charId old new d) (id : UInt64) :
    (id ∈ z.visible charId new ∧ id ∉ z.visible charId old → id ∈ d.enteredVis) ∧
      (id ∈ z.visible charId old ∧ id ∉ z.visible charId new → id ∈ d.exitedVis) := by
  rw [mem_visible hs h, mem_visible hs h, hd.enteredVis, hd.exitedVis]
  constructor
  · rintro ⟨⟨hne, other, hother, hnew⟩, hnot⟩
    refine ⟨hne, other, hother, ?_⟩
    refine (z.sector.mem_window_of_mem_window hs.aoiR_nonneg hshort.1 hshort.2
      hnew).resolve_left fun hold => hnot ⟨hne, other, hother, hold⟩
  · rintro ⟨⟨hne, other, hother, hold⟩, hnot⟩
    refine ⟨hne, other, hother, ?_⟩
    refine (z.sector.mem_window_of_mem_window hs.aoiR_nonneg (isUnitStep_neg_sub hshort.1)
      (isUnitStep_neg_sub hshort.2) hold).resolve_left fun hnew => hnot ⟨hne, other, hother, hnew⟩

/-- A short move is announced right if its edges are, and somebody is on them
or nobody is in sight. -/
theorem shortDiff_exact_iff (hs : z.sector.Ready) (h : z.GridInvariant) {charId : UInt64}
    {old new : Vec2i} (hshort : ShortMove old new) {d : MoveDiff}
    (hd : z.ShortDiff charId old new d) :
    ((∀ id, id ∈ (announced d).1 ↔ id ∈ z.visible charId new ∧ id ∉ z.visible charId old) ∧
        ∀ id, id ∈ (announced d).2 ↔ id ∈ z.visible charId old ∧ id ∉ z.visible charId new) ↔
      z.DiffExact charId old new d ∧
        (z.SightChanges charId old new ∨ z.visible charId new = []) := by
  have hmem := mem_announced_of_short hd
  by_cases hnone : d.enteredVis = [] ∧ d.exitedVis = []
  · -- Nobody is on the edges: nothing changes, and everyone in sight is announced.
    have hsame : ∀ id, ¬(id ∈ z.visible charId new ∧ id ∉ z.visible charId old) ∧
        ¬(id ∈ z.visible charId old ∧ id ∉ z.visible charId new) := by
      intro id
      obtain ⟨hin, hout⟩ := mem_edges_of_sight hs h hshort hd id
      rw [hnone.1] at hin
      rw [hnone.2] at hout
      exact ⟨fun hid => List.not_mem_nil (hin hid), fun hid => List.not_mem_nil (hout hid)⟩
    have hexact : z.DiffExact charId old new d := by
      refine ⟨fun id => ?_, fun id => ?_⟩
      · rw [hnone.1]
        exact iff_of_false List.not_mem_nil (hsame id).1
      · rw [hnone.2]
        exact iff_of_false List.not_mem_nil (hsame id).2
    have hchange : ¬z.SightChanges charId old new := by
      rintro ⟨id, hid | hid⟩
      · exact (hsame id).1 hid
      · exact (hsame id).2 hid
    simp only [hexact, true_and, hchange, false_or]
    constructor
    · rintro ⟨hin, -⟩
      refine List.eq_nil_iff_forall_not_mem.mpr fun id hid => ?_
      refine (hsame id).1 ((hin id).mp ((hmem id).1.mpr ?_))
      rwa [if_pos hnone]
    · intro hempty
      refine ⟨fun id => ?_, fun id => ?_⟩
      · rw [(hmem id).1, if_pos hnone, hempty]
        simp
      · rw [(hmem id).2]
        exact hexact.2 id
  · -- Somebody is on the edges: the lists stay.
    simp only [(hmem _).1, if_neg hnone, (hmem _).2]
    refine ⟨fun hexact => ⟨hexact, .inl ?_⟩, And.left⟩
    rcases not_and_or.mp hnone with hentered | hexited
    · obtain ⟨id, hid⟩ := List.exists_mem_of_ne_nil _ hentered
      exact ⟨id, .inl ((hexact.1 id).mp hid)⟩
    · obtain ⟨id, hid⟩ := List.exists_mem_of_ne_nil _ hexited
      exact ⟨id, .inr ((hexact.2 id).mp hid)⟩

/-- **Announcements**: a move is announced right precisely if it goes further
than to a neighbouring cell, or nobody else stands in a cell that both windows
have and that an edge of one of them is clamped to, and somebody comes into
sight or goes out of it or nobody is in sight afterwards. -/
theorem announcesExact_iff {rcSize : Vec2i} {unit radius : Int32}
    (hinit : initSector rcSize unit radius = some z.sector) (hgrid : z.GridInvariant)
    {charId : UInt64} {pi : PlayerInfo} (hpi : z.players charId = some pi) (newPos : Vec2i)
    (sid serial : UInt32) :
    z.AnnouncesExact charId pi.cell newPos sid serial ↔
      (ShortMove pi.cell (z.sector.toCellClamped newPos) →
        (∀ id other, id ≠ charId → z.players id = some other →
          ¬z.sector.Folded pi.cell (z.sector.toCellClamped newPos) other.cell) ∧
        (z.SightChanges charId pi.cell (z.sector.toCellClamped newPos) ∨
          z.visible charId (z.sector.toCellClamped newPos) = [])) := by
  have hs := ready_of_initSector hinit
  have hdiff := move_diff_exact_iff hinit hgrid hpi newPos sid serial
  rw [announcesExact_iff_before hs hgrid hpi]
  by_cases hshort : ShortMove pi.cell (z.sector.toCellClamped newPos)
  · rw [shortDiff_exact_iff hs hgrid hshort (shortDiff_move hs hgrid hpi sid serial hshort), hdiff]
    simp only [hshort, true_imp_iff]
    refine and_congr_left fun _ => ⟨fun hspare => ?_, fun hspare _ => hspare⟩
    by_cases hsame : z.sector.toCellClamped newPos = pi.cell
    · -- Within a cell there are no edges.
      intro id other _ _ hfolded
      rw [hsame, Folded, edge_self] at hfolded
      rcases hfolded with ⟨hmem, -⟩ | ⟨hmem, -⟩ <;> cases hmem
    · exact hspare ⟨hsame, hshort.1, hshort.2⟩
  · rw [announced_of_jump hpi sid serial hshort]
    refine iff_of_true ?_ fun h => absurd h hshort
    exact hdiff.mpr fun hmove => absurd hmove.2 hshort

/-- In the middle of a map, with a player that comes into sight. -/
theorem announcesExact_entering :
    (twoPlayers ⟨100, 100⟩ ⟨55, 55⟩ ⟨75, 55⟩).AnnouncesExact 11 ⟨5, 5⟩ ⟨65, 55⟩ 1 1 := by
  have hinit : initSector ⟨100, 100⟩ 10 1 =
      some (twoPlayers ⟨100, 100⟩ ⟨55, 55⟩ ⟨75, 55⟩).sector := by decide
  have hpi : (twoPlayers ⟨100, 100⟩ ⟨55, 55⟩ ⟨75, 55⟩).players 11 =
      some { pos := ⟨55, 55⟩, cx := 5, cy := 5, sid := 1, serial := 1 } := by decide
  refine (announcesExact_iff hinit (gridInvariant_twoPlayers _ _ _) hpi ⟨65, 55⟩ 1 1).mpr ?_
  intro _
  refine ⟨fun id other _ _ => ?_, .inl ⟨22, .inl (by decide)⟩⟩
  exact not_folded_of_inside (ready_of_initSector hinit)
    ⟨by decide, by decide, by decide, by decide⟩
    ⟨by decide, by decide, by decide, by decide⟩ other.cell

/-- A step within a cell announces the player in sight again. -/
theorem not_announcesExact_withinCell :
    let z := twoPlayers ⟨100, 100⟩ ⟨55, 55⟩ ⟨65, 55⟩
    initSector ⟨100, 100⟩ 10 1 = some z.sector ∧ z.GridInvariant ∧
      (z.players 11).map PlayerInfo.cell = some ⟨5, 5⟩ ∧
      z.sector.toCellClamped ⟨56, 55⟩ = ⟨5, 5⟩ ∧
      22 ∈ (announced (z.move 11 ⟨56, 55⟩ 1 1).2).1 ∧
      ¬z.AnnouncesExact 11 ⟨5, 5⟩ ⟨56, 55⟩ 1 1 := by
  intro z
  have hinit : initSector ⟨100, 100⟩ 10 1 = some z.sector := by decide
  have hpi : z.players 11 = some { pos := ⟨55, 55⟩, cx := 5, cy := 5, sid := 1, serial := 1 } := by
    decide
  have hgrid : z.GridInvariant := gridInvariant_twoPlayers _ _ _
  have hshort : ShortMove ⟨5, 5⟩ (z.sector.toCellClamped ⟨56, 55⟩) := by decide
  have hd := shortDiff_move (ready_of_initSector hinit) hgrid hpi 1 1 hshort
  have hannounced : 22 ∈ (announced (z.move 11 ⟨56, 55⟩ 1 1).2).1 := by
    rw [(mem_announced_of_short hd 22).1, if_pos (by decide)]
    decide
  refine ⟨hinit, hgrid, by decide, by decide, hannounced, fun h => ?_⟩
  exact ((h.1 22).mp hannounced).2 (by decide)

end ZoneActor

end GameServer
