import Mathlib.Data.List.Dedup
import GameServer.World.ZoneActor

/-!
# GameServer.World.AoiDiff

Who comes into sight and who goes out of it when a player moves.

`Move` computes the diff in two ways.  A jump compares the sorted lists of
visible players and is exact.  A move to a neighbouring cell only looks at
the edges of the two windows, and an edge that the grid clamps at the border
of the map lies on cells that both windows have: a player there is reported
although nothing changed for it.

* `mem_visible` — who is seen from a cell;
* `move_diff_exact_iff` — when the diff is exact;
* `folded_iff` — the cells in question are those of both windows on the first
  or the last line of the map, where the move crosses lines and both windows
  reach it; `not_folded_of_inside`: away from the border there are none.
-/

namespace GameServer

namespace SectorContainer

/-- A cell on the edge that the move enters and in the window it comes from,
or on the edge that it leaves and in the window it goes to. -/
def Folded (s : SectorContainer) (old new cell : Vec2i) : Prop :=
  (cell ∈ s.edge old new ∧ cell ∈ s.window old) ∨ (cell ∈ s.edge new old ∧ cell ∈ s.window new)

instance (s : SectorContainer) (old new cell : Vec2i) : Decidable (s.Folded old new cell) :=
  inferInstanceAs (Decidable (_ ∨ _))

/-- A move the edge caches are used for. -/
def OneCellMove (old new : Vec2i) : Prop :=
  new ≠ old ∧ IsUnitStep (new.x - old.x) ∧ IsUnitStep (new.y - old.y)

instance (old new : Vec2i) : Decidable (OneCellMove old new) :=
  inferInstanceAs (Decidable (_ ∧ _ ∧ _))

/-! ## At the border -/

variable {s : SectorContainer}

/-- The clamp as integers; without an inited sector it does nothing. -/
theorem toInt_clampTo {top : Int32} (htop : s.inited = true → 0 ≤ top.toInt) (c : Int32) :
    (s.clampTo top c).toInt =
      if s.inited = true then max 0 (min c.toInt top.toInt) else c.toInt := by
  have hzero : (0 : Int32).toInt = 0 := rfl
  unfold clampTo
  simp only [Int32.lt_iff_toInt_lt, hzero]
  cases hinit : s.inited with
  | false => rfl
  | true =>
      have htop := htop hinit
      simp only [Bool.true_eq_false, if_false, if_true]
      split_ifs <;> omega

/-- A coordinate on the map whose window stays within 32 bits. -/
structure AxisFits (s : SectorContainer) (top c : Int32) : Prop where
  low : 0 ≤ c.toInt
  high : c.toInt ≤ top.toInt
  far : c.toInt + s.aoiR.toInt < 2147483648

/-- On one axis: a line of the window of `c`. -/
def InReach (s : SectorContainer) (top c p : Int32) : Prop :=
  ∃ o ∈ offsets s.aoiR, s.clampTo top (c + o) = p

/-- On one axis: the line of the window of `new` on the side away from `old`. -/
def IsEnd (s : SectorContainer) (top old new p : Int32) : Prop :=
  (new - old = 1 ∧ s.clampTo top (new + s.aoiR) = p) ∨
    (new - old = -1 ∧ s.clampTo top (new + -s.aoiR) = p)

/-- On one axis: the move crosses it, and the line is the first or the last of
the map, with both windows reaching it. -/
def FoldedLine (s : SectorContainer) (top old new p : Int32) : Prop :=
  (new.toInt = old.toInt + 1 ∨ old.toInt = new.toInt + 1) ∧
    ((p = 0 ∧ old.toInt ≤ s.aoiR.toInt ∧ new.toInt ≤ s.aoiR.toInt) ∨
      (p = top ∧ top.toInt ≤ old.toInt + s.aoiR.toInt ∧ top.toInt ≤ new.toInt + s.aoiR.toInt))

/-- A window is the product of what is in reach on each axis. -/
theorem mem_window_iff {c cell : Vec2i} :
    cell ∈ s.window c ↔ s.InReach s.maxCx c.x cell.x ∧ s.InReach s.maxCy c.y cell.y := by
  rw [mem_window]
  constructor
  · rintro ⟨o, hx, hy, rfl⟩
    exact ⟨⟨o.x, hx, rfl⟩, ⟨o.y, hy, rfl⟩⟩
  · rintro ⟨⟨ox, hx, hcx⟩, ⟨oy, hy, hcy⟩⟩
    exact ⟨⟨ox, oy⟩, hx, hy, congrArg₂ Vec2i.mk hcx hcy⟩

/-- An edge is a column at one end or a row at one end. -/
theorem mem_edge_iff {old new cell : Vec2i} :
    cell ∈ s.edge old new ↔
      (s.IsEnd s.maxCx old.x new.x cell.x ∧ s.InReach s.maxCy new.y cell.y) ∨
        (s.InReach s.maxCx new.x cell.x ∧ s.IsEnd s.maxCy old.y new.y cell.y) := by
  simp only [edge, List.mem_map, mem_edgeOffsets]
  constructor
  · rintro ⟨o, ⟨⟨hdx, hox⟩ | ⟨hdx, hox⟩, hy⟩ | ⟨hx, ⟨hdy, hoy⟩ | ⟨hdy, hoy⟩⟩, rfl⟩
    · exact .inl ⟨.inl ⟨hdx, by rw [← hox]; rfl⟩, o.y, hy, rfl⟩
    · exact .inl ⟨.inr ⟨hdx, by rw [← hox]; rfl⟩, o.y, hy, rfl⟩
    · exact .inr ⟨⟨o.x, hx, rfl⟩, .inl ⟨hdy, by rw [← hoy]; rfl⟩⟩
    · exact .inr ⟨⟨o.x, hx, rfl⟩, .inr ⟨hdy, by rw [← hoy]; rfl⟩⟩
  · rintro (⟨⟨hdx, hcx⟩ | ⟨hdx, hcx⟩, oy, hy, hcy⟩ | ⟨⟨ox, hx, hcx⟩, ⟨hdy, hcy⟩ | ⟨hdy, hcy⟩⟩)
    · exact ⟨⟨s.aoiR, oy⟩, .inl ⟨.inl ⟨hdx, rfl⟩, hy⟩, congrArg₂ Vec2i.mk hcx hcy⟩
    · exact ⟨⟨-s.aoiR, oy⟩, .inl ⟨.inr ⟨hdx, rfl⟩, hy⟩, congrArg₂ Vec2i.mk hcx hcy⟩
    · exact ⟨⟨ox, s.aoiR⟩, .inr ⟨hx, .inl ⟨hdy, rfl⟩⟩, congrArg₂ Vec2i.mk hcx hcy⟩
    · exact ⟨⟨ox, -s.aoiR⟩, .inr ⟨hx, .inr ⟨hdy, rfl⟩⟩, congrArg₂ Vec2i.mk hcx hcy⟩

section

variable (hs : s.Ready) {top c old new p : Int32}

include hs

/-- An offset from a coordinate that fits does not overflow before the clamp. -/
theorem toInt_clampTo_add (hc : s.AxisFits top c) {o : Int32} (ho : o ∈ offsets s.aoiR) :
    (s.clampTo top (c + o)).toInt = max 0 (min (c.toInt + o.toInt) top.toInt) := by
  obtain ⟨hlow, hhigh, hfar⟩ := hc
  rw [mem_offsets hs.aoiR_nonneg, Int32.le_iff_toInt_le, Int32.le_iff_toInt_le,
    toInt_neg_of_nonneg hs.aoiR_nonneg] at ho
  have hadd : (c + o).toInt = c.toInt + o.toInt := by
    rw [Int32.toInt_add]
    exact Int.bmod_eq_of_le (by omega) (by omega)
  rw [toInt_clampTo (fun _ => hlow.trans hhigh), if_pos hs.inited, hadd]

/-- In reach on an axis that fits: on the grid, and at most the radius away. -/
theorem inReach_iff (hc : s.AxisFits top c) :
    s.InReach top c p ↔
      (0 ≤ p.toInt ∧ p.toInt ≤ top.toInt) ∧ c.toInt - s.aoiR.toInt ≤ p.toInt ∧
        p.toInt ≤ c.toInt + s.aoiR.toInt := by
  have hoffsets := fun o => mem_offsets (o := o) hs.aoiR_nonneg
  simp only [Int32.le_iff_toInt_le, toInt_neg_of_nonneg hs.aoiR_nonneg] at hoffsets
  constructor
  · rintro ⟨o, ho, rfl⟩
    rw [toInt_clampTo_add hs hc ho]
    obtain ⟨hlow, hhigh, -⟩ := hc
    rw [hoffsets] at ho
    omega
  · rintro ⟨⟨hpos, htop⟩, hback, hforth⟩
    have hsub : (p - c).toInt = p.toInt - c.toInt := by
      obtain ⟨hlow, hhigh, hfar⟩ := hc
      have hplt := p.toInt_lt
      rw [Int32.toInt_sub]
      exact Int.bmod_eq_of_le (by omega) (by omega)
    have hmem : p - c ∈ offsets s.aoiR := by
      rw [hoffsets, hsub]
      omega
    refine ⟨p - c, hmem, Int32.toInt_inj.mp ?_⟩
    rw [toInt_clampTo_add hs hc hmem, hsub]
    omega

/-- The end of an axis that fits: the far side of a unit step, or the border itself. -/
theorem isEnd_iff (hold : s.AxisFits top old) (hnew : s.AxisFits top new) :
    s.IsEnd top old new p ↔
      (new.toInt = old.toInt + 1 ∧ p.toInt = min (new.toInt + s.aoiR.toInt) top.toInt) ∨
        (old.toInt = new.toInt + 1 ∧ p.toInt = max 0 (new.toInt - s.aoiR.toInt)) := by
  have hends := mem_offsets_ends hs.aoiR_nonneg
  have hrle : 0 ≤ s.aoiR.toInt := Int32.le_iff_toInt_le.mp hs.aoiR_nonneg
  obtain ⟨hlow, hhigh, -⟩ := hold
  obtain ⟨hlow', hhigh', -⟩ := id hnew
  have htoplt := top.toInt_lt
  have hsub : (new - old).toInt = new.toInt - old.toInt := by
    rw [Int32.toInt_sub]
    exact Int.bmod_eq_of_le (by omega) (by omega)
  have hone : (1 : Int32).toInt = 1 := rfl
  have hminus : (-1 : Int32).toInt = -1 := rfl
  simp only [IsEnd, ← Int32.toInt_inj, hsub, hone, hminus, toInt_clampTo_add hs hnew hends.1,
    toInt_clampTo_add hs hnew hends.2, toInt_neg_of_nonneg hs.aoiR_nonneg]
  omega

/-- The end of the one window is in the other one only at the border. -/
theorem foldedLine_of_isEnd (hold : s.AxisFits top old) (hnew : s.AxisFits top new)
    (hend : s.IsEnd top old new p) (hreach : s.InReach top old p) :
    s.InReach top new p ∧ s.FoldedLine top old new p := by
  rw [isEnd_iff hs hold hnew] at hend
  rw [inReach_iff hs hold] at hreach
  rw [inReach_iff hs hnew, FoldedLine]
  have hzero : (0 : Int32).toInt = 0 := rfl
  have hrle : 0 ≤ s.aoiR.toInt := Int32.le_iff_toInt_le.mp hs.aoiR_nonneg
  obtain ⟨hlow, hhigh, -⟩ := hold
  obtain ⟨hlow', hhigh', -⟩ := hnew
  simp only [← Int32.toInt_inj, hzero]
  omega

/-- And there it is so for one of the two. -/
theorem isEnd_of_foldedLine (hold : s.AxisFits top old) (hnew : s.AxisFits top new)
    (h : s.FoldedLine top old new p) : s.IsEnd top old new p ∨ s.IsEnd top new old p := by
  rw [isEnd_iff hs hold hnew, isEnd_iff hs hnew hold]
  have hzero : (0 : Int32).toInt = 0 := rfl
  simp only [FoldedLine, ← Int32.toInt_inj, hzero] at h
  obtain ⟨hlow, hhigh, -⟩ := hold
  obtain ⟨hlow', hhigh', -⟩ := hnew
  omega

end

omit s in
theorem foldedLine_comm {s : SectorContainer} {top old new p : Int32} :
    s.FoldedLine top old new p ↔ s.FoldedLine top new old p := by
  simp only [FoldedLine]
  tauto

/-- A cell of the map whose window stays within 32 bits. -/
structure Fits (s : SectorContainer) (c : Vec2i) : Prop where
  x : s.AxisFits s.maxCx c.x
  y : s.AxisFits s.maxCy c.y

/-- A cell of the window before on the edge that the move enters. -/
theorem foldedLine_of_mem_edge (hs : s.Ready) {old new cell : Vec2i} (hold : s.Fits old)
    (hnew : s.Fits new) (h : cell ∈ s.edge old new) (hwindow : cell ∈ s.window old) :
    cell ∈ s.window new ∧ (s.FoldedLine s.maxCx old.x new.x cell.x ∨
      s.FoldedLine s.maxCy old.y new.y cell.y) := by
  rw [mem_window_iff] at hwindow ⊢
  rcases mem_edge_iff.mp h with ⟨hend, hy⟩ | ⟨hx, hend⟩
  · obtain ⟨hx, hline⟩ := foldedLine_of_isEnd hs hold.x hnew.x hend hwindow.1
    exact ⟨⟨hx, hy⟩, .inl hline⟩
  · obtain ⟨hy, hline⟩ := foldedLine_of_isEnd hs hold.y hnew.y hend hwindow.2
    exact ⟨⟨hx, hy⟩, .inr hline⟩

/-- Edges are folded onto the first or the last column of the map if the move
goes to another column and both windows reach it, and onto rows likewise. -/
theorem folded_iff (hs : s.Ready) {old new cell : Vec2i} (hold : s.Fits old) (hnew : s.Fits new) :
    s.Folded old new cell ↔ cell ∈ s.window old ∧ cell ∈ s.window new ∧
      (s.FoldedLine s.maxCx old.x new.x cell.x ∨ s.FoldedLine s.maxCy old.y new.y cell.y) := by
  constructor
  · rintro (⟨hedge, hwindow⟩ | ⟨hedge, hwindow⟩)
    · exact ⟨hwindow, foldedLine_of_mem_edge hs hold hnew hedge hwindow⟩
    · obtain ⟨hother, hline⟩ := foldedLine_of_mem_edge hs hnew hold hedge hwindow
      exact ⟨hother, hwindow, hline.imp foldedLine_comm.mp foldedLine_comm.mp⟩
  · rintro ⟨hwindow, hwindow', hline⟩
    have hreach := mem_window_iff.mp hwindow
    have hreach' := mem_window_iff.mp hwindow'
    simp only [Folded, mem_edge_iff]
    rcases hline with hline | hline
    · rcases isEnd_of_foldedLine hs hold.x hnew.x hline with hend | hend
      · exact .inl ⟨.inl ⟨hend, hreach'.2⟩, hwindow⟩
      · exact .inr ⟨.inl ⟨hend, hreach.2⟩, hwindow'⟩
    · rcases isEnd_of_foldedLine hs hold.y hnew.y hline with hend | hend
      · exact .inl ⟨.inr ⟨hreach'.1, hend⟩, hwindow⟩
      · exact .inr ⟨.inr ⟨hreach.1, hend⟩, hwindow'⟩

/-- The window of a cell does not reach over the border of the map. -/
structure Inside (s : SectorContainer) (c : Vec2i) : Prop where
  left : s.aoiR.toInt ≤ c.x.toInt
  right : c.x.toInt + s.aoiR.toInt ≤ s.maxCx.toInt
  bottom : s.aoiR.toInt ≤ c.y.toInt
  top : c.y.toInt + s.aoiR.toInt ≤ s.maxCy.toInt

theorem Inside.fits (hs : s.Ready) {c : Vec2i} (h : s.Inside c) : s.Fits c := by
  have hrle : 0 ≤ s.aoiR.toInt := Int32.le_iff_toInt_le.mp hs.aoiR_nonneg
  have hx := s.maxCx.toInt_lt
  have hy := s.maxCy.toInt_lt
  obtain ⟨hleft, hright, hbottom, htop⟩ := h
  exact ⟨⟨by omega, by omega, by omega⟩, ⟨by omega, by omega, by omega⟩⟩

/-- Inside the map no edge is folded. -/
theorem not_folded_of_inside (hs : s.Ready) {old new : Vec2i} (hold : s.Inside old)
    (hnew : s.Inside new) (cell : Vec2i) : ¬ s.Folded old new cell := by
  rw [folded_iff hs (hold.fits hs) (hnew.fits hs)]
  rintro ⟨-, -, ⟨hstep, hline⟩ | ⟨hstep, hline⟩⟩
  · obtain ⟨hleft, hright, -, -⟩ := hold
    obtain ⟨hleft', hright', -, -⟩ := hnew
    omega
  · obtain ⟨-, -, hbottom, htop⟩ := hold
    obtain ⟨-, -, hbottom', htop'⟩ := hnew
    omega

end SectorContainer

namespace ZoneActor

open SectorContainer

/-- The other players seen from a cell. -/
def visible (z : ZoneActor) (charId : UInt64) (c : Vec2i) : List UInt64 :=
  removeFromVis (z.gatherNeighborsVec c.x c.y) charId

/-- The diff of a move reports exactly who is seen from one of the two cells
only. -/
def DiffExact (z : ZoneActor) (charId : UInt64) (old new : Vec2i) (d : MoveDiff) : Prop :=
  (∀ id, id ∈ d.enteredVis ↔ id ∈ z.visible charId new ∧ id ∉ z.visible charId old) ∧
  (∀ id, id ∈ d.exitedVis ↔ id ∈ z.visible charId old ∧ id ∉ z.visible charId new)

/-! ## Who is seen -/

variable {z : ZoneActor}

theorem mem_removeFromVis {v : List UInt64} {charId id : UInt64} :
    id ∈ removeFromVis v charId ↔ id ≠ charId ∧ id ∈ v := by
  simp [removeFromVis, and_comm]

/-- The players gathered from some cells are those that stand in them. -/
theorem GridInvariant.mem_gather (h : z.GridInvariant) {cells : List Vec2i} {id : UInt64} :
    id ∈ z.gatherNeighborsFromCells (cells.map fun cell => cellKey cell.x cell.y) ↔
      ∃ pi, z.players id = some pi ∧ pi.cell ∈ cells := by
  simp only [gatherNeighborsFromCells, List.mem_flatMap, List.mem_dedup, List.mem_map]
  constructor
  · rintro ⟨k, ⟨cell, hcell, rfl⟩, hid⟩
    obtain ⟨pi, hpi, hk⟩ := (h.mem_idsAt _ id).mp hid
    have heq : pi.cell = cell := cellKey_inj hk
    exact ⟨pi, hpi, heq ▸ hcell⟩
  · rintro ⟨pi, hpi, hcell⟩
    exact ⟨_, ⟨pi.cell, hcell, rfl⟩, (h.mem_idsAt _ id).mpr ⟨pi, hpi, rfl⟩⟩

/-- No character is gathered twice, since none is filed twice. -/
theorem GridInvariant.nodup_gather (h : z.GridInvariant) (keys : List Int64) :
    (z.gatherNeighborsFromCells keys).Nodup := by
  refine List.nodup_flatMap.mpr ⟨fun k _ => ?_, ?_⟩
  · simp only [CellTable.idsAt]
    split
    · exact List.nodup_nil
    next s _ => exact s.nodup
  · refine keys.nodup_dedup.imp fun hne id hk hk' => ?_
    exact hne (h.key_unique hk hk')

theorem mem_visible (hs : z.sector.Ready) (h : z.GridInvariant) {charId id : UInt64} {c : Vec2i} :
    id ∈ z.visible charId c ↔
      id ≠ charId ∧ ∃ pi, z.players id = some pi ∧ pi.cell ∈ z.sector.window c := by
  rw [visible, mem_removeFromVis, gatherNeighborsVec, hs.broadCells_eq, h.mem_gather]

theorem nodup_visible (h : z.GridInvariant) (charId : UInt64) (c : Vec2i) :
    (z.visible charId c).Nodup :=
  (h.nodup_gather _).filter _

/-- A move does not change where the others stand. -/
theorem mem_visible_moveKnown (hs : z.sector.Ready) (h : z.GridInvariant) {charId id : UInt64}
    {pi : PlayerInfo} (hpi : z.players charId = some pi) (newPos : Vec2i) (sid serial : UInt32)
    {c : Vec2i} :
    id ∈ (z.moveKnown charId pi newPos sid serial).visible charId c ↔ id ∈ z.visible charId c := by
  have hs' : (z.moveKnown charId pi newPos sid serial).sector.Ready := hs
  rw [mem_visible hs' (h.moveKnown hpi newPos sid serial), mem_visible hs h]
  refine and_congr_right fun hne => ?_
  simp only [moveKnown, Table.set_of_ne _ _ hne]

/-! ## The two ways of the diff -/

/-- The entered cells are the edge of the step. -/
theorem calcEnteredCells_eq (hs : z.sector.Ready) {old new : Vec2i}
    (hx : IsUnitStep (new.x - old.x)) (hy : IsUnitStep (new.y - old.y)) :
    z.calcEnteredCells old.x old.y new.x new.y =
      (z.sector.edge old new).map fun cell => cellKey cell.x cell.y := by
  simp only [calcEnteredCells]
  rw [if_pos ⟨hx.1, hx.2, hy.1, hy.2⟩, hs.enteredEdgeOffsets_eq hx hy, edge, List.map_map]
  rfl

/-- The left cells are the edge of the step back. -/
theorem calcLeftCells_eq (hs : z.sector.Ready) {old new : Vec2i}
    (hx : IsUnitStep (new.x - old.x)) (hy : IsUnitStep (new.y - old.y)) :
    z.calcLeftCells old.x old.y new.x new.y =
      (z.sector.edge new old).map fun cell => cellKey cell.x cell.y := by
  simp only [calcLeftCells]
  rw [if_pos ⟨hx.1, hx.2, hy.1, hy.2⟩, hs.leftEdgeOffsets_eq hx hy, Int32.neg_sub, Int32.neg_sub,
    edge, List.map_map]
  rfl

/-- The players on an edge are the new ones unless one of them stands in the
other window too. -/
theorem edge_exact_iff (hs : z.sector.Ready) (h : z.GridInvariant) (charId : UInt64)
    {old new : Vec2i} (hx : IsUnitStep (new.x - old.x)) (hy : IsUnitStep (new.y - old.y))
    {v : List UInt64}
    (hv : ∀ id, id ∈ v ↔
      id ≠ charId ∧ ∃ pi, z.players id = some pi ∧ pi.cell ∈ z.sector.edge old new) :
    (∀ id, id ∈ v ↔ id ∈ z.visible charId new ∧ id ∉ z.visible charId old) ↔
      ∀ id pi, id ≠ charId → z.players id = some pi →
        ¬(pi.cell ∈ z.sector.edge old new ∧ pi.cell ∈ z.sector.window old) := by
  constructor
  · rintro hexact id pi hne hpi ⟨hedge, hold⟩
    have hnot := ((hexact id).mp ((hv id).mpr ⟨hne, pi, hpi, hedge⟩)).2
    exact hnot ((mem_visible hs h).mpr ⟨hne, pi, hpi, hold⟩)
  · intro hspare id
    rw [hv, mem_visible hs h, mem_visible hs h]
    constructor
    · rintro ⟨hne, pi, hpi, hedge⟩
      refine ⟨⟨hne, pi, hpi, z.sector.mem_window_of_mem_edge hs.aoiR_nonneg hedge⟩, ?_⟩
      rintro ⟨-, pi', hpi', hold⟩
      rw [hpi] at hpi'
      cases hpi'
      exact hspare id pi hne hpi ⟨hedge, hold⟩
    · rintro ⟨⟨hne, pi, hpi, hnew⟩, hnot⟩
      refine ⟨hne, pi, hpi, ?_⟩
      cases z.sector.mem_window_of_mem_window hs.aoiR_nonneg hx hy hnew with
      | inl hold => exact absurd ⟨hne, pi, hpi, hold⟩ hnot
      | inr hedge => exact hedge

/-- A jump compares the visible lists and is exact. -/
theorem diffExact_of_lists (h : z.GridInvariant) {charId : UInt64} {old new : Vec2i}
    {d : MoveDiff}
    (hd : calcEnteredExitedFromVis (z.visible charId old) (z.visible charId new) =
      (d.enteredVis, d.exitedVis)) :
    z.DiffExact charId old new d := by
  obtain ⟨hentered, hexited⟩ := Prod.mk.inj hd
  refine ⟨fun id => ?_, fun id => ?_⟩
  · rw [← hentered]
    exact mem_setDifference_sort (nodup_visible h charId new)
  · rw [← hexited]
    exact mem_setDifference_sort (nodup_visible h charId old)

theorem cell_eq_of_sub_eq_zero {a b : Vec2i} (hx : a.x - b.x = 0) (hy : a.y - b.y = 0) :
    a = b := by
  cases a
  cases b
  simp only [Vec2i.mk.injEq]
  exact ⟨by grind, by grind⟩

theorem sub_eq_zero_of_cell_eq {a b : Vec2i} (h : a = b) : a.x - b.x = 0 ∧ a.y - b.y = 0 := by
  subst h
  exact ⟨Int32.sub_self a.x, Int32.sub_self a.y⟩

theorem isUnitStep_neg_sub {a b : Int32} (h : IsUnitStep (a - b)) : IsUnitStep (b - a) := by
  rw [← Int32.neg_sub]
  rcases h.eq with h | h | h <;> rw [h] <;> decide

/-- A move to a neighbouring cell looks at the edges only. -/
theorem diffExact_of_edges_iff (hs : z.sector.Ready) (h : z.GridInvariant) {charId : UInt64}
    {old new : Vec2i} (hmove : OneCellMove old new) {d : MoveDiff}
    (hentered : d.enteredVis = removeFromVis
      (z.gatherNeighborsFromCells (z.calcEnteredCells old.x old.y new.x new.y)) charId)
    (hexited : d.exitedVis = removeFromVis
      (z.gatherNeighborsFromCells (z.calcLeftCells old.x old.y new.x new.y)) charId) :
    z.DiffExact charId old new d ↔
      ∀ id pi, id ≠ charId → z.players id = some pi → ¬ z.sector.Folded old new pi.cell := by
  obtain ⟨-, hx, hy⟩ := hmove
  rw [calcEnteredCells_eq hs hx hy] at hentered
  rw [calcLeftCells_eq hs hx hy] at hexited
  have hin := edge_exact_iff hs h charId hx hy (v := d.enteredVis)
    (fun id => by rw [hentered, mem_removeFromVis, h.mem_gather])
  have hout := edge_exact_iff hs h charId (isUnitStep_neg_sub hx)
    (isUnitStep_neg_sub hy) (v := d.exitedVis)
    (fun id => by rw [hexited, mem_removeFromVis, h.mem_gather])
  rw [DiffExact, hin, hout]
  constructor
  · rintro ⟨hnew, hold⟩ id pi hne hpi hfolded
    exact hfolded.elim (hnew id pi hne hpi) (hold id pi hne hpi)
  · intro hspare
    exact ⟨fun id pi hne hpi hmem => hspare id pi hne hpi (.inl hmem),
      fun id pi hne hpi hmem => hspare id pi hne hpi (.inr hmem)⟩

/-! ## The diff -/

theorem diffExact_moveKnown_iff (hs : z.sector.Ready) (h : z.GridInvariant) {charId : UInt64}
    {pi : PlayerInfo} (hpi : z.players charId = some pi) (newPos : Vec2i) (sid serial : UInt32)
    {old new : Vec2i} {d : MoveDiff} :
    (z.moveKnown charId pi newPos sid serial).DiffExact charId old new d ↔
      z.DiffExact charId old new d := by
  simp only [DiffExact, mem_visible_moveKnown hs h hpi]

/-- **AOI diff**: the diff of a move is exact precisely if the move does not
go to a neighbouring cell or nobody else stands in a cell that both windows
have and that an edge of one of them is clamped to. -/
theorem move_diff_exact_iff {rcSize : Vec2i} {unit radius : Int32}
    (hinit : initSector rcSize unit radius = some z.sector) (hgrid : z.GridInvariant)
    {charId : UInt64} {pi : PlayerInfo} (hpi : z.players charId = some pi) (newPos : Vec2i)
    (sid serial : UInt32) :
    z.DiffExact charId pi.cell (z.sector.toCellClamped newPos)
        (z.move charId newPos sid serial).2 ↔
      (OneCellMove pi.cell (z.sector.toCellClamped newPos) →
        ∀ id other, id ≠ charId → z.players id = some other →
          ¬ z.sector.Folded pi.cell (z.sector.toCellClamped newPos) other.cell) := by
  have hs := ready_of_initSector hinit
  have hs' : (z.moveKnown charId pi newPos sid serial).sector.Ready := hs
  have hgrid' := hgrid.moveKnown hpi newPos sid serial
  rw [← diffExact_moveKnown_iff hs hgrid hpi newPos sid serial]
  simp only [move, hpi]
  split_ifs with hsame hunit
  · -- The cell does not change: nothing is reported, and the windows are the same.
    have heq : z.sector.toCellClamped newPos = pi.cell := cell_eq_of_sub_eq_zero hsame.1 hsame.2
    refine iff_of_true ⟨fun id => ?_, fun id => ?_⟩ fun hmove => absurd heq hmove.1
    · simp [heq]
    · simp [heq]
  · have hmove : OneCellMove pi.cell (z.sector.toCellClamped newPos) :=
      ⟨fun heq => hsame (sub_eq_zero_of_cell_eq heq), ⟨hunit.1, hunit.2.1⟩, hunit.2.2⟩
    rw [diffExact_of_edges_iff hs' hgrid' hmove rfl rfl]
    simp only [hmove, true_imp_iff]
    refine forall_congr' fun id => forall_congr' fun other => forall_congr' fun hne => ?_
    rw [show (z.moveKnown charId pi newPos sid serial).players id = z.players id from
      Table.set_of_ne _ _ hne]
    rfl
  · refine iff_of_true (diffExact_of_lists hgrid' rfl) fun hmove => ?_
    exact absurd ⟨hmove.2.1.1, hmove.2.1.2, hmove.2.2⟩ hunit

/-- A zone of a map with cells of 10 by 10, with two players in it. -/
def twoPlayers (rcSize pos pos' : Vec2i) : ZoneActor :=
  let z : ZoneActor := { sector := (initSector rcSize 10 1).getD {} }
  (z.joinOrUpdate 11 pos 1 1).joinOrUpdate 22 pos' 2 1

theorem gridInvariant_twoPlayers (rcSize pos pos' : Vec2i) :
    (twoPlayers rcSize pos pos').GridInvariant :=
  ((gridInvariant_empty _).joinOrUpdate rfl pos 1 1).joinOrUpdate
    (by simp [joinOrUpdate, Table.set_apply]) pos' 2 1

/-- In the middle of a map of 10 by 10 cells, with a player in sight that
comes nearer. -/
theorem move_diff_exact_middle :
    DiffExact (twoPlayers ⟨100, 100⟩ ⟨55, 55⟩ ⟨75, 55⟩) 11 ⟨5, 5⟩ ⟨6, 5⟩
      ((twoPlayers ⟨100, 100⟩ ⟨55, 55⟩ ⟨75, 55⟩).move 11 ⟨65, 55⟩ 1 1).2 := by
  have hinit : initSector ⟨100, 100⟩ 10 1 =
      some (twoPlayers ⟨100, 100⟩ ⟨55, 55⟩ ⟨75, 55⟩).sector := by decide
  have hpi : (twoPlayers ⟨100, 100⟩ ⟨55, 55⟩ ⟨75, 55⟩).players 11 =
      some { pos := ⟨55, 55⟩, cx := 5, cy := 5, sid := 1, serial := 1 } := by decide
  refine (move_diff_exact_iff hinit (gridInvariant_twoPlayers _ _ _) hpi ⟨65, 55⟩ 1 1).mpr ?_
  intro _ id other _ _
  exact not_folded_of_inside (ready_of_initSector hinit)
    ⟨by decide, by decide, by decide, by decide⟩
    ⟨by decide, by decide, by decide, by decide⟩ other.cell

/-- On a map of 2 by 2 cells a step to the right reports the player that was
in sight all the time. -/
theorem not_diffExact_atBorder :
    let z := twoPlayers ⟨20, 20⟩ ⟨5, 5⟩ ⟨15, 5⟩
    initSector ⟨20, 20⟩ 10 1 = some z.sector ∧ z.GridInvariant ∧
      (z.players 11).map PlayerInfo.cell = some ⟨0, 0⟩ ∧
      z.sector.toCellClamped ⟨15, 5⟩ = ⟨1, 0⟩ ∧
      ¬ z.DiffExact 11 ⟨0, 0⟩ ⟨1, 0⟩ (z.move 11 ⟨15, 5⟩ 1 1).2 := by
  refine ⟨by decide, gridInvariant_twoPlayers _ _ _, by decide, by decide, fun h => ?_⟩
  exact ((h.1 22).mp (by decide)).2 (by decide)

end ZoneActor

end GameServer
