import GameServer.World.AssignEffects

/-!
# GameServer.World.MapAssign

When the tables of pending map assignments agree.

`AssignMapInstance` records a request under its id and under its map key,
and every path that ends a request has to take both records back.  They all
do; what can still part the two tables is the counter the ids come from.
`inBijection_run_iff` is exact: the tables agree in every state of a run if
and only if no step draws the id of a request that is still outstanding,
which `nextZoneAssignRequestId`, a 64-bit counter, can only do after it has
come full circle (`not_inBijection_fullCircle`).
-/

namespace GameServer

namespace WorldRuntime

variable {st : WorldRuntime} {ops : List AssignOp} {t : AssignTables}

/-- If the step draws an id for a new request, no outstanding request has
it. -/
def DrawsFreeId (topology : Option ServerTopology) (st : WorldRuntime) (e : Event) : Prop :=
  (step topology st e).flow.nextZoneAssignRequestId ≠ st.flow.nextZoneAssignRequestId →
    st.flow.assignTables.NextIdFree

/-! ## Steps that draw an id -/

/-- The operations that draw an id. -/
def Draws : AssignOp → Prop
  | .send _ | .takeBack _ => True
  | _ => False

theorem nextRequestId_apply_of_not_draws {op : AssignOp} (h : ¬ Draws op) :
    (op.apply t).nextRequestId = t.nextRequestId := by
  cases op with
  | send a => exact absurd trivial h
  | takeBack mapKey => exact absurd trivial h
  | _ => rfl

/-- Operations that draw no id keep the bijection. -/
theorem inBijection_run_ops (h : t.InBijection) (hkeyed : t.Keyed)
    (henabled : Along AssignOp.apply AssignOp.Enabled t ops) (hdraws : ∀ op ∈ ops, ¬ Draws op) :
    (run AssignOp.apply t ops).InBijection ∧
      (run AssignOp.apply t ops).nextRequestId = t.nextRequestId := by
  induction ops generalizing t with
  | nil => exact ⟨h, rfl⟩
  | cons op ops ih =>
      have hop := hdraws op List.mem_cons_self
      have hfree : op.DrawsFreeId t := by
        unfold AssignOp.DrawsFreeId
        split
        · exact absurd trivial hop
        · exact absurd trivial hop
        · trivial
      have hone := h.apply hkeyed henabled.1 hfree
      have hrest := ih hone (hkeyed.apply henabled.1) henabled.2
        fun op' hop' => hdraws op' (List.mem_cons_of_mem _ hop')
      exact ⟨hrest.1, hrest.2.trans (nextRequestId_apply_of_not_draws hop)⟩

/-- Drawing an id that is in use leaves the entry of the older request's map
behind. -/
theorem exists_stale_entry (h : t.InBijection) {op : AssignOp} (hdraw : Draws op)
    (hop : op.Enabled t) (hused : ¬ t.NextIdFree) :
    ∃ r m, (op.apply t).requestIdByMapKey m = some r ∧
      ∀ a ∈ (op.apply t).requests, a.requestId = r → a.mapKey ≠ m := by
  simp only [AssignTables.NextIdFree, not_forall, not_not] at hused
  obtain ⟨old, hold, hid⟩ := hused
  have hentry := h.entry hold
  refine ⟨t.nextRequestId, old.mapKey, ?_⟩
  cases op with
  | send a =>
      obtain ⟨hnone, hida, -⟩ := hop
      have hkey : old.mapKey ≠ a.mapKey := by
        intro heq
        rw [← heq, hentry] at hnone
        cases hnone
      refine ⟨?_, fun b hb hidb => ?_⟩
      · simp only [AssignOp.apply]
        rw [Table.set_of_ne _ _ hkey, hentry, hid]
      · simp only [AssignOp.apply, upsertBy, List.mem_append, List.mem_filter,
          List.mem_singleton, decide_eq_true_eq] at hb
        rcases hb with ⟨-, hne⟩ | rfl
        · exact absurd (hidb.trans hida.symm) hne
        · exact hkey.symm
  | takeBack mapKey =>
      have hnone : t.requestIdByMapKey mapKey = none := hop
      have hkey : old.mapKey ≠ mapKey := by
        intro heq
        rw [← heq, hentry] at hnone
        cases hnone
      refine ⟨?_, fun b hb hidb => ?_⟩
      · simp only [AssignOp.apply]
        rw [Table.erase_of_ne _ hkey, hentry, hid]
      · exact absurd hidb (of_decide_eq_true (List.mem_filter.mp hb).2)
  | _ => exact absurd hdraw id

/-- Operations that add a waiter or settle a transfer on the spot, as they
follow `AssignMapInstance`. -/
def Parks : AssignOp → Prop
  | .parkEnter _ | .parkPortal _ | .completeNow _ => True
  | _ => False

/-- Waiting on a request draws none. -/
theorem not_draws_of_parks {op : AssignOp} (h : Parks op) : ¬ Draws op := by
  intro hdraws
  unfold Parks at h
  split at h
  · exact hdraws
  · exact hdraws
  · exact hdraws
  · exact h

/-- Parking leaves the requests and their index alone. -/
theorem run_parks (hparks : ∀ op ∈ ops, Parks op) (t : AssignTables) :
    (run AssignOp.apply t ops).requests = t.requests ∧
      (run AssignOp.apply t ops).requestIdByMapKey = t.requestIdByMapKey ∧
      (run AssignOp.apply t ops).nextRequestId = t.nextRequestId := by
  induction ops generalizing t with
  | nil => exact ⟨rfl, rfl, rfl⟩
  | cons p ops ih =>
      have hp := hparks p List.mem_cons_self
      have hrest := ih (fun p' hp' => hparks p' (List.mem_cons_of_mem _ hp')) (p.apply t)
      rw [run_cons, hrest.1, hrest.2.1, hrest.2.2]
      cases p with
      | parkEnter | parkPortal | completeNow => exact ⟨rfl, rfl, rfl⟩
      | _ => exact absurd hp id

/-- A draw and the parking that may follow it: the bijection stands exactly
if the id was free. -/
theorem inBijection_draw_iff (h : t.InBijection) (hkeyed : t.Keyed) {op : AssignOp}
    (hdraw : Draws op) (henabled : Along AssignOp.apply AssignOp.Enabled t (op :: ops))
    (hparks : ∀ op ∈ ops, Parks op) :
    (run AssignOp.apply t (op :: ops)).InBijection ↔ t.NextIdFree := by
  constructor
  · intro hafter
    by_contra hused
    obtain ⟨r, m, hentry, hgone⟩ := exists_stale_entry h hdraw henabled.1 hused
    obtain ⟨hrequests, hindex, -⟩ := run_parks hparks (op.apply t)
    rw [run_cons] at hafter
    rw [← hindex, ← hafter.entry_iff] at hentry
    obtain ⟨a, ha, hid, hkey⟩ := hentry
    rw [hrequests] at ha
    exact hgone a ha hid hkey
  · intro hfree
    have hop : op.DrawsFreeId t := by
      unfold AssignOp.DrawsFreeId
      split
      · exact hfree
      · exact hfree
      · trivial
    exact (inBijection_run_ops (h.apply hkeyed henabled.1 hop) (hkeyed.apply henabled.1)
      henabled.2 fun p hp => not_draws_of_parks (hparks p hp)).1

/-! ## The operations of an event draw at most one id, first -/

/-- No id is drawn, or one is drawn first and then something is parked. -/
def DrawsFirst (ops : List AssignOp) : Prop :=
  (∀ op ∈ ops, ¬ Draws op) ∨
    ∃ op rest, ops = op :: rest ∧ Draws op ∧ ∀ p ∈ rest, Parks p

theorem AskOps.drawsFirst {requestId : UInt64} {ask : List AssignOp} (h : AskOps requestId ask)
    {parks : List AssignOp} (hparks : ∀ p ∈ parks, Parks p) : DrawsFirst (ask ++ parks) := by
  cases h with
  | known => exact .inl fun p hp => not_draws_of_parks (hparks p hp)
  | sent a _ => exact .inr ⟨.send a, parks, rfl, trivial, hparks⟩
  | takenBack mapKey => exact .inr ⟨.takeBack mapKey, parks, rfl, trivial, hparks⟩

/-- An enter draws its request before it waits on it. -/
theorem EnterOps.drawsFirst (h : EnterOps ops) : DrawsFirst ops := by
  cases h with
  | idle => exact .inl (List.forall_mem_nil _)
  | asked h =>
      have hnil : ∀ p ∈ ([] : List AssignOp), Parks p := List.forall_mem_nil _
      simpa using h.drawsFirst hnil
  | parked h e => exact h.drawsFirst (by simp [Parks])

/-- A transfer draws its request before it waits on it. -/
theorem TransferOps.drawsFirst {accepted : Option PendingPortalTransfer}
    (h : TransferOps accepted ops) : DrawsFirst ops := by
  cases h with
  | refused h =>
      have hnil : ∀ p ∈ ([] : List AssignOp), Parks p := List.forall_mem_nil _
      simpa using h.drawsFirst hnil
  | parked p h => exact h.drawsFirst (by simp [Parks])
  | done p h => exact h.drawsFirst (by simp [Parks])

/-- What closes draws nothing: induction on the operations. -/
theorem not_draws_of_closing (h : Along AssignOp.apply Closing t ops) :
    ∀ op ∈ ops, ¬ Draws op := by
  induction ops generalizing t with
  | nil => exact List.forall_mem_nil _
  | cons op ops ih =>
      intro op' hop'
      cases List.mem_cons.mp hop' with
      | inl heq =>
          subst heq
          intro hdraws
          have hclosing := h.1
          unfold Closing at hclosing
          split at hclosing
          · exact hdraws
          · exact hdraws
          · exact hdraws
          · exact hclosing
      | inr hrest => exact ih h.2 op' hrest

/-- So at most the first operation of a step draws an id. -/
theorem StepOps.drawsFirst {topology : Option ServerTopology} {e : Event}
    (h : StepOps topology st e ops) : DrawsFirst ops := by
  cases h with
  | idle => exact .inl (List.forall_mem_nil _)
  | enter rr answers h => exact h.drawsFirst
  | transfer request sendOk h => exact h.drawsFirst
  | abort _ he h =>
      refine .inl fun op hop => ?_
      cases h with
      | idle => cases hop
      | unparked orphans h =>
          cases List.mem_cons.mp hop with
          | inl heq => exact heq ▸ id
          | inr hop =>
              obtain ⟨a, -, rfl⟩ := List.mem_map.mp hop
              exact id
  | close _ he h => exact .inl (not_draws_of_closing h)
  | register hello => exact .inl (by simp [Draws])
  | heartbeat beat => exact .inl (by simp [Draws])
  | rehash routes assigns enters h => exact .inl (by simp [Draws])

/-! ## Runs -/

theorem nextRequestId_draw {op : AssignOp} (hdraw : Draws op) (hparks : ∀ op ∈ ops, Parks op) :
    (run AssignOp.apply t (op :: ops)).nextRequestId = t.nextRequestId + 1 := by
  rw [run_cons, (run_parks hparks _).2.2]
  cases op with
  | send | takeBack => rfl
  | _ => exact absurd hdraw id

/-- One step keeps the bijection exactly if it draws no id in use. -/
theorem inBijection_step_iff (topology : Option ServerTopology)
    (hkeyed : st.flow.assignTables.Keyed) (h : st.flow.assignTables.InBijection) (e : Event) :
    (step topology st e).flow.assignTables.InBijection ↔ DrawsFreeId topology st e := by
  obtain ⟨ops, hops, hby⟩ := stepOps_step topology hkeyed e
  have hnext : (step topology st e).flow.nextZoneAssignRequestId =
      (run AssignOp.apply st.flow.assignTables ops).nextRequestId :=
    congrArg AssignTables.nextRequestId hby.tables
  rw [DrawsFreeId, hnext, hby.tables]
  rcases hops.drawsFirst with hnone | ⟨op, rest, rfl, hdraw, hparks⟩
  · have hrun := inBijection_run_ops h hkeyed hby.enabled hnone
    exact ⟨fun _ hdrawn => absurd hrun.2 hdrawn, fun _ => hrun.1⟩
  · rw [inBijection_draw_iff h hkeyed hdraw hby.enabled hparks, nextRequestId_draw hdraw hparks]
    have hne : st.flow.assignTables.nextRequestId + 1 ≠ st.flow.nextZoneAssignRequestId := by
      simp [EnterFlow.assignTables]
    exact ⟨fun hfree _ => hfree, fun hdraws => hdraws hne⟩

/-- **The pending tables of map assignments**: a request is outstanding under
its id exactly if its map key leads to it, each map has at most one, and
enters wait only for outstanding requests — in every state of a run, if and
only if no step of the run draws the id of an outstanding request. -/
theorem inBijection_run_iff (topology : Option ServerTopology) (es : List Event) :
    Always (step topology) (fun st => st.flow.assignTables.InBijection) initial es ↔
      Along (step topology) (DrawsFreeId topology) initial es := by
  refine always_iff_along (W := fun st : WorldRuntime => st.flow.assignTables.Keyed)
    (keyed_run topology []) ?_ (fun st e hkeyed => ?_) fun st e hkeyed h => ?_
  · exact ⟨by simp [initial, EnterFlow.initial, EnterFlow.assignTables], nofun, nofun⟩
  · obtain ⟨ops, -, hby⟩ := stepOps_step topology hkeyed e
    exact hby.keyed hkeyed
  · exact inBijection_step_iff topology hkeyed h e

/-! ## The counter comes full circle -/

/-- A character asks to go to a map that is not assigned yet. -/
def portalTo (mapTemplateId : UInt32) : PendingPortalTransfer where
  sid := 1
  serial := 1
  charId := 11
  sourceZoneId := 1
  sourceMapTemplateId := 1
  sourceInstanceId := 0
  targetMapTemplateId := mapTemplateId
  targetInstanceId := 0
  targetX := 0
  targetY := 0

/-- A request for map 2 is never answered; `n + 1` requests for map 3 cannot
be sent. -/
def circle (n : Nat) : List Event :=
  [zoneUp, .beginPortalTransfer (portalTo 2) true] ++
    (List.replicate n (.beginPortalTransfer (portalTo 3) false) ++
      [.beginPortalTransfer (portalTo 3) false])

/-- Map 2 waits for request 1, and the next request for map 3 goes to the
only zone. -/
structure Circling (st : WorldRuntime) : Prop where
  routes : ∃ route, st.flow.zoneRoutes = [route] ∧ route.registered = true ∧ route.serial ≠ 0 ∧
    route.zoneId ≠ 0 ∧ route.servedMapIds = []
  unassigned : st.flow.mapAssignments (EnterFlow.makeMapAssignmentKey 3 0) = none
  unasked : st.flow.pendingZoneAssignRequestIdByMapKey (EnterFlow.makeMapAssignmentKey 3 0) = none
  waiting : st.flow.pendingZoneAssignRequestIdByMapKey (EnterFlow.makeMapAssignmentKey 2 0) =
    some 1

/-- A request that cannot be sent uses up an id. -/
theorem circling_step (h : Circling st) :
    let st' := step none st (.beginPortalTransfer (portalTo 3) false)
    Circling st' ∧
      st'.flow.nextZoneAssignRequestId = st.flow.nextZoneAssignRequestId + 1 ∧
      st'.flow.pendingZoneAssign =
        st.flow.pendingZoneAssign.filter (·.requestId ≠ st.flow.nextZoneAssignRequestId) := by
  obtain ⟨route, hroutes, hreg, hserial, hzone, hserved⟩ := h.routes
  have hselect (f : EnterFlow) (hf : f.zoneRoutes = [route]) :
      f.trySelectZoneRouteForMap 3 false = some route := by
    simp [EnterFlow.trySelectZoneRouteForMap, EnterFlow.selectRoute, hf, hreg, hserial, hzone,
      EnterFlow.routeServesMap, hserved]
  have hkeys : EnterFlow.makeMapAssignmentKey 2 0 ≠ EnterFlow.makeMapAssignmentKey 3 0 := by decide
  have hstep : step none st (.beginPortalTransfer (portalTo 3) false) =
      { st with flow := { st.flow with
        nextZoneAssignRequestId := st.flow.nextZoneAssignRequestId + 1
        pendingZoneAssign :=
          st.flow.pendingZoneAssign.filter (·.requestId ≠ st.flow.nextZoneAssignRequestId)
        pendingZoneAssignRequestIdByMapKey :=
          st.flow.pendingZoneAssignRequestIdByMapKey.erase
            (EnterFlow.makeMapAssignmentKey 3 0) } } := by
    simp [step, beginPortalTransfer, portalTo, EnterFlow.resolvePortalTargetInstanceId,
      EnterFlow.isDungeonMapTemplate, EnterFlow.assignMapInstance, h.unassigned, h.unasked,
      hselect st.flow hroutes]
  rw [hstep]
  refine ⟨⟨⟨route, hroutes, hreg, hserial, hzone, hserved⟩, h.unassigned, ?_, ?_⟩, rfl, rfl⟩
  · exact Table.erase_self st.flow.pendingZoneAssignRequestIdByMapKey
      (EnterFlow.makeMapAssignmentKey 3 0)
  · exact (Table.erase_of_ne _ hkeys).trans h.waiting

/-- A request that is refused each time can be asked for again any number of times. -/
theorem circling_run (h : Circling st) (n : Nat) :
    let st' := run (step none) st (List.replicate n (.beginPortalTransfer (portalTo 3) false))
    Circling st' ∧
      st'.flow.nextZoneAssignRequestId = st.flow.nextZoneAssignRequestId + UInt64.ofNat n := by
  induction n generalizing st with
  | zero => exact ⟨h, by simp⟩
  | succ n ih =>
      obtain ⟨hstep, hnext, -⟩ := circling_step h
      obtain ⟨hrun, hnext'⟩ := ih hstep
      refine ⟨hrun, hnext'.trans ?_⟩
      rw [hnext, UInt64.add_assoc, UInt64.add_comm 1]
      simp [UInt64.ofNat_add]

/-- The last of the requests draws the id of the first. -/
theorem not_inBijection_circle {n : Nat} (hn : 2 + UInt64.ofNat n = 1) :
    ¬ Always (step none) (fun st => st.flow.assignTables.InBijection) initial (circle n) := by
  intro h
  have hlast := always_iff_forall_part.mp h (circle n) (List.prefix_refl _)
  rw [circle, run_append, run_append] at hlast
  have hstart : Circling (run (step none) initial
      [zoneUp, .beginPortalTransfer (portalTo 2) true]) := by
    refine ⟨⟨{ sid := 5, serial := 1, serverId := 1, zoneId := 1, channelId := 1 }, ?_⟩, ?_, ?_, ?_⟩
    all_goals decide
  have hnext : (run (step none) initial
      [zoneUp, .beginPortalTransfer (portalTo 2) true]).flow.nextZoneAssignRequestId = 2 := by
    decide
  obtain ⟨hcircling, hback⟩ := circling_run hstart n
  rw [hnext, hn] at hback
  generalize run (step none) _ (List.replicate n _) = st at hlast hcircling hback
  obtain ⟨hafter, -, hrequests⟩ := circling_step hcircling
  obtain ⟨a, ha, hid, -⟩ := (hlast.entry_iff 1 (EnterFlow.makeMapAssignmentKey 2 0)).mpr
    hafter.waiting
  have ha : a ∈ (step none st (.beginPortalTransfer (portalTo 3) false)).flow.pendingZoneAssign :=
    ha
  rw [hrequests, hback, List.mem_filter] at ha
  exact of_decide_eq_true ha.2 hid

/-- After `2 ^ 64` requests the two tables disagree. -/
theorem not_inBijection_fullCircle :
    ¬ Always (step none) (fun st => st.flow.assignTables.InBijection) initial
      (circle (2 ^ 64 - 1)) :=
  not_inBijection_circle (by decide)

end WorldRuntime

end GameServer
