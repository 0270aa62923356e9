import GameServer.World.MapAssign

/-!
# GameServer.World.PortalTransfer

What becomes of portal transfers that wait for a map assignment.

A transfer that `BeginPortalTransfer` accepted is owed one outcome: a call of
`CompletePortalTransfer_` or of `FailPendingPortalTransfer_`.
`TransfersServed` says that a run pays it: the accepted transfers are those
with an outcome and those still waiting, each once, and whoever waits does so
for an outstanding request whose answer, loss or timeout settles it.

The code does not always pay.  `pending_portal_transfer_by_assign_request_`
holds one transfer per request, so a second transfer to the same unassigned
map displaces the first; and an aborted enter drops the request it was the
last to park on without asking whether a transfer waits too.
`transfersServed_of_along` shows that nothing else goes wrong.
-/

namespace GameServer

/-! ## The board -/

/-- Every waiting transfer waits for an outstanding request for its map, and
the route of every outstanding request stands. -/
structure AssignTables.Attended (t : AssignTables) : Prop where
  waits : ∀ p ∈ t.portals, ∃ a ∈ t.requests,
    a.requestId = p.assignRequestId ∧ a.mapKey = p.mapKey
  routed : ∀ a ∈ t.requests, ∃ route ∈ t.routes,
    route.sid = a.targetSid ∧ route.serial = a.targetSerial

namespace AssignOp

variable {t : AssignTables} {op : AssignOp}

/-- The operation displaces no transfer and takes neither request nor route
from one that waits. -/
def Spares (t : AssignTables) : AssignOp → Prop
  | .send _ | .takeBack _ => t.NextIdFree
  | .parkPortal p => ∀ q ∈ t.portals, q.assignRequestId ≠ p.assignRequestId
  | .orphan a => ∀ q ∈ t.portals, q.assignRequestId ≠ a.requestId
  | .setRoutes routes =>
      ∀ a ∈ t.requests, ∀ route ∈ t.routes, route.sid = a.targetSid →
        route.serial = a.targetSerial →
        ∃ route' ∈ routes, route'.sid = a.targetSid ∧ route'.serial = a.targetSerial
  | _ => True

theorem drawsFreeId_of_spares (h : op.Spares t) : op.DrawsFreeId t := by
  cases op with
  | send | takeBack => exact h
  | _ => trivial

/-- The transfers an operation accepts. -/
def accepted : AssignOp → List PendingPortalTransfer
  | .parkPortal p | .completeNow p => [p]
  | _ => []

/-- **One operation pays what it owes**: the transfers it settles and those
it leaves waiting are those that waited and those it accepted. -/
theorem perm_settled (hkeyed : t.Keyed) (hop : op.Enabled t) (hspares : op.Spares t) :
    (op.settled t ++ (op.apply t).portals).Perm (t.portals ++ op.accepted) := by
  have hsplit (id : UInt64) :
      ((t.portals.find? (·.assignRequestId == id)).toList ++
        t.portals.filter (·.assignRequestId ≠ id)).Perm t.portals := by
    rw [← filter_eq_toList_find? hkeyed.portals]
    refine List.Perm.trans (.of_eq ?_) (List.filter_append_perm (·.assignRequestId == id) t.portals)
    congr 2
    funext p
    by_cases h : p.assignRequestId = id <;> simp [h]
  cases op with
  | parkPortal p =>
      simp only [settled, apply, accepted, List.nil_append]
      rw [upsertBy_of_forall_ne hspares]
  | completeNow p =>
      simp only [settled, apply, accepted]
      exact List.perm_append_comm
  | conclude a =>
      simp only [settled, apply, accepted, List.append_nil]
      exact hsplit a.requestId
  | timeOut p =>
      simp only [settled, apply, accepted, List.append_nil]
      have hfind := find?_eq_some_of_mem hkeyed.portals hop
      have hp := hsplit p.assignRequestId
      rw [hfind] at hp
      exact hp
  | _ => simp [settled, apply, accepted, AssignTables.drop]

/-- One operation at a time: each outstanding transfer keeps its outstanding request. -/
theorem attended_apply (hbij : t.InBijection) (h : t.Attended)
    (hop : op.Enabled t) (hspares : op.Spares t) : (op.apply t).Attended := by
  cases op with
  | send a =>
      have hfree : t.NextIdFree := hspares
      have hadded : upsertBy (·.requestId) a t.requests = t.requests ++ [a] := by
        refine upsertBy_of_forall_ne fun b hb => ?_
        rw [hop.2.1]
        exact hfree b hb
      simp only [apply, hadded]
      refine ⟨fun p hp => ?_, fun b hb => ?_⟩
      · obtain ⟨b, hb, hid⟩ := h.waits p hp
        exact ⟨b, List.mem_append_left _ hb, hid⟩
      · cases List.mem_append.mp hb with
        | inl hold => exact h.routed b hold
        | inr hnew =>
            rw [List.mem_singleton.mp hnew]
            exact hop.2.2
  | takeBack mapKey =>
      have hfree : t.NextIdFree := hspares
      have hsame : t.requests.filter (·.requestId ≠ t.nextRequestId) = t.requests :=
        List.filter_eq_self.mpr fun a ha => decide_eq_true (hfree a ha)
      simp only [apply, hsame]
      exact ⟨h.waits, h.routed⟩
  | parkEnter e => exact ⟨h.waits, h.routed⟩
  | parkPortal p =>
      refine ⟨fun q hq => ?_, h.routed⟩
      cases mem_upsertBy hq with
      | inl hold => exact h.waits q hold
      | inr hnew =>
          rw [hnew]
          obtain ⟨a, ha, hid, hkey⟩ := (hbij.entry_iff _ _).mpr hop
          exact ⟨a, ha, hid, hkey⟩
  | completeNow p => exact h
  | conclude a =>
      refine ⟨fun p hp => ?_, fun b hb => h.routed b (List.mem_of_mem_filter hb)⟩
      obtain ⟨hp, hne⟩ := List.mem_filter.mp hp
      obtain ⟨b, hb, hid, hkey⟩ := h.waits p hp
      refine ⟨b, List.mem_filter.mpr ⟨hb, ?_⟩, hid, hkey⟩
      rw [hid]
      exact hne
  | unpark sid serial => exact ⟨h.waits, h.routed⟩
  | orphan a =>
      refine ⟨fun p hp => ?_, fun b hb => h.routed b (List.mem_of_mem_filter hb)⟩
      obtain ⟨b, hb, hid, hkey⟩ := h.waits p hp
      refine ⟨b, List.mem_filter.mpr ⟨hb, ?_⟩, hid, hkey⟩
      rw [hid]
      exact decide_eq_true (hspares p hp)
  | timeOut p => exact ⟨fun q hq => h.waits q (List.mem_of_mem_filter hq), h.routed⟩
  | setRoutes routes =>
      refine ⟨h.waits, fun a ha => ?_⟩
      obtain ⟨route, hroute, hsid, hserial⟩ := h.routed a ha
      exact hspares a ha route hroute hsid hserial
  | reorder requests =>
      have hperm : requests.Perm t.requests := hop
      refine ⟨fun p hp => ?_, fun a ha => h.routed a (hperm.mem_iff.mp ha)⟩
      obtain ⟨a, ha, hid⟩ := h.waits p hp
      exact ⟨a, hperm.mem_iff.mpr ha, hid⟩

/-- Sparing operations, one after another. -/
theorem run_of_spares {ops : List AssignOp} (hkeyed : t.Keyed) (hbij : t.InBijection)
    (h : t.Attended) (henabled : Along apply Enabled t ops) (hspares : Along apply Spares t ops)
    (outcomes : List PendingPortalTransfer) :
    (run apply t ops).InBijection ∧ (run apply t ops).Attended ∧
      ((run (recording apply settled) (t, outcomes) ops).2 ++
        (run apply t ops).portals).Perm (outcomes ++ t.portals ++ ops.flatMap accepted) := by
  induction ops generalizing t outcomes with
  | nil => exact ⟨hbij, h, by simp⟩
  | cons op ops ih =>
      have hbij' := hbij.apply hkeyed henabled.1 (drawsFreeId_of_spares hspares.1)
      have h' := attended_apply hbij h henabled.1 hspares.1
      obtain ⟨hb, ha, hperm⟩ := ih (hkeyed.apply henabled.1) hbij' h' henabled.2 hspares.2
        (outcomes ++ op.settled t)
      refine ⟨hb, ha, hperm.trans ?_⟩
      have hone := perm_settled hkeyed henabled.1 hspares.1
      calc outcomes ++ op.settled t ++ (op.apply t).portals ++ ops.flatMap accepted
          = outcomes ++ (op.settled t ++ (op.apply t).portals) ++ ops.flatMap accepted := by
            simp only [List.append_assoc]
        List.Perm _ (outcomes ++ (t.portals ++ op.accepted) ++ ops.flatMap accepted) :=
            (hone.append_left outcomes).append_right _
        _ = outcomes ++ t.portals ++ (op :: ops).flatMap accepted := by
            simp only [List.flatMap_cons, List.append_assoc]

end AssignOp

namespace WorldRuntime

variable {st : WorldRuntime} {topology : Option ServerTopology} {ops : List AssignOp} {e : Event}

/-! ## When a step loses no transfer -/

/-- The map instance a `BeginPortalTransfer` call is for. -/
def targetKey (st : WorldRuntime) (request : PendingPortalTransfer) : UInt64 :=
  EnterFlow.makeMapAssignmentKey request.targetMapTemplateId
    (st.flow.resolvePortalTargetInstanceId request.targetMapTemplateId
      request.targetInstanceId).1

/-- The step loses no transfer:

* a transfer does not park on a request another transfer waits for;
* an aborted enter flow is not the last to wait, beside a transfer, for its
  request;
* a new request does not get the id of an outstanding one;
* a zone says hello on a slot only after the earlier connection of the slot
  was unregistered, as the zone line sees to. -/
def LosesNoTransfer (topology : Option ServerTopology) (st : WorldRuntime) (e : Event) : Prop :=
  DrawsFreeId topology st e ∧
    (∀ conn ∈ st.abortedBy e, ∀ q ∈ st.flow.pendingPortalTransfer,
      ¬ OrphanedBy st.flow conn.1 conn.2 q.assignRequestId) ∧
    match e with
    | .beginPortalTransfer request _ =>
        ∀ r ∈ st.flow.pendingZoneAssignRequestIdByMapKey (st.targetKey request),
          ∀ q ∈ st.flow.pendingPortalTransfer, q.assignRequestId ≠ r
    | .registerZoneRoute hello =>
        ∀ a ∈ st.flow.pendingZoneAssign, a.targetSid = hello.sid → a.targetSerial = hello.serial
    | _ => True

/-- The transfers a step accepts. -/
def acceptsTransfer (topology : Option ServerTopology) (st : WorldRuntime) :
    Event → List PendingPortalTransfer
  | .beginPortalTransfer request sendOk => (st.acceptedTransfer topology request sendOk).toList
  | _ => []

/-- An accepted transfer is kept under the map it asks for. -/
theorem mapKey_acceptedTransfer {request p : PendingPortalTransfer} {sendOk : Bool}
    (h : st.acceptedTransfer topology request sendOk = some p) : p.mapKey = st.targetKey request := by
  unfold acceptedTransfer at h
  dsimp only at h
  split at h
  · cases h
    rfl
  · obtain ⟨_, -, rfl⟩ := Option.map_eq_some_iff.mp h
    rfl
  · cases h

theorem AskOps.flatMap_accepted {requestId : UInt64} (h : AskOps requestId ops) :
    ops.flatMap AssignOp.accepted = [] := by
  cases h <;> rfl

/-- Operations that close accept nothing. -/
theorem flatMap_accepted_of_closing {t : AssignTables} (h : Along AssignOp.apply Closing t ops) :
    ops.flatMap AssignOp.accepted = [] := by
  induction ops generalizing t with
  | nil => rfl
  | cons op ops ih =>
      rw [List.flatMap_cons, ih h.2, List.append_nil]
      cases op with
      | parkPortal | completeNow => exact absurd h.1 id
      | _ => rfl

/-- The operations of an event accept what the event accepts. -/
theorem StepOps.flatMap_accepted (h : StepOps topology st e ops) :
    ops.flatMap AssignOp.accepted = acceptsTransfer topology st e := by
  have hother (hne : ∀ request sendOk, e ≠ .beginPortalTransfer request sendOk) :
      acceptsTransfer topology st e = [] := by
    unfold acceptsTransfer
    split
    next request sendOk => exact absurd rfl (hne request sendOk)
    next => rfl
  cases h with
  | idle _ hne => rw [hother hne]; rfl
  | enter rr answers h =>
      cases h with
      | idle => rfl
      | asked h => exact h.flatMap_accepted
      | parked h e => rw [List.flatMap_append, h.flatMap_accepted]; rfl
  | transfer request sendOk h =>
      rw [acceptsTransfer]
      generalize st.acceptedTransfer topology request sendOk = accepted at h ⊢
      cases h with
      | refused h => exact h.flatMap_accepted
      | parked p h => rw [List.flatMap_append, h.flatMap_accepted]; rfl
      | done p h => rw [List.flatMap_append, h.flatMap_accepted]; rfl
  | abort _ he h =>
      rw [hother fun request sendOk heq => by rw [heq] at he; cases he]
      cases h with
      | idle => rfl
      | unparked orphans h =>
          rw [List.flatMap_cons, List.flatMap_map]
          simp [AssignOp.accepted]
  | close _ hne h => rw [hother hne, flatMap_accepted_of_closing h]
  | register | heartbeat | rehash => rfl

/-- The condition on events gives the condition on the operation that draws an id. -/
theorem nextIdFree_of_drawsFreeId {t : AssignTables} {op : AssignOp} (ht : t = st.flow.assignTables)
    (hby : ByOps (op :: ops) st (step topology st e)) (hdraw : Draws op)
    (hparks : ∀ p ∈ ops, Parks p) (h : DrawsFreeId topology st e) : t.NextIdFree := by
  rw [ht]
  apply h
  have hnext : (step topology st e).flow.nextZoneAssignRequestId = _ :=
    (congrArg AssignTables.nextRequestId hby.tables).trans (nextRequestId_draw hdraw hparks)
  rw [hnext]
  simp [EnterFlow.assignTables]

/-! ### Each kind of event -/

/-- After `AssignMapInstance`, operations that spare are left to check. -/
theorem AskOps.along_spares {requestId : UInt64} {ask rest : List AssignOp}
    (h : AskOps requestId ask) (hparks : ∀ p ∈ rest, Parks p)
    (hby : ByOps (ask ++ rest) st (step topology st e)) (hfree : DrawsFreeId topology st e)
    (hrest : Along AssignOp.apply AssignOp.Spares (run AssignOp.apply st.flow.assignTables ask)
      rest) : Along AssignOp.apply AssignOp.Spares st.flow.assignTables (ask ++ rest) := by
  rw [along_append]
  refine ⟨?_, hrest⟩
  cases h with
  | known => trivial
  | sent a _ => exact ⟨nextIdFree_of_drawsFreeId rfl hby trivial hparks hfree, trivial⟩
  | takenBack mapKey => exact ⟨nextIdFree_of_drawsFreeId rfl hby trivial hparks hfree, trivial⟩

theorem AskOps.portals_run {requestId : UInt64} {ask : List AssignOp} (h : AskOps requestId ask)
    (t : AssignTables) : (run AssignOp.apply t ask).portals = t.portals := by
  cases h <;> rfl

/-- An enter asks for a map and takes no request away. -/
theorem along_spares_enter (h : EnterOps ops) (hby : ByOps ops st (step topology st e))
    (hfree : DrawsFreeId topology st e) :
    Along AssignOp.apply AssignOp.Spares st.flow.assignTables ops := by
  cases h with
  | idle => trivial
  | asked h =>
      rw [← List.append_nil ops] at hby ⊢
      exact h.along_spares nofun hby hfree trivial
  | parked h e => exact h.along_spares (by simp [Parks]) hby hfree ⟨trivial, trivial⟩

/-- A transfer joins a request for its map that no transfer waits for, or draws its own. -/
theorem along_spares_transfer {request : PendingPortalTransfer} {sendOk : Bool}
    (h : TransferOps (st.acceptedTransfer topology request sendOk) ops)
    (hattended : st.flow.assignTables.Attended)
    (hby : ByOps ops st (step topology st (.beginPortalTransfer request sendOk)))
    (hlose : LosesNoTransfer topology st (.beginPortalTransfer request sendOk)) :
    Along AssignOp.apply AssignOp.Spares st.flow.assignTables ops := by
  obtain ⟨hfree, -, halone⟩ := hlose
  generalize haccepted : st.acceptedTransfer topology request sendOk = accepted at h
  cases h with
  | refused h =>
      rw [← List.append_nil ops] at hby ⊢
      exact h.along_spares nofun hby hfree trivial
  | done p h => exact h.along_spares (by simp [Parks]) hby hfree ⟨trivial, trivial⟩
  | @parked ask p h =>
      refine h.along_spares (by simp [Parks]) hby hfree ⟨fun q hq => ?_, trivial⟩
      rw [h.portals_run] at hq
      have henabled := ((along_append _).mp hby.enabled).2.1
      have hkey := mapKey_acceptedTransfer haccepted
      cases h with
      | known =>
          rw [AssignOp.Enabled, hkey] at henabled
          exact halone _ henabled q hq
      | sent a hid =>
          -- the request is new, and nobody waits for a new request
          have hnext := nextIdFree_of_drawsFreeId rfl hby trivial (by simp [Parks]) hfree
          obtain ⟨b, hb, hidb, -⟩ := hattended.waits q hq
          have hida : a.requestId = st.flow.assignTables.nextRequestId := hby.enabled.1.2.1
          rw [← hid, hida, ← hidb]
          exact hnext b hb
      | takenBack mapKey =>
          rw [AssignOp.Enabled, hkey] at henabled
          exact halone _ (Table.erase_eq_some_iff.mp henabled).2 q hq

/-- Requests that no transfer waits for may go. -/
theorem along_spares_orphans {t : AssignTables} {orphans : List PendingZoneAssignRequest}
    (h : ∀ a ∈ orphans, ∀ q ∈ t.portals, q.assignRequestId ≠ a.requestId) :
    Along AssignOp.apply AssignOp.Spares t (orphans.map .orphan) := by
  induction orphans generalizing t with
  | nil => trivial
  | cons a orphans ih =>
      exact ⟨h a List.mem_cons_self, ih fun b hb => h b (List.mem_cons_of_mem _ hb)⟩

/-- What closes concludes a request together with the transfers that wait for it. -/
theorem along_spares_closing {t : AssignTables} (h : Along AssignOp.apply Closing t ops) :
    Along AssignOp.apply AssignOp.Spares t ops := by
  induction ops generalizing t with
  | nil => trivial
  | cons op ops ih =>
      refine ⟨?_, ih h.2⟩
      have hop := h.1
      cases op with
      | conclude | timeOut => trivial
      | setRoutes routes =>
          intro a ha route hroute hsid hserial
          exact ⟨route, hop route hroute ⟨a, ha, hsid.symm⟩, hsid, hserial⟩
      | _ => exact absurd hop id

/-- A hello takes no request away whose connection is the one that says it. -/
theorem spares_register {hello : ZoneRouteState}
    (h : ∀ a ∈ st.flow.pendingZoneAssign, a.targetSid = hello.sid → a.targetSerial = hello.serial) :
    (AssignOp.setRoutes (st.flow.registerZoneRoute topology hello).zoneRoutes).Spares
      st.flow.assignTables := by
  intro a ha route hroute hsid hserial
  obtain ⟨hsid', hserial'⟩ := applyTopology_sid topology
    { hello with registered := true, servedMapIds := [] }
  by_cases hslot : a.targetSid = hello.sid
  · refine ⟨_, List.mem_append_right _ (List.mem_singleton_self _), ?_, ?_⟩
    · rw [hsid', hslot]
    · rw [hserial', h a ha hslot]
  · refine ⟨route, List.mem_append_left _ (List.mem_filter.mpr ⟨hroute, ?_⟩), hsid, hserial⟩
    exact decide_eq_true fun heq => hslot (hsid.symm.trans (heq.trans hsid'))

/-- A heartbeat keeps every route. -/
theorem spares_heartbeat (beat : ZoneRouteState) :
    (AssignOp.setRoutes (st.flow.onZoneRouteHeartbeat topology beat).zoneRoutes).Spares
      st.flow.assignTables := by
  intro a ha route hroute hsid hserial
  have hmem : (route.sid, route.serial) ∈
      st.flow.zoneRoutes.map fun r => (r.sid, r.serial) := List.mem_map_of_mem hroute
  rw [← map_onZoneRouteHeartbeat st.flow topology beat] at hmem
  obtain ⟨route', hroute', heq⟩ := List.mem_map.mp hmem
  obtain ⟨hs, hr⟩ := Prod.mk.inj heq
  exact ⟨route', hroute', hs.trans hsid, hr.trans hserial⟩

/-- A step that loses no transfer works by sparing operations. -/
theorem along_spares (h : StepOps topology st e ops) (hattended : st.flow.assignTables.Attended)
    (hby : ByOps ops st (step topology st e)) (hlose : LosesNoTransfer topology st e) :
    Along AssignOp.apply AssignOp.Spares st.flow.assignTables ops := by
  cases h with
  | idle => trivial
  | enter rr answers h => exact along_spares_enter h hby hlose.1
  | transfer request sendOk h => exact along_spares_transfer h hattended hby hlose
  | abort _ he h =>
      cases h with
      | idle => trivial
      | unparked orphans h =>
          refine ⟨trivial, along_spares_orphans fun a ha q hq hid => ?_⟩
          exact hlose.2.1 _ he q hq (hid ▸ h a ha)
  | close _ _ h => exact along_spares_closing h
  | register hello => exact ⟨spares_register hlose.2.2, trivial⟩
  | heartbeat beat => exact ⟨spares_heartbeat beat, trivial⟩
  | rehash routes assigns enters hperm =>
      refine ⟨fun a ha route hroute hsid hserial => ?_, trivial, trivial⟩
      exact ⟨route, hperm.mem_iff.mpr hroute, hsid, hserial⟩

/-! ## What settles a waiting transfer -/

/-- The events after which a transfer `p` that waits for request `a` has its
outcome: the zone answers, the zone goes away, or the transfer times out. -/
def Concludes (a : PendingZoneAssignRequest) (p : PendingPortalTransfer) : Event → Prop
  | .zoneMapAssignResponse sid serial res _ =>
      sid = a.targetSid ∧ serial = a.targetSerial ∧ res.requestId = a.requestId
  | .unregisterZoneRoute sid serial => sid = a.targetSid ∧ serial = a.targetSerial
  | .expireStaleZoneRoutes routes _ portals => a.targetSid ∈ routes ∨ p.assignRequestId ∈ portals
  | _ => False

/-- Losing several routes leaves no request to any of their zones. -/
theorem targetSid_ne_of_foldl_loseZoneRoute (l : List ZoneRouteState)
    (hkeyed : st.flow.assignTables.Keyed) {a : PendingZoneAssignRequest}
    (ha : a ∈ (l.foldl (fun st r => st.loseZoneRoute r.sid) st).flow.pendingZoneAssign) :
    a ∈ st.flow.pendingZoneAssign ∧ ∀ route ∈ l, a.targetSid ≠ route.sid := by
  induction l generalizing st with
  | nil => exact ⟨ha, nofun⟩
  | cons route l ih =>
      obtain ⟨hmem, hrest⟩ := ih ((byOps_loseZoneRoute hkeyed route.sid).keyed hkeyed) ha
      obtain ⟨hst, hne⟩ := targetSid_ne_of_loseZoneRoute hkeyed hmem
      refine ⟨hst, fun route' hroute' => ?_⟩
      cases List.mem_cons.mp hroute' with
      | inl heq => exact heq ▸ hne
      | inr hmem' => exact hrest route' hmem'

/-- Timing transfers out takes transfers and leaves the requests. -/
theorem run_timeOut (l : List PendingPortalTransfer) (t : AssignTables) :
    (run AssignOp.apply t (l.map .timeOut)).requests = t.requests ∧
      (run AssignOp.apply t (l.map .timeOut)).portals =
        t.portals.filter fun q => l.all (·.assignRequestId ≠ q.assignRequestId) := by
  induction l generalizing t with
  | nil => simp
  | cons p l ih =>
      rw [List.map_cons, run_cons, (ih _).1, (ih _).2]
      simp only [AssignOp.apply, List.filter_filter, List.all_cons, true_and]
      congr 1
      funext q
      rw [Bool.and_comm]
      simp [eq_comm]

/-- An expiry leaves no request to an expired zone and no overdue transfer. -/
theorem drained_expireStaleZoneRoutes (hkeyed : st.flow.assignTables.Keyed)
    (routes : List UInt32) (enters portals : List UInt64) :
    let st' := st.expireStaleZoneRoutes routes enters portals
    (∀ a ∈ st'.flow.pendingZoneAssign, a ∈ st.flow.pendingZoneAssign ∧
      ∀ route ∈ st.flow.zoneRoutes, route.sid ∈ routes → a.targetSid ≠ route.sid) ∧
      ∀ p ∈ st'.flow.pendingPortalTransfer, p.assignRequestId ∉ portals := by
  unfold expireStaleZoneRoutes
  extract_lets st₁ st₂ st'
  have hlost := Closes.foldl
    (l := st.flow.zoneRoutes.filter fun r => routes.contains r.sid)
    (fun st (route : ZoneRouteState) => closes_loseZoneRoute st route.sid) st hkeyed
  obtain ⟨ops, -, hby⟩ := hlost
  have hview : st₂.assignView = st₁.assignView := assignView_failZonePlayerEnters _ _ _
  have hkeyed₂ : st₂.flow.assignTables.Keyed := (hby.same hview).keyed hkeyed
  have htimed : ByOps ((st₂.flow.pendingPortalTransfer.filter
      fun p => portals.contains p.assignRequestId).map .timeOut) st₂ st' :=
    byOps_foldl_timeOut (fun st p hp => .one hp (assignView_emit _ _))
      (nodup_map_filter hkeyed₂.portals) _ fun p hp => List.mem_of_mem_filter hp
  obtain ⟨hrequests, hportals⟩ := run_timeOut (st₂.flow.pendingPortalTransfer.filter
    fun p => portals.contains p.assignRequestId) st₂.flow.assignTables
  rw [← htimed.tables] at hrequests hportals
  constructor
  · intro a ha
    have hsame : st₂.flow.pendingZoneAssign = st₁.flow.pendingZoneAssign :=
      congrArg (fun v => v.1.requests) hview
    have ha₂ : a ∈ st₂.flow.assignTables.requests := by
      rw [← hrequests]
      exact ha
    have ha₁ : a ∈ st₁.flow.pendingZoneAssign := hsame ▸ ha₂
    obtain ⟨hst, hne⟩ := targetSid_ne_of_foldl_loseZoneRoute _ hkeyed ha₁
    refine ⟨hst, fun route hroute hin => hne route (List.mem_filter.mpr ⟨hroute, ?_⟩)⟩
    simpa using hin
  · intro p hp hin
    have hp' : p ∈ st'.flow.assignTables.portals := hp
    rw [hportals, List.mem_filter, List.all_eq_true] at hp'
    have hne := hp'.2 p (List.mem_filter.mpr ⟨hp'.1, by simpa using hin⟩)
    simp at hne

/-- Nothing but answered requests leaves the board when a transfer's request
is concluded, and its request does if it is not the transfer that times out. -/
theorem drained_of_concludes (topology : Option ServerTopology) (hkeyed : st.flow.assignTables.Keyed)
    (hattended : st.flow.assignTables.Attended) {a : PendingZoneAssignRequest}
    (ha : a ∈ st.flow.pendingZoneAssign) {p : PendingPortalTransfer} (he : Concludes a p e) :
    (∀ b ∈ (step topology st e).flow.pendingZoneAssign, b ∈ st.flow.pendingZoneAssign ∧ b ≠ a) ∨
      p ∉ (step topology st e).flow.pendingPortalTransfer := by
  cases e with
  | zoneMapAssignResponse sid serial res sendOk =>
      obtain ⟨rfl, rfl, hid⟩ := he
      have hfind : st.flow.pendingZoneAssign.find? (·.requestId == res.requestId) = some a := by
        rw [hid]
        exact find?_eq_some_of_mem hkeyed.requests ha
      have hby := byOps_onZoneMapAssignResponse st sendOk hfind ⟨rfl, rfl⟩
      refine .inl fun b hb => ?_
      have hrequests : (step topology st (.zoneMapAssignResponse a.targetSid a.targetSerial res
          sendOk)).flow.pendingZoneAssign =
          st.flow.pendingZoneAssign.filter (·.requestId ≠ a.requestId) :=
        congrArg AssignTables.requests hby.tables
      rw [hrequests] at hb
      obtain ⟨hmem, hne⟩ := List.mem_filter.mp hb
      refine ⟨hmem, fun heq => of_decide_eq_true hne ?_⟩
      rw [heq]
  | unregisterZoneRoute sid serial =>
      obtain ⟨rfl, rfl⟩ := he
      obtain ⟨route, hroute, hsid, hserial⟩ := hattended.routed a ha
      have hfind : st.flow.zoneRoutes.find? (·.sid == a.targetSid) = some route := by
        rw [← hsid]
        exact find?_eq_some_of_mem hkeyed.routes hroute
      have hlose : step topology st (.unregisterZoneRoute a.targetSid a.targetSerial) =
          st.loseZoneRoute a.targetSid := by
        simp [step, unregisterZoneRoute, hfind, hserial]
      refine .inl fun b hb => ?_
      rw [hlose] at hb
      obtain ⟨hmem, hne⟩ := targetSid_ne_of_loseZoneRoute hkeyed hb
      exact ⟨hmem, fun heq => hne (heq ▸ rfl)⟩
  | expireStaleZoneRoutes routes enters portals =>
      obtain ⟨hrequests, hportals⟩ := drained_expireStaleZoneRoutes hkeyed routes enters portals
      cases he with
      | inl hroutes =>
          obtain ⟨route, hroute, hsid, -⟩ := hattended.routed a ha
          refine .inl fun b hb => ?_
          obtain ⟨hmem, hne⟩ := hrequests b hb
          refine ⟨hmem, fun heq => hne route hroute (hsid ▸ hroutes) ?_⟩
          rw [heq, hsid]
      | inr hoverdue => exact .inr fun hp => hportals p hp hoverdue
  | _ => exact absurd he id

/-! ## Runs -/

/-- The transfers accepted in a run. -/
def acceptedTransfers (topology : Option ServerTopology) (es : List Event) :
    List PendingPortalTransfer :=
  (run (recording (step topology) (acceptsTransfer topology)) (initial, []) es).2

/-- The run pays every transfer it accepted its one outcome.

* Every accepted transfer has had its outcome or still waits, and each
  counts once.
* A waiting transfer waits for an outstanding request for its map; when the
  zone answers it or goes away or the transfer times out, the transfer has
  one more outcome and waits no more. -/
structure TransfersServed (topology : Option ServerTopology) (es : List Event) : Prop where
  accounted : ((run (step topology) initial es).transferOutcomes ++
    (run (step topology) initial es).flow.pendingPortalTransfer).Perm
      (acceptedTransfers topology es)
  settled : ∀ p ∈ (run (step topology) initial es).flow.pendingPortalTransfer,
    ∃ a ∈ (run (step topology) initial es).flow.pendingZoneAssign,
      a.requestId = p.assignRequestId ∧ a.mapKey = p.mapKey ∧
      ∀ e, Concludes a p e →
        (run (step topology) initial (es ++ [e])).transferOutcomes.count p =
          (run (step topology) initial es).transferOutcomes.count p + 1 ∧
        p ∉ (run (step topology) initial (es ++ [e])).flow.pendingPortalTransfer

/-- What holds between the steps of a run that loses no transfer, with the
transfers accepted so far. -/
structure Paying (sh : WorldRuntime × List PendingPortalTransfer) : Prop where
  keyed : sh.1.flow.assignTables.Keyed
  bijection : sh.1.flow.assignTables.InBijection
  attended : sh.1.flow.assignTables.Attended
  accounted : (sh.1.transferOutcomes ++ sh.1.flow.pendingPortalTransfer).Perm sh.2

/-- A step that loses no transfer keeps the accounts. -/
theorem Paying.step {accepted : List PendingPortalTransfer} (h : Paying (st, accepted))
    (hlose : LosesNoTransfer topology st e) :
    Paying (recording (step topology) (acceptsTransfer topology) (st, accepted) e) := by
  obtain ⟨ops, hops, hby⟩ := stepOps_step topology h.keyed e
  have hspares := along_spares hops h.attended hby hlose
  obtain ⟨hbij, hattended, hperm⟩ := AssignOp.run_of_spares h.keyed h.bijection h.attended
    hby.enabled hspares st.transferOutcomes
  have hout : (WorldRuntime.step topology st e).transferOutcomes =
      (run (recording AssignOp.apply AssignOp.settled) st.assignView ops).2 :=
    congrArg Prod.snd hby.view
  have hportals : (WorldRuntime.step topology st e).flow.pendingPortalTransfer =
      (run AssignOp.apply st.flow.assignTables ops).portals :=
    congrArg AssignTables.portals hby.tables
  refine ⟨hby.keyed h.keyed, ?_, ?_, ?_⟩
  · exact hby.tables ▸ hbij
  · exact hby.tables ▸ hattended
  · have hsame : ((WorldRuntime.step topology st e).transferOutcomes ++
        (WorldRuntime.step topology st e).flow.pendingPortalTransfer).Perm
        (st.transferOutcomes ++ st.flow.pendingPortalTransfer ++ ops.flatMap AssignOp.accepted) := by
      rw [hout, hportals]
      exact hperm
    rw [hops.flatMap_accepted] at hsame
    exact hsame.trans (h.accounted.append_right _)

theorem abortedBy_of_concludes {a : PendingZoneAssignRequest} {p : PendingPortalTransfer}
    (he : Concludes a p e) : st.abortedBy e = none := by
  cases e with
  | zoneMapAssignResponse | unregisterZoneRoute | expireStaleZoneRoutes => rfl
  | _ => exact absurd he id

/-- An event that concludes a transfer draws no request. -/
theorem StepOps.not_draws_of_concludes (h : StepOps topology st e ops)
    {a : PendingZoneAssignRequest} {p : PendingPortalTransfer} (he : Concludes a p e) :
    ∀ op ∈ ops, ¬ Draws op := by
  cases h with
  | idle => exact nofun
  | abort _ haborted h =>
      rw [abortedBy_of_concludes he] at haborted
      cases haborted
  | close _ _ h => exact not_draws_of_closing h
  | enter | transfer | register | heartbeat | rehash => exact absurd he id

/-- What concludes a request neither asks for a map, nor aborts an enter, nor
registers a zone. -/
theorem losesNoTransfer_of_concludes (hkeyed : st.flow.assignTables.Keyed)
    (hbij : st.flow.assignTables.InBijection) {a : PendingZoneAssignRequest}
    {p : PendingPortalTransfer} (he : Concludes a p e) : LosesNoTransfer topology st e := by
  refine ⟨?_, fun conn haborted => ?_, ?_⟩
  · obtain ⟨ops, hops, hby⟩ := stepOps_step topology hkeyed e
    have hrun := inBijection_run_ops hbij hkeyed hby.enabled (hops.not_draws_of_concludes he)
    refine (inBijection_step_iff topology hkeyed hbij e).mp ?_
    rw [hby.tables]
    exact hrun.1
  · rw [abortedBy_of_concludes he] at haborted
    cases haborted
  · cases e with
    | zoneMapAssignResponse | unregisterZoneRoute | expireStaleZoneRoutes => trivial
    | _ => exact absurd he id

theorem paying_initial : Paying (initial, []) := by
  refine ⟨keyed_run none [], ?_, ⟨nofun, nofun⟩, List.Perm.refl []⟩
  exact always_iff_forall_part.mp ((inBijection_run_iff none []).mpr trivial) [] List.nil_prefix

/-- The accounts are kept along the run. -/
theorem paying_run (es : List Event) {sh : WorldRuntime × List PendingPortalTransfer}
    (hstart : Paying sh) (h : Along (step topology) (LosesNoTransfer topology) sh.1 es) :
    Paying (run (recording (step topology) (acceptsTransfer topology)) sh es) := by
  induction es generalizing sh with
  | nil => exact hstart
  | cons e es ih => exact ih (hstart.step h.1) h.2

/-- A transfer that waits in a state with kept accounts is settled by what
concludes its request. -/
theorem Paying.settled {accepted : List PendingPortalTransfer} (h : Paying (st, accepted))
    {p : PendingPortalTransfer} (hp : p ∈ st.flow.pendingPortalTransfer)
    {a : PendingZoneAssignRequest} (ha : a ∈ st.flow.pendingZoneAssign)
    (hid : a.requestId = p.assignRequestId) (he : Concludes a p e) :
    (WorldRuntime.step topology st e).transferOutcomes.count p =
        st.transferOutcomes.count p + 1 ∧
      p ∉ (WorldRuntime.step topology st e).flow.pendingPortalTransfer := by
  have hlose : LosesNoTransfer topology st e :=
    losesNoTransfer_of_concludes h.keyed h.bijection he
  have hnext := h.step hlose
  have hgone : p ∉ (WorldRuntime.step topology st e).flow.pendingPortalTransfer := by
    rcases drained_of_concludes topology h.keyed h.attended ha he with hdrained | hp'
    · intro hp'
      obtain ⟨b, hb, hidb, -⟩ := hnext.attended.waits p hp'
      obtain ⟨hmem, hne⟩ := hdrained b hb
      exact hne (h.keyed.request_inj hmem ha (hidb.trans hid.symm))
    · exact hp'
  refine ⟨?_, hgone⟩
  have haccepts : acceptsTransfer topology st e = [] := by
    cases e with
    | zoneMapAssignResponse | unregisterZoneRoute | expireStaleZoneRoutes => rfl
    | _ => exact absurd he id
  have hcount := (hnext.accounted.trans (h.accounted.symm.append_right _)).count_eq p
  simp only [haccepts, List.append_nil, List.count_append] at hcount
  have hbefore : st.flow.pendingPortalTransfer.count p = 1 :=
    List.count_eq_one_of_mem (List.Nodup.of_map _ h.keyed.portals) hp
  have hafter : (WorldRuntime.step topology st e).flow.pendingPortalTransfer.count p = 0 :=
    List.count_eq_zero.mpr hgone
  rw [hbefore] at hcount
  simpa [recording, hafter] using hcount

/-- **No transfer is lost** in a run whose steps lose none. -/
theorem transfersServed_of_along (topology : Option ServerTopology) (es : List Event)
    (h : Along (step topology) (LosesNoTransfer topology) initial es) :
    TransfersServed topology es := by
  have hpaying := paying_run es paying_initial h
  have hsplit : run (recording (step topology) (acceptsTransfer topology)) (initial, []) es =
      (run (step topology) initial es, acceptedTransfers topology es) :=
    Prod.ext (fst_run_recording _ _) rfl
  rw [hsplit] at hpaying
  refine ⟨hpaying.accounted, fun p hp => ?_⟩
  obtain ⟨a, ha, hid, hkey⟩ := hpaying.attended.waits p hp
  refine ⟨a, ha, hid, hkey, fun e he => ?_⟩
  rw [run_append]
  exact hpaying.settled hp ha hid he

/-! ## Lost transfers -/

/-- A transfer waits for its map until the zone opens it. -/
def servedTransfer : List Event :=
  [zoneUp, .beginPortalTransfer (portalTo 2) true,
   .zoneMapAssignResponse 5 1 ⟨1, .ok, 1, 2, 0⟩ fun _ => true]

/-- The transfer of one portal over one zone, served. -/
theorem transfersServed_servedTransfer :
    acceptedTransfers none servedTransfer = [{ portalTo 2 with assignRequestId := 1 }] ∧
      TransfersServed none servedTransfer := by
  refine ⟨by decide, transfersServed_of_along none servedTransfer ?_⟩
  refine ⟨⟨fun _ => ?_, nofun, ?_⟩, ⟨fun _ => ?_, nofun, ?_⟩, ⟨fun h => ?_, nofun, trivial⟩, trivial⟩
  · exact nofun
  · exact nofun
  · exact nofun
  · exact nofun
  · exact absurd rfl h

/-- Characters 11 and 22 go through portals to the same map before the zone
has opened it. -/
def overtakenTransfer : List Event :=
  [zoneUp, .beginPortalTransfer (portalTo 2) true,
   .beginPortalTransfer { portalTo 2 with sid := 2, charId := 22 } true,
   .zoneMapAssignResponse 5 1 ⟨1, .ok, 1, 2, 0⟩ fun _ => true]

/-- Character 11 is in the world; the enter of character 22 waits for map 2
when 11 goes through a portal to it, and then the client of 22 hangs up. -/
def orphanedTransfer : List Event :=
  let core := makeDefaultCharacterCoreState 200 22
  zoneUp :: connect 1 1 ++ enterWorld 1 1 100 11 0 ++ connect 2 1 ++ askToEnter 2 1 200 22 1 ++
    [.snapshotResult ⟨4, true, true, { core with
       hot := { core.hot with position := { core.hot.position with mapId := 2 } } }⟩
       ⟨.replicate 32 2, true, true⟩,
     .beginPortalTransfer (portalTo 2) true] ++
    disconnect 2 1

/-- The second transfer to a map takes the place of the first, which is never
heard of again; and a client that hangs up takes the request with it that
another's transfer waits for. -/
theorem not_transfersServed_overtaken_orphaned :
    ¬ TransfersServed none overtakenTransfer ∧ ¬ TransfersServed none orphanedTransfer := by
  constructor
  · intro h
    exact absurd h.accounted.length_eq (by decide)
  · intro h
    have hwaits : { portalTo 2 with assignRequestId := 2 } ∈
        (run (step none) initial orphanedTransfer).flow.pendingPortalTransfer := by decide
    have hgone : (run (step none) initial orphanedTransfer).flow.pendingZoneAssign = [] := by decide
    obtain ⟨a, ha, -⟩ := h.settled _ hwaits
    rw [hgone] at ha
    cases ha

end WorldRuntime

end GameServer
