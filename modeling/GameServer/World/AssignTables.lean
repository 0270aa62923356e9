import GameServer.Lib.Run
import GameServer.World.ZoneRoute

/-!
# GameServer.World.AssignTables

The board of map-assign requests: which map instances a zone was asked to
open, and who waits for the answer.

`AssignTables` is the part of `EnterFlow` that `AssignMapInstance`,
`OnZoneMapAssignResponse`, `FailPendingZoneAssignRequestsByZoneSid_`,
`ErasePendingEnterWorldFinalizeBySession_` and `BeginPortalTransfer` share,
and `AssignOp` lists what they do to it.  An operation has a guard
(`Enabled`), an effect (`apply`) and the portal transfers it gives an outcome
to (`settled`); that the handlers work by these operations is proved in
`GameServer.World.AssignEffects`.

* `Keyed` — the hash maps have one record per key; every operation keeps it;
* `InBijection` — a request and the entry of its map key come and go
  together, and enters wait only for outstanding requests.  It is kept by
  every operation that draws no id of an outstanding request
  (`InBijection.apply`).
-/

namespace GameServer

/-- The map instance a parked enter waits for. -/
def PendingEnterWorldFinalize.mapKey (e : PendingEnterWorldFinalize) : UInt64 :=
  EnterFlow.makeMapAssignmentKey e.mapTemplateId e.instanceId

/-- The map instance a portal transfer leads to. -/
def PendingPortalTransfer.mapKey (p : PendingPortalTransfer) : UInt64 :=
  EnterFlow.makeMapAssignmentKey p.targetMapTemplateId p.targetInstanceId

/-- The zone routes, the outstanding requests by id and by map key, and who
waits for them. -/
structure AssignTables where
  routes : List ZoneRouteState
  requests : List PendingZoneAssignRequest
  requestIdByMapKey : Table UInt64 UInt64
  nextRequestId : UInt64
  enters : List PendingEnterWorldFinalize
  portals : List PendingPortalTransfer

/-- The board of a flow. -/
def EnterFlow.assignTables (f : EnterFlow) : AssignTables where
  routes := f.zoneRoutes
  requests := f.pendingZoneAssign
  requestIdByMapKey := f.pendingZoneAssignRequestIdByMapKey
  nextRequestId := f.nextZoneAssignRequestId
  enters := f.pendingEnterWorldFinalize
  portals := f.pendingPortalTransfer

/-- What the handlers do to the board. -/
inductive AssignOp where
  /-- A request is sent to a zone. -/
  | send (a : PendingZoneAssignRequest)
  /-- A request could not be sent: its id is used up, its records are taken back. -/
  | takeBack (mapKey : UInt64)
  | parkEnter (e : PendingEnterWorldFinalize)
  | parkPortal (p : PendingPortalTransfer)
  /-- A transfer to an assigned map completes without waiting. -/
  | completeNow (p : PendingPortalTransfer)
  /-- A request is answered or its zone is gone: whoever waits is served. -/
  | conclude (a : PendingZoneAssignRequest)
  /-- The parked enters of a connection are dropped. -/
  | unpark (sid serial : UInt32)
  /-- A request whose last parked enter was dropped goes too. -/
  | orphan (a : PendingZoneAssignRequest)
  | timeOut (p : PendingPortalTransfer)
  | setRoutes (routes : List ZoneRouteState)
  /-- A hash table is rehashed. -/
  | reorder (requests : List PendingZoneAssignRequest)

namespace AssignTables

/-- A request leaves the board. -/
def drop (t : AssignTables) (a : PendingZoneAssignRequest) : AssignTables :=
  { t with
    requests := t.requests.filter (·.requestId ≠ a.requestId)
    requestIdByMapKey := t.requestIdByMapKey.erase a.mapKey }

end AssignTables

namespace AssignOp

variable {t : AssignTables}

def apply (t : AssignTables) : AssignOp → AssignTables
  | .send a =>
      { t with
        requests := upsertBy (·.requestId) a t.requests
        requestIdByMapKey := t.requestIdByMapKey.set a.mapKey a.requestId
        nextRequestId := t.nextRequestId + 1 }
  | .takeBack mapKey =>
      { t with
        requests := t.requests.filter (·.requestId ≠ t.nextRequestId)
        requestIdByMapKey := t.requestIdByMapKey.erase mapKey
        nextRequestId := t.nextRequestId + 1 }
  | .parkEnter e => { t with enters := t.enters ++ [e] }
  | .parkPortal p => { t with portals := upsertBy (·.assignRequestId) p t.portals }
  | .completeNow _ => t
  | .conclude a =>
      { t.drop a with
        enters := t.enters.filter (·.assignRequestId ≠ a.requestId)
        portals := t.portals.filter (·.assignRequestId ≠ a.requestId) }
  | .unpark sid serial =>
      { t with enters := t.enters.filter fun e => !e.enterPending.isOf sid serial }
  | .orphan a => t.drop a
  | .timeOut p => { t with portals := t.portals.filter (·.assignRequestId ≠ p.assignRequestId) }
  | .setRoutes routes => { t with routes }
  | .reorder requests => { t with requests }

/-- The transfers an operation gives an outcome to. -/
def settled (t : AssignTables) : AssignOp → List PendingPortalTransfer
  | .completeNow p => [p]
  | .conclude a => (t.portals.find? (·.assignRequestId == a.requestId)).toList
  | .timeOut p => [p]
  | _ => []

/-- When the handlers use an operation. -/
def Enabled (t : AssignTables) : AssignOp → Prop
  | .send a =>
      t.requestIdByMapKey a.mapKey = none ∧ a.requestId = t.nextRequestId ∧
        ∃ route ∈ t.routes, route.sid = a.targetSid ∧ route.serial = a.targetSerial
  | .takeBack mapKey => t.requestIdByMapKey mapKey = none
  | .parkEnter e => t.requestIdByMapKey e.mapKey = some e.assignRequestId
  | .parkPortal p => t.requestIdByMapKey p.mapKey = some p.assignRequestId
  | .conclude a => a ∈ t.requests
  | .orphan a => a ∈ t.requests ∧ ∀ e ∈ t.enters, e.assignRequestId ≠ a.requestId
  | .timeOut p => p ∈ t.portals
  | .setRoutes routes => (routes.map (·.sid)).Nodup
  | .reorder requests => requests.Perm t.requests
  | .completeNow _ | .unpark .. => True

end AssignOp

/-! ## One record per key -/

/-- The tables keyed by request id and by slot have one record per key. -/
structure AssignTables.Keyed (t : AssignTables) : Prop where
  requests : (t.requests.map (·.requestId)).Nodup
  portals : (t.portals.map (·.assignRequestId)).Nodup
  routes : (t.routes.map (·.sid)).Nodup

theorem AssignTables.Keyed.request_inj {t : AssignTables} (h : t.Keyed)
    {a b : PendingZoneAssignRequest} (ha : a ∈ t.requests) (hb : b ∈ t.requests)
    (hid : a.requestId = b.requestId) : a = b :=
  List.inj_on_of_nodup_map h.requests ha hb hid

/-- One operation at a time: ids stay keys. -/
theorem AssignTables.Keyed.apply {t : AssignTables} (h : t.Keyed) {op : AssignOp}
    (hop : op.Enabled t) : (op.apply t).Keyed := by
  cases op with
  | send a => exact ⟨nodup_map_upsertBy h.requests, h.portals, h.routes⟩
  | takeBack mapKey => exact ⟨nodup_map_filter h.requests, h.portals, h.routes⟩
  | parkEnter e => exact ⟨h.requests, h.portals, h.routes⟩
  | parkPortal p => exact ⟨h.requests, nodup_map_upsertBy h.portals, h.routes⟩
  | completeNow p => exact h
  | conclude a => exact ⟨nodup_map_filter h.requests, nodup_map_filter h.portals, h.routes⟩
  | unpark sid serial => exact ⟨h.requests, h.portals, h.routes⟩
  | orphan a => exact ⟨nodup_map_filter h.requests, h.portals, h.routes⟩
  | timeOut p => exact ⟨h.requests, nodup_map_filter h.portals, h.routes⟩
  | setRoutes routes => exact ⟨h.requests, h.portals, hop⟩
  | reorder requests =>
      have hperm : requests.Perm t.requests := hop
      exact ⟨(hperm.map _).nodup_iff.mpr h.requests, h.portals, h.routes⟩

/-! ## The bijection -/

/-- The outstanding requests, the index by map key and the waiting enters
agree. -/
structure AssignTables.InBijection (t : AssignTables) : Prop where
  entry_iff : ∀ r m, (∃ a ∈ t.requests, a.requestId = r ∧ a.mapKey = m) ↔
    t.requestIdByMapKey m = some r
  one_per_map : ∀ a ∈ t.requests, ∀ b ∈ t.requests, a.mapKey = b.mapKey → a = b
  waits : ∀ e ∈ t.enters, ∃ a ∈ t.requests, a.requestId = e.assignRequestId

/-- The id the counter gives next is not the id of an outstanding request. -/
def AssignTables.NextIdFree (t : AssignTables) : Prop :=
  ∀ a ∈ t.requests, a.requestId ≠ t.nextRequestId

/-- The operation draws no id that is still in use. -/
def AssignOp.DrawsFreeId (t : AssignTables) : AssignOp → Prop
  | .send _ | .takeBack _ => t.NextIdFree
  | _ => True

namespace AssignTables.InBijection

variable {t : AssignTables}

theorem entry (h : t.InBijection) {a : PendingZoneAssignRequest} (ha : a ∈ t.requests) :
    t.requestIdByMapKey a.mapKey = some a.requestId :=
  (h.entry_iff a.requestId a.mapKey).mp ⟨a, ha, rfl, rfl⟩

/-- The index decides which requests are outstanding, so it also makes them
unique. -/
theorem of_entry_iff (hkeyed : t.Keyed)
    (hiff : ∀ r m, (∃ a ∈ t.requests, a.requestId = r ∧ a.mapKey = m) ↔
      t.requestIdByMapKey m = some r)
    (hwaits : ∀ e ∈ t.enters, ∃ a ∈ t.requests, a.requestId = e.assignRequestId) :
    t.InBijection := by
  refine ⟨hiff, fun a ha b hb hkey => ?_, hwaits⟩
  have hentryA := (hiff a.requestId a.mapKey).mp ⟨a, ha, rfl, rfl⟩
  have hentryB := (hiff b.requestId b.mapKey).mp ⟨b, hb, rfl, rfl⟩
  rw [hkey, hentryB] at hentryA
  exact hkeyed.request_inj ha hb (Option.some.inj hentryA).symm

/-- A request leaves together with its entry, if nobody is left waiting. -/
theorem drop (h : t.InBijection) (hkeyed : t.Keyed) {a : PendingZoneAssignRequest}
    (ha : a ∈ t.requests) {enters : List PendingEnterWorldFinalize} (hsub : enters ⊆ t.enters)
    (hgone : ∀ e ∈ enters, e.assignRequestId ≠ a.requestId)
    {portals : List PendingPortalTransfer} (hportals : (portals.map (·.assignRequestId)).Nodup) :
    InBijection { t.drop a with enters, portals } := by
  refine of_entry_iff ⟨nodup_map_filter hkeyed.requests, hportals, hkeyed.routes⟩ ?_ ?_
  · intro r m
    simp only [AssignTables.drop, Table.erase_eq_some_iff, ← h.entry_iff, List.mem_filter,
      decide_eq_true_eq]
    constructor
    · rintro ⟨b, ⟨hb, hne⟩, rfl, rfl⟩
      refine ⟨fun hkey => hne ?_, b, hb, rfl, rfl⟩
      rw [h.one_per_map b hb a ha hkey]
    · rintro ⟨hkey, b, hb, rfl, rfl⟩
      refine ⟨b, ⟨hb, fun hid => hkey ?_⟩, rfl, rfl⟩
      rw [hkeyed.request_inj hb ha hid]
  · intro e he
    obtain ⟨b, hb, hid⟩ := h.waits e (hsub he)
    refine ⟨b, ?_, hid⟩
    simp only [AssignTables.drop, List.mem_filter, decide_eq_true_eq]
    exact ⟨hb, hid ▸ hgone e he⟩

/-- A new request and the entry of its map key. -/
theorem send (h : t.InBijection) (hkeyed : t.Keyed) {a : PendingZoneAssignRequest}
    (hop : (AssignOp.send a).Enabled t) (hfree : t.NextIdFree) :
    ((AssignOp.send a).apply t).InBijection := by
  have hkeyed' := hkeyed.apply hop
  obtain ⟨hnone, hid, -⟩ := hop
  -- no record is replaced, so the requests are the old ones and `a`
  have hmem : ∀ b, b ∈ upsertBy (·.requestId) a t.requests ↔ b ∈ t.requests ∨ b = a := by
    intro b
    refine ⟨mem_upsertBy, fun hb => ?_⟩
    rw [upsertBy, List.mem_append, List.mem_filter, List.mem_singleton]
    refine hb.imp (fun hold => ⟨hold, ?_⟩) id
    rw [hid]
    exact decide_eq_true (hfree b hold)
  refine of_entry_iff hkeyed' ?_ ?_
  · intro r m
    simp only [AssignOp.apply, hmem, Table.set_apply]
    split
    next hm =>
      subst hm
      constructor
      · rintro ⟨b, hb | rfl, rfl, hkey⟩
        · rw [← hkey, h.entry hb] at hnone
          cases hnone
        · rfl
      · intro hr
        exact ⟨a, .inr rfl, Option.some.inj hr, rfl⟩
    next hm =>
      rw [← h.entry_iff]
      constructor
      · rintro ⟨b, hb | rfl, rfl, rfl⟩
        · exact ⟨b, hb, rfl, rfl⟩
        · exact absurd rfl hm
      · rintro ⟨b, hb, hr⟩
        exact ⟨b, .inl hb, hr⟩
  · intro e he
    obtain ⟨b, hb, hr⟩ := h.waits e he
    exact ⟨b, (hmem b).mpr (.inl hb), hr⟩

/-- **Every operation keeps the bijection** unless it draws an id that is
still in use. -/
theorem apply (h : t.InBijection) (hkeyed : t.Keyed) {op : AssignOp} (hop : op.Enabled t)
    (hfree : op.DrawsFreeId t) : (op.apply t).InBijection := by
  cases op with
  | send a => exact h.send hkeyed hop hfree
  | takeBack mapKey =>
      have hfree : t.NextIdFree := hfree
      have hnone : t.requestIdByMapKey mapKey = none := hop
      have hrequests : t.requests.filter (·.requestId ≠ t.nextRequestId) = t.requests :=
        List.filter_eq_self.mpr fun a ha => decide_eq_true (hfree a ha)
      have hindex : t.requestIdByMapKey.erase mapKey = t.requestIdByMapKey :=
        Table.erase_of_eq_none hnone
      simp only [AssignOp.apply, hrequests, hindex]
      exact ⟨h.entry_iff, h.one_per_map, h.waits⟩
  | parkEnter e =>
      refine ⟨h.entry_iff, h.one_per_map, fun e' he' => ?_⟩
      cases List.mem_append.mp he' with
      | inl hold => exact h.waits e' hold
      | inr hnew =>
          rw [List.mem_singleton.mp hnew]
          obtain ⟨a, ha, hid, -⟩ := (h.entry_iff _ _).mpr hop
          exact ⟨a, ha, hid⟩
  | conclude a =>
      refine h.drop hkeyed hop (List.filter_subset_self _) (fun e he => ?_)
        (nodup_map_filter hkeyed.portals)
      exact of_decide_eq_true (List.mem_filter.mp he).2
  | unpark sid serial =>
      exact ⟨h.entry_iff, h.one_per_map, fun e he => h.waits e (List.mem_of_mem_filter he)⟩
  | orphan a => exact h.drop hkeyed hop.1 (List.Subset.refl _) hop.2 hkeyed.portals
  | reorder requests =>
      have hperm : requests.Perm t.requests := hop
      refine ⟨fun r m => ?_, fun a ha b hb => ?_, fun e he => ?_⟩
      · simp only [AssignOp.apply, hperm.mem_iff, h.entry_iff]
      · exact h.one_per_map a (hperm.mem_iff.mp ha) b (hperm.mem_iff.mp hb)
      · obtain ⟨a, ha, hid⟩ := h.waits e he
        exact ⟨a, hperm.mem_iff.mpr ha, hid⟩
  | parkPortal | completeNow | timeOut | setRoutes => exact ⟨h.entry_iff, h.one_per_map, h.waits⟩

end AssignTables.InBijection

end GameServer
