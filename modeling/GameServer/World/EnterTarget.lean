import GameServer.World.Runtime

/-!
# GameServer.World.EnterTarget

The zone connection an enter request is sent to, and the one it is answered
from.

`FinalizeEnterWorldSuccess_` looks up a route twice.  The connection it
records in `pending_zone_player_enter_requests_`, the only one from which
`OnZonePlayerEnterAck` takes an answer, is that of the first route with the
zone id it was given; the packet goes where the map assignment says
(`ResolveZoneRouteForMapInstance_`).  `enterTargetAgrees_iff` says when both
are the same: no assignment leads to a route, or the route it leads to has
that zone id and comes before all others that have it.

A zone answers a map assignment with a zone id made of the map id
(`ResolveGameplayZoneId_`), so the zone id is usually not one of a route at
all: `not_enterTargetAgrees_mapTwo`.
-/

namespace GameServer

namespace WorldRuntime

variable {st : WorldRuntime}

/-! ## The two lookups -/

/-- The route of the process that a map instance is assigned to. -/
def assignedRoute (f : EnterFlow) (mapTemplateId instanceId : UInt32) : Option ZoneRouteState :=
  (f.mapAssignments (EnterFlow.makeMapAssignmentKey mapTemplateId instanceId)).bind fun entry =>
    f.findZoneRouteByServerChannel entry.zoneServerId entry.channelId

/-- The assignment comes first, the zone id is the fallback. -/
theorem resolveZoneRouteForMapInstance_eq (f : EnterFlow) (zoneId : UInt16)
    (mapTemplateId instanceId : UInt32) :
    f.resolveZoneRouteForMapInstance zoneId mapTemplateId instanceId =
      (assignedRoute f mapTemplateId instanceId).or (f.findZoneRouteByZoneId zoneId) := by
  unfold EnterFlow.resolveZoneRouteForMapInstance assignedRoute
  cases f.mapAssignments (EnterFlow.makeMapAssignmentKey mapTemplateId instanceId) with
  | none => rfl
  | some entry =>
      dsimp only [Option.bind_some]
      cases f.findZoneRouteByServerChannel entry.zoneServerId entry.channelId <;> rfl

/-- What the zone line guarantees of the routes: one per slot of the line,
and slot 0 is never handed out. -/
structure RoutesOnSlots (f : EnterFlow) : Prop where
  one_per_slot : (f.zoneRoutes.map (·.sid)).Nodup
  slot_ne_zero : ∀ route ∈ f.zoneRoutes, route.sid ≠ 0

/-- The route has the zone id, and no registered route before it in the table
has. -/
def FirstOfZone (f : EnterFlow) (zoneId : UInt16) (route : ZoneRouteState) : Prop :=
  route.registered = true ∧ route.zoneId = zoneId ∧
    ∃ before after, f.zoneRoutes = before ++ route :: after ∧
      ∀ r ∈ before, r.registered = true → r.zoneId ≠ zoneId

/-- The route of a zone id is the first registered one that has it. -/
theorem findZoneRouteByZoneId_eq_some_iff {f : EnterFlow} {zoneId : UInt16}
    {route : ZoneRouteState} :
    f.findZoneRouteByZoneId zoneId = some route ↔ FirstOfZone f zoneId route := by
  simp only [EnterFlow.findZoneRouteByZoneId, List.find?_eq_some_iff_append, FirstOfZone,
    Bool.and_eq_true, beq_iff_eq, and_assoc]
  constructor
  · rintro ⟨hreg, hzone, before, after, hroutes, hnone⟩
    refine ⟨hreg, hzone, before, after, hroutes, fun r hr hregr heq => ?_⟩
    simpa [hregr, heq] using hnone r hr
  · rintro ⟨hreg, hzone, before, after, hroutes, hnone⟩
    refine ⟨hreg, hzone, before, after, hroutes, fun r hr => ?_⟩
    by_cases hregr : r.registered = true
    · simp [hregr, hnone r hr hregr]
    · simp [hregr]

/-! ## What is recorded -/

/-- The connection recorded for the answer: `(0, 0)` if no route has the zone
id. -/
def recordedTarget (f : EnterFlow) (zoneId : UInt16) : UInt32 × UInt32 :=
  ((f.findZoneRouteByZoneId zoneId).map fun route => (route.sid, route.serial)).getD (0, 0)

/-- With one route per slot, the recorded connection is that of a route only
if the lookup found this route. -/
theorem recordedTarget_eq_iff {f : EnterFlow} (hslots : RoutesOnSlots f) {zoneId : UInt16}
    {dest : ZoneRouteState} (hdest : dest ∈ f.zoneRoutes) :
    recordedTarget f zoneId = (dest.sid, dest.serial) ↔
      f.findZoneRouteByZoneId zoneId = some dest := by
  unfold recordedTarget
  cases hfind : f.findZoneRouteByZoneId zoneId with
  | none =>
      have hne : (0 : UInt32) ≠ dest.sid := fun h => hslots.slot_ne_zero dest hdest h.symm
      simp [hne]
  | some route =>
      have hroute : route ∈ f.zoneRoutes := List.mem_of_find?_eq_some hfind
      simp only [Option.map_some, Option.getD_some, Prod.mk.injEq, Option.some.injEq]
      constructor
      · rintro ⟨hsid, -⟩
        exact List.inj_on_of_nodup_map hslots.one_per_slot hroute hdest hsid
      · rintro rfl
        exact ⟨rfl, rfl⟩

/-- The request `FinalizeEnterWorldSuccess_` leaves behind when the packet is
sent. -/
theorem pendingZonePlayerEnter_finalize (st : WorldRuntime)
    (pending : PendingEnterWorldConsumeRequest) {zoneId : UInt16}
    {mapTemplateId instanceId : UInt32} (coreState : CharacterCoreState) {dest : ZoneRouteState}
    (hdest : st.flow.resolveZoneRouteForMapInstance zoneId mapTemplateId instanceId = some dest) :
    ∃ enter : PendingZonePlayerEnterRequest,
      enter.requestId = st.flow.nextZonePlayerEnterRequestId ∧
      (enter.targetSid, enter.targetSerial) = recordedTarget st.flow zoneId ∧
      (st.finalizeEnterWorldSuccess pending zoneId mapTemplateId instanceId coreState
        true).flow.pendingZonePlayerEnter =
        upsertBy (·.requestId) enter st.flow.pendingZonePlayerEnter := by
  have hsent : (EnterFlow.resolveZoneRouteForMapInstance
      { st.flow with
        nextZonePlayerEnterRequestId := st.flow.nextZonePlayerEnterRequestId + 1 }
      zoneId mapTemplateId instanceId).isSome = true := by
    change (st.flow.resolveZoneRouteForMapInstance zoneId mapTemplateId instanceId).isSome = true
    rw [hdest]
    rfl
  unfold finalizeEnterWorldSuccess
  simp only [hsent, Bool.and_self, if_true]
  refine ⟨_, ?_, ?_, rfl⟩
  · split <;> rfl
  · unfold recordedTarget
    change _ = ((EnterFlow.findZoneRouteByZoneId { st.flow with
      nextZonePlayerEnterRequestId := st.flow.nextZonePlayerEnterRequestId + 1 } zoneId).map
        fun route => (route.sid, route.serial)).getD (0, 0)
    split
    next hnone => rw [hnone]; rfl
    next route hroute => rw [hroute]; rfl

/-! ## Who can answer -/

/-- The rollback leaves the pending enters alone. -/
theorem flow_rollbackBoundEnterWorld (st : WorldRuntime)
    (pending : PendingEnterWorldConsumeRequest) (leaveCtx : Option LeaveWorldContext) :
    (st.rollbackBoundEnterWorld pending leaveCtx).flow = st.flow := by
  unfold rollbackBoundEnterWorld
  cases leaveCtx with
  | none =>
      simp only [cleanupClosedWorldSessionActors]
      split <;> rfl
  | some ctx =>
      simp only [beginLeaveWorld]
      split <;> rfl

theorem flow_rollbackAndFail (st : WorldRuntime) (pending : PendingEnterWorldConsumeRequest)
    (reason : EnterWorldResultCode) : (st.rollbackAndFail pending reason).flow = st.flow := by
  have hrollback := flow_rollbackBoundEnterWorld st pending none
  rw [← hrollback]
  rfl

/-- So does completing an enter, whose record is taken before. -/
theorem flow_completeEnterWorldSuccessAfterZoneAck (st : WorldRuntime)
    (enter : PendingZonePlayerEnterRequest) (notified : Bool) (bytes : Vector UInt8 32) :
    (st.completeEnterWorldSuccessAfterZoneAck enter notified bytes).flow = st.flow := by
  unfold completeEnterWorldSuccessAfterZoneAck
  extract_lets pending promoted st₁ st₂ st₃ leaveCtx st₄
  have hcached : st₃.flow = st.flow := by
    unfold st₃
    split <;> rfl
  split
  · rfl
  · split
    · have hrollback := flow_rollbackBoundEnterWorld st₃ pending (some leaveCtx)
      rw [← hcached, ← hrollback]
      rfl
    · exact hcached

/-- An answer from the recorded connection is taken, whatever it says. -/
theorem taken_onZonePlayerEnterAck {enter : PendingZonePlayerEnterRequest}
    (hfind : st.flow.pendingZonePlayerEnter.find? (·.requestId == enter.requestId) = some enter)
    (ack : ZonePlayerEnterAck) (hid : ack.requestId = enter.requestId) (notified : Bool)
    (bytes : Vector UInt8 32) :
    (st.onZonePlayerEnterAck enter.targetSid enter.targetSerial ack notified
      bytes).flow.pendingZonePlayerEnter =
      st.flow.pendingZonePlayerEnter.filter (·.requestId ≠ enter.requestId) := by
  have hcheck : ¬ (enter.targetSid ≠ enter.targetSid ∨
      enter.targetSerial ≠ enter.targetSerial) := by simp
  simp only [onZonePlayerEnterAck, hid, hfind, if_neg hcheck]
  split_ifs
  · rfl
  · rw [flow_rollbackAndFail]
  · rw [flow_rollbackAndFail]
  · rw [flow_completeEnterWorldSuccessAfterZoneAck]

/-- Losing a zone connection drops the requests recorded for it. -/
theorem mem_failZonePlayerEnters {dropped : PendingZonePlayerEnterRequest → Bool}
    {reason : EnterWorldResultCode} {enter : PendingZonePlayerEnterRequest}
    (h : enter ∈ (st.failZonePlayerEnters dropped reason).flow.pendingZonePlayerEnter) :
    enter ∈ st.flow.pendingZonePlayerEnter ∧ dropped enter = false := by
  unfold failZonePlayerEnters at h
  have hpass : ∀ (l : List PendingZonePlayerEnterRequest) (st : WorldRuntime),
      enter ∈ (l.foldl (fun st enter =>
        let p := enter.enterPending
        let st :=
          { st with
            flow := { st.flow with
              pendingZonePlayerEnter :=
                st.flow.pendingZonePlayerEnter.filter (·.requestId ≠ enter.requestId) } }
        if st.reg.isEnterWorldSessionPending p.sid p.serial p.charId then st.rollbackAndFail p reason
        else st) st).flow.pendingZonePlayerEnter →
      enter ∈ st.flow.pendingZonePlayerEnter ∧ enter ∉ l := by
    intro l
    induction l with
    | nil => exact fun st h => ⟨h, nofun⟩
    | cons e l ih =>
        intro st h
        obtain ⟨hmem, hrest⟩ := ih _ h
        have hfilter : enter ∈ st.flow.pendingZonePlayerEnter.filter (·.requestId ≠ e.requestId) := by
          dsimp only at hmem
          split at hmem
          · rw [flow_rollbackAndFail] at hmem
            exact hmem
          · exact hmem
        obtain ⟨hst, hne⟩ := List.mem_filter.mp hfilter
        refine ⟨hst, fun hin => ?_⟩
        cases List.mem_cons.mp hin with
        | inl heq => exact of_decide_eq_true hne (heq ▸ rfl)
        | inr hin => exact hrest hin
  obtain ⟨hst, hnot⟩ := hpass _ st h
  refine ⟨hst, ?_⟩
  cases hd : dropped enter with
  | false => rfl
  | true => exact absurd (List.mem_filter.mpr ⟨hst, hd⟩) hnot

/-! ## Agreement -/

/-- The enter request sent to `dest` is recorded for `dest`: an answer of
`dest` is taken, and the loss of its connection ends the request. -/
structure EnterTargetAgrees (st : WorldRuntime) (pending : PendingEnterWorldConsumeRequest)
    (zoneId : UInt16) (mapTemplateId instanceId : UInt32) (coreState : CharacterCoreState)
    (dest : ZoneRouteState) : Prop where
  recorded : ∃ enter ∈ (st.finalizeEnterWorldSuccess pending zoneId mapTemplateId instanceId
      coreState true).flow.pendingZonePlayerEnter,
    enter.requestId = st.flow.nextZonePlayerEnterRequestId ∧
      enter.targetSid = dest.sid ∧ enter.targetSerial = dest.serial
  acked : ∀ ack notified bytes, ack.requestId = st.flow.nextZonePlayerEnterRequestId →
    ∀ enter ∈ ((st.finalizeEnterWorldSuccess pending zoneId mapTemplateId instanceId coreState
      true).onZonePlayerEnterAck dest.sid dest.serial ack notified
      bytes).flow.pendingZonePlayerEnter,
    enter.requestId ≠ st.flow.nextZonePlayerEnterRequestId
  lost : ∀ enter ∈ ((st.finalizeEnterWorldSuccess pending zoneId mapTemplateId instanceId
      coreState true).failPendingZonePlayerEnterRequestsByZoneSid
      dest.sid).flow.pendingZonePlayerEnter,
    enter.requestId ≠ st.flow.nextZonePlayerEnterRequestId

/-- What is recorded for the destination is answered by it and goes with it. -/
theorem enterTargetAgrees_of_recordedTarget (st : WorldRuntime)
    (pending : PendingEnterWorldConsumeRequest) {zoneId : UInt16}
    {mapTemplateId instanceId : UInt32} (coreState : CharacterCoreState) {dest : ZoneRouteState}
    (hdest : st.flow.resolveZoneRouteForMapInstance zoneId mapTemplateId instanceId = some dest)
    (h : recordedTarget st.flow zoneId = (dest.sid, dest.serial)) :
    EnterTargetAgrees st pending zoneId mapTemplateId instanceId coreState dest := by
  obtain ⟨enter, hid, htarget, hpending⟩ :=
    pendingZonePlayerEnter_finalize st pending coreState hdest
  obtain ⟨hsid, hserial⟩ := Prod.mk.inj (htarget.trans h)
  -- the request is the only one under its id
  have honly : ∀ e ∈ upsertBy (·.requestId) enter st.flow.pendingZonePlayerEnter,
      e.requestId = enter.requestId → e = enter := by
    intro e he heq
    rw [upsertBy, List.mem_append, List.mem_filter, List.mem_singleton] at he
    rcases he with ⟨-, hne⟩ | rfl
    · exact absurd heq (of_decide_eq_true hne)
    · rfl
  have hmem : enter ∈ upsertBy (·.requestId) enter st.flow.pendingZonePlayerEnter :=
    List.mem_append_right _ (List.mem_singleton_self enter)
  refine ⟨⟨enter, hpending ▸ hmem, hid, hsid, hserial⟩, fun ack notified bytes hack e he => ?_,
    fun e he heq => ?_⟩
  · have hfind : (st.finalizeEnterWorldSuccess pending zoneId mapTemplateId instanceId coreState
        true).flow.pendingZonePlayerEnter.find? (·.requestId == enter.requestId) = some enter := by
      rw [hpending]
      cases hf : (upsertBy (·.requestId) enter st.flow.pendingZonePlayerEnter).find?
          (·.requestId == enter.requestId) with
      | none => simpa using List.find?_eq_none.mp hf enter hmem
      | some e =>
          have heq : e.requestId = enter.requestId := by simpa using List.find?_some hf
          rw [honly e (List.mem_of_find?_eq_some hf) heq]
    rw [← hsid, ← hserial, taken_onZonePlayerEnterAck hfind ack (hack.trans hid.symm) notified
      bytes] at he
    rw [← hid]
    exact of_decide_eq_true (List.mem_filter.mp he).2
  · obtain ⟨hold, hkept⟩ := mem_failZonePlayerEnters he
    rw [hpending] at hold
    rw [honly e hold (heq.trans hid.symm), hsid] at hkept
    simp at hkept

/-- **The recorded connection is the one the packet was sent to** exactly if
no assignment of the map instance leads to a route, or the route it leads to
is the first with the zone id. -/
theorem enterTargetAgrees_iff (st : WorldRuntime) (hslots : RoutesOnSlots st.flow)
    (pending : PendingEnterWorldConsumeRequest) (zoneId : UInt16)
    (mapTemplateId instanceId : UInt32) (coreState : CharacterCoreState) (dest : ZoneRouteState)
    (hdest : st.flow.resolveZoneRouteForMapInstance zoneId mapTemplateId instanceId = some dest) :
    EnterTargetAgrees st pending zoneId mapTemplateId instanceId coreState dest ↔
      ∀ route, assignedRoute st.flow mapTemplateId instanceId = some route →
        FirstOfZone st.flow zoneId route := by
  have hresolve := hdest
  rw [resolveZoneRouteForMapInstance_eq, Option.or_eq_some_iff] at hresolve
  have hmem : dest ∈ st.flow.zoneRoutes := by
    rcases hresolve with hassigned | ⟨-, hzone⟩
    · obtain ⟨entry, -, hfind⟩ := Option.bind_eq_some_iff.mp hassigned
      exact List.mem_of_find?_eq_some hfind
    · exact List.mem_of_find?_eq_some hzone
  constructor
  · intro h route hroute
    obtain ⟨enter, hid, htarget, hpending⟩ :=
      pendingZonePlayerEnter_finalize st pending coreState hdest
    obtain ⟨e, he, hide, hsid, hserial⟩ := h.recorded
    rw [hpending, upsertBy, List.mem_append, List.mem_filter, List.mem_singleton] at he
    rcases he with ⟨-, hne⟩ | rfl
    · exact absurd (hide.trans hid.symm) (of_decide_eq_true hne)
    rw [hsid, hserial] at htarget
    have hfound := (recordedTarget_eq_iff hslots hmem).mp htarget.symm
    have hsame : dest = route := by
      rcases hresolve with hassigned | ⟨hnone, -⟩
      · exact Option.some.inj (hassigned.symm.trans hroute)
      · rw [hnone] at hroute
        cases hroute
    rw [← hsame]
    exact findZoneRouteByZoneId_eq_some_iff.mp hfound
  · intro h
    refine enterTargetAgrees_of_recordedTarget st pending coreState hdest ?_
    refine (recordedTarget_eq_iff hslots hmem).mpr ?_
    rcases hresolve with hassigned | ⟨-, hzone⟩
    · exact findZoneRouteByZoneId_eq_some_iff.mpr (h dest hassigned)
    · exact hzone

/-! ## One zone process, two maps -/

/-- The route of zone process 1. -/
def routeOfZoneOne : ZoneRouteState where
  sid := 5
  serial := 1
  serverId := 1
  zoneId := 1
  channelId := 1

/-- Zone process 1 was asked to open a map for character 11, and answered
with the zone id it makes of the map id. -/
def mapOpened (mapId : UInt32) : WorldRuntime :=
  let core := makeDefaultCharacterCoreState 100 11
  run (step none) initial
    (zoneUp :: connect 1 1 ++ askToEnter 1 1 100 11 0 ++
      [.snapshotResult ⟨2, true, true, { core with
         hot := { core.hot with position := { core.hot.position with mapId } } }⟩
         ⟨.replicate 32 0, true, true⟩,
       .zoneMapAssignResponse 5 1 ⟨1, .ok, mapId.toUInt16, mapId, 0⟩ fun _ => true])

/-- Character 22 enters next. -/
def nextEnter : PendingEnterWorldConsumeRequest where
  requestId := 3
  sid := 2
  serial := 1
  accountId := 200
  charId := 22
  loginSession := "login"
  worldToken := "ticket"

/-- On map 1, whose zone id is the route's, the request is recorded for the
zone it is sent to. -/
theorem enterTargetAgrees_mapOne :
    EnterTargetAgrees (mapOpened 1) nextEnter 1 1 0 (makeDefaultCharacterCoreState 200 22)
      routeOfZoneOne := by
  have hdest : (mapOpened 1).flow.resolveZoneRouteForMapInstance 1 1 0 = some routeOfZoneOne := by
    decide
  have hassigned : assignedRoute (mapOpened 1).flow 1 0 = some routeOfZoneOne := by decide
  refine (enterTargetAgrees_iff _ ⟨by decide, by decide⟩ _ _ _ _ _ _ hdest).mpr
    fun route hroute => ?_
  rw [hassigned] at hroute
  cases hroute
  exact findZoneRouteByZoneId_eq_some_iff.mp (by decide)

/-- On map 2 no route has the zone id of the assignment: the request is sent
to zone process 1 and recorded for nobody. -/
theorem not_enterTargetAgrees_mapTwo :
    (mapOpened 2).flow.resolveZoneRouteForMapInstance 2 2 0 = some routeOfZoneOne ∧
      ¬ EnterTargetAgrees (mapOpened 2) nextEnter 2 2 0 (makeDefaultCharacterCoreState 200 22)
        routeOfZoneOne := by
  refine ⟨by decide, fun h => ?_⟩
  have hnobody : ∀ enter ∈ ((mapOpened 2).finalizeEnterWorldSuccess nextEnter 2 2 0
      (makeDefaultCharacterCoreState 200 22) true).flow.pendingZonePlayerEnter,
      enter.targetSid ≠ routeOfZoneOne.sid := by decide
  obtain ⟨enter, henter, -, hsid, -⟩ := h.recorded
  exact hnobody enter henter hsid

end WorldRuntime

end GameServer
