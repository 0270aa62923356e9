import GameServer.World.MapAssign
import GameServer.World.RoutingFrame

/-!
# GameServer.World.AssignedServers

Whether the map assignments name zones that are there.

An assignment keeps the server id its zone had when the map was asked for; a
route is kept by connection, and its server id is rewritten by every
registration on its slot and by every heartbeat.  When a zone is lost, the
assignments that name its server id at that moment go.  So an assignment is
left behind when the id of its zone is rewritten in between.

* `KeepsNames` — what a step must not do;
* `assignmentsNamed_run_iff` — the assignments name registered zones all
  along a run precisely if no step does it.
-/

namespace GameServer

namespace WorldRuntime

variable {st : WorldRuntime} {routes routes' : List ZoneRouteState}
  {assignments : Table UInt64 MapAssignmentEntry}

/-- Every assignment names the server of a registered zone. -/
def AssignmentsNamed (t : List ZoneRouteState × Table UInt64 MapAssignmentEntry) : Prop :=
  ∀ key entry, t.2 key = some entry → ∃ route ∈ t.1, route.serverId = entry.zoneServerId

/-- The routes that satisfy `p` are given the server id `serverId`: no
assignment names a server id that is lost by this. -/
def RenamesFreely (t : List ZoneRouteState × Table UInt64 MapAssignmentEntry)
    (p : ZoneRouteState → Prop) (serverId : UInt32) : Prop :=
  ∀ route ∈ t.1, p route → route.serverId ≠ serverId →
    ∀ key entry, t.2 key = some entry → entry.zoneServerId = route.serverId →
      ∃ other ∈ t.1, ¬p other ∧ other.serverId = route.serverId

/-- A registration or heartbeat changes no server id that an assignment
needs, and a map is accepted only while the server it was asked of is
registered. -/
def KeepsNames (st : WorldRuntime) : Event → Prop
  | .registerZoneRoute hello =>
      RenamesFreely st.routing (fun route => route.sid = hello.sid) hello.serverId
  | .zoneRouteHeartbeat beat =>
      RenamesFreely st.routing (fun route => route.sid = beat.sid ∧ route.serial = beat.serial)
        beat.serverId
  | .zoneMapAssignResponse sid serial res _ =>
      ∀ assign, st.acceptedAssign sid serial res = some assign →
        ∃ route ∈ st.flow.zoneRoutes, route.serverId = assign.targetZoneServerId
  | _ => True

/-! ## Steps -/

@[simp] theorem applyTopology_serverId (topology : Option ServerTopology) (route : ZoneRouteState) :
    (EnterFlow.applyTopology topology route).serverId = route.serverId := by
  unfold EnterFlow.applyTopology
  split <;> rfl

/-- Routes that are renamed, seen through their server ids. -/
theorem assignmentsNamed_rename_iff {p : ZoneRouteState → Prop} {serverId : UInt32} {Q : Prop}
    (h : AssignmentsNamed (routes, assignments))
    (hids : ∀ id, (∃ route ∈ routes', route.serverId = id) ↔
      (∃ route ∈ routes, ¬p route ∧ route.serverId = id) ∨ Q ∧ serverId = id)
    (hQ : ∀ route ∈ routes, p route → Q) :
    AssignmentsNamed (routes', assignments) ↔ RenamesFreely (routes, assignments) p serverId := by
  constructor
  · intro h' route _ _ hne key entry hentry hname
    rcases (hids _).mp (h' key entry hentry) with ⟨other, hother, hp, hid⟩ | ⟨-, hid⟩
    · exact ⟨other, hother, hp, hid.trans hname⟩
    · exact absurd (hid.trans hname).symm hne
  · intro hfree key entry hentry
    obtain ⟨route, hroute, hid⟩ := h key entry hentry
    refine (hids _).mpr ?_
    by_cases hp : p route
    · by_cases hne : route.serverId = serverId
      · exact .inr ⟨hQ route hroute hp, hne.symm.trans hid⟩
      · obtain ⟨other, hother, hp', hid'⟩ :=
          hfree route hroute hp hne key entry hentry hid.symm
        exact .inl ⟨other, hother, hp', hid'.trans hid⟩
    · exact .inl ⟨route, hroute, hp, hid⟩

/-- A hello keeps the names exactly if it renames freely. -/
theorem assignmentsNamed_registerZoneRoute_iff (topology : Option ServerTopology)
    (hello : ZoneRouteState) (h : AssignmentsNamed st.routing) :
    AssignmentsNamed (st.flow.registerZoneRoute topology hello).routing ↔
      RenamesFreely st.routing (fun route => route.sid = hello.sid) hello.serverId := by
  refine assignmentsNamed_rename_iff (Q := True) h (fun id => ?_) fun _ _ _ => trivial
  simp only [EnterFlow.registerZoneRoute, upsertBy, List.mem_append, List.mem_filter,
    List.mem_singleton, or_and_right, exists_or, exists_eq_left, applyTopology_serverId,
    applyTopology_sid, decide_eq_true_eq, and_assoc, ne_eq, true_and]

/-- So does a heartbeat. -/
theorem assignmentsNamed_onZoneRouteHeartbeat_iff (topology : Option ServerTopology)
    (beat : ZoneRouteState) (h : AssignmentsNamed st.routing) :
    AssignmentsNamed (st.flow.onZoneRouteHeartbeat topology beat).routing ↔
      RenamesFreely st.routing (fun route => route.sid = beat.sid ∧ route.serial = beat.serial)
        beat.serverId := by
  refine assignmentsNamed_rename_iff
    (Q := ∃ route ∈ st.flow.zoneRoutes, route.sid = beat.sid ∧ route.serial = beat.serial) h
    (fun id => ?_) fun route hroute hp => ⟨route, hroute, hp⟩
  simp only [EnterFlow.onZoneRouteHeartbeat, List.mem_map]
  constructor
  · rintro ⟨_, ⟨route, hroute, rfl⟩, hid⟩
    split at hid
    case isTrue hp =>
      rw [applyTopology_serverId] at hid
      exact .inr ⟨⟨route, hroute, hp⟩, hid⟩
    case isFalse hp => exact .inl ⟨route, hroute, hp, hid⟩
  · rintro (⟨route, hroute, hp, hid⟩ | ⟨⟨route, hroute, hp⟩, hid⟩)
    · exact ⟨_, ⟨route, hroute, rfl⟩, by rwa [if_neg hp]⟩
    · exact ⟨_, ⟨route, hroute, rfl⟩, by rwa [if_pos hp, applyTopology_serverId]⟩

/-- An answer names the server that was asked, which must still have a route. -/
theorem assignmentsNamed_onZoneMapAssignResponse_iff (sid serial : UInt32)
    (res : ZoneMapAssignResponse) (sendOk : UInt64 → Bool) (h : AssignmentsNamed st.routing) :
    AssignmentsNamed (st.onZoneMapAssignResponse sid serial res sendOk).routing ↔
      ∀ assign, st.acceptedAssign sid serial res = some assign →
        ∃ route ∈ st.flow.zoneRoutes, route.serverId = assign.targetZoneServerId := by
  rw [routing_onZoneMapAssignResponse]
  cases haccepted : st.acceptedAssign sid serial res with
  | none => exact iff_of_true h (fun _ => nofun)
  | some assign =>
      simp only [Option.some.injEq, forall_eq']
      constructor
      · intro h'
        exact h' _ (assignedEntry assign res) (Table.set_self ..)
      · intro hroute key entry hentry
        simp only [Table.set_apply] at hentry
        split at hentry
        · rw [← Option.some.inj hentry]
          exact hroute
        · exact h key entry hentry

/-- A zone that is lost takes the assignments of its server along. -/
theorem AssignmentsNamed.loseZoneRoute (h : AssignmentsNamed st.routing)
    (hkeyed : (st.flow.zoneRoutes.map (·.sid)).Nodup) (sid : UInt32) :
    AssignmentsNamed (st.loseZoneRoute sid).routing := by
  rw [routing_loseZoneRoute]
  intro key entry hentry
  dsimp only at hentry ⊢
  unfold EnterFlow.removeMapAssignmentsByZoneSid at hentry
  split at hentry
  next hnone =>
    obtain ⟨route, hroute, hid⟩ := h key entry hentry
    have hsid := List.find?_eq_none.mp hnone route hroute
    exact ⟨route, List.mem_filter.mpr ⟨hroute, by simpa using hsid⟩, hid⟩
  next lost hfind =>
    obtain ⟨hold, hname⟩ := Table.eraseWhere_eq_some_iff.mp hentry
    obtain ⟨route, hroute, hid⟩ := h key entry hold
    refine ⟨route, List.mem_filter.mpr ⟨hroute, decide_eq_true fun hsid => ?_⟩, hid⟩
    have hlost : lost.sid = sid := by simpa using List.find?_some hfind
    have heq : route = lost := List.inj_on_of_nodup_map hkeyed hroute
      (List.mem_of_find?_eq_some hfind) (hsid.trans hlost.symm)
    rw [← hid, heq] at hname
    simp at hname

/-- A lost route takes the assignments of its zone with it. -/
theorem AssignmentsNamed.unregisterZoneRoute (h : AssignmentsNamed st.routing)
    (hkeyed : (st.flow.zoneRoutes.map (·.sid)).Nodup) (sid serial : UInt32) :
    AssignmentsNamed (st.unregisterZoneRoute sid serial).routing := by
  unfold WorldRuntime.unregisterZoneRoute
  split
  · exact h
  split
  · exact h
  · exact h.loseZoneRoute hkeyed sid

/-- So does each route that expires. -/
theorem AssignmentsNamed.expireStaleZoneRoutes (h : AssignmentsNamed st.routing)
    (hkeyed : (st.flow.zoneRoutes.map (·.sid)).Nodup) (sids : List UInt32)
    (enters portals : List UInt64) :
    AssignmentsNamed (st.expireStaleZoneRoutes sids enters portals).routing := by
  have hfold : ∀ (l : List ZoneRouteState) (st : WorldRuntime), AssignmentsNamed st.routing →
      (st.flow.zoneRoutes.map (·.sid)).Nodup →
      AssignmentsNamed (l.foldl (fun st r => st.loseZoneRoute r.sid) st).routing := by
    intro l
    induction l with
    | nil => exact fun _ h _ => h
    | cons lost l ih =>
        intro st h hkeyed
        refine ih _ (h.loseZoneRoute hkeyed lost.sid) ?_
        have hroutes : (st.loseZoneRoute lost.sid).flow.zoneRoutes =
            st.flow.zoneRoutes.filter (·.sid ≠ lost.sid) :=
          congrArg Prod.fst (routing_loseZoneRoute st lost.sid)
        dsimp only
        rw [hroutes]
        exact nodup_map_filter hkeyed
  rw [routing_expireStaleZoneRoutes]
  exact hfold _ st h hkeyed

/-- A step leaves the assignments named precisely if it keeps their names. -/
theorem assignmentsNamed_step_iff (topology : Option ServerTopology)
    (hkeyed : st.flow.assignTables.Keyed) (h : AssignmentsNamed st.routing) (e : Event) :
    AssignmentsNamed (step topology st e).routing ↔ st.KeepsNames e := by
  by_cases he : e.touchesRouting = false
  · rw [routing_step topology st he]
    refine iff_of_true h ?_
    cases e <;> trivial
  cases e with
  | registerZoneRoute hello => exact assignmentsNamed_registerZoneRoute_iff topology hello h
  | zoneRouteHeartbeat beat => exact assignmentsNamed_onZoneRouteHeartbeat_iff topology beat h
  | zoneMapAssignResponse sid serial res sendOk =>
      exact assignmentsNamed_onZoneMapAssignResponse_iff sid serial res sendOk h
  | unregisterZoneRoute sid serial =>
      exact iff_of_true (h.unregisterZoneRoute hkeyed.routes sid serial) trivial
  | expireStaleZoneRoutes routes enters portals =>
      exact iff_of_true (h.expireStaleZoneRoutes hkeyed.routes routes enters portals) trivial
  | rehash routes assigns enters =>
      refine iff_of_true ?_ trivial
      simp only [step]
      split
      next hperm =>
        intro key entry hentry
        obtain ⟨route, hroute, hid⟩ := h key entry hentry
        exact ⟨route, hperm.1.mem_iff.mpr hroute, hid⟩
      next => exact h
  | _ => exact absurd rfl he

/-- **Map assignments name registered zones** all along a run precisely if
every registration and heartbeat leaves the server ids alone that assignments
name, and every map is accepted while the server it was asked of is
registered. -/
theorem assignmentsNamed_run_iff (topology : Option ServerTopology) (es : List Event) :
    Always (step topology) (fun st => AssignmentsNamed st.routing) initial es ↔
      Along (step topology) KeepsNames initial es := by
  refine always_iff_along (W := fun st : WorldRuntime => st.flow.assignTables.Keyed) ?_ nofun
    (fun st e hkeyed => ?_) fun st e hkeyed h => assignmentsNamed_step_iff topology hkeyed h e
  · exact ⟨List.nodup_nil, List.nodup_nil, List.nodup_nil⟩
  · obtain ⟨ops, -, hby⟩ := stepOps_step topology hkeyed e
    exact hby.keyed hkeyed

/-- Zone server 1 has map 2 on connection `(5,1)`; server 2 registers on the
same slot before the end of that connection is handled. -/
def zoneSlotReused : List Event :=
  [zoneUp, .beginPortalTransfer (portalTo 2) true,
   .zoneMapAssignResponse 5 1 ⟨1, .ok, 1, 2, 0⟩ fun _ => true,
   .registerZoneRoute { sid := 5, serial := 2, serverId := 2, zoneId := 1, channelId := 1 },
   .unregisterZoneRoute 5 1]

/-- Map 2 stays assigned to server 1, and the end of its connection does not
matter any more. -/
theorem not_assignmentsNamed_zoneSlotReused :
    ¬ Always (step none) (fun st => AssignmentsNamed st.routing) initial zoneSlotReused ∧
      let st := run (step none) initial zoneSlotReused
      (st.flow.mapAssignments (EnterFlow.makeMapAssignmentKey 2 0)).map (·.zoneServerId) = some 1 ∧
        st.flow.zoneRoutes.map (·.serverId) = [2] := by
  refine ⟨fun h => ?_, by decide⟩
  have hlast := always_iff_forall_part.mp h _ List.prefix_rfl
  have hentry : (run (step none) initial zoneSlotReused).routing.2
      (EnterFlow.makeMapAssignmentKey 2 0) = some ⟨1, 1, 1, 2, 0⟩ := by decide
  have hnone : ¬ ∃ route ∈ (run (step none) initial zoneSlotReused).routing.1,
      route.serverId = 1 := by decide
  exact hnone (hlast _ _ hentry)

end WorldRuntime

end GameServer
