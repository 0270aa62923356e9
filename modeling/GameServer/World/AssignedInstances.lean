import GameServer.World.AssignedServers
import GameServer.World.ZoneLink
import GameServer.Zone.InstanceCounts

/-!
# GameServer.World.AssignedInstances

Whether the map assignments of the world name instances that the zone has.

An instance is made by a handshake: the zone makes it before it answers, and
the world enters the assignment when it reads the answer.  It goes away
without one: a sweep of the zone erases a dungeon that was empty for 30
seconds and tells nobody, and the world keeps answering from its table
(`AssignMapInstance`), also after the zone has refused an enter.

* `Granted` — a map instance is assigned, or the answer that assigns it is on
  its way;
* `SweepSpares` — a sweep erases no instance that is granted;
* `assignmentsExist_run` — if no sweep does, every assignment names an
  instance of the zone, and no enter it routes is answered `map_not_found`.
-/

namespace GameServer

namespace ZoneRuntime

variable {cfg : ZoneConfig} {z : ZoneRuntime} {now : Nat} {k : UInt64}

/-- The zone has the instance. -/
def HasInstance (z : ZoneRuntime) (k : UInt64) : Prop := (z.mapInstances.lookup k).isSome = true

/-- A changed instance is still there. -/
theorem hasInstance_modifyInstance {k' : UInt64} (f : MapInstanceState → MapInstanceState)
    (h : z.HasInstance k) : (z.modifyInstance k' f).HasInstance k := by
  unfold HasInstance at h ⊢
  rw [lookup_modifyInstance]
  split
  · rwa [Option.isSome_map]
  · exact h

/-- An inserted instance is there, and the others stay. -/
theorem hasInstance_insert {k' : UInt64} {inst : MapInstanceState}
    (h : k = k' ∨ (z.mapInstances.lookup k).isSome = true) :
    ((AList.insert k' inst z.mapInstances).lookup k).isSome = true := by
  by_cases hk : k = k'
  · rw [hk, AList.lookup_insert]
    rfl
  · rw [AList.lookup_insert_ne hk]
    exact h.resolve_left hk

/-- An instance that is asked for stays, and so do the others. -/
theorem hasInstance_ensureMapInstance {mapTemplateId instanceId : UInt32}
    {createIfMissing dungeonInstance : Bool} (h : z.HasInstance k) :
    (z.ensureMapInstance now mapTemplateId instanceId createIfMissing
      dungeonInstance).HasInstance k := by
  unfold ensureMapInstance
  dsimp only
  split
  · exact hasInstance_insert (.inr h)
  · split
    · exact h
    · exact hasInstance_insert (.inr h)

/-- A map assignment removes no instance. -/
theorem hasInstance_onMapAssignRequest {req : WorldZoneMapAssignRequest} (h : z.HasInstance k) :
    (z.onMapAssignRequest cfg now req).1.HasInstance k := by
  unfold onMapAssignRequest
  dsimp only
  split_ifs
  · exact h
  · exact h
  · exact h
  · exact hasInstance_ensureMapInstance h

/-- An answer names the map instance it was asked for. -/
theorem names_onMapAssignRequest (cfg : ZoneConfig) (z : ZoneRuntime) (now : Nat)
    (req : WorldZoneMapAssignRequest) :
    (z.onMapAssignRequest cfg now req).2.mapTemplateId = req.mapTemplateId ∧
      (z.onMapAssignRequest cfg now req).2.instanceId = req.instanceId := by
  unfold onMapAssignRequest
  dsimp only
  split_ifs <;> exact ⟨rfl, rfl⟩

/-- A zone that answers `ok` has the instance. -/
theorem hasInstance_of_ok {req : WorldZoneMapAssignRequest}
    (hok : (z.onMapAssignRequest cfg now req).2.resultCode = .ok) :
    (z.onMapAssignRequest cfg now req).1.HasInstance
      (makeMapInstanceKey req.mapTemplateId req.instanceId) := by
  unfold onMapAssignRequest at hok ⊢
  dsimp only at hok ⊢
  split_ifs at hok ⊢ with hvalid hmissing hfull
  unfold ensureMapInstance
  dsimp only
  split
  · exact hasInstance_insert (.inl rfl)
  next hnone =>
    rw [hnone] at hmissing
    split
    next hcreate => exact absurd (by simpa using hcreate) (by simpa using hmissing)
    · exact hasInstance_insert (.inl rfl)

/-- Nor does an enter. -/
theorem hasInstance_onPlayerEnterRequest {req : WorldZonePlayerEnter} (h : z.HasInstance k) :
    (z.onPlayerEnterRequest cfg now req).1.HasInstance k := by
  unfold onPlayerEnterRequest
  dsimp only
  split
  · exact h
  · split
    · exact hasInstance_modifyInstance _ h
    · refine hasInstance_modifyInstance (z := _) _ ?_
      split
      · exact h
      · exact hasInstance_modifyInstance _ h

theorem hasInstance_onPlayerLeaveRequest {req : WorldZonePlayerLeave} (h : z.HasInstance k) :
    (z.onPlayerLeaveRequest now req).HasInstance k := by
  unfold onPlayerLeaveRequest
  split
  · exact h
  · exact hasInstance_modifyInstance (countOut now) (z := { z with spatialIndex := _ }) h

theorem hasInstance_onPlayerMoveInternalRequest {req : WorldZonePlayerMoveInternal}
    (h : z.HasInstance k) : (z.onPlayerMoveInternalRequest cfg now req).HasInstance k := by
  unfold onPlayerMoveInternalRequest
  split
  · exact h
  · exact hasInstance_modifyInstance _ h

/-- No request takes an instance away. -/
theorem hasInstance_handle (request : ZoneRequest) (h : z.HasInstance k) :
    (z.handle cfg now request).1.HasInstance k := by
  cases request with
  | mapAssign req => exact hasInstance_onMapAssignRequest h
  | playerEnter req => exact hasInstance_onPlayerEnterRequest h
  | playerLeave req => exact hasInstance_onPlayerLeaveRequest h
  | playerMoveInternal req => exact hasInstance_onPlayerMoveInternalRequest h

/-- An enter that finds its instance is not refused. -/
theorem resultCode_of_hasInstance {req : WorldZonePlayerEnter}
    (h : z.HasInstance (makeMapInstanceKey req.mapTemplateId req.instanceId)) :
    (z.onPlayerEnterRequest cfg now req).2.resultCode = .ok := by
  obtain ⟨inst, hinst⟩ := Option.isSome_iff_exists.mp h
  unfold onPlayerEnterRequest
  dsimp only
  rw [hinst]
  dsimp only
  split <;> rfl

end ZoneRuntime

namespace ZoneLink

variable {cfg : LinkConfig} {l : ZoneLink} {key : UInt64}

/-! ## What the world relies on -/

/-- The world routes packets about the instance by an assignment. -/
def Assigned (l : ZoneLink) (key : UInt64) : Prop :=
  (l.world.flow.mapAssignments key).isSome = true

/-- The instance that an answer says the zone has. -/
def grantedBy : ZoneAnswer → Option UInt64
  | .mapAssign res =>
      if res.resultCode = .ok then some (makeMapInstanceKey res.mapTemplateId res.instanceId)
      else none
  | .playerEnter _ => none

/-- The instance is assigned, or the answer that assigns it is on its way. -/
def Granted (l : ZoneLink) (key : UInt64) : Prop :=
  l.Assigned key ∨ ∃ answer ∈ l.toWorld, grantedBy answer = some key

/-- **Assignments name instances that exist**, with nothing on the way. -/
def AssignmentsExist (l : ZoneLink) : Prop :=
  l.Delivered → ∀ key entry, l.world.flow.mapAssignments key = some entry →
    l.zone.HasInstance key

/-- A player-enter for an assigned instance is not answered `map_not_found`. -/
def RoutedEntersFind (cfg : LinkConfig) (l : ZoneLink) : Prop :=
  ∀ now req, l.Assigned (EnterFlow.makeMapAssignmentKey req.mapTemplateId req.instanceId) →
    (l.zone.onPlayerEnterRequest cfg.zone now req).2.resultCode ≠ .mapNotFound

/-- The zone connection, the only one, is kept up. -/
def keptUp (cfg : LinkConfig) : Event → Bool
  | .world (.registerZoneRoute hello) => hello.sid = cfg.sid ∧ hello.serial = cfg.serial
  | .world (.unregisterZoneRoute sid serial) => ¬(sid = cfg.sid ∧ serial = cfg.serial)
  | .world (.expireStaleZoneRoutes routes _ _) => cfg.sid ∉ routes
  | _ => true

/-- A sweep erases no instance that is granted. -/
def SweepSpares (l : ZoneLink) : Event → Prop
  | .reap now => ∀ e ∈ l.zone.mapInstances.entries,
      ZoneRuntime.isReapable now e.2 = true → ¬l.Granted e.1
  | _ => True

instance instDecidableGranted : Decidable (l.Granted key) :=
  inferInstanceAs (Decidable (_ = true ∨ ∃ _ ∈ l.toWorld, _))

instance instDecidableSweepSpares : (e : Event) → Decidable (l.SweepSpares e)
  | .reap _ => inferInstanceAs (Decidable (∀ _ ∈ _, _))
  | .world _ | .receive .. | .actor .. | .movePacket .. | .mirror _ | .zone _ => isTrue trivial

/-- Assigned instances stay assigned. -/
def KeepsAssigned (cfg : LinkConfig) (l : ZoneLink) (e : Event) : Prop :=
  ∀ key, l.Assigned key → (l.step cfg e).Assigned key

/-- All routes are those of the connection. -/
def OwnRoutes (cfg : LinkConfig) (routes : List ZoneRouteState) : Prop :=
  ∀ route ∈ routes, route.sid = cfg.sid ∧ route.serial = cfg.serial

/-- The zone has all that is granted. -/
structure Covered (cfg : LinkConfig) (l : ZoneLink) : Prop where
  granted : ∀ key, l.Granted key → l.zone.HasInstance key
  routes : OwnRoutes cfg l.world.flow.zoneRoutes

/-! ## Steps of the world -/

section

variable {st : WorldRuntime} {topology : Option ServerTopology} {e : WorldRuntime.Event}

/-- Losing a route only drops assignments. -/
theorem assigned_of_loseZoneRoute {sid : UInt32} {entry : MapAssignmentEntry}
    (h : (st.loseZoneRoute sid).routing.2 key = some entry) : st.routing.2 key = some entry := by
  rw [WorldRuntime.routing_loseZoneRoute] at h
  unfold EnterFlow.removeMapAssignmentsByZoneSid at h
  dsimp only at h
  split at h
  · exact h
  · exact (Table.eraseWhere_eq_some_iff.mp h).1

/-- An entry is there before a step, or the step is the answer that makes it. -/
theorem assigned_of_step {entry : MapAssignmentEntry}
    (h : (WorldRuntime.step topology st e).routing.2 key = some entry) :
    (∃ entry', st.routing.2 key = some entry') ∨
      ∃ sid serial res sendOk, e = .zoneMapAssignResponse sid serial res sendOk ∧
        res.resultCode = .ok ∧
        key = EnterFlow.makeMapAssignmentKey res.mapTemplateId res.instanceId := by
  by_cases he : e.touchesRouting = false
  · rw [WorldRuntime.routing_step topology st he] at h
    exact .inl ⟨entry, h⟩
  cases e with
  | registerZoneRoute hello => exact .inl ⟨entry, h⟩
  | zoneRouteHeartbeat beat => exact .inl ⟨entry, h⟩
  | rehash routes assigns enters =>
      simp only [WorldRuntime.step] at h
      split at h <;> exact .inl ⟨entry, h⟩
  | unregisterZoneRoute sid serial =>
      simp only [WorldRuntime.step, WorldRuntime.unregisterZoneRoute] at h
      split at h
      · exact .inl ⟨entry, h⟩
      split at h
      · exact .inl ⟨entry, h⟩
      · exact .inl ⟨entry, assigned_of_loseZoneRoute h⟩
  | expireStaleZoneRoutes routes enters portals =>
      have hfold : ∀ (lost : List ZoneRouteState) (st : WorldRuntime),
          (lost.foldl (fun st r => st.loseZoneRoute r.sid) st).routing.2 key = some entry →
            st.routing.2 key = some entry := by
        intro lost
        induction lost with
        | nil => exact fun _ h => h
        | cons r lost ih => exact fun st h => assigned_of_loseZoneRoute (ih _ h)
      change (st.expireStaleZoneRoutes routes enters portals).routing.2 key = _ at h
      rw [WorldRuntime.routing_expireStaleZoneRoutes] at h
      exact .inl ⟨entry, hfold _ st h⟩
  | zoneMapAssignResponse sid serial res sendOk =>
      change (st.onZoneMapAssignResponse sid serial res sendOk).routing.2 key = _ at h
      rw [WorldRuntime.routing_onZoneMapAssignResponse] at h
      dsimp only at h
      split at h
      next => exact .inl ⟨entry, h⟩
      next assign haccepted =>
        rw [Table.set_apply] at h
        split at h
        next hkey =>
          have hcode := (Option.filter_eq_some_iff.mp haccepted).2
          simp only [Bool.and_eq_true, beq_iff_eq] at hcode
          exact .inr ⟨sid, serial, res, sendOk, rfl, hcode.2, hkey⟩
        next => exact .inl ⟨entry, h⟩
  | _ => exact absurd rfl he

/-- The routes stay those of the connection, and assignments stay. -/
def StaysRouted (cfg : LinkConfig)
    (t t' : List ZoneRouteState × Table UInt64 MapAssignmentEntry) : Prop :=
  OwnRoutes cfg t'.1 ∧ ∀ key, (t.2 key).isSome = true → (t'.2 key).isSome = true

/-- An event that keeps the zone up drops no assignment to it. -/
theorem staysRouted_step (st : WorldRuntime) (hroutes : OwnRoutes cfg st.routing.1)
    (hkept : keptUp cfg (.world e) = true ∨ isZoneAnswer e = true) :
    StaysRouted cfg st.routing (WorldRuntime.step topology st e).routing := by
  by_cases he : e.touchesRouting = false
  · rw [WorldRuntime.routing_step topology st he]
    exact ⟨hroutes, fun _ h => h⟩
  cases e with
  | registerZoneRoute hello =>
      have hhello : hello.sid = cfg.sid ∧ hello.serial = cfg.serial :=
        of_decide_eq_true (hkept.resolve_right Bool.false_ne_true)
      refine ⟨fun route hroute => ?_, fun _ h => h⟩
      rcases List.mem_append.mp hroute with hold | hnew
      · exact hroutes route (List.mem_of_mem_filter hold)
      · rw [List.mem_singleton.mp hnew, (WorldRuntime.applyTopology_sid topology _).1,
          (WorldRuntime.applyTopology_sid topology _).2]
        exact hhello
  | zoneRouteHeartbeat beat =>
      refine ⟨fun route hroute => ?_, fun _ h => h⟩
      obtain ⟨old, hold, rfl⟩ := List.mem_map.mp hroute
      have hown := hroutes old hold
      split
      next hbeat =>
        rw [(WorldRuntime.applyTopology_sid topology _).1,
          (WorldRuntime.applyTopology_sid topology _).2]
        exact ⟨hbeat.1 ▸ hown.1, hbeat.2 ▸ hown.2⟩
      next => exact hown
  | rehash routes assigns enters =>
      simp only [WorldRuntime.step]
      split
      next hperm =>
        exact ⟨fun route hroute => hroutes route (hperm.1.mem_iff.mp hroute), fun _ h => h⟩
      next => exact ⟨hroutes, fun _ h => h⟩
  | unregisterZoneRoute sid serial =>
      have hother : ¬(sid = cfg.sid ∧ serial = cfg.serial) :=
        of_decide_eq_true (hkept.resolve_right Bool.false_ne_true)
      simp only [WorldRuntime.step, WorldRuntime.unregisterZoneRoute]
      split
      next => exact ⟨hroutes, fun _ h => h⟩
      next route hfind =>
        have hown := hroutes route (List.mem_of_find?_eq_some hfind)
        have hsid : route.sid = sid := by simpa using List.find?_some hfind
        have hserial : route.serial ≠ serial := fun hserial =>
          hother ⟨hsid.symm.trans hown.1, hserial.symm.trans hown.2⟩
        rw [if_pos hserial]
        exact ⟨hroutes, fun _ h => h⟩
  | expireStaleZoneRoutes routes enters portals =>
      have hspared : cfg.sid ∉ routes := of_decide_eq_true (hkept.resolve_right Bool.false_ne_true)
      have hnone : st.flow.zoneRoutes.filter (fun r => routes.contains r.sid) = [] := by
        refine List.filter_eq_nil_iff.mpr fun route hroute => ?_
        rw [(hroutes route hroute).1]
        simpa using hspared
      change StaysRouted cfg st.routing (st.expireStaleZoneRoutes routes enters portals).routing
      rw [WorldRuntime.routing_expireStaleZoneRoutes, hnone]
      exact ⟨hroutes, fun _ h => h⟩
  | zoneMapAssignResponse sid serial res sendOk =>
      change StaysRouted cfg st.routing (st.onZoneMapAssignResponse sid serial res sendOk).routing
      rw [WorldRuntime.routing_onZoneMapAssignResponse]
      refine ⟨hroutes, fun key hkey => ?_⟩
      dsimp only
      split
      · exact hkey
      · rw [Table.set_apply]
        split
        · rfl
        · exact hkey
  | _ => exact absurd rfl he

end

/-! ## Steps of the link -/

/-- A step of the world: a new assignment is for an instance that the zone has answered
for. -/
theorem covered_advance (h : Covered cfg l) (e : WorldRuntime.Event)
    (hkept : keptUp cfg (.world e) = true ∨ isZoneAnswer e = true)
    (hanswer : ∀ sid serial res sendOk, e = .zoneMapAssignResponse sid serial res sendOk →
      res.resultCode = .ok →
      l.zone.HasInstance (EnterFlow.makeMapAssignmentKey res.mapTemplateId res.instanceId)) :
    Covered cfg (l.advance cfg e) where
  granted key hgranted := by
    rcases hgranted with hassigned | hanswers
    · obtain ⟨entry, hentry⟩ := Option.isSome_iff_exists.mp hassigned
      rcases assigned_of_step hentry with ⟨entry', hold⟩ | ⟨sid, serial, res, sendOk, he, hok, hkey⟩
      · exact h.granted key (.inl (Option.isSome_iff_exists.mpr ⟨entry', hold⟩))
      · rw [hkey]
        exact hanswer sid serial res sendOk he hok
    · exact h.granted key (.inr hanswers)
  routes := (staysRouted_step l.world h.routes hkept).1

/-- The world takes an answer: what it assigns, the answer granted. -/
theorem covered_receive (h : Covered cfg l) (sendOk : UInt64 → Bool) (notified : Bool)
    (bytes : Vector UInt8 32) :
    Covered cfg (l.step cfg (.receive sendOk notified bytes)) := by
  simp only [step]
  split
  next => exact h
  next answer rest hanswers =>
    have hrest : Covered cfg { l with toWorld := rest } := by
      refine ⟨fun key hgranted => h.granted key ?_, h.routes⟩
      refine hgranted.imp_right fun ⟨answer', hmem, hkey⟩ => ⟨answer', ?_, hkey⟩
      rw [hanswers]
      exact List.mem_cons_of_mem _ hmem
    refine covered_advance hrest _ (.inr (by cases answer <;> rfl)) ?_
    intro sid serial res sendOk' he hok
    cases answer with
    | playerEnter ack => cases he
    | mapAssign res' =>
        cases he
        have hmem : ZoneAnswer.mapAssign res' ∈ l.toWorld := by
          rw [hanswers]
          exact List.mem_cons_self
        refine h.granted _ (.inr ⟨_, hmem, ?_⟩)
        have hok' : res'.resultCode = .ok := by
          cases hcode : res'.resultCode <;> simp_all [mapAssignCode]
        exact if_pos hok'

/-- What an answer of the zone grants, the zone has. -/
theorem hasInstance_of_grantedBy {request : ZoneRequest} {answer : ZoneAnswer} {key : UInt64}
    {now : Nat} (hanswer : answer ∈ (l.zone.handle cfg.zone now request).2)
    (hkey : grantedBy answer = some key) :
    (l.zone.handle cfg.zone now request).1.HasInstance key := by
  cases request with
  | mapAssign req =>
      obtain rfl := List.mem_singleton.mp hanswer
      simp only [grantedBy] at hkey
      split at hkey
      next hok =>
        obtain ⟨hmap, hinstance⟩ := ZoneRuntime.names_onMapAssignRequest cfg.zone l.zone now req
        rw [hmap, hinstance] at hkey
        exact Option.some.inj hkey ▸ ZoneRuntime.hasInstance_of_ok hok
      next => cases hkey
  | playerEnter req =>
      obtain rfl := List.mem_singleton.mp hanswer
      cases hkey
  | playerLeave req => cases hanswer
  | playerMoveInternal req => cases hanswer

/-- A step of the zone removes no instance. -/
theorem covered_zone (h : Covered cfg l) (now : Nat) : Covered cfg (l.step cfg (.zone now)) := by
  simp only [step]
  split
  next => exact h
  next request rest hrequests =>
    refine ⟨fun key hgranted => ?_, h.routes⟩
    rcases hgranted with hassigned | ⟨answer, hmem, hkey⟩
    · exact ZoneRuntime.hasInstance_handle request (h.granted key (.inl hassigned))
    · rcases List.mem_append.mp hmem with hold | hnew
      · exact ZoneRuntime.hasInstance_handle request (h.granted key (.inr ⟨answer, hold, hkey⟩))
      · exact hasInstance_of_grantedBy hnew hkey

/-- The sweep removes only instances that nothing is assigned to. -/
theorem covered_reap (h : Covered cfg l) {now : Nat} (hspares : l.SweepSpares (.reap now)) :
    Covered cfg (l.step cfg (.reap now)) := by
  refine ⟨fun key hgranted => ?_, h.routes⟩
  obtain ⟨inst, hinst⟩ := Option.isSome_iff_exists.mp (h.granted key hgranted)
  have hdue : ZoneRuntime.isReapable now inst = false := by
    by_contra hdue
    exact hspares ⟨key, inst⟩ (AList.mem_lookup_iff.mp hinst) (by simpa using hdue) hgranted
  have hlookup : (l.zone.reapEmptyDungeonInstances now).mapInstances.lookup key = _ :=
    ZoneRuntime.lookup_reapEmptyDungeonInstances
  change ((l.zone.reapEmptyDungeonInstances now).mapInstances.lookup key).isSome = true
  rw [hlookup, hinst, Option.filter, hdue]
  rfl

/-- A step keeps the zone covered if the connection is kept up and a sweep
spares what is granted. -/
theorem covered_step (h : Covered cfg l) (e : Event) (hkept : keptUp cfg e = true)
    (hspares : l.SweepSpares e) : Covered cfg (l.step cfg e) := by
  cases e with
  | world e =>
      simp only [step]
      split
      next => exact h
      next hzone =>
        refine covered_advance h e (.inl hkept) fun sid serial res sendOk he _ => ?_
        rw [he] at hzone
        exact absurd rfl hzone
  | receive sendOk notified bytes => exact covered_receive h sendOk notified bytes
  | actor actor ans => exact ⟨h.granted, h.routes⟩
  | movePacket charId sid x y => exact ⟨h.granted, h.routes⟩
  | mirror req => exact ⟨h.granted, h.routes⟩
  | zone now => exact covered_zone h now
  | reap now => exact covered_reap h hspares

/-- The step lemma of the composition. -/
theorem keepsAssigned_step (h : Covered cfg l) (e : Event) (hkept : keptUp cfg e = true) :
    KeepsAssigned cfg l e := by
  intro key hkey
  cases e with
  | world e =>
      simp only [step]
      split
      next => exact hkey
      next => exact (staysRouted_step l.world h.routes (.inl hkept)).2 key hkey
  | receive sendOk notified bytes =>
      simp only [step]
      split
      next => exact hkey
      next answer rest hanswers =>
        have hzone : isZoneAnswer (answerEvent cfg sendOk notified bytes answer) = true := by
          cases answer <;> rfl
        exact (staysRouted_step l.world h.routes (.inr hzone)).2 key hkey
  | zone now =>
      simp only [step]
      split <;> exact hkey
  | actor actor ans => exact hkey
  | movePacket charId sid x y => exact hkey
  | mirror req => exact hkey
  | reap now => exact hkey

/-! ## Runs -/

/-- **World assignments name instances that exist**: with the zone connection
kept up, in every run in which no sweep erases an instance that is assigned or
about to be, every assignment names an instance of the zone whenever nothing
is on the way; an enter for an assigned instance is never answered
`map_not_found`, and what is assigned when the enter is sent still is when the
zone handles it. -/
theorem assignmentsExist_run (cfg : LinkConfig) (es : List Event)
    (hrun : Along (step cfg) (fun l e => keptUp cfg e = true ∧ l.SweepSpares e) {} es) :
    Always (step cfg) (fun l => l.AssignmentsExist ∧ l.RoutedEntersFind cfg) {} es ∧
      Along (step cfg) (KeepsAssigned cfg) {} es := by
  have hinit : Covered cfg {} := by
    refine ⟨fun key hgranted => ?_, nofun⟩
    rcases hgranted with hassigned | ⟨answer, hmem, -⟩
    · cases hassigned
    · cases hmem
  constructor
  · have hcovered : Always (step cfg) (Covered cfg) {} es :=
      always_of_along hinit (fun l e h hok => covered_step h e hok.1 hok.2) hrun
    refine hcovered.imp fun l h => ⟨fun _ key entry hentry => ?_, fun now req hassigned => ?_⟩
    · exact h.granted key (.inl (Option.isSome_iff_exists.mpr ⟨entry, hentry⟩))
    · rw [ZoneRuntime.resultCode_of_hasInstance (h.granted _ (.inl hassigned))]
      nofun
  · exact along_of_along hinit (fun l e h hok => covered_step h e hok.1 hok.2)
      (fun l e h hok => keepsAssigned_step h e hok.1) hrun

/-- A zone that serves every map, on connection `(5,1)`. -/
def oneZone : LinkConfig where
  zone := { servedMapIds := [], hasMap := fun _ _ => true }

/-- The world reads the next answer. -/
def answered : Event := .receive (fun _ => true) true (.replicate 32 0)

/-- Character 11 of account 100 enters map 1. -/
def entersMapOne : List Event :=
  (WorldRuntime.zoneUp :: WorldRuntime.connect 1 1 ++ WorldRuntime.askToEnter 1 1 100 11 0 ++
    (WorldRuntime.answersToEnter 100 11 0).take 1).map .world ++
  [.zone 0, answered, .zone 0, answered]

/-- Character 11 goes from one map to another. -/
def portal (source sourceInstance target targetInstance : UInt32) : Event :=
  .world (.beginPortalTransfer
    { WorldRuntime.portalTo target with
      sourceMapTemplateId := source, sourceInstanceId := sourceInstance
      targetInstanceId := targetInstance } true)

/-- Character 11 enters map 1, and goes through a portal to dungeon 2001 and
back. -/
def dungeonVisited : List Event :=
  entersMapOne ++
    [portal 1 0 2001 0, .zone 0, answered, .zone 0, .zone 0, answered,
     portal 2001 1 1 0, .zone 0, .zone 0, answered]

/-- A sweep after 29 seconds still spares the dungeon. -/
theorem assignmentsExist_dungeonVisited :
    Always (step oneZone) (fun l => l.AssignmentsExist ∧ l.RoutedEntersFind oneZone) {}
        (dungeonVisited ++ [.reap (29 * 10 ^ 9)]) ∧
      Along (step oneZone) (KeepsAssigned oneZone) {} (dungeonVisited ++ [.reap (29 * 10 ^ 9)]) :=
  assignmentsExist_run oneZone _ (by decide)

/-- The dungeon is swept after 30 seconds, and then the character comes back. -/
def dungeonRevisited : List Event :=
  (dungeonVisited ++ [.reap (30 * 10 ^ 9)]) ++
    [portal 1 0 2001 1, .zone (30 * 10 ^ 9), .zone (30 * 10 ^ 9)]

/-- The dungeon stays assigned after the sweep, and the enter that is routed
to it is refused. -/
theorem not_assignmentsExist_dungeonRevisited :
    (∀ e ∈ dungeonRevisited, keptUp oneZone e = true) ∧
      ¬ Always (step oneZone) (fun l => l.AssignmentsExist ∧ l.RoutedEntersFind oneZone) {}
        dungeonRevisited ∧
      (run (step oneZone) {} dungeonRevisited).toWorld.getLast? =
        some (.playerEnter ⟨0, 0, .mapNotFound, 2001, 11, 2001, 1⟩) := by
  refine ⟨by decide, fun h => ?_, by decide⟩
  -- after the sweep, before the character comes back
  have hswept := (always_iff_forall_part.mp h _ (List.prefix_append _ _)).1
  have hexists := hswept ⟨by decide, by decide⟩
    (EnterFlow.makeMapAssignmentKey 2001 1) ⟨1, 2001, 1, 2001, 1⟩ (by decide)
  revert hexists
  unfold ZoneRuntime.HasInstance
  decide

end ZoneLink

end GameServer
