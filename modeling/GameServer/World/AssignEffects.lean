import GameServer.World.AssignFrame

/-!
# GameServer.World.AssignEffects

What the handlers of the world process do to the board of map-assign
requests.

* `ByOps ops st st'` — the board and the outcomes of portal transfers of
  `st'` come from those of `st` by the operations `ops`, each enabled where it
  is used;
* `StepOps` — which operations an event can stand for;
* `stepOps_step` — every step of the process is such a list of operations.
-/

namespace GameServer

namespace WorldRuntime

variable {st st₁ st₂ st₃ : WorldRuntime} {ops ops₁ ops₂ : List AssignOp}

/-! ## Operations of a step -/

/-- `st₂` comes from `st₁` by the operations `ops`. -/
structure ByOps (ops : List AssignOp) (st₁ st₂ : WorldRuntime) : Prop where
  view : st₂.assignView = run (recording AssignOp.apply AssignOp.settled) st₁.assignView ops
  enabled : Along AssignOp.apply AssignOp.Enabled st₁.flow.assignTables ops

namespace ByOps

theorem tables (h : ByOps ops st₁ st₂) :
    st₂.flow.assignTables = run AssignOp.apply st₁.flow.assignTables ops := by
  have hfst : st₂.assignView.1 = _ := congrArg Prod.fst h.view
  exact hfst.trans (fst_run_recording _ _)

theorem nil (h : st₂.assignView = st₁.assignView) : ByOps [] st₁ st₂ := ⟨h, trivial⟩

theorem append (h₁ : ByOps ops₁ st₁ st₂) (h₂ : ByOps ops₂ st₂ st₃) :
    ByOps (ops₁ ++ ops₂) st₁ st₃ := by
  constructor
  · rw [run_append, ← h₁.view, h₂.view]
  · rw [along_append, ← h₁.tables]
    exact ⟨h₁.enabled, h₂.enabled⟩

theorem one {op : AssignOp} (hop : op.Enabled st₁.flow.assignTables)
    (hview : st₂.assignView =
      (op.apply st₁.flow.assignTables,
        st₁.transferOutcomes ++ op.settled st₁.flow.assignTables)) : ByOps [op] st₁ st₂ :=
  ⟨hview, hop, trivial⟩

/-- An operation without outcomes on the flow alone. -/
theorem flow {op : AssignOp} {f : EnterFlow} (hop : op.Enabled st₁.flow.assignTables)
    (htables : f.assignTables = op.apply st₁.flow.assignTables)
    (hsettled : op.settled st₁.flow.assignTables = []) : ByOps [op] st₁ { st₁ with flow := f } := by
  refine .one hop (Prod.ext htables ?_)
  rw [hsettled, List.append_nil]
  rfl

/-- What changes nothing on the board can be added. -/
theorem same (h : ByOps ops st₁ st₂) (hview : st₃.assignView = st₂.assignView) :
    ByOps ops st₁ st₃ :=
  ⟨hview.trans h.view, h.enabled⟩

theorem keyed (h : ByOps ops st₁ st₂) (hkeyed : st₁.flow.assignTables.Keyed) :
    st₂.flow.assignTables.Keyed := by
  rw [h.tables]
  have halways : Always AssignOp.apply AssignTables.Keyed st₁.flow.assignTables ops :=
    always_of_along hkeyed (fun _ _ hk hop => hk.apply hop) h.enabled
  exact always_iff_forall_part.mp halways ops (List.prefix_refl ops)

/-- Operations without outcomes only have to produce the board. -/
theorem quiet (hquiet : ∀ op ∈ ops, ∀ t, op.settled t = [])
    (htables : st₂.flow.assignTables = run AssignOp.apply st₁.flow.assignTables ops)
    (hout : st₂.out = st₁.out)
    (henabled : Along AssignOp.apply AssignOp.Enabled st₁.flow.assignTables ops) :
    ByOps ops st₁ st₂ := by
  have hrun : ∀ (t : AssignTables) (l : List PendingPortalTransfer),
      run (recording AssignOp.apply AssignOp.settled) (t, l) ops =
        (run AssignOp.apply t ops, l) := by
    clear htables henabled
    induction ops with
    | nil => intro t l; rfl
    | cons op ops ih =>
        intro t l
        have hnil := hquiet op List.mem_cons_self t
        rw [run_cons, run_cons, ← ih (fun op' hop' => hquiet op' (List.mem_cons_of_mem _ hop'))]
        simp [recording, hnil]
  refine ⟨?_, henabled⟩
  rw [assignView, assignView, hrun, htables, transferOutcomes, hout, transferOutcomes]

end ByOps

/-! ### Asking for a map instance -/

/-- The selected route is one of the routes. -/
theorem mem_of_selectRoute {routes : List ZoneRouteState} {eligible : ZoneRouteState → Bool}
    {better : ZoneRouteState → ZoneRouteState → Bool} {route : ZoneRouteState}
    (h : EnterFlow.selectRoute routes eligible better = some route) : route ∈ routes := by
  unfold EnterFlow.selectRoute at h
  refine (mem_or_eq_of_foldl ?_ h).elim List.mem_of_mem_filter fun hnone => ?_
  · -- each pass keeps the best or takes the current one
    intro best current picked hpick
    cases best with
    | none => exact .inl (Option.some.inj hpick).symm
    | some b =>
        dsimp only at hpick
        split at hpick
        · exact .inl (Option.some.inj hpick).symm
        · exact .inr hpick
  · cases hnone

/-- The operations of `AssignMapInstance`: it answers from the tables, or a
request is sent, or could not be sent. -/
inductive AskOps (requestId : UInt64) : List AssignOp → Prop where
  | known : AskOps requestId []
  | sent (a : PendingZoneAssignRequest) (h : a.requestId = requestId) : AskOps requestId [.send a]
  | takenBack (mapKey : UInt64) : AskOps requestId [.takeBack mapKey]

/-- What `AssignMapInstance` does to a flow. -/
structure Asks (f : EnterFlow) (key : UInt64) (r : AssignMapInstanceResult × EnterFlow)
    (ops : List AssignOp) : Prop where
  asked : AskOps r.1.requestId ops
  tables : r.2.assignTables = run AssignOp.apply f.assignTables ops
  enabled : Along AssignOp.apply AssignOp.Enabled f.assignTables ops
  /-- Who is told to wait finds the request under the map key. -/
  entry : r.1.kind = .pending → r.2.pendingZoneAssignRequestIdByMapKey key = some r.1.requestId

/-- Asking for a map is at most one request, drawn or joined. -/
theorem exists_asks_assignMapInstance (f : EnterFlow) (topology : Option ServerTopology)
    (mapTemplateId instanceId : UInt32) (dungeonInstance sendOk : Bool) :
    ∃ ops, Asks f (EnterFlow.makeMapAssignmentKey mapTemplateId instanceId)
      (f.assignMapInstance topology mapTemplateId instanceId dungeonInstance sendOk) ops := by
  unfold EnterFlow.assignMapInstance
  dsimp only
  split
  next => exact ⟨[], .known, rfl, trivial, by simp⟩
  next =>
    split
    next requestId hid => exact ⟨[], .known, rfl, trivial, fun _ => hid⟩
    next hnone =>
      split
      next => exact ⟨[], .known, rfl, trivial, by simp⟩
      next route hroute =>
        have hmem : route ∈ f.zoneRoutes := by
          rcases Option.or_eq_some_iff.mp hroute with h | ⟨-, h⟩
          · exact mem_of_selectRoute h
          · split at h
            · exact mem_of_selectRoute h
            · cases h
        split
        next =>
          refine ⟨_, .sent _ rfl, rfl, ?_, fun _ => Table.set_self _ _ _⟩
          exact ⟨⟨hnone, rfl, route, hmem, rfl, rfl⟩, trivial⟩
        next => exact ⟨_, .takenBack _, rfl, ⟨hnone, trivial⟩, by simp⟩

theorem AskOps.quiet {requestId : UInt64} (h : AskOps requestId ops) :
    ∀ op ∈ ops, ∀ t, op.settled t = [] := by
  cases h <;> simp [AssignOp.settled]

theorem Asks.byOps {key : UInt64} {r : AssignMapInstanceResult × EnterFlow}
    (h : Asks st.flow key r ops) : ByOps ops st { st with flow := r.2 } :=
  .quiet h.asked.quiet h.tables rfl h.enabled

/-! ### Entering -/

theorem byOps_parkEnter (st : WorldRuntime) {e : PendingEnterWorldFinalize}
    (h : (AssignOp.parkEnter e).Enabled st.flow.assignTables) :
    ByOps [.parkEnter e] st
      { st with flow := { st.flow with
        pendingEnterWorldFinalize := st.flow.pendingEnterWorldFinalize ++ [e] } } :=
  .flow h rfl rfl

/-- The operations of an enter: it asks for its map and may have to wait. -/
inductive EnterOps : List AssignOp → Prop where
  | idle : EnterOps []
  | asked {ask : List AssignOp} {requestId : UInt64} (h : AskOps requestId ask) : EnterOps ask
  | parked {ask : List AssignOp} {requestId : UInt64} (h : AskOps requestId ask)
      (e : PendingEnterWorldFinalize) : EnterOps (ask ++ [.parkEnter e])

/-- An enter that gets bound asks for its map and may wait for it. -/
theorem byOps_assignAfterBind (st : WorldRuntime) (topology : Option ServerTopology)
    (pending : PendingEnterWorldConsumeRequest) (loaded : CharacterCoreState)
    (answers : EnterAnswers) :
    ∃ ops, EnterOps ops ∧ ByOps ops st (st.assignAfterBind topology pending loaded answers) := by
  unfold assignAfterBind
  dsimp only
  generalize enteringCoreState loaded = coreState
  generalize (if coreState.hot.position.mapId ≠ 0 then coreState.hot.position.mapId else 1) =
    mapTemplateId
  obtain ⟨ask, hask⟩ := exists_asks_assignMapInstance st.flow topology mapTemplateId 0 false
    answers.assignSendOk
  generalize st.flow.assignMapInstance topology mapTemplateId 0 false answers.assignSendOk = r
    at hask ⊢
  split
  next => exact ⟨ask, .asked hask.asked, hask.byOps.same (assignView_finalizeEnterWorldSuccess ..)⟩
  next hpending =>
    exact ⟨_, .parked hask.asked _, hask.byOps.append (byOps_parkEnter _ (hask.entry hpending))⟩
  next => exact ⟨ask, .asked hask.asked, hask.byOps.same (assignView_rollbackAndFail ..)⟩

/-- The snapshot result does so when it binds its enter. -/
theorem byOps_onCharacterEnterSnapshotResult (st : WorldRuntime)
    (topology : Option ServerTopology) (rr : SnapshotResult) (answers : EnterAnswers) :
    ∃ ops, EnterOps ops ∧
      ByOps ops st (st.onCharacterEnterSnapshotResult topology rr answers) := by
  unfold onCharacterEnterSnapshotResult
  split
  next => exact ⟨[], .idle, .nil rfl⟩
  next snapshot _ =>
    extract_lets flow st₁ pending begun st₂ bound st₃
    split
    next =>
      refine ⟨[], .idle, .nil ?_⟩
      rw [assignView_failPendingEnterWorldConsumeRequest]
      rfl
    next =>
      split
      next => exact ⟨[], .idle, .nil (assignView_emit_of_none rfl)⟩
      next =>
        have hbound : st₃.assignView = st.assignView :=
          assignView_bindAuthenticatedWorldSessionForLogin st₂ _ _ _ _ _
        split
        next =>
          refine ⟨[], .idle, .nil ?_⟩
          rw [assignView_emit_of_none rfl, ← hbound]
          rfl
        next =>
          obtain ⟨ops, hops, hby⟩ :=
            byOps_assignAfterBind st₃ topology pending rr.coreState answers
          exact ⟨ops, hops, (ByOps.nil hbound).append hby⟩

/-! ### Portal transfers -/

/-- The transfer for which `BeginPortalTransfer` answers `true`: parked under
the id of the request it waits for, or completed at once under id 0. -/
def acceptedTransfer (st : WorldRuntime) (topology : Option ServerTopology)
    (request : PendingPortalTransfer) (assignSendOk : Bool) : Option PendingPortalTransfer :=
  let resolved := st.flow.resolvePortalTargetInstanceId request.targetMapTemplateId
    request.targetInstanceId
  let assigned := resolved.2.assignMapInstance topology request.targetMapTemplateId resolved.1
    (EnterFlow.isDungeonMapTemplate request.targetMapTemplateId) assignSendOk
  match assigned.1.kind with
  | .pending =>
      some { request with assignRequestId := assigned.1.requestId, targetInstanceId := resolved.1 }
  | .ok =>
      (assigned.2.mapAssignments
        (EnterFlow.makeMapAssignmentKey request.targetMapTemplateId resolved.1)).map fun _ =>
          { request with assignRequestId := 0, targetInstanceId := resolved.1 }
  | _ => none

/-- The operations of `BeginPortalTransfer`, by the transfer it accepts. -/
inductive TransferOps : Option PendingPortalTransfer → List AssignOp → Prop where
  | refused {ask : List AssignOp} {requestId : UInt64} (h : AskOps requestId ask) :
      TransferOps none ask
  | parked {ask : List AssignOp} (p : PendingPortalTransfer) (h : AskOps p.assignRequestId ask) :
      TransferOps (some p) (ask ++ [.parkPortal p])
  | done (p : PendingPortalTransfer) {ask : List AssignOp} {requestId : UInt64}
      (h : AskOps requestId ask) : TransferOps (some p) (ask ++ [.completeNow p])

theorem assignTables_resolvePortalTargetInstanceId (f : EnterFlow)
    (mapTemplateId requestedInstanceId : UInt32) :
    (f.resolvePortalTargetInstanceId mapTemplateId requestedInstanceId).2.assignTables =
      f.assignTables := by
  unfold EnterFlow.resolvePortalTargetInstanceId
  split_ifs <;> rfl

/-- Keeping a transfer is the operation that waits on its request. -/
theorem byOps_parkPortal (st : WorldRuntime) {p : PendingPortalTransfer}
    (h : (AssignOp.parkPortal p).Enabled st.flow.assignTables) :
    ByOps [.parkPortal p] st
      { st with flow := { st.flow with
        pendingPortalTransfer :=
          upsertBy (·.assignRequestId) p st.flow.pendingPortalTransfer } } :=
  .flow h rfl rfl

/-- `CompletePortalTransfer_` is an outcome, whether the session still stands
or not. -/
theorem assignView_completePortalTransfer (st : WorldRuntime) (p : PendingPortalTransfer)
    (zoneId : UInt16) (mapTemplateId instanceId : UInt32) :
    (st.completePortalTransfer p zoneId mapTemplateId instanceId).assignView =
      (st.flow.assignTables, st.transferOutcomes ++ [p]) := by
  unfold completePortalTransfer
  split
  · exact assignView_emit _ _
  · split <;> exact assignView_emit _ _

/-- A transfer asks for the map of its target and waits for it. -/
theorem byOps_beginPortalTransfer (st : WorldRuntime) (topology : Option ServerTopology)
    (request : PendingPortalTransfer) (assignSendOk : Bool) :
    ∃ ops, TransferOps (st.acceptedTransfer topology request assignSendOk) ops ∧
      ByOps ops st (st.beginPortalTransfer topology request assignSendOk) := by
  unfold beginPortalTransfer acceptedTransfer
  dsimp only
  have hresolved := assignTables_resolvePortalTargetInstanceId st.flow
    request.targetMapTemplateId request.targetInstanceId
  generalize st.flow.resolvePortalTargetInstanceId request.targetMapTemplateId
    request.targetInstanceId = resolved at hresolved ⊢
  have hst : ByOps [] st { st with flow := resolved.2 } := .nil (Prod.ext hresolved rfl)
  obtain ⟨ask, hask⟩ := exists_asks_assignMapInstance resolved.2 topology
    request.targetMapTemplateId resolved.1
    (EnterFlow.isDungeonMapTemplate request.targetMapTemplateId) assignSendOk
  generalize resolved.2.assignMapInstance topology request.targetMapTemplateId resolved.1
    (EnterFlow.isDungeonMapTemplate request.targetMapTemplateId) assignSendOk = r at hask ⊢
  have hasks : ByOps ask { st with flow := resolved.2 } { st with flow := r.2 } := hask.byOps
  have hasked : ByOps ask st { st with flow := r.2 } := hst.append hasks
  cases hkind : r.1.kind with
  | pending =>
      refine ⟨_, .parked _ hask.asked, hasked.append (byOps_parkPortal _ ?_)⟩
      exact hask.entry hkind
  | ok =>
      dsimp only
      cases r.2.mapAssignments
          (EnterFlow.makeMapAssignmentKey request.targetMapTemplateId resolved.1) with
      | none => exact ⟨_, .refused hask.asked, hasked⟩
      | some entry =>
          refine ⟨_, .done _ hask.asked, hasked.append (.one trivial ?_)⟩
          exact assignView_completePortalTransfer _ _ _ _ _
  | _ => exact ⟨_, .refused hask.asked, hasked⟩

/-! ### Answers and lost zones -/

/-- The portal transfer parked on a request comes last. -/
theorem assignView_portal (portal : Option PendingPortalTransfer)
    {f : PendingPortalTransfer → WorldRuntime}
    (h : ∀ p, (f p).assignView = (st.flow.assignTables, st.transferOutcomes ++ [p])) :
    (portal.elim st f).assignView =
      (st.flow.assignTables, st.transferOutcomes ++ portal.toList) := by
  cases portal with
  | none => simp [assignView]
  | some p => exact h p

/-- A pass that takes a request off the board and serves who waits for it. -/
theorem byOps_conclude {a : PendingZoneAssignRequest} (ha : a ∈ st₁.flow.pendingZoneAssign)
    (hview : st₂.assignView =
      ((AssignOp.conclude a).apply st₁.flow.assignTables, st₁.transferOutcomes))
    {f : PendingPortalTransfer → WorldRuntime}
    (h : ∀ p, (f p).assignView = (st₂.flow.assignTables, st₂.transferOutcomes ++ [p])) :
    ByOps [.conclude a] st₁
      ((st₁.flow.pendingPortalTransfer.find? (·.assignRequestId == a.requestId)).elim st₂ f) := by
  refine .one ha ?_
  rw [assignView_portal _ h]
  obtain ⟨htables, hout⟩ := Prod.mk.inj hview
  rw [htables, hout]
  rfl

/-- A response from the connection the request was sent to concludes it,
whatever it says. -/
theorem byOps_onZoneMapAssignResponse (st : WorldRuntime) {sid serial : UInt32}
    {res : ZoneMapAssignResponse} (sendOk : UInt64 → Bool) {a : PendingZoneAssignRequest}
    (hfind : st.flow.pendingZoneAssign.find? (·.requestId == res.requestId) = some a)
    (htarget : a.targetSid = sid ∧ a.targetSerial = serial) :
    ByOps [.conclude a] st (st.onZoneMapAssignResponse sid serial res sendOk) := by
  have ha := List.mem_of_find?_eq_some hfind
  have hid : a.requestId = res.requestId := by simpa using List.find?_some hfind
  have hcheck : ¬ (a.targetSid ≠ sid ∨ a.targetSerial ≠ serial) := by
    rw [htarget.1, htarget.2]
    simp
  simp only [onZoneMapAssignResponse, hfind, if_neg hcheck]
  rw [← hid]
  split_ifs
  · refine byOps_conclude ha ?_ fun p => assignView_emit _ _
    rw [assignView_foldl fun st e => assignView_rollbackAndFail _ _ _]
    rfl
  · refine byOps_conclude ha ?_ fun p => assignView_emit _ _
    rw [assignView_failFinalizeList]
    rfl
  · refine byOps_conclude ha ?_ fun p => assignView_completePortalTransfer _ _ _ _ _
    rw [assignView_foldl fun st e => ?_]
    · rfl
    · split
      · exact assignView_finalizeEnterWorldSuccess _ _ _ _ _ _ _
      · rfl

/-- Any other response is ignored. -/
theorem onZoneMapAssignResponse_of_stale (st : WorldRuntime) {sid serial : UInt32}
    {res : ZoneMapAssignResponse} (sendOk : UInt64 → Bool)
    (h : ∀ a, st.flow.pendingZoneAssign.find? (·.requestId == res.requestId) = some a →
      ¬ (a.targetSid = sid ∧ a.targetSerial = serial)) :
    st.onZoneMapAssignResponse sid serial res sendOk = st := by
  unfold onZoneMapAssignResponse
  split
  next => rfl
  next a hfind =>
    have hcheck : a.targetSid ≠ sid ∨ a.targetSerial ≠ serial := by
      rw [← not_and_or]
      exact h a hfind
    simp only [if_pos hcheck]

/-- A loop that concludes distinct requests. -/
theorem byOps_foldl_conclude {f : WorldRuntime → PendingZoneAssignRequest → WorldRuntime}
    (hf : ∀ st, ∀ a ∈ st.flow.pendingZoneAssign, ByOps [.conclude a] st (f st a))
    {l : List PendingZoneAssignRequest} (hnodup : (l.map (·.requestId)).Nodup) (st : WorldRuntime)
    (hl : ∀ a ∈ l, a ∈ st.flow.pendingZoneAssign) : ByOps (l.map .conclude) st (l.foldl f st) := by
  induction l generalizing st with
  | nil => exact .nil rfl
  | cons a l ih =>
      rw [List.map_cons, List.nodup_cons] at hnodup
      have hone := hf st a (hl a List.mem_cons_self)
      refine hone.append (ih hnodup.2 _ fun b hb => ?_)
      have hrequests : (f st a).flow.pendingZoneAssign =
          st.flow.pendingZoneAssign.filter (·.requestId ≠ a.requestId) :=
        congrArg AssignTables.requests hone.tables
      rw [hrequests, List.mem_filter]
      refine ⟨hl b (List.mem_cons_of_mem _ hb), decide_eq_true fun hid => hnodup.1 ?_⟩
      exact List.mem_map.mpr ⟨b, hb, hid⟩

/-- A lost zone concludes the requests that were sent to it. -/
theorem byOps_failPendingZoneAssignRequestsByZoneSid (hkeyed : st.flow.assignTables.Keyed)
    (sid : UInt32) :
    ByOps ((st.flow.pendingZoneAssign.filter (·.targetSid == sid)).map .conclude) st
      (st.failPendingZoneAssignRequestsByZoneSid sid) := by
  refine byOps_foldl_conclude (fun st a ha => ?_) (nodup_map_filter hkeyed.requests) st
    fun a ha => List.mem_of_mem_filter ha
  refine byOps_conclude ha ?_ fun p => assignView_emit _ _
  rw [assignView_failFinalizeList]
  rfl

/-- Operations that take requests and transfers off the board, and routes
nobody waits for. -/
def Closing (t : AssignTables) : AssignOp → Prop
  | .conclude _ | .timeOut _ => True
  | .setRoutes routes =>
      ∀ route ∈ t.routes, (∃ a ∈ t.requests, a.targetSid = route.sid) → route ∈ routes
  | _ => False

/-- From a state with one record per key, `st₂` is reached by closing
operations. -/
def Closes (st₁ st₂ : WorldRuntime) : Prop :=
  st₁.flow.assignTables.Keyed →
    ∃ ops, Along AssignOp.apply Closing st₁.flow.assignTables ops ∧ ByOps ops st₁ st₂

namespace Closes

theorem same (h : st₂.assignView = st₁.assignView) : Closes st₁ st₂ :=
  fun _ => ⟨[], trivial, .nil h⟩

/-- What closes twice closes. -/
theorem trans (h₁ : Closes st₁ st₂) (h₂ : Closes st₂ st₃) : Closes st₁ st₃ := by
  intro hkeyed
  obtain ⟨ops₁, hclosing₁, hby₁⟩ := h₁ hkeyed
  obtain ⟨ops₂, hclosing₂, hby₂⟩ := h₂ (hby₁.keyed hkeyed)
  refine ⟨ops₁ ++ ops₂, ?_, hby₁.append hby₂⟩
  rw [along_append, ← hby₁.tables]
  exact ⟨hclosing₁, hclosing₂⟩

theorem foldl {α : Type} {f : WorldRuntime → α → WorldRuntime} {l : List α}
    (h : ∀ st a, Closes st (f st a)) (st : WorldRuntime) : Closes st (l.foldl f st) :=
  foldl_of_trans (fun _ => same rfl) trans (fun st a _ => h st a) st

end Closes

/-- Concluding a list of requests filters them out: induction on the list. -/
theorem requests_run_conclude (l : List PendingZoneAssignRequest) (t : AssignTables) :
    (run AssignOp.apply t (l.map .conclude)).requests =
      t.requests.filter fun b => l.all (·.requestId ≠ b.requestId) := by
  induction l generalizing t with
  | nil => simp
  | cons a l ih =>
      rw [List.map_cons, run_cons, ih]
      simp only [AssignOp.apply, AssignTables.drop, List.filter_filter, List.all_cons]
      congr 1
      funext b
      rw [Bool.and_comm]
      simp [eq_comm]

theorem routes_run_conclude (l : List PendingZoneAssignRequest) (t : AssignTables) :
    (run AssignOp.apply t (l.map .conclude)).routes = t.routes := by
  induction l generalizing t with
  | nil => rfl
  | cons a l ih => exact ih _

/-- The requests to a lost zone are concluded, and only then its route goes. -/
theorem byOps_loseZoneRoute (hkeyed : st.flow.assignTables.Keyed) (sid : UInt32) :
    ByOps ((st.flow.pendingZoneAssign.filter (·.targetSid == sid)).map .conclude ++
        [.setRoutes (st.flow.zoneRoutes.filter (·.sid ≠ sid))]) st (st.loseZoneRoute sid) := by
  unfold loseZoneRoute
  extract_lets st₁ st₂ st₃
  have hremoved : st₁.assignView = st.assignView := by
    refine Prod.ext ?_ rfl
    change (st.flow.removeMapAssignmentsByZoneSid sid).assignTables = _
    unfold EnterFlow.removeMapAssignmentsByZoneSid
    split <;> rfl
  have htables₁ : st₁.flow.assignTables = st.flow.assignTables := congrArg Prod.fst hremoved
  have hrequests : st₁.flow.pendingZoneAssign = st.flow.pendingZoneAssign :=
    congrArg AssignTables.requests htables₁
  have hfailed := byOps_failPendingZoneAssignRequestsByZoneSid (htables₁ ▸ hkeyed) sid
  rw [hrequests] at hfailed
  have hplayers := ((ByOps.nil hremoved).append hfailed).same
    (assignView_failZonePlayerEnters _ (·.targetSid == sid) .zonePlayerEnterRouteLost)
  have hroutes : st₃.flow.zoneRoutes = st.flow.zoneRoutes :=
    (congrArg AssignTables.routes hplayers.tables).trans (routes_run_conclude _ _)
  rw [hroutes]
  exact hplayers.append (.flow (nodup_map_filter hkeyed.routes) rfl rfl)

/-- No request to the lost zone is left. -/
theorem targetSid_ne_of_loseZoneRoute (hkeyed : st.flow.assignTables.Keyed) {sid : UInt32}
    {a : PendingZoneAssignRequest} (ha : a ∈ (st.loseZoneRoute sid).flow.pendingZoneAssign) :
    a ∈ st.flow.pendingZoneAssign ∧ a.targetSid ≠ sid := by
  have htables := (byOps_loseZoneRoute hkeyed sid).tables
  rw [run_append] at htables
  have hrequests : (st.loseZoneRoute sid).flow.pendingZoneAssign = _ :=
    (congrArg AssignTables.requests htables).trans (requests_run_conclude _ _)
  rw [hrequests, List.mem_filter, List.all_eq_true] at ha
  refine ⟨ha.1, fun hsid => ?_⟩
  have hne := ha.2 a (List.mem_filter.mpr ⟨ha.1, beq_iff_eq.mpr hsid⟩)
  simp at hne

/-- A lost route concludes its requests and draws none. -/
theorem closes_loseZoneRoute (st : WorldRuntime) (sid : UInt32) :
    Closes st (st.loseZoneRoute sid) := by
  intro hkeyed
  refine ⟨_, ?_, byOps_loseZoneRoute hkeyed sid⟩
  rw [along_append]
  constructor
  · refine along_of_forall fun op hop t => ?_
    obtain ⟨a, -, rfl⟩ := List.mem_map.mp hop
    trivial
  · refine ⟨fun route hroute hwaits => ?_, trivial⟩
    rw [routes_run_conclude] at hroute
    obtain ⟨a, ha, hsid⟩ := hwaits
    rw [requests_run_conclude, List.mem_filter, List.all_eq_true] at ha
    refine List.mem_filter.mpr ⟨hroute, decide_eq_true fun heq => ?_⟩
    have hne := ha.2 a (List.mem_filter.mpr ⟨ha.1, beq_iff_eq.mpr (hsid.trans heq)⟩)
    simp at hne

/-- Unregistering is losing the route, if there was one. -/
theorem closes_unregisterZoneRoute (st : WorldRuntime) (sid serial : UInt32) :
    Closes st (st.unregisterZoneRoute sid serial) := by
  unfold unregisterZoneRoute
  split
  · exact .same rfl
  · split
    · exact .same rfl
    · exact closes_loseZoneRoute st sid

/-- A loop that times out distinct transfers. -/
theorem byOps_foldl_timeOut {f : WorldRuntime → PendingPortalTransfer → WorldRuntime}
    (hf : ∀ st, ∀ p ∈ st.flow.pendingPortalTransfer, ByOps [.timeOut p] st (f st p))
    {l : List PendingPortalTransfer} (hnodup : (l.map (·.assignRequestId)).Nodup)
    (st : WorldRuntime) (hl : ∀ p ∈ l, p ∈ st.flow.pendingPortalTransfer) :
    ByOps (l.map .timeOut) st (l.foldl f st) := by
  induction l generalizing st with
  | nil => exact .nil rfl
  | cons p l ih =>
      rw [List.map_cons, List.nodup_cons] at hnodup
      have hone := hf st p (hl p List.mem_cons_self)
      refine hone.append (ih hnodup.2 _ fun q hq => ?_)
      have hportals : (f st p).flow.pendingPortalTransfer =
          st.flow.pendingPortalTransfer.filter (·.assignRequestId ≠ p.assignRequestId) :=
        congrArg AssignTables.portals hone.tables
      rw [hportals, List.mem_filter]
      refine ⟨hl q (List.mem_cons_of_mem _ hq), decide_eq_true fun hid => hnodup.1 ?_⟩
      exact List.mem_map.mpr ⟨q, hq, hid⟩

/-- The expiry loses routes one after the other and times transfers out. -/
theorem closes_expireStaleZoneRoutes (st : WorldRuntime) (routes : List UInt32)
    (enters portals : List UInt64) :
    Closes st (st.expireStaleZoneRoutes routes enters portals) := by
  unfold expireStaleZoneRoutes
  extract_lets st₁ st₂
  have hroutes : Closes st st₁ :=
    Closes.foldl (fun st (route : ZoneRouteState) => closes_loseZoneRoute st route.sid) st
  have henters : Closes st st₂ :=
    hroutes.trans (.same (assignView_failZonePlayerEnters _ _ _))
  refine henters.trans fun hkeyed => ⟨_, ?_, byOps_foldl_timeOut (fun st p hp => ?_)
    (nodup_map_filter hkeyed.portals) _ fun p hp => List.mem_of_mem_filter hp⟩
  · refine along_of_forall fun op hop t => ?_
    obtain ⟨p, -, rfl⟩ := List.mem_map.mp hop
    trivial
  · exact .one hp (assignView_emit _ _)

/-! ### Aborted enters -/

/-- The requests that lose their last parked enter when those of a connection
are dropped. -/
def OrphanedBy (f : EnterFlow) (sid serial : UInt32) (requestId : UInt64) : Prop :=
  (∃ e ∈ f.pendingEnterWorldFinalize, e.assignRequestId = requestId) ∧
    ∀ e ∈ f.pendingEnterWorldFinalize, e.assignRequestId = requestId →
      e.enterPending.isOf sid serial = true

/-- The operations of an abort of `(sid, serial)`. -/
inductive AbortOps (f : EnterFlow) (sid serial : UInt32) : List AssignOp → Prop where
  | idle : AbortOps f sid serial []
  | unparked (orphans : List PendingZoneAssignRequest)
      (h : ∀ a ∈ orphans, OrphanedBy f sid serial a.requestId) :
      AbortOps f sid serial (.unpark sid serial :: orphans.map .orphan)

/-- Dropping requests nobody in `kept` waits for. -/
theorem exists_orphans (kept : List PendingEnterWorldFinalize) (ids : List UInt64)
    (hids : ∀ id ∈ ids, ∀ e ∈ kept, e.assignRequestId ≠ id) (f : EnterFlow) :
    ∃ orphans : List PendingZoneAssignRequest, (∀ a ∈ orphans, a.requestId ∈ ids) ∧
      Along AssignOp.apply AssignOp.Enabled { f.assignTables with enters := kept }
        (orphans.map .orphan) ∧
      { (ids.foldl EnterFlow.dropZoneAssign f).assignTables with enters := kept } =
        run AssignOp.apply { f.assignTables with enters := kept } (orphans.map .orphan) := by
  induction ids generalizing f with
  | nil => exact ⟨[], by simp, trivial, rfl⟩
  | cons id ids ih =>
      have hrest := fun id' hid' => hids id' (List.mem_cons_of_mem id hid')
      obtain ⟨orphans, hmem, hen, hrun⟩ := ih hrest (f.dropZoneAssign id)
      have hsub : ∀ a ∈ orphans, a.requestId ∈ id :: ids :=
        fun a ha => List.mem_cons_of_mem id (hmem a ha)
      cases hfind : f.pendingZoneAssign.find? (·.requestId == id) with
      | none =>
          have hdrop : f.dropZoneAssign id = f := by rw [EnterFlow.dropZoneAssign, hfind]
          rw [hdrop] at hen hrun
          exact ⟨orphans, hsub, hen, by rw [List.foldl_cons, hdrop, hrun]⟩
      | some a =>
          have hid : a.requestId = id := by simpa using List.find?_some hfind
          have hdrop : { (f.dropZoneAssign id).assignTables with enters := kept } =
              (AssignOp.orphan a).apply { f.assignTables with enters := kept } := by
            rw [EnterFlow.dropZoneAssign, hfind, ← hid]
            rfl
          rw [hdrop] at hen hrun
          refine ⟨a :: orphans, ?_, ⟨⟨List.mem_of_find?_eq_some hfind, ?_⟩, hen⟩, hrun⟩
          · intro b hb
            cases List.mem_cons.mp hb with
            | inl heq => rw [heq, hid]; exact List.mem_cons_self
            | inr hb => exact hsub b hb
          · rw [hid]
            exact hids id List.mem_cons_self

/-- An abort concludes the requests for which nobody but the aborted enter waits. -/
theorem byOps_abortEnterWorldFlowBySession (st : WorldRuntime) (sid serial : UInt32) :
    ∃ ops, AbortOps st.flow sid serial ops ∧
      ByOps ops st (st.abortEnterWorldFlowBySession sid serial) := by
  unfold abortEnterWorldFlowBySession
  cases hvalid : isValidSessionKey sid serial with
  | false => exact ⟨[], .idle, .nil rfl⟩
  | true =>
      -- the other three tables of an abort are not on the board
      have hconsume : (st.flow.erasePendingEnterWorldConsumeRequestsBySession sid
          serial).assignTables = st.flow.assignTables := by
        simp only [EnterFlow.erasePendingEnterWorldConsumeRequestsBySession, hvalid]
        rfl
      generalize st.flow.erasePendingEnterWorldConsumeRequestsBySession sid serial = f at hconsume ⊢
      have hparked : f.pendingEnterWorldFinalize = st.flow.pendingEnterWorldFinalize :=
        congrArg AssignTables.enters hconsume
      obtain ⟨orphans, hmem, hen, hrun⟩ := exists_orphans
        (f.pendingEnterWorldFinalize.filter fun e => !e.enterPending.isOf sid serial)
        ((f.pendingEnterWorldFinalize.map (·.assignRequestId)).filter fun id =>
          (f.pendingEnterWorldFinalize.filter fun e => !e.enterPending.isOf sid serial).all
            (·.assignRequestId ≠ id))
        (fun id hid e he => by
          have hall := List.all_eq_true.mp (List.mem_filter.mp hid).2 e he
          exact of_decide_eq_true hall) f
      have hunpark : { f.assignTables with
          enters := f.pendingEnterWorldFinalize.filter fun e => !e.enterPending.isOf sid serial } =
          (AssignOp.unpark sid serial).apply st.flow.assignTables := by
        rw [hconsume, hparked]
        rfl
      rw [hunpark] at hen hrun
      refine ⟨_, .unparked orphans fun a ha => ?_, .quiet ?_ ?_ rfl ⟨trivial, hen⟩⟩
      · have hid := List.mem_filter.mp (hmem a ha)
        obtain ⟨e, he, hae⟩ := List.mem_map.mp hid.1
        rw [hparked] at he
        refine ⟨⟨e, he, hae⟩, fun e' he' hae' => ?_⟩
        by_contra hother
        have hkept : e' ∈ f.pendingEnterWorldFinalize.filter
            fun e => !e.enterPending.isOf sid serial := by
          rw [hparked, List.mem_filter]
          exact ⟨he', by simpa using hother⟩
        exact of_decide_eq_true (List.all_eq_true.mp hid.2 e' hkept) hae'
      · intro op hop t
        cases List.mem_cons.mp hop with
        | inl heq => rw [heq]; rfl
        | inr hop =>
            obtain ⟨a, -, rfl⟩ := List.mem_map.mp hop
            rfl
      · rw [run_cons, ← hrun]
        simp only [Bool.true_eq_false, if_false, if_true, hvalid,
          EnterFlow.erasePendingEnterWorldFinalizeBySession,
          EnterFlow.erasePendingCharacterEnterSnapshotRequestsBySession,
          EnterFlow.erasePendingZonePlayerEnterRequestsBySession]
        rfl

/-- The connection whose enter flow an event aborts: that of a close that is
not stale, or of the victim of a kick. -/
def abortedBy (st : WorldRuntime) : Event → Option (UInt32 × UInt32)
  | .netTask (.disconnected sid serial) _ _ =>
      if .disconnected sid serial ∈ st.netTasks ∧ st.getLatestSerial sid = serial then
        some (sid, serial)
      else none
  | .strand =>
      match st.strand with
      | .kick ctx :: _ => if ctx.charId = 0 then none else some (ctx.sid, ctx.serial)
      | _ => none
  | _ => none

/-! ## What a step does to the board -/

/-- The operations an event can stand for. -/
inductive StepOps (topology : Option ServerTopology) (st : WorldRuntime) :
    Event → List AssignOp → Prop where
  | idle (e : Event) (h : ∀ request sendOk, e ≠ .beginPortalTransfer request sendOk) :
      StepOps topology st e []
  | enter (rr : SnapshotResult) (answers : EnterAnswers) {ops : List AssignOp}
      (h : EnterOps ops) : StepOps topology st (.snapshotResult rr answers) ops
  | transfer (request : PendingPortalTransfer) (sendOk : Bool) {ops : List AssignOp}
      (h : TransferOps (st.acceptedTransfer topology request sendOk) ops) :
      StepOps topology st (.beginPortalTransfer request sendOk) ops
  | abort (e : Event) {sid serial : UInt32} {ops : List AssignOp}
      (he : st.abortedBy e = some (sid, serial)) (h : AbortOps st.flow sid serial ops) :
      StepOps topology st e ops
  | close (e : Event) {ops : List AssignOp}
      (he : ∀ request sendOk, e ≠ .beginPortalTransfer request sendOk)
      (h : Along AssignOp.apply Closing st.flow.assignTables ops) : StepOps topology st e ops
  | register (hello : ZoneRouteState) :
      StepOps topology st (.registerZoneRoute hello)
        [.setRoutes (st.flow.registerZoneRoute topology hello).zoneRoutes]
  | heartbeat (beat : ZoneRouteState) :
      StepOps topology st (.zoneRouteHeartbeat beat)
        [.setRoutes (st.flow.onZoneRouteHeartbeat topology beat).zoneRoutes]
  | rehash (routes : List ZoneRouteState) (assigns : List PendingZoneAssignRequest)
      (enters : List PendingZonePlayerEnterRequest) (h : routes.Perm st.flow.zoneRoutes) :
      StepOps topology st (.rehash routes assigns enters) [.setRoutes routes, .reorder assigns]

theorem applyTopology_sid (topology : Option ServerTopology) (route : ZoneRouteState) :
    (EnterFlow.applyTopology topology route).sid = route.sid ∧
      (EnterFlow.applyTopology topology route).serial = route.serial := by
  unfold EnterFlow.applyTopology
  split <;> exact ⟨rfl, rfl⟩

/-- A heartbeat leaves the connections of the routes as they are. -/
theorem map_onZoneRouteHeartbeat (f : EnterFlow) (topology : Option ServerTopology)
    (beat : ZoneRouteState) :
    (f.onZoneRouteHeartbeat topology beat).zoneRoutes.map (fun r => (r.sid, r.serial)) =
      f.zoneRoutes.map fun r => (r.sid, r.serial) := by
  simp only [EnterFlow.onZoneRouteHeartbeat, List.map_map]
  refine List.map_congr_left fun route _ => ?_
  simp only [Function.comp_apply]
  split
  next hsame =>
    obtain ⟨hsid, hserial⟩ := applyTopology_sid topology
      { beat with registered := route.registered, servedMapIds := route.servedMapIds }
    rw [hsid, hserial, hsame.1, hsame.2]
  next => rfl

/-- A disconnect of the latest connection of a slot aborts its enters. -/
theorem byOps_handleDisconnected (st : WorldRuntime) (sid serial : UInt32)
    (h : st.getLatestSerial sid = serial) :
    ∃ ops, AbortOps st.flow sid serial ops ∧ ByOps ops st (st.handleDisconnected sid serial) := by
  obtain ⟨ops, hops, hby⟩ := byOps_abortEnterWorldFlowBySession st sid serial
  refine ⟨ops, hops, hby.same ?_⟩
  simp only [handleDisconnected, h, if_true]
  rfl

/-- A kick aborts the enters of the displaced connection. -/
theorem byOps_processDuplicateWorldSessionKickOnIo (st : WorldRuntime)
    (ctx : DuplicateLoginLogContext) :
    ∃ ops, AbortOps st.flow ctx.sid ctx.serial ops ∧
      ByOps ops st (st.processDuplicateWorldSessionKickOnIo ctx) := by
  unfold processDuplicateWorldSessionKickOnIo
  split
  · exact ⟨[], .idle, .nil rfl⟩
  · obtain ⟨ops, hops, hby⟩ := byOps_abortEnterWorldFlowBySession st ctx.sid ctx.serial
    refine ⟨ops, hops, hby.same ?_⟩
    dsimp only
    split
    · rfl
    · split <;> rfl

/-- Of the network tasks only a disconnect concludes requests. -/
theorem stepOps_netTask (topology : Option ServerTopology) (st : WorldRuntime) (task : NetTask)
    (ready sent : Bool) :
    ∃ ops, StepOps topology st (.netTask task ready sent) ops ∧
      ByOps ops st (step topology st (.netTask task ready sent)) := by
  simp only [step]
  split
  next hposted =>
    cases task with
    | connected sid serial => exact ⟨[], .idle _ nofun, .nil rfl⟩
    | packet sid serial p =>
        refine ⟨[], .idle _ nofun, .nil ?_⟩
        exact assignView_handlePacket _ _ _ _ _ _
    | disconnected sid serial =>
        by_cases hlatest : st.getLatestSerial sid = serial
        · obtain ⟨ops, hops, hby⟩ := byOps_handleDisconnected
            { st with netTasks := st.netTasks.erase (.disconnected sid serial) } sid serial hlatest
          have htaken : ByOps [] st
              { st with netTasks := st.netTasks.erase (.disconnected sid serial) } := .nil rfl
          refine ⟨ops, .abort _ ?_ hops, htaken.append hby⟩
          rw [abortedBy, if_pos ⟨hposted, hlatest⟩]
        · refine ⟨[], .idle _ nofun, .nil ?_⟩
          have hstale : ({ st with netTasks := st.netTasks.erase (.disconnected sid serial) } :
              WorldRuntime).getLatestSerial sid ≠ serial := hlatest
          simp only [runNetTask, handleDisconnected, if_neg hstale]
          rfl
  next => exact ⟨[], .idle _ nofun, .nil rfl⟩

/-- Of the strand tasks only a kick does. -/
theorem stepOps_strand (topology : Option ServerTopology) (st : WorldRuntime) :
    ∃ ops, StepOps topology st .strand ops ∧ ByOps ops st (step topology st .strand) := by
  simp only [step]
  cases hstrand : st.strand with
  | nil => exact ⟨[], .idle _ nofun, .nil rfl⟩
  | cons task rest =>
      cases task with
      | close sid serial closeCharId closeReason =>
          refine ⟨[], .idle _ nofun, .nil ?_⟩
          exact assignView_runCloseTask _ _ _ _ _
      | kick ctx =>
          by_cases hchar : ctx.charId = 0
          · refine ⟨[], .idle _ nofun, .nil ?_⟩
            simp only [runStrandTask, processDuplicateWorldSessionKickOnIo, hchar, true_or, if_true]
            rfl
          · obtain ⟨ops, hops, hby⟩ := byOps_processDuplicateWorldSessionKickOnIo
              { st with strand := rest } ctx
            have htaken : ByOps [] st { st with strand := rest } := .nil rfl
            refine ⟨ops, .abort _ ?_ hops, htaken.append hby⟩
            rw [abortedBy, hstrand]
            exact if_neg hchar

/-- **Every step of the process works on the board by the operations of its
event.** -/
theorem stepOps_step (topology : Option ServerTopology) (hkeyed : st.flow.assignTables.Keyed)
    (e : Event) : ∃ ops, StepOps topology st e ops ∧ ByOps ops st (step topology st e) := by
  cases e with
  | accept => exact ⟨[], .idle _ nofun, .nil rfl⟩
  | receive sid serial p =>
      refine ⟨[], .idle _ nofun, .nil ?_⟩
      simp only [step]
      split <;> rfl
  | terminate sid serial =>
      refine ⟨[], .idle _ nofun, .nil ?_⟩
      simp only [step]
      split <;> rfl
  | netTask task ready sent => exact stepOps_netTask topology st task ready sent
  | strand => exact stepOps_strand topology st
  | timer id aborted =>
      refine ⟨[], .idle _ nofun, .nil ?_⟩
      simp only [step, onDelayedCloseTimer]
      split
      · rfl
      · split_ifs <;> rfl
  | ticketConsumeResponse res pushed =>
      exact ⟨[], .idle _ nofun, .nil (assignView_onWorldAuthTicketConsumeResponse _ _ _)⟩
  | snapshotResult rr answers =>
      obtain ⟨ops, hops, hby⟩ := byOps_onCharacterEnterSnapshotResult st topology rr answers
      exact ⟨ops, .enter rr answers hops, hby⟩
  | zoneMapAssignResponse sid serial res sendOk =>
      by_cases h : ∃ a, st.flow.pendingZoneAssign.find? (·.requestId == res.requestId) = some a ∧
          a.targetSid = sid ∧ a.targetSerial = serial
      · obtain ⟨a, hfind, htarget⟩ := h
        refine ⟨[.conclude a], .close _ nofun ⟨trivial, trivial⟩, ?_⟩
        exact byOps_onZoneMapAssignResponse st sendOk hfind htarget
      · refine ⟨[], .idle _ nofun, .nil (congrArg assignView ?_)⟩
        exact onZoneMapAssignResponse_of_stale st sendOk fun a hfind htarget =>
          h ⟨a, hfind, htarget⟩
  | zonePlayerEnterAck sid serial ack notified bytes =>
      exact ⟨[], .idle _ nofun, .nil (assignView_onZonePlayerEnterAck _ _ _ _ _ _)⟩
  | registerZoneRoute hello =>
      exact ⟨_, .register hello, .flow (nodup_map_upsertBy hkeyed.routes) rfl rfl⟩
  | zoneRouteHeartbeat beat =>
      refine ⟨_, .heartbeat beat, .flow ?_ rfl rfl⟩
      have hsids := congrArg (List.map Prod.fst) (map_onZoneRouteHeartbeat st.flow topology beat)
      rw [List.map_map, List.map_map] at hsids
      have hnodup : (st.flow.zoneRoutes.map (·.sid)).Nodup := hkeyed.routes
      rw [AssignOp.Enabled]
      exact Eq.subst (motive := fun l : List UInt32 => l.Nodup) hsids.symm hnodup
  | unregisterZoneRoute sid serial =>
      obtain ⟨ops, hclosing, hby⟩ := closes_unregisterZoneRoute st sid serial hkeyed
      exact ⟨ops, .close _ nofun hclosing, hby⟩
  | expireStaleZoneRoutes routes enters portals =>
      obtain ⟨ops, hclosing, hby⟩ := closes_expireStaleZoneRoutes st routes enters portals hkeyed
      exact ⟨ops, .close _ nofun hclosing, hby⟩
  | beginPortalTransfer request sendOk =>
      obtain ⟨ops, hops, hby⟩ := byOps_beginPortalTransfer st topology request sendOk
      exact ⟨ops, .transfer request sendOk hops, hby⟩
  | rehash routes assigns enters =>
      simp only [step]
      split
      next hperm =>
        refine ⟨_, .rehash routes assigns enters hperm.1,
          .quiet (by simp [AssignOp.settled]) rfl rfl ?_⟩
        exact ⟨(hperm.1.map _).nodup_iff.mpr hkeyed.routes, hperm.2.1, trivial⟩
      next => exact ⟨[], .idle _ nofun, .nil rfl⟩

/-- The tables have one record per key in every state. -/
theorem keyed_run (topology : Option ServerTopology) (es : List Event) :
    (run (step topology) initial es).flow.assignTables.Keyed := by
  refine run_induction (W := fun st : WorldRuntime => st.flow.assignTables.Keyed) ?_
    fun st e hkeyed => ?_
  · exact ⟨List.nodup_nil, List.nodup_nil, List.nodup_nil⟩
  · obtain ⟨ops, -, hby⟩ := stepOps_step topology hkeyed e
    exact hby.keyed hkeyed

end WorldRuntime

end GameServer
