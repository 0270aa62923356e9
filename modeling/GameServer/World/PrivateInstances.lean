import GameServer.Lib.Run
import GameServer.World.RoutingFrame

/-!
# GameServer.World.PrivateInstances

The instances that portal transfers to dungeon maps are given.

A transfer that requests instance 0 draws the next id of its map from
`next_dynamic_instance_id_by_map_`; a transfer that requests an id gets it.
Both number the instances of one map, and the counter does not look at the
requested ids.

* `TransferGrant`, `grantsOf` -- what a transfer asks for and what it is given
* `counters_step` -- only transfers move the counters
* `Counted` -- the counter of a map says how many ids were drawn for it
* `privateInstances_iff` -- a drawn id is new unless it was requested before
-/

namespace GameServer

namespace WorldRuntime

/-! ## Grants -/

/-- A transfer to a map: the instance id it requests and the one it is given. -/
structure TransferGrant where
  mapTemplateId : UInt32
  requested : UInt32
  given : UInt32
deriving DecidableEq, Repr

/-- The grant of an event, if it is a portal transfer. -/
def grantsOf (st : WorldRuntime) : Event → List TransferGrant
  | .beginPortalTransfer request _ =>
      [{ mapTemplateId := request.targetMapTemplateId
         requested := request.targetInstanceId
         given := (st.flow.resolvePortalTargetInstanceId request.targetMapTemplateId
          request.targetInstanceId).1 }]
  | _ => []

/-- The event is a transfer to this map. -/
def Event.isTransferTo (mapTemplateId : UInt32) : Event → Bool
  | .beginPortalTransfer request _ => request.targetMapTemplateId == mapTemplateId
  | _ => false

/-- The process with the grants it has made so far. -/
abbrev granting (topology : Option ServerTopology) :
    WorldRuntime × List TransferGrant → Event → WorldRuntime × List TransferGrant :=
  recording (step topology) grantsOf

/-- The transfer wants an instance of its own: a dungeon map, and no id
requested. -/
def TransferGrant.wantsOwn (g : TransferGrant) : Bool :=
  g.requested == 0 && EnterFlow.isDungeonMapTemplate g.mapTemplateId

/-- An event gives a transfer that wants an instance of its own a nonzero id
that no earlier transfer to the map was given. -/
def GivesOwn (sh : WorldRuntime × List TransferGrant) (e : Event) : Prop :=
  ∀ g ∈ grantsOf sh.1 e, g.wantsOwn = true →
    g.given ≠ 0 ∧ ∀ g' ∈ sh.2, g'.mapTemplateId = g.mapTemplateId → g'.given ≠ g.given

/-- How many ids were drawn for a map. -/
def drawn (history : List TransferGrant) (mapTemplateId : UInt32) : Nat :=
  history.countP fun g => g.mapTemplateId == mapTemplateId && g.requested == 0

/-- The id that is to be drawn, one more than were drawn before, has not been
requested for the map. -/
def DrawsUnrequested (sh : WorldRuntime × List TransferGrant) (e : Event) : Prop :=
  ∀ g ∈ grantsOf sh.1 e, g.wantsOwn = true →
    ∀ g' ∈ sh.2, g'.mapTemplateId = g.mapTemplateId →
      g'.requested ≠ UInt32.ofNat (drawn sh.2 g.mapTemplateId + 1)

/-! ## The counters -/

theorem counters_loseZoneRoute (st : WorldRuntime) (sid : UInt32) :
    (st.loseZoneRoute sid).flow.nextDynamicInstanceIdByMap = st.flow.nextDynamicInstanceIdByMap :=
  congrArg Prod.snd (standing_loseZoneRoute st sid)

/-- Only transfers move the counters. -/
theorem counters_step (topology : Option ServerTopology) (st : WorldRuntime) {e : Event}
    (he : e.isTransfer = false) :
    (step topology st e).flow.nextDynamicInstanceIdByMap = st.flow.nextDynamicInstanceIdByMap := by
  cases hrouting : e.touchesRouting with
  | false => exact congrArg Prod.snd (standing_step topology st hrouting he)
  | true =>
      cases e with
      | registerZoneRoute hello => rfl
      | zoneRouteHeartbeat beat => rfl
      | unregisterZoneRoute sid serial =>
          simp only [step, unregisterZoneRoute]
          split
          · rfl
          · split_ifs
            · rfl
            · exact counters_loseZoneRoute st sid
      | expireStaleZoneRoutes routes enters portals =>
          refine (congrArg Prod.snd
            (standing_expireStaleZoneRoutes st routes enters portals)).trans ?_
          exact foldl_of_trans
            (R := fun st st' : WorldRuntime =>
              st'.flow.nextDynamicInstanceIdByMap = st.flow.nextDynamicInstanceIdByMap)
            (fun _ => rfl) (fun h h' => h'.trans h) (fun st r _ => counters_loseZoneRoute st r.sid) st
      | zoneMapAssignResponse sid serial res sendOk =>
          exact congrArg Prod.snd (standing_onZoneMapAssignResponse st sid serial res sendOk)
      | rehash routes assigns enters =>
          simp only [step]
          split <;> rfl
      | _ => cases hrouting

/-- A transfer moves them as `ResolvePortalTargetInstanceId_` does. -/
theorem counters_beginPortalTransfer (st : WorldRuntime) (topology : Option ServerTopology)
    (request : PendingPortalTransfer) (assignSendOk : Bool) :
    (st.beginPortalTransfer topology request assignSendOk).flow.nextDynamicInstanceIdByMap =
      (st.flow.resolvePortalTargetInstanceId request.targetMapTemplateId
        request.targetInstanceId).2.nextDynamicInstanceIdByMap := by
  unfold beginPortalTransfer
  extract_lets resolved assigned st₁
  have hassigned : st₁.flow.nextDynamicInstanceIdByMap =
      resolved.2.nextDynamicInstanceIdByMap :=
    congrArg Prod.snd (EnterFlow.standing_assignMapInstance _ _ _ _ _ _)
  rw [← hassigned]
  split
  · rfl
  · split
    · rfl
    · exact congrArg Prod.snd (standing_completePortalTransfer _ _ _ _ _)
  · rfl

/-! ## What the counters say -/

theorem drawn_concat (history : List TransferGrant) (g : TransferGrant) (mapTemplateId : UInt32) :
    drawn (history ++ [g]) mapTemplateId =
      drawn history mapTemplateId +
        if g.mapTemplateId = mapTemplateId ∧ g.requested = 0 then 1 else 0 := by
  simp [drawn, List.countP_append, List.countP_singleton]

/-- The counter of a dungeon map is one more than the ids drawn for it, unless
there was none; drawn ids are numbered from one, requested ones are given. -/
structure Counted (sh : WorldRuntime × List TransferGrant) : Prop where
  counter : ∀ m, EnterFlow.isDungeonMapTemplate m = true →
    sh.1.flow.nextDynamicInstanceIdByMap m =
      if drawn sh.2 m = 0 then 0 else UInt32.ofNat (drawn sh.2 m + 1)
  own : ∀ g ∈ sh.2, g.wantsOwn = true →
    ∃ j, 1 ≤ j ∧ j ≤ drawn sh.2 g.mapTemplateId ∧ g.given = UInt32.ofNat j
  requested : ∀ g ∈ sh.2, g.requested ≠ 0 → g.given = g.requested

theorem counted_initial : Counted (initial, []) where
  counter _ _ := rfl
  own := List.forall_mem_nil _
  requested := List.forall_mem_nil _

/-- An event that is no transfer grants nothing. -/
theorem grantsOf_of_not_transfer (st : WorldRuntime) {e : Event} (he : e.isTransfer = false) :
    grantsOf st e = [] := by
  cases e with
  | beginPortalTransfer request sendOk => cases he
  | _ => rfl

section Step

variable {st : WorldRuntime} {history : List TransferGrant} {m r : UInt32}

theorem ofNat_ne_zero {n : Nat} (hpos : 0 < n) (hn : n < 2 ^ 32) : UInt32.ofNat n ≠ 0 := by
  intro h
  have hval := congrArg UInt32.toNat h
  rw [UInt32.toNat_ofNat_of_lt' hn] at hval
  exact hpos.ne' hval

/-- The id that is drawn. -/
theorem Counted.resolve_own (h : Counted (st, history))
    (hdungeon : EnterFlow.isDungeonMapTemplate m = true) (hbound : drawn history m + 1 < 2 ^ 32) :
    st.flow.resolvePortalTargetInstanceId m 0 =
      (UInt32.ofNat (drawn history m + 1),
        { st.flow with
          nextDynamicInstanceIdByMap := Function.update st.flow.nextDynamicInstanceIdByMap m
            (UInt32.ofNat (drawn history m + 1 + 1)) }) := by
  have hstored := h.counter m hdungeon
  have hne : UInt32.ofNat (drawn history m + 1) ≠ 0 := ofNat_ne_zero (Nat.succ_pos _) hbound
  have hnext : (if st.flow.nextDynamicInstanceIdByMap m = 0 then 1
      else st.flow.nextDynamicInstanceIdByMap m) = UInt32.ofNat (drawn history m + 1) := by
    rw [hstored]
    by_cases hzero : drawn history m = 0
    · rw [if_pos hzero, if_pos rfl, hzero]
      rfl
    · rw [if_neg hzero, if_neg hne]
  rw [EnterFlow.resolvePortalTargetInstanceId, if_neg (fun hz => hz rfl), hdungeon, if_neg (by simp)]
  simp only [hnext, UInt32.ofNat_add (drawn history m + 1) 1]
  rfl

/-- A transfer that draws no id leaves the counters alone. -/
theorem resolve_of_not_own (f : EnterFlow)
    (h : ¬(r = 0 ∧ EnterFlow.isDungeonMapTemplate m = true)) :
    f.resolvePortalTargetInstanceId m r = (r, f) := by
  unfold EnterFlow.resolvePortalTargetInstanceId
  by_cases hr : r = 0
  · have hdungeon : EnterFlow.isDungeonMapTemplate m = false :=
      Bool.eq_false_iff.mpr fun hd => h ⟨hr, hd⟩
    rw [if_neg (fun hne => hne hr), if_pos hdungeon, hr]
  · rw [if_pos hr]

/-- One more grant, drawn or requested, counted by the new counters. -/
theorem Counted.concat (h : Counted (st, history)) {st' : WorldRuntime} {g : TransferGrant}
    (hcounter : ∀ m, EnterFlow.isDungeonMapTemplate m = true →
      st'.flow.nextDynamicInstanceIdByMap m =
        if drawn (history ++ [g]) m = 0 then 0 else UInt32.ofNat (drawn (history ++ [g]) m + 1))
    (hown : g.wantsOwn = true → g.given = UInt32.ofNat (drawn history g.mapTemplateId + 1))
    (hrequested : g.requested ≠ 0 → g.given = g.requested) :
    Counted (st', history ++ [g]) where
  counter := hcounter
  own := by
    intro g' hg' hwants
    rw [drawn_concat]
    rcases List.mem_append.mp hg' with hold | hnew
    · obtain ⟨j, hj, hle, hgiven⟩ := h.own g' hold hwants
      exact ⟨j, hj, Nat.le_add_right_of_le hle, hgiven⟩
    · rw [List.mem_singleton.mp hnew] at hwants ⊢
      have hzero : g.requested = 0 := by
        rw [TransferGrant.wantsOwn, Bool.and_eq_true, beq_iff_eq] at hwants
        exact hwants.1
      exact ⟨_, Nat.le_add_left 1 _, by simp [hzero], hown hwants⟩
  requested := by
    intro g' hg' hne
    rcases List.mem_append.mp hg' with hold | hnew
    · exact h.requested g' hold hne
    · rw [List.mem_singleton.mp hnew] at hne ⊢
      exact hrequested hne

/-- A transfer draws the next number of its map, which is not zero below the bound. -/
theorem Counted.transfer (h : Counted (st, history)) (topology : Option ServerTopology)
    (request : PendingPortalTransfer) (assignSendOk : Bool)
    (hbound : drawn history request.targetMapTemplateId + 1 < 2 ^ 32) :
    Counted (granting topology (st, history) (.beginPortalTransfer request assignSendOk)) := by
  have hcounters := counters_beginPortalTransfer st topology request assignSendOk
  have hrecord : granting topology (st, history) (.beginPortalTransfer request assignSendOk) =
      (st.beginPortalTransfer topology request assignSendOk,
        history ++ [⟨request.targetMapTemplateId, request.targetInstanceId,
          (st.flow.resolvePortalTargetInstanceId request.targetMapTemplateId
            request.targetInstanceId).1⟩]) := rfl
  rw [hrecord]
  by_cases hown : request.targetInstanceId = 0 ∧
      EnterFlow.isDungeonMapTemplate request.targetMapTemplateId = true
  · rw [hown.1, h.resolve_own hown.2 hbound] at hcounters ⊢
    refine h.concat (fun m hm => ?_) (fun _ => rfl) (fun hne => absurd rfl hne)
    rw [hcounters, drawn_concat]
    dsimp only
    by_cases hmap : m = request.targetMapTemplateId
    · simp [hmap]
    · have hother : ¬(request.targetMapTemplateId = m ∧ (0 : UInt32) = 0) :=
        fun hand => hmap hand.1.symm
      rw [if_neg hother]
      exact (Function.update_of_ne hmap _ _).trans (h.counter m hm)
  · rw [resolve_of_not_own st.flow hown] at hcounters ⊢
    refine h.concat (fun m hm => ?_) (fun hwants => ?_) (fun _ => rfl)
    · rw [hcounters, drawn_concat]
      have hother : ¬(request.targetMapTemplateId = m ∧ request.targetInstanceId = 0) :=
        fun hand => hown ⟨hand.2, hand.1 ▸ hm⟩
      rw [if_neg hother]
      exact h.counter m hm
    · rw [TransferGrant.wantsOwn, Bool.and_eq_true, beq_iff_eq] at hwants
      exact absurd hwants hown

/-- Other events draw none. -/
theorem Counted.idle (h : Counted (st, history)) (topology : Option ServerTopology) {e : Event}
    (he : e.isTransfer = false) : Counted (granting topology (st, history) e) := by
  have hrecord : granting topology (st, history) e = (step topology st e, history) := by
    rw [granting, recording, grantsOf_of_not_transfer st he, List.append_nil]
  rw [hrecord]
  refine ⟨fun m hm => ?_, h.own, h.requested⟩
  dsimp only
  rw [counters_step topology st he]
  exact h.counter m hm

/-- **One event** gives a transfer an instance of its own exactly if the id it
draws was not requested before. -/
theorem givesOwn_iff (h : Counted (st, history)) {e : Event}
    (hbound : ∀ m, e.isTransferTo m = true → drawn history m + 1 < 2 ^ 32) :
    GivesOwn (st, history) e ↔ DrawsUnrequested (st, history) e := by
  cases he : e.isTransfer with
  | false => simp [GivesOwn, DrawsUnrequested, grantsOf_of_not_transfer st he]
  | true =>
      cases e with
      | beginPortalTransfer request sendOk =>
          simp only [GivesOwn, DrawsUnrequested, grantsOf, List.forall_mem_singleton,
            TransferGrant.wantsOwn, Bool.and_eq_true, beq_iff_eq]
          refine imp_congr_right fun ⟨hzero, hdungeon⟩ => ?_
          have hdraw := hbound request.targetMapTemplateId (beq_self_eq_true _)
          rw [hzero, h.resolve_own hdungeon hdraw]
          have hne := ofNat_ne_zero (Nat.succ_pos _) hdraw
          refine (and_iff_right hne).trans
            (forall₂_congr fun g hg => imp_congr_right fun hmap => ?_)
          by_cases hreq : g.requested = 0
          · obtain ⟨j, hj, hle, hgiven⟩ := h.own g hg (by simp [TransferGrant.wantsOwn, *])
            have hle : j ≤ drawn history request.targetMapTemplateId := hmap ▸ hle
            have hlt : j < UInt32.size := (hle.trans (Nat.le_succ _)).trans_lt hdraw
            rw [hreq, hgiven]
            refine iff_of_true (fun heq => ?_) hne.symm
            have hval := congrArg UInt32.toNat heq
            rw [UInt32.toNat_ofNat_of_lt' hdraw, UInt32.toNat_ofNat_of_lt' hlt] at hval
            omega
          · rw [h.requested g hg hreq]
      | _ => cases he

end Step

/-! ## Whole runs -/

/-- A step draws one number at most, for the map of its transfer. -/
theorem drawn_grantsOf_le (st : WorldRuntime) (history : List TransferGrant) (e : Event)
    (m : UInt32) :
    drawn (history ++ grantsOf st e) m ≤
      drawn history m + if e.isTransferTo m = true then 1 else 0 := by
  cases e with
  | beginPortalTransfer request sendOk =>
      rw [grantsOf, drawn_concat]
      simp only [Event.isTransferTo, beq_iff_eq]
      split_ifs with hdrawn hmap
      · exact Nat.le_refl _
      · exact absurd hdrawn.1 hmap
      · exact Nat.le_succ _
      · exact Nat.le_refl _
  | _ => simp [grantsOf]

/-- Over a run whose numbers do not wrap, each grant is fresh exactly if its number was
not requested before. -/
theorem along_givesOwn_iff (topology : Option ServerTopology) {st : WorldRuntime}
    {history : List TransferGrant} (h : Counted (st, history)) {es : List Event}
    (hbound : ∀ m, drawn history m + es.countP (Event.isTransferTo m) < 2 ^ 32) :
    Along (granting topology) GivesOwn (st, history) es ↔
      Along (granting topology) DrawsUnrequested (st, history) es := by
  induction es generalizing st history with
  | nil => exact Iff.rfl
  | cons e es ih =>
      have hhead : ∀ m, e.isTransferTo m = true → drawn history m + 1 < 2 ^ 32 := by
        intro m hm
        have hm' := hbound m
        rw [List.countP_cons_of_pos hm] at hm'
        omega
      have hnext : Counted (granting topology (st, history) e) := by
        cases he : e.isTransfer with
        | false => exact h.idle topology he
        | true =>
            cases e with
            | beginPortalTransfer request sendOk =>
                exact h.transfer topology request sendOk (hhead _ (beq_self_eq_true _))
            | _ => cases he
      refine and_congr (givesOwn_iff h hhead) (ih hnext fun m => ?_)
      have hm := hbound m
      have hle := drawn_grantsOf_le st history e m
      rw [List.countP_cons] at hm
      change drawn (history ++ grantsOf st e) m + _ < _
      omega

/-- In every run of the process with fewer than `2 ^ 32` transfers to each map,
a transfer that wants an instance of its own gets one exactly if the id it
draws was not requested for the map before. -/
theorem privateInstances_iff (topology : Option ServerTopology) (es : List Event)
    (hbound : ∀ m, es.countP (Event.isTransferTo m) < 2 ^ 32) :
    Along (granting topology) GivesOwn (initial, []) es ↔
      Along (granting topology) DrawsUnrequested (initial, []) es := by
  refine along_givesOwn_iff topology counted_initial fun m => ?_
  rw [show drawn [] m = 0 from rfl, Nat.zero_add]
  exact hbound m

/-- A transfer to dungeon map 2000. -/
def toDungeon (requested : UInt32) : Event :=
  .beginPortalTransfer
    { sid := 1, serial := 1, charId := 7, sourceZoneId := 1, sourceMapTemplateId := 1000
      sourceInstanceId := 0, targetMapTemplateId := 2000, targetInstanceId := requested
      targetX := 0, targetY := 0 } true

theorem privateInstances_iff_drawn :
    Along (granting none) GivesOwn (initial, []) [toDungeon 0, toDungeon 0] ↔
      Along (granting none) DrawsUnrequested (initial, []) [toDungeon 0, toDungeon 0] :=
  privateInstances_iff none [toDungeon 0, toDungeon 0] fun m =>
    List.countP_le_length.trans_lt (by decide)

/-- Instance 1 is requested, and then drawn for a transfer that wants its own. -/
theorem requested_instance_drawn :
    (∀ m, [toDungeon 1, toDungeon 0].countP (Event.isTransferTo m) < 2 ^ 32) ∧
    ¬Along (granting none) GivesOwn (initial, []) [toDungeon 1, toDungeon 0] := by
  refine ⟨fun m => List.countP_le_length.trans_lt (by decide), ?_⟩
  rintro ⟨-, hgives, -⟩
  obtain ⟨-, hnew⟩ := hgives ⟨2000, 0, 1⟩ List.mem_cons_self rfl
  exact hnew ⟨2000, 1, 1⟩ List.mem_cons_self rfl rfl

end WorldRuntime

end GameServer
