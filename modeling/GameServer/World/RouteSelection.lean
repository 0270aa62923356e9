import GameServer.Lib.RunningBest
import GameServer.World.ZoneRoute
import Mathlib.Data.List.MinMax
import Mathlib.Data.Prod.Lex

/-!
# GameServer.World.RouteSelection

What `TrySelectZoneRoute_` and `TrySelectZoneRouteForMap_` choose, and how
much of it depends on the order in which `zone_routes_by_sid_` is iterated.

Both choose an eligible route of least pressure.  The comparisons are an
order only for `TrySelectZoneRouteForMap_` with `dungeon_instance`: without
it the channel decides between routes of equal map instance counts only, and
`TrySelectZoneRoute_` takes fewer players after fewer map instances without
asking for equal counts.

* `RouteLoad` -- the fields the comparisons use
* `RouteChoice` -- the choice is eligible, of least pressure, and the same
  for every order unless two eligible routes tie
* `routeChoice_forMap_iff`, `routeChoice_any_iff` -- when that holds
-/

namespace GameServer

/-- What the selections compare; the counters are unsigned. -/
@[ext]
structure RouteLoad where
  pressure : Nat
  players : Nat
  mapInstances : Nat
  channel : Nat
deriving DecidableEq, Repr

namespace EnterFlow

/-- The load of a route under the pending requests of `f`. -/
def loadOf (f : EnterFlow) (r : ZoneRouteState) : RouteLoad where
  pressure := (f.computeEffectiveRoutePressure r).toNat
  players := r.activePlayerCount.toNat
  mapInstances := r.activeMapInstanceCount.toNat
  channel := r.channelId.toNat

/-- The routes the loop does not skip. -/
def isCandidate (serves : ZoneRouteState → Bool) (r : ZoneRouteState) : Bool :=
  r.registered && r.serial != 0 && r.zoneId != 0 && serves r

/-- The routes the loop compares, in the order of the table. -/
def candidates (f : EnterFlow) (serves : ZoneRouteState → Bool) : List ZoneRouteState :=
  f.zoneRoutes.filter (isCandidate serves)

/-- Two eligible routes tie on every field. -/
def HasTie (f : EnterFlow) (serves : ZoneRouteState → Bool) : Prop :=
  ∃ a ∈ f.candidates serves, ∃ b ∈ f.candidates serves, a ≠ b ∧ f.loadOf a = f.loadOf b

/-- The choice is an eligible route, no eligible route has smaller pressure,
and every order of the table gives the same choice unless two routes tie. -/
structure RouteChoice (f : EnterFlow) (serves : ZoneRouteState → Bool)
    (select : EnterFlow → Option ZoneRouteState) : Prop where
  eligible : ∀ z, select f = some z → z ∈ f.zoneRoutes ∧ isCandidate serves z = true
  found : select f = none → f.candidates serves = []
  least : ∀ z, select f = some z → ∀ r ∈ f.candidates serves,
    f.computeEffectiveRoutePressure z ≤ f.computeEffectiveRoutePressure r
  sameForEveryOrder : ¬f.HasTie serves → ∀ routes : List ZoneRouteState,
    routes.Perm f.zoneRoutes → select { f with zoneRoutes := routes } = select f

/-! ## The comparisons -/

/-- The comparison of `TrySelectZoneRouteForMap_`. -/
def betterForMap (f : EnterFlow) (dungeonInstance : Bool) (a b : ZoneRouteState) : Bool :=
  let pa := f.computeEffectiveRoutePressure a
  let pb := f.computeEffectiveRoutePressure b
  let samePlayers := a.activePlayerCount == b.activePlayerCount
  pa < pb ||
    pa == pb && decide (a.activePlayerCount < b.activePlayerCount) ||
    pa == pb && samePlayers && dungeonInstance &&
      decide (a.activeMapInstanceCount < b.activeMapInstanceCount) ||
    pa == pb && samePlayers && a.activeMapInstanceCount == b.activeMapInstanceCount &&
      decide (a.channelId < b.channelId)

/-- The comparison of `TrySelectZoneRoute_`. -/
def betterAny (f : EnterFlow) (dungeonInstance : Bool) (a b : ZoneRouteState) : Bool :=
  let pa := f.computeEffectiveRoutePressure a
  let pb := f.computeEffectiveRoutePressure b
  pa < pb ||
    pa == pb && dungeonInstance &&
      decide (a.activeMapInstanceCount < b.activeMapInstanceCount) ||
    pa == pb && decide (a.activePlayerCount < b.activePlayerCount)

/-- The loop keeps the best candidate so far. -/
theorem selectRoute_eq (routes : List ZoneRouteState) (serves : ZoneRouteState → Bool)
    (better : ZoneRouteState → ZoneRouteState → Bool) :
    selectRoute routes serves better =
      runningBest better (routes.filter (isCandidate serves)) := by
  rw [selectRoute, runningBest]
  congr 1
  funext best current
  cases best <;> rfl

/-- The comparison for a map, one tie-breaker after the other. -/
theorem betterForMap_iff {f : EnterFlow} {dungeonInstance : Bool} {a b : ZoneRouteState} :
    f.betterForMap dungeonInstance a b = true ↔
      (f.loadOf a).pressure < (f.loadOf b).pressure ∨
      (f.loadOf a).pressure = (f.loadOf b).pressure ∧
        ((f.loadOf a).players < (f.loadOf b).players ∨
        (f.loadOf a).players = (f.loadOf b).players ∧
          (dungeonInstance = true ∧ (f.loadOf a).mapInstances < (f.loadOf b).mapInstances ∨
          (f.loadOf a).mapInstances = (f.loadOf b).mapInstances ∧
            (f.loadOf a).channel < (f.loadOf b).channel)) := by
  simp only [betterForMap, loadOf, Bool.or_eq_true, Bool.and_eq_true, decide_eq_true_eq,
    beq_iff_eq, UInt32.lt_iff_toNat_lt, UInt16.lt_iff_toNat_lt, ← UInt32.toNat_inj,
    ← UInt16.toNat_inj]
  tauto

/-- The comparison without a map. -/
theorem betterAny_iff {f : EnterFlow} {dungeonInstance : Bool} {a b : ZoneRouteState} :
    f.betterAny dungeonInstance a b = true ↔
      (f.loadOf a).pressure < (f.loadOf b).pressure ∨
      (f.loadOf a).pressure = (f.loadOf b).pressure ∧
        (dungeonInstance = true ∧ (f.loadOf a).mapInstances < (f.loadOf b).mapInstances ∨
        (f.loadOf a).players < (f.loadOf b).players) := by
  simp only [betterAny, loadOf, Bool.or_eq_true, Bool.and_eq_true, decide_eq_true_eq,
    beq_iff_eq, UInt32.lt_iff_toNat_lt, UInt16.lt_iff_toNat_lt, ← UInt32.toNat_inj]
  tauto

instance (f : EnterFlow) (serves : ZoneRouteState → Bool) : Decidable (f.HasTie serves) :=
  inferInstanceAs (Decidable (∃ a ∈ f.candidates serves, ∃ b ∈ f.candidates serves,
    a ≠ b ∧ f.loadOf a = f.loadOf b))

/-! ## The choice and the strongest route -/

/-- Reordering the table reorders the routes compared, and every order of
these comes from one of the table. -/
theorem forall_perm_candidates {f : EnterFlow} {serves : ZoneRouteState → Bool}
    {P : List ZoneRouteState → Prop} :
    (∀ routes : List ZoneRouteState, routes.Perm f.zoneRoutes →
        P (routes.filter (isCandidate serves))) ↔
      ∀ l, l.Perm (f.candidates serves) → P l := by
  refine ⟨fun h l hl => ?_, fun h routes hroutes => h _ (hroutes.filter _)⟩
  have hself : l.filter (isCandidate serves) = l :=
    List.filter_eq_self.mpr fun r hr => (List.mem_filter.mp (hl.mem_iff.mp hr)).2
  have hrest : (f.zoneRoutes.filter fun r => !isCandidate serves r).filter
      (isCandidate serves) = [] := by
    rw [List.filter_eq_nil_iff]
    intro r hr
    simpa using (List.mem_filter.mp hr).2
  have hall := h (l ++ f.zoneRoutes.filter fun r => !isCandidate serves r)
    ((hl.append_right _).trans (List.filter_append_perm _ _))
  rwa [List.filter_append, hself, hrest, List.append_nil] at hall

section Choice

variable {f : EnterFlow} {serves : ZoneRouteState → Bool}

theorem nodup_candidates (hsid : (f.zoneRoutes.map (·.sid)).Nodup) :
    (f.candidates serves).Nodup :=
  (List.Nodup.of_map _ hsid).filter _

/-- A selection that is a running best over the candidates, by a comparison
that never prefers more pressure, has only the order left to ask for. -/
theorem routeChoice_iff_strongest {select : EnterFlow → Option ZoneRouteState}
    (better : ZoneRouteState → ZoneRouteState → Bool)
    (hsid : (f.zoneRoutes.map (·.sid)).Nodup)
    (hselect : ∀ routes, select { f with zoneRoutes := routes } =
      runningBest better (routes.filter (isCandidate serves)))
    (hlow : ∀ a b, better a b = true → (f.loadOf a).pressure ≤ (f.loadOf b).pressure)
    (hnot : ∀ a b, better a b = false → (f.loadOf b).pressure ≤ (f.loadOf a).pressure) :
    RouteChoice f serves select ↔
      f.HasTie serves ∨ f.candidates serves = [] ∨
        ∃ z, Strongest better (f.candidates serves) z := by
  have hself : select f = runningBest better (f.candidates serves) := hselect f.zoneRoutes
  have horder : (∀ routes : List ZoneRouteState, routes.Perm f.zoneRoutes →
      select { f with zoneRoutes := routes } = select f) ↔
      f.candidates serves = [] ∨ ∃ z, Strongest better (f.candidates serves) z := by
    simp only [hself, hselect]
    rw [← runningBest_perm_iff (nodup_candidates hsid)]
    exact forall_perm_candidates
      (P := fun l => runningBest better l = runningBest better (f.candidates serves))
  constructor
  · intro h
    by_cases htie : f.HasTie serves
    · exact .inl htie
    · exact .inr (horder.mp (h.sameForEveryOrder htie))
  · intro h
    refine ⟨fun z hz => ?_, fun hnone => ?_, fun z hz r hr => ?_, fun htie => ?_⟩
    · rw [hself] at hz
      exact List.mem_filter.mp (runningBest_mem hz)
    · rw [hself] at hnone
      exact runningBest_eq_none_iff.mp hnone
    · rw [hself] at hz
      rw [UInt32.le_iff_toNat_le]
      exact runningBest_le hlow hnot hz r hr
    · exact horder.mpr (h.resolve_left htie)

/-! ## Routes of least load -/

/-- An eligible route of least pressure and, at that pressure, of fewest
players. -/
def LeastLoaded (f : EnterFlow) (serves : ZoneRouteState → Bool) (r : ZoneRouteState) : Prop :=
  r ∈ f.candidates serves ∧ ∀ y ∈ f.candidates serves,
    (f.loadOf r).pressure < (f.loadOf y).pressure ∨
      (f.loadOf r).pressure = (f.loadOf y).pressure ∧ (f.loadOf r).players ≤ (f.loadOf y).players

/-- An eligible route of least pressure that has fewest players and fewest map
instances at that pressure, and no other has as few of both. -/
def LeastOfBoth (f : EnterFlow) (serves : ZoneRouteState → Bool) (r : ZoneRouteState) : Prop :=
  r ∈ f.candidates serves ∧ ∀ y ∈ f.candidates serves, y ≠ r →
    (f.loadOf r).pressure < (f.loadOf y).pressure ∨
      (f.loadOf r).pressure = (f.loadOf y).pressure ∧
        (f.loadOf r).players ≤ (f.loadOf y).players ∧
        (f.loadOf r).mapInstances ≤ (f.loadOf y).mapInstances ∧
        ((f.loadOf r).players < (f.loadOf y).players ∨
          (f.loadOf r).mapInstances < (f.loadOf y).mapInstances)

/-- Any measure in a linear order is least somewhere. -/
theorem exists_least {β : Type} [LinearOrder β] (μ : ZoneRouteState → β)
    (hne : f.candidates serves ≠ []) :
    ∃ z ∈ f.candidates serves, ∀ y ∈ f.candidates serves, μ z ≤ μ y := by
  have hsome : List.argmin μ (f.candidates serves) ≠ none := by
    rw [ne_eq, List.argmin_eq_none]
    exact hne
  obtain ⟨z, hz⟩ := Option.ne_none_iff_exists'.mp hsome
  exact ⟨z, List.argmin_mem hz, fun y hy => List.le_of_mem_argmin hy hz⟩

/-- With `dungeon_instance` the comparison for a map is the order of the four
fields, so its least route is the strongest. -/
theorem exists_strongest_forMap_dungeon (htie : ¬f.HasTie serves)
    (hne : f.candidates serves ≠ []) :
    ∃ z, Strongest (f.betterForMap true) (f.candidates serves) z := by
  obtain ⟨z, hz, hleast⟩ := exists_least (fun r => toLex ((f.loadOf r).pressure,
    toLex ((f.loadOf r).players, toLex ((f.loadOf r).mapInstances, (f.loadOf r).channel)))) hne
  refine ⟨z, hz, fun y hy hyz => ?_⟩
  have hload : f.loadOf z ≠ f.loadOf y := fun heq => htie ⟨z, hz, y, hy, hyz.symm, heq⟩
  have hle := hleast y hy
  simp only [Prod.Lex.toLex_le_toLex] at hle
  rw [ne_eq, RouteLoad.ext_iff] at hload
  simp only [Bool.eq_false_iff, ne_eq, betterForMap_iff, true_and]
  omega

/-- Without it the channel decides among the least loaded routes, if these
have equal map instance counts. -/
theorem exists_strongest_forMap (htie : ¬f.HasTie serves) (hne : f.candidates serves ≠ [])
    (hmaps : ∀ a b, f.LeastLoaded serves a → f.LeastLoaded serves b →
      (f.loadOf a).mapInstances = (f.loadOf b).mapInstances) :
    ∃ z, Strongest (f.betterForMap false) (f.candidates serves) z := by
  obtain ⟨z, hz, hleast⟩ := exists_least (fun r => toLex ((f.loadOf r).pressure,
    toLex ((f.loadOf r).players, (f.loadOf r).channel))) hne
  simp only [Prod.Lex.toLex_le_toLex] at hleast
  have hlow : f.LeastLoaded serves z := ⟨hz, fun y hy => by have hle := hleast y hy; omega⟩
  refine ⟨z, hz, fun y hy hyz => ?_⟩
  have hload : f.loadOf z ≠ f.loadOf y := fun heq => htie ⟨z, hz, y, hy, hyz.symm, heq⟩
  have hle := hleast y hy
  have heven : (f.loadOf z).pressure = (f.loadOf y).pressure →
      (f.loadOf z).players = (f.loadOf y).players →
      (f.loadOf z).mapInstances = (f.loadOf y).mapInstances := by
    intro hp hn
    exact hmaps z y hlow ⟨hy, fun w hw => hp ▸ hn ▸ hlow.2 w hw⟩
  rw [ne_eq, RouteLoad.ext_iff] at hload
  simp only [Bool.eq_false_iff, ne_eq, betterForMap_iff, Bool.false_eq_true, false_and, false_or]
  omega

/-- The strongest route has as many map instances as any least loaded one. -/
theorem mapInstances_eq_of_strongest {z r : ZoneRouteState}
    (hz : Strongest (f.betterForMap false) (f.candidates serves) z)
    (hr : f.LeastLoaded serves r) :
    (f.loadOf z).mapInstances = (f.loadOf r).mapInstances := by
  by_cases hrz : r = z
  · rw [hrz]
  · have hbeats := (hz.2 r hr.1 hrz).1
    have hlow := hr.2 z hz.1
    simp only [betterForMap_iff, Bool.false_eq_true, false_and, false_or] at hbeats
    omega

/-- Without `dungeon_instance` only pressure and players are compared, so the
strongest route is the only one of least load. -/
theorem exists_strongest_any (hne : f.candidates serves ≠ []) :
    (∃ z, Strongest (f.betterAny false) (f.candidates serves) z) ↔
      ∀ a b, f.LeastLoaded serves a → f.LeastLoaded serves b → a = b := by
  have hbetter : ∀ a b, f.betterAny false a b = true ↔
      (f.loadOf a).pressure < (f.loadOf b).pressure ∨
      (f.loadOf a).pressure = (f.loadOf b).pressure ∧
        (f.loadOf a).players < (f.loadOf b).players := by
    simp [betterAny_iff]
  constructor
  · rintro ⟨z, hz, hbeats⟩
    have honly : ∀ r, f.LeastLoaded serves r → r = z := by
      intro r hr
      by_contra hrz
      have hwin := (hbetter z r).mp (hbeats r hr.1 hrz).1
      have hlow := hr.2 z hz
      omega
    intro a b ha hb
    rw [honly a ha, honly b hb]
  · intro hall
    obtain ⟨z, hz, hleast⟩ := exists_least (fun r => toLex ((f.loadOf r).pressure,
      (f.loadOf r).players)) hne
    simp only [Prod.Lex.toLex_le_toLex] at hleast
    refine ⟨z, hz, fun y hy hyz => ?_⟩
    have hle := hleast y hy
    have hdiffer : ¬((f.loadOf z).pressure = (f.loadOf y).pressure ∧
        (f.loadOf z).players = (f.loadOf y).players) := by
      rintro ⟨hp, hn⟩
      exact hyz (hall y z ⟨hy, fun w hw => hp ▸ hn ▸ hleast w hw⟩ ⟨hz, hleast⟩)
    rw [Bool.eq_false_iff, ne_eq, hbetter, hbetter]
    omega

/-- With it, the strongest route is least in both counts at once. -/
theorem strongest_any_dungeon_iff {z : ZoneRouteState} :
    Strongest (f.betterAny true) (f.candidates serves) z ↔ f.LeastOfBoth serves z := by
  refine and_congr_right fun _ => forall₂_congr fun y _ => forall_congr' fun _ => ?_
  simp only [Bool.eq_false_iff, ne_eq, betterAny_iff, true_and]
  omega

end Choice

/-! ## When the choice is the same for every order -/

/-- Two eligible routes tie, or the map instance counts are compared, or all
least loaded routes have as many. -/
def ClearForMap (f : EnterFlow) (mapTemplateId : UInt32) (dungeonInstance : Bool) : Prop :=
  f.HasTie (routeServesMap · mapTemplateId) ∨ dungeonInstance = true ∨
    ∀ a b, f.LeastLoaded (routeServesMap · mapTemplateId) a →
      f.LeastLoaded (routeServesMap · mapTemplateId) b →
      (f.loadOf a).mapInstances = (f.loadOf b).mapInstances

/-- Two eligible routes tie, or there is none, or one of least pressure is
least in players, and with `dungeon_instance` also in map instances. -/
def ClearForAny (f : EnterFlow) (dungeonInstance : Bool) : Prop :=
  f.HasTie (fun _ => true) ∨ f.candidates (fun _ => true) = [] ∨
    if dungeonInstance then ∃ z, f.LeastOfBoth (fun _ => true) z
    else ∀ a b, f.LeastLoaded (fun _ => true) a → f.LeastLoaded (fun _ => true) b → a = b

/-- The choice for a map does not depend on the order of the routes exactly if it is
clear. -/
theorem routeChoice_forMap_iff {f : EnterFlow} (hsid : (f.zoneRoutes.map (·.sid)).Nodup)
    (mapTemplateId : UInt32) (dungeonInstance : Bool) :
    RouteChoice f (routeServesMap · mapTemplateId)
        (·.trySelectZoneRouteForMap mapTemplateId dungeonInstance) ↔
      f.ClearForMap mapTemplateId dungeonInstance := by
  rw [routeChoice_iff_strongest (f.betterForMap dungeonInstance) hsid
    (fun _ => selectRoute_eq _ _ _) (fun a b h => by rw [betterForMap_iff] at h; omega)
    (fun a b h => by rw [Bool.eq_false_iff, ne_eq, betterForMap_iff] at h; omega), ClearForMap]
  by_cases htie : f.HasTie (routeServesMap · mapTemplateId)
  · exact iff_of_true (.inl htie) (.inl htie)
  refine or_congr_right ?_
  constructor
  · rintro (hempty | ⟨z, hz⟩)
    · exact .inr fun a _ ha => absurd ha.1 (hempty ▸ List.not_mem_nil)
    · cases dungeonInstance with
      | true => exact .inl rfl
      | false =>
          refine .inr fun a b ha hb => ?_
          rw [← mapInstances_eq_of_strongest hz ha, mapInstances_eq_of_strongest hz hb]
  · intro h
    by_cases hempty : f.candidates (routeServesMap · mapTemplateId) = []
    · exact .inl hempty
    · right
      cases dungeonInstance with
      | true => exact exists_strongest_forMap_dungeon htie hempty
      | false => exact exists_strongest_forMap htie hempty (h.resolve_left Bool.false_ne_true)

/-- The same without a map. -/
theorem routeChoice_any_iff {f : EnterFlow} (hsid : (f.zoneRoutes.map (·.sid)).Nodup)
    (dungeonInstance : Bool) :
    RouteChoice f (fun _ => true) (·.trySelectZoneRoute dungeonInstance) ↔
      f.ClearForAny dungeonInstance := by
  rw [routeChoice_iff_strongest (f.betterAny dungeonInstance) hsid
    (fun _ => selectRoute_eq _ _ _) (fun a b h => by rw [betterAny_iff] at h; omega)
    (fun a b h => by rw [Bool.eq_false_iff, ne_eq, betterAny_iff] at h; omega), ClearForAny]
  refine or_congr_right ?_
  by_cases hempty : f.candidates (fun _ => true) = []
  · exact iff_of_true (.inl hempty) (.inl hempty)
  · refine or_congr_right ?_
    cases dungeonInstance with
    | true => exact exists_congr fun z => strongest_any_dungeon_iff
    | false => exact exists_strongest_any hempty

/-- Both selections choose an eligible route of least pressure; their choice
is the same for every order of the routes exactly where these are clear. -/
theorem routeSelection_iff {f : EnterFlow} (hsid : (f.zoneRoutes.map (·.sid)).Nodup)
    (mapTemplateId : UInt32) (dungeonInstance : Bool) :
    (RouteChoice f (routeServesMap · mapTemplateId)
        (·.trySelectZoneRouteForMap mapTemplateId dungeonInstance) ↔
      f.ClearForMap mapTemplateId dungeonInstance) ∧
    (RouteChoice f (fun _ => true) (·.trySelectZoneRoute dungeonInstance) ↔
      f.ClearForAny dungeonInstance) :=
  ⟨routeChoice_forMap_iff hsid mapTemplateId dungeonInstance,
    routeChoice_any_iff hsid dungeonInstance⟩

/-- A route with one map instance, on the second channel. -/
def fewMaps : ZoneRouteState where
  sid := 1
  serial := 1
  serverId := 11
  zoneId := 1
  channelId := 2
  activeMapInstanceCount := 1
  activePlayerCount := 10

/-- A route with one more, on the first channel. -/
def moreMaps : ZoneRouteState where
  sid := 2
  serial := 2
  serverId := 12
  zoneId := 1
  channelId := 1
  activeMapInstanceCount := 2
  activePlayerCount := 10

/-- The channels would decide, but the counts differ and are not compared. -/
def unevenRoutes : EnterFlow := { initial with zoneRoutes := [fewMaps, moreMaps] }

/-- Fewer maps on one side, fewer players on the other. -/
def crossedRoutes : EnterFlow :=
  { initial with zoneRoutes := [fewMaps, { moreMaps with activePlayerCount := 5 }] }

theorem routeSelection_iff_uneven :
    (RouteChoice unevenRoutes (routeServesMap · 1000) (·.trySelectZoneRouteForMap 1000 false) ↔
      unevenRoutes.ClearForMap 1000 false) ∧
    (RouteChoice unevenRoutes (fun _ => true) (·.trySelectZoneRoute false) ↔
      unevenRoutes.ClearForAny false) :=
  routeSelection_iff (by decide) 1000 false

/-- Neither selection is the same for every order: the routes do not tie, and
the other order of the table gives the other route. -/
theorem routeChoice_depends_on_order :
    ((unevenRoutes.zoneRoutes.map (·.sid)).Nodup ∧
      ¬RouteChoice unevenRoutes (routeServesMap · 1000)
        (·.trySelectZoneRouteForMap 1000 false)) ∧
    (crossedRoutes.zoneRoutes.map (·.sid)).Nodup ∧
      ¬RouteChoice crossedRoutes (fun _ => true) (·.trySelectZoneRoute true) := by
  refine ⟨⟨by decide, fun h => ?_⟩, by decide, fun h => ?_⟩
  · have hswap := h.sameForEveryOrder (by decide) [moreMaps, fewMaps] (List.Perm.swap _ _ _)
    revert hswap
    decide
  · have hswap := h.sameForEveryOrder (by decide)
      [{ moreMaps with activePlayerCount := 5 }, fewMaps] (List.Perm.swap _ _ _)
    revert hswap
    decide

end EnterFlow

end GameServer
