import GameServer.Account.Tickets

/-!
# GameServer.Account.WorldRegistry

The index of the registered worlds is a view of the registered worlds.

A connection claims a world by its hello, or by its ready notification; the
history of a run is these claims.

* `RegistryBijection` — the index names the connection of a world exactly if
  it is registered with that world and was the latest to claim it;
* `keepsWorldId` — no connection that is registered with a world goes over to
  another;
* `registryBijection_run_iff` — this is exactly when the index stays a view.
-/

namespace GameServer

namespace AccountLine

/-! ## Claims -/

/-- A connection claims a world. -/
structure WorldClaim where
  worldId : UInt16
  sid : UInt32
  serial : UInt32
deriving DecidableEq, Repr

/-- The claim of a world; 0 is none. -/
def claimOf (worldId : UInt16) (sid serial : UInt32) : List WorldClaim :=
  if worldId = 0 then [] else [⟨worldId, sid, serial⟩]

/-- The claims of a step: an accepted hello, an accepted ready notification. -/
def worldClaims (cfg : AccountConfig) (s : AccountLine) : Event → List WorldClaim
  | .worldHello _ sid serial serverName _ _ =>
      match cfg.configuredWorldsByName serverName with
      | none => []
      | some entry => claimOf entry.worldId sid serial
  | .worldReady _ sid serial worldId _ =>
      match s.findWorld sid serial with
      | none => []
      | some _ => claimOf worldId sid serial
  | _ => []

/-- The connection that was the latest to claim a world. -/
def latestClaim (claims : List WorldClaim) (worldId : UInt32) : Option (UInt32 × UInt32) :=
  (claims.reverse.find? fun c => c.worldId.toUInt32 = worldId).map fun c => (c.sid, c.serial)

/-- **World registry**: the index has exactly the connections that are
registered with the world and were the latest to claim it, and none that was
removed. -/
structure RegistryBijection (sh : AccountLine × List WorldClaim) : Prop where
  index_iff : ∀ worldId sid, sh.1.worldSidByWorldId worldId = some sid ↔
    ∃ e, sh.1.worldsBySid.lookup sid = some e ∧ e.worldId.toUInt32 = worldId ∧
      latestClaim sh.2 worldId = some (sid, e.serial)
  live : ∀ worldId sid, sh.1.worldSidByWorldId worldId = some sid →
    (sh.1.worldsBySid.lookup sid).isSome

/-- The step takes no connection from the world it is registered with to
another. -/
def keepsWorldId (cfg : AccountConfig) (s : AccountLine) : Event → Bool
  | .worldHello _ sid _ serverName _ _ =>
      (cfg.configuredWorldsByName serverName).all fun entry =>
        (s.worldsBySid.lookup sid).all fun e => e.worldId = 0 ∨ e.worldId = entry.worldId
  | .worldReady _ sid serial worldId _ =>
      (s.findWorld sid serial).all fun e => e.worldId = worldId
  | _ => true

/-- The latest claim is the one just made, or the one before. -/
theorem latestClaim_append_claimOf (claims : List WorldClaim) (worldId : UInt16)
    (sid serial : UInt32) (w : UInt32) :
    latestClaim (claims ++ claimOf worldId sid serial) w =
      if worldId ≠ 0 ∧ worldId.toUInt32 = w then some (sid, serial) else latestClaim claims w := by
  unfold claimOf latestClaim
  by_cases hzero : worldId = 0
  · simp [hzero]
  · by_cases hw : worldId.toUInt32 = w
    · simp [hzero, hw]
    · simp [hzero, hw]

theorem toUInt32_eq_zero {w : UInt16} : w.toUInt32 = 0 ↔ w = 0 := UInt16.toUInt32_inj (b := 0)

/-! ## The invariant -/

/-- Every connection that is registered with a world owns its index entry, and
an entry is owned by the latest to claim the world. -/
structure Owned (sh : AccountLine × List WorldClaim) : Prop where
  entry : ∀ sid e, sh.1.worldsBySid.lookup sid = some e → e.worldId ≠ 0 →
    sh.1.worldSidByWorldId e.worldId.toUInt32 = some sid
  owner : ∀ worldId sid, sh.1.worldSidByWorldId worldId = some sid →
    ∃ e, sh.1.worldsBySid.lookup sid = some e ∧ e.worldId.toUInt32 = worldId ∧
      latestClaim sh.2 worldId = some (sid, e.serial)
  no_zero : latestClaim sh.2 0 = none

theorem owned_init : Owned ({}, []) where
  entry sid e h := by cases h
  owner worldId sid h := by cases h
  no_zero := rfl

variable {cfg : AccountConfig} {s s' : AccountLine} {h : List WorldClaim}

/-- What is owned by its latest claim is listed under one id and one connection. -/
theorem Owned.bijection {sh : AccountLine × List WorldClaim} (ho : Owned sh) :
    RegistryBijection sh where
  index_iff worldId sid := by
    refine ⟨ho.owner worldId sid, ?_⟩
    rintro ⟨e, he, rfl, hlatest⟩
    refine ho.entry sid e he fun hzero => ?_
    rw [hzero] at hlatest
    rw [show (0 : UInt16).toUInt32 = 0 from rfl, ho.no_zero] at hlatest
    cases hlatest
  live worldId sid hidx := by
    obtain ⟨e, he, _⟩ := ho.owner worldId sid hidx
    rw [he]
    rfl

/-- A connection that an entry names is registered with that world. -/
theorem RegistryBijection.worldId_eq {sh : AccountLine × List WorldClaim} {worldId sid : UInt32}
    {e : RegisteredWorldEndpoint} (hb : RegistryBijection sh)
    (hidx : sh.1.worldSidByWorldId worldId = some sid) (he : sh.1.worldsBySid.lookup sid = some e) :
    e.worldId.toUInt32 = worldId := by
  obtain ⟨e₁, he₁, hw, _⟩ := (hb.index_iff worldId sid).mp hidx
  obtain rfl := Option.some.inj (he₁.symm.trans he)
  exact hw

theorem Owned.ne_zero {sh : AccountLine × List WorldClaim} {worldId sid : UInt32} (ho : Owned sh)
    (hidx : sh.1.worldSidByWorldId worldId = some sid) : worldId ≠ 0 := by
  rintro rfl
  obtain ⟨_, _, _, hlatest⟩ := ho.owner 0 sid hidx
  rw [ho.no_zero] at hlatest
  cases hlatest

/-- The tickets and the login sessions do not matter. -/
theorem Owned.congr (ho : Owned (s, h))
    (hworlds : ∀ sid, s'.worldsBySid.lookup sid = s.worldsBySid.lookup sid)
    (hidx : s'.worldSidByWorldId = s.worldSidByWorldId) : Owned (s', h) where
  entry sid e he := by
    rw [hworlds] at he
    rw [hidx]
    exact ho.entry sid e he
  owner worldId sid := by
    rw [hidx, hworlds]
    exact ho.owner worldId sid
  no_zero := ho.no_zero

/-- The endpoint of a connection changes in what the index does not read. -/
theorem Owned.update {sid : UInt32} {e e' : RegisteredWorldEndpoint} (ho : Owned (s, h))
    (he : s.worldsBySid.lookup sid = some e) (hworld : e'.worldId = e.worldId)
    (hserial : e'.serial = e.serial) :
    Owned ({ s with worldsBySid := AList.insert sid e' s.worldsBySid }, h) where
  entry sid' e₁ he₁ hne := by
    dsimp only at he₁ ⊢
    by_cases hsid : sid' = sid
    · subst hsid
      rw [AList.lookup_insert] at he₁
      obtain rfl := Option.some.inj he₁
      rw [hworld] at hne ⊢
      exact ho.entry sid' e he hne
    · rw [AList.lookup_insert_ne hsid] at he₁
      exact ho.entry sid' e₁ he₁ hne
  owner worldId sid' hidx := by
    obtain ⟨e₁, he₁, hw, hlatest⟩ := ho.owner worldId sid' hidx
    dsimp only
    by_cases hsid : sid' = sid
    · subst hsid
      obtain rfl := Option.some.inj (he₁.symm.trans he)
      exact ⟨e', AList.lookup_insert _, hworld ▸ hw, by rw [hserial]; exact hlatest⟩
    · exact ⟨e₁, by rw [AList.lookup_insert_ne hsid, he₁], hw, hlatest⟩
  no_zero := ho.no_zero

/-- A connection that owns the entry of its world claims the world again. -/
theorem Owned.claimAgain {sid : UInt32} {e : RegisteredWorldEndpoint} (ho : Owned (s, h))
    (he : s.worldsBySid.lookup sid = some e) :
    Owned (s, h ++ claimOf e.worldId sid e.serial) where
  entry := ho.entry
  owner worldId sid' hidx := by
    obtain ⟨e₁, he₁, hw, hlatest⟩ := ho.owner worldId sid' hidx
    refine ⟨e₁, he₁, hw, ?_⟩
    rw [latestClaim_append_claimOf]
    split
    · next hclaim =>
      have hentry := ho.entry sid e he hclaim.1
      rw [hclaim.2, hidx] at hentry
      obtain rfl := Option.some.inj hentry
      obtain rfl := Option.some.inj (he₁.symm.trans he)
      rfl
    · exact hlatest
  no_zero := by
    rw [latestClaim_append_claimOf, if_neg fun hc => hc.1 (toUInt32_eq_zero.mp hc.2)]
    exact ho.no_zero

theorem worldsBySid_eraseWorldIndex (worldId : UInt16) (sid : UInt32) :
    (s.eraseWorldIndex worldId sid).worldsBySid = s.worldsBySid := by
  unfold eraseWorldIndex
  split <;> rfl

/-- A connection goes, with the entry of its world. -/
theorem Owned.erase {sid : UInt32} {e : RegisteredWorldEndpoint} (ho : Owned (s, h))
    (he : s.worldsBySid.lookup sid = some e) :
    Owned ({ s with worldsBySid := AList.erase sid s.worldsBySid }.eraseWorldIndex e.worldId sid,
      h) := by
  set s' := { s with worldsBySid := AList.erase sid s.worldsBySid }.eraseWorldIndex e.worldId sid
    with hs'
  have hworlds : ∀ sid', s'.worldsBySid.lookup sid' =
      if sid' = sid then none else s.worldsBySid.lookup sid' := by
    intro sid'
    rw [hs', worldsBySid_eraseWorldIndex]
    split
    · next hsid => rw [hsid, AList.lookup_erase]
    · next hsid => rw [AList.lookup_erase_ne hsid]
  have hidx : ∀ worldId sid', s'.worldSidByWorldId worldId = some sid' ↔
      s.worldSidByWorldId worldId = some sid' ∧ sid' ≠ sid := by
    intro worldId sid'
    have howned (hk : s.worldSidByWorldId worldId = some sid) : worldId = e.worldId.toUInt32 :=
      (ho.bijection.worldId_eq hk he).symm
    rw [hs']
    unfold eraseWorldIndex
    split
    · next hc =>
      dsimp only at hc ⊢
      rw [Table.erase_eq_some_iff]
      constructor
      · rintro ⟨hne, hk⟩
        refine ⟨hk, ?_⟩
        rintro rfl
        exact hne (howned hk)
      · rintro ⟨hk, hne⟩
        refine ⟨?_, hk⟩
        rintro rfl
        exact hne (Option.some.inj (hk.symm.trans hc.2))
    · next hc =>
      dsimp only at hc ⊢
      refine ⟨fun hk => ⟨hk, ?_⟩, And.left⟩
      rintro rfl
      have hw := howned hk
      refine hc ⟨fun hzero => ho.ne_zero hk ?_, hw ▸ hk⟩
      rw [hw, hzero]
      rfl
  constructor
  · intro sid' e' he' hne
    dsimp only at he' ⊢
    rw [hworlds] at he'
    split at he'
    · cases he'
    · next hsid => exact (hidx _ _).mpr ⟨ho.entry sid' e' he' hne, hsid⟩
  · intro worldId sid' hk
    obtain ⟨hk, hsid⟩ := (hidx worldId sid').mp hk
    dsimp only
    rw [hworlds, if_neg hsid]
    exact ho.owner worldId sid' hk
  · exact ho.no_zero

/-! ## Handlers -/

/-- The registry after a hello that is accepted. -/
theorem onWorldServerHello_of_configured {entry : ConfiguredWorldEntry} {serverName : String}
    (hentry : cfg.configuredWorldsByName serverName = some entry) (s : AccountLine) (now : Nat)
    (sid serial : UInt32) (publicHost : String) (publicPort : UInt16) :
    ∃ e, e.worldId = entry.worldId ∧ e.serial = serial ∧
      (∀ sid', (s.onWorldServerHello cfg now sid serial serverName publicHost
        publicPort).worldsBySid.lookup sid' =
          if sid' = sid then some e
          else if entry.worldId ≠ 0 ∧ s.worldSidByWorldId entry.worldId.toUInt32 = some sid' then
            none
          else s.worldsBySid.lookup sid') ∧
      (s.onWorldServerHello cfg now sid serial serverName publicHost publicPort).worldSidByWorldId =
        if entry.worldId = 0 then s.worldSidByWorldId
        else s.worldSidByWorldId.set entry.worldId.toUInt32 sid := by
  unfold onWorldServerHello
  rw [hentry]
  dsimp only
  refine ⟨{ sid, serial, worldId := entry.worldId, serverName, publicHost, publicPort,
            registeredAt := now, lastHeartbeatAt := now }, rfl, rfl, fun sid' => ?_, ?_⟩
  · by_cases hsid : sid' = sid
    · rw [if_pos hsid, hsid]
      exact AList.lookup_insert _
    · rw [if_neg hsid, AList.lookup_insert_ne hsid]
      by_cases hzero : entry.worldId = 0
      · simp [hzero]
      · rw [if_neg (toUInt32_eq_zero.not.mpr hzero)]
        dsimp only
        cases hother : s.worldSidByWorldId entry.worldId.toUInt32 with
        | none => simp
        | some other =>
            dsimp only
            by_cases hsame : other = sid
            · have hne : ¬sid = sid' := fun hc => hsid hc.symm
              simp [hsame, hne]
            · rw [if_pos hsame]
              by_cases hoth : sid' = other
              · subst hoth
                simp [hzero, AList.lookup_erase]
              · have hne : ¬other = sid' := fun hc => hoth hc.symm
                simp [AList.lookup_erase_ne hoth, hne]
  · by_cases hzero : entry.worldId = 0
    · simp [hzero]
    · rw [if_neg (toUInt32_eq_zero.not.mpr hzero), if_neg hzero]

section

variable {entry : ConfiguredWorldEntry} {serverName : String} {now : Nat} {sid serial : UInt32}
  {publicHost : String} {publicPort : UInt16}

/-- The entry of a world that a hello does not claim is of another connection,
and stays. -/
theorem Owned.owner_onWorldServerHello_of_other (ho : Owned (s, h))
    (hentry : cfg.configuredWorldsByName serverName = some entry)
    (hkeeps : ∀ e, s.worldsBySid.lookup sid = some e → e.worldId = 0 ∨ e.worldId = entry.worldId)
    {worldId sid' : UInt32} (hold : s.worldSidByWorldId worldId = some sid')
    (hother : ¬(entry.worldId ≠ 0 ∧ entry.worldId.toUInt32 = worldId)) :
    ∃ e', (s.onWorldServerHello cfg now sid serial serverName publicHost
        publicPort).worldsBySid.lookup sid' = some e' ∧ e'.worldId.toUInt32 = worldId ∧
      latestClaim (h ++ claimOf entry.worldId sid serial) worldId = some (sid', e'.serial) := by
  obtain ⟨e, _, _, hworlds, _⟩ :=
    onWorldServerHello_of_configured hentry s now sid serial publicHost publicPort
  obtain ⟨e', he', hw, hlatest⟩ := ho.owner worldId sid' hold
  have hne := ho.ne_zero hold
  have hworldId : ¬e'.worldId.toUInt32 = entry.worldId.toUInt32 := by
    rw [hw]
    intro hc
    refine hother ⟨fun hzero => hne ?_, hc.symm⟩
    rw [hc, hzero]
    rfl
  have hsid : sid' ≠ sid := by
    rintro rfl
    rcases hkeeps e' he' with hzero | hsame
    · refine hne ?_
      rw [← hw, hzero]
      rfl
    · exact hworldId (congrArg _ hsame)
  have hstays : ¬(entry.worldId ≠ 0 ∧
      s.worldSidByWorldId entry.worldId.toUInt32 = some sid') :=
    fun hc => hworldId (ho.bijection.worldId_eq hc.2 he')
  refine ⟨e', ?_, hw, ?_⟩
  · rw [hworlds, if_neg hsid, if_neg hstays, he']
  · rw [latestClaim_append_claimOf, if_neg hother]
    exact hlatest

/-- A hello of a connection that is registered with no other world. -/
theorem Owned.onWorldServerHello (ho : Owned (s, h))
    (hentry : cfg.configuredWorldsByName serverName = some entry)
    (hkeeps : ∀ e, s.worldsBySid.lookup sid = some e → e.worldId = 0 ∨ e.worldId = entry.worldId) :
    Owned (s.onWorldServerHello cfg now sid serial serverName publicHost publicPort,
      h ++ claimOf entry.worldId sid serial) := by
  obtain ⟨e, hworld, hserial, hworlds, hidx⟩ :=
    onWorldServerHello_of_configured hentry s now sid serial publicHost publicPort
  set s' := s.onWorldServerHello cfg now sid serial serverName publicHost publicPort with hs'
  constructor
  · intro sid' e' he' hne
    dsimp only at he' ⊢
    rw [hworlds] at he'
    rw [hidx]
    split at he'
    · next hsid =>
      obtain rfl := Option.some.inj he'
      rw [hworld] at hne ⊢
      rw [if_neg hne, Table.set_self, hsid]
    · split at he'
      · cases he'
      · next hother =>
        have hold := ho.entry sid' e' he' hne
        split
        · exact hold
        · next hzero =>
          rw [Table.set_of_ne]
          · exact hold
          · intro hw
            rw [hw] at hold
            exact hother ⟨hzero, hold⟩
  · intro worldId sid' hk
    dsimp only at hk ⊢
    rw [hidx] at hk
    split at hk
    · next hzero =>
      exact ho.owner_onWorldServerHello_of_other hentry hkeeps hk fun hc => hc.1 hzero
    · next hzero =>
      rw [Table.set_apply] at hk
      split at hk
      · next hw =>
        obtain rfl := Option.some.inj hk
        refine ⟨e, by rw [hworlds, if_pos rfl], by rw [hworld, hw], ?_⟩
        rw [latestClaim_append_claimOf, if_pos ⟨hzero, hw.symm⟩, hserial]
      · next hw =>
        exact ho.owner_onWorldServerHello_of_other hentry hkeeps hk fun hc => hw hc.2.symm
  · rw [latestClaim_append_claimOf, if_neg fun hc => hc.1 (toUInt32_eq_zero.mp hc.2)]
    exact ho.no_zero

end

theorem findWorld_eq_some {sid serial : UInt32} {e : RegisteredWorldEndpoint}
    (he : s.findWorld sid serial = some e) :
    s.worldsBySid.lookup sid = some e ∧ e.serial = serial := by
  unfold findWorld at he
  obtain ⟨hlookup, hkey⟩ := Option.filter_eq_some_iff.mp he
  exact ⟨hlookup, (of_decide_eq_true hkey).2⟩

/-- A ready message is a claim for the id the world is listed under. -/
theorem Owned.onWorldReadyNotify {now : Nat} {sid serial : UInt32} {worldId : UInt16}
    {flags : UInt32} {e : RegisteredWorldEndpoint} (ho : Owned (s, h))
    (he : s.findWorld sid serial = some e) (hworld : e.worldId = worldId) :
    Owned (s.onWorldReadyNotify now sid serial worldId flags, h ++ claimOf worldId sid serial) := by
  obtain ⟨hlookup, hserial⟩ := findWorld_eq_some he
  unfold AccountLine.onWorldReadyNotify
  rw [he]
  have hagain := ho.claimAgain hlookup
  rw [hworld, hserial] at hagain
  exact hagain.update hlookup hworld.symm rfl

/-- A heartbeat refreshes an entry and moves no id. -/
theorem Owned.onWorldRouteHeartbeat (ho : Owned (s, h)) (now : Nat) (sid serial : UInt32)
    (worldId activeZoneCount loadScore : UInt16) (flags : UInt32) :
    Owned (s.onWorldRouteHeartbeat now sid serial worldId activeZoneCount loadScore flags, h) := by
  unfold AccountLine.onWorldRouteHeartbeat
  split
  · exact ho
  · next e he =>
    split
    · exact ho
    · next hsame =>
      have hworld : e.worldId = worldId := not_not.mp (not_or.mp hsame).2
      exact ho.update he hworld.symm rfl

/-- A disconnect removes what its connection owns. -/
theorem Owned.onWorldRouteDisconnected (ho : Owned (s, h)) (sid serial : UInt32) :
    Owned (s.onWorldRouteDisconnected sid serial, h) := by
  unfold AccountLine.onWorldRouteDisconnected
  split
  · exact ho
  · next e he =>
    have hgone := ho.erase (findWorld_eq_some he).1
    dsimp only
    split
    · exact hgone.congr (fun _ => rfl) rfl
    · exact hgone

/-- The stale entries go one after the other: induction on their list. -/
theorem Owned.eraseStale {l : List (Sigma fun _ : UInt32 => RegisteredWorldEndpoint)}
    (hl : ∀ e ∈ l, s.worldsBySid.lookup e.1 = some e.2) (hnodup : (l.map Sigma.fst).Nodup)
    (ho : Owned (s, h)) :
    Owned (l.foldl (fun (s : AccountLine) e =>
      { s with worldsBySid := AList.erase e.1 s.worldsBySid }.eraseWorldIndex e.2.worldId e.1) s,
      h) := by
  induction l generalizing s with
  | nil => exact ho
  | cons e l ih =>
      rw [List.map_cons, List.nodup_cons] at hnodup
      refine ih (fun e' he' => ?_) hnodup.2 (ho.erase (hl e List.mem_cons_self))
      have hne : e'.1 ≠ e.1 := by
        intro hc
        exact hnodup.1 (hc ▸ List.mem_map_of_mem he')
      rw [worldsBySid_eraseWorldIndex, AList.lookup_erase_ne hne]
      exact hl e' (List.mem_cons_of_mem e he')

/-- The sweep erases entries together with their index. -/
theorem Owned.expireStaleWorldRoutes (ho : Owned (s, h)) (cfg : AccountConfig) (now : Nat) :
    Owned (s.expireStaleWorldRoutes cfg now, h) := by
  unfold AccountLine.expireStaleWorldRoutes
  dsimp only
  set stale := s.worldsBySid.entries.filter fun e =>
    e.2.lastHeartbeatAt + cfg.worldRouteHeartbeatTimeout ≤ now with hstale
  have hmem : ∀ e ∈ stale, s.worldsBySid.lookup e.1 = some e.2 := by
    intro e he
    exact AList.mem_lookup_iff.mpr (List.mem_of_mem_filter he)
  have hnodup : (stale.map Sigma.fst).Nodup :=
    (List.filter_sublist.map Sigma.fst).nodup s.worldsBySid.nodupKeys
  have hgone := ho.eraseStale hmem hnodup
  generalize stale.filter (fun e => e.2.worldId ≠ 0) = l
  revert hgone
  generalize stale.foldl _ s = s₁
  intro hgone
  -- dropping the tickets of the worlds leaves the registry as it is
  induction l generalizing s₁ with
  | nil => exact hgone
  | cons e l ih =>
      exact ih _ (hgone.congr (fun _ => rfl) rfl)

/-! ## Events that are not about routes -/

/-- An event about a route. -/
def isRouteEvent : Event → Bool
  | .worldHello .. | .worldReady .. | .worldHeartbeat .. | .worldDisconnected ..
  | .expireStaleWorldRoutes .. => true
  | _ => false

/-- The routes and their index are as they were; the order of the routes does not
matter. -/
structure SameRegistry (s s' : AccountLine) : Prop where
  route : ∀ sid, s'.worldsBySid.lookup sid = s.worldsBySid.lookup sid
  index : s'.worldSidByWorldId = s.worldSidByWorldId

section

variable {now : Nat} {sid serial : UInt32} {accountId : UInt64} {loginSession : String}

theorem SameRegistry.refl (s : AccountLine) : SameRegistry s s := ⟨fun _ => rfl, rfl⟩

theorem sameRegistry_rehash (worldsBySid : AList fun _ : UInt32 => RegisteredWorldEndpoint) :
    SameRegistry s (s.step cfg (.rehash worldsBySid)) := by
  simp only [AccountLine.step]
  split
  next hperm => exact ⟨fun _ => AList.perm_lookup hperm, rfl⟩
  next => exact .refl s

theorem sameRegistry_onLoginCoordinatorDisconnected :
    SameRegistry s (s.onLoginCoordinatorDisconnected sid serial) := by
  unfold onLoginCoordinatorDisconnected
  split
  · exact .refl s
  · exact ⟨fun _ => rfl, rfl⟩

/-- A world selection reads the registry. -/
theorem sameRegistry_onWorldSelectRequest (worldId : UInt16) :
    SameRegistry s (s.onWorldSelectRequest now accountId worldId loginSession).1 := by
  unfold onWorldSelectRequest
  dsimp only
  split
  · exact .refl s
  · split
    · exact .refl s
    · exact ⟨fun _ => rfl, rfl⟩

/-- A character list is kept with its login session. -/
theorem sameRegistry_onWorldCharacterListResponse (ok : Bool) (characters : List CharacterSummary) :
    SameRegistry s
      (s.onWorldCharacterListResponse now sid serial accountId ok loginSession characters) := by
  unfold onWorldCharacterListResponse
  dsimp only
  split
  · exact .refl s
  · split
    · exact .refl s
    · split
      · exact .refl s
      · exact ⟨fun _ => rfl, rfl⟩

/-- A character selection issues a ticket. -/
theorem sameRegistry_onCharacterSelectRequest (traceId requestId charId : UInt64)
    (worldToken : String) :
    SameRegistry s (s.onCharacterSelectRequest now sid serial traceId requestId accountId charId
      loginSession worldToken).1 := by
  unfold onCharacterSelectRequest
  dsimp only
  split
  · exact .refl s
  · exact ⟨fun _ => rfl, rfl⟩

/-- A consume takes a ticket. -/
theorem sameRegistry_consumeIssuedWorldTicket (traceId : UInt64) (worldToken : String) :
    SameRegistry s (s.consumeIssuedWorldTicket cfg now sid serial traceId accountId loginSession
      worldToken).1 := by
  rcases s.consumeIssuedWorldTicket_cases cfg now sid serial traceId accountId loginSession
    worldToken with ⟨_, _, hs⟩ | ⟨_, hs⟩ | ⟨_, _, _, _, _, _, _, _, _, hs⟩
  all_goals
    rw [hs]
    exact ⟨fun _ => rfl, rfl⟩

/-- The notice of an enter is about its ticket. -/
theorem sameRegistry_onWorldEnterSuccessNotify (traceId charId : UInt64) (worldToken : String)
    (sent : Bool) :
    SameRegistry s (s.onWorldEnterSuccessNotify sid serial traceId accountId charId loginSession
      worldToken sent) := by
  unfold onWorldEnterSuccessNotify
  split
  · exact .refl s
  · split
    · exact ⟨fun _ => rfl, rfl⟩
    · exact .refl s

/-- The other events leave the registry alone. -/
theorem sameRegistry_step {e : Event} (he : isRouteEvent e = false) :
    SameRegistry s (s.step cfg e) := by
  cases e with
  | worldHello | worldReady | worldHeartbeat | worldDisconnected | expireStaleWorldRoutes =>
      cases he
  | rehash worldsBySid => exact sameRegistry_rehash worldsBySid
  | loginDisconnected sid serial => exact sameRegistry_onLoginCoordinatorDisconnected
  | worldSelect now accountId worldId loginSession =>
      exact sameRegistry_onWorldSelectRequest worldId
  | characterList now sid serial accountId ok loginSession characters =>
      exact sameRegistry_onWorldCharacterListResponse ok characters
  | characterSelect now sid serial traceId requestId accountId charId loginSession worldToken =>
      exact sameRegistry_onCharacterSelectRequest traceId requestId charId worldToken
  | ticketConsume now sid serial traceId requestId accountId loginSession worldToken =>
      exact sameRegistry_consumeIssuedWorldTicket traceId worldToken
  | enterSuccessNotify sid serial traceId accountId charId loginSession worldToken sent =>
      exact sameRegistry_onWorldEnterSuccessNotify traceId charId worldToken sent
  | loginRegistered | authResult | expirePendingWorldTickets => exact ⟨fun _ => rfl, rfl⟩

/-- They claim nothing either. -/
theorem worldClaims_of_other {e : Event} (he : isRouteEvent e = false) :
    s.worldClaims cfg e = [] := by
  cases e <;> first | rfl | cases he

end

/-! ## Runs -/

/-- A hello of a connection that stays with its world claims it. -/
theorem Owned.worldHello (ho : Owned (s, h)) {now : Nat} {sid serial : UInt32}
    {serverName publicHost : String} {publicPort : UInt16}
    (hkeeps : s.keepsWorldId cfg (.worldHello now sid serial serverName publicHost publicPort) =
      true) :
    Owned (s.onWorldServerHello cfg now sid serial serverName publicHost publicPort,
      h ++ s.worldClaims cfg (.worldHello now sid serial serverName publicHost publicPort)) := by
  unfold worldClaims
  unfold keepsWorldId at hkeeps
  dsimp only at hkeeps ⊢
  cases hentry : cfg.configuredWorldsByName serverName with
  | none =>
      unfold AccountLine.onWorldServerHello
      rw [hentry, List.append_nil]
      exact ho
  | some entry =>
      rw [hentry] at hkeeps
      refine ho.onWorldServerHello hentry fun e he => ?_
      simpa [he] using hkeeps

/-- A ready notification for the world of the connection claims it again. -/
theorem Owned.worldReady (ho : Owned (s, h)) {now : Nat} {sid serial : UInt32} {worldId : UInt16}
    {flags : UInt32}
    (hkeeps : s.keepsWorldId cfg (.worldReady now sid serial worldId flags) = true) :
    Owned (s.onWorldReadyNotify now sid serial worldId flags,
      h ++ s.worldClaims cfg (.worldReady now sid serial worldId flags)) := by
  unfold worldClaims
  unfold keepsWorldId at hkeeps
  dsimp only at hkeeps ⊢
  cases he : s.findWorld sid serial with
  | none =>
      unfold AccountLine.onWorldReadyNotify
      rw [he, List.append_nil]
      exact ho
  | some e =>
      rw [he] at hkeeps
      exact ho.onWorldReadyNotify he (by simpa using hkeeps)

/-- The step lemma: the route events by their own lemmas, all others leave the registry
alone. -/
theorem Owned.step (ho : Owned (s, h)) (e : Event) (hkeeps : s.keepsWorldId cfg e = true) :
    Owned (s.step cfg e, h ++ s.worldClaims cfg e) := by
  cases hroute : isRouteEvent e with
  | false =>
      have hsame : SameRegistry s (s.step cfg e) := sameRegistry_step hroute
      rw [worldClaims_of_other hroute, List.append_nil]
      exact ho.congr hsame.route hsame.index
  | true =>
      have hquiet : ∀ {s'}, Owned (s', h) → Owned (s', h ++ []) := by
        intro s' ho'
        rwa [List.append_nil]
      cases e with
      | worldHello now sid serial serverName publicHost publicPort => exact ho.worldHello hkeeps
      | worldReady now sid serial worldId flags => exact ho.worldReady hkeeps
      | worldHeartbeat now sid serial worldId activeZoneCount loadScore flags =>
          exact hquiet (ho.onWorldRouteHeartbeat ..)
      | worldDisconnected sid serial => exact hquiet (ho.onWorldRouteDisconnected sid serial)
      | expireStaleWorldRoutes now => exact hquiet (ho.expireStaleWorldRoutes cfg now)
      | _ => cases hroute

/-- After a hello that takes a connection to another world, the entry of the
world before still names it. -/
theorem Owned.keepsWorldId_of_worldHello (ho : Owned (s, h)) {now : Nat} {sid serial : UInt32}
    {serverName publicHost : String} {publicPort : UInt16} {h' : List WorldClaim}
    (hb : RegistryBijection
      (s.onWorldServerHello cfg now sid serial serverName publicHost publicPort, h')) :
    s.keepsWorldId cfg (.worldHello now sid serial serverName publicHost publicPort) = true := by
  unfold keepsWorldId
  dsimp only
  cases hentry : cfg.configuredWorldsByName serverName with
  | none => rfl
  | some entry =>
      cases hold : s.worldsBySid.lookup sid with
      | none => rfl
      | some e =>
          by_contra hc
          have hleft : e.worldId ≠ 0 ∧ e.worldId ≠ entry.worldId := by simpa using hc
          obtain ⟨e', hworld, _, hworlds, hidx⟩ :=
            onWorldServerHello_of_configured hentry s now sid serial publicHost publicPort
          have hstale : (s.onWorldServerHello cfg now sid serial serverName publicHost
              publicPort).worldSidByWorldId e.worldId.toUInt32 = some sid := by
            rw [hidx]
            split
            · exact ho.entry sid e hold hleft.1
            · rw [Table.set_of_ne _ _ fun hc => hleft.2 (UInt16.toUInt32_inj.mp hc)]
              exact ho.entry sid e hold hleft.1
          have hw := hb.worldId_eq hstale (by rw [hworlds, if_pos rfl])
          rw [hworld] at hw
          exact hleft.2 (UInt16.toUInt32_inj.mp hw).symm

/-- A ready notification does not touch the index: the connection keeps the
entry of the world before, or has none for the world that it claims. -/
theorem Owned.keepsWorldId_of_worldReady (ho : Owned (s, h)) {now : Nat} {sid serial : UInt32}
    {worldId : UInt16} {flags : UInt32}
    (hb : RegistryBijection (s.onWorldReadyNotify now sid serial worldId flags,
      h ++ s.worldClaims cfg (.worldReady now sid serial worldId flags))) :
    s.keepsWorldId cfg (.worldReady now sid serial worldId flags) = true := by
  unfold keepsWorldId
  dsimp only
  cases he : s.findWorld sid serial with
  | none => rfl
  | some e =>
      obtain ⟨hlookup, hserial⟩ := findWorld_eq_some he
      by_contra hc
      have hne : e.worldId ≠ worldId := by simpa using hc
      have hs : s.onWorldReadyNotify now sid serial worldId flags =
          { s with
            worldsBySid := AList.insert sid
              { e with ready := true, worldId, flags, lastHeartbeatAt := now } s.worldsBySid } := by
        unfold AccountLine.onWorldReadyNotify
        rw [he]
      have hafter : (s.onWorldReadyNotify now sid serial worldId flags).worldsBySid.lookup sid =
          some { e with ready := true, worldId, flags, lastHeartbeatAt := now } := by
        rw [hs]
        exact AList.lookup_insert _
      have hidx : (s.onWorldReadyNotify now sid serial worldId flags).worldSidByWorldId =
          s.worldSidByWorldId := by
        rw [hs]
      by_cases hzero : e.worldId = 0
      · have hclaim : worldId ≠ 0 := fun hc => hne (hzero.trans hc.symm)
        have hnew : s.worldSidByWorldId worldId.toUInt32 = some sid := by
          rw [← hidx]
          refine (hb.index_iff _ _).mpr ⟨_, hafter, rfl, ?_⟩
          unfold worldClaims
          dsimp only
          rw [he]
          dsimp only
          rw [latestClaim_append_claimOf, if_pos ⟨hclaim, rfl⟩, hserial]
        exact hne (UInt16.toUInt32_inj.mp (ho.bijection.worldId_eq hnew hlookup))
      · have hstale := ho.entry sid e hlookup hzero
        dsimp only at hstale
        rw [← hidx] at hstale
        exact hne (UInt16.toUInt32_inj.mp (hb.worldId_eq hstale hafter)).symm

/-- A step that keeps the index a view takes no connection to another world. -/
theorem Owned.keepsWorldId_of_bijection (ho : Owned (s, h)) (e : Event)
    (hb : RegistryBijection (s.step cfg e, h ++ s.worldClaims cfg e)) :
    s.keepsWorldId cfg e = true := by
  cases e with
  | worldHello now sid serial serverName publicHost publicPort =>
      exact ho.keepsWorldId_of_worldHello hb
  | worldReady now sid serial worldId flags => exact ho.keepsWorldId_of_worldReady hb
  | _ => rfl

/-- **World registry**: from an empty registry, the index is a view of the
registered worlds throughout exactly if no connection that is registered
with a world goes over to another. -/
theorem registryBijection_run_iff (cfg : AccountConfig) (es : List Event) :
    Always (recording (step cfg) (worldClaims cfg)) RegistryBijection ({}, []) es ↔
      Along (step cfg) (fun s e => s.keepsWorldId cfg e = true) {} es := by
  rw [← along_recording (worldClaims cfg) []]
  exact always_iff_along_of_strong owned_init (fun _ ho => ho.bijection)
    (fun _ e ho hkeeps => ho.step e hkeeps) fun _ e ho hb => ho.keepsWorldId_of_bijection e hb

/-- Two worlds, with ids 1 and 2. -/
def twoWorlds : AccountConfig :=
  { configuredWorldsByName := fun name =>
      if name = "one" then some ⟨1⟩ else if name = "two" then some ⟨2⟩ else none }

/-- A world server announces world 1 and is ready as world 2. -/
def readyElsewhere : List Event :=
  [.worldHello 0 1 1 "one" "h" 7000, .worldReady 0 1 1 2 3]

/-- A world server announces world 1, and then world 2. -/
def helloElsewhere : List Event :=
  [.worldHello 0 1 1 "one" "h" 7000, .worldHello 0 1 1 "two" "h" 7000]

/-- World 1 is still indexed to the connection, which is registered with
world 2. -/
theorem not_registryBijection_elsewhere :
    ¬Always (recording (step twoWorlds) (worldClaims twoWorlds)) RegistryBijection ({}, [])
      readyElsewhere ∧
    ¬Always (recording (step twoWorlds) (worldClaims twoWorlds)) RegistryBijection ({}, [])
      helloElsewhere := by
  have hstale : ∀ es, (run (recording (step twoWorlds) (worldClaims twoWorlds)) ({}, [])
        es).1.worldSidByWorldId 1 = some 1 →
      ((run (recording (step twoWorlds) (worldClaims twoWorlds)) ({}, [])
        es).1.worldsBySid.lookup 1).map (·.worldId) = some 2 →
      ¬Always (recording (step twoWorlds) (worldClaims twoWorlds)) RegistryBijection ({}, [])
        es := by
    intro es hidx hworld h
    have hend := always_iff_forall_part.mp h es List.prefix_rfl
    obtain ⟨e, he, hw, _⟩ := (hend.index_iff 1 1).mp hidx
    rw [he] at hworld
    have htwo : e.worldId = 2 := Option.some.inj hworld
    rw [htwo] at hw
    exact absurd hw (by decide)
  exact ⟨hstale _ (by decide) (by decide), hstale _ (by decide) (by decide)⟩

end AccountLine

end GameServer
