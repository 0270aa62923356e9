import GameServer.Account.WorldRegistry

/-!
# GameServer.Account.RouteTable

What each event of the account server does to the route of a slot.

Hellos, ready notifications, heartbeats, disconnects and sweeps do; the others
leave the routes alone (`sameRegistry_step` of `Account.WorldRegistry`).

* `lookup_onWorldServerHello`, `lookup_onWorldReadyNotify`,
  `lookup_onWorldRouteHeartbeat`, `lookup_onWorldRouteDisconnected`,
  `lookup_expireStaleWorldRoutes` — the routes after each of them.
-/

namespace GameServer

namespace AccountLine

variable {cfg : AccountConfig} {s : AccountLine} {now : Nat} {sid serial : UInt32}

theorem ready_of_isWorldSelectable {e : RegisteredWorldEndpoint} (h : isWorldSelectable e = true) :
    e.ready = true := by
  unfold isWorldSelectable at h
  simp only [Bool.and_eq_true] at h
  exact h.1.1.1.1

/-! ## One event -/

section

variable {entry : ConfiguredWorldEntry} {serverName publicHost : String} {publicPort : UInt16}

/-- The route that a hello registers. -/
def helloRoute (now : Nat) (sid serial : UInt32) (entry : ConfiguredWorldEntry)
    (serverName publicHost : String) (publicPort : UInt16) : RegisteredWorldEndpoint :=
  { sid, serial, worldId := entry.worldId, serverName, publicHost, publicPort
    registeredAt := now, lastHeartbeatAt := now }

/-- A hello takes its slot, and the route that its world had before. -/
theorem lookup_onWorldServerHello (hentry : cfg.configuredWorldsByName serverName = some entry)
    (sid' : UInt32) :
    (s.onWorldServerHello cfg now sid serial serverName publicHost publicPort).worldsBySid.lookup
        sid' =
      if sid' = sid then some (helloRoute now sid serial entry serverName publicHost publicPort)
      else if entry.worldId ≠ 0 ∧ s.worldSidByWorldId entry.worldId.toUInt32 = some sid' then none
      else s.worldsBySid.lookup sid' := by
  obtain ⟨e, -, -, hlookup, -⟩ :=
    onWorldServerHello_of_configured hentry s now sid serial publicHost publicPort
  rw [hlookup sid']
  by_cases hsid : sid' = sid
  · rw [if_pos hsid, if_pos hsid]
    have hself := hlookup sid
    rw [if_pos rfl, onWorldServerHello, hentry] at hself
    exact hself.symm.trans (AList.lookup_insert _)
  · rw [if_neg hsid, if_neg hsid]

theorem onWorldServerHello_of_unknown (h : cfg.configuredWorldsByName serverName = none) :
    s.onWorldServerHello cfg now sid serial serverName publicHost publicPort = s := by
  rw [onWorldServerHello, h]

end

/-- A ready notification reaches the route of its connection. -/
theorem lookup_onWorldReadyNotify (worldId : UInt16) (flags : UInt32) (sid' : UInt32) :
    (s.onWorldReadyNotify now sid serial worldId flags).worldsBySid.lookup sid' =
      if sid' = sid then
        match s.findWorld sid serial with
        | some e => some { e with ready := true, worldId, flags, lastHeartbeatAt := now }
        | none => s.worldsBySid.lookup sid'
      else s.worldsBySid.lookup sid' := by
  unfold onWorldReadyNotify
  cases s.findWorld sid serial with
  | none => exact (ite_self _).symm
  | some e =>
      by_cases hsid : sid' = sid
      · subst hsid
        rw [if_pos rfl]
        exact AList.lookup_insert _
      · rw [if_neg hsid]
        exact AList.lookup_insert_ne hsid

/-- A heartbeat reaches the route of its connection if it names its world. -/
theorem lookup_onWorldRouteHeartbeat (worldId activeZoneCount loadScore : UInt16) (flags : UInt32)
    (sid' : UInt32) :
    (s.onWorldRouteHeartbeat now sid serial worldId activeZoneCount loadScore
        flags).worldsBySid.lookup sid' =
      if sid' = sid then
        (s.worldsBySid.lookup sid).map fun e =>
          if e.serial = serial ∧ e.worldId = worldId then
            { e with worldId, activeZoneCount, loadScore, flags, lastHeartbeatAt := now }
          else e
      else s.worldsBySid.lookup sid' := by
  unfold onWorldRouteHeartbeat
  cases he : s.worldsBySid.lookup sid with
  | none =>
      by_cases hsid : sid' = sid
      · subst hsid
        rw [if_pos rfl]
        exact he
      · rw [if_neg hsid]
  | some e =>
      dsimp only
      by_cases hsame : e.serial = serial ∧ e.worldId = worldId
      · rw [if_neg (by simp [hsame]), Option.map_some, if_pos hsame]
        by_cases hsid : sid' = sid
        · subst hsid
          rw [if_pos rfl]
          exact AList.lookup_insert _
        · rw [if_neg hsid]
          exact AList.lookup_insert_ne hsid
      · rw [if_pos (by rwa [not_and_or] at hsame), Option.map_some, if_neg hsame]
        by_cases hsid : sid' = sid
        · subst hsid
          rw [if_pos rfl]
          exact he
        · rw [if_neg hsid]

theorem worldsBySid_erasePendingWorldTicketsForServer (s : AccountLine) (worldId : UInt32) :
    (s.erasePendingWorldTicketsForServer worldId).worldsBySid = s.worldsBySid := rfl

theorem lookup_erase (s : AList fun _ : UInt32 => RegisteredWorldEndpoint) (sid sid' : UInt32) :
    (AList.erase sid s).lookup sid' = if sid' = sid then none else s.lookup sid' := by
  split
  next h => rw [h, AList.lookup_erase]
  next h => exact AList.lookup_erase_ne h

/-- The end of a connection takes its route. -/
theorem lookup_onWorldRouteDisconnected (sid' : UInt32) :
    (s.onWorldRouteDisconnected sid serial).worldsBySid.lookup sid' =
      if sid' = sid ∧ (s.findWorld sid serial).isSome then none
      else s.worldsBySid.lookup sid' := by
  unfold onWorldRouteDisconnected
  cases s.findWorld sid serial with
  | none => simp
  | some e =>
      have herased : ({ s with
          worldsBySid := AList.erase sid s.worldsBySid }.eraseWorldIndex e.worldId
            sid).worldsBySid.lookup sid' =
          if sid' = sid then none else s.worldsBySid.lookup sid' := by
        rw [worldsBySid_eraseWorldIndex, lookup_erase]
      dsimp only
      split <;> simpa [worldsBySid_erasePendingWorldTicketsForServer] using herased

/-- The sweep erases the stale entries and leaves the others: induction on the list. -/
theorem lookup_foldl_erase (l : List (Sigma fun _ : UInt32 => RegisteredWorldEndpoint))
    (s : AccountLine) (sid' : UInt32) :
    (l.foldl (fun (s : AccountLine) e =>
      { s with worldsBySid := AList.erase e.1 s.worldsBySid }.eraseWorldIndex e.2.worldId e.1)
        s).worldsBySid.lookup sid' =
      if sid' ∈ l.map Sigma.fst then none else s.worldsBySid.lookup sid' := by
  induction l generalizing s with
  | nil => rfl
  | cons e l ih =>
      rw [List.foldl_cons, ih, worldsBySid_eraseWorldIndex, lookup_erase, List.map_cons]
      by_cases hhead : sid' = e.1
      · rw [if_pos hhead, ite_self, if_pos (List.mem_cons.mpr (.inl hhead))]
      · rw [if_neg hhead]
        exact if_congr (by rw [List.mem_cons, or_iff_right hhead]) rfl rfl

/-- A sweep takes the routes that were not heard of for the timeout. -/
theorem lookup_expireStaleWorldRoutes (cfg : AccountConfig) (s : AccountLine) (now : Nat)
    (sid' : UInt32) :
    (s.expireStaleWorldRoutes cfg now).worldsBySid.lookup sid' =
      (s.worldsBySid.lookup sid').filter fun e =>
        now < e.lastHeartbeatAt + cfg.worldRouteHeartbeatTimeout := by
  unfold expireStaleWorldRoutes
  dsimp only
  set stale := s.worldsBySid.entries.filter fun e =>
    e.2.lastHeartbeatAt + cfg.worldRouteHeartbeatTimeout ≤ now with hstale
  have htickets (l : List (Sigma fun _ : UInt32 => RegisteredWorldEndpoint)) (t : AccountLine) :
      (l.foldl (fun s e => s.erasePendingWorldTicketsForServer e.2.worldId.toUInt32)
        t).worldsBySid = t.worldsBySid := by
    induction l generalizing t with
    | nil => rfl
    | cons e l ih => exact ih _
  have hmem : sid' ∈ stale.map Sigma.fst ↔ ∃ e, s.worldsBySid.lookup sid' = some e ∧
      e.lastHeartbeatAt + cfg.worldRouteHeartbeatTimeout ≤ now := by
    simp only [hstale, List.mem_map, List.mem_filter, decide_eq_true_eq]
    constructor
    · rintro ⟨⟨_, e⟩, ⟨hentry, hlate⟩, rfl⟩
      exact ⟨e, AList.mem_lookup_iff.mpr hentry, hlate⟩
    · rintro ⟨e, hlookup, hlate⟩
      exact ⟨⟨sid', e⟩, ⟨AList.mem_lookup_iff.mp hlookup, hlate⟩, rfl⟩
  rw [htickets, lookup_foldl_erase]
  cases he : s.worldsBySid.lookup sid' with
  | none => exact ite_self _
  | some e =>
      rw [Option.filter_some]
      by_cases hlate : e.lastHeartbeatAt + cfg.worldRouteHeartbeatTimeout ≤ now
      · rw [if_pos (hmem.mpr ⟨e, he, hlate⟩), if_neg (by simpa using hlate)]
      · rw [if_neg, if_pos (by simpa using hlate)]
        intro hin
        obtain ⟨e', he', hlate'⟩ := hmem.mp hin
        obtain rfl := Option.some.inj (he.symm.trans he')
        exact hlate hlate'

end AccountLine

end GameServer
