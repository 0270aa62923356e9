import GameServer.Account.LinkedWorlds

/-!
# GameServer.Account.RouteSurvival

How long a world server stays registered.

A route that is gone does not come back by itself: neither a heartbeat nor a
ready notification registers it again.  The sweep therefore closes the
connection, and the world server says hello on the next one.  A hello of
another connection for the same world takes the route as well, but closes
nothing.

* `routeOf` — the route of a connection;
* `keepsRoute` — the end of the connection, such a hello and a late sweep;
* `route_run_iff` — nothing else takes a route, and each of them does.
-/

namespace GameServer

namespace WorldLinks

variable {ids : Nat → WorldIdentity} {cfg : AccountConfig} {s s' : WorldLinks} {k : Nat}

section

variable (cfg : AccountConfig) (s : WorldLinks) (k : Nat)

/-- The route of a connection. -/
def routeOf : Option RegisteredWorldEndpoint :=
  (s.attached k).bind fun c => s.account.worldsBySid.lookup c.2.1

/-- The next message that is read from a connection, if the account server has
it open. -/
def nextMessage : Option RouteMessage :=
  (s.attached k).bind fun _ => s.connections[k]?.bind fun c => c.toAccount.head?

/-- The world that a message says hello for. -/
def helloEntry : RouteMessage → Option ConfiguredWorldEntry
  | .hello serverName _ _ => cfg.configuredWorldsByName serverName
  | .ready .. | .heartbeat .. => none

/-- The event takes no route from connection `k`. -/
def keepsRoute : Event → Bool
  | .accountEnds k' => k' ≠ k
  | .accountReads _ k' =>
      k' = k || ((s.nextMessage k').bind (helloEntry cfg)).all fun entry =>
        entry.worldId = 0 || (s.routeOf k).all fun e => e.worldId ≠ entry.worldId
  | .expireStaleWorldRoutes now =>
      (s.routeOf k).all fun e => now < e.lastHeartbeatAt + cfg.worldRouteHeartbeatTimeout
  | _ => true

end

/-! ## What leaves the routes alone -/

/-- Neither the account server nor the slots of its connections change. -/
def Untouched (s s' : WorldLinks) : Prop :=
  s'.account = s.account ∧ ∀ k, s'.attached k = s.attached k

theorem Untouched.routeOf (h : Untouched s s') (k : Nat) : s'.routeOf k = s.routeOf k := by
  unfold WorldLinks.routeOf
  rw [h.1, h.2]

theorem Untouched.trans {s'' : WorldLinks} (h : Untouched s s') (h' : Untouched s' s'') :
    Untouched s s'' :=
  ⟨h'.1.trans h.1, fun k => (h'.2 k).trans (h.2 k)⟩

theorem untouched_setWorld (s : WorldLinks) (i : Nat) (w : AccountLink) :
    Untouched s (s.setWorld i w) := ⟨rfl, fun _ => rfl⟩

/-- The queues of a connection are not the account server. -/
theorem untouched_modifyConnection (s : WorldLinks) (k : Nat) {f : LinkConnection → LinkConnection}
    (hf : ∀ c, (f c).attached = c.attached) : Untouched s (s.modifyConnection k f) := by
  refine ⟨rfl, fun k' => ?_⟩
  rw [attached_modifyConnection]
  split
  · simp only [hf]
    rfl
  · rfl

/-- Sending appends to a queue. -/
theorem untouched_send (s : WorldLinks) (i : Nat) (serial : UInt32) (m : RouteMessage) :
    Untouched s (s.send i serial m) := by
  obtain heq | ⟨k, -, heq⟩ := s.send_cases i serial m
  · rw [heq]
    exact ⟨rfl, fun _ => rfl⟩
  · rw [heq]
    exact s.untouched_modifyConnection k fun _ => rfl

/-- A task of a world touches nothing of the account server. -/
theorem untouched_runTask (s : WorldLinks) (i : Nat) (t : AccountTask) :
    Untouched s (s.runTask ids i t) := by
  cases t with
  | connected serial => exact (s.untouched_setWorld i _).trans (untouched_send _ _ _ _)
  | packet serial ack =>
      have hset := s.untouched_setWorld i { s.worlds i with latestSerial := some serial }
      simp only [runTask]
      split
      · refine hset.trans ?_
        unfold onAccountRegisterAck
        dsimp only
        split
        · exact (untouched_setWorld _ i _).trans (untouched_send _ _ _ _)
        · exact untouched_setWorld _ i _
      · exact hset
  | disconnected serial => exact s.untouched_setWorld i _

/-- An acknowledgement goes into a queue. -/
theorem untouched_sendRegisterAck (s : WorldLinks) (sid serial : UInt32) (ack : RegisterAck) :
    Untouched s (s.sendRegisterAck sid serial ack) := by
  unfold sendRegisterAck
  split
  · refine ⟨rfl, fun k => ?_⟩
    unfold attached
    rw [List.getElem?_map]
    cases s.connections[k]? with
    | none => rfl
    | some c =>
        dsimp only [Option.map_some, Option.bind_some]
        split <;> rfl
  · exact ⟨rfl, fun _ => rfl⟩

/-- An event of the world servers. -/
def Event.isWorldSide : Event → Bool
  | .connect _ | .heartbeat .. | .worldRuns _ | .worldReads _ | .worldEnds _ => true
  | _ => false

/-- No event on the world's side touches the account server. -/
theorem untouched_step (s : WorldLinks) {e : Event} (he : e.isWorldSide = true) :
    Untouched s (s.step ids cfg e) := by
  have hsame : Untouched s s := ⟨rfl, fun _ => rfl⟩
  cases e with
  | connect i =>
      simp only [step]
      split
      · exact ⟨rfl, s.attached_append i _⟩
      · exact hsame
  | heartbeat i activeZoneCount loadScore =>
      simp only [step, sendAccountRouteHeartbeat]
      split
      · exact untouched_send _ _ _ _
      · exact hsame
  | worldRuns i =>
      simp only [step]
      split
      · exact hsame
      · exact (s.untouched_setWorld i _).trans (untouched_runTask _ _ _)
  | worldReads k =>
      simp only [step]
      split
      next rest _ =>
        have hpop := s.untouched_modifyConnection k (f := fun c => { c with toWorld := rest })
          fun _ => rfl
        exact hpop.trans (untouched_setWorld _ _ _)
      · exact hsame
  | worldEnds k =>
      simp only [step]
      split
      · split
        next c _ _ =>
          refine (s.untouched_setWorld c.world _).trans (untouched_modifyConnection _ k ?_)
          exact fun _ => rfl
        · exact hsame
      · exact hsame
  | accept | accountReads | accountEnds | expireStaleWorldRoutes | account => cases he

/-! ## What takes a route -/

theorem routeOf_of_attached {i : Nat} {sid serial : UInt32}
    (hk : s.attached k = some (i, sid, serial)) :
    s.routeOf k = s.account.worldsBySid.lookup sid := by
  rw [routeOf, hk]
  rfl

theorem exists_attached_of_routeOf (h : (s.routeOf k).isSome) :
    ∃ i sid serial e, s.attached k = some (i, sid, serial) ∧
      s.account.worldsBySid.lookup sid = some e := by
  obtain ⟨e, he⟩ := Option.isSome_iff_exists.mp h
  obtain ⟨⟨i, sid, serial⟩, hk, hlookup⟩ := Option.bind_eq_some_iff.mp he
  exact ⟨i, sid, serial, e, hk, hlookup⟩

theorem nextMessage_of_not_attached {k' : Nat} (h : s.attached k' = none) :
    s.nextMessage k' = none := by
  rw [nextMessage, h]
  rfl

/-- The routes of the line and the slot of the connection decide. -/
theorem routeOf_congr {i : Nat} {sid serial : UInt32} (hk : s.attached k = some (i, sid, serial))
    (hsame : s'.attached k = s.attached k)
    (hlookup : s'.account.worldsBySid.lookup sid = s.account.worldsBySid.lookup sid) :
    s'.routeOf k = s.routeOf k := by
  rw [routeOf_of_attached hk, routeOf_of_attached (hsame.trans hk), hlookup]

/-- The registry has a world under the slot of the route that is registered for
it. -/
theorem worldSidByWorldId_iff (h : Linked ids cfg s) {sid : UInt32} {e : RegisteredWorldEndpoint}
    (he : s.account.worldsBySid.lookup sid = some e) {worldId : UInt16} (hzero : worldId ≠ 0) :
    s.account.worldSidByWorldId worldId.toUInt32 = some sid ↔ e.worldId = worldId := by
  constructor
  · intro hindex
    obtain ⟨e', he', hid, -⟩ := h.routes.owned.owner _ _ hindex
    obtain rfl := Option.some.inj (he.symm.trans he')
    exact UInt16.toUInt32_inj.mp hid
  · rintro rfl
    exact h.routes.owned.entry sid e he hzero

/-- A hello takes the route of another connection that is registered for its
world. -/
theorem isSome_lookup_hello (h : Linked ids cfg s) {now : Nat} {sid sid' serial' : UInt32}
    {e : RegisteredWorldEndpoint} (he : s.account.worldsBySid.lookup sid = some e)
    {serverName publicHost : String} {publicPort : UInt16} {entry : ConfiguredWorldEntry}
    (hentry : cfg.configuredWorldsByName serverName = some entry) :
    ((s.account.onWorldServerHello cfg now sid' serial' serverName publicHost
        publicPort).worldsBySid.lookup sid).isSome ↔
      sid = sid' ∨ entry.worldId = 0 ∨ e.worldId ≠ entry.worldId := by
  rw [AccountLine.lookup_onWorldServerHello hentry]
  by_cases hsid : sid = sid'
  · rw [if_pos hsid]
    exact iff_of_true rfl (.inl hsid)
  · rw [if_neg hsid, or_iff_right hsid]
    by_cases hzero : entry.worldId = 0
    · rw [if_neg (fun hc => hc.1 hzero), he]
      exact iff_of_true rfl (.inl hzero)
    · have hindex := worldSidByWorldId_iff h he hzero
      rw [or_iff_right hzero]
      split
      next hc => exact iff_of_false (by simp) (absurd (hindex.mp hc.2))
      next hc => exact iff_of_true (by rw [he]; rfl) fun hid => hc ⟨hzero, hindex.mpr hid⟩

/-- A message from connection `k'` is read. -/
theorem isSome_routeOf_onRouteMessage (h : Linked ids cfg s) {k' i' : Nat} {sid' serial' : UInt32}
    (hk' : s.attached k' = some (i', sid', serial')) (hroute : (s.routeOf k).isSome) (now : Nat)
    (m : RouteMessage) :
    ((s.onRouteMessage cfg now sid' serial' m).routeOf k).isSome ↔
      k' = k ∨ ∀ entry, helloEntry cfg m = some entry →
        entry.worldId = 0 ∨ ∀ e, s.routeOf k = some e → e.worldId ≠ entry.worldId := by
  obtain ⟨i, sid, serial, e, hk, he⟩ := exists_attached_of_routeOf hroute
  have hself (e' : AccountLine.Event) : (s.accountStep cfg e').attached k = s.attached k := rfl
  have hof : s.routeOf k = some e := (routeOf_of_attached hk).trans he
  cases m with
  | hello serverName publicHost publicPort =>
      have hread (ack : RegisterAck) : (((s.accountStep cfg (.worldHello now sid' serial' serverName
          publicHost publicPort)).sendRegisterAck sid' serial' ack).routeOf k) =
            (s.account.onWorldServerHello cfg now sid' serial' serverName publicHost
              publicPort).worldsBySid.lookup sid :=
        ((untouched_sendRegisterAck _ _ _ _).routeOf k).trans (routeOf_of_attached hk)
      have hsid : sid = sid' ↔ k' = k := by
        constructor
        · rintro rfl
          exact h.slots.apart k' k i' i sid serial' serial hk' hk
        · rintro rfl
          exact (Prod.mk.inj (Prod.mk.inj (Option.some.inj (hk.symm.trans hk'))).2).1
      simp only [onRouteMessage]
      cases hentry : cfg.configuredWorldsByName serverName with
      | none =>
          rw [hread, AccountLine.onWorldServerHello_of_unknown hentry, he]
          refine iff_of_true rfl (.inr fun entry hsome => ?_)
          cases hentry.symm.trans hsome
      | some entry =>
          rw [hread, isSome_lookup_hello h he hentry, hsid]
          refine or_congr_right ⟨?_, fun hall => ?_⟩
          · intro hcase entry' hsome
            obtain rfl := Option.some.inj (hentry.symm.trans hsome)
            refine hcase.imp_right fun hne e' he' => ?_
            rwa [← Option.some.inj (hof.symm.trans he')]
          · exact (hall entry hentry).imp_right fun hne => hne e hof
  | ready worldId flags =>
      refine iff_of_true ?_ (.inr fun _ hc => by cases hc)
      simp only [onRouteMessage]
      rw [routeOf_of_attached ((hself _).trans hk)]
      simp only [accountStep, AccountLine.step, AccountLine.lookup_onWorldReadyNotify]
      split
      · split
        · rfl
        · rw [he]
          rfl
      · rw [he]
        rfl
  | heartbeat worldId activeZoneCount loadScore flags =>
      refine iff_of_true ?_ (.inr fun _ hc => by cases hc)
      simp only [onRouteMessage]
      rw [routeOf_of_attached ((hself _).trans hk)]
      simp only [accountStep, AccountLine.step, AccountLine.lookup_onWorldRouteHeartbeat]
      split
      next hsid => rw [← hsid, he, Option.map_some, Option.isSome_some]
      next => rw [he, Option.isSome_some]

/-- Nothing is read from a connection that is not attached. -/
theorem step_accountReads_of_not_attached {k' : Nat} (now : Nat) (h : s.attached k' = none) :
    s.step ids cfg (.accountReads now k') = s := by
  simp only [step]
  split
  next c hc =>
    split
    next sid serial hkey hopen => cases h.symm.trans (attached_of_open hc hkey hopen)
    next => rfl
  next => rfl

/-- And it cannot end on the account side. -/
theorem step_accountEnds_of_not_attached {k' : Nat} (h : s.attached k' = none) :
    s.step ids cfg (.accountEnds k') = s := by
  simp only [step]
  split
  next c hc =>
    split
    next sid serial hkey hopen => cases h.symm.trans (attached_of_open hc hkey hopen)
    next => rfl
  next => rfl

/-- A connection ends with its own route. -/
theorem isSome_routeOf_accountEnds (h : Linked ids cfg s) {k' i' : Nat} {sid' serial' : UInt32}
    (hk' : s.attached k' = some (i', sid', serial')) (hroute : (s.routeOf k).isSome) :
    ((s.accountEnds cfg k' sid' serial').routeOf k).isSome ↔ k' ≠ k := by
  obtain ⟨i, sid, serial, e, hk, he⟩ := exists_attached_of_routeOf hroute
  have hattached := attached_accountEnds cfg s k' sid' serial' k
  by_cases hkk : k' = k
  · rw [if_pos hkk] at hattached
    rw [routeOf, hattached]
    exact iff_of_false (by simp) (absurd hkk)
  · rw [if_neg hkk] at hattached
    have hsid : sid ≠ sid' := by
      rintro rfl
      exact hkk (h.slots.apart k' k i' i sid serial' serial hk' hk)
    have hlatest := h.slots.known.getLatestSerial (h.slots.opened k' i' sid' serial' hk')
    have hlookup : (s.accountEnds cfg k' sid' serial').account.worldsBySid.lookup sid =
        s.account.worldsBySid.lookup sid := by
      have hended : (s.accountEnds cfg k' sid' serial').account =
          s.account.onWorldRouteDisconnected sid' serial' := by
        rw [accountEnds, if_pos hlatest]
        rfl
      rw [hended, AccountLine.lookup_onWorldRouteDisconnected, if_neg fun hc => hsid hc.1]
    rw [routeOf_congr hk hattached hlookup]
    exact iff_of_true hroute hkk

/-- The next message of a connection that is open. -/
theorem accountReads_cases {k' : Nat} {c : LinkConnection} {sid' serial' : UInt32}
    (h : Linked ids cfg s) (hc : s.connections[k']? = some c)
    (hk' : s.attached k' = some (c.world, sid', serial')) (now : Nat) :
    (s.nextMessage k' = none ∧ s.accountReads cfg now k' c sid' serial' = s) ∨
      ∃ m t, s.nextMessage k' = some m ∧ Linked ids cfg t ∧ Untouched s t ∧
        s.accountReads cfg now k' c sid' serial' = t.onRouteMessage cfg now sid' serial' m := by
  have hnext : s.nextMessage k' = c.toAccount.head? := by
    rw [nextMessage, hk', hc]
    rfl
  unfold accountReads
  cases hqueue : c.toAccount with
  | nil =>
      rw [hqueue] at hnext
      exact .inl ⟨hnext, rfl⟩
  | cons m rest =>
      rw [hqueue] at hnext
      have hpop : Linked ids cfg (s.modifyConnection k' fun c => { c with toAccount := rest }) := by
        refine h.modifyConnection k' (fun _ => ⟨rfl, rfl⟩) (fun c' hc' m' hm' => ?_) fun _ _ _ => id
        obtain rfl := Option.some.inj (hc.symm.trans hc')
        exact hqueue ▸ List.mem_cons_of_mem m hm'
      have hsame : Untouched s (s.modifyConnection k' fun c => { c with toAccount := rest }) :=
        s.untouched_modifyConnection k' fun _ => rfl
      have hread := hpop.packet sid' serial'
      have hlatest := hread.slots.known.getLatestSerial
        (hread.slots.opened k' _ _ _ ((hsame.2 k').trans hk'))
      dsimp only at hlatest ⊢
      rw [hlatest]
      exact .inr ⟨m, _, hnext, hread, hsame, rfl⟩

/-- A message costs the route exactly if it is a hello under the route's id
from another connection. -/
theorem isSome_routeOf_reads (h : Linked ids cfg s) (hroute : (s.routeOf k).isSome) (now k' : Nat) :
    ((s.step ids cfg (.accountReads now k')).routeOf k).isSome ↔
      s.keepsRoute cfg k (.accountReads now k') = true := by
  have hkeeps : s.keepsRoute cfg k (.accountReads now k') = true ↔
      k' = k ∨ ∀ entry, (s.nextMessage k').bind (helloEntry cfg) = some entry →
        entry.worldId = 0 ∨ ∀ e, s.routeOf k = some e → e.worldId ≠ entry.worldId := by
    simp [keepsRoute, Option.all_eq_true]
  have hquiet (hnext : s.nextMessage k' = none) :
      s.keepsRoute cfg k (.accountReads now k') = true := by
    refine hkeeps.mpr (.inr fun entry hentry => ?_)
    rw [hnext] at hentry
    cases hentry
  cases hk' : s.attached k' with
  | none =>
      rw [step_accountReads_of_not_attached now hk']
      exact iff_of_true hroute (hquiet (nextMessage_of_not_attached hk'))
  | some v =>
      obtain ⟨i', sid', serial'⟩ := v
      obtain ⟨c, hc, hopen, hkey, rfl⟩ := exists_open_of_attached hk'
      simp only [step, hc, hkey, hopen]
      obtain ⟨hnext, hread⟩ | ⟨m, t, hnext, ht, hsame, hread⟩ :=
        accountReads_cases h hc hk' now
      · rw [hread]
        exact iff_of_true hroute (hquiet hnext)
      · rw [hread, hkeeps, hnext, ← hsame.routeOf k]
        rw [← hsame.routeOf k] at hroute
        exact isSome_routeOf_onRouteMessage ht ((hsame.2 k').trans hk') hroute now m

/-- The end of a connection costs its own route. -/
theorem isSome_routeOf_ends (h : Linked ids cfg s) (hroute : (s.routeOf k).isSome) (k' : Nat) :
    ((s.step ids cfg (.accountEnds k')).routeOf k).isSome ↔
      s.keepsRoute cfg k (.accountEnds k') = true := by
  obtain ⟨i, sid, serial, r, hk, -⟩ := exists_attached_of_routeOf hroute
  have hkeeps : s.keepsRoute cfg k (.accountEnds k') = true ↔ k' ≠ k := by
    simp [keepsRoute]
  rw [hkeeps]
  cases hk' : s.attached k' with
  | none =>
      rw [step_accountEnds_of_not_attached hk']
      refine iff_of_true hroute ?_
      rintro rfl
      cases hk'.symm.trans hk
  | some v =>
      obtain ⟨i', sid', serial'⟩ := v
      obtain ⟨c, hc, hopen, hkey, rfl⟩ := exists_open_of_attached hk'
      simp only [step, hc, hkey, hopen]
      exact isSome_routeOf_accountEnds h hk' hroute

/-- **A step**: a route is taken by the end of its connection, a hello of
another connection for its world, and a sweep that is late. -/
theorem isSome_routeOf_step (h : Linked ids cfg s) (hroute : (s.routeOf k).isSome) (e : Event) :
    ((s.step ids cfg e).routeOf k).isSome ↔ s.keepsRoute cfg k e = true := by
  obtain ⟨i, sid, serial, r, hk, hr⟩ := exists_attached_of_routeOf hroute
  have hof : s.routeOf k = some r := (routeOf_of_attached hk).trans hr
  cases e with
  | connect | heartbeat | worldRuns | worldReads | worldEnds =>
      rw [(s.untouched_step rfl).routeOf]
      exact iff_of_true hroute rfl
  | accept k' =>
      refine iff_of_true ?_ rfl
      simp only [step]
      split
      next hc =>
        have hne : k' ≠ k := by
          rintro rfl
          cases (attached_of_key_none hc rfl).symm.trans hk
        have hsame : (s.accept k').attached k = s.attached k :=
          (attached_accept hc k).trans (if_neg hne)
        rwa [routeOf_congr hk hsame rfl]
      next => exact hroute
  | accountReads now k' => exact isSome_routeOf_reads h hroute now k'
  | accountEnds k' => exact isSome_routeOf_ends h hroute k'
  | expireStaleWorldRoutes now =>
      have hsame : (s.expireStaleWorldRoutes cfg now).attached k = s.attached k := rfl
      rw [keepsRoute, hof, Option.all_some, decide_eq_true_iff]
      simp only [step]
      rw [routeOf_of_attached (hsame.trans hk)]
      have hlookup := AccountLine.lookup_expireStaleWorldRoutes cfg s.account now sid
      rw [hr, Option.filter_some] at hlookup
      refine (Eq.congr_left (congrArg Option.isSome hlookup)).trans ?_
      split <;> simp_all
  | account e =>
      refine iff_of_true ?_ rfl
      simp only [step]
      split
      · exact hroute
      next he =>
        have hother : (s.account.step cfg e).worldsBySid.lookup sid =
            s.account.worldsBySid.lookup sid :=
          (AccountLine.sameRegistry_step (Bool.eq_false_of_not_eq_true he)).route sid
        have hsame : (s.accountStep cfg e).attached k = s.attached k := rfl
        rwa [routeOf_congr hk hsame hother]

/-! ## Runs -/

/-- The line has accepted fewer than 2^32 - 1 connections. -/
def HasRoom (s : WorldLinks) : Prop := s.line.stats.sessionOpenCount < 2 ^ 32 - 1

instance : DecidablePred HasRoom := fun s =>
  inferInstanceAs (Decidable (s.line.stats.sessionOpenCount < 2 ^ 32 - 1))

theorem HasRoom.of_step {e : Event} (h : (s.step ids cfg e).HasRoom) : s.HasRoom :=
  (s.sessionOpenCount_le_step e).trans_lt h

theorem linked_run (es : List Event) (hroom : (run (step ids cfg) {} es).HasRoom) :
    Linked ids cfg (run (step ids cfg) {} es) :=
  always_iff_forall_part.mp (linked_always ids cfg es) es List.prefix_rfl hroom

/-- **How long a route lasts**: once a connection has its route, it has it in
every state of the run that follows exactly if no event of the run takes it:
the connection does not end, no other connection's hello for its world is read,
and every sweep comes within the timeout of its last heartbeat. -/
theorem route_run_iff (ids : Nat → WorldIdentity) (cfg : AccountConfig) (es₀ es : List Event)
    (k : Nat) (hroute : ((run (step ids cfg) {} es₀).routeOf k).isSome)
    (hroom : (run (step ids cfg) {} (es₀ ++ es)).HasRoom) :
    Always (step ids cfg) (fun s => (s.routeOf k).isSome) (run (step ids cfg) {} es₀) es ↔
      Along (step ids cfg) (fun s e => s.keepsRoute cfg k e = true) (run (step ids cfg) {} es₀)
        es := by
  rw [run_append] at hroom
  have hroom₀ : (run (step ids cfg) {} es₀).HasRoom := run_backward (fun _ _ _ => .of_step) hroom
  exact always_iff_along_of_backward (W := Linked ids cfg) (fun _ _ => HasRoom.of_step) hroom
    (linked_run es₀ hroom₀) hroute (fun s e h => linked_step h e)
    fun s e h hroute => isSome_routeOf_step h hroute e

/-- One world server, which is registered and sends a heartbeat. -/
theorem route_run_iff_heartbeat :
    ∃ (ids : Nat → WorldIdentity) (cfg : AccountConfig) (es₀ es : List Event),
      ((run (step ids cfg) {} es₀).routeOf 0).isSome ∧
        (run (step ids cfg) {} (es₀ ++ es)).HasRoom ∧
        (Always (step ids cfg) (fun s => (s.routeOf 0).isSome) (run (step ids cfg) {} es₀) es ↔
          Along (step ids cfg) (fun s e => s.keepsRoute cfg 0 e = true)
            (run (step ids cfg) {} es₀) es) := by
  let ids : Nat → WorldIdentity := fun _ => { name := "alpha", host := "10.0.0.1", port := 7000 }
  let cfg : AccountConfig :=
    { configuredWorldsByName := fun serverName =>
        if serverName = "alpha" then some { worldId := 1 } else none }
  let es₀ : List Event := [.connect 0, .accept 0, .worldRuns 0, .accountReads 0 0]
  let es : List Event :=
    [.worldReads 0, .worldRuns 0, .accountReads 1 0, .heartbeat 0 1 0, .accountReads 5000000000 0,
      .expireStaleWorldRoutes 9000000000]
  have hroute : ((run (step ids cfg) {} es₀).routeOf 0).isSome := by decide +kernel
  have hroom : (run (step ids cfg) {} (es₀ ++ es)).HasRoom := by decide +kernel
  exact ⟨ids, cfg, es₀, es, hroute, hroom, route_run_iff ids cfg es₀ es 0 hroute hroom⟩

end WorldLinks

end GameServer
