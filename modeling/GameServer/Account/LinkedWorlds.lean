import GameServer.Account.WorldLinks

/-!
# GameServer.Account.LinkedWorlds

The registry of the account server, when the worlds are world servers.

On its own the registry does not hold against a connection that goes over to
another world (`registryBijection_run_iff` of `Account.WorldRegistry`).  A world
server does not do that: it says hello once on a connection, under the name
that it is set up with, and is ready as the world that the account server has
told it to be.

* `Slots`, `Messages`, `Routes` — every open connection has its slot, what is
  under way is what a world server says, and every route is of an open
  connection;
* `linked_step` — every event keeps them;
* `agreed_run` — in every run the index is a view of the registered worlds, and
  a route leads to the world server that it is registered for.
-/

namespace GameServer

open AccountLine (Owned RegistryBijection)

/-- The slot of a connection that the account server has open, and its world
server. -/
def LinkConnection.attached (c : LinkConnection) : Option (Nat × UInt32 × UInt32) :=
  if c.accountOpen then c.key.map (c.world, ·) else none

namespace WorldLinks

variable {ids : Nat → WorldIdentity} {cfg : AccountConfig} {s s' : WorldLinks}

section

variable (ids : Nat → WorldIdentity) (cfg : AccountConfig) (s : WorldLinks)

/-- The id that is configured for a world server. -/
def idOf (i : Nat) : Option UInt16 :=
  (cfg.configuredWorldsByName (wireText serviceNameMaxLen (ids i).name)).map (·.worldId)

/-- The world server was told its id. -/
def Acked (i : Nat) : Prop :=
  idOf ids cfg i = some (s.worlds i).worldId ∧ (s.worlds i).flags = 3

/-- `LinkConnection.attached` of connection `k`. -/
def attached (k : Nat) : Option (Nat × UInt32 × UInt32) :=
  s.connections[k]?.bind LinkConnection.attached

/-- What world server `i` says. -/
def SentBy (i : Nat) : RouteMessage → Prop
  | .hello serverName publicHost publicPort =>
      .hello serverName publicHost publicPort = helloOf (ids i)
  | .ready worldId flags => Acked ids cfg s i ∧ idOf ids cfg i = some worldId ∧ flags = 3
  | .heartbeat worldId _ _ flags => idOf ids cfg i = some worldId ∧ flags = 3

/-- A route that leads to world server `i`. -/
def RouteOf (i : Nat) (e : RegisteredWorldEndpoint) : Prop :=
  idOf ids cfg i = some e.worldId ∧
    RouteMessage.hello e.serverName e.publicHost e.publicPort = helloOf (ids i)

/-- Every connection that is open has its slot. -/
structure Slots : Prop where
  known : s.line.Known
  free : s.line.tcp.FreeSlots
  count : s.line.tcp.slotCount.toNat ≤ s.line.stats.sessionOpenCount + 1
  opened : ∀ k i sid serial, s.attached k = some (i, sid, serial) →
    s.line.tcp.isConnected sid serial = true
  apart : ∀ k k' i i' sid serial serial', s.attached k = some (i, sid, serial) →
    s.attached k' = some (i', sid, serial') → k = k'

/-- What is under way is what the world servers say and what they are told. -/
structure Messages : Prop where
  toAccount : ∀ (k : Nat) c, s.connections[k]? = some c → ∀ m ∈ c.toAccount,
    SentBy ids cfg s c.world m
  toWorld : ∀ (k : Nat) c, s.connections[k]? = some c → ∀ ack ∈ c.toWorld, ack.accepted = true →
    idOf ids cfg c.world = some ack.worldId
  tasks : ∀ i serial ack, .packet serial ack ∈ (s.worlds i).tasks → ack.accepted = true →
    idOf ids cfg i = some ack.worldId
  ready : ∀ i, (s.worlds i).accountReady = true → Acked ids cfg s i
  session : ∀ i k, (s.worlds i).session = some k → ∃ c, s.connections[k]? = some c ∧ c.world = i

/-- Every route is of an open connection. -/
structure Routes : Prop where
  owned : Owned (s.account, s.claims)
  route : ∀ sid e, s.account.worldsBySid.lookup sid = some e →
    e.sid = sid ∧ ∃ k i, s.attached k = some (i, sid, e.serial) ∧ RouteOf ids cfg i e ∧
      (e.ready = true → Acked ids cfg s i)

/-- The invariant. -/
structure Linked : Prop where
  slots : Slots s
  messages : Messages ids cfg s
  routes : Routes ids cfg s

end

/-- Before the first event nothing is connected and no route is listed. -/
theorem linked_init : Linked ids cfg {} where
  slots :=
    { known := LineHost.known_init
      free := TcpServer.freeSlots_initial
      count := Nat.le_refl 1
      opened := fun k i sid serial h => by cases h
      apart := fun k k' i i' sid serial serial' h => by cases h }
  messages :=
    { toAccount := fun k c h => by cases h
      toWorld := fun k c h => by cases h
      tasks := fun i serial ack h => by cases h
      ready := fun i h => by cases h
      session := fun i k h => by cases h }
  routes :=
    { owned := AccountLine.owned_init
      route := fun sid e h => by cases h }

/-! ## What a change leaves alone -/

@[simp] theorem worlds_setWorld_self (s : WorldLinks) (i : Nat) (w : AccountLink) :
    (s.setWorld i w).worlds i = w := by
  simp [setWorld]

theorem worlds_setWorld_of_ne (s : WorldLinks) {i j : Nat} (w : AccountLink) (h : j ≠ i) :
    (s.setWorld i w).worlds j = s.worlds j := by
  simp [setWorld, Function.update_of_ne h]

/-- `Slots` reads the account line and the attached keys only. -/
theorem Slots.congr (h : Slots s) (hline : s'.line = s.line)
    (hattached : ∀ k, s'.attached k = s.attached k) : Slots s' where
  known := hline ▸ h.known
  free := hline ▸ h.free
  count := hline ▸ h.count
  opened k i sid serial hk := hline ▸ h.opened k i sid serial (hattached k ▸ hk)
  apart k k' i i' sid serial serial' hk hk' :=
    h.apart k k' i i' sid serial serial' (hattached k ▸ hk) (hattached k' ▸ hk')

/-- `Routes` survives a step that leaves the account side alone and detaches nobody. -/
theorem Routes.congr (h : Routes ids cfg s) (haccount : s'.account = s.account)
    (hclaims : s'.claims = s.claims)
    (hattached : ∀ k v, s.attached k = some v → s'.attached k = some v)
    (hacked : ∀ i, Acked ids cfg s i → Acked ids cfg s' i) : Routes ids cfg s' where
  owned := by
    rw [haccount, hclaims]
    exact h.owned
  route sid e he := by
    rw [haccount] at he
    obtain ⟨hsid, k, i, hk, hroute, hready⟩ := h.route sid e he
    exact ⟨hsid, k, i, hattached k _ hk, hroute, fun hr => hacked i (hready hr)⟩

theorem SentBy.mono {i : Nat} {m : RouteMessage} (h : SentBy ids cfg s i m)
    (hacked : ∀ i, Acked ids cfg s i → Acked ids cfg s' i) : SentBy ids cfg s' i m := by
  cases m with
  | hello serverName publicHost publicPort => exact h
  | ready worldId flags => exact ⟨hacked i h.1, h.2⟩
  | heartbeat worldId activeZoneCount loadScore flags => exact h

/-- The connections keep their world servers, and what is put on them is
theirs. -/
theorem Messages.update (h : Messages ids cfg s) (hworlds : s'.worlds = s.worlds)
    (hkept : ∀ (k : Nat) c, s.connections[k]? = some c →
      ∃ c', s'.connections[k]? = some c' ∧ c'.world = c.world)
    (hold : ∀ (k : Nat) c', s'.connections[k]? = some c' →
      ∃ c, s.connections[k]? = some c ∧ c'.world = c.world ∧
        (∀ m ∈ c'.toAccount, m ∈ c.toAccount ∨ SentBy ids cfg s c.world m) ∧
        ∀ ack ∈ c'.toWorld, ack ∈ c.toWorld ∨
          (ack.accepted = true → idOf ids cfg c.world = some ack.worldId)) :
    Messages ids cfg s' := by
  have hacked (i : Nat) (hi : Acked ids cfg s i) : Acked ids cfg s' i := by
    unfold Acked
    rwa [hworlds]
  refine ⟨fun k c' hc' m hm => ?_, fun k c' hc' ack hack haccepted => ?_, ?_, ?_, ?_⟩
  · obtain ⟨c, hc, hworld, hto, -⟩ := hold k c' hc'
    rw [hworld]
    exact ((hto m hm).elim (h.toAccount k c hc m) id).mono hacked
  · obtain ⟨c, hc, hworld, -, hto⟩ := hold k c' hc'
    rw [hworld]
    exact (hto ack hack).elim (fun hin => h.toWorld k c hc ack hin haccepted) (· haccepted)
  · rw [hworlds]
    exact h.tasks
  · rw [hworlds]
    exact fun i hi => hacked i (h.ready i hi)
  · rw [hworlds]
    intro i k hk
    obtain ⟨c, hc, hworld⟩ := h.session i k hk
    obtain ⟨c', hc', hsame⟩ := hkept k c hc
    exact ⟨c', hc', hsame.trans hworld⟩

theorem Messages.congr (h : Messages ids cfg s) (hworlds : s'.worlds = s.worlds)
    (hconnections : s'.connections = s.connections) : Messages ids cfg s' := by
  refine h.update hworlds (fun k c hc => ?_) fun k c hc => ?_
  · exact ⟨c, by rw [hconnections, hc], rfl⟩
  · rw [hconnections] at hc
    exact ⟨c, hc, rfl, fun m hm => .inl hm, fun ack hack => .inl hack⟩

/-- What is in flight stays accounted for when one connection only drops messages or takes
on a message its world really sent. -/
theorem Messages.modifyConnection (h : Messages ids cfg s) (k : Nat)
    {f : LinkConnection → LinkConnection} (hworld : ∀ c, (f c).world = c.world)
    (hto : ∀ c, s.connections[k]? = some c → ∀ m ∈ (f c).toAccount,
      m ∈ c.toAccount ∨ SentBy ids cfg s c.world m)
    (hfrom : ∀ c, s.connections[k]? = some c → ∀ ack ∈ (f c).toWorld, ack ∈ c.toWorld) :
    Messages ids cfg (s.modifyConnection k f) := by
  refine h.update rfl (fun k' c hc => ?_) fun k' c' hc' => ?_
  · simp only [WorldLinks.modifyConnection, List.getElem?_modify, hc, Option.map_eq_map,
      Option.map_some]
    split
    · exact ⟨f c, rfl, hworld c⟩
    · exact ⟨c, rfl, rfl⟩
  · simp only [WorldLinks.modifyConnection, List.getElem?_modify] at hc'
    obtain ⟨c, hc, rfl⟩ := Option.map_eq_some_iff.mp hc'
    by_cases hk : k = k'
    · subst hk
      rw [if_pos rfl]
      exact ⟨c, hc, hworld c, hto c hc, fun ack hack => .inl (hfrom c hc ack hack)⟩
    · rw [if_neg hk]
      exact ⟨c, hc, rfl, fun m hm => .inl hm, fun ack hack => .inl hack⟩

/-- What is in flight stays accounted for when world `i` becomes `w`, as long as an
acknowledged `w` carries its own id and queues only its own acknowledgements. -/
theorem Messages.setWorld (h : Messages ids cfg s) {i : Nat} {w : AccountLink}
    (hacked : Acked ids cfg s i ∨ w.accountReady = true →
      idOf ids cfg i = some w.worldId ∧ w.flags = 3)
    (htasks : ∀ serial ack, .packet serial ack ∈ w.tasks → ack.accepted = true →
      idOf ids cfg i = some ack.worldId)
    (hsession : ∀ k, w.session = some k → ∃ c, s.connections[k]? = some c ∧ c.world = i) :
    Messages ids cfg (s.setWorld i w) := by
  have hself := s.worlds_setWorld_self i w
  have hother {j : Nat} (hj : j ≠ i) := s.worlds_setWorld_of_ne w hj
  have hmono (j : Nat) (hj : Acked ids cfg s j) : Acked ids cfg (s.setWorld i w) j := by
    unfold Acked
    by_cases hji : j = i
    · subst hji
      rw [hself]
      exact hacked (.inl hj)
    · rwa [hother hji]
  refine ⟨fun k c hc m hm => (h.toAccount k c hc m hm).mono hmono, h.toWorld,
    fun j serial ack hin => ?_, fun j hj => ?_, fun j k hk => ?_⟩
  · by_cases hji : j = i
    · subst hji
      rw [hself] at hin
      exact htasks serial ack hin
    · rw [hother hji] at hin
      exact h.tasks j serial ack hin
  · by_cases hji : j = i
    · subst hji
      rw [hself] at hj
      rw [Acked, hself]
      exact hacked (.inr hj)
    · rw [hother hji] at hj
      exact hmono j (h.ready j hj)
  · by_cases hji : j = i
    · subst hji
      rw [hself] at hk
      exact hsession k hk
    · rw [hother hji] at hk
      exact h.session j k hk

/-! ## The world servers' side -/

/-- What a world server does is not seen at the account server at once. -/
structure WorldSide (ids : Nat → WorldIdentity) (cfg : AccountConfig) (s s' : WorldLinks) :
    Prop where
  account : s'.account = s.account
  claims : s'.claims = s.claims
  line : s'.line = s.line
  attached : ∀ k, s'.attached k = s.attached k
  acked : ∀ i, Acked ids cfg s i → Acked ids cfg s' i

theorem WorldSide.linked (hw : WorldSide ids cfg s s') (h : Linked ids cfg s)
    (hm : Messages ids cfg s') : Linked ids cfg s' where
  slots := h.slots.congr hw.line hw.attached
  messages := hm
  routes := h.routes.congr hw.account hw.claims (fun k _ hk => (hw.attached k).trans hk) hw.acked

theorem WorldSide.refl (s : WorldLinks) : WorldSide ids cfg s s :=
  ⟨rfl, rfl, rfl, fun _ => rfl, fun _ hi => hi⟩

/-- Two steps on the world's side are one. -/
theorem WorldSide.trans {s'' : WorldLinks} (h : WorldSide ids cfg s s')
    (h' : WorldSide ids cfg s' s'') : WorldSide ids cfg s s'' where
  account := h'.account.trans h.account
  claims := h'.claims.trans h.claims
  line := h'.line.trans h.line
  attached k := (h'.attached k).trans (h.attached k)
  acked i hi := h'.acked i (h.acked i hi)

/-- Changing one world leaves the account side as it was. -/
theorem worldSide_setWorld {i : Nat} {w : AccountLink}
    (hacked : Acked ids cfg s i → idOf ids cfg i = some w.worldId ∧ w.flags = 3) :
    WorldSide ids cfg s (s.setWorld i w) where
  account := rfl
  claims := rfl
  line := rfl
  attached _ := rfl
  acked j hj := by
    unfold Acked
    by_cases hji : j = i
    · subst hji
      rw [worlds_setWorld_self]
      exact hacked hj
    · rwa [worlds_setWorld_of_ne s w hji]

/-- A changed connection changes its own attachment and nobody else's. -/
theorem attached_modifyConnection (k k' : Nat) {f : LinkConnection → LinkConnection} :
    (s.modifyConnection k f).attached k' =
      if k = k' then s.connections[k']?.bind fun c => (f c).attached else s.attached k' := by
  unfold attached modifyConnection
  rw [List.getElem?_modify]
  split
  next => cases s.connections[k']? <;> rfl
  next => cases s.connections[k']? <;> rfl

/-- Changing the queues of a connection leaves the account side as it was. -/
theorem worldSide_modifyConnection (k : Nat) {f : LinkConnection → LinkConnection}
    (hf : ∀ c, (f c).attached = c.attached) : WorldSide ids cfg s (s.modifyConnection k f) where
  account := rfl
  claims := rfl
  line := rfl
  attached k' := by
    rw [attached_modifyConnection]
    split
    · simp only [hf]
      rfl
    · rfl
  acked _ hi := hi

/-- A message that is sent is put on the connection of the world server, or
dropped. -/
theorem send_cases (s : WorldLinks) (i : Nat) (serial : UInt32) (m : RouteMessage) :
    s.send i serial m = s ∨ ∃ k, (s.worlds i).session = some k ∧
      s.send i serial m =
        s.modifyConnection k fun c => { c with toAccount := c.toAccount ++ [m] } := by
  unfold send
  split
  · exact .inl rfl
  · cases hk : (s.worlds i).session with
    | none => exact .inl rfl
    | some k => exact .inr ⟨k, rfl, rfl⟩

/-- Sending appends to a queue. -/
theorem worldSide_send (s : WorldLinks) (i : Nat) (serial : UInt32) (m : RouteMessage) :
    WorldSide ids cfg s (s.send i serial m) := by
  obtain heq | ⟨k, -, heq⟩ := s.send_cases i serial m
  · rw [heq]
    exact .refl s
  · rw [heq]
    exact worldSide_modifyConnection k fun _ => rfl

/-- A message that the world `i` sends is one that `SentBy` allows. -/
theorem Messages.send (h : Messages ids cfg s) {i : Nat} (serial : UInt32) {m : RouteMessage}
    (hm : SentBy ids cfg s i m) : Messages ids cfg (s.send i serial m) := by
  obtain heq | ⟨k, hk, heq⟩ := s.send_cases i serial m
  · rw [heq]
    exact h
  · rw [heq]
    refine h.modifyConnection k (fun _ => rfl) (fun c hc m' hm' => ?_) fun c hc ack hack => hack
    obtain ⟨c', hc', hworld⟩ := h.session i k hk
    obtain rfl := Option.some.inj (hc.symm.trans hc')
    rcases List.mem_append.mp hm' with hin | hnew
    · exact .inl hin
    · rw [List.mem_singleton.mp hnew, hworld]
      exact .inr hm

/-- A world server is set to something and sends nothing. -/
theorem Linked.setWorld (h : Linked ids cfg s) {i : Nat} {w : AccountLink}
    (hacked : Acked ids cfg s i ∨ w.accountReady = true →
      idOf ids cfg i = some w.worldId ∧ w.flags = 3)
    (htasks : ∀ serial ack, .packet serial ack ∈ w.tasks → ack.accepted = true →
      idOf ids cfg i = some ack.worldId)
    (hsession : ∀ k, w.session = some k → ∃ c, s.connections[k]? = some c ∧ c.world = i) :
    Linked ids cfg (s.setWorld i w) :=
  (worldSide_setWorld fun hi => hacked (.inl hi)).linked h
    (h.messages.setWorld hacked htasks hsession)

theorem Linked.send (h : Linked ids cfg s) {i : Nat} (serial : UInt32) {m : RouteMessage}
    (hm : SentBy ids cfg s i m) : Linked ids cfg (s.send i serial m) :=
  (worldSide_send s i serial m).linked h (h.messages.send serial hm)

/-- Nothing that matters about a world server changes. -/
theorem Linked.setWorld_same (h : Linked ids cfg s) {i : Nat} {w : AccountLink}
    (hid : w.worldId = (s.worlds i).worldId) (hflags : w.flags = (s.worlds i).flags)
    (hready : w.accountReady = true → (s.worlds i).accountReady = true)
    (htasks : ∀ serial ack, .packet serial ack ∈ w.tasks → .packet serial ack ∈ (s.worlds i).tasks)
    (hsession : ∀ k, w.session = some k → (s.worlds i).session = some k) :
    Linked ids cfg (s.setWorld i w) := by
  refine h.setWorld (fun hi => ?_) (fun serial ack hin => ?_) fun k hk => ?_
  · rw [hid, hflags]
    exact hi.elim id fun hr => h.messages.ready i (hready hr)
  · exact h.messages.tasks i serial ack (htasks serial ack hin)
  · exact h.messages.session i k (hsession k hk)

/-- The heartbeat of a world carries the id it was acknowledged with. -/
theorem linked_sendAccountRouteHeartbeat (h : Linked ids cfg s) (i : Nat)
    (activeZoneCount loadScore : UInt16) :
    Linked ids cfg (s.sendAccountRouteHeartbeat i activeZoneCount loadScore) := by
  unfold sendAccountRouteHeartbeat
  dsimp only
  split
  next hready =>
    have hacked := h.messages.ready i (Bool.and_eq_true_iff.mp hready).1
    exact h.send _ hacked
  next => exact h

/-- An accepted acknowledgement gives the world its own id, so the ready message it sends
is a true one. -/
theorem linked_onAccountRegisterAck (h : Linked ids cfg s) (i : Nat) (serial : UInt32)
    {ack : RegisterAck} (hid : idOf ids cfg i = some ack.worldId) :
    Linked ids cfg (s.onAccountRegisterAck i serial ack) := by
  unfold onAccountRegisterAck
  set w : AccountLink := { s.worlds i with
    accountSid := AccountLink.clientIndex
    accountSerial := serial
    accountReady := true
    worldId := ack.worldId
    flags := 3 } with hw
  have hset : Linked ids cfg (s.setWorld i w) :=
    h.setWorld (fun _ => ⟨hid, rfl⟩) (h.messages.tasks i) (h.messages.session i)
  have hacked : Acked ids cfg (s.setWorld i w) i := by
    rw [Acked, worlds_setWorld_self]
    exact ⟨hid, rfl⟩
  dsimp only
  split
  · exact hset.send serial ⟨hacked, hid, rfl⟩
  · exact hset

/-- Each task of the world's account link keeps the invariant, given what its
acknowledgement says. -/
theorem linked_runTask (h : Linked ids cfg s) (i : Nat) {t : AccountTask}
    (ht : ∀ serial ack, t = .packet serial ack → ack.accepted = true →
      idOf ids cfg i = some ack.worldId) : Linked ids cfg (s.runTask ids i t) := by
  cases t with
  | connected serial =>
      refine Linked.send ?_ serial rfl
      exact h.setWorld_same rfl rfl id (fun _ _ => id) fun _ => id
  | packet serial ack =>
      have hset : Linked ids cfg (s.setWorld i { s.worlds i with latestSerial := some serial }) :=
        h.setWorld_same rfl rfl id (fun _ _ => id) fun _ => id
      simp only [runTask]
      split
      next haccepted =>
        exact linked_onAccountRegisterAck hset i serial (ht serial ack rfl haccepted)
      next => exact hset
  | disconnected serial =>
      have hsame : ((s.worlds i).handleDisconnected serial).worldId = (s.worlds i).worldId ∧
          ((s.worlds i).handleDisconnected serial).flags = (s.worlds i).flags ∧
          (((s.worlds i).handleDisconnected serial).accountReady = true →
            (s.worlds i).accountReady = true) ∧
          ((s.worlds i).handleDisconnected serial).tasks = (s.worlds i).tasks ∧
          ((s.worlds i).handleDisconnected serial).session = (s.worlds i).session := by
        unfold AccountLink.handleDisconnected
        dsimp only
        split <;> split <;> simp
      obtain ⟨hid, hflags, hready, htasks, hsession⟩ := hsame
      exact h.setWorld_same hid hflags hready (fun _ _ => htasks ▸ id) fun _ => hsession ▸ id

/-- A connection is changed on the world server's side, or a message is taken
off it. -/
theorem Linked.modifyConnection (h : Linked ids cfg s) (k : Nat)
    {f : LinkConnection → LinkConnection}
    (hf : ∀ c, (f c).attached = c.attached ∧ (f c).world = c.world)
    (hto : ∀ c, s.connections[k]? = some c → (f c).toAccount ⊆ c.toAccount)
    (hfrom : ∀ c, s.connections[k]? = some c → (f c).toWorld ⊆ c.toWorld) :
    Linked ids cfg (s.modifyConnection k f) :=
  (worldSide_modifyConnection k fun c => (hf c).1).linked h
    (h.messages.modifyConnection k (fun c => (hf c).2) (fun c hc _ hm => .inl (hto c hc hm))
      fun c hc _ hack => hfrom c hc hack)

/-- A connection after the append was there, or is the new one. -/
theorem mem_append_connection {i : Nat} {serial : UInt32} {k : Nat} {c : LinkConnection}
    (hc : (s.connections ++ [{ world := i, serial : LinkConnection }])[k]? = some c) :
    s.connections[k]? = some c ∨ c = { world := i, serial } := by
  rw [List.getElem?_append] at hc
  split at hc
  · exact .inl hc
  · exact .inr (List.mem_singleton.mp (List.mem_of_getElem? hc))

theorem getElem?_append_connection {i : Nat} {serial : UInt32} {k : Nat} {c : LinkConnection}
    (hc : s.connections[k]? = some c) :
    (s.connections ++ [{ world := i, serial : LinkConnection }])[k]? = some c := by
  rw [List.getElem?_append_left (List.getElem?_eq_some_iff.mp hc).1]
  exact hc

/-- A new connection has no slot. -/
theorem attached_append (s : WorldLinks) (i : Nat) (serial : UInt32) (k : Nat) :
    attached { s with connections := s.connections ++ [{ world := i, serial }] } k =
      s.attached k := by
  unfold attached
  cases hc : s.connections[k]? with
  | some c => rw [getElem?_append_connection hc]
  | none =>
      cases hc' : (s.connections ++ [{ world := i, serial : LinkConnection }])[k]? with
      | none => rfl
      | some c =>
          obtain hold | rfl := mem_append_connection hc'
          · rw [hc] at hold
            cases hold
          · rfl

/-- A fresh connection has empty queues and no key. -/
theorem linked_append (h : Linked ids cfg s) (i : Nat) (serial : UInt32) :
    Linked ids cfg { s with connections := s.connections ++ [{ world := i, serial }] } := by
  have hside : WorldSide ids cfg s
      { s with connections := s.connections ++ [{ world := i, serial }] } :=
    ⟨rfl, rfl, rfl, s.attached_append i serial, fun _ hi => hi⟩
  refine hside.linked h ⟨fun k c hc m hm => ?_, fun k c hc ack hack haccepted => ?_,
    h.messages.tasks, h.messages.ready, fun j k hk => ?_⟩
  · obtain hold | rfl := mem_append_connection hc
    · exact h.messages.toAccount k c hold m hm
    · cases hm
  · obtain hold | rfl := mem_append_connection hc
    · exact h.messages.toWorld k c hold ack hack haccepted
    · cases hack
  · obtain ⟨c, hc, hworld⟩ := h.messages.session j k hk
    exact ⟨c, getElem?_append_connection hc, hworld⟩

/-- Connecting adds a connection and tells the world. -/
theorem linked_connect (h : Linked ids cfg s) (i : Nat) : Linked ids cfg (s.connect i) := by
  set serial := (s.worlds i).clientSerial + 1 with hserial
  have happend := linked_append h i serial
  refine happend.setWorld (fun hi => ?_) (fun serial' ack hin => ?_) fun k hk => ?_
  · exact hi.elim id (happend.messages.ready i)
  · rcases List.mem_append.mp hin with hold | hnew
    · exact h.messages.tasks i serial' ack hold
    · cases List.mem_singleton.mp hnew
  · obtain rfl := Option.some.inj hk
    exact ⟨{ world := i, serial }, List.getElem?_concat_length, rfl⟩

/-- The end of a connection on the world's side clears its session and nothing of the
account server. -/
theorem linked_worldEnds (h : Linked ids cfg s) (k : Nat) (c : LinkConnection) :
    Linked ids cfg (s.worldEnds k c) := by
  have hset : Linked ids cfg (s.setWorld c.world { s.worlds c.world with
      session := if (s.worlds c.world).session = some k then none else (s.worlds c.world).session
      tasks := (s.worlds c.world).tasks ++ [.disconnected c.serial] }) := by
    refine h.setWorld_same rfl rfl id (fun serial ack hin => ?_) fun k' hk' => ?_
    · rcases List.mem_append.mp hin with hold | hnew
      · exact hold
      · cases List.mem_singleton.mp hnew
    · dsimp only at hk'
      split at hk'
      · cases hk'
      · exact hk'
  exact hset.modifyConnection k (fun _ => ⟨rfl, rfl⟩) (fun _ _ _ => id) fun _ _ _ => id

/-- An acknowledgement leaves its connection and enters the task queue of its world. -/
theorem linked_worldReads (h : Linked ids cfg s) {k : Nat} {c : LinkConnection} {ack : RegisterAck}
    {rest : List RegisterAck} (hc : s.connections[k]? = some c) (hqueue : c.toWorld = ack :: rest) :
    Linked ids cfg ((s.modifyConnection k fun c => { c with toWorld := rest }).setWorld c.world
      { s.worlds c.world with tasks := (s.worlds c.world).tasks ++ [.packet c.serial ack] }) := by
  have hpop : Linked ids cfg (s.modifyConnection k fun c => { c with toWorld := rest }) := by
    refine h.modifyConnection k (fun _ => ⟨rfl, rfl⟩) (fun _ _ _ => id) fun c' hc' ack' hack' => ?_
    obtain rfl := Option.some.inj (hc.symm.trans hc')
    rw [hqueue]
    exact List.mem_cons_of_mem ack hack'
  refine hpop.setWorld (fun hi => hi.elim id (hpop.messages.ready c.world))
    (fun serial' ack' hin haccepted => ?_) (hpop.messages.session c.world)
  rcases List.mem_append.mp hin with hold | hnew
  · exact h.messages.tasks c.world serial' ack' hold haccepted
  · obtain ⟨-, rfl⟩ := AccountTask.packet.inj (List.mem_singleton.mp hnew)
    exact h.messages.toWorld k c hc ack' (hqueue ▸ List.mem_cons_self) haccepted

/-! ## The account server's side -/

/-- Accepting attaches the connection to the next slot of the server and leaves the rest. -/
theorem attached_accept {k : Nat} {c : LinkConnection} (hc : s.connections[k]? = some c)
    (k' : Nat) : (s.accept k).attached k' =
      if k = k' then some (c.world, s.line.tcp.nextConnection) else s.attached k' := by
  unfold accept
  rw [attached_modifyConnection]
  split
  next hk =>
    subst hk
    dsimp only
    rw [hc]
    rfl
  next => rfl

theorem attached_of_key_none {k : Nat} {c : LinkConnection} (hc : s.connections[k]? = some c)
    (hkey : c.key = none) : s.attached k = none := by
  unfold attached LinkConnection.attached
  rw [hc, Option.bind_some, hkey]
  exact ite_self _

/-- An accepted connection gets a slot nobody holds, so no route of another world is
reached through it. The open-session counter must have room. -/
theorem linked_accept (h : Linked ids cfg s) {k : Nat} {c : LinkConnection}
    (hc : s.connections[k]? = some c) (hkey : c.key = none)
    (hroom : s.line.stats.sessionOpenCount + 1 < 2 ^ 32 - 1) : Linked ids cfg (s.accept k) := by
  obtain ⟨htcp, hopened⟩ := s.line.step_accept_default
  have hnone := attached_of_key_none hc hkey
  have hattached := attached_accept hc
  have hold {k' : Nat} {v : Nat × UInt32 × UInt32} (hk' : s.attached k' = some v) :
      (s.accept k).attached k' = some v := by
    rw [hattached, if_neg (fun heq => by rw [← heq, hnone] at hk'; cases hk')]
    exact hk'
  have hfree := h.slots.free.nextConnection
  -- an open connection is not in the slot that is handed out
  have hne {k' i sid serial} (hk' : s.attached k' = some (i, sid, serial)) :
      sid ≠ s.line.tcp.nextConnection.1 := fun heq => by
    have hconn := h.slots.opened k' i sid serial hk'
    rw [heq, TcpServer.isConnected, hfree] at hconn
    cases hconn
  refine ⟨⟨LineHost.known_step h.slots.known .accept, ?_, ?_, ?_, ?_⟩, ?_, ?_⟩
  · have hcount := h.slots.count
    have hnext := h.slots.free.accept (by omega)
    rwa [← htcp] at hnext
  · have hcount := h.slots.count
    have hslots := s.line.tcp.slotCount_accept_le
    have haccepted : (s.accept k).line = s.line.step {} .accept := rfl
    rw [haccepted, htcp, hopened]
    omega
  · intro k' i sid serial hk'
    have haccepted : (s.accept k).line.tcp.slots = s.line.tcp.accept.slots :=
      congrArg TcpServer.slots htcp
    rw [TcpServer.isConnected, haccepted, TcpServer.slots_accept]
    rw [hattached] at hk'
    split at hk'
    · obtain ⟨-, hkey'⟩ := Prod.mk.inj (Option.some.inj hk')
      rw [hkey', Table.set_self]
      simp
    · rw [Table.set_of_ne _ _ (hne hk')]
      exact h.slots.opened k' i sid serial hk'
  · intro k₁ k₂ i₁ i₂ sid serial₁ serial₂ h₁ h₂
    rw [hattached] at h₁ h₂
    split at h₁
    next heq₁ =>
      split at h₂
      next heq₂ => exact heq₁.symm.trans heq₂
      next =>
        obtain ⟨-, hkey'⟩ := Prod.mk.inj (Option.some.inj h₁)
        exact absurd (congrArg Prod.fst hkey').symm (hne h₂)
    next =>
      split at h₂
      next =>
        obtain ⟨-, hkey'⟩ := Prod.mk.inj (Option.some.inj h₂)
        exact absurd (congrArg Prod.fst hkey').symm (hne h₁)
      next => exact h.slots.apart k₁ k₂ i₁ i₂ sid serial₁ serial₂ h₁ h₂
  · have hline : Messages ids cfg { s with line := s.line.step {} .accept } :=
      h.messages.congr rfl rfl
    exact hline.modifyConnection k (fun _ => rfl) (fun _ _ _ hm => .inl hm) fun _ _ _ hack => hack
  · exact h.routes.congr rfl rfl (fun k' v hk' => hold hk') fun _ hi => hi

/-- Reading a packet off the wire changes no route. -/
theorem Linked.packet (h : Linked ids cfg s) (sid serial : UInt32) :
    Linked ids cfg { s with line := s.line.step {} (.packet sid serial) } := by
  obtain ⟨htcp, hstats⟩ := s.line.tcp_step_packet {} sid serial
  refine ⟨⟨LineHost.known_step h.slots.known _, ?_, ?_, ?_, h.slots.apart⟩,
    h.messages.congr rfl rfl, h.routes.congr rfl rfl (fun _ _ => id) fun _ => id⟩
  · exact htcp ▸ h.slots.free
  · exact htcp ▸ hstats ▸ h.slots.count
  · exact fun k i sid' serial' hk => htcp ▸ h.slots.opened k i sid' serial' hk

/-- The account server takes a step that keeps the worlds of its connections. -/
theorem Linked.accountStep (h : Linked ids cfg s) {e : AccountLine.Event}
    (hkeeps : s.account.keepsWorldId cfg e = true)
    (hroute : ∀ sid e', (s.account.step cfg e).worldsBySid.lookup sid = some e' →
      e'.sid = sid ∧ ∃ k i, s.attached k = some (i, sid, e'.serial) ∧ RouteOf ids cfg i e' ∧
        (e'.ready = true → Acked ids cfg s i)) :
    Linked ids cfg (s.accountStep cfg e) :=
  ⟨h.slots.congr rfl fun _ => rfl, h.messages.congr rfl rfl,
    ⟨h.routes.owned.step e hkeeps, hroute⟩⟩

/-- The route of an open connection's slot is that connection's. -/
theorem Linked.route_attached (h : Linked ids cfg s) {k i : Nat} {sid serial : UInt32}
    {e : RegisteredWorldEndpoint} (hk : s.attached k = some (i, sid, serial))
    (he : s.account.worldsBySid.lookup sid = some e) :
    e.sid = sid ∧ e.serial = serial ∧ RouteOf ids cfg i e ∧
      (e.ready = true → Acked ids cfg s i) := by
  obtain ⟨hsid, k', i', hk', hroute, hready⟩ := h.routes.route sid e he
  obtain rfl := h.slots.apart k k' i i' sid serial e.serial hk hk'
  obtain ⟨rfl, hserial⟩ := Prod.mk.inj (Option.some.inj (hk.symm.trans hk'))
  exact ⟨hsid, (Prod.mk.inj hserial).2.symm, hroute, hready⟩

/-- The hello of world `i` on its own connection lists the world under the id of its own
configuration. -/
theorem Linked.hello (h : Linked ids cfg s) {k i now : Nat} {sid serial : UInt32}
    {serverName publicHost : String} {publicPort : UInt16}
    (hk : s.attached k = some (i, sid, serial))
    (hm : RouteMessage.hello serverName publicHost publicPort = helloOf (ids i)) :
    Linked ids cfg
      (s.accountStep cfg (.worldHello now sid serial serverName publicHost publicPort)) := by
  obtain ⟨hname, -, -⟩ := RouteMessage.hello.inj hm
  have hkeeps : s.account.keepsWorldId cfg
      (.worldHello now sid serial serverName publicHost publicPort) = true := by
    unfold AccountLine.keepsWorldId
    rw [Option.all_eq_true]
    intro entry hentry
    rw [Option.all_eq_true]
    intro e he
    obtain ⟨-, -, ⟨hid, -⟩, -⟩ := h.route_attached hk he
    rw [idOf, ← hname, hentry] at hid
    exact decide_eq_true (.inr (Option.some.inj hid).symm)
  refine h.accountStep hkeeps fun sid' e he => ?_
  simp only [AccountLine.step] at he
  cases hentry : cfg.configuredWorldsByName serverName with
  | none =>
      rw [AccountLine.onWorldServerHello_of_unknown hentry] at he
      exact h.routes.route sid' e he
  | some entry =>
      rw [AccountLine.lookup_onWorldServerHello hentry] at he
      split at he
      next hsid =>
        obtain rfl := Option.some.inj he
        have hid : idOf ids cfg i = some entry.worldId := by
          rw [idOf, ← hname, hentry]
          rfl
        exact ⟨hsid.symm, k, i, hsid ▸ hk, ⟨hid, hm⟩, fun hready => by cases hready⟩
      next =>
        split at he
        · cases he
        · exact h.routes.route sid' e he

/-- A ready message reaches the route of the world that sent it. -/
theorem Linked.ready (h : Linked ids cfg s) {k i now : Nat} {sid serial : UInt32}
    {worldId : UInt16} {flags : UInt32} (hk : s.attached k = some (i, sid, serial))
    (hm : SentBy ids cfg s i (.ready worldId flags)) :
    Linked ids cfg (s.accountStep cfg (.worldReady now sid serial worldId flags)) := by
  obtain ⟨hacked, hid, -⟩ := hm
  have hfound {e : RegisteredWorldEndpoint} (he : s.account.findWorld sid serial = some e) :
      e.sid = sid ∧ e.serial = serial ∧ RouteOf ids cfg i e ∧ e.worldId = worldId := by
    obtain ⟨hsid, hserial, hroute, -⟩ := h.route_attached hk (AccountLine.findWorld_eq_some he).1
    exact ⟨hsid, hserial, hroute, Option.some.inj (hroute.1.symm.trans hid)⟩
  have hkeeps : s.account.keepsWorldId cfg (.worldReady now sid serial worldId flags) = true := by
    unfold AccountLine.keepsWorldId
    rw [Option.all_eq_true]
    exact fun e he => decide_eq_true (hfound he).2.2.2
  refine h.accountStep hkeeps fun sid' e he => ?_
  simp only [AccountLine.step, AccountLine.lookup_onWorldReadyNotify] at he
  split at he
  next hsid =>
    subst hsid
    cases hfind : s.account.findWorld sid' serial with
    | none =>
        rw [hfind] at he
        exact h.routes.route sid' e he
    | some e₀ =>
        rw [hfind] at he
        obtain rfl := Option.some.inj he
        obtain ⟨hsid, hserial, ⟨-, htexts⟩, -⟩ := hfound hfind
        refine ⟨hsid, k, i, ?_, ⟨hid, htexts⟩, fun _ => hacked⟩
        dsimp only
        rwa [hserial]
  next => exact h.routes.route sid' e he

/-- A heartbeat refreshes a route and changes nothing the invariant reads. -/
theorem Linked.heartbeat (h : Linked ids cfg s) {now : Nat} {sid serial : UInt32}
    {worldId activeZoneCount loadScore : UInt16} {flags : UInt32} :
    Linked ids cfg (s.accountStep cfg
      (.worldHeartbeat now sid serial worldId activeZoneCount loadScore flags)) := by
  refine h.accountStep rfl fun sid' e he => ?_
  simp only [AccountLine.step, AccountLine.lookup_onWorldRouteHeartbeat] at he
  split at he
  next hsid =>
    subst hsid
    obtain ⟨e₀, he₀, rfl⟩ := Option.map_eq_some_iff.mp he
    obtain ⟨hsid, k, i, hk, ⟨hid, htexts⟩, hready⟩ := h.routes.route sid' e₀ he₀
    split
    next hsame =>
      refine ⟨hsid, k, i, hk, ⟨?_, htexts⟩, hready⟩
      rw [hid, hsame.2]
    next => exact ⟨hsid, k, i, hk, ⟨hid, htexts⟩, hready⟩
  next => exact h.routes.route sid' e he

/-- The sweep removes routes, and a removed route has no claim left. -/
theorem Linked.expireStaleWorldRoutes (h : Linked ids cfg s) (now : Nat) :
    Linked ids cfg (s.expireStaleWorldRoutes cfg now) := by
  have hstep : Linked ids cfg (s.accountStep cfg (.expireStaleWorldRoutes now)) := by
    refine h.accountStep rfl fun sid e he => ?_
    simp only [AccountLine.step, AccountLine.lookup_expireStaleWorldRoutes] at he
    exact h.routes.route sid e (Option.filter_eq_some_iff.mp he).1
  have hclosed : ∀ (l : List (UInt32 × UInt32)) (t : WorldLinks), Linked ids cfg t →
      Linked ids cfg { t with line := l.foldl (fun b c => b.step {} (.close c.1 c.2)) t.line } := by
    intro l
    induction l with
    | nil => exact fun t ht => ht
    | cons c l ih =>
        intro t ht
        refine ih { t with line := t.line.step {} (.close c.1 c.2) } ?_
        refine ⟨⟨LineHost.known_step ht.slots.known _, ht.slots.free.close c.1 c.2, ?_, ?_,
          ht.slots.apart⟩, ht.messages.congr rfl rfl, ht.routes.congr rfl rfl (fun _ _ => id)
            fun _ => id⟩
        · exact (TcpServer.slotCount_close _ _ _).symm ▸ ht.slots.count
        · intro k i sid serial hk
          exact (TcpServer.isConnected_close _ _ _ _ _).trans (ht.slots.opened k i sid serial hk)
  exact hclosed (s.staleSessions cfg now) _ hstep

/-- The answer to a hello goes to the connection that it came from. -/
theorem Linked.sendRegisterAck (h : Linked ids cfg s) {k i : Nat} {sid serial : UInt32}
    {ack : RegisterAck} (hk : s.attached k = some (i, sid, serial))
    (hid : ack.accepted = true → idOf ids cfg i = some ack.worldId) :
    Linked ids cfg (s.sendRegisterAck sid serial ack) := by
  unfold WorldLinks.sendRegisterAck
  split
  next =>
    set f : LinkConnection → LinkConnection := fun c =>
      if c.accountOpen && c.key = some (sid, serial) then { c with toWorld := c.toWorld ++ [ack] }
      else c with hf
    have hfields (c : LinkConnection) : (f c).attached = c.attached ∧ (f c).world = c.world ∧
        (f c).toAccount = c.toAccount := by
      simp only [hf]
      split <;> exact ⟨rfl, rfl, rfl⟩
    have hto (k' : Nat) (c : LinkConnection) (hc : s.connections[k']? = some c)
        (ack' : RegisterAck) (hack : ack' ∈ (f c).toWorld) : ack' ∈ c.toWorld ∨
          (ack'.accepted = true → idOf ids cfg c.world = some ack'.worldId) := by
      simp only [hf] at hack
      split at hack
      next hopen =>
        obtain ⟨hopen, hkey⟩ := Bool.and_eq_true_iff.mp hopen
        have hk' : s.attached k' = some (c.world, sid, serial) := by
          rw [attached, hc, Option.bind_some, LinkConnection.attached, if_pos hopen,
            of_decide_eq_true hkey]
          rfl
        obtain rfl := h.slots.apart k k' i c.world sid serial serial hk hk'
        obtain ⟨rfl, -⟩ := Prod.mk.inj (Option.some.inj (hk.symm.trans hk'))
        rcases List.mem_append.mp hack with hold | hnew
        · exact .inl hold
        · obtain rfl := List.mem_singleton.mp hnew
          exact .inr hid
      next => exact .inl hack
    have hside : WorldSide ids cfg s { s with connections := s.connections.map f } :=
      { account := rfl
        claims := rfl
        line := rfl
        attached := fun k' => by
          unfold attached
          rw [List.getElem?_map]
          cases s.connections[k']? with
          | none => rfl
          | some c => exact (hfields c).1
        acked := fun _ hi => hi }
    refine hside.linked h (h.messages.update rfl (fun k' c hc => ?_) fun k' c' hc' => ?_)
    · exact ⟨f c, by rw [List.getElem?_map, hc, Option.map_some], (hfields c).2.1⟩
    · rw [List.getElem?_map] at hc'
      obtain ⟨c, hc, rfl⟩ := Option.map_eq_some_iff.mp hc'
      obtain ⟨-, hworld, htoAccount⟩ := hfields c
      exact ⟨c, hc, hworld, fun m hm => .inl (htoAccount ▸ hm), hto k' c hc⟩
  next => exact h

/-- Every message a world can send keeps the invariant when the account server handles it. -/
theorem Linked.onRouteMessage (h : Linked ids cfg s) {k i : Nat} {sid serial : UInt32}
    {m : RouteMessage} (now : Nat) (hk : s.attached k = some (i, sid, serial))
    (hm : SentBy ids cfg s i m) : Linked ids cfg (s.onRouteMessage cfg now sid serial m) := by
  cases m with
  | hello serverName publicHost publicPort =>
      have hhello : Linked ids cfg (s.accountStep cfg
          (.worldHello now sid serial serverName publicHost publicPort)) := h.hello hk hm
      obtain ⟨hname, -, -⟩ := RouteMessage.hello.inj hm
      simp only [WorldLinks.onRouteMessage]
      cases hentry : cfg.configuredWorldsByName serverName with
      | none => exact hhello.sendRegisterAck hk fun haccepted => by cases haccepted
      | some entry =>
          refine hhello.sendRegisterAck hk fun _ => ?_
          rw [idOf, ← hname, hentry]
          rfl
  | ready worldId flags => exact h.ready hk hm
  | heartbeat worldId activeZoneCount loadScore flags => exact h.heartbeat

/-- The account server takes the oldest message of a connection and handles it. -/
theorem Linked.accountReads (h : Linked ids cfg s) {k : Nat} {c : LinkConnection}
    {sid serial : UInt32} (now : Nat) (hc : s.connections[k]? = some c)
    (hk : s.attached k = some (c.world, sid, serial)) :
    Linked ids cfg (s.accountReads cfg now k c sid serial) := by
  unfold WorldLinks.accountReads
  cases hqueue : c.toAccount with
  | nil => exact h
  | cons m rest =>
      have hm := h.messages.toAccount k c hc m (hqueue ▸ List.mem_cons_self)
      have hpop : Linked ids cfg (s.modifyConnection k fun c => { c with toAccount := rest }) := by
        refine h.modifyConnection k (fun _ => ⟨rfl, rfl⟩) (fun c' hc' m' hm' => ?_) fun _ _ _ => id
        obtain rfl := Option.some.inj (hc.symm.trans hc')
        exact hqueue ▸ List.mem_cons_of_mem m hm'
      have hread := hpop.packet sid serial
      have hk' : (s.modifyConnection k fun c => { c with toAccount := rest }).attached k =
          some (c.world, sid, serial) := by
        rw [attached_modifyConnection, if_pos rfl]
        exact hk
      have hlatest := hread.slots.known.getLatestSerial (hread.slots.opened k _ _ _ hk')
      dsimp only at hlatest ⊢
      rw [hlatest]
      exact hread.onRouteMessage now hk' hm

/-- The end on the account side detaches that one connection. -/
theorem attached_accountEnds (cfg : AccountConfig) (s : WorldLinks) (k : Nat)
    (sid serial : UInt32) (k' : Nat) :
    (s.accountEnds cfg k sid serial).attached k' = if k = k' then none else s.attached k' := by
  unfold WorldLinks.accountEnds
  dsimp only
  rw [attached_modifyConnection]
  split
  · exact Option.bind_eq_none_iff.mpr fun c _ => rfl
  · split <;> rfl

/-- The end of a connection takes its route with it. -/
theorem Linked.accountEnds (h : Linked ids cfg s) {k i : Nat} {sid serial : UInt32}
    (hk : s.attached k = some (i, sid, serial)) :
    Linked ids cfg (s.accountEnds cfg k sid serial) := by
  have hconn := h.slots.opened k i sid serial hk
  obtain ⟨htcp, hcount⟩ := s.line.step_ends_of_connected {} hconn
  have hattached := attached_accountEnds cfg s k sid serial
  set b : WorldLinks := { s.accountStep cfg (.worldDisconnected sid serial) with
    line := s.line.step {} (.ends sid serial) } with hb
  have hends : s.accountEnds cfg k sid serial =
      b.modifyConnection k fun c => { c with accountOpen := false } := by
    rw [WorldLinks.accountEnds, if_pos (h.slots.known.getLatestSerial hconn)]
    rfl
  have hline : b.line.tcp = s.line.tcp.terminate sid serial := htcp
  have hother {k' i' : Nat} {sid' serial' : UInt32}
      (hk' : (s.accountEnds cfg k sid serial).attached k' = some (i', sid', serial')) :
      s.attached k' = some (i', sid', serial') ∧ sid' ≠ sid := by
    rw [hattached] at hk'
    split at hk'
    · cases hk'
    next hne =>
      refine ⟨hk', fun hsid => hne ?_⟩
      subst hsid
      exact h.slots.apart k k' i i' sid' serial serial' hk hk'
  rw [hends] at hattached hother ⊢
  refine ⟨⟨LineHost.known_step h.slots.known _, ?_, ?_, fun k' i' sid' serial' hk' => ?_,
    fun k₁ k₂ i₁ i₂ sid' serial₁ serial₂ h₁ h₂ => ?_⟩, ?_, ?_, fun sid' e he => ?_⟩
  · exact hline ▸ h.slots.free.terminate hconn
  · have hslots : (s.line.tcp.terminate sid serial).slotCount = s.line.tcp.slotCount := by
      rw [TcpServer.terminate, if_pos hconn]
    have hsame := h.slots.count
    rwa [← hcount, ← hslots, ← htcp] at hsame
  · obtain ⟨hold, hsid⟩ := hother hk'
    have hstill := h.slots.opened k' i' sid' serial' hold
    have hslots : b.line.tcp.slots = s.line.tcp.slots.erase sid := by
      rw [hline, TcpServer.slots_terminate hconn]
    exact (congrArg (Option.any _) ((congrFun hslots sid').trans (Table.erase_of_ne _ hsid))).trans
      hstill
  · exact h.slots.apart k₁ k₂ i₁ i₂ sid' serial₁ serial₂ (hother h₁).1 (hother h₂).1
  · have hsame : Messages ids cfg b := h.messages.congr rfl rfl
    exact hsame.modifyConnection k (fun _ => rfl) (fun _ _ _ hm => .inl hm) fun _ _ _ hack => hack
  · exact h.routes.owned.step (.worldDisconnected sid serial) rfl
  · have he' :
        (s.account.onWorldRouteDisconnected sid serial).worldsBySid.lookup sid' = some e := he
    rw [AccountLine.lookup_onWorldRouteDisconnected] at he'
    split at he'
    · cases he'
    next hkept =>
      obtain ⟨hsid, k', i', hk', hroute⟩ := h.routes.route sid' e he'
      refine ⟨hsid, k', i', ?_, hroute⟩
      refine (hattached k').trans ((if_neg ?_).trans hk')
      · rintro rfl
        obtain ⟨-, hkey⟩ := Prod.mk.inj (Option.some.inj (hk.symm.trans hk'))
        obtain ⟨rfl, rfl⟩ := Prod.mk.inj hkey
        refine hkept ⟨rfl, ?_⟩
        rw [AccountLine.findWorld, he', Option.filter_some, if_pos (by simp [hsid])]
        rfl

/-- What the account server does besides routes keeps the invariant. -/
theorem Linked.account (h : Linked ids cfg s) {e : AccountLine.Event}
    (he : AccountLine.isRouteEvent e = false) : Linked ids cfg (s.accountStep cfg e) := by
  have hkeeps : s.account.keepsWorldId cfg e = true := by
    cases e with
    | worldHello | worldReady => cases he
    | _ => rfl
  refine h.accountStep hkeeps fun sid e' he' => ?_
  rw [(AccountLine.sameRegistry_step he).route] at he'
  exact h.routes.route sid e' he'

/-! ## Runs -/

theorem attached_of_open {k : Nat} {c : LinkConnection} {sid serial : UInt32}
    (hc : s.connections[k]? = some c) (hkey : c.key = some (sid, serial))
    (hopen : c.accountOpen = true) : s.attached k = some (c.world, sid, serial) := by
  rw [attached, hc, Option.bind_some, LinkConnection.attached, if_pos hopen, hkey]
  rfl

/-- The step lemma: one case for each event of the composition. -/
theorem linked_step (h : Linked ids cfg s) (e : Event)
    (hroom : (s.step ids cfg e).line.stats.sessionOpenCount < 2 ^ 32 - 1) :
    Linked ids cfg (s.step ids cfg e) := by
  cases e with
  | connect i =>
      simp only [step]
      split
      · exact linked_connect h i
      · exact h
  | heartbeat i activeZoneCount loadScore => exact linked_sendAccountRouteHeartbeat h i _ _
  | worldRuns i =>
      simp only [step]
      split
      next => exact h
      next t rest htasks =>
        have hpop : Linked ids cfg (s.setWorld i { s.worlds i with tasks := rest }) :=
          h.setWorld_same rfl rfl id (fun _ _ hin => htasks ▸ List.mem_cons_of_mem t hin)
            fun _ => id
        refine linked_runTask hpop i fun serial ack ht => ?_
        exact h.messages.tasks i serial ack (by rw [htasks, ht]; exact List.mem_cons_self)
  | worldReads k =>
      simp only [step]
      split
      next hc => exact linked_worldReads h hc rfl
      next => exact h
  | worldEnds k =>
      simp only [step]
      split
      · split
        · exact linked_worldEnds h k _
        · exact h
      · exact h
  | accept k =>
      simp only [step] at hroom ⊢
      split
      next hc =>
        rw [hc] at hroom
        exact linked_accept h hc rfl hroom
      next => exact h
  | accountReads now k =>
      simp only [step]
      split
      next c hc =>
        split
        next sid serial hkey hopen => exact h.accountReads now hc (attached_of_open hc hkey hopen)
        next => exact h
      next => exact h
  | accountEnds k =>
      simp only [step]
      split
      next c hc =>
        split
        next sid serial hkey hopen => exact h.accountEnds (attached_of_open hc hkey hopen)
        next => exact h
      next => exact h
  | expireStaleWorldRoutes now => exact h.expireStaleWorldRoutes now
  | account e =>
      simp only [step]
      split
      · exact h
      next he => exact h.account (Bool.eq_false_of_not_eq_true he)

@[simp] theorem line_send (s : WorldLinks) (i : Nat) (serial : UInt32) (m : RouteMessage) :
    (s.send i serial m).line = s.line := by
  obtain heq | ⟨k, -, heq⟩ := s.send_cases i serial m
  · rw [heq]
  · rw [heq]
    rfl

/-- Nor does handling an acknowledgement. -/
theorem line_onAccountRegisterAck (s : WorldLinks) (i : Nat) (serial : UInt32)
    (ack : RegisterAck) : (s.onAccountRegisterAck i serial ack).line = s.line := by
  unfold onAccountRegisterAck
  dsimp only
  split
  · exact line_send _ _ _ _
  · rfl

/-- A task of a world never touches the account server. -/
theorem line_runTask (s : WorldLinks) (i : Nat) (t : AccountTask) :
    (s.runTask ids i t).line = s.line := by
  cases t with
  | connected serial => exact line_send _ _ _ _
  | packet serial ack =>
      simp only [runTask]
      split
      · exact line_onAccountRegisterAck _ _ _ _
      · rfl
  | disconnected serial => rfl

theorem line_sendRegisterAck (s : WorldLinks) (sid serial : UInt32) (ack : RegisterAck) :
    (s.sendRegisterAck sid serial ack).line = s.line := by
  unfold sendRegisterAck
  split <;> rfl

/-- Handling a route message opens and closes no connection. -/
theorem line_onRouteMessage (s : WorldLinks) (now : Nat) (sid serial : UInt32)
    (m : RouteMessage) : (s.onRouteMessage cfg now sid serial m).line = s.line := by
  cases m with
  | hello serverName publicHost publicPort =>
      simp only [onRouteMessage]
      split <;> exact line_sendRegisterAck _ _ _ _
  | _ => rfl

/-- The line of the account server takes steps of its own. -/
theorem line_step (ids : Nat → WorldIdentity) (cfg : AccountConfig) (s : WorldLinks) (e : Event) :
    ∃ es, (s.step ids cfg e).line = run (LineHost.step {}) s.line es := by
  cases e with
  | connect i =>
      simp only [step]
      split <;> exact ⟨[], rfl⟩
  | heartbeat i activeZoneCount loadScore =>
      simp only [step, sendAccountRouteHeartbeat]
      split
      · exact ⟨[], line_send _ _ _ _⟩
      · exact ⟨[], rfl⟩
  | worldRuns i =>
      simp only [step]
      split
      · exact ⟨[], rfl⟩
      · exact ⟨[], line_runTask _ _ _⟩
  | worldReads k =>
      simp only [step]
      split <;> exact ⟨[], rfl⟩
  | worldEnds k =>
      simp only [step]
      split
      · split <;> exact ⟨[], rfl⟩
      · exact ⟨[], rfl⟩
  | accept k =>
      simp only [step]
      split
      · exact ⟨[.accept], rfl⟩
      · exact ⟨[], rfl⟩
  | accountReads now k =>
      simp only [step]
      split
      · split
        next sid serial hkey hopen =>
          unfold accountReads
          split
          · exact ⟨[], rfl⟩
          · exact ⟨[.packet sid serial], line_onRouteMessage _ _ _ _ _⟩
        next => exact ⟨[], rfl⟩
      · exact ⟨[], rfl⟩
  | accountEnds k =>
      simp only [step]
      split
      · split
        next sid serial hkey hopen =>
          refine ⟨[.ends sid serial], ?_⟩
          unfold accountEnds
          dsimp only
          split <;> rfl
        next => exact ⟨[], rfl⟩
      · exact ⟨[], rfl⟩
  | expireStaleWorldRoutes now =>
      refine ⟨(s.staleSessions cfg now).map fun c => .close c.1 c.2, ?_⟩
      rw [run, List.foldl_map]
      rfl
  | account e =>
      simp only [step]
      split <;> exact ⟨[], rfl⟩

theorem sessionOpenCount_le_step (s : WorldLinks) (e : Event) :
    s.line.stats.sessionOpenCount ≤ (s.step ids cfg e).line.stats.sessionOpenCount := by
  obtain ⟨es, hes⟩ := s.line_step ids cfg e
  rw [hes]
  refine run_induction (W := fun b => s.line.stats.sessionOpenCount ≤ b.stats.sessionOpenCount)
    (Nat.le_refl _) fun b e hb => hb.trans (LineHost.sessionOpenCount_le_step {} b e)

theorem linked_always (ids : Nat → WorldIdentity) (cfg : AccountConfig) (es : List Event) :
    Always (step ids cfg)
      (fun s => s.line.stats.sessionOpenCount < 2 ^ 32 - 1 → Linked ids cfg s) {} es := by
  refine always_of_forall_step (fun _ => linked_init) fun s e h hroom => ?_
  exact linked_step (h ((s.sessionOpenCount_le_step e).trans_lt hroom)) e hroom

/-- **World registry**: the index of the registered worlds is a view of them; a
route is of an open connection of the world server that it is registered for;
and the address that a client is given for a world is that of a world server
that was told to be that world and was the latest to claim it. -/
structure Agreed (ids : Nat → WorldIdentity) (cfg : AccountConfig) (s : WorldLinks) : Prop where
  registry : RegistryBijection (s.account, s.claims)
  routes : ∀ sid e, s.account.worldsBySid.lookup sid = some e →
    ∃ (k : Nat) (c : LinkConnection), s.connections[k]? = some c ∧ c.accountOpen = true ∧
      c.key = some (sid, e.serial) ∧ RouteOf ids cfg c.world e
  selected : ∀ worldId host port,
    s.account.tryResolveSelectedWorldRoute worldId = some (host, port) →
      ∃ (k : Nat) (c : LinkConnection), s.connections[k]? = some c ∧ c.accountOpen = true ∧
        idOf ids cfg c.world = some worldId ∧ (s.worlds c.world).worldId = worldId ∧
        host = wireText worldHostMaxLen (ids c.world).host ∧ port = (ids c.world).port ∧
        (worldId ≠ 0 → AccountLine.latestClaim s.claims worldId.toUInt32 = c.key)

/-- An attached key belongs to a connection that is open on the account side. -/
theorem exists_open_of_attached {k i : Nat} {sid serial : UInt32}
    (h : s.attached k = some (i, sid, serial)) :
    ∃ c, s.connections[k]? = some c ∧ c.accountOpen = true ∧ c.key = some (sid, serial) ∧
      c.world = i := by
  obtain ⟨c, hc, hattached⟩ := Option.bind_eq_some_iff.mp h
  unfold LinkConnection.attached at hattached
  split at hattached
  next hopen =>
    obtain ⟨key, hkey, heq⟩ := Option.map_eq_some_iff.mp hattached
    obtain ⟨hworld, rfl⟩ := Prod.mk.inj heq
    exact ⟨c, hc, hopen, hkey, hworld⟩
  next => cases hattached

/-- The invariant gives the agreement of both ends. -/
theorem Linked.agreed (h : Linked ids cfg s) : Agreed ids cfg s where
  registry := h.routes.owned.bijection
  routes sid e he := by
    obtain ⟨-, k, i, hk, hroute, -⟩ := h.routes.route sid e he
    obtain ⟨c, hc, hopen, hkey, rfl⟩ := exists_open_of_attached hk
    exact ⟨k, c, hc, hopen, hkey, hroute⟩
  selected worldId host port hselected := by
    obtain ⟨⟨sid, e⟩, hfind, hpair⟩ := Option.map_eq_some_iff.mp hselected
    obtain ⟨rfl, rfl⟩ := Prod.mk.inj hpair
    have hboth := List.find?_some hfind
    dsimp only at hboth
    obtain ⟨hselectable, hid⟩ := Bool.and_eq_true_iff.mp hboth
    obtain rfl := eq_of_beq hid
    have he : s.account.worldsBySid.lookup sid = some e :=
      AList.mem_lookup_iff.mpr (List.mem_of_find?_eq_some hfind)
    obtain ⟨-, k, i, hk, ⟨hidOf, htexts⟩, hready⟩ := h.routes.route sid e he
    obtain ⟨c, hc, hopen, hkey, rfl⟩ := exists_open_of_attached hk
    have hacked : Acked ids cfg s c.world :=
      hready (AccountLine.ready_of_isWorldSelectable hselectable)
    obtain ⟨-, hhost, hport⟩ := RouteMessage.hello.inj htexts
    refine ⟨k, c, hc, hopen, hidOf, ?_, hhost, hport, fun hzero => ?_⟩
    · exact (Option.some.inj (hidOf.symm.trans hacked.1)).symm
    · obtain ⟨e', he', -, hlatest⟩ := h.routes.owned.owner _ _ (h.routes.owned.entry sid e he hzero)
      obtain rfl := Option.some.inj (he.symm.trans he')
      rw [hlatest, hkey]

/-- **The worlds of the registry**: in every run of the account server and its
world servers the registry agrees with them, whatever is lost and however late
it is noticed, until the line has accepted 2^32 - 1 connections. -/
theorem agreed_run (ids : Nat → WorldIdentity) (cfg : AccountConfig) (es : List Event) :
    Always (step ids cfg)
      (fun s => s.line.stats.sessionOpenCount < 2 ^ 32 - 1 → Agreed ids cfg s) {} es :=
  (linked_always ids cfg es).imp fun _ h hroom => (h hroom).agreed

end WorldLinks

end GameServer
