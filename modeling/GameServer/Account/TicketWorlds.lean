import GameServer.Account.Tickets

/-!
# GameServer.Account.TicketWorlds

The character of a world ticket, and the world that it is for.

A login session selects a world, is given the list of its characters there and
selects one of them.  Which lists the worlds returned, and which tickets were
issued, is the history of a run.

* `lastReturned` — the list that a world most recently returned for a login
  session;
* `switchedSince` — whether another world has been selected since the login
  session was given its list;
* `TicketsListed` — every ticket names a character of the list that its world
  most recently returned;
* `ticketsListed_run` — this is so in runs that select characters only from
  lists of the selected world.
-/

namespace GameServer

namespace AccountLine

/-! ## History -/

/-- What happens to login sessions: one is opened, selects another world, is
returned a list, which it may be `given`, and is issued a ticket. -/
inductive ListEvent where
  | opened (loginSession : String)
  | switched (loginSession : String)
  | returned (accountId : UInt64) (loginSession : String) (worldId : UInt32)
      (characters : List CharacterSummary) (given : Bool)
  | issued (t : PendingWorldTicketUpsert)
deriving DecidableEq, Repr

/-- What is observed of a step. -/
def listEvents (s : AccountLine) : Event → List ListEvent
  | .authResult _ _ _ _ _ loginSession => [.opened loginSession]
  | .worldSelect _ accountId worldId loginSession =>
      match s.findLoginSession accountId loginSession, s.tryResolveSelectedWorldRoute worldId with
      | some session, some _ =>
          if session.selectedWorldId = worldId then [] else [.switched loginSession]
      | _, _ => []
  | .characterList _ sid serial accountId ok loginSession characters =>
      match s.tryResolveRegisteredWorldId sid serial,
        s.findLoginSession accountId loginSession with
      | some worldId, some session =>
          [.returned accountId loginSession worldId (if ok then characters else [])
            (session.selectedWorldId.toUInt32 = worldId)]
      | _, _ => []
  | .characterSelect now sid serial traceId requestId accountId charId loginSession worldToken =>
      match s.tryIssueWorldTicket now sid serial traceId requestId accountId charId loginSession
          worldToken with
      | .error _ => []
      | .ok t => [.issued t]
  | _ => []

/-- The list that a world most recently returned for a login session. -/
def lastReturned (accountId : UInt64) (loginSession : String) (worldId : UInt32)
    (h : List ListEvent) : List CharacterSummary :=
  h.foldl (fun last e =>
    match e with
    | .opened l => if l = loginSession then [] else last
    | .returned a l w characters _ =>
        if a = accountId ∧ l = loginSession ∧ w = worldId then characters else last
    | _ => last) []

/-- Another world has been selected since the login session was given its
list. -/
def switchedSince (loginSession : String) (h : List ListEvent) : Bool :=
  h.foldl (fun switched e =>
    match e with
    | .opened l => if l = loginSession then false else switched
    | .switched l => if l = loginSession then true else switched
    | .returned _ l _ _ given => if l = loginSession ∧ given = true then false else switched
    | .issued _ => switched) false

/-- **Tickets of a world**: every ticket names a character of the list that
its world most recently returned for its account and login session. -/
def TicketsListed (h : List ListEvent) : Prop :=
  ∀ before t, before ++ [.issued t] <+: h →
    t.charId ∈ (lastReturned t.accountId t.loginSession t.targetWorldId.toUInt32 before).map
      CharacterSummary.charId

/-- A character is selected only from a list of the selected world. -/
def SelectsListed (sh : AccountLine × List ListEvent) : Event → Prop
  | .characterSelect _ _ _ _ _ accountId charId loginSession _ =>
      ∀ session, sh.1.findLoginSession accountId loginSession = some session →
        session.cachedCharacters.any (·.charId = charId) = true →
        switchedSince loginSession sh.2 = false
  | _ => True

/-! ## What the history says -/

/-- The login session an event is about. -/
def ListEvent.loginSession : ListEvent → String
  | .opened l => l
  | .switched l => l
  | .returned _ l _ _ _ => l
  | .issued t => t.loginSession

section

variable {s s' : AccountLine} {h : List ListEvent} {e : ListEvent} {l : String}

theorem lastReturned_append_of_ne (hne : e.loginSession ≠ l) (accountId : UInt64)
    (worldId : UInt32) :
    lastReturned accountId l worldId (h ++ [e]) = lastReturned accountId l worldId h := by
  unfold lastReturned
  rw [List.foldl_append]
  cases e <;> simp_all [ListEvent.loginSession]

theorem switchedSince_append_of_ne (hne : e.loginSession ≠ l) :
    switchedSince l (h ++ [e]) = switchedSince l h := by
  unfold switchedSince
  rw [List.foldl_append]
  cases e <;> simp_all [ListEvent.loginSession]

theorem lastReturned_returned (h : List ListEvent) (accountId : UInt64) (l : String)
    (worldId : UInt32) (characters : List CharacterSummary) (given : Bool) :
    lastReturned accountId l worldId (h ++ [.returned accountId l worldId characters given]) =
      characters := by
  simp [lastReturned]

theorem lastReturned_issued (h : List ListEvent) (t : PendingWorldTicketUpsert)
    (accountId : UInt64) (l : String) (worldId : UInt32) :
    lastReturned accountId l worldId (h ++ [.issued t]) = lastReturned accountId l worldId h := by
  simp [lastReturned]

theorem switchedSince_issued (h : List ListEvent) (t : PendingWorldTicketUpsert) (l : String) :
    switchedSince l (h ++ [.issued t]) = switchedSince l h := by
  simp [switchedSince]

theorem switchedSince_switched (h : List ListEvent) (l : String) :
    switchedSince l (h ++ [.switched l]) = true := by
  simp [switchedSince]

/-- A list of another world is not the last one of this. -/
theorem lastReturned_passed (h : List ListEvent) (accountId : UInt64) (l : String)
    {worldId worldId' : UInt32} (hne : worldId' ≠ worldId) (accountId' : UInt64)
    (characters : List CharacterSummary) (given : Bool) :
    lastReturned accountId l worldId
        (h ++ [.returned accountId' l worldId' characters given]) =
      lastReturned accountId l worldId h := by
  simp [lastReturned, hne]

theorem switchedSince_passed (h : List ListEvent) (accountId : UInt64) (l : String)
    (worldId : UInt32) (characters : List CharacterSummary) :
    switchedSince l (h ++ [.returned accountId l worldId characters false]) =
      switchedSince l h := by
  simp [switchedSince]

/-- The list of a login session that has not selected another world since is
of what its world most recently returned. -/
def SessionListed (l : String) (session : LoginCharacterSession) (h : List ListEvent) : Prop :=
  switchedSince l h = false → ∀ c ∈ session.cachedCharacters,
    c ∈ lastReturned session.accountId l session.selectedWorldId.toUInt32 h

/-- Every login session is so. -/
def SessionsListed (s : AccountLine) (h : List ListEvent) : Prop :=
  ∀ l session, s.loginCharacterSessions l = some session → SessionListed l session h

/-- An event about one login session. -/
theorem SessionsListed.event (hs : SessionsListed s h)
    (hother : ∀ l, l ≠ e.loginSession → s'.loginCharacterSessions l = s.loginCharacterSessions l)
    (hsession : ∀ session, s'.loginCharacterSessions e.loginSession = some session →
      SessionListed e.loginSession session (h ++ [e])) : SessionsListed s' (h ++ [e]) := by
  intro l session hl
  by_cases heq : l = e.loginSession
  · rw [heq] at hl ⊢
    exact hsession session hl
  · unfold SessionListed
    rw [hother l heq] at hl
    rw [switchedSince_append_of_ne (Ne.symm heq)]
    intro hsince c hc
    rw [lastReturned_append_of_ne (Ne.symm heq)]
    exact hs l session hl hsince c hc

theorem SessionsListed.of_eq (hs : SessionsListed s h)
    (heq : s'.loginCharacterSessions = s.loginCharacterSessions) : SessionsListed s' h := by
  intro l session hl
  rw [heq] at hl
  exact hs l session hl

end

/-! ## Steps -/

section

variable (cfg : AccountConfig) (s : AccountLine)

/-- The login sessions stay as they are. -/
def SameSessions (s s' : AccountLine) : Prop :=
  s'.loginCharacterSessions = s.loginCharacterSessions

theorem SameSessions.refl : SameSessions s s := rfl

theorem SameSessions.trans {s s' s'' : AccountLine} (h : SameSessions s s')
    (h' : SameSessions s' s'') : SameSessions s s'' := Eq.trans h' h

theorem sameSessions_eraseWorldIndex (worldId : UInt16) (sid : UInt32) :
    SameSessions s (s.eraseWorldIndex worldId sid) := by
  unfold eraseWorldIndex
  split_ifs <;> rfl

/-- A lost world changes no login session. -/
theorem sameSessions_onWorldRouteDisconnected (sid serial : UInt32) :
    SameSessions s (s.onWorldRouteDisconnected sid serial) := by
  unfold onWorldRouteDisconnected
  cases s.findWorld sid serial with
  | none => rfl
  | some e =>
      dsimp only
      have hindex := sameSessions_eraseWorldIndex
        { s with worldsBySid := AList.erase sid s.worldsBySid } e.worldId sid
      split_ifs <;> exact hindex

/-- Nor does the sweep of the stale ones. -/
theorem sameSessions_expireStaleWorldRoutes (now : Nat) :
    SameSessions s (s.expireStaleWorldRoutes cfg now) := by
  unfold expireStaleWorldRoutes
  dsimp only
  refine (foldl_of_trans SameSessions.refl SameSessions.trans (fun s e _ => ?_) s).trans
    (foldl_of_trans SameSessions.refl SameSessions.trans (fun s e _ => ?_) _)
  · exact sameSessions_eraseWorldIndex { s with worldsBySid := AList.erase e.1 s.worldsBySid } _ _
  · rfl

/-- Nor a hello. -/
theorem sameSessions_onWorldServerHello (now : Nat) (sid serial : UInt32)
    (serverName publicHost : String) (publicPort : UInt16) :
    SameSessions s (s.onWorldServerHello cfg now sid serial serverName publicHost publicPort) := by
  unfold onWorldServerHello
  cases cfg.configuredWorldsByName serverName with
  | none => rfl
  | some entry =>
      dsimp only
      split_ifs <;> rfl

/-- A consume works on the tickets. -/
theorem sameSessions_consumeIssuedWorldTicket (now : Nat) (sid serial : UInt32)
    (traceId accountId : UInt64) (loginSession worldToken : String) :
    SameSessions s (s.consumeIssuedWorldTicket cfg now sid serial traceId accountId loginSession
      worldToken).1 := by
  rcases s.consumeIssuedWorldTicket_cases cfg now sid serial traceId accountId loginSession
    worldToken with ⟨-, -, hs⟩ | ⟨-, hs⟩ | ⟨-, t, worldId, -, -, -, -, -, -, hs⟩ <;>
  · rw [hs]
    rfl

/-- Nor does the notice that an enter has succeeded. -/
theorem sameSessions_onWorldEnterSuccessNotify (sid serial : UInt32)
    (traceId accountId charId : UInt64) (loginSession worldToken : String) (sent : Bool) :
    SameSessions s (s.onWorldEnterSuccessNotify sid serial traceId accountId charId loginSession
      worldToken sent) := by
  unfold onWorldEnterSuccessNotify
  split
  · rfl
  · split_ifs <;> rfl

end

section

variable {s : AccountLine} {h : List ListEvent}

theorem findLoginSession_eq_some {accountId : UInt64} {l : String}
    {session : LoginCharacterSession} (hfind : s.findLoginSession accountId l = some session) :
    s.loginCharacterSessions l = some session ∧ session.accountId = accountId := by
  have hfilter := Option.filter_eq_some_iff.mp hfind
  exact ⟨hfilter.1, of_decide_eq_true hfilter.2⟩

/-- What a ticket is issued for. -/
theorem tryIssueWorldTicket_ok {now : Nat} {sid serial : UInt32}
    {traceId requestId accountId charId : UInt64} {l worldToken : String}
    {t : PendingWorldTicketUpsert}
    (hissue : s.tryIssueWorldTicket now sid serial traceId requestId accountId charId l worldToken =
      .ok t) :
    ∃ session, s.findLoginSession accountId l = some session ∧
      session.cachedCharacters.any (·.charId = charId) = true ∧ t.accountId = accountId ∧
      t.loginSession = l ∧ t.charId = charId ∧ t.targetWorldId = session.selectedWorldId := by
  unfold tryIssueWorldTicket at hissue
  cases hfind : s.findLoginSession accountId l with
  | none => simp [hfind] at hissue
  | some session =>
      simp only [hfind] at hissue
      refine ⟨session, rfl, ?_⟩
      split_ifs at hissue with hcached hworld hroute
      · cases hresolve : s.tryResolveSelectedWorldRoute session.selectedWorldId with
        | none => simp [hresolve] at hissue
        | some route =>
            simp only [hresolve] at hissue
            cases hissue
            exact ⟨by simpa using hcached, rfl, rfl, rfl, rfl⟩
      · cases hissue
        exact ⟨by simpa using hcached, rfl, rfl, rfl, rfl⟩

/-- A new login session has no list yet. -/
theorem SessionsListed.authResult (hs : SessionsListed s h) (now : Nat) (sid serial : UInt32)
    (traceId accountId : UInt64) (l : String) :
    SessionsListed (s.handleAuthResult now sid serial traceId accountId l) (h ++ [.opened l]) := by
  refine hs.event (fun l' hne => Table.set_of_ne _ _ hne) fun session hl _ c hc => ?_
  have hnew : session.cachedCharacters = [] := by
    simp only [handleAuthResult, ListEvent.loginSession, Table.set_self] at hl
    cases hl
    rfl
  simp [hnew] at hc

/-- A selection stores the world whose list will be asked for. -/
theorem SessionsListed.worldSelect (hs : SessionsListed s h) (now : Nat) (accountId : UInt64)
    (worldId : UInt16) (l : String) :
    SessionsListed (s.onWorldSelectRequest now accountId worldId l).1
      (h ++ s.listEvents (.worldSelect now accountId worldId l)) := by
  cases hfind : s.findLoginSession accountId l with
  | none =>
      simp only [onWorldSelectRequest, listEvents, hfind, List.append_nil]
      exact hs
  | some session =>
      cases hroute : s.tryResolveSelectedWorldRoute worldId with
      | none =>
          simp only [onWorldSelectRequest, listEvents, hfind, hroute, List.append_nil]
          exact hs
      | some route =>
          simp only [onWorldSelectRequest, listEvents, hfind, hroute]
          obtain ⟨hsession, -⟩ := findLoginSession_eq_some hfind
          by_cases hsame : session.selectedWorldId = worldId
          · rw [if_pos hsame, List.append_nil]
            intro l' session' hl'
            simp only [Table.set_apply] at hl'
            split_ifs at hl' with heq
            · cases hl'
              rw [heq, ← hsame]
              exact hs l session hsession
            · exact hs l' session' hl'
          · rw [if_neg hsame]
            refine hs.event (fun l' hne => Table.set_of_ne _ _ hne) fun _ _ hsince => ?_
            rw [ListEvent.loginSession, switchedSince_switched] at hsince
            cases hsince

/-- A list is kept with the session that asked, for the world it selected. -/
theorem SessionsListed.characterList (hs : SessionsListed s h) (now : Nat) (sid serial : UInt32)
    (accountId : UInt64) (ok : Bool) (l : String) (characters : List CharacterSummary) :
    SessionsListed (s.onWorldCharacterListResponse now sid serial accountId ok l characters)
      (h ++ s.listEvents (.characterList now sid serial accountId ok l characters)) := by
  cases hworld : s.tryResolveRegisteredWorldId sid serial with
  | none =>
      simp only [onWorldCharacterListResponse, listEvents, hworld, List.append_nil]
      exact hs
  | some worldId =>
      cases hfind : s.findLoginSession accountId l with
      | none =>
          simp only [onWorldCharacterListResponse, listEvents, hworld, hfind, List.append_nil]
          exact hs
      | some session =>
          simp only [onWorldCharacterListResponse, listEvents, hworld, hfind]
          obtain ⟨hsession, haccount⟩ := findLoginSession_eq_some hfind
          by_cases hgiven : session.selectedWorldId.toUInt32 = worldId
          · rw [if_neg (not_not.mpr hgiven)]
            refine hs.event (fun l' hne => Table.set_of_ne _ _ hne) fun session' hl' _ c hc => ?_
            simp only [ListEvent.loginSession, Table.set_self] at hl' ⊢
            cases hl'
            rw [haccount, hgiven, lastReturned_returned]
            cases ok with
            | false => simp at hc
            | true => exact List.mem_of_mem_take hc
          · -- The answer of a world that is not selected is passed over.
            rw [if_pos hgiven, decide_eq_false hgiven]
            refine hs.event (fun _ _ => rfl) fun session' hl' => ?_
            rw [ListEvent.loginSession, hsession] at hl'
            cases hl'
            intro hsince c hc
            rw [ListEvent.loginSession, switchedSince_passed] at hsince
            rw [ListEvent.loginSession, lastReturned_passed h _ l (Ne.symm hgiven)]
            exact hs l session hsession hsince c hc

/-- A character is selected. -/
theorem SessionsListed.characterSelect (hs : SessionsListed s h) (cfg : AccountConfig) (now : Nat)
    (sid serial : UInt32) (traceId requestId accountId charId : UInt64) (l worldToken : String) :
    SessionsListed (s.step cfg (.characterSelect now sid serial traceId requestId accountId charId l
        worldToken))
      (h ++ s.listEvents (.characterSelect now sid serial traceId requestId accountId charId l
        worldToken)) := by
  cases hissue : s.tryIssueWorldTicket now sid serial traceId requestId accountId charId l
      worldToken with
  | error reason =>
      simp only [step, onCharacterSelectRequest, listEvents, hissue, List.append_nil]
      exact hs
  | ok t =>
      simp only [step, onCharacterSelectRequest, listEvents, hissue]
      intro l' session' hl' hsince c hc
      rw [switchedSince_issued] at hsince
      rw [lastReturned_issued]
      obtain ⟨session, hfind, -⟩ := tryIssueWorldTicket_ok hissue
      obtain ⟨hsession, -⟩ := findLoginSession_eq_some hfind
      simp only [hsession, Table.set_apply] at hl'
      split_ifs at hl' with heq
      · cases hl'
        rw [heq] at hsince ⊢
        exact hs l session hsession hsince c hc
      · exact hs l' session' hl' hsince c hc

/-- The step lemma over the three events that change sessions. -/
theorem sessionsListed_step (hs : SessionsListed s h) (cfg : AccountConfig) (e : Event) :
    SessionsListed (s.step cfg e) (h ++ s.listEvents e) := by
  -- Most handlers write no login session and are not observed.
  have hsame : ∀ {s'}, SameSessions s s' → SessionsListed s' (h ++ []) := by
    intro s' heq
    rw [List.append_nil]
    exact hs.of_eq heq
  cases e with
  | loginRegistered sid serial => exact hsame rfl
  | loginDisconnected sid serial =>
      refine hsame ?_
      simp only [step, onLoginCoordinatorDisconnected]
      split_ifs <;> rfl
  | rehash worldsBySid =>
      refine hsame ?_
      simp only [step]
      split_ifs <;> rfl
  | worldHello => exact hsame (sameSessions_onWorldServerHello ..)
  | worldReady =>
      refine hsame ?_
      simp only [step, onWorldReadyNotify]
      split <;> rfl
  | worldHeartbeat =>
      refine hsame ?_
      simp only [step, onWorldRouteHeartbeat]
      split
      · rfl
      · split_ifs <;> rfl
  | worldDisconnected sid serial => exact hsame (s.sameSessions_onWorldRouteDisconnected sid serial)
  | expireStaleWorldRoutes now => exact hsame (s.sameSessions_expireStaleWorldRoutes cfg now)
  | authResult now sid serial traceId accountId l =>
      exact hs.authResult now sid serial traceId accountId l
  | worldSelect now accountId worldId l => exact hs.worldSelect now accountId worldId l
  | characterList now sid serial accountId ok l characters =>
      exact hs.characterList now sid serial accountId ok l characters
  | characterSelect now sid serial traceId requestId accountId charId l worldToken =>
      exact hs.characterSelect cfg now sid serial traceId requestId accountId charId l worldToken
  | ticketConsume => exact hsame (sameSessions_consumeIssuedWorldTicket ..)
  | enterSuccessNotify => exact hsame (sameSessions_onWorldEnterSuccessNotify ..)
  | expirePendingWorldTickets now => exact hsame rfl

/-- Another event of the history keeps what earlier tickets say. -/
theorem TicketsListed.append (ht : TicketsListed h) {e : ListEvent}
    (hissued : ∀ t, e = .issued t →
      t.charId ∈ (lastReturned t.accountId t.loginSession t.targetWorldId.toUInt32 h).map
        CharacterSummary.charId) : TicketsListed (h ++ [e]) := by
  intro before t hbefore
  rcases List.prefix_concat_iff.mp hbefore with heq | hold
  · obtain ⟨rfl, hlast⟩ := List.append_inj' heq rfl
    exact hissued t (List.singleton_inj.mp hlast).symm
  · exact ht before t hold

/-- A ticket is issued for a character of the list that its session keeps. -/
theorem ticketsListed_step (hs : SessionsListed s h) (ht : TicketsListed h) {e : Event}
    (hok : SelectsListed (s, h) e) : TicketsListed (h ++ s.listEvents e) := by
  have hnone : TicketsListed (h ++ []) := by
    rw [List.append_nil]
    exact ht
  cases e with
  | authResult now sid serial traceId accountId l => exact ht.append fun t heq => by cases heq
  | worldSelect now accountId worldId l =>
      simp only [listEvents]
      split
      · split_ifs
        · exact hnone
        · exact ht.append fun t heq => by cases heq
      · exact hnone
  | characterList now sid serial accountId ok l characters =>
      simp only [listEvents]
      split
      · exact ht.append fun t heq => by cases heq
      · exact hnone
  | characterSelect now sid serial traceId requestId accountId charId l worldToken =>
      simp only [listEvents]
      cases hissue : s.tryIssueWorldTicket now sid serial traceId requestId accountId charId l
          worldToken with
      | error reason => exact hnone
      | ok t =>
          refine ht.append fun t' heq => ?_
          cases heq
          obtain ⟨session, hfind, hcached, haccount, hl, hchar, htarget⟩ :=
            tryIssueWorldTicket_ok hissue
          obtain ⟨hsession, haccount'⟩ := findLoginSession_eq_some hfind
          have hsince := hok session hfind hcached
          obtain ⟨c, hc, hid⟩ := List.any_eq_true.mp hcached
          have hlisted := hs l session hsession hsince c hc
          rw [hl, htarget, haccount, ← haccount', hchar, ← of_decide_eq_true hid]
          exact List.mem_map_of_mem hlisted
  | _ => exact hnone

end

/-! ## Runs -/

/-- The account server with its history. -/
def listStep (cfg : AccountConfig) :
    AccountLine × List ListEvent → Event → AccountLine × List ListEvent :=
  recording (step cfg) listEvents

/-- **Tickets of a world**: in a run that selects characters only from lists
of the selected world, every ticket names a character of the list that its
world most recently returned. -/
theorem ticketsListed_run (cfg : AccountConfig) {es : List Event}
    (hrun : Along (listStep cfg) SelectsListed ({}, []) es) :
    Always (listStep cfg) (fun sh => TicketsListed sh.2) ({}, []) es := by
  have hstart : SessionsListed {} [] ∧ TicketsListed [] := by
    refine ⟨fun l session hl => ?_, fun before t hbefore => ?_⟩
    · simp at hl
    · simp at hbefore
  have hall : Always (listStep cfg) (fun sh => SessionsListed sh.1 sh.2 ∧ TicketsListed sh.2)
      ({}, []) es :=
    always_of_along hstart (fun sh e hinv hok => ⟨sessionsListed_step hinv.1 cfg e,
      ticketsListed_step hinv.1 hinv.2 hok⟩) hrun
  exact hall.imp fun _ hinv => hinv.2

theorem ticketsListed_run_consumeThrice :
    Always (listStep oneWorld) (fun sh => TicketsListed sh.2) ({}, []) consumeThrice := by
  refine ticketsListed_run oneWorld ⟨trivial, trivial, trivial, trivial, trivial, trivial,
    fun _ _ _ => ?_, trivial, trivial, trivial, trivial, trivial⟩
  decide +kernel

/-- Two worlds. -/
def worldsOneAndTwo : AccountConfig where
  configuredWorldsByName name :=
    if name = "world-1" then some { worldId := 1 }
    else if name = "world-2" then some { worldId := 2 }
    else none

/-- A client is given the list of world 1, selects world 2, and a character
of the list. -/
def selectAcross : List Event :=
  [.worldHello 0 1 1 "world-1" "host" 7777, .worldReady 1 1 1 1 3,
    .worldHello 0 2 1 "world-2" "host" 7778, .worldReady 1 2 1 2 3,
    .authResult 2 5 1 9 100 "session", .worldSelect 3 100 1 "session",
    .characterList 4 1 1 100 true "session" [{ charId := 11 }],
    .worldSelect 5 100 2 "session",
    .characterSelect 6 5 1 9 1 100 11 "session" "token"]

/-- A world select leaves the list of the world before: the client gets a
ticket of world 2 for a character that world 2 never returned. -/
theorem not_ticketsListed_selectAcross : ¬ ∀ cfg es,
    Always (listStep cfg) (fun sh => TicketsListed sh.2) ({}, []) es := by
  intro h
  have hend := always_iff_forall_part.mp (h worldsOneAndTwo selectAcross) _ List.prefix_rfl
  have hlisted := hend (run (listStep worldsOneAndTwo) ({}, []) selectAcross).2.dropLast
    { traceId := 9, requestId := 1, loginSid := 5, loginSerial := 1, targetWorldId := 2
      accountId := 100, charId := 11, loginSession := "session", worldToken := "token"
      worldHost := "host", worldPort := 7778, issuedAt := 6 } (by decide +kernel)
  revert hlisted
  decide +kernel

end AccountLine

end GameServer
