import GameServer.Account.AccountLine
import GameServer.Lib.Run

/-!
# GameServer.Account.Tickets

A world ticket is used once.

The history of a run is the tickets that were issued and the consume
requests that were accepted.  Tokens of issued tickets are assumed to differ.

* `TicketsTraced` — what the two tables of tickets say about the history;
* `ticket_single_use` — no token is accepted twice, and an accepted request
  is the one the ticket was issued for, in time.
-/

namespace GameServer

namespace AccountLine

/-! ## History -/

/-- What happens to tickets: one is issued, or a request of a world to
consume one is accepted. -/
inductive TicketEvent where
  | issued (t : PendingWorldTicketUpsert)
  | consumed (now : Nat) (worldId : UInt32) (accountId : UInt64) (loginSession worldToken : String)
deriving DecidableEq, Repr

/-- The result code of a consume request. -/
def consumeResult (cfg : AccountConfig) (s : AccountLine) (now : Nat) (sid serial : UInt32)
    (traceId accountId : UInt64) (loginSession worldToken : String) : ConsumeTicketResultKind :=
  (s.consumeIssuedWorldTicket cfg now sid serial traceId accountId loginSession worldToken).2.1

/-- What is observed of a step. -/
def ticketEvents (cfg : AccountConfig) (s : AccountLine) : Event → List TicketEvent
  | .characterSelect now sid serial traceId requestId accountId charId loginSession worldToken =>
      match (s.onCharacterSelectRequest now sid serial traceId requestId accountId charId
          loginSession worldToken).2 with
      | .error _ => []
      | .ok t => [.issued t]
  | .ticketConsume now sid serial traceId _ accountId loginSession worldToken =>
      if s.consumeResult cfg now sid serial traceId accountId loginSession worldToken = .ok then
        [.consumed now ((s.tryResolveRegisteredWorldId sid serial).getD 0) accountId loginSession
          worldToken]
      else []
  | _ => []

/-- The tokens of the issued tickets. -/
def issuedTokens (h : List TicketEvent) : List String :=
  h.filterMap fun
    | .issued t => some t.worldToken
    | .consumed .. => none

/-- The tokens of the accepted requests. -/
def consumedTokens (h : List TicketEvent) : List String :=
  h.filterMap fun
    | .issued _ => none
    | .consumed _ _ _ _ worldToken => some worldToken

@[simp] theorem issuedTokens_append (h h' : List TicketEvent) :
    issuedTokens (h ++ h') = issuedTokens h ++ issuedTokens h' :=
  List.filterMap_append

@[simp] theorem consumedTokens_append (h h' : List TicketEvent) :
    consumedTokens (h ++ h') = consumedTokens h ++ consumedTokens h' :=
  List.filterMap_append

/-- The accepted request is the one the ticket was issued for, before the
ticket expires. -/
structure Accepts (cfg : AccountConfig) (t : PendingWorldTicketUpsert) (now : Nat)
    (worldId : UInt32) (accountId : UInt64) (loginSession worldToken : String) : Prop where
  world : t.targetWorldId.toUInt32 = worldId
  account : t.accountId = accountId
  session : t.loginSession = loginSession
  token : t.worldToken = worldToken
  inTime : now < t.issuedAt + cfg.accountWorldExpire

/-! ## What the tables say -/

/-- What the tables of tickets say about the history. -/
structure TicketsTraced (cfg : AccountConfig) (s : AccountLine) (h : List TicketEvent) : Prop where
  /-- A pending ticket was issued, and not consumed. -/
  pending : ∀ token t, s.pendingWorldUpserts token = some t →
    t.worldToken = token ∧ .issued t ∈ h ∧ token ∉ consumedTokens h
  /-- A ticket that waits for its notify was consumed. -/
  consumed : ∀ token, s.consumedWorldEntersAwaitingNotify token ≠ none → token ∈ consumedTokens h
  /-- An accepted request is one that a ticket was issued for before. -/
  accepted : ∀ before now worldId accountId loginSession worldToken,
    before ++ [.consumed now worldId accountId loginSession worldToken] <+: h →
      ∃ t, .issued t ∈ before ∧ Accepts cfg t now worldId accountId loginSession worldToken
  once : (consumedTokens h).Nodup

theorem TicketsTraced.start (cfg : AccountConfig) : TicketsTraced cfg {} [] where
  pending _ _ hp := by simp at hp
  consumed _ hc := by simp at hc
  accepted _ _ _ _ _ _ hc := by simp at hc
  once := List.nodup_nil

/-- Every consumed token was issued. -/
theorem TicketsTraced.issued_of_consumed {cfg : AccountConfig} {s : AccountLine}
    {h : List TicketEvent} (ht : TicketsTraced cfg s h) {token : String}
    (hc : token ∈ consumedTokens h) : token ∈ issuedTokens h := by
  obtain ⟨e, he, htoken⟩ := List.mem_filterMap.mp hc
  cases e with
  | issued t => cases htoken
  | consumed now worldId accountId loginSession worldToken =>
      cases htoken
      obtain ⟨before, after, hsplit⟩ := List.append_of_mem he
      have hbefore : before ++ [.consumed now worldId accountId loginSession token] <+: h :=
        ⟨after, by rw [hsplit, List.append_assoc]; rfl⟩
      obtain ⟨t, hissued, haccepts⟩ := ht.accepted _ _ _ _ _ _ hbefore
      have hmem : .issued t ∈ h := by
        rw [hsplit]
        exact List.mem_append_left _ hissued
      exact List.mem_filterMap.mpr ⟨_, hmem, congrArg some haccepts.token⟩

/-- Tickets may be dropped, and nothing else happens to them. -/
structure Drops (s s' : AccountLine) : Prop where
  pending : ∀ token t, s'.pendingWorldUpserts token = some t → s.pendingWorldUpserts token = some t
  consumed : ∀ token, s'.consumedWorldEntersAwaitingNotify token ≠ none →
    s.consumedWorldEntersAwaitingNotify token ≠ none

theorem Drops.refl (s : AccountLine) : Drops s s := ⟨fun _ _ => id, fun _ => id⟩

theorem Drops.trans {s s' s'' : AccountLine} (h : Drops s s') (h' : Drops s' s'') : Drops s s'' :=
  ⟨fun token t hp => h.pending token t (h'.pending token t hp),
    fun token hc => h.consumed token (h'.consumed token hc)⟩

theorem TicketsTraced.mono {cfg : AccountConfig} {s s' : AccountLine} {h : List TicketEvent}
    (ht : TicketsTraced cfg s h) (hdrops : Drops s s') : TicketsTraced cfg s' h where
  pending token t hp := ht.pending token t (hdrops.pending token t hp)
  consumed token hc := ht.consumed token (hdrops.consumed token hc)
  accepted := ht.accepted
  once := ht.once

/-- A ticket with a fresh token is issued. -/
theorem TicketsTraced.issue {cfg : AccountConfig} {s s' : AccountLine} {h : List TicketEvent}
    (ht : TicketsTraced cfg s h) {t : PendingWorldTicketUpsert}
    (hpending : s'.pendingWorldUpserts = s.pendingWorldUpserts.set t.worldToken t)
    (hconsumed : s'.consumedWorldEntersAwaitingNotify = s.consumedWorldEntersAwaitingNotify)
    (hfresh : t.worldToken ∉ issuedTokens h) : TicketsTraced cfg s' (h ++ [.issued t]) where
  pending token t' hp := by
    rw [hpending, Table.set_apply] at hp
    rw [consumedTokens_append, show consumedTokens [.issued t] = [] from rfl, List.append_nil]
    split_ifs at hp with htoken
    · cases hp
      subst htoken
      exact ⟨rfl, by simp, fun hc => hfresh (ht.issued_of_consumed hc)⟩
    · obtain ⟨htoken', hissued, hnot⟩ := ht.pending token t' hp
      exact ⟨htoken', List.mem_append_left _ hissued, hnot⟩
  consumed token hc := by
    rw [hconsumed] at hc
    rw [consumedTokens_append]
    exact List.mem_append_left _ (ht.consumed token hc)
  accepted before now worldId accountId loginSession worldToken hc := by
    rcases List.prefix_concat_iff.mp hc with heq | hold
    · have hlast := (List.append_inj' heq rfl).2
      cases hlast
    · exact ht.accepted before _ _ _ _ _ hold
  once := by
    rw [consumedTokens_append, show consumedTokens [.issued t] = [] from rfl, List.append_nil]
    exact ht.once

/-- A pending ticket is consumed. -/
theorem TicketsTraced.consume {cfg : AccountConfig} {s s' : AccountLine} {h : List TicketEvent}
    (ht : TicketsTraced cfg s h) {t : PendingWorldTicketUpsert} {now : Nat} {worldId : UInt32}
    {accountId : UInt64} {loginSession worldToken : String}
    {c : ConsumedWorldTicketAwaitingNotify} (hc : c.worldToken = t.worldToken)
    (hfound : s.pendingWorldUpserts worldToken = some t)
    (haccepts : Accepts cfg t now worldId accountId loginSession worldToken)
    (hpending : s'.pendingWorldUpserts = s.pendingWorldUpserts.erase worldToken)
    (hconsumed : s'.consumedWorldEntersAwaitingNotify =
      s.consumedWorldEntersAwaitingNotify.set c.worldToken c) :
    TicketsTraced cfg s' (h ++ [.consumed now worldId accountId loginSession worldToken]) := by
  obtain ⟨-, hissued, hnot⟩ := ht.pending worldToken t hfound
  have htokens : consumedTokens (h ++ [.consumed now worldId accountId loginSession worldToken]) =
      consumedTokens h ++ [worldToken] := consumedTokens_append _ _
  refine ⟨fun token t' hp => ?_, fun token hc' => ?_, fun before now' w a l token hb => ?_, ?_⟩
  · rw [hpending, Table.erase_eq_some_iff] at hp
    obtain ⟨htoken, hissued', hnot'⟩ := ht.pending token t' hp.2
    refine ⟨htoken, List.mem_append_left _ hissued', fun hmem => ?_⟩
    rw [htokens, List.mem_append, List.mem_singleton] at hmem
    exact hmem.elim hnot' hp.1
  · rw [hconsumed, Table.set_apply] at hc'
    rw [htokens]
    split_ifs at hc' with htoken
    · rw [htoken, hc, haccepts.token]
      exact List.mem_append_right _ (List.mem_singleton_self _)
    · exact List.mem_append_left _ (ht.consumed token hc')
  · rcases List.prefix_concat_iff.mp hb with heq | hold
    · obtain ⟨rfl, hlast⟩ := List.append_inj' heq rfl
      cases hlast
      exact ⟨t, hissued, haccepts⟩
    · exact ht.accepted before _ _ _ _ _ hold
  · rw [htokens]
    exact List.Nodup.append ht.once (List.nodup_singleton _) (by simpa using hnot)

/-! ## Steps -/

/-- What a consume request does: it fails and changes nothing, it drops an
expired ticket, or it consumes the ticket. -/
theorem consumeIssuedWorldTicket_cases (cfg : AccountConfig) (s : AccountLine) (now : Nat)
    (sid serial : UInt32) (traceId accountId : UInt64) (loginSession worldToken : String) :
    let code := s.consumeResult cfg now sid serial traceId accountId loginSession worldToken
    let s' :=
      (s.consumeIssuedWorldTicket cfg now sid serial traceId accountId loginSession worldToken).1
    (code ≠ .ok ∧ code ≠ .expired ∧ s' = s) ∨
    (code = .expired ∧
      s' = { s with pendingWorldUpserts := s.pendingWorldUpserts.erase worldToken }) ∨
    (code = .ok ∧ ∃ t worldId, s.tryResolveRegisteredWorldId sid serial = some worldId ∧
      s.pendingWorldUpserts worldToken = some t ∧ now < t.issuedAt + cfg.accountWorldExpire ∧
      t.loginSession = loginSession ∧ t.accountId = accountId ∧
      t.targetWorldId.toUInt32 = worldId ∧
      s' = { s with
        consumedWorldEntersAwaitingNotify := s.consumedWorldEntersAwaitingNotify.set
          (consumedTicket now traceId t).worldToken (consumedTicket now traceId t)
        pendingWorldUpserts := s.pendingWorldUpserts.erase worldToken }) := by
  unfold consumeResult consumeIssuedWorldTicket
  cases hworld : s.tryResolveRegisteredWorldId sid serial with
  | none => exact .inl ⟨by simp, by simp, rfl⟩
  | some worldId =>
      cases ht : s.pendingWorldUpserts worldToken with
      | none =>
          dsimp only
          split_ifs
          · exact .inl ⟨by simp, by simp, rfl⟩
          · exact .inl ⟨by simp, by simp, rfl⟩
      | some t =>
          dsimp only
          split_ifs with hexpired hsession haccount htarget
          · exact .inr (.inl ⟨rfl, rfl⟩)
          · exact .inl ⟨by simp, by simp, rfl⟩
          · exact .inl ⟨by simp, by simp, rfl⟩
          · exact .inl ⟨by simp, by simp, rfl⟩
          · exact .inr (.inr ⟨rfl, t, worldId, rfl, rfl, Nat.lt_of_not_le hexpired,
              not_not.mp hsession, not_not.mp haccount, not_not.mp htarget, rfl⟩)

/-- `eraseWhere` only drops. -/
theorem drops_eraseWhere {s s' : AccountLine} {p : PendingWorldTicketUpsert → Bool}
    {q : ConsumedWorldTicketAwaitingNotify → Bool}
    (hpending : s'.pendingWorldUpserts = s.pendingWorldUpserts.eraseWhere p)
    (hconsumed : s'.consumedWorldEntersAwaitingNotify =
      s.consumedWorldEntersAwaitingNotify.eraseWhere q) : Drops s s' := by
  refine ⟨fun token t hp => ?_, fun token hc => ?_⟩
  · rw [hpending, Table.eraseWhere_eq_some_iff] at hp
    exact hp.1
  · obtain ⟨c, hc'⟩ := Option.ne_none_iff_exists'.mp hc
    rw [hconsumed, Table.eraseWhere_eq_some_iff] at hc'
    rw [hc'.1]
    exact Option.some_ne_none c

theorem drops_erasePendingWorldTicketsForServer (s : AccountLine) (worldId : UInt32) :
    Drops s (s.erasePendingWorldTicketsForServer worldId) := drops_eraseWhere rfl rfl

theorem drops_eraseWorldIndex (s : AccountLine) (worldId : UInt16) (sid : UInt32) :
    Drops s (s.eraseWorldIndex worldId sid) := by
  unfold eraseWorldIndex
  split_ifs
  · exact ⟨fun _ _ => id, fun _ => id⟩
  · exact .refl s

/-- A lost world drops tickets and issues none. -/
theorem drops_onWorldRouteDisconnected (s : AccountLine) (sid serial : UInt32) :
    Drops s (s.onWorldRouteDisconnected sid serial) := by
  unfold onWorldRouteDisconnected
  cases s.findWorld sid serial with
  | none => exact .refl s
  | some e =>
      have hindex := drops_eraseWorldIndex { s with worldsBySid := AList.erase sid s.worldsBySid }
        e.worldId sid
      have hunbound : Drops s { s with worldsBySid := AList.erase sid s.worldsBySid } :=
        ⟨fun _ _ => id, fun _ => id⟩
      dsimp only
      split_ifs
      · exact (hunbound.trans hindex).trans (drops_erasePendingWorldTicketsForServer _ _)
      · exact hunbound.trans hindex

/-- The sweep is a loss of every stale world. -/
theorem drops_expireStaleWorldRoutes (cfg : AccountConfig) (s : AccountLine) (now : Nat) :
    Drops s (s.expireStaleWorldRoutes cfg now) := by
  unfold expireStaleWorldRoutes
  dsimp only
  refine (foldl_of_trans Drops.refl Drops.trans (fun s e _ => ?_) s).trans
    (foldl_of_trans Drops.refl Drops.trans (fun s e _ => ?_) _)
  · have hunbound : Drops s { s with worldsBySid := AList.erase e.1 s.worldsBySid } :=
      ⟨fun _ _ => id, fun _ => id⟩
    exact hunbound.trans (drops_eraseWorldIndex _ _ _)
  · exact drops_erasePendingWorldTicketsForServer s _

/-- A hello issues no ticket. -/
theorem drops_onWorldServerHello (cfg : AccountConfig) (s : AccountLine) (now : Nat)
    (sid serial : UInt32) (serverName publicHost : String) (publicPort : UInt16) :
    Drops s (s.onWorldServerHello cfg now sid serial serverName publicHost publicPort) := by
  unfold onWorldServerHello
  cases cfg.configuredWorldsByName serverName with
  | none => exact .refl s
  | some entry =>
      dsimp only
      split_ifs
      · exact ⟨fun _ _ => id, fun _ => id⟩
      · exact ⟨fun _ _ => id, fun _ => id⟩

/-- The notice of an enter issues none. -/
theorem drops_onWorldEnterSuccessNotify (s : AccountLine) (sid serial : UInt32)
    (traceId accountId charId : UInt64) (loginSession worldToken : String) (sent : Bool) :
    Drops s (s.onWorldEnterSuccessNotify sid serial traceId accountId charId loginSession worldToken
      sent) := by
  unfold onWorldEnterSuccessNotify
  split
  · exact .refl s
  · split_ifs
    · refine ⟨fun _ _ => id, fun token hc => ?_⟩
      obtain ⟨c, hc'⟩ := Option.ne_none_iff_exists'.mp hc
      rw [(Table.erase_eq_some_iff.mp hc').2]
      exact Option.some_ne_none c
    · exact .refl s

/-- What a step does to the tickets and to the history. -/
theorem ticketsTraced_step {cfg : AccountConfig} {s : AccountLine} {h : List TicketEvent}
    (ht : TicketsTraced cfg s h) (e : Event)
    (hfresh : (issuedTokens (h ++ s.ticketEvents cfg e)).Nodup) :
    TicketsTraced cfg (s.step cfg e) (h ++ s.ticketEvents cfg e) := by
  have hdrop : ∀ {s'}, Drops s s' → TicketsTraced cfg s' (h ++ []) := by
    intro s' hdrops
    rw [List.append_nil]
    exact ht.mono hdrops
  cases e with
  | loginRegistered sid serial => exact hdrop ⟨fun _ _ => id, fun _ => id⟩
  | loginDisconnected sid serial =>
      refine hdrop ?_
      simp only [step, onLoginCoordinatorDisconnected]
      split_ifs <;> exact ⟨fun _ _ => id, fun _ => id⟩
  | rehash worldsBySid =>
      refine hdrop ?_
      simp only [step]
      split_ifs <;> exact ⟨fun _ _ => id, fun _ => id⟩
  | worldHello => exact hdrop (drops_onWorldServerHello ..)
  | worldReady =>
      refine hdrop ?_
      simp only [step, onWorldReadyNotify]
      split <;> exact ⟨fun _ _ => id, fun _ => id⟩
  | worldHeartbeat =>
      refine hdrop ?_
      simp only [step, onWorldRouteHeartbeat]
      split
      · exact .refl s
      · split_ifs <;> exact ⟨fun _ _ => id, fun _ => id⟩
  | worldDisconnected sid serial => exact hdrop (s.drops_onWorldRouteDisconnected sid serial)
  | expireStaleWorldRoutes now => exact hdrop (s.drops_expireStaleWorldRoutes cfg now)
  | authResult => exact hdrop ⟨fun _ _ => id, fun _ => id⟩
  | worldSelect =>
      refine hdrop ?_
      simp only [step, onWorldSelectRequest]
      split
      · exact .refl s
      · split <;> exact ⟨fun _ _ => id, fun _ => id⟩
  | characterList =>
      refine hdrop ?_
      simp only [step, onWorldCharacterListResponse]
      split
      · exact .refl s
      · split
        · exact .refl s
        · split_ifs <;> exact ⟨fun _ _ => id, fun _ => id⟩
  | characterSelect now sid serial traceId requestId accountId charId loginSession worldToken =>
      simp only [step, ticketEvents, onCharacterSelectRequest] at hfresh ⊢
      cases hissue : s.tryIssueWorldTicket now sid serial traceId requestId accountId charId
          loginSession worldToken with
      | error reason => exact hdrop (.refl s)
      | ok t =>
          simp only [hissue] at hfresh
          refine ht.issue rfl rfl fun hmem => ?_
          rw [issuedTokens_append] at hfresh
          exact (List.nodup_append.mp hfresh).2.2 _ hmem _ (List.mem_singleton_self _) rfl
  | ticketConsume now sid serial traceId requestId accountId loginSession worldToken =>
      simp only [step, ticketEvents, onWorldTicketConsumeRequest]
      rcases s.consumeIssuedWorldTicket_cases cfg now sid serial traceId accountId loginSession
        worldToken with ⟨hfail, -, hs⟩ | ⟨hexpired, hs⟩ |
          ⟨hok, t, worldId, hworld, hfound, htime, hsession, haccount, htarget, hs⟩
      · rw [if_neg hfail, hs]
        exact hdrop (.refl s)
      · rw [if_neg (by simp [hexpired]), hs]
        exact hdrop ⟨fun token t hp => (Table.erase_eq_some_iff.mp hp).2, fun _ => id⟩
      · rw [if_pos hok, hs, hworld]
        have htoken := (ht.pending worldToken t hfound).1
        exact ht.consume rfl hfound ⟨htarget, haccount, hsession, htoken, htime⟩ rfl rfl
  | enterSuccessNotify => exact hdrop (drops_onWorldEnterSuccessNotify ..)
  | expirePendingWorldTickets now => exact hdrop (drops_eraseWhere rfl rfl)

/-! ## Runs -/

/-- The account server with its history. -/
def historyRun (cfg : AccountConfig) (es : List Event) : AccountLine × List TicketEvent :=
  run (recording (step cfg) (ticketEvents cfg)) ({}, []) es

/-- Over a run with distinct tokens: induction on the events. -/
theorem ticketsTraced_run {cfg : AccountConfig} {es : List Event}
    (hfresh : (issuedTokens (historyRun cfg es).2).Nodup) :
    TicketsTraced cfg (historyRun cfg es).1 (historyRun cfg es).2 := by
  -- Induction from the end of the run: distinct tokens were distinct before the last step.
  induction es using List.reverseRecOn with
  | nil => exact .start cfg
  | append_singleton es e ih =>
      have hlast : historyRun cfg (es ++ [e]) =
          recording (step cfg) (ticketEvents cfg) (historyRun cfg es) e := run_append [e]
      rw [hlast] at hfresh ⊢
      have hbefore : (issuedTokens (historyRun cfg es).2).Nodup := by
        rw [recording, issuedTokens_append] at hfresh
        exact (List.nodup_append.mp hfresh).1
      exact ticketsTraced_step (ih hbefore) e hfresh

/-- **Single use**: if the tokens of issued tickets differ, no token is
accepted twice, and only from the world, for the account and the login
session of its ticket, before that expires; a token is never pending and
consumed; and a consume request that fails, unless it finds its ticket
expired, changes nothing. -/
theorem ticket_single_use (cfg : AccountConfig) {es : List Event}
    (hfresh : (issuedTokens (historyRun cfg es).2).Nodup) :
    (consumedTokens (historyRun cfg es).2).Nodup ∧
    (∀ before now worldId accountId loginSession worldToken,
      before ++ [.consumed now worldId accountId loginSession worldToken] <+:
        (historyRun cfg es).2 →
      ∃ t, .issued t ∈ before ∧ Accepts cfg t now worldId accountId loginSession worldToken) ∧
    Always (step cfg) (fun s => ∀ token, s.pendingWorldUpserts token = none ∨
      s.consumedWorldEntersAwaitingNotify token = none) {} es ∧
    Along (step cfg) (fun s e =>
      ∀ now sid serial traceId requestId accountId loginSession worldToken,
        e = .ticketConsume now sid serial traceId requestId accountId loginSession worldToken →
        s.consumeResult cfg now sid serial traceId accountId loginSession worldToken ≠ .ok →
        s.consumeResult cfg now sid serial traceId accountId loginSession worldToken ≠ .expired →
        s.step cfg e = s) {} es := by
  have htraced := ticketsTraced_run hfresh
  refine ⟨htraced.once, htraced.accepted, ?_, ?_⟩
  · rw [always_iff_forall_part]
    intro p hp token
    have hhistory : (historyRun cfg p).2 <+: (historyRun cfg es).2 :=
      snd_run_recording_of_isPrefix hp
    have hfresh' : (issuedTokens (historyRun cfg p).2).Nodup :=
      (hhistory.sublist.filterMap _).nodup hfresh
    have htraced' := ticketsTraced_run hfresh'
    rw [historyRun, fst_run_recording] at htraced'
    by_contra hboth
    obtain ⟨hpending, hconsumed⟩ := not_or.mp hboth
    obtain ⟨t, ht⟩ := Option.ne_none_iff_exists'.mp hpending
    exact (htraced'.pending token t ht).2.2 (htraced'.consumed token hconsumed)
  · refine along_of_forall fun e _ s => ?_
    rintro now sid serial traceId requestId accountId loginSession worldToken rfl hok hexpired
    rcases s.consumeIssuedWorldTicket_cases cfg now sid serial traceId accountId loginSession
      worldToken with ⟨-, -, hs⟩ | ⟨hexpired', -⟩ | ⟨hok', -⟩
    · exact hs
    · exact absurd hexpired' hexpired
    · exact absurd hok' hok

/-- One world, with id 1. -/
def oneWorld : AccountConfig where
  configuredWorldsByName name := if name = "world-1" then some { worldId := 1 } else none

/-- A client selects a character; the world consumes the ticket, tries it
again, reports that the character has entered, and tries it once more. -/
def consumeThrice : List Event :=
  [.loginRegistered 7 1, .worldHello 0 1 1 "world-1" "host" 7777, .worldReady 1 1 1 1 3,
    .authResult 2 5 1 9 100 "session", .worldSelect 3 100 1 "session",
    .characterList 4 1 1 100 true "session" [{ charId := 11 }],
    .characterSelect 5 5 1 9 1 100 11 "session" "token",
    .ticketConsume 6 1 1 9 1 100 "session" "token",
    .ticketConsume 7 1 1 9 2 100 "session" "token",
    .enterSuccessNotify 1 1 9 100 11 "session" "token" true,
    .ticketConsume 8 1 1 9 3 100 "session" "token"]

theorem ticket_single_use_consumeThrice :
    issuedTokens (historyRun oneWorld consumeThrice).2 = ["token"] ∧
      consumedTokens (historyRun oneWorld consumeThrice).2 = ["token"] ∧
      (consumedTokens (historyRun oneWorld consumeThrice).2).Nodup := by
  have hissued : issuedTokens (historyRun oneWorld consumeThrice).2 = ["token"] := by
    decide +kernel
  have hfresh : (issuedTokens (historyRun oneWorld consumeThrice).2).Nodup := by
    rw [hissued]
    exact List.nodup_singleton _
  exact ⟨hissued, by decide +kernel, (ticket_single_use oneWorld hfresh).1⟩

end AccountLine

end GameServer
