import GameServer.Account.SignInTrace
import GameServer.World.SessionIdentities
import GameServer.World.SlotReuse
import GameServer.World.TicketRefusals

/-!
# GameServer.World.SignedSessions

The login, the account and a world server together: who plays in the world.

A client logs in at the login server, selects a character there and is given a
world token; it hands the token to the world, which asks the account server to
consume it and is answered with the account and the character of the ticket.
The world is told nothing else of a login.

* `Realm` — the three servers; the world reads only answers that the account
  server has sent, in any order and any number of times, and the account server
  may be asked for any ticket by any world;
* `realm_step` — what the world holds as authenticated, and the characters it
  has acted for, go back to logins;
* `sessions_signedIn` — in every run, every authenticated session and every
  gameplay packet that was applied is of a character that was selected by a
  connection logged in as its account, but for the bench moves and the actor
  forwards that name their actor themselves.
-/

namespace GameServer

open WorldRuntime (readAnswer Vetted)

/-! ## Gameplay -/

namespace WorldRuntime

variable {P : UInt64 → UInt64 → Prop} {st : WorldRuntime}

/-- The packet itself says which actor it is for: an actor forward carries
it, and a bench move on a slot without a session makes it up. -/
def NamesActor (sid : UInt32) (charId : UInt64) : GameplayOp → Prop
  | .benchMove => charId = benchActorId sid
  | .actorForward targetActorId => charId = targetActorId
  | _ => False

/-- What a packet is resolved to is found by its slot, or named by it. -/
theorem resolveCharId_cases (st : WorldRuntime) (sid : UInt32) (op : GameplayOp) :
    NamesActor sid (st.resolveCharId sid op) op ∨
      st.resolveCharId sid op = st.reg.findCharIdBySession sid := by
  cases op with
  | benchMove =>
      simp only [resolveCharId]
      split
      · exact .inl rfl
      · exact .inr rfl
  | actorForward targetActorId =>
      simp only [resolveCharId]
      split
      · exact .inr rfl
      · exact .inl rfl
  | _ => exact .inr rfl

/-- A gameplay packet that is newly applied acts for the character of a stored
session, unless it names its actor itself. -/
theorem applied_step (topology : Option ServerTopology) (hnamed : st.reg.Named P) {e : Event}
    {op : GameplayOp} {sid serial : UInt32} {charId : UInt64}
    (h : .applied op sid serial charId ∈ (step topology st e).out) :
    .applied op sid serial charId ∈ st.out ∨ NamesActor sid charId op ∨
      ∃ accountId, P accountId charId := by
  by_cases haccept : e = .accept
  · subst haccept
    exact .inl h
  cases hgameplay : e.isGameplay with
  | false =>
      obtain ⟨os, hos, hnone⟩ := (handledFor_step topology (recordsIn_true st.flow)
        e.actsFor_true haccept hgameplay).out
      rw [hos] at h
      exact .inl ((List.mem_append.mp h).resolve_right fun hnew => by
        simpa [Output.isApplied] using hnone _ hnew)
  | true =>
      unfold Event.isGameplay at hgameplay
      split at hgameplay
      next sid' serial' op' ready sent =>
        simp only [step] at h
        split at h
        next =>
          simp only [runNetTask, handlePacket, handleGameplay] at h
          split at h
          next hchar =>
            refine (List.mem_append.mp h).imp id fun hnew => ?_
            rw [List.mem_singleton, Output.applied.injEq] at hnew
            obtain ⟨rfl, rfl, -, rfl⟩ := hnew
            refine (resolveCharId_cases _ _ _).imp id fun hfound => ?_
            rw [hfound] at hchar ⊢
            obtain ⟨s, hs, hsc⟩ := exists_stored_of_findCharIdBySession hchar
            exact ⟨s.accountId, hsc ▸ hnamed _ s hs⟩
          next =>
            exact .inl ((List.mem_append.mp h).resolve_right fun hnew => by simp at hnew)
        next => exact .inl h
      next => exact Bool.noConfusion hgameplay

end WorldRuntime

/-! ## The servers together -/

/-- The login and the account server, and a world. -/
structure Realm where
  signIn : SignIn := {}
  world : WorldRuntime := .initial

namespace Realm

/-- What can happen. -/
inductive Event where
  | signIn (e : SignIn.Event)
  | world (e : WorldRuntime.Event)

/-- One step: the world reads an answer to a ticket consume only if the
account server has sent it. -/
def step (cfg : AccountConfig) (topology : Option ServerTopology) (s : Realm) : Event → Realm
  | .signIn e => { s with signIn := s.signIn.step cfg e }
  | .world (.ticketConsumeResponse res pushed) =>
      if res ∈ s.signIn.responses.map readAnswer then
        { s with world := WorldRuntime.step topology s.world (.ticketConsumeResponse res pushed) }
      else s
  | .world e => { s with world := WorldRuntime.step topology s.world e }

/-- The character was selected by a connection that is logged in as the
account. -/
def Selected (s : Realm) (accountId charId : UInt64) : Prop :=
  ∃ loginSession, SignIn.SelectedBy s.signIn accountId charId loginSession

/-- Whom the world knows. -/
structure SignedIn (s : Realm) : Prop where
  sessions : ∀ sid session, s.world.reg.authedSessionsBySid sid = some session →
    s.Selected session.accountId session.charId
  applied : ∀ op sid serial charId, .applied op sid serial charId ∈ s.world.out →
    WorldRuntime.NamesActor sid charId op ∨ ∃ accountId, s.Selected accountId charId

/-- What goes back to logins: the tickets and the answers of the account
server, and whom the world knows or is about to know. -/
structure Traced (s : Realm) : Prop where
  signIn : s.signIn.Traced
  vetted : Vetted s.Selected s.world
  applied : ∀ op sid serial charId, .applied op sid serial charId ∈ s.world.out →
    WorldRuntime.NamesActor sid charId op ∨ ∃ accountId, s.Selected accountId charId

theorem traced_init : Traced {} where
  signIn := SignIn.traced_init
  vetted := WorldRuntime.vetted_initial
  applied _ _ _ _ h := by cases h

variable {s : Realm}

/-- A step of the world that keeps to the answers sent. -/
theorem Traced.world (h : Traced s) (topology : Option ServerTopology) (e : WorldRuntime.Event)
    (hres : ∀ res pushed, e = .ticketConsumeResponse res pushed →
      res ∈ s.signIn.responses.map readAnswer) :
    Traced { s with world := WorldRuntime.step topology s.world e } where
  signIn := h.signIn
  vetted := WorldRuntime.vetted_step topology h.vetted e fun res pushed he hok => by
    obtain ⟨answer, hanswer, rfl⟩ := List.mem_map.mp (hres res pushed he)
    have hkind : answer.resultCode = .ok := by
      revert hok
      unfold readAnswer
      cases answer.resultCode <;> simp [WorldRuntime.readKind]
    exact ⟨answer.loginSession, h.signIn.responses answer hanswer hkind⟩
  applied op sid serial charId happlied :=
    (WorldRuntime.applied_step topology h.vetted.sessions happlied).elim
      (h.applied op sid serial charId) id

/-- A step of the other two. -/
theorem Traced.signIn_step (h : Traced s) (cfg : AccountConfig) (e : SignIn.Event)
    (hlt : (s.signIn.step cfg e).login.issued.length < 2 ^ 64) :
    Traced { s with signIn := s.signIn.step cfg e } where
  signIn := SignIn.traced_step h.signIn cfg e hlt
  vetted := h.vetted.mono fun _ _ ⟨loginSession, hselected⟩ =>
    ⟨loginSession, hselected.mono (SignIn.grows_step cfg s.signIn e)⟩
  applied op sid serial charId happlied :=
    (h.applied op sid serial charId happlied).imp id
      fun ⟨accountId, loginSession, hselected⟩ =>
        ⟨accountId, loginSession, hselected.mono (SignIn.grows_step cfg s.signIn e)⟩

theorem signIn_step_world (cfg : AccountConfig) (topology : Option ServerTopology) (s : Realm)
    (e : WorldRuntime.Event) : (s.step cfg topology (.world e)).signIn = s.signIn := by
  cases e <;> simp only [step]
  split <;> rfl

/-- The step lemma of the composition, while fewer than 2^64 requests were issued. -/
theorem realm_step (h : Traced s) (cfg : AccountConfig) (topology : Option ServerTopology)
    (e : Event) (hlt : (s.step cfg topology e).signIn.login.issued.length < 2 ^ 64) :
    Traced (s.step cfg topology e) := by
  cases e with
  | signIn e => exact h.signIn_step cfg e hlt
  | world e =>
      cases e with
      | ticketConsumeResponse res pushed =>
          simp only [step]
          split
          next hmem =>
            refine h.world topology _ fun res' pushed' he => ?_
            cases he
            exact hmem
          next => exact h
      | _ => exact h.world topology _ fun res pushed he => by cases he

theorem length_issued_le (cfg : AccountConfig) (topology : Option ServerTopology) (s : Realm)
    (e : Event) :
    s.signIn.login.issued.length ≤ (s.step cfg topology e).signIn.login.issued.length := by
  cases e with
  | signIn e => exact SignIn.length_issued_le cfg s.signIn e
  | world e => rw [signIn_step_world]

/-- **Whoever plays has signed in**: in every state of every run, as long as
no id has been drawn twice, each session that the world holds as authenticated
is of a character that a connection selected while it was logged in as the
session's account, with a password that the database had for it; and so is
each character that a gameplay packet was applied for without naming it. -/
theorem sessions_signedIn (cfg : AccountConfig) (topology : Option ServerTopology)
    (es : List Event) :
    Always (step cfg topology)
      (fun s => s.signIn.login.issued.length < 2 ^ 64 → SignedIn s) {} es := by
  have htraced : Always (step cfg topology)
      (fun s => s.signIn.login.issued.length < 2 ^ 64 → Traced s) {} es := by
    refine always_of_forall_step (fun _ => traced_init) fun s e h hlt => ?_
    exact realm_step (h ((length_issued_le cfg topology s e).trans_lt hlt)) cfg topology e hlt
  exact htraced.imp fun s h hlt => ⟨(h hlt).vetted.sessions, (h hlt).applied⟩

end Realm

end GameServer
