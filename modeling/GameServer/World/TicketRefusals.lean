import GameServer.Account.AccountLine
import GameServer.World.EnterAnswers

/-!
# GameServer.World.TicketRefusals

How a ticket that the account server refuses is reported to the client.

The account server answers a consume request with the account, the session and
the token of the ticket it consumed; a refusal consumes none, and these stay
blank.  The world compares them with the request before it looks at the kind
of the refusal.

* `wireText` -- a text of the packets, a C string of a fixed size
* `consumeAnswer`, `readAnswer` -- the answer, as sent and as read
* `consumeAnswer_of_refused` -- a refusal echoes nothing of the request
* `reports_iff` -- which refusals reach the client under their own reason
-/

namespace GameServer

/-- `k_login_session_max_len`. -/
def loginSessionTextMaxLen : Nat := 64

/-- `k_world_token_max_len`. -/
def worldTokenTextMaxLen : Nat := 32

/-- A text, one character a byte, copied into a field of `max + 1` bytes with
`snprintf` and read back as a C string. -/
def wireText (max : Nat) (text : String) : String :=
  String.ofList ((text.toList.takeWhile (· ≠ Char.ofNat 0)).take max)

theorem wireText_empty (max : Nat) : wireText max "" = "" := by
  simp [wireText]

namespace WorldRuntime

/-- The world reads the code of the answer back as the same kind. -/
def readKind : ConsumeTicketResultKind → ConsumeResultKind
  | .ok => .ok
  | .tokenNotFound => .tokenNotFound
  | .expired => .expired
  | .replayDetected => .replayDetected
  | .accountMismatch => .accountMismatch
  | .charMismatch => .charMismatch
  | .loginSessionMismatch => .loginSessionMismatch
  | .worldServerMismatch => .worldServerMismatch

/-- What the account server does with the request of `p`, as it arrives from
the world connection `(sid, serial)`. -/
def consumeRefusal (cfg : AccountConfig) (account : AccountLine) (now : Nat) (sid serial : UInt32)
    (traceId : UInt64) (p : PendingEnterWorldConsumeRequest) : ConsumeTicketResultKind :=
  (account.consumeIssuedWorldTicket cfg now sid serial traceId p.accountId
    (wireText loginSessionTextMaxLen p.loginSession)
    (wireText worldTokenTextMaxLen p.worldToken)).2.1

/-- The answer of the account server. -/
def consumeAnswer (cfg : AccountConfig) (account : AccountLine) (now : Nat) (sid serial : UInt32)
    (traceId : UInt64) (p : PendingEnterWorldConsumeRequest) : AccountLine.TicketConsumeResponse :=
  (account.onWorldTicketConsumeRequest cfg now sid serial traceId p.requestId p.accountId
    (wireText loginSessionTextMaxLen p.loginSession)
    (wireText worldTokenTextMaxLen p.worldToken)).2

/-- The answer as the world reads it from the packet. -/
def readAnswer (answer : AccountLine.TicketConsumeResponse) : TicketConsumeResponse where
  requestId := answer.requestId
  resultKind := readKind answer.resultCode
  accountId := answer.accountId
  charId := answer.charId
  loginSession := wireText loginSessionTextMaxLen answer.loginSession
  worldToken := wireText worldTokenTextMaxLen answer.worldToken

/-- The request names no account, no session and no token. -/
def isBlank (p : PendingEnterWorldConsumeRequest) : Bool :=
  p.accountId == 0 && p.loginSession == "" && p.worldToken == ""

/-- The world reports the request as refused for this reason. -/
def Reports (st : WorldRuntime) (p : PendingEnterWorldConsumeRequest)
    (res : TicketConsumeResponse) (pushed : Bool) (reason : EnterWorldResultCode) : Prop :=
  emitted st (st.onWorldAuthTicketConsumeResponse res pushed) = [.enterWorldResult p false reason]

/-- The reason a refusal is named after: every mismatch is one. -/
def namedReason : ConsumeTicketResultKind → EnterWorldResultCode
  | .expired => .authTicketExpired
  | .replayDetected => .authTicketReplayed
  | .accountMismatch | .charMismatch | .loginSessionMismatch | .worldServerMismatch =>
      .authTicketMismatch
  | _ => .authTicketNotFound

/-! ## The echo of a refusal -/

section Refusal

variable {cfg : AccountConfig} {account : AccountLine} {now : Nat} {sid serial : UInt32}
  {traceId : UInt64} {p : PendingEnterWorldConsumeRequest}

/-- A refusal consumes no ticket. -/
theorem consumed_of_refused {accountId : UInt64} {loginSession worldToken : String}
    (h : (account.consumeIssuedWorldTicket cfg now sid serial traceId accountId loginSession
      worldToken).2.1 ≠ .ok) :
    (account.consumeIssuedWorldTicket cfg now sid serial traceId accountId loginSession
      worldToken).2.2 = {} := by
  revert h
  unfold AccountLine.consumeIssuedWorldTicket
  split
  · exact fun _ => rfl
  · split
    · split_ifs <;> exact fun _ => rfl
    · split_ifs
      · exact fun _ => rfl
      · exact fun _ => rfl
      · exact fun _ => rfl
      · exact fun _ => rfl
      · exact fun h => absurd rfl h

/-- The answer to a refused request has its id and the kind of the refusal,
and no account, session or token. -/
theorem consumeAnswer_of_refused
    (h : consumeRefusal cfg account now sid serial traceId p ≠ .ok) :
    readAnswer (consumeAnswer cfg account now sid serial traceId p) =
      { requestId := p.requestId
        resultKind := readKind (consumeRefusal cfg account now sid serial traceId p)
        accountId := 0, charId := 0, loginSession := "", worldToken := "" } := by
  have hconsumed := consumed_of_refused h
  simp only [consumeAnswer, readAnswer, AccountLine.onWorldTicketConsumeRequest, hconsumed,
    wireText_empty]
  rfl

/-- The identity check comes first: only a blank request reaches the kind of
its refusal. -/
theorem emitted_of_refused {st : WorldRuntime} {kind : ConsumeResultKind} (pushed : Bool)
    (hpending : st.flow.pendingEnterWorldConsume.find? (·.requestId == p.requestId) = some p)
    (hkind : kind ≠ .ok) :
    emitted st (st.onWorldAuthTicketConsumeResponse
        { requestId := p.requestId, resultKind := kind, accountId := 0, charId := 0
          loginSession := "", worldToken := "" } pushed) =
      [.enterWorldResult p false
        (if isBlank p then consumeFailReason kind else .authTicketMismatch)] := by
  have hchar : { p with charId := if p.charId = 0 then 0 else p.charId } = p := by
    cases p
    dsimp only
    split <;> simp_all
  have hblank : (p.accountId ≠ 0 ∨ p.loginSession ≠ "" ∨ p.worldToken ≠ "") ↔
      isBlank p = false := by
    rw [← Bool.not_eq_true, isBlank]
    simp only [Bool.and_eq_true, beq_iff_eq]
    tauto
  simp only [onWorldAuthTicketConsumeResponse, hpending, hchar, hblank]
  cases isBlank p with
  | false => simp [emitted, emit]
  | true => simp [emitted, emit, hkind]

/-- The kinds that the world reports as mismatches. -/
def isIdentityMismatch : ConsumeTicketResultKind → Bool
  | .accountMismatch | .charMismatch | .loginSessionMismatch => true
  | _ => false

/-- A refusal reaches the client under the reason it is mapped to exactly if it
is a mismatch of the account or the session, or the request was blank; under
the reason it is named after exactly if it is any mismatch, or for a blank
request any refusal but that of another world. -/
theorem reports_iff {st : WorldRuntime} {p : PendingEnterWorldConsumeRequest}
    (hpending : st.flow.pendingEnterWorldConsume.find? (·.requestId == p.requestId) = some p)
    (cfg : AccountConfig) (account : AccountLine) (now : Nat) (sid serial : UInt32)
    (traceId : UInt64) (pushed : Bool)
    (hrefused : consumeRefusal cfg account now sid serial traceId p ≠ .ok) :
    let kind := consumeRefusal cfg account now sid serial traceId p
    let res := readAnswer (consumeAnswer cfg account now sid serial traceId p)
    (Reports st p res pushed (consumeFailReason (readKind kind)) ↔
      isIdentityMismatch kind = true ∨ isBlank p = true) ∧
    (Reports st p res pushed (namedReason kind) ↔
      if isBlank p then kind ≠ .worldServerMismatch
      else isIdentityMismatch kind = true ∨ kind = .worldServerMismatch) := by
  intro kind res
  have hres : res = _ := consumeAnswer_of_refused hrefused
  have hkind : readKind kind ≠ .ok := by
    intro h
    cases hk : kind with
    | ok => exact hrefused hk
    | _ => rw [hk] at h; cases h
  have hsent := emitted_of_refused pushed hpending hkind
  rw [Reports, Reports, hres, hsent]
  cases isBlank p <;> cases hk : kind <;> simp [consumeFailReason, readKind, namedReason,
    isIdentityMismatch]

end Refusal

/-- An account server without configured worlds. -/
def unconfigured : AccountConfig := { configuredWorldsByName := fun _ => none }

/-- An account server with one registered world and no tickets. -/
def ticketless : AccountLine :=
  { worldsBySid := AList.insert 4 { sid := 4, serial := 9, worldId := 1 } ∅ }

/-- A client asks for a ticket that does not exist. -/
def unknownTicket : PendingEnterWorldConsumeRequest where
  requestId := 1
  sid := 2
  serial := 3
  accountId := 7
  charId := 0
  loginSession := "session"
  worldToken := "token"

/-- The world that waits for the answer. -/
def waitingWorld : WorldRuntime :=
  { initial with
    flow := { EnterFlow.initial with pendingEnterWorldConsume := [unknownTicket] } }

theorem reports_iff_unknownTicket :
    (Reports waitingWorld unknownTicket
        (readAnswer (consumeAnswer unconfigured ticketless 0 4 9 0 unknownTicket))
        true (consumeFailReason .tokenNotFound) ↔
      isIdentityMismatch .tokenNotFound = true ∨ isBlank unknownTicket = true) ∧
    (Reports waitingWorld unknownTicket
        (readAnswer (consumeAnswer unconfigured ticketless 0 4 9 0 unknownTicket))
        true (namedReason .tokenNotFound) ↔
      if isBlank unknownTicket then ConsumeTicketResultKind.tokenNotFound ≠ .worldServerMismatch
      else isIdentityMismatch .tokenNotFound = true ∨
        ConsumeTicketResultKind.tokenNotFound = .worldServerMismatch) :=
  reports_iff (by decide) unconfigured ticketless 0 4 9 0 true (by decide)

/-- The ticket is not found, and the client is told of a mismatch. -/
theorem unknown_ticket_reported_as_mismatch :
    consumeRefusal unconfigured ticketless 0 4 9 0 unknownTicket = .tokenNotFound ∧
    Reports waitingWorld unknownTicket
      (readAnswer (consumeAnswer unconfigured ticketless 0 4 9 0 unknownTicket))
      true .authTicketMismatch ∧
    ¬Reports waitingWorld unknownTicket
      (readAnswer (consumeAnswer unconfigured ticketless 0 4 9 0 unknownTicket))
      true .authTicketNotFound := by
  refine ⟨by decide, ?_, ?_⟩
  · unfold Reports
    decide
  · unfold Reports
    decide

end WorldRuntime

end GameServer
