import GameServer.World.EnterRequests

/-!
# GameServer.World.EnterAnswers

The answers to enter requests.

* `AnswersSound` — what is true of the answers of one step;
* `answered_step` — the step lemma, from what each handler makes of the
  requests it has in hand;
* `enterAnswers_run` — requests are answered once at most, a success is of a
  session that has just been moved into the world and is bound, and a failure
  of one that is not bound any more.

Requests are told apart by their id, from a counter of 64 bits that snapshot
loads use too: when it has come around, an id is answered again
(`not_answeredOnce_aroundTheIds`).
-/

namespace GameServer

namespace WorldRuntime

/-- What a step has put out. -/
def emitted (st st' : WorldRuntime) : List Output := st'.out.drop st.out.length

/-- The id of the ticket-consume request that a packet is answered under, 0 if
none could be sent. -/
def enterRequests (st : WorldRuntime) : Event → List UInt64
  | .netTask (.packet sid serial (.enterWorldWithToken accountId loginSession worldToken)) ready
      sent =>
      if .packet sid serial (.enterWorldWithToken accountId loginSession worldToken) ∈ st.netTasks ∧
          serial ≠ 0 then
        [if ready && sent then st.flow.nextWorldAuthConsumeRequestId else 0]
      else []
  | _ => []

/-- The id that a step takes from the counter, for a ticket or a snapshot. -/
def idsDrawn (topology : Option ServerTopology) (st : WorldRuntime) (e : Event) : List UInt64 :=
  if (step topology st e).flow.nextWorldAuthConsumeRequestId =
      st.flow.nextWorldAuthConsumeRequestId then []
  else [st.flow.nextWorldAuthConsumeRequestId]

/-- The answers of one step: a success is of a session that this step moved
into the world and that is bound; and a failure of an enter that was bound, or
is bound by this step, leaves its connection unbound. -/
structure AnswersSound (topology : Option ServerTopology) (st : WorldRuntime) (e : Event) :
    Prop where
  success : ∀ p reason, .enterWorldResult p true reason ∈ emitted st (step topology st e) →
    (st.reg.promoteEnterWorldSessionToInWorld p.sid p.serial p.charId).1 = true ∧
      Entered (step topology st e).reg p
  failure : ∀ p reason, .enterWorldResult p false reason ∈ emitted st (step topology st e) →
    ((step topology st e).flow.boundEnters.count p < st.flow.boundEnters.count p ∨
      BindsEnter st e p) →
    Unbound (step topology st e).reg p.sid p.serial

/-! ## Steps -/

/-- The answers of a step are sound, and it answers no request twice. -/
structure Answered (topology : Option ServerTopology) (st : WorldRuntime) (e : Event) : Prop where
  sound : AnswersSound topology st e
  counted : ∃ os, (step topology st e).out = st.out ++ os ∧
    ∀ r, answersTo r os + countId r (step topology st e).flow.waitingEnters ≤
      countId r st.flow.waitingEnters + (enterRequests st e).count r

section

variable {topology : Option ServerTopology} {st st' : WorldRuntime} {e : Event}
  {ps : List PendingEnterWorldConsumeRequest} {ok : Output → Prop}

theorem Answers.of_mem_emitted (h : Answers ps ok st st') {o : Output} (ho : o ∈ emitted st st') :
    ok o := by
  obtain ⟨os, hout, hok, -⟩ := h.out
  rw [emitted, hout, List.drop_left] at ho
  exact hok o ho

/-- At most one answer for each request that was made, by id. -/
theorem Answers.counted (h : Answers ps ok st (step topology st e))
    (hps : ∀ r, countId r ps ≤ (enterRequests st e).count r) :
    ∃ os, (step topology st e).out = st.out ++ os ∧
      ∀ r, answersTo r os + countId r (step topology st e).flow.waitingEnters ≤
        countId r st.flow.waitingEnters + (enterRequests st e).count r := by
  obtain ⟨os, hout, -, hcount⟩ := h.out
  refine ⟨os, hout, fun r => ?_⟩
  have h₁ := hcount r
  have h₂ := hps r
  omega

/-- A handler that refuses makes no success. -/
theorem Refuses.answered (h : Refuses ps st (step topology st e))
    (hps : ∀ r, countId r ps ≤ (enterRequests st e).count r) (hbinds : ∀ p, ¬ BindsEnter st e p) :
    Answered topology st e where
  sound :=
    { success := fun p reason ho => by
        have hfalse := h.answers.of_mem_emitted ho p true rfl
        cases hfalse
      failure := fun p reason _ hbound => by
        rw [h.bound] at hbound
        exact absurd hbound (not_or.mpr ⟨Nat.lt_irrefl _, hbinds p⟩) }
  counted := h.answers.counted hps

/-- A stored session is of a connection. -/
theorem Gone.unbound {reg : SessionRegistry} (hwf : reg.StoredWellFormed) {sid serial : UInt32}
    (h : Gone reg sid serial) : Unbound reg sid serial := by
  intro s hs heq
  obtain ⟨hsid, hs'⟩ := hwf sid s hs
  have hvalid : isValidSessionKey sid serial = true :=
    isValidSessionKey_eq_true.mpr ⟨hsid ▸ hs'.sid_ne, heq ▸ hs'.serial_ne⟩
  exact h hvalid s hs heq

/-- A failure leaves its connection without a session. -/
theorem answered_of_gone (hwf : (step topology st e).reg.StoredWellFormed)
    (h : Answers [] (fun o => ∀ p ok, o.answer? = some (p, ok) → ok = false ∧
      Gone (step topology st e).reg p.sid p.serial) st (step topology st e)) :
    Answered topology st e where
  sound :=
    { success := fun p reason ho => by
        have hfalse := (h.of_mem_emitted ho p true rfl).1
        cases hfalse
      failure := fun p reason ho _ => (h.of_mem_emitted ho p false rfl).2.unbound hwf }
  counted := h.counted fun r => Nat.zero_le _

theorem Fails.answered (hwf : (step topology st e).reg.StoredWellFormed)
    (h : Fails [] st (step topology st e)) : Answered topology st e :=
  answered_of_gone hwf h.answers

/-- Without an answer there is nothing to show. -/
theorem Silent.answered (h : Silent [] st (step topology st e)) : Answered topology st e where
  sound :=
    { success := fun p reason ho => by
        have hnone := h.of_mem_emitted ho
        cases hnone
      failure := fun p reason ho _ => by
        have hnone := h.of_mem_emitted ho
        cases hnone }
  counted := Answers.counted h fun r => Nat.zero_le _

/-- The packets: one asks to enter, the others answer nothing. -/
theorem answered_netTask (topology : Option ServerTopology) (st : WorldRuntime) (task : NetTask)
    (ready sent : Bool) : Answered topology st (.netTask task ready sent) := by
  by_cases hmem : task ∈ st.netTasks
  · have htaken : Silent [] st { st with netTasks := st.netTasks.erase task } :=
      .idle rfl rfl
    have hstep : step topology st (.netTask task ready sent) =
        { st with netTasks := st.netTasks.erase task }.runNetTask task ready sent := by
      simp only [step, if_pos hmem]
    cases task with
    | connected sid serial =>
        refine Silent.answered ?_
        rw [hstep]
        exact .idle rfl rfl
    | disconnected sid serial =>
        refine Silent.answered ?_
        rw [hstep]
        simp only [runNetTask, handleDisconnected]
        split
        next =>
          have hclosed := htaken.trans (silent_handleWorldSessionClosed _ sid serial)
          exact hclosed.trans (.idle rfl rfl)
        next => exact .idle rfl rfl
    | packet sid serial p =>
        by_cases hp : ∃ accountId loginSession worldToken,
            p = .enterWorldWithToken accountId loginSession worldToken
        · obtain ⟨accountId, loginSession, worldToken, rfl⟩ := hp
          simp only [runNetTask, handlePacket, getLatestSerial, Table.set_self, Option.getD_some]
            at hstep
          have hset : Silent [] st { st with
              netTasks := st.netTasks.erase (.packet sid serial
                (.enterWorldWithToken accountId loginSession worldToken))
              sessionSerials := st.sessionSerials.set sid serial } :=
            .idle rfl rfl
          by_cases hserial : serial = 0
          · refine Silent.answered ?_
            rw [hstep]
            simp only [handleEnterWorldWithToken, hserial, if_true]
            exact .idle rfl rfl
          · obtain ⟨p, hid, hrefuses⟩ := refuses_handleEnterWorldWithToken { st with
              netTasks := st.netTasks.erase (.packet sid serial
                (.enterWorldWithToken accountId loginSession worldToken))
              sessionSerials := st.sessionSerials.set sid serial } accountId loginSession worldToken
              ready sent hserial
            have h := (hset.refuses rfl).trans hrefuses
            rw [← hstep] at h
            refine h.answered (fun r => ?_) ?_
            · have hrequest : enterRequests st (.netTask (.packet sid serial
                  (.enterWorldWithToken accountId loginSession worldToken)) ready sent) =
                  [p.requestId] := by
                simp [enterRequests, hmem, hserial, hid]
              rw [hrequest]
              simp [countId, List.countP_singleton, List.count_singleton]
            · rintro p ⟨rr, answers, snapshot, heq, -⟩
              cases heq
        · refine Silent.answered ?_
          rw [hstep]
          refine htaken.trans (silent_handlePacket _ sid serial ready sent fun a l w hp' => ?_)
          exact hp ⟨a, l, w, hp'⟩
  · refine Silent.answered ?_
    simp only [step, if_neg hmem]
    exact .refl st

/-- **The step lemma.** -/
theorem answered_step (topology : Option ServerTopology) (hwf : st.reg.StoredWellFormed)
    (e : Event) : Answered topology st e := by
  have hwf' := storedWellFormed_step topology e hwf
  cases e with
  | accept => exact Silent.answered (.idle rfl rfl)
  | receive sid serial p =>
      refine Silent.answered ?_
      simp only [step]
      split <;> exact .idle rfl rfl
  | terminate sid serial =>
      refine Silent.answered ?_
      simp only [step]
      split <;> exact .idle rfl rfl
  | netTask task ready sent => exact answered_netTask topology st task ready sent
  | strand =>
      refine Silent.answered ?_
      simp only [step]
      split
      next => exact .refl st
      next task rest _ =>
        have htaken : Silent [] st { st with strand := rest } :=
          .idle rfl rfl
        exact htaken.trans (silent_runStrandTask _ task)
  | timer id aborted =>
      refine Silent.answered ?_
      simp only [step, onDelayedCloseTimer]
      split
      next => exact .refl st
      next =>
        split
        next => exact .refl st
        next => split <;> exact .idle rfl rfl
  | ticketConsumeResponse res pushed =>
      refine Refuses.answered (refuses_onWorldAuthTicketConsumeResponse st res pushed)
        (fun r => Nat.zero_le _) ?_
      rintro p ⟨rr, answers, snapshot, heq, -⟩
      cases heq
  | snapshotResult rr answers =>
      obtain ⟨hrefuses, hbinds⟩ | hgone :=
        onCharacterEnterSnapshotResult_answers st topology rr answers
      · exact hrefuses.answered (fun r => Nat.zero_le _) hbinds
      · exact answered_of_gone hwf' hgone
  | zoneMapAssignResponse sid serial res sendOk =>
      exact (fails_onZoneMapAssignResponse st sid serial res sendOk).answered hwf'
  | zonePlayerEnterAck sid serial ack notified bytes =>
      obtain hfails | ⟨p, hp, hentered, hanswers⟩ :=
        onZonePlayerEnterAck_answers st sid serial ack notified bytes
      · exact hfails.answered hwf'
      · refine ⟨⟨fun q reason ho => ?_, fun q reason ho _ => ?_⟩,
          hanswers.counted fun r => Nat.zero_le _⟩
        · obtain ⟨rfl, -⟩ := hanswers.of_mem_emitted ho q true rfl
          exact ⟨hp, hentered⟩
        · cases (hanswers.of_mem_emitted ho q false rfl).2
  | registerZoneRoute hello => exact Silent.answered (.idle rfl rfl)
  | zoneRouteHeartbeat beat => exact Silent.answered (.idle rfl rfl)
  | unregisterZoneRoute sid serial => exact (fails_unregisterZoneRoute st sid serial).answered hwf'
  | expireStaleZoneRoutes routes enters portals =>
      exact (fails_expireStaleZoneRoutes st routes enters portals).answered hwf'
  | beginPortalTransfer request assignSendOk =>
      exact (silent_beginPortalTransfer st topology request assignSendOk).answered
  | rehash routes assigns enters =>
      refine Silent.answered ?_
      simp only [step]
      split
      next hperm =>
        refine .parked rfl fun r => ?_
        have heq : countId r (enters.map (·.enterPending)) =
            countId r (st.flow.pendingZonePlayerEnter.map (·.enterPending)) :=
          (hperm.2.2.map _).countP_eq _
        rw [countId_waitingEnters, countId_waitingEnters]
        dsimp only
        omega
      next => exact .refl st

end

/-! ## Runs -/

/-- Every answered id is paid for by a request, and the waiting ones are still
to be answered. -/
theorem answersTo_le_count (topology : Option ServerTopology) {q : UInt64 → Prop}
    {obs : WorldRuntime → Event → List UInt64}
    (hobs : ∀ st e r, q r → (enterRequests st e).count r ≤ (obs st e).count r) (es : List Event) :
    Always (recording (step topology) obs)
      (fun sh => ∀ r, q r → answersTo r sh.1.out ≤ sh.2.count r) (initial, []) es := by
  have hcounted : Always (recording (step topology) obs)
      (fun sh => sh.1.reg.StoredWellFormed ∧
        ∀ r, q r → answersTo r sh.1.out + countId r sh.1.flow.waitingEnters ≤ sh.2.count r)
      (initial, []) es := by
    refine always_of_forall_step
      ⟨SessionRegistry.storedWellFormed_initial, fun r _ => Nat.le_refl 0⟩ ?_
    rintro ⟨st, h⟩ e ⟨hst, hcount⟩
    obtain ⟨os, hout, hstep⟩ := (answered_step topology hst e).counted
    refine ⟨storedWellFormed_step topology e hst, fun r hr => ?_⟩
    have h₁ := hcount r hr
    have h₂ := hstep r
    have h₃ := hobs st e r hr
    dsimp only [recording] at h₁ h₂ h₃ ⊢
    rw [hout, answersTo_append, List.count_append]
    dsimp only
    omega
  refine hcounted.imp fun sh hsh r hr => ?_
  have h := hsh.2 r hr
  omega

/-- A ticket-consume request takes its id from the counter. -/
theorem count_enterRequests_le_count_idsDrawn (topology : Option ServerTopology)
    (st : WorldRuntime) (e : Event) {r : UInt64} (hr : r ≠ 0) :
    (enterRequests st e).count r ≤ (idsDrawn topology st e).count r := by
  unfold enterRequests
  split
  next sid serial accountId loginSession worldToken ready sent =>
    split
    next hruns =>
      cases hsent : ready && sent with
      | false =>
          have hne : (0 : UInt64) ≠ r := hr.symm
          simp [hne]
      | true =>
          obtain ⟨rfl, rfl⟩ : ready = true ∧ sent = true := by simpa using hsent
          have hdrawn : idsDrawn topology st (.netTask (.packet sid serial
              (.enterWorldWithToken accountId loginSession worldToken)) true true) =
              [st.flow.nextWorldAuthConsumeRequestId] := by
            simp [idsDrawn, step, hruns.1, hruns.2, runNetTask, handlePacket, getLatestSerial,
              handleEnterWorldWithToken, requestConsumeWorldAuthTicket]
          rw [hdrawn]
          exact Nat.le_refl _
    next => simp
  next => simp

/-- **Enter-world answers.**  Under every order of events: the results sent
under an id are at most the ticket-consume requests sent under it, and one at
most while the counter gives out no id twice; a success is of a session just
moved into the world that is bound; and the failure of an enter that was bound
leaves its connection unbound. -/
theorem enterAnswers_run (topology : Option ServerTopology) (es : List Event) :
    Always (recording (step topology) enterRequests)
        (fun sh => ∀ r, answersTo r sh.1.out ≤ sh.2.count r) (initial, []) es ∧
      Always (recording (step topology) (idsDrawn topology))
        (fun sh => sh.2.Nodup → ∀ r, r ≠ 0 → answersTo r sh.1.out ≤ 1) (initial, []) es ∧
      Along (step topology) (AnswersSound topology) initial es := by
  refine ⟨?_, ?_, ?_⟩
  · have hcount := answersTo_le_count (q := fun _ => True) topology
      (fun st e r _ => Nat.le_refl ((enterRequests st e).count r)) es
    exact hcount.imp fun sh h r => h r trivial
  · have hcount := answersTo_le_count topology
      (fun st e r hr => count_enterRequests_le_count_idsDrawn topology st e hr) es
    refine hcount.imp fun sh h hnodup r hr => (h r hr).trans ?_
    exact List.nodup_iff_count_le_one.mp hnodup r
  · exact along_of_forall_step SessionRegistry.storedWellFormed_initial
      (fun st e h => storedWellFormed_step topology e h)
      fun st e h => (answered_step topology h e).sound

/-! ## The id counter comes around -/

/-- A client asks to enter; `sent` answers the account line. -/
def askOnce (sent : Bool) : List Event :=
  [.receive 1 1 (.enterWorldWithToken 100 "login" "ticket"),
   .netTask (.packet 1 1 (.enterWorldWithToken 100 "login" "ticket")) true sent]

/-- The account server refuses the ticket of request 1. -/
def refuseFirst : Event :=
  .ticketConsumeResponse ⟨1, .expired, 100, 11, "login", "ticket"⟩ true

/-- Request 1 is answered; `n` requests cannot be sent, and each uses up an
id; then there is another request 1, and it is answered too. -/
def aroundTheIds (n : Nat) : List Event :=
  (connect 1 1 ++ askOnce true ++ [refuseFirst]) ++
    ((List.replicate n (askOnce false)).flatten ++ (askOnce true ++ [refuseFirst]))

/-- The client is connected, and none of its requests waits. -/
structure Idle (st : WorldRuntime) : Prop where
  connected : st.tcp.isConnected 1 1 = true
  tasks : st.netTasks = []
  consume : st.flow.pendingEnterWorldConsume = []

/-- A request that cannot be sent uses up an id. -/
theorem idle_askOnce {st : WorldRuntime} (h : Idle st) :
    let st' := run (step none) st (askOnce false)
    Idle st' ∧
      st'.flow.nextWorldAuthConsumeRequestId = st.flow.nextWorldAuthConsumeRequestId + 1 ∧
      ∃ os, st'.out = st.out ++ os := by
  obtain ⟨hconnected, htasks, hconsume⟩ := h
  simp only [askOnce, run_cons, run_nil, step, hconnected, if_true, List.mem_cons, true_or,
    List.erase_cons_head, runNetTask, handlePacket, getLatestSerial, Table.set_self,
    Option.getD_some, handleEnterWorldWithToken, requestConsumeWorldAuthTicket, emit]
  refine ⟨⟨hconnected, htasks, ?_⟩, rfl, ?_⟩
  · simp [hconsume]
  · exact ⟨_, rfl⟩

/-- Asking again and again from an idle state ends idle, and draws an id each time. -/
theorem idle_flatten_askOnce {st : WorldRuntime} (h : Idle st) (n : Nat) :
    let st' := run (step none) st (List.replicate n (askOnce false)).flatten
    Idle st' ∧
      st'.flow.nextWorldAuthConsumeRequestId =
        st.flow.nextWorldAuthConsumeRequestId + UInt64.ofNat n ∧
      ∃ os, st'.out = st.out ++ os := by
  induction n generalizing st with
  | zero => exact ⟨h, by simp, [], by simp⟩
  | succ n ih =>
      obtain ⟨hstep, hnext, os, hout⟩ := idle_askOnce h
      obtain ⟨hrun, hnext', os', hout'⟩ := ih hstep
      rw [List.replicate_succ, List.flatten_cons, run_append]
      refine ⟨hrun, hnext'.trans ?_, os ++ os', by rw [hout', hout, List.append_assoc]⟩
      rw [hnext, UInt64.add_assoc, UInt64.add_comm 1]
      simp [UInt64.ofNat_add]

/-- A request that is sent and refused is answered under its id. -/
theorem answersTo_askOnce {st : WorldRuntime} (h : Idle st)
    (hid : st.flow.nextWorldAuthConsumeRequestId = 1) :
    answersTo 1 (run (step none) st (askOnce true ++ [refuseFirst])).out =
      answersTo 1 st.out + 1 := by
  obtain ⟨hconnected, htasks, hconsume⟩ := h
  simp [askOnce, refuseFirst, step, hconnected, runNetTask, handlePacket, getLatestSerial,
    handleEnterWorldWithToken, requestConsumeWorldAuthTicket, hconsume, hid, upsertBy,
    onWorldAuthTicketConsumeResponse, emit, answersTo, Output.answer?]

/-- Outputs stay. -/
theorem answersTo_le_of_append {st st' : WorldRuntime} {os : List Output} (r : UInt64)
    (h : st'.out = st.out ++ os) : answersTo r st.out ≤ answersTo r st'.out := by
  rw [h, answersTo_append]
  exact Nat.le_add_right _ _

/-- The second request 1 is answered like the first. -/
theorem two_le_answersTo_aroundTheIds {n : Nat} (hn : 2 + UInt64.ofNat n = 1) :
    2 ≤ answersTo 1 (run (step none) initial (aroundTheIds n)).out := by
  rw [aroundTheIds, run_append, run_append]
  have hstart : Idle (run (step none) initial (connect 1 1 ++ askOnce true ++ [refuseFirst])) :=
    ⟨by decide, by decide, by decide⟩
  have hnext : (run (step none) initial (connect 1 1 ++ askOnce true ++
      [refuseFirst])).flow.nextWorldAuthConsumeRequestId = 2 := by
    decide
  have hfirst : answersTo 1 (run (step none) initial (connect 1 1 ++ askOnce true ++
      [refuseFirst])).out = 1 := by
    decide
  obtain ⟨hidle, hback, os, hout⟩ := idle_flatten_askOnce hstart n
  rw [hnext, hn] at hback
  have hkept := answersTo_le_of_append 1 hout
  rw [answersTo_askOnce hidle hback]
  omega

/-- After `2 ^ 64` requests an id is answered a second time. -/
theorem not_answeredOnce_aroundTheIds :
    ¬ ∀ (topology : Option ServerTopology) (es : List Event) (r : UInt64), r ≠ 0 →
      answersTo r (run (step topology) initial es).out ≤ 1 := by
  intro h
  have htwo := two_le_answersTo_aroundTheIds (n := 2 ^ 64 - 1) (by decide)
  have hone := h none (aroundTheIds (2 ^ 64 - 1)) 1 (by decide)
  omega

end WorldRuntime

end GameServer
