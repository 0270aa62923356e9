import GameServer.Login.LoginRequests

/-!
# GameServer.Login.RequestAccounts

Every question of a client is accounted for.

* `dataAnalysis_cases` — what a question does at once;
* `Delivered` — an answer to a request goes to the connection that asked, and
  a result answers the request with its id;
* `Accounted` — the questions asked are those under way, those that wait for
  a result and those that have been answered, each once;
* `Placed` — what every run keeps: every request is in one place at most;
* `questions_accounted` — a run keeps the accounts exactly if no handler takes
  back a request that is gone already;
* `pending_run_iff` — what ends a pending request: a result with its id, its
  own handler if it could not be sent, or, for a login, the timeout.
-/

namespace GameServer

/-! ## Questions -/

/-- A question: the connection, the encoding it wants, and what it is about. -/
structure Question where
  sid : UInt32
  serial : UInt32
  useProtobuf : Bool
  kind : RequestKind
deriving DecidableEq, Repr

/-- The kind of a question. -/
def ClientAsk.kind : ClientAsk → RequestKind
  | .loginRequest .. => .login
  | .worldListRequest => .worldList
  | .worldSelectRequest .. => .worldSelect
  | .characterListRequest => .characterList
  | .characterSelectRequest .. => .characterSelect

/-- The kind of question that a reply answers. -/
def ClientReply.kind : ClientReply → RequestKind
  | .loginResult .. => .login
  | .worldList .. => .worldList
  | .worldSelect .. => .worldSelect
  | .characterList .. => .characterList
  | .characterSelect .. => .characterSelect

/-- The question that a handler is about. -/
def OpenIssue.question (o : OpenIssue) : Question := ⟨o.sid, o.serial, o.useProtobuf, o.ask.kind⟩

/-- The question of a request. -/
def PendingRequest.question (p : PendingRequest) : Question :=
  ⟨p.clientSid, p.clientSerial, p.useProtobuf, p.ask.kind⟩

/-- The question that a message answers. -/
def ClientAnswer.question (a : ClientAnswer) : Question :=
  ⟨a.sid, a.serial, a.useProtobuf, a.reply.kind⟩

/-- The account and the login session that a request is for. -/
def AccountAsk.identity : AccountAsk → Option (UInt64 × String)
  | .login .. => none
  | .worldList accountId loginSession => some (accountId, loginSession)
  | .worldSelect accountId _ _ loginSession => some (accountId, loginSession)
  | .characterList accountId _ loginSession => some (accountId, loginSession)
  | .characterSelect accountId _ loginSession => some (accountId, loginSession)

namespace LoginRuntime

/-- The question of an event. -/
def questions (_ : LoginRuntime) : Event → List Question
  | .dataAnalysis sid serial useProtobuf ask => [⟨sid, serial, useProtobuf, ask.kind⟩]
  | _ => []

/-- A request is what a handler asks of the session it has read. -/
structure OpenIssue.Reads (st : LoginRuntime) (o : OpenIssue) : Prop where
  unsent : o.unsent.kind = o.ask.kind
  identity : ∀ i, o.ask.identity = some i →
    ∃ s, st.loggedInSession o.sid o.serial = some s ∧ i = (s.accountId, s.loginSession)

/-- **What a question does**: a handler goes on with the session that it has
read, or the client is refused. -/
theorem dataAnalysis_cases (st : LoginRuntime) (sid serial : UInt32) (useProtobuf : Bool)
    (ask : ClientAsk) :
    (∃ o, st.dataAnalysis sid serial useProtobuf ask = st.openIssue o ∧
      o.question = ⟨sid, serial, useProtobuf, ask.kind⟩ ∧ OpenIssue.Reads st o) ∨
    ∃ reply, st.dataAnalysis sid serial useProtobuf ask =
        st.answer sid serial useProtobuf reply .refused ∧ reply.kind = ask.kind := by
  cases ask with
  | loginRequest loginId password =>
      simp only [dataAnalysis, issueLoginRequest]
      split
      next => exact .inl ⟨_, rfl, rfl, rfl, fun i hi => by cases hi⟩
      next => exact .inr ⟨_, rfl, rfl⟩
  | worldListRequest =>
      simp only [dataAnalysis, issueWorldListRequest]
      split
      next => exact .inr ⟨_, rfl, rfl⟩
      next s hs =>
        exact .inl ⟨_, rfl, rfl, rfl, fun i hi => ⟨s, hs, (Option.some.inj hi).symm⟩⟩
  | worldSelectRequest worldId channelId =>
      simp only [dataAnalysis, issueWorldSelectRequest]
      split
      next => exact .inr ⟨_, rfl, rfl⟩
      next s hs =>
        exact .inl ⟨_, rfl, rfl, rfl, fun i hi => ⟨s, hs, (Option.some.inj hi).symm⟩⟩
  | characterListRequest =>
      simp only [dataAnalysis, issueCharacterListRequest]
      split
      next => exact .inr ⟨_, rfl, rfl⟩
      next s hs =>
        split
        next => exact .inr ⟨_, rfl, rfl⟩
        next =>
          exact .inl ⟨_, rfl, rfl, rfl, fun i hi => ⟨s, hs, (Option.some.inj hi).symm⟩⟩
  | characterSelectRequest charId =>
      simp only [dataAnalysis, issueCharacterSelectRequest]
      split
      next => exact .inr ⟨_, rfl, rfl⟩
      next s hs =>
        split
        next => exact .inr ⟨_, rfl, rfl⟩
        next =>
          exact .inl ⟨_, rfl, rfl, rfl, fun i hi => ⟨s, hs, (Option.some.inj hi).symm⟩⟩

/-! ## Ids -/

/-- The ids are drawn in order. -/
structure Numbered (st : LoginRuntime) : Prop where
  next : st.nextLoginRequestId = UInt64.ofNat (st.issued.length + 1)
  ids : st.issued.map (·.requestId) =
    (List.range st.issued.length).map fun k => UInt64.ofNat (k + 1)

theorem numbered_init : Numbered {} := ⟨rfl, rfl⟩

/-- The ids are distinct, while there are so many. -/
theorem Numbered.nodup {st : LoginRuntime} (h : Numbered st) (hlt : st.issued.length < 2 ^ 64) :
    (st.issued.map (·.requestId)).Nodup := by
  rw [h.ids]
  refine List.Nodup.map_on (fun k hk k' hk' heq => ?_) List.nodup_range
  rw [List.mem_range] at hk hk'
  have hvalue := congrArg UInt64.toNat heq
  rw [UInt64.toNat_ofNat', UInt64.toNat_ofNat', Nat.mod_eq_of_lt (by omega),
    Nat.mod_eq_of_lt (by omega)] at hvalue
  omega

/-- A request that is issued takes the next id, which no other has. -/
theorem Numbered.issue {st st' : LoginRuntime} (h : Numbered st) {p : PendingRequest}
    (hp : p.requestId = st.nextLoginRequestId) (hissued : st'.issued = st.issued ++ [p])
    (hnext : st'.nextLoginRequestId = st.nextLoginRequestId + 1) : Numbered st' where
  next := by
    rw [hnext, h.next, hissued, List.length_append, List.length_singleton]
    exact (UInt64.ofNat_add _ 1).symm
  ids := by
    rw [hissued, List.map_append, h.ids, List.length_append, List.length_singleton,
      List.range_succ, List.map_append, List.map_singleton, List.map_singleton, hp, h.next]

/-! ## Accounts -/

/-- An answer to a request goes to the connection that asked, and an answer
with a result says what the result with the request's id says. -/
structure Delivered (st : LoginRuntime) : Prop where
  answered : ∀ a ∈ st.answers, ∀ p, a.cause.request = some p →
    p ∈ st.issued ∧ a.question = p.question
  results : ∀ a ∈ st.answers, ∀ p r, a.cause = .result p r →
    r.key = p.key ∧ a.reply = clientReply r.reply

/-- The questions asked so far are those that a handler has yet to make a
request of, or to keep, those that wait for a result, those whose result is
being handled, and those that have been answered; every request is in one of
the last four places. -/
structure Accounted (st : LoginRuntime) (asked : List Question) : Prop where
  questions : asked.Perm (st.opened.map (·.question) ++ (st.drawn.map (·.pending.question) ++
    (st.pending.map (·.question) ++ (st.taken.map (·.1.question) ++
      st.answers.map (·.question)))))
  requests : st.issued.Perm (st.drawn.map (·.pending) ++ (st.pending ++ (st.taken.map (·.1) ++
    st.answers.filterMap (·.cause.request))))

/-- A handler that takes back its request finds it. -/
def takesBackOwn (st : LoginRuntime) : Event → Bool
  | .takeBack i => st.unsent[i]?.all fun w => decide (w.pending ∈ st.pending)
  | _ => true

/-- Where the requests are; those in `ended` came to an end. -/
def Places (st : LoginRuntime) (ended : List PendingRequest) : Prop :=
  st.issued.Perm (st.drawn.map (·.pending) ++ (st.pending ++ (st.taken.map (·.1) ++ ended)))

/-- The requests that were answered. -/
def answeredRequests (st : LoginRuntime) : List PendingRequest :=
  st.answers.filterMap (·.cause.request)

/-- The answers that refuse a question. -/
def refusals (st : LoginRuntime) : List ClientAnswer :=
  st.answers.filter fun a => a.cause.request = none

/-- What every run keeps. Every request has an end at most, the handlers know
what they answer, and a question is with its handler, refused, or a request. -/
structure Placed (st : LoginRuntime) (asked : List Question) : Prop extends Delivered st where
  numbered : Numbered st
  asks : asked.Perm (st.opened.map (·.question) ++
    (st.issued.map (·.question) ++ st.refusals.map (·.question)))
  places : ∃ ended, st.Places ended
  opened : ∀ o ∈ st.opened, o.unsent.kind = o.ask.kind
  handlers : ∀ w ∈ st.drawn ++ (st.kept ++ st.unsent),
    w.pending ∈ st.issued ∧ w.unsent.kind = w.pending.ask.kind
  taken : ∀ t ∈ st.taken, t.2.key = t.1.key

/-- At the start nobody has asked. -/
theorem placed_init : Placed {} [] where
  answered := by simp
  results := by simp
  numbered := numbered_init
  asks := .refl _
  places := ⟨[], .refl _⟩
  opened := by simp
  handlers := by simp
  taken := by simp

/-- The connection that a pending request is for is told of its end. -/
def answerOf (p : PendingRequest) (reply : ClientReply) (cause : AnswerCause) : ClientAnswer :=
  { sid := p.clientSid, serial := p.clientSerial, useProtobuf := p.useProtobuf, reply, cause }

/-- Answering a list of requests appends their answers in order. -/
theorem foldl_answerTo (st : LoginRuntime) (ps : List PendingRequest) (reply : ClientReply)
    (cause : PendingRequest → AnswerCause) :
    ps.foldl (fun st p => st.answerTo p reply (cause p)) st =
      { st with answers := st.answers ++ ps.map fun p => answerOf p reply (cause p) } := by
  induction ps generalizing st with
  | nil => simp
  | cons p ps ih =>
      rw [List.foldl_cons, ih]
      simp [answerTo, answer, answerOf]

theorem question_answerOf {p : PendingRequest} {reply : ClientReply} (cause : AnswerCause)
    (h : reply.kind = p.ask.kind) : (answerOf p reply cause).question = p.question := by
  simp [answerOf, ClientAnswer.question, PendingRequest.question, h]

/-- The reply to a client is of the kind that was asked. -/
@[simp] theorem kind_clientReply (r : AccountReply) : (clientReply r).kind = r.kind := by
  cases r with
  | login ok accountId loginSession worldToken failReason =>
      simp only [clientReply]
      split
      next => rfl
      next => split <;> rfl
  | worldList => rfl
  | worldSelect => rfl
  | characterList => rfl
  | characterSelect => rfl

/-- Answers are refusals, or to requests. -/
theorem perm_questions_answers {answers : List ClientAnswer}
    (h : ∀ a ∈ answers, ∀ p, a.cause.request = some p → a.question = p.question) :
    (answers.map (·.question)).Perm
      ((answers.filterMap (·.cause.request)).map (·.question) ++
        (answers.filter fun a => a.cause.request = none).map (·.question)) := by
  induction answers with
  | nil => exact .refl _
  | cons a answers ih =>
      have hrest := ih fun b hb => h b (List.mem_cons_of_mem a hb)
      cases ha : a.cause.request with
      | none => simpa [ha] using (hrest.cons a.question).trans List.perm_middle.symm
      | some p =>
          have hquestion := h a List.mem_cons_self p ha
          simpa [ha, hquestion] using hrest

section

variable {st : LoginRuntime} {asked : List Question} {ended : List PendingRequest}

/-! ### Ids tell requests apart -/

theorem Placed.eq_of_key (h : Placed st asked) (hlt : st.issued.length < 2 ^ 64)
    {p q : PendingRequest} (hp : p ∈ st.issued) (hq : q ∈ st.issued) (hkey : p.key = q.key) :
    p = q :=
  List.inj_on_of_nodup_map (h.numbered.nodup hlt) hp hq (congrArg RequestKey.requestId hkey)

theorem Places.mem_issued (h : st.Places ended) {p : PendingRequest} (hp : p ∈ st.pending) :
    p ∈ st.issued :=
  h.mem_iff.mpr (List.mem_append_right _ (List.mem_append_left _ hp))

theorem Places.taken_mem_issued (h : st.Places ended) {t : PendingRequest × AccountResult}
    (ht : t ∈ st.taken) : t.1 ∈ st.issued :=
  h.mem_iff.mpr (List.mem_append_right _ (List.mem_append_right _
    (List.mem_append_left _ (List.mem_map_of_mem ht))))

/-- The pending requests have distinct keys. -/
theorem Places.nodup_key (h : st.Places ended) (hids : (st.issued.map (·.requestId)).Nodup) :
    (st.pending.map (·.key)).Nodup := by
  have hplaces := (h.map (·.requestId)).nodup_iff.mp hids
  rw [List.map_append, List.map_append] at hplaces
  have hpending := (List.nodup_append.mp (List.nodup_append.mp hplaces).2.1).1
  refine List.Nodup.of_map RequestKey.requestId ?_
  rwa [List.map_map]

/-- A request that a handler has yet to keep has a key that no pending one
has. -/
theorem Places.fresh (h : st.Places ended) (hids : (st.issued.map (·.requestId)).Nodup)
    {w : IssuedRequest} (hw : w ∈ st.drawn) : ∀ b ∈ st.pending, b.key ≠ w.pending.key := by
  intro b hb heq
  have hplaces := (h.map (·.requestId)).nodup_iff.mp hids
  rw [List.map_append, List.nodup_append] at hplaces
  have hdrawn : w.pending.requestId ∈ (st.drawn.map (·.pending)).map (·.requestId) :=
    List.mem_map_of_mem (List.mem_map_of_mem hw)
  have hother := List.mem_map_of_mem (f := (·.requestId))
    (List.mem_append_left (st.taken.map (·.1) ++ ended) hb)
  exact hplaces.2.2 _ hdrawn _ hother (congrArg RequestKey.requestId heq).symm

/-! ### Moves of a request -/

/-- A request is made. -/
theorem Places.draw (h : st.Places ended) (o : OpenIssue) (opened : List OpenIssue)
    (traceId : UInt64) (now : Nat) : ({ st with opened }.draw o traceId now).Places ended := by
  have hold := List.perm_iff_count.mp h
  refine List.perm_iff_count.mpr fun q => ?_
  have hcount := hold q
  simp only [LoginRuntime.draw, List.map_append, List.map_cons, List.map_nil, List.count_append]
    at hcount ⊢
  omega

/-- A request is kept. -/
theorem Places.keep (h : st.Places ended) (hids : (st.issued.map (·.requestId)).Nodup)
    {w : IssuedRequest} {drawn : List IssuedRequest} (hdrawn : st.drawn.Perm (w :: drawn)) :
    ({ st with drawn }.keep w).Places ended := by
  have hfresh := h.fresh hids (hdrawn.mem_iff.mpr List.mem_cons_self)
  have hperm := List.perm_iff_count.mp (hdrawn.map (·.pending))
  have hold := List.perm_iff_count.mp h
  unfold LoginRuntime.keep
  dsimp only
  rw [upsertBy_of_forall_ne hfresh]
  refine List.perm_iff_count.mpr fun q => ?_
  have hcount := hperm q
  have hcount' := hold q
  simp only [List.map_cons, List.count_append, List.count_cons, List.count_nil]
    at hcount hcount' ⊢
  omega

/-- A request is taken with its result. -/
theorem Places.take (h : st.Places ended) {p : PendingRequest} {r : AccountResult}
    {pending : List PendingRequest} (hpending : st.pending.Perm (p :: pending)) :
    Places { st with pending, taken := st.taken ++ [(p, r)] } ended := by
  have hperm := List.perm_iff_count.mp hpending
  have hold := List.perm_iff_count.mp h
  refine List.perm_iff_count.mpr fun q => ?_
  have hcount := hperm q
  have hcount' := hold q
  simp only [List.map_append, List.map_cons, List.map_nil, List.count_append, List.count_cons,
    List.count_nil] at hcount hcount' ⊢
  omega

/-- Requests come to their end. -/
theorem Places.finish (h : st.Places ended) {st' : LoginRuntime} {ps : List PendingRequest}
    (hissued : st'.issued = st.issued) (hdrawn : st'.drawn = st.drawn)
    (hplaces : (st.pending ++ st.taken.map (·.1)).Perm
      (ps ++ (st'.pending ++ st'.taken.map (·.1)))) : st'.Places (ended ++ ps) := by
  have hperm := List.perm_iff_count.mp hplaces
  have hold := List.perm_iff_count.mp h
  unfold Places
  rw [hissued, hdrawn]
  refine List.perm_iff_count.mpr fun q => ?_
  have hcount := hperm q
  have hcount' := hold q
  simp only [List.count_append] at hcount hcount' ⊢
  omega

/-- What is left when a handler erases its request. -/
theorem Placed.pending_takeBack (h : Placed st asked) (hlt : st.issued.length < 2 ^ 64)
    {w : IssuedRequest} (hw : w ∈ st.unsent) :
    (w.pending ∈ st.pending →
      st.pending.Perm (w.pending :: st.pending.filter (·.key ≠ w.pending.key))) ∧
    (w.pending ∉ st.pending → st.pending.filter (·.key ≠ w.pending.key) = st.pending) := by
  obtain ⟨ended, hplaces⟩ := h.places
  have hissued := (h.handlers w (List.mem_append_right _ (List.mem_append_right _ hw))).1
  constructor
  · intro hmem
    have hkeys := hplaces.nodup_key (h.numbered.nodup hlt)
    exact perm_cons_filter_of_find? hkeys (find?_eq_some_of_mem hkeys hmem)
  · intro hgone
    refine List.filter_eq_self.mpr fun b hb => decide_eq_true fun hkey => hgone ?_
    rwa [← h.eq_of_key hlt (hplaces.mem_issued hb) hissued hkey]

/-! ### One step -/

@[simp] theorem answeredRequests_refuse (sid serial : UInt32) (useProtobuf : Bool)
    (reply : ClientReply) :
    (st.answer sid serial useProtobuf reply .refused).answeredRequests = st.answeredRequests := by
  have hnone : AnswerCause.request .refused = none := rfl
  simp [answer, answeredRequests, hnone]

/-- A request that is taken back comes to its end, if it was pending still. -/
theorem places_takeBack (h : Placed st asked) (hlt : st.issued.length < 2 ^ 64)
    (hplaces : st.Places ended) (i : Nat) :
    ∃ ps, (st.step (.takeBack i)).Places (ended ++ ps) ∧
      (st.takesBackOwn (.takeBack i) = true →
        (st.step (.takeBack i)).answeredRequests = st.answeredRequests ++ ps) := by
  simp only [LoginRuntime.step]
  cases hw : st.unsent[i]? with
  | none => exact ⟨[], by rwa [List.append_nil], fun _ => by rw [List.append_nil]⟩
  | some w =>
      obtain ⟨hown, hgone⟩ := h.pending_takeBack hlt (List.mem_of_getElem? hw)
      by_cases hmem : w.pending ∈ st.pending
      · refine ⟨[w.pending], hplaces.finish rfl rfl ?_, fun _ => by
          simp [takeBack, answerTo, answer, answeredRequests, AnswerCause.request]⟩
        exact (hown hmem).append_right _
      · -- It was answered before: nothing comes to its end.
        refine ⟨[], ?_, fun hfinds => ?_⟩
        · unfold Places
          simp only [takeBack, answerTo, answer, hgone hmem, List.append_nil]
          exact hplaces
        · simp [takesBackOwn, hw, hmem] at hfinds

/-- The requests that the sweep drops come to their end. -/
theorem places_expire (hplaces : st.Places ended) (timeout now : Nat) :
    ∃ ps, (st.step (.expire timeout now)).Places (ended ++ ps) ∧
      (st.step (.expire timeout now)).answeredRequests = st.answeredRequests ++ ps := by
  simp only [LoginRuntime.step, expirePendingLoginRequests, foldl_answerTo]
  refine ⟨st.pending.filter fun p => p.ask.kind = .login ∧ p.issuedAt + timeout ≤ now,
    hplaces.finish rfl rfl ?_, ?_⟩
  · have hsplit := (List.filter_append_perm (fun p : PendingRequest =>
      decide (p.ask.kind = .login ∧ p.issuedAt + timeout ≤ now)) st.pending).symm
    rw [← List.append_assoc]
    exact List.Perm.append_right _ (by simpa only [decide_not] using hsplit)
  · simp only [answeredRequests, List.filterMap_append, List.filterMap_map]
    congr 1
    exact List.filterMap_some

/-- **What a step does to the requests**: some come to their end, and, unless
a handler takes back a request that is gone, it is those that are answered. -/
theorem places_step (h : Placed st asked) (hlt : st.issued.length < 2 ^ 64)
    (hplaces : st.Places ended) (e : Event) :
    ∃ ps, (st.step e).Places (ended ++ ps) ∧
      (st.takesBackOwn e = true → (st.step e).answeredRequests = st.answeredRequests ++ ps) := by
  have hids := h.numbered.nodup hlt
  have hsame : ∀ {st' : LoginRuntime}, st'.Places ended →
      st'.answeredRequests = st.answeredRequests →
      ∃ ps, st'.Places (ended ++ ps) ∧
        (st.takesBackOwn e = true → st'.answeredRequests = st.answeredRequests ++ ps) := by
    intro st' hst' hanswers
    exact ⟨[], by rwa [List.append_nil], fun _ => by rw [hanswers, List.append_nil]⟩
  cases e with
  | dataAnalysis sid serial useProtobuf ask =>
      simp only [LoginRuntime.step]
      obtain ⟨o, heq, -⟩ | ⟨reply, heq, -⟩ := st.dataAnalysis_cases sid serial useProtobuf ask
      · rw [heq]
        exact hsame hplaces rfl
      · rw [heq]
        exact hsame hplaces (answeredRequests_refuse ..)
  | draw i traceId now =>
      simp only [LoginRuntime.step]
      split
      next => exact hsame hplaces rfl
      next o ho => exact hsame (hplaces.draw o _ traceId now) rfl
  | keep i =>
      simp only [LoginRuntime.step]
      split
      next => exact hsame hplaces rfl
      next w hw => exact hsame (hplaces.keep hids (perm_cons_eraseIdx hw)) rfl
  | sendRequest i sendOk =>
      simp only [LoginRuntime.step, LoginRuntime.sendRequest]
      split
      next => exact hsame hplaces rfl
      next w hw => split <;> exact hsame hplaces rfl
  | takeBack i => exact places_takeBack h hlt hplaces i
  | result r =>
      simp only [LoginRuntime.step, onResult]
      split
      next => exact hsame hplaces rfl
      next p hp =>
        exact hsame (hplaces.take (perm_cons_filter_of_find? (hplaces.nodup_key hids) hp)) rfl
  | complete i =>
      simp only [LoginRuntime.step]
      split
      next => exact hsame hplaces rfl
      next p r ht =>
        refine ⟨[p], hplaces.finish rfl rfl ?_, fun _ => by
          simp [complete, answerTo, answer, answeredRequests, AnswerCause.request]⟩
        exact (((perm_cons_eraseIdx ht).map (·.1)).append_left _).trans List.perm_middle
  | expire timeout now =>
      obtain ⟨ps, hps, hanswers⟩ := places_expire hplaces timeout now
      exact ⟨ps, hps, fun _ => hanswers⟩
  | accountRegistered sid serial => exact hsame hplaces rfl
  | accountDisconnected sid serial =>
      simp only [LoginRuntime.step, onAccountDisconnected]
      split <;> exact hsame hplaces rfl
  | worldEnterSuccessNotify accountId charId loginSession worldToken => exact hsame hplaces rfl
  | removeLoginSession sid serial => exact hsame hplaces rfl

/-- The answer is to a request, and right. -/
def AnswersRequest (st : LoginRuntime) (a : ClientAnswer) : Prop :=
  ∃ p ∈ st.issued, a.cause.request = some p ∧ a.question = p.question ∧
    ∀ q r, a.cause = .result q r → r.key = q.key ∧ a.reply = clientReply r.reply

/-- A step that makes no request and refuses none. -/
theorem Placed.of_step (h : Placed st asked) {st' : LoginRuntime}
    (hopened : st'.opened = st.opened) (hissued : st'.issued = st.issued)
    (hnext : st'.nextLoginRequestId = st.nextLoginRequestId) (hplaces : ∃ ended, st'.Places ended)
    (hhandlers : ∀ w ∈ st'.drawn ++ (st'.kept ++ st'.unsent),
      w ∈ st.drawn ++ (st.kept ++ st.unsent))
    (htaken : ∀ t ∈ st'.taken, t ∈ st.taken ∨ t.2.key = t.1.key)
    (hanswers : ∃ told, st'.answers = st.answers ++ told ∧ ∀ a ∈ told, st.AnswersRequest a) :
    Placed st' asked := by
  obtain ⟨told, hanswers, htold⟩ := hanswers
  refine ⟨⟨?_, ?_⟩, ⟨?_, ?_⟩, ?_, hplaces, ?_, ?_, fun t ht => (htaken t ht).elim (h.taken t) id⟩
  · rw [hanswers, hissued]
    intro a ha p hp
    rcases List.mem_append.mp ha with hold | hnew
    · exact h.answered a hold p hp
    · obtain ⟨q, hq, hcause, hquestion, -⟩ := htold a hnew
      obtain rfl : q = p := Option.some.inj (hcause.symm.trans hp)
      exact ⟨hq, hquestion⟩
  · rw [hanswers]
    intro a ha p r hcause
    rcases List.mem_append.mp ha with hold | hnew
    · exact h.results a hold p r hcause
    · obtain ⟨-, -, -, -, hresult⟩ := htold a hnew
      exact hresult p r hcause
  · rw [hnext, hissued]
    exact h.numbered.next
  · rw [hissued]
    exact h.numbered.ids
  · have hnone : told.filter (fun a => decide (a.cause.request = none)) = [] := by
      rw [List.filter_eq_nil_iff]
      intro a ha
      obtain ⟨q, -, hcause, -⟩ := htold a ha
      simp [hcause]
    have hrefusals : st'.refusals = st.refusals := by
      rw [refusals, hanswers, List.filter_append, hnone, List.append_nil]
      rfl
    rw [hopened, hissued, hrefusals]
    exact h.asks
  · rw [hopened]
    exact h.opened
  · rw [hissued]
    exact fun w hw => h.handlers w (hhandlers w hw)

/-- A handler goes on with what it has read. -/
theorem Placed.openIssue (h : Placed st asked) {o : OpenIssue} (ho : o.unsent.kind = o.ask.kind) :
    Placed (st.openIssue o) (asked ++ [o.question]) where
  answered := h.answered
  results := h.results
  numbered := ⟨h.numbered.next, h.numbered.ids⟩
  asks := by
    have hold := List.perm_iff_count.mp h.asks
    refine List.perm_iff_count.mpr fun q => ?_
    have hcount := hold q
    simp only [LoginRuntime.openIssue, refusals, List.map_append, List.map_cons, List.map_nil,
      List.count_append] at hcount ⊢
    omega
  places := h.places
  opened := by
    intro o' ho'
    rcases List.mem_append.mp ho' with hold | hnew
    · exact h.opened o' hold
    · rwa [List.mem_singleton.mp hnew]
  handlers := h.handlers
  taken := h.taken

/-- A client is refused. -/
theorem Placed.refuse (h : Placed st asked) (sid serial : UInt32) (useProtobuf : Bool)
    (reply : ClientReply) :
    Placed (st.answer sid serial useProtobuf reply .refused)
      (asked ++ [⟨sid, serial, useProtobuf, reply.kind⟩]) where
  answered := by
    intro a ha p hp
    rcases List.mem_append.mp ha with hold | hnew
    · exact h.answered a hold p hp
    · rw [List.mem_singleton.mp hnew] at hp
      cases hp
  results := by
    intro a ha p r hp
    rcases List.mem_append.mp ha with hold | hnew
    · exact h.results a hold p r hp
    · rw [List.mem_singleton.mp hnew] at hp
      cases hp
  numbered := ⟨h.numbered.next, h.numbered.ids⟩
  asks := by
    have hnone : AnswerCause.request .refused = none := rfl
    simp only [answer, refusals, List.filter_append, List.map_append, hnone, decide_true,
      List.filter_cons_of_pos, List.filter_nil, List.map_singleton, ← List.append_assoc]
    refine List.Perm.append_right _ ?_
    simpa only [refusals, List.append_assoc] using h.asks
  places := h.places
  opened := h.opened
  handlers := h.handlers
  taken := h.taken

/-- A request is made of a question. -/
theorem Placed.draw (h : Placed st asked) {o : OpenIssue} {opened : List OpenIssue}
    (hopened : st.opened.Perm (o :: opened)) (traceId : UInt64) (now : Nat) :
    Placed ({ st with opened }.draw o traceId now) asked where
  answered a ha p hp :=
    ⟨List.mem_append_left _ (h.answered a ha p hp).1, (h.answered a ha p hp).2⟩
  results := h.results
  numbered := h.numbered.issue rfl rfl rfl
  asks := by
    have hquestion : (st.newRequest o traceId now).question = o.question := rfl
    have hperm := List.perm_iff_count.mp (hopened.map (·.question))
    have hold := List.perm_iff_count.mp h.asks
    refine List.perm_iff_count.mpr fun q => ?_
    have hcount := hperm q
    have hcount' := hold q
    simp only [LoginRuntime.draw, newRequest, refusals, List.map_append, List.map_cons,
      List.map_nil, List.count_append, List.count_cons, List.count_nil]
      at hcount hcount' hquestion ⊢
    rw [hquestion]
    omega
  places := h.places.imp fun _ hplaces => hplaces.draw o opened traceId now
  opened o' ho' := h.opened o' (hopened.mem_iff.mpr (List.mem_cons_of_mem o ho'))
  handlers := by
    intro w hw
    simp only [LoginRuntime.draw, List.append_assoc] at hw
    have hkind := h.opened o (hopened.mem_iff.mpr List.mem_cons_self)
    have hold : w ∈ st.drawn ++ (st.kept ++ st.unsent) →
        w.pending ∈ st.issued ++ [st.newRequest o traceId now] ∧
          w.unsent.kind = w.pending.ask.kind := fun hmem =>
      ⟨List.mem_append_left _ (h.handlers w hmem).1, (h.handlers w hmem).2⟩
    rcases List.mem_append.mp hw with hdrawn | hrest
    · exact hold (List.mem_append_left _ hdrawn)
    · rcases List.mem_append.mp hrest with hnew | hlater
      · rw [List.mem_singleton.mp hnew]
        exact ⟨List.mem_append_right _ (List.mem_singleton_self _), hkind⟩
      · exact hold (List.mem_append_right _ hlater)
  taken := h.taken

/-- A question of a client is answered at once or gets a request. -/
theorem Placed.dataAnalysis (h : Placed st asked) (sid serial : UInt32) (useProtobuf : Bool)
    (ask : ClientAsk) :
    Placed (st.dataAnalysis sid serial useProtobuf ask)
      (asked ++ [⟨sid, serial, useProtobuf, ask.kind⟩]) := by
  obtain ⟨o, heq, hquestion, hreads⟩ | ⟨reply, heq, hkind⟩ :=
    st.dataAnalysis_cases sid serial useProtobuf ask
  · rw [heq, ← hquestion]
    exact h.openIssue hreads.unsent
  · rw [heq, ← hkind]
    exact h.refuse sid serial useProtobuf reply

/-- The answer to a request that was issued. -/
theorem answersRequest_answerOf {p : PendingRequest} (hp : p ∈ st.issued) {reply : ClientReply}
    {cause : AnswerCause} (hcause : cause.request = some p) (hkind : reply.kind = p.ask.kind)
    (hresult : ∀ q r, cause = .result q r → r.key = q.key ∧ reply = clientReply r.reply) :
    st.AnswersRequest (answerOf p reply cause) :=
  ⟨p, hp, hcause, question_answerOf cause hkind, hresult⟩

/-- A handler keeps its request. -/
theorem Placed.keep (h : Placed st asked) {i : Nat}
    (hnext : ∃ ended, (st.step (.keep i)).Places ended) : Placed (st.step (.keep i)) asked := by
  simp only [LoginRuntime.step] at hnext ⊢
  cases hw : st.drawn[i]? with
  | none => exact h
  | some w =>
      rw [hw] at hnext
      refine h.of_step rfl rfl rfl hnext (fun w' hw' => ?_) (fun _ => .inl)
        ⟨[], (List.append_nil _).symm, by simp⟩
      have hperm := perm_cons_eraseIdx hw
      simp only [LoginRuntime.keep, List.mem_append, hperm.mem_iff, List.mem_cons] at hw' ⊢
      tauto

/-- A handler that has kept its request sends it, or is left to take it back. -/
theorem Placed.sendRequest (h : Placed st asked) {i : Nat} {sendOk : Bool}
    (hnext : ∃ ended, (st.step (.sendRequest i sendOk)).Places ended) :
    Placed (st.step (.sendRequest i sendOk)) asked := by
  have hnone : ∃ told, st.answers = st.answers ++ told ∧ ∀ a ∈ told, st.AnswersRequest a :=
    ⟨[], (List.append_nil _).symm, by simp⟩
  simp only [LoginRuntime.step] at hnext ⊢
  cases hw : st.kept[i]? with
  | none => exact h
  | some w =>
      rw [hw] at hnext
      have hperm := perm_cons_eraseIdx hw
      unfold LoginRuntime.sendRequest at hnext ⊢
      split_ifs at hnext ⊢
      · refine h.of_step rfl rfl rfl hnext (fun w' hw' => ?_) (fun _ => .inl) hnone
        simp only [List.mem_append, hperm.mem_iff, List.mem_cons] at hw' ⊢
        tauto
      · refine h.of_step rfl rfl rfl hnext (fun w' hw' => ?_) (fun _ => .inl) hnone
        simp only [List.mem_append, hperm.mem_iff, List.mem_cons] at hw' ⊢
        tauto

/-- A handler whose send failed takes its request back and answers it. -/
theorem Placed.takeBack (h : Placed st asked) {i : Nat}
    (hnext : ∃ ended, (st.step (.takeBack i)).Places ended) :
    Placed (st.step (.takeBack i)) asked := by
  simp only [LoginRuntime.step] at hnext ⊢
  cases hw : st.unsent[i]? with
  | none => exact h
  | some w =>
      rw [hw] at hnext
      have hmem := List.mem_of_getElem? hw
      obtain ⟨hissued, hkind⟩ :=
        h.handlers w (List.mem_append_right _ (List.mem_append_right _ hmem))
      refine h.of_step rfl rfl rfl hnext (fun w' hw' => ?_) (fun _ => .inl)
        ⟨[answerOf w.pending w.unsent (.unsent w.pending)], rfl, ?_⟩
      · have hsub := List.mem_of_mem_eraseIdx (l := st.unsent) (i := i) (a := w')
        simp only [LoginRuntime.takeBack, answerTo, answer, List.mem_append] at hw' ⊢
        tauto
      · simpa using answersRequest_answerOf hissued rfl hkind (fun q r hq => by cases hq)

/-- A result takes the request out that has its key. -/
theorem Placed.result (h : Placed st asked) {r : AccountResult}
    (hnext : ∃ ended, (st.step (.result r)).Places ended) : Placed (st.step (.result r)) asked := by
  simp only [LoginRuntime.step, onResult] at hnext ⊢
  cases hp : st.pending.find? (·.key == r.key) with
  | none => exact h
  | some p =>
      rw [hp] at hnext
      refine h.of_step rfl rfl rfl hnext (fun _ => id) (fun t ht => ?_)
        ⟨[], (List.append_nil _).symm, by simp⟩
      rcases List.mem_append.mp ht with hold | hnew
      · exact .inl hold
      · have hfound := List.find?_some hp
        rw [List.mem_singleton.mp hnew]
        exact .inr (beq_iff_eq.mp hfound).symm

/-- The request that was taken out is answered with its result. -/
theorem Placed.complete (h : Placed st asked) {i : Nat}
    (hnext : ∃ ended, (st.step (.complete i)).Places ended) :
    Placed (st.step (.complete i)) asked := by
  obtain ⟨ended, hplaces⟩ := h.places
  simp only [LoginRuntime.step] at hnext ⊢
  cases ht : st.taken[i]? with
  | none => exact h
  | some t =>
      obtain ⟨p, r⟩ := t
      rw [ht] at hnext
      have hmem := List.mem_of_getElem? ht
      have hkey : r.key = p.key := h.taken (p, r) hmem
      have hkind : r.reply.kind = p.ask.kind := congrArg RequestKey.kind hkey
      refine h.of_step rfl rfl rfl hnext (fun _ => id)
        (fun t ht => .inl (List.mem_of_mem_eraseIdx ht))
        ⟨[answerOf p (clientReply r.reply) (.result p r)], rfl, ?_⟩
      simpa using answersRequest_answerOf (hplaces.taken_mem_issued hmem) rfl
        ((kind_clientReply r.reply).trans hkind)
        (fun q r' hq => by cases hq; exact ⟨hkey, rfl⟩)

/-- The sweep answers the requests that it drops. -/
theorem Placed.expire (h : Placed st asked) {timeout now : Nat}
    (hnext : ∃ ended, (st.step (.expire timeout now)).Places ended) :
    Placed (st.step (.expire timeout now)) asked := by
  obtain ⟨ended, hplaces⟩ := h.places
  simp only [LoginRuntime.step, expirePendingLoginRequests, foldl_answerTo] at hnext ⊢
  refine h.of_step rfl rfl rfl hnext (fun _ => id) (fun _ => .inl) ⟨_, rfl, fun a ha => ?_⟩
  obtain ⟨p, hp, rfl⟩ := List.mem_map.mp ha
  obtain ⟨hmem, hexpired⟩ := List.mem_filter.mp hp
  exact answersRequest_answerOf (hplaces.mem_issued hmem) rfl
    (of_decide_eq_true hexpired).1.symm (fun q r hq => by cases hq)

/-- The step lemma: every question is with its handler, refused, or a request. -/
theorem Placed.step (h : Placed st asked) (hlt : st.issued.length < 2 ^ 64) (e : Event) :
    Placed (st.step e) (asked ++ questions st e) := by
  have hnext : ∃ ended, (st.step e).Places ended := by
    obtain ⟨ended, hplaces⟩ := h.places
    obtain ⟨ps, hps, -⟩ := places_step h hlt hplaces e
    exact ⟨_, hps⟩
  have hnone : ∃ told, st.answers = st.answers ++ told ∧ ∀ a ∈ told, st.AnswersRequest a :=
    ⟨[], (List.append_nil _).symm, by simp⟩
  cases e with
  | dataAnalysis sid serial useProtobuf ask => exact h.dataAnalysis sid serial useProtobuf ask
  | draw i traceId now =>
      simp only [LoginRuntime.step, questions, List.append_nil]
      split
      next => exact h
      next o ho => exact h.draw (perm_cons_eraseIdx ho) traceId now
  | keep i => simpa only [questions, List.append_nil] using h.keep hnext
  | sendRequest i sendOk => simpa only [questions, List.append_nil] using h.sendRequest hnext
  | takeBack i => simpa only [questions, List.append_nil] using h.takeBack hnext
  | result r => simpa only [questions, List.append_nil] using h.result hnext
  | complete i => simpa only [questions, List.append_nil] using h.complete hnext
  | expire timeout now => simpa only [questions, List.append_nil] using h.expire hnext
  | accountRegistered sid serial =>
      simp only [LoginRuntime.step, questions, List.append_nil] at hnext ⊢
      exact h.of_step rfl rfl rfl hnext (fun _ => id) (fun _ => .inl) hnone
  | accountDisconnected sid serial =>
      simp only [LoginRuntime.step, questions, List.append_nil, onAccountDisconnected] at hnext ⊢
      split_ifs at hnext ⊢
      · exact h
      · exact h.of_step rfl rfl rfl hnext (fun _ => id) (fun _ => .inl) hnone
  | worldEnterSuccessNotify accountId charId loginSession worldToken =>
      simp only [LoginRuntime.step, questions, List.append_nil] at hnext ⊢
      exact h.of_step rfl rfl rfl hnext (fun _ => id) (fun _ => .inl) hnone
  | removeLoginSession sid serial =>
      simp only [LoginRuntime.step, questions, List.append_nil] at hnext ⊢
      exact h.of_step rfl rfl rfl hnext (fun _ => id) (fun _ => .inl) hnone

/-- What has been issued stays issued. -/
theorem issued_prefix_step (st : LoginRuntime) (e : Event) : st.issued <+: (st.step e).issued := by
  cases e with
  | dataAnalysis sid serial useProtobuf ask =>
      simp only [LoginRuntime.step]
      obtain ⟨o, heq, -⟩ | ⟨reply, heq, -⟩ := st.dataAnalysis_cases sid serial useProtobuf ask
      · rw [heq]
        exact List.prefix_rfl
      · rw [heq]
        exact List.prefix_rfl
  | draw i traceId now =>
      simp only [LoginRuntime.step]
      split
      next => exact List.prefix_rfl
      next => exact List.prefix_append _ _
  | keep i =>
      simp only [LoginRuntime.step]
      split <;> exact List.prefix_rfl
  | sendRequest i sendOk =>
      simp only [LoginRuntime.step, LoginRuntime.sendRequest]
      split
      next => exact List.prefix_rfl
      next => split <;> exact List.prefix_rfl
  | takeBack i =>
      simp only [LoginRuntime.step]
      split <;> exact List.prefix_rfl
  | result r =>
      simp only [LoginRuntime.step, LoginRuntime.onResult]
      split <;> exact List.prefix_rfl
  | complete i =>
      simp only [LoginRuntime.step]
      split <;> exact List.prefix_rfl
  | expire timeout now =>
      simp only [LoginRuntime.step, expirePendingLoginRequests, foldl_answerTo]
      exact List.prefix_rfl
  | accountRegistered sid serial => exact List.prefix_rfl
  | accountDisconnected sid serial =>
      simp only [LoginRuntime.step, onAccountDisconnected]
      split <;> exact List.prefix_rfl
  | worldEnterSuccessNotify accountId charId loginSession worldToken => exact List.prefix_rfl
  | removeLoginSession sid serial => exact List.prefix_rfl

theorem length_issued_le (st : LoginRuntime) (e : Event) :
    st.issued.length ≤ (st.step e).issued.length :=
  (issued_prefix_step st e).length_le

/-! ### The accounts -/

/-- The accounts are kept when it is the requests answered that have ended. -/
theorem Placed.accounted_iff (h : Placed st asked) :
    Accounted st asked ↔ st.Places st.answeredRequests := by
  refine ⟨Accounted.requests, fun hplaces => ⟨?_, hplaces⟩⟩
  have hanswers := perm_questions_answers fun a ha p hp => (h.answered a ha p hp).2
  have hissued := hplaces.map (·.question)
  simp only [List.map_append, List.map_map, answeredRequests] at hissued hanswers
  have hasks := h.asks
  rw [List.perm_iff_count] at hasks hissued hanswers ⊢
  intro q
  have hcount := hasks q
  have hcount' := hissued q
  have hcount'' := hanswers q
  simp only [List.count_append, refusals, Function.comp_def] at hcount hcount' hcount'' ⊢
  omega

/-- A handler that takes back a request that is gone answers once too often. -/
theorem takesBackOwn_of_places (h : Placed st asked) (hlt : st.issued.length < 2 ^ 64)
    (hplaces : st.Places st.answeredRequests) {e : Event}
    (hnext : (st.step e).Places (st.step e).answeredRequests) : st.takesBackOwn e = true := by
  cases e with
  | takeBack i =>
      simp only [LoginRuntime.step, takesBackOwn] at hnext ⊢
      cases hw : st.unsent[i]? with
      | none => rfl
      | some w =>
          rw [hw] at hnext
          by_contra hgone
          have hkept := (h.pending_takeBack hlt (List.mem_of_getElem? hw)).2 (by simpa using hgone)
          have hlength := hplaces.length_eq
          have hlength' := hnext.length_eq
          simp only [takeBack, answerTo, answer, hkept, answeredRequests, List.filterMap_append,
            List.length_append] at hlength hlength'
          rw [hlength] at hlength'
          simp [AnswerCause.request] at hlength'
  | _ => rfl

/-- **One step of the accounts**: they are kept exactly if no handler takes
back a request that is gone. -/
theorem accounted_step_iff (h : Placed st asked) (hlt : st.issued.length < 2 ^ 64)
    (hacc : Accounted st asked) (e : Event) :
    Accounted (st.step e) (asked ++ questions st e) ↔ st.takesBackOwn e = true := by
  have hplaces := h.accounted_iff.mp hacc
  rw [(h.step hlt e).accounted_iff]
  refine ⟨takesBackOwn_of_places h hlt hplaces, fun hown => ?_⟩
  obtain ⟨ps, hps, heq⟩ := places_step h hlt hplaces e
  rw [heq hown]
  exact hps

end

/-! ## Runs -/

/-- In every state of every run the requests are in their places, as long as
no id has been drawn twice. -/
theorem placed_run (es : List Event) :
    Always (recording step questions)
      (fun sh => sh.1.issued.length < 2 ^ 64 → Placed sh.1 sh.2) ({}, []) es := by
  refine always_of_forall_step (fun _ => placed_init) fun sh e h hlt => ?_
  have hbefore := (length_issued_le sh.1 e).trans_lt hlt
  exact (h hbefore).step hbefore e

theorem length_issued_le_run (st : LoginRuntime) (es : List Event) :
    st.issued.length ≤ (run step st es).issued.length :=
  run_induction (W := fun st' => st.issued.length ≤ st'.issued.length) (Nat.le_refl _)
    fun st' e h => h.trans (length_issued_le st' e)

/-- **Every question is accounted for**: as long as no id has been drawn
twice, every answer to a request goes where it was asked and says what its
result says, and, exactly if no handler takes back a request that is gone
already, each question asked is under way, waits for its result or has been
answered, once, in every state of the run. -/
theorem questions_accounted (es : List Event) (hlt : (run step {} es).issued.length < 2 ^ 64) :
    Always (recording step questions) (fun sh => Delivered sh.1) ({}, []) es ∧
      (Always (recording step questions) (fun sh => Accounted sh.1 sh.2) ({}, []) es ↔
        Along step (fun st e => st.takesBackOwn e = true) {} es) := by
  have hend : (run (recording step questions) ({}, []) es).1.issued.length < 2 ^ 64 := by
    rwa [fst_run_recording]
  have hback : ∀ (sh : LoginRuntime × List Question) (e : Event),
      (recording step questions sh e).1.issued.length < 2 ^ 64 → sh.1.issued.length < 2 ^ 64 :=
    fun sh e h => (length_issued_le sh.1 e).trans_lt h
  refine ⟨?_, ?_⟩
  · rw [always_iff_forall_part]
    intro p hp
    obtain ⟨rest, rfl⟩ := hp
    rw [run_append] at hend
    have hbound := run_backward
      (P := fun sh : LoginRuntime × List Question => sh.1.issued.length < 2 ^ 64)
      (fun sh e _ => hback sh e) hend
    exact (always_iff_forall_part.mp (placed_run p) p List.prefix_rfl hbound).toDelivered
  · rw [← along_recording questions []]
    refine always_iff_along_of_backward
      (R := fun sh : LoginRuntime × List Question => sh.1.issued.length < 2 ^ 64)
      (W := fun sh => sh.1.issued.length < 2 ^ 64 ∧ Placed sh.1 sh.2) hback hend
      ⟨by decide, placed_init⟩ (placed_init.accounted_iff.mpr (.refl _))
      (fun sh e h hnext => ⟨hnext, h.2.step h.1 e⟩) fun sh e h hacc => ?_
    exact accounted_step_iff h.2 h.1 hacc e

/-- A login that is sent to the account server. -/
def loginSent : List Event :=
  [.accountRegistered 1 1, .dataAnalysis 5 9 true (.loginRequest [97] [98]), .draw 0 7 100,
    .keep 0, .sendRequest 0 true]

/-- A login that could not be sent, and expired before it was taken back. -/
def loginUnsent : List Event :=
  [.accountRegistered 1 1, .dataAnalysis 5 9 true (.loginRequest [97] [98]), .draw 0 7 100,
    .keep 0, .sendRequest 0 false, .expire 600 700, .takeBack 0]

/-- A login that is sent is answered once, when it has expired; one that could
not be sent is answered when it has expired, and when it is taken back. -/
theorem questions_accounted_login :
    Always (recording step questions) (fun sh => Accounted sh.1 sh.2) ({}, [])
        (loginSent ++ [.expire 600 700]) ∧
      ¬ Always (recording step questions) (fun sh => Accounted sh.1 sh.2) ({}, []) loginUnsent :=
  ⟨(questions_accounted _ (by decide)).2.mpr (by decide),
    fun h => absurd ((questions_accounted _ (by decide)).2.mp h) (by decide)⟩

/-! ## What ends a request -/

/-- What ends a pending request that was sent. -/
def Ends (p : PendingRequest) : Event → Prop
  | .result r => r.key = p.key
  | .expire timeout now => p.ask.kind = .login ∧ p.issuedAt + timeout ≤ now
  | _ => False

/-- The handler of a request takes it back. -/
def GivesUp (st : LoginRuntime) (p : PendingRequest) : Event → Prop
  | .takeBack i => ∃ w, st.unsent[i]? = some w ∧ w.pending = p
  | _ => False

/-- No handler has a request, to keep it, to send it or to take it back. -/
def HandlerThrough (st : LoginRuntime) (p : PendingRequest) : Prop :=
  ∀ w ∈ st.drawn ++ (st.kept ++ st.unsent), w.pending ≠ p

instance (st : LoginRuntime) (p : PendingRequest) : Decidable (st.HandlerThrough p) :=
  inferInstanceAs (Decidable (∀ w ∈ st.drawn ++ (st.kept ++ st.unsent), w.pending ≠ p))

section

variable {st : LoginRuntime} {asked : List Question} {p : PendingRequest}

/-- A new request is none of those that were issued before. -/
theorem Placed.newRequest_ne (h : Placed st asked) (hp : p ∈ st.issued) (o : OpenIssue)
    (traceId : UInt64) (now : Nat) (hlt : st.issued.length + 1 < 2 ^ 64) :
    st.newRequest o traceId now ≠ p := by
  have hnext : Numbered { st with
      issued := st.issued ++ [st.newRequest o traceId now]
      nextLoginRequestId := st.nextLoginRequestId + 1 } := h.numbered.issue rfl rfl rfl
  have hids := hnext.nodup (by simpa using hlt)
  rw [List.map_append, List.nodup_append] at hids
  intro heq
  exact hids.2.2 _ (List.mem_map_of_mem hp) _ (List.mem_singleton_self _) (congrArg _ heq.symm)

/-- What is to be kept after a step was to be kept before, or is new. -/
theorem mem_drawn_step {w : IssuedRequest} {e : Event} (hw : w ∈ (st.step e).drawn) :
    w ∈ st.drawn ∨ ∃ o traceId now, w.pending = st.newRequest o traceId now ∧
      (st.step e).issued = st.issued ++ [w.pending] := by
  cases e with
  | dataAnalysis sid serial useProtobuf ask =>
      simp only [LoginRuntime.step] at hw
      obtain ⟨o, heq, -⟩ | ⟨reply, heq, -⟩ := st.dataAnalysis_cases sid serial useProtobuf ask
      · rw [heq] at hw
        exact .inl hw
      · rw [heq] at hw
        exact .inl hw
  | draw i traceId now =>
      simp only [LoginRuntime.step] at hw ⊢
      cases ho : st.opened[i]? with
      | none =>
          rw [ho] at hw
          exact .inl hw
      | some o =>
          rw [ho] at hw
          rcases List.mem_append.mp hw with hold | hnew
          · exact .inl hold
          · rw [List.mem_singleton.mp hnew]
            exact .inr ⟨o, traceId, now, rfl, rfl⟩
  | keep i =>
      simp only [LoginRuntime.step] at hw
      split at hw
      next => exact .inl hw
      next => exact .inl (List.mem_of_mem_eraseIdx hw)
  | sendRequest i sendOk =>
      simp only [LoginRuntime.step, LoginRuntime.sendRequest] at hw
      split at hw
      next => exact .inl hw
      next => split at hw <;> exact .inl hw
  | takeBack i =>
      simp only [LoginRuntime.step] at hw
      split at hw <;> exact .inl hw
  | result r =>
      simp only [LoginRuntime.step, onResult] at hw
      split at hw <;> exact .inl hw
  | complete i =>
      simp only [LoginRuntime.step] at hw
      split at hw <;> exact .inl hw
  | expire timeout now =>
      simp only [LoginRuntime.step, expirePendingLoginRequests, foldl_answerTo] at hw
      exact .inl hw
  | accountRegistered sid serial => exact .inl hw
  | accountDisconnected sid serial =>
      simp only [LoginRuntime.step, onAccountDisconnected] at hw
      split at hw <;> exact .inl hw
  | worldEnterSuccessNotify accountId charId loginSession worldToken => exact .inl hw
  | removeLoginSession sid serial => exact .inl hw

/-- What is to be sent or taken back after a step was with a handler before. -/
theorem mem_handlers_step {w : IssuedRequest} {e : Event}
    (hw : w ∈ (st.step e).kept ++ (st.step e).unsent) :
    w ∈ st.drawn ++ (st.kept ++ st.unsent) := by
  cases e with
  | dataAnalysis sid serial useProtobuf ask =>
      simp only [LoginRuntime.step] at hw
      obtain ⟨o, heq, -⟩ | ⟨reply, heq, -⟩ := st.dataAnalysis_cases sid serial useProtobuf ask
      · rw [heq] at hw
        exact List.mem_append_right _ hw
      · rw [heq] at hw
        exact List.mem_append_right _ hw
  | draw i traceId now =>
      simp only [LoginRuntime.step] at hw
      split at hw <;> exact List.mem_append_right _ hw
  | keep i =>
      simp only [LoginRuntime.step] at hw
      cases hi : st.drawn[i]? with
      | none =>
          rw [hi] at hw
          exact List.mem_append_right _ hw
      | some w' =>
          rw [hi] at hw
          simp only [LoginRuntime.keep, List.mem_append, (perm_cons_eraseIdx hi).mem_iff,
            List.mem_cons] at hw ⊢
          tauto
  | sendRequest i sendOk =>
      simp only [LoginRuntime.step] at hw
      cases hi : st.kept[i]? with
      | none =>
          rw [hi] at hw
          exact List.mem_append_right _ hw
      | some w' =>
          rw [hi] at hw
          unfold LoginRuntime.sendRequest at hw
          split_ifs at hw
          · simp only [List.mem_append, (perm_cons_eraseIdx hi).mem_iff, List.mem_cons] at hw ⊢
            tauto
          · simp only [List.mem_append, (perm_cons_eraseIdx hi).mem_iff, List.mem_cons] at hw ⊢
            tauto
  | takeBack i =>
      simp only [LoginRuntime.step] at hw
      cases hi : st.unsent[i]? with
      | none =>
          rw [hi] at hw
          exact List.mem_append_right _ hw
      | some w' =>
          rw [hi] at hw
          have hsub := List.mem_of_mem_eraseIdx (l := st.unsent) (i := i) (a := w)
          simp only [takeBack, answerTo, answer, List.mem_append] at hw ⊢
          tauto
  | result r =>
      simp only [LoginRuntime.step, onResult] at hw
      split at hw <;> exact List.mem_append_right _ hw
  | complete i =>
      simp only [LoginRuntime.step] at hw
      split at hw <;> exact List.mem_append_right _ hw
  | expire timeout now =>
      simp only [LoginRuntime.step, expirePendingLoginRequests, foldl_answerTo] at hw
      exact List.mem_append_right _ hw
  | accountRegistered sid serial => exact List.mem_append_right _ hw
  | accountDisconnected sid serial =>
      simp only [LoginRuntime.step, onAccountDisconnected] at hw
      split at hw <;> exact List.mem_append_right _ hw
  | worldEnterSuccessNotify accountId charId loginSession worldToken =>
      exact List.mem_append_right _ hw
  | removeLoginSession sid serial => exact List.mem_append_right _ hw

/-- The pending requests after a step are those that it does not end, and a
new one. -/
theorem mem_pending_step_iff (h : Placed st asked) (hlt : st.issued.length < 2 ^ 64)
    (hp : p ∈ st.issued) (hkept : ∀ w ∈ st.drawn, w.pending ≠ p) (e : Event) :
    p ∈ (st.step e).pending ↔ p ∈ st.pending ∧ ¬Ends p e ∧ ¬st.GivesUp p e := by
  obtain ⟨ended, hplaces⟩ := h.places
  have hids := h.numbered.nodup hlt
  cases e with
  | dataAnalysis sid serial useProtobuf ask =>
      simp only [LoginRuntime.step, Ends, GivesUp, not_false_eq_true, and_true]
      obtain ⟨o, heq, -⟩ | ⟨reply, heq, -⟩ := st.dataAnalysis_cases sid serial useProtobuf ask
      · rw [heq]
        rfl
      · rw [heq]
        rfl
  | draw i traceId now =>
      simp only [LoginRuntime.step, Ends, GivesUp, not_false_eq_true, and_true]
      split <;> rfl
  | keep i =>
      simp only [LoginRuntime.step, Ends, GivesUp, not_false_eq_true, and_true]
      split
      next => rfl
      next w hw =>
        have hmem := List.mem_of_getElem? hw
        have hne : p ≠ w.pending := (hkept w hmem).symm
        simp only [LoginRuntime.keep, upsertBy_of_forall_ne (hplaces.fresh hids hmem)]
        simp [hne]
  | sendRequest i sendOk =>
      simp only [LoginRuntime.step, LoginRuntime.sendRequest, Ends, GivesUp, not_false_eq_true,
        and_true]
      split
      next => rfl
      next => split <;> rfl
  | takeBack i =>
      simp only [LoginRuntime.step, Ends, GivesUp, not_false_eq_true, true_and]
      cases hw : st.unsent[i]? with
      | none => simp
      | some w =>
          have hhandler := List.mem_append_right st.drawn
            (List.mem_append_right st.kept (List.mem_of_getElem? hw))
          have hissued := (h.handlers w hhandler).1
          simp only [takeBack, answerTo, answer, List.mem_filter, decide_eq_true_eq,
            Option.some.injEq, exists_eq_left']
          refine and_congr_right fun _ => not_congr ⟨fun hkey => ?_, fun heq => by rw [heq]⟩
          exact (h.eq_of_key hlt hp hissued hkey).symm
  | result r =>
      simp only [LoginRuntime.step, onResult, Ends, GivesUp, not_false_eq_true, and_true]
      split
      next hnone =>
        have hne : p ∈ st.pending → ¬r.key = p.key := fun hmem heq => by
          have hbeq := List.find?_eq_none.mp hnone p hmem
          exact hbeq (beq_iff_eq.mpr heq.symm)
        exact ⟨fun hmem => ⟨hmem, hne hmem⟩, And.left⟩
      next =>
        rw [List.mem_filter, decide_eq_true_eq]
        exact and_congr_right fun _ => not_congr eq_comm
  | complete i =>
      simp only [LoginRuntime.step, Ends, GivesUp, not_false_eq_true, and_true]
      split <;> rfl
  | expire timeout now =>
      simp only [LoginRuntime.step, expirePendingLoginRequests, foldl_answerTo, Ends, GivesUp,
        not_false_eq_true, and_true]
      rw [List.mem_filter, decide_eq_true_eq]
  | accountRegistered sid serial => simp [LoginRuntime.step, onAccountRegistered, Ends, GivesUp]
  | accountDisconnected sid serial =>
      simp only [LoginRuntime.step, onAccountDisconnected, Ends, GivesUp, not_false_eq_true,
        and_true]
      split <;> rfl
  | worldEnterSuccessNotify accountId charId loginSession worldToken =>
      simp [LoginRuntime.step, Ends, GivesUp]
  | removeLoginSession sid serial => simp [LoginRuntime.step, Ends, GivesUp]

/-- A request that was kept, or has come to its end, is not kept again. -/
theorem Placed.drawn_step (h : Placed st asked) (hp : p ∈ st.issued)
    (hkept : ∀ w ∈ st.drawn, w.pending ≠ p) {e : Event}
    (hlt : (st.step e).issued.length < 2 ^ 64) : ∀ w ∈ (st.step e).drawn, w.pending ≠ p := by
  intro w hw
  obtain hbefore | ⟨o, traceId, now, heq, hissued⟩ := mem_drawn_step hw
  · exact hkept w hbefore
  · rw [hissued, List.length_append, List.length_singleton] at hlt
    rw [heq]
    exact h.newRequest_ne hp o traceId now hlt

/-- A handler that is through with a request does not come to it again. -/
theorem Placed.handlerThrough_step (h : Placed st asked) (hp : p ∈ st.issued)
    (hthrough : st.HandlerThrough p) {e : Event} (hlt : (st.step e).issued.length < 2 ^ 64) :
    (st.step e).HandlerThrough p := by
  intro w hw
  rcases List.mem_append.mp hw with hdrawn | hlater
  · exact h.drawn_step hp (fun w hw => hthrough w (List.mem_append_left _ hw)) hlt w hdrawn
  · exact hthrough w (mem_handlers_step hlater)

/-- What waits after a run waited before it, and was not ended. -/
theorem mem_pending_run_iff (h : Placed st asked) (hp : p ∈ st.issued)
    (hkept : ∀ w ∈ st.drawn, w.pending ≠ p) {es : List Event}
    (hlt : (run step st es).issued.length < 2 ^ 64) :
    p ∈ (run step st es).pending ↔
      p ∈ st.pending ∧ Along step (fun st e => ¬Ends p e ∧ ¬st.GivesUp p e) st es := by
  induction es generalizing st asked with
  | nil => simp [Along]
  | cons e es ih =>
      have hnext : (st.step e).issued.length < 2 ^ 64 := (length_issued_le_run _ es).trans_lt hlt
      have hbound := (length_issued_le st e).trans_lt hnext
      rw [run_cons, ih (h.step hbound e) ((issued_prefix_step st e).subset hp)
        (h.drawn_step hp hkept hnext) hlt, mem_pending_step_iff h hbound hp hkept e, and_assoc]
      rfl

/-- Once its handler is through, a request is ended by what comes from
elsewhere. -/
theorem along_iff_of_handlerThrough (h : Placed st asked) (hp : p ∈ st.issued)
    (hthrough : st.HandlerThrough p) {es : List Event}
    (hlt : (run step st es).issued.length < 2 ^ 64) :
    Along step (fun st e => ¬Ends p e ∧ ¬st.GivesUp p e) st es ↔ ∀ e ∈ es, ¬Ends p e := by
  induction es generalizing st asked with
  | nil => simp [Along]
  | cons e es ih =>
      have hnext : (st.step e).issued.length < 2 ^ 64 := (length_issued_le_run _ es).trans_lt hlt
      have hbound := (length_issued_le st e).trans_lt hnext
      have hkeeps : ¬st.GivesUp p e := by
        cases e with
        | takeBack i =>
            rintro ⟨w, hw, heq⟩
            exact hthrough w (List.mem_append_right _ (List.mem_append_right _
              (List.mem_of_getElem? hw))) heq
        | _ => exact id
      rw [List.forall_mem_cons, Along, and_iff_left hkeeps,
        ih (h.step hbound e) ((issued_prefix_step st e).subset hp)
          (h.handlerThrough_step hp hthrough hnext) hlt]

end

/-- Every state of a run has its requests in their places. -/
theorem exists_placed (es : List Event) (hlt : (run step {} es).issued.length < 2 ^ 64) :
    ∃ asked, Placed (run step {} es) asked :=
  run_induction
    (W := fun st => st.issued.length < 2 ^ 64 → ∃ asked, Placed st asked)
    (fun _ => ⟨[], placed_init⟩)
    (fun st e h hlt =>
      let hbefore := (length_issued_le st e).trans_lt hlt
      let ⟨_, hst⟩ := h hbefore
      ⟨_, hst.step hbefore e⟩) hlt

/-- **What ends a request** that waits for its result is a result with its id,
for a login the timeout, and its own handler, if it could not be sent; nothing
else that happens in a run does. Once its handler is through, only the first
two can. -/
theorem pending_run_iff (es₀ es : List Event) (p : PendingRequest)
    (hp : p ∈ (run step {} es₀).pending)
    (hlt : (run step {} (es₀ ++ es)).issued.length < 2 ^ 64) :
    (p ∈ (run step {} (es₀ ++ es)).pending ↔
      Along step (fun st e => ¬Ends p e ∧ ¬st.GivesUp p e) (run step {} es₀) es) ∧
    ((run step {} es₀).HandlerThrough p →
      (p ∈ (run step {} (es₀ ++ es)).pending ↔ ∀ e ∈ es, ¬Ends p e)) := by
  rw [run_append] at hlt ⊢
  have hbefore : (run step {} es₀).issued.length < 2 ^ 64 :=
    (length_issued_le_run _ es).trans_lt hlt
  obtain ⟨asked, hst⟩ := exists_placed es₀ hbefore
  generalize run step {} es₀ = st at hp hlt hst hbefore
  obtain ⟨ended, hplaces⟩ := hst.places
  have hissued := hplaces.mem_issued hp
  have hkept : ∀ w ∈ st.drawn, w.pending ≠ p := fun w hw heq =>
    hplaces.fresh (hst.numbered.nodup hbefore) hw p hp (congrArg _ heq.symm)
  have hiff := mem_pending_run_iff hst hissued hkept hlt
  rw [and_iff_right hp] at hiff
  exact ⟨hiff, fun hthrough => hiff.trans (along_iff_of_handlerThrough hst hissued hthrough hlt)⟩

/-- The request of the login that is sent. -/
def sentLogin : PendingRequest where
  traceId := 7
  requestId := 1
  clientSid := 5
  clientSerial := 9
  useProtobuf := true
  ask := .login [97] [98]
  issuedAt := 100

/-- The login still waits when its connection and the account server are
gone. -/
theorem pending_run_iff_loginSent :
    sentLogin ∈ (run step {} (loginSent ++
      [.removeLoginSession 5 9, .accountDisconnected 1 1, .expire 600 699])).pending :=
  ((pending_run_iff loginSent _ sentLogin (by decide) (by decide)).2 (by decide)).mpr
    (by simp [Ends, sentLogin])

end LoginRuntime

end GameServer
