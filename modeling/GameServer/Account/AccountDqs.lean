import GameServer.World.DqsPool

/-!
# GameServer.Account.AccountDqs

The database jobs of the account process: a pool of slots, the workers that
run the jobs, and the results they post.

The account process leaves its slots to the recycle callback of the worker,
and every way out of a job posts its result.

* `pushDqs` / `enqueue` — `PushAccountAuthDqs_` and
  `PushAccountCharacterListDqs_`, the two critical sections;
* `onDqsRunOne` — a job, with what the database does;
* `recycleDqsSlot` — the slot goes back;
* `conserved_run` — no slot is lost or doubled, and every job that was
  accepted gets one result.
-/

namespace GameServer

/-! ## Requests and results -/

/-- `svr::dqs_payload::AccountAuthRequest`; texts are bytes. -/
structure AccountAuthRequest where
  sid : UInt32 := 0
  serial : UInt32 := 0
  traceId : UInt64 := 0
  requestId : UInt64 := 0
  loginId : List UInt8 := []
  password : List UInt8 := []
deriving DecidableEq, Repr

/-- `svr::dqs_payload::AccountCharacterListRequest`. -/
structure AccountCharacterListRequest where
  sid : UInt32 := 0
  serial : UInt32 := 0
  traceId : UInt64 := 0
  requestId : UInt64 := 0
  accountId : UInt64 := 0
deriving DecidableEq, Repr

/-- `svr::dqs::ResultCode`. -/
inductive DqsResultCode where
  | success
  | dbError
  | invalidData
  | conflict
deriving DecidableEq, Repr

/-- `svr::dqs_result::AccountAuthResult`. -/
structure AccountAuthResult where
  traceId : UInt64 := 0
  sid : UInt32 := 0
  serial : UInt32 := 0
  requestId : UInt64 := 0
  ok : UInt8 := 0
  accountId : UInt64 := 0
  charId : UInt64 := 0
  loginSession : List UInt8 := []
  failReason : List UInt8 := []
  result : DqsResultCode := .success
deriving DecidableEq, Repr

/-- `AccountCharacterSummary`. -/
structure AccountCharacterSummary where
  charId : UInt64 := 0
  charName : List UInt8 := []
  level : UInt32 := 0
  job : UInt16 := 0
  appearanceCode : UInt32 := 0
  lastLoginAtEpochSec : UInt64 := 0
deriving DecidableEq, Repr

/-- `svr::dqs_result::AccountCharacterListResult`; `count` is the length of
`characters`. -/
structure AccountCharacterListResult where
  traceId : UInt64 := 0
  sid : UInt32 := 0
  serial : UInt32 := 0
  requestId : UInt64 := 0
  accountId : UInt64 := 0
  ok : UInt8 := 0
  failReason : List UInt8 := []
  characters : List AccountCharacterSummary := []
  result : DqsResultCode := .success
deriving DecidableEq, Repr

/-- The two query cases of the account process, with their data. -/
inductive AccountDqsRequest where
  | accountAuth (payload : AccountAuthRequest)
  | accountCharacterList (payload : AccountCharacterListRequest)
deriving DecidableEq, Repr

/-- `svr::dqs_result::Result`, as far as the account process posts it. -/
inductive AccountDqsResult where
  | accountAuth (rr : AccountAuthResult)
  | accountCharacterList (rr : AccountCharacterListResult)
deriving DecidableEq, Repr

/-- `snprintf` into an array of `max + 1` bytes. -/
def cString (max : Nat) (text : List UInt8) : List UInt8 := (text.takeWhile (· ≠ 0)).take max

/-- `k_login_session_max_len`. -/
def loginSessionMaxLen : Nat := 64

/-- `k_auth_fail_reason_max_len`. -/
def authFailReasonMaxLen : Nat := 64

/-- `k_character_name_max_len`. -/
def characterNameMaxLen : Nat := 20

/-- `k_character_list_max_count`. -/
def characterListMaxCount : Nat := 8

/-- `"db_conn_not_ready"`. -/
def dbConnNotReady : List UInt8 := "db_conn_not_ready".toUTF8.toList

/-- `"unknown_db_exception"`. -/
def unknownDbException : List UInt8 := "unknown_db_exception".toUTF8.toList

/-- `AccountAuthRequestResult`, as far as it is applied. -/
structure AccountAuthRequestResult where
  ok : Bool := false
  accountId : UInt64 := 0
  failReason : List UInt8 := []
deriving DecidableEq, Repr

/-- `AccountCharacterListRequestResult`, as far as it is applied. -/
structure AccountCharacterListRequestResult where
  ok : Bool := false
  characters : List AccountCharacterSummary := []
  failReason : List UInt8 := []
deriving DecidableEq, Repr

/-- What a call of the database comes to: a result, an exception with its
text, or another exception. -/
inductive DbOutcome (α : Type) where
  | result (a : α)
  | exception (what : List UInt8)
  | unknown
deriving DecidableEq, Repr

/-- `MakePendingAccountAuthResult`. -/
def makePendingAccountAuthResult (payload : AccountAuthRequest) : AccountAuthResult where
  traceId := payload.traceId
  sid := payload.sid
  serial := payload.serial
  requestId := payload.requestId

/-- `ApplyAccountAuthRequestResult`; the session token is random. -/
def applyAccountAuthRequestResult (token : List UInt8) (r : AccountAuthRequestResult)
    (rr : AccountAuthResult) : AccountAuthResult :=
  { rr with
    ok := if r.ok then 1 else 0
    accountId := r.accountId
    loginSession := if r.ok then cString loginSessionMaxLen token else rr.loginSession
    failReason := cString authFailReasonMaxLen r.failReason }

/-- `SetAccountAuthDbError`. -/
def setAccountAuthDbError (rr : AccountAuthResult) (reason : List UInt8) : AccountAuthResult :=
  { rr with result := .dbError, failReason := cString authFailReasonMaxLen reason }

/-- `MakePendingAccountCharacterListResult`. -/
def makePendingAccountCharacterListResult (payload : AccountCharacterListRequest) :
    AccountCharacterListResult where
  traceId := payload.traceId
  sid := payload.sid
  serial := payload.serial
  requestId := payload.requestId
  accountId := payload.accountId

/-- `ApplyAccountCharacterListRequestResult`. -/
def applyAccountCharacterListRequestResult (r : AccountCharacterListRequestResult)
    (rr : AccountCharacterListResult) : AccountCharacterListResult :=
  { rr with
    ok := if r.ok then 1 else 0
    characters := (r.characters.take characterListMaxCount).map fun c =>
      { c with charName := cString characterNameMaxLen c.charName }
    failReason := cString authFailReasonMaxLen r.failReason }

/-- `SetAccountCharacterListDbError`. -/
def setAccountCharacterListDbError (rr : AccountCharacterListResult) (reason : List UInt8) :
    AccountCharacterListResult :=
  { rr with result := .dbError, failReason := cString authFailReasonMaxLen reason }

/-- The result names the request it answers. -/
def AccountDqsResult.Answers : AccountDqsResult → AccountDqsRequest → Prop
  | .accountAuth rr, .accountAuth p =>
      rr.traceId = p.traceId ∧ rr.sid = p.sid ∧ rr.serial = p.serial ∧ rr.requestId = p.requestId
  | .accountCharacterList rr, .accountCharacterList p =>
      rr.traceId = p.traceId ∧ rr.sid = p.sid ∧ rr.serial = p.serial ∧
        rr.requestId = p.requestId ∧ rr.accountId = p.accountId
  | _, _ => False

/-- `RouteAccountShard_`. -/
def routeAccountShard (dbShardCount : UInt32) : AccountDqsRequest → UInt32
  | .accountAuth payload =>
      if dbShardCount ≤ 1 then 0
      else
        let h := payload.loginId.foldl
          (fun (h : UInt64) c => (h ^^^ c.toUInt64) * 1099511628211) 1469598103934665603
        (h % dbShardCount.toUInt64).toUInt32
  | .accountCharacterList payload =>
      if dbShardCount ≤ 1 then 0 else (payload.accountId % dbShardCount.toUInt64).toUInt32

/-! ## The pool -/

/-- `DqsSlot`: `job` is the process code, the query case and the data, which
has the size of its case, and is none after a `reset()`; `push` is the number
of the call that filled the slot. -/
structure AccountDqsSlot where
  job : Option AccountDqsRequest := none
  inUse : Bool := false
  push : Nat := 0
deriving DecidableEq, Repr

/-- What the account process keeps of its jobs.  `workers` is empty while
`db_shards_` is null, and `connCount` is the size of `db_worker_conns_`.  The
logs: the requests that got a slot, by number; the numbers of those whose
push returned `true`; and the results posted, with the number of the request
whose slot was executed. -/
structure AccountDqs where
  dbShardCount : UInt32
  connCount : Nat
  slots : Nat → AccountDqsSlot
  empty : List Nat
  pushing : List (UInt32 × Nat) := []
  workers : List DbWorker
  dropCount : Nat := 0
  pushCount : Nat := 0
  requests : List AccountDqsRequest := []
  accepted : List Nat := []
  results : List (Nat × AccountDqsResult) := []

/-- What the database does in one job, and the token drawn in it. -/
structure DbAnswer where
  auth : DbOutcome AccountAuthRequestResult
  characterList : DbOutcome AccountCharacterListRequestResult
  token : List UInt8

namespace AccountDqs

/-- `InitDqs_`, with `workerCount` workers running. -/
def initDqs (slotCount workerCount connCount : Nat) (dbShardCount : UInt32) : AccountDqs where
  dbShardCount
  connCount
  slots := fun _ => {}
  empty := List.range slotCount
  workers := List.replicate workerCount {}

/-- `RecycleDqsSlot_`. -/
def recycleDqsSlot (p : AccountDqs) (idx : Nat) : AccountDqs :=
  { p with slots := Function.update p.slots idx {}, empty := p.empty ++ [idx] }

/-- `PushAccountAuthDqs_` and `PushAccountCharacterListDqs_`, the critical
section: take a free slot and fill it. -/
def pushDqs (p : AccountDqs) (req : AccountDqsRequest) : AccountDqs :=
  match p.empty with
  | [] =>
      match req with
      | .accountAuth _ => { p with dropCount := p.dropCount + 1 }
      | .accountCharacterList _ => p
  | idx :: rest =>
      { p with
        empty := rest
        slots := Function.update p.slots idx
          { job := some req, inUse := true, push := p.requests.length }
        pushing := p.pushing ++ [(routeAccountShard p.dbShardCount req, idx)]
        requests := p.requests ++ [req] }

/-- The rest of the push: the slot goes to the worker of its shard, or back
if there are none. -/
def enqueue (p : AccountDqs) (k : Nat) : AccountDqs :=
  match p.pushing[k]? with
  | none => p
  | some (shard, idx) =>
      let p := { p with pushing := p.pushing.eraseIdx k }
      match p.workers[shard.toNat % p.workers.length]? with
      | none =>
          let dropped := match (p.slots idx).job with
            | some (.accountAuth _) => 1
            | _ => 0
          { p with dropCount := p.dropCount + dropped }.recycleDqsSlot idx
      | some w =>
          { p with
            workers := p.workers.set (shard.toNat % p.workers.length)
              { w with queue := w.queue ++ [idx] }
            pushCount := p.pushCount + 1
            accepted := p.accepted ++ [(p.slots idx).push] }

/-- A worker pops the next slot of its queue. -/
def startRun (p : AccountDqs) (i : Nat) : AccountDqs :=
  match p.workers[i]? with
  | none => p
  | some w =>
      match w.current, w.queue with
      | none, idx :: rest =>
          { p with workers := p.workers.set i { queue := rest, current := some (idx, .executing) } }
      | _, _ => p

/-- The results that `OnDqsRunOne_` posts. -/
def onDqsRunOne (p : AccountDqs) (idx : Nat) (db : DbAnswer) : List AccountDqsResult :=
  match (p.slots idx).job with
  -- the process code of a slot that was reset is another one
  | none => []
  | some (.accountAuth payload) =>
      let rr := makePendingAccountAuthResult payload
      let shard := routeAccountShard p.dbShardCount (.accountAuth payload)
      if shard.toNat ≥ p.connCount then
        [.accountAuth (setAccountAuthDbError rr dbConnNotReady)]
      else
        match db.auth with
        | .result r => [.accountAuth (applyAccountAuthRequestResult db.token r rr)]
        | .exception what => [.accountAuth (setAccountAuthDbError rr what)]
        | .unknown => [.accountAuth (setAccountAuthDbError rr unknownDbException)]
  | some (.accountCharacterList payload) =>
      let rr := makePendingAccountCharacterListResult payload
      let shard := routeAccountShard p.dbShardCount (.accountCharacterList payload)
      if shard.toNat ≥ p.connCount then
        [.accountCharacterList (setAccountCharacterListDbError rr dbConnNotReady)]
      else
        match db.characterList with
        | .result r =>
            [.accountCharacterList (applyAccountCharacterListRequestResult r rr)]
        | .exception what => [.accountCharacterList (setAccountCharacterListDbError rr what)]
        | .unknown => [.accountCharacterList (setAccountCharacterListDbError rr unknownDbException)]

/-- `run_one_` returns. -/
def finishRun (p : AccountDqs) (i : Nat) (db : DbAnswer) : AccountDqs :=
  match p.workers[i]? with
  | none => p
  | some w =>
      match w.current with
      | some (idx, .executing) =>
          { p with
            workers := p.workers.set i { w with current := some (idx, .recycling) }
            results := p.results ++ (p.onDqsRunOne idx db).map fun r => ((p.slots idx).push, r) }
      | _ => p

/-- The recycle callback. -/
def recycle (p : AccountDqs) (i : Nat) : AccountDqs :=
  match p.workers[i]? with
  | none => p
  | some w =>
      match w.current with
      | some (idx, .recycling) =>
          { p with workers := p.workers.set i { w with current := none } }.recycleDqsSlot idx
      | _ => p

/-- What producers and workers can do. -/
inductive Event where
  | push (req : AccountDqsRequest)
  | enqueue (k : Nat)
  | startRun (worker : Nat)
  | finishRun (worker : Nat) (db : DbAnswer)
  | recycle (worker : Nat)

def step (p : AccountDqs) : Event → AccountDqs
  | .push req => p.pushDqs req
  | .enqueue k => p.enqueue k
  | .startRun i => p.startRun i
  | .finishRun i db => p.finishRun i db
  | .recycle i => p.recycle i

/-! ## Places -/

/-- Every place a slot can be in: `dqs_empty_`, the hands of a producer
inside of its push, the queue of a worker, and the worker that has popped it
and not put it back. -/
def places (p : AccountDqs) : List Nat :=
  p.empty ++ p.pushing.map Prod.snd ++ p.workers.flatMap DqsPool.held

/-- The slots whose job has not been run to its end. -/
def waiting (p : AccountDqs) : List Nat := p.workers.flatMap DbWorker.places

/-- The number of the request in a slot. -/
def pushOf (p : AccountDqs) (idx : Nat) : Nat := (p.slots idx).push

/-- Each slot is in exactly one place. -/
def OwnedOnce (slotCount : Nat) (p : AccountDqs) : Prop :=
  ∀ idx, idx < slotCount → p.places.count idx = 1

/-- Each request whose push returned `true` has one result, but for those
whose slot is queued or executed; and there are no other results. -/
structure OneResultEach (p : AccountDqs) : Prop where
  nodup : p.accepted.Nodup
  one : ∀ k ∈ p.accepted, (p.results.map Prod.fst).count k =
    if ∃ idx ∈ p.waiting, p.pushOf idx = k then 0 else 1
  own : ∀ e ∈ p.results, e.1 ∈ p.accepted ∧
    ∃ req, p.requests[e.1]? = some req ∧ e.2.Answers req

/-- What holds of the pool and of the books. -/
structure Conserved (slotCount : Nat) (p : AccountDqs) : Prop where
  once : p.places.Perm (List.range slotCount)
  filled : ∀ idx ∈ p.pushing.map Prod.snd ++ p.waiting, ∃ req,
    (p.slots idx).job = some req ∧ p.requests[p.pushOf idx]? = some req
  numbered : (p.accepted ++ (p.pushing.map Prod.snd).map p.pushOf).Nodup
  booked : ∀ k, (p.waiting.map p.pushOf).count k + (p.results.map Prod.fst).count k =
    p.accepted.count k
  known : ∀ k ∈ p.accepted, k < p.requests.length
  answered : ∀ e ∈ p.results, ∃ req, p.requests[e.1]? = some req ∧ e.2.Answers req

/-! ## Steps -/

section Steps

variable {slotCount : Nat} {p : AccountDqs}

/-- What is in a place of a worker is held by it. -/
theorem mem_held_of_mem_places {workers : List DbWorker} {idx : Nat}
    (h : idx ∈ workers.flatMap DbWorker.places) : idx ∈ workers.flatMap DqsPool.held := by
  obtain ⟨w, hw, hidx⟩ := List.mem_flatMap.mp h
  refine List.mem_flatMap.mpr ⟨w, hw, ?_⟩
  unfold DbWorker.places executing at hidx
  unfold DqsPool.held
  rcases List.mem_append.mp hidx with hqueue | hcurrent
  · exact List.mem_append_left _ hqueue
  · refine List.mem_append_right _ ?_
    split at hcurrent
    · rename_i heq
      simpa [heq] using hcurrent
    · cases hcurrent

theorem Conserved.nodup_places (h : p.Conserved slotCount) : p.places.Nodup :=
  h.once.nodup_iff.mpr List.nodup_range

/-- A free slot is neither in a push nor waiting. -/
theorem ne_of_free (hnodup : p.places.Nodup) {idx i : Nat} (hidx : idx ∈ p.empty)
    (hi : i ∈ p.pushing.map Prod.snd ++ p.waiting) : i ≠ idx := by
  rintro rfl
  unfold places at hnodup
  rw [List.append_assoc, List.nodup_append] at hnodup
  refine hnodup.2.2 i hidx i ?_ rfl
  exact (List.mem_append.mp hi).elim (List.mem_append_left _)
    fun hw => List.mem_append_right _ (mem_held_of_mem_places hw)

theorem Conserved.lt_of_mem (h : p.Conserved slotCount) {idx : Nat}
    (hidx : idx ∈ p.pushing.map Prod.snd ++ p.waiting) : p.pushOf idx < p.requests.length := by
  obtain ⟨req, -, hreq⟩ := h.filled idx hidx
  exact (List.getElem?_eq_some_iff.mp hreq).1

/-- A push takes a slot from the free list, or refuses. -/
theorem conserved_pushDqs (h : p.Conserved slotCount) (req : AccountDqsRequest) :
    (p.pushDqs req).Conserved slotCount := by
  unfold pushDqs
  split
  next hempty =>
    cases req with
    | accountAuth payload =>
        exact ⟨h.once, h.filled, h.numbered, h.booked, h.known, h.answered⟩
    | accountCharacterList payload => exact h
  next idx rest hempty =>
    set slots := Function.update p.slots idx
      { job := some req, inUse := true, push := p.requests.length } with hslots
    -- The slot taken was free, so the others keep what they have.
    have hkept : ∀ i ∈ p.pushing.map Prod.snd ++ p.waiting, slots i = p.slots i := fun i hi =>
      Function.update_of_ne (ne_of_free h.nodup_places (hempty ▸ List.mem_cons_self) hi) _ _
    have hpush : ∀ l : List Nat, l ⊆ p.pushing.map Prod.snd ++ p.waiting →
        l.map (fun i => (slots i).push) = l.map p.pushOf := fun l hl =>
      List.map_congr_left fun i hi => by rw [hkept i (hl hi)]; rfl
    have hold : ∀ {k : Nat} {r : AccountDqsRequest}, p.requests[k]? = some r →
        (p.requests ++ [req])[k]? = some r := by
      intro k r hr
      rw [List.getElem?_append_left (List.getElem?_eq_some_iff.mp hr).1, hr]
    refine ⟨?_, fun i hi => ?_, ?_, fun k => ?_, fun k hk => ?_, fun e he => ?_⟩
    · refine (List.perm_iff_count.mpr fun x => ?_).trans h.once
      simp only [places, hempty, List.map_append, List.count_append, List.count_cons,
        List.map_cons, List.map_nil, List.count_nil]
      omega
    · by_cases hidx : i = idx
      · subst hidx
        refine ⟨req, by simp [hslots], ?_⟩
        simp [pushOf, hslots]
      · have hi' : i ∈ p.pushing.map Prod.snd ++ p.waiting := by
          simpa [waiting, hidx] using hi
        obtain ⟨r, hjob, hr⟩ := h.filled i hi'
        refine ⟨r, ?_, ?_⟩
        · exact (congrArg AccountDqsSlot.job (hkept i hi')).trans hjob
        · exact hold (by rw [show pushOf _ i = p.pushOf i from
            congrArg AccountDqsSlot.push (hkept i hi')]; exact hr)
    · have hnumber : (slots idx).push = p.requests.length := by simp [hslots]
      change (p.accepted ++ ((p.pushing ++ [_]).map Prod.snd).map fun i => (slots i).push).Nodup
      rw [List.map_append, List.map_append, hpush _ (List.subset_append_left _ _),
        ← List.append_assoc, List.nodup_append]
      refine ⟨h.numbered, List.nodup_singleton _, fun a ha b hb => ?_⟩
      have hb' : b = p.requests.length := by
        rw [← hnumber]
        simpa using hb
      rw [hb']
      refine ne_of_lt ?_
      rcases List.mem_append.mp ha with ha | ha
      · exact h.known a ha
      · obtain ⟨i, hi, rfl⟩ := List.mem_map.mp ha
        exact h.lt_of_mem (List.mem_append_left _ hi)
    · change ((p.waiting.map fun i => (slots i).push).count k + _) = _
      rw [hpush _ (List.subset_append_right _ _)]
      exact h.booked k
    · rw [List.length_append]
      exact Nat.lt_add_right _ (h.known k hk)
    · obtain ⟨r, hr, hanswers⟩ := h.answered e he
      exact ⟨r, hold hr, hanswers⟩

/-- A slot whose job is over goes back. -/
theorem Conserved.release (h : p.Conserved slotCount) {p' : AccountDqs} {idx : Nat}
    (hslots : p'.slots = Function.update p.slots idx {}) (hfree : idx ∈ p'.empty)
    (hplaces : p'.places.Perm p.places)
    (hpushing : (p'.pushing.map Prod.snd).Sublist (p.pushing.map Prod.snd))
    (hwaiting : p'.waiting.Perm p.waiting)
    (hlogs : p'.requests = p.requests ∧ p'.accepted = p.accepted ∧ p'.results = p.results) :
    p'.Conserved slotCount := by
  have honce := hplaces.trans h.once
  obtain ⟨hrequests, haccepted, hresults⟩ := hlogs
  have hkept : ∀ i ∈ p'.pushing.map Prod.snd ++ p'.waiting, p'.slots i = p.slots i := by
    intro i hi
    rw [hslots]
    exact Function.update_of_ne
      (ne_of_free (honce.nodup_iff.mpr List.nodup_range) hfree hi) _ _
  have hsub : p'.pushing.map Prod.snd ++ p'.waiting ⊆ p.pushing.map Prod.snd ++ p.waiting := by
    intro i hi
    rcases List.mem_append.mp hi with hi | hi
    · exact List.mem_append_left _ (hpushing.subset hi)
    · exact List.mem_append_right _ (hwaiting.mem_iff.mp hi)
  have hpush : ∀ l : List Nat, l ⊆ p'.pushing.map Prod.snd ++ p'.waiting →
      l.map p'.pushOf = l.map p.pushOf := fun l hl =>
    List.map_congr_left fun i hi => by rw [pushOf, hkept i (hl hi)]; rfl
  refine ⟨honce, fun i hi => ?_, ?_, fun k => ?_, ?_, ?_⟩
  · obtain ⟨req, hjob, hreq⟩ := h.filled i (hsub hi)
    refine ⟨req, ?_, ?_⟩
    · rw [hkept i hi, hjob]
    · rw [hrequests, pushOf, hkept i hi]
      exact hreq
  · rw [haccepted, hpush _ (List.subset_append_left _ _)]
    exact h.numbered.sublist ((hpushing.map _).append_left _)
  · rw [haccepted, hresults, hpush _ (List.subset_append_right _ _), (hwaiting.map _).count_eq]
    exact h.booked k
  · rw [haccepted, hrequests]
    exact h.known
  · rw [hresults, hrequests]
    exact h.answered

/-- An enqueue hands the slot to the shard of its route. -/
theorem conserved_enqueue (h : p.Conserved slotCount) (k : Nat) :
    (p.enqueue k).Conserved slotCount := by
  unfold enqueue
  split
  next => exact h
  next shard idx hk =>
    have htaken := map_eraseIdx_perm Prod.snd hk
    have hmem : idx ∈ p.pushing.map Prod.snd := htaken.subset List.mem_cons_self
    dsimp only
    split
    next hnone =>
      -- There are no workers: the producer puts the slot back.
      refine h.release (rfl : _ = Function.update p.slots idx {})
        (List.mem_append_right _ List.mem_cons_self) ?_ ((List.eraseIdx_sublist _ _).map _)
        (List.Perm.refl _) ⟨rfl, rfl, rfl⟩
      refine List.perm_iff_count.mpr fun x => ?_
      have hcount := htaken.count_eq x
      simp only [recycleDqsSlot, places, List.count_append, List.count_cons, List.count_nil]
        at hcount ⊢
      omega
    next w hw =>
      have hheld := flatMap_set_perm DqsPool.held hw { w with queue := w.queue ++ [idx] }
      have hplaces := flatMap_set_perm DbWorker.places hw { w with queue := w.queue ++ [idx] }
      set workers := p.workers.set (shard.toNat % p.workers.length)
        { w with queue := w.queue ++ [idx] }
      have hwait : (workers.flatMap DbWorker.places).Perm (idx :: p.waiting) := by
        refine List.perm_iff_count.mpr fun x => ?_
        have hcount := hplaces.count_eq x
        simp only [waiting, DbWorker.places, List.count_append, List.count_cons, List.count_nil]
          at hcount ⊢
        omega
      have hmoved : ((p.pushing.eraseIdx k).map Prod.snd ++ workers.flatMap DbWorker.places).Perm
          (p.pushing.map Prod.snd ++ p.waiting) := by
        refine (hwait.append_left _).trans (List.perm_middle.trans ?_)
        exact htaken.append_right p.waiting
      refine ⟨?_, fun i hi => h.filled i (hmoved.subset hi), ?_, fun n => ?_, fun n hn => ?_,
        h.answered⟩
      · refine (List.perm_iff_count.mpr fun x => ?_).trans h.once
        have hcount := hheld.count_eq x
        have hcount' := htaken.count_eq x
        simp only [places, DqsPool.held, List.count_append, List.count_cons, List.count_nil]
          at hcount hcount' ⊢
        omega
      · change ((p.accepted ++ [p.pushOf idx]) ++
          ((p.pushing.eraseIdx k).map Prod.snd).map p.pushOf).Nodup
        rw [List.append_assoc]
        exact ((htaken.map p.pushOf).append_left p.accepted).nodup_iff.mpr h.numbered
      · change ((workers.flatMap DbWorker.places).map p.pushOf).count n +
          (p.results.map Prod.fst).count n = (p.accepted ++ [p.pushOf idx]).count n
        have hbooked := h.booked n
        rw [(hwait.map p.pushOf).count_eq, List.map_cons, List.count_cons, List.count_append,
          List.count_cons, List.count_nil]
        omega
      · rcases List.mem_append.mp hn with hn | hn
        · exact h.known n hn
        · rw [List.mem_singleton.mp hn]
          exact h.lt_of_mem (List.mem_append_left _ hmem)

/-- A run moves the slot from the shard to its worker. -/
theorem conserved_startRun (h : p.Conserved slotCount) (i : Nat) :
    (p.startRun i).Conserved slotCount := by
  unfold startRun
  split
  next => exact h
  next w hw =>
    split
    next idx rest hcurrent hqueue =>
      have hheld := flatMap_set_perm DqsPool.held hw
        { queue := rest, current := some (idx, .executing) }
      have hplaces := flatMap_set_perm DbWorker.places hw
        { queue := rest, current := some (idx, .executing) }
      set workers := p.workers.set i { queue := rest, current := some (idx, .executing) }
      have hwait : (workers.flatMap DbWorker.places).Perm p.waiting := by
        refine List.perm_iff_count.mpr fun x => ?_
        have hcount := hplaces.count_eq x
        simp only [waiting, DbWorker.places, hcurrent, hqueue, executing, List.count_append,
          List.count_cons, List.count_nil] at hcount ⊢
        omega
      refine ⟨?_, fun j hj => h.filled j ((hwait.append_left _).subset hj), h.numbered, fun n => ?_,
        h.known, h.answered⟩
      · refine (List.perm_iff_count.mpr fun x => ?_).trans h.once
        have hcount := hheld.count_eq x
        simp only [places, DqsPool.held, hcurrent, hqueue, List.count_append, List.count_cons,
          List.count_nil, Option.map_some, Option.map_none, Option.toList_some,
          Option.toList_none] at hcount ⊢
        omega
      · change ((workers.flatMap DbWorker.places).map p.pushOf).count n + _ = _
        rw [(hwait.map p.pushOf).count_eq]
        exact h.booked n
    next => exact h

/-- **One job, one result**: whatever the database does, the job of a filled
slot posts one result, for its own request. -/
theorem onDqsRunOne_spec {idx : Nat} {req : AccountDqsRequest} (hjob : (p.slots idx).job = some req)
    (db : DbAnswer) : ∃ r, p.onDqsRunOne idx db = [r] ∧ r.Answers req := by
  unfold onDqsRunOne
  rw [hjob]
  cases req with
  | accountAuth payload =>
      dsimp only
      split_ifs
      · exact ⟨_, rfl, rfl, rfl, rfl, rfl⟩
      · cases db.auth with
        | result r => exact ⟨_, rfl, rfl, rfl, rfl, rfl⟩
        | exception what => exact ⟨_, rfl, rfl, rfl, rfl, rfl⟩
        | unknown => exact ⟨_, rfl, rfl, rfl, rfl, rfl⟩
  | accountCharacterList payload =>
      dsimp only
      split_ifs
      · exact ⟨_, rfl, rfl, rfl, rfl, rfl, rfl⟩
      · cases db.characterList with
        | result r => exact ⟨_, rfl, rfl, rfl, rfl, rfl, rfl⟩
        | exception what => exact ⟨_, rfl, rfl, rfl, rfl, rfl, rfl⟩
        | unknown => exact ⟨_, rfl, rfl, rfl, rfl, rfl, rfl⟩

/-- A finished run moves it on to the results. -/
theorem conserved_finishRun (h : p.Conserved slotCount) (i : Nat) (db : DbAnswer) :
    (p.finishRun i db).Conserved slotCount := by
  unfold finishRun
  split
  next => exact h
  next w hw =>
    split
    next idx hcurrent =>
      have hheld := flatMap_set_perm DqsPool.held hw { w with current := some (idx, .recycling) }
      have hplaces := flatMap_set_perm DbWorker.places hw
        { w with current := some (idx, .recycling) }
      set workers := p.workers.set i { w with current := some (idx, .recycling) }
      have hwait : (idx :: workers.flatMap DbWorker.places).Perm p.waiting := by
        refine List.perm_iff_count.mpr fun x => ?_
        have hcount := hplaces.count_eq x
        simp only [waiting, DbWorker.places, hcurrent, executing, List.count_append,
          List.count_cons, List.count_nil] at hcount ⊢
        omega
      have hidx : idx ∈ p.pushing.map Prod.snd ++ p.waiting :=
        List.mem_append_right _ (hwait.subset List.mem_cons_self)
      obtain ⟨req, hjob, hreq⟩ := h.filled idx hidx
      obtain ⟨r, hresult, hanswers⟩ := onDqsRunOne_spec hjob db
      rw [hresult]
      refine ⟨?_, fun j hj => h.filled j ?_, h.numbered, fun n => ?_, h.known, fun e he => ?_⟩
      · refine (List.perm_iff_count.mpr fun x => ?_).trans h.once
        have hcount := hheld.count_eq x
        simp only [places, DqsPool.held, hcurrent, List.count_append, Option.map_some]
          at hcount ⊢
        omega
      · rcases List.mem_append.mp hj with hj | hj
        · exact List.mem_append_left _ hj
        · exact List.mem_append_right _ (hwait.subset (List.mem_cons_of_mem _ hj))
      · change ((workers.flatMap DbWorker.places).map p.pushOf).count n +
          ((p.results ++ [(p.pushOf idx, r)]).map Prod.fst).count n = p.accepted.count n
        rw [← h.booked n, ← (hwait.map p.pushOf).count_eq, List.map_append, List.count_append,
          List.map_cons, List.map_cons, List.map_nil, List.count_cons, List.count_cons,
          List.count_nil]
        dsimp only
        omega
      · rcases List.mem_append.mp he with he | he
        · exact h.answered e he
        · rw [List.mem_singleton.mp he]
          exact ⟨req, hreq, hanswers⟩
    next => exact h

/-- A recycled slot is free again. -/
theorem conserved_recycle (h : p.Conserved slotCount) (i : Nat) :
    (p.recycle i).Conserved slotCount := by
  unfold recycle
  split
  next => exact h
  next w hw =>
    split
    next idx hcurrent =>
      have hheld := flatMap_set_perm DqsPool.held hw { w with current := none }
      have hplaces := flatMap_set_perm DbWorker.places hw { w with current := none }
      refine h.release (rfl : _ = Function.update p.slots idx {})
        (List.mem_append_right _ List.mem_cons_self) (List.perm_iff_count.mpr fun x => ?_)
        (List.Sublist.refl _) (List.perm_iff_count.mpr fun x => ?_) ⟨rfl, rfl, rfl⟩
      · have hcount := hheld.count_eq x
        simp only [recycleDqsSlot, places, DqsPool.held, hcurrent, List.count_append,
          List.count_cons, List.count_nil, Option.map_some, Option.map_none, Option.toList_some,
          Option.toList_none] at hcount ⊢
        omega
      · have hcount := hplaces.count_eq x
        simp only [recycleDqsSlot, waiting, DbWorker.places, hcurrent, executing,
          List.count_append, List.count_nil] at hcount ⊢
        omega
    next => exact h

/-- The step lemma: each event moves a slot from one place to the next. -/
theorem conserved_step (h : p.Conserved slotCount) (e : Event) : (p.step e).Conserved slotCount := by
  cases e with
  | push req => exact conserved_pushDqs h req
  | enqueue k => exact conserved_enqueue h k
  | startRun i => exact conserved_startRun h i
  | finishRun i db => exact conserved_finishRun h i db
  | recycle i => exact conserved_recycle h i

/-- At the start all slots are free. -/
theorem conserved_initDqs (slotCount workerCount connCount : Nat) (dbShardCount : UInt32) :
    (initDqs slotCount workerCount connCount dbShardCount).Conserved slotCount := by
  have hheld : (List.replicate workerCount ({} : DbWorker)).flatMap DqsPool.held = [] := by
    simp [DqsPool.held]
  have hwait : (List.replicate workerCount ({} : DbWorker)).flatMap DbWorker.places = [] := by
    simp [DbWorker.places, executing]
  refine ⟨?_, ?_, List.nodup_nil, fun k => ?_, fun _ h => absurd h List.not_mem_nil,
    fun _ h => absurd h List.not_mem_nil⟩
  · simp [places, initDqs, hheld]
  · simp [waiting, initDqs, hwait]
  · simp [waiting, initDqs, hwait]

end Steps

/-! ## Runs -/

/-- **Conservation**: in every state of a run, whatever is pushed, whatever
the database does and however producers and workers interleave, each slot is
in exactly one place, and every request whose push returned `true` gets one
result by the time its slot goes back. -/
theorem conserved_run (slotCount workerCount connCount : Nat) (dbShardCount : UInt32)
    (es : List Event) :
    OwnedOnce slotCount (run step (initDqs slotCount workerCount connCount dbShardCount) es) ∧
      OneResultEach (run step (initDqs slotCount workerCount connCount dbShardCount) es) := by
  have h : (run step (initDqs slotCount workerCount connCount dbShardCount) es).Conserved
      slotCount :=
    run_induction (conserved_initDqs ..) fun _ e h => conserved_step h e
  generalize run step (initDqs slotCount workerCount connCount dbShardCount) es = p at h ⊢
  have hnodup : p.accepted.Nodup := (List.nodup_append.mp h.numbered).1
  refine ⟨fun idx hidx => ?_, hnodup, fun k hk => ?_, fun e he => ⟨?_, h.answered e he⟩⟩
  · rw [h.once.count_eq]
    exact List.count_eq_one_of_mem List.nodup_range (List.mem_range.mpr hidx)
  · have hbooked := h.booked k
    rw [List.count_eq_one_of_mem hnodup hk] at hbooked
    split_ifs with hwaiting
    · have hpos : 0 < (p.waiting.map p.pushOf).count k :=
        List.count_pos_iff.mpr (List.mem_map.mpr hwaiting)
      omega
    · have hzero : (p.waiting.map p.pushOf).count k = 0 :=
        List.count_eq_zero.mpr fun hmem => hwaiting (List.mem_map.mp hmem)
      omega
  · have hpos : 0 < (p.results.map Prod.fst).count e.1 :=
      List.count_pos_iff.mpr (List.mem_map_of_mem he)
    have hbooked := h.booked e.1
    exact List.count_pos_iff.mp (by omega)

end AccountDqs

end GameServer
