import Mathlib.Data.List.Nodup
import GameServer.Lib.Mailbox
import GameServer.Lib.Run

/-!
# GameServer.Net.ActorSystem

The executor of the actors (`net::ActorSystem`): ids are hashed to shards,
and each shard is a thread that takes its whole queue at once and runs the
tasks of that batch one after the other.

Posts hold the lock of the shard table, and a stop takes the shards out of
the table under the same lock; the threads go on until they are told to stop,
and finish the batch they have.  `post_actor` looks at the table before it
takes the lock, and takes an empty one for a system that was not started: it
runs the function itself, on the thread of the caller, while the shards still
run theirs.

* `post`, `postActor`, `stop` — the callers;
* `swapQueue`, `runNext`, `finish` — the loop of a shard;
* `MailboxOrder` — the tasks of an actor run in the order of their posts, on
  one shard, once and one at a time;
* `mailboxOrder_iff` — it does exactly without a `lateCall`.
-/

namespace GameServer

/-- A task, with the number of the call that posted it. -/
structure Task where
  actor : UInt64
  number : Nat
deriving DecidableEq, Repr

/-- Where a task is run: on the thread of a shard, or on its caller's. -/
inductive Site where
  | shard (i : Nat)
  | caller
deriving DecidableEq, Repr

/-- `ActorSystem::Shard`, with the state of `worker_loop_` on its thread:
`batch` is what is left of `local`, `current` the task that is running. -/
structure Shard where
  q : List Task := []
  batch : List Task := []
  current : Option Task := none
  stopRequested : Bool := false
  exited : Bool := false
deriving DecidableEq, Repr

/-- `ActorSystem`.  A stop swaps `shards_` with a local vector; here the
shards stay where they are and `taken` says that the table is empty.  The
logs are of what was posted and of what was started and where; `calling` are
the tasks that their callers are running. -/
structure ActorSystem where
  running : Bool := false
  shards : List Shard := []
  taken : Bool := false
  posted : List Task := []
  executed : List (Site × Task) := []
  calling : List Task := []
deriving DecidableEq, Repr

namespace ActorSystem

/-- `pick_shard_`, for a table of `n` shards. -/
def pickShard (n : Nat) (id : UInt64) : Nat :=
  let n := if n = 0 then 1 else n
  (id ^^^ (id >>> 33) ^^^ (id <<< 11)).toNat % n

/-- `start`, after the `stop` it begins with. -/
def start (threadCount : Nat) : ActorSystem where
  running := true
  shards := List.replicate (max 1 threadCount) {}

/-- The task of the next call. -/
def nextTask (s : ActorSystem) (id : UInt64) : Task := { actor := id, number := s.posted.length }

/-- `fn()` on the thread of the caller, which starts at once. -/
def runInline (s : ActorSystem) (id : UInt64) : ActorSystem :=
  { s with
    posted := s.posted ++ [s.nextTask id]
    executed := s.executed ++ [(.caller, s.nextTask id)]
    calling := s.calling ++ [s.nextTask id] }

/-- `post`; `fn` says that the function is not empty. -/
def post (s : ActorSystem) (id : UInt64) (fn : Bool) : ActorSystem :=
  if !fn then s
  else if !s.running then { s with posted := s.posted ++ [s.nextTask id] }
  else if s.taken then s.runInline id
  else
    { s with
      posted := s.posted ++ [s.nextTask id]
      shards := s.shards.modify (pickShard s.shards.length id)
        fun sh => { sh with q := sh.q ++ [s.nextTask id] } }

/-- `post_actor`: it looks at the table before it posts, without the lock;
`makes` says that the factory gives it an actor.  A call that a stop overtakes
between its look and its post is a `post` after the stop. -/
def postActor (s : ActorSystem) (id : UInt64) (factory fn makes : Bool) : ActorSystem :=
  if !fn then s
  else if !factory then s
  else if s.taken then if makes then s.runInline id else s
  else s.post id true

/-- The function that the caller ran returns. -/
def returnInline (s : ActorSystem) (k : Nat) : ActorSystem :=
  { s with calling := s.calling.eraseIdx k }

/-- `stop`, up to the destruction of the shards it has taken. -/
def stop (s : ActorSystem) : ActorSystem := { s with running := false, taken := true }

/-- The destruction of a shard that was taken asks its thread to stop. -/
def requestStop (s : ActorSystem) (i : Nat) : ActorSystem :=
  if s.taken then { s with shards := s.shards.modify i fun sh => { sh with stopRequested := true } }
  else s

/-- The head of the loop in `worker_loop_`: the thread ends, or swaps the
queue for an empty one. -/
def Shard.swapQueue (sh : Shard) : Shard :=
  if sh.exited || sh.current.isSome || !sh.batch.isEmpty then sh
  else if sh.stopRequested then { sh with exited := true }
  else { sh with batch := sh.q, q := [] }

def swapQueue (s : ActorSystem) (i : Nat) : ActorSystem :=
  { s with shards := s.shards.modify i Shard.swapQueue }

/-- The next task of the batch starts. -/
def runNext (s : ActorSystem) (i : Nat) : ActorSystem :=
  match s.shards[i]? with
  | some sh =>
      match sh.current, sh.batch with
      | none, t :: rest =>
          { s with
            shards := s.shards.set i { sh with current := some t, batch := rest }
            executed := s.executed ++ [(.shard i, t)] }
      | _, _ => s
  | none => s

/-- The task returns, or throws, which is swallowed. -/
def finish (s : ActorSystem) (i : Nat) : ActorSystem :=
  { s with shards := s.shards.modify i fun sh => { sh with current := none } }

/-- What happens next: a call on some thread, a running task's included, or a
step of the thread of a shard. -/
inductive Event where
  | post (id : UInt64) (fn : Bool)
  | postActor (id : UInt64) (factory fn makes : Bool)
  | returnInline (k : Nat)
  | stop
  | requestStop (i : Nat)
  | swapQueue (i : Nat)
  | runNext (i : Nat)
  | finish (i : Nat)

def step (s : ActorSystem) : Event → ActorSystem
  | .post id fn => s.post id fn
  | .postActor id factory fn makes => s.postActor id factory fn makes
  | .returnInline k => s.returnInline k
  | .stop => s.stop
  | .requestStop i => s.requestStop i
  | .swapQueue i => s.swapQueue i
  | .runNext i => s.runNext i
  | .finish i => s.finish i

/-! ## What was posted and what was run -/

/-- The shard of `n` that a task goes to. -/
def home (n : Nat) (t : Task) : Nat := pickShard n t.actor

/-- The tasks a shard has started, in order. -/
def executedOn (s : ActorSystem) (i : Nat) : List Task :=
  (s.executed.filter fun e => e.1 = .shard i).map Prod.snd

/-- The tasks of an actor that were started, in order. -/
def executedOf (s : ActorSystem) (id : UInt64) : List Task :=
  (s.executed.filter fun e => e.2.actor = id).map Prod.snd

/-- The tasks posted for an actor, in order. -/
def postedTo (s : ActorSystem) (id : UInt64) : List Task := Mailbox.inbox Task.actor id s.posted

/-- The tasks that are running, on whatever thread. -/
def inProgress (s : ActorSystem) : List Task := s.shards.filterMap Shard.current ++ s.calling

/-- The tasks of an actor are started in the order of their posts, on its
shard, none of them twice and no two of them at once. -/
structure MailboxOrder (s : ActorSystem) : Prop where
  in_order : ∀ id, s.executedOf id <+: s.postedTo id
  on_shard : ∀ e ∈ s.executed, e.1 = .shard (pickShard s.shards.length e.2.actor)
  once : (s.executed.map Prod.snd).Nodup
  alone : s.inProgress.Pairwise fun t t' => t.actor ≠ t'.actor

/-- A call of `post_actor` that finds the table empty: the stop has taken the
shards. -/
def lateCall (s : ActorSystem) : Event → Bool
  | .postActor _ factory fn makes => s.taken && factory && fn && makes
  | _ => false

/-- What a shard has started, has in hand and has queued is what was posted
to it, up to what was posted after the stop. -/
structure InOrder (n : Nat) (s : ActorSystem) : Prop where
  count : s.shards.length = n
  numbered : s.posted.map Task.number = List.range s.posted.length
  running_iff : s.running = !s.taken
  home_of_mem : ∀ e ∈ s.executed, e.1 = .shard (home n e.2)
  current_mem : ∀ i sh t, s.shards[i]? = some sh → sh.current = some t →
    (.shard i, t) ∈ s.executed
  queued : ∀ i sh, s.shards[i]? = some sh → ∃ dropped,
    Mailbox.inbox (home n) i s.posted = s.executedOn i ++ sh.batch ++ sh.q ++ dropped ∧
      (s.running → dropped = [])
  calling_nil : s.calling = []

/-! ## Steps -/

section Steps

variable {n : Nat} {s : ActorSystem} {id : UInt64} {i : Nat}

theorem getElem?_modify_eq_some {shards : List Shard} {f : Shard → Shard} {j : Nat} {sh' : Shard} :
    (shards.modify i f)[j]? = some sh' ↔
      ∃ sh, shards[j]? = some sh ∧ sh' = if i = j then f sh else sh := by
  rw [List.getElem?_modify, Option.map_eq_map, Option.map_eq_some_iff]
  exact exists_congr fun _ => and_congr_right fun _ => eq_comm

/-- At the start nothing was posted. -/
theorem inOrder_start (threadCount : Nat) : (start threadCount).InOrder (max 1 threadCount) where
  count := List.length_replicate
  numbered := rfl
  running_iff := rfl
  home_of_mem := by simp [start]
  current_mem := by
    intro i sh t hsh hcurrent
    obtain ⟨-, rfl⟩ := List.mem_replicate.mp (List.mem_of_getElem? hsh)
    cases hcurrent
  queued := by
    intro i sh hsh
    obtain ⟨-, rfl⟩ := List.mem_replicate.mp (List.mem_of_getElem? hsh)
    exact ⟨[], rfl, fun _ => rfl⟩
  calling_nil := rfl

theorem numbered_append (h : s.posted.map Task.number = List.range s.posted.length) :
    (s.posted ++ [s.nextTask id]).map Task.number =
      List.range (s.posted ++ [s.nextTask id]).length := by
  simp [h, nextTask, List.range_succ]

/-- A `post` after the stop is dropped. -/
theorem InOrder.dropped (h : s.InOrder n) (hrunning : s.running = false) :
    InOrder n { s with posted := s.posted ++ [s.nextTask id] } where
  count := h.count
  numbered := numbered_append h.numbered
  running_iff := h.running_iff
  home_of_mem := h.home_of_mem
  current_mem := h.current_mem
  queued := by
    intro i sh hsh
    obtain ⟨dropped, heq, -⟩ := h.queued i sh hsh
    refine ⟨dropped ++ Mailbox.inbox (home n) i [s.nextTask id], ?_, fun hrun => ?_⟩
    · rw [← List.append_assoc]
      exact (Mailbox.inbox_append _).trans (congrArg (· ++ _) heq)
    · rw [hrunning] at hrun
      cases hrun
  calling_nil := h.calling_nil

/-- A step of one shard that starts no task. -/
theorem InOrder.modify (h : s.InOrder n) {f : Shard → Shard}
    (hqueue : ∀ sh, (f sh).batch ++ (f sh).q = sh.batch ++ sh.q)
    (hcurrent : ∀ sh t, (f sh).current = some t → sh.current = some t) :
    InOrder n { s with shards := s.shards.modify i f } where
  count := (List.length_modify ..).trans h.count
  numbered := h.numbered
  running_iff := h.running_iff
  home_of_mem := h.home_of_mem
  current_mem := by
    intro j sh' t hsh' ht
    obtain ⟨sh, hsh, rfl⟩ := getElem?_modify_eq_some.mp hsh'
    refine h.current_mem j sh t hsh ?_
    split_ifs at ht
    · exact hcurrent sh t ht
    · exact ht
  queued := by
    intro j sh' hsh'
    obtain ⟨sh, hsh, rfl⟩ := getElem?_modify_eq_some.mp hsh'
    obtain ⟨dropped, heq, hnone⟩ := h.queued j sh hsh
    refine ⟨dropped, heq.trans ?_, hnone⟩
    split_ifs
    · rw [List.append_assoc _ sh.batch, ← hqueue sh, ← List.append_assoc]
      rfl
    · rfl
  calling_nil := h.calling_nil

/-- A posted task goes to the end of the queue of its shard. -/
theorem inOrder_post (h : s.InOrder n) (id : UInt64) (fn : Bool) : (s.post id fn).InOrder n := by
  unfold post
  split_ifs with hfn hrunning htaken
  · exact h
  · exact h.dropped (by simpa using hrunning)
  · -- A system that runs has its shards.
    have hrun : s.running = true := by simpa using hrunning
    have hiff := h.running_iff
    rw [htaken, hrun] at hiff
    cases hiff
  · -- The task goes to the queue of its shard, and nothing was dropped so far.
    have hrun : s.running = true := by simpa using hrunning
    rw [h.count]
    refine ⟨(List.length_modify ..).trans h.count, numbered_append h.numbered, h.running_iff,
      h.home_of_mem, fun j sh' t hsh' ht => ?_, fun j sh' hsh' => ?_, h.calling_nil⟩
    · obtain ⟨sh, hsh, rfl⟩ := getElem?_modify_eq_some.mp hsh'
      refine h.current_mem j sh t hsh ?_
      split_ifs at ht <;> exact ht
    · obtain ⟨sh, hsh, rfl⟩ := getElem?_modify_eq_some.mp hsh'
      obtain ⟨dropped, heq, hnone⟩ := h.queued j sh hsh
      cases hnone hrun
      refine ⟨[], ?_, fun _ => rfl⟩
      change Mailbox.inbox (home n) j (s.posted ++ [s.nextTask id]) = _
      rw [Mailbox.inbox_append, heq]
      split_ifs with hj
      · subst hj
        rw [show pickShard n id = home n (s.nextTask id) from rfl, Mailbox.inbox_singleton_self]
        simp [executedOn]
      · have hne : home n (s.nextTask id) ≠ j := hj
        rw [Mailbox.inbox_singleton_of_ne hne]
        simp [executedOn]

/-- A worker takes the whole queue as its batch, in order. -/
theorem inOrder_swapQueue (h : s.InOrder n) (i : Nat) : (s.swapQueue i).InOrder n := by
  refine h.modify (fun sh => ?_) fun sh t ht => ?_
  · unfold Shard.swapQueue
    split_ifs with hbusy hstop
    · rfl
    · rfl
    · have hbatch : sh.batch = [] := by
        simp only [Bool.or_eq_true, not_or, Bool.not_eq_true', Bool.not_eq_false,
          List.isEmpty_iff] at hbusy
        exact hbusy.2
      rw [hbatch, List.append_nil, List.nil_append]
  · unfold Shard.swapQueue at ht
    split_ifs at ht <;> exact ht

/-- It runs the front of the batch. -/
theorem inOrder_runNext (h : s.InOrder n) (i : Nat) : (s.runNext i).InOrder n := by
  unfold runNext
  cases hsh : s.shards[i]? with
  | none => exact h
  | some sh =>
      dsimp only
      split
      · rename_i t rest hcurrent hbatch
        obtain ⟨dropped, heq, hnone⟩ := h.queued i sh hsh
        have hlt : i < s.shards.length := (List.getElem?_eq_some_iff.mp hsh).1
        -- It is among what was posted to this shard.
        have hhome : home n t = i := by
          have hmem : t ∈ Mailbox.inbox (home n) i s.posted := by
            rw [heq, hbatch]
            simp
          simpa [Mailbox.inbox] using (List.mem_filter.mp hmem).2
        refine ⟨(List.length_set ..).trans h.count, h.numbered, h.running_iff, fun e he => ?_,
          fun j sh' t' hsh' ht' => ?_, fun j sh' hsh' => ?_, h.calling_nil⟩
        · rcases List.mem_append.mp he with he | he
          · exact h.home_of_mem e he
          · rw [List.mem_singleton.mp he]
            exact congrArg Site.shard hhome.symm
        · rw [List.getElem?_set] at hsh'
          split_ifs at hsh' with hij
          · cases hsh'
            cases ht'
            exact hij ▸ List.mem_append_right _ List.mem_cons_self
          · exact List.mem_append_left _ (h.current_mem j sh' t' hsh' ht')
        · rw [List.getElem?_set] at hsh'
          split_ifs at hsh' with hij
          · cases hsh'
            subst hij
            refine ⟨dropped, heq.trans ?_, hnone⟩
            simp [executedOn, hbatch]
          · obtain ⟨dropped', heq', hnone'⟩ := h.queued j sh' hsh'
            refine ⟨dropped', heq'.trans ?_, hnone'⟩
            simp [executedOn, hij]
      · exact h

/-- The step lemma, for a post that finds the shards in place. -/
theorem inOrder_step (h : s.InOrder n) (e : Event) (hlate : s.lateCall e = false) :
    (s.step e).InOrder n := by
  cases e with
  | post id fn => exact inOrder_post h id fn
  | postActor id factory fn makes =>
      simp only [step, postActor]
      split_ifs with hfn hfactory htaken hmakes
      · exact h
      · exact h
      · have hcall : s.lateCall (.postActor id factory fn makes) = true := by
          simpa [lateCall, htaken, hmakes] using And.intro hfactory hfn
        rw [hcall] at hlate
        cases hlate
      · exact h
      · exact inOrder_post h id true
  | returnInline k =>
      have hnone : s.returnInline k = s := by
        unfold returnInline
        rw [h.calling_nil, List.eraseIdx_nil, ← h.calling_nil]
      rw [step, hnone]
      exact h
  | stop =>
      refine ⟨h.count, h.numbered, rfl, h.home_of_mem, h.current_mem, fun i sh hsh => ?_,
        h.calling_nil⟩
      obtain ⟨dropped, heq, -⟩ := h.queued i sh hsh
      exact ⟨dropped, heq, nofun⟩
  | requestStop i =>
      simp only [step, requestStop]
      split_ifs
      · exact h.modify (fun _ => rfl) fun _ _ => id
      · exact h
  | swapQueue i => exact inOrder_swapQueue h i
  | runNext i => exact inOrder_runNext h i
  | finish i => exact h.modify (fun _ => rfl) fun _ _ => nofun

end Steps

/-! ## Runs -/

section Order

variable {n : Nat} {s : ActorSystem} {id : UInt64}

/-- What an actor has run is what its shard has run of it. -/
theorem InOrder.executedOf_eq (h : s.InOrder n) :
    s.executedOf id = (s.executedOn (pickShard n id)).filter fun t => t.actor = id := by
  unfold executedOf executedOn
  rw [List.filter_map, List.filter_filter]
  refine congrArg _ (List.filter_congr fun e he => ?_)
  have hhome : e.1 = .shard (pickShard n e.2.actor) := h.home_of_mem e he
  by_cases hid : e.2.actor = id
  · simp [hid, hhome]
  · simp [hid]

/-- The tasks of an actor are started in the order of their posts. -/
theorem InOrder.executedOf_isPrefix (h : s.InOrder n) (hshard : pickShard n id < n) :
    s.executedOf id <+: s.postedTo id := by
  have hlt : pickShard n id < s.shards.length := by rwa [h.count]
  obtain ⟨dropped, heq, -⟩ := h.queued (pickShard n id) _ (List.getElem?_eq_getElem hlt)
  have hsub : s.postedTo id =
      (Mailbox.inbox (home n) (pickShard n id) s.posted).filter fun t => t.actor = id := by
    unfold postedTo Mailbox.inbox
    rw [List.filter_filter]
    refine List.filter_congr fun t _ => ?_
    by_cases hid : t.actor = id
    · simp [hid, home]
    · simp [hid]
  rw [h.executedOf_eq, hsub, heq, List.append_assoc, List.append_assoc, List.filter_append]
  exact List.prefix_append _ _

/-- No call is numbered twice, and no task is started twice. -/
theorem InOrder.nodup_executed (h : s.InOrder n) (hshard : ∀ id, pickShard n id < n) :
    (s.executed.map Prod.snd).Nodup := by
  have hposted : s.posted.Nodup :=
    List.Nodup.of_map Task.number (by rw [h.numbered]; exact List.nodup_range)
  have hof : ∀ id, (s.executedOf id).Nodup := fun id =>
    ((h.executedOf_isPrefix (hshard id)).sublist.trans List.filter_sublist).nodup hposted
  rw [List.nodup_iff_count_le_one]
  intro t
  -- The occurrences of a task are those among the tasks of its actor.
  have hcount : (s.executed.map Prod.snd).count t = (s.executedOf t.actor).count t := by
    rw [executedOf,
      ← List.count_filter (p := fun t' : Task => decide (t'.actor = t.actor)) (by simp),
      List.filter_map]
    rfl
  rw [hcount]
  exact List.nodup_iff_count_le_one.mp (hof t.actor) t

theorem pickShard_lt {n : Nat} (hn : 0 < n) (id : UInt64) : pickShard n id < n := by
  unfold pickShard
  rw [if_neg (by omega)]
  exact Nat.mod_lt _ hn

/-- A shard runs one task at a time, and an actor has one shard. -/
theorem InOrder.alone (h : s.InOrder n) :
    s.inProgress.Pairwise fun t t' => t.actor ≠ t'.actor := by
  unfold inProgress
  rw [h.calling_nil, List.append_nil, List.pairwise_filterMap, List.pairwise_iff_getElem]
  intro i j hi hj hij t ht t' ht' hactor
  have hhome := h.home_of_mem _ (h.current_mem i _ t (List.getElem?_eq_getElem hi) ht)
  have hhome' := h.home_of_mem _ (h.current_mem j _ t' (List.getElem?_eq_getElem hj) ht')
  have heq : i = j :=
    calc i = home n t := Site.shard.inj hhome
      _ = home n t' := congrArg (pickShard n) hactor
      _ = j := (Site.shard.inj hhome').symm
  omega

/-- The invariant, one actor at a time. -/
theorem InOrder.mailboxOrder (h : s.InOrder n) (hn : 0 < n) : s.MailboxOrder where
  in_order := fun _ => h.executedOf_isPrefix (pickShard_lt hn _)
  on_shard := by
    rw [h.count]
    exact h.home_of_mem
  once := h.nodup_executed (pickShard_lt hn)
  alone := h.alone

end Order

/-- What a late call runs, it does not run on a shard. -/
theorem lateCall_eq_false_of_mailboxOrder {s : ActorSystem} {e : Event}
    (h : (s.step e).MailboxOrder) : s.lateCall e = false := by
  cases e with
  | postActor id factory fn makes =>
      rw [← Bool.not_eq_true]
      intro hlate
      simp only [lateCall, Bool.and_eq_true] at hlate
      obtain ⟨⟨⟨htaken, rfl⟩, rfl⟩, rfl⟩ := hlate
      have hrun : s.step (.postActor id true true true) = s.runInline id := by
        simp [step, postActor, htaken]
      rw [hrun] at h
      have hshard := h.on_shard (.caller, s.nextTask id) (List.mem_append_right _ (.head _))
      cases hshard
  | post id fn => rfl
  | returnInline k => rfl
  | stop => rfl
  | requestStop i => rfl
  | swapQueue i => rfl
  | runNext i => rfl
  | finish i => rfl

/-- **Mailbox order**: from a start on, whatever is posted, whatever the
threads of the shards do and wherever a stop falls, the tasks of an actor are
started in the order of their posts and all on one shard, no task is started
twice and two tasks of one actor do not run at once, exactly if no
`post_actor` comes once the stop has taken the shards. -/
theorem mailboxOrder_iff (threadCount : Nat) (es : List Event) :
    Always step MailboxOrder (start threadCount) es ↔
      Along step (fun s e => s.lateCall e = false) (start threadCount) es := by
  have hn : 0 < max 1 threadCount := by omega
  exact always_iff_along_of_strong (W := InOrder (max 1 threadCount))
    (inOrder_start threadCount) (fun _ h => h.mailboxOrder hn)
    (fun _ e h hlate => inOrder_step h e hlate)
    fun _ _ _ h => lateCall_eq_false_of_mailboxOrder h

/-- Two tasks of actor 7 are posted and the first is running when the stop
takes the shards; a `post_actor` for the actor then runs at once, beside the
first task and before the second. -/
theorem not_mailboxOrder_of_lateCall :
    ¬ Always step MailboxOrder (start 1)
      [.post 7 true, .swapQueue 0, .runNext 0, .post 7 true, .stop,
        .postActor 7 true true true] := by
  intro h
  have hend := always_iff_forall_part.mp h _ List.prefix_rfl
  exact absurd (hend.in_order 7) (by decide)

/-- Both tasks of actor 7 run, in their order, when nothing is posted once
the stop has begun. -/
example :
    let s := run step (start 2)
      [.post 7 true, .swapQueue 1, .runNext 1, .post 7 true, .stop, .finish 1, .swapQueue 1,
        .runNext 1, .requestStop 1, .finish 1, .swapQueue 1]
    s.executedOf 7 = s.postedTo 7 ∧ s.inProgress = [] := by
  decide

end ActorSystem

end GameServer
