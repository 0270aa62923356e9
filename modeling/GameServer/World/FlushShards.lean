import GameServer.World.DqsPool
import GameServer.World.WriteBehind

/-!
# GameServer.World.FlushShards

Which database worker handles which character.

`RouteShard_` sends a job for one character to the worker of its id modulo
the number of shards, and a batch flush to the worker of its shard id; but
the key of the dirty set does not depend on the shard, so that a batch takes
characters of every shard.

* `DbLine`, `step` — the pool of jobs, the workers with what they execute,
  and the store; every call of a flush is one step;
* `PerCharacter` — a character is handled by the worker of its own shard, and
  no older blob of it is saved after a newer one;
* `perCharacter_run_iff` — this is so as long as what a worker takes up is about
  characters of its shard;
* `perCharacter_iff_batches` — which is a matter of the batches, unless a slot
  that was returned twice is filled again while it waits.
-/

namespace GameServer

/-- What a worker executes: a flush, or the load of a snapshot for an enter. -/
inductive DbTask where
  | flush (f : Flush)
  | snapshot (charId : UInt64)
deriving DecidableEq, Repr

/-- The characters of a task. -/
def DbTask.chars : DbTask → List UInt64
  | .flush f => f.charId :: f.rest
  | .snapshot charId => [charId]

/-- The step of a flush in which it saves its blob. -/
def Flush.saves (f : Flush) (ok : Bool) : Bool :=
  match f.phase with
  | .saving blob =>
      match f.kind with
      | .one _ => f.charId ≠ 0 && blob ≠ [] && ok
      | .batch => ok
  | _ => false

/-- `CacheCharacterState`. -/
def WriteStore.cacheCharacterState (st : WriteStore) (charId : UInt64) (blob : Blob) :
    WriteStore :=
  let st :=
    match tryDeserializeDemo blob with
    | none => st
    | some parsed =>
        if parsed.charId = charId then st.updateExpectedCharVersion charId parsed.version else st
  st.upsertCharacter charId blob

/-- The job pool, the store, and what each worker executes.  The rest are books
that the code does not keep: how often a character was cached, which of its
blobs the flush of a worker has read, and which were saved, in order. -/
structure DbLine where
  worldId : UInt32
  pool : DqsPool
  store : WriteStore := {}
  tasks : Nat → Option DbTask := fun _ => none
  cached : UInt64 → Nat := fun _ => 0
  read : Nat → Nat := fun _ => 0
  saves : List (UInt64 × Nat) := []

namespace DbLine

/-- The worker of a character's own jobs. -/
def workerOf (s : DbLine) (charId : UInt64) : Nat :=
  let shard := routeShard (UInt32.ofNat s.pool.workers.length) (.flushOneChar s.worldId charId 0)
  shard.toNat % s.pool.workers.length

/-- The job that an idle worker finds at the front of its queue. -/
def nextJob (s : DbLine) (i : Nat) : Option (Option DqsRequest) :=
  match s.pool.workers[i]? with
  | none => none
  | some w =>
      match w.current, w.queue with
      | none, idx :: _ => some (s.pool.slots idx).job
      | _, _ => none

/-- The entry of `OnDQSRunOne`: what there is to do, and the store once a batch
has been taken. -/
def enterJob (s : DbLine) (order : List UInt64) (job : Option DqsRequest) :
    Option DbTask × WriteStore :=
  match job with
  | some ⟨.world, .flushOneChar worldCode charId expectedVersion, _⟩ =>
      if worldCode = s.worldId then
        (some (.flush { kind := .one expectedVersion, charId }), s.store)
      else (none, s.store)
  | some ⟨.world, .flushDirtyChars worldId _ maxBatch, _⟩ =>
      if worldId = s.worldId then
        let batch := s.store.takeDirtyBatch order (if maxBatch = 0 then 200 else maxBatch.toNat)
        match batch.1 with
        | [] => (none, batch.2)
        | charId :: rest => (some (.flush { kind := .batch, charId, rest }), batch.2)
      else (none, s.store)
  | some ⟨.world, .worldCharacterEnterSnapshot worldId _ _ _ _ charId _, _⟩ =>
      if worldId = s.worldId then (some (.snapshot charId), s.store) else (none, s.store)
  | _ => (none, s.store)

/-- An idle worker takes up its next job. -/
def start (s : DbLine) (i : Nat) (order : List UInt64) : DbLine :=
  match s.nextJob i with
  | none => s
  | some job =>
      let entered := s.enterJob order job
      { s with
        pool := s.pool.startRun i
        store := entered.2
        tasks := Function.update s.tasks i entered.1 }

/-- A worker makes the next step of its task. -/
def advance (s : DbLine) (i : Nat) (ok : Bool) : DbLine :=
  match s.tasks i with
  | none => s
  | some (.snapshot _) => { s with tasks := Function.update s.tasks i none }
  | some (.flush f) =>
      let next := s.store.flushStep f ok
      { s with
        store := next.1
        tasks := Function.update s.tasks i (next.2.map .flush)
        read :=
          if f.phase = .unread then Function.update s.read i (s.cached f.charId) else s.read
        saves := if f.saves ok then s.saves ++ [(f.charId, s.read i)] else s.saves }

/-- The end of `OnDQSRunOne`. -/
def finish (s : DbLine) (i : Nat) : DbLine :=
  if s.tasks i = none then { s with pool := s.pool.finishRun i } else s

/-- Gameplay caches a state. -/
def cache (s : DbLine) (charId : UInt64) (blob : Blob) : DbLine :=
  { s with
    store := s.store.cacheCharacterState charId blob
    cached := Function.update s.cached charId (s.cached charId + 1) }

/-- What can happen next. -/
inductive Event where
  | push (req : DqsRequest)
  | enqueue (k : Nat)
  | start (worker : Nat) (order : List UInt64)
  | advance (worker : Nat) (ok : Bool)
  | finish (worker : Nat)
  | recycle (worker : Nat)
  | cache (charId : UInt64) (blob : Blob)
deriving DecidableEq, Repr

def step (s : DbLine) : Event → DbLine
  | .push req => { s with pool := s.pool.pushDQSData req }
  | .enqueue k => { s with pool := s.pool.enqueue k }
  | .start i order => s.start i order
  | .advance i ok => s.advance i ok
  | .finish i => s.finish i
  | .recycle i => { s with pool := s.pool.recycle i }
  | .cache charId blob => s.cache charId blob

/-- A world with idle workers and an empty Redis, over any database. -/
def init (worldId : UInt32) (capacity shardCount : Nat) (saved : Table UInt64 Blob) : DbLine :=
  { worldId, pool := .initDQS capacity shardCount, store := { saved } }

/-- **Per-character order**: a character is handled by the worker of its own
shard, so never by two at once, and no older blob of it is saved after a
newer one. -/
structure PerCharacter (s : DbLine) : Prop where
  own : ∀ i task, s.tasks i = some task → ∀ c ∈ task.chars, s.workerOf c = i
  alone : ∀ i j task task', s.tasks i = some task → s.tasks j = some task' →
    ∀ c ∈ task.chars, c ∈ task'.chars → i = j
  order : s.saves.Pairwise fun a b => a.1 = b.1 → a.2 ≤ b.2

/-- A worker takes up a job whose characters are those of its shard: the one
in the payload, or those of the batch that will be taken. -/
def TakesOwn (s : DbLine) : Event → Prop
  | .start i order => ∀ job ∈ s.nextJob i, ∀ task ∈ (s.enterJob order job).1,
      ∀ c ∈ task.chars, s.workerOf c = i
  | _ => True

/-! ## A step of a flush -/

section

variable {st : WriteStore} {f g : Flush} {ok : Bool}

/-- The next step of a flush takes the next character. -/
theorem chars_of_next (h : f.next = some g) : g.charId :: g.rest = f.rest := by
  unfold Flush.next at h
  split at h
  · cases h
  · rename_i hrest
    cases h
    exact hrest.symm

theorem blob_of_next (h : f.next = some g) : g.phase.blob = none := by
  unfold Flush.next at h
  split at h
  · cases h
  · cases h
    rfl

/-- A flush goes on to the characters of its batch only. -/
theorem chars_flushStep (h : (st.flushStep f ok).2 = some g) {c : UInt64}
    (hc : c ∈ g.charId :: g.rest) : c ∈ f.charId :: f.rest := by
  have hstep := flushStep_spec st f ok
  rw [h] at hstep
  generalize hst : (st.flushStep f ok).1 = st' at hstep
  have hnext : f.next = some g → c ∈ f.charId :: f.rest := by
    intro hnext
    rw [chars_of_next hnext] at hc
    exact List.mem_cons_of_mem _ hc
  generalize ho : some g = o at hstep
  cases hstep with
  | skip => exact hnext ho.symm
  | conflict => exact hnext ho.symm
  | read => cases ho; exact hc
  | hold => cases ho; exact hc
  | save => cases ho; exact hc
  | skipSave => cases ho; exact hc
  | unmark => exact hnext ho.symm
  | done => exact hnext ho.symm
  | mark => exact hnext ho.symm

/-- A flush has the blob of a character after it has read it. -/
theorem blob_flushStep (h : (st.flushStep f ok).2 = some g) (hblob : g.phase.blob ≠ none) :
    g.charId = f.charId ∧ (f.phase = .unread ∨ f.phase.blob ≠ none ∧ f.saves ok = false) := by
  obtain ⟨kind, charId, phase, rest⟩ := f
  have hnext : ∀ f : Flush, f.next ≠ some g := fun f hf => hblob (blob_of_next hf)
  cases phase with
  | unread =>
      refine ⟨?_, .inl rfl⟩
      simp only [WriteStore.flushStep] at h
      split at h
      · exact absurd h (hnext _)
      · split at h
        · split_ifs at h
          · exact absurd h (hnext _)
          · cases h
            rfl
        · cases h
          rfl
  | holding blob =>
      simp only [WriteStore.flushStep] at h
      split_ifs at h
      · cases h
        simp [FlushPhase.blob] at hblob
      · cases h
        exact ⟨rfl, .inr ⟨by simp [FlushPhase.blob], rfl⟩⟩
  | saving blob =>
      simp only [WriteStore.flushStep] at h
      split at h <;> split_ifs at h <;> cases h <;> simp [FlushPhase.blob] at hblob
  | saved =>
      simp only [WriteStore.flushStep] at h
      split at h <;> exact absurd h (hnext _)
  | marking => exact absurd h (hnext _)

theorem blob_of_saves (h : f.saves ok = true) : f.phase.blob ≠ none := by
  unfold Flush.saves at h
  split at h
  · rename_i blob hphase
    simp [hphase, FlushPhase.blob]
  · cases h

end

/-! ## Steps -/

/-- The workers are made at the start. -/
theorem length_workers_step (p : DqsPool) (e : DqsPool.Event) :
    (p.step e).workers.length = p.workers.length := by
  cases e with
  | push req =>
      simp only [DqsPool.step, DqsPool.pushDQSData]
      split_ifs
      · rfl
      · rfl
      · split <;> rfl
  | enqueue k =>
      simp only [DqsPool.step, DqsPool.enqueue]
      split
      · rfl
      · split
        · rfl
        · simp
  | startRun i =>
      simp only [DqsPool.step, DqsPool.startRun]
      split
      · rfl
      · split <;> simp
  | finishRun i =>
      simp only [DqsPool.step, DqsPool.finishRun]
      split
      · rfl
      · split <;> simp [DqsPool.release]
  | recycle i =>
      simp only [DqsPool.step, DqsPool.recycle]
      split
      · rfl
      · split <;> simp [DqsPool.release]

variable {s : DbLine}

theorem workerOf_congr {s' : DbLine} (h : s'.pool.workers.length = s.pool.workers.length)
    (c : UInt64) : s'.workerOf c = s.workerOf c := by
  simp only [workerOf, h, routeShard]

/-- What the steps keep. -/
structure Booked (s : DbLine) : Prop where
  own : ∀ i task, s.tasks i = some task → ∀ c ∈ task.chars, s.workerOf c = i
  /-- A flush that has a blob has none older than a saved one. -/
  held : ∀ i f, s.tasks i = some (.flush f) → f.phase.blob ≠ none →
    s.read i ≤ s.cached f.charId ∧ ∀ e ∈ s.saves, e.1 = f.charId → e.2 ≤ s.read i
  logged : ∀ e ∈ s.saves, e.2 ≤ s.cached e.1
  order : s.saves.Pairwise fun a b => a.1 = b.1 → a.2 ≤ b.2

theorem Booked.perCharacter (h : Booked s) : PerCharacter s where
  own := h.own
  alone i j task task' hi hj c hc hc' := (h.own i task hi c hc).symm.trans (h.own j task' hj c hc')
  order := h.order

theorem booked_init (worldId : UInt32) (capacity shardCount : Nat) (saved : Table UInt64 Blob) :
    Booked (init worldId capacity shardCount saved) where
  own _ _ h := by cases h
  held _ _ h := by cases h
  logged _ h := by cases h
  order := .nil

/-- The jobs only move. -/
theorem Booked.pool (h : Booked s) (e : DqsPool.Event) :
    Booked { s with pool := s.pool.step e } where
  own i task htask c hc := by
    rw [workerOf_congr (length_workers_step s.pool e)]
    exact h.own i task htask c hc
  held := h.held
  logged := h.logged
  order := h.order

/-- A task that has just been entered has read nothing. -/
theorem blob_enterJob {order : List UInt64} {job : Option DqsRequest} {f : Flush}
    (h : (s.enterJob order job).1 = some (.flush f)) : f.phase.blob = none := by
  unfold enterJob at h
  split at h
  · split_ifs at h
    cases h
    rfl
  · split at h
    · dsimp only at h
      split at h
      · cases h
      · cases h
        rfl
    · cases h
  · split_ifs at h
    cases h
  · cases h

/-- A batch that starts takes characters which no other worker has. -/
theorem Booked.start (h : Booked s) {i : Nat} {order : List UInt64}
    (hown : s.TakesOwn (.start i order)) : Booked (s.start i order) := by
  unfold DbLine.start
  cases hjob : s.nextJob i with
  | none => exact h
  | some job =>
      have hpool := h.pool (.startRun i)
      refine ⟨fun j task htask c hc => ?_, fun j f htask hblob => ?_, h.logged, h.order⟩
      · dsimp only at htask
        rw [Function.update_apply] at htask
        split_ifs at htask with hj
        · subst hj
          rw [workerOf_congr (length_workers_step s.pool (.startRun j))]
          exact hown job hjob task htask c hc
        · exact hpool.own j task htask c hc
      · dsimp only at htask
        rw [Function.update_apply] at htask
        split_ifs at htask with hj
        · exact absurd (blob_enterJob htask) hblob
        · exact h.held j f htask hblob

/-- Caching a blob marks its character again. -/
theorem Booked.cache (h : Booked s) (c : UInt64) (blob : Blob) : Booked (s.cache c blob) := by
  have hle : ∀ c', s.cached c' ≤ (s.cache c blob).cached c' := by
    intro c'
    simp only [DbLine.cache, Function.update_apply]
    split_ifs with hc
    · rw [hc]
      omega
    · omega
  refine ⟨h.own, fun i f htask hblob => ?_, fun e he => ?_, h.order⟩
  · obtain ⟨hread, hsaves⟩ := h.held i f htask hblob
    exact ⟨hread.trans (hle _), hsaves⟩
  · exact (h.logged e he).trans (hle _)

/-- A flush that saves adds the newest of the saves of its character. -/
theorem Booked.saves (h : Booked s) {i : Nat} {f : Flush} (ok : Bool)
    (htask : s.tasks i = some (.flush f)) :
    (f.saves ok = false ∧ (s.advance i ok).saves = s.saves) ∨
      (f.saves ok = true ∧ (s.advance i ok).saves = s.saves ++ [(f.charId, s.read i)] ∧
        s.read i ≤ s.cached f.charId ∧ ∀ e ∈ s.saves, e.1 = f.charId → e.2 ≤ s.read i) := by
  simp only [DbLine.advance, htask]
  cases hsaves : f.saves ok with
  | false => exact .inl ⟨rfl, rfl⟩
  | true => exact .inr ⟨rfl, rfl, h.held i f htask (blob_of_saves hsaves)⟩

section

variable {i j : Nat} {f g : Flush} (ok : Bool)

theorem tasks_advance (htask : s.tasks i = some (.flush f)) :
    (s.advance i ok).tasks =
      Function.update s.tasks i ((s.store.flushStep f ok).2.map .flush) := by
  simp only [DbLine.advance, htask]

theorem cached_advance (htask : s.tasks i = some (.flush f)) :
    (s.advance i ok).cached = s.cached := by
  simp only [DbLine.advance, htask]

theorem read_advance (htask : s.tasks i = some (.flush f)) :
    (s.advance i ok).read =
      if f.phase = .unread then Function.update s.read i (s.cached f.charId) else s.read := by
  simp only [DbLine.advance, htask]

/-- The flush that goes on: what it has just read is the newest blob, and what
it holds is not saved yet. -/
theorem Booked.held_advance_self (h : Booked s) (htask : s.tasks i = some (.flush f))
    (hg : (s.store.flushStep f ok).2 = some g) (hblob : g.phase.blob ≠ none) :
    (s.advance i ok).read i ≤ s.cached g.charId ∧
      ∀ e ∈ (s.advance i ok).saves, e.1 = g.charId → e.2 ≤ (s.advance i ok).read i := by
  obtain ⟨hchar, hphase⟩ := blob_flushStep hg hblob
  have hnosave : f.saves ok = false := by
    rcases hphase with hunread | ⟨_, hnosave⟩
    · simp [Flush.saves, hunread]
    · exact hnosave
  have hsame := ((h.saves ok htask).resolve_right (by simp [hnosave])).2
  rw [read_advance ok htask, hchar, hsame]
  rcases hphase with hunread | ⟨hheld, _⟩
  · rw [if_pos hunread, Function.update_self]
    exact ⟨le_rfl, fun e he hc => hc ▸ h.logged e he⟩
  · have hphase : f.phase ≠ .unread := fun hunread => by simp [hunread, FlushPhase.blob] at hheld
    rw [if_neg hphase]
    exact h.held i f htask hheld

/-- The flush of another worker: it is not of the character that is saved. -/
theorem Booked.held_advance_other (h : Booked s) (htask : s.tasks i = some (.flush f))
    (hj : s.tasks j = some (.flush g)) (hne : j ≠ i) (hblob : g.phase.blob ≠ none) :
    (s.advance i ok).read j ≤ s.cached g.charId ∧
      ∀ e ∈ (s.advance i ok).saves, e.1 = g.charId → e.2 ≤ (s.advance i ok).read j := by
  have hread : (s.advance i ok).read j = s.read j := by
    rw [read_advance ok htask]
    split_ifs
    · exact Function.update_of_ne hne _ _
    · rfl
  obtain ⟨hle, hnewest⟩ := h.held j g hj hblob
  rw [hread]
  refine ⟨hle, fun e he hc => ?_⟩
  rcases h.saves ok htask with ⟨_, hsame⟩ | ⟨_, hmore, _⟩
  · exact hnewest e (hsame ▸ he) hc
  · rw [hmore] at he
    rcases List.mem_append.mp he with hold | hnew
    · exact hnewest e hold hc
    · obtain rfl := List.mem_singleton.mp hnew
      have hi := h.own i _ htask f.charId List.mem_cons_self
      have hj' := h.own j _ hj g.charId List.mem_cons_self
      dsimp only at hc
      rw [← hc, hi] at hj'
      exact absurd hj'.symm hne

/-- A worker that advances saves one character of its own batch. -/
theorem Booked.advance_flush (h : Booked s) (htask : s.tasks i = some (.flush f)) :
    Booked (s.advance i ok) := by
  have hworker : ∀ c, (s.advance i ok).workerOf c = s.workerOf c :=
    workerOf_congr (by simp only [DbLine.advance, htask])
  constructor
  · intro j task hj c hc
    rw [hworker]
    rw [tasks_advance ok htask, Function.update_apply] at hj
    split_ifs at hj with hji
    · subst hji
      obtain ⟨g, hg, rfl⟩ := Option.map_eq_some_iff.mp hj
      exact h.own j _ htask c (chars_flushStep hg hc)
    · exact h.own j task hj c hc
  · intro j g hj hblob
    rw [cached_advance ok htask]
    rw [tasks_advance ok htask, Function.update_apply] at hj
    split_ifs at hj with hji
    · subst hji
      obtain ⟨g', hg, heq⟩ := Option.map_eq_some_iff.mp hj
      obtain rfl : g' = g := by simpa using heq
      exact h.held_advance_self ok htask hg hblob
    · exact h.held_advance_other ok htask hj hji hblob
  · intro e he
    rw [cached_advance ok htask]
    rcases h.saves ok htask with ⟨_, hsame⟩ | ⟨_, hmore, hle, _⟩
    · exact h.logged e (hsame ▸ he)
    · rw [hmore] at he
      rcases List.mem_append.mp he with hold | hnew
      · exact h.logged e hold
      · obtain rfl := List.mem_singleton.mp hnew
        exact hle
  · rcases h.saves ok htask with ⟨_, hsame⟩ | ⟨_, hmore, _, hnewest⟩
    · rw [hsame]
      exact h.order
    · rw [hmore, List.pairwise_append]
      refine ⟨h.order, List.pairwise_singleton _ _, fun e he e' he' hc => ?_⟩
      obtain rfl := List.mem_singleton.mp he'
      exact hnewest e he hc

end

/-- What else a worker does saves nobody. -/
theorem Booked.advance (h : Booked s) (i : Nat) (ok : Bool) : Booked (s.advance i ok) := by
  cases htask : s.tasks i with
  | none =>
      simp only [DbLine.advance, htask]
      exact h
  | some task =>
      cases task with
      | snapshot c =>
          simp only [DbLine.advance, htask]
          refine ⟨fun j task hj => ?_, fun j f hj => ?_, h.logged, h.order⟩
          · dsimp only at hj
            rw [Function.update_apply] at hj
            split_ifs at hj
            exact h.own j task hj
          · dsimp only at hj
            rw [Function.update_apply] at hj
            split_ifs at hj
            exact h.held j f hj
      | flush f => exact h.advance_flush ok htask

/-- The step lemma, under the condition that each batch takes its own. -/
theorem Booked.step (h : Booked s) (e : Event) (hown : s.TakesOwn e) : Booked (s.step e) := by
  cases e with
  | push req => exact h.pool (.push req)
  | enqueue k => exact h.pool (.enqueue k)
  | start i order => exact h.start hown
  | advance i ok => exact h.advance i ok
  | finish i =>
      simp only [DbLine.step, DbLine.finish]
      split_ifs
      · exact h.pool (.finishRun i)
      · exact h
  | recycle i => exact h.pool (.recycle i)
  | cache c blob => exact h.cache c blob

/-- A start that keeps the characters with their workers takes the right
ones. -/
theorem takesOwn_of_perCharacter {e : Event} (h : PerCharacter (s.step e)) : s.TakesOwn e := by
  cases e with
  | start i order =>
      intro job hjob task htask c hc
      have hstart : (s.start i order).tasks i = some task := by
        simp only [DbLine.start, Option.mem_def.mp hjob, Function.update_self]
        exact htask
      have hlength : (s.start i order).pool.workers.length = s.pool.workers.length := by
        simp only [DbLine.start, Option.mem_def.mp hjob]
        exact length_workers_step s.pool (.startRun i)
      rw [← workerOf_congr hlength]
      exact h.own i task hstart c hc
  | _ => trivial

/-! ## Runs -/

/-- **Per-character serialization**: every character is handled by its own
worker and its blobs are saved in the order in which they were cached,
throughout a run, precisely if whenever a worker takes up a job the
characters it is about are those of its shard. -/
theorem perCharacter_run_iff (worldId : UInt32) (capacity shardCount : Nat)
    (saved : Table UInt64 Blob) (es : List Event) :
    Always step PerCharacter (init worldId capacity shardCount saved) es ↔
      Along step TakesOwn (init worldId capacity shardCount saved) es :=
  always_iff_along_of_strong (booked_init worldId capacity shardCount saved)
    (fun _ h => h.perCharacter) (fun _ e h hown => h.step e hown)
    (fun _ _ _ h => takesOwn_of_perCharacter h)

/-- No event of the line changes the number of the workers. -/
theorem length_workers (s : DbLine) (e : Event) :
    (s.step e).pool.workers.length = s.pool.workers.length := by
  cases e with
  | push req => exact length_workers_step s.pool (.push req)
  | enqueue k => exact length_workers_step s.pool (.enqueue k)
  | start i order =>
      simp only [step, start]
      split
      · rfl
      · exact length_workers_step s.pool (.startRun i)
  | advance i ok =>
      simp only [step, advance]
      split <;> rfl
  | finish i =>
      simp only [step, finish]
      split_ifs
      · exact length_workers_step s.pool (.finishRun i)
      · rfl
  | recycle i => exact length_workers_step s.pool (.recycle i)
  | cache c blob => rfl

/-- With a single shard all is in order. -/
theorem perCharacter_of_one_shard (worldId : UInt32) (capacity : Nat) (saved : Table UInt64 Blob)
    (es : List Event) : Always step PerCharacter (init worldId capacity 1 saved) es := by
  refine (perCharacter_run_iff worldId capacity 1 saved es).mpr ?_
  have hone : (init worldId capacity 1 saved).pool.workers.length = 1 := by
    simp [init, DqsPool.initDQS]
  have hkeep (s : DbLine) (e : Event) (h : s.pool.workers.length = 1) :
      (step s e).pool.workers.length = 1 := (length_workers s e).trans h
  refine along_of_forall_step hone hkeep fun s e h => ?_
  cases e with
  | start i order =>
      intro job hjob task _ c _
      have hi : i = 0 := by
        by_contra hne
        have hnone : s.pool.workers[i]? = none := List.getElem?_eq_none (by omega)
        simp [nextJob, hnone] at hjob
      simp only [workerOf, h, Nat.mod_one, hi]
  | _ => trivial

/-! ## Jobs for one character -/

/-- The worker that `RouteShard_` gives a job to. -/
def routeOf (p : DqsPool) (req : DqsRequest) : Nat :=
  (routeShard (UInt32.ofNat p.workers.length) req.payload).toNat % p.workers.length

/-- A slot that waits for a worker has a job that goes to this worker, or none
since it was returned once more. -/
structure Routed (p : DqsPool) : Prop where
  queued : ∀ i w, p.workers[i]? = some w → ∀ idx ∈ w.queue, ∀ req ∈ (p.slots idx).job,
    routeOf p req = i
  pushed : ∀ e ∈ p.pushing, ∀ req ∈ (p.slots e.2).job,
    e.1 = routeShard (UInt32.ofNat p.workers.length) req.payload

/-- A slot that a push takes waits for no worker already, as it can if it was
returned twice. -/
def FreshSlot (s : DbLine) : Event → Prop
  | .push _ => ∀ idx ∈ s.pool.empty.head?,
      idx ∉ s.pool.pushing.map Prod.snd ∧ ∀ w ∈ s.pool.workers, idx ∉ w.queue
  | _ => True

/-- A worker takes up a batch whose characters are those of its shard. -/
def BatchOwn (s : DbLine) : Event → Prop
  | .start i order => ∀ worldId shardId maxBatch size,
      s.nextJob i = some (some ⟨.world, .flushDirtyChars worldId shardId maxBatch, size⟩) →
      ∀ task ∈ (s.enterJob order
          (some ⟨.world, .flushDirtyChars worldId shardId maxBatch, size⟩)).1,
        ∀ c ∈ task.chars, s.workerOf c = i
  | _ => True

theorem routed_initDQS (capacity shardCount : Nat) : Routed (.initDQS capacity shardCount) where
  queued i w hw idx hidx := by
    obtain rfl : w = {} := List.eq_of_mem_replicate (List.mem_of_getElem? hw)
    cases hidx
  pushed _ he := by cases he

/-- A slot that is emptied, or no longer waits, does no harm. -/
theorem Routed.of_fewer {p p' : DqsPool} (h : Routed p)
    (hlength : p'.workers.length = p.workers.length)
    (hslots : ∀ idx, (p'.slots idx).job = none ∨ (p'.slots idx).job = (p.slots idx).job)
    (hqueues : ∀ (i : Nat) (w' : DbWorker), p'.workers[i]? = some w' →
      ∃ w : DbWorker, p.workers[i]? = some w ∧ ∀ idx ∈ w'.queue, idx ∈ w.queue)
    (hpushing : ∀ e ∈ p'.pushing, e ∈ p.pushing) : Routed p' where
  queued i w' hw' idx hidx req hreq := by
    obtain ⟨w, hw, hqueue⟩ := hqueues i w' hw'
    rw [routeOf, hlength, ← routeOf]
    rcases hslots idx with hnone | hsame
    · rw [hnone] at hreq
      cases hreq
    · exact h.queued i w hw idx (hqueue idx hidx) req (hsame ▸ hreq)
  pushed e he req hreq := by
    rw [hlength]
    rcases hslots e.2 with hnone | hsame
    · rw [hnone] at hreq
      cases hreq
    · exact h.pushed e (hpushing e he) req (hsame ▸ hreq)

/-- The same for one worker that drops slots from its queue. -/
theorem Routed.of_set {p : DqsPool} (h : Routed p) {i : Nat} {w : DbWorker} (w' : DbWorker)
    (hw : p.workers[i]? = some w) (hqueue : ∀ idx ∈ w'.queue, idx ∈ w.queue) :
    Routed { p with workers := p.workers.set i w' } := by
  refine h.of_fewer (List.length_set ..) (fun _ => .inr rfl) (fun j v hv => ?_) fun _ => id
  rw [List.getElem?_set] at hv
  split_ifs at hv with hij
  · cases hv
    exact ⟨w, hij ▸ hw, hqueue⟩
  · exact ⟨v, hv, fun _ => id⟩

theorem Routed.release {p : DqsPool} (h : Routed p) (idx : Nat) : Routed (p.release idx) := by
  refine h.of_fewer rfl (fun i => ?_) (fun i w hw => ⟨w, hw, fun _ => id⟩) fun _ => id
  simp only [DqsPool.release, Function.update_apply]
  split_ifs
  · exact .inl rfl
  · exact .inr rfl

/-- The slot of a push gets a job, and waits nowhere else. -/
theorem Routed.pushDQSData {s : DbLine} (h : Routed s.pool) {req : DqsRequest}
    (hfresh : s.FreshSlot (.push req)) : Routed (s.pool.pushDQSData req) := by
  unfold DqsPool.pushDQSData
  split_ifs
  · exact h
  · exact ⟨h.queued, h.pushed⟩
  split
  · exact ⟨h.queued, h.pushed⟩
  · rename_i idx rest hempty
    obtain ⟨hpushing, hqueues⟩ := hfresh idx (by rw [hempty]; rfl)
    constructor
    · intro i w hw j hj req' hreq'
      dsimp only at hreq'
      have hne : j ≠ idx := fun hji => hqueues w (List.mem_of_getElem? hw) (hji ▸ hj)
      rw [Function.update_of_ne hne] at hreq'
      exact h.queued i w hw j hj req' hreq'
    · intro e he req' hreq'
      dsimp only at hreq'
      rcases List.mem_append.mp he with hold | hnew
      · have hne : e.2 ≠ idx := fun hei => hpushing (List.mem_map.mpr ⟨e, hold, hei⟩)
        rw [Function.update_of_ne hne] at hreq'
        exact h.pushed e hold req' hreq'
      · obtain rfl := List.mem_singleton.mp hnew
        rw [Function.update_self, Option.mem_def, Option.some.injEq] at hreq'
        rw [← hreq']

/-- A slot goes to the worker that its producer has computed. -/
theorem Routed.enqueue {p : DqsPool} (h : Routed p) (k : Nat) : Routed (p.enqueue k) := by
  unfold DqsPool.enqueue
  split
  · exact h
  · rename_i shard idx hk
    have hfewer : Routed { p with pushing := p.pushing.eraseIdx k } :=
      h.of_fewer rfl (fun _ => .inr rfl) (fun i w hw => ⟨w, hw, fun _ => id⟩)
        fun _ he => (List.eraseIdx_sublist _ _).subset he
    dsimp only
    split
    · exact ⟨(hfewer.release idx).queued, (hfewer.release idx).pushed⟩
    · rename_i w hw
      refine ⟨fun i v hv j hj req hreq => ?_, ?_⟩
      · rw [List.getElem?_set] at hv
        rw [routeOf, List.length_set, ← routeOf]
        split_ifs at hv with hi
        · cases hv
          rcases List.mem_append.mp hj with hold | hnew
          · rw [← hi]
            exact h.queued _ w hw j hold req hreq
          · obtain rfl := List.mem_singleton.mp hnew
            have hshard := h.pushed _ (List.mem_of_getElem? hk) req hreq
            dsimp only at hshard
            rw [← hi, hshard]
            rfl
        · exact h.queued i v hv j hj req hreq
      · intro e he req hreq
        rw [List.length_set]
        exact hfewer.pushed e he req hreq

/-- The step lemma: a slot that is queued goes to the shard of its route. -/
theorem Routed.step {s : DbLine} (h : Routed s.pool) (e : Event) (hfresh : s.FreshSlot e) :
    Routed (s.step e).pool := by
  cases e with
  | push req => exact h.pushDQSData hfresh
  | enqueue k => exact h.enqueue k
  | start i order =>
      simp only [DbLine.step, DbLine.start, DqsPool.startRun]
      split
      · exact h
      · dsimp only
        split
        · exact h
        · rename_i w hw
          split
          · rename_i idx rest _ hqueue
            exact h.of_set _ hw fun j hj => hqueue ▸ List.mem_cons_of_mem idx hj
          · exact h
  | advance i ok =>
      simp only [DbLine.step, DbLine.advance]
      split <;> exact h
  | finish i =>
      simp only [DbLine.step, DbLine.finish, DqsPool.finishRun]
      split_ifs
      · dsimp only
        split
        · exact h
        · rename_i w hw
          split
          · rename_i idx _
            exact (h.of_set { w with current := some (idx, .recycling) } hw
              fun _ => id).release idx
          · exact h
      · exact h
  | recycle i =>
      simp only [DbLine.step, DqsPool.recycle]
      split
      · exact h
      · rename_i w hw
        split
        · exact (h.of_set { w with current := none } hw fun _ => id).release _
        · exact h
  | cache c blob => exact h

/-- A job for one character is with the worker of the character. -/
theorem takesOwn_of_batchOwn {s : DbLine} (h : Routed s.pool) {e : Event} (hbatch : s.BatchOwn e) :
    s.TakesOwn e := by
  cases e with
  | start i order =>
      intro job hjob task htask c hc
      cases job with
      | none => cases htask
      | some req =>
          have hroute : routeOf s.pool req = i := by
            unfold nextJob at hjob
            split at hjob
            · cases hjob
            · rename_i w hw
              split at hjob
              · rename_i idx rest _ hqueue
                exact h.queued i w hw idx (hqueue ▸ List.mem_cons_self) req
                  (Option.some.inj hjob)
              · cases hjob
          obtain ⟨code, payload, size⟩ := req
          cases code <;> cases payload
          case world.flushDirtyChars worldId shardId maxBatch =>
            exact hbatch worldId shardId maxBatch size hjob task htask c hc
          case world.flushOneChar worldCode charId expectedVersion =>
            simp only [enterJob] at htask
            split_ifs at htask
            · cases htask
              obtain rfl := List.mem_singleton.mp hc
              exact hroute
            · cases htask
          case world.worldCharacterEnterSnapshot worldId sid serial requestId accountId charId blob =>
            simp only [enterJob] at htask
            split_ifs at htask
            · cases htask
              obtain rfl := List.mem_singleton.mp hc
              exact hroute
            · cases htask
          all_goals cases htask
  | _ => trivial

/-- While no push takes a slot that still waits for a worker, jobs for one
character are always right, and it is a matter of the batches alone. -/
theorem perCharacter_iff_batches (worldId : UInt32) (capacity shardCount : Nat)
    (saved : Table UInt64 Blob) (es : List Event)
    (hfresh : Along step FreshSlot (init worldId capacity shardCount saved) es) :
    Always step PerCharacter (init worldId capacity shardCount saved) es ↔
      Along step BatchOwn (init worldId capacity shardCount saved) es := by
  have hrouted : Routed (init worldId capacity shardCount saved).pool :=
    routed_initDQS capacity shardCount
  rw [perCharacter_run_iff]
  constructor
  · intro htakes
    refine htakes.imp fun s e htake => ?_
    cases e with
    | start i order => exact fun _ _ _ _ hjob task htask => htake _ hjob task htask
    | _ => trivial
  · intro hbatches
    have hstep (s : DbLine) (e : Event) (h : Routed s.pool) (hok : s.FreshSlot e ∧ s.BatchOwn e) :
        Routed (step s e).pool := h.step e hok.1
    exact along_of_along hrouted hstep (fun s e h hok => takesOwn_of_batchOwn h hok.2)
      (hfresh.and hbatches)

/-- Two shards: a batch of shard 0 takes character 11, which belongs to shard
1, and is about to save its blob; the next blob of it is flushed singly by the
other worker in between. -/
def crossShardFlush : List Event :=
  [.cache 11 (serializeDemo { charId := 11, gold := 5, version := 1 }),
    .push ⟨.world, .flushDirtyChars 1 0 200, 12⟩, .enqueue 0, .start 0 [11], .advance 0 true,
    .advance 0 true, .cache 11 (serializeDemo { charId := 11, gold := 6, version := 2 }),
    .push ⟨.world, .flushOneChar 1 11 2, 16⟩, .enqueue 0, .start 1 [], .advance 1 true,
    .advance 1 true, .advance 0 true]

/-- The older blob is saved last. -/
theorem not_perCharacter_crossShardFlush :
    ¬ ∀ (worldId : UInt32) (capacity shardCount : Nat) (saved : Table UInt64 Blob)
      (es : List Event), Always step PerCharacter (init worldId capacity shardCount saved) es := by
  intro hall
  have hend := always_iff_forall_part.mp
    (hall 1 DqsPool.maxDbSycDataNum 2 .empty crossShardFlush) crossShardFlush List.prefix_rfl
  have hsaves : (run step (init 1 DqsPool.maxDbSycDataNum 2 .empty) crossShardFlush).saves =
      [(11, 2), (11, 1)] := by decide +kernel
  have horder := hend.order
  rw [hsaves] at horder
  exact absurd horder (by decide)

end DbLine

end GameServer
