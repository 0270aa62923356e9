import GameServer.Lib.Pool
import GameServer.Lib.Run
import GameServer.World.CharacterState

/-!
# GameServer.World.DqsPool

The slot pool of the database jobs (`PushDQSData`, `OnDQSRunOne`, the
recycle callback of `DbShardManager`, `DbWorker::loop_`).

A job occupies a slot from the moment a producer takes it out of
`dqs_empty_` until the slot is put back.  Between the two critical sections
of `PushDQSData` the slot is in the hands of the producer, then in the queue
of a worker, then executed by it.  It is put back at the end of
`OnDQSRunOne` — and a second time by the recycle callback that the worker
runs afterwards.

`ownedOnce_run_iff` says that this is the only thing that goes wrong: every
slot is in exactly one place throughout a run precisely if no worker of the
run gets to its recycle callback.
-/

namespace GameServer

/-! ## Jobs -/

/-- `ProcessCode`. -/
inductive ProcessCode where
  | world
  | login
  | control
  | account
deriving DecidableEq, Repr

/-- The payloads of the world's query cases, parsed. -/
inductive DqsPayload where
  | openWorldNotice (worldCode sid serial : UInt32)
  | flushDirtyChars (worldId shardId maxBatch : UInt32)
  | flushOneChar (worldCode : UInt32) (charId : UInt64) (expectedVersion : UInt32)
  | worldCharacterEnterSnapshot (worldId sid serial : UInt32) (requestId accountId charId : UInt64)
      (cachedStateBlob : Blob)
  | worldAccountCharacterList (worldId sid serial : UInt32) (requestId accountId : UInt64)
      (loginSession : String)
deriving DecidableEq, Repr

/-- What a producer gives to `PushDQSData`. -/
structure DqsRequest where
  processCode : ProcessCode
  payload : DqsPayload
  size : Nat
deriving DecidableEq, Repr

/-- `DqsSlot`; `job` is the process code, the query case and the data.  The
result and the `done` flag live only while the job is executed. -/
structure DqsSlot where
  job : Option DqsRequest := none
  inUse : Bool := false
deriving DecidableEq, Repr

/-- `DqsSlot::max_data_size`. -/
def DqsSlot.maxDataSize : Nat := 4096

/-- `RouteShard_`. -/
def routeShard (shardCount : UInt32) : DqsPayload → UInt32
  | .openWorldNotice .. => 0
  | .flushDirtyChars _ shardId _ => if shardCount ≤ 1 then 0 else shardId % shardCount
  | .flushOneChar _ charId _ =>
      if shardCount ≤ 1 then 0 else (charId % shardCount.toUInt64).toUInt32
  | .worldCharacterEnterSnapshot _ _ _ _ _ charId _ =>
      if shardCount ≤ 1 then 0 else (charId % shardCount.toUInt64).toUInt32
  | .worldAccountCharacterList _ _ _ _ accountId _ =>
      if shardCount ≤ 1 then 0 else (accountId % shardCount.toUInt64).toUInt32

/-! ## The pool -/

/-- Where a worker is with the slot it popped: `run_one_` has not returned,
or it has and `recycle_` is next. -/
inductive WorkerPhase where
  | executing
  | recycling
deriving DecidableEq, Repr

/-- `DbWorker`: its queue and the slot in its hands. -/
structure DbWorker where
  queue : List Nat := []
  current : Option (Nat × WorkerPhase) := none
deriving DecidableEq, Repr

/-- The slot being executed.  One that is about to be recycled is not:
`OnDQSRunOne` has put it back. -/
def executing : Option (Nat × WorkerPhase) → List Nat
  | some (idx, .executing) => [idx]
  | _ => []

/-- The slots a worker has queued or executes. -/
def DbWorker.places (w : DbWorker) : List Nat := w.queue ++ executing w.current

/-- The pool, the pushes between their two critical sections, and the
workers. -/
structure DqsPool where
  running : Bool
  slots : Nat → DqsSlot
  empty : List Nat
  dropCount : Nat
  pushing : List (UInt32 × Nat)
  workers : List DbWorker

namespace DqsPool

/-- `MAX_DB_SYC_DATA_NUM`. -/
def maxDbSycDataNum : Nat := 200000

/-- `InitDQS` and the start of the shard workers. -/
def initDQS (capacity shardCount : Nat) : DqsPool where
  running := true
  slots := fun _ => {}
  empty := List.range' 0 capacity
  dropCount := 0
  pushing := []
  workers := List.replicate shardCount {}

/-- Put a slot back into the pool: `reset()` and `push_back`. -/
def release (p : DqsPool) (idx : Nat) : DqsPool :=
  { p with slots := Function.update p.slots idx {}, empty := p.empty ++ [idx] }

/-- `PushDQSData`, the first critical section: take a free slot and fill
it. -/
def pushDQSData (p : DqsPool) (req : DqsRequest) : DqsPool :=
  if p.running = false ∨ req.size = 0 then p
  else if DqsSlot.maxDataSize < req.size then { p with dropCount := p.dropCount + 1 }
  else match p.empty with
    | [] => { p with dropCount := p.dropCount + 1 }
    | idx :: rest =>
        { p with
          empty := rest
          slots := Function.update p.slots idx { job := some req, inUse := true }
          pushing := p.pushing ++ [(routeShard (UInt32.ofNat p.workers.length) req.payload, idx)] }

/-- `PushDQSData`, the rest: the slot goes to the worker of its shard, or
back if there are no workers. -/
def enqueue (p : DqsPool) (k : Nat) : DqsPool :=
  match p.pushing[k]? with
  | none => p
  | some (shard, idx) =>
      let p := { p with pushing := p.pushing.eraseIdx k }
      match p.workers[shard.toNat % p.workers.length]? with
      | none => { p.release idx with dropCount := p.dropCount + 1 }
      | some w =>
          { p with
            workers := p.workers.set (shard.toNat % p.workers.length)
              { w with queue := w.queue ++ [idx] } }

/-- A worker pops the next slot of its queue. -/
def startRun (p : DqsPool) (i : Nat) : DqsPool :=
  match p.workers[i]? with
  | none => p
  | some w =>
      match w.current, w.queue with
      | none, idx :: rest =>
          { p with workers := p.workers.set i { queue := rest, current := some (idx, .executing) } }
      | _, _ => p

/-- The end of `OnDQSRunOne`: the worker puts the slot back at once. -/
def finishRun (p : DqsPool) (i : Nat) : DqsPool :=
  match p.workers[i]? with
  | none => p
  | some w =>
      match w.current with
      | some (idx, .executing) =>
          { p with
            workers := p.workers.set i { w with current := some (idx, .recycling) } }.release idx
      | _ => p

/-- The recycle callback. -/
def recycle (p : DqsPool) (i : Nat) : DqsPool :=
  match p.workers[i]? with
  | none => p
  | some w =>
      match w.current with
      | some (idx, .recycling) =>
          { p with workers := p.workers.set i { w with current := none } }.release idx
      | _ => p

/-- What producers and workers can do. -/
inductive Event where
  | push (req : DqsRequest)
  | enqueue (k : Nat)
  | startRun (worker : Nat)
  | finishRun (worker : Nat)
  | recycle (worker : Nat)

def step (p : DqsPool) : Event → DqsPool
  | .push req => p.pushDQSData req
  | .enqueue k => p.enqueue k
  | .startRun i => p.startRun i
  | .finishRun i => p.finishRun i
  | .recycle i => p.recycle i

/-! ## Places -/

/-- Every place a slot can be in, with the slots in it. -/
def places (p : DqsPool) : List Nat :=
  p.empty ++ p.pushing.map Prod.snd ++ p.workers.flatMap DbWorker.places

/-- Every slot of the pool is in exactly one place: once in `dqs_empty_`, in
the hands of one producer, or queued to or executed by one worker. -/
def OwnedOnce (capacity : Nat) (p : DqsPool) : Prop :=
  ∀ idx, idx < capacity → p.places.count idx = 1

/-- The slots a worker holds in any way. -/
def held (w : DbWorker) : List Nat := w.queue ++ (w.current.map (·.1)).toList

/-- Every slot that is somewhere, the ones about to be recycled included. -/
def handled (p : DqsPool) : List Nat :=
  p.empty ++ p.pushing.map Prod.snd ++ p.workers.flatMap held

/-- Only slots of the pool are handled. -/
def InRange (capacity : Nat) (p : DqsPool) : Prop := ∀ idx ∈ p.handled, idx < capacity

/-- The recycle callback of worker `i` is due. -/
def RecycleDue (p : DqsPool) (i : Nat) : Prop :=
  ∃ w idx, p.workers[i]? = some w ∧ w.current = some (idx, .recycling)

/-- No recycle callback runs in the step. -/
def NoRecycle (p : DqsPool) : Event → Prop
  | .recycle i => ¬ p.RecycleDue i
  | _ => True

theorem count_places (p : DqsPool) (idx : Nat) :
    p.places.count idx = p.empty.count idx + (p.pushing.map Prod.snd).count idx +
      (p.workers.flatMap DbWorker.places).count idx := by
  simp only [places, List.count_append]

/-- At the start each slot is in the free list. -/
theorem ownedOnce_initDQS (capacity shardCount : Nat) :
    OwnedOnce capacity (initDQS capacity shardCount) := by
  intro idx hidx
  have hworkers : ((List.replicate shardCount ({} : DbWorker)).flatMap DbWorker.places) = [] := by
    simp [DbWorker.places, executing]
  rw [count_places]
  simp only [initDQS, hworkers, List.map_nil, List.count_nil, Nat.add_zero]
  exact List.count_eq_one_of_mem List.nodup_range' (by simpa [List.mem_range'_1] using hidx)

/-! ## One step -/

/-- A push moves a slot to its producer, or drops the request. -/
theorem count_places_pushDQSData (p : DqsPool) (req : DqsRequest) (idx : Nat) :
    (p.pushDQSData req).places.count idx = p.places.count idx := by
  simp only [pushDQSData]
  split_ifs
  · rfl
  · rfl
  · split
    next => rfl
    next first rest hempty =>
      simp only [count_places, hempty, List.map_append, List.map_cons, List.map_nil,
        List.count_append, List.count_cons, List.count_nil]
      omega

/-- An enqueue moves a slot from the producer to its shard. -/
theorem count_places_enqueue (p : DqsPool) (k idx : Nat) :
    (p.enqueue k).places.count idx = p.places.count idx := by
  simp only [enqueue]
  split
  next => rfl
  next shard slot hk =>
    have htaken := count_eraseIdx_map Prod.snd hk idx
    simp only [List.count_cons] at htaken
    split
    next =>
      simp only [count_places, release, List.count_append, List.count_cons, List.count_nil]
      omega
    next w hw =>
      have hset := count_flatMap_set DbWorker.places hw { w with queue := w.queue ++ [slot] } idx
      simp only [DbWorker.places, List.count_append, List.count_cons, List.count_nil] at hset
      simp only [count_places]
      omega

/-- Starting a run moves it from the shard to the worker. -/
theorem count_places_startRun (p : DqsPool) (i idx : Nat) :
    (p.startRun i).places.count idx = p.places.count idx := by
  simp only [startRun]
  split
  next => rfl
  next w hw =>
    split
    next first rest hcurrent hqueue =>
      have hset := count_flatMap_set DbWorker.places hw
        { queue := rest, current := some (first, .executing) } idx
      simp only [DbWorker.places, hcurrent, hqueue, executing, List.count_append,
        List.count_cons, List.count_nil] at hset
      simp only [count_places]
      omega
    next => rfl

/-- Finishing moves it on to what is to be recycled. -/
theorem count_places_finishRun (p : DqsPool) (i idx : Nat) :
    (p.finishRun i).places.count idx = p.places.count idx := by
  simp only [finishRun]
  split
  next => rfl
  next w hw =>
    split
    next slot hcurrent =>
      have hset := count_flatMap_set DbWorker.places hw
        { w with current := some (slot, .recycling) } idx
      simp only [DbWorker.places, hcurrent, executing, List.count_append, List.count_cons,
        List.count_nil] at hset
      simp only [count_places, release, List.count_append, List.count_cons, List.count_nil]
      omega
    next => rfl

/-- The recycle callback puts a second copy of its slot into the pool. -/
theorem count_places_recycle (p : DqsPool) {i slot : Nat} {w : DbWorker}
    (hw : p.workers[i]? = some w) (hcurrent : w.current = some (slot, .recycling)) :
    (p.recycle i).places.count slot = p.places.count slot + 1 := by
  have hset := count_flatMap_set DbWorker.places hw { w with current := none } slot
  simp only [DbWorker.places, hcurrent, executing, List.count_append, List.count_nil] at hset
  simp only [recycle, hw, hcurrent, count_places, release, List.count_append,
    List.count_singleton_self]
  omega

/-- A worker with nothing to recycle recycles nothing. -/
theorem recycle_of_not_due {p : DqsPool} {i : Nat} (h : ¬ p.RecycleDue i) : p.recycle i = p := by
  simp only [recycle]
  split
  next => rfl
  next w hw =>
    split
    next idx hcurrent => exact absurd ⟨w, idx, hw, hcurrent⟩ h
    next => rfl

theorem mem_handled_of_release {p : DqsPool} {slot idx : Nat}
    (h : idx ∈ (p.release slot).handled) : idx ∈ p.handled ∨ idx = slot := by
  simp only [handled, release, List.mem_append, List.mem_singleton] at h ⊢
  tauto

theorem mem_handled_of_worker {p : DqsPool} {i idx : Nat} {w : DbWorker}
    (hw : p.workers[i]? = some w) (h : idx ∈ held w) : idx ∈ p.handled :=
  List.mem_append_right _ (List.mem_flatMap.mpr ⟨w, List.mem_of_getElem? hw, h⟩)

/-- A worker that changes adds what it then holds at most. -/
theorem mem_handled_of_set (p : DqsPool) {i idx : Nat} {w : DbWorker}
    (h : idx ∈ ({ p with workers := p.workers.set i w } : DqsPool).handled) :
    idx ∈ p.handled ∨ idx ∈ held w := by
  simp only [handled, List.mem_append] at h ⊢
  rcases h with h | h
  · exact .inl (.inl h)
  · exact (mem_flatMap_set held h).imp_left .inr

theorem mem_handled_of_eraseIdx {p : DqsPool} {k idx : Nat}
    (h : idx ∈ ({ p with pushing := p.pushing.eraseIdx k } : DqsPool).handled) :
    idx ∈ p.handled := by
  simp only [handled, List.mem_append] at h ⊢
  refine h.imp_left (Or.imp_right fun h => ?_)
  exact ((List.eraseIdx_sublist _ _).map Prod.snd).subset h

/-- A push handles nothing. -/
theorem mem_handled_of_pushDQSData {p : DqsPool} {req : DqsRequest} {idx : Nat}
    (h : idx ∈ (p.pushDQSData req).handled) : idx ∈ p.handled := by
  simp only [pushDQSData] at h
  split_ifs at h
  · exact h
  · exact h
  · split at h
    next => exact h
    next first rest hempty =>
      simp only [handled, hempty, List.map_append, List.map_cons, List.map_nil, List.mem_append,
        List.mem_cons] at h ⊢
      tauto

/-- Nor does an enqueue. -/
theorem mem_handled_of_enqueue {p : DqsPool} {k idx : Nat} (h : idx ∈ (p.enqueue k).handled) :
    idx ∈ p.handled := by
  simp only [enqueue] at h
  split at h
  next => exact h
  next shard slot hk =>
    have hslot : slot ∈ p.handled :=
      List.mem_append_left _ (List.mem_append_right _
        (List.mem_map.mpr ⟨_, List.mem_of_getElem? hk, rfl⟩))
    split at h
    next =>
      cases mem_handled_of_release h with
      | inl hold => exact mem_handled_of_eraseIdx hold
      | inr heq => exact heq ▸ hslot
    next w hw =>
      cases mem_handled_of_set { p with pushing := p.pushing.eraseIdx k } h with
      | inl hold => exact mem_handled_of_eraseIdx hold
      | inr hnew =>
          simp only [held, List.mem_append, List.mem_singleton] at hnew
          rcases hnew with (hq | rfl) | hcur
          · exact mem_handled_of_worker hw (List.mem_append_left _ hq)
          · exact hslot
          · exact mem_handled_of_worker hw (List.mem_append_right _ hcur)

/-- Nor does starting a run. -/
theorem mem_handled_of_startRun {p : DqsPool} {i idx : Nat} (h : idx ∈ (p.startRun i).handled) :
    idx ∈ p.handled := by
  simp only [startRun] at h
  split at h
  next => exact h
  next w hw =>
    split at h
    next first rest hcurrent hqueue =>
      cases mem_handled_of_set p h with
      | inl hold => exact hold
      | inr hnew =>
          refine mem_handled_of_worker hw ?_
          simp only [held, hqueue, Option.map_some, Option.toList_some, List.mem_append,
            List.mem_cons, List.not_mem_nil, or_false] at hnew ⊢
          tauto
    next => exact h

/-- The two releases: the slot was in the worker's hands, and the worker holds
nothing new. -/
theorem mem_handled_of_set_release {p : DqsPool} {i slot idx : Nat} {w w' : DbWorker}
    {phase : WorkerPhase} (hw : p.workers[i]? = some w) (hcurrent : w.current = some (slot, phase))
    (hheld : ∀ x ∈ held w', x ∈ held w)
    (h : idx ∈ (({ p with workers := p.workers.set i w' } : DqsPool).release slot).handled) :
    idx ∈ p.handled := by
  rcases mem_handled_of_release h with hold | rfl
  · cases mem_handled_of_set p hold with
    | inl hold => exact hold
    | inr hnew => exact mem_handled_of_worker hw (hheld idx hnew)
  · exact mem_handled_of_worker hw (by simp [held, hcurrent])

/-- No step makes up a slot. -/
theorem mem_handled_of_step {p : DqsPool} {e : Event} {idx : Nat}
    (h : idx ∈ (p.step e).handled) : idx ∈ p.handled := by
  cases e with
  | push req => exact mem_handled_of_pushDQSData h
  | enqueue k => exact mem_handled_of_enqueue h
  | startRun i => exact mem_handled_of_startRun h
  | finishRun i =>
      simp only [step, finishRun] at h
      split at h
      next => exact h
      next w hw =>
        split at h
        next slot hcurrent =>
          exact mem_handled_of_set_release hw hcurrent (by simp [held, hcurrent]) h
        next => exact h
  | recycle i =>
      simp only [step, recycle] at h
      split at h
      next => exact h
      next w hw =>
        split at h
        next slot hcurrent =>
          refine mem_handled_of_set_release hw hcurrent (fun x hx => ?_) h
          exact List.mem_append_left _ (by simpa [held] using hx)
        next => exact h

theorem inRange_initDQS (capacity shardCount : Nat) :
    InRange capacity (initDQS capacity shardCount) := by
  intro idx hidx
  simpa [handled, initDQS, held, List.mem_range'_1] using hidx

/-- One step keeps every slot in one place precisely if it runs no recycle
callback. -/
theorem ownedOnce_step_iff {capacity : Nat} {p : DqsPool} (hrange : p.InRange capacity)
    (h : p.OwnedOnce capacity) (e : Event) :
    OwnedOnce capacity (p.step e) ↔ p.NoRecycle e := by
  have hmoved : ∀ {p'}, (∀ idx, p'.places.count idx = p.places.count idx) →
      OwnedOnce capacity p' :=
    fun hcount idx hidx => (hcount idx).trans (h idx hidx)
  cases e with
  | push req => exact iff_of_true (hmoved (count_places_pushDQSData p req)) trivial
  | enqueue k => exact iff_of_true (hmoved (count_places_enqueue p k)) trivial
  | startRun i => exact iff_of_true (hmoved (count_places_startRun p i)) trivial
  | finishRun i => exact iff_of_true (hmoved (count_places_finishRun p i)) trivial
  | recycle i =>
      constructor
      · rintro hafter ⟨w, idx, hw, hcurrent⟩
        have hidx : idx < capacity := by
          refine hrange idx (List.mem_append_right _ (List.mem_flatMap.mpr ⟨w, ?_, ?_⟩))
          · exact List.mem_of_getElem? hw
          · simp [held, hcurrent]
        have htwice := count_places_recycle p hw hcurrent
        rw [h idx hidx] at htwice
        have honce := hafter idx hidx
        simp only [step] at honce
        omega
      · intro hnot
        simp only [step, recycle_of_not_due hnot]
        exact h

/-! ## Runs -/

/-- **Slot ownership**: every slot is in exactly one place in every state of a
run precisely if the run reaches no recycle callback — that is, until the
first job has been executed and its worker goes on. -/
theorem ownedOnce_run_iff (capacity shardCount : Nat) (es : List Event) :
    Always step (OwnedOnce capacity) (initDQS capacity shardCount) es ↔
      Along step NoRecycle (initDQS capacity shardCount) es :=
  always_iff_along (W := InRange capacity) (inRange_initDQS capacity shardCount)
    (ownedOnce_initDQS capacity shardCount)
    (fun _ _ hrange idx hidx => hrange idx (mem_handled_of_step hidx))
    (fun _ e hrange h => ownedOnce_step_iff hrange h e)

/-- One job, from its push to the end of the worker's pass. -/
def oneJob : List Event :=
  [.push ⟨.world, .openWorldNotice 0 1 1, 12⟩, .enqueue 0, .startRun 0, .finishRun 0, .recycle 0]

/-- What is left in the pool after it: the slot is there twice. -/
theorem empty_oneJob (n : Nat) :
    (run step (initDQS (n + 1) 4) oneJob).empty = List.range' 1 n ++ [0] ++ [0] := by
  rfl

/-- After a single job the pool holds its slot twice. -/
theorem not_ownedOnce_oneJob :
    ¬ Always step (OwnedOnce maxDbSycDataNum) (initDQS maxDbSycDataNum 4) oneJob := by
  intro h
  have hlast := always_iff_forall_part.mp h oneJob List.prefix_rfl
  have honce := hlast 0 (by decide)
  have hcapacity : maxDbSycDataNum = 199999 + 1 := by decide
  rw [count_places, hcapacity, empty_oneJob] at honce
  simp only [List.count_append, List.count_singleton_self] at honce
  omega

end DqsPool

end GameServer
