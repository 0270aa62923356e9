import GameServer.World.WriteBehind

/-!
# GameServer.World.BatchFlush

A `flush_dirty_chars` job of `OnDQSRunOne`, with the calls that can throw.

`take_dirty_batch` takes the marks before the loop.  A save that throws is
caught inside the loop, and the character marked again; a read of Redis that
throws is only caught around the whole job, and what is left of the batch is
forgotten.

* `flushLoop`, `flushDirtyChars` — the loop and the job around it;
* `cared_flushLoop` — the loop takes care of the cached characters before the
  first read that throws, and of no other;
* `dirtyKept_iff` — when no mark is dropped;
* `exists_run_flushDirtyChars` — the job as a flush of `WriteBehind`.
-/

namespace GameServer

/-- `dqs::ResultCode`. -/
inductive ResultCode where
  | success
  | dbError
  | invalidData
  | conflict
deriving DecidableEq, Repr

/-- `dqs_payload::FlushDirtyChars`. -/
structure FlushDirtyChars where
  worldId : UInt32
  shardId : UInt32
  maxBatch : UInt32
deriving DecidableEq, Repr

/-- `FlushDirtyCharsResult`. -/
structure FlushDirtyCharsResult where
  worldCode : UInt32
  shardId : UInt32
  maxBatch : UInt32
  pulled : Nat := 0
  saved : Nat := 0
  failed : Nat := 0
  conflicts : Nat := 0
  result : ResultCode
deriving DecidableEq, Repr

/-- The calls that throw, by the character they are for: `get_character_blob`
and `save_character_blob`. -/
structure FlushAnswers where
  readThrows : UInt64 → Bool
  saveThrows : UInt64 → Bool

/-- What the loop has done so far. -/
structure FlushProgress where
  store : WriteStore
  savedIds : List UInt64 := []
  failed : Nat := 0
  conflicts : Nat := 0
  result : ResultCode := .success

namespace FlushProgress

variable (p : FlushProgress) (charId : UInt64)

/-- The character has another version than expected, and is marked again. -/
def conflicted : FlushProgress :=
  { p with store := p.store.markDirty charId, conflicts := p.conflicts + 1, result := .conflict }

/-- The save has thrown. -/
def saveFailed : FlushProgress :=
  { p with store := p.store.markDirty charId, failed := p.failed + 1, result := .dbError }

/-- The blob is saved. -/
def savedBlob (blob : Blob) : FlushProgress :=
  { p with
    store := (p.store.saveCharacterBlob charId blob).eraseExpectedCharVersion charId
    savedIds := p.savedIds ++ [charId] }

end FlushProgress

/-- The loop over the batch; the flag tells that a read has thrown. -/
def flushLoop (answers : FlushAnswers) : List UInt64 → FlushProgress → FlushProgress × Bool
  | [], p => (p, false)
  | charId :: rest, p =>
      if answers.readThrows charId then (p, true)
      else
        match p.store.cache charId with
        | none => flushLoop answers rest p
        | some blob =>
            if versionConflict (p.store.tryGetExpectedCharVersion charId)
                (actualVersion charId blob) then
              flushLoop answers rest (p.conflicted charId)
            else if answers.saveThrows charId then flushLoop answers rest (p.saveFailed charId)
            else flushLoop answers rest (p.savedBlob charId blob)

/-- What a worker has at hand: the world it serves, whether there is a Redis
and a database pool, and the store of its world. -/
structure FlushWorker where
  worldId : UInt32
  hasRedis : Bool := true
  hasPool : Bool := true
  store : WriteStore := {}

/-- What is left when the job returns: the slot's result, the posted result,
the ids that were taken and those that were saved. -/
structure FlushOutcome where
  store : WriteStore
  taken : List UInt64 := []
  savedIds : List UInt64 := []
  result : ResultCode := .success
  posted : Option FlushDirtyCharsResult := none

namespace FlushWorker

/-- `max_batch` of a job. -/
def batchSize (payload : FlushDirtyChars) : UInt32 :=
  if payload.maxBatch = 0 then 200 else payload.maxBatch

/-- `sizeof(FlushDirtyChars)`. -/
def payloadSize : Nat := 12

/-- `OnDQSRunOne` for `flush_dirty_chars`, with `dataSize` bytes of data, when
the set is visited in the order `order`. -/
def flushDirtyChars (w : FlushWorker) (answers : FlushAnswers) (order : List UInt64)
    (dataSize : Nat) (payload : FlushDirtyChars) : FlushOutcome :=
  if w.hasRedis = false then { store := w.store }
  else if dataSize < payloadSize then { store := w.store, result := .invalidData }
  else if payload.worldId ≠ w.worldId ∨ w.hasPool = false then
    { store := w.store
      result := .dbError
      posted := some
        { worldCode := payload.worldId
          shardId := payload.shardId
          maxBatch := batchSize payload
          result := .dbError } }
  else
    let batch := w.store.takeDirtyBatch order (batchSize payload).toNat
    let done := flushLoop answers batch.1 { store := batch.2 }
    let p := done.1
    if done.2 then
      -- The outer handler: no result is posted.
      { store := p.store, taken := batch.1, savedIds := p.savedIds, result := .invalidData }
    else
      { store := p.store
        taken := batch.1
        savedIds := p.savedIds
        result := p.result
        posted := some
          { worldCode := payload.worldId
            shardId := payload.shardId
            maxBatch := batchSize payload
            pulled := batch.1.length
            saved := p.savedIds.length
            failed := p.failed
            conflicts := p.conflicts
            result := p.result } }

/-- **No mark is dropped**: a character that was taken and has a cached blob is
saved by the job or marked again. -/
def DirtyKept (out : FlushOutcome) : Prop :=
  ∀ c ∈ out.taken, out.store.cache c ≠ none → c ∈ out.savedIds ∨ c ∈ out.store.dirty

end FlushWorker

/-! ## The loop -/

/-- The character is saved by the job, or marked. -/
def FlushProgress.Cared (p : FlushProgress) (c : UInt64) : Prop :=
  c ∈ p.savedIds ∨ c ∈ p.store.dirty

/-- A pass of the loop that does not throw: nothing is cached, or the
character is marked again, or it is saved. -/
inductive FlushPass (p : FlushProgress) (c : UInt64) : FlushProgress → Prop where
  | skip (hcache : p.store.cache c = none) : FlushPass p c p
  | conflicted (hcache : p.store.cache c ≠ none) : FlushPass p c (p.conflicted c)
  | saveFailed (hcache : p.store.cache c ≠ none) : FlushPass p c (p.saveFailed c)
  | saved {blob : Blob} (hcache : p.store.cache c = some blob) : FlushPass p c (p.savedBlob c blob)

section

variable {answers : FlushAnswers} {p p' : FlushProgress} {c : UInt64}

/-- A pass whose read works is one of the passes of the store. -/
theorem exists_flushPass (rest : List UInt64) (p : FlushProgress)
    (hread : answers.readThrows c = false) :
    ∃ p', FlushPass p c p' ∧ p'.store = p.store.batchPass c (!answers.saveThrows c) ∧
      flushLoop answers (c :: rest) p = flushLoop answers rest p' := by
  unfold WriteStore.batchPass
  cases hblob : p.store.cache c with
  | none => exact ⟨p, .skip hblob, rfl, by simp [flushLoop, hread, hblob]⟩
  | some blob =>
      by_cases hconflict : versionConflict (p.store.tryGetExpectedCharVersion c)
          (actualVersion c blob) = true
      · refine ⟨_, .conflicted (by simp [hblob]), ?_, ?_⟩
        · simp [hconflict, FlushProgress.conflicted]
        · simp [flushLoop, hread, hblob, hconflict]
      · by_cases hsave : answers.saveThrows c = true
        · refine ⟨_, .saveFailed (by simp [hblob]), ?_, ?_⟩
          · simp [hconflict, hsave, FlushProgress.saveFailed]
          · simp [flushLoop, hread, hblob, hconflict, hsave]
        · refine ⟨_, .saved hblob, ?_, ?_⟩
          · simp [hconflict, hsave, FlushProgress.savedBlob]
          · simp [flushLoop, hread, hblob, hconflict, hsave]

theorem FlushPass.cache_eq (h : FlushPass p c p') : p'.store.cache = p.store.cache := by
  cases h with
  | saved => exact WriteStore.eraseExpectedCharVersion_cache _ c
  | _ => rfl

/-- A pass takes care of its character if it has a cached blob. -/
theorem FlushPass.cared_iff (h : FlushPass p c p') (c' : UInt64) :
    p'.Cared c' ↔ p.Cared c' ∨ c' = c ∧ p.store.cache c ≠ none := by
  cases h with
  | skip hcache => simp [hcache]
  | conflicted hcache =>
      simp only [FlushProgress.Cared, FlushProgress.conflicted, WriteStore.markDirty,
        Finset.mem_insert, hcache, ne_eq, not_false_eq_true, and_true]
      tauto
  | saveFailed hcache =>
      simp only [FlushProgress.Cared, FlushProgress.saveFailed, WriteStore.markDirty,
        Finset.mem_insert, hcache, ne_eq, not_false_eq_true, and_true]
      tauto
  | saved hcache =>
      simp only [FlushProgress.Cared, FlushProgress.savedBlob,
        WriteStore.eraseExpectedCharVersion_dirty, WriteStore.saveCharacterBlob, List.mem_append,
        List.mem_singleton, hcache, ne_eq, reduceCtorEq, not_false_eq_true, and_true]
      tauto

/-- The part of a batch that the loop gets to. -/
def FlushAnswers.reached (answers : FlushAnswers) (ids : List UInt64) : List UInt64 :=
  ids.takeWhile fun c => !answers.readThrows c

/-- What is left of a batch when a read throws. -/
def FlushAnswers.forgotten (answers : FlushAnswers) (ids : List UInt64) : List UInt64 :=
  ids.dropWhile fun c => !answers.readThrows c

/-- A flush caches nothing. -/
theorem cache_flushLoop (ids : List UInt64) (p : FlushProgress) :
    (flushLoop answers ids p).1.store.cache = p.store.cache := by
  induction ids generalizing p with
  | nil => rfl
  | cons c rest ih =>
      by_cases hread : answers.readThrows c = true
      · simp [flushLoop, hread]
      · obtain ⟨p', hpass, _, hloop⟩ := exists_flushPass rest p (by simpa using hread)
        rw [hloop, ih, hpass.cache_eq]

/-- The loop takes care of the cached characters it gets to, and of no
other. -/
theorem cared_flushLoop (ids : List UInt64) (p : FlushProgress) (c' : UInt64) :
    (flushLoop answers ids p).1.Cared c' ↔
      p.Cared c' ∨ c' ∈ answers.reached ids ∧ p.store.cache c' ≠ none := by
  induction ids generalizing p with
  | nil => simp [flushLoop, FlushAnswers.reached]
  | cons c rest ih =>
      by_cases hread : answers.readThrows c = true
      · simp [flushLoop, FlushAnswers.reached, hread]
      · obtain ⟨p', hpass, _, hloop⟩ := exists_flushPass rest p (by simpa using hread)
        have hreached : answers.reached (c :: rest) = c :: answers.reached rest := by
          simp [FlushAnswers.reached, hread]
        rw [hloop, ih, hpass.cared_iff, hpass.cache_eq, hreached, List.mem_cons, or_assoc]
        refine or_congr_right ⟨?_, ?_⟩
        · rintro (⟨rfl, hcache⟩ | ⟨hmem, hcache⟩)
          · exact ⟨.inl rfl, hcache⟩
          · exact ⟨.inr hmem, hcache⟩
        · rintro ⟨rfl | hmem, hcache⟩
          · exact .inl ⟨rfl, hcache⟩
          · exact .inr ⟨hmem, hcache⟩

/-- A loop in which no read throws makes the passes of a batch flush. -/
theorem store_flushLoop {ids : List UInt64} (hread : ∀ c ∈ ids, answers.readThrows c = false)
    (p : FlushProgress) :
    (flushLoop answers ids p).1.store =
      ids.foldl (fun st c => st.batchPass c (!answers.saveThrows c)) p.store := by
  induction ids generalizing p with
  | nil => rfl
  | cons c rest ih =>
      obtain ⟨p', _, hstore, hloop⟩ := exists_flushPass rest p (hread c List.mem_cons_self)
      rw [hloop, ih (fun c' hc' => hread c' (List.mem_cons_of_mem c hc')), hstore]
      rfl

end

/-! ## The job -/

namespace FlushWorker

variable {w : FlushWorker} {answers : FlushAnswers} {order : List UInt64} {dataSize : Nat}
  {payload : FlushDirtyChars}

/-- The job gets to its batch. -/
structure Serves (w : FlushWorker) (dataSize : Nat) (payload : FlushDirtyChars) : Prop where
  redis : w.hasRedis = true
  size : payloadSize ≤ dataSize
  world : payload.worldId = w.worldId
  pool : w.hasPool = true

/-- The batch that the job takes. -/
def batch (w : FlushWorker) (order : List UInt64) (payload : FlushDirtyChars) : List UInt64 :=
  (w.store.takeDirtyBatch order (batchSize payload).toNat).1

theorem nodup_batch : (w.batch order payload).Nodup :=
  (List.nodup_dedup _).sublist (List.take_sublist _ _)

/-- A request that is not served takes no batch. -/
theorem flushDirtyChars_of_not_serves (answers : FlushAnswers) (order : List UInt64)
    (h : ¬ w.Serves dataSize payload) :
    (w.flushDirtyChars answers order dataSize payload).taken = [] := by
  unfold flushDirtyChars
  split
  · rfl
  · rename_i hredis
    split
    · rfl
    · rename_i hsize
      split
      · rfl
      · rename_i hguard
        simp only [not_or, not_not, Bool.not_eq_false] at hredis hguard
        exact absurd ⟨hredis, Nat.le_of_not_lt hsize, hguard.1, hguard.2⟩ h

/-- What is left in the store of the job is what the loop leaves. -/
theorem flushDirtyChars_of_serves (answers : FlushAnswers) (order : List UInt64)
    (h : w.Serves dataSize payload) :
    let out := w.flushDirtyChars answers order dataSize payload
    let p := (flushLoop answers (w.batch order payload)
      { store := (w.store.takeDirtyBatch order (batchSize payload).toNat).2 }).1
    out.taken = w.batch order payload ∧ out.store = p.store ∧ out.savedIds = p.savedIds := by
  have hguard : ¬ (payload.worldId ≠ w.worldId ∨ w.hasPool = false) := by
    simp [h.world, h.pool]
  simp only [flushDirtyChars, h.redis, Bool.true_eq_false, if_false,
    if_neg (Nat.not_lt.mpr h.size), if_neg hguard, batch]
  split_ifs <;> exact ⟨rfl, rfl, rfl⟩

/-- The marks of the batch are gone when the loop starts. -/
theorem cared_batch {c : UInt64} (hc : c ∈ w.batch order payload) :
    (flushLoop answers (w.batch order payload)
        { store := (w.store.takeDirtyBatch order (batchSize payload).toNat).2 }).1.Cared c ↔
      c ∈ answers.reached (w.batch order payload) ∧ w.store.cache c ≠ none := by
  have hnot : ¬ FlushProgress.Cared
      { store := (w.store.takeDirtyBatch order (batchSize payload).toNat).2 } c := by
    simp only [FlushProgress.Cared, WriteStore.takeDirtyBatch, List.not_mem_nil, false_or,
      Finset.mem_sdiff, List.mem_toFinset, not_and, not_not]
    exact fun _ => hc
  rw [cared_flushLoop]
  simp only [hnot, false_or]
  rfl

/-- **Dirty marks**: a batch flush drops no mark precisely if no character
from the first read on that throws has a cached blob. -/
theorem dirtyKept_iff (w : FlushWorker) (answers : FlushAnswers) (order : List UInt64)
    (dataSize : Nat) (payload : FlushDirtyChars) :
    DirtyKept (w.flushDirtyChars answers order dataSize payload) ↔
      (w.Serves dataSize payload →
        ∀ c ∈ answers.forgotten (w.batch order payload), w.store.cache c = none) := by
  by_cases hserves : w.Serves dataSize payload
  · obtain ⟨htaken, hstore, hsaved⟩ := flushDirtyChars_of_serves answers order hserves
    have hsplit : answers.reached (w.batch order payload) ++
        answers.forgotten (w.batch order payload) = w.batch order payload :=
      List.takeWhile_append_dropWhile
    have hdisjoint := List.disjoint_of_nodup_append (hsplit ▸ nodup_batch (w := w))
    have hcache : (w.flushDirtyChars answers order dataSize payload).store.cache =
        w.store.cache := by
      rw [hstore, cache_flushLoop]
      rfl
    simp only [DirtyKept, htaken, hcache]
    rw [hsaved, hstore]
    constructor
    · intro hkept _ c hforgotten
      by_contra hblob
      have hc : c ∈ w.batch order payload := by
        rw [← hsplit]
        exact List.mem_append_right _ hforgotten
      exact hdisjoint ((cared_batch hc).mp (hkept c hc hblob)).1 hforgotten
    · intro hforgotten c hc hblob
      refine (cared_batch hc).mpr ⟨?_, hblob⟩
      rw [← hsplit] at hc
      refine (List.mem_append.mp hc).resolve_right fun hf => hblob ?_
      exact hforgotten hserves c hf
  · have htaken := flushDirtyChars_of_not_serves answers order hserves
    simp [DirtyKept, htaken, hserves]

/-- A batch size of zero stands for 200. -/
theorem toNat_batchSize (payload : FlushDirtyChars) :
    (batchSize payload).toNat =
      if payload.maxBatch.toNat = 0 then 200 else payload.maxBatch.toNat := by
  unfold batchSize
  by_cases hzero : payload.maxBatch = 0
  · simp [hzero]
  · have hne : payload.maxBatch.toNat ≠ 0 := fun h => hzero (UInt32.toNat_inj.mp h)
    rw [if_neg hzero, if_neg hne]

/-- **Refinement**: a job in which no read throws is a batch flush of the
write-behind system that nothing interferes with. -/
theorem exists_run_flushDirtyChars (caching : List (UInt64 × Blob)) (fl : List Flush)
    (hserves : w.Serves dataSize payload)
    (hread : ∀ c ∈ w.batch order payload, answers.readThrows c = false) :
    ∃ oks : List Bool, run WriteBehind.step ⟨w.store, caching, fl⟩
        (.takeBatch order payload.maxBatch.toNat :: oks.map (.advance fl.length)) =
      ⟨(w.flushDirtyChars answers order dataSize payload).store, caching, fl⟩ := by
  obtain ⟨_, hstore, _⟩ := flushDirtyChars_of_serves answers order hserves
  rw [hstore, store_flushLoop hread]
  simp only [run_cons, WriteBehind.step, WriteBehind.takeBatch, batch, ← toNat_batchSize]
  cases hids : (w.store.takeDirtyBatch order (batchSize payload).toNat).1 with
  | nil => exact ⟨[], rfl⟩
  | cons charId rest =>
      obtain ⟨oks, _, hrun⟩ := WriteBehind.exists_run_batch caching fl
        (fun c => !answers.saveThrows c)
        (w.store.takeDirtyBatch order (batchSize payload).toNat).2
        (f := { kind := .batch, charId, rest }) rfl rfl
      exact ⟨oks, hrun⟩

/-- Two characters are dirty, and the read of the first one throws: neither
is saved, and neither is marked any more. -/
theorem not_dirtyKept_readThrows :
    ¬ ∀ (w : FlushWorker) (answers : FlushAnswers) (order : List UInt64) (dataSize : Nat)
      (payload : FlushDirtyChars),
      DirtyKept (w.flushDirtyChars answers order dataSize payload) := by
  intro hall
  let store : WriteStore := (WriteStore.upsertCharacter {} 11 [1]).upsertCharacter 12 [2]
  let answers : FlushAnswers := ⟨fun c => c == 11, fun _ => false⟩
  have hkept := hall { worldId := 1, store } answers [11, 12] 12 ⟨1, 0, 200⟩ 12 (by decide)
    (by decide)
  exact absurd hkept (by decide)

end FlushWorker

end GameServer
