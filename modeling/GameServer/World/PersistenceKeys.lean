import GameServer.World.LostUpdate
import GameServer.World.Reentry

/-!
# GameServer.World.PersistenceKeys

Under which world code a character's state is persisted.

The completion of an enter and a gold grant pass 0 to `CacheCharacterState`,
an explicit flush passes what it is given; the batch flushes, the check of
`flush_one_char` and the load for an enter use the id of the world.
`CacheCharacterState` is one step here; the flushes make theirs in between.

* `PersistenceLine`, `step` — a world with its explicit flush requests;
* `handed` — what gameplay hands to `CacheCharacterState`;
* `KeysAgree` — what was handed last is what an enter loads, and stays
  marked until a flush has saved it;
* `keysAgree_of_along` — this is so as long as the codes are the world's id
  and no update is lost in the window of a single flush.
-/

namespace GameServer

/-! ## A flush that goes through -/

namespace WriteStore

variable {st : WriteStore} {c : UInt64} {b : Blob}

/-- What a pass for one character keeps of the blob of another: the cached
blob, that it is expected, and that it is saved. -/
structure PassKeeps (st st' : WriteStore) (c : UInt64) (b : Blob) : Prop where
  cache : st'.cache c = st.cache c
  expected : st'.tryGetExpectedCharVersion c = st.tryGetExpectedCharVersion c ∨
    st'.tryGetExpectedCharVersion c = 0
  saved : st.saved c = some b → st'.saved c = some b

/-- Erasing the version of one character keeps another's. -/
theorem tryGetExpected_erase (st : WriteStore) (c c' : UInt64) :
    (st.eraseExpectedCharVersion c').tryGetExpectedCharVersion c =
        st.tryGetExpectedCharVersion c ∨
      (st.eraseExpectedCharVersion c').tryGetExpectedCharVersion c = 0 := by
  unfold eraseExpectedCharVersion tryGetExpectedCharVersion
  by_cases hc : c = 0
  · simp [hc]
  · by_cases hc' : c' = 0
    · simp [hc']
    · by_cases heq : c = c'
      · subst heq
        right
        simp [hc]
      · left
        simp [hc, hc', heq, Table.erase_of_ne]

/-- A flush forgets expected versions only. -/
theorem expected_flushStep (st : WriteStore) (f : Flush) (ok : Bool) (c : UInt64) :
    (st.flushStep f ok).1.tryGetExpectedCharVersion c = st.tryGetExpectedCharVersion c ∨
      (st.flushStep f ok).1.tryGetExpectedCharVersion c = 0 := by
  have hstep := flushStep_spec st f ok
  generalize (st.flushStep f ok).1 = st' at hstep ⊢
  generalize (st.flushStep f ok).2 = o at hstep
  cases hstep with
  | done => exact tryGetExpected_erase st c f.charId
  | _ => exact .inl rfl

/-- The version that is expected of a cached blob is its own, if any. -/
theorem free_of_expected {st' : WriteStore} (hcache : st'.cache c = st.cache c)
    (hexpected : st'.tryGetExpectedCharVersion c = st.tryGetExpectedCharVersion c ∨
      st'.tryGetExpectedCharVersion c = 0)
    (h : ∀ b, st.cache c = some b →
      versionConflict (st.tryGetExpectedCharVersion c) (actualVersion c b) = false) (b : Blob)
    (hb : st'.cache c = some b) :
    versionConflict (st'.tryGetExpectedCharVersion c) (actualVersion c b) = false := by
  rcases hexpected with heq | hzero
  · rw [heq]
    exact h b (hcache ▸ hb)
  · rw [hzero]
    rfl

/-- A pass for another character keeps the blob, and what is expected of it or nothing. -/
theorem batchPass_keeps (hcache : st.cache c = some b) (c' : UInt64) :
    PassKeeps st (st.batchPass c' true) c b := by
  unfold batchPass
  split
  · exact ⟨rfl, .inl rfl, id⟩
  · rename_i blob hblob
    split
    · exact ⟨rfl, .inl rfl, id⟩
    · rw [if_pos rfl]
      refine ⟨?_, tryGetExpected_erase (st.saveCharacterBlob c' blob) c c', fun hsaved => ?_⟩
      · rw [eraseExpectedCharVersion_cache]
        rfl
      · rw [eraseExpectedCharVersion_saved, saveCharacterBlob]
        dsimp only
        rw [Table.set_apply]
        split_ifs with heq
        · subst heq
          rw [← hblob, hcache]
        · exact hsaved

/-- A pass without a version conflict saves the cached blob. -/
theorem saved_batchPass (hcache : st.cache c = some b)
    (hfree : versionConflict (st.tryGetExpectedCharVersion c) (actualVersion c b) = false) :
    (st.batchPass c true).saved c = some b := by
  unfold batchPass
  rw [hcache]
  simp [hfree, saveCharacterBlob]

/-- The batch saves each of its characters, since nothing it does conflicts: induction on
the ids. -/
theorem saved_batchPasses {ids : List UInt64} (hcache : st.cache c = some b)
    (hfree : versionConflict (st.tryGetExpectedCharVersion c) (actualVersion c b) = false)
    (hc : st.saved c = some b ∨ c ∈ ids) :
    (ids.foldl (fun st c => st.batchPass c true) st).saved c = some b := by
  induction ids generalizing st with
  | nil => exact hc.resolve_right List.not_mem_nil
  | cons c' ids ih =>
      have hkeeps := batchPass_keeps hcache c'
      refine ih (hkeeps.cache.trans hcache) ?_ ?_
      · rcases hkeeps.expected with heq | hzero
        · rw [heq]
          exact hfree
        · rw [hzero]
          rfl
      · rcases hc with hsaved | hmem
        · exact .inl (hkeeps.saved hsaved)
        · rcases List.mem_cons.mp hmem with rfl | hlater
          · exact .inl (saved_batchPass hcache hfree)
          · exact .inr hlater

end WriteStore

/-- **A flush saves what it takes**: when a batch flush takes a character
and nothing interferes, it ends with the cached blob saved. -/
theorem WriteBehind.exists_saved_of_takeBatch (s : WriteBehind) {order : List UInt64}
    {maxBatch : Nat} {c : UInt64} {b : Blob}
    (htaken : c ∈ (s.store.takeDirtyBatch order (if maxBatch = 0 then 200 else maxBatch)).1)
    (hcache : s.store.cache c = some b)
    (hfree : versionConflict (s.store.tryGetExpectedCharVersion c) (actualVersion c b) = false) :
    ∃ m, (run step (s.takeBatch order maxBatch)
      (List.replicate m (.advance s.flushes.length true))).store.saved c = some b := by
  obtain ⟨st, caching, fl⟩ := s
  cases hids : (st.takeDirtyBatch order (if maxBatch = 0 then 200 else maxBatch)).1 with
  | nil => simp [hids] at htaken
  | cons charId rest =>
      rw [hids] at htaken
      obtain ⟨oks, hoks, hrun⟩ := exists_run_batch caching fl (fun _ => true)
        (st.takeDirtyBatch order (if maxBatch = 0 then 200 else maxBatch)).2
        (f := { kind := .batch, charId, rest }) rfl rfl
      have hall : oks = List.replicate oks.length true :=
        List.eq_replicate_of_mem fun b hb => by
          obtain ⟨_, hb'⟩ := hoks b hb
          exact hb'
      have htake : (WriteBehind.mk st caching fl).takeBatch order maxBatch =
          ⟨(st.takeDirtyBatch order (if maxBatch = 0 then 200 else maxBatch)).2, caching,
            fl ++ [{ kind := .batch, charId, rest }]⟩ := by
        simp only [takeBatch, hids]
      refine ⟨oks.length, ?_⟩
      rw [htake, ← List.map_replicate, ← hall, hrun]
      exact WriteStore.saved_batchPasses hcache hfree (.inr htaken)

/-! ## The world -/

/-- `dqs_payload::FlushOneChar`. -/
structure FlushOneChar where
  worldCode : UInt32
  charId : UInt64
  expectedVersion : UInt32
deriving DecidableEq, Repr

/-- A world: its characters and caches, and the jobs of explicit flushes. -/
structure PersistenceLine where
  progress : CharacterProgress
  jobs : List FlushOneChar := []

namespace PersistenceLine

variable (recompute : CharacterCoreState → CharacterCombatRuntimeStats)

/-- The world code of the periodic flush, of the snapshot load, and the only
one that `flush_one_char` accepts. -/
def worldCode (s : PersistenceLine) : UInt32 := s.progress.worldId.toUInt32

/-- The cache under the world's own code. -/
def world (s : PersistenceLine) : WriteBehind := s.progress.caches s.worldCode

/-- The blob `RequestFlushCharacter` caches: there is none without a core
state. -/
def flushBlob (s : PersistenceLine) (charId : UInt64) : Option Blob :=
  (s.progress.actor charId).coreState.map fun _ =>
    (s.progress.actor charId).serializePersistentState

/-- `RequestFlushCharacter`. -/
def requestFlushCharacter (s : PersistenceLine) (worldCode : UInt32) (charId : UInt64) :
    PersistenceLine :=
  let actor := s.progress.actor charId
  let progress := s.progress.setActor charId actor
  let (progress, expectedVersion) :=
    match actor.coreState with
    | none => (progress, 0)
    | some core =>
        (progress.cacheCharacterState worldCode charId actor.serializePersistentState,
          core.hot.version)
  let expectedVersion :=
    match progress.tryLoadCharacterState worldCode charId with
    | none => expectedVersion
    | some blob =>
        match tryDeserializeDemo blob with
        | none => expectedVersion
        | some st => if st.charId = charId then st.version else expectedVersion
  { progress, jobs := s.jobs ++ [⟨worldCode, charId, expectedVersion⟩] }

/-- `OnDQSRunOne` takes up a `flush_one_char` job: one with another world code
is answered with an error. -/
def runFlushOne (s : PersistenceLine) (k : Nat) : PersistenceLine :=
  match s.jobs[k]? with
  | none => s
  | some job =>
      let jobs := s.jobs.eraseIdx k
      if job.worldCode = s.worldCode then
        { progress := s.progress.flush (.flushOne job.charId job.expectedVersion), jobs }
      else { s with jobs }

/-- The time to live of a cached blob runs out. -/
def expire (s : PersistenceLine) (worldCode : UInt32) (charId : UInt64) : PersistenceLine :=
  let w := s.progress.caches worldCode
  let w := { w with store := { w.store with cache := w.store.cache.erase charId } }
  { s with progress := { s.progress with
      caches := Function.update s.progress.caches worldCode w } }

/-- What can happen next. -/
inductive Event where
  | progress (e : CharacterProgress.Event)
  | requestFlush (worldCode : UInt32) (charId : UInt64)
  | runFlushOne (k : Nat)
  | expire (worldCode : UInt32) (charId : UInt64)
deriving DecidableEq, Repr

def step (s : PersistenceLine) : Event → PersistenceLine
  | .progress e => { s with progress := s.progress.step recompute e }
  | .requestFlush worldCode charId => s.requestFlushCharacter worldCode charId
  | .runFlushOne k => s.runFlushOne k
  | .expire worldCode charId => s.expire worldCode charId

/-- A world that has just started. -/
def start (worldId : UInt16) (rows : Table UInt64 CharacterRow) : PersistenceLine :=
  { progress := .start worldId rows }

/-- What an event hands to `CacheCharacterState`: the world code, the
character and its state. -/
def handed (s : PersistenceLine) : Event → Option (UInt32 × UInt64 × Blob)
  | .progress (.addGold charId amount) =>
      some (0, charId, ((s.progress.actor charId).addGold amount).serializePersistentState)
  | .progress (.completeEnter charId ..) =>
      (s.progress.loaded charId).map fun core =>
        (0, charId, serializeDemo (fromCharacterCoreState core))
  | .requestFlush worldCode charId =>
      (s.flushBlob charId).map fun blob => (worldCode, charId, blob)
  | _ => none

/-- The world, and the state that gameplay cached last for each character. -/
def stepLast (sl : PersistenceLine × Table UInt64 Blob) (e : Event) :
    PersistenceLine × Table UInt64 Blob :=
  (sl.1.step recompute e,
    match sl.1.handed e with
    | none => sl.2
    | some (_, charId, blob) => sl.2.set charId blob)

/-- **Persistence keys agree**: the state that gameplay cached last for a
character is what an enter loads; it is saved, or the world's flushes know of
it; a batch flush that takes it saves it; and a requested flush is accepted. -/
structure KeysAgree (sl : PersistenceLine × Table UInt64 Blob) : Prop where
  seen : ∀ c b, sl.2 c = some b →
    sl.1.progress.tryLoadCharacterState sl.1.progress.worldId.toUInt32 c = some b
  kept : ∀ c b, sl.2 c = some b →
    sl.1.world.store.saved c = some b ∨ sl.1.world.Marked c ∨ sl.1.world.InBatch c
  saves : ∀ c b, sl.2 c = some b → ∀ order maxBatch,
    c ∈ (sl.1.world.store.takeDirtyBatch order (if maxBatch = 0 then 200 else maxBatch)).1 →
    ∃ m, (run WriteBehind.step (sl.1.world.takeBatch order maxBatch)
      (List.replicate m (.advance sl.1.world.flushes.length true))).store.saved c = some b
  accepted : ∀ job ∈ sl.1.jobs, job.worldCode = sl.1.worldCode

/-- What is handed over goes to the world's own cache, and not into the
window of a single flush; flushes read no blob that another one is still to
save over, and the blobs of the world do not expire. -/
def Agreeing (s : PersistenceLine) (e : Event) : Prop :=
  (∀ h ∈ s.handed e, h.1 = s.worldCode ∧
    (s.world.store.cache h.2.1 = some h.2.2 ∨
      ∀ f ∈ s.world.flushes, f.kind ≠ .batch → f.charId = h.2.1 → ¬ f.phase.pastRead)) ∧
  match e with
  | .progress (.advanceFlush k ok) => s.world.Clear (.advance k ok)
  | .requestFlush worldCode _ => worldCode = s.worldCode
  | .expire worldCode charId => worldCode = s.worldCode → s.world.store.cache charId = none
  | _ => True

instance (s : PersistenceLine) (e : Event) : Decidable (s.Agreeing e) := by
  unfold Agreeing
  refine @instDecidableAnd _ _ (inferInstanceAs (Decidable (∀ _ ∈ _, _))) ?_
  split
  · infer_instance
  · infer_instance
  · infer_instance
  · infer_instance

/-! ## What an event does to the caches -/

/-- Everything an event can do to the caches of the world codes. -/
inductive CacheEffect (s : PersistenceLine) (e : Event) (s' : PersistenceLine) : Prop where
  | hands {w : UInt32} {c : UInt64} {b : Blob} (hhanded : s.handed e = some (w, c, b))
      (h : s'.progress.caches = (s.progress.cacheCharacterState w c b).caches)
  | flush (e' : WriteBehind.Event) (hhanded : s.handed e = none)
      (hclear : s.Agreeing e → s.world.Clear e')
      (hcache : ∀ w : WriteBehind, (w.step e').store.cache = w.store.cache ∧
        (w.step e').caching = w.caching)
      (hexpected : ∀ (w : WriteBehind) (c : UInt64),
        (w.step e').store.tryGetExpectedCharVersion c = w.store.tryGetExpectedCharVersion c ∨
          (w.step e').store.tryGetExpectedCharVersion c = 0)
      (h : s'.progress.caches = (s.progress.flush e').caches)
  | expire {w : UInt32} {c : UInt64} (hhanded : s.handed e = none) (he : e = .expire w c)
      (h : s'.progress.caches = (s.expire w c).progress.caches)
  | idle (hhanded : s.handed e = none) (h : s'.progress.caches = s.progress.caches)

variable {recompute : CharacterCoreState → CharacterCombatRuntimeStats} {s : PersistenceLine}

theorem caching_takeBatch (w : WriteBehind) (order : List UInt64) (maxBatch : Nat) :
    (w.takeBatch order maxBatch).caching = w.caching := by
  simp only [WriteBehind.takeBatch]
  split <;> rfl

theorem caching_advance (w : WriteBehind) (k : Nat) (ok : Bool) :
    (w.advance k ok).caching = w.caching := by
  simp only [WriteBehind.advance]
  split <;> rfl

theorem expected_takeBatch (w : WriteBehind) (order : List UInt64) (maxBatch : Nat) (c : UInt64) :
    (w.takeBatch order maxBatch).store.tryGetExpectedCharVersion c =
      w.store.tryGetExpectedCharVersion c := by
  simp only [WriteBehind.takeBatch]
  split <;> rfl

/-- A flush keeps an expected version or forgets it. -/
theorem expected_advance (w : WriteBehind) (k : Nat) (ok : Bool) (c : UInt64) :
    (w.advance k ok).store.tryGetExpectedCharVersion c = w.store.tryGetExpectedCharVersion c ∨
      (w.advance k ok).store.tryGetExpectedCharVersion c = 0 := by
  simp only [WriteBehind.advance]
  split
  · exact .inl rfl
  · exact w.store.expected_flushStep _ ok c

/-- What an event of the game logic writes to the cache. -/
theorem progress_step_effect (s : PersistenceLine) (e : CharacterProgress.Event) :
    CacheEffect s (.progress e) (s.step recompute (.progress e)) := by
  cases e with
  | addGold c amount => exact .hands rfl rfl
  | lootMonster c txId dropItem dropCount =>
      obtain ⟨actors, hloot⟩ := s.progress.exists_lootMonster_eq c txId dropItem dropCount
      refine .idle rfl ?_
      rw [step, CharacterProgress.step, hloot]
  | gameplay c op => exact .idle rfl rfl
  | beginLeaveWorld ctx =>
      obtain ⟨actors, hleave⟩ := s.progress.exists_beginLeaveWorld_eq ctx
      refine .idle rfl ?_
      rw [step, CharacterProgress.step, hleave]
  | takeBatch order maxBatch =>
      exact .flush (.takeBatch order maxBatch) rfl (fun _ => trivial)
        (fun w => ⟨w.cache_takeBatch order maxBatch, caching_takeBatch w order maxBatch⟩)
        (fun w c => .inl (expected_takeBatch w order maxBatch c)) rfl
  | advanceFlush k ok =>
      exact .flush (.advance k ok) rfl (fun h => h.2)
        (fun w => ⟨w.cache_advance k ok, caching_advance w k ok⟩)
        (fun w c => expected_advance w k ok c) rfl
  | loadSnapshot accountId c =>
      obtain ⟨loaded, hload, -⟩ := s.progress.exists_loadSnapshot_eq accountId c
      refine .idle rfl ?_
      rw [step, CharacterProgress.step, hload]
  | completeEnter c sid serial assignedZoneId mapTemplateId instanceId =>
      cases hload : s.progress.loaded c with
      | none =>
          refine .idle (by simp [handed, hload]) ?_
          simp only [step, CharacterProgress.step, CharacterProgress.completeEnter, hload]
      | some core =>
          refine .hands (w := 0) (c := c) (b := serializeDemo (fromCharacterCoreState core))
            (by simp [handed, hload]) ?_
          simp only [step, CharacterProgress.step, CharacterProgress.completeEnter, hload]
          rfl

/-- The same for every event of the line. -/
theorem step_effect (s : PersistenceLine) (e : Event) :
    CacheEffect s e (s.step recompute e) := by
  cases e with
  | progress e => exact progress_step_effect s e
  | requestFlush w c =>
      cases hcore : (s.progress.actor c).coreState with
      | none =>
          refine .idle (by simp [handed, flushBlob, hcore]) ?_
          simp only [step, requestFlushCharacter, hcore]
          rfl
      | some core =>
          refine .hands (w := w) (c := c) (b := (s.progress.actor c).serializePersistentState)
            (by simp [handed, flushBlob, hcore]) ?_
          simp only [step, requestFlushCharacter, hcore]
          rfl
  | runFlushOne k =>
      cases hjob : s.jobs[k]? with
      | none =>
          refine .idle rfl ?_
          simp only [step, runFlushOne, hjob]
      | some job =>
          by_cases hcode : job.worldCode = s.worldCode
          · refine .flush (.flushOne job.charId job.expectedVersion) rfl (fun _ => trivial)
              (fun w => ⟨rfl, rfl⟩) (fun w c => .inl rfl) ?_
            simp only [step, runFlushOne, hjob, if_pos hcode]
          · refine .idle rfl ?_
            simp only [step, runFlushOne, hjob, if_neg hcode]
  | expire w c => exact .expire rfl rfl rfl

/-- The world id is fixed at the start. -/
theorem worldId_step (s : PersistenceLine) (e : Event) :
    (s.step recompute e).progress.worldId = s.progress.worldId := by
  cases e with
  | progress e => exact (CharacterProgress.frame_step recompute s.progress e).2
  | requestFlush w c =>
      simp only [step, requestFlushCharacter]
      split <;> rfl
  | runFlushOne k =>
      simp only [step, runFlushOne]
      split
      · rfl
      · split_ifs <;> rfl
  | expire w c => rfl

/-- A job in the queue was there, or is the one requested. -/
theorem mem_jobs_step {e : Event} {job : FlushOneChar} (h : job ∈ (s.step recompute e).jobs) :
    job ∈ s.jobs ∨ ∃ c, e = .requestFlush job.worldCode c := by
  cases e with
  | progress e => exact .inl h
  | requestFlush w c =>
      simp only [step, requestFlushCharacter, List.mem_append, List.mem_singleton] at h
      rcases h with hold | hnew
      · exact .inl hold
      · exact .inr ⟨c, by rw [hnew]⟩
  | runFlushOne k =>
      simp only [step, runFlushOne] at h
      split at h
      · exact .inl h
      · split_ifs at h <;> exact .inl (List.mem_of_mem_eraseIdx h)
  | expire w c => exact .inl h

/-! ## Runs -/

/-- What the steps keep of the world's own cache, with the states that were
cached last. -/
structure Persisted (w : WriteBehind) (last : Table UInt64 Blob) : Prop where
  covered : Covered w.store w.flushes
  idle : w.caching = []
  cached : ∀ c b, last c = some b → w.store.cache c = some b
  free : ∀ c b, w.store.cache c = some b →
    versionConflict (w.store.tryGetExpectedCharVersion c) (actualVersion c b) = false

section

variable {w : WriteBehind} {last : Table UInt64 Blob}

/-- `CacheCharacterState` expects the version that it caches. -/
theorem free_cacheCharacterState (h : ∀ c b, w.store.cache c = some b →
      versionConflict (w.store.tryGetExpectedCharVersion c) (actualVersion c b) = false)
    {c : UInt64} {b : Blob} {c' : UInt64} {b' : Blob}
    (hcache : ((w.beginCache c b).endCache w.caching.length).store.cache c' = some b') :
    versionConflict
      (((w.beginCache c b).endCache w.caching.length).store.tryGetExpectedCharVersion c')
      (actualVersion c' b') = false := by
  have hexpected : ((w.beginCache c b).endCache w.caching.length).store.expected =
      (w.beginCache c b).store.expected := by
    simp only [WriteBehind.endCache]
    split <;> rfl
  rw [WriteBehind.cache_endCache_beginCache, Table.set_apply] at hcache
  rw [WriteStore.tryGetExpectedCharVersion, hexpected]
  split_ifs at hcache with hc
  · obtain rfl := Option.some.inj hcache
    subst hc
    simp only [WriteBehind.beginCache, actualVersion]
    cases hparsed : tryDeserializeDemo b with
    | none => simp [versionConflict]
    | some parsed =>
        by_cases hid : parsed.charId = c'
        · by_cases hzero : c' = 0 ∨ parsed.version = 0
          · rcases hzero with rfl | hzero
            · simp [versionConflict]
            · simp [versionConflict, hzero]
          · rw [not_or] at hzero
            simp [versionConflict, WriteStore.updateExpectedCharVersion, hid, hzero.1, hzero.2]
        · simp [versionConflict, hid]
  · have hother : (w.beginCache c b).store.expected c' = w.store.expected c' := by
      simp only [WriteBehind.beginCache]
      split
      · rfl
      · simp only [WriteStore.updateExpectedCharVersion]
        split_ifs
        · rfl
        · exact Table.set_of_ne _ _ hc
        · rfl
    rw [hother]
    exact h c' b' hcache

/-- `CacheCharacterState` under the world's own code. -/
theorem Persisted.cacheCharacterState (h : Persisted w last) {c : UInt64} {b : Blob}
    (hclear : w.store.cache c = some b ∨
      ∀ f ∈ w.flushes, f.kind ≠ .batch → f.charId = c → ¬ f.phase.pastRead) :
    Persisted ((w.beginCache c b).endCache w.caching.length) (last.set c b) := by
  have hbegin := WriteBehind.covered_step (.beginCache c b) h.covered trivial
  have hcall : (w.beginCache c b).caching = [(c, b)] := by
    simp only [WriteBehind.beginCache, h.idle, List.nil_append]
  have hstore : (w.beginCache c b).store.cache = w.store.cache := by
    simp only [WriteBehind.beginCache]
    split
    · rfl
    · simp only [WriteStore.updateExpectedCharVersion]
      split_ifs <;> rfl
  have hend : (w.beginCache c b).Clear (.endCache w.caching.length) := by
    rw [h.idle]
    intro call hc
    rw [hcall] at hc
    obtain rfl := Option.some.inj hc
    rw [hstore]
    exact hclear
  refine ⟨WriteBehind.covered_step _ hbegin hend, ?_, fun c' b' hlast => ?_,
    fun c' b' hcache => free_cacheCharacterState h.free hcache⟩
  · rw [h.idle]
    simp [WriteBehind.endCache, hcall]
  · rw [WriteBehind.cache_endCache_beginCache]
    rw [Table.set_apply] at hlast ⊢
    split_ifs at hlast ⊢
    · exact hlast
    · exact h.cached c' b' hlast

/-- A flush changes the store and what is expected, but caches nothing. -/
theorem Persisted.flush (h : Persisted w last) {e : WriteBehind.Event} (hclear : w.Clear e)
    (hcache : (w.step e).store.cache = w.store.cache ∧ (w.step e).caching = w.caching)
    (hexpected : ∀ c,
      (w.step e).store.tryGetExpectedCharVersion c = w.store.tryGetExpectedCharVersion c ∨
        (w.step e).store.tryGetExpectedCharVersion c = 0) :
    Persisted (w.step e) last where
  covered := WriteBehind.covered_step e h.covered hclear
  idle := by rw [hcache.2, h.idle]
  cached := by
    rw [hcache.1]
    exact h.cached
  free c := WriteStore.free_of_expected (congrFun hcache.1 c) (hexpected c) (h.free c)

/-- The last blob is saved, or somebody still has to save it. -/
theorem Persisted.keeps (h : Persisted w last) {c : UInt64} {b : Blob} (hlast : last c = some b) :
    w.store.saved c = some b ∨ w.Marked c ∨ w.InBatch c := by
  by_cases hsaved : w.store.saved c = some b
  · exact .inl hsaved
  · by_cases hbatch : w.InBatch c
    · exact .inr (.inr hbatch)
    · exact .inr (.inl (.of_covered h.covered (h.cached c b hlast) hsaved hbatch))

end

/-- An agreeing event leaves the last blob written in the cache, under the key the code
computes. -/
theorem caches_step_of_agreeing {last : Table UInt64 Blob} {e : Event} (hok : s.Agreeing e)
    (h : Persisted s.world last) :
    Persisted ((s.step recompute e).progress.caches s.worldCode)
      (stepLast recompute (s, last) e).2 := by
  have heffect : CacheEffect s e (s.step recompute e) := step_effect s e
  cases heffect with
  | @hands wc c b hhanded heffect =>
      obtain ⟨rfl, hclear⟩ := hok.1 _ hhanded
      simp only [stepLast, hhanded, heffect, CharacterProgress.cacheCharacterState,
        Function.update_self]
      exact h.cacheCharacterState hclear
  | flush e' hhanded hclear hcache hexpected heffect =>
      have hworld : (s.progress.flush e').caches s.worldCode = s.world.step e' := by
        simp only [CharacterProgress.flush, worldCode, Function.update_self]
        rfl
      simp only [stepLast, hhanded, heffect, hworld]
      exact h.flush (hclear hok) (hcache s.world) (hexpected s.world)
  | @expire wc c hhanded he heffect =>
      subst he
      simp only [stepLast, hhanded, heffect, expire, Function.update_apply]
      split_ifs with hw
      · have hnone : s.world.store.cache c = none := hok.2 hw.symm
        rw [← hw]
        change Persisted { s.world with
          store := { s.world.store with cache := s.world.store.cache.erase c } } last
        rw [Table.erase_of_eq_none hnone]
        exact h
      · exact h
  | idle hhanded heffect =>
      simp only [stepLast, hhanded, heffect]
      exact h

/-- What the steps keep. -/
structure LinePersisted (sl : PersistenceLine × Table UInt64 Blob) : Prop where
  world : Persisted sl.1.world sl.2
  accepted : ∀ job ∈ sl.1.jobs, job.worldCode = sl.1.worldCode

/-- At the start nothing is cached. -/
theorem linePersisted_start (worldId : UInt16) (rows : Table UInt64 CharacterRow) :
    LinePersisted (start worldId rows, .empty) where
  world :=
    { covered := WriteBehind.covered_start .empty
      idle := rfl
      cached := fun _ _ h => by cases h
      free := fun _ _ h => by cases h }
  accepted job h := by cases h

/-- The step lemma. -/
theorem LinePersisted.step {sl : PersistenceLine × Table UInt64 Blob} {e : Event}
    (h : LinePersisted sl) (hok : sl.1.Agreeing e) : LinePersisted (stepLast recompute sl e) := by
  have hcode : (stepLast recompute sl e).1.worldCode = sl.1.worldCode := by
    simp only [stepLast, worldCode, worldId_step]
  constructor
  · have hcaches : Persisted ((sl.1.step recompute e).progress.caches sl.1.worldCode)
        (stepLast recompute sl e).2 := caches_step_of_agreeing hok h.world
    rw [← hcode] at hcaches
    exact hcaches
  · intro job hjob
    rw [hcode]
    rcases mem_jobs_step hjob with hold | ⟨c, he⟩
    · exact h.accepted job hold
    · rw [he] at hok
      exact hok.2

/-- The invariant says that the keys agree. -/
theorem LinePersisted.keysAgree {sl : PersistenceLine × Table UInt64 Blob}
    (h : LinePersisted sl) : KeysAgree sl where
  seen c b hlast := h.world.cached c b hlast
  kept _ _ hlast := h.world.keeps hlast
  saves _ _ hlast _ _ htaken :=
    WriteBehind.exists_saved_of_takeBatch sl.1.world htaken (h.world.cached _ _ hlast)
      (h.world.free _ _ (h.world.cached _ _ hlast))
  accepted := h.accepted

variable (recompute)

/-- **Persistence keys**: in a run that hands the states of characters to the
world's own cache, outside the window of a single flush, they are what an
enter loads and what the flushes save. -/
theorem keysAgree_of_along (worldId : UInt16) (rows : Table UInt64 CharacterRow) {es : List Event}
    (hrun : Along (stepLast recompute) (fun sl e => sl.1.Agreeing e)
      (start worldId rows, .empty) es) :
    Always (stepLast recompute) KeysAgree (start worldId rows, .empty) es := by
  have hpersisted := always_of_along (linePersisted_start worldId rows)
    (fun _ _ h hok => h.step hok) hrun
  exact hpersisted.imp fun _ h => h.keysAgree

/-- Character 11 enters, earns, is flushed on request, earns again and is
flushed with the world. -/
def enterEarnFlush : List Event :=
  [.progress (.loadSnapshot 100 11), .progress (.completeEnter 11 1 1 1 1 0),
    .progress (.addGold 11 100), .requestFlush 0 11, .runFlushOne 0,
    .progress (.advanceFlush 0 true), .progress (.advanceFlush 0 true),
    .progress (.advanceFlush 0 true), .progress (.addGold 11 50),
    .progress (.takeBatch [11] 200), .progress (.advanceFlush 0 true)]

/-- In a world without an id all goes to one cache. -/
theorem keysAgree_worldZero :
    KeysAgree (run (stepLast fun _ => {}) (start 0 CharacterProgress.oneCharacter, .empty)
      enterEarnFlush) := by
  have hrun : Along (stepLast fun _ => {}) (fun sl e => sl.1.Agreeing e)
      (start 0 CharacterProgress.oneCharacter, .empty) enterEarnFlush := by decide +kernel
  exact always_iff_forall_part.mp
    (keysAgree_of_along (fun _ => {}) 0 CharacterProgress.oneCharacter hrun) enterEarnFlush
    List.prefix_rfl

/-- In a world with an id the gold that was granted is in a cache that
nothing reads: no enter loads it, and no flush finds it. -/
theorem not_keysAgree_worldOne :
    ¬ ∀ (worldId : UInt16) (rows : Table UInt64 CharacterRow) (es : List Event),
      Always (stepLast fun _ => {}) KeysAgree (start worldId rows, .empty) es := by
  intro hall
  let es : List Event := [.progress (.loadSnapshot 100 11),
    .progress (.completeEnter 11 1 1 1 1 0), .progress (.addGold 11 100)]
  have hend := always_iff_forall_part.mp (hall 1 CharacterProgress.oneCharacter es) es
    List.prefix_rfl
  have hlast : (run (stepLast fun _ => {}) (start 1 CharacterProgress.oneCharacter, .empty) es).2
      11 = some (serializeDemo { charId := 11, gold := 1100, version := 2 }) := by decide +kernel
  have hseen := hend.seen 11 _ hlast
  exact absurd hseen (by decide +kernel)

end PersistenceLine

end GameServer
