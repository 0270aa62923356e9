import Mathlib.Data.Finset.Basic
import GameServer.Lib.Pool
import GameServer.Lib.Run
import GameServer.Lib.Table
import GameServer.World.CharacterState

/-!
# GameServer.World.WriteBehind

The write-behind cache of character states: `CacheCharacterState`, the
single-character flush and the batch flush of `OnDQSRunOne`, over the calls
of `RedisCache`.

A call of `RedisCache`, a look at the expected versions and a save to the
database each are one step; everything else can happen between two steps of
a flush.  `saved` is what `save_character_blob` was last given with success.

* `WriteStore` — the calls on the shared state;
* `Flush`, `WriteStore.flushStep` — a flush and its steps;
* `FlushStep`, `flushStep_spec` — everything such a step can do;
* `WriteBehind`, `step` — updates and flushes, interleaved;
* `cache_advance`, `cache_takeBatch` — a flush leaves the cached blobs alone.
-/

namespace GameServer

/-- What is between two steps of a flush. -/
inductive FlushPhase where
  | unread
  | holding (blob : Blob)
  | saving (blob : Blob)
  | saved
  | marking
deriving DecidableEq, Repr

/-- The blob that was read and is still to be saved. -/
def FlushPhase.blob : FlushPhase → Option Blob
  | .holding blob => some blob
  | .saving blob => some blob
  | _ => none

/-- The blob was read, and the flush has not given up on it. -/
def FlushPhase.pastRead : FlushPhase → Bool
  | .unread => false
  | .marking => false
  | _ => true

/-- `flush_one_char` with its expected version, or `flush_dirty_chars`. -/
inductive FlushKind where
  | one (expectedVersion : UInt32)
  | batch
deriving DecidableEq, Repr

/-- A flush in progress: the character it is at, and the ids of the batch
after it. -/
structure Flush where
  kind : FlushKind
  charId : UInt64
  phase : FlushPhase := .unread
  rest : List UInt64 := []
deriving DecidableEq, Repr

/-- Done with a character: on to the next one of the batch. -/
def Flush.next (f : Flush) : Option Flush :=
  match f.rest with
  | [] => none
  | charId :: rest => some { f with charId, rest, phase := .unread }

/-- The shared state: Redis, the database and the expected versions. -/
structure WriteStore where
  cache : Table UInt64 Blob := Table.empty
  dirty : Finset UInt64 := ∅
  saved : Table UInt64 Blob := Table.empty
  expected : Table UInt64 UInt32 := Table.empty

namespace WriteStore

variable (st : WriteStore)

/-- `UpdateExpectedCharVersion_`. -/
def updateExpectedCharVersion (charId : UInt64) (version : UInt32) : WriteStore :=
  if charId = 0 ∨ version = 0 then st
  else { st with expected := st.expected.set charId version }

/-- `TryGetExpectedCharVersion_`. -/
def tryGetExpectedCharVersion (charId : UInt64) : UInt32 :=
  if charId = 0 then 0 else (st.expected charId).getD 0

/-- `EraseExpectedCharVersion_`. -/
def eraseExpectedCharVersion (charId : UInt64) : WriteStore :=
  if charId = 0 then st else { st with expected := st.expected.erase charId }

/-- `upsert_character`. -/
def upsertCharacter (charId : UInt64) (blob : Blob) : WriteStore :=
  { st with cache := st.cache.set charId blob, dirty := insert charId st.dirty }

/-- `mark_dirty`. -/
def markDirty (charId : UInt64) : WriteStore := { st with dirty := insert charId st.dirty }

/-- `remove_dirty`. -/
def removeDirty (charId : UInt64) : WriteStore := { st with dirty := st.dirty.erase charId }

/-- `take_dirty_batch`: up to `maxBatch` members, in the order they are
visited. -/
def takeDirtyBatch (order : List UInt64) (maxBatch : Nat) : List UInt64 × WriteStore :=
  let ids := (order.filter (· ∈ st.dirty)).dedup.take maxBatch
  (ids, { st with dirty := st.dirty \ ids.toFinset })

/-- `save_character_blob`. -/
def saveCharacterBlob (charId : UInt64) (blob : Blob) : WriteStore :=
  { st with saved := st.saved.set charId blob }

/-- `FlushCharacterHotState`: nothing is saved for character 0 or an empty
blob. -/
def flushCharacterHotState (charId : UInt64) (blob : Blob) : WriteStore :=
  if charId = 0 ∨ blob = [] then st else st.saveCharacterBlob charId blob

end WriteStore

/-- The version in a blob, 0 if it is not one of the character's. -/
def actualVersion (charId : UInt64) (blob : Blob) : UInt32 :=
  match tryDeserializeDemo blob with
  | none => 0
  | some parsed => if parsed.charId = charId then parsed.version else 0

/-- The version check of both flushes. -/
def versionConflict (expectedVersion actualVersion : UInt32) : Bool :=
  expectedVersion ≠ 0 && actualVersion ≠ 0 && actualVersion ≠ expectedVersion

/-- The next step of a flush; `ok` is whether a save succeeds. -/
def WriteStore.flushStep (st : WriteStore) (f : Flush) (ok : Bool) : WriteStore × Option Flush :=
  match f.phase with
  | .unread =>
      match st.cache f.charId with
      | none => (st, f.next)
      | some blob =>
          match f.kind with
          | .one expectedVersion =>
              if versionConflict expectedVersion (actualVersion f.charId blob) then (st, f.next)
              else (st, some { f with phase := .saving blob })
          | .batch => (st, some { f with phase := .holding blob })
  | .holding blob =>
      if versionConflict (st.tryGetExpectedCharVersion f.charId) (actualVersion f.charId blob) then
        (st, some { f with phase := .marking })
      else (st, some { f with phase := .saving blob })
  | .saving blob =>
      match f.kind with
      | .one _ =>
          if f.charId = 0 ∨ blob = [] ∨ ok then
            (st.flushCharacterHotState f.charId blob, some { f with phase := .saved })
          else (st, some { f with phase := .marking })
      | .batch =>
          if ok then (st.saveCharacterBlob f.charId blob, some { f with phase := .saved })
          else (st, some { f with phase := .marking })
  | .saved =>
      match f.kind with
      | .one _ => (st.removeDirty f.charId, f.next)
      | .batch => (st.eraseExpectedCharVersion f.charId, f.next)
  | .marking => (st.markDirty f.charId, f.next)

/-- The write-behind system: the shared state, the calls of
`CacheCharacterState` before their upsert, and the flushes in progress. -/
structure WriteBehind where
  store : WriteStore := {}
  caching : List (UInt64 × Blob) := []
  flushes : List Flush := []

namespace WriteBehind

/-- `CacheCharacterState` up to the upsert. -/
def beginCache (s : WriteBehind) (charId : UInt64) (blob : Blob) : WriteBehind :=
  { s with
    store :=
      match tryDeserializeDemo blob with
      | none => s.store
      | some st =>
          if st.charId = charId then s.store.updateExpectedCharVersion charId st.version
          else s.store
    caching := s.caching ++ [(charId, blob)] }

/-- The upsert. -/
def endCache (s : WriteBehind) (k : Nat) : WriteBehind :=
  match s.caching[k]? with
  | none => s
  | some (charId, blob) =>
      { s with
        store := s.store.upsertCharacter charId blob
        caching := s.caching.eraseIdx k }

/-- A batch flush starts. -/
def takeBatch (s : WriteBehind) (order : List UInt64) (maxBatch : Nat) : WriteBehind :=
  let (ids, store) := s.store.takeDirtyBatch order (if maxBatch = 0 then 200 else maxBatch)
  match ids with
  | [] => { s with store }
  | charId :: rest => { s with store, flushes := s.flushes ++ [{ kind := .batch, charId, rest }] }

/-- A flush makes its next step. -/
def advance (s : WriteBehind) (k : Nat) (ok : Bool) : WriteBehind :=
  match s.flushes[k]? with
  | none => s
  | some f =>
      let (store, f') := s.store.flushStep f ok
      { s with store, flushes := replaceAt s.flushes k f' }

/-- What can happen next. -/
inductive Event where
  | beginCache (charId : UInt64) (blob : Blob)
  | endCache (k : Nat)
  | flushOne (charId : UInt64) (expectedVersion : UInt32)
  | takeBatch (order : List UInt64) (maxBatch : Nat)
  | advance (k : Nat) (ok : Bool)

def step (s : WriteBehind) : Event → WriteBehind
  | .beginCache charId blob => s.beginCache charId blob
  | .endCache k => s.endCache k
  | .flushOne charId expectedVersion =>
      { s with flushes := s.flushes ++ [{ kind := .one expectedVersion, charId }] }
  | .takeBatch order maxBatch => s.takeBatch order maxBatch
  | .advance k ok => s.advance k ok

/-- The start: an empty Redis, over any database. -/
def start (saved : Table UInt64 Blob) : WriteBehind := { store := { saved } }

end WriteBehind

/-! ## What a step of a flush does -/

namespace WriteStore

@[simp] theorem eraseExpectedCharVersion_cache (st : WriteStore) (c : UInt64) :
    (st.eraseExpectedCharVersion c).cache = st.cache := by
  unfold eraseExpectedCharVersion
  split_ifs <;> rfl

@[simp] theorem eraseExpectedCharVersion_dirty (st : WriteStore) (c : UInt64) :
    (st.eraseExpectedCharVersion c).dirty = st.dirty := by
  unfold eraseExpectedCharVersion
  split_ifs <;> rfl

@[simp] theorem eraseExpectedCharVersion_saved (st : WriteStore) (c : UInt64) :
    (st.eraseExpectedCharVersion c).saved = st.saved := by
  unfold eraseExpectedCharVersion
  split_ifs <;> rfl

end WriteStore

/-- Everything a step of a flush can do to the store and to the flush. -/
inductive FlushStep (st : WriteStore) (f : Flush) : WriteStore → Option Flush → Prop where
  | skip (hphase : f.phase = .unread) (hcache : st.cache f.charId = none) : FlushStep st f st f.next
  | conflict (hphase : f.phase = .unread) (hkind : f.kind ≠ .batch) : FlushStep st f st f.next
  | read {b : Blob} {p : FlushPhase} (hphase : f.phase = .unread)
      (hcache : st.cache f.charId = some b) (hp : p.blob = some b) :
      FlushStep st f st (some { f with phase := p })
  | hold {b : Blob} {p : FlushPhase} (hphase : f.phase.blob = some b)
      (hp : p = .saving b ∨ p = .marking) : FlushStep st f st (some { f with phase := p })
  | save {b : Blob} (hphase : f.phase = .saving b) :
      FlushStep st f (st.saveCharacterBlob f.charId b) (some { f with phase := .saved })
  /-- `FlushCharacterHotState` has nothing to save, and says it did. -/
  | skipSave {b : Blob} (hphase : f.phase = .saving b) (hkind : f.kind ≠ .batch)
      (hnothing : f.charId = 0 ∨ b = []) : FlushStep st f st (some { f with phase := .saved })
  | unmark (hphase : f.phase = .saved) (hkind : f.kind ≠ .batch) :
      FlushStep st f (st.removeDirty f.charId) f.next
  | done (hphase : f.phase = .saved) (hkind : f.kind = .batch) :
      FlushStep st f (st.eraseExpectedCharVersion f.charId) f.next
  | mark (hphase : f.phase = .marking) : FlushStep st f (st.markDirty f.charId) f.next

/-- One step of a flush is one of the cases of `FlushStep`. -/
theorem flushStep_spec (st : WriteStore) (f : Flush) (ok : Bool) :
    FlushStep st f (st.flushStep f ok).1 (st.flushStep f ok).2 := by
  obtain ⟨kind, charId, phase, rest⟩ := f
  cases phase with
  | unread =>
      simp only [WriteStore.flushStep]
      cases hcache : st.cache charId with
      | none => exact .skip rfl hcache
      | some b =>
          cases kind with
          | one expectedVersion =>
              dsimp only
              split_ifs
              · exact .conflict rfl nofun
              · exact .read rfl hcache rfl
          | batch => exact .read rfl hcache rfl
  | holding b =>
      simp only [WriteStore.flushStep]
      split_ifs
      · exact .hold rfl (.inr rfl)
      · exact .hold rfl (.inl rfl)
  | saving b =>
      cases kind with
      | one expectedVersion =>
          simp only [WriteStore.flushStep, WriteStore.flushCharacterHotState]
          by_cases hnothing : charId = 0 ∨ b = []
          · rw [if_pos (hnothing.imp_right .inl), if_pos hnothing]
            exact .skipSave rfl nofun hnothing
          · rw [if_neg hnothing]
            split_ifs
            · exact .save rfl
            · exact .hold rfl (.inr rfl)
      | batch =>
          simp only [WriteStore.flushStep]
          split_ifs
          · exact .save rfl
          · exact .hold rfl (.inr rfl)
  | saved =>
      cases kind with
      | one expectedVersion => exact .unmark rfl nofun
      | batch => exact .done rfl rfl
  | marking => exact .mark rfl

/-- Only an upsert changes the cached blobs. -/
theorem FlushStep.cache_eq {st st' : WriteStore} {f : Flush} {o : Option Flush}
    (h : FlushStep st f st' o) : st'.cache = st.cache := by
  cases h with
  | done => exact st.eraseExpectedCharVersion_cache f.charId
  | _ => rfl

namespace WriteBehind

/-- `CacheCharacterState` that is not interrupted. -/
theorem cache_endCache_beginCache (s : WriteBehind) (charId : UInt64) (blob : Blob) :
    ((s.beginCache charId blob).endCache s.caching.length).store.cache =
      s.store.cache.set charId blob := by
  have hcall : (s.caching ++ [(charId, blob)])[s.caching.length]? = some (charId, blob) := by simp
  simp only [endCache, beginCache, hcall, WriteStore.upsertCharacter]
  split
  · rfl
  · simp only [WriteStore.updateExpectedCharVersion]
    split_ifs <;> rfl

theorem cache_advance (s : WriteBehind) (k : Nat) (ok : Bool) :
    (s.advance k ok).store.cache = s.store.cache := by
  simp only [advance]
  split
  · rfl
  · next f _ => exact (flushStep_spec s.store f ok).cache_eq

theorem cache_takeBatch (s : WriteBehind) (order : List UInt64) (maxBatch : Nat) :
    (s.takeBatch order maxBatch).store.cache = s.store.cache := by
  simp only [takeBatch]
  split <;> rfl

/-! ## A batch flush, character by character -/

/-- The last flush makes a step. -/
theorem step_advance_last (st : WriteStore) (caching : List (UInt64 × Blob)) (fl : List Flush)
    (f : Flush) (ok : Bool) :
    step ⟨st, caching, fl ++ [f]⟩ (.advance fl.length ok) =
      ⟨(st.flushStep f ok).1, caching, fl ++ (st.flushStep f ok).2.toList⟩ := by
  have hf : (fl ++ [f])[fl.length]? = some f := by simp
  simp only [step, advance, hf, replaceAt_append_length]

end WriteBehind

/-- What a batch flush does for one character when nothing interferes; `ok` is
whether a save succeeds. -/
def WriteStore.batchPass (st : WriteStore) (charId : UInt64) (ok : Bool) : WriteStore :=
  match st.cache charId with
  | none => st
  | some blob =>
      if versionConflict (st.tryGetExpectedCharVersion charId) (actualVersion charId blob) then
        st.markDirty charId
      else if ok then (st.saveCharacterBlob charId blob).eraseExpectedCharVersion charId
      else st.markDirty charId

namespace WriteBehind

/-- The steps of a batch flush for one character. -/
theorem exists_run_batchPass (st : WriteStore) (caching : List (UInt64 × Blob)) (fl : List Flush)
    {f : Flush} (ok : Bool) (hkind : f.kind = .batch) (hphase : f.phase = .unread) :
    ∃ m, run step ⟨st, caching, fl ++ [f]⟩ (List.replicate m (.advance fl.length ok)) =
      ⟨st.batchPass f.charId ok, caching, fl ++ f.next.toList⟩ := by
  obtain ⟨kind, charId, phase, rest⟩ := f
  dsimp only at hkind hphase
  subst hkind hphase
  cases hblob : st.cache charId with
  | none =>
      refine ⟨1, ?_⟩
      simp [List.replicate, step_advance_last, WriteStore.flushStep, WriteStore.batchPass, hblob]
  | some blob =>
      by_cases hconflict : versionConflict (st.tryGetExpectedCharVersion charId)
          (actualVersion charId blob) = true
      · refine ⟨3, ?_⟩
        simp [List.replicate, step_advance_last, WriteStore.flushStep, WriteStore.batchPass, hblob,
          hconflict, Flush.next]
      · refine ⟨4, ?_⟩
        cases ok with
        | false =>
            simp [List.replicate, step_advance_last, WriteStore.flushStep, WriteStore.batchPass,
              hblob, hconflict, Flush.next]
        | true =>
            simp [List.replicate, step_advance_last, WriteStore.flushStep, WriteStore.batchPass,
              hblob, hconflict, Flush.next]

/-- A batch flush that nothing interferes with makes its passes one after the
other; `ok` tells whose saves succeed. -/
theorem exists_run_batch (caching : List (UInt64 × Blob)) (fl : List Flush) (ok : UInt64 → Bool)
    (st : WriteStore) {f : Flush} (hkind : f.kind = .batch) (hphase : f.phase = .unread) :
    ∃ oks : List Bool, (∀ b ∈ oks, ∃ c, b = ok c) ∧
      run step ⟨st, caching, fl ++ [f]⟩ (oks.map (.advance fl.length)) =
        ⟨(f.charId :: f.rest).foldl (fun st c => st.batchPass c (ok c)) st, caching, fl⟩ := by
  induction hrest : f.rest generalizing st f with
  | nil =>
      obtain ⟨m, hrun⟩ := exists_run_batchPass st caching fl (ok f.charId) hkind hphase
      refine ⟨List.replicate m (ok f.charId), fun b hb => ⟨_, List.eq_of_mem_replicate hb⟩, ?_⟩
      rw [List.map_replicate, hrun]
      simp [Flush.next, hrest]
  | cons charId rest ih =>
      obtain ⟨m, hrun⟩ := exists_run_batchPass st caching fl (ok f.charId) hkind hphase
      have hnext : f.next.toList = [{ f with charId, rest, phase := .unread }] := by
        simp [Flush.next, hrest]
      obtain ⟨oks, hoks, hrun'⟩ := ih (st.batchPass f.charId (ok f.charId))
        (f := { f with charId, rest, phase := .unread }) hkind rfl rfl
      refine ⟨List.replicate m (ok f.charId) ++ oks, fun b hb => ?_, ?_⟩
      · rcases List.mem_append.mp hb with hfirst | hlater
        · exact ⟨_, List.eq_of_mem_replicate hfirst⟩
        · exact hoks b hlater
      · rw [List.map_append, List.map_replicate, run_append, hrun, hnext, hrun']
        rfl

end WriteBehind

end GameServer
