import GameServer.Lib.FoldedTable
import GameServer.World.BatchFlush

/-!
# GameServer.World.ExpectedVersions

The versions that the batch flush expects, for the characters of all world
codes.

`CacheCharacterState` records the version of what it is given, the batch flush
compares it with the version of the cached blob, and forgets it with a save.
The versions of all characters are in one map, under keys that fold the world
code into the upper bits of the character id, so two characters can have one
key.

A world with a Redis and a database is assumed, whose calls can fail.  A pass
of the flush for one character is one step.

* `VersionLine`, `step` -- the world codes, the map and the batch flushes
* `recordedVersions` -- what is recorded for whom, by the history of the run
* `KeysApart` -- no other character with the same key has a recorded version
* `versionChecks_run` -- with the keys apart each check is about its character
* `worldStore_afterPass` -- within one world, the flush of `WriteStore`
-/

namespace GameServer

/-! ## The world codes -/

/-- `MakeWorldCharKey_`, of a world code and a character id. -/
def makeWorldCharKey (p : UInt32 × UInt64) : UInt64 := (p.1.toUInt64 <<< 56) ^^^ p.2

/-- How far `upsert_character` gets: an exception is logged. -/
inductive UpsertAnswer where
  | throws
  | stored
  | marked
deriving DecidableEq, Repr

/-- The calls of a pass that throw. -/
structure PassAnswer where
  readThrows : Bool := false
  saveThrows : Bool := false
deriving DecidableEq, Repr

/-- How a pass of the flush ends. -/
inductive PassResult where
  | aborted
  | skipped
  | conflict
  | failed
  | saved (blob : Blob)
deriving DecidableEq, Repr

/-- A world: what Redis has for each world code, the database, the expected
versions, and the ids that the batch flushes in progress have yet to process. -/
structure VersionLine where
  worldId : UInt32
  cache : UInt32 → Table UInt64 Blob := fun _ => Table.empty
  dirty : UInt32 → Finset UInt64 := fun _ => ∅
  saved : Table UInt64 Blob := Table.empty
  expectedCharVersionByKey : Table UInt64 UInt32 := Table.empty
  flushes : List (List UInt64) := []

namespace VersionLine

variable (s : VersionLine)

/-- `UpdateExpectedCharVersion_`. -/
def updateExpectedCharVersion (worldCode : UInt32) (charId : UInt64) (version : UInt32) :
    VersionLine :=
  if charId = 0 ∨ version = 0 then s
  else
    { s with expectedCharVersionByKey :=
        s.expectedCharVersionByKey.set (makeWorldCharKey (worldCode, charId)) version }

/-- `TryGetExpectedCharVersion_`. -/
def tryGetExpectedCharVersion (worldCode : UInt32) (charId : UInt64) : UInt32 :=
  if charId = 0 then 0
  else (s.expectedCharVersionByKey (makeWorldCharKey (worldCode, charId))).getD 0

/-- `EraseExpectedCharVersion_`. -/
def eraseExpectedCharVersion (worldCode : UInt32) (charId : UInt64) : VersionLine :=
  if charId = 0 then s
  else
    { s with expectedCharVersionByKey :=
        s.expectedCharVersionByKey.erase (makeWorldCharKey (worldCode, charId)) }

/-- What `get_character_blob` finds from now on. -/
def putBlob (worldCode : UInt32) (charId : UInt64) (blob : Option Blob) : VersionLine :=
  { s with cache :=
      Function.update s.cache worldCode (Function.update (s.cache worldCode) charId blob) }

/-- `mark_dirty`. -/
def markDirty (worldCode : UInt32) (charId : UInt64) : VersionLine :=
  { s with dirty := Function.update s.dirty worldCode (insert charId (s.dirty worldCode)) }

/-- `upsert_character`, as far as it gets. -/
def upsertCharacter (worldCode : UInt32) (charId : UInt64) (blob : Blob) :
    UpsertAnswer → VersionLine
  | .throws => s
  | .stored => s.putBlob worldCode charId blob
  | .marked => (s.putBlob worldCode charId blob).markDirty worldCode charId

/-- `CacheCharacterState`. -/
def cacheCharacterState (worldCode : UInt32) (charId : UInt64) (blob : Blob)
    (answer : UpsertAnswer) : VersionLine :=
  let s :=
    match tryDeserializeDemo blob with
    | none => s
    | some st =>
        if st.charId = charId then s.updateExpectedCharVersion worldCode charId st.version else s
  s.upsertCharacter worldCode charId blob answer

/-- `flush_dirty_chars` up to the loop: the batch of another world is refused. -/
def flushDirtyChars (payload : FlushDirtyChars) (order : List UInt64) : VersionLine :=
  if payload.worldId ≠ s.worldId then s
  else
    let ids := (order.filter (· ∈ s.dirty s.worldId)).dedup.take
      (FlushWorker.batchSize payload).toNat
    { s with
      dirty := Function.update s.dirty s.worldId (s.dirty s.worldId \ ids.toFinset)
      flushes := s.flushes ++ [ids] }

/-- What the loop decides about a character. -/
def passResult (charId : UInt64) (answer : PassAnswer) : PassResult :=
  if answer.readThrows then .aborted
  else
    match s.cache s.worldId charId with
    | none => .skipped
    | some blob =>
        if versionConflict (s.tryGetExpectedCharVersion s.worldId charId)
            (actualVersion charId blob) then .conflict
        else if answer.saveThrows then .failed
        else .saved blob

/-- What the loop does with that. -/
def afterPass (charId : UInt64) : PassResult → VersionLine
  | .aborted | .skipped => s
  | .conflict | .failed => s.markDirty s.worldId charId
  | .saved blob =>
      { s with saved := s.saved.set charId blob }.eraseExpectedCharVersion s.worldId charId

/-- A pass of the loop; a read that throws ends the job. -/
def pass (k : Nat) (answer : PassAnswer) : VersionLine :=
  match s.flushes[k]? with
  | none | some [] => s
  | some (charId :: rest) =>
      let result := s.passResult charId answer
      { s.afterPass charId result with
        flushes := s.flushes.set k (if result = .aborted then [] else rest) }

/-- What can happen next; a blob in Redis can expire, or be written by another
process. -/
inductive Event where
  | cacheCharacterState (worldCode : UInt32) (charId : UInt64) (blob : Blob)
      (answer : UpsertAnswer)
  | flushDirtyChars (payload : FlushDirtyChars) (order : List UInt64)
  | pass (k : Nat) (answer : PassAnswer)
  | redisChanged (worldCode : UInt32) (charId : UInt64) (blob : Option Blob)
deriving DecidableEq, Repr

def step : Event → VersionLine
  | .cacheCharacterState worldCode charId blob answer =>
      s.cacheCharacterState worldCode charId blob answer
  | .flushDirtyChars payload order => s.flushDirtyChars payload order
  | .pass k answer => s.pass k answer
  | .redisChanged worldCode charId blob => s.putBlob worldCode charId blob

end VersionLine

/-! ## What is recorded -/

/-- A version is recorded for a character, or a batch flush has saved it. -/
inductive VersionEvent where
  | recorded (character : UInt32 × UInt64) (version : UInt32)
  | saved (character : UInt32 × UInt64)
deriving DecidableEq, Repr

def VersionEvent.character : VersionEvent → UInt32 × UInt64
  | .recorded character _ => character
  | .saved character => character

/-- The version of the latest record for each character since its last save. -/
def recordedVersions (history : List VersionEvent) : Table (UInt32 × UInt64) UInt32 :=
  history.foldl (fun t e =>
    match e with
    | .recorded character version => t.set character version
    | .saved character => t.erase character) Table.empty

/-- The expected version, 0 if there is none. -/
def expectedVersion (history : List VersionEvent) (character : UInt32 × UInt64) : UInt32 :=
  (recordedVersions history character).getD 0

/-- The version that a call of `CacheCharacterState` records; character 0 is
nobody. -/
def recordedBy (charId : UInt64) (blob : Blob) : Option UInt32 :=
  if charId = 0 ∨ actualVersion charId blob = 0 then none else some (actualVersion charId blob)

namespace VersionLine

/-- The characters that a step records a version for, or saves. -/
def observed (s : VersionLine) : Event → List VersionEvent
  | .cacheCharacterState worldCode charId blob _ =>
      (recordedBy charId blob).toList.map (.recorded (worldCode, charId))
  | .pass k answer =>
      match s.flushes[k]? with
      | none | some [] => []
      | some (charId :: _) =>
          match s.passResult charId answer with
          | .saved _ => [.saved (s.worldId, charId)]
          | .aborted | .skipped | .conflict | .failed => []
  | .flushDirtyChars .. | .redisChanged .. => []

/-- The character whose entry of the map a step is about. -/
def touched (s : VersionLine) : Event → Option (UInt32 × UInt64)
  | .cacheCharacterState worldCode charId blob _ =>
      (recordedBy charId blob).map fun _ => (worldCode, charId)
  | .pass k answer =>
      match s.flushes[k]? with
      | none | some [] => none
      | some (charId :: _) =>
          if charId = 0 ∨ answer.readThrows ∨ s.cache s.worldId charId = none then none
          else some (s.worldId, charId)
  | .flushDirtyChars .. | .redisChanged .. => none

/-- A step records a version for a character, or processes a character that has
a blob, only while no other character with the same key has a recorded
version. -/
def KeysApart (sh : VersionLine × List VersionEvent) (e : Event) : Prop :=
  ∀ p ∈ sh.1.touched e, ∀ q ∈ sh.2.map VersionEvent.character,
    q ≠ p → makeWorldCharKey q = makeWorldCharKey p → recordedVersions sh.2 q = none

instance (sh : VersionLine × List VersionEvent) (e : Event) : Decidable (KeysApart sh e) :=
  -- through the lists: a character is one of finitely many, but of too many
  let (p : UInt32 × UInt64) : Decidable (∀ q ∈ sh.2.map VersionEvent.character,
      q ≠ p → makeWorldCharKey q = makeWorldCharKey p → recordedVersions sh.2 q = none) :=
    List.decidableBAll _ _
  Option.decidableForallMem _

/-- The map has the recorded version of every character. -/
def VersionsKept (sh : VersionLine × List VersionEvent) : Prop :=
  ∀ worldCode charId version, recordedVersions sh.2 (worldCode, charId) = some version →
    sh.1.tryGetExpectedCharVersion worldCode charId = version

/-- A pass that processes a character refuses it exactly if its own recorded
version and the version of its cached blob are both not 0 and differ. -/
def ChecksOwnVersion (sh : VersionLine × List VersionEvent) (e : Event) : Prop :=
  ∀ k answer charId rest blob, e = .pass k answer → sh.1.flushes[k]? = some (charId :: rest) →
    answer.readThrows = false → sh.1.cache sh.1.worldId charId = some blob →
    (sh.1.passResult charId answer = .conflict ↔
      expectedVersion sh.2 (sh.1.worldId, charId) ≠ 0 ∧ actualVersion charId blob ≠ 0 ∧
        actualVersion charId blob ≠ expectedVersion sh.2 (sh.1.worldId, charId))

/-! ## The map of the code -/

section Map

variable (s : VersionLine)

theorem expected_upsertCharacter (worldCode : UInt32) (charId : UInt64) (blob : Blob)
    (answer : UpsertAnswer) :
    (s.upsertCharacter worldCode charId blob answer).expectedCharVersionByKey =
      s.expectedCharVersionByKey := by
  cases answer <;> rfl

/-- Caching records the version of the blob under its key, if the blob has one. -/
theorem expected_cacheCharacterState (worldCode : UInt32) (charId : UInt64) (blob : Blob)
    (answer : UpsertAnswer) :
    (s.cacheCharacterState worldCode charId blob answer).expectedCharVersionByKey =
      match recordedBy charId blob with
      | none => s.expectedCharVersionByKey
      | some version =>
          s.expectedCharVersionByKey.set (makeWorldCharKey (worldCode, charId)) version := by
  rw [cacheCharacterState, expected_upsertCharacter]
  unfold recordedBy actualVersion
  cases tryDeserializeDemo blob with
  | none => simp
  | some st =>
      by_cases hid : st.charId = charId
      · simp only [hid, if_true, updateExpectedCharVersion]
        split_ifs <;> rfl
      · simp [hid]

theorem expected_flushDirtyChars (payload : FlushDirtyChars) (order : List UInt64) :
    (s.flushDirtyChars payload order).expectedCharVersionByKey = s.expectedCharVersionByKey := by
  unfold flushDirtyChars
  split_ifs <;> rfl

/-- A saved pass forgets the version it was for. -/
theorem expected_afterPass (charId : UInt64) (result : PassResult) :
    (s.afterPass charId result).expectedCharVersionByKey =
      match result with
      | .saved _ =>
          if charId = 0 then s.expectedCharVersionByKey
          else s.expectedCharVersionByKey.erase (makeWorldCharKey (s.worldId, charId))
      | .aborted | .skipped | .conflict | .failed => s.expectedCharVersionByKey := by
  cases result with
  | saved blob =>
      simp only [afterPass, eraseExpectedCharVersion]
      split_ifs <;> rfl
  | _ => rfl

/-- A character is saved only if it has a blob. -/
theorem cache_of_passResult_saved {s : VersionLine} {charId : UInt64} {answer : PassAnswer}
    {blob : Blob} (h : s.passResult charId answer = .saved blob) :
    answer.readThrows = false ∧ s.cache s.worldId charId ≠ none := by
  unfold passResult at h
  split at h
  · exact PassResult.noConfusion h
  next hread =>
  refine ⟨Bool.eq_false_iff.mpr hread, fun hcache => ?_⟩
  rw [hcache] at h
  exact PassResult.noConfusion h

end Map

/-! ## The recorded versions -/

/-- One more event of the history. -/
theorem recordedVersions_concat (history : List VersionEvent) (e : VersionEvent) :
    recordedVersions (history ++ [e]) =
      match e with
      | .recorded character version => (recordedVersions history).set character version
      | .saved character => (recordedVersions history).erase character := by
  rw [recordedVersions, List.foldl_append]
  rfl

/-- Nothing is recorded for a character that the history does not name. -/
theorem recordedVersions_eq_none {history : List VersionEvent} {p : UInt32 × UInt64}
    (h : p ∉ history.map VersionEvent.character) : recordedVersions history p = none := by
  induction history using List.reverseRecOn with
  | nil => rfl
  | append_singleton history e ih =>
      rw [List.map_append, List.mem_append, not_or, List.map_singleton, List.mem_singleton] at h
      rw [recordedVersions_concat]
      cases e with
      | recorded character version => exact (Table.set_of_ne _ _ h.2).trans (ih h.1)
      | saved character => exact (Table.erase_of_ne _ h.2).trans (ih h.1)

/-- What the map holds is what is recorded, each under its key. -/
structure VersionsFold (sh : VersionLine × List VersionEvent) : Prop where
  folds : Folds makeWorldCharKey (recordedVersions sh.2) sh.1.expectedCharVersionByKey
  nobody : ∀ worldCode, recordedVersions sh.2 (worldCode, 0) = none

section

variable {sh : VersionLine × List VersionEvent} {e : Event}

theorem KeysApart.alone (h : KeysApart sh e) {p : UInt32 × UInt64} (hp : sh.1.touched e = some p) :
    Alone makeWorldCharKey (recordedVersions sh.2) p := by
  intro q hqp hkey
  by_cases hq : q ∈ sh.2.map VersionEvent.character
  · exact h p hp q hq hqp hkey
  · exact recordedVersions_eq_none hq

/-- The lookup of a pass finds what is recorded for its character. -/
theorem VersionsFold.tryGetExpectedCharVersion (h : VersionsFold sh) (worldCode : UInt32)
    (charId : UInt64)
    (halone : charId ≠ 0 →
      Alone makeWorldCharKey (recordedVersions sh.2) (worldCode, charId)) :
    sh.1.tryGetExpectedCharVersion worldCode charId = expectedVersion sh.2 (worldCode, charId) := by
  unfold VersionLine.tryGetExpectedCharVersion expectedVersion
  split_ifs with hzero
  · rw [hzero, h.nobody, Option.getD_none]
  · rw [h.folds.lookup (halone hzero)]

/-- A recorded version replaces that of its own key, which no other character shares. -/
theorem VersionsFold.recorded (h : VersionsFold sh) {p : UInt32 × UInt64} (hzero : p.2 ≠ 0)
    (halone : Alone makeWorldCharKey (recordedVersions sh.2) p) (version : UInt32)
    {s : VersionLine} (hs : s.expectedCharVersionByKey =
      sh.1.expectedCharVersionByKey.set (makeWorldCharKey p) version) :
    VersionsFold (s, sh.2 ++ [.recorded p version]) := by
  refine ⟨?_, fun worldCode => ?_⟩
  · dsimp only
    rw [recordedVersions_concat, hs]
    exact h.folds.set halone version
  · dsimp only
    rw [recordedVersions_concat]
    refine (Table.set_of_ne _ _ fun hp => hzero ?_).trans (h.nobody worldCode)
    rw [← hp]

/-- A save erases that of its own key. -/
theorem VersionsFold.saved (h : VersionsFold sh) {p : UInt32 × UInt64}
    (halone : p.2 ≠ 0 → Alone makeWorldCharKey (recordedVersions sh.2) p) {s : VersionLine}
    (hs : s.expectedCharVersionByKey =
      if p.2 = 0 then sh.1.expectedCharVersionByKey
      else sh.1.expectedCharVersionByKey.erase (makeWorldCharKey p)) :
    VersionsFold (s, sh.2 ++ [.saved p]) := by
  refine ⟨?_, fun worldCode => ?_⟩
  · dsimp only
    rw [recordedVersions_concat, hs]
    split_ifs with hzero
    · have hp : recordedVersions sh.2 p = none := by
        obtain ⟨worldCode, charId⟩ := p
        dsimp only at hzero
        rw [hzero]
        exact h.nobody worldCode
      dsimp only
      rw [Table.erase_of_eq_none hp]
      exact h.folds
    · exact h.folds.erase (halone hzero)
  · dsimp only
    rw [recordedVersions_concat]
    dsimp only
    rw [Table.erase_apply]
    split_ifs
    · rfl
    · exact h.nobody worldCode

theorem VersionsFold.unchanged (h : VersionsFold sh) {s : VersionLine}
    (hs : s.expectedCharVersionByKey = sh.1.expectedCharVersionByKey) :
    VersionsFold (s, sh.2 ++ []) := by
  rw [List.append_nil]
  exact ⟨hs ▸ h.folds, h.nobody⟩

/-- A pass that reads a cached blob touches its own character. -/
theorem touched_pass {s : VersionLine} {k : Nat} {answer : PassAnswer} {charId : UInt64}
    {rest : List UInt64} (hk : s.flushes[k]? = some (charId :: rest)) (hzero : charId ≠ 0)
    (hread : answer.readThrows = false) (hcache : s.cache s.worldId charId ≠ none) :
    s.touched (.pass k answer) = some (s.worldId, charId) := by
  simp only [touched, hk]
  rw [if_neg]
  rintro (h | h | h)
  · exact hzero h
  · rw [hread] at h
    exact Bool.noConfusion h
  · exact hcache h

/-- What a step keeps while the keys are apart. -/
theorem VersionsFold.step (h : VersionsFold sh) (hok : KeysApart sh e) :
    VersionsFold (recording step observed sh e) := by
  cases e with
  | cacheCharacterState worldCode charId blob answer =>
      have hmap := expected_cacheCharacterState sh.1 worldCode charId blob answer
      cases hrec : recordedBy charId blob with
      | none =>
          simp only [hrec] at hmap
          simp only [recording, observed, hrec, Option.toList_none, List.map_nil]
          exact h.unchanged hmap
      | some version =>
          have hzero : charId ≠ 0 := by
            rintro rfl
            exact absurd hrec (by simp [recordedBy])
          have htouched : sh.1.touched (.cacheCharacterState worldCode charId blob answer) =
              some (worldCode, charId) := by
            simp only [touched, hrec, Option.map_some]
          simp only [hrec] at hmap
          simp only [recording, observed, hrec, Option.toList_some, List.map_singleton]
          exact h.recorded hzero (hok.alone htouched) version hmap
  | flushDirtyChars payload order =>
      exact h.unchanged (expected_flushDirtyChars sh.1 payload order)
  | redisChanged worldCode charId blob => exact h.unchanged rfl
  | pass k answer =>
      simp only [recording, observed, VersionLine.step, pass]
      cases hk : sh.1.flushes[k]? with
      | none => exact h.unchanged rfl
      | some ids =>
          cases ids with
          | nil => exact h.unchanged rfl
          | cons charId rest =>
              have hmap := expected_afterPass sh.1 charId (sh.1.passResult charId answer)
              dsimp only
              cases hresult : sh.1.passResult charId answer with
              | saved blob =>
                  obtain ⟨hread, hcache⟩ := cache_of_passResult_saved hresult
                  rw [hresult] at hmap
                  exact h.saved (fun hzero => hok.alone (touched_pass hk hzero hread hcache)) hmap
              | aborted => exact h.unchanged rfl
              | skipped => exact h.unchanged rfl
              | conflict => exact h.unchanged rfl
              | failed => exact h.unchanged rfl

/-- The fold over the history is what the table has. -/
theorem VersionsFold.versionsKept (h : VersionsFold sh) : VersionsKept sh := by
  intro worldCode charId version hversion
  have hzero : charId ≠ 0 := by
    rintro rfl
    rw [h.nobody] at hversion
    exact Option.some_ne_none version hversion.symm
  rw [VersionLine.tryGetExpectedCharVersion, if_neg hzero, h.folds.held _ _ hversion,
    Option.getD_some]

/-- A pass ends in a conflict exactly on a version that is not expected. -/
theorem passResult_eq_conflict_iff {s : VersionLine} {charId : UInt64} {answer : PassAnswer}
    {blob : Blob} (hread : answer.readThrows = false)
    (hcache : s.cache s.worldId charId = some blob) :
    s.passResult charId answer = .conflict ↔
      versionConflict (s.tryGetExpectedCharVersion s.worldId charId)
        (actualVersion charId blob) = true := by
  simp only [passResult, hread, hcache]
  split_ifs with hconflict hsave <;> simp_all

/-- While the keys are apart a pass checks the version of its own character. -/
theorem VersionsFold.checksOwnVersion (h : VersionsFold sh) (hok : KeysApart sh e) :
    ChecksOwnVersion sh e := by
  rintro k answer charId rest blob rfl hk hread hcache
  have hexpected := h.tryGetExpectedCharVersion sh.1.worldId charId
    fun hzero => hok.alone (touched_pass hk hzero hread (by simp [hcache]))
  rw [passResult_eq_conflict_iff hread hcache, hexpected]
  simp [versionConflict, and_assoc]

end

/-! ## One world -/

/-- Within a world code the keys are apart. -/
theorem makeWorldCharKey_inj {worldCode : UInt32} {charId charId' : UInt64} :
    makeWorldCharKey (worldCode, charId) = makeWorldCharKey (worldCode, charId') ↔
      charId = charId' :=
  UInt64.xor_right_inj _

/-- The world's own characters, with the versions that the map has for them. -/
def worldStore (s : VersionLine) : WriteStore where
  cache := s.cache s.worldId
  dirty := s.dirty s.worldId
  saved := s.saved
  expected charId := s.expectedCharVersionByKey (makeWorldCharKey (s.worldId, charId))

theorem worldStore_markDirty (s : VersionLine) (charId : UInt64) :
    (s.markDirty s.worldId charId).worldStore = s.worldStore.markDirty charId := by
  simp only [worldStore, markDirty, WriteStore.markDirty, Function.update_self]

/-- The erase under the code's key is the erase in the world's own store. -/
theorem worldStore_eraseExpectedCharVersion (s : VersionLine) (charId : UInt64) :
    (s.eraseExpectedCharVersion s.worldId charId).worldStore =
      s.worldStore.eraseExpectedCharVersion charId := by
  unfold eraseExpectedCharVersion WriteStore.eraseExpectedCharVersion
  split_ifs
  · rfl
  · simp only [worldStore, WriteStore.mk.injEq, true_and]
    funext charId'
    simp only [Table.erase_apply, makeWorldCharKey_inj]

/-- **Refinement**: a pass for a character of the world is one of the batch
flush over the world's own store. -/
theorem worldStore_afterPass (s : VersionLine) (charId : UInt64) {answer : PassAnswer}
    (hread : answer.readThrows = false) :
    (s.afterPass charId (s.passResult charId answer)).worldStore =
      s.worldStore.batchPass charId (!answer.saveThrows) := by
  have hcache : s.worldStore.cache charId = s.cache s.worldId charId := rfl
  have hexpected : s.worldStore.tryGetExpectedCharVersion charId =
      s.tryGetExpectedCharVersion s.worldId charId := rfl
  simp only [passResult, WriteStore.batchPass, hread, hcache, hexpected, Bool.false_eq_true,
    if_false]
  cases s.cache s.worldId charId with
  | none => rfl
  | some blob =>
      dsimp only
      split_ifs with hconflict hsave hsave'
      · exact s.worldStore_markDirty charId
      · simp [hsave] at hsave'
      · exact s.worldStore_markDirty charId
      · exact worldStore_eraseExpectedCharVersion { s with saved := s.saved.set charId blob } charId
      · simp_all

/-! ## Runs -/

/-- A world without characters, over any database. -/
def start (worldId : UInt32) (saved : Table UInt64 Blob) : VersionLine := { worldId, saved }

/-- **Version checks**: in a run with the keys apart every pass checks the
version recorded for its own character, and in every state the map has the
recorded versions of all characters. -/
theorem versionChecks_run (worldId : UInt32) (saved : Table UInt64 Blob) {es : List Event}
    (hrun : Along (recording step observed) KeysApart (start worldId saved, []) es) :
    Along (recording step observed) ChecksOwnVersion (start worldId saved, []) es ∧
      Always (recording step observed) VersionsKept (start worldId saved, []) es := by
  have hstart : VersionsFold (start worldId saved, []) := ⟨Folds.empty _, fun _ => rfl⟩
  have hkeep : ∀ sh e, VersionsFold sh → KeysApart sh e →
      VersionsFold (recording step observed sh e) := fun _ _ h hok => h.step hok
  exact ⟨along_of_along hstart hkeep (fun _ _ h hok => h.checksOwnVersion hok) hrun,
    (always_of_along hstart hkeep hrun).imp fun _ h => h.versionsKept⟩

/-- The state of a character with a version. -/
def blobOfVersion (charId : UInt64) (version : UInt32) : Blob := serializeDemo { charId, version }

/-- Character 7 of world 1 and of world 0; the second upsert of world 1 fails,
and the flush finds the older blob. -/
def twoWorlds : List Event :=
  [.cacheCharacterState 1 7 (blobOfVersion 7 5) .marked,
    .cacheCharacterState 0 7 (blobOfVersion 7 6) .marked,
    .cacheCharacterState 1 7 (blobOfVersion 7 8) .throws,
    .flushDirtyChars ⟨1, 0, 200⟩ [7], .pass 0 {}]

theorem versionChecks_run_twoWorlds :
    Along (recording step observed) ChecksOwnVersion (start 1 Table.empty, []) twoWorlds ∧
      Always (recording step observed) VersionsKept (start 1 Table.empty, []) twoWorlds :=
  versionChecks_run 1 Table.empty (by decide)

/-- Character 7 of world 256, and of world 0 under the same key. -/
def foldedWorlds : List Event :=
  [.cacheCharacterState 256 7 (blobOfVersion 7 5) .marked,
    .cacheCharacterState 0 7 (blobOfVersion 7 6) .marked,
    .flushDirtyChars ⟨256, 0, 200⟩ [7]]

/-- The flush of world 256 expects the version that was recorded for world 0,
and refuses a blob whose version is the recorded one. -/
theorem refused_for_other_world :
    ¬∀ worldId saved es,
      Along (recording step observed) ChecksOwnVersion (start worldId saved, []) es := by
  intro hall
  have hsteps := hall 256 Table.empty (foldedWorlds ++ [.pass 0 {}])
  rw [along_append] at hsteps
  have hpass := hsteps.2.1 0 {} 7 [] (blobOfVersion 7 5) rfl (by decide) rfl (by decide)
  have hrefused : (run (recording step observed) (start 256 Table.empty, [])
      foldedWorlds).1.passResult 7 {} = .conflict := by decide
  exact absurd (hpass.mp hrefused) (by decide)

end VersionLine

end GameServer
