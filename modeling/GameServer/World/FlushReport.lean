import GameServer.World.BatchFlush

/-!
# GameServer.World.FlushReport

The report that a `flush_dirty_chars` job posts: how many characters it took,
and how many of these it saved, could not save, and found in conflict.

A character that was taken and has no cached blob is passed over without
being counted.

* `flushCase` — the outcome for a character;
* `tallied_flushLoop` — what the loop counts and marks, by the outcomes;
* `ReportExact` — the report accounts for every character taken;
* `reportExact_iff` — when it does.
-/

namespace GameServer

/-- The outcome of the loop for a character. -/
inductive FlushCase where
  | missing
  | conflict
  | failed
  | saved
deriving DecidableEq, Repr

/-- The character is marked again. -/
def FlushCase.Remarks (k : FlushCase) : Prop := k = .failed ∨ k = .conflict

instance (k : FlushCase) : Decidable k.Remarks := inferInstanceAs (Decidable (_ ∨ _))

/-- The outcome for a character, as the store has its blob and the version
that is expected. -/
def WriteStore.flushCase (st : WriteStore) (answers : FlushAnswers) (charId : UInt64) :
    FlushCase :=
  match st.cache charId with
  | none => .missing
  | some blob =>
      if versionConflict (st.tryGetExpectedCharVersion charId) (actualVersion charId blob) then
        .conflict
      else if answers.saveThrows charId then .failed
      else .saved

/-- The loop over `ids` counts and marks them by their outcomes. -/
structure Tallied (outcome : UInt64 → FlushCase) (ids : List UInt64) (p q : FlushProgress) :
    Prop where
  saved : q.savedIds.length = p.savedIds.length + ids.countP fun c => outcome c = .saved
  failed : q.failed = p.failed + ids.countP fun c => outcome c = .failed
  conflicts : q.conflicts = p.conflicts + ids.countP fun c => outcome c = .conflict
  dirty : q.store.dirty = p.store.dirty ∪ (ids.filter fun c => (outcome c).Remarks).toFinset
  result : q.result = .success ↔ p.result = .success ∧ ∀ c ∈ ids, ¬(outcome c).Remarks

/-! ## The loop -/

/-- Erasing one version leaves the others. -/
theorem tryGetExpectedCharVersion_erase_of_ne (st : WriteStore) {c c' : UInt64} (h : c' ≠ c) :
    (st.eraseExpectedCharVersion c).tryGetExpectedCharVersion c' =
      st.tryGetExpectedCharVersion c' := by
  unfold WriteStore.eraseExpectedCharVersion WriteStore.tryGetExpectedCharVersion
  split_ifs
  · rfl
  · rfl
  · dsimp only
    rw [Table.erase_apply, if_neg h]

section

variable {answers : FlushAnswers}

/-- A save changes nothing that the outcome of another character depends
on. -/
theorem flushCase_savedBlob_of_ne (p : FlushProgress) {c c' : UInt64} (blob : Blob)
    (h : c' ≠ c) :
    (p.savedBlob c blob).store.flushCase answers c' = p.store.flushCase answers c' := by
  simp only [WriteStore.flushCase, FlushProgress.savedBlob,
    WriteStore.eraseExpectedCharVersion_cache, tryGetExpectedCharVersion_erase_of_ne _ h]
  rfl

/-- One pass is counted under the outcome for its character. -/
theorem exists_talliedPass {c : UInt64} (rest : List UInt64) (p : FlushProgress)
    (hread : answers.readThrows c = false) :
    ∃ p', Tallied (p.store.flushCase answers) [c] p p' ∧
      (∀ c' ≠ c, p'.store.flushCase answers c' = p.store.flushCase answers c') ∧
      flushLoop answers (c :: rest) p = flushLoop answers rest p' := by
  cases hblob : p.store.cache c with
  | none =>
      have hcase : p.store.flushCase answers c = .missing := by simp [WriteStore.flushCase, hblob]
      refine ⟨p, ?_, fun _ _ => rfl, by simp [flushLoop, hread, hblob]⟩
      constructor <;> simp [hcase, FlushCase.Remarks]
  | some blob =>
      by_cases hconflict : versionConflict (p.store.tryGetExpectedCharVersion c)
          (actualVersion c blob) = true
      · have hcase : p.store.flushCase answers c = .conflict := by
          simp [WriteStore.flushCase, hblob, hconflict]
        refine ⟨p.conflicted c, ?_, fun _ _ => rfl, by simp [flushLoop, hread, hblob, hconflict]⟩
        constructor <;>
          simp [hcase, FlushCase.Remarks, FlushProgress.conflicted, WriteStore.markDirty]
      · by_cases hsave : answers.saveThrows c = true
        · have hcase : p.store.flushCase answers c = .failed := by
            simp [WriteStore.flushCase, hblob, hconflict, hsave]
          refine ⟨p.saveFailed c, ?_, fun _ _ => rfl,
            by simp [flushLoop, hread, hblob, hconflict, hsave]⟩
          constructor <;>
            simp [hcase, FlushCase.Remarks, FlushProgress.saveFailed, WriteStore.markDirty]
        · have hcase : p.store.flushCase answers c = .saved := by
            simp [WriteStore.flushCase, hblob, hconflict, hsave]
          refine ⟨p.savedBlob c blob, ?_, fun c' hne => flushCase_savedBlob_of_ne p blob hne,
            by simp [flushLoop, hread, hblob, hconflict, hsave]⟩
          constructor <;>
            simp [hcase, FlushCase.Remarks, FlushProgress.savedBlob, WriteStore.saveCharacterBlob]

theorem Tallied.nil (outcome : UInt64 → FlushCase) (p : FlushProgress) :
    Tallied outcome [] p p := by
  constructor <;> simp

/-- The counts add up, whatever the outcomes are later. -/
theorem Tallied.cons {outcome outcome' : UInt64 → FlushCase} {c : UInt64} {ids : List UInt64}
    {p p' q : FlushProgress} (h : Tallied outcome [c] p p') (h' : Tallied outcome' ids p' q)
    (heq : ∀ c' ∈ ids, outcome' c' = outcome c') : Tallied outcome (c :: ids) p q := by
  have hcount : ∀ k : FlushCase, ids.countP (fun c => outcome' c = k) =
      ids.countP fun c => outcome c = k := by
    intro k
    refine List.countP_congr fun c' hc' => ?_
    rw [heq c' hc']
  have hfilter : ids.filter (fun c => (outcome' c).Remarks) =
      ids.filter fun c => (outcome c).Remarks := by
    refine List.filter_congr fun c' hc' => ?_
    rw [heq c' hc']
  have hsplit : ∀ k : FlushCase, (c :: ids).countP (fun c => outcome c = k) =
      [c].countP (fun c => outcome c = k) + ids.countP fun c => outcome c = k := by
    intro k
    rw [← List.countP_append, List.singleton_append]
  constructor
  · rw [h'.saved, h.saved, hcount, hsplit, Nat.add_assoc]
  · rw [h'.failed, h.failed, hcount, hsplit, Nat.add_assoc]
  · rw [h'.conflicts, h.conflicts, hcount, hsplit, Nat.add_assoc]
  · rw [h'.dirty, h.dirty, hfilter, Finset.union_assoc, ← List.toFinset_append,
      ← List.filter_append, List.singleton_append]
  · have hrest : (∀ c' ∈ ids, ¬(outcome' c').Remarks) ↔ ∀ c' ∈ ids, ¬(outcome c').Remarks :=
      forall₂_congr fun c' hc' => by rw [heq c' hc']
    rw [h'.result, h.result, hrest, List.forall_mem_singleton, List.forall_mem_cons, and_assoc]

/-- A loop in which no read throws counts and marks every character by the
outcome that the store has for it at the start. -/
theorem tallied_flushLoop {ids : List UInt64} (hnodup : ids.Nodup)
    (hread : ∀ c ∈ ids, answers.readThrows c = false) (p : FlushProgress) :
    Tallied (p.store.flushCase answers) ids p (flushLoop answers ids p).1 ∧
      (flushLoop answers ids p).2 = false := by
  induction ids generalizing p with
  | nil => exact ⟨Tallied.nil _ p, rfl⟩
  | cons c rest ih =>
      obtain ⟨hc, hrest⟩ := List.nodup_cons.mp hnodup
      obtain ⟨p', hpass, hother, hloop⟩ := exists_talliedPass rest p (hread c List.mem_cons_self)
      obtain ⟨htail, hflag⟩ := ih hrest (fun c' hc' => hread c' (List.mem_cons_of_mem c hc')) p'
      rw [hloop]
      refine ⟨hpass.cons htail fun c' hc' => hother c' fun heq => hc (heq ▸ hc'), hflag⟩

/-- A read that throws ends the loop. -/
theorem flushLoop_throws {ids : List UInt64} {c : UInt64} (hc : c ∈ ids)
    (hthrows : answers.readThrows c = true) (p : FlushProgress) :
    (flushLoop answers ids p).2 = true := by
  induction ids generalizing p with
  | nil => cases hc
  | cons c' rest ih =>
      by_cases hread : answers.readThrows c' = true
      · simp [flushLoop, hread]
      · obtain ⟨p', -, -, hloop⟩ := exists_talliedPass rest p (by simpa using hread)
        rw [hloop]
        refine ih ((List.mem_cons.mp hc).resolve_left fun heq => hread ?_) p'
        rwa [← heq]

end

/-- Every character has one of the four outcomes. -/
theorem length_eq_sum_countP (outcome : UInt64 → FlushCase) (ids : List UInt64) :
    ids.length = (ids.countP fun c => outcome c = .missing) +
      ((ids.countP fun c => outcome c = .saved) + (ids.countP fun c => outcome c = .failed) +
        ids.countP fun c => outcome c = .conflict) := by
  induction ids with
  | nil => rfl
  | cons c ids ih =>
      simp only [List.length_cons, List.countP_cons, ih]
      cases outcome c <;> simp <;> omega

/-! ## The report -/

namespace FlushWorker

variable (w : FlushWorker) (answers : FlushAnswers)

/-- The posted report accounts for the characters taken: the counts add up,
exactly those counted as failed or in conflict are marked again, and the
result is a success if there are none of these. -/
def ReportExact (out : FlushOutcome) : Prop :=
  ∀ r, out.posted = some r →
    r.pulled = r.saved + r.failed + r.conflicts ∧
    ((r.failed = out.taken.countP fun c => w.store.flushCase answers c = .failed) ∧
      (r.conflicts = out.taken.countP fun c => w.store.flushCase answers c = .conflict) ∧
      out.store.dirty = (w.store.dirty \ out.taken.toFinset) ∪
        (out.taken.filter fun c => (w.store.flushCase answers c).Remarks).toFinset) ∧
    (r.result = .success ↔ r.failed = 0 ∧ r.conflicts = 0)

/-- The job is for the world of the worker, and there is a database. -/
def Reaches (payload : FlushDirtyChars) : Prop :=
  payload.worldId = w.worldId ∧ w.hasPool = true

variable {w} {order : List UInt64} {dataSize : Nat} {payload : FlushDirtyChars}

/-- A job for another world, or without a database, is answered with an error. -/
theorem posted_of_not_reaches (order : List UInt64) (dataSize : Nat) (h : ¬w.Reaches payload) :
    (w.flushDirtyChars answers order dataSize payload).posted =
      if w.hasRedis = true ∧ payloadSize ≤ dataSize then
        some { worldCode := payload.worldId, shardId := payload.shardId
               maxBatch := batchSize payload, result := .dbError }
      else none := by
  have hguard : payload.worldId ≠ w.worldId ∨ w.hasPool = false := by
    rw [Reaches, not_and_or, Bool.not_eq_true] at h
    exact h
  unfold flushDirtyChars
  rw [if_pos hguard]
  by_cases hredis : w.hasRedis = true
  · by_cases hsize : payloadSize ≤ dataSize
    · simp [hredis, hsize, Nat.not_lt.mpr hsize]
    · simp [hredis, hsize, Nat.lt_of_not_le hsize]
  · simp [hredis]

/-- The loop of the job, from the store without the marks of the batch. -/
theorem posted_of_serves (order : List UInt64) (h : w.Serves dataSize payload) :
    (w.flushDirtyChars answers order dataSize payload).posted =
      let done := flushLoop answers (w.batch order payload)
        { store := (w.store.takeDirtyBatch order (batchSize payload).toNat).2 }
      if done.2 then none
      else some
        { worldCode := payload.worldId
          shardId := payload.shardId
          maxBatch := batchSize payload
          pulled := (w.batch order payload).length
          saved := done.1.savedIds.length
          failed := done.1.failed
          conflicts := done.1.conflicts
          result := done.1.result } := by
  have hguard : ¬(payload.worldId ≠ w.worldId ∨ w.hasPool = false) := by
    simp [h.world, h.pool]
  simp only [flushDirtyChars, h.redis, Bool.true_eq_false, if_false,
    if_neg (Nat.not_lt.mpr h.size), if_neg hguard, batch]
  exact apply_ite FlushOutcome.posted _ _ _

/-- A job that reports accounts for its batch precisely if every character of
it has a cached blob. -/
theorem reportExact_iff_of_serves {answers : FlushAnswers} (h : w.Serves dataSize payload)
    (hread : ∀ c ∈ w.batch order payload, answers.readThrows c = false) :
    w.ReportExact answers (w.flushDirtyChars answers order dataSize payload) ↔
      ∀ c ∈ w.batch order payload, w.store.cache c ≠ none := by
  obtain ⟨htaken, hstore, -⟩ := flushDirtyChars_of_serves answers order h
  have hposted := posted_of_serves answers order h
  obtain ⟨htally, hflag⟩ := tallied_flushLoop (nodup_batch (w := w)) hread
    { store := (w.store.takeDirtyBatch order (batchSize payload).toNat).2 }
  -- Taking the batch leaves the outcomes as they are.
  have hcase : (w.store.takeDirtyBatch order (batchSize payload).toNat).2.flushCase answers =
      w.store.flushCase answers := rfl
  have hmarks : (w.store.takeDirtyBatch order (batchSize payload).toNat).2.dirty =
      w.store.dirty \ (w.batch order payload).toFinset := rfl
  dsimp only at htally
  rw [hcase] at htally
  dsimp only at hposted
  rw [hflag, if_neg Bool.false_ne_true] at hposted
  have hfailed := htally.failed
  have hconflicts := htally.conflicts
  have hsaved := htally.saved
  have hdirty := htally.dirty
  have hresult := htally.result
  dsimp only at hfailed hconflicts hsaved hdirty hresult
  rw [Nat.zero_add] at hfailed hconflicts
  rw [List.length_nil, Nat.zero_add] at hsaved
  rw [hmarks] at hdirty
  have hsum := length_eq_sum_countP (w.store.flushCase answers) (w.batch order payload)
  have hmissing : ((w.batch order payload).countP
        fun c => w.store.flushCase answers c = .missing) = 0 ↔
      ∀ c ∈ w.batch order payload, w.store.cache c ≠ none := by
    rw [List.countP_eq_zero]
    refine forall₂_congr fun c _ => ?_
    rw [decide_eq_true_eq, not_iff_not, WriteStore.flushCase]
    cases w.store.cache c with
    | none => simp
    | some blob =>
        dsimp only
        split_ifs <;> simp
  rw [← hmissing, ReportExact, hposted]
  constructor
  · intro hexact
    have hpulled := (hexact _ rfl).1
    dsimp only at hpulled
    omega
  · rintro hzero r heq
    cases heq
    dsimp only
    refine ⟨by omega, ⟨?_, ?_, ?_⟩, ?_⟩
    · rw [htaken, hfailed]
    · rw [htaken, hconflicts]
    · rw [htaken, hstore, hdirty]
    · rw [hresult, hfailed, hconflicts, List.countP_eq_zero, List.countP_eq_zero]
      simp only [true_and, decide_eq_true_eq, FlushCase.Remarks, not_or, ← forall₂_and]

/-- **Flush report**: a job accounts for every character that it takes
precisely if, wherever it reports at all, it serves the world it is asked for
and every character it takes has a cached blob. -/
theorem reportExact_iff (w : FlushWorker) (answers : FlushAnswers) (order : List UInt64)
    (dataSize : Nat) (payload : FlushDirtyChars) :
    w.ReportExact answers (w.flushDirtyChars answers order dataSize payload) ↔
      (w.hasRedis = true → payloadSize ≤ dataSize →
        w.Reaches payload ∧
          ((∃ c ∈ w.batch order payload, answers.readThrows c = true) ∨
            ∀ c ∈ w.batch order payload, w.store.cache c ≠ none)) := by
  by_cases hreaches : w.Reaches payload
  · by_cases hstart : w.hasRedis = true ∧ payloadSize ≤ dataSize
    · have hserves : w.Serves dataSize payload :=
        ⟨hstart.1, hstart.2, hreaches.1, hreaches.2⟩
      simp only [hstart.1, hstart.2, hreaches, true_imp_iff, true_and]
      by_cases hthrows : ∃ c ∈ w.batch order payload, answers.readThrows c = true
      · -- A read throws: nothing is posted.
        obtain ⟨c, hc, hread⟩ := hthrows
        refine iff_of_true (fun r hr => ?_) (.inl ⟨c, hc, hread⟩)
        rw [posted_of_serves answers order hserves] at hr
        simp [flushLoop_throws hc hread] at hr
      · simp only [hthrows, false_or]
        refine reportExact_iff_of_serves hserves fun c hc => ?_
        exact Bool.not_eq_true _ ▸ fun hread => hthrows ⟨c, hc, hread⟩
    · refine iff_of_true (fun r hr => ?_) fun hredis hsize => absurd ⟨hredis, hsize⟩ hstart
      unfold flushDirtyChars at hr
      by_cases hredis : w.hasRedis = true
      · have hsize : dataSize < payloadSize := Nat.lt_of_not_le fun hle => hstart ⟨hredis, hle⟩
        simp [hredis, hsize] at hr
      · simp [hredis] at hr
  · have hposted := posted_of_not_reaches answers order dataSize hreaches
    by_cases hstart : w.hasRedis = true ∧ payloadSize ≤ dataSize
    · refine iff_of_false (fun hexact => ?_) fun h => hreaches (h hstart.1 hstart.2).1
      rw [if_pos hstart] at hposted
      exact absurd ((hexact _ hposted).2.2.mpr ⟨rfl, rfl⟩) (by simp)
    · refine iff_of_true (fun r hr => ?_) fun hredis hsize => absurd ⟨hredis, hsize⟩ hstart
      rw [hposted, if_neg hstart] at hr
      cases hr

/-- Character 12 is marked, and its blob is not in the cache any more: two
characters are pulled, one is saved, and none failed. -/
theorem not_reportExact_expiredBlob :
    ¬∀ (w : FlushWorker) (answers : FlushAnswers) (order : List UInt64) (dataSize : Nat)
      (payload : FlushDirtyChars), w.Reaches payload →
        w.ReportExact answers (w.flushDirtyChars answers order dataSize payload) := by
  intro hall
  let store : WriteStore := (WriteStore.upsertCharacter {} 11 [1]).markDirty 12
  have hexact := hall { worldId := 1, store } ⟨fun _ => false, fun _ => false⟩ [11, 12] 12
    ⟨1, 0, 200⟩ ⟨rfl, rfl⟩ _ rfl
  exact absurd hexact.1 (by decide)

end FlushWorker

end GameServer
