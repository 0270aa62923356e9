import GameServer.World.WriteBehind

/-!
# GameServer.World.LostUpdate

Which updates the write-behind cache loses.

The batch flush takes the dirty marks before it reads, so an update that
comes later is marked again.  The single flush removes the mark after it has
saved what it read before: an update in between is lost.

* `Covered` — why an update is not lost, and `covered_step`;
* `Watched` — every character is marked or yet to be read, or nothing is left
  to do for it;
* `marked_or_inBatch_of_clear` — in runs without an upsert in the window of a
  single flush and without a stale save, an update is marked or yet to be read
  except while a batch flush works on it;
* `marked_of_clear` — and at every moment, if moreover a flush reads only what
  is saved, marked again or awaited by another flush.
-/

namespace GameServer

/-! ## Why an update is not lost -/

/-- The flush has not read the blob of the character. -/
def Flush.Pending (f : Flush) (charId : UInt64) : Prop :=
  (f.phase = .unread ∧ f.charId = charId) ∨ charId ∈ f.rest

/-- A batch flush has yet to read the blob, or is about to mark the character
again. -/
def Flush.Owes (f : Flush) (charId : UInt64) : Prop :=
  f.kind = .batch ∧ (f.Pending charId ∨ (f.phase = .marking ∧ f.charId = charId))

instance (f : Flush) (charId : UInt64) : Decidable (f.Pending charId) :=
  inferInstanceAs (Decidable (_ ∨ _))

/-- The character is marked, or a batch flush owes it a look. -/
def Owed (st : WriteStore) (flushes : List Flush) (charId : UInt64) : Prop :=
  charId ∈ st.dirty ∨ ∃ f ∈ flushes, f.Owes charId

/-- What the flushes in progress leave true. -/
structure Covered (st : WriteStore) (flushes : List Flush) : Prop where
  /-- What is not saved is owed, or in the hands of a batch flush. -/
  unsaved : ∀ c b, st.cache c = some b → st.saved c ≠ some b →
    Owed st flushes c ∨ ∃ f ∈ flushes, f.kind = .batch ∧ f.charId = c ∧ f.phase.blob = some b
  cached : ∀ f ∈ flushes, f.phase.blob ≠ none → st.cache f.charId ≠ none
  /-- A flush may save an old blob only while the new one is owed. -/
  stale : ∀ f ∈ flushes, f.phase.blob ≠ none → f.phase.blob ≠ st.cache f.charId →
    Owed st flushes f.charId
  /-- While a single flush is past its read nobody has an old blob. -/
  fresh : ∀ f ∈ flushes, f.kind ≠ .batch → f.phase.pastRead → ∀ g ∈ flushes,
    g.charId = f.charId → g.phase.blob = none ∨ g.phase.blob = st.cache f.charId
  /-- What a single flush is about to unmark is saved. -/
  flushed : ∀ f ∈ flushes, f.kind ≠ .batch → f.phase = .saved →
    st.saved f.charId = st.cache f.charId

section Steps

variable {st st' : WriteStore} {fl : List Flush} {k : Nat} {f : Flush}

/-- A character is marked or looked after by a flush, in the sense of `P`: it
stays so if the flush that goes on hands it over. -/
theorem marked_or_exists_replaceAt {P : Flush → Prop} {o : Option Flush} {c : UInt64}
    (hk : fl[k]? = some f) (h : c ∈ st.dirty ∨ ∃ g ∈ fl, P g)
    (hdirty : c ∈ st.dirty → c ∈ st'.dirty)
    (hf : P f → c ∈ st'.dirty ∨ ∃ g, o = some g ∧ P g) :
    c ∈ st'.dirty ∨ ∃ g ∈ replaceAt fl k o, P g := by
  rcases h with h | ⟨g, hg, hP⟩
  · exact .inl (hdirty h)
  · rcases mem_replaceAt_of_mem hk o hg with rfl | hkeep
    · rcases hf hP with h | ⟨g', rfl, hP'⟩
      · exact .inl h
      · exact .inr ⟨g', mem_replaceAt_self hk, hP'⟩
    · exact .inr ⟨g, hkeep, hP⟩

/-- The characters after the one a flush is done with are still to be read. -/
theorem Flush.pending_next {c : UInt64} (h : c ∈ f.rest) :
    ∃ g, f.next = some g ∧ g.kind = f.kind ∧ g.Pending c := by
  cases hrest : f.rest with
  | nil => simp [hrest] at h
  | cons c' rest =>
      rw [hrest] at h
      refine ⟨{ f with charId := c', rest, phase := .unread }, by rw [Flush.next, hrest], rfl, ?_⟩
      cases List.mem_cons.mp h with
      | inl heq => exact .inl ⟨rfl, heq.symm⟩
      | inr htail => exact .inr htail

theorem Flush.phase_next {g : Flush} (h : f.next = some g) : g.phase = .unread := by
  simp only [Flush.next] at h
  split at h
  · cases h
  · cases h
    rfl

/-- A flush that ends or goes on to its next character keeps what is owed to
the others, and to its own if it has marked it or has nothing to do with it
any more. -/
theorem owed_next {c : UInt64} (hk : fl[k]? = some f) (hdirty : c ∈ st.dirty → c ∈ st'.dirty)
    (hself : f.charId = c → f.kind = .batch → f.phase = .saved ∨ c ∈ st'.dirty)
    (h : Owed st fl c) : Owed st' (replaceAt fl k f.next) c := by
  refine marked_or_exists_replaceAt hk h hdirty fun ⟨hkind, howes⟩ => ?_
  rcases howes with (⟨hphase, hc⟩ | hrest) | ⟨hphase, hc⟩
  · exact .inl ((hself hc hkind).resolve_left (by simp [hphase]))
  · obtain ⟨g, hg, hgkind, hpending⟩ := Flush.pending_next hrest
    exact .inr ⟨g, hg, hgkind.trans hkind, .inl hpending⟩
  · exact .inl ((hself hc hkind).resolve_left (by simp [hphase]))

theorem mem_of_mem_replaceAt_next {g : Flush} (h : g ∈ replaceAt fl k f.next) :
    g ∈ fl ∨ g.phase = .unread :=
  (mem_of_mem_replaceAt h).imp_right Flush.phase_next

/-- There is nothing to do for the character: its blob is saved, and nobody
has an old one. -/
def Settled (st : WriteStore) (fl : List Flush) (c : UInt64) : Prop :=
  (∀ b, st.cache c = some b → st.saved c = some b) ∧
    ∀ g ∈ fl, g.charId = c → g.phase.blob = none ∨ g.phase.blob = st.cache c

/-- A flush is done with its character. -/
theorem covered_next (h : Covered st fl) (hk : fl[k]? = some f) (hcache : st'.cache = st.cache)
    (hsaved : st'.saved = st.saved) (hblob : f.phase.blob = none)
    (howed : ∀ c, Owed st fl c → Settled st fl c ∨ Owed st' (replaceAt fl k f.next) c) :
    Covered st' (replaceAt fl k f.next) where
  unsaved c b hc hs := by
    rw [hcache] at hc
    rw [hsaved] at hs
    rcases h.unsaved c b hc hs with hd | ⟨g, hg, hkind, hgc, hgb⟩
    · rcases howed c hd with hsettled | hd'
      · exact absurd (hsettled.1 b hc) hs
      · exact .inl hd'
    · rcases mem_replaceAt_of_mem hk f.next hg with rfl | hkeep
      · simp [hblob] at hgb
      · exact .inr ⟨g, hkeep, hkind, hgc, hgb⟩
  cached g hg hgb := by
    rw [hcache]
    rcases mem_of_mem_replaceAt_next hg with hold | hnew
    · exact h.cached g hold hgb
    · simp [hnew, FlushPhase.blob] at hgb
  stale g hg hgb hne := by
    rw [hcache] at hne
    rcases mem_of_mem_replaceAt_next hg with hold | hnew
    · rcases howed g.charId (h.stale g hold hgb hne) with hsettled | hd'
      · exact absurd (hsettled.2 g hold rfl) (by simp [hgb, hne])
      · exact hd'
    · simp [hnew, FlushPhase.blob] at hgb
  fresh g hg hkind hpast g' hg' hc := by
    rw [hcache]
    rcases mem_of_mem_replaceAt_next hg with hold | hnew
    · rcases mem_of_mem_replaceAt_next hg' with hold' | hnew'
      · exact h.fresh g hold hkind hpast g' hold' hc
      · exact .inl (by simp [hnew', FlushPhase.blob])
    · simp [hnew, FlushPhase.pastRead] at hpast
  flushed g hg hkind hphase := by
    rw [hcache, hsaved]
    rcases mem_of_mem_replaceAt_next hg with hold | hnew
    · exact h.flushed g hold hkind hphase
    · simp [hnew] at hphase

/-- A flush that goes on owes what it owed. -/
theorem owed_phase {p : FlushPhase} {c : UInt64} (hk : fl[k]? = some f)
    (hdirty : st'.dirty = st.dirty) (hphase : f.phase = .unread → f.kind = .batch → f.charId ≠ c)
    (hmarking : f.phase ≠ .marking) (h : Owed st fl c) :
    Owed st' (replaceAt fl k (some { f with phase := p })) c := by
  refine marked_or_exists_replaceAt hk h (fun hc => hdirty ▸ hc) fun ⟨hkind, howes⟩ => ?_
  rcases howes with (⟨hunread, hc⟩ | hrest) | ⟨hmark, -⟩
  · exact absurd hc (hphase hunread hkind)
  · exact .inr ⟨_, rfl, hkind, .inl (.inr hrest)⟩
  · exact absurd hmark hmarking

/-- A flush reads the blob. -/
theorem covered_read {p : FlushPhase} {b : Blob} (h : Covered st fl) (hk : fl[k]? = some f)
    (hphase : f.phase = .unread) (hb : st.cache f.charId = some b) (hp : p.blob = some b)
    (hclear : ∀ g ∈ fl, g.charId = f.charId →
      g.phase.blob = none ∨ g.phase.blob = st.cache f.charId) :
    Covered st (replaceAt fl k (some { f with phase := p })) where
  unsaved c b' hc hs := by
    rcases h.unsaved c b' hc hs with hd | ⟨g, hg, hkind, hgc, hgb⟩
    · by_cases hself : f.kind = .batch ∧ f.charId = c
      · obtain ⟨hkind, rfl⟩ := hself
        rw [hb] at hc
        exact .inr ⟨_, mem_replaceAt_self hk, hkind, rfl, hp.trans hc⟩
      · refine .inl (owed_phase hk rfl (fun _ hkind hc => hself ⟨hkind, hc⟩) ?_ hd)
        simp [hphase]
    · rcases mem_replaceAt_of_mem hk _ hg with rfl | hkeep
      · simp [hphase, FlushPhase.blob] at hgb
      · exact .inr ⟨g, hkeep, hkind, hgc, hgb⟩
  cached g hg hgb := by
    rcases mem_of_mem_replaceAt hg with hold | hnew
    · exact h.cached g hold hgb
    · cases hnew
      simp [hb]
  stale g hg hgb hne := by
    rcases mem_of_mem_replaceAt hg with hold | hnew
    · refine owed_phase hk rfl (fun _ _ hc => ?_) (by simp [hphase]) (h.stale g hold hgb hne)
      have hfresh := hclear g hold hc.symm
      rw [hc] at hfresh
      exact hfresh.elim hgb hne
    · cases hnew
      exact absurd (hp.trans hb.symm) hne
  fresh g hg hkind hpast g' hg' hc := by
    rcases mem_of_mem_replaceAt hg' with hold' | hnew'
    · rcases mem_of_mem_replaceAt hg with hold | hnew
      · exact h.fresh g hold hkind hpast g' hold' hc
      · cases hnew
        exact hclear g' hold' hc
    · cases hnew'
      rw [← hc]
      exact .inr (hp.trans hb.symm)
  flushed g hg hkind hsaved := by
    rcases mem_of_mem_replaceAt hg with hold | hnew
    · exact h.flushed g hold hkind hsaved
    · cases hnew
      simp only at hsaved
      simp [hsaved, FlushPhase.blob] at hp

/-- A flush that has a blob has read it. -/
theorem FlushPhase.pastRead_of_blob {p : FlushPhase} {b : Blob} (h : p.blob = some b) :
    p.pastRead ∧ p ≠ .unread ∧ p ≠ .marking := by
  cases p with
  | unread => cases h
  | holding blob => exact ⟨rfl, nofun, nofun⟩
  | saving blob => exact ⟨rfl, nofun, nofun⟩
  | saved => cases h
  | marking => cases h

/-- A flush that keeps its blob or drops it brings no blob that nobody had
for the character before. -/
theorem exists_blob_of_mem_phase {p : FlushPhase} {g : Flush} (hk : fl[k]? = some f)
    (hp : p.blob = none ∨ p.blob = f.phase.blob)
    (hg : g ∈ replaceAt fl k (some { f with phase := p })) (hgb : g.phase.blob ≠ none) :
    ∃ g₀ ∈ fl, g₀.charId = g.charId ∧ g₀.phase.blob = g.phase.blob := by
  rcases mem_of_mem_replaceAt hg with hold | hnew
  · exact ⟨g, hold, rfl, rfl⟩
  · cases hnew
    exact ⟨f, List.mem_of_getElem? hk, rfl, (hp.resolve_left hgb).symm⟩

/-- A flush past its read changes its phase: the single flushes past their
read are for the same characters as before, and nobody has got a blob. -/
theorem Covered.fresh_phase {p : FlushPhase} {g g' : Flush} (h : Covered st fl)
    (hk : fl[k]? = some f) (hpast : f.phase.pastRead) (hp : p.blob = none ∨ p.blob = f.phase.blob)
    (hg : g ∈ replaceAt fl k (some { f with phase := p })) (hkind : g.kind ≠ .batch)
    (hgpast : g.phase.pastRead) (hg' : g' ∈ replaceAt fl k (some { f with phase := p }))
    (hc : g'.charId = g.charId) :
    g'.phase.blob = none ∨ g'.phase.blob = st.cache g.charId := by
  have hfresh : ∀ g₀ ∈ fl, g₀.charId = g.charId →
      g₀.phase.blob = none ∨ g₀.phase.blob = st.cache g.charId := by
    rcases mem_of_mem_replaceAt hg with hold | hnew
    · exact h.fresh g hold hkind hgpast
    · cases hnew
      exact h.fresh f (List.mem_of_getElem? hk) hkind hpast
  by_cases hgb : g'.phase.blob = none
  · exact .inl hgb
  · obtain ⟨g₀, hg₀, hg₀c, hg₀b⟩ := exists_blob_of_mem_phase hk hp hg' hgb
    exact hg₀b ▸ hfresh g₀ hg₀ (hg₀c.trans hc)

/-- A flush that has the blob goes on to save it, or gives up on it and is
about to mark the character. -/
theorem covered_hold {p : FlushPhase} {b : Blob} (h : Covered st fl) (hk : fl[k]? = some f)
    (hb : f.phase.blob = some b) (hp : p = .saving b ∨ p = .marking) :
    Covered st (replaceAt fl k (some { f with phase := p })) := by
  obtain ⟨hpast, hunread, hmarking⟩ := FlushPhase.pastRead_of_blob hb
  have howed : ∀ {c}, Owed st fl c → Owed st (replaceAt fl k (some { f with phase := p })) c :=
    owed_phase hk rfl (fun hc => absurd hc hunread) hmarking
  have hblob : p.blob = none ∨ p.blob = f.phase.blob := by
    rcases hp with rfl | rfl
    · exact .inr hb.symm
    · exact .inl rfl
  refine ⟨fun c b' hc hs => ?_, fun g hg hgb => ?_, fun g hg hgb hne => ?_,
    fun g hg hkind hgpast g' hg' hc => ?_, fun g hg hkind hsaved => ?_⟩
  · rcases h.unsaved c b' hc hs with hd | ⟨g, hg, hkind, hgc, hgb⟩
    · exact .inl (howed hd)
    · rcases mem_replaceAt_of_mem hk (some { f with phase := p }) hg with rfl | hkeep
      · rcases hp with rfl | rfl
        · exact .inr ⟨_, mem_replaceAt_self hk, hkind, hgc, hb.symm.trans hgb⟩
        · exact .inl (.inr ⟨_, mem_replaceAt_self hk, hkind, .inr ⟨rfl, hgc⟩⟩)
      · exact .inr ⟨g, hkeep, hkind, hgc, hgb⟩
  · obtain ⟨g₀, hg₀, hgc, hg₀b⟩ := exists_blob_of_mem_phase hk hblob hg hgb
    exact hgc ▸ h.cached g₀ hg₀ (hg₀b ▸ hgb)
  · obtain ⟨g₀, hg₀, hgc, hg₀b⟩ := exists_blob_of_mem_phase hk hblob hg hgb
    exact hgc ▸ howed (h.stale g₀ hg₀ (hg₀b ▸ hgb) (by rw [hg₀b, hgc]; exact hne))
  · exact h.fresh_phase hk hpast hblob hg hkind hgpast hg' hc
  · rcases mem_of_mem_replaceAt hg with hold | hnew
    · exact h.flushed g hold hkind hsaved
    · cases hnew
      rcases hp with rfl | rfl <;> cases hsaved

/-- A flush saves its blob. -/
theorem covered_save {b : Blob} (h : Covered st fl) (hk : fl[k]? = some f)
    (hb : f.phase = .saving b) :
    Covered (st.saveCharacterBlob f.charId b)
      (replaceAt fl k (some { f with phase := .saved })) := by
  have hf : f ∈ fl := List.mem_of_getElem? hk
  have hblob : f.phase.blob = some b := by rw [hb]; rfl
  have howed : ∀ {c}, Owed st fl c →
      Owed (st.saveCharacterBlob f.charId b) (replaceAt fl k (some { f with phase := .saved })) c :=
    owed_phase hk rfl (by simp [hb]) (by simp [hb])
  -- A blob other than the cached one may be saved only while the cached one is owed.
  have hself : ∀ b', st.cache f.charId = some b' → b ≠ b' → Owed st fl f.charId := by
    intro b' hc hne
    refine h.stale f hf (by simp [hblob]) ?_
    rw [hblob, hc]
    simpa using hne
  refine ⟨fun c b' hc hs => ?_, fun g hg hgb => ?_, fun g hg hgb hne => ?_,
    fun g hg hkind hgpast g' hg' hc => ?_, fun g hg hkind hsaved => ?_⟩
  · simp only [WriteStore.saveCharacterBlob, Table.set_apply] at hc hs
    split_ifs at hs with heq
    · subst heq
      exact .inl (howed (hself b' hc (by simpa using hs)))
    · rcases h.unsaved c b' hc hs with hd | ⟨g, hg, hkind, hgc, hgb⟩
      · exact .inl (howed hd)
      · rcases mem_replaceAt_of_mem hk (some { f with phase := .saved }) hg with rfl | hkeep
        · exact absurd hgc.symm heq
        · exact .inr ⟨g, hkeep, hkind, hgc, hgb⟩
  · obtain ⟨g₀, hg₀, hgc, hg₀b⟩ := exists_blob_of_mem_phase hk (.inl rfl) hg hgb
    exact hgc ▸ h.cached g₀ hg₀ (hg₀b ▸ hgb)
  · obtain ⟨g₀, hg₀, hgc, hg₀b⟩ := exists_blob_of_mem_phase hk (.inl rfl) hg hgb
    exact hgc ▸ howed (h.stale g₀ hg₀ (hg₀b ▸ hgb) (by rw [hg₀b, hgc]; exact hne))
  · exact h.fresh_phase hk (by rw [hb]; rfl) (.inl rfl) hg hkind hgpast hg' hc
  · -- Whoever is about to unmark the character, what was saved is what is cached.
    simp only [WriteStore.saveCharacterBlob, Table.set_apply]
    rcases mem_of_mem_replaceAt hg with hold | hnew
    · split_ifs with heq
      · have hfresh := h.fresh g hold hkind (by simp [hsaved, FlushPhase.pastRead]) f hf heq.symm
        rw [hblob] at hfresh
        exact hfresh.resolve_left (Option.some_ne_none b)
      · exact h.flushed g hold hkind hsaved
    · cases hnew
      have hfresh := h.fresh f hf hkind (by simp [hb, FlushPhase.pastRead]) f hf rfl
      rw [hblob] at hfresh
      simpa using hfresh.resolve_left (Option.some_ne_none b)

/-- The next step of a flush.  A read must find no flush with an older blob,
and a single flush must have something to save. -/
theorem FlushStep.covered {o : Option Flush} (hstep : FlushStep st f st' o) (h : Covered st fl)
    (hk : fl[k]? = some f)
    (hread : f.phase = .unread → ∀ g ∈ fl, g.charId = f.charId →
      g.phase.blob = none ∨ g.phase.blob = st.cache f.charId)
    (hsave : f.kind ≠ .batch → f.phase.blob ≠ none → f.charId ≠ 0 ∧ f.phase.blob ≠ some []) :
    Covered st' (replaceAt fl k o) := by
  have hf : f ∈ fl := List.mem_of_getElem? hk
  cases hstep with
  | skip hphase hcache =>
      refine covered_next h hk rfl rfl (by rw [hphase]; rfl) fun c hd => ?_
      by_cases hc : f.charId = c
      · subst hc
        refine .inl ⟨fun b hb => by simp [hcache] at hb, fun g hg hgc => .inl ?_⟩
        by_contra hgb
        exact h.cached g hg hgb (hgc ▸ hcache)
      · exact .inr (owed_next hk id (fun heq => absurd heq hc) hd)
  | conflict hphase hkind =>
      refine covered_next h hk rfl rfl (by rw [hphase]; rfl) fun c hd => .inr ?_
      exact owed_next hk id (fun _ hbatch => absurd hbatch hkind) hd
  | read hphase hcache hp => exact covered_read h hk hphase hcache hp (hread hphase)
  | hold hphase hp => exact covered_hold h hk hphase hp
  | save hphase => exact covered_save h hk hphase
  | @skipSave b hphase hkind hnothing =>
      obtain ⟨hc, hb⟩ := hsave hkind (by simp [hphase, FlushPhase.blob])
      have hb' : b ≠ [] := by simpa [hphase, FlushPhase.blob] using hb
      exact absurd hnothing (not_or.mpr ⟨hc, hb'⟩)
  | unmark hphase hkind =>
      refine covered_next h hk rfl rfl (by rw [hphase]; rfl) fun c hd => ?_
      by_cases hc : f.charId = c
      · subst hc
        refine .inl ⟨fun b hb => (h.flushed f hf hkind hphase).trans hb, fun g hg hgc => ?_⟩
        exact h.fresh f hf hkind (by rw [hphase]; rfl) g hg hgc
      · refine .inr (owed_next hk (fun hdirty => ?_) (fun heq => absurd heq hc) hd)
        exact Finset.mem_erase.mpr ⟨Ne.symm hc, hdirty⟩
  | done hphase hkind =>
      refine covered_next h hk (st.eraseExpectedCharVersion_cache f.charId)
        (st.eraseExpectedCharVersion_saved f.charId) (by rw [hphase]; rfl) fun c hd => .inr ?_
      refine owed_next hk (fun hdirty => ?_) (fun _ _ => .inl hphase) hd
      rw [WriteStore.eraseExpectedCharVersion_dirty]
      exact hdirty
  | mark hphase =>
      refine covered_next h hk rfl rfl (by rw [hphase]; rfl) fun c hd => .inr ?_
      refine owed_next hk (Finset.mem_insert_of_mem ·) (fun hc _ => .inr ?_) hd
      exact hc ▸ Finset.mem_insert_self _ _

/-- An upsert that changes the blob must find no single flush past its
read. -/
theorem covered_upsert (h : Covered st fl) {c : UInt64} {b : Blob}
    (hclear : st.cache c = some b ∨
      ∀ f ∈ fl, f.kind ≠ .batch → f.charId = c → ¬ f.phase.pastRead) :
    Covered (st.upsertCharacter c b) fl := by
  have howed : ∀ {x}, Owed st fl x ∨ x = c → Owed (st.upsertCharacter c b) fl x := by
    rintro x ((hdirty | howes) | rfl)
    · exact .inl (Finset.mem_insert_of_mem hdirty)
    · exact .inr howes
    · exact .inl (Finset.mem_insert_self _ _)
  have hother : ∀ {x}, x ≠ c → (st.upsertCharacter c b).cache x = st.cache x :=
    fun hx => Table.set_of_ne _ _ hx
  -- The cache does not change for a single flush past its read.
  have hsingle : ∀ f ∈ fl, f.kind ≠ .batch → f.phase.pastRead →
      (st.upsertCharacter c b).cache f.charId = st.cache f.charId := by
    intro f hf hkind hpast
    by_cases hc : f.charId = c
    · rcases hclear with hsame | hnone
      · rw [hc, hsame]
        exact Table.set_self _ _ _
      · exact absurd hpast (hnone f hf hkind hc)
    · exact hother hc
  refine ⟨fun x b' hx hs => ?_, fun f hf hblob => ?_, fun f hf hblob hne => ?_,
    fun f hf hkind hpast g hg hc => ?_, fun f hf hkind hphase => ?_⟩
  · by_cases hxc : x = c
    · exact .inl (howed (.inr hxc))
    · rw [hother hxc] at hx
      exact (h.unsaved x b' hx hs).imp_left fun hd => howed (.inl hd)
  · by_cases hc : f.charId = c
    · rw [hc]
      simp [WriteStore.upsertCharacter]
    · rw [hother hc]
      exact h.cached f hf hblob
  · by_cases hc : f.charId = c
    · exact howed (.inr hc)
    · rw [hother hc] at hne
      exact howed (.inl (h.stale f hf hblob hne))
  · rw [hsingle f hf hkind hpast]
    exact h.fresh f hf hkind hpast g hg hc
  · rw [hsingle f hf hkind (by simp [hphase, FlushPhase.pastRead])]
    exact h.flushed f hf hkind hphase

/-- A flush that has not read anything takes over what it is given. -/
theorem covered_append {g : Flush} (h : Covered st fl) (hcache : st'.cache = st.cache)
    (hsaved : st'.saved = st.saved) (hphase : g.phase = .unread)
    (hdirty : ∀ c ∈ st.dirty, c ∈ st'.dirty ∨ g.Owes c) :
    Covered st' (fl ++ [g]) := by
  have howed : ∀ {c}, Owed st fl c → Owed st' (fl ++ [g]) c := by
    rintro c (hc | ⟨f, hf, howes⟩)
    · rcases hdirty c hc with hc' | howes
      · exact .inl hc'
      · exact .inr ⟨g, by simp, howes⟩
    · exact .inr ⟨f, by simp [hf], howes⟩
  have hmem : ∀ {f}, f ∈ fl ++ [g] → f ∈ fl ∨ f.phase = .unread := by
    intro f hf
    rcases List.mem_append.mp hf with hold | hnew
    · exact .inl hold
    · rw [List.mem_singleton.mp hnew]
      exact .inr hphase
  refine ⟨fun c b hc hs => ?_, fun f hf hblob => ?_, fun f hf hblob hne => ?_,
    fun f hf hkind hpast f' hf' hc => ?_, fun f hf hkind hsaved' => ?_⟩
  · rw [hcache] at hc
    rw [hsaved] at hs
    refine (h.unsaved c b hc hs).imp howed fun ⟨f, hf, hrest⟩ => ⟨f, by simp [hf], hrest⟩
  · rw [hcache]
    rcases hmem hf with hold | hnew
    · exact h.cached f hold hblob
    · simp [hnew, FlushPhase.blob] at hblob
  · rw [hcache] at hne
    rcases hmem hf with hold | hnew
    · exact howed (h.stale f hold hblob hne)
    · simp [hnew, FlushPhase.blob] at hblob
  · rw [hcache]
    rcases hmem hf with hold | hnew
    · rcases hmem hf' with hold' | hnew'
      · exact h.fresh f hold hkind hpast f' hold' hc
      · exact .inl (by simp [hnew', FlushPhase.blob])
    · simp [hnew, FlushPhase.pastRead] at hpast
  · rw [hcache, hsaved]
    rcases hmem hf with hold | hnew
    · exact h.flushed f hold hkind hsaved'
    · simp [hnew] at hsaved'

/-! ## Why an update is marked or yet to be read -/

/-- The character is marked, or a flush has yet to read its blob. -/
def Awaited (st : WriteStore) (flushes : List Flush) (charId : UInt64) : Prop :=
  charId ∈ st.dirty ∨ ∃ f ∈ flushes, f.Pending charId

/-- Every character is awaited, or there is nothing to do for it. -/
def Watched (st : WriteStore) (flushes : List Flush) : Prop :=
  ∀ c, Awaited st flushes c ∨ Settled st flushes c

/-- A flush that is not about to read the character hands it over with the
rest of its batch. -/
theorem Awaited.replaceAt {c : UInt64} {o : Option Flush} (h : Awaited st fl c)
    (hk : fl[k]? = some f) (hdirty : c ∈ st.dirty → c ∈ st'.dirty)
    (hself : f.phase = .unread → f.charId ≠ c)
    (ho : o = f.next ∨ ∃ p, o = some { f with phase := p }) : Awaited st' (replaceAt fl k o) c := by
  refine marked_or_exists_replaceAt hk h hdirty fun hpending => .inr ?_
  have hrest : c ∈ f.rest := hpending.resolve_left fun ⟨hphase, hc⟩ => hself hphase hc
  rcases ho with rfl | ⟨p, rfl⟩
  · obtain ⟨g, hg, -, hgp⟩ := Flush.pending_next hrest
    exact ⟨g, hg, hgp⟩
  · exact ⟨_, rfl, .inr hrest⟩

/-- A character stays settled if its saved blob stays and the flush that goes
on gets no old blob. -/
theorem Settled.replaceAt {c : UInt64} {o : Option Flush} (h : Settled st fl c)
    (hcache : st'.cache = st.cache)
    (hsaved : ∀ b, st.cache c = some b → st.saved c = some b → st'.saved c = some b)
    (ho : ∀ g, o = some g → g.charId = c → g.phase.blob = none ∨ g.phase.blob = st.cache c) :
    Settled st' (replaceAt fl k o) c := by
  refine ⟨fun b hb => ?_, fun g hg hgc => ?_⟩
  · rw [hcache] at hb
    exact hsaved b hb (h.1 b hb)
  · rw [hcache]
    rcases mem_of_mem_replaceAt hg with hold | hnew
    · exact h.2 g hold hgc
    · exact ho g hnew hgc

/-- What a step of a flush does to the other characters. -/
theorem FlushStep.other {o : Option Flush} (hstep : FlushStep st f st' o) {c : UInt64}
    (hc : c ≠ f.charId) :
    (c ∈ st.dirty → c ∈ st'.dirty) ∧ st'.saved c = st.saved c ∧
      (o = f.next ∨ ∃ p, o = some { f with phase := p }) := by
  cases hstep with
  | skip | conflict => exact ⟨id, rfl, .inl rfl⟩
  | read | hold | skipSave => exact ⟨id, rfl, .inr ⟨_, rfl⟩⟩
  | save => exact ⟨id, Table.set_of_ne _ _ hc, .inr ⟨_, rfl⟩⟩
  | unmark => exact ⟨fun h => Finset.mem_erase.mpr ⟨hc, h⟩, rfl, .inl rfl⟩
  | done => exact ⟨fun h => by simpa using h, by simp, .inl rfl⟩
  | mark => exact ⟨Finset.mem_insert_of_mem, rfl, .inl rfl⟩

theorem Flush.blob_next {g : Flush} (h : f.next = some g) : g.phase.blob = none := by
  rw [Flush.phase_next h]
  rfl

/-- A flush that reads a blob or gives up on it is not the last to look after
the character, or leaves it settled. -/
theorem watched_read {o : Option Flush}
    (hclear : ∀ g ∈ fl, g.charId = f.charId →
      g.phase.blob = none ∨ g.phase.blob = st.cache f.charId)
    (hwatched : ∀ b ∈ st.cache f.charId, st.saved f.charId = some b ∨ f.charId ∈ st.dirty ∨
      ∃ g ∈ fl.eraseIdx k, g.Pending f.charId)
    (ho : ∀ g, o = some g → g.charId = f.charId →
      g.phase.blob = none ∨ g.phase.blob = st.cache f.charId) :
    Awaited st (replaceAt fl k o) f.charId ∨ Settled st (replaceAt fl k o) f.charId := by
  by_cases hawaited : f.charId ∈ st.dirty ∨ ∃ g ∈ fl.eraseIdx k, g.Pending f.charId
  · exact .inl (hawaited.imp id fun ⟨g, hg, hgp⟩ => ⟨g, mem_replaceAt_of_mem_eraseIdx o hg, hgp⟩)
  · have hsettled : Settled st fl f.charId :=
      ⟨fun b hb => (hwatched b hb).resolve_right hawaited, hclear⟩
    exact .inr (hsettled.replaceAt rfl (fun _ _ => id) ho)

/-- The next step of a flush, under the conditions of `FlushStep.covered`,
keeps every character watched if a read is not of a blob that nothing else
looks after. -/
theorem FlushStep.watched {o : Option Flush} (hstep : FlushStep st f st' o) (h : Watched st fl)
    (hcovered : Covered st fl) (hk : fl[k]? = some f)
    (hread : f.phase = .unread → ∀ g ∈ fl, g.charId = f.charId →
      g.phase.blob = none ∨ g.phase.blob = st.cache f.charId)
    (hsave : f.kind ≠ .batch → f.phase.blob ≠ none → f.charId ≠ 0 ∧ f.phase.blob ≠ some [])
    (hwatched : f.phase = .unread → ∀ b ∈ st.cache f.charId, st.saved f.charId = some b ∨
      f.charId ∈ st.dirty ∨ ∃ g ∈ fl.eraseIdx k, g.Pending f.charId) :
    Watched st' (replaceAt fl k o) := by
  intro c
  have hf : f ∈ fl := List.mem_of_getElem? hk
  by_cases hc : c = f.charId
  · subst hc
    cases hstep with
    | skip hphase hcache =>
        refine watched_read (hread hphase) (hwatched hphase) fun g hg _ => ?_
        exact .inl (Flush.blob_next hg)
    | conflict hphase hkind =>
        refine watched_read (hread hphase) (hwatched hphase) fun g hg _ => ?_
        exact .inl (Flush.blob_next hg)
    | read hphase hcache hp =>
        refine watched_read (hread hphase) (hwatched hphase) fun g hg _ => ?_
        cases hg
        exact .inr (hp.trans hcache.symm)
    | @hold b p hblob hp =>
        have hunread := (FlushPhase.pastRead_of_blob hblob).2.1
        refine (h f.charId).imp (fun ha => ha.replaceAt hk id (fun hu => absurd hu hunread)
          (.inr ⟨p, rfl⟩)) fun hs => hs.replaceAt rfl (fun _ _ => id) fun g hg _ => ?_
        cases hg
        rcases hp with rfl | rfl
        · have hfresh := hs.2 f hf rfl
          rw [hblob] at hfresh
          exact hfresh
        · exact .inl rfl
    | @save b hphase =>
        refine (h f.charId).imp (fun ha => ha.replaceAt hk id (by simp [hphase])
          (.inr ⟨_, rfl⟩)) fun hs => hs.replaceAt rfl (fun b' hb' _ => ?_) fun g hg _ => ?_
        · -- The blob of a settled character is the cached one.
          have hfresh := (hs.2 f hf rfl).resolve_left (by simp [hphase, FlushPhase.blob])
          rw [hphase, hb'] at hfresh
          exact (Table.set_self _ _ _).trans hfresh
        · cases hg
          exact .inl rfl
    | @skipSave b hphase hkind hnothing =>
        obtain ⟨hc, hb⟩ := hsave hkind (by simp [hphase, FlushPhase.blob])
        have hb' : b ≠ [] := by simpa [hphase, FlushPhase.blob] using hb
        exact absurd hnothing (not_or.mpr ⟨hc, hb'⟩)
    | unmark hphase hkind =>
        have hsettled : Settled st fl f.charId :=
          ⟨fun b hb => (hcovered.flushed f hf hkind hphase).trans hb,
            fun g hg hgc => hcovered.fresh f hf hkind (by rw [hphase]; rfl) g hg hgc⟩
        exact .inr (hsettled.replaceAt rfl (fun _ _ => id) fun g hg _ => .inl (Flush.blob_next hg))
    | done hphase hkind =>
        refine (h f.charId).imp (fun ha => ha.replaceAt hk (fun hd => by simpa using hd)
          (by simp [hphase]) (.inl rfl)) fun hs => hs.replaceAt (by simp) (fun _ _ hb => by simpa
            using hb) fun g hg _ => .inl (Flush.blob_next hg)
    | mark hphase => exact .inl (.inl (Finset.mem_insert_self _ _))
  · obtain ⟨hdirty, hsaved, ho⟩ := hstep.other hc
    refine (h c).imp (fun ha => ha.replaceAt hk hdirty (fun _ heq => hc heq.symm) ho)
      fun hs => hs.replaceAt hstep.cache_eq (fun b _ hb => hsaved.trans hb) fun g hg hgc => ?_
    rcases ho with rfl | ⟨p, rfl⟩
    · exact .inl (Flush.blob_next hg)
    · cases hg
      exact absurd hgc.symm hc

/-- What an upsert changes, it marks. -/
theorem watched_upsert (h : Watched st fl) (c : UInt64) (b : Blob) :
    Watched (st.upsertCharacter c b) fl := by
  intro x
  by_cases hx : x = c
  · exact .inl (.inl (hx ▸ Finset.mem_insert_self _ _))
  · have hcache : (st.upsertCharacter c b).cache x = st.cache x := Table.set_of_ne _ _ hx
    refine (h x).imp (fun ha => ha.imp Finset.mem_insert_of_mem id) fun hs => ?_
    exact ⟨fun b' hb' => hs.1 b' (hcache ▸ hb'), fun g hg hgx => hcache ▸ hs.2 g hg hgx⟩

/-- A flush that has not read anything looks after what it is given. -/
theorem watched_append {g : Flush} (h : Watched st fl) (hcache : st'.cache = st.cache)
    (hsaved : st'.saved = st.saved) (hphase : g.phase = .unread)
    (hdirty : ∀ c ∈ st.dirty, c ∈ st'.dirty ∨ g.Pending c) : Watched st' (fl ++ [g]) := by
  intro c
  refine (h c).imp (fun ha => ?_) fun hs => ⟨fun b hb => ?_, fun f hf hfc => ?_⟩
  · rcases ha with hc | ⟨f, hf, hpending⟩
    · exact (hdirty c hc).imp id fun hg => ⟨g, by simp, hg⟩
    · exact .inr ⟨f, by simp [hf], hpending⟩
  · rw [hcache] at hb
    exact hsaved ▸ hs.1 b hb
  · rw [hcache]
    rcases List.mem_append.mp hf with hold | hnew
    · exact hs.2 f hold hfc
    · rw [List.mem_singleton.mp hnew, hphase]
      exact .inl rfl

end Steps

/-! ## Runs -/

namespace WriteBehind

/-- The step does not reach one of the windows in which an update is lost. -/
def Clear (s : WriteBehind) : Event → Prop
  | .endCache k =>
      -- No upsert of another blob between the read and the unmarking of a single flush.
      ∀ call ∈ s.caching[k]?, s.store.cache call.1 = some call.2 ∨
        ∀ f ∈ s.flushes, f.kind ≠ .batch → f.charId = call.1 → ¬ f.phase.pastRead
  | .advance k _ =>
      -- No read while another flush has yet to save an older blob, and nothing that
      -- `FlushCharacterHotState` leaves out.
      ∀ f ∈ s.flushes[k]?,
        (f.phase = .unread → ∀ g ∈ s.flushes, g.charId = f.charId →
          g.phase.blob = none ∨ g.phase.blob = s.store.cache f.charId) ∧
        (f.kind ≠ .batch → f.phase.blob ≠ none → f.charId ≠ 0 ∧ f.phase.blob ≠ some [])
  | _ => True

instance (s : WriteBehind) (e : Event) : Decidable (s.Clear e) :=
  match e with
  | .beginCache .. | .flushOne .. | .takeBatch .. => isTrue trivial
  | .endCache _ => inferInstanceAs (Decidable (∀ _ ∈ _, _))
  | .advance .. => inferInstanceAs (Decidable (∀ _ ∈ _, _))

/-- The character is marked, or a flush of it has yet to read the blob. -/
def Marked (s : WriteBehind) (charId : UInt64) : Prop := Awaited s.store s.flushes charId

/-- A batch flush has read the blob of the character and is not done with
it. -/
def InBatch (s : WriteBehind) (charId : UInt64) : Prop :=
  ∃ f ∈ s.flushes, f.kind = .batch ∧ f.charId = charId ∧ f.phase ≠ .unread

/-- A batch that was taken owes the characters whose marks it took. -/
theorem covered_takeBatch {s : WriteBehind} (h : Covered s.store s.flushes) (order : List UInt64)
    (maxBatch : Nat) :
    Covered (s.takeBatch order maxBatch).store (s.takeBatch order maxBatch).flushes := by
  simp only [takeBatch, WriteStore.takeDirtyBatch]
  generalize ((order.filter (· ∈ s.store.dirty)).dedup.take
    (if maxBatch = 0 then 200 else maxBatch)) = ids
  cases ids with
  | nil => simpa using h
  | cons charId rest =>
      refine covered_append h rfl rfl rfl fun c hc => ?_
      by_cases hmem : c ∈ charId :: rest
      · refine .inr ⟨rfl, .inl ?_⟩
        cases List.mem_cons.mp hmem with
        | inl heq => exact .inl ⟨rfl, heq.symm⟩
        | inr htail => exact .inr htail
      · exact .inl (by simpa [hc] using hmem)

/-- The step lemma: what is not saved is owed, or in the hands of a batch. -/
theorem covered_step {s : WriteBehind} (e : Event) (h : Covered s.store s.flushes)
    (hclear : s.Clear e) : Covered (s.step e).store (s.step e).flushes := by
  cases e with
  | beginCache charId blob =>
      -- The expected versions are not part of what the flushes leave true.
      have hsame : ∀ {st}, st.cache = s.store.cache → st.dirty = s.store.dirty →
          st.saved = s.store.saved → Covered st s.flushes := by
        intro st hcache hdirty hsaved
        obtain ⟨h₁, h₂, h₃, h₄, h₅⟩ := h
        simp only [Owed, ← hcache, ← hdirty, ← hsaved] at h₁ h₂ h₃ h₄ h₅
        exact ⟨h₁, h₂, h₃, h₄, h₅⟩
      simp only [step, beginCache, WriteStore.updateExpectedCharVersion]
      split
      · exact h
      · split_ifs <;> exact hsame rfl rfl rfl
  | endCache k =>
      simp only [step, endCache, Clear] at hclear ⊢
      cases hk : s.caching[k]? with
      | none => exact h
      | some call =>
          exact covered_upsert h (hclear call hk)
  | flushOne charId expectedVersion =>
      exact covered_append h rfl rfl rfl fun c hc => .inl hc
  | takeBatch order maxBatch => exact covered_takeBatch h order maxBatch
  | advance k ok =>
      simp only [step, advance, Clear] at hclear ⊢
      cases hk : s.flushes[k]? with
      | none => exact h
      | some f =>
          obtain ⟨hread, hsave⟩ := hclear f hk
          exact (flushStep_spec s.store f ok).covered h hk hread hsave

/-- A flush reads a blob, or gives up on it, only if the blob is saved, or the
character is marked again, or another flush has yet to read it. -/
def Watches (s : WriteBehind) : Event → Prop
  | .advance k _ =>
      ∀ f ∈ s.flushes[k]?, f.phase = .unread → ∀ b ∈ s.store.cache f.charId,
        s.store.saved f.charId = some b ∨ f.charId ∈ s.store.dirty ∨
          ∃ g ∈ s.flushes.eraseIdx k, g.Pending f.charId
  | _ => True

instance (s : WriteBehind) (e : Event) : Decidable (s.Watches e) :=
  match e with
  | .beginCache .. | .endCache .. | .flushOne .. | .takeBatch .. => isTrue trivial
  | .advance .. => inferInstanceAs (Decidable (∀ _ ∈ _, _))

/-- A batch that was just taken still awaits its characters. -/
theorem watched_takeBatch {s : WriteBehind} (h : Watched s.store s.flushes) (order : List UInt64)
    (maxBatch : Nat) :
    Watched (s.takeBatch order maxBatch).store (s.takeBatch order maxBatch).flushes := by
  simp only [takeBatch, WriteStore.takeDirtyBatch]
  generalize ((order.filter (· ∈ s.store.dirty)).dedup.take
    (if maxBatch = 0 then 200 else maxBatch)) = ids
  cases ids with
  | nil => simpa using h
  | cons charId rest =>
      refine watched_append h rfl rfl rfl fun c hc => ?_
      by_cases hmem : c ∈ charId :: rest
      · refine .inr ?_
        cases List.mem_cons.mp hmem with
        | inl heq => exact .inl ⟨rfl, heq.symm⟩
        | inr htail => exact .inr htail
      · exact .inl (by simpa [hc] using hmem)

/-- The step lemma: every character is awaited, or settled. -/
theorem watched_step {s : WriteBehind} (e : Event) (h : Watched s.store s.flushes)
    (hcovered : Covered s.store s.flushes) (hclear : s.Clear e) (hwatches : s.Watches e) :
    Watched (s.step e).store (s.step e).flushes := by
  cases e with
  | beginCache charId blob =>
      have hsame : ∀ {st}, st.cache = s.store.cache → st.dirty = s.store.dirty →
          st.saved = s.store.saved → Watched st s.flushes := by
        intro st hcache hdirty hsaved c
        simp only [Awaited, Settled, hcache, hdirty, hsaved]
        exact h c
      simp only [step, beginCache, WriteStore.updateExpectedCharVersion]
      split
      · exact h
      · split_ifs <;> exact hsame rfl rfl rfl
  | endCache k =>
      simp only [step, endCache]
      cases s.caching[k]? with
      | none => exact h
      | some call => exact watched_upsert h call.1 call.2
  | flushOne charId expectedVersion =>
      exact watched_append h rfl rfl rfl fun c hc => .inl hc
  | takeBatch order maxBatch => exact watched_takeBatch h order maxBatch
  | advance k ok =>
      simp only [step, advance, Clear, Watches] at hclear hwatches ⊢
      cases hk : s.flushes[k]? with
      | none => exact h
      | some f =>
          obtain ⟨hread, hsave⟩ := hclear f hk
          exact (flushStep_spec s.store f ok).watched h hcovered hk hread hsave (hwatches f hk)

/-- At the start nothing is cached. -/
theorem covered_start (saved : Table UInt64 Blob) :
    Covered (start saved).store (start saved).flushes where
  unsaved _ _ h := by simp [start] at h
  cached _ hf := by simp [start] at hf
  stale _ hf := by simp [start] at hf
  fresh _ hf := by simp [start] at hf
  flushed _ hf := by simp [start] at hf

/-- What is covered is marked or still to be read, but for the work of a
batch flush. -/
theorem Marked.of_covered {s : WriteBehind} (h : Covered s.store s.flushes) {charId : UInt64}
    {blob : Blob} (hcache : s.store.cache charId = some blob)
    (hsaved : s.store.saved charId ≠ some blob) (hbatch : ¬ s.InBatch charId) :
    s.Marked charId := by
  rcases h.unsaved charId blob hcache hsaved with
    (hdirty | ⟨f, hf, hkind, hpending | ⟨hphase, hc⟩⟩) | ⟨f, hf, hkind, hc, hblob⟩
  · exact .inl hdirty
  · exact .inr ⟨f, hf, hpending⟩
  · exact absurd ⟨f, hf, hkind, hc, by simp [hphase]⟩ hbatch
  · exact absurd ⟨f, hf, hkind, hc, (FlushPhase.pastRead_of_blob hblob).2.1⟩ hbatch

/-- In a run without an upsert in the window of a single flush and without a
read while an older blob is still to be saved, a cached blob that is not the
saved one is marked or has yet to be read, except while a batch flush works
on it. -/
theorem marked_or_inBatch_of_clear (saved : Table UInt64 Blob) {es : List Event}
    (hclear : Along step Clear (start saved) es) :
    Always step (fun s => ∀ charId blob, s.store.cache charId = some blob →
      s.store.saved charId ≠ some blob → ¬ s.InBatch charId → s.Marked charId)
      (start saved) es := by
  have hcovered : Always step (fun s => Covered s.store s.flushes) (start saved) es :=
    always_of_along (covered_start saved) (fun _ e => covered_step e) hclear
  exact hcovered.imp fun _ h _ _ => Marked.of_covered h

theorem watched_start (saved : Table UInt64 Blob) :
    Watched (start saved).store (start saved).flushes :=
  fun c => .inr ⟨fun b hb => by simp [start] at hb, fun g hg => by simp [start] at hg⟩

/-- **No lost update**: in a run without an upsert in the window of a single
flush, without a read while an older blob is still to be saved and without a
read of a blob that is neither saved, marked again nor awaited by another
flush, a cached blob that is not the saved one is marked or has yet to be
read, in every state. -/
theorem marked_of_clear (saved : Table UInt64 Blob) {es : List Event}
    (hclear : Along step (fun s e => s.Clear e ∧ s.Watches e) (start saved) es) :
    Always step (fun s => ∀ charId blob, s.store.cache charId = some blob →
      s.store.saved charId ≠ some blob → s.Marked charId) (start saved) es := by
  have hboth : Always step
      (fun s => Covered s.store s.flushes ∧ Watched s.store s.flushes) (start saved) es :=
    always_of_along ⟨covered_start saved, watched_start saved⟩
      (fun _ e h hok => ⟨covered_step e h.1 hok.1, watched_step e h.2 h.1 hok.1 hok.2⟩) hclear
  refine hboth.imp fun s h charId blob hcache hsaved => ?_
  exact (h.2 charId).resolve_right fun hsettled => hsaved (hsettled.1 blob hcache)

/-- The blob of character 11 with some gold, in some version. -/
def blobOf (gold version : UInt32) : Blob := serializeDemo { charId := 11, gold, version }

/-- An update is flushed singly.  The next is taken by a batch flush, and one
more lands before the batch reads; because of a last one, the batch gives up
on what it read. -/
def steadyUpdates : List Event :=
  [.beginCache 11 (blobOf 5 1), .endCache 0, .flushOne 11 1, .advance 0 true, .advance 0 true,
    .advance 0 true, .beginCache 11 (blobOf 6 2), .endCache 0, .takeBatch [11] 200,
    .beginCache 11 (blobOf 7 3), .endCache 0, .advance 0 true, .beginCache 11 (blobOf 8 4),
    .endCache 0, .advance 0 true, .advance 0 true]

/-- These events meet both conditions, and the last blob is marked while it is not saved. -/
theorem marked_steadyUpdates :
    let s := run step (start Table.empty) steadyUpdates
    s.store.cache 11 = some (blobOf 8 4) ∧ s.store.saved 11 ≠ some (blobOf 8 4) ∧
      s.Marked 11 := by
  have hclear : Along step (fun s e => s.Clear e ∧ s.Watches e) (start Table.empty)
      steadyUpdates := by decide
  exact ⟨by decide, by decide, always_iff_forall_part.mp (marked_of_clear Table.empty hclear)
    steadyUpdates List.prefix_rfl 11 (blobOf 8 4) (by decide) (by decide)⟩

/-- An update lands after a single flush has read the blob and before it
removes the mark. -/
def updateInWindow : List Event :=
  [.beginCache 11 (blobOf 5 1), .endCache 0, .flushOne 11 1, .advance 0 true,
    .beginCache 11 (blobOf 6 2), .endCache 0, .advance 0 true, .advance 0 true]

/-- The update is in the cache only: it is not marked, and nothing is in
progress. -/
theorem not_marked_updateInWindow :
    let s := run step (start Table.empty) updateInWindow
    s.store.cache 11 = some (blobOf 6 2) ∧ s.store.saved 11 = some (blobOf 5 1) ∧
      s.caching = [] ∧ s.flushes = [] ∧ ¬ s.Marked 11 := by
  have hdirty : (run step (start Table.empty) updateInWindow).store.dirty = ∅ := by decide
  have hflushes : (run step (start Table.empty) updateInWindow).flushes = [] := by decide
  refine ⟨by decide, by decide, by decide, hflushes, ?_⟩
  simp [Marked, Awaited, hdirty, hflushes]

/-- A batch flush that has read an update took the mark before: until the blob
is saved, the update is neither marked nor yet to be read. -/
example :
    let es := [.beginCache 11 (blobOf 5 1), .endCache 0, .takeBatch [11] 200, .advance 0 true]
    Along step Clear (start Table.empty) es ∧ ¬ (run step (start Table.empty) es).Marked 11 :=
  ⟨by decide, by unfold Marked Awaited; decide⟩

end WriteBehind

end GameServer
