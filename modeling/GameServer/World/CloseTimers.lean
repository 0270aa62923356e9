import GameServer.Lib.Run
import GameServer.World.Runtime

/-!
# GameServer.World.CloseTimers

The delayed closes with their locks and their timers apart.

`delayed_world_close_mtx_` is held for one lookup at a time.  Between the
critical sections of a call other threads run: a reservation and its arming
are two sections, the `async_wait` starts after the second, a release cancels
the timer after it has erased the entry, and a completion handler closes the
connection after it has let go of the lock.  A thread is what it still has to
do, one section after the other, and an event lets one thread do its next.

Of the timers it is assumed that a cancel turns a wait that has started and
has not expired into an aborted one, and does nothing to any other.

* `runSection` — the critical sections;
* `step` — the calls, the timers and the connections, in any order;
* `delayedClose_run` — one armed timer for each session, completions that
  spare later reservations, and when a released timer still closes.
-/

namespace GameServer

/-- What a completion handler is called with. -/
inductive WaitResult where
  | success
  | aborted
  | failed
deriving DecidableEq, Repr

/-- How far the wait on a timer has come. -/
inductive WaitPhase where
  | unstarted
  | waiting
  | queued (ec : WaitResult)
deriving DecidableEq, Repr

/-- A section of a call. -/
inductive CloseSection where
  /-- `TryBeginDuplicateWorldSessionKickClose_`. -/
  | kickReserve (ctx : DuplicateLoginLogContext) (reason : WorldSessionCloseReason)
  /-- `SendDuplicateWorldSessionKick_`. -/
  | kickSend (ctx : DuplicateLoginLogContext) (reason : WorldSessionCloseReason)
  | kickArm (ctx : DuplicateLoginLogContext) (reason : WorldSessionCloseReason)
  /-- `CloseDuplicateWorldSessionImmediately_`, which then closes. -/
  | kickUpdate (ctx : DuplicateLoginLogContext)
  | kickClose (sid serial : UInt32)
  /-- What `HandleWorldSessionClosed` dispatches. -/
  | closedReserve (sid serial : UInt32) (closeCharId : UInt64)
      (closeReason armReason : WorldSessionCloseReason)
  | closedArm (sid serial : UInt32) (closeCharId : UInt64) (reason : WorldSessionCloseReason)
  /-- `ReleaseDelayedWorldCloseReservation_`, `CancelDelayedWorldCloseTimer_`. -/
  | release (sid serial : UInt32)
  /-- `CancelDelayedWorldCloseTimers_`. -/
  | releaseAll
  /-- `timer->async_wait`. -/
  | startWait (id : Nat)
  /-- `entry.timer->cancel()`. -/
  | cancel (id : Nat)
  /-- The close at the end of a completion handler. -/
  | timerClose (t : CloseTimer)
deriving DecidableEq, Repr

/-- The delayed closes of a process with several threads.  Three fields are
bookkeeping for the specification: reservations are numbered, `reservations`
has the number of the one in the table and `armedFor` that of the one a timer
was armed for. -/
structure CloseTimers where
  delayed : DelayedCloses
  phases : Nat → WaitPhase
  threads : List (List CloseSection)
  tcp : TcpServer
  reservations : Table (UInt32 × UInt32) Nat
  armedFor : Table Nat Nat
  nextReservation : Nat

namespace DelayedCloses

/-- Is the timer the one in the entry of its session?  This is the check of
the completion handler. -/
def holds (d : DelayedCloses) (t : CloseTimer) : Bool :=
  (d.entries (t.sid, t.serial)).any fun entry => entry.timer == some t.id

/-- `CancelDelayedWorldCloseTimers_`, up to the cancels. -/
def releaseAll (d : DelayedCloses) : List Nat × DelayedCloses :=
  ((d.timers.filter d.holds).map CloseTimer.id,
    { d with
      entries := .empty
      timers := d.timers.map fun t => if d.holds t then { t with cancelled := true } else t })

end DelayedCloses

namespace CloseTimers

def initial : CloseTimers where
  delayed := .initial
  phases := fun _ => .unstarted
  threads := []
  tcp := .initial
  reservations := .empty
  armedFor := .empty
  nextReservation := 0

/-! ## Critical sections -/

/-- The table after a section that makes no reservation. -/
def withDelayed (s : CloseTimers) (d : DelayedCloses) : CloseTimers :=
  { s with
    delayed := d
    reservations := fun k => if (d.entries k).isSome then s.reservations k else none }

def tryReserve (s : CloseTimers) (sid serial : UInt32) : Bool × CloseTimers :=
  let reserved := s.delayed.tryReserveDelayedWorldClose sid serial
  if reserved.1 then
    (true,
      { s with
        delayed := reserved.2
        reservations := s.reservations.set (sid, serial) s.nextReservation
        nextReservation := s.nextReservation + 1 })
  else (false, s)

/-- The section of `ArmReservedDelayedWorldClose_`; the wait starts later. -/
def armReserved (s : CloseTimers) (sid serial : UInt32) (origin : CloseTimerOrigin)
    (traceId charId : UInt64) (reason : WorldSessionCloseReason) : Bool × CloseTimers :=
  let armed :=
    s.delayed.armReservedDelayedWorldClose sid serial origin traceId charId reason none 0
  if armed.1 then
    (true,
      { s with
        delayed := armed.2
        armedFor := Function.update s.armedFor s.delayed.nextTimer (s.reservations (sid, serial)) })
  else (false, s)

/-- The sections of a call, with what the call goes on to do. -/
def runSection (s : CloseTimers) : CloseSection → CloseTimers × List CloseSection
  | .kickReserve ctx reason =>
      let reserved := s.tryReserve ctx.sid ctx.serial
      (reserved.2, if reserved.1 then [.kickSend ctx reason] else [])
  | .kickSend ctx reason =>
      (s, if s.tcp.send ctx.sid ctx.serial then [.kickArm ctx reason] else [.kickUpdate ctx])
  | .kickArm ctx reason =>
      let armed := s.armReserved ctx.sid ctx.serial .kick ctx.traceId ctx.charId reason
      (armed.2, if armed.1 then [.startWait s.delayed.nextTimer] else [.kickUpdate ctx])
  | .kickUpdate ctx =>
      (s.withDelayed
        (s.delayed.updateReservedDelayedWorldCloseContext ctx.sid ctx.serial ctx.traceId ctx.charId),
        [.kickClose ctx.sid ctx.serial])
  | .kickClose sid serial => ({ s with tcp := s.tcp.close sid serial }, [])
  | .closedReserve sid serial closeCharId closeReason armReason =>
      if closeReason ≠ .explicitSoftLogout ∧ closeReason ≠ .explicitHardLogout then
        let reserved := s.tryReserve sid serial
        (reserved.2,
          if reserved.1 then [.closedArm sid serial closeCharId armReason]
          else [.release sid serial])
      else (s, [.release sid serial])
  | .closedArm sid serial closeCharId reason =>
      let armed := s.armReserved sid serial .grace 0 closeCharId reason
      -- when the arming fails, the reservation goes, and the close is processed
      (armed.2,
        if armed.1 then [.startWait s.delayed.nextTimer]
        else [.release sid serial, .release sid serial])
  | .release sid serial =>
      let released := s.delayed.releaseDelayedWorldCloseReservation sid serial
      (s.withDelayed released.2,
        ((released.1.bind DelayedCloseEntry.timer).map CloseSection.cancel).toList)
  | .releaseAll =>
      let released := s.delayed.releaseAll
      (s.withDelayed released.2, released.1.map CloseSection.cancel)
  | .startWait id => ({ s with phases := Function.update s.phases id .waiting }, [])
  | .cancel id =>
      (if s.phases id = .waiting then
          { s with phases := Function.update s.phases id (.queued .aborted) }
        else s,
        [])
  | .timerClose t => ({ s with tcp := s.tcp.close t.sid t.serial }, [])

/-! ## Steps -/

/-- What happens next: a call starts, a thread does its next section, a wait
expires or fails, its completion handler runs, or the network has something.
`lineUp` says that the world line has its server and its handler. -/
inductive Event where
  | kick (ctx : DuplicateLoginLogContext) (reason : WorldSessionCloseReason) (lineUp : Bool)
  | sessionClosed (sid serial : UInt32) (closeCharId : UInt64)
      (closeReason armReason : WorldSessionCloseReason)
  | cancelDelayedWorldClose (sid serial : UInt32)
  | cancelDelayedWorldCloseTimers
  | run (i : Nat)
  | expire (id : Nat)
  | fail (id : Nat)
  | complete (id : Nat) (lineUp : Bool)
  | accept
  | terminate (sid serial : UInt32)

def spawn (s : CloseTimers) (thread : List CloseSection) : CloseTimers :=
  { s with threads := s.threads ++ [thread] }

/-- The next section of a thread. -/
def runThread (s : CloseTimers) (i : Nat) : CloseTimers :=
  match s.threads[i]? with
  | some (c :: rest) =>
      let next := s.runSection c
      { next.1 with threads := s.threads.set i (next.2 ++ rest) }
  | _ => s

/-- The wait on a timer ends by itself. -/
def endWait (s : CloseTimers) (id : Nat) (ec : WaitResult) : CloseTimers :=
  if s.phases id = .waiting then { s with phases := Function.update s.phases id (.queued ec) }
  else s

/-- The handler given to `async_wait`, up to the close. -/
def onWaitCompleted (s : CloseTimers) (t : CloseTimer) (ec : WaitResult) (lineUp : Bool) :
    CloseTimers :=
  let s := s.withDelayed (s.delayed.completeTimer t)
  match ec with
  | .aborted => s
  | .failed => s
  | .success => if lineUp then s.spawn [.timerClose t] else s

def complete (s : CloseTimers) (id : Nat) (lineUp : Bool) : CloseTimers :=
  match s.delayed.timers.find? (·.id == id), s.phases id with
  | some t, .queued ec => s.onWaitCompleted t ec lineUp
  | _, _ => s

def step (s : CloseTimers) : Event → CloseTimers
  | .kick ctx reason lineUp =>
      if ctx.charId ≠ 0 ∧ isValidSessionKey ctx.sid ctx.serial ∧ lineUp then
        s.spawn [.kickReserve ctx reason]
      else s
  | .sessionClosed sid serial closeCharId closeReason armReason =>
      s.spawn [.closedReserve sid serial closeCharId closeReason armReason]
  | .cancelDelayedWorldClose sid serial => s.spawn [.release sid serial]
  | .cancelDelayedWorldCloseTimers => s.spawn [.releaseAll]
  | .run i => s.runThread i
  | .expire id => s.endWait id .success
  | .fail id => s.endWait id .failed
  | .complete id lineUp => s.complete id lineUp
  | .accept => { s with tcp := s.tcp.accept }
  | .terminate sid serial => { s with tcp := s.tcp.terminate sid serial }

/-! ## Properties -/

/-- The waits that have not completed and whose reservation nobody has
released: there is at most one for each session, and it is the one its entry
holds. -/
structure OneTimer (s : CloseTimers) : Prop where
  unique : ∀ t ∈ s.delayed.timers, ∀ t' ∈ s.delayed.timers, t.cancelled = false →
    t'.cancelled = false → (t.sid, t.serial) = (t'.sid, t'.serial) → t = t'
  armed_iff : ∀ k entry, s.delayed.entries k = some entry →
    (entry.armed = true ↔ ∃ t ∈ s.delayed.timers,
      t.cancelled = false ∧ (t.sid, t.serial) = k ∧ entry.timer = some t.id)

/-- A completion leaves every entry alone that holds another reservation than
the one the timer was armed for. -/
def SparesLater (s : CloseTimers) (e : Event) : Prop :=
  ∀ id lineUp k, e = .complete id lineUp → s.reservations k ≠ s.armedFor id →
    (s.step e).delayed.entries k = s.delayed.entries k ∧
      (s.step e).reservations k = s.reservations k

/-- No thread is about to close a connection for a timer whose reservation
had been released when its completion ran. -/
def NoLateClose (s : CloseTimers) : Prop :=
  ∀ thread ∈ s.threads, ∀ t, .timerClose t ∈ thread → t.cancelled = false

/-- A completion that would close finds its own entry in the table. -/
def FindsOwnEntry (s : CloseTimers) (e : Event) : Prop :=
  ∀ id t, e = .complete id true → s.delayed.timers.find? (·.id == id) = some t →
    s.phases id = .queued .success → s.delayed.holds t = true

end CloseTimers

/-! ## The table and the timers of a run -/

namespace DelayedCloses

/-- Each timer in the table is an outstanding one of that session, and the
released ones are those the table does not have. -/
structure Consistent (d : DelayedCloses) : Prop where
  ids_nodup : (d.timers.map CloseTimer.id).Nodup
  lt_nextTimer : ∀ t ∈ d.timers, t.id < d.nextTimer
  held : ∀ k entry id, d.entries k = some entry → entry.timer = some id →
    ∃ t ∈ d.timers, t.id = id ∧ (t.sid, t.serial) = k
  cancelled_eq : ∀ t ∈ d.timers, t.cancelled = !d.holds t
  armed_eq : ∀ k entry, d.entries k = some entry → entry.armed = entry.timer.isSome

variable {d : DelayedCloses} {t t' : CloseTimer} {sid serial : UInt32}

theorem holds_eq_true_iff :
    d.holds t = true ↔
      ∃ entry, d.entries (t.sid, t.serial) = some entry ∧ entry.timer = some t.id := by
  simp [holds, Option.any_eq_true]

theorem Consistent.eq_of_id (h : d.Consistent) (ht : t ∈ d.timers) (ht' : t' ∈ d.timers)
    (hid : t.id = t'.id) : t = t' :=
  List.inj_on_of_nodup_map h.ids_nodup ht ht' hid

/-- The timer of an entry belongs to its session. -/
theorem Consistent.key_of_timer (h : d.Consistent) {k : UInt32 × UInt32}
    {entry : DelayedCloseEntry} (hentry : d.entries k = some entry)
    (htimer : entry.timer = some t.id) (ht : t ∈ d.timers) : (t.sid, t.serial) = k := by
  obtain ⟨t', ht', hid, hkey⟩ := h.held k entry t.id hentry htimer
  rw [h.eq_of_id ht ht' hid.symm, hkey]

/-- A timer that shares its session with an entry of another timer is released. -/
theorem holds_eq_false {entry : DelayedCloseEntry}
    (hentry : d.entries (t.sid, t.serial) = some entry) (htimer : entry.timer ≠ some t.id) :
    d.holds t = false := by
  simpa [holds, hentry] using htimer

theorem holds_congr {d' : DelayedCloses}
    (h : d'.entries (t.sid, t.serial) = d.entries (t.sid, t.serial)) : d'.holds t = d.holds t := by
  rw [holds, holds, h]

theorem consistent_initial : initial.Consistent where
  ids_nodup := List.nodup_nil
  lt_nextTimer := by simp [initial]
  held := by simp [initial]
  cancelled_eq := by simp [initial]
  armed_eq := by simp [initial]

/-- Another entry for a session, with the timer it had. -/
theorem Consistent.setEntry (h : d.Consistent) {k₀ : UInt32 × UInt32} {entry₀ : DelayedCloseEntry}
    (htimer₀ : entry₀.timer = (d.entries k₀).bind DelayedCloseEntry.timer)
    (harmed : entry₀.armed = entry₀.timer.isSome) :
    { d with entries := d.entries.set k₀ entry₀ : DelayedCloses }.Consistent := by
  refine ⟨h.ids_nodup, h.lt_nextTimer, fun k entry id hentry htimer => ?_, fun t ht => ?_,
    fun k entry hentry => ?_⟩
  · rcases eq_or_ne k k₀ with rfl | hk
    · simp only [Table.set_self, Option.some.injEq] at hentry
      subst hentry
      rw [htimer₀, Option.bind_eq_some_iff] at htimer
      obtain ⟨entry, hold, htimer⟩ := htimer
      exact h.held k entry id hold htimer
    · simp only [Table.set_of_ne _ _ hk] at hentry
      exact h.held k entry id hentry htimer
  · rw [h.cancelled_eq t ht]
    congr 1
    rcases eq_or_ne (t.sid, t.serial) k₀ with rfl | hk
    · simp only [holds, Table.set_self, Option.any_some, htimer₀]
      cases d.entries (t.sid, t.serial) <;> simp
    · exact (holds_congr (Table.set_of_ne _ _ hk)).symm
  · rcases eq_or_ne k k₀ with rfl | hk
    · simp only [Table.set_self, Option.some.injEq] at hentry
      rw [← hentry, harmed]
    · simp only [Table.set_of_ne _ _ hk] at hentry
      exact h.armed_eq k entry hentry

/-- A new timer for the entry of a session that has none. -/
theorem Consistent.addTimer (h : d.Consistent) {entry₀ : DelayedCloseEntry}
    (hentry₀ : d.entries (t.sid, t.serial) = some entry₀) (hnone : entry₀.timer = none)
    (hid : t.id = d.nextTimer) (hcancelled : t.cancelled = false) (logCtx : SessionCloseLogContext) :
    { entries := d.entries.set (t.sid, t.serial) ⟨some t.id, true, logCtx⟩
      timers := d.timers ++ [t]
      nextTimer := d.nextTimer + 1 : DelayedCloses }.Consistent := by
  have hne : ∀ t' ∈ d.timers, t'.id ≠ t.id := by
    intro t' ht'
    rw [hid]
    exact Nat.ne_of_lt (h.lt_nextTimer t' ht')
  refine ⟨?_, fun t' ht' => ?_, fun k entry id hentry htimer => ?_, fun t' ht' => ?_,
    fun k entry hentry => ?_⟩
  · rw [List.map_append]
    refine h.ids_nodup.append (List.nodup_singleton _) ?_
    simpa using fun t' ht' => hne t' ht'
  · rcases List.mem_append.mp ht' with hold | hnew
    · exact Nat.lt_succ_of_lt (h.lt_nextTimer t' hold)
    · rw [List.mem_singleton.mp hnew, hid]
      exact Nat.lt_succ_self _
  · rcases eq_or_ne k (t.sid, t.serial) with rfl | hk
    · simp only [Table.set_self, Option.some.injEq] at hentry
      subst hentry
      exact ⟨t, List.mem_append_right _ List.mem_cons_self, Option.some.inj htimer, rfl⟩
    · simp only [Table.set_of_ne _ _ hk] at hentry
      obtain ⟨t', ht', hown⟩ := h.held k entry id hentry htimer
      exact ⟨t', List.mem_append_left _ ht', hown⟩
  · rcases List.mem_append.mp ht' with hold | hnew
    · rw [h.cancelled_eq t' hold]
      congr 1
      rcases eq_or_ne (t'.sid, t'.serial) (t.sid, t.serial) with hk | hk
      · rw [holds_eq_false (hk ▸ hentry₀) (by simp [hnone])]
        simp only [holds, hk, Table.set_self, Option.any_some]
        simpa using (hne t' hold).symm
      · exact (holds_congr (Table.set_of_ne _ _ hk)).symm
    · rw [List.mem_singleton.mp hnew, hcancelled]
      simp [holds]
  · rcases eq_or_ne k (t.sid, t.serial) with rfl | hk
    · simp only [Table.set_self, Option.some.injEq] at hentry
      rw [← hentry]
      rfl
    · simp only [Table.set_of_ne _ _ hk] at hentry
      exact h.armed_eq k entry hentry

/-- Entries go, and the timers they held are marked. -/
theorem Consistent.dropEntries (h : d.Consistent)
    {entries : Table (UInt32 × UInt32) DelayedCloseEntry} {p : CloseTimer → Prop} [DecidablePred p]
    (hsub : ∀ k entry, entries k = some entry → d.entries k = some entry)
    (hp : ∀ t ∈ d.timers, { d with entries := entries : DelayedCloses }.holds t = true ↔
      d.holds t = true ∧ ¬p t) :
    { d with
      entries := entries
      timers := d.timers.map fun t => if p t then { t with cancelled := true } else t :
      DelayedCloses }.Consistent := by
  have hmark : ∀ t : CloseTimer, ∃ c,
      (if p t then { t with cancelled := true } else t) = { t with cancelled := c } := by
    intro t
    split
    · exact ⟨true, rfl⟩
    · exact ⟨t.cancelled, rfl⟩
  refine ⟨?_, fun t ht => ?_, fun k entry id hentry htimer => ?_, fun t ht => ?_,
    fun k entry hentry => h.armed_eq k entry (hsub k entry hentry)⟩
  · rw [List.map_map]
    convert h.ids_nodup using 2
    funext t
    obtain ⟨c, hc⟩ := hmark t
    simp [hc]
  · obtain ⟨t', ht', rfl⟩ := List.mem_map.mp ht
    obtain ⟨c, hc⟩ := hmark t'
    rw [hc]
    exact h.lt_nextTimer t' ht'
  · obtain ⟨t, ht, hown⟩ := h.held k entry id (hsub k entry hentry) htimer
    refine ⟨_, List.mem_map.mpr ⟨t, ht, rfl⟩, ?_⟩
    obtain ⟨c, hc⟩ := hmark t
    rw [hc]
    exact hown
  · obtain ⟨t', ht', rfl⟩ := List.mem_map.mp ht
    have hold := h.cancelled_eq t' ht'
    have hnew := hp t' ht'
    split
    case isTrue hpt =>
      have hfalse : { d with entries := entries : DelayedCloses }.holds t' = false :=
        Bool.eq_false_iff.mpr fun hc => (hnew.mp hc).2 hpt
      exact (congrArg (!·) hfalse).symm
    case isFalse hpt =>
      have heq : { d with entries := entries : DelayedCloses }.holds t' = d.holds t' :=
        Bool.eq_iff_iff.mpr ⟨fun hc => (hnew.mp hc).1, fun hc => hnew.mpr ⟨hc, hpt⟩⟩
      rw [hold, ← heq]
      rfl

/-- A reservation is a fresh entry without a timer. -/
theorem Consistent.tryReserve (h : d.Consistent) (sid serial : UInt32) :
    (d.tryReserveDelayedWorldClose sid serial).2.Consistent := by
  unfold tryReserveDelayedWorldClose
  split
  · split
    · exact h
    case h_2 hnone => exact h.setEntry (by rw [hnone]; rfl) rfl
  · exact h

/-- Arming gives the entry its only timer. -/
theorem Consistent.arm (h : d.Consistent) (sid serial : UInt32) (origin : CloseTimerOrigin)
    (traceId charId : UInt64) (reason : WorldSessionCloseReason)
    (session : Option WorldAuthedSession) (outputs : Nat) :
    (d.armReservedDelayedWorldClose sid serial origin traceId charId reason session
      outputs).2.Consistent := by
  unfold armReservedDelayedWorldClose
  split
  · split
    · exact h
    case h_2 entry hentry =>
      split
      · exact h
      case isFalse harmed =>
        have hnone : entry.timer = none := by
          rw [h.armed_eq _ _ hentry] at harmed
          exact Option.not_isSome_iff_eq_none.mp harmed
        exact h.addTimer (t := { id := d.nextTimer, sid, serial, origin, session, outputs }) hentry
          hnone rfl rfl _
  · exact h

/-- A new context leaves the entry's timer as it was. -/
theorem Consistent.update (h : d.Consistent) (sid serial : UInt32) (traceId charId : UInt64) :
    (d.updateReservedDelayedWorldCloseContext sid serial traceId charId).Consistent := by
  unfold updateReservedDelayedWorldCloseContext
  split
  · split
    · exact h
    case h_2 entry hentry =>
      exact h.setEntry (by rw [hentry]; rfl) (h.armed_eq _ entry hentry)
  · exact h

/-- A released entry has its timer cancelled with it. -/
theorem Consistent.release (h : d.Consistent) (sid serial : UInt32) :
    (d.releaseDelayedWorldCloseReservation sid serial).2.Consistent := by
  unfold releaseDelayedWorldCloseReservation
  split
  · split
    · exact h
    case h_2 entry hentry =>
      refine h.dropEntries (fun k e hk => (Table.erase_eq_some_iff.mp hk).2) fun t ht => ?_
      rw [holds_eq_true_iff, holds_eq_true_iff]
      constructor
      · rintro ⟨e, he, htimer⟩
        obtain ⟨hne, he⟩ := Table.erase_eq_some_iff.mp he
        exact ⟨⟨e, he, htimer⟩, fun hc => hne (h.key_of_timer hentry hc.symm ht)⟩
      · rintro ⟨⟨e, he, htimer⟩, hne⟩
        refine ⟨e, Table.erase_eq_some_iff.mpr ⟨fun hk => hne ?_, he⟩, htimer⟩
        rw [hk, hentry] at he
        rw [Option.some.inj he, htimer]
  · exact h

theorem Consistent.releaseAll (h : d.Consistent) : d.releaseAll.2.Consistent := by
  refine h.dropEntries (fun k e hk => nomatch hk) fun t _ => ?_
  constructor
  · intro hc
    exact absurd hc (by simp [holds])
  · exact fun hc => absurd hc.1 hc.2

theorem entries_completeTimer (d : DelayedCloses) (t : CloseTimer) :
    (d.completeTimer t).entries =
      if d.holds t then d.entries.erase (t.sid, t.serial) else d.entries := by
  simp only [completeTimer, holds]
  split <;> simp_all

/-- A timer that fires takes its own entry only if the entry still names it. -/
theorem Consistent.completeTimer (h : d.Consistent) (ht : t ∈ d.timers) :
    (d.completeTimer t).Consistent := by
  have hsub : ∀ k entry, (d.completeTimer t).entries k = some entry →
      d.entries k = some entry ∧ (d.holds t = true → k ≠ (t.sid, t.serial)) := by
    intro k entry hentry
    rw [entries_completeTimer] at hentry
    split at hentry
    · obtain ⟨hne, hentry⟩ := Table.erase_eq_some_iff.mp hentry
      exact ⟨hentry, fun _ => hne⟩
    case isFalse hown => exact ⟨hentry, fun hc => absurd hc hown⟩
  have hmem : ∀ t', t' ∈ (d.completeTimer t).timers ↔ t' ∈ d.timers ∧ t'.id ≠ t.id := by
    simp [DelayedCloses.completeTimer]
  refine ⟨?_, fun t' ht' => ?_, fun k entry id hentry htimer => ?_, fun t' ht' => ?_,
    fun k entry hentry => h.armed_eq k entry (hsub k entry hentry).1⟩
  · exact h.ids_nodup.sublist (List.filter_sublist.map _)
  · exact h.lt_nextTimer t' ((hmem t').mp ht').1
  · obtain ⟨hentry, hne⟩ := hsub k entry hentry
    obtain ⟨t', ht', rfl, hkey⟩ := h.held k entry id hentry htimer
    refine ⟨t', (hmem t').mpr ⟨ht', fun hid => ?_⟩, rfl, hkey⟩
    rw [h.eq_of_id ht' ht hid] at hkey htimer
    exact hne (holds_eq_true_iff.mpr ⟨entry, hkey ▸ hentry, htimer⟩) hkey.symm
  · obtain ⟨hold, hid⟩ := (hmem t').mp ht'
    rw [h.cancelled_eq t' hold]
    congr 1
    rw [Bool.eq_iff_iff, holds_eq_true_iff, holds_eq_true_iff, entries_completeTimer]
    constructor
    · rintro ⟨entry, hentry, htimer⟩
      refine ⟨entry, ?_, htimer⟩
      split
      case isTrue hown =>
        refine Table.erase_eq_some_iff.mpr ⟨fun hk => ?_, hentry⟩
        obtain ⟨entry', hentry', htimer'⟩ := holds_eq_true_iff.mp hown
        rw [hk, hentry'] at hentry
        rw [Option.some.inj hentry, htimer] at htimer'
        exact hid (Option.some.inj htimer')
      · exact hentry
    · rintro ⟨entry, hentry, htimer⟩
      rw [← entries_completeTimer] at hentry
      exact ⟨entry, (hsub _ entry hentry).1, htimer⟩

/-- What a reservation that is made does. -/
theorem tryReserve_eq_true (h : (d.tryReserveDelayedWorldClose sid serial).1 = true) :
    d.entries (sid, serial) = none ∧
      (d.tryReserveDelayedWorldClose sid serial).2.entries = d.entries.set (sid, serial) {} := by
  unfold tryReserveDelayedWorldClose at h ⊢
  split at h
  case isFalse => cases h
  case isTrue hvalid =>
    split at h
    · cases h
    case h_2 hfree => exact ⟨hfree, by rw [if_pos hvalid]⟩

/-- What an arming that succeeds does. -/
theorem arm_eq_true {origin : CloseTimerOrigin} {traceId charId : UInt64}
    {reason : WorldSessionCloseReason} {session : Option WorldAuthedSession} {outputs : Nat}
    (h : (d.armReservedDelayedWorldClose sid serial origin traceId charId reason session
      outputs).1 = true) :
    (d.entries (sid, serial)).isSome ∧
      (d.armReservedDelayedWorldClose sid serial origin traceId charId reason session
          outputs).2.entries =
        d.entries.set (sid, serial)
          ⟨some d.nextTimer, true, ⟨traceId, charId, sid, serial, reason⟩⟩ := by
  unfold armReservedDelayedWorldClose at h ⊢
  split at h
  case isFalse => cases h
  case isTrue hvalid =>
    split at h
    · cases h
    case h_2 entry hentry =>
      split at h
      · cases h
      case isFalse hfree =>
        refine ⟨Option.isSome_of_eq_some hentry, ?_⟩
        rw [if_pos hvalid]
        simp only [hfree, Bool.false_eq_true, if_false]

end DelayedCloses

namespace CloseTimers

/-- The table of a run, with the numbers of its reservations. -/
structure Consistent (s : CloseTimers) : Prop where
  table : s.delayed.Consistent
  numbered : ∀ k entry id, s.delayed.entries k = some entry → entry.timer = some id →
    s.armedFor id = s.reservations k
  unreserved : ∀ k, s.delayed.entries k = none → s.reservations k = none

variable {s s' : CloseTimers} {t : CloseTimer} {d : DelayedCloses}

theorem consistent_initial : initial.Consistent where
  table := DelayedCloses.consistent_initial
  numbered := by simp [initial, DelayedCloses.initial]
  unreserved := by simp [initial]

/-- A step that leaves the table and the numbers alone. -/
theorem Consistent.congr (h : s.Consistent) (hdelayed : s'.delayed = s.delayed)
    (hreservations : s'.reservations = s.reservations) (harmedFor : s'.armedFor = s.armedFor) :
    s'.Consistent := by
  refine ⟨?_, ?_, ?_⟩
  · rw [hdelayed]
    exact h.table
  · rw [hdelayed, hreservations, harmedFor]
    exact h.numbered
  · rw [hdelayed, hreservations]
    exact h.unreserved

/-- A section that puts no timer into the table keeps the numbers. -/
theorem Consistent.withDelayed (h : s.Consistent) (hd : d.Consistent)
    (hsub : ∀ k entry, d.entries k = some entry →
      ∃ entry', s.delayed.entries k = some entry' ∧ entry'.timer = entry.timer) :
    (s.withDelayed d).Consistent := by
  refine ⟨hd, fun k entry id hentry htimer => ?_, fun k hnone => ?_⟩
  · obtain ⟨entry', hold, heq⟩ := hsub k entry hentry
    have hnumber : (s.withDelayed d).reservations k = s.reservations k := by
      have hsome : (d.entries k).isSome = true := Option.isSome_of_eq_some hentry
      simp [CloseTimers.withDelayed, hsome]
    rw [hnumber]
    exact h.numbered k entry' id hold (heq.trans htimer)
  · have hnone' : d.entries k = none := hnone
    simp [CloseTimers.withDelayed, hnone']

/-- A section that writes one entry, whose timer if any has the number of its
reservation. -/
theorem Consistent.set {k₀ : UInt32 × UInt32} {entry₀ : DelayedCloseEntry} (h : s.Consistent)
    (htable : s'.delayed.Consistent)
    (hentries : s'.delayed.entries = s.delayed.entries.set k₀ entry₀)
    (hreservations : ∀ k, k ≠ k₀ → s'.reservations k = s.reservations k)
    (harmedFor : ∀ t ∈ s.delayed.timers, s'.armedFor t.id = s.armedFor t.id)
    (hnumber : ∀ id, entry₀.timer = some id → s'.armedFor id = s'.reservations k₀) :
    s'.Consistent := by
  refine ⟨htable, fun k entry id hentry htimer => ?_, fun k hnone => ?_⟩
  · rcases eq_or_ne k k₀ with rfl | hk
    · simp only [hentries, Table.set_self, Option.some.injEq] at hentry
      subst hentry
      exact hnumber id htimer
    · simp only [hentries, Table.set_of_ne _ _ hk] at hentry
      obtain ⟨t, ht, rfl, -⟩ := h.table.held k entry id hentry htimer
      rw [harmedFor t ht, hreservations k hk]
      exact h.numbered k entry t.id hentry htimer
  · rcases eq_or_ne k k₀ with rfl | hk
    · simp [hentries] at hnone
    · simp only [hentries, Table.set_of_ne _ _ hk] at hnone
      rw [hreservations k hk]
      exact h.unreserved k hnone

/-- A reservation, together with its number. -/
theorem Consistent.tryReserve (h : s.Consistent) (sid serial : UInt32) :
    (s.tryReserve sid serial).2.Consistent := by
  have htable := h.table.tryReserve sid serial
  unfold CloseTimers.tryReserve
  simp only
  split
  case isFalse => exact h
  case isTrue hreserved =>
    obtain ⟨-, hentries⟩ := DelayedCloses.tryReserve_eq_true hreserved
    refine h.set htable hentries (fun k hk => ?_) (fun t _ => rfl) fun id htimer => ?_
    · exact Table.set_of_ne _ _ hk
    · cases htimer

/-- Arming, with the number of the reservation it is for. -/
theorem Consistent.armReserved (h : s.Consistent) (sid serial : UInt32)
    (origin : CloseTimerOrigin) (traceId charId : UInt64) (reason : WorldSessionCloseReason) :
    (s.armReserved sid serial origin traceId charId reason).2.Consistent := by
  have htable := h.table.arm sid serial origin traceId charId reason none 0
  unfold CloseTimers.armReserved
  simp only
  split
  case isFalse => exact h
  case isTrue harmed =>
    obtain ⟨-, hentries⟩ := DelayedCloses.arm_eq_true harmed
    refine h.set htable hentries (fun k _ => rfl) (fun t ht => ?_) fun id htimer => ?_
    · -- the new timer has a number that no timer holds
      exact Function.update_of_ne (Nat.ne_of_lt (h.table.lt_nextTimer t ht)) ..
    · cases htimer
      exact Function.update_self ..

/-- Each section under the lock keeps entries and timers in step. -/
theorem Consistent.runSection (h : s.Consistent) (c : CloseSection) :
    (s.runSection c).1.Consistent := by
  cases c with
  | kickReserve ctx reason => exact h.tryReserve ctx.sid ctx.serial
  | kickSend ctx reason => exact h
  | kickArm ctx reason => exact h.armReserved ..
  | kickUpdate ctx =>
      refine h.withDelayed (h.table.update ..) fun k entry hentry => ?_
      unfold DelayedCloses.updateReservedDelayedWorldCloseContext at hentry
      split at hentry
      · split at hentry
        · exact ⟨entry, hentry, rfl⟩
        case h_2 entry₀ hentry₀ =>
          rcases eq_or_ne k (ctx.sid, ctx.serial) with rfl | hk
          · simp only [Table.set_self, Option.some.injEq] at hentry
            exact ⟨entry₀, hentry₀, by rw [← hentry]⟩
          · simp only [Table.set_of_ne _ _ hk] at hentry
            exact ⟨entry, hentry, rfl⟩
      · exact ⟨entry, hentry, rfl⟩
  | kickClose sid serial => exact h.congr rfl rfl rfl
  | closedReserve sid serial closeCharId closeReason armReason =>
      simp only [CloseTimers.runSection]
      split
      · exact h.tryReserve sid serial
      · exact h
  | closedArm sid serial closeCharId reason => exact h.armReserved ..
  | release sid serial =>
      refine h.withDelayed (h.table.release ..) fun k entry hentry => ⟨entry, ?_, rfl⟩
      unfold DelayedCloses.releaseDelayedWorldCloseReservation at hentry
      split at hentry
      · split at hentry
        · exact hentry
        · exact (Table.erase_eq_some_iff.mp hentry).2
      · exact hentry
  | releaseAll => exact h.withDelayed h.table.releaseAll fun k entry hentry => by cases hentry
  | startWait id => exact h.congr rfl rfl rfl
  | cancel id =>
      simp only [CloseTimers.runSection]
      split
      · exact h.congr rfl rfl rfl
      · exact h
  | timerClose t => exact h.congr rfl rfl rfl

/-- A timer that fires takes its own entry only if the entry still names it. -/
theorem Consistent.completeTimer (h : s.Consistent) (ht : t ∈ s.delayed.timers) :
    (s.withDelayed (s.delayed.completeTimer t)).Consistent := by
  refine h.withDelayed (h.table.completeTimer ht) fun k entry hentry => ⟨entry, ?_, rfl⟩
  rw [DelayedCloses.entries_completeTimer] at hentry
  split at hentry
  · exact (Table.erase_eq_some_iff.mp hentry).2
  · exact hentry

/-- After its lookup a completion touches no table. -/
theorem onWaitCompleted_eq (s : CloseTimers) (t : CloseTimer) (ec : WaitResult) (lineUp : Bool) :
    ∃ threads, s.onWaitCompleted t ec lineUp =
      { s.withDelayed (s.delayed.completeTimer t) with threads := s.threads ++ threads } := by
  have hnil : s.withDelayed (s.delayed.completeTimer t) =
      { s.withDelayed (s.delayed.completeTimer t) with threads := s.threads ++ [] } := by
    rw [List.append_nil]
    rfl
  cases ec with
  | success =>
      cases lineUp with
      | true => exact ⟨[[.timerClose t]], rfl⟩
      | false => exact ⟨[], hnil⟩
  | aborted => exact ⟨[], hnil⟩
  | failed => exact ⟨[], hnil⟩

/-- A timer callback is a section of its own. -/
theorem Consistent.complete (h : s.Consistent) (id : Nat) (lineUp : Bool) :
    (s.complete id lineUp).Consistent := by
  unfold CloseTimers.complete
  split
  case h_1 t ec hfind hphase =>
    obtain ⟨threads, heq⟩ := onWaitCompleted_eq s t ec lineUp
    rw [heq]
    exact (h.completeTimer (List.mem_of_find?_eq_some hfind)).congr rfl rfl rfl
  · exact h

/-- The step lemma: one case for each event. -/
theorem Consistent.step (h : s.Consistent) (e : Event) : (s.step e).Consistent := by
  cases e with
  | kick ctx reason lineUp =>
      simp only [CloseTimers.step]
      split
      · exact h.congr rfl rfl rfl
      · exact h
  | sessionClosed sid serial closeCharId closeReason armReason => exact h.congr rfl rfl rfl
  | cancelDelayedWorldClose sid serial => exact h.congr rfl rfl rfl
  | cancelDelayedWorldCloseTimers => exact h.congr rfl rfl rfl
  | run i =>
      simp only [CloseTimers.step, runThread]
      split
      case h_1 c rest _ => exact (h.runSection c).congr rfl rfl rfl
      · exact h
  | expire id =>
      simp only [CloseTimers.step, endWait]
      split
      · exact h.congr rfl rfl rfl
      · exact h
  | fail id =>
      simp only [CloseTimers.step, endWait]
      split
      · exact h.congr rfl rfl rfl
      · exact h
  | complete id lineUp => exact h.complete id lineUp
  | accept => exact h.congr rfl rfl rfl
  | terminate sid serial => exact h.congr rfl rfl rfl

/-! ## One timer for each session, and later reservations -/

/-- Two waiting timers of one key would both be named by its entry. -/
theorem Consistent.oneTimer (h : s.Consistent) : s.OneTimer := by
  have hheld : ∀ t ∈ s.delayed.timers, t.cancelled = false →
      ∃ entry, s.delayed.entries (t.sid, t.serial) = some entry ∧ entry.timer = some t.id := by
    intro t ht hcancelled
    have heq := h.table.cancelled_eq t ht
    rw [hcancelled] at heq
    exact DelayedCloses.holds_eq_true_iff.mp (by simpa using heq.symm)
  constructor
  · intro t ht t' ht' hc hc' hkey
    obtain ⟨entry, hentry, htimer⟩ := hheld t ht hc
    obtain ⟨entry', hentry', htimer'⟩ := hheld t' ht' hc'
    rw [hkey, hentry'] at hentry
    rw [← Option.some.inj hentry, htimer'] at htimer
    exact h.table.eq_of_id ht ht' (Option.some.inj htimer).symm
  · intro k entry hentry
    rw [h.table.armed_eq k entry hentry, Option.isSome_iff_exists]
    constructor
    · rintro ⟨id, htimer⟩
      obtain ⟨t, ht, rfl, rfl⟩ := h.table.held k entry id hentry htimer
      refine ⟨t, ht, ?_, rfl, htimer⟩
      rw [h.table.cancelled_eq t ht, DelayedCloses.holds_eq_true_iff.mpr ⟨entry, hentry, htimer⟩]
      rfl
    · rintro ⟨t, -, -, -, htimer⟩
      exact ⟨t.id, htimer⟩

/-- A timer that was released cannot close what was reserved later. -/
theorem Consistent.sparesLater (h : s.Consistent) (e : Event) : s.SparesLater e := by
  rintro id lineUp k rfl hne
  simp only [CloseTimers.step, CloseTimers.complete]
  split
  case h_2 => exact ⟨rfl, rfl⟩
  case h_1 t ec hfind hphase =>
    obtain ⟨threads, heq⟩ := onWaitCompleted_eq s t ec lineUp
    rw [heq]
    have hid : t.id = id := by simpa using List.find?_some hfind
    have hkeep : (s.delayed.completeTimer t).entries k = s.delayed.entries k := by
      rw [DelayedCloses.entries_completeTimer]
      split
      case isTrue hown =>
        obtain ⟨entry, hentry, htimer⟩ := DelayedCloses.holds_eq_true_iff.mp hown
        refine Table.erase_of_ne _ fun hk => hne ?_
        rw [hk, ← hid]
        exact (h.numbered _ entry t.id hentry htimer).symm
      · rfl
    refine ⟨hkeep, ?_⟩
    simp only [CloseTimers.withDelayed, hkeep]
    split
    · rfl
    case isFalse hnone =>
      exact (h.unreserved k (Option.not_isSome_iff_eq_none.mp hnone)).symm

/-! ## Late completions -/

/-- Only a completion sends a thread to close for a timer. -/
theorem timerClose_not_mem_runSection (s : CloseTimers) (c : CloseSection) (t : CloseTimer) :
    .timerClose t ∉ (s.runSection c).2 := by
  cases c with
  | kickReserve ctx reason =>
      simp only [runSection]
      split <;> simp
  | kickSend ctx reason =>
      simp only [runSection]
      split <;> simp
  | kickArm ctx reason =>
      simp only [runSection]
      split <;> simp
  | closedReserve sid serial closeCharId closeReason armReason =>
      simp only [runSection]
      split
      · split <;> simp
      · simp
  | closedArm sid serial closeCharId reason =>
      simp only [runSection]
      split <;> simp
  | release sid serial =>
      simp only [runSection, Option.mem_toList, Option.map_eq_some_iff]
      rintro ⟨id, -, hc⟩
      cases hc
  | releaseAll => simp [runSection]
  | kickUpdate ctx => simp [runSection]
  | kickClose sid serial => simp [runSection]
  | startWait id => simp [runSection]
  | cancel id => simp [runSection]
  | timerClose t' => simp [runSection]

theorem noLateClose_spawn {thread : List CloseSection} :
    (s.spawn thread).NoLateClose ↔
      s.NoLateClose ∧ ∀ t, .timerClose t ∈ thread → t.cancelled = false := by
  simp only [NoLateClose, spawn, List.mem_append, List.mem_singleton, or_imp, forall_and,
    forall_eq]

/-- A thread that goes on fires no timer. -/
theorem NoLateClose.runThread (h : s.NoLateClose) (i : Nat) : (s.runThread i).NoLateClose := by
  unfold CloseTimers.runThread
  split
  case h_2 => exact h
  case h_1 c rest hthread =>
    intro thread hmem t ht
    rcases List.mem_or_eq_of_mem_set hmem with hold | rfl
    · exact h thread hold t ht
    · rcases List.mem_append.mp ht with hnew | hrest
      · exact absurd hnew (timerClose_not_mem_runSection s c t)
      · exact h _ (List.mem_of_getElem? hthread) t (List.mem_cons_of_mem c hrest)

/-- A callback is late exactly when the entry it finds is not its own. -/
theorem noLateClose_complete_iff (hs : s.Consistent) (h : s.NoLateClose) (id : Nat)
    (lineUp : Bool) :
    (s.complete id lineUp).NoLateClose ↔ s.FindsOwnEntry (.complete id lineUp) := by
  unfold CloseTimers.complete
  split
  case h_1 t ec hfind hphase =>
    have hcancelled := hs.table.cancelled_eq t (List.mem_of_find?_eq_some hfind)
    cases ec with
    | success =>
        cases lineUp with
        | true =>
            have hspawn : (s.onWaitCompleted t .success true).NoLateClose ↔ _ := noLateClose_spawn
            refine hspawn.trans ⟨?_, ?_⟩
            · rintro ⟨-, hclose⟩ id' t' heq hfind' -
              cases heq
              cases hfind.symm.trans hfind'
              simpa [hcancelled] using hclose t List.mem_cons_self
            · intro hown
              refine ⟨h, fun t' ht' => ?_⟩
              cases List.mem_singleton.mp ht'
              rw [hcancelled, hown id t rfl hfind hphase]
              rfl
        | false => exact ⟨fun _ id' t' heq => (nomatch heq), fun _ => h⟩
    | aborted =>
        refine ⟨fun _ id' t' heq _ hphase' => ?_, fun _ => h⟩
        cases heq
        cases hphase.symm.trans hphase'
    | failed =>
        refine ⟨fun _ id' t' heq _ hphase' => ?_, fun _ => h⟩
        cases heq
        cases hphase.symm.trans hphase'
  case h_2 hnone =>
    refine ⟨fun _ id' t' heq hfind hphase => ?_, fun _ => h⟩
    cases heq
    exact absurd hphase (hnone t' .success hfind)

/-- A step sends no thread to a late close precisely if the completion that
would close finds its own entry. -/
theorem noLateClose_step_iff (hs : s.Consistent) (h : s.NoLateClose) (e : Event) :
    (s.step e).NoLateClose ↔ s.FindsOwnEntry e := by
  have hspawn : ∀ c : CloseSection, (∀ t, c ≠ .timerClose t) → (s.spawn [c]).NoLateClose := by
    intro c hc
    refine noLateClose_spawn.mpr ⟨h, fun t ht => ?_⟩
    exact absurd (List.mem_singleton.mp ht).symm (hc t)
  have hend : ∀ id ec, (s.endWait id ec).NoLateClose := by
    intro id ec
    unfold endWait
    split <;> exact h
  cases e with
  | complete id lineUp => exact noLateClose_complete_iff hs h id lineUp
  | kick ctx reason lineUp =>
      refine ⟨fun _ _ _ heq => (nomatch heq), fun _ => ?_⟩
      simp only [CloseTimers.step]
      split
      · exact hspawn _ fun _ => nofun
      · exact h
  | sessionClosed sid serial closeCharId closeReason armReason =>
      exact ⟨fun _ _ _ heq => (nomatch heq), fun _ => hspawn _ fun _ => nofun⟩
  | cancelDelayedWorldClose sid serial =>
      exact ⟨fun _ _ _ heq => (nomatch heq), fun _ => hspawn _ fun _ => nofun⟩
  | cancelDelayedWorldCloseTimers =>
      exact ⟨fun _ _ _ heq => (nomatch heq), fun _ => hspawn _ fun _ => nofun⟩
  | run i => exact ⟨fun _ _ _ heq => (nomatch heq), fun _ => h.runThread i⟩
  | expire id => exact ⟨fun _ _ _ heq => (nomatch heq), fun _ => hend id .success⟩
  | fail id => exact ⟨fun _ _ _ heq => (nomatch heq), fun _ => hend id .failed⟩
  | accept => exact ⟨fun _ _ _ heq => (nomatch heq), fun _ => h⟩
  | terminate sid serial => exact ⟨fun _ _ _ heq => (nomatch heq), fun _ => h⟩

/-- **Delayed closes**: in every run each session has at most one armed timer
and its entry holds that one, a completion touches no later reservation, and
a timer that was released before its completion closes nothing precisely if
each completion that is run as successful still finds its own entry. -/
theorem delayedClose_run (es : List Event) :
    Always step OneTimer initial es ∧ Along step SparesLater initial es ∧
      (Always step NoLateClose initial es ↔ Along step FindsOwnEntry initial es) := by
  refine ⟨?_, ?_, ?_⟩
  · exact (always_of_forall_step consistent_initial fun _ e h => h.step e).imp
      fun _ h => h.oneTimer
  · exact along_of_forall_step consistent_initial (fun _ e h => h.step e) fun _ e h =>
      h.sparesLater e
  · exact always_iff_along consistent_initial (by simp [NoLateClose, initial])
      (fun _ e h => h.step e) fun _ e hs h => noLateClose_step_iff hs h e

/-! ## Releases in time -/

/-- No release comes after the wait of its timer has expired, and no wait
expires after its release. -/
def InTime (s : CloseTimers) : Event → Prop
  | .expire id => ∀ t ∈ s.delayed.timers, t.id = id → t.cancelled = false
  | .run i =>
      match s.threads[i]? with
      | some (.release sid serial :: _) =>
          ∀ t ∈ s.delayed.timers, (t.sid, t.serial) = (sid, serial) → t.cancelled = false →
            s.phases t.id ≠ .queued .success
      | some (.releaseAll :: _) =>
          ∀ t ∈ s.delayed.timers, t.cancelled = false → s.phases t.id ≠ .queued .success
      | _ => True
  | _ => True

/-- No wait of a released timer has expired. -/
def ReleasedInTime (s : CloseTimers) : Prop :=
  ∀ t ∈ s.delayed.timers, t.cancelled = true → s.phases t.id ≠ .queued .success

theorem timers_tryReserve (s : CloseTimers) (sid serial : UInt32) :
    (s.tryReserve sid serial).2.delayed.timers = s.delayed.timers := by
  unfold tryReserve DelayedCloses.tryReserveDelayedWorldClose
  repeat' split
  all_goals rfl

/-- Arming adds a timer that is not cancelled. -/
theorem mem_timers_armReserved {sid serial : UInt32} {origin : CloseTimerOrigin}
    {traceId charId : UInt64} {reason : WorldSessionCloseReason}
    (ht : t ∈ (s.armReserved sid serial origin traceId charId reason).2.delayed.timers)
    (hcancelled : t.cancelled = true) : t ∈ s.delayed.timers := by
  unfold armReserved DelayedCloses.armReservedDelayedWorldClose at ht
  repeat' split at ht
  any_goals exact ht
  -- only the new timer is left, which is not released
  rcases List.mem_append.mp ht with hold | hnew
  · exact hold
  · rw [List.mem_singleton.mp hnew] at hcancelled
    cases hcancelled

/-- A section leaves the released timers as they are, but for a release,
which marks those of its entries. -/
theorem mem_timers_runSection (hs : s.Consistent) (c : CloseSection)
    (ht : t ∈ (s.runSection c).1.delayed.timers) (hcancelled : t.cancelled = true) :
    ∃ t' ∈ s.delayed.timers, t'.id = t.id ∧
      (t'.cancelled = false → c = .releaseAll ∨ c = .release t'.sid t'.serial) := by
  have hself : t ∈ s.delayed.timers → ∃ t' ∈ s.delayed.timers, t'.id = t.id ∧
      (t'.cancelled = false → c = .releaseAll ∨ c = .release t'.sid t'.serial) :=
    fun h => ⟨t, h, rfl, fun hc => by simp [hcancelled] at hc⟩
  cases c with
  | kickReserve ctx reason => exact hself (timers_tryReserve s .. ▸ ht)
  | kickSend ctx reason => exact hself ht
  | kickArm ctx reason => exact hself (mem_timers_armReserved ht hcancelled)
  | kickUpdate ctx =>
      refine hself ?_
      simp only [runSection, withDelayed,
        DelayedCloses.updateReservedDelayedWorldCloseContext] at ht
      repeat' split at ht
      all_goals exact ht
  | kickClose sid serial => exact hself ht
  | closedReserve sid serial closeCharId closeReason armReason =>
      refine hself ?_
      simp only [runSection] at ht
      split at ht
      · exact timers_tryReserve s .. ▸ ht
      · exact ht
  | closedArm sid serial closeCharId reason => exact hself (mem_timers_armReserved ht hcancelled)
  | release sid serial =>
      simp only [runSection, withDelayed,
        DelayedCloses.releaseDelayedWorldCloseReservation] at ht
      split at ht
      · split at ht
        · exact hself ht
        case h_2 entry hentry =>
          obtain ⟨t', ht', rfl⟩ := List.mem_map.mp ht
          split
          case isTrue htimer =>
            refine ⟨t', ht', rfl, fun _ => .inr ?_⟩
            cases hs.table.key_of_timer hentry htimer.symm ht'
            rfl
          case isFalse hother =>
            rw [if_neg hother] at hcancelled
            exact ⟨t', ht', rfl, fun hc => by simp [hcancelled] at hc⟩
      · exact hself ht
  | releaseAll =>
      obtain ⟨t', ht', rfl⟩ := List.mem_map.mp ht
      refine ⟨t', ht', ?_, fun _ => .inl rfl⟩
      split <;> rfl
  | startWait id => exact hself ht
  | cancel id =>
      refine hself ?_
      simp only [runSection] at ht
      split at ht <;> exact ht
  | timerClose t' => exact hself ht

/-- A section lets no wait expire. -/
theorem phases_runSection {c : CloseSection} {id : Nat}
    (h : (s.runSection c).1.phases id = .queued .success) : s.phases id = .queued .success := by
  have hupdate : ∀ id' phase, phase ≠ .queued .success →
      Function.update s.phases id' phase id = .queued .success → s.phases id = .queued .success := by
    intro id' phase hne heq
    rcases eq_or_ne id id' with rfl | hid
    · rw [Function.update_self] at heq
      exact absurd heq hne
    · rwa [Function.update_of_ne hid] at heq
  cases c with
  | startWait id' => exact hupdate id' .waiting nofun h
  | cancel id' =>
      simp only [runSection] at h
      split at h
      · exact hupdate id' (.queued .aborted) nofun h
      · exact h
  | kickReserve ctx reason =>
      simp only [runSection, tryReserve] at h
      split at h <;> exact h
  | closedReserve sid serial closeCharId closeReason armReason =>
      simp only [runSection, tryReserve] at h
      repeat' split at h
      all_goals exact h
  | kickArm ctx reason =>
      simp only [runSection, armReserved] at h
      split at h <;> exact h
  | closedArm sid serial closeCharId reason =>
      simp only [runSection, armReserved] at h
      split at h <;> exact h
  | kickSend ctx reason => exact h
  | kickUpdate ctx => exact h
  | kickClose sid serial => exact h
  | release sid serial => exact h
  | releaseAll => exact h
  | timerClose t' => exact h

/-- The step lemma for releases that come before the timer has expired. -/
theorem ReleasedInTime.step (hs : s.Consistent) (h : s.ReleasedInTime) {e : Event}
    (hok : s.InTime e) : (s.step e).ReleasedInTime := by
  cases e with
  | run i =>
      simp only [CloseTimers.step, CloseTimers.runThread]
      split
      case h_2 => exact h
      case h_1 c rest hthread =>
        intro t ht hcancelled hphase
        obtain ⟨t', ht', hid, hreleased⟩ := mem_timers_runSection hs c ht hcancelled
        have hphase' : s.phases t'.id = .queued .success := hid ▸ phases_runSection hphase
        simp only [InTime, hthread] at hok
        cases hc : t'.cancelled with
        | true => exact h t' ht' hc hphase'
        | false =>
            rcases hreleased hc with rfl | rfl
            · exact hok t' ht' hc hphase'
            · exact hok t' ht' rfl hc hphase'
  | expire id =>
      simp only [CloseTimers.step, endWait]
      split
      case isFalse => exact h
      case isTrue =>
        intro t ht hcancelled hphase
        rcases eq_or_ne t.id id with hid | hid
        · simp [hok t ht hid] at hcancelled
        · exact h t ht hcancelled ((Function.update_of_ne hid ..).symm.trans hphase)
  | fail id =>
      simp only [CloseTimers.step, endWait]
      split
      case isFalse => exact h
      case isTrue =>
        intro t ht hcancelled hphase
        rcases eq_or_ne t.id id with rfl | hid
        · cases (Function.update_self ..).symm.trans hphase
        · exact h t ht hcancelled ((Function.update_of_ne hid ..).symm.trans hphase)
  | complete id lineUp =>
      simp only [CloseTimers.step, CloseTimers.complete]
      split
      case h_2 => exact h
      case h_1 t ec hfind hphase =>
        obtain ⟨threads, heq⟩ := onWaitCompleted_eq s t ec lineUp
        rw [heq]
        exact fun t' ht' => h t' (List.mem_of_mem_filter ht')
  | kick ctx reason lineUp =>
      simp only [CloseTimers.step]
      split <;> exact h
  | sessionClosed sid serial closeCharId closeReason armReason => exact h
  | cancelDelayedWorldClose sid serial => exact h
  | cancelDelayedWorldCloseTimers => exact h
  | accept => exact h
  | terminate sid serial => exact h

/-- It is only a release that comes too late that a timer outruns. -/
theorem findsOwnEntry_of_inTime {es : List Event} (h : Along step InTime initial es) :
    Along step FindsOwnEntry initial es := by
  have hstart : initial.ReleasedInTime := by
    simp [ReleasedInTime, initial, DelayedCloses.initial]
  have hstep : ∀ s e, Consistent s ∧ ReleasedInTime s → InTime s e →
      Consistent (step s e) ∧ ReleasedInTime (step s e) :=
    fun s e hs hok => ⟨hs.1.step e, hs.2.step hs.1 hok⟩
  refine along_of_along ⟨consistent_initial, hstart⟩ hstep ?_ h
  rintro s e ⟨hs, htime⟩ - id t rfl hfind hphase
  have ht := List.mem_of_find?_eq_some hfind
  have hid : t.id = id := by simpa using List.find?_some hfind
  by_contra hown
  have hcancelled : t.cancelled = true := by
    rw [hs.table.cancelled_eq t ht, Bool.eq_false_iff.mpr hown]
    rfl
  exact htime t ht hcancelled (hid ▸ hphase)

/-- A kick of connection `(1,1)` runs up to its timer, which expires; the
close is then cancelled, and the completion runs after that. -/
def cancelTooLate : List Event :=
  [.accept, .kick ⟨1, 100, 11, 1, 1, 2, 1⟩ .duplicateKick true, .run 0, .run 0, .run 0, .run 0,
    .expire 0, .cancelDelayedWorldClose 1 1, .run 1, .run 1, .complete 0 true]

/-- The cancel changes nothing: the completion goes on to close the
connection, which is still there. -/
theorem not_noLateClose_cancelTooLate :
    ¬ Always step NoLateClose initial cancelTooLate ∧
      let s := run step initial cancelTooLate
      s.delayed.entries (1, 1) = none ∧
        s.tcp.slots 1 = some { serial := 1, closeRequested := false } ∧
        (s.step (.run 2)).tcp.slots 1 = some { serial := 1, closeRequested := true } := by
  refine ⟨fun h => ?_, by decide⟩
  have hlast := always_iff_forall_part.mp h _ List.prefix_rfl
  let t : CloseTimer := { id := 0, sid := 1, serial := 1, origin := .kick, cancelled := true }
  have hmem : [.timerClose t] ∈ (run step initial cancelTooLate).threads := by decide
  exact absurd (hlast _ hmem _ List.mem_cons_self) (by decide)

end CloseTimers

end GameServer
