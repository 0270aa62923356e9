import Mathlib.Tactic.Ring
import GameServer.Net.TcpClient

/-!
# GameServer.Net.Reconnect

What a reconnecting client does over its runs.

* `singleLoop_iff` — one coroutine at a time, and always one while the client
  is started, precisely if no start finds a coroutine of an earlier one;
* `backoff_iff` — the delay before the `k`-th attempt is the doubled one with
  its bound, precisely if the doubling does not wrap;
* `stop_made_iff` — no session is made after a stop, precisely if no connect is
  past the resolver then.
-/

namespace GameServer

namespace TcpClient

variable {c c' : TcpClient}

/-! ## One loop -/

@[simp] theorem activities_growBackoff (c : TcpClient) :
    c.growBackoff.activities = c.activities := rfl

/-- At most one wait is scheduled. -/
theorem activities_scheduleReconnect (c : TcpClient) :
    c.scheduleReconnect.activities ≤ c.activities + 1 := by
  unfold scheduleReconnect activities
  split
  · omega
  · simp only [List.length_append, List.length_singleton]
    omega

theorem activities_retry (c : TcpClient) : c.retry.activities ≤ c.activities + 1 := by
  unfold retry
  split
  · exact activities_scheduleReconnect c.growBackoff
  · omega

theorem length_eraseIdx_add_one {α : Type} {l : List α} {i : Nat} {a : α} (h : l[i]? = some a) :
    (l.eraseIdx i).length + 1 = l.length := by
  have hlt := (List.getElem?_eq_some_iff.mp h).1
  rw [List.length_eraseIdx_of_lt hlt]
  omega

/-- A failed attempt makes way for one wait at most. -/
theorem activities_connectFailed {i : Nat} {stage : ConnectStage}
    (h : c.connects[i]? = some stage) :
    (c.connectFailed i).activities ≤ c.activities := by
  have hretry := activities_retry
    { c with connects := c.connects.eraseIdx i, session := none }
  have hlength := length_eraseIdx_add_one h
  unfold connectFailed
  simp only [activities] at hretry ⊢
  omega

/-- Only a start of a client that is not started adds a coroutine. -/
theorem activities_step_le (c : TcpClient) (e : Event)
    (he : e = .start → c.started = true) : (c.step e).activities ≤ c.activities := by
  cases e with
  | start => simp [step, TcpClient.start, he rfl, activities]
  | stop => simp [step, TcpClient.stop, activities]
  | runConnect i =>
      simp only [step]
      split
      next h =>
        have hlength := length_eraseIdx_add_one h
        unfold TcpClient.runConnect
        split <;> simp only [activities, List.length_set] <;> omega
      next => exact Nat.le_refl _
  | resolve i ok =>
      simp only [step]
      split <;> simp [activities]
  | runResolved i =>
      simp only [step]
      split
      next => simp [activities]
      next h => exact activities_connectFailed h
      next => exact Nat.le_refl _
  | connect i ok nextIndex =>
      simp only [step]
      split
      next h =>
        have hlength := length_eraseIdx_add_one h
        split
        next =>
          simp only [connected, resetBackoff, activities, List.length_append,
            List.length_singleton]
          split <;> dsimp only <;> omega
        next => exact activities_connectFailed h
      next => exact Nat.le_refl _
  | sessionEnds i =>
      simp only [step]
      split
      next id h =>
        have hlength := length_eraseIdx_add_one h
        have hretry := activities_retry
          { c with
            live := c.live.eraseIdx i
            session := if c.session = some id then none else c.session }
        unfold TcpClient.sessionEnds
        simp only [activities] at hretry ⊢
        omega
      next => exact Nat.le_refl _
  | runWait i =>
      simp only [step]
      split <;> simp [TcpClient.runWait, activities]
  | timer i =>
      simp only [step]
      split <;> simp [activities]
  | runCompleted i =>
      simp only [step]
      split
      next ok h =>
        have hlength := length_eraseIdx_add_one h
        unfold waitCompletes
        dsimp only
        split <;> simp only [activities, List.length_append, List.length_singleton] <;> omega
      next => exact Nat.le_refl _

theorem activities_start (h : c.started = false) :
    (c.step .start).activities = c.activities + 1 := by
  simp only [step, TcpClient.start, h, resetBackoff, activities, Bool.false_eq_true, if_false,
    List.length_append, List.length_singleton]
  omega

/-- One coroutine at most; while the client is started there is one, and the
session of the client is the one that is live. -/
structure SingleLoop (c : TcpClient) : Prop where
  atMostOne : c.activities ≤ 1
  started : c.started = true → c.activities = 1
  session : c.started = true → c.session = c.live.head?

/-- The session of the client is live. -/
def SessionLive (c : TcpClient) : Prop := ∀ id, c.session = some id → id ∈ c.live

theorem session_retry (c : TcpClient) : c.retry.session = c.session ∧ c.retry.live = c.live := by
  unfold retry scheduleReconnect
  split
  · split <;> exact ⟨rfl, rfl⟩
  · exact ⟨rfl, rfl⟩

theorem SessionLive.retry (h : c.SessionLive) : c.retry.SessionLive := by
  obtain ⟨hsession, hlive⟩ := session_retry c
  intro id hid
  rw [hlive]
  exact h id (hsession ▸ hid)

theorem sessionLive_connectFailed (c : TcpClient) (i : Nat) : (c.connectFailed i).SessionLive :=
  SessionLive.retry fun _ hid => by cases hid

theorem session_connected (c : TcpClient) (i : Nat) (nextIndex : UInt32) :
    (c.connected i nextIndex).session = some c.made.length ∧
      (c.connected i nextIndex).live = c.live ++ [c.made.length] := by
  simp only [connected, resetBackoff]
  split <;> exact ⟨rfl, rfl⟩

/-- The session of a connected client is live: the step lemma, one case for each event. -/
theorem SessionLive.step (h : c.SessionLive) (e : Event) : (c.step e).SessionLive := by
  cases e with
  | start =>
      simp only [TcpClient.step, TcpClient.start]
      split <;> exact h
  | stop => exact fun _ hid => by cases hid
  | runConnect i =>
      simp only [TcpClient.step, TcpClient.runConnect]
      split
      · split <;> exact h
      · exact h
  | runResolved i =>
      simp only [TcpClient.step]
      split
      · exact h
      · exact sessionLive_connectFailed c i
      · exact h
  | connect i ok nextIndex =>
      simp only [TcpClient.step]
      split
      · split
        · obtain ⟨hsession, hlive⟩ := session_connected c i nextIndex
          intro id hid
          rw [hsession, Option.some.injEq] at hid
          rw [hlive, ← hid]
          exact List.mem_append_right _ (List.mem_singleton_self _)
        · exact sessionLive_connectFailed c i
      · exact h
  | sessionEnds i =>
      simp only [TcpClient.step]
      split
      next id hi =>
        refine SessionLive.retry fun id' hid' => ?_
        dsimp only at hid'
        split at hid'
        next => cases hid'
        next hne =>
          obtain ⟨j, hj⟩ := List.mem_iff_getElem?.mp (h id' hid')
          refine List.mem_eraseIdx_iff_getElem?.mpr ⟨j, fun heq => hne ?_, hj⟩
          rw [heq, hi] at hj
          rw [hid', hj]
      next => exact h
  | runCompleted i =>
      simp only [TcpClient.step, waitCompletes]
      split
      · split <;> exact h
      · exact h
  | resolve | runWait | timer =>
      simp only [TcpClient.step]
      split <;> exact h

/-- `SingleLoop`, with what the coroutines go by. -/
structure Looping (c : TcpClient) : Prop extends SingleLoop c where
  autoReconnect : c.autoReconnect = true
  sessionLive : c.SessionLive
  manualStop : c.started = true → c.manualStop = false
  pending : c.started = true → (c.reconnectPending = true ↔ c.waits ≠ [])
  notCancelled : c.started = true → .completed false ∉ c.waits

/-- A client that was only configured does nothing yet. -/
theorem looping_configured (reconnectDelayMs reconnectDelayMaxMs : UInt32) :
    Looping (configured true reconnectDelayMs reconnectDelayMaxMs) where
  atMostOne := Nat.zero_le 1
  started h := Bool.noConfusion h
  session h := Bool.noConfusion h
  autoReconnect := rfl
  sessionLive _ h := by cases h
  manualStop h := Bool.noConfusion h
  pending h := Bool.noConfusion h
  notCancelled h := Bool.noConfusion h

/-- The only element of a list of one. -/
theorem eq_singleton_of_getElem? {α : Type} {l : List α} {i : Nat} {a : α} (h : l[i]? = some a)
    (hlength : l.length ≤ 1) : i = 0 ∧ l = [a] := by
  match l, hlength with
  | [], _ => simp at h
  | [b], _ =>
      cases i with
      | zero => exact ⟨rfl, by simpa using h⟩
      | succ i => simp at h

/-- The one coroutine connects. -/
theorem only_connects (h : c.activities = 1) {i : Nat} {stage : ConnectStage}
    (hi : c.connects[i]? = some stage) :
    i = 0 ∧ c.connects = [stage] ∧ c.waits = [] ∧ c.live = [] := by
  have hlength := length_eraseIdx_add_one hi
  unfold activities at h
  obtain ⟨hzero, hconnects⟩ := eq_singleton_of_getElem? hi (by omega)
  exact ⟨hzero, hconnects, List.length_eq_zero_iff.mp (by omega),
    List.length_eq_zero_iff.mp (by omega)⟩

/-- The one coroutine waits. -/
theorem only_waits (h : c.activities = 1) {i : Nat} {stage : WaitStage}
    (hi : c.waits[i]? = some stage) :
    i = 0 ∧ c.connects = [] ∧ c.waits = [stage] ∧ c.live = [] := by
  have hlength := length_eraseIdx_add_one hi
  unfold activities at h
  obtain ⟨hzero, hwaits⟩ := eq_singleton_of_getElem? hi (by omega)
  exact ⟨hzero, List.length_eq_zero_iff.mp (by omega), hwaits,
    List.length_eq_zero_iff.mp (by omega)⟩

/-- The one coroutine runs a session. -/
theorem only_live (h : c.activities = 1) {i id : Nat} (hi : c.live[i]? = some id) :
    i = 0 ∧ c.connects = [] ∧ c.waits = [] ∧ c.live = [id] := by
  have hlength := length_eraseIdx_add_one hi
  unfold activities at h
  obtain ⟨hzero, hlive⟩ := eq_singleton_of_getElem? hi (by omega)
  exact ⟨hzero, List.length_eq_zero_iff.mp (by omega), List.length_eq_zero_iff.mp (by omega),
    hlive⟩

/-- A client that is not started any more keeps to one coroutine. -/
theorem Looping.of_not_started (h : Looping c) {e : Event} (he : e ≠ .start)
    (hstarted : (c.step e).started = false) (hlive : (c.step e).SessionLive)
    (hauto : (c.step e).autoReconnect = true) :
    Looping (c.step e) where
  atMostOne := (activities_step_le c e fun heq => absurd heq he).trans h.atMostOne
  started := by simp [hstarted]
  session := by simp [hstarted]
  autoReconnect := hauto
  sessionLive := hlive
  manualStop := by simp [hstarted]
  pending := by simp [hstarted]
  notCancelled := by simp [hstarted]

/-- A client whose only coroutine connects. -/
theorem looping_connects (stage : ConnectStage) (hauto : c.autoReconnect = true)
    (hstop : c.manualStop = false) (hpending : c.reconnectPending = false)
    (hsession : c.session = none) (hconnects : c.connects = [stage]) (hwaits : c.waits = [])
    (hlive : c.live = []) : Looping c where
  atMostOne := by simp [activities, hconnects, hwaits, hlive]
  started _ := by simp [activities, hconnects, hwaits, hlive]
  session _ := by simp [hsession, hlive]
  autoReconnect := hauto
  sessionLive := by simp [SessionLive, hsession]
  manualStop _ := hstop
  pending _ := by simp [hpending, hwaits]
  notCancelled _ := by simp [hwaits]

/-- A client whose only coroutine waits. -/
theorem looping_waits (stage : WaitStage) (hauto : c.autoReconnect = true)
    (hstop : c.manualStop = false) (hpending : c.reconnectPending = true)
    (hsession : c.session = none) (hconnects : c.connects = []) (hwaits : c.waits = [stage])
    (hlive : c.live = []) (hstage : stage ≠ .completed false) : Looping c where
  atMostOne := by simp [activities, hconnects, hwaits, hlive]
  started _ := by simp [activities, hconnects, hwaits, hlive]
  session _ := by simp [hsession, hlive]
  autoReconnect := hauto
  sessionLive := by simp [SessionLive, hsession]
  manualStop _ := hstop
  pending _ := by simp [hpending, hwaits]
  notCancelled _ := by simpa [hwaits] using hstage.symm

/-- The end of the only coroutine of a started client is followed by a wait. -/
theorem looping_retry (hauto : c.autoReconnect = true) (hstarted : c.started = true)
    (hstop : c.manualStop = false) (hpending : c.reconnectPending = false)
    (hsession : c.session = none) (hconnects : c.connects = []) (hwaits : c.waits = [])
    (hlive : c.live = []) : Looping c.retry := by
  have hretry : c.retry =
      { c.growBackoff with reconnectPending := true, waits := [.spawned] } := by
    simp [retry, scheduleReconnect, growBackoff, hauto, hstarted, hstop, hpending, hwaits]
  rw [hretry]
  exact looping_waits .spawned hauto hstop rfl hsession hconnects rfl hlive (by simp)

/-- What was set before the client was started. -/
def settings (c : TcpClient) : Bool × UInt32 × UInt32 :=
  (c.autoReconnect, c.reconnectDelayMs, c.reconnectDelayMaxMs)

/-- Whether it is started. -/
def switch (c : TcpClient) : Bool × Bool := (c.started, c.manualStop)

theorem settings_retry (c : TcpClient) : c.retry.settings = c.settings := by
  unfold retry scheduleReconnect
  split
  · split <;> rfl
  · rfl

theorem switch_retry (c : TcpClient) : c.retry.switch = c.switch := by
  unfold retry scheduleReconnect
  split
  · split <;> rfl
  · rfl

/-- The delays are set once, at the start. -/
theorem settings_step (c : TcpClient) (e : Event) : (c.step e).settings = c.settings := by
  cases e with
  | start =>
      simp only [step, TcpClient.start]
      split <;> rfl
  | stop => rfl
  | runConnect i =>
      simp only [step, TcpClient.runConnect]
      split
      · split <;> rfl
      · rfl
  | runResolved i =>
      simp only [step]
      split
      · rfl
      · exact settings_retry _
      · rfl
  | connect i ok nextIndex =>
      simp only [step, connected]
      split
      · split
        · split <;> rfl
        · exact settings_retry _
      · rfl
  | sessionEnds i =>
      simp only [step]
      split
      · exact settings_retry _
      · rfl
  | runCompleted i =>
      simp only [step, waitCompletes]
      split
      · split <;> rfl
      · rfl
  | resolve | runWait | timer =>
      simp only [step]
      split <;> rfl

/-- Between start and stop the switch stays as it is. -/
theorem switch_step (c : TcpClient) {e : Event} (hstart : e ≠ .start) (hstop : e ≠ .stop) :
    (c.step e).switch = c.switch := by
  cases e with
  | start => exact absurd rfl hstart
  | stop => exact absurd rfl hstop
  | runConnect i =>
      simp only [step, TcpClient.runConnect]
      split
      · split <;> rfl
      · rfl
  | runResolved i =>
      simp only [step]
      split
      · rfl
      · exact switch_retry _
      · rfl
  | connect i ok nextIndex =>
      simp only [step, connected]
      split
      · split
        · split <;> rfl
        · exact switch_retry _
      · rfl
  | sessionEnds i =>
      simp only [step]
      split
      · exact switch_retry _
      · rfl
  | runCompleted i =>
      simp only [step, waitCompletes]
      split
      · split <;> rfl
      · rfl
  | resolve | runWait | timer =>
      simp only [step]
      split <;> rfl

theorem autoReconnect_step (c : TcpClient) (e : Event) :
    (c.step e).autoReconnect = c.autoReconnect :=
  congrArg Prod.fst (settings_step c e)

section Started

variable (h : Looping c) (hstarted : c.started = true) {i : Nat}

include h hstarted

theorem Looping.idle (hwaits : c.waits = []) : c.reconnectPending = false := by
  simpa [hwaits] using h.pending hstarted

theorem Looping.noSession (hlive : c.live = []) : c.session = none := by
  simpa [hlive] using h.session hstarted

/-- The coroutine that connects goes on. -/
theorem Looping.set_connects {stage : ConnectStage} (hi : c.connects[i]? = some stage)
    (next : ConnectStage) : Looping { c with connects := c.connects.set i next } := by
  obtain ⟨rfl, hconnects, hwaits, hlive⟩ := only_connects (h.started hstarted) hi
  exact looping_connects next h.autoReconnect (h.manualStop hstarted) (h.idle hstarted hwaits)
    (h.noSession hstarted hlive) (by simp [hconnects]) hwaits hlive

/-- The coroutine that waits goes on. -/
theorem Looping.set_waits {stage : WaitStage} (hi : c.waits[i]? = some stage) {next : WaitStage}
    (hnext : next ≠ .completed false) : Looping { c with waits := c.waits.set i next } := by
  obtain ⟨rfl, hconnects, hwaits, hlive⟩ := only_waits (h.started hstarted) hi
  have hpending : c.reconnectPending = true := (h.pending hstarted).mpr (by simp [hwaits])
  exact looping_waits next h.autoReconnect (h.manualStop hstarted) hpending
    (h.noSession hstarted hlive) hconnects (by simp [hwaits]) hlive hnext

theorem Looping.connectFailed {stage : ConnectStage} (hi : c.connects[i]? = some stage) :
    Looping (c.connectFailed i) := by
  obtain ⟨rfl, hconnects, hwaits, hlive⟩ := only_connects (h.started hstarted) hi
  exact looping_retry h.autoReconnect hstarted (h.manualStop hstarted) (h.idle hstarted hwaits) rfl
    (by simp [hconnects]) hwaits hlive

/-- The coroutine that connects ends, and its session is live. -/
theorem Looping.connected {stage : ConnectStage} (hi : c.connects[i]? = some stage)
    (nextIndex : UInt32) : Looping (c.connected i nextIndex) := by
  obtain ⟨rfl, hconnects, hwaits, hlive⟩ := only_connects (h.started hstarted) hi
  have hzero : c.connects.eraseIdx 0 = [] := by simp [hconnects]
  have hidle := h.idle hstarted hwaits
  rw [TcpClient.connected]
  split <;> exact
    { atMostOne := by simp [activities, resetBackoff, hzero, hwaits, hlive]
      started := fun _ => by simp [activities, resetBackoff, hzero, hwaits, hlive]
      session := fun _ => by simp [resetBackoff, hlive]
      autoReconnect := h.autoReconnect
      sessionLive := fun id hid => by
        obtain rfl := Option.some.inj hid
        exact List.mem_append_right _ (List.mem_singleton_self _)
      manualStop := fun _ => h.manualStop hstarted
      pending := fun _ => by simp [resetBackoff, hidle, hwaits]
      notCancelled := fun _ => by simp [resetBackoff, hwaits] }

theorem Looping.sessionEnds {id : Nat} (hi : c.live[i]? = some id) :
    Looping (c.sessionEnds i id) := by
  obtain ⟨rfl, hconnects, hwaits, hlive⟩ := only_live (h.started hstarted) hi
  have hsame : c.session = some id := by simpa [hlive] using h.session hstarted
  exact looping_retry h.autoReconnect hstarted (h.manualStop hstarted) (h.idle hstarted hwaits)
    (if_pos hsame) hconnects hwaits (by simp [hlive])

/-- The timer was not cancelled, and the next coroutine connects. -/
theorem Looping.waitCompletes {ok : Bool} (hi : c.waits[i]? = some (.completed ok)) :
    Looping (c.waitCompletes i ok) := by
  obtain ⟨rfl, hconnects, hwaits, hlive⟩ := only_waits (h.started hstarted) hi
  have hmanual := h.manualStop hstarted
  cases ok with
  | false => exact absurd (hwaits ▸ List.mem_singleton_self _) (h.notCancelled hstarted)
  | true =>
      have hgoesOn : c.waitCompletes 0 true =
          { c with
            waits := c.waits.eraseIdx 0
            reconnectPending := false
            connects := c.connects ++ [.spawned] } := if_neg (by simp [hmanual, hstarted])
      rw [hgoesOn]
      exact looping_connects .spawned h.autoReconnect hmanual rfl (h.noSession hstarted hlive)
        (by simp [hconnects]) (by simp [hwaits]) hlive

/-- The coroutine of a started client goes on, or ends and is followed by the
next one. -/
theorem Looping.of_started {e : Event} (hstart : e ≠ .start) (hstop : e ≠ .stop) :
    Looping (c.step e) := by
  have hmanual := h.manualStop hstarted
  cases e with
  | start => exact absurd rfl hstart
  | stop => exact absurd rfl hstop
  | runConnect i =>
      simp only [step]
      split
      next hi =>
        have hgoesOn : c.runConnect i = { c with connects := c.connects.set i .resolving } :=
          if_neg (by simp [hmanual, hstarted])
        rw [hgoesOn]
        exact h.set_connects hstarted hi .resolving
      next => exact h
  | resolve i ok =>
      simp only [step]
      split
      next hi => exact h.set_connects hstarted hi (.resolved ok)
      next => exact h
  | runResolved i =>
      simp only [step]
      split
      next hi => exact h.set_connects hstarted hi .connecting
      next hi => exact h.connectFailed hstarted hi
      next => exact h
  | connect i ok nextIndex =>
      simp only [step]
      split
      next hi =>
        split
        · exact h.connected hstarted hi nextIndex
        · exact h.connectFailed hstarted hi
      next => exact h
  | sessionEnds i =>
      simp only [step]
      split
      next id hi => exact h.sessionEnds hstarted hi
      next => exact h
  | runWait i =>
      simp only [step]
      split
      next hi =>
        -- there is no other wait that `expires_after` could cancel
        obtain ⟨rfl, -, hwaits, -⟩ := only_waits (h.started hstarted) hi
        have halone : c.runWait 0 = { c with waits := c.waits.set 0 .waiting } := by
          simp [TcpClient.runWait, hwaits]
        rw [halone]
        exact h.set_waits hstarted hi (by simp)
      next => exact h
  | timer i =>
      simp only [step]
      split
      next hi => exact h.set_waits hstarted hi (by simp)
      next => exact h
  | runCompleted i =>
      simp only [step]
      split
      next ok hi => exact h.waitCompletes hstarted hi
      next => exact h

end Started

/-- A step keeps to one loop unless it starts a second one. -/
theorem looping_step (h : Looping c) (e : Event)
    (hidle : e = .start → c.started = false → c.activities = 0) : Looping (c.step e) := by
  have hauto : (c.step e).autoReconnect = true := (autoReconnect_step c e).trans h.autoReconnect
  by_cases hstop : e = .stop
  · subst hstop
    exact h.of_not_started (by simp) rfl (h.sessionLive.step .stop) hauto
  by_cases hstart : e = .start
  · subst hstart
    cases hstarted : c.started with
    | false =>
        have hzero := hidle rfl hstarted
        unfold activities at hzero
        have hconnects : c.connects = [] := List.length_eq_zero_iff.mp (by omega)
        have hwaits : c.waits = [] := List.length_eq_zero_iff.mp (by omega)
        have hlive : c.live = [] := List.length_eq_zero_iff.mp (by omega)
        have hnone : c.session = none := by
          refine Option.eq_none_iff_forall_ne_some.mpr fun id hid => ?_
          simpa [hlive] using h.sessionLive id hid
        have hstarts : c.step .start =
            { c with
              manualStop := false
              started := true
              reconnectPending := false
              currentBackoffMs := c.reconnectDelayMs
              connects := c.connects ++ [.spawned] } := if_neg (by simp [hstarted])
        rw [hstarts]
        exact looping_connects .spawned h.autoReconnect rfl rfl hnone
          (by simp [hconnects]) hwaits hlive
    | true =>
        have hmanual := h.manualStop hstarted
        have hsame : c.step .start = { c with manualStop := false } := if_pos hstarted
        rwa [hsame, ← hmanual]
  cases hstarted : c.started with
  | false =>
      have hswitch := congrArg Prod.fst (switch_step c hstart hstop)
      exact h.of_not_started hstart (hswitch.trans hstarted) (h.sessionLive.step e) hauto
  | true => exact h.of_started hstarted hstart hstop

/-- **One loop**: in every state of a run, at most one coroutine is under way,
and exactly one while the client is started, which has the session that is
live; precisely if the client is never started again before the coroutine of
an earlier start has ended. -/
theorem singleLoop_iff (reconnectDelayMs reconnectDelayMaxMs : UInt32) (es : List Event) :
    Always step SingleLoop (configured true reconnectDelayMs reconnectDelayMaxMs) es ↔
      Along step (fun c e => e = .start → c.started = false → c.activities = 0)
        (configured true reconnectDelayMs reconnectDelayMaxMs) es := by
  refine always_iff_along_of_strong (looping_configured _ _) (fun c h => h.toSingleLoop)
    (fun c e h hidle => looping_step h e hidle) ?_
  rintro c e - hnext rfl hstarted
  have hone := hnext.atMostOne
  rw [activities_start hstarted] at hone
  omega

/-! ## The delay -/

/-- What a step means for the delay: it starts afresh, or an attempt or a
session has ended and is followed by another attempt. -/
inductive Turn where
  | afresh
  | failed
deriving DecidableEq, Repr

/-- Another attempt follows. -/
def retries (c : TcpClient) : Bool := !c.manualStop && c.started && c.autoReconnect

/-- The turn of a coroutine that ends. -/
def endTurn (c : TcpClient) : List Turn := if c.retries then [.failed] else []

/-- The turns that a step takes. -/
def turn (c : TcpClient) : Event → List Turn
  | .start => if c.started then [] else [.afresh]
  | .runResolved i => if c.connects[i]? = some (.resolved false) then c.endTurn else []
  | .connect i ok _ =>
      if c.connects[i]? = some .connecting then if ok then [.afresh] else c.endTurn else []
  | .sessionEnds i => if c.live[i]?.isSome then c.endTurn else []
  | _ => []

/-- The failures since the delay last started afresh. -/
def failures (h : List Turn) : Nat := (h.reverse.takeWhile (· = .failed)).length

/-- The delay after `k` failures: the first one doubled `k` times, within the
bound. -/
def delayAfter (delay delayMax : Nat) : Nat → Nat
  | 0 => delay
  | k + 1 => min (delay * 2 ^ (k + 1)) delayMax

/-- The delay that the client computes. -/
def backoffAfter (delay delayMax : UInt32) : Nat → UInt32
  | 0 => delay
  | k + 1 => min (backoffAfter delay delayMax k * 2) delayMax

theorem failures_append_failed (h : List Turn) : failures (h ++ [.failed]) = failures h + 1 := by
  simp [failures]

theorem failures_append_afresh (h : List Turn) : failures (h ++ [.afresh]) = 0 := by
  simp [failures]

section

variable {delay delayMax : UInt32} {h : List Turn}

/-- The delay is the one after the failures so far. -/
def OnTime (delay delayMax : UInt32) (ch : TcpClient × List Turn) : Prop :=
  ch.1.settings.2 = (delay, delayMax) ∧
    ch.1.currentBackoffMs = backoffAfter delay delayMax (failures ch.2)

theorem onTime_same (hc : OnTime delay delayMax (c, h)) (hsettings : c'.settings = c.settings)
    (hbackoff : c'.currentBackoffMs = c.currentBackoffMs) :
    OnTime delay delayMax (c', h ++ []) := by
  unfold OnTime at hc ⊢
  rwa [List.append_nil, hsettings, hbackoff]

theorem onTime_afresh (hc : OnTime delay delayMax (c, h)) (hsettings : c'.settings = c.settings)
    (hbackoff : c'.currentBackoffMs = c.reconnectDelayMs) :
    OnTime delay delayMax (c', h ++ [.afresh]) := by
  refine ⟨(congrArg Prod.snd hsettings).trans hc.1, ?_⟩
  rw [failures_append_afresh, hbackoff]
  exact congrArg Prod.fst hc.1

theorem currentBackoffMs_scheduleReconnect (c : TcpClient) :
    c.scheduleReconnect.currentBackoffMs = c.currentBackoffMs := by
  unfold scheduleReconnect
  split <;> rfl

/-- The end of a coroutine doubles the delay. -/
theorem onTime_retry (hc : OnTime delay delayMax (c, h)) :
    OnTime delay delayMax (c.retry, h ++ c.endTurn) := by
  unfold endTurn
  cases hretries : c.retries with
  | false =>
      have hretry : c.retry = c := if_neg (by simpa [retries] using hretries)
      rw [hretry]
      exact onTime_same hc rfl rfl
  | true =>
      refine ⟨(congrArg Prod.snd (settings_retry c)).trans hc.1, ?_⟩
      have hretry : c.retry = c.growBackoff.scheduleReconnect := if_pos hretries
      have hmax : c.reconnectDelayMaxMs = delayMax := congrArg Prod.snd hc.1
      have hgrown : c.retry.currentBackoffMs = min (c.currentBackoffMs * 2) delayMax := by
        rw [hretry, currentBackoffMs_scheduleReconnect, ← hmax]
        rfl
      rw [hgrown, if_pos rfl, failures_append_failed, backoffAfter, hc.2]

/-- The step lemma: each retry waits as long as the number of failures before it says. -/
theorem onTime_step (hc : OnTime delay delayMax (c, h)) (e : Event) :
    OnTime delay delayMax (recording step turn (c, h) e) := by
  have hsettings := settings_step c e
  unfold recording
  cases e with
  | start =>
      simp only [step, TcpClient.start, turn] at hsettings ⊢
      split
      next => exact onTime_same hc rfl rfl
      next => exact onTime_afresh hc rfl rfl
  | stop => exact onTime_same hc rfl rfl
  | runConnect i =>
      simp only [step, TcpClient.runConnect, turn]
      split
      next => split <;> exact onTime_same hc rfl rfl
      next => exact onTime_same hc rfl rfl
  | runResolved i =>
      simp only [step, turn]
      split
      next hi =>
        rw [if_neg (by simp [hi])]
        exact onTime_same hc rfl rfl
      next hi =>
        rw [if_pos hi]
        exact onTime_retry (c := { c with connects := c.connects.eraseIdx i, session := none }) hc
      next hi =>
        rw [if_neg (by simpa using hi)]
        exact onTime_same hc rfl rfl
  | connect i ok nextIndex =>
      simp only [step, turn]
      split
      next hi =>
        rw [if_pos hi]
        cases ok with
        | true =>
            simp only [if_true, connected]
            split <;> exact onTime_afresh hc rfl rfl
        | false =>
            exact onTime_retry
              (c := { c with connects := c.connects.eraseIdx i, session := none }) hc
      next hi =>
        rw [if_neg (by simpa using hi)]
        exact onTime_same hc rfl rfl
  | sessionEnds i =>
      simp only [step, turn]
      cases hi : c.live[i]? with
      | none => exact onTime_same hc rfl rfl
      | some id =>
          exact onTime_retry
            (c := { c with
              live := c.live.eraseIdx i
              session := if c.session = some id then none else c.session }) hc
  | runCompleted i =>
      simp only [step, waitCompletes, turn]
      split
      next => split <;> exact onTime_same hc rfl rfl
      next => exact onTime_same hc rfl rfl
  | resolve | runWait | timer =>
      simp only [step, turn]
      split <;> exact onTime_same hc rfl rfl

end

/-- The events of an attempt that fails and of the wait after it. -/
def failedAttempt : List Event :=
  [.runConnect 0, .resolve 0 false, .runResolved 0, .runWait 0, .timer 0, .runCompleted 0]

/-- A client about to make an attempt. -/
structure Trying (c : TcpClient) : Prop where
  started : c.started = true
  manualStop : c.manualStop = false
  autoReconnect : c.autoReconnect = true
  pending : c.reconnectPending = false
  connects : c.connects = [.spawned]
  waits : c.waits = []

/-- One failed attempt leads to the next, and records one failure. -/
theorem trying_failedAttempt (hc : Trying c) (h : List Turn) :
    Trying (run (recording step turn) (c, h) failedAttempt).1 ∧
      (run (recording step turn) (c, h) failedAttempt).2 = h ++ [.failed] := by
  obtain ⟨hstarted, hmanual, hauto, hpending, hconnects, hwaits⟩ := hc
  -- up to the resolver's answer, after the failure, and after the wait
  have hfails : run (recording step turn) (c, h) [.runConnect 0, .resolve 0 false] =
      ({ c with connects := [.resolved false] }, h) := by
    simp [recording, step, turn, TcpClient.runConnect, hstarted, hmanual, hconnects]
  have hwaiting : run (recording step turn) ({ c with connects := [.resolved false] }, h)
      [.runResolved 0] =
      ({ c.growBackoff with
          connects := [], session := none, reconnectPending := true, waits := [.spawned] },
        h ++ [.failed]) := by
    simp [recording, step, turn, endTurn, retries, connectFailed, retry, growBackoff,
      scheduleReconnect,
      hstarted, hmanual, hauto, hpending, hwaits]
  have hagain (b : TcpClient) (h : List Turn) (hstarted : b.started = true)
      (hmanual : b.manualStop = false) (hconnects : b.connects = [])
      (hwaits : b.waits = [.spawned]) :
      run (recording step turn) (b, h) [.runWait 0, .timer 0, .runCompleted 0] =
        ({ b with waits := [], reconnectPending := false, connects := [.spawned] }, h) := by
    simp [recording, step, turn, TcpClient.runWait, waitCompletes, hstarted, hmanual, hconnects,
      hwaits]
  have hrun : run (recording step turn) (c, h) failedAttempt =
      ({ c.growBackoff with
          session := none, waits := [], reconnectPending := false, connects := [.spawned] },
        h ++ [.failed]) := by
    have hsplit : failedAttempt = [.runConnect 0, .resolve 0 false] ++
        ([.runResolved 0] ++ [.runWait 0, .timer 0, .runCompleted 0]) := rfl
    rw [hsplit, run_append, hfails, run_append, hwaiting]
    exact hagain _ _ hstarted hmanual rfl rfl
  rw [hrun]
  exact ⟨⟨hstarted, hmanual, hauto, rfl, rfl, rfl⟩, rfl⟩

/-- Every number of failures is reached. -/
theorem exists_failures (delay delayMax : UInt32) (k : Nat) :
    ∃ es, failures (run (recording step turn) (configured true delay delayMax, []) es).2 = k := by
  have hreached : ∃ es, Trying (run (recording step turn)
        (configured true delay delayMax, []) es).1 ∧
      failures (run (recording step turn) (configured true delay delayMax, []) es).2 = k := by
    induction k with
    | zero => exact ⟨[.start], ⟨rfl, rfl, rfl, rfl, rfl, rfl⟩, rfl⟩
    | succ k ih =>
        obtain ⟨es, htrying, hfailures⟩ := ih
        obtain ⟨hnext, hturns⟩ := trying_failedAttempt htrying
          (run (recording step turn) (configured true delay delayMax, []) es).2
        refine ⟨es ++ failedAttempt, ?_, ?_⟩ <;> rw [run_append]
        · exact hnext
        · rw [hturns, failures_append_failed, hfailures]
  obtain ⟨es, -, hfailures⟩ := hreached
  exact ⟨es, hfailures⟩

/-- The doubling never wraps: the bound is below `2 ^ 31`, and the first delay
is or is doubled past the bound even so. -/
def NeverWraps (delay delayMax : Nat) : Prop :=
  delay = 0 ∨ delayMax < 2 ^ 31 ∧ (delay < 2 ^ 31 ∨ delayMax + 2 ^ 32 ≤ 2 * delay)

theorem toNat_backoffAfter_succ (delay delayMax : UInt32) (k : Nat) :
    (backoffAfter delay delayMax (k + 1)).toNat =
      min ((backoffAfter delay delayMax k).toNat * 2 % 2 ^ 32) delayMax.toNat := by
  rw [backoffAfter, UInt32.toNat_min, UInt32.toNat_mul]
  rfl

theorem delayAfter_succ_le (delay delayMax k : Nat) :
    delayAfter delay delayMax (k + 1) ≤ delayMax :=
  Nat.min_le_right _ _

theorem min_double (a b : Nat) : min (2 * min a b) b = min (2 * a) b := by omega

/-- The computed delay is the bounded one as long as it does not wrap. -/
theorem toNat_backoffAfter {delay delayMax : UInt32}
    (hwraps : NeverWraps delay.toNat delayMax.toNat) (k : Nat) :
    (backoffAfter delay delayMax k).toNat = delayAfter delay.toNat delayMax.toNat k := by
  induction k with
  | zero => rfl
  | succ k ih =>
      have hdelay := delay.toNat_lt
      rw [toNat_backoffAfter_succ, ih]
      cases k with
      | zero =>
          simp only [delayAfter, Nat.zero_add, Nat.pow_one]
          unfold NeverWraps at hwraps
          omega
      | succ k =>
          have hle := delayAfter_succ_le delay.toNat delayMax.toNat k
          have hdouble := min_double (delay.toNat * 2 ^ (k + 1)) delayMax.toNat
          have hpow : delay.toNat * 2 ^ (k + 1 + 1) = 2 * (delay.toNat * 2 ^ (k + 1)) := by ring
          have hzero : delay.toNat = 0 → delayAfter delay.toNat delayMax.toNat (k + 1) = 0 := by
            intro hz
            simp [delayAfter, hz]
          have hnext : delayAfter delay.toNat delayMax.toNat (k + 1 + 1) =
              min (2 * delayAfter delay.toNat delayMax.toNat (k + 1)) delayMax.toNat := by
            rw [delayAfter, delayAfter, hpow, hdouble]
          rw [hnext]
          unfold NeverWraps at hwraps
          omega

/-- A delay that wraps is seen at the first or at the thirty-third failure. -/
theorem neverWraps_of_delayAfter {delay delayMax : UInt32}
    (h : ∀ k, (backoffAfter delay delayMax k).toNat = delayAfter delay.toNat delayMax.toNat k) :
    NeverWraps delay.toNat delayMax.toNat := by
  have hmax := delayMax.toNat_lt
  have hfirst := h 1
  rw [toNat_backoffAfter_succ] at hfirst
  simp only [backoffAfter, delayAfter, Nat.zero_add, Nat.pow_one] at hfirst
  by_cases hzero : delay.toNat = 0
  · exact .inl hzero
  -- after 32 failures the delay is the bound itself, which doubles without wrapping
  have hbound (k : Nat) (hk : 32 ≤ k) :
      delayAfter delay.toNat delayMax.toNat k = delayMax.toNat := by
    obtain ⟨k, rfl⟩ := Nat.exists_eq_add_of_le hk
    have hpow : 2 ^ 32 ≤ delay.toNat * 2 ^ (32 + k) := by
      have hone : 1 ≤ delay.toNat * 2 ^ k := Nat.mul_pos (by omega) (Nat.two_pow_pos k)
      calc 2 ^ 32 ≤ 2 ^ 32 * (delay.toNat * 2 ^ k) := Nat.le_mul_of_pos_right _ hone
        _ = delay.toNat * 2 ^ (32 + k) := by ring
    have hsucc : 32 + k = 31 + k + 1 := by omega
    rw [hsucc] at hpow ⊢
    exact Nat.min_eq_right (hmax.le.trans hpow)
  have hlast := h 33
  rw [toNat_backoffAfter_succ, h 32, hbound 32 (by omega), hbound 33 (by omega)] at hlast
  unfold NeverWraps
  omega

/-- **The delay before an attempt**: it is the first delay doubled for every
failure since the client was started or connected, within the bound; in every
state of every run, precisely if the doubling never wraps. -/
theorem backoff_iff (delay delayMax : UInt32) :
    (∀ es, Always (recording step turn)
      (fun ch => ch.1.currentBackoffMs.toNat =
        delayAfter delay.toNat delayMax.toNat (failures ch.2))
      (configured true delay delayMax, []) es) ↔ NeverWraps delay.toNat delayMax.toNat := by
  have htime (es : List Event) : Always (recording step turn) (OnTime delay delayMax)
      (configured true delay delayMax, []) es :=
    always_of_forall_step ⟨rfl, rfl⟩ fun ch e hch => onTime_step hch e
  constructor
  · intro h
    refine neverWraps_of_delayAfter fun k => ?_
    obtain ⟨es, hk⟩ := exists_failures delay delayMax k
    have hdelay := always_iff_forall_part.mp (h es) es List.prefix_rfl
    have hbackoff := (always_iff_forall_part.mp (htime es) es List.prefix_rfl).2
    rwa [hbackoff, hk] at hdelay
  · intro hwraps es
    exact (htime es).imp fun ch hch => by rw [hch.2, toNat_backoffAfter hwraps]

/-! ## Stopping -/

/-- Nothing that goes on makes a session: no resolve is under way, and none
has succeeded. -/
structure Winding (c : TcpClient) : Prop where
  started : c.started = false
  connects : ∀ stage ∈ c.connects, stage = .spawned ∨ stage = .resolved false

/-- A stop cancels the attempts that have not gone past the resolver. -/
theorem winding_stop (h : ∀ stage ∈ c.connects, stage.pastResolver = false) : Winding c.stop where
  started := rfl
  connects := by
    intro stage hstage
    obtain ⟨stage', hstage', rfl⟩ := List.mem_map.mp hstage
    have hpast := h stage' hstage'
    cases stage' with
    | spawned => exact .inl rfl
    | resolving => exact .inr rfl
    | resolved ok =>
        cases ok with
        | false => exact .inr rfl
        | true => exact Bool.noConfusion hpast
    | connecting => exact Bool.noConfusion hpast

/-- A client that is not started makes no further attempt. -/
theorem retry_of_not_started (h : c.started = false) : c.retry = c := if_neg (by simp [h])

theorem Winding.erase (h : Winding c) (i : Nat) {session : Option Nat} {live : List Nat} :
    Winding { c with connects := c.connects.eraseIdx i, session, live } :=
  ⟨h.started, fun stage hs => h.connects stage (List.mem_of_mem_eraseIdx hs)⟩

/-- After a stop nothing new is made. -/
theorem winding_step (h : Winding c) {e : Event} (he : e ≠ .start) :
    Winding (c.step e) ∧ (c.step e).made = c.made := by
  have hstarted := h.started
  have hconnects {i : Nat} {stage : ConnectStage} (hi : c.connects[i]? = some stage) :=
    h.connects stage (List.mem_of_getElem? hi)
  cases e with
  | start => exact absurd rfl he
  | stop =>
      refine ⟨winding_stop fun stage hstage => ?_, rfl⟩
      obtain rfl | rfl := h.connects stage hstage <;> rfl
  | runConnect i =>
      simp only [step]
      split
      · have hends : c.runConnect i = { c with connects := c.connects.eraseIdx i } :=
          if_pos (by simp [hstarted])
        rw [hends]
        exact ⟨h.erase i, rfl⟩
      · exact ⟨h, rfl⟩
  | resolve i ok =>
      simp only [step]
      split
      next hi => simpa using hconnects hi
      next => exact ⟨h, rfl⟩
  | runResolved i =>
      simp only [step]
      split
      next hi => simpa using hconnects hi
      next =>
        unfold connectFailed
        rw [retry_of_not_started (by exact hstarted)]
        exact ⟨h.erase i, rfl⟩
      next => exact ⟨h, rfl⟩
  | connect i ok nextIndex =>
      simp only [step]
      split
      next hi => simpa using hconnects hi
      next => exact ⟨h, rfl⟩
  | sessionEnds i =>
      simp only [step, TcpClient.sessionEnds]
      split
      · rw [retry_of_not_started (by exact hstarted)]
        exact ⟨⟨hstarted, h.connects⟩, rfl⟩
      · exact ⟨h, rfl⟩
  | runCompleted i =>
      simp only [step, waitCompletes]
      split
      · rw [if_pos (by simp [hstarted])]
        exact ⟨⟨hstarted, h.connects⟩, rfl⟩
      · exact ⟨h, rfl⟩
  | runWait | timer =>
      simp only [step]
      split <;> exact ⟨⟨hstarted, h.connects⟩, rfl⟩

/-- What winds down makes no session. -/
theorem winding_run (h : Winding c) {es : List Event} (hes : .start ∉ es) :
    (run step c es).made = c.made := by
  induction es generalizing c with
  | nil => rfl
  | cons e es ih =>
      obtain ⟨hne, hrest⟩ := not_or.mp (mt List.mem_cons.mpr hes)
      obtain ⟨hnext, hmade⟩ := winding_step h (Ne.symm hne)
      rw [run_cons, ih hnext hrest, hmade]

theorem made_connected (c : TcpClient) (i : Nat) (nextIndex : UInt32) :
    (c.connected i nextIndex).made ≠ c.made := by
  simp only [connected, resetBackoff]
  split <;> simp

/-- **After a stop**: until it is started again, a stopped client makes no
session, precisely if none of its connects is past the resolver when it is
stopped.  A connect that is past it may still make a session, which the stop
does not close. -/
theorem stop_made_iff (c : TcpClient) :
    (∀ es, .start ∉ es → (run step c (.stop :: es)).made = c.made) ↔
      ∀ stage ∈ c.connects, stage.pastResolver = false := by
  constructor
  · intro h stage hstage
    by_contra hpast
    rw [Bool.not_eq_false] at hpast
    obtain ⟨i, hi⟩ := List.mem_iff_getElem?.mp hstage
    have hkept : stage.cancel = stage → c.stop.connects[i]? = some stage := fun hsame => by
      rw [stop, List.getElem?_map, hi, Option.map_some, hsame]
    cases stage with
    | spawned => exact Bool.noConfusion hpast
    | resolving => exact Bool.noConfusion hpast
    | resolved ok =>
        cases ok with
        | false => exact Bool.noConfusion hpast
        | true =>
            have hlt := (List.getElem?_eq_some_iff.mp (hkept rfl)).1
            have hmade := h [.runResolved i, .connect i true 0] (by simp)
            simp only [run_cons, run_nil, step, hkept rfl, List.getElem?_set_self hlt] at hmade
            exact made_connected _ _ _ hmade
    | connecting =>
        have hmade := h [.connect i true 0] (by simp)
        simp only [run_cons, run_nil, step, hkept rfl] at hmade
        exact made_connected _ _ _ hmade
  · intro h es hes
    exact winding_run (winding_stop h) hes

end TcpClient

end GameServer
