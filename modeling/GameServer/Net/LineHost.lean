import GameServer.Lib.Run
import GameServer.World.TcpServer

/-!
# GameServer.Net.LineHost

A listening line and how many sessions it lets in
(`server_common/runtime/line_host.h`), for the lines that run their tasks at
once, as those of the login and account servers do.

A connection that is over the limit or that the policy does not want is closed,
and its end comes back as the end of any other.

* `onSessionOpen`, `onSessionClose` — the counters;
* `step` — connects, packets, closes and ends of sessions;
* `currentSessions_iff` — the counter is the number of sessions that were let
  in, precisely if no end of a refused one is taken off it;
* `limit_unenforced` — under any limit, any number of sessions can be in.
-/

namespace GameServer

/-- `LineHostStats`, without the starts and stops. -/
structure LineHostStats where
  sessionOpenCount : Nat := 0
  sessionCloseCount : Nat := 0
  sessionRejectCount : Nat := 0
  sessionRejectByLimitCount : Nat := 0
  sessionRejectByPolicyCount : Nat := 0
  currentSessions : Nat := 0
  peakSessions : Nat := 0
deriving DecidableEq, Repr

namespace LineHostStats

/-- `LineHostStats::OnSessionOpen`. -/
def onSessionOpen (st : LineHostStats) : LineHostStats :=
  { st with
    sessionOpenCount := st.sessionOpenCount + 1
    currentSessions := st.currentSessions + 1
    peakSessions := max st.peakSessions (st.currentSessions + 1) }

/-- `LineHostStats::OnSessionClose`: not below 0. -/
def onSessionClose (st : LineHostStats) : LineHostStats :=
  { st with
    sessionCloseCount := st.sessionCloseCount + 1
    currentSessions := st.currentSessions - 1 }

/-- `OnSessionRejectByLimit`. -/
def onSessionRejectByLimit (st : LineHostStats) : LineHostStats :=
  { st with
    sessionRejectCount := st.sessionRejectCount + 1
    sessionRejectByLimitCount := st.sessionRejectByLimitCount + 1 }

/-- `OnSessionRejectByPolicy`. -/
def onSessionRejectByPolicy (st : LineHostStats) : LineHostStats :=
  { st with
    sessionRejectCount := st.sessionRejectCount + 1
    sessionRejectByPolicyCount := st.sessionRejectByPolicyCount + 1 }

end LineHostStats

/-- `LineHost::Config`: 0 is no limit. -/
structure LineHostConfig where
  maxSessions : Nat := 0
  sessionOpenPolicy : UInt32 → Nat → Bool := fun _ _ => true

/-- A hosted line.  `admitted` are the sessions that were let in and have not
ended. -/
structure LineHost where
  tcp : TcpServer := .initial
  sessionSerials : Table UInt32 UInt32 := .empty
  stats : LineHostStats := {}
  admitted : List (UInt32 × UInt32) := []

namespace LineHost

/-- `LineHost::OnSessionOpen`. -/
def onSessionOpen (cfg : LineHostConfig) (st : LineHostStats) (socketIndex : UInt32) :
    Bool × LineHostStats :=
  let next := st.currentSessions + 1
  if 0 < cfg.maxSessions ∧ cfg.maxSessions < next then (false, st.onSessionRejectByLimit)
  else if cfg.sessionOpenPolicy socketIndex next = false then (false, st.onSessionRejectByPolicy)
  else (true, st.onSessionOpen)

/-- `GetLatestSerial`. -/
def getLatestSerial (s : LineHost) (sid : UInt32) : UInt32 := (s.sessionSerials sid).getD 0

/-- `HandleConnected_` and `AcceptClientCheck`. -/
def handleConnected (cfg : LineHostConfig) (s : LineHost) (sid serial : UInt32) : LineHost :=
  let s := { s with sessionSerials := s.sessionSerials.set sid serial }
  match onSessionOpen cfg s.stats sid with
  | (false, stats) => { s with stats, tcp := s.tcp.close sid serial }
  | (true, stats) => { s with stats, admitted := (sid, serial) :: s.admitted }

/-- `HandleDisconnected_` and `CloseClientCheck`; `ShouldHandleClose` compares
the latest serial. -/
def handleDisconnected (s : LineHost) (sid serial : UInt32) : LineHost :=
  let s :=
    if s.getLatestSerial sid = serial then
      { s with stats := s.stats.onSessionClose, admitted := s.admitted.erase (sid, serial) }
    else s
  { s with sessionSerials := s.sessionSerials.eraseMatching sid serial }

/-- What can happen on a line. -/
inductive Event where
  | accept
  | packet (sid serial : UInt32)
  | close (sid serial : UInt32)
  | ends (sid serial : UInt32)
deriving DecidableEq, Repr

/-- One step of a line; the end of a session is handled before its slot is
given back. -/
def step (cfg : LineHostConfig) (s : LineHost) : Event → LineHost
  | .accept =>
      let c := s.tcp.nextConnection
      handleConnected cfg { s with tcp := s.tcp.accept } c.1 c.2
  | .packet sid serial =>
      if s.tcp.isConnected sid serial then
        { s with sessionSerials := s.sessionSerials.set sid serial }
      else s
  | .close sid serial => { s with tcp := s.tcp.close sid serial }
  | .ends sid serial =>
      if s.tcp.isConnected sid serial then
        let s := s.handleDisconnected sid serial
        { s with tcp := s.tcp.terminate sid serial }
      else s

/-- A session that was refused does not end while the counter is above 0. -/
def noRefusedEnd (s : LineHost) : Event → Bool
  | .ends sid serial =>
      !s.tcp.isConnected sid serial || (sid, serial) ∈ s.admitted || s.stats.currentSessions = 0
  | _ => true

/-! ## What is counted -/

variable {cfg : LineHostConfig} {s : LineHost}

/-- The latest serial of a slot is that of its connection. -/
def Known (s : LineHost) : Prop :=
  ∀ sid serial, s.tcp.isConnected sid serial = true → s.sessionSerials sid = some serial

theorem Known.getLatestSerial (h : s.Known) {sid serial : UInt32}
    (hconn : s.tcp.isConnected sid serial = true) : s.getLatestSerial sid = serial := by
  unfold LineHost.getLatestSerial
  rw [h sid serial hconn]
  rfl

theorem known_init : Known {} := fun _ _ h => by cases h

/-- A connection that is announced is known under its serial. -/
theorem known_handleConnected {sid serial : UInt32}
    (hslot : s.tcp.slots sid = some { serial })
    (hother : ∀ sid' serial', sid' ≠ sid → s.tcp.isConnected sid' serial' = true →
      s.sessionSerials sid' = some serial') :
    (handleConnected cfg s sid serial).Known := by
  have hset : Known { s with sessionSerials := s.sessionSerials.set sid serial } := by
    intro sid' serial' hconn
    by_cases hsid : sid' = sid
    · subst hsid
      have hserial : serial = serial' := by simpa [TcpServer.isConnected, hslot] using hconn
      subst hserial
      exact Table.set_self _ _ _
    · exact (Table.set_of_ne _ _ hsid).trans (hother sid' serial' hsid hconn)
  unfold handleConnected
  dsimp only
  split
  · exact fun sid' serial' hconn => hset sid' serial' (by simpa using hconn)
  · exact hset

@[simp] theorem tcp_handleDisconnected (s : LineHost) (sid serial : UInt32) :
    (s.handleDisconnected sid serial).tcp = s.tcp := by
  unfold handleDisconnected
  dsimp only
  split <;> rfl

@[simp] theorem sessionSerials_handleDisconnected (s : LineHost) (sid serial : UInt32) :
    (s.handleDisconnected sid serial).sessionSerials =
      s.sessionSerials.eraseMatching sid serial := by
  unfold handleDisconnected
  dsimp only
  split <;> rfl

/-- The step lemma: every live connection has been announced. -/
theorem known_step (h : s.Known) (e : Event) : (s.step cfg e).Known := by
  cases e with
  | accept =>
      have hslots := TcpServer.slots_accept s.tcp
      refine known_handleConnected ?_ fun sid serial hsid hconn => h sid serial ?_
      · rw [hslots, Table.set_self]
      · dsimp only at hconn
        rwa [TcpServer.isConnected, hslots, Table.set_of_ne _ _ hsid] at hconn
  | packet sid serial =>
      simp only [step]
      split
      next hlive =>
        intro sid' serial' hconn
        by_cases hsid : sid' = sid
        · subst hsid
          rw [← h sid' serial' hconn, h sid' serial hlive]
          exact Table.set_self _ _ _
        · exact (Table.set_of_ne _ _ hsid).trans (h sid' serial' hconn)
      next => exact h
  | close sid serial =>
      intro sid' serial' hconn
      exact h sid' serial' (by simpa [step] using hconn)
  | ends sid serial =>
      simp only [step]
      split
      next hlive =>
        intro sid' serial' hconn
        simp only [tcp_handleDisconnected, TcpServer.isConnected,
          TcpServer.slots_terminate hlive] at hconn
        by_cases hsid : sid' = sid
        · subst hsid
          rw [Table.erase_self] at hconn
          cases hconn
        · rw [Table.erase_of_ne _ hsid] at hconn
          simp only [sessionSerials_handleDisconnected]
          exact Table.eraseMatching_eq_some_iff.mpr ⟨h sid' serial' hconn, fun hc => hsid hc.1⟩
      next => exact h

/-- The admitted sessions are the ones counted. -/
theorem counted_handleConnected (sid serial : UInt32)
    (h : s.stats.currentSessions = s.admitted.length) :
    (handleConnected cfg s sid serial).stats.currentSessions =
      (handleConnected cfg s sid serial).admitted.length := by
  unfold handleConnected onSessionOpen
  dsimp only
  split_ifs
  · exact h
  · exact h
  · exact congrArg (· + 1) h

/-- An end is taken off the counter and off the sessions that were let in. -/
theorem handleDisconnected_of_known {sid serial : UInt32} (h : s.getLatestSerial sid = serial) :
    (s.handleDisconnected sid serial).stats = s.stats.onSessionClose ∧
      (s.handleDisconnected sid serial).admitted = s.admitted.erase (sid, serial) := by
  unfold handleDisconnected
  dsimp only
  rw [if_pos h]
  exact ⟨rfl, rfl⟩

/-- **Session accounting**: in every run the counter of the sessions is the
number of those that were let in and have not ended, in every state, precisely
if no session that was refused ends while the counter is above 0. -/
theorem currentSessions_iff (cfg : LineHostConfig) (es : List Event) :
    Always (step cfg) (fun s => s.stats.currentSessions = s.admitted.length) {} es ↔
      Along (step cfg) (fun s e => s.noRefusedEnd e = true) {} es := by
  refine always_iff_along (W := Known) known_init rfl (fun s e h => known_step h e) ?_
  intro s e h hcount
  cases e with
  | accept => exact iff_of_true (counted_handleConnected _ _ hcount) rfl
  | packet sid serial =>
      refine iff_of_true ?_ rfl
      simp only [step]
      split <;> exact hcount
  | close sid serial => exact iff_of_true hcount rfl
  | ends sid serial =>
      simp only [step, noRefusedEnd]
      split
      next hlive =>
        obtain ⟨hstats, hadmitted⟩ := handleDisconnected_of_known (h.getLatestSerial hlive)
        simp only [hstats, hadmitted, LineHostStats.onSessionClose, List.length_erase, hcount, hlive]
        by_cases hmem : (sid, serial) ∈ s.admitted
        · simp [hmem]
        · simp only [hmem, if_false, Bool.not_true, decide_false, Bool.false_or, Bool.or_self,
            decide_eq_true_eq]
          omega
      next hlive => simp [hlive, hcount]

/-! ## A line without a limit -/

/-- Without a limit and a policy, every session is let in. -/
theorem step_accept_default (s : LineHost) :
    (s.step {} .accept).tcp = s.tcp.accept ∧
      (s.step {} .accept).stats.sessionOpenCount = s.stats.sessionOpenCount + 1 := ⟨rfl, rfl⟩

theorem tcp_step_packet (s : LineHost) (cfg : LineHostConfig) (sid serial : UInt32) :
    (s.step cfg (.packet sid serial)).tcp = s.tcp ∧
      (s.step cfg (.packet sid serial)).stats = s.stats := by
  unfold step
  dsimp only
  split <;> exact ⟨rfl, rfl⟩

/-- A connection that ends goes through one terminate. -/
theorem step_ends_of_connected (s : LineHost) (cfg : LineHostConfig) {sid serial : UInt32}
    (h : s.tcp.isConnected sid serial = true) :
    (s.step cfg (.ends sid serial)).tcp = s.tcp.terminate sid serial ∧
      (s.step cfg (.ends sid serial)).stats.sessionOpenCount = s.stats.sessionOpenCount := by
  unfold step
  dsimp only
  rw [if_pos h]
  refine ⟨by rw [tcp_handleDisconnected], ?_⟩
  unfold handleDisconnected LineHostStats.onSessionClose
  dsimp only
  split <;> rfl

/-- Sessions that were opened stay counted. -/
theorem sessionOpenCount_le_step (cfg : LineHostConfig) (s : LineHost) (e : Event) :
    s.stats.sessionOpenCount ≤ (s.step cfg e).stats.sessionOpenCount := by
  cases e with
  | accept =>
      simp only [step, handleConnected, onSessionOpen]
      split_ifs <;> simp [LineHostStats.onSessionRejectByLimit,
        LineHostStats.onSessionRejectByPolicy, LineHostStats.onSessionOpen]
  | packet sid serial => exact (congrArg _ (tcp_step_packet s cfg sid serial).2).ge
  | close sid serial => exact Nat.le_refl _
  | ends sid serial =>
      by_cases hconn : s.tcp.isConnected sid serial = true
      · exact (step_ends_of_connected s cfg hconn).2.ge
      · rw [step, if_neg hconn]

/-! ## The limit -/

/-- `n` sessions are in, in the first slots, and none of them is to be
closed. -/
structure Filled (limit n : Nat) (s : LineHost) : Prop where
  slotCount : s.tcp.slotCount = UInt32.ofNat (n + 1)
  free : s.tcp.freeList = []
  fresh : ∀ sid : UInt32, n < sid.toNat → s.tcp.slotSerials sid = 0
  current : s.stats.currentSessions = min n limit
  length : s.admitted.length = n
  low : ∀ c ∈ s.admitted, c.1.toNat ≤ n
  live : ∀ c ∈ s.admitted, s.tcp.slots c.1 = some { serial := c.2 }
  own : (s.admitted.map Prod.fst).Nodup

/-- At the start no session is admitted. -/
theorem filled_init (limit : Nat) : Filled limit 0 {} where
  slotCount := rfl
  free := rfl
  fresh _ _ := rfl
  current := (Nat.zero_min limit).symm
  length := rfl
  low c hc := by cases hc
  live c hc := by cases hc
  own := List.nodup_nil

section

variable {limit n : Nat}

theorem Filled.slotCount_toNat (h : Filled limit n s) (hn : n + 1 < 2 ^ 32) :
    s.tcp.slotCount.toNat = n + 1 := by
  rw [h.slotCount, UInt32.toNat_ofNat', Nat.mod_eq_of_lt hn]

/-- A session is let in to the slot after the filled ones. -/
theorem Filled.admit (h : Filled limit n s) (hn : n + 1 < 2 ^ 32) (serial : UInt32) {t : LineHost}
    (hslots : t.tcp.slots = s.tcp.slots.set s.tcp.slotCount { serial })
    (hserials : t.tcp.slotSerials = Function.update s.tcp.slotSerials s.tcp.slotCount serial)
    (hcount : t.tcp.slotCount = s.tcp.slotCount + 1) (hfree : t.tcp.freeList = [])
    (hcurrent : t.stats.currentSessions = min (n + 1) limit)
    (hadmitted : t.admitted = (s.tcp.slotCount, serial) :: s.admitted) :
    Filled limit (n + 1) t := by
  have hidx := h.slotCount_toNat hn
  have hne (c : UInt32 × UInt32) (hc : c ∈ s.admitted) : c.1 ≠ s.tcp.slotCount := fun heq => by
    have hlow := h.low c hc
    rw [heq] at hlow
    omega
  constructor
  · rw [hcount, h.slotCount, UInt32.ofNat_add (n + 1) 1]
    rfl
  · exact hfree
  · intro sid hsid
    rw [hserials, Function.update_of_ne (fun heq => by rw [heq] at hsid; omega)]
    exact h.fresh sid (by omega)
  · exact hcurrent
  · rw [hadmitted, List.length_cons, h.length]
  · intro c hc
    rw [hadmitted] at hc
    rcases List.mem_cons.mp hc with rfl | hold
    · exact hidx.le
    · exact (h.low c hold).trans (Nat.le_succ n)
  · intro c hc
    rw [hadmitted] at hc
    rw [hslots]
    rcases List.mem_cons.mp hc with rfl | hold
    · exact Table.set_self _ _ _
    · rw [Table.set_of_ne _ _ (hne c hold)]
      exact h.live c hold
  · rw [hadmitted, List.map_cons, List.nodup_cons]
    refine ⟨fun hmem => ?_, h.own⟩
    obtain ⟨c, hc, heq⟩ := List.mem_map.mp hmem
    exact hne c hc heq

/-- A line with a limit and no policy. -/
def limited (limit : Nat) : LineHostConfig := { maxSessions := limit }

theorem onSessionOpen_limited (limit : Nat) (st : LineHostStats) (sid : UInt32) :
    onSessionOpen (limited limit) st sid =
      if 0 < limit ∧ limit < st.currentSessions + 1 then (false, st.onSessionRejectByLimit)
      else (true, st.onSessionOpen) := rfl

theorem Filled.fresh_slotCount (h : Filled limit n s) (hn : n + 1 < 2 ^ 32) :
    s.tcp.slotSerials s.tcp.slotCount = 0 :=
  h.fresh _ (by rw [h.slotCount_toNat hn]; exact Nat.lt_succ_self n)

theorem Filled.nextConnection (h : Filled limit n s) (hn : n + 1 < 2 ^ 32) :
    s.tcp.nextConnection = (s.tcp.slotCount, 1) := by
  simp [TcpServer.nextConnection, TcpServer.allocSlot, h.free, h.fresh_slotCount hn]

/-- Below the limit the next session is let in. -/
theorem Filled.accept (h : Filled limit n s) (hn : n + 1 < 2 ^ 32) (hlt : n < limit) :
    Filled limit (n + 1) (s.step (limited limit) .accept) := by
  have hcurrent : s.stats.currentSessions = n := by rw [h.current, Nat.min_eq_left hlt.le]
  have hopen : onSessionOpen (limited limit) s.stats s.tcp.slotCount =
      (true, s.stats.onSessionOpen) := by
    rw [onSessionOpen_limited, if_neg (by omega)]
  simp only [step, handleConnected, h.nextConnection hn, hopen,
    TcpServer.accept_of_free_nil h.free, h.fresh_slotCount hn]
  refine h.admit hn 1 rfl rfl rfl rfl ?_ rfl
  rw [Nat.min_eq_left hlt]
  exact congrArg (· + 1) hcurrent

/-- A line that has refused the session of the slot after the filled ones. -/
def refused (s : LineHost) : LineHost :=
  { s with
    tcp :=
      { slots := s.tcp.slots.set s.tcp.slotCount { serial := 1, closeRequested := true }
        slotSerials := Function.update s.tcp.slotSerials s.tcp.slotCount 1
        freeList := []
        slotCount := s.tcp.slotCount + 1 }
    sessionSerials := s.sessionSerials.set s.tcp.slotCount 1
    stats := s.stats.onSessionRejectByLimit }

/-- At the limit the next connection is refused. -/
theorem Filled.refuse (h : Filled limit n s) (hn : n + 1 < 2 ^ 32) (hpos : 0 < limit)
    (hle : limit ≤ n) : s.step (limited limit) .accept = s.refused := by
  have hcurrent : s.stats.currentSessions = limit := by rw [h.current, Nat.min_eq_right hle]
  have hopen : onSessionOpen (limited limit) s.stats s.tcp.slotCount =
      (false, s.stats.onSessionRejectByLimit) := by
    rw [onSessionOpen_limited, if_pos (by omega)]
  have hne : s.tcp.slotCount ≠ 0 := fun hzero => by
    have hidx := h.slotCount_toNat hn
    rw [hzero] at hidx
    cases hidx
  simp only [step, handleConnected, h.nextConnection hn, hopen,
    TcpServer.accept_of_free_nil h.free, h.fresh_slotCount hn]
  have hset : (s.tcp.slots.set s.tcp.slotCount { serial := 1 }).set s.tcp.slotCount
      { serial := 1, closeRequested := true } =
        s.tcp.slots.set s.tcp.slotCount { serial := 1, closeRequested := true } :=
    Function.update_idem _ _ _
  simp [refused, TcpServer.close, TcpServer.isLive, TcpServer.isConnected, hne, hset]

/-- Its end is taken off the counter all the same. -/
theorem Filled.ends_refused (h : Filled limit n s) (hn : n + 1 < 2 ^ 32) :
    s.refused.step (limited limit) (.ends s.tcp.slotCount 1) =
      { s.refused with
        tcp :=
          { s.refused.tcp with
            slots := s.refused.tcp.slots.erase s.tcp.slotCount
            freeList := [s.tcp.slotCount] }
        sessionSerials := s.refused.sessionSerials.eraseMatching s.tcp.slotCount 1
        stats := s.refused.stats.onSessionClose } := by
  have hconn : s.refused.tcp.isConnected s.tcp.slotCount 1 = true := by
    simp [refused, TcpServer.isConnected]
  have hlatest : s.refused.getLatestSerial s.tcp.slotCount = 1 := by
    simp [refused, getLatestSerial]
  have hout : (s.tcp.slotCount, 1) ∉ s.refused.admitted := fun hmem => by
    have hlow := h.low _ hmem
    rw [h.slotCount_toNat hn] at hlow
    omega
  simp only [step, if_pos hconn, handleDisconnected, if_pos hlatest, TcpServer.terminate,
    List.erase_of_not_mem hout]
  rfl

/-- At the limit the next session is refused, and its end makes room for
another. -/
theorem Filled.acceptRefused (h : Filled limit n s) (hn : n + 1 < 2 ^ 32) (hpos : 0 < limit)
    (hle : limit ≤ n) :
    Filled limit (n + 1) (run (step (limited limit)) s
      [.accept, .ends s.tcp.slotCount 1, .accept]) := by
  rw [run_cons, run_cons, h.refuse hn hpos hle, h.ends_refused hn, run_cons, run_nil]
  set b : LineHost := { s.refused with
    tcp :=
      { s.refused.tcp with
        slots := s.refused.tcp.slots.erase s.tcp.slotCount
        freeList := [s.tcp.slotCount] }
    sessionSerials := s.refused.sessionSerials.eraseMatching s.tcp.slotCount 1
    stats := s.refused.stats.onSessionClose } with hb
  have hcurrent : b.stats.currentSessions + 1 = limit := by
    have hbefore : s.stats.currentSessions = limit := by rw [h.current, Nat.min_eq_right hle]
    simp only [hb, refused, LineHostStats.onSessionClose, LineHostStats.onSessionRejectByLimit]
    omega
  have hserial : b.tcp.slotSerials s.tcp.slotCount = 1 := Function.update_self _ _ _
  have hnext : b.tcp.nextConnection = (s.tcp.slotCount, 2) := by
    simp [TcpServer.nextConnection, TcpServer.allocSlot, hb, refused]
  have hopen : onSessionOpen (limited limit) b.stats s.tcp.slotCount =
      (true, b.stats.onSessionOpen) := by
    rw [onSessionOpen_limited, if_neg (by omega)]
  have hfree : b.tcp.freeList = [s.tcp.slotCount] := rfl
  simp only [step, handleConnected, hnext, hopen, TcpServer.accept_of_free_cons hfree, hserial]
  refine h.admit hn 2 ?_ ?_ rfl rfl ?_ rfl
  · simp only [hb, refused, Table.set, Table.erase, Function.update_idem]
    rfl
  · simp only [hb, refused, Function.update_idem]
    rfl
  · rw [Nat.min_eq_right (hle.trans (Nat.le_succ n))]
    exact hcurrent

/-- Any number of connections that fits the counter can come: induction on it. -/
theorem filled_run (hpos : 0 < limit) (n : Nat) (hn : n < 2 ^ 32) :
    ∃ es, Filled limit n (run (step (limited limit)) {} es) := by
  induction n with
  | zero => exact ⟨[], filled_init limit⟩
  | succ n ih =>
      obtain ⟨es, h⟩ := ih (Nat.lt_of_succ_lt hn)
      by_cases hlt : n < limit
      · refine ⟨es ++ [.accept], ?_⟩
        rw [run_append]
        exact h.accept hn hlt
      · refine ⟨es ++ [.accept, .ends (run (step (limited limit)) {} es).tcp.slotCount 1,
          .accept], ?_⟩
        rw [run_append]
        exact h.acceptRefused hn hpos (Nat.le_of_not_lt hlt)

end

/-- An announced connection is counted only below the limit. -/
theorem currentSessions_le_handleConnected {s : LineHost} (sid serial : UInt32)
    (hpos : 0 < cfg.maxSessions) (h : s.stats.currentSessions ≤ cfg.maxSessions) :
    (handleConnected cfg s sid serial).stats.currentSessions ≤ cfg.maxSessions := by
  unfold handleConnected onSessionOpen
  dsimp only
  split_ifs with hlimit
  · exact h
  · exact h
  · simp only [LineHostStats.onSessionOpen]
    omega

/-- The counter stays within a limit. -/
theorem currentSessions_le_step (hpos : 0 < cfg.maxSessions)
    (h : s.stats.currentSessions ≤ cfg.maxSessions) (e : Event) :
    (s.step cfg e).stats.currentSessions ≤ cfg.maxSessions := by
  cases e with
  | accept => exact currentSessions_le_handleConnected _ _ hpos h
  | packet sid serial =>
      simp only [step]
      split <;> exact h
  | close sid serial => exact h
  | ends sid serial =>
      simp only [step]
      split
      · unfold handleDisconnected
        dsimp only
        split_ifs
        · exact (Nat.sub_le _ _).trans h
        · exact h
      · exact h

/-- **The limit**: the counter never exceeds it, but the number of sessions
that are in is not bounded by it: after some run there are as many as the line
has slots for, none of which is to be closed. -/
theorem limit_unenforced (limit : Nat) (hpos : 0 < limit) :
    (∀ es, Always (step (limited limit)) (fun s => s.stats.currentSessions ≤ limit) {} es) ∧
      ∀ n < 2 ^ 32, ∃ es, let s := run (step (limited limit)) {} es
        s.admitted.length = n ∧ (s.admitted.map Prod.fst).Nodup ∧
          ∀ c ∈ s.admitted, s.tcp.slots c.1 = some { serial := c.2 } := by
  refine ⟨fun es => ?_, fun n hn => ?_⟩
  · have hlimit : 0 < (limited limit).maxSessions := hpos
    exact always_of_forall_step (Nat.zero_le limit) fun s e h => currentSessions_le_step hlimit h e
  · obtain ⟨es, h⟩ := filled_run hpos n hn
    exact ⟨es, h.length, h.own, h.live⟩

/-- Three sessions on a line for one. -/
theorem limit_unenforced_one :
    ∃ es, let s := run (step (limited 1)) {} es
      s.admitted.length = 3 ∧ (s.admitted.map Prod.fst).Nodup ∧
        ∀ c ∈ s.admitted, s.tcp.slots c.1 = some { serial := c.2 } :=
  (limit_unenforced 1 Nat.one_pos).2 3 (by decide)

end LineHost

end GameServer
