import Mathlib.Data.List.Basic
import GameServer.Lib.Run

/-!
# GameServer.Net.TcpClient

A connection that is opened from this side, and opened again when it is lost.

`TcpClient` runs three kinds of coroutine: `connect_loop_` resolves and
connects, the lambda it spawns runs the session, `wait_reconnect_` waits for the
timer.  Each ends by spawning the next one.  They run on two strands and are
stopped and started from a third thread, so what is between two suspensions of
a coroutine is one step.

The timer and the resolver are asio's.  What its documentation says of a
`cancel` is assumed: an operation under way completes with an error, one whose
completion is queued already completes as it would have, and `expires_after`
cancels the waits of the timer.

* `ConnectStage`, `WaitStage` — where a coroutine is suspended
* `TcpClient` — the members, and the coroutines under way
* `configured` — a client as `LineClientHost::Start` sets it up
* `step` — `start`, `stop`, and what the coroutines do when they are resumed
-/

namespace GameServer

/-- Where a `connect_loop_` is: spawned, suspended on the resolver, about to be
resumed from it, suspended on the connect. -/
inductive ConnectStage where
  | spawned
  | resolving
  | resolved (ok : Bool)
  | connecting
deriving DecidableEq, Repr

/-- Where a `wait_reconnect_` is: spawned, suspended on the timer, about to be
resumed from it. -/
inductive WaitStage where
  | spawned
  | waiting
  | completed (ok : Bool)
deriving DecidableEq, Repr

/-- `resolver_.cancel()`: a resolve under way completes with an error. -/
def ConnectStage.cancel : ConnectStage → ConnectStage
  | .resolving => .resolved false
  | stage => stage

/-- A stage that a stop does not cancel, and in which it is not noticed. -/
def ConnectStage.pastResolver : ConnectStage → Bool
  | .resolved true | .connecting => true
  | _ => false

/-- `reconnect_timer_.cancel()`: a wait under way completes with an error. -/
def WaitStage.cancel : WaitStage → WaitStage
  | .waiting => .completed false
  | stage => stage

/-- `TcpClient`.  Sessions are numbered in the order in which they were made;
`live` are those whose `start` has not returned. -/
structure TcpClient where
  started : Bool := false
  manualStop : Bool := false
  autoReconnect : Bool := false
  reconnectPending : Bool := false
  reconnectDelayMs : UInt32 := 1000
  reconnectDelayMaxMs : UInt32 := 10000
  currentBackoffMs : UInt32 := 1000
  clientIndex : UInt32 := 0
  serial : UInt32 := 0
  session : Option Nat := none
  made : List (UInt32 × UInt32) := []
  connects : List ConnectStage := []
  waits : List WaitStage := []
  live : List Nat := []
deriving DecidableEq, Repr

namespace TcpClient

section

variable (c : TcpClient)

/-- `set_auto_reconnect`. -/
def setAutoReconnect (enabled : Bool) : TcpClient := { c with autoReconnect := enabled }

/-- `set_reconnect_delay_ms`. -/
def setReconnectDelayMs (value : UInt32) : TcpClient :=
  { c with reconnectDelayMs := value, currentBackoffMs := value }

/-- `set_reconnect_delay_max_ms`. -/
def setReconnectDelayMaxMs (value : UInt32) : TcpClient := { c with reconnectDelayMaxMs := value }

/-- `reset_backoff_`. -/
def resetBackoff : TcpClient := { c with currentBackoffMs := c.reconnectDelayMs }

/-- `grow_backoff_`: the doubled delay wraps. -/
def growBackoff : TcpClient :=
  { c with currentBackoffMs := min (c.currentBackoffMs * 2) c.reconnectDelayMaxMs }

/-- `start`. -/
def start : TcpClient :=
  let c := { c with manualStop := false }
  if c.started then c
  else
    let c := { c with started := true, reconnectPending := false }.resetBackoff
    { c with connects := c.connects ++ [.spawned] }

/-- `stop`: the session that is closed ends later, like any other. -/
def stop : TcpClient :=
  { c with
    manualStop := true
    started := false
    reconnectPending := false
    waits := c.waits.map WaitStage.cancel
    connects := c.connects.map ConnectStage.cancel
    session := none }

/-- `schedule_reconnect_`. -/
def scheduleReconnect : TcpClient :=
  if !c.autoReconnect || c.manualStop || !c.started || c.reconnectPending then c
  else { c with reconnectPending := true, waits := c.waits ++ [.spawned] }

/-- The end of a session and of a connect that failed. -/
def retry : TcpClient :=
  if !c.manualStop && c.started && c.autoReconnect then c.growBackoff.scheduleReconnect else c

/-- `connect_loop_`, up to the resolver. -/
def runConnect (i : Nat) : TcpClient :=
  if c.manualStop || !c.started then { c with connects := c.connects.eraseIdx i }
  else { c with connects := c.connects.set i .resolving }

/-- The handler of `connect_loop_`. -/
def connectFailed (i : Nat) : TcpClient :=
  { c with connects := c.connects.eraseIdx i, session := none }.retry

/-- `connect_loop_`, from the connect on; `nextIndex` is what
`next_client_index_++` returns. -/
def connected (i : Nat) (nextIndex : UInt32) : TcpClient :=
  let c := { c with connects := c.connects.eraseIdx i }
  let c := if c.clientIndex = 0 then { c with clientIndex := nextIndex } else c
  let c := { c with serial := c.serial + 1 }
  { c with
    session := some c.made.length
    live := c.live ++ [c.made.length]
    made := c.made ++ [(c.clientIndex, c.serial)] }.resetBackoff

/-- The lambda that `connect_loop_` spawns, from the end of the session on. -/
def sessionEnds (i id : Nat) : TcpClient :=
  { c with
    live := c.live.eraseIdx i
    session := if c.session = some id then none else c.session }.retry

/-- `wait_reconnect_`, up to the timer: `expires_after` cancels the waits
before. -/
def runWait (i : Nat) : TcpClient :=
  { c with waits := (c.waits.map WaitStage.cancel).set i .waiting }

/-- `wait_reconnect_`, from the timer on. -/
def waitCompletes (i : Nat) (ok : Bool) : TcpClient :=
  let c := { c with waits := c.waits.eraseIdx i, reconnectPending := false }
  if ok = false || c.manualStop || !c.started then c
  else { c with connects := c.connects ++ [.spawned] }

end

/-- A client as `LineClientHost::Start` sets it up. -/
def configured (autoReconnect : Bool) (reconnectDelayMs reconnectDelayMaxMs : UInt32) :
    TcpClient :=
  ((setAutoReconnect {} autoReconnect).setReconnectDelayMs
    reconnectDelayMs).setReconnectDelayMaxMs reconnectDelayMaxMs

/-- What can happen to a client: it is started and stopped, and its `i`-th
coroutine of a kind goes on. -/
inductive Event where
  | start
  | stop
  | runConnect (i : Nat)
  | resolve (i : Nat) (ok : Bool)
  | runResolved (i : Nat)
  | connect (i : Nat) (ok : Bool) (nextIndex : UInt32)
  | sessionEnds (i : Nat)
  | runWait (i : Nat)
  | timer (i : Nat)
  | runCompleted (i : Nat)
deriving DecidableEq, Repr

/-- One step of a client. -/
def step (c : TcpClient) : Event → TcpClient
  | .start => c.start
  | .stop => c.stop
  | .runConnect i =>
      match c.connects[i]? with
      | some .spawned => c.runConnect i
      | _ => c
  | .resolve i ok =>
      match c.connects[i]? with
      | some .resolving => { c with connects := c.connects.set i (.resolved ok) }
      | _ => c
  | .runResolved i =>
      match c.connects[i]? with
      | some (.resolved true) => { c with connects := c.connects.set i .connecting }
      | some (.resolved false) => c.connectFailed i
      | _ => c
  | .connect i ok nextIndex =>
      match c.connects[i]? with
      | some .connecting => if ok then c.connected i nextIndex else c.connectFailed i
      | _ => c
  | .sessionEnds i =>
      match c.live[i]? with
      | some id => c.sessionEnds i id
      | none => c
  | .runWait i =>
      match c.waits[i]? with
      | some .spawned => c.runWait i
      | _ => c
  | .timer i =>
      match c.waits[i]? with
      | some .waiting => { c with waits := c.waits.set i (.completed true) }
      | _ => c
  | .runCompleted i =>
      match c.waits[i]? with
      | some (.completed ok) => c.waitCompletes i ok
      | _ => c

/-- The coroutines under way. -/
def activities (c : TcpClient) : Nat := c.connects.length + c.waits.length + c.live.length

end TcpClient

end GameServer
