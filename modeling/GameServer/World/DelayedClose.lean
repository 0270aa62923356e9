import GameServer.Lib.Table
import GameServer.World.SessionRegistry

/-!
# GameServer.World.DelayedClose

The delayed-close reservations of the world runtime and their timers
(`TryReserveDelayedWorldClose_` … `CancelDelayedWorldClose`).

A reservation is made first and armed second; arming starts a timer whose
completion runs later, on its own: with success, also when the reservation
was released after the timer had expired, or with `operation_aborted` after a
cancel.  `timers` holds the waits that have not completed yet.
-/

namespace GameServer

/-- `SessionCloseLogContext`: what a reservation remembers. -/
structure SessionCloseLogContext where
  traceId : UInt64 := 0
  charId : UInt64 := 0
  sid : UInt32 := 0
  serial : UInt32 := 0
  closeReason : WorldSessionCloseReason := .none
deriving DecidableEq, Repr

/-- `DelayedCloseEntry`; timers are numbered. -/
structure DelayedCloseEntry where
  timer : Option Nat := none
  armed : Bool := false
  logCtx : SessionCloseLogContext := {}
deriving DecidableEq, Repr

/-- Which path armed a timer. -/
inductive CloseTimerOrigin where
  | grace
  | kick
deriving DecidableEq, Repr

/-- An outstanding `async_wait`.  Three fields are bookkeeping for the
specification: the connection's session when the timer was armed, how much
the process had put out by then, and whether a reconnect has taken the
session over since. -/
structure CloseTimer where
  id : Nat
  sid : UInt32
  serial : UInt32
  origin : CloseTimerOrigin
  cancelled : Bool := false
  session : Option WorldAuthedSession := none
  outputs : Nat := 0
  takenOver : Bool := false
deriving DecidableEq, Repr

/-- `delayed_world_close_entries_` and the waits on its timers. -/
structure DelayedCloses where
  entries : Table (UInt32 × UInt32) DelayedCloseEntry
  timers : List CloseTimer
  nextTimer : Nat

namespace DelayedCloses

def initial : DelayedCloses where
  entries := .empty
  timers := []
  nextTimer := 0

/-- `TryReserveDelayedWorldClose_`. -/
def tryReserveDelayedWorldClose (d : DelayedCloses) (sid serial : UInt32) :
    Bool × DelayedCloses :=
  if isValidSessionKey sid serial then
    match d.entries (sid, serial) with
    | some _ => (false, d)
    | none => (true, { d with entries := d.entries.set (sid, serial) {} })
  else (false, d)

/-- `ArmReservedDelayedWorldClose_`, up to the start of the wait. -/
def armReservedDelayedWorldClose (d : DelayedCloses) (sid serial : UInt32)
    (origin : CloseTimerOrigin) (traceId charId : UInt64) (reason : WorldSessionCloseReason)
    (session : Option WorldAuthedSession) (outputs : Nat) : Bool × DelayedCloses :=
  if isValidSessionKey sid serial then
    match d.entries (sid, serial) with
    | none => (false, d)
    | some entry =>
        if entry.armed then (false, d)
        else
          (true,
            { entries := d.entries.set (sid, serial)
                { timer := some d.nextTimer
                  armed := true
                  logCtx := ⟨traceId, charId, sid, serial, reason⟩ }
              timers := d.timers ++ [{ id := d.nextTimer, sid, serial, origin, session, outputs }]
              nextTimer := d.nextTimer + 1 })
  else (false, d)

/-- `UpdateReservedDelayedWorldCloseContext_`. -/
def updateReservedDelayedWorldCloseContext (d : DelayedCloses) (sid serial : UInt32)
    (traceId charId : UInt64) : DelayedCloses :=
  if isValidSessionKey sid serial then
    match d.entries (sid, serial) with
    | none => d
    | some entry =>
        { d with
          entries := d.entries.set (sid, serial)
            { entry with logCtx := { entry.logCtx with traceId, charId, sid, serial } } }
  else d

/-- `ReleaseDelayedWorldCloseReservation_`: drop the entry and cancel its
timer. -/
def releaseDelayedWorldCloseReservation (d : DelayedCloses) (sid serial : UInt32) :
    Option DelayedCloseEntry × DelayedCloses :=
  if isValidSessionKey sid serial then
    match d.entries (sid, serial) with
    | none => (none, d)
    | some entry =>
        (some entry,
          { d with
            entries := d.entries.erase (sid, serial)
            timers := d.timers.map fun t =>
              if some t.id = entry.timer then { t with cancelled := true } else t })
  else (none, d)

/-- The first half of a timer's completion: the wait is over, and the entry
goes if it still belongs to this timer. -/
def completeTimer (d : DelayedCloses) (t : CloseTimer) : DelayedCloses :=
  { d with
    timers := d.timers.filter (·.id ≠ t.id)
    entries :=
      match d.entries (t.sid, t.serial) with
      | some entry =>
          if entry.timer = some t.id then d.entries.erase (t.sid, t.serial) else d.entries
      | none => d.entries }

/-- Record that a reconnect took the session of `(sid, serial)` over. -/
def markTakenOver (d : DelayedCloses) (sid serial : UInt32) : DelayedCloses :=
  { d with
    timers := d.timers.map fun t =>
      if t.sid = sid ∧ t.serial = serial then { t with takenOver := true } else t }

end DelayedCloses

end GameServer
