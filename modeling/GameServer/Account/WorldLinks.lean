import GameServer.Account.RouteTable
import GameServer.Net.LineHost
import GameServer.World.TicketRefusals

/-!
# GameServer.Account.WorldLinks

The world servers at the account server.

A world server keeps a connection to the account server
(`world_runtime_network.cpp`, `world_account_handler.cpp`).  It says hello on
it with its name and address, is told its world id, and from then on is ready
and sends heartbeats.  The connection carries the messages in order, and either
end may lose it before the other notices.

* `AccountLink` — what a world server knows of its connection, with the tasks
  that its network thread has posted;
* `LinkConnection` — a connection and what is under way on it;
* `WorldLinks` — the account server with all of them.
-/

namespace GameServer

open AccountLine (WorldClaim worldClaims)

/-- The name and the address that a world server is set up with. -/
structure WorldIdentity where
  name : String
  host : String
  port : UInt16
deriving DecidableEq, Repr

/-- What a world server sends about its route. -/
inductive RouteMessage where
  | hello (serverName publicHost : String) (publicPort : UInt16)
  | ready (worldId : UInt16) (flags : UInt32)
  | heartbeat (worldId activeZoneCount loadScore : UInt16) (flags : UInt32)
deriving DecidableEq, Repr

/-- `WorldServerRegisterAck`, without the database. -/
structure RegisterAck where
  accepted : Bool
  worldId : UInt16
deriving DecidableEq, Repr

/-- A task of the world server's `WorldAccountHandler`. -/
inductive AccountTask where
  | connected (serial : UInt32)
  | packet (serial : UInt32) (ack : RegisterAck)
  | disconnected (serial : UInt32)
deriving DecidableEq, Repr

/-- The world server's end: `account_ready_` and its fields of `WorldRuntime`,
the serial of `session_serials_`, and `serial_` and `session_` of its
`TcpClient`. -/
structure AccountLink where
  worldId : UInt16 := 0
  flags : UInt32 := 0
  accountReady : Bool := false
  accountSid : UInt32 := 0
  accountSerial : UInt32 := 0
  latestSerial : Option UInt32 := none
  clientSerial : UInt32 := 0
  session : Option Nat := none
  tasks : List AccountTask := []
deriving DecidableEq, Repr

namespace AccountLink

/-- `client_index_`: the first and only client of the process. -/
def clientIndex : UInt32 := 1

/-- `HandleDisconnected_` and `MarkAccountDisconnected_`. -/
def handleDisconnected (w : AccountLink) (serial : UInt32) : AccountLink :=
  let w :=
    if w.latestSerial.getD 0 = serial ∧ w.accountSid = clientIndex ∧ w.accountSerial = serial then
      { w with accountReady := false, accountSid := 0, accountSerial := 0 }
    else w
  if w.latestSerial = some serial then { w with latestSerial := none } else w

end AccountLink

/-- A connection of the world server with number `world`.  `key` is its slot at
the account server, once it is accepted. -/
structure LinkConnection where
  world : Nat
  serial : UInt32
  key : Option (UInt32 × UInt32) := none
  accountOpen : Bool := false
  worldOpen : Bool := true
  toAccount : List RouteMessage := []
  toWorld : List RegisterAck := []
deriving DecidableEq, Repr

/-- The account server, its world line and the world servers.  `claims` are
those of the registry. -/
structure WorldLinks where
  account : AccountLine := {}
  claims : List WorldClaim := []
  line : LineHost := {}
  worlds : Nat → AccountLink := fun _ => {}
  connections : List LinkConnection := []

namespace WorldLinks

/-- `k_service_name_max_len`. -/
def serviceNameMaxLen : Nat := 32

/-- `k_world_host_max_len`. -/
def worldHostMaxLen : Nat := 64

section

variable (ids : Nat → WorldIdentity) (cfg : AccountConfig) (s : WorldLinks)

/-- `SendHelloRegister`. -/
def helloOf (id : WorldIdentity) : RouteMessage :=
  .hello (wireText serviceNameMaxLen id.name) (wireText worldHostMaxLen id.host) id.port

/-! ## The world servers -/

def setWorld (i : Nat) (w : AccountLink) : WorldLinks :=
  { s with worlds := Function.update s.worlds i w }

def modifyConnection (k : Nat) (f : LinkConnection → LinkConnection) : WorldLinks :=
  { s with connections := s.connections.modify k f }

/-- `NetworkEXBase::Send` of a client. -/
def send (i : Nat) (serial : UInt32) (m : RouteMessage) : WorldLinks :=
  if (s.worlds i).latestSerial.any (· ≠ serial) then s
  else
    match (s.worlds i).session with
    | none => s
    | some k => s.modifyConnection k fun c => { c with toAccount := c.toAccount ++ [m] }

/-- `OnAccountRegisterAckFromHandler`: the world is ready whether or not its
database is. -/
def onAccountRegisterAck (i : Nat) (serial : UInt32) (ack : RegisterAck) : WorldLinks :=
  let w := { s.worlds i with
    accountSid := AccountLink.clientIndex
    accountSerial := serial
    accountReady := true
    worldId := ack.worldId
    flags := 3 }
  let s := s.setWorld i w
  if isValidSessionKey AccountLink.clientIndex serial then
    s.send i serial (.ready w.worldId w.flags)
  else s

/-- A task of the world server. -/
def runTask (i : Nat) : AccountTask → WorldLinks
  | .connected serial =>
      let s := s.setWorld i { s.worlds i with latestSerial := some serial }
      s.send i serial (helloOf (ids i))
  | .packet serial ack =>
      let s := s.setWorld i { s.worlds i with latestSerial := some serial }
      if ack.accepted then s.onAccountRegisterAck i serial ack else s
  | .disconnected serial => s.setWorld i (((s.worlds i).handleDisconnected serial))

/-- `SendAccountRouteHeartbeat_`. -/
def sendAccountRouteHeartbeat (i : Nat) (activeZoneCount loadScore : UInt16) : WorldLinks :=
  let w := s.worlds i
  if w.accountReady && isValidSessionKey w.accountSid w.accountSerial then
    s.send i w.accountSerial (.heartbeat w.worldId activeZoneCount loadScore w.flags)
  else s

/-- `connect_loop_`, once connected. -/
def connect (i : Nat) : WorldLinks :=
  let w := s.worlds i
  let serial := w.clientSerial + 1
  let s := s.setWorld i { w with
    clientSerial := serial
    session := some s.connections.length
    tasks := w.tasks ++ [.connected serial] }
  { s with connections := s.connections ++ [{ world := i, serial }] }

/-- The world server's end of a connection is gone. -/
def worldEnds (k : Nat) (c : LinkConnection) : WorldLinks :=
  let w := s.worlds c.world
  let s := s.setWorld c.world { w with
    session := if w.session = some k then none else w.session
    tasks := w.tasks ++ [.disconnected c.serial] }
  s.modifyConnection k fun c => { c with worldOpen := false }

/-! ## The account server -/

/-- The account server takes a step. -/
def accountStep (e : AccountLine.Event) : WorldLinks :=
  { s with
    account := s.account.step cfg e
    claims := s.claims ++ s.account.worldClaims cfg e }

/-- `SendRegisterAck`. -/
def sendRegisterAck (sid serial : UInt32) (ack : RegisterAck) : WorldLinks :=
  if s.line.tcp.send sid serial then
    { s with connections := s.connections.map fun c =>
        if c.accountOpen && c.key = some (sid, serial) then { c with toWorld := c.toWorld ++ [ack] }
        else c }
  else s

/-- `AccountWorldHandler::DataAnalysis` of a message about the route. -/
def onRouteMessage (now : Nat) (sid serial : UInt32) : RouteMessage → WorldLinks
  | .hello serverName publicHost publicPort =>
      let s := s.accountStep cfg (.worldHello now sid serial serverName publicHost publicPort)
      match cfg.configuredWorldsByName serverName with
      | none => s.sendRegisterAck sid serial { accepted := false, worldId := 0 }
      | some entry => s.sendRegisterAck sid serial { accepted := true, worldId := entry.worldId }
  | .ready worldId flags => s.accountStep cfg (.worldReady now sid serial worldId flags)
  | .heartbeat worldId activeZoneCount loadScore flags =>
      s.accountStep cfg (.worldHeartbeat now sid serial worldId activeZoneCount loadScore flags)

/-- The accept loop of the world line. -/
def accept (k : Nat) : WorldLinks :=
  let key := s.line.tcp.nextConnection
  let s := { s with line := s.line.step {} .accept }
  s.modifyConnection k fun c => { c with key := some key, accountOpen := true }

/-- The next message of a connection is read. -/
def accountReads (now k : Nat) (c : LinkConnection) (sid serial : UInt32) : WorldLinks :=
  match c.toAccount with
  | [] => s
  | m :: rest =>
      let s := s.modifyConnection k fun c => { c with toAccount := rest }
      let s := { s with line := s.line.step {} (.packet sid serial) }
      s.onRouteMessage cfg now sid (s.line.getLatestSerial sid) m

/-- The account server's end of a connection is gone. -/
def accountEnds (k : Nat) (sid serial : UInt32) : WorldLinks :=
  let s' :=
    if s.line.getLatestSerial sid = serial then s.accountStep cfg (.worldDisconnected sid serial)
    else s
  let s' := { s' with line := s'.line.step {} (.ends sid serial) }
  s'.modifyConnection k fun c => { c with accountOpen := false }

/-- The connections that `ExpireStaleWorldRoutes_` closes. -/
def staleSessions (now : Nat) : List (UInt32 × UInt32) :=
  (s.account.worldsBySid.entries.filter fun e =>
    e.2.lastHeartbeatAt + cfg.worldRouteHeartbeatTimeout ≤ now).map fun e => (e.2.sid, e.2.serial)

/-- `ExpireStaleWorldRoutes_`. -/
def expireStaleWorldRoutes (now : Nat) : WorldLinks :=
  let line := (s.staleSessions cfg now).foldl (fun l c => l.step {} (.close c.1 c.2)) s.line
  { s.accountStep cfg (.expireStaleWorldRoutes now) with line }

end

/-- What happens next: world server `i` connects, sends a heartbeat, or runs
its next task; an end of connection `k` accepts it, reads its next message, or
is gone; or the account server does something else. -/
inductive Event where
  | connect (i : Nat)
  | heartbeat (i : Nat) (activeZoneCount loadScore : UInt16)
  | worldRuns (i : Nat)
  | worldReads (k : Nat)
  | worldEnds (k : Nat)
  | accept (k : Nat)
  | accountReads (now k : Nat)
  | accountEnds (k : Nat)
  | expireStaleWorldRoutes (now : Nat)
  | account (e : AccountLine.Event)

/-- One step of the servers. -/
def step (ids : Nat → WorldIdentity) (cfg : AccountConfig) (s : WorldLinks) : Event → WorldLinks
  | .connect i => if (s.worlds i).session = none then s.connect i else s
  | .heartbeat i activeZoneCount loadScore =>
      s.sendAccountRouteHeartbeat i activeZoneCount loadScore
  | .worldRuns i =>
      match (s.worlds i).tasks with
      | [] => s
      | t :: rest => (s.setWorld i { s.worlds i with tasks := rest }).runTask ids i t
  | .worldReads k =>
      match s.connections[k]? with
      | some { world := i, serial, worldOpen := true, toWorld := ack :: rest, .. } =>
          let w := s.worlds i
          let s := s.modifyConnection k fun c => { c with toWorld := rest }
          s.setWorld i { w with tasks := w.tasks ++ [.packet serial ack] }
      | _ => s
  | .worldEnds k =>
      match s.connections[k]? with
      | some c => if c.worldOpen then s.worldEnds k c else s
      | none => s
  | .accept k =>
      match s.connections[k]? with
      | some { key := none, .. } => s.accept k
      | _ => s
  | .accountReads now k =>
      match s.connections[k]? with
      | some c =>
          match c.key, c.accountOpen with
          | some (sid, serial), true => s.accountReads cfg now k c sid serial
          | _, _ => s
      | none => s
  | .accountEnds k =>
      match s.connections[k]? with
      | some c =>
          match c.key, c.accountOpen with
          | some (sid, serial), true => s.accountEnds cfg k sid serial
          | _, _ => s
      | none => s
  | .expireStaleWorldRoutes now => s.expireStaleWorldRoutes cfg now
  | .account e => if AccountLine.isRouteEvent e then s else s.accountStep cfg e

end WorldLinks

end GameServer
