import Mathlib.Data.List.AList
import CommunityServers.Foundation.Bytes
import CommunityServers.Foundation.Machine

/-!
Contract: PRUDP connections of the secure endpoints and their session log.

Owns:
- connections with their state and timers, the connection table, and the two
  maps the session log keeps by remote address;
- the goroutines in flight, one for every packet that arrived, every timer that
  ran out and every retransmission that was given up, each with what it does
  next;
- the notes a run leaves: connect events, removals with their cause, reports.

A goroutine takes one step for each of its critical sections: it routes a packet
under the lock of the table, handles it, deletes a connection from the table, cleans
the connection up, and calls back the session log. Steps of all goroutines
interleave freely.

Does not own: payloads, signatures, tickets, and everything a connection is
used for once it is up. Handlers of one connection exclude each other in the
source and may interleave here.
-/

set_option autoImplicit false

namespace CommunityServers.Session

open CommunityServers.Foundation

/-! ### Connections -/

/-- What a connection is found by: endpoint, remote address and virtual port. -/
structure Key where
  endpoint : Nat
  addr : Bytes
  streamType : UInt8
  streamID : UInt8
deriving DecidableEq

inductive ConnectionState where
  | notConnected
  | connecting
  | connected
deriving DecidableEq

/-- A connection. A timer field is `none` before the timer is created and
otherwise says whether it is armed; the counters are armed timers that the
connection no longer refers to. -/
structure Connection where
  key : Key
  state : ConnectionState
  pid : UInt64
  heartbeat : Option Bool
  oldHeartbeats : Nat
  pingKick : Option Bool
  oldPingKicks : Nat

namespace Connection

def new (key : Key) : Connection := ⟨key, .notConnected, 0, none, 0, none, 0⟩

def resetHeartbeat (connection : Connection) : Connection :=
  { connection with
    pingKick := connection.pingKick.map fun _ => false
    heartbeat := connection.heartbeat.map fun _ => true }

def startHeartbeat (connection : Connection) : Connection :=
  { connection with
    heartbeat := some true
    oldHeartbeats :=
      connection.oldHeartbeats + if connection.heartbeat = some true then 1 else 0 }

def stopHeartbeatTimers (connection : Connection) : Connection :=
  { connection with
    pingKick := connection.pingKick.map fun _ => false
    heartbeat := connection.heartbeat.map fun _ => false }

/-- The callback of a heartbeat: after its ping a second timer is started. -/
def startPingKick (connection : Connection) : Connection :=
  { connection with
    pingKick := some true
    oldPingKicks :=
      connection.oldPingKicks + if connection.pingKick = some true then 1 else 0 }

def reset (connection : Connection) : Connection := { connection with state := .notConnected }

def cleanup (connection : Connection) : Connection := connection.reset.stopHeartbeatTimers

/-- What a SYN does to its connection. -/
def greet (connection : Connection) : Connection :=
  { connection.resetHeartbeat.reset with state := .connecting }

/-- A CONNECT that fails after the ticket was read. -/
def identify (pid : UInt64) (connection : Connection) : Connection :=
  { connection.resetHeartbeat with pid := pid }

/-- A CONNECT that succeeds. -/
def accept (pid : UInt64) (connection : Connection) : Connection :=
  { connection.resetHeartbeat with pid := pid, state := .connected }.startHeartbeat

end Connection

/-! ### State and notes -/

/-- Why a connection is removed: a DISCONNECT that was routed to some connection, or
a timer or a retransmission that ran out. -/
inductive Removal where
  | disconnect (sender : Nat)
  | timeout
deriving DecidableEq

inductive Cause where
  | disconnect
  | timeout
deriving DecidableEq

def Removal.cause : Removal → Cause
  | .disconnect _ => .disconnect
  | .timeout => .timeout

/-- What becomes of a CONNECT that finds its connection at least connecting:
an error before or after the PID is known, or acceptance. -/
inductive Ticket where
  | refused
  | refusedAfter (pid : UInt64)
  | accepted (pid : UInt64)
deriving DecidableEq

/-- A packet by what the endpoint does with it; `ack` is any packet with an
acknowledgment flag. -/
inductive Packet where
  | syn
  | connect (ticket : Ticket)
  | data
  | ping
  | disconnect
  | ack
deriving DecidableEq

/-- What a goroutine does next, with the connection it has at hand. -/
inductive Action where
  | handle (id : Nat) (packet : Packet)
  | emitConnect (id : Nat)
  | heartbeat (id : Nat)
  | cleanupConnection (id : Nat) (removal : Removal)
  | cleanup (id : Nat) (removal : Removal)
  | emitDisconnect (id : Nat)
deriving DecidableEq

structure Report where
  connection : Nat
  endpoint : Nat
  pid : UInt64
  addr : Bytes
  duration : Option Nat
  reason : Bytes
deriving DecidableEq

inductive Note where
  | connect (id : Nat)
  | removed (id : Nat) (cause : Cause)
  | report (report : Report)
deriving DecidableEq

def leftReason : Bytes := ascii "client left (clean disconnect)"

def droppedReason : Bytes := ascii "DROPPED (no disconnect packet - network/NAT timeout)"

/-- Every connection ever created in order of creation, the table of those that
packets are routed to, the goroutines, and the maps of the session log. -/
structure SessionState where
  connections : List Connection
  table : AList fun _ : Key => Nat
  pending : List Action
  sessStart : AList fun _ : Bytes => Nat
  sessExplicit : AList fun _ : Bytes => Bool

def SessionState.start : SessionState := ⟨[], ∅, [], ∅, ∅⟩

def SessionState.update (state : SessionState) (id : Nat) (change : Connection → Connection) :
    SessionState :=
  { state with connections := state.connections.modify id change }

def SessionState.explicit (state : SessionState) (addr : Bytes) : Bool :=
  (state.sessExplicit.lookup addr).getD false

/-! ### Session log callbacks -/

def onConnect (now : Nat) (state : SessionState) (addr : Bytes) : SessionState :=
  { state with
    sessStart := state.sessStart.insert addr now
    sessExplicit := state.sessExplicit.erase addr }

def onDisconnect (state : SessionState) (addr : Bytes) : SessionState :=
  { state with sessExplicit := state.sessExplicit.insert addr true }

def onConnectionEnded (now : Nat) (state : SessionState) (id : Nat) (connection : Connection) :
    SessionState × Report :=
  let addr := connection.key.addr
  ({ state with
      sessStart := state.sessStart.erase addr
      sessExplicit := state.sessExplicit.erase addr },
    { connection := id
      endpoint := connection.key.endpoint
      pid := connection.pid
      addr := addr
      duration := (state.sessStart.lookup addr).map fun start => now - start
      reason := if state.explicit addr then leftReason else droppedReason })

/-! ### The endpoint -/

/-- The connection of a key, created if there is none. -/
def getOrSetDefault (state : SessionState) (key : Key) : SessionState × Nat :=
  match state.table.lookup key with
  | some id => (state, id)
  | none =>
      ({ state with
          connections := state.connections ++ [Connection.new key]
          table := state.table.insert key state.connections.length },
        state.connections.length)

/-- What a step of a goroutine leaves: the state, the goroutine's next action if it
has one, and notes. -/
structure Outcome where
  state : SessionState
  next : Option Action
  notes : List Note

/-- A step that ends its goroutine without a note. -/
def Outcome.done (state : SessionState) : Outcome := ⟨state, none, []⟩

/-- A new goroutine, or one that goes on. -/
def SessionState.spawn (state : SessionState) (action : Action) : SessionState :=
  { state with pending := state.pending ++ [action] }

/-- The state with the goroutine back among the others, unless it has ended. -/
def Outcome.after (outcome : Outcome) : SessionState :=
  match outcome.next with
  | none => outcome.state
  | some next => outcome.state.spawn next

/-- A step with a connection that exists. -/
def SessionState.withConnection (state : SessionState) (id : Nat)
    (act : Connection → Outcome) : Outcome :=
  match state.connections[id]? with
  | none => .done state
  | some connection => act connection

def SessionState.stateOf (state : SessionState) (id : Nat) : ConnectionState :=
  (state.connections[id]?.map Connection.state).getD .notConnected

def handleSyn (state : SessionState) (id : Nat) : Outcome :=
  .done (state.update id Connection.greet)

def handleConnect (state : SessionState) (id : Nat) (ticket : Ticket) : Outcome :=
  if state.stateOf id = .notConnected then .done state
  else
    match ticket with
    | .refused => .done (state.update id Connection.resetHeartbeat)
    | .refusedAfter pid => .done (state.update id (Connection.identify pid))
    | .accepted pid => ⟨state.update id (Connection.accept pid), some (.emitConnect id), []⟩

/-- DATA, PING and acknowledgments of a connection that is up. -/
def handleTraffic (state : SessionState) (id : Nat) : Outcome :=
  if state.stateOf id = .connected then .done (state.update id Connection.resetHeartbeat)
  else .done state

/-- A DISCONNECT looks its connection up once more. -/
def handleDisconnect (state : SessionState) (id : Nat) : Outcome :=
  state.withConnection id fun sender =>
    match state.table.lookup sender.key with
    | none => ⟨state, some (.emitDisconnect id), []⟩
    | some found => ⟨state, some (.cleanupConnection found (.disconnect id)), []⟩

def handlePacket (state : SessionState) (id : Nat) : Packet → Outcome
  | .syn => handleSyn state id
  | .connect ticket => handleConnect state id ticket
  | .data => handleTraffic state id
  | .ping => handleTraffic state id
  | .ack => handleTraffic state id
  | .disconnect => handleDisconnect state id

/-- Deletes whatever the table holds under the connection's key; the connection
itself, found or not, is cleaned up next. -/
def cleanupConnection (state : SessionState) (id : Nat) (removal : Removal) : Outcome :=
  state.withConnection id fun connection =>
    ⟨{ state with table := state.table.erase connection.key }, some (.cleanup id removal),
      ((state.table.lookup connection.key).map fun found =>
        Note.removed found removal.cause).toList⟩

/-- What is left to do after a removal: a DISCONNECT is announced. -/
def Removal.next : Removal → Option Action
  | .disconnect sender => some (.emitDisconnect sender)
  | .timeout => none

def cleanup (now : Nat) (state : SessionState) (id : Nat) (removal : Removal) : Outcome :=
  state.withConnection id fun connection =>
    let ended := onConnectionEnded now (state.update id Connection.cleanup) id connection
    ⟨ended.1, removal.next, [.report ended.2]⟩

def emitConnect (now : Nat) (state : SessionState) (id : Nat) : Outcome :=
  state.withConnection id fun connection =>
    ⟨onConnect now state connection.key.addr, none, [.connect id]⟩

def emitDisconnect (state : SessionState) (id : Nat) : Outcome :=
  state.withConnection id fun connection => .done (onDisconnect state connection.key.addr)

def perform (now : Nat) (state : SessionState) : Action → Outcome
  | .handle id packet => handlePacket state id packet
  | .emitConnect id => emitConnect now state id
  | .heartbeat id => .done (state.update id Connection.startPingKick)
  | .cleanupConnection id removal => cleanupConnection state id removal
  | .cleanup id removal => cleanup now state id removal
  | .emitDisconnect id => emitDisconnect state id

/-! ### Timers and goroutines -/

inductive TimerKind where
  | heartbeat
  | oldHeartbeat
  | pingKick
  | oldPingKick
deriving DecidableEq

/-- The connection after an armed timer of it ran out, and what its goroutine does. -/
def Connection.expire (connection : Connection) (id : Nat) :
    TimerKind → Option (Connection × Action)
  | .heartbeat =>
      if connection.heartbeat = some true then
        some ({ connection with heartbeat := some false }, .heartbeat id)
      else none
  | .oldHeartbeat =>
      if 0 < connection.oldHeartbeats then
        some ({ connection with oldHeartbeats := connection.oldHeartbeats - 1 }, .heartbeat id)
      else none
  | .pingKick =>
      if connection.pingKick = some true then
        some ({ connection with pingKick := some false }, .cleanupConnection id .timeout)
      else none
  | .oldPingKick =>
      if 0 < connection.oldPingKicks then
        some ({ connection with oldPingKicks := connection.oldPingKicks - 1 },
          .cleanupConnection id .timeout)
      else none

inductive Event where
  | packet (key : Key) (packet : Packet)
  | expire (id : Nat) (kind : TimerKind)
  | giveUp (id : Nat)
  | run (now : Nat) (index : Nat)

def processPacket (state : SessionState) (key : Key) (packet : Packet) : SessionState :=
  let found := getOrSetDefault state key
  found.1.spawn (.handle found.2 packet)

/-- One step of the goroutine at an index. -/
def runAction (now : Nat) (state : SessionState) (index : Nat) (action : Action) :
    SessionState × List Note :=
  let outcome := perform now { state with pending := state.pending.eraseIdx index } action
  (outcome.after, outcome.notes)

/-- One event; a timer that is not armed, a give-up on a connection that is not
up and a goroutine that is not there do nothing. -/
def sessionStep (state : SessionState) : Event → SessionState × List Note
  | .packet key packet => (processPacket state key packet, [])
  | .expire id kind =>
      match state.connections[id]?.bind fun connection => connection.expire id kind with
      | none => (state, [])
      | some (connection, action) => ((state.update id fun _ => connection).spawn action, [])
  | .giveUp id =>
      if state.stateOf id = .connected then (state.spawn (.cleanupConnection id .timeout), [])
      else (state, [])
  | .run now index =>
      match state.pending[index]? with
      | none => (state, [])
      | some action => runAction now state index action

def sessionMachine : Machine SessionState Event Note where
  step := fun state event => (sessionStep state event).1
  emit := fun state event => (sessionStep state event).2

end CommunityServers.Session
