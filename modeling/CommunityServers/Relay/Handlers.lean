import CommunityServers.Foundation.KeyedList
import CommunityServers.Foundation.Machine
import CommunityServers.Relay.Manager
import CommunityServers.Station.StationURL

/-!
Contract: the two handlers of `relay_integration.go` that hand out stations.

Owns:
- `gatheringHostForPID`, `relayGetSessionURLs` and
  `relayRequestProbeInitiationExt`, with every station they hand out;
- the machine of their calls on one relay manager.

The gatherings table and the connections of the endpoint are arguments, the
latter in the order in which they are ranged over. What `FindGatheringByID` of the
matchmaking library returns, whether the query of the call is answered, what the
operating system does during it, and the orders in which `Format` ranges over its
maps come with the call.

Does not own: the packets that carry a station, and the log lines.
-/

set_option autoImplicit false

namespace CommunityServers.Relay

open CommunityServers.Foundation
open CommunityServers.Station

structure Gathering where
  id : UInt32
  hostPID : PID
  participants : List PID
deriving DecidableEq

structure Connection where
  id : UInt32
  pid : PID
  connected : Bool
  defaultPRUDPVersion : Nat
  stationURLs : List StationURL
deriving DecidableEq

/-- The table, whose key is the id, and the connections. -/
structure World where
  gatherings : List Gathering
  connections : List Connection
  distinct : (gatherings.map Gathering.id).Nodup

/-! ### Queries -/

/-- The table as a query finds it, if it is answered. -/
def World.database (world : World) (answered : Bool) : Option (List Gathering) :=
  if answered then some world.gatherings else none

/-- The row that the query of `gatheringHostForPID` returns: of the gatherings
with this participant, the first in descending order of ids. -/
def newestRow (gatherings : List Gathering) (pid : PID) : Option Gathering :=
  (sortByKey (fun gathering => OrderDual.toDual gathering.id.toNat)
    (gatherings.filter fun gathering => gathering.participants.contains pid)).head?

def gatheringHostForPID (database : Option (List Gathering)) (pid : PID) : PID :=
  match database.bind fun gatherings => newestRow gatherings pid with
  | none => 0
  | some gathering => gathering.hostPID

def findConnectionByPID (connections : List Connection) (pid : PID) : Option Connection :=
  connections.find? fun connection => connection.pid == pid && connection.connected

def findConnectionByID (connections : List Connection) (id : UInt32) : Option Connection :=
  connections.find? fun connection => connection.id == id

/-! ### Stations handed out -/

/-- A station of `owner` that `receiver` was given: as it was, and as sent. -/
structure Handout where
  owner : PID
  receiver : PID
  station : StationURL
  url : Bytes

/-- The station with the relay's address for its owner. -/
def RelayLink.rewrite (l : RelayLink) (owner : PID) (station : StationURL) : StationURL :=
  (station.setAddress l.host).setPortNumber (l.endpointFor owner)

inductive HandlerError where
  | invalidArgument
  | gathering
deriving DecidableEq

section Handlers

variable (parseIP : Bytes → Option Bytes)

/-- `FindGatheringByID` of the matchmaking library as one call finds it, with none
for its error. -/
abbrev Lookup := UInt32 → Option Gathering

/-- One of the host's stations: copied, rewritten if there is a link, written. -/
def sessionURL (link : Option RelayLink) (hostPID callerPID : PID) (u : StationURL)
    (orders : Iteration × Iteration) : Handout :=
  let ru := u.copy orders.1
  let sent :=
    match link with
    | none => ru
    | some l => l.rewrite hostPID ru
  ⟨hostPID, callerPID, ru, sent.URL orders.2⟩

def relayGetSessionURLs (findGatheringByID : Lookup) (connections : List Connection)
    (rm : RelayManager) (err : Bool) (callerPID : PID) (gid : UInt32)
    (listenA listenB : Option Nat) (orders : Nat → Iteration × Iteration) :
    RelayManager × Except HandlerError (List Handout) :=
  if err then (rm, .error .invalidArgument)
  else
    match findGatheringByID gid with
    | none => (rm, .error .gathering)
    | some gathering =>
        let hostPID := gathering.hostPID
        match findConnectionByPID connections hostPID with
        | none => (rm, .ok [])
        | some host =>
            let outcome := rm.link parseIP hostPID callerPID listenA listenB
            (outcome.manager,
              .ok (host.stationURLs.mapIdx fun index u =>
                sessionURL outcome.link hostPID callerPID u (orders index)))

/-- A target of a probe request, with what happens while it is handled. -/
structure ProbeTarget where
  target : Bytes
  listenA : Option Nat
  listenB : Option Nat
  order : Iteration

/-- The connection that a target names. -/
def ProbeTarget.connection (target : ProbeTarget) (connections : List Connection) :
    Option Connection :=
  (newStationURL target.target).rvConnectionID.bind (findConnectionByID connections)

def isHostLink (hostPID callerPID targetPID : PID) : Bool :=
  hostPID != 0 && (callerPID == hostPID || targetPID == hostPID)

/-- The station sent to one target, and the manager after its link was asked for. -/
def perTargetStation (hostPID callerPID targetPID : PID) (stationToProbe : Bytes)
    (rm : RelayManager) (target : ProbeTarget) : RelayManager × Bytes :=
  if isHostLink hostPID callerPID targetPID then
    let outcome := rm.link parseIP callerPID targetPID target.listenA target.listenB
    (outcome.manager,
      match outcome.link with
      | none => stationToProbe
      | some l => (l.rewrite callerPID (newStationURL stationToProbe)).URL target.order)
  else (rm, stationToProbe)

/-- One pass of the loop over the targets. -/
def probeTarget (connections : List Connection) (hostPID callerPID : PID)
    (stationToProbe : Bytes) (rm : RelayManager) (target : ProbeTarget) :
    RelayManager × List Handout :=
  match target.connection connections with
  | none => (rm, [])
  | some t =>
      let sent := perTargetStation parseIP hostPID callerPID t.pid stationToProbe rm target
      if t.defaultPRUDPVersion = 0 ∨ t.defaultPRUDPVersion = 1 then
        (sent.1, [⟨callerPID, t.pid, newStationURL stationToProbe, sent.2⟩])
      else (sent.1, [])

/-- The loop of a probe request. -/
def probeMachine (connections : List Connection) (hostPID callerPID : PID)
    (stationToProbe : Bytes) : Machine RelayManager ProbeTarget Handout where
  step rm target := (probeTarget parseIP connections hostPID callerPID stationToProbe rm target).1
  emit rm target := (probeTarget parseIP connections hostPID callerPID stationToProbe rm target).2

def relayRequestProbeInitiationExt (database : Option (List Gathering))
    (connections : List Connection) (rm : RelayManager) (err : Bool) (callerPID : PID)
    (targetList : List ProbeTarget) (stationToProbe : Bytes) :
    RelayManager × Except HandlerError (List Handout) :=
  if err then (rm, .error .invalidArgument)
  else
    let hostPID := gatheringHostForPID database callerPID
    let loop := probeMachine parseIP connections hostPID callerPID stationToProbe
    (loop.exec rm targetList, .ok (loop.log rm targetList))

/-! ### Calls -/

/-- A request of a connected console that could be decoded. -/
inductive Call where
  | getSessionURLs (callerPID : PID) (gid : UInt32) (findGatheringByID : Lookup)
      (listenA listenB : Option Nat) (orders : Nat → Iteration × Iteration)
  | requestProbeInitiationExt (callerPID : PID) (answered : Bool)
      (targetList : List ProbeTarget) (stationToProbe : Bytes)

def handle (world : World) (rm : RelayManager) :
    Call → RelayManager × Except HandlerError (List Handout)
  | .getSessionURLs callerPID gid findGatheringByID listenA listenB orders =>
      relayGetSessionURLs parseIP findGatheringByID world.connections rm false callerPID gid
        listenA listenB orders
  | .requestProbeInitiationExt callerPID answered targetList stationToProbe =>
      relayRequestProbeInitiationExt parseIP (world.database answered) world.connections rm false
        callerPID targetList stationToProbe

/-- The handlers on one relay manager, with every station they hand out. -/
def handlerMachine (world : World) : Machine RelayManager Call Handout where
  step rm call := (handle parseIP world rm call).1
  emit rm call :=
    match (handle parseIP world rm call).2 with
    | .ok handouts => handouts
    | .error _ => []

end Handlers

end CommunityServers.Relay
