import CommunityServers.Foundation.Machine
import CommunityServers.Relay.Handlers

/-!
Contract: the datagrams a running relay forwards.

Owns: the relay as a machine whose events are `link` calls, pool changes and
datagram arrivals, one pump iteration as the effect of an arrival, what is
assumed of the network, what the handlers write into a station after a `link`
call, and the theorem that the two consoles of a link talk through it as if it
were not there.

One arrival, together with the pump iteration that reads it, is one event; the
pumps of all links interleave with each other and with `link` calls freely.

Does not own: iterations that overlap, and how a rewritten station is read.
-/

set_option autoImplicit false

namespace CommunityServers.Relay

open CommunityServers.Foundation
open CommunityServers.Station

structure Datagram where
  source : UDPAddr
  payload : Bytes
deriving DecidableEq, Repr

/-- A datagram the relay sends: the socket it leaves through, its destination
and its payload. -/
structure Sent where
  via : UDPAddr
  dest : UDPAddr
  payload : Bytes
deriving DecidableEq, Repr

/-- The size of the buffer a pump reads into; the rest of a longer datagram is
lost. -/
def pumpBuffer : Nat := 2048

abbrev Learned := AList (fun _ : Bytes × Cell => UDPAddr)

/-- `srcAddr.Store(addr)`. -/
def Pump.store (pump : Pump) (learned : Learned) (datagram : Datagram) : Learned :=
  learned.insert (pump.key, pump.srcAddr) datagram.source

/-- `dstAddr.Load()` and the write to what it returns. -/
def Pump.load (pump : Pump) (learned : Learned) (datagram : Datagram) : List Sent :=
  match learned.lookup (pump.key, pump.dstAddr) with
  | some dst => [⟨pump.output, dst, datagram.payload.take pumpBuffer⟩]
  | none => []

/-- What one iteration sends. -/
def Pump.forward (pump : Pump) (learned : Learned) (datagram : Datagram) : List Sent :=
  pump.load (pump.store learned datagram) datagram

structure RelayState where
  manager : RelayManager
  learned : Learned
  pumps : List Pump
  sockets : List UDPAddr

def RelayState.start (publicHost : Bytes) : RelayState :=
  ⟨newRelayManager publicHost, ∅, [], []⟩

inductive RelayEvent where
  | setHosts (hosts : List Bytes)
  | link (pidA pidB : PID) (listenA listenB : Option Nat)
  | arrive (socket : UDPAddr) (datagram : Datagram)

/-- The goroutine blocked on a socket. -/
def RelayState.reader (state : RelayState) (socket : UDPAddr) : Option Pump :=
  state.pumps.find? fun pump => decide (pump.input = socket)

/-- The store of the pump that reads a socket. -/
def RelayState.store (state : RelayState) (socket : UDPAddr) (datagram : Datagram) :
    RelayState :=
  match state.reader socket with
  | none => state
  | some pump => { state with learned := pump.store state.learned datagram }

def relayStep (parseIP : Bytes → Option Bytes) (state : RelayState) :
    RelayEvent → RelayState
  | .setHosts hosts => { state with manager := state.manager.setHosts hosts }
  | .link pidA pidB listenA listenB =>
      let outcome := state.manager.link parseIP pidA pidB listenA listenB
      { state with
        manager := outcome.manager
        pumps := state.pumps ++ outcome.started
        sockets := state.sockets ++ outcome.opened }
  | .arrive socket datagram => state.store socket datagram

def relayEmit (state : RelayState) : RelayEvent → List Sent
  | .setHosts _ => []
  | .link _ _ _ _ => []
  | .arrive socket datagram =>
      match state.reader socket with
      | none => []
      | some pump => pump.forward state.learned datagram

def relayMachine (parseIP : Bytes → Option Bytes) :
    Machine RelayState RelayEvent Sent where
  step := relayStep parseIP
  emit := relayEmit

/-- What the relay is promised by the network: ports are 16 bits wide, a newly
opened socket differs from every open one, and datagrams arrive on open
sockets. -/
def NetAllows (parseIP : Bytes → Option Bytes) (state : RelayState) :
    RelayEvent → Prop
  | .setHosts _ => True
  | .link pidA pidB listenA listenB =>
      state.manager.links.lookup (pairKey pidA pidB) = none →
        (∀ pa ∈ listenA, pa < 65536 ∧
          ⟨bindIP parseIP state.manager.nextHost, pa⟩ ∉ state.sockets) ∧
        (∀ pb ∈ listenB, pb < 65536 ∧
          ⟨bindIP parseIP state.manager.nextHost, pb⟩ ∉ state.sockets) ∧
        (∀ pa ∈ listenA, ∀ pb ∈ listenB, pa ≠ pb)
  | .arrive socket _ => socket ∈ state.sockets

instance (parseIP : Bytes → Option Bytes) (state : RelayState) (event : RelayEvent) :
    Decidable (NetAllows parseIP state event) := by
  cases event <;> unfold NetAllows <;> infer_instance

/-- The source of the latest datagram that arrived on a socket. -/
def lastArrival (socket : UDPAddr) (events : List RelayEvent) : Option UDPAddr :=
  events.foldl (fun last event =>
    match event with
    | .arrive reached datagram =>
        if reached = socket then some datagram.source else last
    | _ => last) none

theorem lastArrival_arrive (socket reached : UDPAddr) (events : List RelayEvent)
    (datagram : Datagram) :
    lastArrival socket (events ++ [.arrive reached datagram]) =
      if reached = socket then some datagram.source else lastArrival socket events := by
  unfold lastArrival
  rw [List.foldl_append]
  rfl

theorem lastArrival_link (socket : UDPAddr) (events : List RelayEvent) (pidA pidB : PID)
    (listenA listenB : Option Nat) :
    lastArrival socket (events ++ [.link pidA pidB listenA listenB]) =
      lastArrival socket events := by
  unfold lastArrival
  rw [List.foldl_append]
  rfl

theorem lastArrival_setHosts (socket : UDPAddr) (events : List RelayEvent)
    (hosts : List Bytes) :
    lastArrival socket (events ++ [.setHosts hosts]) = lastArrival socket events := by
  unfold lastArrival
  rw [List.foldl_append]
  rfl

/-! ### The invariant -/

def RelayLink.sockets (l : RelayLink) : List UDPAddr := [l.sockA, l.sockB]

/-- A link's sockets carry its ports and are bound to the address it presents,
or to the wildcard address. -/
structure RelayLink.Bound (parseIP : Bytes → Option Bytes) (l : RelayLink) : Prop where
  portA : l.sockA.port = l.portA ∧ l.portA < 65536
  portB : l.sockB.port = l.portB ∧ l.portB < 65536
  sameIP : l.sockA.ip = l.sockB.ip
  presented : l.sockA.ip = ipv4zero ∨ parseIP l.host = some l.sockA.ip

/-- Every link is stored under its pair, its two pumps are running, no socket
has two readers, and each pump has stored the source of the latest datagram on
its input. -/
structure Routed (parseIP : Bytes → Option Bytes) (events : List RelayEvent)
    (state : RelayState) : Prop where
  keyed : ∀ key l, state.manager.links.lookup key = some l →
    key = pairKey l.pidA l.pidB
  bound : ∀ key l, state.manager.links.lookup key = some l → l.Bound parseIP
  running : ∀ key l, state.manager.links.lookup key = some l →
    ∀ pump ∈ l.pumps key, pump ∈ state.pumps
  owned : ∀ pump ∈ state.pumps, ∃ l,
    state.manager.links.lookup pump.key = some l ∧ pump ∈ l.pumps pump.key
  distinct : (state.pumps.map Pump.input).Nodup
  opened : ∀ socket, socket ∈ state.sockets ↔ socket ∈ state.pumps.map Pump.input
  heard : ∀ pump ∈ state.pumps,
    state.learned.lookup (pump.key, pump.srcAddr) = lastArrival pump.input events
  silent : ∀ socket, socket ∉ state.sockets → lastArrival socket events = none
  unlearned : ∀ key cell, state.manager.links.lookup key = none →
    state.learned.lookup (key, cell) = none

theorem mem_pumps_iff {l : RelayLink} {key : Bytes} {pump : Pump} :
    pump ∈ l.pumps key ↔
      pump = ⟨key, l.sockB, l.sockA, .addrA, .addrB⟩ ∨
        pump = ⟨key, l.sockA, l.sockB, .addrB, .addrA⟩ := by
  simp [RelayLink.pumps]

/-- Two pumps of one link that store into one cell are the same pump. -/
theorem pump_eq_of_srcAddr_eq {l : RelayLink} {key : Bytes} {first second : Pump}
    (inFirst : first ∈ l.pumps key) (inSecond : second ∈ l.pumps key)
    (equal : first.srcAddr = second.srcAddr) : first = second := by
  rw [mem_pumps_iff] at inFirst inSecond
  rcases inFirst with rfl | rfl <;> rcases inSecond with rfl | rfl <;>
    first | rfl | cases equal

theorem created_bound (parseIP : Bytes → Option Bytes) (rm : RelayManager)
    (pidA pidB : PID) {pa pb : Nat} (smallA : pa < 65536) (smallB : pb < 65536) :
    (rm.created parseIP pidA pidB pa pb).Bound parseIP := by
  refine ⟨⟨rfl, smallA⟩, ⟨rfl, smallB⟩, rfl, ?_⟩
  show bindIP parseIP rm.nextHost = ipv4zero ∨
    parseIP rm.linkHost = some (bindIP parseIP rm.nextHost)
  unfold bindIP RelayManager.linkHost
  by_cases noHost : rm.nextHost = []
  · left
    simp [noHost]
  · rw [if_pos noHost, if_neg noHost]
    cases parsed : parseIP rm.nextHost with
    | none => exact Or.inl rfl
    | some ip => exact Or.inr rfl

section Reader

variable {parseIP : Bytes → Option Bytes} {events : List RelayEvent} {state : RelayState}

theorem reader_eq_some_iff (distinct : (state.pumps.map Pump.input).Nodup)
    {socket : UDPAddr} {pump : Pump} :
    state.reader socket = some pump ↔ pump ∈ state.pumps ∧ pump.input = socket := by
  constructor
  · intro found
    exact ⟨List.mem_of_find?_eq_some found, by
      simpa using List.find?_some found⟩
  · rintro ⟨member, rfl⟩
    cases found : state.reader pump.input with
    | none =>
        have missed := List.find?_eq_none.mp found pump member
        simp at missed
    | some other =>
        have otherMember := List.mem_of_find?_eq_some found
        have otherInput : other.input = pump.input := by
          simpa using List.find?_some found
        rw [List.inj_on_of_nodup_map distinct otherMember member otherInput]

theorem Routed.reader_of_open (routed : Routed parseIP events state) {socket : UDPAddr}
    (isOpen : socket ∈ state.sockets) :
    ∃ pump, state.reader socket = some pump ∧ pump ∈ state.pumps ∧
      pump.input = socket := by
  have isInput := (routed.opened socket).mp isOpen
  obtain ⟨pump, member, input⟩ := List.mem_map.mp isInput
  exact ⟨pump, (reader_eq_some_iff routed.distinct).mpr ⟨member, input⟩, member, input⟩

theorem routed_start (publicHost : Bytes) :
    Routed parseIP [] (RelayState.start publicHost) := by
  refine ⟨?_, ?_, ?_, ?_, ?_, ?_, ?_, ?_, ?_⟩ <;>
    simp [RelayState.start, newRelayManager, lastArrival]

/-- The invariant reads the links, the pumps, the sockets and the arrivals. -/
theorem Routed.congr (routed : Routed parseIP events state)
    {events' : List RelayEvent} {state' : RelayState}
    (links : state'.manager.links = state.manager.links)
    (learned : state'.learned = state.learned) (pumps : state'.pumps = state.pumps)
    (sockets : state'.sockets = state.sockets)
    (arrivals : ∀ socket, lastArrival socket events' = lastArrival socket events) :
    Routed parseIP events' state' := by
  refine ⟨?_, ?_, ?_, ?_, ?_, ?_, ?_, ?_, ?_⟩ <;>
    simp only [links, learned, pumps, sockets, arrivals]
  · exact routed.keyed
  · exact routed.bound
  · exact routed.running
  · exact routed.owned
  · exact routed.distinct
  · exact routed.opened
  · exact routed.heard
  · exact routed.silent
  · exact routed.unlearned

/-- Different pumps store into different cells. -/
theorem Routed.cell_ne (routed : Routed parseIP events state) {first second : Pump}
    (inFirst : first ∈ state.pumps) (inSecond : second ∈ state.pumps)
    (different : first ≠ second) :
    (first.key, first.srcAddr) ≠ (second.key, second.srcAddr) := by
  intro equal
  obtain ⟨sameKey, sameCell⟩ := Prod.mk.inj equal
  obtain ⟨l, stored, firstOwned⟩ := routed.owned first inFirst
  obtain ⟨l', stored', secondOwned⟩ := routed.owned second inSecond
  rw [sameKey, stored'] at stored
  obtain rfl := Option.some.inj stored
  rw [sameKey] at firstOwned
  exact different (pump_eq_of_srcAddr_eq firstOwned secondOwned sameCell)

/-- An arrival stores one source address and changes nothing else. -/
theorem routed_arrive (routed : Routed parseIP events state) {socket : UDPAddr}
    (isOpen : socket ∈ state.sockets) (datagram : Datagram) :
    Routed parseIP (events ++ [.arrive socket datagram])
      (relayStep parseIP state (.arrive socket datagram)) := by
  obtain ⟨reader, found, readerMember, readerInput⟩ := routed.reader_of_open isOpen
  have next : relayStep parseIP state (.arrive socket datagram) =
      { state with learned := reader.store state.learned datagram } := by
    simp only [relayStep, RelayState.store, found]
  obtain ⟨l, stored, -⟩ := routed.owned reader readerMember
  rw [next]
  refine ⟨routed.keyed, routed.bound, routed.running, routed.owned, routed.distinct,
    routed.opened, ?_, ?_, ?_⟩
  · intro pump member
    rw [lastArrival_arrive]
    show (reader.store state.learned datagram).lookup (pump.key, pump.srcAddr) = _
    by_cases isReader : pump = reader
    · subst isReader
      rw [if_pos readerInput.symm]
      exact AList.lookup_insert _
    · have otherInput : socket ≠ pump.input := by
        intro equal
        apply isReader
        exact List.inj_on_of_nodup_map routed.distinct member readerMember
          (equal.symm.trans readerInput.symm)
      have otherCell := routed.cell_ne member readerMember isReader
      rw [if_neg otherInput, Pump.store, AList.lookup_insert_ne otherCell]
      exact routed.heard pump member
  · intro other closed
    have different : socket ≠ other := by
      intro equal
      exact closed (equal ▸ isOpen)
    rw [lastArrival_arrive, if_neg different]
    exact routed.silent other closed
  · intro key cell missing
    have different : (key, cell) ≠ (reader.key, reader.srcAddr) := by
      intro equal
      have sameKey : key = reader.key := congrArg Prod.fst equal
      rw [sameKey, stored] at missing
      cases missing
    show (reader.store state.learned datagram).lookup (key, cell) = none
    rw [Pump.store, AList.lookup_insert_ne different]
    exact routed.unlearned key cell missing

/-- A new link `l` under a key that was free: its two sockets are new, its two
pumps start, and nothing else changes. -/
structure Created (parseIP : Bytes → Option Bytes) (key : Bytes) (l : RelayLink)
    (state state' : RelayState) : Prop where
  missing : state.manager.links.lookup key = none
  links : state'.manager.links = state.manager.links.insert key l
  learned : state'.learned = state.learned
  pumps : state'.pumps = state.pumps ++ l.pumps key
  sockets : state'.sockets = state.sockets ++ l.sockets
  keyed : key = pairKey l.pidA l.pidB
  bound : l.Bound parseIP
  freshA : l.sockA ∉ state.sockets
  freshB : l.sockB ∉ state.sockets
  apart : l.sockB ≠ l.sockA

section Creation

variable {key : Bytes} {l : RelayLink} {state' : RelayState}

/-- What holds of the links of the old manager and of the new link holds of the
links of the new manager. -/
theorem Created.forall_link (created : Created parseIP key l state state')
    {property : Bytes → RelayLink → Prop} (new : property key l)
    (old : ∀ other stored, state.manager.links.lookup other = some stored →
      property other stored) :
    ∀ other stored, state'.manager.links.lookup other = some stored →
      property other stored := by
  intro other stored found
  rw [created.links] at found
  by_cases isNew : other = key
  · subst isNew
    rw [AList.lookup_insert] at found
    exact Option.some.inj found ▸ new
  · rw [AList.lookup_insert_ne isNew] at found
    exact old other stored found

theorem Created.lookup_old (created : Created parseIP key l state state') {other : Bytes}
    (notNew : other ≠ key) :
    state'.manager.links.lookup other = state.manager.links.lookup other := by
  rw [created.links]
  exact AList.lookup_insert_ne notNew

theorem Created.lookup_new (created : Created parseIP key l state state') :
    state'.manager.links.lookup key = some l := by
  rw [created.links]
  exact AList.lookup_insert _

theorem Created.inputs (created : Created parseIP key l state state') :
    state'.pumps.map Pump.input = state.pumps.map Pump.input ++ [l.sockB, l.sockA] := by
  rw [created.pumps, List.map_append]
  rfl

theorem Created.owned (created : Created parseIP key l state state')
    (routed : Routed parseIP events state) : ∀ pump ∈ state'.pumps, ∃ owner,
      state'.manager.links.lookup pump.key = some owner ∧ pump ∈ owner.pumps pump.key := by
  intro pump member
  rw [created.pumps, List.mem_append] at member
  rcases member with old | new
  · obtain ⟨owner, stored, isOwned⟩ := routed.owned pump old
    have notNew : pump.key ≠ key := by
      intro equal
      rw [equal, created.missing] at stored
      cases stored
    exact ⟨owner, (created.lookup_old notNew).trans stored, isOwned⟩
  · have itsKey : pump.key = key := by
      rcases mem_pumps_iff.mp new with rfl | rfl <;> rfl
    exact ⟨l, itsKey ▸ created.lookup_new, itsKey ▸ new⟩

theorem Created.distinct (created : Created parseIP key l state state')
    (routed : Routed parseIP events state) : (state'.pumps.map Pump.input).Nodup := by
  rw [created.inputs, List.nodup_append]
  refine ⟨routed.distinct, by simp [created.apart], ?_⟩
  rintro input old other new rfl
  have isOpen := (routed.opened input).mpr old
  simp only [List.mem_cons, List.not_mem_nil, or_false] at new
  rcases new with rfl | rfl
  · exact created.freshB isOpen
  · exact created.freshA isOpen

theorem Created.opened (created : Created parseIP key l state state')
    (routed : Routed parseIP events state) (socket : UDPAddr) :
    socket ∈ state'.sockets ↔ socket ∈ state'.pumps.map Pump.input := by
  rw [created.sockets, created.inputs, List.mem_append, List.mem_append, routed.opened]
  simp only [RelayLink.sockets, List.mem_cons, List.not_mem_nil, or_false]
  rw [or_comm (a := socket = l.sockA)]

theorem Created.heard (created : Created parseIP key l state state')
    (routed : Routed parseIP events state) : ∀ pump ∈ state'.pumps,
      state'.learned.lookup (pump.key, pump.srcAddr) = lastArrival pump.input events := by
  intro pump member
  rw [created.learned]
  rw [created.pumps, List.mem_append] at member
  rcases member with old | new
  · exact routed.heard pump old
  · rcases mem_pumps_iff.mp new with rfl | rfl
    · rw [routed.unlearned key .addrA created.missing, routed.silent l.sockB created.freshB]
    · rw [routed.unlearned key .addrB created.missing, routed.silent l.sockA created.freshA]

/-- A new link adds its two sockets, each with one new reader, and has heard
nothing yet. -/
theorem routed_created (routed : Routed parseIP events state)
    (created : Created parseIP key l state state') : Routed parseIP events state' where
  keyed := created.forall_link created.keyed routed.keyed
  bound := created.forall_link created.bound routed.bound
  running := by
    rw [created.pumps]
    exact created.forall_link (fun _ member => List.mem_append_right _ member)
      fun other stored found pump member =>
        List.mem_append_left _ (routed.running other stored found pump member)
  owned := created.owned routed
  distinct := created.distinct routed
  opened := created.opened routed
  heard := created.heard routed
  silent socket closed := by
    rw [created.sockets, List.mem_append, not_or] at closed
    exact routed.silent socket closed.1
  unlearned other cell notStored := by
    have notNew : other ≠ key := by
      rintro rfl
      rw [created.lookup_new] at notStored
      cases notStored
    rw [created.lookup_old notNew] at notStored
    rw [created.learned]
    exact routed.unlearned other cell notStored

end Creation

theorem created_link {pidA pidB : PID} {listenA listenB : Option Nat} {pa pb : Nat}
    (missing : state.manager.links.lookup (pairKey pidA pidB) = none)
    (allowed : NetAllows parseIP state (.link pidA pidB listenA listenB))
    (portA : listenA = some pa) (portB : listenB = some pb)
    (outcome : state.manager.link parseIP pidA pidB listenA listenB =
      ⟨some (state.manager.created parseIP pidA pidB pa pb),
        { state.manager.advance with
          links := state.manager.links.insert (pairKey pidA pidB)
            (state.manager.created parseIP pidA pidB pa pb) },
        [⟨bindIP parseIP state.manager.nextHost, pa⟩,
          ⟨bindIP parseIP state.manager.nextHost, pb⟩],
        (state.manager.created parseIP pidA pidB pa pb).pumps (pairKey pidA pidB)⟩) :
    Created parseIP (pairKey pidA pidB) (state.manager.created parseIP pidA pidB pa pb) state
      (relayStep parseIP state (.link pidA pidB listenA listenB)) := by
  obtain ⟨allowedA, allowedB, apart⟩ := allowed missing
  obtain ⟨smallA, freshA⟩ := allowedA pa portA
  obtain ⟨smallB, freshB⟩ := allowedB pb portB
  refine ⟨missing, ?_, ?_, ?_, ?_, rfl,
    created_bound parseIP state.manager pidA pidB smallA smallB, freshA, freshB, ?_⟩
  · simp [relayStep, outcome]
  · simp [relayStep]
  · simp [relayStep, outcome]
  · simp [relayStep, outcome, RelayLink.sockets, RelayManager.created]
  · intro equal
    exact apart pa portA pb portB (congrArg UDPAddr.port equal).symm

theorem routed_link (routed : Routed parseIP events state) {pidA pidB : PID}
    {listenA listenB : Option Nat}
    (allowed : NetAllows parseIP state (.link pidA pidB listenA listenB)) :
    Routed parseIP (events ++ [.link pidA pidB listenA listenB])
      (relayStep parseIP state (.link pidA pidB listenA listenB)) := by
  have arrivals := fun socket =>
    lastArrival_link socket events pidA pidB listenA listenB
  have cases := link_cases parseIP state.manager pidA pidB listenA listenB
  rcases cases with ⟨l, -, outcome⟩ | ⟨-, -, outcome⟩ |
    ⟨pa, pb, missing, portA, portB, outcome⟩
  · refine routed.congr ?_ ?_ ?_ ?_ arrivals <;> simp [relayStep, outcome]
  · refine routed.congr ?_ ?_ ?_ ?_ arrivals <;> simp [relayStep, outcome]
  · have created := created_link missing allowed portA portB outcome
    exact (routed_created routed created).congr rfl rfl rfl rfl arrivals

theorem routed_step (routed : Routed parseIP events state) {event : RelayEvent}
    (allowed : NetAllows parseIP state event) :
    Routed parseIP (events ++ [event]) (relayStep parseIP state event) := by
  cases event with
  | setHosts hosts =>
      exact routed.congr rfl rfl rfl rfl
        (fun socket => lastArrival_setHosts socket events hosts)
  | link pidA pidB listenA listenB => exact routed_link routed allowed
  | arrive socket datagram => exact routed_arrive routed allowed datagram

/-- What a load sends depends on the latest arrival on the output socket. -/
theorem Routed.load_eq (routed : Routed parseIP events state) {pump : Pump}
    (member : pump ∈ state.pumps) (datagram : Datagram) :
    pump.load state.learned datagram =
      ((lastArrival pump.output events).map fun dest =>
        ⟨pump.output, dest, datagram.payload.take pumpBuffer⟩).toList := by
  obtain ⟨l, stored, inLink⟩ := routed.owned pump member
  have learned : state.learned.lookup (pump.key, pump.dstAddr) =
      lastArrival pump.output events := by
    rcases mem_pumps_iff.mp inLink with equal | equal <;> rw [equal]
    · exact routed.heard ⟨pump.key, l.sockA, l.sockB, .addrB, .addrA⟩
        (routed.running pump.key l stored _ (by simp [RelayLink.pumps]))
    · exact routed.heard ⟨pump.key, l.sockB, l.sockA, .addrA, .addrB⟩
        (routed.running pump.key l stored _ (by simp [RelayLink.pumps]))
  unfold Pump.load
  rw [learned]
  cases lastArrival pump.output events <;> rfl

/-- A pump loads another cell than the one it stores into. -/
theorem Routed.forward_eq_load (routed : Routed parseIP events state) {pump : Pump}
    (member : pump ∈ state.pumps) (datagram : Datagram) :
    pump.forward state.learned datagram = pump.load state.learned datagram := by
  obtain ⟨l, -, inLink⟩ := routed.owned pump member
  have otherCell : (pump.key, pump.dstAddr) ≠ (pump.key, pump.srcAddr) := by
    rcases mem_pumps_iff.mp inLink with equal | equal <;> rw [equal] <;> simp
  unfold Pump.forward Pump.load Pump.store
  rw [AList.lookup_insert_ne otherCell]

end Reader

/-! ### Links, pumps and sockets stay -/

section Persistence

variable {parseIP : Bytes → Option Bytes} {state : RelayState}

theorem step_keeps_link {key : Bytes} {l : RelayLink}
    (stored : state.manager.links.lookup key = some l) (event : RelayEvent) :
    (relayStep parseIP state event).manager.links.lookup key = some l := by
  cases event with
  | setHosts hosts => exact stored
  | arrive socket datagram =>
      simp only [relayStep, RelayState.store]
      split <;> exact stored
  | link pidA pidB listenA listenB => exact link_keeps parseIP stored pidA pidB listenA listenB

theorem step_keeps_pump {pump : Pump} (running : pump ∈ state.pumps)
    (event : RelayEvent) : pump ∈ (relayStep parseIP state event).pumps := by
  cases event with
  | setHosts hosts => exact running
  | arrive socket datagram =>
      simp only [relayStep, RelayState.store]
      split <;> exact running
  | link pidA pidB listenA listenB => exact List.mem_append_left _ running

theorem sockets_store (state : RelayState) (socket : UDPAddr) (datagram : Datagram) :
    (state.store socket datagram).sockets = state.sockets := by
  unfold RelayState.store
  split <;> rfl

theorem step_keeps_socket {socket : UDPAddr} (isOpen : socket ∈ state.sockets)
    (event : RelayEvent) : socket ∈ (relayStep parseIP state event).sockets := by
  cases event with
  | setHosts hosts => exact isOpen
  | arrive reached datagram =>
      rw [relayStep, sockets_store]
      exact isOpen
  | link pidA pidB listenA listenB => exact List.mem_append_left _ isOpen

theorem exec_keeps_link {key : Bytes} {l : RelayLink}
    (stored : state.manager.links.lookup key = some l) (events : List RelayEvent) :
    ((relayMachine parseIP).exec state events).manager.links.lookup key = some l :=
  (relayMachine parseIP).invariant_rule
    (fun reached => reached.manager.links.lookup key = some l) stored
    (fun _ event kept _ => step_keeps_link kept event) events
    ((relayMachine parseIP).guarded_true state events)

theorem exec_keeps_pump {pump : Pump} (running : pump ∈ state.pumps)
    (events : List RelayEvent) :
    pump ∈ ((relayMachine parseIP).exec state events).pumps :=
  (relayMachine parseIP).invariant_rule (fun reached => pump ∈ reached.pumps) running
    (fun _ event kept _ => step_keeps_pump kept event) events
    ((relayMachine parseIP).guarded_true state events)

end Persistence

/-! ### Transparency -/

/-- Asked for the link of a console and the one that is given its station, the
manager has this address for it, and either handler writes it into the station. -/
structure HandsOut (parseIP : Bytes → Option Bytes) (rm : RelayManager)
    (owner receiver : PID) (listenA listenB : Option Nat) (address : Bytes × UInt16) :
    Prop where
  linked : (rm.link parseIP owner receiver listenA listenB).link.map
    (fun link => (link.host, link.endpointFor owner)) = some address
  session : ∀ u orders,
    (sessionURL (rm.link parseIP owner receiver listenA listenB).link owner receiver u
        orders).url =
      (((u.copy orders.1).setAddress address.1).setPortNumber address.2).URL orders.2
  probe : ∀ hostPID stationToProbe target order, isHostLink hostPID owner receiver = true →
    (perTargetStation parseIP hostPID owner receiver stationToProbe rm
        ⟨target, listenA, listenB, order⟩).2 =
      (((newStationURL stationToProbe).setAddress address.1).setPortNumber address.2).URL order

theorem handsOut_of_link {parseIP : Bytes → Option Bytes} {rm : RelayManager}
    {owner receiver : PID} {listenA listenB : Option Nat} {l : RelayLink}
    (success : (rm.link parseIP owner receiver listenA listenB).link = some l) :
    HandsOut parseIP rm owner receiver listenA listenB (l.host, l.endpointFor owner) where
  linked := by rw [success]; rfl
  session u orders := by rw [success]; rfl
  probe hostPID stationToProbe target order hostLink := by
    simp only [perTargetStation, hostLink, if_true, success]
    rfl

/-- The state of a relay after an event list. -/
abbrev relayAfter (parseIP : Bytes → Option Bytes) (publicHost : Bytes)
    (events : List RelayEvent) : RelayState :=
  (relayMachine parseIP).exec (RelayState.start publicHost) events

/-- What the two consoles of link `l` see of the relay in a run. -/
structure TransparentFor (parseIP : Bytes → Option Bytes) (publicHost : Bytes)
    (events : List RelayEvent) (p q : PID) (l : RelayLink) : Prop where
  /-- Whoever asked, in whichever order and through either handler, was given an
  end of `l`, if the call succeeded. -/
  handed : ∀ before after x y listenA listenB,
    events = before ++ .link x y listenA listenB :: after →
    (x = p ∧ y = q) ∨ (x = q ∧ y = p) →
    ((relayAfter parseIP publicHost before).manager.link parseIP x y listenA listenB).link ≠
      none →
    HandsOut parseIP (relayAfter parseIP publicHost before).manager x y listenA listenB
      (l.host, l.endpointFor x)
  /-- Whoever asks from now on is given an end of `l` too. -/
  handedNext : ∀ x y listenA listenB, (x = p ∧ y = q) ∨ (x = q ∧ y = p) →
    HandsOut parseIP (relayAfter parseIP publicHost events).manager x y listenA listenB
      (l.host, l.endpointFor x)
  /-- A datagram on the port handed out for `q` leaves once, unchanged, through
  the port handed out for `p`, to whoever last sent to that port; or it is not
  sent at all when nobody has. -/
  forwarded : ∀ before after socket datagram,
    events = before ++ .arrive socket datagram :: after →
    datagram.payload.length ≤ 2048 →
    socket ∈ l.sockets → socket.port = (l.endpointFor q).toNat →
    ∃ out ∈ l.sockets, out.port = (l.endpointFor p).toNat ∧
      (out.ip = ipv4zero ∨ parseIP l.host = some out.ip) ∧
      relayEmit (relayAfter parseIP publicHost before) (.arrive socket datagram) =
        ((lastArrival out before).map fun dest =>
          ⟨out, dest, datagram.payload⟩).toList
  /-- On every link, what is sent goes through the link's own other socket to
  the latest source heard on that socket. -/
  isolated : ∀ before after socket datagram,
    events = before ++ .arrive socket datagram :: after →
    ∀ key owner, (relayAfter parseIP publicHost events).manager.links.lookup key =
        some owner → socket ∈ owner.sockets →
      ∀ sent ∈ relayEmit (relayAfter parseIP publicHost before) (.arrive socket datagram),
        sent.via ∈ owner.sockets ∧ sent.via ≠ socket ∧
          lastArrival sent.via before = some sent.dest

section Transparent

variable {parseIP : Bytes → Option Bytes} {publicHost : Bytes} {events : List RelayEvent}

theorem routed_exec
    (allowed : (relayMachine parseIP).Guarded (NetAllows parseIP)
      (RelayState.start publicHost) events) :
    Routed parseIP events (relayAfter parseIP publicHost events) :=
  (relayMachine parseIP).history_rule (Routed parseIP) (routed_start publicHost)
    (fun _ _ routed permitted => routed_step routed permitted) events allowed

/-- An open socket is read by a pump of the link that finally owns it. -/
theorem reader_owned {before after : List RelayEvent} {socket : UDPAddr}
    (allowed : (relayMachine parseIP).Guarded (NetAllows parseIP)
      (RelayState.start publicHost) (before ++ after))
    (isOpen : socket ∈ (relayAfter parseIP publicHost before).sockets)
    {key : Bytes} {owner : RelayLink}
    (stored : (relayAfter parseIP publicHost (before ++ after)).manager.links.lookup key =
      some owner)
    (owns : socket ∈ owner.sockets) :
    ∃ pump ∈ owner.pumps key, pump.input = socket ∧
      pump ∈ (relayAfter parseIP publicHost before).pumps ∧
      (relayAfter parseIP publicHost before).reader socket = some pump := by
  have routed := routed_exec allowed
  rw [Machine.guarded_append] at allowed
  have routedBefore := routed_exec allowed.1
  obtain ⟨pump, found, running, input⟩ := routedBefore.reader_of_open isOpen
  have stillRunning : pump ∈ (relayAfter parseIP publicHost (before ++ after)).pumps := by
    rw [relayAfter, Machine.exec_append]
    exact exec_keeps_pump running _
  have ownPump : ∃ own ∈ owner.pumps key, own.input = socket := by
    simp only [RelayLink.sockets, List.mem_cons, List.not_mem_nil, or_false] at owns
    rcases owns with rfl | rfl
    · exact ⟨_, mem_pumps_iff.mpr (Or.inr rfl), rfl⟩
    · exact ⟨_, mem_pumps_iff.mpr (Or.inl rfl), rfl⟩
  obtain ⟨own, ownMember, ownInput⟩ := ownPump
  have isOwn : pump = own :=
    List.inj_on_of_nodup_map routed.distinct stillRunning
      (routed.running key owner stored own ownMember) (input.trans ownInput.symm)
  exact ⟨pump, isOwn ▸ ownMember, input, running, found⟩

/-- What an arrival on a link sends. -/
theorem arrival_reader {before after : List RelayEvent} {socket : UDPAddr}
    {datagram : Datagram}
    (allowed : (relayMachine parseIP).Guarded (NetAllows parseIP)
      (RelayState.start publicHost) events)
    (split : events = before ++ .arrive socket datagram :: after)
    {key : Bytes} {owner : RelayLink}
    (stored : (relayAfter parseIP publicHost events).manager.links.lookup key = some owner)
    (owns : socket ∈ owner.sockets) :
    ∃ pump ∈ owner.pumps key, pump.input = socket ∧
      relayEmit (relayAfter parseIP publicHost before) (.arrive socket datagram) =
        ((lastArrival pump.output before).map fun dest =>
          ⟨pump.output, dest, datagram.payload.take pumpBuffer⟩).toList := by
  subst split
  have parts := (Machine.guarded_append _ _ _ _).mp allowed
  have isOpen : socket ∈ (relayAfter parseIP publicHost before).sockets := parts.2.1
  have routedBefore := routed_exec parts.1
  obtain ⟨pump, member, input, running, found⟩ := reader_owned allowed isOpen stored owns
  refine ⟨pump, member, input, ?_⟩
  simp only [relayEmit, found]
  rw [routedBefore.forward_eq_load running]
  exact routedBefore.load_eq running datagram

/-- The two sockets of a stored link differ, and so do their ports. -/
theorem Routed.ports_ne {state : RelayState} (routed : Routed parseIP events state)
    {key : Bytes} {l : RelayLink} (stored : state.manager.links.lookup key = some l) :
    l.portA ≠ l.portB := by
  have bound := routed.bound key l stored
  intro equal
  have sameSocket : l.sockA = l.sockB := by
    cases hA : l.sockA
    cases hB : l.sockB
    have sameIP := bound.sameIP
    have portA := bound.portA.1
    have portB := bound.portB.1
    simp only [hA, hB] at sameIP portA portB
    simp [sameIP, portA, portB, equal]
  have first := routed.running key l stored _ (mem_pumps_iff.mpr (Or.inl rfl))
  have second := routed.running key l stored _ (mem_pumps_iff.mpr (Or.inr rfl))
  have samePump := List.inj_on_of_nodup_map routed.distinct first second sameSocket.symm
  cases congrArg Pump.srcAddr samePump

theorem toNat_endpointFor {l : RelayLink} (bound : l.Bound parseIP) (target : PID) :
    (l.endpointFor target).toNat = if target = l.pidA then l.portA else l.portB := by
  unfold RelayLink.endpointFor
  split <;> rw [UInt16.toNat_ofNat', Nat.mod_eq_of_lt]
  · exact bound.portA.2
  · exact bound.portB.2

/-- A stored link for two consoles has one of them on each side. -/
theorem Routed.sides {state : RelayState} (routed : Routed parseIP events state)
    {p q : PID} {l : RelayLink}
    (stored : state.manager.links.lookup (pairKey p q) = some l) :
    (l.pidA = p ∧ l.pidB = q) ∨ (l.pidA = q ∧ l.pidB = p) := by
  have keys := routed.keyed _ l stored
  rcases pairKey_eq_iff.mp keys with ⟨first, second⟩ | ⟨first, second⟩
  · exact Or.inl ⟨first.symm, second.symm⟩
  · exact Or.inr ⟨second.symm, first.symm⟩

/-- A link returned earlier in a run is the one stored at its end. -/
theorem returned_eq {before after : List RelayEvent} {x y p q : PID}
    {listenA listenB : Option Nat} {l l' : RelayLink}
    (split : events = before ++ .link x y listenA listenB :: after)
    (pair : (x = p ∧ y = q) ∨ (x = q ∧ y = p))
    (linked : (relayAfter parseIP publicHost events).manager.links.lookup (pairKey p q) = some l)
    (success : ((relayAfter parseIP publicHost before).manager.link parseIP x y
      listenA listenB).link = some l') : l' = l := by
  have kept : (relayAfter parseIP publicHost events).manager.links.lookup (pairKey x y) =
      some l' := by
    rw [relayAfter, split, Machine.exec_append, Machine.exec_cons]
    apply exec_keeps_link
    exact link_stores parseIP success
  rw [pairKey_eq_iff.mpr pair, linked] at kept
  exact (Option.some.inj kept).symm

theorem pump_output_mem {l : RelayLink} {key : Bytes} {pump : Pump}
    (member : pump ∈ l.pumps key) : pump.output ∈ l.sockets := by
  rcases mem_pumps_iff.mp member with rfl | rfl <;> simp [RelayLink.sockets]

theorem pump_input_mem {l : RelayLink} {key : Bytes} {pump : Pump}
    (member : pump ∈ l.pumps key) : pump.input ∈ l.sockets := by
  rcases mem_pumps_iff.mp member with rfl | rfl <;> simp [RelayLink.sockets]

theorem RelayLink.Bound.output_ip {l : RelayLink} (bound : l.Bound parseIP) {key : Bytes}
    {pump : Pump} (member : pump ∈ l.pumps key) :
    pump.output.ip = ipv4zero ∨ parseIP l.host = some pump.output.ip := by
  rcases mem_pumps_iff.mp member with rfl | rfl
  · exact bound.presented
  · rw [← bound.sameIP]
    exact bound.presented

/-- A pump does not send through the socket it reads. -/
theorem Routed.output_ne_input {state : RelayState} (routed : Routed parseIP events state)
    {key : Bytes} {l : RelayLink} (stored : state.manager.links.lookup key = some l)
    {pump : Pump} (member : pump ∈ l.pumps key) : pump.output ≠ pump.input := by
  have portsNe := routed.ports_ne stored
  have bound := routed.bound key l stored
  intro equal
  have ports := congrArg UDPAddr.port equal
  rcases mem_pumps_iff.mp member with rfl | rfl
  · simp only [bound.portA.1, bound.portB.1] at ports
    exact portsNe ports
  · simp only [bound.portA.1, bound.portB.1] at ports
    exact portsNe ports.symm

/-- The pump that reads the port handed out for one console sends through the
port handed out for the other. -/
theorem Routed.output_port {state : RelayState} (routed : Routed parseIP events state)
    {p q : PID} (different : p ≠ q) {l : RelayLink}
    (stored : state.manager.links.lookup (pairKey p q) = some l) {pump : Pump}
    (member : pump ∈ l.pumps (pairKey p q))
    (port : pump.input.port = (l.endpointFor q).toNat) :
    pump.output.port = (l.endpointFor p).toNat := by
  have bound := routed.bound _ l stored
  have portsNe := routed.ports_ne stored
  rw [toNat_endpointFor bound] at port ⊢
  rcases routed.sides stored with ⟨sideA, sideB⟩ | ⟨sideA, sideB⟩
  · rw [sideA, if_neg different.symm] at port
    rw [sideA, if_pos rfl]
    rcases mem_pumps_iff.mp member with rfl | rfl
    · exact bound.portA.1
    · exact absurd (bound.portA.1.symm.trans port) portsNe
  · rw [sideA, if_pos rfl] at port
    rw [sideA, if_neg different]
    rcases mem_pumps_iff.mp member with rfl | rfl
    · exact absurd (bound.portB.1.symm.trans port).symm portsNe
    · exact bound.portB.1

/-- **Relay transparency.** In every run the network allows, the link of two
different consoles is transparent for them. -/
theorem relay_transparentFor (parseIP : Bytes → Option Bytes) (publicHost : Bytes)
    (events : List RelayEvent)
    (allowed : (relayMachine parseIP).Guarded (NetAllows parseIP)
      (RelayState.start publicHost) events)
    (p q : PID) (different : p ≠ q) (l : RelayLink)
    (linked : (relayAfter parseIP publicHost events).manager.links.lookup (pairKey p q) =
      some l) :
    TransparentFor parseIP publicHost events p q l := by
  have routed := routed_exec allowed
  refine ⟨?_, ?_, ?_, ?_⟩
  · intro before after x y listenA listenB split pair succeeded
    obtain ⟨l', success⟩ := Option.ne_none_iff_exists'.mp succeeded
    rw [← returned_eq split pair linked success]
    exact handsOut_of_link success
  · intro x y listenA listenB pair
    rw [← pairKey_eq_iff.mpr pair] at linked
    exact handsOut_of_link (congrArg LinkOutcome.link
      (link_of_stored parseIP linked listenA listenB))
  · intro before after socket datagram split short owns port
    obtain ⟨pump, member, input, sends⟩ := arrival_reader allowed split linked owns
    rw [show datagram.payload.take pumpBuffer = datagram.payload from
      List.take_of_length_le short] at sends
    rw [← input] at port
    exact ⟨pump.output, pump_output_mem member,
      routed.output_port different linked member port,
      (routed.bound _ l linked).output_ip member, sends⟩
  · intro before after socket datagram split key owner stored owns sent emitted
    obtain ⟨pump, member, input, sends⟩ := arrival_reader allowed split stored owns
    rw [sends] at emitted
    simp only [Option.mem_toList, Option.map_eq_some_iff] at emitted
    obtain ⟨dest, heard, rfl⟩ := emitted
    rw [← input]
    exact ⟨pump_output_mem member, routed.output_ne_input stored member, heard⟩

end Transparent

/-- Console 10 asks for console 20 and sends before console 20 has. -/
def pairedRun : List RelayEvent :=
  [.link 10 20 (some 40000) (some 40001),
    .arrive ⟨ipv4zero, 40001⟩ ⟨⟨ascii "192.0.2.10", 5000⟩, [1]⟩,
    .link 20 10 none none,
    .arrive ⟨ipv4zero, 40000⟩ ⟨⟨ascii "192.0.2.20", 6000⟩, [2]⟩,
    .arrive ⟨ipv4zero, 40001⟩ ⟨⟨ascii "192.0.2.10", 5000⟩, [3]⟩]

def pairedLink : RelayLink :=
  ⟨10, 20, ascii "10.0.0.95", ⟨ipv4zero, 40000⟩, ⟨ipv4zero, 40001⟩, 40000, 40001⟩

theorem pairedRun_transparentFor :
    TransparentFor some (ascii "10.0.0.95") pairedRun 20 10 pairedLink :=
  relay_transparentFor some (ascii "10.0.0.95") pairedRun (by decide) 20 10 (by decide)
    pairedLink (by decide)

example : (relayMachine some).log (RelayState.start (ascii "10.0.0.95")) pairedRun =
    [⟨⟨ipv4zero, 40001⟩, ⟨ascii "192.0.2.10", 5000⟩, [2]⟩,
      ⟨⟨ipv4zero, 40000⟩, ⟨ascii "192.0.2.20", 6000⟩, [3]⟩] := by decide

end CommunityServers.Relay
