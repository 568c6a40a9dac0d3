import CommunityServers.Relay.Forwarding

/-!
Contract: pump iterations that overlap.

Owns:
- the relay with every pump at its own place in its loop, so that other pumps,
  `link` calls and pool changes come between a read, its store and its load;
- that the iterations that do not overlap are the arrivals of
  `Relay.Forwarding`;
- that the stores, as arrivals, leave the memory that the pumps share;
- the theorem that the two consoles of a link talk through it as if it were not
  there, in every interleaving.

The write that follows a load touches nothing that is shared and is part of it.

Does not own: the promises of the network, which are those of
`Relay.Forwarding`.
-/

set_option autoImplicit false

namespace CommunityServers.Relay

open CommunityServers.Foundation

/-! ### Pumps -/

/-- What a pump does next. -/
inductive PumpPC where
  | read
  | store (datagram : Datagram)
  | load (datagram : Datagram)
deriving DecidableEq, Repr

/-- The datagram that a pump has read and not yet passed on. -/
def PumpPC.held : PumpPC → List Datagram
  | .read => []
  | .store datagram => [datagram]
  | .load datagram => [datagram]

/-- The relay, and where the pump that reads a socket is. -/
structure PumpingState where
  relay : RelayState
  pc : UDPAddr → PumpPC

/-- Every pump waits for a datagram. -/
def PumpingState.waiting (relay : RelayState) : PumpingState := ⟨relay, fun _ => .read⟩

inductive PumpingEvent where
  | setHosts (hosts : List Bytes)
  | link (pidA pidB : PID) (listenA listenB : Option Nat)
  | read (socket : UDPAddr) (datagram : Datagram)
  | run (socket : UDPAddr)

/-- `in.ReadFromUDP(buf)` returns only to a pump that waits for it; a pump that
waits does not run. -/
def pumpingStep (parseIP : Bytes → Option Bytes) (state : PumpingState) :
    PumpingEvent → PumpingState
  | .setHosts hosts =>
      { state with relay := relayStep parseIP state.relay (.setHosts hosts) }
  | .link pidA pidB listenA listenB =>
      { state with relay := relayStep parseIP state.relay (.link pidA pidB listenA listenB) }
  | .read socket datagram =>
      match state.pc socket with
      | .read => { state with pc := Function.update state.pc socket (.store datagram) }
      | .store _ => state
      | .load _ => state
  | .run socket =>
      match state.pc socket with
      | .read => state
      | .store datagram =>
          ⟨state.relay.store socket datagram,
            Function.update state.pc socket (.load datagram)⟩
      | .load _ => { state with pc := Function.update state.pc socket .read }

/-- The load of the pump that reads a socket. -/
def RelayState.load (state : RelayState) (socket : UDPAddr) (datagram : Datagram) :
    List Sent :=
  match state.reader socket with
  | none => []
  | some pump => pump.load state.learned datagram

def pumpingEmit (state : PumpingState) : PumpingEvent → List Sent
  | .run socket =>
      match state.pc socket with
      | .load datagram => state.relay.load socket datagram
      | .store _ => []
      | .read => []
  | .setHosts _ => []
  | .link _ _ _ _ => []
  | .read _ _ => []

def pumpingMachine (parseIP : Bytes → Option Bytes) :
    Machine PumpingState PumpingEvent Sent where
  step := pumpingStep parseIP
  emit := pumpingEmit

/-- The promises of `NetAllows`, and that a datagram is read by a pump that waits
for it. -/
def PumpingAllows (parseIP : Bytes → Option Bytes) (state : PumpingState) :
    PumpingEvent → Prop
  | .setHosts hosts => NetAllows parseIP state.relay (.setHosts hosts)
  | .link pidA pidB listenA listenB =>
      NetAllows parseIP state.relay (.link pidA pidB listenA listenB)
  | .read socket datagram =>
      NetAllows parseIP state.relay (.arrive socket datagram) ∧ state.pc socket = .read
  | .run _ => True

instance (parseIP : Bytes → Option Bytes) (state : PumpingState) (event : PumpingEvent) :
    Decidable (PumpingAllows parseIP state event) := by
  cases event <;> unfold PumpingAllows <;> infer_instance

abbrev pumpingAfter (parseIP : Bytes → Option Bytes) (publicHost : Bytes)
    (events : List PumpingEvent) : PumpingState :=
  (pumpingMachine parseIP).exec (.waiting (RelayState.start publicHost)) events

/-! ### Iterations that do not overlap -/

/-- An arrival as an iteration that nothing comes between. -/
def RelayEvent.iteration : RelayEvent → List PumpingEvent
  | .setHosts hosts => [.setHosts hosts]
  | .link pidA pidB listenA listenB => [.link pidA pidB listenA listenB]
  | .arrive socket datagram => [.read socket datagram, .run socket, .run socket]

section Serial

variable (parseIP : Bytes → Option Bytes)

theorem exec_iteration (relay : RelayState) (event : RelayEvent) :
    (pumpingMachine parseIP).exec (.waiting relay) event.iteration =
      .waiting (relayStep parseIP relay event) := by
  cases event with
  | setHosts hosts => rfl
  | link pidA pidB listenA listenB => rfl
  | arrive socket datagram =>
      simp only [RelayEvent.iteration, Machine.exec_cons, Machine.exec_nil, pumpingMachine,
        pumpingStep, PumpingState.waiting, Function.update_self, Function.update_idem, relayStep]
      rw [Function.update_eq_self_iff.mpr rfl]

theorem log_iteration (relay : RelayState) (event : RelayEvent) :
    (pumpingMachine parseIP).log (.waiting relay) event.iteration = relayEmit relay event := by
  cases event with
  | setHosts hosts => rfl
  | link pidA pidB listenA listenB => rfl
  | arrive socket datagram =>
      simp only [RelayEvent.iteration, Machine.log, pumpingMachine, pumpingStep, pumpingEmit,
        PumpingState.waiting, Function.update_self, List.nil_append, List.append_nil]
      unfold RelayState.load RelayState.store relayEmit
      cases found : relay.reader socket with
      | none => simp only [found]
      | some pump =>
          have same : RelayState.reader
              { relay with learned := pump.store relay.learned datagram } socket =
                some pump := found
          simp only [same, found]
          rfl

/-- **Serial runs.** When each iteration ends before anything else happens, the
pumps send what the relay sends. -/
theorem log_serial (relay : RelayState) (events : List RelayEvent) :
    (pumpingMachine parseIP).log (.waiting relay) (events.flatMap RelayEvent.iteration) =
      (relayMachine parseIP).log relay events := by
  induction events generalizing relay with
  | nil => rfl
  | cons event rest inductionHypothesis =>
      rw [List.flatMap_cons, Machine.log_append, exec_iteration, log_iteration,
        inductionHypothesis]
      rfl

end Serial

/-! ### The shared memory -/

/-- What a step is to the memory that the pumps share: a store is an arrival. -/
def PumpingState.effect (state : PumpingState) : PumpingEvent → List RelayEvent
  | .setHosts hosts => [.setHosts hosts]
  | .link pidA pidB listenA listenB => [.link pidA pidB listenA listenB]
  | .read _ _ => []
  | .run socket =>
      match state.pc socket with
      | .store datagram => [.arrive socket datagram]
      | .load _ => []
      | .read => []

/-- The stores of a run, with its `link` calls and pool changes. -/
def effects (parseIP : Bytes → Option Bytes) (publicHost : Bytes)
    (events : List PumpingEvent) : List RelayEvent :=
  ((pumpingMachine parseIP).observing PumpingState.effect).log
    (.waiting (RelayState.start publicHost)) events

section Memory

variable {parseIP : Bytes → Option Bytes} {publicHost : Bytes} {state : PumpingState}

theorem relay_pumpingStep (event : PumpingEvent) :
    (pumpingStep parseIP state event).relay =
      (relayMachine parseIP).exec state.relay (state.effect event) := by
  cases event with
  | setHosts hosts => rfl
  | link pidA pidB listenA listenB => rfl
  | read socket datagram =>
      simp only [pumpingStep, PumpingState.effect]
      cases state.pc socket <;> rfl
  | run socket =>
      simp only [pumpingStep, PumpingState.effect]
      cases state.pc socket <;> rfl

variable (parseIP publicHost) in
theorem effects_append (before after : List PumpingEvent) :
    effects parseIP publicHost (before ++ after) =
      effects parseIP publicHost before ++
        ((pumpingMachine parseIP).observing PumpingState.effect).log
          (pumpingAfter parseIP publicHost before) after := by
  unfold effects
  rw [Machine.log_append, Machine.exec_observing]

theorem effects_append_singleton (events : List PumpingEvent) (event : PumpingEvent) :
    effects parseIP publicHost (events ++ [event]) =
      effects parseIP publicHost events ++
        (pumpingAfter parseIP publicHost events).effect event := by
  unfold effects
  rw [Machine.log_append_singleton, Machine.exec_observing]
  rfl

/-- The stores, as arrivals in the order in which they were made, leave the
relay of the pumps. -/
theorem relay_pumpingAfter (events : List PumpingEvent) :
    (pumpingAfter parseIP publicHost events).relay =
      relayAfter parseIP publicHost (effects parseIP publicHost events) := by
  induction events using List.reverseRecOn with
  | nil => rfl
  | append_singleton events event inductionHypothesis =>
      rw [effects_append_singleton, relayAfter, Machine.exec_append, pumpingAfter,
        Machine.exec_append_singleton]
      refine (relay_pumpingStep event).trans ?_
      rw [inductionHypothesis]

/-- A pump that has read something reads an open socket. -/
def PumpingState.Open (state : PumpingState) : Prop :=
  ∀ socket, state.pc socket ≠ .read → socket ∈ state.relay.sockets

theorem effect_allowed (isOpen : state.Open) {event : PumpingEvent}
    (allowed : PumpingAllows parseIP state event) :
    (relayMachine parseIP).Guarded (NetAllows parseIP) state.relay (state.effect event) := by
  cases event with
  | setHosts hosts => exact ⟨allowed, trivial⟩
  | link pidA pidB listenA listenB => exact ⟨allowed, trivial⟩
  | read socket datagram => trivial
  | run socket =>
      simp only [PumpingState.effect]
      split
      next datagram stores => exact ⟨isOpen socket (by rw [stores]; simp), trivial⟩
      next => trivial
      next => trivial

theorem open_update (isOpen : state.Open) {socket : UDPAddr}
    (own : socket ∈ state.relay.sockets) (next : PumpPC) {relay : RelayState}
    (sockets : relay.sockets = state.relay.sockets) :
    PumpingState.Open ⟨relay, Function.update state.pc socket next⟩ := by
  intro other busy
  show other ∈ relay.sockets
  rw [sockets]
  by_cases same : other = socket
  · rw [same]
    exact own
  · apply isOpen
    dsimp only at busy
    rwa [Function.update_of_ne same] at busy

theorem open_step (isOpen : state.Open) {event : PumpingEvent}
    (allowed : PumpingAllows parseIP state event) :
    (pumpingStep parseIP state event).Open := by
  cases event with
  | setHosts hosts => exact isOpen
  | link pidA pidB listenA listenB =>
      intro socket busy
      exact step_keeps_socket (isOpen socket busy) (.link pidA pidB listenA listenB)
  | read socket datagram =>
      simp only [pumpingStep]
      split
      · exact open_update isOpen allowed.1 _ rfl
      · exact isOpen
      · exact isOpen
  | run socket =>
      simp only [pumpingStep]
      split
      next => exact isOpen
      next datagram stores =>
        have own := isOpen socket (by rw [stores]; simp)
        exact open_update isOpen own _ (sockets_store state.relay socket datagram)
      next datagram loads =>
        have own := isOpen socket (by rw [loads]; simp)
        exact open_update isOpen own _ rfl

/-- The network allows the stores of a run that it allows. -/
theorem effects_allowed {events : List PumpingEvent}
    (allowed : (pumpingMachine parseIP).Guarded (PumpingAllows parseIP)
      (.waiting (RelayState.start publicHost)) events) :
    (relayMachine parseIP).Guarded (NetAllows parseIP) (RelayState.start publicHost)
        (effects parseIP publicHost events) ∧
      (pumpingAfter parseIP publicHost events).Open := by
  apply (pumpingMachine parseIP).history_rule
    (fun events state => (relayMachine parseIP).Guarded (NetAllows parseIP)
      (RelayState.start publicHost) (effects parseIP publicHost events) ∧ state.Open)
    ⟨trivial, fun _ busy => absurd rfl busy⟩ _ events allowed
  rintro events event ⟨before, isOpen⟩ passes
  refine ⟨?_, open_step isOpen passes⟩
  rw [effects_append_singleton, Machine.guarded_append]
  refine ⟨before, ?_⟩
  rw [← relayAfter, ← relay_pumpingAfter]
  exact effect_allowed isOpen passes

end Memory

/-! ### Order -/

def PumpingEvent.readOn (socket : UDPAddr) : PumpingEvent → List Datagram
  | .read reached datagram => if reached = socket then [datagram] else []
  | .setHosts _ => []
  | .link _ _ _ _ => []
  | .run _ => []

/-- The datagram that a load passes on. -/
def PumpingState.passedOn (socket : UDPAddr) (state : PumpingState) :
    PumpingEvent → List Datagram
  | .run reached =>
      if reached = socket then
        match state.pc reached with
        | .load datagram => [datagram]
        | .store _ => []
        | .read => []
      else []
  | .setHosts _ => []
  | .link _ _ _ _ => []
  | .read _ _ => []

/-- The datagrams that the loads of a run passed on, in order. -/
def passedOn (parseIP : Bytes → Option Bytes) (publicHost : Bytes) (socket : UDPAddr)
    (events : List PumpingEvent) : List Datagram :=
  ((pumpingMachine parseIP).observing (PumpingState.passedOn socket)).log
    (.waiting (RelayState.start publicHost)) events

/-- One step passes on what was held, or holds what was read. -/
theorem held_step {parseIP : Bytes → Option Bytes} {state : PumpingState}
    {event : PumpingEvent} (allowed : PumpingAllows parseIP state event) (socket : UDPAddr) :
    (state.pc socket).held ++ event.readOn socket =
      state.passedOn socket event ++ ((pumpingStep parseIP state event).pc socket).held := by
  cases event with
  | setHosts hosts => exact List.append_nil _
  | link pidA pidB listenA listenB => exact List.append_nil _
  | read reached datagram =>
      have waits : state.pc reached = .read := allowed.2
      simp only [PumpingEvent.readOn, PumpingState.passedOn, pumpingStep, waits]
      by_cases here : reached = socket
      · subst here
        rw [if_pos rfl, waits, Function.update_self]
        rfl
      · rw [if_neg here, Function.update_of_ne (Ne.symm here), List.append_nil, List.nil_append]
  | run reached =>
      simp only [PumpingEvent.readOn, PumpingState.passedOn, pumpingStep, List.append_nil]
      by_cases here : reached = socket
      · subst here
        rw [if_pos rfl]
        cases place : state.pc reached with
        | read => simp [place, PumpPC.held]
        | store datagram => simp [PumpPC.held]
        | load datagram => simp [PumpPC.held]
      · rw [if_neg here, List.nil_append]
        cases state.pc reached with
        | read => rfl
        | store datagram =>
            dsimp only
            rw [Function.update_of_ne (Ne.symm here)]
        | load datagram =>
            dsimp only
            rw [Function.update_of_ne (Ne.symm here)]

theorem readOn_eq_passedOn {parseIP : Bytes → Option Bytes} {publicHost : Bytes}
    {events : List PumpingEvent}
    (allowed : (pumpingMachine parseIP).Guarded (PumpingAllows parseIP)
      (.waiting (RelayState.start publicHost)) events) (socket : UDPAddr) :
    events.flatMap (PumpingEvent.readOn socket) =
      passedOn parseIP publicHost socket events ++
        ((pumpingAfter parseIP publicHost events).pc socket).held := by
  apply (pumpingMachine parseIP).history_rule
    (fun events state => events.flatMap (PumpingEvent.readOn socket) =
      passedOn parseIP publicHost socket events ++ (state.pc socket).held)
    rfl _ events allowed
  intro events event before passes
  rw [List.flatMap_append, before, List.flatMap_singleton, List.append_assoc,
    held_step passes socket, ← List.append_assoc]
  congr 1
  unfold passedOn
  rw [Machine.log_append_singleton, Machine.exec_observing]
  rfl

/-! ### Transparency -/

/-- What the two consoles of link `l` see of the relay, whatever comes between
the steps of its pumps. -/
structure TransparentPumping (parseIP : Bytes → Option Bytes) (publicHost : Bytes)
    (events : List PumpingEvent) (p q : PID) (l : RelayLink) : Prop where
  /-- Whoever asked, in whichever order and through either handler, was given an
  end of `l`, if the call succeeded. -/
  handed : ∀ before after x y listenA listenB,
    events = before ++ .link x y listenA listenB :: after →
    (x = p ∧ y = q) ∨ (x = q ∧ y = p) →
    ((pumpingAfter parseIP publicHost before).relay.manager.link parseIP x y
      listenA listenB).link ≠ none →
    HandsOut parseIP (pumpingAfter parseIP publicHost before).relay.manager x y
      listenA listenB (l.host, l.endpointFor x)
  /-- The datagrams read on a socket are passed on in order, each by one load; the
  last of them may still be held. -/
  inOrder : ∀ socket, events.flatMap (PumpingEvent.readOn socket) =
    passedOn parseIP publicHost socket events ++
      ((pumpingAfter parseIP publicHost events).pc socket).held
  /-- The load of a datagram on the port handed out for `q` sends it unchanged
  through the port handed out for `p`, to the address that was stored last for
  that port; or it sends nothing when none was. -/
  forwarded : ∀ before after socket datagram,
    events = before ++ .run socket :: after →
    (pumpingAfter parseIP publicHost before).pc socket = .load datagram →
    datagram.payload.length ≤ 2048 →
    socket ∈ l.sockets → socket.port = (l.endpointFor q).toNat →
    ∃ out ∈ l.sockets, out.port = (l.endpointFor p).toNat ∧
      (out.ip = ipv4zero ∨ parseIP l.host = some out.ip) ∧
      pumpingEmit (pumpingAfter parseIP publicHost before) (.run socket) =
        ((lastArrival out (effects parseIP publicHost before)).map fun dest =>
          ⟨out, dest, datagram.payload⟩).toList
  /-- Whatever is sent on any link is sent by a load, through the link's own
  other socket and to the address that was stored last for that socket. -/
  isolated : ∀ before event after, events = before ++ event :: after →
    ∀ sent ∈ pumpingEmit (pumpingAfter parseIP publicHost before) event,
      ∃ key owner socket datagram, event = .run socket ∧
        (pumpingAfter parseIP publicHost before).pc socket = .load datagram ∧
        (pumpingAfter parseIP publicHost events).relay.manager.links.lookup key =
          some owner ∧
        socket ∈ owner.sockets ∧ sent.via ∈ owner.sockets ∧ sent.via ≠ socket ∧
        lastArrival sent.via (effects parseIP publicHost before) = some sent.dest

section Loads

variable {parseIP : Bytes → Option Bytes} {publicHost : Bytes}
variable {before : List PumpingEvent} {socket : UDPAddr} {datagram : Datagram}

theorem load_open
    (allowed : (pumpingMachine parseIP).Guarded (PumpingAllows parseIP)
      (.waiting (RelayState.start publicHost)) before)
    (loads : (pumpingAfter parseIP publicHost before).pc socket = .load datagram) :
    socket ∈ (relayAfter parseIP publicHost (effects parseIP publicHost before)).sockets := by
  obtain ⟨-, isOpen⟩ := effects_allowed allowed
  rw [← relay_pumpingAfter]
  exact isOpen socket (by rw [loads]; simp)

/-- A load sends to the address that was stored last for the pump's output. -/
theorem load_sends
    (allowed : (pumpingMachine parseIP).Guarded (PumpingAllows parseIP)
      (.waiting (RelayState.start publicHost)) before)
    (loads : (pumpingAfter parseIP publicHost before).pc socket = .load datagram) {pump : Pump}
    (found : (relayAfter parseIP publicHost (effects parseIP publicHost before)).reader socket =
      some pump) :
    pumpingEmit (pumpingAfter parseIP publicHost before) (.run socket) =
      ((lastArrival pump.output (effects parseIP publicHost before)).map fun dest =>
        ⟨pump.output, dest, datagram.payload.take pumpBuffer⟩).toList := by
  have routed := routed_exec (effects_allowed allowed).1
  have running := ((reader_eq_some_iff routed.distinct).mp found).1
  simp only [pumpingEmit, loads, RelayState.load]
  rw [relay_pumpingAfter, found]
  exact routed.load_eq running datagram

/-- Nothing but a load sends. -/
theorem load_of_emitted {state : PumpingState} {event : PumpingEvent} {sent : Sent}
    (emitted : sent ∈ pumpingEmit state event) :
    ∃ socket datagram, event = .run socket ∧ state.pc socket = .load datagram := by
  cases event with
  | setHosts hosts => cases emitted
  | link pidA pidB listenA listenB => cases emitted
  | read socket datagram => cases emitted
  | run socket =>
      simp only [pumpingEmit] at emitted
      split at emitted
      next datagram loads => exact ⟨socket, datagram, rfl, loads⟩
      next => cases emitted
      next => cases emitted

end Loads

/-- **Relay transparency, step by step.** In every run of the pumps the network
allows, the link of two different consoles is transparent for them. -/
theorem pumping_transparent (parseIP : Bytes → Option Bytes) (publicHost : Bytes)
    (events : List PumpingEvent)
    (allowed : (pumpingMachine parseIP).Guarded (PumpingAllows parseIP)
      (.waiting (RelayState.start publicHost)) events)
    (p q : PID) (different : p ≠ q) (l : RelayLink)
    (linked : (pumpingAfter parseIP publicHost events).relay.manager.links.lookup
      (pairKey p q) = some l) :
    TransparentPumping parseIP publicHost events p q l := by
  obtain ⟨stores, -⟩ := effects_allowed allowed
  have routed := routed_exec stores
  rw [relay_pumpingAfter] at linked
  refine ⟨?_, readOn_eq_passedOn allowed, ?_, ?_⟩
  · intro before after x y listenA listenB split pair succeeded
    have goesOn :=
      effects_append parseIP publicHost before (.link x y listenA listenB :: after)
    rw [← split] at goesOn
    obtain ⟨l', success⟩ := Option.ne_none_iff_exists'.mp succeeded
    rw [relay_pumpingAfter] at success ⊢
    rw [← returned_eq goesOn pair linked success]
    exact handsOut_of_link success
  · intro before after socket datagram split loads short owns port
    have goesOn := effects_append parseIP publicHost before (.run socket :: after)
    rw [← split] at goesOn
    rw [split, Machine.guarded_append] at allowed
    have isOpen := load_open allowed.1 loads
    have atEnd := linked
    rw [goesOn] at stores atEnd
    obtain ⟨pump, member, input, -, found⟩ := reader_owned stores isOpen atEnd owns
    have sends := load_sends allowed.1 loads found
    rw [show datagram.payload.take pumpBuffer = datagram.payload from
      List.take_of_length_le short] at sends
    rw [← input] at port
    exact ⟨pump.output, pump_output_mem member,
      routed.output_port different linked member port,
      (routed.bound _ l linked).output_ip member, sends⟩
  · intro before event after split sent emitted
    obtain ⟨socket, datagram, rfl, loads⟩ := load_of_emitted emitted
    have goesOn := effects_append parseIP publicHost before (.run socket :: after)
    rw [← split] at goesOn
    rw [split, Machine.guarded_append] at allowed
    have routedBefore := routed_exec (effects_allowed allowed.1).1
    obtain ⟨pump, found, running, input⟩ :=
      routedBefore.reader_of_open (load_open allowed.1 loads)
    obtain ⟨owner, stored, member⟩ := routedBefore.owned pump running
    rw [load_sends allowed.1 loads found] at emitted
    simp only [Option.mem_toList, Option.map_eq_some_iff] at emitted
    obtain ⟨dest, heard, rfl⟩ := emitted
    refine ⟨pump.key, owner, socket, datagram, rfl, loads, ?_, ?_, pump_output_mem member,
      ?_, heard⟩
    · rw [relay_pumpingAfter, goesOn, relayAfter, Machine.exec_append]
      exact exec_keeps_link stored _
    · rw [← input]
      exact pump_input_mem member
    · rw [← input]
      exact routedBefore.output_ne_input stored member

/-- Two consoles send for the first time, and both addresses are stored before
either pump loads. -/
def overlappingRun : List PumpingEvent :=
  [.link 10 20 (some 40000) (some 40001),
    .read ⟨ipv4zero, 40001⟩ ⟨⟨ascii "192.0.2.10", 5000⟩, [1]⟩,
    .read ⟨ipv4zero, 40000⟩ ⟨⟨ascii "192.0.2.20", 6000⟩, [2]⟩,
    .run ⟨ipv4zero, 40001⟩, .run ⟨ipv4zero, 40000⟩,
    .run ⟨ipv4zero, 40001⟩, .run ⟨ipv4zero, 40000⟩]

theorem overlappingRun_transparent :
    TransparentPumping some (ascii "10.0.0.95") overlappingRun 20 10 pairedLink :=
  pumping_transparent some (ascii "10.0.0.95") overlappingRun (by decide) 20 10 (by decide)
    pairedLink (by decide)

/-- Both datagrams are sent; of two arrivals, the first would be lost. -/
example : (pumpingMachine some).log (.waiting (RelayState.start (ascii "10.0.0.95")))
      overlappingRun =
    [⟨⟨ipv4zero, 40000⟩, ⟨ascii "192.0.2.20", 6000⟩, [1]⟩,
      ⟨⟨ipv4zero, 40001⟩, ⟨ascii "192.0.2.10", 5000⟩, [2]⟩] := by decide

end CommunityServers.Relay
