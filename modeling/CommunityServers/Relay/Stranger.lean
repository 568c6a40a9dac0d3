import CommunityServers.Relay.Forwarding

/-!
Contract: what datagrams from third parties do to the traffic of a link.

Owns:
- the run without the datagrams of strangers, and that it has the same links,
  sockets and pumps;
- the exact order of arrivals under which the datagrams of the two consoles
  reach only each other and go where they would go without the strangers.

Does not own: which address a console has, and forged source addresses.
-/

set_option autoImplicit false

namespace CommunityServers.Relay

open CommunityServers.Foundation

/-- The other socket of a link. -/
def RelayLink.opposite (l : RelayLink) (socket : UDPAddr) : UDPAddr :=
  if socket = l.sockA then l.sockB else l.sockA

/-- An address has sent to one of the sockets of a link. -/
def HasSent (l : RelayLink) (address : UDPAddr) (events : List RelayEvent) : Prop :=
  ∃ socket ∈ l.sockets, ∃ datagram,
    RelayEvent.arrive socket datagram ∈ events ∧ datagram.source = address

/-- A datagram on a link from neither of two addresses. -/
def RelayLink.fromStranger (l : RelayLink) (addressA addressB : UDPAddr) : RelayEvent → Bool
  | .arrive socket datagram =>
      decide (socket ∈ l.sockets) && datagram.source != addressA && datagram.source != addressB
  | _ => false

def withoutStrangers (l : RelayLink) (addressA addressB : UDPAddr)
    (events : List RelayEvent) : List RelayEvent :=
  events.filter fun event => !l.fromStranger addressA addressB event

/-- Two addresses are those of the two consoles, in either order. -/
def Peers (addressA addressB own peer : UDPAddr) : Prop :=
  (own = addressA ∧ peer = addressB) ∨ (own = addressB ∧ peer = addressA)

instance (addressA addressB own peer : UDPAddr) :
    Decidable (Peers addressA addressB own peer) :=
  inferInstanceAs (Decidable (_ ∨ _))

/-- The traffic of the consoles at two addresses over a link is not captured. -/
structure Uncaptured (parseIP : Bytes → Option Bytes) (publicHost : Bytes)
    (events : List RelayEvent) (l : RelayLink) (addressA addressB : UDPAddr) : Prop where
  /-- What a console sends goes only to its peer, which has itself sent before. -/
  confined : ∀ before after socket datagram,
    events = before ++ .arrive socket datagram :: after → socket ∈ l.sockets →
    ∀ peer, Peers addressA addressB datagram.source peer →
    ∀ sent ∈ relayEmit (relayAfter parseIP publicHost before) (.arrive socket datagram),
      sent.dest = peer ∧ HasSent l peer before
  /-- What a console sends goes where it goes when no stranger sends. -/
  undisturbed : ∀ before after socket datagram,
    events = before ++ .arrive socket datagram :: after → socket ∈ l.sockets →
    ∀ peer, Peers addressA addressB datagram.source peer →
    relayEmit (relayAfter parseIP publicHost before) (.arrive socket datagram) =
      relayEmit (relayAfter parseIP publicHost
        (withoutStrangers l addressA addressB before)) (.arrive socket datagram)

/-- When the datagram of a console arrives, the latest one on the other socket,
if there was one, came from its peer. -/
def PeerSpokeLast (l : RelayLink) (addressA addressB : UDPAddr)
    (before : List RelayEvent) : RelayEvent → Prop
  | .arrive socket datagram =>
      socket ∈ l.sockets → ∀ last ∈ lastArrival (l.opposite socket) before,
        (datagram.source = addressA → last = addressB) ∧
          (datagram.source = addressB → last = addressA)
  | _ => True

instance (l : RelayLink) (addressA addressB : UDPAddr) (before : List RelayEvent) :
    (event : RelayEvent) → Decidable (PeerSpokeLast l addressA addressB before event)
  | .arrive _ _ => inferInstanceAs (Decidable (_ → _))
  | .setHosts _ => isTrue trivial
  | .link _ _ _ _ => isTrue trivial

/-! ### Runs that differ in what was heard -/

/-- Two states with the same links, pumps and sockets. -/
structure SameWiring (first second : RelayState) : Prop where
  manager : first.manager = second.manager
  pumps : first.pumps = second.pumps
  sockets : first.sockets = second.sockets

section Wiring

variable {parseIP : Bytes → Option Bytes} {first second : RelayState}

variable (parseIP) in
theorem SameWiring.arrive (same : SameWiring first second) (socket : UDPAddr)
    (datagram : Datagram) :
    SameWiring (relayStep parseIP first (.arrive socket datagram)) second := by
  simp only [relayStep, RelayState.store]
  cases first.reader socket with
  | none => exact same
  | some pump => exact ⟨same.manager, same.pumps, same.sockets⟩

theorem SameWiring.symm (same : SameWiring first second) : SameWiring second first :=
  ⟨same.manager.symm, same.pumps.symm, same.sockets.symm⟩

theorem SameWiring.step (same : SameWiring first second) (event : RelayEvent) :
    SameWiring (relayStep parseIP first event) (relayStep parseIP second event) := by
  cases event with
  | setHosts hosts =>
      refine ⟨?_, same.pumps, same.sockets⟩
      exact congrArg (fun manager => manager.setHosts hosts) same.manager
  | link pidA pidB listenA listenB =>
      unfold relayStep
      rw [same.manager, same.pumps, same.sockets]
      exact ⟨rfl, rfl, rfl⟩
  | arrive socket datagram =>
      apply SameWiring.arrive
      apply SameWiring.symm
      apply SameWiring.arrive
      exact same.symm

/-- What the network promises depends on the wiring only. -/
theorem SameWiring.allows (same : SameWiring first second) {event : RelayEvent}
    (allowed : NetAllows parseIP first event) : NetAllows parseIP second event := by
  cases event with
  | setHosts hosts => trivial
  | link pidA pidB listenA listenB =>
      unfold NetAllows at allowed ⊢
      rw [← same.manager, ← same.sockets]
      exact allowed
  | arrive socket datagram =>
      unfold NetAllows at allowed ⊢
      rw [← same.sockets]
      exact allowed

end Wiring

section Strangers

variable {parseIP : Bytes → Option Bytes} {publicHost : Bytes} {l : RelayLink}
variable {addressA addressB : UDPAddr}

theorem eq_arrive_of_fromStranger {event : RelayEvent}
    (stranger : l.fromStranger addressA addressB event = true) :
    ∃ socket datagram, event = .arrive socket datagram := by
  cases event with
  | arrive socket datagram => exact ⟨socket, datagram, rfl⟩
  | setHosts hosts => cases stranger
  | link pidA pidB listenA listenB => cases stranger

theorem withoutStrangers_cons (event : RelayEvent) (rest : List RelayEvent) :
    withoutStrangers l addressA addressB (event :: rest) =
      if l.fromStranger addressA addressB event then withoutStrangers l addressA addressB rest
      else event :: withoutStrangers l addressA addressB rest := by
  unfold withoutStrangers
  rw [List.filter_cons]
  cases l.fromStranger addressA addressB event <;> rfl

theorem withoutStrangers_append (before after : List RelayEvent) :
    withoutStrangers l addressA addressB (before ++ after) =
      withoutStrangers l addressA addressB before ++
        withoutStrangers l addressA addressB after :=
  List.filter_append before after

theorem withoutStrangers_wiring {first second : RelayState} (same : SameWiring first second)
    (events : List RelayEvent) :
    SameWiring ((relayMachine parseIP).exec first events)
      ((relayMachine parseIP).exec second (withoutStrangers l addressA addressB events)) := by
  induction events generalizing first second with
  | nil => exact same
  | cons event rest inductionHypothesis =>
      rw [withoutStrangers_cons]
      split
      next stranger =>
        obtain ⟨socket, datagram, rfl⟩ := eq_arrive_of_fromStranger stranger
        apply inductionHypothesis
        exact same.arrive parseIP socket datagram
      next =>
        apply inductionHypothesis
        exact same.step event

theorem withoutStrangers_allowed {first second : RelayState} (same : SameWiring first second)
    {events : List RelayEvent}
    (allowed : (relayMachine parseIP).Guarded (NetAllows parseIP) first events) :
    (relayMachine parseIP).Guarded (NetAllows parseIP) second
      (withoutStrangers l addressA addressB events) := by
  induction events generalizing first second with
  | nil => trivial
  | cons event rest inductionHypothesis =>
      rw [withoutStrangers_cons]
      split
      next stranger =>
        obtain ⟨socket, datagram, rfl⟩ := eq_arrive_of_fromStranger stranger
        exact inductionHypothesis (same.arrive parseIP socket datagram) allowed.2
      next =>
        exact ⟨same.allows allowed.1, inductionHypothesis (same.step event) allowed.2⟩

/-- A latest arrival that is nobody's or a console's is still the latest when
the strangers are gone. -/
theorem lastArrival_withoutStrangers {socket : UDPAddr} {events : List RelayEvent}
    (ours : ∀ last ∈ lastArrival socket events, last = addressA ∨ last = addressB) :
    lastArrival socket (withoutStrangers l addressA addressB events) =
      lastArrival socket events := by
  induction events using List.reverseRecOn with
  | nil => rfl
  | append_singleton events event inductionHypothesis =>
      rw [withoutStrangers_append, withoutStrangers_cons]
      cases event with
      | setHosts hosts =>
          rw [lastArrival_setHosts] at ours ⊢
          exact (lastArrival_setHosts socket _ hosts).trans (inductionHypothesis ours)
      | link pidA pidB listenA listenB =>
          rw [lastArrival_link] at ours ⊢
          exact (lastArrival_link socket _ pidA pidB listenA listenB).trans
            (inductionHypothesis ours)
      | arrive reached datagram =>
          rw [lastArrival_arrive] at ours ⊢
          by_cases here : reached = socket
          · rw [if_pos here] at ours ⊢
            have console : l.fromStranger addressA addressB (.arrive reached datagram) = false := by
              unfold RelayLink.fromStranger
              rcases ours datagram.source rfl with own | own <;> simp [own]
            rw [if_neg (by rw [console]; exact Bool.noConfusion)]
            exact (lastArrival_arrive socket reached _ datagram).trans (if_pos here)
          · rw [if_neg here] at ours ⊢
            split
            · rw [show withoutStrangers l addressA addressB [] = [] from rfl, List.append_nil]
              exact inductionHypothesis ours
            · refine (lastArrival_arrive socket reached _ datagram).trans ?_
              rw [if_neg here]
              exact inductionHypothesis ours

theorem hasSent_of_lastArrival {socket address : UDPAddr} {events : List RelayEvent}
    (owns : socket ∈ l.sockets) (last : lastArrival socket events = some address) :
    HasSent l address events := by
  induction events using List.reverseRecOn with
  | nil => cases last
  | append_singleton events event inductionHypothesis =>
      have earlier : lastArrival socket events = some address →
          HasSent l address (events ++ [event]) := by
        intro heard
        obtain ⟨via, own, datagram, arrived, source⟩ := inductionHypothesis heard
        exact ⟨via, own, datagram, List.mem_append_left _ arrived, source⟩
      cases event with
      | setHosts hosts =>
          rw [lastArrival_setHosts] at last
          exact earlier last
      | link pidA pidB listenA listenB =>
          rw [lastArrival_link] at last
          exact earlier last
      | arrive reached datagram =>
          rw [lastArrival_arrive] at last
          split at last
          next here =>
            refine ⟨reached, here ▸ owns, datagram, ?_, Option.some.inj last⟩
            exact List.mem_append_right _ (List.mem_singleton_self _)
          next => exact earlier last

/-! ### Where the datagrams of the consoles go -/

/-- A datagram on a link goes to whoever was heard last on its other socket. -/
theorem emit_opposite {events before after : List RelayEvent} {socket : UDPAddr}
    {datagram : Datagram}
    (allowed : (relayMachine parseIP).Guarded (NetAllows parseIP)
      (RelayState.start publicHost) events)
    (split : events = before ++ .arrive socket datagram :: after) {key : Bytes}
    (stored : (relayAfter parseIP publicHost events).manager.links.lookup key = some l)
    (owns : socket ∈ l.sockets) :
    relayEmit (relayAfter parseIP publicHost before) (.arrive socket datagram) =
      ((lastArrival (l.opposite socket) before).map fun dest =>
        ⟨l.opposite socket, dest, datagram.payload.take pumpBuffer⟩).toList := by
  obtain ⟨pump, member, input, sends⟩ := arrival_reader allowed split stored owns
  have apart := (routed_exec allowed).output_ne_input stored member
  have output : pump.output = l.opposite socket := by
    unfold RelayLink.opposite
    rw [← input]
    rcases mem_pumps_iff.mp member with rfl | rfl
    · exact (if_neg (Ne.symm apart)).symm
    · exact (if_pos rfl).symm
  rw [sends, output]

theorem opposite_mem (socket : UDPAddr) : l.opposite socket ∈ l.sockets := by
  unfold RelayLink.opposite RelayLink.sockets
  split <;> simp

theorem PeerSpokeLast.of_peers {before : List RelayEvent} {socket : UDPAddr}
    {datagram : Datagram}
    (spoke : PeerSpokeLast l addressA addressB before (.arrive socket datagram))
    (owns : socket ∈ l.sockets) {peer : UDPAddr}
    (peers : Peers addressA addressB datagram.source peer) :
    ∀ last ∈ lastArrival (l.opposite socket) before, last = peer := by
  intro last heard
  obtain ⟨fromA, fromB⟩ := spoke owns last heard
  rcases peers with ⟨own, rfl⟩ | ⟨own, rfl⟩
  · exact fromA own
  · exact fromB own

end Strangers

/-- **Who gets a link's traffic.** In every run the network allows, what the two
consoles of a link send goes only to each other and where it would go without
strangers, exactly if each of their datagrams finds its peer to be the latest
sender on the other socket. -/
theorem uncaptured_iff (parseIP : Bytes → Option Bytes) (publicHost : Bytes)
    (events : List RelayEvent)
    (allowed : (relayMachine parseIP).Guarded (NetAllows parseIP)
      (RelayState.start publicHost) events)
    (key : Bytes) (l : RelayLink)
    (stored : (relayAfter parseIP publicHost events).manager.links.lookup key = some l)
    (addressA addressB : UDPAddr) :
    Uncaptured parseIP publicHost events l addressA addressB ↔
      Everywhere (PeerSpokeLast l addressA addressB) events := by
  constructor
  · intro uncaptured before event after split
    cases event with
    | setHosts hosts => trivial
    | link pidA pidB listenA listenB => trivial
    | arrive socket datagram =>
        intro owns last heard
        have sends := emit_opposite allowed split stored owns
        rw [Option.mem_def] at heard
        rw [heard] at sends
        have goes : ∀ peer, Peers addressA addressB datagram.source peer → last = peer := by
          intro peer peers
          have confined := uncaptured.confined before after socket datagram split owns peer peers
          rw [sends] at confined
          exact (confined _ (List.mem_singleton_self _)).1
        exact ⟨fun own => goes addressB (Or.inl ⟨own, rfl⟩),
          fun own => goes addressA (Or.inr ⟨own, rfl⟩)⟩
  · intro spoke
    refine ⟨?_, ?_⟩
    · intro before after socket datagram split owns peer peers sent emitted
      have latest := (spoke before _ after split).of_peers owns peers
      rw [emit_opposite allowed split stored owns] at emitted
      simp only [Option.mem_toList, Option.map_eq_some_iff] at emitted
      obtain ⟨dest, heard, rfl⟩ := emitted
      have isPeer : dest = peer := latest dest heard
      refine ⟨isPeer, ?_⟩
      rw [← isPeer]
      exact hasSent_of_lastArrival (opposite_mem socket) heard
    · intro before after socket datagram split owns peer peers
      have latest := (spoke before _ after split).of_peers owns peers
      have start : SameWiring (RelayState.start publicHost) (RelayState.start publicHost) :=
        ⟨rfl, rfl, rfl⟩
      have kept : withoutStrangers l addressA addressB events =
          withoutStrangers l addressA addressB before ++
            .arrive socket datagram :: withoutStrangers l addressA addressB after := by
        have console : l.fromStranger addressA addressB (.arrive socket datagram) = false := by
          unfold RelayLink.fromStranger
          rcases peers with ⟨own, -⟩ | ⟨own, -⟩ <;> simp [own]
        rw [split, withoutStrangers_append, withoutStrangers_cons,
          if_neg (by rw [console]; exact Bool.noConfusion)]
      have storedToo : (relayAfter parseIP publicHost
          (withoutStrangers l addressA addressB events)).manager.links.lookup key = some l := by
        rw [relayAfter, ← (withoutStrangers_wiring start events).manager]
        exact stored
      rw [emit_opposite allowed split stored owns,
        emit_opposite (withoutStrangers_allowed start allowed) kept storedToo owns,
        lastArrival_withoutStrangers]
      intro last heard
      rw [latest last heard]
      rcases peers with ⟨-, isPeer⟩ | ⟨-, isPeer⟩
      · exact Or.inr isPeer
      · exact Or.inl isPeer

def consoleTen : UDPAddr := ⟨ascii "192.0.2.10", 5000⟩

def consoleTwenty : UDPAddr := ⟨ascii "192.0.2.20", 6000⟩

def stranger : UDPAddr := ⟨ascii "203.0.113.9", 7000⟩

/-- Both consoles have sent, then a stranger sends to the socket of console 20. -/
def strangerRun : List RelayEvent :=
  [.link 10 20 (some 40000) (some 40001),
    .arrive ⟨ipv4zero, 40001⟩ ⟨consoleTen, [1]⟩,
    .arrive ⟨ipv4zero, 40000⟩ ⟨consoleTwenty, [2]⟩,
    .arrive ⟨ipv4zero, 40000⟩ ⟨stranger, [3]⟩]

/-- Console 20 sends again before console 10 does. -/
theorem strangerRun_uncaptured :
    Uncaptured some (ascii "10.0.0.95")
      (strangerRun ++ [.arrive ⟨ipv4zero, 40000⟩ ⟨consoleTwenty, [4]⟩,
        .arrive ⟨ipv4zero, 40001⟩ ⟨consoleTen, [5]⟩])
      pairedLink consoleTen consoleTwenty :=
  (uncaptured_iff some (ascii "10.0.0.95") _ (by decide) (pairKey 10 20) pairedLink
    (by decide) consoleTen consoleTwenty).mpr (by decide)

/-- Console 10 sends next, and the stranger gets it. -/
theorem strangerRun_captured :
    let events := strangerRun ++ [.arrive ⟨ipv4zero, 40001⟩ ⟨consoleTen, [5]⟩]
    (relayMachine some).Guarded (NetAllows some) (RelayState.start (ascii "10.0.0.95")) events ∧
      (relayAfter some (ascii "10.0.0.95") events).manager.links.lookup (pairKey 10 20) =
        some pairedLink ∧
      ¬ Uncaptured some (ascii "10.0.0.95") events pairedLink consoleTen consoleTwenty := by
  refine ⟨by decide, by decide, ?_⟩
  intro uncaptured
  have confined := uncaptured.confined strangerRun [] ⟨ipv4zero, 40001⟩ ⟨consoleTen, [5]⟩ rfl
    (by decide) consoleTwenty (by decide) ⟨⟨ipv4zero, 40000⟩, stranger, [5]⟩ (by decide)
  exact absurd confined.1 (by decide)

end CommunityServers.Relay
