import CommunityServers.Nex.PeerStream

/-!
Contract: reliable delivery from one side of a connection to the other.

Owns:
- a connection that follows a peer's stream on one substream, whatever else
  happens on it;
- that messages are delivered in order, each once, up to the first packet that
  is missing, however the network reorders, repeats and loses packets;
- that messages of 256 fragments or more are cut.

Does not own: sequence IDs that come round, which the queue alone is shown to
bear within a window, and getting packets sent again.
-/

set_option autoImplicit false

namespace CommunityServers.Nex

open CommunityServers.Foundation
open PRUDPConnection (TrafficEvent)

namespace PeerStream

variable {substreamID : UInt8} {stream : PeerStream substreamID} {pc : PRUDPConnection}
  {packet : PRUDPPacketInterface} {leftover : Bytes} {next : Nat} {arrived : List Nat}

/-- The messages that the first packets of a stream complete, when something was
left over before. -/
def messages (stream : PeerStream substreamID) (leftover : Bytes) (count : Nat) : List Bytes :=
  reassembly.log leftover (stream.fragments count)

theorem fragments_succ (stream : PeerStream substreamID) (count : Nat) :
    stream.fragments (count + 1) = stream.fragments count ++ [stream.carried count] := by
  rw [fragments, List.range_succ, List.map_append]
  rfl

theorem messages_succ (stream : PeerStream substreamID) (leftover : Bytes) (count : Nat) :
    stream.messages leftover (count + 1) = stream.messages leftover count ++
      reassembly.emit (reassembly.exec leftover (stream.fragments count))
        (stream.carried count) := by
  rw [messages, fragments_succ, Machine.log_append_singleton]
  rfl

/-- What a prefix of the stream completes is completed first. -/
theorem messages_prefix (stream : PeerStream substreamID) (leftover : Bytes) {count total : Nat}
    (le : count ≤ total) : stream.messages leftover count <+: stream.messages leftover total := by
  induction total, le using Nat.le_induction with
  | base => exact List.prefix_rfl
  | succ total _ inductionHypothesis =>
      rw [messages_succ]
      exact inductionHypothesis.trans (List.prefix_append _ _)

/-! ### Handling the packets in order -/

/-- The connection has handled the first packets of the stream. -/
structure Handled (stream : PeerStream substreamID) (leftover : Bytes) (next : Nat)
    (pc : PRUDPConnection) : Prop where
  plain : pc.Plain
  inStep : (stream.cipher next).InStep (pc.algorithmOf substreamID)
  buffer : pc.getIncomingFragmentBuffer substreamID =
    reassembly.exec leftover (stream.fragments next)

theorem encoded_decrypt {sending receiving : EncryptionAlgorithm}
    (inStep : sending.InStep receiving) (payload : Bytes) :
    (receiving.decrypt (encoded sending payload).1).1 = payload ∧
      (encoded sending payload).2.InStep (receiving.decrypt (encoded sending payload).1).2 := by
  unfold encoded
  split
  · exact inStep.decrypt_encrypt payload
  next empty =>
    obtain rfl := List.length_eq_zero_iff.mp (not_not.mp empty)
    cases sending <;> cases receiving <;> first | exact inStep.elim | exact ⟨rfl, inStep⟩

/-- The payload of the next packet is what its sender put in. -/
theorem Handled.opened (handled : stream.Handled leftover next pc) (below : next < stream.total) :
    (pc.opened (stream.item next)).1 = (stream.carried next).2 ∧
      (stream.cipher (next + 1)).InStep
        ((pc.opened (stream.item next)).2.algorithmOf substreamID) := by
  have isData := stream.reliable next below
  have payload := stream.payload next below
  have restored := encoded_decrypt handled.inStep (stream.carried next).2
  rw [payload] at restored
  unfold PRUDPConnection.opened
  rw [if_pos isData.encrypted, isData.substream]
  refine ⟨restored.1, ?_⟩
  unfold PRUDPConnection.algorithmOf
  rw [PRUDPConnection.windowOf_set_self]
  exact restored.2

theorem getIncomingFragmentBuffer_set (pc : PRUDPConnection) (buffer : Bytes) :
    (pc.setIncomingFragmentBuffer substreamID buffer).getIncomingFragmentBuffer substreamID =
      buffer := by
  simp [PRUDPConnection.getIncomingFragmentBuffer, PRUDPConnection.setIncomingFragmentBuffer]

theorem Handled.undisturbed {after : PRUDPConnection} (handled : stream.Handled leftover next pc)
    (undisturbed : PRUDPConnection.Undisturbed substreamID pc after) :
    stream.Handled leftover next after :=
  ⟨handled.plain.of_kept undisturbed.toKept, undisturbed.window _ handled.inStep,
    undisturbed.buffer.trans handled.buffer⟩

/-- Handling the next packet: its fragment is reassembled, and the message it
completes is given out. -/
theorem Handled.step (pep : PRUDPEndPoint) (handled : stream.Handled leftover next pc)
    (below : next < stream.total) :
    ∃ events after, pc.handleDispatched pep substreamID (stream.item next) = some (events, after) ∧
      stream.Handled leftover (next + 1) after ∧
      stream.messages leftover next ++ events.map DataEvent.payload =
        stream.messages leftover (next + 1) ∧
      ∀ event ∈ events, event.packet = stream.item next := by
  have isData := stream.reliable next below
  have fragmentID := stream.fragmentID next below
  obtain ⟨payload, inStep⟩ := handled.opened below
  have plain := handled.plain.of_kept (PRUDPConnection.opened_kept pc (stream.item next))
  have same : pc.handleDispatched pep substreamID (stream.item next) = _ :=
    PRUDPConnection.handleDispatched_data handled.plain isData.data
  rw [payload, handled.buffer] at same
  by_cases last : (stream.item next).fragmentID = 0
  · have lastCarried : (stream.carried next).1 = 0 := fragmentID ▸ last
    simp only [if_pos last] at same
    refine ⟨_, _, same, ⟨⟨plain.settings, plain.windows⟩, inStep, ?_⟩, ?_, ?_⟩
    · rw [getIncomingFragmentBuffer_set, fragments_succ, Machine.exec_append_singleton]
      exact (if_pos lastCarried).symm
    · rw [messages_succ]
      exact congrArg _ (if_pos lastCarried).symm
    · intro event member
      rw [List.mem_singleton.mp member]
      rfl
  · have middle : (stream.carried next).1 ≠ 0 := fragmentID ▸ last
    simp only [if_neg last] at same
    refine ⟨_, _, same, ⟨⟨plain.settings, plain.windows⟩, inStep, ?_⟩, ?_, ?_⟩
    · rw [getIncomingFragmentBuffer_set, fragments_succ, Machine.exec_append_singleton]
      exact (if_neg middle).symm
    · rw [messages_succ]
      exact congrArg _ (if_neg middle).symm
    · intro event member
      cases member

/-- Handling packets of the stream from the next one on. -/
theorem Handled.run (pep : PRUDPEndPoint) (handled : stream.Handled leftover next pc) {count : Nat}
    (below : next + count ≤ stream.total) :
    ∃ events after,
      (PRUDPConnection.handling pep substreamID).run pc
        ((List.range' next count).map stream.item) = some (events, after) ∧
      stream.Handled leftover (next + count) after ∧
      stream.messages leftover next ++ events.map DataEvent.payload =
        stream.messages leftover (next + count) ∧
      ∀ event ∈ events, IsReliableData substreamID event.packet := by
  induction count generalizing next pc with
  | zero =>
      refine ⟨[], pc, rfl, handled, List.append_nil _, ?_⟩
      intro event member
      cases member
  | succ count inductionHypothesis =>
      obtain ⟨first, middle, stepped, handledMiddle, delivered, firstPackets⟩ :=
        handled.step pep (by omega)
      obtain ⟨later, after, ran, handledAfter, deliveredLater, laterPackets⟩ :=
        inductionHypothesis handledMiddle (by omega)
      refine ⟨first ++ later, after, ?_, ?_, ?_, ?_⟩
      · rw [List.range'_succ, List.map_cons, PartialMachine.run_cons]
        show (pc.handleDispatched pep substreamID (stream.item next)).bind _ = _
        rw [stepped, Option.bind_some, ran]
        rfl
      · rw [← Nat.add_assoc, Nat.add_right_comm]
        exact handledAfter
      · rw [List.map_append, ← List.append_assoc, delivered, deliveredLater, Nat.add_assoc,
          Nat.add_comm 1]
      · intro event member
        rcases List.mem_append.mp member with before | after
        · rw [firstPackets event before]
          exact stream.reliable next (by omega)
        · exact laterPackets event after

/-! ### Following a stream -/

/-- A connection that received some packets of a stream: it handled all up to
the first that is missing, and the others wait. -/
structure Following (stream : PeerStream substreamID) (leftover : Bytes) (arrived : List Nat)
    (next : Nat) (pc : PRUDPConnection) : Prop where
  connected : pc.connectionState = .connected
  own : pc.Own
  expecting : PacketDispatchQueue.Expecting stream.item stream.start stream.total arrived next
    (pc.queueOf substreamID)
  handled : stream.Handled leftover next pc
  frontier : IsFrontier arrived next

theorem Following.bounded (following : stream.Following leftover arrived next pc) :
    ∀ number ∈ arrived, number < stream.total :=
  following.expecting.bounded

/-- Whatever leaves the substream alone. -/
theorem Following.undisturbed {after : PRUDPConnection}
    (following : stream.Following leftover arrived next pc) (own : after.Own)
    (undisturbed : PRUDPConnection.Undisturbed substreamID pc after) :
    stream.Following leftover arrived next after where
  connected := undisturbed.state.trans following.connected
  own := own
  expecting := by
    rw [undisturbed.queue]
    exact following.expecting
  handled := following.handled.undisturbed undisturbed
  frontier := following.frontier

theorem filterMap_deliveredOn {events : List DataEvent}
    (all : ∀ event ∈ events, IsReliableData substreamID event.packet) :
    (events.map Output.data).filterMap (PRUDPConnection.deliveredOn substreamID) =
      events.map DataEvent.payload := by
  rw [List.filterMap_map, ← List.filterMap_eq_map]
  apply List.filterMap_congr
  intro event member
  exact if_pos ⟨(all event member).substream, (all event member).reliable⟩

/-- A packet of the stream arrives, for the first time or again. -/
theorem Following.receive (pep : PRUDPEndPoint)
    (following : stream.Following leftover arrived next pc) (short : stream.total < 65536)
    {number : Nat} (below : number < stream.total) :
    ∃ outputs after reached,
      pc.receive pep (stream.item number) = some (outputs, after) ∧
      PRUDPConnection.Kept pc after ∧
      stream.Following leftover (arrived ++ [number]) reached after ∧
      stream.messages leftover next ++ outputs.filterMap (PRUDPConnection.deliveredOn substreamID) =
        stream.messages leftover reached := by
  have isData := stream.reliable number below
  have inside : SequenceInside stream.total next number :=
    ⟨below, Or.inl short⟩
  obtain ⟨count, expecting, dispatched, frontier⟩ :=
    (following.expecting.queuePacket stream.numbered inside).drain le_rfl
  have received : pc.receive pep (stream.item number) =
      pc.handleReliable pep (stream.item number) := by
    rw [PRUDPConnection.receive, if_neg (Bool.eq_false_iff.mp isData.plain), if_pos isData.data,
      PRUDPConnection.handleData, if_neg (not_not.mpr following.connected),
      if_pos isData.reliable]
  obtain ⟨acks, events, after, inOrder⟩ :=
    PRUDPConnection.handleReliable_plain pep following.handled.plain following.own
      (stream.item number)
  have drained : pc.dispatchedBy (stream.item number) =
      PacketDispatchQueue.drainAll ((pc.queueOf substreamID).queuePacket (stream.item number)) := by
    rw [PRUDPConnection.dispatchedBy, isData.substream]
  have ran := inOrder.ran
  rw [drained, isData.substream] at ran
  obtain ⟨again, afterAgain, ranAgain, handled, delivered, packets⟩ :=
    (following.handled.undisturbed
      (PRUDPConnection.undisturbed_packetDispatchQueue pc substreamID substreamID)).run pep
        expecting.next_le
  rw [← dispatched] at ranAgain
  obtain ⟨rfl, rfl⟩ := Prod.mk.inj (Option.some.inj (ranAgain.symm.trans ran))
  have own := inOrder.own
  rw [isData.substream, drained] at own
  refine ⟨_, _, next + count, received.trans inOrder.result,
    ⟨inOrder.kept.state, inOrder.kept.settings, inOrder.kept.compression⟩, ?_, ?_⟩
  · rw [isData.substream, drained]
    refine ⟨inOrder.kept.state.trans following.connected, own, ?_,
      ⟨⟨handled.plain.settings, handled.plain.windows⟩, handled.inStep, handled.buffer⟩, frontier⟩
    rw [PRUDPConnection.queueOf_set_self]
    exact expecting
  · rw [List.filterMap_append, PRUDPConnection.filterMap_sent, List.nil_append,
      filterMap_deliveredOn packets, delivered]

/-! ### Whole runs -/

/-- What may happen on a connection while a peer's packets arrive: one of them
comes, whatever was said or left unsaid about it before, or something happens
that is no business of the substream. -/
inductive Permitted (substreamID : UInt8) (sent : List PRUDPPacketInterface) :
    TrafficEvent → Prop where
  | arrives {packet : PRUDPPacketInterface} (member : packet ∈ sent) :
      Permitted substreamID sent (.receive packet)
  | foreign {packet : PRUDPPacketInterface}
      (foreign : PRUDPConnection.Foreign substreamID packet) :
      Permitted substreamID sent (.receive packet)
  | sends (packet : PRUDPPacketInterface) : Permitted substreamID sent (.send packet)

theorem mem_packets {packet : PRUDPPacketInterface} :
    packet ∈ stream.packets ↔ ∃ number < stream.total, stream.item number = packet := by
  simp [packets]

theorem item_injective (short : stream.total < 65536) {first second : Nat}
    (firstBelow : first < stream.total) (secondBelow : second < stream.total)
    (same : stream.item first = stream.item second) : first = second := by
  have sequenceIDs := congrArg (fun packet => packet.sequenceID) same
  rw [stream.numbered first firstBelow, stream.numbered second secondBelow,
    sequenceID_eq_iff] at sequenceIDs
  omega

theorem not_foreign (isData : IsReliableData substreamID packet) :
    ¬ PRUDPConnection.Foreign substreamID packet := by
  intro foreign
  rcases foreign.other with acknowledgment | different | unreliable
  · exact Bool.noConfusion (acknowledgment.symm.trans isData.plain)
  · exact different isData.substream
  · exact Bool.noConfusion (unreliable.symm.trans isData.reliable)

/-- One event of a connection that follows a stream. -/
theorem Following.event (pep : PRUDPEndPoint)
    (following : stream.Following leftover arrived next pc) (short : stream.total < 65536)
    {event : TrafficEvent}
    (permitted : Permitted substreamID stream.packets event) :
    ∃ outputs after arrivals reached,
      (PRUDPConnection.traffic pep).step pc event = some (outputs, after) ∧
      PRUDPConnection.Kept pc after ∧
      stream.Following leftover (arrived ++ arrivals) reached after ∧
      stream.messages leftover next ++ outputs.filterMap (PRUDPConnection.deliveredOn substreamID) =
        stream.messages leftover reached ∧
      ∀ number < stream.total, event = .receive (stream.item number) → number ∈ arrivals := by
  have alone {result : Option (List Output × PRUDPConnection)}
      (leavesAlone : PRUDPConnection.LeavesAlone substreamID pc result)
      (other : ∀ number < stream.total, event ≠ .receive (stream.item number)) :
      ∃ outputs after arrivals reached, result = some (outputs, after) ∧
        PRUDPConnection.Kept pc after ∧
        stream.Following leftover (arrived ++ arrivals) reached after ∧
        stream.messages leftover next ++
            outputs.filterMap (PRUDPConnection.deliveredOn substreamID) =
          stream.messages leftover reached ∧
        ∀ number < stream.total, event = .receive (stream.item number) → number ∈ arrivals := by
    obtain ⟨outputs, after, same, undisturbed, own, silent⟩ := leavesAlone
    refine ⟨outputs, after, [], next, same, undisturbed.toKept, ?_, ?_, fun number below equal =>
      absurd equal (other number below)⟩
    · rw [List.append_nil]
      exact following.undisturbed own undisturbed
    · rw [silent, List.append_nil]
  cases permitted with
  | arrives member =>
      obtain ⟨number, below, rfl⟩ := mem_packets.mp member
      obtain ⟨outputs, after, reached, received, kept, followingAfter, delivered⟩ :=
        following.receive pep short below
      refine ⟨outputs, after, [number], reached, received, kept, followingAfter, delivered, ?_⟩
      intro other otherBelow same
      rw [item_injective short below otherBelow (TrafficEvent.receive.inj same)]
      exact List.mem_cons_self
  | foreign isForeign =>
      refine alone (PRUDPConnection.leavesAlone_receive pep following.handled.plain following.own
        isForeign) fun number below same => ?_
      rw [TrafficEvent.receive.inj same] at isForeign
      exact not_foreign (stream.reliable number below) isForeign
  | sends packet =>
      exact alone (PRUDPConnection.leavesAlone_send pep.server following.handled.plain following.own
        packet) fun _ _ => nofun

/-- Any run of a connection that follows a stream. -/
theorem Following.run (pep : PRUDPEndPoint) (following : stream.Following leftover arrived next pc)
    (short : stream.total < 65536) {events : List TrafficEvent}
    (permitted : ∀ event ∈ events, Permitted substreamID stream.packets event) :
    ∃ outputs after arrivals reached,
      (PRUDPConnection.traffic pep).run pc events = some (outputs, after) ∧
      PRUDPConnection.Kept pc after ∧
      stream.Following leftover (arrived ++ arrivals) reached after ∧
      stream.messages leftover next ++ outputs.filterMap (PRUDPConnection.deliveredOn substreamID) =
        stream.messages leftover reached ∧
      ∀ number < stream.total, .receive (stream.item number) ∈ events → number ∈ arrivals := by
  induction events generalizing pc arrived next with
  | nil =>
      refine ⟨[], pc, [], next, rfl, PRUDPConnection.Kept.refl pc, ?_, List.append_nil _,
        fun _ _ => nofun⟩
      rw [List.append_nil]
      exact following
  | cons event rest inductionHypothesis =>
      obtain ⟨first, middle, firstArrivals, between, stepped, kept, followingMiddle, delivered,
        firstIn⟩ := following.event pep short (permitted event List.mem_cons_self)
      obtain ⟨later, after, laterArrivals, reached, ran, keptLater, followingAfter, deliveredLater,
        laterIn⟩ := inductionHypothesis followingMiddle fun other member =>
          permitted other (List.mem_cons_of_mem event member)
      refine ⟨first ++ later, after, firstArrivals ++ laterArrivals, reached, ?_,
        kept.trans keptLater, ?_, ?_, ?_⟩
      · rw [PartialMachine.run_cons, stepped, Option.bind_some, ran]
        rfl
      · rw [← List.append_assoc]
        exact followingAfter
      · rw [List.filterMap_append, ← List.append_assoc, delivered, deliveredLater]
      · intro number below member
        rcases List.mem_cons.mp member with now | afterwards
        · exact List.mem_append_left _ (firstIn number below now.symm)
        · exact List.mem_append_right _ (laterIn number below afterwards)

end PeerStream

/-! ### From the sender's messages to the receiver's -/

namespace PRUDPConnection

variable {substreamID : UInt8}

/-- Messages sent one after another. -/
def sendingMessages (ps : PRUDPServer) :
    PartialMachine PRUDPConnection PRUDPPacketInterface PRUDPPacketInterface :=
  ⟨fun pc packet => pc.send ps packet⟩

/-- All fragments of some messages. -/
def allFragments (size : Nat) (messages : List PRUDPPacketInterface) : List PRUDPPacketInterface :=
  messages.flatMap fun message => fragmentPackets message 1 (pieces size message.payload)

theorem sendingMessages_run (ps : PRUDPServer) (positive : 0 < ps.fragmentSize)
    (pc : PRUDPConnection) (messages : List PRUDPPacketInterface) :
    (sendingMessages ps).run pc messages =
      (sending ps).run pc (allFragments ps.fragmentSize messages) := by
  induction messages generalizing pc with
  | nil => rfl
  | cons message rest inductionHypothesis =>
      rw [PartialMachine.run_cons, allFragments, List.flatMap_cons, PartialMachine.run_append]
      simp only [inductionHypothesis]
      exact congrArg (Option.bind · _) (send_eq ps positive pc message)

theorem isReliableData_fragmentPackets {message : PRUDPPacketInterface}
    (isData : IsReliableData substreamID message) (fragmentID : UInt8) (parts : List Bytes) :
    ∀ packet ∈ fragmentPackets message fragmentID parts, IsReliableData substreamID packet := by
  have cut (fragmentID : UInt8) (part : Bytes) :
      IsReliableData substreamID (withFragment message fragmentID part) :=
    ⟨isData.data, isData.reliable, isData.plain, isData.substream, isData.encrypted⟩
  fun_induction fragmentPackets message fragmentID parts with
  | case1 => exact fun _ member => absurd member List.not_mem_nil
  | case2 _ piece => exact List.forall_mem_singleton.mpr (cut 0 piece)
  | case3 fragmentID piece next rest inductionHypothesis =>
      exact List.forall_mem_cons.mpr ⟨cut fragmentID piece, inductionHypothesis⟩

theorem flags_fragmentPackets (message : PRUDPPacketInterface) (fragmentID : UInt8)
    (parts : List Bytes) :
    ∀ packet ∈ fragmentPackets message fragmentID parts, packet.flags = message.flags := by
  fun_induction fragmentPackets message fragmentID parts with
  | case1 => exact fun _ member => absurd member List.not_mem_nil
  | case2 _ piece => exact List.forall_mem_singleton.mpr rfl
  | case3 fragmentID piece next rest inductionHypothesis =>
      exact List.forall_mem_cons.mpr ⟨rfl, inductionHypothesis⟩

/-- The messages that arrive: those that were sent, each cut after every 256
fragments. -/
def cutMessages (size : Nat) (messages : List PRUDPPacketInterface) : List Bytes :=
  messages.flatMap fun message => pieces (256 * size) message.payload

theorem reassembly_allFragments {size : Nat} (positive : 0 < size)
    (messages : List PRUDPPacketInterface) :
    reassembly.log [] ((allFragments size messages).map fun packet => packet.fragment) =
      cutMessages size messages := by
  induction messages with
  | nil => rfl
  | cons message rest inductionHypothesis =>
      have empty : ([] : Bytes).length = 0 * size := (Nat.zero_mul size).symm
      have first := reassembly_fragmentsAfter message positive (le_refl message.payload.length)
        (Nat.zero_lt_succ 255) empty
      rw [allFragments, List.flatMap_cons, List.map_append, Machine.log_append]
      rw [show (fragmentPackets message 1 (pieces size message.payload)).map
        (fun packet => packet.fragment) = fragmentsAfter message size 0 message.payload from rfl,
        first.1, first.2]
      exact congrArg (_ ++ ·) inductionHypothesis

/-- Both sides are at the same place of a substream: nothing waits, and numbers
and ciphers agree. -/
structure Ready (substreamID : UInt8) (peer pc : PRUDPConnection) : Prop where
  peerPlain : peer.Plain
  plain : pc.Plain
  connected : pc.connectionState = .connected
  own : pc.Own
  queue : (pc.queueOf substreamID).queue = ∅
  expected : (pc.queueOf substreamID).nextExpectedSequenceId =
    (peer.windowOf substreamID).sequenceIDCounter + 1
  ciphers : (peer.algorithmOf substreamID).InStep (pc.algorithmOf substreamID)

/-- The messages a connection is to deliver: those that are sent, behind what is
in its fragment buffer. -/
def expectedMessages (size : Nat) (substreamID : UInt8) (pc : PRUDPConnection)
    (messages : List PRUDPPacketInterface) : List Bytes :=
  (cutMessages size messages).modifyHead (pc.getIncomingFragmentBuffer substreamID ++ ·)

/-- However the network reorders, repeats and loses what a peer sends on a
reliable substream, and whatever else happens on the connection while no SYN,
CONNECT or DISCONNECT comes: no step fails, and the expected messages come out in
order, each once. When every packet has come, so have all messages. -/
def Delivers (ps : PRUDPServer) (pep : PRUDPEndPoint) (substreamID : UInt8)
    (peer pc : PRUDPConnection) (messages : List PRUDPPacketInterface) (expected : List Bytes) :
    Prop :=
  ∃ sent peerAfter, (sendingMessages ps).run peer messages = some (sent, peerAfter) ∧
    ∀ events, (∀ event ∈ events, PeerStream.Permitted substreamID sent event) →
      ∃ outputs after, (traffic pep).run pc events = some (outputs, after) ∧ Kept pc after ∧
        outputs.filterMap (deliveredOn substreamID) <+: expected ∧
        ((∀ packet ∈ sent, .receive packet ∈ events) →
          outputs.filterMap (deliveredOn substreamID) = expected)

/-- What a peer sends is a stream that the connection follows from its start. -/
theorem Ready.follows {peer pc : PRUDPConnection} (ready : Ready substreamID peer pc)
    (ps : PRUDPServer) (positive : 0 < ps.fragmentSize) {messages : List PRUDPPacketInterface}
    (reliable : ∀ message ∈ messages, IsReliableData substreamID message) :
    ∃ (stream : PeerStream substreamID) (peerAfter : PRUDPConnection),
      (sending ps).run peer (allFragments ps.fragmentSize messages) =
        some (stream.packets, peerAfter) ∧
      stream.total = (allFragments ps.fragmentSize messages).length ∧
      stream.messages (pc.getIncomingFragmentBuffer substreamID) stream.total =
        expectedMessages ps.fragmentSize substreamID pc messages ∧
      stream.Following (pc.getIncomingFragmentBuffer substreamID) [] 0 pc := by
  have allReliable : ∀ packet ∈ allFragments ps.fragmentSize messages,
      IsReliableData substreamID packet := by
    intro packet member
    obtain ⟨message, isMessage, isFragment⟩ := List.mem_flatMap.mp member
    exact isReliableData_fragmentPackets (reliable message isMessage) _ _ packet isFragment
  obtain ⟨stream, peerAfter, sent, start, total, cipher, fragments⟩ :=
    exists_peerStream ps allReliable ready.peerPlain
  refine ⟨stream, peerAfter, sent, total, ?_, ?_⟩
  · have leftover := reassembly_leftover (pc.getIncomingFragmentBuffer substreamID) []
      (stream.fragments stream.total)
    rw [List.append_nil] at leftover
    rw [PeerStream.messages, leftover, fragments, reassembly_allFragments positive]
    rfl
  · refine ⟨ready.connected, ready.own, ⟨fun _ => nofun, held_nil _ _ ?_, ?_⟩,
      ⟨ready.plain, ?_, rfl⟩, fun _ => nofun, List.not_mem_nil⟩
    · intro sequenceID
      rw [PacketDispatchQueue.table, ready.queue]
      rfl
    · rw [ready.expected, start]
      exact (UInt16.add_zero _).symm
    · rw [cipher]
      exact ready.ciphers

theorem Ready.delivers {peer pc : PRUDPConnection} (ready : Ready substreamID peer pc)
    (ps : PRUDPServer) (pep : PRUDPEndPoint) (positive : 0 < ps.fragmentSize)
    {messages : List PRUDPPacketInterface}
    (reliable : ∀ message ∈ messages, IsReliableData substreamID message)
    (short : (allFragments ps.fragmentSize messages).length < 65536) :
    Delivers ps pep substreamID peer pc messages
      (expectedMessages ps.fragmentSize substreamID pc messages) := by
  obtain ⟨stream, peerAfter, sent, total, whole, following⟩ := ready.follows ps positive reliable
  refine ⟨stream.packets, peerAfter, (sendingMessages_run ps positive peer messages).trans sent, ?_⟩
  intro events permitted
  obtain ⟨outputs, after, arrivals, reached, ran, kept, followed, delivered, complete⟩ :=
    following.run pep (total ▸ short) permitted
  have delivered : outputs.filterMap (deliveredOn substreamID) =
      stream.messages (pc.getIncomingFragmentBuffer substreamID) reached := delivered
  refine ⟨outputs, after, ran, kept, ?_, ?_⟩
  · rw [delivered, ← whole]
    exact stream.messages_prefix _ (followed.frontier.le followed.bounded)
  · intro all
    rw [delivered, ← whole]
    refine congrArg _ (followed.frontier.eq_of_complete followed.bounded ?_)
    intro number below
    exact complete number below (all _ (PeerStream.mem_packets.mpr ⟨number, below, rfl⟩))

end PRUDPConnection

end CommunityServers.Nex
