import CommunityServers.Nex.Outgoing

/-!
Contract: a substream from its sender over a network to its receiver, with
acknowledgments and timers.

Owns:
- two connections that both run this code, with a network that loses, repeats and
  reorders what goes either way;
- that the expected messages come out in order, each once, and that all of them
  have come when nothing is pending.

An application stops sending when it is told that the connection ended. Every
packet asks to be acknowledged; aggregate acknowledgments are never sent.

Does not own: sequence IDs that come round, and other traffic of the connections.
-/

set_option autoImplicit false

namespace CommunityServers.Nex

open CommunityServers.Foundation

/-! ### A link -/

/-- No packet waits for its acknowledgment. -/
def TimeoutManager.Settled (tm : TimeoutManager) : Prop :=
  ∀ sequenceID, tm.packets.lookup sequenceID = none

/-- Two connections, what is still to be sent, and everything that was put on the
way in either direction. -/
structure Link where
  sender : PRUDPConnection
  receiver : PRUDPConnection
  remaining : List PRUDPPacketInterface
  wire : List PRUDPPacketInterface
  answers : List PRUDPPacketInterface

/-- The next packet is sent, a timer ends, or a copy of something on the way
arrives. What never arrives is lost. -/
inductive LinkEvent where
  | send
  | expire (place : Nat)
  | arrive (index : Nat)
  | answer (index : Nat)

/-- The packet that the end of a timer puts on the wire. -/
def LifetimeOutput.resentPacket : LifetimeOutput → Option PRUDPPacketInterface
  | .resent packet => some packet
  | _ => none

/-- A link puts out the messages that the receiver delivers. -/
def linkMachine (sending receiving : PRUDPEndPoint) (substreamID : UInt8) :
    PartialMachine Link LinkEvent Bytes where
  step link
    | .send =>
        match link.remaining with
        | [] => some ([], link)
        | packet :: rest =>
            if link.sender.connectionState ≠ .connected then some ([], link)
            else (link.sender.sendPacket sending.server packet).map fun sent =>
              ([], { link with
                sender := sent.2
                remaining := rest
                wire := link.wire ++ [sent.1] })
    | .expire place =>
        match link.sender.slidingWindows substreamID with
        | none => some ([], link)
        | some sw =>
            let ended := sw.timeoutManager.start link.sender.connectionState place
            let concluded := (link.sender.setSlidingWindow substreamID
              { sw with timeoutManager := ended.2 }).concluded ended.1
            some ([], { link with
              sender := concluded.2
              wire := link.wire ++ concluded.1.filterMap LifetimeOutput.resentPacket })
    | .arrive index =>
        match link.wire[index]? with
        | none => some ([], link)
        | some packet => (link.receiver.receive receiving packet).map fun received =>
            (received.1.filterMap (PRUDPConnection.deliveredOn substreamID), { link with
              receiver := received.2
              answers := link.answers ++ received.1.filterMap PRUDPConnection.sentPacket })
    | .answer index =>
        match link.answers[index]? with
        | none => some ([], link)
        | some packet => (link.sender.receive sending packet).map fun received =>
            ([], { link with sender := received.2 })

section Links

open PRUDPConnection (NeedsAcknowledgment Acknowledges)

variable {substreamID : UInt8} {stream : PeerStream substreamID} {leftover : Bytes}
  {arrived : List Nat} {next count index : Nat} {sending receiving : PRUDPEndPoint} {link : Link}
  {packet : PRUDPPacketInterface} {after : PRUDPConnection}

theorem step_send {sent : PRUDPPacketInterface} {rest : List PRUDPPacketInterface}
    (left : link.remaining = packet :: rest) (connected : link.sender.connectionState = .connected)
    (sentFrom : link.sender.sendPacket sending.server packet = some (sent, after)) :
    (linkMachine sending receiving substreamID).step link .send = some ([], { link with
      sender := after
      remaining := rest
      wire := link.wire ++ [sent] }) := by
  unfold linkMachine
  simp only [left, connected, ne_eq, not_true_eq_false, if_false, sentFrom, Option.map_some]

theorem step_arrive (found : link.wire[index]? = some packet) :
    (linkMachine sending receiving substreamID).step link (.arrive index) =
      (link.receiver.receive receiving packet).map fun received =>
        (received.1.filterMap (PRUDPConnection.deliveredOn substreamID), { link with
          receiver := received.2
          answers := link.answers ++ received.1.filterMap PRUDPConnection.sentPacket }) := by
  unfold linkMachine
  simp only [found]

theorem step_answer (found : link.answers[index]? = some packet)
    (received : link.sender.receive sending packet = some ([], after)) :
    (linkMachine sending receiving substreamID).step link (.answer index) =
      some ([], { link with sender := after }) := by
  unfold linkMachine
  simp only [found, received, Option.map_some]

/-- A sender that is up: it has sent the first packets of the stream and will send
the others, and waits for the acknowledgment of all that did not arrive. -/
structure Outstanding (sending : PRUDPEndPoint) (stream : PeerStream substreamID)
    (arrived : List Nat) (count : Nat) (sender : PRUDPConnection)
    (remaining : List PRUDPPacketInterface) : Prop where
  plain : sender.Plain
  bounded : count ≤ stream.total
  needs : ∀ packet ∈ remaining, NeedsAcknowledgment substreamID packet
  planned : (sender.view sending.server substreamID).planned sending.server remaining =
    stream.packets.drop count
  pending : ∀ number < count, number ∉ arrived →
    ((sender.windowOf substreamID).timeoutManager.packets.lookup
      (stream.item number).sequenceID).isSome
  tracked : ∀ sent ∈ (sender.windowOf substreamID).timeoutManager.sent,
    sent.packet ∈ stream.packets

/-- A link over which a stream is sent. -/
structure Linked (sending : PRUDPEndPoint) (stream : PeerStream substreamID) (leftover : Bytes)
    (arrived : List Nat) (next : Nat) (link : Link) : Prop where
  following : stream.Following leftover arrived next link.receiver
  wire : ∀ packet ∈ link.wire, packet ∈ stream.packets
  answers : ∀ ack ∈ link.answers, ∃ number ∈ arrived, Acknowledges (stream.item number) ack
  sender : link.sender.connectionState = .connected →
    ∃ count, Outstanding sending stream arrived count link.sender link.remaining

theorem Linked.wire_concat (linked : Linked sending stream leftover arrived next link)
    (member : packet ∈ stream.packets) : ∀ other ∈ link.wire ++ [packet], other ∈ stream.packets :=
  List.forall_mem_append.mpr ⟨linked.wire, List.forall_mem_singleton.mpr member⟩

/-- Arrivals only settle. -/
theorem Outstanding.arrive {sender : PRUDPConnection} {remaining : List PRUDPPacketInterface}
    (outstanding : Outstanding sending stream arrived count sender remaining) (number : Nat) :
    Outstanding sending stream (arrived ++ [number]) count sender remaining :=
  ⟨outstanding.plain, outstanding.bounded, outstanding.needs, outstanding.planned,
    fun earlier below missing =>
    outstanding.pending earlier below fun member => missing (List.mem_append_left _ member),
    outstanding.tracked⟩

/-- The sender's manager replaced by one with no less pending. -/
theorem Outstanding.replace {sender : PRUDPConnection} {remaining : List PRUDPPacketInterface}
    (outstanding : Outstanding sending stream arrived count sender remaining) {tm : TimeoutManager}
    (pending : ∀ number < count, number ∉ arrived →
      (tm.packets.lookup (stream.item number).sequenceID).isSome)
    (tracked : ∀ sent ∈ tm.sent, sent.packet ∈ stream.packets) :
    Outstanding sending stream arrived count
      (sender.setSlidingWindow substreamID
        { sender.windowOf substreamID with timeoutManager := tm }) remaining where
  plain := PRUDPConnection.plain_set outstanding.plain rfl
  bounded := outstanding.bounded
  needs := outstanding.needs
  planned := by
    rw [PRUDPConnection.view_set_timeoutManager]
    exact outstanding.planned
  pending := by
    rw [PRUDPConnection.windowOf_set_self]
    exact pending
  tracked := by
    rw [PRUDPConnection.windowOf_set_self]
    exact tracked

/-- An event that keeps the link and delivers messages in turn. -/
def Advances (sending receiving : PRUDPEndPoint) (stream : PeerStream substreamID)
    (leftover : Bytes) (next : Nat) (link : Link) (event : LinkEvent) : Prop :=
  ∃ outputs after arrivals reached,
    (linkMachine sending receiving substreamID).step link event = some (outputs, after) ∧
    Linked sending stream leftover arrivals reached after ∧
    stream.messages leftover next ++ outputs = stream.messages leftover reached

/-- An event that delivers nothing. -/
theorem Linked.advances {event : LinkEvent} {after : Link}
    (linked : Linked sending stream leftover arrived next after)
    (stepped : (linkMachine sending receiving substreamID).step link event = some ([], after)) :
    Advances sending receiving stream leftover next link event :=
  ⟨[], after, arrived, next, stepped, linked, List.append_nil _⟩

theorem packets_getElem (below : count < stream.packets.length) :
    stream.packets[count] = stream.item count := by
  simp [PeerStream.packets]

/-- The next packet of the stream is sent. -/
theorem Outstanding.send {sender : PRUDPConnection} {packet : PRUDPPacketInterface}
    {rest : List PRUDPPacketInterface}
    (outstanding : Outstanding sending stream arrived count sender (packet :: rest)) :
    ∃ sent after, sender.sendPacket sending.server packet = some (sent, after) ∧
      sent ∈ stream.packets ∧ Outstanding sending stream arrived (count + 1) after rest := by
  have needs := outstanding.needs packet List.mem_cons_self
  have planned := outstanding.planned
  have below : count < stream.packets.length := by
    by_contra beyond
    rw [List.drop_eq_nil_of_le (Nat.le_of_not_lt beyond)] at planned
    cases planned
  rw [List.drop_eq_getElem_cons below, packets_getElem below] at planned
  obtain ⟨isItem, later⟩ := List.cons.inj planned
  have inTotal : count < stream.total := by
    rwa [PeerStream.packets, List.length_map, List.length_range] at below
  have member : stream.item count ∈ stream.packets :=
    PeerStream.mem_packets.mpr ⟨count, inTotal, rfl⟩
  -- What goes out is the item of the stream that was planned at this place.
  refine ⟨_, _, PRUDPConnection.sendPacket_view sending.server outstanding.plain needs,
    isItem ▸ member, PRUDPConnection.plain_set outstanding.plain rfl, inTotal,
    fun other isOther => outstanding.needs other (List.mem_cons_of_mem packet isOther), ?_, ?_, ?_⟩
  · rw [PRUDPConnection.view_sent]
    exact later
  · intro number inside missing
    rw [PRUDPConnection.windowOf_set_self]
    show ((TimeoutManager.schedulePacketTimeout _ _).packets.lookup _).isSome
    rw [TimeoutManager.lookup_schedule]
    split
    next => rfl
    next different =>
      rcases Nat.lt_succ_iff_lt_or_eq.mp inside with earlier | rfl
      · exact outstanding.pending number earlier missing
      · exact absurd (congrArg (fun sent => sent.sequenceID) isItem.symm) different
  · rw [PRUDPConnection.windowOf_set_self]
    exact List.forall_mem_append.mpr
      ⟨outstanding.tracked, List.forall_mem_singleton.mpr (isItem ▸ member)⟩

theorem Linked.send (linked : Linked sending stream leftover arrived next link) :
    Advances sending receiving stream leftover next link .send := by
  cases remaining : link.remaining with
  | nil =>
      refine linked.advances ?_
      unfold linkMachine
      simp only [remaining]
  | cons packet rest =>
      by_cases connected : link.sender.connectionState = .connected
      · obtain ⟨count, outstanding⟩ := linked.sender connected
        rw [remaining] at outstanding
        obtain ⟨sent, after, sentFrom, member, later⟩ := outstanding.send
        have linkedAfter : Linked sending stream leftover arrived next { link with
            sender := after
            remaining := rest
            wire := link.wire ++ [sent] } :=
          ⟨linked.following, linked.wire_concat member, linked.answers,
            fun _ => ⟨count + 1, later⟩⟩
        exact linkedAfter.advances (step_send remaining connected sentFrom)
      · refine linked.advances ?_
        unfold linkMachine
        simp only [remaining, ne_eq, connected, not_false_eq_true, if_true]

/-- The sender's part of a timer's end that does not give the connection up. -/
theorem Outstanding.expire {sender : PRUDPConnection} {remaining : List PRUDPPacketInterface}
    {sw : SlidingWindow} (outstanding : Outstanding sending stream arrived count sender remaining)
    (isWindow : sender.windowOf substreamID = sw) (connectionState : Session.ConnectionState)
    (place : Nat) :
    Outstanding sending stream arrived count (sender.setSlidingWindow substreamID
      { sw with timeoutManager := (sw.timeoutManager.start connectionState place).2 })
      remaining := by
  subst isWindow
  obtain ⟨packets, sent⟩ := TimeoutManager.start_frame
    (sender.windowOf substreamID).timeoutManager connectionState place
  refine outstanding.replace ?_ ?_
  · rw [packets]
    exact outstanding.pending
  · intro later isLater
    obtain ⟨before, isBefore, same⟩ := sent later isLater
    exact same ▸ outstanding.tracked before isBefore

theorem Linked.expire (linked : Linked sending stream leftover arrived next link) (place : Nat) :
    Advances sending receiving stream leftover next link (.expire place) := by
  cases window : link.sender.slidingWindows substreamID with
  | none =>
      refine linked.advances ?_
      unfold linkMachine
      simp only [window]
  | some sw =>
      have isWindow : link.sender.windowOf substreamID = sw := by
        unfold PRUDPConnection.windowOf
        rw [window]
        rfl
      cases ended : (sw.timeoutManager.start link.sender.connectionState place).1 with
      | nothing =>
          have linkedAfter : Linked sending stream leftover arrived next { link with
              sender := link.sender.setSlidingWindow substreamID { sw with timeoutManager :=
                (sw.timeoutManager.start link.sender.connectionState place).2 } } := by
            refine ⟨linked.following, linked.wire, linked.answers, fun connected => ?_⟩
            obtain ⟨count, outstanding⟩ := linked.sender connected
            exact ⟨count, outstanding.expire isWindow link.sender.connectionState place⟩
          refine linkedAfter.advances ?_
          unfold linkMachine
          simp only [window, ended, PRUDPConnection.concluded, List.filterMap_nil, List.append_nil]
      | resend packet =>
          -- Only a connection that is up sends again, and only what it sent before.
          obtain ⟨connected, tracked, isTracked, rfl⟩ := TimeoutManager.start_resend ended
          obtain ⟨count, outstanding⟩ := linked.sender connected
          have member : tracked.packet ∈ stream.packets :=
            outstanding.tracked tracked (isWindow ▸ isTracked)
          have linkedAfter : Linked sending stream leftover arrived next { link with
              sender := link.sender.setSlidingWindow substreamID { sw with timeoutManager :=
                (sw.timeoutManager.start link.sender.connectionState place).2 }
              wire := link.wire ++ [tracked.packet] } :=
            ⟨linked.following, linked.wire_concat member, linked.answers, fun _ =>
              ⟨count, outstanding.expire isWindow link.sender.connectionState place⟩⟩
          refine linkedAfter.advances ?_
          unfold linkMachine
          simp only [window, ended, PRUDPConnection.concluded]
          rfl
      | cleanup =>
          -- A connection that was given up promises nothing any more.
          have linkedAfter : Linked sending stream leftover arrived next { link with
              sender := (link.sender.setSlidingWindow substreamID { sw with timeoutManager :=
                (sw.timeoutManager.start link.sender.connectionState place).2 }).reset } :=
            ⟨linked.following, linked.wire, linked.answers, fun connected => by cases connected⟩
          refine linkedAfter.advances ?_
          unfold linkMachine
          have nothing : [LifetimeOutput.ended].filterMap LifetimeOutput.resentPacket = [] := rfl
          simp only [window, ended, PRUDPConnection.concluded, nothing, List.append_nil]

/-- A copy of something on the wire reaches the receiver. -/
theorem Linked.arrive (linked : Linked sending stream leftover arrived next link)
    (short : stream.total < 65536) (index : Nat) :
    Advances sending receiving stream leftover next link (.arrive index) := by
  cases found : link.wire[index]? with
  | none =>
      refine linked.advances ?_
      unfold linkMachine
      simp only [found]
  | some packet =>
      obtain ⟨number, below, rfl⟩ :=
        PeerStream.mem_packets.mp (linked.wire packet (List.mem_of_getElem? found))
      obtain ⟨outputs, after, reached, received, -, following, delivered⟩ :=
        linked.following.receive receiving short below
      have acks := PRUDPConnection.acknowledges_receive (stream.reliable number below)
        linked.following.connected received
      refine ⟨_, { link with
          receiver := after
          answers := link.answers ++ outputs.filterMap PRUDPConnection.sentPacket },
        arrived ++ [number], reached, ?_, ?_, delivered⟩
      · rw [step_arrive found, received, Option.map_some]
      · refine ⟨following, linked.wire, ?_, ?_⟩
        · intro ack member
          rcases List.mem_append.mp member with before | now
          · obtain ⟨earlier, isArrived, acknowledges⟩ := linked.answers ack before
            exact ⟨earlier, List.mem_append_left _ isArrived, acknowledges⟩
          · exact ⟨number, List.mem_append_right _ List.mem_cons_self, acks ack now⟩
        · intro connected
          obtain ⟨count, outstanding⟩ := linked.sender connected
          exact ⟨count, outstanding.arrive number⟩

/-- An acknowledgment settles a packet that arrived, and no other. -/
theorem Outstanding.acknowledge {sender : PRUDPConnection}
    {remaining : List PRUDPPacketInterface}
    (outstanding : Outstanding sending stream arrived count sender remaining)
    (short : stream.total < 65536) {number : Nat} (below : number < stream.total)
    (isArrived : number ∈ arrived) :
    Outstanding sending stream arrived count (sender.setSlidingWindow substreamID
      { sender.windowOf substreamID with
        timeoutManager := (sender.windowOf substreamID).timeoutManager.acknowledgePacket
          (stream.item number).sequenceID }) remaining := by
  refine outstanding.replace ?_ outstanding.tracked
  intro other inside missing
  have otherBelow : other < stream.total := Nat.lt_of_lt_of_le inside outstanding.bounded
  have different : (stream.item other).sequenceID ≠ (stream.item number).sequenceID := by
    rw [stream.numbered other otherBelow, stream.numbered number below, ne_eq, sequenceID_eq_iff]
    intro same
    -- Numbers below 65536 have different sequence IDs.
    obtain rfl : other = number := by omega
    exact missing isArrived
  rw [show (TimeoutManager.acknowledgePacket _ _).packets.lookup (stream.item other).sequenceID =
    _ from AList.lookup_erase_ne different]
  exact outstanding.pending other inside missing

theorem Linked.answer (linked : Linked sending stream leftover arrived next link)
    (short : stream.total < 65536) (index : Nat) :
    Advances sending receiving stream leftover next link (.answer index) := by
  cases found : link.answers[index]? with
  | none =>
      refine linked.advances ?_
      unfold linkMachine
      simp only [found]
  | some ack =>
      obtain ⟨number, isArrived, acknowledges⟩ :=
        linked.answers ack (List.mem_of_getElem? found)
      have below := linked.following.bounded number isArrived
      by_cases connected : link.sender.connectionState = .connected
      · obtain ⟨count, outstanding⟩ := linked.sender connected
        have received : link.sender.receive sending ack = _ :=
          PRUDPConnection.receive_acknowledges acknowledges (stream.reliable number below) connected
        have linkedAfter : Linked sending stream leftover arrived next { link with
            sender := link.sender.setSlidingWindow substreamID
              { link.sender.windowOf substreamID with
                timeoutManager :=
                  (link.sender.windowOf substreamID).timeoutManager.acknowledgePacket
                    (stream.item number).sequenceID } } :=
          ⟨linked.following, linked.wire, linked.answers, fun _ =>
            ⟨count, outstanding.acknowledge short below isArrived⟩⟩
        exact linkedAfter.advances (step_answer found received)
      · have received : link.sender.receive sending ack = _ :=
          PRUDPConnection.receive_acknowledges_down acknowledges connected
        exact linked.advances (step_answer found received)

/-- Any event of a link. -/
theorem Linked.step (receiving : PRUDPEndPoint)
    (linked : Linked sending stream leftover arrived next link) (short : stream.total < 65536)
    (event : LinkEvent) : Advances sending receiving stream leftover next link event := by
  cases event with
  | send => exact linked.send
  | expire place => exact linked.expire place
  | arrive index => exact linked.arrive short index
  | answer index => exact linked.answer short index

/-- Any run of a link. -/
theorem Linked.run (receiving : PRUDPEndPoint)
    (linked : Linked sending stream leftover arrived next link)
    (short : stream.total < 65536) (events : List LinkEvent) :
    ∃ outputs after, (linkMachine sending receiving substreamID).run link events =
        some (outputs, after) ∧
      ∃ arrivals reached, Linked sending stream leftover arrivals reached after ∧
        stream.messages leftover next ++ outputs = stream.messages leftover reached := by
  refine PartialMachine.run_of_step (fun history state => ∃ arrivals reached,
    Linked sending stream leftover arrivals reached state ∧
      history = stream.messages leftover reached) ?_ ⟨arrived, next, linked, rfl⟩ events
  rintro history state event ⟨arrivals, reached, linkedBefore, rfl⟩
  obtain ⟨outputs, after, arrivalsAfter, reachedAfter, stepped, linkedAfter, delivered⟩ :=
    linkedBefore.step receiving short event
  exact ⟨outputs, after, stepped, arrivalsAfter, reachedAfter, linkedAfter, delivered⟩

/-- Every fragment of a message asks to be acknowledged as the message does. -/
theorem needsAcknowledgment_allFragments {messages : List PRUDPPacketInterface} (size : Nat)
    (needs : ∀ message ∈ messages, NeedsAcknowledgment substreamID message) :
    ∀ packet ∈ PRUDPConnection.allFragments size messages,
      NeedsAcknowledgment substreamID packet := by
  intro packet member
  obtain ⟨message, isMessage, isFragment⟩ := List.mem_flatMap.mp member
  have needed := needs message isMessage
  refine ⟨PRUDPConnection.isReliableData_fragmentPackets needed.1 _ _ packet isFragment, ?_⟩
  unfold PRUDPPacket.hasFlag
  rw [PRUDPConnection.flags_fragmentPackets _ _ _ packet isFragment]
  exact needed.2

theorem needsAcknowledgment_planned {ps : PRUDPServer} {packets : List PRUDPPacketInterface}
    (needs : ∀ packet ∈ packets, NeedsAcknowledgment substreamID packet) (view : SenderView) :
    ∀ packet ∈ view.planned ps packets, NeedsAcknowledgment substreamID packet := by
  induction packets generalizing view with
  | nil => exact fun _ member => absurd member List.not_mem_nil
  | cons packet rest inductionHypothesis =>
      obtain ⟨first, others⟩ := List.forall_mem_cons.mp needs
      exact List.forall_mem_cons.mpr ⟨first.send ps view, inductionHypothesis others _⟩

/-- A link at its start: nothing is on the way. -/
def Link.start (sender receiver : PRUDPConnection) (packets : List PRUDPPacketInterface) : Link :=
  ⟨sender, receiver, packets, [], []⟩

/-- A sender with no packet sent, and a receiver that follows from the start. -/
theorem Linked.start {sender receiver : PRUDPConnection} {packets : List PRUDPPacketInterface}
    (plain : sender.Plain) (idle : (sender.windowOf substreamID).timeoutManager.sent = [])
    (needs : ∀ packet ∈ packets, NeedsAcknowledgment substreamID packet)
    (planned : (sender.view sending.server substreamID).planned sending.server packets =
      stream.packets) (following : stream.Following leftover [] 0 receiver) :
    Linked sending stream leftover [] 0 (.start sender receiver packets) where
  following := following
  wire _ member := absurd member List.not_mem_nil
  answers _ member := absurd member List.not_mem_nil
  sender _ := ⟨0, plain, Nat.zero_le _, needs, planned,
    fun _ below => absurd below (Nat.not_lt_zero _),
    fun sent member => absurd (idle ▸ member : sent ∈ []) List.not_mem_nil⟩

/-- A sender that is still up, has sent everything and waits for nothing: all
packets have arrived. -/
theorem Linked.complete (linked : Linked sending stream leftover arrived next link)
    (connected : link.sender.connectionState = .connected) (allSent : link.remaining = [])
    (settled : (link.sender.windowOf substreamID).timeoutManager.Settled) :
    next = stream.total := by
  obtain ⟨count, outstanding⟩ := linked.sender connected
  have nothingLeft : stream.packets.drop count = [] := by
    rw [← outstanding.planned, allSent]
    rfl
  have whole : stream.total ≤ count := by
    have length := List.drop_eq_nil_iff.mp nothingLeft
    rwa [PeerStream.packets, List.length_map, List.length_range] at length
  refine linked.following.frontier.eq_of_complete linked.following.bounded ?_
  intro number below
  by_contra missing
  have pending := outstanding.pending number (Nat.lt_of_lt_of_le below whole) missing
  rw [settled] at pending
  cases pending

/-- A link that is ready has a stream that its receiver is to follow. -/
theorem Linked.of_ready {sender receiver : PRUDPConnection}
    (ready : PRUDPConnection.Ready substreamID sender receiver)
    (idle : (sender.windowOf substreamID).timeoutManager.sent = [])
    (positive : 0 < sending.server.fragmentSize) {messages : List PRUDPPacketInterface}
    (needs : ∀ message ∈ messages, NeedsAcknowledgment substreamID message) :
    ∃ stream : PeerStream substreamID,
      stream.total = (PRUDPConnection.allFragments sending.server.fragmentSize messages).length ∧
      stream.messages (receiver.getIncomingFragmentBuffer substreamID) stream.total =
        PRUDPConnection.expectedMessages sending.server.fragmentSize substreamID receiver messages ∧
      (∀ packet ∈ stream.packets, NeedsAcknowledgment substreamID packet) ∧
      Linked sending stream (receiver.getIncomingFragmentBuffer substreamID) [] 0
        (.start sender receiver
          (PRUDPConnection.allFragments sending.server.fragmentSize messages)) := by
  obtain ⟨stream, peerAfter, sent, total, whole, following⟩ :=
    ready.follows sending.server positive fun message member => (needs message member).1
  have needsAll := needsAcknowledgment_allFragments sending.server.fragmentSize needs
  have planned : (sender.view sending.server substreamID).planned sending.server
      (PRUDPConnection.allFragments sending.server.fragmentSize messages) = stream.packets := by
    obtain ⟨last, ran⟩ := PRUDPConnection.sending_planned sending.server needsAll ready.peerPlain
    rw [sent] at ran
    exact (Prod.ext_iff.mp (Option.some.inj ran)).1.symm
  refine ⟨stream, total, whole, ?_, .start ready.peerPlain idle needsAll planned following⟩
  rw [← planned]
  exact needsAcknowledgment_planned needsAll _

/-- A client of the sample that is up. -/
def sampleSender : PRUDPConnection :=
  { PRUDPConnection.sampleClient newStreamSettings.encryptionAlgorithm.copy with
    connectionState := .connected }

theorem sampleSender_ready :
    PRUDPConnection.Ready 0 sampleSender PRUDPConnection.sampleRunning := by
  have client := PRUDPConnection.sampleClient_client newStreamSettings.encryptionAlgorithm.copy
  have sender : PRUDPConnection.Client 0 newStreamSettings.encryptionAlgorithm.copy sampleSender :=
    ⟨⟨client.plain.settings, client.plain.windows⟩, client.counter, client.algorithm⟩
  exact sender.ready rfl ⟨rfl, fun _ => rfl⟩ (fun _ => rfl) PRUDPConnection.freshSettings_new.inStep

theorem sampleMessage_needsAcknowledgment :
    ∀ message ∈ [PRUDPConnection.sampleMessage], NeedsAcknowledgment 0 message :=
  List.forall_mem_singleton.mpr
    ⟨PRUDPConnection.sampleMessage_isReliableData _ List.mem_cons_self, by decide⟩

/-- **Acknowledged means delivered.** Two connections with one substream between
them, whatever the network loses, repeats and reorders and however the timers
end: no step fails, and the messages come out in order, each once. When the sender
is still up, has sent everything and waits for no acknowledgment, all have come. -/
theorem link_delivers {sender receiver : PRUDPConnection}
    (ready : PRUDPConnection.Ready substreamID sender receiver)
    (idle : (sender.windowOf substreamID).timeoutManager.sent = [])
    (positive : 0 < sending.server.fragmentSize) {messages : List PRUDPPacketInterface}
    (needs : ∀ message ∈ messages, NeedsAcknowledgment substreamID message)
    (short : (PRUDPConnection.allFragments sending.server.fragmentSize messages).length < 65536)
    (events : List LinkEvent) :
    ∃ outputs after, (linkMachine sending receiving substreamID).run
        (.start sender receiver (PRUDPConnection.allFragments sending.server.fragmentSize messages))
        events = some (outputs, after) ∧
      outputs <+: PRUDPConnection.expectedMessages sending.server.fragmentSize substreamID receiver
        messages ∧
      (after.sender.connectionState = .connected → after.remaining = [] →
        (after.sender.windowOf substreamID).timeoutManager.Settled →
        outputs = PRUDPConnection.expectedMessages sending.server.fragmentSize substreamID receiver
          messages) := by
  obtain ⟨stream, total, whole, -, linked⟩ := Linked.of_ready ready idle positive needs
  obtain ⟨outputs, after, ran, arrivals, reached, linkedAfter, delivered⟩ :=
    linked.run receiving (total ▸ short) events
  have delivered : outputs = stream.messages _ reached := delivered
  refine ⟨outputs, after, ran, ?_, ?_⟩
  · rw [delivered, ← whole]
    exact stream.messages_prefix _
      (linkedAfter.following.frontier.le linkedAfter.following.bounded)
  · intro connected allSent settled
    rw [delivered, ← whole, linkedAfter.complete connected allSent settled]

/-- A packet that is lost and sent again. -/
theorem link_delivers_sample :
    ∃ outputs after, (linkMachine PRUDPConnection.sampleEndPoint PRUDPConnection.sampleEndPoint
        0).run (.start sampleSender PRUDPConnection.sampleRunning
          (PRUDPConnection.allFragments 1300 [PRUDPConnection.sampleMessage]))
        [.send, .expire 0, .arrive 1, .arrive 0, .answer 0] = some (outputs, after) ∧
      outputs <+: PRUDPConnection.expectedMessages 1300 0 PRUDPConnection.sampleRunning
        [PRUDPConnection.sampleMessage] ∧
      (after.sender.connectionState = .connected → after.remaining = [] →
        (after.sender.windowOf 0).timeoutManager.Settled →
        outputs = PRUDPConnection.expectedMessages 1300 0 PRUDPConnection.sampleRunning
          [PRUDPConnection.sampleMessage]) :=
  @link_delivers 0 PRUDPConnection.sampleEndPoint PRUDPConnection.sampleEndPoint sampleSender
    PRUDPConnection.sampleRunning sampleSender_ready rfl (by decide) _
    sampleMessage_needsAcknowledgment PRUDPConnection.sampleMessage_fragments
    [.send, .expire 0, .arrive 1, .arrive 0, .answer 0]

end Links

end CommunityServers.Nex
