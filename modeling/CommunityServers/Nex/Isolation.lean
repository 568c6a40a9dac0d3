import CommunityServers.Nex.Receive

/-!
Contract: what a step of a connection leaves alone.

Owns:
- the inbound side of a substream, and the steps that do not disturb it:
  everything that is sent, and everything received for another substream or
  outside the reliable streams;
- that packets wait in the queue of their own substream;
- that without compression every step is defined.

Does not own: what becomes of the packets of the substream itself.
-/

set_option autoImplicit false

namespace CommunityServers.Nex

open CommunityServers.Foundation

namespace PRUDPConnection

variable {ps : PRUDPServer} {pep : PRUDPEndPoint} {pc before middle after : PRUDPConnection}
  {packet : PRUDPPacketInterface} {substreamID other : UInt8}

/-! ### Parts of a connection by substream -/

/-- The window of a substream, which may be yet to be created. -/
def windowOf (pc : PRUDPConnection) (substreamID : UInt8) : SlidingWindow :=
  (pc.slidingWindows substreamID).getD pc.newSlidingWindow

def queueOf (pc : PRUDPConnection) (substreamID : UInt8) : PacketDispatchQueue :=
  (pc.packetDispatchQueues substreamID).getD PacketDispatchQueue.new

def algorithmOf (pc : PRUDPConnection) (substreamID : UInt8) : EncryptionAlgorithm :=
  (pc.windowOf substreamID).streamSettings.encryptionAlgorithm

def compressionOf (pc : PRUDPConnection) (substreamID : UInt8) : CompressionAlgorithm :=
  (pc.windowOf substreamID).streamSettings.compressionAlgorithm

theorem slidingWindow_fst (pc : PRUDPConnection) (substreamID : UInt8) :
    (pc.slidingWindow substreamID).1 = pc.windowOf substreamID := by
  unfold slidingWindow windowOf
  cases pc.slidingWindows substreamID <;> rfl

theorem slidingWindow_set (pc : PRUDPConnection) (substreamID : UInt8) (sw : SlidingWindow) :
    (pc.slidingWindow substreamID).2.setSlidingWindow substreamID sw =
      pc.setSlidingWindow substreamID sw := by
  unfold slidingWindow
  cases pc.slidingWindows substreamID with
  | some _ => rfl
  | none => simp [createSlidingWindow, setSlidingWindow]

theorem packetDispatchQueue_fst (pc : PRUDPConnection) (substreamID : UInt8) :
    (pc.packetDispatchQueue substreamID).1 = pc.queueOf substreamID := by
  unfold packetDispatchQueue queueOf
  cases pc.packetDispatchQueues substreamID <;> rfl

theorem windowOf_set_self (pc : PRUDPConnection) (substreamID : UInt8) (sw : SlidingWindow) :
    (pc.setSlidingWindow substreamID sw).windowOf substreamID = sw := by
  simp [windowOf, setSlidingWindow]

theorem windowOf_set_ne (different : substreamID ≠ other) (pc : PRUDPConnection)
    (sw : SlidingWindow) :
    (pc.setSlidingWindow other sw).windowOf substreamID = pc.windowOf substreamID := by
  simp [windowOf, setSlidingWindow, different, newSlidingWindow]

theorem queueOf_set_self (pc : PRUDPConnection) (substreamID : UInt8) (pdq : PacketDispatchQueue) :
    (pc.setPacketDispatchQueue substreamID pdq).queueOf substreamID = pdq := by
  simp [queueOf, setPacketDispatchQueue]

theorem queueOf_set_ne (different : substreamID ≠ other) (pc : PRUDPConnection)
    (pdq : PacketDispatchQueue) :
    (pc.setPacketDispatchQueue other pdq).queueOf substreamID = pc.queueOf substreamID := by
  simp [queueOf, setPacketDispatchQueue, different]

/-! ### Undisturbed substreams -/

/-- The connection is up as before, and nothing is compressed differently. -/
structure Kept (before after : PRUDPConnection) : Prop where
  state : after.connectionState = before.connectionState
  settings : after.streamSettings = before.streamSettings
  compression : ∀ any, after.compressionOf any = before.compressionOf any

/-- The inbound side of a substream is as before: its queue, its fragments, and
what it is in step with. -/
structure Undisturbed (substreamID : UInt8) (before after : PRUDPConnection) : Prop
    extends Kept before after where
  queue : after.queueOf substreamID = before.queueOf substreamID
  buffer : after.getIncomingFragmentBuffer substreamID =
    before.getIncomingFragmentBuffer substreamID
  window : ∀ sending : EncryptionAlgorithm, sending.InStep (before.algorithmOf substreamID) →
    sending.InStep (after.algorithmOf substreamID)

theorem Kept.refl (pc : PRUDPConnection) : Kept pc pc := ⟨rfl, rfl, fun _ => rfl⟩

theorem Kept.trans (first : Kept before middle) (second : Kept middle after) :
    Kept before after :=
  ⟨second.state.trans first.state, second.settings.trans first.settings,
    fun any => (second.compression any).trans (first.compression any)⟩

theorem Undisturbed.refl (substreamID : UInt8) (pc : PRUDPConnection) :
    Undisturbed substreamID pc pc :=
  ⟨Kept.refl pc, rfl, rfl, fun _ inStep => inStep⟩

theorem Undisturbed.trans (first : Undisturbed substreamID before middle)
    (second : Undisturbed substreamID middle after) : Undisturbed substreamID before after :=
  ⟨first.toKept.trans second.toKept, second.queue.trans first.queue,
    second.buffer.trans first.buffer,
    fun sending inStep => second.window sending (first.window sending inStep)⟩

theorem kept_setSlidingWindow {sw : SlidingWindow}
    (compression : sw.streamSettings.compressionAlgorithm = pc.compressionOf other) :
    Kept pc (pc.setSlidingWindow other sw) := by
  refine ⟨rfl, rfl, fun any => ?_⟩
  by_cases same : any = other
  · subst same
    unfold compressionOf
    rw [windowOf_set_self]
    exact compression
  · unfold compressionOf
    rw [windowOf_set_ne same]

/-- Replacing a window disturbs nothing when the new one is in step with
whatever the old one was. -/
theorem undisturbed_setSlidingWindow {sw : SlidingWindow}
    (compression : sw.streamSettings.compressionAlgorithm = pc.compressionOf other)
    (inStep : ∀ sending : EncryptionAlgorithm, sending.InStep (pc.algorithmOf other) →
      sending.InStep sw.streamSettings.encryptionAlgorithm) (substreamID : UInt8) :
    Undisturbed substreamID pc (pc.setSlidingWindow other sw) := by
  refine ⟨kept_setSlidingWindow compression, rfl, rfl, fun sending holds => ?_⟩
  by_cases same : substreamID = other
  · subst same
    unfold algorithmOf
    rw [windowOf_set_self]
    exact inStep sending holds
  · unfold algorithmOf
    rw [windowOf_set_ne same]
    exact holds

theorem undisturbed_setSlidingWindow_ne {sw : SlidingWindow} (different : substreamID ≠ other)
    (compression : sw.streamSettings.compressionAlgorithm = pc.compressionOf other) :
    Undisturbed substreamID pc (pc.setSlidingWindow other sw) := by
  refine ⟨kept_setSlidingWindow compression, rfl, rfl, fun sending holds => ?_⟩
  unfold algorithmOf
  rw [windowOf_set_ne different]
  exact holds

theorem undisturbed_setIncomingFragmentBuffer (different : substreamID ≠ other)
    (pc : PRUDPConnection) (buffer : Bytes) :
    Undisturbed substreamID pc (pc.setIncomingFragmentBuffer other buffer) := by
  refine ⟨⟨rfl, rfl, fun _ => rfl⟩, rfl, ?_, fun _ inStep => inStep⟩
  simp [getIncomingFragmentBuffer, setIncomingFragmentBuffer, different]

theorem undisturbed_setPacketDispatchQueue (different : substreamID ≠ other)
    (pc : PRUDPConnection) (pdq : PacketDispatchQueue) :
    Undisturbed substreamID pc (pc.setPacketDispatchQueue other pdq) :=
  ⟨⟨rfl, rfl, fun _ => rfl⟩, queueOf_set_ne different pc pdq, rfl, fun _ inStep => inStep⟩

/-- Nothing is compressed on this connection. -/
structure Plain (pc : PRUDPConnection) : Prop where
  settings : pc.streamSettings.compressionAlgorithm = .dummy
  windows : ∀ substreamID, pc.compressionOf substreamID = .dummy

theorem Plain.of_kept (plain : before.Plain) (kept : Kept before after) : after.Plain where
  settings := by rw [kept.settings, plain.settings]
  windows any := by rw [kept.compression, plain.windows]

/-! ### Sending -/

theorem undisturbed_assignSequenceID (pc : PRUDPConnection) (packet : PRUDPPacketInterface)
    (substreamID : UInt8) : Undisturbed substreamID pc (pc.assignSequenceID packet).2 := by
  unfold assignSequenceID
  split
  · exact Undisturbed.refl substreamID pc
  · split
    · simp only [slidingWindow_fst, slidingWindow_set]
      refine undisturbed_setSlidingWindow ?_ ?_ substreamID
      · rfl
      · exact fun _ inStep => inStep
    · split
      · exact ⟨⟨rfl, rfl, fun _ => rfl⟩, rfl, rfl, fun _ inStep => inStep⟩
      · split
        · exact ⟨⟨rfl, rfl, fun _ => rfl⟩, rfl, rfl, fun _ inStep => inStep⟩
        · exact Undisturbed.refl substreamID pc

theorem encodePayload_plain {sw : SlidingWindow} (payload : Bytes)
    (dummy : sw.streamSettings.compressionAlgorithm = .dummy) :
    encodePayload sw payload =
      some (if payload.length ≠ 0 then sw.encrypt payload else (payload, sw)) := by
  unfold encodePayload
  rw [dummy]
  split <;> rfl

theorem preparePayload_plain (plain : pc.Plain) (packet : PRUDPPacketInterface) :
    ∃ prepared, pc.preparePayload packet = some prepared ∧
      ∀ substreamID, Undisturbed substreamID pc prepared.2 := by
  unfold preparePayload
  split
  · split
    · simp only [slidingWindow_fst, slidingWindow_set]
      rw [encodePayload_plain _ (plain.windows packet.substreamID)]
      refine ⟨_, rfl, fun substreamID => ?_⟩
      by_cases empty : packet.payload.length ≠ 0
      · rw [if_pos empty]
        refine undisturbed_setSlidingWindow ?_ ?_ substreamID
        · rfl
        · exact fun _ inStep => inStep.encrypt_right packet.payload
      · rw [if_neg empty]
        refine undisturbed_setSlidingWindow ?_ ?_ substreamID
        · rfl
        · exact fun _ inStep => inStep
    · split
      · exact ⟨_, rfl, fun substreamID =>
          ⟨⟨rfl, rfl, fun _ => rfl⟩, rfl, rfl, fun _ inStep => inStep⟩⟩
      · exact ⟨_, rfl, fun substreamID => Undisturbed.refl substreamID pc⟩
  · exact ⟨_, rfl, fun substreamID => Undisturbed.refl substreamID pc⟩

theorem undisturbed_scheduleTimeout (pc : PRUDPConnection) (packet : PRUDPPacketInterface)
    (substreamID : UInt8) : Undisturbed substreamID pc (pc.scheduleTimeout packet) := by
  unfold scheduleTimeout
  split
  · simp only [slidingWindow_fst, slidingWindow_set]
    refine undisturbed_setSlidingWindow ?_ ?_ substreamID
    · rfl
    · exact fun _ inStep => inStep
  · exact Undisturbed.refl substreamID pc

/-- Sending is defined and disturbs no substream's inbound side. -/
theorem sendPacket_plain (ps : PRUDPServer) (plain : pc.Plain) (packet : PRUDPPacketInterface) :
    ∃ sent, pc.sendPacket ps packet = some sent ∧
      ∀ substreamID, Undisturbed substreamID pc sent.2 := by
  have numbered := undisturbed_assignSequenceID pc packet
  obtain ⟨prepared, same, undisturbed⟩ := preparePayload_plain
    (plain.of_kept (numbered packet.substreamID).toKept)
    { (pc.assignSequenceID packet).1 with
      sessionID := (pc.assignSequenceID packet).2.serverSessionID }
  unfold sendPacket
  simp only [same]
  refine ⟨_, rfl, fun substreamID => ?_⟩
  exact ((numbered substreamID).trans (undisturbed substreamID)).trans
    (undisturbed_scheduleTimeout prepared.2 _ substreamID)

/-! ### Handling what was dispatched -/

/-- The payload of a packet as it is handled, and the connection after. -/
def opened (pc : PRUDPConnection) (p : PRUDPPacketInterface) : Bytes × PRUDPConnection :=
  if p.version ≠ 2 then
    (((pc.windowOf p.substreamID).decrypt p.payload).1,
      pc.setSlidingWindow p.substreamID ((pc.windowOf p.substreamID).decrypt p.payload).2)
  else (p.payload, pc)

theorem opened_kept (pc : PRUDPConnection) (p : PRUDPPacketInterface) :
    Kept pc (pc.opened p).2 := by
  unfold opened
  split
  · apply kept_setSlidingWindow
    rfl
  · exact Kept.refl pc

theorem opened_undisturbed (different : substreamID ≠ packet.substreamID) (pc : PRUDPConnection) :
    Undisturbed substreamID pc (pc.opened packet).2 := by
  unfold opened
  split
  · apply undisturbed_setSlidingWindow_ne different
    rfl
  · exact Undisturbed.refl substreamID pc

/-- The message that the last fragment completes. -/
def completed (pep : PRUDPEndPoint) (packet : PRUDPPacketInterface) (buffer : Bytes) : DataEvent :=
  ⟨packet, buffer, RMCMessage.fromBytes pep.useVerboseRMC pep.byteStreamSettings buffer⟩

/-- A DATA packet without compression: its payload goes to the buffer, which is
given out and cleared at the last fragment. -/
theorem handleDispatched_data (plain : pc.Plain) (data : packet.packetType = dataPacket) :
    pc.handleDispatched pep substreamID packet =
      let buffer := pc.getIncomingFragmentBuffer substreamID ++ (pc.opened packet).1
      some (if packet.fragmentID = 0 then
        ([completed pep packet buffer],
          (pc.opened packet).2.setIncomingFragmentBuffer substreamID [])
      else ([], (pc.opened packet).2.setIncomingFragmentBuffer substreamID buffer)) := by
  have same : (if packet.version ≠ 2 then pc.decryptPayload packet else (packet.payload, pc)) =
      pc.opened packet := by
    unfold opened decryptPayload
    rw [if_pos data]
    simp only [slidingWindow_fst, slidingWindow_set]
  have settings : (pc.opened packet).2.streamSettings.compressionAlgorithm = .dummy :=
    (plain.of_kept (opened_kept pc packet)).settings
  have buffers : (pc.opened packet).2.getIncomingFragmentBuffer substreamID =
      pc.getIncomingFragmentBuffer substreamID := by
    unfold opened
    split <;> rfl
  unfold handleDispatched
  rw [if_pos data]
  simp only [same, settings, buffers]
  by_cases last : packet.fragmentID = 0
  · simp [last, setIncomingFragmentBuffer, clearOutgoingBuffer, completed, Except.toOption,
      CompressionAlgorithm.decompress]
  · simp [last, setIncomingFragmentBuffer, Except.toOption, CompressionAlgorithm.decompress]

/-- Handling a packet is defined, disturbs no other substream, and gives out
that packet only. -/
theorem handleDispatched_plain (pep : PRUDPEndPoint) (plain : pc.Plain)
    (own : packet.substreamID = substreamID) :
    ∃ handled, pc.handleDispatched pep substreamID packet = some handled ∧
      Kept pc handled.2 ∧ handled.2.packetDispatchQueues = pc.packetDispatchQueues ∧
      (∀ any, any ≠ substreamID → Undisturbed any pc handled.2) ∧
      ∀ event ∈ handled.1, event.packet = packet := by
  by_cases data : packet.packetType = dataPacket
  · have opening := opened_kept pc packet
    have queues : (pc.opened packet).2.packetDispatchQueues = pc.packetDispatchQueues := by
      unfold opened
      split <;> rfl
    refine ⟨_, handleDispatched_data plain data, ?_⟩
    split
    · refine ⟨⟨opening.state, opening.settings, opening.compression⟩, queues, ?_, ?_⟩
      · intro any different
        exact (opened_undisturbed (own ▸ different) pc).trans
          (undisturbed_setIncomingFragmentBuffer different _ _)
      · intro event member
        rw [List.mem_singleton.mp member]
        rfl
    · refine ⟨⟨opening.state, opening.settings, opening.compression⟩, queues, ?_, ?_⟩
      · intro any different
        exact (opened_undisturbed (own ▸ different) pc).trans
          (undisturbed_setIncomingFragmentBuffer different _ _)
      · intro event member
        cases member
  · refine ⟨([], pc), ?_, Kept.refl pc, rfl, fun any _ => Undisturbed.refl any pc, ?_⟩
    · rw [handleDispatched, if_neg data]
    · intro event member
      cases member

theorem handling_plain (pep : PRUDPEndPoint) (plain : pc.Plain)
    {packets : List PRUDPPacketInterface}
    (own : ∀ packet ∈ packets, packet.substreamID = substreamID) :
    ∃ handled, (handling pep substreamID).run pc packets = some handled ∧
      Kept pc handled.2 ∧ handled.2.packetDispatchQueues = pc.packetDispatchQueues ∧
      (∀ any, any ≠ substreamID → Undisturbed any pc handled.2) ∧
      ∀ event ∈ handled.1, event.packet ∈ packets := by
  induction packets generalizing pc with
  | nil =>
      refine ⟨([], pc), rfl, Kept.refl pc, rfl, fun any _ => Undisturbed.refl any pc, ?_⟩
      intro event member
      cases member
  | cons packet rest inductionHypothesis =>
      obtain ⟨first, same, kept, queues, undisturbed, events⟩ :=
        handleDispatched_plain pep plain (own packet List.mem_cons_self)
      obtain ⟨later, laterSame, laterKept, laterQueues, laterUndisturbed, laterEvents⟩ :=
        inductionHypothesis (plain.of_kept kept) fun other member =>
          own other (List.mem_cons_of_mem packet member)
      refine ⟨(first.1 ++ later.1, later.2), ?_, kept.trans laterKept, laterQueues.trans queues,
        fun any different => (undisturbed any different).trans (laterUndisturbed any different), ?_⟩
      · rw [PartialMachine.run_cons]
        show (pc.handleDispatched pep substreamID packet).bind _ = _
        rw [same, Option.bind_some, laterSame]
        rfl
      · intro event member
        rcases List.mem_append.mp member with before | after
        · rw [events event before]
          exact List.mem_cons_self
        · exact List.mem_cons_of_mem packet (laterEvents event after)

/-! ### Queues -/

/-- Packets wait in the queue of their own substream. -/
def Own (pc : PRUDPConnection) : Prop :=
  ∀ substreamID sequenceID packet, (pc.queueOf substreamID).table sequenceID = some packet →
    packet.substreamID = substreamID

theorem Own.of_queues (own : before.Own)
    (queues : ∀ any, after.queueOf any = before.queueOf any) : after.Own := by
  intro any sequenceID packet found
  rw [queues] at found
  exact own any sequenceID packet found

theorem undisturbed_packetDispatchQueue (pc : PRUDPConnection) (other substreamID : UInt8) :
    Undisturbed substreamID pc (pc.packetDispatchQueue other).2 := by
  unfold packetDispatchQueue
  cases missing : pc.packetDispatchQueues other with
  | some pdq => exact Undisturbed.refl substreamID pc
  | none =>
      refine ⟨⟨rfl, rfl, fun _ => rfl⟩, ?_, rfl, fun _ inStep => inStep⟩
      by_cases same : substreamID = other
      · subst same
        show (pc.setPacketDispatchQueue substreamID PacketDispatchQueue.new).queueOf substreamID = _
        rw [queueOf_set_self, queueOf, missing]
        rfl
      · exact queueOf_set_ne same pc PacketDispatchQueue.new

theorem own_queuePacket (own : pc.Own) (sequenceID : UInt16) (found : PRUDPPacketInterface)
    (lookup : ((pc.queueOf packet.substreamID).queuePacket packet).table sequenceID = some found) :
    found.substreamID = packet.substreamID := by
  rw [PacketDispatchQueue.table_queuePacket] at lookup
  by_cases same : sequenceID = packet.sequenceID
  · rw [same, Function.update_self, Option.some.injEq] at lookup
    rw [← lookup]
  · rw [Function.update_of_ne same] at lookup
    exact own packet.substreamID sequenceID found lookup

/-- The queue of a packet's substream after the packet arrived and what could be
dispatched was. -/
def dispatchedBy (pc : PRUDPConnection) (packet : PRUDPPacketInterface) :
    List PRUDPPacketInterface × PacketDispatchQueue :=
  ((pc.queueOf packet.substreamID).queuePacket packet).drainAll

theorem dispatchedBy_own (own : pc.Own) (packet : PRUDPPacketInterface) :
    (∀ found ∈ (pc.dispatchedBy packet).1, found.substreamID = packet.substreamID) ∧
      ∀ sequenceID found, (pc.dispatchedBy packet).2.table sequenceID = some found →
        found.substreamID = packet.substreamID := by
  have drained := PacketDispatchQueue.drain_mem
    ((pc.queueOf packet.substreamID).queuePacket packet).queue.keys.length
    ((pc.queueOf packet.substreamID).queuePacket packet)
  constructor
  · intro found member
    obtain ⟨sequenceID, lookup⟩ := drained.1 found member
    exact own_queuePacket own sequenceID found lookup
  · intro sequenceID found lookup
    exact own_queuePacket own sequenceID found (drained.2 sequenceID found lookup)

theorem Own.setPacketDispatchQueue {pdq : PacketDispatchQueue} (own : before.Own)
    (queues : ∀ any, after.queueOf any = before.queueOf any)
    (entries : ∀ sequenceID found, pdq.table sequenceID = some found →
      found.substreamID = substreamID) : (after.setPacketDispatchQueue substreamID pdq).Own := by
  intro any sequenceID found lookup
  by_cases same : any = substreamID
  · subst same
    rw [queueOf_set_self] at lookup
    exact entries sequenceID found lookup
  · rw [queueOf_set_ne same, queues] at lookup
    exact own any sequenceID found lookup

/-! ### Receiving -/

/-- What a reliable DATA packet leads to: everything that can be dispatched is
handled in order. -/
structure DispatchedInOrder (pep : PRUDPEndPoint) (pc : PRUDPConnection)
    (packet : PRUDPPacketInterface) (acks : List PRUDPPacketInterface) (events : List DataEvent)
    (after : PRUDPConnection) : Prop where
  result : pc.handleReliable pep packet = some (acks.map .sent ++ events.map .data,
    after.setPacketDispatchQueue packet.substreamID (pc.dispatchedBy packet).2)
  ran : (handling pep packet.substreamID).run (pc.packetDispatchQueue packet.substreamID).2
    (pc.dispatchedBy packet).1 = some (events, after)
  kept : Kept pc after
  own : (after.setPacketDispatchQueue packet.substreamID (pc.dispatchedBy packet).2).Own
  undisturbed : ∀ any, any ≠ packet.substreamID → Undisturbed any pc after
  events : ∀ event ∈ events, event.packet.substreamID = packet.substreamID

theorem handleReliable_plain (pep : PRUDPEndPoint) (plain : pc.Plain) (own : pc.Own)
    (packet : PRUDPPacketInterface) :
    ∃ acks events after, DispatchedInOrder pep pc packet acks events after := by
  obtain ⟨acks, acknowledged⟩ := acknowledgeIfNeeded_eq pep.server pc packet
  have found := undisturbed_packetDispatchQueue pc packet.substreamID
  have dispatched := dispatchedBy_own own packet
  obtain ⟨⟨events, after⟩, ran, kept, queues, undisturbed, packets⟩ := handling_plain pep
    (plain.of_kept (found packet.substreamID).toKept) dispatched.1
  refine ⟨acks, events, after, ?_, ran, (found packet.substreamID).toKept.trans kept, ?_, ?_, ?_⟩
  · unfold handleReliable
    simp only [acknowledged, Option.bind_eq_bind, Option.bind_some, dispatchLoop_eq,
      packetDispatchQueue_fst]
    show ((handling pep packet.substreamID).run _ (pc.dispatchedBy packet).1).map _ >>= _ = _
    rw [ran]
    rfl
  · refine own.setPacketDispatchQueue (fun any => ?_) dispatched.2
    rw [← (found any).queue]
    unfold queueOf
    rw [queues]
  · exact fun any different => (found any).trans (undisturbed any different)
  · exact fun event member => dispatched.1 _ (packets event member)

/-- The message that was delivered on a reliable substream, if an output is one. -/
def deliveredOn (substreamID : UInt8) : Output → Option Bytes
  | .sent _ => none
  | .data event =>
      if event.packet.substreamID = substreamID ∧ event.packet.hasFlag packetFlagReliable then
        some event.payload
      else none

theorem filterMap_sent (substreamID : UInt8) (packets : List PRUDPPacketInterface) :
    (packets.map Output.sent).filterMap (deliveredOn substreamID) = [] := by
  rw [List.filterMap_map]
  exact List.filterMap_eq_nil_iff.mpr fun _ _ => rfl

theorem filterMap_data_eq_nil {events : List DataEvent}
    (foreign : ∀ event ∈ events, ¬ (event.packet.substreamID = substreamID ∧
      event.packet.hasFlag packetFlagReliable = true)) :
    (events.map Output.data).filterMap (deliveredOn substreamID) = [] := by
  rw [List.filterMap_map]
  exact List.filterMap_eq_nil_iff.mpr fun event member => if_neg (foreign event member)

/-- The packet is no reliable packet of the substream, neither opens nor ends the
connection, and its acknowledgments can be read. -/
structure Foreign (substreamID : UInt8) (packet : PRUDPPacketInterface) : Prop where
  other : packet.isAcknowledgment = true ∨ packet.substreamID ≠ substreamID ∨
    packet.hasFlag packetFlagReliable = false
  inside : packet.isAcknowledgment = true ∨ opensOrEnds packet = false
  readable : packet.hasFlag packetFlagMultiAck = true →
    usesNewFormat packet = true ∨ packet.payload.length % 2 = 0

/-- A step that is defined, leaves a substream alone and delivers nothing on it. -/
def LeavesAlone (substreamID : UInt8) (pc : PRUDPConnection)
    (result : Option (List Output × PRUDPConnection)) : Prop :=
  ∃ outputs after, result = some (outputs, after) ∧ Undisturbed substreamID pc after ∧
    after.Own ∧ outputs.filterMap (deliveredOn substreamID) = []

theorem leavesAlone_handleAcknowledgment (own : pc.Own) (packet : PRUDPPacketInterface)
    (readable : packet.hasFlag packetFlagMultiAck = true →
      usesNewFormat packet = true ∨ packet.payload.length % 2 = 0) :
    LeavesAlone substreamID pc ((pc.handleAcknowledgment packet).map fun pc => ([], pc)) := by
  have settled (other : UInt8) (tm : TimeoutManager) :
      LeavesAlone substreamID pc (some ([], (pc.slidingWindow other).2.setSlidingWindow other
        { (pc.slidingWindow other).1 with timeoutManager := tm })) := by
    refine ⟨[], _, rfl, ?_, ?_, rfl⟩
    · rw [slidingWindow_set, slidingWindow_fst]
      refine undisturbed_setSlidingWindow ?_ ?_ substreamID
      · rfl
      · exact fun _ inStep => inStep
    · rw [slidingWindow_set]
      exact own.of_queues fun _ => rfl
  have unchanged : LeavesAlone substreamID pc (some ([], pc)) :=
    ⟨[], pc, rfl, Undisturbed.refl substreamID pc, own, rfl⟩
  unfold handleAcknowledgment
  split
  · exact unchanged
  · split
    next multi =>
      have ends : (readMultiAcknowledgment packet.payload.length packet).isSome := by
        unfold readMultiAcknowledgment
        cases format : usesNewFormat packet with
        | true => rfl
        | false =>
            have even := (readable multi).resolve_left (by rw [format]; exact Bool.false_ne_true)
            simp only [Bool.false_eq_true, if_false, Option.isSome_map]
            exact readRemainingIDs_even even le_rfl
      obtain ⟨ack, read⟩ := Option.isSome_iff_exists.mp ends
      unfold handleMultiAcknowledgment
      rw [read]
      exact settled ack.substreamID _
    next =>
      split
      · exact unchanged
      · exact settled packet.substreamID _

theorem leavesAlone_handleReliable (pep : PRUDPEndPoint) (plain : pc.Plain) (own : pc.Own)
    (different : packet.substreamID ≠ substreamID) :
    LeavesAlone substreamID pc (pc.handleReliable pep packet) := by
  obtain ⟨acks, events, after, inOrder⟩ := handleReliable_plain pep plain own packet
  refine ⟨_, _, inOrder.result, ?_, inOrder.own, ?_⟩
  · exact (inOrder.undisturbed substreamID different.symm).trans
      (undisturbed_setPacketDispatchQueue different.symm _ _)
  · rw [List.filterMap_append, filterMap_sent, List.nil_append]
    apply filterMap_data_eq_nil
    rintro event member ⟨onSubstream, -⟩
    exact different ((inOrder.events event member).symm.trans onSubstream)

theorem leavesAlone_handleUnreliable (pep : PRUDPEndPoint) (own : pc.Own)
    (unreliable : packet.hasFlag packetFlagReliable = false) :
    LeavesAlone substreamID pc (pc.handleUnreliable pep packet) := by
  obtain ⟨acks, acknowledged⟩ := acknowledgeIfNeeded_eq pep.server pc packet
  unfold handleUnreliable
  simp only [acknowledged, Option.bind_eq_bind, Option.bind_some]
  split
  · exact ⟨_, pc, rfl, Undisturbed.refl substreamID pc, own, filterMap_sent substreamID acks⟩
  · refine ⟨_, _, rfl, ⟨⟨rfl, rfl, fun _ => rfl⟩, rfl, rfl, fun _ inStep => inStep⟩,
      own.of_queues fun _ => rfl, ?_⟩
    rw [List.filterMap_append, filterMap_sent, List.nil_append]
    refine filterMap_data_eq_nil (List.forall_mem_singleton.mpr ?_)
    rintro ⟨-, reliable⟩
    exact Bool.noConfusion (unreliable.symm.trans reliable)

theorem leavesAlone_handlePing (pep : PRUDPEndPoint) (own : pc.Own)
    (other : packet.substreamID ≠ substreamID ∨ packet.hasFlag packetFlagReliable = false) :
    LeavesAlone substreamID pc (pc.handlePing pep packet) := by
  obtain ⟨acks, acknowledged⟩ := acknowledgeIfNeeded_eq pep.server pc packet
  unfold handlePing
  split
  · exact ⟨[], pc, rfl, Undisturbed.refl substreamID pc, own, rfl⟩
  · simp only [acknowledged, Option.bind_eq_bind, Option.bind_some, packetDispatchQueue_fst]
    split
    next reliable =>
      have different : packet.substreamID ≠ substreamID :=
        other.resolve_right (by rw [reliable]; exact Bool.noConfusion)
      have found := undisturbed_packetDispatchQueue pc packet.substreamID
      refine ⟨_, _, rfl, ?_, ?_, filterMap_sent substreamID acks⟩
      · exact (found substreamID).trans (undisturbed_setPacketDispatchQueue different.symm _ _)
      · exact own.setPacketDispatchQueue (fun any => (found any).queue) (own_queuePacket own)
    next =>
      exact ⟨_, pc, rfl, Undisturbed.refl substreamID pc, own, filterMap_sent substreamID acks⟩

theorem leavesAlone_receive (pep : PRUDPEndPoint) (plain : pc.Plain) (own : pc.Own)
    (foreign : Foreign substreamID packet) :
    LeavesAlone substreamID pc (pc.receive pep packet) := by
  have unchanged : LeavesAlone substreamID pc (some ([], pc)) :=
    ⟨[], pc, rfl, Undisturbed.refl substreamID pc, own, rfl⟩
  unfold receive
  split
  next => exact leavesAlone_handleAcknowledgment own packet foreign.readable
  next plainPacket =>
    have other := foreign.other.resolve_left plainPacket
    have inside := foreign.inside.resolve_left plainPacket
    split
    next =>
      unfold handleData
      split
      · exact unchanged
      · split
        next reliable =>
          exact leavesAlone_handleReliable pep plain own
            (other.resolve_right (by rw [reliable]; exact Bool.noConfusion))
        next unreliable =>
          exact leavesAlone_handleUnreliable pep own (Bool.not_eq_true _ ▸ unreliable)
    next =>
      split
      · exact leavesAlone_handlePing pep own other
      · rw [if_neg (Bool.eq_false_iff.mp inside)]
        exact unchanged

theorem leavesAlone_send (ps : PRUDPServer) (plain : pc.Plain) (own : pc.Own)
    (packet : PRUDPPacketInterface) :
    LeavesAlone substreamID pc
      ((pc.sendPacket ps packet).map fun sent => ([Output.sent sent.1], sent.2)) := by
  obtain ⟨sent, same, undisturbed⟩ := sendPacket_plain ps plain packet
  refine ⟨[.sent sent.1], sent.2, ?_, undisturbed substreamID, ?_, rfl⟩
  · rw [same]
    rfl
  · exact own.of_queues fun any => (undisturbed any).queue

end PRUDPConnection

end CommunityServers.Nex
