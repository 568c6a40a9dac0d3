import CommunityServers.Nex.Isolation

/-!
Contract: a reliable substream as its sender makes it.

Owns:
- the abstract stream: packets by number, the fragment each carries, and the
  sender's cipher before each;
- that what is sent one packet after another on a substream is such a stream;
- reassembling fragments, and what the fragments of a payload are reassembled
  to.

Does not own: the network and the receiving side.
-/

set_option autoImplicit false

namespace CommunityServers.Nex

open CommunityServers.Foundation

/-! ### Fragments -/

/-- The fragments of one message are put together until one has ID 0. -/
def reassembly : Machine Bytes (UInt8 × Bytes) Bytes where
  step buffer fragment := if fragment.1 = 0 then [] else buffer ++ fragment.2
  emit buffer fragment := if fragment.1 = 0 then [buffer ++ fragment.2] else []

/-- The fragment a packet carries. -/
def PRUDPPacket.fragment (packet : PRUDPPacket) : UInt8 × Bytes :=
  (packet.fragmentID, packet.payload)

theorem reassembly_cons_of_ne {fragment : UInt8 × Bytes} (middle : fragment.1 ≠ 0)
    (buffer : Bytes) (rest : List (UInt8 × Bytes)) :
    reassembly.log buffer (fragment :: rest) = reassembly.log (buffer ++ fragment.2) rest ∧
      reassembly.exec buffer (fragment :: rest) = reassembly.exec (buffer ++ fragment.2) rest := by
  have stepped : reassembly.step buffer fragment = buffer ++ fragment.2 := if_neg middle
  have silent : reassembly.emit buffer fragment = [] := if_neg middle
  rw [Machine.log, Machine.exec_cons, stepped, silent]
  exact ⟨rfl, rfl⟩

theorem reassembly_cons_of_eq {fragment : UInt8 × Bytes} (last : fragment.1 = 0)
    (buffer : Bytes) (rest : List (UInt8 × Bytes)) :
    reassembly.log buffer (fragment :: rest) =
        (buffer ++ fragment.2) :: reassembly.log [] rest ∧
      reassembly.exec buffer (fragment :: rest) = reassembly.exec [] rest := by
  have stepped : reassembly.step buffer fragment = [] := if_pos last
  have given : reassembly.emit buffer fragment = [buffer ++ fragment.2] := if_pos last
  rw [Machine.log, Machine.exec_cons, stepped, given]
  exact ⟨rfl, rfl⟩

/-- What was left over before is put in front of the first message. -/
theorem reassembly_leftover (leftover buffer : Bytes) (fragments : List (UInt8 × Bytes)) :
    reassembly.log (leftover ++ buffer) fragments =
      (reassembly.log buffer fragments).modifyHead (leftover ++ ·) := by
  induction fragments generalizing buffer with
  | nil => rfl
  | cons fragment rest inductionHypothesis =>
      by_cases last : fragment.1 = 0
      · rw [(reassembly_cons_of_eq last _ rest).1, (reassembly_cons_of_eq last _ rest).1,
          List.append_assoc]
        rfl
      · rw [(reassembly_cons_of_ne last _ rest).1, (reassembly_cons_of_ne last _ rest).1,
          List.append_assoc, inductionHypothesis]

/-- The fragments of a payload from the one after `count` others on. -/
def fragmentsAfter (packet : PRUDPPacketInterface) (size count : Nat) (data : Bytes) :
    List (UInt8 × Bytes) :=
  (PRUDPConnection.fragmentPackets packet (UInt8.ofNat (count + 1)) (pieces size data)).map
    fun sent => sent.fragment

theorem fragmentsAfter_of_lt (packet : PRUDPPacketInterface) {size : Nat} (count : Nat)
    {data : Bytes} (short : data.length < size) :
    fragmentsAfter packet size count data = [(0, data)] := by
  rw [fragmentsAfter, pieces_of_lt short]
  rfl

theorem fragmentsAfter_of_le (packet : PRUDPPacketInterface) {size : Nat} (positive : 0 < size)
    (count : Nat) {data : Bytes} (long : size ≤ data.length) :
    fragmentsAfter packet size count data =
      (UInt8.ofNat (count + 1), data.take size) ::
        fragmentsAfter packet size (count + 1) (data.drop size) := by
  have more : pieces size (data.drop size) ≠ [] := by
    rw [pieces]
    split <;> exact List.cons_ne_nil _ _
  have next : UInt8.ofNat (count + 1) + 1 = UInt8.ofNat (count + 1 + 1) := by
    rw [UInt8.ofNat_add (count + 1) 1]
    rfl
  rw [fragmentsAfter, pieces_of_le positive long,
    PRUDPConnection.fragmentPackets_cons packet _ _ more, next]
  rfl

/-- Fragment IDs come round after 256. -/
theorem fragmentsAfter_round (packet : PRUDPPacketInterface) (size : Nat) (data : Bytes) :
    fragmentsAfter packet size 256 data = fragmentsAfter packet size 0 data := rfl

theorem reassembly_fragmentsAfter_of_lt (packet : PRUDPPacketInterface) {size count : Nat}
    (below : count < 256) {buffer data : Bytes} (filled : buffer.length = count * size)
    (short : data.length < size) :
    reassembly.log buffer (fragmentsAfter packet size count data) =
        pieces (256 * size) (buffer ++ data) ∧
      reassembly.exec buffer (fragmentsAfter packet size count data) = [] := by
  have room : (count + 1) * size ≤ 256 * size := Nat.mul_le_mul_right size below
  have whole : (buffer ++ data).length < 256 * size := by
    rw [Nat.succ_mul] at room
    rw [List.length_append, filled]
    omega
  rw [fragmentsAfter_of_lt packet count short, pieces_of_lt whole]
  exact reassembly_cons_of_eq rfl buffer []

theorem ofNat_succ_ne_zero {count : Nat} (inside : count + 1 < 256) :
    UInt8.ofNat (count + 1) ≠ 0 := by
  intro zero
  have value : (UInt8.ofNat (count + 1)).toNat = count + 1 := UInt8.toNat_ofNat_of_lt' inside
  rw [zero] at value
  exact absurd value (Nat.succ_ne_zero count).symm

/-- A message with `count` fragments of it in the buffer is cut where the IDs
come round to 0. -/
theorem reassembly_fragmentsAfter (packet : PRUDPPacketInterface) {size : Nat}
    (positive : 0 < size) {bound : Nat} {data : Bytes} (bounded : data.length ≤ bound)
    {count : Nat} (below : count < 256) {buffer : Bytes} (filled : buffer.length = count * size) :
    reassembly.log buffer (fragmentsAfter packet size count data) =
        pieces (256 * size) (buffer ++ data) ∧
      reassembly.exec buffer (fragmentsAfter packet size count data) = [] := by
  induction bound generalizing data count buffer with
  | zero => exact reassembly_fragmentsAfter_of_lt packet below filled (by omega)
  | succ bound inductionHypothesis =>
      by_cases short : data.length < size
      · exact reassembly_fragmentsAfter_of_lt packet below filled short
      have long := Nat.le_of_not_lt short
      have fewer : (data.drop size).length ≤ bound := by
        rw [List.length_drop]
        omega
      have joined : buffer ++ data = (buffer ++ data.take size) ++ data.drop size := by
        rw [List.append_assoc, List.take_append_drop]
      have filledMore : (buffer ++ data.take size).length = (count + 1) * size := by
        rw [List.length_append, filled, List.length_take_of_le long, Nat.succ_mul]
      rw [fragmentsAfter_of_le packet positive count long, joined]
      rcases Nat.lt_or_ge (count + 1) 256 with inside | round
      · have middle : (UInt8.ofNat (count + 1), data.take size).1 ≠ 0 := ofNat_succ_ne_zero inside
        have split := reassembly_cons_of_ne middle buffer
          (fragmentsAfter packet size (count + 1) (data.drop size))
        rw [split.1, split.2]
        exact inductionHypothesis fewer inside filledMore
      · obtain rfl : count = 255 := by omega
        have last : (UInt8.ofNat (255 + 1), data.take size).1 = 0 := rfl
        have split := reassembly_cons_of_eq last buffer
          (fragmentsAfter packet size (255 + 1) (data.drop size))
        have empty : ([] : Bytes).length = 0 * size := (Nat.zero_mul size).symm
        have later := inductionHypothesis fewer (Nat.zero_lt_succ 255) empty
        rw [split.1, split.2, pieces_append (Nat.mul_pos (by decide) positive) filledMore,
          fragmentsAfter_round]
        exact ⟨congrArg ((buffer ++ data.take size) :: ·) later.1, later.2⟩

/-! ### The stream of a sender -/

/-- A payload as it is sent without compression, and the cipher after it. -/
def encoded (algorithm : EncryptionAlgorithm) (payload : Bytes) : Bytes × EncryptionAlgorithm :=
  if payload.length ≠ 0 then algorithm.encrypt payload else (payload, algorithm)

/-- The packet starts or continues a message on a reliable substream. -/
structure IsReliableData (substreamID : UInt8) (packet : PRUDPPacketInterface) : Prop where
  data : packet.packetType = dataPacket
  reliable : packet.hasFlag packetFlagReliable = true
  plain : packet.isAcknowledgment = false
  substream : packet.substreamID = substreamID
  encrypted : packet.version ≠ 2

/-- Packets numbered from a first sequence ID, each with the fragment it carries
and the sender's cipher before it. -/
structure PeerStream (substreamID : UInt8) where
  start : UInt16
  total : Nat
  item : Nat → PRUDPPacketInterface
  carried : Nat → UInt8 × Bytes
  cipher : Nat → EncryptionAlgorithm
  numbered : ∀ number < total, (item number).sequenceID = start + UInt16.ofNat number
  reliable : ∀ number < total, IsReliableData substreamID (item number)
  fragmentID : ∀ number < total, (item number).fragmentID = (carried number).1
  payload : ∀ number < total,
    encoded (cipher number) (carried number).2 = ((item number).payload, cipher (number + 1))

namespace PeerStream

variable {substreamID : UInt8}

/-- The stream of a sender that sends nothing. -/
def silent (substreamID : UInt8) (start : UInt16) (algorithm : EncryptionAlgorithm) :
    PeerStream substreamID where
  start := start
  total := 0
  item _ := ⟨PRUDPPacket.blank, 0⟩
  carried _ := (0, [])
  cipher _ := algorithm
  numbered _ below := absurd below (Nat.not_lt_zero _)
  reliable _ below := absurd below (Nat.not_lt_zero _)
  fragmentID _ below := absurd below (Nat.not_lt_zero _)
  payload _ below := absurd below (Nat.not_lt_zero _)

/-- A stream with one packet in front. -/
def prepend (stream : PeerStream substreamID) (sent : PRUDPPacketInterface)
    (fragment : UInt8 × Bytes) (algorithm : EncryptionAlgorithm)
    (next : stream.start = sent.sequenceID + 1) (isData : IsReliableData substreamID sent)
    (sameID : sent.fragmentID = fragment.1)
    (sealed : encoded algorithm fragment.2 = (sent.payload, stream.cipher 0)) :
    PeerStream substreamID where
  start := sent.sequenceID
  total := stream.total + 1
  item
    | 0 => sent
    | number + 1 => stream.item number
  carried
    | 0 => fragment
    | number + 1 => stream.carried number
  cipher
    | 0 => algorithm
    | number + 1 => stream.cipher number
  numbered
    | 0, _ => (UInt16.add_zero _).symm
    | number + 1, below => by
        rw [stream.numbered number (Nat.lt_of_succ_lt_succ below), next, UInt16.ofNat_add,
          UInt16.add_assoc, UInt16.add_comm 1]
        rfl
  reliable
    | 0, _ => isData
    | number + 1, below => stream.reliable number (Nat.lt_of_succ_lt_succ below)
  fragmentID
    | 0, _ => sameID
    | number + 1, below => stream.fragmentID number (Nat.lt_of_succ_lt_succ below)
  payload
    | 0, _ => sealed
    | number + 1, below => stream.payload number (Nat.lt_of_succ_lt_succ below)

/-- All packets of a stream in order. -/
def packets (stream : PeerStream substreamID) : List PRUDPPacketInterface :=
  (List.range stream.total).map stream.item

/-- The fragments of the first packets of a stream. -/
def fragments (stream : PeerStream substreamID) (count : Nat) : List (UInt8 × Bytes) :=
  (List.range count).map stream.carried

end PeerStream

namespace PRUDPConnection

variable {ps : PRUDPServer} {pc : PRUDPConnection} {packet : PRUDPPacketInterface}
  {substreamID : UInt8}

theorem scheduleTimeout_window (pc : PRUDPConnection) (packet : PRUDPPacketInterface)
    (substreamID : UInt8) :
    ((pc.scheduleTimeout packet).windowOf substreamID).sequenceIDCounter =
        (pc.windowOf substreamID).sequenceIDCounter ∧
      (pc.scheduleTimeout packet).algorithmOf substreamID = pc.algorithmOf substreamID := by
  unfold scheduleTimeout
  split
  · simp only [slidingWindow_fst, slidingWindow_set]
    by_cases same : substreamID = packet.substreamID
    · subst same
      simp [algorithmOf, windowOf_set_self]
    · simp [algorithmOf, windowOf_set_ne same]
  · exact ⟨rfl, rfl⟩

theorem assignSequenceID_reliable (isData : IsReliableData substreamID packet)
    (pc : PRUDPConnection) :
    pc.assignSequenceID packet =
      ({ packet with sequenceID := (pc.windowOf substreamID).sequenceIDCounter + 1 },
        pc.setSlidingWindow substreamID { pc.windowOf substreamID with
          sequenceIDCounter := (pc.windowOf substreamID).sequenceIDCounter + 1 }) := by
  have numbered : ¬ packet.isAcknowledgment = true := by
    rw [isData.plain]
    exact Bool.false_ne_true
  rw [assignSequenceID, if_neg numbered, if_pos isData.reliable]
  simp only [slidingWindow_fst, slidingWindow_set, isData.substream]
  rfl

theorem preparePayload_reliable (isData : IsReliableData substreamID packet) (plain : pc.Plain) :
    pc.preparePayload packet =
      some ({ packet with payload := (encoded (pc.algorithmOf substreamID) packet.payload).1 },
        pc.setSlidingWindow substreamID ((pc.windowOf substreamID).withAlgorithm
          (encoded (pc.algorithmOf substreamID) packet.payload).2)) := by
  rw [preparePayload, if_pos ⟨isData.data, isData.plain⟩, if_pos isData.reliable]
  simp only [slidingWindow_fst, slidingWindow_set, isData.substream]
  rw [encodePayload_plain _ (plain.windows substreamID)]
  unfold encoded
  by_cases empty : packet.payload.length ≠ 0
  · rw [if_pos empty, if_pos empty]
    rfl
  · rw [if_neg empty, if_neg empty]
    rfl

/-- What one packet of a reliable substream becomes. -/
structure SentOn (substreamID : UInt8) (pc : PRUDPConnection) (packet : PRUDPPacketInterface)
    (sent : PRUDPPacketInterface) (after : PRUDPConnection) : Prop where
  isData : IsReliableData substreamID sent
  sequenceID : sent.sequenceID = (pc.windowOf substreamID).sequenceIDCounter + 1
  counter : (after.windowOf substreamID).sequenceIDCounter =
    (pc.windowOf substreamID).sequenceIDCounter + 1
  fragmentID : sent.fragmentID = packet.fragmentID
  payload : encoded (pc.algorithmOf substreamID) packet.payload =
    (sent.payload, after.algorithmOf substreamID)

theorem sendPacket_reliable (ps : PRUDPServer) (plain : pc.Plain)
    (isData : IsReliableData substreamID packet) :
    ∃ sent after, pc.sendPacket ps packet = some (sent, after) ∧ Kept pc after ∧
      SentOn substreamID pc packet sent after := by
  have numbered := assignSequenceID_reliable isData pc
  have undisturbed := undisturbed_assignSequenceID pc packet substreamID
  rw [numbered] at undisturbed
  have prepared := preparePayload_reliable
    (⟨isData.data, isData.reliable, isData.plain, isData.substream, isData.encrypted⟩ :
      IsReliableData substreamID { packet with
        sequenceID := (pc.windowOf substreamID).sequenceIDCounter + 1
        sessionID := pc.serverSessionID })
    (plain.of_kept undisturbed.toKept)
  have algorithm : (pc.setSlidingWindow substreamID { pc.windowOf substreamID with
      sequenceIDCounter := (pc.windowOf substreamID).sequenceIDCounter + 1 }).algorithmOf
        substreamID = pc.algorithmOf substreamID := by
    unfold algorithmOf
    rw [windowOf_set_self]
  rw [algorithm, windowOf_set_self] at prepared
  unfold sendPacket
  rw [numbered]
  refine ⟨_, _, Option.bind_eq_some_iff.mpr ⟨_, prepared, rfl⟩, ?_, ?_⟩
  · refine (undisturbed.toKept.trans ?_).trans
      (undisturbed_scheduleTimeout _ _ substreamID).toKept
    apply kept_setSlidingWindow
    unfold compressionOf
    rw [windowOf_set_self]
    rfl
  · refine ⟨⟨isData.data, isData.reliable, isData.plain, isData.substream, isData.encrypted⟩, rfl,
      ?_, rfl, ?_⟩
    · rw [(scheduleTimeout_window _ _ substreamID).1, windowOf_set_self]
      rfl
    · rw [(scheduleTimeout_window _ _ substreamID).2]
      unfold algorithmOf
      rw [windowOf_set_self]
      rfl

/-- Packets sent one after another on a reliable substream are a stream. -/
theorem exists_peerStream (ps : PRUDPServer) {packets : List PRUDPPacketInterface}
    (all : ∀ packet ∈ packets, IsReliableData substreamID packet) (plain : pc.Plain) :
    ∃ (stream : PeerStream substreamID) (after : PRUDPConnection),
      (sending ps).run pc packets = some (stream.packets, after) ∧
      stream.start = (pc.windowOf substreamID).sequenceIDCounter + 1 ∧
      stream.total = packets.length ∧
      stream.cipher 0 = pc.algorithmOf substreamID ∧
      stream.fragments stream.total = packets.map fun packet => packet.fragment := by
  induction packets generalizing pc with
  | nil => exact ⟨.silent substreamID _ (pc.algorithmOf substreamID), pc, rfl, rfl, rfl, rfl, rfl⟩
  | cons packet rest inductionHypothesis =>
      obtain ⟨sent, middle, same, kept, sentOn⟩ :=
        sendPacket_reliable ps plain (all packet List.mem_cons_self)
      obtain ⟨stream, after, ran, start, total, cipher, fragments⟩ :=
        inductionHypothesis (fun other member => all other (List.mem_cons_of_mem packet member))
          (plain.of_kept kept)
      have next : stream.start = sent.sequenceID + 1 := by
        rw [start, sentOn.counter, sentOn.sequenceID]
      have sealed : encoded (pc.algorithmOf substreamID) packet.fragment.2 =
          (sent.payload, stream.cipher 0) := by
        rw [cipher]
        exact sentOn.payload
      refine ⟨stream.prepend sent packet.fragment (pc.algorithmOf substreamID) next sentOn.isData
        sentOn.fragmentID sealed, after, ?_, sentOn.sequenceID, congrArg Nat.succ total, rfl, ?_⟩
      · rw [sending_cons, same, Option.bind_some, ran]
        unfold PeerStream.packets
        rw [show (stream.prepend sent packet.fragment (pc.algorithmOf substreamID) next
          sentOn.isData sentOn.fragmentID sealed).total = stream.total + 1 from rfl,
          List.range_succ_eq_map, List.map_cons, List.map_map]
        rfl
      · unfold PeerStream.fragments at fragments ⊢
        rw [show (stream.prepend sent packet.fragment (pc.algorithmOf substreamID) next
          sentOn.isData sentOn.fragmentID sealed).total = stream.total + 1 from rfl,
          List.range_succ_eq_map, List.map_cons, List.map_map, List.map_cons, ← fragments]
        rfl

end PRUDPConnection

end CommunityServers.Nex
