import CommunityServers.Nex.Pending

/-!
Contract: what a sender of a reliable substream puts out, and what answers it.

Owns:
- what a sender will put out, told from its counter, its cipher and its keys alone;
- that a packet which asks for it is answered once, by an acknowledgment of it;
- what an acknowledgment and the end of a timer change.

Does not own: the network between sender and receiver.
-/

set_option autoImplicit false

namespace CommunityServers.Nex

open CommunityServers.Foundation

/-! ### What a sender will put out -/

/-- What the packets of a reliable substream are made from. -/
structure SenderView where
  counter : UInt16
  algorithm : EncryptionAlgorithm
  serverSessionID : UInt8
  sessionKey : Bytes
  signatureKey : Bytes

namespace SenderView

def send (ps : PRUDPServer) (view : SenderView) (packet : PRUDPPacketInterface) :
    PRUDPPacketInterface × SenderView :=
  let sealed := encoded view.algorithm packet.payload
  let prepared : PRUDPPacketInterface := { packet with
    sequenceID := view.counter + 1
    sessionID := view.serverSessionID
    payload := sealed.1 }
  ({ prepared with
      signature := ps.calculateSignature prepared view.sessionKey view.signatureKey },
    { view with counter := view.counter + 1, algorithm := sealed.2 })

def planned (ps : PRUDPServer) : SenderView → List PRUDPPacketInterface → List PRUDPPacketInterface
  | _, [] => []
  | view, packet :: rest => (view.send ps packet).1 :: planned ps (view.send ps packet).2 rest

end SenderView

namespace PRUDPConnection

variable {ps : PRUDPServer} {pc : PRUDPConnection} {packet : PRUDPPacketInterface}
  {substreamID : UInt8}

def view (ps : PRUDPServer) (substreamID : UInt8) (pc : PRUDPConnection) : SenderView where
  counter := (pc.windowOf substreamID).sequenceIDCounter
  algorithm := pc.algorithmOf substreamID
  serverSessionID := pc.serverSessionID
  sessionKey := pc.sessionKey
  signatureKey := signatureKey ps pc

/-- A packet of a reliable substream that is to be acknowledged. -/
def NeedsAcknowledgment (substreamID : UInt8) (packet : PRUDPPacketInterface) : Prop :=
  IsReliableData substreamID packet ∧ packet.hasFlag packetFlagNeedsAck = true

theorem NeedsAcknowledgment.send (needs : NeedsAcknowledgment substreamID packet)
    (ps : PRUDPServer) (view : SenderView) :
    NeedsAcknowledgment substreamID (view.send ps packet).1 :=
  ⟨⟨needs.1.data, needs.1.reliable, needs.1.plain, needs.1.substream, needs.1.encrypted⟩, needs.2⟩

theorem setSlidingWindow_setSlidingWindow (pc : PRUDPConnection) (substreamID : UInt8)
    (first second : SlidingWindow) :
    (pc.setSlidingWindow substreamID first).setSlidingWindow substreamID second =
      pc.setSlidingWindow substreamID second := by
  simp [setSlidingWindow]

theorem scheduleTimeout_needed (pc : PRUDPConnection)
    (needs : NeedsAcknowledgment substreamID packet) :
    pc.scheduleTimeout packet = pc.setSlidingWindow substreamID { pc.windowOf substreamID with
      timeoutManager :=
        (pc.windowOf substreamID).timeoutManager.schedulePacketTimeout ⟨packet, 1⟩ } := by
  have flagged : packet.hasFlag packetFlagReliable ∧ packet.hasFlag packetFlagNeedsAck :=
    ⟨needs.1.reliable, needs.2⟩
  unfold scheduleTimeout
  rw [if_pos flagged]
  simp only [slidingWindow_fst, slidingWindow_set, needs.1.substream]

/-- The window after a packet was sent. -/
def sentWindow (ps : PRUDPServer) (substreamID : UInt8) (pc : PRUDPConnection)
    (packet : PRUDPPacketInterface) : SlidingWindow :=
  let sent := (pc.view ps substreamID).send ps packet
  let window := pc.windowOf substreamID
  { window.withAlgorithm sent.2.algorithm with
    sequenceIDCounter := sent.2.counter
    timeoutManager := window.timeoutManager.schedulePacketTimeout ⟨sent.1, 1⟩ }

theorem sendPacket_view (ps : PRUDPServer) (plain : pc.Plain)
    (needs : NeedsAcknowledgment substreamID packet) :
    pc.sendPacket ps packet = some (((pc.view ps substreamID).send ps packet).1,
      pc.setSlidingWindow substreamID (sentWindow ps substreamID pc packet)) := by
  have isData := needs.1
  have numbered := assignSequenceID_reliable isData pc
  have undisturbed := undisturbed_assignSequenceID pc packet substreamID
  rw [numbered] at undisturbed
  have prepared := preparePayload_reliable
    (⟨isData.data, isData.reliable, isData.plain, isData.substream, isData.encrypted⟩ :
      IsReliableData substreamID { packet with
        sequenceID := (pc.windowOf substreamID).sequenceIDCounter + 1
        sessionID := pc.serverSessionID })
    (plain.of_kept undisturbed.toKept)
  have algorithm : (pc.setSlidingWindow substreamID { pc.windowOf substreamID with
      sequenceIDCounter := (pc.windowOf substreamID).sequenceIDCounter + 1 }).algorithmOf
        substreamID = pc.algorithmOf substreamID := by
    unfold algorithmOf
    rw [windowOf_set_self]
  rw [algorithm, windowOf_set_self, setSlidingWindow_setSlidingWindow] at prepared
  have finished := scheduleTimeout_needed
    (pc.setSlidingWindow substreamID (SlidingWindow.withAlgorithm { pc.windowOf substreamID with
      sequenceIDCounter := (pc.windowOf substreamID).sequenceIDCounter + 1 }
        (encoded (pc.algorithmOf substreamID) packet.payload).2))
    (needs.send ps (pc.view ps substreamID))
  rw [windowOf_set_self, setSlidingWindow_setSlidingWindow] at finished
  unfold sendPacket
  rw [numbered]
  refine Option.bind_eq_some_iff.mpr ⟨_, prepared, ?_⟩
  exact congrArg (fun connection => some (((pc.view ps substreamID).send ps packet).1, connection))
    finished

theorem view_set (pc : PRUDPConnection) (sw : SlidingWindow) :
    (pc.setSlidingWindow substreamID sw).view ps substreamID =
      { pc.view ps substreamID with
        counter := sw.sequenceIDCounter
        algorithm := sw.streamSettings.encryptionAlgorithm } := by
  unfold view algorithmOf
  rw [windowOf_set_self]
  rfl

/-- What goes on with its timers is nothing to what a sender will put out. -/
theorem view_set_timeoutManager (pc : PRUDPConnection) (tm : TimeoutManager) :
    (pc.setSlidingWindow substreamID
      { pc.windowOf substreamID with timeoutManager := tm }).view ps substreamID =
        pc.view ps substreamID := view_set pc _

theorem view_sent (pc : PRUDPConnection) (packet : PRUDPPacketInterface) :
    (pc.setSlidingWindow substreamID (sentWindow ps substreamID pc packet)).view ps substreamID =
      ((pc.view ps substreamID).send ps packet).2 := view_set pc _

theorem plain_set (plain : pc.Plain) {sw : SlidingWindow}
    (same : sw.streamSettings.compressionAlgorithm =
      (pc.windowOf substreamID).streamSettings.compressionAlgorithm) :
    (pc.setSlidingWindow substreamID sw).Plain :=
  plain.of_kept (kept_setSlidingWindow same)

theorem sending_planned (ps : PRUDPServer) {packets : List PRUDPPacketInterface}
    (all : ∀ packet ∈ packets, NeedsAcknowledgment substreamID packet) (plain : pc.Plain) :
    ∃ after, (sending ps).run pc packets =
      some ((pc.view ps substreamID).planned ps packets, after) := by
  induction packets generalizing pc with
  | nil => exact ⟨pc, rfl⟩
  | cons packet rest inductionHypothesis =>
      have sent := sendPacket_view ps plain (all packet List.mem_cons_self)
      obtain ⟨after, ran⟩ := inductionHypothesis
        (fun other member => all other (List.mem_cons_of_mem packet member))
        (plain_set plain rfl : (pc.setSlidingWindow substreamID
          (sentWindow ps substreamID pc packet)).Plain)
      rw [view_sent] at ran
      refine ⟨after, ?_⟩
      rw [sending_cons, sent, Option.bind_some, ran]
      rfl

/-! ### Acknowledgments -/

/-- The packet acknowledges another. -/
structure Acknowledges (packet ack : PRUDPPacketInterface) : Prop where
  flags : ack.flags = packetFlagAck
  packetType : ack.packetType = packet.packetType
  sequenceID : ack.sequenceID = packet.sequenceID
  substream : ack.substreamID = packet.substreamID

theorem acknowledges_of_mem {acks : List PRUDPPacketInterface} {after : PRUDPConnection}
    (same : pc.acknowledgeIfNeeded ps packet = some (acks, after)) :
    ∀ ack ∈ acks, Acknowledges packet ack := by
  have repeated (count : Nat) (acks : List PRUDPPacketInterface) (after : PRUDPConnection)
      (sent : (sending ps).run pc (List.replicate count (acknowledgment packet)) =
        some (acks, after)) : ∀ ack ∈ acks, Acknowledges packet ack := by
    induction count generalizing acks with
    | zero =>
        obtain ⟨rfl, -⟩ := Prod.mk.inj (Option.some.inj sent)
        exact fun ack member => absurd member List.not_mem_nil
    | succ count inductionHypothesis =>
        rw [List.replicate_succ, sending_cons, sendPacket_acknowledgment, Option.bind_some] at sent
        obtain ⟨later, ran, sameAcks⟩ := Option.map_eq_some_iff.mp sent
        obtain ⟨rfl, rfl⟩ := Prod.mk.inj sameAcks
        refine List.forall_mem_cons.mpr ⟨⟨rfl, rfl, rfl, rfl⟩, inductionHypothesis later.1 ran⟩
  unfold acknowledgeIfNeeded at same
  split at same
  · exact repeated _ acks after same
  · obtain ⟨rfl, -⟩ := Prod.mk.inj (Option.some.inj same)
    exact fun ack member => absurd member List.not_mem_nil

/-- The packet that an output puts on the wire. -/
def sentPacket : Output → Option PRUDPPacketInterface
  | .sent packet => some packet
  | .data _ => none

/-- What goes out when a packet of a reliable substream comes in is its answer. -/
theorem sent_receive {pep : PRUDPEndPoint} {outputs : List Output} {after : PRUDPConnection}
    (isData : IsReliableData substreamID packet) (connected : pc.connectionState = .connected)
    (same : pc.receive pep packet = some (outputs, after)) :
    pc.acknowledgeIfNeeded pep.server packet = some (outputs.filterMap sentPacket, pc) := by
  obtain ⟨acks, acknowledged⟩ := acknowledgeIfNeeded_eq pep.server pc packet
  rw [receive, if_neg (Bool.eq_false_iff.mp isData.plain), if_pos isData.data, handleData,
    if_neg (not_not.mpr connected), if_pos isData.reliable, handleReliable, acknowledged] at same
  simp only [Option.bind_eq_bind, Option.bind_some] at same
  obtain ⟨looped, -, result⟩ := Option.bind_eq_some_iff.mp same
  obtain ⟨rfl, -⟩ := Prod.mk.inj (Option.some.inj result)
  have sent : (acks.map Output.sent).filterMap sentPacket = acks := by
    rw [List.filterMap_map]
    exact List.filterMap_some
  have data : (looped.1.map Output.data).filterMap sentPacket = [] := by
    rw [List.filterMap_map]
    exact List.filterMap_eq_nil_iff.mpr fun _ _ => rfl
  rw [acknowledged, List.filterMap_append, sent, data, List.append_nil]

/-- A packet of a reliable substream is answered by acknowledgments of it only. -/
theorem acknowledges_receive {pep : PRUDPEndPoint} {outputs : List Output} {after : PRUDPConnection}
    (isData : IsReliableData substreamID packet) (connected : pc.connectionState = .connected)
    (same : pc.receive pep packet = some (outputs, after)) :
    ∀ ack ∈ outputs.filterMap sentPacket, Acknowledges packet ack :=
  acknowledges_of_mem (sent_receive isData connected same)

/-- A packet that asks for it is answered once. -/
theorem acknowledged_once {pep : PRUDPEndPoint} {outputs : List Output} {after : PRUDPConnection}
    (needs : NeedsAcknowledgment substreamID packet) (connected : pc.connectionState = .connected)
    (same : pc.receive pep packet = some (outputs, after)) :
    outputs.filterMap sentPacket = [signedAcknowledgment pep.server pc packet] := by
  have answered := sent_receive needs.1 connected same
  have notDisconnect : packet.packetType ≠ disconnectPacket := by
    rw [needs.1.data]
    decide
  rw [acknowledgeIfNeeded, if_pos needs.2, acknowledgePacket, if_neg notDisconnect,
    List.replicate_one, sending_cons, sendPacket_acknowledgment] at answered
  exact (Prod.mk.inj (Option.some.inj answered)).1.symm

/-- An acknowledgment of DATA takes its sequence ID off the pending ones. -/
theorem receive_acknowledges {pep : PRUDPEndPoint} {ack : PRUDPPacketInterface}
    (acknowledges : Acknowledges packet ack) (isData : IsReliableData substreamID packet)
    (connected : pc.connectionState = .connected) :
    pc.receive pep ack = some ([], pc.setSlidingWindow substreamID { pc.windowOf substreamID with
      timeoutManager :=
        (pc.windowOf substreamID).timeoutManager.acknowledgePacket packet.sequenceID }) := by
  have isAck := (isAcknowledgment_of_flags acknowledges.flags).1
  have single : ¬ ack.hasFlag packetFlagMultiAck = true := by
    unfold PRUDPPacket.hasFlag
    rw [acknowledges.flags]
    decide
  have notPing : ack.packetType ≠ pingPacket := by
    rw [acknowledges.packetType, isData.data]
    decide
  rw [receive, if_pos isAck, handleAcknowledgment, if_neg (not_not.mpr connected), if_neg single,
    if_neg notPing]
  simp only [slidingWindow_fst, slidingWindow_set, acknowledges.substream, isData.substream,
    acknowledges.sequenceID]
  rfl

/-- A connection that is not up ignores acknowledgments. -/
theorem receive_acknowledges_down {pep : PRUDPEndPoint} {ack : PRUDPPacketInterface}
    (acknowledges : Acknowledges packet ack) (down : pc.connectionState ≠ .connected) :
    pc.receive pep ack = some ([], pc) := by
  rw [receive, if_pos (isAcknowledgment_of_flags acknowledges.flags).1, handleAcknowledgment,
    if_pos down]
  rfl

end PRUDPConnection

/-! ### Timers -/

namespace TimeoutManager

variable {tm : TimeoutManager} {connectionState : Session.ConnectionState} {place : Nat}

/-- The end of a timer leaves what is pending, and tracks no other packets. -/
theorem start_frame (tm : TimeoutManager) (connectionState : Session.ConnectionState)
    (place : Nat) :
    (tm.start connectionState place).2.packets = tm.packets ∧
      ∀ sent ∈ (tm.start connectionState place).2.sent, ∃ before ∈ tm.sent,
        before.packet = sent.packet := by
  have same : ∀ sent ∈ tm.sent, ∃ before ∈ tm.sent, before.packet = sent.packet :=
    fun sent member => ⟨sent, member, rfl⟩
  unfold start
  split
  · split
    · exact ⟨rfl, same⟩
    next found isSent =>
      split
      · exact ⟨rfl, same⟩
      · split
        · split
          · refine ⟨rfl, fun sent member => ?_⟩
            rcases List.mem_or_eq_of_mem_set member with before | rfl
            · exact same sent before
            · exact ⟨found, List.mem_of_getElem? isSent, rfl⟩
          · exact ⟨rfl, same⟩
        · exact ⟨rfl, same⟩
  · exact ⟨rfl, same⟩

/-- Only a packet that is tracked is sent again, and only over a connection that is
up. -/
theorem start_resend {packet : PRUDPPacketInterface}
    (again : (tm.start connectionState place).1 = .resend packet) :
    connectionState = .connected ∧ ∃ sent ∈ tm.sent, sent.packet = packet := by
  unfold start at again
  split at again
  · split at again
    · cases again
    next found isSent =>
      split at again
      · cases again
      next up =>
        split at again
        · split at again
          · exact ⟨not_not.mp up, found, List.mem_of_getElem? isSent, TimerEnd.resend.inj again⟩
          · cases again
        · cases again
  · cases again

end TimeoutManager

end CommunityServers.Nex
