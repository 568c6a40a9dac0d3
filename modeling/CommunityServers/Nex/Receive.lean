import CommunityServers.Nex.Acknowledge
import CommunityServers.Nex.Dispatch
import CommunityServers.Nex.RmcMessage
import CommunityServers.Nex.Send

/-!
Contract: receiving the packets of a connection that is up.

Owns:
- acknowledging, reliable and unreliable DATA packets, and PING packets;
- the traffic of a connection between its CONNECT and its end, packets in and out
  in any order;
- the loop that dispatches packets, as dispatching first and handling what was
  dispatched after;
- which parts of a connection a packet reads and changes.

Timers are left out; handling one packet is one step, as the connection is
locked meanwhile.

Does not own: the handshake, the end of a connection, and what listeners do
with the messages they are given.
-/

set_option autoImplicit false

namespace CommunityServers.Nex

open CommunityServers.Foundation

def RMCMessage.fromBytes (useVerboseRMC : Bool) (settings : ByteStreamSettings) (data : Bytes) :
    Except String RMCMessage :=
  if useVerboseRMC then decodeVerbose settings newRMCMessage data
  else decodePacked newRMCMessage data

/-- The settings of an endpoint that receiving reads. -/
structure PRUDPEndPoint where
  server : PRUDPServer
  useVerboseRMC : Bool
  byteStreamSettings : ByteStreamSettings

/-- What the listeners of DATA packets are given. -/
structure DataEvent where
  packet : PRUDPPacketInterface
  payload : Bytes
  message : Except String RMCMessage

inductive Output where
  | sent (packet : PRUDPPacketInterface)
  | data (event : DataEvent)

namespace PRUDPConnection

/-! ### Acknowledgments -/

def acknowledgment (packet : PRUDPPacketInterface) : PRUDPPacketInterface :=
  { PRUDPPacket.blank with
    version := packet.version
    packetType := packet.packetType
    flags := packetFlagAck
    sourceVirtualPort := packet.destinationVirtualPort
    destinationVirtualPort := packet.sourceVirtualPort
    sequenceID := packet.sequenceID
    fragmentID := packet.fragmentID
    substreamID := packet.substreamID }

/-- A DISCONNECT is acknowledged three times. -/
def acknowledgePacket (ps : PRUDPServer) (pc : PRUDPConnection) (packet : PRUDPPacketInterface) :
    Option (List PRUDPPacketInterface × PRUDPConnection) :=
  (sending ps).run pc (List.replicate (if packet.packetType = disconnectPacket then 3 else 1)
    (acknowledgment packet))

def acknowledgeIfNeeded (ps : PRUDPServer) (pc : PRUDPConnection) (packet : PRUDPPacketInterface) :
    Option (List PRUDPPacketInterface × PRUDPConnection) :=
  if packet.hasFlag packetFlagNeedsAck then acknowledgePacket ps pc packet else some ([], pc)

/-! ### Reliable packets -/

def decryptPayload (pc : PRUDPConnection) (p : PRUDPPacketInterface) : Bytes × PRUDPConnection :=
  if p.packetType = dataPacket then
    let found := pc.slidingWindow p.substreamID
    let decrypted := found.1.decrypt p.payload
    (decrypted.1, found.2.setSlidingWindow p.substreamID decrypted.2)
  else (p.payload, pc)

/-- A packet that was dispatched. A payload that cannot be decompressed counts
as empty. -/
def handleDispatched (pep : PRUDPEndPoint) (substreamID : UInt8) (pc : PRUDPConnection)
    (p : PRUDPPacketInterface) : Option (List DataEvent × PRUDPConnection) :=
  if p.packetType = dataPacket then do
    let decrypted := if p.version ≠ 2 then pc.decryptPayload p else (p.payload, pc)
    let pc := decrypted.2
    let decompressed ← pc.streamSettings.compressionAlgorithm.decompress decrypted.1
    let buffer := pc.getIncomingFragmentBuffer substreamID ++ decompressed.toOption.getD []
    let pc := pc.setIncomingFragmentBuffer substreamID buffer
    if p.fragmentID = 0 then
      return ([⟨p, buffer, RMCMessage.fromBytes pep.useVerboseRMC pep.byteStreamSettings buffer⟩],
        pc.clearOutgoingBuffer substreamID)
    else return ([], pc)
  else some ([], pc)

/-- The loop over the packets to dispatch, one turn for each at most. -/
def dispatchLoop (pep : PRUDPEndPoint) (substreamID : UInt8) :
    Nat → PacketDispatchQueue → PRUDPConnection →
      Option (List DataEvent × PacketDispatchQueue × PRUDPConnection)
  | 0, pdq, pc => some ([], pdq, pc)
  | turns + 1, pdq, pc =>
      match pdq.getNextToDispatch with
      | none => some ([], pdq, pc)
      | some nextPacket => do
          let handled ← pc.handleDispatched pep substreamID nextPacket
          let later ← dispatchLoop pep substreamID turns (pdq.dispatched nextPacket) handled.2
          return (handled.1 ++ later.1, later.2)

def handleReliable (pep : PRUDPEndPoint) (pc : PRUDPConnection) (packet : PRUDPPacketInterface) :
    Option (List Output × PRUDPConnection) := do
  let acknowledged ← pc.acknowledgeIfNeeded pep.server packet
  let found := acknowledged.2.packetDispatchQueue packet.substreamID
  let pdq := found.1.queuePacket packet
  let looped ← dispatchLoop pep packet.substreamID pdq.queue.keys.length pdq found.2
  return (acknowledged.1.map .sent ++ looped.1.map .data,
    looped.2.2.setPacketDispatchQueue packet.substreamID looped.2.1)

def handleUnreliable (pep : PRUDPEndPoint) (pc : PRUDPConnection)
    (packet : PRUDPPacketInterface) : Option (List Output × PRUDPConnection) := do
  let acknowledged ← pc.acknowledgeIfNeeded pep.server packet
  if packet.fragmentID ≠ 0 then return (acknowledged.1.map .sent, acknowledged.2)
  let deciphered := acknowledged.2.processUnreliableCrypto packet
  return (acknowledged.1.map .sent ++ [.data ⟨packet, deciphered.1,
    RMCMessage.fromBytes pep.useVerboseRMC pep.byteStreamSettings deciphered.1⟩], deciphered.2)

def handleData (pep : PRUDPEndPoint) (pc : PRUDPConnection) (packet : PRUDPPacketInterface) :
    Option (List Output × PRUDPConnection) :=
  if pc.connectionState ≠ .connected then some ([], pc)
  else if packet.hasFlag packetFlagReliable then pc.handleReliable pep packet
  else pc.handleUnreliable pep packet

def handlePing (pep : PRUDPEndPoint) (pc : PRUDPConnection) (packet : PRUDPPacketInterface) :
    Option (List Output × PRUDPConnection) :=
  if pc.connectionState ≠ .connected then some ([], pc)
  else do
    let acknowledged ← pc.acknowledgeIfNeeded pep.server packet
    let pc := acknowledged.2
    if packet.hasFlag packetFlagReliable then
      let found := pc.packetDispatchQueue packet.substreamID
      return (acknowledged.1.map .sent,
        found.2.setPacketDispatchQueue packet.substreamID (found.1.queuePacket packet))
    else return (acknowledged.1.map .sent, pc)

/-- A packet that opens or ends a connection. -/
def opensOrEnds (packet : PRUDPPacketInterface) : Bool :=
  [synPacket, connectPacket, disconnectPacket].contains packet.packetType

/-- A packet of a connection that is up. SYN, CONNECT and DISCONNECT are no part of
its traffic: with them this is undefined, as it is where the code panics. Types that
have no handler are logged and ignored. -/
def receive (pep : PRUDPEndPoint) (pc : PRUDPConnection) (packet : PRUDPPacketInterface) :
    Option (List Output × PRUDPConnection) :=
  if packet.isAcknowledgment then (pc.handleAcknowledgment packet).map fun pc => ([], pc)
  else if packet.packetType = dataPacket then pc.handleData pep packet
  else if packet.packetType = pingPacket then pc.handlePing pep packet
  else if opensOrEnds packet then none
  else some ([], pc)

/-- What happens on a connection: a packet comes in, or one is sent. -/
inductive TrafficEvent where
  | receive (packet : PRUDPPacketInterface)
  | send (packet : PRUDPPacketInterface)

def traffic (pep : PRUDPEndPoint) : PartialMachine PRUDPConnection TrafficEvent Output where
  step pc
    | .receive packet => pc.receive pep packet
    | .send packet => (pc.sendPacket pep.server packet).map fun sent => ([.sent sent.1], sent.2)

/-! ### Acknowledgments leave the connection as it is -/

variable {ps : PRUDPServer} {pep : PRUDPEndPoint} {pc : PRUDPConnection}
  {packet : PRUDPPacketInterface}

/-- The packet that acknowledges another, as it goes to the socket. -/
def signedAcknowledgment (ps : PRUDPServer) (pc : PRUDPConnection)
    (packet : PRUDPPacketInterface) : PRUDPPacketInterface :=
  let ack := { acknowledgment packet with sessionID := pc.serverSessionID }
  { ack with signature := ps.calculateSignature ack pc.sessionKey (signatureKey ps pc) }

theorem isAcknowledgment_of_flags {p : PRUDPPacket} (flags : p.flags = packetFlagAck) :
    p.isAcknowledgment = true ∧ p.hasFlag packetFlagReliable = false := by
  unfold PRUDPPacket.isAcknowledgment PRUDPPacket.hasFlag
  rw [flags]
  decide

theorem sendPacket_acknowledgment (ps : PRUDPServer) (pc : PRUDPConnection)
    (packet : PRUDPPacketInterface) :
    pc.sendPacket ps (acknowledgment packet) = some (signedAcknowledgment ps pc packet, pc) := by
  have numbered : pc.assignSequenceID (acknowledgment packet) = (acknowledgment packet, pc) := by
    rw [assignSequenceID, if_pos (isAcknowledgment_of_flags rfl).1]
  have prepared (p : PRUDPPacketInterface) (flags : p.flags = packetFlagAck) :
      pc.preparePayload p = some (p, pc) := by
    rw [preparePayload, if_neg (by simp [(isAcknowledgment_of_flags flags).1])]
  have unscheduled (p : PRUDPPacketInterface) (flags : p.flags = packetFlagAck) :
      pc.scheduleTimeout p = pc := by
    rw [scheduleTimeout, if_neg (by simp [(isAcknowledgment_of_flags flags).2])]
  rw [sendPacket, numbered]
  show (pc.preparePayload _).bind _ = _
  rw [prepared _ rfl, Option.bind_some]
  show some (_, pc.scheduleTimeout _) = _
  rw [unscheduled _ rfl]
  rfl

theorem acknowledgeIfNeeded_eq (ps : PRUDPServer) (pc : PRUDPConnection)
    (packet : PRUDPPacketInterface) :
    ∃ acks, pc.acknowledgeIfNeeded ps packet = some (acks, pc) := by
  have repeated (count : Nat) : ∃ acks,
      (sending ps).run pc (List.replicate count (acknowledgment packet)) = some (acks, pc) := by
    induction count with
    | zero => exact ⟨[], rfl⟩
    | succ count inductionHypothesis =>
        obtain ⟨acks, sent⟩ := inductionHypothesis
        refine ⟨signedAcknowledgment ps pc packet :: acks, ?_⟩
        rw [List.replicate_succ, sending_cons, sendPacket_acknowledgment, Option.bind_some, sent]
        rfl
  unfold acknowledgeIfNeeded
  split
  · exact repeated _
  · exact ⟨[], rfl⟩

/-! ### The loop -/

/-- Handling packets one after another as they are dispatched. -/
def handling (pep : PRUDPEndPoint) (substreamID : UInt8) :
    PartialMachine PRUDPConnection PRUDPPacketInterface DataEvent :=
  ⟨handleDispatched pep substreamID⟩

theorem dispatchLoop_eq (pep : PRUDPEndPoint) (substreamID : UInt8) (turns : Nat)
    (pdq : PacketDispatchQueue) (pc : PRUDPConnection) :
    dispatchLoop pep substreamID turns pdq pc =
      ((handling pep substreamID).run pc (pdq.drain turns).1).map fun handled =>
        (handled.1, (pdq.drain turns).2, handled.2) := by
  induction turns generalizing pdq pc with
  | zero => rfl
  | succ turns inductionHypothesis =>
      rw [dispatchLoop, PacketDispatchQueue.drain]
      cases pdq.getNextToDispatch with
      | none => rfl
      | some nextPacket =>
          simp only [inductionHypothesis]
          rw [PartialMachine.run_cons]
          show (pc.handleDispatched pep substreamID nextPacket).bind _ =
            ((pc.handleDispatched pep substreamID nextPacket).bind _).map _
          cases pc.handleDispatched pep substreamID nextPacket with
          | none => rfl
          | some handled =>
              simp only [Option.bind_some]
              cases (handling pep substreamID).run handled.2
                ((pdq.dispatched nextPacket).drain turns).1 <;> rfl

end PRUDPConnection

end CommunityServers.Nex
