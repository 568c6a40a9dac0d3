import CommunityServers.Foundation.PartialMachine
import CommunityServers.Foundation.Pieces
import CommunityServers.Nex.Connection

/-!
Contract: sending packets over a connection.

Owns:
- numbering, encryption, signing and scheduling of one packet;
- cutting a payload into fragments;
- what one reliable DATA packet becomes, and that fragments are the pieces of
  the payload under the IDs 1, 2, …, 255, 0, 1, … with 0 on the last.

A result `none` is a panic: a compression that is not defined, or a fragment
size of zero. Log output, send times and the pause between fragments are left
out.

Does not own: packet formats and the socket.
-/

set_option autoImplicit false

namespace CommunityServers.Nex

open CommunityServers.Foundation

/-- The settings of a server that sending reads. -/
structure PRUDPServer where
  fragmentSize : Nat
  legacyConnectionSignature : Bool
  calculateSignature : PRUDPPacketInterface → Bytes → Bytes → Bytes

def PRUDPPacket.isAcknowledgment (p : PRUDPPacket) : Bool :=
  p.hasFlag packetFlagAck || p.hasFlag packetFlagMultiAck

namespace PRUDPConnection

/-! ### One packet -/

/-- The payload under a key of its own. The key is changed in the connection
itself: the next packet starts from it. -/
def processUnreliableCrypto (pc : PRUDPConnection) (p : PRUDPPacketInterface) :
    Bytes × PRUDPConnection :=
  let base := pc.unreliablePacketBaseKey
  let uniqueKey := base.set 0 (base.get 0 + p.sequenceID.toUInt8)
  let uniqueKey := uniqueKey.set 1 (uniqueKey.get 1 + (p.sequenceID >>> 8).toUInt8)
  let uniqueKey := uniqueKey.set 31 (uniqueKey.get 31 + p.sessionID)
  ((Rc4.xorKeyStream (Rc4.schedule uniqueKey.toList) p.payload).1,
    { pc with unreliablePacketBaseKey := uniqueKey })

def assignSequenceID (pc : PRUDPConnection) (p : PRUDPPacketInterface) :
    PRUDPPacketInterface × PRUDPConnection :=
  if p.isAcknowledgment then (p, pc)
  else if p.hasFlag packetFlagReliable then
    let found := pc.slidingWindow p.substreamID
    let next := found.1.nextOutgoingSequenceID
    ({ p with sequenceID := next.1 }, found.2.setSlidingWindow p.substreamID next.2)
  else if p.packetType = dataPacket then
    let next := pc.outgoingUnreliableSequenceIDCounter + 1
    ({ p with sequenceID := next }, { pc with outgoingUnreliableSequenceIDCounter := next })
  else if p.packetType = pingPacket then
    let next := pc.outgoingPingSequenceIDCounter + 1
    ({ p with sequenceID := next }, { pc with outgoingPingSequenceIDCounter := next })
  else ({ p with sequenceID := 0 }, pc)

/-- A payload that is not empty is compressed and then encrypted. -/
def encodePayload (sw : SlidingWindow) (payload : Bytes) : Option (Bytes × SlidingWindow) :=
  if payload.length ≠ 0 then do
    let compressed ← sw.streamSettings.compressionAlgorithm.compress payload
    return sw.encrypt compressed
  else some (payload, sw)

def preparePayload (pc : PRUDPConnection) (p : PRUDPPacketInterface) :
    Option (PRUDPPacketInterface × PRUDPConnection) :=
  if p.packetType = dataPacket ∧ p.isAcknowledgment = false then
    if p.hasFlag packetFlagReliable then do
      let found := pc.slidingWindow p.substreamID
      let encoded ← encodePayload found.1 p.payload
      return ({ p with payload := encoded.1 }, found.2.setSlidingWindow p.substreamID encoded.2)
    else if p.version ≠ 2 then
      let ciphered := pc.processUnreliableCrypto p
      some ({ p with payload := ciphered.1 }, ciphered.2)
    else some (p, pc)
  else some (p, pc)

/-- The signature key of the connection that a server signs with. -/
def signatureKey (ps : PRUDPServer) (pc : PRUDPConnection) : Bytes :=
  if ps.legacyConnectionSignature then pc.signature else pc.serverConnectionSignature

def scheduleTimeout (pc : PRUDPConnection) (p : PRUDPPacketInterface) : PRUDPConnection :=
  if p.hasFlag packetFlagReliable ∧ p.hasFlag packetFlagNeedsAck then
    let found := pc.slidingWindow p.substreamID
    found.2.setSlidingWindow p.substreamID { found.1 with
      timeoutManager := found.1.timeoutManager.schedulePacketTimeout ⟨p, 1⟩ }
  else pc

/-- The packet that goes to the socket and the connection after it. -/
def sendPacket (ps : PRUDPServer) (pc : PRUDPConnection) (packet : PRUDPPacketInterface) :
    Option (PRUDPPacketInterface × PRUDPConnection) := do
  let numbered := pc.assignSequenceID packet
  let prepared ← numbered.2.preparePayload { numbered.1 with
    sessionID := numbered.2.serverSessionID }
  let signed : PRUDPPacketInterface := { prepared.1 with
    signature := ps.calculateSignature prepared.1 prepared.2.sessionKey
      (signatureKey ps prepared.2) }
  return (signed, prepared.2.scheduleTimeout signed)

/-! ### Fragments -/

/-- A packet set to one piece of a payload. -/
def withFragment (packet : PRUDPPacketInterface) (fragmentID : UInt8) (payload : Bytes) :
    PRUDPPacketInterface :=
  { packet with payload := payload, fragmentID := fragmentID }

def sendFragments (ps : PRUDPServer) (packet : PRUDPPacketInterface) :
    Nat → Bytes → UInt8 → PRUDPConnection → Option (List PRUDPPacketInterface × PRUDPConnection)
  | 0, _, _, pc => some ([], pc)
  | turns + 1, data, fragmentID, pc =>
      if data.length < ps.fragmentSize then do
        let first ← pc.sendPacket ps (withFragment packet 0 data)
        let rest ← sendFragments ps packet turns data fragmentID first.2
        return (first.1 :: rest.1, rest.2)
      else do
        let first ← pc.sendPacket ps (withFragment packet fragmentID (data.take ps.fragmentSize))
        let rest ← sendFragments ps packet turns (data.drop ps.fragmentSize) (fragmentID + 1)
          first.2
        return (first.1 :: rest.1, rest.2)

def send (ps : PRUDPServer) (pc : PRUDPConnection) (packet : PRUDPPacketInterface) :
    Option (List PRUDPPacketInterface × PRUDPConnection) :=
  if ps.fragmentSize = 0 then none
  else sendFragments ps packet (packet.payload.length / ps.fragmentSize + 1) packet.payload 1 pc

/-- Packets sent one after another. -/
def sending (ps : PRUDPServer) :
    PartialMachine PRUDPConnection PRUDPPacketInterface PRUDPPacketInterface :=
  ⟨fun pc packet => (pc.sendPacket ps packet).map fun sent => ([sent.1], sent.2)⟩

/-- Pieces with their IDs: the last has 0, the others count from the first ID. -/
def fragmentPackets (packet : PRUDPPacketInterface) : UInt8 → List Bytes → List PRUDPPacketInterface
  | _, [] => []
  | _, [piece] => [withFragment packet 0 piece]
  | fragmentID, piece :: next :: rest =>
      withFragment packet fragmentID piece :: fragmentPackets packet (fragmentID + 1) (next :: rest)

theorem fragmentPackets_cons (packet : PRUDPPacketInterface) (fragmentID : UInt8) (piece : Bytes)
    {rest : List Bytes} (more : rest ≠ []) :
    fragmentPackets packet fragmentID (piece :: rest) =
      withFragment packet fragmentID piece :: fragmentPackets packet (fragmentID + 1) rest := by
  obtain ⟨next, later, rfl⟩ := List.exists_cons_of_ne_nil more
  rfl

theorem sending_cons (ps : PRUDPServer) (pc : PRUDPConnection) (packet : PRUDPPacketInterface)
    (rest : List PRUDPPacketInterface) :
    (sending ps).run pc (packet :: rest) =
      (pc.sendPacket ps packet).bind fun first =>
        ((sending ps).run first.2 rest).map fun later => (first.1 :: later.1, later.2) := by
  rw [PartialMachine.run_cons]
  show ((pc.sendPacket ps packet).map _).bind _ = _
  cases pc.sendPacket ps packet <;> rfl

/-- The loop over fragments sends the pieces of the payload. -/
theorem sendFragments_eq (ps : PRUDPServer) (packet : PRUDPPacketInterface)
    (positive : 0 < ps.fragmentSize) {turns : Nat} {data : Bytes}
    (exact : data.length / ps.fragmentSize = turns) (fragmentID : UInt8) (pc : PRUDPConnection) :
    sendFragments ps packet (turns + 1) data fragmentID pc =
      (sending ps).run pc (fragmentPackets packet fragmentID (pieces ps.fragmentSize data)) := by
  induction turns generalizing data fragmentID pc with
  | zero =>
      have short : data.length < ps.fragmentSize := by
        rcases Nat.div_eq_zero_iff.mp exact with zero | short
        · omega
        · exact short
      rw [sendFragments, if_pos short, pieces_of_lt short, fragmentPackets, sending_cons]
      cases pc.sendPacket ps (withFragment packet 0 data) <;> rfl
  | succ turns inductionHypothesis =>
      have long : ¬ data.length < ps.fragmentSize := by
        intro short
        rw [Nat.div_eq_of_lt short] at exact
        cases exact
      have fewer : (data.drop ps.fragmentSize).length / ps.fragmentSize = turns := by
        have less := Nat.div_eq_sub_div positive (Nat.le_of_not_lt long)
        rw [List.length_drop]
        omega
      have more : pieces ps.fragmentSize (data.drop ps.fragmentSize) ≠ [] := by
        rw [pieces]
        split <;> exact List.cons_ne_nil _ _
      rw [sendFragments, if_neg long, pieces_of_le positive (Nat.le_of_not_lt long),
        fragmentPackets_cons packet fragmentID _ more, sending_cons]
      simp only [inductionHypothesis fewer, Option.bind_eq_bind, Option.map_eq_bind]
      rfl

theorem send_eq (ps : PRUDPServer) (positive : 0 < ps.fragmentSize) (pc : PRUDPConnection)
    (packet : PRUDPPacketInterface) :
    pc.send ps packet =
      (sending ps).run pc (fragmentPackets packet 1 (pieces ps.fragmentSize packet.payload)) := by
  rw [send, if_neg (Nat.ne_of_gt positive), sendFragments_eq ps packet positive rfl]

end PRUDPConnection

end CommunityServers.Nex
