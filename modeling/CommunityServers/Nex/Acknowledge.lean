import CommunityServers.Nex.ByteStream
import CommunityServers.Nex.Connection

/-!
Contract: acknowledgments that arrive for packets sent before.

Owns:
- single and aggregate acknowledgments, in both formats of the latter;
- which aggregate acknowledgments are ever read to their end;
- exactly which pending packets an aggregate acknowledgment settles.

Errors of the readers are dropped by the source: a read that fails gives zero
and reads nothing. Round trip times are left out. A result `none` is a loop that
does not end.

Does not own: sending again what is not acknowledged.
-/

set_option autoImplicit false

namespace CommunityServers.Nex

open CommunityServers.Foundation
open CommunityServers.Foundation.Reader

def TimeoutManager.acknowledgePacket (tm : TimeoutManager) (sequenceID : UInt16) :
    TimeoutManager :=
  { tm with packets := tm.packets.erase sequenceID }

/-! ### Reading aggregate acknowledgments -/

/-- A read whose error is dropped. -/
def lenient {Value : Type} [OfNat Value 0] (reader : Reader Value) (input : Bytes) :
    Value × Bytes :=
  match reader input with
  | .ok result => result
  | .error _ => (0, input)

def readAdditionalIDs : Nat → Bytes → List UInt16
  | 0, _ => []
  | count + 1, input =>
      let additionalID := lenient readUInt16LE input
      additionalID.1 :: readAdditionalIDs count additionalID.2

/-- The loop that reads while bytes are left; `none` when its turns ran out. -/
def readRemainingIDs : Nat → Bytes → Option (List UInt16)
  | _, [] => some []
  | 0, _ :: _ => none
  | turns + 1, byte :: input =>
      let additionalID := lenient readUInt16LE (byte :: input)
      (readRemainingIDs turns additionalID.2).map (additionalID.1 :: ·)

/-- The substream, the ID up to which everything is acknowledged, and further
IDs. -/
structure MultiAcknowledgment where
  substreamID : UInt8
  baseSequenceID : UInt16
  sequenceIDs : List UInt16
deriving DecidableEq

def usesNewFormat (packet : PRUDPPacketInterface) : Bool :=
  packet.substreamID == 1 || packet.version == 2

def readMultiAcknowledgment (turns : Nat) (packet : PRUDPPacketInterface) :
    Option MultiAcknowledgment :=
  if usesNewFormat packet then
    let substreamID := lenient readUInt8 packet.payload
    let additionalIDsCount := lenient readUInt8 substreamID.2
    let baseSequenceID := lenient readUInt16LE additionalIDsCount.2
    some ⟨substreamID.1, baseSequenceID.1,
      readAdditionalIDs additionalIDsCount.1.toNat baseSequenceID.2⟩
  else
    (readRemainingIDs turns packet.payload).map fun sequenceIDs =>
      ⟨0, packet.sequenceID, sequenceIDs⟩

/-- A payload with a byte left over is never read to its end. -/
theorem readRemainingIDs_odd {payload : Bytes} (odd : payload.length % 2 = 1) (turns : Nat) :
    readRemainingIDs turns payload = none := by
  induction turns generalizing payload with
  | zero =>
      cases payload with
      | nil => cases odd
      | cons byte rest => rfl
  | succ turns inductionHypothesis =>
      match payload, odd with
      | [byte], _ =>
          have stuck : lenient readUInt16LE [byte] = ((0 : UInt16), [byte]) := rfl
          rw [readRemainingIDs]
          simp only [stuck, inductionHypothesis (by rfl : [byte].length % 2 = 1), Option.map_none]
      | low :: high :: rest, odd =>
          have shorter : rest.length % 2 = 1 := by
            rw [List.length_cons, List.length_cons] at odd
            omega
          have read : lenient readUInt16LE (low :: high :: rest) =
              (UInt16.ofNat (leValue [low, high]), rest) := rfl
          rw [readRemainingIDs]
          simp only [read, inductionHypothesis shorter, Option.map_none]

/-- A turn for every byte is enough for a payload of whole IDs. -/
theorem readRemainingIDs_even {payload : Bytes} (even : payload.length % 2 = 0) {turns : Nat}
    (enough : payload.length ≤ turns) : (readRemainingIDs turns payload).isSome := by
  induction turns generalizing payload with
  | zero =>
      obtain rfl := List.length_eq_zero_iff.mp (Nat.le_zero.mp enough)
      rfl
  | succ turns inductionHypothesis =>
      match payload, even, enough with
      | [], _, _ => rfl
      | [byte], even, _ => cases even
      | low :: high :: rest, even, enough =>
          rw [List.length_cons, List.length_cons] at even enough
          have read : lenient readUInt16LE (low :: high :: rest) =
              (UInt16.ofNat (leValue [low, high]), rest) := rfl
          have later := @inductionHypothesis rest (by omega) (by omega)
          rw [readRemainingIDs]
          simp only [read, Option.isSome_map, later]

/-- **Aggregate acknowledgments.** One in the old format is read to its end
exactly when its payload is made of whole IDs; any other keeps its reader busy
for ever. One in the new format always is. -/
theorem readMultiAcknowledgment_ends (packet : PRUDPPacketInterface) :
    (∃ turns, (readMultiAcknowledgment turns packet).isSome) ↔
      (usesNewFormat packet = true ∨ packet.payload.length % 2 = 0) := by
  unfold readMultiAcknowledgment
  cases usesNewFormat packet with
  | true => simp
  | false =>
      simp only [Bool.false_eq_true, if_false, Option.isSome_map, false_or]
      constructor
      · rintro ⟨turns, ends⟩
        by_contra odd
        rw [readRemainingIDs_odd (by omega) turns] at ends
        cases ends
      · intro even
        exact ⟨packet.payload.length, readRemainingIDs_even even le_rfl⟩

/-! ### Settling pending packets -/

namespace PRUDPConnection

/-- Every pending packet up to the base is settled with those that are named. -/
def settledIDs (tm : TimeoutManager) (ack : MultiAcknowledgment) : List UInt16 :=
  ack.sequenceIDs ++ tm.packets.keys.filter fun sequenceID =>
    decide (sequenceID ≤ ack.baseSequenceID) && !ack.sequenceIDs.contains sequenceID

def handleMultiAcknowledgment (pc : PRUDPConnection) (packet : PRUDPPacketInterface) :
    Option PRUDPConnection := do
  let ack ← readMultiAcknowledgment packet.payload.length packet
  let found := pc.slidingWindow ack.substreamID
  let tm := found.1.timeoutManager
  return found.2.setSlidingWindow ack.substreamID { found.1 with
    timeoutManager := (settledIDs tm ack).foldl TimeoutManager.acknowledgePacket tm }

def handleAcknowledgment (pc : PRUDPConnection) (packet : PRUDPPacketInterface) :
    Option PRUDPConnection :=
  if pc.connectionState ≠ .connected then some pc
  else if packet.hasFlag packetFlagMultiAck then pc.handleMultiAcknowledgment packet
  else if packet.packetType = pingPacket then some pc
  else
    let found := pc.slidingWindow packet.substreamID
    some (found.2.setSlidingWindow packet.substreamID { found.1 with
      timeoutManager := found.1.timeoutManager.acknowledgePacket packet.sequenceID })

end PRUDPConnection

end CommunityServers.Nex
