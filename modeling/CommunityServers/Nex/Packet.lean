import CommunityServers.Foundation.BitFields
import CommunityServers.Nex.ByteStream

/-!
Contract: what packets of every PRUDP version share.

Owns:
- packet types, flags, and the fields of `PRUDPPacket` that are sent or received.

Does not own: the encodings of the versions, the connection a packet belongs to,
its decoded message and its retransmission state.
-/

set_option autoImplicit false

namespace CommunityServers.Nex

open CommunityServers.Foundation

/-! ### Types and flags -/

def synPacket : UInt16 := 0x0
def connectPacket : UInt16 := 0x1
def dataPacket : UInt16 := 0x2
def disconnectPacket : UInt16 := 0x3
def pingPacket : UInt16 := 0x4

def packetFlagAck : UInt16 := 0x1
def packetFlagReliable : UInt16 := 0x2
def packetFlagNeedsAck : UInt16 := 0x4
def packetFlagHasSize : UInt16 := 0x8
def packetFlagMultiAck : UInt16 := 0x200

structure PRUDPPacket where
  sourceVirtualPort : UInt8
  destinationVirtualPort : UInt8
  packetType : UInt16
  flags : UInt16
  sessionID : UInt8
  substreamID : UInt8
  signature : Bytes
  sequenceID : UInt16
  connectionSignature : Bytes
  fragmentID : UInt8
  payload : Bytes
deriving DecidableEq

namespace PRUDPPacket

def blank : PRUDPPacket := ⟨0, 0, 0, 0, 0, 0, [], 0, [], 0, []⟩

def hasFlag (p : PRUDPPacket) (flag : UInt16) : Bool := p.flags &&& flag != 0

/-- The type and flags as one word of four and twelve bits. -/
def typeAndFlags (p : PRUDPPacket) : UInt16 := p.packetType ||| p.flags <<< 4

/-- The type and the flags fit in their parts of the word. -/
def TypeFits (p : PRUDPPacket) : Prop := p.packetType.toNat < 16 ∧ p.flags.toNat < 4096

instance (p : PRUDPPacket) : Decidable p.TypeFits := inferInstanceAs (Decidable (_ ∧ _))

theorem typeAndFlags_and (p : PRUDPPacket) (fits : p.TypeFits) :
    p.typeAndFlags &&& 0xF = p.packetType :=
  uint16_low fits.1

theorem typeAndFlags_shiftRight (p : PRUDPPacket) (fits : p.TypeFits) :
    p.typeAndFlags >>> 4 = p.flags :=
  uint16_high fits.1 fits.2

end PRUDPPacket

end CommunityServers.Nex
