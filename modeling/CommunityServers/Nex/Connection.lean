import Mathlib.Data.List.AList
import CommunityServers.Nex.Compression
import CommunityServers.Nex.Encryption
import CommunityServers.Nex.Packet
import CommunityServers.Session.Endpoint

/-!
Contract: the state of a virtual connection.

Owns:
- dispatch queues, sliding windows with their timeout managers, and the
  connection that holds them by substream;
- how they are created, found, initialized for a number of substreams, and
  cleared.

Go maps by substream are functions with an optional value. A packet object that
both a table and a waiting timer refer to stands once in a list and is referred
to by its place.

Does not own: sending, receiving, session keys, and timers running out.
-/

set_option autoImplicit false

namespace CommunityServers.Nex

open CommunityServers.Foundation
open CommunityServers.Session (ConnectionState)

/-- A packet of any version of the protocol: 0, 1, or 2 for PRUDPLite. -/
structure PRUDPPacketInterface extends PRUDPPacket where
  version : Nat
deriving DecidableEq

/-! ### Dispatch queues -/

/-- Packets waiting for their turn, each under its own sequence ID. -/
structure PacketDispatchQueue where
  queue : AList fun _ : UInt16 => PRUDPPacketInterface
  nextExpectedSequenceId : UInt16
  keyed : ∀ sequenceID packet, queue.lookup sequenceID = some packet →
    packet.sequenceID = sequenceID

namespace PacketDispatchQueue

def new : PacketDispatchQueue := ⟨∅, 2, by simp⟩

def queuePacket (pdq : PacketDispatchQueue) (packet : PRUDPPacketInterface) :
    PacketDispatchQueue where
  queue := pdq.queue.insert packet.sequenceID packet
  nextExpectedSequenceId := pdq.nextExpectedSequenceId
  keyed := by
    intro sequenceID found lookup
    by_cases same : sequenceID = packet.sequenceID
    · rw [same, AList.lookup_insert, Option.some.injEq] at lookup
      rw [← lookup, same]
    · rw [AList.lookup_insert_ne same] at lookup
      exact pdq.keyed sequenceID found lookup

def getNextToDispatch (pdq : PacketDispatchQueue) : Option PRUDPPacketInterface :=
  pdq.queue.lookup pdq.nextExpectedSequenceId

def dispatched (pdq : PacketDispatchQueue) (packet : PRUDPPacketInterface) :
    PacketDispatchQueue where
  queue := pdq.queue.erase packet.sequenceID
  nextExpectedSequenceId := pdq.nextExpectedSequenceId + 1
  keyed := by
    intro sequenceID found lookup
    by_cases same : sequenceID = packet.sequenceID
    · rw [same, AList.lookup_erase] at lookup
      cases lookup
    · rw [AList.lookup_erase_ne same] at lookup
      exact pdq.keyed sequenceID found lookup

/-- The packets by sequence ID. -/
def table (pdq : PacketDispatchQueue) : UInt16 → Option PRUDPPacketInterface :=
  fun sequenceID => pdq.queue.lookup sequenceID

variable {pdq : PacketDispatchQueue} {packet : PRUDPPacketInterface}

theorem table_queuePacket (pdq : PacketDispatchQueue) (packet : PRUDPPacketInterface) :
    (pdq.queuePacket packet).table = Function.update pdq.table packet.sequenceID (some packet) := by
  funext sequenceID
  by_cases same : sequenceID = packet.sequenceID
  · subst same
    rw [Function.update_self]
    exact AList.lookup_insert pdq.queue
  · rw [Function.update_of_ne same]
    exact AList.lookup_insert_ne same

theorem sequenceID_of_next (next : pdq.getNextToDispatch = some packet) :
    packet.sequenceID = pdq.nextExpectedSequenceId :=
  pdq.keyed _ _ next

theorem table_dispatched (next : pdq.getNextToDispatch = some packet) :
    (pdq.dispatched packet).table =
      Function.update pdq.table pdq.nextExpectedSequenceId none := by
  funext sequenceID
  rw [← sequenceID_of_next next]
  by_cases same : sequenceID = packet.sequenceID
  · subst same
    rw [Function.update_self]
    exact AList.lookup_erase _ pdq.queue
  · rw [Function.update_of_ne same]
    exact AList.lookup_erase_ne same

/-- Every packet dispatched leaves the queue shorter. -/
theorem length_dispatched (next : pdq.getNextToDispatch = some packet) :
    (pdq.dispatched packet).queue.keys.length + 1 = pdq.queue.keys.length := by
  have member : packet.sequenceID ∈ pdq.queue.keys := by
    rw [sequenceID_of_next next]
    exact AList.mem_keys.mp (AList.lookup_isSome.mp (by
      rw [show pdq.queue.lookup _ = _ from next]
      rfl))
  have positive := List.length_pos_of_mem member
  show (pdq.queue.erase packet.sequenceID).keys.length + 1 = _
  rw [AList.keys_erase, List.length_erase_of_mem member]
  omega

end PacketDispatchQueue

/-! ### Sliding windows -/

/-- The settings that sending and receiving read. -/
structure StreamSettings where
  maxPacketRetransmissions : Nat
  encryptionAlgorithm : EncryptionAlgorithm
  compressionAlgorithm : CompressionAlgorithm

def newStreamSettings : StreamSettings := ⟨0x14, .rc4 RC4.new, .dummy⟩

def StreamSettings.copy (ss : StreamSettings) : StreamSettings :=
  { newStreamSettings with
    maxPacketRetransmissions := ss.maxPacketRetransmissions
    encryptionAlgorithm := ss.encryptionAlgorithm.copy
    compressionAlgorithm := ss.compressionAlgorithm.copy }

/-- A packet that waits for its acknowledgment. -/
structure SentPacket where
  packet : PRUDPPacketInterface
  sendCount : Nat
deriving DecidableEq

/-- Every packet ever scheduled in order, the places of those not acknowledged
by sequence ID, and the places of those a timer waits for. -/
structure TimeoutManager where
  sent : List SentPacket
  packets : AList fun _ : UInt16 => Nat
  timers : List Nat
  streamSettings : StreamSettings

def TimeoutManager.new : TimeoutManager := ⟨[], ∅, [], newStreamSettings⟩

def TimeoutManager.schedulePacketTimeout (tm : TimeoutManager) (sent : SentPacket) :
    TimeoutManager :=
  { tm with
    sent := tm.sent ++ [sent]
    packets := tm.packets.insert sent.packet.sequenceID tm.sent.length
    timers := tm.timers ++ [tm.sent.length] }

structure SlidingWindow where
  sequenceIDCounter : UInt16
  streamSettings : StreamSettings
  timeoutManager : TimeoutManager

namespace SlidingWindow

def setCipherKey (key : Bytes) (sw : SlidingWindow) : SlidingWindow :=
  { sw with streamSettings := { sw.streamSettings with
      encryptionAlgorithm := sw.streamSettings.encryptionAlgorithm.setKey key } }

def nextOutgoingSequenceID (sw : SlidingWindow) : UInt16 × SlidingWindow :=
  (sw.sequenceIDCounter + 1, { sw with sequenceIDCounter := sw.sequenceIDCounter + 1 })

/-- The window with its algorithm replaced by what a payload leaves of it. -/
def withAlgorithm (sw : SlidingWindow) (algorithm : EncryptionAlgorithm) : SlidingWindow :=
  { sw with streamSettings := { sw.streamSettings with encryptionAlgorithm := algorithm } }

def decrypt (sw : SlidingWindow) (data : Bytes) : Bytes × SlidingWindow :=
  (sw.streamSettings.encryptionAlgorithm.decrypt data).map id sw.withAlgorithm

def encrypt (sw : SlidingWindow) (data : Bytes) : Bytes × SlidingWindow :=
  (sw.streamSettings.encryptionAlgorithm.encrypt data).map id sw.withAlgorithm

end SlidingWindow

/-! ### Connections -/

structure PRUDPConnection where
  connectionState : ConnectionState
  sessionID : UInt8
  serverSessionID : UInt8
  sessionKey : Bytes
  streamSettings : StreamSettings
  signature : Bytes
  serverConnectionSignature : Bytes
  unreliablePacketBaseKey : Vector UInt8 32
  slidingWindows : UInt8 → Option SlidingWindow
  packetDispatchQueues : UInt8 → Option PacketDispatchQueue
  incomingFragmentBuffers : UInt8 → Option Bytes
  outgoingUnreliableSequenceIDCounter : UInt16
  outgoingPingSequenceIDCounter : UInt16

namespace PRUDPConnection

/-- A connection as the endpoint creates it, with a copy of its settings. -/
def new (defaultStreamSettings : StreamSettings) : PRUDPConnection where
  connectionState := .notConnected
  sessionID := 0
  serverSessionID := 0
  sessionKey := []
  streamSettings := defaultStreamSettings.copy
  signature := []
  serverConnectionSignature := []
  unreliablePacketBaseKey := Vector.replicate 32 0
  slidingWindows := fun _ => none
  packetDispatchQueues := fun _ => none
  incomingFragmentBuffers := fun _ => none
  outgoingUnreliableSequenceIDCounter := 1
  outgoingPingSequenceIDCounter := 0

/-- The fragment buffers are not cleared. -/
def reset (pc : PRUDPConnection) : PRUDPConnection :=
  { pc with
    connectionState := .notConnected
    packetDispatchQueues := fun _ => none
    slidingWindows := fun _ => none
    signature := []
    serverConnectionSignature := []
    sessionKey := []
    outgoingUnreliableSequenceIDCounter := 1
    outgoingPingSequenceIDCounter := 0 }

def setSlidingWindow (pc : PRUDPConnection) (substreamID : UInt8) (sw : SlidingWindow) :
    PRUDPConnection :=
  { pc with slidingWindows := Function.update pc.slidingWindows substreamID (some sw) }

def setPacketDispatchQueue (pc : PRUDPConnection) (substreamID : UInt8)
    (pdq : PacketDispatchQueue) : PRUDPConnection :=
  { pc with packetDispatchQueues := Function.update pc.packetDispatchQueues substreamID (some pdq) }

/-- The window `CreateSlidingWindow` makes: its settings are a copy of the
connection's, whatever key other windows were given since. -/
def newSlidingWindow (pc : PRUDPConnection) : SlidingWindow :=
  ⟨0, pc.streamSettings.copy, TimeoutManager.new⟩

def createSlidingWindow (pc : PRUDPConnection) (substreamID : UInt8) : PRUDPConnection :=
  pc.setSlidingWindow substreamID pc.newSlidingWindow

def createPacketDispatchQueue (pc : PRUDPConnection) (substreamID : UInt8) : PRUDPConnection :=
  pc.setPacketDispatchQueue substreamID PacketDispatchQueue.new

/-- The window of a substream and the connection that then has it. -/
def slidingWindow (pc : PRUDPConnection) (substreamID : UInt8) :
    SlidingWindow × PRUDPConnection :=
  match pc.slidingWindows substreamID with
  | some sw => (sw, pc)
  | none => (pc.newSlidingWindow, pc.createSlidingWindow substreamID)

def packetDispatchQueue (pc : PRUDPConnection) (substreamID : UInt8) :
    PacketDispatchQueue × PRUDPConnection :=
  match pc.packetDispatchQueues substreamID with
  | some pdq => (pdq, pc)
  | none => (PacketDispatchQueue.new, pc.createPacketDispatchQueue substreamID)

/-- The substreams that a loop up to a maximum visits; the bound is computed in
a byte. -/
def substreams (maxSubstreamID : UInt8) : List UInt8 :=
  (List.range (maxSubstreamID + 1).toNat).map UInt8.ofNat

def initializeSlidingWindows (pc : PRUDPConnection) (maxSubstreamID : UInt8) : PRUDPConnection :=
  (substreams maxSubstreamID).foldl createSlidingWindow { pc with slidingWindows := fun _ => none }

def initializePacketDispatchQueues (pc : PRUDPConnection) (maxSubstreamID : UInt8) :
    PRUDPConnection :=
  (substreams maxSubstreamID).foldl createPacketDispatchQueue
    { pc with packetDispatchQueues := fun _ => none }

def getIncomingFragmentBuffer (pc : PRUDPConnection) (substreamID : UInt8) : Bytes :=
  (pc.incomingFragmentBuffers substreamID).getD []

def setIncomingFragmentBuffer (pc : PRUDPConnection) (substreamID : UInt8) (buffer : Bytes) :
    PRUDPConnection :=
  { pc with
    incomingFragmentBuffers :=
      Function.update pc.incomingFragmentBuffers substreamID (some buffer) }

/-- Despite its name this clears the incoming buffer. -/
def clearOutgoingBuffer (pc : PRUDPConnection) (substreamID : UInt8) : PRUDPConnection :=
  pc.setIncomingFragmentBuffer substreamID []

end PRUDPConnection

end CommunityServers.Nex
