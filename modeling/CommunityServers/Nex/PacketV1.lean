import Mathlib.Data.List.Perm.Basic
import CommunityServers.Nex.Packet

/-!
Contract: PRUDP packets of version 1 on the wire.

Owns:
- `PRUDPPacketV1`, its encoder with the buffer it writes into, its decoder with
  the loop over options, and the loop over the packets of one datagram;
- that a datagram of well-formed packets is decoded into what the packets
  carry, in order, whatever order each packet's options stand in.

Does not own: how signatures are calculated, and the connection of a packet.
-/

set_option autoImplicit false

namespace CommunityServers.Nex

open CommunityServers.Foundation
open CommunityServers.Foundation.Reader

structure PRUDPPacketV1 extends PRUDPPacket where
  optionsLength : UInt8
  payloadLength : UInt16
  minorVersion : UInt32
  supportedFunctions : UInt32
  maximumSubstreamID : UInt8
  initialUnreliableSequenceID : UInt16
deriving DecidableEq

namespace PRUDPPacketV1

def blank : PRUDPPacketV1 := ⟨PRUDPPacket.blank, 0, 0, 0, 0, 0, 0⟩

/-- SYN and CONNECT negotiate what both sides support. -/
def isHandshake (p : PRUDPPacketV1) : Bool :=
  p.packetType == synPacket || p.packetType == connectPacket

/-! ### Encoding -/

def magic : Bytes := [0xEA, 0xD0]

/-- The options section; `none` is the panic of a connection signature longer
than its field. -/
def encodeOptions (p : PRUDPPacketV1) : Option Bytes := do
  let optionsStream := ByteStreamOut.new
  let optionsStream ←
    if p.isHandshake then do
      let optionsStream := optionsStream.write
        (uint8Bytes 0 ++ uint8Bytes 4 ++
          uint32Bytes (p.minorVersion ||| p.supportedFunctions <<< 8))
      let optionsStream := optionsStream.write (uint8Bytes 1 ++ uint8Bytes 16)
      let optionsStream ← (optionsStream.grow 16).writeBytesNext p.connectionSignature
      let optionsStream :=
        if p.packetType = connectPacket then
          optionsStream.write
            (uint8Bytes 3 ++ uint8Bytes 2 ++ uint16Bytes p.initialUnreliableSequenceID)
        else optionsStream
      some (optionsStream.write (uint8Bytes 4 ++ uint8Bytes 1 ++ uint8Bytes p.maximumSubstreamID))
    else some optionsStream
  let optionsStream :=
    if p.packetType = dataPacket then
      optionsStream.write (uint8Bytes 2 ++ uint8Bytes 1 ++ uint8Bytes p.fragmentID)
    else optionsStream
  return optionsStream.bytes

def encodeHeader (p : PRUDPPacketV1) (optionsLength : UInt8) : Bytes :=
  uint8Bytes 1 ++ (uint8Bytes optionsLength ++ (uint16Bytes (UInt16.ofNat p.payload.length) ++
    (uint8Bytes p.sourceVirtualPort ++ (uint8Bytes p.destinationVirtualPort ++
      (uint16Bytes p.typeAndFlags ++ (uint8Bytes p.sessionID ++ (uint8Bytes p.substreamID ++
        uint16Bytes p.sequenceID)))))))

/-- The packet's bytes; `none` is a panic of the buffer. -/
def bytes (p : PRUDPPacketV1) : Option Bytes := do
  let options ← p.encodeOptions
  let optionsLength := UInt8.ofNat options.length
  let header := p.encodeHeader optionsLength
  let stream ← (ByteStreamOut.new.grow 2).writeBytesNext magic
  let stream ← (stream.grow 12).writeBytesNext header
  let stream ← (stream.grow 16).writeBytesNext p.signature
  let stream ← (stream.grow optionsLength.toNat).writeBytesNext options
  let stream ← (stream.grow p.payload.length).writeBytesNext p.payload
  return stream.bytes

/-! ### Decoding -/

/-- `fmt.Sprintf("%x", data)`. -/
def hexText (data : Bytes) : String :=
  String.ofList (data.flatMap fun byte =>
    [Nat.digitChar (byte.toNat / 16), Nat.digitChar (byte.toNat % 16)])

def decodeMagic : Reader Unit := do
  let found ← next 2 "Failed to read PRUDPv1 magic. Not have enough data"
  ensure (found == magic) ("Invalid PRUDPv1 magic. Expected 0xEAD0, got 0x" ++ hexText found)

def decodeHeader (p : PRUDPPacketV1) : Reader PRUDPPacketV1 := do
  let left ← remaining
  ensure (decide (12 ≤ left)) "Failed to read PRUDPv1 magic. Not have enough data"
  let version ← readUInt8.context "Failed to decode PRUDPv1 version. "
  ensure (version == 1)
    ("Invalid PRUDPv1 version. Expected 1, got " ++ toString version.toNat)
  let optionsLength ← readUInt8.context "Failed to decode PRUDPv1 options length. "
  let payloadLength ← readUInt16LE.context "Failed to decode PRUDPv1 payload length. "
  let source ← readUInt8.context "Failed to read PRUDPv1 source. "
  let destination ← readUInt8.context "Failed to read PRUDPv1 destination. "
  let typeAndFlags ← readUInt16LE.context "Failed to read PRUDPv1 type and flags. "
  let sessionID ← readUInt8.context "Failed to read PRUDPv1 session ID. "
  let substreamID ← readUInt8.context "Failed to read PRUDPv1 substream ID. "
  let sequenceID ← readUInt16LE.context "Failed to read PRUDPv1 sequence ID. "
  return { p with
    optionsLength := optionsLength, payloadLength := payloadLength
    sourceVirtualPort := source, destinationVirtualPort := destination
    flags := typeAndFlags >>> 4, packetType := typeAndFlags &&& 0xF
    sessionID := sessionID, substreamID := substreamID, sequenceID := sequenceID }

def decodeHandshakeOption (optionID : UInt8) (p : PRUDPPacketV1) : Reader PRUDPPacketV1 :=
  if optionID = 0 then do
    let supported ← readUInt32LE
    return { p with minorVersion := supported &&& 0xFF, supportedFunctions := supported >>> 8 }
  else if optionID = 1 then do
    let connectionSignature ← next 16 "Not have enough data"
    return { p with connectionSignature := connectionSignature }
  else if optionID = 4 then do
    let maximumSubstreamID ← readUInt8
    return { p with maximumSubstreamID := maximumSubstreamID }
  else return p

def decodeConnectOption (optionID : UInt8) (p : PRUDPPacketV1) : Reader PRUDPPacketV1 :=
  if optionID = 3 then do
    let sequenceID ← readUInt16LE
    return { p with initialUnreliableSequenceID := sequenceID }
  else return p

def decodeDataOption (optionID : UInt8) (p : PRUDPPacketV1) : Reader PRUDPPacketV1 :=
  if optionID = 2 then do
    let fragmentID ← readUInt8
    return { p with fragmentID := fragmentID }
  else return p

/-- One turn of the loop over options. The size of an option is read and not
used: an option the packet type does not know is left standing. -/
def decodeOption (p : PRUDPPacketV1) : Reader PRUDPPacketV1 := do
  let optionID ← readUInt8
  let _ ← readUInt8
  let p ← (if p.isHandshake then decodeHandshakeOption optionID p else pure p : Reader _)
  let p ← (if p.packetType = connectPacket then decodeConnectOption optionID p else pure p :
    Reader _)
  if p.packetType = dataPacket then decodeDataOption optionID p else pure p

def decodeOptions (p : PRUDPPacketV1) : Reader PRUDPPacketV1 := do
  let data ← next p.optionsLength.toNat "Not have enough data"
  onBytes data (whileRemaining decodeOption p)

def decode : Reader PRUDPPacketV1 := do
  decodeMagic
  let p ← (decodeHeader blank).context "Failed to decode PRUDPv1 header. "
  let signature ← next 16 "Failed to read PRUDPv1 signature. Not have enough data"
  let p := { p with signature := signature }
  let p ← (decodeOptions p).context "Failed to decode PRUDPv1 options. "
  let payload ← next p.payloadLength.toNat "Failed to read PRUDPv1 payload. Not have enough data"
  return { p with payload := payload }

end PRUDPPacketV1

open PRUDPPacketV1

def newPRUDPPacketV1 : Reader PRUDPPacketV1 :=
  decode.context "Failed to decode PRUDPv1 packet. "

/-- All packets of one datagram; those before an error are kept. -/
def newPRUDPPacketsV1 (data : Bytes) : List PRUDPPacketV1 × Option String :=
  collectAll newPRUDPPacketV1 data

/-! ### Options as records -/

/-- The options of the format. -/
inductive PacketOption where
  | support (functions : UInt32)
  | connectionSignature (signature : Bytes)
  | fragment (fragmentID : UInt8)
  | unreliable (sequenceID : UInt16)
  | substreams (maximum : UInt8)

namespace PacketOption

def id : PacketOption → UInt8
  | support _ => 0
  | connectionSignature _ => 1
  | fragment _ => 2
  | unreliable _ => 3
  | substreams _ => 4

def size : PacketOption → UInt8
  | support _ => 4
  | connectionSignature _ => 16
  | fragment _ => 1
  | unreliable _ => 2
  | substreams _ => 1

def content : PacketOption → Bytes
  | support functions => uint32Bytes functions
  | connectionSignature signature => signature
  | fragment fragmentID => uint8Bytes fragmentID
  | unreliable sequenceID => uint16Bytes sequenceID
  | substreams maximum => uint8Bytes maximum

def bytes (option : PacketOption) : Bytes :=
  uint8Bytes option.id ++ (uint8Bytes option.size ++ option.content)

/-- The packet with the option's field set. -/
def set (p : PRUDPPacketV1) : PacketOption → PRUDPPacketV1
  | support functions =>
      { p with minorVersion := functions &&& 0xFF, supportedFunctions := functions >>> 8 }
  | connectionSignature signature => { p with connectionSignature := signature }
  | fragment fragmentID => { p with fragmentID := fragmentID }
  | unreliable sequenceID => { p with initialUnreliableSequenceID := sequenceID }
  | substreams maximum => { p with maximumSubstreamID := maximum }

/-- The packet types that know an option. -/
def KnownTo (packetType : UInt16) : PacketOption → Prop
  | support _ => packetType = synPacket ∨ packetType = connectPacket
  | connectionSignature signature =>
      (packetType = synPacket ∨ packetType = connectPacket) ∧ signature.length = 16
  | fragment _ => packetType = dataPacket
  | unreliable _ => packetType = connectPacket
  | substreams _ => packetType = synPacket ∨ packetType = connectPacket

theorem set_packetType (p : PRUDPPacketV1) (option : PacketOption) :
    (set p option).packetType = p.packetType := by
  cases option <;> rfl

/-- Options of different kinds set different fields. -/
theorem set_comm {first second : PacketOption} (different : first.id ≠ second.id)
    (p : PRUDPPacketV1) : set (set p first) second = set (set p second) first := by
  cases first <;> cases second <;> first | rfl | exact absurd rfl different

end PacketOption

namespace PRUDPPacketV1

variable {p : PRUDPPacketV1}

/-- The options of a packet in the order they are written. -/
def options (p : PRUDPPacketV1) : List PacketOption :=
  (if p.isHandshake then
    [.support (p.minorVersion ||| p.supportedFunctions <<< 8),
      .connectionSignature p.connectionSignature] ++
    (if p.packetType = connectPacket then [.unreliable p.initialUnreliableSequenceID] else []) ++
    [.substreams p.maximumSubstreamID]
  else []) ++
  (if p.packetType = dataPacket then [.fragment p.fragmentID] else [])

/-- A packet with its options written in a given order. -/
def assemble (p : PRUDPPacketV1) (arranged : List PacketOption) : Bytes :=
  magic ++ (p.encodeHeader (UInt8.ofNat (arranged.flatMap PacketOption.bytes).length) ++
    (p.signature ++ (arranged.flatMap PacketOption.bytes ++ p.payload)))

/-- Every field fits in its part of the packet. -/
@[mk_iff]
structure WellFormed (p : PRUDPPacketV1) : Prop where
  typeFits : p.TypeFits
  signature : p.signature.length = 16
  payload : p.payload.length < 2 ^ 16
  connectionSignature : p.isHandshake = true → p.connectionSignature.length = 16
  minorVersion : p.isHandshake = true → p.minorVersion.toNat < 256
  supportedFunctions : p.isHandshake = true → p.supportedFunctions.toNat < 2 ^ 24

instance : DecidablePred WellFormed := fun p => decidable_of_iff' _ (wellFormed_iff p)

/-- What the other side learns of a packet: the fields that its type carries. -/
def received (p : PRUDPPacketV1) : PRUDPPacketV1 :=
  { blank with
    sourceVirtualPort := p.sourceVirtualPort
    destinationVirtualPort := p.destinationVirtualPort
    packetType := p.packetType
    flags := p.flags
    sessionID := p.sessionID
    substreamID := p.substreamID
    signature := p.signature
    sequenceID := p.sequenceID
    connectionSignature := if p.isHandshake then p.connectionSignature else []
    fragmentID := if p.packetType = dataPacket then p.fragmentID else 0
    payload := p.payload
    optionsLength := UInt8.ofNat (p.options.flatMap PacketOption.bytes).length
    payloadLength := UInt16.ofNat p.payload.length
    minorVersion := if p.isHandshake then p.minorVersion else 0
    supportedFunctions := if p.isHandshake then p.supportedFunctions else 0
    maximumSubstreamID := if p.isHandshake then p.maximumSubstreamID else 0
    initialUnreliableSequenceID :=
      if p.packetType = connectPacket then p.initialUnreliableSequenceID else 0 }

/-! ### Encoding a well-formed packet -/

/-- The packet types by the options they carry. -/
theorem packetType_cases (p : PRUDPPacketV1) :
    p.packetType = synPacket ∨ p.packetType = connectPacket ∨ p.packetType = dataPacket ∨
      (p.packetType ≠ synPacket ∧ p.packetType ≠ connectPacket ∧ p.packetType ≠ dataPacket) := by
  by_cases syn : p.packetType = synPacket
  · exact Or.inl syn
  · by_cases connect : p.packetType = connectPacket
    · exact Or.inr (Or.inl connect)
    · by_cases data : p.packetType = dataPacket
      · exact Or.inr (Or.inr (Or.inl data))
      · exact Or.inr (Or.inr (Or.inr ⟨syn, connect, data⟩))

theorem isHandshake_eq_true : p.isHandshake = true ↔
    p.packetType = synPacket ∨ p.packetType = connectPacket := by
  simp [isHandshake]

theorem options_syn (syn : p.packetType = synPacket) :
    p.options = [.support (p.minorVersion ||| p.supportedFunctions <<< 8),
      .connectionSignature p.connectionSignature, .substreams p.maximumSubstreamID] := by
  simp [options, isHandshake, syn, synPacket, connectPacket, dataPacket]

theorem options_connect (connect : p.packetType = connectPacket) :
    p.options = [.support (p.minorVersion ||| p.supportedFunctions <<< 8),
      .connectionSignature p.connectionSignature, .unreliable p.initialUnreliableSequenceID,
      .substreams p.maximumSubstreamID] := by
  simp [options, isHandshake, connect, connectPacket, dataPacket]

theorem options_data (data : p.packetType = dataPacket) :
    p.options = [.fragment p.fragmentID] := by
  simp [options, isHandshake, data, synPacket, connectPacket, dataPacket]

theorem options_other (syn : p.packetType ≠ synPacket) (connect : p.packetType ≠ connectPacket)
    (data : p.packetType ≠ dataPacket) : p.options = [] := by
  simp [options, isHandshake, syn, connect, data]

theorem encodeOptions_eq (wellFormed : p.WellFormed) :
    p.encodeOptions = some (p.options.flatMap PacketOption.bytes) := by
  have written (handshake : p.isHandshake = true) (stream : ByteStreamOut) :
      (stream.grow 16).writeBytesNext p.connectionSignature =
        some (stream.write p.connectionSignature) := by
    rw [← wellFormed.connectionSignature handshake, ByteStreamOut.writeBytesNext_grow]
  rcases p.packetType_cases with syn | connect | data | ⟨syn, connect, data⟩
  · have handshake := isHandshake_eq_true.mpr (Or.inl syn)
    rw [options_syn syn]
    simp [encodeOptions, handshake, written handshake, syn, synPacket, connectPacket, dataPacket,
      ByteStreamOut.write_write, ByteStreamOut.bytes_new_write, PacketOption.bytes,
      PacketOption.id, PacketOption.size, PacketOption.content]
  · have handshake := isHandshake_eq_true.mpr (Or.inr connect)
    rw [options_connect connect]
    simp [encodeOptions, handshake, written handshake, connect, connectPacket, dataPacket,
      ByteStreamOut.write_write, ByteStreamOut.bytes_new_write, PacketOption.bytes,
      PacketOption.id, PacketOption.size, PacketOption.content]
  · rw [options_data data]
    simp [encodeOptions, isHandshake, data, synPacket, connectPacket, dataPacket,
      ByteStreamOut.bytes_new_write, PacketOption.bytes, PacketOption.id, PacketOption.size,
      PacketOption.content]
  · rw [options_other syn connect data]
    simp [encodeOptions, isHandshake, syn, connect, data, ByteStreamOut.new, ByteStreamOut.bytes]

theorem options_length_lt (wellFormed : p.WellFormed) :
    (p.options.flatMap PacketOption.bytes).length < 256 := by
  have signature := wellFormed.connectionSignature
  rw [isHandshake_eq_true] at signature
  rcases p.packetType_cases with syn | connect | data | ⟨syn, connect, data⟩
  · rw [options_syn syn]
    simp [signature (Or.inl syn), PacketOption.bytes, PacketOption.content]
  · rw [options_connect connect]
    simp [signature (Or.inr connect), PacketOption.bytes, PacketOption.content]
  · rw [options_data data]
    simp [PacketOption.bytes, PacketOption.content]
  · rw [options_other syn connect data]
    simp

theorem encodeHeader_length (p : PRUDPPacketV1) (optionsLength : UInt8) :
    (p.encodeHeader optionsLength).length = 12 := by
  simp [encodeHeader]

theorem bytes_eq (wellFormed : p.WellFormed) : p.bytes = some (p.assemble p.options) := by
  have optionsFit : (UInt8.ofNat (p.options.flatMap PacketOption.bytes).length).toNat =
      (p.options.flatMap PacketOption.bytes).length :=
    UInt8.toNat_ofNat_of_lt' (options_length_lt wellFormed)
  have writeMagic := ByteStreamOut.writeBytesNext_grow ByteStreamOut.new magic
  have writeHeader (stream : ByteStreamOut) (optionsLength : UInt8) :
      (stream.grow 12).writeBytesNext (p.encodeHeader optionsLength) =
        some (stream.write (p.encodeHeader optionsLength)) := by
    rw [← p.encodeHeader_length optionsLength, ByteStreamOut.writeBytesNext_grow]
  have writeSignature (stream : ByteStreamOut) :
      (stream.grow 16).writeBytesNext p.signature = some (stream.write p.signature) := by
    rw [← wellFormed.signature, ByteStreamOut.writeBytesNext_grow]
  simp only [bytes, encodeOptions_eq wellFormed, Option.bind_eq_bind, Option.bind_some]
  rw [show (2 : Nat) = magic.length from rfl, writeMagic, Option.bind_some, writeHeader,
    Option.bind_some, writeSignature, Option.bind_some, optionsFit,
    ByteStreamOut.writeBytesNext_grow, Option.bind_some, ByteStreamOut.writeBytesNext_grow,
    Option.bind_some]
  simp [assemble, ByteStreamOut.write_write, ByteStreamOut.bytes_new_write]

/-! ### Decoding the header -/

/-- What the header says of a packet. -/
def headerOf (p : PRUDPPacketV1) (optionsLength : UInt8) : PRUDPPacketV1 :=
  { blank with
    sourceVirtualPort := p.sourceVirtualPort
    destinationVirtualPort := p.destinationVirtualPort
    packetType := p.packetType
    flags := p.flags
    sessionID := p.sessionID
    substreamID := p.substreamID
    sequenceID := p.sequenceID
    optionsLength := optionsLength
    payloadLength := UInt16.ofNat p.payload.length }

theorem reads_decodeMagic : Reads decodeMagic magic () := by
  intro back
  rw [decodeMagic, bind_of_ok (next_append (by rfl : magic.length = 2) _ back),
    ensure_of_true (by rfl), pure_apply]

theorem reads_decodeHeader (typeFits : p.TypeFits) (optionsLength : UInt8) :
    Reads (decodeHeader blank) (p.encodeHeader optionsLength) (p.headerOf optionsLength) := by
  intro back
  have enough : decide (12 ≤ (p.encodeHeader optionsLength ++ back).length) = true := by
    rw [List.length_append, encodeHeader_length, decide_eq_true_eq]
    omega
  have fields : p.headerOf optionsLength = { p.headerOf optionsLength with
      flags := p.typeAndFlags >>> 4, packetType := p.typeAndFlags &&& 0xF } := by
    rw [p.typeAndFlags_and typeFits, p.typeAndFlags_shiftRight typeFits]
    rfl
  rw [decodeHeader, bind_of_ok rfl, ensure_of_true enough, bind_of_ok rfl, fields]
  simp only [encodeHeader, List.append_assoc]
  rw [bind_of_ok (((reads_uint8 _).context _) _),
    ensure_of_true (by decide : ((1 : UInt8) == 1) = true), bind_of_ok rfl,
    bind_of_ok (((reads_uint8 _).context _) _), bind_of_ok (((reads_uint16 _).context _) _),
    bind_of_ok (((reads_uint8 _).context _) _), bind_of_ok (((reads_uint8 _).context _) _),
    bind_of_ok (((reads_uint16 _).context _) _), bind_of_ok (((reads_uint8 _).context _) _),
    bind_of_ok (((reads_uint8 _).context _) _), bind_of_ok (((reads_uint16 _).context _) _)]
  rfl

/-! ### Decoding the options -/

theorem decodeConnectOption_skip {optionID : UInt8} (other : optionID ≠ 3) (p : PRUDPPacketV1) :
    (if p.packetType = connectPacket then decodeConnectOption optionID p else pure p) = pure p := by
  rw [decodeConnectOption, if_neg other, ite_self]

theorem decodeDataOption_skip {optionID : UInt8} (other : optionID ≠ 2) (p : PRUDPPacketV1) :
    (if p.packetType = dataPacket then decodeDataOption optionID p else pure p) = pure p := by
  rw [decodeDataOption, if_neg other, ite_self]

/-- An option that only handshakes know is decoded by the first branch. -/
theorem decodeOption_handshake {optionID size : UInt8} {q : PRUDPPacketV1} {content : Bytes}
    (handshake : p.isHandshake = true) (notFragment : optionID ≠ 2) (notUnreliable : optionID ≠ 3)
    (reads : Reads (decodeHandshakeOption optionID p) content q) :
    Reads (decodeOption p) (uint8Bytes optionID ++ (uint8Bytes size ++ content)) q := by
  refine (reads_uint8 optionID).bind ((reads_uint8 size).bind ?_)
  intro back
  rw [if_pos handshake, bind_of_ok (reads back), decodeConnectOption_skip notUnreliable,
    bind_of_ok (pure_apply q back), decodeDataOption_skip notFragment, pure_apply]

theorem reads_decodeOption {option : PacketOption} (known : option.KnownTo p.packetType) :
    Reads (decodeOption p) option.bytes (PacketOption.set p option) := by
  cases option with
  | support functions =>
      exact decodeOption_handshake (isHandshake_eq_true.mpr known) nofun nofun
        ((reads_uint32 functions).bind_pure fun supported =>
          PacketOption.set p (.support supported))
  | connectionSignature signature =>
      exact decodeOption_handshake (isHandshake_eq_true.mpr known.1) nofun nofun
        ((reads_next known.2 _).bind_pure fun bytes =>
          PacketOption.set p (.connectionSignature bytes))
  | substreams maximum =>
      exact decodeOption_handshake (isHandshake_eq_true.mpr known) nofun nofun
        ((reads_uint8 maximum).bind_pure fun value => PacketOption.set p (.substreams value))
  | unreliable sequenceID =>
      have connect : p.packetType = connectPacket := known
      have read : Reads (decodeConnectOption 3 p) (PacketOption.content (.unreliable sequenceID))
          (PacketOption.set p (.unreliable sequenceID)) :=
        (reads_uint16 sequenceID).bind_pure fun value => PacketOption.set p (.unreliable value)
      refine (reads_uint8 3).bind ((reads_uint8 2).bind ?_)
      intro back
      rw [if_pos (isHandshake_eq_true.mpr (Or.inr connect)),
        bind_of_ok (show decodeHandshakeOption 3 p _ = _ from pure_apply p _), if_pos connect,
        bind_of_ok (read back), decodeDataOption_skip (by decide), pure_apply]
  | fragment fragmentID =>
      have data : p.packetType = dataPacket := known
      have plain : ¬ p.isHandshake = true := by
        rw [isHandshake_eq_true, data]
        decide
      refine (reads_uint8 2).bind ((reads_uint8 1).bind ?_)
      intro back
      rw [if_neg plain, bind_of_ok (pure_apply p _), decodeConnectOption_skip (by decide),
        bind_of_ok (pure_apply p _), if_pos data]
      exact ((reads_uint8 fragmentID).bind_pure fun value =>
        PacketOption.set p (.fragment value)) back

theorem shortens_decodeOption (p : PRUDPPacketV1) : Shortens (decodeOption p) := by
  refine shortens_readUInt8.bind fun _ => shortens_readUInt8.keepsShort.bind fun _ => ?_
  have handshake (optionID : UInt8) : KeepsShort (decodeHandshakeOption optionID p) := by
    refine keepsShort_ite (shortens_readUInt32LE.keepsShort.bind fun _ => keepsShort_pure _)
      (keepsShort_ite ((keepsShort_next 16 _).bind fun _ => keepsShort_pure _)
        (keepsShort_ite (shortens_readUInt8.keepsShort.bind fun _ => keepsShort_pure _)
          (keepsShort_pure p)))
  have connect (optionID : UInt8) (q : PRUDPPacketV1) :
      KeepsShort (decodeConnectOption optionID q) :=
    keepsShort_ite (shortens_readUInt16LE.keepsShort.bind fun _ => keepsShort_pure _)
      (keepsShort_pure q)
  have data (optionID : UInt8) (q : PRUDPPacketV1) : KeepsShort (decodeDataOption optionID q) :=
    keepsShort_ite (shortens_readUInt8.keepsShort.bind fun _ => keepsShort_pure _)
      (keepsShort_pure q)
  refine (keepsShort_ite (handshake _) (keepsShort_pure p)).bind fun q => ?_
  refine (keepsShort_ite (connect _ q) (keepsShort_pure q)).bind fun q => ?_
  exact keepsShort_ite (data _ q) (keepsShort_pure q)

/-- The loop sets one option after the other. -/
theorem whileRemaining_options {arranged : List PacketOption}
    (known : ∀ option ∈ arranged, option.KnownTo p.packetType) :
    whileRemaining decodeOption p (arranged.flatMap PacketOption.bytes) =
      .ok (arranged.foldl PacketOption.set p, []) := by
  induction arranged generalizing p with
  | nil => rfl
  | cons option rest inductionHypothesis =>
      have turn := reads_decodeOption (known option List.mem_cons_self)
        (rest.flatMap PacketOption.bytes)
      rw [List.flatMap_cons,
        whileRemaining_of_ok shortens_decodeOption (by simp [PacketOption.bytes, uint8Bytes]) turn,
        List.foldl_cons]
      apply inductionHypothesis
      intro other member
      rw [PacketOption.set_packetType]
      exact known other (List.mem_cons_of_mem option member)

/-- The options of a packet are known to its type and of different kinds. -/
theorem options_known (wellFormed : p.WellFormed) :
    ∀ option ∈ p.options, option.KnownTo p.packetType := by
  have signature := wellFormed.connectionSignature
  rw [isHandshake_eq_true] at signature
  rcases p.packetType_cases with syn | connect | data | ⟨syn, connect, data⟩
  · simp [options_syn syn, PacketOption.KnownTo, syn, signature (Or.inl syn)]
  · simp [options_connect connect, PacketOption.KnownTo, connect, signature (Or.inr connect)]
  · simp [options_data data, PacketOption.KnownTo, data]
  · simp [options_other syn connect data]

theorem options_pairwise (p : PRUDPPacketV1) :
    p.options.Pairwise fun first second => first.id ≠ second.id := by
  rcases p.packetType_cases with syn | connect | data | ⟨syn, connect, data⟩
  · simp [options_syn syn, PacketOption.id]
  · simp [options_connect connect, PacketOption.id]
  · simp [options_data data]
  · simp [options_other syn connect data]

/-- Setting the options one by one, in any order, restores the fields they carry. -/
theorem foldl_set (wellFormed : p.WellFormed) {arranged : List PacketOption}
    (order : arranged.Perm p.options) (optionsLength : UInt8) :
    arranged.foldl PacketOption.set
        { p.headerOf optionsLength with signature := p.signature } =
      { p.received with payload := [], optionsLength := optionsLength } := by
  have symmetric : Std.Symm fun first second : PacketOption => first.id ≠ second.id :=
    ⟨fun _ _ different => different.symm⟩
  have kinds : arranged.Pairwise fun first second => first.id ≠ second.id :=
    (order.pairwise_iff fun different => different.symm).mpr p.options_pairwise
  have commutes : ∀ first ∈ arranged, ∀ second ∈ arranged, ∀ q : PRUDPPacketV1,
      PacketOption.set (PacketOption.set q first) second =
        PacketOption.set (PacketOption.set q second) first := by
    intro first firstIn second secondIn q
    by_cases same : first = second
    · rw [same]
    · exact PacketOption.set_comm (kinds.forall firstIn secondIn same) q
  have support (handshake : p.isHandshake = true) :
      (p.minorVersion ||| p.supportedFunctions <<< 8) &&& 0xFF = p.minorVersion ∧
        (p.minorVersion ||| p.supportedFunctions <<< 8) >>> 8 = p.supportedFunctions :=
    ⟨uint32_low (wellFormed.minorVersion handshake),
      uint32_high (wellFormed.minorVersion handshake) (wellFormed.supportedFunctions handshake)⟩
  rw [order.foldl_eq' commutes]
  rcases p.packetType_cases with syn | connect | data | ⟨syn, connect, data⟩
  · have handshake := isHandshake_eq_true.mpr (Or.inl syn)
    simp [options_syn syn, PacketOption.set, support handshake, received, headerOf, handshake,
      syn, synPacket, connectPacket, dataPacket, blank,
      PRUDPPacket.blank]
  · have handshake := isHandshake_eq_true.mpr (Or.inr connect)
    simp [options_connect connect, PacketOption.set, support handshake, received, headerOf,
      handshake, connect, connectPacket, dataPacket, blank,
      PRUDPPacket.blank]
  · simp [options_data data, PacketOption.set, received, headerOf, isHandshake, data,
      synPacket, connectPacket, dataPacket, blank,
      PRUDPPacket.blank]
  · simp [options_other syn connect data, received, headerOf, isHandshake, syn, connect, data,
      blank, PRUDPPacket.blank]

/-! ### Datagrams -/

theorem reads_decodeOptions {q : PRUDPPacketV1} {arranged : List PacketOption}
    (known : ∀ option ∈ arranged, option.KnownTo q.packetType)
    (size : (arranged.flatMap PacketOption.bytes).length = q.optionsLength.toNat) :
    Reads (decodeOptions q) (arranged.flatMap PacketOption.bytes)
      (arranged.foldl PacketOption.set q) := by
  intro back
  rw [decodeOptions, bind_of_ok (next_append size _ back),
    onBytes_of_ok (whileRemaining_options known), pure_apply]

/-- A packet is read back whatever the order of its options. -/
theorem reads_newPRUDPPacketV1 (wellFormed : p.WellFormed) {arranged : List PacketOption}
    (order : arranged.Perm p.options) :
    Reads newPRUDPPacketV1 (p.assemble arranged) p.received := by
  have sameLength : (arranged.flatMap PacketOption.bytes).length =
      (p.options.flatMap PacketOption.bytes).length :=
    (order.flatMap_right PacketOption.bytes).length_eq
  have size : (arranged.flatMap PacketOption.bytes).length =
      (UInt8.ofNat (arranged.flatMap PacketOption.bytes).length).toNat := by
    rw [UInt8.toNat_ofNat_of_lt' (sameLength ▸ options_length_lt wellFormed)]
  have payloadSize : p.payload.length = (UInt16.ofNat p.payload.length).toNat :=
    (UInt16.toNat_ofNat_of_lt' wellFormed.payload).symm
  have known : ∀ option ∈ arranged, option.KnownTo p.packetType := fun option member =>
    options_known wellFormed option (order.subset member)
  have optionsRead := reads_decodeOptions (q := { p.headerOf (UInt8.ofNat
    (arranged.flatMap PacketOption.bytes).length) with signature := p.signature }) known size
  refine Reads.context ?_ _
  refine reads_decodeMagic.bind (((reads_decodeHeader wellFormed.typeFits _).context _).bind
    ((reads_next wellFormed.signature _).bind ((optionsRead.context _).bind ?_)))
  rw [foldl_set wellFormed order, sameLength]
  exact (reads_next payloadSize _).bind_pure fun payload => { p.received with payload := payload }

theorem shortens_newPRUDPPacketV1 : Shortens newPRUDPPacketV1 := by
  refine Shortens.context ?_ _
  have magicRead : Shortens decodeMagic :=
    (shortens_next (by decide) _).bind fun _ => keepsShort_ensure _ _
  have eight {text : String} : KeepsShort (readUInt8.context text) :=
    shortens_readUInt8.keepsShort.context text
  have sixteen {text : String} : KeepsShort (readUInt16LE.context text) :=
    shortens_readUInt16LE.keepsShort.context text
  have header : KeepsShort (decodeHeader blank) :=
    keepsShort_remaining.bind fun _ => (keepsShort_ensure _ _).bind fun _ =>
      eight.bind fun _ => (keepsShort_ensure _ _).bind fun _ =>
        eight.bind fun _ => sixteen.bind fun _ => eight.bind fun _ => eight.bind fun _ =>
          sixteen.bind fun _ => eight.bind fun _ => eight.bind fun _ => sixteen.bind fun _ =>
            keepsShort_pure _
  have options (q : PRUDPPacketV1) : KeepsShort (decodeOptions q) :=
    (keepsShort_next _ _).bind fun data => keepsShort_onBytes data _
  exact magicRead.bind fun _ => (header.context _).bind fun _ => (keepsShort_next _ _).bind fun _ =>
    ((options _).context _).bind fun _ => (keepsShort_next _ _).bind fun _ => keepsShort_pure _

/-- A datagram of well-formed packets, each with its options in any order, is
read as those packets; what follows them does not undo that. -/
theorem newPRUDPPacketsV1_assemble {sources : List (PRUDPPacketV1 × List PacketOption)}
    (wellFormed : ∀ source ∈ sources, source.1.WellFormed)
    (orders : ∀ source ∈ sources, source.2.Perm source.1.options) (back : Bytes) :
    (∀ source ∈ sources, source.1.bytes = some (source.1.assemble source.1.options)) ∧
      newPRUDPPacketsV1 (sources.flatMap (fun source => source.1.assemble source.2) ++ back) =
        (sources.map (fun source => source.1.received) ++ (newPRUDPPacketsV1 back).1,
          (newPRUDPPacketsV1 back).2) := by
  constructor
  · intro source member
    exact bytes_eq (wellFormed source member)
  · apply collectAll_flatMap shortens_newPRUDPPacketV1
    intro source member
    exact reads_newPRUDPPacketV1 (wellFormed source member) (orders source member)

def connectSample : PRUDPPacketV1 :=
  { blank with
    sourceVirtualPort := 0xAF, destinationVirtualPort := 0xA1, packetType := connectPacket
    flags := 0x4 ||| 0x2, sessionID := 9, sequenceID := 1
    signature := List.replicate 16 7, connectionSignature := List.replicate 16 5
    minorVersion := 4, supportedFunctions := 0xFF, initialUnreliableSequenceID := 0x1234
    payload := [1, 2, 3] }

def dataSample : PRUDPPacketV1 :=
  { blank with
    sourceVirtualPort := 0xAF, destinationVirtualPort := 0xA1, packetType := dataPacket
    flags := 0x4 ||| 0x2, sequenceID := 2, signature := List.replicate 16 7, fragmentID := 1
    payload := [4] }

/-- A CONNECT with its options backwards and a DATA packet in one datagram with
a stray byte at its end. -/
theorem newPRUDPPacketsV1_assemble_sample :
    newPRUDPPacketsV1 ([(connectSample, connectSample.options.reverse),
        (dataSample, dataSample.options)].flatMap (fun source => source.1.assemble source.2) ++
          [0]) =
      ([connectSample.received, dataSample.received], some ("Failed to decode PRUDPv1 packet. " ++
        "Failed to read PRUDPv1 magic. Not have enough data")) :=
  (newPRUDPPacketsV1_assemble
    (by decide +kernel : ∀ source ∈ [(connectSample, connectSample.options.reverse),
      (dataSample, dataSample.options)], source.1.WellFormed)
    (by simp [List.reverse_perm]) [0]).2

end PRUDPPacketV1

end CommunityServers.Nex
