import CommunityServers.Foundation.BitFields
import CommunityServers.Nex.Types

/-!
Contract: messages of the remote method call protocol, in both encodings.

Owns:
- `RMCMessage` with its constructors, the packed and the verbose encoder and
  decoder;
- exactly which packed messages are read back, and that every verbose message
  whose names and versions fit is.

A decoder fills in a message it is given; fields that an encoding does not carry
keep their values. The fields set before an error is found are not kept.

Does not own: what the parameters mean.
-/

set_option autoImplicit false

namespace CommunityServers.Nex

open CommunityServers.Foundation
open CommunityServers.Foundation.Reader

abbrev ClassVersions := AList fun _ : NexString => UInt16

structure RMCMessage where
  isRequest : Bool
  isSuccess : Bool
  isHPP : Bool
  protocolID : UInt16
  protocolName : NexString
  callID : UInt32
  methodID : UInt32
  methodName : NexString
  errorCode : UInt32
  versionContainer : Option ClassVersions
  parameters : Bytes

def newRMCMessage : RMCMessage := ⟨false, false, false, 0, ⟨[]⟩, 0, 0, ⟨[]⟩, 0, none, []⟩

def newRMCRequest : RMCMessage := { newRMCMessage with isRequest := true }

/-! ### Framing -/

/-- The size of a message in front of it. -/
def frame (serialized : Bytes) : Bytes :=
  uint32Bytes (UInt32.ofNat serialized.length) ++ serialized

def readSize : Reader Unit := do
  let length ← readUInt32LE.context "Failed to read RMC Message size. "
  let left ← remaining
  ensure (left == length.toNat) "RMC Message has unexpected size"

theorem readSize_frame {serialized : Bytes} (short : serialized.length < 2 ^ 32) :
    readSize (frame serialized) = .ok ((), serialized) := by
  have same : (serialized.length == (UInt32.ofNat serialized.length).toNat) = true := by
    rw [UInt32.toNat_ofNat_of_lt' short, beq_self_eq_true]
  rw [readSize, frame, bind_of_ok (((reads_uint32 _).context _) _)]
  show ensure _ _ serialized = _
  rw [ensure_of_true same, pure_apply]

theorem readSize_frame_eq_ok {serialized left : Bytes}
    (read : readSize (frame serialized) = .ok ((), left)) :
    serialized.length < 2 ^ 32 ∧ left = serialized := by
  rw [readSize, frame, bind_of_ok (((reads_uint32 _).context _) _)] at read
  obtain ⟨same, rest⟩ := ensure_eq_ok.mp (show ensure
    (serialized.length == (UInt32.ofNat serialized.length).toNat) _ serialized = _ from read)
  rw [beq_iff_eq] at same
  exact ⟨same ▸ UInt32.toNat_lt _, rest⟩

namespace RMCMessage

variable {blank m r : RMCMessage}

/-! ### The packed encoding -/

def protocolIDFlag (isRequest : Bool) : UInt16 := if isRequest then 0x80 else 0

def protocolBytes (m : RMCMessage) : Bytes :=
  if m.protocolID < 0x80 then
    uint8Bytes (m.protocolID ||| protocolIDFlag m.isRequest).toUInt8
  else
    uint8Bytes (0x7F ||| protocolIDFlag m.isRequest).toUInt8 ++ uint16Bytes m.protocolID

def packedBody (m : RMCMessage) : Bytes :=
  if m.isRequest then
    uint32Bytes m.callID ++ (uint32Bytes m.methodID ++ m.parameters)
  else if m.isSuccess then
    boolBytes m.isSuccess ++
      (uint32Bytes m.callID ++ (uint32Bytes (m.methodID ||| 0x8000) ++ m.parameters))
  else
    boolBytes m.isSuccess ++ (uint32Bytes m.errorCode ++ uint32Bytes m.callID)

def serializePacked (m : RMCMessage) : Bytes :=
  if !m.isHPP || (m.isHPP && m.isRequest) then m.protocolBytes ++ m.packedBody
  else m.packedBody

def encodePacked (m : RMCMessage) : Bytes := frame m.serializePacked

/-- The protocol byte's request bit and the protocol it names. -/
def readProtocol : Reader (Bool × UInt16) := do
  let protocolID ← readUInt8.context "Failed to read RMC Message protocol ID. "
  let request := protocolID &&& 0x80 != 0
  if (protocolID &&& 0x7F).toUInt16 = 0x7F then do
    let extended ← readUInt16LE.context "Failed to read RMC Message extended protocol ID. "
    return (request, extended)
  else
    return (request, (protocolID &&& 0x7F).toUInt16)

def readPackedRequest (rmc : RMCMessage) : Reader RMCMessage := do
  let callID ← readUInt32LE.context "Failed to read RMC Message (request) call ID. "
  let methodID ← readUInt32LE.context "Failed to read RMC Message (request) method ID. "
  let parameters ← readRemaining
  return { rmc with
    isRequest := true, callID := callID, methodID := methodID, parameters := parameters }

def readPackedResponse (rmc : RMCMessage) : Reader RMCMessage := do
  let isSuccess ← readBool.context "Failed to read RMC Message (response) error check. "
  if isSuccess then do
    let callID ← readUInt32LE.context "Failed to read RMC Message (response) call ID. "
    let methodID ← readUInt32LE.context "Failed to read RMC Message (response) method ID. "
    let parameters ← readRemaining
    return { rmc with
      isRequest := false, isSuccess := true, callID := callID
      methodID := methodID &&& ~~~0x8000, parameters := parameters }
  else do
    let errorCode ← readUInt32LE.context "Failed to read RMC Message (response) error code. "
    let callID ← readUInt32LE.context "Failed to read RMC Message (response) call ID. "
    return { rmc with
      isRequest := false, isSuccess := false, errorCode := errorCode, callID := callID }

def readPacked (rmc : RMCMessage) : Reader RMCMessage := do
  readSize
  let protocol ← readProtocol
  if protocol.1 then readPackedRequest { rmc with protocolID := protocol.2 }
  else readPackedResponse { rmc with protocolID := protocol.2 }

def decodePacked (rmc : RMCMessage) (data : Bytes) : Except String RMCMessage :=
  Prod.fst <$> readPacked rmc data

/-- What a blank message holds of a message that came packed. -/
def receivedPacked (blank m : RMCMessage) : RMCMessage :=
  if m.isRequest then
    { blank with
      isRequest := true, protocolID := m.protocolID, callID := m.callID
      methodID := m.methodID, parameters := m.parameters }
  else if m.isSuccess then
    { blank with
      isRequest := false, isSuccess := true, protocolID := m.protocolID, callID := m.callID
      methodID := m.methodID, parameters := m.parameters }
  else
    { blank with
      isRequest := false, isSuccess := false, protocolID := m.protocolID
      errorCode := m.errorCode, callID := m.callID }

/-- The fewest bytes behind the protocol that a message is read from. -/
def bodyLength (m : RMCMessage) : Nat :=
  if m.isRequest then 8 + m.parameters.length
  else if m.isSuccess then 9 + m.parameters.length
  else 9

theorem packedBody_length (m : RMCMessage) : m.packedBody.length = m.bodyLength := by
  unfold packedBody bodyLength
  split
  next =>
    simp only [List.length_append, uint32Bytes_length]
    omega
  next =>
    split <;> simp only [List.length_append, uint32Bytes_length, boolBytes_length]
    omega

theorem bodyLength_receivedPacked (blank m : RMCMessage) :
    (receivedPacked blank m).bodyLength = m.bodyLength := by
  unfold receivedPacked bodyLength
  by_cases request : m.isRequest = true
  · simp only [request, if_true]
  · by_cases success : m.isSuccess = true
    · simp only [request, success, if_true]
      rfl
    · simp only [request, success]
      rfl

/-! ### The protocol byte -/

theorem smallProtocol_flag (request : Bool) : ∀ value < 128,
    ((UInt16.ofNat value ||| protocolIDFlag request).toUInt8 &&& 0x7F).toUInt16 =
        UInt16.ofNat value ∧
      ((UInt16.ofNat value ||| protocolIDFlag request).toUInt8 &&& 0x80 != 0) = request := by
  cases request <;> decide

theorem readProtocol_protocolBytes (direct : m.protocolID ≠ 0x7F) :
    Reads readProtocol m.protocolBytes (m.isRequest, m.protocolID) := by
  unfold protocolBytes
  split
  next small =>
    have bits := smallProtocol_flag m.isRequest m.protocolID.toNat
      (UInt16.lt_iff_toNat_lt.mp small)
    rw [UInt16.ofNat_toNat] at bits
    intro back
    rw [readProtocol, bind_of_ok (((reads_uint8 _).context _) back), if_neg, bits.1, bits.2,
      pure_apply]
    rw [bits.1]
    exact direct
  next =>
    have bits := smallProtocol_flag m.isRequest 0x7F (by decide)
    apply ((reads_uint8 _).context _).bind
    have named : ((0x7F ||| protocolIDFlag m.isRequest).toUInt8 &&& 0x7F).toUInt16 = 0x7F := bits.1
    have flagged : ((0x7F ||| protocolIDFlag m.isRequest).toUInt8 &&& 0x80 != 0) =
      m.isRequest := bits.2
    rw [if_pos named, flagged]
    exact ((reads_uint16 m.protocolID).context _).bind_pure fun extended =>
      (m.isRequest, extended)

/-- The protocol that doubles as the mark of an extended one takes two bytes of
what follows for its number. -/
theorem readProtocol_mark {input left : Bytes} {protocol : Bool × UInt16}
    (mark : m.protocolID = 0x7F)
    (readBack : readProtocol (m.protocolBytes ++ input) = .ok (protocol, left)) :
    protocol.1 = m.isRequest ∧ left.length + 2 = input.length := by
  have bits := smallProtocol_flag m.isRequest 0x7F (by decide)
  have named : ((0x7F ||| protocolIDFlag m.isRequest).toUInt8 &&& 0x7F).toUInt16 = 0x7F := bits.1
  have flagged : ((0x7F ||| protocolIDFlag m.isRequest).toUInt8 &&& 0x80 != 0) =
    m.isRequest := bits.2
  have bytes : m.protocolBytes = uint8Bytes (0x7F ||| protocolIDFlag m.isRequest).toUInt8 := by
    unfold protocolBytes
    rw [mark, if_pos (by decide)]
  rw [bytes, readProtocol, bind_of_ok (((reads_uint8 _).context _) input), if_pos named,
    flagged] at readBack
  obtain ⟨extended, between, readExtended, same⟩ := bind_eq_ok.mp readBack
  obtain ⟨rfl, rfl⟩ := Prod.mk.inj (Except.ok.inj same)
  rw [readUInt16LE_eq_ok.mp (context_eq_ok.mp readExtended), List.length_append,
    uint16Bytes_length]
  exact ⟨rfl, Nat.add_comm _ _⟩

/-! ### The packed body -/

theorem readPackedRequest_eq (rmc : RMCMessage) (callID methodID : UInt32) (parameters : Bytes) :
    readPackedRequest rmc (uint32Bytes callID ++ (uint32Bytes methodID ++ parameters)) =
      .ok ({ rmc with
        isRequest := true, callID := callID, methodID := methodID
        parameters := parameters }, []) := by
  rw [readPackedRequest, bind_of_ok (((reads_uint32 _).context _) _),
    bind_of_ok (((reads_uint32 _).context _) _)]
  rfl

theorem readPackedResponse_success (rmc : RMCMessage) (callID methodID : UInt32)
    (parameters : Bytes) :
    readPackedResponse rmc
        (boolBytes true ++ (uint32Bytes callID ++ (uint32Bytes methodID ++ parameters))) =
      .ok ({ rmc with
        isRequest := false, isSuccess := true, callID := callID
        methodID := methodID &&& ~~~0x8000, parameters := parameters }, []) := by
  rw [readPackedResponse, bind_of_ok (((reads_bool true).context _) _), if_pos rfl,
    bind_of_ok (((reads_uint32 _).context _) _), bind_of_ok (((reads_uint32 _).context _) _)]
  rfl

theorem readPackedResponse_error (rmc : RMCMessage) (errorCode callID : UInt32) :
    readPackedResponse rmc (boolBytes false ++ (uint32Bytes errorCode ++ uint32Bytes callID)) =
      .ok ({ rmc with
        isRequest := false, isSuccess := false, errorCode := errorCode,
        callID := callID }, []) := by
  have last := ((reads_uint32 callID).context
    "Failed to read RMC Message (response) call ID. ") []
  rw [List.append_nil] at last
  rw [readPackedResponse, bind_of_ok (((reads_bool false).context _) _), if_neg Bool.false_ne_true,
    bind_of_ok (((reads_uint32 _).context _) _), bind_of_ok last]
  rfl

theorem readPackedRequest_bodyLength {rmc : RMCMessage} {input left : Bytes}
    (readBack : readPackedRequest rmc input = .ok (r, left)) : r.bodyLength ≤ input.length := by
  obtain ⟨callID, afterCall, readCall, readBack⟩ := bind_eq_ok.mp readBack
  obtain ⟨methodID, afterMethod, readMethod, readBack⟩ := bind_eq_ok.mp readBack
  rw [readUInt32LE_eq_ok.mp (context_eq_ok.mp readCall),
    readUInt32LE_eq_ok.mp (context_eq_ok.mp readMethod)]
  obtain ⟨rfl, -⟩ := Prod.mk.inj (Except.ok.inj readBack)
  simp only [bodyLength, if_true, List.length_append, uint32Bytes_length]
  omega

theorem readPackedResponse_bodyLength {rmc : RMCMessage} {input left : Bytes}
    (readBack : readPackedResponse rmc input = .ok (r, left)) : r.bodyLength ≤ input.length := by
  obtain ⟨isSuccess, afterFlag, readFlag, readBack⟩ := bind_eq_ok.mp readBack
  have shorter := shortens_fixed Nat.one_pos _ _ _ _ _ (context_eq_ok.mp readFlag)
  split at readBack
  next =>
    obtain ⟨callID, afterCall, readCall, readBack⟩ := bind_eq_ok.mp readBack
    obtain ⟨methodID, afterMethod, readMethod, readBack⟩ := bind_eq_ok.mp readBack
    rw [readUInt32LE_eq_ok.mp (context_eq_ok.mp readCall),
      readUInt32LE_eq_ok.mp (context_eq_ok.mp readMethod)] at shorter
    obtain ⟨rfl, -⟩ := Prod.mk.inj (Except.ok.inj readBack)
    simp only [List.length_append, uint32Bytes_length] at shorter
    show 9 + afterMethod.length ≤ input.length
    omega
  next =>
    obtain ⟨errorCode, afterError, readError, readBack⟩ := bind_eq_ok.mp readBack
    obtain ⟨callID, afterCall, readCall, readBack⟩ := bind_eq_ok.mp readBack
    rw [readUInt32LE_eq_ok.mp (context_eq_ok.mp readError),
      readUInt32LE_eq_ok.mp (context_eq_ok.mp readCall)] at shorter
    obtain ⟨rfl, -⟩ := Prod.mk.inj (Except.ok.inj readBack)
    simp only [List.length_append, uint32Bytes_length] at shorter
    show 9 ≤ input.length
    omega

/-! ### Packed round trip -/

theorem serializePacked_eq (named : m.isHPP = true → m.isRequest = true) :
    m.serializePacked = m.protocolBytes ++ m.packedBody := by
  rw [serializePacked, if_pos]
  cases hpp : m.isHPP
  · rfl
  · rw [named hpp]
    rfl

/-- A message that is read takes no more than what follows the protocol. -/
theorem decodePacked_bodyLength (read : decodePacked blank m.encodePacked = .ok r) :
    m.serializePacked.length < 2 ^ 32 ∧ ∃ protocol body,
      readProtocol m.serializePacked = .ok (protocol, body) ∧ r.bodyLength ≤ body.length := by
  unfold decodePacked encodePacked at read
  rcases outcome : readPacked blank (frame m.serializePacked) with reason | result
  · rw [outcome] at read
    cases read
  · rw [outcome] at read
    obtain rfl := Except.ok.inj read
    obtain ⟨⟨⟩, rest, sized, readBack⟩ := bind_eq_ok.mp outcome
    obtain ⟨short, rfl⟩ := readSize_frame_eq_ok sized
    obtain ⟨protocol, body, readFirst, readBody⟩ := bind_eq_ok.mp readBack
    refine ⟨short, protocol, body, readFirst, ?_⟩
    split at readBody
    · exact readPackedRequest_bodyLength readBody
    · exact readPackedResponse_bodyLength readBody

theorem readProtocol_shortens : Shortens readProtocol := by
  intro input protocol left read
  obtain ⟨first, between, readFirst, rest⟩ := bind_eq_ok.mp read
  have shorter := shortens_readUInt8 _ _ _ (context_eq_ok.mp readFirst)
  split at rest
  · obtain ⟨extended, after, readExtended, same⟩ := bind_eq_ok.mp rest
    obtain ⟨-, rfl⟩ := Prod.mk.inj (Except.ok.inj same)
    exact (shortens_readUInt16LE _ _ _ (context_eq_ok.mp readExtended)).trans shorter
  · obtain ⟨-, rfl⟩ := Prod.mk.inj (Except.ok.inj rest)
    exact shorter

/-- The message with the method bit of a response taken off. -/
def clearMethodBit (m : RMCMessage) : RMCMessage :=
  if m.isRequest = false ∧ m.isSuccess = true then
    { m with methodID := (m.methodID ||| 0x8000) &&& ~~~0x8000 }
  else m

theorem readPacked_encodePacked (blank : RMCMessage) (named : m.isHPP = true → m.isRequest = true)
    (short : m.serializePacked.length < 2 ^ 32) (direct : m.protocolID ≠ 0x7F) :
    readPacked blank m.encodePacked = .ok (receivedPacked blank m.clearMethodBit, []) := by
  rw [readPacked, encodePacked, bind_of_ok (readSize_frame short), serializePacked_eq named,
    bind_of_ok (readProtocol_protocolBytes direct m.packedBody)]
  cases request : m.isRequest with
  | true =>
      rw [if_pos rfl, packedBody, if_pos request, readPackedRequest_eq]
      simp [receivedPacked, clearMethodBit, request]
  | false =>
      rw [if_neg Bool.false_ne_true, packedBody, if_neg (by simp [request])]
      cases success : m.isSuccess with
      | true =>
          rw [if_pos rfl, readPackedResponse_success]
          simp [receivedPacked, clearMethodBit, request, success]
      | false =>
          rw [if_neg Bool.false_ne_true, readPackedResponse_error]
          simp [receivedPacked, clearMethodBit, request, success]

theorem receivedPacked_clearMethodBit (blank m : RMCMessage) :
    receivedPacked blank m.clearMethodBit = receivedPacked blank m ↔
      (m.isRequest = false → m.isSuccess = true → m.methodID &&& 0x8000 = 0) := by
  by_cases response : m.isRequest = false ∧ m.isSuccess = true
  · obtain ⟨request, success⟩ := response
    simp only [receivedPacked, clearMethodBit, request, success, and_self, if_true,
      Bool.false_eq_true, if_false, RMCMessage.mk.injEq, true_and, and_true, forall_const]
    exact uint32_clear_set m.methodID 0x8000
  · rw [clearMethodBit, if_neg response]
    exact ⟨fun _ request success => absurd ⟨request, success⟩ response, fun _ => rfl⟩

/-- **Packed messages.** A message is read back exactly when its length fits, it is
no response of the HTTP variant, which leaves out the protocol, its protocol is not
the number that marks extended protocols and, for a successful response, its method
does not use the bit that marks responses. -/
theorem decodePacked_encodePacked (blank m : RMCMessage) :
    decodePacked blank m.encodePacked = .ok (receivedPacked blank m) ↔
      m.serializePacked.length < 2 ^ 32 ∧ (m.isHPP = true → m.isRequest = true) ∧
        m.protocolID ≠ 0x7F ∧
        (m.isRequest = false → m.isSuccess = true → m.methodID &&& 0x8000 = 0) := by
  constructor
  · intro decoded
    obtain ⟨short, protocol, body, readFirst, bounded⟩ := decodePacked_bodyLength decoded
    rw [bodyLength_receivedPacked, ← packedBody_length] at bounded
    have named : m.isHPP = true → m.isRequest = true := by
      intro hpp
      by_contra response
      have bare : m.serializePacked = m.packedBody := by
        rw [serializePacked, if_neg]
        simp [hpp, response]
      have shorter := readProtocol_shortens _ _ _ readFirst
      rw [bare] at shorter
      omega
    have direct : m.protocolID ≠ 0x7F := by
      intro mark
      rw [serializePacked_eq named] at readFirst
      obtain ⟨-, shorter⟩ := readProtocol_mark mark readFirst
      omega
    refine ⟨short, named, direct, ?_⟩
    rw [decodePacked, readPacked_encodePacked blank named short direct] at decoded
    exact (receivedPacked_clearMethodBit blank m).mp (Except.ok.inj decoded)
  · rintro ⟨short, named, direct, plain⟩
    rw [decodePacked, readPacked_encodePacked blank named short direct]
    exact congrArg Except.ok ((receivedPacked_clearMethodBit blank m).mpr plain)

/-! ### The verbose encoding -/

/-- The body of a request whose class versions are ranged over in this order. -/
def verboseBody (settings : ByteStreamSettings) (visited : List (Σ _ : NexString, UInt16))
    (m : RMCMessage) : Bytes :=
  if m.isRequest then
    uint32Bytes m.callID ++ (writeTo settings m.methodName ++
      (writeMap settings visited ++ m.parameters))
  else if m.isSuccess then
    boolBytes m.isSuccess ++
      (uint32Bytes m.callID ++ (writeTo settings m.methodName ++ m.parameters))
  else
    boolBytes m.isSuccess ++ (uint32Bytes m.errorCode ++ uint32Bytes m.callID)

def serializeVerbose (settings : ByteStreamSettings) (visited : List (Σ _ : NexString, UInt16))
    (m : RMCMessage) : Bytes :=
  writeTo settings m.protocolName ++
    (boolBytes m.isRequest ++ m.verboseBody settings visited)

def encodeVerbose (settings : ByteStreamSettings) (visited : List (Σ _ : NexString, UInt16))
    (m : RMCMessage) : Bytes :=
  frame (m.serializeVerbose settings visited)

def readVerboseRequest (settings : ByteStreamSettings) (rmc : RMCMessage) :
    Reader RMCMessage := do
  let callID ← readUInt32LE.context "Failed to read RMC Message (request) call ID. "
  let methodName ← (extractFrom settings).context
    "Failed to read RMC Message (request) method name. "
  let versions ← (extractMap settings).context
    "Failed to read RMC Message ClassVersionContainer. "
  let parameters ← readRemaining
  return { rmc with
    isRequest := true, callID := callID, methodName := methodName
    versionContainer := some versions, parameters := parameters }

def readVerboseResponse (settings : ByteStreamSettings) (rmc : RMCMessage) :
    Reader RMCMessage := do
  let isSuccess ← readBool.context "Failed to read RMC Message (response) error check. "
  if isSuccess then do
    let callID ← readUInt32LE.context "Failed to read RMC Message (response) call ID. "
    let methodName ← (extractFrom settings).context
      "Failed to read RMC Message (response) method name. "
    let parameters ← readRemaining
    return { rmc with
      isRequest := false, isSuccess := true, callID := callID, methodName := methodName
      parameters := parameters }
  else do
    let errorCode ← readUInt32LE.context "Failed to read RMC Message (response) error code. "
    let callID ← readUInt32LE.context "Failed to read RMC Message (response) call ID. "
    return { rmc with
      isRequest := false, isSuccess := false, errorCode := errorCode, callID := callID }

def readVerbose (settings : ByteStreamSettings) (rmc : RMCMessage) : Reader RMCMessage := do
  readSize
  let protocolName ← (extractFrom settings).context "Failed to read RMC Message protocol name. "
  let isRequest ← readBool.context "Failed to read RMC Message \"is request\" bool. "
  if isRequest then readVerboseRequest settings { rmc with protocolName := protocolName }
  else readVerboseResponse settings { rmc with protocolName := protocolName }

def decodeVerbose (settings : ByteStreamSettings) (rmc : RMCMessage) (data : Bytes) :
    Except String RMCMessage :=
  Prod.fst <$> readVerbose settings rmc data

/-- What a blank message holds of a verbose message, with the class versions
that were read. -/
def receivedVerbose (blank m : RMCMessage) (versions : ClassVersions) : RMCMessage :=
  if m.isRequest then
    { blank with
      isRequest := true, protocolName := m.protocolName, callID := m.callID
      methodName := m.methodName, versionContainer := some versions
      parameters := m.parameters }
  else if m.isSuccess then
    { blank with
      isRequest := false, isSuccess := true, protocolName := m.protocolName
      callID := m.callID, methodName := m.methodName, parameters := m.parameters }
  else
    { blank with
      isRequest := false, isSuccess := false, protocolName := m.protocolName
      errorCode := m.errorCode, callID := m.callID }

/-- The names and class versions of a message survive the wire. -/
structure VerboseFits (settings : ByteStreamSettings) (visited : List (Σ _ : NexString, UInt16))
    (m : RMCMessage) : Prop where
  protocolName : Fits settings m.protocolName
  methodName : Fits settings m.methodName
  versions : FitsEntries settings visited
  short : (m.serializeVerbose settings visited).length < 2 ^ 32

variable {settings : ByteStreamSettings} {visited : List (Σ _ : NexString, UInt16)}

theorem readVerboseRequest_eq {versions : ClassVersions} (rmc : RMCMessage)
    (fits : Fits settings m.methodName)
    (reads : Reads (extractMap settings) (writeMap settings visited) versions) :
    readVerboseRequest settings rmc (uint32Bytes m.callID ++ (writeTo settings m.methodName ++
        (writeMap settings visited ++ m.parameters))) =
      .ok ({ rmc with
        isRequest := true, callID := m.callID, methodName := m.methodName
        versionContainer := some versions, parameters := m.parameters }, []) := by
  rw [readVerboseRequest, bind_of_ok (((reads_uint32 _).context _) _),
    bind_of_ok (((LawfulRVType.reads fits).context _) _), bind_of_ok ((reads.context _) _)]
  rfl

theorem readVerboseResponse_success (rmc : RMCMessage) (fits : Fits settings m.methodName) :
    readVerboseResponse settings rmc (boolBytes true ++
        (uint32Bytes m.callID ++ (writeTo settings m.methodName ++ m.parameters))) =
      .ok ({ rmc with
        isRequest := false, isSuccess := true, callID := m.callID, methodName := m.methodName
        parameters := m.parameters }, []) := by
  rw [readVerboseResponse, bind_of_ok (((reads_bool true).context _) _), if_pos rfl,
    bind_of_ok (((reads_uint32 _).context _) _),
    bind_of_ok (((LawfulRVType.reads fits).context _) _)]
  rfl

theorem readVerboseResponse_error (rmc : RMCMessage) (errorCode callID : UInt32) :
    readVerboseResponse settings rmc
        (boolBytes false ++ (uint32Bytes errorCode ++ uint32Bytes callID)) =
      .ok ({ rmc with
        isRequest := false, isSuccess := false, errorCode := errorCode,
        callID := callID }, []) := by
  have last := ((reads_uint32 callID).context
    "Failed to read RMC Message (response) call ID. ") []
  rw [List.append_nil] at last
  rw [readVerboseResponse, bind_of_ok (((reads_bool false).context _) _),
    if_neg Bool.false_ne_true, bind_of_ok (((reads_uint32 _).context _) _), bind_of_ok last]
  rfl

/-- **Verbose messages.** Whatever order its class versions are written in, a
message whose names and versions fit is read back, with the same versions. -/
theorem decodeVerbose_encodeVerbose (blank m : RMCMessage)
    (order : visited.Perm (m.versionContainer.getD ∅).entries)
    (fits : VerboseFits settings visited m) :
    ∃ versions : ClassVersions,
      decodeVerbose settings blank (m.encodeVerbose settings visited) =
          .ok (receivedVerbose blank m versions) ∧
        ∀ name, versions.lookup name = (m.versionContainer.getD ∅).lookup name := by
  obtain ⟨versions, reads, same⟩ := reads_map order fits.versions
  refine ⟨versions, ?_, same⟩
  have readBack : readVerbose settings blank (m.encodeVerbose settings visited) =
      .ok (receivedVerbose blank m versions, []) := by
    rw [readVerbose, encodeVerbose, bind_of_ok (readSize_frame fits.short), serializeVerbose,
      bind_of_ok (((LawfulRVType.reads fits.protocolName).context _) _),
      bind_of_ok (((reads_bool m.isRequest).context _) _), verboseBody, receivedVerbose]
    cases m.isRequest with
    | true => exact readVerboseRequest_eq _ fits.methodName reads
    | false =>
        cases m.isSuccess with
        | true => exact readVerboseResponse_success _ fits.methodName
        | false => exact readVerboseResponse_error _ m.errorCode m.callID
  rw [decodeVerbose, readBack]
  rfl

/-- A request with two class versions. -/
def requestSample : RMCMessage :=
  { newRMCRequest with
    protocolName := ⟨[80]⟩, callID := 3, methodName := ⟨[77, 78]⟩, parameters := [9]
    versionContainer := some ((AList.insert ⟨[65]⟩ 1 ∅).insert ⟨[66]⟩ 2) }

theorem decodeVerbose_encodeVerbose_sample :
    ∃ versions : ClassVersions,
      decodeVerbose newByteStreamSettings newRMCMessage
          (requestSample.encodeVerbose newByteStreamSettings [⟨⟨[65]⟩, 1⟩, ⟨⟨[66]⟩, 2⟩]) =
        .ok (receivedVerbose newRMCMessage requestSample versions) ∧
      ∀ name, versions.lookup name = (requestSample.versionContainer.getD ∅).lookup name :=
  decodeVerbose_encodeVerbose newRMCMessage requestSample (List.Perm.swap _ _ [])
    { protocolName := by constructor <;> decide
      methodName := by constructor <;> decide
      versions := by
        refine ⟨by decide, List.forall_mem_cons.mpr ⟨⟨?_, trivial⟩,
          List.forall_mem_singleton.mpr ⟨?_, trivial⟩⟩⟩
        all_goals constructor <;> decide
      short := by decide }

end RMCMessage

end CommunityServers.Nex
