import CommunityServers.Nex.Delivery
import CommunityServers.Nex.Kerberos
import CommunityServers.Nex.PacketV1
import CommunityServers.Nex.SessionKey

/-!
Contract: the SYN and CONNECT of version 1, and the sessions they open.

Owns:
- both handlers with the packets they answer;
- that a CONNECT with a genuine ticket puts the connection in step with a client
  that has the ticket's session key, whatever happened on it before;
- that messages are then delivered, and that a CONNECT which is handled again
  lets everything be delivered again;
- substreams that nobody needs a session key for, and sessions that go on without
  one after a CONNECT was refused.

Does not own: heartbeats and the connection table, the other versions, and the
experiment that answers one CONNECT nine times.
-/

set_option autoImplicit false

namespace CommunityServers.Nex

open CommunityServers.Foundation

/-- What a CONNECT is answered with in the field of the connection signature. -/
inductive ConnectionSignatureField where
  | zeros
  | ours
  | theirs

/-- What the two handlers read of their endpoint and its server. The connection
signature is that of the client's address. -/
structure HandshakeSettings where
  hashes : Hashes
  kerberos : KerberosEndPoint
  isSecureEndPoint : Bool
  encryptedConnect : Bool
  supportedFunctions : UInt32
  connectionSignature : Bytes
  field : ConnectionSignatureField
  calculateSignature : PRUDPPacketV1 → (sessionKey connectionSignature : Bytes) → Bytes

namespace PRUDPConnection

/-- A server that tickets with session keys of one byte are made for; its hashes
are zero. -/
def sampleSettings : HandshakeSettings where
  hashes := ⟨fun _ => Vector.replicate 16 0, fun _ _ => Vector.replicate 16 0⟩
  kerberos := ⟨⟨0, 1, newByteStreamSettings⟩, ⟨⟨2⟩, ascii "secure", ascii "password"⟩,
    fun _ => some ⟨⟨2⟩, ascii "secure", ascii "password"⟩⟩
  isSecureEndPoint := true
  encryptedConnect := false
  supportedFunctions := 0
  connectionSignature := []
  field := .zeros
  calculateSignature _ _ _ := []

/-! ### The handlers -/

def handleSyn (settings : HandshakeSettings) (pc : PRUDPConnection) (packet : PRUDPPacketV1) :
    PRUDPPacketV1 × PRUDPConnection :=
  let ack : PRUDPPacketV1 := { PRUDPPacketV1.blank with
    packetType := synPacket
    flags := packetFlagAck ||| packetFlagHasSize
    sourceVirtualPort := packet.destinationVirtualPort
    destinationVirtualPort := packet.sourceVirtualPort
    connectionSignature := settings.connectionSignature
    maximumSubstreamID := packet.maximumSubstreamID
    minorVersion := packet.minorVersion
    supportedFunctions := settings.supportedFunctions &&& packet.supportedFunctions }
  ({ ack with signature := settings.calculateSignature ack [] [] },
    { pc.reset with
      signature := settings.connectionSignature
      connectionState := .connecting })

/-- What a CONNECT sets before its ticket is looked at. -/
def configure (pc : PRUDPConnection) (packet : PRUDPPacketV1) : PRUDPConnection :=
  { (({ pc with
        serverConnectionSignature := packet.connectionSignature
        sessionID := packet.sessionID
        serverSessionID := packet.sessionID } : PRUDPConnection).initializeSlidingWindows
      packet.maximumSubstreamID).initializePacketDispatchQueues packet.maximumSubstreamID with
    outgoingUnreliableSequenceIDCounter := packet.initialUnreliableSequenceID }

/-- The connection with the algorithm of its own settings replaced. -/
def withAlgorithm (pc : PRUDPConnection) (algorithm : EncryptionAlgorithm) : PRUDPConnection :=
  { pc with streamSettings := { pc.streamSettings with encryptionAlgorithm := algorithm } }

/-- The ticket of a CONNECT: the user and the payload of the answer, if it is
accepted. `none` is a panic. -/
def acceptTicket (settings : HandshakeSettings) (order : List UInt8) (serverTime : Int)
    (pc : PRUDPConnection) (payload : Bytes) : Option (Option (PID × Bytes) × PRUDPConnection) := do
  let decrypted :=
    if settings.encryptedConnect then
      (pc.streamSettings.encryptionAlgorithm.decrypt payload).map id pc.withAlgorithm
    else (payload, pc)
  let pc := decrypted.2
  match ← pc.streamSettings.compressionAlgorithm.decompress decrypted.1 with
  | .error _ => some (none, pc)
  | .ok decompressedPayload =>
      match readKerberosTicket settings.hashes settings.kerberos serverTime decompressedPayload with
      | .error .panicked => none
      | .error (.error _) => some (none, pc)
      | .ok (sessionKey, pid, checkValue) =>
          some (some (pid, writeTo settings.kerberos.server.byteStreamSettings
              (Buffer.mk (uint32Bytes (checkValue + 1)))),
            pc.setSessionKey settings.hashes.md5 order sessionKey)

/-- The payload of the answer as it is sent. -/
def sealAnswer (settings : HandshakeSettings) (pc : PRUDPConnection) (payload : Bytes) :
    Option (Bytes × PRUDPConnection) :=
  if payload.length ≠ 0 then do
    let compressedPayload ← pc.streamSettings.compressionAlgorithm.compress payload
    if settings.encryptedConnect then
      return (pc.streamSettings.encryptionAlgorithm.encrypt compressedPayload).map id
        pc.withAlgorithm
    else return (compressedPayload, pc)
  else some (payload, pc)

def connectAck (settings : HandshakeSettings) (pc : PRUDPConnection) (packet : PRUDPPacketV1)
    (payload : Bytes) : PRUDPPacketV1 :=
  let ack : PRUDPPacketV1 := { PRUDPPacketV1.blank with
    packetType := connectPacket
    flags := packetFlagAck ||| packetFlagHasSize
    sourceVirtualPort := packet.destinationVirtualPort
    destinationVirtualPort := packet.sourceVirtualPort
    connectionSignature := match settings.field with
      | .zeros => List.replicate settings.connectionSignature.length 0
      | .ours => pc.signature
      | .theirs => packet.connectionSignature
    sessionID := packet.sessionID
    sequenceID := 1
    maximumSubstreamID := packet.maximumSubstreamID
    minorVersion := packet.minorVersion
    supportedFunctions := packet.supportedFunctions
    payload := payload }
  { ack with signature := settings.calculateSignature ack [] packet.connectionSignature }

/-- The answer with the user it is for, if there is one; on an endpoint that is
not secure nobody is identified. `none` is a panic, and the order is the one in
which the windows are visited. -/
def handleConnect (settings : HandshakeSettings) (order : List UInt8) (serverTime : Int)
    (pc : PRUDPConnection) (packet : PRUDPPacketV1) :
    Option (Option (PRUDPPacketV1 × Option PID) × PRUDPConnection) :=
  if pc.connectionState = .notConnected then some (none, pc)
  else do
    let pc := pc.configure packet
    let accepted ←
      if settings.isSecureEndPoint then
        (acceptTicket settings order serverTime pc packet.payload).map fun outcome =>
          (outcome.1.map fun answer => (some answer.1, answer.2), outcome.2)
      else some (some (none, []), pc)
    match accepted.1 with
    | none => some (none, accepted.2)
    | some (pid, payload) =>
        let answer ← sealAnswer settings accepted.2 payload
        some (some (connectAck settings answer.2 packet answer.1, pid),
          { answer.2 with connectionState := .connected })

/-- A connection that was greeted. -/
def sampleConnection : PRUDPConnection :=
  { new newStreamSettings with connectionState := .connecting }

theorem sampleConnection_up : sampleConnection.connectionState ≠ .notConnected := nofun

/-! ### A connection that was configured -/

variable {settings : HandshakeSettings} {order : List UInt8} {serverTime : Int}
  {pc peer : PRUDPConnection} {packet : PRUDPPacketV1} {substreamID : UInt8}

theorem foldl_createPacketDispatchQueue_frame (order : List UInt8) (pc : PRUDPConnection) :
    ∃ queues,
      order.foldl createPacketDispatchQueue pc = { pc with packetDispatchQueues := queues } ∧
      ∀ substreamID, pc.queueOf substreamID = PacketDispatchQueue.new →
        (queues substreamID).getD PacketDispatchQueue.new = PacketDispatchQueue.new := by
  induction order generalizing pc with
  | nil => exact ⟨pc.packetDispatchQueues, rfl, fun _ empty => empty⟩
  | cons first rest inductionHypothesis =>
      obtain ⟨queues, same, empty⟩ := inductionHypothesis (pc.createPacketDispatchQueue first)
      refine ⟨queues, same, fun substreamID isNew => empty substreamID ?_⟩
      by_cases equal : substreamID = first
      · subst equal
        exact queueOf_set_self pc substreamID PacketDispatchQueue.new
      · exact (queueOf_set_ne equal pc PacketDispatchQueue.new).trans isNew

theorem foldl_createSlidingWindow_frame (order : List UInt8) (pc : PRUDPConnection) :
    ∃ windows, order.foldl createSlidingWindow pc = { pc with slidingWindows := windows } := by
  induction order generalizing pc with
  | nil => exact ⟨pc.slidingWindows, rfl⟩
  | cons first rest inductionHypothesis => exact inductionHypothesis (pc.createSlidingWindow first)

/-- A connection ready for its first session key: windows for its substreams,
and only new queues. -/
structure Configured (maxSubstreamID : UInt8) (before after : PRUDPConnection) : Prop where
  initialized : Initialized maxSubstreamID after
  queues : ∀ any, after.queueOf any = PacketDispatchQueue.new
  state : after.connectionState = before.connectionState
  settings : after.streamSettings = before.streamSettings
  buffers : after.incomingFragmentBuffers = before.incomingFragmentBuffers

theorem configured (pc : PRUDPConnection) (packet : PRUDPPacketV1) :
    Configured packet.maximumSubstreamID pc (pc.configure packet) := by
  let base : PRUDPConnection := { pc with
    serverConnectionSignature := packet.connectionSignature
    sessionID := packet.sessionID
    serverSessionID := packet.sessionID }
  have windows := initialized base packet.maximumSubstreamID
  obtain ⟨made, sameWindows⟩ := foldl_createSlidingWindow_frame
    (substreams packet.maximumSubstreamID) { base with slidingWindows := fun _ => none }
  have opened : base.initializeSlidingWindows packet.maximumSubstreamID =
    { base with slidingWindows := made } := sameWindows
  obtain ⟨queues, sameQueues, empty⟩ := foldl_createPacketDispatchQueue_frame
    (substreams packet.maximumSubstreamID)
    { base.initializeSlidingWindows packet.maximumSubstreamID with
      packetDispatchQueues := fun _ => none }
  have same : pc.configure packet =
      { base.initializeSlidingWindows packet.maximumSubstreamID with
        packetDispatchQueues := queues
        outgoingUnreliableSequenceIDCounter := packet.initialUnreliableSequenceID } :=
    congrArg (fun after : PRUDPConnection => { after with
      outgoingUnreliableSequenceIDCounter := packet.initialUnreliableSequenceID }) sameQueues
  rw [same]
  refine ⟨windows, fun any => empty any rfl, ?_, ?_, ?_⟩
  · rw [opened]
  · rw [opened]
  · rw [opened]

/-! ### Sessions -/

/-- Settings that compress nothing and whose copies start with both streams at
the same place. -/
structure FreshSettings (settings : StreamSettings) : Prop where
  compression : settings.compressionAlgorithm = .dummy
  inStep : settings.encryptionAlgorithm.copy.InStep settings.encryptionAlgorithm.copy

/-- A client before its first packet on a substream, which has the sequence ID
after that of its CONNECT, with the algorithm it uses there. -/
structure Client (substreamID : UInt8) (algorithm : EncryptionAlgorithm) (peer : PRUDPConnection) :
    Prop where
  plain : peer.Plain
  counter : (peer.windowOf substreamID).sequenceIDCounter = 1
  algorithm : peer.algorithmOf substreamID = algorithm

/-- A client with a key of its own or with none. -/
def sampleClient (algorithm : EncryptionAlgorithm) : PRUDPConnection :=
  (new newStreamSettings).setSlidingWindow 0
    { (new newStreamSettings).newSlidingWindow.withAlgorithm algorithm with
      sequenceIDCounter := 1 }

theorem sampleClient_client (algorithm : EncryptionAlgorithm) :
    Client 0 algorithm (sampleClient algorithm) := by
  refine ⟨⟨rfl, fun any => ?_⟩, ?_, ?_⟩
  · by_cases same : any = 0
    · subst same
      rfl
    · unfold compressionOf sampleClient
      rw [windowOf_set_ne same]
      rfl
  · rfl
  · rfl

/-- The connection that a CONNECT with a session key leaves. -/
def established (settings : HandshakeSettings) (order : List UInt8) (pc : PRUDPConnection)
    (packet : PRUDPPacketV1) (sessionKey : Bytes) : PRUDPConnection :=
  { (pc.configure packet).setSessionKey settings.hashes.md5 order sessionKey with
    connectionState := .connected }

theorem sealAnswer_plain (unencrypted : settings.encryptedConnect = false)
    (uncompressed : pc.streamSettings.compressionAlgorithm = .dummy) (payload : Bytes) :
    sealAnswer settings pc payload = some (payload, pc) := by
  unfold sealAnswer
  rw [uncompressed, unencrypted]
  split <;> rfl

theorem streamSettings_setSessionKey (md5 : Bytes → Vector UInt8 16) (order : List UInt8)
    (sessionKey : Bytes) (pc : PRUDPConnection) :
    (pc.setSessionKey md5 order sessionKey).streamSettings = pc.streamSettings := by
  obtain ⟨windows, baseKey, same⟩ := setSessionKey_frame md5 order sessionKey pc
  rw [same]

/-- The answer to a CONNECT whose ticket is accepted. -/
theorem handleConnect_accepted {sessionKey : Bytes} {pid : PID} {checkValue : UInt32}
    (up : pc.connectionState ≠ .notConnected) (secure : settings.isSecureEndPoint = true)
    (unencrypted : settings.encryptedConnect = false)
    (uncompressed : pc.streamSettings.compressionAlgorithm = .dummy)
    (accepted : readKerberosTicket settings.hashes settings.kerberos serverTime packet.payload =
      .ok (sessionKey, pid, checkValue)) (order : List UInt8) :
    ∃ ack, pc.handleConnect settings order serverTime packet =
        some (some (ack, some pid), established settings order pc packet sessionKey) ∧
      ack.payload = writeTo settings.kerberos.server.byteStreamSettings
        (Buffer.mk (uint32Bytes (checkValue + 1))) := by
  have sameSettings := (configured pc packet).settings
  have ticketRead : acceptTicket settings order serverTime (pc.configure packet) packet.payload =
      some (some (pid, writeTo settings.kerberos.server.byteStreamSettings
          (Buffer.mk (uint32Bytes (checkValue + 1)))),
        (pc.configure packet).setSessionKey settings.hashes.md5 order sessionKey) := by
    unfold acceptTicket
    simp only [unencrypted, Bool.false_eq_true, if_false, sameSettings, uncompressed,
      CompressionAlgorithm.decompress, Option.bind_eq_bind, Option.bind_some, accepted]
  have stillUncompressed : ((pc.configure packet).setSessionKey settings.hashes.md5 order
      sessionKey).streamSettings.compressionAlgorithm = .dummy := by
    rw [streamSettings_setSessionKey, sameSettings, uncompressed]
  have sealed := sealAnswer_plain unencrypted stillUncompressed
    (writeTo settings.kerberos.server.byteStreamSettings
      (Buffer.mk (uint32Bytes (checkValue + 1))))
  unfold handleConnect
  rw [if_neg up, secure, if_pos rfl, ticketRead]
  simp only [Option.map_some, Option.bind_eq_bind, Option.bind_some, sealed]
  exact ⟨_, rfl, rfl⟩

/-- A connection with new queues only, on a substream whose client has the
matching algorithm. -/
theorem Client.ready {algorithm : EncryptionAlgorithm} (client : Client substreamID algorithm peer)
    (connected : pc.connectionState = .connected) (plain : pc.Plain)
    (queues : ∀ any, pc.queueOf any = PacketDispatchQueue.new)
    (same : algorithm.InStep (pc.algorithmOf substreamID)) : Ready substreamID peer pc := by
  refine ⟨client.plain, plain, connected, ?_, ?_, ?_, ?_⟩
  · intro any sequenceID found lookup
    rw [queues any] at lookup
    cases lookup
  · rw [queues]
    rfl
  · rw [queues, client.counter]
    rfl
  · rw [client.algorithm]
    exact same

/-- A connection that was given a session key, on a substream whose client has
the matching algorithm. -/
theorem established_ready {sessionKey : Bytes} {algorithm : EncryptionAlgorithm}
    (fresh : FreshSettings pc.streamSettings) (client : Client substreamID algorithm peer)
    (visits : order.Perm (substreams packet.maximumSubstreamID))
    (same : algorithm.InStep
      (if substreamID ∈ substreams packet.maximumSubstreamID then
        pc.streamSettings.encryptionAlgorithm.copy.setKey
          (modifySessionKey^[modifications order substreamID] sessionKey)
      else pc.streamSettings.encryptionAlgorithm.copy)) :
    Ready substreamID peer (established settings order pc packet sessionKey) := by
  have made := configured pc packet
  have window (any : UInt8) :
      (established settings order pc packet sessionKey).windowOf any =
        if any ∈ substreams packet.maximumSubstreamID then
          pc.newSlidingWindow.setCipherKey
            (modifySessionKey^[modifications order any] sessionKey)
        else pc.newSlidingWindow := by
    have found := made.initialized.windowOf_setSessionKey settings.hashes.md5 sessionKey visits any
    unfold newSlidingWindow at found ⊢
    rwa [made.settings] at found
  refine client.ready rfl ⟨?_, fun any => ?_⟩ (fun any => ?_) ?_
  · show ((pc.configure packet).setSessionKey settings.hashes.md5 order
      sessionKey).streamSettings.compressionAlgorithm = .dummy
    rw [streamSettings_setSessionKey, made.settings, fresh.compression]
  · unfold compressionOf
    rw [window any]
    split <;> exact fresh.compression
  · obtain ⟨windows, baseKey, frame⟩ := setSessionKey_frame settings.hashes.md5 order sessionKey
      (pc.configure packet)
    unfold established
    rw [frame]
    exact made.queues any
  · unfold algorithmOf
    rw [window]
    split
    next member =>
      rw [if_pos member] at same
      exact same
    next beyond =>
      rw [if_neg beyond] at same
      exact same

/-- A connection that was configured and given no session key, for a client that
has none. -/
theorem configure_ready (packet : PRUDPPacketV1) (fresh : FreshSettings pc.streamSettings)
    (connected : pc.connectionState = .connected)
    (outsider : Client substreamID pc.streamSettings.encryptionAlgorithm.copy peer) :
    Ready substreamID peer (pc.configure packet) := by
  have made := configured pc packet
  have window (any : UInt8) : (pc.configure packet).windowOf any = pc.newSlidingWindow := by
    unfold windowOf newSlidingWindow
    rw [made.initialized any, ← made.settings]
    split <;> rfl
  refine outsider.ready (made.state.trans connected) ⟨?_, fun any => ?_⟩ made.queues ?_
  · rw [made.settings, fresh.compression]
  · unfold compressionOf
    rw [window any]
    exact fresh.compression
  · unfold algorithmOf
    rw [window substreamID]
    exact fresh.inStep

/-- The settings of a connection as an endpoint creates it. -/
theorem freshSettings_new : FreshSettings (new newStreamSettings).streamSettings := by
  refine ⟨rfl, ?_⟩
  have streams (r : RC4) (counts : r.cipheredCount = r.decipheredCount) :
      r.copy.cipher = r.copy.decipher := by
    unfold RC4.copy RC4.setKey
    rw [counts]
    cases Rc4.newCipher r.key <;> rfl
  exact streams RC4.new.copy rfl

/-- A secure endpoint, and a client that sends a CONNECT with a genuine ticket and
has its session key on a substream that it negotiates. -/
structure Session (settings : HandshakeSettings) (streamSettings : StreamSettings)
    (serverTime : Int) (packet : PRUDPPacketV1) (ticket : KerberosTicketInternalData)
    (checkValue : UInt32) (substreamID : UInt8) (peer : PRUDPConnection) : Prop where
  secure : settings.isSecureEndPoint = true
  unencrypted : settings.encryptedConnect = false
  fresh : FreshSettings streamSettings
  genuine : Genuine settings.hashes settings.kerberos serverTime packet.payload ticket checkValue
  negotiated : substreamID ∈ substreams packet.maximumSubstreamID
  client : Client substreamID (streamSettings.encryptionAlgorithm.copy.setKey
    (modifySessionKey^[substreamID.toNat] ticket.sessionKey)) peer

def sampleTicket : KerberosTicketInternalData := ⟨⟨0⟩, ⟨1000⟩, [9]⟩

def sampleSealed (key plain : Bytes) : Bytes :=
  (Rc4.xorKeyStream (Rc4.schedule key) plain).1 ++
    (sampleSettings.hashes.hmacMD5 key (Rc4.xorKeyStream (Rc4.schedule key) plain).1).toList

def sampleServerKey : Bytes :=
  serverKey sampleSettings.hashes ⟨⟨2⟩, ascii "secure", ascii "password"⟩

/-- A CONNECT for one substream, or with the maximum that makes none. -/
def sampleConnect (maximumSubstreamID : UInt8) : PRUDPPacketV1 :=
  { PRUDPPacketV1.blank with
    maximumSubstreamID := maximumSubstreamID
    payload :=
      writeTo newByteStreamSettings (Buffer.mk (sampleSealed sampleServerKey
        (sampleTicket.data newByteStreamSettings ++ []))) ++
      (writeTo newByteStreamSettings (Buffer.mk (sampleSealed [9]
        (requestBytes newByteStreamSettings ⟨1000⟩ 3 41 ++ []))) ++ []) }

theorem length_sampleSealed (key plain : Bytes) :
    (sampleSealed key plain).length = plain.length + 16 := by
  rw [sampleSealed, List.length_append, Vector.length_toList]
  exact congrArg (· + 16) (Rc4.keystream.apply_length (Rc4.schedule key) plain)

theorem sample_genuine (maximumSubstreamID : UInt8) :
    Genuine sampleSettings.hashes sampleSettings.kerberos sampleTicket.timeLimit
      (sampleConnect maximumSubstreamID).payload sampleTicket 41 := by
  have ticketFits : Fits newByteStreamSettings (Buffer.mk (sampleSealed sampleServerKey
      (sampleTicket.data newByteStreamSettings ++ []))) := by
    show (sampleSealed _ _).length < 2 ^ 32
    rw [length_sampleSealed]
    decide
  have requestFits : Fits newByteStreamSettings (Buffer.mk (sampleSealed [9]
      (requestBytes newByteStreamSettings ⟨1000⟩ 3 41 ++ []))) := by
    show (sampleSealed _ _).length < 2 ^ 32
    rw [length_sampleSealed]
    decide
  have size : IsKeySize sampleServerKey := serverKey_isKeySize _ _
  have sessionSize : IsKeySize [9] := by decide
  refine .intro 3 [] [] rfl ticketFits requestFits ⟨rfl, Or.inr (by decide)⟩
    (.shared [] (by decide) size ?_) le_rfl sessionSize ?_
  · exact KerberosEncryption.encrypt_of_isKeySize size _
  · exact KerberosEncryption.encrypt_of_isKeySize sessionSize _

theorem sample_session :
    Session sampleSettings sampleConnection.streamSettings sampleTicket.timeLimit (sampleConnect 0)
      sampleTicket 41 0
      (sampleClient (sampleConnection.streamSettings.encryptionAlgorithm.copy.setKey [9])) :=
  ⟨rfl, rfl, freshSettings_new, sample_genuine 0, by decide, sampleClient_client _⟩

variable {ticket : KerberosTicketInternalData} {checkValue : UInt32}

/-- The CONNECT of a session is answered, and both sides are then in step, in
every order of the windows that keys the substream by its number. -/
theorem Session.opens
    (session : Session settings pc.streamSettings serverTime packet ticket checkValue substreamID
      peer) (up : pc.connectionState ≠ .notConnected)
    (visits : order.Perm (substreams packet.maximumSubstreamID))
    (inTurn : modifications order substreamID = substreamID.toNat) :
    ∃ ack, pc.handleConnect settings order serverTime packet =
        some (some (ack, some ticket.sourcePID),
          established settings order pc packet ticket.sessionKey) ∧
      ack.payload = writeTo settings.kerberos.server.byteStreamSettings
        (Buffer.mk (uint32Bytes (checkValue + 1))) ∧
      Ready substreamID peer (established settings order pc packet ticket.sessionKey) := by
  obtain ⟨ack, handled, payload⟩ := handleConnect_accepted up session.secure session.unencrypted
    session.fresh.compression session.genuine.accepted order
  refine ⟨ack, handled, payload, established_ready session.fresh session.client visits ?_⟩
  rw [if_pos session.negotiated, inTurn]
  exact session.fresh.inStep.setKey _

theorem expectedMessages_configure (pc : PRUDPConnection) (packet : PRUDPPacketV1) (size : Nat)
    (messages : List PRUDPPacketInterface) :
    expectedMessages size substreamID (pc.configure packet) messages =
      expectedMessages size substreamID pc messages := by
  unfold expectedMessages getIncomingFragmentBuffer
  rw [(configured pc packet).buffers]

theorem expectedMessages_established (size : Nat) (sessionKey : Bytes)
    (messages : List PRUDPPacketInterface) :
    expectedMessages size substreamID (established settings order pc packet sessionKey) messages =
      expectedMessages size substreamID pc messages := by
  obtain ⟨windows, baseKey, frame⟩ := setSessionKey_frame settings.hashes.md5 order sessionKey
    (pc.configure packet)
  rw [← expectedMessages_configure pc packet]
  unfold established
  rw [frame]
  rfl

/-- **Sessions.** A CONNECT with a genuine ticket is answered with the check value
plus one, whatever happened on the connection before, and the client's messages
are then delivered: in order, each once, however the network treats the packets
and whatever else happens until the connection is opened anew or ended. Each is cut
after every 256 fragments, and what an earlier session left in the fragment buffer
is put in front of the first. -/
theorem handleConnect_delivers (ps : PRUDPServer) (pep : PRUDPEndPoint)
    (session : Session settings pc.streamSettings serverTime packet ticket checkValue substreamID
      peer) (up : pc.connectionState ≠ .notConnected)
    (visits : order.Perm (substreams packet.maximumSubstreamID))
    (inTurn : modifications order substreamID = substreamID.toNat)
    (positive : 0 < ps.fragmentSize) {messages : List PRUDPPacketInterface}
    (reliable : ∀ message ∈ messages, IsReliableData substreamID message)
    (short : (allFragments ps.fragmentSize messages).length < 65536) :
    ∃ ack after, pc.handleConnect settings order serverTime packet =
        some (some (ack, some ticket.sourcePID), after) ∧
      ack.payload = writeTo settings.kerberos.server.byteStreamSettings
        (Buffer.mk (uint32Bytes (checkValue + 1))) ∧
      Delivers ps pep substreamID peer after messages
        (expectedMessages ps.fragmentSize substreamID pc messages) := by
  obtain ⟨ack, handled, payload, ready⟩ := session.opens up visits inTurn
  refine ⟨ack, _, handled, payload, ?_⟩
  have delivers := ready.delivers ps pep positive reliable short
  rwa [expectedMessages_established] at delivers

def sampleServer : PRUDPServer := ⟨1300, false, fun _ _ _ => []⟩

def sampleEndPoint : PRUDPEndPoint := ⟨sampleServer, false, newByteStreamSettings⟩

def sampleMessage : PRUDPPacketInterface :=
  ⟨{ PRUDPPacket.blank with
    packetType := dataPacket
    flags := packetFlagReliable ||| packetFlagNeedsAck
    payload := [1, 2, 3] }, 1⟩

theorem sampleMessage_isReliableData : ∀ message ∈ [sampleMessage], IsReliableData 0 message := by
  refine List.forall_mem_singleton.mpr ⟨?_, ?_, ?_, ?_, ?_⟩ <;> decide

theorem sampleMessage_fragments : (allFragments sampleServer.fragmentSize [sampleMessage]).length <
    65536 := by
  have one : pieces sampleServer.fragmentSize sampleMessage.payload = [sampleMessage.payload] :=
    pieces_of_lt (by decide)
  simp [allFragments, one, fragmentPackets]

theorem handleConnect_delivers_sample :
    ∃ ack after, sampleConnection.handleConnect sampleSettings [0] sampleTicket.timeLimit
        (sampleConnect 0) = some (some (ack, some ⟨1000⟩), after) ∧
      ack.payload = [4, 0, 0, 0, 42, 0, 0, 0] ∧
      Delivers sampleServer sampleEndPoint 0
        (sampleClient (sampleConnection.streamSettings.encryptionAlgorithm.copy.setKey [9])) after
        [sampleMessage] (expectedMessages 1300 0 sampleConnection [sampleMessage]) :=
  handleConnect_delivers sampleServer sampleEndPoint sample_session sampleConnection_up (by decide)
    (by decide) (by decide) sampleMessage_isReliableData sampleMessage_fragments

/-- **Replayed sessions.** While the ticket is recent, a CONNECT that comes again
after any traffic of its session is answered again, and the packets of the first
session then deliver all messages a second time. Both times the windows have to be
visited in an order that keys the substream by its number. -/
theorem handleConnect_replayed (ps : PRUDPServer) (pep : PRUDPEndPoint)
    (session : Session settings pc.streamSettings serverTime packet ticket checkValue substreamID
      peer) (up : pc.connectionState ≠ .notConnected)
    (visits : order.Perm (substreams packet.maximumSubstreamID))
    (inTurn : modifications order substreamID = substreamID.toNat)
    {orderAgain : List UInt8} (visitsAgain : orderAgain.Perm (substreams packet.maximumSubstreamID))
    (inTurnAgain : modifications orderAgain substreamID = substreamID.toNat)
    (positive : 0 < ps.fragmentSize) {messages : List PRUDPPacketInterface}
    (reliable : ∀ message ∈ messages, IsReliableData substreamID message)
    (short : (allFragments ps.fragmentSize messages).length < 65536)
    {later : Int} (recent : later ≤ ticket.timeLimit) :
    ∃ ack first sent peerAfter,
      pc.handleConnect settings order serverTime packet =
        some (some (ack, some ticket.sourcePID), first) ∧
      (sendingMessages ps).run peer messages = some (sent, peerAfter) ∧
      ∀ events, (∀ event ∈ events, PeerStream.Permitted substreamID sent event) →
        ∃ outputs middle again second,
          (traffic pep).run first events = some (outputs, middle) ∧
          middle.handleConnect settings orderAgain later packet =
            some (some (again, some ticket.sourcePID), second) ∧
          ∃ replayed last, (traffic pep).run second (sent.map .receive) = some (replayed, last) ∧
            replayed.filterMap (deliveredOn substreamID) =
              expectedMessages ps.fragmentSize substreamID middle messages := by
  obtain ⟨ack, handled, -, ready⟩ := session.opens up visits inTurn
  obtain ⟨sent, peerAfter, ran, delivers⟩ := ready.delivers ps pep positive reliable short
  refine ⟨ack, _, sent, peerAfter, handled, ran, fun events permitted => ?_⟩
  obtain ⟨outputs, middle, traffic, kept, -⟩ := delivers events permitted
  have settingsKept : middle.streamSettings = pc.streamSettings :=
    kept.settings.trans ((streamSettings_setSessionKey settings.hashes.md5 order ticket.sessionKey
      (pc.configure packet)).trans (configured pc packet).settings)
  have stillUp : middle.connectionState ≠ .notConnected := by
    rw [kept.state]
    exact nofun
  have sessionAgain : Session settings middle.streamSettings later packet ticket checkValue
      substreamID peer := by
    rw [settingsKept]
    exact ⟨session.secure, session.unencrypted, session.fresh, session.genuine.at_time recent,
      session.negotiated, session.client⟩
  obtain ⟨again, handledAgain, -, readyAgain⟩ := sessionAgain.opens stillUp visitsAgain inTurnAgain
  obtain ⟨sentAgain, _, ranAgain, deliversAgain⟩ :=
    readyAgain.delivers ps pep positive reliable short
  obtain ⟨rfl, -⟩ := Prod.mk.inj (Option.some.inj (ranAgain.symm.trans ran))
  refine ⟨outputs, middle, again, _, traffic, handledAgain, ?_⟩
  have replay : ∀ event ∈ sentAgain.map TrafficEvent.receive,
      PeerStream.Permitted substreamID sentAgain event := by
    intro event member
    obtain ⟨one, isSent, rfl⟩ := List.mem_map.mp member
    exact .arrives isSent
  obtain ⟨replayed, last, replayRan, -, -, complete⟩ := deliversAgain _ replay
  refine ⟨replayed, last, replayRan, ?_⟩
  rw [complete fun one isSent => List.mem_map_of_mem isSent, expectedMessages_established]

theorem handleConnect_replayed_sample :
    ∃ ack first sent peerAfter,
      sampleConnection.handleConnect sampleSettings [0] sampleTicket.timeLimit (sampleConnect 0) =
        some (some (ack, some ⟨1000⟩), first) ∧
      (sendingMessages sampleServer).run
        (sampleClient (sampleConnection.streamSettings.encryptionAlgorithm.copy.setKey [9]))
        [sampleMessage] = some (sent, peerAfter) ∧
      ∀ events, (∀ event ∈ events, PeerStream.Permitted 0 sent event) →
        ∃ outputs middle again second,
          (traffic sampleEndPoint).run first events = some (outputs, middle) ∧
          middle.handleConnect sampleSettings [0] sampleTicket.timeLimit (sampleConnect 0) =
            some (some (again, some ⟨1000⟩), second) ∧
          ∃ replayed last, (traffic sampleEndPoint).run second (sent.map .receive) =
              some (replayed, last) ∧
            replayed.filterMap (deliveredOn 0) =
              expectedMessages 1300 0 middle [sampleMessage] :=
  handleConnect_replayed sampleServer sampleEndPoint sample_session sampleConnection_up (by decide)
    (by decide) (by decide) (by decide) (by decide) sampleMessage_isReliableData
    sampleMessage_fragments le_rfl

/-- **Substreams without a session key.** On a substream beyond the maximum that
was negotiated, which is any substream when that is 255, the messages of a sender
are delivered who never had the session key. -/
theorem handleConnect_beyond (ps : PRUDPServer) (pep : PRUDPEndPoint)
    (up : pc.connectionState ≠ .notConnected) (secure : settings.isSecureEndPoint = true)
    (unencrypted : settings.encryptedConnect = false) (fresh : FreshSettings pc.streamSettings)
    (genuine :
      Genuine settings.hashes settings.kerberos serverTime packet.payload ticket checkValue)
    (visits : order.Perm (substreams packet.maximumSubstreamID))
    (beyond : substreamID ∉ substreams packet.maximumSubstreamID)
    (outsider : Client substreamID pc.streamSettings.encryptionAlgorithm.copy peer)
    (positive : 0 < ps.fragmentSize) {messages : List PRUDPPacketInterface}
    (reliable : ∀ message ∈ messages, IsReliableData substreamID message)
    (short : (allFragments ps.fragmentSize messages).length < 65536) :
    ∃ ack after, pc.handleConnect settings order serverTime packet =
        some (some (ack, some ticket.sourcePID), after) ∧
      Delivers ps pep substreamID peer after messages
        (expectedMessages ps.fragmentSize substreamID pc messages) := by
  obtain ⟨ack, handled, -⟩ := handleConnect_accepted up secure unencrypted fresh.compression
    genuine.accepted order
  have ready : Ready substreamID peer
      (established settings order pc packet ticket.sessionKey) := by
    refine established_ready fresh outsider visits ?_
    rw [if_neg beyond]
    exact fresh.inStep
  have delivers := ready.delivers ps pep positive reliable short
  rw [expectedMessages_established] at delivers
  exact ⟨ack, _, handled, delivers⟩

theorem handleConnect_beyond_sample :
    ∃ ack after, sampleConnection.handleConnect sampleSettings [] sampleTicket.timeLimit
        (sampleConnect 255) = some (some (ack, some ⟨1000⟩), after) ∧
      Delivers sampleServer sampleEndPoint 0
        (sampleClient sampleConnection.streamSettings.encryptionAlgorithm.copy) after
        [sampleMessage] (expectedMessages 1300 0 sampleConnection [sampleMessage]) :=
  handleConnect_beyond sampleServer sampleEndPoint sampleConnection_up rfl rfl freshSettings_new
    (sample_genuine 255) (by decide) (by decide) (sampleClient_client _) (by decide)
    sampleMessage_isReliableData sampleMessage_fragments

/-- **Refused sessions.** A CONNECT whose ticket is refused is not answered, but
on a connection that is up it has replaced all windows by then: the session goes
on under the default key, and the messages of a sender are delivered who never
had any other. -/
theorem handleConnect_refused (ps : PRUDPServer) (pep : PRUDPEndPoint)
    (connected : pc.connectionState = .connected) (secure : settings.isSecureEndPoint = true)
    (unencrypted : settings.encryptedConnect = false) (fresh : FreshSettings pc.streamSettings)
    {text : String}
    (refused : readKerberosTicket settings.hashes settings.kerberos serverTime packet.payload =
      .error (.error text))
    (outsider : Client substreamID pc.streamSettings.encryptionAlgorithm.copy peer)
    (positive : 0 < ps.fragmentSize) {messages : List PRUDPPacketInterface}
    (reliable : ∀ message ∈ messages, IsReliableData substreamID message)
    (short : (allFragments ps.fragmentSize messages).length < 65536) :
    ∃ after, pc.handleConnect settings order serverTime packet = some (none, after) ∧
      Delivers ps pep substreamID peer after messages
        (expectedMessages ps.fragmentSize substreamID pc messages) := by
  have ticketRead : acceptTicket settings order serverTime (pc.configure packet) packet.payload =
      some (none, pc.configure packet) := by
    unfold acceptTicket
    simp only [unencrypted, Bool.false_eq_true, if_false, (configured pc packet).settings,
      fresh.compression, CompressionAlgorithm.decompress, Option.bind_eq_bind, Option.bind_some,
      refused]
  have up : pc.connectionState ≠ .notConnected := by
    rw [connected]
    decide
  have handled : pc.handleConnect settings order serverTime packet =
      some (none, pc.configure packet) := by
    unfold handleConnect
    rw [if_neg up, secure, if_pos rfl, ticketRead]
    rfl
  have delivers := (configure_ready packet fresh connected outsider).delivers ps pep positive
    reliable short
  rw [expectedMessages_configure] at delivers
  exact ⟨_, handled, delivers⟩

/-- A connection that is up. -/
def sampleRunning : PRUDPConnection :=
  { new newStreamSettings with connectionState := .connected }

theorem sample_refused : ∃ text,
    readKerberosTicket sampleSettings.hashes sampleSettings.kerberos 0
      PRUDPPacketV1.blank.payload = .error (.error text) := ⟨_, rfl⟩

theorem handleConnect_refused_sample :
    ∃ after, sampleRunning.handleConnect sampleSettings [0] 0 PRUDPPacketV1.blank =
        some (none, after) ∧
      Delivers sampleServer sampleEndPoint 0
        (sampleClient sampleRunning.streamSettings.encryptionAlgorithm.copy) after
        [sampleMessage] (expectedMessages 1300 0 sampleRunning [sampleMessage]) := by
  obtain ⟨text, refused⟩ := sample_refused
  exact @handleConnect_refused sampleSettings [0] 0 sampleRunning _ _ 0 sampleServer sampleEndPoint
    rfl rfl rfl freshSettings_new text refused (sampleClient_client _) (by decide) _
    sampleMessage_isReliableData sampleMessage_fragments

end PRUDPConnection

end CommunityServers.Nex
