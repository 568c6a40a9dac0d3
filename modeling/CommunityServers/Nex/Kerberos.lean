import CommunityServers.Nex.DateTime
import CommunityServers.Nex.Encryption

/-!
Contract: Kerberos tickets and what a secure endpoint accepts of them.

Owns:
- sealing with RC4 and a checksum, and that opening accepts exactly what was
  sealed under the same key;
- the internal data of a ticket in both versions, and keys derived from
  passwords;
- reading the ticket of a CONNECT: the payloads that are accepted, each refused
  one with its error, and those that make the server panic.

The hashes are parameters. Does not own: how the client gets its ticket, and
what is done with the session key.
-/

set_option autoImplicit false

namespace CommunityServers.Nex

open CommunityServers.Foundation
open CommunityServers.Foundation.Reader

/-- What ends a Go function early: an error it returns, or a panic. -/
inductive Failure where
  | error (text : String)
  | panicked
deriving DecidableEq

/-- Puts a text in front of an error; a panic passes through. -/
def Failure.context (text : String) : Failure → Failure
  | error reason => error (text ++ reason)
  | panicked => panicked

/-- Runs a reader on bytes of its own. -/
def parse {Value : Type} (reader : Reader Value) (input : Bytes) :
    Except Failure (Value × Bytes) :=
  (reader input).mapError .error

structure Hashes where
  md5 : Bytes → Vector UInt8 16
  hmacMD5 : (key data : Bytes) → Vector UInt8 16

/-! ### Sealing -/

namespace KerberosEncryption

variable (hashes : Hashes)

/-- A buffer without room for a checksum is sliced out of its bounds. -/
def validate (key buffer : Bytes) : Except Failure Bool :=
  if buffer.length < 0x10 then .error .panicked
  else .ok (buffer.drop (buffer.length - 0x10) =
    (hashes.hmacMD5 key (buffer.take (buffer.length - 0x10))).toList)

def decrypt (key buffer : Bytes) : Except Failure Bytes := do
  let valid ← validate hashes key buffer
  if valid then
    let cipher ← (Rc4.newCipher key).mapError .error
    return (Rc4.xorKeyStream cipher (buffer.take (buffer.length - 0x10))).1
  else .error (.error "Invalid Kerberos checksum (incorrect password)")

/-- With a key RC4 refuses there is no cipher, which matters once there is a
byte to encrypt. -/
def encrypt (key buffer : Bytes) : Except Failure Bytes := do
  let encrypted ← match Rc4.newCipher key with
    | .ok cipher => .ok (Rc4.xorKeyStream cipher buffer).1
    | .error _ => if buffer.length = 0 then .ok [] else .error .panicked
  return encrypted ++ (hashes.hmacMD5 key encrypted).toList

end KerberosEncryption

/-! ### Tickets -/

/-- The settings of a server that tickets depend on. -/
structure KerberosSettings where
  kerberosTicketVersion : Nat
  sessionKeyLength : Nat
  byteStreamSettings : ByteStreamSettings

structure KerberosTicketInternalData where
  issued : DateTime
  sourcePID : PID
  sessionKey : Bytes
deriving DecidableEq

namespace KerberosTicketInternalData

variable (hashes : Hashes)

/-- The key of a ticket: in version 1 each has one of its own. -/
def finalKey (key ticketKey : Bytes) : Bytes := (hashes.md5 (key ++ ticketKey)).toList

def data (settings : ByteStreamSettings) (ti : KerberosTicketInternalData) : Bytes :=
  writeTo settings ti.issued ++ writeTo settings ti.sourcePID ++ ti.sessionKey

/-- The random ticket key is a parameter. -/
def encrypt (server : KerberosSettings) (ticketKey key : Bytes) (ti : KerberosTicketInternalData) :
    Except Failure Bytes :=
  let settings := server.byteStreamSettings
  if server.kerberosTicketVersion = 1 then do
    let encrypted ← KerberosEncryption.encrypt hashes (finalKey hashes key ticketKey)
      (ti.data settings)
    return writeTo settings (Buffer.mk ticketKey) ++ writeTo settings (Buffer.mk encrypted)
  else KerberosEncryption.encrypt hashes key (ti.data settings)

/-- The key and the sealed bytes that a ticket is opened with. -/
def sealedPart (server : KerberosSettings) (key stream : Bytes) :
    Except Failure (Bytes × Bytes) :=
  let settings := server.byteStreamSettings
  if server.kerberosTicketVersion = 1 then do
    let ticketKey ← parse ((extractFrom settings : Reader Buffer).context
      "Failed to read Kerberos ticket internal data key. ") stream
    let data ← parse ((extractFrom settings : Reader Buffer).context
      "Failed to read Kerberos ticket internal data. ") ticketKey.2
    return (finalKey hashes key ticketKey.1.data, data.1.data)
  else .ok (key, stream)

/-- Taking the session key does not check that it is there. -/
def parseData (server : KerberosSettings) (decrypted : Bytes) :
    Except Failure KerberosTicketInternalData := do
  let settings := server.byteStreamSettings
  let timestamp ← parse ((extractFrom settings : Reader DateTime).context
    "Failed to read Kerberos ticket internal data timestamp ") decrypted
  let userPID ← parse ((extractFrom settings : Reader PID).context
    "Failed to read Kerberos ticket internal data user PID ") timestamp.2
  if userPID.2.length < server.sessionKeyLength then .error .panicked
  else return ⟨timestamp.1, userPID.1, userPID.2.take server.sessionKeyLength⟩

def decrypt (server : KerberosSettings) (stream key : Bytes) :
    Except Failure KerberosTicketInternalData := do
  let part ← sealedPart hashes server key stream
  let decrypted ← (KerberosEncryption.decrypt hashes part.1 part.2).mapError
    (.context "Failed to decrypt Kerberos ticket internal data. ")
  parseData server decrypted

end KerberosTicketInternalData

/-- The hash is taken 65000 times and up to 1023 more. -/
def deriveKerberosKey (hashes : Hashes) (pid : PID) (password : Bytes) : Bytes :=
  (fun key => (hashes.md5 key).toList)^[65000 + pid.value.toNat % 1024] password

/-! ### Reading the ticket of a CONNECT -/

structure Account where
  pid : PID
  username : Bytes
  password : Bytes
deriving DecidableEq

structure KerberosEndPoint where
  server : KerberosSettings
  serverAccount : Account
  accountDetailsByUsername : Bytes → Option Account

/-- The account whose password the tickets are sealed under. -/
def KerberosEndPoint.findServerAccount (pep : KerberosEndPoint) : Except Failure Account :=
  match pep.accountDetailsByUsername pep.serverAccount.username with
  | none => .error (.error "Failed to find endpoint server account")
  | some serverAccount =>
      if serverAccount.password ≠ pep.serverAccount.password then
        .error (.error ("Password for endpoint server account does not match the records " ++
          "from AccountDetailsByUsername"))
      else .ok serverAccount

/-- Two minutes after it was issued, in nanoseconds. -/
def KerberosTicketInternalData.timeLimit (ti : KerberosTicketInternalData) : Int :=
  (ti.issued.standard + 120) * 1000000000

/-- The part of a CONNECT that the client sealed under the session key. -/
def readCheckData (hashes : Hashes) (settings : ByteStreamSettings)
    (ticket : KerberosTicketInternalData) (requestData : Bytes) :
    Except Failure (Bytes × PID × UInt32) := do
  let decryptedRequestData ← KerberosEncryption.decrypt hashes ticket.sessionKey requestData
  let userPID ← parse (extractFrom settings : Reader PID) decryptedRequestData
  if userPID.1 ≠ ticket.sourcePID then
    .error (.error "User PID and ticket source PID mismatch")
  else
    let stationCID ← parse readUInt32LE userPID.2
    let responseCheck ← parse readUInt32LE stationCID.2
    return (ticket.sessionKey, userPID.1, responseCheck.1)

/-- The session key, the user and the check value; `serverTime` is in
nanoseconds. -/
def readKerberosTicket (hashes : Hashes) (pep : KerberosEndPoint) (serverTime : Int)
    (payload : Bytes) : Except Failure (Bytes × PID × UInt32) := do
  let settings := pep.server.byteStreamSettings
  let ticketData ← parse (extractFrom settings : Reader Buffer) payload
  let requestData ← parse (extractFrom settings : Reader Buffer) ticketData.2
  let serverAccount ← pep.findServerAccount
  let serverKey := deriveKerberosKey hashes serverAccount.pid serverAccount.password
  let ticket ← KerberosTicketInternalData.decrypt hashes pep.server ticketData.1.data serverKey
  if ticket.timeLimit < serverTime then .error (.error "Kerberos ticket expired")
  else readCheckData hashes settings ticket requestData.1.data

/-! ### Results -/

section Results

variable {Value Other Error : Type}

theorem except_bind_eq_ok {first : Except Error Value} {second : Value → Except Error Other}
    {result : Other} :
    (first >>= second) = .ok result ↔ ∃ value, first = .ok value ∧ second value = .ok result := by
  cases first with
  | error reason => exact ⟨nofun, fun ⟨_, impossible, _⟩ => nomatch impossible⟩
  | ok value =>
      refine ⟨fun same => ⟨value, rfl, same⟩, ?_⟩
      rintro ⟨other, same, result⟩
      obtain rfl := Except.ok.inj same
      exact result

theorem mapError_eq_ok {outcome : Except Error Value} {change : Error → Other} {value : Value} :
    outcome.mapError change = .ok value ↔ outcome = .ok value := by
  cases outcome <;> simp [Except.mapError]

theorem parse_eq_ok {reader : Reader Value} {input left : Bytes} {value : Value} :
    parse reader input = .ok (value, left) ↔ reader input = .ok (value, left) :=
  mapError_eq_ok

end Results

/-! ### Opening what was sealed -/

/-- The sizes of keys that RC4 takes. -/
def IsKeySize (key : Bytes) : Prop := ¬ (key.length < 1 ∨ 256 < key.length)

instance : DecidablePred IsKeySize := fun _ => inferInstanceAs (Decidable (¬ _))

theorem newCipher_eq_ok {key : Bytes} {cipher : Rc4.Cipher} :
    Rc4.newCipher key = .ok cipher ↔ IsKeySize key ∧ Rc4.schedule key = cipher := by
  unfold Rc4.newCipher IsKeySize
  split
  next bad => exact ⟨nofun, fun ⟨good, _⟩ => absurd bad good⟩
  next good => exact ⟨fun same => ⟨good, Except.ok.inj same⟩, fun ⟨_, same⟩ => congrArg _ same⟩

theorem xorKeyStream_schedule (key data : Bytes) :
    (Rc4.xorKeyStream (Rc4.schedule key) (Rc4.xorKeyStream (Rc4.schedule key) data).1).1 = data :=
  congrArg Prod.fst (Rc4.keystream.apply_apply (Rc4.schedule key) data)

namespace KerberosEncryption

variable {hashes : Hashes} {key buffer plain : Bytes}

theorem encrypt_of_isKeySize (size : IsKeySize key) (plain : Bytes) :
    encrypt hashes key plain =
      .ok ((Rc4.xorKeyStream (Rc4.schedule key) plain).1 ++
        (hashes.hmacMD5 key (Rc4.xorKeyStream (Rc4.schedule key) plain).1).toList) := by
  unfold encrypt
  rw [newCipher_eq_ok.mpr ⟨size, rfl⟩]
  rfl

theorem length_encrypt (size : IsKeySize key) (sealed : encrypt hashes key plain = .ok buffer) :
    buffer.length = plain.length + 16 := by
  rw [encrypt_of_isKeySize size] at sealed
  obtain rfl := Except.ok.inj sealed
  rw [List.length_append, Vector.length_toList]
  exact congrArg (· + 16) (Rc4.keystream.apply_length (Rc4.schedule key) plain)

theorem validate_append (key body : Bytes) (checksum : Vector UInt8 16) :
    validate hashes key (body ++ checksum.toList) =
      .ok (checksum.toList = (hashes.hmacMD5 key body).toList) := by
  have length : (body ++ checksum.toList).length - 0x10 = body.length := by
    rw [List.length_append, Vector.length_toList]
    omega
  have enough : ¬ (body ++ checksum.toList).length < 0x10 := by
    rw [List.length_append, Vector.length_toList]
    omega
  rw [validate, if_neg enough, length, List.drop_left, List.take_left]

theorem validate_eq_ok_true :
    validate hashes key buffer = .ok true ↔
      ∃ body, buffer = body ++ (hashes.hmacMD5 key body).toList := by
  constructor
  · intro valid
    unfold validate at valid
    split at valid
    next => cases valid
    next enough =>
      refine ⟨buffer.take (buffer.length - 0x10), ?_⟩
      rw [← of_decide_eq_true (Except.ok.inj valid), List.take_append_drop]
  · rintro ⟨body, rfl⟩
    rw [validate_append, decide_eq_true rfl]

theorem take_sealed (body : Bytes) (checksum : Vector UInt8 16) :
    (body ++ checksum.toList).take ((body ++ checksum.toList).length - 0x10) = body := by
  rw [List.length_append, Vector.length_toList, Nat.add_sub_cancel, List.take_left]

/-- Exactly what was sealed under a key is opened with it. -/
theorem decrypt_eq_ok :
    decrypt hashes key buffer = .ok plain ↔
      IsKeySize key ∧ encrypt hashes key plain = .ok buffer := by
  constructor
  · intro opened
    obtain ⟨valid, validated, opened⟩ := except_bind_eq_ok.mp opened
    cases valid with
    | false => cases opened
    | true =>
        obtain ⟨body, rfl⟩ := validate_eq_ok_true.mp validated
        obtain ⟨cipher, created, opened⟩ := except_bind_eq_ok.mp opened
        obtain ⟨size, rfl⟩ := newCipher_eq_ok.mp (mapError_eq_ok.mp created)
        have same := Except.ok.inj opened
        rw [take_sealed] at same
        refine ⟨size, ?_⟩
        rw [encrypt_of_isKeySize size, ← same, xorKeyStream_schedule]
  · rintro ⟨size, sealed⟩
    rw [encrypt_of_isKeySize size] at sealed
    obtain rfl := Except.ok.inj sealed
    have cipher : (Rc4.newCipher key).mapError Failure.error = .ok (Rc4.schedule key) :=
      mapError_eq_ok.mpr (newCipher_eq_ok.mpr ⟨size, rfl⟩)
    refine except_bind_eq_ok.mpr ⟨true, validate_eq_ok_true.mpr ⟨_, rfl⟩, ?_⟩
    refine except_bind_eq_ok.mpr ⟨_, cipher, ?_⟩
    rw [take_sealed, xorKeyStream_schedule]
    rfl

end KerberosEncryption

/-! ### Reading is exact -/

section Exact

variable {settings : ByteStreamSettings} {input left : Bytes}

theorem extractFrom_buffer_eq_ok {buffer : Buffer} :
    extractFrom settings input = .ok (buffer, left) ↔
      Fits settings buffer ∧ input = writeTo settings buffer ++ left := by
  constructor
  · intro extracted
    obtain ⟨length, between, readLength, afterLength⟩ := bind_eq_ok.mp extracted
    obtain ⟨data, rest, readData, afterData⟩ := bind_eq_ok.mp afterLength
    obtain ⟨rfl, width⟩ := next_eq_ok.mp (context_eq_ok.mp readData)
    obtain ⟨rfl, rfl⟩ := Prod.mk.inj (Except.ok.inj afterData)
    have same : UInt32.ofNat data.length = length := by
      rw [width, UInt32.ofNat_toNat]
    refine ⟨?_, ?_⟩
    · show data.length < 2 ^ 32
      rw [width]
      exact length.toNat_lt
    · rw [readUInt32LE_eq_ok.mp (context_eq_ok.mp readLength), ← same, ← List.append_assoc]
      rfl
  · rintro ⟨fits, rfl⟩
    exact LawfulRVType.reads fits left

theorem extractFrom_dateTime_eq_ok {dt : DateTime} :
    extractFrom settings input = .ok (dt, left) ↔ input = writeTo settings dt ++ left := by
  constructor
  · intro extracted
    obtain ⟨value, between, readValue, extracted⟩ := bind_eq_ok.mp extracted
    obtain ⟨rfl, rfl⟩ := Prod.mk.inj (Except.ok.inj extracted)
    exact readUInt64LE_eq_ok.mp (context_eq_ok.mp readValue)
  · rintro rfl
    exact LawfulRVType.reads (show Fits settings dt from trivial) left

theorem extractFrom_pid_eq_ok {pid : PID} :
    extractFrom settings input = .ok (pid, left) ↔
      Fits settings pid ∧ input = writeTo settings pid ++ left := by
  constructor
  · intro extracted
    simp only [extractFrom] at extracted
    split at extracted
    next wide =>
      obtain ⟨value, between, readValue, extracted⟩ := bind_eq_ok.mp extracted
      obtain ⟨rfl, rfl⟩ := Prod.mk.inj (Except.ok.inj extracted)
      refine ⟨Or.inl wide, ?_⟩
      simp only [writeTo, if_pos wide]
      exact readUInt64LE_eq_ok.mp readValue
    next narrow =>
      obtain ⟨value, between, readValue, extracted⟩ := bind_eq_ok.mp extracted
      obtain ⟨rfl, rfl⟩ := Prod.mk.inj (Except.ok.inj extracted)
      refine ⟨Or.inr ?_, ?_⟩
      · rw [UInt32.toNat_toUInt64]
        exact value.toNat_lt
      · simp only [writeTo, if_neg narrow, UInt32.toUInt32_toUInt64]
        exact readUInt32LE_eq_ok.mp readValue
  · rintro ⟨fits, rfl⟩
    exact LawfulRVType.reads fits left

end Exact

/-! ### Opening a ticket -/

namespace KerberosTicketInternalData

variable {hashes : Hashes} {server : KerberosSettings} {key stream : Bytes}
  {ti : KerberosTicketInternalData}

theorem finalKey_isKeySize (key ticketKey : Bytes) : IsKeySize (finalKey hashes key ticketKey) := by
  unfold IsKeySize finalKey
  rw [Vector.length_toList]
  decide

theorem sealedPart_shared (version : server.kerberosTicketVersion ≠ 1) :
    sealedPart hashes server key stream = .ok (key, stream) :=
  if_neg version

theorem encrypt_shared (version : server.kerberosTicketVersion ≠ 1) (ticketKey key : Bytes)
    (ti : KerberosTicketInternalData) :
    ti.encrypt hashes server ticketKey key =
      KerberosEncryption.encrypt hashes key (ti.data server.byteStreamSettings) :=
  if_neg version

/-- The ticket has a session key of the right size and a source that can be
written. -/
structure Fitting (server : KerberosSettings) (ti : KerberosTicketInternalData) : Prop where
  sessionKey : ti.sessionKey.length = server.sessionKeyLength
  sourcePID : Fits server.byteStreamSettings ti.sourcePID

/-- The forms of a ticket sealed under a key. More may follow its data and its
parts. -/
inductive SealedUnder (hashes : Hashes) (server : KerberosSettings) (key : Bytes)
    (ti : KerberosTicketInternalData) : Bytes → Prop where
  | shared {stream : Bytes} (trailing : Bytes) (version : server.kerberosTicketVersion ≠ 1)
      (size : IsKeySize key)
      (sealed : KerberosEncryption.encrypt hashes key
        (ti.data server.byteStreamSettings ++ trailing) = .ok stream) :
      SealedUnder hashes server key ti stream
  | own {sealed : Buffer} (ticketKey : Buffer) (trailing rest : Bytes)
      (version : server.kerberosTicketVersion = 1)
      (keyFits : Fits server.byteStreamSettings ticketKey)
      (dataFits : Fits server.byteStreamSettings sealed)
      (isSealed : KerberosEncryption.encrypt hashes (finalKey hashes key ticketKey.data)
        (ti.data server.byteStreamSettings ++ trailing) = .ok sealed.data) :
      SealedUnder hashes server key ti (writeTo server.byteStreamSettings ticketKey ++
        (writeTo server.byteStreamSettings sealed ++ rest))

theorem parseData_eq_ok {decrypted : Bytes} :
    parseData server decrypted = .ok ti ↔
      ti.Fitting server ∧
        ∃ trailing, decrypted = ti.data server.byteStreamSettings ++ trailing := by
  constructor
  · intro parsed
    obtain ⟨⟨timestamp, between⟩, readTime, parsed⟩ := except_bind_eq_ok.mp parsed
    obtain ⟨⟨userPID, rest⟩, readPID, parsed⟩ := except_bind_eq_ok.mp parsed
    have time := extractFrom_dateTime_eq_ok.mp (context_eq_ok.mp (parse_eq_ok.mp readTime))
    obtain ⟨fits, pid⟩ := extractFrom_pid_eq_ok.mp (context_eq_ok.mp (parse_eq_ok.mp readPID))
    split at parsed
    next => cases parsed
    next enough =>
      obtain rfl := Except.ok.inj parsed
      refine ⟨⟨List.length_take_of_le (Nat.le_of_not_lt enough), fits⟩,
        rest.drop server.sessionKeyLength, ?_⟩
      have joined : between = _ ++ rest := pid
      rw [time, joined, data]
      simp only [List.append_assoc, List.take_append_drop]
  · rintro ⟨fitting, trailing, rfl⟩
    have joined : ti.data server.byteStreamSettings ++ trailing =
        writeTo server.byteStreamSettings ti.issued ++
          (writeTo server.byteStreamSettings ti.sourcePID ++ (ti.sessionKey ++ trailing)) := by
      rw [data]
      simp only [List.append_assoc]
    refine except_bind_eq_ok.mpr ⟨_, parse_eq_ok.mpr (context_eq_ok.mpr
      (extractFrom_dateTime_eq_ok.mpr joined)), ?_⟩
    refine except_bind_eq_ok.mpr ⟨(ti.sourcePID, ti.sessionKey ++ trailing), parse_eq_ok.mpr
      (context_eq_ok.mpr (extractFrom_pid_eq_ok.mpr ⟨fitting.sourcePID, rfl⟩)), ?_⟩
    have enough : ¬ (ti.sessionKey ++ trailing).length < server.sessionKeyLength := by
      rw [List.length_append, fitting.sessionKey]
      omega
    rw [if_neg enough, List.take_left' fitting.sessionKey]
    rfl

theorem decrypt_eq_ok :
    decrypt hashes server stream key = .ok ti ↔
      ti.Fitting server ∧ SealedUnder hashes server key ti stream := by
  constructor
  · intro opened
    obtain ⟨⟨openKey, sealed⟩, parted, opened⟩ := except_bind_eq_ok.mp opened
    obtain ⟨decrypted, unsealed, parsed⟩ := except_bind_eq_ok.mp opened
    obtain ⟨size, isSealed⟩ := KerberosEncryption.decrypt_eq_ok.mp (mapError_eq_ok.mp unsealed)
    obtain ⟨fitting, trailing, rfl⟩ := parseData_eq_ok.mp parsed
    refine ⟨fitting, ?_⟩
    unfold sealedPart at parted
    split at parted
    next version =>
      obtain ⟨⟨ticketKey, between⟩, readKey, afterKey⟩ := except_bind_eq_ok.mp parted
      obtain ⟨⟨data, rest⟩, readData, afterData⟩ := except_bind_eq_ok.mp afterKey
      obtain ⟨keyFits, rfl⟩ :=
        extractFrom_buffer_eq_ok.mp (context_eq_ok.mp (parse_eq_ok.mp readKey))
      obtain ⟨dataFits, rfl⟩ :=
        extractFrom_buffer_eq_ok.mp (context_eq_ok.mp (parse_eq_ok.mp readData))
      obtain ⟨rfl, rfl⟩ := Prod.mk.inj (Except.ok.inj afterData)
      exact .own ticketKey trailing rest version keyFits dataFits isSealed
    next version =>
      obtain ⟨rfl, rfl⟩ := Prod.mk.inj (Except.ok.inj parted)
      exact .shared trailing version size isSealed
  · rintro ⟨fitting, isSealed⟩
    cases isSealed with
    | shared trailing version size sealed =>
        refine except_bind_eq_ok.mpr ⟨_, sealedPart_shared version, ?_⟩
        exact except_bind_eq_ok.mpr ⟨_, mapError_eq_ok.mpr
          (KerberosEncryption.decrypt_eq_ok.mpr ⟨size, sealed⟩),
          parseData_eq_ok.mpr ⟨fitting, trailing, rfl⟩⟩
    | @own sealed ticketKey trailing rest version keyFits dataFits isSealed =>
        have size : IsKeySize (finalKey hashes key ticketKey.data) := finalKey_isKeySize _ _
        refine except_bind_eq_ok.mpr ⟨(finalKey hashes key ticketKey.data, sealed.data), ?_,
          except_bind_eq_ok.mpr ⟨_, mapError_eq_ok.mpr
            (KerberosEncryption.decrypt_eq_ok.mpr ⟨size, isSealed⟩),
            parseData_eq_ok.mpr ⟨fitting, trailing, rfl⟩⟩⟩
        unfold sealedPart
        rw [if_pos version]
        refine except_bind_eq_ok.mpr ⟨_, parse_eq_ok.mpr (context_eq_ok.mpr
          (extractFrom_buffer_eq_ok.mpr ⟨keyFits, rfl⟩)), ?_⟩
        exact except_bind_eq_ok.mpr ⟨_, parse_eq_ok.mpr (context_eq_ok.mpr
          (extractFrom_buffer_eq_ok.mpr ⟨dataFits, rfl⟩)), rfl⟩

/-- A ticket as it is issued is sealed. -/
theorem sealedUnder_encrypt {ticketKey : Bytes} (keySize : IsKeySize key)
    (keyFits : ticketKey.length < 2 ^ 32)
    (issued : ti.encrypt hashes server ticketKey key = .ok stream)
    (short : stream.length < 2 ^ 32) :
    SealedUnder hashes server key ti stream := by
  unfold encrypt at issued
  split at issued
  next version =>
    obtain ⟨encrypted, sealed, same⟩ := except_bind_eq_ok.mp issued
    obtain rfl := Except.ok.inj same
    have dataFits : encrypted.length < 2 ^ 32 := by
      simp only [writeTo, List.length_append] at short
      omega
    have form := @SealedUnder.own hashes server key ti ⟨encrypted⟩ ⟨ticketKey⟩ [] [] version
      keyFits dataFits (by rw [List.append_nil]; exact sealed)
    rw [List.append_nil] at form
    exact form
  next version =>
    refine .shared [] version keySize ?_
    rw [List.append_nil]
    exact issued

end KerberosTicketInternalData

/-! ### What a secure endpoint accepts -/

variable {hashes : Hashes} {pep : KerberosEndPoint} {serverTime : Int} {payload : Bytes}

/-- What the client proves its session key with. -/
def requestBytes (settings : ByteStreamSettings) (pid : PID) (stationCID responseCheck : UInt32) :
    Bytes :=
  writeTo settings pid ++ (uint32Bytes stationCID ++ uint32Bytes responseCheck)

/-- The key of the server's own account, which tickets for it are sealed under. -/
def serverKey (hashes : Hashes) (account : Account) : Bytes :=
  deriveKerberosKey hashes account.pid account.password

/-- A derived key is a hash, so RC4 takes it. -/
theorem serverKey_isKeySize (hashes : Hashes) (account : Account) :
    IsKeySize (serverKey hashes account) := by
  unfold serverKey deriveKerberosKey
  rw [Nat.add_comm, Function.iterate_succ_apply']
  unfold IsKeySize
  rw [Vector.length_toList]
  decide

/-- A payload with a ticket sealed under the server's key that is not too old,
and a request of the same user sealed under the ticket's session key. -/
inductive Genuine (hashes : Hashes) (pep : KerberosEndPoint) (serverTime : Int) :
    Bytes → KerberosTicketInternalData → UInt32 → Prop where
  | intro {account : Account} {ticketData requestData : Buffer}
      {ticket : KerberosTicketInternalData} {responseCheck : UInt32} (stationCID : UInt32)
      (trailing rest : Bytes)
      (found : pep.findServerAccount = .ok account)
      (ticketFits : Fits pep.server.byteStreamSettings ticketData)
      (requestFits : Fits pep.server.byteStreamSettings requestData)
      (fitting : ticket.Fitting pep.server)
      (sealed : ticket.SealedUnder hashes pep.server (serverKey hashes account) ticketData.data)
      (recent : serverTime ≤ ticket.timeLimit)
      (size : IsKeySize ticket.sessionKey)
      (requested : KerberosEncryption.encrypt hashes ticket.sessionKey
        (requestBytes pep.server.byteStreamSettings ticket.sourcePID stationCID responseCheck ++
          trailing) = .ok requestData.data) :
      Genuine hashes pep serverTime
        (writeTo pep.server.byteStreamSettings ticketData ++
          (writeTo pep.server.byteStreamSettings requestData ++ rest)) ticket responseCheck

theorem requestBytes_append (settings : ByteStreamSettings) (pid : PID)
    (stationCID responseCheck : UInt32) (trailing : Bytes) :
    requestBytes settings pid stationCID responseCheck ++ trailing =
      writeTo settings pid ++
        (uint32Bytes stationCID ++ (uint32Bytes responseCheck ++ trailing)) := by
  simp only [requestBytes, List.append_assoc]

theorem readCheckData_eq_ok {settings : ByteStreamSettings} {ticket : KerberosTicketInternalData}
    {requestData sessionKey : Bytes} {pid : PID} {responseCheck : UInt32} :
    readCheckData hashes settings ticket requestData = .ok (sessionKey, pid, responseCheck) ↔
      ticket.sessionKey = sessionKey ∧ ticket.sourcePID = pid ∧ Fits settings pid ∧
        IsKeySize sessionKey ∧
        ∃ stationCID trailing, KerberosEncryption.encrypt hashes sessionKey
          (requestBytes settings pid stationCID responseCheck ++ trailing) = .ok requestData := by
  constructor
  · intro accepted
    obtain ⟨decrypted, unsealed, accepted⟩ := except_bind_eq_ok.mp accepted
    obtain ⟨⟨userPID, afterPID⟩, readPID, accepted⟩ := except_bind_eq_ok.mp accepted
    split at accepted
    next => cases accepted
    next samePID =>
      obtain ⟨⟨stationCID, afterCID⟩, readCID, accepted⟩ := except_bind_eq_ok.mp accepted
      obtain ⟨⟨check, trailing⟩, readCheck, accepted⟩ := except_bind_eq_ok.mp accepted
      obtain ⟨sameKey, sameRest⟩ := Prod.mk.inj (Except.ok.inj accepted)
      obtain ⟨sameUser, sameCheck⟩ := Prod.mk.inj sameRest
      subst sameKey sameUser sameCheck
      obtain ⟨size, requested⟩ := KerberosEncryption.decrypt_eq_ok.mp unsealed
      obtain ⟨pidFits, isPID⟩ := extractFrom_pid_eq_ok.mp (parse_eq_ok.mp readPID)
      have isCID : afterPID = _ ++ afterCID := readUInt32LE_eq_ok.mp (parse_eq_ok.mp readCID)
      have isCheck : afterCID = _ ++ trailing := readUInt32LE_eq_ok.mp (parse_eq_ok.mp readCheck)
      refine ⟨rfl, (not_not.mp samePID).symm, pidFits, size, stationCID, trailing, ?_⟩
      rw [requestBytes_append, ← isCheck, ← isCID, ← isPID]
      exact requested
  · rintro ⟨rfl, rfl, pidFits, size, stationCID, trailing, requested⟩
    rw [requestBytes_append] at requested
    refine except_bind_eq_ok.mpr ⟨_, KerberosEncryption.decrypt_eq_ok.mpr ⟨size, requested⟩, ?_⟩
    refine except_bind_eq_ok.mpr ⟨_, parse_eq_ok.mpr
      (extractFrom_pid_eq_ok.mpr ⟨pidFits, rfl⟩), ?_⟩
    rw [if_neg (not_not.mpr rfl)]
    refine except_bind_eq_ok.mpr ⟨_, parse_eq_ok.mpr (readUInt32LE_eq_ok.mpr rfl), ?_⟩
    exact except_bind_eq_ok.mpr ⟨_, parse_eq_ok.mpr (readUInt32LE_eq_ok.mpr rfl), rfl⟩

theorem Genuine.accepted {ticket : KerberosTicketInternalData} {responseCheck : UInt32}
    (genuine : Genuine hashes pep serverTime payload ticket responseCheck) :
    readKerberosTicket hashes pep serverTime payload =
      .ok (ticket.sessionKey, ticket.sourcePID, responseCheck) := by
  obtain ⟨stationCID, trailing, rest, found, ticketFits, requestFits, fitting, sealed, recent, size,
    requested⟩ := genuine
  refine except_bind_eq_ok.mpr ⟨_, parse_eq_ok.mpr
    (extractFrom_buffer_eq_ok.mpr ⟨ticketFits, rfl⟩), ?_⟩
  refine except_bind_eq_ok.mpr ⟨_, parse_eq_ok.mpr
    (extractFrom_buffer_eq_ok.mpr ⟨requestFits, rfl⟩), ?_⟩
  refine except_bind_eq_ok.mpr ⟨_, found, ?_⟩
  refine except_bind_eq_ok.mpr ⟨_, KerberosTicketInternalData.decrypt_eq_ok.mpr
    ⟨fitting, sealed⟩, ?_⟩
  rw [if_neg (Int.not_lt.mpr recent)]
  exact readCheckData_eq_ok.mpr
    ⟨rfl, rfl, fitting.sourcePID, size, stationCID, trailing, requested⟩

/-- Nothing but the age of a ticket depends on the time. -/
theorem Genuine.at_time {ticket : KerberosTicketInternalData} {responseCheck : UInt32}
    (genuine : Genuine hashes pep serverTime payload ticket responseCheck) {later : Int}
    (recent : later ≤ ticket.timeLimit) :
    Genuine hashes pep later payload ticket responseCheck := by
  obtain ⟨stationCID, trailing, rest, found, ticketFits, requestFits, fitting, sealed, -, size,
    requested⟩ := genuine
  exact .intro stationCID trailing rest found ticketFits requestFits fitting sealed recent size
    requested

/-- **Tickets.** A CONNECT payload is accepted with a session key, a user and a
check value exactly when it holds a ticket for that user and key sealed under the
server's key, at most two minutes old, and the user's request for the check value
sealed under that session key. -/
theorem readKerberosTicket_eq_ok_iff {sessionKey : Bytes} {pid : PID} {responseCheck : UInt32} :
    readKerberosTicket hashes pep serverTime payload = .ok (sessionKey, pid, responseCheck) ↔
      ∃ issued, Genuine hashes pep serverTime payload ⟨issued, pid, sessionKey⟩ responseCheck := by
  constructor
  · intro accepted
    obtain ⟨⟨ticketData, afterTicket⟩, readTicket, afterFirst⟩ := except_bind_eq_ok.mp accepted
    obtain ⟨⟨requestData, rest⟩, readRequest, afterSecond⟩ := except_bind_eq_ok.mp afterFirst
    obtain ⟨account, found, afterAccount⟩ := except_bind_eq_ok.mp afterSecond
    obtain ⟨⟨issued, source, key⟩, opened, decided⟩ := except_bind_eq_ok.mp afterAccount
    obtain ⟨fitting, sealed⟩ := KerberosTicketInternalData.decrypt_eq_ok.mp opened
    split at decided
    next => cases decided
    next recent =>
      obtain ⟨rfl, rfl, pidFits, size, stationCID, trailing, requested⟩ :=
        readCheckData_eq_ok.mp decided
      obtain ⟨ticketFits, rfl⟩ := extractFrom_buffer_eq_ok.mp (parse_eq_ok.mp readTicket)
      obtain ⟨requestFits, rfl⟩ := extractFrom_buffer_eq_ok.mp (parse_eq_ok.mp readRequest)
      exact ⟨issued, .intro stationCID trailing rest found ticketFits requestFits fitting sealed
        (Int.not_lt.mp recent) size requested⟩
  · rintro ⟨issued, genuine⟩
    exact genuine.accepted

/-- The payload of a CONNECT. -/
def connectPayload (settings : ByteStreamSettings) (ticketData requestData : Bytes) : Bytes :=
  writeTo settings (Buffer.mk ticketData) ++ writeTo settings (Buffer.mk requestData)

/-- Reading goes as far as the ticket. -/
theorem readKerberosTicket_connectPayload {account : Account} {ticketData requestData : Bytes}
    (found : pep.findServerAccount = .ok account) (ticketFits : ticketData.length < 2 ^ 32)
    (requestFits : requestData.length < 2 ^ 32) :
    readKerberosTicket hashes pep serverTime
        (connectPayload pep.server.byteStreamSettings ticketData requestData) =
      (KerberosTicketInternalData.decrypt hashes pep.server ticketData
        (serverKey hashes account)).bind fun ticket =>
          if ticket.timeLimit < serverTime then .error (.error "Kerberos ticket expired")
          else readCheckData hashes pep.server.byteStreamSettings ticket requestData := by
  have readTicket : parse (extractFrom pep.server.byteStreamSettings : Reader Buffer)
      (connectPayload pep.server.byteStreamSettings ticketData requestData) =
        .ok (⟨ticketData⟩, writeTo pep.server.byteStreamSettings (Buffer.mk requestData)) :=
    parse_eq_ok.mpr (extractFrom_buffer_eq_ok.mpr ⟨ticketFits, rfl⟩)
  have readRequest : parse (extractFrom pep.server.byteStreamSettings : Reader Buffer)
      (writeTo pep.server.byteStreamSettings (Buffer.mk requestData)) =
        .ok (⟨requestData⟩, []) :=
    parse_eq_ok.mpr (extractFrom_buffer_eq_ok.mpr ⟨requestFits, (List.append_nil _).symm⟩)
  unfold readKerberosTicket
  show (parse _ (connectPayload pep.server.byteStreamSettings ticketData requestData)).bind _ = _
  rw [readTicket]
  show (parse _ (writeTo pep.server.byteStreamSettings (Buffer.mk requestData))).bind _ = _
  rw [readRequest]
  show pep.findServerAccount.bind _ = _
  rw [found]
  rfl

/-- **Two minutes.** A ticket that was issued at some second, sent with a request
sealed under its session key, gives access until two minutes after that second,
and is refused as expired from then on. -/
theorem readKerberosTicket_issued {account : Account} {timestamp : Timestamp} {pid : PID}
    {sessionKey ticketKey ticketData requestData : Bytes} {stationCID responseCheck : UInt32}
    (found : pep.findServerAccount = .ok account) (sessionKeySize : IsKeySize sessionKey)
    (fitting : KerberosTicketInternalData.Fitting pep.server
      ⟨.fromTimestamp timestamp, pid, sessionKey⟩)
    (ticketKeyFits : ticketKey.length < 2 ^ 32) (ticketFits : ticketData.length < 2 ^ 32)
    (requestFits : requestData.length < 2 ^ 32)
    (issued : KerberosTicketInternalData.encrypt hashes pep.server ticketKey
      (serverKey hashes account) ⟨.fromTimestamp timestamp, pid, sessionKey⟩ = .ok ticketData)
    (requested : KerberosEncryption.encrypt hashes sessionKey
      (requestBytes pep.server.byteStreamSettings pid stationCID responseCheck) =
        .ok requestData) :
    readKerberosTicket hashes pep serverTime
        (connectPayload pep.server.byteStreamSettings ticketData requestData) =
      if serverTime ≤ (timestamp.moment + 120) * 1000000000 then
        .ok (sessionKey, pid, responseCheck)
      else .error (.error "Kerberos ticket expired") := by
  have opened := KerberosTicketInternalData.decrypt_eq_ok.mpr ⟨fitting,
    KerberosTicketInternalData.sealedUnder_encrypt (serverKey_isKeySize hashes account)
      ticketKeyFits issued ticketFits⟩
  have checked : readCheckData hashes pep.server.byteStreamSettings
      ⟨.fromTimestamp timestamp, pid, sessionKey⟩ requestData =
        .ok (sessionKey, pid, responseCheck) := by
    refine readCheckData_eq_ok.mpr ⟨rfl, rfl, fitting.sourcePID, sessionKeySize, stationCID, [], ?_⟩
    rw [List.append_nil]
    exact requested
  have limit : KerberosTicketInternalData.timeLimit
      ⟨.fromTimestamp timestamp, pid, sessionKey⟩ = (timestamp.moment + 120) * 1000000000 :=
    congrArg (fun moment : Int => (moment + 120) * 1000000000)
      (DateTime.standard_fromTimestamp timestamp)
  rw [readKerberosTicket_connectPayload found ticketFits requestFits, opened]
  show (if _ < serverTime then _ else readCheckData _ _ _ _) = _
  rw [limit, checked]
  by_cases recent : serverTime ≤ (timestamp.moment + 120) * 1000000000
  · rw [if_pos recent, if_neg (Int.not_lt.mpr recent)]
  · rw [if_neg recent, if_pos (Int.not_le.mp recent)]

/-- A ticket with a session key of one byte, issued on a day in 2026 and read a
minute and three minutes later. -/
theorem readKerberosTicket_issued_sample :
    let hashes : Hashes := ⟨fun _ => Vector.replicate 16 0, fun _ _ => Vector.replicate 16 0⟩
    let account : Account := ⟨⟨2⟩, ascii "secure", ascii "password"⟩
    let pep : KerberosEndPoint := ⟨⟨0, 1, newByteStreamSettings⟩, account, fun _ => some account⟩
    let moment := date 2026 7 4 12 30 0
    ∃ ticketData requestData,
      let payload := connectPayload newByteStreamSettings ticketData requestData
      readKerberosTicket hashes pep ((moment + 60) * 1000000000) payload =
          .ok ([9], ⟨1000⟩, 41) ∧
        readKerberosTicket hashes pep ((moment + 180) * 1000000000) payload =
          .error (.error "Kerberos ticket expired") := by
  intro hashes account pep moment
  let timestamp : Timestamp := ⟨2026, 7, 4, 12, 30, 0, by decide, by decide, by decide, by decide,
    by decide, by decide⟩
  have keySize := serverKey_isKeySize hashes account
  have sessionKeySize : IsKeySize [9] := by decide
  have issued : KerberosEncryption.encrypt hashes (serverKey hashes account)
      (KerberosTicketInternalData.data pep.server.byteStreamSettings
        ⟨.fromTimestamp timestamp, ⟨1000⟩, [9]⟩) = _ :=
    KerberosEncryption.encrypt_of_isKeySize keySize _
  have requested : KerberosEncryption.encrypt hashes [9]
      (requestBytes pep.server.byteStreamSettings ⟨1000⟩ 3 41) = _ :=
    KerberosEncryption.encrypt_of_isKeySize sessionKeySize _
  have ticketLength := KerberosEncryption.length_encrypt keySize issued
  have requestLength := KerberosEncryption.length_encrypt sessionKeySize requested
  have shared : pep.server.kerberosTicketVersion ≠ 1 := by decide
  have granted := (KerberosTicketInternalData.encrypt_shared shared [] (serverKey hashes account)
    ⟨.fromTimestamp timestamp, ⟨1000⟩, [9]⟩).trans issued
  have read (serverTime : Int) := @readKerberosTicket_issued hashes pep serverTime account timestamp
    ⟨1000⟩ [9] [] _ _ 3 41 rfl sessionKeySize ⟨rfl, Or.inr (by decide)⟩ (by decide)
    (ticketLength ▸ by decide) (requestLength ▸ by decide) granted requested
  exact ⟨_, _, (read ((moment + 60) * 1000000000)).trans (if_pos (by decide)),
    (read ((moment + 180) * 1000000000)).trans (if_neg (by decide))⟩

/-- Whatever the server's key and whatever else is sent, a
ticket whose sealed part has no room for a checksum makes the server panic. -/
theorem readKerberosTicket_short {account : Account} {ticketData requestData openKey part : Bytes}
    (found : pep.findServerAccount = .ok account) (ticketFits : ticketData.length < 2 ^ 32)
    (requestFits : requestData.length < 2 ^ 32)
    (parted : KerberosTicketInternalData.sealedPart hashes pep.server (serverKey hashes account)
      ticketData = .ok (openKey, part)) (short : part.length < 16) :
    readKerberosTicket hashes pep serverTime
        (connectPayload pep.server.byteStreamSettings ticketData requestData) =
      .error .panicked := by
  have opened : KerberosTicketInternalData.decrypt hashes pep.server ticketData
      (serverKey hashes account) = .error .panicked := by
    unfold KerberosTicketInternalData.decrypt
    rw [parted]
    show ((KerberosEncryption.decrypt hashes openKey part).mapError _).bind _ = _
    unfold KerberosEncryption.decrypt KerberosEncryption.validate
    rw [if_pos short]
    rfl
  rw [readKerberosTicket_connectPayload found ticketFits requestFits, opened]
  rfl

end CommunityServers.Nex
