import CommunityServers.Patcher.Register

/-!
Contract: a registration from the console's password to the server's store.

Owns:
- that the patcher's request stays in its buffers, is read back whole by the
  server, and carries the console's PID and the kept part of its password;
- the exact passwords for which an accepted registration stores what the
  console has;
- a password of which the server accepts and stores a wrong part.

Does not own: the encoder itself.
-/

set_option autoImplicit false

namespace CommunityServers.Patcher

open CommunityServers.Foundation
open CommunityServers.Accounts

/-- What the register handler sees of a request message. -/
def serve (message : RequestMessage) : Request where
  method := message.method
  contentType := fieldValue message.fields (ascii "Content-Type")
  query := (cut 63 message.target).2
  body := message.body

/-- The registration the patcher makes as a message. -/
def registerMessage (pid : UInt32) (encoded : Bytes) : RequestMessage where
  method := ascii "POST"
  target := ascii "/register"
  version := ascii "HTTP/1.0"
  fields :=
    [(ascii "Host", serverHost), (ascii "Content-Type", formType),
      (ascii "Content-Length", formatUint (bodyText pid encoded).length),
      (ascii "Connection", ascii "close")]
  body := bodyText pid encoded

/-- The patcher's request is built without leaving a buffer and read back, and
if it is answered with 200 by a server with a working database, the password
stored for the console's PID is the trimmed password of the console. -/
def StoresPassword (http : NetHTTP) (state : ServerState) (stack : Bytes) (pid : UInt32)
    (password : Bytes) : Prop :=
  ∃ text message, registerRequest stack pid password = some text ∧
    readRequest text = some message ∧
    message.body.length = (bodyText pid (percentEncode (keptPrefix password))).length ∧
    ((handleRegister http true state (serve message)).1.status = 200 →
      (handleRegister http true state (serve message)).2.accounts.get
          (formatUint pid.toNat) = some (trimSpace password) ∧
        ∀ table, (handleRegister http true state (serve message)).2.postgres = some table →
          table.lookup (formatUint pid.toNat) = some (trimSpace password))

/-- What is left of the password after the encoder trims to nothing, is too
long for the server, or trims to the same as the whole password. -/
def KeptFaithfully (password : Bytes) : Prop :=
  trimSpace (keptPrefix password) = [] ∨ 64 < (trimSpace (keptPrefix password)).length ∨
    trimSpace (keptPrefix password) = trimSpace password

instance (password : Bytes) : Decidable (KeptFaithfully password) :=
  inferInstanceAs (Decidable (_ ∨ _ ∨ _))

/-! ### The request -/

theorem keptPrefix_encoded_length (password : Bytes) :
    (percentEncode (keptPrefix password)).length ≤ 255 := by
  rw [← fitting_eq_keptPrefix]
  exact percentEncode_fitting_length 255 password

theorem bodyText_length {encoded : Bytes} (fits : encoded.length ≤ 255) (pid : UInt32) :
    (bodyText pid encoded).length ≤ 279 := by
  have small : pid.toNat < 2 ^ 32 := pid.toNat_lt
  have digits : (formatUint pid.toNat).length ≤ 10 := formatUint_length_le (by decide) (by omega)
  have first : (ascii "pid=").length = 4 := by decide
  have second : (ascii "&password=").length = 10 := by decide
  unfold bodyText
  rw [List.length_append, List.length_append, List.length_append]
  omega

theorem requestText_length {blen : Nat} {body : Bytes} (short : blen ≤ 279)
    (fits : body.length ≤ 279) : (requestText blen body).length ≤ 1023 := by
  have digits : (formatUint blen).length ≤ 3 := formatUint_length_le (by decide) (by omega)
  have first : (ascii "POST /register HTTP/1.0\r\nHost: ").length = 31 := by decide +kernel
  have host : serverHost.length = 21 := by decide +kernel
  have second : (ascii
      "\r\nContent-Type: application/x-www-form-urlencoded\r\nContent-Length: ").length = 67 := by
    decide +kernel
  have third : (ascii "\r\nConnection: close\r\n\r\n").length = 23 := by decide +kernel
  unfold requestText
  simp only [List.length_append]
  omega

/-- The two formatted texts fit their buffers, so what is sent is the text. -/
theorem registerRequest_eq {stack password : Bytes} (sized : stack.length = 256)
    (nulFree : 0 ∉ password) (pid : UInt32) :
    registerRequest stack pid password =
      some (requestText (bodyText pid (percentEncode (keptPrefix password))).length
        (bodyText pid (percentEncode (keptPrefix password)))) := by
  obtain ⟨encpw, count, encoded, string⟩ := urlEncode_cString sized nulFree
  have bodyShort := bodyText_length (keptPrefix_encoded_length password) pid
  have requestShort := requestText_length bodyShort bodyShort
  unfold registerRequest
  rw [encoded]
  dsimp only
  rw [string]
  dsimp only [snprintf]
  have wholeBody : (bodyText pid (percentEncode (keptPrefix password))).take (512 - 1) =
      bodyText pid (percentEncode (keptPrefix password)) :=
    List.take_of_length_le (by omega)
  rw [wholeBody, List.take_of_length_le (by omega)]
  unfold sendBytes
  dsimp only
  rw [if_pos (by omega), List.take_left']
  rfl

theorem requestText_eq_renderRequest (pid : UInt32) (encoded : Bytes) :
    requestText (bodyText pid encoded).length (bodyText pid encoded) =
      renderRequest (registerMessage pid encoded) := by
  have first : ascii "POST /register HTTP/1.0\r\nHost: " =
      ascii "POST" ++ 32 :: ascii "/register" ++ 32 :: ascii "HTTP/1.0" ++ [13, 10] ++
        ascii "Host" ++ [58, 32] := by decide +kernel
  have second : ascii "\r\nContent-Type: application/x-www-form-urlencoded\r\nContent-Length: " =
      [13, 10] ++ ascii "Content-Type" ++ [58, 32] ++ formType ++ [13, 10] ++
        ascii "Content-Length" ++ [58, 32] := by decide +kernel
  have third : ascii "\r\nConnection: close\r\n\r\n" =
      [13, 10] ++ ascii "Connection" ++ [58, 32] ++ ascii "close" ++ [13, 10] ++ [13, 10] := by
    decide +kernel
  unfold requestText renderRequest registerMessage
  rw [first, second, third]
  simp only [List.flatMap_cons, List.flatMap_nil, renderField, List.append_assoc,
    List.cons_append, List.nil_append]

theorem digits_writable (value : Nat) :
    WritableField (ascii "Content-Length", formatUint value) where
  nameColon := by
    show 58 ∉ ascii "Content-Length"
    decide
  nameLine := by
    show 10 ∉ ascii "Content-Length"
    decide
  valueLine := notMem_formatUint value (by decide)
  valueTrimmed := trimSpace_of_plain fun byte member =>
    isPlain_of_isDigit (formatUint_isDigit value byte member)

theorem registerMessage_writable {encoded : Bytes} (fits : encoded.length ≤ 255)
    (pid : UInt32) : WritableRequest (registerMessage pid encoded) where
  methodSpace := by
    show 32 ∉ ascii "POST"
    decide
  targetSpace := by
    show 32 ∉ ascii "/register"
    decide
  line := by
    show 10 ∉ ascii "POST" ++ 32 :: ascii "/register" ++ 32 :: ascii "HTTP/1.0"
    decide
  fields := by
    show ∀ field ∈ [_, _, _, _], WritableField field
    simp only [List.forall_mem_cons]
    exact ⟨⟨by decide, by decide, by decide, by decide +kernel⟩,
      ⟨by decide, by decide, by decide, by decide +kernel⟩, digits_writable _,
      ⟨by decide, by decide, by decide, by decide +kernel⟩, by simp⟩
  length := by
    have name : canonicalKey (ascii "Content-Length") = ascii "Content-Length" := by decide
    unfold registerMessage
    rw [fieldValue_cons, if_neg (by decide), fieldValue_cons, if_neg (by decide),
      fieldValue_cons, if_pos name]
  bounded := by
    have short := bodyText_length fits pid
    show (bodyText pid encoded).length < 2 ^ 63
    omega

/-! ### The server's side -/

theorem notMem_percentEncode {byte : UInt8} (text : Bytes) (other : isUnreserved byte = false)
    (notPercent : byte ≠ 37) : byte ∉ percentEncode text := by
  intro member
  rcases mem_flatMap_escapeByte member with percent | unreserved
  · exact notPercent percent
  · rw [unreserved] at other
    cases other

theorem notMem_pidField (pid : UInt32) {byte : UInt8} (inKey : byte ∉ ascii "pid")
    (notEquals : byte ≠ 61) (notDigit : isDigit byte = false) :
    byte ∉ ascii "pid" ++ 61 :: formatUint pid.toNat := by
  simp only [List.mem_append, List.mem_cons, not_or]
  exact ⟨inKey, notEquals, notMem_formatUint _ notDigit⟩

theorem notMem_passwordField (text : Bytes) {byte : UInt8} (inKey : byte ∉ ascii "password")
    (notEquals : byte ≠ 61) (notPercent : byte ≠ 37) (reserved : isUnreserved byte = false) :
    byte ∉ ascii "password" ++ 61 :: percentEncode text := by
  simp only [List.mem_append, List.mem_cons, not_or]
  exact ⟨inKey, notEquals, notMem_percentEncode text reserved notPercent⟩

theorem parsePair_pidField (pid : UInt32) :
    parsePair (ascii "pid" ++ 61 :: formatUint pid.toNat) =
      some (some (ascii "pid", formatUint pid.toNat)) := by
  apply parsePair_eq (by decide)
  · exact notMem_pidField pid (by decide) (by decide) (by decide)
  · exact queryUnescape_plain (by decide) (by decide)
  · exact queryUnescape_plain (notMem_formatUint _ (by decide))
      (notMem_formatUint _ (by decide))

theorem parsePair_passwordField (text : Bytes) :
    parsePair (ascii "password" ++ 61 :: percentEncode text) =
      some (some (ascii "password", text)) := by
  apply parsePair_eq (by decide)
  · exact notMem_passwordField text (by decide) (by decide) (by decide) (by decide)
  · exact queryUnescape_plain (by decide) (by decide)
  · have unescaped := queryUnescape_flatMap_escapeByte text []
    rw [List.append_nil] at unescaped
    unfold percentEncode
    rw [unescaped]
    simp [queryUnescape]

theorem bodyText_eq_fields (pid : UInt32) (encoded : Bytes) :
    bodyText pid encoded =
      (ascii "pid" ++ 61 :: formatUint pid.toNat) ++
        38 :: (ascii "password" ++ 61 :: encoded) := by
  have first : ascii "pid=" = ascii "pid" ++ [61] := by decide
  have second : ascii "&password=" = 38 :: ascii "password" ++ [61] := by decide
  unfold bodyText
  rw [first, second]
  simp

/-- The form carries the PID's digits and the encoded text, decoded. -/
theorem parseQuery_bodyText (pid : UInt32) (text : Bytes) :
    parseQuery (bodyText pid (percentEncode text)) =
      ⟨[(ascii "pid", formatUint pid.toNat), (ascii "password", text)], true⟩ := by
  have pidSegment : 38 ∉ ascii "pid" ++ 61 :: formatUint pid.toNat :=
    notMem_pidField pid (by decide) (by decide) (by decide)
  have passwordSegment : 38 ∉ ascii "password" ++ 61 :: percentEncode text :=
    notMem_passwordField text (by decide) (by decide) (by decide) (by decide)
  unfold parseQuery
  rw [bodyText_eq_fields, List.splitOn_append_cons_self_of_not_mem pidSegment,
    List.splitOn_eq_singleton passwordSegment]
  simp only [List.map_cons, List.map_nil, parsePair_pidField, parsePair_passwordField]
  rfl

theorem parseForm_registerMessage (http : NetHTTP) (pid : UInt32) {text : Bytes}
    (fits : (percentEncode text).length ≤ 255) :
    parseForm http (serve (registerMessage pid (percentEncode text))) =
      some [(ascii "pid", formatUint pid.toNat), (ascii "password", text)] := by
  have short := bodyText_length fits pid
  have contentType : (serve (registerMessage pid (percentEncode text))).contentType =
      formType := by
    unfold serve registerMessage
    dsimp only
    rw [fieldValue_cons, if_neg (by decide), fieldValue_cons, if_pos (by decide)]
  have body : (serve (registerMessage pid (percentEncode text))).body =
      bodyText pid (percentEncode text) := rfl
  have query : (serve (registerMessage pid (percentEncode text))).query = [] := by
    show (cut 63 (ascii "/register")).2 = []
    decide
  have noQuery : parseQuery [] = ⟨[], true⟩ := by decide
  unfold parseForm parsePostForm
  rw [contentType, body, query, http.mediaType_form, parseQuery_bodyText, noQuery]
  rw [if_neg (by decide)]
  simp only [if_true, and_true]
  rw [if_pos (by omega)]
  rfl

/-- The server accepts the kept part, trimmed, if its length is right. -/
theorem checkRegister_registerMessage (http : NetHTTP) (pid : UInt32) {text : Bytes}
    (fits : (percentEncode text).length ≤ 255) :
    checkRegister http (serve (registerMessage pid (percentEncode text))) =
      if (trimSpace text).length = 0 ∨ 64 < (trimSpace text).length then
        .error (httpError "invalid password" 400)
      else .ok (formatUint pid.toNat, trimSpace text) := by
  have small : pid.toNat < 2 ^ 32 := pid.toNat_lt
  have fields : requestFields http (serve (registerMessage pid (percentEncode text))) =
      .ok (formatUint pid.toNat, text) := by
    unfold requestFields
    rw [if_neg (show ¬ _ <:+: (serve (registerMessage pid (percentEncode text))).contentType
      from formType_notJSON), parseForm_registerMessage http pid fits]
    rfl
  exact checkRegister_formatted (Nat.lt_trans small (by decide)) rfl fields

/-! ### End to end -/

/-- The request that arrives is the registration of the kept part. -/
theorem registerRequest_read {stack password : Bytes} (sized : stack.length = 256)
    (nulFree : 0 ∉ password) (pid : UInt32) :
    ∃ text, registerRequest stack pid password = some text ∧
      readRequest text =
        some (registerMessage pid (percentEncode (keptPrefix password))) := by
  refine ⟨_, registerRequest_eq sized nulFree pid, ?_⟩
  rw [requestText_eq_renderRequest]
  exact readRequest_renderRequest
    (registerMessage_writable (keptPrefix_encoded_length password) pid)

theorem storesPassword_of_refused {http : NetHTTP} {state : ServerState}
    {stack password : Bytes} (sized : stack.length = 256) (nulFree : 0 ∉ password)
    (pid : UInt32)
    (refused : (trimSpace (keptPrefix password)).length = 0 ∨
      64 < (trimSpace (keptPrefix password)).length) :
    StoresPassword http state stack pid password := by
  obtain ⟨text, sent, read⟩ := registerRequest_read sized nulFree pid
  refine ⟨text, _, sent, read, rfl, ?_⟩
  intro accepted
  have checked := checkRegister_registerMessage http pid (keptPrefix_encoded_length password)
  rw [if_pos refused] at checked
  unfold handleRegister at accepted
  rw [checked] at accepted
  cases accepted

/-- If the kept part is accepted, it is what both stores hold afterwards. -/
theorem storesPassword_iff_of_accepted {http : NetHTTP} {state : ServerState}
    {stack password : Bytes} (sized : stack.length = 256) (nulFree : 0 ∉ password)
    (pid : UInt32)
    (accepted : ¬ ((trimSpace (keptPrefix password)).length = 0 ∨
      64 < (trimSpace (keptPrefix password)).length)) :
    StoresPassword http state stack pid password ↔
      trimSpace (keptPrefix password) = trimSpace password := by
  obtain ⟨text, sent, read⟩ := registerRequest_read sized nulFree pid
  have checked := checkRegister_registerMessage http pid (keptPrefix_encoded_length password)
  rw [if_neg accepted] at checked
  have works : state.postgres.isSome = true → true = true := fun _ => rfl
  have handled := handleRegister_accepted checked works
  constructor
  · rintro ⟨other, message, otherSent, otherRead, -, stores⟩
    rw [sent] at otherSent
    obtain rfl := Option.some.inj otherSent
    rw [read] at otherRead
    obtain rfl := Option.some.inj otherRead
    rw [handled] at stores
    have stored := (stores rfl).1
    rw [get_set, if_pos rfl] at stored
    exact Option.some.inj stored
  · intro same
    refine ⟨text, _, sent, read, rfl, ?_⟩
    rw [handled, same]
    intro _
    refine ⟨by rw [get_set, if_pos rfl], ?_⟩
    intro table configured
    obtain ⟨before, -, rfl⟩ := Option.map_eq_some_iff.mp configured
    exact AList.lookup_insert before

/-- **End to end.** For every console PID and every password without zero bytes, on
any server state, an accepted registration stores the console's password exactly
when the encoder kept it faithfully. -/
theorem storesPassword_iff_keptFaithfully (http : NetHTTP) (state : ServerState)
    (stack : Bytes) (sized : stack.length = 256) (pid : UInt32) (password : Bytes)
    (nulFree : 0 ∉ password) :
    StoresPassword http state stack pid password ↔ KeptFaithfully password := by
  unfold KeptFaithfully
  by_cases refused : (trimSpace (keptPrefix password)).length = 0 ∨
      64 < (trimSpace (keptPrefix password)).length
  · have stores : StoresPassword http state stack pid password :=
      storesPassword_of_refused sized nulFree pid refused
    rw [List.length_eq_zero_iff] at refused
    exact ⟨fun _ => refused.imp_right Or.inl, fun _ => stores⟩
  · rw [storesPassword_iff_of_accepted sized nulFree pid refused]
    rw [List.length_eq_zero_iff] at refused
    constructor
    · exact fun same => Or.inr (Or.inr same)
    · rintro (empty | long | same)
      · exact absurd (Or.inl empty) refused
      · exact absurd (Or.inr long) refused
      · exact same

/-- A password of sixteen letters. -/
def plainPassword : Bytes := ascii "abcdefghijklmnop"

theorem plainPassword_stored :
    StoresPassword plainHTTP ⟨some ∅, ∅⟩ (List.replicate 256 0) 1800000000 plainPassword := by
  have kept : KeptFaithfully plainPassword := by
    unfold KeptFaithfully
    rw [← fitting_eq_keptPrefix]
    decide +kernel
  exact (storesPassword_iff_keptFaithfully plainHTTP ⟨some ∅, ∅⟩ (List.replicate 256 0)
    List.length_replicate 1800000000 plainPassword (by decide)).mpr kept

/-- A letter, eighty-five spaces and another letter. -/
def spacedPassword : Bytes := 97 :: List.replicate 85 32 ++ [98]

/-- The encoder drops the last space and the letter after it; the server trims
the rest to one letter, accepts it and stores it. -/
theorem spacedPassword_not_stored :
    (0 ∉ spacedPassword ∧ 1 ≤ spacedPassword.length ∧ spacedPassword.length ≤ 255) ∧
      ¬ StoresPassword plainHTTP ⟨some ∅, ∅⟩ (List.replicate 256 0) 1800000000
        spacedPassword := by
  refine ⟨by decide, ?_⟩
  have kept : trimSpace (keptPrefix spacedPassword) = [97] := by
    rw [← fitting_eq_keptPrefix]
    decide +kernel
  rw [storesPassword_iff_of_accepted List.length_replicate (by decide), kept]
  · decide +kernel
  · rw [kept]
    decide

end CommunityServers.Patcher
