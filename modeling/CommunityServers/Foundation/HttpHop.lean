import CommunityServers.Foundation.Header

/-!
Contract: what an HTTP/1.1 library does to a message on its way through a server
and a client.

Owns:
- reading a message: `Transfer-Encoding` is taken out of its fields, with what a
  body in chunks makes void, and a bare `Pragma: no-cache` gets a `Cache-Control`;
- writing a request: a `User-Agent` of its own, and `Accept-Encoding: gzip` when
  nothing was asked for, after which a compressed reply is unpacked;
- writing a reply: a `Date`, a `Content-Type` found out from the body, and a
  `Connection` field of the library's own;
- the values that each of these leaves at every key.

Values are as a message reader stores them, trimmed and on one line, and a key is
there only with a value. `Content-Length`, `Transfer-Encoding` and `Trailer` say
how the body is laid out on one connection: writing a message writes them anew,
and they are not followed here.

Does not own: framing, and messages that the library refuses.
-/

set_option autoImplicit false

namespace CommunityServers.Foundation

/-! ### Fields -/

def contentLengthKey : HeaderKey := ⟨ascii "Content-Length", by decide⟩

def transferEncodingKey : HeaderKey := ⟨ascii "Transfer-Encoding", by decide⟩

def trailerKey : HeaderKey := ⟨ascii "Trailer", by decide⟩

def connectionKey : HeaderKey := ⟨ascii "Connection", by decide⟩

def pragmaKey : HeaderKey := ⟨ascii "Pragma", by decide⟩

def cacheControlKey : HeaderKey := ⟨ascii "Cache-Control", by decide⟩

def userAgentKey : HeaderKey := ⟨ascii "User-Agent", by decide⟩

def acceptEncodingKey : HeaderKey := ⟨ascii "Accept-Encoding", by decide⟩

def rangeKey : HeaderKey := ⟨ascii "Range", by decide⟩

def contentEncodingKey : HeaderKey := ⟨ascii "Content-Encoding", by decide⟩

def contentTypeKey : HeaderKey := ⟨ascii "Content-Type", by decide⟩

def dateKey : HeaderKey := ⟨ascii "Date", by decide⟩

/-- The fields that lay a message out on one connection. -/
def isFraming (key : HeaderKey) : Bool :=
  key == contentLengthKey || key == transferEncodingKey || key == trailerKey

theorem isFraming_eq_false {key : HeaderKey} :
    isFraming key = false ↔
      key ≠ contentLengthKey ∧ key ≠ transferEncodingKey ∧ key ≠ trailerKey := by
  unfold isFraming
  rw [Bool.or_eq_false_iff, Bool.or_eq_false_iff, beq_eq_false_iff_ne, beq_eq_false_iff_ne,
    beq_eq_false_iff_ne, and_assoc]

namespace Header

def has (header : Header) (key : HeaderKey) : Bool := header.values key != []

theorem has_eq_true {header : Header} {key : HeaderKey} :
    header.has key = true ↔ header.values key ≠ [] := bne_iff_ne

theorem has_eq_false {header : Header} {key : HeaderKey} :
    header.has key = false ↔ header.values key = [] := by
  rw [← Bool.not_eq_true, has_eq_true, not_not]

theorem values_insert (header : Header) (key other : HeaderKey) (list : List Bytes) :
    Header.values (header.insert key list) other =
      if other = key then list else header.values other := by
  unfold values
  split
  next same => rw [same, AList.lookup_insert, Option.getD_some]
  next different => rw [AList.lookup_insert_ne different]

theorem values_erase (header : Header) (key other : HeaderKey) :
    Header.values (header.erase key) other = if other = key then [] else header.values other := by
  unfold values
  split
  next same => rw [same, AList.lookup_erase, Option.getD_none]
  next different => rw [AList.lookup_erase_ne different]

/-- Sets the values of a key under a condition. -/
def setWhen (condition : Bool) (header : Header) (key : HeaderKey) (list : List Bytes) : Header :=
  if condition then header.insert key list else header

theorem values_setWhen (condition : Bool) (header : Header) (key other : HeaderKey)
    (list : List Bytes) :
    (header.setWhen condition key list).values other =
      if other = key ∧ condition = true then list else header.values other := by
  unfold setWhen
  cases condition with
  | false => simp
  | true => simp [values_insert]

theorem get_congr {first second : Header} {key : HeaderKey}
    (same : first.values key = second.values key) : first.get key = second.get key :=
  congrArg (List.headD · []) same

theorem has_congr {first second : Header} {key : HeaderKey}
    (same : first.values key = second.values key) : first.has key = second.has key :=
  congrArg (· != []) same

end Header

/-! ### Reading a message -/

/-- A reader takes a bare `Pragma: no-cache` for a `Cache-Control`. -/
def addsCacheControl (header : Header) : Bool :=
  header.get pragmaKey == ascii "no-cache" && !header.has cacheControlKey

/-- The fields of a message once it is read. A body in chunks has no length, and its
trailer is announced elsewhere. -/
def receivedFields (header : Header) : Header :=
  let cached := header.setWhen (addsCacheControl header) cacheControlKey [ascii "no-cache"]
  if header.has transferEncodingKey then
    ((cached.erase transferEncodingKey).erase contentLengthKey).erase trailerKey
  else cached

theorem values_receivedFields {key : HeaderKey} (header : Header) (other : isFraming key = false) :
    (receivedFields header).values key =
      if key = cacheControlKey ∧ addsCacheControl header = true then [ascii "no-cache"]
      else header.values key := by
  obtain ⟨notLength, notEncoding, notTrailer⟩ := isFraming_eq_false.mp other
  unfold receivedFields
  split
  · rw [Header.values_erase, if_neg notTrailer, Header.values_erase, if_neg notLength,
      Header.values_erase, if_neg notEncoding, Header.values_setWhen]
  · rw [Header.values_setWhen]

theorem addsCacheControl_values {header : Header} (adds : addsCacheControl header = true) :
    header.values cacheControlKey = [] := by
  unfold addsCacheControl at adds
  rw [Bool.and_eq_true, Bool.not_eq_true', Header.has_eq_false] at adds
  exact adds.2

theorem values_receivedFields_eq_iff (header : Header) :
    (receivedFields header).values cacheControlKey = header.values cacheControlKey ↔
      addsCacheControl header = false := by
  rw [values_receivedFields header (by decide)]
  rcases adds : addsCacheControl header with _ | _
  · simp
  · simp [addsCacheControl_values adds]

/-! ### Writing a request -/

/-- The client asks for a compressed reply on its own account. -/
def asksGzip (header : Header) : Bool :=
  header.get acceptEncodingKey == [] && header.get rangeKey == []

/-- The first `User-Agent`, unless it is blank, or the library's own. -/
def userAgents (header : Header) : List Bytes :=
  if header.has userAgentKey then
    if header.get userAgentKey = [] then [] else [header.get userAgentKey]
  else [ascii "Go-http-client/1.1"]

/-- The fields of a request as they are written, but for `Host` and
`Content-Length`. -/
def writeRequestFields (header : Header) : Header :=
  let named : Header := ((header.erase transferEncodingKey).erase trailerKey).insert userAgentKey
    (userAgents header)
  named.setWhen (asksGzip header) acceptEncodingKey
    (header.values acceptEncodingKey ++ [ascii "gzip"])

theorem values_writeRequestFields (header : Header) (key : HeaderKey) :
    (writeRequestFields header).values key =
      if key = acceptEncodingKey ∧ asksGzip header = true then
        header.values acceptEncodingKey ++ [ascii "gzip"]
      else if key = userAgentKey then userAgents header
      else if key = trailerKey then []
      else if key = transferEncodingKey then []
      else header.values key := by
  unfold writeRequestFields
  rw [Header.values_setWhen, Header.values_insert, Header.values_erase, Header.values_erase]

/-- Exactly one `User-Agent` with a text is written as it is. -/
theorem userAgents_eq_iff (header : Header) :
    userAgents header = header.values userAgentKey ↔
      ∃ agent, agent ≠ [] ∧ header.values userAgentKey = [agent] := by
  unfold userAgents Header.has Header.get
  cases header.values userAgentKey with
  | nil => simp
  | cons first rest =>
      by_cases blank : first = []
      · subst blank
        simp
      · have written : (if first = [] then [] else [first]) = first :: rest ↔ rest = [] := by
          rw [if_neg blank, List.cons.injEq, and_iff_right rfl, eq_comm]
        show (if first = [] then [] else [first]) = first :: rest ↔ _
        rw [written]
        constructor
        · rintro rfl
          exact ⟨first, blank, rfl⟩
        · rintro ⟨agent, -, same⟩
          exact (List.cons.inj same).2

/-! ### Reading a reply -/

/-- What the library brings along: unpacking, as far as the data can be unpacked,
the type it finds out from a body, and the date. -/
structure HttpLibrary where
  gunzip : Bytes → Bytes
  detectContentType : Bytes → Bytes
  date : Bytes

def bodyAllowed (status : Nat) : Bool :=
  !(100 ≤ status && status ≤ 199) && status != 204 && status != 304

/-- The reply to a request that asked for it is compressed. A reply whose length is
given as zero has no body. -/
def gunzips (asked : Bool) (status : Nat) (header : Header) : Bool :=
  asked && equalFold (header.get contentEncodingKey) (ascii "gzip") && bodyAllowed status &&
    parseUint 63 (header.get contentLengthKey) != some 0

/-! ### Writing a reply -/

/-- The type is found out from the body when nothing is said about it. -/
def typesReply (status : Nat) (header : Header) (body : Bytes) : Bool :=
  bodyAllowed status && !header.has contentTypeKey && header.get contentEncodingKey == [] &&
    body != []

/-- The fields of a reply as they are written, but for its framing; `connection` is
what the library says about the connection on its own account, if anything. -/
def writeReplyFields (http : HttpLibrary) (connection : Option (List Bytes)) (status : Nat)
    (header : Header) (body : Bytes) : Header :=
  let typed := (header.setWhen (status == 304) contentTypeKey []).setWhen
    (typesReply status header body) contentTypeKey [http.detectContentType body]
  let dated := typed.setWhen (!header.has dateKey) dateKey [http.date]
  dated.setWhen connection.isSome connectionKey (connection.getD [])

theorem values_writeReplyFields (http : HttpLibrary) (connection : Option (List Bytes))
    (status : Nat) (header : Header) (body : Bytes) (key : HeaderKey) :
    (writeReplyFields http connection status header body).values key =
      if key = connectionKey ∧ connection.isSome = true then connection.getD []
      else if key = dateKey ∧ (!header.has dateKey) = true then [http.date]
      else if key = contentTypeKey ∧ typesReply status header body = true then
        [http.detectContentType body]
      else if key = contentTypeKey ∧ (status == 304) = true then []
      else header.values key := by
  unfold writeReplyFields
  rw [Header.values_setWhen, Header.values_setWhen, Header.values_setWhen, Header.values_setWhen]

end CommunityServers.Foundation
