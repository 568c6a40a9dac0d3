import CommunityServers.Foundation.Base64
import CommunityServers.Foundation.FormEncoding
import CommunityServers.Foundation.HttpHop

/-!
Contract: the NASC endpoint `/ac` from the request to the answer.

Owns:
- Nintendo's base64 variant, the hosted games and which of them are enabled;
- the replies the server composes itself and the two ways it writes them;
- `handleAC` and `proxyUpstream`, with the HTTP client's redirect loop over
  single exchanges with the upstream, and what its transport does to one of them.

Does not own: what the server's HTTP library does to a console's request and to
the reply, logging, and the table of issued tokens, which nothing reads.
-/

set_option autoImplicit false

namespace CommunityServers.Nasc

open CommunityServers.Foundation

/-! ### Environment and games -/

/-- `os.Getenv`: an unset variable is empty. -/
abbrev Environ := Bytes → Bytes

def env (environ : Environ) (key fallback : Bytes) : Bytes :=
  if environ key ≠ [] then environ key else fallback

structure GameServer where
  gameID : Bytes
  authPort : Nat
  control : Bool
deriving DecidableEq

def ffe : GameServer := ⟨ascii "0010E200", 61001, false⟩

def fantasyLife : GameServer := ⟨ascii "0006D200", 61021, false⟩

def marioKart7 : GameServer := ⟨ascii "00030600", 61011, true⟩

def games : List GameServer := [ffe, fantasyLife, marioKart7]

def enabled (environ : Environ) (game : GameServer) : Bool :=
  !game.control || env environ (ascii "FFE_CONTROL_MK7") [] == ascii "1"

def gameByID (environ : Environ) (gameID : Bytes) : Option GameServer :=
  games.find? fun game => game.gameID == gameID && enabled environ game

/-! ### Nintendo base64 -/

/-- `+` to `.`, `/` to `-`, `=` to `*`. -/
def ninEncoder (byte : UInt8) : UInt8 :=
  if byte = 43 then 46 else if byte = 47 then 45 else if byte = 61 then 42 else byte

def ninDecoder (byte : UInt8) : UInt8 :=
  if byte = 46 then 43 else if byte = 45 then 47 else if byte = 42 then 61 else byte

def ninB64Encode (bytes : Bytes) : Bytes := (encodeBase64 bytes).map ninEncoder

/-- The decoded bytes, or the empty string where the text does not decode. -/
def ninB64DecodeString (text : Bytes) : Bytes :=
  (decodeBase64 (text.map ninDecoder)).getD []

/-! ### Composed replies -/

/-- A wall clock reading before the year 10000. -/
structure Clock where
  year : Nat
  month : Nat
  day : Nat
  hour : Nat
  minute : Nat
  second : Nat
  year_lt : year < 10000
  month_le : 1 ≤ month ∧ month ≤ 12
  day_le : 1 ≤ day ∧ day ≤ 31
  hour_lt : hour < 24
  minute_lt : minute < 60
  second_lt : second < 60

def sampleClock : Clock where
  year := 2026
  month := 1
  day := 2
  hour := 3
  minute := 4
  second := 5
  year_lt := by decide
  month_le := by decide
  day_le := by decide
  hour_lt := by decide
  minute_lt := by decide
  second_lt := by decide

/-- A library that takes every body for text and unpacks nothing. -/
def sampleLibrary : HttpLibrary := ⟨id, fun _ => ascii "text/plain", ascii "now"⟩

def padded (width value : Nat) : Bytes :=
  List.replicate (width - (formatUint value).length) 48 ++ formatUint value

def nascDateTime (clock : Clock) : Bytes :=
  padded 4 clock.year ++ padded 2 clock.month ++ padded 2 clock.day ++
    padded 2 clock.hour ++ padded 2 clock.minute ++ padded 2 clock.second

def nascError (clock : Clock) (code : Bytes) : Values :=
  [(ascii "retry", ninB64Encode (ascii "1")),
    (ascii "returncd", if code = ascii "null" then code else ninB64Encode code),
    (ascii "datetime", ninB64Encode (nascDateTime clock))]

/-- The 112 bytes of a token. -/
abbrev Token := { raw : Bytes // raw.length = 112 }

def locatorOf (environ : Environ) (game : GameServer) : Bytes :=
  env environ (ascii "FFE_PUBLIC_HOST") (ascii "10.0.0.95") ++
    58 :: formatUint game.authPort

def gameLogin (environ : Environ) (clock : Clock) (random : Option Token)
    (game : GameServer) : Values :=
  match random with
  | none => nascError clock (ascii "110")
  | some token =>
      [(ascii "locator", ninB64Encode (locatorOf environ game)),
        (ascii "retry", ninB64Encode (ascii "0")),
        (ascii "returncd", ninB64Encode (ascii "001")),
        (ascii "token", ninB64Encode token),
        (ascii "datetime", ninB64Encode (nascDateTime clock))]

/-- Body of a reply written sorted and escaped. -/
def writeValues (values : Values) : Bytes := encodeValues values

/-- Body of a reply written in the given order with its values as they are. -/
def writeRawOrdered (order : List Bytes) (values : Values) : Bytes :=
  [38].intercalate (order.map fun key => key ++ 61 :: values.get key)

def loginOrder : List Bytes :=
  [ascii "locator", ascii "retry", ascii "returncd", ascii "token", ascii "datetime"]

/-! ### One exchange and the client's redirects -/

structure Response where
  status : Nat
  header : Header
  body : Bytes

/-- A request, as the client hands it to its transport or as that writes it. -/
structure Outgoing where
  method : Bytes
  url : Bytes
  header : Header
  body : Bytes

/-- An interim reply, which the transport passes over. -/
def isInterim (status : Nat) : Bool := 100 ≤ status && status ≤ 199 && status != 101

/-- A reply that completes an exchange. -/
structure FinalReply extends Response where
  final : isInterim status = false

/-- The upstream: what comes of the request as it is written, after so many earlier
ones. A reply that cannot be read is none. -/
abbrev Upstream := Nat → Outgoing → Option FinalReply

/-- One exchange as the client sees it. -/
abbrev Exchange := Nat → Outgoing → Option Response

/-- The request as the transport writes it. -/
def Outgoing.written (request : Outgoing) : Outgoing :=
  { request with header := writeRequestFields request.header }

/-- The reply as the transport hands it on. -/
def readReply (http : HttpLibrary) (asked : Bool) (reply : Response) : Response :=
  let header := receivedFields reply.header
  if gunzips asked reply.status header then
    ⟨reply.status, (header.erase contentEncodingKey).erase contentLengthKey,
      http.gunzip reply.body⟩
  else { reply with header := header }

/-- One exchange of the client's transport. -/
def roundTrip (http : HttpLibrary) (upstream : Upstream) : Exchange := fun earlier request =>
  (upstream earlier request.written).map fun reply =>
    readReply http (asksGzip request.header) reply.toResponse

/-- How the HTTP library builds the next request of a redirect from the ones
before it, or fails to. -/
abbrev Hop := List Outgoing → Response → Option Outgoing

def locationKey : HeaderKey := ⟨ascii "Location", by decide⟩

/-- The replies that a client with the default policy does not return. -/
def redirects (reply : Response) : Bool :=
  [301, 302, 303, 307, 308].contains reply.status && reply.header.get locationKey != []

/-- The requests made and the reply returned, with so many redirects left. -/
def follow (hop : Hop) (exchange : Exchange) :
    Nat → List Outgoing → Outgoing → List Outgoing × Option Response
  | left, earlier, request =>
      match exchange earlier.length request with
      | none => ([request], none)
      | some reply =>
          if redirects reply then
            match hop (earlier ++ [request]) reply with
            | none => ([request], none)
            | some next =>
                match left with
                | 0 => ([request], none)
                | left + 1 =>
                    let rest := follow hop exchange left (earlier ++ [request]) next
                    (request :: rest.1, rest.2)
          else ([request], some reply)

/-- `Client.Do`: at most ten requests. -/
def clientDo (hop : Hop) (exchange : Exchange) (request : Outgoing) :
    List Outgoing × Option Response :=
  follow hop exchange 9 [] request

/-! ### The handler -/

/-- A request to `/ac`; `bodyFails` says that reading ends in an error after
the given bytes. -/
structure ACRequest where
  header : Header
  body : Bytes
  bodyFails : Bool

/-- What the server finds outside the request. -/
structure World where
  environ : Environ
  clock : Clock
  random : Option Token
  http : HttpLibrary
  hop : Hop
  upstream : Upstream

inductive Answer where
  | composed (body : Bytes)
  | relayed (response : Response)

def bodyLimit : Nat := 2 ^ 20

/-- `io.ReadAll` through a `LimitReader`, which ends without an error at the
limit. -/
def readBody (request : ACRequest) : Option Bytes :=
  if request.bodyFails ∧ request.body.length < bodyLimit then none
  else some (request.body.take bodyLimit)

/-- The fields of a request that the handler decodes. -/
structure ACFields where
  action : Bytes
  gameID : Bytes
  titleID : Bytes
  gameCode : Bytes
  userID : Bytes

def acFields (params : Values) : ACFields where
  action := ninB64DecodeString (params.get (ascii "action"))
  gameID := ninB64DecodeString (params.get (ascii "gameid"))
  titleID := ninB64DecodeString (params.get (ascii "titleid"))
  gameCode := ninB64DecodeString (params.get (ascii "gamecd"))
  userID := ninB64DecodeString (params.get (ascii "userid"))

def upstreamNASC : Bytes := ascii "https://nasc.pretendo.cc/ac"

/-- The fields of a request that are not relayed. -/
def notRelayed (key : HeaderKey) : Bool :=
  equalFold key (ascii "Host") || equalFold key (ascii "Content-Length")

def proxyRequest (header : Header) (body : Bytes) : Outgoing :=
  ⟨ascii "POST", upstreamNASC, header.copy notRelayed ∅, body⟩

/-- What is copied from a reply. -/
def proxyReply (reply : Response) : Response :=
  ⟨reply.status, reply.header.copy (fun _ => false) ∅, reply.body.take bodyLimit⟩

def proxyUpstream (world : World) (header : Header) (body : Bytes) :
    List Outgoing × Answer :=
  match clientDo world.hop (roundTrip world.http world.upstream) (proxyRequest header body) with
  | (sent, none) => (sent, .composed (writeValues (nascError world.clock (ascii "null"))))
  | (sent, some reply) => (sent, .relayed (proxyReply reply))

/-- The answer to a request for a hosted game. -/
def gameAnswer (world : World) (game : GameServer) (action : Bytes) : Bytes :=
  if action = ascii "LOGIN" then
    writeRawOrdered loginOrder (gameLogin world.environ world.clock world.random game)
  else if action = ascii "SVCLOC" then
    writeValues (nascError world.clock (ascii "110"))
  else
    writeValues (nascError world.clock (ascii "null"))

/-- The requests made upstream and the answer to the console. -/
def handleAC (world : World) (request : ACRequest) : List Outgoing × Answer :=
  match readBody request with
  | none => ([], .composed (writeValues (nascError world.clock (ascii "null"))))
  | some body =>
      if (parseQuery body).ok then
        let fields := acFields (parseQuery body).values
        match gameByID world.environ fields.gameID with
        | none => proxyUpstream world request.header body
        | some game => ([], .composed (gameAnswer world game fields.action))
      else ([], .composed (writeValues (nascError world.clock (ascii "null"))))

theorem readBody_eq_some {request : ACRequest} {body : Bytes}
    (read : readBody request = some body) :
    body = request.body.take bodyLimit ∧
      (request.bodyFails = true → bodyLimit ≤ request.body.length) := by
  unfold readBody at read
  split at read
  next => cases read
  next readable =>
    refine ⟨(Option.some.inj read).symm, ?_⟩
    intro fails
    have notShort : ¬ request.body.length < bodyLimit := fun short => readable ⟨fails, short⟩
    omega

/-! ### Round trip of the encoding -/

/-- Letters, digits, `.`, `-` and `*`. -/
def isNinByte (byte : UInt8) : Bool :=
  (65 ≤ byte && byte ≤ 90) || (97 ≤ byte && byte ≤ 122) || (48 ≤ byte && byte ≤ 57) ||
    byte == 46 || byte == 45 || byte == 42

theorem isNinByte_ninEncoder {byte : UInt8} (inAlphabet : isBase64Byte byte = true) :
    isNinByte (ninEncoder byte) = true := by
  grind [isBase64Byte, decodeDigit, isNinByte, ninEncoder]

theorem ninDecoder_ninEncoder {byte : UInt8} (inAlphabet : isBase64Byte byte = true) :
    ninDecoder (ninEncoder byte) = byte := by
  grind [isBase64Byte, decodeDigit, ninDecoder, ninEncoder]

theorem ninB64Encode_isNinByte (bytes : Bytes) :
    ∀ byte ∈ ninB64Encode bytes, isNinByte byte = true := by
  intro byte member
  obtain ⟨source, inEncoding, rfl⟩ := List.mem_map.mp member
  exact isNinByte_ninEncoder (encodeBase64_isBase64Byte bytes source inEncoding)

theorem notMem_ninB64Encode (bytes : Bytes) {byte : UInt8} (other : isNinByte byte = false) :
    byte ∉ ninB64Encode bytes := by
  intro member
  rw [ninB64Encode_isNinByte bytes byte member] at other
  cases other

/-- **Round trip.** The server's decoder undoes its encoder. -/
theorem ninB64DecodeString_ninB64Encode (bytes : Bytes) :
    ninB64DecodeString (ninB64Encode bytes) = bytes := by
  have restored : ((encodeBase64 bytes).map ninEncoder).map ninDecoder = encodeBase64 bytes := by
    rw [List.map_map]
    conv_rhs => rw [← List.map_id (encodeBase64 bytes)]
    apply List.map_congr_left
    intro byte member
    exact ninDecoder_ninEncoder (encodeBase64_isBase64Byte bytes byte member)
  unfold ninB64DecodeString ninB64Encode
  rw [restored, decodeBase64_encodeBase64]
  rfl

end CommunityServers.Nasc
