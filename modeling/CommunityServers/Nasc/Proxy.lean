import CommunityServers.Nasc.Handler

/-!
Contract: pass-through of requests for games that are not hosted.

Owns:
- a console's request as the server's HTTP library reads it, and the answer as
  that library writes it;
- what a transparent answer is: one POST with the console's body and fields,
  and upstream's status, fields and whole body back;
- the exact condition under which a pass-through is transparent;
- a request that is answered without asking the upstream.

Fields are compared as they stand on the two connections, but for those that lay a
message out on one of them.

Does not own: replies the server composes itself.
-/

set_option autoImplicit false

namespace CommunityServers.Nasc

open CommunityServers.Foundation

/-! ### The console's side -/

def hostKey : HeaderKey := ⟨ascii "Host", by decide⟩

/-- A request as the console sends it over HTTP/1.1; `connection` is what the
library says in `Connection` when it answers, if it says something of its own. -/
structure ConsoleRequest where
  head : Bool
  connection : Option (List Bytes)
  header : Header
  body : Bytes
  bodyFails : Bool

/-- The request as the handler sees it. -/
def ConsoleRequest.read (console : ConsoleRequest) : ACRequest :=
  ⟨(receivedFields console.header).erase hostKey, console.body, console.bodyFails⟩

/-- The answer as the console gets it. A status that is no number of three digits
aborts the handler. -/
def received (http : HttpLibrary) (console : ConsoleRequest) (response : Response) :
    Option Response :=
  if response.status < 100 ∨ 999 < response.status then none
  else some ⟨response.status,
    writeReplyFields http console.connection response.status response.header response.body,
    if console.head || !bodyAllowed response.status then [] else response.body⟩

/-! ### Transparency -/

/-- The request names no enabled hosted game. -/
def Unhosted (world : World) (console : ConsoleRequest) : Prop :=
  gameByID world.environ (acFields (parseQuery console.body).values).gameID = none

/-- A request has the console's body and all its fields but `Host` and
`Content-Length`. -/
structure Relays (console : ConsoleRequest) (sent : Outgoing) : Prop where
  method : sent.method = ascii "POST"
  url : sent.url = upstreamNASC
  body : sent.body = console.body
  header : ∀ key, notRelayed key = false → sent.header.values key = console.header.values key

/-- The console gets upstream's reply, complete and unchanged. -/
structure GivesBack (reply response : Response) : Prop where
  status : response.status = reply.status
  header : ∀ key, isFraming key = false → response.header.values key = reply.header.values key
  body : response.body = reply.body

/-- Exactly one request is written, it relays the console's, and the reply of a
completed exchange is given back. -/
def Transparent (world : World) (console : ConsoleRequest) : Prop :=
  ∃ sent, (handleAC world console.read).1.map Outgoing.written = [sent] ∧ Relays console sent ∧
    ∀ reply, world.upstream 0 sent = some reply →
      ∃ response got, (handleAC world console.read).2 = .relayed response ∧
        received world.http console response = some got ∧ GivesBack reply.toResponse got

/-- The fields of a request that both libraries leave alone. -/
structure FieldsKept (header : Header) : Prop where
  plain : header.values transferEncodingKey = []
  untrailed : header.values trailerKey = []
  cached : addsCacheControl header = false
  named : ∃ agent, agent ≠ [] ∧ header.values userAgentKey = [agent]
  encoded : asksGzip header = false

/-- The fields of a reply that both libraries leave alone. -/
structure ReplyFieldsKept (console : ConsoleRequest) (reply : Response) : Prop where
  cached : addsCacheControl reply.header = false
  dated : reply.header.has dateKey = true
  typed : typesReply reply.status reply.header reply.body = false
  untyped : reply.status = 304 → reply.header.values contentTypeKey = []
  connection : ∀ list, console.connection = some list → reply.header.values connectionKey = list

/-- The replies that both libraries leave alone and the limit does not cut. -/
structure ReplyKept (console : ConsoleRequest) (reply : Response) : Prop where
  status : 100 ≤ reply.status ∧ reply.status ≤ 999
  fields : ReplyFieldsKept console reply
  allowed : (console.head || !bodyAllowed reply.status) = true → reply.body = []
  short : reply.body.length ≤ bodyLimit

/-- The console's body is read to its end within the limit and is a well-formed
form, its fields are left alone, and upstream's reply to it, if the exchange
completes, is no redirect the client follows and is left alone as well. -/
structure WithinLimits (world : World) (console : ConsoleRequest) : Prop where
  short : console.body.length ≤ bodyLimit
  readable : console.bodyFails = true → console.body.length = bodyLimit
  wellFormed : (parseQuery console.body).ok = true
  fields : FieldsKept console.header
  reply : ∀ reply, world.upstream 0 (proxyRequest console.read.header console.body).written =
    some reply → redirects reply.toResponse = false ∧ ReplyKept console reply.toResponse

/-! ### What the two libraries leave alone -/

theorem values_proxyRequest {key : HeaderKey} (console : ConsoleRequest) (body : Bytes)
    (relayed : notRelayed key = false) :
    (proxyRequest console.read.header body).header.values key =
      (receivedFields console.header).values key := by
  have notHost : key ≠ hostKey := by
    rintro rfl
    exact absurd relayed (by decide)
  show ((console.read.header).copy notRelayed ∅).values key = _
  rw [Header.values_copy, relayed]
  show Header.values ((receivedFields console.header).erase hostKey) key = _
  rw [Header.values_erase, if_neg notHost]

/-- Away from `Cache-Control` and the framing the console's values reach the
transport. -/
theorem values_proxyRequest_same (console : ConsoleRequest) (body : Bytes) (key : HeaderKey)
    (relayed : notRelayed key = false) (other : isFraming key = false)
    (uncached : key ≠ cacheControlKey) :
    (proxyRequest console.read.header body).header.values key = console.header.values key := by
  rw [values_proxyRequest console body relayed, values_receivedFields _ other,
    if_neg (fun both => uncached both.1)]

theorem asksGzip_proxyRequest (console : ConsoleRequest) (body : Bytes) :
    asksGzip (proxyRequest console.read.header body).header = asksGzip console.header := by
  unfold asksGzip
  rw [Header.get_congr (values_proxyRequest_same console body acceptEncodingKey
      (by decide) (by decide) (by decide)),
    Header.get_congr (values_proxyRequest_same console body rangeKey
      (by decide) (by decide) (by decide))]

theorem userAgents_proxyRequest (console : ConsoleRequest) (body : Bytes) :
    userAgents (proxyRequest console.read.header body).header = userAgents console.header := by
  have same := values_proxyRequest_same console body userAgentKey
    (by decide) (by decide) (by decide)
  unfold userAgents
  rw [Header.has_congr same, Header.get_congr same]

theorem values_written (console : ConsoleRequest) (body : Bytes) {key : HeaderKey}
    (relayed : notRelayed key = false) :
    (proxyRequest console.read.header body).written.header.values key =
      if key = acceptEncodingKey ∧ asksGzip console.header = true then
        console.header.values acceptEncodingKey ++ [ascii "gzip"]
      else if key = userAgentKey then userAgents console.header
      else if key = trailerKey then []
      else if key = transferEncodingKey then []
      else (receivedFields console.header).values key := by
  show (writeRequestFields (proxyRequest console.read.header body).header).values key = _
  rw [values_writeRequestFields, asksGzip_proxyRequest, userAgents_proxyRequest,
    values_proxyRequest console body relayed,
    values_proxyRequest_same console body acceptEncodingKey (by decide) (by decide) (by decide)]

/-- **The request.** The transport writes the console's fields exactly when there is
nothing for the libraries to take out or to add. -/
theorem written_values_iff (console : ConsoleRequest) (body : Bytes) :
    (∀ key, notRelayed key = false →
      (proxyRequest console.read.header body).written.header.values key =
        console.header.values key) ↔ FieldsKept console.header := by
  constructor
  · intro same
    have at_key : ∀ key, notRelayed key = false → _ := fun key relayed =>
      (values_written console body relayed).symm.trans (same key relayed)
    have encoded : asksGzip console.header = false := by
      rw [← Bool.not_eq_true]
      intro asks
      have longer := at_key acceptEncodingKey (by decide)
      rw [if_pos ⟨rfl, asks⟩] at longer
      simpa using congrArg List.length longer
    refine ⟨?_, ?_, ?_, ?_, encoded⟩
    · exact (at_key transferEncodingKey (by decide)).symm
    · exact (at_key trailerKey (by decide)).symm
    · exact (values_receivedFields_eq_iff console.header).mp (at_key cacheControlKey (by decide))
    · exact (userAgents_eq_iff console.header).mp (at_key userAgentKey (by decide))
  · intro kept key relayed
    rw [values_written console body relayed, kept.encoded, if_neg (by simp)]
    split
    next agent => rw [agent, (userAgents_eq_iff console.header).mpr kept.named]
    next =>
      split
      next trailer => rw [trailer, kept.untrailed]
      next notTrailer =>
        split
        next encoding => rw [encoding, kept.plain]
        next notEncoding =>
          have notLength : key ≠ contentLengthKey := by
            rintro rfl
            exact absurd relayed (by decide)
          have other := isFraming_eq_false.mpr ⟨notLength, notEncoding, notTrailer⟩
          rw [values_receivedFields _ other, kept.cached, if_neg (by simp)]

/-- What the console gets of a reply that was not asked for in compressed form. -/
theorem values_proxyReply (http : HttpLibrary) (reply : Response) (key : HeaderKey) :
    (proxyReply (readReply http false reply)).header.values key =
      (receivedFields reply.header).values key :=
  Header.values_copy (fun _ => false) (receivedFields reply.header) key

/-- Away from `Cache-Control` and the framing upstream's values reach the server's
library. -/
theorem values_proxyReply_same (http : HttpLibrary) (reply : Response) (key : HeaderKey)
    (other : isFraming key = false) (uncached : key ≠ cacheControlKey) :
    (proxyReply (readReply http false reply)).header.values key = reply.header.values key := by
  rw [values_proxyReply, values_receivedFields _ other, if_neg (fun both => uncached both.1)]

theorem typesReply_proxyReply (http : HttpLibrary) (reply : Response) :
    typesReply reply.status (proxyReply (readReply http false reply)).header reply.body =
      typesReply reply.status reply.header reply.body := by
  unfold typesReply
  rw [Header.has_congr (values_proxyReply_same http reply contentTypeKey (by decide) (by decide)),
    Header.get_congr
      (values_proxyReply_same http reply contentEncodingKey (by decide) (by decide))]

theorem values_received (http : HttpLibrary) (console : ConsoleRequest) (reply : Response)
    (key : HeaderKey) :
    (writeReplyFields http console.connection reply.status
        (proxyReply (readReply http false reply)).header reply.body).values key =
      if key = connectionKey ∧ console.connection.isSome = true then console.connection.getD []
      else if key = dateKey ∧ (!reply.header.has dateKey) = true then [http.date]
      else if key = contentTypeKey ∧ typesReply reply.status reply.header reply.body = true then
        [http.detectContentType reply.body]
      else if key = contentTypeKey ∧ (reply.status == 304) = true then []
      else (receivedFields reply.header).values key := by
  rw [values_writeReplyFields, typesReply_proxyReply, values_proxyReply,
    Header.has_congr (values_proxyReply_same http reply dateKey (by decide) (by decide))]

theorem received_values_iff (http : HttpLibrary) (console : ConsoleRequest) (reply : Response) :
    (∀ key, isFraming key = false →
      (writeReplyFields http console.connection reply.status
        (proxyReply (readReply http false reply)).header reply.body).values key =
          reply.header.values key) ↔ ReplyFieldsKept console reply := by
  constructor
  · intro same
    have at_key : ∀ key, isFraming key = false → _ := fun key other =>
      (values_received http console reply key).symm.trans (same key other)
    have typed : typesReply reply.status reply.header reply.body = false := by
      rw [← Bool.not_eq_true]
      intro types
      have absent : reply.header.values contentTypeKey = [] := by
        unfold typesReply at types
        simp only [Bool.and_eq_true, Bool.not_eq_true', Header.has_eq_false] at types
        exact types.1.1.2
      have added := at_key contentTypeKey (by decide)
      rw [if_neg (fun both => absurd both.1 (by decide)),
        if_neg (fun both => absurd both.1 (by decide)), if_pos ⟨rfl, types⟩, absent] at added
      cases added
    refine ⟨?_, ?_, typed, ?_, ?_⟩
    · exact (values_receivedFields_eq_iff reply.header).mp (at_key cacheControlKey (by decide))
    · by_contra undated
      rw [Bool.not_eq_true] at undated
      have added := at_key dateKey (by decide)
      rw [if_neg (fun both => absurd both.1 (by decide)), if_pos ⟨rfl, by rw [undated]; rfl⟩,
        Header.has_eq_false.mp undated] at added
      cases added
    · intro unmodified
      have removed := at_key contentTypeKey (by decide)
      rw [if_neg (fun both => absurd both.1 (by decide)),
        if_neg (fun both => absurd both.1 (by decide)), typed, if_neg (by simp),
        if_pos ⟨rfl, beq_iff_eq.mpr unmodified⟩] at removed
      exact removed.symm
    · intro list ownField
      have written := at_key connectionKey (by decide)
      rw [ownField, if_pos ⟨rfl, rfl⟩] at written
      exact written.symm
  · intro kept key other
    rw [values_received, kept.dated, kept.typed]
    split
    next own =>
      obtain ⟨rfl, present⟩ := own
      obtain ⟨list, ownField⟩ := Option.isSome_iff_exists.mp present
      rw [ownField, kept.connection list ownField]
      rfl
    next =>
      rw [if_neg (by simp), if_neg (by simp)]
      split
      next unmodified =>
        obtain ⟨rfl, status⟩ := unmodified
        rw [kept.untyped (beq_iff_eq.mp status)]
      next => rw [values_receivedFields _ other, kept.cached, if_neg (by simp)]

/-- **The reply.** The console gets upstream's reply back exactly when there is
nothing for the libraries to take out or to add, and nothing for the limit to cut. -/
theorem received_givesBack_iff (http : HttpLibrary) (console : ConsoleRequest)
    (reply : Response) :
    (∃ got, received http console (proxyReply (readReply http false reply)) = some got ∧
      GivesBack reply got) ↔ ReplyKept console reply := by
  constructor
  · rintro ⟨got, gets, gives⟩
    unfold received at gets
    split at gets
    next => cases gets
    next inside =>
      obtain rfl := (Option.some.inj gets).symm
      have status : ¬ (reply.status < 100 ∨ 999 < reply.status) := inside
      have body : (if console.head || !bodyAllowed reply.status then []
          else reply.body.take bodyLimit) = reply.body := gives.body
      have short : reply.body.length ≤ bodyLimit := by
        rw [← body]
        split
        · exact Nat.zero_le _
        · exact List.length_take_le bodyLimit reply.body
      have whole : (proxyReply (readReply http false reply)).body = reply.body :=
        List.take_of_length_le short
      have same := gives.header
      rw [whole] at same
      refine ⟨by omega, (received_values_iff http console reply).mp same, ?_, short⟩
      intro dropped
      rw [if_pos dropped] at body
      exact body.symm
  · intro kept
    have whole : (proxyReply (readReply http false reply)).body = reply.body :=
      List.take_of_length_le kept.short
    have inside : ¬ ((proxyReply (readReply http false reply)).status < 100 ∨
        999 < (proxyReply (readReply http false reply)).status) := by
      have status := kept.status
      show ¬ (reply.status < 100 ∨ 999 < reply.status)
      omega
    unfold received
    rw [if_neg inside, whole]
    refine ⟨_, rfl, rfl, (received_values_iff http console reply).mpr kept.fields, ?_⟩
    show (if console.head || !bodyAllowed reply.status then [] else reply.body) = reply.body
    split
    next dropped => exact (kept.allowed dropped).symm
    next => rfl

/-! ### The client -/

theorem follow_head (hop : Hop) (exchange : Exchange) (left : Nat) (earlier : List Outgoing)
    (request : Outgoing) :
    ∃ rest, (follow hop exchange left earlier request).1 = request :: rest := by
  unfold follow
  split
  · exact ⟨[], rfl⟩
  · split
    · split
      · exact ⟨[], rfl⟩
      · split
        · exact ⟨[], rfl⟩
        · exact ⟨_, rfl⟩
    · exact ⟨[], rfl⟩

theorem clientDo_failed {hop : Hop} {exchange : Exchange} {request : Outgoing}
    (failed : exchange 0 request = none) : clientDo hop exchange request = ([request], none) := by
  unfold clientDo follow
  rw [List.length_nil, failed]

theorem clientDo_returned {hop : Hop} {exchange : Exchange} {request : Outgoing}
    {reply : Response} (replied : exchange 0 request = some reply)
    (final : redirects reply = false) :
    clientDo hop exchange request = ([request], some reply) := by
  unfold clientDo follow
  rw [List.length_nil, replied]
  simp only [final, Bool.false_eq_true, if_false]

/-- A redirect costs a second request or ends in an error. -/
theorem clientDo_redirected {hop : Hop} {exchange : Exchange} {request : Outgoing}
    {reply : Response} (replied : exchange 0 request = some reply)
    (redirected : redirects reply = true)
    (single : (clientDo hop exchange request).1 = [request]) :
    (clientDo hop exchange request).2 = none := by
  unfold clientDo follow at single ⊢
  rw [List.length_nil, replied] at single ⊢
  simp only [redirected, if_true] at single ⊢
  rcases next : hop ([] ++ [request]) reply with _ | second
  · rfl
  · rw [next] at single
    obtain ⟨rest, sent⟩ := follow_head hop exchange 8 ([] ++ [request]) second
    rw [List.nil_append] at sent
    simp [sent] at single

/-! ### The handler -/

theorem handleAC_unread {world : World} {request : ACRequest}
    (unread : readBody request = none) : (handleAC world request).1 = [] := by
  unfold handleAC
  rw [unread]

theorem handleAC_malformed {world : World} {request : ACRequest} {body : Bytes}
    (read : readBody request = some body) (malformed : (parseQuery body).ok = false) :
    (handleAC world request).1 = [] := by
  unfold handleAC
  rw [read]
  simp [malformed]

/-- A request that sends anything upstream goes through the proxy with the body
as it was read. -/
theorem handleAC_of_sent {world : World} {request : ACRequest} {sent : Outgoing}
    {rest : List Outgoing} (sends : (handleAC world request).1 = sent :: rest) :
    ∃ body, readBody request = some body ∧ (parseQuery body).ok = true ∧
      handleAC world request = proxyUpstream world request.header body := by
  rcases read : readBody request with _ | body
  · rw [handleAC_unread read] at sends
    cases sends
  · refine ⟨body, rfl, ?_⟩
    rcases wellFormed : (parseQuery body).ok with _ | _
    · rw [handleAC_malformed read wellFormed] at sends
      cases sends
    · refine ⟨rfl, ?_⟩
      unfold handleAC at sends ⊢
      rw [read] at sends ⊢
      simp only [wellFormed, if_true] at sends ⊢
      split at sends
      next => rfl
      next => cases sends

theorem proxyUpstream_sent (world : World) (header : Header) (body : Bytes) :
    (proxyUpstream world header body).1 =
      (clientDo world.hop (roundTrip world.http world.upstream) (proxyRequest header body)).1 := by
  unfold proxyUpstream
  split <;> simp [*]

theorem proxyUpstream_head {world : World} {header : Header} {body : Bytes} {sent : Outgoing}
    (single : (proxyUpstream world header body).1 = [sent]) :
    sent = proxyRequest header body := by
  rw [proxyUpstream_sent] at single
  obtain ⟨rest, sends⟩ := follow_head world.hop (roundTrip world.http world.upstream) 9 []
    (proxyRequest header body)
  change (clientDo world.hop _ (proxyRequest header body)).1 = _ at sends
  rw [sends] at single
  exact ((List.cons.inj single).1).symm

theorem WithinLimits.readBody {world : World} {console : ConsoleRequest}
    (limits : WithinLimits world console) : readBody console.read = some console.body := by
  have whole : console.body.take bodyLimit = console.body := List.take_of_length_le limits.short
  show (if console.bodyFails ∧ console.body.length < bodyLimit then none
    else some (console.body.take bodyLimit)) = _
  rw [if_neg, whole]
  rintro ⟨fails, short⟩
  have full := limits.readable fails
  omega

/-! ### The pass-through -/

/-- Reading a reply leaves the client's question of a redirect as it is. -/
theorem redirects_readReply (http : HttpLibrary) (reply : Response) :
    redirects (readReply http false reply) = redirects reply := by
  have location :
      (receivedFields reply.header).values locationKey = reply.header.values locationKey := by
    rw [values_receivedFields _ (by decide), if_neg (fun both => absurd both.1 (by decide))]
  show ([301, 302, 303, 307, 308].contains reply.status &&
    (receivedFields reply.header).get locationKey != []) = _
  rw [Header.get_congr location]
  rfl

theorem roundTrip_eq (world : World) {console : ConsoleRequest} (body : Bytes)
    (encoded : asksGzip console.header = false) :
    roundTrip world.http world.upstream 0 (proxyRequest console.read.header body) =
      (world.upstream 0 (proxyRequest console.read.header body).written).map fun reply =>
        readReply world.http false reply.toResponse := by
  unfold roundTrip
  rw [asksGzip_proxyRequest, encoded]

theorem transparent_of_withinLimits {world : World} {console : ConsoleRequest}
    (unhosted : Unhosted world console) (limits : WithinLimits world console) :
    Transparent world console := by
  have handled : handleAC world console.read =
      proxyUpstream world console.read.header console.body := by
    unfold handleAC
    rw [limits.readBody]
    simp only [limits.wellFormed, if_true]
    rw [show gameByID world.environ _ = none from unhosted]
  have exchange := roundTrip_eq world console.body limits.fields.encoded
  refine ⟨(proxyRequest console.read.header console.body).written, ?_,
    ⟨rfl, rfl, rfl, (written_values_iff console console.body).mpr limits.fields⟩, ?_⟩
  · rw [handled, proxyUpstream_sent]
    rcases completed : world.upstream 0 (proxyRequest console.read.header console.body).written
      with _ | reply
    · rw [completed] at exchange
      rw [clientDo_failed exchange]
      rfl
    · rw [completed] at exchange
      have final : redirects (readReply world.http false reply.toResponse) = false := by
        rw [redirects_readReply]
        exact (limits.reply reply completed).1
      rw [clientDo_returned exchange final]
      rfl
  · intro reply replied
    obtain ⟨final, kept⟩ := limits.reply reply replied
    obtain ⟨got, gets, gives⟩ :=
      (received_givesBack_iff world.http console reply.toResponse).mpr kept
    refine ⟨_, got, ?_, gets, gives⟩
    rw [replied] at exchange
    rw [← redirects_readReply world.http] at final
    rw [handled]
    unfold proxyUpstream
    rw [clientDo_returned exchange final]

theorem withinLimits_of_transparent {world : World} {console : ConsoleRequest}
    (transparent : Transparent world console) : WithinLimits world console := by
  obtain ⟨wire, written, relays, given⟩ := transparent
  obtain ⟨sent, single, rfl⟩ := List.map_eq_singleton_iff.mp written
  obtain ⟨body, read, wellFormed, handled⟩ := handleAC_of_sent single
  obtain ⟨taken, readable⟩ := readBody_eq_some read
  rw [handled] at single given
  obtain rfl := proxyUpstream_head single
  have whole : body = console.body := relays.body
  have short : console.body.length ≤ bodyLimit := by
    rw [← whole, taken]
    exact List.length_take_le bodyLimit console.body
  have fields := (written_values_iff console body).mp relays.header
  have exchange := roundTrip_eq world body fields.encoded
  rw [proxyUpstream_sent] at single
  subst whole
  refine ⟨short, ?_, wellFormed, fields, ?_⟩
  · intro fails
    have long : bodyLimit ≤ console.body.length := readable fails
    omega
  · intro reply replied
    obtain ⟨response, got, answered, gets, gives⟩ := given reply replied
    rw [replied] at exchange
    unfold proxyUpstream at answered
    rcases redirected : redirects reply.toResponse with _ | _
    · rw [← redirects_readReply world.http] at redirected
      rw [clientDo_returned exchange redirected] at answered
      obtain rfl := Answer.relayed.inj answered
      refine ⟨rfl, ?_⟩
      exact (received_givesBack_iff world.http console reply.toResponse).mp ⟨got, gets, gives⟩
    · rw [← redirects_readReply world.http] at redirected
      have failed := clientDo_redirected exchange redirected single
      rw [show clientDo world.hop _ _ = (_, none) from Prod.ext rfl failed] at answered
      cases answered

/-- **Pass-through.** A request for a game that is not hosted is relayed and
answered transparently exactly when its body is complete, within the limit and
a well-formed form, the reply is no followed redirect and within the limit, and
the HTTP libraries on both sides leave the fields of both alone. -/
theorem transparent_iff_withinLimits (world : World) (console : ConsoleRequest)
    (unhosted : Unhosted world console) :
    Transparent world console ↔ WithinLimits world console :=
  ⟨withinLimits_of_transparent, transparent_of_withinLimits unhosted⟩

/-- An upstream that answers every request with one line. -/
def answeringWorld : World where
  environ := fun _ => []
  clock := sampleClock
  random := none
  http := sampleLibrary
  hop := fun _ _ => none
  upstream := fun _ _ => some ⟨⟨200, AList.insert dateKey [ascii "Thu, 01 Jan 2026 00:00:00 GMT"]
    (AList.insert contentTypeKey [ascii "text/plain"] ∅), ascii "returncd=MDAx"⟩, by decide⟩

/-- The fields a console sends with a login. -/
def agentFields : Header :=
  AList.insert userAgentKey [ascii "CTR FPD/000B"]
    (AList.insert acceptEncodingKey [ascii "identity"] ∅)

/-- A login for the control game, which is not enabled. -/
def otherLogin : ConsoleRequest :=
  ⟨false, none, agentFields, ascii "action=TE9HSU4*&gameid=MDAwMzA2MDA*", false⟩

theorem otherLogin_transparent : Transparent answeringWorld otherLogin := by
  have unhosted : Unhosted answeringWorld otherLogin := by
    unfold Unhosted
    decide +kernel
  have fields : FieldsKept otherLogin.header :=
    ⟨by decide, by decide, by decide, ⟨ascii "CTR FPD/000B", by decide, by decide⟩, by decide⟩
  rw [transparent_iff_withinLimits answeringWorld otherLogin unhosted]
  refine ⟨by decide +kernel, by decide, by decide +kernel, fields, ?_⟩
  intro reply replied
  obtain rfl := Option.some.inj replied
  refine ⟨by decide, by decide, ⟨by decide, by decide, by decide, by decide, ?_⟩, by decide,
    by decide +kernel⟩
  intro list ownField
  cases ownField

/-- A body that is one percent sign. -/
def percentRequest : ConsoleRequest := ⟨false, none, agentFields, ascii "%", false⟩

/-- It names no hosted game, and nothing is sent upstream for it. -/
theorem percentRequest_not_transparent :
    Unhosted answeringWorld percentRequest ∧
      ¬ Transparent answeringWorld percentRequest := by
  constructor
  · unfold Unhosted
    decide +kernel
  · rintro ⟨sent, single, -⟩
    have read : readBody percentRequest.read = some (ascii "%") := by decide +kernel
    rw [handleAC_malformed read (by decide)] at single
    cases single

end CommunityServers.Nasc
