import CommunityServers.Nasc.Handler

/-!
Contract: how a console reads the replies the server composes.

Owns:
- the console's reading of a reply: split at `&`, each part at its first `=`,
  nothing unescaped;
- the fields each outcome is meant to have, stated apart from the code;
- the exact outcomes whose reply the console reads as meant.

Does not own: relayed replies.
-/

set_option autoImplicit false

namespace CommunityServers.Nasc

open CommunityServers.Foundation

/-! ### What is meant and what is read -/

/-- The fields of a reply as the console's parser splits them. -/
def consoleFields (body : Bytes) : List (Bytes × Bytes) :=
  (body.splitOn 38).map (cut 61)

/-- A field is meant to carry encoded bytes or a plain text. -/
inductive Intent where
  | encoded (bytes : Bytes)
  | plain (text : Bytes)

def Intent.Reads : Intent → Bytes → Prop
  | .encoded bytes, value => ninB64DecodeString value = bytes
  | .plain text, value => value = text

abbrev Fields := List (Bytes × Intent)

def errorFields (clock : Clock) (code : Bytes) : Fields :=
  [(ascii "retry", .encoded (ascii "1")),
    (ascii "returncd", if code = ascii "null" then .plain code else .encoded code),
    (ascii "datetime", .encoded (nascDateTime clock))]

def loginFields (environ : Environ) (clock : Clock) (game : GameServer) (token : Token) :
    Fields :=
  [(ascii "locator", .encoded (locatorOf environ game)),
    (ascii "retry", .encoded (ascii "0")),
    (ascii "returncd", .encoded (ascii "001")),
    (ascii "token", .encoded token),
    (ascii "datetime", .encoded (nascDateTime clock))]

/-- The hosted game and the action of a request that could be read. -/
def hostedAction (world : World) (request : ACRequest) : Option (GameServer × Bytes) :=
  match readBody request with
  | none => none
  | some body =>
      if (parseQuery body).ok then
        let fields := acFields (parseQuery body).values
        (gameByID world.environ fields.gameID).map fun game => (game, fields.action)
      else none

/-- The fields the reply to a request is meant to have when the server composes
it. -/
def meantFields (world : World) (request : ACRequest) : Fields :=
  match hostedAction world request with
  | none => errorFields world.clock (ascii "null")
  | some (game, action) =>
      if action = ascii "LOGIN" then
        match world.random with
        | none => errorFields world.clock (ascii "110")
        | some token => loginFields world.environ world.clock game token
      else if action = ascii "SVCLOC" then errorFields world.clock (ascii "110")
      else errorFields world.clock (ascii "null")

/-- The console finds exactly the meant names, once each, and every value reads
as meant. -/
structure ReadsAs (body : Bytes) (fields : Fields) : Prop where
  names : ((consoleFields body).map Prod.fst).Perm (fields.map Prod.fst)
  once : (fields.map Prod.fst).Nodup
  values : ∀ name intent, (name, intent) ∈ fields →
    ∀ value, (name, value) ∈ consoleFields body → intent.Reads value

/-- A login for a hosted game for which random bytes could be drawn. -/
def LoginSucceeds (world : World) (request : ACRequest) : Prop :=
  ∃ game, hostedAction world request = some (game, ascii "LOGIN") ∧
    world.random.isSome = true

/-! ### Reading back -/

/-- Pairs written as `name=value` and joined with `&` are read back, as long as
no separator occurs where it would split. -/
theorem consoleFields_intercalate {pairs : List (Bytes × Bytes)} (nonempty : pairs ≠ [])
    (names : ∀ pair ∈ pairs, 38 ∉ pair.1 ∧ 61 ∉ pair.1)
    (values : ∀ pair ∈ pairs, 38 ∉ pair.2) :
    consoleFields ([38].intercalate (pairs.map fun pair => pair.1 ++ 61 :: pair.2)) =
      pairs := by
  unfold consoleFields
  rw [List.splitOn_intercalate]
  · rw [List.map_map]
    conv_rhs => rw [← List.map_id pairs]
    apply List.map_congr_left
    intro pair member
    exact cut_append (names pair member).2 pair.2
  · intro part member
    obtain ⟨pair, inPairs, rfl⟩ := List.mem_map.mp member
    simp only [List.mem_append, List.mem_cons, not_or]
    exact ⟨(names pair inPairs).1, by decide, values pair inPairs⟩
  · simpa using nonempty

theorem notMem_queryEscape {byte : UInt8} (text : Bytes) (other : isUnreserved byte = false)
    (notPercent : byte ≠ 37) (notPlus : byte ≠ 43) : byte ∉ queryEscape text := by
  intro member
  obtain ⟨source, -, inEscape⟩ := List.mem_flatMap.mp member
  split at inEscape
  · rw [List.mem_singleton] at inEscape
    exact notPlus inEscape
  · have single : byte ∈ [source].flatMap escapeByte := by simpa using inEscape
    rcases mem_flatMap_escapeByte single with percent | unreserved
    · exact notPercent percent
    · rw [unreserved] at other
      cases other

/-- A composed error as the console splits it: the values are escaped and the
names sorted. -/
theorem consoleFields_nascError (clock : Clock) (code : Bytes) :
    consoleFields (writeValues (nascError clock code)) =
      [(ascii "datetime", queryEscape (ninB64Encode (nascDateTime clock))),
        (ascii "retry", ascii "MQ%2A%2A"),
        (ascii "returncd",
          queryEscape (if code = ascii "null" then code else ninB64Encode code))] := by
  have sorted : (nascError clock code).insertionSort (fun left right => left.1 ≤ right.1) =
      [(ascii "datetime", ninB64Encode (nascDateTime clock)),
        (ascii "retry", ninB64Encode (ascii "1")),
        (ascii "returncd", if code = ascii "null" then code else ninB64Encode code)] := by
    rfl
  have written : writeValues (nascError clock code) =
      [38].intercalate
        (([(ascii "datetime", queryEscape (ninB64Encode (nascDateTime clock))),
          (ascii "retry", ascii "MQ%2A%2A"),
          (ascii "returncd",
            queryEscape (if code = ascii "null" then code else ninB64Encode code))] :
          List (Bytes × Bytes)).map fun pair => pair.1 ++ 61 :: pair.2) := by
    unfold writeValues encodeValues
    rw [sorted]
    have retry : queryEscape (ninB64Encode (ascii "1")) = ascii "MQ%2A%2A" := by decide
    simp only [List.map_cons, List.map_nil, encodePair, retry]
    rfl
  rw [written, consoleFields_intercalate (by simp)]
  · simp only [List.forall_mem_cons]
    exact ⟨by decide, by decide, by decide, by simp⟩
  · simp only [List.forall_mem_cons]
    refine ⟨?_, by decide, ?_, by simp⟩ <;>
      exact notMem_queryEscape _ (by decide) (by decide) (by decide)

/-- The escaped padding of `retry` never decodes. -/
theorem nascError_not_readsAs (clock : Clock) (code : Bytes) :
    ¬ ReadsAs (writeValues (nascError clock code)) (errorFields clock code) := by
  intro reads
  have meant : (ascii "retry", Intent.encoded (ascii "1")) ∈ errorFields clock code := by
    simp [errorFields]
  have decoded := reads.values _ _ meant (ascii "MQ%2A%2A") (by
    rw [consoleFields_nascError]
    simp)
  exact absurd decoded (by
    unfold Intent.Reads
    decide)

/-- A raw reply in login order has exactly the five names. -/
theorem consoleFields_writeRawOrdered {values : Values}
    (noSeparator : ∀ key ∈ loginOrder, 38 ∉ values.get key) :
    consoleFields (writeRawOrdered loginOrder values) =
      loginOrder.map fun key => (key, values.get key) := by
  have names : ∀ key ∈ loginOrder, 38 ∉ key ∧ 61 ∉ key := by decide
  have written : writeRawOrdered loginOrder values =
      [38].intercalate ((loginOrder.map fun key => (key, values.get key)).map
        fun pair => pair.1 ++ 61 :: pair.2) := by
    rw [List.map_map]
    rfl
  rw [written, consoleFields_intercalate]
  · exact List.cons_ne_nil _ _
  · intro pair member
    obtain ⟨key, inOrder, rfl⟩ := List.mem_map.mp member
    exact names key inOrder
  · intro pair member
    obtain ⟨key, inOrder, rfl⟩ := List.mem_map.mp member
    exact noSeparator key inOrder

/-! ### Login replies -/

/-- What the values of a successful login encode. -/
def loginBytes (environ : Environ) (clock : Clock) (game : GameServer) (token : Token) :
    List (Bytes × Bytes) :=
  [(ascii "locator", locatorOf environ game), (ascii "retry", ascii "0"),
    (ascii "returncd", ascii "001"), (ascii "token", token),
    (ascii "datetime", nascDateTime clock)]

theorem loginOrder_nodup : loginOrder.Nodup := by decide

theorem login_readsAs (environ : Environ) (clock : Clock) (game : GameServer) (token : Token) :
    ReadsAs (writeRawOrdered loginOrder (gameLogin environ clock (some token) game))
      (loginFields environ clock game token) := by
  have fields : consoleFields
      (writeRawOrdered loginOrder (gameLogin environ clock (some token) game)) =
        gameLogin environ clock (some token) game := by
    have noSeparator : ∀ pair ∈ gameLogin environ clock (some token) game, 38 ∉ pair.2 := by
      simp only [gameLogin, List.forall_mem_cons]
      exact ⟨notMem_ninB64Encode _ rfl, notMem_ninB64Encode _ rfl, notMem_ninB64Encode _ rfl,
        notMem_ninB64Encode _ rfl, notMem_ninB64Encode _ rfl, by simp⟩
    have keys : (gameLogin environ clock (some token) game).map Prod.fst = loginOrder := rfl
    have distinct := loginOrder_nodup
    rw [← keys] at distinct
    rw [consoleFields_writeRawOrdered fun key _ => notMem_get noSeparator key, ← keys,
      map_get_keys distinct]
  refine ⟨?_, loginOrder_nodup, ?_⟩
  · rw [fields]
    exact List.Perm.refl loginOrder
  · intro name intent meant value read
    rw [fields] at read
    obtain ⟨source, inSource, encoded⟩ := List.mem_map.mp
      (show (name, intent) ∈ (loginBytes environ clock game token).map
        fun pair => (pair.1, Intent.encoded pair.2) from meant)
    obtain ⟨other, inOther, written⟩ := List.mem_map.mp
      (show (name, value) ∈ (loginBytes environ clock game token).map
        fun pair => (pair.1, ninB64Encode pair.2) from read)
    obtain ⟨rfl, rfl⟩ := Prod.mk.inj encoded
    obtain ⟨sameName, rfl⟩ := Prod.mk.inj written
    have distinct : ((loginBytes environ clock game token).map Prod.fst).Nodup :=
      loginOrder_nodup
    rw [List.inj_on_of_nodup_map distinct inOther inSource sameName]
    exact ninB64DecodeString_ninB64Encode source.2

/-- Without a token the reply still has all five names. -/
theorem failedLogin_not_readsAs (clock : Clock) :
    ¬ ReadsAs (writeRawOrdered loginOrder (nascError clock (ascii "110")))
      (errorFields clock (ascii "110")) := by
  intro reads
  have fields : consoleFields (writeRawOrdered loginOrder (nascError clock (ascii "110"))) =
      loginOrder.map fun key => (key, Values.get (nascError clock (ascii "110")) key) := by
    have encodedCode : ascii "110" ≠ ascii "null" := by decide
    have noSeparator : ∀ pair ∈ nascError clock (ascii "110"), 38 ∉ pair.2 := by
      simp only [nascError, if_neg encodedCode, List.forall_mem_cons]
      exact ⟨notMem_ninB64Encode _ rfl, notMem_ninB64Encode _ rfl, notMem_ninB64Encode _ rfl,
        by simp⟩
    exact consoleFields_writeRawOrdered fun key _ => notMem_get noSeparator key
  have lengths := reads.names.length_eq
  rw [fields] at lengths
  simp [loginOrder, errorFields] at lengths

/-! ### The date -/

theorem padded_length {width value : Nat} (positive : 0 < width) (small : value < 10 ^ width) :
    (padded width value).length = width := by
  have short := formatUint_length_le positive small
  unfold padded
  rw [List.length_append, List.length_replicate]
  omega

theorem padded_isDigit (width value : Nat) :
    ∀ byte ∈ padded width value, isDigit byte = true := by
  intro byte member
  rcases List.mem_append.mp member with zero | digit
  · rw [(List.mem_replicate.mp zero).2]
    decide
  · exact formatUint_isDigit value byte digit

theorem nascDateTime_digits (clock : Clock) :
    (nascDateTime clock).length = 14 ∧ ∀ byte ∈ nascDateTime clock, isDigit byte = true := by
  have month := clock.month_le.2
  have day := clock.day_le.2
  have hour := clock.hour_lt
  have minute := clock.minute_lt
  have second := clock.second_lt
  constructor
  · simp only [nascDateTime, List.length_append]
    rw [padded_length (by decide) clock.year_lt, padded_length (by decide) (by omega),
      padded_length (by decide) (by omega), padded_length (by decide) (by omega),
      padded_length (by decide) (by omega), padded_length (by decide) (by omega)]
  · intro byte member
    simp only [nascDateTime, List.mem_append] at member
    rcases member with ((((year | month) | day) | hour) | minute) | second <;>
      exact padded_isDigit _ _ byte (by assumption)

/-! ### Every composed reply -/

theorem handleAC_composed {world : World} {request : ACRequest} {body : Bytes}
    (composed : (handleAC world request).2 = .composed body) :
    (hostedAction world request = none ∧
      body = writeValues (nascError world.clock (ascii "null"))) ∨
    ∃ game action, hostedAction world request = some (game, action) ∧
      body = gameAnswer world game action := by
  unfold handleAC at composed
  unfold hostedAction
  rcases read : readBody request with _ | text
  · rw [read] at composed
    exact Or.inl ⟨rfl, (Answer.composed.inj composed).symm⟩
  · rw [read] at composed
    dsimp only at composed ⊢
    by_cases wellFormed : (parseQuery text).ok = true
    · rw [if_pos wellFormed] at composed ⊢
      rcases found : gameByID world.environ (acFields (parseQuery text).values).gameID with
        _ | game
      · rw [found] at composed
        dsimp only [proxyUpstream] at composed
        split at composed
        · exact Or.inl ⟨rfl, (Answer.composed.inj composed).symm⟩
        · cases composed
      · rw [found] at composed
        exact Or.inr ⟨game, _, rfl, (Answer.composed.inj composed).symm⟩
    · rw [if_neg wellFormed] at composed ⊢
      exact Or.inl ⟨rfl, (Answer.composed.inj composed).symm⟩

theorem handleAC_hosted {world : World} {request : ACRequest} {game : GameServer}
    {action : Bytes} (hosted : hostedAction world request = some (game, action)) :
    (handleAC world request).2 = .composed (gameAnswer world game action) := by
  unfold hostedAction at hosted
  unfold handleAC
  rcases read : readBody request with _ | text
  · rw [read] at hosted
    cases hosted
  · rw [read] at hosted
    dsimp only at hosted ⊢
    by_cases wellFormed : (parseQuery text).ok = true
    · rw [if_pos wellFormed] at hosted ⊢
      obtain ⟨found, located, same⟩ := Option.map_eq_some_iff.mp hosted
      obtain ⟨rfl, rfl⟩ := Prod.mk.inj same
      rw [located]
    · rw [if_neg wellFormed] at hosted
      cases hosted

/-- **Composed replies.** Of all replies the server composes itself, for every
request and surrounding, the console reads exactly those of successful logins
as they are meant; every date is fourteen digits. -/
theorem composed_readsAs_iff (world : World) (request : ACRequest) (body : Bytes)
    (composed : (handleAC world request).2 = .composed body) :
    (ReadsAs body (meantFields world request) ↔ LoginSucceeds world request) ∧
      (nascDateTime world.clock).length = 14 ∧
      ∀ byte ∈ nascDateTime world.clock, isDigit byte = true := by
  refine ⟨?_, nascDateTime_digits world.clock⟩
  unfold meantFields LoginSucceeds
  rcases handleAC_composed composed with ⟨unhosted, rfl⟩ | ⟨game, action, hosted, rfl⟩
  · rw [unhosted]
    constructor
    · intro reads
      exact absurd reads (nascError_not_readsAs _ _)
    · rintro ⟨game, impossible, -⟩
      cases impossible
  · rw [hosted]
    unfold gameAnswer
    by_cases login : action = ascii "LOGIN"
    · simp only [if_pos login]
      rcases world.random with _ | token
      · constructor
        · intro reads
          exact absurd reads (failedLogin_not_readsAs _)
        · rintro ⟨game, -, impossible⟩
          cases impossible
      · constructor
        · intro _
          exact ⟨game, by rw [login], rfl⟩
        · intro _
          exact login_readsAs _ _ _ _
    · simp only [if_neg login]
      have refused : ¬ ∃ other, some (game, action) = some (other, ascii "LOGIN") ∧
          world.random.isSome = true := by
        rintro ⟨other, same, -⟩
        exact login (Prod.mk.inj (Option.some.inj same)).2
      constructor
      · intro reads
        split at reads
        · exact absurd reads (nascError_not_readsAs _ _)
        · exact absurd reads (nascError_not_readsAs _ _)
      · intro success
        exact absurd success refused

/-- A server with random bytes and no upstream. -/
def lonelyWorld : World where
  environ := fun _ => []
  clock := sampleClock
  random := some ⟨List.replicate 112 7, rfl⟩
  http := sampleLibrary
  hop := fun _ _ => none
  upstream := fun _ _ => none

def ffeLogin : ACRequest := ⟨∅, ascii "action=TE9HSU4*&gameid=MDAxMEUyMDA*", false⟩

theorem ffeLogin_readsAs :
    ReadsAs (gameAnswer lonelyWorld ffe (ascii "LOGIN")) (meantFields lonelyWorld ffeLogin) := by
  have hosted : hostedAction lonelyWorld ffeLogin = some (ffe, ascii "LOGIN") := by
    decide +kernel
  have reads := composed_readsAs_iff lonelyWorld ffeLogin
    (gameAnswer lonelyWorld ffe (ascii "LOGIN")) (handleAC_hosted hosted)
  exact reads.1.mpr ⟨ffe, hosted, rfl⟩

/-- The same console asking for a service token. -/
def ffeServiceRequest : ACRequest := ⟨∅, ascii "action=U1ZDTE9D&gameid=MDAxMEUyMDA*", false⟩

/-- The refusal is written with its padding escaped, which does not decode. -/
theorem ffeServiceRequest_not_readsAs :
    (handleAC lonelyWorld ffeServiceRequest).2 =
        .composed (writeValues (nascError sampleClock (ascii "110"))) ∧
      ¬ ReadsAs (writeValues (nascError sampleClock (ascii "110")))
        (meantFields lonelyWorld ffeServiceRequest) := by
  have hosted : hostedAction lonelyWorld ffeServiceRequest = some (ffe, ascii "SVCLOC") := by
    decide +kernel
  constructor
  · rw [handleAC_hosted hosted]
    rfl
  · unfold meantFields
    rw [hosted]
    exact nascError_not_readsAs sampleClock (ascii "110")

end CommunityServers.Nasc
