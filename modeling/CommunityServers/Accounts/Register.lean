import Mathlib.Data.List.AList
import CommunityServers.Foundation.FormEncoding
import CommunityServers.Foundation.Machine
import CommunityServers.Foundation.Whitespace

/-!
Contract: the account store and the `/register` handler.

Owns:
- the in-memory store, the `ffe_accounts` table and how a start fills the store
  from the environment and then from the table;
- `handleRegister` from the request to its reply, with its two effects, the
  upsert and the store update, as separate functions;
- what an accepted request is: the validated pair that both effects receive.

Does not own: interleaving of concurrent requests, or who reads the store.
-/

set_option autoImplicit false

namespace CommunityServers.Accounts

open CommunityServers.Foundation

/-! ### Store and table -/

/-- Decimal PID text to NEX password. -/
abbrev AccountStore := AList fun _ : Bytes => Bytes

def AccountStore.get (accounts : AccountStore) (pid : Bytes) : Option Bytes :=
  accounts.lookup pid

def AccountStore.set (accounts : AccountStore) (pid pw : Bytes) : AccountStore :=
  accounts.insert pid pw

/-- The rows of `ffe_accounts`, whose primary key is the PID text. -/
abbrev AccountTable := AList fun _ : Bytes => Bytes

/-- A configured database, or none for memory-only operation. -/
abbrev Postgres := Option AccountTable

/-- One `pid:pw` pair of the environment variable; a pair whose colon is
missing or comes first is skipped. -/
def seedPair (accounts : AccountStore) (pair : Bytes) : AccountStore :=
  let pair := trimSpace pair
  if 58 ∈ pair ∧ (cut 58 pair).1 ≠ [] then
    accounts.set (cut 58 pair).1 (cut 58 pair).2
  else accounts

def seedAccountsFromEnv (nexAccounts : Bytes) (accounts : AccountStore) : AccountStore :=
  (nexAccounts.splitOn 44).foldl seedPair accounts

/-- The database of a process; one that cannot be reached at the start, because it
cannot be opened or does not answer the ping, is left out for good. -/
def openPostgres (table : AccountTable) (reached : Bool) : Postgres :=
  if reached then some table else none

/-- What comes of a load: the query fails, or the rows of some PIDs are read. A row
is not read when `Scan` fails on it or when the result breaks off before it, which
`rows.Err` would tell but is not asked. -/
inductive LoadOutcome where
  | queryFails
  | rows (scanned : Bytes → Bool)

/-- The row of this PID is read. -/
def LoadOutcome.reads : LoadOutcome → Bytes → Bool
  | .queryFails, _ => false
  | .rows scanned, pid => scanned pid

/-- Every row of the table that is read is set in the store. -/
def loadAccountsFromDB (postgres : Postgres) (outcome : LoadOutcome)
    (accounts : AccountStore) : AccountStore :=
  match postgres, outcome with
  | none, _ => accounts
  | some _, .queryFails => accounts
  | some table, .rows scanned =>
      (table.entries.filter fun row => scanned row.1).foldl
        (fun store row => store.set row.1 row.2) accounts

/-- What a start of the process leaves in memory. -/
def startAccounts (nexAccounts : Bytes) (postgres : Postgres) (outcome : LoadOutcome) :
    AccountStore :=
  loadAccountsFromDB postgres outcome (seedAccountsFromEnv nexAccounts ∅)

/-- The upsert; `works` says whether the statement takes effect. -/
def saveAccount (postgres : Postgres) (works : Bool) (pid pw : Bytes) : Option Postgres :=
  match postgres with
  | none => some none
  | some table => if works then some (some (table.insert pid pw)) else none

/-! ### Requests -/

structure Request where
  method : Bytes
  contentType : Bytes
  query : Bytes
  body : Bytes
deriving DecidableEq

/-- An HTTP reply as status and body. -/
structure Reply where
  status : Nat
  body : Bytes
deriving DecidableEq

/-- `http.Error`: the text and a line feed. -/
def httpError (text : String) (status : Nat) : Reply := ⟨status, ascii text ++ [10]⟩

def formType : Bytes := ascii "application/x-www-form-urlencoded"

theorem formType_notJSON : ¬ ascii "application/json" <:+: formType := by decide +kernel

/-- The standard library's parsers that the handler calls. The media type of a
bare form content type is that type. -/
structure NetHTTP where
  mediaType : Bytes → Option Bytes
  decodeJSON : Bytes → Option (Bytes × Bytes)
  mediaType_form : mediaType formType = some formType

/-- Parsers that take every content type as its own media type and know no
JSON. -/
def plainHTTP : NetHTTP := ⟨some, fun _ => none, rfl⟩

/-- A form POST without a query. -/
def formPost (body : Bytes) : Request := ⟨ascii "POST", formType, [], body⟩

/-- The pairs of the body of a POST, which is read through a 4096-byte
`MaxBytesReader`. -/
def parsePostForm (http : NetHTTP) (request : Request) : Option Values :=
  if request.contentType = [] then some []
  else
    match http.mediaType request.contentType with
    | none => none
    | some mediaType =>
        if mediaType = formType then
          if request.body.length ≤ 4096 ∧ (parseQuery request.body).ok then
            some (parseQuery request.body).values
          else none
        else some []

/-- `ParseForm` on a POST: the body's pairs come before those of the query. -/
def parseForm (http : NetHTTP) (request : Request) : Option Values :=
  match parsePostForm http request with
  | none => none
  | some values =>
      if (parseQuery request.query).ok then
        some (values ++ (parseQuery request.query).values)
      else none

/-- The two fields of the request, before trimming. -/
def requestFields (http : NetHTTP) (request : Request) : Except Reply (Bytes × Bytes) :=
  if ascii "application/json" <:+: request.contentType then
    match http.decodeJSON (request.body.take 4096) with
    | none => .error (httpError "bad json" 400)
    | some fields => .ok fields
  else
    match parseForm http request with
    | none => .error (httpError "bad form" 400)
    | some values => .ok (values.get (ascii "pid"), values.get (ascii "password"))

/-- Everything `handleRegister` checks before it has an effect. -/
def checkRegister (http : NetHTTP) (request : Request) : Except Reply (Bytes × Bytes) :=
  if request.method ≠ ascii "POST" then .error (httpError "POST only" 405)
  else
    match requestFields http request with
    | .error reply => .error reply
    | .ok fields =>
        let pid := trimSpace fields.1
        let pw := trimSpace fields.2
        if parseUint 64 pid = none then .error (httpError "invalid pid" 400)
        else if pw.length = 0 ∨ 64 < pw.length then
          .error (httpError "invalid password" 400)
        else .ok (pid, pw)

structure ServerState where
  postgres : Postgres
  accounts : AccountStore

def handleRegister (http : NetHTTP) (works : Bool) (state : ServerState)
    (request : Request) : Reply × ServerState :=
  match checkRegister http request with
  | .error reply => (reply, state)
  | .ok (pid, pw) =>
      match saveAccount state.postgres works pid pw with
      | none => (httpError "server error" 500, state)
      | some postgres =>
          (⟨200, ascii "\x7b\"ok\":true\x7d"⟩, ⟨postgres, state.accounts.set pid pw⟩)

/-- Requests handled one after the other, each with the outcome its upsert
would have. -/
def registerMachine (http : NetHTTP) : Machine ServerState (Request × Bool) Reply where
  step := fun state call => (handleRegister http call.2 state call.1).2
  emit := fun state call => [(handleRegister http call.2 state call.1).1]

/-! ### What a request can do -/

/-- Only a decimal 64-bit PID and a password of 1 to 64 bytes are accepted. -/
theorem checkRegister_ok {http : NetHTTP} {request : Request} {pid pw : Bytes}
    (accepted : checkRegister http request = .ok (pid, pw)) :
    (parseUint 64 pid).isSome = true ∧ 1 ≤ pw.length ∧ pw.length ≤ 64 := by
  unfold checkRegister at accepted
  split at accepted
  next => cases accepted
  next =>
    split at accepted
    next => cases accepted
    next fields _ =>
      dsimp only at accepted
      split at accepted
      next => cases accepted
      next parses =>
        split at accepted
        next => cases accepted
        next sized =>
          obtain ⟨rfl, rfl⟩ := Prod.mk.inj (Except.ok.inj accepted)
          refine ⟨Option.isSome_iff_ne_none.mpr parses, ?_, ?_⟩ <;> omega

/-- A POST whose PID is a formatted number is refused only for its password. -/
theorem checkRegister_formatted {http : NetHTTP} {request : Request} {pid : Nat}
    (bounded : pid < 2 ^ 64) {pw : Bytes} (isPost : request.method = ascii "POST")
    (fields : requestFields http request = .ok (formatUint pid, pw)) :
    checkRegister http request =
      if (trimSpace pw).length = 0 ∨ 64 < (trimSpace pw).length then
        .error (httpError "invalid password" 400)
      else .ok (formatUint pid, trimSpace pw) := by
  have trimmed : trimSpace (formatUint pid) = formatUint pid :=
    trimSpace_of_plain fun byte member =>
      isPlain_of_isDigit (formatUint_isDigit pid byte member)
  unfold checkRegister
  rw [if_neg (not_not_intro isPost), fields]
  dsimp only
  rw [trimmed, parseUint_formatUint bounded, if_neg (Option.some_ne_none pid)]

/-- The registration a call performs, if it performs one. -/
def registration (http : NetHTTP) (configured : Bool) (call : Request × Bool) :
    Option (Bytes × Bytes) :=
  match checkRegister http call.1 with
  | .error _ => none
  | .ok pair => if configured && !call.2 then none else some pair

/-- The registrations among a list of calls, in order. -/
def registrations (http : NetHTTP) (configured : Bool) (calls : List (Request × Bool)) :
    List (Bytes × Bytes) :=
  calls.filterMap (registration http configured)

/-- The password a PID text ends with when pairs are set one after the other. -/
def settle (pid : Bytes) (current : Option Bytes) (pairs : List (Bytes × Bytes)) :
    Option Bytes :=
  pairs.foldl (fun found pair => if pair.1 = pid then some pair.2 else found) current

theorem get_set (accounts : AccountStore) (pid pw key : Bytes) :
    (accounts.set pid pw).get key = if pid = key then some pw else accounts.get key := by
  unfold AccountStore.get AccountStore.set
  split
  next same => rw [same, AList.lookup_insert]
  next different => rw [AList.lookup_insert_ne (Ne.symm different)]

@[simp] theorem settle_append (pid : Bytes) (current : Option Bytes)
    (first second : List (Bytes × Bytes)) :
    settle pid current (first ++ second) = settle pid (settle pid current first) second := by
  unfold settle
  exact List.foldl_append

@[simp] theorem settle_cons (pid : Bytes) (current : Option Bytes) (pair : Bytes × Bytes)
    (rest : List (Bytes × Bytes)) :
    settle pid current (pair :: rest) =
      settle pid (if pair.1 = pid then some pair.2 else current) rest := rfl

@[simp] theorem settle_nil (pid : Bytes) (current : Option Bytes) :
    settle pid current [] = current := rfl

theorem settle_of_absent {pid : Bytes} (current : Option Bytes)
    {pairs : List (Bytes × Bytes)} (absent : ∀ pair ∈ pairs, pair.1 ≠ pid) :
    settle pid current pairs = current := by
  induction pairs with
  | nil => rfl
  | cons pair rest inductionHypothesis =>
      rw [settle_cons, if_neg (absent pair List.mem_cons_self)]
      exact inductionHypothesis fun other member =>
        absent other (List.mem_cons_of_mem pair member)

theorem mem_of_settle {key value : Bytes} {pairs : List (Bytes × Bytes)}
    (settled : settle key none pairs = some value) : (key, value) ∈ pairs := by
  induction pairs using List.reverseRecOn with
  | nil => cases settled
  | append_singleton earlier pair inductionHypothesis =>
      rw [settle_append, settle_cons, settle_nil] at settled
      split at settled
      next same =>
        obtain rfl := Option.some.inj settled
        exact List.mem_append_right earlier (List.mem_singleton.mpr (Prod.ext same.symm rfl))
      next => exact List.mem_append_left [pair] (inductionHypothesis settled)

/-- One call either changes nothing or performs its registration on both
sides. -/
theorem handleRegister_state (http : NetHTTP) (state : ServerState)
    (call : Request × Bool) :
    (handleRegister http call.2 state call.1).2 =
      match registration http state.postgres.isSome call with
      | none => state
      | some pair =>
          ⟨state.postgres.map (·.insert pair.1 pair.2), state.accounts.set pair.1 pair.2⟩ := by
  obtain ⟨postgres, accounts⟩ := state
  obtain ⟨request, works⟩ := call
  unfold handleRegister registration
  rcases checkRegister http request with reply | ⟨pid, pw⟩
  · rfl
  · rcases postgres with _ | table
    · rfl
    · rcases works with _ | _ <;> rfl

/-- A request that passes the checks, with an upsert that takes effect if there
is a database, is registered. -/
theorem handleRegister_accepted {http : NetHTTP} {request : Request} {pid pw : Bytes}
    (accepted : checkRegister http request = .ok (pid, pw)) {state : ServerState} {works : Bool}
    (saved : state.postgres.isSome = true → works = true) :
    handleRegister http works state request =
      (⟨200, ascii "\x7b\"ok\":true\x7d"⟩,
        ⟨state.postgres.map (·.insert pid pw), state.accounts.set pid pw⟩) := by
  obtain ⟨postgres, accounts⟩ := state
  unfold handleRegister
  rw [accepted]
  cases postgres with
  | none => rfl
  | some table =>
      rw [show works = true from saved rfl]
      rfl

/-- A registration never configures or removes the database. -/
theorem exec_configured (http : NetHTTP) (state : ServerState)
    (calls : List (Request × Bool)) :
    ((registerMachine http).exec state calls).postgres.isSome = state.postgres.isSome := by
  induction calls generalizing state with
  | nil => rfl
  | cons call rest inductionHypothesis =>
      rw [Machine.exec_cons, inductionHypothesis]
      show (handleRegister http call.2 state call.1).2.postgres.isSome = _
      rw [handleRegister_state]
      split <;> simp

/-- **The store after any calls.** Each PID text holds the password of its last
registration, or what it held before. -/
theorem exec_get (http : NetHTTP) (state : ServerState) (calls : List (Request × Bool))
    (pid : Bytes) :
    ((registerMachine http).exec state calls).accounts.get pid =
      settle pid (state.accounts.get pid)
        (registrations http state.postgres.isSome calls) := by
  induction calls generalizing state with
  | nil => rfl
  | cons call rest inductionHypothesis =>
      have configured := exec_configured http state [call]
      have stepped := handleRegister_state http state call
      rw [Machine.exec_cons, Machine.exec_nil] at configured
      rw [Machine.exec_cons, inductionHypothesis, configured]
      change (registerMachine http).step state call = _ at stepped
      rw [stepped]
      unfold registrations
      rcases performed : registration http state.postgres.isSome call with _ | pair
      · rw [List.filterMap_cons_none performed]
      · rw [List.filterMap_cons_some performed, settle_cons, get_set]

/-! ### Start -/

theorem get_foldl_set {rows : List (Sigma fun _ : Bytes => Bytes)} (distinct : rows.NodupKeys)
    (accounts : AccountStore) (pid : Bytes) :
    (rows.foldl (fun (store : AccountStore) row => store.set row.1 row.2) accounts).get pid =
      (rows.dlookup pid).or (accounts.get pid) := by
  induction rows generalizing accounts with
  | nil => rfl
  | cons row rest inductionHypothesis =>
      rw [List.nodupKeys_cons] at distinct
      rw [List.foldl_cons, inductionHypothesis distinct.2, get_set]
      by_cases same : row.1 = pid
      · obtain ⟨key, value⟩ := row
        obtain rfl : key = pid := same
        rw [if_pos rfl, List.dlookup_cons_eq, List.dlookup_eq_none.mpr distinct.1]
        rfl
      · obtain ⟨key, value⟩ := row
        rw [if_neg same, List.dlookup_cons_ne rest ⟨key, value⟩ (Ne.symm same)]

/-- A row that is read overrides the environment. -/
theorem startAccounts_get (nexAccounts : Bytes) (table : AccountTable) (outcome : LoadOutcome)
    (pid : Bytes) :
    (startAccounts nexAccounts (some table) outcome).get pid =
      (if outcome.reads pid then table.lookup pid else none).or
        ((seedAccountsFromEnv nexAccounts ∅).get pid) := by
  cases outcome with
  | queryFails => rfl
  | rows scanned =>
      have distinct : (table.entries.filter fun row => scanned row.1).NodupKeys :=
        table.nodupKeys.sublist List.filter_sublist
      refine (get_foldl_set distinct _ pid).trans (congrArg (Option.or · _) ?_)
      ext pw
      rw [← Option.mem_def, List.mem_dlookup_iff distinct, List.mem_filter,
        ← List.mem_dlookup_iff table.nodupKeys]
      show pw ∈ table.lookup pid ∧ scanned pid = true ↔ _
      by_cases read : scanned pid = true
      · simp [LoadOutcome.reads, read]
      · simp [LoadOutcome.reads, read]

end CommunityServers.Accounts
