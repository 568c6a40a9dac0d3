import CommunityServers.Accounts.Atomic
import CommunityServers.Foundation.FieldList

/-!
Contract: one list of accounts taken in through the environment, as JSON
requests and as form requests.

Owns:
- the accounts themselves, with passwords of any printable ASCII characters;
- the text of the environment variable that lists them;
- what each of the three paths leaves in the store, and exactly for which
  passwords all three leave the given ones.

Does not own: what an encoder makes of a password. A request is one whose body
the server's own parser reads back as the pair.
-/

set_option autoImplicit false

namespace CommunityServers.Accounts

open CommunityServers.Foundation

def isPrintable (byte : UInt8) : Bool := 32 ≤ byte && byte ≤ 126

/-- A console's account as it was dumped. -/
structure DumpedAccount where
  pid : UInt64
  password : Bytes
  sized : 1 ≤ password.length ∧ password.length ≤ 64
  printable : password.all isPrintable = true

namespace DumpedAccount

/-- The key of the account in the store. -/
def pidText (account : DumpedAccount) : Bytes := formatUint account.pid.toNat

/-- The account as it stands in the environment variable. -/
def pairText (account : DumpedAccount) : Bytes :=
  account.pidText ++ 58 :: account.password

end DumpedAccount

/-- `FFE_NEX_ACCOUNTS` for a list of accounts. -/
def nexAccountsText (accounts : List DumpedAccount) : Bytes :=
  [44].intercalate (accounts.map DumpedAccount.pairText)

/-- A POST whose body decodes, as JSON, to the account. -/
structure PostsJSON (http : NetHTTP) (request : Request) (account : DumpedAccount) : Prop where
  method : request.method = ascii "POST"
  isJSON : ascii "application/json" <:+: request.contentType
  decoded : http.decodeJSON (request.body.take 4096) = some (account.pidText, account.password)

/-- A POST whose form has the account's two fields. -/
structure PostsForm (http : NetHTTP) (request : Request) (account : DumpedAccount) : Prop where
  method : request.method = ascii "POST"
  notJSON : ¬ ascii "application/json" <:+: request.contentType
  parsed : ∃ values, parseForm http request = some values ∧
    values.get (ascii "pid") = account.pidText ∧
    values.get (ascii "password") = account.password

/-- The store after one request for each account, on a server that has none
and whose database, if any, works. -/
def registered (http : NetHTTP) (postgres : Postgres) (post : DumpedAccount → Request)
    (accounts : List DumpedAccount) : AccountStore :=
  ((registerMachine http).exec ⟨postgres, ∅⟩
    (accounts.map fun account => (post account, true))).accounts

/-- The store has exactly these accounts, with their passwords. -/
structure Holds (accounts : List DumpedAccount) (store : AccountStore) : Prop where
  given : ∀ account ∈ accounts, store.get account.pidText = some account.password
  only : ∀ key, (∀ account ∈ accounts, account.pidText ≠ key) → store.get key = none

/-- The three stores are the same one, and it has exactly the given accounts. -/
structure TakenInAlike (accounts : List DumpedAccount) (seeded json form : AccountStore) :
    Prop where
  json_eq : ∀ key, json.get key = seeded.get key
  form_eq : ∀ key, form.get key = seeded.get key
  holds : Holds accounts seeded

/-- No comma, and no space at either end. -/
def Verbatim (password : Bytes) : Prop :=
  44 ∉ password ∧ password.head? ≠ some 32 ∧ password.getLast? ≠ some 32

/-! ### Stores that settle pairs -/

/-- The pairs of the accounts, as they should be set. -/
def givenPairs (accounts : List DumpedAccount) : List (Bytes × Bytes) :=
  accounts.map fun account => (account.pidText, account.password)

theorem pidText_injective {left right : DumpedAccount} (same : left.pidText = right.pidText) :
    left.pid = right.pid :=
  UInt64.toNat_inj.mp (formatUint_injective same)

theorem settle_givenPairs {accounts : List DumpedAccount}
    (distinct : (accounts.map DumpedAccount.pid).Nodup) {account : DumpedAccount}
    (member : account ∈ accounts) (current : Option Bytes) :
    settle account.pidText current (givenPairs accounts) = some account.password := by
  induction accounts generalizing current with
  | nil => cases member
  | cons first rest inductionHypothesis =>
      rw [List.map_cons, List.nodup_cons] at distinct
      change settle _ _ ((first.pidText, first.password) :: givenPairs rest) = _
      rw [settle_cons]
      rcases List.mem_cons.mp member with rfl | later
      · rw [if_pos rfl]
        apply settle_of_absent
        intro pair inRest same
        obtain ⟨other, otherMember, rfl⟩ := List.mem_map.mp inRest
        apply distinct.1
        rw [← pidText_injective same]
        exact List.mem_map_of_mem otherMember
      · exact inductionHypothesis distinct.2 later _

/-- A store that settles exactly the given pairs has exactly the accounts. -/
theorem holds_of_settles {accounts : List DumpedAccount}
    (distinct : (accounts.map DumpedAccount.pid).Nodup) {store : AccountStore}
    (settles : ∀ key, store.get key = settle key none (givenPairs accounts)) :
    Holds accounts store where
  given account member := (settles _).trans (settle_givenPairs distinct member none)
  only key absent := by
    rw [settles key]
    apply settle_of_absent
    intro pair member
    obtain ⟨account, inAccounts, rfl⟩ := List.mem_map.mp member
    exact absent account inAccounts

/-- Two stores that have exactly the same accounts are the same. -/
theorem Holds.get_eq {accounts : List DumpedAccount} {left right : AccountStore}
    (leftHolds : Holds accounts left) (rightHolds : Holds accounts right) (key : Bytes) :
    left.get key = right.get key := by
  by_cases known : ∃ account ∈ accounts, account.pidText = key
  · obtain ⟨account, member, rfl⟩ := known
    rw [leftHolds.given account member, rightHolds.given account member]
  · push Not at known
    rw [leftHolds.only key known, rightHolds.only key known]

/-! ### The environment -/

/-- The pair that one piece of the environment variable sets. -/
def seedEntry (piece : Bytes) : Option (Bytes × Bytes) :=
  if 58 ∈ trimSpace piece ∧ (cut 58 (trimSpace piece)).1 ≠ [] then
    some (cut 58 (trimSpace piece))
  else none

theorem seedPair_get (accounts : AccountStore) (piece key : Bytes) :
    (seedPair accounts piece).get key =
      settle key (accounts.get key) (seedEntry piece).toList := by
  unfold seedPair seedEntry
  dsimp only
  split
  · rw [get_set]
    rfl
  · rfl

theorem foldl_seedPair_get (pieces : List Bytes) (accounts : AccountStore) (key : Bytes) :
    (pieces.foldl seedPair accounts).get key =
      settle key (accounts.get key) (pieces.filterMap seedEntry) := by
  induction pieces generalizing accounts with
  | nil => rfl
  | cons piece rest inductionHypothesis =>
      rw [List.foldl_cons, inductionHypothesis, seedPair_get, ← settle_append]
      cases set : seedEntry piece with
      | none => rw [List.filterMap_cons_none set, Option.toList_none, List.nil_append]
      | some pair => rw [List.filterMap_cons_some set, Option.toList_some, List.singleton_append]

theorem seedAccountsFromEnv_get (nexAccounts key : Bytes) :
    (seedAccountsFromEnv nexAccounts ∅).get key =
      settle key none ((nexAccounts.splitOn 44).filterMap seedEntry) :=
  foldl_seedPair_get (nexAccounts.splitOn 44) ∅ key

/-- No password that the environment sets has a comma. -/
theorem seeded_noComma {nexAccounts key pw : Bytes}
    (found : (seedAccountsFromEnv nexAccounts ∅).get key = some pw) : 44 ∉ pw := by
  rw [seedAccountsFromEnv_get] at found
  obtain ⟨piece, inSplit, set⟩ := List.mem_filterMap.mp (mem_of_settle found)
  intro comma
  unfold seedEntry at set
  split at set
  next =>
    have value : pw = (cut 58 (trimSpace piece)).2 := congrArg Prod.snd (Option.some.inj set).symm
    rw [value] at comma
    exact (mem_splitOn inSplit).1 ((trimSpace_isInfix piece).subset
      (mem_of_mem_cut (Or.inr comma)))
  next => cases set

namespace DumpedAccount

theorem pidText_digits (account : DumpedAccount) :
    ∀ byte ∈ account.pidText, isDigit byte = true :=
  formatUint_isDigit account.pid.toNat

theorem pidText_ne_nil (account : DumpedAccount) : account.pidText ≠ [] :=
  formatUint_ne_nil account.pid.toNat

theorem comma_notMem_pairText {account : DumpedAccount} (noComma : 44 ∉ account.password) :
    44 ∉ account.pairText := by
  unfold pairText
  rw [List.mem_append, List.mem_cons]
  rintro (inPid | colon | inPassword)
  · exact notMem_formatUint account.pid.toNat (by decide) inPid
  · exact absurd colon (by decide)
  · exact noComma inPassword

theorem isPlain_of_ne_space (account : DumpedAccount) {byte : UInt8}
    (member : byte ∈ account.password) (notSpace : byte ≠ 32) : isPlain byte = true := by
  have printable := List.all_eq_true.mp account.printable byte member
  grind [isPrintable, isPlain, isSpaceOne]

theorem trimSpace_password {account : DumpedAccount}
    (first : account.password.head? ≠ some 32) (last : account.password.getLast? ≠ some 32) :
    trimSpace account.password = account.password := by
  have plainFirst : ∀ byte ∈ account.password.head?, isPlain byte = true := by
    intro byte isFirst
    apply account.isPlain_of_ne_space (List.mem_of_mem_head? isFirst)
    rintro rfl
    exact first isFirst
  have plainLast : ∀ byte ∈ account.password.getLast?, isPlain byte = true := by
    intro byte isLast
    apply account.isPlain_of_ne_space (List.mem_of_mem_getLast? isLast)
    rintro rfl
    exact last isLast
  unfold trimSpace
  rw [trimLeft_of_plain plainFirst, trimRight_of_plain plainLast]

theorem password_ne_nil (account : DumpedAccount) : account.password ≠ [] :=
  List.ne_nil_of_length_pos account.sized.1

theorem trimSpace_pairText {account : DumpedAccount}
    (last : account.password.getLast? ≠ some 32) :
    trimSpace account.pairText = account.pairText := by
  have plainFirst : ∀ byte ∈ account.pairText.head?, isPlain byte = true := by
    intro byte isFirst
    unfold pairText at isFirst
    rw [List.head?_append_of_ne_nil _ account.pidText_ne_nil] at isFirst
    exact isPlain_of_isDigit (account.pidText_digits byte (List.mem_of_mem_head? isFirst))
  have plainLast : ∀ byte ∈ account.pairText.getLast?, isPlain byte = true := by
    intro byte isLast
    unfold pairText at isLast
    rw [List.getLast?_append_of_ne_nil _ (List.cons_ne_nil _ _),
      List.getLast?_cons_of_ne_nil account.password_ne_nil] at isLast
    apply account.isPlain_of_ne_space (List.mem_of_mem_getLast? isLast)
    rintro rfl
    exact last isLast
  unfold trimSpace
  rw [trimLeft_of_plain plainFirst, trimRight_of_plain plainLast]

theorem seedEntry_pairText {account : DumpedAccount}
    (last : account.password.getLast? ≠ some 32) :
    seedEntry account.pairText = some (account.pidText, account.password) := by
  have colon : 58 ∈ account.pairText :=
    List.mem_append_right account.pidText List.mem_cons_self
  have parts : cut 58 account.pairText = (account.pidText, account.password) :=
    cut_append (notMem_formatUint account.pid.toNat (by decide)) account.password
  unfold seedEntry
  rw [trimSpace_pairText last, parts, if_pos ⟨colon, account.pidText_ne_nil⟩]

end DumpedAccount

theorem filterMap_seedEntry {accounts : List DumpedAccount}
    (verbatim : ∀ account ∈ accounts, Verbatim account.password) :
    ((nexAccountsText accounts).splitOn 44).filterMap seedEntry = givenPairs accounts := by
  cases accounts with
  | nil => decide
  | cons first rest =>
      unfold nexAccountsText
      rw [List.splitOn_intercalate]
      · rw [List.filterMap_map]
        unfold givenPairs
        rw [← List.filterMap_eq_map]
        apply List.filterMap_congr
        intro account member
        exact DumpedAccount.seedEntry_pairText (verbatim account member).2.2
      · intro piece member
        obtain ⟨account, inAccounts, rfl⟩ := List.mem_map.mp member
        exact DumpedAccount.comma_notMem_pairText (verbatim account inAccounts).1
      · exact List.cons_ne_nil _ _

theorem seeded_holds {accounts : List DumpedAccount}
    (distinct : (accounts.map DumpedAccount.pid).Nodup)
    (verbatim : ∀ account ∈ accounts, Verbatim account.password) :
    Holds accounts (seedAccountsFromEnv (nexAccountsText accounts) ∅) := by
  apply holds_of_settles distinct
  intro key
  rw [seedAccountsFromEnv_get, filterMap_seedEntry verbatim]

/-! ### Requests -/

/-- A POST that the server reads as the account, in either encoding. -/
def Posts (http : NetHTTP) (request : Request) (account : DumpedAccount) : Prop :=
  request.method = ascii "POST" ∧ Yields http request account.pidText account.password

theorem PostsJSON.posts {http : NetHTTP} {request : Request} {account : DumpedAccount}
    (posted : PostsJSON http request account) : Posts http request account :=
  ⟨posted.method, Yields.json posted.isJSON posted.decoded⟩

theorem PostsForm.posts {http : NetHTTP} {request : Request} {account : DumpedAccount}
    (posted : PostsForm http request account) : Posts http request account := by
  obtain ⟨values, parsed, pid, password⟩ := posted.parsed
  have yields := Yields.form posted.notJSON parsed
  rw [pid, password] at yields
  exact ⟨posted.method, yields⟩

/-- Only the trimmed password is registered. -/
theorem registration_trimmed {http : NetHTTP} {configured : Bool} {request : Request}
    {pid pw : Bytes} (performed : registration http configured (request, true) = some (pid, pw)) :
    ∃ raw, pw = trimSpace raw := by
  unfold registration at performed
  cases checked : checkRegister http request with
  | error reply =>
      rw [checked] at performed
      cases performed
  | ok pair =>
      rw [checked] at performed
      have same : pair = (pid, pw) := by simpa using performed
      rw [same] at checked
      obtain ⟨-, raw, -, -, trimmed⟩ :=
        ((checkRegister_ok_iff http request pid pw).mp checked).fields
      exact ⟨raw, trimmed⟩

theorem registration_of_posts {http : NetHTTP} (configured : Bool) {request : Request}
    {account : DumpedAccount} (posted : Posts http request account)
    (verbatim : Verbatim account.password) :
    registration http configured (request, true) = some (account.pidText, account.password) := by
  have accepted := checkRegister_formatted account.pid.toNat_lt posted.1
    ((requestFields_ok_iff http request _ _).mpr posted.2)
  have sized := account.sized
  rw [DumpedAccount.trimSpace_password verbatim.2.1 verbatim.2.2, if_neg (by omega)] at accepted
  unfold registration
  rw [accepted]
  simp [DumpedAccount.pidText]

section Registered

variable {http : NetHTTP} {postgres : Postgres} {post : DumpedAccount → Request}
  {accounts : List DumpedAccount}

theorem registered_get (key : Bytes) :
    (registered http postgres post accounts).get key =
      settle key none (registrations http postgres.isSome
        (accounts.map fun account => (post account, true))) :=
  exec_get http ⟨postgres, ∅⟩ _ key

theorem registered_trimmed {key pw : Bytes}
    (found : (registered http postgres post accounts).get key = some pw) :
    ∃ raw, pw = trimSpace raw := by
  rw [registered_get] at found
  obtain ⟨call, inCalls, performed⟩ := List.mem_filterMap.mp (mem_of_settle found)
  obtain ⟨account, -, rfl⟩ := List.mem_map.mp inCalls
  exact registration_trimmed performed

theorem registered_holds (distinct : (accounts.map DumpedAccount.pid).Nodup)
    (posted : ∀ account ∈ accounts, Posts http (post account) account)
    (verbatim : ∀ account ∈ accounts, Verbatim account.password) :
    Holds accounts (registered http postgres post accounts) := by
  apply holds_of_settles distinct
  intro key
  rw [registered_get]
  congr 1
  unfold registrations givenPairs
  rw [List.filterMap_map, ← List.filterMap_eq_map]
  apply List.filterMap_congr
  intro account member
  exact registration_of_posts _ (posted account member) (verbatim account member)

end Registered

/-- **One list, three ways in.** The environment, JSON requests and form
requests leave the same store with exactly the given passwords if and only if
no password has a comma or a space at an end. -/
theorem takenInAlike_iff (http : NetHTTP) (postgres : Postgres)
    (accounts : List DumpedAccount) (distinct : (accounts.map DumpedAccount.pid).Nodup)
    (json form : DumpedAccount → Request)
    (postsJSON : ∀ account ∈ accounts, PostsJSON http (json account) account)
    (postsForm : ∀ account ∈ accounts, PostsForm http (form account) account) :
    TakenInAlike accounts (seedAccountsFromEnv (nexAccountsText accounts) ∅)
        (registered http postgres json accounts) (registered http postgres form accounts) ↔
      ∀ account ∈ accounts, Verbatim account.password := by
  constructor
  · intro alike account member
    have seeded := alike.holds.given account member
    obtain ⟨raw, trimmed⟩ := registered_trimmed ((alike.json_eq account.pidText).trans seeded)
    refine ⟨seeded_noComma seeded, ?_, ?_⟩
    · intro first
      rw [trimmed] at first
      exact absurd (trimSpace_head first) (by decide)
    · intro last
      rw [trimmed] at last
      exact absurd (trimSpace_getLast last) (by decide)
  · intro verbatim
    have seededHolds := seeded_holds distinct verbatim
    have jsonHolds : Holds accounts (registered http postgres json accounts) :=
      registered_holds distinct (fun account member => (postsJSON account member).posts) verbatim
    have formHolds : Holds accounts (registered http postgres form accounts) :=
      registered_holds distinct (fun account member => (postsForm account member).posts) verbatim
    exact ⟨jsonHolds.get_eq seededHolds, formHolds.get_eq seededHolds, seededHolds⟩

/-! ### Accounts that show both sides -/

/-- Sixteen characters, among them separators of every format but the comma. -/
def colonAccount : DumpedAccount where
  pid := 1799999999
  password := ascii "k:7&x=+%;!z Q#~1"
  sized := by decide
  printable := by decide

def shortAccount : DumpedAccount where
  pid := 1799999998
  password := ascii "p"
  sized := by decide
  printable := by decide

def commaAccount : DumpedAccount where
  pid := 1799999997
  password := ascii "k7,xQz1mA9bT4cWe"
  sized := by decide
  printable := by decide

def spaceAccount : DumpedAccount where
  pid := 1799999996
  password := ascii " k7xQz1mA9bT4cWe"
  sized := by decide
  printable := by decide

def jsonDocument (account : DumpedAccount) : Bytes :=
  ascii "\x7b\"pid\":\"" ++ account.pidText ++ ascii "\",\"password\":\"" ++ account.password ++
    ascii "\"\x7d"

/-- Parsers that read the documents of the first, second and last account. -/
def sampleHTTP : NetHTTP :=
  { plainHTTP with
    decodeJSON := fun body =>
      ([colonAccount, shortAccount, spaceAccount].find? fun account =>
        jsonDocument account = body).map fun account => (account.pidText, account.password) }

def jsonPost (account : DumpedAccount) : Request :=
  ⟨ascii "POST", ascii "application/json", [], jsonDocument account⟩

def encodedPost (account : DumpedAccount) : Request :=
  formPost (encodeValues [(ascii "pid", account.pidText), (ascii "password", account.password)])

theorem samples_postJSON :
    ∀ account ∈ [colonAccount, shortAccount, spaceAccount],
      PostsJSON sampleHTTP (jsonPost account) account := by
  have decoded : ∀ account ∈ [colonAccount, shortAccount, spaceAccount],
      sampleHTTP.decodeJSON ((jsonDocument account).take 4096) =
        some (account.pidText, account.password) := by decide +kernel
  intro account member
  exact ⟨rfl, List.infix_refl _, decoded account member⟩

theorem samples_postForm :
    ∀ account ∈ [colonAccount, shortAccount, spaceAccount],
      PostsForm sampleHTTP (encodedPost account) account := by
  have parsed : ∀ account ∈ [colonAccount, shortAccount, spaceAccount],
      parseForm sampleHTTP (encodedPost account) =
        some [(ascii "password", account.password), (ascii "pid", account.pidText)] := by
    decide +kernel
  intro account member
  exact ⟨rfl, formType_notJSON, _, parsed account member, rfl, rfl⟩

theorem colonAndShort_takenInAlike :
    TakenInAlike [colonAccount, shortAccount]
      (seedAccountsFromEnv (nexAccountsText [colonAccount, shortAccount]) ∅)
      (registered sampleHTTP (some ∅) jsonPost [colonAccount, shortAccount])
      (registered sampleHTTP (some ∅) encodedPost [colonAccount, shortAccount]) := by
  have samples : [colonAccount, shortAccount] ⊆ [colonAccount, shortAccount, spaceAccount] := by
    simp
  apply (takenInAlike_iff sampleHTTP (some ∅) [colonAccount, shortAccount] (by decide) jsonPost
    encodedPost (fun account member => samples_postJSON account (samples member))
    (fun account member => samples_postForm account (samples member))).mpr
  unfold Verbatim
  decide

/-- The environment stores the part before the comma; a request stores the
password without its first character, a space. -/
theorem commaAndSpace_notTakenInAlike :
    (seedAccountsFromEnv (nexAccountsText [commaAccount]) ∅).get commaAccount.pidText =
        some (ascii "k7") ∧
      (registered sampleHTTP none jsonPost [spaceAccount]).get spaceAccount.pidText =
        some (ascii "k7xQz1mA9bT4cWe") ∧
      (registered sampleHTTP none encodedPost [spaceAccount]).get spaceAccount.pidText =
        some (ascii "k7xQz1mA9bT4cWe") ∧
      (∀ json form, ¬ TakenInAlike [commaAccount]
        (seedAccountsFromEnv (nexAccountsText [commaAccount]) ∅) json form) ∧
      ¬ TakenInAlike [spaceAccount] (seedAccountsFromEnv (nexAccountsText [spaceAccount]) ∅)
        (registered sampleHTTP none jsonPost [spaceAccount])
        (registered sampleHTTP none encodedPost [spaceAccount]) := by
  have seeded : (seedAccountsFromEnv (nexAccountsText [commaAccount]) ∅).get
      commaAccount.pidText = some (ascii "k7") := by decide +kernel
  have posted : (registered sampleHTTP none jsonPost [spaceAccount]).get spaceAccount.pidText =
      some (ascii "k7xQz1mA9bT4cWe") := by decide +kernel
  have differs : some (ascii "k7") ≠ some commaAccount.password := by decide
  have shorter : some (ascii "k7xQz1mA9bT4cWe") ≠ some spaceAccount.password := by decide
  refine ⟨seeded, posted, by decide +kernel, ?_, ?_⟩
  · intro json form alike
    exact differs (seeded.symm.trans (alike.holds.given commaAccount (List.mem_singleton.mpr rfl)))
  · intro alike
    have given := alike.holds.given spaceAccount (List.mem_singleton.mpr rfl)
    rw [← alike.json_eq, posted] at given
    exact shorter given

end CommunityServers.Accounts
