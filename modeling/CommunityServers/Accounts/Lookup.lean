import CommunityServers.Accounts.Register

/-!
Contract: the two account lookups of the NEX endpoints.

Owns:
- `passwordForPID`, `accountDetailsByPID` and `accountDetailsByUsername`;
- the exact condition, on the registrations so far and the username, under
  which both lookups give one password for the PID the username names;
- a registration after which they do not.

Does not own: kerberos key derivation or the login protocol.
-/

set_option autoImplicit false

namespace CommunityServers.Accounts

open CommunityServers.Foundation

abbrev PID := UInt64

structure Account where
  pid : PID
  username : Bytes
  password : Bytes
  requiresTokenAuth : Bool
deriving DecidableEq

/-- The one error the lookups return, with its message. -/
inductive NexError where
  | invalidUsername (message : Bytes)
deriving DecidableEq

def authServerAccount : Account :=
  ⟨1, ascii "Quazal Authentication", ascii "auth-password", false⟩

def secureServerAccount : Account :=
  ⟨2, ascii "Quazal Rendez-Vous", ascii "secure-password", false⟩

def guestPassword : Bytes := ascii "guest-password"

/-- `fixed` is the value of `FFE_FIXED_PASSWORD`, empty when unset. -/
def passwordForPID (fixed : Bytes) (accounts : AccountStore) (pid : Bytes) : Bytes :=
  if fixed ≠ [] then fixed
  else
    match accounts.get pid with
    | some pw => pw
    | none => guestPassword

def accountDetailsByPID (fixed : Bytes) (accounts : AccountStore) (pid : PID) :
    Except NexError Account :=
  if pid = 1 then .ok authServerAccount
  else if pid = 2 then .ok secureServerAccount
  else
    let pidStr := formatUint pid.toNat
    .ok ⟨pid, pidStr, passwordForPID fixed accounts pidStr, false⟩

def accountDetailsByUsername (fixed : Bytes) (accounts : AccountStore) (username : Bytes) :
    Except NexError Account :=
  if username = ascii "Quazal Authentication" then .ok authServerAccount
  else if username = ascii "Quazal Rendez-Vous" then .ok secureServerAccount
  else
    match parseUint 64 username with
    | none => .error (.invalidUsername (ascii "invalid username"))
    | some pidInt =>
        .ok ⟨UInt64.ofNat pidInt, username, passwordForPID fixed accounts username, false⟩

/-- The account a username gives is also what its PID gives, up to the
spelling of the name. -/
def LookupsAgree (fixed : Bytes) (accounts : AccountStore) (username : Bytes) : Prop :=
  ∀ account, accountDetailsByUsername fixed accounts username = .ok account →
    ∃ found, accountDetailsByPID fixed accounts account.pid = .ok found ∧
      found.pid = account.pid ∧ found.password = account.password

/-! ### When the lookups agree -/

/-- The password last registered under a PID text, or the guest password. -/
def lastRegistered (pairs : List (Bytes × Bytes)) (pid : Bytes) : Bytes :=
  (settle pid none pairs).getD guestPassword

/-- The registrations give a username and its PID one password: the username is
a server name, is not a PID, or names a console PID with the fixed password in
force, in canonical form, or with the same password registered under both
spellings. For the two server PIDs the username has to carry the server's own
password. -/
def OnePassword (fixed : Bytes) (pairs : List (Bytes × Bytes)) (username : Bytes) : Prop :=
  username = ascii "Quazal Authentication" ∨ username = ascii "Quazal Rendez-Vous" ∨
  ∀ pid, parseUint 64 username = some pid →
    if pid = 1 then
      (if fixed ≠ [] then fixed else lastRegistered pairs username) = ascii "auth-password"
    else if pid = 2 then
      (if fixed ≠ [] then fixed else lastRegistered pairs username) = ascii "secure-password"
    else
      fixed ≠ [] ∨ username = formatUint pid ∨
        lastRegistered pairs username = lastRegistered pairs (formatUint pid)

theorem passwordForPID_eq (fixed : Bytes) (accounts : AccountStore) (pid : Bytes) :
    passwordForPID fixed accounts pid =
      if fixed ≠ [] then fixed else (accounts.get pid).getD guestPassword := by
  unfold passwordForPID
  rcases accounts.get pid with _ | pw <;> rfl

theorem lookupsAgree_of_server {fixed : Bytes} {accounts : AccountStore} {username : Bytes}
    (server : username = ascii "Quazal Authentication" ∨
      username = ascii "Quazal Rendez-Vous") :
    LookupsAgree fixed accounts username := by
  intro account looked
  rcases server with rfl | rfl
  · cases looked
    exact ⟨authServerAccount, rfl, rfl, rfl⟩
  · cases looked
    exact ⟨secureServerAccount, rfl, rfl, rfl⟩

/-- For a username that is not a server name, agreement is one equation between
passwords. -/
theorem lookupsAgree_iff {fixed : Bytes} {accounts : AccountStore} {username : Bytes}
    (notAuth : username ≠ ascii "Quazal Authentication")
    (notSecure : username ≠ ascii "Quazal Rendez-Vous") :
    LookupsAgree fixed accounts username ↔
      ∀ pid, parseUint 64 username = some pid →
        (if pid = 1 then ascii "auth-password"
          else if pid = 2 then ascii "secure-password"
          else passwordForPID fixed accounts (formatUint pid)) =
        passwordForPID fixed accounts username := by
  unfold LookupsAgree accountDetailsByUsername
  rw [if_neg notAuth, if_neg notSecure]
  rcases parsed : parseUint 64 username with _ | value
  · simp
  · have bounded : value < 2 ^ 64 := (parseUint_eq_some.mp parsed).2.2.2
    have number : (UInt64.ofNat value).toNat = value := UInt64.toNat_ofNat_of_lt bounded
    have isOne : UInt64.ofNat value = 1 ↔ value = 1 := by
      rw [← UInt64.toNat_inj, number]
      rfl
    have isTwo : UInt64.ofNat value = 2 ↔ value = 2 := by
      rw [← UInt64.toNat_inj, number]
      rfl
    simp only [Except.ok.injEq, forall_eq', Option.some.injEq, accountDetailsByPID, isOne,
      isTwo, number]
    by_cases one : value = 1
    · subst one
      simp [authServerAccount]
    · by_cases two : value = 2
      · subst two
        simp [secureServerAccount]
      · simp [one, two]

/-- **Agreement of the lookups.** After any registrations on an empty store,
with or without a database and a fixed password, the lookup by username and the
lookup by the PID it returns give one password exactly when the registrations
give that username and that PID one password. -/
theorem lookupsAgree_iff_onePassword (http : NetHTTP) (postgres : Postgres)
    (calls : List (Request × Bool)) (fixed username : Bytes) :
    LookupsAgree fixed ((registerMachine http).exec ⟨postgres, ∅⟩ calls).accounts username ↔
      OnePassword fixed (registrations http postgres.isSome calls) username := by
  have stored : ∀ pid,
      (((registerMachine http).exec ⟨postgres, ∅⟩ calls).accounts.get pid).getD
        guestPassword = lastRegistered (registrations http postgres.isSome calls) pid := by
    intro pid
    rw [exec_get]
    rfl
  by_cases server : username = ascii "Quazal Authentication" ∨
      username = ascii "Quazal Rendez-Vous"
  · exact ⟨fun _ => server.imp_right Or.inl, fun _ => lookupsAgree_of_server server⟩
  · rw [not_or] at server
    rw [lookupsAgree_iff server.1 server.2]
    unfold OnePassword
    simp only [server.1, server.2, false_or, passwordForPID_eq, stored]
    apply forall_congr'
    intro pid
    apply imp_congr_right
    intro parsed
    by_cases one : pid = 1
    · simp only [one, if_true]
      exact eq_comm
    · by_cases two : pid = 2
      · simp only [two, if_true]
        exact eq_comm
      · simp only [one, two, if_false]
        by_cases unset : fixed = []
        · simp only [unset, ne_eq, not_true_eq_false, if_false, false_or]
          constructor
          · intro equal
            exact Or.inr equal.symm
          · rintro (canonical | equal)
            · rw [← canonical]
            · exact equal.symm
        · simp [unset]

/-- One console registered in canonical form. -/
def canonicalRegistration : List (Request × Bool) :=
  [(formPost (ascii "pid=1800000000&password=hunter2"), true)]

/-- The console's PID with a leading zero is accepted as a username, and gets
the guest password instead of the registered one. -/
theorem paddedUsername_not_lookupsAgree :
    ¬ LookupsAgree []
      ((registerMachine plainHTTP).exec ⟨some ∅, ∅⟩ canonicalRegistration).accounts
      (ascii "01800000000") := by
  intro agree
  have byName : accountDetailsByUsername []
      ((registerMachine plainHTTP).exec ⟨some ∅, ∅⟩ canonicalRegistration).accounts
      (ascii "01800000000") =
        .ok ⟨1800000000, ascii "01800000000", guestPassword, false⟩ := by decide +kernel
  have byNumber : accountDetailsByPID []
      ((registerMachine plainHTTP).exec ⟨some ∅, ∅⟩ canonicalRegistration).accounts
      1800000000 = .ok ⟨1800000000, ascii "1800000000", ascii "hunter2", false⟩ := by decide +kernel
  obtain ⟨found, looked, -, same⟩ := agree _ byName
  rw [byNumber, Except.ok.injEq] at looked
  rw [← looked] at same
  exact absurd same (by decide)

end CommunityServers.Accounts
