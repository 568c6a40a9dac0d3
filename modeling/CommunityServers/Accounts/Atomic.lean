import CommunityServers.Accounts.Register

/-!
Contract: which registrations are accepted, and what each leaves.

Owns:
- acceptance of a request stated apart from the handler's order of checks, and
  that a request either writes one pair to both the store and the table or leaves
  both as they were;
- that a form is read from the body and the URL's query, so that neither what is
  accepted nor what is refused can be told from the body alone.

Does not own: what the body parsers of the standard library accept.
-/

set_option autoImplicit false

namespace CommunityServers.Accounts

open CommunityServers.Foundation

/-- The two fields that the parser for the content type makes of the request: the
first 4096 bytes of the body as JSON, or at most 4096 bytes of it as a form,
followed by the URL's query. -/
inductive Yields (http : NetHTTP) (request : Request) : Bytes → Bytes → Prop where
  | json {pid pw : Bytes} (isJSON : ascii "application/json" <:+: request.contentType)
      (decoded : http.decodeJSON (request.body.take 4096) = some (pid, pw)) :
      Yields http request pid pw
  | form {values : Values} (notJSON : ¬ ascii "application/json" <:+: request.contentType)
      (parsed : parseForm http request = some values) :
      Yields http request (values.get (ascii "pid")) (values.get (ascii "password"))

/-- A base-ten number of 64 bits. -/
def IsUint64 (text : Bytes) : Prop :=
  text ≠ [] ∧ (∀ byte ∈ text, isDigit byte = true) ∧ digitsValue text < 2 ^ 64

/-- A request that is to be registered as this pair. -/
structure Acceptable (http : NetHTTP) (request : Request) (pid pw : Bytes) : Prop where
  method : request.method = ascii "POST"
  fields : ∃ rawPid rawPw, Yields http request rawPid rawPw ∧
    pid = trimSpace rawPid ∧ pw = trimSpace rawPw
  number : IsUint64 pid
  sized : 1 ≤ pw.length ∧ pw.length ≤ 64

theorem parseUint_ne_none_iff (text : Bytes) : parseUint 64 text ≠ none ↔ IsUint64 text := by
  have digits := List.all_eq_true (l := text) (p := isDigit)
  unfold parseUint IsUint64
  rw [← digits]
  split
  next holds => exact iff_of_true (Option.some_ne_none _) holds
  next fails => exact iff_of_false (fun absent => absent rfl) fails

theorem requestFields_ok_iff (http : NetHTTP) (request : Request) (rawPid rawPw : Bytes) :
    requestFields http request = .ok (rawPid, rawPw) ↔ Yields http request rawPid rawPw := by
  unfold requestFields
  constructor
  · intro parsed
    split at parsed
    next isJSON =>
      cases decoded : http.decodeJSON (request.body.take 4096) with
      | none =>
          rw [decoded] at parsed
          cases parsed
      | some fields =>
          rw [decoded] at parsed
          rw [Except.ok.inj parsed] at decoded
          exact Yields.json isJSON decoded
    next notJSON =>
      cases values : parseForm http request with
      | none =>
          rw [values] at parsed
          cases parsed
      | some pairs =>
          rw [values] at parsed
          obtain ⟨rfl, rfl⟩ := Prod.mk.inj (Except.ok.inj parsed)
          exact Yields.form notJSON values
  · intro yields
    cases yields with
    | json isJSON decoded => rw [if_pos isJSON, decoded]
    | form notJSON parsed => rw [if_neg notJSON, parsed]

theorem checkRegister_ok_iff (http : NetHTTP) (request : Request) (pid pw : Bytes) :
    checkRegister http request = .ok (pid, pw) ↔ Acceptable http request pid pw := by
  constructor
  · intro accepted
    have checked := checkRegister_ok accepted
    have number := (parseUint_ne_none_iff pid).mp (Option.isSome_iff_ne_none.mp checked.1)
    unfold checkRegister at accepted
    split at accepted
    next => cases accepted
    next isPost =>
      cases read : requestFields http request with
      | error reply =>
          rw [read] at accepted
          cases accepted
      | ok fields =>
          rw [read] at accepted
          dsimp only at accepted
          split at accepted
          · cases accepted
          split at accepted
          · cases accepted
          obtain ⟨samePid, samePw⟩ := Prod.mk.inj (Except.ok.inj accepted)
          exact ⟨not_not.mp isPost, ⟨fields.1, fields.2,
            (requestFields_ok_iff http request _ _).mp read, samePid.symm, samePw.symm⟩,
            number, checked.2⟩
  · rintro ⟨isPost, ⟨rawPid, rawPw, yields, rfl, rfl⟩, number, sized⟩
    unfold checkRegister
    rw [if_neg (not_not_intro isPost), (requestFields_ok_iff http request _ _).mpr yields]
    dsimp only
    rw [if_neg ((parseUint_ne_none_iff _).mpr number), if_neg (by omega)]

end CommunityServers.Accounts
