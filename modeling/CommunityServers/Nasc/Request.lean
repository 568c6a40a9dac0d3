import CommunityServers.Foundation.Machine
import CommunityServers.Nasc.Handler

/-!
Contract: how the handler reads the fields of a request body that a console has
written.

Owns:
- the console's body: every field as `name=value`, the values encoded, in any
  order;
- what is read of such a body when only its first bytes arrive;
- the exact bodies whose fields the handler recovers through its body limit.

The encoded alphabet has none of the bytes that a form gives a meaning, so a
whole body is always read back. The limit may cut a value off.

Does not own: the replies, and bodies that a console does not write this way.
-/

set_option autoImplicit false

namespace CommunityServers.Nasc

open CommunityServers.Foundation

/-! ### The body a console writes -/

inductive ACField where
  | action
  | gameID
  | titleID
  | gameCode
  | userID
deriving DecidableEq, Repr

def ACField.name : ACField → Bytes
  | .action => ascii "action"
  | .gameID => ascii "gameid"
  | .titleID => ascii "titleid"
  | .gameCode => ascii "gamecd"
  | .userID => ascii "userid"

def ACField.all : List ACField := [.action, .gameID, .titleID, .gameCode, .userID]

/-- The byte strings that a console gives the fields. -/
abbrev Assignment := ACField → Bytes

namespace Assignment

def fields (given : Assignment) : ACFields where
  action := given .action
  gameID := given .gameID
  titleID := given .titleID
  gameCode := given .gameCode
  userID := given .userID

def written (given : Assignment) (field : ACField) : Bytes :=
  field.name ++ 61 :: ninB64Encode (given field)

def body (given : Assignment) (order : List ACField) : Bytes :=
  [38].intercalate (order.map given.written)

/-- Every value that is not empty ends within so many bytes of the body. -/
def Fits (given : Assignment) (limit : Nat) (order : List ACField) : Prop :=
  Everywhere (fun before field =>
    given field ≠ [] → (given.body (before ++ [field])).length ≤ limit) order

instance (given : Assignment) (limit : Nat) (order : List ACField) :
    Decidable (given.Fits limit order) := by
  unfold Fits
  infer_instance

end Assignment

/-! ### What the handler decides on -/

/-- The fields of a request as the handler has decoded them, when it got so far. -/
def decodedFields (request : ACRequest) : Option ACFields :=
  (readBody request).bind fun body =>
    if (parseQuery body).ok then some (acFields (parseQuery body).values) else none

/-- Routing by the game and dispatch by the action of the given fields. -/
def answerFor (world : World) (header : Header) (body : Bytes) (fields : ACFields) :
    List Outgoing × Answer :=
  match gameByID world.environ fields.gameID with
  | none => proxyUpstream world header body
  | some game => ([], .composed (gameAnswer world game fields.action))

/-- The handler decides on the decoded fields and on nothing else of the body. -/
theorem handleAC_eq_answerFor (world : World) {request : ACRequest} {fields : ACFields}
    (decoded : decodedFields request = some fields) :
    handleAC world request =
      answerFor world request.header (request.body.take bodyLimit) fields := by
  unfold decodedFields at decoded
  obtain ⟨body, read, parsed⟩ := Option.bind_eq_some_iff.mp decoded
  obtain ⟨whole, -⟩ := readBody_eq_some read
  split at parsed
  next ok =>
    cases parsed
    subst whole
    unfold handleAC answerFor
    rw [read]
    exact if_pos ok
  next => cases parsed

/-- One field as the handler decodes it from a text. -/
def readField (text : Bytes) (field : ACField) : Bytes :=
  ninB64DecodeString ((parseQuery text).values.get field.name)

theorem acFields_parseQuery (text : Bytes) :
    acFields (parseQuery text).values = Assignment.fields (readField text) := rfl

theorem fields_eq_iff (first second : Assignment) :
    first.fields = second.fields ↔ ∀ field, first field = second field := by
  constructor
  · intro equal field
    cases field
    · exact congrArg ACFields.action equal
    · exact congrArg ACFields.gameID equal
    · exact congrArg ACFields.titleID equal
    · exact congrArg ACFields.gameCode equal
    · exact congrArg ACFields.userID equal
  · intro equal
    rw [show first = second from funext equal]

/-! ### One field, possibly cut off -/

theorem name_injective {first second : ACField} (equal : first.name = second.name) :
    first = second := by
  revert equal
  cases first <;> cases second <;> decide

/-- The names hold no byte that a form gives a meaning. -/
theorem name_plain (field : ACField) :
    37 ∉ field.name ∧ 38 ∉ field.name ∧ 43 ∉ field.name ∧ 59 ∉ field.name ∧
      61 ∉ field.name := by
  cases field <;> decide

theorem parsePair_name_eq (field : ACField) {value : Bytes}
    (plain : ∀ byte ∈ value, isNinByte byte = true) :
    parsePair (field.name ++ 61 :: value) = some (some (field.name, value)) := by
  have names := name_plain field
  have notIn : ∀ byte, isNinByte byte = false → byte ∉ value := by
    intro byte other member
    rw [plain byte member] at other
    cases other
  apply parsePair_eq names.2.2.2.2
  · simp only [List.mem_append, List.mem_cons, not_or]
    exact ⟨names.2.2.2.1, by decide, notIn 59 rfl⟩
  · exact queryUnescape_plain names.1 names.2.2.1
  · exact queryUnescape_plain (notIn 37 rfl) (notIn 43 rfl)

/-- A beginning of a name is read as a name without a value, or as nothing. -/
theorem parsePair_take_name (field : ACField) (limit : Nat) :
    parsePair (field.name.take limit) =
      some (if field.name.take limit = [] then none else some (field.name.take limit, [])) := by
  have names := name_plain field
  have notIn : ∀ byte, byte ∉ field.name → byte ∉ field.name.take limit :=
    fun byte absent member => absent (List.mem_of_mem_take member)
  unfold parsePair
  rw [if_neg (notIn 59 names.2.2.2.1), cut_of_notMem (notIn 61 names.2.2.2.2),
    queryUnescape_plain (notIn 37 names.1) (notIn 43 names.2.2.1)]
  by_cases empty : field.name.take limit = []
  · rw [if_pos empty, if_pos empty]
  · rw [if_neg empty, if_neg empty]
    rfl

section Written

variable (given : Assignment) (field : ACField)

theorem length_written :
    (given.written field).length =
      field.name.length + 1 + (ninB64Encode (given field)).length := by
  rw [Assignment.written, List.length_append, List.length_cons]
  omega

theorem written_oneSegment : 38 ∉ given.written field := by
  simp only [Assignment.written, List.mem_append, List.mem_cons, not_or]
  exact ⟨(name_plain field).2.1, by decide, notMem_ninB64Encode _ rfl⟩

theorem parsePair_written :
    parsePair (given.written field) =
      some (some (field.name, ninB64Encode (given field))) :=
  parsePair_name_eq field (ninB64Encode_isNinByte (given field))

/-- What a form parser makes of the first bytes of one field. -/
theorem parsePair_take_written (limit : Nat) :
    ∃ pair, parsePair ((given.written field).take limit) = some pair ∧
      ∀ other : ACField, Values.get pair.toList other.name =
        if field = other then
          (ninB64Encode (given field)).take (limit - (field.name.length + 1))
        else [] := by
  by_cases inName : limit ≤ field.name.length
  · have taken : (given.written field).take limit = field.name.take limit :=
      List.take_append_of_le_length inName
    have nothing : limit - (field.name.length + 1) = 0 := by omega
    rw [taken, parsePair_take_name]
    refine ⟨_, rfl, ?_⟩
    intro other
    rw [nothing, List.take_zero, ite_self]
    split
    · rfl
    · rw [Option.toList_some, get_cons]
      split <;> rfl
  · have taken : (given.written field).take limit =
        field.name ++ 61 :: (ninB64Encode (given field)).take
          (limit - (field.name.length + 1)) := by
      have past : limit - field.name.length = limit - (field.name.length + 1) + 1 := by omega
      rw [Assignment.written, List.take_append, List.take_of_length_le (by omega), past,
        List.take_succ_cons]
    have plain : ∀ byte ∈ (ninB64Encode (given field)).take (limit - (field.name.length + 1)),
        isNinByte byte = true := by
      intro byte member
      exact ninB64Encode_isNinByte _ byte (List.mem_of_mem_take member)
    rw [taken, parsePair_name_eq field plain]
    refine ⟨_, rfl, ?_⟩
    intro other
    rw [Option.toList_some, get_cons]
    by_cases same : field = other
    · rw [if_pos (congrArg ACField.name same), if_pos same]
    · rw [if_neg fun equal => same (name_injective equal), if_neg same]
      rfl

end Written

theorem length_ninB64Encode (bytes : Bytes) :
    (ninB64Encode bytes).length = (bytes.length + 2) / 3 * 4 := by
  rw [ninB64Encode, List.length_map, length_encodeBase64]

theorem length_ninB64DecodeString_le (text : Bytes) :
    (ninB64DecodeString text).length ≤ text.length / 4 * 3 := by
  unfold ninB64DecodeString
  cases read : decodeBase64 (text.map ninDecoder) with
  | none => exact Nat.zero_le _
  | some decoded =>
      have bound := length_decodeBase64_le read
      rw [List.length_map] at bound
      exact bound

/-- A value that is cut off is not recovered. -/
theorem decode_take_iff (bytes : Bytes) (limit : Nat) :
    ninB64DecodeString ((ninB64Encode bytes).take limit) = bytes ↔
      (ninB64Encode bytes).length ≤ limit := by
  constructor
  · intro recovered
    have bound := length_ninB64DecodeString_le ((ninB64Encode bytes).take limit)
    rw [recovered, List.length_take, length_ninB64Encode] at bound
    rw [length_ninB64Encode]
    omega
  · intro whole
    rw [List.take_of_length_le whole, ninB64DecodeString_ninB64Encode]

/-! ### The first bytes of a body -/

section Body

variable (given : Assignment) (field : ACField)

theorem body_singleton : given.body [field] = given.written field :=
  List.intercalate_singleton

theorem body_cons {rest : List ACField} (nonempty : rest ≠ []) :
    given.body (field :: rest) = given.written field ++ 38 :: given.body rest := by
  unfold Assignment.body
  rw [List.map_cons, List.intercalate_cons_of_ne_nil (by simpa using nonempty), List.append_assoc]
  rfl

theorem length_body_pos {order : List ACField} (nonempty : order ≠ []) :
    0 < (given.body order).length := by
  cases order with
  | nil => exact absurd rfl nonempty
  | cons field rest =>
      have positive := length_written given field
      cases rest with
      | nil =>
          rw [body_singleton]
          omega
      | cons next others =>
          rw [body_cons given field (List.cons_ne_nil next others), List.length_append]
          omega

/-- The first bytes of a body are those of its first field, or that field and the
first bytes of the rest. -/
theorem take_body_cons (rest : List ACField) (limit : Nat) :
    (given.body (field :: rest)).take limit =
      if limit ≤ (given.written field).length ∨ rest = [] then
        (given.written field).take limit
      else
        given.written field ++ 38 ::
          (given.body rest).take (limit - ((given.written field).length + 1)) := by
  by_cases last : rest = []
  · subst last
    rw [if_pos (Or.inr rfl), body_singleton]
  · rw [body_cons given field last]
    by_cases inside : limit ≤ (given.written field).length
    · rw [if_pos (Or.inl inside), List.take_append_of_le_length inside]
    · have past : limit - (given.written field).length =
          limit - ((given.written field).length + 1) + 1 := by omega
      rw [if_neg (by simp [inside, last]), List.take_append,
        List.take_of_length_le (by omega), past, List.take_succ_cons]

theorem parseQuery_take_written (limit : Nat) :
    (parseQuery ((given.written field).take limit)).ok = true ∧
      ∀ other : ACField,
        (parseQuery ((given.written field).take limit)).values.get other.name =
          if field = other then
            (ninB64Encode (given field)).take (limit - (field.name.length + 1))
          else [] := by
  obtain ⟨pair, parsed, reads⟩ := parsePair_take_written given field limit
  have oneSegment : 38 ∉ (given.written field).take limit :=
    fun member => written_oneSegment given field (List.mem_of_mem_take member)
  rw [parseQuery_segment oneSegment, parsed]
  exact ⟨rfl, reads⟩

theorem parseQuery_body_ok (order : List ACField) (limit : Nat) :
    (parseQuery ((given.body order).take limit)).ok = true := by
  induction order generalizing limit with
  | nil => simp [Assignment.body, parseQuery, parsePair]
  | cons field rest inductionHypothesis =>
      rw [take_body_cons]
      split
      · exact (parseQuery_take_written given field limit).1
      · rw [parseQuery_append (written_oneSegment given field), parsePair_written]
        exact inductionHypothesis _

theorem readField_nil : readField [] field = [] := by
  cases field <;> decide

/-- What is read of the first bytes of a body, one field at a time. -/
theorem readField_take_body_cons (rest : List ACField) (limit : Nat) (other : ACField) :
    readField ((given.body (field :: rest)).take limit) other =
      if field = other then
        ninB64DecodeString
          ((ninB64Encode (given field)).take (limit - (field.name.length + 1)))
      else
        readField ((given.body rest).take (limit - ((given.written field).length + 1)))
          other := by
  have length := length_written given field
  rw [take_body_cons]
  split
  next cutOff =>
    have nothing : (given.body rest).take (limit - ((given.written field).length + 1)) = [] := by
      rcases cutOff with inside | rfl
      · rw [Nat.sub_eq_zero_of_le (by omega), List.take_zero]
      · exact List.take_nil
    rw [nothing, readField_nil, readField, (parseQuery_take_written given field limit).2 other]
    split <;> rfl
  next whole =>
    rw [readField, parseQuery_append (written_oneSegment given field), parsePair_written]
    show ninB64DecodeString (Values.get ((_, _) :: _) other.name) = _
    rw [get_cons]
    by_cases same : field = other
    · rw [if_pos (congrArg ACField.name same), if_pos same, List.take_of_length_le (by omega)]
    · rw [if_neg fun equal => same (name_injective equal), if_neg same]
      rfl

theorem fits_cons (rest : List ACField) (limit : Nat) :
    given.Fits limit (field :: rest) ↔
      (given field ≠ [] → (given.written field).length ≤ limit) ∧
        given.Fits (limit - ((given.written field).length + 1)) rest := by
  unfold Assignment.Fits
  rw [everywhere_cons, List.nil_append, body_singleton]
  apply and_congr_right
  intro _
  apply everywhere_congr
  intro before other
  have nonempty : before ++ [other] ≠ [] := by simp
  have positive := length_body_pos given nonempty
  rw [List.cons_append, body_cons given field nonempty, List.length_append, List.length_cons]
  apply imp_congr_right
  intro _
  omega

theorem fits_of_length_le {order : List ACField} {limit : Nat}
    (short : (given.body order).length ≤ limit) : given.Fits limit order := by
  induction order generalizing limit with
  | nil => exact everywhere_nil
  | cons field rest inductionHypothesis =>
      rw [fits_cons]
      by_cases last : rest = []
      · subst last
        rw [body_singleton] at short
        exact ⟨fun _ => short, everywhere_nil⟩
      · rw [body_cons given field last, List.length_append, List.length_cons] at short
        exact ⟨fun _ => by omega, inductionHypothesis (by omega)⟩

/-- Of one field everything is recovered exactly when its value is not cut off. -/
theorem decode_written_iff (limit : Nat) :
    ninB64DecodeString
        ((ninB64Encode (given field)).take (limit - (field.name.length + 1))) = given field ↔
      (given field ≠ [] → (given.written field).length ≤ limit) := by
  rw [decode_take_iff, length_written, length_ninB64Encode]
  by_cases empty : given field = []
  · simp [empty]
  · have positive : 0 < (given field).length := List.length_pos_of_ne_nil empty
    simp only [ne_eq, empty, not_false_eq_true, forall_const]
    omega

/-- The fields of a body are read back from its first bytes exactly when those
hold every value. -/
theorem readField_take_body_iff {order : List ACField} (once : order.Nodup) (limit : Nat) :
    (∀ field ∈ order, readField ((given.body order).take limit) field = given field) ↔
      given.Fits limit order := by
  induction order generalizing limit with
  | nil => exact ⟨fun _ => everywhere_nil, fun _ _ member => by cases member⟩
  | cons field rest inductionHypothesis =>
      obtain ⟨fresh, restOnce⟩ := List.nodup_cons.mp once
      rw [fits_cons, ← inductionHypothesis restOnce, ← decode_written_iff,
        List.forall_mem_cons, readField_take_body_cons, if_pos rfl]
      apply and_congr_right
      intro _
      apply forall₂_congr
      intro other member
      rw [readField_take_body_cons, if_neg]
      rintro rfl
      exact fresh member

end Body

/-! ### The handler -/

/-- How a body that a console wrote is read: whole it is always read back, and
through the body limit exactly when no value is cut off, which then decides the
answer. -/
structure ReadBack (given : Assignment) (order : List ACField) : Prop where
  parses : (parseQuery (given.body order)).ok = true
  whole : acFields (parseQuery (given.body order)).values = given.fields
  short : (given.body order).length ≤ bodyLimit → given.Fits bodyLimit order
  limited : ∀ header : Header,
    decodedFields ⟨header, given.body order, false⟩ = some given.fields ↔
      given.Fits bodyLimit order
  decides : given.Fits bodyLimit order → ∀ (world : World) (header : Header),
    handleAC world ⟨header, given.body order, false⟩ =
      answerFor world header ((given.body order).take bodyLimit) given.fields

theorem acFields_take_body_iff {given : Assignment} {order : List ACField}
    (allOnce : order.Perm ACField.all) (limit : Nat) :
    acFields (parseQuery ((given.body order).take limit)).values = given.fields ↔
      given.Fits limit order := by
  have once : order.Nodup := allOnce.nodup_iff.mpr (by decide)
  have everyField : ∀ field, field ∈ order := by
    intro field
    rw [allOnce.mem_iff]
    cases field <;> decide
  rw [acFields_parseQuery, fields_eq_iff, ← readField_take_body_iff given once]
  exact ⟨fun all field _ => all field, fun all field => all field (everyField field)⟩

theorem decodedFields_body_iff {given : Assignment} {order : List ACField}
    (allOnce : order.Perm ACField.all) (header : Header) :
    decodedFields ⟨header, given.body order, false⟩ = some given.fields ↔
      given.Fits bodyLimit order := by
  have read : readBody ⟨header, given.body order, false⟩ =
      some ((given.body order).take bodyLimit) := if_neg (by simp)
  rw [decodedFields, read, Option.bind_some, if_pos (parseQuery_body_ok given order bodyLimit),
    Option.some_inj, acFields_take_body_iff allOnce]

theorem handleAC_readBack :
    (∀ bytes : Bytes, ninB64DecodeString (ninB64Encode bytes) = bytes ∧
      ∀ byte ∈ ninB64Encode bytes, isNinByte byte = true) ∧
      ∀ (given : Assignment) (order : List ACField), order.Perm ACField.all →
        ReadBack given order := by
  refine ⟨fun bytes => ⟨ninB64DecodeString_ninB64Encode bytes, ninB64Encode_isNinByte bytes⟩, ?_⟩
  intro given order allOnce
  have everything := fits_of_length_le given (Nat.le_refl (given.body order).length)
  refine ⟨?_, ?_, fits_of_length_le given, decodedFields_body_iff allOnce, ?_⟩
  · have parses := parseQuery_body_ok given order (given.body order).length
    rw [List.take_length] at parses
    exact parses
  · have whole := (acFields_take_body_iff allOnce _).mpr everything
    rw [List.take_length] at whole
    exact whole
  · intro fits world header
    exact handleAC_eq_answerFor world ((decodedFields_body_iff allOnce header).mpr fits)

/-- A login whose other strings hold bytes that a form gives a meaning. -/
def ffeLoginFields : Assignment
  | .action => ascii "LOGIN"
  | .gameID => ascii "0010E200"
  | .titleID => [0, 4, 255]
  | .gameCode => []
  | .userID => ascii "a=b&c+d%20;"

theorem ffeLoginFields_readBack :
    ACField.all.reverse.Perm ACField.all ∧
      ninB64DecodeString (ninB64Encode (ffeLoginFields .userID)) = ffeLoginFields .userID ∧
      ffeLoginFields.Fits bodyLimit ACField.all.reverse ∧
      decodedFields ⟨∅, ffeLoginFields.body ACField.all.reverse, false⟩ =
        some ffeLoginFields.fields := by
  have reversed : ACField.all.reverse.Perm ACField.all := List.reverse_perm _
  have readBack := handleAC_readBack.2 ffeLoginFields ACField.all.reverse reversed
  have fits : ffeLoginFields.Fits bodyLimit ACField.all.reverse :=
    readBack.short (by decide +kernel)
  exact ⟨reversed, (handleAC_readBack.1 _).1, fits, (readBack.limited ∅).mpr fits⟩

/-- An action longer than the body limit in front of a hosted game. -/
def longAction : Assignment
  | .action => List.replicate (2 ^ 20) 65
  | .gameID => ascii "0010E200"
  | _ => []

theorem longAction_not_recovered :
    ACField.all.Perm ACField.all ∧
      decodedFields ⟨∅, longAction.body ACField.all, false⟩ ≠ some longAction.fields ∧
      (decodedFields ⟨∅, longAction.body ACField.all, false⟩).map ACFields.gameID = some [] := by
  have long : bodyLimit < (longAction.written .action).length := by
    rw [length_written, length_ninB64Encode, longAction, List.length_replicate, bodyLimit]
    omega
  have cutOff : readField ((longAction.body ACField.all).take bodyLimit) .gameID = [] := by
    rw [ACField.all, readField_take_body_cons, if_neg (by decide),
      Nat.sub_eq_zero_of_le (by omega), List.take_zero, readField_nil]
  have decoded : (decodedFields ⟨∅, longAction.body ACField.all, false⟩).map ACFields.gameID =
      some [] := by
    have read : readBody ⟨∅, longAction.body ACField.all, false⟩ =
        some ((longAction.body ACField.all).take bodyLimit) := if_neg (by simp)
    have gameRead : ∀ text, (acFields (parseQuery text).values).gameID =
        readField text .gameID := fun _ => rfl
    rw [decodedFields, read, Option.bind_some, if_pos (parseQuery_body_ok _ _ _),
      Option.map_some, gameRead, cutOff]
  refine ⟨List.Perm.refl _, ?_, decoded⟩
  intro recovered
  have given : longAction.fields.gameID = ascii "0010E200" := rfl
  rw [recovered, Option.map_some, given] at decoded
  exact absurd decoded (by decide)

end CommunityServers.Nasc
