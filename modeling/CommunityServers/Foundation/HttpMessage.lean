import CommunityServers.Foundation.FormEncoding
import CommunityServers.Foundation.Header
import CommunityServers.Foundation.Whitespace

/-!
Contract: the text of an HTTP request with a counted body.

Owns:
- `renderRequest`, which writes a request line, fields, a blank line and a body;
- `readRequest`, which reads them back and takes as many body bytes as
  `Content-Length` says;
- the round trip for lines without line ends and a true length.

Does not own: chunked bodies, several requests on one connection, or limits.
-/

set_option autoImplicit false

namespace CommunityServers.Foundation

structure RequestMessage where
  method : Bytes
  target : Bytes
  version : Bytes
  fields : List (Bytes × Bytes)
  body : Bytes
deriving DecidableEq

/-- The value of the first field with a name, compared in canonical form. -/
def fieldValue (fields : List (Bytes × Bytes)) (name : Bytes) : Bytes :=
  ((fields.find? fun field => canonicalKey field.1 = name).map Prod.snd).getD []

/-- One line without its line end, which may or may not have a carriage
return. -/
def readLine (text : Bytes) : Option (Bytes × Bytes) :=
  if 10 ∈ text then
    let line := (cut 10 text).1
    some (if line.getLast? = some 13 then line.dropLast else line, (cut 10 text).2)
  else none

/-- Field lines up to a blank line. The fuel bounds the number of lines. -/
def readFields : Nat → Bytes → Option (List (Bytes × Bytes) × Bytes)
  | 0, _ => none
  | fuel + 1, text =>
      match readLine text with
      | none => none
      | some (line, rest) =>
          if line = [] then some ([], rest)
          else
            (readFields fuel rest).map fun read =>
              (((cut 58 line).1, trimSpace (cut 58 line).2) :: read.1, read.2)

def readRequest (text : Bytes) : Option RequestMessage :=
  match readLine text with
  | none => none
  | some (line, rest) =>
      match readFields rest.length rest with
      | none => none
      | some (fields, body) =>
          match parseUint 63 (fieldValue fields (ascii "Content-Length")) with
          | none => none
          | some length =>
              if body.length < length then none
              else
                some ⟨(cut 32 line).1, (cut 32 (cut 32 line).2).1, (cut 32 (cut 32 line).2).2,
                  fields, body.take length⟩

def renderField (field : Bytes × Bytes) : Bytes :=
  field.1 ++ 58 :: 32 :: field.2 ++ [13, 10]

def renderRequest (message : RequestMessage) : Bytes :=
  message.method ++ 32 :: message.target ++ 32 :: message.version ++ [13, 10] ++
    message.fields.flatMap renderField ++ [13, 10] ++ message.body

theorem fieldValue_cons (field : Bytes × Bytes) (rest : List (Bytes × Bytes)) (name : Bytes) :
    fieldValue (field :: rest) name =
      if canonicalKey field.1 = name then field.2 else fieldValue rest name := by
  unfold fieldValue
  rw [List.find?_cons]
  by_cases found : canonicalKey field.1 = name
  · simp [found]
  · simp [found]

/-! ### Lines -/

theorem readLine_append {line : Bytes} (noLineFeed : 10 ∉ line) (rest : Bytes) :
    readLine (line ++ 13 :: 10 :: rest) = some (line, rest) := by
  have absent : 10 ∉ line ++ [13] := by
    rw [List.mem_append, not_or]
    exact ⟨noLineFeed, by decide⟩
  have parts : cut 10 (line ++ 13 :: 10 :: rest) = (line ++ [13], rest) := by
    have shape : line ++ 13 :: 10 :: rest = (line ++ [13]) ++ 10 :: rest := by simp
    rw [shape, cut_append absent]
  unfold readLine
  rw [if_pos (by simp), parts]
  simp

/-- A field that is read back as it was written. -/
structure WritableField (field : Bytes × Bytes) : Prop where
  nameColon : 58 ∉ field.1
  nameLine : 10 ∉ field.1
  valueLine : 10 ∉ field.2
  valueTrimmed : trimSpace field.2 = field.2

theorem readFields_render {fields : List (Bytes × Bytes)}
    (writable : ∀ field ∈ fields, WritableField field) (body : Bytes) {fuel : Nat}
    (enough : fields.length < fuel) :
    readFields fuel (fields.flatMap renderField ++ 13 :: 10 :: body) = some (fields, body) := by
  induction fields generalizing fuel with
  | nil =>
      obtain ⟨left, rfl⟩ := Nat.exists_eq_succ_of_ne_zero (Nat.ne_of_gt enough)
      have blank : readLine (13 :: 10 :: body) = some ([], body) :=
        readLine_append List.not_mem_nil body
      simp [readFields, blank]
  | cons field rest inductionHypothesis =>
      obtain ⟨left, rfl⟩ := Nat.exists_eq_succ_of_ne_zero
        (Nat.ne_of_gt (Nat.lt_of_le_of_lt (Nat.zero_le _) enough))
      have first := writable field List.mem_cons_self
      have others := inductionHypothesis
        (fun other member => writable other (List.mem_cons_of_mem field member))
        (Nat.lt_of_succ_lt_succ enough)
      have noLineFeed : 10 ∉ field.1 ++ 58 :: 32 :: field.2 := by
        simp only [List.mem_append, List.mem_cons, not_or]
        exact ⟨first.nameLine, by decide, by decide, first.valueLine⟩
      have line := readLine_append noLineFeed
        (rest.flatMap renderField ++ 13 :: 10 :: body)
      have shape : (field :: rest).flatMap renderField ++ 13 :: 10 :: body =
          (field.1 ++ 58 :: 32 :: field.2) ++
            13 :: 10 :: (rest.flatMap renderField ++ 13 :: 10 :: body) := by
        simp [renderField]
      rw [shape, readFields, line]
      dsimp only
      rw [if_neg (by simp), others, cut_append first.nameColon]
      dsimp only [Option.map_some]
      rw [trimSpace_cons_space, first.valueTrimmed]

/-! ### Round trip -/

/-- A request that is read back as it was written: nothing in it splits a line
early, and its length field is the length of its body. -/
structure WritableRequest (message : RequestMessage) : Prop where
  methodSpace : 32 ∉ message.method
  targetSpace : 32 ∉ message.target
  line : 10 ∉ message.method ++ 32 :: message.target ++ 32 :: message.version
  fields : ∀ field ∈ message.fields, WritableField field
  length : fieldValue message.fields (ascii "Content-Length") =
    formatUint message.body.length
  bounded : message.body.length < 2 ^ 63

theorem length_le_flatMap_renderField (fields : List (Bytes × Bytes)) :
    fields.length ≤ (fields.flatMap renderField).length := by
  induction fields with
  | nil => exact Nat.le_refl 0
  | cons field rest inductionHypothesis =>
      rw [List.flatMap_cons, List.length_append, List.length_cons]
      have size : (renderField field).length = field.1.length + (field.2.length + 4) := by
        simp [renderField]
      omega

/-- **Round trip.** A written request is read back whole. -/
theorem readRequest_renderRequest {message : RequestMessage}
    (writable : WritableRequest message) :
    readRequest (renderRequest message) = some message := by
  have shape : renderRequest message =
      (message.method ++ 32 :: message.target ++ 32 :: message.version) ++
        13 :: 10 :: (message.fields.flatMap renderField ++ 13 :: 10 :: message.body) := by
    simp [renderRequest]
  have enough : message.fields.length <
      (message.fields.flatMap renderField ++ 13 :: 10 :: message.body).length := by
    have few := length_le_flatMap_renderField message.fields
    rw [List.length_append, List.length_cons, List.length_cons]
    omega
  have methodPart : cut 32 (message.method ++ 32 :: message.target ++ 32 :: message.version) =
      (message.method, message.target ++ 32 :: message.version) := by
    rw [List.append_assoc, List.cons_append, cut_append writable.methodSpace]
  unfold readRequest
  rw [shape, readLine_append writable.line]
  dsimp only
  rw [readFields_render writable.fields message.body enough]
  dsimp only
  rw [writable.length, parseUint_formatUint writable.bounded]
  dsimp only
  rw [if_neg (Nat.lt_irrefl _), methodPart, cut_append writable.targetSpace,
    List.take_length]

end CommunityServers.Foundation
