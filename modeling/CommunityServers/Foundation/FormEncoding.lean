import CommunityServers.Foundation.Bytes

/-!
Contract: form decoding and encoding of key-value pairs.

Owns:
- percent escapes, `queryEscape` and `queryUnescape`;
- `parseQuery`, which keeps every well-formed pair and reports whether all were;
- `encodeValues`, which writes pairs sorted by key with both sides escaped;
- that unescaping undoes escaping, and which bytes pass through unescaped.

Does not own: media types, size limits, or where a body comes from.
-/

set_option autoImplicit false

namespace CommunityServers.Foundation

/-- `strings.Cut` at one byte: the text before and after its first occurrence,
or the whole text and nothing. -/
def cut (separator : UInt8) : Bytes → Bytes × Bytes
  | [] => ([], [])
  | byte :: rest =>
      if byte = separator then ([], rest)
      else ((byte :: (cut separator rest).1), (cut separator rest).2)

def hexDigit (value : Nat) : UInt8 :=
  if value < 10 then UInt8.ofNat (48 + value) else UInt8.ofNat (55 + value)

def unhex (byte : UInt8) : Option Nat :=
  if 48 ≤ byte ∧ byte ≤ 57 then some (byte.toNat - 48)
  else if 97 ≤ byte ∧ byte ≤ 102 then some (byte.toNat - 87)
  else if 65 ≤ byte ∧ byte ≤ 70 then some (byte.toNat - 55)
  else none

/-- Letters, digits and `-`, `_`, `.`, `~`. -/
def isUnreserved (byte : UInt8) : Bool :=
  (65 ≤ byte && byte ≤ 90) || (97 ≤ byte && byte ≤ 122) || (48 ≤ byte && byte ≤ 57) ||
    byte == 45 || byte == 95 || byte == 46 || byte == 126

/-- One byte with every byte but the unreserved ones written as `%XX`. -/
def escapeByte (byte : UInt8) : Bytes :=
  if isUnreserved byte then [byte]
  else [37, hexDigit (byte.toNat / 16), hexDigit (byte.toNat % 16)]

def queryEscape (text : Bytes) : Bytes :=
  text.flatMap fun byte => if byte = 32 then [43] else escapeByte byte

/-- `%XX` becomes its byte, `+` a space; a malformed escape is an error. -/
def queryUnescape : Bytes → Option Bytes
  | [] => some []
  | byte :: rest =>
      if byte = 37 then
        match rest with
        | high :: low :: tail =>
            match unhex high, unhex low with
            | some h, some l =>
                (queryUnescape tail).map (UInt8.ofNat (h * 16 + l) :: ·)
            | _, _ => none
        | _ => none
      else
        (queryUnescape rest).map ((if byte = 43 then 32 else byte) :: ·)

/-- Key-value pairs in the order in which they were read. -/
abbrev Values := List (Bytes × Bytes)

/-- The first value of a key, or the empty string. -/
def Values.get (values : Values) (key : Bytes) : Bytes :=
  ((values.find? fun pair => pair.1 = key).map Prod.snd).getD []

structure ParsedQuery where
  values : Values
  ok : Bool
deriving DecidableEq

/-- One `&`-separated segment: nothing, a pair, or an error. -/
def parsePair (segment : Bytes) : Option (Option (Bytes × Bytes)) :=
  if 59 ∈ segment then none
  else if segment = [] then some none
  else
    match queryUnescape (cut 61 segment).1, queryUnescape (cut 61 segment).2 with
    | some key, some value => some (some (key, value))
    | _, _ => none

def parseQuery (query : Bytes) : ParsedQuery :=
  let pairs := (query.splitOn 38).map parsePair
  ⟨pairs.filterMap fun pair => pair.join, pairs.all Option.isSome⟩

def encodePair (pair : Bytes × Bytes) : Bytes :=
  queryEscape pair.1 ++ 61 :: queryEscape pair.2

/-- Pairs sorted by key, escaped, and joined with `&`. -/
def encodeValues (values : Values) : Bytes :=
  [38].intercalate
    ((values.insertionSort fun left right => left.1 ≤ right.1).map encodePair)

/-! ### Escapes -/

theorem unhex_hexDigit {value : Nat} (small : value < 16) :
    unhex (hexDigit value) = some value := by
  have each : ∀ digit < 16, unhex (hexDigit digit) = some digit := by decide
  exact each value small

theorem unreserved_ne {byte : UInt8} (unreserved : isUnreserved byte = true) :
    byte ≠ 37 ∧ byte ≠ 43 ∧ byte ≠ 38 ∧ byte ≠ 59 ∧ byte ≠ 61 := by
  refine ⟨?_, ?_, ?_, ?_, ?_⟩ <;> intro equal <;> subst equal <;>
    exact absurd unreserved (by decide)

theorem hexDigit_unreserved {value : Nat} (small : value < 16) :
    isUnreserved (hexDigit value) = true := by
  have each : ∀ digit < 16, isUnreserved (hexDigit digit) = true := by decide
  exact each value small

/-- A byte that is neither `%` nor `+` stands for itself. -/
theorem queryUnescape_cons {byte : UInt8} (notPercent : byte ≠ 37) (notPlus : byte ≠ 43)
    (rest : Bytes) :
    queryUnescape (byte :: rest) = (queryUnescape rest).map (byte :: ·) := by
  rw [queryUnescape.eq_def]
  simp only [if_neg notPercent, if_neg notPlus]

/-- An escaped byte is read back. -/
theorem queryUnescape_escapeByte (byte : UInt8) (rest : Bytes) :
    queryUnescape (escapeByte byte ++ rest) = (queryUnescape rest).map (byte :: ·) := by
  unfold escapeByte
  split
  next unreserved =>
    have different := unreserved_ne unreserved
    exact queryUnescape_cons different.1 different.2.1 rest
  next =>
    have bounded : byte.toNat < 256 := byte.toNat_lt
    have high : byte.toNat / 16 < 16 := by omega
    have low : byte.toNat % 16 < 16 := by omega
    have whole : byte.toNat / 16 * 16 + byte.toNat % 16 = byte.toNat := by omega
    simp [queryUnescape, unhex_hexDigit high, unhex_hexDigit low, whole]

theorem queryUnescape_flatMap_escapeByte (text rest : Bytes) :
    queryUnescape (text.flatMap escapeByte ++ rest) =
      (queryUnescape rest).map (text ++ ·) := by
  induction text with
  | nil => simp
  | cons byte tail inductionHypothesis =>
      rw [List.flatMap_cons, List.append_assoc, queryUnescape_escapeByte,
        inductionHypothesis, Option.map_map]
      rfl

/-- Text without `%` and `+` is its own unescaping. -/
theorem queryUnescape_plain {text : Bytes} (noPercent : 37 ∉ text) (noPlus : 43 ∉ text) :
    queryUnescape text = some text := by
  induction text with
  | nil => rfl
  | cons byte tail inductionHypothesis =>
      rw [List.mem_cons, not_or] at noPercent noPlus
      rw [queryUnescape_cons (Ne.symm noPercent.1) (Ne.symm noPlus.1),
        inductionHypothesis noPercent.2 noPlus.2]
      rfl

/-- Escaped text holds no separator. -/
theorem mem_flatMap_escapeByte {byte : UInt8} {text : Bytes}
    (member : byte ∈ text.flatMap escapeByte) : byte = 37 ∨ isUnreserved byte = true := by
  obtain ⟨source, -, inEscape⟩ := List.mem_flatMap.mp member
  unfold escapeByte at inEscape
  split at inEscape
  next unreserved =>
    rw [List.mem_singleton] at inEscape
    exact Or.inr (inEscape ▸ unreserved)
  next =>
    have bounded : source.toNat < 256 := source.toNat_lt
    simp only [List.mem_cons, List.not_mem_nil, or_false] at inEscape
    rcases inEscape with percent | high | low
    · exact Or.inl percent
    · exact Or.inr (high ▸ hexDigit_unreserved (by omega))
    · exact Or.inr (low ▸ hexDigit_unreserved (by omega))

/-! ### Segments -/

theorem cut_append {separator : UInt8} {left : Bytes} (absent : separator ∉ left)
    (right : Bytes) : cut separator (left ++ separator :: right) = (left, right) := by
  induction left with
  | nil => simp [cut]
  | cons byte tail inductionHypothesis =>
      rw [List.mem_cons, not_or] at absent
      simp [cut, Ne.symm absent.1, inductionHypothesis absent.2]

theorem cut_of_notMem {separator : UInt8} {text : Bytes} (absent : separator ∉ text) :
    cut separator text = (text, []) := by
  induction text with
  | nil => rfl
  | cons byte tail inductionHypothesis =>
      rw [List.mem_cons, not_or] at absent
      simp [cut, Ne.symm absent.1, inductionHypothesis absent.2]

/-- A segment `key=value` is read as the pair its two sides unescape to. -/
theorem parsePair_eq {left right key value : Bytes} (noEquals : 61 ∉ left)
    (noSemicolon : 59 ∉ left ++ 61 :: right) (keyRead : queryUnescape left = some key)
    (valueRead : queryUnescape right = some value) :
    parsePair (left ++ 61 :: right) = some (some (key, value)) := by
  unfold parsePair
  rw [if_neg noSemicolon, if_neg (by simp), cut_append noEquals, keyRead, valueRead]

theorem get_cons (pair : Bytes × Bytes) (rest : Values) (key : Bytes) :
    Values.get (pair :: rest) key = if pair.1 = key then pair.2 else rest.get key := by
  unfold Values.get
  by_cases found : pair.1 = key
  · rw [List.find?_cons_of_pos (by simpa using found), if_pos found]
    rfl
  · rw [List.find?_cons_of_neg (by simpa using found), if_neg found]

/-- Values with different keys are what a lookup of each key finds. -/
theorem map_get_keys {values : Values} (distinct : (values.map Prod.fst).Nodup) :
    (values.map Prod.fst).map (fun key => (key, values.get key)) = values := by
  induction values with
  | nil => rfl
  | cons pair rest inductionHypothesis =>
      obtain ⟨fresh, restDistinct⟩ := List.nodup_cons.mp distinct
      have others : (rest.map Prod.fst).map (fun key => (key, Values.get (pair :: rest) key)) =
          (rest.map Prod.fst).map fun key => (key, Values.get rest key) := by
        apply List.map_congr_left
        intro key member
        have other : pair.1 ≠ key := by
          rintro rfl
          exact fresh member
        rw [get_cons, if_neg other]
      rw [List.map_cons, List.map_cons, others, inductionHypothesis restDistinct, get_cons,
        if_pos rfl]

theorem notMem_get {byte : UInt8} {values : Values} (absent : ∀ pair ∈ values, byte ∉ pair.2)
    (key : Bytes) : byte ∉ values.get key := by
  induction values with
  | nil => exact List.not_mem_nil
  | cons pair rest inductionHypothesis =>
      obtain ⟨absentFirst, absentRest⟩ := List.forall_mem_cons.mp absent
      rw [get_cons]
      split
      · exact absentFirst
      · exact inductionHypothesis absentRest

/-- The segment before the first `&` is read on its own. -/
theorem parseQuery_append {segment : Bytes} (oneSegment : 38 ∉ segment) (rest : Bytes) :
    parseQuery (segment ++ 38 :: rest) =
      ⟨(parsePair segment).join.toList ++ (parseQuery rest).values,
        (parsePair segment).isSome && (parseQuery rest).ok⟩ := by
  unfold parseQuery
  rw [List.splitOn_append_cons_self_of_not_mem oneSegment]
  cases read : (parsePair segment).join <;> simp [read]

theorem parseQuery_segment {segment : Bytes} (oneSegment : 38 ∉ segment) :
    parseQuery segment = ⟨(parsePair segment).join.toList, (parsePair segment).isSome⟩ := by
  unfold parseQuery
  rw [List.splitOn_eq_singleton oneSegment]
  cases read : (parsePair segment).join <;> simp [read]

end CommunityServers.Foundation
