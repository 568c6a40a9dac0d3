import CommunityServers.Foundation.Bytes

/-!
Contract: Unicode white space around and between the words of a byte string.

Owns:
- the one-, two- and three-byte encodings of the white-space characters;
- `trimSpace`, which removes them from both ends, and `fields`, which splits a
  text at them;
- that a text with other bytes at both ends is left as it is, and that a
  trimmed text is a part of the text without such bytes at its ends;
- that words with a space before each are the fields of their text.

Does not own: validation of the rest of the text, which may be any bytes.
-/

set_option autoImplicit false

namespace CommunityServers.Foundation

/-- Tab, line feed, vertical tab, form feed, carriage return and space. -/
def isSpaceOne (byte : UInt8) : Bool := (9 ≤ byte && byte ≤ 13) || byte == 32

/-- U+0085 and U+00A0. -/
def isSpaceTwo (first second : UInt8) : Bool :=
  first == 0xC2 && (second == 0x85 || second == 0xA0)

/-- U+1680, U+2000 to U+200A, U+2028, U+2029, U+202F, U+205F and U+3000. -/
def isSpaceThree (first second third : UInt8) : Bool :=
  (first == 0xE1 && second == 0x9A && third == 0x80) ||
  (first == 0xE2 && second == 0x80 &&
    ((0x80 ≤ third && third ≤ 0x8A) || third == 0xA8 || third == 0xA9 || third == 0xAF)) ||
  (first == 0xE2 && second == 0x81 && third == 0x9F) ||
  (first == 0xE3 && second == 0x80 && third == 0x80)

/-- Drops every leading sequence that one of the tests accepts. -/
def dropEncoded (one : UInt8 → Bool) (two : UInt8 → UInt8 → Bool)
    (three : UInt8 → UInt8 → UInt8 → Bool) : Bytes → Bytes
  | [] => []
  | first :: rest =>
      if one first then dropEncoded one two three rest
      else
        match rest with
        | [] => [first]
        | second :: rest =>
            if two first second then dropEncoded one two three rest
            else
              match rest with
              | [] => [first, second]
              | third :: rest =>
                  if three first second third then dropEncoded one two three rest
                  else first :: second :: third :: rest

def trimLeft (text : Bytes) : Bytes :=
  dropEncoded isSpaceOne isSpaceTwo isSpaceThree text

def trimRight (text : Bytes) : Bytes :=
  (dropEncoded isSpaceOne (fun last first => isSpaceTwo first last)
    (fun last middle first => isSpaceThree first middle last) text.reverse).reverse

def trimSpace (text : Bytes) : Bytes := trimRight (trimLeft text)

/-- How many bytes the white-space character at the start of a text has; zero
when there is none. -/
def spaceWidth : Bytes → Nat
  | [] => 0
  | first :: rest =>
      if isSpaceOne first then 1
      else
        match rest with
        | [] => 0
        | second :: rest =>
            if isSpaceTwo first second then 2
            else
              match rest with
              | [] => 0
              | third :: _ => if isSpaceThree first second third then 3 else 0

/-- The pieces between white-space characters, after a piece read so far and with
some bytes of a white-space character still to skip. -/
def piecesFrom : Nat → Bytes → Bytes → List Bytes
  | _, piece, [] => [piece]
  | skip + 1, piece, _ :: rest => piecesFrom skip piece rest
  | 0, piece, first :: rest =>
      match spaceWidth (first :: rest) with
      | 0 => piecesFrom 0 (piece ++ [first]) rest
      | width + 1 => piece :: piecesFrom width [] rest

/-- `strings.Fields`. -/
def fields (text : Bytes) : List Bytes := (piecesFrom 0 [] text).filter fun piece => piece ≠ []

theorem dropEncoded_of_head {one : UInt8 → Bool} {two : UInt8 → UInt8 → Bool}
    {three : UInt8 → UInt8 → UInt8 → Bool} {first : UInt8} (rest : Bytes)
    (notOne : one first = false) (notTwo : ∀ second, two first second = false)
    (notThree : ∀ second third, three first second third = false) :
    dropEncoded one two three (first :: rest) = first :: rest := by
  cases rest with
  | nil => simp [dropEncoded, notOne]
  | cons second rest =>
      cases rest with
      | nil => simp [dropEncoded, notOne, notTwo]
      | cons third rest => simp [dropEncoded, notOne, notTwo, notThree]

/-- An ASCII byte other than the six spaces neither starts nor ends a
white-space character. -/
def isPlain (byte : UInt8) : Bool := byte < 0x80 && !isSpaceOne byte

theorem isPlain_first {byte : UInt8} (plain : isPlain byte = true) :
    isSpaceOne byte = false ∧ (∀ second, isSpaceTwo byte second = false) ∧
      ∀ second third, isSpaceThree byte second third = false := by
  simp only [isPlain, Bool.and_eq_true, decide_eq_true_eq, Bool.not_eq_true'] at plain
  refine ⟨plain.2, ?_, ?_⟩ <;> intros <;> grind [isSpaceTwo, isSpaceThree]

theorem isPlain_last {byte : UInt8} (plain : isPlain byte = true) :
    (∀ first, isSpaceTwo first byte = false) ∧
      ∀ middle first, isSpaceThree first middle byte = false := by
  simp only [isPlain, Bool.and_eq_true, decide_eq_true_eq, Bool.not_eq_true'] at plain
  constructor <;> intros <;> grind [isSpaceTwo, isSpaceThree]

theorem trimLeft_of_plain {text : Bytes} (plain : ∀ byte ∈ text.head?, isPlain byte = true) :
    trimLeft text = text := by
  cases text with
  | nil => rfl
  | cons first rest =>
      have tests := isPlain_first (plain first rfl)
      exact dropEncoded_of_head rest tests.1 tests.2.1 tests.2.2

theorem trimRight_of_plain {text : Bytes}
    (plain : ∀ byte ∈ text.getLast?, isPlain byte = true) : trimRight text = text := by
  unfold trimRight
  cases reversed : text.reverse with
  | nil =>
      rw [List.reverse_eq_nil_iff] at reversed
      rw [reversed]
      rfl
  | cons last rest =>
      have isLast : text.getLast? = some last := by
        rw [List.getLast?_eq_head?_reverse, reversed]
        rfl
      have plainLast := plain last isLast
      have tests := isPlain_last plainLast
      rw [dropEncoded_of_head rest (isPlain_first plainLast).1 tests.1 tests.2, ← reversed,
        List.reverse_reverse]

/-- Text without white space at its ends is left as it is. -/
theorem trimSpace_of_plain {text : Bytes} (plain : ∀ byte ∈ text, isPlain byte = true) :
    trimSpace text = text := by
  unfold trimSpace
  rw [trimLeft_of_plain fun byte first => plain byte (List.mem_of_mem_head? first),
    trimRight_of_plain fun byte last => plain byte (List.mem_of_mem_getLast? last)]

theorem isPlain_of_isDigit {byte : UInt8} (digit : isDigit byte = true) :
    isPlain byte = true := by
  grind [isDigit, isPlain, isSpaceOne]

/-! ### What trimming leaves -/

theorem dropEncoded_suffix (one : UInt8 → Bool) (two : UInt8 → UInt8 → Bool)
    (three : UInt8 → UInt8 → UInt8 → Bool) (text : Bytes) :
    dropEncoded one two three text <:+ text := by
  fun_induction dropEncoded one two three text with
  | case1 | case3 | case5 | case7 => exact List.suffix_refl _
  | case2 first rest _ inductionHypothesis =>
      exact inductionHypothesis.trans (List.suffix_cons first rest)
  | case4 first _ second rest _ inductionHypothesis =>
      exact inductionHypothesis.trans (List.suffix_append [first, second] rest)
  | case6 first _ second _ third rest _ inductionHypothesis =>
      exact inductionHypothesis.trans (List.suffix_append [first, second, third] rest)

theorem dropEncoded_head {one : UInt8 → Bool} {two : UInt8 → UInt8 → Bool}
    {three : UInt8 → UInt8 → UInt8 → Bool} {text : Bytes} {byte : UInt8}
    (first : (dropEncoded one two three text).head? = some byte) : one byte = false := by
  fun_induction dropEncoded one two three text with
  | case1 => cases first
  | case2 _ _ _ inductionHypothesis | case4 _ _ _ _ _ inductionHypothesis
  | case6 _ _ _ _ _ _ _ inductionHypothesis => exact inductionHypothesis first
  | case3 head notOne | case5 head notOne | case7 head notOne =>
      obtain rfl := Option.some.inj first
      exact Bool.eq_false_of_not_eq_true notOne

theorem trimRight_isPrefix (text : Bytes) : trimRight text <+: text := by
  unfold trimRight
  apply List.reverse_suffix.mp
  rw [List.reverse_reverse]
  exact dropEncoded_suffix _ _ _ _

/-- Trimming only takes bytes from the ends. -/
theorem trimSpace_isInfix (text : Bytes) : trimSpace text <:+: text :=
  (trimRight_isPrefix (trimLeft text)).isInfix.trans (dropEncoded_suffix _ _ _ text).isInfix

/-- Trimmed text starts with no white space of one byte. -/
theorem trimSpace_head {text : Bytes} {byte : UInt8}
    (first : (trimSpace text).head? = some byte) : isSpaceOne byte = false := by
  obtain ⟨rest, whole⟩ := trimRight_isPrefix (trimLeft text)
  have kept : (trimLeft text).head? = some byte := by
    rw [← whole, List.head?_append]
    change (trimRight (trimLeft text)).head? = some byte at first
    rw [first]
    rfl
  exact dropEncoded_head kept

/-- Nor does it end with any. -/
theorem trimSpace_getLast {text : Bytes} {byte : UInt8}
    (last : (trimSpace text).getLast? = some byte) : isSpaceOne byte = false := by
  unfold trimSpace trimRight at last
  rw [List.getLast?_reverse] at last
  exact dropEncoded_head last

theorem trimSpace_cons_space (text : Bytes) : trimSpace (32 :: text) = trimSpace text := by
  have dropped : trimLeft (32 :: text) = trimLeft text := by
    unfold trimLeft
    rw [dropEncoded.eq_def]
    rfl
  unfold trimSpace
  rw [dropped]

example : trimSpace [32, 9, 97, 32, 98, 0xC2, 0xA0, 0xE2, 0x80, 0x8A, 10] = [97, 32, 98] := by
  decide

/-! ### Splitting -/

theorem spaceWidth_of_plain {first : UInt8} (plain : isPlain first = true) (rest : Bytes) :
    spaceWidth (first :: rest) = 0 := by
  obtain ⟨notOne, notTwo, notThree⟩ := isPlain_first plain
  cases rest with
  | nil => simp [spaceWidth, notOne]
  | cons second rest =>
      cases rest with
      | nil => simp [spaceWidth, notOne, notTwo]
      | cons third rest => simp [spaceWidth, notOne, notTwo, notThree]

theorem piecesFrom_append {word : Bytes} (plain : ∀ byte ∈ word, isPlain byte = true)
    (piece rest : Bytes) :
    piecesFrom 0 piece (word ++ rest) = piecesFrom 0 (piece ++ word) rest := by
  induction word generalizing piece with
  | nil => rw [List.nil_append, List.append_nil]
  | cons first others inductionHypothesis =>
      obtain ⟨plainFirst, plainOthers⟩ := List.forall_mem_cons.mp plain
      rw [List.cons_append, piecesFrom, spaceWidth_of_plain plainFirst]
      dsimp only
      rw [inductionHypothesis plainOthers, List.append_assoc, List.singleton_append]

theorem piecesFrom_spaced {words : List Bytes}
    (plain : ∀ word ∈ words, ∀ byte ∈ word, isPlain byte = true) (piece : Bytes) :
    piecesFrom 0 piece (words.flatMap fun word => 32 :: word) = piece :: words := by
  induction words generalizing piece with
  | nil => rfl
  | cons word others inductionHypothesis =>
      obtain ⟨plainWord, plainOthers⟩ := List.forall_mem_cons.mp plain
      have space : ∀ rest : Bytes, spaceWidth (32 :: rest) = 1 := fun _ => rfl
      rw [List.flatMap_cons, List.cons_append, piecesFrom, space]
      dsimp only
      rw [piecesFrom_append plainWord, List.nil_append, inductionHypothesis plainOthers]

/-- Words with a space before each are the fields of the text, the empty ones
apart. -/
theorem fields_spaced {first : Bytes} {words : List Bytes}
    (plainFirst : ∀ byte ∈ first, isPlain byte = true)
    (plain : ∀ word ∈ words, ∀ byte ∈ word, isPlain byte = true) :
    fields (first ++ words.flatMap fun word => 32 :: word) =
      (first :: words).filter fun word => word ≠ [] := by
  rw [fields, piecesFrom_append plainFirst, List.nil_append, piecesFrom_spaced plain]

example : fields [32, 97, 98, 0xE2, 0x80, 0x8A, 9, 99, 10] = [[97, 98], [99]] := by
  decide

end CommunityServers.Foundation
