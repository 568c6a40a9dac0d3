import Mathlib.Data.Nat.Digits.Lemmas

/-!
Contract: byte strings and their decimal numbers.

Owns:
- `Bytes`, the strings of a language whose strings are byte sequences, and
  `ascii`, which writes a literal as one;
- `formatUint`, `parseUint` and `atoi`, base-ten formatting and bounded parsing,
  and the numbers that parsing returns to a caller that ignores its errors;
- the round trip between them and the injectivity of formatting.

Does not own: Unicode, whitespace or any other number base.
-/

set_option autoImplicit false

namespace CommunityServers.Foundation

/-- A string as its bytes. -/
abbrev Bytes := List UInt8

/-- The bytes of an ASCII literal. -/
def ascii (literal : String) : Bytes :=
  literal.toList.map fun character => UInt8.ofNat character.toNat

def isDigit (byte : UInt8) : Bool := 48 ≤ byte && byte ≤ 57

def digitByte (digit : Nat) : UInt8 := UInt8.ofNat (48 + digit)

/-- Base-ten text of a number, without sign or leading zeros. -/
def formatUint (value : Nat) : Bytes :=
  if value = 0 then [48] else (Nat.digits 10 value).reverse.map digitByte

/-- Value of a digit string, read most significant digit first. -/
def digitsValue (text : Bytes) : Nat :=
  text.foldl (fun total byte => total * 10 + (byte.toNat - 48)) 0

/-- Base-ten parsing that fails on the empty string, on any byte that is not a
digit, and on a value that does not fit in `bitSize` bits. -/
def parseUint (bitSize : Nat) (text : Bytes) : Option Nat :=
  if text ≠ [] ∧ text.all isDigit = true ∧ digitsValue text < 2 ^ bitSize then
    some (digitsValue text)
  else
    none

/-- The digits that follow a number read so far. The first byte that is not a
digit makes the number zero, the first digit that makes it too large the largest
one, whatever comes after. -/
def uintValueFrom (bitSize : Nat) : Nat → Bytes → Nat
  | value, [] => value
  | value, byte :: rest =>
      if isDigit byte then
        if value * 10 + (byte.toNat - 48) < 2 ^ bitSize then
          uintValueFrom bitSize (value * 10 + (byte.toNat - 48)) rest
        else 2 ^ bitSize - 1
      else 0

/-- The number that bounded parsing returns, next to an error or without one. -/
def uintValue (bitSize : Nat) (text : Bytes) : Nat := uintValueFrom bitSize 0 text

/-- The number that parsing with an optional sign returns, next to an error or
without one. -/
def atoiValue : Bytes → Int
  | 43 :: digits => min (uintValue 64 digits : Int) (2 ^ 63 - 1)
  | 45 :: digits => -(min (uintValue 64 digits : Int) (2 ^ 63))
  | digits => min (uintValue 64 digits : Int) (2 ^ 63 - 1)

/-- Base-ten parsing of a 64-bit number with an optional sign. -/
def atoi : Bytes → Option Int
  | 43 :: digits => (parseUint 63 digits).map fun value => (value : Int)
  | 45 :: digits =>
      (parseUint 64 digits).bind fun value =>
        if value ≤ 2 ^ 63 then some (-(value : Int)) else none
  | digits => (parseUint 63 digits).map fun value => (value : Int)

theorem parseUint_eq_some {bitSize value : Nat} {text : Bytes} :
    parseUint bitSize text = some value ↔
      text ≠ [] ∧ text.all isDigit = true ∧ digitsValue text = value ∧
        value < 2 ^ bitSize := by
  unfold parseUint
  split
  next accepted =>
    simp only [Option.some.injEq]
    constructor
    · rintro rfl
      exact ⟨accepted.1, accepted.2.1, rfl, accepted.2.2⟩
    · exact fun parsed => parsed.2.2.1
  next rejected =>
    constructor
    · intro impossible
      cases impossible
    · rintro ⟨nonempty, digits, rfl, bounded⟩
      exact absurd ⟨nonempty, digits, bounded⟩ rejected

/-! ### Digits -/

theorem digitByte_toNat {digit : Nat} (small : digit < 10) :
    (digitByte digit).toNat = 48 + digit := by
  simp only [digitByte, UInt8.toNat_ofNat']
  omega

theorem isDigit_digitByte {digit : Nat} (small : digit < 10) :
    isDigit (digitByte digit) = true := by
  have value := digitByte_toNat small
  simp only [isDigit, UInt8.le_iff_toNat_le, value, Bool.and_eq_true,
    decide_eq_true_eq]
  constructor
  · show 48 ≤ 48 + digit
    omega
  · show 48 + digit ≤ 57
    omega

theorem digitsValue_append_singleton (text : Bytes) (byte : UInt8) :
    digitsValue (text ++ [byte]) = digitsValue text * 10 + (byte.toNat - 48) := by
  simp [digitsValue, List.foldl_append]

theorem digitsValue_map_reverse (digits : List Nat)
    (small : ∀ digit ∈ digits, digit < 10) :
    digitsValue (digits.reverse.map digitByte) = Nat.ofDigits 10 digits := by
  induction digits with
  | nil => rfl
  | cons digit rest inductionHypothesis =>
      have headSmall := small digit (by simp)
      have tailSmall : ∀ other ∈ rest, other < 10 :=
        fun other member => small other (List.mem_cons_of_mem digit member)
      rw [List.reverse_cons, List.map_append, List.map_singleton,
        digitsValue_append_singleton, inductionHypothesis tailSmall,
        digitByte_toNat headSmall, Nat.ofDigits_cons]
      omega

/-! ### Round trip -/

theorem formatUint_ne_nil (value : Nat) : formatUint value ≠ [] := by
  unfold formatUint
  split
  next => simp
  next positive => simp [Nat.digits_eq_nil_iff_eq_zero, positive]

theorem formatUint_isDigit (value : Nat) :
    ∀ byte ∈ formatUint value, isDigit byte = true := by
  intro byte member
  unfold formatUint at member
  split at member
  next =>
    rw [List.mem_singleton] at member
    rw [member]
    decide
  next =>
    simp only [List.mem_map, List.mem_reverse] at member
    obtain ⟨digit, inDigits, rfl⟩ := member
    exact isDigit_digitByte (Nat.digits_lt_base (by decide) inDigits)

@[simp] theorem digitsValue_formatUint (value : Nat) :
    digitsValue (formatUint value) = value := by
  unfold formatUint
  split
  next zero =>
    rw [zero]
    decide
  next =>
    rw [digitsValue_map_reverse _ (fun _ member => Nat.digits_lt_base (by decide) member),
      Nat.ofDigits_digits]

/-- **Round trip.** A formatted number parses back to itself. -/
theorem parseUint_formatUint {bitSize value : Nat} (bounded : value < 2 ^ bitSize) :
    parseUint bitSize (formatUint value) = some value := by
  rw [parseUint_eq_some]
  refine ⟨formatUint_ne_nil value, ?_, digitsValue_formatUint value, bounded⟩
  rw [List.all_eq_true]
  exact formatUint_isDigit value

theorem uintValueFrom_digits {bitSize : Nat} {text : Bytes} (digits : text.all isDigit = true)
    (value : Nat)
    (bounded : text.foldl (fun total byte => total * 10 + (byte.toNat - 48)) value <
      2 ^ bitSize) :
    uintValueFrom bitSize value text =
      text.foldl (fun total byte => total * 10 + (byte.toNat - 48)) value := by
  induction text generalizing value with
  | nil => rfl
  | cons byte rest inductionHypothesis =>
      rw [List.all_cons, Bool.and_eq_true] at digits
      have grows : ∀ (tail : Bytes) (start : Nat),
          start ≤ tail.foldl (fun total byte => total * 10 + (byte.toNat - 48)) start := by
        intro tail
        induction tail with
        | nil => exact fun start => Nat.le_refl start
        | cons next others tailHypothesis =>
            intro start
            have later := tailHypothesis (start * 10 + (next.toNat - 48))
            rw [List.foldl_cons]
            omega
      have small : value * 10 + (byte.toNat - 48) < 2 ^ bitSize :=
        Nat.lt_of_le_of_lt (grows rest _) bounded
      rw [uintValueFrom, if_pos digits.1, if_pos small, List.foldl_cons]
      exact inductionHypothesis digits.2 _ bounded

/-- Where parsing succeeds, the number is the parsed one. -/
theorem uintValue_eq_of_parseUint {bitSize value : Nat} {text : Bytes}
    (parsed : parseUint bitSize text = some value) : uintValue bitSize text = value := by
  obtain ⟨-, digits, rfl, bounded⟩ := parseUint_eq_some.mp parsed
  exact uintValueFrom_digits digits 0 bounded

theorem uintValue_formatUint {bitSize value : Nat} (bounded : value < 2 ^ bitSize) :
    uintValue bitSize (formatUint value) = value :=
  uintValue_eq_of_parseUint (parseUint_formatUint bounded)

theorem atoi_formatUint {value : Nat} (bounded : value < 2 ^ 63) :
    atoi (formatUint value) = some (value : Int) := by
  rcases formatted : formatUint value with _ | ⟨first, rest⟩
  · exact absurd formatted (formatUint_ne_nil value)
  · have digit := formatUint_isDigit value first (by rw [formatted]; exact List.mem_cons_self)
    have notPlus : first ≠ 43 := by
      rintro rfl
      cases digit
    have notMinus : first ≠ 45 := by
      rintro rfl
      cases digit
    rw [atoi, ← formatted, parseUint_formatUint bounded]
    · rfl
    · rintro digits sign
      exact notPlus (List.cons.inj sign).1
    · rintro digits sign
      exact notMinus (List.cons.inj sign).1

theorem formatUint_injective : Function.Injective formatUint := by
  intro left right equal
  rw [← digitsValue_formatUint left, equal, digitsValue_formatUint]

theorem formatUint_length_le {value width : Nat} (positive : 0 < width)
    (small : value < 10 ^ width) : (formatUint value).length ≤ width := by
  unfold formatUint
  split
  next => exact positive
  next =>
    rw [List.length_map, List.length_reverse]
    exact (Nat.digits_length_le_iff (by decide) value).mpr small

/-- A byte that is not a digit does not occur in a formatted number. -/
theorem notMem_formatUint {byte : UInt8} (value : Nat) (other : isDigit byte = false) :
    byte ∉ formatUint value := by
  intro member
  rw [formatUint_isDigit value byte member] at other
  cases other

/-- Two separated pairs are equal only when both parts are, as long as the
separator occurs in neither left part. -/
theorem append_separator_inj {left left' right right' : Bytes} {separator : UInt8}
    (absent : separator ∉ left) (absent' : separator ∉ left')
    (equal : left ++ separator :: right = left' ++ separator :: right') :
    left = left' ∧ right = right' := by
  induction left generalizing left' with
  | nil =>
      cases left' with
      | nil => exact ⟨rfl, (List.cons.inj equal).2⟩
      | cons head tail =>
          have heads := (List.cons.inj equal).1
          exact absurd (heads ▸ List.mem_cons_self) absent'
  | cons head tail inductionHypothesis =>
      cases left' with
      | nil =>
          have heads := (List.cons.inj equal).1
          exact absurd (heads ▸ List.mem_cons_self) absent
      | cons head' tail' =>
          obtain ⟨rfl, tails⟩ := List.cons.inj equal
          have parts := inductionHypothesis
            (fun member => absent (List.mem_cons_of_mem head member))
            (fun member => absent' (List.mem_cons_of_mem head member)) tails
          exact ⟨congrArg (head :: ·) parts.1, parts.2⟩

end CommunityServers.Foundation
