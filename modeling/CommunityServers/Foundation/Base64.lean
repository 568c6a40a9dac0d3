import CommunityServers.Foundation.Bytes

/-!
Contract: the padded standard base64 encoding.

Owns:
- `encodeBase64` with padding and `decodeBase64`, which skips line ends,
  demands padding and ignores the unused low bits of a last digit;
- the round trip, and the bytes an encoding is made of;
- the length of an encoding, and a bound on that of what a text decodes to.

Does not own: URL-safe or unpadded alphabets.
-/

set_option autoImplicit false

namespace CommunityServers.Foundation

def encodeDigit (value : Nat) : UInt8 :=
  if value < 26 then UInt8.ofNat (65 + value)
  else if value < 52 then UInt8.ofNat (71 + value)
  else if value < 62 then UInt8.ofNat (value - 4)
  else if value = 62 then 43
  else 47

def decodeDigit (byte : UInt8) : Option Nat :=
  if 65 ≤ byte ∧ byte ≤ 90 then some (byte.toNat - 65)
  else if 97 ≤ byte ∧ byte ≤ 122 then some (byte.toNat - 71)
  else if 48 ≤ byte ∧ byte ≤ 57 then some (byte.toNat + 4)
  else if byte = 43 then some 62
  else if byte = 47 then some 63
  else none

/-- Three bytes become four digits; a rest of one or two is padded with `=`. -/
def encodeBase64 : Bytes → Bytes
  | first :: second :: third :: rest =>
      encodeDigit (first.toNat / 4) ::
      encodeDigit (first.toNat % 4 * 16 + second.toNat / 16) ::
      encodeDigit (second.toNat % 16 * 4 + third.toNat / 64) ::
      encodeDigit (third.toNat % 64) :: encodeBase64 rest
  | [first, second] =>
      [encodeDigit (first.toNat / 4),
        encodeDigit (first.toNat % 4 * 16 + second.toNat / 16),
        encodeDigit (second.toNat % 16 * 4), 61]
  | [first] =>
      [encodeDigit (first.toNat / 4), encodeDigit (first.toNat % 4 * 16), 61, 61]
  | [] => []

/-- Quanta of four digits, of which only the last may be padded. -/
def decodeQuanta : Bytes → Option Bytes
  | [] => some []
  | first :: second :: third :: fourth :: rest =>
      match decodeDigit first, decodeDigit second with
      | some a, some b =>
          match decodeDigit third with
          | some c =>
              match decodeDigit fourth with
              | some d =>
                  (decodeQuanta rest).map fun tail =>
                    UInt8.ofNat (a * 4 + b / 16) :: UInt8.ofNat (b % 16 * 16 + c / 4) ::
                      UInt8.ofNat (c % 4 * 64 + d) :: tail
              | none =>
                  if fourth = 61 ∧ rest = [] then
                    some [UInt8.ofNat (a * 4 + b / 16), UInt8.ofNat (b % 16 * 16 + c / 4)]
                  else none
          | none =>
              if third = 61 ∧ fourth = 61 ∧ rest = [] then
                some [UInt8.ofNat (a * 4 + b / 16)]
              else none
      | _, _ => none
  | _ => none

def decodeBase64 (text : Bytes) : Option Bytes :=
  decodeQuanta (text.filter fun byte => byte ≠ 10 ∧ byte ≠ 13)

/-! ### Digits -/

theorem decodeDigit_encodeDigit {value : Nat} (small : value < 64) :
    decodeDigit (encodeDigit value) = some value := by
  have each : ∀ digit < 64, decodeDigit (encodeDigit digit) = some digit := by decide
  exact each value small

theorem decodeDigit_pad : decodeDigit 61 = none := by decide

/-- The digits of the alphabet and the padding byte. -/
def isBase64Byte (byte : UInt8) : Bool := (decodeDigit byte).isSome || byte == 61

theorem isBase64Byte_encodeDigit {value : Nat} (small : value < 64) :
    isBase64Byte (encodeDigit value) = true := by
  simp [isBase64Byte, decodeDigit_encodeDigit small]

theorem encodeBase64_isBase64Byte (bytes : Bytes) :
    ∀ byte ∈ encodeBase64 bytes, isBase64Byte byte = true := by
  have padding : isBase64Byte 61 = true := by decide
  fun_induction encodeBase64 bytes with
  | case1 first second third rest inductionHypothesis =>
      have firstSmall : first.toNat < 256 := first.toNat_lt
      have secondSmall : second.toNat < 256 := second.toNat_lt
      have thirdSmall : third.toNat < 256 := third.toNat_lt
      simp only [List.forall_mem_cons]
      refine ⟨?_, ?_, ?_, ?_, inductionHypothesis⟩ <;> apply isBase64Byte_encodeDigit <;>
        omega
  | case2 first second =>
      have firstSmall : first.toNat < 256 := first.toNat_lt
      have secondSmall : second.toNat < 256 := second.toNat_lt
      simp only [List.forall_mem_cons]
      refine ⟨?_, ?_, ?_, padding, by simp⟩ <;> apply isBase64Byte_encodeDigit <;> omega
  | case3 first =>
      have firstSmall : first.toNat < 256 := first.toNat_lt
      simp only [List.forall_mem_cons]
      refine ⟨?_, ?_, padding, padding, by simp⟩ <;> apply isBase64Byte_encodeDigit <;> omega
  | case4 => simp

/-! ### Round trip -/

theorem decodeQuanta_encodeBase64 (bytes : Bytes) :
    decodeQuanta (encodeBase64 bytes) = some bytes := by
  fun_induction encodeBase64 bytes with
  | case1 first second third rest inductionHypothesis =>
      have firstSmall : first.toNat < 256 := first.toNat_lt
      have secondSmall : second.toNat < 256 := second.toNat_lt
      have thirdSmall : third.toNat < 256 := third.toNat_lt
      rw [decodeQuanta, decodeDigit_encodeDigit (by omega), decodeDigit_encodeDigit (by omega),
        decodeDigit_encodeDigit (by omega), decodeDigit_encodeDigit (by omega),
        inductionHypothesis]
      have one : first.toNat / 4 * 4 + (first.toNat % 4 * 16 + second.toNat / 16) / 16 =
          first.toNat := by omega
      have two : (first.toNat % 4 * 16 + second.toNat / 16) % 16 * 16 +
          (second.toNat % 16 * 4 + third.toNat / 64) / 4 = second.toNat := by omega
      have three : (second.toNat % 16 * 4 + third.toNat / 64) % 4 * 64 +
          third.toNat % 64 = third.toNat := by omega
      simp only [one, two, three, UInt8.ofNat_toNat, Option.map_some]
  | case2 first second =>
      have firstSmall : first.toNat < 256 := first.toNat_lt
      have secondSmall : second.toNat < 256 := second.toNat_lt
      rw [decodeQuanta, decodeDigit_encodeDigit (by omega), decodeDigit_encodeDigit (by omega),
        decodeDigit_encodeDigit (by omega), decodeDigit_pad]
      have one : first.toNat / 4 * 4 + (first.toNat % 4 * 16 + second.toNat / 16) / 16 =
          first.toNat := by omega
      have two : (first.toNat % 4 * 16 + second.toNat / 16) % 16 * 16 +
          second.toNat % 16 * 4 / 4 = second.toNat := by omega
      simp only [one, two, UInt8.ofNat_toNat, and_self, if_true]
  | case3 first =>
      have firstSmall : first.toNat < 256 := first.toNat_lt
      rw [decodeQuanta, decodeDigit_encodeDigit (by omega), decodeDigit_encodeDigit (by omega),
        decodeDigit_pad]
      have one : first.toNat / 4 * 4 + first.toNat % 4 * 16 / 16 = first.toNat := by omega
      simp only [one, UInt8.ofNat_toNat, and_self, if_true]
  | case4 => rfl

/-- **Round trip.** Decoding undoes encoding. -/
theorem decodeBase64_encodeBase64 (bytes : Bytes) :
    decodeBase64 (encodeBase64 bytes) = some bytes := by
  have noLineEnd : ∀ byte ∈ encodeBase64 bytes, decide (byte ≠ 10 ∧ byte ≠ 13) = true := by
    intro byte member
    have inAlphabet := encodeBase64_isBase64Byte bytes byte member
    rw [decide_eq_true_eq]
    constructor <;> rintro rfl <;> exact absurd inAlphabet (by decide)
  unfold decodeBase64
  rw [List.filter_eq_self.mpr noLineEnd, decodeQuanta_encodeBase64]

/-! ### Lengths -/

theorem length_encodeBase64 (bytes : Bytes) :
    (encodeBase64 bytes).length = (bytes.length + 2) / 3 * 4 := by
  fun_induction encodeBase64 bytes with
  | case1 first second third rest inductionHypothesis =>
      simp only [List.length_cons, inductionHypothesis]
      omega
  | case2 first second => simp only [List.length_cons, List.length_nil]
  | case3 first => simp only [List.length_cons, List.length_nil]
  | case4 => simp only [List.length_nil]

theorem length_decodeQuanta_le {text decoded : Bytes} (read : decodeQuanta text = some decoded) :
    decoded.length ≤ text.length / 4 * 3 := by
  fun_induction decodeQuanta text generalizing decoded with
  | case1 => simp [← Option.some.inj read]
  | case2 first second third fourth rest a readA b readB c readC d readD inductionHypothesis =>
      obtain ⟨tail, readTail, rfl⟩ := Option.map_eq_some_iff.mp read
      have bound := inductionHypothesis readTail
      simp only [List.length_cons]
      omega
  | case3 | case5 =>
      cases read
      simp only [List.length_cons, List.length_nil]
      omega
  | case4 | case6 | case7 | case8 => cases read

theorem length_decodeBase64_le {text decoded : Bytes} (read : decodeBase64 text = some decoded) :
    decoded.length ≤ text.length / 4 * 3 := by
  have shorter := List.length_filter_le (fun byte => decide (byte ≠ 10 ∧ byte ≠ 13)) text
  have bound := length_decodeQuanta_le read
  omega

end CommunityServers.Foundation
