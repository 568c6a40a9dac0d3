import Mathlib.Tactic.Ring
import CommunityServers.Foundation.Bytes

/-!
Contract: fixed-width numbers, least significant byte first.

Owns:
- the bytes of a natural number at a width and the number that bytes stand for;
- their round trips, and the same for machine words of 16, 32 and 64 bits.

Does not own: signed numbers, floating point or big-endian order.
-/

set_option autoImplicit false

namespace CommunityServers.Foundation

/-- The `width` lowest bytes of a number, lowest first. -/
def leBytes : Nat → Nat → Bytes
  | 0, _ => []
  | width + 1, value => UInt8.ofNat value :: leBytes width (value / 256)

/-- The number that bytes stand for, lowest first. -/
def leValue : Bytes → Nat
  | [] => 0
  | byte :: rest => byte.toNat + 256 * leValue rest

@[simp] theorem leBytes_length (width value : Nat) : (leBytes width value).length = width := by
  induction width generalizing value with
  | zero => rfl
  | succ width inductionHypothesis =>
      rw [leBytes, List.length_cons, inductionHypothesis]

theorem leValue_leBytes (width value : Nat) :
    leValue (leBytes width value) = value % 256 ^ width := by
  induction width generalizing value with
  | zero => rw [leBytes, leValue, Nat.pow_zero, Nat.mod_one]
  | succ width inductionHypothesis =>
      have lowest : (UInt8.ofNat value).toNat = value % 256 := UInt8.toNat_ofNat'
      rw [leBytes, leValue, inductionHypothesis, lowest, Nat.pow_succ', Nat.mod_mul]

theorem leBytes_leValue (bytes : Bytes) : leBytes bytes.length (leValue bytes) = bytes := by
  induction bytes with
  | nil => rfl
  | cons byte rest inductionHypothesis =>
      have bounded := byte.toNat_lt
      have quotient : (byte.toNat + 256 * leValue rest) / 256 = leValue rest := by omega
      rw [List.length_cons, leBytes, leValue, quotient, inductionHypothesis]
      congr 1
      rw [← UInt8.toNat_inj, UInt8.toNat_ofNat']
      omega

/-- A number below the width's bound is the one read back. -/
theorem leValue_leBytes_of_lt {width value : Nat} (fits : value < 256 ^ width) :
    leValue (leBytes width value) = value := by
  rw [leValue_leBytes, Nat.mod_eq_of_lt fits]

theorem leBytes_mod (width value : Nat) :
    leBytes width (value % 256 ^ width) = leBytes width value := by
  have back := leBytes_leValue (leBytes width value)
  rwa [leBytes_length, leValue_leBytes] at back

/-! ### Machine words -/

section Words

variable {bytes : Bytes}

theorem ofNat_leValue_uint16 (value : UInt16) :
    UInt16.ofNat (leValue (leBytes 2 value.toNat)) = value := by
  rw [leValue_leBytes_of_lt value.toNat_lt, UInt16.ofNat_toNat]

theorem leBytes_ofNat_uint16 (width : bytes.length = 2) :
    leBytes 2 (UInt16.ofNat (leValue bytes)).toNat = bytes := by
  have word : (UInt16.ofNat (leValue bytes)).toNat = leValue bytes % 256 ^ 2 :=
    UInt16.toNat_ofNat'
  rw [word, leBytes_mod, ← width, leBytes_leValue]

theorem ofNat_leValue_uint32 (value : UInt32) :
    UInt32.ofNat (leValue (leBytes 4 value.toNat)) = value := by
  rw [leValue_leBytes_of_lt value.toNat_lt, UInt32.ofNat_toNat]

theorem leBytes_ofNat_uint32 (width : bytes.length = 4) :
    leBytes 4 (UInt32.ofNat (leValue bytes)).toNat = bytes := by
  have word : (UInt32.ofNat (leValue bytes)).toNat = leValue bytes % 256 ^ 4 :=
    UInt32.toNat_ofNat'
  rw [word, leBytes_mod, ← width, leBytes_leValue]

theorem ofNat_leValue_uint64 (value : UInt64) :
    UInt64.ofNat (leValue (leBytes 8 value.toNat)) = value := by
  rw [leValue_leBytes_of_lt value.toNat_lt, UInt64.ofNat_toNat]

theorem leBytes_ofNat_uint64 (width : bytes.length = 8) :
    leBytes 8 (UInt64.ofNat (leValue bytes)).toNat = bytes := by
  have word : (UInt64.ofNat (leValue bytes)).toNat = leValue bytes % 256 ^ 8 :=
    UInt64.toNat_ofNat'
  rw [word, leBytes_mod, ← width, leBytes_leValue]

end Words

end CommunityServers.Foundation
