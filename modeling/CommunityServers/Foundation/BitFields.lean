import Mathlib.Data.Nat.Bitwise

/-!
Contract: two fields in one machine word.

Owns:
- a low field joined by `|||` with a high field shifted past it, and that
  masking and shifting take the two fields out again;
- the same for words of 16 and 32 bits;
- setting and clearing the bits of a mask.

Does not own: which fields a format has.
-/

set_option autoImplicit false

namespace CommunityServers.Foundation

section Naturals

variable {bits width low high : Nat}

theorem or_shiftLeft_eq_add (lowFits : low < 2 ^ width) (high : Nat) :
    low ||| high <<< width = high * 2 ^ width + low := by
  rw [Nat.or_comm, ← Nat.shiftLeft_add_eq_or_of_lt lowFits, Nat.shiftLeft_eq]

/-- The high field, kept in the word, is the low bits of it shifted. -/
theorem shiftLeft_mod (inside : width ≤ bits) (high : Nat) :
    high <<< width % 2 ^ bits = (high % 2 ^ (bits - width)) <<< width := by
  have split : 2 ^ bits = 2 ^ (bits - width) * 2 ^ width := by
    rw [← Nat.pow_add, Nat.sub_add_cancel inside]
  rw [Nat.shiftLeft_eq, Nat.shiftLeft_eq, split, Nat.mul_mod_mul_right]

theorem packed_low (inside : width ≤ bits) (lowFits : low < 2 ^ width) :
    (low ||| high <<< width % 2 ^ bits) &&& (2 ^ width - 1) = low := by
  rw [Nat.and_two_pow_sub_one_eq_mod, shiftLeft_mod inside, or_shiftLeft_eq_add lowFits,
    Nat.add_comm, Nat.add_mul_mod_self_right, Nat.mod_eq_of_lt lowFits]

theorem packed_high (inside : width ≤ bits) (lowFits : low < 2 ^ width)
    (highFits : high < 2 ^ (bits - width)) :
    (low ||| high <<< width % 2 ^ bits) >>> width = high := by
  rw [shiftLeft_mod inside, Nat.mod_eq_of_lt highFits, or_shiftLeft_eq_add lowFits,
    Nat.shiftRight_eq_div_pow, Nat.add_comm, Nat.add_mul_div_right _ _ (Nat.two_pow_pos width),
    Nat.div_eq_of_lt lowFits, Nat.zero_add]

end Naturals

/-! ### Words -/

theorem uint16_low {low high : UInt16} (lowFits : low.toNat < 16) :
    (low ||| high <<< 4) &&& 0xF = low := by
  rw [← UInt16.toNat_inj, UInt16.toNat_and, UInt16.toNat_or, UInt16.toNat_shiftLeft]
  exact packed_low (by decide) lowFits

theorem uint16_high {low high : UInt16} (lowFits : low.toNat < 16)
    (highFits : high.toNat < 4096) : (low ||| high <<< 4) >>> 4 = high := by
  rw [← UInt16.toNat_inj, UInt16.toNat_shiftRight, UInt16.toNat_or, UInt16.toNat_shiftLeft]
  exact packed_high (by decide) lowFits highFits

theorem uint32_low {low high : UInt32} (lowFits : low.toNat < 256) :
    (low ||| high <<< 8) &&& 0xFF = low := by
  rw [← UInt32.toNat_inj, UInt32.toNat_and, UInt32.toNat_or, UInt32.toNat_shiftLeft]
  exact packed_low (by decide) lowFits

theorem uint32_high {low high : UInt32} (lowFits : low.toNat < 256)
    (highFits : high.toNat < 2 ^ 24) : (low ||| high <<< 8) >>> 8 = high := by
  rw [← UInt32.toNat_inj, UInt32.toNat_shiftRight, UInt32.toNat_or, UInt32.toNat_shiftLeft]
  exact packed_high (by decide) lowFits highFits

/-! ### Masks -/

/-- Setting the bits of a mask and clearing them again gives back exactly the
words without them. -/
theorem uint32_clear_set (value mask : UInt32) :
    (value ||| mask) &&& ~~~mask = value ↔ value &&& mask = 0 := by
  simp only [← UInt32.toBitVec_inj, UInt32.toBitVec_and, UInt32.toBitVec_or,
    UInt32.toBitVec_not, BitVec.eq_of_getLsbD_eq_iff]
  apply forall_congr'
  intro index
  apply forall_congr'
  intro inside
  simp only [BitVec.getLsbD_and, BitVec.getLsbD_or, BitVec.getLsbD_not, inside, decide_true,
    Bool.true_and, UInt32.toBitVec_zero, BitVec.getLsbD_zero]
  cases value.toBitVec.getLsbD index <;> cases mask.toBitVec.getLsbD index <;> decide

end CommunityServers.Foundation
