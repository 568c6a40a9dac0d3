import Mathlib.Algebra.BigOperators.Group.Finset.Piecewise
import Mathlib.Algebra.Order.BigOperators.Group.Finset
import Mathlib.Algebra.Order.Field.Basic
import Mathlib.Algebra.Order.Ring.Nat
import Mathlib.Data.List.GetD
import Mathlib.Data.Rat.Cast.Order

/-!
Contract: counters of 64 bits, sums of them, and rates that are computed from
their differences.

Owns:
- sums that wrap, and when they are the sums of the numbers;
- arithmetic whose every operation rounds its exact result.

Does not own: where counters come from, or any particular format of numbers.
-/

set_option autoImplicit false

namespace CommunityServers.Foundation

/-! ### Sums that wrap -/

def wrappingSum (counters : List UInt64) : UInt64 := counters.foldl (· + ·) 0

/-- The sum of the counters as numbers. -/
def trueSum (counters : List UInt64) : Nat := (counters.map UInt64.toNat).sum

@[simp] theorem trueSum_nil : trueSum [] = 0 := rfl

@[simp] theorem trueSum_cons (first : UInt64) (rest : List UInt64) :
    trueSum (first :: rest) = first.toNat + trueSum rest := by
  simp [trueSum]

theorem toNat_foldl_add (counters : List UInt64) (start : UInt64) :
    (counters.foldl (· + ·) start).toNat = (start.toNat + trueSum counters) % 2 ^ 64 := by
  induction counters generalizing start with
  | nil =>
      have bounded := start.toNat_lt
      simp only [List.foldl_nil, trueSum_nil]
      omega
  | cons first rest inductionHypothesis =>
      rw [List.foldl_cons, inductionHypothesis, UInt64.toNat_add, trueSum_cons]
      omega

theorem toNat_wrappingSum {counters : List UInt64} (small : trueSum counters < 2 ^ 64) :
    (wrappingSum counters).toNat = trueSum counters := by
  rw [wrappingSum, toNat_foldl_add, UInt64.toNat_zero, Nat.zero_add, Nat.mod_eq_of_lt small]

theorem toNat_sub_of_toNat_le {larger smaller : UInt64} (ordered : smaller.toNat ≤ larger.toNat) :
    (larger - smaller).toNat = larger.toNat - smaller.toNat :=
  UInt64.toNat_sub_of_le larger smaller (UInt64.le_iff_toNat_le.mpr ordered)

/-! ### Rounded arithmetic -/

/-- The rounding of a format of numbers: monotone, and the identity on the values
that the format has. -/
structure Rounding where
  round : ℚ → ℚ
  monotone : Monotone round
  round_zero : round 0 = 0
  round_one : round 1 = 1
  round_hundred : round 100 = 100

namespace Rounding

/-- No rounding at all. -/
def identity : Rounding := ⟨id, monotone_id, rfl, rfl, rfl⟩

variable (r : Rounding)

theorem between {low high value : ℚ} (lowKept : r.round low = low)
    (highKept : r.round high = high) (within : low ≤ value ∧ value ≤ high) :
    low ≤ r.round value ∧ r.round value ≤ high := by
  constructor
  · calc
      low = r.round low := lowKept.symm
      _ ≤ r.round value := r.monotone within.1
  · calc
      r.round value ≤ r.round high := r.monotone within.2
      _ = high := highKept

theorem nonneg {value : ℚ} (positive : 0 ≤ value) : 0 ≤ r.round value := by
  calc
    0 = r.round 0 := r.round_zero.symm
    _ ≤ r.round value := r.monotone positive

theorem nonpos {value : ℚ} (negative : value ≤ 0) : r.round value ≤ 0 := by
  calc
    r.round value ≤ r.round 0 := r.monotone negative
    _ = 0 := r.round_zero

theorem one_le {value : ℚ} (large : 1 ≤ value) : 1 ≤ r.round value := by
  calc
    1 = r.round 1 := r.round_one.symm
    _ ≤ r.round value := r.monotone large

end Rounding

end CommunityServers.Foundation
