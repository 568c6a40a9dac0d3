import Mathlib.Algebra.BigOperators.Group.List.Basic
import Mathlib.Algebra.Order.Ring.Nat

/-!
Contract: counting the columns of a relation row by row.

Owns: the sum of the rows' counts against the number of columns that are in
some row, and that the two agree exactly when no column is in two rows.

Does not own: where the relation comes from.
-/

set_option autoImplicit false

namespace CommunityServers.Foundation

universe u v

variable {Row : Type u} {Column : Type v} (related : Row → Column → Bool)

theorem countP_le_one_iff (accepts : Row → Bool) (rows : List Row) :
    rows.countP accepts ≤ 1 ↔
      rows.Pairwise fun left right => ¬ (accepts left = true ∧ accepts right = true) := by
  induction rows with
  | nil => simp
  | cons row rest inductionHypothesis =>
      rw [List.countP_cons, List.pairwise_cons, ← inductionHypothesis]
      split
      next accepted =>
        have none : rest.countP accepts = 0 ↔ ∀ other ∈ rest, ¬ accepts other = true :=
          List.countP_eq_zero
        have alone : (∀ other ∈ rest, ¬ (accepts row = true ∧ accepts other = true)) ↔
            rest.countP accepts = 0 := by
          rw [none]
          exact forall₂_congr fun other _ => not_congr (and_iff_right accepted)
        rw [alone]
        omega
      next refused =>
        constructor
        · exact fun few => ⟨fun _ _ both => refused both.1, few⟩
        · exact fun both => both.2

theorem sum_countP_cons (rows : List Row) (column : Column) (columns : List Column) :
    (rows.map fun row => (column :: columns).countP (related row)).sum =
      (rows.map fun row => columns.countP (related row)).sum +
        rows.countP fun row => related row column := by
  induction rows with
  | nil => rfl
  | cons row rest inductionHypothesis =>
      simp only [List.map_cons, List.sum_cons, List.countP_cons] at inductionHypothesis ⊢
      omega

theorem indicator_le_countP (accepts : Row → Bool) (rows : List Row) :
    (if rows.any accepts = true then 1 else 0) ≤ rows.countP accepts := by
  split
  next found => exact List.countP_pos_iff.mpr (List.any_eq_true.mp found)
  next => exact Nat.zero_le _

theorem countP_any_le_sum (rows : List Row) (columns : List Column) :
    (columns.countP fun column => rows.any fun row => related row column) ≤
      (rows.map fun row => columns.countP (related row)).sum := by
  induction columns with
  | nil => exact Nat.zero_le _
  | cons column rest inductionHypothesis =>
      have first := indicator_le_countP (fun row => related row column) rows
      rw [List.countP_cons, sum_countP_cons]
      omega

/-- Adding up per row counts every column once exactly when no column that is
counted is in two rows. -/
theorem sum_eq_countP_any_iff (rows : List Row) (columns : List Column) :
    (rows.map fun row => columns.countP (related row)).sum =
        (columns.countP fun column => rows.any fun row => related row column) ↔
      ∀ column ∈ columns, (rows.countP fun row => related row column) ≤ 1 := by
  induction columns with
  | nil => simp
  | cons column rest inductionHypothesis =>
      have others := countP_any_le_sum related rows rest
      have indicator : (rows.any fun row => related row column) = true ↔
          0 < rows.countP fun row => related row column := by
        rw [List.countP_pos_iff, List.any_eq_true]
      rw [List.countP_cons, sum_countP_cons, List.forall_mem_cons, ← inductionHypothesis]
      by_cases found : (rows.any fun row => related row column) = true
      · have some := indicator.mp found
        rw [if_pos found]
        omega
      · have none := mt indicator.mpr found
        rw [if_neg found]
        omega

end CommunityServers.Foundation
