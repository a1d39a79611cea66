import Mathlib.Algebra.Order.BigOperators.Group.List
import Mathlib.Algebra.Order.Field.Rat
import Mathlib.Order.Bounds.Basic
import Mathlib.Tactic.FieldSimp
import Mathlib.Tactic.Linarith

namespace EmbeddedPortfolio.Statistics

/-! The arithmetic mean. -/

section Mean

variable {values : List ℚ}

def mean (values : List ℚ) : ℚ :=
  values.sum / values.length

theorem length_cast_pos (nonempty : values ≠ []) :
    (0 : ℚ) < values.length :=
  Nat.cast_pos.mpr (List.length_pos_iff.mpr nonempty)

theorem le_mean (nonempty : values ≠ []) {least : ℚ}
    (isLeast : IsLeast {value | value ∈ values} least) :
    least ≤ mean values := by
  have hsum := List.card_nsmul_le_sum values least
    fun value hvalue => isLeast.2 hvalue
  rw [nsmul_eq_mul] at hsum
  rw [mean, le_div_iff₀ (length_cast_pos nonempty), mul_comm]
  exact hsum

theorem mean_le (nonempty : values ≠ []) {greatest : ℚ}
    (isGreatest : IsGreatest {value | value ∈ values} greatest) :
    mean values ≤ greatest := by
  have hsum := List.sum_le_card_nsmul values greatest
    fun value hvalue => isGreatest.2 hvalue
  rw [nsmul_eq_mul] at hsum
  rw [mean, div_le_iff₀ (length_cast_pos nonempty), mul_comm]
  exact hsum

/-- Earlier values leave the mean of the later ones as it is only when their own
mean is the same. -/
theorem mean_append_eq_iff {earlier later : List ℚ} (nonempty : later ≠ []) :
    mean (earlier ++ later) = mean later ↔
      earlier = [] ∨ mean earlier = mean later := by
  have hlater := length_cast_pos nonempty
  cases earlier with
  | nil => simp
  | cons first rest =>
      have hearlier := length_cast_pos (List.cons_ne_nil first rest)
      generalize first :: rest = earlier at hearlier ⊢
      have hempty : earlier ≠ [] := by
        rintro rfl
        exact lt_irrefl _ hearlier
      simp only [hempty, false_or]
      unfold mean
      rw [List.sum_append, List.length_append, Nat.cast_add,
        div_eq_div_iff (by linarith) hlater.ne',
        div_eq_div_iff hearlier.ne' hlater.ne', add_mul, mul_add,
        add_left_inj]

end Mean

end EmbeddedPortfolio.Statistics
