import Mathlib.Data.List.Count
import Mathlib.Data.List.Sort
import Mathlib.Data.Rat.Floor
import Mathlib.Order.Bounds.Basic
import EmbeddedPortfolio.Numeric.Rounding

namespace EmbeddedPortfolio.Statistics

open EmbeddedPortfolio.Numeric

universe u

/-! Extremes and quantiles of finitely many values, read off a sorted list. -/

section Sorting

/-- `std::sort`: some permutation in which no later entry compares as less. -/
structure StdSort (Value : Type u) [LT Value] where
  sort : List Value → List Value
  permutes : ∀ values, (sort values).Perm values
  sorted : ∀ values, (sort values).Pairwise
    fun earlier later => ¬ later < earlier

variable {Value : Type u} [LinearOrder Value]

def Sorted (values : List Value) : Prop :=
  values.Pairwise fun earlier later => earlier ≤ later

theorem StdSort.rising (stdSort : StdSort Value) (values : List Value) :
    Sorted (stdSort.sort values) :=
  (stdSort.sorted values).imp fun hless => le_of_not_gt hless

def StdSort.insertion : StdSort Value where
  sort values := values.insertionSort fun first second => first ≤ second
  permutes values := List.perm_insertionSort _ values
  sorted values := (List.pairwise_insertionSort _ values).imp
    fun hle => not_lt_of_ge hle

theorem Sorted.getElem_le {values : List Value} (sorted : Sorted values)
    {first second : Nat} (hle : first ≤ second)
    (hsecond : second < values.length) :
    values[first] ≤ values[second] := by
  rcases Nat.eq_or_lt_of_le hle with rfl | hlt
  · exact le_rfl
  · exact List.pairwise_iff_getElem.mp sorted first second _ hsecond hlt

theorem Sorted.head_isLeast {values : List Value} (sorted : Sorted values)
    (nonempty : 0 < values.length) :
    IsLeast {value | value ∈ values} values[0] := by
  refine ⟨List.getElem_mem nonempty, ?_⟩
  intro value hvalue
  obtain ⟨index, hindex, rfl⟩ := List.mem_iff_getElem.mp hvalue
  exact sorted.getElem_le (Nat.zero_le index) hindex

theorem Sorted.last_isGreatest {values : List Value} (sorted : Sorted values)
    (nonempty : 0 < values.length) :
    IsGreatest {value | value ∈ values} values[values.length - 1] := by
  refine ⟨List.getElem_mem _, ?_⟩
  intro value hvalue
  obtain ⟨index, hindex, rfl⟩ := List.mem_iff_getElem.mp hvalue
  exact sorted.getElem_le (by omega) (by omega)

/-- The entries up to a position are among those not above it. -/
theorem Sorted.lt_countP_le {values : List Value} (sorted : Sorted values)
    {index : Nat} (hindex : index < values.length) :
    index < values.countP fun value => value ≤ values[index] := by
  have hprefix : (values.take (index + 1)).countP
      (fun value => value ≤ values[index]) = index + 1 := by
    rw [List.countP_eq_length.mpr, List.length_take, Nat.min_eq_left hindex]
    intro value hvalue
    obtain ⟨position, hposition, rfl⟩ := List.mem_iff_getElem.mp hvalue
    rw [List.length_take] at hposition
    rw [List.getElem_take]
    exact decide_eq_true (sorted.getElem_le (by omega) hindex)
  have hsublist := (List.take_sublist (index + 1) values).countP_le
    (p := fun value => value ≤ values[index])
  omega

theorem countP_gt (values : List Value) (pivot : Value) :
    values.countP (fun value => pivot < value) =
      values.length - values.countP fun value => value ≤ pivot := by
  have hsplit := List.length_eq_countP_add_countP
    (fun value => decide (value ≤ pivot)) (l := values)
  simp only [decide_eq_true_eq, not_le] at hsplit
  omega

end Sorting

section Quantiles

variable {Value : Type u} [LinearOrder Value]

/-- A value of the sample that a fraction `q` lies at or below, and less than
the rest above. -/
structure IsQuantile (q : ℚ) (values : List Value) (quantile : Value) :
    Prop where
  mem : quantile ∈ values
  below : q * values.length ≤ values.countP fun value => value ≤ quantile
  above : (values.countP fun value => quantile < value : ℚ) <
    (1 - q) * values.length

theorem IsQuantile.perm {q : ℚ} {first second : List Value} {quantile : Value}
    (isQuantile : IsQuantile q first quantile) (perm : first.Perm second) :
    IsQuantile q second quantile where
  mem := perm.mem_iff.mp isQuantile.mem
  below := by
    rw [← perm.length_eq, ← perm.countP_eq]
    exact isQuantile.below
  above := by
    rw [← perm.length_eq, ← perm.countP_eq]
    exact isQuantile.above

/-- The index the code reads, its product exact. -/
def quantileIndex (size : Nat) (q : ℚ) : Nat :=
  min (size - 1) (truncate (size * q)).toNat

theorem quantileIndex_lt {size : Nat} (positive : 0 < size) (q : ℚ) :
    quantileIndex size q < size := by
  unfold quantileIndex
  omega

theorem quantileIndex_mono (size : Nat) {first second : ℚ}
    (nonneg : 0 ≤ first) (hle : first ≤ second) :
    quantileIndex size first ≤ quantileIndex size second := by
  have hsize : (0 : ℚ) ≤ size := Nat.cast_nonneg size
  have hproduct := mul_le_mul_of_nonneg_left hle hsize
  have hfloor := Int.floor_le_floor hproduct
  unfold quantileIndex
  rw [truncate_of_nonneg (mul_nonneg hsize nonneg),
    truncate_of_nonneg (mul_nonneg hsize (nonneg.trans hle))]
  omega

/-- Below one, the limit to the last index never takes effect. -/
theorem quantileIndex_floor {size : Nat} (positive : 0 < size) {q : ℚ}
    (nonneg : 0 ≤ q) (below : q < 1) :
    (quantileIndex size q : ℚ) ≤ size * q ∧
      size * q < (quantileIndex size q + 1 : Nat) := by
  have hsize : (0 : ℚ) < size := Nat.cast_pos.mpr positive
  have hproduct : 0 ≤ size * q := mul_nonneg hsize.le nonneg
  have hfloor : ⌊size * q⌋ < size := by
    rw [Int.floor_lt]
    exact_mod_cast mul_lt_of_lt_one_right hsize below
  have hnonneg := Int.floor_nonneg.mpr hproduct
  have hindex : (quantileIndex size q : Int) = ⌊size * q⌋ := by
    rw [quantileIndex, truncate_of_nonneg hproduct]
    omega
  have hcast : (quantileIndex size q : ℚ) = ⌊size * q⌋ := by
    exact_mod_cast hindex
  push_cast
  rw [hcast]
  exact ⟨Int.floor_le _, Int.lt_floor_add_one _⟩

theorem Sorted.isQuantile {values : List Value} (sorted : Sorted values)
    {q : ℚ} (nonneg : 0 ≤ q) (below : q < 1)
    (hindex : quantileIndex values.length q < values.length) :
    IsQuantile q values values[quantileIndex values.length q] := by
  obtain ⟨_, hupper⟩ := quantileIndex_floor (Nat.zero_lt_of_lt hindex) nonneg
    below
  have hcount := sorted.lt_countP_le hindex
  have hbelow : q * values.length < values.countP
      fun value => value ≤ values[quantileIndex values.length q] := by
    rw [mul_comm]
    exact hupper.trans_le (Nat.cast_le.mpr hcount)
  refine ⟨List.getElem_mem hindex, hbelow.le, ?_⟩
  rw [countP_gt, Nat.cast_sub List.countP_le_length, sub_mul, one_mul]
  linarith

theorem Sorted.quantile_le {values : List Value} (sorted : Sorted values)
    {first second : ℚ} (nonneg : 0 ≤ first) (hle : first ≤ second)
    {lower upper : Value}
    (hlower : values[quantileIndex values.length first]? = some lower)
    (hupper : values[quantileIndex values.length second]? = some upper) :
    lower ≤ upper := by
  obtain ⟨_, rfl⟩ := List.getElem?_eq_some_iff.mp hlower
  obtain ⟨hsecond, rfl⟩ := List.getElem?_eq_some_iff.mp hupper
  exact sorted.getElem_le (quantileIndex_mono _ nonneg hle) hsecond

end Quantiles

end EmbeddedPortfolio.Statistics
