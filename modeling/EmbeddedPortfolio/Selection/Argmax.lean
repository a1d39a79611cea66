import Mathlib.Order.Lattice
import Mathlib.Data.List.Basic

namespace EmbeddedPortfolio.Selection

universe u

variable {Key : Type u} [LinearOrder Key]

/-! A scan for the largest score above a floor, with -1 for "none yet". -/

structure FirstMaximum (score : Nat → Key) (count index : Nat) : Prop where
  inside : index < count
  maximal : ∀ other < count, score other ≤ score index
  first : ∀ earlier < index, score earlier < score index

theorem FirstMaximum.unique {score : Nat → Key} {count left right : Nat}
    (hleft : FirstMaximum score count left)
    (hright : FirstMaximum score count right) : left = right := by
  rcases Nat.lt_trichotomy left right with hlt | heq | hgt
  · exact absurd (hright.first left hlt)
      (not_lt_of_ge (hleft.maximal right hright.inside))
  · exact heq
  · exact absurd (hleft.first right hgt)
      (not_lt_of_ge (hright.maximal left hleft.inside))

theorem firstMaximum_last {score : Nat → Key} {count : Nat}
    (below : ∀ other < count, score other < score count) :
    FirstMaximum score (count + 1) count where
  inside := Nat.lt_succ_self count
  maximal := by
    intro other hother
    rcases Nat.lt_succ_iff_lt_or_eq.mp hother with hearlier | rfl
    · exact (below other hearlier).le
    · exact le_rfl
  first := below

theorem FirstMaximum.extend {score : Nat → Key} {count index : Nat}
    (maximum : FirstMaximum score count index)
    (notLarger : ¬ score index < score count) :
    FirstMaximum score (count + 1) index where
  inside := Nat.lt_succ_of_lt maximum.inside
  maximal := by
    intro other hother
    rcases Nat.lt_succ_iff_lt_or_eq.mp hother with hearlier | rfl
    · exact maximum.maximal other hearlier
    · exact le_of_not_gt notLarger
  first := maximum.first

def scan (score : Nat → Key) (floor : Key) (count : Nat) : Key × Int :=
  (List.range count).foldl
    (fun best (c : Nat) =>
      if best.1 < score c then (score c, (c : Int)) else best)
    (floor, -1)

theorem scan_succ (score : Nat → Key) (floor : Key) (count : Nat) :
    scan score floor (count + 1) =
      if (scan score floor count).1 < score count then
        (score count, (count : Int))
      else scan score floor count := by
  rw [scan, List.range_succ, List.foldl_append]
  rfl

theorem scan_cases (score : Nat → Key) (floor : Key) (count : Nat) :
    (scan score floor count = (floor, -1) ∧ ∀ c < count, score c ≤ floor) ∨
      ∃ c, FirstMaximum score count c ∧ floor < score c ∧
        scan score floor count = (score c, (c : Int)) := by
  induction count with
  | zero =>
      left
      exact ⟨rfl, fun c hc => absurd hc (Nat.not_lt_zero c)⟩
  | succ count induction =>
      rw [scan_succ]
      rcases induction with ⟨hnone, hbelow⟩ | ⟨c, hmaximum, hfloor, hfound⟩
      · rw [hnone]
        by_cases hlarger : floor < score count
        · right
          have hlast := firstMaximum_last fun other hother =>
            (hbelow other hother).trans_lt hlarger
          exact ⟨count, hlast, hlarger, if_pos hlarger⟩
        · left
          refine ⟨if_neg hlarger, ?_⟩
          intro other hother
          rcases Nat.lt_succ_iff_lt_or_eq.mp hother with hearlier | rfl
          · exact hbelow other hearlier
          · exact le_of_not_gt hlarger
      · right
        rw [hfound]
        by_cases hlarger : score c < score count
        · have hlast := firstMaximum_last fun other hother =>
            (hmaximum.maximal other hother).trans_lt hlarger
          exact ⟨count, hlast, hfloor.trans hlarger, if_pos hlarger⟩
        · exact ⟨c, hmaximum.extend hlarger, hfloor, if_neg hlarger⟩

theorem scan_eq_of_firstMaximum {score : Nat → Key} {floor : Key}
    {count index : Nat} (maximum : FirstMaximum score count index)
    (above : floor < score index) :
    scan score floor count = (score index, (index : Int)) := by
  rcases scan_cases score floor count with
    ⟨_, hbelow⟩ | ⟨c, hfirst, _, hfound⟩
  · exact absurd above (not_lt_of_ge (hbelow index maximum.inside))
  · rw [hfound, hfirst.unique maximum]

end EmbeddedPortfolio.Selection
