import Mathlib.Algebra.Order.Floor.Ring
import Mathlib.Algebra.Order.Field.Rat
import EmbeddedPortfolio.Numeric.Rounding
import EmbeddedPortfolio.Telemetry.Transmitter

namespace EmbeddedPortfolio.Telemetry

open EmbeddedPortfolio.Numeric

universe u

/-! The absolute deadlines that `can_tx` sleeps until, in the 64 bits of a
`long`. -/

/-- The language leaves a result that does not fit undefined. -/
def toLong (value : Int) : Option Int :=
  if -9223372036854775808 ≤ value ∧ value ≤ 9223372036854775807 then
    some value
  else none

theorem toLong_eq_some_iff {value long : Int} :
    toLong value = some long ↔ long = value ∧
      -9223372036854775808 ≤ value ∧ value ≤ 9223372036854775807 := by
  unfold toLong
  split
  · next hfits => simp [hfits, eq_comm]
  · next hfits => simp [hfits]

structure Timespec where
  tvSec : Int
  tvNsec : Int
deriving DecidableEq, Repr

namespace Timespec

def nanoseconds (time : Timespec) : Int :=
  time.tvSec * 1000000000 + time.tvNsec

def Normal (time : Timespec) : Prop :=
  0 ≤ time.tvNsec ∧ time.tvNsec < 1000000000

instance (time : Timespec) : Decidable time.Normal :=
  inferInstanceAs (Decidable (_ ∧ _))

/-- `while (next.tv_nsec >= 1000000000L)`. -/
def carry (tvSec tvNsec : Int) : Option Timespec :=
  if 1000000000 ≤ tvNsec then do
    let tvSec ← toLong (tvSec + 1)
    carry tvSec (tvNsec - 1000000000)
  else some ⟨tvSec, tvNsec⟩
termination_by tvNsec.toNat

def advance (periodNs : Int) (time : Timespec) : Option Timespec := do
  let tvNsec ← toLong (time.tvNsec + periodNs)
  carry time.tvSec tvNsec

theorem carry_nanoseconds {tvSec tvNsec : Int} {time : Timespec}
    (carried : carry tvSec tvNsec = some time) :
    time.nanoseconds = tvSec * 1000000000 + tvNsec := by
  induction tvSec, tvNsec using carry.induct with
  | case1 tvSec tvNsec above induction =>
      rw [carry, if_pos above] at carried
      obtain ⟨long, hlong, hrest⟩ := Option.bind_eq_some_iff.mp carried
      obtain ⟨rfl, _⟩ := toLong_eq_some_iff.mp hlong
      rw [induction _ hrest]
      omega
  | case2 tvSec tvNsec under =>
      rw [carry, if_neg under] at carried
      cases carried
      rfl

theorem carry_normal {tvSec tvNsec : Int} {time : Timespec}
    (carried : carry tvSec tvNsec = some time) (nonneg : 0 ≤ tvNsec) :
    time.Normal := by
  induction tvSec, tvNsec using carry.induct with
  | case1 tvSec tvNsec above induction =>
      rw [carry, if_pos above] at carried
      obtain ⟨long, _, hrest⟩ := Option.bind_eq_some_iff.mp carried
      exact induction _ hrest (by omega)
  | case2 tvSec tvNsec under =>
      rw [carry, if_neg under] at carried
      cases carried
      exact ⟨nonneg, Int.not_le.mp under⟩

theorem carry_defined {tvSec tvNsec : Int} (nonneg : 0 ≤ tvSec)
    (fits : tvSec * 1000000000 + tvNsec < 9223372036854775808000000000) :
    ∃ time, carry tvSec tvNsec = some time := by
  induction tvSec, tvNsec using carry.induct with
  | case1 tvSec tvNsec above induction =>
      have hlong : toLong (tvSec + 1) = some (tvSec + 1) :=
        toLong_eq_some_iff.mpr ⟨rfl, by omega, by omega⟩
      obtain ⟨time, htime⟩ := induction (tvSec + 1) (by omega) (by omega)
      refine ⟨time, ?_⟩
      rw [carry, if_pos above, hlong]
      exact htime
  | case2 tvSec tvNsec under => exact ⟨_, by rw [carry, if_neg under]⟩

theorem advance_nanoseconds {periodNs : Int} {time next : Timespec}
    (advanced : time.advance periodNs = some next) :
    next.nanoseconds = time.nanoseconds + periodNs := by
  obtain ⟨long, hlong, hcarry⟩ := Option.bind_eq_some_iff.mp advanced
  obtain ⟨rfl, _⟩ := toLong_eq_some_iff.mp hlong
  rw [carry_nanoseconds hcarry, nanoseconds]
  omega

theorem advance_normal {periodNs : Int} (nonneg : 0 ≤ periodNs)
    {time next : Timespec} (normal : time.Normal)
    (advanced : time.advance periodNs = some next) : next.Normal := by
  obtain ⟨long, hlong, hcarry⟩ := Option.bind_eq_some_iff.mp advanced
  obtain ⟨rfl, _⟩ := toLong_eq_some_iff.mp hlong
  have hnormal := normal.1
  exact carry_normal hcarry (by omega)

/-- An addition to `tv_nsec` may take it past the range of a `long` only for a
period of about three centuries. -/
theorem advance_defined {periodNs : Int} (nonneg : 0 ≤ periodNs)
    (short : periodNs ≤ 9223372035854775807) {time : Timespec}
    (normal : time.Normal) (started : 0 ≤ time.tvSec)
    (fits : time.nanoseconds + periodNs < 9223372036854775808000000000) :
    ∃ next, time.advance periodNs = some next := by
  obtain ⟨hlow, hhigh⟩ := normal
  unfold nanoseconds at fits
  have hlong : toLong (time.tvNsec + periodNs) =
      some (time.tvNsec + periodNs) :=
    toLong_eq_some_iff.mpr ⟨rfl, by omega, by omega⟩
  obtain ⟨next, hnext⟩ := @carry_defined time.tvSec
    (time.tvNsec + periodNs) started (by omega)
  refine ⟨next, ?_⟩
  rw [advance, hlong]
  exact hnext

end Timespec

section Period

variable {K : Type u} [Field K] [LinearOrder K] [FloorRing K]

def periodNs (hz : K) : Option Int :=
  toLong (truncate (1000000000 / rate hz))

variable [IsStrictOrderedRing K]

theorem rate_pos (hz : K) : 0 < rate hz := by
  unfold rate
  split
  · assumption
  · norm_num

theorem periodNs_eq {hz : K} {period : Int}
    (fits : periodNs hz = some period) :
    period = ⌊1000000000 / rate hz⌋ := by
  obtain ⟨rfl, _⟩ := toLong_eq_some_iff.mp fits
  exact truncate_of_nonneg (div_nonneg (by norm_num) (rate_pos hz).le)

theorem floor_period_nonneg (hz : K) : 0 ≤ ⌊1000000000 / rate hz⌋ :=
  Int.floor_nonneg.mpr (div_nonneg (by norm_num) (rate_pos hz).le)

end Period

end EmbeddedPortfolio.Telemetry
