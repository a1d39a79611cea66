import Mathlib.Algebra.Group.Nat.Defs
import Mathlib.Tactic.Linarith

namespace EmbeddedPortfolio.Numeric

universe u v w

/-! C's 32-bit arithmetic.  A computation is written once over the operations
and read as the machine performs it, over the integers without bound, or both
at once. -/

/-- Shifts by constants; a signed word is shifted right with its sign. -/
class Shifts (W : Type u) where
  shl : W → Nat → W
  shr : W → Nat → W

class SignedArithmetic (S : Type u) extends Add S, Sub S, Mul S, Shifts S where
  s32 : Int → S

class UnsignedArithmetic (U : Type u) extends Mul U, Div U, Shifts U where
  u32 : Nat → U
  ifLess : U → U → U → U → U

/-- Casts, the subtraction of a signed word from an unsigned one, and a branch
on a signed word being zero. -/
class MixedArithmetic (S : Type u) (U : Type v) where
  subSigned : U → S → U
  toUnsigned : S → U
  toSigned : U → S
  ifZero : S → U → U → U

-- Types that have a subtraction of their own keep it.
instance (priority := low) {S : Type u} {U : Type v} [MixedArithmetic S U] :
    HSub U S U where
  hSub := MixedArithmetic.subSigned

open Shifts

section Machine

instance : SignedArithmetic Int32 where
  s32 := Int32.ofInt
  shl word count := .ofBitVec (word.toBitVec <<< count)
  shr word count := .ofBitVec (word.toBitVec.sshiftRight count)

instance : UnsignedArithmetic UInt32 where
  u32 := UInt32.ofNat
  shl word count := .ofBitVec (word.toBitVec <<< count)
  shr word count := .ofBitVec (word.toBitVec >>> count)
  ifLess left right less other := if left < right then less else other

instance : MixedArithmetic Int32 UInt32 where
  subSigned left right := left - right.toUInt32
  toUnsigned := Int32.toUInt32
  toSigned := UInt32.toInt32
  ifZero test zero other := if test = 0 then zero else other

end Machine

section Exact

instance : Shifts Int where
  shl value count := value * 2 ^ count
  shr value count := value / 2 ^ count

instance : SignedArithmetic Int where
  s32 value := value

instance : UnsignedArithmetic Int where
  u32 value := value
  ifLess left right less other := if left < right then less else other

instance : MixedArithmetic Int Int where
  subSigned left right := left - right
  toUnsigned value := value
  toSigned value := value
  ifZero test zero other := if test = 0 then zero else other

end Exact

/-- A type of machine words and the integers it can hold. -/
class MachineWord (W : Type u) where
  value : W → Int
  least : Int
  greatest : Int

open MachineWord

instance : MachineWord Int32 where
  value := Int32.toInt
  least := -2147483648
  greatest := 2147483647

instance : MachineWord UInt32 where
  value word := word.toNat
  least := 0
  greatest := 4294967295

/-- A machine word beside the integer it should hold, with the words and
integers of the steps that led to it. -/
structure Shadow (W : Type u) where
  word : W
  exact : Int
  earlier : List (Int × Int)

namespace Shadow

variable {A : Type u} {B : Type v} {C : Type w}
variable [MachineWord A] [MachineWord B] [MachineWord C]

def steps (shadow : Shadow A) : List (Int × Int) :=
  shadow.earlier ++ [(value shadow.word, shadow.exact)]

/-- No step has wrapped. -/
def Faithful (shadow : Shadow A) : Prop :=
  ∀ step ∈ shadow.steps, step.1 = step.2

def ofWord (word : A) : Shadow A :=
  ⟨word, value word, []⟩

def literal (word : A) (exact : Int) : Shadow A :=
  ⟨word, exact, []⟩

def map (op : A → B) (f : Int → Int) (shadow : Shadow A) : Shadow B :=
  ⟨op shadow.word, f shadow.exact, shadow.steps⟩

def map₂ (op : A → B → C) (f : Int → Int → Int) (left : Shadow A)
    (right : Shadow B) : Shadow C :=
  ⟨op left.word right.word, f left.exact right.exact,
    left.steps ++ right.steps⟩

/-- Each reading takes the branch of its own test, which counts as a step. -/
def branch (tested : List (Int × Int)) (wordTest exactTest : Prop)
    [Decidable wordTest] [Decidable exactTest] (yes no : Shadow A) :
    Shadow A where
  word := if wordTest then yes.word else no.word
  exact := if exactTest then yes.exact else no.exact
  earlier := tested ++ if wordTest then yes.steps else no.steps

theorem Faithful.value_eq {shadow : Shadow A} (faithful : shadow.Faithful) :
    value shadow.word = shadow.exact :=
  faithful _ (List.mem_append_right _ (List.mem_singleton_self _))

theorem faithful_mk (word : A) (exact : Int) (earlier : List (Int × Int)) :
    (Shadow.mk word exact earlier).Faithful ↔
      (∀ step ∈ earlier, step.1 = step.2) ∧ value word = exact := by
  simp only [Faithful, steps, List.forall_mem_append, List.mem_singleton,
    forall_eq]

@[simp] theorem faithful_ofWord (word : A) : (ofWord word).Faithful :=
  (faithful_mk ..).mpr ⟨nofun, rfl⟩

theorem faithful_literal (word : A) (exact : Int) :
    (literal word exact).Faithful ↔ value word = exact := by
  simp [literal, faithful_mk]

theorem faithful_map (op : A → B) (f : Int → Int) (shadow : Shadow A) :
    (shadow.map op f).Faithful ↔
      shadow.Faithful ∧ value (op shadow.word) = f shadow.exact :=
  faithful_mk ..

theorem faithful_map₂ (op : A → B → C) (f : Int → Int → Int)
    (left : Shadow A) (right : Shadow B) :
    (map₂ op f left right).Faithful ↔ left.Faithful ∧ right.Faithful ∧
      value (op left.word right.word) = f left.exact right.exact := by
  unfold map₂
  rw [faithful_mk, List.forall_mem_append, and_assoc]
  rfl

theorem faithful_iff (shadow : Shadow A) : shadow.Faithful ↔
    (∀ step ∈ shadow.steps, step.1 = step.2) ∧
      value shadow.word = shadow.exact :=
  ⟨fun faithful => ⟨faithful, faithful.value_eq⟩, And.left⟩

/-- Where both readings test alike, only the branch taken counts. -/
theorem faithful_branch {tested : List (Int × Int)}
    {wordTest exactTest : Prop} [Decidable wordTest] [Decidable exactTest]
    (yes no : Shadow A)
    (alike : (∀ step ∈ tested, step.1 = step.2) → (wordTest ↔ exactTest)) :
    (branch tested wordTest exactTest yes no).Faithful ↔
      (∀ step ∈ tested, step.1 = step.2) ∧
        if exactTest then yes.Faithful else no.Faithful := by
  unfold branch
  rw [faithful_mk, List.forall_mem_append, and_assoc]
  refine and_congr_right fun htested => ?_
  simp only [alike htested]
  split
  · exact (faithful_iff yes).symm
  · exact (faithful_iff no).symm

end Shadow

/-- The word type holds the integer. -/
def Fits (W : Type u) [MachineWord W] (exact : Int) : Prop :=
  least W ≤ exact ∧ exact ≤ greatest W

instance (W : Type u) [MachineWord W] (exact : Int) :
    Decidable (Fits W exact) :=
  inferInstanceAs (Decidable (_ ∧ _))

theorem fits_int32 {exact : Int} :
    Fits Int32 exact ↔ -2147483648 ≤ exact ∧ exact ≤ 2147483647 :=
  Iff.rfl

theorem fits_uint32 {exact : Int} :
    Fits UInt32 exact ↔ 0 ≤ exact ∧ exact ≤ 4294967295 :=
  Iff.rfl

/-! Operations on machine words that keep the result, if it fits. -/

namespace Shadow

variable {A : Type u} {B : Type v} {C : Type w}
variable [MachineWord A] [MachineWord B] [MachineWord C]

theorem faithful_map_iff {op : A → B} {f : Int → Int}
    (keeps : ∀ word, value (op word) = f (value word) ↔
      Fits B (f (value word))) (shadow : Shadow A) :
    (shadow.map op f).Faithful ↔
      shadow.Faithful ∧ Fits B (f shadow.exact) := by
  rw [faithful_map]
  refine and_congr_right fun faithful => ?_
  rw [← faithful.value_eq]
  exact keeps shadow.word

theorem faithful_map₂_iff {op : A → B → C} {f : Int → Int → Int}
    (keeps : ∀ left right, value (op left right) = f (value left) (value right)
      ↔ Fits C (f (value left) (value right)))
    (left : Shadow A) (right : Shadow B) :
    (map₂ op f left right).Faithful ↔ left.Faithful ∧ right.Faithful ∧
      Fits C (f left.exact right.exact) := by
  rw [faithful_map₂]
  refine and_congr_right fun hleft => and_congr_right fun hright => ?_
  rw [← hleft.value_eq, ← hright.value_eq]
  exact keeps left.word right.word

theorem faithful_map_always {op : A → B} {f : Int → Int}
    (keeps : ∀ word, value (op word) = f (value word)) (shadow : Shadow A) :
    (shadow.map op f).Faithful ↔ shadow.Faithful := by
  rw [faithful_map]
  refine and_iff_left_of_imp fun faithful => ?_
  rw [← faithful.value_eq]
  exact keeps shadow.word

end Shadow

section Words

theorem fits_int32_toInt (word : Int32) : Fits Int32 word.toInt := by
  have hlow := word.le_toInt
  have hhigh := word.toInt_lt
  rw [fits_int32]
  omega

theorem fits_int16_toInt (word : Int16) : Fits Int32 word.toInt := by
  have hlow := word.le_toInt
  have hhigh := word.toInt_lt
  rw [fits_int32]
  omega

theorem fits_uint32_toNat (word : UInt32) : Fits UInt32 word.toNat := by
  have hbound := word.toNat_lt
  rw [fits_uint32]
  omega

theorem bmod_eq_self_iff (exact : Int) :
    exact.bmod (2 ^ 32) = exact ↔ Fits Int32 exact := by
  rw [fits_int32]
  constructor
  · intro hequal
    have hlow := Int.le_bmod (x := exact) (m := 2 ^ 32) (by decide)
    have hhigh := Int.bmod_lt (x := exact) (m := 2 ^ 32) (by decide)
    omega
  · intro hfits
    exact Int.bmod_eq_of_le (by omega) (by omega)

theorem emod_eq_self_iff (exact : Int) :
    exact % 2 ^ 32 = exact ↔ Fits UInt32 exact := by
  rw [fits_uint32]
  omega

theorem int32_shiftLeft (word : Int32) {count : Nat} (small : count < 31) :
    (shl word count).toInt = (word.toInt * 2 ^ count).bmod (2 ^ 32) := by
  have hwidth : ¬ 32 ≤ count := by omega
  have hsign : ¬ count + 1 = 32 := by omega
  show (Int32.ofBitVec (word.toBitVec <<< count)).toInt = _
  rw [Int32.toInt_ofBitVec, BitVec.shiftLeft_eq_mul_twoPow, BitVec.toInt_mul,
    BitVec.toInt_twoPow]
  simp [hwidth, hsign]

theorem int32_shiftRight (word : Int32) (count : Nat) :
    (shr word count).toInt = word.toInt / 2 ^ count := by
  show (Int32.ofBitVec (word.toBitVec.sshiftRight count)).toInt = _
  rw [Int32.toInt_ofBitVec, BitVec.toInt_sshiftRight,
    Int.shiftRight_eq_div_pow]
  simp

/-- Whatever was shifted, wrapped or not. -/
theorem int32_shiftRight_mem (word : Int32) (count : Nat) :
    -2147483648 / 2 ^ count ≤ (shr word count).toInt ∧
      (shr word count).toInt ≤ 2147483647 / 2 ^ count := by
  have hfits := fits_int32_toInt word
  have hpower : (0 : Int) < 2 ^ count := pow_pos (by decide) count
  rw [int32_shiftRight]
  exact ⟨Int.ediv_le_ediv hpower hfits.1, Int.ediv_le_ediv hpower hfits.2⟩

theorem int32_ofInt_of_fits {exact : Int} (fits : Fits Int32 exact) :
    (Int32.ofInt exact).toInt = exact :=
  Int32.toInt_ofInt.trans ((bmod_eq_self_iff _).mpr fits)

theorem int32_add_of_fits {left right : Int32}
    (fits : Fits Int32 (left.toInt + right.toInt)) :
    (left + right).toInt = left.toInt + right.toInt :=
  (Int32.toInt_add ..).trans ((bmod_eq_self_iff _).mpr fits)

theorem int32_mul_of_fits {left right : Int32}
    (fits : Fits Int32 (left.toInt * right.toInt)) :
    (left * right).toInt = left.toInt * right.toInt :=
  (Int32.toInt_mul ..).trans ((bmod_eq_self_iff _).mpr fits)

theorem int32_toUInt32 (word : Int32) :
    (word.toUInt32.toNat : Int) = word.toInt % 2 ^ 32 := by
  have hbound := word.toBitVec.isLt
  have hvalue : word.toInt = Int.bmod word.toBitVec.toNat (2 ^ 32) :=
    BitVec.toInt_eq_toNat_bmod word.toBitVec
  rw [← Int32.toNat_toBitVec, hvalue, Int.bmod_def]
  split <;> omega

theorem uint32_shiftLeft (word : UInt32) (count : Nat) :
    ((shl word count).toNat : Int) = (word.toNat * 2 ^ count) % 2 ^ 32 := by
  show ((UInt32.ofBitVec (word.toBitVec <<< count)).toNat : Int) = _
  simp [BitVec.toNat_shiftLeft, Nat.shiftLeft_eq]

theorem uint32_shiftRight (word : UInt32) (count : Nat) :
    ((shr word count).toNat : Int) = word.toNat / 2 ^ count := by
  show ((UInt32.ofBitVec (word.toBitVec >>> count)).toNat : Int) = _
  simp [Nat.shiftRight_eq_div_pow]

theorem uint32_sub_signed (word : UInt32) (signed : Int32) :
    ((word - signed).toNat : Int) = (word.toNat - signed.toInt) % 2 ^ 32 := by
  have hsigned := int32_toUInt32 signed
  have hbound := signed.toUInt32.toNat_lt
  show ((word - signed.toUInt32).toNat : Int) = _
  rw [UInt32.toNat_sub]
  omega

theorem uint32_toInt32 (word : UInt32) :
    word.toInt32.toInt = Int.bmod word.toNat (2 ^ 32) := by
  show word.toBitVec.toInt = _
  rw [BitVec.toInt_eq_toNat_bmod]
  rfl

/-- 46340 is the largest root of a square that fits. -/
theorem fits_square_iff (root : Int) :
    Fits Int32 (root * root) ↔ -46340 ≤ root ∧ root ≤ 46340 := by
  rw [fits_int32]
  constructor
  · intro hfits
    constructor
    · by_contra hroot
      nlinarith [hfits.2]
    · by_contra hroot
      nlinarith [hfits.2]
  · intro hroot
    constructor
    · nlinarith [mul_self_nonneg root]
    · nlinarith [hroot.1, hroot.2]

theorem fits_square_unsigned_iff {root : Int} (nonneg : 0 ≤ root) :
    Fits UInt32 (root * root) ↔ root ≤ 65535 := by
  rw [fits_uint32]
  constructor
  · intro hfits
    by_contra hroot
    nlinarith [hfits.2]
  · intro hroot
    constructor
    · exact mul_self_nonneg root
    · nlinarith

end Words

namespace Shadow

instance : SignedArithmetic (Shadow Int32) where
  s32 value := literal (Int32.ofInt value) value
  add := map₂ (· + ·) (· + ·)
  sub := map₂ (· - ·) (· - ·)
  mul := map₂ (· * ·) (· * ·)
  shl shadow count := shadow.map (shl · count) (· * 2 ^ count)
  shr shadow count := shadow.map (shr · count) (· / 2 ^ count)

instance : UnsignedArithmetic (Shadow UInt32) where
  u32 value := literal (UInt32.ofNat value) value
  mul := map₂ (· * ·) (· * ·)
  div := map₂ (· / ·) (· / ·)
  shl shadow count := shadow.map (shl · count) (· * 2 ^ count)
  shr shadow count := shadow.map (shr · count) (· / 2 ^ count)
  ifLess left right less other :=
    branch (left.steps ++ right.steps) (left.word < right.word)
      (left.exact < right.exact) less other

instance : MixedArithmetic (Shadow Int32) (Shadow UInt32) where
  subSigned := map₂ (· - ·) (· - ·)
  toUnsigned := map Int32.toUInt32 id
  toSigned := map UInt32.toInt32 id
  ifZero test zero other :=
    branch test.steps (test.word = 0) (test.exact = 0) zero other

theorem Faithful.fits_unsigned {shadow : Shadow UInt32}
    (faithful : shadow.Faithful) : Fits UInt32 shadow.exact := by
  rw [← faithful.value_eq]
  exact fits_uint32_toNat shadow.word

section Signed

variable (left right : Shadow Int32)

@[simp] theorem exact_s32 (value : Int) :
    (SignedArithmetic.s32 value : Shadow Int32).exact = value := rfl

@[simp] theorem exact_add :
    (left + right).exact = left.exact + right.exact := rfl

@[simp] theorem exact_sub :
    (left - right).exact = left.exact - right.exact := rfl

@[simp] theorem exact_mul :
    (left * right).exact = left.exact * right.exact := rfl

@[simp] theorem exact_shiftLeft (count : Nat) :
    (shl left count).exact = left.exact * 2 ^ count := rfl

@[simp] theorem exact_shiftRight (count : Nat) :
    (shr left count).exact = left.exact / 2 ^ count := rfl

@[simp] theorem faithful_s32 (value : Int) :
    (SignedArithmetic.s32 value : Shadow Int32).Faithful ↔
      Fits Int32 value := by
  rw [← bmod_eq_self_iff]
  refine (faithful_literal ..).trans ?_
  exact iff_of_eq (congrArg (· = _) Int32.toInt_ofInt)

@[simp] theorem faithful_add : (left + right).Faithful ↔ left.Faithful ∧
    right.Faithful ∧ Fits Int32 (left.exact + right.exact) := by
  refine faithful_map₂_iff (fun left right => ?_) left right
  rw [← bmod_eq_self_iff]
  exact iff_of_eq (congrArg (· = _) (Int32.toInt_add ..))

@[simp] theorem faithful_sub : (left - right).Faithful ↔ left.Faithful ∧
    right.Faithful ∧ Fits Int32 (left.exact - right.exact) := by
  refine faithful_map₂_iff (fun left right => ?_) left right
  rw [← bmod_eq_self_iff]
  exact iff_of_eq (congrArg (· = _) (Int32.toInt_sub ..))

@[simp] theorem faithful_mul : (left * right).Faithful ↔ left.Faithful ∧
    right.Faithful ∧ Fits Int32 (left.exact * right.exact) := by
  refine faithful_map₂_iff (fun left right => ?_) left right
  rw [← bmod_eq_self_iff]
  exact iff_of_eq (congrArg (· = _) (Int32.toInt_mul ..))

@[simp] theorem faithful_shiftLeft {count : Nat} (small : count < 31) :
    (shl left count).Faithful ↔
      left.Faithful ∧ Fits Int32 (left.exact * 2 ^ count) := by
  refine faithful_map_iff (fun word => ?_) left
  rw [← bmod_eq_self_iff]
  exact iff_of_eq (congrArg (· = _) (int32_shiftLeft _ small))

@[simp] theorem faithful_shiftRight (count : Nat) :
    (shr left count).Faithful ↔ left.Faithful :=
  faithful_map_always (fun word => int32_shiftRight word count) left

end Signed

section Unsigned

variable (left right less other : Shadow UInt32)

@[simp] theorem exact_u32 (value : Nat) :
    (UnsignedArithmetic.u32 value : Shadow UInt32).exact = value := rfl

@[simp] theorem word_u32 (value : Nat) :
    (UnsignedArithmetic.u32 value : Shadow UInt32).word =
      UnsignedArithmetic.u32 value := rfl

@[simp] theorem exact_mul_unsigned :
    (left * right).exact = left.exact * right.exact := rfl

@[simp] theorem exact_div :
    (left / right).exact = left.exact / right.exact := rfl

@[simp] theorem exact_shiftLeft_unsigned (count : Nat) :
    (shl left count).exact = left.exact * 2 ^ count := rfl

@[simp] theorem exact_shiftRight_unsigned (count : Nat) :
    (shr left count).exact = left.exact / 2 ^ count := rfl

@[simp] theorem exact_ifLess :
    (UnsignedArithmetic.ifLess left right less other).exact =
      if left.exact < right.exact then less.exact else other.exact := rfl

@[simp] theorem faithful_u32 (value : Nat) :
    (UnsignedArithmetic.u32 value : Shadow UInt32).Faithful ↔
      Fits UInt32 value := by
  rw [← emod_eq_self_iff]
  refine (faithful_literal ..).trans (iff_of_eq (congrArg (· = _) ?_))
  show ((UInt32.ofNat value).toNat : Int) = _
  rw [UInt32.toNat_ofNat']
  omega

@[simp] theorem faithful_mul_unsigned : (left * right).Faithful ↔
    left.Faithful ∧ right.Faithful ∧
      Fits UInt32 (left.exact * right.exact) := by
  refine faithful_map₂_iff (fun left right => ?_) left right
  rw [← emod_eq_self_iff]
  refine iff_of_eq (congrArg (· = _) ?_)
  show ((left * right).toNat : Int) = _
  rw [UInt32.toNat_mul]
  push_cast
  rfl

@[simp] theorem faithful_div :
    (left / right).Faithful ↔ left.Faithful ∧ right.Faithful := by
  refine (faithful_map₂ ..).trans (and_congr_right fun hleft => ?_)
  refine and_iff_left_of_imp fun hright => ?_
  rw [← hleft.value_eq, ← hright.value_eq]
  show ((left.word / right.word).toNat : Int) = _
  rw [UInt32.toNat_div]
  push_cast
  rfl

@[simp] theorem faithful_shiftLeft_unsigned (count : Nat) :
    (shl left count).Faithful ↔
      left.Faithful ∧ Fits UInt32 (left.exact * 2 ^ count) := by
  refine faithful_map_iff (fun word => ?_) left
  rw [← emod_eq_self_iff]
  exact iff_of_eq (congrArg (· = _) (uint32_shiftLeft ..))

@[simp] theorem faithful_shiftRight_unsigned (count : Nat) :
    (shr left count).Faithful ↔ left.Faithful :=
  faithful_map_always (fun word => uint32_shiftRight word count) left

@[simp] theorem faithful_ifLess :
    (UnsignedArithmetic.ifLess left right less other).Faithful ↔
      left.Faithful ∧ right.Faithful ∧
        if left.exact < right.exact then less.Faithful
        else other.Faithful := by
  refine (faithful_branch less other ?_).trans ?_
  · intro hsteps
    rw [List.forall_mem_append] at hsteps
    have hleft : left.Faithful := hsteps.1
    have hright : right.Faithful := hsteps.2
    rw [← hleft.value_eq, ← hright.value_eq, UInt32.lt_iff_toNat_lt]
    exact Int.ofNat_lt.symm
  · rw [List.forall_mem_append, and_assoc]
    rfl

end Unsigned

section Mixed

variable (unsigned zero other : Shadow UInt32) (signed : Shadow Int32)

@[simp] theorem word_toUnsigned :
    (MixedArithmetic.toUnsigned signed : Shadow UInt32).word =
      MixedArithmetic.toUnsigned signed.word := rfl

@[simp] theorem word_ifZero :
    (MixedArithmetic.ifZero signed zero other).word =
      MixedArithmetic.ifZero signed.word zero.word other.word := rfl

@[simp] theorem exact_sub_signed :
    (unsigned - signed).exact = unsigned.exact - signed.exact := rfl

@[simp] theorem exact_toUnsigned :
    (MixedArithmetic.toUnsigned signed : Shadow UInt32).exact =
      signed.exact := rfl

@[simp] theorem exact_toSigned :
    (MixedArithmetic.toSigned unsigned : Shadow Int32).exact =
      unsigned.exact := rfl

@[simp] theorem faithful_sub_signed : (unsigned - signed).Faithful ↔
    unsigned.Faithful ∧ signed.Faithful ∧
      Fits UInt32 (unsigned.exact - signed.exact) := by
  refine faithful_map₂_iff (fun unsigned signed => ?_) unsigned signed
  rw [← emod_eq_self_iff]
  exact iff_of_eq (congrArg (· = _) (uint32_sub_signed ..))

@[simp] theorem faithful_toUnsigned :
    (MixedArithmetic.toUnsigned signed : Shadow UInt32).Faithful ↔
      signed.Faithful ∧ Fits UInt32 signed.exact := by
  refine faithful_map_iff (fun word => ?_) signed
  rw [← emod_eq_self_iff]
  exact iff_of_eq (congrArg (· = _) (int32_toUInt32 _))

@[simp] theorem faithful_toSigned :
    (MixedArithmetic.toSigned unsigned : Shadow Int32).Faithful ↔
      unsigned.Faithful ∧ Fits Int32 unsigned.exact := by
  refine faithful_map_iff (fun word => ?_) unsigned
  rw [← bmod_eq_self_iff]
  exact iff_of_eq (congrArg (· = _) (uint32_toInt32 _))

@[simp] theorem faithful_ifZero :
    (MixedArithmetic.ifZero signed zero other).Faithful ↔
      signed.Faithful ∧
        if signed.exact = 0 then zero.Faithful else other.Faithful := by
  refine faithful_branch zero other ?_
  intro hsteps
  have hsigned : signed.Faithful := hsteps
  rw [← hsigned.value_eq, ← Int32.toInt_inj]
  rfl

end Mixed

end Shadow

end EmbeddedPortfolio.Numeric
