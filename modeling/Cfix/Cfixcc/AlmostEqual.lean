import Mathlib.Data.BitVec
import Mathlib.Algebra.Order.Group.Abs
import Mathlib.Algebra.Order.Group.Int

/-!
# `Cfixcc.AlmostEqual` — equality of floating-point numbers (`cfixcc.h`)

Two numbers are compared by their bit patterns, which are read as signed integers and made to be in the order of
the numbers. The constant that this takes is that of 32 bits for both formats, so that the distance of two
`double`s with different signs is off.
-/

namespace Cfix.Cfixcc

/-! ## Formats -/

/-- The types that are compared, with the integers of their size: `LONG` and `LONGLONG`. -/
inductive FloatFormat where
  | float
  | double
  deriving DecidableEq, Repr

namespace FloatFormat

@[reducible] def bits : FloatFormat → Nat
  | .float  => 32
  | .double => 64

/-- The magnitude bits of infinity; greater ones are those of a NaN. -/
def infinity : FloatFormat → Nat
  | .float  => 0x7F800000
  | .double => 0x7FF0000000000000

end FloatFormat

variable {f : FloatFormat}

/-- The magnitude bits. -/
def magnitude (x : BitVec f.bits) : Nat := x.toNat % 2 ^ (f.bits - 1)

def isNaN (x : BitVec f.bits) : Bool := f.infinity < magnitude x

/-- The place of a number in the order of its format. -/
def ord (x : BitVec f.bits) : Int := if x.msb then -(magnitude x : Int) else magnitude x

/-! ## Comparison -/

/-- `if ( LhsInt < 0 ) { LhsInt = 0x80000000 - LhsInt; }`, for an integer of `n` bits. -/
def ordered {n : Nat} (x : BitVec n) : BitVec n := if x.slt 0#n then BitVec.ofNat n 0x80000000 - x else x

/-- `_abs64`, which the least number overflows. -/
def abs64 (x : BitVec 64) : BitVec 64 := if x.slt 0#64 then -x else x

/-- `AlmostEqual2sComplement`. The difference has the width of the integers, and is then extended for `_abs64`. -/
def almostEqual2sComplement (f : FloatFormat) (lhs rhs maxUlps : BitVec f.bits) : Bool :=
  (abs64 ((ordered lhs - ordered rhs).signExtend 64)).sle (maxUlps.signExtend 64)

/-- `CFIXCC_FLOAT_COMPARE_MAX_ULPS`. -/
def floatCompareMaxUlps : Nat := 10

/-- `Equal::Relate`, for two `float`s or two `double`s. -/
def equalRelate (f : FloatFormat) (lhs rhs : BitVec f.bits) : Bool :=
  almostEqual2sComplement f lhs rhs (BitVec.ofNat f.bits floatCompareMaxUlps)

/-! ## What is computed -/

/-- The sign bit counts as the least number. -/
theorem toInt_eq (x : BitVec f.bits) :
    x.toInt = if x.msb then (magnitude x : Int) - 2 ^ (f.bits - 1) else magnitude x := by
  rw [magnitude, BitVec.toInt_eq_toNat_cond, BitVec.msb_eq_decide]
  have hlt := x.isLt
  cases f with
  | float =>
      simp only [FloatFormat.bits] at *
      by_cases h : 2 ^ 31 ≤ x.toNat
      · rw [if_neg (by omega), if_pos (by simpa using h)]
        omega
      · rw [if_pos (by omega), if_neg (by simpa using h)]
        omega
  | double =>
      simp only [FloatFormat.bits] at *
      by_cases h : 2 ^ 63 ≤ x.toNat
      · rw [if_neg (by omega), if_pos (by simpa using h)]
        omega
      · rw [if_pos (by omega), if_neg (by simpa using h)]
        omega

/-- Negative integers are taken from the constant. -/
theorem ordered_toInt {n : Nat} (x : BitVec n) :
    (ordered x).toInt = if x.msb then (2 ^ 31 - x.toInt).bmod (2 ^ n) else x.toInt := by
  rw [ordered, BitVec.slt_zero_eq_msb]
  cases x.msb with
  | false => rfl
  | true  =>
      rw [if_pos rfl, if_pos rfl, BitVec.toInt_sub, BitVec.toInt_ofNat', Int.bmod_sub_bmod]
      rfl

/-- A number modulo `2 ^ 64`, as a signed one. -/
theorem bmod_two_pow_64 {x : Int} (hge : -2 ^ 64 ≤ x) (hlt : x < 2 ^ 64) :
    x < -2 ^ 63 ∧ x.bmod (2 ^ 64) = x + 2 ^ 64 ∨ 2 ^ 63 ≤ x ∧ x.bmod (2 ^ 64) = x - 2 ^ 64 ∨
      -2 ^ 63 ≤ x ∧ x < 2 ^ 63 ∧ x.bmod (2 ^ 64) = x := by
  rw [Int.bmod_def]
  split <;> omega

/-- The bound is exceeded by all but the small distances, and the one that overflows. -/
theorem abs64_toInt_le (d : BitVec 64) (bound : Nat) :
    (abs64 d).toInt ≤ bound ↔ d.toInt = -2 ^ 63 ∨ |d.toInt| ≤ bound := by
  have hge : -2 ^ 63 ≤ d.toInt := d.le_toInt
  by_cases hneg : d.toInt < 0
  · have hslt : d.slt 0#64 = true := BitVec.slt_iff_toInt_lt.mpr hneg
    have hbmod := bmod_two_pow_64 (by omega : -2 ^ 64 ≤ -d.toInt) (by omega)
    rw [abs64, if_pos hslt, BitVec.toInt_neg, abs_of_neg hneg]
    omega
  · have hslt : ¬ d.slt 0#64 = true := fun h => hneg (BitVec.slt_iff_toInt_lt.mp h)
    rw [abs64, if_neg hslt, abs_of_nonneg (by omega)]
    omega

/-- A bound that is small has the same value in both formats. -/
theorem toInt_maxUlps (f : FloatFormat) {maxUlps : Nat} (h : maxUlps ≤ 2 ^ 22) :
    ((BitVec.ofNat f.bits maxUlps).signExtend 64).toInt = maxUlps := by
  cases f with
  | float =>
      rw [BitVec.toInt_signExtend_of_le (by decide), BitVec.toInt_ofNat', Int.bmod_def]
      simp only [FloatFormat.bits]
      omega
  | double =>
      rw [BitVec.toInt_signExtend_of_le (by decide), BitVec.toInt_ofNat', Int.bmod_def]
      simp only [FloatFormat.bits]
      omega

/-- The comparison is of the distance that is left after the subtraction. -/
theorem almostEqual2sComplement_iff (lhs rhs : BitVec f.bits) {maxUlps : Nat} (h : maxUlps ≤ 2 ^ 22) {d : Int}
    (hd : ((ordered lhs).toInt - (ordered rhs).toInt).bmod (2 ^ f.bits) = d) :
    almostEqual2sComplement f lhs rhs (BitVec.ofNat f.bits maxUlps) = true ↔ d = -2 ^ 63 ∨ |d| ≤ maxUlps := by
  rw [almostEqual2sComplement, BitVec.sle_iff_toInt_le, toInt_maxUlps f h, abs64_toInt_le,
    BitVec.toInt_signExtend_of_le (by cases f <;> decide), BitVec.toInt_sub, hd]

theorem magnitude_le {x : BitVec f.bits} (h : isNaN x = false) : magnitude x ≤ f.infinity :=
  Nat.not_lt.mp (of_decide_eq_false h)

theorem ordered_toInt_float (x : BitVec FloatFormat.float.bits) (h : isNaN x = false) : (ordered x).toInt = ord x := by
  have hmagnitude : magnitude x ≤ 0x7F800000 := magnitude_le h
  rw [ordered_toInt, toInt_eq, ord]
  cases x.msb with
  | false => rfl
  | true  =>
      simp only [if_true, Int.bmod_def, FloatFormat.bits]
      omega

/-- The constant is too small for negative `double`s: they are half of the range away from their place. -/
theorem ordered_toInt_double (x : BitVec FloatFormat.double.bits) (h : isNaN x = false) :
    x.msb = false ∧ (ordered x).toInt = magnitude x ∨
      x.msb = true ∧ magnitude x ≤ 2 ^ 31 ∧ (ordered x).toInt = 2 ^ 31 - 2 ^ 63 - magnitude x ∨
      x.msb = true ∧ 2 ^ 31 < magnitude x ∧ (ordered x).toInt = 2 ^ 31 + 2 ^ 63 - magnitude x := by
  have hmagnitude : magnitude x ≤ 0x7FF0000000000000 := magnitude_le h
  rw [ordered_toInt, toInt_eq]
  cases x.msb with
  | false => exact Or.inl ⟨rfl, rfl⟩
  | true  =>
      simp only [if_true, FloatFormat.bits, reduceCtorEq, false_and, true_and, false_or]
      have hbmod := bmod_two_pow_64 (x := 2 ^ 31 - (magnitude x - 2 ^ (64 - 1))) (by omega) (by omega)
      omega

theorem ord_cases (x : BitVec f.bits) : x.msb = false ∧ ord x = magnitude x ∨ x.msb = true ∧ ord x = -magnitude x := by
  rw [ord]
  cases x.msb with
  | false => exact Or.inl ⟨rfl, rfl⟩
  | true  => exact Or.inr ⟨rfl, rfl⟩

/-! ## The distance -/

/-- The comparison is that of the distance in ULPs. -/
def MeasuresUlps (f : FloatFormat) (lhs rhs : BitVec f.bits) (maxUlps : Nat) : Prop :=
  almostEqual2sComplement f lhs rhs (BitVec.ofNat f.bits maxUlps) = true ↔ |ord lhs - ord rhs| ≤ maxUlps

/-- **The comparison of `float`s is right.** -/
theorem measuresUlps_float {lhs rhs : BitVec FloatFormat.float.bits} {maxUlps : Nat} (hlhs : isNaN lhs = false)
    (hrhs : isNaN rhs = false) (hmax : maxUlps ≤ 2 ^ 22) : MeasuresUlps .float lhs rhs maxUlps := by
  have hl : magnitude lhs ≤ 0x7F800000 := magnitude_le hlhs
  have hr : magnitude rhs ≤ 0x7F800000 := magnitude_le hrhs
  rw [MeasuresUlps, almostEqual2sComplement_iff lhs rhs hmax rfl, ordered_toInt_float lhs hlhs,
    ordered_toInt_float rhs hrhs, abs_le, abs_le, Int.bmod_def, ord, ord]
  simp only [FloatFormat.bits]
  cases lhs.msb <;> cases rhs.msb <;> simp only [if_true, Bool.false_eq_true, if_false] <;> omega

/-- The distance of two `double`s with different signs, if their magnitudes are `a` and `b`, is taken to be that of
    the sum of these from this number. -/
def pivot : Int := 2 ^ 63 + 2 ^ 31

/-- **When the comparison of `double`s is right**: for equal signs, and for magnitudes that are neither so small
    that the numbers are near zero nor have a sum that is taken for a small distance. -/
theorem measuresUlps_double {lhs rhs : BitVec FloatFormat.double.bits} {maxUlps : Nat} (hlhs : isNaN lhs = false)
    (hrhs : isNaN rhs = false) (hmax : maxUlps ≤ 2 ^ 22) :
    MeasuresUlps .double lhs rhs maxUlps ↔ lhs.msb = rhs.msb ∨
      maxUlps < magnitude lhs + magnitude rhs ∧ magnitude lhs + magnitude rhs ≠ 2 ^ 31 ∧
        (maxUlps : Int) < |magnitude lhs + magnitude rhs - pivot| := by
  have hl : magnitude lhs ≤ 0x7FF0000000000000 := magnitude_le hlhs
  have hr : magnitude rhs ≤ 0x7FF0000000000000 := magnitude_le hrhs
  have hlhs := ordered_toInt_double lhs hlhs
  have hrhs := ordered_toInt_double rhs hrhs
  have hordl := ord_cases lhs
  have hordr := ord_cases rhs
  have hbmod := bmod_two_pow_64 (x := (ordered lhs).toInt - (ordered rhs).toInt) (by omega) (by omega)
  generalize hd : ((ordered lhs).toInt - (ordered rhs).toInt).bmod (2 ^ 64) = d at hbmod
  rw [MeasuresUlps, almostEqual2sComplement_iff lhs rhs hmax hd, abs_le, abs_le, lt_abs, pivot]
  cases hl : lhs.msb <;> cases hr : rhs.msb <;>
    simp only [hl, hr, reduceCtorEq, false_and, true_and, false_or, or_false, true_or, iff_true] at * <;> omega

/-- **When the comparison is that of the distance in ULPs.** -/
theorem measuresUlps_iff {lhs rhs : BitVec f.bits} {maxUlps : Nat} (hlhs : isNaN lhs = false) (hrhs : isNaN rhs = false)
    (hmax : maxUlps ≤ 2 ^ 22) :
    MeasuresUlps f lhs rhs maxUlps ↔ f = .float ∨ lhs.msb = rhs.msb ∨
      maxUlps < magnitude lhs + magnitude rhs ∧ magnitude lhs + magnitude rhs ≠ 2 ^ 31 ∧
        (maxUlps : Int) < |magnitude lhs + magnitude rhs - pivot| := by
  cases f with
  | float  => exact iff_of_true (measuresUlps_float hlhs hrhs hmax) (Or.inl rfl)
  | double => exact (measuresUlps_double hlhs hrhs hmax).trans (by simp)

/-- 1.0 and -1.0. -/
theorem measuresUlps_ones : MeasuresUlps .double 0x3FF0000000000000#64 0xBFF0000000000000#64 10 :=
  (measuresUlps_iff (by decide) (by decide) (by decide)).mpr (by decide)

/-- Zero and negative zero are different `double`s. -/
theorem not_measuresUlps_zero : ¬ MeasuresUlps .double 0x0000000000000000#64 0x8000000000000000#64 10 := by
  rw [MeasuresUlps]
  decide

/-- They are equal `float`s, as the tests want it. -/
example : equalRelate .float 0x00000000#32 0x80000000#32 = true := by decide

/-- These `double`s are 2.0 and -2.0 with a few more ULPs, and pass for equal. -/
example : equalRelate .double 0x4000000000000000#64 0xC000000080000000#64 = true := by decide

end Cfix.Cfixcc
