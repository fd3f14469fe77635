import Mathlib.Data.ZMod.Basic
import Mathlib.Algebra.Order.Floor.Ring
import Mathlib.Algebra.Order.Archimedean.Basic
import Mathlib.Data.Int.ModEq
import Mathlib.Data.Rat.Floor
import Mathlib.Tactic.Linarith
import Mathlib.Tactic.NormNum

/-!
# From real numbers to machine integers

Truncation toward zero over any ordered field with floors, the fixed-width
readings of an integer, and the float-to-integer conversion of C++: truncation
where the truncated value is representable, and anything representable where
it is not.
-/

namespace Library

section Truncation

variable {R : Type*} [Field R] [LinearOrder R] [IsStrictOrderedRing R]
  [FloorRing R]

/-- Truncation toward zero. -/
def truncate (value : R) : Int :=
  if 0 ≤ value then ⌊value⌋ else ⌈value⌉

@[simp] theorem truncate_intCast (value : Int) :
    truncate (value : R) = value := by
  simp [truncate]

@[simp] theorem truncate_neg (value : R) :
    truncate (-value) = -truncate value := by
  unfold truncate
  rcases lt_trichotomy value 0 with negative | rfl | positive
  · rw [if_pos (by linarith), if_neg (by linarith), Int.floor_neg]
  · simp
  · rw [if_neg (by linarith), if_pos (by linarith), Int.ceil_neg]

/-- Truncation reaches a positive bound exactly when the value does, and a
bound that is not positive already when the value is less than one below. -/
theorem le_truncate_iff (bound : Int) (value : R) :
    bound ≤ truncate value ↔
      if 0 < bound then (bound : R) ≤ value else (bound : R) - 1 < value := by
  unfold truncate
  split_ifs with nonnegative positive positive
  · exact Int.le_floor
  · refine iff_of_true ?_ ?_
    · exact (not_lt.mp positive).trans (Int.floor_nonneg.mpr nonnegative)
    · have : (bound : R) ≤ 0 := by exact_mod_cast not_lt.mp positive
      linarith
  · refine iff_of_false ?_ ?_
    · have : ⌈value⌉ ≤ 0 := Int.ceil_le.mpr (by
        push_cast
        exact (not_le.mp nonnegative).le)
      omega
    · have : (0 : R) < bound := by exact_mod_cast positive
      linarith
  · rw [← Int.sub_one_lt_iff, Int.lt_ceil]
    push_cast
    exact Iff.rfl

/-- The mirror image of `le_truncate_iff`. -/
theorem truncate_le_iff (bound : Int) (value : R) :
    truncate value ≤ bound ↔
      if bound < 0 then value ≤ (bound : R) else value < (bound : R) + 1 := by
  have mirrored := le_truncate_iff (-bound) (-value)
  rw [truncate_neg, neg_le_neg_iff] at mirrored
  rw [mirrored]
  simp only [Left.neg_pos_iff, Int.cast_neg, neg_le_neg_iff]
  split_ifs
  · exact Iff.rfl
  · constructor <;> intro <;> linarith

/-- Truncation changes a number by less than 1. -/
theorem abs_truncate_sub_lt (value : R) :
    |(truncate value : R) - value| < 1 := by
  unfold truncate
  split
  · have below := Int.floor_le value
    have above := Int.lt_floor_add_one value
    rw [abs_lt]
    constructor <;> linarith
  · have above := Int.le_ceil value
    have below := Int.ceil_lt_add_one value
    rw [abs_lt]
    constructor <;> linarith

/-- Truncation keeps a distance of at most 1. -/
theorem abs_truncate_sub_le_one
    {value other : R}
    (near : |value - other| ≤ 1) :
    |truncate value - truncate other| ≤ 1 := by
  have forward : ∀ value other : R, value ≤ other + 1 →
      truncate value ≤ truncate other + 1 := by
    intro value other close
    rw [truncate_le_iff]
    push_cast
    have bound := (truncate_le_iff (truncate other) other).mp le_rfl
    split at bound <;> split <;> linarith
  obtain ⟨lower, upper⟩ := abs_le.mp near
  have least := forward other value (by linarith)
  have most := forward value other (by linarith)
  exact abs_le.mpr ⟨by omega, by omega⟩

end Truncation

/-! ## Rounding to the nearest integer -/

section Nearest

variable {R : Type*} [Field R] [LinearOrder R] [FloorRing R]

/-- The nearest integer; halves go to the even neighbour. -/
def roundHalfEven (value : R) : Int :=
  if Int.fract value < 0.5 then ⌊value⌋
  else if 0.5 < Int.fract value then ⌊value⌋ + 1
  else if ⌊value⌋ % 2 = 0 then ⌊value⌋
  else ⌊value⌋ + 1

variable [IsStrictOrderedRing R]

/-- Rounding moves with a shift by an even number: halves go the same way. -/
theorem roundHalfEven_add_even
    {shift : Int}
    (even : shift % 2 = 0)
    (value : R) :
    roundHalfEven (value + shift) = roundHalfEven value + shift := by
  unfold roundHalfEven
  rw [Int.fract_add_intCast, Int.floor_add_intCast]
  split_ifs <;> omega

/-- Rounding goes to a nearest integer. -/
theorem abs_sub_roundHalfEven_le (value : R) :
    |value - roundHalfEven value| ≤ 1 / 2 := by
  have nonnegative := Int.fract_nonneg value
  have below := Int.fract_lt_one value
  have parts := Int.floor_add_fract value
  have half : (0.5 : R) = 1 / 2 := by norm_num
  unfold roundHalfEven
  rw [half, abs_le]
  split_ifs <;> push_cast <;> constructor <;> linarith

@[simp] theorem roundHalfEven_intCast (value : Int) :
    roundHalfEven (value : R) = value := by
  have half : (0 : R) < 0.5 := by norm_num
  simp [roundHalfEven, half]

@[simp] theorem roundHalfEven_zero : roundHalfEven (0 : R) = 0 := by
  simpa using roundHalfEven_intCast (R := R) 0

theorem roundHalfEven_mono {value other : R} (ordered : value ≤ other) :
    roundHalfEven value ≤ roundHalfEven other := by
  have parts := Int.floor_add_fract value
  have otherParts := Int.floor_add_fract other
  rcases (Int.floor_le_floor ordered).eq_or_lt with same | less
  · have later : Int.fract value ≤ Int.fract other := by
      rw [same] at parts
      linarith
    unfold roundHalfEven
    rw [same]
    split_ifs <;> first | omega | (exfalso; linarith)
  · unfold roundHalfEven
    split_ifs <;> omega

@[simp] theorem roundHalfEven_neg (value : R) :
    roundHalfEven (-value) = -roundHalfEven value := by
  have half : (0.5 : R) = 1 / 2 := by norm_num
  by_cases whole : Int.fract value = 0
  · obtain ⟨integer, rfl⟩ := Int.fract_eq_zero_iff.mp whole
    rw [← Int.cast_neg, roundHalfEven_intCast, roundHalfEven_intCast]
  · have rest := Int.fract_neg whole
    have floor : ⌊-value⌋ = -⌊value⌋ - 1 := by
      have parts := Int.floor_add_fract value
      have mirrored := Int.floor_add_fract (-value)
      have sum : ((⌊-value⌋ : Int) : R) = ((-⌊value⌋ - 1 : Int) : R) := by
        push_cast
        linarith
      exact_mod_cast sum
    unfold roundHalfEven
    rw [rest, floor, half]
    split_ifs <;> first | omega | (exfalso; linarith)

end Nearest

/-! ## Truncated quotients -/

/-- One divisor more makes the truncated quotient greater by 1, unless zero
lies between. -/
theorem tdiv_add_divisor_iff
    {divisor : Int}
    (positive : 0 < divisor)
    (value : Int) :
    (value + divisor).tdiv divisor = value.tdiv divisor + 1 ↔
      0 ≤ value ∨ value ≤ -divisor := by
  have nonzero : divisor ≠ 0 := positive.ne'
  by_cases nonnegative : 0 ≤ value
  · refine iff_of_true ?_ (Or.inl nonnegative)
    rw [Int.tdiv_eq_ediv_of_nonneg (by omega),
      Int.tdiv_eq_ediv_of_nonneg nonnegative, Int.add_ediv_of_dvd_right dvd_rfl,
      Int.ediv_self nonzero]
  · rw [or_iff_right nonnegative]
    have mirrored : value.tdiv divisor = -(-value / divisor) := by
      rw [← Int.tdiv_eq_ediv_of_nonneg (by omega), Int.neg_tdiv, neg_neg]
    by_cases below : value ≤ -divisor
    · refine iff_of_true ?_ below
      have next : (value + divisor).tdiv divisor =
          -((-value - divisor) / divisor) := by
        rw [← Int.tdiv_eq_ediv_of_nonneg (by omega), ← Int.neg_tdiv,
          neg_sub_left, neg_neg, add_comm]
      rw [next, mirrored, Int.sub_ediv_of_dvd _ dvd_rfl, Int.ediv_self nonzero]
      omega
    · refine iff_of_false ?_ below
      rw [Int.tdiv_eq_ediv_of_nonneg (by omega), mirrored,
        Int.ediv_eq_zero_of_lt (by omega) (by omega),
        Int.ediv_eq_zero_of_lt (by omega) (by omega)]
      decide

/-- Where the quotient follows, the remainder stays. -/
theorem tmod_add_divisor
    {divisor value : Int}
    (follows : (value + divisor).tdiv divisor = value.tdiv divisor + 1) :
    (value + divisor).tmod divisor = value.tmod divisor := by
  rw [Int.tmod_def, Int.tmod_def, follows, mul_add, mul_one,
    add_sub_add_right_eq_sub]

/-! ## Fixed-width signed integers -/

/-- Representability in a signed word of the given number of bits. -/
def Fits (width : Nat) (value : Int) : Prop :=
  -2 ^ (width - 1) ≤ value ∧ value < 2 ^ (width - 1)

instance (width : Nat) (value : Int) : Decidable (Fits width value) :=
  inferInstanceAs (Decidable (_ ∧ _))

theorem two_pow_pred {width : Nat} (positive : 0 < width) :
    (2 : Int) ^ width = 2 * 2 ^ (width - 1) := by
  rw [← pow_succ', Nat.sub_add_cancel positive]

/-- What fits a word fits every wider one. -/
theorem Fits.wider {narrow wide : Nat} {value : Int}
    (fits : Fits narrow value)
    (wider : narrow ≤ wide) :
    Fits wide value := by
  have power : (2 : Int) ^ (narrow - 1) ≤ 2 ^ (wide - 1) :=
    pow_le_pow_right₀ (by decide) (by omega)
  obtain ⟨lower, upper⟩ := fits
  unfold Fits
  omega

/-- The sum of two numbers fits a word with one bit more. -/
theorem Fits.add {width : Nat} {left right : Int}
    (positive : 0 < width)
    (leftFits : Fits width left)
    (rightFits : Fits width right) :
    Fits (width + 1) (left + right) := by
  have power := two_pow_pred positive
  obtain ⟨leftLower, leftUpper⟩ := leftFits
  obtain ⟨rightLower, rightUpper⟩ := rightFits
  unfold Fits
  rw [Nat.add_sub_cancel, power]
  omega

/-- Reading a word changes nothing that fits it. -/
theorem bmod_of_fits {width : Nat} {value : Int}
    (positive : 0 < width)
    (fits : Fits width value) :
    Int.bmod value (2 ^ width) = value := by
  have power := two_pow_pred positive
  obtain ⟨lower, upper⟩ := fits
  apply Int.bmod_eq_of_le
  · push_cast
    omega
  · push_cast
    omega

theorem fits_bmod {width : Nat} (positive : 0 < width) (value : Int) :
    Fits width (Int.bmod value (2 ^ width)) := by
  have power := two_pow_pred positive
  have lower := Int.le_bmod (x := value) (m := 2 ^ width) (by positivity)
  have upper := Int.bmod_lt (x := value) (m := 2 ^ width) (by positivity)
  push_cast at lower upper
  unfold Fits
  omega

/-- A word reads back the number that it was made of, where that fits. -/
theorem Fits.toInt_ofInt {width : Nat} {value : Int}
    (fits : Fits width value)
    (positive : 0 < width) :
    (BitVec.ofInt width value).toInt = value := by
  rw [BitVec.toInt_ofInt]
  exact bmod_of_fits positive fits

/-- The signed 32-bit number congruent to an integer. -/
def int32 (value : Int) : Int := Int.bmod value (2 ^ 32)

/-- The signed 64-bit number congruent to an integer. -/
def int64 (value : Int) : Int := Int.bmod value (2 ^ 64)

theorem int32_of_fits {value : Int} (fits : Fits 32 value) :
    int32 value = value :=
  bmod_of_fits (by decide) fits

theorem int64_of_fits {value : Int} (fits : Fits 64 value) :
    int64 value = value :=
  bmod_of_fits (by decide) fits

theorem fits_int32 (value : Int) : Fits 32 (int32 value) :=
  fits_bmod (by decide) value

theorem fits_int64 (value : Int) : Fits 64 (int64 value) :=
  fits_bmod (by decide) value

/-- Numbers that fit are told apart by their 32-bit differences from another
one. -/
theorem int32_sub_eq_iff {left right : Int}
    (leftFits : Fits 32 left)
    (rightFits : Fits 32 right)
    (value : Int) :
    int32 (value - left) = int32 (value - right) ↔ left = right := by
  have cancelled : int32 (value - left) = int32 (value - right) ↔
      int32 left = int32 right :=
    Int.bmod_sub_cancel_left value
  rw [cancelled, int32_of_fits leftFits, int32_of_fits rightFits]

/-- A 64-bit reading is congruent to the integer it reads. -/
theorem int64_modEq (value : Int) : int64 value ≡ value [ZMOD 2 ^ 64] := by
  exact_mod_cast Int.bmod_emod (x := value) (m := 2 ^ 64)

/-- Congruent integers have one 64-bit reading. -/
theorem int64_congr {left right : Int}
    (congruent : left ≡ right [ZMOD 2 ^ 64]) :
    int64 left = int64 right := by
  have equal : left % ((2 ^ 64 : Nat) : Int) = right % ((2 ^ 64 : Nat) : Int) := by
    exact_mod_cast congruent
  unfold int64
  rw [← Int.emod_bmod left, equal, Int.emod_bmod]

/-- Counts as a 64-bit counter sees them. -/
abbrev Count64 := ZMod (2 ^ 64)

@[simp] theorem int64_count (value : Int) :
    ((int64 value : Int) : Count64) = (value : Count64) :=
  (ZMod.intCast_eq_intCast_iff _ _ _).mpr (by exact_mod_cast int64_modEq value)

/-- Two 64-bit readings agree exactly when a counter cannot tell them apart. -/
theorem int64_eq_iff (left right : Int) :
    int64 left = int64 right ↔ (left : Count64) = (right : Count64) := by
  constructor
  · intro equal
    rw [← int64_count left, equal, int64_count]
  · intro equal
    have congruent := (ZMod.intCast_eq_intCast_iff _ _ _).mp equal
    exact int64_congr (by exact_mod_cast congruent)

/-- A counter tells apart the integers that it can hold. -/
theorem eq_of_count_eq {left right : Int}
    (leftFits : Fits 64 left)
    (rightFits : Fits 64 right)
    (equal : (left : Count64) = (right : Count64)) :
    left = right := by
  rw [← int64_of_fits leftFits, ← int64_of_fits rightFits]
  exact (int64_eq_iff left right).mpr equal

/-! ## Conversion of a floating-point value -/

/-- A conversion of real numbers to signed integers as C++ specifies it.  The
standard leaves the result open where the truncated value does not fit, so
every function that agrees with truncation where it does fit is admitted. -/
structure FloatCast (R : Type*) [Field R] [LinearOrder R] [FloorRing R] where
  /-- `static_cast<int32_t>`. -/
  toInt32 : R → Int
  /-- `static_cast<int64_t>`. -/
  toInt64 : R → Int
  toInt32_fits : ∀ value, Fits 32 (toInt32 value)
  toInt64_fits : ∀ value, Fits 64 (toInt64 value)
  toInt32_eq : ∀ value, Fits 32 (truncate value) →
    toInt32 value = truncate value
  toInt64_eq : ∀ value, Fits 64 (truncate value) →
    toInt64 value = truncate value

/-- The conversion that reduces an out-of-range value to the word's width. -/
def FloatCast.wrapping (R : Type*) [Field R] [LinearOrder R] [FloorRing R] :
    FloatCast R where
  toInt32 value := int32 (truncate value)
  toInt64 value := int64 (truncate value)
  toInt32_fits _ := fits_int32 _
  toInt64_fits _ := fits_int64 _
  toInt32_eq _ := int32_of_fits
  toInt64_eq _ := int64_of_fits

/-- The nearest number of a signed word. -/
def clampWord (width : Nat) (value : Int) : Int :=
  max (-2 ^ (width - 1)) (min (2 ^ (width - 1) - 1) value)

theorem fits_clampWord (width : Nat) (value : Int) :
    Fits width (clampWord width value) := by
  have positive : (0 : Int) < 2 ^ (width - 1) := by positivity
  unfold Fits clampWord
  omega

theorem clampWord_of_fits {width : Nat} {value : Int}
    (fits : Fits width value) :
    clampWord width value = value := by
  obtain ⟨lower, upper⟩ := fits
  unfold clampWord
  omega

/-- The conversion of processors that take an out-of-range value to the nearest
number of the word. -/
def FloatCast.saturating (R : Type*) [Field R] [LinearOrder R] [FloorRing R] :
    FloatCast R where
  toInt32 value := clampWord 32 (truncate value)
  toInt64 value := clampWord 64 (truncate value)
  toInt32_fits _ := fits_clampWord _ _
  toInt64_fits _ := fits_clampWord _ _
  toInt32_eq _ := clampWord_of_fits
  toInt64_eq _ := clampWord_of_fits

/-- `static_cast<uint64_t>` from a floating-point number: truncation where the
result is representable, anything where it is not. -/
structure UnsignedCast (R : Type*) [Field R] [LinearOrder R] [FloorRing R] where
  toUInt64 : R → BitVec 64
  toUInt64_eq : ∀ value, 0 ≤ truncate value → truncate value < 2 ^ 64 →
    ((toUInt64 value).toNat : Int) = truncate value

/-- The conversion that reduces an out-of-range value to the word's width. -/
def UnsignedCast.wrapping (R : Type*) [Field R] [LinearOrder R]
    [FloorRing R] : UnsignedCast R where
  toUInt64 value := BitVec.ofInt 64 (truncate value)
  toUInt64_eq value nonnegative small := by
    rw [BitVec.toNat_ofInt, Int.toNat_of_nonneg (Int.emod_nonneg _ (by decide)),
      Int.emod_eq_of_lt nonnegative]
    exact small

/-! ## Floating-point numbers -/

/-- A floating-point number, less its rounding; `none` where it is infinite or
not a number. -/
abbrev Double (R : Type*) := Option R

/-- The quotient of two finite numbers. -/
def Double.quotient {R : Type*} [Field R] [DecidableEq R]
    (dividend divisor : R) : Double R :=
  if divisor = 0 then none else some (dividend / divisor)

/-- The constant `M_PI`, which is also Python's `math.pi`. -/
def pi {R : Type*} [Field R] : R := 3.14159265358979323846

end Library
