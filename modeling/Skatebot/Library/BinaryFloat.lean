import Mathlib.Data.Int.Log
import Skatebot.Library.Rounding

/-!
# Binary floating-point numbers

A format has so many binary digits, and an exponent without bounds.  A result is
rounded to the nearest number of the format, of two that are nearest to the one
whose last digit is even.
-/

namespace Library

variable {R : Type*} [Field R] [LinearOrder R] [FloorRing R]

/-- What a number's last digit counts, in a format of so many digits. -/
def lastPlace (digits : Nat) (value : R) : R :=
  2.0 ^ (Int.log 2 |value| + 1 - digits)

/-- The nearest number of a format. -/
def roundBinary (digits : Nat) (value : R) : R :=
  roundHalfEven (value / lastPlace digits value) * lastPlace digits value

/-- The nearest number of type `float`. -/
def single (value : R) : R := roundBinary 24 value

/-- The nearest number of type `double`. -/
def double (value : R) : R := roundBinary 53 value

variable [IsStrictOrderedRing R]

/-! ## Last places -/

omit [FloorRing R] in
theorem two_eq_natCast : (2.0 : R) = ((2 : Nat) : R) := by
  norm_num

theorem lastPlace_pos (digits : Nat) (value : R) :
    0 < lastPlace digits value := by
  have base : (0 : R) < 2.0 := by norm_num
  exact zpow_pos base _

omit [IsStrictOrderedRing R] in
theorem lastPlace_neg (digits : Nat) (value : R) :
    lastPlace digits (-value) = lastPlace digits value := by
  rw [lastPlace, abs_neg, lastPlace]

/-- A number has as many digits as the format, up to its last place. -/
theorem lastPlace_bounds
    (digits : Nat)
    {value : R}
    (nonzero : value ≠ 0) :
    lastPlace digits value * 2.0 ^ digits ≤ 2.0 * |value| ∧
      |value| < lastPlace digits value * 2.0 ^ digits := by
  have base : (2.0 : R) ≠ 0 := by norm_num
  have joined : lastPlace digits value * 2.0 ^ digits =
      2.0 ^ (Int.log 2 |value| + 1) := by
    rw [lastPlace, ← zpow_natCast, ← zpow_add₀ base, sub_add_cancel]
  have least := Int.zpow_log_le_self (R := R) one_lt_two
    (abs_pos.mpr nonzero)
  have next := Int.lt_zpow_succ_log_self (R := R) one_lt_two |value|
  rw [← two_eq_natCast] at least next
  rw [joined]
  refine ⟨?_, next⟩
  rw [zpow_add_one₀ base, mul_comm]
  have positive : (0 : R) ≤ 2.0 := by norm_num
  exact mul_le_mul_of_nonneg_left least positive

/-! ## Rounding -/

@[simp] theorem roundBinary_zero (digits : Nat) :
    roundBinary digits (0 : R) = 0 := by
  simp [roundBinary]

@[simp] theorem roundBinary_neg (digits : Nat) (value : R) :
    roundBinary digits (-value) = -roundBinary digits value := by
  rw [roundBinary, roundBinary, lastPlace_neg, neg_div, roundHalfEven_neg]
  push_cast
  ring

/-- Rounding changes a number by at most half of its last place. -/
theorem abs_roundBinary_sub_le (digits : Nat) (value : R) :
    |roundBinary digits value - value| ≤ |value| / 2.0 ^ digits := by
  rcases eq_or_ne value 0 with rfl | nonzero
  · simp
  have positive := lastPlace_pos digits value
  have power : (0 : R) < 2.0 ^ digits := by
    have base : (0 : R) < 2.0 := by norm_num
    exact pow_pos base digits
  have two : (2.0 : R) = 2 := by norm_num
  obtain ⟨least, -⟩ := lastPlace_bounds digits nonzero
  have near := abs_sub_roundHalfEven_le (value / lastPlace digits value)
  have scaled : roundBinary digits value - value =
      -(value / lastPlace digits value -
        roundHalfEven (value / lastPlace digits value)) *
          lastPlace digits value := by
    rw [roundBinary, neg_mul, sub_mul, div_mul_cancel₀ _ positive.ne']
    ring
  rw [scaled, abs_mul, abs_neg, abs_of_pos positive, le_div_iff₀ power]
  have halved := mul_le_mul_of_nonneg_right near
    (mul_nonneg positive.le power.le)
  calc |value / lastPlace digits value -
          roundHalfEven (value / lastPlace digits value)| *
            lastPlace digits value * 2.0 ^ digits
      ≤ 1 / 2 * (lastPlace digits value * 2.0 ^ digits) := by
        rw [mul_assoc]
        exact halved
    _ ≤ 1 / 2 * (2.0 * |value|) := by linarith
    _ = |value| := by
        rw [two]
        ring

/-- A multiple of its last place is left as it is. -/
theorem roundBinary_of_multiple
    {digits : Nat}
    {value : R}
    {multiple : Int}
    (whole : value = multiple * lastPlace digits value) :
    roundBinary digits value = value := by
  have quotient : value / lastPlace digits value = multiple := by
    rw [div_eq_iff (lastPlace_pos digits value).ne']
    exact whole
  rw [roundBinary, quotient, roundHalfEven_intCast]
  exact whole.symm

/-- A number of the format is left as it is. -/
theorem roundBinary_of_digits
    {digits : Nat}
    (positive : 0 < digits)
    {mantissa : Int}
    (small : |mantissa| ≤ 2 ^ digits)
    (exponent : Int) :
    roundBinary digits ((mantissa : R) * 2.0 ^ exponent) =
      mantissa * 2.0 ^ exponent := by
  rcases eq_or_ne mantissa 0 with rfl | nonzero
  · simp
  let value : R := mantissa * 2.0 ^ exponent
  let place := Int.log 2 |value| + 1 - digits
  have base : (2.0 : R) ≠ 0 := by norm_num
  have power : (0 : R) < 2.0 ^ exponent := zpow_pos (by norm_num) exponent
  have size : |value| = ((|mantissa| : Int) : R) * 2.0 ^ exponent := by
    rw [abs_mul, abs_of_pos power, Int.cast_abs]
  have least : 2.0 ^ Int.log 2 |value| ≤ |value| := by
    rw [two_eq_natCast]
    exact Int.zpow_log_le_self one_lt_two
      (abs_pos.mpr (mul_ne_zero (Int.cast_ne_zero.mpr nonzero) power.ne'))
  have within : ((|mantissa| : Int) : R) ≤ 2.0 ^ digits := by
    have two : (2.0 : R) = ((2 : Int) : R) := by norm_num
    rw [two]
    exact_mod_cast small
  have bounded : Int.log 2 |value| ≤ digits + exponent := by
    have under : (2.0 : R) ^ Int.log 2 |value| ≤
        2.0 ^ ((digits : Int) + exponent) := by
      calc (2.0 : R) ^ Int.log 2 |value|
          ≤ |value| := least
        _ ≤ 2.0 ^ digits * 2.0 ^ exponent := by
          rw [size]
          exact mul_le_mul_of_nonneg_right within power.le
        _ = 2.0 ^ ((digits : Int) + exponent) := by
          rw [zpow_add₀ base, zpow_natCast]
    exact (zpow_le_zpow_iff_right₀ (by norm_num)).mp under
  rcases (show place ≤ exponent ∨ place = exponent + 1 by omega) with
    finer | coarser
  · have whole : (2.0 : R) ^ exponent =
        2.0 ^ (exponent - place).toNat * 2.0 ^ place := by
      rw [← zpow_natCast, ← zpow_add₀ base, Int.toNat_of_nonneg (by omega),
        sub_add_cancel]
    have two : (2.0 : R) = 2 := by norm_num
    have multiple : value =
        ((mantissa * 2 ^ (exponent - place).toNat : Int) : R) *
          2.0 ^ place := by
      change (mantissa : R) * 2.0 ^ exponent = _
      rw [whole, two]
      push_cast
      ring
    exact roundBinary_of_multiple multiple
  · -- the mantissa is the power of two that has one digit more
    have full : |mantissa| = 2 ^ digits := by
      apply le_antisymm small
      have reached : (2.0 : R) ^ digits ≤ ((|mantissa| : Int) : R) := by
        rw [← mul_le_mul_iff_left₀ power, ← size, ← zpow_natCast,
          ← zpow_add₀ base]
        convert least using 2
        omega
      have two : (2.0 : R) = ((2 : Int) : R) := by norm_num
      rw [two] at reached
      exact_mod_cast reached
    obtain ⟨half, rfl⟩ : (2 : Int) ∣ mantissa := by
      rw [← dvd_abs, full]
      exact dvd_pow_self 2 positive.ne'
    have two : (2.0 : R) = 2 := by norm_num
    have multiple : value = (half : R) * 2.0 ^ place := by
      change ((2 * half : Int) : R) * 2.0 ^ exponent = _
      rw [coarser, zpow_add_one₀ base, two]
      push_cast
      ring
    exact roundBinary_of_multiple multiple

/-- A result is a number of the format. -/
theorem roundBinary_digits
    (digits : Nat)
    (value : R) :
    ∃ mantissa exponent : Int, |mantissa| ≤ 2 ^ digits ∧
      roundBinary digits value = mantissa * 2.0 ^ exponent := by
  refine ⟨roundHalfEven (value / lastPlace digits value), _, ?_, rfl⟩
  rcases eq_or_ne value 0 with rfl | nonzero
  · simp
  have place := lastPlace_pos digits value
  have two : (2.0 : R) = 2 := by norm_num
  have quotient : |value / lastPlace digits value| ≤
      ((2 ^ digits : Int) : R) := by
    rw [abs_div, abs_of_pos place, div_le_iff₀ place]
    have below := (lastPlace_bounds digits nonzero).2.le
    rw [two] at below
    push_cast
    linarith
  obtain ⟨lower, upper⟩ := abs_le.mp quotient
  have least := roundHalfEven_mono lower
  have most := roundHalfEven_mono upper
  rw [roundHalfEven_neg, roundHalfEven_intCast] at least
  rw [roundHalfEven_intCast] at most
  exact abs_le.mpr ⟨least, most⟩

/-- Rounding again changes nothing. -/
theorem roundBinary_roundBinary
    {digits : Nat}
    (positive : 0 < digits)
    (value : R) :
    roundBinary digits (roundBinary digits value) =
      roundBinary digits value := by
  obtain ⟨mantissa, exponent, small, result⟩ :=
    roundBinary_digits digits value
  rw [result, roundBinary_of_digits positive small]

theorem roundBinary_intCast
    {digits : Nat}
    (positive : 0 < digits)
    {value : Int}
    (small : |value| ≤ 2 ^ digits) :
    roundBinary digits (value : R) = value := by
  simpa using roundBinary_of_digits (R := R) positive small 0

/-! ## Rounding keeps the order -/

theorem roundBinary_nonneg
    (digits : Nat)
    {value : R}
    (nonnegative : 0 ≤ value) :
    0 ≤ roundBinary digits value := by
  have place := (lastPlace_pos digits value).le
  have quotient := roundHalfEven_mono (div_nonneg nonnegative place)
  rw [roundHalfEven_zero] at quotient
  exact mul_nonneg (Int.cast_nonneg quotient) place

/-- A power of two is not passed. -/
theorem roundBinary_between
    {digits : Nat}
    (positive : 0 < digits)
    {value : R}
    (above : 0 < value) :
    2.0 ^ Int.log 2 value ≤ roundBinary digits value ∧
      roundBinary digits value ≤ 2.0 ^ (Int.log 2 value + 1) := by
  have base : (2.0 : R) ≠ 0 := by norm_num
  have size : |value| = value := abs_of_pos above
  have place := lastPlace_pos digits value
  have least := Int.zpow_log_le_self (R := R) one_lt_two above
  have next := (Int.lt_zpow_succ_log_self (R := R) one_lt_two value).le
  rw [← two_eq_natCast] at least next
  have scaled : ∀ exponent : Int, 0 ≤ exponent →
      ((2 ^ exponent.toNat : Int) : R) * lastPlace digits value =
        2.0 ^ (exponent + (Int.log 2 value + 1 - digits)) := by
    intro exponent nonnegative
    have two : ((2 : Int) : R) = 2.0 := by norm_num
    rw [lastPlace, size, zpow_add₀ base, Int.cast_pow, two, ← zpow_natCast,
      Int.toNat_of_nonneg nonnegative]
  have lower := scaled (digits - 1) (by omega)
  have upper := scaled digits (by omega)
  rw [show (digits : Int) - 1 + (Int.log 2 value + 1 - digits) =
    Int.log 2 value by ring] at lower
  rw [show (digits : Int) + (Int.log 2 value + 1 - digits) =
    Int.log 2 value + 1 by ring] at upper
  rw [← lower] at least
  rw [← upper] at next
  constructor
  · rw [← lower]
    apply mul_le_mul_of_nonneg_right _ place.le
    have reached := roundHalfEven_mono ((le_div_iff₀ place).mpr least)
    rw [roundHalfEven_intCast] at reached
    exact_mod_cast reached
  · rw [← upper]
    apply mul_le_mul_of_nonneg_right _ place.le
    have reached := roundHalfEven_mono ((div_le_iff₀ place).mpr next)
    rw [roundHalfEven_intCast] at reached
    exact_mod_cast reached

/-- Rounding keeps the order. -/
theorem roundBinary_mono
    {digits : Nat}
    (positive : 0 < digits)
    {value other : R}
    (ordered : value ≤ other) :
    roundBinary digits value ≤ roundBinary digits other := by
  have forward : ∀ {value other : R}, 0 < value → value ≤ other →
      roundBinary digits value ≤ roundBinary digits other := by
    intro value other above ordered
    have logs := Int.log_mono_right (b := 2) above ordered
    have otherAbove := above.trans_le ordered
    rcases logs.eq_or_lt with same | less
    · have places : lastPlace digits value = lastPlace digits other := by
        rw [lastPlace, lastPlace, abs_of_pos above, abs_of_pos otherAbove, same]
      have place := (lastPlace_pos digits other).le
      rw [roundBinary, roundBinary, places]
      apply mul_le_mul_of_nonneg_right _ place
      exact_mod_cast roundHalfEven_mono
        (div_le_div_of_nonneg_right ordered place)
    · have base : (1 : R) ≤ 2.0 := by norm_num
      calc roundBinary digits value
          ≤ 2.0 ^ (Int.log 2 value + 1) :=
            (roundBinary_between positive above).2
        _ ≤ 2.0 ^ Int.log 2 other := zpow_le_zpow_right₀ base (by omega)
        _ ≤ roundBinary digits other :=
            (roundBinary_between positive otherAbove).1
  rcases lt_or_ge 0 value with above | below
  · exact forward above ordered
  · rcases lt_or_ge other 0 with negative | nonnegative
    · have mirrored := forward (neg_pos.mpr negative)
        (neg_le_neg ordered)
      rw [roundBinary_neg, roundBinary_neg] at mirrored
      exact neg_le_neg_iff.mp mirrored
    · have first := roundBinary_nonneg digits (neg_nonneg.mpr below)
      rw [roundBinary_neg] at first
      exact (neg_nonneg.mp first).trans (roundBinary_nonneg digits nonnegative)

/-! ## Powers of two -/

/-- Doubling is exact. -/
theorem roundBinary_two_mul (digits : Nat) (value : R) :
    roundBinary digits (2 * value) = 2 * roundBinary digits value := by
  rcases eq_or_ne value 0 with rfl | nonzero
  · simp
  have above : 0 < |value| := abs_pos.mpr nonzero
  have two : (2.0 : R) = 2 := by norm_num
  have size : |2 * value| = 2 * |value| := by
    rw [abs_mul, abs_of_pos two_pos]
  have log : Int.log 2 (2 * |value|) = Int.log 2 |value| + 1 := by
    have least := Int.zpow_log_le_self (R := R) one_lt_two above
    have next := Int.lt_zpow_succ_log_self (R := R) one_lt_two |value|
    have base : ((2 : Nat) : R) ≠ 0 := by norm_num
    apply le_antisymm
    · apply Int.lt_add_one_iff.mp
      apply (Int.lt_zpow_iff_log_lt one_lt_two (by positivity)).mp
      rw [zpow_add_one₀ base, mul_comm]
      exact mul_lt_mul_of_pos_right next two_pos
    · apply (Int.zpow_le_iff_le_log one_lt_two (by positivity)).mp
      rw [zpow_add_one₀ base, mul_comm]
      exact mul_le_mul_of_nonneg_left least two_pos.le
  have place : lastPlace digits (2 * value) =
      2 * lastPlace digits value := by
    have base : (2.0 : R) ≠ 0 := by norm_num
    rw [lastPlace, lastPlace, size, log,
      show Int.log 2 |value| + 1 + 1 - (digits : Int) =
        Int.log 2 |value| + 1 - digits + 1 by ring,
      zpow_add_one₀ base, mul_comm, two]
  rw [roundBinary, roundBinary, place, mul_div_mul_left _ _ two_ne_zero]
  ring

theorem roundBinary_two_pow_mul (digits count : Nat) (value : R) :
    roundBinary digits (2 ^ count * value) =
      2 ^ count * roundBinary digits value := by
  induction count with
  | zero => simp
  | succ count inductionHypothesis =>
      rw [pow_succ', mul_assoc, roundBinary_two_mul, inductionHypothesis,
        mul_assoc]

/-! ## The two formats -/

@[simp] theorem single_zero : single (0 : R) = 0 := roundBinary_zero _

@[simp] theorem double_neg (value : R) : double (-value) = -double value :=
  roundBinary_neg _ _

@[simp] theorem double_double (value : R) :
    double (double value) = double value :=
  roundBinary_roundBinary (by decide) value

theorem single_mono : Monotone (single : R → R) :=
  fun _ _ => roundBinary_mono (by decide)

theorem double_mono : Monotone (double : R → R) :=
  fun _ _ => roundBinary_mono (by decide)

theorem single_nonneg {value : R} (nonnegative : 0 ≤ value) :
    0 ≤ single value :=
  roundBinary_nonneg _ nonnegative

theorem double_nonneg {value : R} (nonnegative : 0 ≤ value) :
    0 ≤ double value :=
  roundBinary_nonneg _ nonnegative

theorem abs_single_sub_le (value : R) :
    |single value - value| ≤ |value| / 2 ^ 24 := by
  have two : (2.0 : R) = 2 := by norm_num
  have near := abs_roundBinary_sub_le 24 value
  rwa [two] at near

theorem abs_double_sub_le (value : R) :
    |double value - value| ≤ |value| / 2 ^ 53 := by
  have two : (2.0 : R) = 2 := by norm_num
  have near := abs_roundBinary_sub_le 53 value
  rwa [two] at near

theorem single_bounds {value : R} (nonnegative : 0 ≤ value) :
    value - value / 2 ^ 24 ≤ single value ∧
      single value ≤ value + value / 2 ^ 24 := by
  have near := abs_le.mp (abs_single_sub_le value)
  rw [abs_of_nonneg nonnegative] at near
  constructor <;> linarith [near.1, near.2]

theorem double_bounds {value : R} (nonnegative : 0 ≤ value) :
    value - value / 2 ^ 53 ≤ double value ∧
      double value ≤ value + value / 2 ^ 53 := by
  have near := abs_le.mp (abs_double_sub_le value)
  rw [abs_of_nonneg nonnegative] at near
  constructor <;> linarith [near.1, near.2]

theorem single_pos {value : R} (positive : 0 < value) : 0 < single value := by
  obtain ⟨lower, -⟩ := single_bounds positive.le
  linarith

@[simp] theorem single_eq_zero_iff {value : R} :
    single value = 0 ↔ value = 0 := by
  constructor
  · intro zero
    have near := abs_single_sub_le value
    rw [zero, zero_sub, abs_neg] at near
    have nonnegative := abs_nonneg value
    exact abs_eq_zero.mp (by linarith)
  · rintro rfl
    exact single_zero

/-- A number that is rounded to a `double` and then to a `float`. -/
theorem single_double_bounds {value : R} (nonnegative : 0 ≤ value) :
    value - value / 2 ^ 23 ≤ single (double value) ∧
      single (double value) ≤ value + value / 2 ^ 23 := by
  obtain ⟨lower, upper⟩ := double_bounds nonnegative
  obtain ⟨singleLower, singleUpper⟩ :=
    single_bounds (double_nonneg nonnegative)
  constructor <;> linarith

theorem double_two_mul (value : R) : double (2 * value) = 2 * double value :=
  roundBinary_two_mul _ _

/-- The rounded inverse of a rounded number, times the number. -/
theorem abs_double_inverse_mul_sub_le
    {value : R}
    (above : 0 < value) :
    |double (1 / double value) * value - 1| ≤ 3 / 2 ^ 53 := by
  obtain ⟨lower, upper⟩ := double_bounds above.le
  have positive : 0 < double value := by
    have small : value / 2 ^ 53 < value := div_lt_self above (by norm_num)
    linarith
  have inverse : 0 < 1 / double value := one_div_pos.mpr positive
  obtain ⟨inverseLower, inverseUpper⟩ := double_bounds inverse.le
  have product : 1 / double value * double value = 1 :=
    one_div_mul_cancel positive.ne'
  generalize 1 / double value = exact at *
  generalize double exact = inverted at *
  have most : exact * value ≤ 1 + 2 / 2 ^ 53 := by nlinarith
  have least : 1 - 1 / 2 ^ 53 ≤ exact * value := by nlinarith
  rw [abs_le]
  constructor <;> nlinarith

end Library
