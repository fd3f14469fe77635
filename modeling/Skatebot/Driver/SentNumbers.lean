import Skatebot.Driver.Agreement
import Skatebot.Library.BinaryFloat

/-!
# The numbers that a servo is sent

How the velocity that `SetRPM` sends depends on the speed, over all speeds; and
what a servo reads in the four bytes that a bulk write carries.
-/

namespace Skatebot

open Library

variable {R : Type} [Field R] [LinearOrder R] [FloorRing R]
  [IsStrictOrderedRing R]

namespace DynamixelServo

/-! ## The velocity of `SetRPM` -/

/-- `SetRPM` sends one velocity, which depends on the speed and on the
configuration alone.  It is odd in the speed, at most 229 either way, zero
exactly below 1 RPM, and monotone; for a clockwise motor it is antitone. -/
theorem setRPM_velocity
    (world : World R)
    (servo : DynamixelServo) :
    ∃ velocity : R → Int,
      (∀ rpm, ∃ word : BitVec 32, word.toInt = velocity rpm ∧
        ((ServoCall.setRPM rpm).effect world servo).goalVelocities =
          word :: servo.goalVelocities) ∧
      (∀ rpm, velocity (-rpm) = -velocity rpm) ∧
      (∀ rpm, |velocity rpm| ≤ 229) ∧
      (∀ rpm, velocity rpm = 0 ↔ |rpm| < 1) ∧
      (servo.config ≠ .configMotorClockwise →
        ∀ slower faster, slower ≤ faster →
          velocity slower ≤ velocity faster) ∧
      (servo.config = .configMotorClockwise →
        ∀ slower faster, slower ≤ faster →
          velocity faster ≤ velocity slower) := by
  refine ⟨response servo.config, ?_, response_odd servo.config,
    abs_response_le servo.config, response_eq_zero_iff servo.config,
    fun direct _ _ => response_mono direct, ?_⟩
  · intro rpm
    refine ⟨BitVec.ofInt 32 (response servo.config rpm),
      toInt_of_limit (abs_response_le servo.config rpm), ?_⟩
    rw [effect_setRPM, goalVelocities_writeGoal, goalVelocities_configured,
      goalVelocity_eq, configured_config]
  · intro clockwise slower faster ordered
    rw [clockwise]
    exact response_anti ordered

/-- The front left wheel stands below 1 RPM. -/
theorem setRPM_velocity_frontLeft :
    ∃ velocity : ℚ → Int,
      (∀ rpm, ∃ word : BitVec 32, word.toInt = velocity rpm ∧
        ((ServoCall.setRPM rpm).effect (World.calm ℚ)
          frontLeft).goalVelocities = word :: frontLeft.goalVelocities) ∧
      (∀ rpm, velocity rpm = 0 ↔ |rpm| < 1) := by
  obtain ⟨velocity, sent, -, -, stands, -⟩ :=
    setRPM_velocity (World.calm ℚ) frontLeft
  exact ⟨velocity, sent, stands⟩

end DynamixelServo

namespace DynamixelComms

/-! ## The bytes of a bulk write, in double precision -/

/-- `ConvertRPMToGoalVelocity` with its constants and results of type
`double`. -/
def convertRPMToGoalVelocityDouble (cast : FloatCast R) (goalRPM : R) : Bytes :=
  let newVelocityTicks :=
    cast.toInt64 (double (goalRPM * double (1.0 / double 0.229)))
  Bytes.split (BitVec.ofInt 64 newVelocityTicks)

/-- `CalculateNewGoalPosition` with its constants and results of type
`double`. -/
def calculateNewGoalPositionDouble (cast : FloatCast R) (angleRadians : R)
    (position : Int) : Bytes :=
  let turns := double (angleRadians / double (2.0 * double 3.1415926))
  let newPosition :=
    int32 (position + cast.toInt32 (double (double (turns * 4096.0) * -1.0)))
  Bytes.split (BitVec.ofInt 64 newPosition)

/-- The speed in ticks, a `double`. -/
def doubleTicks (rpm : R) : R :=
  double (rpm * double (1.0 / double 0.229))

/-- The counts that an angle amounts to, a `double`; servos go backwards for
positive counts. -/
def doubleCounts (angleRadians : R) : R :=
  -4096.0 * double (angleRadians / double (2.0 * double 3.1415926))

/-- The exact counts that an angle amounts to. -/
def positionTicks (angleRadians : R) : R :=
  -4096.0 * angleRadians / (2.0 * 3.1415926)

omit [IsStrictOrderedRing R] in
/-- The servo reads the speed in ticks. -/
theorem goalVelocityDouble_toInt
    (cast : FloatCast R)
    {rpm : R}
    (fits : Fits 32 (truncate (doubleTicks rpm))) :
    (convertRPMToGoalVelocityDouble cast rpm).register.toInt =
      truncate (doubleTicks rpm) := by
  have wide : Fits 64 (truncate (doubleTicks rpm)) := fits.wider (by decide)
  unfold doubleTicks at fits wide ⊢
  rw [convertRPMToGoalVelocityDouble, cast.toInt64_eq _ wide,
    Bytes.register_split_ofInt]
  exact fits.toInt_ofInt (by decide)

/-- Multiplying with 4096 and with -1 rounds nothing. -/
theorem doubleCounts_eq (angleRadians : R) :
    double (double (double (angleRadians / double (2.0 * double 3.1415926)) *
      4096.0) * -1.0) = doubleCounts angleRadians := by
  have power : (4096.0 : R) = 2 ^ 12 := by norm_num
  have reversed : (-1.0 : R) = -1 := by norm_num
  have scaled : ∀ value : R, double (double value * 4096.0) =
      double value * 4096.0 := by
    intro value
    rw [power, mul_comm, double, roundBinary_two_pow_mul]
    exact congrArg (2 ^ 12 * ·) (double_double value)
  rw [doubleCounts, reversed, mul_neg_one, scaled, double_neg, scaled,
    neg_mul, mul_comm]

/-- The servo reads the position and the angle in counts, added up. -/
theorem goalPositionDouble_toInt
    (cast : FloatCast R)
    {angleRadians : R}
    {position : Int}
    (turn : Fits 32 (truncate (doubleCounts angleRadians)))
    (goal : Fits 32 (position + truncate (doubleCounts angleRadians))) :
    (calculateNewGoalPositionDouble cast angleRadians position).register.toInt =
      position + truncate (doubleCounts angleRadians) := by
  unfold calculateNewGoalPositionDouble
  dsimp only
  rw [doubleCounts_eq, cast.toInt32_eq _ turn, int32_of_fits goal,
    Bytes.register_split_ofInt]
  exact goal.toInt_ofInt (by decide)

/-! ## How far the ticks are from the exact ones -/

/-- A number whose truncated value fits a register. -/
theorem abs_lt_of_fits
    {value : R}
    (fits : Fits 32 (truncate value)) :
    |value| < 2 ^ 31 + 1 := by
  obtain ⟨lower, upper⟩ := fits
  have near := abs_lt.mp (abs_truncate_sub_lt value)
  have least : (-2 ^ 31 : R) ≤ truncate value := by exact_mod_cast lower
  have most : (truncate value : R) < 2 ^ 31 := by exact_mod_cast upper
  rw [abs_lt]
  constructor <;> linarith [near.1, near.2]

/-- A product or quotient of which the result fits a register is computed
within one unit. -/
theorem abs_truncate_double_sub_le
    {computed exact : R}
    (fits : Fits 32 (truncate (double computed)))
    (near : |computed - exact| ≤ |computed| * (8 / 2 ^ 53)) :
    |truncate (double computed) - truncate exact| ≤ 1 := by
  have rounded := abs_double_sub_le computed
  have small := abs_lt_of_fits fits
  have size : |computed| ≤ 2 ^ 32 := by
    have triangle := abs_sub_abs_le_abs_sub computed (double computed)
    rw [abs_sub_comm] at triangle
    linarith [abs_nonneg computed]
  have total := abs_sub_le (double computed) computed exact
  exact abs_truncate_sub_le_one (by linarith)

/-- The ticks are within one of the speed divided by 0.229. -/
theorem doubleTicks_near
    {rpm : R}
    (fits : Fits 32 (truncate (doubleTicks rpm))) :
    |truncate (doubleTicks rpm) - truncate (rpm / 0.229)| ≤ 1 := by
  apply abs_truncate_double_sub_le fits
  have inverse := abs_le.mp
    (abs_double_inverse_mul_sub_le (show (0 : R) < 0.229 by norm_num))
  have one : (1.0 : R) = 1 := by norm_num
  rw [one]
  generalize double (1 / double (0.229 : R)) = factor at *
  have positive : 0 < factor := by linarith [inverse.1]
  have difference : rpm * factor - rpm / 0.229 =
      rpm * factor * (1 - 1 / (factor * 0.229)) := by
    field_simp
  rw [difference, abs_mul]
  apply mul_le_mul_of_nonneg_left _ (abs_nonneg _)
  have product : 0 < factor * 0.229 := by linarith
  rw [abs_le, one_sub_div product.ne', le_div_iff₀ product,
    div_le_iff₀ product]
  constructor <;> linarith [inverse.1, inverse.2]

/-- The counts are within one of the exact ones. -/
theorem doubleCounts_near
    {angleRadians : R}
    (fits : Fits 32 (truncate (doubleCounts angleRadians))) :
    |truncate (doubleCounts angleRadians) -
      truncate (positionTicks angleRadians)| ≤ 1 := by
  have half : (0 : R) < 3.1415926 := by norm_num
  have two : (2.0 : R) = 2 := by norm_num
  have power : (4096.0 : R) = 2 ^ 12 := by norm_num
  obtain ⟨lower, upper⟩ := double_bounds half.le
  have scaled : doubleCounts angleRadians = double (-(2 ^ 12 *
      (angleRadians / double (2.0 * double 3.1415926)))) := by
    rw [doubleCounts, power, double_neg, neg_mul]
    exact congrArg (- ·) (roundBinary_two_pow_mul ..).symm
  rw [scaled] at fits ⊢
  apply abs_truncate_double_sub_le fits
  rw [two, double_two_mul, double_double, positionTicks, power, two]
  generalize double (3.1415926 : R) = pi at *
  have positive : 0 < pi := by linarith
  have difference : -(2 ^ 12 * (angleRadians / (2 * pi))) -
      -2 ^ 12 * angleRadians / (2 * 3.1415926) =
        -(2 ^ 12 * (angleRadians / (2 * pi))) * (1 - pi / 3.1415926) := by
    field_simp
    ring
  rw [difference, abs_mul]
  apply mul_le_mul_of_nonneg_left _ (abs_nonneg _)
  rw [abs_le, one_sub_div half.ne', le_div_iff₀ half, div_le_iff₀ half]
  constructor <;> linarith

/-- Bulk writes carry speeds and positions, negative ones included: the
truncated `double` product wherever it fits a register, and the position with
the truncated `double` counts added wherever both the counts and the sum fit.
Either is within one of the exact ticks. -/
theorem bytes_carry_ticks (cast : FloatCast R) :
    (∀ rpm : R, Fits 32 (truncate (doubleTicks rpm)) →
      (convertRPMToGoalVelocityDouble cast rpm).register.toInt =
          truncate (doubleTicks rpm) ∧
        |truncate (doubleTicks rpm) - truncate (rpm / 0.229)| ≤ 1) ∧
    ∀ (angleRadians : R) (position : Int),
      Fits 32 (truncate (doubleCounts angleRadians)) →
      Fits 32 (position + truncate (doubleCounts angleRadians)) →
      (calculateNewGoalPositionDouble cast angleRadians
          position).register.toInt =
          position + truncate (doubleCounts angleRadians) ∧
        |truncate (doubleCounts angleRadians) -
          truncate (positionTicks angleRadians)| ≤ 1 :=
  ⟨fun _ fits => ⟨goalVelocityDouble_toInt cast fits, doubleTicks_near fits⟩,
    fun _ _ turn goal =>
      ⟨goalPositionDouble_toInt cast turn goal, doubleCounts_near turn⟩⟩

/-- A speed that is sent as -999 and one that is sent as 63, each a tick short
of the exact quotient, and a quarter turn back from the lowest position but
1024. -/
theorem bytes_carry_ticks_negative :
    (convertRPMToGoalVelocityDouble (FloatCast.saturating ℚ)
        (-229)).register.toInt = -999 ∧
      (convertRPMToGoalVelocityDouble (FloatCast.saturating ℚ)
        (double 14.656)).register.toInt = 63 ∧
      (calculateNewGoalPositionDouble (FloatCast.saturating ℚ)
        (double (3.1415926 / 2)) (-2147482624)).register.toInt =
          -2147483648 := by
  obtain ⟨speed, position⟩ := bytes_carry_ticks (FloatCast.saturating ℚ)
  have ticks : truncate (doubleTicks (-229 : ℚ)) = -999 := by decide +kernel
  have short : truncate (doubleTicks (double 14.656 : ℚ)) = 63 := by
    decide +kernel
  have counts : truncate (doubleCounts (double (3.1415926 / 2) : ℚ)) =
      -1024 := by
    decide +kernel
  refine ⟨?_, ?_, ?_⟩
  · rw [(speed (-229) (by rw [ticks]; decide)).1, ticks]
  · rw [(speed (double 14.656) (by rw [short]; decide)).1, short]
  · rw [(position (double (3.1415926 / 2)) (-2147482624)
      (by rw [counts]; decide) (by rw [counts]; decide)).1, counts]
    rfl

/-- The product with the rounded inverse falls below the exact ticks, and an
angle beyond the register is cut off before the position is added, also where
the sum would fit again. -/
theorem bytes_not_exact :
    (¬∀ (cast : FloatCast ℚ) (rpm : ℚ), double rpm = rpm →
      Fits 32 (truncate (rpm / 0.229)) →
      (convertRPMToGoalVelocityDouble cast rpm).register.toInt =
        truncate (rpm / 0.229)) ∧
    ¬∀ (cast : FloatCast ℚ) (angleRadians : ℚ) (position : Int),
      double angleRadians = angleRadians → Fits 32 position →
      Fits 32 (position + truncate (positionTicks angleRadians)) →
      (calculateNewGoalPositionDouble cast angleRadians
        position).register.toInt =
          position + truncate (positionTicks angleRadians) := by
  constructor
  · intro always
    have exact := always (FloatCast.saturating ℚ) (double 0.229)
      (double_double _) (by decide +kernel)
    exact absurd exact (by decide +kernel)
  · intro always
    have back := always (FloatCast.saturating ℚ)
      (double (2147483649.5 * (2.0 * 3.1415926) / 4096)) 1 (double_double _)
      (by decide) (by decide +kernel)
    exact absurd back (by decide +kernel)

end DynamixelComms
end Skatebot
