import Skatebot.Driver.ServoLemmas
import Skatebot.Library.Saturation

/-!
# The velocity of `SetRPM`

What `SetRPM` makes of a speed: a dead zone, a limit, the motor's direction, the
scale, truncation and a second limit.  The velocity depends on the speed and on
the configuration alone.
-/

namespace Skatebot

open Library

variable {R : Type} [Field R] [LinearOrder R] [FloorRing R]
  [IsStrictOrderedRing R]

/-! ## The scale -/

/-- A speed in ticks as `DynamixelServo::SetRPM` scales it. -/
def singleTicks (rpm : R) : R := rpm * 229.0 / maximumRPM

omit [FloorRing R] in
theorem singleTicks_eq (rpm : R) : singleTicks rpm = rpm * (229 / 52) := by
  unfold singleTicks maximumRPM
  norm_num
  ring

omit [LinearOrder R] [FloorRing R] [IsStrictOrderedRing R] in
@[simp] theorem singleTicks_neg (rpm : R) :
    singleTicks (-rpm) = -singleTicks rpm := by
  unfold singleTicks
  ring

omit [FloorRing R] in
theorem abs_singleTicks (rpm : R) :
    |singleTicks rpm| = |rpm| * (229 / 52) := by
  rw [singleTicks_eq, abs_mul, abs_of_pos (by norm_num : (0 : R) < 229 / 52)]

omit [FloorRing R] in
theorem singleTicks_mono : Monotone (singleTicks : R → R) := by
  intro slower faster ordered
  unfold singleTicks
  gcongr

/-! ## Velocities within the limit -/

theorem fits_of_limit {value : Int} (limit : |value| ≤ 229) :
    Fits 32 value ∧ Fits 64 value := by
  obtain ⟨lower, upper⟩ := abs_le.mp limit
  have fits : Fits 32 value := by
    unfold Fits
    norm_num
    omega
  exact ⟨fits, fits.wider (by decide)⟩

/-- A number within the limit is read back from its word. -/
theorem toInt_of_limit {value : Int} (limit : |value| ≤ 229) :
    (BitVec.ofInt 32 value).toInt = value :=
  (fits_of_limit limit).1.toInt_ofInt (by decide)

namespace DynamixelServo

/-! ## The stages -/

omit [FloorRing R] in
theorem minimumRPM_le : (minimumRPM : R) ≤ maximumRPM := by
  exact_mod_cast (by decide : minimumRPM ≤ maximumRPM)

omit [FloorRing R] in
/-- The tests of `SetRPM` amount to a dead zone and a limit. -/
theorem limitRPM_eq (rpm : R) :
    limitRPM rpm =
      saturate (maximumRPM : R) (deadZone (minimumRPM : R) rpm) := by
  have wider := minimumRPM_le (R := R)
  have ordered : -(maximumRPM : R) ≤ maximumRPM := by
    have positive : (0 : R) ≤ maximumRPM := Nat.cast_nonneg _
    linarith
  unfold limitRPM deadZone
  dsimp only
  by_cases slow : |rpm| < (minimumRPM : R)
  · obtain ⟨lower, upper⟩ := abs_lt.mp slow
    rw [if_pos slow, if_neg (by linarith), if_neg (by linarith),
      saturate_of_abs_le]
    rw [abs_zero]
    exact Nat.cast_nonneg _
  · rw [if_neg slow, saturate]
    split_ifs with back fast
    · rw [min_eq_right (by linarith), max_eq_left back.le]
    · rw [min_eq_left fast.le, max_eq_right ordered]
    · rw [min_eq_right (not_lt.mp fast), max_eq_right (not_lt.mp back)]

/-- The velocity that a motor of a configuration is sent for a speed. -/
def response (config : Configuration) (rpm : R) : Int :=
  truncate (singleTicks (directRPM config (limitRPM rpm)))

omit [FloorRing R] in
theorem limitRPM_odd : Function.Odd (limitRPM : R → R) := by
  intro rpm
  rw [limitRPM_eq, limitRPM_eq, deadZone_odd,
    saturate_odd _ (Nat.cast_nonneg _)]

omit [FloorRing R] in
theorem limitRPM_mono : Monotone (limitRPM : R → R) := by
  intro slower faster ordered
  rw [limitRPM_eq, limitRPM_eq]
  exact saturate_mono _ (deadZone_mono _ ordered)

omit [FloorRing R] in
theorem abs_limitRPM_le (rpm : R) : |limitRPM rpm| ≤ 52 := by
  rw [limitRPM_eq, abs_saturate (Nat.cast_nonneg _)]
  exact_mod_cast min_le_left _ _

omit [LinearOrder R] [FloorRing R] [IsStrictOrderedRing R] in
theorem directRPM_odd (config : Configuration) :
    Function.Odd (directRPM config : R → R) := by
  intro rpm
  unfold directRPM
  rw [apply_ite Neg.neg]

omit [FloorRing R] [IsStrictOrderedRing R] in
/-- A motor's direction does not change the magnitude. -/
theorem abs_directRPM (config : Configuration) (rpm : R) :
    |directRPM config rpm| = |rpm| := by
  unfold directRPM
  split
  · exact abs_neg rpm
  · rfl

/-- Every stage of the response is odd. -/
theorem response_odd (config : Configuration) :
    Function.Odd (response config : R → Int) := by
  intro rpm
  unfold response
  rw [limitRPM_odd, directRPM_odd, singleTicks_neg, truncate_neg]

/-- Every stage is monotone, up to the direction of the motor. -/
theorem response_mono
    {config : Configuration}
    (direct : config ≠ .configMotorClockwise)
    {slower faster : R}
    (ordered : slower ≤ faster) :
    response config slower ≤ response config faster := by
  unfold response directRPM
  rw [if_neg direct, if_neg direct]
  exact truncate_mono (singleTicks_mono (limitRPM_mono ordered))

theorem response_anti
    {slower faster : R}
    (ordered : slower ≤ faster) :
    response .configMotorClockwise faster ≤
      response .configMotorClockwise slower := by
  unfold response directRPM
  rw [if_pos rfl, if_pos rfl]
  exact truncate_mono (singleTicks_mono (neg_le_neg (limitRPM_mono ordered)))

theorem abs_response_le (config : Configuration) (rpm : R) :
    |response config rpm| ≤ 229 := by
  apply abs_truncate_le
  rw [abs_singleTicks, abs_directRPM]
  push_cast
  linarith [abs_limitRPM_le rpm]

/-- A motor stands exactly for the speeds of the dead zone: the slowest other
one makes more than one tick. -/
theorem response_eq_zero_iff (config : Configuration) (rpm : R) :
    response config rpm = 0 ↔ |rpm| < 1 := by
  have least : (minimumRPM : R) = 1 := Nat.cast_one
  have cases :=
    saturate_deadZone_cases (Nat.cast_nonneg maximumRPM) minimumRPM_le rpm
  rw [← limitRPM_eq, least] at cases
  rw [response, truncate_eq_zero_iff, abs_singleTicks, abs_directRPM]
  rcases cases with ⟨slow, stopped⟩ | ⟨fast, moving⟩
  · refine iff_of_true ?_ slow
    rw [stopped, abs_zero, zero_mul]
    exact zero_lt_one
  · refine iff_of_false ?_ (not_lt.mpr fast)
    linarith

/-- The second limit finds nothing to do, and the conversion fits. -/
theorem goalVelocity_eq (world : World R) (servo : DynamixelServo) (rpm : R) :
    servo.goalVelocity world rpm = response servo.config rpm := by
  have within := abs_response_le servo.config rpm
  unfold goalVelocity
  change limitVelocity (world.cast.toInt32 (singleTicks _)) = _
  rw [world.cast.toInt32_eq _ (fits_of_limit within).1]
  exact saturate_of_abs_le within

end DynamixelServo
end Skatebot
