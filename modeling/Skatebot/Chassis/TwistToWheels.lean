import Mathlib.Tactic.FieldSimp
import Skatebot.Chassis.DiffDrive
import Skatebot.Driver.GoalVelocity
import Skatebot.Driver.MultipleWheelDrive

/-!
# From velocity commands to goal velocities

The controller computes wheel speeds in radians per second, the driver's node
turns them into revolutions per minute, and the driver into ticks, of which it
drops the fraction.  This module composes the three and bounds what the
fractions cost: the robot moves as commanded, to within one tick per wheel.
-/

namespace Skatebot

open Library

variable {R : Type} [Field R] [LinearOrder R] [FloorRing R]

/-! ## Units -/

/-- The speed of one tick of the goal velocity, in radians per second. -/
def tickSpeed : R := 0.229 * (2.0 * pi / 60.0)

/-- The speed that a number of ticks stands for, in radians per second. -/
def wheelSpeed (ticks : Int) : R := ticks * tickSpeed

/-- The speed of the left wheels that a command asks for, in rpm. -/
def leftRPM (wheelDistance wheelRadius : R) (msg : Twist R) : R :=
  MultipleWheelDriveNode.radiansPerSecondToRPM
    ((msg.linearX - msg.angularZ * wheelDistance) / wheelRadius)

/-- The speed of the right wheels that a command asks for, in rpm. -/
def rightRPM (wheelDistance wheelRadius : R) (msg : Twist R) : R :=
  MultipleWheelDriveNode.radiansPerSecondToRPM
    ((msg.linearX + msg.angularZ * wheelDistance) / wheelRadius)

/-- The ticks of both sides fit the goal velocity register. -/
def FitsRegister (wheelDistance wheelRadius : R) (msg : Twist R) : Prop :=
  Fits 32 (truncate (velocityTicks (leftRPM wheelDistance wheelRadius msg))) ∧
    Fits 32
      (truncate (velocityTicks (-rightRPM wheelDistance wheelRadius msg)))

/-- The two goal velocity words that a command's `SetAllRPM` sends: one to the
left wheels, and one to the right wheels, which turn the other way round. -/
structure SideWords where
  left : BitVec 32
  right : BitVec 32

/-- The speed of the left wheels. -/
def SideWords.leftSpeed (words : SideWords) : R := wheelSpeed words.left.toInt

/-- The speed of the right wheels. -/
def SideWords.rightSpeed (words : SideWords) : R :=
  wheelSpeed (-words.right.toInt)

/-- The words are the newest that the wheels were sent. -/
structure SideWords.Sent (words : SideWords)
    (before after : DynamixelComms) : Prop where
  frontLeft : (after.servo .motorFrontLeft).goalVelocities =
    words.left :: (before.servo .motorFrontLeft).goalVelocities
  frontRight : (after.servo .motorFrontRight).goalVelocities =
    words.right :: (before.servo .motorFrontRight).goalVelocities
  rearLeft : (after.servo .motorRearLeft).goalVelocities =
    words.left :: (before.servo .motorRearLeft).goalVelocities
  rearRight : (after.servo .motorRearRight).goalVelocities =
    words.right :: (before.servo .motorRearRight).goalVelocities

/-- The speed of the robot's body. -/
def bodySpeed (wheelRadius leftSpeed rightSpeed : R) : R :=
  wheelRadius * (leftSpeed + rightSpeed) / 2.0

/-- The rate at which the robot turns. -/
def turnRate (wheelDistance wheelRadius leftSpeed rightSpeed : R) : R :=
  wheelRadius * (rightSpeed - leftSpeed) / (2.0 * wheelDistance)

section

variable [IsStrictOrderedRing R]

theorem pi_pos : (0 : R) < pi := by
  unfold pi
  norm_num

theorem tickSpeed_pos : (0 : R) < tickSpeed := by
  have := pi_pos (R := R)
  unfold tickSpeed
  positivity

/-- A speed in ticks is that speed. -/
theorem velocityTicks_tickSpeed (radiansS : R) :
    velocityTicks (MultipleWheelDriveNode.radiansPerSecondToRPM radiansS) *
      tickSpeed = radiansS := by
  have := (pi_pos (R := R)).ne'
  unfold velocityTicks MultipleWheelDriveNode.radiansPerSecondToRPM tickSpeed
  norm_num
  field_simp

/-- A wheel does the speed that it is asked for, to within one tick. -/
theorem abs_wheelSpeed_sub_lt (radiansS : R) :
    |wheelSpeed (truncate (velocityTicks
        (MultipleWheelDriveNode.radiansPerSecondToRPM radiansS))) - radiansS| <
      tickSpeed := by
  set ticks := velocityTicks
    (MultipleWheelDriveNode.radiansPerSecondToRPM radiansS) with exactTicks
  have positive := tickSpeed_pos (R := R)
  have step := abs_truncate_sub_lt ticks
  calc
    |wheelSpeed (truncate ticks) - radiansS| =
        |((truncate ticks : R) - ticks) * tickSpeed| := by
      rw [sub_mul, exactTicks, velocityTicks_tickSpeed]
      rfl
    _ = |(truncate ticks : R) - ticks| * tickSpeed := by
      rw [abs_mul, abs_of_pos positive]
    _ < 1 * tickSpeed := by gcongr
    _ = tickSpeed := one_mul _

/-! ## The stages -/

namespace DiffDriveController

variable {controller : DiffDriveController R} {wheelDistance wheelRadius : R}

/-- The wheels' circumference cancels out. -/
theorem sideSpeeds_eq
    (positive : 0 < wheelRadius)
    (msg : Twist R) :
    sideSpeeds wheelDistance wheelRadius msg =
      (some ((msg.linearX - msg.angularZ * wheelDistance) / wheelRadius),
        some ((msg.linearX + msg.angularZ * wheelDistance) / wheelRadius)) := by
  have circle := pi_pos (R := R)
  have quotient :
      Double.quotient (2.0 * pi) (2.0 * pi * wheelRadius) =
        some (2.0 * pi / (2.0 * pi * wheelRadius)) :=
    if_neg (by positivity)
  have scaled : ∀ speed : R,
      speed * (2.0 * pi / (2.0 * pi * wheelRadius)) = speed / wheelRadius := by
    intro speed
    field_simp
  simp only [sideSpeeds, quotient, Option.map_some, scaled]

/-- The message that the controller publishes on the real robot. -/
theorem commandCallback_motors
    (distance : controller.getWheelDistance = wheelDistance)
    (radius : controller.getWheelRadius = some wheelRadius)
    (positive : 0 < wheelRadius)
    (real : controller.useSimTime = false)
    (msg : Twist R) :
    controller.commandCallback msg =
      let left := (msg.linearX - msg.angularZ * wheelDistance) / wheelRadius
      let right := (msg.linearX + msg.angularZ * wheelDistance) / wheelRadius
      some (some (allMotorsMessage (some left) (some right) (some left)
        (some right))) := by
  unfold commandCallback
  rw [radius]
  simp [distance, positive, sideSpeeds_eq, real]

end DiffDriveController

omit [LinearOrder R] [FloorRing R] [IsStrictOrderedRing R] in
/-- What the driver's node makes of such a message. -/
theorem MultipleWheelDriveNode.callback_motors (left right : R) :
    ∃ motors,
      DiffDriveController.allMotorsMessage (some left) (some right)
          (some left) (some right) = .allMotors motors ∧
        callback motors =
          some (.setAllRPM (some (radiansPerSecondToRPM left))
            (some (radiansPerSecondToRPM right))
            (some (radiansPerSecondToRPM left))
            (some (radiansPerSecondToRPM right))) :=
  ⟨_, rfl, rfl⟩

/-- Two wheel speeds that are close to the speeds asked for give a body speed
and a turn rate that are close to the command. -/
theorem motion_close
    {wheelDistance wheelRadius leftSpeed rightSpeed bound : R}
    (distancePositive : 0 < wheelDistance)
    (radiusPositive : 0 < wheelRadius)
    (msg : Twist R)
    (left : |leftSpeed -
      (msg.linearX - msg.angularZ * wheelDistance) / wheelRadius| < bound)
    (right : |rightSpeed -
      (msg.linearX + msg.angularZ * wheelDistance) / wheelRadius| < bound) :
    |bodySpeed wheelRadius leftSpeed rightSpeed - msg.linearX| <
        bound * wheelRadius ∧
      |turnRate wheelDistance wheelRadius leftSpeed rightSpeed -
          msg.angularZ| < bound * wheelRadius / wheelDistance := by
  set leftAsked := (msg.linearX - msg.angularZ * wheelDistance) / wheelRadius
    with leftIs
  set rightAsked := (msg.linearX + msg.angularZ * wheelDistance) / wheelRadius
    with rightIs
  obtain ⟨leftLower, leftUpper⟩ := abs_lt.mp left
  obtain ⟨rightLower, rightUpper⟩ := abs_lt.mp right
  have body :
      bodySpeed wheelRadius leftSpeed rightSpeed - msg.linearX =
        ((leftSpeed - leftAsked) + (rightSpeed - rightAsked)) / 2 *
          wheelRadius := by
    unfold bodySpeed
    rw [leftIs, rightIs]
    norm_num
    field_simp
    ring
  have turn :
      turnRate wheelDistance wheelRadius leftSpeed rightSpeed -
          msg.angularZ =
        ((rightSpeed - rightAsked) - (leftSpeed - leftAsked)) / 2 *
          wheelRadius / wheelDistance := by
    unfold turnRate
    rw [leftIs, rightIs]
    norm_num
    field_simp
    ring
  have bodyClose :
      |((leftSpeed - leftAsked) + (rightSpeed - rightAsked)) / 2| < bound :=
    abs_lt.mpr ⟨by linarith, by linarith⟩
  have turnClose :
      |((rightSpeed - rightAsked) - (leftSpeed - leftAsked)) / 2| < bound :=
    abs_lt.mpr ⟨by linarith, by linarith⟩
  rw [body, turn, abs_div, abs_mul, abs_mul, abs_of_pos radiusPositive,
    abs_of_pos distancePositive]
  constructor <;> gcongr

/-! ## From the command to the wheels -/

/-- A command that fits the register reaches the wheels: the two wheels of a
side are sent one word, and the robot moves as commanded, to within the speed
of one tick per wheel. -/
theorem twist_reaches_wheels
    {controller : DiffDriveController R}
    {wheelDistance wheelRadius : R}
    (distance : controller.getWheelDistance = wheelDistance)
    (distancePositive : 0 < wheelDistance)
    (radius : controller.getWheelRadius = some wheelRadius)
    (radiusPositive : 0 < wheelRadius)
    (real : controller.useSimTime = false)
    {msg : Twist R}
    (fits : FitsRegister wheelDistance wheelRadius msg)
    (bus : Bus R)
    {comms : DynamixelComms}
    (resting : comms.Resting) :
    ∃ motors call issued final words,
      controller.commandCallback msg = some (some (.allMotors motors)) ∧
        MultipleWheelDriveNode.callback motors = some call ∧
        call.command = some issued ∧
        (DynamixelComms.turns bus).run comms [.command issued] = some final ∧
        SideWords.Sent words comms final ∧
        |bodySpeed wheelRadius words.leftSpeed words.rightSpeed -
            msg.linearX| < tickSpeed * wheelRadius ∧
        |turnRate wheelDistance wheelRadius words.leftSpeed words.rightSpeed -
            msg.angularZ| < tickSpeed * wheelRadius / wheelDistance := by
  obtain ⟨motors, published, called⟩ :=
    MultipleWheelDriveNode.callback_motors
      ((msg.linearX - msg.angularZ * wheelDistance) / wheelRadius)
      ((msg.linearX + msg.angularZ * wheelDistance) / wheelRadius)
  let left := leftRPM wheelDistance wheelRadius msg
  let right := rightRPM wheelDistance wheelRadius msg
  let words : SideWords :=
    { left := bulkWord bus.cast left
      right := bulkWord bus.cast (-right) }
  have leftSpeed :
      words.leftSpeed = wheelSpeed (R := R) (truncate (velocityTicks left)) :=
    congrArg wheelSpeed (bulkWord_toInt bus.cast fits.1)
  have rightSpeed :
      words.rightSpeed =
        wheelSpeed (R := R) (truncate (velocityTicks right)) := by
    have reversed := bulkWord_toInt bus.cast fits.2
    have ticks : velocityTicks (-right) = -velocityTicks right := neg_mul ..
    rw [ticks, truncate_neg] at reversed
    unfold SideWords.rightSpeed
    rw [reversed, neg_neg]
  let final := comms.taken bus (.command (.setAllRPM left right left right))
  have sent : ∀ {wheel : Member} {bytes : Bytes},
      wheel ∈ DynamixelComms.wheels →
        DynamixelComms.velocityData bus left right left right wheel =
          some bytes →
        (final.servo wheel).goalVelocities =
          bytes.register :: (comms.servo wheel).goalVelocities :=
    fun isWheel value =>
      DynamixelComms.setAllRPM_goalVelocities bus comms isWheel value
  refine ⟨motors, _, .setAllRPM left right left right, final, words, ?_, called,
    rfl, DynamixelComms.run_turn bus comms resting _, ?_, ?_⟩
  · exact
      (DiffDriveController.commandCallback_motors distance radius
        radiusPositive real msg).trans
          (congrArg (fun message => some (some message)) published)
  · exact ⟨sent (by simp [DynamixelComms.wheels]) rfl,
      sent (by simp [DynamixelComms.wheels]) rfl,
      sent (by simp [DynamixelComms.wheels]) rfl,
      sent (by simp [DynamixelComms.wheels]) rfl⟩
  · rw [leftSpeed, rightSpeed]
    exact motion_close distancePositive radiusPositive msg
      (abs_wheelSpeed_sub_lt _) (abs_wheelSpeed_sub_lt _)

end

/-! ## A command on the robot -/

/-- The controller with the description under the names that it looks up. -/
def correctlyNamed : DiffDriveController ℚ where
  model := some DiffDriveController.renamed
  useSimTime := false

/-- Driving a curve. -/
def curve : Twist ℚ where
  linearX := 0.15
  angularZ := 1

theorem twist_reaches_wheels_curve :
    ∃ motors call issued final words,
      correctlyNamed.commandCallback curve = some (some (.allMotors motors)) ∧
        MultipleWheelDriveNode.callback motors = some call ∧
        call.command = some issued ∧
        (DynamixelComms.turns DynamixelComms.calmBus).run
          DynamixelComms.started [.command issued] = some final ∧
        SideWords.Sent words DynamixelComms.started final ∧
        |bodySpeed 0.05 words.leftSpeed words.rightSpeed - curve.linearX| <
          (tickSpeed * 0.05 : ℚ) ∧
        |turnRate 0.0525 0.05 words.leftSpeed words.rightSpeed -
            curve.angularZ| < (tickSpeed * 0.05 / 0.0525 : ℚ) :=
  twist_reaches_wheels (by decide +kernel) (by norm_num) (by decide +kernel)
    (by norm_num) rfl ⟨by decide +kernel, by decide +kernel⟩ _
    DynamixelComms.started_initialised.resting

end Skatebot
