import Mathlib.Data.Sign.Basic
import Skatebot.LowControl.ImuController

/-!
# Which way the correction for roll pushes the robot

A robot that drives at `v` and turns at `ω` moves sideways at `v sin θ`, where
its heading `θ` grows at `ω`.  While it is nearly aligned with the pipe, the
sign of `v ω` tells to which side it is accelerated.  A correction that pushes
the robot towards the bottom of the pipe has to fix that sign by the roll alone,
for driving forward as for reversing.
-/

namespace Skatebot
namespace ImuController

open Library

variable {R : Type} [Field R] [LinearOrder R] [FloorRing R]

/-- The sideways acceleration, up to a positive factor, while the robot obeys a
command. -/
def sideways (twist : Twist R) : R := twist.linearX * twist.angularZ

/-- The node with another roll, another direction of the D-pad and another
`cmd_vel`. -/
def told (node : ImuController R) (rollDegrees : R) (dPadDirection : Int)
    (twistMsg : Twist R) : ImuController R :=
  { node with
    imuDegrees := { node.imuDegrees with roll := rollDegrees }
    dPadDirection := dPadDirection
    twistMsg := twistMsg }

/-- The robot leans enough for a correction and not too far to drive, and it is
told to drive nearly straight on. -/
structure Corrected (node : ImuController R) : Prop where
  steep : 8.0 < |node.imuDegrees.roll|
  within : |node.imuDegrees.roll| ≤ node.parameters.criticalRollDegrees
  moving : node.desired.linearX ≠ 0
  straight : |node.desired.angularZ| < 0.1

/-- At a tick of the timer, the side to which the robot is accelerated depends
on the side to which it leans, and on nothing else that it is told. -/
def PushesByRoll (node : ImuController R) (now : Int) : Prop :=
  ∀ (roll otherRoll : R) (direction otherDirection : Int)
    (msg otherMsg : Twist R),
    (node.told roll direction msg).Corrected →
    (node.told otherRoll otherDirection otherMsg).Corrected →
    SignType.sign roll = SignType.sign otherRoll →
    SignType.sign
        (sideways ((node.told roll direction msg).newTwistMsg now)) =
      SignType.sign
        (sideways
          ((node.told otherRoll otherDirection otherMsg).newTwistMsg now))

variable [IsStrictOrderedRing R]

/-- Slowing down keeps the direction of travel. -/
theorem sign_slowDown (rollDegrees : R) (msg : Twist R) :
    SignType.sign (slowDown rollDegrees msg).linearX =
      SignType.sign msg.linearX := by
  unfold slowDown
  split
  · have third : msg.linearX / 3.0 = msg.linearX * (1 / 3.0) :=
      div_eq_mul_one_div _ _
    have positive : (0 : R) < 1 / 3.0 := by norm_num
    dsimp only
    rw [third, sign_mul, sign_pos positive, mul_one]
  · rfl

/-- While the node lets the robot drive, the correction pushes it to a side
that depends on the direction of travel as much as on the roll. -/
theorem Corrected.sign_sideways
    {node : ImuController R}
    (corrected : node.Corrected)
    {now : Int}
    (recent : ¬node.Timeout now)
    (upright : ¬node.Tilted) :
    SignType.sign (sideways (node.newTwistMsg now)) =
      SignType.sign node.desired.linearX *
        SignType.sign node.imuDegrees.roll := by
  have turn := (slowDown_bounds node.imuDegrees.roll
    (correctRoll node.imuDegrees.roll node.desired)).2
  have speed := sign_slowDown node.imuDegrees.roll
    (correctRoll node.imuDegrees.roll node.desired)
  have positive : (0 : R) < 0.03 := by norm_num
  unfold sideways newTwistMsg
  rw [if_neg recent, if_neg upright, sign_mul, turn, speed,
    correctRoll_of_steep corrected.steep corrected.straight, sign_mul,
    sign_pos positive, one_mul]

omit [FloorRing R] [IsStrictOrderedRing R] in
/-- A stop accelerates the robot to no side. -/
theorem sideways_of_stopped
    {node : ImuController R}
    {now : Int}
    (stopped : node.Timeout now ∨ node.Tilted) :
    sideways (node.newTwistMsg now) = 0 := by
  have still : node.newTwistMsg now = Twist.stop := by
    unfold newTwistMsg
    by_cases expired : node.Timeout now
    · rw [if_pos expired]
    · rw [if_neg expired, if_pos (stopped.resolve_left expired)]
  rw [still]
  exact zero_mul _

/-- A node that lets the robot drive straight on accelerates it to the other
side when it lets it reverse. -/
theorem not_pushesByRoll
    {node : ImuController R}
    (steep : 8.0 < |node.imuDegrees.roll|)
    (within :
      |node.imuDegrees.roll| ≤ node.parameters.criticalRollDegrees)
    {now : Int}
    (recent : ¬node.Timeout now)
    (level : |node.imuDegrees.pitch| ≤ node.parameters.criticalPitchDegrees) :
    ¬node.PushesByRoll now := by
  intro pushes
  have corrected : ∀ speed : R, speed ≠ 0 →
      (node.told node.imuDegrees.roll 0
        { linearX := speed, angularZ := 0 }).Corrected := by
    intro speed moving
    refine ⟨steep, within, moving, ?_⟩
    have straight : |(0 : R)| < 0.1 := by
      rw [abs_zero]
      norm_num
    exact straight
  have upright : ∀ speed : R,
      ¬(node.told node.imuDegrees.roll 0
        { linearX := speed, angularZ := 0 }).Tilted := by
    rintro speed (leans | noses)
    · exact absurd leans (not_lt.mpr within)
    · exact absurd noses (not_lt.mpr level)
  have forward := corrected 1 one_ne_zero
  have backward := corrected (-1) (neg_ne_zero.mpr one_ne_zero)
  have same := pushes _ _ _ _ _ _ forward backward rfl
  rw [forward.sign_sideways recent (upright 1),
    backward.sign_sideways recent (upright (-1))] at same
  have leaning : node.imuDegrees.roll ≠ 0 := by
    intro zero
    rw [zero, abs_zero] at steep
    norm_num at steep
  have sides : SignType.sign (1 : R) * SignType.sign node.imuDegrees.roll =
      SignType.sign (-1 : R) * SignType.sign node.imuDegrees.roll := same
  rw [Left.sign_neg, sign_one, one_mul, neg_one_mul] at sides
  have nonzero := sign_ne_zero.mpr leaning
  revert sides nonzero
  cases SignType.sign node.imuDegrees.roll <;> decide

/-- The side to which the robot is pushed at a roll depends on the roll alone
exactly where the node stops the robot: the last command has expired, or the
pitch is beyond its critical angle. -/
theorem pushesByRoll_iff
    {node : ImuController R}
    (steep : 8.0 < |node.imuDegrees.roll|)
    (within :
      |node.imuDegrees.roll| ≤ node.parameters.criticalRollDegrees)
    (now : Int) :
    node.PushesByRoll now ↔
      node.Timeout now ∨
        |node.imuDegrees.pitch| > node.parameters.criticalPitchDegrees := by
  constructor
  · intro pushes
    by_contra drives
    obtain ⟨recent, level⟩ := not_or.mp drives
    exact not_pushesByRoll steep within recent (not_lt.mp level) pushes
  · intro stopped roll otherRoll direction otherDirection msg otherMsg _ _ _
    have still : ∀ (roll : R) (direction : Int) (msg : Twist R),
        sideways ((node.told roll direction msg).newTwistMsg now) = 0 := by
      intro roll direction msg
      apply sideways_of_stopped
      exact stopped.imp id Or.inr
    rw [still, still]

/-! ## Forward and back -/

/-- The node in a robot that lies 10 degrees to its side and has a command to
drive forward. -/
def leaningForward : ImuController ℚ :=
  { leaningStopped with twistMsg := { linearX := 0.1, angularZ := 0 } }

theorem pushesByRoll_iff_leaning :
    leaningForward.PushesByRoll 0 ↔
      leaningForward.Timeout 0 ∨
        |leaningForward.imuDegrees.pitch| >
          leaningForward.parameters.criticalPitchDegrees :=
  pushesByRoll_iff (by decide +kernel) (by decide +kernel) 0

/-- A robot that lies 10 degrees to its side is told to drive forward and then
to reverse.  The same turn is published for both, which pushes it to different
sides. -/
theorem reversing_pushes_other_side :
    (∃ node : ImuController ℚ,
      (callbacks wrapping).run (init .declared 0)
          [.imu { roll := 10, pitch := 0, yaw := 0 },
            .vel 0 { linearX := 0.1, angularZ := 0 }, .timer 200000000,
            .vel 300000000 { linearX := -0.1, angularZ := 0 },
            .timer 400000000] = some node ∧
        node.published =
          [{ linearX := -0.1, angularZ := 0.3 },
            { linearX := 0.1, angularZ := 0.3 }]) ∧
      SignType.sign
          (sideways ({ linearX := 0.1, angularZ := 0.3 } : Twist ℚ)) ≠
        SignType.sign
          (sideways ({ linearX := -0.1, angularZ := 0.3 } : Twist ℚ)) ∧
      ¬leaningForward.PushesByRoll 0 := by
  refine ⟨⟨_, rfl, by decide +kernel⟩, by decide +kernel, ?_⟩
  apply not_pushesByRoll <;> decide +kernel

end ImuController
end Skatebot
