import Mathlib.Data.List.Infix
import Skatebot.Driver.Maintenance

/-!
# `ServoNode`

The node that turns the turret's servo.  It pays no attention to the angle that
it is asked for, but for the side of 90 degrees on which the angle lies.
-/

namespace Skatebot

open Library

/-- `ServoNode`. -/
structure ServoNode where
  /-- What it subscribes to. -/
  topicName : List Char
  servoInstance : ServoInstance
  turretForwardDegrees : Int
  turretBackwardDegrees : Int
  /-- The calls of `SetServoPosition`, newest first. -/
  setServoPosition : List (ServoInstance × Int)
  deriving DecidableEq

namespace ServoNode

/-- `ServoNode::ServoNode`, for a node of the given name.  The first `_` of the
name becomes a `/`; `none` where there is none, and the source writes past the
end of the name. -/
def init (name : List Char) : Option ServoNode :=
  if '_' ∈ name then
    let topicName := name.replace '_' '/'
    some
      { topicName := topicName
        servoInstance :=
          if "turret".toList <:+: topicName then .servoTurret
          else .servoNone
        turretForwardDegrees := 0
        turretBackwardDegrees := 0
        setServoPosition := [] }
  else none

/-- `ServoNode::SetTurretLimits`. -/
def setTurretLimits (node : ServoNode)
    (turretForwardDegrees turretBackwardDegrees : Int) : ServoNode :=
  { node with
    turretForwardDegrees := turretForwardDegrees
    turretBackwardDegrees := turretBackwardDegrees }

/-- `ServoNode::Callback`. -/
def callback (node : ServoNode) (angleDegrees : Int) : ServoNode :=
  let newPositionDegrees :=
    if angleDegrees < 90 then node.turretForwardDegrees
    else node.turretBackwardDegrees
  { node with
    setServoPosition :=
      (node.servoInstance, newPositionDegrees) :: node.setServoPosition }

/-- The last position passed to `SetServoPosition`. -/
def lastPosition (node : ServoNode) : Option Int :=
  node.setServoPosition.head?.map Prod.snd

/-- The position that an angle leads to. -/
def position (node : ServoNode) (angleDegrees : Int) : Int :=
  if angleDegrees < 90 then node.turretForwardDegrees
  else node.turretBackwardDegrees

theorem callback_position (node : ServoNode) (angleDegrees : Int) :
    (node.callback angleDegrees).position = node.position := rfl

theorem lastPosition_callback (node : ServoNode) (angleDegrees : Int) :
    (node.callback angleDegrees).lastPosition =
      some (node.position angleDegrees) := rfl

/-- Only the angles below 90 degrees lead forward. -/
theorem position_eq_forward
    {node : ServoNode}
    (distinct : node.turretForwardDegrees ≠ node.turretBackwardDegrees)
    (angleDegrees : Int) :
    node.position angleDegrees = node.turretForwardDegrees ↔
      angleDegrees < 90 := by
  unfold position
  split
  next below => exact iff_of_true rfl below
  next above => exact iff_of_false distinct.symm above

end ServoNode
end Skatebot
