import Skatebot.Library.Rounding

/-!
# Messages between the nodes

The messages that more than one node handles, with the fields that the nodes
read or set.
-/

namespace Skatebot

open Library

/-- The components of `geometry_msgs::msg::Twist` that the nodes use. -/
structure Twist (R : Type) where
  linearX : R
  angularZ : R
  deriving DecidableEq

/-- The command to stand still. -/
def Twist.stop [Zero R] : Twist R where
  linearX := 0
  angularZ := 0

/-- `pipebot_msgs::msg::MotorControl`, less its duty cycle, which no node
obeys. -/
structure MotorControl (R : Type) where
  id : Int
  mode : Int
  angleRadians : Double R
  rpm : Double R
  speedRadiansS : Double R
  deriving DecidableEq

namespace MotorControl

def left : Int := 0
def right : Int := 1
def frontLeft : Int := 2
def frontRight : Int := 3
def rearLeft : Int := 4
def rearRight : Int := 5
def modeRelative : Int := 1
def modeSpeed : Int := 2
def modeRadiansSecond : Int := 4

end MotorControl

/-- The speeds of all wheels. -/
inductive WheelSpeeds (R : Type)
  /-- `pipebot_msgs::msg::MultipleWheelDrive` on `all_motors`. -/
  | allMotors (motors : List (MotorControl R))
  /-- `std_msgs::msg::Float64MultiArray` on `velocity_controller/commands`. -/
  | simulation (data : List (Double R))
  deriving DecidableEq

end Skatebot
