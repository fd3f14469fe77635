import Skatebot.Driver.LostReads
import Skatebot.Driver.GoalVelocity
import Skatebot.Driver.GoalRange
import Skatebot.Driver.Standstill
import Skatebot.Driver.RebootCount
import Skatebot.Driver.RebootLoop
import Skatebot.Driver.RebootService
import Skatebot.Driver.Diagnostics
import Skatebot.Driver.Agreement
import Skatebot.Driver.Races
import Skatebot.Driver.SideNodes
import Skatebot.Driver.TotalDirection
import Skatebot.Driver.SentNumbers
import Skatebot.Driver.PowerOn
import Skatebot.Driver.Alone
import Skatebot.Chassis.TwistToWheels
import Skatebot.HighControl.AutoDrive
import Skatebot.HighControl.EllipseGeometry
import Skatebot.HighControl.ScanVerdict
import Skatebot.HighControl.ToggleButton
import Skatebot.Joystick.ActionClient
import Skatebot.Lidar.LidarNode
import Skatebot.Lidar.ScanHandover
import Skatebot.LowControl.StopCauses
import Skatebot.LowControl.RollCorrection
import Skatebot.LowControl.RelativeEuler
import Skatebot.Monitor.RPiMonitor
import Skatebot.Turret.TurretDirection
import Skatebot.Imu.ImuNode
import Skatebot.Imu.I2C
