import Skatebot.Driver.Bytes
import Skatebot.Driver.ServoLemmas
import Skatebot.Library.Interleaving

/-!
# `DynamixelComms`

The object that the nodes share: the servos, the bulk writer, the flags of the
deadman's switch and the mutex.  Every function is a program over atomic
actions, namely the accesses to the two atomic flags, the acquisition and
release of the mutex, and the calls made under the mutex.
-/

namespace Skatebot

open Library

/-! ## The object -/

/-- The servo members of `DynamixelComms`. -/
inductive Member
  | motorFrontLeft
  | motorFrontRight
  | motorRearLeft
  | motorRearRight
  | servoTurret
  deriving DecidableEq

def turretId : BitVec 8 := 0
def leftFrontId : BitVec 8 := 2
def leftRearId : BitVec 8 := 3
def rightFrontId : BitVec 8 := 1
def rightRearId : BitVec 8 := 4

/-- The id that `DynamixelComms::Init` gives a member. -/
def Member.id : Member → BitVec 8
  | .motorFrontLeft => leftFrontId
  | .motorFrontRight => rightFrontId
  | .motorRearLeft => leftRearId
  | .motorRearRight => rightRearId
  | .servoTurret => turretId

/-- The configuration that `DynamixelComms::Init` gives a member. -/
def Member.configuration : Member → Configuration
  | .motorFrontLeft => .configMotorAntiClockwise
  | .motorFrontRight => .configMotorClockwise
  | .motorRearLeft => .configMotorAntiClockwise
  | .motorRearRight => .configMotorClockwise
  | .servoTurret => .configServo

/-- `MotorInstance`. -/
inductive MotorInstance
  | motorLeft
  | motorRight
  deriving DecidableEq

/-- The threads that use the object: the deadman's switch thread and the
callers of its public functions. -/
inductive Thread
  | deadmansSwitch
  | caller (number : Nat)
  deriving DecidableEq

/-- A parameter of the bulk writer. -/
structure BulkParam where
  id : BitVec 8
  address : Nat
  data : Bytes
  deriving DecidableEq

/-- A `DynamixelComms` object together with the servos on its bus. -/
structure DynamixelComms where
  servo : Member → DynamixelServo
  groupBulkWrite : List BulkParam
  deadmansSwitch : Bool
  deadmansSwitchEnabled : Bool
  /-- The thread that holds `comms_mutex_`. -/
  commsMutex : Option Thread

variable {R : Type} [Field R] [LinearOrder R] [FloorRing R]

/-- What the driver does not control, for every servo on the bus, and the
compiler's conversions. -/
structure Bus (R : Type) [Field R] [LinearOrder R] [FloorRing R] where
  world : Member → World R
  cast : FloatCast R

/-- Every packet to every servo succeeds. -/
def Bus.AllSucceed (bus : Bus R) : Prop :=
  ∀ member, (bus.world member).AllSucceed

/-! ## Atomic actions -/

/-- What a thread does in one step. -/
inductive CommsAction (R : Type)
  | lock
  | unlock
  | call (member : Member) (method : ServoCall R)
  | addParam (param : BulkParam)
  | txPacket
  | clearParam
  | loadSwitch
  | loadEnabled
  | storeSwitch (value : Bool)
  | storeEnabled (value : Bool)

/-- What the step returns. -/
def CommsAction.Reply : CommsAction R → Type
  | .lock => Unit
  | .unlock => Unit
  | .call _ method => method.Reply
  | .addParam _ => Bool
  | .txPacket => Unit
  | .clearParam => Unit
  | .loadSwitch => Bool
  | .loadEnabled => Bool
  | .storeSwitch _ => Unit
  | .storeEnabled _ => Unit

/-- Code of a `DynamixelComms` function. -/
abbrev CommsM (R : Type) [Field R] [LinearOrder R] [FloorRing R] :=
  Program (CommsAction R) CommsAction.Reply

/-- A bulk write reaches the servos that its parameters name. -/
def bulkWrite (world : World R) (params : List BulkParam)
    (servo : DynamixelServo) : DynamixelServo :=
  params.foldl
    (fun servo param =>
      if param.id = servo.dxlId then
        servo.exchange world (.write4 param.address param.data.register)
      else servo)
    servo

/-- The effect of an action.  `lock` waits while the mutex is held, and
`addParam` refuses a second parameter for a servo. -/
def execute (bus : Bus R) (thread : Thread) :
    Handler (CommsAction R) CommsAction.Reply DynamixelComms
  | .lock, comms =>
      if comms.commsMutex = none then
        some ((), { comms with commsMutex := some thread })
      else none
  | .unlock, comms => some ((), { comms with commsMutex := none })
  | .call member call, comms =>
      some ((call.method.run (bus.world member) (comms.servo member)).1,
        { comms with
          servo :=
            Function.update comms.servo member
              (call.effect (bus.world member) (comms.servo member)) })
  | .addParam param, comms =>
      if param.id ∈ comms.groupBulkWrite.map BulkParam.id then
        some (false, comms)
      else
        some (true,
          { comms with
            groupBulkWrite := comms.groupBulkWrite ++ [param] })
  | .txPacket, comms =>
      some ((),
        { comms with
          servo := fun member =>
            bulkWrite (bus.world member) comms.groupBulkWrite
              (comms.servo member) })
  | .clearParam, comms => some ((), { comms with groupBulkWrite := [] })
  | .loadSwitch, comms => some (comms.deadmansSwitch, comms)
  | .loadEnabled, comms => some (comms.deadmansSwitchEnabled, comms)
  | .storeSwitch value, comms =>
      some ((), { comms with deadmansSwitch := value })
  | .storeEnabled value, comms =>
      some ((), { comms with deadmansSwitchEnabled := value })

namespace DynamixelComms

/-- The program of one action. -/
def act (action : CommsAction R) : CommsM R action.Reply :=
  Program.perform action

/-- `std::scoped_lock lock(comms_mutex_)`. -/
def lock : CommsM R Unit := act .lock

/-- The end of the lock's scope. -/
def unlock : CommsM R Unit := act .unlock

/-- Call a method of a servo. -/
def on (member : Member) (call : ServoCall R) : CommsM R call.Reply :=
  act (.call member call)

/-- Read `deadmans_switch_`. -/
def loadSwitch : CommsM R Bool := act .loadSwitch

/-- Read `deadmans_switch_enabled_`. -/
def loadEnabled : CommsM R Bool := act .loadEnabled

/-- Assign to `deadmans_switch_`. -/
def storeSwitch (value : Bool) : CommsM R Unit := act (.storeSwitch value)

/-- Assign to `deadmans_switch_enabled_`. -/
def storeEnabled (value : Bool) : CommsM R Unit := act (.storeEnabled value)

/-- `GroupBulkWrite::addParam`. -/
def bulkAddParam (param : BulkParam) : CommsM R Bool := act (.addParam param)

/-- `GroupBulkWrite::txPacket`. -/
def txPacket : CommsM R Unit := act .txPacket

/-- `GroupBulkWrite::clearParam`. -/
def clearParam : CommsM R Unit := act .clearParam

/-- `ConfigureControlMode` of a servo. -/
def configureControlMode (member : Member) (mode : OperatingMode) :
    CommsM R Unit :=
  on member (.configureControlMode mode)

/-- `GetId` of a servo. -/
def getId (member : Member) : CommsM R (BitVec 8) := on member .getId

/-- `GetPresentPosition` of a servo. -/
def getPresentPosition (member : Member) : CommsM R Int :=
  on member .getPresentPosition

/-! ## Conversions -/

/-- `DynamixelComms::ConvertRPMToGoalVelocity`. -/
def convertRPMToGoalVelocity (cast : FloatCast R) (goalRPM : R) : Bytes :=
  let newVelocityTicks := cast.toInt64 (goalRPM * (1.0 / 0.229))
  Bytes.split (BitVec.ofInt 64 newVelocityTicks)

/-- `DynamixelComms::CalculateNewGoalPosition`. -/
def calculateNewGoalPosition (cast : FloatCast R) (angleRadians : R)
    (position : Int) : Bytes :=
  let newPosition :=
    int32 (position +
      cast.toInt32 (angleRadians / (2.0 * 3.1415926) * 4096.0 * -1.0))
  Bytes.split (BitVec.ofInt 64 newPosition)

/-! ## The deadman's switch -/

/-- `DynamixelComms::DeadmansSwitchReset`. -/
def deadmansSwitchReset : CommsM R Unit := storeSwitch false

/-- `DynamixelComms::DeadmansSwitchEnable`. -/
def deadmansSwitchEnable (enable : Bool) : CommsM R Unit :=
  storeEnabled enable

/-- One iteration of `DynamixelComms::DeadmansSwitchLoop`, after its sleep. -/
def deadmansSwitchIteration : CommsM R Unit := do
  let enabled ← loadEnabled
  if enabled then
    let switch ← loadSwitch
    if switch then
      lock
      let _ ← on .motorFrontLeft (.setRPM 0)
      let _ ← on .motorRearLeft (.setRPM 0)
      let _ ← on .motorFrontRight (.setRPM 0)
      let _ ← on .motorRearRight (.setRPM 0)
      unlock
    storeSwitch true

/-! ## Commands -/

/-- The address and data that `SetAllRPM` and `SetAllRelativePosition` add for
a servo. -/
def addParam (member : Member) (address : Nat) (data : Bytes) :
    CommsM R Unit := do
  let id ← getId member
  let _ ← bulkAddParam { id := id, address := address, data := data }

/-- `DynamixelComms::SetAllRPM`. -/
def setAllRPM (cast : FloatCast R)
    (frontLeftRPM frontRightRPM rearLeftRPM rearRightRPM : R) :
    CommsM R Unit := do
  lock
  configureControlMode .motorFrontLeft .velocityControlMode
  configureControlMode .motorFrontRight .velocityControlMode
  configureControlMode .motorRearLeft .velocityControlMode
  configureControlMode .motorRearRight .velocityControlMode
  let frontRightRPM := -frontRightRPM
  let rearRightRPM := -rearRightRPM
  addParam .motorFrontLeft addrGoalVelocity
    (convertRPMToGoalVelocity cast frontLeftRPM)
  addParam .motorFrontRight addrGoalVelocity
    (convertRPMToGoalVelocity cast frontRightRPM)
  addParam .motorRearLeft addrGoalVelocity
    (convertRPMToGoalVelocity cast rearLeftRPM)
  addParam .motorRearRight addrGoalVelocity
    (convertRPMToGoalVelocity cast rearRightRPM)
  txPacket
  clearParam
  deadmansSwitchEnable true
  deadmansSwitchReset
  unlock

/-- `DynamixelComms::SetRPM`. -/
def setRPM (motor : MotorInstance) (rpm : R) : CommsM R Unit := do
  if motor = .motorLeft then
    lock
    let _ ← on .motorFrontLeft (.setRPM rpm)
    let _ ← on .motorRearLeft (.setRPM rpm)
    unlock
  if motor = .motorRight then
    lock
    let _ ← on .motorFrontRight (.setRPM (-rpm))
    let _ ← on .motorRearRight (.setRPM (-rpm))
    unlock
  deadmansSwitchEnable true
  deadmansSwitchReset

/-- `DynamixelComms::SetRelativePosition`. -/
def setRelativePosition (motor : MotorInstance) (angleRadians : R) :
    CommsM R Unit := do
  deadmansSwitchEnable false
  if motor = .motorLeft then
    lock
    let _ ← on .motorFrontLeft (.setRelativePosition angleRadians)
    let _ ← on .motorRearLeft (.setRelativePosition angleRadians)
    unlock
  if motor = .motorRight then
    lock
    let _ ← on .motorFrontRight (.setRelativePosition angleRadians)
    let _ ← on .motorRearRight (.setRelativePosition angleRadians)
    unlock

/-- `DynamixelComms::SetAllRelativePosition`. -/
def setAllRelativePosition (cast : FloatCast R)
    (frontLeftAngle frontRightAngle rearLeftAngle rearRightAngle : R) :
    CommsM R Unit := do
  deadmansSwitchEnable false
  lock
  configureControlMode .motorFrontLeft .extendedPositionControlMode
  configureControlMode .motorFrontRight .extendedPositionControlMode
  configureControlMode .motorRearLeft .extendedPositionControlMode
  configureControlMode .motorRearRight .extendedPositionControlMode
  let frontLeftPosition ← getPresentPosition .motorFrontLeft
  let frontRightPosition ← getPresentPosition .motorFrontRight
  let rearLeftPosition ← getPresentPosition .motorRearLeft
  let rearRightPosition ← getPresentPosition .motorRearRight
  addParam .motorFrontLeft addrGoalPosition
    (calculateNewGoalPosition cast frontLeftAngle frontLeftPosition)
  addParam .motorFrontRight addrGoalPosition
    (calculateNewGoalPosition cast frontRightAngle frontRightPosition)
  addParam .motorRearLeft addrGoalPosition
    (calculateNewGoalPosition cast rearLeftAngle rearLeftPosition)
  addParam .motorRearRight addrGoalPosition
    (calculateNewGoalPosition cast rearRightAngle rearRightPosition)
  txPacket
  clearParam
  unlock

/-- A command to the wheels. -/
inductive Command (R : Type)
  | setAllRPM (frontLeftRPM frontRightRPM rearLeftRPM rearRightRPM : R)
  | setRPM (motor : MotorInstance) (rpm : R)
  | setAllRelativePosition
      (frontLeftAngle frontRightAngle rearLeftAngle rearRightAngle : R)
  | setRelativePosition (motor : MotorInstance) (angleRadians : R)

/-- The code of a command. -/
def Command.code (cast : FloatCast R) : Command R → CommsM R Unit
  | .setAllRPM frontLeft frontRight rearLeft rearRight =>
      DynamixelComms.setAllRPM cast frontLeft frontRight rearLeft rearRight
  | .setRPM motor rpm => DynamixelComms.setRPM motor rpm
  | .setAllRelativePosition frontLeft frontRight rearLeft rearRight =>
      DynamixelComms.setAllRelativePosition cast frontLeft frontRight rearLeft
        rearRight
  | .setRelativePosition motor angle =>
      DynamixelComms.setRelativePosition motor angle

end DynamixelComms
end Skatebot
