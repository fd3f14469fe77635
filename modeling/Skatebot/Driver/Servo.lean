import Skatebot.Driver.Device

/-!
# `DynamixelServo`

The driver object of one servo.  Its methods are programs over the object's
fields and the device behind them; each packet consumes one entry of the
world.
-/

namespace Skatebot

open Library

/-- `DynamixelServo::Configuration`. -/
inductive Configuration
  | configNone
  | configServo
  | configMotorClockwise
  | configMotorAntiClockwise
  deriving DecidableEq

/-- `DynamixelServo::OperatingMode`. -/
inductive OperatingMode
  | noModeSet
  | velocityControlMode
  | positionControlMode
  | extendedPositionControlMode
  | pulseWidthModulationMode
  deriving DecidableEq

/-! ## Constants -/

def operatingModeVelocity : BitVec 8 := 1
def operatingModePosition : BitVec 8 := 3
def operatingModeExtendedPosition : BitVec 8 := 4
def operatingModePwm : BitVec 8 := 16

def minimumRPM : Nat := 1
def maximumRPM : Nat := 52
def maxVelocity : Int := 229
def turretAcceleration : BitVec 32 := 10
def turretMaxVelocity : BitVec 32 := 96
def extendedModeWheelAcceleration : BitVec 32 := 10
def extendedModeWheelMaxVelocity : BitVec 32 := 44
def wheelAcceleration : BitVec 32 := 10
def wheelMaxVelocity : BitVec 32 := 218

/-! ## The object and its methods -/

/-- A `DynamixelServo` object together with the device it drives. -/
structure DynamixelServo where
  modelNumber : BitVec 32
  dxlId : BitVec 8
  config : Configuration
  /-- Whether the port and packet handlers have been set. -/
  handlersSet : Bool
  /-- `int64_t total_encoder_count_`. -/
  totalEncoderCount : Int
  /-- `int32_t last_encoder_count_`. -/
  lastEncoderCount : Int
  device : Device

variable {R : Type} [Field R] [LinearOrder R] [FloorRing R]

/-- A method of `DynamixelServo`: it reads the world and changes the object
and its device. -/
def ServoM (R : Type) [Field R] [LinearOrder R] [FloorRing R] (α : Type) :=
  World R → DynamixelServo → α × DynamixelServo

namespace ServoM

instance : Monad (ServoM R) where
  pure value := fun _ servo => (value, servo)
  bind first next := fun world servo =>
    next (first world servo).1 world (first world servo).2

/-- Call a method. -/
def run (method : ServoM R α) (world : World R) (servo : DynamixelServo) :
    α × DynamixelServo :=
  method world servo

/-- The fields and the device. -/
def this : ServoM R DynamixelServo := fun _ servo => (servo, servo)

/-- The world. -/
def world : ServoM R (World R) := fun world servo => (world, servo)

/-- Assign to fields. -/
def assign (change : DynamixelServo → DynamixelServo) : ServoM R Unit :=
  fun _ servo => ((), change servo)

variable (servo : DynamixelServo) (now : World R)

@[simp] theorem run_pure (value : α) :
    (pure value : ServoM R α).run now servo = (value, servo) := rfl

@[simp] theorem run_bind
    (first : ServoM R α) (next : α → ServoM R β) :
    (first >>= next).run now servo =
      (next (first.run now servo).1).run now (first.run now servo).2 := rfl

@[simp] theorem run_this : (this : ServoM R _).run now servo = (servo, servo) :=
  rfl

@[simp] theorem run_world : (world : ServoM R _).run now servo = (now, servo) :=
  rfl

@[simp] theorem run_assign (change : DynamixelServo → DynamixelServo) :
    (assign change : ServoM R _).run now servo = ((), change servo) := rfl

@[simp] theorem run_ite (condition : Prop) [Decidable condition]
    (first second : ServoM R α) :
    (if condition then first else second).run now servo =
      if condition then first.run now servo else second.run now servo := by
  split <;> rfl

end ServoM

open ServoM

namespace DynamixelServo

/-- The answer to a read request. -/
structure Answer (width : Nat) where
  fate : Fate
  data : BitVec width

/-- Exchange one packet. -/
def txRx (request : Request) : ServoM R Fate := do
  let world ← world
  let servo ← this
  assign fun servo =>
    { servo with device := servo.device.serve world request }
  pure (world.fate servo.device.packets request)

/-- `PacketHandler::read1ByteTxRx`. -/
def read1ByteTxRx (address : Nat) : ServoM R (Answer 8) := do
  let fate ← txRx (.read1 address)
  let servo ← this
  pure { fate := fate, data := servo.device.byte address }

/-- `PacketHandler::read2ByteTxRx`. -/
def read2ByteTxRx (address : Nat) : ServoM R (Answer 16) := do
  let fate ← txRx (.read2 address)
  let servo ← this
  pure
    { fate := fate
      data := servo.device.byte (address + 1) ++ servo.device.byte address }

/-- `PacketHandler::read4ByteTxRx`.  The present position moves with the
wheel, and a rebooting servo answers for its model number as it can. -/
def read4ByteTxRx (address : Nat) : ServoM R (Answer 32) := do
  let world ← world
  let before ← this
  let fate ← txRx (.read4 address)
  let servo ← this
  pure
    { fate := fate
      data :=
        if address = addrPresentPosition then
          BitVec.ofInt 32 servo.device.presentPosition
        else if address = addrModelNumber then
          world.modelNumber before.device.packets
        else servo.device.word address }

/-- `PacketHandler::write1ByteTxRx`. -/
def write1ByteTxRx (address : Nat) (data : BitVec 8) : ServoM R Fate :=
  txRx (.write1 address data)

/-- `PacketHandler::write4ByteTxRx`. -/
def write4ByteTxRx (address : Nat) (data : BitVec 32) : ServoM R Fate :=
  txRx (.write4 address data)

/-- `DynamixelServo::Write4Bytes`. -/
def write4Bytes (address : Nat) (data : BitVec 32) : ServoM R Bool := do
  let fate ← write4ByteTxRx address data
  pure (commsCheck fate)

/-- `DynamixelServo::EnableTorque`. -/
def enableTorque (enable : Bool) : ServoM R Bool := do
  let setting := if enable then 1 else 0
  let fate ← write1ByteTxRx addrTorqueEnable setting
  pure (commsCheck fate)

/-- The conversion of `DynamixelServo::GetOperatingMode`.  The assertion on its
default branch tests a string and never fails. -/
def operatingModeOf (mode : BitVec 8) : OperatingMode :=
  if mode = operatingModeVelocity then .velocityControlMode
  else if mode = operatingModePosition then .positionControlMode
  else if mode = operatingModeExtendedPosition then
    .extendedPositionControlMode
  else if mode = operatingModePwm then .pulseWidthModulationMode
  else .noModeSet

/-- `DynamixelServo::GetOperatingMode`. -/
def getOperatingMode : ServoM R OperatingMode := do
  let answer ← read1ByteTxRx addrOperatingMode
  if commsCheck answer.fate then
    pure (operatingModeOf answer.data)
  else
    pure .noModeSet

/-- `DynamixelServo::GetPresentPosition`. -/
def getPresentPosition : ServoM R Int := do
  let answer ← read4ByteTxRx addrPresentPosition
  if commsCheck answer.fate then
    pure answer.data.toInt
  else
    pure 0

/-- `DynamixelServo::UpdateEncoderCount`. -/
def updateEncoderCount (modeChanged : Bool) : ServoM R Unit := do
  let encoderCount ← getPresentPosition
  if modeChanged then
    -- Case 2: the register was re-based and the wheel did not move.
    assign fun servo => { servo with lastEncoderCount := encoderCount }
  else
    -- Case 1: add the difference to the total.
    assign fun servo =>
      { servo with
        lastEncoderCount := encoderCount
        totalEncoderCount :=
          int64 (servo.totalEncoderCount +
            int32 (encoderCount - servo.lastEncoderCount)) }

/-- `DynamixelServo::GetTotalEncoderCount`. -/
def getTotalEncoderCount : ServoM R Int := do
  updateEncoderCount false
  let servo ← this
  pure servo.totalEncoderCount

/-- `DynamixelServo::SetVelocityProfile`. -/
def setVelocityProfile (acceleration velocity : BitVec 32) :
    ServoM R Unit := do
  let _ ← write4Bytes addrProfileAcceleration acceleration
  let _ ← write4Bytes addrProfileVelocity velocity

/-- What `SetOperatingMode` writes for a mode. -/
structure ModeSettings where
  operatingMode : BitVec 8
  acceleration : BitVec 32
  velocity : BitVec 32
  deriving DecidableEq

/-- The `switch` of `DynamixelServo::SetOperatingMode`. -/
def modeSettings (config : Configuration) : OperatingMode → ModeSettings
  | .velocityControlMode =>
      ⟨operatingModeVelocity, wheelAcceleration, wheelMaxVelocity⟩
  | .extendedPositionControlMode =>
      ⟨operatingModeExtendedPosition, extendedModeWheelAcceleration,
        extendedModeWheelMaxVelocity⟩
  | .positionControlMode =>
      if config = .configServo then
        ⟨operatingModePosition, turretAcceleration, turretMaxVelocity⟩
      else ⟨operatingModePosition, 0, 0⟩
  | .pulseWidthModulationMode => ⟨operatingModePwm, 0, 0⟩
  | .noModeSet => ⟨0, 0, 0⟩

/-- `DynamixelServo::SetOperatingMode`. -/
def setOperatingMode (mode : OperatingMode) : ServoM R Bool := do
  updateEncoderCount false
  let servo ← this
  let settings := modeSettings servo.config mode
  if 0 < settings.operatingMode then
    let fate ← write1ByteTxRx addrOperatingMode settings.operatingMode
    if commsCheck fate then
      setVelocityProfile settings.acceleration settings.velocity
      updateEncoderCount true
      pure true
    else
      pure false
  else
    pure false

/-- `DynamixelServo::ConfigureControlMode`. -/
def configureControlMode (newMode : OperatingMode) : ServoM R Unit := do
  let mode ← getOperatingMode
  if mode ≠ newMode then
    let _ ← getPresentPosition
    let ok ← enableTorque false
    if ok then
      let ok ← setOperatingMode newMode
      if ok then
        let _ ← enableTorque true

/-- `DynamixelServo::SetGoalPosition`. -/
def setGoalPosition (goalPosition : Int) : ServoM R Unit := do
  let _ ← write4Bytes addrGoalPosition (BitVec.ofInt 32 goalPosition)

/-- `DynamixelServo::SetVelocity`. -/
def setVelocity (velocity : Int) : ServoM R Unit := do
  let velocity := if maxVelocity < velocity then maxVelocity else velocity
  let velocity := if velocity < -maxVelocity then -maxVelocity else velocity
  let _ ← write4Bytes addrGoalVelocity (BitVec.ofInt 32 velocity)

/-- `DynamixelServo::SetPosition`. -/
def setPosition (angleDegrees : R) : ServoM R Unit := do
  let world ← world
  setGoalPosition (world.cast.toInt32 (angleDegrees * 4096 / 360))

/-- Encoder counts of an angle; servos go backwards for positive counts. -/
def angleCounts (angleRadians : R) : R :=
  angleRadians / (2 * 3.1415926) * 4096 * -1

/-- `DynamixelServo::SetRelativePosition`. -/
def setRelativePosition (angleRadians : R) : ServoM R Unit := do
  configureControlMode .extendedPositionControlMode
  let position ← getPresentPosition
  let world ← world
  setGoalPosition
    (int32 (position + world.cast.toInt32 (angleCounts angleRadians)))

/-- The limits of `DynamixelServo::SetRPM`, in its order of tests. -/
def limitRPM (rpm : R) : R :=
  let limited := if |rpm| < minimumRPM then 0 else rpm
  let limited := if rpm > maximumRPM then (maximumRPM : R) else limited
  if rpm < -maximumRPM then -maximumRPM else limited

/-- The reversal of `DynamixelServo::SetRPM` for a clockwise motor. -/
def directRPM (config : Configuration) (rpm : R) : R :=
  if config = .configMotorClockwise then -rpm else rpm

/-- `DynamixelServo::SetRPM`. -/
def setRPM (rpm : R) : ServoM R Unit := do
  configureControlMode .velocityControlMode
  let servo ← this
  let world ← world
  let limited := directRPM servo.config (limitRPM rpm)
  setVelocity (world.cast.toInt32 (limited * 229.0 / maximumRPM))

/-! ## Status -/

/-- `DynamixelServo::DynamixelServoStatus`. -/
structure DynamixelServoStatus (R : Type) where
  dxlId : BitVec 8
  hardwareStatus : BitVec 8
  temperatureC : Int
  inputVoltage : R
  deriving DecidableEq

/-- `DynamixelServo::GetHardwareErrorStatus`. -/
def getHardwareErrorStatus : ServoM R (BitVec 8) := do
  let answer ← read1ByteTxRx addrHardwareErrorStatus
  if commsCheck answer.fate then
    pure answer.data
  else
    pure 0

/-- `DynamixelServo::GetTemperature`.  It returns what it has read even where
the status packet reports an error. -/
def getTemperature : ServoM R Int := do
  let answer ← read1ByteTxRx addrPresentTemperature
  if answer.fate.commResult = commSuccess then
    pure answer.data.toNat
  else
    pure 0

/-- `DynamixelServo::GetInputVoltage`. -/
def getInputVoltage : ServoM R R := do
  let answer ← read2ByteTxRx addrPresentInputVoltage
  if commsCheck answer.fate then
    pure ((answer.data.toNat : R) / 10.0)
  else
    pure 0

/-- `DynamixelServo::GetVoltage`. -/
def getVoltage : ServoM R R := getInputVoltage

/-- `DynamixelServo::GetStatus`. -/
def getStatus : ServoM R (DynamixelServoStatus R) := do
  let servo ← this
  let hardwareStatus ← getHardwareErrorStatus
  let temperatureC ← getTemperature
  let inputVoltage ← getInputVoltage
  pure
    { dxlId := servo.dxlId
      hardwareStatus := hardwareStatus
      temperatureC := temperatureC
      inputVoltage := inputVoltage }

/-! ## Initialisation -/

/-- The polling loop of `DynamixelServo::Reboot`; `none` when it is still
polling after the given number of polls.  A failed poll keeps the old reply. -/
def pollModelNumber : Nat → BitVec 32 → ServoM R (Option Unit)
  | 0, _ => pure none
  | polls + 1, modelNumber => do
      let answer ← read4ByteTxRx addrModelNumber
      let modelNumber :=
        if answer.fate.commResult = commSuccess then answer.data
        else modelNumber
      let servo ← this
      let world ← world
      if modelNumber ≠ servo.modelNumber ∧
          world.rclcppOk servo.device.packets = true then
        pollModelNumber polls modelNumber
      else
        pure (some ())

/-- `DynamixelServo::Reboot`, with a bound on the number of polls. -/
def reboot (polls : Nat) : ServoM R (Option Unit) := do
  let fate ← txRx .reboot
  if commsCheck fate then
    pollModelNumber polls 0
  else
    pure (some ())

/-- `DynamixelServo::Init`. -/
def init (polls : Nat) (modelNumber : BitVec 32) (dxlId : BitVec 8)
    (config : Configuration) : ServoM R (Option Unit) := do
  let world ← world
  let servo ← this
  if world.rclcppOk servo.device.packets = true then
    assign fun servo =>
      { servo with
        modelNumber := modelNumber
        dxlId := dxlId
        config := config
        handlersSet := true }
    let rebooted ← reboot polls
    match rebooted with
    | none => pure none
    | some () =>
        if config = .configServo then
          let _ ← setOperatingMode .extendedPositionControlMode
        else
          let _ ← setOperatingMode .velocityControlMode
        let _ ← enableTorque true
        pure (some ())
  else
    pure (some ())

end DynamixelServo

/-! ## Calls -/

/-- A call of a method that always returns. -/
inductive ServoCall (R : Type)
  | configureControlMode (mode : OperatingMode)
  | getId
  | getPresentPosition
  | getTotalEncoderCount
  | setPosition (angleDegrees : R)
  | setRelativePosition (angleRadians : R)
  | setRPM (rpm : R)

/-- What a call returns. -/
def ServoCall.Reply : ServoCall R → Type
  | .configureControlMode _ => Unit
  | .getId => BitVec 8
  | .getPresentPosition => Int
  | .getTotalEncoderCount => Int
  | .setPosition _ => Unit
  | .setRelativePosition _ => Unit
  | .setRPM _ => Unit

/-- The method that a call names. -/
def ServoCall.method : (call : ServoCall R) → ServoM R call.Reply
  | .configureControlMode mode => DynamixelServo.configureControlMode mode
  | .getId => do
      let servo ← this
      return servo.dxlId
  | .getPresentPosition => DynamixelServo.getPresentPosition
  | .getTotalEncoderCount => DynamixelServo.getTotalEncoderCount
  | .setPosition angle => DynamixelServo.setPosition angle
  | .setRelativePosition angle => DynamixelServo.setRelativePosition angle
  | .setRPM rpm => DynamixelServo.setRPM rpm

end Skatebot
