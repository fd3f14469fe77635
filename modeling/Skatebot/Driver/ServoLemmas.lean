import Mathlib.Algebra.Order.Ring.Rat
import Skatebot.Driver.Servo
import Skatebot.Library.Machine

/-!
# What the methods of `DynamixelServo` do

One equation for each method: the value it returns and the state it leaves,
as a sequence of exchanges with the device.  Later modules use these and do
not look inside the methods.
-/

namespace Skatebot
namespace DynamixelServo

open Library ServoM

variable {R : Type} [Field R] [LinearOrder R] [FloorRing R]
variable (world : World R) (servo : DynamixelServo)

/-- The state after one exchange. -/
def exchange (request : Request) : DynamixelServo :=
  { servo with device := servo.device.serve world request }

@[simp] theorem exchange_device (request : Request) :
    (servo.exchange world request).device =
      servo.device.serve world request := rfl

@[simp] theorem exchange_config (request : Request) :
    (servo.exchange world request).config = servo.config := rfl

@[simp] theorem exchange_dxlId (request : Request) :
    (servo.exchange world request).dxlId = servo.dxlId := rfl

@[simp] theorem exchange_handlersSet (request : Request) :
    (servo.exchange world request).handlersSet = servo.handlersSet := rfl

@[simp] theorem exchange_total (request : Request) :
    (servo.exchange world request).totalEncoderCount =
      servo.totalEncoderCount := rfl

@[simp] theorem exchange_last (request : Request) :
    (servo.exchange world request).lastEncoderCount =
      servo.lastEncoderCount := rfl

@[simp] theorem run_txRx (request : Request) :
    (txRx request : ServoM R _).run world servo =
      (world.fate servo.device.packets request,
        servo.exchange world request) := rfl

@[simp] theorem run_write4Bytes (address : Nat) (data : BitVec 32) :
    (write4Bytes address data : ServoM R _).run world servo =
      (world.ok servo.device.packets (.write4 address data),
        servo.exchange world (.write4 address data)) := rfl

@[simp] theorem run_enableTorque (enable : Bool) :
    (enableTorque enable : ServoM R _).run world servo =
      (world.ok servo.device.packets
          (.write1 addrTorqueEnable (if enable then 1 else 0)),
        servo.exchange world
          (.write1 addrTorqueEnable (if enable then 1 else 0))) := rfl

/-- The mode that `GetOperatingMode` reports. -/
def reportedMode : OperatingMode :=
  if world.ok servo.device.packets (.read1 addrOperatingMode) then
    operatingModeOf (servo.device.byte addrOperatingMode)
  else .noModeSet

@[simp] theorem run_getOperatingMode :
    (getOperatingMode : ServoM R _).run world servo =
      (servo.reportedMode world,
        servo.exchange world (.read1 addrOperatingMode)) := by
  simp only [getOperatingMode, read1ByteTxRx, run_bind, run_txRx, run_this,
    run_pure, run_ite, reportedMode, commsCheck_fate, exchange_device,
    Device.serve_read1_byte]
  split <;> rfl

/-- The position that `GetPresentPosition` reports: the register's low 32 bits
after the wheel's motion, or 0 when the read fails. -/
def reportedPosition : Int :=
  if world.ok servo.device.packets (.read4 addrPresentPosition) then
    int32 (servo.device.presentPosition +
      world.motion servo.device.packets)
  else 0

@[simp] theorem run_getPresentPosition :
    (getPresentPosition : ServoM R _).run world servo =
      (servo.reportedPosition world,
        servo.exchange world (.read4 addrPresentPosition)) := by
  have register :
      (servo.device.serve world
        (.read4 addrPresentPosition)).presentPosition =
        servo.device.presentPosition + world.motion servo.device.packets := by
    apply Device.serve_presentPosition <;> simp
  simp only [getPresentPosition, read4ByteTxRx, run_bind, run_world, run_txRx,
    run_this, run_pure, run_ite, reportedPosition, commsCheck_fate,
    exchange_device, if_true, register, BitVec.toInt_ofInt, int32]
  split <;> rfl

/-- The state after `UpdateEncoderCount`. -/
def updated (modeChanged : Bool) : DynamixelServo :=
  let reading := servo.reportedPosition world
  if modeChanged then
    { servo.exchange world (.read4 addrPresentPosition) with
      lastEncoderCount := reading }
  else
    { servo.exchange world (.read4 addrPresentPosition) with
      lastEncoderCount := reading
      totalEncoderCount :=
        int64 (servo.totalEncoderCount +
          int32 (reading - servo.lastEncoderCount)) }

@[simp] theorem run_updateEncoderCount (modeChanged : Bool) :
    (updateEncoderCount modeChanged : ServoM R _).run world servo =
      ((), servo.updated world modeChanged) := by
  cases modeChanged <;>
    simp [updateEncoderCount, updated]

@[simp] theorem updated_device (modeChanged : Bool) :
    (servo.updated world modeChanged).device =
      servo.device.serve world (.read4 addrPresentPosition) := by
  cases modeChanged <;> rfl

@[simp] theorem updated_config (modeChanged : Bool) :
    (servo.updated world modeChanged).config = servo.config := by
  cases modeChanged <;> rfl

@[simp] theorem updated_dxlId (modeChanged : Bool) :
    (servo.updated world modeChanged).dxlId = servo.dxlId := by
  cases modeChanged <;> rfl

@[simp] theorem updated_handlersSet (modeChanged : Bool) :
    (servo.updated world modeChanged).handlersSet = servo.handlersSet := by
  cases modeChanged <;> rfl

@[simp] theorem updated_last (modeChanged : Bool) :
    (servo.updated world modeChanged).lastEncoderCount =
      servo.reportedPosition world := by
  cases modeChanged <;> rfl

theorem updated_true_total :
    (servo.updated world true).totalEncoderCount = servo.totalEncoderCount :=
  rfl

theorem updated_false_total :
    (servo.updated world false).totalEncoderCount =
      int64 (servo.totalEncoderCount +
        int32 (servo.reportedPosition world - servo.lastEncoderCount)) := rfl

@[simp] theorem run_getTotalEncoderCount :
    (getTotalEncoderCount : ServoM R _).run world servo =
      ((servo.updated world false).totalEncoderCount,
        servo.updated world false) := by
  simp [getTotalEncoderCount]

@[simp] theorem run_setVelocityProfile (acceleration velocity : BitVec 32) :
    (setVelocityProfile acceleration velocity : ServoM R _).run world servo =
      ((), (servo.exchange world
          (.write4 addrProfileAcceleration acceleration)).exchange world
            (.write4 addrProfileVelocity velocity)) := rfl

/-- There is a mode to write. -/
def ModeSettings.Valid (settings : ModeSettings) : Prop :=
  0 < settings.operatingMode

instance (settings : ModeSettings) : Decidable settings.Valid :=
  inferInstanceAs (Decidable (_ < _))

theorem modeSettings_valid_iff (config : Configuration) (mode : OperatingMode) :
    (modeSettings config mode).Valid ↔ mode ≠ .noModeSet := by
  cases config <;> cases mode <;> decide

/-- `SetOperatingMode` has a mode to write, and the write succeeds. -/
def SetsMode (mode : OperatingMode) : Prop :=
  (modeSettings servo.config mode).Valid ∧
    world.ok (servo.device.packets + 1)
      (.write1 addrOperatingMode
        (modeSettings servo.config mode).operatingMode) = true

instance (mode : OperatingMode) : Decidable (servo.SetsMode world mode) :=
  inferInstanceAs (Decidable (_ ∧ _))

/-- The state in which `SetOperatingMode` takes the reading after the jump:
the mode and its profile are written. -/
def switched (settings : ModeSettings) : DynamixelServo :=
  (((servo.updated world false).exchange world
    (.write1 addrOperatingMode settings.operatingMode)).exchange world
      (.write4 addrProfileAcceleration settings.acceleration)).exchange world
        (.write4 addrProfileVelocity settings.velocity)

/-- The state after `SetOperatingMode` when it sets the mode. -/
def rebased (settings : ModeSettings) : DynamixelServo :=
  (servo.switched world settings).updated world true

/-- The state after `SetOperatingMode` when it does not set the mode. -/
def unset (settings : ModeSettings) : DynamixelServo :=
  if settings.Valid then
    (servo.updated world false).exchange world
      (.write1 addrOperatingMode settings.operatingMode)
  else servo.updated world false

/-- `SetOperatingMode` counts, then writes a valid mode, and re-bases. -/
@[simp] theorem run_setOperatingMode (mode : OperatingMode) :
    (setOperatingMode mode : ServoM R _).run world servo =
      (decide (servo.SetsMode world mode),
        if servo.SetsMode world mode then
          servo.rebased world (modeSettings servo.config mode)
        else servo.unset world (modeSettings servo.config mode)) := by
  have counted :
      (servo.updated world false).device.packets =
        servo.device.packets + 1 := by
    simp
  by_cases valid : (modeSettings servo.config mode).Valid
  · by_cases arrives :
        world.ok (servo.device.packets + 1)
          (.write1 addrOperatingMode
            (modeSettings servo.config mode).operatingMode) = true
    · have sets : servo.SetsMode world mode := ⟨valid, arrives⟩
      unfold ModeSettings.Valid at valid
      simp only [setOperatingMode, write1ByteTxRx, run_bind, run_this,
        run_txRx, run_pure, run_updateEncoderCount, updated_config,
        commsCheck_fate, counted, valid, arrives, sets, if_true,
        run_setVelocityProfile, rebased, switched, decide_true]
    · have fails : ¬servo.SetsMode world mode := fun sets => arrives sets.2
      have attempted := valid
      unfold ModeSettings.Valid at attempted
      simp only [setOperatingMode, write1ByteTxRx, run_bind, run_this,
        run_txRx, run_pure, run_updateEncoderCount, updated_config,
        commsCheck_fate, counted, attempted, arrives, fails, if_true,
        if_false, unset, valid, decide_false, Bool.false_eq_true]
  · have fails : ¬servo.SetsMode world mode := fun sets => valid sets.1
    have skipped := valid
    unfold ModeSettings.Valid at skipped
    simp only [setOperatingMode, run_bind, run_this, run_pure,
      run_updateEncoderCount, updated_config, skipped, fails, if_false,
      unset, valid, decide_false]

/-- The state in which `ConfigureControlMode` begins to set a mode: the mode
and the position have been read and the torque write has been sent. -/
def released : DynamixelServo :=
  ((servo.exchange world (.read1 addrOperatingMode)).exchange world
    (.read4 addrPresentPosition)).exchange world
      (.write1 addrTorqueEnable 0)

@[simp] theorem released_config :
    (servo.released world).config = servo.config := rfl

theorem released_packets :
    (servo.released world).device.packets = servo.device.packets + 3 := by
  simp [released]

/-- `ConfigureControlMode` gets as far as switching the torque off. -/
def Interrupts (newMode : OperatingMode) : Prop :=
  servo.reportedMode world ≠ newMode ∧
    world.ok (servo.device.packets + 2) (.write1 addrTorqueEnable 0) = true

instance (newMode : OperatingMode) :
    Decidable (servo.Interrupts world newMode) :=
  inferInstanceAs (Decidable (_ ∧ _))

/-- The state after `ConfigureControlMode`.  It does nothing where the right
mode is reported already, and it stops at the first of its writes that
fails. -/
def configured (newMode : OperatingMode) : DynamixelServo :=
  if servo.Interrupts world newMode then
    if (servo.released world).SetsMode world newMode then
      ((servo.released world).rebased world
        (modeSettings servo.config newMode)).exchange world
          (.write1 addrTorqueEnable 1)
    else
      (servo.released world).unset world (modeSettings servo.config newMode)
  else if servo.reportedMode world ≠ newMode then servo.released world
  else servo.exchange world (.read1 addrOperatingMode)

@[simp] theorem run_configureControlMode (newMode : OperatingMode) :
    (configureControlMode newMode : ServoM R _).run world servo =
      ((), servo.configured world newMode) := by
  have begun :
      ((servo.exchange world (.read1 addrOperatingMode)).exchange world
        (.read4 addrPresentPosition)).exchange world
          (.write1 addrTorqueEnable 0) = servo.released world := rfl
  simp only [configureControlMode, run_bind, run_getOperatingMode, run_ite,
    run_pure, run_getPresentPosition, run_enableTorque, exchange_device,
    Device.serve_packets, Bool.false_eq_true, if_false, if_true, begun,
    run_setOperatingMode, released_config, decide_eq_true_eq, Nat.add_assoc,
    Nat.reduceAdd, configured, Interrupts]
  by_cases right : servo.reportedMode world = newMode
  · simp only [right, ne_eq, not_true_eq_false, false_and, if_false]
  · by_cases off :
        world.ok (servo.device.packets + 2)
          (.write1 addrTorqueEnable 0) = true
    · simp only [right, off, ne_eq, not_false_eq_true, and_self, if_true]
      split <;> rfl
    · simp only [right, off, ne_eq, not_false_eq_true, and_false, if_true,
        if_false, Bool.false_eq_true]

/-- Where the right mode is reported, nothing else is sent. -/
theorem configured_of_reported
    {newMode : OperatingMode}
    (reported : servo.reportedMode world = newMode) :
    servo.configured world newMode =
      servo.exchange world (.read1 addrOperatingMode) := by
  have quiet : ¬servo.Interrupts world newMode :=
    fun interrupts => interrupts.1 reported
  rw [configured, if_neg quiet, if_neg (not_not.mpr reported)]

@[simp] theorem run_setGoalPosition (goalPosition : Int) :
    (setGoalPosition goalPosition : ServoM R _).run world servo =
      ((), servo.exchange world
        (.write4 addrGoalPosition (BitVec.ofInt 32 goalPosition))) := rfl

/-- The saturation of `SetVelocity`. -/
def limitVelocity (velocity : Int) : Int :=
  max (-maxVelocity) (min maxVelocity velocity)

@[simp] theorem run_setVelocity (velocity : Int) :
    (setVelocity velocity : ServoM R _).run world servo =
      ((), servo.exchange world
        (.write4 addrGoalVelocity
          (BitVec.ofInt 32 (limitVelocity velocity)))) := by
  have saturated :
      (if (if maxVelocity < velocity then maxVelocity else velocity) <
          -maxVelocity then -maxVelocity
        else if maxVelocity < velocity then maxVelocity else velocity) =
        limitVelocity velocity := by
    unfold limitVelocity maxVelocity
    split_ifs <;> omega
  simp only [setVelocity, run_bind, run_write4Bytes, run_pure, saturated]

/-- The velocity that `SetRPM` sends. -/
def goalVelocity (rpm : R) : Int :=
  limitVelocity
    (world.cast.toInt32
      (directRPM servo.config (limitRPM rpm) * 229.0 / maximumRPM))

@[simp] theorem run_setRPM (rpm : R) :
    (setRPM rpm : ServoM R _).run world servo =
      ((), (servo.configured world .velocityControlMode).exchange world
        (.write4 addrGoalVelocity
          (BitVec.ofInt 32
            ((servo.configured world .velocityControlMode).goalVelocity
              world rpm)))) := by
  simp only [setRPM, run_bind, run_configureControlMode, run_this, run_world,
    run_setVelocity, goalVelocity]

@[simp] theorem run_setPosition (angleDegrees : R) :
    (setPosition angleDegrees : ServoM R _).run world servo =
      ((), servo.exchange world
        (.write4 addrGoalPosition
          (BitVec.ofInt 32
            (world.cast.toInt32 (angleDegrees * 4096 / 360))))) := by
  simp only [setPosition, run_bind, run_world, run_setGoalPosition]

/-- The goal that `SetRelativePosition` sends. -/
def relativeGoal (angleRadians : R) : Int :=
  int32 (servo.reportedPosition world +
    world.cast.toInt32 (angleCounts angleRadians))

@[simp] theorem run_setRelativePosition (angleRadians : R) :
    (setRelativePosition angleRadians : ServoM R _).run world servo =
      ((),
        (((servo.configured world .extendedPositionControlMode).exchange world
          (.read4 addrPresentPosition)).exchange world
            (.write4 addrGoalPosition
              (BitVec.ofInt 32
                ((servo.configured world
                  .extendedPositionControlMode).relativeGoal world
                    angleRadians))))) := by
  simp only [setRelativePosition, run_bind, run_configureControlMode,
    run_getPresentPosition, run_world, run_setGoalPosition, relativeGoal]

theorem run_read1ByteTxRx (address : Nat) :
    (read1ByteTxRx address : ServoM R _).run world servo =
      ({ fate := world.fate servo.device.packets (.read1 address)
         data :=
          (servo.exchange world (.read1 address)).device.byte address },
        servo.exchange world (.read1 address)) := rfl

theorem run_read2ByteTxRx (address : Nat) :
    (read2ByteTxRx address : ServoM R _).run world servo =
      ({ fate := world.fate servo.device.packets (.read2 address)
         data :=
          (servo.exchange world (.read2 address)).device.byte (address + 1) ++
            (servo.exchange world (.read2 address)).device.byte address },
        servo.exchange world (.read2 address)) := rfl

theorem run_getHardwareErrorStatus_state :
    ((getHardwareErrorStatus : ServoM R _).run world servo).2 =
      servo.exchange world (.read1 addrHardwareErrorStatus) := by
  rw [getHardwareErrorStatus, run_bind, run_read1ByteTxRx]
  dsimp only
  rw [run_ite]
  split <;> rfl

theorem run_getTemperature_state :
    ((getTemperature : ServoM R _).run world servo).2 =
      servo.exchange world (.read1 addrPresentTemperature) := by
  rw [getTemperature, run_bind, run_read1ByteTxRx]
  dsimp only
  rw [run_ite]
  split <;> rfl

theorem run_getVoltage_state :
    ((getVoltage : ServoM R _).run world servo).2 =
      servo.exchange world (.read2 addrPresentInputVoltage) := by
  rw [getVoltage, getInputVoltage, run_bind, run_read2ByteTxRx]
  dsimp only
  rw [run_ite]
  split <;> rfl

/-- A hardware error status that arrives is the register's. -/
theorem getHardwareErrorStatus_of_allSucceed
    {world : World R}
    (succeed : world.AllSucceed)
    (servo : DynamixelServo) :
    ((getHardwareErrorStatus : ServoM R _).run world servo).1 =
      servo.device.byte addrHardwareErrorStatus := by
  rw [getHardwareErrorStatus, run_bind, run_read1ByteTxRx]
  dsimp only
  rw [run_ite, commsCheck_fate, if_pos (succeed _ _)]
  simp

theorem getTemperature_of_allSucceed
    {world : World R}
    (succeed : world.AllSucceed)
    (servo : DynamixelServo) :
    ((getTemperature : ServoM R _).run world servo).1 =
      (servo.device.byte addrPresentTemperature).toNat := by
  rw [getTemperature, run_bind, run_read1ByteTxRx]
  dsimp only
  rw [run_ite, if_pos (commResult_of_commsCheck (succeed _ _))]
  simp

theorem getInputVoltage_of_allSucceed
    {world : World R}
    (succeed : world.AllSucceed)
    (servo : DynamixelServo) :
    ((getInputVoltage : ServoM R _).run world servo).1 =
      ((servo.device.byte (addrPresentInputVoltage + 1) ++
        servo.device.byte addrPresentInputVoltage).toNat : R) / 10.0 := by
  rw [getInputVoltage, run_bind, run_read2ByteTxRx]
  dsimp only
  rw [run_ite, commsCheck_fate, if_pos (succeed _ _)]
  simp

/-- The state after `GetStatus`. -/
def examined : DynamixelServo :=
  ((servo.exchange world (.read1 addrHardwareErrorStatus)).exchange world
    (.read1 addrPresentTemperature)).exchange world
      (.read2 addrPresentInputVoltage)

theorem run_getStatus_state :
    ((getStatus : ServoM R _).run world servo).2 = servo.examined world := by
  have voltage : ∀ servo : DynamixelServo,
      ((getInputVoltage : ServoM R _).run world servo).2 =
        servo.exchange world (.read2 addrPresentInputVoltage) :=
    fun servo => servo.run_getVoltage_state world
  simp only [getStatus, run_bind, run_this, run_pure,
    run_getHardwareErrorStatus_state, run_getTemperature_state, voltage,
    examined]

/-! ## Fields that calls keep -/

@[simp] theorem rebased_config (settings : ModeSettings) :
    (servo.rebased world settings).config = servo.config := by
  simp [rebased, switched]

@[simp] theorem unset_config (settings : ModeSettings) :
    (servo.unset world settings).config = servo.config := by
  unfold unset
  split
  · rw [exchange_config, updated_config]
  · exact updated_config ..

@[simp] theorem configured_config (newMode : OperatingMode) :
    (servo.configured world newMode).config = servo.config := by
  unfold configured
  split_ifs <;> simp

@[simp] theorem configured_dxlId (newMode : OperatingMode) :
    (servo.configured world newMode).dxlId = servo.dxlId := by
  have released : (servo.released world).dxlId = servo.dxlId := rfl
  unfold configured unset
  split_ifs <;> simp [rebased, switched, released]

@[simp] theorem rebased_handlersSet (settings : ModeSettings) :
    (servo.rebased world settings).handlersSet = servo.handlersSet := by
  simp [rebased, switched]

@[simp] theorem unset_handlersSet (settings : ModeSettings) :
    (servo.unset world settings).handlersSet = servo.handlersSet := by
  unfold unset
  split
  · rw [exchange_handlersSet, updated_handlersSet]
  · exact updated_handlersSet ..

@[simp] theorem configured_handlersSet (newMode : OperatingMode) :
    (servo.configured world newMode).handlersSet = servo.handlersSet := by
  have released : (servo.released world).handlersSet = servo.handlersSet := rfl
  unfold configured
  split_ifs <;> simp [released]

end DynamixelServo

open ServoM

variable {R : Type} [Field R] [LinearOrder R] [FloorRing R]

/-- The mode that a call configures. -/
def ServoCall.configures : ServoCall R → Option OperatingMode
  | .configureControlMode mode => some mode
  | .getId => none
  | .getPresentPosition => none
  | .getTotalEncoderCount => none
  | .setPosition _ => none
  | .setRelativePosition _ => some .extendedPositionControlMode
  | .setRPM _ => some .velocityControlMode

/-- The state after a call. -/
def ServoCall.effect
    (world : World R) (servo : DynamixelServo) (call : ServoCall R) :
    DynamixelServo :=
  (call.method.run world servo).2

section

variable (world : World R) (servo : DynamixelServo)

@[simp] theorem effect_configureControlMode (mode : OperatingMode) :
    (ServoCall.configureControlMode mode).effect world servo =
      servo.configured world mode :=
  congrArg Prod.snd (DynamixelServo.run_configureControlMode ..)

@[simp] theorem effect_getId :
    (ServoCall.getId : ServoCall R).effect world servo = servo := rfl

@[simp] theorem effect_getPresentPosition :
    ServoCall.getPresentPosition.effect world servo =
      servo.exchange world (.read4 addrPresentPosition) :=
  congrArg Prod.snd (DynamixelServo.run_getPresentPosition ..)

@[simp] theorem effect_getTotalEncoderCount :
    ServoCall.getTotalEncoderCount.effect world servo =
      servo.updated world false :=
  congrArg Prod.snd (DynamixelServo.run_getTotalEncoderCount ..)

@[simp] theorem effect_setPosition (angleDegrees : R) :
    (ServoCall.setPosition angleDegrees).effect world servo =
      servo.exchange world
        (.write4 addrGoalPosition
          (BitVec.ofInt 32
            (world.cast.toInt32 (angleDegrees * 4096 / 360)))) :=
  congrArg Prod.snd (DynamixelServo.run_setPosition ..)

@[simp] theorem effect_setRelativePosition (angleRadians : R) :
    (ServoCall.setRelativePosition angleRadians).effect world servo =
      ((servo.configured world .extendedPositionControlMode).exchange world
        (.read4 addrPresentPosition)).exchange world
          (.write4 addrGoalPosition
            (BitVec.ofInt 32
              ((servo.configured world
                .extendedPositionControlMode).relativeGoal world
                  angleRadians))) :=
  congrArg Prod.snd (DynamixelServo.run_setRelativePosition ..)

@[simp] theorem effect_setRPM (rpm : R) :
    (ServoCall.setRPM rpm).effect world servo =
      (servo.configured world .velocityControlMode).exchange world
        (.write4 addrGoalVelocity
          (BitVec.ofInt 32
            ((servo.configured world .velocityControlMode).goalVelocity
              world rpm))) :=
  congrArg Prod.snd (DynamixelServo.run_setRPM ..)

variable {world servo} in
/-- A call configures a mode, takes a count, or does neither; the rest of it is
reads and four-byte writes. -/
theorem ServoCall.effect_invariant
    (property : DynamixelServo → Prop)
    {call : ServoCall R}
    (preserved : ∀ {servo : DynamixelServo} {request : Request},
      (∀ address data, request ≠ .write1 address data) → request ≠ .reboot →
      property servo → property (servo.exchange world request))
    (idle : call.configures = none → property servo)
    (configured : ∀ newMode, call.configures = some newMode →
      property (servo.configured world newMode))
    (counted : call = .getTotalEncoderCount →
      property (servo.updated world false)) :
    property (call.effect world servo) := by
  cases call with
  | configureControlMode mode =>
      rw [effect_configureControlMode]
      exact configured mode rfl
  | getId => exact idle rfl
  | getPresentPosition =>
      rw [effect_getPresentPosition]
      exact preserved (by simp) (by simp) (idle rfl)
  | getTotalEncoderCount =>
      rw [effect_getTotalEncoderCount]
      exact counted rfl
  | setPosition angle =>
      rw [effect_setPosition]
      exact preserved (by simp) (by simp) (idle rfl)
  | setRelativePosition angle =>
      rw [effect_setRelativePosition]
      apply preserved (by simp) (by simp)
      exact preserved (by simp) (by simp) (configured _ rfl)
  | setRPM rpm =>
      rw [effect_setRPM]
      exact preserved (by simp) (by simp) (configured _ rfl)

/-- The configuration is fixed at initialisation. -/
theorem ServoCall.effect_config (call : ServoCall R) :
    (call.effect world servo).config = servo.config := by
  cases call <;> simp

/-- So is the id. -/
theorem ServoCall.effect_dxlId (call : ServoCall R) :
    (call.effect world servo).dxlId = servo.dxlId := by
  cases call <;> simp

/-- Calls leave the handlers alone. -/
theorem ServoCall.effect_handlersSet (call : ServoCall R) :
    (call.effect world servo).handlersSet = servo.handlersSet := by
  cases call <;> simp

end

/-- Calls of the methods of one servo. -/
def servoCalls (world : World R) :
    Library.Machine DynamixelServo (ServoCall R) where
  step servo call := some (call.effect world servo)

/-! ## Initialisation -/

namespace DynamixelServo

/-- The mode that `Init` sets. -/
def initialMode (config : Configuration) : OperatingMode :=
  if config = .configServo then .extendedPositionControlMode
  else .velocityControlMode

/-- A servo whose `Init` has returned, having met no failing packet. -/
def Initialised (R : Type) [Field R] [LinearOrder R] [FloorRing R]
    (servo : DynamixelServo) : Prop :=
  ∃ (world : World R) (before : DynamixelServo) (polls : Nat)
    (modelNumber : BitVec 32) (dxlId : BitVec 8) (config : Configuration),
    world.AllSucceed ∧
      world.rclcppOk before.device.packets = true ∧
      (init polls modelNumber dxlId config : ServoM R _).run world before =
        (some (), servo)

/-- Polling does not change the object. -/
theorem pollModelNumber_invariant
    (property : DynamixelServo → Prop)
    (world : World R)
    (preserved : ∀ servo, property servo →
      property (servo.exchange world (.read4 addrModelNumber)))
    (polls : Nat)
    (modelNumber : BitVec 32)
    (servo : DynamixelServo)
    (start : property servo) :
    property ((pollModelNumber polls modelNumber : ServoM R _).run
      world servo).2 := by
  induction polls generalizing modelNumber servo with
  | zero => exact start
  | succ polls inductionHypothesis =>
      have next := preserved servo start
      simp only [pollModelNumber, run_bind, run_ite]
      split_ifs
      · exact inductionHypothesis _ _ next
      · exact next
      · exact inductionHypothesis _ _ next
      · exact next

/-- A reboot is the exchange that asks for it, and polling. -/
theorem reboot_invariant
    (property : DynamixelServo → Prop)
    (world : World R)
    (preserved : ∀ servo, property servo →
      property (servo.exchange world (.read4 addrModelNumber)))
    (polls : Nat)
    (servo : DynamixelServo)
    (start : property (servo.exchange world .reboot)) :
    property ((reboot polls : ServoM R _).run world servo).2 := by
  rw [reboot, run_bind, run_txRx]
  dsimp only
  rw [run_ite]
  split
  · exact pollModelNumber_invariant property world preserved polls 0 _ start
  · exact start

/-- `Init` that returns has rebooted the servo, set its first mode and switched
the torque on. -/
theorem run_init
    {world : World R}
    (succeed : world.AllSucceed)
    {before servo : DynamixelServo}
    {polls : Nat}
    {modelNumber : BitVec 32}
    {dxlId : BitVec 8}
    {config : Configuration}
    (ok : world.rclcppOk before.device.packets = true)
    (returns :
      (init polls modelNumber dxlId config : ServoM R _).run world before =
        (some (), servo)) :
    let object : DynamixelServo :=
      { before with
        modelNumber := modelNumber
        dxlId := dxlId
        config := config
        handlersSet := true }
    let polled :=
      ((pollModelNumber polls 0 : ServoM R _).run world
        (object.exchange world .reboot)).2
    polled.config = config ∧
      servo =
        (polled.rebased world
          (modeSettings config (initialMode config))).exchange world
            (.write1 addrTorqueEnable 1) := by
  intro object polled
  have kept : polled.config = config :=
    pollModelNumber_invariant (fun servo => servo.config = config) world
      (fun _ same => same) polls 0 _ rfl
  refine ⟨kept, ?_⟩
  have rebooted :
      (reboot polls : ServoM R _).run world object =
        (pollModelNumber polls 0 : ServoM R _).run world
          (object.exchange world .reboot) := by
    simp only [reboot, run_bind, run_txRx, commsCheck_fate,
      succeed _ _, if_true]
  simp only [init, run_bind, run_world, run_this, ok, if_true,
    run_assign] at returns
  rw [rebooted] at returns
  cases outcome :
      ((pollModelNumber polls 0 : ServoM R _).run world
        (object.exchange world .reboot)).1 with
  | none =>
      rw [outcome] at returns
      exact absurd (congrArg Prod.fst returns) (by simp)
  | some =>
      have sets : ∀ mode, mode ≠ .noModeSet → polled.SetsMode world mode :=
        fun mode named =>
          ⟨(modeSettings_valid_iff _ mode).mpr named, succeed _ _⟩
      rw [outcome] at returns
      simp only [run_ite, run_bind, run_setOperatingMode, run_enableTorque,
        run_pure, if_true] at returns
      rw [← kept, initialMode]
      by_cases turret : config = .configServo
      · rw [if_pos turret, if_pos (sets _ (by simp))] at returns
        rw [if_pos (kept.trans turret)]
        exact (congrArg Prod.snd returns).symm
      · rw [if_neg turret, if_pos (sets _ (by simp))] at returns
        rw [if_neg (kept.symm ▸ turret)]
        exact (congrArg Prod.snd returns).symm

/-- It keeps the id and the configuration that it was given. -/
theorem init_named
    {world : World R}
    (succeed : world.AllSucceed)
    {before servo : DynamixelServo}
    {polls : Nat}
    {modelNumber : BitVec 32}
    {dxlId : BitVec 8}
    {config : Configuration}
    (ok : world.rclcppOk before.device.packets = true)
    (returns :
      (init polls modelNumber dxlId config : ServoM R _).run world before =
        (some (), servo)) :
    servo.dxlId = dxlId ∧ servo.config = config := by
  obtain ⟨kept, rfl⟩ := run_init succeed ok returns
  have named := pollModelNumber_invariant
    (fun servo => servo.dxlId = dxlId) world (fun _ same => same) polls 0
    (exchange world { before with
      modelNumber := modelNumber
      dxlId := dxlId
      config := config
      handlersSet := true } .reboot)
    rfl
  constructor
  · simpa [rebased, switched] using named
  · simpa using kept

/-- A servo before its `Init`. -/
def blank : DynamixelServo where
  modelNumber := 0
  dxlId := 0
  config := .configNone
  handlersSet := false
  totalEncoderCount := 0
  lastEncoderCount := 0
  device :=
    { byte := fun _ => 0
      word := fun _ => 0
      presentPosition := 0
      wheelAngle := 0
      packets := 0
      sent := [] }

/-- The front left wheel's servo after `Init` in a calm world. -/
def frontLeft : DynamixelServo :=
  ((init 1 30 2 .configMotorAntiClockwise : ServoM ℚ _).run
    (World.calm ℚ) blank).2

theorem frontLeft_initialised : frontLeft.Initialised ℚ :=
  ⟨World.calm ℚ, blank, 1, 30, 2, .configMotorAntiClockwise,
    World.calm_allSucceed, rfl, rfl⟩

end DynamixelServo
end Skatebot
