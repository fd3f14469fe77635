import Skatebot.Driver.ServoLemmas

/-!
# Recovery from lost packets

A mode change is a protocol of several packets: torque off, mode, profile,
torque on.  The next call repairs a change that was cut short only if it finds
the wrong mode in the mode register.  This module follows the four registers
of the protocol through arbitrary patterns of failing packets, and determines
which runs leave a servo that a later call brings back into service.
-/

namespace Skatebot

open Library ServoM

variable {R : Type} [Field R] [LinearOrder R] [FloorRing R]

/-! ## The registers of a mode change -/

/-- The registers that a mode change writes. -/
@[ext] structure Service where
  mode : BitVec 8
  torque : BitVec 8
  acceleration : BitVec 32
  velocity : BitVec 32
  deriving DecidableEq

/-- Their content in a device. -/
def Device.service (device : Device) : Service where
  mode := device.byte addrOperatingMode
  torque := device.byte addrTorqueEnable
  acceleration := device.word addrProfileAcceleration
  velocity := device.word addrProfileVelocity

/-- Their content when a servo is in service in a mode: torque is on, and the
profile is the mode's. -/
def inService (config : Configuration) (mode : OperatingMode) : Service where
  mode := (DynamixelServo.modeSettings config mode).operatingMode
  torque := 1
  acceleration := (DynamixelServo.modeSettings config mode).acceleration
  velocity := (DynamixelServo.modeSettings config mode).velocity

namespace Device

variable (world : World R) (device : Device)

@[simp] theorem service_read1 (address : Nat) :
    (device.serve world (.read1 address)).service = device.service := by
  simp [service]

@[simp] theorem service_read4 (address : Nat) :
    (device.serve world (.read4 address)).service = device.service := by
  simp [service]

@[simp] theorem service_writeMode (data : BitVec 8) :
    (device.serve world (.write1 addrOperatingMode data)).service =
      if world.ok device.packets (.write1 addrOperatingMode data) then
        { device.service with mode := data }
      else device.service := by
  simp only [service, serve_write1_byte, serve_write1_word]
  split <;> simp [addrOperatingMode, addrTorqueEnable]

@[simp] theorem service_writeTorque (data : BitVec 8) :
    (device.serve world (.write1 addrTorqueEnable data)).service =
      if world.ok device.packets (.write1 addrTorqueEnable data) then
        { device.service with torque := data }
      else device.service := by
  simp only [service, serve_write1_byte, serve_write1_word]
  split <;> simp [addrOperatingMode, addrTorqueEnable]

@[simp] theorem service_writeAcceleration (data : BitVec 32) :
    (device.serve world (.write4 addrProfileAcceleration data)).service =
      { device.service with
        acceleration :=
          if world.ok device.packets
              (.write4 addrProfileAcceleration data) then data
          else device.service.acceleration } := by
  simp only [service, serve_write4_byte, serve_write4_word]
  split <;> simp [addrProfileAcceleration, addrProfileVelocity]

@[simp] theorem service_writeVelocity (data : BitVec 32) :
    (device.serve world (.write4 addrProfileVelocity data)).service =
      { device.service with
        velocity :=
          if world.ok device.packets
              (.write4 addrProfileVelocity data) then data
          else device.service.velocity } := by
  simp only [service, serve_write4_byte, serve_write4_word]
  split <;> simp [addrProfileAcceleration, addrProfileVelocity]

/-- Writing a goal leaves the registers alone. -/
theorem service_writeGoal {address : Nat} (data : BitVec 32)
    (notAcceleration : address ≠ addrProfileAcceleration)
    (notVelocity : address ≠ addrProfileVelocity) :
    (device.serve world (.write4 address data)).service = device.service := by
  simp only [service, serve_write4_byte, serve_write4_word]
  split <;> simp [notAcceleration.symm, notVelocity.symm]

end Device

namespace DynamixelServo

variable (world : World R) (servo : DynamixelServo)

/-! ## Effect of the methods on the registers -/

theorem rebased_packets (settings : ModeSettings) :
    (servo.rebased world settings).device.packets =
      servo.device.packets + 5 := by
  simp [rebased, switched]

/-- Setting a mode replaces the mode and such parts of the profile as get
through. -/
theorem rebased_service
    (mode : OperatingMode)
    (sets : servo.SetsMode world mode) :
    (servo.rebased world (modeSettings servo.config mode)).device.service =
      let settings := modeSettings servo.config mode
      { mode := settings.operatingMode
        torque := servo.device.service.torque
        acceleration :=
          if world.ok (servo.device.packets + 2)
              (.write4 addrProfileAcceleration settings.acceleration) then
            settings.acceleration
          else servo.device.service.acceleration
        velocity :=
          if world.ok (servo.device.packets + 3)
              (.write4 addrProfileVelocity settings.velocity) then
            settings.velocity
          else servo.device.service.velocity } := by
  have arrives := sets.2
  simp [rebased, switched, arrives]

theorem unset_service
    (mode : OperatingMode)
    (fails : ¬servo.SetsMode world mode) :
    (servo.unset world (modeSettings servo.config mode)).device.service =
      servo.device.service := by
  unfold unset
  split
  next valid =>
    have lost :
        ¬world.ok (servo.device.packets + 1)
          (.write1 addrOperatingMode
            (modeSettings servo.config mode).operatingMode) = true :=
      fun arrives => fails ⟨valid, arrives⟩
    simp [lost]
  next invalid => simp

theorem released_service :
    (servo.released world).device.service =
      if world.ok (servo.device.packets + 2)
          (.write1 addrTorqueEnable 0) then
        { servo.device.service with torque := 0 }
      else servo.device.service := by
  simp [released]

/-- The packet that `ConfigureControlMode` writes the mode with is sent and
succeeds, once it has switched the torque off. -/
def ModeArrives (newMode : OperatingMode) : Prop :=
  (modeSettings servo.config newMode).Valid ∧
    world.ok (servo.device.packets + 4)
      (.write1 addrOperatingMode
        (modeSettings servo.config newMode).operatingMode) = true

instance (newMode : OperatingMode) :
    Decidable (servo.ModeArrives world newMode) :=
  inferInstanceAs (Decidable (_ ∧ _))

theorem setsMode_released_iff (newMode : OperatingMode) :
    (servo.released world).SetsMode world newMode ↔
      servo.ModeArrives world newMode := by
  unfold SetsMode ModeArrives
  rw [released_packets]
  exact Iff.rfl

/-- The registers after `ConfigureControlMode`. -/
def reconfigured (newMode : OperatingMode) : Service :=
  let packet := servo.device.packets
  let settings := modeSettings servo.config newMode
  let service := servo.device.service
  if servo.Interrupts world newMode then
    if servo.ModeArrives world newMode then
      { mode := settings.operatingMode
        torque :=
          if world.ok (packet + 8) (.write1 addrTorqueEnable 1) then 1
          else 0
        acceleration :=
          if world.ok (packet + 5)
              (.write4 addrProfileAcceleration settings.acceleration) then
            settings.acceleration
          else service.acceleration
        velocity :=
          if world.ok (packet + 6)
              (.write4 addrProfileVelocity settings.velocity) then
            settings.velocity
          else service.velocity }
    else { service with torque := 0 }
  else service

theorem configured_service (newMode : OperatingMode) :
    (servo.configured world newMode).device.service =
      servo.reconfigured world newMode := by
  simp only [configured, reconfigured, setsMode_released_iff]
  by_cases interrupts : servo.Interrupts world newMode
  · have released := servo.released_service world
    rw [if_pos interrupts.2] at released
    rw [if_pos interrupts, if_pos interrupts]
    by_cases arrives : servo.ModeArrives world newMode
    · have sets := (servo.setsMode_released_iff world newMode).mpr arrives
      have set := (servo.released world).rebased_service world newMode sets
      rw [if_pos arrives, if_pos arrives, exchange_device,
        Device.service_writeTorque, rebased_packets, released_packets]
      rw [released_config] at set
      rw [set, released, released_packets]
      split <;> rfl
    · have fails :=
        (servo.setsMode_released_iff world newMode).not.mpr arrives
      have unset := (servo.released world).unset_service world newMode fails
      rw [if_neg arrives, if_neg arrives]
      rw [released_config] at unset
      exact unset.trans released
  · rw [if_neg interrupts, if_neg interrupts]
    split
    next wrong =>
      have on : ¬world.ok (servo.device.packets + 2)
          (.write1 addrTorqueEnable 0) = true :=
        fun off => interrupts ⟨wrong, off⟩
      rw [released_service, if_neg on]
    next right => simp

/-- `SetRPM` changes the registers by its mode change only. -/
theorem setRPM_service (rpm : R) :
    ((setRPM rpm : ServoM R _).run world servo).2.device.service =
      servo.reconfigured world .velocityControlMode := by
  rw [run_setRPM, exchange_device, Device.service_writeGoal _ _ _
    (by decide) (by decide), configured_service]

/-- `SetRelativePosition` changes the registers by its mode change only. -/
theorem setRelativePosition_service (angleRadians : R) :
    ((setRelativePosition angleRadians : ServoM R _).run world
      servo).2.device.service =
      servo.reconfigured world .extendedPositionControlMode := by
  rw [run_setRelativePosition, exchange_device, Device.service_writeGoal _ _ _
    (by decide) (by decide), exchange_device, Device.service_read4,
    configured_service]

end DynamixelServo

/-- A call changes the registers by its mode change only. -/
theorem ServoCall.effect_service
    (world : World R)
    (servo : DynamixelServo)
    (call : ServoCall R) :
    (call.effect world servo).device.service =
      match call.configures with
      | some mode => servo.reconfigured world mode
      | none => servo.device.service := by
  cases call with
  | configureControlMode mode =>
      rw [effect_configureControlMode]
      exact servo.configured_service world mode
  | getId => rfl
  | getPresentPosition =>
      rw [effect_getPresentPosition]
      exact Device.service_read4 ..
  | getTotalEncoderCount =>
      rw [effect_getTotalEncoderCount, DynamixelServo.updated_device]
      exact Device.service_read4 ..
  | setPosition angle =>
      rw [effect_setPosition]
      exact Device.service_writeGoal _ _ _ (by decide) (by decide)
  | setRelativePosition angle => exact servo.setRelativePosition_service ..
  | setRPM rpm => exact servo.setRPM_service ..

/-! ## Sound servos -/

namespace DynamixelServo

/-- The modes that `SetRPM` and `SetRelativePosition` bring a wheel into. -/
def wheelModes : List OperatingMode :=
  [.velocityControlMode, .extendedPositionControlMode]

/-- Registers whose mode is a wheel's have the servo in service in that mode:
the next call for the mode will not look further. -/
def SoundRegisters (config : Configuration) (service : Service) : Prop :=
  ∀ mode ∈ wheelModes,
    service.mode = (modeSettings config mode).operatingMode →
      service = inService config mode

/-- The servo's registers are sound. -/
def Sound (servo : DynamixelServo) : Prop :=
  SoundRegisters servo.config servo.device.service

/-- Once all packets succeed, either call brings the servo into service. -/
def Recovers (R : Type) [Field R] [LinearOrder R] [FloorRing R]
    (servo : DynamixelServo) : Prop :=
  ∀ world : World R, world.AllSucceed →
    (∀ rpm : R,
      ((setRPM rpm : ServoM R _).run world servo).2.device.service =
        inService servo.config .velocityControlMode) ∧
    ∀ angle : R,
      ((setRelativePosition angle : ServoM R _).run world
        servo).2.device.service =
        inService servo.config .extendedPositionControlMode

/-- A mode change is not cut short.  If it switches the torque off, either its
mode write succeeds, and where the new mode is a wheel's so do the torque write
and both profile writes (or the profile register holds the value already); or
else the mode register does not name a wheel's mode. -/
def Completes (world : World R) (servo : DynamixelServo)
    (newMode : OperatingMode) : Prop :=
  let packet := servo.device.packets
  let settings := modeSettings servo.config newMode
  servo.Interrupts world newMode →
    if servo.ModeArrives world newMode then
      newMode ∈ wheelModes →
        world.ok (packet + 8) (.write1 addrTorqueEnable 1) = true ∧
        (world.ok (packet + 5)
            (.write4 addrProfileAcceleration settings.acceleration) = true ∨
          servo.device.service.acceleration = settings.acceleration) ∧
        (world.ok (packet + 6)
            (.write4 addrProfileVelocity settings.velocity) = true ∨
          servo.device.service.velocity = settings.velocity)
    else
      ∀ mode ∈ wheelModes,
        servo.device.service.mode ≠
          (modeSettings servo.config mode).operatingMode

/-- A call does not cut a mode change short. -/
def Uncut (world : World R) (servo : DynamixelServo) (call : ServoCall R) :
    Prop :=
  ∀ newMode, call.configures = some newMode →
    servo.Completes world newMode

/-! ## What a mode change leaves -/

variable (world : World R) (servo : DynamixelServo)

/-- Every mode has a register value of its own. -/
theorem operatingMode_injective
    (config : Configuration)
    {first second : OperatingMode}
    (equal :
      (modeSettings config first).operatingMode =
        (modeSettings config second).operatingMode) :
    first = second := by
  revert equal
  cases config <;> cases first <;> cases second <;> decide

/-- `GetOperatingMode` tells a wheel's mode from every other. -/
theorem operatingModeOf_eq_iff
    (config : Configuration)
    {mode : OperatingMode}
    (wheel : mode ∈ wheelModes)
    (register : BitVec 8) :
    operatingModeOf register = mode ↔
      register = (modeSettings config mode).operatingMode := by
  simp only [wheelModes, List.mem_cons, List.not_mem_nil, or_false] at wheel
  rcases wheel with rfl | rfl <;>
    simp only [operatingModeOf, modeSettings] <;>
    split_ifs <;> simp_all [operatingModeVelocity, operatingModePosition,
      operatingModeExtendedPosition, operatingModePwm]

theorem wheelModes_valid
    (config : Configuration)
    {mode : OperatingMode}
    (wheel : mode ∈ wheelModes) :
    (modeSettings config mode).Valid := by
  rw [modeSettings_valid_iff]
  rintro rfl
  exact absurd wheel (by decide)

/-- When every packet succeeds, configuring a wheel's mode does nothing in
that mode and brings the servo into service from any other. -/
theorem reconfigured_of_allSucceed
    (succeed : world.AllSucceed)
    {mode : OperatingMode}
    (wheel : mode ∈ wheelModes) :
    servo.reconfigured world mode =
      if servo.device.service.mode =
          (modeSettings servo.config mode).operatingMode then
        servo.device.service
      else inService servo.config mode := by
  have reported :
      servo.reportedMode world = mode ↔
        servo.device.service.mode =
          (modeSettings servo.config mode).operatingMode := by
    rw [reportedMode, if_pos (succeed _ _)]
    exact operatingModeOf_eq_iff servo.config wheel _
  have arrives : servo.ModeArrives world mode :=
    ⟨wheelModes_valid servo.config wheel, succeed _ _⟩
  have interrupts :
      servo.Interrupts world mode ↔ ¬servo.reportedMode world = mode :=
    and_iff_left (succeed _ _)
  simp only [reconfigured, interrupts, reported, arrives, succeed _ _,
    if_true, ite_not, inService]

/-- A wheel's call recovers the servo exactly when its registers are sound. -/
theorem recovers_iff_sound :
    servo.Recovers R ↔ servo.Sound := by
  constructor
  · intro recovers mode wheel named
    obtain ⟨velocity, position⟩ :=
      recovers (World.calm R) World.calm_allSucceed
    have unchanged :=
      servo.reconfigured_of_allSucceed (World.calm R)
        World.calm_allSucceed wheel
    rw [if_pos named] at unchanged
    simp only [wheelModes, List.mem_cons, List.not_mem_nil, or_false] at wheel
    rw [← unchanged]
    rcases wheel with rfl | rfl
    · rw [← setRPM_service _ _ 0]
      exact velocity 0
    · rw [← setRelativePosition_service _ _ 0]
      exact position 0
  · intro sound world succeed
    have becomes :
        ∀ mode ∈ wheelModes,
          servo.reconfigured world mode = inService servo.config mode := by
      intro mode wheel
      rw [reconfigured_of_allSucceed _ _ succeed wheel]
      split
      next named => exact sound mode wheel named
      next other => rfl
    constructor
    · intro rpm
      rw [setRPM_service]
      exact becomes _ (by simp [wheelModes])
    · intro angle
      rw [setRelativePosition_service]
      exact becomes _ (by simp [wheelModes])

/-- The registers that a mode change leaves are sound exactly when it is not
cut short. -/
theorem sound_reconfigured_iff
    (sound : servo.Sound)
    (newMode : OperatingMode) :
    SoundRegisters servo.config (servo.reconfigured world newMode) ↔
      servo.Completes world newMode := by
  by_cases interrupts : servo.Interrupts world newMode
  · by_cases arrives : servo.ModeArrives world newMode
    · simp only [reconfigured, Completes, if_pos interrupts, if_pos arrives]
      constructor
      · intro serves _ wheel
        have written := serves newMode wheel rfl
        simp only [inService, Service.mk.injEq, ite_eq_left_iff,
          Bool.not_eq_true, true_and] at written
        obtain ⟨torque, acceleration, velocity⟩ := written
        refine ⟨?_, ?_, ?_⟩
        · by_contra lost
          exact absurd (torque (Bool.eq_false_of_not_eq_true lost)) (by decide)
        · rw [or_iff_not_imp_left, Bool.not_eq_true]
          exact acceleration
        · rw [or_iff_not_imp_left, Bool.not_eq_true]
          exact velocity
      · intro completes mode wheel named
        obtain rfl : newMode = mode := operatingMode_injective _ named
        obtain ⟨torque, acceleration, velocity⟩ := completes interrupts wheel
        rw [or_iff_not_imp_left] at acceleration velocity
        ext1
        · rfl
        · exact if_pos torque
        · exact ite_eq_left_iff.mpr acceleration
        · exact ite_eq_left_iff.mpr velocity
    · simp only [reconfigured, Completes, if_pos interrupts, if_neg arrives]
      constructor
      · intro serves _ mode wheel named
        have off : (0 : BitVec 8) = 1 :=
          congrArg Service.torque (serves mode wheel named)
        exact absurd off (by decide)
      · intro others mode wheel named
        exact absurd named (others interrupts mode wheel)
  · unfold reconfigured
    rw [if_neg interrupts]
    exact iff_of_true sound fun reached => absurd reached interrupts

/-! ## Runs -/

/-- `Init` leaves the servo in service in its first mode. -/
theorem Initialised.service
    {servo : DynamixelServo}
    (initialised : servo.Initialised R) :
    servo.device.service =
      inService servo.config (initialMode servo.config) := by
  obtain ⟨world, before, polls, modelNumber, dxlId, config, succeed, ok,
    returns⟩ := initialised
  obtain ⟨kept, rfl⟩ := run_init succeed ok returns
  have sets :
      (((pollModelNumber polls 0 : ServoM R _).run world
        (exchange world { before with
          modelNumber := modelNumber
          dxlId := dxlId
          config := config
          handlersSet := true } .reboot)).2).SetsMode world
            (initialMode config) := by
    refine ⟨(modeSettings_valid_iff _ _).mpr ?_, succeed _ _⟩
    unfold initialMode
    split <;> simp
  have service := rebased_service _ _ _ sets
  rw [kept] at service
  simp only [exchange_device, exchange_config, rebased_config,
    Device.service_writeTorque, succeed _ _, if_true, service, kept,
    inService]

theorem Initialised.sound
    {servo : DynamixelServo}
    (initialised : servo.Initialised R) :
    servo.Sound := by
  intro mode wheel named
  have service := initialised.service
  rw [service] at named
  obtain rfl := operatingMode_injective _ named
  exact service

/-- A call keeps the registers sound exactly when it cuts no mode change
short. -/
theorem sound_effect_iff
    (sound : servo.Sound)
    (call : ServoCall R) :
    (call.effect world servo).Sound ↔ servo.Uncut world call := by
  unfold Sound Uncut
  rw [ServoCall.effect_config, ServoCall.effect_service]
  cases configures : call.configures with
  | none => exact iff_of_true sound nofun
  | some mode =>
      simp only [Option.some.injEq, forall_eq']
      exact servo.sound_reconfigured_iff world sound mode

/-- Every state that a run of calls visits recovers, whatever packets fail in
the run, exactly when no call of the run cuts a mode change short. -/
theorem always_recovers_iff
    (initialised : servo.Initialised R)
    (calls : List (ServoCall R)) :
    (servoCalls world).Always (Recovers R) servo calls ↔
      (servoCalls world).Along (Uncut world) servo calls := by
  have recovers : Recovers R = Sound := by
    funext servo
    exact propext servo.recovers_iff_sound
  rw [recovers]
  apply Machine.always_iff_along _ fun _ => True
  · exact fun _ _ => trivial
  · exact fun _ _ => ⟨_, rfl⟩
  · intro servo call next _ sound stepped
    obtain rfl := Option.some.inj stepped
    exact servo.sound_effect_iff world sound call
  · trivial
  · exact initialised.sound

/-! ## A failing run -/

/-- The exchange that sets extended position mode times out. -/
def modeWriteLost : World ℚ :=
  (World.calm ℚ).losing fun _ request =>
    request = .write1 addrOperatingMode operatingModeExtendedPosition

/-- One lost mode write leaves the servo in velocity mode without torque, and
a later `SetRPM` that loses nothing does not switch the torque on. -/
theorem torque_stays_off :
    ¬∀ (world : World ℚ) (servo : DynamixelServo) (calls : List (ServoCall ℚ)),
      servo.Initialised ℚ →
        (servoCalls world).Always (Recovers ℚ) servo calls := by
  intro always
  have recovers :=
    ((always modeWriteLost frontLeft [.setRelativePosition 1]
      frontLeft_initialised).2 _ rfl).head
  have service := (recovers (World.calm ℚ) World.calm_allSucceed).1 20
  have torque := congrArg Service.torque service
  exact absurd torque (by decide +kernel)

/-- The criterion on a run in which the first torque write is lost. -/
theorem always_recovers_iff_torqueLost :
    (servoCalls ((World.calm ℚ).losing fun _ request =>
        request = .write1 addrTorqueEnable 0)).Always (Recovers ℚ) frontLeft
        [.setRelativePosition 1, .setRPM 20] ↔
      (servoCalls ((World.calm ℚ).losing fun _ request =>
        request = .write1 addrTorqueEnable 0)).Along
        (Uncut ((World.calm ℚ).losing fun _ request =>
          request = .write1 addrTorqueEnable 0)) frontLeft
        [.setRelativePosition 1, .setRPM 20] :=
  always_recovers_iff _ _ frontLeft_initialised _

end DynamixelServo
end Skatebot
