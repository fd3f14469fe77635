import Skatebot.Driver.Deadman
import Skatebot.Driver.Maintenance

/-!
# Service after a reboot

A reboot switches a servo's torque off and clears its profile, and keeps its
mode.  A later command configures the wheel only if it finds another mode than
its own.  This module follows the service of every wheel through runs of all
operations, and determines which commands bring a rebooted wheel back.
-/

namespace Skatebot

open Library ServoM

variable {R : Type} [Field R] [LinearOrder R] [FloorRing R]

/-- What a reboot leaves of the registers. -/
def Service.rebooted (service : Service) : Service where
  mode := service.mode
  torque := 0
  acceleration := 0
  velocity := 0

namespace Device

variable (world : World R) (device : Device)

@[simp] theorem service_read2 (address : Nat) :
    (device.serve world (.read2 address)).service = device.service := by
  unfold serve
  split <;> rfl

theorem service_reboot (arrives : world.ok device.packets .reboot = true) :
    (device.serve world .reboot).service = device.service.rebooted := by
  simp [serve, arrives, service, Service.rebooted, obey, record, turn,
    addrOperatingMode, addrTorqueEnable, addrGoalVelocity,
    addrProfileAcceleration, addrProfileVelocity]

end Device

namespace DynamixelServo

variable (world : World R) (servo : DynamixelServo)

theorem reboot_service
    (succeed : world.AllSucceed)
    (polls : Nat) :
    ((reboot polls : ServoM R _).run world servo).2.device.service =
      servo.device.service.rebooted := by
  apply reboot_invariant
    (fun state => state.device.service = servo.device.service.rebooted)
  · intro state kept
    rw [exchange_device, Device.service_read4, kept]
  · exact Device.service_reboot world servo.device (succeed _ _)

/-- The profile of a wheel's mode does not depend on the side. -/
theorem inService_config
    (config other : Configuration)
    {mode : OperatingMode}
    (wheel : mode ∈ wheelModes) :
    inService config mode = inService other mode := by
  simp only [wheelModes, List.mem_cons, List.not_mem_nil, or_false] at wheel
  rcases wheel with rfl | rfl <;> rfl

/-- Configuring a wheel's mode with every packet succeeding looks at the mode
register only. -/
theorem reconfigured_eq
    (succeed : world.AllSucceed)
    (config : Configuration)
    {mode : OperatingMode}
    (wheel : mode ∈ wheelModes) :
    servo.reconfigured world mode =
      if operatingModeOf servo.device.service.mode = mode then
        servo.device.service
      else inService config mode := by
  rw [servo.reconfigured_of_allSucceed world succeed wheel,
    inService_config servo.config config wheel]
  simp only [operatingModeOf_eq_iff servo.config wheel]

/-- The servo's register names the mode, and its torque is off. -/
def Slack (servo : DynamixelServo) (mode : OperatingMode) : Prop :=
  operatingModeOf (servo.device.byte addrOperatingMode) = mode ∧
    servo.device.byte addrTorqueEnable = 0

instance (mode : OperatingMode) : Decidable (servo.Slack mode) :=
  inferInstanceAs (Decidable (_ ∧ _))

/-- The servo is in service in a wheel's mode, or has been rebooted in it. -/
def Serviced (config : Configuration) (service : Service) : Prop :=
  ∃ mode ∈ wheelModes, service = inService config mode ∨
    service = (inService config mode).rebooted

theorem Serviced.rebooted
    {config : Configuration}
    {service : Service}
    (serviced : Serviced config service) :
    Serviced config service.rebooted := by
  obtain ⟨mode, wheel, rfl | rfl⟩ := serviced
  · exact ⟨mode, wheel, .inr rfl⟩
  · exact ⟨mode, wheel, .inr rfl⟩

theorem Serviced.reconfigured
    {config : Configuration}
    (succeed : world.AllSucceed)
    (serviced : Serviced config servo.device.service)
    {mode : OperatingMode}
    (wheel : mode ∈ wheelModes) :
    Serviced config (servo.reconfigured world mode) := by
  rw [servo.reconfigured_eq world succeed config wheel]
  split
  · exact serviced
  · exact ⟨mode, wheel, .inl rfl⟩

/-- Configuring a mode brings the servo into service exactly when it is not
slack in that mode. -/
theorem reconfigured_inService_iff
    {config : Configuration}
    (succeed : world.AllSucceed)
    (serviced : Serviced config servo.device.service)
    {mode : OperatingMode}
    (wheel : mode ∈ wheelModes) :
    servo.reconfigured world mode = inService config mode ↔
      ¬servo.Slack mode := by
  rw [servo.reconfigured_eq world succeed config wheel]
  by_cases named : operatingModeOf servo.device.service.mode = mode
  · rw [if_pos named]
    obtain ⟨present, _, stands | rebooted⟩ := serviced
    · have same : present = mode := by
        rw [stands] at named
        refine operatingMode_injective config ?_
        exact ((operatingModeOf_eq_iff config wheel _).mp named)
      subst same
      refine iff_of_true stands fun slack => ?_
      have torque := congrArg Service.torque stands
      exact absurd (slack.2.symm.trans torque)
        (by decide : (0 : BitVec 8) ≠ 1)
    · refine iff_of_false (fun serves => ?_) ?_
      · have torque := congrArg Service.torque (rebooted.symm.trans serves)
        exact absurd torque (by decide : (0 : BitVec 8) ≠ 1)
      · exact not_not.mpr ⟨named, congrArg Service.torque rebooted⟩
  · rw [if_neg named]
    exact iff_of_true rfl fun slack => named slack.1

end DynamixelServo

namespace DynamixelComms

/-! ## What an operation configures -/

/-- The mode that a command brings its wheels into. -/
def Command.mode : Command R → OperatingMode
  | .setAllRPM .. => .velocityControlMode
  | .setRPM .. => .velocityControlMode
  | .setAllRelativePosition .. => .extendedPositionControlMode
  | .setRelativePosition .. => .extendedPositionControlMode

/-- The command addresses a wheel. -/
def Command.Addresses (wheel : Member) : Command R → Prop
  | .setAllRPM .. => wheel ∈ wheels
  | .setRPM motor _ => wheel = front motor ∨ wheel = rear motor
  | .setAllRelativePosition .. => wheel ∈ wheels
  | .setRelativePosition motor _ => wheel = front motor ∨ wheel = rear motor

instance (wheel : Member) :
    (issued : Command R) → Decidable (issued.Addresses wheel)
  | .setAllRPM .. => inferInstanceAs (Decidable (wheel ∈ wheels))
  | .setRPM motor _ =>
      inferInstanceAs (Decidable (wheel = front motor ∨ wheel = rear motor))
  | .setAllRelativePosition .. => inferInstanceAs (Decidable (wheel ∈ wheels))
  | .setRelativePosition motor _ =>
      inferInstanceAs (Decidable (wheel = front motor ∨ wheel = rear motor))

/-- The mode that a turn configures a wheel for. -/
def Turn.configures (comms : DynamixelComms) (wheel : Member) :
    Turn R → Option OperatingMode
  | .command issued =>
      if issued.Addresses wheel then some issued.mode else none
  | .iteration =>
      if comms.deadmansSwitchEnabled ∧ comms.deadmansSwitch then
        some .velocityControlMode
      else none

/-- A turn changes the service of a wheel by its mode change only. -/
theorem taken_service
    (bus : Bus R)
    (comms : DynamixelComms)
    (turn : Turn R)
    {wheel : Member}
    (isWheel : wheel ∈ wheels) :
    ((comms.taken bus turn).servo wheel).device.service =
      match turn.configures comms wheel with
      | some mode => (comms.servo wheel).reconfigured (bus.world wheel) mode
      | none => (comms.servo wheel).device.service := by
  cases turn with
  | iteration =>
      simp only [taken, Turn.configures]
      cases comms.deadmansSwitchEnabled <;> cases comms.deadmansSwitch
      · rfl
      · rfl
      · rfl
      · simp only [and_self, if_true, stopped_servo _ _ isWheel]
        exact ServoCall.effect_service ..
  | command issued =>
      cases issued with
      | setAllRPM frontLeft frontRight rearLeft rearRight =>
          obtain ⟨bytes, value⟩ := perWheel_wheel _ _ _ _ isWheel
          simp only [taken, velocityData, Turn.configures, Command.Addresses,
            Command.mode, isWheel, if_true]
          rw [written_servo _ _ _ value, configuredAll_servo _ _ _ isWheel,
            DynamixelServo.exchange_device, Device.service_writeGoal _ _ _
              (by decide) (by decide), DynamixelServo.configured_service]
      | setAllRelativePosition frontLeft frontRight rearLeft rearRight =>
          obtain ⟨bytes, value⟩ := perWheel_wheel _ _ _ _ isWheel
          simp only [taken, positionData, Turn.configures, Command.Addresses,
            Command.mode, isWheel, if_true]
          rw [written_servo _ _ _ value, readAll_servo _ _ isWheel,
            configuredAll_servo _ _ _ isWheel, DynamixelServo.exchange_device,
            Device.service_writeGoal _ _ _ (by decide) (by decide),
            DynamixelServo.exchange_device, Device.service_read4,
            DynamixelServo.configured_service]
      | setRPM motor rpm =>
          simp only [taken, calledSide_servo, Turn.configures,
            Command.Addresses, Command.mode]
          by_cases addressed : wheel = front motor ∨ wheel = rear motor
          · simp only [addressed, if_true]
            exact ServoCall.effect_service ..
          · simp only [addressed, if_false]
      | setRelativePosition motor angle =>
          simp only [taken, calledSide_servo, Turn.configures,
            Command.Addresses, Command.mode]
          by_cases addressed : wheel = front motor ∨ wheel = rear motor
          · simp only [addressed, if_true]
            exact ServoCall.effect_service ..
          · simp only [addressed, if_false]

omit [Field R] [LinearOrder R] [FloorRing R] in
theorem Turn.configures_wheelMode
    {comms : DynamixelComms}
    {wheel : Member}
    {turn : Turn R}
    {mode : OperatingMode}
    (configures : turn.configures comms wheel = some mode) :
    mode ∈ DynamixelServo.wheelModes := by
  unfold Turn.configures at configures
  split at configures
  next issued =>
    split at configures
    · obtain rfl := Option.some.inj configures
      cases issued <;> simp [Command.mode, DynamixelServo.wheelModes]
    · cases configures
  next =>
    split at configures
    · obtain rfl := Option.some.inj configures
      decide
    · cases configures

/-- The service of a wheel after an operation. -/
def served (bus : Bus R) (comms : DynamixelComms) (wheel : Member) :
    Operation R → Service
  | .turn turn =>
      match turn.configures comms wheel with
      | some mode => (comms.servo wheel).reconfigured (bus.world wheel) mode
      | none => (comms.servo wheel).device.service
  | .reboot _ servo =>
      if wheel = rebooted servo then
        (comms.servo wheel).device.service.rebooted
      else (comms.servo wheel).device.service
  | _ => (comms.servo wheel).device.service

theorem operate_service
    {bus : Bus R}
    (succeed : bus.AllSucceed)
    {comms next : DynamixelComms}
    (resting : comms.Resting)
    {operation : Operation R}
    (operated : operate bus comms operation = some next)
    {wheel : Member}
    (isWheel : wheel ∈ wheels) :
    (next.servo wheel).device.service = served bus comms wheel operation := by
  by_cases upkeep : Upkeep operation
  · rw [(operate_upkeep upkeep operated).2 wheel isWheel]
    cases operation with
    | turn turn => exact absurd rfl (upkeep turn)
    | getHardwareStatus => rfl
    | setServoPosition => rfl
    | getTotalEncoderCount motor =>
        simp only [upkept, served]
        split
        · rw [DynamixelServo.updated_device, Device.service_read4]
        · rfl
    | getVoltage =>
        simp only [upkept, served]
        split
        · rw [DynamixelServo.exchange_device, Device.service_read2]
        · rfl
    | reboot polls servo =>
        simp only [upkept, served]
        split
        · exact DynamixelServo.reboot_service _ _ (succeed wheel) polls
        · rfl
  · obtain ⟨turn, rfl⟩ := not_forall_not.mp upkeep
    rw [← (operate_turn resting).mp operated]
    exact taken_service bus comms turn isWheel

/-! ## Runs -/

/-- An operation that is a command leaves every wheel that it addresses in
service in its mode. -/
def Serves (bus : Bus R) (comms : DynamixelComms) (operation : Operation R) :
    Prop :=
  ∀ issued, operation = .turn (.command issued) →
    ∀ wheel ∈ wheels, issued.Addresses wheel →
      ∀ next, operate bus comms operation = some next →
        (next.servo wheel).device.service =
          inService wheel.configuration issued.mode

/-- An operation that is a command addresses no wheel whose torque is off in
the command's own mode. -/
def FindsNoneSlack (comms : DynamixelComms) (operation : Operation R) : Prop :=
  ∀ issued, operation = .turn (.command issued) →
    ∀ wheel ∈ wheels, issued.Addresses wheel →
      ¬(comms.servo wheel).Slack issued.mode

/-- The object rests, and every wheel is in service or has been rebooted. -/
structure Maintained (comms : DynamixelComms) : Prop where
  resting : comms.Resting
  serviced : ∀ wheel ∈ wheels,
    DynamixelServo.Serviced wheel.configuration
      (comms.servo wheel).device.service

theorem Initialised.maintained
    {comms : DynamixelComms}
    (initialised : comms.Initialised R) :
    comms.Maintained where
  resting := initialised.resting
  serviced wheel isWheel := by
    have service := (initialised.servos wheel).service
    rw [initialised.configurations wheel] at service
    refine ⟨.velocityControlMode, by simp [DynamixelServo.wheelModes], .inl ?_⟩
    rw [service]
    revert isWheel
    cases wheel <;> simp [wheels, Member.configuration,
      DynamixelServo.initialMode]

theorem Maintained.operate
    {bus : Bus R}
    (succeed : bus.AllSucceed)
    {comms next : DynamixelComms}
    (maintained : comms.Maintained)
    {operation : Operation R}
    (operated : DynamixelComms.operate bus comms operation = some next) :
    next.Maintained where
  resting := maintained.resting.operate operated
  serviced wheel isWheel := by
    have serviced := maintained.serviced wheel isWheel
    rw [operate_service succeed maintained.resting operated isWheel]
    cases operation with
    | turn turn =>
        simp only [served]
        split
        next mode configures =>
          exact serviced.reconfigured _ _ (succeed wheel)
            (Turn.configures_wheelMode configures)
        next => exact serviced
    | reboot polls servo =>
        simp only [served]
        split
        · exact serviced.rebooted
        · exact serviced
    | _ => exact serviced

/-- A command serves its wheels exactly when it finds none of them slack. -/
theorem serves_iff
    {bus : Bus R}
    (succeed : bus.AllSucceed)
    {comms : DynamixelComms}
    (maintained : comms.Maintained)
    (operation : Operation R) :
    Serves bus comms operation ↔ FindsNoneSlack comms operation := by
  refine forall_congr' fun issued => forall_congr' fun command => ?_
  refine forall_congr' fun wheel => forall_congr' fun isWheel =>
    forall_congr' fun addressed => ?_
  subst command
  have operated :
      operate bus comms (.turn (.command issued)) =
        some (comms.taken bus (.command issued)) :=
    turns_step bus comms maintained.resting (.command issued)
  have configures :
      Turn.configures comms wheel (.command issued) = some issued.mode :=
    if_pos addressed
  have service :=
    operate_service succeed maintained.resting operated isWheel
  simp only [served, configures] at service
  rw [← DynamixelServo.reconfigured_inService_iff _ _ (succeed wheel)
    (maintained.serviced wheel isWheel)
    (Turn.configures_wheelMode configures), ← service, operated]
  simp

/-- After initialisation, with every packet succeeding, every command of a run
brings the wheels that it addresses into service in its mode, whatever was
rebooted before, exactly when no command finds a wheel slack in its own
mode. -/
theorem all_served_iff
    {bus : Bus R}
    (succeed : bus.AllSucceed)
    {comms : DynamixelComms}
    (initialised : comms.Initialised R)
    (events : List (Operation R)) :
    (operations bus).Along (Serves bus) comms events ↔
      (operations bus).Along FindsNoneSlack comms events := by
  have everywhere :
      (operations bus).Along (fun _ _ => True) comms events :=
    Machine.along_of_forall _ (fun _ _ _ => trivial) _
  refine Machine.along_iff_along _ Maintained ?_ ?_ initialised.maintained
    everywhere
  · intro comms operation next maintained _ operated
    exact maintained.operate succeed operated
  · intro comms operation maintained _
    exact serves_iff succeed maintained operation

/-! ## A failing run -/

/-- A wheel that is rebooted in velocity mode stays without torque under the
speeds that follow. -/
theorem rebooted_wheel_slack :
    ¬∀ (bus : Bus ℚ) (comms : DynamixelComms) (events : List (Operation ℚ)),
      bus.AllSucceed → comms.Initialised ℚ →
        (operations bus).Along (Serves bus) comms events := by
  intro always
  have serves :=
    (always calmBus started
      [.reboot 1 .servoLeftFront, .turn (.command (.setRPM .motorLeft 20))]
      calmBus_allSucceed started_initialised).2 _ rfl
  have service :=
    serves.1 _ rfl .motorFrontLeft (by simp [wheels]) (.inl rfl) _ rfl
  exact absurd (congrArg Service.torque service) (by decide +kernel)

/-- A move brings the wheel back that was rebooted in velocity mode. -/
theorem all_served_moved :
    (operations calmBus).Along (Serves calmBus) started
      [.reboot 1 .servoLeftFront,
        .turn (.command (.setRelativePosition .motorLeft 1))] := by
  refine (all_served_iff calmBus_allSucceed started_initialised _).mpr ?_
  refine ⟨nofun, ?_⟩
  rintro _ ⟨⟩
  refine ⟨?_, fun _ _ => trivial⟩
  rintro _ ⟨⟩ wheel isWheel -
  revert isWheel
  cases wheel <;> decide +kernel

end DynamixelComms
end Skatebot
