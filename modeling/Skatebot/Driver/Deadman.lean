import Skatebot.Driver.CommsLemmas
import Skatebot.Driver.Recovery

/-!
# Wheels under the deadman's switch

One flag guards four wheels: while the deadman's switch is enabled, its thread
stops the wheels when no command comes.  This module asks whether a wheel can
run while the switch is disabled, and after which commands it does.
-/

namespace Skatebot

open Library ServoM

variable {R : Type} [Field R] [LinearOrder R] [FloorRing R]

/-! ## Running wheels -/

namespace DynamixelServo

/-- The wheel turns until it is told otherwise: velocity mode with a goal
velocity other than zero. -/
def Running (servo : DynamixelServo) : Prop :=
  servo.device.byte addrOperatingMode = operatingModeVelocity ∧
    servo.device.word addrGoalVelocity ≠ 0

instance (servo : DynamixelServo) : Decidable servo.Running :=
  inferInstanceAs (Decidable (_ ∧ _))

variable (world : World R) (servo : DynamixelServo)

/-- Configuring a wheel's mode sets it when every packet succeeds. -/
theorem configured_operatingMode
    (succeed : world.AllSucceed)
    {mode : OperatingMode}
    (wheel : mode ∈ wheelModes) :
    (servo.configured world mode).device.byte addrOperatingMode =
      (modeSettings servo.config mode).operatingMode := by
  have service := servo.configured_service world mode
  rw [servo.reconfigured_of_allSucceed world succeed wheel] at service
  have read := congrArg Service.mode service
  split at read
  next named => exact read.trans named
  next => exact read

/-- A wheel in extended position mode does not run. -/
theorem not_running_of_mode
    {servo : DynamixelServo}
    (mode : servo.device.byte addrOperatingMode =
      operatingModeExtendedPosition) :
    ¬servo.Running := by
  rintro ⟨velocity, _⟩
  rw [mode] at velocity
  exact absurd velocity (by decide)

/-- `SetRelativePosition` leaves the wheel in extended position mode. -/
theorem not_running_setRelativePosition
    (succeed : world.AllSucceed)
    (angleRadians : R) :
    ¬((ServoCall.setRelativePosition angleRadians).effect world
      servo).Running := by
  apply not_running_of_mode
  rw [effect_setRelativePosition]
  simp only [exchange_device, Device.serve_write4_byte,
    Device.serve_read4_byte]
  exact servo.configured_operatingMode world succeed (by simp [wheelModes])

end DynamixelServo

namespace DynamixelComms

/-! ## Runs of commands -/

/-- While a wheel runs, the deadman's switch is enabled. -/
def Guarded (comms : DynamixelComms) : Prop :=
  ∀ wheel ∈ wheels,
    (comms.servo wheel).Running → comms.deadmansSwitchEnabled = true

/-- The turn does not switch the deadman's switch off over a running wheel: a
`SetRelativePosition` for one side comes while no wheel of the other side
runs. -/
def Spares (comms : DynamixelComms) : Turn R → Prop
  | .command (.setRelativePosition motor _) =>
      ∀ wheel ∈ wheels, wheel ≠ front motor → wheel ≠ rear motor →
        ¬(comms.servo wheel).Running
  | _ => True

variable {bus : Bus R}

theorem guarded_of_enabled
    {comms : DynamixelComms}
    (enabled : comms.deadmansSwitchEnabled = true) :
    comms.Guarded :=
  fun _ _ _ => enabled

theorem guarded_iff_of_disabled
    {comms : DynamixelComms}
    (disabled : comms.deadmansSwitchEnabled = false) :
    comms.Guarded ↔ ∀ wheel ∈ wheels, ¬(comms.servo wheel).Running := by
  simp [Guarded, disabled]

/-- A turn keeps the wheels guarded exactly when it spares running wheels. -/
theorem guarded_taken_iff
    (succeed : bus.AllSucceed)
    {comms : DynamixelComms}
    (guarded : comms.Guarded)
    (turn : Turn R) :
    (comms.taken bus turn).Guarded ↔ comms.Spares turn := by
  cases turn with
  | iteration =>
      refine iff_of_true ?_ trivial
      simp only [taken]
      by_cases enabled : comms.deadmansSwitchEnabled = true
      · rw [if_pos enabled]
        apply guarded_of_enabled
        dsimp only
        split
        · exact enabled
        · exact enabled
      · rw [if_neg enabled]
        exact guarded
  | command issued =>
      cases issued with
      | setAllRPM => exact iff_of_true (guarded_of_enabled rfl) trivial
      | setRPM => exact iff_of_true (guarded_of_enabled rfl) trivial
      | setAllRelativePosition frontLeft frontRight rearLeft rearRight =>
          refine iff_of_true ((guarded_iff_of_disabled rfl).mpr ?_) trivial
          intro wheel isWheel
          obtain ⟨bytes, value⟩ :=
            perWheel_wheel _ _ _ _ isWheel
          simp only [taken, positionData]
          rw [written_servo _ _ _ value, readAll_servo _ _ isWheel,
            configuredAll_servo _ _ _ isWheel]
          apply DynamixelServo.not_running_of_mode
          simp only [DynamixelServo.exchange_device,
            Device.serve_write4_byte, Device.serve_read4_byte]
          exact (comms.servo wheel).configured_operatingMode _
            (succeed wheel) (by simp [DynamixelServo.wheelModes])
      | setRelativePosition motor angle =>
          rw [guarded_iff_of_disabled rfl]
          simp only [taken, calledSide_servo, Spares]
          constructor
          · intro none wheel isWheel notFront notRear
            have stands := none wheel isWheel
            rwa [if_neg (not_or.mpr ⟨notFront, notRear⟩)] at stands
          · intro spares wheel isWheel
            split
            next =>
              exact DynamixelServo.not_running_setRelativePosition _ _
                (succeed wheel) angle
            next other =>
              obtain ⟨notFront, notRear⟩ := not_or.mp other
              exact spares wheel isWheel notFront notRear

instance (comms : DynamixelComms) (turn : Turn R) :
    Decidable (comms.Spares turn) :=
  match turn with
  | .command (.setRelativePosition motor _) =>
      inferInstanceAs (Decidable (∀ wheel ∈ wheels, wheel ≠ front motor →
        wheel ≠ rear motor → ¬(comms.servo wheel).Running))
  | .command (.setRPM ..) | .command (.setAllRPM ..)
  | .command (.setAllRelativePosition ..) | .iteration => instDecidableTrue

/-! ## After initialisation -/

/-- A `DynamixelComms` object after its `Init`, in which every servo's `Init`
has met no failing packet.  Nothing is known of the flags. -/
structure Initialised (R : Type) [Field R] [LinearOrder R] [FloorRing R]
    (comms : DynamixelComms) : Prop where
  servos : ∀ member, (comms.servo member).Initialised R
  ids : ∀ member, (comms.servo member).dxlId = member.id
  configurations : ∀ member, (comms.servo member).config = member.configuration
  free : comms.commsMutex = none
  empty : comms.groupBulkWrite = []

theorem Initialised.resting
    {comms : DynamixelComms}
    (initialised : comms.Initialised R) :
    comms.Resting :=
  ⟨initialised.free, initialised.empty, initialised.ids⟩

end DynamixelComms

/-- `Init` reboots the servo, which clears its goal velocity. -/
theorem DynamixelServo.Initialised.goalVelocity
    {servo : DynamixelServo}
    (initialised : servo.Initialised R) :
    servo.device.word addrGoalVelocity = 0 := by
  obtain ⟨world, before, polls, modelNumber, dxlId, config, succeed, ok,
    returns⟩ := initialised
  obtain ⟨kept, rfl⟩ := run_init succeed ok returns
  have polled := pollModelNumber_invariant
    (fun servo => servo.device.word addrGoalVelocity = 0) world
    (fun servo stands => by simpa using stands) polls 0
    (exchange world { before with
      modelNumber := modelNumber
      dxlId := dxlId
      config := config
      handlersSet := true } .reboot)
    (by
      simp [Device.serve, succeed _ _, Device.obey, addrGoalVelocity,
        addrProfileAcceleration, addrProfileVelocity])
  simp only [exchange_device, rebased, switched, updated_device,
    Device.serve_write1_word, Device.serve_read4_word,
    Device.serve_write4_word, succeed _ _, if_true]
  rw [Function.update_of_ne (by decide), Function.update_of_ne (by decide)]
  exact polled

namespace DynamixelComms

theorem Initialised.guarded
    {comms : DynamixelComms}
    (initialised : comms.Initialised R) :
    comms.Guarded := by
  rintro wheel _ ⟨_, turning⟩
  exact absurd (initialised.servos wheel).goalVelocity turning

/-- After initialisation, with every packet succeeding, the deadman's switch is
enabled whenever a wheel runs, exactly as long as no turn switches it off over
a running wheel of the other side. -/
theorem always_guarded_iff
    {bus : Bus R}
    (succeed : bus.AllSucceed)
    {comms : DynamixelComms}
    (initialised : comms.Initialised R)
    (events : List (Turn R)) :
    (turns bus).Always Guarded comms events ↔
      (turns bus).Along Spares comms events := by
  apply Machine.always_iff_along _ Resting
  · intro comms turn next resting stepped
    rw [turns_step bus comms resting] at stepped
    exact Option.some.inj stepped ▸ resting.taken bus turn
  · intro comms turn resting
    exact ⟨_, turns_step bus comms resting turn⟩
  · intro comms turn next resting guarded stepped
    rw [turns_step bus comms resting] at stepped
    rw [← Option.some.inj stepped]
    exact guarded_taken_iff succeed guarded turn
  · exact initialised.resting
  · exact initialised.guarded

/-! ## A failing run -/

/-- A calm bus. -/
def calmBus : Bus ℚ where
  world _ := World.calm ℚ
  cast := FloatCast.wrapping ℚ

theorem calmBus_allSucceed : calmBus.AllSucceed :=
  fun _ => World.calm_allSucceed

/-- The object after `Init` on a calm bus. -/
def started : DynamixelComms where
  servo member :=
    ((DynamixelServo.init 1 30 member.id member.configuration :
      ServoM ℚ _).run (World.calm ℚ) DynamixelServo.blank).2
  groupBulkWrite := []
  deadmansSwitch := false
  deadmansSwitchEnabled := false
  commsMutex := none

theorem started_initialised : started.Initialised ℚ where
  servos member :=
    ⟨World.calm ℚ, DynamixelServo.blank, 1, 30, member.id,
      member.configuration, World.calm_allSucceed, rfl, by
        cases member <;> rfl⟩
  ids member := by cases member <;> rfl
  configurations member := by cases member <;> rfl
  free := rfl
  empty := rfl

/-- A speed for the left side, then a move of the right side: the left wheels
run on, and the deadman's switch is disabled. -/
theorem wheel_runs_unguarded :
    ¬∀ (bus : Bus ℚ) (comms : DynamixelComms) (events : List (Turn ℚ)),
      bus.AllSucceed → comms.Initialised ℚ →
        (turns bus).Always Guarded comms events := by
  intro always
  have guarded :=
    always calmBus started
      [.command (.setRPM .motorLeft 20),
        .command (.setRelativePosition .motorRight 1)]
      calmBus_allSucceed started_initialised
  have resting := started_initialised.resting
  have running := (guarded.2 _ (turns_step _ _ resting _)).2 _
    (turns_step _ _ (resting.taken calmBus _) _)
  have enabled :=
    Machine.Always.head _ running .motorFrontLeft (by decide)
      (by decide +kernel)
  exact absurd enabled (by decide)

/-- A speed for the left side, the iterations that end it, a move of the right
side, a speed for the right side and a move of that side: both moves come while
the other side stands. -/
theorem always_guarded_started :
    (turns calmBus).Always Guarded started
      [.command (.setRPM .motorLeft 20), .iteration, .iteration,
        .command (.setRelativePosition .motorRight 1),
        .command (.setRPM .motorRight 20),
        .command (.setRelativePosition .motorRight (-1))] := by
  apply (always_guarded_iff calmBus_allSucceed started_initialised _).mpr
  decide +kernel

end DynamixelComms
end Skatebot
