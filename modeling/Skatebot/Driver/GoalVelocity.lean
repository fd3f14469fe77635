import Skatebot.Driver.Deadman

/-!
# Goal velocities on the bus

`SetVelocity` saturates the goal velocity of a single wheel.  `SetAllRPM` builds
its words itself: another scale, 64 bits, and no limit.  This module follows
the goal velocities that reach the wheels and determines which speeds keep them
within the limit of the single-wheel path.
-/

namespace Skatebot

open Library ServoM

variable {R : Type} [Field R] [LinearOrder R] [FloorRing R]

/-- A word within the limit of `SetVelocity`, read as a signed number. -/
def WithinLimit (word : BitVec 32) : Prop :=
  -maxVelocity ≤ word.toInt ∧ word.toInt ≤ maxVelocity

instance (word : BitVec 32) : Decidable (WithinLimit word) :=
  inferInstanceAs (Decidable (_ ∧ _))

namespace DynamixelServo

/-! ## The goal velocities sent to a servo -/

/-- The goal velocities sent to a servo, newest first. -/
def goalVelocities (servo : DynamixelServo) : List (BitVec 32) :=
  servo.device.sent.filterMap fun entry =>
    if entry.1 = addrGoalVelocity then some entry.2 else none

variable (world : World R) (servo : DynamixelServo)

@[simp] theorem goalVelocities_read1 (address : Nat) :
    (servo.exchange world (.read1 address)).goalVelocities =
      servo.goalVelocities := by
  simp [goalVelocities, Device.serve_sent]

@[simp] theorem goalVelocities_read4 (address : Nat) :
    (servo.exchange world (.read4 address)).goalVelocities =
      servo.goalVelocities := by
  simp [goalVelocities, Device.serve_sent]

@[simp] theorem goalVelocities_write1 (address : Nat) (data : BitVec 8) :
    (servo.exchange world (.write1 address data)).goalVelocities =
      servo.goalVelocities := by
  simp [goalVelocities, Device.serve_sent]

theorem goalVelocities_write4
    {address : Nat}
    (other : address ≠ addrGoalVelocity)
    (data : BitVec 32) :
    (servo.exchange world (.write4 address data)).goalVelocities =
      servo.goalVelocities := by
  simp [goalVelocities, Device.serve_sent, other]

@[simp] theorem goalVelocities_writeGoal (data : BitVec 32) :
    (servo.exchange world (.write4 addrGoalVelocity data)).goalVelocities =
      data :: servo.goalVelocities := by
  simp [goalVelocities, Device.serve_sent]

@[simp] theorem goalVelocities_updated (modeChanged : Bool) :
    (servo.updated world modeChanged).goalVelocities =
      servo.goalVelocities := by
  unfold goalVelocities
  rw [updated_device]
  exact servo.goalVelocities_read4 world addrPresentPosition

/-- A mode change sends no goal velocity. -/
@[simp] theorem goalVelocities_configured (newMode : OperatingMode) :
    (servo.configured world newMode).goalVelocities =
      servo.goalVelocities := by
  have acceleration : addrProfileAcceleration ≠ addrGoalVelocity := by decide
  have velocity : addrProfileVelocity ≠ addrGoalVelocity := by decide
  unfold configured unset
  split_ifs <;>
    simp [released, rebased, switched, goalVelocities_write4, acceleration,
      velocity]

/-- `SetRPM` sends one goal velocity, and it is within the limit. -/
theorem goalVelocities_setRPM (rpm : R) :
    ∃ word, WithinLimit word ∧
      ((ServoCall.setRPM rpm).effect world servo).goalVelocities =
        word :: servo.goalVelocities := by
  rw [effect_setRPM, goalVelocities_writeGoal, goalVelocities_configured]
  refine ⟨_, ?_, rfl⟩
  unfold WithinLimit goalVelocity limitVelocity
  generalize world.cast.toInt32 _ = velocity
  rw [BitVec.toInt_ofInt, Int.bmod_eq_of_le]
  · unfold maxVelocity
    omega
  · unfold maxVelocity
    omega
  · unfold maxVelocity
    omega

theorem goalVelocities_setRelativePosition (angleRadians : R) :
    ((ServoCall.setRelativePosition angleRadians).effect world
      servo).goalVelocities = servo.goalVelocities := by
  rw [effect_setRelativePosition, goalVelocities_write4 _ _ (by decide),
    goalVelocities_read4, goalVelocities_configured]

/-- Every goal velocity sent to the servo is within the limit. -/
def Limited (servo : DynamixelServo) : Prop :=
  ∀ word ∈ servo.goalVelocities, WithinLimit word

/-- The single-wheel path keeps to the limit. -/
theorem limited_setRPM
    {servo : DynamixelServo}
    (limited : servo.Limited)
    (rpm : R) :
    ((ServoCall.setRPM rpm).effect world servo).Limited := by
  obtain ⟨word, within, sent⟩ := servo.goalVelocities_setRPM world rpm
  unfold Limited
  rw [sent]
  exact List.forall_mem_cons.mpr ⟨within, limited⟩

theorem limited_setRelativePosition_iff (angleRadians : R) :
    ((ServoCall.setRelativePosition angleRadians).effect world
      servo).Limited ↔ servo.Limited := by
  unfold Limited
  rw [goalVelocities_setRelativePosition]

end DynamixelServo

/-! ## Speeds that `SetAllRPM` can send -/

/-- A speed in ticks of the goal velocity register. -/
def velocityTicks (rpm : R) : R := rpm * (1.0 / 0.229)

/-- A speed that `SetAllRPM` turns into a word within the limit.  The ticks are
representable in 64 bits, and they lie within the limit of a multiple of 2³²:
by less than one tick more on the side away from zero, as conversion truncates.
For multiple 0 this is a speed of less than 230 ticks. -/
def Moderate (rpm : R) : Prop :=
  let ticks := velocityTicks rpm
  (((-2 ^ 63 - 1 : Int) : R) < ticks ∧ ticks < ((2 ^ 63 : Int) : R)) ∧
    ∃ wraps : Int,
      (if 0 < wraps then ((wraps * 2 ^ 32 - 229 : Int) : R) ≤ ticks
        else ((wraps * 2 ^ 32 - 230 : Int) : R) < ticks) ∧
      (if wraps < 0 then ticks ≤ ((wraps * 2 ^ 32 + 229 : Int) : R)
        else ticks < ((wraps * 2 ^ 32 + 230 : Int) : R))

/-- The 32-bit reading of a number is within the limit when the number is
within the limit of a multiple of 2³². -/
theorem withinLimit_ofInt_iff (value : Int) :
    WithinLimit (BitVec.ofInt 32 value) ↔
      ∃ wraps : Int, wraps * 2 ^ 32 - 229 ≤ value ∧
        value ≤ wraps * 2 ^ 32 + 229 := by
  unfold WithinLimit maxVelocity
  rw [BitVec.toInt_ofInt]
  have divides := Int.dvd_bmod_sub_self (x := value) (m := 2 ^ 32)
  constructor
  · rintro ⟨lower, upper⟩
    obtain ⟨wraps, difference⟩ := divides
    have equal : value.bmod (2 ^ 32) - value = 2 ^ 32 * wraps := by
      exact_mod_cast difference
    exact ⟨-wraps, by omega, by omega⟩
  · rintro ⟨wraps, lower, upper⟩
    have reading : value.bmod (2 ^ 32) = value - wraps * 2 ^ 32 := by
      have shifted : value.bmod (2 ^ 32) =
          (value - wraps * 2 ^ 32).bmod (2 ^ 32) := by
        exact_mod_cast
          (Int.sub_mul_bmod_self_right value wraps (2 ^ 32)).symm
      rw [shifted, Int.bmod_eq_of_le]
      · norm_num
        omega
      · norm_num
        omega
    rw [reading]
    omega

section

variable [IsStrictOrderedRing R]

theorem fits_truncate_iff (value : R) :
    Fits 64 (truncate value) ↔
      ((-2 ^ 63 - 1 : Int) : R) < value ∧ value < ((2 ^ 63 : Int) : R) := by
  have lower : -2 ^ 63 ≤ truncate value ↔
      ((-2 ^ 63 - 1 : Int) : R) < value := by
    rw [le_truncate_iff, if_neg (by norm_num)]
    norm_num
  have upper : truncate value < 2 ^ 63 ↔ value < ((2 ^ 63 : Int) : R) := by
    rw [← Int.le_sub_one_iff, truncate_le_iff, if_neg (by norm_num)]
    norm_num
  exact and_congr lower upper

/-- The window of `Moderate` is the limit around the multiple. -/
theorem moderate_iff (rpm : R) :
    Moderate rpm ↔
      Fits 64 (truncate (velocityTicks rpm)) ∧
        WithinLimit (BitVec.ofInt 32 (truncate (velocityTicks rpm))) := by
  simp only [Moderate]
  rw [fits_truncate_iff, withinLimit_ofInt_iff]
  refine and_congr_right fun _ => exists_congr fun wraps => ?_
  rw [le_truncate_iff, truncate_le_iff]
  have positive : 0 < wraps * 2 ^ 32 - 229 ↔ 0 < wraps := by omega
  have negative : wraps * 2 ^ 32 + 229 < 0 ↔ wraps < 0 := by omega
  simp only [positive, negative]
  push_cast
  rw [sub_sub, add_assoc]
  norm_num

/-- Every speed that a wheel can do is moderate. -/
theorem moderate_of_abs_le
    {rpm : R}
    (possible : |rpm| ≤ maximumRPM) :
    Moderate rpm := by
  obtain ⟨lower, upper⟩ := abs_le.mp possible
  unfold maximumRPM at lower upper
  have ticks : velocityTicks rpm = rpm * (1000 / 229) := by
    unfold velocityTicks
    norm_num
  have below : rpm * (1000 / 229) < 230 := by
    norm_num at upper
    linarith
  have above : -230 < rpm * (1000 / 229) := by
    norm_num at lower
    linarith
  unfold Moderate
  rw [ticks]
  refine ⟨⟨by norm_num; linarith, by norm_num; linarith⟩, 0, ?_, ?_⟩
  · rw [if_neg (lt_irrefl 0)]
    norm_num
    linarith
  · rw [if_neg (lt_irrefl 0)]
    norm_num
    linarith

/-! ## Every behaviour of the compiler -/

/-- A conversion that yields 1000 where the truncated value does not fit. -/
def erraticCast (R : Type) [Field R] [LinearOrder R] [FloorRing R] :
    FloatCast R :=
  { FloatCast.wrapping R with
    toInt64 := fun value =>
      if Fits 64 (truncate value) then truncate value else 1000
    toInt64_fits := fun value => by
      split
      next fits => exact fits
      next => decide
    toInt64_eq := fun _ fits => if_pos fits }

/-- The word that `SetAllRPM` sends for a speed. -/
def bulkWord (cast : FloatCast R) (rpm : R) : BitVec 32 :=
  (DynamixelComms.convertRPMToGoalVelocity cast rpm).register

omit [IsStrictOrderedRing R] in
theorem bulkWord_eq (cast : FloatCast R) (rpm : R) :
    bulkWord cast rpm =
      BitVec.ofInt 32 (cast.toInt64 (velocityTicks rpm)) :=
  Bytes.register_split_ofInt _

omit [IsStrictOrderedRing R] in
/-- The word for a speed that fits the register. -/
theorem bulkWord_toInt
    (cast : FloatCast R)
    {rpm : R}
    (fits : Fits 32 (truncate (velocityTicks rpm))) :
    (bulkWord cast rpm).toInt = truncate (velocityTicks rpm) := by
  have wide : Fits 64 (truncate (velocityTicks rpm)) :=
    fits.wider (by decide)
  rw [bulkWord_eq, cast.toInt64_eq _ wide]
  exact fits.toInt_ofInt (by decide)

theorem withinLimit_bulkWord
    (cast : FloatCast R)
    {rpm : R}
    (moderate : Moderate rpm) :
    WithinLimit (bulkWord cast rpm) := by
  obtain ⟨fits, within⟩ := (moderate_iff rpm).mp moderate
  rw [bulkWord_eq, cast.toInt64_eq _ fits]
  exact within

theorem moderate_of_erraticCast
    {rpm : R}
    (within : WithinLimit (bulkWord (erraticCast R) rpm)) :
    Moderate rpm := by
  rw [bulkWord_eq] at within
  rw [moderate_iff]
  by_cases fits : Fits 64 (truncate (velocityTicks rpm))
  · rw [(erraticCast R).toInt64_eq _ fits] at within
    exact ⟨fits, within⟩
  · have erratic : (erraticCast R).toInt64 (velocityTicks rpm) = 1000 :=
      if_neg fits
    rw [erratic] at within
    exact absurd within (by decide)

end

/-! ## Runs -/

namespace DynamixelComms

/-- Every goal velocity sent to a wheel is within the limit. -/
def Limited (comms : DynamixelComms) : Prop :=
  ∀ wheel ∈ wheels, (comms.servo wheel).Limited

/-- Every goal velocity that a bulk command sends is within the limit. -/
def SendsLimited (cast : FloatCast R) : Turn R → Prop
  | .command (.setAllRPM frontLeft frontRight rearLeft rearRight) =>
      WithinLimit (bulkWord cast frontLeft) ∧
        WithinLimit (bulkWord cast (-frontRight)) ∧
        WithinLimit (bulkWord cast rearLeft) ∧
        WithinLimit (bulkWord cast (-rearRight))
  | _ => True

/-- The speeds of a bulk command, as its wheels turn, are moderate. -/
def ModerateTurn : Turn R → Prop
  | .command (.setAllRPM frontLeft frontRight rearLeft rearRight) =>
      Moderate frontLeft ∧ Moderate (-frontRight) ∧ Moderate rearLeft ∧
        Moderate (-rearRight)
  | _ => True

/-- A bulk command for the speeds sends one word to each wheel. -/
theorem setAllRPM_goalVelocities
    (bus : Bus R)
    (comms : DynamixelComms)
    {frontLeft frontRight rearLeft rearRight : R}
    {wheel : Member}
    (isWheel : wheel ∈ wheels)
    {bytes : Bytes}
    (value :
      velocityData bus frontLeft frontRight rearLeft rearRight wheel =
        some bytes) :
    ((comms.taken bus (.command (.setAllRPM frontLeft frontRight rearLeft
      rearRight))).servo wheel).goalVelocities =
        bytes.register :: (comms.servo wheel).goalVelocities := by
  simp only [taken]
  rw [written_servo _ _ _ value, configuredAll_servo _ _ _ isWheel,
    DynamixelServo.goalVelocities_writeGoal,
    DynamixelServo.goalVelocities_configured]

/-- It keeps to the limit exactly when its words do. -/
theorem limited_setAllRPM_iff
    (bus : Bus R)
    {comms : DynamixelComms}
    (limited : comms.Limited)
    (frontLeft frontRight rearLeft rearRight : R) :
    (comms.taken bus (.command (.setAllRPM frontLeft frontRight rearLeft
      rearRight))).Limited ↔
      SendsLimited bus.cast (.command (.setAllRPM frontLeft frontRight rearLeft
        rearRight)) := by
  have wheelLimited : ∀ {wheel : Member} {bytes : Bytes}, wheel ∈ wheels →
      velocityData bus frontLeft frontRight rearLeft rearRight wheel =
        some bytes →
      (((comms.taken bus (.command (.setAllRPM frontLeft frontRight rearLeft
        rearRight))).servo wheel).Limited ↔ WithinLimit bytes.register) := by
    intro wheel bytes isWheel value
    unfold DynamixelServo.Limited
    rw [setAllRPM_goalVelocities bus comms isWheel value,
      List.forall_mem_cons]
    exact and_iff_left (limited wheel isWheel)
  unfold Limited wheels
  simp only [List.forall_mem_cons, List.not_mem_nil, false_implies,
    implies_true, and_true]
  rw [wheelLimited (by simp [wheels]) rfl, wheelLimited (by simp [wheels]) rfl,
    wheelLimited (by simp [wheels]) rfl, wheelLimited (by simp [wheels]) rfl]
  exact Iff.rfl

/-- A turn keeps to the limit exactly when its bulk words do. -/
theorem limited_taken_iff
    (bus : Bus R)
    {comms : DynamixelComms}
    (limited : comms.Limited)
    (turn : Turn R) :
    (comms.taken bus turn).Limited ↔ SendsLimited bus.cast turn := by
  cases turn with
  | iteration =>
      refine iff_of_true ?_ trivial
      intro wheel isWheel
      simp only [taken]
      split_ifs
      · dsimp only
        rw [stopped_servo _ _ isWheel]
        exact DynamixelServo.limited_setRPM _ (limited wheel isWheel) 0
      · exact limited wheel isWheel
      · exact limited wheel isWheel
  | command issued =>
      cases issued with
      | setAllRPM => exact limited_setAllRPM_iff bus limited ..
      | setRPM motor rpm =>
          refine iff_of_true ?_ trivial
          intro wheel isWheel
          simp only [taken, calledSide_servo]
          split
          · exact DynamixelServo.limited_setRPM _ (limited wheel isWheel) _
          · exact limited wheel isWheel
      | setAllRelativePosition =>
          refine iff_of_true ?_ trivial
          intro wheel isWheel
          obtain ⟨bytes, value⟩ := perWheel_wheel _ _ _ _ isWheel
          simp only [taken, positionData]
          rw [written_servo _ _ _ value, readAll_servo _ _ isWheel,
            configuredAll_servo _ _ _ isWheel]
          unfold DynamixelServo.Limited
          rw [DynamixelServo.goalVelocities_write4 _ _ (by decide),
            DynamixelServo.goalVelocities_read4,
            DynamixelServo.goalVelocities_configured]
          exact limited wheel isWheel
      | setRelativePosition motor angle =>
          refine iff_of_true ?_ trivial
          intro wheel isWheel
          simp only [taken, calledSide_servo]
          split
          · rw [DynamixelServo.limited_setRelativePosition_iff]
            exact limited wheel isWheel
          · exact limited wheel isWheel

/-- On one bus, a run keeps to the limit exactly when its bulk words do. -/
theorem always_limited_iff
    (bus : Bus R)
    {comms : DynamixelComms}
    (resting : comms.Resting)
    (limited : comms.Limited)
    (events : List (Turn R)) :
    (turns bus).Always Limited comms events ↔
      ∀ turn ∈ events, SendsLimited bus.cast turn := by
  have preserved : ∀ {comms turn next}, Resting comms →
      (turns bus).step comms turn = some next → Resting next := by
    intro comms turn next resting stepped
    rw [turns_step bus comms resting] at stepped
    exact Option.some.inj stepped ▸ resting.taken bus turn
  have total : ∀ {comms} turn, Resting comms →
      ∃ next, (turns bus).step comms turn = some next :=
    fun turn resting => ⟨_, turns_step bus _ resting turn⟩
  rw [Machine.always_iff_along _ Resting preserved total _ resting limited,
    Machine.along_events_iff _ Resting preserved total resting]
  intro comms turn next resting limited stepped
  rw [turns_step bus comms resting] at stepped
  rw [← Option.some.inj stepped]
  exact limited_taken_iff bus limited turn

/-- Whatever packets fail, however the wheels move and whatever the compiler
makes of conversions that do not fit, every goal velocity sent to a wheel is
within the limit: exactly when all speeds of the run's `SetAllRPM` commands are
moderate. -/
theorem goal_velocities_limited_iff
    [IsStrictOrderedRing R]
    {comms : DynamixelComms}
    (resting : comms.Resting)
    (limited : comms.Limited)
    (events : List (Turn R)) :
    (∀ bus : Bus R, (turns bus).Always Limited comms events) ↔
      ∀ turn ∈ events, ModerateTurn turn := by
  simp only [always_limited_iff _ resting limited]
  constructor
  · intro sends turn member
    have erratic := sends
      { world := fun _ => World.calm R, cast := erraticCast R } turn member
    match turn, erratic with
    | .command (.setAllRPM _ _ _ _), ⟨first, second, third, fourth⟩ =>
        exact ⟨moderate_of_erraticCast first, moderate_of_erraticCast second,
          moderate_of_erraticCast third, moderate_of_erraticCast fourth⟩
    | .command (.setRPM _ _), _ => trivial
    | .command (.setAllRelativePosition _ _ _ _), _ => trivial
    | .command (.setRelativePosition _ _), _ => trivial
    | .iteration, _ => trivial
  · intro moderate bus turn member
    match turn, moderate turn member with
    | .command (.setAllRPM _ _ _ _), ⟨first, second, third, fourth⟩ =>
        exact ⟨withinLimit_bulkWord _ first, withinLimit_bulkWord _ second,
          withinLimit_bulkWord _ third, withinLimit_bulkWord _ fourth⟩
    | .command (.setRPM _ _), _ => trivial
    | .command (.setAllRelativePosition _ _ _ _), _ => trivial
    | .command (.setRelativePosition _ _), _ => trivial
    | .iteration, _ => trivial

/-! ## A failing run -/

theorem started_limited : started.Limited := by
  intro wheel isWheel word sent
  have unsent : (started.servo wheel).goalVelocities = [] := by
    cases wheel <;> decide
  rw [unsent] at sent
  contradiction

/-- `SetAllRPM` with 1000 rpm sends the front left wheel the word 4366. -/
theorem bulk_exceeds_limit :
    ¬∀ (bus : Bus ℚ) (comms : DynamixelComms) (events : List (Turn ℚ)),
      comms.Resting → comms.Limited →
        (turns bus).Always Limited comms events := by
  intro always
  have limited :=
    always calmBus started [.command (.setAllRPM 1000 0 0 0)]
      started_initialised.resting started_limited
  have sends := (always_limited_iff calmBus started_initialised.resting
    started_limited _).mp limited _ (List.mem_singleton_self _)
  exact absurd sends.1 (by decide +kernel)

/-- A run through both paths that keeps to the limit. -/
theorem goal_velocities_limited_started :
    (turns calmBus).Always Limited started
      [.command (.setRPM .motorLeft 1000), .iteration,
        .command (.setAllRPM 52 (-52) 20 0), .iteration] := by
  refine (goal_velocities_limited_iff started_initialised.resting
    started_limited _).mpr ?_ calmBus
  have moderate : ∀ rpm : ℚ, |rpm| ≤ 52 → Moderate rpm := by
    intro rpm possible
    apply moderate_of_abs_le
    exact_mod_cast possible
  simp only [List.forall_mem_cons, List.not_mem_nil, false_implies,
    implies_true, and_true]
  exact ⟨trivial, trivial, ⟨moderate _ (by decide +kernel),
    moderate _ (by decide +kernel), moderate _ (by decide +kernel),
    moderate _ (by decide +kernel)⟩, trivial⟩

end DynamixelComms

end Skatebot
