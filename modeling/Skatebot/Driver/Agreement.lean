import Skatebot.Driver.GoalVelocity
import Skatebot.Driver.SpeedResponse

/-!
# The per-side path and the bulk path

Wheels can be commanded side by side, or all at once with a bulk write.  The
bulk path builds its words itself.  This module compares what the two paths
leave behind, wheel by wheel: positions agree in every respect, speeds agree on
the left side only.
-/

namespace Skatebot

open Library ServoM

variable {R : Type} [Field R] [LinearOrder R] [FloorRing R]

namespace DynamixelComms

variable (bus : Bus R) (comms : DynamixelComms)

/-! ## Commands for both sides -/

/-- The wheels that both paths turn the same way. -/
def leftWheels : List Member := [.motorFrontLeft, .motorRearLeft]

/-- A value for each side. -/
theorem perWheel_sides
    {α : Type}
    (left right : α)
    {wheel : Member}
    (isWheel : wheel ∈ wheels) :
    perWheel left right left right wheel =
      some (if wheel ∈ leftWheels then left else right) := by
  cases wheel with
  | motorFrontLeft => rfl
  | motorRearLeft => rfl
  | motorFrontRight => rfl
  | motorRearRight => rfl
  | servoTurret => simp [wheels] at isWheel

/-- A command for each side, one after the other. -/
def sideBySide (left right : Command R) : List (Turn R) :=
  [.command left, .command right]

/-- Two turns that wait for nothing. -/
theorem run_sideBySide (resting : comms.Resting) (left right : Command R) :
    (turns bus).run comms (sideBySide left right) =
      some ((comms.taken bus (.command left)).taken bus (.command right)) := by
  refine (turns bus).run_cons_eq_some.mpr
    ⟨_, turns_step bus comms resting _, ?_⟩
  exact run_turn bus _ (resting.taken bus _) _

/-- A wheel after a position command for each side. -/
theorem positionSides_servo
    (left right : R)
    {wheel : Member}
    {angleRadians : R}
    (angle : perWheel left right left right wheel = some angleRadians) :
    ((comms.taken bus (.command (.setRelativePosition .motorLeft left))).taken
        bus (.command (.setRelativePosition .motorRight right))).servo wheel =
      (ServoCall.setRelativePosition angleRadians).effect (bus.world wheel)
        (comms.servo wheel) := by
  simp only [taken, calledSide_servo]
  cases wheel <;> simp_all [perWheel, front, rear]

/-! ## Positions -/

/-- The two computations of a goal send the same word, where the compiler
converts the same number in the same way. -/
theorem goalData_register
    {member : Member}
    (converts : (bus.world member).cast = bus.cast)
    (angleRadians : R) :
    (comms.goalData bus member angleRadians).register =
      BitVec.ofInt 32
        ((comms.servo member).relativeGoal (bus.world member)
          angleRadians) := by
  have counts : angleRadians / (2.0 * 3.1415926) * 4096.0 * -1.0 =
      DynamixelServo.angleCounts angleRadians := by
    unfold DynamixelServo.angleCounts
    norm_num
  unfold goalData calculateNewGoalPosition DynamixelServo.relativeGoal
  dsimp only
  rw [Bytes.register_split_ofInt, counts, converts]

/-- A wheel after a bulk position command: what its own servo's method would
have made of it. -/
theorem positionBulk_servo
    {wheel : Member}
    (isWheel : wheel ∈ wheels)
    (converts : (bus.world wheel).cast = bus.cast)
    (left right : R)
    {angleRadians : R}
    (angle : perWheel left right left right wheel = some angleRadians) :
    (comms.taken bus
        (.command (.setAllRelativePosition left right left right))).servo
          wheel =
      (ServoCall.setRelativePosition angleRadians).effect (bus.world wheel)
        (comms.servo wheel) := by
  let configured := comms.configuredAll bus .extendedPositionControlMode
  have value :
      configured.positionData bus left right left right wheel =
        some (configured.goalData bus wheel angleRadians) := by
    cases wheel <;> simp_all [positionData, perWheel]
  have begun := comms.configuredAll_servo bus
    .extendedPositionControlMode isWheel
  simp only [taken]
  rw [written_servo _ _ _ value, readAll_servo _ _ isWheel,
    goalData_register _ _ converts, begun, effect_setRelativePosition]

/-- A position command for each side and one bulk command for all wheels leave
the same object: every servo with the same mode, torque, profile, goal and
counts, and the deadman's switch in the same state. -/
theorem positions_agree
    (resting : comms.Resting)
    (converts : ∀ wheel ∈ wheels, (bus.world wheel).cast = bus.cast)
    (left right : R) :
    ∃ final,
      (turns bus).run comms
          (sideBySide (.setRelativePosition .motorLeft left)
            (.setRelativePosition .motorRight right)) = some final ∧
        (turns bus).run comms
          [.command (.setAllRelativePosition left right left right)] =
            some final := by
  refine ⟨_, run_sideBySide bus comms resting _ _, ?_⟩
  rw [run_turn bus comms resting]
  have servos : ∀ member,
      (comms.taken bus
          (.command (.setAllRelativePosition left right left right))).servo
            member =
        ((comms.taken bus
          (.command (.setRelativePosition .motorLeft left))).taken bus
            (.command (.setRelativePosition .motorRight right))).servo
              member := by
    intro member
    by_cases isWheel : member ∈ wheels
    · obtain ⟨angleRadians, angle⟩ :=
        perWheel_wheel left right left right isWheel
      rw [positionSides_servo bus comms left right angle,
        positionBulk_servo bus comms isWheel (converts member isWheel) left
          right angle]
    · obtain rfl : member = .servoTurret := by
        revert isWheel
        cases member <;> simp [wheels]
      simp [taken, front, rear, written, positionData, perWheel, readAll,
        configuredAll, called]
  exact congrArg some (congrArg
    (fun servo => { comms with servo := servo, deadmansSwitchEnabled := false })
    (funext servos))

/-- The agreement for a move of both sides. -/
theorem positions_agree_started :
    ∃ final,
      (turns calmBus).run started
          (sideBySide (.setRelativePosition .motorLeft 1)
            (.setRelativePosition .motorRight (-2))) = some final ∧
        (turns calmBus).run started
          [.command (.setAllRelativePosition 1 (-2) 1 (-2))] = some final :=
  positions_agree calmBus started started_initialised.resting
    (fun _ _ => rfl) 1 (-2)

/-! ## Speeds -/

/-- The goal velocity in a servo's register, as a signed number. -/
def goalVelocity (comms : DynamixelComms) (member : Member) : Int :=
  ((comms.servo member).device.word addrGoalVelocity).toInt

/-- The speed that the per-side path hands to a wheel. -/
theorem speedSides_servo
    (left right : R)
    {wheel : Member}
    {rpm : R}
    (speed : perWheel left (-right) left (-right) wheel = some rpm) :
    ((comms.taken bus (.command (.setRPM .motorLeft left))).taken bus
        (.command (.setRPM .motorRight right))).servo wheel =
      (ServoCall.setRPM rpm).effect (bus.world wheel) (comms.servo wheel) := by
  simp only [taken, calledSide_servo]
  cases wheel <;> simp_all [perWheel, front, rear, sideRPM]

end DynamixelComms

section

variable [IsStrictOrderedRing R]

/-- A speed that a wheel can do, other than standing still. -/
def Drivable (rpm : R) : Prop :=
  1 ≤ |rpm| ∧ |rpm| ≤ 52

instance (rpm : R) : Decidable (Drivable rpm) :=
  inferInstanceAs (Decidable (_ ∧ _))

omit [FloorRing R] [IsStrictOrderedRing R] in
theorem Drivable.neg {rpm : R} (drivable : Drivable rpm) :
    Drivable (-rpm) := by
  unfold Drivable
  rwa [abs_neg]

/-- Forward, the two scales send at least 4 ticks, and differ by at most 2. -/
theorem ticks_of_forward
    {rpm : R}
    (least : 1 ≤ rpm)
    (most : rpm ≤ 52) :
    4 ≤ truncate (velocityTicks rpm) ∧
      truncate (velocityTicks rpm) ≤ truncate (singleTicks rpm) ∧
      truncate (singleTicks rpm) ≤ truncate (velocityTicks rpm) + 2 ∧
      truncate (singleTicks rpm) ≤ 229 := by
  have bulk : velocityTicks rpm = rpm * (1000 / 229) := by
    unfold velocityTicks
    norm_num
  have single := singleTicks_eq rpm
  have bulkForward : 0 ≤ rpm * (1000 / 229) := by linarith
  have singleForward : 0 ≤ rpm * (229 / 52) := by linarith
  rw [bulk, single, truncate, truncate, if_pos bulkForward,
    if_pos singleForward]
  refine ⟨?_, Int.floor_mono (by linarith), ?_, ?_⟩
  · rw [Int.le_floor]
    norm_num
    linarith
  · have above := Int.lt_floor_add_one (rpm * (1000 / 229))
    rw [← Int.lt_add_one_iff, Int.floor_lt]
    push_cast
    linarith
  · rw [← Int.lt_add_one_iff, Int.floor_lt]
    norm_num
    linarith

omit [LinearOrder R] [FloorRing R] [IsStrictOrderedRing R] in
@[simp] theorem velocityTicks_neg (rpm : R) :
    velocityTicks (-rpm) = -velocityTicks rpm :=
  neg_mul ..

/-- Two goal velocities turn a wheel the same way, at speeds that differ by at
most 2 units. -/
def Agree (single bulk : Int) : Prop :=
  single.sign = bulk.sign ∧ |single - bulk| ≤ 2

instance (single bulk : Int) : Decidable (Agree single bulk) :=
  inferInstanceAs (Decidable (_ ∧ _))

theorem agree_neg_neg (single bulk : Int) :
    Agree (-single) (-bulk) ↔ Agree single bulk := by
  unfold Agree
  rw [Int.sign_neg, Int.sign_neg, neg_inj, ← abs_neg, neg_sub_neg, neg_sub]

/-- What the two paths make of a drivable speed: numbers that agree, do not
agree when one is reversed, and are within the limit. -/
theorem ticks_agree
    {rpm : R}
    (drivable : Drivable rpm) :
    Agree (truncate (singleTicks rpm)) (truncate (velocityTicks rpm)) ∧
      ¬Agree (truncate (singleTicks rpm)) (-truncate (velocityTicks rpm)) ∧
      |truncate (singleTicks rpm)| ≤ 229 ∧
      |truncate (velocityTicks rpm)| ≤ 229 := by
  have forward : ∀ {rpm : R}, 1 ≤ rpm → rpm ≤ 52 →
      Agree (truncate (singleTicks rpm)) (truncate (velocityTicks rpm)) ∧
        ¬Agree (truncate (singleTicks rpm)) (-truncate (velocityTicks rpm)) ∧
        |truncate (singleTicks rpm)| ≤ 229 ∧
        |truncate (velocityTicks rpm)| ≤ 229 := by
    intro rpm least most
    obtain ⟨positive, below, near, limit⟩ := ticks_of_forward least most
    have single := Int.sign_eq_one_of_pos (by omega :
      0 < truncate (singleTicks rpm))
    have bulk := Int.sign_eq_one_of_pos (by omega :
      0 < truncate (velocityTicks rpm))
    refine ⟨⟨by rw [single, bulk], ?_⟩, ?_, ?_, ?_⟩
    · rw [abs_le]
      omega
    · rintro ⟨same, -⟩
      rw [Int.sign_neg, single, bulk] at same
      omega
    · rw [abs_le]
      omega
    · rw [abs_le]
      omega
  obtain ⟨least, most⟩ := drivable
  rcases le_total 0 rpm with ahead | back
  · rw [abs_of_nonneg ahead] at least most
    exact forward least most
  · rw [abs_of_nonpos back] at least most
    have mirrored := forward least most
    rwa [singleTicks_neg, velocityTicks_neg, truncate_neg, truncate_neg,
      agree_neg_neg, agree_neg_neg, abs_neg, abs_neg] at mirrored

namespace DynamixelServo

variable {world : World R}

omit [FloorRing R] in
/-- A drivable speed passes the limits of `SetRPM`. -/
theorem limitRPM_of_drivable {rpm : R} (drivable : Drivable rpm) :
    limitRPM rpm = rpm := by
  obtain ⟨least, most⟩ := drivable
  have moving : ¬|rpm| < (minimumRPM : R) := by
    unfold minimumRPM
    push_cast
    exact not_lt.mpr least
  rw [limitRPM_eq, deadZone, if_neg moving]
  apply saturate_of_abs_le
  exact_mod_cast most

/-- The goal velocity that `SetRPM` leaves for a drivable speed. -/
theorem setRPM_goalVelocity
    (succeed : world.AllSucceed)
    (servo : DynamixelServo)
    {rpm : R}
    (drivable : Drivable rpm) :
    (((ServoCall.setRPM rpm).effect world servo).device.word
        addrGoalVelocity).toInt =
      truncate (singleTicks (directRPM servo.config rpm)) := by
  have limit := abs_response_le servo.config rpm
  have sent : response servo.config rpm =
      truncate (singleTicks (directRPM servo.config rpm)) := by
    rw [response, limitRPM_of_drivable drivable]
  rw [effect_setRPM, exchange_device, Device.serve_write4_word,
    if_pos (succeed _ _), Function.update_self, goalVelocity_eq,
    configured_config, toInt_of_limit limit, sent]

end DynamixelServo

namespace DynamixelComms

variable {bus : Bus R} {comms : DynamixelComms}

omit [FloorRing R] [IsStrictOrderedRing R] in
/-- The speeds that the two paths hand to a wheel are drivable. -/
theorem drivable_side
    {left right : R}
    (drivableLeft : Drivable left)
    (drivableRight : Drivable right)
    (wheel : Member) :
    Drivable (if wheel ∈ leftWheels then left else -right) := by
  split
  · exact drivableLeft
  · exact drivableRight.neg

/-- The per-side path leaves every wheel with the ticks of its side's speed:
the right side's speed is reversed twice. -/
theorem speedSides_goalVelocity
    (succeed : bus.AllSucceed)
    (configurations : ∀ member,
      (comms.servo member).config = member.configuration)
    {left right : R}
    (drivableLeft : Drivable left)
    (drivableRight : Drivable right)
    {wheel : Member}
    (isWheel : wheel ∈ wheels) :
    ((comms.taken bus (.command (.setRPM .motorLeft left))).taken bus
        (.command (.setRPM .motorRight right))).goalVelocity wheel =
      truncate
        (singleTicks (if wheel ∈ leftWheels then left else right)) := by
  have directed :
      DynamixelServo.directRPM wheel.configuration
          (if wheel ∈ leftWheels then left else -right) =
        if wheel ∈ leftWheels then left else right := by
    revert isWheel
    cases wheel <;>
      simp [wheels, leftWheels, DynamixelServo.directRPM, Member.configuration]
  have handed := perWheel_sides left (-right) isWheel
  unfold goalVelocity
  rw [speedSides_servo bus comms left right handed,
    DynamixelServo.setRPM_goalVelocity (succeed wheel) _
      (drivable_side drivableLeft drivableRight wheel),
    configurations, directed]

/-- The bulk path leaves every wheel with the ticks of the speed that it was
handed, the right side's speed reversed once. -/
theorem speedBulk_goalVelocity
    (succeed : bus.AllSucceed)
    {left right : R}
    (drivableLeft : Drivable left)
    (drivableRight : Drivable right)
    {wheel : Member}
    (isWheel : wheel ∈ wheels) :
    (comms.taken bus
        (.command (.setAllRPM left right left right))).goalVelocity wheel =
      truncate
        (velocityTicks (if wheel ∈ leftWheels then left else -right)) := by
  obtain ⟨-, -, -, limit⟩ :=
    ticks_agree (drivable_side drivableLeft drivableRight wheel)
  have value :
      velocityData bus left right left right wheel =
        some (convertRPMToGoalVelocity bus.cast
          (if wheel ∈ leftWheels then left else -right)) := by
    rw [apply_ite (convertRPMToGoalVelocity bus.cast)]
    exact perWheel_sides _ _ isWheel
  simp only [goalVelocity, taken]
  rw [written_servo _ _ _ value, DynamixelServo.exchange_device,
    Device.serve_write4_word, if_pos (succeed wheel _ _),
    Function.update_self]
  change (bulkWord bus.cast _).toInt = _
  rw [bulkWord_eq, bus.cast.toInt64_eq _ (fits_of_limit limit).2,
    toInt_of_limit limit]

/-- For drivable speeds, the two paths agree on a wheel exactly when it is on
the left; so they never agree on all four. -/
theorem speeds_agree_iff
    (succeed : bus.AllSucceed)
    (resting : comms.Resting)
    (configurations : ∀ member,
      (comms.servo member).config = member.configuration)
    {left right : R}
    (drivableLeft : Drivable left)
    (drivableRight : Drivable right) :
    ∃ sides all,
      (turns bus).run comms
          (sideBySide (.setRPM .motorLeft left) (.setRPM .motorRight right)) =
        some sides ∧
      (turns bus).run comms
          [.command (.setAllRPM left right left right)] = some all ∧
      (∀ wheel ∈ wheels,
        Agree (sides.goalVelocity wheel) (all.goalVelocity wheel) ↔
          wheel ∈ leftWheels) ∧
      ¬∀ wheel ∈ wheels,
        Agree (sides.goalVelocity wheel) (all.goalVelocity wheel) := by
  refine ⟨_, _, run_sideBySide bus comms resting _ _,
    run_turn bus comms resting _, ?_⟩
  have agreeIff : ∀ wheel ∈ wheels,
      (Agree
        (((comms.taken bus (.command (.setRPM .motorLeft left))).taken bus
          (.command (.setRPM .motorRight right))).goalVelocity wheel)
        ((comms.taken bus
          (.command (.setAllRPM left right left right))).goalVelocity wheel) ↔
        wheel ∈ leftWheels) := by
    intro wheel isWheel
    rw [speedSides_goalVelocity succeed configurations drivableLeft
        drivableRight isWheel,
      speedBulk_goalVelocity succeed drivableLeft drivableRight isWheel]
    by_cases onLeft : wheel ∈ leftWheels
    · simp only [onLeft, if_true, iff_true]
      exact (ticks_agree drivableLeft).1
    · simp only [onLeft, if_false, iff_false]
      rw [velocityTicks_neg, truncate_neg]
      exact (ticks_agree drivableRight).2.1
  refine ⟨agreeIff, fun every => ?_⟩
  have onLeft := (agreeIff .motorFrontRight (by simp [wheels])).mp
    (every .motorFrontRight (by simp [wheels]))
  exact absurd onLeft (by simp [leftWheels])

end DynamixelComms

end

/-! ## Opposite turns -/

namespace DynamixelComms

/-- At 20 rpm the per-side path sends the right wheels 88, the bulk path
-87. -/
theorem right_wheels_disagree :
    ¬∀ (bus : Bus ℚ) (comms : DynamixelComms) (left right : ℚ),
      bus.AllSucceed → comms.Initialised ℚ →
        Drivable left → Drivable right →
          ∃ sides all,
            (turns bus).run comms
                (sideBySide (.setRPM .motorLeft left)
                  (.setRPM .motorRight right)) = some sides ∧
            (turns bus).run comms
                [.command (.setAllRPM left right left right)] = some all ∧
            ∀ wheel ∈ wheels,
              Agree (sides.goalVelocity wheel) (all.goalVelocity wheel) := by
  intro always
  obtain ⟨sides, all, ranSides, ranAll, agree⟩ :=
    always calmBus started 20 20 calmBus_allSucceed started_initialised
      (by decide +kernel) (by decide +kernel)
  rw [run_sideBySide _ _ started_initialised.resting] at ranSides
  rw [run_turn _ _ started_initialised.resting] at ranAll
  obtain rfl := Option.some.inj ranSides
  obtain rfl := Option.some.inj ranAll
  exact absurd (agree .motorFrontRight (by simp [wheels]))
    (by decide +kernel)

/-- The comparison at 20 and -52 rpm. -/
theorem speeds_agree_started :
    ∃ sides all,
      (turns calmBus).run started
          (sideBySide (.setRPM .motorLeft 20) (.setRPM .motorRight (-52))) =
        some sides ∧
      (turns calmBus).run started
          [.command (.setAllRPM 20 (-52) 20 (-52))] = some all ∧
      (∀ wheel ∈ wheels,
        Agree (sides.goalVelocity wheel) (all.goalVelocity wheel) ↔
          wheel ∈ leftWheels) ∧
      ¬∀ wheel ∈ wheels,
        Agree (sides.goalVelocity wheel) (all.goalVelocity wheel) :=
  speeds_agree_iff calmBus_allSucceed started_initialised.resting
    started_initialised.configurations (by decide +kernel)
    (by decide +kernel)

end DynamixelComms

end Skatebot
