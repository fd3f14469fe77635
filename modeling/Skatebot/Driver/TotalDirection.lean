import Skatebot.Driver.Agreement
import Skatebot.Driver.RebootCount
import Skatebot.Driver.Standstill

/-!
# Which way the totals count

The speeds of a command are positive for forward motion on either side.
`SetAllRPM` reverses the speeds of the right wheels, which are mounted the
other way round; `GetTotalEncoderCount` reverses nothing.  This module follows
both sides from a bulk command through the servos' registers to the totals, and
determines on which side, and in which travels, the totals count the way the
robot goes.
-/

namespace Skatebot

open Library ServoM

variable {R : Type} [Field R] [LinearOrder R] [FloorRing R]

/-! ## Totals and angles -/

namespace DynamixelServo

/-- How far the next total is ahead of the wheel's angle. -/
def lead (servo : DynamixelServo) : Int :=
  servo.totalEncoderCount - servo.lastEncoderCount +
    (servo.device.presentPosition - servo.device.wheelAngle)

/-- Neither the subtraction nor the addition of the next count overflows. -/
def CountsExactly (world : World R) (servo : DynamixelServo) : Prop :=
  servo.ReadsOn world ∧
    Fits 64 (servo.totalEncoderCount +
      (servo.nextPosition world - servo.lastEncoderCount))

instance (world : World R) (servo : DynamixelServo) :
    Decidable (servo.CountsExactly world) :=
  inferInstanceAs (Decidable ((_ ∧ _) ∧ _))

variable {world : World R} {servo : DynamixelServo}

/-- An exchange that leaves the position register to the wheel. -/
theorem lead_exchange
    {request : Request}
    (keeps : ∀ data, request ≠ .write1 addrOperatingMode data)
    (running : request ≠ .reboot) :
    (servo.exchange world request).lead = servo.lead := by
  unfold lead
  rw [exchange_device, Device.serve_presentPosition _ _ keeps running,
    Device.serve_wheelAngle, add_sub_add_right_eq_sub, exchange_total,
    exchange_last]

/-- A count moves the total as far as the register has moved. -/
theorem updated_total
    (succeed : world.AllSucceed)
    (exactly : servo.CountsExactly world) :
    (servo.updated world false).totalEncoderCount =
      servo.totalEncoderCount +
        (servo.nextPosition world - servo.lastEncoderCount) := by
  have counts := servo.counts_of_readsOn world succeed exactly.1
  unfold Counts at counts
  rw [reportedPosition_eq _ _ succeed exactly.1] at counts
  rw [updated_false_total, reportedPosition_eq _ _ succeed exactly.1,
    int32_of_fits counts, int64_of_fits exactly.2]

theorem lead_updated
    (succeed : world.AllSucceed)
    (exactly : servo.CountsExactly world) :
    (servo.updated world false).lead = servo.lead := by
  unfold lead
  rw [updated_total succeed exactly, updated_last,
    reportedPosition_eq _ _ succeed exactly.1, updated_device,
    Device.serve_presentPosition _ _ (by simp) (by simp),
    Device.serve_wheelAngle]
  ring

/-- The total is the lead and the angle. -/
theorem total_eq_lead
    (succeed : world.AllSucceed)
    (exactly : servo.CountsExactly world) :
    (servo.updated world false).totalEncoderCount =
      servo.lead + (servo.updated world false).device.wheelAngle := by
  rw [updated_total succeed exactly, updated_device, Device.serve_wheelAngle]
  unfold lead nextPosition
  ring

/-! ## Wheels under a command -/

/-- The servo is in velocity mode, with this goal velocity or stopped. -/
structure Driven (word : BitVec 32) (servo : DynamixelServo) : Prop where
  mode : servo.device.byte addrOperatingMode = operatingModeVelocity
  goal : servo.device.word addrGoalVelocity = word ∨
    servo.device.word addrGoalVelocity = 0

variable {word : BitVec 32}

/-- Reading a servo's registers keeps it driven. -/
theorem Driven.read2 (driven : servo.Driven word) (address : Nat) :
    (servo.exchange world (.read2 address)).Driven word := by
  constructor
  · rw [exchange_device, Device.serve_read2_byte]
    exact driven.mode
  · rw [exchange_device, Device.serve_read2_word]
    exact driven.goal

theorem Driven.updated (driven : servo.Driven word) :
    (servo.updated world false).Driven word := by
  constructor
  · rw [updated_device, Device.serve_read4_byte]
    exact driven.mode
  · rw [updated_device, Device.serve_read4_word]
    exact driven.goal

/-- Nothing needs configuring in a driven servo. -/
theorem Driven.configured
    (succeed : world.AllSucceed)
    (driven : servo.Driven word) :
    servo.configured world .velocityControlMode =
      servo.exchange world (.read1 addrOperatingMode) := by
  have reported : servo.reportedMode world = .velocityControlMode := by
    unfold reportedMode
    rw [if_pos (succeed _ _), driven.mode]
    rfl
  exact servo.configured_of_reported world reported

/-- A goal velocity written to a servo that is configured for it. -/
theorem driven_written
    (succeed : world.AllSucceed)
    (servo : DynamixelServo)
    {data : BitVec 32}
    (goal : data = word ∨ data = 0) :
    ((servo.configured world .velocityControlMode).exchange world
      (.write4 addrGoalVelocity data)).Driven word := by
  constructor
  · rw [exchange_device, Device.serve_write4_byte]
    exact servo.configured_operatingMode world succeed (by simp [wheelModes])
  · rw [exchange_device, Device.serve_write4_word, if_pos (succeed _ _),
      Function.update_self]
    exact goal

/-- Writing another goal velocity to a driven servo keeps its lead. -/
theorem Driven.lead_written
    (succeed : world.AllSucceed)
    (driven : servo.Driven word)
    (data : BitVec 32) :
    ((servo.configured world .velocityControlMode).exchange world
      (.write4 addrGoalVelocity data)).lead = servo.lead := by
  rw [lead_exchange (by simp) (by simp), driven.configured succeed,
    lead_exchange (by simp) (by simp)]

end DynamixelServo

/-! ## Directions -/

/-- A goal velocity that does not point against a direction does not turn the
wheel against it. -/
theorem mul_nonneg_of_sign_eq
    {direction goal motion : Int}
    (sense : 0 ≤ direction * goal)
    (same : motion.sign = goal.sign) :
    0 ≤ direction * motion := by
  rcases lt_trichotomy goal 0 with back | still | ahead
  · rw [Int.sign_eq_neg_one_of_neg back, Int.sign_eq_neg_one_iff_neg] at same
    have opposed : direction ≤ 0 := nonpos_of_mul_nonneg_left sense back
    exact mul_nonneg_of_nonpos_of_nonpos opposed same.le
  · rw [still, Int.sign_zero, Int.sign_eq_zero_iff_zero] at same
    rw [same, mul_zero]
  · rw [Int.sign_eq_one_of_pos ahead, Int.sign_eq_one_iff_pos] at same
    exact mul_nonneg (nonneg_of_mul_nonneg_left sense ahead) same.le

/-- The direction of a command, all of whose speeds have one sign. -/
inductive Heading
  | forward
  | backward
  deriving DecidableEq

namespace Heading

def sign : Heading → Int
  | forward => 1
  | backward => -1

/-- A speed in the direction. -/
def Asks (heading : Heading) (rpm : R) : Prop :=
  match heading with
  | forward => 0 < rpm
  | backward => rpm < 0

/-- Two totals in their order: no decrease going forward, no increase going
backward. -/
def Allows (heading : Heading) (earlier later : Int) : Prop :=
  match heading with
  | forward => earlier ≤ later
  | backward => later ≤ earlier

instance (heading : Heading) (earlier later : Int) :
    Decidable (heading.Allows earlier later) :=
  match heading with
  | forward => inferInstanceAs (Decidable (earlier ≤ later))
  | backward => inferInstanceAs (Decidable (later ≤ earlier))

/-- The opposite direction. -/
def reverse : Heading → Heading
  | forward => backward
  | backward => forward

@[simp] theorem sign_reverse (heading : Heading) :
    heading.reverse.sign = -heading.sign := by
  cases heading <;> rfl

theorem allows_iff (heading : Heading) (earlier later : Int) :
    heading.Allows earlier later ↔
      heading.sign * earlier ≤ heading.sign * later := by
  cases heading
  · simp [Allows, sign]
  · simp [Allows, sign]

end Heading

section

variable [IsStrictOrderedRing R]

omit [FloorRing R] in
theorem Heading.Asks.reversed
    {heading : Heading}
    {rpm : R}
    (asks : heading.Asks rpm) :
    heading.reverse.Asks (-rpm) := by
  cases heading with
  | forward => exact neg_lt_zero.mpr asks
  | backward => exact neg_pos.mpr asks

/-- The word for a speed points the way of the speed, if the register can hold
its ticks. -/
theorem bulkWord_along
    (cast : FloatCast R)
    {heading : Heading}
    {rpm : R}
    (asks : heading.Asks rpm)
    (holds : |velocityTicks rpm| < ((2 ^ 31 : Int) : R)) :
    0 ≤ heading.sign * (bulkWord cast rpm).toInt := by
  obtain ⟨lower, upper⟩ := abs_lt.mp holds
  have fits : Fits 32 (truncate (velocityTicks rpm)) := by
    constructor
    · rw [le_truncate_iff, if_neg (by norm_num)]
      push_cast at lower ⊢
      linarith
    · rw [← Int.le_sub_one_iff, truncate_le_iff, if_neg (by norm_num)]
      push_cast at upper ⊢
      linarith
  have scale : (0 : R) < 1.0 / 0.229 := by norm_num
  rw [bulkWord_toInt cast fits]
  cases heading with
  | forward =>
      have ticks : 0 ≤ velocityTicks rpm := (mul_pos asks scale).le
      rw [Heading.sign, one_mul, truncate, if_pos ticks]
      exact Int.floor_nonneg.mpr ticks
  | backward =>
      have ticks : velocityTicks rpm < 0 := mul_neg_of_neg_of_pos asks scale
      rw [Heading.sign, truncate, if_neg (not_le.mpr ticks), neg_one_mul,
        Left.nonneg_neg_iff]
      exact Int.ceil_nonpos.mpr ticks.le

end

namespace DynamixelComms

/-! ## Travel under a command -/

/-- True angle of a side's front wheel, in encoder counts. -/
def angle (motor : MotorInstance) (comms : DynamixelComms) : Int :=
  (comms.servo (front motor)).device.wheelAngle

/-- The operation gives the wheels no command but this one, and reboots no
front servo.  The deadman's switch may stop the wheels. -/
def Continues (issued : Command R) : Operation R → Prop
  | .turn (.command again) => again = issued
  | .turn .iteration => True
  | .reboot _ servo => ∀ motor, rebooted servo ≠ front motor
  | _ => True

/-- Where the operation turns a side's front wheel, it turns it the way of the
goal velocity in the servo's register. -/
def Follows (bus : Bus R) (motor : MotorInstance) (comms : DynamixelComms)
    (operation : Operation R) : Prop :=
  ∀ next, operate bus comms operation = some next →
    next.angle motor ≠ comms.angle motor →
      (next.angle motor - comms.angle motor).sign =
        (comms.goalVelocity (front motor)).sign

/-- An operation of a travel under a command, as a side's front servo sees
it. -/
structure Travels (bus : Bus R) (issued : Command R) (motor : MotorInstance)
    (comms : DynamixelComms) (operation : Operation R) : Prop where
  continues : Continues issued operation
  follows : Follows bus motor comms operation
  counts : operation = .getTotalEncoderCount motor →
    (comms.servo (front motor)).CountsExactly (bus.world (front motor))

/-- What a call of `GetTotalEncoderCount` for a side returns, with the object
that it leaves. -/
def countOf (bus : Bus R) (motor : MotorInstance) (comms : DynamixelComms) :
    Operation R → Option (Int × DynamixelComms)
  | .getTotalEncoderCount asked =>
      if asked = motor then getTotalEncoderCount bus motor comms else none
  | _ => none

/-- What the calls for a side return in a travel. -/
def counts (bus : Bus R) (motor : MotorInstance) (comms : DynamixelComms)
    (travel : List (Operation R)) : List (Int × DynamixelComms) :=
  (operations bus).seen (countOf bus motor) comms travel

/-- The side's front wheel has the same angle in all of its counts. -/
def Stands (bus : Bus R) (motor : MotorInstance) (comms : DynamixelComms)
    (travel : List (Operation R)) : Prop :=
  (counts bus motor comms travel).Pairwise fun earlier later =>
    later.2.angle motor = earlier.2.angle motor

/-- The word that a bulk command sends to a side's front servo. -/
def frontWord (cast : FloatCast R) (frontLeft frontRight : R) :
    MotorInstance → BitVec 32
  | .motorLeft => bulkWord cast frontLeft
  | .motorRight => bulkWord cast (-frontRight)

variable {bus : Bus R}

/-- A bulk command drives the front servos with its words. -/
theorem setAllRPM_front
    (bus : Bus R)
    (comms : DynamixelComms)
    (frontLeft frontRight rearLeft rearRight : R)
    (motor : MotorInstance) :
    (comms.taken bus (.command (.setAllRPM frontLeft frontRight rearLeft
      rearRight))).servo (front motor) =
      ((comms.servo (front motor)).configured (bus.world (front motor))
        .velocityControlMode).exchange (bus.world (front motor))
          (.write4 addrGoalVelocity
            (frontWord bus.cast frontLeft frontRight motor)) := by
  have value :
      ∃ bytes : Bytes,
        velocityData bus frontLeft frontRight rearLeft rearRight
            (front motor) = some bytes ∧
          bytes.register =
            frontWord bus.cast frontLeft frontRight motor := by
    cases motor <;> exact ⟨_, rfl, rfl⟩
  obtain ⟨bytes, value, same⟩ := value
  simp only [taken]
  rw [written_servo _ _ _ value, configuredAll_servo _ _ _
    (front_mem_wheels motor), same]

/-- What is seen of an operation, and what it leaves. -/
theorem countOf_eq_some
    {motor : MotorInstance}
    {comms : DynamixelComms}
    {operation : Operation R}
    {outcome : Int × DynamixelComms}
    (counted : countOf bus motor comms operation = some outcome) :
    operation = .getTotalEncoderCount motor ∧
      getTotalEncoderCount bus motor comms = some outcome := by
  unfold countOf at counted
  split at counted
  next asked =>
    split at counted
    next here => exact ⟨congrArg _ here, counted⟩
    next => cases counted
  next => cases counted

/-- A total is the lead and the angle of the side's front wheel. -/
theorem getTotalEncoderCount_lead
    (succeed : bus.AllSucceed)
    {motor : MotorInstance}
    {comms : DynamixelComms}
    (exactly :
      (comms.servo (front motor)).CountsExactly (bus.world (front motor)))
    {outcome : Int × DynamixelComms}
    (counted : getTotalEncoderCount bus motor comms = some outcome) :
    outcome.1 =
      (comms.servo (front motor)).lead + outcome.2.angle motor := by
  obtain ⟨total, servo⟩ := getTotalEncoderCount_updated counted
  unfold angle
  rw [total, servo]
  exact DynamixelServo.total_eq_lead (succeed (front motor)) exactly

/-- What holds of a side throughout a travel. -/
structure Rolling (motor : MotorInstance) (word : BitVec 32) (lead : Int)
    (comms : DynamixelComms) : Prop where
  resting : comms.Resting
  driven : (comms.servo (front motor)).Driven word
  lead_eq : (comms.servo (front motor)).lead = lead

/-- The command itself begins it. -/
theorem rolling_begin
    (succeed : bus.AllSucceed)
    {comms begun : DynamixelComms}
    (resting : comms.Resting)
    {frontLeft frontRight rearLeft rearRight : R}
    (begins : operate bus comms (.turn (.command
      (.setAllRPM frontLeft frontRight rearLeft rearRight))) = some begun)
    (motor : MotorInstance) :
    Rolling motor (frontWord bus.cast frontLeft frontRight motor)
      (begun.servo (front motor)).lead begun := by
  refine ⟨resting.operate begins, ?_, rfl⟩
  obtain rfl := (operate_turn resting).mp begins
  rw [setAllRPM_front]
  exact DynamixelServo.driven_written (succeed (front motor)) _ (.inl rfl)

/-- An operation of a travel that is no turn keeps a front servo driven, and
its lead. -/
theorem driven_upkeep
    (succeed : bus.AllSucceed)
    {comms next : DynamixelComms}
    {motor : MotorInstance}
    {word : BitVec 32}
    (driven : (comms.servo (front motor)).Driven word)
    {issued : Command R}
    {operation : Operation R}
    (upkeep : Upkeep operation)
    (travels : Travels bus issued motor comms operation)
    (operated : operate bus comms operation = some next) :
    (next.servo (front motor)).Driven word ∧
      (next.servo (front motor)).lead =
        (comms.servo (front motor)).lead := by
  obtain ⟨-, servos⟩ := operate_upkeep upkeep operated
  rw [servos _ (front_mem_wheels motor)]
  cases operation with
  | turn turn => exact absurd rfl (upkeep turn)
  | getHardwareStatus => exact ⟨driven, rfl⟩
  | setServoPosition servo angleDegrees => exact ⟨driven, rfl⟩
  | getVoltage servo =>
      simp only [upkept]
      split
      · exact ⟨driven.read2 _,
          DynamixelServo.lead_exchange (by simp) (by simp)⟩
      · exact ⟨driven, rfl⟩
  | getTotalEncoderCount asked =>
      simp only [upkept]
      split
      next here =>
        obtain rfl := front_injective here
        exact ⟨driven.updated,
          DynamixelServo.lead_updated (succeed (front motor))
            (travels.counts rfl)⟩
      next => exact ⟨driven, rfl⟩
  | reboot polls servo =>
      have same :
          upkept bus comms (front motor) (.reboot polls servo) =
            comms.servo (front motor) :=
        if_neg (travels.continues motor).symm
      rw [same]
      exact ⟨driven, rfl⟩

section

variable [IsStrictOrderedRing R]

/-- So does a turn: the command once more, or a stop. -/
theorem driven_taken
    (succeed : bus.AllSucceed)
    {comms : DynamixelComms}
    {frontLeft frontRight rearLeft rearRight : R}
    {motor : MotorInstance}
    (driven : (comms.servo (front motor)).Driven
      (frontWord bus.cast frontLeft frontRight motor))
    {turn : Turn R}
    (continues : Continues
      (.setAllRPM frontLeft frontRight rearLeft rearRight) (.turn turn)) :
    ((comms.taken bus turn).servo (front motor)).Driven
        (frontWord bus.cast frontLeft frontRight motor) ∧
      ((comms.taken bus turn).servo (front motor)).lead =
        (comms.servo (front motor)).lead := by
  have succeedHere := succeed (front motor)
  cases turn with
  | command issued =>
      obtain rfl : issued = _ := continues
      rw [setAllRPM_front]
      exact ⟨DynamixelServo.driven_written succeedHere _ (.inl rfl),
        driven.lead_written succeedHere _⟩
  | iteration =>
      unfold taken
      split_ifs
      · dsimp only
        rw [stopped_servo _ _ (front_mem_wheels motor), effect_setRPM,
          DynamixelServo.goalVelocity_zero]
        exact ⟨DynamixelServo.driven_written succeedHere _ (.inr rfl),
          driven.lead_written succeedHere _⟩
      · exact ⟨driven, rfl⟩
      · exact ⟨driven, rfl⟩

/-- The operations of a travel keep what holds of a side. -/
theorem rolling_operate
    (succeed : bus.AllSucceed)
    {frontLeft frontRight rearLeft rearRight : R}
    {motor : MotorInstance}
    {lead : Int}
    {comms next : DynamixelComms}
    {operation : Operation R}
    (rolling : Rolling motor (frontWord bus.cast frontLeft frontRight motor)
      lead comms)
    (travels : Travels bus
      (.setAllRPM frontLeft frontRight rearLeft rearRight) motor comms
      operation)
    (operated : operate bus comms operation = some next) :
    Rolling motor (frontWord bus.cast frontLeft frontRight motor) lead
      next := by
  have kept :
      (next.servo (front motor)).Driven
          (frontWord bus.cast frontLeft frontRight motor) ∧
        (next.servo (front motor)).lead =
          (comms.servo (front motor)).lead := by
    by_cases upkeep : Upkeep operation
    · exact driven_upkeep succeed rolling.driven upkeep travels operated
    · obtain ⟨turn, rfl⟩ := not_forall_not.mp upkeep
      obtain rfl := (operate_turn rolling.resting).mp operated
      exact driven_taken succeed rolling.driven travels.continues
  exact ⟨rolling.resting.operate operated, kept.1,
    kept.2.trans rolling.lead_eq⟩

omit [IsStrictOrderedRing R] in
/-- In a direction that its goal velocity does not point against, a front wheel
does not go back. -/
theorem angle_operate
    {direction : Int}
    {motor : MotorInstance}
    {word : BitVec 32}
    (sense : 0 ≤ direction * word.toInt)
    {lead : Int}
    {comms next : DynamixelComms}
    {issued : Command R}
    {operation : Operation R}
    (rolling : Rolling motor word lead comms)
    (travels : Travels bus issued motor comms operation)
    (operated : operate bus comms operation = some next) :
    direction * comms.angle motor ≤ direction * next.angle motor := by
  by_cases still : next.angle motor = comms.angle motor
  · rw [still]
  · have turned := travels.follows next operated still
    have goal : 0 ≤ direction * comms.goalVelocity (front motor) := by
      unfold goalVelocity
      rcases rolling.driven.goal with sent | stopped
      · rw [sent]
        exact sense
      · have still : direction * BitVec.toInt (0 : BitVec 32) = 0 :=
          mul_zero direction
        rw [stopped, still]
    have ahead := mul_nonneg_of_sign_eq goal turned
    rw [mul_sub] at ahead
    exact sub_nonneg.mp ahead

/-! ## Both sides -/

section Travel

variable
  {comms begun : DynamixelComms}
  {frontLeft frontRight rearLeft rearRight : R}
  {travel : List (Operation R)}
  {motor : MotorInstance}

section Side

variable
  (succeed : bus.AllSucceed)
  (resting : comms.Resting)
  (begins : operate bus comms (.turn (.command
    (.setAllRPM frontLeft frontRight rearLeft rearRight))) = some begun)
  (travels : (operations bus).Along
    (Travels bus (.setAllRPM frontLeft frontRight rearLeft rearRight) motor)
    begun travel)

include succeed resting begins travels

/-- The totals of a side are ahead of the wheel's angle by one number. -/
theorem counts_lead :
    ∀ outcome ∈ counts bus motor begun travel,
      outcome.1 =
        (begun.servo (front motor)).lead + outcome.2.angle motor := by
  refine Machine.forall_seen _
    (Rolling motor (frontWord bus.cast frontLeft frontRight motor)
      (begun.servo (front motor)).lead)
    (rolling_operate succeed) (fun rolling travels counted => ?_)
    (rolling_begin succeed resting begins motor) travels
  obtain ⟨asked, counted⟩ := countOf_eq_some counted
  rw [getTotalEncoderCount_lead succeed (travels.counts asked) counted,
    rolling.lead_eq]

/-- Nor does it go back from one count to a later one. -/
theorem counts_direction
    {direction : Int}
    (sense : 0 ≤ direction *
      (frontWord bus.cast frontLeft frontRight motor).toInt) :
    (counts bus motor begun travel).Pairwise fun earlier later =>
      direction * earlier.2.angle motor ≤
        direction * later.2.angle motor := by
  refine Machine.pairwise_seen _
    (Rolling motor (frontWord bus.cast frontLeft frontRight motor)
      (begun.servo (front motor)).lead)
    (fun state => direction * state.angle motor)
    (rolling_operate succeed) (angle_operate sense) (fun counted => ?_)
    (rolling_begin succeed resting begins motor) travels
  obtain ⟨rfl, returned⟩ := countOf_eq_some counted
  exact ⟨_, Option.map_eq_some_iff.mpr ⟨_, returned, rfl⟩, rfl⟩

/-- If the side's goal velocity does not point against the heading, its totals
count the way of the heading. -/
theorem totals_along
    {heading : Heading}
    (sense : 0 ≤ heading.sign *
      (frontWord bus.cast frontLeft frontRight motor).toInt) :
    (counts bus motor begun travel).Pairwise fun earlier later =>
      heading.Allows earlier.1 later.1 := by
  have totals := counts_lead succeed resting begins travels
  have turned := counts_direction succeed resting begins travels sense
  refine turned.imp_of_mem fun earlier later angles => ?_
  rw [heading.allows_iff, totals _ earlier, totals _ later, mul_add, mul_add]
  exact add_le_add_right angles _

/-- If it does not point along the heading, they do so exactly when the side's
front wheel has the same angle in all counts. -/
theorem totals_against_iff
    {heading : Heading}
    (sense : 0 ≤ -heading.sign *
      (frontWord bus.cast frontLeft frontRight motor).toInt) :
    ((counts bus motor begun travel).Pairwise fun earlier later =>
      heading.Allows earlier.1 later.1) ↔ Stands bus motor begun travel := by
  have totals := counts_lead succeed resting begins travels
  have turned := counts_direction succeed resting begins travels sense
  have unit : heading.sign ≠ 0 := by
    cases heading <;> decide
  constructor
  · intro allowed
    refine (allowed.and turned).imp_of_mem fun earlier later both => ?_
    obtain ⟨allowed, turned⟩ := both
    rw [heading.allows_iff, totals _ earlier, totals _ later] at allowed
    apply mul_left_cancel₀ unit
    linarith
  · intro stands
    refine stands.imp_of_mem fun earlier later same => ?_
    rw [heading.allows_iff, totals _ earlier, totals _ later, same]

/-- A side's totals count the way of the heading exactly when its goal velocity
does not point against the heading, or its front wheel stands. -/
theorem totals_allowed_iff (heading : Heading) :
    ((counts bus motor begun travel).Pairwise fun earlier later =>
      heading.Allows earlier.1 later.1) ↔
      0 ≤ heading.sign *
          (frontWord bus.cast frontLeft frontRight motor).toInt ∨
        Stands bus motor begun travel := by
  rcases le_total 0 (heading.sign *
    (frontWord bus.cast frontLeft frontRight motor).toInt) with along | against
  · exact iff_of_true (totals_along succeed resting begins travels along)
      (.inl along)
  · rw [← Left.nonneg_neg_iff, ← neg_mul] at against
    have exactly :=
      totals_against_iff succeed resting begins travels against
    refine ⟨fun allowed => .inr (exactly.mp allowed), ?_⟩
    rintro (along | stands)
    · exact totals_along succeed resting begins travels along
    · exact exactly.mpr stands

end Side

/-- In every travel under a bulk command, the totals of both sides count the
way of the heading exactly when, on each side, the goal velocity does not point
against the heading or the front wheel stands.  For speeds whose ticks the
register can hold, the left totals always do, and the right totals exactly when
the right front wheel stands. -/
theorem totals_follow_heading_iff
    (succeed : bus.AllSucceed)
    (resting : comms.Resting)
    {heading : Heading}
    (asks : ∀ rpm ∈ [frontLeft, frontRight, rearLeft, rearRight],
      heading.Asks rpm)
    (begins : operate bus comms (.turn (.command
      (.setAllRPM frontLeft frontRight rearLeft rearRight))) = some begun)
    (travels : ∀ motor, (operations bus).Along
      (Travels bus (.setAllRPM frontLeft frontRight rearLeft rearRight) motor)
      begun travel) :
    ((∀ motor, (counts bus motor begun travel).Pairwise fun earlier later =>
        heading.Allows earlier.1 later.1) ↔
      ∀ motor,
        0 ≤ heading.sign *
            (frontWord bus.cast frontLeft frontRight motor).toInt ∨
          Stands bus motor begun travel) ∧
    (|velocityTicks frontLeft| < ((2 ^ 31 : Int) : R) →
      |velocityTicks frontRight| < ((2 ^ 31 : Int) : R) →
      ((counts bus .motorLeft begun travel).Pairwise fun earlier later =>
        heading.Allows earlier.1 later.1) ∧
      (((counts bus .motorRight begun travel).Pairwise fun earlier later =>
          heading.Allows earlier.1 later.1) ↔
        Stands bus .motorRight begun travel)) := by
  refine ⟨forall_congr' fun motor => ?_, fun left right => ⟨?_, ?_⟩⟩
  · exact totals_allowed_iff succeed resting begins (travels motor) heading
  · apply totals_along succeed resting begins (travels .motorLeft)
    exact bulkWord_along bus.cast (asks frontLeft (by simp)) left
  · apply totals_against_iff succeed resting begins (travels .motorRight)
    have reversed :=
      bulkWord_along bus.cast (asks frontRight (by simp)).reversed
        (by rwa [velocityTicks_neg, abs_neg])
    rwa [Heading.sign_reverse] at reversed

end Travel

end

/-- A count is an operation of a travel, if it is exact and the wheel turns
the way of its goal velocity before it. -/
theorem travels_count
    {issued : Command R}
    {motor asked : MotorInstance}
    {comms : DynamixelComms}
    (turned : asked = motor →
      (bus.world (front motor)).motion
          (comms.servo (front motor)).device.packets ≠ 0 →
        ((bus.world (front motor)).motion
            (comms.servo (front motor)).device.packets).sign =
          (comms.goalVelocity (front motor)).sign)
    (exactly : asked = motor →
      (comms.servo (front motor)).CountsExactly (bus.world (front motor))) :
    Travels bus issued motor comms (.getTotalEncoderCount asked) := by
  refine ⟨trivial, fun next operated moved => ?_, fun same => ?_⟩
  · obtain ⟨-, servos⟩ := operate_upkeep (by simp [Upkeep]) operated
    have servo := servos _ (front_mem_wheels motor)
    simp only [upkept] at servo
    unfold angle at moved ⊢
    split at servo
    next here =>
      rw [servo, DynamixelServo.updated_device,
        Device.serve_wheelAngle] at moved ⊢
      rw [add_sub_cancel_left]
      exact turned (front_injective here).symm (by simpa using moved)
    next => exact absurd (by rw [servo]) moved
  · cases same
    exact exactly rfl

/-! ## A forward command -/

/-- A bus on which the front wheels turn before packet 11. -/
def rolling (left right : Int) : Bus ℚ where
  world member :=
    { World.calm ℚ with
      motion := fun now =>
        if now = 11 then
          match member with
          | .motorFrontLeft => left
          | .motorFrontRight => right
          | _ => 0
        else 0 }
  cast := FloatCast.wrapping ℚ

theorem rolling_allSucceed (left right : Int) :
    (rolling left right).AllSucceed := by
  intro member packet request
  rfl

/-- The object after a command to drive at 20 rpm. -/
def driving (left right : Int) : DynamixelComms :=
  started.taken (rolling left right) (.command (.setAllRPM 20 20 20 20))

theorem driving_begins (left right : Int) :
    operate (rolling left right) started
        (.turn (.command (.setAllRPM 20 20 20 20))) =
      some (driving left right) :=
  (operate_turn started_initialised.resting).mpr rfl

/-- Two counts of each side. -/
def twoCounts : List (Operation ℚ) :=
  [.getTotalEncoderCount .motorLeft, .getTotalEncoderCount .motorRight,
    .getTotalEncoderCount .motorLeft, .getTotalEncoderCount .motorRight]

theorem rolling_travels
    {right : Int}
    (chosen : right = -100 ∨ right = 0)
    (motor : MotorInstance) :
    (operations (rolling 100 right)).Along
      (Travels (rolling 100 right) (.setAllRPM 20 20 20 20) motor)
      (driving 100 right) twoCounts := by
  rcases chosen with rfl | rfl <;> cases motor
  all_goals
    refine ⟨travels_count (by decide +kernel) (by decide +kernel), ?_⟩
    rintro _ ⟨⟩
    refine ⟨travels_count (by decide +kernel) (by decide +kernel), ?_⟩
    rintro _ ⟨⟩
    refine ⟨travels_count (by decide +kernel) (by decide +kernel), ?_⟩
    rintro _ ⟨⟩
    exact ⟨travels_count (by decide +kernel) (by decide +kernel),
      fun _ _ => trivial⟩

/-- Driving forward, the right front wheel turns by negative counts, and the
right total decreases. -/
theorem right_total_decreases :
    ¬∀ (bus : Bus ℚ) (comms begun : DynamixelComms) (heading : Heading)
        (frontLeft frontRight rearLeft rearRight : ℚ)
        (travel : List (Operation ℚ)),
      bus.AllSucceed → comms.Initialised ℚ →
        (∀ rpm ∈ [frontLeft, frontRight, rearLeft, rearRight],
          heading.Asks rpm) →
        operate bus comms (.turn (.command
          (.setAllRPM frontLeft frontRight rearLeft rearRight))) =
            some begun →
        (∀ motor, (operations bus).Along
          (Travels bus (.setAllRPM frontLeft frontRight rearLeft rearRight)
            motor) begun travel) →
          ∀ motor, (counts bus motor begun travel).Pairwise
            fun earlier later => heading.Allows earlier.1 later.1 := by
  intro always
  have allowed :=
    always (rolling 100 (-100)) started (driving 100 (-100)) .forward
      20 20 20 20 twoCounts (rolling_allSucceed 100 (-100))
      started_initialised (by simp [Heading.Asks])
      (driving_begins 100 (-100)) (rolling_travels (.inl rfl)) .motorRight
  have totals := (List.pairwise_cons.mp allowed).1 _ (List.mem_singleton_self _)
  exact absurd totals (by decide +kernel)

/-- The same travel with the right front wheel held. -/
theorem totals_follow_heading_held :
    ((∀ motor, (counts (rolling 100 0) motor (driving 100 0)
          twoCounts).Pairwise
        fun earlier later => Heading.forward.Allows earlier.1 later.1) ↔
      ∀ motor,
        0 ≤ Heading.forward.sign *
            (frontWord (rolling 100 0).cast 20 20 motor).toInt ∨
          Stands (rolling 100 0) motor (driving 100 0) twoCounts) ∧
    ((counts (rolling 100 0) .motorLeft (driving 100 0) twoCounts).Pairwise
        fun earlier later => Heading.forward.Allows earlier.1 later.1) ∧
      (((counts (rolling 100 0) .motorRight (driving 100 0)
          twoCounts).Pairwise
        fun earlier later => Heading.forward.Allows earlier.1 later.1) ↔
        Stands (rolling 100 0) .motorRight (driving 100 0) twoCounts) := by
  have asks : ∀ rpm ∈ [(20 : ℚ), 20, 20, 20], Heading.forward.Asks rpm := by
    simp [Heading.Asks]
  have settled :=
    totals_follow_heading_iff (rolling_allSucceed 100 0)
      started_initialised.resting asks (driving_begins 100 0)
      (rolling_travels (.inr rfl))
  exact ⟨settled.1, settled.2 (by decide +kernel) (by decide +kernel)⟩

end DynamixelComms
end Skatebot
