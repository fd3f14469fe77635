import Skatebot.Driver.Comms
import Skatebot.Messages

/-!
# `MultipleWheelDriveNode`

The node that obeys the `all_motors` topic.  It takes one mode for all motors
of a message, spreads their values over the four wheels, and calls one of the
bulk functions.
-/

namespace Skatebot

open Library

variable {R : Type} [Field R] [LinearOrder R] [FloorRing R]

/-- A call of a bulk function, with the numbers that it is handed. -/
inductive BulkCall (R : Type)
  | setAllRPM
      (frontLeftRPM frontRightRPM rearLeftRPM rearRightRPM : Double R)
  | setAllRelativePosition
      (frontLeftAngle frontRightAngle rearLeftAngle rearRightAngle : Double R)
  deriving DecidableEq

/-- The command of a call whose numbers are all finite. -/
def BulkCall.command : BulkCall R → Option (DynamixelComms.Command R)
  | .setAllRPM (some frontLeft) (some frontRight) (some rearLeft)
      (some rearRight) =>
      some (.setAllRPM frontLeft frontRight rearLeft rearRight)
  | .setAllRelativePosition (some frontLeft) (some frontRight) (some rearLeft)
      (some rearRight) =>
      some (.setAllRelativePosition frontLeft frontRight rearLeft rearRight)
  | _ => none

namespace MultipleWheelDriveNode

/-! ## The callback -/

/-- The loop of `MultipleWheelDriveNode::Callback` over the motors' modes;
`none` where it returns from the callback. -/
def commonMode (mode : Int) : List (MotorControl R) → Option Int
  | [] => some mode
  | motor :: motors =>
      if motor.mode = MotorControl.modeRelative ∨
          motor.mode = MotorControl.modeSpeed ∨
          motor.mode = MotorControl.modeRadiansSecond then
        if mode = -1 then commonMode motor.mode motors
        else if mode ≠ motor.mode then none
        else commonMode mode motors
      else commonMode mode motors

/-- The local variables of the functions that spread a message. -/
structure WheelValues (R : Type) where
  frontLeft : Double R
  frontRight : Double R
  rearLeft : Double R
  rearRight : Double R
  deriving DecidableEq

/-- The `switch` over a motor's id, which its three copies share. -/
def WheelValues.assign (values : WheelValues R) (id : Int)
    (value : Double R) : WheelValues R :=
  if id = MotorControl.left then
    { values with frontLeft := value, rearLeft := value }
  else if id = MotorControl.right then
    { values with frontRight := value, rearRight := value }
  else if id = MotorControl.frontLeft then { values with frontLeft := value }
  else if id = MotorControl.frontRight then { values with frontRight := value }
  else if id = MotorControl.rearLeft then { values with rearLeft := value }
  else if id = MotorControl.rearRight then { values with rearRight := value }
  else values

/-- Spread a value of every motor over the wheels, the last motor of an id
counting. -/
def spread (value : MotorControl R → Double R)
    (motors : List (MotorControl R)) : WheelValues R :=
  motors.foldl
    (fun values motor => values.assign motor.id (value motor))
    { frontLeft := some 0, frontRight := some 0
      rearLeft := some 0, rearRight := some 0 }

/-- `MultipleWheelDriveNode::RadiansPerSecondToRPM`. -/
def radiansPerSecondToRPM (radiansS : R) : R := radiansS * 60.0 / (2.0 * pi)

/-- The speed of a motor in rpm. -/
def motorRPM (motor : MotorControl R) : Double R :=
  if motor.mode = MotorControl.modeSpeed then motor.rpm
  else motor.speedRadiansS.map radiansPerSecondToRPM

/-- `MultipleWheelDriveNode::SetAllMotorsSpeed`. -/
def setAllMotorsSpeed (motors : List (MotorControl R)) : BulkCall R :=
  let values := spread motorRPM motors
  .setAllRPM values.frontLeft values.frontRight values.rearLeft
    values.rearRight

/-- `MultipleWheelDriveNode::SetAllMotorsRelativePosition`. -/
def setAllMotorsRelativePosition (motors : List (MotorControl R)) :
    BulkCall R :=
  let values := spread MotorControl.angleRadians motors
  .setAllRelativePosition values.frontLeft values.frontRight values.rearLeft
    values.rearRight

/-- `MultipleWheelDriveNode::Callback`: the call that it makes, if any. -/
def callback (motors : List (MotorControl R)) : Option (BulkCall R) := do
  let mode ← commonMode (-1) motors
  if mode = MotorControl.modeRelative then
    some (setAllMotorsRelativePosition motors)
  else if mode = MotorControl.modeSpeed ∨
      mode = MotorControl.modeRadiansSecond then
    some (setAllMotorsSpeed motors)
  else none

/-! ## The common mode -/

/-- The modes that the node supports. -/
def Supported (mode : Int) : Prop :=
  mode = MotorControl.modeRelative ∨
    mode = MotorControl.modeSpeed ∨
    mode = MotorControl.modeRadiansSecond

instance (mode : Int) : Decidable (Supported mode) :=
  inferInstanceAs (Decidable (_ ∨ _))

/-- No supported mode stands for "not set". -/
theorem Supported.ne_unset
    {mode : Int}
    (supported : Supported mode) :
    mode ≠ -1 := by
  rcases supported with rfl | rfl | rfl <;> decide

/-- The motors whose modes are supported have no other mode than this. -/
def Consistent (mode : Int) (motors : List (MotorControl R)) : Prop :=
  ∀ motor ∈ motors, Supported motor.mode → motor.mode = mode

omit [Field R] [LinearOrder R] [FloorRing R] in
@[simp] theorem consistent_cons
    (mode : Int)
    (motor : MotorControl R)
    (motors : List (MotorControl R)) :
    Consistent mode (motor :: motors) ↔
      (Supported motor.mode → motor.mode = mode) ∧ Consistent mode motors :=
  List.forall_mem_cons

omit [Field R] [LinearOrder R] [FloorRing R] in
/-- One turn of the loop over the modes. -/
theorem commonMode_cons
    (mode : Int)
    (motor : MotorControl R)
    (motors : List (MotorControl R)) :
    commonMode mode (motor :: motors) =
      if Supported motor.mode then
        if mode = -1 then commonMode motor.mode motors
        else if mode ≠ motor.mode then none
        else commonMode mode motors
      else commonMode mode motors := rfl

omit [Field R] [LinearOrder R] [FloorRing R] in
/-- A mode that has been set stays, unless another supported one comes. -/
theorem commonMode_of_set
    {mode : Int}
    (supported : Supported mode)
    (motors : List (MotorControl R))
    (result : Int) :
    commonMode mode motors = some result ↔
      result = mode ∧ Consistent mode motors := by
  induction motors with
  | nil => simp [commonMode, Consistent, eq_comm]
  | cons motor motors inductionHypothesis =>
      rw [commonMode_cons, consistent_cons, if_neg supported.ne_unset]
      by_cases here : Supported motor.mode
      · by_cases same : mode = motor.mode
        · rw [if_pos here, if_neg (not_not.mpr same), inductionHypothesis]
          simp [same]
        · have other : motor.mode ≠ mode := fun equal => same equal.symm
          simp [here, same, other]
      · simp [here, inductionHypothesis]

omit [Field R] [LinearOrder R] [FloorRing R] in
/-- The loop finds the one supported mode that occurs, or that none does. -/
theorem commonMode_eq_some_iff
    (motors : List (MotorControl R))
    (result : Int) :
    commonMode (-1) motors = some result ↔
      result = -1 ∧ (∀ motor ∈ motors, ¬Supported motor.mode) ∨
        Supported result ∧ (∃ motor ∈ motors, motor.mode = result) ∧
          Consistent result motors := by
  induction motors with
  | nil => simp [commonMode, eq_comm]
  | cons motor motors inductionHypothesis =>
      simp only [commonMode_cons, if_true, List.forall_mem_cons,
        List.exists_mem_cons_iff, consistent_cons]
      by_cases here : Supported motor.mode
      · rw [if_pos here, commonMode_of_set here]
        constructor
        · rintro ⟨rfl, consistent⟩
          exact Or.inr ⟨here, Or.inl rfl, fun _ => rfl, consistent⟩
        · rintro (⟨-, unsupported, -⟩ | ⟨-, -, same, consistent⟩)
          · exact absurd here unsupported
          · obtain rfl := same here
            exact ⟨rfl, consistent⟩
      · rw [if_neg here, inductionHypothesis]
        have other : ∀ mode, Supported mode → motor.mode ≠ mode := by
          rintro mode supported rfl
          exact here supported
        simp only [here, not_false_eq_true, true_and, false_imp_iff]
        apply or_congr Iff.rfl
        apply and_congr_right
        intro supported
        simp [other result supported]

/-- Some motor has the supported mode, and no motor has another one. -/
def Governs (mode : Int) (motors : List (MotorControl R)) : Prop :=
  Supported mode ∧ (∃ motor ∈ motors, motor.mode = mode) ∧
    Consistent mode motors

/-- The call for a mode. -/
def callFor (mode : Int) (motors : List (MotorControl R)) : BulkCall R :=
  if mode = MotorControl.modeRelative then setAllMotorsRelativePosition motors
  else setAllMotorsSpeed motors

omit [LinearOrder R] [FloorRing R] in
/-- The node makes the call for the mode that governs the message. -/
theorem callback_eq_some_iff
    (motors : List (MotorControl R))
    (call : BulkCall R) :
    callback motors = some call ↔
      ∃ mode, Governs mode motors ∧ call = callFor mode motors := by
  simp only [callback, Option.bind_eq_bind, Option.bind_eq_some_iff,
    commonMode_eq_some_iff]
  apply exists_congr
  intro mode
  constructor
  · rintro ⟨⟨rfl, -⟩ | governs, called⟩
    · simp [MotorControl.modeRelative, MotorControl.modeSpeed,
        MotorControl.modeRadiansSecond] at called
    · refine ⟨governs, ?_⟩
      unfold callFor
      split at called
      next relative =>
        rw [if_pos relative]
        exact (Option.some.inj called).symm
      next other =>
        rw [if_pos (governs.1.resolve_left other)] at called
        rw [if_neg other]
        exact (Option.some.inj called).symm
  · rintro ⟨governs, rfl⟩
    refine ⟨Or.inr governs, ?_⟩
    unfold callFor
    split
    next => rfl
    next other => rw [if_pos (governs.1.resolve_left other)]

/-! ## Mixed modes -/

/-- The list is not empty, and all of its motors have one supported mode. -/
def Uniform (motors : List (MotorControl R)) : Prop :=
  ∃ mode, Supported mode ∧ motors ≠ [] ∧
    ∀ motor ∈ motors, motor.mode = mode

omit [LinearOrder R] [FloorRing R] in
/-- A message leads to a call only if its motors have one supported mode:
exactly when all of the modes are supported, or none is, or two supported
ones differ. -/
theorem callback_uniform_iff (motors : List (MotorControl R)) :
    ((callback motors).isSome = true → Uniform motors) ↔
      (∀ motor ∈ motors, Supported motor.mode) ∨
        (∀ motor ∈ motors, ¬Supported motor.mode) ∨
          ∃ first ∈ motors, ∃ second ∈ motors,
            Supported first.mode ∧ Supported second.mode ∧
              first.mode ≠ second.mode := by
  constructor
  · intro uniform
    by_contra mixed
    simp only [not_or, not_exists, not_and, not_forall, not_not] at mixed
    obtain ⟨⟨stray, strayMember, unsupported⟩,
      ⟨leader, leaderMember, supported⟩, alike⟩ := mixed
    have governs : Governs leader.mode motors := by
      refine ⟨supported, ⟨leader, leaderMember, rfl⟩, ?_⟩
      intro motor member here
      exact alike motor member leader leaderMember here supported
    have called : callback motors = some (callFor leader.mode motors) :=
      (callback_eq_some_iff _ _).mpr ⟨_, governs, rfl⟩
    obtain ⟨mode, common, -, every⟩ := uniform (by rw [called, Option.isSome_some])
    apply unsupported
    rw [every stray strayMember]
    exact common
  · intro clear called
    obtain ⟨call, called⟩ := Option.isSome_iff_exists.mp called
    obtain ⟨mode, ⟨supported, ⟨leader, member, rfl⟩, consistent⟩, -⟩ :=
      (callback_eq_some_iff _ _).mp called
    rcases clear with every | unsupported | ⟨first, firstMember, second,
      secondMember, firstSupported, secondSupported, different⟩
    · refine ⟨leader.mode, supported, List.ne_nil_of_mem member, ?_⟩
      intro motor member
      exact consistent motor member (every motor member)
    · exact absurd supported (unsupported leader member)
    · apply absurd different
      rw [consistent first firstMember firstSupported,
        consistent second secondMember secondSupported]
      exact not_not.mpr rfl

/-- The front left wheel is sent a speed, and the front right one an absolute
position, which the node takes for a speed of zero. -/
def speedAndPosition : List (MotorControl ℚ) :=
  [{ id := 2, mode := 2, angleRadians := some 0, rpm := some 20
     speedRadiansS := some 0 },
    { id := 3, mode := 0, angleRadians := some 1, rpm := some 0
      speedRadiansS := some 0 }]

theorem position_driven_as_speed :
    callback speedAndPosition =
        some (.setAllRPM (some 20) (some 0) (some 0) (some 0)) ∧
      ¬Uniform speedAndPosition := by
  refine ⟨by decide +kernel, ?_⟩
  rintro ⟨mode, -, -, every⟩
  simp only [speedAndPosition, List.forall_mem_cons] at every
  obtain ⟨first, second, -⟩ := every
  exact absurd (first.trans second.symm) (by decide)

/-! ## The values of the wheels -/

/-- The wheels of the robot. -/
inductive Wheel
  | frontLeft
  | frontRight
  | rearLeft
  | rearRight
  deriving DecidableEq

/-- The value for a wheel. -/
def WheelValues.of (values : WheelValues R) : Wheel → Double R
  | .frontLeft => values.frontLeft
  | .frontRight => values.frontRight
  | .rearLeft => values.rearLeft
  | .rearRight => values.rearRight

/-- A motor id stands for the wheel, or for the side that it is on. -/
def Addresses (id : Int) : Wheel → Prop
  | .frontLeft => id = MotorControl.left ∨ id = MotorControl.frontLeft
  | .frontRight => id = MotorControl.right ∨ id = MotorControl.frontRight
  | .rearLeft => id = MotorControl.left ∨ id = MotorControl.rearLeft
  | .rearRight => id = MotorControl.right ∨ id = MotorControl.rearRight

instance (id : Int) (wheel : Wheel) : Decidable (Addresses id wheel) := by
  cases wheel <;> exact inferInstanceAs (Decidable (_ ∨ _))

/-- The value of the last motor that addresses a wheel, and zero where there is
none. -/
def lastValue (value : MotorControl R → Double R)
    (motors : List (MotorControl R)) (wheel : Wheel) : Double R :=
  ((motors.filter fun motor => Addresses motor.id wheel).getLast?.map
    value).getD (some 0)

omit [Field R] [LinearOrder R] [FloorRing R] in
/-- The `switch` gives the value to the wheels that the id addresses. -/
@[simp] theorem assign_of
    (values : WheelValues R)
    (id : Int)
    (value : Double R)
    (wheel : Wheel) :
    (values.assign id value).of wheel =
      if Addresses id wheel then value else values.of wheel := by
  simp only [WheelValues.assign,
    apply_ite (fun values : WheelValues R => values.of wheel)]
  cases wheel <;>
    simp only [WheelValues.of, Addresses, MotorControl.left,
      MotorControl.right, MotorControl.frontLeft, MotorControl.frontRight,
      MotorControl.rearLeft, MotorControl.rearRight] <;>
    grind

omit [LinearOrder R] [FloorRing R] in
/-- A wheel gets the value of the last motor that addresses it. -/
theorem spread_of
    (value : MotorControl R → Double R)
    (motors : List (MotorControl R))
    (wheel : Wheel) :
    (spread value motors).of wheel = lastValue value motors wheel := by
  induction motors using List.reverseRecOn with
  | nil => cases wheel <;> rfl
  | append_singleton motors motor inductionHypothesis =>
      unfold spread lastValue at inductionHypothesis ⊢
      rw [List.foldl_append, List.foldl_cons, List.foldl_nil, assign_of,
        inductionHypothesis, List.filter_append]
      by_cases addressed : Addresses motor.id wheel
      · simp [addressed]
      · simp [addressed]

/-- The value that a motor commands in a mode. -/
def commanded (mode : Int) (motor : MotorControl R) : Double R :=
  if mode = MotorControl.modeRelative then motor.angleRadians
  else if mode = MotorControl.modeSpeed then motor.rpm
  else motor.speedRadiansS.map radiansPerSecondToRPM

/-- The bulk call for a mode, with a value for each wheel. -/
def bulkCall (mode : Int) (values : Wheel → Double R) : BulkCall R :=
  if mode = MotorControl.modeRelative then
    .setAllRelativePosition (values .frontLeft) (values .frontRight)
      (values .rearLeft) (values .rearRight)
  else
    .setAllRPM (values .frontLeft) (values .frontRight) (values .rearLeft)
      (values .rearRight)

/-- The motor with its speed in rpm. -/
def inRPM (motor : MotorControl R) : MotorControl R :=
  { motor with
    mode := MotorControl.modeSpeed
    rpm := motor.speedRadiansS.map radiansPerSecondToRPM }

omit [LinearOrder R] [FloorRing R] in
/-- Only the values of the list's own motors count. -/
theorem lastValue_congr
    {value other : MotorControl R → Double R}
    {motors : List (MotorControl R)}
    (agree : ∀ motor ∈ motors, value motor = other motor)
    (wheel : Wheel) :
    lastValue value motors wheel = lastValue other motors wheel := by
  unfold lastValue
  congr 1
  apply Option.map_congr
  intro motor last
  apply agree
  exact List.mem_of_mem_filter (List.mem_of_getLast? last)

omit [LinearOrder R] [FloorRing R] in
/-- A list of one mode leads to the call with the values of that mode. -/
theorem callback_of_mode
    {mode : Int}
    (supported : Supported mode)
    {motors : List (MotorControl R)}
    (nonempty : motors ≠ [])
    (alike : ∀ motor ∈ motors, motor.mode = mode) :
    callback motors =
      some (bulkCall mode (lastValue (commanded mode) motors)) := by
  have governs : Governs mode motors := by
    obtain ⟨motor, member⟩ := List.exists_mem_of_ne_nil motors nonempty
    exact ⟨supported, ⟨motor, member, alike motor member⟩,
      fun motor member _ => alike motor member⟩
  rw [callback_eq_some_iff]
  refine ⟨mode, governs, ?_⟩
  unfold bulkCall callFor
  split
  next relative =>
    have same : commanded (R := R) mode = MotorControl.angleRadians := by
      funext motor
      rw [commanded, if_pos relative]
    simp only [same, ← spread_of]
    rfl
  next other =>
    have same : ∀ motor ∈ motors, commanded mode motor = motorRPM motor := by
      intro motor member
      rw [commanded, if_neg other, motorRPM, alike motor member]
    simp only [lastValue_congr same, ← spread_of]
    rfl

omit [LinearOrder R] [FloorRing R] in
/-- A list of motors in one mode leads to a call in which each wheel has the
value of the last motor that addresses it; and speeds in radians per second
lead to the call that they lead to in rpm. -/
theorem callback_spreads
    {mode : Int}
    (supported : Supported mode)
    {motors : List (MotorControl R)}
    (nonempty : motors ≠ [])
    (alike : ∀ motor ∈ motors, motor.mode = mode) :
    callback motors =
        some (bulkCall mode (lastValue (commanded mode) motors)) ∧
      (mode = MotorControl.modeRadiansSecond →
        callback (motors.map inRPM) = callback motors) := by
  have called := callback_of_mode supported nonempty alike
  refine ⟨called, ?_⟩
  rintro rfl
  have inSpeed : ∀ motor ∈ motors.map inRPM,
      motor.mode = MotorControl.modeSpeed := by
    intro motor member
    obtain ⟨original, -, rfl⟩ := List.mem_map.mp member
    rfl
  rw [called, callback_of_mode (Or.inr (Or.inl rfl))
    (mt List.map_eq_nil_iff.mp nonempty) inSpeed]
  have sameValues : lastValue (commanded MotorControl.modeSpeed)
      (motors.map inRPM) =
        lastValue (commanded MotorControl.modeRadiansSecond) motors := by
    funext wheel
    unfold lastValue
    rw [List.filter_map, List.getLast?_map, Option.map_map]
    rfl
  rw [sameValues]
  rfl

/-- The left side, one of its wheels and the same wheel again, with an id that
stands for nothing between them. -/
def overlapping : List (MotorControl ℚ) :=
  [{ id := 0, mode := 4, angleRadians := some 0, rpm := some 0
     speedRadiansS := some 1 },
    { id := 4, mode := 4, angleRadians := some 0, rpm := some 0
      speedRadiansS := some 2 },
    { id := 9, mode := 4, angleRadians := some 0, rpm := some 0
      speedRadiansS := some 3 },
    { id := 4, mode := 4, angleRadians := some 0, rpm := some 0
      speedRadiansS := some 4 }]

theorem callback_spreads_overlapping :
    callback overlapping =
        some (bulkCall 4 (lastValue (commanded 4) overlapping)) ∧
      ((4 : Int) = MotorControl.modeRadiansSecond →
        callback (overlapping.map inRPM) = callback overlapping) :=
  callback_spreads (Or.inr (Or.inr rfl)) (by simp [overlapping])
    (by simp [overlapping, MotorControl.modeRadiansSecond])

end MultipleWheelDriveNode
end Skatebot
