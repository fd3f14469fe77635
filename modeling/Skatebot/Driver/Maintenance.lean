import Skatebot.Driver.CommsLemmas

/-!
# The other functions of `DynamixelComms`

Besides commands to the wheels, the nodes ask the object for counts, voltages
and the servos' status, turn the turret, and reboot a servo.  Each of these
functions runs under the mutex from beginning to end, and none touches the
deadman's switch; so it is modelled as a single step.
-/

namespace Skatebot

open Library

/-- `ServoInstance`. -/
inductive ServoInstance
  | servoNone
  | servoLeftFront
  | servoLeftRear
  | servoRightFront
  | servoRightRear
  | servoTurret
  deriving DecidableEq

/-- `ServoStatus`. -/
structure ServoStatus (R : Type) where
  servoInstance : ServoInstance
  instanceName : String
  hardwareStatus : BitVec 8
  temperatureC : Int
  inputVoltage : R
  deriving DecidableEq

variable {R : Type} [Field R] [LinearOrder R] [FloorRing R]

/-! ## Functions under the mutex -/

/-- A function that runs with no other thread taking part; `none` where it
waits, or does not return. -/
abbrev SoleM (α : Type) := StateT DynamixelComms Option α

namespace SoleM

/-- The scope of a `std::scoped_lock`. -/
def scopedLock (body : SoleM α) : SoleM α := fun comms =>
  if comms.commsMutex = none then body comms else none

/-- Call a method of a servo. -/
def method (bus : Bus R) (member : Member) (call : ServoM R α) : SoleM α :=
  fun comms =>
    let outcome := call.run (bus.world member) (comms.servo member)
    some (outcome.1,
      { comms with
        servo := Function.update comms.servo member outcome.2 })

/-- Call a method of a servo that may not return. -/
def awaited (bus : Bus R) (member : Member) (call : ServoM R (Option α)) :
    SoleM α := fun comms =>
  let outcome := call.run (bus.world member) (comms.servo member)
  outcome.1.map fun reply =>
    (reply,
      { comms with
        servo := Function.update comms.servo member outcome.2 })

end SoleM

open SoleM

namespace DynamixelComms

/-! ## Names of the servos -/

/-- `DynamixelComms::GetServoId`.  The assertion on its default branch tests a
string and never fails. -/
def getServoId : ServoInstance → BitVec 8
  | .servoTurret => turretId
  | .servoLeftFront => leftFrontId
  | .servoLeftRear => leftRearId
  | .servoRightFront => rightFrontId
  | .servoRightRear => rightRearId
  | .servoNone => 0

/-- `DynamixelComms::GetServoInstance`. -/
def getServoInstance (dxlId : BitVec 8) : ServoInstance :=
  if dxlId = turretId then .servoTurret
  else if dxlId = leftFrontId then .servoLeftFront
  else if dxlId = leftRearId then .servoLeftRear
  else if dxlId = rightFrontId then .servoRightFront
  else if dxlId = rightRearId then .servoRightRear
  else .servoNone

/-- `DynamixelComms::GetServoIdString`. -/
def getServoIdString (dxlId : BitVec 8) : String :=
  if dxlId = turretId then "Turret"
  else if dxlId = leftFrontId then "LeftFront"
  else if dxlId = leftRearId then "LeftRear"
  else if dxlId = rightFrontId then "RightFront"
  else if dxlId = rightRearId then "RightRear"
  else ""

/-- `DynamixelComms::DynamixelToServoStatus`. -/
def dynamixelToServoStatus
    (dynamixelStatus : DynamixelServo.DynamixelServoStatus R) :
    ServoStatus R where
  servoInstance := getServoInstance dynamixelStatus.dxlId
  instanceName := getServoIdString dynamixelStatus.dxlId
  hardwareStatus := dynamixelStatus.hardwareStatus
  temperatureC := dynamixelStatus.temperatureC
  inputVoltage := dynamixelStatus.inputVoltage

/-! ## Functions -/

/-- The servo that an iteration of the loop in
`DynamixelComms::GetHardwareStatus` asks. -/
def askedServo : Nat → Option Member
  | 0 => some .servoTurret
  | 1 => some .servoTurret
  | 2 => some .servoTurret
  | 3 => some .servoTurret
  | 4 => some .servoTurret
  | _ => none

/-- An iteration of that loop. -/
def addStatus (bus : Bus R) (result : List (ServoStatus R)) (i : Nat) :
    SoleM (List (ServoStatus R)) :=
  match askedServo i with
  | some member => do
      let dynamixelStatus ← method bus member DynamixelServo.getStatus
      let servoStatus := dynamixelToServoStatus dynamixelStatus
      pure (result ++ [servoStatus])
  | none => pure result

/-- `DynamixelComms::GetHardwareStatus`. -/
def getHardwareStatus (bus : Bus R) : SoleM (List (ServoStatus R)) :=
  scopedLock ((List.range 5).foldlM (addStatus bus) [])

/-- `DynamixelComms::GetTotalEncoderCount`. -/
def getTotalEncoderCount (bus : Bus R) : MotorInstance → SoleM Int
  | .motorLeft =>
      scopedLock (method bus .motorFrontLeft DynamixelServo.getTotalEncoderCount)
  | .motorRight =>
      scopedLock (method bus .motorFrontRight DynamixelServo.getTotalEncoderCount)

/-- `DynamixelComms::GetVoltage`, which reads the front left servo for all. -/
def getVoltage (bus : Bus R) (_ : ServoInstance) : SoleM R :=
  scopedLock (method bus .motorFrontLeft DynamixelServo.getVoltage)

/-- `DynamixelComms::SetServoPosition`. -/
def setServoPosition (bus : Bus R) (servo : ServoInstance)
    (angleDegrees : R) : SoleM Unit :=
  if servo = .servoTurret then
    scopedLock (method bus .servoTurret (DynamixelServo.setPosition angleDegrees))
  else pure ()

/-- The servo that the `switch` of `DynamixelComms::Reboot` picks. -/
def rebootedServo (dxlId : BitVec 8) : Option Member :=
  if dxlId = turretId then some .servoTurret
  else if dxlId = leftFrontId then some .motorFrontLeft
  else if dxlId = leftRearId then some .motorRearLeft
  else if dxlId = rightFrontId then some .motorFrontRight
  else if dxlId = rightRearId then some .motorRearRight
  else none

/-- `DynamixelComms::Reboot`, with a bound on the number of polls. -/
def reboot (bus : Bus R) (polls : Nat) (servo : ServoInstance) : SoleM Unit :=
  let dxlId := getServoId servo
  scopedLock
    (match rebootedServo dxlId with
    | some member => awaited bus member (DynamixelServo.reboot polls)
    | none => pure ())

/-- The member that `Reboot` reboots for an instance. -/
def rebooted : ServoInstance → Member
  | .servoNone => .servoTurret
  | .servoLeftFront => .motorFrontLeft
  | .servoLeftRear => .motorRearLeft
  | .servoRightFront => .motorFrontRight
  | .servoRightRear => .motorRearRight
  | .servoTurret => .servoTurret

/-- The two translations together find the instance's servo. -/
theorem rebootedServo_getServoId (servo : ServoInstance) :
    rebootedServo (getServoId servo) = some (rebooted servo) := by
  cases servo <;> rfl

end DynamixelComms

/-! ## Runs -/

/-- A call of a function of the object, or an iteration of the deadman's
switch, from beginning to end. -/
inductive Operation (R : Type)
  | turn (turn : DynamixelComms.Turn R)
  | getHardwareStatus
  | getTotalEncoderCount (motor : MotorInstance)
  | getVoltage (servo : ServoInstance)
  | setServoPosition (servo : ServoInstance) (angleDegrees : R)
  | reboot (polls : Nat) (servo : ServoInstance)

namespace DynamixelComms

/-- The state after an operation, or `none` where it waits or does not
return. -/
def operate (bus : Bus R) (comms : DynamixelComms) :
    Operation R → Option DynamixelComms
  | .turn turn => turn.step bus comms
  | .getHardwareStatus => (getHardwareStatus bus comms).map Prod.snd
  | .getTotalEncoderCount motor =>
      (getTotalEncoderCount bus motor comms).map Prod.snd
  | .getVoltage servo => (getVoltage bus servo comms).map Prod.snd
  | .setServoPosition servo angleDegrees =>
      (setServoPosition bus servo angleDegrees comms).map Prod.snd
  | .reboot polls servo => (reboot bus polls servo comms).map Prod.snd

/-- Operations one after the other. -/
def operations (bus : Bus R) : Machine DynamixelComms (Operation R) where
  step comms operation := operate bus comms operation

/-! ## What an operation does -/

/-- A function under the mutex begins where the mutex is free. -/
theorem scopedLock_eq_some
    {body : SoleM α}
    {comms : DynamixelComms}
    {outcome : α × DynamixelComms} :
    scopedLock body comms = some outcome ↔
      comms.commsMutex = none ∧ body comms = some outcome := by
  unfold scopedLock
  split
  next free => exact (and_iff_right free).symm
  next held => exact iff_of_false (by simp) fun begun => held begun.1

/-- Only servos have changed, and they have kept their ids. -/
structure Spared (before after : DynamixelComms) : Prop where
  commsMutex : after.commsMutex = before.commsMutex
  groupBulkWrite : after.groupBulkWrite = before.groupBulkWrite
  deadmansSwitch : after.deadmansSwitch = before.deadmansSwitch
  deadmansSwitchEnabled :
    after.deadmansSwitchEnabled = before.deadmansSwitchEnabled
  dxlId : ∀ member, (after.servo member).dxlId = (before.servo member).dxlId

theorem Spared.refl (comms : DynamixelComms) : Spared comms comms :=
  ⟨rfl, rfl, rfl, rfl, fun _ => rfl⟩

theorem Spared.trans
    {first second third : DynamixelComms}
    (earlier : Spared first second)
    (later : Spared second third) :
    Spared first third where
  commsMutex := later.commsMutex.trans earlier.commsMutex
  groupBulkWrite := later.groupBulkWrite.trans earlier.groupBulkWrite
  deadmansSwitch := later.deadmansSwitch.trans earlier.deadmansSwitch
  deadmansSwitchEnabled :=
    later.deadmansSwitchEnabled.trans earlier.deadmansSwitchEnabled
  dxlId member := (later.dxlId member).trans (earlier.dxlId member)

/-- Replacing a servo by one with its id. -/
theorem spared_update
    {comms : DynamixelComms}
    {member : Member}
    {servo : DynamixelServo}
    (same : servo.dxlId = (comms.servo member).dxlId) :
    Spared comms
      { comms with servo := Function.update comms.servo member servo } := by
  refine ⟨rfl, rfl, rfl, rfl, fun other => ?_⟩
  by_cases here : other = member
  · subst here
    simpa using same
  · simp [here]

theorem askedServo_cases (i : Nat) :
    askedServo i = some .servoTurret ∨ askedServo i = none := by
  unfold askedServo
  split <;> simp

/-- An iteration of the loop asks the turret's servo, and adds what that servo
says of itself. -/
theorem addStatus_spared
    (bus : Bus R)
    {i : Nat}
    {result : List (ServoStatus R)}
    {comms : DynamixelComms}
    {outcome : List (ServoStatus R) × DynamixelComms}
    (added : addStatus bus result i comms = some outcome) :
    Spared comms outcome.2 ∧
      (∀ wheel ∈ wheels, outcome.2.servo wheel = comms.servo wheel) ∧
      ∀ status ∈ outcome.1, status ∈ result ∨
        status.instanceName =
          getServoIdString (comms.servo .servoTurret).dxlId := by
  unfold addStatus at added
  rcases askedServo_cases i with asked | asked
  · rw [asked] at added
    obtain rfl := Option.some.inj added
    refine ⟨spared_update ?_, fun wheel isWheel => ?_, fun status member => ?_⟩
    · rw [DynamixelServo.run_getStatus_state]
      rfl
    · have other : wheel ≠ .servoTurret := by
        rintro rfl
        simp [wheels] at isWheel
      exact Function.update_of_ne other ..
    · rcases List.mem_append.mp member with earlier | last
      · exact Or.inl earlier
      · rw [List.mem_singleton.mp last]
        exact Or.inr rfl
  · rw [asked] at added
    obtain rfl := Option.some.inj added
    exact ⟨.refl _, fun _ _ => rfl, fun _ member => Or.inl member⟩

/-- So do its iterations together. -/
theorem addStatus_loop
    (bus : Bus R)
    {indices : List Nat}
    {result : List (ServoStatus R)}
    {comms : DynamixelComms}
    {outcome : List (ServoStatus R) × DynamixelComms}
    (added : indices.foldlM (addStatus bus) result comms = some outcome) :
    Spared comms outcome.2 ∧
      (∀ wheel ∈ wheels, outcome.2.servo wheel = comms.servo wheel) ∧
      ∀ status ∈ outcome.1, status ∈ result ∨
        status.instanceName =
          getServoIdString (comms.servo .servoTurret).dxlId := by
  induction indices generalizing result comms with
  | nil =>
      obtain rfl := Option.some.inj added
      exact ⟨.refl _, fun _ _ => rfl, fun _ member => Or.inl member⟩
  | cons i indices inductionHypothesis =>
      rw [List.foldlM_cons] at added
      obtain ⟨⟨middle, between⟩, first, rest⟩ :=
        Option.bind_eq_some_iff.mp added
      obtain ⟨sparedFirst, wheelsFirst, namedFirst⟩ :=
        addStatus_spared bus first
      obtain ⟨sparedRest, wheelsRest, namedRest⟩ := inductionHypothesis rest
      refine ⟨sparedFirst.trans sparedRest, fun wheel isWheel => ?_,
        fun status member => ?_⟩
      · exact (wheelsRest wheel isWheel).trans (wheelsFirst wheel isWheel)
      · rw [sparedFirst.dxlId] at namedRest
        rcases namedRest status member with earlier | named
        · exact namedFirst status earlier
        · exact Or.inr named

/-- The state of a wheel's servo after an operation other than a turn. -/
def upkept (bus : Bus R) (comms : DynamixelComms) (wheel : Member) :
    Operation R → DynamixelServo
  | .getTotalEncoderCount motor =>
      if wheel = front motor then
        (comms.servo wheel).updated (bus.world wheel) false
      else comms.servo wheel
  | .getVoltage _ =>
      if wheel = .motorFrontLeft then
        (comms.servo wheel).exchange (bus.world wheel)
          (.read2 addrPresentInputVoltage)
      else comms.servo wheel
  | .reboot polls servo =>
      if wheel = rebooted servo then
        ((DynamixelServo.reboot polls : ServoM R _).run (bus.world wheel)
          (comms.servo wheel)).2
      else comms.servo wheel
  | _ => comms.servo wheel

/-- The operation is no command to the wheels, and no stop. -/
def Upkeep (operation : Operation R) : Prop :=
  ∀ turn, operation ≠ .turn turn

/-- Replacing one servo leaves the others alone. -/
theorem update_servo
    (bus : Bus R)
    (member : Member)
    (call : ServoM R α)
    (comms : DynamixelComms)
    (wheel : Member) :
    Function.update comms.servo member
        (call.run (bus.world member) (comms.servo member)).2 wheel =
      if wheel = member then
        (call.run (bus.world wheel) (comms.servo wheel)).2
      else comms.servo wheel := by
  by_cases here : wheel = member
  · subst here
    simp
  · simp [here]

/-- A method called under the mutex. -/
theorem method_spared
    {bus : Bus R}
    {member : Member}
    {call : ServoM R α}
    {comms : DynamixelComms}
    {outcome : α × DynamixelComms}
    (named : (call.run (bus.world member) (comms.servo member)).2.dxlId =
      (comms.servo member).dxlId)
    (ran : scopedLock (method bus member call) comms = some outcome) :
    Spared comms outcome.2 ∧
      ∀ wheel, outcome.2.servo wheel =
        if wheel = member then
          (call.run (bus.world wheel) (comms.servo wheel)).2
        else comms.servo wheel := by
  obtain rfl := Option.some.inj (scopedLock_eq_some.mp ran).2
  exact ⟨spared_update named, update_servo bus member call comms⟩

/-- A method called under the mutex that has returned. -/
theorem awaited_spared
    {bus : Bus R}
    {member : Member}
    {call : ServoM R (Option α)}
    {comms : DynamixelComms}
    {outcome : α × DynamixelComms}
    (named : (call.run (bus.world member) (comms.servo member)).2.dxlId =
      (comms.servo member).dxlId)
    (ran : awaited bus member call comms = some outcome) :
    Spared comms outcome.2 ∧
      ∀ wheel, outcome.2.servo wheel =
        if wheel = member then
          (call.run (bus.world wheel) (comms.servo wheel)).2
        else comms.servo wheel := by
  obtain ⟨reply, -, rfl⟩ := Option.map_eq_some_iff.mp ran
  exact ⟨spared_update named, update_servo bus member call comms⟩

/-- An operation other than a turn spares the object, and treats each wheel by
itself. -/
theorem operate_upkeep
    {bus : Bus R}
    {comms next : DynamixelComms}
    {operation : Operation R}
    (upkeep : Upkeep operation)
    (operated : operate bus comms operation = some next) :
    Spared comms next ∧
      ∀ wheel ∈ wheels, next.servo wheel = upkept bus comms wheel operation := by
  cases operation with
  | turn turn => exact absurd rfl (upkeep turn)
  | getHardwareStatus =>
      obtain ⟨outcome, ran, rfl⟩ := Option.map_eq_some_iff.mp operated
      obtain ⟨spared, same, -⟩ :=
        addStatus_loop bus (scopedLock_eq_some.mp ran).2
      exact ⟨spared, same⟩
  | getTotalEncoderCount motor =>
      obtain ⟨outcome, ran, rfl⟩ := Option.map_eq_some_iff.mp operated
      have counted : ∀ member : Member,
          scopedLock (method bus member DynamixelServo.getTotalEncoderCount)
            comms = some outcome →
          Spared comms outcome.2 ∧
            ∀ wheel, outcome.2.servo wheel =
              if wheel = member then
                (comms.servo wheel).updated (bus.world wheel) false
              else comms.servo wheel := by
        intro member ran
        obtain ⟨spared, same⟩ := method_spared (by simp) ran
        simp only [DynamixelServo.run_getTotalEncoderCount] at same
        exact ⟨spared, same⟩
      cases motor with
      | motorLeft =>
          obtain ⟨spared, same⟩ := counted _ ran
          exact ⟨spared, fun wheel _ => same wheel⟩
      | motorRight =>
          obtain ⟨spared, same⟩ := counted _ ran
          exact ⟨spared, fun wheel _ => same wheel⟩
  | getVoltage servo =>
      obtain ⟨outcome, ran, rfl⟩ := Option.map_eq_some_iff.mp operated
      obtain ⟨spared, same⟩ := method_spared
        (by rw [DynamixelServo.run_getVoltage_state]; rfl) ran
      simp only [DynamixelServo.run_getVoltage_state] at same
      exact ⟨spared, fun wheel _ => same wheel⟩
  | setServoPosition servo angleDegrees =>
      obtain ⟨outcome, ran, rfl⟩ := Option.map_eq_some_iff.mp operated
      unfold setServoPosition at ran
      split at ran
      next =>
        obtain ⟨spared, same⟩ := method_spared (by simp) ran
        refine ⟨spared, fun wheel isWheel => (same wheel).trans (if_neg ?_)⟩
        rintro rfl
        simp [wheels] at isWheel
      next =>
        obtain rfl := Option.some.inj ran
        exact ⟨.refl _, fun _ _ => rfl⟩
  | reboot polls servo =>
      obtain ⟨outcome, ran, rfl⟩ := Option.map_eq_some_iff.mp operated
      have ran := (scopedLock_eq_some.mp ran).2
      rw [rebootedServo_getServoId] at ran
      obtain ⟨spared, same⟩ := awaited_spared
        (DynamixelServo.reboot_invariant
          (fun state => state.dxlId = (comms.servo (rebooted servo)).dxlId)
          _ (fun _ kept => kept) polls _ rfl) ran
      exact ⟨spared, fun wheel _ => same wheel⟩

/-- A turn among the operations waits for nothing in a resting state. -/
theorem operate_turn
    {bus : Bus R}
    {comms next : DynamixelComms}
    (resting : comms.Resting)
    {turn : Turn R} :
    operate bus comms (.turn turn) = some next ↔
      comms.taken bus turn = next := by
  have stepped : operate bus comms (.turn turn) = some (comms.taken bus turn) :=
    turns_step bus comms resting turn
  rw [stepped, Option.some_inj]

/-- Operations keep the object at rest. -/
theorem Resting.operate
    {bus : Bus R}
    {comms next : DynamixelComms}
    (resting : comms.Resting)
    {operation : Operation R}
    (operated : DynamixelComms.operate bus comms operation = some next) :
    next.Resting := by
  by_cases upkeep : Upkeep operation
  · obtain ⟨spared, -⟩ := operate_upkeep upkeep operated
    exact ⟨spared.commsMutex.trans resting.free,
      spared.groupBulkWrite.trans resting.empty,
      fun member => (spared.dxlId member).trans (resting.ids member)⟩
  · obtain ⟨turn, rfl⟩ := not_forall_not.mp upkeep
    obtain rfl := (operate_turn resting).mp operated
    exact resting.taken bus turn

end DynamixelComms
end Skatebot
