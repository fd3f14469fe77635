import Skatebot.Driver.Deadman
import Skatebot.Driver.Maintenance

/-!
# `DiagnosticsNode`

Once a second the node asks the object for the status of its servos, reboots
the overloaded ones and publishes a report.  This module models the report
with its texts, and shows that it is about one servo only.
-/

namespace Skatebot

open Library SoleM DynamixelComms

variable {R : Type} [Field R] [LinearOrder R] [FloorRing R]

/-! ## Messages -/

/-- `diagnostic_msgs::msg::KeyValue`. -/
structure KeyValue where
  key : String
  value : String
  deriving DecidableEq

/-- `diagnostic_msgs::msg::DiagnosticStatus`. -/
structure DiagnosticStatus where
  level : BitVec 8
  name : String
  message : String
  hardwareId : String
  values : List KeyValue
  deriving DecidableEq

namespace DiagnosticStatus

def ok : BitVec 8 := 0
def error : BitVec 8 := 2

end DiagnosticStatus

/-- `diagnostic_msgs::msg::DiagnosticArray`, its header included. -/
structure DiagnosticArray (R : Type) where
  frameId : String
  stamp : R
  status : List DiagnosticStatus
  deriving DecidableEq

/-- `std::to_string` of a `double`: the number with six decimals. -/
def doubleToString (value : R) : String :=
  let sign := if value < 0 then "-" else ""
  let millionths := (round (|value| * ((10 ^ 6 : Int) : R))).toNat
  let decimals := (Nat.toDigits 10 (10 ^ 6 + millionths % 10 ^ 6)).drop 1
  sign ++ toString (millionths / 10 ^ 6) ++ "." ++ String.ofList decimals

namespace DiagnosticsNode

/-! ## The callback -/

/-- The message, and the servos that `Communications::Reboot` was called for. -/
abbrev Report (R : Type) := DiagnosticArray R × List ServoInstance

/-- `DiagnosticsNode::HardwareStatusToString`. -/
def hardwareStatusToString (status : BitVec 8) : String :=
  if status = 0 then "OK"
  else
    (if status &&& 0x01 ≠ 0 then "Over voltage," else "") ++
    (if status &&& 0x04 ≠ 0 then "Overheated," else "") ++
    (if status &&& 0x08 ≠ 0 then "Encoder failed," else "") ++
    (if status &&& 0x10 ≠ 0 then "Insufficent voltage or short circuit,"
      else "") ++
    (if status &&& 0x20 ≠ 0 then "Overloaded," else "")

/-- `DiagnosticsNode::AddConnectedMessage`. -/
def addConnectedMessage (connected : Bool) (message : DiagnosticArray R) :
    DiagnosticArray R :=
  let connectedItem : DiagnosticStatus :=
    { level := if connected then 0 else 2
      name := "Connected"
      message := if connected then "OK" else "ERROR"
      hardwareId := "Dynamixel Serial Link"
      values := [] }
  { message with status := message.status ++ [connectedItem] }

/-- The item that an iteration of the loop in
`DiagnosticsNode::AddServoStatusMessage` adds. -/
def statusItem (servoStatus : ServoStatus R) : DiagnosticStatus where
  level :=
    if servoStatus.hardwareStatus = 0 then DiagnosticStatus.ok
    else DiagnosticStatus.error
  name := "Servo: " ++ servoStatus.instanceName
  message := hardwareStatusToString servoStatus.hardwareStatus
  hardwareId := "Dynamixel"
  values :=
    [{ key := "Temperature C", value := toString servoStatus.temperatureC },
      { key := "Input voltage"
        value := doubleToString servoStatus.inputVoltage }]

/-- The test for a reboot. -/
def Overloaded (hardwareStatus : BitVec 8) : Prop :=
  hardwareStatus ≠ 0 ∧ hardwareStatus &&& 0x20 ≠ 0

instance (hardwareStatus : BitVec 8) : Decidable (Overloaded hardwareStatus) :=
  inferInstanceAs (Decidable (_ ∧ _))

/-- An iteration of that loop. -/
def addServoStatus (bus : Bus R) (polls : Nat) (report : Report R)
    (servoStatus : ServoStatus R) : SoleM (Report R) := do
  let reboots ←
    if Overloaded servoStatus.hardwareStatus then do
      reboot bus polls servoStatus.servoInstance
      pure (report.2 ++ [servoStatus.servoInstance])
    else pure report.2
  pure
    ({ report.1 with
        status := report.1.status ++ [statusItem servoStatus] },
      reboots)

/-- `DiagnosticsNode::AddServoStatusMessage`. -/
def addServoStatusMessage (bus : Bus R) (polls : Nat)
    (message : DiagnosticArray R) : SoleM (Report R) := do
  let status ← getHardwareStatus bus
  status.foldlM (addServoStatus bus polls) (message, [])

/-- `DiagnosticsNode::TimerCallback`, for what `Connected` returns and the time
it is.  The polls bound those of each reboot. -/
def timerCallback (bus : Bus R) (polls : Nat) (connected : Bool) (now : R) :
    SoleM (Report R) :=
  let message : DiagnosticArray R :=
    { frameId := "frame id", stamp := now, status := [] }
  addServoStatusMessage bus polls (addConnectedMessage connected message)

/-! ## What it reports -/

/-- The servos of the robot. -/
def members : List Member :=
  [.servoTurret, .motorFrontLeft, .motorRearLeft, .motorFrontRight,
    .motorRearRight]

/-- The status of a servo with the values in its registers. -/
def ownStatus (comms : DynamixelComms) (member : Member) : ServoStatus R where
  servoInstance := getServoInstance member.id
  instanceName := getServoIdString member.id
  hardwareStatus := (comms.servo member).device.byte addrHardwareErrorStatus
  temperatureC :=
    ((comms.servo member).device.byte addrPresentTemperature).toNat
  inputVoltage :=
    (((comms.servo member).device.byte (addrPresentInputVoltage + 1) ++
      (comms.servo member).device.byte addrPresentInputVoltage).toNat : R) /
        10.0

/-- The callback reports each servo exactly once, with that servo's own values,
and reboots exactly the overloaded servos, once each. -/
def ReportsEach (comms : DynamixelComms)
    (outcome : Option (Report R × DynamixelComms)) : Prop :=
  ∃ report after, outcome = some (report, after) ∧
    (report.1.status.filter fun item => item.hardwareId = "Dynamixel").Perm
      (members.map fun member => statusItem (R := R) (ownStatus comms member)) ∧
    report.2.Perm
      ((members.filter fun member =>
          Overloaded
            ((comms.servo member).device.byte addrHardwareErrorStatus)).map
        fun member => getServoInstance member.id)

variable {bus : Bus R} {polls : Nat}

/-- An iteration adds the item of its status, and reboots the servo that the
status names if it is overloaded. -/
theorem addServoStatus_report
    {report : Report R}
    {servoStatus : ServoStatus R}
    {comms : DynamixelComms}
    {outcome : Report R × DynamixelComms}
    (added : addServoStatus bus polls report servoStatus comms =
      some outcome) :
    outcome.1.1.status = report.1.status ++ [statusItem servoStatus] ∧
      outcome.1.2 = report.2 ++
        if Overloaded servoStatus.hardwareStatus then
          [servoStatus.servoInstance]
        else [] := by
  unfold addServoStatus at added
  by_cases overloaded : Overloaded servoStatus.hardwareStatus
  · simp only [overloaded, if_true] at added ⊢
    obtain ⟨rebooted, -, rest⟩ := Option.bind_eq_some_iff.mp added
    obtain rfl := Option.some.inj rest
    exact ⟨rfl, rfl⟩
  · simp only [overloaded, if_false] at added ⊢
    obtain rfl := Option.some.inj added
    exact ⟨rfl, (List.append_nil _).symm⟩

/-- The loop adds the items of all statuses, and reboots the servos that they
say are overloaded. -/
theorem addServoStatus_loop
    {status : List (ServoStatus R)}
    {report : Report R}
    {comms : DynamixelComms}
    {outcome : Report R × DynamixelComms}
    (added : status.foldlM (addServoStatus bus polls) report comms =
      some outcome) :
    outcome.1.1.status = report.1.status ++ status.map statusItem ∧
      outcome.1.2 = report.2 ++
        (status.filter fun servoStatus =>
          Overloaded servoStatus.hardwareStatus).map
            ServoStatus.servoInstance := by
  induction status generalizing report comms with
  | nil =>
      obtain rfl := Option.some.inj added
      simp
  | cons servoStatus status inductionHypothesis =>
      rw [List.foldlM_cons] at added
      obtain ⟨⟨middle, between⟩, first, rest⟩ :=
        Option.bind_eq_some_iff.mp added
      obtain ⟨items, reboots⟩ := addServoStatus_report first
      obtain ⟨itemsRest, rebootsRest⟩ := inductionHypothesis rest
      rw [itemsRest, rebootsRest, items, reboots]
      by_cases overloaded : Overloaded servoStatus.hardwareStatus
      · simp [overloaded]
      · simp [overloaded]

/-- Every status that the object reports carries the turret's name. -/
theorem getHardwareStatus_named
    {comms : DynamixelComms}
    {outcome : List (ServoStatus R) × DynamixelComms}
    (reported : getHardwareStatus bus comms = some outcome) :
    ∀ status ∈ outcome.1, status.instanceName =
      getServoIdString (comms.servo .servoTurret).dxlId := by
  obtain ⟨-, -, named⟩ := addStatus_loop bus (scopedLock_eq_some.mp reported).2
  exact fun status member => (named status member).resolve_left (by simp)

/-- So does every item about a servo. -/
theorem timerCallback_named
    {connected : Bool}
    {now : R}
    {comms : DynamixelComms}
    {outcome : Report R × DynamixelComms}
    (published : timerCallback bus polls connected now comms = some outcome)
    {item : DiagnosticStatus}
    (included : item ∈ outcome.1.1.status)
    (servo : item.hardwareId = "Dynamixel") :
    item.name =
      "Servo: " ++ getServoIdString (comms.servo .servoTurret).dxlId := by
  obtain ⟨⟨status, between⟩, reported, added⟩ :=
    Option.bind_eq_some_iff.mp published
  rw [(addServoStatus_loop added).1] at included
  rcases List.mem_append.mp included with connection | about
  · obtain rfl := List.mem_singleton.mp connection
    exact absurd servo (by simp)
  · obtain ⟨servoStatus, member, rfl⟩ := List.mem_map.mp about
    exact congrArg ("Servo: " ++ ·)
      (getHardwareStatus_named reported servoStatus member)

/-- A servo that answers reports its own registers. -/
theorem getStatus_own
    (succeed : bus.AllSucceed)
    {comms : DynamixelComms}
    (member : Member)
    (named : (comms.servo member).dxlId = member.id) :
    dynamixelToServoStatus
        ((DynamixelServo.getStatus : ServoM R _).run (bus.world member)
          (comms.servo member)).1 =
      ownStatus comms member := by
  simp only [DynamixelServo.getStatus, ServoM.run_bind, ServoM.run_this,
    ServoM.run_pure, DynamixelServo.run_getHardwareErrorStatus_state,
    DynamixelServo.run_getTemperature_state,
    DynamixelServo.getHardwareErrorStatus_of_allSucceed (succeed member),
    DynamixelServo.getTemperature_of_allSucceed (succeed member),
    DynamixelServo.getInputVoltage_of_allSucceed (succeed member),
    DynamixelServo.exchange_device, Device.serve_read1_byte,
    dynamixelToServoStatus, ownStatus, named]

/-- The turret's registers survive being asked for. -/
theorem ownStatus_examined
    (comms : DynamixelComms)
    (world : World R) :
    ownStatus (R := R)
        { comms with
          servo :=
            Function.update comms.servo .servoTurret
              ((comms.servo .servoTurret).examined world) } .servoTurret =
      ownStatus comms .servoTurret := by
  simp [ownStatus, DynamixelServo.examined]

theorem askedServo_of_lt : ∀ i < 5, askedServo i = some .servoTurret := by
  decide

/-- When every packet succeeds, each iteration reports the turret's own
status. -/
theorem addStatus_own
    (succeed : bus.AllSucceed)
    {indices : List Nat}
    (few : ∀ i ∈ indices, i < 5)
    {result : List (ServoStatus R)}
    {comms : DynamixelComms}
    (named : (comms.servo .servoTurret).dxlId = turretId)
    {outcome : List (ServoStatus R) × DynamixelComms}
    (added : indices.foldlM (addStatus bus) result comms = some outcome) :
    outcome.1 = result ++
      List.replicate indices.length (ownStatus comms .servoTurret) := by
  induction indices generalizing result comms with
  | nil =>
      obtain rfl := Option.some.inj added
      simp
  | cons i indices inductionHypothesis =>
      rw [List.forall_mem_cons] at few
      rw [List.foldlM_cons] at added
      obtain ⟨⟨middle, between⟩, first, rest⟩ :=
        Option.bind_eq_some_iff.mp added
      unfold addStatus at first
      rw [askedServo_of_lt i few.1] at first
      obtain ⟨rfl, rfl⟩ := Prod.mk.inj (Option.some.inj first)
      rw [inductionHypothesis few.2 _ rest]
      · rw [DynamixelServo.run_getStatus_state, ownStatus_examined,
          getStatus_own succeed .servoTurret named]
        simp [List.replicate_succ]
      · simpa [DynamixelServo.run_getStatus_state, DynamixelServo.examined]
          using named

/-- What the callback publishes and reboots when every packet succeeds: the
turret's status five times over, and the turret five times if it is
overloaded. -/
theorem timerCallback_report
    (succeed : bus.AllSucceed)
    {connected : Bool}
    {now : R}
    {comms : DynamixelComms}
    (named : (comms.servo .servoTurret).dxlId = turretId)
    {outcome : Report R × DynamixelComms}
    (published : timerCallback bus polls connected now comms =
      some outcome) :
    let turret : ServoStatus R := ownStatus comms .servoTurret
    outcome.1.1.status =
        (addConnectedMessage connected
          { frameId := "frame id", stamp := now, status := [] }).status ++
          List.replicate 5 (statusItem turret) ∧
      outcome.1.2 =
        if Overloaded turret.hardwareStatus then
          List.replicate 5 .servoTurret
        else [] := by
  intro turret
  obtain ⟨⟨status, between⟩, reported, added⟩ :=
    Option.bind_eq_some_iff.mp published
  have same : status = List.replicate 5 turret :=
    addStatus_own succeed (by simp) named (scopedLock_eq_some.mp reported).2
  obtain ⟨items, reboots⟩ := addServoStatus_loop added
  rw [items, reboots, same]
  refine ⟨by simp, ?_⟩
  have instance_eq : turret.servoInstance = .servoTurret := rfl
  by_cases overloaded : Overloaded turret.hardwareStatus
  · simp [overloaded, instance_eq]
  · simp [overloaded]

/-- Whatever the servos' registers hold and whichever packets fail, the
callback does not report each servo: it has no room for a wheel beside the
turret. -/
theorem reportsEach_never
    (bus : Bus R)
    (polls : Nat)
    (connected : Bool)
    (now : R)
    (comms : DynamixelComms) :
    ¬ReportsEach comms (timerCallback bus polls connected now comms) := by
  rintro ⟨report, after, published, each, -⟩
  have named : ∀ member ∈ members,
      "Servo: " ++ getServoIdString member.id =
        "Servo: " ++ getServoIdString (comms.servo .servoTurret).dxlId := by
    intro member known
    have included := each.mem_iff.mpr (List.mem_map_of_mem known)
    obtain ⟨included, servo⟩ := List.mem_filter.mp included
    exact timerCallback_named published included (of_decide_eq_true servo)
  have turret := named .servoTurret (by simp [members])
  have wheel := named .motorFrontLeft (by simp [members])
  exact absurd (turret.trans wheel.symm) (by decide)

/-! ## An overloaded wheel -/

/-- The initialised object, with the front left servo overloaded. -/
def overloadedWheel : DynamixelComms :=
  { started with
    servo := fun member =>
      { started.servo member with
        device :=
          { (started.servo member).device with
            byte :=
              if member = .motorFrontLeft then
                Function.update (started.servo member).device.byte
                  addrHardwareErrorStatus 0x20
              else (started.servo member).device.byte } } }

theorem overloadedWheel_resting : overloadedWheel.Resting where
  free := rfl
  empty := rfl
  ids member := by cases member <;> rfl

/-- The overloaded wheel is not rebooted. -/
theorem overload_unreported :
    ¬∀ (bus : Bus ℚ) (polls : Nat) (connected : Bool) (now : ℚ)
        (comms : DynamixelComms),
      bus.AllSucceed → comms.Resting →
        ReportsEach comms (timerCallback bus polls connected now comms) := by
  intro always
  obtain ⟨report, after, published, -, reboots⟩ :=
    always calmBus 1 true 0 overloadedWheel calmBus_allSucceed
      overloadedWheel_resting
  have empty :=
    (timerCallback_report calmBus_allSucceed rfl published).2
  rw [empty] at reboots
  exact absurd reboots.length_eq (by decide +kernel)

end DiagnosticsNode
end Skatebot
