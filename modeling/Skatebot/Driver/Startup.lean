import Skatebot.Driver.Diagnostics
import Skatebot.Library.Interleaving

/-!
# Startup of the driver

The deadman's switch thread starts in the constructor of `DynamixelComms`,
before `Init` has given the servos their packet handlers and created the bulk
writer, and before its two flags have a value.  This module follows the main
thread from the constructor through `Init` and the executor to the destructor,
with the other thread at any point beside it, and asks when a servo or the bulk
writer is used while its pointer is still null.
-/

namespace Skatebot

open Library DynamixelComms

variable {R : Type} [Field R] [LinearOrder R] [FloorRing R]

/-! ## Actions -/

/-- The methods of a servo that the commands do not call. -/
inductive ServoUse
  | getStatus
  | getVoltage
  | reboot
  | setOperatingMode (mode : OperatingMode)
  | enableTorque (enable : Bool)

/-- What such a method returns. -/
def ServoUse.Reply (R : Type) : ServoUse → Type
  | .getStatus => DynamixelServo.DynamixelServoStatus R
  | .getVoltage => R
  | .reboot => Unit
  | .setOperatingMode _ => Bool
  | .enableTorque _ => Bool

/-- What a thread of the driver does in one step. -/
inductive DriverAction (R : Type)
  /-- An action of the commands or of the deadman's switch. -/
  | comms (action : CommsAction R)
  | use (member : Member) (method : ServoUse)
  /-- `rclcpp::ok`. -/
  | ok
  | openPort
  | setBaudRate
  /-- The comparison of the model's name with the known ones. -/
  | findModel
  | newGroupBulkWrite
  /-- The assignments of `DynamixelServo::Init`. -/
  | setHandlers (member : Member)
  /-- `std::exit`. -/
  | exit
  /-- The end of the body of `Init`, before its lock is released. -/
  | finishInit
  | spin
  | sleep
  /-- The end of the deadman's switch thread. -/
  | leave
  | join

/-- What the step returns; `std::exit` does not return. -/
def DriverAction.Reply : DriverAction R → Type
  | .comms action => action.Reply
  | .use _ method => method.Reply R
  | .ok => Bool
  | .openPort => Bool
  | .setBaudRate => Bool
  | .findModel => Bool
  | .newGroupBulkWrite => Unit
  | .setHandlers _ => Unit
  | .exit => Empty
  | .finishInit => Unit
  | .spin => Unit
  | .sleep => Unit
  | .leave => Unit
  | .join => Unit

/-- Code of the driver. -/
abbrev DriverM (R : Type) [Field R] [LinearOrder R] [FloorRing R] :=
  Program (DriverAction R) DriverAction.Reply

/-- The driver's threads. -/
inductive DriverThread
  | main
  | deadmansSwitch
  deriving DecidableEq

/-- The thread as the mutex knows it. -/
def DriverThread.identity : DriverThread → Thread
  | .main => .caller 0
  | .deadmansSwitch => .deadmansSwitch

/-- What the driver does not control. -/
structure Surroundings (R : Type) [Field R] [LinearOrder R] [FloorRing R] where
  bus : Bus R
  /-- Whether `openPort` and `setBaudRate` succeed. -/
  portOpens : Bool
  baudRateSet : Bool
  /-- The number of the model whose name was given, if it is known. -/
  modelNumber : Option (BitVec 32)
  /-- A bound on the polls of a reboot. -/
  polls : Nat

/-- What the threads share. -/
structure Driver where
  comms : DynamixelComms
  /-- `group_bulk_write_` has been set. -/
  groupBulkWriteSet : Bool
  rclcppOk : Bool
  /-- The body of `Init` has come to its end. -/
  initFinished : Bool
  /-- The executor spins. -/
  spinning : Bool
  /-- The deadman's switch thread has come to its end. -/
  threadEnded : Bool

/-- Call such a method; `none` where it does not return. -/
def ServoUse.perform (polls : Nat) (world : World R)
    (servo : DynamixelServo) :
    (method : ServoUse) → Option (method.Reply R × DynamixelServo)
  | .getStatus =>
      some ((DynamixelServo.getStatus : ServoM R _).run world servo)
  | .getVoltage =>
      some ((DynamixelServo.getVoltage : ServoM R _).run world servo)
  | .reboot =>
      let outcome := (DynamixelServo.reboot polls).run world servo
      outcome.1.map fun reply => (reply, outcome.2)
  | .setOperatingMode mode =>
      some ((DynamixelServo.setOperatingMode mode).run world servo)
  | .enableTorque enable =>
      some ((DynamixelServo.enableTorque enable).run world servo)

/-- A servo changes. -/
def Driver.withServo (driver : Driver) (member : Member)
    (servo : DynamixelServo) : Driver :=
  { driver with
    comms :=
      { driver.comms with
        servo := Function.update driver.comms.servo member servo } }

/-- The bus during a call.  Once the context is down it stays down, and it may
go down in the middle of the call. -/
def Surroundings.busDuring (surroundings : Surroundings R) (up : Bool) :
    Bus R where
  world member :=
    { surroundings.bus.world member with
      rclcppOk := fun packets =>
        up && (surroundings.bus.world member).rclcppOk packets }
  cast := surroundings.bus.cast

/-- The effect of an action.  A null pointer is not noticed here: that a step
does not use one is the property in question. -/
def perform (surroundings : Surroundings R) (thread : DriverThread) :
    Handler (DriverAction R) DriverAction.Reply Driver
  | .comms action, driver =>
      let bus := surroundings.busDuring driver.rclcppOk
      (execute bus thread.identity action driver.comms).map
        fun outcome => (outcome.1, { driver with comms := outcome.2 })
  | .use member method, driver =>
      let bus := surroundings.busDuring driver.rclcppOk
      (method.perform surroundings.polls (bus.world member)
        (driver.comms.servo member)).map fun outcome =>
          (outcome.1, driver.withServo member outcome.2)
  | .ok, driver => some (driver.rclcppOk, driver)
  | .openPort, driver => some (surroundings.portOpens, driver)
  | .setBaudRate, driver => some (surroundings.baudRateSet, driver)
  | .findModel, driver => some (surroundings.modelNumber.isSome, driver)
  | .newGroupBulkWrite, driver =>
      some ((), { driver with groupBulkWriteSet := true })
  | .setHandlers member, driver =>
      some ((),
        driver.withServo member
          { driver.comms.servo member with
            modelNumber := surroundings.modelNumber.getD 0
            dxlId := member.id
            config := member.configuration
            handlersSet := true })
  | .exit, _ => none
  | .finishInit, driver => some ((), { driver with initFinished := true })
  | .spin, driver => some ((), { driver with spinning := true })
  | .sleep, driver => some ((), driver)
  | .leave, driver => some ((), { driver with threadEnded := true })
  | .join, driver => if driver.threadEnded then some ((), driver) else none

namespace Driver

/-! ## Code -/

/-- The program of one action. -/
def act (action : DriverAction R) : DriverM R action.Reply :=
  Program.perform action

/-- Code of the object as code of the driver. -/
def onComms (code : CommsM R α) : DriverM R α :=
  code.translate .comms fun _ reply => reply

/-- `std::scoped_lock lock(comms_mutex_)`. -/
def lock : DriverM R Unit := act (.comms .lock)

/-- The end of the lock's scope. -/
def unlock : DriverM R Unit := act (.comms .unlock)

/-- The scope of a `std::scoped_lock`. -/
def scopedLock (body : DriverM R α) : DriverM R α := do
  lock
  let result ← body
  unlock
  pure result

/-- `rclcpp::ok`. -/
def ok : DriverM R Bool := act .ok

/-- `PortHandler::openPort`. -/
def openPort : DriverM R Bool := act .openPort

/-- `PortHandler::setBaudRate`. -/
def setBaudRate : DriverM R Bool := act .setBaudRate

/-- Whether the model's name is known. -/
def findModel : DriverM R Bool := act .findModel

/-- `new dynamixel::GroupBulkWrite`. -/
def newGroupBulkWrite : DriverM R Unit := act .newGroupBulkWrite

/-- The assignments of `DynamixelServo::Init`. -/
def setHandlers (member : Member) : DriverM R Unit :=
  act (.setHandlers member)

/-- The end of the body of `DynamixelComms::Init`. -/
def finishInit : DriverM R Unit := act .finishInit

/-- `std::exit`. -/
def exit : DriverM R Unit := do
  let never ← act .exit
  nomatch (never : Empty)

/-- Call a method of a servo. -/
def call (member : Member) (method : ServoCall R) : DriverM R method.Reply :=
  act (.comms (.call member method))

/-- A method of a servo that the commands do not call. -/
def use (member : Member) (method : ServoUse) :
    DriverM R (method.Reply R) :=
  act (.use member method)

/-- `Reboot` of a servo. -/
def rebootServo (member : Member) : DriverM R Unit := use member .reboot

/-- `SetOperatingMode` of a servo. -/
def setOperatingMode (member : Member) (mode : OperatingMode) :
    DriverM R Unit := do
  let _ ← use member (.setOperatingMode mode)

/-- `EnableTorque` of a servo. -/
def enableTorque (member : Member) (enable : Bool) : DriverM R Unit := do
  let _ ← use member (.enableTorque enable)

/-- `DynamixelServo::Init`. -/
def initServo (member : Member) : DriverM R Unit := do
  let ok ← ok
  if ok then
    setHandlers member
    rebootServo member
    setOperatingMode member
      (DynamixelServo.initialMode member.configuration)
    enableTorque member true

/-- The part of `DynamixelComms::Init` after the baud rate has been set. -/
def initServos : DriverM R Unit := do
  newGroupBulkWrite
  let known ← findModel
  if known then
    initServo .servoTurret
    initServo .motorFrontLeft
    initServo .motorRearLeft
    initServo .motorFrontRight
    initServo .motorRearRight
  else exit

/-- The statements of `DynamixelComms::Init` under its lock. -/
def initBody : DriverM R Unit := do
  let opened ← openPort
  if opened then
    let set ← setBaudRate
    if set then initServos
  else exit

/-- `DynamixelComms::Init`. -/
def init : DriverM R Unit :=
  scopedLock do
    initBody
    finishInit

/-- `DynamixelComms::~DynamixelComms` and the destructors of the servos, in the
order in which they run. -/
def destroy : DriverM R Unit := do
  act .join
  enableTorque .servoTurret false
  enableTorque .motorRearRight false
  enableTorque .motorRearLeft false
  enableTorque .motorFrontRight false
  enableTorque .motorFrontLeft false

/-- `main` after the constructor of `DynamixelComms`, up to `exec.spin`. -/
def main : DriverM R Unit := do
  init
  let ok ← ok
  if ok then act .spin else destroy

/-- A round of `DynamixelComms::DeadmansSwitchLoop`. -/
def deadmansSwitchLoop : DriverM R Unit := do
  let ok ← ok
  if ok then
    act .sleep
    onComms deadmansSwitchIteration
  else act .leave

/-! ## Callbacks -/

/-- What the nodes' callbacks call. -/
inductive Callback (R : Type)
  | drive (command : Command R)
  | setServoPosition (servo : ServoInstance) (angleDegrees : R)
  | getTotalEncoderCount (motor : MotorInstance)
  | getVoltage (servo : ServoInstance)
  | diagnose

/-- An iteration of the loop in `DynamixelComms::GetHardwareStatus`. -/
def addStatus (result : List (ServoStatus R)) (i : Nat) :
    DriverM R (List (ServoStatus R)) :=
  match askedServo i with
  | some member => do
      let dynamixelStatus ← use member .getStatus
      pure (result ++ [dynamixelToServoStatus dynamixelStatus])
  | none => pure result

/-- `DynamixelComms::GetHardwareStatus`. -/
def getHardwareStatus : DriverM R (List (ServoStatus R)) :=
  scopedLock ((List.range 5).foldlM addStatus [])

/-- `DynamixelComms::Reboot`. -/
def reboot (servo : ServoInstance) : DriverM R Unit :=
  let dxlId := getServoId servo
  scopedLock
    (match rebootedServo dxlId with
    | some member => rebootServo member
    | none => pure ())

/-- The reboots of `DiagnosticsNode::AddServoStatusMessage`. -/
def rebootOverloaded (servoStatus : ServoStatus R) : DriverM R Unit :=
  if DiagnosticsNode.Overloaded servoStatus.hardwareStatus then
    reboot servoStatus.servoInstance
  else pure ()

/-- What `DiagnosticsNode::TimerCallback` asks of the object. -/
def diagnose : DriverM R Unit := do
  let status ← getHardwareStatus
  status.forM rebootOverloaded

/-- `DynamixelComms::GetTotalEncoderCount`. -/
def getTotalEncoderCount : MotorInstance → DriverM R Int
  | .motorLeft => scopedLock (call .motorFrontLeft .getTotalEncoderCount)
  | .motorRight => scopedLock (call .motorFrontRight .getTotalEncoderCount)

/-- `DynamixelComms::GetVoltage`, which reads the front left servo for all. -/
def getVoltage (_ : ServoInstance) : DriverM R R :=
  scopedLock (use .motorFrontLeft .getVoltage)

/-- `DynamixelComms::SetServoPosition`. -/
def setServoPosition (servo : ServoInstance) (angleDegrees : R) :
    DriverM R Unit :=
  if servo = .servoTurret then
    scopedLock (call .servoTurret (.setPosition angleDegrees))
  else pure ()

/-- The code of a callback. -/
def Callback.code (cast : FloatCast R) : Callback R → DriverM R Unit
  | .drive command => onComms (command.code cast)
  | .setServoPosition servo angle => Driver.setServoPosition servo angle
  | .getTotalEncoderCount motor => do
      let _ ← Driver.getTotalEncoderCount motor
  | .getVoltage servo => do
      let _ ← Driver.getVoltage servo
  | .diagnose => Driver.diagnose

end Driver

open Driver

/-! ## The driver as a machine -/

/-- What happens next in the driver. -/
inductive DriverEvent (R : Type)
  /-- A signal shuts the ROS context down. -/
  | shutdown
  /-- The deadman's switch thread begins a round. -/
  | loop
  /-- The executor calls back. -/
  | call (callback : Callback R)
  /-- The executor returns. -/
  | finish
  | step (thread : DriverThread)

/-- The threads of the driver. -/
abbrev DriverPool (R : Type) [Field R] [LinearOrder R] [FloorRing R] :=
  Pool DriverThread (DriverAction R) DriverAction.Reply Driver

namespace DriverPool

/-- The driver after an event.  The executor runs one callback at a time. -/
def next (surroundings : Surroundings R) (pool : DriverPool R) :
    DriverEvent R → Option (DriverPool R)
  | .shutdown =>
      some { pool with shared := { pool.shared with rclcppOk := false } }
  | .loop =>
      if pool.Idle .deadmansSwitch ∧ pool.shared.threadEnded = false then
        some (pool.setCode .deadmansSwitch deadmansSwitchLoop)
      else none
  | .call callback =>
      if pool.Idle .main ∧ pool.shared.spinning = true then
        some (pool.setCode .main (callback.code surroundings.bus.cast))
      else none
  | .finish =>
      if pool.Idle .main ∧ pool.shared.spinning = true ∧
          pool.shared.rclcppOk = false then
        some
          (({ pool with
              shared := { pool.shared with spinning := false } } :
            DriverPool R).setCode .main destroy)
      else none
  | .step thread => pool.step (perform surroundings) thread

end DriverPool

/-- The executions of the driver. -/
def executions (surroundings : Surroundings R) :
    Machine (DriverPool R) (DriverEvent R) where
  step := DriverPool.next surroundings

/-! ## Null pointers -/

/-- A pointer that starts as null. -/
inductive Resource
  /-- The packet handler of a servo. -/
  | handler (member : Member)
  /-- The bulk writer. -/
  | bulkWrite

/-- The pointer has been set. -/
def Driver.Has (driver : Driver) : Resource → Prop
  | .handler member => (driver.comms.servo member).handlersSet = true
  | .bulkWrite => driver.groupBulkWriteSet = true

/-- Every pointer has been set. -/
def Driver.Ready (driver : Driver) : Prop := ∀ resource, driver.Has resource

/-- The pointer that an action follows. -/
def DriverAction.uses : DriverAction R → Option Resource
  | .comms (.call member _) => some (.handler member)
  | .comms (.addParam _) => some .bulkWrite
  | .comms .txPacket => some .bulkWrite
  | .comms .clearParam => some .bulkWrite
  | .use member _ => some (.handler member)
  | _ => none

namespace DriverPool

/-- The event follows no null pointer. -/
def Safe (pool : DriverPool R) : DriverEvent R → Prop
  | .step thread =>
      ∀ action resource, (pool.code thread).head = some action →
        action.uses = some resource → pool.shared.Has resource
  | _ => True

/-- The event keeps out of the ways in which a pointer can be null: the baud
rate is set, the context is up whenever `Init` asks for a servo, and the
deadman's switch thread takes the mutex only after the body of `Init`. -/
def Orderly (surroundings : Surroundings R) (pool : DriverPool R) :
    DriverEvent R → Prop
  | .step .main =>
      match (pool.code .main).head with
      | some .setBaudRate => surroundings.baudRateSet = true
      | some .ok =>
          pool.shared.initFinished = false → pool.shared.rclcppOk = true
      | _ => True
  | .step .deadmansSwitch =>
      match (pool.code .deadmansSwitch).head with
      | some (.comms .lock) =>
          pool.shared.comms.commsMutex = none →
            pool.shared.initFinished = true
      | _ => True
  | _ => True

instance decidableOrderly (surroundings : Surroundings R)
    (pool : DriverPool R) :
    (event : DriverEvent R) → Decidable (pool.Orderly surroundings event)
  | .step .main => by
      dsimp only [Orderly]
      split <;> infer_instance
  | .step .deadmansSwitch => by
      dsimp only [Orderly]
      split <;> infer_instance
  | .shutdown | .loop | .call _ | .finish => isTrue trivial

/-- The driver after the constructor of `DynamixelComms`.  Nothing is known of
the flags of the deadman's switch. -/
structure Constructed (pool : DriverPool R) : Prop where
  main : pool.code .main = main
  asleep : pool.Idle .deadmansSwitch
  handlers : ∀ member, (pool.shared.comms.servo member).handlersSet = false
  bulkWrite : pool.shared.groupBulkWriteSet = false
  empty : pool.shared.comms.groupBulkWrite = []
  free : pool.shared.comms.commsMutex = none
  starting : pool.shared.initFinished = false
  spinning : pool.shared.spinning = false
  running : pool.shared.threadEnded = false

end DriverPool

/-! ## Disciplines of the two threads -/

/-- The pointer that an action sets. -/
def DriverAction.gives : DriverAction R → Option Resource
  | .setHandlers member => some (.handler member)
  | .newGroupBulkWrite => some .bulkWrite
  | _ => none

/-- The action tells the others that the pointers are set. -/
def DriverAction.settles : DriverAction R → Bool
  | .finishInit => true
  | .spin => true
  | _ => false

/-- The action takes the mutex. -/
def DriverAction.isLock : DriverAction R → Bool
  | .comms .lock => true
  | _ => false

omit [Field R] [LinearOrder R] [FloorRing R] in
theorem eq_lock_of_isLock
    {action : DriverAction R}
    (locks : action.isLock = true) :
    action = .comms .lock := by
  match action with
  | .comms .lock => rfl

/-- A reply of an orderly start. -/
def DriverAction.Expected : (action : DriverAction R) → action.Reply → Prop
  | .setBaudRate, set => set = true
  | .ok, up => up = true
  | _, _ => True

/-- The main thread follows only pointers that it has set, and sets them all
before it says so. -/
def mainDiscipline :
    Program.Discipline (DriverAction R) DriverAction.Reply
      (List Resource) where
  allowed known action :=
    (∀ resource, action.uses = some resource → resource ∈ known) ∧
      (action.settles = true → ∀ resource, resource ∈ known)
  expected := DriverAction.Expected
  advance known action := action.gives.toList ++ known

/-- The deadman's switch thread follows no pointer before it takes the mutex. -/
def watchdogDiscipline :
    Program.Discipline (DriverAction R) DriverAction.Reply Unit where
  allowed _ action := action.uses = none ∧ action.settles = false
  expected action _ := action.isLock = false
  advance _ _ := ()

/-- A servo's `Init` sets its handler. -/
theorem follows_initServo
    {known : List Resource}
    {member : Member}
    {next : Unit → DriverM R Unit}
    (rest : (next ()).Follows mainDiscipline (.handler member :: known)) :
    (initServo member >>= next).Follows mainDiscipline known := by
  refine ⟨⟨nofun, nofun⟩, fun up isUp => ?_⟩
  obtain rfl : up = true := isUp
  refine ⟨⟨nofun, nofun⟩, fun _ _ => ?_⟩
  have set : ∀ resource, some (Resource.handler member) = some resource →
      resource ∈ Resource.handler member :: known := by
    simp
  refine ⟨⟨set, nofun⟩, fun _ _ => ⟨⟨set, nofun⟩, fun _ _ => ?_⟩⟩
  exact ⟨⟨set, nofun⟩, fun _ _ => rest⟩

/-- Code that comes after every pointer has been set. -/
theorem follows_of_full
    {known : List Resource}
    (full : ∀ resource, resource ∈ known)
    (code : DriverM R Unit) :
    code.Follows mainDiscipline known :=
  Program.follows_of_closed mainDiscipline
    (fun known => ∀ resource, resource ∈ known)
    (fun full _ => ⟨fun resource _ => full resource, fun _ => full⟩)
    (fun full _ resource => List.mem_append_right _ (full resource)) full code

/-- Whatever follows `initServos` finds every pointer set. -/
theorem follows_initServos (next : Unit → DriverM R Unit) :
    (initServos >>= next).Follows mainDiscipline [] := by
  refine ⟨⟨nofun, nofun⟩, fun _ _ => ⟨⟨nofun, nofun⟩, fun known _ => ?_⟩⟩
  cases known with
  | false => exact ⟨⟨nofun, nofun⟩, nofun⟩
  | true =>
      change Program.Follows _ _ ((initServo .servoTurret >>= _) >>= next)
      simp only [Program.bind_assoc_eq]
      apply follows_initServo
      apply follows_initServo
      apply follows_initServo
      apply follows_initServo
      apply follows_initServo
      apply follows_of_full
      intro resource
      cases resource with
      | handler member => cases member <;> simp
      | bulkWrite => simp [mainDiscipline, DriverAction.gives]

/-- `main` keeps to its discipline. -/
theorem follows_main : (main : DriverM R Unit).Follows mainDiscipline [] := by
  refine ⟨⟨nofun, nofun⟩, fun _ _ => ⟨⟨nofun, nofun⟩, fun opened _ => ?_⟩⟩
  cases opened with
  | false => exact ⟨⟨nofun, nofun⟩, nofun⟩
  | true =>
      refine ⟨⟨nofun, nofun⟩, fun set succeeded => ?_⟩
      obtain rfl : set = true := succeeded
      change Program.Follows _ _ (((initServos >>= _) >>= _) >>= _)
      rw [Program.bind_assoc_eq, Program.bind_assoc_eq]
      exact follows_initServos _

/-- A round of the deadman's switch keeps to its discipline. -/
theorem follows_deadmansSwitchLoop :
    (deadmansSwitchLoop : DriverM R Unit).Follows watchdogDiscipline () := by
  refine ⟨⟨rfl, rfl⟩, fun ok _ => ?_⟩
  cases ok with
  | false => exact ⟨⟨rfl, rfl⟩, fun _ _ => trivial⟩
  | true =>
      refine ⟨⟨rfl, rfl⟩, fun _ _ => ⟨⟨rfl, rfl⟩, fun enabled _ => ?_⟩⟩
      cases enabled with
      | false => trivial
      | true =>
          refine ⟨⟨rfl, rfl⟩, fun switch _ => ?_⟩
          cases switch with
          | false => exact ⟨⟨rfl, rfl⟩, fun _ _ => trivial⟩
          | true => exact ⟨⟨rfl, rfl⟩, nofun⟩

/-! ## Steps -/

/-- The methods leave the handlers alone. -/
theorem ServoUse.perform_handlersSet
    {polls : Nat}
    {world : World R}
    {servo final : DynamixelServo}
    {method : ServoUse}
    {reply : method.Reply R}
    (performed : method.perform polls world servo = some (reply, final)) :
    final.handlersSet = servo.handlersSet := by
  cases method with
  | getStatus =>
      have same : ((DynamixelServo.getStatus : ServoM R _).run world servo).2 =
          final :=
        congrArg Prod.snd (Option.some.inj performed)
      rw [← same, DynamixelServo.run_getStatus_state]
      rfl
  | getVoltage =>
      have same : ((DynamixelServo.getVoltage : ServoM R _).run world
          servo).2 = final :=
        congrArg Prod.snd (Option.some.inj performed)
      rw [← same, DynamixelServo.run_getVoltage_state]
      rfl
  | reboot =>
      obtain ⟨_, -, same⟩ := Option.map_eq_some_iff.mp performed
      obtain ⟨-, rfl⟩ := Prod.mk.inj same
      exact DynamixelServo.reboot_invariant
        (fun state => state.handlersSet = servo.handlersSet) world
        (fun _ kept => kept) polls servo rfl
  | setOperatingMode mode =>
      have same : ((DynamixelServo.setOperatingMode mode : ServoM R _).run
          world servo).2 = final :=
        congrArg Prod.snd (Option.some.inj performed)
      rw [← same, DynamixelServo.run_setOperatingMode]
      dsimp only
      split
      · exact DynamixelServo.rebased_handlersSet ..
      · exact DynamixelServo.unset_handlersSet ..
  | enableTorque enable =>
      have same : servo.exchange world
          (.write1 addrTorqueEnable (if enable then 1 else 0)) = final :=
        congrArg Prod.snd (Option.some.inj performed)
      rw [← same]
      rfl

/-- The actions of the object leave the handlers alone. -/
theorem execute_handlersSet
    {bus : Bus R}
    {thread : Thread}
    {action : CommsAction R}
    {reply : action.Reply}
    {comms final : DynamixelComms}
    (performed : execute bus thread action comms = some (reply, final))
    (member : Member) :
    (final.servo member).handlersSet = (comms.servo member).handlersSet := by
  cases action with
  | lock =>
      obtain ⟨-, same⟩ := Option.ite_none_right_eq_some.mp performed
      obtain ⟨-, rfl⟩ := Prod.mk.inj (Option.some.inj same)
      rfl
  | call called method =>
      obtain ⟨-, rfl⟩ := Prod.mk.inj (Option.some.inj performed)
      dsimp only
      by_cases same : member = called
      · subst same
        rw [Function.update_self]
        exact ServoCall.effect_handlersSet ..
      · rw [Function.update_of_ne same]
  | addParam param =>
      simp only [execute] at performed
      split at performed <;>
        obtain ⟨-, rfl⟩ := Prod.mk.inj (Option.some.inj performed) <;> rfl
  | txPacket =>
      obtain ⟨-, rfl⟩ := Prod.mk.inj (Option.some.inj performed)
      exact bulkWrite_handlersSet ..
  | _ =>
      obtain ⟨-, rfl⟩ := Prod.mk.inj (Option.some.inj performed)
      rfl

/-- A servo with its handler in place of another. -/
theorem Driver.Has.withServo
    {driver : Driver}
    {member : Member}
    {servo : DynamixelServo}
    (kept : (driver.comms.servo member).handlersSet = true →
      servo.handlersSet = true)
    {resource : Resource}
    (has : driver.Has resource) :
    (driver.withServo member servo).Has resource := by
  cases resource with
  | bulkWrite => exact has
  | handler other =>
      simp only [Driver.Has, Driver.withServo]
      by_cases same : other = member
      · subst same
        rw [Function.update_self]
        exact kept has
      · rw [Function.update_of_ne same]
        exact has

/-- A pointer that has been set stays set. -/
theorem Driver.Has.perform
    {surroundings : Surroundings R}
    {thread : DriverThread}
    {action : DriverAction R}
    {reply : action.Reply}
    {driver final : Driver}
    {resource : Resource}
    (has : driver.Has resource)
    (performed : Skatebot.perform surroundings thread action driver =
      some (reply, final)) :
    final.Has resource := by
  cases action with
  | comms action =>
      obtain ⟨⟨result, comms⟩, executed, same⟩ :=
        Option.map_eq_some_iff.mp performed
      obtain ⟨-, rfl⟩ := Prod.mk.inj same
      cases resource with
      | handler member => exact (execute_handlersSet executed member).trans has
      | bulkWrite => exact has
  | use member method =>
      obtain ⟨⟨result, servo⟩, called, same⟩ :=
        Option.map_eq_some_iff.mp performed
      obtain ⟨-, rfl⟩ := Prod.mk.inj same
      exact has.withServo (ServoUse.perform_handlersSet called).trans
  | setHandlers member =>
      obtain ⟨-, rfl⟩ := Prod.mk.inj (Option.some.inj performed)
      exact has.withServo fun _ => rfl
  | newGroupBulkWrite =>
      obtain ⟨-, rfl⟩ := Prod.mk.inj (Option.some.inj performed)
      cases resource with
      | handler member => exact has
      | bulkWrite => rfl
  | exit => contradiction
  | join =>
      obtain ⟨-, same⟩ := Option.ite_none_right_eq_some.mp performed
      obtain ⟨-, rfl⟩ := Prod.mk.inj (Option.some.inj same)
      exact has
  | _ =>
      obtain ⟨-, rfl⟩ := Prod.mk.inj (Option.some.inj performed)
      cases resource <;> exact has

/-- An action sets the pointer that it gives. -/
theorem has_of_gives
    {surroundings : Surroundings R}
    {thread : DriverThread}
    {action : DriverAction R}
    {reply : action.Reply}
    {driver final : Driver}
    {resource : Resource}
    (gives : action.gives = some resource)
    (performed : perform surroundings thread action driver =
      some (reply, final)) :
    final.Has resource := by
  cases action with
  | newGroupBulkWrite =>
      obtain rfl := Option.some.inj gives
      obtain ⟨-, rfl⟩ := Prod.mk.inj (Option.some.inj performed)
      rfl
  | setHandlers member =>
      obtain rfl := Option.some.inj gives
      obtain ⟨-, rfl⟩ := Prod.mk.inj (Option.some.inj performed)
      simp [Driver.Has, Driver.withServo]
  | _ => contradiction

/-- What an action leaves as it is. -/
theorem perform_flags
    {surroundings : Surroundings R}
    {thread : DriverThread}
    {action : DriverAction R}
    {reply : action.Reply}
    {driver final : Driver}
    (performed : perform surroundings thread action driver =
      some (reply, final)) :
    final.rclcppOk = driver.rclcppOk ∧
      (action.settles = false →
        final.initFinished = driver.initFinished ∧
          final.spinning = driver.spinning) := by
  cases action with
  | comms action =>
      obtain ⟨_, -, same⟩ := Option.map_eq_some_iff.mp performed
      obtain ⟨-, rfl⟩ := Prod.mk.inj same
      exact ⟨rfl, fun _ => ⟨rfl, rfl⟩⟩
  | use member method =>
      obtain ⟨_, -, same⟩ := Option.map_eq_some_iff.mp performed
      obtain ⟨-, rfl⟩ := Prod.mk.inj same
      exact ⟨rfl, fun _ => ⟨rfl, rfl⟩⟩
  | exit => contradiction
  | join =>
      obtain ⟨-, same⟩ := Option.ite_none_right_eq_some.mp performed
      obtain ⟨-, rfl⟩ := Prod.mk.inj (Option.some.inj same)
      exact ⟨rfl, fun _ => ⟨rfl, rfl⟩⟩
  | finishInit =>
      obtain ⟨-, rfl⟩ := Prod.mk.inj (Option.some.inj performed)
      exact ⟨rfl, nofun⟩
  | spin =>
      obtain ⟨-, rfl⟩ := Prod.mk.inj (Option.some.inj performed)
      exact ⟨rfl, nofun⟩
  | _ =>
      obtain ⟨-, rfl⟩ := Prod.mk.inj (Option.some.inj performed)
      exact ⟨rfl, fun _ => ⟨rfl, rfl⟩⟩

namespace DriverPool

/-! ## The invariant -/

/-- The pointers are being set. -/
structure Starting (pool : DriverPool R) : Prop where
  main : ∃ known, (∀ resource ∈ known, pool.shared.Has resource) ∧
    (pool.code .main).Follows mainDiscipline known
  watchdog : (pool.code .deadmansSwitch).Follows watchdogDiscipline ()
  unfinished : pool.shared.initFinished = false
  halted : pool.shared.spinning = false

/-- The pointers are set, or being set. -/
def Sound (pool : DriverPool R) : Prop :=
  pool.shared.Ready ∨ pool.Starting

theorem Constructed.sound
    {pool : DriverPool R}
    (constructed : pool.Constructed) :
    pool.Sound := by
  refine Or.inr ⟨⟨[], nofun, ?_⟩, ?_, constructed.starting,
    constructed.spinning⟩
  · rw [constructed.main]
    exact follows_main
  · rw [Pool.idle_iff.mp constructed.asleep]
    trivial

/-- A sound driver follows no null pointer. -/
theorem Sound.safe
    {pool : DriverPool R}
    (sound : pool.Sound)
    (event : DriverEvent R) :
    pool.Safe event := by
  match event with
  | .step thread =>
      intro action resource head uses
      rcases sound with ready | starting
      · exact ready resource
      · match thread with
        | .main =>
            obtain ⟨known, has, follows⟩ := starting.main
            cases code : pool.code .main with
            | pure value =>
                rw [code] at head
                contradiction
            | act first next =>
                rw [code] at head follows
                obtain rfl := Option.some.inj head
                exact has resource (follows.1.1 resource uses)
        | .deadmansSwitch =>
            have follows := starting.watchdog
            cases code : pool.code .deadmansSwitch with
            | pure value =>
                rw [code] at head
                contradiction
            | act first next =>
                rw [code] at head follows
                obtain rfl := Option.some.inj head
                exact absurd (follows.1.1.symm.trans uses) nofun
  | .shutdown => trivial
  | .loop => trivial
  | .call _ => trivial
  | .finish => trivial

/-- An event that is no thread's step sets no pointer to null, and only a
shutdown takes the context down. -/
theorem next_quiet
    {surroundings : Surroundings R}
    {pool final : DriverPool R}
    {event : DriverEvent R}
    (quiet : ∀ thread, event ≠ .step thread)
    (stepped : pool.next surroundings event = some final) :
    (∀ resource, pool.shared.Has resource → final.shared.Has resource) ∧
      (event ≠ .shutdown →
        final.shared.rclcppOk = pool.shared.rclcppOk) := by
  cases event with
  | shutdown =>
      obtain rfl := Option.some.inj stepped
      refine ⟨fun resource has => ?_, fun other => absurd rfl other⟩
      cases resource <;> exact has
  | loop =>
      obtain ⟨-, same⟩ := Option.ite_none_right_eq_some.mp stepped
      obtain rfl := Option.some.inj same
      exact ⟨fun _ has => has, fun _ => rfl⟩
  | call callback =>
      obtain ⟨-, same⟩ := Option.ite_none_right_eq_some.mp stepped
      obtain rfl := Option.some.inj same
      exact ⟨fun _ has => has, fun _ => rfl⟩
  | finish =>
      obtain ⟨-, same⟩ := Option.ite_none_right_eq_some.mp stepped
      obtain rfl := Option.some.inj same
      refine ⟨fun resource has => ?_, fun _ => rfl⟩
      cases resource <;> exact has
  | step thread => exact absurd rfl (quiet thread)

/-- Pointers that have been set stay set. -/
theorem has_next
    {surroundings : Surroundings R}
    {pool final : DriverPool R}
    {event : DriverEvent R}
    (stepped : pool.next surroundings event = some final)
    (resource : Resource)
    (has : pool.shared.Has resource) :
    final.shared.Has resource := by
  by_cases steps : ∃ thread, event = .step thread
  · obtain ⟨thread, rfl⟩ := steps
    obtain ⟨action, next, reply, shared, -, performed, rfl⟩ :=
      (Pool.step_eq_some _).mp stepped
    exact has.perform performed
  · exact (next_quiet (not_exists.mp steps) stepped).1 resource has

/-- An orderly step of the main thread gets the reply of an orderly start. -/
theorem expected_of_orderly
    {surroundings : Surroundings R}
    {pool : DriverPool R}
    {action : DriverAction R}
    {next : action.Reply → DriverM R Unit}
    {reply : action.Reply}
    {shared : Driver}
    (unfinished : pool.shared.initFinished = false)
    (code : pool.code .main = .act action next)
    (orderly : pool.Orderly surroundings (.step .main))
    (performed : perform surroundings .main action pool.shared =
      some (reply, shared)) :
    action.Expected reply := by
  simp only [Orderly, code, Program.head] at orderly
  cases action with
  | setBaudRate =>
      obtain ⟨rfl, -⟩ := Prod.mk.inj (Option.some.inj performed)
      exact orderly
  | ok =>
      obtain ⟨rfl, -⟩ := Prod.mk.inj (Option.some.inj performed)
      exact orderly unfinished
  | _ => trivial

/-- An orderly step of the deadman's switch thread does not take the mutex
before the body of `Init` has come to its end. -/
theorem waits_of_orderly
    {surroundings : Surroundings R}
    {pool : DriverPool R}
    {action : DriverAction R}
    {next : action.Reply → DriverM R Unit}
    {reply : action.Reply}
    {shared : Driver}
    (unfinished : pool.shared.initFinished = false)
    (code : pool.code .deadmansSwitch = .act action next)
    (orderly : pool.Orderly surroundings (.step .deadmansSwitch))
    (performed : perform surroundings .deadmansSwitch action pool.shared =
      some (reply, shared)) :
    action.isLock = false := by
  rw [Bool.eq_false_iff]
  intro locks
  obtain rfl := eq_lock_of_isLock locks
  simp only [Orderly, code, Program.head] at orderly
  obtain ⟨outcome, executed, -⟩ := Option.map_eq_some_iff.mp performed
  obtain ⟨free, -⟩ := Option.ite_none_right_eq_some.mp executed
  exact absurd ((orderly free).symm.trans unfinished) (by decide)

/-- A step of the main thread. -/
theorem Starting.next_main
    {surroundings : Surroundings R}
    {pool final : DriverPool R}
    (starting : pool.Starting)
    (orderly : pool.Orderly surroundings (.step .main))
    (stepped : pool.next surroundings (.step .main) = some final) :
    final.Sound := by
  obtain ⟨action, next, reply, shared, code, performed, rfl⟩ :=
    (Pool.step_eq_some _).mp stepped
  obtain ⟨known, has, follows⟩ := starting.main
  rw [code] at follows
  by_cases settles : action.settles = true
  · refine Or.inl fun resource => ?_
    exact has_next stepped resource
      (has resource (follows.1.2 settles resource))
  · obtain ⟨unfinished, halted⟩ :=
      (perform_flags performed).2 (Bool.eq_false_iff.mpr settles)
    refine Or.inr ⟨⟨action.gives.toList ++ known, ?_, ?_⟩, ?_,
      unfinished.trans starting.unfinished, halted.trans starting.halted⟩
    · intro resource set
      rcases List.mem_append.mp set with given | earlier
      · exact has_of_gives (Option.mem_toList.mp given) performed
      · exact (has resource earlier).perform performed
    · dsimp only
      rw [Function.update_self]
      exact follows.2 reply
        (expected_of_orderly starting.unfinished code orderly performed)
    · dsimp only
      rw [Function.update_of_ne (by decide)]
      exact starting.watchdog

/-- A step of the deadman's switch thread. -/
theorem Starting.next_deadmansSwitch
    {surroundings : Surroundings R}
    {pool final : DriverPool R}
    (starting : pool.Starting)
    (orderly : pool.Orderly surroundings (.step .deadmansSwitch))
    (stepped : pool.next surroundings (.step .deadmansSwitch) = some final) :
    final.Starting := by
  obtain ⟨action, next, reply, shared, code, performed, rfl⟩ :=
    (Pool.step_eq_some _).mp stepped
  have follows := starting.watchdog
  rw [code] at follows
  obtain ⟨unfinished, halted⟩ := (perform_flags performed).2 follows.1.2
  obtain ⟨known, has, main⟩ := starting.main
  refine ⟨⟨known, fun resource set => (has resource set).perform performed, ?_⟩,
    ?_, unfinished.trans starting.unfinished, halted.trans starting.halted⟩
  · dsimp only
    rw [Function.update_of_ne (by decide)]
    exact main
  · dsimp only
    rw [Function.update_self]
    exact follows.2 reply
      (waits_of_orderly starting.unfinished code orderly performed)

/-- An orderly event keeps the driver sound. -/
theorem Sound.next
    {surroundings : Surroundings R}
    {pool final : DriverPool R}
    {event : DriverEvent R}
    (sound : pool.Sound)
    (orderly : pool.Orderly surroundings event)
    (stepped : pool.next surroundings event = some final) :
    final.Sound := by
  rcases sound with ready | starting
  · exact Or.inl fun resource => has_next stepped resource (ready resource)
  · match event with
    | .shutdown =>
        have kept := has_next stepped
        obtain rfl := Option.some.inj stepped
        obtain ⟨known, has, follows⟩ := starting.main
        exact Or.inr
          ⟨⟨known, fun resource set => kept resource (has resource set),
            follows⟩, starting.watchdog, starting.unfinished, starting.halted⟩
    | .loop =>
        obtain ⟨-, same⟩ := Option.ite_none_right_eq_some.mp stepped
        obtain rfl := Option.some.inj same
        refine Or.inr ⟨?_, ?_, starting.unfinished, starting.halted⟩
        · rw [Pool.setCode_code_of_ne _ _ (by decide)]
          exact starting.main
        · rw [Pool.setCode_code_self]
          exact follows_deadmansSwitchLoop
    | .call callback =>
        obtain ⟨⟨-, spinning⟩, -⟩ := Option.ite_none_right_eq_some.mp stepped
        exact absurd (starting.halted.symm.trans spinning) (by decide)
    | .finish =>
        obtain ⟨⟨-, spinning, -⟩, -⟩ :=
          Option.ite_none_right_eq_some.mp stepped
        exact absurd (starting.halted.symm.trans spinning) (by decide)
    | .step .main => exact starting.next_main orderly stepped
    | .step .deadmansSwitch =>
        exact Or.inr (starting.next_deadmansSwitch orderly stepped)

/-- In every orderly execution, from the constructor of `DynamixelComms` on, no
servo is used while its packet handler is null, nor the bulk writer while it is
null. -/
theorem orderly_safe
    {surroundings : Surroundings R}
    {pool : DriverPool R}
    (constructed : pool.Constructed)
    {events : List (DriverEvent R)}
    (orderly :
      (executions surroundings).Along (Orderly surroundings) pool events) :
    (executions surroundings).Along Safe pool events :=
  (executions surroundings).along_of_invariant Sound
    (fun sound orderly stepped => sound.next orderly stepped)
    (fun sound _ => sound.safe _) constructed.sound orderly

/-! ## Failing runs -/

/-- A calm bus on a port whose baud rate may not be set. -/
def port (baudRateSet : Bool) : Surroundings ℚ where
  bus := calmBus
  portOpens := true
  baudRateSet := baudRateSet
  modelNumber := some 30
  polls := 1

/-- The driver after the constructor of `DynamixelComms`, with some values of
the deadman's switch's flags. -/
def constructed (flags : Bool) : DriverPool ℚ where
  shared :=
    { comms :=
        { servo := fun _ => DynamixelServo.blank
          groupBulkWrite := []
          deadmansSwitch := flags
          deadmansSwitchEnabled := flags
          commsMutex := none }
      groupBulkWriteSet := false
      rclcppOk := true
      initFinished := false
      spinning := false
      threadEnded := false }
  code := fun thread =>
    match thread with
    | .main => main
    | .deadmansSwitch => pure ()

theorem constructed_constructed (flags : Bool) :
    (constructed flags).Constructed :=
  ⟨rfl, rfl, fun _ => rfl, rfl, rfl, rfl, rfl, rfl, rfl⟩

/-- A start with a round of the deadman's switch thread amid it, a speed for
the left wheels, a round that sets the switch and one that stops the wheels. -/
def startedAndDriven : List (DriverEvent ℚ) :=
  List.replicate 12 (.step .main) ++
    .loop :: List.replicate 3 (.step .deadmansSwitch) ++
      List.replicate 22 (.step .main) ++
        .call (.drive (.setRPM .motorLeft 20)) ::
          List.replicate 6 (.step .main) ++
            .loop :: List.replicate 5 (.step .deadmansSwitch) ++
              .loop :: List.replicate 11 (.step .deadmansSwitch)

theorem orderly_safe_startedAndDriven :
    (executions (port true)).Along Safe (constructed false)
      startedAndDriven := by
  apply orderly_safe (constructed_constructed false)
  decide +kernel

/-- A start without the baud rate, and the encoder node's request. -/
def startedDeaf : List (DriverEvent ℚ) :=
  List.replicate 7 (.step .main) ++
    [.call (.getTotalEncoderCount .motorLeft), .step .main]

/-- When the baud rate cannot be set, the first count asked for follows a null
packet handler. -/
theorem null_handler_followed :
    ¬∀ (surroundings : Surroundings ℚ) (pool : DriverPool ℚ)
        (events : List (DriverEvent ℚ)),
      pool.Constructed →
        (executions surroundings).Along Safe pool events := by
  intro always
  have safe :=
    always (port false) (constructed false) (startedDeaf ++ [.step .main])
      (constructed_constructed false)
  let asked : DriverPool ℚ :=
    ((executions (port false)).run (constructed false) startedDeaf).getD
      (constructed false)
  have reached : (executions (port false)).run (constructed false)
      startedDeaf = some asked := rfl
  have set : (asked.shared.comms.servo .motorFrontLeft).handlersSet = true :=
    (((executions (port false)).along_append.mp safe).2 asked reached).1
      _ (.handler .motorFrontLeft) rfl rfl
  exact absurd set (by decide +kernel)

/-- A round of the deadman's switch thread, up to the mutex. -/
def earlyRound : List (DriverEvent ℚ) :=
  .loop :: List.replicate 5 (.step .deadmansSwitch)

/-- When the flags happen to be set, the first round of the deadman's switch
thread follows a null packet handler, although the baud rate can be set. -/
theorem null_handler_followed_early :
    ¬∀ (surroundings : Surroundings ℚ) (pool : DriverPool ℚ)
        (events : List (DriverEvent ℚ)),
      surroundings.baudRateSet = true → pool.Constructed →
        (executions surroundings).Along Safe pool events := by
  intro always
  have safe :=
    always (port true) (constructed true)
      (earlyRound ++ [.step .deadmansSwitch]) rfl (constructed_constructed true)
  let locked : DriverPool ℚ :=
    ((executions (port true)).run (constructed true) earlyRound).getD
      (constructed true)
  have reached : (executions (port true)).run (constructed true)
      earlyRound = some locked := rfl
  have set : (locked.shared.comms.servo .motorFrontLeft).handlersSet = true :=
    (((executions (port true)).along_append.mp safe).2 locked reached).1
      _ (.handler .motorFrontLeft) rfl rfl
  exact absurd set (by decide +kernel)

end DriverPool
end Skatebot
