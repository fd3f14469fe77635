import Skatebot.Driver.Comms

/-!
# What the functions of `DynamixelComms` do

The effect of every command, and of every iteration of the deadman's switch,
when it runs from beginning to end with no other thread taking part.
-/

namespace Skatebot
namespace DynamixelComms

open Library Program

variable {R : Type} [Field R] [LinearOrder R] [FloorRing R]
variable (bus : Bus R) (thread : Thread) (comms : DynamixelComms)

/-! ## Actions -/

/-- The state after a call of a servo's method. -/
def called (member : Member) (method : ServoCall R) : DynamixelComms :=
  { comms with
    servo :=
      Function.update comms.servo member
        (method.effect (bus.world member) (comms.servo member)) }

@[simp] theorem called_groupBulkWrite (member : Member) (method : ServoCall R) :
    (comms.called bus member method).groupBulkWrite =
      comms.groupBulkWrite := rfl

@[simp] theorem called_commsMutex (member : Member) (method : ServoCall R) :
    (comms.called bus member method).commsMutex = comms.commsMutex := rfl

@[simp] theorem run_on (member : Member) (method : ServoCall R) :
    run (execute bus thread) (on member method) comms =
      some ((method.method.run (bus.world member) (comms.servo member)).1,
        comms.called bus member method) :=
  run_perform ..

@[simp] theorem run_configureControlMode
    (member : Member) (mode : OperatingMode) :
    run (execute bus thread) (configureControlMode member mode) comms =
      some ((), comms.called bus member (.configureControlMode mode)) :=
  run_on ..

@[simp] theorem run_getPresentPosition (member : Member) :
    run (execute bus thread) (getPresentPosition member) comms =
      some ((comms.servo member).reportedPosition (bus.world member),
        comms.called bus member .getPresentPosition) := by
  have reads := (comms.servo member).run_getPresentPosition (bus.world member)
  refine (run_on ..).trans ?_
  exact congrArg
    (fun outcome =>
      some (outcome.1, comms.called bus member .getPresentPosition))
    reads

@[simp] theorem run_getId (member : Member) :
    run (execute bus thread) (getId member) comms =
      some ((comms.servo member).dxlId, comms) := by
  refine (run_on ..).trans ?_
  have same : comms.called bus member .getId = comms := by
    simp [called]
  rw [same]
  rfl

/-- Acquiring a free mutex. -/
theorem run_lock (free : comms.commsMutex = none) :
    run (execute bus thread) lock comms =
      some ((), { comms with commsMutex := some thread }) :=
  (run_perform ..).trans (if_pos free)

@[simp] theorem run_unlock :
    run (execute bus thread) unlock comms =
      some ((), { comms with commsMutex := none }) :=
  run_perform ..

@[simp] theorem run_loadSwitch :
    run (execute bus thread) loadSwitch comms =
      some (comms.deadmansSwitch, comms) :=
  run_perform ..

@[simp] theorem run_loadEnabled :
    run (execute bus thread) loadEnabled comms =
      some (comms.deadmansSwitchEnabled, comms) :=
  run_perform ..

@[simp] theorem run_storeSwitch (value : Bool) :
    run (execute bus thread) (storeSwitch value) comms =
      some ((), { comms with deadmansSwitch := value }) :=
  run_perform ..

@[simp] theorem run_storeEnabled (value : Bool) :
    run (execute bus thread) (storeEnabled value) comms =
      some ((), { comms with deadmansSwitchEnabled := value }) :=
  run_perform ..

/-- Adding a parameter for a new servo. -/
theorem run_bulkAddParam
    {param : BulkParam}
    (new : param.id ∉ comms.groupBulkWrite.map BulkParam.id) :
    run (execute bus thread) (bulkAddParam param) comms =
      some (true,
        { comms with groupBulkWrite := comms.groupBulkWrite ++ [param] }) :=
  (run_perform ..).trans (if_neg new)

@[simp] theorem run_txPacket :
    run (execute bus thread) txPacket comms =
      some ((),
        { comms with
          servo := fun member =>
            bulkWrite (bus.world member) comms.groupBulkWrite
              (comms.servo member) }) :=
  run_perform ..

@[simp] theorem run_clearParam :
    run (execute bus thread) clearParam comms =
      some ((), { comms with groupBulkWrite := [] }) :=
  run_perform ..

/-! ## Commands -/

/-- The front wheel of a side. -/
def front : MotorInstance → Member
  | .motorLeft => .motorFrontLeft
  | .motorRight => .motorFrontRight

/-- The rear wheel of a side. -/
def rear : MotorInstance → Member
  | .motorLeft => .motorRearLeft
  | .motorRight => .motorRearRight

/-- The speed that `SetRPM` hands to the wheels of a side. -/
def sideRPM (motor : MotorInstance) (rpm : R) : R :=
  match motor with
  | .motorLeft => rpm
  | .motorRight => -rpm

theorem run_setRPM
    (free : comms.commsMutex = none)
    (motor : MotorInstance)
    (rpm : R) :
    run (execute bus thread) (setRPM motor rpm) comms =
      some ((),
        { (comms.called bus (front motor) (.setRPM (sideRPM motor rpm))).called
            bus (rear motor) (.setRPM (sideRPM motor rpm)) with
          deadmansSwitchEnabled := true
          deadmansSwitch := false }) := by
  cases motor <;>
    simp [setRPM, deadmansSwitchEnable, deadmansSwitchReset, run_lock, free,
      front, rear, sideRPM, called]

theorem run_setRelativePosition
    (free : comms.commsMutex = none)
    (motor : MotorInstance)
    (angleRadians : R) :
    run (execute bus thread) (setRelativePosition motor angleRadians) comms =
      some ((),
        { (comms.called bus (front motor)
            (.setRelativePosition angleRadians)).called bus (rear motor)
              (.setRelativePosition angleRadians) with
          deadmansSwitchEnabled := false }) := by
  cases motor <;>
    simp [setRelativePosition, deadmansSwitchEnable, run_lock, free, front,
      rear, called]

/-- The four stops of the deadman's switch. -/
def stopped : DynamixelComms :=
  (((comms.called bus .motorFrontLeft (.setRPM 0)).called bus .motorRearLeft
    (.setRPM 0)).called bus .motorFrontRight (.setRPM 0)).called bus
      .motorRearRight (.setRPM 0)

theorem run_deadmansSwitchIteration (free : comms.commsMutex = none) :
    run (execute bus thread) deadmansSwitchIteration comms =
      some ((),
        if comms.deadmansSwitchEnabled then
          { (if comms.deadmansSwitch then comms.stopped bus else comms) with
            deadmansSwitch := true }
        else comms) := by
  unfold deadmansSwitchIteration
  cases enabled : comms.deadmansSwitchEnabled
  · simp [enabled]
  · cases switch : comms.deadmansSwitch
    · simp [enabled, switch]
    · simp [enabled, switch, run_lock, free, stopped, called]

/-! ## Bulk commands -/

/-- No thread uses the object, and its servos have their ids. -/
structure Resting (comms : DynamixelComms) : Prop where
  free : comms.commsMutex = none
  empty : comms.groupBulkWrite = []
  ids : ∀ member, (comms.servo member).dxlId = member.id

/-- Four values, one for each wheel. -/
def perWheel {α : Type} (frontLeft frontRight rearLeft rearRight : α) :
    Member → Option α
  | .motorFrontLeft => some frontLeft
  | .motorFrontRight => some frontRight
  | .motorRearLeft => some rearLeft
  | .motorRearRight => some rearRight
  | .servoTurret => none

/-- The parameters that the bulk commands collect. -/
def wheelParams (address : Nat)
    (frontLeft frontRight rearLeft rearRight : Bytes) : List BulkParam :=
  [{ id := leftFrontId, address := address, data := frontLeft },
    { id := rightFrontId, address := address, data := frontRight },
    { id := leftRearId, address := address, data := rearLeft },
    { id := rightRearId, address := address, data := rearRight }]

/-- A bulk write leaves the handlers alone. -/
theorem bulkWrite_handlersSet
    (world : World R)
    (params : List BulkParam)
    (servo : DynamixelServo) :
    (bulkWrite world params servo).handlersSet = servo.handlersSet := by
  induction params generalizing servo with
  | nil => rfl
  | cons param params inductionHypothesis =>
      refine (inductionHypothesis _).trans ?_
      dsimp only
      split <;> rfl

/-- A bulk write to the wheels reaches each wheel once. -/
theorem bulkWrite_wheelParams
    (world : World R)
    {servo : DynamixelServo}
    {member : Member}
    (named : servo.dxlId = member.id)
    (address : Nat)
    (frontLeft frontRight rearLeft rearRight : Bytes) :
    bulkWrite world
        (wheelParams address frontLeft frontRight rearLeft rearRight) servo =
      match perWheel frontLeft frontRight rearLeft rearRight member with
      | some data => servo.exchange world (.write4 address data.register)
      | none => servo := by
  cases member <;>
    simp [bulkWrite, wheelParams, perWheel, named, Member.id, leftFrontId,
      rightFrontId, leftRearId, rightRearId, turretId]

theorem run_addParam
    (member : Member)
    (address : Nat)
    (data : Bytes)
    (new : (comms.servo member).dxlId ∉
      comms.groupBulkWrite.map BulkParam.id) :
    run (execute bus thread) (addParam member address data) comms =
      some ((),
        { comms with
          groupBulkWrite := comms.groupBulkWrite ++
            [{ id := (comms.servo member).dxlId
               address := address
               data := data }] }) := by
  unfold addParam
  rw [run_bind, run_getId, Option.bind_some, run_bind,
    run_bulkAddParam _ _ _ new]
  rfl

/-- The four mode changes of the bulk commands. -/
def configuredAll (mode : OperatingMode) : DynamixelComms :=
  (((comms.called bus .motorFrontLeft (.configureControlMode mode)).called bus
    .motorFrontRight (.configureControlMode mode)).called bus .motorRearLeft
      (.configureControlMode mode)).called bus .motorRearRight
        (.configureControlMode mode)

theorem configuredAll_dxlId
    (mode : OperatingMode)
    (member : Member) :
    ((comms.configuredAll bus mode).servo member).dxlId =
      (comms.servo member).dxlId := by
  cases member <;> simp [configuredAll, called]

/-- The state in which a bulk command begins to collect its values. -/
def readied (mode : OperatingMode) : DynamixelComms :=
  { comms.configuredAll bus mode with commsMutex := some thread }

/-- The beginning of the bulk commands. -/
theorem run_configureAll
    (free : comms.commsMutex = none)
    (mode : OperatingMode)
    (next : CommsM R Unit) :
    run (execute bus thread)
        (do
          lock
          configureControlMode .motorFrontLeft mode
          configureControlMode .motorFrontRight mode
          configureControlMode .motorRearLeft mode
          configureControlMode .motorRearRight mode
          next) comms =
      run (execute bus thread) next (comms.readied bus thread mode) := by
  simp [run_lock, free, readied, configuredAll, called]

/-- The parameters that a bulk command has added, one after the other. -/
theorem run_addParams
    (empty : comms.groupBulkWrite = [])
    (ids : ∀ member, (comms.servo member).dxlId = member.id)
    (address : Nat)
    (frontLeft frontRight rearLeft rearRight : Bytes)
    (next : CommsM R Unit) :
    run (execute bus thread)
        (do
          addParam .motorFrontLeft address frontLeft
          addParam .motorFrontRight address frontRight
          addParam .motorRearLeft address rearLeft
          addParam .motorRearRight address rearRight
          next) comms =
      run (execute bus thread) next
        { comms with
          groupBulkWrite :=
            wheelParams address frontLeft frontRight rearLeft rearRight } := by
  rw [run_bind, run_addParam _ _ _ _ _ _ (by simp [empty]), Option.bind_some,
    run_bind, run_addParam _ _ _ _ _ _
      (by simp [empty, ids, Member.id, leftFrontId, rightFrontId]),
    Option.bind_some, run_bind, run_addParam _ _ _ _ _ _
      (by simp [empty, ids, Member.id, leftFrontId, rightFrontId, leftRearId]),
    Option.bind_some, run_bind, run_addParam _ _ _ _ _ _
      (by
        simp [empty, ids, Member.id, leftFrontId, rightFrontId, leftRearId,
          rightRearId]), Option.bind_some]
  simp only [empty, ids, Member.id, wheelParams, List.nil_append,
    List.cons_append]

/-- The state after a bulk write of values to some members. -/
def written (address : Nat) (data : Member → Option Bytes) : DynamixelComms :=
  { comms with
    servo := fun member =>
      match data member with
      | some bytes =>
          (comms.servo member).exchange (bus.world member)
            (.write4 address bytes.register)
      | none => comms.servo member }

/-- The values that `SetAllRPM` writes. -/
def velocityData (frontLeft frontRight rearLeft rearRight : R) :
    Member → Option Bytes :=
  perWheel (convertRPMToGoalVelocity bus.cast frontLeft)
    (convertRPMToGoalVelocity bus.cast (-frontRight))
    (convertRPMToGoalVelocity bus.cast rearLeft)
    (convertRPMToGoalVelocity bus.cast (-rearRight))

theorem run_setAllRPM
    (resting : comms.Resting)
    (frontLeft frontRight rearLeft rearRight : R) :
    run (execute bus thread)
        (setAllRPM bus.cast frontLeft frontRight rearLeft rearRight) comms =
      some ((),
        { (comms.configuredAll bus .velocityControlMode).written bus
            addrGoalVelocity
            (velocityData bus frontLeft frontRight rearLeft rearRight) with
          deadmansSwitchEnabled := true
          deadmansSwitch := false }) := by
  have empty :
      (comms.readied bus thread .velocityControlMode).groupBulkWrite = [] :=
    resting.empty
  have ids : ∀ member,
      ((comms.readied bus thread .velocityControlMode).servo member).dxlId =
        member.id :=
    fun member =>
      (comms.configuredAll_dxlId bus _ member).trans (resting.ids member)
  unfold setAllRPM
  rw [run_configureAll _ _ _ resting.free]
  dsimp only
  rw [run_addParams _ _ _ empty ids]
  simp only [run_bind, run_txPacket, run_clearParam, deadmansSwitchEnable,
    deadmansSwitchReset, run_storeEnabled, run_storeSwitch, run_unlock,
    Option.bind_some, bulkWrite_wheelParams _ (ids _)]
  have free : (comms.configuredAll bus .velocityControlMode).commsMutex = none :=
    resting.free
  have bulk :
      (comms.configuredAll bus .velocityControlMode).groupBulkWrite = [] :=
    resting.empty
  simp only [written, free, bulk]
  rfl

/-- The four readings of `SetAllRelativePosition`. -/
def readAll : DynamixelComms :=
  (((comms.called bus .motorFrontLeft .getPresentPosition).called bus
    .motorFrontRight .getPresentPosition).called bus .motorRearLeft
      .getPresentPosition).called bus .motorRearRight .getPresentPosition

theorem readAll_dxlId (member : Member) :
    ((comms.readAll bus).servo member).dxlId = (comms.servo member).dxlId := by
  cases member <;> simp [readAll, called]

theorem run_readAll (next : Int → Int → Int → Int → CommsM R Unit) :
    run (execute bus thread)
        (do
          let frontLeftPosition ← getPresentPosition .motorFrontLeft
          let frontRightPosition ← getPresentPosition .motorFrontRight
          let rearLeftPosition ← getPresentPosition .motorRearLeft
          let rearRightPosition ← getPresentPosition .motorRearRight
          next frontLeftPosition frontRightPosition rearLeftPosition
            rearRightPosition) comms =
      run (execute bus thread)
        (next
          ((comms.servo .motorFrontLeft).reportedPosition
            (bus.world .motorFrontLeft))
          ((comms.servo .motorFrontRight).reportedPosition
            (bus.world .motorFrontRight))
          ((comms.servo .motorRearLeft).reportedPosition
            (bus.world .motorRearLeft))
          ((comms.servo .motorRearRight).reportedPosition
            (bus.world .motorRearRight)))
        (comms.readAll bus) := by
  simp [called, readAll]

/-- The goal that `SetAllRelativePosition` computes for a member. -/
def goalData (member : Member) (angleRadians : R) : Bytes :=
  calculateNewGoalPosition bus.cast angleRadians
    ((comms.servo member).reportedPosition (bus.world member))

/-- The values that `SetAllRelativePosition` writes. -/
def positionData (frontLeft frontRight rearLeft rearRight : R) :
    Member → Option Bytes :=
  perWheel (comms.goalData bus .motorFrontLeft frontLeft)
    (comms.goalData bus .motorFrontRight frontRight)
    (comms.goalData bus .motorRearLeft rearLeft)
    (comms.goalData bus .motorRearRight rearRight)

theorem run_setAllRelativePosition
    (resting : comms.Resting)
    (frontLeft frontRight rearLeft rearRight : R) :
    run (execute bus thread)
        (setAllRelativePosition bus.cast frontLeft frontRight rearLeft
          rearRight) comms =
      some ((),
        let configured := comms.configuredAll bus .extendedPositionControlMode
        { (configured.readAll bus).written bus addrGoalPosition
            (configured.positionData bus frontLeft frontRight rearLeft
              rearRight) with
          deadmansSwitchEnabled := false }) := by
  let disabled : DynamixelComms := { comms with deadmansSwitchEnabled := false }
  let ready := disabled.readied bus thread .extendedPositionControlMode
  have empty : (ready.readAll bus).groupBulkWrite = [] := resting.empty
  have ids : ∀ member, ((ready.readAll bus).servo member).dxlId = member.id :=
    fun member =>
      (ready.readAll_dxlId bus member).trans
        ((disabled.configuredAll_dxlId bus _ member).trans
          (resting.ids member))
  unfold setAllRelativePosition
  rw [run_bind, deadmansSwitchEnable, run_storeEnabled, Option.bind_some]
  change run (execute bus thread) _ disabled = _
  rw [run_configureAll _ _ _ (by exact resting.free), run_readAll,
    run_addParams _ _ _ empty ids]
  simp only [run_bind, run_txPacket, run_clearParam, run_unlock,
    Option.bind_some, bulkWrite_wheelParams _ (ids _)]
  have readied :
      (comms.configuredAll bus .extendedPositionControlMode |>.readAll
        bus).commsMutex = none ∧
      (comms.configuredAll bus .extendedPositionControlMode |>.readAll
        bus).groupBulkWrite = [] := ⟨resting.free, resting.empty⟩
  simp only [written, readied]
  rfl

/-! ## Runs -/

/-- A command that runs from beginning to end, or an iteration of the deadman's
switch. -/
inductive Turn (R : Type)
  | command (issued : Command R)
  | iteration

/-- The state after a turn, or `none` where it waits for the mutex. -/
def Turn.step (bus : Bus R) (comms : DynamixelComms) :
    Turn R → Option DynamixelComms
  | .command issued =>
      (run (execute bus (.caller 0)) (issued.code bus.cast) comms).map
        Prod.snd
  | .iteration =>
      (run (execute bus .deadmansSwitch) deadmansSwitchIteration comms).map
        Prod.snd

/-- Commands and iterations one after the other. -/
def turns (bus : Bus R) : Machine DynamixelComms (Turn R) where
  step comms turn := turn.step bus comms

/-- The state after a turn that waits for nothing. -/
def taken : Turn R → DynamixelComms
  | .command (.setAllRPM frontLeft frontRight rearLeft rearRight) =>
      { (comms.configuredAll bus .velocityControlMode).written bus
          addrGoalVelocity
          (velocityData bus frontLeft frontRight rearLeft rearRight) with
        deadmansSwitchEnabled := true
        deadmansSwitch := false }
  | .command (.setRPM motor rpm) =>
      { (comms.called bus (front motor) (.setRPM (sideRPM motor rpm))).called
          bus (rear motor) (.setRPM (sideRPM motor rpm)) with
        deadmansSwitchEnabled := true
        deadmansSwitch := false }
  | .command (.setAllRelativePosition frontLeft frontRight rearLeft
      rearRight) =>
      let configured := comms.configuredAll bus .extendedPositionControlMode
      { (configured.readAll bus).written bus addrGoalPosition
          (configured.positionData bus frontLeft frontRight rearLeft
            rearRight) with
        deadmansSwitchEnabled := false }
  | .command (.setRelativePosition motor angleRadians) =>
      { (comms.called bus (front motor)
          (.setRelativePosition angleRadians)).called bus (rear motor)
            (.setRelativePosition angleRadians) with
        deadmansSwitchEnabled := false }
  | .iteration =>
      if comms.deadmansSwitchEnabled then
        { (if comms.deadmansSwitch then comms.stopped bus else comms) with
          deadmansSwitch := true }
      else comms

/-- No turn waits in a resting state. -/
theorem turns_step (resting : comms.Resting) (turn : Turn R) :
    (turns bus).step comms turn = some (comms.taken bus turn) := by
  have ran : ∀ {thread : Thread} {code : CommsM R Unit}
      {next : DynamixelComms},
      run (execute bus thread) code comms = some ((), next) →
        (run (execute bus thread) code comms).map Prod.snd = some next :=
    fun ran => congrArg (Option.map Prod.snd) ran
  cases turn with
  | iteration =>
      exact ran (comms.run_deadmansSwitchIteration bus _ resting.free)
  | command issued =>
      cases issued with
      | setAllRPM => exact ran (comms.run_setAllRPM bus _ resting ..)
      | setRPM => exact ran (comms.run_setRPM bus _ resting.free ..)
      | setAllRelativePosition =>
          exact ran (comms.run_setAllRelativePosition bus _ resting ..)
      | setRelativePosition =>
          exact ran (comms.run_setRelativePosition bus _ resting.free ..)

/-- A run of one turn. -/
theorem run_turn (resting : comms.Resting) (turn : Turn R) :
    (turns bus).run comms [turn] = some (comms.taken bus turn) :=
  (turns bus).run_cons_eq_some.mpr ⟨_, turns_step bus comms resting turn, rfl⟩

theorem called_dxlId (member other : Member) (method : ServoCall R) :
    ((comms.called bus member method).servo other).dxlId =
      (comms.servo other).dxlId := by
  unfold called
  by_cases same : other = member
  · subst same
    simp only [Function.update_self]
    exact method.effect_dxlId ..
  · simp only [Function.update_of_ne same]

theorem written_dxlId
    (address : Nat)
    (data : Member → Option Bytes)
    (member : Member) :
    ((comms.written bus address data).servo member).dxlId =
      (comms.servo member).dxlId := by
  unfold written
  dsimp only
  split <;> rfl

/-- Every turn ends in a resting state. -/
theorem Resting.taken
    {comms : DynamixelComms}
    (resting : comms.Resting)
    (turn : Turn R) :
    (comms.taken bus turn).Resting := by
  have ids := resting.ids
  cases turn with
  | iteration =>
      unfold DynamixelComms.taken
      split_ifs
      · refine ⟨resting.free, resting.empty, fun member => ?_⟩
        simp only [stopped, called_dxlId, ids]
      · exact ⟨resting.free, resting.empty, ids⟩
      · exact resting
  | command issued =>
      cases issued with
      | setAllRPM =>
          refine ⟨resting.free, resting.empty, fun member => ?_⟩
          exact (written_dxlId ..).trans
            ((configuredAll_dxlId ..).trans (ids member))
      | setRPM =>
          refine ⟨resting.free, resting.empty, fun member => ?_⟩
          simp only [DynamixelComms.taken, called_dxlId, ids]
      | setAllRelativePosition =>
          refine ⟨resting.free, resting.empty, fun member => ?_⟩
          exact (written_dxlId ..).trans
            ((readAll_dxlId ..).trans
              ((configuredAll_dxlId ..).trans (ids member)))
      | setRelativePosition =>
          refine ⟨resting.free, resting.empty, fun member => ?_⟩
          simp only [DynamixelComms.taken, called_dxlId, ids]

/-! ## What a turn does to one wheel -/

/-- The wheel servos. -/
def wheels : List Member :=
  [.motorFrontLeft, .motorFrontRight, .motorRearLeft, .motorRearRight]

theorem configuredAll_servo
    (mode : OperatingMode)
    {wheel : Member}
    (isWheel : wheel ∈ wheels) :
    (comms.configuredAll bus mode).servo wheel =
      (comms.servo wheel).configured (bus.world wheel) mode := by
  cases wheel <;> simp [configuredAll, called, wheels] at isWheel ⊢

theorem readAll_servo
    {wheel : Member}
    (isWheel : wheel ∈ wheels) :
    (comms.readAll bus).servo wheel =
      (comms.servo wheel).exchange (bus.world wheel)
        (.read4 addrPresentPosition) := by
  cases wheel <;> simp [readAll, called, wheels] at isWheel ⊢

theorem written_servo
    (address : Nat)
    {data : Member → Option Bytes}
    {wheel : Member}
    {bytes : Bytes}
    (value : data wheel = some bytes) :
    (comms.written bus address data).servo wheel =
      (comms.servo wheel).exchange (bus.world wheel)
        (.write4 address bytes.register) := by
  simp [written, value]

/-- A bulk command has a value for every wheel. -/
theorem perWheel_wheel
    {α : Type}
    (frontLeft frontRight rearLeft rearRight : α)
    {wheel : Member}
    (isWheel : wheel ∈ wheels) :
    ∃ value, perWheel frontLeft frontRight rearLeft rearRight wheel =
      some value := by
  cases wheel <;> simp [wheels, perWheel] at isWheel ⊢

theorem front_injective : Function.Injective front := by
  intro motor other same
  cases motor <;> cases other <;> simp [front] at same ⊢

theorem front_ne_rear (motor : MotorInstance) : front motor ≠ rear motor := by
  cases motor <;> simp [front, rear]

/-- A command for one side calls the same method of its two wheels. -/
theorem calledSide_servo
    (motor : MotorInstance)
    (method : ServoCall R)
    (member : Member) :
    ((comms.called bus (front motor) method).called bus (rear motor)
        method).servo member =
      if member = front motor ∨ member = rear motor then
        method.effect (bus.world member) (comms.servo member)
      else comms.servo member := by
  have different := front_ne_rear motor
  unfold called
  by_cases isRear : member = rear motor
  · subst isRear
    simp [different.symm]
  · by_cases isFront : member = front motor
    · subst isFront
      simp [different]
    · simp [isFront, isRear]

/-- The iteration stops every wheel. -/
theorem stopped_servo
    {wheel : Member}
    (isWheel : wheel ∈ wheels) :
    (comms.stopped bus).servo wheel =
      (ServoCall.setRPM 0).effect (bus.world wheel) (comms.servo wheel) := by
  cases wheel <;> simp [stopped, called, wheels] at isWheel ⊢

end DynamixelComms
end Skatebot
