import Skatebot.Driver.Startup

/-!
# The driver's code run alone

The driver's code is written in small steps, so that other threads can come
between them.  This module runs it with no other thread taking part.  The
functions of the object then do what they do as single steps, and `Init` leaves
the object that the results about its later life begin with.
-/

namespace Skatebot

open Library DynamixelComms SoleM

variable {R : Type} [Field R] [LinearOrder R] [FloorRing R]

namespace Driver

/-! ## Functions as single steps -/

/-- The object is another one. -/
def withComms (driver : Driver) (comms : DynamixelComms) : Driver :=
  { driver with comms := comms }

/-- Run alone, the code does what a function of the object does in one
step. -/
def Performs (surroundings : Surroundings R) (code : DriverM R α)
    (function : Bus R → SoleM α) : Prop :=
  ∀ (thread : DriverThread) (driver : Driver),
    code.run (perform surroundings thread) driver =
      (function (surroundings.busDuring driver.rclcppOk) driver.comms).map
        fun outcome => (outcome.1, driver.withComms outcome.2)

variable {surroundings : Surroundings R}

theorem performs_pure (value : α) :
    Performs surroundings (pure value) fun _ => pure value :=
  fun _ _ => rfl

theorem Performs.bind
    {α β : Type}
    {code : DriverM R α}
    {function : Bus R → SoleM α}
    (first : Performs surroundings code function)
    {next : α → DriverM R β}
    {continuation : α → Bus R → SoleM β}
    (second : ∀ value,
      Performs surroundings (next value) (continuation value)) :
    Performs surroundings (code >>= next) fun bus =>
      function bus >>= fun value => continuation value bus := by
  intro thread driver
  rw [Program.run_bind, first thread driver]
  cases ran : function (surroundings.busDuring driver.rclcppOk)
      driver.comms with
  | none => simp [StateT.bind, Bind.bind, ran]
  | some outcome =>
      rw [Option.map_some, Option.bind_some, second outcome.1]
      simp [StateT.bind, Bind.bind, ran, withComms]

/-! ## Methods of the servos -/

theorem performs_call
    (member : Member)
    (method : ServoCall R) :
    Performs surroundings (call member method) fun bus =>
      SoleM.method bus member method.method := by
  intro thread driver
  exact Program.run_perform ..

theorem performs_use_getStatus (member : Member) :
    Performs surroundings (use member .getStatus) fun bus =>
      SoleM.method bus member DynamixelServo.getStatus := by
  intro thread driver
  exact Program.run_perform ..

theorem performs_use_getVoltage (member : Member) :
    Performs surroundings (use member .getVoltage) fun bus =>
      SoleM.method bus member DynamixelServo.getVoltage := by
  intro thread driver
  exact Program.run_perform ..

theorem performs_rebootServo (member : Member) :
    Performs surroundings (rebootServo member) fun bus =>
      awaited bus member (DynamixelServo.reboot surroundings.polls) := by
  intro thread driver
  refine (Program.run_perform ..).trans ?_
  refine (Option.map_map ..).trans ?_
  simp only [awaited, Option.map_map]
  rfl

/-! ## Functions under the mutex -/

/-- The step does not look at the mutex, nor change it. -/
def IgnoresMutex (body : SoleM α) : Prop :=
  ∀ (comms : DynamixelComms) (holder : Option Thread),
    body { comms with commsMutex := holder } =
      (body comms).map fun outcome =>
        (outcome.1, { outcome.2 with commsMutex := holder })

theorem ignoresMutex_pure (value : α) :
    IgnoresMutex (pure value) :=
  fun _ _ => rfl

theorem IgnoresMutex.bind
    {α β : Type}
    {body : SoleM α}
    (first : IgnoresMutex body)
    {next : α → SoleM β}
    (second : ∀ value, IgnoresMutex (next value)) :
    IgnoresMutex (body >>= next) := by
  intro comms holder
  simp only [Bind.bind, StateT.bind, first comms holder]
  cases body comms with
  | none => rfl
  | some outcome => exact second outcome.1 outcome.2 holder

theorem ignoresMutex_method
    (bus : Bus R)
    (member : Member)
    (method : ServoM R α) :
    IgnoresMutex (SoleM.method bus member method) :=
  fun _ _ => rfl

theorem ignoresMutex_awaited
    (bus : Bus R)
    (member : Member)
    (method : ServoM R (Option α)) :
    IgnoresMutex (awaited bus member method) := by
  intro comms holder
  simp only [awaited, Option.map_map]
  rfl

theorem ignoresMutex_foldlM
    {α β : Type}
    {step : β → α → SoleM β}
    (steps : ∀ value item, IgnoresMutex (step value item))
    (items : List α)
    (value : β) :
    IgnoresMutex (items.foldlM step value) := by
  induction items generalizing value with
  | nil => exact ignoresMutex_pure value
  | cons item items inductionHypothesis =>
      rw [List.foldlM_cons]
      exact (steps value item).bind fun next => inductionHypothesis next

/-- Acquiring the mutex where it is free, and waiting where it is not. -/
theorem run_lock (thread : DriverThread) (driver : Driver) :
    lock.run (perform surroundings thread) driver =
      if driver.comms.commsMutex = none then
        some ((),
          driver.withComms
            { driver.comms with commsMutex := some thread.identity })
      else none := by
  refine (Program.run_perform ..).trans ?_
  simp only [perform, execute]
  split
  · rfl
  · rfl

/-- A function under the mutex. -/
theorem Performs.scopedLock
    {code : DriverM R α}
    {function : Bus R → SoleM α}
    (performs : Performs surroundings code function)
    (ignores : ∀ bus, IgnoresMutex (function bus)) :
    Performs surroundings (Driver.scopedLock code) fun bus =>
      SoleM.scopedLock (function bus) := by
  intro thread driver
  unfold Driver.scopedLock SoleM.scopedLock
  rw [Program.run_bind, run_lock]
  dsimp only
  by_cases free : driver.comms.commsMutex = none
  · rw [if_pos free, if_pos free, Option.bind_some, Program.run_bind,
      performs thread]
    let bus := surroundings.busDuring driver.rclcppOk
    have held := ignores bus driver.comms (some thread.identity)
    have freed := ignores bus driver.comms none
    have same : { driver.comms with commsMutex := none } = driver.comms := by
      rw [← free]
    rw [same] at freed
    change Option.bind (Option.map _ (function bus
      { driver.comms with commsMutex := some thread.identity })) _ =
        Option.map _ (function bus driver.comms)
    rw [held]
    cases ran : function bus driver.comms with
    | none => rfl
    | some outcome =>
        rw [ran] at freed
        exact congrArg (Option.map fun outcome =>
          (outcome.1, driver.withComms outcome.2)) freed.symm
  · rw [if_neg free, if_neg free]
    rfl

/-! ## Callbacks -/

/-- A command does what it does on the object alone. -/
theorem run_onComms
    (thread : DriverThread)
    (driver : Driver)
    (code : CommsM R α) :
    (onComms code).run (perform surroundings thread) driver =
      (code.run
        (execute (surroundings.busDuring driver.rclcppOk) thread.identity)
        driver.comms).map
          fun outcome => (outcome.1, driver.withComms outcome.2) :=
  Program.run_translate _ driver.withComms (fun _ _ => Option.map_map ..) code
    driver.comms

theorem performs_getTotalEncoderCount (motor : MotorInstance) :
    Performs surroundings (Driver.getTotalEncoderCount motor) fun bus =>
      DynamixelComms.getTotalEncoderCount bus motor := by
  cases motor with
  | motorLeft =>
      exact (performs_call .motorFrontLeft .getTotalEncoderCount).scopedLock
        fun bus => ignoresMutex_method bus _ _
  | motorRight =>
      exact (performs_call .motorFrontRight .getTotalEncoderCount).scopedLock
        fun bus => ignoresMutex_method bus _ _

theorem performs_getVoltage (servo : ServoInstance) :
    Performs surroundings (Driver.getVoltage servo) fun bus =>
      DynamixelComms.getVoltage bus servo :=
  (performs_use_getVoltage .motorFrontLeft).scopedLock
    fun bus => ignoresMutex_method bus _ _

theorem performs_setServoPosition
    (servo : ServoInstance)
    (angleDegrees : R) :
    Performs surroundings (Driver.setServoPosition servo angleDegrees)
      fun bus => DynamixelComms.setServoPosition bus servo angleDegrees := by
  unfold Driver.setServoPosition DynamixelComms.setServoPosition
  split
  · exact (performs_call .servoTurret (.setPosition angleDegrees)).scopedLock
      fun bus => ignoresMutex_method bus _ _
  · exact performs_pure ()

/-- An iteration of the loop over the servos. -/
theorem performs_addStatus (result : List (ServoStatus R)) (i : Nat) :
    Performs surroundings (Driver.addStatus result i) fun bus =>
      DynamixelComms.addStatus bus result i := by
  unfold Driver.addStatus DynamixelComms.addStatus
  cases askedServo i with
  | some member =>
      exact (performs_use_getStatus member).bind fun _ => performs_pure _
  | none => exact performs_pure result

theorem ignoresMutex_addStatus
    (bus : Bus R)
    (result : List (ServoStatus R))
    (i : Nat) :
    IgnoresMutex (DynamixelComms.addStatus bus result i) := by
  unfold DynamixelComms.addStatus
  split
  · exact (ignoresMutex_method bus _ _).bind fun _ => ignoresMutex_pure _
  · exact ignoresMutex_pure _

theorem Performs.foldlM
    {α β : Type}
    {step : β → α → DriverM R β}
    {function : β → α → Bus R → SoleM β}
    (steps : ∀ value item,
      Performs surroundings (step value item) (function value item))
    (items : List α)
    (value : β) :
    Performs surroundings (items.foldlM step value) fun bus =>
      items.foldlM (fun value item => function value item bus) value := by
  induction items generalizing value with
  | nil => exact performs_pure value
  | cons item items inductionHypothesis =>
      simp only [List.foldlM_cons]
      exact (steps value item).bind inductionHypothesis

theorem performs_getHardwareStatus :
    Performs surroundings Driver.getHardwareStatus fun bus =>
      DynamixelComms.getHardwareStatus bus :=
  (Performs.foldlM performs_addStatus _ _).scopedLock fun bus =>
    ignoresMutex_foldlM (ignoresMutex_addStatus bus) _ _

theorem performs_reboot (servo : ServoInstance) :
    Performs surroundings (Driver.reboot servo) fun bus =>
      DynamixelComms.reboot bus surroundings.polls servo := by
  unfold Driver.reboot DynamixelComms.reboot
  dsimp only
  rw [rebootedServo_getServoId]
  exact (performs_rebootServo _).scopedLock fun bus => ignoresMutex_awaited bus _ _

/-- An iteration of the loop over the statuses, whatever has been reported. -/
theorem performs_rebootOverloaded
    (servoStatus : ServoStatus R)
    (report : DiagnosticsNode.Report R) :
    Performs surroundings
      (do
        rebootOverloaded servoStatus
        pure
          ({ report.1 with
              status :=
                report.1.status ++ [DiagnosticsNode.statusItem servoStatus] },
            if DiagnosticsNode.Overloaded servoStatus.hardwareStatus then
              report.2 ++ [servoStatus.servoInstance]
            else report.2))
      fun bus =>
        DiagnosticsNode.addServoStatus bus surroundings.polls report
          servoStatus := by
  unfold rebootOverloaded DiagnosticsNode.addServoStatus
  split
  · simp only [pure_bind]
    exact (performs_reboot _).bind fun _ => performs_pure _
  · exact performs_pure _

/-- The loop over the statuses, whatever has been reported. -/
theorem performs_rebootAll
    (status : List (ServoStatus R))
    (report : DiagnosticsNode.Report R) :
    Performs surroundings (status.forM rebootOverloaded) fun bus =>
      status.foldlM (DiagnosticsNode.addServoStatus bus surroundings.polls)
        report >>= fun _ => pure () := by
  induction status generalizing report with
  | nil => exact performs_pure ()
  | cons servoStatus status inductionHypothesis =>
      have looped := (performs_rebootOverloaded servoStatus report).bind
        inductionHypothesis
      simp only [Program.bind_assoc_eq] at looped
      simp only [List.foldlM_cons, bind_assoc]
      exact looped

/-- The diagnostics node's callback asks of the object what its report is made
of. -/
theorem performs_diagnose (connected : Bool) (now : R) :
    Performs surroundings diagnose fun bus =>
      DiagnosticsNode.timerCallback bus surroundings.polls connected now >>=
        fun _ => pure () := by
  unfold DiagnosticsNode.timerCallback DiagnosticsNode.addServoStatusMessage
  simp only [bind_assoc]
  exact performs_getHardwareStatus.bind fun status =>
    performs_rebootAll status _

/-! ## Initialisation -/

@[simp] theorem withServo_withServo
    (driver : Driver)
    (member : Member)
    (first second : DynamixelServo) :
    (driver.withServo member first).withServo member second =
      driver.withServo member second := by
  simp [withServo]

@[simp] theorem withServo_rclcppOk
    (driver : Driver)
    (member : Member)
    (servo : DynamixelServo) :
    (driver.withServo member servo).rclcppOk = driver.rclcppOk := rfl

@[simp] theorem withServo_servo_self
    (driver : Driver)
    (member : Member)
    (servo : DynamixelServo) :
    (driver.withServo member servo).comms.servo member = servo :=
  Function.update_self ..

@[simp] theorem run_ok (thread : DriverThread) (driver : Driver) :
    ok.run (perform surroundings thread) driver =
      some (driver.rclcppOk, driver) :=
  Program.run_perform ..

@[simp] theorem run_openPort (thread : DriverThread) (driver : Driver) :
    openPort.run (perform surroundings thread) driver =
      some (surroundings.portOpens, driver) :=
  Program.run_perform ..

@[simp] theorem run_setBaudRate (thread : DriverThread) (driver : Driver) :
    setBaudRate.run (perform surroundings thread) driver =
      some (surroundings.baudRateSet, driver) :=
  Program.run_perform ..

@[simp] theorem run_findModel (thread : DriverThread) (driver : Driver) :
    findModel.run (perform surroundings thread) driver =
      some (surroundings.modelNumber.isSome, driver) :=
  Program.run_perform ..

@[simp] theorem run_newGroupBulkWrite
    (thread : DriverThread)
    (driver : Driver) :
    newGroupBulkWrite.run (perform surroundings thread) driver =
      some ((), { driver with groupBulkWriteSet := true }) :=
  Program.run_perform ..

@[simp] theorem run_finishInit (thread : DriverThread) (driver : Driver) :
    finishInit.run (perform surroundings thread) driver =
      some ((), { driver with initFinished := true }) :=
  Program.run_perform ..

@[simp] theorem run_unlock (thread : DriverThread) (driver : Driver) :
    unlock.run (perform surroundings thread) driver =
      some ((),
        driver.withComms { driver.comms with commsMutex := none }) :=
  Program.run_perform ..

@[simp] theorem run_exit (thread : DriverThread) (driver : Driver) :
    exit.run (perform surroundings thread) driver = none :=
  Program.run_bind ..

@[simp] theorem run_setHandlers
    (thread : DriverThread)
    (driver : Driver)
    (member : Member) :
    (setHandlers member).run (perform surroundings thread) driver =
      some ((),
        driver.withServo member
          { driver.comms.servo member with
            modelNumber := surroundings.modelNumber.getD 0
            dxlId := member.id
            config := member.configuration
            handlersSet := true }) :=
  Program.run_perform ..

@[simp] theorem run_rebootServo
    (thread : DriverThread)
    (driver : Driver)
    (member : Member) :
    (rebootServo member).run (perform surroundings thread) driver =
      let outcome :=
        (DynamixelServo.reboot surroundings.polls).run
          ((surroundings.busDuring driver.rclcppOk).world member)
          (driver.comms.servo member)
      outcome.1.map fun _ => ((), driver.withServo member outcome.2) :=
  (Program.run_perform ..).trans (Option.map_map ..)

@[simp] theorem run_setOperatingMode
    (thread : DriverThread)
    (driver : Driver)
    (member : Member)
    (mode : OperatingMode) :
    (setOperatingMode member mode).run (perform surroundings thread) driver =
      some ((),
        driver.withServo member
          ((DynamixelServo.setOperatingMode mode).run
            ((surroundings.busDuring driver.rclcppOk).world member)
            (driver.comms.servo member)).2) :=
  Program.run_bind ..

@[simp] theorem run_enableTorque
    (thread : DriverThread)
    (driver : Driver)
    (member : Member)
    (enable : Bool) :
    (enableTorque member enable).run (perform surroundings thread) driver =
      some ((),
        driver.withServo member
          ((DynamixelServo.enableTorque enable).run
            ((surroundings.busDuring driver.rclcppOk).world member)
            (driver.comms.servo member)).2) :=
  Program.run_bind ..

theorem withServo_servo_of_ne
    (driver : Driver)
    {member other : Member}
    (servo : DynamixelServo)
    (different : other ≠ member) :
    (driver.withServo member servo).comms.servo other =
      driver.comms.servo other :=
  Function.update_of_ne different ..

/-- Run alone, a servo's `Init` does what it does in one step, where the
context is up at its beginning. -/
theorem run_initServo
    (thread : DriverThread)
    {driver : Driver}
    (member : Member)
    (up : driver.rclcppOk = true)
    (packets : (surroundings.bus.world member).rclcppOk
      (driver.comms.servo member).device.packets = true) :
    (initServo member).run (perform surroundings thread) driver =
      let outcome :=
        (DynamixelServo.init surroundings.polls
          (surroundings.modelNumber.getD 0) member.id
          member.configuration).run
            ((surroundings.busDuring true).world member)
            (driver.comms.servo member)
      outcome.1.map fun _ => ((), driver.withServo member outcome.2) := by
  have asked :
      ((surroundings.busDuring true).world member).rclcppOk
        (driver.comms.servo member).device.packets = true :=
    packets
  simp only [initServo, Program.run_bind, run_ok, up, Option.bind_some,
    if_true, run_setHandlers, run_rebootServo, run_setOperatingMode,
    run_enableTorque, withServo_servo_self, withServo_rclcppOk,
    withServo_withServo]
  simp only [DynamixelServo.init, ServoM.run_bind, ServoM.run_world,
    ServoM.run_this, asked, if_true, ServoM.run_assign]
  cases rebooted :
      ((DynamixelServo.reboot surroundings.polls).run
        ((surroundings.busDuring true).world member)
        { driver.comms.servo member with
          modelNumber := surroundings.modelNumber.getD 0
          dxlId := member.id
          config := member.configuration
          handlersSet := true }).1 with
  | none => rfl
  | some reply =>
      simp only [Option.map_some, Option.bind_some, withServo_servo_self,
        withServo_rclcppOk, withServo_withServo, up,
        DynamixelServo.initialMode]
      split
      · rfl
      · rfl

/-- A member's servo has come through its `Init`, having met no failing
packet. -/
structure Begun (R : Type) [Field R] [LinearOrder R] [FloorRing R]
    (member : Member) (servo : DynamixelServo) : Prop where
  initialised : servo.Initialised R
  id : servo.dxlId = member.id
  configuration : servo.config = member.configuration

theorem run_initServo_begun
    (succeed : surroundings.bus.AllSucceed)
    (stays : ∀ member packets,
      (surroundings.bus.world member).rclcppOk packets = true)
    {thread : DriverThread}
    {driver final : Driver}
    {member : Member}
    (up : driver.rclcppOk = true)
    (ran : (initServo member).run (perform surroundings thread) driver =
      some ((), final)) :
    ∃ servo, final = driver.withServo member servo ∧ Begun R member servo := by
  have ok : ((surroundings.busDuring true).world member).rclcppOk
      (driver.comms.servo member).device.packets = true := stays member _
  rw [run_initServo thread member up (stays member _)] at ran
  dsimp only at ran
  generalize returns :
    (DynamixelServo.init _ _ _ _ : ServoM R _).run _ _ = outcome at ran
  obtain ⟨returned, servo⟩ := outcome
  obtain ⟨⟨⟩, rfl, same⟩ := Option.map_eq_some_iff.mp ran
  obtain ⟨-, rfl⟩ := Prod.mk.inj same
  obtain ⟨named, configured⟩ :=
    DynamixelServo.init_named (succeed member) ok returns
  exact ⟨servo, rfl, ⟨_, _, _, _, _, _, succeed member, ok, returns⟩, named,
    configured⟩

/-- Some servos of a running driver have come through their `Init`. -/
structure Initialising (R : Type) [Field R] [LinearOrder R] [FloorRing R]
    (done : List Member) (driver : Driver) : Prop where
  begun : ∀ member ∈ done, Begun R member (driver.comms.servo member)
  empty : driver.comms.groupBulkWrite = []
  up : driver.rclcppOk = true

/-- One servo more. -/
theorem Initialising.next
    (succeed : surroundings.bus.AllSucceed)
    (stays : ∀ member packets,
      (surroundings.bus.world member).rclcppOk packets = true)
    {thread : DriverThread}
    {done : List Member}
    {driver final : Driver}
    (initialising : Initialising R done driver)
    {member : Member}
    (ran : (initServo member).run (perform surroundings thread) driver =
      some ((), final)) :
    Initialising R (member :: done) final := by
  obtain ⟨servo, rfl, begun⟩ :=
    run_initServo_begun succeed stays initialising.up ran
  refine ⟨fun other among => ?_, initialising.empty, initialising.up⟩
  by_cases here : other = member
  · subst here
    rw [withServo_servo_self]
    exact begun
  · rw [withServo_servo_of_ne _ _ here]
    exact initialising.begun other ((List.mem_cons.mp among).resolve_left here)

/-- The members in the opposite of the order in which `Init` comes to them. -/
def initialised : List Member :=
  [.motorRearRight, .motorFrontRight, .motorRearLeft, .motorFrontLeft,
    .servoTurret]

/-- All the servos. -/
theorem Initialising.initServos
    (succeed : surroundings.bus.AllSucceed)
    (stays : ∀ member packets,
      (surroundings.bus.world member).rclcppOk packets = true)
    {thread : DriverThread}
    {driver final : Driver}
    (initialising : Initialising R [] driver)
    (ran : Driver.initServos.run (perform surroundings thread) driver =
      some ((), final)) :
    Initialising R initialised final := by
  simp only [Driver.initServos, Program.run_bind, run_newGroupBulkWrite,
    run_findModel, Option.bind_some] at ran
  split at ran
  next known =>
    simp only [Program.run_bind, Option.bind_eq_some_iff] at ran
    obtain ⟨⟨_, first⟩, turret, ⟨_, second⟩, frontLeft, ⟨_, third⟩, rearLeft,
      ⟨_, fourth⟩, frontRight, rearRight⟩ := ran
    have ready : Initialising R [] { driver with groupBulkWriteSet := true } :=
      ⟨nofun, initialising.empty, initialising.up⟩
    exact ((((ready.next succeed stays turret).next succeed stays
      frontLeft).next succeed stays rearLeft).next succeed stays
        frontRight).next succeed stays rearRight
  next unknown =>
    rw [run_exit] at ran
    contradiction

/-- `Init` that returns, with the baud rate set and no failing packet, leaves
an initialised object. -/
theorem init_initialised
    (succeed : surroundings.bus.AllSucceed)
    (stays : ∀ member packets,
      (surroundings.bus.world member).rclcppOk packets = true)
    (set : surroundings.baudRateSet = true)
    {thread : DriverThread}
    {driver final : Driver}
    (up : driver.rclcppOk = true)
    (empty : driver.comms.groupBulkWrite = [])
    (ran : Driver.init.run (perform surroundings thread) driver =
      some ((), final)) :
    final.comms.Initialised R := by
  simp only [Driver.init, Driver.scopedLock, initBody, Program.run_bind,
    run_lock, run_openPort, Option.bind_some, Option.bind_eq_some_iff,
    Option.ite_none_right_eq_some] at ran
  obtain ⟨⟨_, locked⟩, ⟨-, acquired⟩, ⟨_, finished⟩,
    ⟨⟨_, begun⟩, body, ended⟩, ⟨_, freed⟩, unlocked, returned⟩ := ran
  obtain ⟨-, rfl⟩ := Prod.mk.inj (Option.some.inj acquired)
  rw [run_finishInit] at ended
  rw [run_unlock] at unlocked
  obtain ⟨-, rfl⟩ := Prod.mk.inj (Option.some.inj ended)
  obtain ⟨-, rfl⟩ := Prod.mk.inj (Option.some.inj unlocked)
  obtain ⟨-, rfl⟩ := Prod.mk.inj (Option.some.inj returned)
  split at body
  next opened =>
    simp only [Program.run_bind, run_setBaudRate, set, Option.bind_some,
      if_true] at body
    have ready : Initialising R []
        (driver.withComms
          { driver.comms with commsMutex := some thread.identity }) :=
      ⟨nofun, empty, up⟩
    have done := ready.initServos succeed stays body
    have all : ∀ member, member ∈ initialised := by
      intro member
      cases member <;> simp [initialised]
    exact
      { servos := fun member => (done.begun member (all member)).initialised
        ids := fun member => (done.begun member (all member)).id
        configurations := fun member =>
          (done.begun member (all member)).configuration
        free := rfl
        empty := done.empty }
  next refused =>
    rw [run_exit] at body
    contradiction

end Driver
end Skatebot
