import Skatebot.Driver.Deadman
import Skatebot.Driver.Encoder
import Skatebot.Driver.Maintenance

/-!
# The total encoder count across reboots

A reboot re-bases the position register as a mode change does, but no reading
is taken around it.  The jump of the register goes into the total with the next
reading.  This module follows the two totals that the object reports through
runs of counting and rebooting, and determines by how much they are off.
-/

namespace Skatebot

open Library ServoM SoleM

variable {R : Type} [Field R] [LinearOrder R] [FloorRing R]

namespace DynamixelServo

variable (world : World R) (servo : DynamixelServo)

/-- What a reboot adds to the position register, less the wheel's motion. -/
def jump : Int :=
  (world.rebase servo.device.packets).toInt - servo.nextPosition world

@[simp] theorem offset_read2 (address : Nat) :
    (servo.exchange world (.read2 address)).offset = servo.offset :=
  servo.offset_exchange world (by simp) (by simp)

theorem offset_reboot (succeed : world.AllSucceed) :
    (servo.exchange world .reboot).offset =
      servo.offset + (servo.jump world : Count64) := by
  unfold offset jump nextPosition
  rw [exchange_device, Device.serve_reboot_presentPosition _ _ (succeed _ _),
    Device.serve_wheelAngle]
  push_cast
  ring

/-- A reboot changes the balance by the jump of the register. -/
theorem balance_reboot
    (succeed : world.AllSucceed)
    (polls : Nat) :
    ((reboot polls : ServoM R _).run world servo).2.balance =
      servo.balance + (servo.jump world : Count64) := by
  apply reboot_invariant
    (fun state => state.balance = servo.balance + (servo.jump world : Count64))
  · intro state kept
    unfold balance at kept ⊢
    rw [account_exchange, offset_read4, kept]
  · unfold balance
    rw [account_exchange, offset_reboot _ _ succeed, add_assoc]

end DynamixelServo

namespace DynamixelComms

/-! ## Operations on one wheel -/

/-- The reading that an operation counts the wheel's turn with is that of a
32-bit register, less than 2³¹ from the last one. -/
def ReadsOn (bus : Bus R) (motor : MotorInstance) (comms : DynamixelComms)
    (operation : Operation R) : Prop :=
  operation = .getTotalEncoderCount motor →
    (comms.servo (front motor)).ReadsOn (bus.world (front motor))

/-- By how much an operation moves the register of a side's front servo without
turning the wheel: by the jump, if it reboots that servo. -/
def jump (bus : Bus R) (motor : MotorInstance) (comms : DynamixelComms) :
    Operation R → Int
  | .reboot _ servo =>
      if rebooted servo = front motor then
        (comms.servo (front motor)).jump (bus.world (front motor))
      else 0
  | _ => 0

variable {bus : Bus R} {motor : MotorInstance}

theorem front_mem_wheels (motor : MotorInstance) : front motor ∈ wheels := by
  cases motor <;> simp [front, wheels]

/-- Operations other than turns change the balance of a side's front servo by
its jumps. -/
theorem balance_operate
    (succeed : bus.AllSucceed)
    {comms next : DynamixelComms}
    {operation : Operation R}
    (upkeep : Upkeep operation)
    (readsOn : ReadsOn bus motor comms operation)
    (operated : operate bus comms operation = some next) :
    (next.servo (front motor)).balance =
      (comms.servo (front motor)).balance +
        (jump bus motor comms operation : Count64) := by
  obtain ⟨-, servos⟩ := operate_upkeep upkeep operated
  rw [servos _ (front_mem_wheels motor)]
  have same : ∀ count : Count64, count = count + ((0 : Int) : Count64) := by
    simp
  cases operation with
  | turn turn => exact absurd rfl (upkeep turn)
  | getHardwareStatus => exact same _
  | setServoPosition servo angleDegrees => exact same _
  | getVoltage servo =>
      simp only [upkept, jump]
      split
      · refine Eq.trans ?_ (same _)
        unfold DynamixelServo.balance
        rw [DynamixelServo.account_exchange, DynamixelServo.offset_read2]
      · exact same _
  | getTotalEncoderCount asked =>
      simp only [upkept, jump]
      split
      next here =>
        obtain rfl := front_injective here
        have counts := DynamixelServo.counts_of_readsOn _ _
          (succeed (front motor)) (readsOn rfl)
        refine Eq.trans ?_ (same _)
        unfold DynamixelServo.balance
        rw [DynamixelServo.account_counted _ _ counts,
          DynamixelServo.offset_updated]
      next => exact same _
  | reboot polls servo =>
      simp only [upkept, jump, eq_comm (a := front motor)]
      split
      · exact DynamixelServo.balance_reboot _ _ (succeed _) polls
      · exact same _

/-- What `GetTotalEncoderCount` returns, and the servo that it leaves. -/
theorem getTotalEncoderCount_updated
    {comms : DynamixelComms}
    {outcome : Int × DynamixelComms}
    (counted : getTotalEncoderCount bus motor comms = some outcome) :
    outcome.1 =
        ((comms.servo (front motor)).updated (bus.world (front motor))
          false).totalEncoderCount ∧
      outcome.2.servo (front motor) =
        (comms.servo (front motor)).updated (bus.world (front motor))
          false := by
  cases motor <;>
    obtain rfl := Option.some.inj (scopedLock_eq_some.mp counted).2 <;>
    simp [front]

/-- A total that is counted from an admissible reading is the balance plus the
wheel's angle. -/
theorem getTotalEncoderCount_balance
    (succeed : bus.AllSucceed)
    {comms : DynamixelComms}
    {outcome : Int × DynamixelComms}
    (readsOn : (comms.servo (front motor)).ReadsOn (bus.world (front motor)))
    (counted : getTotalEncoderCount bus motor comms = some outcome) :
    (outcome.1 : Count64) =
      (comms.servo (front motor)).balance +
        ((outcome.2.servo (front motor)).device.wheelAngle : Count64) := by
  obtain ⟨total, servo⟩ := getTotalEncoderCount_updated counted
  rw [total, servo]
  exact DynamixelServo.total_of_readsOn (succeed (front motor)) readsOn

/-- A total is a 64-bit number. -/
theorem getTotalEncoderCount_fits
    {comms : DynamixelComms}
    {outcome : Int × DynamixelComms}
    (counted : getTotalEncoderCount bus motor comms = some outcome) :
    Fits 64 outcome.1 := by
  rw [(getTotalEncoderCount_updated counted).1]
  exact fits_int64 _

/-! ## Two totals -/

/-- Counting and rebooting change the balance of a side's front servo by the
jumps of the reboots. -/
theorem balance_between
    (succeed : bus.AllSucceed)
    {first second : DynamixelComms}
    {between : List (Operation R)}
    (upkeep : ∀ operation ∈ between, Upkeep operation)
    (readsOn : (operations bus).Along (ReadsOn bus motor) first between)
    (reached : (operations bus).run first between = some second) :
    (second.servo (front motor)).balance =
      (first.servo (front motor)).balance +
        (operations bus).sumAlong
          (fun comms operation => (jump bus motor comms operation : Count64))
          first between := by
  have both :=
    (Machine.along_of_forall _ (fun operation among _ =>
      upkeep operation among) _).and _ readsOn
  have raised : ∀ {comms : DynamixelComms} {operation : Operation R}
      {next : DynamixelComms},
      Upkeep operation ∧ ReadsOn bus motor comms operation →
        (operations bus).step comms operation = some next →
        (next.servo (front motor)).balance =
          (comms.servo (front motor)).balance +
            (jump bus motor comms operation : Count64) :=
    fun given stepped => balance_operate succeed given.1 given.2 stepped
  exact Machine.potential_of_along _ raised both reached

/-- Two totals of a side, with counting and rebooting between them, differ by
the true motion of the wheel exactly when the jumps of its register at the
reboots cancel out: always as 64-bit counts, and as integers where the total
does not overflow. -/
theorem totals_differ_iff
    (succeed : bus.AllSucceed)
    {first second : DynamixelComms}
    {between : List (Operation R)}
    {earlier later : Int × DynamixelComms}
    (upkeep : ∀ operation ∈ between, Upkeep operation)
    (readsOn :
      (operations bus).Along (ReadsOn bus motor) first
        (.getTotalEncoderCount motor ::
          (between ++ [.getTotalEncoderCount motor])))
    (counted : getTotalEncoderCount bus motor first = some earlier)
    (reached : (operations bus).run earlier.2 between = some second)
    (recounted : getTotalEncoderCount bus motor second = some later) :
    let jumps : Count64 :=
      (operations bus).sumAlong
        (fun comms operation => (jump bus motor comms operation : Count64))
        earlier.2 between
    let motion :=
      (later.2.servo (front motor)).device.wheelAngle -
        (earlier.2.servo (front motor)).device.wheelAngle
    (int64 (later.1 - earlier.1) = int64 motion ↔ jumps = 0) ∧
      (Fits 64 (earlier.1 + motion) →
        (later.1 - earlier.1 = motion ↔ jumps = 0)) := by
  intro jumps motion
  obtain ⟨here, rest⟩ := readsOn
  have operated :
      operate bus first (.getTotalEncoderCount motor) = some earlier.2 :=
    Option.map_eq_some_iff.mpr ⟨earlier, counted, rfl⟩
  obtain ⟨along, last⟩ := (Machine.along_append _).mp (rest _ operated)
  have start :
      (earlier.2.servo (front motor)).balance =
        (first.servo (front motor)).balance := by
    rw [balance_operate succeed (by simp [Upkeep]) here operated]
    simp [jump]
  have stop := balance_between succeed upkeep along reached
  have before := getTotalEncoderCount_balance succeed (here rfl) counted
  have after :=
    getTotalEncoderCount_balance succeed ((last _ reached).1 rfl) recounted
  have counts :
      ((later.1 - earlier.1 : Int) : Count64) = (motion : Count64) + jumps := by
    push_cast
    rw [before, after, stop, start]
    push_cast [motion]
    ring
  refine ⟨?_, fun fits => ⟨fun equal => ?_, fun cancel => ?_⟩⟩
  · rw [int64_eq_iff, counts, add_eq_left]
  · rw [equal] at counts
    exact add_eq_left.mp counts.symm
  · have whole :
        later.1 = earlier.1 + motion := by
      apply eq_of_count_eq (getTotalEncoderCount_fits recounted) fits
      rw [cancel, add_zero] at counts
      push_cast at counts ⊢
      rw [← counts]
      ring
    rw [whole]
    ring

/-! ## A failing run -/

/-- A calm bus on which the wheels turn by 1000 counts before one packet. -/
def travelling (packet : Nat) : Bus ℚ where
  world _ :=
    { World.calm ℚ with
      motion := fun now => if now = packet then 1000 else 0 }
  cast := FloatCast.wrapping ℚ

theorem travelling_allSucceed (packet : Nat) :
    (travelling packet).AllSucceed := by
  intro member packet request
  rfl

/-- The object after a first total, which is asked for with packet 8. -/
def countedOnce (packet : Nat) : DynamixelComms :=
  { started with
    servo :=
      Function.update started.servo .motorFrontLeft
        ((started.servo .motorFrontLeft).updated
          ((travelling packet).world .motorFrontLeft) false) }

/-- The object after a reboot of the front left servo. -/
def rebootedOnce (packet : Nat) : DynamixelComms :=
  { countedOnce packet with
    servo :=
      Function.update (countedOnce packet).servo .motorFrontLeft
        ((DynamixelServo.reboot 1 : ServoM ℚ _).run
          ((travelling packet).world .motorFrontLeft)
          ((countedOnce packet).servo .motorFrontLeft)).2 }

theorem travelling_readsOn {packet : Nat}
    (chosen : packet = 8 ∨ packet = 11) :
    (operations (travelling packet)).Along
      (ReadsOn (travelling packet) .motorLeft) started
      (.getTotalEncoderCount .motorLeft ::
        ([.reboot 1 .servoLeftFront] ++
          [.getTotalEncoderCount .motorLeft])) := by
  rcases chosen with rfl | rfl
  all_goals
    refine ⟨fun _ => ⟨by decide +kernel, by decide +kernel⟩, ?_⟩
    rintro _ ⟨⟩
    refine ⟨nofun, ?_⟩
    rintro _ ⟨⟩
    exact ⟨fun _ => ⟨by decide +kernel, by decide +kernel⟩,
      fun _ _ => trivial⟩

/-- The wheel travels before the first total, and a reboot sets its register
to zero: the second total takes the travel back. -/
theorem reboot_loses_travel :
    ¬∀ (bus : Bus ℚ) (motor : MotorInstance) (first second : DynamixelComms)
        (between : List (Operation ℚ)) (earlier later : Int × DynamixelComms),
      bus.AllSucceed → first.Initialised ℚ →
        (∀ operation ∈ between, Upkeep operation) →
        (operations bus).Along (ReadsOn bus motor) first
          (.getTotalEncoderCount motor ::
            (between ++ [.getTotalEncoderCount motor])) →
        getTotalEncoderCount bus motor first = some earlier →
        (operations bus).run earlier.2 between = some second →
        getTotalEncoderCount bus motor second = some later →
          later.1 - earlier.1 =
            (later.2.servo (front motor)).device.wheelAngle -
              (earlier.2.servo (front motor)).device.wheelAngle := by
  intro always
  have differ :=
    always (travelling 8) .motorLeft started (rebootedOnce 8)
      [.reboot 1 .servoLeftFront] (1000, countedOnce 8) _
      (travelling_allSucceed 8) started_initialised (by simp [Upkeep])
      (travelling_readsOn (.inl rfl)) rfl rfl rfl
  exact absurd differ (by decide +kernel)

/-- The wheel travels after the reboot, which sets a register to zero that is
at zero. -/
theorem totals_differ_rebooted :
    ∃ later, getTotalEncoderCount (travelling 11) .motorLeft
        (rebootedOnce 11) = some later ∧
      later.1 - 0 =
        (later.2.servo .motorFrontLeft).device.wheelAngle -
          ((countedOnce 11).servo .motorFrontLeft).device.wheelAngle := by
  have counted :
      getTotalEncoderCount (travelling 11) .motorLeft started =
        some (0, countedOnce 11) := rfl
  have reached :
      (operations (travelling 11)).run (0, countedOnce 11).2
        [.reboot 1 .servoLeftFront] = some (rebootedOnce 11) := rfl
  refine ⟨_, rfl, ?_⟩
  have differ :=
    totals_differ_iff (travelling_allSucceed 11) (by simp [Upkeep])
      (travelling_readsOn (.inr rfl)) counted reached rfl
  exact (differ.2 (by decide +kernel)).mpr (by decide +kernel)

end DynamixelComms
end Skatebot
