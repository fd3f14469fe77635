import Skatebot.Driver.Encoder
import Skatebot.Driver.RebootLoop

/-!
# The first total after `Init`

The constructor sets `total_encoder_count_` and leaves `last_encoder_count_` as
the memory was.  `Init` sets the first mode, and that counts once: the first
difference is taken from whatever the memory held.  It stays in the total, and
all that is added later is right.
-/

namespace Skatebot

open Library ServoM

variable {R : Type} [Field R] [LinearOrder R] [FloorRing R]

namespace DynamixelServo

/-- `DynamixelServo::DynamixelServo`, in memory that holds some number where
`last_encoder_count_` lies. -/
def construct (memory : Int) (device : Device) : DynamixelServo where
  modelNumber := 0
  dxlId := 0
  config := .configNone
  handlersSet := false
  totalEncoderCount := 0
  lastEncoderCount := memory
  device := device

/-! ## What the counts have no part in -/

/-- The same object with other counts. -/
def remembering (servo : DynamixelServo) (total last : Int) : DynamixelServo :=
  { servo with
    totalEncoderCount := total
    lastEncoderCount := last }

variable (world : World R) (servo : DynamixelServo) (total last : Int)

@[simp] theorem remembering_remembering (newTotal newLast : Int) :
    (servo.remembering total last).remembering newTotal newLast =
      servo.remembering newTotal newLast := rfl

@[simp] theorem remembering_device :
    (servo.remembering total last).device = servo.device := rfl

@[simp] theorem remembering_total :
    (servo.remembering total last).totalEncoderCount = total := rfl

@[simp] theorem remembering_last :
    (servo.remembering total last).lastEncoderCount = last := rfl

@[simp] theorem remembering_modelNumber :
    (servo.remembering total last).modelNumber = servo.modelNumber := rfl

/-- Packets neither read the counts nor write them. -/
@[simp] theorem exchange_remembering (request : Request) :
    (servo.remembering total last).exchange world request =
      (servo.exchange world request).remembering total last := rfl

/-- Polling goes the same way with other counts. -/
theorem run_pollModelNumber_remembering
    (polls : Nat)
    (modelNumber : BitVec 32) :
    (pollModelNumber polls modelNumber : ServoM R _).run world
        (servo.remembering total last) =
      (((pollModelNumber polls modelNumber : ServoM R _).run world servo).1,
        ((pollModelNumber polls modelNumber : ServoM R _).run world
          servo).2.remembering total last) := by
  induction polls generalizing modelNumber servo with
  | zero => rfl
  | succ polls inductionHypothesis =>
      have next := inductionHypothesis
        (servo.exchange world (.read4 addrModelNumber))
      rw [run_pollModelNumber_step, run_pollModelNumber_step]
      simp only [exchange_remembering, remembering_device,
        remembering_modelNumber, next]
      split <;> rfl

/-- Counting starts from what is remembered. -/
theorem updated_false_remembering :
    (servo.remembering total last).updated world false =
      (servo.updated world false).remembering
        (int64 (total + int32 (servo.reportedPosition world - last)))
        (servo.reportedPosition world) := rfl

/-- Skipping a jump keeps the total and forgets the last reading. -/
theorem updated_true_remembering :
    (servo.remembering total last).updated world true =
      (servo.updated world true).remembering total
        (servo.reportedPosition world) := rfl

/-- Setting a mode counts from the last reading, and leaves one of its own. -/
theorem rebased_remembering (settings : ModeSettings) :
    (servo.remembering total last).rebased world settings =
      (servo.rebased world settings).remembering
        (int64 (total + int32 (servo.reportedPosition world - last)))
        (servo.rebased world settings).lastEncoderCount := by
  unfold rebased switched
  rw [updated_false_remembering]
  simp only [exchange_remembering]
  rw [updated_true_remembering, updated_last]

/-! ## Calls that count nothing -/

/-- Some packets later: nothing was counted, and register and wheel have moved
together. -/
structure Later (servo final : DynamixelServo) : Prop where
  total : final.totalEncoderCount = servo.totalEncoderCount
  last : final.lastEncoderCount = servo.lastEncoderCount
  moved : final.device.presentPosition - servo.device.presentPosition =
    final.device.wheelAngle - servo.device.wheelAngle

namespace Later

variable {servo : DynamixelServo}

theorem refl (servo : DynamixelServo) : Later servo servo :=
  ⟨rfl, rfl, by rw [sub_self, sub_self]⟩

theorem trans
    {middle final : DynamixelServo}
    (first : Later servo middle)
    (second : Later middle final) :
    Later servo final := by
  refine ⟨second.total.trans first.total, second.last.trans first.last, ?_⟩
  have moved := first.moved
  have movedOn := second.moved
  omega

variable (world : World R)

/-- A packet that neither sets the mode nor reboots. -/
theorem exchange
    {final : DynamixelServo}
    (later : Later servo final)
    {request : Request}
    (keeps : ∀ data, request ≠ .write1 addrOperatingMode data)
    (running : request ≠ .reboot) :
    Later servo (final.exchange world request) := by
  refine later.trans ⟨rfl, rfl, ?_⟩
  rw [exchange_device, Device.serve_presentPosition _ _ keeps running,
    Device.serve_wheelAngle, add_sub_cancel_left, add_sub_cancel_left]

end Later

end DynamixelServo

namespace ServoCall

open DynamixelServo

variable (world : World R) (servo : DynamixelServo) (call : ServoCall R)

/-- The call asks for no total, and the mode that it configures is reported
already. -/
def CountsNothing : Prop :=
  call ≠ .getTotalEncoderCount ∧
    ∀ newMode, call.configures = some newMode →
      servo.reportedMode world = newMode

variable {world servo call}

theorem CountsNothing.later (quiet : call.CountsNothing world servo) :
    Later servo (call.effect world servo) := by
  obtain ⟨noTotal, reported⟩ := quiet
  apply call.effect_invariant (Later servo)
  · intro next request keeps running later
    exact later.exchange world (keeps addrOperatingMode) running
  · intro
    exact Later.refl servo
  · intro newMode configures
    rw [configured_of_reported _ _ (reported newMode configures)]
    exact (Later.refl servo).exchange world (by simp) (by simp)
  · intro total
    exact absurd total noTotal

/-- Such a call does the same with other counts. -/
theorem CountsNothing.effect_remembering
    (quiet : call.CountsNothing world servo)
    (total last : Int) :
    call.effect world (servo.remembering total last) =
      (call.effect world servo).remembering total last := by
  obtain ⟨noTotal, reported⟩ := quiet
  have reportedBoth : ∀ newMode, call.configures = some newMode →
      (servo.remembering total last).configured world newMode =
        (servo.configured world newMode).remembering total last := by
    intro newMode configures
    have mode := reported newMode configures
    rw [configured_of_reported _ _ mode, configured_of_reported]
    · rfl
    · exact mode
  cases call with
  | configureControlMode mode =>
      rw [effect_configureControlMode, effect_configureControlMode,
        reportedBoth mode rfl]
  | getId => rfl
  | getPresentPosition =>
      rw [effect_getPresentPosition, effect_getPresentPosition,
        exchange_remembering]
  | getTotalEncoderCount => exact absurd rfl noTotal
  | setPosition angle =>
      rw [effect_setPosition, effect_setPosition, exchange_remembering]
  | setRelativePosition angle =>
      rw [effect_setRelativePosition, effect_setRelativePosition,
        reportedBoth _ rfl, exchange_remembering, exchange_remembering]
      rfl
  | setRPM rpm =>
      rw [effect_setRPM, effect_setRPM, reportedBoth _ rfl,
        exchange_remembering]
      rfl

end ServoCall

/-- A run of calls that count nothing, also with other counts. -/
theorem run_countsNothing
    {world : World R}
    {servo final : DynamixelServo}
    {calls : List (ServoCall R)}
    (quiet : (servoCalls world).Along
      (fun servo call => call.CountsNothing world servo) servo calls)
    (reached : (servoCalls world).run servo calls = some final) :
    DynamixelServo.Later servo final ∧
      ∀ total last,
        (servoCalls world).run (servo.remembering total last) calls =
          some (final.remembering total last) := by
  induction calls generalizing servo with
  | nil =>
      rw [Machine.run_nil] at reached
      rw [← Option.some.inj reached]
      exact ⟨.refl servo, fun total last => rfl⟩
  | cons call calls inductionHypothesis =>
      obtain ⟨_, ⟨⟩, rest⟩ := (Machine.run_cons_eq_some _).mp reached
      obtain ⟨later, again⟩ := inductionHypothesis (quiet.2 _ rfl) rest
      refine ⟨quiet.1.later.trans later, fun total last => ?_⟩
      refine (Machine.run_cons_eq_some _).mpr ⟨_, rfl, ?_⟩
      rw [quiet.1.effect_remembering]
      exact again total last

/-! ## From the constructor to the first total -/

/-- How a servo is brought up: the device that the object is constructed for,
what `Init` is given, and the calls between `Init` and the first
`GetTotalEncoderCount`. -/
structure BringUp (R : Type) [Field R] [LinearOrder R] [FloorRing R] where
  world : World R
  device : Device
  polls : Nat
  modelNumber : BitVec 32
  dxlId : BitVec 8
  config : Configuration
  calls : List (ServoCall R)

namespace BringUp

open DynamixelServo

variable (bringUp : BringUp R)

/-- The servo that `Init` has asked to reboot. -/
def rebooting (memory : Int) : DynamixelServo :=
  let object :=
    { construct memory bringUp.device with
      modelNumber := bringUp.modelNumber
      dxlId := bringUp.dxlId
      config := bringUp.config
      handlersSet := true }
  object.exchange bringUp.world .reboot

/-- The servo after the reboot in `Init`. -/
def rebooted (memory : Int) : DynamixelServo :=
  ((pollModelNumber bringUp.polls 0 : ServoM R _).run bringUp.world
    (bringUp.rebooting memory)).2

/-- What `Init` first reads of the position register after the reboot.  The
object's memory has no part in it. -/
def reading : Int := (bringUp.rebooted 0).reportedPosition bringUp.world

/-- In memory that holds some number, `Init` returns, and the calls after it
count nothing. -/
structure Reaches (memory : Int) (servo final : DynamixelServo) : Prop where
  ok : bringUp.world.rclcppOk bringUp.device.packets = true
  returns :
    (init bringUp.polls bringUp.modelNumber bringUp.dxlId bringUp.config :
      ServoM R _).run bringUp.world (construct memory bringUp.device) =
        (some (), servo)
  quiet :
    (servoCalls bringUp.world).Along
      (fun servo call => call.CountsNothing bringUp.world servo) servo
      bringUp.calls
  reached :
    (servoCalls bringUp.world).run servo bringUp.calls = some final

/-- The servo after `Init`, in memory that held zero. -/
def initialised : DynamixelServo :=
  ((bringUp.rebooted 0).rebased bringUp.world
    (modeSettings bringUp.config (initialMode bringUp.config))).exchange
      bringUp.world (.write1 addrTorqueEnable 1)

theorem rebooted_eq (memory : Int) :
    bringUp.rebooted memory = (bringUp.rebooted 0).remembering 0 memory :=
  congrArg Prod.snd
    ((bringUp.rebooting 0).run_pollModelNumber_remembering bringUp.world 0
      memory bringUp.polls 0)

variable {bringUp} {memory : Int} {servo final : DynamixelServo}

/-- Of what the memory held, `Init` leaves the first difference, in the
total. -/
theorem Reaches.servo_eq
    (succeed : bringUp.world.AllSucceed)
    (reaches : bringUp.Reaches memory servo final) :
    servo =
      bringUp.initialised.remembering (int32 (bringUp.reading - memory))
        bringUp.initialised.lastEncoderCount := by
  have sent : servo =
      ((bringUp.rebooted memory).rebased bringUp.world
        (modeSettings bringUp.config (initialMode bringUp.config))).exchange
          bringUp.world (.write1 addrTorqueEnable 1) :=
    (run_init succeed reaches.ok reaches.returns).2
  have fits : Fits 64 (int32 (bringUp.reading - memory)) :=
    (fits_int32 _).wider (by decide)
  have counted : int64 (0 + int32 (bringUp.reading - memory)) =
      int32 (bringUp.reading - memory) := by
    rw [zero_add, int64_of_fits fits]
  rw [sent, rebooted_eq, rebased_remembering, exchange_remembering, ← counted]
  rfl

/-- The last reading in `Init` is of the register before the motion at its last
packet. -/
theorem initialised_last (succeed : bringUp.world.AllSucceed) :
    bringUp.initialised.lastEncoderCount =
      int32 (bringUp.initialised.device.presentPosition -
        bringUp.world.motion (bringUp.initialised.device.packets - 1)) := by
  unfold initialised rebased
  rw [exchange_last, updated_last, reportedPosition, if_pos (succeed _ _),
    exchange_device, updated_device,
    Device.serve_presentPosition _ _
      (by simp [addrTorqueEnable, addrOperatingMode]) (by simp),
    Device.serve_presentPosition _ _ (by simp) (by simp),
    Device.serve_packets, Device.serve_packets, Nat.add_sub_cancel,
    Device.serve_packets, add_sub_cancel_right]

/-- The first total is the first difference, which is from the memory, and the
true motion since the last reading in `Init`, both as 32-bit numbers. -/
theorem Reaches.first_total
    (succeed : bringUp.world.AllSucceed)
    (reaches : bringUp.Reaches memory servo final) :
    (final.updated bringUp.world false).totalEncoderCount =
      int32 (bringUp.reading - memory) +
        int32 (bringUp.world.motion (servo.device.packets - 1) +
          ((final.updated bringUp.world false).device.wheelAngle -
            servo.device.wheelAngle)) := by
  obtain ⟨later, -⟩ := run_countsNothing reaches.quiet reaches.reached
  have same := reaches.servo_eq succeed
  have total : final.totalEncoderCount = int32 (bringUp.reading - memory) := by
    rw [later.total, same, remembering_total]
  have last : final.lastEncoderCount =
      int32 (servo.device.presentPosition -
        bringUp.world.motion (servo.device.packets - 1)) := by
    rw [later.last, same, remembering_last, remembering_device]
    exact initialised_last succeed
  have difference :
      int32 (final.reportedPosition bringUp.world - final.lastEncoderCount) =
        int32 (bringUp.world.motion (servo.device.packets - 1) +
          ((final.updated bringUp.world false).device.wheelAngle -
            servo.device.wheelAngle)) := by
    have moved := later.moved
    rw [last, reportedPosition, if_pos (succeed _ _), updated_device,
      Device.serve_wheelAngle]
    unfold int32
    rw [← Int.sub_bmod]
    congr 1
    omega
  have fits : Fits 64
      (int32 (bringUp.reading - memory) +
        int32 (final.reportedPosition bringUp.world -
          final.lastEncoderCount)) :=
    (Fits.add (by decide) (fits_int32 _) (fits_int32 _)).wider (by decide)
  rw [updated_false_total, total, int64_of_fits fits, difference]

theorem fits_reading (succeed : bringUp.world.AllSucceed) :
    Fits 32 bringUp.reading := by
  unfold reading reportedPosition
  rw [if_pos (succeed _ _)]
  exact fits_int32 _

/-- Where the wheel stands at the last packet of `Init`, only one content of the
memory makes up for the first reading. -/
theorem Reaches.first_total_of_still
    (succeed : bringUp.world.AllSucceed)
    (remembers : Fits 32 memory)
    (reaches : bringUp.Reaches memory servo final)
    (still : bringUp.world.motion (servo.device.packets - 1) = 0)
    (fits : Fits 32
      ((final.updated bringUp.world false).device.wheelAngle -
        servo.device.wheelAngle)) :
    (final.updated bringUp.world false).totalEncoderCount =
        (final.updated bringUp.world false).device.wheelAngle -
          servo.device.wheelAngle ↔
      memory = bringUp.reading := by
  have zero : int32 (bringUp.reading - bringUp.reading) = 0 := by
    rw [sub_self]
    rfl
  rw [reaches.first_total succeed, still, zero_add, int32_of_fits fits,
    add_eq_right, ← zero]
  exact int32_sub_eq_iff remembers (fits_reading succeed) bringUp.reading

/-- What the memory held decides nothing but the total. -/
theorem Reaches.devices_eq
    (succeed : bringUp.world.AllSucceed)
    (reaches : bringUp.Reaches memory servo final)
    {otherMemory : Int}
    {otherServo otherFinal : DynamixelServo}
    (otherReaches : bringUp.Reaches otherMemory otherServo otherFinal) :
    otherServo.device = servo.device ∧ otherFinal.device = final.device := by
  have servos : otherServo =
      servo.remembering (int32 (bringUp.reading - otherMemory))
        bringUp.initialised.lastEncoderCount := by
    rw [otherReaches.servo_eq succeed, reaches.servo_eq succeed,
      remembering_remembering]
  obtain ⟨-, again⟩ := run_countsNothing reaches.quiet reaches.reached
  have reached := otherReaches.reached
  rw [servos, again] at reached
  constructor
  · rw [servos, remembering_device]
  · rw [← Option.some.inj reached, remembering_device]

/-- The first total is the wheel's motion since `Init` returned exactly where
the first difference makes up for what the motion of the last packet adds; for
a wheel that stands then, exactly where the memory happened to hold the first
reading.  Two runs that differ in the memory never return the same. -/
theorem first_total_iff
    (succeed : bringUp.world.AllSucceed)
    (remembers : Fits 32 memory)
    (reaches : bringUp.Reaches memory servo final) :
    let outcome := (getTotalEncoderCount : ServoM R _).run bringUp.world final
    let motion := outcome.2.device.wheelAngle - servo.device.wheelAngle
    let enabling := bringUp.world.motion (servo.device.packets - 1)
    (outcome.1 = motion ↔
      int32 (bringUp.reading - memory) + int32 (enabling + motion) = motion) ∧
    (enabling = 0 → Fits 32 motion →
      (outcome.1 = motion ↔ memory = bringUp.reading)) ∧
    ∀ (otherMemory : Int) (otherServo otherFinal : DynamixelServo),
      Fits 32 otherMemory →
      bringUp.Reaches otherMemory otherServo otherFinal →
      (((getTotalEncoderCount : ServoM R _).run bringUp.world otherFinal).1 =
          outcome.1 ↔ otherMemory = memory) := by
  simp only [run_getTotalEncoderCount]
  refine ⟨?_, reaches.first_total_of_still succeed remembers, ?_⟩
  · rw [reaches.first_total succeed]
  · intro otherMemory otherServo otherFinal otherRemembers otherReaches
    obtain ⟨servos, finals⟩ := reaches.devices_eq succeed otherReaches
    have updates : (otherFinal.updated bringUp.world false).device =
        (final.updated bringUp.world false).device := by
      rw [updated_device, updated_device, finals]
    rw [otherReaches.first_total succeed, reaches.first_total succeed, servos,
      updates, add_left_inj]
    exact int32_sub_eq_iff otherRemembers remembers bringUp.reading

/-! ## A servo that has been turned -/

/-- The register holds 1000 after the reboot and after the mode change, and the
wheel turns by 100 counts before the first total. -/
def turnedByHand : BringUp ℚ where
  world :=
    { World.calm ℚ with
      motion := fun packet => if packet = 8 then 100 else 0
      rebase := fun _ => 1000 }
  device := blank.device
  polls := 1
  modelNumber := 30
  dxlId := 2
  config := .configMotorAntiClockwise
  calls := []

/-- The servo after `Init`. -/
def turnedServo (memory : Int) : DynamixelServo :=
  ((init 1 30 2 .configMotorAntiClockwise : ServoM ℚ _).run turnedByHand.world
    (construct memory blank.device)).2

theorem turnedByHand_allSucceed : turnedByHand.world.AllSucceed := by
  intro packet request
  rfl

theorem turnedByHand_reaches (memory : Int) :
    turnedByHand.Reaches memory (turnedServo memory) (turnedServo memory) :=
  ⟨rfl, rfl, trivial, rfl⟩

/-- Memory that holds 1000 happens to be right. -/
theorem first_total_turned :
    ((getTotalEncoderCount : ServoM ℚ _).run turnedByHand.world
        (turnedServo 1000)).1 =
      ((getTotalEncoderCount : ServoM ℚ _).run turnedByHand.world
        (turnedServo 1000)).2.device.wheelAngle -
        (turnedServo 1000).device.wheelAngle := by
  have standing :=
    (first_total_iff turnedByHand_allSucceed (by decide)
      (turnedByHand_reaches 1000)).2.1
  exact (standing (by decide +kernel) (by decide +kernel)).mpr
    (by decide +kernel)

/-- Memory that holds zero adds the 1000 to the total. -/
theorem memory_spoils_first_total :
    ¬∀ (bringUp : BringUp ℚ) (memory : Int) (servo final : DynamixelServo),
      bringUp.world.AllSucceed → Fits 32 memory →
      bringUp.Reaches memory servo final →
      let outcome :=
        (getTotalEncoderCount : ServoM ℚ _).run bringUp.world final
      outcome.1 = outcome.2.device.wheelAngle - servo.device.wheelAngle ∧
      ∀ (otherMemory : Int) (otherServo otherFinal : DynamixelServo),
        Fits 32 otherMemory →
        bringUp.Reaches otherMemory otherServo otherFinal →
        ((getTotalEncoderCount : ServoM ℚ _).run bringUp.world
          otherFinal).1 = outcome.1 := by
  intro always
  have right := always turnedByHand 0 _ _ turnedByHand_allSucceed (by decide)
    (turnedByHand_reaches 0)
  exact absurd right.1 (by decide +kernel)

end BringUp
end Skatebot
