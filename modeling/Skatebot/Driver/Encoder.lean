import Mathlib.Tactic.Ring
import Skatebot.Driver.ServoLemmas

/-!
# The total encoder count

The driver adds the differences of successive position readings to a 64-bit
total, and skips the jumps of the register at mode changes.  The argument is a
bookkeeping one.  The total less the last reading is an account: counting
leaves it alone, whatever the reading was, and a mode change credits it with
the difference of the two readings around the jump.  A reported total is the
account plus the reading it was reported with.
-/

namespace Skatebot

open Library ServoM

variable {R : Type} [Field R] [LinearOrder R] [FloorRing R]

namespace DynamixelServo

variable (world : World R) (servo : DynamixelServo)

/-! ## The account -/

/-- The total less the last reading, as a 64-bit count. -/
def account : Count64 :=
  ((servo.totalEncoderCount - servo.lastEncoderCount : Int) : Count64)

/-- The subtraction in `UpdateEncoderCount(false)` does not overflow. -/
def Counts : Prop :=
  Fits 32 (servo.reportedPosition world - servo.lastEncoderCount)

instance : Decidable (servo.Counts world) :=
  inferInstanceAs (Decidable (Fits _ _))

@[simp] theorem account_exchange (request : Request) :
    (servo.exchange world request).account = servo.account := rfl

/-- Counting leaves the account alone. -/
theorem account_counted (counts : servo.Counts world) :
    (servo.updated world false).account = servo.account := by
  unfold account
  rw [updated_last, updated_false_total, int32_of_fits counts]
  push_cast
  rw [int64_count]
  push_cast
  ring

/-- Skipping a jump replaces the last reading. -/
theorem account_skipped :
    (servo.updated world true).account =
      servo.account + (servo.lastEncoderCount : Count64) -
        (servo.reportedPosition world : Count64) := by
  unfold account
  rw [updated_last]
  simp only [updated, if_true, exchange_total]
  push_cast
  ring

/-- A reported total is the account plus the reading. -/
theorem counted_total (counts : servo.Counts world) :
    ((servo.updated world false).totalEncoderCount : Count64) =
      servo.account + (servo.reportedPosition world : Count64) := by
  rw [← account_counted world servo counts]
  unfold account
  rw [updated_last]
  push_cast
  ring

/-! ## Mode changes -/

/-- The reading before the jump of a mode change. -/
def readingBefore : Int :=
  (servo.released world).reportedPosition world

/-- The reading after the jump of a mode change. -/
def readingAfter (newMode : OperatingMode) : Int :=
  ((servo.released world).rebased world
    (modeSettings servo.config newMode)).lastEncoderCount

/-- `ConfigureControlMode` writes the mode. -/
def Jumps (newMode : OperatingMode) : Prop :=
  servo.Interrupts world newMode ∧
    (servo.released world).SetsMode world newMode

instance (newMode : OperatingMode) : Decidable (servo.Jumps world newMode) :=
  inferInstanceAs (Decidable (_ ∧ _))

/-- What a mode change credits the account with. -/
def jumpCredit (newMode : OperatingMode) : Count64 :=
  if servo.Jumps world newMode then
    (servo.readingBefore world : Count64) -
      (servo.readingAfter world newMode : Count64)
  else 0

theorem account_rebased
    (counts : servo.Counts world)
    (settings : ModeSettings) :
    (servo.rebased world settings).account =
      servo.account + (servo.reportedPosition world : Count64) -
        ((servo.rebased world settings).lastEncoderCount : Count64) := by
  unfold rebased switched
  rw [account_skipped, updated_last]
  simp only [account_exchange, exchange_last, updated_last]
  rw [account_counted world servo counts]

theorem account_unset
    (counts : servo.Counts world)
    (settings : ModeSettings) :
    (servo.unset world settings).account = servo.account := by
  unfold unset
  split
  · rw [account_exchange, account_counted world servo counts]
  · exact account_counted world servo counts

@[simp] theorem account_released :
    (servo.released world).account = servo.account := rfl

theorem account_configured
    (newMode : OperatingMode)
    (counts : servo.Interrupts world newMode →
      (servo.released world).Counts world) :
    (servo.configured world newMode).account =
      servo.account + servo.jumpCredit world newMode := by
  unfold configured jumpCredit
  by_cases interrupts : servo.Interrupts world newMode
  · have counts := counts interrupts
    rw [if_pos interrupts]
    by_cases sets : (servo.released world).SetsMode world newMode
    · rw [if_pos sets, if_pos ⟨interrupts, sets⟩, account_exchange,
        account_rebased _ _ counts, account_released, add_sub_assoc]
      rfl
    · have still : ¬servo.Jumps world newMode := fun jumps => sets jumps.2
      rw [if_neg sets, if_neg still, add_zero, account_unset _ _ counts,
        account_released]
  · have still : ¬servo.Jumps world newMode := fun jumps => interrupts jumps.1
    rw [if_neg interrupts, if_neg still, add_zero]
    split <;> rfl

end DynamixelServo

/-! ## Calls -/

namespace ServoCall

variable (world : World R) (servo : DynamixelServo) (call : ServoCall R)

/-- No subtraction of the call overflows. -/
def Counts : Prop :=
  (call = .getTotalEncoderCount → servo.Counts world) ∧
    ∀ newMode, call.configures = some newMode →
      servo.Interrupts world newMode → (servo.released world).Counts world

/-- What the call credits the account with. -/
def credit : Count64 :=
  match call.configures with
  | some newMode => servo.jumpCredit world newMode
  | none => 0

/-- A call changes the account by its credit. -/
theorem account_effect (counts : call.Counts world servo) :
    (call.effect world servo).account =
      servo.account + call.credit world servo := by
  obtain ⟨counted, changed⟩ := counts
  apply call.effect_invariant fun next =>
    next.account = servo.account + call.credit world servo
  · intro next request _ _ same
    exact same
  · intro idle
    rw [credit, idle, add_zero]
  · intro newMode configures
    rw [credit, configures]
    exact servo.account_configured world newMode (changed newMode configures)
  · intro counts
    rw [credit, counts, servo.account_counted world (counted counts)]
    exact (add_zero servo.account).symm

end ServoCall

/-- A run of calls changes the account by its credits together. -/
theorem account_run
    (world : World R)
    {servo final : DynamixelServo}
    {calls : List (ServoCall R)}
    (counts : (servoCalls world).Along
      (fun servo call => call.Counts world servo) servo calls)
    (reached : (servoCalls world).run servo calls = some final) :
    final.account =
      servo.account + (servoCalls world).sumAlong
        (fun servo call => call.credit world servo) servo calls := by
  apply Machine.potential_of_along _ _ counts reached
  intro servo call next counts stepped
  obtain rfl := Option.some.inj stepped
  exact call.account_effect world servo counts

/-! ## The true motion of the wheel -/

namespace DynamixelServo

variable (world : World R) (servo : DynamixelServo)

/-- The position register after the motion before the next packet. -/
def nextPosition : Int :=
  servo.device.presentPosition + world.motion servo.device.packets

/-- The next reading is of a 32-bit register and less than 2³¹ from the last
one. -/
def ReadsOn : Prop :=
  Fits 32 (servo.nextPosition world) ∧
    |servo.nextPosition world - servo.lastEncoderCount| < 2 ^ 31

/-- The wheel does not move between the two counts of a mode change. -/
def Still : Prop :=
  ∀ packet, servo.device.packets + 4 ≤ packet →
    packet ≤ servo.device.packets + 7 → world.motion packet = 0

/-- Where the register stands relative to the wheel. -/
def offset : Count64 :=
  ((servo.device.presentPosition - servo.device.wheelAngle : Int) : Count64)

/-- Exchanges other than a mode write or a reboot move register and wheel
together. -/
theorem offset_exchange
    {request : Request}
    (keeps : ∀ data, request ≠ .write1 addrOperatingMode data)
    (running : request ≠ .reboot) :
    (servo.exchange world request).offset = servo.offset := by
  unfold offset
  rw [exchange_device, Device.serve_presentPosition _ _ keeps running,
    Device.serve_wheelAngle, add_sub_add_right_eq_sub]

@[simp] theorem offset_read1 (address : Nat) :
    (servo.exchange world (.read1 address)).offset = servo.offset :=
  servo.offset_exchange world (by simp) (by simp)

@[simp] theorem offset_read4 (address : Nat) :
    (servo.exchange world (.read4 address)).offset = servo.offset :=
  servo.offset_exchange world (by simp) (by simp)

@[simp] theorem offset_writeTorque (data : BitVec 8) :
    (servo.exchange world (.write1 addrTorqueEnable data)).offset =
      servo.offset :=
  servo.offset_exchange world
    (by simp [addrTorqueEnable, addrOperatingMode]) (by simp)

@[simp] theorem offset_updated (modeChanged : Bool) :
    (servo.updated world modeChanged).offset = servo.offset := by
  have same : (servo.updated world modeChanged).offset =
      (servo.exchange world (.read4 addrPresentPosition)).offset := by
    cases modeChanged <;> rfl
  rw [same, offset_read4]

/-- A succeeding read of a register that fits reports it. -/
theorem reportedPosition_eq
    (succeed : world.AllSucceed)
    (readsOn : servo.ReadsOn world) :
    servo.reportedPosition world = servo.nextPosition world := by
  unfold reportedPosition
  rw [if_pos (succeed _ _)]
  exact int32_of_fits readsOn.1

theorem counts_of_readsOn
    (succeed : world.AllSucceed)
    (readsOn : servo.ReadsOn world) :
    servo.Counts world := by
  unfold Counts Fits
  rw [reportedPosition_eq _ _ succeed readsOn]
  obtain ⟨lower, upper⟩ := abs_lt.mp readsOn.2
  norm_num at lower upper ⊢
  omega

/-- The account together with the offset of the register. -/
def balance : Count64 := servo.account + servo.offset

/-- The last reading is the register's content. -/
def UpToDate : Prop :=
  servo.lastEncoderCount = servo.device.presentPosition

/-- Between readings, the balance is the total less the angle. -/
theorem balance_of_upToDate (upToDate : servo.UpToDate) :
    servo.balance =
      ((servo.totalEncoderCount - servo.device.wheelAngle : Int) :
        Count64) := by
  unfold balance account offset
  rw [upToDate]
  push_cast
  ring

theorem upToDate_updated
    (succeed : world.AllSucceed)
    (modeChanged : Bool)
    (fits : Fits 32 (servo.nextPosition world)) :
    (servo.updated world modeChanged).UpToDate := by
  unfold UpToDate
  rw [updated_last, updated_device, Device.serve_presentPosition _ _ (by simp)
    (by simp), reportedPosition, if_pos (succeed _ _)]
  exact int32_of_fits fits

/-- The register that a mode change leaves behind in a standing wheel. -/
theorem nextPosition_switched
    (succeed : world.AllSucceed)
    (still : ∀ packet, servo.device.packets + 1 ≤ packet →
      packet ≤ servo.device.packets + 4 → world.motion packet = 0)
    (settings : ModeSettings) :
    (servo.switched world settings).nextPosition world =
      (world.rebase (servo.device.packets + 1)).toInt := by
  have acceleration := still (servo.device.packets + 2) (by omega) (by omega)
  have velocity := still (servo.device.packets + 3) (by omega) (by omega)
  have reading := still (servo.device.packets + 4) (by omega) (by omega)
  unfold nextPosition switched
  simp only [exchange_device, updated_device, Device.serve_packets]
  rw [Device.serve_presentPosition _ _ (by simp) (by simp),
    Device.serve_presentPosition _ _ (by simp) (by simp),
    Device.serve_mode_presentPosition _ _ _ (succeed _ _)]
  simp only [Device.serve_packets, Nat.add_assoc, Nat.reduceAdd, reading,
    acceleration, velocity, add_zero]

theorem fits_toInt (value : BitVec 32) : Fits 32 value.toInt := by
  have lower := BitVec.le_toInt value
  have upper := BitVec.toInt_lt (x := value)
  exact ⟨lower, upper⟩

/-- Setting a mode while the wheel stands still keeps the balance. -/
theorem balance_rebased
    (succeed : world.AllSucceed)
    (readsOn : servo.ReadsOn world)
    (still : ∀ packet, servo.device.packets + 1 ≤ packet →
      packet ≤ servo.device.packets + 4 → world.motion packet = 0)
    (settings : ModeSettings) :
    (servo.rebased world settings).balance = servo.balance := by
  have counts := counts_of_readsOn world servo succeed readsOn
  have counted := upToDate_updated world servo succeed false readsOn.1
  have upToDate : (servo.rebased world settings).UpToDate := by
    apply upToDate_updated _ _ succeed
    rw [nextPosition_switched _ _ succeed still]
    exact fits_toInt _
  have total :
      (servo.rebased world settings).totalEncoderCount =
        (servo.updated world false).totalEncoderCount := by
    unfold rebased switched
    rw [updated_true_total]
    simp only [exchange_total]
  have angle :
      (servo.rebased world settings).device.wheelAngle =
        (servo.updated world false).device.wheelAngle := by
    have mode := still (servo.device.packets + 1) (by omega) (by omega)
    have acceleration := still (servo.device.packets + 2) (by omega) (by omega)
    have velocity := still (servo.device.packets + 3) (by omega) (by omega)
    have reading := still (servo.device.packets + 4) (by omega) (by omega)
    simp only [rebased, switched, exchange_device, updated_device,
      Device.serve_wheelAngle, Device.serve_packets, Nat.add_assoc,
      Nat.reduceAdd, mode, acceleration, velocity, reading, add_zero]
  calc
    (servo.rebased world settings).balance =
        (servo.updated world false).balance := by
      rw [balance_of_upToDate _ upToDate, balance_of_upToDate _ counted,
        total, angle]
    _ = servo.balance := by
      unfold balance
      rw [account_counted _ _ counts, offset_updated]

theorem balance_unset
    (counts : servo.Counts world)
    (mode : OperatingMode)
    (succeed : world.AllSucceed)
    (fails : ¬servo.SetsMode world mode) :
    (servo.unset world (modeSettings servo.config mode)).balance =
      servo.balance := by
  have invalid : ¬(modeSettings servo.config mode).Valid :=
    fun valid => fails ⟨valid, succeed _ _⟩
  rw [unset, if_neg invalid]
  unfold balance
  rw [account_counted _ _ counts, offset_updated]

/-- `ConfigureControlMode` keeps the balance. -/
theorem balance_configured
    (succeed : world.AllSucceed)
    (newMode : OperatingMode)
    (admissible : servo.Interrupts world newMode →
      (servo.released world).ReadsOn world ∧
        (newMode ≠ .noModeSet → servo.Still world)) :
    (servo.configured world newMode).balance = servo.balance := by
  have released : (servo.released world).balance = servo.balance := by
    unfold balance
    rw [account_released, DynamixelServo.released, offset_writeTorque,
      offset_read4, offset_read1]
  unfold configured
  split
  next interrupts =>
    obtain ⟨readsOn, still⟩ := admissible interrupts
    split
    next sets =>
      have named := (modeSettings_valid_iff _ _).mp sets.1
      have rebased :=
        (servo.released world).balance_rebased world succeed readsOn
          (by
            intro packet lower upper
            have begun : (servo.released world).device.packets =
                servo.device.packets + 3 := by
              simp [DynamixelServo.released]
            exact still named packet (by omega) (by omega))
          (modeSettings servo.config newMode)
      rw [← released, ← rebased]
      unfold balance
      rw [account_exchange, offset_writeTorque]
    next fails =>
      have counts := counts_of_readsOn _ _ succeed readsOn
      rw [← released]
      exact balance_unset _ _ counts newMode succeed fails
  next =>
    split
    · exact released
    · unfold balance
      rw [account_exchange, offset_read1]

end DynamixelServo

/-- The readings that a call counts with are those of a 32-bit register that
turns by less than 2³¹ between them, and the wheel stands still while a mode
changes. -/
def ServoCall.Admissible
    (world : World R) (servo : DynamixelServo) (call : ServoCall R) : Prop :=
  (call = .getTotalEncoderCount → servo.ReadsOn world) ∧
    ∀ newMode, call.configures = some newMode →
      servo.Interrupts world newMode →
        (servo.released world).ReadsOn world ∧
          (newMode ≠ .noModeSet → servo.Still world)

/-- Every admissible call keeps the balance. -/
theorem ServoCall.balance_effect
    {world : World R}
    (succeed : world.AllSucceed)
    {servo : DynamixelServo}
    {call : ServoCall R}
    (admissible : call.Admissible world servo) :
    (call.effect world servo).balance = servo.balance := by
  obtain ⟨counted, changed⟩ := admissible
  apply call.effect_invariant fun next => next.balance = servo.balance
  · intro next request keeps running same
    rw [← same]
    unfold DynamixelServo.balance
    rw [DynamixelServo.account_exchange,
      next.offset_exchange world (keeps addrOperatingMode) running]
  · intro
    rfl
  · intro newMode configures
    exact servo.balance_configured world succeed newMode
      (changed newMode configures)
  · intro counts
    have exactly := servo.counts_of_readsOn world succeed (counted counts)
    unfold DynamixelServo.balance
    rw [servo.account_counted world exactly, DynamixelServo.offset_updated]

/-- An admissible run keeps the balance. -/
theorem balance_run
    {world : World R}
    (succeed : world.AllSucceed)
    {servo final : DynamixelServo}
    {calls : List (ServoCall R)}
    (admissible : (servoCalls world).Along
      (fun servo call => call.Admissible world servo) servo calls)
    (reached : (servoCalls world).run servo calls = some final) :
    final.balance = servo.balance := by
  refine (servoCalls world).invariant_of_along
    (fun state => state.balance = servo.balance) ?_ rfl admissible reached
  intro state call next kept admissible stepped
  obtain rfl := Option.some.inj stepped
  exact (call.balance_effect succeed admissible).trans kept

namespace DynamixelServo

variable {world : World R}

/-- A total that was counted from an admissible reading is the balance plus the
wheel's angle. -/
theorem total_of_readsOn
    (succeed : world.AllSucceed)
    {servo : DynamixelServo}
    (readsOn : servo.ReadsOn world) :
    ((servo.updated world false).totalEncoderCount : Count64) =
      servo.balance +
        ((servo.updated world false).device.wheelAngle : Count64) := by
  have admissible :
      (ServoCall.getTotalEncoderCount : ServoCall R).Admissible world servo :=
    ⟨fun _ => readsOn, nofun⟩
  have kept := ServoCall.balance_effect succeed admissible
  rw [effect_getTotalEncoderCount, balance_of_upToDate _
    (servo.upToDate_updated world succeed false readsOn.1)] at kept
  rw [← kept]
  push_cast
  ring

/-- Two totals reported in one run differ by the true motion of the wheel
between them: always as 64-bit counts, and as integers where the total does
not overflow. -/
theorem totals_differ_by_motion
    (succeed : world.AllSucceed)
    {first second : DynamixelServo}
    {calls : List (ServoCall R)}
    (admissible :
      (servoCalls world).Along (fun servo call => call.Admissible world servo)
        first (.getTotalEncoderCount :: (calls ++ [.getTotalEncoderCount])))
    (reached :
      (servoCalls world).run
        ((getTotalEncoderCount : ServoM R _).run world first).2 calls =
          some second) :
    let earlier := (getTotalEncoderCount : ServoM R _).run world first
    let later := (getTotalEncoderCount : ServoM R _).run world second
    let motion := later.2.device.wheelAngle - earlier.2.device.wheelAngle
    int64 (later.1 - earlier.1) = int64 motion ∧
      (Fits 64 (earlier.1 + motion) → later.1 - earlier.1 = motion) := by
  obtain ⟨here, rest⟩ := admissible
  obtain ⟨between, last⟩ := (Machine.along_append _).mp (rest _ rfl)
  rw [effect_getTotalEncoderCount] at between last
  rw [run_getTotalEncoderCount] at reached
  simp only [run_getTotalEncoderCount]
  have firstReads : first.ReadsOn world := here.1 rfl
  have secondReads : second.ReadsOn world := (last second reached).1.1 rfl
  have kept : second.balance = first.balance := by
    rw [balance_run succeed between reached]
    have counted := ServoCall.balance_effect succeed here
    rw [effect_getTotalEncoderCount] at counted
    exact counted
  have earlier := total_of_readsOn succeed firstReads
  have later := total_of_readsOn succeed secondReads
  set start := first.updated world false
  set stop := second.updated world false
  have counts :
      ((stop.totalEncoderCount - start.totalEncoderCount : Int) : Count64) =
        ((stop.device.wheelAngle - start.device.wheelAngle : Int) :
          Count64) := by
    push_cast
    rw [earlier, later, kept]
    ring
  refine ⟨(int64_eq_iff _ _).mpr counts, ?_⟩
  intro fits
  have stopFits : Fits 64 stop.totalEncoderCount := fits_int64 _
  have equal :
      stop.totalEncoderCount =
        start.totalEncoderCount +
          (stop.device.wheelAngle - start.device.wheelAngle) := by
    apply eq_of_count_eq stopFits fits
    push_cast at counts ⊢
    rw [← counts]
    ring
  rw [equal]
  ring

/-- A world in which the wheel turns by 5 counts before every packet, except
while `SetRelativePosition` changes the mode. -/
def rolling : World ℚ :=
  { World.calm ℚ with
    motion := fun packet => if 12 < packet ∧ packet < 17 then 0 else 5
    rebase := fun _ => 1000 }

/-- The front left wheel after a reported total and a move. -/
def turned : DynamixelServo :=
  (ServoCall.setRelativePosition 1).effect rolling
    ((getTotalEncoderCount : ServoM ℚ _).run rolling frontLeft).2

theorem rolling_allSucceed : rolling.AllSucceed := by
  intro packet request
  rfl

theorem rolling_admissible :
    (servoCalls rolling).Along (fun servo call => call.Admissible rolling servo)
      frontLeft
      (.getTotalEncoderCount ::
        ([.setRelativePosition 1] ++ [.getTotalEncoderCount])) := by
  refine ⟨⟨fun _ => ⟨by decide +kernel, by decide +kernel⟩, nofun⟩, ?_⟩
  rintro _ ⟨⟩
  refine ⟨⟨nofun, ?_⟩, ?_⟩
  · rintro _ ⟨⟩ _
    refine ⟨⟨by decide +kernel, by decide +kernel⟩, ?_⟩
    intro _ packet lower upper
    have : 9 + 4 ≤ packet := lower
    have : packet ≤ 9 + 7 := upper
    exact if_pos ⟨by omega, by omega⟩
  · rintro _ ⟨⟩
    refine ⟨⟨fun _ => ⟨by decide +kernel, by decide +kernel⟩, nofun⟩, ?_⟩
    intro _ _
    trivial

theorem totals_differ_rolling :
    ((getTotalEncoderCount : ServoM ℚ _).run rolling turned).1 -
      ((getTotalEncoderCount : ServoM ℚ _).run rolling frontLeft).1 =
      ((getTotalEncoderCount : ServoM ℚ _).run rolling
        turned).2.device.wheelAngle -
        ((getTotalEncoderCount : ServoM ℚ _).run rolling
          frontLeft).2.device.wheelAngle := by
  have reached :
      (servoCalls rolling).run
        ((getTotalEncoderCount : ServoM ℚ _).run rolling frontLeft).2
          [.setRelativePosition 1] = some turned :=
    Machine.run_cons_eq_some _ |>.mpr ⟨turned, rfl, rfl⟩
  have differ :=
    totals_differ_by_motion rolling_allSucceed rolling_admissible reached
  exact differ.2 (by decide +kernel)

end DynamixelServo
end Skatebot
