import Skatebot.Driver.Encoder

/-!
# Lost position readings

`GetPresentPosition` reports a failed read as position 0.  This module sets a
run in which every packet succeeds beside the same run in which some position
readings are lost.  Both runs drive the servo alike, so their totals differ by
what the mode changes credit differently: a reading lost by a regular count is
made good by the next one, a reading lost around a jump is not.
-/

namespace Skatebot

open Library ServoM

variable {R : Type} [Field R] [LinearOrder R] [FloorRing R]

/-- The same world, less the position readings at some packets. -/
def World.losingReads (world : World R) (lost : Nat → Bool) : World R :=
  world.losing fun packet request =>
    request = .read4 addrPresentPosition && lost packet

namespace World

variable {world : World R} (succeed : world.AllSucceed) (lost : Nat → Bool)

include succeed

theorem losingReads_ok_read (packet : Nat) :
    (world.losingReads lost).ok packet (.read4 addrPresentPosition) =
      !lost packet := by
  have reads := succeed packet (.read4 addrPresentPosition)
  unfold ok at reads ⊢
  cases outcome : lost packet
  · simpa [losingReads, losing, outcome] using reads
  · simp [losingReads, losing, outcome, commsCheck, commSuccess]

theorem losingReads_ok
    (packet : Nat)
    {request : Request}
    (other : request ≠ .read4 addrPresentPosition) :
    (world.losingReads lost).ok packet request = true := by
  have arrives := succeed packet request
  unfold ok at arrives ⊢
  simpa [losingReads, losing, other] using arrives

end World

namespace DynamixelServo

/-! ## Servos driven alike -/

/-- Two servos that the same calls drive alike. -/
structure Alike (first second : DynamixelServo) : Prop where
  config : second.config = first.config
  packets : second.device.packets = first.device.packets
  presentPosition :
    second.device.presentPosition = first.device.presentPosition
  operatingMode :
    second.device.byte addrOperatingMode = first.device.byte addrOperatingMode

variable {world : World R} (succeed : world.AllSucceed) (lost : Nat → Bool)
variable {first second : DynamixelServo}

namespace Alike

variable (world) in
theorem nextPosition (alike : Alike first second) :
    second.nextPosition (world.losingReads lost) =
      first.nextPosition world := by
  unfold DynamixelServo.nextPosition
  rw [alike.presentPosition, alike.packets]
  rfl

variable (world) in
/-- Packets that neither re-base the register nor touch the mode leave alike
servos alike. -/
theorem exchange
    (alike : Alike first second)
    {request other : Request}
    (keeps : (∀ data, request ≠ .write1 addrOperatingMode data) ∧
      request ≠ .reboot)
    (otherKeeps : (∀ data, other ≠ .write1 addrOperatingMode data) ∧
      other ≠ .reboot)
    (mode : (first.device.serve world request).byte addrOperatingMode =
      first.device.byte addrOperatingMode)
    (otherMode :
      (second.device.serve (world.losingReads lost) other).byte
          addrOperatingMode =
        second.device.byte addrOperatingMode) :
    Alike (first.exchange world request)
      (second.exchange (world.losingReads lost) other) := by
  have position := alike.nextPosition world lost
  refine ⟨alike.config, ?_, ?_, ?_⟩
  · simp only [exchange_device, Device.serve_packets, alike.packets]
  · simp only [exchange_device]
    rw [Device.serve_presentPosition _ _ otherKeeps.1 otherKeeps.2,
      Device.serve_presentPosition _ _ keeps.1 keeps.2]
    exact position
  · simp only [exchange_device, mode, otherMode, alike.operatingMode]

variable (world) in
/-- A reading leaves alike servos alike. -/
theorem read (alike : Alike first second) :
    Alike (first.exchange world (.read4 addrPresentPosition))
      (second.exchange (world.losingReads lost)
        (.read4 addrPresentPosition)) := by
  apply alike.exchange world lost
  · simp
  · simp
  · rw [Device.serve_read4_byte]
  · rw [Device.serve_read4_byte]

/-- Four-byte writes leave alike servos alike, whatever they write. -/
theorem write4
    (alike : Alike first second)
    (address : Nat)
    (data otherData : BitVec 32) :
    Alike (first.exchange world (.write4 address data))
      (second.exchange (world.losingReads lost)
        (.write4 address otherData)) := by
  apply alike.exchange world lost
  · simp
  · simp
  · rw [Device.serve_write4_byte]
  · rw [Device.serve_write4_byte]

theorem updated (alike : Alike first second) (modeChanged : Bool) :
    Alike (first.updated world modeChanged)
      (second.updated (world.losingReads lost) modeChanged) := by
  have read := alike.read world lost
  cases modeChanged <;>
    exact ⟨read.config, read.packets, read.presentPosition,
      read.operatingMode⟩

theorem readMode (alike : Alike first second) :
    Alike (first.exchange world (.read1 addrOperatingMode))
      (second.exchange (world.losingReads lost)
        (.read1 addrOperatingMode)) := by
  apply alike.exchange world lost
  · simp
  · simp
  · rw [Device.serve_read1_byte]
  · rw [Device.serve_read1_byte]

include succeed

/-- A lost reading is reported as 0, and any other as in the other run. -/
theorem reportedPosition (alike : Alike first second) :
    second.reportedPosition (world.losingReads lost) =
      if lost first.device.packets then 0
      else first.reportedPosition world := by
  have position := alike.nextPosition world lost
  unfold DynamixelServo.nextPosition at position
  unfold DynamixelServo.reportedPosition
  rw [World.losingReads_ok_read succeed, position, alike.packets,
    if_pos (succeed _ _)]
  cases lost first.device.packets <;> simp

theorem reportedMode (alike : Alike first second) :
    second.reportedMode (world.losingReads lost) =
      first.reportedMode world := by
  unfold DynamixelServo.reportedMode
  rw [if_pos (succeed _ _),
    if_pos (World.losingReads_ok succeed lost _ (by simp)),
    alike.operatingMode]

theorem write1
    (alike : Alike first second)
    (address : Nat)
    (data : BitVec 8) :
    Alike (first.exchange world (.write1 address data))
      (second.exchange (world.losingReads lost) (.write1 address data)) := by
  have position := alike.nextPosition world lost
  have arrives :
      (world.losingReads lost).ok first.device.packets
        (.write1 address data) = true :=
    World.losingReads_ok succeed lost _ (by simp)
  refine ⟨alike.config, ?_, ?_, ?_⟩
  · simp only [exchange_device, Device.serve_packets, alike.packets]
  · simp only [exchange_device]
    by_cases jump : address = addrOperatingMode
    · subst jump
      rw [Device.serve_mode_presentPosition _ _ _ (succeed _ _),
        Device.serve_mode_presentPosition _ _ _ (alike.packets ▸ arrives),
        alike.packets]
      rfl
    · rw [Device.serve_presentPosition _ _ (by simp [jump]) (by simp),
        Device.serve_presentPosition _ _ (by simp [jump]) (by simp)]
      exact position
  · simp only [exchange_device, Device.serve_write1_byte]
    rw [if_pos (succeed _ _), alike.packets, if_pos arrives]
    by_cases mode : address = addrOperatingMode
    · subst mode
      simp
    · rw [Function.update_of_ne (Ne.symm mode),
        Function.update_of_ne (Ne.symm mode), alike.operatingMode]

theorem switched (alike : Alike first second) (settings : ModeSettings) :
    Alike (first.switched world settings)
      (second.switched (world.losingReads lost) settings) :=
  (((alike.updated lost false).write1 succeed lost _ _).write4
    lost _ _ _).write4 lost _ _ _

theorem released (alike : Alike first second) :
    Alike (first.released world)
      (second.released (world.losingReads lost)) :=
  ((alike.readMode lost).read world lost).write1 succeed lost _ _

theorem setsMode_iff
    (alike : Alike first second)
    (mode : OperatingMode) :
    second.SetsMode (world.losingReads lost) mode ↔
      first.SetsMode world mode := by
  unfold SetsMode
  rw [alike.config]
  exact and_congr_right fun _ => iff_of_true
    (World.losingReads_ok succeed lost _ (by simp)) (succeed _ _)

theorem interrupts_iff
    (alike : Alike first second)
    (newMode : OperatingMode) :
    second.Interrupts (world.losingReads lost) newMode ↔
      first.Interrupts world newMode := by
  unfold Interrupts
  rw [alike.reportedMode succeed lost]
  exact and_congr_right fun _ => iff_of_true
    (World.losingReads_ok succeed lost _ (by simp)) (succeed _ _)

theorem configured (alike : Alike first second) (newMode : OperatingMode) :
    Alike (first.configured world newMode)
      (second.configured (world.losingReads lost) newMode) := by
  have released := alike.released succeed lost
  unfold DynamixelServo.configured
  rw [alike.config]
  simp only [alike.interrupts_iff succeed lost,
    released.setsMode_iff succeed lost, alike.reportedMode succeed lost]
  split_ifs
  · exact ((released.switched succeed lost _).updated lost true).write1
      succeed lost _ _
  · unfold unset
    split
    · exact (released.updated lost false).write1 succeed lost _ _
    · exact released.updated lost false
  · exact released
  · exact alike.readMode lost

/-- Calls drive alike servos alike. -/
theorem effect (alike : Alike first second) (call : ServoCall R) :
    Alike (call.effect world first)
      (call.effect (world.losingReads lost) second) := by
  cases call with
  | configureControlMode mode =>
      rw [effect_configureControlMode, effect_configureControlMode]
      exact alike.configured succeed lost mode
  | getId => exact alike
  | getPresentPosition =>
      rw [effect_getPresentPosition, effect_getPresentPosition]
      exact alike.read world lost
  | getTotalEncoderCount =>
      rw [effect_getTotalEncoderCount, effect_getTotalEncoderCount]
      exact alike.updated lost false
  | setPosition angle =>
      rw [effect_setPosition, effect_setPosition]
      exact alike.write4 lost _ _ _
  | setRelativePosition angle =>
      rw [effect_setRelativePosition, effect_setRelativePosition]
      exact ((alike.configured succeed lost _).read world lost).write4 lost _ _ _
  | setRPM rpm =>
      rw [effect_setRPM, effect_setRPM]
      exact (alike.configured succeed lost _).write4 lost _ _ _

end Alike

/-! ## What lost readings cost -/

/-- The register that the first reading of a mode change finds. -/
def registerBefore (world : World R) (servo : DynamixelServo) : Int :=
  int32 ((servo.released world).nextPosition world)

/-- The register that the second reading of a mode change finds. -/
def registerAfter (world : World R) (servo : DynamixelServo)
    (newMode : OperatingMode) : Int :=
  int32 (((servo.released world).switched world
    (modeSettings servo.config newMode)).nextPosition world)

/-- What a mode change costs the total when the readings of the given packets
are lost: what the register held at a lost first reading, less what it holds at
a lost second one. -/
def jumpLoss (world : World R) (lost : Nat → Bool) (servo : DynamixelServo)
    (newMode : OperatingMode) : Int :=
  if servo.Jumps world newMode then
    (if lost (servo.device.packets + 3) then servo.registerBefore world
      else 0) -
    (if lost (servo.device.packets + 7) then
      servo.registerAfter world newMode else 0)
  else 0

theorem switched_packets (world : World R) (servo : DynamixelServo)
    (settings : ModeSettings) :
    (servo.switched world settings).device.packets =
      servo.device.packets + 4 := by
  simp [switched]

include succeed

/-- The run that loses readings credits a mode change with its loss less. -/
theorem Alike.jumpCredit
    (alike : Alike first second)
    (newMode : OperatingMode) :
    second.jumpCredit (world.losingReads lost) newMode =
      first.jumpCredit world newMode -
        (first.jumpLoss world lost newMode : Count64) := by
  have released := alike.released succeed lost
  have jumps :
      second.Jumps (world.losingReads lost) newMode ↔
        first.Jumps world newMode :=
    and_congr (alike.interrupts_iff succeed lost newMode)
      (released.setsMode_iff succeed lost newMode)
  have before : second.readingBefore (world.losingReads lost) =
      first.readingBefore world -
        if lost (first.device.packets + 3) then first.registerBefore world
        else 0 := by
    unfold readingBefore registerBefore
    rw [released.reportedPosition succeed lost, released_packets,
      DynamixelServo.reportedPosition, if_pos (succeed _ _)]
    cases lost (first.device.packets + 3) <;>
      simp [DynamixelServo.nextPosition]
  have after : second.readingAfter (world.losingReads lost) newMode =
      first.readingAfter world newMode -
        if lost (first.device.packets + 7) then
          first.registerAfter world newMode
        else 0 := by
    have switched := released.switched succeed lost
      (modeSettings first.config newMode)
    unfold readingAfter registerAfter rebased
    rw [updated_last, updated_last, alike.config,
      switched.reportedPosition succeed lost, switched_packets,
      released_packets, DynamixelServo.reportedPosition,
      if_pos (succeed _ _)]
    cases lost (first.device.packets + 7) <;>
      simp [DynamixelServo.nextPosition]
  unfold DynamixelServo.jumpCredit jumpLoss
  by_cases jumping : first.Jumps world newMode
  · rw [if_pos (jumps.mpr jumping), if_pos jumping, if_pos jumping, before,
      after]
    push_cast
    ring
  · rw [if_neg (mt jumps.mp jumping), if_neg jumping, if_neg jumping]
    simp

end DynamixelServo

/-- What a call costs the total when the readings of the given packets are
lost. -/
def ServoCall.loss (world : World R) (lost : Nat → Bool)
    (servo : DynamixelServo) (call : ServoCall R) : Count64 :=
  match call.configures with
  | some newMode => (servo.jumpLoss world lost newMode : Count64)
  | none => 0

section

open DynamixelServo

variable {world : World R} (succeed : world.AllSucceed) (lost : Nat → Bool)

include succeed

theorem ServoCall.credit_losingReads
    {first second : DynamixelServo}
    (alike : Alike first second)
    (call : ServoCall R) :
    call.credit (world.losingReads lost) second =
      call.credit world first - call.loss world lost first := by
  unfold ServoCall.credit ServoCall.loss
  cases call.configures with
  | none => simp
  | some mode => exact alike.jumpCredit succeed lost mode

/-- The two runs end alike, and their credits differ by the losses. -/
theorem credits_losingReads
    (calls : List (ServoCall R))
    {first second firstEnd secondEnd : DynamixelServo}
    (alike : Alike first second)
    (reached : (servoCalls world).run first calls = some firstEnd)
    (reachedLosing :
      (servoCalls (world.losingReads lost)).run second calls =
        some secondEnd) :
    Alike firstEnd secondEnd ∧
      (servoCalls (world.losingReads lost)).sumAlong
          (fun servo call => call.credit (world.losingReads lost) servo)
          second calls =
        (servoCalls world).sumAlong
            (fun servo call => call.credit world servo) first calls -
          (servoCalls world).sumAlong
            (fun servo call => call.loss world lost servo) first calls := by
  induction calls generalizing first second with
  | nil =>
      simp only [Machine.run_nil, Option.some.injEq] at reached reachedLosing
      subst reached reachedLosing
      exact ⟨alike, by simp [Machine.sumAlong]⟩
  | cons call calls inductionHypothesis =>
      obtain ⟨_, ⟨⟩, rest⟩ := (Machine.run_cons_eq_some _).mp reached
      obtain ⟨_, ⟨⟩, restLosing⟩ :=
        (Machine.run_cons_eq_some _).mp reachedLosing
      obtain ⟨ends, credits⟩ :=
        inductionHypothesis (alike.effect succeed lost call) rest restLosing
      refine ⟨ends, ?_⟩
      simp only [Machine.sumAlong, servoCalls] at credits ⊢
      rw [credits, call.credit_losingReads succeed lost alike]
      ring

/-- A run in which every packet succeeds, and the same run in which readings
are lost: a total whose own reading succeeds is the same in both exactly when
the losses at the mode changes before it add up to nothing. -/
theorem totals_agree_iff
    {start first second : DynamixelServo}
    {calls : List (ServoCall R)}
    (reached : (servoCalls world).run start calls = some first)
    (reachedLosing :
      (servoCalls (world.losingReads lost)).run start calls = some second)
    (counts : (servoCalls world).Along
      (fun servo call => call.Counts world servo) start
      (calls ++ [.getTotalEncoderCount]))
    (countsLosing : (servoCalls (world.losingReads lost)).Along
      (fun servo call => call.Counts (world.losingReads lost) servo) start
      (calls ++ [.getTotalEncoderCount]))
    (succeeds : lost first.device.packets = false) :
    ((getTotalEncoderCount : ServoM R _).run
        (world.losingReads lost) second).1 =
      ((getTotalEncoderCount : ServoM R _).run world first).1 ↔
    (servoCalls world).sumAlong
      (fun servo call => call.loss world lost servo) start calls = 0 := by
  obtain ⟨counts, last⟩ := (Machine.along_append _).mp counts
  obtain ⟨countsLosing, lastLosing⟩ := (Machine.along_append _).mp countsLosing
  have firstCounts := (last first reached).1.1 rfl
  have secondCounts := (lastLosing second reachedLosing).1.1 rfl
  have same : Alike start start := ⟨rfl, rfl, rfl, rfl⟩
  obtain ⟨alike, credits⟩ :=
    credits_losingReads succeed lost calls same reached reachedLosing
  have firstTotal := first.counted_total world firstCounts
  have secondTotal :=
    second.counted_total (world.losingReads lost) secondCounts
  rw [account_run _ countsLosing reachedLosing, credits,
    alike.reportedPosition succeed lost, succeeds] at secondTotal
  rw [account_run _ counts reached] at firstTotal
  have firstFits : Fits 64 (first.updated world false).totalEncoderCount :=
    fits_int64 _
  have secondFits :
      Fits 64
        (second.updated (world.losingReads lost) false).totalEncoderCount :=
    fits_int64 _
  rw [run_getTotalEncoderCount, run_getTotalEncoderCount,
    ← int64_of_fits firstFits, ← int64_of_fits secondFits, int64_eq_iff,
    firstTotal, secondTotal]
  simp

end

/-! ## A failing run -/

namespace DynamixelServo

/-- The wheel turns by 100 counts before the first packet after `Init`. -/
def nudged : World ℚ :=
  { World.calm ℚ with motion := fun packet => if packet = 8 then 100 else 0 }

theorem nudged_allSucceed : nudged.AllSucceed := by
  intro packet request
  rfl

/-- A regular reading that is lost does no harm. -/
theorem totals_agree_nudged :
    ((getTotalEncoderCount : ServoM ℚ _).run (nudged.losingReads (· = 8))
        (ServoCall.getTotalEncoderCount.effect (nudged.losingReads (· = 8))
          frontLeft)).1 =
      ((getTotalEncoderCount : ServoM ℚ _).run nudged
        (ServoCall.getTotalEncoderCount.effect nudged frontLeft)).1 := by
  have reached :
      (servoCalls nudged).run frontLeft [.getTotalEncoderCount] =
        some (ServoCall.getTotalEncoderCount.effect nudged frontLeft) := rfl
  have reachedLosing :
      (servoCalls (nudged.losingReads (· = 8))).run frontLeft
          [.getTotalEncoderCount] =
        some (ServoCall.getTotalEncoderCount.effect
          (nudged.losingReads (· = 8)) frontLeft) := rfl
  refine (totals_agree_iff nudged_allSucceed (· = 8) reached reachedLosing
    ?_ ?_ (by decide +kernel)).mpr rfl
  · refine ⟨⟨fun _ => by decide +kernel, nofun⟩, ?_⟩
    rintro _ ⟨⟩
    exact ⟨⟨fun _ => by decide +kernel, nofun⟩, fun _ _ => trivial⟩
  · refine ⟨⟨fun _ => by decide +kernel, nofun⟩, ?_⟩
    rintro _ ⟨⟩
    exact ⟨⟨fun _ => by decide +kernel, nofun⟩, fun _ _ => trivial⟩

/-- One reading that is lost before a jump takes the counts since the last
reading out of the total for good. -/
theorem lost_reading_spoils_total :
    ¬∀ (world : World ℚ) (lost : Nat → Bool)
        (start first second : DynamixelServo) (calls : List (ServoCall ℚ)),
      start.Initialised ℚ → world.AllSucceed →
      (servoCalls world).run start calls = some first →
      (servoCalls (world.losingReads lost)).run start calls = some second →
      lost first.device.packets = false →
      ((getTotalEncoderCount : ServoM ℚ _).run
          (world.losingReads lost) second).1 =
        ((getTotalEncoderCount : ServoM ℚ _).run world first).1 := by
  intro agree
  have equal := agree nudged (· = 11) frontLeft _ _
    [.configureControlMode .extendedPositionControlMode]
    frontLeft_initialised nudged_allSucceed rfl rfl (by decide +kernel)
  exact absurd equal (by decide +kernel)

end DynamixelServo
end Skatebot
