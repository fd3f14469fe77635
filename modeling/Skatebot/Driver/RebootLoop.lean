import Skatebot.Driver.Deadman
import Skatebot.Driver.Maintenance

/-!
# How long a reboot takes

After a servo has taken the request to reboot, the driver polls it for its
model number, under the mutex, until the number comes back.  The variable for
the reply keeps its value across polls that fail.  This module tells from the
replies how many polls there are.
-/

namespace Skatebot

open Library ServoM

variable {R : Type} [Field R] [LinearOrder R] [FloorRing R]

namespace World

/-- `rclcpp::ok()` holds throughout. -/
def Up (world : World R) : Prop :=
  ∀ packet, world.rclcppOk packet = true

/-- The reply to a poll for the model number; `none` where communication
fails. -/
def pollReply (world : World R) (packet : Nat) : Option (BitVec 32) :=
  if (world.fate packet (.read4 addrModelNumber)).commResult = commSuccess then
    some (world.modelNumber packet)
  else none

end World

namespace DynamixelServo

/-- One of so many replies carries the servo's model number, or the first poll
fails and the number is what the variable for the reply held before. -/
def Answers (world : World R) (servo : DynamixelServo) (held : BitVec 32)
    (polls : Nat) : Prop :=
  (∃ i < polls,
      world.pollReply (servo.device.packets + i) = some servo.modelNumber) ∨
    (0 < polls ∧ held = servo.modelNumber ∧
      world.pollReply servo.device.packets = none)

theorem run_readModelNumber (world : World R) (servo : DynamixelServo) :
    (read4ByteTxRx addrModelNumber : ServoM R _).run world servo =
      ({ fate :=
            world.fate servo.device.packets (.read4 addrModelNumber)
         data := world.modelNumber servo.device.packets },
        servo.exchange world (.read4 addrModelNumber)) := rfl

/-- One iteration of the loop. -/
theorem run_pollModelNumber_step
    (world : World R)
    (polls : Nat)
    (held : BitVec 32)
    (servo : DynamixelServo) :
    (pollModelNumber (polls + 1) held : ServoM R _).run world servo =
      if (world.pollReply servo.device.packets).getD held ≠
          servo.modelNumber ∧
        world.rclcppOk (servo.device.packets + 1) = true then
        (pollModelNumber polls
            ((world.pollReply servo.device.packets).getD held) :
          ServoM R _).run world
          (servo.exchange world (.read4 addrModelNumber))
      else (some (), servo.exchange world (.read4 addrModelNumber)) := by
  have reply : (world.pollReply servo.device.packets).getD held =
      if (world.fate servo.device.packets
          (.read4 addrModelNumber)).commResult = commSuccess then
        world.modelNumber servo.device.packets
      else held := by
    unfold World.pollReply
    split <;> rfl
  have counted : (servo.exchange world
      (.read4 addrModelNumber)).device.packets = servo.device.packets + 1 :=
    Device.serve_packets ..
  rw [pollModelNumber, run_bind, run_readModelNumber, ← counted]
  dsimp only
  rw [← reply]
  exact run_ite ..

/-- While `rclcpp::ok()` holds, the reply alone ends the loop. -/
theorem run_pollModelNumber_succ
    {world : World R}
    (up : world.Up)
    (polls : Nat)
    (held : BitVec 32)
    (servo : DynamixelServo) :
    (pollModelNumber (polls + 1) held : ServoM R _).run world servo =
      if (world.pollReply servo.device.packets).getD held =
          servo.modelNumber then
        (some (), servo.exchange world (.read4 addrModelNumber))
      else
        (pollModelNumber polls
            ((world.pollReply servo.device.packets).getD held) :
          ServoM R _).run world
          (servo.exchange world (.read4 addrModelNumber)) := by
  rw [run_pollModelNumber_step]
  simp only [up _, and_true]
  exact ite_not _ _ _

/-- The first poll is answered, or the others are. -/
theorem answers_succ_iff
    (world : World R)
    (servo : DynamixelServo)
    (held : BitVec 32)
    (polls : Nat) :
    servo.Answers world held (polls + 1) ↔
      (world.pollReply servo.device.packets).getD held = servo.modelNumber ∨
        (servo.exchange world (.read4 addrModelNumber)).Answers world
          ((world.pollReply servo.device.packets).getD held) polls := by
  have others : (servo.exchange world
      (.read4 addrModelNumber)).device.packets = servo.device.packets + 1 :=
    Device.serve_packets ..
  have named : (servo.exchange world (.read4 addrModelNumber)).modelNumber =
      servo.modelNumber := rfl
  have split :
      (∃ i < polls + 1,
          world.pollReply (servo.device.packets + i) =
            some servo.modelNumber) ↔
        world.pollReply servo.device.packets = some servo.modelNumber ∨
          ∃ i < polls,
            world.pollReply (servo.device.packets + 1 + i) =
              some servo.modelNumber := by
    rw [Nat.exists_lt_succ_left]
    simp only [Nat.add_zero, Nat.add_assoc, Nat.add_comm 1]
  unfold Answers
  rw [others, named, split]
  cases first : world.pollReply servo.device.packets with
  | none =>
      simp only [Option.getD_none, reduceCtorEq, false_or, Nat.succ_pos,
        true_and, and_true]
      by_cases same : held = servo.modelNumber <;> simp [same]
  | some modelNumber =>
      simp only [Option.getD_some, Option.some.injEq, reduceCtorEq, and_false,
        or_false]
      by_cases same : modelNumber = servo.modelNumber <;> simp [same]

/-- The loop ends within so many polls exactly when one of them is answered. -/
theorem pollModelNumber_returns_iff
    {world : World R}
    (up : world.Up)
    (polls : Nat)
    (held : BitVec 32)
    (servo : DynamixelServo) :
    ((pollModelNumber polls held : ServoM R _).run world servo).1 = some () ↔
      servo.Answers world held polls := by
  induction polls generalizing held servo with
  | zero => simp [pollModelNumber, Answers]
  | succ polls inductionHypothesis =>
      rw [run_pollModelNumber_succ up, answers_succ_iff]
      split
      next answered => exact iff_of_true rfl (Or.inl answered)
      next waiting => rw [inductionHypothesis, or_iff_right waiting]

/-- The servo refuses to reboot, or one of so many polls after the request is
answered. -/
def AnswersWithin (world : World R) (servo : DynamixelServo) (polls : Nat) :
    Prop :=
  world.ok servo.device.packets .reboot = false ∨
    (servo.exchange world .reboot).Answers world 0 polls

/-- `Reboot` returns within so many polls. -/
theorem reboot_returns_iff
    {world : World R}
    (up : world.Up)
    (servo : DynamixelServo)
    (polls : Nat) :
    ((reboot polls : ServoM R _).run world servo).1 = some () ↔
      servo.AnswersWithin world polls := by
  rw [reboot, run_bind, run_txRx, run_ite]
  dsimp only
  rw [commsCheck_fate]
  unfold AnswersWithin
  by_cases taken : world.ok servo.device.packets .reboot = true
  · rw [if_pos taken, pollModelNumber_returns_iff up, taken]
    simp
  · rw [if_neg taken]
    exact iff_of_true rfl (Or.inl (Bool.eq_false_iff.mpr taken))

end DynamixelServo

namespace DynamixelComms

/-- `DynamixelComms::Reboot` returns within so many polls, and leaves the mutex
free. -/
def Releases (bus : Bus R) (polls : Nat) (servo : ServoInstance)
    (comms : DynamixelComms) : Prop :=
  ∃ after, reboot bus polls servo comms = some ((), after) ∧
    after.commsMutex = none

theorem releases_iff
    {bus : Bus R}
    {servo : ServoInstance}
    (up : (bus.world (rebooted servo)).Up)
    {comms : DynamixelComms}
    (free : comms.commsMutex = none)
    (polls : Nat) :
    Releases bus polls servo comms ↔
      (comms.servo (rebooted servo)).AnswersWithin
        (bus.world (rebooted servo)) polls := by
  rw [← DynamixelServo.reboot_returns_iff up]
  unfold Releases reboot SoleM.scopedLock
  rw [rebootedServo_getServoId, if_pos free]
  dsimp only
  unfold SoleM.awaited
  cases ended : ((DynamixelServo.reboot polls : ServoM R _).run
      (bus.world (rebooted servo)) (comms.servo (rebooted servo))).1 with
  | none => simp [ended]
  | some reply => simp [ended, free]

/-- For a family of streams of replies, there is one number of polls within
which every reboot ends and the mutex is free again: exactly when there is one
within which the servo answers in each stream. -/
theorem reboot_bounded_iff
    {Stream : Type}
    {bus : Stream → Bus R}
    {servo : ServoInstance}
    (up : ∀ stream, ((bus stream).world (rebooted servo)).Up)
    {comms : DynamixelComms}
    (free : comms.commsMutex = none) :
    (∃ polls, ∀ stream, Releases (bus stream) polls servo comms) ↔
      ∃ polls, ∀ stream,
        (comms.servo (rebooted servo)).AnswersWithin
          ((bus stream).world (rebooted servo)) polls := by
  apply exists_congr
  intro polls
  apply forall_congr'
  intro stream
  exact releases_iff (up stream) free polls

theorem reboot_bounded_calm :
    ∃ polls, ∀ _ : Unit, Releases calmBus polls .servoLeftFront started := by
  apply (reboot_bounded_iff (fun _ _ => rfl) rfl).mpr
  exact ⟨1, fun _ => Or.inr (Or.inl ⟨0, by decide, rfl⟩)⟩

/-- A bus on which a servo that is asked to reboot is not heard of again. -/
def deadBus : Bus ℚ where
  world _ :=
    (World.calm ℚ).losing fun _ request => request = .read4 addrModelNumber
  cast := FloatCast.wrapping ℚ

/-- The reboot on that bus holds the mutex for ever. -/
theorem reboot_hangs :
    ¬∀ (Stream : Type) (bus : Stream → Bus ℚ) (servo : ServoInstance)
      (comms : DynamixelComms),
      (∀ stream, ((bus stream).world (rebooted servo)).Up) →
      comms.commsMutex = none →
      ∃ polls, ∀ stream, Releases (bus stream) polls servo comms := by
  intro always
  obtain ⟨polls, released⟩ :=
    always Unit (fun _ => deadBus) .servoLeftFront started (fun _ _ => rfl) rfl
  rcases (releases_iff (fun _ => rfl) rfl polls).mp (released ()) with
    refused | ⟨i, -, answered⟩ | ⟨-, named, -⟩
  · exact absurd refused (by decide)
  · cases answered
  · exact absurd named (by decide)

end DynamixelComms
end Skatebot
