import Mathlib.Algebra.BigOperators.Group.Finset.Basic
import Skatebot.Driver.Encoder

/-!
# Goals of relative moves

`SetRelativePosition` adds the counts of an angle to the position that it has
read.  In extended position mode a servo accepts goals of up to 1048575 counts
each way, while its position register may have run much further in velocity
mode.  This module follows the register through the change of mode to where it
is read, and tells which goals a servo can be sent to.
-/

namespace Skatebot

open Library

variable {R : Type} [Field R] [LinearOrder R] [FloorRing R]

/-- How far the wheel turns before a number of packets from a packet on. -/
def World.travel (world : World R) (first count : Nat) : Int :=
  ∑ packet ∈ Finset.range count, world.motion (first + packet)

@[simp] theorem World.travel_zero (world : World R) (first : Nat) :
    world.travel first 0 = 0 := by
  simp [travel]

theorem World.travel_succ (world : World R) (first count : Nat) :
    world.travel first (count + 1) =
      world.travel first count + world.motion (first + count) := by
  simp [travel, Finset.sum_range_succ]

/-- A packet that fails only lets the wheel turn. -/
theorem Device.serve_presentPosition_of_failed
    {world : World R}
    {device : Device}
    {request : Request}
    (fails : world.ok device.packets request = false) :
    (device.serve world request).presentPosition =
      device.presentPosition + world.motion device.packets := by
  rw [serve, fails]
  rfl

namespace DynamixelServo

/-! ## The register on the way -/

/-- Some packets later, the register has moved with the wheel. -/
structure MovesOn (world : World R) (before : DynamixelServo) (count : Nat)
    (after : DynamixelServo) : Prop where
  packets : after.device.packets = before.device.packets + count
  position : after.device.presentPosition =
    before.device.presentPosition +
      world.travel before.device.packets count

variable {world : World R} {before after : DynamixelServo} {count : Nat}

theorem MovesOn.refl (world : World R) (servo : DynamixelServo) :
    MovesOn world servo 0 servo := by
  constructor <;> simp

/-- A further packet moves the register on, unless it re-bases it. -/
theorem MovesOn.exchange
    (moves : MovesOn world before count after)
    {request : Request}
    (keeps : (∀ data, request ≠ .write1 addrOperatingMode data) ∧
        request ≠ .reboot ∨
      world.ok after.device.packets request = false) :
    MovesOn world before (count + 1) (after.exchange world request) := by
  have moved : (after.device.serve world request).presentPosition =
      after.device.presentPosition + world.motion after.device.packets := by
    rcases keeps with ⟨keeps, running⟩ | fails
    · exact Device.serve_presentPosition world _ keeps running
    · exact Device.serve_presentPosition_of_failed fails
  constructor
  · rw [exchange_device, Device.serve_packets, moves.packets, add_assoc]
  · rw [exchange_device, moved, moves.position, moves.packets,
      World.travel_succ, add_assoc]

/-- So does `UpdateEncoderCount`. -/
theorem MovesOn.updated
    (moves : MovesOn world before count after)
    (modeChanged : Bool) :
    MovesOn world before (count + 1) (after.updated world modeChanged) := by
  have read : MovesOn world before (count + 1)
      (after.exchange world (.read4 addrPresentPosition)) :=
    moves.exchange (Or.inl (by simp))
  cases modeChanged <;> exact ⟨read.packets, read.position⟩

variable (world : World R) (servo : DynamixelServo)

/-- The packets of `ConfigureControlMode` where it does not set the mode. -/
def idlePackets (newMode : OperatingMode) : Nat :=
  if servo.Interrupts world newMode then 5
  else if servo.reportedMode world ≠ newMode then 3
  else 1

theorem released_movesOn : MovesOn world servo 3 (servo.released world) := by
  unfold released
  refine ((MovesOn.refl world servo).exchange ?_).exchange ?_ |>.exchange ?_
  · exact Or.inl (by simp)
  · exact Or.inl (by simp)
  · exact Or.inl (by simp [addrTorqueEnable, addrOperatingMode])

/-- Without a change of mode, the register has moved with the wheel. -/
theorem configured_movesOn
    {newMode : OperatingMode}
    (named : newMode ≠ .noModeSet)
    (still : ¬servo.Jumps world newMode) :
    MovesOn world servo (servo.idlePackets world newMode)
      (servo.configured world newMode) := by
  unfold configured idlePackets
  by_cases interrupts : servo.Interrupts world newMode
  · have fails : ¬(servo.released world).SetsMode world newMode :=
      fun sets => still ⟨interrupts, sets⟩
    have valid := (modeSettings_valid_iff servo.config newMode).mpr named
    have counted := (servo.released_movesOn world).updated false
    rw [if_pos interrupts, if_pos interrupts, if_neg fails, unset,
      if_pos valid]
    apply counted.exchange
    right
    rw [updated_device, Device.serve_packets]
    exact Bool.eq_false_iff.mpr fun arrives => fails ⟨valid, arrives⟩
  · rw [if_neg interrupts, if_neg interrupts]
    split
    · exact servo.released_movesOn world
    · exact (MovesOn.refl world servo).exchange (Or.inl (by simp))

/-- The state right after the mode has been written. -/
def jumped (newMode : OperatingMode) : DynamixelServo :=
  ((servo.released world).updated world false).exchange world
    (.write1 addrOperatingMode
      (modeSettings servo.config newMode).operatingMode)

theorem jumped_packets (newMode : OperatingMode) :
    (servo.jumped world newMode).device.packets =
      servo.device.packets + 5 := by
  simp [jumped, released_packets]

/-- The write of the mode leaves the register at a value of its own. -/
theorem jumped_position
    {newMode : OperatingMode}
    (jumps : servo.Jumps world newMode) :
    (servo.jumped world newMode).device.presentPosition =
      (world.rebase (servo.device.packets + 4)).toInt := by
  have packets : ((servo.released world).updated world false).device.packets =
      servo.device.packets + 4 := by
    simp [released_packets]
  have arrives := jumps.2.2
  rw [released_packets, released_config] at arrives
  rw [jumped, exchange_device, Device.serve_mode_presentPosition, packets]
  rw [packets]
  exact arrives

/-- From there it has moved with the wheel. -/
theorem configured_movesOn_of_jumps
    {newMode : OperatingMode}
    (jumps : servo.Jumps world newMode) :
    MovesOn world (servo.jumped world newMode) 4
      (servo.configured world newMode) := by
  rw [configured, if_pos jumps.1, if_pos jumps.2, rebased, switched]
  refine (((MovesOn.refl world _).exchange ?_).exchange ?_).updated true
    |>.exchange ?_
  · exact Or.inl (by simp)
  · exact Or.inl (by simp)
  · exact Or.inl (by simp [addrTorqueEnable, addrOperatingMode])

/-! ## What `SetRelativePosition` reads -/

/-- The number of the packet that asks for the position. -/
def readingPacket : Nat :=
  if servo.Jumps world .extendedPositionControlMode then
    servo.device.packets + 9
  else
    servo.device.packets +
      servo.idlePackets world .extendedPositionControlMode

/-- The register when it is read: as the change of mode has left it, or as it
was before, moved with the wheel. -/
def readingRegister : Int :=
  if servo.Jumps world .extendedPositionControlMode then
    (world.rebase (servo.device.packets + 4)).toInt +
      world.travel (servo.device.packets + 5) 5
  else
    servo.device.presentPosition +
      world.travel servo.device.packets
        (servo.idlePackets world .extendedPositionControlMode + 1)

theorem configured_packets :
    (servo.configured world .extendedPositionControlMode).device.packets =
      servo.readingPacket world := by
  unfold readingPacket
  split
  next jumps =>
    rw [(servo.configured_movesOn_of_jumps world jumps).packets,
      jumped_packets]
  next still =>
    exact (servo.configured_movesOn world (by simp) still).packets

/-- The position that is read is the register's, unless the packet fails. -/
theorem configured_reportedPosition :
    (servo.configured world .extendedPositionControlMode).reportedPosition
        world =
      if world.ok (servo.readingPacket world) (.read4 addrPresentPosition) then
        int32 (servo.readingRegister world)
      else 0 := by
  have register :
      (servo.configured world
          .extendedPositionControlMode).device.presentPosition +
        world.motion (servo.readingPacket world) =
          servo.readingRegister world := by
    unfold readingRegister readingPacket
    split
    next jumps =>
      rw [(servo.configured_movesOn_of_jumps world jumps).position,
        jumped_position _ _ jumps, jumped_packets, World.travel_succ _ _ 4]
      ring
    next still =>
      rw [(servo.configured_movesOn world (by simp) still).position,
        World.travel_succ]
      ring
  rw [reportedPosition, configured_packets, register]

/-- A change of mode that leaves the register alone leaves the reading at what
the register was before, moved with the wheel. -/
theorem int32_readingRegister
    (kept : servo.Jumps world .extendedPositionControlMode →
      (world.rebase (servo.device.packets + 4)).toInt =
        int32 (servo.device.presentPosition +
          world.travel servo.device.packets 5)) :
    ∃ packets, int32 (servo.readingRegister world) =
      int32 (servo.device.presentPosition +
        world.travel servo.device.packets packets) := by
  unfold readingRegister
  split
  next jumps =>
    refine ⟨10, ?_⟩
    have whole : world.travel servo.device.packets 10 =
        world.travel servo.device.packets 5 +
          world.travel (servo.device.packets + 5) 5 := by
      simp only [World.travel_succ, World.travel_zero]
      ring_nf
    rw [kept jumps, whole, int32, int32, int32, Int.bmod_add_bmod, add_assoc]
  next still => exact ⟨_, rfl⟩

/-! ## Goals -/

/-- A servo in extended position mode accepts the goal. -/
def InRange (goal : Int) : Prop := -1048575 ≤ goal ∧ goal ≤ 1048575

instance (goal : Int) : Decidable (InRange goal) :=
  inferInstanceAs (Decidable (_ ∧ _))

/-- `SetRelativePosition` sends a goal that the servo accepts, and that is the
angle's counts away from the position that `GetPresentPosition` returned; the
counts and the sum fit their 32 bits. -/
structure SendsReachableGoal (angleRadians : R) (goal : Int) : Prop where
  sent :
    ((setRelativePosition angleRadians : ServoM R _).run world
      servo).2.device.sent.head? =
        some (addrGoalPosition, BitVec.ofInt 32 goal)
  away : goal =
    ((getPresentPosition : ServoM R _).run world
      (servo.configured world .extendedPositionControlMode)).1 +
      truncate (angleCounts angleRadians)
  countsFit : Fits 32 (truncate (angleCounts angleRadians))
  goalFits : Fits 32 goal
  reachable : InRange goal

variable [IsStrictOrderedRing R]

/-- An angle of up to 1600 radians is less than one revolution short of the
range. -/
theorem truncate_angleCounts_bounds
    {angleRadians : R}
    (small : |angleRadians| ≤ 1600) :
    -1043038 ≤ truncate (angleCounts angleRadians) ∧
      truncate (angleCounts angleRadians) ≤ 1043038 := by
  obtain ⟨lower, upper⟩ := abs_le.mp small
  have counts : angleCounts angleRadians =
      -(4096 / (2 * 3.1415926)) * angleRadians := by
    unfold angleCounts
    ring
  rw [le_truncate_iff, truncate_le_iff, if_neg (by norm_num),
    if_neg (by norm_num), counts]
  norm_num
  constructor <;> linarith

/-- The goal of such a move is the sum of the position and the counts, and the
servo accepts it or not. -/
theorem sendsReachableGoal_iff_inRange
    {angleRadians : R}
    (small : |angleRadians| ≤ 1600) :
    (∃ goal, servo.SendsReachableGoal world angleRadians goal) ↔
      InRange
        ((servo.configured world
            .extendedPositionControlMode).reportedPosition world +
          truncate (angleCounts angleRadians)) := by
  obtain ⟨lower, upper⟩ := truncate_angleCounts_bounds small
  have countsFit : Fits 32 (truncate (angleCounts angleRadians)) := by
    constructor <;> norm_num <;> omega
  constructor
  · rintro ⟨goal, sends⟩
    have reachable := sends.reachable
    rw [sends.away, run_getPresentPosition] at reachable
    exact reachable
  · intro reachable
    refine ⟨_, ?_, ?_, countsFit, ?_, reachable⟩
    · rw [run_setRelativePosition]
      simp only [exchange_device, Device.serve_sent, List.head?_cons,
        relativeGoal, world.cast.toInt32_eq _ countsFit]
      rw [int32, ← BitVec.toInt_ofInt, BitVec.ofInt_toInt]
    · rw [run_getPresentPosition]
    · unfold InRange at reachable
      constructor <;> norm_num <;> omega

/-- A relative move of up to 1600 radians sends a reachable goal, exactly if
the position cannot be read, or the register's reading and the angle's counts
add up to one. -/
theorem sendsReachableGoal_iff
    {angleRadians : R}
    (small : |angleRadians| ≤ 1600) :
    (∃ goal, servo.SendsReachableGoal world angleRadians goal) ↔
      world.ok (servo.readingPacket world) (.read4 addrPresentPosition) =
          false ∨
        InRange
          (int32 (servo.readingRegister world) +
            truncate (angleCounts angleRadians)) := by
  rw [sendsReachableGoal_iff_inRange world servo small,
    configured_reportedPosition]
  by_cases arrives :
      world.ok (servo.readingPacket world) (.read4 addrPresentPosition) = true
  · rw [if_pos arrives, or_iff_right (by simp [arrives])]
  · rw [if_neg arrives]
    refine iff_of_true ?_ (Or.inl (Bool.eq_false_iff.mpr arrives))
    obtain ⟨lower, upper⟩ := truncate_angleCounts_bounds small
    unfold InRange
    omega

/-- A wheel at rest whose register has run two ranges away is out of the reach
of every such move, as long as a change of mode leaves the register alone. -/
theorem no_reachable_goal
    {angleRadians : R}
    (small : |angleRadians| ≤ 1600)
    (arrives :
      world.ok (servo.readingPacket world) (.read4 addrPresentPosition) = true)
    (stands : ∀ packet, world.motion packet = 0)
    (kept : servo.Jumps world .extendedPositionControlMode →
      (world.rebase (servo.device.packets + 4)).toInt =
        int32 servo.device.presentPosition)
    (far : 2 * 1048575 < |int32 servo.device.presentPosition|) :
    ¬∃ goal, servo.SendsReachableGoal world angleRadians goal := by
  have still : ∀ first count, world.travel first count = 0 := by
    intro first count
    simp [World.travel, stands]
  have reads : int32 (servo.readingRegister world) =
      int32 servo.device.presentPosition := by
    obtain ⟨packets, same⟩ := servo.int32_readingRegister world (by
      rw [still, add_zero]
      exact kept)
    rw [same, still, add_zero]
  obtain ⟨lower, upper⟩ := truncate_angleCounts_bounds small
  rw [sendsReachableGoal_iff_inRange world servo small,
    configured_reportedPosition, if_pos arrives, reads]
  unfold InRange
  rcases lt_abs.mp far with above | below <;> omega

/-! ## A long way in velocity mode -/

/-- A world in which a change of mode leaves the register of a wheel alone that
has turned by two million counts. -/
def unbased : World ℚ :=
  { World.calm ℚ with rebase := fun _ => 2000000 }

/-- The front left wheel after it has turned that far. -/
def travelled : DynamixelServo :=
  { frontLeft with device := frontLeft.device.turn 2000000 }

theorem sendsReachableGoal_iff_frontLeft :
    (∃ goal, frontLeft.SendsReachableGoal (World.calm ℚ) 1600 goal) ↔
      (World.calm ℚ).ok (frontLeft.readingPacket (World.calm ℚ))
          (.read4 addrPresentPosition) = false ∨
        InRange
          (int32 (frontLeft.readingRegister (World.calm ℚ)) +
            truncate (angleCounts (1600 : ℚ))) :=
  sendsReachableGoal_iff (World.calm ℚ) frontLeft (by norm_num)

/-- The wheel is told to turn by 3.14 radians, and the goal that is sent is far
out of range. -/
theorem travelled_goal_unreachable :
    ((setRelativePosition (3.14 : ℚ) : ServoM ℚ _).run unbased
        travelled).2.device.sent.head? =
          some (addrGoalPosition, BitVec.ofInt 32 1997954) ∧
      ¬∃ goal, travelled.SendsReachableGoal unbased 3.14 goal := by
  have sent :
      ((setRelativePosition (3.14 : ℚ) : ServoM ℚ _).run unbased
          travelled).2.device.sent.head? =
            some (addrGoalPosition, BitVec.ofInt 32 1997954) := by
    decide +kernel
  refine ⟨sent, ?_⟩
  rintro ⟨goal, sends⟩
  have away : goal = 1997954 := sends.away.trans (by decide +kernel)
  obtain ⟨-, upper⟩ := sends.reachable
  omega

end DynamixelServo
end Skatebot
