import Mathlib.Data.List.Infix
import Skatebot.LowControl.ImuController

/-!
# What makes `IMU_Controller` stop the robot

Every cause of a stop, told from the messages that came before a tick of the
timer, and two causes that are missing: the age of the last command in real
time, where the system's clock has been stepped back, and the critical yaw,
which is stored and never consulted.
-/

namespace Skatebot

open Library

variable {R : Type} [Field R] [LinearOrder R] [FloorRing R]

namespace ImuController

/-! ## The causes -/

/-- The attitude in the latest IMU message. -/
def lastAttitude (events : List (ImuEvent R)) : Option (EulerAngles R) :=
  latest
    (fun
      | .imu msg => some msg
      | _ => none)
    events

/-- The command by the D-pad, or else by the latest `cmd_vel`. -/
def wanted (platform : Platform R) (settings : ImuParameters R) (start : Int)
    (events : List (ImuEvent R)) : Twist R :=
  if direction platform settings.dPadForwardKey events ≠ 0 then
    { linearX := settings.dPadSpeedMS *
        direction platform settings.dPadForwardKey events
      angularZ := 0 }
  else (lastCommand start events).2

/-- By the system's clock, the latest `cmd_vel` is older than half a second. -/
def Expired (start : Int) (events : List (ImuEvent R)) (now : Int) : Prop :=
  elapsedSeconds now (lastCommand start events).1 > (0.5 : R)

/-- The latest attitude is beyond the critical roll or the critical pitch. -/
def BeyondCritical (settings : ImuParameters R) (events : List (ImuEvent R)) :
    Prop :=
  |(attitude events).roll| > settings.criticalRollDegrees ∨
    |(attitude events).pitch| > settings.criticalPitchDegrees

/-- A stop is wanted, and there is no roll to correct. -/
def AtRest (platform : Platform R) (settings : ImuParameters R) (start : Int)
    (events : List (ImuEvent R)) : Prop :=
  wanted platform settings start events = Twist.stop ∧
    |(attitude events).roll| ≤ 8.0

/-- A callback publishes nothing that moves the robot without a cause: a tick
of the timer comes too late, finds the robot beyond a critical angle, or finds
it at rest. -/
def HasCause (platform : Platform R) (settings : ImuParameters R)
    (start : Int) (events : List (ImuEvent R)) : ImuEvent R → Prop
  | .timer now =>
      Expired start events now ∨ BeyondCritical settings events ∨
        AtRest platform settings start events
  | _ => True

/-- After a run, a callback publishes nothing but a stop. -/
def StopsAt (platform : Platform R) (settings : ImuParameters R)
    (start : Int) (events : List (ImuEvent R)) (event : ImuEvent R) : Prop :=
  ∀ node, (callbacks platform).run (init settings start) events = some node →
    OnlyStops platform node event

variable {platform : Platform R} {settings : ImuParameters R} {start : Int}
  {events : List (ImuEvent R)}

theorem Reflects.desired_eq
    {node : ImuController R}
    (reflects : Reflects platform settings start events node) :
    node.desired = wanted platform settings start events := by
  rw [desired, wanted, reflects.parameters, reflects.dPadDirection,
    reflects.twistMsg]

theorem Reflects.onlyStops_iff
    [IsStrictOrderedRing R]
    {node : ImuController R}
    (reflects : Reflects platform settings start events node)
    (event : ImuEvent R) :
    OnlyStops platform node event ↔
      HasCause platform settings start events event := by
  cases event with
  | imu msg => exact iff_of_true (Or.inl rfl) trivial
  | joy axes => exact iff_of_true (Or.inl rfl) trivial
  | vel now msg => exact iff_of_true (Or.inl rfl) trivial
  | timer now =>
      rw [onlyStops_timer_iff, newTwistMsg_stop_iff, reflects.desired_eq]
      unfold Timeout Tilted
      rw [reflects.timeSinceLastTwistMsg, reflects.imuDegrees,
        reflects.parameters]
      rfl

/-- The callbacks raise no exceptions. -/
theorem run_total
    (platform : Platform R)
    (node : ImuController R)
    (events : List (ImuEvent R)) :
    ∃ final, (callbacks platform).run node events = some final := by
  induction events generalizing node with
  | nil => exact ⟨node, rfl⟩
  | cons event events inductionHypothesis =>
      exact inductionHypothesis (node.handle platform event)

/-- After every run, a callback publishes nothing but a stop exactly when
there is a cause for it. -/
theorem stopsAt_iff
    [IsStrictOrderedRing R]
    (event : ImuEvent R) :
    StopsAt platform settings start events event ↔
      HasCause platform settings start events event := by
  obtain ⟨node, reached⟩ := run_total platform (init settings start) events
  have causes := (run_reflects reached).onlyStops_iff event
  constructor
  · intro stops
    exact causes.mp (stops node reached)
  · intro cause other reachedOther
    rw [← Option.some.inj (reached.symm.trans reachedOther)]
    exact causes.mpr cause

/-! ## Steps of the clock -/

/-- An event and the real time at which it happens, in nanoseconds.  What the
system's clock reads then is part of the event, and it can be anything. -/
structure Timed (R : Type) where
  realTime : Int
  event : ImuEvent R

/-- The real time at which the latest `cmd_vel` was received. -/
def received (events : List (Timed R)) : Option Int :=
  latest
    (fun
      | ⟨realTime, .vel _ _⟩ => some realTime
      | _ => none)
    events

/-- A tick of the timer comes more than half a second of real time after the
latest `cmd_vel`. -/
def Stale (earlier : List (Timed R)) (current : Timed R) : Prop :=
  (∃ now, current.event = .timer now) ∧
    ∃ since, received earlier = some since ∧
      elapsedSeconds current.realTime since > (0.5 : R)

/-- In a run, every tick of the timer that finds the latest `cmd_vel` stale
publishes a stop: exactly when every such tick finds it expired by the system's
clock too, or finds the robot beyond a critical angle or at rest. -/
theorem stale_stops_iff
    [IsStrictOrderedRing R]
    (platform : Platform R)
    (settings : ImuParameters R)
    (start : Int)
    (events : List (Timed R)) :
    Throughout
        (fun earlier current => Stale earlier current →
          StopsAt platform settings start (earlier.map Timed.event)
            current.event)
        events ↔
      Throughout
        (fun earlier current => Stale earlier current →
          HasCause platform settings start (earlier.map Timed.event)
            current.event)
        events := by
  apply throughout_congr
  intro earlier current later _
  apply imp_congr_right
  intro _
  exact stopsAt_iff current.event

/-- A command, and a tick of the timer 0.6 s later. -/
def staleEvents (reading : Int) : List (Timed ℚ) :=
  [⟨0, .vel 0 { linearX := 1, angularZ := 0 }⟩] ++
    [⟨600000000, .timer reading⟩]

theorem stale_stops_steady :
    Throughout
      (fun earlier current => Stale earlier current →
        StopsAt wrapping .declared 0 (earlier.map Timed.event) current.event)
      (staleEvents 600000000) := by
  apply (stale_stops_iff wrapping .declared 0 _).mpr
  unfold staleEvents
  rw [throughout_concat, throughout_singleton]
  constructor
  · exact fun _ => trivial
  · intro _
    left
    unfold Expired
    decide +kernel

/-- The clock is stepped back by a second before that tick. -/
theorem stepped_clock_moves :
    ¬∀ (platform : Platform ℚ) (settings : ImuParameters ℚ) (start : Int)
      (events : List (Timed ℚ)),
      Throughout
        (fun earlier current => Stale earlier current →
          StopsAt platform settings start (earlier.map Timed.event)
            current.event)
        events := by
  intro always
  have stops :=
    always wrapping .declared 0 (staleEvents (-400000000)) _ _ [] rfl
      ⟨⟨-400000000, rfl⟩, 0, rfl, by decide +kernel⟩ _ rfl
  unfold OnlyStops at stops
  revert stops
  decide +kernel

/-! ## The critical yaw -/

/-- The latest attitude received is beyond the critical yaw. -/
def YawBeyond (settings : ImuParameters R) (events : List (ImuEvent R)) :
    Prop :=
  ∃ msg, lastAttitude events = some msg ∧
    |msg.yaw| > settings.criticalYawDegrees

/-- In a run, nothing but stops is published beyond the critical yaw: exactly
when every tick of the timer there finds another cause to stop. -/
theorem yaw_stops_iff
    [IsStrictOrderedRing R]
    (platform : Platform R)
    (settings : ImuParameters R)
    (start : Int)
    (events : List (ImuEvent R)) :
    Throughout
        (fun earlier current => YawBeyond settings earlier →
          StopsAt platform settings start earlier current)
        events ↔
      Throughout
        (fun earlier current => YawBeyond settings earlier →
          HasCause platform settings start earlier current)
        events := by
  apply throughout_congr
  intro earlier current later _
  apply imp_congr_right
  intro _
  exact stopsAt_iff current

/-- The robot has turned by more than the critical yaw, and is told to go. -/
def yawedEvents (roll : ℚ) : List (ImuEvent ℚ) :=
  [.imu { roll := roll, pitch := 0, yaw := 721 }] ++
    [.vel 0 { linearX := 1, angularZ := 0 }] ++ [.timer 200000000]

theorem yaw_stops_tilted :
    Throughout
      (fun earlier current => YawBeyond .declared earlier →
        StopsAt wrapping .declared 0 earlier current)
      (yawedEvents 31) := by
  apply (yaw_stops_iff wrapping .declared 0 _).mpr
  unfold yawedEvents
  rw [throughout_concat, throughout_concat, throughout_singleton]
  refine ⟨⟨fun _ => trivial, fun _ => trivial⟩, fun _ => ?_⟩
  right
  left
  unfold BeyondCritical
  decide +kernel

/-- It goes. -/
theorem yawed_moves :
    ¬∀ (platform : Platform ℚ) (settings : ImuParameters ℚ) (start : Int)
      (events : List (ImuEvent ℚ)),
      Throughout
        (fun earlier current => YawBeyond settings earlier →
          StopsAt platform settings start earlier current)
        events := by
  intro always
  have stops :=
    always wrapping .declared 0 (yawedEvents 0) _ _ [] rfl
      ⟨_, rfl, by decide +kernel⟩ _ rfl
  unfold OnlyStops at stops
  revert stops
  decide +kernel

end ImuController
end Skatebot
