import Mathlib.Data.List.Induction
import Mathlib.Tactic.Ring
import Skatebot.Library.History
import Skatebot.Library.Machine
import Skatebot.Library.Rounding
import Skatebot.Messages

/-!
# `IMU_Controller`

The node between the velocity commands and the wheels.  It repeats the last
command five times a second, as long as the command is recent and the robot has
not tilted too far, and steers against the roll.  Its four callbacks come in
any order; what the timer publishes depends on the latest message of each kind.
-/

namespace Skatebot

open Library

variable {R : Type} [Field R] [LinearOrder R] [FloorRing R]

/-! ## The node -/

/-- `pipebot_msgs::msg::EulerAngles`. -/
structure EulerAngles (R : Type) where
  roll : R
  pitch : R
  yaw : R
  deriving DecidableEq

/-- The parameters that `IMU_Controller` declares. -/
structure ImuParameters (R : Type) where
  criticalRollDegrees : R
  criticalPitchDegrees : R
  criticalYawDegrees : R
  dPadForwardKey : Int
  dPadSpeedMS : R

/-- Their declared values. -/
def ImuParameters.declared : ImuParameters R where
  criticalRollDegrees := 30.0
  criticalPitchDegrees := 30.0
  criticalYawDegrees := 720.0
  dPadForwardKey := 7
  dPadSpeedMS := 0.1

/-- What C++ leaves open: conversions to `int` that do not fit, and reading
outside a vector. -/
structure Platform (R : Type) [Field R] [LinearOrder R] [FloorRing R] where
  cast : FloatCast R
  /-- What is read outside a vector. -/
  stray : List R → Int → R

/-- `values[position]` of a `std::vector`. -/
def Platform.element (platform : Platform R) (values : List R)
    (position : Int) : R :=
  if 0 ≤ position then
    values[position.toNat]?.getD (platform.stray values position)
  else platform.stray values position

/-- `IMU_Controller`.  Times are readings of the system's clock in
nanoseconds. -/
structure ImuController (R : Type) where
  parameters : ImuParameters R
  /-- The members `imu_roll_degrees_`, `imu_pitch_degrees_` and
  `imu_yaw_degrees_`. -/
  imuDegrees : EulerAngles R
  dPadDirection : Int
  twistMsg : Twist R
  timeSinceLastTwistMsg : Int
  /-- What has been published on `controlled_cmd_vel`, newest first. -/
  published : List (Twist R)

/-- What the node's callbacks receive, with the time of its clock. -/
inductive ImuEvent (R : Type)
  | imu (msg : EulerAngles R)
  | joy (axes : List R)
  | vel (now : Int) (msg : Twist R)
  | timer (now : Int)

namespace ImuController

/-- The constant `angular_P_`. -/
def angularP : R := 0.03

/-- The constant `k_required_roll_degrees_`. -/
def requiredRollDegrees : R := 0.0

/-- The constant `k_when_to_stop_s_`. -/
def whenToStopS : R := 0.5

/-- `IMU_Controller::IMU_Controller`. -/
def init (parameters : ImuParameters R) (now : Int) : ImuController R where
  parameters := parameters
  imuDegrees := { roll := 0.0, pitch := 0.0, yaw := 0.0 }
  dPadDirection := 0
  twistMsg := Twist.stop
  timeSinceLastTwistMsg := now
  published := []

/-- `IMU_Controller::imu_callback`. -/
def imuCallback (node : ImuController R) (msg : EulerAngles R) :
    ImuController R :=
  { node with imuDegrees := msg }

/-- `IMU_Controller::joy_callback`. -/
def joyCallback (platform : Platform R) (node : ImuController R)
    (axes : List R) : ImuController R :=
  { node with
    dPadDirection :=
      platform.cast.toInt32
        (platform.element axes node.parameters.dPadForwardKey) }

/-- `IMU_Controller::vel_callback`. -/
def velCallback (node : ImuController R) (now : Int) (msg : Twist R) :
    ImuController R :=
  { node with timeSinceLastTwistMsg := now, twistMsg := msg }

/-- Seconds between two readings of the clock. -/
def elapsedSeconds (now since : Int) : R := ((now - since : Int) : R) / 1e9

/-- The last command is too old. -/
def Timeout (node : ImuController R) (now : Int) : Prop :=
  elapsedSeconds now node.timeSinceLastTwistMsg > (whenToStopS : R)

/-- The robot has reached a critical tilt. -/
def Tilted (node : ImuController R) : Prop :=
  |node.imuDegrees.roll| > node.parameters.criticalRollDegrees ∨
    |node.imuDegrees.pitch| > node.parameters.criticalPitchDegrees

instance (node : ImuController R) (now : Int) : Decidable (node.Timeout now) :=
  inferInstanceAs (Decidable (_ < _))

instance (node : ImuController R) : Decidable node.Tilted :=
  inferInstanceAs (Decidable (_ ∨ _))

/-- The command by the D-pad, or else by the last message. -/
def desired (node : ImuController R) : Twist R :=
  if node.dPadDirection ≠ 0 then
    { linearX := node.parameters.dPadSpeedMS * node.dPadDirection
      angularZ := 0 }
  else node.twistMsg

/-- The correction for roll.  Turns of 0.1 rad/s and more stay as they are. -/
def correctRoll (rollDegrees : R) (msg : Twist R) : Twist R :=
  if |rollDegrees| > 8.0 ∧ |msg.angularZ| < 0.1 then
    let errorDegrees := requiredRollDegrees - rollDegrees
    let newAngularSpeed := errorDegrees * angularP
    { msg with angularZ := -newAngularSpeed }
  else msg

/-- Less speed at lots of roll. -/
def slowDown (rollDegrees : R) (msg : Twist R) : Twist R :=
  if |rollDegrees| > 20.0 then { msg with linearX := msg.linearX / 3.0 }
  else msg

/-- The command that `IMU_Controller::timer_callback` publishes.  Its other
components are zero in every branch. -/
def newTwistMsg (node : ImuController R) (now : Int) : Twist R :=
  if node.Timeout now then Twist.stop
  else if node.Tilted then Twist.stop
  else
    slowDown node.imuDegrees.roll
      (correctRoll node.imuDegrees.roll node.desired)

/-- `IMU_Controller::timer_callback`. -/
def timerCallback (node : ImuController R) (now : Int) : ImuController R :=
  { node with published := node.newTwistMsg now :: node.published }

/-- The callback for an event. -/
def handle (platform : Platform R) (node : ImuController R) :
    ImuEvent R → ImuController R
  | .imu msg => node.imuCallback msg
  | .joy axes => node.joyCallback platform axes
  | .vel now msg => node.velCallback now msg
  | .timer now => node.timerCallback now

/-- The node under its callbacks. -/
def callbacks (platform : Platform R) :
    Machine (ImuController R) (ImuEvent R) where
  step node event := some (node.handle platform event)

@[simp] theorem callbacks_step
    (platform : Platform R)
    (node : ImuController R)
    (event : ImuEvent R) :
    (callbacks platform).step node event = some (node.handle platform event) :=
  rfl

/-! ## What the events say -/

/-- The attitude in the latest IMU message; level where there was none. -/
def attitude (events : List (ImuEvent R)) : EulerAngles R :=
  (latest
    (fun
      | .imu msg => some msg
      | _ => none)
    events).getD { roll := 0.0, pitch := 0.0, yaw := 0.0 }

/-- The direction of the D-pad in the latest Joy message. -/
def direction (platform : Platform R) (dPadForwardKey : Int)
    (events : List (ImuEvent R)) : Int :=
  (latest
    (fun
      | .joy axes =>
          some (platform.cast.toInt32 (platform.element axes dPadForwardKey))
      | _ => none)
    events).getD 0

/-- The latest `cmd_vel` and the time it came; a stop at the start where there
was none. -/
def lastCommand (start : Int) (events : List (ImuEvent R)) : Int × Twist R :=
  (latest
    (fun
      | .vel now msg => some (now, msg)
      | _ => none)
    events).getD (start, Twist.stop)

/-- What the node is after some events: its parameters are those it started
with, and each other field holds what the latest message of its kind said. -/
structure Reflects (platform : Platform R) (settings : ImuParameters R)
    (start : Int) (events : List (ImuEvent R)) (node : ImuController R) :
    Prop where
  parameters : node.parameters = settings
  imuDegrees : node.imuDegrees = attitude events
  dPadDirection :
    node.dPadDirection = direction platform settings.dPadForwardKey events
  timeSinceLastTwistMsg :
    node.timeSinceLastTwistMsg = (lastCommand start events).1
  twistMsg : node.twistMsg = (lastCommand start events).2

variable {platform : Platform R} {settings : ImuParameters R} {start : Int}
  {events : List (ImuEvent R)}

theorem Reflects.handle
    {before : ImuController R}
    (reflects : Reflects platform settings start events before)
    (event : ImuEvent R) :
    Reflects platform settings start (events ++ [event])
      (before.handle platform event) := by
  obtain ⟨parameters, imuDegrees, dPadDirection, since, twistMsg⟩ := reflects
  cases event with
  | imu msg =>
      refine ⟨parameters, ?_, ?_, ?_, ?_⟩
      · simp [attitude, ImuController.handle, imuCallback]
      · exact dPadDirection.trans (by simp [direction])
      · exact since.trans (by simp [lastCommand])
      · exact twistMsg.trans (by simp [lastCommand])
  | joy axes =>
      refine ⟨parameters, ?_, ?_, ?_, ?_⟩
      · exact imuDegrees.trans (by simp [attitude])
      · simp [direction, ImuController.handle, joyCallback, parameters]
      · exact since.trans (by simp [lastCommand])
      · exact twistMsg.trans (by simp [lastCommand])
  | vel now msg =>
      refine ⟨parameters, ?_, ?_, ?_, ?_⟩
      · exact imuDegrees.trans (by simp [attitude])
      · exact dPadDirection.trans (by simp [direction])
      · simp [lastCommand, ImuController.handle, velCallback]
      · simp [lastCommand, ImuController.handle, velCallback]
  | timer now =>
      refine ⟨parameters, ?_, ?_, ?_, ?_⟩
      · exact imuDegrees.trans (by simp [attitude])
      · exact dPadDirection.trans (by simp [direction])
      · exact since.trans (by simp [lastCommand])
      · exact twistMsg.trans (by simp [lastCommand])

theorem run_reflects
    {node : ImuController R}
    (reached :
      (callbacks platform).run (init settings start) events = some node) :
    Reflects platform settings start events node := by
  induction events using List.reverseRecOn generalizing node with
  | nil =>
      obtain rfl := Option.some.inj reached
      exact ⟨rfl, rfl, rfl, rfl, rfl⟩
  | append_singleton events event inductionHypothesis =>
      obtain ⟨before, reachedBefore, handled⟩ :=
        (callbacks platform).run_concat_eq_some.mp reached
      obtain rfl := Option.some.inj handled
      exact (inductionHypothesis reachedBefore).handle event

/-! ## The envelope -/

section

variable [IsStrictOrderedRing R]

/-- Slowing down keeps the turn, and it makes no speed greater. -/
theorem slowDown_bounds (rollDegrees : R) (msg : Twist R) :
    |(slowDown rollDegrees msg).linearX| ≤ |msg.linearX| ∧
      (slowDown rollDegrees msg).angularZ = msg.angularZ := by
  unfold slowDown
  split
  next =>
    refine ⟨?_, rfl⟩
    have third : |msg.linearX / 3.0| = |msg.linearX| / 3 := by
      rw [abs_div]
      norm_num
    rw [third]
    exact div_le_self (abs_nonneg _) (by norm_num)
  next => exact ⟨le_rfl, rfl⟩

omit [IsStrictOrderedRing R] in
/-- The correction is a turn in proportion to the roll. -/
theorem correctRoll_of_steep
    {rollDegrees : R}
    {msg : Twist R}
    (steep : 8.0 < |rollDegrees|)
    (slow : |msg.angularZ| < 0.1) :
    correctRoll rollDegrees msg =
      { msg with angularZ := 0.03 * rollDegrees } := by
  have steered : -((requiredRollDegrees - rollDegrees) * angularP) =
      0.03 * rollDegrees := by
    simp only [requiredRollDegrees, angularP]
    norm_num
    ring
  rw [correctRoll, if_pos ⟨steep, slow⟩]
  simp only [steered]

/-- What the node publishes at a tick of the timer, told from the messages
before it. -/
structure Enveloped (platform : Platform R) (settings : ImuParameters R)
    (start : Int) (events : List (ImuEvent R)) (now : Int) (twist : Twist R) :
    Prop where
  /-- Nothing moves by a command older than half a second. -/
  expired : elapsedSeconds now (lastCommand start events).1 > (0.5 : R) →
    twist = Twist.stop
  /-- Nothing moves beyond the critical angles. -/
  tilted :
    |(attitude events).roll| > settings.criticalRollDegrees ∨
      |(attitude events).pitch| > settings.criticalPitchDegrees →
    twist = Twist.stop
  dPad : direction platform settings.dPadForwardKey events ≠ 0 →
    |twist.linearX| ≤
      |settings.dPadSpeedMS *
        (direction platform settings.dPadForwardKey events : R)|
  commanded : direction platform settings.dPadForwardKey events = 0 →
    |twist.linearX| ≤ |(lastCommand start events).2.linearX|
  turn : |twist.angularZ| ≤
    max |(lastCommand start events).2.angularZ|
      (0.03 * settings.criticalRollDegrees)

theorem enveloped_stop
    (platform : Platform R)
    (settings : ImuParameters R)
    (start : Int)
    (events : List (ImuEvent R))
    (now : Int) :
    Enveloped platform settings start events now Twist.stop := by
  have zero : |(0 : R)| = 0 := abs_zero
  refine ⟨fun _ => rfl, fun _ => rfl, fun _ => ?_, fun _ => ?_, ?_⟩
  · exact zero.trans_le (abs_nonneg _)
  · exact zero.trans_le (abs_nonneg _)
  · exact zero.trans_le (le_max_of_le_left (abs_nonneg _))

/-- A command that is steered and slowed down is no faster, and its turn is its
own or that of the correction. -/
theorem steered_bounds (rollDegrees : R) (msg : Twist R) :
    let twist := slowDown rollDegrees (correctRoll rollDegrees msg)
    |twist.linearX| ≤ |msg.linearX| ∧
      |twist.angularZ| ≤ max |msg.angularZ| (0.03 * |rollDegrees|) := by
  obtain ⟨slower, kept⟩ :=
    slowDown_bounds rollDegrees (correctRoll rollDegrees msg)
  dsimp only
  rw [kept]
  by_cases steers : 8.0 < |rollDegrees| ∧ |msg.angularZ| < 0.1
  · rw [correctRoll_of_steep steers.1 steers.2] at slower ⊢
    refine ⟨slower, le_max_of_le_right ?_⟩
    rw [abs_mul, abs_of_pos (by norm_num)]
  · have straight : correctRoll rollDegrees msg = msg := if_neg steers
    rw [straight] at slower ⊢
    exact ⟨slower, le_max_left _ _⟩

theorem Reflects.enveloped
    {node : ImuController R}
    (reflects : Reflects platform settings start events node)
    (now : Int) :
    Enveloped platform settings start events now (node.newTwistMsg now) := by
  unfold newTwistMsg
  split
  next => exact enveloped_stop ..
  next recent =>
    split
    next => exact enveloped_stop ..
    next upright =>
      obtain ⟨speed, turn⟩ :=
        steered_bounds node.imuDegrees.roll node.desired
      unfold Timeout at recent
      unfold Tilted at upright
      have roll := not_lt.mp (not_or.mp upright).1
      rw [reflects.timeSinceLastTwistMsg] at recent
      rw [reflects.imuDegrees, reflects.parameters] at upright roll
      have within : 0.03 * |(attitude events).roll| ≤
          0.03 * settings.criticalRollDegrees :=
        mul_le_mul_of_nonneg_left roll (by norm_num)
      rw [← reflects.imuDegrees] at within
      refine ⟨fun expired => absurd expired recent,
        fun tilted => absurd tilted upright, ?_, ?_, ?_⟩
      · intro held
        rw [← reflects.dPadDirection] at held ⊢
        have wanted : node.desired.linearX =
            settings.dPadSpeedMS * node.dPadDirection := by
          rw [desired, if_pos held, reflects.parameters]
        exact wanted ▸ speed
      · intro released
        rw [← reflects.dPadDirection] at released
        have wanted : node.desired.linearX =
            (lastCommand start events).2.linearX := by
          rw [desired, if_neg (not_not.mpr released), reflects.twistMsg]
        exact wanted ▸ speed
      · rw [← reflects.twistMsg]
        apply turn.trans
        apply max_le_max _ within
        unfold desired
        split
        next =>
          rw [abs_zero]
          exact abs_nonneg _
        next => exact le_rfl

/-- In every run, a tick of the timer publishes one command, which keeps within
the envelope that the messages before it leave, and nothing else publishes. -/
theorem published_enveloped
    {node : ImuController R}
    (reached :
      (callbacks platform).run (init settings start) events = some node)
    (event : ImuEvent R) :
    (∃ now twist, event = .timer now ∧
      (node.handle platform event).published = twist :: node.published ∧
      Enveloped platform settings start events now twist) ∨
    (∀ now, event ≠ .timer now) ∧
      (node.handle platform event).published = node.published := by
  cases event with
  | imu msg => exact Or.inr ⟨by simp, rfl⟩
  | joy axes => exact Or.inr ⟨by simp, rfl⟩
  | vel now msg => exact Or.inr ⟨by simp, rfl⟩
  | timer now =>
      exact Or.inl ⟨now, _, rfl, rfl, (run_reflects reached).enveloped now⟩

/-! ## Stopping -/

/-- A callback publishes nothing but a stop. -/
def OnlyStops (platform : Platform R) (node : ImuController R)
    (event : ImuEvent R) : Prop :=
  (node.handle platform event).published = node.published ∨
    (node.handle platform event).published = Twist.stop :: node.published

omit [IsStrictOrderedRing R] in
theorem onlyStops_timer_iff
    (platform : Platform R)
    (node : ImuController R)
    (now : Int) :
    OnlyStops platform node (.timer now) ↔
      node.newTwistMsg now = Twist.stop := by
  simp [OnlyStops, ImuController.handle, timerCallback]

/-- No `cmd_vel` comes, and a tick of the timer finds the D-pad released. -/
def Unasked (node : ImuController R) : ImuEvent R → Prop
  | .vel _ _ => False
  | .timer _ => node.dPadDirection = 0
  | _ => True

/-- A tick of the timer finds the last command expired, the robot beyond a
critical angle, or a roll of at most 8 degrees. -/
def NothingToCorrect (node : ImuController R) : ImuEvent R → Prop
  | .timer now =>
      node.Timeout now ∨ node.Tilted ∨ |node.imuDegrees.roll| ≤ 8.0
  | _ => True

omit [IsStrictOrderedRing R] in
/-- Slowing down stops nothing that moves. -/
theorem slowDown_eq_stop_iff (rollDegrees : R) (msg : Twist R) :
    slowDown rollDegrees msg = Twist.stop ↔ msg = Twist.stop := by
  have third : msg.linearX / 3.0 = 0 ↔ msg.linearX = 0 := by
    apply div_eq_zero_iff.trans
    apply or_iff_left
    norm_num
  unfold slowDown
  split
  · cases msg
    rw [Twist.stop, Twist.mk.injEq, Twist.mk.injEq]
    exact and_congr_left' third
  · exact Iff.rfl

/-- Steering makes a stop of nothing that moves, and it leaves a stop alone up
to a roll of 8 degrees. -/
theorem steered_eq_stop_iff (rollDegrees : R) (msg : Twist R) :
    slowDown rollDegrees (correctRoll rollDegrees msg) = Twist.stop ↔
      msg = Twist.stop ∧ |rollDegrees| ≤ 8.0 := by
  rw [slowDown_eq_stop_iff]
  by_cases steers : 8.0 < |rollDegrees| ∧ |msg.angularZ| < 0.1
  · obtain ⟨steep, slow⟩ := steers
    refine iff_of_false ?_ fun stopped => absurd stopped.2 (not_le.mpr steep)
    rw [correctRoll_of_steep steep slow]
    intro same
    have level : 0.03 * rollDegrees = 0 := congrArg Twist.angularZ same
    have upright : rollDegrees = 0 := by
      rcases mul_eq_zero.mp level with impossible | zero
      · norm_num at impossible
      · exact zero
    rw [upright, abs_zero] at steep
    norm_num at steep
  · have straight : correctRoll rollDegrees msg = msg := if_neg steers
    rw [straight]
    refine ⟨fun same => ⟨same, ?_⟩, And.left⟩
    apply not_lt.mp
    intro steep
    apply steers
    refine ⟨steep, ?_⟩
    rw [same, Twist.stop, abs_zero]
    norm_num

/-- The timer publishes a stop when the command is too old, when the robot has
tilted too far, or when a stop is wanted and there is no roll to correct. -/
theorem newTwistMsg_stop_iff (node : ImuController R) (now : Int) :
    node.newTwistMsg now = Twist.stop ↔
      node.Timeout now ∨ node.Tilted ∨
        node.desired = Twist.stop ∧ |node.imuDegrees.roll| ≤ 8.0 := by
  unfold newTwistMsg
  by_cases expired : node.Timeout now
  · rw [if_pos expired]
    exact iff_of_true rfl (Or.inl expired)
  · rw [if_neg expired, or_iff_right expired]
    by_cases tilted : node.Tilted
    · rw [if_pos tilted]
      exact iff_of_true rfl (Or.inl tilted)
    · rw [if_neg tilted, or_iff_right tilted, steered_eq_stop_iff]

/-- A stop comes through unless there is a roll to correct. -/
theorem newTwistMsg_eq_stop_iff
    {node : ImuController R}
    (stopped : node.twistMsg = Twist.stop)
    (released : node.dPadDirection = 0)
    (now : Int) :
    node.newTwistMsg now = Twist.stop ↔
      node.Timeout now ∨ node.Tilted ∨ |node.imuDegrees.roll| ≤ 8.0 := by
  have wanted : node.desired = Twist.stop := by
    rw [desired, if_neg (not_not.mpr released), stopped]
  rw [newTwistMsg_stop_iff, and_iff_right wanted]

/-- After a `cmd_vel` to stop, and until the next one, every published command
is a stop: exactly when every tick of the timer finds the command expired, the
robot beyond a critical angle, or a roll of at most 8 degrees. -/
theorem stays_stopped_iff
    {node : ImuController R}
    {received : Int}
    {later : List (ImuEvent R)}
    (reached :
      (callbacks platform).run (init settings start)
        (events ++ [.vel received Twist.stop]) = some node)
    (unasked :
      (callbacks platform).Along (fun node event => node.Unasked event) node
        later) :
    (callbacks platform).Along (OnlyStops platform) node later ↔
      (callbacks platform).Along
        (fun node event => node.NothingToCorrect event) node later := by
  refine (callbacks platform).along_iff_along
    (fun node => node.twistMsg = Twist.stop) ?_ ?_ ?_ unasked
  · intro node event next stopped unasked stepped
    obtain rfl := Option.some.inj stepped
    cases event with
    | imu msg => exact stopped
    | joy axes => exact stopped
    | vel now msg => exact unasked.elim
    | timer now => exact stopped
  · intro node event stopped unasked
    cases event with
    | imu msg => exact iff_of_true (Or.inl rfl) trivial
    | joy axes => exact iff_of_true (Or.inl rfl) trivial
    | vel now msg => exact unasked.elim
    | timer now =>
        rw [onlyStops_timer_iff]
        exact newTwistMsg_eq_stop_iff stopped unasked now
  · rw [(run_reflects reached).twistMsg]
    simp [lastCommand]

end

/-! ## A robot that leans -/

/-- A platform on which conversions wrap and zero is read outside a vector. -/
def wrapping : Platform ℚ where
  cast := FloatCast.wrapping ℚ
  stray _ _ := 0

/-- The robot lies 10 degrees to its side. -/
def leaning : List (ImuEvent ℚ) := [.imu { roll := 10, pitch := 0, yaw := 0 }]

/-- The node that has been told to stop while the robot lies to its side. -/
def leaningStopped : ImuController ℚ where
  parameters := .declared
  imuDegrees := { roll := 10, pitch := 0, yaw := 0 }
  dPadDirection := 0
  twistMsg := Twist.stop
  timeSinceLastTwistMsg := 0
  published := []

theorem leaningStopped_reached :
    (callbacks wrapping).run (init .declared 0)
      (leaning ++ [.vel 0 Twist.stop]) = some leaningStopped := rfl

theorem published_enveloped_leaning :
    (∃ now twist, (.timer 200000000 : ImuEvent ℚ) = .timer now ∧
      (leaningStopped.handle wrapping (.timer 200000000)).published =
        twist :: leaningStopped.published ∧
      Enveloped wrapping .declared 0 (leaning ++ [.vel 0 Twist.stop]) now
        twist) ∨
    (∀ now, (.timer 200000000 : ImuEvent ℚ) ≠ .timer now) ∧
      (leaningStopped.handle wrapping (.timer 200000000)).published =
        leaningStopped.published :=
  published_enveloped leaningStopped_reached _

/-- At the next tick of the timer, the robot is told to turn. -/
theorem stop_turns :
    ¬∀ (platform : Platform ℚ) (settings : ImuParameters ℚ) (start : Int)
      (events later : List (ImuEvent ℚ)) (node : ImuController ℚ)
      (received : Int),
      (callbacks platform).run (init settings start)
        (events ++ [.vel received Twist.stop]) = some node →
      (callbacks platform).Along (fun node event => node.Unasked event) node
        later →
      (callbacks platform).Along (OnlyStops platform) node later := by
  intro always
  have stops :=
    always wrapping .declared 0 leaning [.timer 200000000] leaningStopped 0
      leaningStopped_reached ⟨rfl, fun _ _ => trivial⟩
  have turns : ¬OnlyStops wrapping leaningStopped (.timer 200000000) := by
    unfold OnlyStops
    decide +kernel
  exact turns stops.1

/-- The robot straightens up, and the next two ticks publish stops. -/
theorem stays_stopped_straightened :
    (callbacks wrapping).Along (OnlyStops wrapping) leaningStopped
      [.imu { roll := -8, pitch := 0, yaw := 90 }, .timer 200000000,
        .timer 400000000] := by
  refine (stays_stopped_iff leaningStopped_reached ?_).mpr ?_
  · exact ⟨trivial, fun _ stepped => Option.some.inj stepped ▸
      ⟨rfl, fun _ stepped => Option.some.inj stepped ▸
        ⟨rfl, fun _ _ => trivial⟩⟩⟩
  · refine ⟨trivial, fun _ stepped => Option.some.inj stepped ▸
      ⟨Or.inr (Or.inr ?_), fun _ stepped => Option.some.inj stepped ▸
        ⟨Or.inr (Or.inr ?_), fun _ _ => trivial⟩⟩⟩
    · decide +kernel
    · decide +kernel

end ImuController
end Skatebot
