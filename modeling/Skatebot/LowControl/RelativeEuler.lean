import Skatebot.Library.Python
import Skatebot.LowControl.ImuController

/-!
# `RelativeEuler`

The node between the IMU and `IMU_Controller`.  It takes the first reading as
zero and publishes how far each reading has turned from it, the shorter way
around.  The source of the readings may count its angles from 0 to 360 degrees
or from -180 to 180, or add whole turns as it likes: what is published then
differs by no more than the sign of a half turn, which the test for a critical
tilt does not see.
-/

namespace Skatebot

open Library

variable {R : Type} [Field R] [LinearOrder R] [FloorRing R]

/-! ## The node -/

/-- `RelativeEuler`. -/
structure RelativeEuler (R : Type) where
  initialSet : Bool
  initialRoll : R
  initialPitch : R
  initialYaw : R
  /-- What has been published on `/imu/euler_relative`, newest first. -/
  published : List (EulerAngles R)

namespace RelativeEuler

/-- `RelativeEuler.__init__`. -/
def init : RelativeEuler R where
  initialSet := false
  initialRoll := 0.0
  initialPitch := 0.0
  initialYaw := 0.0
  published := []

/-- `RelativeEuler.euler_callback`. -/
def eulerCallback (node : RelativeEuler R) (msg : EulerAngles R) :
    RelativeEuler R :=
  let node :=
    if !node.initialSet then
      { node with
        initialRoll := msg.roll
        initialPitch := msg.pitch
        initialYaw := msg.yaw
        initialSet := true }
    else node
  let relative : EulerAngles R :=
    { roll := remainder (msg.roll - node.initialRoll) 360.0
      pitch := remainder (msg.pitch - node.initialPitch) 360.0
      yaw := remainder (msg.yaw - node.initialYaw) 360.0 }
  { node with published := relative :: node.published }

/-- The node after some readings. -/
def after (readings : List (EulerAngles R)) : RelativeEuler R :=
  readings.foldl eulerCallback init

/-! ## What it publishes -/

/-- The turn from one attitude to another. -/
def relativeTo (first reading : EulerAngles R) : EulerAngles R where
  roll := remainder (reading.roll - first.roll) 360.0
  pitch := remainder (reading.pitch - first.pitch) 360.0
  yaw := remainder (reading.yaw - first.yaw) 360.0

/-- The first reading is kept, and everything is relative to it. -/
theorem foldl_published
    {node : RelativeEuler R}
    (set : node.initialSet = true)
    (readings : List (EulerAngles R)) :
    (readings.foldl eulerCallback node).published =
      (readings.map
        (relativeTo
          { roll := node.initialRoll
            pitch := node.initialPitch
            yaw := node.initialYaw })).reverse ++ node.published := by
  induction readings generalizing node with
  | nil => rfl
  | cons reading readings inductionHypothesis =>
      have kept : (node.eulerCallback reading).initialSet = true ∧
          (node.eulerCallback reading).initialRoll = node.initialRoll ∧
          (node.eulerCallback reading).initialPitch = node.initialPitch ∧
          (node.eulerCallback reading).initialYaw = node.initialYaw := by
        simp [eulerCallback, set]
      obtain ⟨stillSet, roll, pitch, yaw⟩ := kept
      rw [List.foldl_cons, inductionHypothesis stillSet, roll, pitch, yaw]
      simp [eulerCallback, relativeTo, set]

/-- Every reading is published relative to the first one. -/
theorem after_published (first : EulerAngles R) (later : List (EulerAngles R)) :
    (after (first :: later)).published =
      ((first :: later).map (relativeTo first)).reverse := by
  have set : (eulerCallback init first).initialSet = true := rfl
  rw [after, List.foldl_cons, foldl_published set, List.map_cons,
    List.reverse_cons]
  rfl

/-- An angle from -180 to 180 degrees that differs from another by whole
turns. -/
def Shortest (published turn : R) : Prop :=
  published ∈ Set.Icc (-180.0) 180.0 ∧ published ≡ turn [PMOD 360.0]

/-- What is published of a reading: how far each angle has turned from the
first reading, the shorter way around. -/
structure Relative (first reading published : EulerAngles R) : Prop where
  roll : Shortest published.roll (reading.roll - first.roll)
  pitch : Shortest published.pitch (reading.pitch - first.pitch)
  yaw : Shortest published.yaw (reading.yaw - first.yaw)

/-- Two readings of one attitude, by sources that count turns differently. -/
structure SameAttitude (reading other : EulerAngles R) : Prop where
  roll : reading.roll ≡ other.roll [PMOD 360.0]
  pitch : reading.pitch ≡ other.pitch [PMOD 360.0]
  yaw : reading.yaw ≡ other.yaw [PMOD 360.0]

/-- Two attitudes that are as far from level. -/
structure SameTilt (published other : EulerAngles R) : Prop where
  roll : |published.roll| = |other.roll|
  pitch : |published.pitch| = |other.pitch|
  yaw : |published.yaw| = |other.yaw|

section

variable [IsStrictOrderedRing R]

theorem shortest_remainder (turn : R) :
    Shortest (remainder turn 360.0) turn := by
  refine ⟨?_, remainder_modEq turn 360.0⟩
  have near := abs_remainder_le (by norm_num : (0 : R) < 360.0) turn
  have half : (360.0 / 2 : R) = 180.0 := by norm_num
  rw [half] at near
  exact abs_le.mp near

/-- Whole turns, in a reading and in the first one, change no more than the
sign. -/
theorem abs_remainder_sub
    {reading other first otherFirst : R}
    (same : reading ≡ other [PMOD 360.0])
    (sameFirst : first ≡ otherFirst [PMOD 360.0]) :
    |remainder (reading - first) 360.0| =
      |remainder (other - otherFirst) 360.0| :=
  abs_remainder_congr (by norm_num) (same.sub sameFirst)

theorem relative_relativeTo (first reading : EulerAngles R) :
    Relative first reading (relativeTo first reading) where
  roll := shortest_remainder _
  pitch := shortest_remainder _
  yaw := shortest_remainder _

theorem SameAttitude.relativeTo
    {first otherFirst reading other : EulerAngles R}
    (sameFirst : SameAttitude first otherFirst)
    (same : SameAttitude reading other) :
    SameTilt (relativeTo first reading) (relativeTo otherFirst other) where
  roll := abs_remainder_sub same.roll sameFirst.roll
  pitch := abs_remainder_sub same.pitch sameFirst.pitch
  yaw := abs_remainder_sub same.yaw sameFirst.yaw

/-- Each reading is published once, relative to the first one. -/
theorem published_relative
    {readings : List (EulerAngles R)}
    {first : EulerAngles R}
    (begins : first ∈ readings.head?) :
    List.Forall₂ (Relative first) readings
      (after readings).published.reverse := by
  cases readings with
  | nil => simp at begins
  | cons reading later =>
      rw [Option.some.inj begins, after_published, List.reverse_reverse,
        List.forall₂_map_right_iff, List.forall₂_same]
      intro reading _
      exact relative_relativeTo first reading

/-- Other readings of the same attitudes are published with the same tilts. -/
theorem published_sameTilt
    {readings others : List (EulerAngles R)}
    (same : List.Forall₂ SameAttitude readings others) :
    List.Forall₂ SameTilt (after readings).published
      (after others).published := by
  cases same with
  | nil => exact .nil
  | @cons first otherFirst later otherLater sameFirst sameLater =>
      rw [after_published, after_published]
      apply List.rel_reverse
      rw [List.forall₂_map_left_iff, List.forall₂_map_right_iff]
      apply List.Forall₂.imp _ (.cons sameFirst sameLater)
      intro reading other same
      exact sameFirst.relativeTo same

end

/-! ## What `IMU_Controller` makes of it -/

/-- What `IMU_Controller` receives in two runs, where the messages of
`RelativeEuler` differ: the same of them, and the same others. -/
inductive Delivered (published others : List (EulerAngles R)) :
    ImuEvent R → ImuEvent R → Prop
  | imu {msg other : EulerAngles R} :
      (msg, other) ∈ published.zip others →
      Delivered published others (.imu msg) (.imu other)
  | joy (axes : List R) : Delivered published others (.joy axes) (.joy axes)
  | vel (now : Int) (msg : Twist R) :
      Delivered published others (.vel now msg) (.vel now msg)
  | timer (now : Int) : Delivered published others (.timer now) (.timer now)

/-- Two states of `IMU_Controller` that the robot is as far from level in. -/
def AsTilted (node other : ImuController R) : Prop :=
  node.parameters = other.parameters ∧
    SameTilt node.imuDegrees other.imuDegrees

omit [FloorRing R] in
theorem AsTilted.tilted_iff
    {node other : ImuController R}
    (asTilted : AsTilted node other) :
    node.Tilted ↔ other.Tilted := by
  obtain ⟨parameters, same⟩ := asTilted
  rw [ImuController.Tilted, ImuController.Tilted, same.roll, same.pitch,
    parameters]

theorem AsTilted.handle
    {published others : List (EulerAngles R)}
    (same : List.Forall₂ SameTilt published others)
    {node other : ImuController R}
    (asTilted : AsTilted node other)
    {event otherEvent : ImuEvent R}
    (delivered : Delivered published others event otherEvent)
    (platform : Platform R) :
    AsTilted (node.handle platform event) (other.handle platform otherEvent) := by
  cases delivered with
  | imu member => exact ⟨asTilted.1, List.forall₂_zip same member⟩
  | joy axes => exact asTilted
  | vel now msg => exact asTilted
  | timer now => exact asTilted

/-- In two runs that receive the same messages, up to whole turns in the
readings of the IMU, the robot is as far from level. -/
theorem run_asTilted
    {published others : List (EulerAngles R)}
    (same : List.Forall₂ SameTilt published others)
    {platform : Platform R}
    {settings : ImuParameters R}
    {start : Int}
    {events otherEvents : List (ImuEvent R)}
    (delivered :
      List.Forall₂ (Delivered published others) events otherEvents)
    {node other : ImuController R}
    (reached :
      (ImuController.callbacks platform).run
        (ImuController.init settings start) events = some node)
    (otherReached :
      (ImuController.callbacks platform).run
        (ImuController.init settings start) otherEvents = some other) :
    AsTilted node other := by
  refine (ImuController.callbacks platform).related_of_run AsTilted ?_
    ⟨rfl, rfl, rfl, rfl⟩ delivered reached otherReached
  intro node event next other otherEvent otherNext asTilted here stepped
    otherStepped
  rw [← Option.some.inj stepped, ← Option.some.inj otherStepped]
  exact asTilted.handle same here platform

/-- For every sequence of readings, and for every other one that differs by
whole turns in each of their angles: each reading is published relative to the
first one, by an angle from -180 to 180 degrees; both sequences give the same
absolute values; and `IMU_Controller`, wherever it has received the same of
what is published, finds the robot beyond a critical tilt with both or with
neither. -/
theorem relative_attitude
    [IsStrictOrderedRing R]
    {readings others : List (EulerAngles R)}
    (same : List.Forall₂ SameAttitude readings others) :
    (∀ first ∈ readings.head?,
      List.Forall₂ (Relative first) readings
        (after readings).published.reverse) ∧
    List.Forall₂ SameTilt (after readings).published
      (after others).published ∧
    ∀ (platform : Platform R) (settings : ImuParameters R) (start : Int)
      (events otherEvents : List (ImuEvent R)) (node other : ImuController R),
      List.Forall₂
        (Delivered (after readings).published (after others).published)
        events otherEvents →
      (ImuController.callbacks platform).run
        (ImuController.init settings start) events = some node →
      (ImuController.callbacks platform).run
        (ImuController.init settings start) otherEvents = some other →
      (node.Tilted ↔ other.Tilted) := by
  have sameTilt := published_sameTilt same
  refine ⟨fun first begins => published_relative begins, sameTilt, ?_⟩
  intro platform settings start events otherEvents node other delivered reached
    otherReached
  exact (run_asTilted sameTilt delivered reached otherReached).tilted_iff

/-- The robot leans a little to its left, and then it lies half a turn from
there. -/
def unsigned : List (EulerAngles ℚ) :=
  [{ roll := 350, pitch := 0, yaw := 5 },
    { roll := 170, pitch := 340, yaw := 5 }]

/-- The same by a source that counts from -180 to 180 degrees. -/
def signed : List (EulerAngles ℚ) :=
  [{ roll := -10, pitch := 0, yaw := 5 },
    { roll := 170, pitch := -20, yaw := 5 }]

theorem sameAttitude_signed : List.Forall₂ SameAttitude unsigned signed := by
  have down : (350 : ℚ) ≡ -10 [PMOD 360.0] :=
    AddCommGroup.modEq_iff_eq_add_zsmul.mpr ⟨-1, by norm_num⟩
  have level : (340 : ℚ) ≡ -20 [PMOD 360.0] :=
    AddCommGroup.modEq_iff_eq_add_zsmul.mpr ⟨-1, by norm_num⟩
  refine .cons ⟨down, ?_, ?_⟩ (.cons ⟨?_, level, ?_⟩ .nil)
  all_goals exact AddCommGroup.modEq_rfl

/-- The half turn is published with either sign, and `IMU_Controller` judges
the two alike. -/
theorem relative_attitude_signed :
    List.Forall₂ SameTilt (after unsigned).published (after signed).published ∧
    ∀ node other : ImuController ℚ,
      (ImuController.callbacks ImuController.wrapping).run
        (ImuController.init .declared 0)
        [.imu { roll := -180, pitch := -20, yaw := 0 }] = some node →
      (ImuController.callbacks ImuController.wrapping).run
        (ImuController.init .declared 0)
        [.imu { roll := 180, pitch := -20, yaw := 0 }] = some other →
      (node.Tilted ↔ other.Tilted) := by
  obtain ⟨-, sameTilt, verdict⟩ := relative_attitude sameAttitude_signed
  refine ⟨sameTilt, fun node other => ?_⟩
  apply verdict ImuController.wrapping
  refine .cons (.imu ?_) .nil
  decide +kernel

end RelativeEuler
end Skatebot
