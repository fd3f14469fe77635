import Mathlib.Analysis.SpecialFunctions.Trigonometric.Basic
import Skatebot.Library.Cylinder
import Skatebot.Library.Machine
import Skatebot.Library.Python
import Skatebot.LowControl.ImuController

/-!
# `EllipseModel`

The node that predicts what the lidar measures in an empty pipe.  For every
degree of a turn it sends a ray from the lidar, turned with the turret and the
robot, to the wall of the pipe.
-/

namespace Skatebot

open Library

/-! ## The node -/

/-- The functions of Python's module `math`. -/
structure MathModule (R : Type) where
  cos : R → R
  sin : R → R
  sqrt : R → R
  pi : R

/-- The functions that they stand for. -/
noncomputable def MathModule.real : MathModule ℝ where
  cos := Real.cos
  sin := Real.sin
  sqrt := Real.sqrt
  pi := Real.pi

/-- `EllipseModel`, less the attributes that no callback changes. -/
structure EllipseModel (R : Type) where
  roll : R
  pitch : R
  isForward : Bool
  /-- What has been published on `/ellipse_model/distances`, newest first. -/
  modelPub : List (List (Double R))

/-- What the node's callbacks receive. -/
inductive EllipseEvent (R : Type)
  | turret (data : Bool)
  | imu (msg : EulerAngles R)

section Source

variable {R : Type} [Field R] [LinearOrder R] (math : MathModule R)

/-- `math.radians`. -/
def MathModule.radians (degrees : R) : R := degrees * (math.pi / 180)

namespace EllipseModel

/-- The attribute `pipe_radius`. -/
def pipeRadius : R := 0.15

/-- The attribute `imu_height`. -/
def imuHeight : R := 0.10

/-- The attribute `lidar_height`. -/
def lidarHeight : R := 0.18

/-- The attribute `lidar_forward`. -/
def lidarForward : R := 0.11

/-- The attribute `lidar_down_angle`. -/
def lidarDownAngle : R := math.radians 30.0

/-- `EllipseModel.__init__`. -/
def init : EllipseModel R where
  roll := 0.0
  pitch := 0.0
  isForward := true
  modelPub := []

/-- `EllipseModel.rotate_x`. -/
def rotateX (vector : Vec3 R) (angle : R) : Vec3 R where
  x := vector.x
  y := vector.y * math.cos angle - vector.z * math.sin angle
  z := vector.y * math.sin angle + vector.z * math.cos angle

/-- `EllipseModel.rotate_y`. -/
def rotateY (vector : Vec3 R) (angle : R) : Vec3 R where
  x := vector.x * math.cos angle + vector.z * math.sin angle
  y := vector.y
  z := -vector.x * math.sin angle + vector.z * math.cos angle

/-- `EllipseModel.rotate_z`. -/
def rotateZ (vector : Vec3 R) (angle : R) : Vec3 R where
  x := vector.x * math.cos angle - vector.y * math.sin angle
  y := vector.x * math.sin angle + vector.y * math.cos angle
  z := vector.z

/-- `EllipseModel.rotate_robot`. -/
def rotateRobot (node : EllipseModel R) (vector : Vec3 R) : Vec3 R :=
  rotateY math (rotateX math vector node.roll) node.pitch

/-- `EllipseModel.distance_to_pipe`; `none` is `float("inf")`. -/
def distanceToPipe (origin direction : Vec3 R) : Double R :=
  let a := direction.y * direction.y + direction.z * direction.z
  let b := 2.0 * (origin.y * direction.y + origin.z * direction.z)
  let c :=
    origin.y * origin.y + origin.z * origin.z - pipeRadius * pipeRadius
  if |a| < 1e-9 then none
  else
    let discriminant := b * b - 4.0 * a * c
    if discriminant < 0.0 then none
    else
      let sqrtD := math.sqrt discriminant
      let t1 := (-b - sqrtD) / (2.0 * a)
      let t2 := (-b + sqrtD) / (2.0 * a)
      let valid := [t1, t2].filter fun t => decide (t > 0.0)
      -- An empty list has no least element.
      valid.min?

/-- `turret_angle` of `EllipseModel.calculate_ellipse`. -/
def turretAngle (node : EllipseModel R) : R :=
  if node.isForward then 0.0 else math.pi

/-- `lidar_position` of `EllipseModel.calculate_ellipse`. -/
def lidarPosition (node : EllipseModel R) : Vec3 R :=
  let lidarOffset : Vec3 R := ⟨lidarForward, 0.0, lidarHeight - imuHeight⟩
  let lidarOffset := rotateZ math lidarOffset (node.turretAngle math)
  let lidarOffset := node.rotateRobot math lidarOffset
  let imuZ := imuHeight - pipeRadius
  ⟨lidarOffset.x, lidarOffset.y, imuZ + lidarOffset.z⟩

/-- `ray` of `EllipseModel.calculate_ellipse`, for a turn of its loop. -/
def ray (node : EllipseModel R) (angleDeg : Nat) : Vec3 R :=
  let angle := math.radians angleDeg
  let ray : Vec3 R := ⟨math.cos angle, math.sin angle, 0.0⟩
  let ray := rotateY math ray (lidarDownAngle math)
  let ray := rotateZ math ray (node.turretAngle math)
  node.rotateRobot math ray

/-- `EllipseModel.calculate_ellipse`. -/
def calculateEllipse (node : EllipseModel R) : EllipseModel R :=
  let predictedDistances :=
    (List.range 360).map fun angleDeg =>
      distanceToPipe math (node.lidarPosition math) (node.ray math angleDeg)
  { node with modelPub := predictedDistances :: node.modelPub }

/-- `EllipseModel.turret_callback`. -/
def turretCallback (node : EllipseModel R) (data : Bool) : EllipseModel R :=
  { node with isForward := data }

/-- `EllipseModel.imu_callback`. -/
def imuCallback (node : EllipseModel R) (msg : EulerAngles R) :
    EllipseModel R :=
  calculateEllipse math
    { node with
      roll := math.radians msg.roll
      pitch := math.radians msg.pitch }

/-- The callback for an event. -/
def handle (node : EllipseModel R) : EllipseEvent R → EllipseModel R
  | .turret data => node.turretCallback data
  | .imu msg => node.imuCallback math msg

/-- The node under its callbacks. -/
def callbacks : Machine (EllipseModel R) (EllipseEvent R) where
  step node event := some (node.handle math event)

/-- An entry of the list that `EllipseModel.calculate_ellipse` publishes. -/
def entry (node : EllipseModel R) (i : Nat) : Option (Double R) :=
  (node.calculateEllipse math).modelPub.head?.bind fun distances =>
    distances[i]?

theorem entry_eq
    (node : EllipseModel R) {i : Nat}
    (within : i < 360) :
    node.entry math i =
      some
        (distanceToPipe math (node.lidarPosition math) (node.ray math i)) := by
  simp [entry, calculateEllipse, within]

end EllipseModel
end Source

/-! ## Distances -/

namespace EllipseModel

open Cylinder Vec3

theorem literal_zero : (0.0 : ℝ) = 0 := by norm_num

theorem literal_thirty : (30.0 : ℝ) = 30 := by norm_num

/-- The function in the terms of a cylinder. -/
theorem distanceToPipe_eq (origin direction : Vec3 ℝ) :
    distanceToPipe .real origin direction =
      if crossing direction < 1e-9 then none
      else if discriminant pipeRadius origin direction < 0 then none
      else
        ([root origin direction
              (-√(discriminant pipeRadius origin direction)),
            root origin direction
              √(discriminant pipeRadius origin direction)].filter
          fun t => decide (0 < t)).min? := by
  have doubled : (2.0 : ℝ) = 2 := by norm_num
  have fourfold : (4.0 : ℝ) = 4 := by norm_num
  rw [← abs_of_nonneg (crossing_nonneg direction)]
  simp only [distanceToPipe, discriminant, discrim, root, crossing, approach,
    excess, doubled, fourfold, literal_zero, sq, sub_eq_add_neg, gt_iff_lt,
    nsmul_eq_mul, Nat.cast_ofNat]
  rfl

/-- Both solutions are looked at, and the ones behind the lidar left out. -/
theorem valid_eq_hits
    {origin direction : Vec3 ℝ}
    (crosses : 1e-9 ≤ crossing direction)
    (real : 0 ≤ discriminant pipeRadius origin direction) :
    {time |
        time ∈ [root origin direction
              (-√(discriminant pipeRadius origin direction)),
            root origin direction
              √(discriminant pipeRadius origin direction)] ∧
          0 < time} =
      hits pipeRadius origin direction := by
  have notParallel : crossing direction ≠ 0 := by
    intro parallel
    norm_num [parallel] at crosses
  ext time
  rw [mem_hits_iff notParallel (Real.mul_self_sqrt real).symm]
  simp only [Set.mem_ofPred_eq, List.mem_cons, List.not_mem_nil, or_false]
  rw [and_comm, or_comm]

/-- The result is the first hit. -/
theorem distanceToPipe_eq_some_iff
    {origin direction : Vec3 ℝ}
    (crosses : 1e-9 ≤ crossing direction)
    (time : ℝ) :
    distanceToPipe .real origin direction = some time ↔
      IsLeast (hits pipeRadius origin direction) time := by
  rw [distanceToPipe_eq, if_neg (not_lt.mpr crosses)]
  split
  next negative =>
    rw [hits_eq_empty negative]
    simp [IsLeast]
  next real =>
    rw [min?_filter_eq_some_iff, valid_eq_hits crosses (not_lt.mp real)]

/-- There is no result when nothing is hit. -/
theorem distanceToPipe_eq_none_iff
    {origin direction : Vec3 ℝ}
    (crosses : 1e-9 ≤ crossing direction) :
    distanceToPipe .real origin direction = none ↔
      hits pipeRadius origin direction = ∅ := by
  rw [distanceToPipe_eq, if_neg (not_lt.mpr crosses)]
  split
  next negative => exact iff_of_true rfl (hits_eq_empty negative)
  next real =>
    rw [min?_filter_eq_none_iff, valid_eq_hits crosses (not_lt.mp real)]

/-- From inside the pipe, the wall is hit once. -/
theorem distanceToPipe_of_bore
    {origin direction : Vec3 ℝ}
    (crosses : 1e-9 ≤ crossing direction)
    (inside : origin ∈ bore pipeRadius) :
    ∃ time,
      distanceToPipe .real origin direction = some time ∧
        hits pipeRadius origin direction = {time} := by
  have positive : 0 < crossing direction :=
    lt_of_lt_of_le (by norm_num) crosses
  have real := discriminant_nonneg_of_bore inside direction
  have single := hits_of_bore positive inside (Real.sqrt_nonneg _)
    (Real.mul_self_sqrt real).symm
  refine ⟨_, ?_, single⟩
  rw [distanceToPipe_eq_some_iff crosses, single]
  exact isLeast_singleton

/-- For a ray that is not parallel to the pipe, the result is the least time
after the start at which the ray is at the wall, and infinite exactly when there
is none; from inside the pipe there is exactly one. -/
theorem distanceToPipe_first_hit
    {origin direction : Vec3 ℝ}
    (crosses :
      1e-9 ≤ direction.y * direction.y + direction.z * direction.z) :
    (∀ time,
      distanceToPipe .real origin direction = some time ↔
        IsLeast
          {t | 0 < t ∧ origin.along direction t ∈ wall pipeRadius} time) ∧
      (distanceToPipe .real origin direction = none ↔
        ∀ t, 0 < t → origin.along direction t ∉ wall pipeRadius) ∧
      (origin ∈ bore pipeRadius →
        ∃ time,
          distanceToPipe .real origin direction = some time ∧
            ∀ t, 0 < t ∧ origin.along direction t ∈ wall pipeRadius ↔
              t = time) := by
  refine ⟨distanceToPipe_eq_some_iff crosses, ?_, fun inside => ?_⟩
  · rw [distanceToPipe_eq_none_iff crosses, Set.eq_empty_iff_forall_notMem]
    simp only [hits, Set.mem_ofPred_eq, not_and]
  · obtain ⟨time, found, single⟩ := distanceToPipe_of_bore crosses inside
    refine ⟨time, found, fun t => ?_⟩
    have member := Set.ext_iff.mp single t
    exact member

theorem distanceToPipe_first_hit_down :
    distanceToPipe .real ⟨0, 0, 0⟩ ⟨0, 0, 1⟩ = some pipeRadius := by
  have radius : (pipeRadius : ℝ) = 0.15 := rfl
  apply ((distanceToPipe_first_hit (by norm_num)).1 pipeRadius).mpr
  constructor
  · norm_num [wall, along, radius]
  · rintro time ⟨positive, met⟩
    simp only [wall, along, Set.mem_ofPred_eq] at met
    norm_num [radius] at met ⊢
    nlinarith

end EllipseModel
end Skatebot
