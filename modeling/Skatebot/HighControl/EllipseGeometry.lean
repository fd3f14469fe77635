import Skatebot.HighControl.EllipseModel

/-!
# The lidar in the pipe

Where `EllipseModel` places the lidar and its rays.  The rotations keep lengths
and respect the symmetries of the pipe; within the attitudes that the controller
lets the robot drive in, the lidar stays inside.  So the published distances are
those to the wall.
-/

namespace Skatebot

open Library

namespace EllipseModel

open Cylinder Vec3

/-! ## Rotations -/

@[simp] theorem real_cos : MathModule.real.cos = Real.cos := rfl

@[simp] theorem real_sin : MathModule.real.sin = Real.sin := rfl

@[simp] theorem real_pi : MathModule.real.pi = Real.pi := rfl

theorem rotateX_normSq (vector : Vec3 ℝ) (angle : ℝ) :
    (rotateX .real vector angle).normSq = vector.normSq := by
  simp only [rotateX, normSq, real_cos, real_sin]
  linear_combination (vector.y * vector.y + vector.z * vector.z) *
    Real.cos_sq_add_sin_sq angle

theorem rotateY_normSq (vector : Vec3 ℝ) (angle : ℝ) :
    (rotateY .real vector angle).normSq = vector.normSq := by
  simp only [rotateY, normSq, real_cos, real_sin]
  linear_combination (vector.x * vector.x + vector.z * vector.z) *
    Real.cos_sq_add_sin_sq angle

theorem rotateZ_normSq (vector : Vec3 ℝ) (angle : ℝ) :
    (rotateZ .real vector angle).normSq = vector.normSq := by
  simp only [rotateZ, normSq, real_cos, real_sin]
  linear_combination (vector.x * vector.x + vector.y * vector.y) *
    Real.cos_sq_add_sin_sq angle

theorem rotateRobot_normSq (node : EllipseModel ℝ) (vector : Vec3 ℝ) :
    (node.rotateRobot .real vector).normSq = vector.normSq := by
  rw [rotateRobot, rotateY_normSq, rotateX_normSq]

/-- A turret that faces backward makes a half turn. -/
theorem rotateZ_turretAngle (node : EllipseModel ℝ) (vector : Vec3 ℝ) :
    rotateZ .real vector (node.turretAngle .real) =
      if node.isForward then vector else vector.halfTurn := by
  unfold rotateZ turretAngle
  split <;> ext <;> simp [halfTurn, literal_zero]

theorem rotateX_mirror (vector : Vec3 ℝ) (angle : ℝ) :
    rotateX .real vector.mirror (-angle) =
      (rotateX .real vector angle).mirror := by
  ext <;> simp [rotateX, mirror]
  ring

theorem rotateY_mirror (vector : Vec3 ℝ) (angle : ℝ) :
    rotateY .real vector.mirror angle =
      (rotateY .real vector angle).mirror := by
  ext <;> simp [rotateY, mirror]

theorem rotateX_halfTurn (vector : Vec3 ℝ) (angle : ℝ) :
    rotateX .real vector.halfTurn angle =
      (rotateX .real vector (-angle)).halfTurn := by
  ext <;> simp [rotateX, halfTurn]
  ring

theorem rotateY_halfTurn (vector : Vec3 ℝ) (angle : ℝ) :
    rotateY .real vector.halfTurn angle =
      (rotateY .real vector (-angle)).halfTurn := by
  ext <;> simp [rotateY, halfTurn]
  ring

/-- The robot that leans the other way. -/
def mirrored (node : EllipseModel ℝ) : EllipseModel ℝ :=
  { node with roll := -node.roll }

/-- The robot that stands the other way round in the pipe. -/
def reversed (node : EllipseModel ℝ) : EllipseModel ℝ :=
  { node with roll := -node.roll, pitch := -node.pitch, isForward := true }

theorem rotateRobot_mirrored (node : EllipseModel ℝ) (vector : Vec3 ℝ) :
    node.mirrored.rotateRobot .real vector.mirror =
      (node.rotateRobot .real vector).mirror := by
  simp only [rotateRobot, mirrored, rotateX_mirror, rotateY_mirror]

theorem rotateRobot_halfTurn (node : EllipseModel ℝ) (vector : Vec3 ℝ) :
    node.rotateRobot .real vector.halfTurn =
      (node.reversed.rotateRobot .real vector).halfTurn := by
  simp only [rotateRobot, reversed, rotateX_halfTurn, rotateY_halfTurn]

/-! ## The lidar and its rays -/

/-- A ray in the frame of the turret. -/
noncomputable def scanRay (angleDeg : Nat) : Vec3 ℝ :=
  rotateY .real
    ⟨Real.cos (MathModule.real.radians angleDeg),
      Real.sin (MathModule.real.radians angleDeg), 0⟩
    (lidarDownAngle .real)

/-- The place of the lidar on the turret. -/
noncomputable def mount : Vec3 ℝ := ⟨0.11, 0, 0.08⟩

theorem ray_eq (node : EllipseModel ℝ) (angleDeg : Nat) :
    node.ray .real angleDeg =
      node.rotateRobot .real
        (if node.isForward then scanRay angleDeg
        else (scanRay angleDeg).halfTurn) := by
  simp only [ray, rotateZ_turretAngle, literal_zero]
  rfl

theorem lidarPosition_eq (node : EllipseModel ℝ) :
    node.lidarPosition .real =
      let offset :=
        node.rotateRobot .real
          (if node.isForward then mount else mount.halfTurn)
      { offset with z := -0.05 + offset.z } := by
  have height : (lidarHeight - imuHeight : ℝ) = 0.08 := by
    norm_num [lidarHeight, imuHeight]
  have floor : (imuHeight - pipeRadius : ℝ) = -0.05 := by
    norm_num [imuHeight, pipeRadius]
  simp only [lidarPosition, rotateZ_turretAngle, literal_zero, height,
    floor]
  rfl

/-- A turn of the lidar in the other direction. -/
theorem scanRay_mirror {i : Nat} (within : i < 360) :
    scanRay ((360 - i) % 360) = (scanRay i).mirror := by
  rcases Nat.eq_zero_or_pos i with rfl | positive
  · simp [scanRay, rotateY, mirror, MathModule.radians]
  · have opposite : MathModule.real.radians ((360 - i) % 360 : Nat) =
        2 * Real.pi - MathModule.real.radians i := by
      rw [Nat.mod_eq_of_lt (by omega), MathModule.radians, MathModule.radians,
        Nat.cast_sub within.le, real_pi]
      push_cast
      ring
    rw [scanRay, opposite, Real.cos_two_pi_sub, Real.sin_two_pi_sub, scanRay,
      ← rotateY_mirror]
    rfl

/-! ## Symmetries -/

/-- What the function makes of the coefficients of the equation. -/
noncomputable def firstHit (a b c : ℝ) : Double ℝ :=
  if a < 1e-9 then none
  else if discrim a b c < 0 then none
  else
    ([(-b + -√(discrim a b c)) / (2 • a),
        (-b + √(discrim a b c)) / (2 • a)].filter
      fun t => decide (0 < t)).min?

/-- The origin and the direction count only through the coefficients. -/
theorem distanceToPipe_eq_firstHit (origin direction : Vec3 ℝ) :
    distanceToPipe .real origin direction =
      firstHit (crossing direction) (approach origin direction)
        (excess pipeRadius origin) :=
  distanceToPipe_eq origin direction

theorem distanceToPipe_mirror (origin direction : Vec3 ℝ) :
    distanceToPipe .real origin.mirror direction.mirror =
      distanceToPipe .real origin direction := by
  simp only [distanceToPipe_eq_firstHit, crossing_mirror, approach_mirror,
    excess_mirror]

theorem distanceToPipe_halfTurn (origin direction : Vec3 ℝ) :
    distanceToPipe .real origin.halfTurn direction.halfTurn =
      distanceToPipe .real origin direction := by
  simp only [distanceToPipe_eq_firstHit, crossing_halfTurn, approach_halfTurn,
    excess_halfTurn]

theorem lidarPosition_reversed
    {node : EllipseModel ℝ}
    (backward : node.isForward = false) :
    node.lidarPosition .real = (node.reversed.lidarPosition .real).halfTurn := by
  rw [lidarPosition_eq, lidarPosition_eq, backward]
  simp only [Bool.false_eq_true, if_false, rotateRobot_halfTurn]
  rfl

theorem ray_reversed
    {node : EllipseModel ℝ}
    (backward : node.isForward = false)
    (angleDeg : Nat) :
    node.ray .real angleDeg = (node.reversed.ray .real angleDeg).halfTurn := by
  rw [ray_eq, ray_eq, backward]
  simp only [Bool.false_eq_true, if_false, rotateRobot_halfTurn]
  rfl

theorem lidarPosition_mirrored (node : EllipseModel ℝ) :
    node.mirrored.lidarPosition .real =
      (node.lidarPosition .real).mirror := by
  have symmetric :
      (if node.isForward then mount else mount.halfTurn).mirror =
        if node.isForward then mount else mount.halfTurn := by
    split <;> simp [mount, mirror, halfTurn]
  have turned := rotateRobot_mirrored node
    (if node.isForward then mount else mount.halfTurn)
  rw [symmetric] at turned
  have same : node.mirrored.isForward = node.isForward := rfl
  rw [lidarPosition_eq, lidarPosition_eq, same, turned]
  rfl

theorem ray_mirrored
    (node : EllipseModel ℝ) {i : Nat}
    (within : i < 360) :
    node.mirrored.ray .real ((360 - i) % 360) = (node.ray .real i).mirror := by
  have same : node.mirrored.isForward = node.isForward := rfl
  rw [ray_eq, ray_eq, scanRay_mirror within, ← rotateRobot_mirrored, same]
  congr 1
  split <;> rfl

/-- The distances have the symmetries of a round pipe: turning the turret round
is the same as standing the other way round, and leaning to the other side is
the same as turning the lidar in the other direction. -/
theorem entry_symmetric (node : EllipseModel ℝ) {i : Nat} (within : i < 360) :
    (node.isForward = false →
      node.entry .real i =
        EllipseModel.entry .real
          { node with
            roll := -node.roll
            pitch := -node.pitch
            isForward := true } i) ∧
      node.entry .real i =
        EllipseModel.entry .real { node with roll := -node.roll }
          ((360 - i) % 360) := by
  have other : (360 - i) % 360 < 360 := Nat.mod_lt _ (by decide)
  constructor
  · intro backward
    rw [entry_eq .real node within, lidarPosition_reversed backward,
      ray_reversed backward, distanceToPipe_halfTurn]
    exact (entry_eq .real node.reversed within).symm
  · rw [entry_eq .real node within, ← distanceToPipe_mirror,
      ← lidarPosition_mirrored, ← ray_mirrored node within]
    exact (entry_eq .real node.mirrored other).symm

theorem entry_symmetric_leaning :
    (⟨1, 0.5, false, []⟩ : EllipseModel ℝ).entry .real 90 =
        EllipseModel.entry .real ⟨-1, -0.5, true, []⟩ 90 ∧
      (⟨1, 0.5, false, []⟩ : EllipseModel ℝ).entry .real 90 =
        EllipseModel.entry .real ⟨-1, 0.5, false, []⟩ 270 := by
  have symmetric :=
    entry_symmetric ⟨1, 0.5, false, []⟩ (show 90 < 360 by decide)
  exact ⟨symmetric.1 rfl, symmetric.2⟩

/-! ## Inside the pipe -/

/-- The attitude is within the limits of the controller. -/
def Within (node : EllipseModel ℝ) : Prop :=
  |node.roll| ≤ MathModule.real.radians
      ImuParameters.declared.criticalRollDegrees ∧
    |node.pitch| ≤ MathModule.real.radians
      ImuParameters.declared.criticalPitchDegrees

theorem thirty_degrees : MathModule.real.radians 30 = Real.pi / 6 := by
  rw [MathModule.radians, real_pi]
  ring

theorem abs_sin_le_half
    {angle : ℝ}
    (bounded : |angle| ≤ MathModule.real.radians 30) :
    |Real.sin angle| ≤ 1 / 2 := by
  rw [thirty_degrees] at bounded
  have piPositive := Real.pi_pos
  rw [Real.abs_sin_eq_sin_abs_of_abs_le_pi (by linarith),
    ← Real.sin_pi_div_six]
  apply Real.sin_le_sin_of_le_of_le_pi_div_two _ _ bounded
  · linarith [abs_nonneg angle]
  · linarith

theorem cos_nonneg
    {angle : ℝ}
    (bounded : |angle| ≤ MathModule.real.radians 30) :
    0 ≤ Real.cos angle := by
  rw [thirty_degrees] at bounded
  have piPositive := Real.pi_pos
  apply Real.cos_nonneg_of_neg_pi_div_two_le_of_le
  · linarith [(abs_le.mp bounded).1]
  · linarith [(abs_le.mp bounded).2]

/-- The lidar's place across the pipe. -/
theorem lidarPosition_coordinates (node : EllipseModel ℝ) :
    (node.lidarPosition .real).y = -(0.08 * Real.sin node.roll) ∧
      (node.lidarPosition .real).z =
        -0.05 - (if node.isForward then 0.11 else -0.11) * Real.sin node.pitch +
          0.08 * (Real.cos node.roll * Real.cos node.pitch) := by
  rw [lidarPosition_eq]
  cases node.isForward <;>
    simp [rotateRobot, rotateX, rotateY, mount, halfTurn] <;> ring

/-- Within the limits, the lidar is inside the pipe. -/
theorem Within.in_bore
    {node : EllipseModel ℝ}
    (within : node.Within) :
    node.lidarPosition .real ∈ bore pipeRadius := by
  rw [Within, ImuParameters.declared, literal_thirty] at within
  obtain ⟨roll, pitch⟩ := within
  obtain ⟨across, height⟩ := lidarPosition_coordinates node
  have rollSin := abs_le.mp (abs_sin_le_half roll)
  have pitchSin := abs_le.mp (abs_sin_le_half pitch)
  have upright : 0 ≤ Real.cos node.roll * Real.cos node.pitch :=
    mul_nonneg (cos_nonneg roll) (cos_nonneg pitch)
  have atMost : Real.cos node.roll * Real.cos node.pitch ≤ 1 :=
    mul_le_one₀ (Real.cos_le_one _) (cos_nonneg pitch) (Real.cos_le_one _)
  have acrossSq : (node.lidarPosition .real).y ^ 2 ≤ 0.04 ^ 2 := by
    apply sq_le_sq' <;> rw [across] <;> linarith
  have heightSq : (node.lidarPosition .real).z ^ 2 ≤ 0.105 ^ 2 := by
    apply sq_le_sq' <;> rw [height] <;> split <;> linarith
  rw [mem_bore_iff]
  norm_num [pipeRadius] at acrossSq heightSq ⊢
  linarith

/-- The rays have unit length. -/
theorem ray_normSq (node : EllipseModel ℝ) (angleDeg : Nat) :
    (node.ray .real angleDeg).normSq = 1 := by
  rw [ray, rotateRobot_normSq, rotateZ_normSq, rotateY_normSq]
  simp only [normSq, real_cos, real_sin, literal_zero, mul_zero, add_zero]
  rw [← sq, ← sq, Real.cos_sq_add_sin_sq]

/-- From inside the pipe, a ray that does not run along it measures the
distance to the one point of the wall ahead. -/
theorem entry_of_bore
    {node : EllipseModel ℝ}
    (inside : node.lidarPosition .real ∈ bore pipeRadius)
    {i : Nat}
    (within : i < 360)
    (crosses : 1e-9 ≤ crossing (node.ray .real i)) :
    ∃ distance point,
      node.entry .real i = some (some distance) ∧
        0 < distance ∧
        ahead pipeRadius (node.lidarPosition .real) (node.ray .real i) =
          {point} ∧
        distance = √((node.lidarPosition .real).distanceSq point) := by
  obtain ⟨time, found, single⟩ := distanceToPipe_of_bore crosses inside
  have hit : time ∈ hits pipeRadius (node.lidarPosition .real)
      (node.ray .real i) := by
    rw [single]
    exact Set.mem_singleton time
  refine ⟨time, (node.lidarPosition .real).along (node.ray .real i) time, ?_,
    hit.1, ?_, ?_⟩
  · rw [entry_eq .real node within, found]
  · rw [ahead, single, Set.image_singleton]
  · rw [distanceSq_along, ray_normSq, mul_one, Real.sqrt_mul_self hit.1.le]

/-- Within the limits of the controller, in both directions of the turret and
for every ray: the lidar is strictly inside the pipe, the ray has unit length,
and, unless it runs along the pipe, the published distance is finite, positive,
and the distance to the one point of the wall ahead. -/
theorem entry_measures
    {node : EllipseModel ℝ}
    (roll : |node.roll| ≤ MathModule.real.radians
      ImuParameters.declared.criticalRollDegrees)
    (pitch : |node.pitch| ≤ MathModule.real.radians
      ImuParameters.declared.criticalPitchDegrees)
    {i : Nat}
    (within : i < 360) :
    node.lidarPosition .real ∈ bore pipeRadius ∧
      (node.ray .real i).normSq = 1 ∧
      (1e-9 ≤ crossing (node.ray .real i) →
        ∃ distance point,
          node.entry .real i = some (some distance) ∧
            0 < distance ∧
            ahead pipeRadius (node.lidarPosition .real) (node.ray .real i) =
              {point} ∧
            distance = √((node.lidarPosition .real).distanceSq point)) := by
  have inside : node.lidarPosition .real ∈ bore pipeRadius :=
    Within.in_bore ⟨roll, pitch⟩
  exact ⟨inside, ray_normSq node i, entry_of_bore inside within⟩

/-- The robot leans as far as it may, its turret backward, and the lidar looks
to the side. -/
theorem entry_measures_leaning :
    ∃ distance point,
      (⟨MathModule.real.radians 30, 0, false, []⟩ : EllipseModel ℝ).entry
          .real 90 = some (some distance) ∧
        0 < distance ∧
        ahead pipeRadius
            (EllipseModel.lidarPosition .real
              ⟨MathModule.real.radians 30, 0, false, []⟩)
            (EllipseModel.ray .real
              ⟨MathModule.real.radians 30, 0, false, []⟩ 90) =
          {point} ∧
        distance =
          √((EllipseModel.lidarPosition .real
            ⟨MathModule.real.radians 30, 0, false, []⟩).distanceSq point) := by
  have limit : (0 : ℝ) ≤ MathModule.real.radians 30 := by
    rw [thirty_degrees]
    positivity
  have quarter : MathModule.real.radians 90 = Real.pi / 2 := by
    rw [MathModule.radians, real_pi]
    ring
  apply (entry_measures _ _ (show 90 < 360 by decide)).2.2
  · rw [ray_eq]
    simp [scanRay, quarter, rotateRobot, rotateX, rotateY, halfTurn, crossing]
    rw [← sq, ← sq, Real.cos_sq_add_sin_sq]
    norm_num
  · rw [ImuParameters.declared, literal_thirty, abs_of_nonneg limit]
  · rw [ImuParameters.declared, literal_thirty, abs_zero]
    exact limit

/-! ## Runs -/

/-- The message does not exceed the limits of the controller. -/
def Uncritical : EllipseEvent ℝ → Prop
  | .turret _ => True
  | .imu msg =>
      |msg.roll| ≤ ImuParameters.declared.criticalRollDegrees ∧
        |msg.pitch| ≤ ImuParameters.declared.criticalPitchDegrees

/-- Every list published is that of an attitude within the limits. -/
structure Published (node : EllipseModel ℝ) : Prop where
  within : node.Within
  lists : ∀ distances ∈ node.modelPub,
    ∃ past : EllipseModel ℝ,
      past.Within ∧ ∀ i, distances[i]? = past.entry .real i

theorem abs_radians_le {degrees limit : ℝ} (bounded : |degrees| ≤ limit) :
    |MathModule.real.radians degrees| ≤ MathModule.real.radians limit := by
  have factor : 0 ≤ Real.pi / 180 := by positivity
  rw [MathModule.radians, MathModule.radians, real_pi, abs_mul,
    abs_of_nonneg factor]
  exact mul_le_mul_of_nonneg_right bounded factor

theorem Published.handle
    {before after : EllipseModel ℝ}
    (published : before.Published)
    {event : EllipseEvent ℝ}
    (uncritical : Uncritical event)
    (handled : (callbacks .real).step before event = some after) :
    after.Published := by
  obtain rfl := Option.some.inj handled
  cases event with
  | turret data => exact ⟨published.within, published.lists⟩
  | imu msg =>
      have within : Within
          (EllipseModel.imuCallback .real before msg) :=
        ⟨abs_radians_le uncritical.1, abs_radians_le uncritical.2⟩
      refine ⟨within, fun distances member => ?_⟩
      rcases List.mem_cons.mp member with rfl | earlier
      · exact ⟨_, within, fun i => rfl⟩
      · exact published.lists distances earlier

/-- In every run whose messages do not exceed the limits of the controller,
every list published is that of an attitude within them. -/
theorem run_published
    {events : List (EllipseEvent ℝ)}
    (uncritical : ∀ event ∈ events, Uncritical event)
    {final : EllipseModel ℝ}
    (reached : (callbacks .real).run init events = some final) :
    final.Published := by
  have along := (callbacks .real).along_of_forall
    (fun event member _ => uncritical event member) init
  apply (callbacks .real).invariant_of_along Published
    (fun published uncritical handled => published.handle uncritical handled)
    _ along reached
  refine ⟨?_, fun distances member => ?_⟩
  · norm_num [Within, init, ImuParameters.declared, MathModule.radians]
    positivity
  · exact absurd member (List.not_mem_nil)

/-- In every such run, every distance published for a ray that does not run
along the pipe is finite and positive. -/
theorem run_published_positive
    {events : List (EllipseEvent ℝ)}
    (uncritical : ∀ event ∈ events, Uncritical event)
    {final : EllipseModel ℝ}
    (reached : (callbacks .real).run init events = some final)
    {distances : List (Double ℝ)}
    (published : distances ∈ final.modelPub) :
    ∃ past : EllipseModel ℝ,
      past.Within ∧
        ∀ i < 360, 1e-9 ≤ crossing (past.ray .real i) →
          ∃ distance, distances[i]? = some (some distance) ∧ 0 < distance := by
  obtain ⟨past, within, same⟩ :=
    (run_published uncritical reached).lists distances published
  refine ⟨past, within, fun i small crosses => ?_⟩
  obtain ⟨distance, point, found, positive, -, -⟩ :=
    entry_of_bore within.in_bore small crosses
  exact ⟨distance, (same i).trans found, positive⟩

end EllipseModel
end Skatebot
