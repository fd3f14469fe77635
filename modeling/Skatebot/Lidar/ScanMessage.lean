import Skatebot.HighControl.ObstacleDetection
import Skatebot.Library.BinaryFloat
import Skatebot.Lidar.Tofbf

/-!
# `ToLaserscanMessagePublish`

A frame of points becomes a message with as many beams as there are points.  A
beam holds the nearest of the points that fall on it.
-/

namespace Skatebot

open Library

variable {R : Type}

/-- `LaserScanSetting`, less the name of the lidar's frame. -/
structure LaserScanSetting (R : Type) where
  laserScanDir : Bool
  enableAngleCropFunc : Bool
  angleCropMin : R
  angleCropMax : R

/-- `sensor_msgs::msg::LaserScan`, with the fields that the lidar's node sets,
less the name of its frame. -/
structure LidarScan (R : Type) extends LaserScan R where
  stamp : R
  angleMax : R
  rangeMin : R
  rangeMax : R
  timeIncrement : R
  scanTime : R
  intensities : List (Double R)

/-- The static variables of `ToLaserscanMessagePublish`, and what has been
published, newest first. -/
structure ScanPublisher (R : Type) where
  endScanTime : R
  firstScan : Bool
  published : List (LidarScan R)

namespace ScanPublisher

/-- Before the first frame. -/
def init [Zero R] : ScanPublisher R where
  endScanTime := 0
  firstScan := true
  published := []

variable [Field R] [LinearOrder R] [FloorRing R]

/-! ## The beam of a point -/

/-- `ANGLE_TO_RADIAN`, as a `float`. -/
def angleToRadian (angle : R) : R :=
  single (double (double (angle * double 3141.59) / 180000.0))

/-- The angle of a full turn, as a `float`. -/
def angleMax : R := single (double (2.0 * double pi))

/-- The angle between two beams; infinite where there is one beam only. -/
def angleIncrement (beamSize : Nat) : Double R :=
  (Double.quotient angleMax (single ((beamSize : R) - 1))).map single

/-- The index of a point's beam, as the lidar turns. -/
def beamIndex (beamSize : Nat) (point : PointData R) : Int :=
  match (angleIncrement beamSize : Double R) with
  | none => 0
  | some angleIncrement => ⌈single (angleToRadian point.angle / angleIncrement)⌉

/-- The index of a beam in the message. -/
def place (setting : LaserScanSetting R) (beamSize : Nat) (index : Int) : Int :=
  if setting.laserScanDir then beamSize - index - 1 else index

/-- The point falls on a beam of the message. -/
def FallsOn (setting : LaserScanSetting R) (beamSize : Nat)
    (point : PointData R) (i : Nat) : Prop :=
  beamIndex beamSize point < beamSize ∧
    place setting beamSize (beamIndex beamSize point) = i

instance (setting : LaserScanSetting R) (beamSize : Nat)
    (point : PointData R) (i : Nat) :
    Decidable (FallsOn setting beamSize point i) :=
  inferInstanceAs (Decidable (_ ∧ _))

/-! ## What a point shows -/

/-- The point is a masked one, or lies in the angles that are cropped. -/
def Hidden (setting : LaserScanSetting R) (point : PointData R) : Prop :=
  point.distance = 0 ∧ point.intensity = 0 ∨
    setting.enableAngleCropFunc = true ∧
      point.angle ≥ setting.angleCropMin ∧ point.angle ≤ setting.angleCropMax

instance (setting : LaserScanSetting R) (point : PointData R) :
    Decidable (Hidden setting point) :=
  inferInstanceAs (Decidable (_ ∨ _))

/-- A point's range in metres. -/
def range (setting : LaserScanSetting R) (point : PointData R) : Double R :=
  if Hidden setting point then none
  else some (single ((point.distance.toNat : R) / 1000.0))

/-- A point's intensity. -/
def intensity (setting : LaserScanSetting R) (point : PointData R) :
    Double R :=
  if Hidden setting point then none else some point.intensity.toNat

/-- A beam's range after one more point. -/
def nearer (current range : Double R) : Double R :=
  match current, range with
  | none, range => range
  | some current, none => some current
  | some current, some range =>
      if range < current then some range else some current

/-! ## The message -/

/-- One turn of the loop over the points; `none` where it writes outside the
message. -/
def assign (setting : LaserScanSetting R) (beamSize : Nat)
    (output : List (Double R) × List (Double R)) (point : PointData R) :
    Option (List (Double R) × List (Double R)) :=
  let (ranges, intensities) := output
  let index := beamIndex beamSize point
  if index < beamSize then
    let index := place setting beamSize index
    if 0 ≤ index ∧ index < beamSize then
      some (ranges.modify index.toNat (nearer · (range setting point)),
        intensities.set index.toNat (intensity setting point))
    else none
  else some output

/-- The ranges and the intensities of a message. -/
def beams (setting : LaserScanSetting R) (src : List (PointData R)) :
    Option (List (Double R) × List (Double R)) :=
  src.foldlM (assign setting src.length)
    (.replicate src.length none, .replicate src.length none)

/-- `ToLaserscanMessagePublish`, at a time in seconds; `none` where it writes
outside the message. -/
def toLaserscanMessagePublish (publisher : ScanPublisher R)
    (src : List (PointData R)) (lidarSpinFreq : R)
    (setting : LaserScanSetting R) (now : R) : Option (ScanPublisher R) :=
  let scanTime := double (now - publisher.endScanTime)
  if publisher.firstScan then
    some { publisher with firstScan := false, endScanTime := now }
  else if lidarSpinFreq > 0 then do
    let (ranges, intensities) ← beams setting src
    let output : LidarScan R :=
      { stamp := now
        angleMin := some 0
        angleMax := angleMax
        rangeMin := single (double 0.02)
        rangeMax := 25.0
        angleIncrement := angleIncrement src.length
        timeIncrement :=
          if src.length ≤ 1 then 0
          else single (double (scanTime / ((src.length : R) - 1)))
        scanTime := single scanTime
        ranges := ranges
        intensities := intensities }
    some { publisher with
      endScanTime := now
      published := output :: publisher.published }
  else some publisher

/-! ## The nearest point -/

omit [Field R] [FloorRing R] in
/-- What is not below a member does not count for the least one. -/
theorem isLeast_insert_iff
    {values : Set R}
    {value member least : R}
    (inside : member ∈ values)
    (below : member ≤ value) :
    IsLeast (insert value values) least ↔ IsLeast values least := by
  constructor
  · rintro ⟨rfl | there, lower⟩
    · have same := below.antisymm (lower (Or.inr inside))
      exact ⟨same ▸ inside, fun other there => lower (Or.inr there)⟩
    · exact ⟨there, fun other there => lower (Or.inr there)⟩
  · rintro ⟨there, lower⟩
    refine ⟨Or.inr there, ?_⟩
    rintro other (rfl | there)
    · exact (lower inside).trans below
    · exact lower there

omit [Field R] [LinearOrder R] [FloorRing R] in
theorem setOf_some_mem_cons (value : R) (values : List (Double R)) :
    {range | some range ∈ some value :: values} =
      insert value {range | some range ∈ values} := by
  ext range
  simp

omit [Field R] [FloorRing R] in
/-- A beam ends with the least of the ranges that it has been given. -/
theorem foldl_nearer_eq_some_iff
    (ranges : List (Double R))
    (current : Double R)
    (nearest : R) :
    ranges.foldl nearer current = some nearest ↔
      IsLeast {range | some range ∈ current :: ranges} nearest := by
  induction ranges generalizing current with
  | nil =>
      rw [List.foldl_nil]
      constructor
      · rintro rfl
        simp [IsLeast, lowerBounds]
      · intro least
        exact (List.mem_singleton.mp least.1).symm
  | cons range ranges inductionHypothesis =>
      rw [List.foldl_cons, inductionHypothesis]
      cases current with
      | none => simp [nearer]
      | some current =>
          cases range with
          | none => simp [nearer]
          | some range =>
              simp only [nearer]
              split_ifs with less
              · rw [setOf_some_mem_cons current]
                exact (isLeast_insert_iff (by simp) less.le).symm
              · simp only [setOf_some_mem_cons]
                rw [Set.insert_comm]
                exact (isLeast_insert_iff (Set.mem_insert ..)
                  (not_lt.mp less)).symm

/-! ## The loop over the points -/

/-- The points that fall on a beam, in their order. -/
def fallen (setting : LaserScanSetting R) (beamSize : Nat)
    (points : List (PointData R)) (i : Nat) : List (PointData R) :=
  points.filter fun point => FallsOn setting beamSize point i

/-- What the message shows after some points: on each beam the nearest range of
the points that fall on it, and the intensity of the last. -/
structure Shows (setting : LaserScanSetting R) (beamSize : Nat)
    (points : List (PointData R))
    (output : List (Double R) × List (Double R)) : Prop where
  ranges : output.1.length = beamSize
  intensities : output.2.length = beamSize
  nearest : ∀ i < beamSize, output.1[i]? =
    some (((fallen setting beamSize points i).map (range setting)).foldl
      nearer none)
  last : ∀ i < beamSize, output.2[i]? =
    some ((fallen setting beamSize points i).getLast?.bind
      (intensity setting))

theorem Shows.assign
    {setting : LaserScanSetting R}
    {beamSize : Nat}
    {points : List (PointData R)}
    {output : List (Double R) × List (Double R)}
    (shown : Shows setting beamSize points output)
    {point : PointData R}
    (forward : 0 ≤ beamIndex beamSize point) :
    ∃ next, ScanPublisher.assign setting beamSize output point = some next ∧
      Shows setting beamSize (points ++ [point]) next := by
  obtain ⟨ranges, intensities⟩ := output
  unfold ScanPublisher.assign
  dsimp only
  have grown : ∀ i, fallen setting beamSize (points ++ [point]) i =
      fallen setting beamSize points i ++
        if FallsOn setting beamSize point i then [point] else [] := by
    intro i
    simp [fallen, List.filter_append, List.filter_cons]
  split
  next within =>
    have inside : 0 ≤ place setting beamSize (beamIndex beamSize point) ∧
        place setting beamSize (beamIndex beamSize point) < beamSize := by
      unfold place
      split <;> omega
    obtain ⟨target, same⟩ := Int.eq_ofNat_of_zero_le inside.1
    have falls : ∀ i, FallsOn setting beamSize point i ↔ target = i := by
      intro i
      rw [FallsOn, same]
      exact ⟨fun both => by omega, fun equal => ⟨within, by omega⟩⟩
    rw [if_pos inside]
    simp only [same, Int.toNat_natCast]
    refine ⟨_, rfl, by simpa using shown.ranges,
      by simpa using shown.intensities, ?_, ?_⟩
    · intro i bound
      rw [List.getElem?_modify, shown.nearest i bound, grown]
      by_cases here : target = i
      · simp [falls, here]
      · simp [falls, here]
    · intro i bound
      rw [List.getElem?_set, shown.last i bound, grown]
      by_cases here : target = i
      · simp [falls, here, shown.intensities ▸ bound]
      · simp [falls, here]
  next beyond =>
    have nowhere : ∀ i, ¬FallsOn setting beamSize point i :=
      fun i falls => beyond falls.1
    simp only [nowhere, if_false, List.append_nil] at grown
    refine ⟨_, rfl, shown.ranges, shown.intensities, ?_, ?_⟩
    · intro i bound
      rw [grown, shown.nearest i bound]
    · intro i bound
      rw [grown, shown.last i bound]

theorem Shows.loop
    {setting : LaserScanSetting R}
    {beamSize : Nat}
    {points : List (PointData R)}
    {output : List (Double R) × List (Double R)}
    (shown : Shows setting beamSize points output)
    (rest : List (PointData R))
    (forward : ∀ point ∈ rest, 0 ≤ beamIndex beamSize point) :
    ∃ final,
      rest.foldlM (ScanPublisher.assign setting beamSize) output =
        some final ∧
      Shows setting beamSize (points ++ rest) final := by
  induction rest generalizing points output with
  | nil => exact ⟨output, rfl, by rwa [List.append_nil]⟩
  | cons point rest inductionHypothesis =>
      obtain ⟨here, others⟩ := List.forall_mem_cons.mp forward
      obtain ⟨next, assigned, more⟩ := shown.assign here
      obtain ⟨final, looped, all⟩ := inductionHypothesis more others
      refine ⟨final, ?_, ?_⟩
      · rw [List.foldlM_cons, assigned]
        exact looped
      · rwa [List.append_assoc] at all

variable [IsStrictOrderedRing R]

/-! ## The angles of the beams -/

theorem angleMax_bounds :
    (6.2831845 : R) ≤ angleMax ∧ (angleMax : R) ≤ 6.2831861 := by
  have least : (3.14159265 : R) ≤ pi := by norm_num [pi]
  have most : (pi : R) ≤ 3.14159266 := by norm_num [pi]
  have turn : (0 : R) ≤ pi := by linarith
  have two : (2.0 : R) = 2 := by norm_num
  obtain ⟨lower, upper⟩ := double_bounds turn
  obtain ⟨turnLower, turnUpper⟩ := single_double_bounds
    (mul_nonneg (by norm_num : (0 : R) ≤ 2) (double_nonneg turn))
  rw [angleMax, two]
  constructor <;> linarith

/-- An angle in radians, to a part in five millions of what 3.14159 for half a turn
makes of it. -/
theorem angleToRadian_bounds
    {angle : R}
    (nonnegative : 0 ≤ angle) :
    angle * 3141.59 / 180000 * (1 - 2 / 10 ^ 7) ≤ angleToRadian angle ∧
      angleToRadian angle ≤ angle * 3141.59 / 180000 * (1 + 2 / 10 ^ 7) := by
  have factor : (0 : R) ≤ 3141.59 := by norm_num
  have whole : (180000.0 : R) = 180000 := by norm_num
  obtain ⟨factorLower, factorUpper⟩ := double_bounds factor
  have product := mul_nonneg nonnegative (double_nonneg factor)
  obtain ⟨productLower, productUpper⟩ := double_bounds product
  have quotient := div_nonneg (double_nonneg product)
    (by norm_num : (0 : R) ≤ 180000)
  obtain ⟨lower, upper⟩ := single_double_bounds quotient
  have least := mul_le_mul_of_nonneg_left factorLower nonnegative
  have most := mul_le_mul_of_nonneg_left factorUpper nonnegative
  rw [angleToRadian, whole]
  constructor <;> linarith

theorem angleToRadian_nonneg
    {angle : R}
    (nonnegative : 0 ≤ angle) :
    0 ≤ angleToRadian angle := by
  obtain ⟨lower, -⟩ := angleToRadian_bounds nonnegative
  linarith

@[simp] theorem angleIncrement_one : (angleIncrement 1 : Double R) = none := by
  simp [angleIncrement, Double.quotient]

/-- Two beams at least have a finite angle between them. -/
theorem angleIncrement_eq
    {beamSize : Nat}
    (several : beamSize ≠ 1) :
    angleIncrement beamSize =
      some (single (angleMax / single ((beamSize : R) - 1))) := by
  have others : single ((beamSize : R) - 1) ≠ 0 := by
    rw [Ne, single_eq_zero_iff, sub_eq_zero]
    exact_mod_cast several
  rw [angleIncrement, Double.quotient, if_neg others, Option.map_some]

theorem angleIncrement_finite
    {beamSize : Nat}
    {increment : R}
    (nonempty : 0 < beamSize)
    (finite : angleIncrement beamSize = some increment) :
    1 < beamSize ∧
      increment = single (angleMax / single ((beamSize : R) - 1)) ∧
      0 < increment := by
  have several : beamSize ≠ 1 := by
    rintro rfl
    rw [angleIncrement_one] at finite
    contradiction
  have many : 1 < beamSize := by omega
  have others : (0 : R) < beamSize - 1 := by
    have : (1 : R) < beamSize := by exact_mod_cast many
    linarith
  have turn : (0 : R) < angleMax := by
    obtain ⟨lower, -⟩ := angleMax_bounds (R := R)
    linarith
  rw [angleIncrement_eq several] at finite
  obtain rfl := Option.some_inj.mp finite
  exact ⟨many, rfl, single_pos (div_pos turn (single_pos others))⟩

theorem beamIndex_nonneg
    {beamSize : Nat}
    {point : PointData R}
    (nonempty : 0 < beamSize)
    (angle : 0 ≤ point.angle) :
    0 ≤ beamIndex beamSize point := by
  unfold beamIndex
  split
  next => rfl
  next increment finite =>
    obtain ⟨-, -, positive⟩ := angleIncrement_finite nonempty finite
    exact Int.ceil_nonneg
      (single_nonneg (div_nonneg (angleToRadian_nonneg angle) positive.le))

/-- A `float` counts up to two to the 24th. -/
theorem single_pred
    {beamSize : Nat}
    (few : beamSize ≤ 2 ^ 24) :
    single ((beamSize : R) - 1) = beamSize - 1 := by
  have bounded : |(beamSize : Int) - 1| ≤ 2 ^ 24 := by
    rw [abs_le]
    omega
  have whole : single (((beamSize : Int) - 1 : Int) : R) =
      (((beamSize : Int) - 1 : Int) : R) :=
    roundBinary_intCast (by decide) bounded
  push_cast at whole
  exact whole

/-- As many angles between beams as there are beams but one make a full turn, to
two millionths. -/
theorem angleIncrement_turn
    {beamSize : Nat}
    {increment : R}
    (nonempty : 0 < beamSize)
    (few : beamSize ≤ 2 ^ 24)
    (finite : angleIncrement beamSize = some increment) :
    6.2831841 ≤ ((beamSize : R) - 1) * increment ∧
      ((beamSize : R) - 1) * increment ≤ 6.2831865 := by
  obtain ⟨several, rfl, -⟩ := angleIncrement_finite nonempty finite
  obtain ⟨least, most⟩ := angleMax_bounds (R := R)
  have others : (0 : R) < beamSize - 1 := by
    have : (1 : R) < beamSize := by exact_mod_cast several
    linarith
  rw [single_pred few]
  have turn : (0 : R) ≤ angleMax / ((beamSize : R) - 1) :=
    div_nonneg (by linarith) others.le
  obtain ⟨lower, upper⟩ := single_bounds turn
  have below := mul_le_mul_of_nonneg_left lower others.le
  have above := mul_le_mul_of_nonneg_left upper others.le
  have whole : ((beamSize : R) - 1) * (angleMax / ((beamSize : R) - 1)) =
      angleMax := mul_div_cancel₀ _ others.ne'
  generalize angleMax / ((beamSize : R) - 1) = exact at *
  constructor <;> linarith

/-- The index of a point on the circle is that of a beam, and the beam's angle is
the point's or lies beyond it by less than the angle between two beams, to two
millionths. -/
theorem beamIndex_near
    {beamSize : Nat}
    {point : PointData R}
    (nonempty : 0 < beamSize)
    (few : beamSize ≤ 2 ^ 24)
    (forward : 0 ≤ point.angle)
    (within : point.angle < 360) :
    beamIndex beamSize point < beamSize ∧
      ∀ increment : R, angleIncrement beamSize = some increment →
        point.angle * 3141.59 / 180000 - 2 / 10 ^ 6 ≤
            beamIndex beamSize point * increment ∧
          beamIndex beamSize point * increment <
            point.angle * 3141.59 / 180000 + 2 / 10 ^ 6 + increment := by
  cases finite : (angleIncrement beamSize : Double R) with
  | none =>
      simp only [beamIndex, finite]
      exact ⟨by exact_mod_cast nonempty, fun _ other => by contradiction⟩
  | some increment =>
      obtain ⟨several, -, positive⟩ := angleIncrement_finite nonempty finite
      obtain ⟨turnLower, -⟩ := angleIncrement_turn nonempty few finite
      obtain ⟨lower, upper⟩ := angleToRadian_bounds forward
      obtain ⟨turned, index, whole, nonnegative⟩ : ∃ turned : R,
          beamIndex beamSize point = ⌈single turned⌉ ∧
            turned * increment = angleToRadian point.angle ∧ 0 ≤ turned :=
        ⟨angleToRadian point.angle / increment,
          by simp only [beamIndex, finite], div_mul_cancel₀ _ positive.ne',
          div_nonneg (angleToRadian_nonneg forward) positive.le⟩
      rw [index]
      constructor
      · have last : turned ≤ (beamSize : R) - 1 := by
          rw [← mul_le_mul_iff_left₀ positive, whole]
          linarith
        have rounded := single_mono last
        rw [single_pred few] at rounded
        have below : ⌈single turned⌉ ≤ (beamSize : Int) - 1 :=
          Int.ceil_le.mpr (by exact_mod_cast rounded)
        omega
      · rintro _ ⟨⟩
        obtain ⟨roundedLower, roundedUpper⟩ := single_bounds nonnegative
        have least := mul_le_mul_of_nonneg_right
          (roundedLower.trans (Int.le_ceil _)) positive.le
        have next := mul_lt_mul_of_pos_right
          ((Int.ceil_lt_add_one (single turned)).trans_le
            (add_le_add_left roundedUpper 1)) positive
        constructor <;> linarith

/-- A point on the circle falls on one beam of its frame's message, if that has no
more beams than a `float` counts.  The beam's angle, which is counted backwards
if the message runs against the lidar, is the point's or lies beyond it by less
than the angle between two beams, to a hundred-thousandth of a radian: the
conversion from degrees takes 3.14159 for half a turn, and the numbers are of
type `float`. -/
theorem falls_on_beam
    (setting : LaserScanSetting R)
    (beamSize : Nat)
    (point : PointData R)
    (nonempty : 0 < beamSize)
    (few : beamSize ≤ 2 ^ 24)
    (forward : 0 ≤ point.angle)
    (within : point.angle < 360) :
    ∃ i < beamSize,
      (∀ j, FallsOn setting beamSize point j ↔ j = i) ∧
      ∀ increment : R, angleIncrement beamSize = some increment →
        let angle :=
          if setting.laserScanDir then 2 * pi - i * increment
          else i * increment
        point.angle * pi / 180 - 1 / 10 ^ 5 ≤ angle ∧
          angle < point.angle * pi / 180 + increment + 1 / 10 ^ 5 := by
  have nonnegative := beamIndex_nonneg nonempty forward
  obtain ⟨less, near⟩ := beamIndex_near nonempty few forward within
  have least : (3.14159265 : R) ≤ pi := by norm_num [pi]
  have most : (pi : R) ≤ 3.14159266 := by norm_num [pi]
  have below := mul_le_mul_of_nonneg_left least forward
  have above := mul_le_mul_of_nonneg_left most forward
  obtain ⟨index, same⟩ := Int.eq_ofNat_of_zero_le nonnegative
  simp only [FallsOn, place, same] at less near ⊢
  by_cases backward : setting.laserScanDir = true
  · refine ⟨beamSize - index - 1, by omega, fun j => ?_, ?_⟩
    · rw [if_pos backward]
      omega
    · intro increment finite
      obtain ⟨lower, upper⟩ := near increment finite
      obtain ⟨turnLower, turnUpper⟩ := angleIncrement_turn nonempty few finite
      have mirrored : ((beamSize - index - 1 : Nat) : R) * increment =
          ((beamSize : R) - 1) * increment - index * increment := by
        rw [Nat.cast_sub (by omega), Nat.cast_sub (by omega)]
        push_cast
        ring
      push_cast at lower upper
      simp only [backward, if_true, mirrored]
      constructor <;> linarith
  · refine ⟨index, by omega, fun j => ?_, ?_⟩
    · rw [if_neg backward]
      omega
    · intro increment finite
      obtain ⟨lower, upper⟩ := near increment finite
      push_cast at lower upper
      rw [if_neg backward]
      constructor <;> linarith

/-- The lidar's settings on the robot. -/
def robotSetting : LaserScanSetting ℚ where
  laserScanDir := true
  enableAngleCropFunc := false
  angleCropMin := 0
  angleCropMax := 0

/-- A reading of one metre with full intensity. -/
def readingAt (angle : ℚ) : PointData ℚ where
  angle := single angle
  distance := 1000
  intensity := 200
  stamp := 1

/-- The point lies beyond its beam, by the error of the conversion. -/
theorem falls_on_beam_beyond :
    (∀ j, FallsOn robotSetting 450 (readingAt 80.98) j ↔ j = 348) ∧
      ∀ increment : ℚ, angleIncrement 450 = some increment →
        single 80.98 * pi / 180 - 1 / 10 ^ 5 ≤ 2 * pi - 348 * increment ∧
          2 * pi - 348 * increment <
            single 80.98 * pi / 180 + increment + 1 / 10 ^ 5 := by
  obtain ⟨i, -, unique, near⟩ := falls_on_beam robotSetting 450
    (readingAt 80.98) (by decide) (by decide) (by decide +kernel)
    (by decide +kernel)
  obtain rfl := (unique 348).mp (by decide +kernel)
  exact ⟨unique, near⟩

/-! ## The loop as a whole -/

/-- A frame whose points have no negative angles is written within the
message. -/
theorem beams_shown
    (setting : LaserScanSetting R)
    {src : List (PointData R)}
    (angles : ∀ point ∈ src, 0 ≤ point.angle) :
    ∃ output, beams setting src = some output ∧
      Shows setting src.length src output := by
  have begun : Shows setting src.length []
      (.replicate src.length none, .replicate src.length none) := by
    refine ⟨List.length_replicate, List.length_replicate, ?_, ?_⟩ <;>
      intro i bound <;>
      simp [fallen, bound]
  exact begun.loop src fun point member =>
    beamIndex_nonneg (List.length_pos_of_mem member) (angles point member)

omit [IsStrictOrderedRing R] in
/-- A beam's range is the least one of the points that fall on it. -/
theorem Shows.isLeast
    {setting : LaserScanSetting R}
    {beamSize : Nat}
    {points : List (PointData R)}
    {output : List (Double R) × List (Double R)}
    (shown : Shows setting beamSize points output)
    {i : Nat}
    (bound : i < beamSize)
    (nearest : R) :
    output.1[i]? = some (some nearest) ↔
      IsLeast {reading | ∃ point ∈ points,
        FallsOn setting beamSize point i ∧
          range setting point = some reading} nearest := by
  rw [shown.nearest i bound, Option.some_inj, foldl_nearer_eq_some_iff]
  have same : {reading | some reading ∈ none ::
      (fallen setting beamSize points i).map (range setting)} =
        {reading | ∃ point ∈ points, FallsOn setting beamSize point i ∧
          range setting point = some reading} := by
    ext reading
    simp [fallen, and_assoc]
  rw [same]

/-- A frame whose points have no negative angles becomes a message with as many
beams.  A beam's range is the nearest of the points that fall on it, less those
that are masked or cropped, and it has one if there is such a point; its
intensity is that of the last. -/
theorem beams_nearest
    (setting : LaserScanSetting R)
    (src : List (PointData R))
    (angles : ∀ point ∈ src, 0 ≤ point.angle) :
    ∃ ranges intensities,
      beams setting src = some (ranges, intensities) ∧
      ranges.length = src.length ∧
      intensities.length = src.length ∧
      ∀ i < src.length,
        (∀ nearest, ranges[i]? = some (some nearest) ↔
          IsLeast {reading | ∃ point ∈ src,
            FallsOn setting src.length point i ∧
              range setting point = some reading} nearest) ∧
        intensities[i]? = some
          ((fallen setting src.length src i).getLast?.bind
            (intensity setting)) := by
  obtain ⟨⟨ranges, intensities⟩, made, shown⟩ := beams_shown setting angles
  exact ⟨ranges, intensities, made, shown.ranges, shown.intensities,
    fun i bound => ⟨shown.isLeast bound, shown.last i bound⟩⟩

/-- Four readings, the first two of them on one beam and the third masked. -/
def fourReadings : List (PointData ℚ) :=
  [{ readingAt 100 with distance := 2000 }, { readingAt 110 with
    distance := 1500, intensity := 90 }, (readingAt 200).mask, readingAt 350]

/-- The beam of the first two shows the nearer one. -/
theorem beams_nearest_fourReadings :
    ∃ ranges intensities,
      beams robotSetting fourReadings = some (ranges, intensities) ∧
      ranges = [some 1, none, some (3 / 2), none] ∧
      IsLeast {reading | ∃ point ∈ fourReadings,
        FallsOn robotSetting 4 point 2 ∧
          range robotSetting point = some reading} (3 / 2) ∧
      intensities[2]? = some (some 90) := by
  have computed : (beams robotSetting fourReadings).map Prod.fst =
        some [some 1, none, some (3 / 2), none] ∧
      (fallen robotSetting 4 fourReadings 2).getLast?.bind
        (intensity robotSetting) = some 90 := by
    decide +kernel
  obtain ⟨ranges, intensities, made, -, -, each⟩ :=
    beams_nearest robotSetting fourReadings (by decide +kernel)
  obtain ⟨nearest, last⟩ := each 2 (by decide)
  rw [made, Option.map_some] at computed
  obtain rfl := Option.some_inj.mp computed.1
  exact ⟨_, intensities, made, rfl, (nearest (3 / 2)).mp rfl,
    last.trans (congrArg some computed.2)⟩

/-! ## What becomes of the message -/

omit [IsStrictOrderedRing R] in
/-- A new message is the one that is made of the frame. -/
theorem published_beams
    {publisher after : ScanPublisher R}
    {src : List (PointData R)}
    {lidarSpinFreq now : R}
    {setting : LaserScanSetting R}
    {output : LidarScan R}
    (called : publisher.toLaserscanMessagePublish src lidarSpinFreq setting
      now = some after)
    (new : after.published = output :: publisher.published) :
    beams setting src = some (output.ranges, output.intensities) ∧
      output.angleMin = some 0 ∧
      output.angleIncrement = angleIncrement src.length := by
  unfold toLaserscanMessagePublish at called
  dsimp only at called
  split at called
  next =>
    obtain rfl := Option.some_inj.mp called
    exact absurd new.symm (List.cons_ne_self _ _)
  next =>
    split at called
    next =>
      simp only [Option.bind_eq_bind, Option.bind_eq_some_iff, Prod.exists]
        at called
      obtain ⟨ranges, intensities, made, same⟩ := called
      obtain rfl := Option.some_inj.mp same
      obtain ⟨rfl, -⟩ := List.cons.inj new
      exact ⟨made, rfl, rfl⟩
    next =>
      obtain rfl := Option.some_inj.mp called
      exact absurd new.symm (List.cons_ne_self _ _)

/-- A frame whose points have no negative angles is published, or passed
over. -/
theorem toLaserscanMessagePublish_total
    (publisher : ScanPublisher R)
    {src : List (PointData R)}
    (angles : ∀ point ∈ src, 0 ≤ point.angle)
    (lidarSpinFreq : R)
    (setting : LaserScanSetting R)
    (now : R) :
    ∃ after, publisher.toLaserscanMessagePublish src lidarSpinFreq setting now =
        some after ∧
      (after.published = publisher.published ∨
        ∃ output, after.published = output :: publisher.published) := by
  obtain ⟨⟨ranges, intensities⟩, made, -⟩ := beams_shown setting angles
  unfold toLaserscanMessagePublish
  dsimp only
  split
  next => exact ⟨_, rfl, Or.inl rfl⟩
  next =>
    split
    next =>
      rw [made]
      exact ⟨_, rfl, Or.inr ⟨_, rfl⟩⟩
    next => exact ⟨_, rfl, Or.inl rfl⟩

theorem beams_singleton
    (setting : LaserScanSetting R)
    (point : PointData R) :
    beams setting [point] =
      some ([range setting point], [intensity setting point]) := by
  simp [beams, assign, beamIndex, place, nearer]

/-- `obstacle_detection` raises an exception over a message exactly where it is
made of a single point that is neither masked nor cropped: the angle between
its beams is infinite then. -/
theorem scanCallback_raises_iff
    {publisher after : ScanPublisher R}
    {src : List (PointData R)}
    {lidarSpinFreq now : R}
    {setting : LaserScanSetting R}
    {output : LidarScan R}
    (called : publisher.toLaserscanMessagePublish src lidarSpinFreq setting
      now = some after)
    (new : after.published = output :: publisher.published)
    {node : ObstacleDetection R}
    {distances : List (Double R)}
    (modelled : node.ellipseDistances = some distances)
    (entries : distances.length = 360)
    (time : Int) :
    node.scanCallback time output.toLaserScan = none ↔
      ∃ point, src = [point] ∧ ¬Hidden setting point := by
  obtain ⟨made, first, step⟩ := published_beams called new
  by_cases alone : src.length = 1
  · obtain ⟨point, rfl⟩ := List.length_eq_one_iff.mp alone
    obtain ⟨ranges, -⟩ := Prod.mk.inj
      (Option.some_inj.mp (made.symm.trans (beams_singleton setting point)))
    have angle : ObstacleDetection.angleDeg output.toLaserScan 0 = none := by
      simp [ObstacleDetection.angleDeg, step]
    simp only [ObstacleDetection.scanCallback, modelled,
      ObstacleDetection.closePoints, ranges]
    by_cases hidden : Hidden setting point
    · simp [range, hidden, ObstacleDetection.closePoint]
    · simp [range, hidden, ObstacleDetection.closePoint, angle]
  · have total : ∃ next,
        node.scanCallback time output.toLaserScan = some next := by
      apply ObstacleDetection.scanCallback_total
      · intro others same
        rw [modelled] at same
        rwa [← Option.some_inj.mp same]
      · intro i
        have finite : ∃ increment : R,
            angleIncrement src.length = some increment :=
          ⟨_, angleIncrement_eq alone⟩
        obtain ⟨increment, finite⟩ := finite
        simp [ObstacleDetection.angleDeg, first, step, finite]
    obtain ⟨next, returned⟩ := total
    rw [returned]
    refine iff_of_false (Option.some_ne_none _) ?_
    rintro ⟨point, rfl, -⟩
    exact alone rfl

/-- The message that is made of one reading. -/
def loneScan : LidarScan ℚ where
  angleMin := some 0
  angleIncrement := none
  ranges := [some 1]
  stamp := 1
  angleMax := angleMax
  rangeMin := single (double 0.02)
  rangeMax := 25.0
  timeIncrement := 0
  scanTime := 1
  intensities := [some 200]

theorem published_loneScan :
    toLaserscanMessagePublish ⟨0, false, []⟩ [readingAt 350] 10 robotSetting 1 =
      some ⟨1, false, [loneScan]⟩ := by
  have shown : ¬Hidden robotSetting (readingAt 350) := by decide
  have metre : single ((1000 : ℚ) / 1000.0) = 1 := by decide +kernel
  have second : single (double (1 : ℚ)) = 1 := by decide +kernel
  simp [toLaserscanMessagePublish, beams_singleton, range, intensity, shown,
    loneScan, second]
  simp [readingAt, metre]

theorem scanCallback_raises_loneScan :
    ({ ObstacleDetection.init 90 0.5 3 1 with
        ellipseDistances := some (.replicate 360 (some 2)) } :
      ObstacleDetection ℚ).scanCallback 5 loneScan.toLaserScan = none :=
  (scanCallback_raises_iff published_loneScan rfl rfl
    List.length_replicate 5).mpr
    ⟨readingAt 350, rfl, by decide⟩

end ScanPublisher
end Skatebot
