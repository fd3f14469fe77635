import Skatebot.Library.BinaryFloat
import Skatebot.Lidar.PacketStream
import Skatebot.Lidar.Tofbf

/-!
# `LiPkg`

The lidar's packets become points, the points become frames: one turn of the
lidar each, filtered and in the order of their time stamps.
-/

namespace Skatebot

open Library

/-- `LidarStatus`. -/
inductive LidarStatus
  | normal
  | error
  | dataTimeOut
  | dataWait
  | stop
  deriving DecidableEq

/-- What the language leaves open to the platform. -/
structure LidarPlatform (R : Type) [Field R] [LinearOrder R] [FloorRing R] where
  cast : UnsignedCast R
  byAngle : Sorting (PointData.angle (R := R))
  byStamp : Sorting fun point : PointData R => point.stamp.toNat

/-- A platform to compute with. -/
def LidarPlatform.insertion (R : Type) [Field R] [LinearOrder R]
    [FloorRing R] : LidarPlatform R where
  cast := .wrapping R
  byAngle := .insertion _
  byStamp := .insertion _

/-- `LiPkg`, with what `SetLaserScanData` has been given. -/
structure LiPkg (R : Type) where
  productType : LDType
  timestamp : BitVec 16
  /-- In degrees per second. -/
  speed : BitVec 16
  isFrameReady : Bool
  isPoweronCommNormal : Bool
  isFilter : Bool
  lidarStatus : LidarStatus
  measurePointFrequence : Nat
  lastPkgTimestamp : BitVec 64
  firstFrame : Bool
  analysis : Analysis
  frameTmp : List (PointData R)
  laserScanData : List (PointData R)
  /-- The frames that have been set, newest first. -/
  frames : List (List (PointData R))

namespace LiPkg

variable {R : Type}

/-- `LiPkg::LiPkg`, from what `pkg_` holds before it is set. -/
def make (pkg : LiDARFrame) : LiPkg R where
  productType := .noVersion
  timestamp := 0
  speed := 0
  isFrameReady := false
  isPoweronCommNormal := false
  isFilter := true
  lidarStatus := .normal
  measurePointFrequence := 4500
  lastPkgTimestamp := 0
  firstFrame := true
  analysis := .init pkg
  frameTmp := []
  laserScanData := []
  frames := []

/-- `LiPkg::SetProductType`. -/
def setProductType (lidar : LiPkg R) (typeNumber : LDType) : LiPkg R :=
  { lidar with
    productType := typeNumber
    measurePointFrequence :=
      match typeNumber with
      | .ld06 | .ld19 => 4500
      | .stl06p | .stl26 => 5000
      | .stl27l => 21600
      | .noVersion => 4500 }

/-- `LiPkg::ClearDataProcessStatus`. -/
def clearDataProcessStatus (lidar : LiPkg R) : LiPkg R :=
  { lidar with
    isFrameReady := false
    isPoweronCommNormal := false
    lidarStatus := .normal
    lastPkgTimestamp := 0
    firstFrame := true }

/-- `LiPkg::EnableFilter`. -/
def enableFilter (lidar : LiPkg R) (isEnable : Bool) : LiPkg R :=
  { lidar with isFilter := isEnable }

/-- `LiPkg::GetLidarPowerOnCommStatus`. -/
def getLidarPowerOnCommStatus (lidar : LiPkg R) : Bool × LiPkg R :=
  if lidar.isPoweronCommNormal then
    (true, { lidar with isPoweronCommNormal := false })
  else (false, lidar)

/-- `LiPkg::GetLaserScanData`; `none` where there is no new frame. -/
def getLaserScanData (lidar : LiPkg R) :
    Option (List (PointData R)) × LiPkg R :=
  if lidar.isFrameReady then
    (some lidar.laserScanData, { lidar with isFrameReady := false })
  else (none, lidar)

/-- `LiPkg::SetLaserScanData` and `LiPkg::SetFrameReady`. -/
def setLaserScanData (lidar : LiPkg R) (src : List (PointData R)) : LiPkg R :=
  { lidar with
    laserScanData := src
    isFrameReady := true
    frames := src :: lidar.frames }

variable [Field R] [LinearOrder R] [FloorRing R]

/-- `LiPkg::GetSpeed`, in turns per second. -/
def getSpeed (lidar : LiPkg R) : R := double ((lidar.speed.toNat : R) / 360.0)

/-! ## Packets into points -/

/-- The whole degrees from the first point of a packet to the last. -/
def wholeDegrees (pkg : LiDARFrame) : Int :=
  ((pkg.endAngle.toNat / 100 : Nat) - (pkg.startAngle.toNat / 100 : Nat) +
    360 : Int).tmod 360

/-- The hundredths of a degree from the first point of a packet to the last. -/
def hundredths (pkg : LiDARFrame) : BitVec 32 :=
  (pkg.endAngle.setWidth 32 + 36000 - pkg.startAngle.setWidth 32) % 36000

/-- The angle between two points of a packet. -/
def step (pkg : LiDARFrame) : R :=
  let diff : R := ((hundredths pkg).toNat / (pointPerPack - 1) : Nat)
  single (double (diff / 100.0))

/-- A point's angle before a turn is taken off. -/
def uncut (pkg : LiDARFrame) (i : Nat) : R :=
  let start : R := single (double ((pkg.startAngle.toNat : R) / 100.0))
  single (start + single ((i : R) * step pkg))

/-- The time between two points of a packet. -/
def packStampPointStep (lastPkgTimestamp currentPackStamp : BitVec 64) : R :=
  let passed : R := (currentPackStamp - lastPkgTimestamp).toNat
  double (double passed / (pointPerPack - 1 : Nat))

/-- A point's time stamp before it is made an integer. -/
def exactStamp (lastPkgTimestamp currentPackStamp : BitVec 64) (i : Nat) : R :=
  double (double (lastPkgTimestamp.toNat : R) +
    double (packStampPointStep lastPkgTimestamp currentPackStamp * (i : R)))

/-- A point of a packet. -/
def point (platform : LidarPlatform R) (pkg : LiDARFrame)
    (lastPkgTimestamp currentPackStamp : BitVec 64) (i : Fin pointPerPack) :
    PointData R :=
  let angle : R := uncut pkg i
  { angle := if angle ≥ 360.0 then single (double (angle - 360.0)) else angle
    distance := pkg.point[i].distance
    intensity := pkg.point[i].intensity
    stamp := platform.cast.toUInt64
      (exactStamp lastPkgTimestamp currentPackStamp i) }

/-- The points of a packet. -/
def points (platform : LidarPlatform R) (pkg : LiDARFrame)
    (lastPkgTimestamp currentPackStamp : BitVec 64) : List (PointData R) :=
  List.ofFn (point platform pkg lastPkgTimestamp currentPackStamp)

/-- The packet's angle is at most one and a half times what the lidar turns by in
the time of a packet, at the packet's speed. -/
def FastEnough (R : Type) [Field R] [LinearOrder R] [FloorRing R]
    (measurePointFrequence : Nat) (pkg : LiDARFrame) : Prop :=
  let diff : R := wholeDegrees pkg
  let turned : R :=
    double (double ((pkg.speed.toNat * pointPerPack : Nat) : R) /
      measurePointFrequence)
  diff ≤ double (turned * 1.5)

instance (measurePointFrequence : Nat) (pkg : LiDARFrame) :
    Decidable (FastEnough R measurePointFrequence pkg) :=
  inferInstanceAs (Decidable (_ ≤ _))

/-- What `LiPkg::Parse` does with a packet, at the time that
`get_timestamp_` gives. -/
def takePackage (platform : LidarPlatform R) (lidar : LiPkg R)
    (pkg : LiDARFrame) (now : BitVec 64) : LiPkg R :=
  let lidar := { lidar with isPoweronCommNormal := true }
  if FastEnough R lidar.measurePointFrequence pkg then
    if lidar.lastPkgTimestamp = 0 then { lidar with lastPkgTimestamp := now }
    else
      { lidar with
        speed := pkg.speed
        timestamp := pkg.timestamp
        frameTmp := lidar.frameTmp ++
          points platform pkg lidar.lastPkgTimestamp now
        lastPkgTimestamp := now }
  else lidar

/-- One turn of the loop of `LiPkg::Parse`. -/
def parseOne (platform : LidarPlatform R) (lidar : LiPkg R)
    (received : BitVec 8 × BitVec 64) : LiPkg R :=
  let (found, analysis) := lidar.analysis.analysisOne received.1
  let lidar := { lidar with analysis := analysis }
  if found then lidar.takePackage platform analysis.pkg received.2 else lidar

/-- `LiPkg::Parse`, over bytes with the time at which each is handled. -/
def parse (platform : LidarPlatform R) (lidar : LiPkg R)
    (data : List (BitVec 8 × BitVec 64)) : LiPkg R :=
  data.foldl (parseOne platform) lidar

/-! ## Points into frames -/

/-- The lidar has come round between two points. -/
def Wraps (lastAngle angle : R) : Prop := angle < 20.0 ∧ lastAngle > 340.0

instance (lastAngle angle : R) : Decidable (Wraps lastAngle angle) :=
  inferInstanceAs (Decidable (_ ∧ _))

/-- `frame_tmp_` without its first points. -/
def erase (lidar : LiPkg R) (count : Nat) : LiPkg R :=
  if count ≥ lidar.frameTmp.length then { lidar with frameTmp := [] }
  else { lidar with frameTmp := lidar.frameTmp.drop count }

/-- The frame that is made of some points: filtered if the filter is enabled,
and sorted. -/
def frameOf (platform : LidarPlatform R) (lidar : LiPkg R)
    (data : List (PointData R)) : List (PointData R) :=
  platform.byStamp.sort
    (if lidar.isFilter then
      (Tofbf.make lidar.speed.toNat lidar.productType).filter platform.byAngle
        data
    else data)

/-- The first frame is passed over, the others are set. -/
def setFrame (lidar : LiPkg R) (tmp : List (PointData R)) : LiPkg R :=
  if lidar.firstFrame then { lidar with firstFrame := false }
  else lidar.setLaserScanData tmp

/-- So many points are too many for one turn of the lidar. -/
def TooMany (lidar : LiPkg R) (count : Nat) : Prop :=
  double (count * lidar.getSpeed) >
    double ((lidar.measurePointFrequence : R) * double 1.4)

instance (lidar : LiPkg R) (count : Nat) : Decidable (lidar.TooMany count) :=
  inferInstanceAs (Decidable (_ < _))

/-- The loop of `LiPkg::AssemblePacket`, from a point of `frame_tmp_` on. -/
def assembleFrom (platform : LidarPlatform R) (lidar : LiPkg R)
    (lastAngle : R) (data : List (PointData R)) (count : Nat) :
    List (PointData R) → Bool × LiPkg R
  | [] => (false, lidar)
  | n :: rest =>
      let next (data : List (PointData R)) : Bool × LiPkg R :=
        let count := count + 1
        if double (count * lidar.getSpeed) >
            (lidar.measurePointFrequence * 2 : Nat) then
          (false, lidar.erase count)
        else lidar.assembleFrom platform n.angle data count rest
      if Wraps lastAngle n.angle then
        if lidar.TooMany count then (false, lidar.erase count)
        else
          let data := lidar.frameTmp.take count ++ data
          let tmp := lidar.frameOf platform data
          if tmp.length > 0 then (true, (lidar.setFrame tmp).erase count)
          else next data
      else next data

/-- `LiPkg::AssemblePacket`. -/
def assemblePacket (platform : LidarPlatform R) (lidar : LiPkg R) :
    Bool × LiPkg R :=
  lidar.assembleFrom platform 0 [] 0 lidar.frameTmp

/-- `LiPkg::CommReadCallback`. -/
def commReadCallback (platform : LidarPlatform R) (lidar : LiPkg R)
    (data : List (BitVec 8 × BitVec 64)) : LiPkg R :=
  ((lidar.parse platform data).assemblePacket platform).2

/-! ## The points of a packet -/

variable [IsStrictOrderedRing R]

theorem step_nonneg (pkg : LiDARFrame) : 0 ≤ (step pkg : R) := by
  apply single_nonneg
  apply double_nonneg
  positivity

theorem uncut_nonneg (pkg : LiDARFrame) (i : Nat) :
    0 ≤ (uncut pkg i : R) := by
  have start : (0 : R) ≤ pkg.startAngle.toNat / 100.0 := by positivity
  have steps : (0 : R) ≤ i * step pkg :=
    mul_nonneg (Nat.cast_nonneg _) (step_nonneg pkg)
  exact single_nonneg (add_nonneg (single_nonneg (double_nonneg start))
    (single_nonneg steps))

/-- No point has a negative angle, whatever the packet holds. -/
theorem angle_nonneg
    (platform : LidarPlatform R)
    (pkg : LiDARFrame)
    (lastPkgTimestamp currentPackStamp : BitVec 64)
    (i : Fin pointPerPack) :
    0 ≤ (point platform pkg lastPkgTimestamp currentPackStamp i).angle := by
  simp only [point]
  split
  next beyond =>
    exact single_nonneg (double_nonneg (sub_nonneg.mpr beyond))
  next => exact uncut_nonneg pkg i

theorem hundredths_eq
    {pkg : LiDARFrame}
    (starts : pkg.startAngle.toNat < 36000) :
    ((hundredths pkg).toNat : Int) =
      ((pkg.endAngle.toNat : Int) - pkg.startAngle.toNat) % 36000 := by
  have ends := pkg.endAngle.isLt
  have turn : (36000 : BitVec 32).toNat = 36000 := by decide
  have sum : (pkg.endAngle.setWidth 32 + 36000 -
      pkg.startAngle.setWidth 32).toNat =
        pkg.endAngle.toNat + 36000 - pkg.startAngle.toNat := by
    bv_omega
  rw [hundredths, BitVec.toNat_umod, sum, turn, Int.natCast_emod,
    Nat.cast_sub (starts.le.trans (Nat.le_add_left _ _)), Nat.cast_add,
    add_sub_right_comm]
  exact Int.add_emod_right _ _

/-- What a packet's whole hundredths leave out of an eleventh of its angle. -/
theorem hundredths_bounds (pkg : LiDARFrame) :
    (((hundredths pkg).toNat / 11 : Nat) : R) ≤ (hundredths pkg).toNat / 11 ∧
      ((hundredths pkg).toNat / 11 : R) ≤
        ((hundredths pkg).toNat / 11 : Nat) + 10 / 11 := by
  have below : (((hundredths pkg).toNat / 11 : Nat) : R) * 11 ≤
      (hundredths pkg).toNat := by
    exact_mod_cast Nat.div_mul_le_self _ _
  have above : ((hundredths pkg).toNat : R) ≤
      ((hundredths pkg).toNat / 11 : Nat) * 11 + 10 := by
    have rest := Nat.div_add_mod (hundredths pkg).toNat 11
    have small := Nat.mod_lt (hundredths pkg).toNat (show 0 < 11 by decide)
    exact_mod_cast (by omega : (hundredths pkg).toNat ≤
      (hundredths pkg).toNat / 11 * 11 + 10)
  constructor <;> linarith

/-- A point's angle, to a part in two to the 21st. -/
theorem uncut_near (pkg : LiDARFrame) (i : Nat) :
    let exact : R := pkg.startAngle.toNat / 100 +
      i * (((hundredths pkg).toNat / 11 : Nat) / 100)
    exact - exact / 2 ^ 21 ≤ uncut pkg i ∧
      uncut pkg i ≤ exact + exact / 2 ^ 21 := by
  have hundred : (100.0 : R) = 100 := by norm_num
  have whole : pointPerPack - 1 = 11 := rfl
  have index : (0 : R) ≤ i := Nat.cast_nonneg _
  have start : (0 : R) ≤ pkg.startAngle.toNat / 100 := by positivity
  have part : (0 : R) ≤ ((hundredths pkg).toNat / 11 : Nat) / 100 := by
    positivity
  obtain ⟨startLower, startUpper⟩ := single_double_bounds start
  obtain ⟨partLower, partUpper⟩ := single_double_bounds part
  have first := single_nonneg (double_nonneg start)
  have steps := mul_nonneg index (single_nonneg (double_nonneg part))
  obtain ⟨stepsLower, stepsUpper⟩ := single_bounds steps
  obtain ⟨sumLower, sumUpper⟩ :=
    single_bounds (add_nonneg first (single_nonneg steps))
  have least := mul_le_mul_of_nonneg_left partLower index
  have most := mul_le_mul_of_nonneg_left partUpper index
  have turned := mul_nonneg index part
  simp only [uncut, step, hundred, whole]
  constructor <;> linarith

/-- A point's angle is on the circle, and to a thousandth of a degree what the
packet's first angle and the whole hundredths between its points make. -/
theorem angle_near
    (platform : LidarPlatform R)
    {pkg : LiDARFrame}
    (lastPkgTimestamp currentPackStamp : BitVec 64)
    (starts : pkg.startAngle.toNat < 36000)
    (i : Fin pointPerPack) :
    let reached := point platform pkg lastPkgTimestamp currentPackStamp i
    let exact : R := pkg.startAngle.toNat / 100 +
      (i : Nat) * (((hundredths pkg).toNat / 11 : Nat) / 100)
    reached.angle < 360 ∧
      ∃ turns : Nat, |reached.angle + turns * 360 - exact| ≤ 1 / 1000 := by
  have turn : (360.0 : R) = 360 := by norm_num
  have first : (pkg.startAngle.toNat : R) / 100 ≤ 35999 / 100 := by
    have : (pkg.startAngle.toNat : R) ≤ 35999 := by
      exact_mod_cast Nat.le_of_lt_succ starts
    linarith
  have part : (((hundredths pkg).toNat / 11 : Nat) : R) ≤ 3272 := by
    have small : (hundredths pkg).toNat < 36000 := by
      have bounded := Int.emod_lt_of_pos
        ((pkg.endAngle.toNat : Int) - pkg.startAngle.toNat)
        (show (0 : Int) < 36000 by decide)
      rw [← hundredths_eq starts] at bounded
      exact_mod_cast bounded
    exact_mod_cast (by omega : (hundredths pkg).toNat / 11 ≤ 3272)
  have turns : ((i : Nat) : R) ≤ 11 := by
    exact_mod_cast Nat.le_of_lt_succ i.isLt
  have steps := mul_le_mul turns (div_le_div_of_nonneg_right part
    (by norm_num : (0 : R) ≤ 100)) (by positivity) (by norm_num)
  obtain ⟨lower, upper⟩ := uncut_near (R := R) pkg i
  simp only [point, turn]
  split
  next beyond =>
    obtain ⟨cutLower, cutUpper⟩ := single_double_bounds (sub_nonneg.mpr beyond)
    refine ⟨by linarith, 1, ?_⟩
    rw [abs_le]
    push_cast
    constructor <;> linarith
  next inside =>
    refine ⟨not_le.mp inside, 0, ?_⟩
    rw [abs_le]
    push_cast
    constructor <;> linarith [not_le.mp inside]

/-- The time stamp of a point by even interpolation between two packets. -/
def evenStamp (lastPkgTimestamp currentPackStamp : BitVec 64) (i : Nat) : R :=
  lastPkgTimestamp.toNat +
    ((currentPackStamp.toNat : R) - lastPkgTimestamp.toNat) / 11 * i

omit [FloorRing R] in
theorem evenStamp_bounds
    {lastPkgTimestamp currentPackStamp : BitVec 64}
    (later : lastPkgTimestamp.toNat ≤ currentPackStamp.toNat)
    {i : Nat}
    (index : i ≤ 11) :
    0 ≤ (evenStamp lastPkgTimestamp currentPackStamp i : R) ∧
      (evenStamp lastPkgTimestamp currentPackStamp i : R) ≤
        currentPackStamp.toNat := by
  have apart : (lastPkgTimestamp.toNat : R) ≤ currentPackStamp.toNat := by
    exact_mod_cast later
  have turns : (i : R) ≤ 11 := by exact_mod_cast index
  have first : (0 : R) ≤ ((currentPackStamp.toNat : R) -
      lastPkgTimestamp.toNat) / 11 := by linarith
  have reached := mul_le_mul_of_nonneg_left turns first
  unfold evenStamp
  constructor
  · positivity
  · linarith

/-- A point's time stamp, to a part in two to the 50th. -/
theorem exactStamp_near
    {lastPkgTimestamp currentPackStamp : BitVec 64}
    (later : lastPkgTimestamp.toNat ≤ currentPackStamp.toNat)
    (i : Nat) :
    let even : R := evenStamp lastPkgTimestamp currentPackStamp i
    even - even / 2 ^ 50 ≤ exactStamp lastPkgTimestamp currentPackStamp i ∧
      exactStamp lastPkgTimestamp currentPackStamp i ≤ even + even / 2 ^ 50 := by
  have difference : (currentPackStamp - lastPkgTimestamp).toNat =
      currentPackStamp.toNat - lastPkgTimestamp.toNat := by
    have := currentPackStamp.isLt
    have := lastPkgTimestamp.isLt
    rw [BitVec.toNat_sub]
    omega
  have whole : pointPerPack - 1 = 11 := rfl
  have eleven : ((11 : Nat) : R) = 11 := by norm_num
  have apart : (0 : R) ≤ currentPackStamp.toNat - lastPkgTimestamp.toNat := by
    rw [sub_nonneg]
    exact_mod_cast later
  have index : (0 : R) ≤ i := Nat.cast_nonneg _
  have begun : (0 : R) ≤ lastPkgTimestamp.toNat := Nat.cast_nonneg _
  simp only [exactStamp, packStampPointStep, evenStamp, difference, whole,
    eleven, Nat.cast_sub later]
  generalize (currentPackStamp.toNat : R) - lastPkgTimestamp.toNat = passed
    at *
  generalize (lastPkgTimestamp.toNat : R) = last at *
  obtain ⟨lastLower, lastUpper⟩ := double_bounds begun
  obtain ⟨passedLower, passedUpper⟩ := double_bounds apart
  have eleventh := div_nonneg (double_nonneg apart) (by norm_num : (0 : R) ≤ 11)
  obtain ⟨stepLower, stepUpper⟩ := double_bounds eleventh
  have steps := mul_nonneg (double_nonneg eleventh) index
  obtain ⟨stepsLower, stepsUpper⟩ := double_bounds steps
  obtain ⟨sumLower, sumUpper⟩ :=
    double_bounds (add_nonneg (double_nonneg begun) (double_nonneg steps))
  have least := mul_le_mul_of_nonneg_right
    (show passed / 11 - passed / 11 / 2 ^ 51 ≤ double (double passed / 11) by
      linarith) index
  have most := mul_le_mul_of_nonneg_right
    (show double (double passed / 11) ≤ passed / 11 + passed / 11 / 2 ^ 51 by
      linarith) index
  have turned : 0 ≤ passed / 11 * i := by positivity
  constructor <;> linarith

/-- The conversion of a time before the year 2262 is defined. -/
theorem stamp_eq
    (platform : LidarPlatform R)
    (pkg : LiDARFrame)
    {lastPkgTimestamp currentPackStamp : BitVec 64}
    (later : lastPkgTimestamp.toNat ≤ currentPackStamp.toNat)
    (early : currentPackStamp.toNat < 2 ^ 63)
    (i : Fin pointPerPack) :
    ((point platform pkg lastPkgTimestamp currentPackStamp i).stamp.toNat :
        Int) = ⌊(exactStamp lastPkgTimestamp currentPackStamp i : R)⌋ := by
  obtain ⟨nonnegative, reached⟩ := evenStamp_bounds (R := R) later
    (Nat.le_of_lt_succ i.isLt)
  obtain ⟨lower, upper⟩ := exactStamp_near (R := R) later i
  have bound : (currentPackStamp.toNat : R) < 2 ^ 63 := by
    exact_mod_cast early
  have positive : (0 : R) ≤ exactStamp lastPkgTimestamp currentPackStamp i := by
    linarith
  have small : ⌊(exactStamp lastPkgTimestamp currentPackStamp i : R)⌋ <
      2 ^ 64 := by
    rw [Int.floor_lt]
    push_cast
    linarith
  have truncated : truncate (exactStamp lastPkgTimestamp currentPackStamp i) =
      ⌊(exactStamp lastPkgTimestamp currentPackStamp i : R)⌋ :=
    if_pos positive
  rw [← truncated] at small ⊢
  apply platform.cast.toUInt64_eq _ _ small
  rw [truncated]
  exact Int.floor_nonneg.mpr positive

theorem exactStamp_mono
    {lastPkgTimestamp currentPackStamp : BitVec 64}
    {i j : Nat}
    (before : i ≤ j) :
    (exactStamp lastPkgTimestamp currentPackStamp i : R) ≤
      exactStamp lastPkgTimestamp currentPackStamp j := by
  have between : (i : R) ≤ j := by exact_mod_cast before
  have step : (0 : R) ≤
      packStampPointStep lastPkgTimestamp currentPackStamp :=
    double_nonneg (div_nonneg (double_nonneg (Nat.cast_nonneg _))
      (Nat.cast_nonneg _))
  apply double_mono
  apply add_le_add_right
  exact double_mono (mul_le_mul_of_nonneg_left between step)

/-- The points of a packet that begins on the circle and does not come before
the last one.  Their angles are on the circle, and run from the packet's first
to its last by even steps, short of these by a tenth of a degree at most, to a
thousandth.  Their stamps do not decrease, and run from the last packet's time
to this one's by even steps, to a nanosecond and a part in two to the 50th: a
microsecond and a half at the times of today. -/
theorem points_interpolate
    (platform : LidarPlatform R)
    (pkg : LiDARFrame)
    (lastPkgTimestamp currentPackStamp : BitVec 64)
    (starts : pkg.startAngle.toNat < 36000)
    (later : lastPkgTimestamp.toNat ≤ currentPackStamp.toNat)
    (early : currentPackStamp.toNat < 2 ^ 63) :
    (points platform pkg lastPkgTimestamp currentPackStamp).Pairwise
        (fun first second => first.stamp.toNat ≤ second.stamp.toNat) ∧
      ∀ i : Fin pointPerPack,
        let reached := point platform pkg lastPkgTimestamp currentPackStamp i
        let sweep : R :=
          (((pkg.endAngle.toNat : Int) - pkg.startAngle.toNat) % 36000 : Int) /
            100
        let even : R := pkg.startAngle.toNat / 100 + (i : Nat) * (sweep / 11)
        (0 ≤ reached.angle ∧ reached.angle < 360) ∧
          (∃ turns : Nat,
            reached.angle + turns * 360 ≤ even + 1 / 1000 ∧
              even ≤ reached.angle + turns * 360 + 1 / 10 + 1 / 1000) ∧
          |(reached.stamp.toNat : R) -
              evenStamp lastPkgTimestamp currentPackStamp i| ≤
            1 + currentPackStamp.toNat / 2 ^ 50 := by
  constructor
  · rw [points, List.pairwise_ofFn]
    intro i j before
    zify
    rw [stamp_eq platform pkg later early, stamp_eq platform pkg later early]
    exact Int.floor_le_floor (exactStamp_mono before.le)
  · intro i
    dsimp only
    have turns : ((i : Nat) : R) ≤ 11 := by
      exact_mod_cast Nat.le_of_lt_succ i.isLt
    have index : (0 : R) ≤ (i : Nat) := Nat.cast_nonneg _
    obtain ⟨onCircle, taken, near⟩ :=
      angle_near platform lastPkgTimestamp currentPackStamp starts i
    refine ⟨⟨angle_nonneg .., onCircle⟩, ⟨taken, ?_⟩, ?_⟩
    · obtain ⟨short, missed⟩ := hundredths_bounds (R := R) pkg
      have sweep : ((((pkg.endAngle.toNat : Int) - pkg.startAngle.toNat) %
          36000 : Int) : R) = (hundredths pkg).toNat := by
        rw [← hundredths_eq starts, Int.cast_natCast]
      have under := mul_le_mul_of_nonneg_left short index
      have above := mul_le_mul_of_nonneg_left missed index
      obtain ⟨lower, upper⟩ := abs_le.mp near
      rw [sweep]
      constructor <;> linarith
    · obtain ⟨nonnegative, reached⟩ := evenStamp_bounds (R := R) later
        (Nat.le_of_lt_succ i.isLt)
      obtain ⟨lower, upper⟩ := exactStamp_near (R := R) later i
      have stamped : ((point platform pkg lastPkgTimestamp currentPackStamp
          i).stamp.toNat : R) =
            (⌊(exactStamp lastPkgTimestamp currentPackStamp i : R)⌋ : R) := by
        exact_mod_cast congrArg (Int.cast (R := R))
          (stamp_eq platform pkg later early i)
      have below := Int.floor_le
        (exactStamp lastPkgTimestamp currentPackStamp i : R)
      have above := Int.lt_floor_add_one
        (exactStamp lastPkgTimestamp currentPackStamp i : R)
      rw [stamped, abs_le]
      constructor <;> linarith

/-- A reading all around, three milliseconds after the last. -/
theorem points_interpolate_metreAround :
    (points (.insertion ℚ) Analysis.metreAround 1750000000000000100
        1750000000003000100).Pairwise
      (fun first second => first.stamp.toNat ≤ second.stamp.toNat) ∧
    ∀ i : Fin pointPerPack,
      let reached := point (.insertion ℚ) Analysis.metreAround
        1750000000000000100 1750000000003000100 i
      (0 ≤ reached.angle ∧ reached.angle < 360) ∧
        |(reached.stamp.toNat : ℚ) - (1750000000000000100 +
          3000000 / 11 * (i : Nat))| ≤ 1 + 1750000000003000100 / 2 ^ 50 := by
  obtain ⟨stamps, each⟩ := points_interpolate (.insertion ℚ)
    Analysis.metreAround 1750000000000000100 1750000000003000100 (by decide)
    (by decide) (by decide)
  refine ⟨stamps, fun i => ?_⟩
  obtain ⟨angles, -, near⟩ := each i
  refine ⟨angles, ?_⟩
  have even : (evenStamp 1750000000000000100 1750000000003000100 i : ℚ) =
      1750000000000000100 + 3000000 / 11 * (i : Nat) := by
    simp [evenStamp]
    norm_num
  rw [even] at near
  exact near

/-- A `double` holds the time as a multiple of 256 nanoseconds: the first point
is stamped before the packet that it follows. -/
example : ((points (.insertion ℚ) Analysis.metreAround 1750000000000000100
    1750000000003000100).map fun point => point.stamp).take 2 =
      [1750000000000000000, 1750000000000272640] := by
  decide +kernel

end LiPkg
end Skatebot
