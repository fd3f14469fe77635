import Skatebot.Lidar.LiPkg

/-!
# Frames and the points they are made of

The accepted packets make points, and `LiPkg::AssemblePacket` cuts the points
into stretches: a stretch becomes a frame or is given up, and what comes after
it stays for the next.  So no point is lost before it can become part of a
frame, and none becomes part of two.
-/

namespace Skatebot

open Library

/-- The packets that the analysis accepts, each with the time at which its last
byte is handled. -/
def Analysis.acceptedAt (analysis : Analysis) :
    List (BitVec 8 × BitVec 64) → List (LiDARFrame × BitVec 64)
  | [] => []
  | (byte, now) :: data =>
      let (found, next) := analysis.analysisOne byte
      if found then (next.pkg, now) :: next.acceptedAt data
      else next.acceptedAt data

theorem Analysis.acceptedAt_cons
    (analysis : Analysis)
    (byte : BitVec 8)
    (now : BitVec 64)
    (data : List (BitVec 8 × BitVec 64)) :
    analysis.acceptedAt ((byte, now) :: data) =
      if (analysis.analysisOne byte).1 then
        ((analysis.analysisOne byte).2.pkg, now) ::
          (analysis.analysisOne byte).2.acceptedAt data
      else (analysis.analysisOne byte).2.acceptedAt data := rfl

theorem Analysis.acceptedAt_append
    (analysis : Analysis) (first second : List (BitVec 8 × BitVec 64)) :
    analysis.acceptedAt (first ++ second) =
      analysis.acceptedAt first ++
        (analysis.after (first.map Prod.fst)).acceptedAt second := by
  induction first generalizing analysis with
  | nil => rfl
  | cons received first inductionHypothesis =>
      obtain ⟨byte, now⟩ := received
      rw [List.cons_append, acceptedAt_cons, acceptedAt_cons,
        inductionHypothesis, List.map_cons, after_cons]
      split <;> rfl

/-- They are the accepted packets. -/
theorem Analysis.map_acceptedAt
    (analysis : Analysis) (data : List (BitVec 8 × BitVec 64)) :
    (analysis.acceptedAt data).map Prod.fst =
      analysis.accepted (data.map Prod.fst) := by
  induction data generalizing analysis with
  | nil => rfl
  | cons received data inductionHypothesis =>
      obtain ⟨byte, now⟩ := received
      rw [acceptedAt_cons, List.map_cons, accepted_cons]
      split
      · rw [List.map_cons, inductionHypothesis]
      · exact inductionHypothesis _

namespace LiPkg

variable {R : Type} [Field R] [LinearOrder R] [FloorRing R]

/-! ## The points of packets -/

/-- The time of the last packet that was fast enough. -/
def lastTime (R : Type) [Field R] [LinearOrder R] [FloorRing R]
    (measurePointFrequence : Nat) (last : BitVec 64)
    (packages : List (LiDARFrame × BitVec 64)) : BitVec 64 :=
  packages.foldl
    (fun last (pkg, now) =>
      if FastEnough R measurePointFrequence pkg then now else last) last

/-- The points that packets make: none of one that is too slow, nor of the
first one after the start, from which only the time is taken; of every other
its twelve points, between the time of the packet before it and its own. -/
def pointsOf (platform : LidarPlatform R) (measurePointFrequence : Nat)
    (last : BitVec 64) : List (LiDARFrame × BitVec 64) → List (PointData R)
  | [] => []
  | (pkg, now) :: packages =>
      if FastEnough R measurePointFrequence pkg then
        (if last = 0 then [] else points platform pkg last now) ++
          pointsOf platform measurePointFrequence now packages
      else pointsOf platform measurePointFrequence last packages

theorem pointsOf_append
    (platform : LidarPlatform R)
    (measurePointFrequence : Nat)
    (last : BitVec 64)
    (first second : List (LiDARFrame × BitVec 64)) :
    pointsOf platform measurePointFrequence last (first ++ second) =
      pointsOf platform measurePointFrequence last first ++
        pointsOf platform measurePointFrequence
          (lastTime R measurePointFrequence last first) second := by
  induction first generalizing last with
  | nil => rfl
  | cons package first inductionHypothesis =>
      obtain ⟨pkg, now⟩ := package
      simp only [List.cons_append, pointsOf, lastTime, List.foldl_cons]
      split
      · rw [inductionHypothesis, List.append_assoc]
        rfl
      · exact inductionHypothesis last

theorem lastTime_append
    (measurePointFrequence : Nat)
    (last : BitVec 64)
    (first second : List (LiDARFrame × BitVec 64)) :
    lastTime R measurePointFrequence last (first ++ second) =
      lastTime R measurePointFrequence
        (lastTime R measurePointFrequence last first) second :=
  List.foldl_append

/-- A point comes from one of the packets. -/
theorem exists_of_mem_pointsOf
    {platform : LidarPlatform R}
    {measurePointFrequence : Nat}
    {last : BitVec 64}
    {packages : List (LiDARFrame × BitVec 64)}
    {reached : PointData R}
    (member : reached ∈ pointsOf platform measurePointFrequence last packages) :
    ∃ pkg ∈ packages.map Prod.fst, ∃ lastPkgTimestamp currentPackStamp,
      reached ∈ points platform pkg lastPkgTimestamp currentPackStamp := by
  induction packages generalizing last with
  | nil => exact absurd member List.not_mem_nil
  | cons package packages inductionHypothesis =>
      obtain ⟨pkg, now⟩ := package
      have later : (∃ pkg ∈ packages.map Prod.fst,
          ∃ lastPkgTimestamp currentPackStamp,
            reached ∈ points platform pkg lastPkgTimestamp currentPackStamp) →
          ∃ found ∈ ((pkg, now) :: packages).map Prod.fst,
            ∃ lastPkgTimestamp currentPackStamp, reached ∈
              points platform found lastPkgTimestamp currentPackStamp :=
        fun ⟨found, inside, source⟩ =>
          ⟨found, List.mem_cons_of_mem _ inside, source⟩
      rw [pointsOf] at member
      split at member
      · rcases List.mem_append.mp member with here | there
        · split at here
          · exact absurd here List.not_mem_nil
          · exact ⟨pkg, List.mem_cons_self, last, now, here⟩
        · exact later (inductionHypothesis there)
      · exact later (inductionHypothesis member)

theorem takePackage_eq
    (platform : LidarPlatform R) (lidar : LiPkg R)
    (pkg : LiDARFrame) (now : BitVec 64) :
    ∃ speed timestamp, lidar.takePackage platform pkg now =
      { lidar with
        isPoweronCommNormal := true
        speed := speed
        timestamp := timestamp
        frameTmp := lidar.frameTmp ++ pointsOf platform
          lidar.measurePointFrequence lidar.lastPkgTimestamp [(pkg, now)]
        lastPkgTimestamp := lastTime R lidar.measurePointFrequence
          lidar.lastPkgTimestamp [(pkg, now)] } := by
  simp only [takePackage, pointsOf, lastTime, List.foldl_cons, List.foldl_nil,
    List.append_nil]
  split_ifs
  · exact ⟨lidar.speed, lidar.timestamp, by rw [List.append_nil]⟩
  · exact ⟨pkg.speed, pkg.timestamp, rfl⟩
  · exact ⟨lidar.speed, lidar.timestamp, by rw [List.append_nil]⟩

/-- What a parse does: it adds the points of the packets that it finds. -/
theorem parse_eq
    (platform : LidarPlatform R) (lidar : LiPkg R)
    (data : List (BitVec 8 × BitVec 64)) :
    ∃ isPoweronCommNormal speed timestamp, lidar.parse platform data =
      { lidar with
        isPoweronCommNormal := isPoweronCommNormal
        speed := speed
        timestamp := timestamp
        analysis := lidar.analysis.after (data.map Prod.fst)
        frameTmp := lidar.frameTmp ++ pointsOf platform
          lidar.measurePointFrequence lidar.lastPkgTimestamp
          (lidar.analysis.acceptedAt data)
        lastPkgTimestamp := lastTime R lidar.measurePointFrequence
          lidar.lastPkgTimestamp (lidar.analysis.acceptedAt data) } := by
  induction data generalizing lidar with
  | nil =>
      refine ⟨lidar.isPoweronCommNormal, lidar.speed, lidar.timestamp, ?_⟩
      simp [parse, Analysis.acceptedAt, Analysis.after, pointsOf, lastTime]
  | cons received data inductionHypothesis =>
      obtain ⟨byte, now⟩ := received
      have parsed : lidar.parse platform ((byte, now) :: data) =
          (lidar.parseOne platform (byte, now)).parse platform data := rfl
      rw [parsed, List.map_cons, Analysis.after_cons, Analysis.acceptedAt_cons]
      cases found : (lidar.analysis.analysisOne byte).1 with
      | false =>
          have one : lidar.parseOne platform (byte, now) =
              { lidar with
                analysis := (lidar.analysis.analysisOne byte).2 } := by
            simp [parseOne, found]
          obtain ⟨isPoweronCommNormal, speed, timestamp, same⟩ :=
            inductionHypothesis { lidar with
              analysis := (lidar.analysis.analysisOne byte).2 }
          rw [one, same]
          exact ⟨isPoweronCommNormal, speed, timestamp, rfl⟩
      | true =>
          let analysed : LiPkg R :=
            { lidar with analysis := (lidar.analysis.analysisOne byte).2 }
          have one : lidar.parseOne platform (byte, now) =
              analysed.takePackage platform analysed.analysis.pkg now := by
            simp [parseOne, found, analysed]
          obtain ⟨first, second, taken⟩ :=
            analysed.takePackage_eq platform analysed.analysis.pkg now
          obtain ⟨isPoweronCommNormal, speed, timestamp, same⟩ :=
            inductionHypothesis
              (analysed.takePackage platform analysed.analysis.pkg now)
          have more := pointsOf_append platform
            lidar.measurePointFrequence lidar.lastPkgTimestamp
            [(analysed.analysis.pkg, now)] (analysed.analysis.acceptedAt data)
          have later := lastTime_append (R := R) lidar.measurePointFrequence
            lidar.lastPkgTimestamp [(analysed.analysis.pkg, now)]
            (analysed.analysis.acceptedAt data)
          rw [List.singleton_append] at more later
          rw [one, same, taken, if_pos rfl, more, later, ← List.append_assoc]
          exact ⟨isPoweronCommNormal, speed, timestamp, rfl⟩

/-! ## One assembly -/

/-- The lidar does not come round among the points. -/
def OneTurn (points : List (PointData R)) : Prop :=
  points.IsChain fun last n => ¬Wraps last.angle n.angle

/-- The lidar comes round behind so many points. -/
def TurnEnds (points : List (PointData R)) (count : Nat) : Prop :=
  ∃ lastPoint nextPoint, (points.take count).getLast? = some lastPoint ∧
    points[count]? = some nextPoint ∧
      Wraps lastPoint.angle nextPoint.angle

/-- No turn is complete among the points, or nothing is left of the first one
by the filter. -/
def Incomplete (platform : LidarPlatform R) (lidar : LiPkg R) : Prop :=
  ∀ count, TurnEnds lidar.frameTmp count →
    OneTurn (lidar.frameTmp.take count) →
      lidar.frameOf platform (lidar.frameTmp.take count) = []

omit [Field R] [LinearOrder R] [FloorRing R] in
theorem erase_eq (lidar : LiPkg R) (count : Nat) :
    lidar.erase count =
      { lidar with frameTmp := lidar.frameTmp.drop count } := by
  unfold erase
  split
  next all => rw [List.drop_eq_nil_of_le all]
  next => rfl

omit [Field R] [LinearOrder R] [FloorRing R] in
@[simp] theorem setFrame_frameTmp
    (lidar : LiPkg R) (tmp : List (PointData R)) :
    (lidar.setFrame tmp).frameTmp = lidar.frameTmp := by
  unfold setFrame
  split <;> rfl

/-- What an assembly does: it waits for more points; or it gives up the first
points, which are too many for a turn; or it makes a frame of the points up to
where the lidar comes round. -/
inductive Assembled (platform : LidarPlatform R) (lidar : LiPkg R) :
    LiPkg R → Prop
  | waiting (incomplete : lidar.Incomplete platform) :
      Assembled platform lidar lidar
  | dropped (count : Nat)
      (within : count ≤ lidar.frameTmp.length)
      (positive : 0 < count)
      (tooMany : lidar.TooMany count) :
      Assembled platform lidar (lidar.erase count)
  | framed (count : Nat) (data : List (PointData R))
      (ends : TurnEnds lidar.frameTmp count)
      (few : ¬lidar.TooMany count)
      (members : ∀ point ∈ data, point ∈ lidar.frameTmp.take count)
      (whole : OneTurn (lidar.frameTmp.take count) →
        data = lidar.frameTmp.take count)
      (nonempty : lidar.frameOf platform data ≠ []) :
      Assembled platform lidar
        ((lidar.setFrame (lidar.frameOf platform data)).erase count)

variable [IsStrictOrderedRing R]

/-- What is more than two turns is more than one and four tenths. -/
theorem tooMany_of_twoTurns
    {lidar : LiPkg R}
    {count : Nat}
    (twoTurns : double (count * lidar.getSpeed) >
      ((lidar.measurePointFrequence * 2 : Nat) : R)) :
    lidar.TooMany count := by
  have factor : double (1.4 : R) ≤ 3 / 2 := by
    obtain ⟨-, upper⟩ := double_bounds (show (0 : R) ≤ 1.4 by norm_num)
    linarith
  have frequency : (0 : R) ≤ lidar.measurePointFrequence := Nat.cast_nonneg _
  have most := mul_le_mul_of_nonneg_left factor frequency
  have product := mul_nonneg frequency
    (double_nonneg (show (0 : R) ≤ 1.4 by norm_num))
  obtain ⟨-, upper⟩ := double_bounds product
  refine lt_of_le_of_lt ?_ twoTurns
  push_cast
  linarith

theorem assembleFrom_assembled
    (platform : LidarPlatform R)
    (lidar : LiPkg R)
    (lastAngle : R)
    (front data rest : List (PointData R))
    (split : lidar.frameTmp = front ++ rest)
    (last : lastAngle = (front.getLast?.map PointData.angle).getD 0)
    (members : ∀ point ∈ data, point ∈ front)
    (whole : OneTurn front → data = [])
    (passed : ∀ count < front.length, TurnEnds lidar.frameTmp count →
      OneTurn (lidar.frameTmp.take count) →
        lidar.frameOf platform (lidar.frameTmp.take count) = []) :
    Assembled platform lidar
      (lidar.assembleFrom platform lastAngle data front.length rest).2 := by
  induction rest generalizing lastAngle front data with
  | nil =>
      apply Assembled.waiting
      intro count ends
      apply passed count _ ends
      obtain ⟨-, nextPoint, -, next, -⟩ := ends
      rw [split, List.append_nil] at next
      exact (List.getElem?_eq_some_iff.mp next).1
  | cons n rest inductionHypothesis =>
      have taken : lidar.frameTmp.take front.length = front := by
        rw [split, List.take_left]
      have reached : lidar.frameTmp[front.length]? = some n := by
        rw [split, List.getElem?_append_right le_rfl, Nat.sub_self]
        rfl
      have room : front.length + 1 ≤ lidar.frameTmp.length := by
        rw [split, List.length_append, List.length_cons]
        omega
      have going : ∀ data : List (PointData R),
          (∀ point ∈ data, point ∈ front) →
          (OneTurn (front ++ [n]) → data = []) →
          (TurnEnds lidar.frameTmp front.length → OneTurn front →
            lidar.frameOf platform front = []) →
          Assembled platform lidar
            (if double ((front.length + 1 : Nat) * lidar.getSpeed) >
                ((lidar.measurePointFrequence * 2 : Nat) : R) then
              (false, lidar.erase (front.length + 1))
            else lidar.assembleFrom platform n.angle data
              (front.length + 1) rest).2 := by
        intro data members whole here
        split_ifs with tooMany
        · exact .dropped _ room (Nat.succ_pos _) (tooMany_of_twoTurns tooMany)
        · have more := inductionHypothesis n.angle (front ++ [n]) data
            (by simp [split]) (by simp)
            (fun point member => List.mem_append_left _
              (members point member)) whole
            (fun count before ends turn => by
              rw [List.length_append, List.length_singleton] at before
              rcases Nat.lt_succ_iff_lt_or_eq.mp before with earlier | equal
              · exact passed count earlier ends turn
              · subst equal
                rw [taken] at turn ⊢
                exact here ends turn)
          rwa [List.length_append] at more
      unfold assembleFrom
      dsimp only
      by_cases wraps : Wraps lastAngle n.angle
      · obtain ⟨lastPoint, ended, rfl⟩ : ∃ lastPoint,
            front.getLast? = some lastPoint ∧ lastPoint.angle = lastAngle := by
          cases ended : front.getLast? with
          | none =>
              rw [ended] at last
              have beyond := wraps.2
              rw [last] at beyond
              norm_num at beyond
          | some lastPoint =>
              rw [ended] at last
              exact ⟨lastPoint, rfl, last.symm⟩
        have nonempty : 0 < front.length := by
          apply List.length_pos_of_mem
          exact List.mem_of_getLast? ended
        rw [if_pos wraps]
        by_cases tooMany : lidar.TooMany front.length
        · rw [if_pos tooMany]
          exact .dropped _ (Nat.le_of_succ_le room) nonempty tooMany
        · have inFront : ∀ point ∈ front ++ data, point ∈ front := by
            intro point member
            rcases List.mem_append.mp member with here | there
            · exact here
            · exact members point there
          rw [if_neg tooMany, taken]
          by_cases found : (lidar.frameOf platform (front ++ data)).length > 0
          · rw [if_pos found]
            refine .framed front.length (front ++ data)
              ⟨lastPoint, n, ?_, reached, wraps⟩ tooMany ?_ ?_
              (List.ne_nil_of_length_pos found)
            · rw [taken, ended]
            · rwa [taken]
            · rw [taken]
              intro turn
              rw [whole turn, List.append_nil]
          · rw [if_neg found]
            apply going (front ++ data) inFront
            · intro turn
              have apart :=
                (List.isChain_append.mp turn).2.2 lastPoint ended n rfl
              exact absurd wraps apart
            · intro _ turn
              rw [whole turn, List.append_nil] at found
              exact List.eq_nil_of_length_eq_zero (by omega)
      · rw [if_neg wraps]
        apply going data members
        · intro turn
          exact whole (List.isChain_append.mp turn).1
        · rintro ⟨lastPoint, nextPoint, ended, next, comes⟩
          obtain rfl := Option.some_inj.mp (next.symm.trans reached)
          rw [taken] at ended
          rw [last, ended] at wraps
          exact absurd comes wraps

/-- An assembly does one of three things. -/
theorem assemblePacket_assembled
    (platform : LidarPlatform R) (lidar : LiPkg R) :
    Assembled platform lidar (lidar.assemblePacket platform).2 :=
  lidar.assembleFrom_assembled platform 0 [] [] lidar.frameTmp rfl rfl
    (List.forall_mem_nil _) (fun _ => rfl)
    (fun _ before => absurd before (Nat.not_lt_zero _))

/-! ## A run -/

/-- What `LiPkg::CommReadCallback` has been called with, one call each. -/
abbrev Reads := List (List (BitVec 8 × BitVec 64))

omit [IsStrictOrderedRing R] in
/-- The lidar after the calls. -/
def after (platform : LidarPlatform R) (lidar : LiPkg R) (reads : Reads) :
    LiPkg R :=
  reads.foldl (commReadCallback platform) lidar

/-- A frame that is made of a stretch of points.  Each of its points comes
from the stretch, which ends where the lidar comes round; a stretch of one turn
is the frame's whole input. -/
structure IsFrame (platform : LidarPlatform R) (lidar : LiPkg R)
    (stretch frame : List (PointData R)) : Prop where
  nonempty : frame ≠ []
  inOrder : frame.Pairwise fun first second =>
    first.stamp.toNat ≤ second.stamp.toNat
  origin : ∀ left ∈ frame, ∃ point ∈ stretch, Tofbf.KeptOrMasked point left
  ended : ∃ last, stretch.getLast? = some last ∧ last.angle > 340.0
  whole : OneTurn stretch → ∃ speed,
    frame = frameOf platform { lidar with speed := speed } stretch

/-- A stretch of points is cut off with the frame that is made of it, or without
one where it has too many points for a turn. -/
def IsCut (platform : LidarPlatform R) (lidar : LiPkg R) :
    List (PointData R) × Option (List (PointData R)) → Prop
  | (stretch, some frame) => IsFrame platform lidar stretch frame
  | (stretch, none) =>
      ∃ speed, TooMany { lidar with speed := speed } stretch.length

/-- How the points that the packets make are cut up after some bytes.  The first
frame that is made is passed over. -/
structure CutUp (platform : LidarPlatform R) (started lidar : LiPkg R)
    (data : List (BitVec 8 × BitVec 64)) : Prop where
  isFilter : lidar.isFilter = started.isFilter
  productType : lidar.productType = started.productType
  measurePointFrequence :
    lidar.measurePointFrequence = started.measurePointFrequence
  analysis : lidar.analysis = started.analysis.after (data.map Prod.fst)
  lastPkgTimestamp : lidar.lastPkgTimestamp =
    lastTime R started.measurePointFrequence started.lastPkgTimestamp
      (started.analysis.acceptedAt data)
  cut : ∃ cuts : List (List (PointData R) × Option (List (PointData R))),
    pointsOf platform started.measurePointFrequence started.lastPkgTimestamp
        (started.analysis.acceptedAt data) =
      (cuts.map Prod.fst).flatten ++ lidar.frameTmp ∧
    (∀ cut ∈ cuts, IsCut platform started cut) ∧
    lidar.firstFrame = (cuts.filterMap Prod.snd).isEmpty ∧
    lidar.frames.reverse = (cuts.filterMap Prod.snd).tail

omit [IsStrictOrderedRing R] in
/-- Nothing is cut up at the start. -/
theorem CutUp.start
    (platform : LidarPlatform R)
    {started : LiPkg R}
    (firstFrame : started.firstFrame = true)
    (frameTmp : started.frameTmp = [])
    (frames : started.frames = []) :
    CutUp platform started started [] :=
  ⟨rfl, rfl, rfl, rfl, rfl, [], frameTmp.symm, List.forall_mem_nil _,
    firstFrame, congrArg List.reverse frames⟩

omit [IsStrictOrderedRing R] in
theorem frameOf_congr
    (platform : LidarPlatform R)
    {lidar other : LiPkg R}
    (isFilter : lidar.isFilter = other.isFilter)
    (productType : lidar.productType = other.productType)
    (data : List (PointData R)) :
    lidar.frameOf platform data =
      frameOf platform { other with speed := lidar.speed } data := by
  simp only [frameOf, isFilter, productType]

omit [IsStrictOrderedRing R] in
theorem mem_frameOf
    (platform : LidarPlatform R)
    (lidar : LiPkg R)
    {data : List (PointData R)}
    {left : PointData R}
    (member : left ∈ lidar.frameOf platform data) :
    ∃ point ∈ data, Tofbf.KeptOrMasked point left := by
  rw [frameOf, Sorting.mem_sort] at member
  split at member
  next => exact Tofbf.filter_origin _ _ member
  next => exact ⟨left, member, Or.inl rfl⟩

omit [IsStrictOrderedRing R] in
theorem CutUp.assemble
    {platform : LidarPlatform R}
    {started lidar assembled : LiPkg R}
    {data : List (BitVec 8 × BitVec 64)}
    (cutUp : CutUp platform started lidar data)
    (step : Assembled platform lidar assembled) :
    CutUp platform started assembled data := by
  obtain ⟨cuts, all, each, firstFrame, frames⟩ := cutUp.cut
  cases step with
  | waiting => exact cutUp
  | dropped count within positive tooMany =>
      have length : (lidar.frameTmp.take count).length = count :=
        List.length_take_of_le within
      have many : TooMany { started with speed := lidar.speed }
          (lidar.frameTmp.take count).length := by
        rw [length]
        simpa only [TooMany, getSpeed, cutUp.measurePointFrequence]
          using tooMany
      rw [erase_eq]
      refine ⟨cutUp.isFilter, cutUp.productType,
        cutUp.measurePointFrequence, cutUp.analysis, cutUp.lastPkgTimestamp,
        cuts ++ [(lidar.frameTmp.take count, none)], ?_, ?_, ?_, ?_⟩
      · rw [all, List.map_append, List.map_singleton, List.flatten_concat,
          List.append_assoc, List.take_append_drop]
      · intro cut member
        rcases List.mem_append.mp member with before | new
        · exact each cut before
        · rw [List.mem_singleton.mp new]
          exact ⟨lidar.speed, many⟩
      · simpa using firstFrame
      · simpa using frames
  | framed count points ends few members whole nonempty =>
      let stretch := lidar.frameTmp.take count
      let frame := lidar.frameOf platform points
      obtain ⟨lastPoint, nextPoint, last, -, wraps⟩ := ends
      have made : IsFrame platform started stretch frame := by
        refine ⟨nonempty, platform.byStamp.sorted _, ?_,
          ⟨lastPoint, last, wraps.2⟩, ?_⟩
        · intro left member
          obtain ⟨point, inside, kept⟩ := lidar.mem_frameOf platform member
          exact ⟨point, members point inside, kept⟩
        · intro turn
          have all : points = stretch := whole turn
          rw [← all]
          refine ⟨lidar.speed, ?_⟩
          exact frameOf_congr platform cutUp.isFilter cutUp.productType points
      have cut : pointsOf platform started.measurePointFrequence
          started.lastPkgTimestamp (started.analysis.acceptedAt data) =
            ((cuts ++ [(stretch, some frame)]).map Prod.fst).flatten ++
              lidar.frameTmp.drop count := by
        rw [all, List.map_append, List.map_singleton, List.flatten_concat,
          List.append_assoc, List.take_append_drop]
      have sound : ∀ cut ∈ cuts ++ [(stretch, some frame)],
          IsCut platform started cut := by
        intro cut member
        rcases List.mem_append.mp member with before | new
        · exact each cut before
        · rw [List.mem_singleton.mp new]
          exact made
      rw [erase_eq, setFrame]
      -- the first frame is made and passed over
      by_cases first : lidar.firstFrame = true
      · rw [if_pos first]
        rw [first] at firstFrame
        have unmade := List.isEmpty_iff.mp firstFrame.symm
        refine ⟨cutUp.isFilter, cutUp.productType,
          cutUp.measurePointFrequence, cutUp.analysis, cutUp.lastPkgTimestamp,
          _, cut, sound, ?_, ?_⟩
        · simp
        · simpa [unmade] using frames
      · rw [if_neg first]
        have several : cuts.filterMap Prod.snd ≠ [] := by
          intro empty
          rw [empty] at firstFrame
          exact first firstFrame
        refine ⟨cutUp.isFilter, cutUp.productType,
          cutUp.measurePointFrequence, cutUp.analysis, cutUp.lastPkgTimestamp,
          _, cut, sound, ?_, ?_⟩
        · simp [setLaserScanData, first]
        · rw [setLaserScanData, List.reverse_cons, frames,
            List.filterMap_append, List.tail_append_of_ne_nil several]
          rfl

omit [IsStrictOrderedRing R] in
theorem CutUp.parse
    {platform : LidarPlatform R}
    {started lidar : LiPkg R}
    {before : List (BitVec 8 × BitVec 64)}
    (cutUp : CutUp platform started lidar before)
    (data : List (BitVec 8 × BitVec 64)) :
    CutUp platform started (lidar.parse platform data) (before ++ data) := by
  obtain ⟨_, _, _, parsed⟩ := lidar.parse_eq platform data
  obtain ⟨cuts, all, each, firstFrame, frames⟩ := cutUp.cut
  rw [parsed]
  refine ⟨cutUp.isFilter, cutUp.productType, cutUp.measurePointFrequence, ?_,
    ?_, cuts, ?_, each, firstFrame, frames⟩
  · rw [List.map_append, Analysis.after_append, ← cutUp.analysis]
  · rw [Analysis.acceptedAt_append, lastTime_append, ← cutUp.analysis,
      ← cutUp.lastPkgTimestamp, ← cutUp.measurePointFrequence]
  · rw [Analysis.acceptedAt_append, pointsOf_append, all, ← cutUp.analysis,
      ← cutUp.lastPkgTimestamp, ← cutUp.measurePointFrequence,
      List.append_assoc]

theorem CutUp.read
    {platform : LidarPlatform R}
    {started lidar : LiPkg R}
    {before : List (BitVec 8 × BitVec 64)}
    (cutUp : CutUp platform started lidar before)
    (data : List (BitVec 8 × BitVec 64)) :
    CutUp platform started (lidar.commReadCallback platform data)
      (before ++ data) :=
  (cutUp.parse data).assemble
    ((lidar.parse platform data).assemblePacket_assembled platform)

theorem CutUp.after
    {platform : LidarPlatform R}
    {started lidar : LiPkg R}
    {before : List (BitVec 8 × BitVec 64)}
    (cutUp : CutUp platform started lidar before)
    (reads : Reads) :
    CutUp platform started (lidar.after platform reads)
      (before ++ reads.flatten) := by
  induction reads generalizing lidar before with
  | nil => simpa [LiPkg.after] using cutUp
  | cons data reads inductionHypothesis =>
      rw [List.flatten_cons, ← List.append_assoc]
      exact inductionHypothesis (cutUp.read data)

omit [IsStrictOrderedRing R] in
/-- An assembly that cuts nothing off has no whole turn to cut off. -/
theorem Assembled.incomplete
    {platform : LidarPlatform R}
    {lidar assembled : LiPkg R}
    (step : Assembled platform lidar assembled)
    (kept : lidar.frameTmp.length ≤ assembled.frameTmp.length) :
    assembled.Incomplete platform := by
  cases step with
  | waiting incomplete => exact incomplete
  | dropped count within positive tooMany =>
      rw [erase_eq, List.length_drop] at kept
      omega
  | framed count points ends few members whole nonempty =>
      obtain ⟨lastPoint, nextPoint, last, next, -⟩ := ends
      have within := (List.getElem?_eq_some_iff.mp next).1
      have positive : 0 < count := by
        apply Nat.pos_of_ne_zero
        rintro rfl
        simp at last
      rw [erase_eq, List.length_drop, setFrame_frameTmp] at kept
      omega

/-- The lidar that the driver's `Start` leaves. -/
def start (pkg : LiDARFrame) (typeNumber : LDType) (isEnable : Bool) :
    LiPkg R :=
  ((make pkg).enableFilter isEnable).clearDataProcessStatus.setProductType
    typeNumber

/-- A packet of twelve readings of one metre, between two angles. -/
def metreBetween (startAngle endAngle : BitVec 16) (now : BitVec 64) :
    List (BitVec 8 × BitVec 64) :=
  (LiDARFrame.send 3600 startAngle (.replicate pointPerPack ⟨1000, 200⟩)
    endAngle 1).toBytes.map fun byte => (byte, now)

/-- The lidar comes round twice. -/
def twoTurns : Reads :=
  [metreBetween 34500 35800 1000000, metreBetween 34500 35800 4000000,
    metreBetween 0 1300 7000000, metreBetween 34500 35800 10000000,
    metreBetween 0 1300 13000000]

omit [Field R] [LinearOrder R] [FloorRing R] [IsStrictOrderedRing R] in
/-- The frame that waits for the main thread is one of those that were set. -/
def Current (lidar : LiPkg R) : Prop :=
  lidar.isFrameReady = true → lidar.laserScanData ∈ lidar.frames

omit [Field R] [LinearOrder R] [FloorRing R] [IsStrictOrderedRing R] in
/-- How many frames may still come without a new packet. -/
def waiting (lidar : LiPkg R) : Nat :=
  lidar.frameTmp.length + if lidar.isFrameReady then 1 else 0

omit [IsStrictOrderedRing R] in
/-- An assembly keeps the frames that were set, and what it sets it makes of
points that were waiting. -/
theorem Assembled.keeps
    {platform : LidarPlatform R}
    {lidar assembled : LiPkg R}
    (step : Assembled platform lidar assembled)
    (current : lidar.Current) :
    lidar.frames ⊆ assembled.frames ∧ assembled.Current ∧
      assembled.waiting ≤ lidar.waiting := by
  cases step with
  | waiting => exact ⟨List.Subset.refl _, current, le_rfl⟩
  | dropped count within positive tooMany =>
      rw [erase_eq]
      refine ⟨List.Subset.refl _, current, ?_⟩
      simp only [LiPkg.waiting, List.length_drop]
      omega
  | framed count points ends few members whole nonempty =>
      obtain ⟨lastPoint, nextPoint, last, next, -⟩ := ends
      have positive : 0 < count := by
        apply Nat.pos_of_ne_zero
        rintro rfl
        simp at last
      obtain ⟨within, -⟩ := List.getElem?_eq_some_iff.mp next
      rw [erase_eq, setFrame]
      split
      · refine ⟨List.Subset.refl _, current, ?_⟩
        simp only [LiPkg.waiting, List.length_drop]
        omega
      · refine ⟨List.subset_cons_self _ _, fun _ => List.mem_cons_self, ?_⟩
        simp only [LiPkg.waiting, setLaserScanData, List.length_drop, if_true]
        omega

omit [IsStrictOrderedRing R] in
/-- A parse leaves the frames as they are, and without a packet it adds no
points. -/
theorem parse_keeps
    (platform : LidarPlatform R)
    (lidar : LiPkg R)
    (data : List (BitVec 8 × BitVec 64)) :
    (lidar.parse platform data).frames = lidar.frames ∧
      (lidar.Current → (lidar.parse platform data).Current) ∧
      (lidar.analysis.accepted (data.map Prod.fst) = [] →
        (lidar.parse platform data).waiting = lidar.waiting) := by
  obtain ⟨_, _, _, parsed⟩ := lidar.parse_eq platform data
  rw [parsed]
  refine ⟨rfl, id, ?_⟩
  intro silent
  rw [← Analysis.map_acceptedAt, List.map_eq_nil_iff] at silent
  simp [waiting, silent, pointsOf]

omit [IsStrictOrderedRing R] in
/-- A point of a frame that was set comes from a packet that was accepted. -/
theorem CutUp.point_of_frame
    {platform : LidarPlatform R}
    {started lidar : LiPkg R}
    {data : List (BitVec 8 × BitVec 64)}
    (cutUp : CutUp platform started lidar data)
    {frame : List (PointData R)}
    (set : frame ∈ lidar.frames)
    {left : PointData R}
    (member : left ∈ frame) :
    ∃ pkg ∈ started.analysis.accepted (data.map Prod.fst),
      ∃ lastPkgTimestamp currentPackStamp,
        ∃ point ∈ points platform pkg lastPkgTimestamp currentPackStamp,
          Tofbf.KeptOrMasked point left := by
  obtain ⟨cuts, all, each, -, frames⟩ := cutUp.cut
  have made : frame ∈ cuts.filterMap Prod.snd := by
    apply List.mem_of_mem_tail
    rw [← frames]
    exact List.mem_reverse.mpr set
  obtain ⟨⟨stretch, found⟩, cut, rfl⟩ := List.mem_filterMap.mp made
  have isFrame : IsFrame platform started stretch frame := each _ cut
  obtain ⟨point, inside, kept⟩ := isFrame.origin left member
  have source : point ∈ pointsOf platform started.measurePointFrequence
      started.lastPkgTimestamp (started.analysis.acceptedAt data) := by
    rw [all]
    exact List.mem_append_left _
      (List.mem_flatten.mpr ⟨stretch, List.mem_map_of_mem cut, inside⟩)
  obtain ⟨pkg, accepted, last, now, listed⟩ := exists_of_mem_pointsOf source
  rw [Analysis.map_acceptedAt] at accepted
  exact ⟨pkg, accepted, last, now, point, listed, kept⟩

end LiPkg
end Skatebot
