import Mathlib.Data.List.Forall2
import Mathlib.Data.List.Infix
import Skatebot.HighControl.ObstacleDetection
import Skatebot.Library.History

/-!
# The verdict on a scan

How the verdict of `ObstacleDetection.scan_callback` depends on the scan: whole
turns of the sensor do not matter, nearer beams only make a stop more likely,
and beams that cannot be compared with the model count as clear.
-/

namespace Skatebot

open Library

variable {R : Type} [Field R] [LinearOrder R] [FloorRing R]

/-! ## Turned scans and nearer scans -/

namespace LaserScan

/-- The scan with its first angle moved by whole turns. -/
def turned (turns : Int) (msg : LaserScan R) : LaserScan R :=
  { msg with
    angleMin :=
      msg.angleMin.map fun angle => angle + ((2 * turns : Int) : R) * pi }

omit [FloorRing R] in
/-- A beam of the one scan and the same beam of another: both are finite or
neither, and the second is not longer. -/
def BeamNearer (far near : Double R) : Prop :=
  Option.Rel (fun far near => near ≤ far) far near

/-- The second scan has the same angles and the same finite beams, none of them
longer. -/
structure Nearer (first second : LaserScan R) : Prop where
  angleMin : second.angleMin = first.angleMin
  angleIncrement : second.angleIncrement = first.angleIncrement
  ranges : List.Forall₂ BeamNearer first.ranges second.ranges

end LaserScan

namespace ObstacleDetection

/-- Whole turns of the sensor are whole turns of each beam. -/
theorem angleDeg_turned (turns : Int) (msg : LaserScan R) (i : Nat) :
    angleDeg (msg.turned turns) i =
      (angleDeg msg i).map fun angle => angle + ((360 * turns : Int) : R) := by
  cases first : msg.angleMin with
  | none => simp [angleDeg, LaserScan.turned, first]
  | some angleMin =>
      cases step : msg.angleIncrement with
      | none => simp [angleDeg, LaserScan.turned, first, step]
      | some angleIncrement =>
          have moved : angleMin + ((2 * turns : Int) : R) * pi +
              i * angleIncrement =
              angleMin + i * angleIncrement + ((2 * turns : Int) : R) * pi :=
            add_right_comm ..
          simp only [angleDeg, LaserScan.turned, first, step, Option.map_some,
            Option.bind_eq_bind, Option.bind_some]
          rw [moved, degrees_add_turns]

section

variable [IsStrictOrderedRing R]

theorem normalisedAngle_add_turns (angle : R) (turns : Int) :
    normalisedAngle (angle + ((360 * turns : Int) : R)) =
      normalisedAngle angle := by
  have turn : (360.0 : R) ≠ 0 := by norm_num
  have moved : angle + ((360 * turns : Int) : R) + 180.0 =
      angle + 180.0 + turns * 360.0 := by
    push_cast
    norm_num
    ring
  unfold normalisedAngle
  rw [moved, floorMod_add_mul turn]

/-- 360 is even, so that halves are rounded the same way on every turn. -/
theorem modelIndex_add_turns (angle : R) (turns : Int) :
    modelIndex (angle + ((360 * turns : Int) : R)) = modelIndex angle := by
  unfold modelIndex
  rw [roundHalfEven_add_even (by omega), Int.add_mul_emod_self_left]

theorem closePoint_turned
    (node : ObstacleDetection R)
    (distances : List (Double R))
    (msg : LaserScan R)
    (turns : Int)
    (i : Nat) :
    node.closePoint distances (msg.turned turns) i =
      node.closePoint distances msg i := by
  funext measured
  cases measured with
  | none => rfl
  | some measuredDistance =>
      unfold closePoint
      rw [angleDeg_turned]
      cases angleDeg msg i with
      | none => rfl
      | some angle =>
          simp only [Option.map_some, Option.bind_eq_bind, Option.bind_some,
            normalisedAngle_add_turns, modelIndex_add_turns]

theorem scanCallback_turned
    (node : ObstacleDetection R)
    (now : Int)
    (msg : LaserScan R)
    (turns : Int) :
    node.scanCallback now (msg.turned turns) = node.scanCallback now msg := by
  unfold scanCallback closePoints
  simp only [closePoint_turned]
  rfl

end

omit [FloorRing R] in
theorem angleDeg_nearer
    {first second : LaserScan R}
    (nearer : first.Nearer second)
    (i : Nat) :
    angleDeg second i = angleDeg first i := by
  rw [angleDeg, nearer.angleMin, nearer.angleIncrement, angleDeg]

/-- A nearer beam counts as close where the farther one does. -/
theorem closePoint_nearer
    {node : ObstacleDetection R}
    {distances : List (Double R)}
    {first second : LaserScan R}
    (angles : ∀ i, angleDeg second i = angleDeg first i)
    (i : Nat)
    {far near : Double R}
    (nearer : LaserScan.BeamNearer far near)
    (holds : Bool)
    (tested : node.closePoint distances first i far = some holds) :
    ∃ nearHolds, node.closePoint distances second i near = some nearHolds ∧
      (holds = true → nearHolds = true) := by
  cases nearer with
  | none => exact ⟨holds, tested, id⟩
  | @some farDistance nearDistance shorter =>
      unfold closePoint at tested ⊢
      rw [angles]
      cases angled : angleDeg first i with
      | none => simp [angled] at tested
      | some angle =>
          simp only [angled, Option.bind_eq_bind, Option.bind_some] at tested ⊢
          split at tested
          next outside => exact ⟨holds, by rw [if_pos outside, tested], id⟩
          next inside =>
            rw [if_neg inside]
            cases predicted : index distances (modelIndex angle) with
            | none => simp [predicted] at tested
            | some predictedDistance =>
                rw [predicted] at tested
                cases predictedDistance with
                | none => exact ⟨holds, tested, id⟩
                | some predictedDistance =>
                    refine ⟨_, rfl, fun close => ?_⟩
                    rw [← Option.some.inj tested, decide_eq_true_eq] at close
                    exact decide_eq_true (shorter.trans close)

theorem closePoints_nearer
    {node : ObstacleDetection R}
    {distances : List (Double R)}
    {first second : LaserScan R}
    (nearer : first.Nearer second)
    {count : Nat}
    (counted : node.closePoints distances first = some count) :
    ∃ nearCount, node.closePoints distances second = some nearCount ∧
      count ≤ nearCount := by
  apply foldlM_count_mono _ le_rfl counted
  apply (forall₂_zipIdx nearer.ranges 0).imp
  rintro ⟨far, i⟩ ⟨near, j⟩ ⟨shorter, same⟩
  cases same
  exact closePoint_nearer (angleDeg_nearer nearer) i shorter

/-- A nearer scan requires a stop where the farther one does. -/
theorem scanCallback_nearer
    {node after : ObstacleDetection R}
    {first second : LaserScan R}
    (nearer : first.Nearer second)
    {now : Int}
    (handled : node.scanCallback now first = some after)
    (later : Int) :
    ∃ nearAfter, node.scanCallback later second = some nearAfter ∧
      (after.stopRequired = true → nearAfter.stopRequired = true) := by
  unfold scanCallback at handled ⊢
  dsimp only at handled ⊢
  cases modelled : node.ellipseDistances with
  | none => exact ⟨_, rfl, fun _ => rfl⟩
  | some distances =>
      rw [modelled] at handled
      obtain ⟨count, counted, handled⟩ := Option.bind_eq_some_iff.mp handled
      obtain ⟨nearCount, nearCounted, more⟩ := closePoints_nearer nearer counted
      refine ⟨_, Option.bind_eq_some_iff.mpr ⟨nearCount, nearCounted, rfl⟩, ?_⟩
      intro stops
      rw [← Option.some.inj handled] at stops
      simp only [decide_eq_true_eq] at stops ⊢
      omega

/-- Whole turns of the sensor leave the verdict on a scan as it is, and a
nearer scan requires a stop where the farther one does. -/
theorem verdict_of_beams
    [IsStrictOrderedRing R]
    (node : ObstacleDetection R)
    (first : LaserScan R)
    (turns now : Int) :
    node.scanCallback now (first.turned turns) = node.scanCallback now first ∧
      ∀ second after later, first.Nearer second →
        node.scanCallback now first = some after →
        ∃ nearAfter, node.scanCallback later second = some nearAfter ∧
          (after.stopRequired = true → nearAfter.stopRequired = true) :=
  ⟨scanCallback_turned node now first turns,
    fun _ _ later nearer handled => scanCallback_nearer nearer handled later⟩

/-- The model of a straight pipe. -/
def straightModel : List (Double ℚ) := List.replicate 360 (some 1)

/-- A node that has this model and stops for two close beams. -/
def straightPipe : ObstacleDetection ℚ :=
  (init 90 0.05 2 1).ellipseCallback straightModel

/-- A scan with two close beams of four. -/
def farScan : LaserScan ℚ where
  angleMin := some (-0.5)
  angleIncrement := some 0.5
  ranges := [some 0.9, none, some 0.8, some 2]

/-- The same scan with one beam shorter. -/
def nearScan : LaserScan ℚ :=
  { farScan with ranges := [some 0.9, none, some 0.8, some 0.7] }

theorem judges_farScan :
    (straightPipe.scanCallback 0 farScan).isSome = true := by
  decide +kernel

theorem verdict_of_beams_farScan :
    straightPipe.scanCallback 0 (farScan.turned (-3)) =
        straightPipe.scanCallback 0 farScan ∧
      ∃ after, straightPipe.scanCallback 100 nearScan = some after ∧
        after.stopRequired = true := by
  obtain ⟨turned, nearer⟩ := verdict_of_beams straightPipe farScan (-3) 0
  obtain ⟨after, handled, carries⟩ :=
    nearer nearScan _ 100
      ⟨rfl, rfl, .cons (.some le_rfl) (.cons .none (.cons (.some le_rfl)
        (.cons (.some (by norm_num)) .nil)))⟩
      (Option.some_get judges_farScan).symm
  exact ⟨turned, after, handled, carries (by decide +kernel)⟩

/-! ## Blind scans -/

/-- The beam is finite, lies in the selected sector and has a finite
prediction: it can be compared with the model. -/
def Usable (frontAngleDeg : R) (distances : List (Double R))
    (msg : LaserScan R) (i : Nat) (measured : Double R) : Prop :=
  ∃ measuredDistance angle predictedDistance,
    measured = some measuredDistance ∧
      angleDeg msg i = some angle ∧
      InSector frontAngleDeg angle ∧
      index distances (modelIndex angle) = some (some predictedDistance)

/-- The scan contains a usable beam. -/
def Sighted (frontAngleDeg : R) (distances : List (Double R))
    (msg : LaserScan R) : Prop :=
  ∃ beam ∈ msg.ranges.zipIdx, Usable frontAngleDeg distances msg beam.2 beam.1

theorem Close.usable
    {frontAngleDeg stopDistanceM : R}
    {distances : List (Double R)}
    {msg : LaserScan R}
    {i : Nat}
    {measured : Double R}
    (close : Close frontAngleDeg stopDistanceM distances msg i measured) :
    Usable frontAngleDeg distances msg i measured := by
  obtain ⟨measuredDistance, angle, predictedDistance, finite, angled, inside,
    predicted, -⟩ := close
  exact ⟨measuredDistance, angle, predictedDistance, finite, angled, inside,
    predicted⟩

/-- A scan without usable beams has no close ones. -/
theorem closeBeams_eq_zero
    {frontAngleDeg stopDistanceM : R}
    {distances : List (Double R)}
    {msg : LaserScan R}
    (blind : ¬Sighted frontAngleDeg distances msg) :
    closeBeams frontAngleDeg stopDistanceM distances msg = 0 := by
  apply List.countP_eq_zero.mpr
  intro beam member counted
  apply blind
  exact ⟨beam, member, (of_decide_eq_true counted).usable⟩

omit [Field R] [LinearOrder R] [FloorRing R] in
/-- There is one latest scan. -/
theorem LatestScan.unique
    {events past otherPast : List (ObstacleEvent R)}
    {scanTime otherTime : Int}
    {msg other : LaserScan R}
    (latest : LatestScan events past scanTime msg)
    (otherLatest : LatestScan events otherPast otherTime other) :
    otherPast = past ∧ otherTime = scanTime ∧ other = msg := by
  obtain ⟨rest, rfl, later⟩ := latest
  obtain ⟨otherRest, same, otherNone⟩ := otherLatest
  rcases List.append_eq_append_iff.mp same with
    ⟨between, longer, restSame⟩ | ⟨between, longer, restSame⟩
  · cases between with
    | nil =>
        simp only [List.nil_append, List.cons.injEq,
          ObstacleEvent.scan.injEq] at restSame
        rw [List.append_nil] at longer
        exact ⟨longer, restSame.1.1.symm, restSame.1.2.symm⟩
    | cons event between =>
        apply absurd _ (later otherTime other)
        rw [(List.cons.inj restSame).2]
        simp
  · cases between with
    | nil =>
        simp only [List.nil_append, List.cons.injEq,
          ObstacleEvent.scan.injEq] at restSame
        rw [List.append_nil] at longer
        exact ⟨longer.symm, restSame.1.1, restSame.1.2⟩
    | cons event between =>
        apply absurd _ (otherNone scanTime msg)
        rw [(List.cons.inj restSame).2]
        simp

/-- The settings of a node. -/
structure Settings (R : Type) where
  frontAngleDeg : R
  stopDistanceM : R
  minClosePoints : Int
  lidarTimeout : R

/-- `ObstacleDetection.__init__` with given settings. -/
def Settings.start (settings : Settings R) : ObstacleDetection R :=
  init settings.frontAngleDeg settings.stopDistanceM settings.minClosePoints
    settings.lidarTimeout

/-- A `False` that is published rests on a scan with a usable beam. -/
def ClearIsSighted (settings : Settings R) (earlier : List (ObstacleEvent R))
    (current : ObstacleEvent R) : Prop :=
  ∀ now node, current = .timer now →
    (callbacks R).run settings.start (earlier ++ [current]) = some node →
    node.published.head? = some false →
    ∃ past scanTime msg distances,
      LatestScan earlier past scanTime msg ∧
        latestModel past = some distances ∧
        Sighted settings.frontAngleDeg distances msg

/-- A tick of the timer comes within the timeout of a scan that was judged by a
model only when that scan has a usable beam. -/
def FreshIsSighted (settings : Settings R) (earlier : List (ObstacleEvent R))
    (current : ObstacleEvent R) : Prop :=
  ∀ now past scanTime msg distances, current = .timer now →
    LatestScan earlier past scanTime msg →
    age now scanTime ≤ settings.lidarTimeout →
    latestModel past = some distances →
    Sighted settings.frontAngleDeg distances msg

/-- At one event, the two come to the same where a clear way takes a close beam
to disprove it. -/
theorem clearIsSighted_iff
    {settings : Settings R}
    (positive : 0 < settings.minClosePoints)
    {earlier : List (ObstacleEvent R)}
    {before : ObstacleDetection R}
    (reached : (callbacks R).run settings.start earlier = some before)
    (current : ObstacleEvent R) :
    ClearIsSighted settings earlier current ↔
      FreshIsSighted settings earlier current := by
  constructor
  · rintro sighted now past scanTime msg distances rfl latest fresh modelled
    by_contra blind
    have few : (closeBeams settings.frontAngleDeg settings.stopDistanceM
        distances msg : Int) < settings.minClosePoints := by
      rw [closeBeams_eq_zero blind]
      exact positive
    have clear :=
      (timerCallback_clear_iff reached now).mpr
        ⟨past, scanTime, msg, distances, latest, fresh, modelled, few⟩
    have ticked :
        (callbacks R).run settings.start (earlier ++ [.timer now]) =
          some (before.timerCallback now) :=
      (callbacks R).run_concat_eq_some.mpr ⟨before, reached, rfl⟩
    obtain ⟨_, _, _, model, restsOn, inForce, usable⟩ :=
      sighted now _ rfl ticked clear
    obtain ⟨rfl, rfl, rfl⟩ := latest.unique restsOn
    rw [Option.some.inj (modelled.symm.trans inForce)] at blind
    exact blind usable
  · rintro sighted now node rfl ticked clear
    obtain ⟨middle, reachedMiddle, handled⟩ :=
      (callbacks R).run_concat_eq_some.mp ticked
    rw [← Option.some.inj handled] at clear
    obtain ⟨past, scanTime, msg, distances, latest, fresh, modelled, -⟩ :=
      (timerCallback_clear_iff reachedMiddle now).mp clear
    exact ⟨past, scanTime, msg, distances, latest, modelled,
      sighted now past scanTime msg distances rfl latest fresh modelled⟩

/-- No number of close beams is too few for a limit that is not positive. -/
theorem clearIsSighted_of_nonpos
    {settings : Settings R}
    (nonpositive : settings.minClosePoints ≤ 0)
    (earlier : List (ObstacleEvent R))
    (current : ObstacleEvent R) :
    ClearIsSighted settings earlier current := by
  rintro now node rfl ticked clear
  obtain ⟨before, reached, handled⟩ :=
    (callbacks R).run_concat_eq_some.mp ticked
  rw [← Option.some.inj handled] at clear
  obtain ⟨_, _, _, _, _, _, _, few⟩ :=
    (timerCallback_clear_iff reached now).mp clear
  omega

/-- In a run, every `False` rests on a scan with a usable beam: exactly when
the limit of close beams is not positive, or each tick within the timeout of a
scan that was judged by a model finds a usable beam in that scan. -/
theorem clear_sighted_iff
    {settings : Settings R}
    {events : List (ObstacleEvent R)}
    {final : ObstacleDetection R}
    (reached : (callbacks R).run settings.start events = some final) :
    Throughout (ClearIsSighted settings) events ↔
      settings.minClosePoints ≤ 0 ∨
        Throughout (FreshIsSighted settings) events := by
  by_cases nonpositive : settings.minClosePoints ≤ 0
  · refine iff_of_true ?_ (Or.inl nonpositive)
    intro earlier current later _
    exact clearIsSighted_of_nonpos nonpositive earlier current
  · rw [or_iff_right nonpositive]
    apply throughout_congr
    rintro earlier current later rfl
    obtain ⟨before, reachedEarlier, -⟩ :=
      (callbacks R).run_append_eq_some.mp reached
    exact clearIsSighted_iff (not_le.mp nonpositive) reachedEarlier current

/-- The settings that the node declares. -/
def Settings.declared : Settings ℚ where
  frontAngleDeg := 90
  stopDistanceM := 0.05
  minClosePoints := 20
  lidarTimeout := 1.0

/-- The model of a straight pipe, a scan, and a tick of the timer in time. -/
def scanEvents (msg : LaserScan ℚ) : List (ObstacleEvent ℚ) :=
  [.ellipse straightModel] ++ [.scan 0 msg] ++ [.timer 100000000]

theorem latestScan_scanEvents (msg : LaserScan ℚ) :
    LatestScan ([.ellipse straightModel] ++ [.scan 0 msg])
      [.ellipse straightModel] 0 msg :=
  ⟨[], rfl, by simp⟩

theorem clear_sighted_farScan :
    Throughout (ClearIsSighted .declared) (scanEvents farScan) := by
  have run : ((callbacks ℚ).run Settings.declared.start
      (scanEvents farScan)).isSome = true := by
    decide +kernel
  apply (clear_sighted_iff (Option.some_get run).symm).mpr
  right
  unfold scanEvents
  rw [throughout_concat, throughout_concat, throughout_singleton]
  refine ⟨⟨?_, ?_⟩, ?_⟩
  · exact fun _ _ _ _ _ timer => nomatch timer
  · exact fun _ _ _ _ _ timer => nomatch timer
  · rintro now past scanTime msg distances - latest - modelled
    obtain ⟨rfl, rfl, rfl⟩ := (latestScan_scanEvents farScan).unique latest
    obtain rfl := Option.some.inj modelled
    refine ⟨(some 0.8, 2), by decide +kernel, 0.8, degrees 0.5, 1, rfl, ?_⟩
    refine ⟨by decide +kernel, Or.inr (by decide +kernel), by decide +kernel⟩

/-- A scan in which the lidar sees nothing. -/
def blindScan : LaserScan ℚ :=
  { farScan with ranges := [none, none] }

theorem runs_blindScan :
    ((callbacks ℚ).run Settings.declared.start
      (scanEvents blindScan)).isSome = true := by
  decide +kernel

/-- That scan clears the way. -/
theorem blindScan_clears :
    ¬∀ (settings : Settings ℚ) (events : List (ObstacleEvent ℚ))
      (final : ObstacleDetection ℚ),
      (callbacks ℚ).run settings.start events = some final →
      Throughout (ClearIsSighted settings) events := by
  intro always
  have reached := (Option.some_get runs_blindScan).symm
  obtain ⟨_, _, _, _, latest, -, beam, member, _, _, _, finite, -⟩ :=
    always .declared (scanEvents blindScan) _ reached
      ([.ellipse straightModel] ++ [.scan 0 blindScan]) (.timer 100000000) []
      rfl 100000000 _ rfl reached (by decide +kernel)
  obtain ⟨-, -, rfl⟩ := (latestScan_scanEvents blindScan).unique latest
  have masked : ∀ beam ∈ blindScan.ranges.zipIdx, beam.1 = none := by
    decide +kernel
  rw [masked beam member] at finite
  cases finite

end ObstacleDetection
end Skatebot
