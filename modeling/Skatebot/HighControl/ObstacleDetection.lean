import Mathlib.Data.List.Induction
import Skatebot.Library.Machine
import Skatebot.Library.Python

/-!
# `ObstacleDetection`

The node that compares the lidar's scans with a model of the pipe and tells the
others when to stop.  A scan is judged when it arrives, by the model of that
moment; the timer publishes the verdict later, as long as the scan is not too
old.
-/

namespace Skatebot

open Library

variable {R : Type} [Field R] [LinearOrder R] [FloorRing R]

/-! ## The node -/

/-- `sensor_msgs::msg::LaserScan`, with the fields that the node reads. -/
structure LaserScan (R : Type) where
  angleMin : Double R
  angleIncrement : Double R
  ranges : List (Double R)

/-- `ObstacleDetection`.  Times are in nanoseconds. -/
structure ObstacleDetection (R : Type) where
  frontAngleDeg : R
  stopDistanceM : R
  minClosePoints : Int
  lidarTimeout : R
  ellipseDistances : Option (List (Double R))
  lastScanTime : Option Int
  stopRequired : Bool
  /-- What has been published on `/stop_obstacle`, newest first. -/
  published : List Bool

/-- What the node's callbacks receive, with the time of its clock. -/
inductive ObstacleEvent (R : Type)
  | scan (now : Int) (msg : LaserScan R)
  | ellipse (data : List (Double R))
  | timer (now : Int)

namespace ObstacleDetection

/-- `ObstacleDetection.__init__`. -/
def init (frontAngleDeg stopDistanceM : R) (minClosePoints : Int)
    (lidarTimeout : R) : ObstacleDetection R where
  frontAngleDeg := frontAngleDeg
  stopDistanceM := stopDistanceM
  minClosePoints := minClosePoints
  lidarTimeout := lidarTimeout
  ellipseDistances := none
  lastScanTime := none
  stopRequired := true
  published := []

/-- `ObstacleDetection.ellipse_callback`. -/
def ellipseCallback (node : ObstacleDetection R) (data : List (Double R)) :
    ObstacleDetection R :=
  { node with ellipseDistances := some data }

/-- The angle of a beam in degrees. -/
def angleDeg (msg : LaserScan R) (i : Nat) : Double R := do
  let angleMin ← msg.angleMin
  let angleIncrement ← msg.angleIncrement
  some (degrees (angleMin + i * angleIncrement))

/-- An angle in degrees, from -180 to 180. -/
def normalisedAngle (angleDeg : R) : R :=
  floorMod (angleDeg + 180.0) 360.0 - 180.0

/-- The entry of the model for an angle in degrees. -/
def modelIndex (angleDeg : R) : Int :=
  roundHalfEven angleDeg % 360

/-- Whether one turn of the loop in `ObstacleDetection.scan_callback` counts its
beam; `none` where it raises an exception, as the rounding of an angle that is
not finite does. -/
def closePoint (node : ObstacleDetection R) (distances : List (Double R))
    (msg : LaserScan R) (i : Nat) : Double R → Option Bool
  | none => some false
  | some measuredDistance => do
      let angleDeg ← angleDeg msg i
      if node.frontAngleDeg < 360.0 ∧
          |normalisedAngle angleDeg| > node.frontAngleDeg then
        some false
      else
        let predictedDistance ← index distances (modelIndex angleDeg)
        match predictedDistance with
        | none => some false
        | some predictedDistance =>
            some (measuredDistance ≤ predictedDistance - node.stopDistanceM)

/-- The loop of `ObstacleDetection.scan_callback`. -/
def closePoints (node : ObstacleDetection R) (distances : List (Double R))
    (msg : LaserScan R) : Option Nat :=
  msg.ranges.zipIdx.foldlM
    (fun closePoints beam => do
      let close ← node.closePoint distances msg beam.2 beam.1
      some (if close then closePoints + 1 else closePoints))
    0

/-- `ObstacleDetection.scan_callback`; `none` where it raises an exception. -/
def scanCallback (node : ObstacleDetection R) (now : Int) (msg : LaserScan R) :
    Option (ObstacleDetection R) :=
  let node := { node with lastScanTime := some now }
  match node.ellipseDistances with
  | none => some { node with stopRequired := true }
  | some distances => do
      let closePoints ← node.closePoints distances msg
      some { node with stopRequired := closePoints ≥ node.minClosePoints }

/-- The age of a scan in seconds. -/
def age (now scanTime : Int) : R := ((now - scanTime : Int) : R) / 1e9

/-- `ObstacleDetection.timer_callback`. -/
def timerCallback (node : ObstacleDetection R) (now : Int) :
    ObstacleDetection R :=
  let data :=
    match node.lastScanTime with
    | none => true
    | some lastScanTime =>
        if age now lastScanTime > node.lidarTimeout then true
        else node.stopRequired
  { node with published := data :: node.published }

/-- The callback for an event. -/
def handle (node : ObstacleDetection R) :
    ObstacleEvent R → Option (ObstacleDetection R)
  | .scan now msg => node.scanCallback now msg
  | .ellipse data => some (node.ellipseCallback data)
  | .timer now => some (node.timerCallback now)

/-- The node under its callbacks. -/
def callbacks (R : Type) [Field R] [LinearOrder R] [FloorRing R] :
    Machine (ObstacleDetection R) (ObstacleEvent R) where
  step node event := node.handle event

/-! ## Close beams -/

/-- The angle lies in the selected front sector. -/
def InSector (frontAngleDeg angleDeg : R) : Prop :=
  360.0 ≤ frontAngleDeg ∨ |normalisedAngle angleDeg| ≤ frontAngleDeg

/-- The beam is finite, lies in the selected sector, has a finite prediction,
and ends nearer than the prediction by the stop distance. -/
def Close (frontAngleDeg stopDistanceM : R) (distances : List (Double R))
    (msg : LaserScan R) (i : Nat) (measured : Double R) : Prop :=
  ∃ measuredDistance angle predictedDistance,
    measured = some measuredDistance ∧
      angleDeg msg i = some angle ∧
      InSector frontAngleDeg angle ∧
      index distances (modelIndex angle) = some (some predictedDistance) ∧
      measuredDistance ≤ predictedDistance - stopDistanceM

theorem not_inSector_iff (frontAngleDeg angleDeg : R) :
    ¬InSector frontAngleDeg angleDeg ↔
      frontAngleDeg < 360.0 ∧ |normalisedAngle angleDeg| > frontAngleDeg := by
  rw [InSector, not_or, not_le, not_le]

/-- The loop counts the close beams. -/
theorem closePoint_eq_true_iff
    {node : ObstacleDetection R}
    {distances : List (Double R)}
    {msg : LaserScan R}
    {i : Nat}
    {measured : Double R} :
    node.closePoint distances msg i measured = some true ↔
      Close node.frontAngleDeg node.stopDistanceM distances msg i measured := by
  cases measured with
  | none => simp [closePoint, Close]
  | some measuredDistance =>
      cases angled : angleDeg msg i with
      | none => simp [closePoint, Close, angled]
      | some angle =>
          by_cases sector : InSector node.frontAngleDeg angle
          · have inside := mt (not_inSector_iff _ _).mpr (not_not.mpr sector)
            cases predicted : index distances (modelIndex angle) with
            | none =>
                simp [closePoint, Close, angled, inside, predicted]
            | some predictedDistance =>
                cases predictedDistance <;>
                  simp [closePoint, Close, angled, inside, predicted, sector]
          · have outside := (not_inSector_iff _ _).mp sector
            simp [closePoint, Close, angled, outside, sector]

instance (frontAngleDeg stopDistanceM : R) (distances : List (Double R))
    (msg : LaserScan R) (i : Nat) (measured : Double R) :
    Decidable (Close frontAngleDeg stopDistanceM distances msg i measured) :=
  decidable_of_iff
    ((init frontAngleDeg stopDistanceM 0 0).closePoint distances msg i
      measured = some true)
    closePoint_eq_true_iff

/-- The number of close beams in a scan. -/
def closeBeams (frontAngleDeg stopDistanceM : R) (distances : List (Double R))
    (msg : LaserScan R) : Nat :=
  msg.ranges.zipIdx.countP fun beam =>
    decide (Close frontAngleDeg stopDistanceM distances msg beam.2 beam.1)

theorem closePoints_eq
    {node : ObstacleDetection R}
    {distances : List (Double R)}
    {msg : LaserScan R}
    {count : Nat}
    (counted : node.closePoints distances msg = some count) :
    count =
      closeBeams node.frontAngleDeg node.stopDistanceM distances msg := by
  rw [foldlM_count counted, closeBeams, Nat.zero_add]
  simp only [closePoint_eq_true_iff]

/-- A model of 360 entries has one for every angle. -/
theorem index_modelIndex
    {distances : List (Double R)}
    (entries : distances.length = 360)
    (angleDeg : R) :
    ∃ predictedDistance,
      index distances (modelIndex angleDeg) = some predictedDistance := by
  apply Option.isSome_iff_exists.mp
  apply index_isSome
  · exact Int.emod_nonneg _ (by decide)
  · rw [entries]
    exact Int.emod_lt_of_pos _ (by decide)

/-- A scan with finite angles and a model of 360 entries raise no exception. -/
theorem scanCallback_total
    {node : ObstacleDetection R}
    {msg : LaserScan R}
    (entries : ∀ distances, node.ellipseDistances = some distances →
      distances.length = 360)
    (angles : ∀ i, ∃ angle, angleDeg msg i = some angle)
    (now : Int) :
    ∃ after, node.scanCallback now msg = some after := by
  simp only [scanCallback]
  split
  next => exact ⟨_, rfl⟩
  next distances modelled =>
    have tested : ∀ beam : Double R × Nat, ∃ holds,
        closePoint { node with lastScanTime := some now } distances msg
          beam.2 beam.1 = some holds := by
      rintro ⟨measured, i⟩
      cases measured with
      | none => exact ⟨false, rfl⟩
      | some measuredDistance =>
          obtain ⟨angle, angled⟩ := angles i
          obtain ⟨predictedDistance, predicted⟩ :=
            index_modelIndex (entries distances modelled) angle
          unfold closePoint
          simp only [angled, Option.bind_eq_bind, Option.bind_some, predicted]
          split
          next => exact ⟨false, rfl⟩
          next =>
            cases predictedDistance with
            | none => exact ⟨false, rfl⟩
            | some predictedDistance => exact ⟨_, rfl⟩
    obtain ⟨count, counted⟩ := foldlM_total tested msg.ranges.zipIdx 0
    rw [closePoints, counted]
    exact ⟨_, rfl⟩

/-! ## Runs -/

/-- The latest model of the pipe. -/
def latestModel (events : List (ObstacleEvent R)) : Option (List (Double R)) :=
  events.foldl
    (fun last event =>
      match event with
      | .ellipse data => some data
      | _ => last)
    none

/-- The most recent scan: the events before it, its time and its message. -/
def LatestScan (events past : List (ObstacleEvent R)) (scanTime : Int)
    (msg : LaserScan R) : Prop :=
  ∃ rest, events = past ++ .scan scanTime msg :: rest ∧
    ∀ time other, .scan time other ∉ rest

/-- What the node is after some events: its parameters are those it started
with, and its verdict is that on the latest scan. -/
structure Reflects (start : ObstacleDetection R)
    (events : List (ObstacleEvent R)) (node : ObstacleDetection R) : Prop where
  frontAngleDeg : node.frontAngleDeg = start.frontAngleDeg
  stopDistanceM : node.stopDistanceM = start.stopDistanceM
  minClosePoints : node.minClosePoints = start.minClosePoints
  lidarTimeout : node.lidarTimeout = start.lidarTimeout
  ellipseDistances : node.ellipseDistances = latestModel events
  scanned : ∀ scanTime, node.lastScanTime = some scanTime →
    ∃ past msg, LatestScan events past scanTime msg ∧
      (node.stopRequired = false →
        ∃ distances, latestModel past = some distances ∧
          closeBeams start.frontAngleDeg start.stopDistanceM distances msg <
            start.minClosePoints)

omit [Field R] [LinearOrder R] [FloorRing R] in
theorem LatestScan.concat
    {events past : List (ObstacleEvent R)}
    {scanTime : Int}
    {msg : LaserScan R}
    (latest : LatestScan events past scanTime msg)
    {event : ObstacleEvent R}
    (other : ∀ time msg, event ≠ .scan time msg) :
    LatestScan (events ++ [event]) past scanTime msg := by
  obtain ⟨rest, rfl, later⟩ := latest
  refine ⟨rest ++ [event], by simp, ?_⟩
  intro time msg occurs
  rcases List.mem_append.mp occurs with earlier | last
  · exact later time msg earlier
  · exact other time msg (List.mem_singleton.mp last).symm

/-- The verdict on a scan: clear exactly when a model is in force and few beams
are close by it. -/
theorem scanCallback_cases
    {node after : ObstacleDetection R}
    {now : Int}
    {msg : LaserScan R}
    (handled : node.scanCallback now msg = some after) :
    ∃ stopRequired,
      after = { node with
        lastScanTime := some now
        stopRequired := stopRequired } ∧
      (stopRequired = false ↔
        ∃ distances, node.ellipseDistances = some distances ∧
          closeBeams node.frontAngleDeg node.stopDistanceM distances msg <
            node.minClosePoints) := by
  simp only [scanCallback] at handled
  cases modelled : node.ellipseDistances with
  | none =>
      rw [modelled] at handled
      exact ⟨true, (Option.some.inj handled).symm, by simp⟩
  | some distances =>
      rw [modelled] at handled
      obtain ⟨count, counted, handled⟩ := Option.bind_eq_some_iff.mp handled
      have total := closePoints_eq counted
      dsimp only at total
      refine ⟨_, (Option.some.inj handled).symm, ?_⟩
      simp [total]

theorem Reflects.handle
    {start : ObstacleDetection R}
    {events : List (ObstacleEvent R)}
    {before after : ObstacleDetection R}
    (reflects : Reflects start events before)
    {event : ObstacleEvent R}
    (handled : before.handle event = some after) :
    Reflects start (events ++ [event]) after := by
  cases event with
  | scan now msg =>
      obtain ⟨stopRequired, rfl, judged⟩ := scanCallback_cases handled
      refine ⟨reflects.frontAngleDeg, reflects.stopDistanceM,
        reflects.minClosePoints, reflects.lidarTimeout, ?_, ?_⟩
      · simpa [latestModel] using reflects.ellipseDistances
      · intro scanTime scanned
        obtain rfl := Option.some.inj scanned
        refine ⟨events, msg, ⟨[], rfl, by simp⟩, fun clear => ?_⟩
        rw [← reflects.ellipseDistances, ← reflects.frontAngleDeg,
          ← reflects.stopDistanceM, ← reflects.minClosePoints]
        exact judged.mp clear
  | ellipse data =>
      obtain rfl := Option.some.inj handled
      refine ⟨reflects.frontAngleDeg, reflects.stopDistanceM,
        reflects.minClosePoints, reflects.lidarTimeout, ?_, ?_⟩
      · simp [latestModel, ellipseCallback]
      · intro scanTime scanned
        obtain ⟨past, msg, latest, judged⟩ := reflects.scanned scanTime scanned
        exact ⟨past, msg, latest.concat (by simp), judged⟩
  | timer now =>
      obtain rfl := Option.some.inj handled
      refine ⟨reflects.frontAngleDeg, reflects.stopDistanceM,
        reflects.minClosePoints, reflects.lidarTimeout, ?_, ?_⟩
      · simpa [latestModel, timerCallback] using reflects.ellipseDistances
      · intro scanTime scanned
        obtain ⟨past, msg, latest, judged⟩ := reflects.scanned scanTime scanned
        exact ⟨past, msg, latest.concat (by simp), judged⟩

theorem run_reflects
    {frontAngleDeg stopDistanceM lidarTimeout : R}
    {minClosePoints : Int}
    {events : List (ObstacleEvent R)}
    {node : ObstacleDetection R}
    (reached :
      (callbacks R).run
        (init frontAngleDeg stopDistanceM minClosePoints lidarTimeout)
        events = some node) :
    Reflects
      (init frontAngleDeg stopDistanceM minClosePoints lidarTimeout) events
      node := by
  induction events using List.reverseRecOn generalizing node with
  | nil =>
      obtain rfl := Option.some.inj reached
      exact ⟨rfl, rfl, rfl, rfl, rfl, by simp [init]⟩
  | append_singleton events event inductionHypothesis =>
      obtain ⟨before, reachedBefore, handled⟩ :=
        (callbacks R).run_concat_eq_some.mp reached
      exact (inductionHypothesis reachedBefore).handle handled

/-- What the node holds of the latest scan: its time, and a verdict by the
model that was in force when the scan came. -/
theorem LatestScan.judged
    {frontAngleDeg stopDistanceM lidarTimeout : R}
    {minClosePoints : Int}
    {events past : List (ObstacleEvent R)}
    {scanTime : Int}
    {msg : LaserScan R}
    {node : ObstacleDetection R}
    (latest : LatestScan events past scanTime msg)
    (reached :
      (callbacks R).run
        (init frontAngleDeg stopDistanceM minClosePoints lidarTimeout)
        events = some node) :
    node.lastScanTime = some scanTime ∧
      (node.stopRequired = false ↔
        ∃ distances, latestModel past = some distances ∧
          closeBeams frontAngleDeg stopDistanceM distances msg <
            minClosePoints) := by
  obtain ⟨rest, rfl, later⟩ := latest
  obtain ⟨before, reachedPast, fromScan⟩ :=
    (callbacks R).run_append_eq_some.mp reached
  obtain ⟨after, handled, kept⟩ := (callbacks R).run_cons_eq_some.mp fromScan
  have reflects := run_reflects reachedPast
  obtain ⟨stopRequired, scanned, verdict⟩ := scanCallback_cases handled
  rw [reflects.ellipseDistances, reflects.frontAngleDeg,
    reflects.stopDistanceM, reflects.minClosePoints] at verdict
  have unscanned :
      (callbacks R).Along (fun _ event => ∀ time msg, event ≠ .scan time msg)
        after rest := by
    apply (callbacks R).along_of_forall
    intro event member _ time msg scanned
    exact later time msg (scanned ▸ member)
  have begun : after.lastScanTime = some scanTime ∧
      after.stopRequired = stopRequired := by
    rw [scanned]
    exact ⟨rfl, rfl⟩
  have holds : node.lastScanTime = some scanTime ∧
      node.stopRequired = stopRequired := by
    apply (callbacks R).invariant_of_along
      (fun node => node.lastScanTime = some scanTime ∧
        node.stopRequired = stopRequired) _ begun unscanned kept
    intro node event next same other stepped
    cases event with
    | scan time msg => exact absurd rfl (other time msg)
    | ellipse data =>
        rw [← Option.some.inj stepped]
        exact same
    | timer now =>
        rw [← Option.some.inj stepped]
        exact same
  refine ⟨holds.1, ?_⟩
  rw [holds.2]
  exact verdict

/-- The timer publishes `False` exactly when the most recent scan is not older
than the timeout, the node had a model when that scan came, and by that model
too few of its beams are close. -/
theorem timerCallback_clear_iff
    {frontAngleDeg stopDistanceM lidarTimeout : R}
    {minClosePoints : Int}
    {events : List (ObstacleEvent R)}
    {node : ObstacleDetection R}
    (reached :
      (callbacks R).run
        (init frontAngleDeg stopDistanceM minClosePoints lidarTimeout)
        events = some node)
    (now : Int) :
    (node.timerCallback now).published.head? = some false ↔
      ∃ past scanTime msg distances,
        LatestScan events past scanTime msg ∧
          age now scanTime ≤ lidarTimeout ∧
          latestModel past = some distances ∧
          closeBeams frontAngleDeg stopDistanceM distances msg <
            minClosePoints := by
  have reflects := run_reflects reached
  have timeout : node.lidarTimeout = lidarTimeout := reflects.lidarTimeout
  constructor
  · intro clear
    unfold timerCallback at clear
    cases scanned : node.lastScanTime with
    | none => simp [scanned] at clear
    | some scanTime =>
        obtain ⟨past, msg, latest, -⟩ := reflects.scanned scanTime scanned
        obtain ⟨-, verdict⟩ := latest.judged reached
        simp only [scanned, timeout, List.head?_cons,
          Option.some.injEq] at clear
        split at clear
        next => contradiction
        next fresh =>
          obtain ⟨distances, modelled, few⟩ := verdict.mp clear
          exact ⟨past, scanTime, msg, distances, latest, not_lt.mp fresh,
            modelled, few⟩
  · rintro ⟨past, scanTime, msg, distances, latest, fresh, modelled, few⟩
    obtain ⟨scanned, verdict⟩ := latest.judged reached
    unfold timerCallback
    simp only [scanned, timeout, List.head?_cons, Option.some.injEq]
    rw [if_neg (not_lt.mpr fresh)]
    exact verdict.mpr ⟨distances, modelled, few⟩

/-- Whenever the timer publishes `False`, the most recent scan is not older
than the timeout, the node had a model when that scan came, and by that model
too few of its beams are close. -/
theorem clear_published
    {frontAngleDeg stopDistanceM lidarTimeout : R}
    {minClosePoints : Int}
    {events : List (ObstacleEvent R)}
    {now : Int}
    {node : ObstacleDetection R}
    (reached :
      (callbacks R).run
        (init frontAngleDeg stopDistanceM minClosePoints lidarTimeout)
        (events ++ [.timer now]) = some node)
    (clear : node.published.head? = some false) :
    ∃ past scanTime msg distances,
      LatestScan events past scanTime msg ∧
        age now scanTime ≤ lidarTimeout ∧
        latestModel past = some distances ∧
        closeBeams frontAngleDeg stopDistanceM distances msg <
          minClosePoints := by
  obtain ⟨before, reachedBefore, handled⟩ :=
    (callbacks R).run_concat_eq_some.mp reached
  rw [← Option.some.inj handled] at clear
  exact (timerCallback_clear_iff reachedBefore now).mp clear

/-! ## A clear way -/

/-- A model, a scan with one close beam of three, and another model. -/
def clearEvents : List (ObstacleEvent ℚ) :=
  [.ellipse (List.replicate 360 (some 1)),
    .scan 0
      { angleMin := some 0
        angleIncrement := some 0.01
        ranges := [some 0.5, none, some 2] },
    .ellipse (List.replicate 360 none)]

theorem clear_published_clearEvents :
    ∃ past scanTime msg distances,
      LatestScan clearEvents past scanTime msg ∧
        age 500000000 scanTime ≤ (1 : ℚ) ∧
        latestModel past = some distances ∧
        closeBeams 90 0.05 distances msg < (2 : Int) :=
  let run := (callbacks ℚ).run (init 90 0.05 2 1)
    (clearEvents ++ [.timer 500000000])
  clear_published (Option.some_get (by decide +kernel : run.isSome = true)).symm
    (by decide +kernel)

end ObstacleDetection
end Skatebot
