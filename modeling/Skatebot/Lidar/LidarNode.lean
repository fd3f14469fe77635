import Skatebot.Lidar.FrameAssembly
import Skatebot.Lidar.ScanMessage
import Skatebot.Library.Machine

/-!
# The lidar's node

The driver, the loop of `main`, and what is published: every range in a message
is one that the lidar has sent.
-/

namespace Skatebot

open Library

/-- `CommunicationModeTypeDef`. -/
inductive CommunicationMode
  | noNull
  | serialMode
  | udpClientMode
  | udpServerMode
  | tcpClientMode
  | tcpServerMode
  deriving DecidableEq

/-- `LDLidarDriver`, on a serial line.  Times are in milliseconds. -/
structure LDLidarDriver (R : Type) where
  isStartFlag : Bool
  /-- Whether `register_get_timestamp_handle_` is set. -/
  getTimestampRegistered : Bool
  commPkg : LiPkg R
  lastPubdataTimes : Int

namespace LDLidarDriver

variable {R : Type}

/-- `LDLidarDriver::LDLidarDriver`. -/
def make (pkg : LiDARFrame) (now : Int) : LDLidarDriver R where
  isStartFlag := false
  getTimestampRegistered := false
  commPkg := .make pkg
  lastPubdataTimes := now

/-- `LDLidarDriver::RegisterGetTimestampFunctional`. -/
def registerGetTimestampFunctional (driver : LDLidarDriver R) :
    LDLidarDriver R :=
  { driver with getTimestampRegistered := true }

/-- `LDLidarDriver::EnableFilterAlgorithnmProcess`. -/
def enableFilterAlgorithnmProcess (driver : LDLidarDriver R)
    (isEnable : Bool) : LDLidarDriver R :=
  { driver with commPkg := driver.commPkg.enableFilter isEnable }

/-- `LDLidarDriver::Start`, where the line opens or does not. -/
def start (driver : LDLidarDriver R) (productName : LDType)
    (serialPortName : String) (serialBaudrate : BitVec 32)
    (commMode : CommunicationMode) (opens : Bool) : Bool × LDLidarDriver R :=
  if driver.isStartFlag then (true, driver)
  else if productName = .noVersion then (false, driver)
  else if serialPortName.isEmpty ∨ serialBaudrate = 0 then (false, driver)
  else if ¬driver.getTimestampRegistered then (false, driver)
  else
    let driver :=
      { driver with
        commPkg :=
          driver.commPkg.clearDataProcessStatus.setProductType productName }
    if commMode = .serialMode then
      if opens then (true, { driver with isStartFlag := true })
      else (false, driver)
    else (false, driver)

/-- Where it succeeds, the driver is started and its data are cleared. -/
theorem start_eq_true
    {driver : LDLidarDriver R}
    {productName : LDType}
    {serialPortName : String}
    {serialBaudrate : BitVec 32}
    {commMode : CommunicationMode}
    {opens : Bool}
    (stopped : driver.isStartFlag = false)
    (succeeds : (driver.start productName serialPortName serialBaudrate
      commMode opens).1 = true) :
    (driver.start productName serialPortName serialBaudrate commMode opens).2 =
      { driver with
        isStartFlag := true
        commPkg :=
          driver.commPkg.clearDataProcessStatus.setProductType productName } := by
  revert succeeds
  unfold start
  dsimp only
  split_ifs <;> simp_all

/-- `LDLidarDriver::Stop`. -/
def stop (driver : LDLidarDriver R) : LDLidarDriver R :=
  { driver with isStartFlag := false }

/-- A turn of the loop in `LDLidarDriver::WaitLidarCommConnect`: what has been read
since the turn before, and the time at its end. -/
structure WaitTurn where
  reads : LiPkg.Reads
  now : Int

/-- `LDLidarDriver::WaitLidarCommConnect`, begun at a time; `none` where its loop
makes other turns than these. -/
def waitLidarCommConnect [Field R] [LinearOrder R] [FloorRing R]
    (platform : LidarPlatform R) (timeout lastTime : Int)
    (driver : LDLidarDriver R) :
    List WaitTurn → Option (Bool × LDLidarDriver R)
  | [] => none
  | turn :: turns =>
      let (isRecvflag, commPkg) :=
        (driver.commPkg.after platform turn.reads).getLidarPowerOnCommStatus
      let driver := { driver with commPkg := commPkg }
      if isRecvflag then
        if turns.isEmpty then
          some (true, { driver with lastPubdataTimes := turn.now })
        else none
      else if turn.now - lastTime < timeout then
        driver.waitLidarCommConnect platform timeout lastTime turns
      else if turns.isEmpty then some (false, driver)
      else none

/-- What is read while the driver waits. -/
def arrived (turns : List WaitTurn) : List (BitVec 8 × BitVec 64) :=
  (turns.flatMap WaitTurn.reads).flatten

/-- `LDLidarDriver::GetLaserScanData`. -/
def getLaserScanData (driver : LDLidarDriver R) (now timeout : Int) :
    (LidarStatus × Option (List (PointData R))) × LDLidarDriver R :=
  if ¬driver.isStartFlag then ((.stop, none), driver)
  else
    match driver.commPkg.lidarStatus with
    | .normal =>
        let (dst, commPkg) := driver.commPkg.getLaserScanData
        let driver := { driver with commPkg := commPkg }
        match dst with
        | some dst =>
            ((.normal, some dst), { driver with lastPubdataTimes := now })
        | none =>
            if now - driver.lastPubdataTimes > timeout then
              ((.dataTimeOut, none), driver)
            else ((.dataWait, none), driver)
    | status => ((status, none), { driver with lastPubdataTimes := now })

/-- The driver gives out the frame that is ready, or nothing. -/
theorem getLaserScanData_cases
    (driver : LDLidarDriver R)
    (now timeout : Int) :
    ((driver.getLaserScanData now timeout).1.2 = none ∧
      (driver.getLaserScanData now timeout).2.commPkg = driver.commPkg) ∨
    (driver.commPkg.isFrameReady = true ∧
      (driver.getLaserScanData now timeout).1 =
        (.normal, some driver.commPkg.laserScanData) ∧
      (driver.getLaserScanData now timeout).2.commPkg =
        { driver.commPkg with isFrameReady := false }) := by
  unfold getLaserScanData
  split
  next => exact Or.inl ⟨rfl, rfl⟩
  next =>
    split
    next =>
      unfold LiPkg.getLaserScanData
      by_cases ready : driver.commPkg.isFrameReady = true
      · rw [if_pos ready]
        exact Or.inr ⟨ready, rfl, rfl⟩
      · rw [if_neg ready]
        dsimp only
        split_ifs <;> exact Or.inl ⟨rfl, rfl⟩
    next => exact Or.inl ⟨rfl, rfl⟩

/-- `LDLidarDriver::GetLidarScanFreq`. -/
def getLidarScanFreq [Field R] [LinearOrder R] [FloorRing R]
    (driver : LDLidarDriver R) : Option R :=
  if ¬driver.isStartFlag then none else some driver.commPkg.getSpeed

end LDLidarDriver

/-- The variables of `main`. -/
structure LidarNode (R : Type) where
  ldlidarnode : LDLidarDriver R
  lidarScanFreq : R
  publisher : ScanPublisher R

/-- What happens to the node: its thread reads bytes, each of them handled at a
time in nanoseconds; or the loop of `main` goes round, at a time in milliseconds
and in seconds. -/
inductive LidarEvent (R : Type)
  | read (data : List (BitVec 8 × BitVec 64))
  | loop (milliseconds : Int) (now : R)

namespace LidarNode

variable {R : Type} [Field R] [LinearOrder R] [FloorRing R]

/-- One turn of the loop of `main`; `none` where it writes outside a message. -/
def loop (setting : LaserScanSetting R) (node : LidarNode R)
    (milliseconds : Int) (now : R) : Option (LidarNode R) :=
  let ((status, dst), ldlidarnode) :=
    node.ldlidarnode.getLaserScanData milliseconds 1500
  let node := { node with ldlidarnode := ldlidarnode }
  match status, dst with
  | .normal, some laserScanPoints =>
      let lidarScanFreq :=
        ldlidarnode.getLidarScanFreq.getD node.lidarScanFreq
      let node := { node with lidarScanFreq := lidarScanFreq }
      (node.publisher.toLaserscanMessagePublish laserScanPoints lidarScanFreq
        setting now).map fun publisher => { node with publisher := publisher }
  | _, _ => some node

/-- An event. -/
def handle (platform : LidarPlatform R) (setting : LaserScanSetting R)
    (node : LidarNode R) : LidarEvent R → Option (LidarNode R)
  | .read data =>
      some { node with
        ldlidarnode := { node.ldlidarnode with
          commPkg := node.ldlidarnode.commPkg.commReadCallback platform data } }
  | .loop milliseconds now => node.loop setting milliseconds now

/-- The node under its events. -/
def events (platform : LidarPlatform R) (setting : LaserScanSetting R) :
    Machine (LidarNode R) (LidarEvent R) where
  step := handle platform setting

/-- The bytes that an event brings, each with the time at which it is
handled. -/
def received : LidarEvent R → List (BitVec 8 × BitVec 64)
  | .read data => data
  | .loop _ _ => []

/-- The lidar's type, by the parameter `product_name`. -/
def typeName (productName : String) : Option LDType :=
  if productName = "LDLiDAR_LD06" then some .ld06
  else if productName = "LDLiDAR_LD19" then some .ld19
  else if productName = "LDLiDAR_STL27L" then some .stl27l
  else none

/-- `main`, up to its loop; `none` where it exits, or where it waits for the lidar
in other turns than these. -/
def main (platform : LidarPlatform R) (pkg : LiDARFrame)
    (productName portName : String) (serialPortBaudrate : BitVec 32)
    (opens : Bool) (lidarScanFreq : R) (now lastTime : Int)
    (turns : List LDLidarDriver.WaitTurn) : Option (LidarNode R) := do
  let typeName ← typeName productName
  let ldlidarnode := LDLidarDriver.make pkg now
  let ldlidarnode := ldlidarnode.registerGetTimestampFunctional
  let ldlidarnode := ldlidarnode.enableFilterAlgorithnmProcess true
  let (started, ldlidarnode) := ldlidarnode.start typeName portName
    serialPortBaudrate .serialMode opens
  if started then
    let (connected, ldlidarnode) ←
      ldlidarnode.waitLidarCommConnect platform 3000 lastTime turns
    if connected then
      some
        { ldlidarnode := ldlidarnode
          lidarScanFreq := lidarScanFreq
          publisher := .init }
    else none
  else none

/-- A node that `main` leaves has waited with a driver that was started, and has
published nothing. -/
theorem main_eq_some
    {platform : LidarPlatform R}
    {pkg : LiDARFrame}
    {productName portName : String}
    {serialPortBaudrate : BitVec 32}
    {opens : Bool}
    {lidarScanFreq : R}
    {now lastTime : Int}
    {turns : List LDLidarDriver.WaitTurn}
    {node : LidarNode R}
    (started : main platform pkg productName portName serialPortBaudrate opens
      lidarScanFreq now lastTime turns = some node) :
    node.publisher = .init ∧
      ∃ typeNumber, ∃ driver : LDLidarDriver R,
        driver.commPkg = .start pkg typeNumber true ∧
          driver.waitLidarCommConnect platform 3000 lastTime turns =
            some (true, node.ldlidarnode) := by
  simp only [main, Option.bind_eq_bind, Option.bind_eq_some_iff] at started
  obtain ⟨typeNumber, -, started⟩ := started
  split at started
  next ready =>
    have opened := LDLidarDriver.start_eq_true rfl ready
    rw [Option.bind_eq_some_iff] at started
    obtain ⟨⟨connected, driver⟩, waited, left⟩ := started
    dsimp only at left
    split at left
    next success =>
      obtain rfl := Option.some_inj.mp left
      rw [success] at waited
      refine ⟨rfl, typeNumber, _, ?_, waited⟩
      rw [opened]
      rfl
    next => contradiction
  next => contradiction

/-! ## Where the ranges come from -/

/-- Every range of a message is the distance of a point that falls on its beam,
and is one of a sound packet among the bytes. -/
def Traced (platform : LidarPlatform R) (setting : LaserScanSetting R)
    (bytes : List (BitVec 8)) (output : LidarScan R) : Prop :=
  ∀ (i : Nat) (reading : R), output.ranges[i]? = some (some reading) →
    ∃ packet, packet <:+: bytes ∧ IsPacket packet ∧
      ∃ lastPkgTimestamp currentPackStamp j,
        let point := LiPkg.point platform (.ofBytes packet) lastPkgTimestamp
          currentPackStamp j
        ScanPublisher.FallsOn setting output.ranges.length point i ∧
          reading = single ((point.distance.toNat : R) / 1000.0)

end LidarNode

namespace LiPkg

variable {R : Type} [Field R] [LinearOrder R] [FloorRing R]

/-- What holds of the lidar between the calls of the threads. -/
structure Sound (platform : LidarPlatform R) (started : LiPkg R)
    (data : List (BitVec 8 × BitVec 64)) (lidar : LiPkg R) : Prop where
  cutUp : CutUp platform started lidar data
  current : lidar.Current

theorem sound_start
    (platform : LidarPlatform R)
    (pkg : LiDARFrame)
    (typeNumber : LDType) :
    Sound platform (start pkg typeNumber true) []
      (start pkg typeNumber true) where
  cutUp := .start platform rfl rfl rfl
  current up := by contradiction

/-- The flags are for the main thread. -/
theorem Sound.flags
    {platform : LidarPlatform R}
    {started lidar : LiPkg R}
    {data : List (BitVec 8 × BitVec 64)}
    (sound : Sound platform started data lidar)
    (isPoweronCommNormal : Bool)
    {isFrameReady : Bool}
    (lower : isFrameReady = true → lidar.isFrameReady = true) :
    Sound platform started data
      { lidar with
        isPoweronCommNormal := isPoweronCommNormal
        isFrameReady := isFrameReady } :=
  ⟨⟨sound.cutUp.isFilter, sound.cutUp.productType,
    sound.cutUp.measurePointFrequence, sound.cutUp.analysis,
    sound.cutUp.lastPkgTimestamp, sound.cutUp.cut⟩,
    fun up => sound.current (lower up)⟩

theorem Sound.getLidarPowerOnCommStatus
    {platform : LidarPlatform R}
    {started lidar : LiPkg R}
    {data : List (BitVec 8 × BitVec 64)}
    (sound : Sound platform started data lidar) :
    Sound platform started data lidar.getLidarPowerOnCommStatus.2 := by
  unfold LiPkg.getLidarPowerOnCommStatus
  split
  next => exact sound.flags false id
  next => exact sound

variable [IsStrictOrderedRing R]

theorem Sound.read
    {platform : LidarPlatform R}
    {started lidar : LiPkg R}
    {before : List (BitVec 8 × BitVec 64)}
    (sound : Sound platform started before lidar)
    (data : List (BitVec 8 × BitVec 64)) :
    Sound platform started (before ++ data)
        (lidar.commReadCallback platform data) ∧
      lidar.frames ⊆ (lidar.commReadCallback platform data).frames ∧
      (lidar.analysis.accepted (data.map Prod.fst) = [] →
        (lidar.commReadCallback platform data).waiting ≤ lidar.waiting) := by
  obtain ⟨frames, current, waiting⟩ := lidar.parse_keeps platform data
  have step := (lidar.parse platform data).assemblePacket_assembled platform
  obtain ⟨kept, ready, less⟩ := step.keeps (current sound.current)
  exact ⟨⟨sound.cutUp.read data, ready⟩, frames ▸ kept,
    fun silent => less.trans_eq (waiting silent)⟩

theorem Sound.after
    {platform : LidarPlatform R}
    {started lidar : LiPkg R}
    {before : List (BitVec 8 × BitVec 64)}
    (sound : Sound platform started before lidar)
    (reads : Reads) :
    Sound platform started (before ++ reads.flatten)
      (lidar.after platform reads) := by
  induction reads generalizing lidar before with
  | nil => simpa [LiPkg.after] using sound
  | cons data reads inductionHypothesis =>
      rw [List.flatten_cons, ← List.append_assoc]
      exact inductionHypothesis (sound.read data).1

/-- No point of a frame has a negative angle. -/
theorem Sound.angle_nonneg
    {platform : LidarPlatform R}
    {started lidar : LiPkg R}
    {data : List (BitVec 8 × BitVec 64)}
    (sound : Sound platform started data lidar)
    {frame : List (PointData R)}
    (set : frame ∈ lidar.frames) :
    ∀ point ∈ frame, 0 ≤ point.angle := by
  intro left member
  obtain ⟨pkg, -, lastPkgTimestamp, currentPackStamp, point, inside, kept⟩ :=
    sound.cutUp.point_of_frame set member
  obtain ⟨i, rfl⟩ := List.mem_ofFn.mp inside
  have forward := LiPkg.angle_nonneg platform pkg lastPkgTimestamp
    currentPackStamp i
  rcases kept with rfl | rfl <;> exact forward

end LiPkg

/-- The lidar stays sound while the driver waits. -/
theorem LDLidarDriver.waitLidarCommConnect_sound
    {R : Type} [Field R] [LinearOrder R] [FloorRing R] [IsStrictOrderedRing R]
    {platform : LidarPlatform R}
    {timeout lastTime : Int}
    {turns : List WaitTurn}
    {started : LiPkg R}
    {before : List (BitVec 8 × BitVec 64)}
    {driver next : LDLidarDriver R}
    {connected : Bool}
    (sound : LiPkg.Sound platform started before driver.commPkg)
    (waited : driver.waitLidarCommConnect platform timeout lastTime turns =
      some (connected, next)) :
    LiPkg.Sound platform started (before ++ arrived turns) next.commPkg := by
  induction turns generalizing driver before with
  | nil => contradiction
  | cons turn turns inductionHypothesis =>
      have polled := (sound.after turn.reads).getLidarPowerOnCommStatus
      have joined : before ++ arrived (turn :: turns) =
          before ++ turn.reads.flatten ++ arrived turns := by
        simp [arrived]
      have last : turns.isEmpty = true →
          before ++ arrived (turn :: turns) =
            before ++ turn.reads.flatten := by
        intro empty
        rw [joined, List.isEmpty_iff.mp empty]
        simp [arrived]
      unfold waitLidarCommConnect at waited
      dsimp only at waited
      split_ifs at waited with received empty early empty
      · obtain ⟨-, rfl⟩ := Prod.mk.inj (Option.some_inj.mp waited)
        rw [last empty]
        exact polled
      · rw [joined]
        exact inductionHypothesis polled waited
      · obtain ⟨-, rfl⟩ := Prod.mk.inj (Option.some_inj.mp waited)
        rw [last empty]
        exact polled

namespace LidarNode

variable {R : Type} [Field R] [LinearOrder R] [FloorRing R]

/-- What holds of the node between its events. -/
structure Sound (platform : LidarPlatform R) (setting : LaserScanSetting R)
    (started : LiPkg R) (data : List (BitVec 8 × BitVec 64))
    (node : LidarNode R) : Prop where
  lidar : LiPkg.Sound platform started data node.ldlidarnode.commPkg
  messages : ∀ output ∈ node.publisher.published,
    ∃ frame ∈ node.ldlidarnode.commPkg.frames,
      ScanPublisher.beams setting frame =
        some (output.ranges, output.intensities)

variable [IsStrictOrderedRing R]

theorem Sound.read
    {platform : LidarPlatform R}
    {setting : LaserScanSetting R}
    {started : LiPkg R}
    {before : List (BitVec 8 × BitVec 64)}
    {node : LidarNode R}
    (sound : Sound platform setting started before node)
    (data : List (BitVec 8 × BitVec 64)) :
    Sound platform setting started (before ++ data)
      { node with
        ldlidarnode := { node.ldlidarnode with
          commPkg :=
            node.ldlidarnode.commPkg.commReadCallback platform data } } := by
  obtain ⟨lidar, kept, -⟩ := sound.lidar.read data
  refine ⟨lidar, ?_⟩
  intro output published
  obtain ⟨frame, set, made⟩ := sound.messages output published
  exact ⟨frame, kept set, made⟩

theorem Sound.loop
    {platform : LidarPlatform R}
    {setting : LaserScanSetting R}
    {started : LiPkg R}
    {data : List (BitVec 8 × BitVec 64)}
    {node : LidarNode R}
    (sound : Sound platform setting started data node)
    (milliseconds : Int)
    (now : R) :
    ∃ next, node.loop setting milliseconds now = some next ∧
      Sound platform setting started data next ∧
      next.publisher.published.length + next.ldlidarnode.commPkg.waiting ≤
        node.publisher.published.length +
          node.ldlidarnode.commPkg.waiting := by
  unfold LidarNode.loop
  rcases node.ldlidarnode.getLaserScanData_cases milliseconds 1500 with
    ⟨nothing, same⟩ | ⟨ready, taken, lowered⟩
  · generalize node.ldlidarnode.getLaserScanData milliseconds 1500 = got
      at nothing same
    obtain ⟨⟨status, dst⟩, driver⟩ := got
    dsimp only at nothing same
    subst nothing
    refine ⟨{ node with ldlidarnode := driver }, by cases status <;> rfl, ?_⟩
    dsimp only
    exact ⟨⟨same ▸ sound.lidar, same ▸ sound.messages⟩, same ▸ le_rfl⟩
  · generalize node.ldlidarnode.getLaserScanData milliseconds 1500 = got
      at taken lowered
    obtain ⟨⟨status, dst⟩, driver⟩ := got
    obtain ⟨rfl, rfl⟩ := Prod.mk.inj taken
    dsimp only at lowered ⊢
    have set := sound.lidar.current ready
    obtain ⟨publisher, called, published⟩ :=
      node.publisher.toLaserscanMessagePublish_total
        (sound.lidar.angle_nonneg set)
        (driver.getLidarScanFreq.getD node.lidarScanFreq) setting now
    rw [called]
    have untouched : LiPkg.Sound platform started data driver.commPkg := by
      rw [lowered]
      exact sound.lidar.flags _ (fun up => by contradiction)
    have less : driver.commPkg.waiting + 1 =
        node.ldlidarnode.commPkg.waiting := by
      rw [lowered, LiPkg.waiting, LiPkg.waiting, ready]
      rfl
    refine ⟨_, rfl, ⟨untouched, ?_⟩, ?_⟩
    · intro output member
      rw [lowered]
      rcases published with same | ⟨new, grown⟩
      · rw [same] at member
        exact sound.messages output member
      · rw [grown] at member
        rcases List.mem_cons.mp member with rfl | old
        · exact ⟨_, set, (ScanPublisher.published_beams called grown).1⟩
        · exact sound.messages output old
    · rcases published with same | ⟨new, grown⟩
      · rw [same]
        dsimp only
        omega
      · rw [grown, List.length_cons]
        dsimp only
        omega

/-- The node that `main` leaves. -/
theorem sound_main
    {platform : LidarPlatform R}
    (setting : LaserScanSetting R)
    {pkg : LiDARFrame}
    {productName portName : String}
    {serialPortBaudrate : BitVec 32}
    {opens : Bool}
    {lidarScanFreq : R}
    {now lastTime : Int}
    {turns : List LDLidarDriver.WaitTurn}
    {node : LidarNode R}
    (started : main platform pkg productName portName serialPortBaudrate opens
      lidarScanFreq now lastTime turns = some node) :
    ∃ typeNumber, Sound platform setting (.start pkg typeNumber true)
      (LDLidarDriver.arrived turns) node := by
  obtain ⟨publisher, typeNumber, driver, commPkg, waited⟩ :=
    main_eq_some started
  have begun : LiPkg.Sound platform (.start pkg typeNumber true) []
      driver.commPkg :=
    commPkg ▸ LiPkg.sound_start platform pkg typeNumber
  refine ⟨typeNumber, LDLidarDriver.waitLidarCommConnect_sound begun waited, ?_⟩
  rw [publisher]
  exact List.forall_mem_nil _

theorem Sound.run
    {platform : LidarPlatform R}
    {setting : LaserScanSetting R}
    {started : LiPkg R}
    {data : List (BitVec 8 × BitVec 64)}
    {node : LidarNode R}
    (sound : Sound platform setting started data node)
    (history : List (LidarEvent R)) :
    ∃ final, (events platform setting).run node history = some final ∧
      Sound platform setting started (data ++ history.flatMap received)
        final := by
  induction history generalizing data node with
  | nil => exact ⟨node, rfl, by simpa using sound⟩
  | cons event history inductionHypothesis =>
      rw [List.flatMap_cons, ← List.append_assoc]
      cases event with
      | read more => exact inductionHypothesis (sound.read more)
      | loop milliseconds now =>
          obtain ⟨next, looped, kept, -⟩ := sound.loop milliseconds now
          rw [Machine.run_cons]
          have stepped : (events platform setting).step node
              (.loop milliseconds now) = some next := looped
          rw [stepped, received, List.append_nil]
          exact inductionHypothesis kept

theorem Sound.traced
    {platform : LidarPlatform R}
    {setting : LaserScanSetting R}
    {started : LiPkg R}
    {data : List (BitVec 8 × BitVec 64)}
    {node : LidarNode R}
    (sound : Sound platform setting started data node)
    {pkg : LiDARFrame}
    (fresh : started.analysis = .init pkg)
    {output : LidarScan R}
    (published : output ∈ node.publisher.published) :
    Traced platform setting (data.map Prod.fst) output := by
  obtain ⟨frame, set, made⟩ := sound.messages output published
  obtain ⟨beams, same, shown⟩ :=
    ScanPublisher.beams_shown setting (sound.lidar.angle_nonneg set)
  obtain rfl := Option.some_inj.mp (same.symm.trans made)
  have length := shown.ranges
  dsimp only at length
  intro i reading shows
  obtain ⟨within, -⟩ := List.getElem?_eq_some_iff.mp shows
  rw [length] at within
  obtain ⟨⟨left, member, falls, ranged⟩, -⟩ :=
    (shown.isLeast within reading).mp shows
  obtain ⟨pkgRead, accepted, lastPkgTimestamp, currentPackStamp, point, listed,
    kept⟩ := sound.lidar.cutUp.point_of_frame set member
  rw [fresh] at accepted
  have framed := (Analysis.collecting_init pkg).framed (data.map Prod.fst)
  obtain ⟨packet, inside, good, rfl⟩ := framed.exists_packet accepted
  obtain ⟨j, rfl⟩ := List.mem_ofFn.mp listed
  -- a masked point would have no range
  unfold ScanPublisher.range at ranged
  split at ranged
  next => contradiction
  next visible =>
    rcases kept with rfl | rfl
    · refine ⟨packet, inside, good, lastPkgTimestamp, currentPackStamp, j, ?_,
        (Option.some_inj.mp ranged).symm⟩
      rwa [length]
    · exact absurd (Or.inl ⟨rfl, rfl⟩) visible

/-- Whatever the lidar sends and whenever the loop of `main` goes round: the
node never writes outside a message, and every range that it publishes is one of
a sound packet, on the beam of its angle. -/
theorem ranges_of_run
    (platform : LidarPlatform R)
    (setting : LaserScanSetting R)
    {pkg : LiDARFrame}
    {productName portName : String}
    {serialPortBaudrate : BitVec 32}
    {opens : Bool}
    {lidarScanFreq : R}
    {now lastTime : Int}
    {turns : List LDLidarDriver.WaitTurn}
    {node : LidarNode R}
    (started : main platform pkg productName portName serialPortBaudrate opens
      lidarScanFreq now lastTime turns = some node)
    (history : List (LidarEvent R)) :
    ∃ final, (events platform setting).run node history = some final ∧
      ∀ output ∈ final.publisher.published,
        Traced platform setting
          ((LDLidarDriver.arrived turns ++
            history.flatMap received).map Prod.fst) output := by
  obtain ⟨typeNumber, begun⟩ := sound_main setting started
  obtain ⟨final, ran, sound⟩ := begun.run history
  exact ⟨final, ran, fun output published => sound.traced rfl published⟩

/-- The lidar's first packet comes while `main` waits for it. -/
def firstPacket : List LDLidarDriver.WaitTurn :=
  [⟨[], 1⟩, ⟨[LiPkg.metreBetween 34500 35800 1000000], 2⟩]

theorem isSome_main_firstPacket :
    (main (.insertion ℚ) Analysis.metreAround "LDLiDAR_LD06" "/dev/ttyAMA4"
      230400 true 0 0 0 firstPacket).isSome = true := by
  decide +kernel

/-- The robot's lidar, when `main` has started it. -/
def robotLidar : LidarNode ℚ :=
  (main (.insertion ℚ) Analysis.metreAround "LDLiDAR_LD06" "/dev/ttyAMA4"
    230400 true 0 0 0 firstPacket).get isSome_main_firstPacket

theorem main_robotLidar :
    main (.insertion ℚ) Analysis.metreAround "LDLiDAR_LD06" "/dev/ttyAMA4"
      230400 true 0 0 0 firstPacket = some robotLidar :=
  (Option.some_get isSome_main_firstPacket).symm

/-- The lidar comes round three times. -/
def threeTurns : List (LidarEvent ℚ) :=
  [.read (LiPkg.metreBetween 34500 35800 4000000),
    .read (LiPkg.metreBetween 0 1300 7000000),
    .read (LiPkg.metreBetween 34500 35800 10000000),
    .read (LiPkg.metreBetween 0 1300 13000000),
    .loop 100 (1 / 10),
    .read (LiPkg.metreBetween 34500 35800 16000000),
    .read (LiPkg.metreBetween 0 1300 19000000)]

/-- After them the loop of `main` goes round. -/
def threeTurnsSeen : List (LidarEvent ℚ) :=
  threeTurns ++ [.loop 200 (2 / 10)]

/-- The first frame that `main` gets begins the time of a scan, the second one is
published. -/
theorem ranges_of_run_threeTurns :
    ∃ final,
      (events (.insertion ℚ) ScanPublisher.robotSetting).run robotLidar
        threeTurnsSeen = some final ∧
      (final.publisher.published.map fun output => output.ranges.length) =
        [24] ∧
      ∀ output ∈ final.publisher.published,
        Traced (.insertion ℚ) ScanPublisher.robotSetting
          ((LDLidarDriver.arrived firstPacket ++
            threeTurnsSeen.flatMap received).map Prod.fst) output := by
  obtain ⟨final, ran, traced⟩ := ranges_of_run (.insertion ℚ)
    ScanPublisher.robotSetting main_robotLidar threeTurnsSeen
  have count : ((events (.insertion ℚ) ScanPublisher.robotSetting).run
      robotLidar threeTurnsSeen).map (fun final =>
        final.publisher.published.map fun output => output.ranges.length) =
          some [24] := by
    decide +kernel
  rw [ran, Option.map_some] at count
  exact ⟨final, ran, Option.some_inj.mp count, traced⟩

/-! ## A silent lidar -/

theorem Sound.silence
    {platform : LidarPlatform R}
    {setting : LaserScanSetting R}
    {started : LiPkg R}
    {data : List (BitVec 8 × BitVec 64)}
    {node : LidarNode R}
    (sound : Sound platform setting started data node)
    {rest : List (LidarEvent R)}
    (silent : node.ldlidarnode.commPkg.analysis.accepted
      ((rest.flatMap received).map Prod.fst) = []) :
    ∃ final, (events platform setting).run node rest = some final ∧
      final.publisher.published.length + final.ldlidarnode.commPkg.waiting ≤
        node.publisher.published.length +
          node.ldlidarnode.commPkg.waiting := by
  induction rest generalizing data node with
  | nil => exact ⟨node, rfl, le_rfl⟩
  | cons event rest inductionHypothesis =>
      rw [List.flatMap_cons, List.map_append, Analysis.accepted_append,
        List.append_eq_nil_iff] at silent
      obtain ⟨here, later⟩ := silent
      cases event with
      | read more =>
          have next := sound.read more
          obtain ⟨-, -, less⟩ := sound.lidar.read more
          have analysed := next.lidar.cutUp.analysis
          rw [List.map_append, Analysis.after_append,
            ← sound.lidar.cutUp.analysis] at analysed
          obtain ⟨final, ran, bounded⟩ := inductionHypothesis next
            (by rw [analysed]; exact later)
          exact ⟨final, ran, bounded.trans (Nat.add_le_add_left (less here) _)⟩
      | loop milliseconds now =>
          obtain ⟨next, looped, kept, less⟩ := sound.loop milliseconds now
          have analysed := kept.lidar.cutUp.analysis.trans
            sound.lidar.cutUp.analysis.symm
          obtain ⟨final, ran, bounded⟩ := inductionHypothesis kept
            (by rw [analysed]; exact later)
          refine ⟨final, ?_, bounded.trans less⟩
          have stepped : (events platform setting).step node
              (.loop milliseconds now) = some next := looped
          rw [Machine.run_cons, stepped]
          exact ran

/-- Once no packet comes any more, what is still published has waited in the
driver: one message at most for every point that waits to become part of a
frame, and one for the frame that is ready. -/
theorem messages_of_silence
    (platform : LidarPlatform R)
    (setting : LaserScanSetting R)
    {pkg : LiDARFrame}
    {productName portName : String}
    {serialPortBaudrate : BitVec 32}
    {opens : Bool}
    {lidarScanFreq : R}
    {now lastTime : Int}
    {turns : List LDLidarDriver.WaitTurn}
    {node middle : LidarNode R}
    (started : main platform pkg productName portName serialPortBaudrate opens
      lidarScanFreq now lastTime turns = some node)
    (history rest : List (LidarEvent R))
    (reached : (events platform setting).run node history = some middle)
    (silent : middle.ldlidarnode.commPkg.analysis.accepted
      ((rest.flatMap received).map Prod.fst) = []) :
    ∃ final, (events platform setting).run middle rest = some final ∧
      final.publisher.published.length ≤
        middle.publisher.published.length +
          middle.ldlidarnode.commPkg.waiting := by
  obtain ⟨typeNumber, begun⟩ := sound_main setting started
  obtain ⟨other, ran, sound⟩ := begun.run history
  obtain rfl := Option.some_inj.mp (reached.symm.trans ran)
  obtain ⟨final, ended, bounded⟩ := sound.silence silent
  exact ⟨final, ended, (Nat.le_add_right _ _).trans bounded⟩

theorem isSome_run_threeTurns :
    ((events (.insertion ℚ) ScanPublisher.robotSetting).run robotLidar
      threeTurns).isSome = true := by
  decide +kernel

/-- A frame is ready and the points of a packet wait. -/
def lidarReady : LidarNode ℚ :=
  ((events (.insertion ℚ) ScanPublisher.robotSetting).run robotLidar
    threeTurns).get isSome_run_threeTurns

/-- The frame that is ready is published, the points are not. -/
theorem messages_of_silence_lidarReady :
    lidarReady.publisher.published.length = 0 ∧
      lidarReady.ldlidarnode.commPkg.waiting = 13 ∧
      ∃ final,
        (events (.insertion ℚ) ScanPublisher.robotSetting).run lidarReady
          [.loop 200 (2 / 10), .read [(0x2c, 20000000)], .loop 300 (3 / 10)] =
            some final ∧
        final.publisher.published.length = 1 ∧
        final.publisher.published.length ≤ 0 + 13 := by
  have reached : (events (.insertion ℚ) ScanPublisher.robotSetting).run
      robotLidar threeTurns = some lidarReady :=
    (Option.some_get isSome_run_threeTurns).symm
  have evaluated : lidarReady.publisher.published.length = 0 ∧
      lidarReady.ldlidarnode.commPkg.waiting = 13 ∧
      lidarReady.ldlidarnode.commPkg.analysis.accepted [0x2c] = [] ∧
      ((events (.insertion ℚ) ScanPublisher.robotSetting).run lidarReady
        [.loop 200 (2 / 10), .read [(0x2c, 20000000)],
          .loop 300 (3 / 10)]).map (fun final =>
            final.publisher.published.length) = some 1 := by
    decide +kernel
  obtain ⟨published, waiting, silent, count⟩ := evaluated
  obtain ⟨final, ran, bounded⟩ := messages_of_silence (.insertion ℚ)
    ScanPublisher.robotSetting main_robotLidar threeTurns
    [.loop 200 (2 / 10), .read [(0x2c, 20000000)], .loop 300 (3 / 10)] reached
    silent
  rw [ran, Option.map_some] at count
  rw [published, waiting] at bounded
  exact ⟨published, waiting, final, ran, Option.some_inj.mp count, bounded⟩

end LidarNode
end Skatebot
