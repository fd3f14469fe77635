import Skatebot.Imu.Batch
import Mathlib.Algebra.Order.Field.Rat

/-!
# The node of the inertial sensor

`bno08x_ros.cpp` gathers what the sensor hub reports: once an orientation, an
acceleration and an angular velocity have come since its last message, it
publishes the latest of each.
-/

namespace Skatebot

open Library LittleEndian Shtp

/-- `geometry_msgs/Vector3`. -/
structure Vector3 where
  x : ℚ
  y : ℚ
  z : ℚ
  deriving DecidableEq

/-- `geometry_msgs/Quaternion`. -/
structure Orientation where
  x : ℚ
  y : ℚ
  z : ℚ
  w : ℚ
  deriving DecidableEq

/-! ## Decoding -/

/-- `sh2_SensorValue_t`, as far as the node reads it. -/
inductive SensorValue
  | accelerometer (acceleration : Vector3)
  | gyroscope (velocity : Vector3)
  | magneticField (field : Vector3)
  | rotationVector (orientation : Orientation)
  | other
  deriving DecidableEq

/-- `SH2_ACCELEROMETER`. -/
def sh2Accelerometer : BitVec 8 := 0x01

/-- `SH2_GYROSCOPE_CALIBRATED`. -/
def sh2GyroscopeCalibrated : BitVec 8 := 0x02

/-- `SH2_MAGNETIC_FIELD_CALIBRATED`. -/
def sh2MagneticFieldCalibrated : BitVec 8 := 0x03

/-- `SH2_ROTATION_VECTOR`. -/
def sh2RotationVector : BitVec 8 := 0x05

/-- The other reports that `sh2_decodeSensorEvent` knows. -/
def otherReports : List (BitVec 8) :=
  [0x04, 0x06, 0x07, 0x08, 0x09, 0x0a, 0x0b, 0x0c, 0x0d, 0x0e, 0x0f, 0x10, 0x11,
    0x12, 0x13, 0x14, 0x15, 0x16, 0x17, 0x18, 0x19, 0x1a, 0x1b, 0x1c, 0x1e,
    0x1f, 0x20, 0x21, 0x22, 0x23, 0x28, 0x29, 0x2A, 0x2B]

/-- `read16(&event->report[offset]) * SCALE_Q(n)`, which no rounding changes. -/
def scaled (n : ℕ) (report : List (BitVec 8)) (offset : ℕ) : ℚ :=
  (field 2 report offset).toInt / 2 ^ n

/-- Three numbers from the fifth byte on. -/
def scaledVector (n : ℕ) (report : List (BitVec 8)) : Vector3 :=
  ⟨scaled n report 4, scaled n report 6, scaled n report 8⟩

/-- How many bytes of a report are read. -/
def decodedBytes (reportId : BitVec 8) : ℕ :=
  if reportId = sh2RotationVector then 14
  else if reportId = sh2Accelerometer ∨ reportId = sh2GyroscopeCalibrated ∨
    reportId = sh2MagneticFieldCalibrated then 10
  else 0

/-- `sh2_decodeSensorEvent`, nothing on an error. -/
def decodeSensorEvent (event : SensorEvent) : Option SensorValue :=
  if event.reportId = sh2Accelerometer then
    some (.accelerometer (scaledVector 8 event.report))
  else if event.reportId = sh2GyroscopeCalibrated then
    some (.gyroscope (scaledVector 9 event.report))
  else if event.reportId = sh2MagneticFieldCalibrated then
    some (.magneticField (scaledVector 4 event.report))
  else if event.reportId = sh2RotationVector then
    some (.rotationVector ⟨scaled 14 event.report 4, scaled 14 event.report 6,
      scaled 14 event.report 8, scaled 14 event.report 10⟩)
  else if otherReports.contains event.reportId then some .other
  else none

/-! ## The node -/

/-- `sensor_msgs/Imu`, less its header and its covariances. -/
structure ImuMessage where
  orientation : Orientation
  angularVelocity : Vector3
  linearAcceleration : Vector3
  deriving DecidableEq

/-- `ROTATION_VECTOR_RECEIVED`. -/
def rotationVectorReceived : BitVec 8 := 0x01

/-- `ACCELEROMETER_RECEIVED`. -/
def accelerometerReceived : BitVec 8 := 0x02

/-- `GYROSCOPE_RECEIVED`. -/
def gyroscopeReceived : BitVec 8 := 0x04

/-- `BNO08xROS`, with what it published, the last one last. -/
structure Bno08xRos where
  publishImu : Bool
  publishMagneticField : Bool
  imuMsg : ImuMessage
  magMsg : Vector3
  imuReceivedFlag : BitVec 8
  /-- How often the watchdog was reset. -/
  watchdogResets : ℕ
  imuPublished : List ImuMessage
  magneticFieldPublished : List Vector3
  deriving DecidableEq

namespace Bno08xRos

/-- The cases of `BNO08xROS::sensor_callback`. -/
def receive (node : Bno08xRos) : SensorValue → Bno08xRos
  | .magneticField field =>
      { node with
        magMsg := field
        magneticFieldPublished :=
          if node.publishMagneticField then
            node.magneticFieldPublished ++ [field]
          else node.magneticFieldPublished }
  | .rotationVector orientation =>
      { node with
        imuMsg := { node.imuMsg with orientation := orientation }
        imuReceivedFlag := node.imuReceivedFlag ||| rotationVectorReceived }
  | .accelerometer acceleration =>
      { node with
        imuMsg := { node.imuMsg with linearAcceleration := acceleration }
        imuReceivedFlag := node.imuReceivedFlag ||| accelerometerReceived }
  | .gyroscope velocity =>
      { node with
        imuMsg := { node.imuMsg with angularVelocity := velocity }
        imuReceivedFlag := node.imuReceivedFlag ||| gyroscopeReceived }
  | .other => node

/-- `BNO08xROS::sensor_callback`.  It has no result where it publishes by a
publisher that was never created. -/
def sensorCallback (node : Bno08xRos) (value : SensorValue) :
    Option Bno08xRos :=
  let node := { node with watchdogResets := node.watchdogResets + 1 }
  let node := node.receive value
  if node.imuReceivedFlag = rotationVectorReceived ||| accelerometerReceived |||
      gyroscopeReceived then
    if node.publishImu then
      some { node with
        imuPublished := node.imuPublished ++ [node.imuMsg]
        imuReceivedFlag := 0 }
    else none
  else some node

/-- `BNO08x::sensor_event_callback`.  It has no result when a byte is decoded
that the hub did not send. -/
def sensorEventCallback (event : SensorEvent) (node : Bno08xRos) :
    Option Bno08xRos :=
  if decodedBytes event.reportId ≤ event.report.length then
    match decodeSensorEvent event with
    | some value => node.sensorCallback value
    | none => some node
  else none

end Bno08xRos

/-! ## What a message is made of -/

namespace SensorValue

def orientation : SensorValue → Option Orientation
  | rotationVector orientation => some orientation
  | _ => none

def acceleration : SensorValue → Option Vector3
  | accelerometer acceleration => some acceleration
  | _ => none

def velocity : SensorValue → Option Vector3
  | gyroscope velocity => some velocity
  | _ => none

end SensorValue

/-- The last of some values that has a part. -/
def lastOf {Part : Type} (part : SensorValue → Option Part)
    (values : List SensorValue) : Option Part :=
  (values.filterMap part).getLast?

/-- Each part of a message is among some values. -/
def Complete (values : List SensorValue) : Prop :=
  (lastOf SensorValue.orientation values).isSome ∧
    (lastOf SensorValue.acceleration values).isSome ∧
    (lastOf SensorValue.velocity values).isSome

/-- Each part of a message is the latest among some values. -/
structure Latest (values : List SensorValue) (message : ImuMessage) :
    Prop where
  orientation : lastOf SensorValue.orientation values =
    some message.orientation
  linearAcceleration : lastOf SensorValue.acceleration values =
    some message.linearAcceleration
  angularVelocity : lastOf SensorValue.velocity values =
    some message.angularVelocity

/-- The messages that some values are to lead to: one as soon as each part has
come since the one before, of the latest of each. -/
inductive Messages : List SensorValue → List ImuMessage → Prop
  | pending {values} (incomplete : ¬Complete values) : Messages values []
  | message {values later message messages} (complete : Complete values)
      (soon : ¬Complete values.dropLast) (latest : Latest values message)
      (rest : Messages later messages) :
      Messages (values ++ later) (message :: messages)

theorem lastOf_append
    {Part : Type}
    (part : SensorValue → Option Part)
    (first second : List SensorValue) :
    lastOf part (first ++ second) =
      (lastOf part second).or (lastOf part first) := by
  rw [lastOf, List.filterMap_append, List.getLast?_append]
  rfl

theorem lastOf_concat
    {Part : Type}
    (part : SensorValue → Option Part)
    (values : List SensorValue)
    (value : SensorValue) :
    lastOf part (values ++ [value]) = (part value).or (lastOf part values) := by
  rw [lastOf_append]
  cases found : part value <;> simp [lastOf, found]

theorem Complete.append
    {values : List SensorValue}
    (complete : Complete values)
    (later : List SensorValue) :
    Complete (values ++ later) := by
  obtain ⟨orientation, acceleration, velocity⟩ := complete
  simp [Complete, lastOf_append, orientation, acceleration, velocity]

/-- Values that are complete only with the last one end at one place. -/
theorem first_complete_unique
    {first second later after : List SensorValue}
    (same : first ++ later = second ++ after)
    (complete : Complete first)
    (soon : ¬Complete second.dropLast)
    (shorter : first.length ≤ second.length) :
    first = second := by
  obtain ⟨gap, rfl⟩ := List.prefix_of_prefix_length_le
    (List.prefix_append first later) (same ▸ List.prefix_append second after)
    shorter
  rcases List.eq_nil_or_concat gap with rfl | ⟨init, value, rfl⟩
  · exact (List.append_nil first).symm
  · rw [List.concat_eq_append, ← List.append_assoc, List.dropLast_concat]
      at soon
    exact absurd (complete.append init) soon

theorem Latest.unique
    {values : List SensorValue}
    {first second : ImuMessage}
    (one : Latest values first)
    (other : Latest values second) :
    first = second := by
  cases first
  cases second
  have orientation := one.orientation.symm.trans other.orientation
  have velocity := one.angularVelocity.symm.trans other.angularVelocity
  have acceleration :=
    one.linearAcceleration.symm.trans other.linearAcceleration
  simp_all only [Option.some.injEq]

/-- The values determine the messages. -/
theorem Messages.unique
    {values : List SensorValue}
    {first second : List ImuMessage}
    (one : Messages values first)
    (other : Messages values second) :
    first = second := by
  induction one generalizing second with
  | pending incomplete =>
      cases other with
      | pending => rfl
      | message complete => exact absurd (complete.append _) incomplete
  | @message segment later message messages complete soon latest rest
      inductionHypothesis =>
      generalize whole : segment ++ later = values at other
      cases other with
      | pending incomplete =>
          exact absurd (whole ▸ complete.append later) incomplete
      | @message another after _ _ again last second others =>
          obtain rfl : segment = another := by
            rcases le_total segment.length another.length with shorter | shorter
            · exact first_complete_unique whole complete last shorter
            · exact (first_complete_unique whole.symm again soon shorter).symm
          obtain rfl := List.append_cancel_left whole
          rw [latest.unique second, inductionHypothesis others]

namespace Bno08xRos

/-- The flag for the parts that have come. -/
def flags (orientation acceleration velocity : Bool) : BitVec 8 :=
  (if orientation then rotationVectorReceived else 0) |||
    (if acceleration then accelerometerReceived else 0) |||
      (if velocity then gyroscopeReceived else 0)

theorem flags_eq_iff :
    ∀ orientation acceleration velocity,
      flags orientation acceleration velocity =
        rotationVectorReceived ||| accelerometerReceived |||
          gyroscopeReceived ↔
        orientation ∧ acceleration ∧ velocity := by
  decide

/-- The node has the latest of each part among some values. -/
structure Gathering (node : Bno08xRos) (values : List SensorValue) :
    Prop where
  publishImu : node.publishImu = true
  flag : node.imuReceivedFlag =
    flags (lastOf SensorValue.orientation values).isSome
      (lastOf SensorValue.acceleration values).isSome
      (lastOf SensorValue.velocity values).isSome
  orientation : ∀ orientation,
    lastOf SensorValue.orientation values = some orientation →
      node.imuMsg.orientation = orientation
  linearAcceleration : ∀ acceleration,
    lastOf SensorValue.acceleration values = some acceleration →
      node.imuMsg.linearAcceleration = acceleration
  angularVelocity : ∀ velocity,
    lastOf SensorValue.velocity values = some velocity →
      node.imuMsg.angularVelocity = velocity

theorem flags_or :
    ∀ orientation acceleration velocity,
      flags orientation acceleration velocity ||| rotationVectorReceived =
          flags true acceleration velocity ∧
        flags orientation acceleration velocity ||| accelerometerReceived =
          flags orientation true velocity ∧
        flags orientation acceleration velocity ||| gyroscopeReceived =
          flags orientation acceleration true := by
  decide

theorem not_complete_nil : ¬Complete [] :=
  fun complete => nomatch complete.1

theorem gathering_nil
    {node : Bno08xRos}
    (publishImu : node.publishImu = true)
    (nothing : node.imuReceivedFlag = 0) :
    node.Gathering [] :=
  ⟨publishImu, nothing, nofun, nofun, nofun⟩

/-- The node takes a value. -/
theorem Gathering.receive
    {node : Bno08xRos}
    {values : List SensorValue}
    (gathering : node.Gathering values)
    (value : SensorValue) :
    (node.receive value).Gathering (values ++ [value]) := by
  obtain ⟨publishImu, flag, orientation, acceleration, velocity⟩ := gathering
  cases value with
  | magneticField | other =>
      refine ⟨publishImu, ?_, ?_, ?_, ?_⟩ <;> simp only [lastOf_concat]
      · exact flag
      · exact orientation
      · exact acceleration
      · exact velocity
  | rotationVector part =>
      refine ⟨publishImu, ?_, ?_, ?_, ?_⟩ <;> simp only [lastOf_concat]
      · exact (congrArg (· ||| rotationVectorReceived) flag).trans
          (flags_or ..).1
      · exact fun _ same => Option.some_inj.mp same
      · exact acceleration
      · exact velocity
  | accelerometer part =>
      refine ⟨publishImu, ?_, ?_, ?_, ?_⟩ <;> simp only [lastOf_concat]
      · exact (congrArg (· ||| accelerometerReceived) flag).trans
          (flags_or ..).2.1
      · exact orientation
      · exact fun _ same => Option.some_inj.mp same
      · exact velocity
  | gyroscope part =>
      refine ⟨publishImu, ?_, ?_, ?_, ?_⟩ <;> simp only [lastOf_concat]
      · exact (congrArg (· ||| gyroscopeReceived) flag).trans
          (flags_or ..).2.2
      · exact orientation
      · exact acceleration
      · exact fun _ same => Option.some_inj.mp same

/-- A value completes a message, which is published, or not. -/
theorem Gathering.sensorCallback
    {node : Bno08xRos}
    {values : List SensorValue}
    (gathering : node.Gathering values)
    (value : SensorValue) :
    ∃ next, node.sensorCallback value = some next ∧
      ((∃ message, Complete (values ++ [value]) ∧
          Latest (values ++ [value]) message ∧ next.Gathering [] ∧
          next.imuPublished = node.imuPublished ++ [message]) ∨
        (¬Complete (values ++ [value]) ∧ next.Gathering (values ++ [value]) ∧
          next.imuPublished = node.imuPublished)) := by
  have counted : { node with
      watchdogResets := node.watchdogResets + 1 }.Gathering values :=
    ⟨gathering.publishImu, gathering.flag, gathering.orientation,
      gathering.linearAcceleration, gathering.angularVelocity⟩
  have received := counted.receive value
  have unpublished : ({ node with
      watchdogResets := node.watchdogResets + 1 }.receive value).imuPublished =
        node.imuPublished := by
    cases value <;> rfl
  unfold Bno08xRos.sensorCallback
  dsimp only
  by_cases complete : Complete (values ++ [value])
  · have all := received.flag.trans ((flags_eq_iff ..).mpr complete)
    obtain ⟨orientation, acceleration, velocity⟩ := complete
    obtain ⟨_, lastOrientation⟩ := Option.isSome_iff_exists.mp orientation
    obtain ⟨_, lastAcceleration⟩ := Option.isSome_iff_exists.mp acceleration
    obtain ⟨_, lastVelocity⟩ := Option.isSome_iff_exists.mp velocity
    rw [if_pos all, if_pos received.publishImu]
    refine ⟨_, rfl, .inl ⟨_, ⟨orientation, acceleration, velocity⟩,
      ⟨?_, ?_, ?_⟩, gathering_nil received.publishImu rfl,
      congrArg (· ++ [_]) unpublished⟩⟩
    · rw [lastOrientation, received.orientation _ lastOrientation]
    · rw [lastAcceleration, received.linearAcceleration _ lastAcceleration]
    · rw [lastVelocity, received.angularVelocity _ lastVelocity]
  · rw [if_neg fun all => complete
      ((flags_eq_iff ..).mp (received.flag.symm.trans all))]
    exact ⟨_, rfl, .inr ⟨complete, received, unpublished⟩⟩

/-- From a message on, the node publishes the messages that the values are to
lead to. -/
theorem foldlM_sensorCallback
    {node : Bno08xRos}
    {pending : List SensorValue}
    (gathering : node.Gathering pending)
    (incomplete : ¬Complete pending)
    (values : List SensorValue) :
    ∃ final messages,
      values.foldlM Bno08xRos.sensorCallback node = some final ∧
      Messages (pending ++ values) messages ∧
      final.imuPublished = node.imuPublished ++ messages := by
  induction values generalizing node pending with
  | nil =>
      exact ⟨node, [], rfl, .pending (by rwa [List.append_nil]), by simp⟩
  | cons value values inductionHypothesis =>
      have joined : pending ++ value :: values =
          (pending ++ [value]) ++ values := by
        simp
      obtain ⟨middle, one, ⟨message, complete, latest, again, published⟩ |
        ⟨still, onward, unpublished⟩⟩ := gathering.sensorCallback value
      · obtain ⟨final, messages, rest, later, publishedRest⟩ :=
          inductionHypothesis again not_complete_nil
        refine ⟨final, message :: messages, ?_, ?_, ?_⟩
        · rw [List.foldlM_cons, one]
          exact rest
        · rw [joined]
          refine .message complete ?_ latest later
          rwa [List.dropLast_concat]
        · rw [publishedRest, published, List.append_assoc]
          rfl
      · obtain ⟨final, messages, rest, later, publishedRest⟩ :=
          inductionHypothesis onward still
        refine ⟨final, messages, ?_, ?_, ?_⟩
        · rw [List.foldlM_cons, one]
          exact rest
        · rwa [joined]
        · rw [publishedRest, unpublished]

/-! ## From the hub to the messages -/

theorem foldlM_sensorEventCallback
    {events : List SensorEvent}
    (sized : ∀ event ∈ events,
      decodedBytes event.reportId ≤ event.report.length)
    (node : Bno08xRos) :
    events.foldlM (fun node event => sensorEventCallback event node) node =
      (events.filterMap decodeSensorEvent).foldlM Bno08xRos.sensorCallback
        node := by
  induction events generalizing node with
  | nil => rfl
  | cons event events inductionHypothesis =>
      obtain ⟨here, later⟩ := List.forall_mem_cons.mp sized
      rw [List.foldlM_cons, List.filterMap_cons, sensorEventCallback,
        if_pos here]
      cases decodeSensorEvent event with
      | none => exact inductionHypothesis later node
      | some value =>
          rw [List.foldlM_cons]
          exact bind_congr fun next => inductionHypothesis later next

/-- A node that has received nothing yet. -/
def started : Bno08xRos where
  publishImu := true
  publishMagneticField := false
  imuMsg := ⟨⟨0, 0, 0, 0⟩, ⟨0, 0, 0⟩, ⟨0, 0, 0⟩⟩
  magMsg := ⟨0, 0, 0⟩
  imuReceivedFlag := 0
  watchdogResets := 0
  imuPublished := []
  magneticFieldPublished := []

/-- A report of the accelerometer or the gyroscope. -/
def motion (reportId : BitVec 8) (known : reportId = 1 ∨ reportId = 2)
    (x z : BitVec 16) : Reading where
  reportId := reportId
  sequence := 0
  status := 3
  delay := 0
  data := fieldBytes 2 x ++ [0, 0] ++ fieldBytes 2 z
  apart := by rcases known with rfl | rfl <;> decide
  short := by simp [sh2MaxSensorEventLen]

/-- Upright. -/
def upright : Reading where
  reportId := 5
  sequence := 0
  status := 3
  delay := 0
  data := [0, 0, 0, 0, 0, 0, 0, 0x40, 0, 0]
  apart := by decide
  short := by decide

/-- Two orientations, two accelerations and an angular velocity. -/
def threeBatches : List Batch :=
  [⟨3, [.base 3, .sensor upright], 1000⟩,
    ⟨3, [.sensor (motion 1 (.inl rfl) 7 0),
      .sensor (motion 1 (.inl rfl) 0 2432)], 2000⟩,
    ⟨3, [.sensor (motion 2 (.inr rfl) 1 0), .sensor upright], 3000⟩]

/-- Their cargos.  An angular velocity between them is lost. -/
def threeBatchesCargos : List Cargo :=
  [{ chan := 3
     pieces :=
      [⟨[0xFB, 3, 0, 0, 0, 5, 0], by decide, some 1000⟩,
        ⟨[3, 0, 0, 0, 0, 0, 0, 0, 0, 0x40, 0, 0], by decide, some 1200⟩]
     fits := by decide },
    { chan := 3
      pieces := [⟨[2, 0, 3, 0, 9, 0, 0, 0, 0, 0], by decide, none⟩]
      fits := by decide },
    { chan := 3
      pieces :=
        [⟨[1, 0, 3, 0, 7, 0, 0, 0, 0, 0, 1, 0, 3, 0, 0, 0, 0, 0, 0x80, 9],
          by decide, some 2000⟩]
      fits := by decide },
    { chan := 3
      pieces :=
        [⟨[2, 0, 3, 0, 1, 0, 0, 0, 0, 0, 5, 0, 3, 0, 0, 0, 0, 0, 0, 0, 0, 0x40,
          0, 0], by decide, some 3000⟩]
      fits := by decide }]

/-- The message that they lead to. -/
def uprightMessage : ImuMessage where
  orientation := ⟨0, 0, 0, 1⟩
  angularVelocity := ⟨1 / 512, 0, 0⟩
  linearAcceleration := ⟨0, 0, 19 / 2⟩

instance (values : List SensorValue) : Decidable (Complete values) :=
  inferInstanceAs (Decidable (_ ∧ _ ∧ _))

theorem messages_threeBatches :
    Messages ((threeBatches.flatMap Batch.events).filterMap decodeSensorEvent)
      [uprightMessage] := by
  have decoded :
      (threeBatches.flatMap Batch.events).filterMap decodeSensorEvent =
        [.rotationVector ⟨0, 0, 0, 1⟩, .accelerometer ⟨7 / 256, 0, 0⟩,
          .accelerometer ⟨0, 0, 19 / 2⟩, .gyroscope ⟨1 / 512, 0, 0⟩] ++
        [.rotationVector ⟨0, 0, 0, 1⟩] := by
    decide +kernel
  rw [decoded]
  exact .message (by decide) (by decide) ⟨rfl, rfl, rfl⟩
    (.pending (by decide))

end Bno08xRos
end Skatebot
