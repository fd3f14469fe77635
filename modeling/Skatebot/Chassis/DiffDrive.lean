import Mathlib.Tactic.Linarith
import Mathlib.Tactic.NormNum
import Skatebot.Messages

/-!
# `DiffDriveController`

The controller turns velocity commands into wheel speeds with two lengths that
it looks up in the robot description: the wheels' distance from the centre and
their radius.  Each lookup can fail in ways of its own, and both report failure
by a length of -1.0.
-/

namespace Skatebot

open Library

variable {R : Type} [Field R] [LinearOrder R]

/-! ## Robot descriptions -/

/-- `urdf::Geometry`, with the dimensions that the controller reads. -/
inductive Geometry (R : Type)
  | sphere
  | box
  | cylinder (radius : R)
  | mesh
  deriving DecidableEq

/-- `urdf::Visual`. -/
structure Visual (R : Type) where
  geometry : Option (Geometry R)

/-- `urdf::Link`. -/
structure Link (R : Type) where
  visual : Option (Visual R)

/-- `urdf::Joint`, with the component of its origin that the controller
reads. -/
structure Joint (R : Type) where
  positionY : R

/-- `urdf::Model`.  A pointer of the library is `none` where it is null. -/
structure Model (R : Type) where
  getJoint : String → Option (Joint R)
  getLink : String → Option (Link R)

/-! ## The controller -/

/-- `DiffDriveController`. -/
structure DiffDriveController (R : Type) where
  /-- The model, once the description has been loaded. -/
  model : Option (Model R)
  /-- The parameter `use_sim_time`. -/
  useSimTime : Bool

namespace DiffDriveController

/-- `DiffDriveController::GetWheelDistance`. -/
def getWheelDistance (controller : DiffDriveController R) : R :=
  match controller.model with
  | some model =>
      match model.getJoint "joint_front_left" with
      | some wheelJoint => |wheelJoint.positionY|
      | none => -1.0
  | none => -1.0

/-- `DiffDriveController::GetWheelRadius`; `none` where it dereferences a null
pointer. -/
def getWheelRadius (controller : DiffDriveController R) : Option R :=
  match controller.model with
  | some model => do
      let wheelLink ← model.getLink "front_left_wheel"
      let visual ← wheelLink.visual
      let geometry ← visual.geometry
      match geometry with
      | .cylinder radius => some radius
      | _ => some (-1.0)
  | none => some (-1.0)

/-- `DiffDriveController::PublishAllMotorsMessage`. -/
def allMotorsMessage
    (frontLeftRadS frontRightRadS rearLeftRadS rearRightRadS : Double R) :
    WheelSpeeds R :=
  let motor (id : Int) (speed : Double R) : MotorControl R :=
    { id := id
      mode := MotorControl.modeRadiansSecond
      angleRadians := some 0
      rpm := some 0
      speedRadiansS := speed }
  .allMotors
    [motor MotorControl.frontLeft frontLeftRadS,
      motor MotorControl.frontRight frontRightRadS,
      motor MotorControl.rearLeft rearLeftRadS,
      motor MotorControl.rearRight rearRightRadS]

/-- `DiffDriveController::PublishSimulationMessage`. -/
def simulationMessage
    (frontLeftRadS frontRightRadS rearLeftRadS rearRightRadS : Double R) :
    WheelSpeeds R :=
  .simulation [frontLeftRadS, frontRightRadS, rearLeftRadS, rearRightRadS]

/-- The speeds of the left and the right wheels that
`DiffDriveController::CommandCallback` computes. -/
def sideSpeeds (wheelDistance wheelRadius : R) (msg : Twist R) :
    Double R × Double R :=
  let rotationSpeedEffect := msg.angularZ * wheelDistance
  let rightMS := msg.linearX + rotationSpeedEffect
  let leftMS := msg.linearX - rotationSpeedEffect
  let wheelCircumference := 2.0 * pi * wheelRadius
  let meters2Radians := Double.quotient (2.0 * pi) wheelCircumference
  (meters2Radians.map (leftMS * ·), meters2Radians.map (rightMS * ·))

/-- `DiffDriveController::CommandCallback`: `none` where it dereferences a null
pointer, otherwise the message that it publishes, if any. -/
def commandCallback (controller : DiffDriveController R) (msg : Twist R) :
    Option (Option (WheelSpeeds R)) := do
  let wheelDistance := controller.getWheelDistance
  let wheelRadius ← controller.getWheelRadius
  if wheelDistance > 0 ∨ wheelRadius > 0 then
    let (leftRadS, rightRadS) := sideSpeeds wheelDistance wheelRadius msg
    if controller.useSimTime then
      some (some (simulationMessage leftRadS rightRadS leftRadS rightRadS))
    else
      some (some (allMotorsMessage leftRadS rightRadS leftRadS rightRadS))
  else
    some none

/-! ## What the controller promises -/

/-- A positive wheel radius has been read. -/
def ReadsRadius (controller : DiffDriveController R) : Prop :=
  ∃ radius, controller.getWheelRadius = some radius ∧ 0 < radius

/-- The callback dereferences no null pointer, and it publishes exactly where
it has read two positive lengths. -/
def Careful (controller : DiffDriveController R) (msg : Twist R) : Prop :=
  ∃ published, controller.commandCallback msg = some published ∧
    (published.isSome = true ↔
      0 < controller.getWheelDistance ∧ controller.ReadsRadius)

end DiffDriveController

namespace Model

/-- The joint is there, and it lies off the centre line. -/
def OffCentre (model : Model R) : Prop :=
  ∃ wheelJoint, model.getJoint "joint_front_left" = some wheelJoint ∧
    wheelJoint.positionY ≠ 0

/-- The geometry of the wheel, where link, visual and geometry are there. -/
def wheelGeometry (model : Model R) : Option (Geometry R) := do
  let wheelLink ← model.getLink "front_left_wheel"
  let visual ← wheelLink.visual
  visual.geometry

end Model

/-- A cylinder with a radius that a wheel can have. -/
def Geometry.Round (geometry : Geometry R) : Prop :=
  ∃ radius, geometry = .cylinder radius ∧ 0 < radius

/-- The radius of a cylinder, or the sign of failure. -/
def Geometry.radius : Geometry R → R
  | .cylinder radius => radius
  | _ => -1.0

section

variable [IsStrictOrderedRing R]

theorem Geometry.radius_pos_iff (geometry : Geometry R) :
    0 < geometry.radius ↔ geometry.Round := by
  have failure : ¬(0 : R) < -1.0 := by norm_num
  cases geometry with
  | cylinder radius => simp [Geometry.radius, Round]
  | sphere => exact iff_of_false failure (by rintro ⟨_, ⟨⟩, _⟩)
  | box => exact iff_of_false failure (by rintro ⟨_, ⟨⟩, _⟩)
  | mesh => exact iff_of_false failure (by rintro ⟨_, ⟨⟩, _⟩)

namespace DiffDriveController

variable {controller : DiffDriveController R}

theorem getWheelDistance_pos_iff
    {model : Model R}
    (loaded : controller.model = some model) :
    0 < controller.getWheelDistance ↔ model.OffCentre := by
  have failure : ¬(0 : R) < -1.0 := by norm_num
  unfold getWheelDistance Model.OffCentre
  rw [loaded]
  cases found : model.getJoint "joint_front_left" with
  | none => simpa [found] using failure
  | some wheelJoint => simp [found]

omit [LinearOrder R] [IsStrictOrderedRing R] in
theorem getWheelRadius_loaded
    {model : Model R}
    (loaded : controller.model = some model) :
    controller.getWheelRadius =
      model.wheelGeometry.map Geometry.radius := by
  unfold getWheelRadius Model.wheelGeometry
  rw [loaded]
  cases linked : model.getLink "front_left_wheel" with
  | none => simp [linked]
  | some wheelLink =>
      cases found : wheelLink.visual with
      | none => simp [linked, found]
      | some visual =>
          cases seen : visual.geometry with
          | none => simp [linked, found, seen]
          | some geometry =>
              cases geometry <;> simp [linked, found, seen, Geometry.radius]

omit [IsStrictOrderedRing R] in
/-- What is published, where no null pointer is dereferenced. -/
theorem commandCallback_isSome
    {wheelRadius : R}
    (read : controller.getWheelRadius = some wheelRadius)
    (msg : Twist R) :
    ∃ published, controller.commandCallback msg = some published ∧
      (published.isSome = true ↔
        0 < controller.getWheelDistance ∨ 0 < wheelRadius) := by
  unfold commandCallback
  rw [read]
  by_cases valid : controller.getWheelDistance > 0 ∨ wheelRadius > 0
  · cases controller.useSimTime <;> simp [valid]
  · simp [valid]

omit [IsStrictOrderedRing R] in
/-- Where the radius has been read, the disjunction has to be a conjunction. -/
theorem careful_iff_of_read
    {wheelRadius : R}
    (read : controller.getWheelRadius = some wheelRadius)
    (msg : Twist R) :
    controller.Careful msg ↔
      (0 < controller.getWheelDistance ↔ 0 < wheelRadius) := by
  obtain ⟨published, ends, publishes⟩ :=
    commandCallback_isSome read msg
  have reads : controller.ReadsRadius ↔ 0 < wheelRadius := by
    unfold ReadsRadius
    rw [read]
    simp
  unfold Careful
  rw [ends, reads]
  simp only [Option.some.injEq, exists_eq_left']
  rw [publishes]
  tauto

/-- The callback is careful exactly when no description has been loaded, or the
loaded one has a geometry for the wheel's link and gives a positive value for
both lengths or for neither. -/
theorem careful_iff (controller : DiffDriveController R) (msg : Twist R) :
    controller.Careful msg ↔
      ∀ model, controller.model = some model →
        ∃ geometry, model.wheelGeometry = some geometry ∧
          (model.OffCentre ↔ geometry.Round) := by
  cases loaded : controller.model with
  | none =>
      refine iff_of_true ?_ (by simp)
      have failure : ¬(0 : R) < -1.0 := by norm_num
      have distance : controller.getWheelDistance = -1.0 := by
        unfold getWheelDistance
        rw [loaded]
      have radius : controller.getWheelRadius = some (-1.0) := by
        unfold getWheelRadius
        rw [loaded]
      rw [careful_iff_of_read radius, distance]
  | some model =>
      simp only [Option.some.injEq, forall_eq']
      have radius := getWheelRadius_loaded loaded
      cases found : model.wheelGeometry with
      | none =>
          rw [found, Option.map_none] at radius
          refine iff_of_false ?_ (by simp)
          rintro ⟨published, ends, -⟩
          unfold commandCallback at ends
          rw [radius] at ends
          contradiction
      | some geometry =>
          rw [found, Option.map_some] at radius
          rw [careful_iff_of_read radius, getWheelDistance_pos_iff loaded,
            geometry.radius_pos_iff]
          simp

end DiffDriveController
end

/-! ## The description of the robot -/

namespace DiffDriveController

/-- The part of the robot's description that the controller looks at. -/
def skatebot : Model ℚ where
  getJoint name :=
    if name = "front_left_wheel_joint" then some { positionY := 0.0525 }
    else none
  getLink name :=
    if name = "front_left_wheel" then
      some { visual := some { geometry := some (.cylinder 0.05) } }
    else none

/-- The controller with the robot's description. -/
def deployed : DiffDriveController ℚ where
  model := some skatebot
  useSimTime := false

/-- The robot's description has no joint `joint_front_left`, so that the
distance is -1.0, and the speeds are published all the same. -/
theorem missing_joint_publishes :
    ¬∀ (controller : DiffDriveController ℚ) (msg : Twist ℚ),
      controller.Careful msg := by
  intro careful
  have read : deployed.getWheelRadius = some 0.05 := rfl
  have distance : deployed.getWheelDistance = -1.0 := rfl
  have both := (careful_iff_of_read read _).mp
    (careful deployed { linearX := 0, angularZ := 1 })
  rw [distance] at both
  exact absurd (both.mpr (by norm_num)) (by norm_num)

example :
    deployed.commandCallback { linearX := 0, angularZ := 1 } =
      some (some (allMotorsMessage (some 20) (some (-20)) (some 20)
        (some (-20)))) := by
  decide +kernel

/-- The description under the names that the controller looks up. -/
def renamed : Model ℚ where
  getJoint name :=
    if name = "joint_front_left" then some { positionY := 0.0525 } else none
  getLink := skatebot.getLink

theorem careful_renamed :
    ({ model := some renamed, useSimTime := false } :
      DiffDriveController ℚ).Careful { linearX := 0.15, angularZ := 1 } := by
  refine (careful_iff _ _).mpr ?_
  rintro _ ⟨⟩
  refine ⟨.cylinder 0.05, rfl, iff_of_true ?_ ?_⟩
  · exact ⟨_, rfl, by norm_num⟩
  · exact ⟨_, rfl, by norm_num⟩

end DiffDriveController
end Skatebot
