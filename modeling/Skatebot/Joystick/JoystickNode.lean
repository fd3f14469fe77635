import Mathlib.Data.List.Infix
import Skatebot.Joystick.ActionClient

/-!
# `JoystickNode`

The node that starts the sensors' actions and turns the turret at the press of
a button.  Its process holds the publisher of the servo's commands, which lets
one command a second through, and the two action clients.
-/

namespace Skatebot

open Library

/-! ## `ServoTurretNode` -/

/-- `ServoTurretNode`, with the time of its last message in nanoseconds of the
steady clock. -/
structure ServoTurretNode where
  lastCalled : Int
  /-- What has been published on `servo/turret`, newest first. -/
  publisher : List Int
  deriving DecidableEq

namespace ServoTurretNode

/-- `kWaitDelayMs`, in nanoseconds. -/
def waitDelay : Int := 1000 * 1000000

/-- Before the first call; the static variable is the epoch of the clock. -/
def init : ServoTurretNode where
  lastCalled := 0
  publisher := []

/-- The rate limiter lets a call at the given time through. -/
def LetsThrough (node : ServoTurretNode) (now : Int) : Prop :=
  now - node.lastCalled > waitDelay

instance (node : ServoTurretNode) (now : Int) :
    Decidable (node.LetsThrough now) :=
  inferInstanceAs (Decidable (_ > _))

/-- `ServoTurretNode::SetPosition`. -/
def setPosition (node : ServoTurretNode) (now degrees : Int) :
    ServoTurretNode :=
  if node.LetsThrough now then
    { lastCalled := now
      publisher := degrees :: node.publisher }
  else node

theorem setPosition_of_letsThrough
    {node : ServoTurretNode} {now : Int}
    (through : node.LetsThrough now)
    (degrees : Int) :
    node.setPosition now degrees = ⟨now, degrees :: node.publisher⟩ :=
  if_pos through

theorem setPosition_of_not_letsThrough
    {node : ServoTurretNode} {now : Int}
    (held : ¬node.LetsThrough now)
    (degrees : Int) :
    node.setPosition now degrees = node :=
  if_neg held

/-- What has been published stays published. -/
theorem setPosition_grows (node : ServoTurretNode) (now degrees : Int) :
    node.publisher <:+ (node.setPosition now degrees).publisher := by
  unfold setPosition
  split
  next => exact List.suffix_cons _ _
  next => exact List.suffix_refl _

/-- A call that was let through has published its angle. -/
theorem setPosition_head
    {node : ServoTurretNode} {now degrees : Int}
    (through : (node.setPosition now degrees).publisher ≠ node.publisher) :
    (node.setPosition now degrees).publisher.head? = some degrees := by
  unfold setPosition at through ⊢
  split at through
  next passes => rw [if_pos passes, List.head?_cons]
  next => contradiction

end ServoTurretNode

/-! ## `JoystickNode` -/

/-- The parameters of `JoystickNode`. -/
structure JoystickParameters where
  buttonRotateTurretForward : Int
  buttonRotateTurretBackward : Int
  buttonStartAcoustic : Int
  buttonStartUltrasonic : Int
  deriving DecidableEq

/-- Their declared values. -/
def JoystickParameters.declared : JoystickParameters where
  buttonRotateTurretForward := 3
  buttonRotateTurretBackward := 2
  buttonStartAcoustic := 0
  buttonStartUltrasonic := 1

/-- The fields of `JoystickNode` that its callback reads. -/
structure JoystickNode where
  buttonRotateTurretForward : Int
  buttonRotateTurretBackward : Int
  buttonStartAcoustic : Int
  buttonStartUltrasonic : Int
  deriving DecidableEq

/-- A Joy message, with what its callback finds: the memory beyond the buttons,
the clock at the two calls of `SetPosition`, and the availability of the two
servers. -/
structure JoyCall where
  buttons : List Int
  stray : Int → Int
  forwardNow : Int
  backwardNow : Int
  acousticAvailable : Bool
  ultrasonicAvailable : Bool

/-- `msg->buttons[index]` as a condition. -/
def JoyCall.Pressed (call : JoyCall) (index : Int) : Prop :=
  (if 0 ≤ index then call.buttons[index.toNat]?.getD (call.stray index)
    else call.stray index) ≠ 0

instance (call : JoyCall) (index : Int) : Decidable (call.Pressed index) :=
  inferInstanceAs (Decidable (_ ≠ _))

/-- The button is pressed, and no other is. -/
def JoyCall.Alone (call : JoyCall) (index : Int) : Prop :=
  ∀ other, call.Pressed other ↔ other = index

/-- The process `joystick_action_controller`. -/
structure JoystickActionController where
  joystickNode : JoystickNode
  servoTurret : ServoTurretNode
  acousticClient : ActionClient
  ultrasonicClient : ActionClient
  deriving DecidableEq

/-- What calls the process back. -/
inductive JoystickEvent
  | joy (call : JoyCall)
  | acoustic (event : ActionEvent)
  | ultrasonic (event : ActionEvent)

namespace JoystickNode

/-- `kTurretAngleForward`. -/
def turretAngleForward : Int := 0

/-- `kTurretAngleBackward`. -/
def turretAngleBackward : Int := 180

/-- `JoystickNode::JoystickNode`.  Each of the turret's buttons is read from
the parameter that is named after the other. -/
def init (parameters : JoystickParameters) : JoystickNode where
  buttonRotateTurretBackward := parameters.buttonRotateTurretForward
  buttonRotateTurretForward := parameters.buttonRotateTurretBackward
  buttonStartAcoustic := parameters.buttonStartAcoustic
  buttonStartUltrasonic := parameters.buttonStartUltrasonic

end JoystickNode

namespace JoystickActionController

/-- `main`; the ultrasonic client's flag is what its memory held. -/
def init (parameters : JoystickParameters) (memory : Bool) :
    JoystickActionController where
  joystickNode := .init parameters
  servoTurret := .init
  acousticClient := .init .acousticActionClient memory
  ultrasonicClient := .init .ultrasonicActionClient memory

/-- `JoystickNode::RotateTurret`. -/
def rotateTurret (process : JoystickActionController) (now newAngle : Int) :
    JoystickActionController :=
  { process with servoTurret := process.servoTurret.setPosition now newAngle }

/-- `JoystickNode::StartAcousticAction`. -/
def startAcousticAction (process : JoystickActionController)
    (serverAvailable : Bool) : JoystickActionController :=
  { process with
    acousticClient := process.acousticClient.start serverAvailable }

/-- `JoystickNode::StartUltrasonicAction`. -/
def startUltrasonicAction (process : JoystickActionController)
    (serverAvailable : Bool) : JoystickActionController :=
  { process with
    ultrasonicClient := process.ultrasonicClient.start serverAvailable }

/-- `JoystickNode::Callback`. -/
def callback (process : JoystickActionController) (call : JoyCall) :
    JoystickActionController :=
  let node := process.joystickNode
  let process :=
    if call.Pressed node.buttonRotateTurretForward then
      process.rotateTurret call.forwardNow JoystickNode.turretAngleForward
    else process
  let process :=
    if call.Pressed node.buttonRotateTurretBackward then
      process.rotateTurret call.backwardNow JoystickNode.turretAngleBackward
    else process
  let process :=
    if call.Pressed node.buttonStartAcoustic then
      process.startAcousticAction call.acousticAvailable
    else process
  if call.Pressed node.buttonStartUltrasonic then
    process.startUltrasonicAction call.ultrasonicAvailable
  else process

/-- The callback for an event; `none` where a server answers a goal that there
is not, or a client is started by other than the node. -/
def handle (process : JoystickActionController) :
    JoystickEvent → Option JoystickActionController
  | .joy call => some (process.callback call)
  | .acoustic (.start _) => none
  | .ultrasonic (.start _) => none
  | .acoustic event =>
      (process.acousticClient.handle event).map fun client =>
        { process with acousticClient := client }
  | .ultrasonic event =>
      (process.ultrasonicClient.handle event).map fun client =>
        { process with ultrasonicClient := client }

/-- The process under its callbacks. -/
def callbacks : Machine JoystickActionController JoystickEvent where
  step process event := process.handle event

/-! ## What one callback does -/

/-- What a Joy message makes of the publisher: the two buttons of the turret
are looked at in turn. -/
theorem callback_servoTurret
    (process : JoystickActionController) (call : JoyCall) :
    (process.callback call).servoTurret =
      let forward :=
        if call.Pressed process.joystickNode.buttonRotateTurretForward then
          process.servoTurret.setPosition call.forwardNow
            JoystickNode.turretAngleForward
        else process.servoTurret
      if call.Pressed process.joystickNode.buttonRotateTurretBackward then
        forward.setPosition call.backwardNow JoystickNode.turretAngleBackward
      else forward := by
  unfold callback rotateTurret startAcousticAction startUltrasonicAction
  dsimp only
  split_ifs <;> rfl

theorem callback_joystickNode
    (process : JoystickActionController) (call : JoyCall) :
    (process.callback call).joystickNode = process.joystickNode := by
  unfold callback rotateTurret startAcousticAction startUltrasonicAction
  dsimp only
  split_ifs <;> rfl

/-- Only a Joy message reaches the publisher, and nothing reaches the node's
own fields. -/
theorem handle_cases
    {before after : JoystickActionController}
    {event : JoystickEvent}
    (handled : before.handle event = some after) :
    after.joystickNode = before.joystickNode ∧
      ((∃ call, event = .joy call ∧ after = before.callback call) ∨
        after.servoTurret = before.servoTurret) := by
  cases event with
  | joy call =>
      obtain rfl := Option.some.inj handled
      exact ⟨callback_joystickNode before call, Or.inl ⟨call, rfl, rfl⟩⟩
  | acoustic event =>
      cases event with
      | start serverAvailable => contradiction
      | _ =>
          obtain ⟨client, -, rfl⟩ := Option.map_eq_some_iff.mp handled
          exact ⟨rfl, Or.inr rfl⟩
  | ultrasonic event =>
      cases event with
      | start serverAvailable => contradiction
      | _ =>
          obtain ⟨client, -, rfl⟩ := Option.map_eq_some_iff.mp handled
          exact ⟨rfl, Or.inr rfl⟩

/-- What has been published stays published. -/
theorem handle_grows
    {before after : JoystickActionController}
    {event : JoystickEvent}
    (handled : before.handle event = some after) :
    before.servoTurret.publisher <:+ after.servoTurret.publisher := by
  obtain ⟨-, ⟨call, rfl, rfl⟩ | kept⟩ := handle_cases handled
  · rw [callback_servoTurret]
    dsimp only
    split_ifs
    next =>
      exact (ServoTurretNode.setPosition_grows _ call.forwardNow 0).trans
        (ServoTurretNode.setPosition_grows _ call.backwardNow 180)
    next => exact ServoTurretNode.setPosition_grows _ call.backwardNow 180
    next => exact ServoTurretNode.setPosition_grows _ call.forwardNow 0
    next => exact List.suffix_refl _
  · rw [kept]

/-- The node's fields stay as its constructor leaves them. -/
theorem run_joystickNode
    {process final : JoystickActionController}
    {events : List JoystickEvent}
    (reached : callbacks.run process events = some final) :
    final.joystickNode = process.joystickNode := by
  apply callbacks.invariant_of_run
    (fun state => state.joystickNode = process.joystickNode) _ rfl reached
  intro before event after same handled
  rw [(handle_cases handled).1, same]

end JoystickActionController
end Skatebot
