import Skatebot.Driver.ServoNode
import Skatebot.Joystick.JoystickNode
import Skatebot.Library.Channel
import Skatebot.Turret.TurretJoystick

/-!
# Where the turret is sent

Two nodes command the turret, and `ServoNode` obeys: `TurretJoystickNode`, which
announces the direction that it has chosen, and `JoystickNode`, with a button
for each direction.  Each of them is joined to `ServoNode` by the channel of
the servo's topic, whose queue may drop all messages but the newest.
-/

namespace Skatebot

open Library

/-! ## `ServoNode` behind a channel -/

namespace ServoNode

variable {State : Type u} {Event : Type v}
  {channel : Channel State Event Int ServoNode}

/-- The limits stay, whatever has been received. -/
theorem received_position
    (receives : channel.receive = callback)
    (servo : ServoNode) (seen : List Int) :
    (channel.received servo seen).position = servo.position := by
  induction seen with
  | nil => rfl
  | cons angle seen inductionHypothesis =>
      rw [Channel.received_cons, receives, callback_position,
        inductionHypothesis]

/-- When no message is waiting, the last position is that of the newest
message sent. -/
theorem drained_lastPosition
    (receives : channel.receive = callback)
    {servo : ServoNode}
    {sender : State}
    (silent : channel.log sender = [])
    {events : List (ChannelEvent Event)}
    {whole : Channelled State ServoNode}
    (reached :
      channel.joined.run (Channel.start sender servo) events = some whole)
    (drained : whole.waiting = 0)
    {newest : Int}
    (sent : (channel.log whole.sender).head? = some newest) :
    whole.receiver.lastPosition = some (servo.position newest) := by
  obtain ⟨seen, saw⟩ := Channel.run_saw silent reached
  have head := (saw.drained drained).2
  rw [sent] at head
  cases seen with
  | nil => contradiction
  | cons angle seen =>
      obtain rfl := Option.some.inj head
      rw [saw.receiver, Channel.received_cons, receives, lastPosition_callback,
        received_position receives]

end ServoNode

/-! ## `TurretJoystickNode` -/

namespace TurretJoystickNode

/-- What has been sent stays sent. -/
theorem handle_grows
    {before after : TurretJoystickNode}
    {event : TurretEvent}
    (handled : before.handle event = some after) :
    before.servoPub <:+ after.servoPub := by
  rcases handle_cases handled with
    ⟨-, accepted⟩ | ⟨-, ⟨-, ticked⟩ | ⟨-, kept⟩⟩
  · rw [accepted.servoPub]
    exact List.suffix_cons _ _
  · cases ticked with
    | nothing => exact List.suffix_refl _
    | spent => exact List.suffix_refl _
    | again command => exact List.suffix_cons _ _
  · rw [kept.servoPub]

/-- The node and the channel of `servo_topic`. -/
def toServoNode : Channel TurretJoystickNode TurretEvent Int ServoNode where
  machine := callbacks
  log := servoPub
  receive := ServoNode.callback
  grows := handle_grows

/-- The last direction published is the one that the node is in. -/
def Announces (node : TurretJoystickNode) : Prop :=
  node.directionPub.head? = some node.isForward

theorem publishTurretDirection_announces (node : TurretJoystickNode) :
    node.publishTurretDirection.Announces := rfl

theorem toggleTurret_announces
    {node after : TurretJoystickNode}
    {subscriptionCount : Nat}
    (toggled : node.toggleTurret subscriptionCount = some after) :
    after.Announces := by
  unfold toggleTurret at toggled
  split at toggled
  next =>
    obtain rfl := Option.some.inj toggled
    apply publishTurretDirection_announces
  next =>
    simp only [Option.bind_eq_bind, Option.bind_eq_some_iff] at toggled
    obtain ⟨sent, -, toggled⟩ := toggled
    obtain rfl := Option.some.inj toggled
    apply publishTurretDirection_announces

theorem Announces.handle
    {before after : TurretJoystickNode}
    (announces : before.Announces)
    {event : TurretEvent}
    (handled : before.handle event = some after) :
    after.Announces := by
  cases event with
  | alignment =>
      simp only [TurretJoystickNode.handle, Option.ite_none_right_eq_some,
        alignTurretOnStartup, Option.bind_eq_bind,
        Option.bind_eq_some_iff] at handled
      obtain ⟨-, sent, -, handled⟩ := handled
      obtain rfl := Option.some.inj handled
      apply publishTurretDirection_announces
  | joy buttons subscriptionCount =>
      simp only [TurretJoystickNode.handle, joyCallback] at handled
      split at handled
      next =>
        obtain rfl := Option.some.inj handled
        exact announces
      next =>
        simp only [Option.bind_eq_bind, Option.bind_eq_some_iff] at handled
        obtain ⟨buttonState, -, handled⟩ := handled
        split at handled
        next =>
          obtain ⟨middle, toggled, handled⟩ :=
            Option.bind_eq_some_iff.mp handled
          obtain rfl := Option.some.inj handled
          have announced : middle.Announces := toggleTurret_announces toggled
          exact announced
        next =>
          obtain rfl := Option.some.inj handled
          exact announces
  | repeatTimer =>
      cases repeatServoCommand_ticked handled with
      | nothing => exact announces
      | spent => exact announces
      | again => exact announces
  | publishTimer =>
      obtain rfl := Option.some.inj handled
      apply publishTurretDirection_announces

theorem run_announces
    {parameters : TurretParameters}
    {events : List TurretEvent}
    {node : TurretJoystickNode}
    (reached : callbacks.run (init parameters) events = some node) :
    node.Announces := by
  have started : (init parameters).Announces := rfl
  exact callbacks.invariant_of_run Announces
    (fun announces handled => announces.handle handled) started reached

theorem run_parameters
    {parameters : TurretParameters}
    {events : List TurretEvent}
    {node : TurretJoystickNode}
    (reached : callbacks.run (init parameters) events = some node) :
    node.parameters = parameters := by
  apply callbacks.invariant_of_run (fun node => node.parameters = parameters)
    _ _ reached
  · intro before event after same handled
    rcases handle_cases handled with
      ⟨-, accepted⟩ | ⟨-, ⟨-, ticked⟩ | ⟨-, kept⟩⟩
    · rw [accepted.parameters, same]
    · cases ticked <;> exact same
    · rw [kept.parameters, same]
  · rfl

/-- The turret is sent where the node announces exactly when the command for
the announced direction lies on that direction's side of 90 degrees. -/
theorem sent_as_announced_iff
    {servo : ServoNode}
    (distinct : servo.turretForwardDegrees ≠ servo.turretBackwardDegrees)
    {parameters : TurretParameters}
    {events : List (ChannelEvent TurretEvent)}
    {whole : Channelled TurretJoystickNode ServoNode}
    (reached : toServoNode.joined.run
      (Channel.start (init parameters) servo) events = some whole)
    (drained : whole.waiting = 0)
    (commanded : whole.sender.servoPub ≠ [])
    {announced : Bool}
    (published : whole.sender.directionPub.head? = some announced) :
    (whole.receiver.lastPosition = some servo.turretForwardDegrees ↔
        announced = true) ↔
      (parameters.command announced < 90 ↔ announced = true) := by
  have alone := Channel.run_sender reached
  have direction : announced = whole.sender.isForward := by
    have announces := run_announces alone
    exact Option.some.inj (published.symm.trans announces)
  have sent : whole.sender.servoPub.head? =
      some (parameters.command announced) := by
    have head := List.head?_eq_some_head commanded
    rw [head, (run_agrees alone).sent _ head, command, direction]
    rw [run_parameters alone]
  rw [ServoNode.drained_lastPosition rfl rfl reached drained sent,
    Option.some_inj, ServoNode.position_eq_forward distinct]

end TurretJoystickNode

/-! ## `JoystickNode` -/

namespace JoystickActionController

/-- The process and the channel of `servo/turret`. -/
def toServoNode :
    Channel JoystickActionController JoystickEvent Int ServoNode where
  machine := callbacks
  log process := process.servoTurret.publisher
  receive := ServoNode.callback
  grows := handle_grows

/-- Both buttons of the turret are the same one, and the limiter lets the first
of its two commands through and holds the second back. -/
def SentForward (process : JoystickActionController)
    (parameters : JoystickParameters) (call : JoyCall) : Prop :=
  parameters.buttonRotateTurretForward =
      parameters.buttonRotateTurretBackward ∧
    process.servoTurret.LetsThrough call.forwardNow ∧
    call.backwardNow - call.forwardNow ≤ ServoTurretNode.waitDelay

instance (process : JoystickActionController)
    (parameters : JoystickParameters) (call : JoyCall) :
    Decidable (process.SentForward parameters call) :=
  inferInstanceAs (Decidable (_ ∧ _ ∧ _))

/-- The angle that a press, alone, of the button configured as
`button_rotate_turret_forward` sends. -/
theorem pressed_angle
    {parameters : JoystickParameters}
    {process : JoystickActionController}
    (configured : process.joystickNode = .init parameters)
    {call : JoyCall}
    (alone : call.Alone parameters.buttonRotateTurretForward)
    (through : (process.callback call).servoTurret.publisher ≠
      process.servoTurret.publisher) :
    (process.callback call).servoTurret.publisher.head? =
      some
        (if process.SentForward parameters call then
          JoystickNode.turretAngleForward
        else JoystickNode.turretAngleBackward) := by
  rw [callback_servoTurret, configured] at through ⊢
  simp only [JoystickNode.init, alone _, if_true] at through ⊢
  by_cases same : parameters.buttonRotateTurretBackward =
      parameters.buttonRotateTurretForward
  · rw [if_pos same] at through ⊢
    by_cases first : process.servoTurret.LetsThrough call.forwardNow
    · rw [ServoTurretNode.setPosition_of_letsThrough first]
      by_cases second :
        call.backwardNow - call.forwardNow ≤ ServoTurretNode.waitDelay
      · -- The second command comes too soon after the first.
        rw [ServoTurretNode.setPosition_of_not_letsThrough
            (not_lt.mpr second),
          if_pos ⟨same.symm, first, second⟩, List.head?_cons]
      · rw [ServoTurretNode.setPosition_of_letsThrough (not_le.mp second),
          if_neg fun given => second given.2.2, List.head?_cons]
    · rw [ServoTurretNode.setPosition_of_not_letsThrough first] at through ⊢
      rw [if_neg fun given => first given.2.1]
      exact ServoTurretNode.setPosition_head through
  · rw [if_neg same] at through ⊢
    rw [if_neg fun given => same given.1.symm]
    exact ServoTurretNode.setPosition_head through

/-- After a press, alone, of the button configured as
`button_rotate_turret_forward` that the limiter lets through, the turret is sent
forward only if the other button is the same one. -/
theorem turned_forward_iff
    {servo : ServoNode}
    (distinct : servo.turretForwardDegrees ≠ servo.turretBackwardDegrees)
    {parameters : JoystickParameters}
    {memory : Bool}
    {events rest : List (ChannelEvent JoystickEvent)}
    {before pressed after : Channelled JoystickActionController ServoNode}
    {call : JoyCall}
    (reached : toServoNode.joined.run
      (Channel.start (init parameters memory) servo) events = some before)
    (alone : call.Alone parameters.buttonRotateTurretForward)
    (stepped :
      toServoNode.joined.step before (.sends (.joy call)) = some pressed)
    (through : pressed.sender.servoTurret.publisher ≠
      before.sender.servoTurret.publisher)
    (delivering : toServoNode.joined.run pressed rest = some after)
    (nothingSent : after.sender.servoTurret.publisher =
      pressed.sender.servoTurret.publisher)
    (drained : after.waiting = 0) :
    after.receiver.lastPosition = some servo.turretForwardDegrees ↔
      before.sender.SentForward parameters call := by
  have whole : toServoNode.joined.run
      (Channel.start (init parameters memory) servo)
        (events ++ .sends (.joy call) :: rest) = some after := by
    rw [Machine.run_append_eq_some]
    refine ⟨before, reached, ?_⟩
    rw [Machine.run_cons_eq_some]
    exact ⟨pressed, stepped, delivering⟩
  have configured : before.sender.joystickNode = .init parameters :=
    run_joystickNode (Channel.run_sender reached)
  have called : before.sender.callback call = pressed.sender :=
    Option.some.inj (Channel.step_sender stepped)
  rw [← called] at through nothingSent
  have sent := pressed_angle configured alone through
  rw [← nothingSent] at sent
  rw [ServoNode.drained_lastPosition rfl rfl whole drained sent,
    Option.some_inj, ServoNode.position_eq_forward distinct]
  split
  next forward => exact iff_of_true (by decide) forward
  next backward => exact iff_of_false (by decide) backward

end JoystickActionController

/-! ## The two front ends -/

/-- With the declared commands, `TurretJoystickNode` sends the turret away from
the direction that it announces, in every run; and the button configured as
`button_rotate_turret_forward` of `JoystickNode` sends it backward, unless both
buttons are the same one. -/
theorem turned_as_announced_iff
    {servo : ServoNode}
    (distinct : servo.turretForwardDegrees ≠ servo.turretBackwardDegrees) :
    (∀ (parameters : TurretParameters)
        (events : List (ChannelEvent TurretEvent))
        (whole : Channelled TurretJoystickNode ServoNode) (announced : Bool),
      parameters.forwardCommand =
          TurretParameters.declared.forwardCommand →
        parameters.backwardCommand =
          TurretParameters.declared.backwardCommand →
        TurretJoystickNode.toServoNode.joined.run
          (Channel.start (.init parameters) servo) events = some whole →
        whole.waiting = 0 →
        whole.sender.servoPub ≠ [] →
        whole.sender.directionPub.head? = some announced →
        ¬(whole.receiver.lastPosition = some servo.turretForwardDegrees ↔
          announced = true)) ∧
      ∀ (parameters : JoystickParameters) (memory : Bool)
        (events rest : List (ChannelEvent JoystickEvent))
        (before pressed after :
          Channelled JoystickActionController ServoNode)
        (call : JoyCall),
      JoystickActionController.toServoNode.joined.run
          (Channel.start (.init parameters memory) servo) events =
            some before →
        call.Alone parameters.buttonRotateTurretForward →
        JoystickActionController.toServoNode.joined.step before
          (.sends (.joy call)) = some pressed →
        pressed.sender.servoTurret.publisher ≠
          before.sender.servoTurret.publisher →
        JoystickActionController.toServoNode.joined.run pressed rest =
          some after →
        after.sender.servoTurret.publisher =
          pressed.sender.servoTurret.publisher →
        after.waiting = 0 →
        (after.receiver.lastPosition = some servo.turretForwardDegrees ↔
          parameters.buttonRotateTurretForward =
              parameters.buttonRotateTurretBackward ∧
            before.sender.servoTurret.LetsThrough call.forwardNow ∧
            call.backwardNow - call.forwardNow ≤
              ServoTurretNode.waitDelay) := by
  constructor
  · intro parameters events whole announced forward backward reached drained
      commanded published
    rw [TurretJoystickNode.sent_as_announced_iff distinct reached drained
      commanded published]
    unfold TurretParameters.command
    rw [forward, backward]
    cases announced <;> decide
  · intro parameters memory events rest before pressed after call reached
      alone stepped through delivering nothingSent drained
    exact JoystickActionController.turned_forward_iff distinct reached alone
      stepped through delivering nothingSent drained

/-- The node that `main` of the driver creates for the turret, with the limits
of the launch file. -/
def launchedServo : ServoNode :=
  ((ServoNode.init "servo_turret".toList).get (by decide)).setTurretLimits
    298 (-74)

/-- A Joy message in which one of the first four buttons is pressed, two seconds
after the epoch of the clock. -/
def joyButton (index : Nat) : JoyCall where
  buttons := [0, 0, 0, 0].set index 1
  stray := fun _ => 0
  forwardNow := 2000000000
  backwardNow := 2000000000
  acousticAvailable := true
  ultrasonicAvailable := true

theorem joyButton_alone : (joyButton 3).Alone 3 := by
  intro other
  rcases lt_or_ge other 0 with negative | nonnegative
  · refine iff_of_false (fun pressed => ?_) (by omega)
    rw [JoyCall.Pressed, if_neg (not_le.mpr negative)] at pressed
    exact pressed rfl
  · obtain ⟨index, rfl⟩ := Int.eq_ofNat_of_zero_le nonnegative
    match index with
    | 0 => decide
    | 1 => decide
    | 2 => decide
    | 3 => decide
    | index + 4 =>
        refine iff_of_false (fun pressed => ?_) (by omega)
        rw [JoyCall.Pressed, if_pos nonnegative] at pressed
        exact pressed rfl

/-- The alignment announces forward, and the turret goes backward; with one
button for both directions, the first command is the one that counts. -/
theorem turned_as_announced_iff_launched :
    (∃ whole,
      TurretJoystickNode.toServoNode.joined.run
          (Channel.start (.init .declared) launchedServo)
          [.sends .alignment, .deliver 0] = some whole ∧
        ¬(whole.receiver.lastPosition = some 298 ↔ true = true)) ∧
      ∃ after,
        JoystickActionController.toServoNode.joined.run
            (Channel.start (.init ⟨3, 3, 0, 1⟩ false) launchedServo)
            [.sends (.joy (joyButton 3)), .deliver 0] = some after ∧
          after.receiver.lastPosition = some 298 := by
  have distinct : launchedServo.turretForwardDegrees ≠
      launchedServo.turretBackwardDegrees := by
    decide
  constructor
  · refine ⟨_, rfl, ?_⟩
    exact (turned_as_announced_iff distinct).1 .declared
      [.sends .alignment, .deliver 0] _ true rfl rfl rfl rfl (by decide) rfl
  · refine ⟨_, rfl, ?_⟩
    apply ((turned_as_announced_iff distinct).2 ⟨3, 3, 0, 1⟩ false []
      [.deliver 0] _ _ _ (joyButton 3) rfl joyButton_alone rfl (by decide) rfl
      rfl rfl).mpr
    decide

/-- With the declared parameters: the turret is announced to be forward and
sent to the backward limit, once by the alignment of `TurretJoystickNode`, and
once by the forward button of `JoystickNode`. -/
theorem announced_forward_sent_backward :
    (∃ whole,
      TurretJoystickNode.toServoNode.joined.run
          (Channel.start (.init .declared) launchedServo)
          [.sends .alignment, .deliver 0] = some whole ∧
        whole.waiting = 0 ∧
        whole.sender.servoPub = [180] ∧
        whole.sender.directionPub.head? = some true ∧
        whole.receiver.lastPosition =
          some launchedServo.turretBackwardDegrees) ∧
      (joyButton 3).Alone
        JoystickParameters.declared.buttonRotateTurretForward ∧
      ∃ after,
        JoystickActionController.toServoNode.joined.run
            (Channel.start (.init .declared false) launchedServo)
            [.sends (.joy (joyButton 3)), .deliver 0] = some after ∧
          after.waiting = 0 ∧
          after.sender.servoTurret.publisher = [180] ∧
          after.receiver.lastPosition =
            some launchedServo.turretBackwardDegrees := by
  refine ⟨⟨_, rfl, ?_⟩, joyButton_alone, ⟨_, rfl, ?_⟩⟩ <;> decide

end Skatebot
