import Mathlib.Data.List.Induction
import Skatebot.Library.Machine
import Skatebot.Library.Python

/-!
# `TurretJoystickNode`

The node that turns the turret at the press of a button.  A command is sent at
once and then repeated by a timer.  The four callbacks (the alignment after the
start, a Joy message and the two periodic timers) may come in any order.
-/

namespace Skatebot

open Library

/-! ## The node -/

/-- The parameters of `TurretJoystickNode` that its callbacks read. -/
structure TurretParameters where
  buttonIndex : Int
  forwardCommand : Int
  backwardCommand : Int
  isForward : Bool
  requireServoSubscriber : Bool
  servoCommandRepeats : Int
  deriving DecidableEq

/-- Their declared values. -/
def TurretParameters.declared : TurretParameters where
  buttonIndex := 2
  forwardCommand := 180
  backwardCommand := 0
  isForward := true
  requireServoSubscriber := true
  servoCommandRepeats := 5

/-- The command for a direction. -/
def TurretParameters.command (parameters : TurretParameters)
    (isForward : Bool) : Int :=
  if isForward then parameters.forwardCommand
  else parameters.backwardCommand

/-- `TurretJoystickNode`. -/
structure TurretJoystickNode where
  parameters : TurretParameters
  isForward : Bool
  lastButtonState : Int
  pendingServoCommand : Option Int
  pendingServoRepeats : Int
  /-- The alignment timer has not been cancelled. -/
  alignmentTimer : Bool
  /-- What has been published on `servo_topic`, newest first. -/
  servoPub : List Int
  /-- What has been published on `turret_direction_topic`, newest first. -/
  directionPub : List Bool
  deriving DecidableEq

/-- What calls the node back.  A Joy message finds a number of subscribers to
the servo's topic. -/
inductive TurretEvent
  | alignment
  | joy (buttons : List Int) (subscriptionCount : Nat)
  | repeatTimer
  | publishTimer
  deriving DecidableEq

namespace TurretJoystickNode

/-- `TurretJoystickNode.publish_servo_command`.  The message has 16 bits for
its angle; `none` where they refuse the command. -/
def publishServoCommand (node : TurretJoystickNode) (command : Int) :
    Option TurretJoystickNode :=
  if Fits 16 command then
    some { node with servoPub := command :: node.servoPub }
  else none

/-- `TurretJoystickNode.publish_turret_direction`. -/
def publishTurretDirection (node : TurretJoystickNode) : TurretJoystickNode :=
  { node with directionPub := node.isForward :: node.directionPub }

/-- `TurretJoystickNode.__init__`. -/
def init (parameters : TurretParameters) : TurretJoystickNode :=
  publishTurretDirection
    { parameters := parameters
      isForward := parameters.isForward
      lastButtonState := 0
      pendingServoCommand := none
      pendingServoRepeats := 0
      alignmentTimer := true
      servoPub := []
      directionPub := [] }

/-- `TurretJoystickNode.align_turret_on_startup`. -/
def alignTurretOnStartup (node : TurretJoystickNode) :
    Option TurretJoystickNode := do
  let node := { node with alignmentTimer := false }
  let node ← node.publishServoCommand node.parameters.forwardCommand
  let node :=
    { node with
      pendingServoCommand := some node.parameters.forwardCommand
      pendingServoRepeats := max 0 (node.parameters.servoCommandRepeats - 1) }
  let node := { node with isForward := true }
  some node.publishTurretDirection

/-- `TurretJoystickNode.toggle_turret`. -/
def toggleTurret (node : TurretJoystickNode) (subscriptionCount : Nat) :
    Option TurretJoystickNode :=
  if node.parameters.requireServoSubscriber ∧ subscriptionCount = 0 then
    some node.publishTurretDirection
  else do
    let newIsForward := !node.isForward
    let command :=
      if newIsForward then node.parameters.forwardCommand
      else node.parameters.backwardCommand
    let node ← node.publishServoCommand command
    let node :=
      { node with
        pendingServoCommand := some command
        pendingServoRepeats :=
          max 0 (node.parameters.servoCommandRepeats - 1) }
    let node := { node with isForward := newIsForward }
    some node.publishTurretDirection

/-- `TurretJoystickNode.joy_callback`; `none` where it raises an exception. -/
def joyCallback (node : TurretJoystickNode) (buttons : List Int)
    (subscriptionCount : Nat) : Option TurretJoystickNode :=
  if node.parameters.buttonIndex ≥ buttons.length then some node
  else do
    let buttonState ← index buttons node.parameters.buttonIndex
    let node ←
      if buttonState = 1 ∧ node.lastButtonState = 0 then
        node.toggleTurret subscriptionCount
      else some node
    some { node with lastButtonState := buttonState }

/-- `TurretJoystickNode.repeat_servo_command`. -/
def repeatServoCommand (node : TurretJoystickNode) :
    Option TurretJoystickNode :=
  match node.pendingServoCommand with
  | none => some node
  | some pendingServoCommand =>
      if node.pendingServoRepeats ≤ 0 then
        some { node with pendingServoCommand := none }
      else do
        let node ← node.publishServoCommand pendingServoCommand
        some
          { node with pendingServoRepeats := node.pendingServoRepeats - 1 }

/-- The callback for an event; `none` where it raises an exception, or its
timer has been cancelled. -/
def handle (node : TurretJoystickNode) :
    TurretEvent → Option TurretJoystickNode
  | .alignment =>
      if node.alignmentTimer then node.alignTurretOnStartup else none
  | .joy buttons subscriptionCount =>
      node.joyCallback buttons subscriptionCount
  | .repeatTimer => node.repeatServoCommand
  | .publishTimer => some node.publishTurretDirection

/-- The node under its callbacks. -/
def callbacks : Machine TurretJoystickNode TurretEvent where
  step node event := node.handle event

/-! ## Commands -/

/-- The command for the direction that the node is in. -/
def command (node : TurretJoystickNode) : Int :=
  node.parameters.command node.isForward

/-- The event makes the node accept a new command: it is the alignment, or the
button goes down while the servo's topic has the subscriber it needs. -/
def Accepts (node : TurretJoystickNode) : TurretEvent → Prop
  | .alignment => True
  | .joy buttons subscriptionCount =>
      node.parameters.buttonIndex < buttons.length ∧
        index buttons node.parameters.buttonIndex = some 1 ∧
        node.lastButtonState = 0 ∧
        ¬(node.parameters.requireServoSubscriber ∧ subscriptionCount = 0)
  | _ => False

/-! ## What one callback does -/

/-- A new command has been sent, and its repeats are pending. -/
structure Accepted (before after : TurretJoystickNode) : Prop where
  parameters : after.parameters = before.parameters
  servoPub : after.servoPub = after.command :: before.servoPub
  pendingServoCommand : after.pendingServoCommand = some after.command
  pendingServoRepeats : after.pendingServoRepeats =
    max 0 (before.parameters.servoCommandRepeats - 1)

/-- Nothing has been sent, and what is pending is what was. -/
structure Kept (before after : TurretJoystickNode) : Prop where
  parameters : after.parameters = before.parameters
  isForward : after.isForward = before.isForward
  servoPub : after.servoPub = before.servoPub
  pendingServoCommand : after.pendingServoCommand = before.pendingServoCommand
  pendingServoRepeats : after.pendingServoRepeats = before.pendingServoRepeats

/-- The three ways in which a tick of the repeat timer can end. -/
inductive Ticked (before : TurretJoystickNode) : TurretJoystickNode → Prop
  | nothing (pending : before.pendingServoCommand = none) :
      Ticked before before
  | spent (left : before.pendingServoRepeats ≤ 0) :
      Ticked before { before with pendingServoCommand := none }
  | again (command : Int)
      (pending : before.pendingServoCommand = some command)
      (left : 0 < before.pendingServoRepeats) :
      Ticked before
        { before with
          servoPub := command :: before.servoPub
          pendingServoRepeats := before.pendingServoRepeats - 1 }

theorem publishServoCommand_eq_some
    {node after : TurretJoystickNode}
    {command : Int}
    (published : node.publishServoCommand command = some after) :
    after = { node with servoPub := command :: node.servoPub } := by
  unfold publishServoCommand at published
  split at published
  next => exact (Option.some.inj published).symm
  next => contradiction

theorem alignTurretOnStartup_accepted
    {node after : TurretJoystickNode}
    (aligned : node.alignTurretOnStartup = some after) :
    Accepted node after := by
  simp only [alignTurretOnStartup, Option.bind_eq_bind,
    Option.bind_eq_some_iff] at aligned
  obtain ⟨sent, published, aligned⟩ := aligned
  obtain rfl := publishServoCommand_eq_some published
  obtain rfl := Option.some.inj aligned
  exact ⟨rfl, rfl, rfl, rfl⟩

/-- A press of the button is accepted or refused. -/
theorem toggleTurret_cases
    {node after : TurretJoystickNode}
    {subscriptionCount : Nat}
    (toggled : node.toggleTurret subscriptionCount = some after) :
    let refused :=
      node.parameters.requireServoSubscriber ∧ subscriptionCount = 0
    ¬refused ∧ Accepted node after ∨ refused ∧ Kept node after := by
  unfold toggleTurret at toggled
  split at toggled
  next refused =>
    obtain rfl := Option.some.inj toggled
    exact Or.inr ⟨refused, rfl, rfl, rfl, rfl, rfl⟩
  next accepted =>
    simp only [Option.bind_eq_bind, Option.bind_eq_some_iff] at toggled
    obtain ⟨sent, published, toggled⟩ := toggled
    obtain rfl := publishServoCommand_eq_some published
    obtain rfl := Option.some.inj toggled
    exact Or.inl ⟨accepted, rfl, rfl, rfl, rfl⟩

theorem joyCallback_cases
    {node after : TurretJoystickNode}
    {buttons : List Int}
    {subscriptionCount : Nat}
    (handled : node.joyCallback buttons subscriptionCount = some after) :
    node.Accepts (.joy buttons subscriptionCount) ∧ Accepted node after ∨
      ¬node.Accepts (.joy buttons subscriptionCount) ∧ Kept node after := by
  unfold joyCallback at handled
  split at handled
  next short =>
    obtain rfl := Option.some.inj handled
    refine Or.inr ⟨fun accepts => ?_, rfl, rfl, rfl, rfl, rfl⟩
    exact absurd accepts.1 (not_lt.mpr short)
  next long =>
    simp only [Option.bind_eq_bind, Option.bind_eq_some_iff] at handled
    obtain ⟨buttonState, pressed, handled⟩ := handled
    split at handled
    next edge =>
      obtain ⟨rfl, released⟩ := edge
      obtain ⟨middle, toggled, handled⟩ := Option.bind_eq_some_iff.mp handled
      obtain rfl := Option.some.inj handled
      rcases toggleTurret_cases toggled with
        ⟨accepted, parameters, sent, pending, repeats⟩ |
          ⟨refused, parameters, direction, sent, pending, repeats⟩
      · exact Or.inl ⟨⟨not_le.mp long, pressed, released, accepted⟩,
          parameters, sent, pending, repeats⟩
      · exact Or.inr ⟨fun accepts => accepts.2.2.2 refused, parameters,
          direction, sent, pending, repeats⟩
    next level =>
      obtain rfl := Option.some.inj handled
      refine Or.inr ⟨fun accepts => level ⟨?_, accepts.2.2.1⟩, rfl, rfl, rfl,
        rfl, rfl⟩
      exact Option.some.inj (pressed.symm.trans accepts.2.1)

theorem repeatServoCommand_ticked
    {node after : TurretJoystickNode}
    (ticked : node.repeatServoCommand = some after) :
    Ticked node after := by
  unfold repeatServoCommand at ticked
  split at ticked
  next pending =>
    obtain rfl := Option.some.inj ticked
    exact .nothing pending
  next command pending =>
    split at ticked
    next spent =>
      obtain rfl := Option.some.inj ticked
      exact .spent spent
    next left =>
      simp only [Option.bind_eq_bind, Option.bind_eq_some_iff] at ticked
      obtain ⟨sent, published, ticked⟩ := ticked
      obtain rfl := publishServoCommand_eq_some published
      obtain rfl := Option.some.inj ticked
      exact .again command pending (not_le.mp left)

/-- What each callback does. -/
theorem handle_cases
    {before after : TurretJoystickNode}
    {event : TurretEvent}
    (handled : before.handle event = some after) :
    before.Accepts event ∧ Accepted before after ∨
      ¬before.Accepts event ∧
        (event = .repeatTimer ∧ Ticked before after ∨
          event ≠ .repeatTimer ∧ Kept before after) := by
  cases event with
  | alignment =>
      simp only [handle, Option.ite_none_right_eq_some] at handled
      exact Or.inl ⟨trivial, alignTurretOnStartup_accepted handled.2⟩
  | joy buttons subscriptionCount =>
      rcases joyCallback_cases handled with accepted | ⟨refused, kept⟩
      · exact Or.inl accepted
      · exact Or.inr ⟨refused, Or.inr ⟨by simp, kept⟩⟩
  | repeatTimer =>
      exact Or.inr ⟨id, Or.inl ⟨rfl, repeatServoCommand_ticked handled⟩⟩
  | publishTimer =>
      obtain rfl := Option.some.inj handled
      exact Or.inr ⟨id, Or.inr ⟨by simp, rfl, rfl, rfl, rfl, rfl⟩⟩

/-! ## The command in force -/

/-- The last command sent and the pending one are those of the direction that
the node is in. -/
structure Agrees (node : TurretJoystickNode) : Prop where
  sent : ∀ last, node.servoPub.head? = some last → last = node.command
  pending : ∀ next, node.pendingServoCommand = some next → next = node.command

theorem Agrees.handle
    {before after : TurretJoystickNode}
    (agrees : before.Agrees)
    {event : TurretEvent}
    (handled : before.handle event = some after) :
    after.Agrees := by
  rcases handle_cases handled with
    ⟨-, accepted⟩ | ⟨-, ⟨-, ticked⟩ | ⟨-, kept⟩⟩
  · refine ⟨fun last sent => ?_, fun next pending => ?_⟩
    · rw [accepted.servoPub] at sent
      exact (Option.some.inj sent).symm
    · rw [accepted.pendingServoCommand] at pending
      exact (Option.some.inj pending).symm
  · cases ticked with
    | nothing => exact agrees
    | spent => exact ⟨agrees.sent, nofun⟩
    | again command pending left =>
        refine ⟨fun last sent => ?_, agrees.pending⟩
        obtain rfl := Option.some.inj sent
        exact agrees.pending _ pending
  · have same : after.command = before.command := by
      rw [command, command, kept.parameters, kept.isForward]
    refine ⟨fun last sent => ?_, fun next pending => ?_⟩
    · rw [kept.servoPub] at sent
      exact (agrees.sent last sent).trans same.symm
    · rw [kept.pendingServoCommand] at pending
      exact (agrees.pending next pending).trans same.symm

theorem run_agrees
    {parameters : TurretParameters}
    {events : List TurretEvent}
    {node : TurretJoystickNode}
    (reached : callbacks.run (init parameters) events = some node) :
    node.Agrees := by
  have started : (init parameters).Agrees := by
    refine ⟨fun last sent => ?_, fun next pending => ?_⟩
    · exact absurd sent (by simp [init, publishTurretDirection])
    · exact absurd pending (by simp [init, publishTurretDirection])
  exact callbacks.invariant_of_run Agrees
    (fun agrees handled => agrees.handle handled) started reached

/-! ## Repeats -/

/-- The ticks of the repeat timer. -/
def ticks (events : List TurretEvent) : Nat :=
  events.count .repeatTimer

/-- A node in which a command has been accepted, some ticks later: the command
has been sent once more for each tick, as long as repeats were left. -/
structure Repeating (accepted : TurretJoystickNode) (ticks : Nat)
    (node : TurretJoystickNode) : Prop where
  parameters : node.parameters = accepted.parameters
  isForward : node.isForward = accepted.isForward
  sends : ∃ sent : Nat,
    (sent : Int) = min (ticks : Int) accepted.pendingServoRepeats ∧
    node.servoPub =
      List.replicate sent accepted.command ++ accepted.servoPub ∧
    (node.pendingServoCommand = some accepted.command ∧
        node.pendingServoRepeats = accepted.pendingServoRepeats - sent ∨
      node.pendingServoCommand = none ∧
        accepted.pendingServoRepeats = sent)

theorem Repeating.ticked
    {accepted before after : TurretJoystickNode}
    {ticks : Nat}
    (repeating : Repeating accepted ticks before)
    (ticked : Ticked before after) :
    Repeating accepted (ticks + 1) after := by
  obtain ⟨parameters, isForward, sent, count, servoPub, pending⟩ := repeating
  cases ticked with
  | nothing empty =>
      refine ⟨parameters, isForward, sent, ?_, servoPub, pending⟩
      rcases pending with ⟨full, -⟩ | ⟨-, exhausted⟩
      · exact absurd (empty.symm.trans full) (by simp)
      · omega
  | spent left =>
      have exhausted : accepted.pendingServoRepeats = sent := by
        rcases pending with ⟨-, remaining⟩ | ⟨-, exhausted⟩
        · omega
        · exact exhausted
      exact ⟨parameters, isForward, sent, by omega, servoPub,
        Or.inr ⟨rfl, exhausted⟩⟩
  | again command full left =>
      rcases pending with ⟨same, remaining⟩ | ⟨empty, -⟩
      · obtain rfl := Option.some.inj (full.symm.trans same)
        refine ⟨parameters, isForward, sent + 1, by omega, ?_, Or.inl ⟨full, ?_⟩⟩
        · rw [servoPub, List.replicate_succ, List.cons_append]
        · dsimp only
          omega
      · exact absurd (empty.symm.trans full) (by simp)

theorem Repeating.kept
    {accepted before after : TurretJoystickNode}
    {ticks : Nat}
    (repeating : Repeating accepted ticks before)
    (kept : Kept before after) :
    Repeating accepted ticks after := by
  obtain ⟨parameters, isForward, sent, count, servoPub, pending⟩ := repeating
  refine ⟨kept.parameters.trans parameters, kept.isForward.trans isForward,
    sent, count, kept.servoPub.trans servoPub, ?_⟩
  rw [kept.pendingServoCommand, kept.pendingServoRepeats]
  exact pending

/-- The event does not make the node accept a new command. -/
def Passes (node : TurretJoystickNode) (event : TurretEvent) : Prop :=
  ¬node.Accepts event

theorem run_repeating
    {before accepted node : TurretJoystickNode}
    (accepts : Accepted before accepted)
    {later : List TurretEvent}
    (passes : callbacks.Along Passes accepted later)
    (reached : callbacks.run accepted later = some node) :
    Repeating accepted (ticks later) node := by
  induction later using List.reverseRecOn generalizing node with
  | nil =>
      obtain rfl := Option.some.inj reached
      refine ⟨rfl, rfl, 0, ?_, rfl, Or.inl ⟨accepts.pendingServoCommand, ?_⟩⟩
      · have repeats := accepts.pendingServoRepeats
        simp only [ticks, List.count_nil]
        omega
      · exact (sub_zero _).symm
  | append_singleton later event inductionHypothesis =>
      obtain ⟨middle, reachedMiddle, handled⟩ :=
        callbacks.run_concat_eq_some.mp reached
      obtain ⟨passesLater, passesLast⟩ :=
        (Machine.along_append _).mp passes
      have repeating := inductionHypothesis passesLater reachedMiddle
      have refused := (passesLast middle reachedMiddle).1
      rcases handle_cases handled with
        ⟨accepted, -⟩ | ⟨-, ⟨rfl, ticked⟩ | ⟨other, kept⟩⟩
      · exact absurd accepted refused
      · have counted : ticks (later ++ [.repeatTimer]) = ticks later + 1 := by
          simp [ticks]
        exact counted ▸ repeating.ticked ticked
      · have counted : ticks (later ++ [event]) = ticks later := by
          simp [ticks, other]
        exact counted ▸ repeating.kept kept

/-- A command that a node accepts is all that it sends until it accepts the
next one.  It is sent at most as often as the parameter says, and at least
once; and that often once there have been so many ticks. -/
structure Transmits (before : TurretJoystickNode) (later : List TurretEvent)
    (node : TurretJoystickNode) : Prop where
  sends : ∃ sent : Nat,
    node.servoPub = List.replicate sent node.command ++ before.servoPub ∧
    (sent : Int) ≤ max 1 before.parameters.servoCommandRepeats ∧
    (before.parameters.servoCommandRepeats ≤ ticks later →
      (sent : Int) = max 1 before.parameters.servoCommandRepeats)

theorem transmits_of_accepted
    {before accepted node : TurretJoystickNode}
    (accepts : Accepted before accepted)
    {later : List TurretEvent}
    (passes : callbacks.Along Passes accepted later)
    (reached : callbacks.run accepted later = some node) :
    Transmits before later node := by
  obtain ⟨parameters, isForward, sent, count, servoPub, -⟩ :=
    run_repeating accepts passes reached
  have same : node.command = accepted.command := by
    rw [command, command, parameters, isForward]
  have repeats := accepts.pendingServoRepeats
  refine ⟨sent + 1, ?_, by omega, by omega⟩
  rw [servoPub, accepts.servoPub, same, List.replicate_succ',
    List.append_assoc, List.singleton_append]

/-- In every run, the node agrees with the last command it sent, and each
accepted command is sent as often as it should be before the next one. -/
theorem run_transmits
    {parameters : TurretParameters}
    {events : List TurretEvent}
    {node : TurretJoystickNode}
    (reached : callbacks.run (init parameters) events = some node) :
    node.Agrees ∧
      ∀ (earlier later : List TurretEvent) (event : TurretEvent)
        (before accepted : TurretJoystickNode),
        events = earlier ++ event :: later →
        callbacks.run (init parameters) earlier = some before →
        before.handle event = some accepted →
        before.Accepts event →
        callbacks.Along Passes accepted later →
        Transmits before later node := by
  refine ⟨run_agrees reached, ?_⟩
  rintro earlier later event before accepted rfl reachedBefore handled accepts
    passes
  have accepting : Accepted before accepted := by
    rcases handle_cases handled with ⟨-, accepting⟩ | ⟨refused, -⟩
    · exact accepting
    · exact absurd accepts refused
  apply transmits_of_accepted accepting passes
  obtain ⟨middle, reachedMiddle, rest⟩ :=
    callbacks.run_append_eq_some.mp reached
  obtain rfl := Option.some.inj (reachedBefore.symm.trans reachedMiddle)
  obtain ⟨next, stepped, rest⟩ := callbacks.run_cons_eq_some.mp rest
  obtain rfl := Option.some.inj (handled.symm.trans stepped)
  exact rest

/-! ## A press before the alignment -/

/-- The button is pressed, and one repeat is sent. -/
def pressed : List TurretEvent := [.joy [0, 0, 1] 1, .repeatTimer]

/-- The node after some events. -/
def after (events : List TurretEvent) : TurretJoystickNode :=
  (callbacks.run (init .declared) events).getD (init .declared)

/-- The alignment overrules the press, and its command is sent five times. -/
theorem run_transmits_pressed :
    (after (pressed ++ .alignment :: List.replicate 6 .repeatTimer)).Agrees ∧
      Transmits (after pressed) (List.replicate 6 .repeatTimer)
        (after (pressed ++ .alignment :: List.replicate 6 .repeatTimer)) := by
  have reached :
      callbacks.run (init .declared)
        (pressed ++ .alignment :: List.replicate 6 .repeatTimer) =
        some (after
          (pressed ++ .alignment :: List.replicate 6 .repeatTimer)) := rfl
  have passes : callbacks.Along Passes (after (pressed ++ [.alignment]))
      (List.replicate 6 .repeatTimer) := by
    apply callbacks.along_of_forall
    intro event member node
    rw [List.eq_of_mem_replicate member]
    exact id
  exact ⟨(run_transmits reached).1,
    (run_transmits reached).2 pressed _ .alignment _ _ rfl rfl rfl trivial
      passes⟩

example :
    (after (pressed ++ .alignment :: List.replicate 6 .repeatTimer)).servoPub =
      [180, 180, 180, 180, 180, 0, 0] := by
  decide

end TurretJoystickNode
end Skatebot
