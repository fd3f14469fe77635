import Mathlib.Data.List.Infix
import Mathlib.Data.Rat.Cast.CharZero
import Skatebot.Driver.Comms
import Skatebot.Library.Machine
import Skatebot.Messages

/-!
# `MotorNode` and `EncoderNode`

The nodes of one side of the robot: the one that obeys a motor topic, with a
watchdog of its own, and the one that reports the wheel's revolutions and
angle.  Each takes its side from its name.
-/

namespace Skatebot

open Library

/-- The topic of a node of the given name: the first `_` becomes a `/`; `none`
where there is none, and the source writes past the end of the name. -/
def topicOf (name : List Char) : Option (List Char) :=
  if '_' ∈ name then some (name.replace '_' '/') else none

/-- The topic of a node for the right side. -/
def FoundRight (topicName : List Char) : Prop :=
  "right".toList <:+: topicName

instance (topicName : List Char) : Decidable (FoundRight topicName) :=
  inferInstanceAs (Decidable (_ <:+: _))

/-! ## The motor node -/

/-- What `MotorNode` calls. -/
inductive MotorCall (R : Type)
  | setRelativePosition (motor : MotorInstance) (angleRadians : Double R)
  | setRPM (motor : MotorInstance) (rpm : Double R)
  deriving DecidableEq

/-- `MotorNode`, less the numbers of the latest message, which it passes on at
once. -/
structure MotorNode (R : Type) where
  /-- What it subscribes to. -/
  topicName : List Char
  motorInstance : MotorInstance
  commandReceived : Bool
  rpmMode : Bool
  /-- What it has called, newest first. -/
  calls : List (MotorCall R)
  deriving DecidableEq

/-- What the node's callbacks receive. -/
inductive MotorEvent (R : Type)
  | message (msg : MotorControl R)
  | timer
  deriving DecidableEq

namespace MotorNode

variable {R : Type} [Zero R]

omit [Zero R] in
/-- `MotorNode::MotorNode`. -/
def init (name : List Char) : Option (MotorNode R) := do
  let topicName ← topicOf name
  some
    { topicName := topicName
      motorInstance := if FoundRight topicName then .motorRight else .motorLeft
      commandReceived := false
      rpmMode := false
      calls := [] }

/-- `MotorNode::MessageCallback`. -/
def messageCallback (node : MotorNode R) (msg : MotorControl R) :
    MotorNode R :=
  if msg.mode = MotorControl.modeRelative then
    { node with
      calls :=
        .setRelativePosition node.motorInstance msg.angleRadians ::
          node.calls }
  else if msg.mode = MotorControl.modeSpeed then
    { node with calls := .setRPM node.motorInstance msg.rpm :: node.calls }
  else node

/-- `MotorNode::TimerCallback`. -/
def timerCallback (node : MotorNode R) : MotorNode R :=
  if node.rpmMode then
    let stopped :=
      if node.commandReceived then node
      else
        { node with
          calls := .setRPM node.motorInstance (some 0) :: node.calls
          rpmMode := false }
    { stopped with commandReceived := false }
  else node

/-- The callback for an event. -/
def handle (node : MotorNode R) : MotorEvent R → MotorNode R
  | .message msg => node.messageCallback msg
  | .timer => node.timerCallback

/-- The node under its callbacks. -/
def callbacks (R : Type) [Zero R] : Machine (MotorNode R) (MotorEvent R) where
  step node event := some (node.handle event)

@[simp] theorem callbacks_step (node : MotorNode R) (event : MotorEvent R) :
    (callbacks R).step node event = some (node.handle event) := rfl

/-! ## The watchdog -/

/-- No event arms the watchdog. -/
theorem handle_rpmMode
    {node : MotorNode R}
    (idle : node.rpmMode = false)
    (event : MotorEvent R) :
    (node.handle event).rpmMode = false := by
  cases event with
  | message msg =>
      change (node.messageCallback msg).rpmMode = false
      unfold messageCallback
      split_ifs <;> exact idle
  | timer =>
      change node.timerCallback.rpmMode = false
      unfold timerCallback
      rwa [if_neg (by simp [idle])]

/-- The watchdog is never armed. -/
theorem run_rpmMode
    {name : List Char}
    {start node : MotorNode R}
    {events : List (MotorEvent R)}
    (constructed : init name = some start)
    (reached : (callbacks R).run start events = some node) :
    node.rpmMode = false := by
  apply (callbacks R).invariant_of_run (fun node => node.rpmMode = false) _ _
    reached
  · intro node event next idle stepped
    rw [← Option.some.inj stepped]
    exact handle_rpmMode idle event
  · obtain ⟨topicName, -, built⟩ := Option.bind_eq_some_iff.mp constructed
    rw [← Option.some.inj built]

/-- An idle watchdog does nothing. -/
theorem timerCallback_of_idle
    {node : MotorNode R}
    (idle : node.rpmMode = false) :
    node.timerCallback = node := by
  rw [timerCallback, if_neg (by simp [idle])]

/-- A `MODE_SPEED` message is followed by two ticks of the timer, with no
message in between. -/
def SentOnce (earlier : List (MotorEvent R)) (msg : MotorControl R)
    (events : List (MotorEvent R)) : Prop :=
  msg.mode = MotorControl.modeSpeed ∧
    ∃ later, events = earlier ++ .message msg :: .timer :: .timer :: later

/-- From one state to another, the node has told the motor to stop. -/
def HasStopped (before after : MotorNode R) : Prop :=
  ∃ calls, after.calls = calls ++ before.calls ∧
    .setRPM before.motorInstance (some 0) ∈ calls

/-- After every `MODE_SPEED` message that is sent once, the node has told the
motor to stop by the second tick. -/
def StopsAfter (start : MotorNode R) (events : List (MotorEvent R)) : Prop :=
  ∀ earlier msg received final, SentOnce earlier msg events →
    (callbacks R).run start (earlier ++ [.message msg]) = some received →
    (callbacks R).run received [.timer, .timer] = some final →
    HasStopped received final

/-- The same, where a message that asks for no speed counts as told. -/
def StopsSince (start : MotorNode R) (events : List (MotorEvent R)) : Prop :=
  ∀ earlier msg before final, SentOnce earlier msg events →
    (callbacks R).run start earlier = some before →
    (callbacks R).run before [.message msg, .timer, .timer] = some final →
    HasStopped before final

/-- The node's callbacks refuse nothing. -/
theorem run_total (node : MotorNode R) (events : List (MotorEvent R)) :
    ∃ final, (callbacks R).run node events = some final := by
  induction events generalizing node with
  | nil => exact ⟨node, rfl⟩
  | cons event events inductionHypothesis =>
      exact inductionHypothesis (node.handle event)

/-- Two ticks of an idle watchdog do nothing. -/
theorem run_timers
    {node : MotorNode R}
    (idle : node.rpmMode = false) :
    (callbacks R).run node [.timer, .timer] = some node := by
  have still : node.handle .timer = node := timerCallback_of_idle idle
  rw [Machine.run_cons, callbacks_step, still, Option.bind_some,
    Machine.run_cons, callbacks_step, still, Option.bind_some, Machine.run_nil]

omit [Zero R] in
/-- What a `MODE_SPEED` message makes of the node. -/
theorem messageCallback_speed
    {node : MotorNode R}
    {msg : MotorControl R}
    (speed : msg.mode = MotorControl.modeSpeed) :
    node.messageCallback msg =
      { node with
        calls := .setRPM node.motorInstance msg.rpm :: node.calls } := by
  rw [messageCallback, speed, if_neg (by decide), if_pos rfl]

theorem not_hasStopped_self (node : MotorNode R) : ¬HasStopped node node := by
  rintro ⟨calls, same, told⟩
  rw [List.self_eq_append_left.mp same] at told
  exact List.not_mem_nil told

theorem hasStopped_speed_iff
    {node : MotorNode R}
    {msg : MotorControl R}
    (speed : msg.mode = MotorControl.modeSpeed) :
    HasStopped node (node.messageCallback msg) ↔ msg.rpm = some 0 := by
  rw [messageCallback_speed speed]
  constructor
  · rintro ⟨calls, same, told⟩
    have only : [.setRPM node.motorInstance msg.rpm] = calls :=
      List.append_cancel_right same
    rw [← only, List.mem_singleton] at told
    injection told with _ asked
    exact asked.symm
  · intro asked
    rw [asked]
    exact ⟨[.setRPM node.motorInstance (some 0)], rfl, List.mem_singleton_self _⟩

/-- In a run, the ticks of the timer stop no motor: the watchdog is right only
about the runs in which no message is sent once.  The only stops after such
messages are those which the messages themselves ask for. -/
theorem watchdog_stops_iff
    {name : List Char}
    {start : MotorNode R}
    (constructed : init name = some start)
    (events : List (MotorEvent R)) :
    (StopsAfter start events ↔ ∀ earlier msg, ¬SentOnce earlier msg events) ∧
      (StopsSince start events ↔
        ∀ earlier msg, SentOnce earlier msg events → msg.rpm = some 0) := by
  constructor
  · refine ⟨fun stops earlier msg sent => ?_, fun never earlier msg _ _ sent =>
      absurd sent (never earlier msg)⟩
    obtain ⟨received, reached⟩ := run_total start (earlier ++ [.message msg])
    have still := run_timers (run_rpmMode constructed reached)
    exact not_hasStopped_self _
      (stops earlier msg received received sent reached still)
  · have told : ∀ earlier msg before, SentOnce earlier msg events →
        (callbacks R).run start earlier = some before →
        (callbacks R).run before [.message msg, .timer, .timer] =
            some (before.messageCallback msg) ∧
          (HasStopped before (before.messageCallback msg) ↔
            msg.rpm = some 0) := by
      intro earlier msg before sent reached
      have idle : (before.messageCallback msg).rpmMode = false :=
        handle_rpmMode (run_rpmMode constructed reached) (.message msg)
      exact ⟨run_timers idle, hasStopped_speed_iff sent.1⟩
    constructor
    · intro stops earlier msg sent
      obtain ⟨before, reached⟩ := run_total start earlier
      obtain ⟨ran, asked⟩ := told earlier msg before sent reached
      exact asked.mp (stops earlier msg before _ sent reached ran)
    · intro zero earlier msg before final sent reached ran
      obtain ⟨toHere, asked⟩ := told earlier msg before sent reached
      rw [← Option.some.inj (toHere.symm.trans ran)]
      exact asked.mpr (zero earlier msg sent)

/-- `MODE_SPEED` with a speed of -20. -/
def backward : MotorControl Int where
  id := MotorControl.left
  mode := MotorControl.modeSpeed
  angleRadians := some 0
  rpm := some (-20)
  speedRadiansS := some 0

/-- The node of the left motor. -/
def motorLeft : MotorNode Int where
  topicName := "motor/left".toList
  motorInstance := .motorLeft
  commandReceived := false
  rpmMode := false
  calls := []

theorem init_motorLeft : init "motor_left".toList = some motorLeft := by
  decide +kernel

/-- The motor keeps turning when the message is sent once. -/
theorem sent_once_runs_on :
    ¬∀ (name : List Char) (start : MotorNode Int)
      (events : List (MotorEvent Int)),
      init name = some start → StopsSince start events := by
  intro always
  obtain ⟨calls, same, told⟩ :=
    always _ motorLeft [.message backward, .timer, .timer] init_motorLeft []
      backward motorLeft _ ⟨rfl, [], rfl⟩ rfl rfl
  have only : [.setRPM .motorLeft (some (-20))] = calls :=
    List.append_cancel_right same
  rw [← only] at told
  revert told
  decide

/-- A message that comes again before the second tick. -/
theorem watchdog_stops_refreshed :
    StopsAfter motorLeft
      [.message backward, .timer, .message backward, .timer] := by
  apply (watchdog_stops_iff init_motorLeft _).1.mpr
  rintro earlier msg ⟨-, later, sent⟩
  have short := congrArg List.length sent
  match earlier with
  | [] => simp at sent
  | [_] => simp at sent
  | _ :: _ :: _ =>
      simp at short
      omega

end MotorNode

/-! ## The encoder node -/

/-- `pipebot_msgs::msg::Encoders`. -/
structure Encoders (R : Type) where
  frameId : List Char
  stamp : Int
  ticks : Int
  wheelRevs : Int
  wheelAngleDeg : R
  deriving DecidableEq

/-- `EncoderNode`. -/
structure EncoderNode (R : Type) where
  /-- What it publishes on. -/
  topicName : List Char
  motorInstance : MotorInstance
  frameId : List Char
  /-- What has been published, newest first. -/
  published : List (Encoders R)
  deriving DecidableEq

/-- The constant `kEncoderCountsPerOutputRev`. -/
def encoderCountsPerOutputRev : Int := 4096

namespace EncoderNode

variable {R : Type} [Field R]

omit [Field R] in
/-- `EncoderNode::EncoderNode`. -/
def init (name : List Char) : Option (EncoderNode R) := do
  let topicName ← topicOf name
  some
    { topicName := topicName
      motorInstance := if FoundRight topicName then .motorRight else .motorLeft
      frameId :=
        if FoundRight topicName then "encoder_right".toList
        else "encoder_left".toList
      published := [] }

/-- The message that `EncoderNode::TimerCallback` builds of a count. -/
def message (node : EncoderNode R) (now encoderCount : Int) : Encoders R where
  frameId := node.frameId
  stamp := now
  ticks := encoderCount
  wheelRevs := encoderCount.tdiv encoderCountsPerOutputRev
  wheelAngleDeg :=
    (encoderCount.tmod encoderCountsPerOutputRev : R) *
      (360.0 / (encoderCountsPerOutputRev : R))

/-- `EncoderNode::TimerCallback`, with what `GetTotalEncoderCount` returns. -/
def timerCallback (node : EncoderNode R) (now : Int)
    (getTotalEncoderCount : MotorInstance → Int) : EncoderNode R :=
  let encoderCount :=
    if node.motorInstance = .motorLeft then getTotalEncoderCount .motorLeft
    else getTotalEncoderCount .motorRight
  { node with published := node.message now encoderCount :: node.published }

/-- The node publishes the count of its own side. -/
theorem timerCallback_published
    (node : EncoderNode R)
    (now : Int)
    (getTotalEncoderCount : MotorInstance → Int) :
    (node.timerCallback now getTotalEncoderCount).published =
      node.message now (getTotalEncoderCount node.motorInstance) ::
        node.published := by
  unfold timerCallback
  cases node.motorInstance <;> rfl

/-! ## Turns of the wheel -/

/-- The second message is one revolution further, at the same angle. -/
def OneRevolution (first second : Encoders R) : Prop :=
  second.wheelRevs = first.wheelRevs + 1 ∧
    second.wheelAngleDeg = first.wheelAngleDeg

/-- A full turn of the wheel is one revolution in what the node publishes:
exactly when the wheel does not pass the position it started from. -/
theorem one_revolution_iff
    (node : EncoderNode R)
    (now later encoderCount : Int) :
    OneRevolution (node.message now encoderCount)
        (node.message later (encoderCount + encoderCountsPerOutputRev)) ↔
      0 ≤ encoderCount ∨ encoderCount ≤ -encoderCountsPerOutputRev := by
  rw [← tdiv_add_divisor_iff (by decide)]
  constructor
  · exact And.left
  · intro follows
    refine ⟨follows, ?_⟩
    simp only [message]
    rw [tmod_add_divisor follows]

/-- A turn across the start, from a quarter turn backward. -/
theorem across_start :
    ¬∀ (node : EncoderNode ℚ) (now later encoderCount : Int),
      Fits 64 encoderCount →
      Fits 64 (encoderCount + encoderCountsPerOutputRev) →
      OneRevolution (node.message now encoderCount)
        (node.message later (encoderCount + encoderCountsPerOutputRev)) := by
  intro always
  have turned :=
    always ⟨[], .motorLeft, [], []⟩ 0 1 (-1024) (by decide) (by decide)
  exact absurd turned.1 (by decide)

end EncoderNode
end Skatebot
