import Mathlib.Algebra.Group.Basic
import Mathlib.Algebra.Group.Int.Defs
import Mathlib.Data.List.Induction
import Skatebot.Library.Machine
import Skatebot.Library.Python
import Skatebot.Messages

/-!
# `AutoDrive`

The node that drives the robot along the pipe.  A button switches it on and
off; an obstacle or a change of the turret's direction switches it off.  Its
four callbacks may come in any order, and each publishes in its own way.
-/

namespace Skatebot

open Library

variable {R : Type} [AddGroup R]

/-! ## The node -/

/-- `AutoDrive`. -/
structure AutoDrive (R : Type) where
  toggleButtonIndex : Int
  forwardSpeed : R
  autoEnabled : Bool
  stopRequired : Bool
  isForward : Bool
  lastButtons : List Int
  /-- What has been published on `cmd_vel_topic`, newest first. -/
  published : List (Twist R)

/-- What the node's callbacks receive. -/
inductive AutoDriveEvent
  | joy (buttons : List Int)
  | stop (data : Bool)
  | turretDirection (data : Bool)
  | timer
  deriving DecidableEq

namespace AutoDrive

/-- `AutoDrive.__init__`. -/
def init (toggleButtonIndex : Int) (forwardSpeed : R) : AutoDrive R where
  toggleButtonIndex := toggleButtonIndex
  forwardSpeed := forwardSpeed
  autoEnabled := false
  stopRequired := true
  isForward := true
  lastButtons := []
  published := []

/-- The command that `AutoDrive.publish_drive_command` publishes. -/
def driveCommand (node : AutoDrive R) : Twist R where
  linearX := if node.isForward then node.forwardSpeed else -node.forwardSpeed
  angularZ := 0

/-- `AutoDrive.publish_drive_command`. -/
def publishDriveCommand (node : AutoDrive R) : AutoDrive R :=
  { node with published := node.driveCommand :: node.published }

/-- `AutoDrive.publish_stop`. -/
def publishStop (node : AutoDrive R) : AutoDrive R :=
  { node with published := Twist.stop :: node.published }

/-- What `AutoDrive.joy_callback` does on a rising edge of the button. -/
def toggle (node : AutoDrive R) : AutoDrive R :=
  if node.autoEnabled then
    publishStop { node with autoEnabled := false }
  else if node.stopRequired then
    node.publishStop
  else
    publishDriveCommand { node with autoEnabled := true }

/-- `AutoDrive.joy_callback`; `none` where it raises an exception. -/
def joyCallback (node : AutoDrive R) (buttons : List Int) :
    Option (AutoDrive R) :=
  if node.lastButtons = [] then
    some { node with lastButtons := buttons }
  else if node.toggleButtonIndex ≥ buttons.length then
    some { node with lastButtons := buttons }
  else do
    let last ← index node.lastButtons node.toggleButtonIndex
    let current ← index buttons node.toggleButtonIndex
    let node := if current = 1 ∧ last ≠ 1 then node.toggle else node
    some { node with lastButtons := buttons }

/-- `AutoDrive.stop_callback`. -/
def stopCallback (node : AutoDrive R) (data : Bool) : AutoDrive R :=
  let node := { node with stopRequired := data }
  if node.stopRequired ∧ node.autoEnabled then
    publishStop { node with autoEnabled := false }
  else node

/-- `AutoDrive.turret_direction_callback`. -/
def turretDirectionCallback (node : AutoDrive R) (data : Bool) : AutoDrive R :=
  let previousIsForward := node.isForward
  let node := { node with isForward := data }
  if node.isForward ≠ previousIsForward then
    publishStop { node with autoEnabled := false }
  else node

/-- `AutoDrive.timer_callback`. -/
def timerCallback (node : AutoDrive R) : AutoDrive R :=
  if ¬node.autoEnabled then node
  else if node.stopRequired then
    publishStop { node with autoEnabled := false }
  else node.publishDriveCommand

/-- The callback for an event. -/
def handle (node : AutoDrive R) : AutoDriveEvent → Option (AutoDrive R)
  | .joy buttons => node.joyCallback buttons
  | .stop data => some (node.stopCallback data)
  | .turretDirection data => some (node.turretDirectionCallback data)
  | .timer => some node.timerCallback

/-- The node under its callbacks. -/
def callbacks (R : Type) [AddGroup R] :
    Machine (AutoDrive R) AutoDriveEvent where
  step node event := node.handle event

/-! ## What the events say -/

/-- The latest stop message. -/
def lastStop (events : List AutoDriveEvent) : Option Bool :=
  events.foldl
    (fun last event =>
      match event with
      | .stop data => some data
      | _ => last)
    none

/-- The latest direction; the turret starts facing forwards. -/
def direction (events : List AutoDriveEvent) : Bool :=
  events.foldl
    (fun last event =>
      match event with
      | .turretDirection data => data
      | _ => last)
    true

/-- The buttons of the latest Joy message. -/
def lastJoy (events : List AutoDriveEvent) : Option (List Int) :=
  events.foldl
    (fun last event =>
      match event with
      | .joy buttons => some buttons
      | _ => last)
    none

/-- The Joy message has the toggle button. -/
def Carries (toggleButtonIndex : Int) (buttons : List Int) : Prop :=
  (index buttons toggleButtonIndex).isSome = true

/-- The toggle button is pressed. -/
def Pressed (toggleButtonIndex : Int) (buttons : List Int) : Prop :=
  index buttons toggleButtonIndex = some 1

/-- After some events, a rising edge of the toggle button arrives while the
last stop message is `False`. -/
def Enabling (toggleButtonIndex : Int) (earlier : List AutoDriveEvent) :
    AutoDriveEvent → Prop
  | .joy buttons =>
      Pressed toggleButtonIndex buttons ∧
        (∃ previous, lastJoy earlier = some previous ∧
          ¬Pressed toggleButtonIndex previous) ∧
        lastStop earlier = some false
  | _ => False

/-- The event is a message to stop or a change of direction. -/
def Halting (earlier : List AutoDriveEvent) : AutoDriveEvent → Prop
  | .stop data => data = true
  | .turretDirection data => data ≠ direction earlier
  | _ => False

/-! ## What one callback does -/

/-- The three ways in which a callback can end. -/
inductive Outcome (before after : AutoDrive R) : Prop
  | silent
      (published : after.published = before.published)
      (enabled : after.autoEnabled = before.autoEnabled)
  | stops
      (published : after.published = Twist.stop :: before.published)
      (enabled : after.autoEnabled = false)
  | drives
      (published : after.published = after.driveCommand :: before.published)
      (enabled : after.autoEnabled = true)

/-- The next state keeps the parameters, follows the messages, and is an
outcome of its callback. -/
structure Follows (before : AutoDrive R) (event : AutoDriveEvent)
    (after : AutoDrive R) : Prop where
  toggleButtonIndex : after.toggleButtonIndex = before.toggleButtonIndex
  forwardSpeed : after.forwardSpeed = before.forwardSpeed
  stopRequired : after.stopRequired =
    match event with
    | .stop data => data
    | _ => before.stopRequired
  isForward : after.isForward =
    match event with
    | .turretDirection data => data
    | _ => before.isForward
  lastButtons : after.lastButtons =
    match event with
    | .joy buttons => buttons
    | _ => before.lastButtons
  outcome : Outcome before after

/-- The button toggles the node, unless a stop is required. -/
theorem toggle_cases (node : AutoDrive R) :
    (node.autoEnabled = false ∧ node.stopRequired = false ∧
      node.toggle = publishDriveCommand { node with autoEnabled := true }) ∨
    ((node.autoEnabled = true ∨ node.stopRequired = true) ∧
      node.toggle = publishStop { node with autoEnabled := false }) := by
  unfold toggle
  cases enabled : node.autoEnabled with
  | true => exact Or.inr ⟨Or.inl rfl, rfl⟩
  | false =>
      cases required : node.stopRequired with
      | true =>
          refine Or.inr ⟨Or.inr rfl, ?_⟩
          simp only [Bool.false_eq_true, if_false, if_true]
          rw [← enabled, ← required]
      | false => exact Or.inl ⟨rfl, rfl, rfl⟩

/-- A Joy message only stores its buttons, or it brings a rising edge of the
button. -/
theorem joyCallback_cases
    {node after : AutoDrive R}
    {buttons : List Int}
    (handled : node.joyCallback buttons = some after) :
    after = { node with lastButtons := buttons } ∨
      (Pressed node.toggleButtonIndex buttons ∧
        node.lastButtons ≠ [] ∧
        ¬Pressed node.toggleButtonIndex node.lastButtons ∧
        after = { node.toggle with lastButtons := buttons }) := by
  unfold joyCallback at handled
  split at handled
  next => exact Or.inl (Option.some.inj handled).symm
  next nonempty =>
    split at handled
    next => exact Or.inl (Option.some.inj handled).symm
    next =>
      simp only [Option.bind_eq_bind, Option.bind_eq_some_iff] at handled
      obtain ⟨last, was, current, is, handled⟩ := handled
      split at handled
      next edge =>
        obtain ⟨pressed, released⟩ := edge
        refine Or.inr ⟨is.trans (congrArg some pressed), nonempty, ?_,
          (Option.some.inj handled).symm⟩
        intro held
        exact released (Option.some.inj (was.symm.trans held))
      next => exact Or.inl (Option.some.inj handled).symm

/-- What each callback does. -/
theorem handle_follows
    {before after : AutoDrive R}
    {event : AutoDriveEvent}
    (handled : before.handle event = some after) :
    Follows before event after := by
  cases event with
  | joy buttons =>
      rcases joyCallback_cases handled with rfl | ⟨-, -, -, rfl⟩
      · exact ⟨rfl, rfl, rfl, rfl, rfl, .silent rfl rfl⟩
      · rcases before.toggle_cases with ⟨-, -, toggled⟩ | ⟨-, toggled⟩
        · rw [toggled]
          exact ⟨rfl, rfl, rfl, rfl, rfl, .drives rfl rfl⟩
        · rw [toggled]
          exact ⟨rfl, rfl, rfl, rfl, rfl, .stops rfl rfl⟩
  | stop data =>
      obtain rfl := Option.some.inj handled
      unfold stopCallback
      dsimp only
      split
      next => exact ⟨rfl, rfl, rfl, rfl, rfl, .stops rfl rfl⟩
      next => exact ⟨rfl, rfl, rfl, rfl, rfl, .silent rfl rfl⟩
  | turretDirection data =>
      obtain rfl := Option.some.inj handled
      unfold turretDirectionCallback
      dsimp only
      split
      next => exact ⟨rfl, rfl, rfl, rfl, rfl, .stops rfl rfl⟩
      next => exact ⟨rfl, rfl, rfl, rfl, rfl, .silent rfl rfl⟩
  | timer =>
      obtain rfl := Option.some.inj handled
      unfold timerCallback
      split
      next => exact ⟨rfl, rfl, rfl, rfl, rfl, .silent rfl rfl⟩
      next enabled =>
        split
        next => exact ⟨rfl, rfl, rfl, rfl, rfl, .stops rfl rfl⟩
        next =>
          exact ⟨rfl, rfl, rfl, rfl, rfl,
            .drives rfl (by simpa [publishDriveCommand] using enabled)⟩

/-- Only a rising edge of the button enables the node, and only while no stop
is required. -/
theorem handle_enables
    {before after : AutoDrive R}
    {event : AutoDriveEvent}
    (handled : before.handle event = some after)
    (disabled : before.autoEnabled = false)
    (enabled : after.autoEnabled = true) :
    before.stopRequired = false ∧ before.lastButtons ≠ [] ∧
      ¬Pressed before.toggleButtonIndex before.lastButtons ∧
      ∃ buttons, event = .joy buttons ∧
        Pressed before.toggleButtonIndex buttons := by
  cases event with
  | joy buttons =>
      rcases joyCallback_cases handled with
        rfl | ⟨pressed, nonempty, released, rfl⟩
      · exact absurd (disabled.symm.trans enabled) (by decide)
      · rcases before.toggle_cases with ⟨-, clear, -⟩ | ⟨-, toggled⟩
        · exact ⟨clear, nonempty, released, buttons, rfl, pressed⟩
        · rw [toggled] at enabled
          contradiction
  | stop data =>
      obtain rfl := Option.some.inj handled
      simp [stopCallback, disabled] at enabled
  | turretDirection data =>
      obtain rfl := Option.some.inj handled
      simp [turretDirectionCallback, disabled, apply_ite,
        publishStop] at enabled
  | timer =>
      obtain rfl := Option.some.inj handled
      simp [timerCallback, disabled] at enabled

/-- An enabled node is not required to stop, and stays so. -/
theorem handle_clear
    {before after : AutoDrive R}
    {event : AutoDriveEvent}
    (handled : before.handle event = some after)
    (clear : before.autoEnabled = true → before.stopRequired = false)
    (enabled : after.autoEnabled = true) :
    after.stopRequired = false := by
  cases event with
  | joy buttons =>
      rcases joyCallback_cases handled with rfl | ⟨-, -, -, rfl⟩
      · exact clear enabled
      · rcases before.toggle_cases with ⟨-, required, toggled⟩ | ⟨-, toggled⟩
        · rw [toggled]
          exact required
        · rw [toggled] at enabled
          contradiction
  | stop data =>
      obtain rfl := Option.some.inj handled
      unfold stopCallback at enabled ⊢
      dsimp only at enabled ⊢
      split at enabled
      next => contradiction
      next halts =>
        rw [if_neg halts]
        rw [Bool.eq_false_iff]
        exact fun required => halts ⟨required, enabled⟩
  | turretDirection data =>
      obtain rfl := Option.some.inj handled
      unfold turretDirectionCallback at enabled ⊢
      dsimp only at enabled ⊢
      split at enabled
      next => contradiction
      next same =>
        rw [if_neg same]
        exact clear enabled
  | timer =>
      obtain rfl := Option.some.inj handled
      unfold timerCallback at enabled ⊢
      split at enabled
      next off => exact absurd enabled off
      next on =>
        split at enabled
        next => contradiction
        next =>
          rw [if_neg on, if_neg ‹_›]
          exact clear enabled

/-- A halting event leaves the node disabled. -/
theorem handle_halts
    {before after : AutoDrive R}
    {event : AutoDriveEvent}
    {earlier : List AutoDriveEvent}
    (handled : before.handle event = some after)
    (facing : before.isForward = direction earlier)
    (halting : Halting earlier event) :
    after.autoEnabled = false := by
  cases event with
  | joy buttons => exact halting.elim
  | stop data =>
      obtain rfl := Option.some.inj handled
      obtain rfl : data = true := halting
      unfold stopCallback
      dsimp only
      split
      next => rfl
      next running =>
        rw [Bool.eq_false_iff]
        exact fun enabled => running ⟨rfl, enabled⟩
  | turretDirection data =>
      obtain rfl := Option.some.inj handled
      have turns : data ≠ before.isForward := facing ▸ halting
      unfold turretDirectionCallback
      dsimp only
      rw [if_pos turns]
      rfl
  | timer => exact halting.elim

/-- Where the message and the last one carry the button, no callback raises an
exception. -/
theorem handle_total
    {node : AutoDrive R}
    {event : AutoDriveEvent}
    (last : node.lastButtons = [] ∨
      Carries node.toggleButtonIndex node.lastButtons)
    (carries : ∀ buttons, event = .joy buttons →
      Carries node.toggleButtonIndex buttons) :
    ∃ after, node.handle event = some after := by
  cases event with
  | joy buttons =>
      obtain ⟨current, is⟩ := Option.isSome_iff_exists.mp (carries buttons rfl)
      simp only [handle, joyCallback]
      split
      next => exact ⟨_, rfl⟩
      next nonempty =>
        split
        next => exact ⟨_, rfl⟩
        next =>
          obtain ⟨previous, was⟩ :=
            Option.isSome_iff_exists.mp (last.resolve_left nonempty)
          rw [was, is]
          exact ⟨_, rfl⟩
  | stop data => exact ⟨_, rfl⟩
  | turretDirection data => exact ⟨_, rfl⟩
  | timer => exact ⟨_, rfl⟩

/-! ## Runs -/

/-- What the node is after some events. -/
structure Reflects (toggleButtonIndex : Int) (forwardSpeed : R)
    (events : List AutoDriveEvent) (node : AutoDrive R) : Prop where
  toggleButtonIndex : node.toggleButtonIndex = toggleButtonIndex
  forwardSpeed : node.forwardSpeed = forwardSpeed
  stopRequired : node.stopRequired = (lastStop events).getD true
  isForward : node.isForward = direction events
  lastButtons : node.lastButtons = (lastJoy events).getD []
  clear : node.autoEnabled = true → node.stopRequired = false
  carried : node.lastButtons = [] ∨
    Carries node.toggleButtonIndex node.lastButtons
  latest : ∀ twist, node.published.head? = some twist →
    (twist = Twist.stop ↔ node.autoEnabled = false)

theorem reflects_init (toggleButtonIndex : Int) (forwardSpeed : R) :
    Reflects toggleButtonIndex forwardSpeed []
      (init toggleButtonIndex forwardSpeed) :=
  ⟨rfl, rfl, rfl, rfl, rfl, by simp [init], Or.inl rfl, by simp [init]⟩

/-- A command to drive is none to stand still. -/
theorem driveCommand_ne_stop
    {node : AutoDrive R}
    (moving : node.forwardSpeed ≠ 0) :
    node.driveCommand ≠ Twist.stop := by
  intro same
  have speed := congrArg Twist.linearX same
  unfold driveCommand Twist.stop at speed
  dsimp only at speed
  split at speed
  · exact moving speed
  · exact moving (neg_eq_zero.mp speed)

variable {toggleButtonIndex : Int} {forwardSpeed : R}

theorem Reflects.handle
    (moving : forwardSpeed ≠ 0)
    {events : List AutoDriveEvent}
    {before after : AutoDrive R}
    (reflects : Reflects toggleButtonIndex forwardSpeed events before)
    {event : AutoDriveEvent}
    (carries : ∀ buttons, event = .joy buttons →
      Carries toggleButtonIndex buttons)
    (handled : before.handle event = some after) :
    Reflects toggleButtonIndex forwardSpeed (events ++ [event]) after := by
  have follows := handle_follows handled
  refine ⟨follows.toggleButtonIndex.trans reflects.toggleButtonIndex,
    follows.forwardSpeed.trans reflects.forwardSpeed, ?_, ?_, ?_,
    handle_clear handled reflects.clear, ?_, ?_⟩
  · rw [follows.stopRequired, reflects.stopRequired]
    cases event <;> simp [lastStop]
  · rw [follows.isForward, reflects.isForward]
    cases event <;> simp [direction]
  · rw [follows.lastButtons, reflects.lastButtons]
    cases event <;> simp [lastJoy]
  · rw [follows.lastButtons, follows.toggleButtonIndex]
    cases event with
    | joy buttons =>
        exact Or.inr (reflects.toggleButtonIndex ▸ carries buttons rfl)
    | _ => exact reflects.carried
  · intro twist head
    cases follows.outcome with
    | silent published enabled =>
        rw [published] at head
        rw [enabled]
        exact reflects.latest twist head
    | stops published enabled =>
        rw [published] at head
        obtain rfl := Option.some.inj head
        exact iff_of_true rfl enabled
    | drives published enabled =>
        rw [published] at head
        obtain rfl := Option.some.inj head
        have speed : after.forwardSpeed ≠ 0 := by
          rw [follows.forwardSpeed, reflects.forwardSpeed]
          exact moving
        exact iff_of_false (driveCommand_ne_stop speed) (by simp [enabled])

/-- While every Joy message carries the button, the callbacks follow the
events. -/
theorem run_reflects
    (moving : forwardSpeed ≠ 0)
    {events : List AutoDriveEvent}
    (carries : ∀ buttons, .joy buttons ∈ events →
      Carries toggleButtonIndex buttons) :
    ∃ node,
      (callbacks R).run (init toggleButtonIndex forwardSpeed) events =
        some node ∧
        Reflects toggleButtonIndex forwardSpeed events node := by
  induction events using List.reverseRecOn with
  | nil => exact ⟨_, rfl, reflects_init _ _⟩
  | append_singleton events event inductionHypothesis =>
      obtain ⟨before, reached, reflects⟩ :=
        inductionHypothesis fun buttons occurs =>
          carries buttons (List.mem_append_left _ occurs)
      have here : ∀ buttons, event = .joy buttons →
          Carries toggleButtonIndex buttons := by
        rintro buttons rfl
        exact carries buttons (by simp)
      obtain ⟨after, handled⟩ :=
        handle_total reflects.carried
          (reflects.toggleButtonIndex.symm ▸ here)
      refine ⟨after, ?_, reflects.handle moving here handled⟩
      exact (callbacks R).run_concat_eq_some.mpr ⟨before, reached, handled⟩

/-- What has been published since an earlier state is allowed. -/
def PublishedSince (before after : AutoDrive R) (allowed : Twist R → Prop) :
    Prop :=
  ∃ new, after.published = new ++ before.published ∧
    ∀ twist ∈ new, allowed twist

omit [AddGroup R] in
theorem PublishedSince.trans
    {first second third : AutoDrive R}
    {allowed : Twist R → Prop}
    (earlier : PublishedSince first second allowed)
    (later : PublishedSince second third allowed) :
    PublishedSince first third allowed := by
  obtain ⟨old, oldPublished, oldAllowed⟩ := earlier
  obtain ⟨new, newPublished, newAllowed⟩ := later
  refine ⟨new ++ old, ?_, List.forall_mem_append.mpr
    ⟨newAllowed, oldAllowed⟩⟩
  rw [newPublished, oldPublished, List.append_assoc]

/-- A callback that ends with the node disabled publishes nothing but stops. -/
theorem Outcome.publishedSince
    {before after : AutoDrive R}
    (outcome : Outcome before after)
    (disabled : after.autoEnabled = false) :
    PublishedSince before after (· = Twist.stop) := by
  cases outcome with
  | silent published _ => exact ⟨[], published, by simp⟩
  | stops published _ => exact ⟨[Twist.stop], published, by simp⟩
  | drives _ enabled => exact absurd (disabled.symm.trans enabled) (by decide)

/-- A callback that enables the node handles an enabling event. -/
theorem Reflects.enabling
    {events : List AutoDriveEvent}
    {before after : AutoDrive R}
    (reflects : Reflects toggleButtonIndex forwardSpeed events before)
    {event : AutoDriveEvent}
    (handled : before.handle event = some after)
    (disabled : before.autoEnabled = false)
    (enabled : after.autoEnabled = true) :
    Enabling toggleButtonIndex events event := by
  obtain ⟨clear, nonempty, released, buttons, rfl, pressed⟩ :=
    handle_enables handled disabled enabled
  rw [reflects.toggleButtonIndex] at released pressed
  rw [reflects.stopRequired] at clear
  rw [reflects.lastButtons] at nonempty released
  refine ⟨pressed, ?_, ?_⟩
  · cases last : lastJoy events with
    | none => simp [last] at nonempty
    | some previous =>
        rw [last] at released
        exact ⟨previous, rfl, released⟩
  · cases last : lastStop events with
    | none => simp [last] at clear
    | some data =>
        rw [last] at clear
        exact congrArg some clear

/-- A disabled node publishes nothing but stops until an enabling event. -/
theorem Reflects.stays_disabled
    (moving : forwardSpeed ≠ 0)
    {past later : List AutoDriveEvent}
    {node final : AutoDrive R}
    (reflects : Reflects toggleButtonIndex forwardSpeed past node)
    (disabled : node.autoEnabled = false)
    (carries : ∀ buttons, .joy buttons ∈ later →
      Carries toggleButtonIndex buttons)
    (never : ∀ first event rest, later = first ++ event :: rest →
      ¬Enabling toggleButtonIndex (past ++ first) event)
    (reached : (callbacks R).run node later = some final) :
    PublishedSince node final (· = Twist.stop) := by
  induction later generalizing past node with
  | nil =>
      obtain rfl := Option.some.inj reached
      exact ⟨[], rfl, by simp⟩
  | cons event later inductionHypothesis =>
      obtain ⟨next, handled, rest⟩ :=
        (callbacks R).run_cons_eq_some.mp reached
      have still : next.autoEnabled = false := by
        rw [Bool.eq_false_iff]
        intro enabled
        apply never [] event later rfl
        rw [List.append_nil]
        exact reflects.enabling handled disabled enabled
      have here : ∀ buttons, event = .joy buttons →
          Carries toggleButtonIndex buttons := by
        rintro buttons rfl
        exact carries buttons (List.mem_cons_self ..)
      refine ((handle_follows handled).outcome.publishedSince still).trans ?_
      apply inductionHypothesis (reflects.handle moving here handled) still
      · intro buttons occurs
        exact carries buttons (List.mem_cons_of_mem _ occurs)
      · intro first other rest split
        rw [List.append_assoc]
        apply never (event :: first) other rest
        rw [split, List.cons_append]
      · exact rest

/-- What is promised of the node after some events. -/
structure Safe (toggleButtonIndex : Int) (forwardSpeed : R)
    (events : List AutoDriveEvent) (node : AutoDrive R) : Prop where
  /-- An enabled node has been told last that the way is clear. -/
  clear : node.autoEnabled = true → lastStop events = some false
  /-- The latest command is to stand still exactly when the node is
  disabled. -/
  latest : ∀ twist, node.published.head? = some twist →
    (twist = Twist.stop ↔ node.autoEnabled = false)
  /-- The last callback has published commands in the turret's direction, or
  to stand still. -/
  directed : ∀ earlier event before, events = earlier ++ [event] →
    (callbacks R).run (init toggleButtonIndex forwardSpeed) earlier =
      some before →
    PublishedSince before node fun twist =>
      twist ≠ Twist.stop →
        twist.linearX =
          if direction events then forwardSpeed else -forwardSpeed
  /-- From a message to stop or a change of direction on, there have only been
  commands to stand still, unless an enabling event has come later. -/
  halted : ∀ earlier halt later before, events = earlier ++ halt :: later →
    Halting earlier halt →
    (∀ first event rest, later = first ++ event :: rest →
      ¬Enabling toggleButtonIndex (earlier ++ halt :: first) event) →
    (callbacks R).run (init toggleButtonIndex forwardSpeed) earlier =
      some before →
    PublishedSince before node (· = Twist.stop)

theorem Reflects.safe_clear
    {events : List AutoDriveEvent}
    {node : AutoDrive R}
    (reflects : Reflects toggleButtonIndex forwardSpeed events node)
    (enabled : node.autoEnabled = true) :
    lastStop events = some false := by
  have clear := reflects.clear enabled
  rw [reflects.stopRequired] at clear
  cases last : lastStop events with
  | none => simp [last] at clear
  | some data =>
      rw [last] at clear
      exact congrArg some clear

theorem Reflects.safe_directed
    {events : List AutoDriveEvent}
    {before after : AutoDrive R}
    {event : AutoDriveEvent}
    (handled : before.handle event = some after)
    (reflects : Reflects toggleButtonIndex forwardSpeed events after) :
    PublishedSince before after fun twist =>
      twist ≠ Twist.stop →
        twist.linearX =
          if direction events then forwardSpeed else -forwardSpeed := by
  cases (handle_follows handled).outcome with
  | silent published _ => exact ⟨[], published, by simp⟩
  | stops published _ => exact ⟨[Twist.stop], published, by simp⟩
  | drives published _ =>
      refine ⟨[after.driveCommand], published, ?_⟩
      intro twist occurs _
      obtain rfl := List.mem_singleton.mp occurs
      rw [driveCommand, reflects.isForward, reflects.forwardSpeed]

/-- Whatever the order of the events, no callback raises an exception and the
node keeps its promises. -/
theorem run_safe
    (moving : forwardSpeed ≠ 0)
    {events : List AutoDriveEvent}
    (carries : ∀ buttons, .joy buttons ∈ events →
      Carries toggleButtonIndex buttons) :
    ∃ node,
      (callbacks R).run (init toggleButtonIndex forwardSpeed) events =
        some node ∧
        Safe toggleButtonIndex forwardSpeed events node := by
  obtain ⟨node, reached, reflects⟩ := run_reflects moving carries
  refine ⟨node, reached, reflects.safe_clear, reflects.latest, ?_, ?_⟩
  · rintro earlier event before rfl reachedBefore
    obtain ⟨middle, reachedMiddle, handled⟩ :=
      (callbacks R).run_concat_eq_some.mp reached
    obtain rfl := Option.some.inj (reachedBefore.symm.trans reachedMiddle)
    exact reflects.safe_directed handled
  · rintro earlier halt later before rfl halting never reachedBefore
    have carriesEarlier : ∀ buttons, .joy buttons ∈ earlier →
        Carries toggleButtonIndex buttons :=
      fun buttons occurs => carries buttons (List.mem_append_left _ occurs)
    obtain ⟨middle, reachedMiddle, reflectsBefore⟩ :=
      run_reflects moving carriesEarlier
    obtain rfl := Option.some.inj (reachedBefore.symm.trans reachedMiddle)
    obtain ⟨start, reachedStart, rest⟩ :=
      (callbacks R).run_append_eq_some.mp reached
    obtain rfl := Option.some.inj (reachedBefore.symm.trans reachedStart)
    obtain ⟨halted, handled, reachedNode⟩ :=
      (callbacks R).run_cons_eq_some.mp rest
    have disabled := handle_halts handled reflectsBefore.isForward halting
    have reflectsHalted := reflectsBefore.handle moving
      (by
        rintro buttons rfl
        exact halting.elim) handled
    refine ((handle_follows handled).outcome.publishedSince disabled).trans ?_
    apply reflectsHalted.stays_disabled moving disabled _ _ reachedNode
    · intro buttons occurs
      exact carries buttons (by simp [occurs])
    · intro first event rest split
      rw [List.append_assoc]
      exact never first event rest split

/-- The button enables the node, an obstacle disables it, and the button is
pressed again in vain. -/
theorem run_safe_obstacle :
    ∃ node,
      (callbacks Int).run (init 0 15)
        [.joy [0], .stop false, .joy [1], .timer, .stop true, .joy [0],
          .joy [1], .timer] = some node ∧
        Safe 0 15
          [.joy [0], .stop false, .joy [1], .timer, .stop true, .joy [0],
            .joy [1], .timer] node :=
  run_safe (by decide) (by
    intro buttons occurs
    simp only [List.mem_cons, AutoDriveEvent.joy.injEq, reduceCtorEq,
      List.not_mem_nil, or_false, false_or] at occurs
    rcases occurs with rfl | rfl | rfl | rfl <;> rfl)

end AutoDrive
end Skatebot
