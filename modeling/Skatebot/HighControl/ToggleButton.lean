import Skatebot.HighControl.AutoDrive
import Skatebot.Library.History

/-!
# The toggle button of `AutoDrive`

The node keeps the buttons of the previous Joy message and looks for a rising
edge of one of them.  Joy messages may carry lists of any length.  This module
compares what the node does with what the button itself does, and finds the
histories in which they agree.
-/

namespace Skatebot
namespace AutoDrive

open Library

variable {R : Type} [AddGroup R]
variable {toggleButtonIndex : Int} {forwardSpeed : R}

/-! ## The button -/

/-- The value of the button in the latest Joy message that carried it. -/
def lastValue (toggleButtonIndex : Int) (events : List AutoDriveEvent) :
    Option Int :=
  latest
    (fun
      | .joy buttons => index buttons toggleButtonIndex
      | _ => none)
    events

/-- The button is pressed, and was not when it was carried last. -/
def RisingEdge (toggleButtonIndex : Int) (earlier : List AutoDriveEvent)
    (buttons : List Int) : Prop :=
  Pressed toggleButtonIndex buttons ∧
    ∃ value, lastValue toggleButtonIndex earlier = some value ∧ value ≠ 1

/-- The node toggles, or refuses to and stops. -/
def Acts (before after : AutoDrive R) : Prop :=
  after.autoEnabled ≠ before.autoEnabled ∨
    after.published ≠ before.published

/-- The callback for the event raises no exception, and acts on a Joy message
exactly if it brings a rising edge of the button. -/
def Heeds (toggleButtonIndex : Int) (forwardSpeed : R)
    (earlier : List AutoDriveEvent) (event : AutoDriveEvent) : Prop :=
  ∀ before,
    (callbacks R).run (init toggleButtonIndex forwardSpeed) earlier =
      some before →
    ∃ after, before.handle event = some after ∧
      ∀ buttons, event = .joy buttons →
        (Acts before after ↔ RisingEdge toggleButtonIndex earlier buttons)

/-- A Joy message that carries the button comes first, after a message that
carries it too, or after one without any buttons; in the last case it brings
no rising edge. -/
def Comparable (toggleButtonIndex : Int) (earlier : List AutoDriveEvent)
    (event : AutoDriveEvent) : Prop :=
  ∀ buttons, event = .joy buttons → Carries toggleButtonIndex buttons →
    ∀ previous, lastJoy earlier = some previous →
      Carries toggleButtonIndex previous ∨
        previous = [] ∧ ¬RisingEdge toggleButtonIndex earlier buttons

instance (toggleButtonIndex : Int) (buttons : List Int) :
    Decidable (Pressed toggleButtonIndex buttons) :=
  inferInstanceAs (Decidable (_ = _))

/-- An index from zero on is inside the lists that are longer. -/
theorem carries_iff
    (nonnegative : 0 ≤ toggleButtonIndex)
    (buttons : List Int) :
    Carries toggleButtonIndex buttons ↔ toggleButtonIndex < buttons.length := by
  unfold Carries index
  rw [if_pos nonnegative]
  simp only [isSome_getElem?]
  omega

theorem RisingEdge.carries
    {earlier : List AutoDriveEvent}
    {buttons : List Int}
    (edge : RisingEdge toggleButtonIndex earlier buttons) :
    Carries toggleButtonIndex buttons := by
  rw [Carries, edge.1]
  rfl

/-- The latest Joy message determines the latest value if it carries the
button, and there is none before the first message. -/
theorem lastValue_eq (events : List AutoDriveEvent) :
    (lastJoy events = none → lastValue toggleButtonIndex events = none) ∧
      ∀ buttons, lastJoy events = some buttons →
        Carries toggleButtonIndex buttons →
        lastValue toggleButtonIndex events =
          index buttons toggleButtonIndex := by
  induction events using List.reverseRecOn with
  | nil => simp [lastJoy, lastValue]
  | append_singleton events event inductionHypothesis =>
      cases event with
      | joy buttons =>
          refine ⟨by simp [lastJoy], ?_⟩
          intro latest same carries
          have equal : latest = buttons := by
            simpa [lastJoy, eq_comm] using same
          subst equal
          obtain ⟨value, is⟩ := Option.isSome_iff_exists.mp carries
          simp [lastValue, is]
      | _ => simpa [lastJoy, lastValue] using inductionHypothesis

/-! ## One message -/

/-- On a rising edge, the node publishes. -/
theorem toggle_published (node : AutoDrive R) :
    node.toggle.published ≠ node.published := by
  rcases node.toggle_cases with ⟨-, -, toggled⟩ | ⟨-, toggled⟩ <;>
    rw [toggled] <;>
    exact List.cons_ne_self _ _

/-- The node is as the Joy messages have left it. -/
structure Keeps (toggleButtonIndex : Int) (events : List AutoDriveEvent)
    (node : AutoDrive R) : Prop where
  toggleButtonIndex : node.toggleButtonIndex = toggleButtonIndex
  lastButtons : node.lastButtons = (lastJoy events).getD []

theorem Keeps.handle
    {events : List AutoDriveEvent}
    {before after : AutoDrive R}
    (keeps : Keeps toggleButtonIndex events before)
    {event : AutoDriveEvent}
    (handled : before.handle event = some after) :
    Keeps toggleButtonIndex (events ++ [event]) after := by
  have follows := handle_follows handled
  refine ⟨follows.toggleButtonIndex.trans keeps.toggleButtonIndex, ?_⟩
  rw [follows.lastButtons, keeps.lastButtons]
  cases event <;> simp [lastJoy]

/-- A message after none, or after one without buttons, is only stored. -/
theorem joyCallback_of_empty
    {node : AutoDrive R}
    (empty : node.lastButtons = [])
    (buttons : List Int) :
    node.joyCallback buttons = some { node with lastButtons := buttons } := by
  rw [joyCallback, if_pos empty]

/-- So is a message that does not carry the button. -/
theorem joyCallback_of_short
    {node : AutoDrive R}
    (nonnegative : 0 ≤ node.toggleButtonIndex)
    {buttons : List Int}
    (short : ¬Carries node.toggleButtonIndex buttons) :
    node.joyCallback buttons = some { node with lastButtons := buttons } := by
  rw [carries_iff nonnegative, not_lt] at short
  unfold joyCallback
  rw [if_pos short, ite_self]

/-- A message that carries the button is compared with the previous one, which
raises an exception if that one did not carry it. -/
theorem joyCallback_of_carries
    {node : AutoDrive R}
    (nonnegative : 0 ≤ node.toggleButtonIndex)
    (nonempty : node.lastButtons ≠ [])
    {buttons : List Int}
    (carries : Carries node.toggleButtonIndex buttons) :
    node.joyCallback buttons =
      (index node.lastButtons node.toggleButtonIndex).map fun last =>
        { (if Pressed node.toggleButtonIndex buttons ∧ last ≠ 1 then
            node.toggle
          else node) with lastButtons := buttons } := by
  have long := (carries_iff nonnegative buttons).mp carries
  obtain ⟨current, is⟩ := Option.isSome_iff_exists.mp carries
  have pressed : Pressed node.toggleButtonIndex buttons ↔ current = 1 := by
    rw [Pressed, is, Option.some.injEq]
  rw [joyCallback, if_neg nonempty, if_neg (not_le.mpr long), is]
  simp only [pressed]
  cases index node.lastButtons node.toggleButtonIndex <;> rfl

/-- A message that is only stored is heeded unless it brings a rising edge. -/
theorem stored_iff
    {node : AutoDrive R}
    {buttons : List Int}
    (stored : node.joyCallback buttons =
      some { node with lastButtons := buttons })
    (earlier : List AutoDriveEvent) :
    (∃ after, node.handle (.joy buttons) = some after ∧
        (Acts node after ↔ RisingEdge toggleButtonIndex earlier buttons)) ↔
      ¬RisingEdge toggleButtonIndex earlier buttons := by
  have passive : ¬Acts node { node with lastButtons := buttons } := by
    simp [Acts]
  constructor
  · rintro ⟨after, handled, acts⟩
    obtain rfl := Option.some.inj (stored.symm.trans handled)
    rwa [← acts]
  · intro level
    exact ⟨_, stored, iff_of_false passive level⟩

/-- A message that carries the button is heeded after one that carries it too,
and after no other that has buttons. -/
theorem compared_iff
    {node : AutoDrive R}
    (nonnegative : 0 ≤ node.toggleButtonIndex)
    {earlier : List AutoDriveEvent}
    (last : lastJoy earlier = some node.lastButtons)
    (nonempty : node.lastButtons ≠ [])
    {buttons : List Int}
    (carries : Carries node.toggleButtonIndex buttons) :
    (∃ after, node.handle (.joy buttons) = some after ∧
        (Acts node after ↔
          RisingEdge node.toggleButtonIndex earlier buttons)) ↔
      Carries node.toggleButtonIndex node.lastButtons := by
  have handled := joyCallback_of_carries nonnegative nonempty carries
  cases was : index node.lastButtons node.toggleButtonIndex with
  | none =>
      rw [was] at handled
      refine iff_of_false ?_ (by simp [Carries, was])
      rintro ⟨after, other, -⟩
      exact absurd (handled.symm.trans other) (by simp)
  | some value =>
      rw [was] at handled
      have carried : Carries node.toggleButtonIndex node.lastButtons := by
        rw [Carries, was, Option.isSome_some]
      have latest : lastValue node.toggleButtonIndex earlier = some value :=
        ((lastValue_eq earlier).2 _ last carried).trans was
      refine iff_of_true ⟨_, handled, ?_⟩ carried
      rw [RisingEdge, latest]
      simp only [Option.some.injEq, exists_eq_left']
      by_cases edge : Pressed node.toggleButtonIndex buttons ∧ value ≠ 1
      · rw [if_pos edge]
        exact iff_of_true (Or.inr node.toggle_published) edge
      · rw [if_neg edge]
        exact iff_of_false (by simp [Acts]) edge

/-- What the node makes of a Joy message is what the button did, exactly if it
can compare the message with the one before. -/
theorem Keeps.joy_iff
    (nonnegative : 0 ≤ toggleButtonIndex)
    {earlier : List AutoDriveEvent}
    {node : AutoDrive R}
    (keeps : Keeps toggleButtonIndex earlier node)
    (buttons : List Int) :
    (∃ after, node.handle (.joy buttons) = some after ∧
        (Acts node after ↔ RisingEdge toggleButtonIndex earlier buttons)) ↔
      Comparable toggleButtonIndex earlier (.joy buttons) := by
  obtain ⟨rfl, lastButtons⟩ := keeps
  have uncarried : ¬Carries node.toggleButtonIndex [] := by
    simp [carries_iff nonnegative, nonnegative]
  unfold Comparable
  simp only [AutoDriveEvent.joy.injEq, forall_eq']
  by_cases carries : Carries node.toggleButtonIndex buttons
  · simp only [carries, forall_true_left]
    cases last : lastJoy earlier with
    | none =>
        rw [last] at lastButtons
        rw [stored_iff (joyCallback_of_empty lastButtons buttons)]
        refine iff_of_true ?_ nofun
        rintro ⟨-, value, was, -⟩
        rw [(lastValue_eq earlier).1 last] at was
        contradiction
    | some previous =>
        have held : node.lastButtons = previous := by
          rw [lastButtons, last, Option.getD_some]
        subst held
        simp only [Option.some.injEq, forall_eq']
        by_cases empty : node.lastButtons = []
        · rw [stored_iff (joyCallback_of_empty empty buttons), empty,
            or_iff_right uncarried, and_iff_right rfl]
        · rw [compared_iff nonnegative last empty carries]
          simp [empty]
  · rw [stored_iff (joyCallback_of_short nonnegative carries)]
    simp only [carries, false_imp_iff, iff_true]
    exact fun edge => carries edge.carries

/-! ## Runs -/

/-- An event that is heeded where it comes in is comparable there. -/
theorem Keeps.heeds_iff
    (nonnegative : 0 ≤ toggleButtonIndex)
    {earlier : List AutoDriveEvent}
    {node : AutoDrive R}
    (keeps : Keeps toggleButtonIndex earlier node)
    (reached :
      (callbacks R).run (init toggleButtonIndex forwardSpeed) earlier =
        some node)
    (event : AutoDriveEvent) :
    Heeds toggleButtonIndex forwardSpeed earlier event ↔
      Comparable toggleButtonIndex earlier event := by
  have here : Heeds toggleButtonIndex forwardSpeed earlier event ↔
      ∃ after, node.handle event = some after ∧
        ∀ buttons, event = .joy buttons →
          (Acts node after ↔
            RisingEdge toggleButtonIndex earlier buttons) := by
    simp only [Heeds, reached, Option.some.injEq, forall_eq']
  rw [here]
  cases event with
  | joy buttons =>
      rw [← keeps.joy_iff nonnegative buttons]
      simp only [AutoDriveEvent.joy.injEq, forall_eq']
  | _ => exact iff_of_true ⟨_, rfl, nofun⟩ nofun

/-- A run whose events are heeded raises no exception. -/
theorem run_keeps
    {events : List AutoDriveEvent}
    (heeds :
      Throughout (Heeds (R := R) toggleButtonIndex forwardSpeed) events) :
    ∃ node,
      (callbacks R).run (init toggleButtonIndex forwardSpeed) events =
        some node ∧
        Keeps toggleButtonIndex events node := by
  induction events using List.reverseRecOn with
  | nil => exact ⟨_, rfl, rfl, rfl⟩
  | append_singleton events event inductionHypothesis =>
      obtain ⟨earlier, last⟩ := (throughout_concat _ _ _).mp heeds
      obtain ⟨before, reached, keeps⟩ := inductionHypothesis earlier
      obtain ⟨after, handled, -⟩ := last before reached
      refine ⟨after, ?_, keeps.handle handled⟩
      exact (callbacks R).run_concat_eq_some.mpr ⟨before, reached, handled⟩

/-- In every run, whatever the lengths of the lists and whatever comes between
the Joy messages, the node acts on the rising edges of the button and on
nothing else, and no callback raises an exception: exactly when each Joy
message that carries the button can be compared with the one before it. -/
theorem run_heeds_iff
    (nonnegative : 0 ≤ toggleButtonIndex)
    (events : List AutoDriveEvent) :
    Throughout (Heeds (R := R) toggleButtonIndex forwardSpeed) events ↔
      Throughout (Comparable toggleButtonIndex) events := by
  induction events using List.reverseRecOn with
  | nil => exact iff_of_true (throughout_nil _) (throughout_nil _)
  | append_singleton events event inductionHypothesis =>
      rw [throughout_concat, throughout_concat, ← inductionHypothesis]
      apply and_congr_right
      intro heeds
      obtain ⟨node, reached, keeps⟩ := run_keeps heeds
      exact keeps.heeds_iff nonnegative reached event

/-- The second button is pressed; two lists without any buttons come between. -/
def spaced : List AutoDriveEvent :=
  [.joy [0, 0], .stop false, .joy [0, 1], .joy [], .joy [], .joy [0, 0],
    .joy [1, 1]]

theorem run_heeds_iff_spaced :
    Throughout (Heeds 1 (15 : Int)) spaced ↔
      Throughout (Comparable 1) spaced :=
  run_heeds_iff (by decide) spaced

/-- A list that is too short for the button, and then one that carries it: the
node looks outside the first and dies. -/
theorem short_list_ends_node :
    (callbacks Int).run (init 1 15) [.joy [0], .joy [0, 1]] = none ∧
      ¬Throughout (Heeds 1 (15 : Int)) [.joy [0], .joy [0, 1]] := by
  refine ⟨rfl, fun heeds => ?_⟩
  obtain ⟨after, handled, -⟩ := heeds [.joy [0]] (.joy [0, 1]) [] rfl _ rfl
  exact absurd handled nofun

end AutoDrive
end Skatebot
