import Mathlib.Algebra.Group.Defs
import Mathlib.Data.List.Basic
import Mathlib.Data.Option.Basic
import Mathlib.Order.Defs.PartialOrder

/-!
# Partial machines and their runs

A machine consumes events one at a time; an event that it cannot take in its
present state gives no next state.  This module supplies finite runs, the two
ways a run can be constrained (a property of every state it visits, a property
of every step it takes), what is seen of a run, and the invariant rules that
turn a fact about one step into a fact about all runs.
-/

namespace Library

/-- A deterministic machine whose events may be refused. -/
structure Machine (State : Type u) (Event : Type v) where
  /-- The state after an event, or `none` when the event is refused. -/
  step : State → Event → Option State

namespace Machine

variable {State : Type u} {Event : Type v} (machine : Machine State Event)

/-- Take a list of events in order. -/
def run (state : State) (events : List Event) : Option State :=
  events.foldlM machine.step state

@[simp] theorem run_nil (state : State) :
    machine.run state [] = some state := rfl

@[simp] theorem run_cons
    (state : State) (event : Event) (events : List Event) :
    machine.run state (event :: events) =
      (machine.step state event).bind fun next => machine.run next events :=
  rfl

theorem run_append
    (state : State) (first second : List Event) :
    machine.run state (first ++ second) =
      (machine.run state first).bind fun next => machine.run next second := by
  simp [run, List.foldlM_append, Option.bind_eq_bind]

/-- A run of a nonempty list begins with one accepted event. -/
theorem run_cons_eq_some
    {state final : State} {event : Event} {events : List Event} :
    machine.run state (event :: events) = some final ↔
      ∃ next, machine.step state event = some next ∧
        machine.run next events = some final := by
  simp [Option.bind_eq_some_iff]

/-- A run of a concatenation passes through the state between its parts. -/
theorem run_append_eq_some
    {state final : State} {first second : List Event} :
    machine.run state (first ++ second) = some final ↔
      ∃ middle, machine.run state first = some middle ∧
        machine.run middle second = some final := by
  rw [run_append, Option.bind_eq_some_iff]

/-- A run of one more event ends with that event's step. -/
theorem run_concat_eq_some
    {state final : State} {events : List Event} {event : Event} :
    machine.run state (events ++ [event]) = some final ↔
      ∃ middle, machine.run state events = some middle ∧
        machine.step middle event = some final := by
  rw [run_append_eq_some]
  simp

/-- A property holds in every state that a run visits, its first included. -/
def Always (property : State → Prop) : State → List Event → Prop
  | state, [] => property state
  | state, event :: events =>
      property state ∧
        ∀ next, machine.step state event = some next →
          Always property next events

/-- A property holds of every step that a run takes. -/
def Along (property : State → Event → Prop) : State → List Event → Prop
  | _, [] => True
  | state, event :: events =>
      property state event ∧
        ∀ next, machine.step state event = some next →
          Along property next events

/-- Along a given run, a property that can be tested can be tested. -/
instance decidableAlong
    {property : State → Event → Prop}
    [∀ state event, Decidable (property state event)] :
    (state : State) → (events : List Event) →
      Decidable (machine.Along property state events)
  | _, [] => isTrue trivial
  | state, event :: events =>
      match stepped : machine.step state event with
      | none =>
          decidable_of_iff (property state event) (by simp [Along, stepped])
      | some next =>
          have : Decidable (machine.Along property next events) :=
            decidableAlong next events
          decidable_of_iff
            (property state event ∧ machine.Along property next events)
            (by simp [Along, stepped])

@[simp] theorem along_nil
    (property : State → Event → Prop) (state : State) :
    machine.Along property state [] := trivial

/-- What holds of the events in every state holds along a run of them. -/
theorem along_of_forall
    {property : State → Event → Prop} {events : List Event}
    (everywhere : ∀ event ∈ events, ∀ state, property state event)
    (state : State) :
    machine.Along property state events := by
  induction events generalizing state with
  | nil => trivial
  | cons event events inductionHypothesis =>
      rw [List.forall_mem_cons] at everywhere
      exact ⟨everywhere.1 state,
        fun next _ => inductionHypothesis everywhere.2 next⟩

/-- Two properties that hold along a run hold together along it. -/
theorem Along.and
    {property other : State → Event → Prop}
    {state : State} {events : List Event}
    (first : machine.Along property state events)
    (second : machine.Along other state events) :
    machine.Along (fun state event => property state event ∧ other state event)
      state events := by
  induction events generalizing state with
  | nil => trivial
  | cons event events inductionHypothesis =>
      exact ⟨⟨first.1, second.1⟩, fun next stepped =>
        inductionHypothesis (first.2 next stepped) (second.2 next stepped)⟩

theorem along_append
    {property : State → Event → Prop}
    {state : State} {first second : List Event} :
    machine.Along property state (first ++ second) ↔
      machine.Along property state first ∧
        ∀ middle, machine.run state first = some middle →
          machine.Along property middle second := by
  induction first generalizing state with
  | nil => simp
  | cons event first inductionHypothesis =>
      simp only [List.cons_append, Along, inductionHypothesis,
        run_cons_eq_some]
      constructor
      · rintro ⟨here, later⟩
        refine ⟨⟨here, fun next stepped => (later next stepped).1⟩, ?_⟩
        rintro middle ⟨next, stepped, rest⟩
        exact (later next stepped).2 middle rest
      · rintro ⟨⟨here, later⟩, after⟩
        refine ⟨here, fun next stepped => ⟨later next stepped, ?_⟩⟩
        intro middle rest
        exact after middle ⟨next, stepped, rest⟩

theorem Always.head
    {property : State → Prop} {state : State} {events : List Event}
    (always : machine.Always property state events) :
    property state := by
  cases events with
  | nil => exact always
  | cons event events => exact always.1

/-- The state a constrained run ends in, from an invariant that only the
constrained steps need preserve. -/
theorem invariant_of_along
    (invariant : State → Prop) {property : State → Event → Prop}
    (preserved : ∀ {state event next}, invariant state →
      property state event → machine.step state event = some next →
      invariant next)
    {state final : State} {events : List Event}
    (start : invariant state)
    (along : machine.Along property state events)
    (reached : machine.run state events = some final) :
    invariant final := by
  induction events generalizing state with
  | nil =>
      simp only [run_nil, Option.some.injEq] at reached
      exact reached ▸ start
  | cons event events inductionHypothesis =>
      obtain ⟨next, stepped, reached⟩ := machine.run_cons_eq_some.mp reached
      exact inductionHypothesis (preserved start along.1 stepped)
        (along.2 next stepped) reached

/-- The state a run ends in, from an invariant that every step preserves. -/
theorem invariant_of_run
    (invariant : State → Prop)
    (preserved : ∀ {state event next}, invariant state →
      machine.step state event = some next → invariant next)
    {state final : State} {events : List Event}
    (start : invariant state)
    (reached : machine.run state events = some final) :
    invariant final :=
  machine.invariant_of_along invariant
    (fun holds _ stepped => preserved holds stepped) start
    (machine.along_of_forall (fun _ _ _ => trivial) state) reached

/-- A condition on the steps of a run gives a property of its steps, by an
invariant that only the constrained steps need preserve. -/
theorem along_of_invariant
    (invariant : State → Prop)
    {condition property : State → Event → Prop}
    (preserved : ∀ {state event next}, invariant state →
      condition state event → machine.step state event = some next →
      invariant next)
    (given : ∀ {state event}, invariant state → condition state event →
      property state event)
    {state : State} {events : List Event}
    (start : invariant state)
    (along : machine.Along condition state events) :
    machine.Along property state events := by
  induction events generalizing state with
  | nil => trivial
  | cons event events inductionHypothesis =>
      refine ⟨given start along.1, fun next stepped => ?_⟩
      exact inductionHypothesis (preserved start along.1 stepped)
        (along.2 next stepped)

/-- Two properties that agree on the constrained steps of an invariant hold
along the same constrained runs. -/
theorem along_iff_along
    (invariant : State → Prop)
    {condition property other : State → Event → Prop}
    (preserved : ∀ {state event next}, invariant state →
      condition state event → machine.step state event = some next →
      invariant next)
    (agree : ∀ {state event}, invariant state → condition state event →
      (property state event ↔ other state event))
    {state : State} {events : List Event}
    (start : invariant state)
    (along : machine.Along condition state events) :
    machine.Along property state events ↔
      machine.Along other state events := by
  induction events generalizing state with
  | nil => exact Iff.rfl
  | cons event events inductionHypothesis =>
      refine and_congr (agree start along.1) (forall_congr' fun next => ?_)
      refine imp_congr_right fun stepped => ?_
      exact inductionHypothesis (preserved start along.1 stepped)
        (along.2 next stepped)

/-- If each step from a good state leads to a good state exactly when the
step meets a condition, then all states of a run are good exactly when all its
steps meet the condition.  An invariant of every step may support the
argument. -/
theorem always_iff_along
    (support : State → Prop)
    {property : State → Prop} {condition : State → Event → Prop}
    (preserved : ∀ {state event next}, support state →
      machine.step state event = some next → support next)
    (total : ∀ {state} event, support state →
      ∃ next, machine.step state event = some next)
    (exactStep : ∀ {state event next}, support state → property state →
      machine.step state event = some next →
      (property next ↔ condition state event))
    {state : State} (supported : support state) (start : property state)
    (events : List Event) :
    machine.Always property state events ↔
      machine.Along condition state events := by
  induction events generalizing state with
  | nil => exact iff_of_true start trivial
  | cons event events inductionHypothesis =>
      obtain ⟨next, stepped⟩ := total event supported
      have nextSupported := preserved supported stepped
      have exactHere := exactStep supported start stepped
      constructor
      · rintro ⟨_, later⟩
        have nextGood := (later next stepped).head
        refine ⟨exactHere.mp nextGood, ?_⟩
        intro other otherStep
        obtain rfl : next = other := Option.some.inj (stepped ▸ otherStep)
        exact (inductionHypothesis nextSupported nextGood).mp
          (later next stepped)
      · rintro ⟨meets, later⟩
        have nextGood := exactHere.mpr meets
        refine ⟨start, ?_⟩
        intro other otherStep
        obtain rfl : next = other := Option.some.inj (stepped ▸ otherStep)
        exact (inductionHypothesis nextSupported nextGood).mpr
          (later next stepped)

/-- If the steps by good events keep an invariant that gives a property, and
the steps by bad events break the property, then the property holds in all
states of a run exactly when all its events are good. -/
theorem always_iff_events
    (invariant : State → Prop)
    {property : State → Prop} {condition : Event → Prop}
    (given : ∀ {state}, invariant state → property state)
    (preserved : ∀ {state event next}, invariant state → condition event →
      machine.step state event = some next → invariant next)
    (broken : ∀ {state event next}, invariant state → ¬condition event →
      machine.step state event = some next → ¬property next)
    {state final : State} (start : invariant state) {events : List Event}
    (reached : machine.run state events = some final) :
    machine.Always property state events ↔
      ∀ event ∈ events, condition event := by
  induction events generalizing state with
  | nil => exact iff_of_true (given start) (List.forall_mem_nil _)
  | cons event events inductionHypothesis =>
      obtain ⟨next, stepped, rest⟩ := machine.run_cons_eq_some.mp reached
      rw [List.forall_mem_cons]
      constructor
      · rintro ⟨_, later⟩
        have always := later next stepped
        have here : condition event := by
          by_contra bad
          exact broken start bad stepped always.head
        have kept := preserved start here stepped
        exact ⟨here, (inductionHypothesis kept rest).mp always⟩
      · rintro ⟨here, later⟩
        refine ⟨given start, ?_⟩
        intro other otherStep
        obtain rfl : next = other := Option.some.inj (stepped ▸ otherStep)
        have kept := preserved start here stepped
        exact (inductionHypothesis kept rest).mpr later

/-- Where no step is refused, a condition on events alone holds along a run
exactly when it holds of the events. -/
theorem along_events_iff
    (support : State → Prop)
    {condition : Event → Prop}
    (preserved : ∀ {state event next}, support state →
      machine.step state event = some next → support next)
    (total : ∀ {state} event, support state →
      ∃ next, machine.step state event = some next)
    {state : State} (supported : support state) (events : List Event) :
    machine.Along (fun _ event => condition event) state events ↔
      ∀ event ∈ events, condition event := by
  induction events generalizing state with
  | nil => simp
  | cons event events inductionHypothesis =>
      obtain ⟨next, stepped⟩ := total event supported
      have rest := inductionHypothesis (preserved supported stepped)
      rw [List.forall_mem_cons, ← rest, Along]
      refine and_congr_right fun _ => ⟨fun later => later next stepped, ?_⟩
      intro along other otherStep
      exact Option.some.inj (stepped ▸ otherStep) ▸ along

/-- The weights of the steps that a run takes, added up. -/
def sumAlong {Weight : Type*} [AddMonoid Weight]
    (weight : State → Event → Weight) : State → List Event → Weight
  | _, [] => 0
  | state, event :: events =>
      weight state event +
        match machine.step state event with
        | some next => sumAlong weight next events
        | none => 0

/-- A potential that each step raises by its weight is raised by a run's
weights together. -/
theorem potential_of_along
    {Weight : Type*} [AddMonoid Weight]
    {potential : State → Weight} {weight : State → Event → Weight}
    {property : State → Event → Prop}
    (raised : ∀ {state event next}, property state event →
      machine.step state event = some next →
      potential next = potential state + weight state event)
    {state final : State} {events : List Event}
    (along : machine.Along property state events)
    (reached : machine.run state events = some final) :
    potential final =
      potential state + machine.sumAlong weight state events := by
  induction events generalizing state with
  | nil =>
      simp only [run_nil, Option.some.injEq] at reached
      rw [sumAlong, add_zero, reached]
  | cons event events inductionHypothesis =>
      obtain ⟨next, stepped, rest⟩ := machine.run_cons_eq_some.mp reached
      rw [sumAlong, stepped, ← add_assoc, ← raised along.1 stepped]
      exact inductionHypothesis (along.2 next stepped) rest

/-- Two runs over related events, whose steps keep a relation between their
states, end in related states. -/
theorem related_of_run
    {Other : Type*} {OtherEvent : Type*} {other : Machine Other OtherEvent}
    (related : State → Other → Prop)
    {matched : Event → OtherEvent → Prop}
    (kept : ∀ {state event next otherState otherEvent otherNext},
      related state otherState → matched event otherEvent →
      machine.step state event = some next →
      other.step otherState otherEvent = some otherNext →
      related next otherNext)
    {state final : State} {otherState otherFinal : Other}
    {events : List Event} {otherEvents : List OtherEvent}
    (start : related state otherState)
    (pairwise : List.Forall₂ matched events otherEvents)
    (reached : machine.run state events = some final)
    (otherReached : other.run otherState otherEvents = some otherFinal) :
    related final otherFinal := by
  induction pairwise generalizing state otherState with
  | nil =>
      rwa [← Option.some.inj reached, ← Option.some.inj otherReached]
  | cons here rest inductionHypothesis =>
      obtain ⟨next, stepped, reached⟩ := machine.run_cons_eq_some.mp reached
      obtain ⟨otherNext, otherStepped, otherReached⟩ :=
        other.run_cons_eq_some.mp otherReached
      exact inductionHypothesis (kept start here stepped otherStepped) reached
        otherReached

/-- What is seen of the steps that a run takes, in their order. -/
def seen {Value : Type*} (see : State → Event → Option Value) :
    State → List Event → List Value
  | _, [] => []
  | state, event :: events =>
      (see state event).toList ++
        match machine.step state event with
        | some next => seen see next events
        | none => []

/-- What is seen along a constrained run, from an invariant that only the
constrained steps need preserve. -/
theorem forall_seen
    (invariant : State → Prop)
    {Value : Type*}
    {see : State → Event → Option Value}
    {condition : State → Event → Prop}
    {property : Value → Prop}
    (preserved : ∀ {state event next}, invariant state →
      condition state event → machine.step state event = some next →
      invariant next)
    (given : ∀ {state event value}, invariant state → condition state event →
      see state event = some value → property value)
    {state : State} {events : List Event}
    (start : invariant state)
    (along : machine.Along condition state events) :
    ∀ value ∈ machine.seen see state events, property value := by
  induction events generalizing state with
  | nil => exact List.forall_mem_nil _
  | cons event events inductionHypothesis =>
      intro value member
      rcases List.mem_append.mp member with here | later
      · exact given start along.1 (Option.mem_toList.mp here)
      · split at later
        next next stepped =>
          exact inductionHypothesis (preserved start along.1 stepped)
            (along.2 next stepped) value later
        next => exact absurd later List.not_mem_nil

/-- If the steps of a run never lower a level, and what is seen of a step tells
the level that it leads to, then the levels seen never fall. -/
theorem pairwise_seen
    (invariant : State → Prop)
    {Value Level : Type*} [Preorder Level]
    (level : State → Level)
    {see : State → Event → Option Value}
    {condition : State → Event → Prop}
    {told : Value → Level}
    (preserved : ∀ {state event next}, invariant state →
      condition state event → machine.step state event = some next →
      invariant next)
    (raised : ∀ {state event next}, invariant state → condition state event →
      machine.step state event = some next → level state ≤ level next)
    (tells : ∀ {state event value}, see state event = some value →
      ∃ next, machine.step state event = some next ∧ told value = level next)
    {state : State} {events : List Event}
    (start : invariant state)
    (along : machine.Along condition state events) :
    (machine.seen see state events).Pairwise
      (fun earlier later => told earlier ≤ told later) := by
  have above : ∀ {state : State} {events : List Event},
      invariant state → machine.Along condition state events →
        ∀ value ∈ machine.seen see state events, level state ≤ told value := by
    intro first events start along
    refine machine.forall_seen
      (fun state => invariant state ∧ level first ≤ level state)
      (fun holds meets stepped => ?_) (fun holds meets sees => ?_)
      ⟨start, le_refl _⟩ along
    · exact ⟨preserved holds.1 meets stepped,
        le_trans holds.2 (raised holds.1 meets stepped)⟩
    · obtain ⟨next, stepped, equal⟩ := tells sees
      rw [equal]
      exact le_trans holds.2 (raised holds.1 meets stepped)
  induction events generalizing state with
  | nil => exact List.Pairwise.nil
  | cons event events inductionHypothesis =>
      unfold seen
      cases sees : see state event with
      | none =>
          rw [Option.toList_none, List.nil_append]
          split
          next next stepped =>
            exact inductionHypothesis (preserved start along.1 stepped)
              (along.2 next stepped)
          next => exact List.Pairwise.nil
      | some value =>
          obtain ⟨next, stepped, equal⟩ := tells sees
          have kept := preserved start along.1 stepped
          rw [Option.toList_some, stepped, List.singleton_append]
          refine List.pairwise_cons.mpr ⟨?_, ?_⟩
          · rw [equal]
            exact above kept (along.2 next stepped)
          · exact inductionHypothesis kept (along.2 next stepped)

end Machine
end Library
