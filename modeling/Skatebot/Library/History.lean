import Mathlib.Data.List.Basic

/-!
# Events and the events before them

Nodes keep the latest message of a kind in a field.  What such a field holds
after a run is a function of the run's events alone: the value of the last
event that gives one.  And what is expected at an event often depends on the
events before it: such a property is asked of every place in a list.
-/

namespace Library

/-- The value of the last of the events that give one. -/
def latest {Event : Type v} {Value : Type w} (value : Event → Option Value)
    (events : List Event) : Option Value :=
  events.foldl (fun last event => (value event).or last) none

section

variable {Event : Type v} {Value : Type w} (value : Event → Option Value)

@[simp] theorem latest_nil : latest value [] = none := rfl

/-- One more event gives the latest value, or leaves the one before. -/
@[simp] theorem latest_concat (events : List Event) (event : Event) :
    latest value (events ++ [event]) =
      (value event).or (latest value events) := by
  simp [latest]

end

/-- A property of the events before and of the event, at every place of a
list. -/
def Throughout {Event : Type v} (property : List Event → Event → Prop)
    (events : List Event) : Prop :=
  ∀ earlier event later, events = earlier ++ event :: later →
    property earlier event

section

variable {Event : Type v} (property : List Event → Event → Prop)

@[simp] theorem throughout_nil : Throughout property [] := by
  intro earlier event later split
  simp at split

/-- One more event adds one place. -/
theorem throughout_concat (events : List Event) (event : Event) :
    Throughout property (events ++ [event]) ↔
      Throughout property events ∧ property events event := by
  constructor
  · intro throughout
    refine ⟨?_, throughout events event [] rfl⟩
    rintro earlier current later rfl
    apply throughout earlier current (later ++ [event])
    simp
  · rintro ⟨throughout, last⟩ earlier current later split
    rcases List.eq_nil_or_concat later with rfl | ⟨later, final, rfl⟩
    · obtain ⟨rfl, same⟩ := List.append_inj' split rfl
      obtain rfl := List.singleton_inj.mp same
      exact last
    · have shape : events ++ [event] =
          (earlier ++ current :: later) ++ [final] := by
        simpa using split
      obtain ⟨rfl, -⟩ := List.append_inj' shape rfl
      exact throughout earlier current later rfl

@[simp] theorem throughout_singleton (event : Event) :
    Throughout property [event] ↔ property [] event := by
  have one := throughout_concat property [] event
  rwa [List.nil_append, iff_true_intro (throughout_nil property),
    true_and] at one

/-- Two properties that agree at every place of a list hold throughout it
together. -/
theorem throughout_congr
    {property other : List Event → Event → Prop}
    {events : List Event}
    (agree : ∀ earlier event later, events = earlier ++ event :: later →
      (property earlier event ↔ other earlier event)) :
    Throughout property events ↔ Throughout other events := by
  unfold Throughout
  apply forall_congr'; intro earlier
  apply forall_congr'; intro event
  apply forall_congr'; intro later
  apply imp_congr_right; intro split
  exact agree earlier event later split

end

end Library
