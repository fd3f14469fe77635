import Skatebot.Library.Machine

/-!
# A channel behind a machine

A machine keeps a log of the messages that it has sent.  A channel hands them
to a receiver in order, at any later time and each at most once: it may drop
what is older than the message that it hands over, as a queue of bounded
length does.  Whatever the interleaving, the receiver has seen a part of the
log that ends with the last message delivered.
-/

namespace Library

/-- A sender, the number of its messages that may still arrive, and their
receiver. -/
structure Channelled (State : Type u) (Receiver : Type w) where
  sender : State
  waiting : Nat
  receiver : Receiver

/-- An event of the sender, or the delivery of a message that leaves some newer
ones waiting. -/
inductive ChannelEvent (Event : Type v)
  | sends (event : Event)
  | deliver (left : Nat)
  deriving DecidableEq

namespace ChannelEvent

/-- The event of the sender. -/
def sent {Event : Type v} : ChannelEvent Event → Option Event
  | sends event => some event
  | deliver _ => none

@[simp] theorem sent_sends {Event : Type v} (event : Event) :
    (sends event).sent = some event := rfl

@[simp] theorem sent_deliver {Event : Type v} (left : Nat) :
    (deliver left : ChannelEvent Event).sent = none := rfl

end ChannelEvent

/-- What joins a sender and a receiver: the sender's log, its newest message
first, and what the receiver makes of a message. -/
structure Channel (State : Type u) (Event : Type v) (Message : Type x)
    (Receiver : Type w) where
  machine : Machine State Event
  log : State → List Message
  receive : Receiver → Message → Receiver
  /-- What has been sent stays sent. -/
  grows : ∀ {state event next}, machine.step state event = some next →
    log state <:+ log next

namespace Channel

variable {State : Type u} {Event : Type v} {Message : Type x}
  {Receiver : Type w} (channel : Channel State Event Message Receiver)

/-- The sender, the channel and the receiver together. -/
def joined : Machine (Channelled State Receiver) (ChannelEvent Event) where
  step
    | whole, .sends event =>
        (channel.machine.step whole.sender event).map fun next =>
          { whole with
            sender := next
            waiting := whole.waiting +
              ((channel.log next).length - (channel.log whole.sender).length) }
    | whole, .deliver left =>
        if left < whole.waiting then
          (channel.log whole.sender)[left]?.map fun message =>
            { whole with
              waiting := left
              receiver := channel.receive whole.receiver message }
        else none

/-- Before anything happens. -/
def start (sender : State) (receiver : Receiver) :
    Channelled State Receiver where
  sender := sender
  waiting := 0
  receiver := receiver

/-- The receiver once it has seen the given messages, the newest of them
first. -/
def received (first : Receiver) (seen : List Message) : Receiver :=
  seen.foldr (fun message receiver => channel.receive receiver message) first

@[simp] theorem received_nil (first : Receiver) :
    channel.received first [] = first := rfl

@[simp] theorem received_cons
    (first : Receiver) (message : Message) (seen : List Message) :
    channel.received first (message :: seen) =
      channel.receive (channel.received first seen) message := rfl

/-- What the receiver has seen, of all that has been delivered or dropped: the
newest of it in any case. -/
structure Saw (first : Receiver) (whole : Channelled State Receiver)
    (seen : List Message) : Prop where
  waiting : whole.waiting ≤ (channel.log whole.sender).length
  sublist : seen.Sublist ((channel.log whole.sender).drop whole.waiting)
  newest : seen.head? =
    ((channel.log whole.sender).drop whole.waiting).head?
  receiver : whole.receiver = channel.received first seen

variable {channel} {first : Receiver}

theorem Saw.step
    {before after : Channelled State Receiver}
    {seen : List Message}
    (saw : channel.Saw first before seen)
    {event : ChannelEvent Event}
    (stepped : channel.joined.step before event = some after) :
    ∃ seen, channel.Saw first after seen := by
  obtain ⟨waiting, sublist, newest, receiver⟩ := saw
  cases event with
  | sends event =>
      obtain ⟨next, sent, rfl⟩ := Option.map_eq_some_iff.mp stepped
      obtain ⟨new, grown⟩ := channel.grows sent
      have same : (channel.log next).drop (before.waiting +
          ((channel.log next).length - (channel.log before.sender).length)) =
          (channel.log before.sender).drop before.waiting := by
        rw [← grown, List.length_append, Nat.add_sub_cancel, Nat.add_comm,
          ← List.drop_drop, List.drop_left]
      refine ⟨seen, ?_, same ▸ sublist, same ▸ newest, receiver⟩
      dsimp only
      rw [← grown, List.length_append]
      omega
  | deliver left =>
      simp only [joined, Option.ite_none_right_eq_some,
        Option.map_eq_some_iff] at stepped
      obtain ⟨fewer, message, next, rfl⟩ := stepped
      obtain ⟨within, found⟩ := List.getElem?_eq_some_iff.mp next
      have split : (channel.log before.sender).drop left =
          message :: (channel.log before.sender).drop (left + 1) := by
        rw [List.drop_eq_getElem_cons within, found]
      refine ⟨message :: seen, Nat.le_of_lt within, ?_, ?_, ?_⟩
      · dsimp only
        rw [split]
        apply List.Sublist.cons_cons
        apply sublist.trans
        exact (List.drop_suffix_drop_left _ fewer).sublist
      · dsimp only
        rw [split, List.head?_cons, List.head?_cons]
      · rw [received_cons, ← receiver]

/-- In every run, what has been delivered ends with the newest message that is
not waiting. -/
theorem run_saw
    {sender : State}
    (silent : channel.log sender = [])
    {events : List (ChannelEvent Event)}
    {final : Channelled State Receiver}
    (reached : channel.joined.run (start sender first) events = some final) :
    ∃ seen, channel.Saw first final seen := by
  apply channel.joined.invariant_of_run
    (fun whole => ∃ seen, channel.Saw first whole seen) _ _ reached
  · rintro before event after ⟨seen, saw⟩ stepped
    exact saw.step stepped
  · exact ⟨[], Nat.zero_le _, List.nil_sublist _, by simp [start, silent], rfl⟩

theorem step_sender
    {before after : Channelled State Receiver}
    {event : Event}
    (stepped : channel.joined.step before (.sends event) = some after) :
    channel.machine.step before.sender event = some after.sender := by
  obtain ⟨next, sent, rfl⟩ := Option.map_eq_some_iff.mp stepped
  exact sent

/-- The sender does what it does alone. -/
theorem run_sender
    {before after : Channelled State Receiver}
    {events : List (ChannelEvent Event)}
    (reached : channel.joined.run before events = some after) :
    channel.machine.run before.sender (events.filterMap ChannelEvent.sent) =
      some after.sender := by
  induction events generalizing before with
  | nil =>
      obtain rfl := Option.some.inj reached
      rfl
  | cons event events inductionHypothesis =>
      obtain ⟨next, stepped, rest⟩ :=
        channel.joined.run_cons_eq_some.mp reached
      have later := inductionHypothesis rest
      cases event with
      | sends event =>
          rw [List.filterMap_cons_some (ChannelEvent.sent_sends event),
            Machine.run_cons_eq_some]
          exact ⟨next.sender, step_sender stepped, later⟩
      | deliver left =>
          simp only [joined, Option.ite_none_right_eq_some,
            Option.map_eq_some_iff] at stepped
          obtain ⟨-, message, -, rfl⟩ := stepped
          rw [List.filterMap_cons_none (ChannelEvent.sent_deliver left)]
          exact later

/-- When nothing is waiting, the receiver has seen the newest message of the
log. -/
theorem Saw.drained
    {whole : Channelled State Receiver}
    {seen : List Message}
    (saw : channel.Saw first whole seen)
    (drained : whole.waiting = 0) :
    seen.Sublist (channel.log whole.sender) ∧
      seen.head? = (channel.log whole.sender).head? := by
  have sublist := saw.sublist
  have newest := saw.newest
  rw [drained, List.drop_zero] at sublist newest
  exact ⟨sublist, newest⟩

end Channel
end Library
