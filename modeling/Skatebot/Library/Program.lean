import Mathlib.Data.Option.Basic

/-!
# Programs over atomic actions

A program either returns a value or performs one action and continues with
the action's reply.  The meaning of the actions is a handler supplied from
outside, so that one program text has both a sequential meaning (run to its
end by itself) and a place in an interleaving with other programs.
-/

namespace Library

/-- Code that performs atomic actions one by one. -/
inductive Program (Action : Type u) (Reply : Action → Type v) (α : Type w)
  | pure (value : α)
  | act (action : Action) (next : Reply action → Program Action Reply α)

/-- The effect of one action on the shared state, or `none` where the action
has to wait. -/
abbrev Handler (Action : Type u) (Reply : Action → Type v) (Shared : Type w) :=
  (action : Action) → Shared → Option (Reply action × Shared)

namespace Program

variable {Action : Type u} {Reply : Action → Type v} {Shared : Type w}

/-- Continue a program with a second one. -/
def bind {α : Type x} {β : Type y}
    (program : Program Action Reply α)
    (next : α → Program Action Reply β) : Program Action Reply β :=
  match program with
  | .pure value => next value
  | .act action rest => .act action fun reply => (rest reply).bind next

instance : Monad (Program Action Reply) where
  pure := .pure
  bind := .bind

/-- The program of a single action. -/
def perform (action : Action) : Program Action Reply (Reply action) :=
  .act action .pure

@[simp] theorem pure_bind_eq
    {α β : Type x}
    (value : α) (next : α → Program Action Reply β) :
    (Program.pure value >>= next) = next value := rfl

@[simp] theorem act_bind_eq
    {α β : Type x}
    (action : Action)
    (rest : Reply action → Program Action Reply α)
    (next : α → Program Action Reply β) :
    (Program.act action rest >>= next) =
      .act action fun reply => rest reply >>= next := rfl

theorem bind_assoc_eq
    {α β γ : Type x}
    (program : Program Action Reply α)
    (next : α → Program Action Reply β)
    (last : β → Program Action Reply γ) :
    (program >>= next) >>= last =
      program >>= fun value => next value >>= last := by
  induction program with
  | pure value => rfl
  | act action rest inductionHypothesis =>
      simp only [act_bind_eq, inductionHypothesis]

/-- The program has nothing left to perform. -/
def done {α : Type x} : Program Action Reply α → Bool
  | .pure _ => true
  | .act _ _ => false

/-- The action that the program performs next. -/
def head {α : Type x} : Program Action Reply α → Option Action
  | .pure _ => none
  | .act action _ => some action

/-- The program's next action may be its last. -/
def Last {α : Type x} : Program Action Reply α → Prop
  | .pure _ => False
  | .act _ next => ∃ reply, (next reply).done = true

/-- Run a program to its end with no other program taking part. -/
def run {α : Type x}
    (exec : Handler Action Reply Shared) :
    Program Action Reply α → Shared → Option (α × Shared)
  | .pure value, shared => some (value, shared)
  | .act action next, shared =>
      (exec action shared).bind fun outcome =>
        run exec (next outcome.1) outcome.2

variable (exec : Handler Action Reply Shared)

@[simp] theorem run_pure {α : Type x} (value : α) (shared : Shared) :
    run exec (Pure.pure value : Program Action Reply α) shared =
      some (value, shared) := rfl

@[simp] theorem run_bind {α β : Type x}
    (program : Program Action Reply α)
    (next : α → Program Action Reply β)
    (shared : Shared) :
    run exec (program >>= next) shared =
      (run exec program shared).bind fun outcome =>
        run exec (next outcome.1) outcome.2 := by
  induction program generalizing shared with
  | pure value => rfl
  | act action rest inductionHypothesis =>
      cases performed : exec action shared with
      | none => simp [run, performed]
      | some outcome => simp [run, performed, inductionHypothesis]

@[simp] theorem run_perform (action : Action) (shared : Shared) :
    run exec (perform action) shared = exec action shared := by
  cases performed : exec action shared <;>
    simp [perform, run, performed]

/-- Read a program's actions as actions of another kind. -/
def translate {α : Type x} {Other : Type y} {OtherReply : Other → Type z}
    (embed : Action → Other)
    (reply : (action : Action) → OtherReply (embed action) → Reply action) :
    Program Action Reply α → Program Other OtherReply α
  | .pure value => .pure value
  | .act action next =>
      .act (embed action) fun outcome =>
        (next (reply action outcome)).translate embed reply

/-- A program read as actions of another kind does what it did, where every
action does: the shared state is then a part of another. -/
theorem run_translate
    {α : Type x} {Other : Type y} {OtherReply : Other → Type z}
    {Whole : Type t}
    {embed : Action → Other}
    {reply : (action : Action) → OtherReply (embed action) → Reply action}
    {other : Handler Other OtherReply Whole}
    (place : Shared → Whole)
    (simulates : ∀ action shared,
      (other (embed action) (place shared)).map
          (fun outcome => (reply action outcome.1, outcome.2)) =
        (exec action shared).map
          fun outcome => (outcome.1, place outcome.2))
    (program : Program Action Reply α)
    (shared : Shared) :
    run other (program.translate embed reply) (place shared) =
      (run exec program shared).map
        fun outcome => (outcome.1, place outcome.2) := by
  induction program generalizing shared with
  | pure value => rfl
  | act action next inductionHypothesis =>
      have simulated := simulates action shared
      simp only [translate, run]
      cases performed : exec action shared with
      | none =>
          rw [performed, Option.map_none, Option.map_eq_none_iff] at simulated
          rw [simulated]
          rfl
      | some outcome =>
          rw [performed, Option.map_some, Option.map_eq_some_iff] at simulated
          obtain ⟨answered, same, equal⟩ := simulated
          obtain ⟨replied, placed⟩ := Prod.mk.inj equal
          rw [same, Option.bind_some, Option.bind_some, placed, replied]
          exact inductionHypothesis outcome.1 outcome.2

/-- Every action that a program can come to perform satisfies a predicate,
whatever the replies are. -/
def OnlyPerforms {α : Type x} (allowed : Action → Prop) :
    Program Action Reply α → Prop
  | .pure _ => True
  | .act action next =>
      allowed action ∧ ∀ reply, (next reply).OnlyPerforms allowed

/-! ## Disciplines -/

/-- What a program may perform in a phase.  Replies that are not expected end
the discipline's concern with the program. -/
structure Discipline (Action : Type u) (Reply : Action → Type v)
    (Phase : Type p) where
  allowed : Phase → Action → Prop
  expected : (action : Action) → Reply action → Prop
  advance : Phase → Action → Phase

/-- A program keeps to a discipline, whatever the expected replies are. -/
def Follows {α : Type x} {Phase : Type p}
    (discipline : Discipline Action Reply Phase) :
    Phase → Program Action Reply α → Prop
  | _, .pure _ => True
  | phase, .act action next =>
      discipline.allowed phase action ∧
        ∀ reply, discipline.expected action reply →
          (next reply).Follows discipline (discipline.advance phase action)

/-- Where every action is allowed for good, every program keeps to the
discipline. -/
theorem follows_of_closed
    {α : Type x} {Phase : Type p}
    (discipline : Discipline Action Reply Phase)
    (free : Phase → Prop)
    (allowed : ∀ {phase}, free phase →
      ∀ action, discipline.allowed phase action)
    (closed : ∀ {phase}, free phase →
      ∀ action, free (discipline.advance phase action))
    {phase : Phase}
    (start : free phase)
    (program : Program Action Reply α) :
    program.Follows discipline phase := by
  induction program generalizing phase with
  | pure value => trivial
  | act action next inductionHypothesis =>
      exact ⟨allowed start action, fun reply _ =>
        inductionHypothesis reply (closed start action)⟩

end Program
end Library
