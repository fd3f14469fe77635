import Mathlib.Data.List.Count
import Skatebot.Library.Interleaving

/-!
# A slot with a flag

A writer stores a value in a slot and then raises a flag; a reader tests the
flag, lowers it and then copies the value.  Each access is atomic, but nothing
joins two of them.  The reader may copy a value more than once, and miss values;
what it copies it copies in order, and the newest value does not get lost.
-/

namespace Library

/-- An access to the slot or to its flag. -/
inductive SlotAction (Value : Type)
  | store (value : Value)
  | raise
  | test
  | lower
  | copy

/-- What an access answers. -/
def SlotAction.Reply {Value : Type} : SlotAction Value → Type
  | store _ => Unit
  | raise => Unit
  | test => Bool
  | lower => Unit
  | copy => Value

/-- The slot, its flag and its past. -/
structure FlaggedSlot (Value : Type) where
  value : Value
  ready : Bool
  /-- The values that have been stored, newest first. -/
  stored : List Value
  /-- The values that have been copied, newest first, with their places among
  the stored ones. -/
  copied : List (Nat × Value)

/-- The two threads. -/
inductive SlotThread
  | writer
  | reader
  deriving DecidableEq

namespace FlaggedSlot

variable {Value : Type}

/-- Code that accesses the slot. -/
abbrev SlotM (Value : Type) := Program (SlotAction Value) SlotAction.Reply

/-- Before anything is stored. -/
def empty (value : Value) : FlaggedSlot Value where
  value := value
  ready := false
  stored := []
  copied := []

/-- The effect of an access. -/
def exec : Handler (SlotAction Value) SlotAction.Reply (FlaggedSlot Value)
  | .store value, slot =>
      some ((), { slot with value := value, stored := value :: slot.stored })
  | .raise, slot => some ((), { slot with ready := true })
  | .test, slot => some (slot.ready, slot)
  | .lower, slot => some ((), { slot with ready := false })
  | .copy, slot =>
      some (slot.value,
        { slot with
          copied := (slot.stored.length - 1, slot.value) :: slot.copied })

/-- Hand a value over. -/
def put (value : Value) : SlotM Value PUnit := do
  let _ ← Program.perform (SlotAction.store value)
  let _ ← Program.perform SlotAction.raise
  pure ⟨⟩

/-- Take the value, if it is new. -/
def take : SlotM Value (Option Value) := do
  let (ready : Bool) ← Program.perform SlotAction.test
  if ready then
    let _ ← Program.perform SlotAction.lower
    let value ← Program.perform SlotAction.copy
    pure (some value)
  else pure none

/-- Hand values over, one after the other. -/
def puts : List Value → SlotM Value PUnit
  | [] => pure ⟨⟩
  | value :: values => do
      put value
      puts values

/-- Ask for a value some times. -/
def takes : Nat → SlotM Value PUnit
  | 0 => pure ⟨⟩
  | count + 1 => do
      let _ ← take
      takes count

/-! ## The threads' code -/

/-- What the writer has still to do: to raise the flag, and to hand values
over. -/
inductive Writing : Bool → List Value → SlotM Value PUnit → Prop
  | rest (values : List Value) : Writing false values (puts values)
  | raise (values : List Value) :
      Writing true values (.act .raise fun _ => puts values)

/-- Where the reader is. -/
inductive ReaderPhase
  | idle
  | tested
  | lowered
  deriving DecidableEq

/-- What the reader has still to do. -/
inductive Reading : ReaderPhase → SlotM Value PUnit → Prop
  | idle (count : Nat) : Reading .idle (takes count)
  | tested (count : Nat) :
      Reading .tested (.act .lower fun _ => .act .copy fun _ => takes count)
  | lowered (count : Nat) : Reading .lowered (.act .copy fun _ => takes count)

/-! ## The slot -/

/-- How often the newest value can still be copied: by the reader that has
seen its flag, for the flag that is up, and for the flag that is still to be
raised. -/
def claims (slot : FlaggedSlot Value) (pending : Bool) (phase : ReaderPhase) :
    Nat :=
  (if phase = .idle then 0 else 1) +
    (if slot.ready = true ∧ phase ≠ .tested then 1 else 0) +
    if pending then 1 else 0

/-- What holds of the slot between any two accesses. -/
structure Handed (slot : FlaggedSlot Value) (pending : Bool)
    (phase : ReaderPhase) : Prop where
  stored : slot.claims pending phase ≠ 0 → slot.stored ≠ []
  newest : slot.stored ≠ [] → slot.stored.head? = some slot.value
  copies : ∀ pick ∈ slot.copied,
    slot.stored.reverse[pick.1]? = some pick.2
  inOrder : (slot.copied.map Prod.fst).Pairwise (· ≥ ·)
  few : ∀ place, (slot.copied.map Prod.fst).count place ≤ 3
  left : (slot.copied.map Prod.fst).count (slot.stored.length - 1) +
    slot.claims pending phase ≤ 3
  kept : slot.stored ≠ [] → slot.claims pending phase = 0 →
    ∃ value, slot.copied.head? = some (slot.stored.length - 1, value)

theorem handed_empty (value : Value) : Handed (empty value) false .idle := by
  refine ⟨fun nonempty => absurd rfl nonempty, fun nonempty => absurd rfl nonempty, ?_, ?_, ?_,
    ?_, fun nonempty => absurd rfl nonempty⟩
  · exact List.forall_mem_nil _
  · exact List.Pairwise.nil
  · exact fun place => Nat.zero_le _
  · exact Nat.zero_le _

/-- No copy has a place beyond the values that have been stored. -/
theorem Handed.place_lt
    {slot : FlaggedSlot Value}
    {pending : Bool}
    {phase : ReaderPhase}
    (handed : Handed slot pending phase)
    {place : Nat}
    (member : place ∈ slot.copied.map Prod.fst) :
    place < slot.stored.length := by
  obtain ⟨pick, inside, rfl⟩ := List.mem_map.mp member
  have found := handed.copies pick inside
  obtain ⟨within, -⟩ := List.getElem?_eq_some_iff.mp found
  simpa using within

theorem Handed.store
    {slot : FlaggedSlot Value}
    {phase : ReaderPhase}
    (handed : Handed slot false phase)
    (value : Value) :
    Handed { slot with value := value, stored := value :: slot.stored }
      true phase := by
  have unseen : (slot.copied.map Prod.fst).count slot.stored.length = 0 :=
    List.count_eq_zero.mpr fun member =>
      Nat.lt_irrefl _ (handed.place_lt member)
  refine ⟨fun _ => List.cons_ne_nil _ _, fun _ => rfl, ?_, handed.inOrder,
    handed.few, ?_, ?_⟩
  · intro pick member
    have found := handed.copies pick member
    obtain ⟨within, -⟩ := List.getElem?_eq_some_iff.mp found
    rwa [List.reverse_cons, List.getElem?_append_left within]
  · simp only [List.length_cons, Nat.add_sub_cancel, unseen, claims]
    split_ifs <;> decide
  · simp [claims]

theorem Handed.raise
    {slot : FlaggedSlot Value}
    {phase : ReaderPhase}
    (handed : Handed slot true phase) :
    Handed { slot with ready := true } false phase := by
  have nonempty : slot.stored ≠ [] := handed.stored (by simp [claims])
  have left := handed.left
  refine ⟨fun _ => nonempty, handed.newest, handed.copies, handed.inOrder,
    handed.few, ?_, ?_⟩
  · unfold claims at left ⊢
    cases phase <;> simp at left ⊢ <;> omega
  · intro _ unclaimed
    cases phase <;> simp [claims] at unclaimed

/-- The reader sees the flag up. -/
theorem Handed.test
    {slot : FlaggedSlot Value}
    {pending : Bool}
    (handed : Handed slot pending .idle)
    (ready : slot.ready = true) :
    Handed slot pending .tested := by
  have nonempty : slot.stored ≠ [] := handed.stored (by simp [claims, ready])
  refine ⟨fun _ => nonempty, handed.newest, handed.copies, handed.inOrder,
    handed.few, ?_, ?_⟩
  · have left := handed.left
    simpa [claims, ready] using left
  · intro _ unclaimed
    simp [claims] at unclaimed

theorem Handed.lower
    {slot : FlaggedSlot Value}
    {pending : Bool}
    (handed : Handed slot pending .tested) :
    Handed { slot with ready := false } pending .lowered := by
  have nonempty : slot.stored ≠ [] := handed.stored (by simp [claims])
  refine ⟨fun _ => nonempty, handed.newest, handed.copies, handed.inOrder,
    handed.few, ?_, ?_⟩
  · have left := handed.left
    simpa [claims] using left
  · intro _ unclaimed
    simp [claims] at unclaimed

theorem Handed.copy
    {slot : FlaggedSlot Value}
    {pending : Bool}
    (handed : Handed slot pending .lowered) :
    Handed
      { slot with
        copied := (slot.stored.length - 1, slot.value) :: slot.copied }
      pending .idle := by
  have nonempty : slot.stored ≠ [] := handed.stored (by simp [claims])
  have left := handed.left
  refine ⟨fun _ => nonempty, handed.newest, ?_, ?_, ?_, ?_, ?_⟩
  · intro pick member
    rcases List.mem_cons.mp member with rfl | old
    · rw [← handed.newest nonempty, ← List.getLast?_reverse,
        List.getLast?_eq_getElem?, List.length_reverse]
    · exact handed.copies pick old
  · refine List.Pairwise.cons ?_ handed.inOrder
    intro place member
    exact Nat.le_sub_one_of_lt (handed.place_lt member)
  · intro place
    rw [List.map_cons, List.count_cons]
    split
    next same =>
      simp only [beq_iff_eq] at same
      subst same
      simp [claims] at left
      omega
    next => exact handed.few place
  · simp only [List.map_cons, List.count_cons_self]
    simp [claims] at left ⊢
    omega
  · intro _ _
    exact ⟨slot.value, rfl⟩

/-! ## The threads together -/

/-- The slot and its two threads. -/
abbrev SlotPool (Value : Type) :=
  Pool SlotThread (SlotAction Value) SlotAction.Reply (FlaggedSlot Value)

/-- A writer that hands some values over, and a reader that asks for one some
times. -/
def start (value : Value) (values : List Value) (count : Nat) :
    SlotPool Value where
  shared := empty value
  code
    | .writer => puts values
    | .reader => takes count

/-- What holds between any two steps of the threads. -/
def Safe (values : List Value) (pool : SlotPool Value) : Prop :=
  ∃ pending rest phase,
    Writing pending rest (pool.code .writer) ∧
      Reading phase (pool.code .reader) ∧
      values = pool.shared.stored.reverse ++ rest ∧
      Handed pool.shared pending phase

theorem safe_start (value : Value) (values : List Value) (count : Nat) :
    Safe values (start value values count) :=
  ⟨false, values, .idle, .rest values, .idle count, rfl, handed_empty value⟩

/-- The writer's next access. -/
theorem Writing.step
    {pending : Bool}
    {rest : List Value}
    {phase : ReaderPhase}
    {action : SlotAction Value}
    {next : action.Reply → SlotM Value PUnit}
    (writing : Writing pending rest (.act action next))
    {slot after : FlaggedSlot Value}
    {reply : action.Reply}
    (performed : exec action slot = some (reply, after))
    (handed : Handed slot pending phase) :
    ∃ pending left, Writing pending left (next reply) ∧
      slot.stored.reverse ++ rest = after.stored.reverse ++ left ∧
      Handed after pending phase := by
  generalize code : Program.act action next = written at writing
  cases writing with
  | rest =>
      cases rest with
      | nil => cases code
      | cons value rest =>
          cases code
          cases performed
          refine ⟨true, rest, .raise rest, ?_, handed.store value⟩
          rw [List.reverse_cons, List.append_assoc]
          rfl
  | raise =>
      cases code
      cases performed
      exact ⟨false, rest, .rest rest, rfl, handed.raise⟩

/-- The reader's next access. -/
theorem Reading.step
    {pending : Bool}
    {phase : ReaderPhase}
    {action : SlotAction Value}
    {next : action.Reply → SlotM Value PUnit}
    (reading : Reading phase (.act action next))
    {slot after : FlaggedSlot Value}
    {reply : action.Reply}
    (performed : exec action slot = some (reply, after))
    (handed : Handed slot pending phase) :
    ∃ phase, Reading phase (next reply) ∧ after.stored = slot.stored ∧
      Handed after pending phase := by
  generalize code : Program.act action next = read at reading
  cases reading with
  | idle count =>
      cases count with
      | zero => cases code
      | succ count =>
          cases code
          obtain ⟨ready, rfl⟩ := Prod.mk.inj (Option.some_inj.mp performed)
          cases reply with
          | false => exact ⟨.idle, .idle count, rfl, handed⟩
          | true => exact ⟨.tested, .tested count, rfl, handed.test ready⟩
  | tested count =>
      cases code
      cases performed
      exact ⟨.lowered, .lowered count, rfl, handed.lower⟩
  | lowered count =>
      cases code
      cases performed
      exact ⟨.idle, .idle count, rfl, handed.copy⟩

theorem Safe.step
    {values : List Value}
    {pool next : SlotPool Value}
    {thread : SlotThread}
    (safe : Safe values pool)
    (stepped : pool.step (fun _ => exec) thread = some next) :
    Safe values next := by
  obtain ⟨pending, rest, phase, writing, reading, all, handed⟩ := safe
  obtain ⟨action, continued, reply, shared, head, performed, rfl⟩ :=
    (Pool.step_eq_some _).mp stepped
  cases thread with
  | writer =>
      rw [head] at writing
      obtain ⟨pending, left, written, moved, handed⟩ :=
        writing.step performed handed
      refine ⟨pending, left, phase, ?_, ?_, all.trans moved, handed⟩
      · simpa using written
      · simpa using reading
  | reader =>
      rw [head] at reading
      obtain ⟨phase, read, stored, handed⟩ := reading.step performed handed
      refine ⟨pending, rest, phase, ?_, ?_, ?_, handed⟩
      · simpa using writing
      · simpa using read
      · rwa [stored]

theorem Safe.steps
    {values : List Value}
    {pool final : SlotPool Value}
    (safe : Safe values pool)
    (threads : List SlotThread)
    (ran : pool.steps (fun _ => exec) threads = some final) :
    Safe values final := by
  induction threads generalizing pool with
  | nil =>
      obtain rfl := Option.some_inj.mp ran
      exact safe
  | cons thread threads inductionHypothesis =>
      rw [Pool.steps, List.foldlM_cons, Option.bind_eq_bind,
        Option.bind_eq_some_iff] at ran
      obtain ⟨next, stepped, ran⟩ := ran
      exact inductionHypothesis (safe.step stepped) ran

/-- What has been copied are values that were handed over. -/
theorem Safe.copies
    {values : List Value}
    {pool : SlotPool Value}
    (safe : Safe values pool) :
    ∀ pick ∈ pool.shared.copied, values[pick.1]? = some pick.2 := by
  obtain ⟨pending, rest, phase, -, -, all, handed⟩ := safe
  intro pick member
  have found := handed.copies pick member
  obtain ⟨within, -⟩ := List.getElem?_eq_some_iff.mp found
  rwa [all, List.getElem?_append_left within]

/-- Once both threads are at rest and the flag is down, the last value has been
copied last. -/
theorem Safe.settled
    {values : List Value}
    {pool : SlotPool Value}
    (safe : Safe values pool)
    (written : pool.Idle .writer)
    (read : pool.Idle .reader)
    (lowered : pool.shared.ready = false) :
    pool.shared.copied.head?.map Prod.snd = values.getLast? := by
  have copies := safe.copies
  obtain ⟨pending, rest, phase, writing, reading, all, handed⟩ := safe
  rw [Pool.idle_iff.mp written] at writing
  rw [Pool.idle_iff.mp read] at reading
  obtain ⟨rfl, rfl⟩ : pending = false ∧ rest = [] := by
    generalize code : Program.pure PUnit.unit = written at writing
    cases writing with
    | rest =>
        cases rest with
        | nil => exact ⟨rfl, rfl⟩
        | cons value rest => cases code
    | raise => cases code
  obtain rfl : phase = .idle := by
    generalize code : Program.pure PUnit.unit = read at reading
    cases reading with
    | idle count => rfl
    | tested count => cases code
    | lowered count => cases code
  rw [List.append_nil] at all
  have unclaimed : pool.shared.claims false .idle = 0 := by simp [claims, lowered]
  by_cases empty : pool.shared.stored = []
  · rw [all, empty]
    cases copied : pool.shared.copied with
    | nil => rfl
    | cons pick picks =>
        have found := copies pick (copied ▸ List.mem_cons_self)
        simp [all, empty] at found
  · obtain ⟨value, last⟩ := handed.kept empty unclaimed
    have found := copies _ (List.mem_of_mem_head? last)
    rw [last, List.getLast?_eq_getElem?, all, List.length_reverse]
    rw [all] at found
    exact found.symm

end FlaggedSlot
end Library
