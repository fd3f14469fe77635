import Mathlib.Logic.Function.Basic
import Skatebot.Library.Program

/-!
# Interleaved programs

A pool holds one shared state and, for every thread, the code that the thread
still has to run.  A thread's step performs the first action of its remaining
code; everything between two steps is left to the scheduler.
-/

namespace Library

/-- A shared state and the remaining code of every thread. -/
structure Pool (Thread : Type t) (Action : Type u) (Reply : Action → Type v)
    (Shared : Type w) where
  shared : Shared
  code : Thread → Program Action Reply PUnit.{1}

namespace Pool

variable {Thread : Type t} [DecidableEq Thread]
  {Action : Type u} {Reply : Action → Type v} {Shared : Type w}

/-- Replace the remaining code of one thread. -/
def setCode (pool : Pool Thread Action Reply Shared) (thread : Thread)
    (code : Program Action Reply PUnit.{1}) :
    Pool Thread Action Reply Shared :=
  { pool with code := Function.update pool.code thread code }

@[simp] theorem setCode_shared
    (pool : Pool Thread Action Reply Shared) (thread : Thread)
    (code : Program Action Reply PUnit.{1}) :
    (pool.setCode thread code).shared = pool.shared := rfl

@[simp] theorem setCode_code_self
    (pool : Pool Thread Action Reply Shared) (thread : Thread)
    (code : Program Action Reply PUnit.{1}) :
    (pool.setCode thread code).code thread = code :=
  Function.update_self ..

theorem setCode_code_of_ne
    (pool : Pool Thread Action Reply Shared) {thread other : Thread}
    (code : Program Action Reply PUnit.{1})
    (different : other ≠ thread) :
    (pool.setCode thread code).code other = pool.code other :=
  Function.update_of_ne different ..

/-- A thread has nothing left to run. -/
def Idle (pool : Pool Thread Action Reply Shared) (thread : Thread) : Prop :=
  (pool.code thread).done = true

instance (pool : Pool Thread Action Reply Shared) (thread : Thread) :
    Decidable (pool.Idle thread) :=
  inferInstanceAs (Decidable (_ = true))

omit [DecidableEq Thread] in
theorem idle_iff
    {pool : Pool Thread Action Reply Shared} {thread : Thread} :
    pool.Idle thread ↔ pool.code thread = .pure ⟨⟩ := by
  unfold Idle
  cases pool.code thread with
  | pure value => simp [Program.done]
  | act action next => simp [Program.done]

variable (exec : Thread → Handler Action Reply Shared)

/-- Perform the next action of one thread; refused when the thread is idle or
its action has to wait. -/
def step (pool : Pool Thread Action Reply Shared) (thread : Thread) :
    Option (Pool Thread Action Reply Shared) :=
  match pool.code thread with
  | .pure _ => none
  | .act action next =>
      (exec thread action pool.shared).map fun outcome =>
        { shared := outcome.2
          code := Function.update pool.code thread (next outcome.1) }

/-- A step of a thread is the performance of the first action of its code. -/
theorem step_eq_some
    {pool final : Pool Thread Action Reply Shared} {thread : Thread} :
    pool.step exec thread = some final ↔
      ∃ action next reply shared,
        pool.code thread = .act action next ∧
        exec thread action pool.shared = some (reply, shared) ∧
        final =
          { shared := shared
            code := Function.update pool.code thread (next reply) } := by
  constructor
  · intro stepped
    unfold step at stepped
    split at stepped
    · contradiction
    · next action next head =>
        simp only [Option.map_eq_some_iff, Prod.exists] at stepped
        obtain ⟨reply, shared, performed, rfl⟩ := stepped
        exact ⟨action, next, reply, shared, head, performed, rfl⟩
  · rintro ⟨action, next, reply, shared, head, performed, rfl⟩
    simp [step, head, performed]

/-- Take a list of steps, each named by its thread. -/
def steps (pool : Pool Thread Action Reply Shared) (threads : List Thread) :
    Option (Pool Thread Action Reply Shared) :=
  threads.foldlM (step exec) pool

/-- The sequential run of a program is one of its interleavings: the one in
which its thread is scheduled until it has nothing left to run. -/
theorem steps_of_run
    {thread : Thread} {program : Program Action Reply PUnit.{1}}
    {pool : Pool Thread Action Reply Shared} {final : Shared}
    (loaded : pool.code thread = program)
    (ran : program.run (exec thread) pool.shared = some (⟨⟩, final)) :
    ∃ count,
      pool.steps exec (List.replicate count thread) =
        some { (pool.setCode thread (.pure ⟨⟩)) with shared := final } := by
  induction program generalizing pool with
  | pure value =>
      simp only [Program.run, Option.some.injEq, Prod.mk.injEq] at ran
      refine ⟨0, ?_⟩
      obtain ⟨_, rfl⟩ := ran
      simp only [List.replicate_zero, steps, List.foldlM_nil, setCode]
      have same : Function.update pool.code thread (.pure ⟨⟩) = pool.code := by
        rw [Function.update_eq_self_iff]
        exact loaded.symm
      rw [same]
      rfl
  | act action next inductionHypothesis =>
      simp only [Program.run, Option.bind_eq_some_iff] at ran
      obtain ⟨⟨reply, middle⟩, performed, ran⟩ := ran
      have stepped := (step_eq_some exec).mpr
        ⟨action, next, reply, middle, loaded, performed, rfl⟩
      let resumed : Pool Thread Action Reply Shared :=
        { shared := middle
          code := Function.update pool.code thread (next reply) }
      have resumedCode : resumed.code thread = next reply :=
        Function.update_self ..
      obtain ⟨count, reached⟩ := inductionHypothesis reply resumedCode ran
      refine ⟨count + 1, ?_⟩
      rw [List.replicate_succ, steps, List.foldlM_cons, stepped]
      simpa [resumed, steps, setCode] using reached

end Pool
end Library
