import Skatebot.Driver.Deadman

/-!
# The deadman's switch among its callers

The deadman's switch thread and the callers of the object take their atomic
steps in any order.  The thread's place in its loop is a stage; the stages give
the shape of its code at every moment, whatever the callers do.
-/

namespace Skatebot

open Library

variable {R : Type} [Field R] [LinearOrder R] [FloorRing R]

/-! ## The flags -/

/-- The action stores a flag of the deadman's switch. -/
def CommsAction.storesFlag : CommsAction R → Bool
  | .lock => false
  | .unlock => false
  | .call _ _ => false
  | .addParam _ => false
  | .txPacket => false
  | .clearParam => false
  | .loadSwitch => false
  | .loadEnabled => false
  | .storeSwitch _ => true
  | .storeEnabled _ => true

/-- Other actions keep the flags. -/
theorem execute_flags
    (bus : Bus R)
    {thread : Thread}
    {action : CommsAction R}
    (keeps : action.storesFlag = false)
    {comms next : DynamixelComms}
    {reply : action.Reply}
    (performed : execute bus thread action comms = some (reply, next)) :
    next.deadmansSwitch = comms.deadmansSwitch ∧
      next.deadmansSwitchEnabled = comms.deadmansSwitchEnabled := by
  cases action with
  | lock =>
      by_cases free : comms.commsMutex = none
      · simp only [execute, if_pos free, Option.some.injEq] at performed
        obtain ⟨-, rfl⟩ := performed
        exact ⟨rfl, rfl⟩
      · simp only [execute, if_neg free] at performed
        contradiction
  | addParam param =>
      by_cases known : param.id ∈ comms.groupBulkWrite.map BulkParam.id
      · simp only [execute, if_pos known, Option.some.injEq] at performed
        obtain ⟨-, rfl⟩ := performed
        exact ⟨rfl, rfl⟩
      · simp only [execute, if_neg known, Option.some.injEq] at performed
        obtain ⟨-, rfl⟩ := performed
        exact ⟨rfl, rfl⟩
  | storeSwitch => contradiction
  | storeEnabled => contradiction
  | _ =>
      obtain ⟨-, rfl⟩ := Prod.mk.inj (Option.some.inj performed)
      exact ⟨rfl, rfl⟩

/-! ## The system -/

/-- All threads that use one object, with a record of what they have done. -/
structure System (R : Type) [Field R] [LinearOrder R] [FloorRing R] where
  pool : Pool Thread (CommsAction R) CommsAction.Reply DynamixelComms
  /-- Iterations of the deadman's switch that have ended. -/
  iterations : Nat
  /-- A command has returned since the last iteration ended. -/
  returned : Bool

/-- What can happen next. -/
inductive Event (R : Type)
  /-- The deadman's switch thread wakes up. -/
  | wake
  /-- A caller calls a command. -/
  | begin (caller : Nat) (command : DynamixelComms.Command R)
  /-- A thread takes its next step. -/
  | step (thread : Thread)

namespace System

/-- The object. -/
def comms (system : System R) : DynamixelComms := system.pool.shared

/-- Record that a thread's code has come to its end. -/
def record (thread : Thread) (system : System R) : System R :=
  if system.pool.Idle thread then
    match thread with
    | .deadmansSwitch =>
        { system with
          iterations := system.iterations + 1
          returned := false }
    | .caller _ => { system with returned := true }
  else system

@[simp] theorem record_pool (thread : Thread) (system : System R) :
    (record thread system).pool = system.pool := by
  unfold record
  split
  · cases thread <;> rfl
  · rfl

/-- The state after an event, or `none` where it cannot happen. -/
def next (bus : Bus R) (system : System R) : Event R → Option (System R)
  | .wake =>
      if system.pool.Idle .deadmansSwitch then
        some
          { system with
            pool :=
              system.pool.setCode .deadmansSwitch
                DynamixelComms.deadmansSwitchIteration }
      else none
  | .begin caller command =>
      if system.pool.Idle (.caller caller) then
        some
          { system with
            pool :=
              system.pool.setCode (.caller caller) (command.code bus.cast) }
      else none
  | .step thread =>
      (system.pool.step (execute bus) thread).map fun pool =>
        record thread { system with pool := pool }

end System

/-- The interleavings of the threads. -/
def interleavings (bus : Bus R) : Machine (System R) (Event R) where
  step system event := system.next bus event

/-! ## Stages of an iteration -/

/-- Where the deadman's switch thread is in its loop. -/
inductive Stage
  | asleep
  | checkEnabled
  | checkSwitch
  | lock
  | stopping (wheels : List Member)
  | arming
  deriving DecidableEq

namespace Stage

open DynamixelComms

/-- The code of an iteration once the mutex is held, with some wheels still to
stop. -/
def stops : List Member → CommsM R Unit
  | [] => do
      DynamixelComms.unlock
      storeSwitch true
  | wheel :: wheels => do
      let _ ← on wheel (.setRPM 0)
      stops wheels

/-- The wheels in the order in which an iteration stops them. -/
def order : List Member :=
  [.motorFrontLeft, .motorRearLeft, .motorFrontRight, .motorRearRight]

/-- The code that the thread still has to run in this iteration. -/
def code : Stage → CommsM R Unit
  | .asleep => pure ()
  | .checkEnabled => deadmansSwitchIteration
  | .checkSwitch => do
      let switch ← loadSwitch
      if switch then
        DynamixelComms.lock
        stops order
      else
        storeSwitch true
  | .lock => do
      DynamixelComms.lock
      stops order
  | .stopping wheels => stops wheels
  | .arming => storeSwitch true

/-- One step of the deadman's switch thread. -/
def advance (bus : Bus R) (comms : DynamixelComms) :
    Stage → Option (Stage × DynamixelComms)
  | .asleep => none
  | .checkEnabled =>
      some (if comms.deadmansSwitchEnabled then .checkSwitch else .asleep,
        comms)
  | .checkSwitch =>
      some (if comms.deadmansSwitch then .lock else .arming, comms)
  | .lock =>
      if comms.commsMutex = none then
        some (.stopping order,
          { comms with commsMutex := some .deadmansSwitch })
      else none
  | .stopping [] => some (.arming, { comms with commsMutex := none })
  | .stopping (wheel :: wheels) =>
      some (.stopping wheels, comms.called bus wheel (.setRPM 0))
  | .arming => some (.asleep, { comms with deadmansSwitch := true })

/-- The thread leaves the enabling to the commands. -/
theorem advance_enabled
    (bus : Bus R)
    {comms : DynamixelComms}
    {stage : Stage}
    {outcome : Stage × DynamixelComms}
    (advances : stage.advance bus comms = some outcome) :
    outcome.2.deadmansSwitchEnabled = comms.deadmansSwitchEnabled := by
  match stage, advances with
  | .checkEnabled, advances => exact (Option.some.inj advances) ▸ rfl
  | .checkSwitch, advances => exact (Option.some.inj advances) ▸ rfl
  | .lock, advances =>
      simp only [Stage.advance] at advances
      split at advances
      next => exact (Option.some.inj advances) ▸ rfl
      next => contradiction
  | .stopping [], advances => exact (Option.some.inj advances) ▸ rfl
  | .stopping (_ :: _), advances => exact (Option.some.inj advances) ▸ rfl
  | .arming, advances => exact (Option.some.inj advances) ▸ rfl

/-- The thread's code takes it from stage to stage. -/
theorem step_code
    (bus : Bus R)
    {pool : Pool Thread (CommsAction R) CommsAction.Reply DynamixelComms}
    {stage : Stage}
    (placed : pool.code .deadmansSwitch = stage.code) :
    pool.step (execute bus) .deadmansSwitch =
      (stage.advance bus pool.shared).map fun outcome =>
        { shared := outcome.2
          code :=
            Function.update pool.code .deadmansSwitch outcome.1.code } := by
  let resumed := pool.setCode .deadmansSwitch
  unfold Pool.step
  rw [placed]
  match stage with
  | .asleep => rfl
  | .checkEnabled =>
      change some (resumed (if pool.shared.deadmansSwitchEnabled then
        Stage.checkSwitch.code else pure ())) = some (resumed
          (if pool.shared.deadmansSwitchEnabled then Stage.checkSwitch
            else .asleep).code)
      split <;> rfl
  | .checkSwitch =>
      change some (resumed (if pool.shared.deadmansSwitch then
        Stage.lock.code else storeSwitch true)) = some (resumed
          (if pool.shared.deadmansSwitch then Stage.lock else .arming).code)
      split <;> rfl
  | .lock =>
      change Option.map _ (if pool.shared.commsMutex = none then _ else _) = _
      unfold advance
      split <;> rfl
  | .stopping [] => rfl
  | .stopping (wheel :: wheels) => rfl
  | .arming => rfl

theorem done_code (stage : Stage) :
    (stage.code : CommsM R Unit).done = decide (stage = .asleep) := by
  match stage with
  | .asleep => rfl
  | .checkEnabled => rfl
  | .checkSwitch => rfl
  | .lock => rfl
  | .stopping [] => rfl
  | .stopping (wheel :: wheels) => rfl
  | .arming => rfl

end Stage

namespace System

open DynamixelComms

/-- The deadman's switch thread is at a stage. -/
def At (stage : Stage) (system : System R) : Prop :=
  system.pool.code .deadmansSwitch = stage.code

/-- The state after the deadman's switch thread has come to a stage. -/
def advanced (system : System R) (outcome : Stage × DynamixelComms) :
    System R :=
  { pool :=
      { shared := outcome.2
        code :=
          Function.update system.pool.code .deadmansSwitch outcome.1.code }
    iterations :=
      if outcome.1 = .asleep then system.iterations + 1 else system.iterations
    returned := if outcome.1 = .asleep then false else system.returned }

@[simp] theorem advanced_comms
    (system : System R)
    (outcome : Stage × DynamixelComms) :
    (system.advanced outcome).comms = outcome.2 := rfl

theorem advanced_at
    (system : System R)
    (outcome : Stage × DynamixelComms) :
    (system.advanced outcome).At outcome.1 := by
  simp [At, advanced]

theorem advanced_code_caller
    (system : System R)
    (outcome : Stage × DynamixelComms)
    (caller : Nat) :
    (system.advanced outcome).pool.code (.caller caller) =
      system.pool.code (.caller caller) := by
  simp [advanced]

/-- The thread lets no command return. -/
theorem advanced_returned
    (system : System R)
    (outcome : Stage × DynamixelComms)
    (returned : (system.advanced outcome).returned = true) :
    system.returned = true := by
  unfold advanced at returned
  dsimp only at returned
  split at returned
  · contradiction
  · exact returned

/-- The deadman's switch thread goes from stage to stage. -/
theorem next_deadmansSwitch
    (bus : Bus R)
    {system : System R}
    {stage : Stage}
    (placed : system.At stage) :
    system.next bus (.step .deadmansSwitch) =
      (stage.advance bus system.comms).map system.advanced := by
  simp only [next, Stage.step_code bus placed, Option.map_map]
  apply Option.map_congr
  intro outcome _
  simp only [Function.comp_apply, record, Pool.Idle, Function.update_self,
    Stage.done_code, decide_eq_true_eq, advanced]
  split_ifs <;> rfl

/-- The thread wakes up when its last iteration has ended. -/
theorem next_wake
    (bus : Bus R)
    {system final : System R}
    {stage : Stage}
    (placed : system.At stage)
    (woke : system.next bus .wake = some final) :
    stage = .asleep ∧ final.At .checkEnabled ∧
      final.comms = system.comms ∧ final.iterations = system.iterations ∧
      final.returned = system.returned ∧
      ∀ caller, final.pool.code (.caller caller) =
        system.pool.code (.caller caller) := by
  by_cases idle : system.pool.Idle .deadmansSwitch
  · rw [next, if_pos idle] at woke
    obtain rfl := Option.some.inj woke
    have asleep : stage = .asleep := by
      rw [Pool.Idle, placed, Stage.done_code, decide_eq_true_eq] at idle
      exact idle
    refine ⟨asleep, Pool.setCode_code_self .., rfl, rfl, rfl, fun caller => ?_⟩
    exact Pool.setCode_code_of_ne _ _ (by simp)
  · rw [next, if_neg idle] at woke
    contradiction

/-- A caller that is not in a command begins one. -/
theorem next_begin_eq_some
    (bus : Bus R)
    {system final : System R}
    {caller : Nat}
    {command : Command R} :
    system.next bus (.begin caller command) = some final ↔
      system.pool.Idle (.caller caller) ∧
        final =
          { system with
            pool :=
              system.pool.setCode (.caller caller)
                (command.code bus.cast) } := by
  by_cases idle : system.pool.Idle (.caller caller)
  · rw [next, if_pos idle, Option.some.injEq]
    exact ⟨fun same => ⟨idle, same.symm⟩, fun begun => begun.2.symm⟩
  · rw [next, if_neg idle]
    exact iff_of_false (by simp) fun begun => idle begun.1

/-- A caller's step performs the next action of its code. -/
theorem next_caller_eq_some
    (bus : Bus R)
    {system final : System R}
    {caller : Nat} :
    system.next bus (.step (.caller caller)) = some final ↔
      ∃ action rest reply comms,
        system.pool.code (.caller caller) = .act action rest ∧
        execute bus (.caller caller) action system.comms =
          some (reply, comms) ∧
        final =
          { pool :=
              { shared := comms
                code :=
                  Function.update system.pool.code (.caller caller)
                    (rest reply) }
            iterations := system.iterations
            returned := (rest reply).done || system.returned } := by
  simp only [next, Option.map_eq_some_iff, Pool.step_eq_some]
  constructor
  · rintro ⟨_, ⟨action, rest, reply, comms, head, performed, rfl⟩, rfl⟩
    refine ⟨action, rest, reply, comms, head, performed, ?_⟩
    simp only [record, Pool.Idle, Function.update_self]
    cases (rest reply).done <;> rfl
  · rintro ⟨action, rest, reply, comms, head, performed, rfl⟩
    refine ⟨_, ⟨action, rest, reply, comms, head, performed, rfl⟩, ?_⟩
    simp only [record, Pool.Idle, Function.update_self]
    cases (rest reply).done <;> rfl

/-! ## Turns are interleavings -/

/-- Steps of the pool are steps of the system. -/
theorem run_steps
    (bus : Bus R)
    (system : System R)
    {threads : List Thread}
    {pool : Pool Thread (CommsAction R) CommsAction.Reply DynamixelComms}
    (stepped : system.pool.steps (execute bus) threads = some pool) :
    ∃ final,
      (interleavings bus).run system (threads.map .step) = some final ∧
        final.pool = pool := by
  induction threads generalizing system with
  | nil => exact ⟨system, rfl, Option.some.inj stepped⟩
  | cons thread threads inductionHypothesis =>
      rw [Pool.steps, List.foldlM_cons, Option.bind_eq_bind,
        Option.bind_eq_some_iff] at stepped
      obtain ⟨middle, first, rest⟩ := stepped
      have kept : (record thread { system with pool := middle }).pool =
          middle := by
        unfold record
        split_ifs
        · cases thread <;> rfl
        · rfl
      obtain ⟨final, reached, same⟩ :=
        inductionHypothesis _ (kept.symm ▸ rest)
      refine ⟨final, ?_, same⟩
      apply (interleavings bus).run_cons_eq_some.mpr
      exact ⟨_, by simp [interleavings, next, first], reached⟩

/-- Code that runs from beginning to end while all other threads are idle. -/
theorem interleaved_code
    (bus : Bus R)
    {system : System R}
    (idle : ∀ thread, system.pool.Idle thread)
    (start : Event R)
    {thread : Thread}
    {code : CommsM R Unit}
    (starts : system.next bus start =
      some { system with pool := system.pool.setCode thread code })
    {comms : DynamixelComms}
    (ran : code.run (execute bus thread) system.comms = some ((), comms)) :
    ∃ events final, (interleavings bus).run system events = some final ∧
      final.comms = comms ∧ ∀ thread, final.pool.Idle thread := by
  obtain ⟨count, stepped⟩ :=
    Pool.steps_of_run (execute bus) (system.pool.setCode_code_self thread code)
      ran
  obtain ⟨final, reached, same⟩ := run_steps bus
    { system with pool := system.pool.setCode thread code } stepped
  refine ⟨start :: (List.replicate count thread).map .step, final, ?_, ?_, ?_⟩
  · exact (interleavings bus).run_cons_eq_some.mpr ⟨_, starts, reached⟩
  · rw [System.comms, same]
  · intro other
    rw [same]
    by_cases here : other = thread
    · simp [Pool.Idle, Pool.setCode, here, Program.done]
    · simpa [Pool.Idle, Pool.setCode, here] using idle other

/-- Every run of whole commands and whole iterations is one of the
interleavings. -/
theorem turns_interleaved
    (bus : Bus R)
    {system : System R}
    (idle : ∀ thread, system.pool.Idle thread)
    {turns : List (Turn R)}
    {comms : DynamixelComms}
    (reached :
      (DynamixelComms.turns bus).run system.comms turns = some comms) :
    ∃ events final, (interleavings bus).run system events = some final ∧
      final.comms = comms ∧ ∀ thread, final.pool.Idle thread := by
  induction turns generalizing system with
  | nil => exact ⟨[], system, rfl, Option.some.inj reached, idle⟩
  | cons turn turns inductionHypothesis =>
      obtain ⟨middle, taken, rest⟩ :=
        (DynamixelComms.turns bus).run_cons_eq_some.mp reached
      have first : ∃ events final,
          (interleavings bus).run system events = some final ∧
            final.comms = middle ∧ ∀ thread, final.pool.Idle thread := by
        cases turn with
        | command issued =>
            obtain ⟨⟨⟨⟩, _⟩, ran, rfl⟩ := Option.map_eq_some_iff.mp taken
            exact interleaved_code bus idle (.begin 0 issued)
              (if_pos (idle (.caller 0))) ran
        | iteration =>
            obtain ⟨⟨⟨⟩, _⟩, ran, rfl⟩ := Option.map_eq_some_iff.mp taken
            exact interleaved_code bus idle .wake
              (if_pos (idle .deadmansSwitch)) ran
      obtain ⟨events, between, ran, rfl, settled⟩ := first
      obtain ⟨later, final, finished, same, still⟩ :=
        inductionHypothesis settled rest
      refine ⟨events ++ later, final, ?_, same, still⟩
      exact (interleavings bus).run_append_eq_some.mpr ⟨_, ran, finished⟩

end System
end Skatebot
