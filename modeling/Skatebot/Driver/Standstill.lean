import Skatebot.Driver.SpeedResponse
import Skatebot.Driver.Watchdog

/-!
# The deadman's switch brings the wheels to a standstill

One iteration of an enabled deadman's switch arms the flag and the next one
stops the wheels, whatever the commands did before and wherever they stand.
The proof follows the thread from stage to stage while no command takes a
step that changes a servo or a flag.
-/

namespace Skatebot

open Library DynamixelComms

variable {R : Type} [Field R] [LinearOrder R] [FloorRing R]

/-! ## Steps that leave the wheels alone -/

/-- The call writes nothing to the servo. -/
def ServoCall.quiet : ServoCall R → Bool
  | .configureControlMode _ => false
  | .getId => true
  | .getPresentPosition => true
  | .getTotalEncoderCount => true
  | .setPosition _ => false
  | .setRelativePosition _ => false
  | .setRPM _ => false

/-- The action neither writes to a servo nor stores a flag. -/
def CommsAction.quiet : CommsAction R → Bool
  | .lock => true
  | .unlock => true
  | .call _ method => method.quiet
  | .addParam _ => true
  | .txPacket => false
  | .clearParam => true
  | .loadSwitch => true
  | .loadEnabled => true
  | .storeSwitch _ => false
  | .storeEnabled _ => false

namespace DynamixelServo

/-- The wheel stands still: velocity mode with goal velocity 0. -/
def Stopped (servo : DynamixelServo) : Prop :=
  servo.device.byte addrOperatingMode = operatingModeVelocity ∧
    servo.device.word addrGoalVelocity = 0

instance (servo : DynamixelServo) : Decidable servo.Stopped :=
  inferInstanceAs (Decidable (_ ∧ _))

variable (world : World R)

/-- A call that writes nothing changes no register. -/
theorem Stopped.effect_quiet
    {servo : DynamixelServo}
    (stopped : servo.Stopped)
    {method : ServoCall R}
    (quiet : method.quiet = true) :
    (method.effect world servo).Stopped := by
  obtain ⟨mode, velocity⟩ := stopped
  cases method with
  | configureControlMode => contradiction
  | getId => exact ⟨mode, velocity⟩
  | getPresentPosition =>
      rw [effect_getPresentPosition]
      exact ⟨by simpa using mode, by simpa using velocity⟩
  | getTotalEncoderCount =>
      rw [effect_getTotalEncoderCount]
      exact ⟨by simpa using mode, by simpa using velocity⟩
  | setPosition => contradiction
  | setRelativePosition => contradiction
  | setRPM => contradiction

section

variable [IsStrictOrderedRing R]

/-- No speed is no velocity, on either side. -/
theorem goalVelocity_zero (servo : DynamixelServo) :
    servo.goalVelocity world (0 : R) = 0 := by
  rw [goalVelocity_eq, response_eq_zero_iff, abs_zero]
  exact zero_lt_one

/-- `SetRPM(0.0)` stops a wheel in whatever mode it is. -/
theorem stopped_setRPM_zero
    (succeed : world.AllSucceed)
    (servo : DynamixelServo) :
    ((ServoCall.setRPM (0 : R)).effect world servo).Stopped := by
  rw [effect_setRPM, goalVelocity_zero]
  constructor
  · rw [exchange_device, Device.serve_write4_byte]
    exact servo.configured_operatingMode world succeed (by simp [wheelModes])
  · rw [exchange_device, Device.serve_write4_word, if_pos (succeed _ _)]
    exact Function.update_self ..

end

end DynamixelServo

omit [Field R] [LinearOrder R] [FloorRing R] in
theorem storesFlag_of_quiet
    {action : CommsAction R}
    (quiet : action.quiet = true) :
    action.storesFlag = false := by
  cases action with
  | storeSwitch => contradiction
  | storeEnabled => contradiction
  | _ => rfl

/-- A quiet action of any thread leaves a standing wheel alone. -/
theorem execute_quiet
    (bus : Bus R)
    {thread : Thread}
    {action : CommsAction R}
    (quiet : action.quiet = true)
    {comms next : DynamixelComms}
    {reply : action.Reply}
    (performed : execute bus thread action comms = some (reply, next))
    (member : Member)
    (stopped : (comms.servo member).Stopped) :
    (next.servo member).Stopped := by
  cases action with
  | call called method =>
      obtain ⟨-, rfl⟩ := Prod.mk.inj (Option.some.inj performed)
      by_cases same : member = called
      · subst same
        simp only [Function.update_self]
        exact stopped.effect_quiet _ quiet
      · simpa only [Function.update_of_ne same] using stopped
  | lock =>
      simp only [execute] at performed
      split at performed
      next =>
        obtain ⟨-, rfl⟩ := Prod.mk.inj (Option.some.inj performed)
        exact stopped
      next => contradiction
  | addParam param =>
      simp only [execute] at performed
      split at performed
      all_goals
        obtain ⟨-, rfl⟩ := Prod.mk.inj (Option.some.inj performed)
        exact stopped
  | txPacket => contradiction
  | storeSwitch => contradiction
  | storeEnabled => contradiction
  | _ =>
      obtain ⟨-, rfl⟩ := Prod.mk.inj (Option.some.inj performed)
      exact stopped

/-- No caller takes a step of its command that writes to a servo or stores a
flag. -/
def System.Quiet (system : System R) : Event R → Prop
  | .step (.caller caller) =>
      ∀ action ∈ (system.pool.code (.caller caller)).head,
        action.quiet = true
  | .step .deadmansSwitch => True
  | .wake => True
  | .begin _ _ => True

/-! ## Two iterations -/

namespace DynamixelComms

/-- All wheels stand still. -/
def Stopped (comms : DynamixelComms) : Prop :=
  ∀ wheel ∈ wheels, (comms.servo wheel).Stopped

instance (comms : DynamixelComms) : Decidable comms.Stopped :=
  inferInstanceAs (Decidable (∀ wheel ∈ wheels, _))

/-- What the stopping iteration has achieved at a stage. -/
def StoppedAt (comms : DynamixelComms) : Stage → Prop
  | .stopping remaining =>
      ∀ wheel ∈ wheels, wheel ∉ remaining → (comms.servo wheel).Stopped
  | .arming => comms.Stopped
  | _ => True

theorem StoppedAt.mono
    {comms next : DynamixelComms}
    (stands : ∀ member, (comms.servo member).Stopped →
      (next.servo member).Stopped)
    {stage : Stage}
    (stopped : comms.StoppedAt stage) :
    next.StoppedAt stage := by
  match stage, stopped with
  | .asleep, _ => trivial
  | .checkEnabled, _ => trivial
  | .checkSwitch, _ => trivial
  | .lock, _ => trivial
  | .stopping remaining, stopped =>
      intro wheel isWheel others
      exact stands wheel (stopped wheel isWheel others)
  | .arming, stopped =>
      intro wheel isWheel
      exact stands wheel (stopped wheel isWheel)

/-- A stop adds its wheel to those that stand, and moves no other. -/
theorem called_setRPM_zero
    [IsStrictOrderedRing R]
    {bus : Bus R}
    (succeed : bus.AllSucceed)
    {comms : DynamixelComms}
    {wheel other : Member}
    (stands : other ≠ wheel → (comms.servo other).Stopped) :
    ((comms.called bus wheel (.setRPM 0)).servo other).Stopped := by
  unfold called
  by_cases same : other = wheel
  · subst same
    simp only [Function.update_self]
    exact DynamixelServo.stopped_setRPM_zero _ (succeed other) _
  · simp only [Function.update_of_ne same]
    exact stands same

end DynamixelComms

namespace System

/-- How far two iterations have come, counted from the number of iterations
that had ended before them. -/
def Settling (start : Nat) (stage : Stage) (system : System R) : Prop :=
  (system.iterations = start ∧ stage ≠ .asleep) ∨
  (system.iterations = start + 1 ∧ system.comms.deadmansSwitch = true ∧
    system.comms.StoppedAt stage) ∨
  (start + 2 ≤ system.iterations ∧ system.comms.Stopped)

/-- The deadman's switch is enabled, and its thread is on its way through two
iterations or past them. -/
def Supervised (start : Nat) (system : System R) : Prop :=
  system.comms.deadmansSwitchEnabled = true ∧
    ∃ stage, system.At stage ∧ system.Settling start stage

/-- A step on the way through the two iterations that ends none of them. -/
theorem Settling.move
    {start : Nat}
    {stage next : Stage}
    {system final : System R}
    (settling : system.Settling start stage)
    (awake : stage ≠ .asleep → next ≠ .asleep)
    (iterations : final.iterations = system.iterations)
    (switch : final.comms.deadmansSwitch = system.comms.deadmansSwitch)
    (stopping : system.comms.deadmansSwitch = true →
      system.comms.StoppedAt stage → final.comms.StoppedAt next)
    (stands : system.comms.Stopped → final.comms.Stopped) :
    final.Settling start next := by
  unfold Settling
  rw [iterations, switch]
  refine settling.imp ?_ (Or.imp ?_ ?_)
  · exact And.imp_right awake
  · rintro ⟨same, armed, stopped⟩
    exact ⟨same, armed, stopping armed stopped⟩
  · exact And.imp_right stands

/-- A stage of the two iterations leads to the next. -/
theorem Settling.advanced
    [IsStrictOrderedRing R]
    {bus : Bus R}
    (succeed : bus.AllSucceed)
    {start : Nat}
    {stage : Stage}
    {system : System R}
    (enabled : system.comms.deadmansSwitchEnabled = true)
    (settling : system.Settling start stage)
    {outcome : Stage × DynamixelComms}
    (advances : stage.advance bus system.comms = some outcome) :
    (system.advanced outcome).Settling start outcome.1 := by
  match stage, advances with
  | .checkEnabled, advances =>
      simp only [Stage.advance, enabled, if_true] at advances
      obtain rfl := Option.some.inj advances
      exact settling.move (by simp) rfl rfl (fun _ _ => trivial) id
  | .checkSwitch, advances =>
      obtain rfl := Option.some.inj advances
      by_cases switch : system.comms.deadmansSwitch = true
      · rw [if_pos switch]
        exact settling.move (by simp) rfl rfl (fun _ _ => trivial) id
      · rw [if_neg switch]
        exact settling.move (by simp) rfl rfl
          (fun armed => absurd armed switch) id
  | .lock, advances =>
      simp only [Stage.advance] at advances
      split at advances
      next =>
        obtain rfl := Option.some.inj advances
        refine settling.move (by simp) rfl rfl ?_ id
        intro _ _ wheel isWheel others
        cases wheel <;> simp [Stage.order, wheels] at isWheel others
      next => contradiction
  | .stopping [], advances =>
      obtain rfl := Option.some.inj advances
      refine settling.move (by simp) rfl rfl ?_ id
      intro _ stopped wheel isWheel
      exact stopped wheel isWheel (List.not_mem_nil)
  | .stopping (wheel :: remaining), advances =>
      obtain rfl := Option.some.inj advances
      refine settling.move (by simp) rfl rfl ?_ ?_
      · intro _ stopped other isWheel notRemaining
        apply called_setRPM_zero succeed
        intro different
        apply stopped other isWheel
        simp [different, notRemaining]
      · intro stopped other isWheel
        apply called_setRPM_zero succeed
        intro _
        exact stopped other isWheel
  | .arming, advances =>
      obtain rfl := Option.some.inj advances
      right
      rcases settling with ⟨same, -⟩ | ⟨same, switch, stopped⟩ |
        ⟨later, stopped⟩
      · left
        exact ⟨congrArg (· + 1) same, rfl, trivial⟩
      · right
        exact ⟨by simp [System.advanced, same], stopped⟩
      · right
        exact ⟨by simp [System.advanced]; omega, stopped⟩

/-- A step that leaves the wheels alone does not hold up the two iterations. -/
theorem Supervised.next
    [IsStrictOrderedRing R]
    {bus : Bus R}
    (succeed : bus.AllSucceed)
    {start : Nat}
    {system final : System R}
    {event : Event R}
    (supervised : system.Supervised start)
    (quiet : system.Quiet event)
    (stepped : system.next bus event = some final) :
    final.Supervised start := by
  obtain ⟨enabled, stage, placed, settling⟩ := supervised
  cases event with
  | wake =>
      obtain ⟨rfl, woken, same, iterations, -, -⟩ :=
        next_wake bus placed stepped
      refine ⟨same ▸ enabled, .checkEnabled, woken, ?_⟩
      unfold Settling at settling ⊢
      rw [same, iterations]
      refine settling.imp ?_ id
      rintro ⟨-, awake⟩
      exact absurd rfl awake
  | begin caller command =>
      obtain ⟨-, rfl⟩ := (next_begin_eq_some bus).mp stepped
      refine ⟨enabled, stage, ?_, settling⟩
      exact (Pool.setCode_code_of_ne _ _ (by simp)).trans placed
  | step thread =>
      cases thread with
      | deadmansSwitch =>
          change system.next bus _ = some final at stepped
          rw [next_deadmansSwitch bus placed, Option.map_eq_some_iff] at stepped
          obtain ⟨outcome, advances, rfl⟩ := stepped
          have still := Stage.advance_enabled bus advances
          exact ⟨still.trans enabled, outcome.1, system.advanced_at outcome,
            settling.advanced succeed enabled advances⟩
      | caller caller =>
          obtain ⟨action, rest, reply, comms, head, performed, rfl⟩ :=
            (next_caller_eq_some bus).mp stepped
          have silent : action.quiet = true := by
            apply quiet
            rw [head]
            rfl
          obtain ⟨switch, flag⟩ :=
            execute_flags bus (storesFlag_of_quiet silent) performed
          have stands := execute_quiet bus silent performed
          refine ⟨flag.trans enabled, stage, ?_,
            settling.move id rfl switch ?_ ?_⟩
          · simpa [At] using placed
          · exact fun _ stopped => stopped.mono stands
          · exact fun stopped wheel isWheel =>
              stands wheel (stopped wheel isWheel)

/-- An enabled deadman's switch whose thread is about to check it has stopped
all wheels when that iteration and the next have ended, and the wheels stay so:
provided that every packet succeeds and that no command takes a step meanwhile
that writes to a servo or stores a flag.  Nothing else is asked of the state,
neither of the wheels and the flag nor of the commands in progress. -/
theorem stopped_after_two_iterations
    [IsStrictOrderedRing R]
    {bus : Bus R}
    (succeed : bus.AllSucceed)
    {system final : System R}
    (checking : system.pool.code .deadmansSwitch = deadmansSwitchIteration)
    (enabled : system.comms.deadmansSwitchEnabled = true)
    {events : List (Event R)}
    (quiet : (interleavings bus).Along Quiet system events)
    (reached : (interleavings bus).run system events = some final)
    (ended : system.iterations + 2 ≤ final.iterations) :
    final.comms.Stopped := by
  have start : system.Supervised system.iterations :=
    ⟨enabled, .checkEnabled, checking, Or.inl ⟨rfl, by simp⟩⟩
  obtain ⟨-, stage, -, settled⟩ :=
    (interleavings bus).invariant_of_along (Supervised system.iterations)
      (Supervised.next succeed) start quiet reached
  rcases settled with ⟨same, -⟩ | ⟨same, -⟩ | ⟨-, stopped⟩
  · omega
  · omega
  · exact stopped

/-! ## A standstill -/

/-- The left wheels turn, and the deadman's switch thread is about to check. -/
def cruising : System ℚ where
  pool :=
    { shared := started.taken calmBus (.command (.setRPM .motorLeft 20))
      code :=
        Function.update (fun _ => pure ()) .deadmansSwitch
          deadmansSwitchIteration }
  iterations := 7
  returned := false

/-- Two iterations, the second with its four stops, while a caller begins a
command. -/
def twoIterations : List (Event ℚ) :=
  List.replicate 3 (.step .deadmansSwitch) ++
    .wake :: .begin 0 (.setRPM .motorRight 20) ::
      List.replicate 9 (.step .deadmansSwitch)

/-- The state after the two iterations. -/
def halted : System ℚ :=
  ((interleavings calmBus).run cruising twoIterations).getD cruising

theorem quiet_twoIterations :
    ∀ event ∈ twoIterations, ∀ system : System ℚ, system.Quiet event := by
  intro event occurs system
  simp only [twoIterations, List.mem_append, List.mem_cons,
    List.mem_replicate] at occurs
  rcases occurs with ⟨-, rfl⟩ | rfl | rfl | ⟨-, rfl⟩ <;> trivial

theorem stopped_after_two_iterations_cruising : halted.comms.Stopped :=
  stopped_after_two_iterations calmBus_allSucceed rfl rfl
    (Machine.along_of_forall _ quiet_twoIterations cruising) rfl
    (by decide +kernel)

end System
end Skatebot
