import Skatebot.Driver.Watchdog

/-!
# Races between the deadman's switch and the commands

The deadman's switch thread reads the two flags before it takes the mutex, and
the commands store them one after the other, some inside the mutex and some
outside.  This module asks which orders of steps let a stop go through that is
out of date.
-/

namespace Skatebot

open Library DynamixelComms

variable {R : Type} [Field R] [LinearOrder R] [FloorRing R]

instance (action : CommsAction R) : Inhabited action.Reply :=
  match action with
  | .lock => ⟨()⟩
  | .unlock => ⟨()⟩
  | .call _ method =>
      match method with
      | .configureControlMode _ => ⟨()⟩
      | .getId => ⟨(0 : BitVec 8)⟩
      | .getPresentPosition => ⟨(0 : Int)⟩
      | .getTotalEncoderCount => ⟨(0 : Int)⟩
      | .setPosition _ => ⟨()⟩
      | .setRelativePosition _ => ⟨()⟩
      | .setRPM _ => ⟨()⟩
  | .addParam _ => ⟨true⟩
  | .txPacket => ⟨()⟩
  | .clearParam => ⟨()⟩
  | .loadSwitch => ⟨true⟩
  | .loadEnabled => ⟨true⟩
  | .storeSwitch _ => ⟨()⟩
  | .storeEnabled _ => ⟨()⟩

/-! ## The flags in the code of a command -/

namespace DynamixelComms

/-- The code stores no flag any more. -/
def Finishing (code : CommsM R Unit) : Prop :=
  code.OnlyPerforms fun action => action.storesFlag = false

/-- The code resets the switch in its next step, and finishes. -/
inductive Resetting : CommsM R Unit → Prop
  | reset {next : Unit → CommsM R Unit} (finishes : Finishing (next ())) :
      Resetting (.act (.storeSwitch false) next)

/-- The code still has its flags before it: it enables the deadman's switch
and resets it, or it disables the deadman's switch. -/
inductive Preparing : CommsM R Unit → Prop
  | work {action : CommsAction R} {next : action.Reply → CommsM R Unit}
      (keeps : action.storesFlag = false)
      (later : ∀ reply, Preparing (next reply)) :
      Preparing (.act action next)
  | enable {next : Unit → CommsM R Unit} (resets : Resetting (next ())) :
      Preparing (.act (.storeEnabled true) next)
  | disable {next : Unit → CommsM R Unit} (finishes : Finishing (next ())) :
      Preparing (.act (.storeEnabled false) next)

theorem preparing_setRPM (motor : MotorInstance) (rpm : R) :
    Preparing (setRPM motor rpm) := by
  cases motor <;>
    exact .work rfl fun _ => .work rfl fun _ => .work rfl fun _ =>
      .work rfl fun _ => .enable (.reset trivial)

theorem preparing_setRelativePosition
    (motor : MotorInstance)
    (angleRadians : R) :
    Preparing (setRelativePosition motor angleRadians) := by
  cases motor <;>
    exact .disable ⟨rfl, fun _ => ⟨rfl, fun _ => ⟨rfl, fun _ =>
      ⟨rfl, fun _ => trivial⟩⟩⟩⟩

theorem preparing_setAllRPM
    (cast : FloatCast R)
    (frontLeftRPM frontRightRPM rearLeftRPM rearRightRPM : R) :
    Preparing
      (setAllRPM cast frontLeftRPM frontRightRPM rearLeftRPM rearRightRPM) := by
  repeat refine .work rfl fun _ => ?_
  exact .enable (.reset ⟨rfl, fun _ => trivial⟩)

theorem preparing_setAllRelativePosition
    (cast : FloatCast R)
    (frontLeftAngle frontRightAngle rearLeftAngle rearRightAngle : R) :
    Preparing
      (setAllRelativePosition cast frontLeftAngle frontRightAngle
        rearLeftAngle rearRightAngle) := by
  refine .disable ?_
  repeat refine ⟨rfl, fun _ => ?_⟩
  trivial

/-- Every command stores the flags in this order. -/
theorem preparing_code (cast : FloatCast R) (command : Command R) :
    Preparing (command.code cast) := by
  cases command with
  | setAllRPM => exact preparing_setAllRPM ..
  | setRPM => exact preparing_setRPM ..
  | setAllRelativePosition => exact preparing_setAllRelativePosition ..
  | setRelativePosition => exact preparing_setRelativePosition ..

theorem Preparing.not_finishing
    {code : CommsM R Unit}
    (preparing : Preparing code) :
    ¬Finishing code := by
  induction preparing with
  | work keeps later inductionHypothesis =>
      intro finishing
      exact inductionHypothesis default (finishing.2 default)
  | enable resets =>
      rintro ⟨keeps, -⟩
      contradiction
  | disable finishes =>
      rintro ⟨keeps, -⟩
      contradiction

theorem Resetting.not_finishing
    {code : CommsM R Unit}
    (resetting : Resetting code) :
    ¬Finishing code := by
  cases resetting with
  | reset finishes =>
      rintro ⟨keeps, -⟩
      contradiction

theorem Preparing.not_resetting
    {code : CommsM R Unit}
    (preparing : Preparing code) :
    ¬Resetting code := by
  intro resetting
  cases resetting with
  | reset finishes =>
      cases preparing with
      | work keeps later => contradiction

theorem Preparing.not_done
    {code : CommsM R Unit}
    (preparing : Preparing code) :
    code.done = false := by
  cases preparing <;> rfl

theorem Resetting.not_done
    {code : CommsM R Unit}
    (resetting : Resetting code) :
    code.done = false := by
  cases resetting
  rfl

theorem Resetting.head
    {code : CommsM R Unit}
    (resetting : Resetting code) :
    code.head = some (.storeSwitch false) := by
  cases resetting
  rfl

/-- The code stores the flags in the order of the commands. -/
def Orderly (code : CommsM R Unit) : Prop :=
  Preparing code ∨ Resetting code ∨ Finishing code

end DynamixelComms

namespace System

/-! ## What the thread has decided -/

/-- The deadman's switch thread has decided to stop the wheels, and has stops
before it. -/
def Decided (system : System R) : Prop :=
  match (system.pool.code .deadmansSwitch).head with
  | some .lock => True
  | some (.call _ _) => True
  | _ => False

/-- The deadman's switch thread is about to stop a wheel. -/
def Stopping (system : System R) : Prop :=
  match (system.pool.code .deadmansSwitch).head with
  | some (.call _ _) => True
  | _ => False

/-- A stop goes to a wheel only while the deadman's switch is enabled and no
command has returned since the last iteration. -/
def Justified (system : System R) : Event R → Prop
  | .step .deadmansSwitch =>
      system.Stopping →
        system.comms.deadmansSwitchEnabled = true ∧ system.returned = false
  | .step (.caller _) => True
  | .wake => True
  | .begin _ _ => True

/-- A caller has enabled the deadman's switch and not reset it yet. -/
def Halfway (system : System R) (caller : Nat) : Prop :=
  (system.pool.code (.caller caller)).head = some (.storeSwitch false)

/-- A caller's command has stored its flags and not returned yet. -/
def Leaving (system : System R) (caller : Nat) : Prop :=
  Finishing (system.pool.code (.caller caller)) ∧
    ¬system.pool.Idle (.caller caller)

/-- The step keeps out of the races.  The thread does not find the switch set
after a command has disabled the deadman's switch, nor, when one has returned,
while another is half way; it does not set the enabled switch while a command
is leaving; and no command returns or disables the deadman's switch once the
thread has decided. -/
def Undisturbed (system : System R) : Event R → Prop
  | .step .deadmansSwitch =>
      match (system.pool.code .deadmansSwitch).head with
      | some .loadSwitch =>
          system.comms.deadmansSwitch = true →
            system.comms.deadmansSwitchEnabled = true ∧
              (system.returned = true → ∀ caller, ¬system.Halfway caller)
      | some (.storeSwitch _) =>
          system.comms.deadmansSwitchEnabled = true →
            ∀ caller, ¬system.Leaving caller
      | _ => True
  | .step (.caller caller) =>
      system.Decided →
        (system.pool.code (.caller caller)).head ≠
            some (.storeEnabled false) ∧
          ¬(system.pool.code (.caller caller)).Last
  | .wake => True
  | .begin _ _ => True

/-! ## The invariant -/

/-- An enabled switch that is set after a command has stored its flags is
about to be reset. -/
def Fresh (system : System R) : Prop :=
  system.comms.deadmansSwitch = true →
    system.comms.deadmansSwitchEnabled = true →
      (system.returned = true ∨ ∃ caller, system.Leaving caller) →
        ∃ caller, Resetting (system.pool.code (.caller caller))

/-- What the two flags, the thread and the commands have to do with each
other. -/
structure Coherent (system : System R) : Prop where
  placed : ∃ stage, system.At stage
  orderly : ∀ caller, Orderly (system.pool.code (.caller caller))
  fresh : system.Fresh
  decided : system.Decided →
    system.comms.deadmansSwitchEnabled = true ∧ system.returned = false

theorem Coherent.justified
    {system : System R}
    (coherent : system.Coherent)
    (event : Event R) :
    system.Justified event := by
  match event with
  | .step .deadmansSwitch =>
      intro stopping
      apply coherent.decided
      unfold Stopping at stopping
      unfold Decided
      split at stopping
      next head =>
        rw [head]
        trivial
      next => contradiction
  | .step (.caller _) => trivial
  | .wake => trivial
  | .begin _ _ => trivial

/-- The invariant holds while no thread runs. -/
theorem coherent_of_idle
    {system : System R}
    (idle : ∀ thread, system.pool.Idle thread)
    (quiescent : system.returned = false) :
    system.Coherent where
  placed := ⟨.asleep, Pool.idle_iff.mp (idle .deadmansSwitch)⟩
  orderly caller := by
    rw [Pool.idle_iff.mp (idle (.caller caller))]
    exact Or.inr (Or.inr trivial)
  fresh := by
    rintro - - (returned | ⟨caller, -, busy⟩)
    · rw [quiescent] at returned
      contradiction
    · exact absurd (idle (.caller caller)) busy
  decided decided := by
    rw [Decided, Pool.idle_iff.mp (idle .deadmansSwitch)] at decided
    contradiction

/-- The flags are as fresh as before where they are the same, and no command
has come nearer to its end. -/
theorem Fresh.mono
    {system next : System R}
    (fresh : system.Fresh)
    (switch : next.comms.deadmansSwitch = system.comms.deadmansSwitch)
    (enabled : next.comms.deadmansSwitchEnabled =
      system.comms.deadmansSwitchEnabled)
    (returned : next.returned = true → system.returned = true)
    (codes : ∀ caller, next.pool.code (.caller caller) =
      system.pool.code (.caller caller)) :
    next.Fresh := by
  intro set on stale
  rw [switch] at set
  rw [enabled] at on
  simp only [codes]
  apply fresh set on
  refine stale.imp returned ?_
  rintro ⟨caller, finishing, busy⟩
  refine ⟨caller, codes caller ▸ finishing, ?_⟩
  rwa [Pool.Idle, codes] at busy

/-! ## Steps of the thread -/

/-- Whether a stage is one of those that end with a stop. -/
theorem decided_iff
    {system : System R}
    {stage : Stage}
    (placed : system.At stage) :
    system.Decided ↔
      stage = .lock ∨
        ∃ wheel remaining, stage = .stopping (wheel :: remaining) := by
  unfold Decided
  rw [placed]
  match stage with
  | .asleep => exact iff_of_false id (by simp)
  | .checkEnabled => exact iff_of_false id (by simp)
  | .checkSwitch => exact iff_of_false id (by simp)
  | .lock => exact iff_of_true trivial (by simp)
  | .stopping [] => exact iff_of_false id (by simp)
  | .stopping (wheel :: remaining) => exact iff_of_true trivial (by simp)
  | .arming => exact iff_of_false id (by simp)

/-- A step of the thread keeps the invariant. -/
theorem Coherent.next_deadmansSwitch
    {bus : Bus R}
    {system final : System R}
    (coherent : system.Coherent)
    (undisturbed : system.Undisturbed (.step .deadmansSwitch))
    (stepped : system.next bus (.step .deadmansSwitch) = some final) :
    final.Coherent := by
  obtain ⟨stage, placed⟩ := coherent.placed
  rw [System.next_deadmansSwitch bus placed,
    Option.map_eq_some_iff] at stepped
  obtain ⟨outcome, advances, rfl⟩ := stepped
  have arrived := system.advanced_at outcome
  have codes := system.advanced_code_caller outcome
  have returned := system.advanced_returned outcome
  suffices flags : (system.advanced outcome).Fresh ∧
      ((system.advanced outcome).Decided →
        outcome.2.deadmansSwitchEnabled = true ∧
          (system.advanced outcome).returned = false) from
    ⟨⟨_, arrived⟩, fun caller => (codes caller).symm ▸ coherent.orderly caller,
      flags.1, flags.2⟩
  rw [decided_iff arrived]
  unfold Undisturbed at undisturbed
  rw [placed] at undisturbed
  have decided := coherent.decided
  rw [decided_iff placed] at decided
  match stage, advances with
  | .checkEnabled, advances =>
      obtain rfl := Option.some.inj advances
      refine ⟨coherent.fresh.mono rfl rfl returned codes, ?_⟩
      split <;> simp
  | .checkSwitch, advances =>
      obtain rfl := Option.some.inj advances
      refine ⟨coherent.fresh.mono rfl rfl returned codes, ?_⟩
      by_cases switch : system.comms.deadmansSwitch = true
      · obtain ⟨enabled, alone⟩ := undisturbed switch
        refine fun _ => ⟨enabled, ?_⟩
        rw [Bool.eq_false_iff]
        intro stale
        obtain ⟨caller, resetting⟩ :=
          coherent.fresh switch enabled (Or.inl (returned stale))
        exact alone (returned stale) caller resetting.head
      · simp [switch]
  | .lock, advances =>
      simp only [Stage.advance] at advances
      split at advances
      next =>
        obtain rfl := Option.some.inj advances
        refine ⟨coherent.fresh.mono rfl rfl returned codes, fun _ => ?_⟩
        exact decided (Or.inl rfl)
      next => contradiction
  | .stopping [], advances =>
      obtain rfl := Option.some.inj advances
      exact ⟨coherent.fresh.mono rfl rfl returned codes, by simp⟩
  | .stopping (wheel :: remaining), advances =>
      obtain rfl := Option.some.inj advances
      refine ⟨coherent.fresh.mono rfl rfl returned codes, fun _ => ?_⟩
      exact decided (Or.inr ⟨wheel, remaining, rfl⟩)
  | .arming, advances =>
      obtain rfl := Option.some.inj advances
      refine ⟨?_, by simp⟩
      rintro - enabled (stale | ⟨caller, finishing, busy⟩)
      · exact absurd stale (by simp [System.advanced])
      · refine absurd ?_ (undisturbed enabled caller)
        rw [codes] at finishing
        rw [Pool.Idle, codes] at busy
        exact ⟨finishing, busy⟩

/-! ## Steps of the callers -/

/-- The state after a caller's step. -/
def resumed (system : System R) (caller : Nat) (comms : DynamixelComms)
    (code : CommsM R Unit) : System R :=
  { pool :=
      { shared := comms
        code := Function.update system.pool.code (.caller caller) code }
    iterations := system.iterations
    returned := code.done || system.returned }

theorem resumed_code_self
    (system : System R)
    (caller : Nat)
    (comms : DynamixelComms)
    (code : CommsM R Unit) :
    (system.resumed caller comms code).pool.code (.caller caller) = code := by
  simp [resumed]

theorem resumed_code_of_ne
    (system : System R)
    {caller other : Nat}
    (comms : DynamixelComms)
    (code : CommsM R Unit)
    (different : other ≠ caller) :
    (system.resumed caller comms code).pool.code (.caller other) =
      system.pool.code (.caller other) := by
  simp [resumed, different]

/-- A step that stores no flag and leads to code that still has its flags
before it. -/
theorem Fresh.resumed_preparing
    {system : System R}
    (fresh : system.Fresh)
    {caller : Nat}
    {comms : DynamixelComms}
    {code : CommsM R Unit}
    (before : ¬Resetting (system.pool.code (.caller caller)))
    (after : Preparing code)
    (switch : comms.deadmansSwitch = system.comms.deadmansSwitch)
    (enabled : comms.deadmansSwitchEnabled =
      system.comms.deadmansSwitchEnabled) :
    (system.resumed caller comms code).Fresh := by
  intro set on stale
  have earlier : system.returned = true ∨ ∃ caller, system.Leaving caller := by
    refine stale.imp ?_ ?_
    · intro returned
      simpa [resumed, after.not_done] using returned
    · rintro ⟨other, finishing, busy⟩
      by_cases same : other = caller
      · subst same
        rw [resumed_code_self] at finishing
        exact absurd finishing after.not_finishing
      · rw [resumed_code_of_ne _ _ _ same] at finishing
        rw [Pool.Idle, resumed_code_of_ne _ _ _ same] at busy
        exact ⟨other, finishing, busy⟩
  obtain ⟨other, resetting⟩ :=
    fresh (switch.symm.trans set) (enabled.symm.trans on) earlier
  have different : other ≠ caller := by
    rintro rfl
    exact before resetting
  refine ⟨other, ?_⟩
  rw [resumed_code_of_ne _ _ _ different]
  exact resetting

/-- A step of a command that is leaving. -/
theorem Fresh.resumed_finishing
    {system : System R}
    (fresh : system.Fresh)
    {caller : Nat}
    {comms : DynamixelComms}
    {code : CommsM R Unit}
    (leaving : system.Leaving caller)
    (switch : comms.deadmansSwitch = system.comms.deadmansSwitch)
    (enabled : comms.deadmansSwitchEnabled =
      system.comms.deadmansSwitchEnabled) :
    (system.resumed caller comms code).Fresh := by
  intro set on _
  obtain ⟨other, resetting⟩ :=
    fresh (switch.symm.trans set) (enabled.symm.trans on)
      (Or.inr ⟨caller, leaving⟩)
  have different : other ≠ caller := by
    rintro rfl
    exact resetting.not_finishing leaving.1
  refine ⟨other, ?_⟩
  rw [resumed_code_of_ne _ _ _ different]
  exact resetting

/-- The code after a step is orderly, and the flags are fresh. -/
theorem Coherent.resumed
    {bus : Bus R}
    {system : System R}
    (coherent : system.Coherent)
    {caller : Nat}
    {action : CommsAction R}
    {rest : action.Reply → CommsM R Unit}
    {reply : action.Reply}
    {comms : DynamixelComms}
    (head : system.pool.code (.caller caller) = .act action rest)
    (performed : execute bus (.caller caller) action system.comms =
      some (reply, comms)) :
    Orderly (rest reply) ∧
      (system.resumed caller comms (rest reply)).Fresh := by
  have orderly := coherent.orderly caller
  rw [head] at orderly
  rcases orderly with preparing | resetting | finishing
  · have before : ¬Resetting (system.pool.code (.caller caller)) :=
      head ▸ preparing.not_resetting
    cases preparing with
    | work keeps later =>
        obtain ⟨switch, enabled⟩ := execute_flags bus keeps performed
        exact ⟨Or.inl (later reply), coherent.fresh.resumed_preparing before
          (later reply) switch enabled⟩
    | enable resets =>
        refine ⟨Or.inr (Or.inl resets), fun _ _ _ => ⟨caller, ?_⟩⟩
        rw [resumed_code_self]
        exact resets
    | disable finishes =>
        obtain ⟨-, rfl⟩ := Prod.mk.inj (Option.some.inj performed)
        exact ⟨Or.inr (Or.inr finishes),
          fun _ on => absurd on Bool.false_ne_true⟩
  · cases resetting with
    | reset finishes =>
        obtain ⟨-, rfl⟩ := Prod.mk.inj (Option.some.inj performed)
        exact ⟨Or.inr (Or.inr finishes),
          fun set => absurd set Bool.false_ne_true⟩
  · have leaving : system.Leaving caller := by
      refine ⟨head ▸ finishing, ?_⟩
      rw [Pool.Idle, head]
      exact Bool.noConfusion
    obtain ⟨switch, enabled⟩ := execute_flags bus finishing.1 performed
    exact ⟨Or.inr (Or.inr (finishing.2 reply)),
      coherent.fresh.resumed_finishing leaving switch enabled⟩

/-- A step that disables nothing leaves the deadman's switch enabled. -/
theorem execute_enabled
    (bus : Bus R)
    {thread : Thread}
    {action : CommsAction R}
    (keeps : action ≠ .storeEnabled false)
    {comms next : DynamixelComms}
    {reply : action.Reply}
    (performed : execute bus thread action comms = some (reply, next))
    (enabled : comms.deadmansSwitchEnabled = true) :
    next.deadmansSwitchEnabled = true := by
  cases action with
  | storeSwitch value =>
      obtain ⟨-, rfl⟩ := Prod.mk.inj (Option.some.inj performed)
      exact enabled
  | storeEnabled value =>
      obtain ⟨-, rfl⟩ := Prod.mk.inj (Option.some.inj performed)
      cases value with
      | true => rfl
      | false => contradiction
  | _ => exact (execute_flags bus rfl performed).2.trans enabled

/-- What a caller's next state needs to be coherent. -/
theorem Coherent.of_resumed
    {system : System R}
    (coherent : system.Coherent)
    {caller : Nat}
    {comms : DynamixelComms}
    {code : CommsM R Unit}
    (orderly : Orderly code)
    (fresh : (system.resumed caller comms code).Fresh)
    (decided : system.Decided →
      comms.deadmansSwitchEnabled = true ∧
        (system.resumed caller comms code).returned = false) :
    (system.resumed caller comms code).Coherent := by
  have kept : (system.resumed caller comms code).pool.code .deadmansSwitch =
      system.pool.code .deadmansSwitch := by
    simp [System.resumed]
  refine ⟨?_, ?_, fresh, ?_⟩
  · obtain ⟨stage, placed⟩ := coherent.placed
    exact ⟨stage, kept.trans placed⟩
  · intro other
    by_cases same : other = caller
    · rw [same, resumed_code_self]
      exact orderly
    · rw [resumed_code_of_ne _ _ _ same]
      exact coherent.orderly other
  · intro decides
    rw [Decided, kept] at decides
    exact decided decides

/-- A caller's step keeps the invariant. -/
theorem Coherent.next_caller
    {bus : Bus R}
    {system final : System R}
    {caller : Nat}
    (coherent : system.Coherent)
    (undisturbed : system.Undisturbed (.step (.caller caller)))
    (stepped : system.next bus (.step (.caller caller)) = some final) :
    final.Coherent := by
  obtain ⟨action, rest, reply, comms, head, performed, rfl⟩ :=
    (next_caller_eq_some bus).mp stepped
  obtain ⟨orderly, fresh⟩ := coherent.resumed head performed
  refine coherent.of_resumed orderly fresh fun decided => ?_
  obtain ⟨enables, stays⟩ := undisturbed decided
  obtain ⟨enabled, quiescent⟩ := coherent.decided decided
  rw [head] at enables stays
  constructor
  · apply execute_enabled bus _ performed enabled
    rintro rfl
    exact enables rfl
  · have busy : (rest reply).done = false := by
      rw [Bool.eq_false_iff]
      exact fun done => stays ⟨reply, done⟩
    simp [System.resumed, busy, quiescent]

/-- A caller's new command keeps the invariant. -/
theorem Coherent.next_begin
    {bus : Bus R}
    {system final : System R}
    {caller : Nat}
    {command : Command R}
    (coherent : system.Coherent)
    (stepped : system.next bus (.begin caller command) = some final) :
    final.Coherent := by
  obtain ⟨idle, rfl⟩ := (next_begin_eq_some bus).mp stepped
  have preparing := preparing_code bus.cast command
  have begun :
      ({ system with
          pool :=
            system.pool.setCode (.caller caller) (command.code bus.cast) } :
        System R) =
        system.resumed caller system.comms (command.code bus.cast) := by
    simp only [System.resumed, preparing.not_done, Bool.false_or]
    rfl
  rw [begun]
  have before : ¬Resetting (system.pool.code (.caller caller)) := by
    rw [Pool.idle_iff.mp idle]
    exact fun resetting => nomatch resetting
  refine coherent.of_resumed (Or.inl preparing)
    (coherent.fresh.resumed_preparing before preparing rfl rfl)
    fun decided => ?_
  obtain ⟨enabled, quiescent⟩ := coherent.decided decided
  exact ⟨enabled, by simp [System.resumed, preparing.not_done, quiescent]⟩

/-- The thread's waking up keeps the invariant. -/
theorem Coherent.next_wake
    {bus : Bus R}
    {system final : System R}
    (coherent : system.Coherent)
    (stepped : system.next bus .wake = some final) :
    final.Coherent := by
  obtain ⟨stage, placed⟩ := coherent.placed
  obtain ⟨rfl, woken, same, -, returned, codes⟩ :=
    System.next_wake bus placed stepped
  refine ⟨⟨_, woken⟩, fun caller => codes caller ▸ coherent.orderly caller,
    ?_, fun decided => ?_⟩
  · exact coherent.fresh.mono (by rw [same]) (by rw [same])
      (fun stale => returned ▸ stale) codes
  · rw [decided_iff woken] at decided
    simp at decided

/-! ## Runs -/

/-- After any steps of the object's threads that keep out of the races, from a
moment when no command is in progress: a stop goes to a wheel only while the
deadman's switch is enabled and no command has returned since the iteration
before. -/
theorem stops_justified
    (bus : Bus R)
    {system : System R}
    (idle : ∀ thread, system.pool.Idle thread)
    (quiescent : system.returned = false)
    {events : List (Event R)}
    (undisturbed : (interleavings bus).Along Undisturbed system events) :
    (interleavings bus).Along Justified system events := by
  refine (interleavings bus).along_of_invariant Coherent ?_ ?_
    (coherent_of_idle idle quiescent) undisturbed
  · intro system event final coherent undisturbed stepped
    change system.next bus event = some final at stepped
    match event with
    | .wake => exact coherent.next_wake stepped
    | .begin _ _ => exact coherent.next_begin stepped
    | .step .deadmansSwitch =>
        exact coherent.next_deadmansSwitch undisturbed stepped
    | .step (.caller _) => exact coherent.next_caller undisturbed stepped
  · intro system event coherent _
    exact coherent.justified event

/-! ## A failing run -/

/-- The object after `Init`, with no thread running. -/
def resting : System ℚ where
  pool :=
    { shared := started
      code := fun _ => pure () }
  iterations := 0
  returned := false

theorem resting_idle (thread : Thread) : resting.pool.Idle thread := rfl

/-- A speed command from beginning to end. -/
def commanded : List (Event ℚ) :=
  .begin 0 (.setRPM .motorLeft 20) :: List.replicate 6 (.step (.caller 0))

/-- A speed, an iteration that sets the switch, an iteration that decides to
stop, the same speed again, and the mutex. -/
def overtaken : List (Event ℚ) :=
  commanded ++ .wake :: List.replicate 3 (.step .deadmansSwitch) ++
    .wake :: List.replicate 2 (.step .deadmansSwitch) ++
      commanded ++ [.step .deadmansSwitch]

/-- A fresh speed is overwritten by a stop that was decided before it. -/
theorem stale_stop :
    ¬∀ (bus : Bus ℚ) (system : System ℚ) (events : List (Event ℚ)),
      bus.AllSucceed → system.comms.Initialised ℚ →
        (∀ thread, system.pool.Idle thread) → system.returned = false →
          (interleavings bus).Along Justified system events := by
  intro always
  have justified :=
    always calmBus resting (overtaken ++ [.step .deadmansSwitch])
      calmBus_allSucceed started_initialised resting_idle rfl
  let decided : System ℚ :=
    ((interleavings calmBus).run resting overtaken).getD resting
  have reached : (interleavings calmBus).run resting overtaken =
      some decided := rfl
  have stop := (((interleavings calmBus).along_append.mp justified).2 decided
    reached).1 trivial
  exact absurd stop.2 (by decide +kernel)

/-! ## An interleaving without races -/

/-- With the replies it gets by default, the code stores a flag later. -/
def storesLater : CommsM R Unit → Bool
  | .pure _ => false
  | .act action next => action.storesFlag || storesLater (next default)

theorem not_finishing_of_storesLater
    {code : CommsM R Unit}
    (stores : storesLater code = true) :
    ¬Finishing code := by
  induction code with
  | pure value => contradiction
  | act action next inductionHypothesis =>
      rintro ⟨keeps, finishing⟩
      rw [storesLater, keeps, Bool.false_or] at stores
      exact inductionHypothesis default stores (finishing default)

instance (system : System R) : Decidable system.Decided := by
  dsimp only [Decided]
  split <;> infer_instance

/-- The step resets the deadman's switch. -/
def resets : CommsAction R → Bool
  | .storeSwitch false => true
  | _ => false

/-- A test for steps out of the races while only one caller calls commands. -/
def Apart (caller : Nat) (system : System R) : Event R → Prop
  | .step .deadmansSwitch =>
      match (system.pool.code .deadmansSwitch).head with
      | some .loadSwitch =>
          system.comms.deadmansSwitch = true →
            system.comms.deadmansSwitchEnabled = true ∧
              (system.returned = true →
                (system.pool.code (.caller caller)).head.any resets = false)
      | some (.storeSwitch _) =>
          system.comms.deadmansSwitchEnabled = true →
            system.pool.Idle (.caller caller) ∨
              storesLater (system.pool.code (.caller caller)) = true
      | _ => True
  | .step (.caller other) => other = caller ∧ ¬system.Decided
  | .wake => True
  | .begin other _ => other = caller

instance decidableApart (caller : Nat) (system : System R) :
    (event : Event R) → Decidable (system.Apart caller event)
  | .step .deadmansSwitch => by
      dsimp only [Apart]
      split <;> infer_instance
  | .step (.caller other) =>
      inferInstanceAs (Decidable (other = caller ∧ ¬system.Decided))
  | .wake => isTrue trivial
  | .begin other _ => inferInstanceAs (Decidable (other = caller))

/-- The other callers call no command. -/
def Lone (system : System R) (caller : Nat) : Prop :=
  ∀ other, other ≠ caller → system.pool.Idle (.caller other)

theorem Lone.undisturbed
    {system : System R}
    {caller : Nat}
    (lone : system.Lone caller)
    {event : Event R}
    (apart : system.Apart caller event) :
    system.Undisturbed event := by
  match event with
  | .wake => trivial
  | .begin _ _ => trivial
  | .step (.caller _) => exact fun decided => absurd decided apart.2
  | .step .deadmansSwitch =>
      simp only [Apart] at apart
      simp only [Undisturbed]
      split
      next loads =>
        rw [loads] at apart
        intro set
        obtain ⟨enabled, keeps⟩ := apart set
        refine ⟨enabled, fun returned other halfway => ?_⟩
        by_cases same : other = caller
        · subst same
          have resets := keeps returned
          rw [halfway] at resets
          contradiction
        · rw [Halfway, Pool.idle_iff.mp (lone other same)] at halfway
          contradiction
      next stores =>
        rw [stores] at apart
        rintro enabled other ⟨finishing, busy⟩
        by_cases same : other = caller
        · subst same
          rcases apart enabled with idle | later
          · exact busy idle
          · exact not_finishing_of_storesLater later finishing
        · exact busy (lone other same)
      next => trivial

theorem Lone.next
    {bus : Bus R}
    {system final : System R}
    {caller : Nat}
    (lone : system.Lone caller)
    {event : Event R}
    (apart : system.Apart caller event)
    (stepped : system.next bus event = some final) :
    final.Lone caller := by
  intro other distinct
  have idle := lone other distinct
  match event with
  | .wake =>
      obtain ⟨-, same⟩ := Option.ite_none_right_eq_some.mp stepped
      obtain rfl := Option.some.inj same
      rwa [Pool.Idle, Pool.setCode_code_of_ne _ _ (by simp)]
  | .begin _ _ =>
      obtain ⟨-, same⟩ := Option.ite_none_right_eq_some.mp stepped
      obtain rfl := Option.some.inj same
      obtain rfl := apart
      rwa [Pool.Idle, Pool.setCode_code_of_ne _ _ (by simpa using distinct)]
  | .step thread =>
      have away : Thread.caller other ≠ thread := by
        rintro rfl
        exact distinct apart.1
      obtain ⟨pool, taken, rfl⟩ := Option.map_eq_some_iff.mp stepped
      obtain ⟨action, next, reply, comms, -, -, rfl⟩ :=
        (Pool.step_eq_some _).mp taken
      rw [record_pool, Pool.Idle]
      dsimp only
      rwa [Function.update_of_ne away]

/-- While one caller calls commands, steps that pass the test keep out of the
races. -/
theorem Lone.along_undisturbed
    (bus : Bus R)
    {system : System R}
    {caller : Nat}
    (lone : system.Lone caller)
    {events : List (Event R)}
    (apart : (interleavings bus).Along (Apart caller) system events) :
    (interleavings bus).Along Undisturbed system events :=
  (interleavings bus).along_of_invariant (fun system => system.Lone caller)
    (fun lone apart stepped => lone.next apart stepped)
    (fun lone apart => lone.undisturbed apart) lone apart

/-- The left wheels turn, and no thread runs. -/
def rolling : System ℚ where
  pool :=
    { shared := started.taken calmBus (.command (.setRPM .motorLeft 20))
      code := fun _ => pure () }
  iterations := 1
  returned := false

theorem rolling_idle (thread : Thread) : rolling.pool.Idle thread := rfl

/-- An iteration that sets the switch while a speed for the right side takes
its first steps; the rest of that command; an iteration that sets the switch;
and one that stops the wheels while a move of the left side waits. -/
def interleavedSpeed : List (Event ℚ) :=
  [.wake, .step .deadmansSwitch, .begin 0 (.setRPM .motorRight 20),
    .step .deadmansSwitch, .step (.caller 0), .step .deadmansSwitch] ++
  List.replicate 5 (.step (.caller 0)) ++
  .wake :: List.replicate 3 (.step .deadmansSwitch) ++
  .wake :: List.replicate 4 (.step .deadmansSwitch) ++
  .begin 0 (.setRelativePosition .motorLeft 1) ::
    List.replicate 5 (.step .deadmansSwitch) ++
  List.replicate 5 (.step (.caller 0))

theorem stops_justified_rolling :
    (interleavings calmBus).Along Justified rolling interleavedSpeed := by
  apply stops_justified calmBus rolling_idle rfl
  have lone : rolling.Lone 0 := fun other _ => rolling_idle (.caller other)
  apply lone.along_undisturbed
  decide +kernel

end System
end Skatebot
