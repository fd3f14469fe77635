import Skatebot.Library.Machine

/-!
# `AcousticActionClient` and `UltrasonicActionClient`

The two clients that start a sensing action at the press of a button.  They
differ in the action's type and in what their flag holds at first; the rest is
written twice in the source and once here.  A server answers a goal with a
response, and an accepted goal with a result, at any time later.
-/

namespace Skatebot

open Library

/-! ## The clients -/

/-- `rclcpp_action::ResultCode`. -/
inductive ResultCode
  | unknown
  | succeeded
  | canceled
  | aborted
  deriving DecidableEq

/-- The classes of clients. -/
inductive ActionClientClass
  | acousticActionClient
  | ultrasonicActionClient
  deriving DecidableEq

/-- A client, with the goals of it that the server has not dealt with. -/
structure ActionClient where
  actionRunning : Bool
  /-- Number of goals sent. -/
  goalsSent : Nat
  /-- Goals that the server has neither accepted nor rejected. -/
  awaitingResponse : Nat
  /-- Accepted goals without a result. -/
  awaitingResult : Nat
  deriving DecidableEq

/-- What happens to a client. -/
inductive ActionEvent
  | start (serverAvailable : Bool)
  | goalResponse (accepted : Bool)
  | feedback
  | result (code : ResultCode)
  deriving DecidableEq

namespace ActionClient

/-- The constructors.  That of `UltrasonicActionClient` leaves the flag to what
its memory held. -/
def init (client : ActionClientClass) (memory : Bool) : ActionClient where
  actionRunning :=
    match client with
    | .acousticActionClient => false
    | .ultrasonicActionClient => memory
  goalsSent := 0
  awaitingResponse := 0
  awaitingResult := 0

/-- `rclcpp_action::Client::async_send_goal`. -/
def asyncSendGoal (client : ActionClient) : ActionClient :=
  { client with
    goalsSent := client.goalsSent + 1
    awaitingResponse := client.awaitingResponse + 1 }

/-- `Start`; the server is available within the waiting time or not. -/
def start (client : ActionClient) (serverAvailable : Bool) : ActionClient :=
  if !client.actionRunning then
    let client := { client with actionRunning := true }
    if !serverAvailable then { client with actionRunning := false }
    else client.asyncSendGoal
  else client

/-- `GoalResposeCallback`, which only logs whether there is a goal handle. -/
def goalResponseCallback (client : ActionClient) (_goalHandle : Bool) :
    ActionClient :=
  client

/-- `FeedbackCallback`, which only logs. -/
def feedbackCallback (client : ActionClient) : ActionClient := client

/-- `ResultCallback`. -/
def resultCallback (client : ActionClient) (code : ResultCode) :
    ActionClient :=
  match code with
  | .succeeded => { client with actionRunning := false }
  | .aborted => client
  | .canceled => client
  | .unknown => client

/-- The client's code for an event; `none` where there is no goal that the
server could answer. -/
def handle (client : ActionClient) : ActionEvent → Option ActionClient
  | .start serverAvailable => some (client.start serverAvailable)
  | .goalResponse accepted =>
      if client.awaitingResponse = 0 then none
      else
        some
          ({ client with
            awaitingResponse := client.awaitingResponse - 1
            awaitingResult :=
              if accepted then client.awaitingResult + 1
              else client.awaitingResult }.goalResponseCallback accepted)
  | .feedback =>
      if client.awaitingResult = 0 then none
      else some client.feedbackCallback
  | .result code =>
      if client.awaitingResult = 0 then none
      else
        some
          ({ client with
            awaitingResult := client.awaitingResult - 1 }.resultCallback code)

/-- A client under its callbacks. -/
def callbacks : Machine ActionClient ActionEvent where
  step client event := client.handle event

/-! ## Goals -/

/-- No goal awaits its response or its result. -/
def Idle (client : ActionClient) : Prop :=
  client.awaitingResponse = 0 ∧ client.awaitingResult = 0

instance (client : ActionClient) : Decidable client.Idle :=
  inferInstanceAs (Decidable (_ ∧ _))

/-- If no goal awaits its response or its result, then `Start` sends one, as
soon as the server is available. -/
def Startable (client : ActionClient) : Prop :=
  client.Idle → (client.start true).goalsSent = client.goalsSent + 1

/-- The event does not end a goal in another way than by success. -/
def Succeeds : ActionEvent → Prop
  | .goalResponse accepted => accepted = true
  | .result code => code = .succeeded
  | _ => True

/-- `Start` sends a goal unless the flag is set. -/
theorem start_goalsSent (client : ActionClient) :
    (client.start true).goalsSent = client.goalsSent + 1 ↔
      client.actionRunning = false := by
  cases running : client.actionRunning <;>
    simp [start, running, asyncSendGoal]

theorem startable_iff (client : ActionClient) :
    client.Startable ↔ client.Idle → client.actionRunning = false := by
  rw [Startable, start_goalsSent]

/-- The flag is set exactly while the one goal sent is being dealt with. -/
structure Tracks (client : ActionClient) : Prop where
  running : client.actionRunning = true ↔ ¬client.Idle
  single : client.awaitingResponse + client.awaitingResult ≤ 1

theorem Tracks.startable
    {client : ActionClient}
    (tracks : client.Tracks) :
    client.Startable := by
  rw [startable_iff]
  intro idle
  rw [Bool.eq_false_iff]
  intro running
  exact tracks.running.mp running idle

/-- A goal that ends by success leaves the flag as it should be. -/
theorem Tracks.handle
    {before after : ActionClient}
    (tracks : before.Tracks)
    {event : ActionEvent}
    (succeeds : Succeeds event)
    (handled : before.handle event = some after) :
    after.Tracks := by
  obtain ⟨running, single⟩ := tracks
  unfold Idle at running
  cases event with
  | start serverAvailable =>
      obtain rfl := Option.some.inj handled
      unfold start
      cases flag : before.actionRunning with
      | true =>
          rw [flag] at running
          refine ⟨?_, single⟩
          simpa [Idle, flag] using running
      | false =>
          rw [flag] at running
          cases serverAvailable
          · refine ⟨?_, single⟩
            simpa [Idle] using running
          · refine ⟨?_, ?_⟩
            · simp [Idle, asyncSendGoal]
            · simp only [asyncSendGoal, Bool.not_false, Bool.not_true,
                Bool.false_eq_true, if_true, if_false]
              simp only [Bool.false_eq_true, false_iff, not_not] at running
              omega
  | goalResponse accepted =>
      obtain rfl : accepted = true := succeeds
      simp only [ActionClient.handle, goalResponseCallback] at handled
      split at handled
      next => contradiction
      next awaited =>
        obtain rfl := Option.some.inj handled
        refine ⟨?_, ?_⟩
        · simp only [Idle, if_true]
          rw [running]
          omega
        · simp only [if_true]
          omega
  | feedback =>
      simp only [ActionClient.handle, feedbackCallback] at handled
      split at handled
      next => contradiction
      next =>
        obtain rfl := Option.some.inj handled
        exact ⟨running, single⟩
  | result code =>
      obtain rfl : code = .succeeded := succeeds
      simp only [ActionClient.handle, resultCallback] at handled
      split at handled
      next => contradiction
      next awaited =>
        obtain rfl := Option.some.inj handled
        refine ⟨?_, ?_⟩
        · simp only [Idle, Bool.false_eq_true, false_iff, not_not]
          omega
        · dsimp only
          omega

/-- A goal that ends otherwise leaves the client idle with its flag set. -/
theorem Tracks.locked
    {before after : ActionClient}
    (tracks : before.Tracks)
    {event : ActionEvent}
    (fails : ¬Succeeds event)
    (handled : before.handle event = some after) :
    after.Idle ∧ after.actionRunning = true := by
  obtain ⟨running, single⟩ := tracks
  unfold Idle at running ⊢
  cases event with
  | start serverAvailable => exact absurd trivial fails
  | goalResponse accepted =>
      obtain rfl : accepted = false := Bool.eq_false_iff.mpr fails
      simp only [ActionClient.handle, goalResponseCallback] at handled
      split at handled
      next => contradiction
      next awaited =>
        obtain rfl := Option.some.inj handled
        simp only [Bool.false_eq_true, if_false]
        rw [running]
        omega
  | feedback => exact absurd trivial fails
  | result code =>
      have kept : ∀ client : ActionClient,
          client.resultCallback code = client := by
        intro client
        cases code with
        | succeeded => exact absurd rfl fails
        | _ => rfl
      simp only [ActionClient.handle, kept] at handled
      split at handled
      next => contradiction
      next awaited =>
        obtain rfl := Option.some.inj handled
        dsimp only
        rw [running]
        omega

/-- An idle client with its flag set never sends a goal again. -/
theorem locked_run
    {client final : ActionClient}
    (idle : client.Idle)
    (running : client.actionRunning = true)
    {events : List ActionEvent}
    (reached : callbacks.run client events = some final) :
    final.goalsSent = client.goalsSent := by
  have locked : final = client := by
    apply callbacks.invariant_of_run (· = client) _ rfl reached
    rintro state event next rfl handled
    obtain ⟨noResponse, noResult⟩ := idle
    cases event with
    | start serverAvailable =>
        obtain rfl := Option.some.inj handled
        simp [start, running]
    | goalResponse accepted =>
        simp [callbacks, ActionClient.handle, noResponse] at handled
    | feedback => simp [callbacks, ActionClient.handle, noResult] at handled
    | result code => simp [callbacks, ActionClient.handle, noResult] at handled
  rw [locked]

/-! ## Runs -/

/-- In every state of a run in which no goal awaits its response or its result,
`Start` can send a goal: exactly when the flag is clear at first, no goal is
rejected and every result is a success. -/
theorem always_startable_iff
    {client : ActionClientClass}
    {memory : Bool}
    {events : List ActionEvent}
    {final : ActionClient}
    (reached : callbacks.run (init client memory) events = some final) :
    callbacks.Always Startable (init client memory) events ↔
      (init client memory).actionRunning = false ∧
        ∀ event ∈ events, Succeeds event := by
  have idle : (init client memory).Idle := ⟨rfl, rfl⟩
  by_cases clear : (init client memory).actionRunning = false
  · have tracks : (init client memory).Tracks :=
      ⟨by simp [clear, idle], Nat.zero_le 1⟩
    rw [and_iff_right clear]
    apply callbacks.always_iff_events Tracks Tracks.startable
      (fun tracks succeeds handled => tracks.handle succeeds handled) _
      tracks reached
    intro before event after tracks fails handled startable
    obtain ⟨afterIdle, running⟩ := tracks.locked fails handled
    rw [startable_iff] at startable
    exact absurd (running.symm.trans (startable afterIdle)) (by decide)
  · refine iff_of_false (fun always => ?_) fun given => clear given.1
    exact clear ((startable_iff _).mp always.head idle)

theorem always_startable_iff_scanned :
    callbacks.Always Startable (init .ultrasonicActionClient false)
        [.start false, .start true, .goalResponse true, .feedback,
          .result .succeeded, .start true] ↔
      (init .ultrasonicActionClient false).actionRunning = false ∧
        ∀ event ∈ [ActionEvent.start false, .start true, .goalResponse true,
          .feedback, .result .succeeded, .start true], Succeeds event :=
  have reached :
      callbacks.run (init .ultrasonicActionClient false)
          [.start false, .start true, .goalResponse true, .feedback,
            .result .succeeded, .start true] =
        some ⟨true, 2, 1, 0⟩ := by
    decide
  always_startable_iff reached

/-- A goal of the acoustic client is rejected, and one of the ultrasonic client
aborted; and the flag of the ultrasonic client happens to be set at first.
Each time no goal is left, and the next `Start` sends none. -/
theorem failed_goal_locks :
    (∃ client, callbacks.run (init .acousticActionClient false)
          [.start true, .goalResponse false] = some client ∧
        client.Idle ∧ client.start true = client) ∧
      (∃ client, callbacks.run (init .ultrasonicActionClient false)
          [.start true, .goalResponse true, .result .aborted] =
            some client ∧
        client.Idle ∧ client.start true = client) ∧
      (init .ultrasonicActionClient true).Idle ∧
        (init .ultrasonicActionClient true).start true =
          init .ultrasonicActionClient true := by
  refine ⟨⟨_, rfl, ?_⟩, ⟨_, rfl, ?_⟩, ?_⟩ <;> decide

end ActionClient
end Skatebot
