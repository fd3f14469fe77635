import Mathlib.Logic.Function.Basic
import Skatebot.Library.Rounding

/-!
# A Dynamixel servo on the bus

The hardware that the driver talks to.  A servo answers one packet at a time;
between packets its wheel may turn.  Everything the driver does not control
(which exchanges fail, how far the wheel turns, where a mode change re-bases
the position register, what an out-of-range cast yields) is read from a
`World`, indexed by the number of packets the servo has been sent.
-/

namespace Skatebot

open Library

/-! ## Control table -/

/-- Address of the model number. -/
def addrModelNumber : Nat := 0
/-- Address of the operating mode. -/
def addrOperatingMode : Nat := 11
/-- Address of the torque switch. -/
def addrTorqueEnable : Nat := 64
/-- Address of the hardware error status. -/
def addrHardwareErrorStatus : Nat := 70
/-- Address of the goal velocity. -/
def addrGoalVelocity : Nat := 104
/-- Address of the profile acceleration. -/
def addrProfileAcceleration : Nat := 108
/-- Address of the profile velocity. -/
def addrProfileVelocity : Nat := 112
/-- Address of the goal position. -/
def addrGoalPosition : Nat := 116
/-- Address of the present position. -/
def addrPresentPosition : Nat := 132
/-- Address of the present input voltage. -/
def addrPresentInputVoltage : Nat := 144
/-- Address of the present temperature. -/
def addrPresentTemperature : Nat := 146

/-! ## Packets -/

/-- An instruction packet of the Dynamixel SDK. -/
inductive Request
  | read1 (address : Nat)
  | read2 (address : Nat)
  | read4 (address : Nat)
  | write1 (address : Nat) (data : BitVec 8)
  | write4 (address : Nat) (data : BitVec 32)
  | reboot
  deriving DecidableEq

/-- The SDK's result code for a successful exchange. -/
def commSuccess : Int := 0

/-- How an exchange ended: the SDK's result code and the error byte of the
status packet. -/
structure Fate where
  commResult : Int
  dxlError : BitVec 8
  deriving DecidableEq

/-- `DynamixelServo::CommsCheck`. -/
def commsCheck (fate : Fate) : Bool :=
  if fate.commResult ≠ commSuccess then false
  else if fate.dxlError ≠ 0 then false
  else true

theorem commResult_of_commsCheck {fate : Fate}
    (checked : commsCheck fate = true) :
    fate.commResult = commSuccess := by
  unfold commsCheck at checked
  by_contra failed
  rw [if_pos failed] at checked
  cases checked

/-- What the driver does not control.  The functions are indexed by the number
of packets that the servo was sent before. -/
structure World (R : Type) [Field R] [LinearOrder R] [FloorRing R] where
  /-- How the exchange ends if this request is sent. -/
  fate : Nat → Request → Fate
  /-- Encoder counts the wheel turns by before the packet is served. -/
  motion : Nat → Int
  /-- Position register after a mode change or a reboot. -/
  rebase : Nat → BitVec 32
  /-- Answer to a request for the model number. -/
  modelNumber : Nat → BitVec 32
  /-- Value of `rclcpp::ok()`. -/
  rclcppOk : Nat → Bool
  /-- The compiler's conversion of `double` to integers. -/
  cast : FloatCast R

section

variable {R : Type} [Field R] [LinearOrder R] [FloorRing R]

/-- The exchange succeeds, and the request takes effect. -/
def World.ok (world : World R) (packet : Nat) (request : Request) : Bool :=
  commsCheck (world.fate packet request)

@[simp] theorem commsCheck_fate
    (world : World R)
    (packet : Nat)
    (request : Request) :
    commsCheck (world.fate packet request) = world.ok packet request := rfl

/-- Every packet succeeds. -/
def World.AllSucceed (world : World R) : Prop :=
  ∀ packet request, world.ok packet request = true

/-- A world in which every packet succeeds and nothing moves. -/
def World.calm (R : Type) [Field R] [LinearOrder R] [FloorRing R] :
    World R where
  fate _ _ := { commResult := commSuccess, dxlError := 0 }
  motion _ := 0
  rebase _ := 0
  modelNumber _ := 30
  rclcppOk _ := true
  cast := FloatCast.wrapping R

/-- The same world, less the exchanges that time out. -/
def World.losing (world : World R) (lost : Nat → Request → Bool) : World R :=
  { world with
    fate := fun packet request =>
      if lost packet request then { commResult := -3001, dxlError := 0 }
      else world.fate packet request }

theorem World.calm_allSucceed : (World.calm R).AllSucceed := by
  intro packet request
  rfl

end

/-! ## Device -/

/-- The state of a servo: its control table, its wheel, and the packets it was
sent. -/
structure Device where
  /-- One-byte registers by address; a two-byte register is two of them. -/
  byte : Nat → BitVec 8
  /-- Four-byte registers by address, the present position apart. -/
  word : Nat → BitVec 32
  /-- Content of the present position register. -/
  presentPosition : Int
  /-- True angle of the wheel, in encoder counts. -/
  wheelAngle : Int
  /-- Number of packets sent to the servo so far. -/
  packets : Nat
  /-- The four-byte writes sent to the servo, newest first. -/
  sent : List (Nat × BitVec 32)

namespace Device

/-- Turning the wheel adds the same amount to register and angle. -/
def turn (device : Device) (counts : Int) : Device :=
  { device with
    presentPosition := device.presentPosition + counts
    wheelAngle := device.wheelAngle + counts }

/-- Carry out a request.  Changing the operating mode may re-base the position
register; a reboot also clears the volatile registers, among them torque,
profile and goal velocity. -/
def obey (device : Device) (rebase : BitVec 32) : Request → Device
  | .read1 _ => device
  | .read2 _ => device
  | .read4 _ => device
  | .write1 address data =>
      { device with
        byte := Function.update device.byte address data
        presentPosition :=
          if address = addrOperatingMode then rebase.toInt
          else device.presentPosition }
  | .write4 address data =>
      { device with word := Function.update device.word address data }
  | .reboot =>
      { device with
        byte := Function.update device.byte addrTorqueEnable 0
        word :=
          Function.update
            (Function.update
              (Function.update device.word addrGoalVelocity 0)
              addrProfileAcceleration 0)
            addrProfileVelocity 0
        presentPosition := rebase.toInt }

/-- Record a packet, whether or not it arrives. -/
def record (device : Device) (request : Request) : Device :=
  { device with
    packets := device.packets + 1
    sent :=
      match request with
      | .write4 address data => (address, data) :: device.sent
      | _ => device.sent }

variable {R : Type} [Field R] [LinearOrder R] [FloorRing R]

/-- Serve one packet. -/
def serve (world : World R) (request : Request) (device : Device) : Device :=
  let moved := (device.turn (world.motion device.packets)).record request
  if world.ok device.packets request then
    moved.obey (world.rebase device.packets) request
  else moved

variable (world : World R) (device : Device)

@[simp] theorem serve_packets (request : Request) :
    (device.serve world request).packets = device.packets + 1 := by
  unfold serve
  split
  · cases request <;> rfl
  · rfl

/-- The true angle of the wheel changes by its motion only. -/
@[simp] theorem serve_wheelAngle (request : Request) :
    (device.serve world request).wheelAngle =
      device.wheelAngle + world.motion device.packets := by
  unfold serve
  split
  · cases request <;> rfl
  · rfl

/-- A packet moves the position register as it moves the wheel, unless it
re-bases the register. -/
theorem serve_presentPosition {request : Request}
    (keeps : ∀ data, request ≠ .write1 addrOperatingMode data)
    (running : request ≠ .reboot) :
    (device.serve world request).presentPosition =
      device.presentPosition + world.motion device.packets := by
  unfold serve
  split
  · cases request with
    | read1 address => rfl
    | read2 address => rfl
    | read4 address => rfl
    | write1 address data =>
        have other : address ≠ addrOperatingMode := by
          rintro rfl
          exact keeps data rfl
        simp [obey, record, turn, other]
    | write4 address data => rfl
    | reboot => exact absurd rfl running
  · rfl

/-- A successful mode write re-bases the register. -/
theorem serve_mode_presentPosition (data : BitVec 8)
    (arrives : world.ok device.packets (.write1 addrOperatingMode data) = true) :
    (device.serve world (.write1 addrOperatingMode data)).presentPosition =
      (world.rebase device.packets).toInt := by
  simp [serve, arrives, obey]

/-- So does a successful reboot. -/
theorem serve_reboot_presentPosition
    (arrives : world.ok device.packets .reboot = true) :
    (device.serve world .reboot).presentPosition =
      (world.rebase device.packets).toInt := by
  simp [serve, arrives, obey]

@[simp] theorem serve_read1_byte (address : Nat) :
    (device.serve world (.read1 address)).byte = device.byte := by
  unfold serve
  split <;> rfl

@[simp] theorem serve_read1_word (address : Nat) :
    (device.serve world (.read1 address)).word = device.word := by
  unfold serve
  split <;> rfl

@[simp] theorem serve_read2_byte (address : Nat) :
    (device.serve world (.read2 address)).byte = device.byte := by
  unfold serve
  split <;> rfl

@[simp] theorem serve_read2_word (address : Nat) :
    (device.serve world (.read2 address)).word = device.word := by
  unfold serve
  split <;> rfl

@[simp] theorem serve_read4_byte (address : Nat) :
    (device.serve world (.read4 address)).byte = device.byte := by
  unfold serve
  split <;> rfl

@[simp] theorem serve_read4_word (address : Nat) :
    (device.serve world (.read4 address)).word = device.word := by
  unfold serve
  split <;> rfl

@[simp] theorem serve_write1_byte (address : Nat) (data : BitVec 8) :
    (device.serve world (.write1 address data)).byte =
      if world.ok device.packets (.write1 address data) then
        Function.update device.byte address data
      else device.byte := by
  unfold serve
  split <;> rfl

@[simp] theorem serve_write1_word (address : Nat) (data : BitVec 8) :
    (device.serve world (.write1 address data)).word = device.word := by
  unfold serve
  split <;> rfl

@[simp] theorem serve_write4_byte (address : Nat) (data : BitVec 32) :
    (device.serve world (.write4 address data)).byte = device.byte := by
  unfold serve
  split <;> rfl

@[simp] theorem serve_write4_word (address : Nat) (data : BitVec 32) :
    (device.serve world (.write4 address data)).word =
      if world.ok device.packets (.write4 address data) then
        Function.update device.word address data
      else device.word := by
  unfold serve
  split <;> rfl

/-- The log grows by the four-byte writes. -/
theorem serve_sent (request : Request) :
    (device.serve world request).sent =
      match request with
      | .write4 address data => (address, data) :: device.sent
      | _ => device.sent := by
  unfold serve
  split
  · cases request <;> rfl
  · rfl

end Device
end Skatebot
