import Skatebot.Imu.LossyLink

/-!
# Cargos over the I2C bus

`I2CInterface::read` reads the header of a cargo to learn its length, and then
the cargo in transactions of at most 32 bytes.  The hub gives each transaction
a header of its own and goes on with the cargo where the last one left it.  So
a transaction that fails costs the cargo what it carried, and the rest of the
cargo is read by the next call as if it were a cargo.
-/

namespace Skatebot

open Library

variable {Callback AdvertCallback Owner : Type}

/-! ## The interface -/

/-- `SH2_HAL_MAX_TRANSFER_IN`, the size of `inTransfer`. -/
def sh2HalMaxTransferIn : Nat := 384

/-- What `::read` and `::write` do on the bus: the bytes that are asked for, or
nothing when fewer came; whether all bytes were written. -/
structure I2CBus (Device : Type) where
  read : Device → Nat → Option (List (BitVec 8)) × Device
  write : Device → List (BitVec 8) → Bool × Device

namespace I2CBus

variable {Device : Type} (bus : I2CBus Device)

/-- The header of a transaction is left out but for the first. -/
def skipped (firstRead : Bool) : Nat := if firstRead then 0 else 4

/-- The loop of `I2CInterface::read`. -/
def readCargo (device : Device) (cargoRemaining : Nat) (firstRead : Bool) :
    Option (List (BitVec 8)) × Device :=
  if cargoRemaining = 0 then (some [], device)
  else
    let readSize := min 32 (cargoRemaining + skipped firstRead)
    match bus.read device readSize with
    | (none, device) => (none, device)
    | (some i2cBuffer, device) =>
        let cargoReadAmount := readSize - skipped firstRead
        let part := (i2cBuffer.drop (skipped firstRead)).take cargoReadAmount
        match readCargo device (cargoRemaining - cargoReadAmount) false with
        | (none, device) => (none, device)
        | (some rest, device) => (some (part ++ rest), device)
termination_by cargoRemaining
decreasing_by
  unfold skipped
  split <;> omega

/-- `I2CInterface::read`: what it leaves in its buffer, nothing when it returns
zero. -/
def readPacket (device : Device) (len : Nat) :
    List (BitVec 8) × Device :=
  match bus.read device 4 with
  | (some (header0 :: header1 :: _), device) =>
      let packetSize := (header0.toNat + header1.toNat * 256) % 0x8000
      if packetSize > len then ([], device)
      else
        match bus.readCargo device packetSize true with
        | (none, device) => ([], device)
        | (some packet, device) => (packet, device)
  | (_, device) => ([], device)

/-- A transaction that fails ends the loop. -/
theorem readCargo_of_none
    {device later : Device}
    {cargoRemaining : Nat}
    {firstRead : Bool}
    (more : cargoRemaining ≠ 0)
    (answer : bus.read device (min 32 (cargoRemaining + skipped firstRead)) =
      (none, later)) :
    bus.readCargo device cargoRemaining firstRead = (none, later) := by
  unfold readCargo
  rw [if_neg more]
  simp only [answer]

/-- A transaction that does not fail is one turn of the loop. -/
theorem readCargo_of_some
    {device later : Device}
    {cargoRemaining : Nat}
    {firstRead : Bool}
    {i2cBuffer : List (BitVec 8)}
    (more : cargoRemaining ≠ 0)
    (answer : bus.read device (min 32 (cargoRemaining + skipped firstRead)) =
      (some i2cBuffer, later)) :
    bus.readCargo device cargoRemaining firstRead =
      ((bus.readCargo later
          (cargoRemaining - (min 32 (cargoRemaining + skipped firstRead) -
            skipped firstRead)) false).1.map fun rest =>
          (i2cBuffer.drop (skipped firstRead)).take
            (min 32 (cargoRemaining + skipped firstRead) - skipped firstRead) ++
              rest,
        (bus.readCargo later
          (cargoRemaining - (min 32 (cargoRemaining + skipped firstRead) -
            skipped firstRead)) false).2) := by
  rw [readCargo, if_neg more]
  simp only [answer]
  split
  next same => rw [same]; rfl
  next same => rw [same]; rfl

end I2CBus

namespace Shtp

/-- The part of `shtp_service` that reads from the hub. -/
def poll (call : Call Callback AdvertCallback Owner)
    {Device : Type} (bus : I2CBus Device)
    (shtp : Shtp Callback AdvertCallback Owner) (device : Device)
    (t_us : BitVec 32) :
    Option (Shtp Callback AdvertCallback Owner × Device) :=
  let (packet, device) := bus.readPacket device sh2HalMaxTransferIn
  if packet.length ≠ 0 then
    (shtp.rxAssemble call packet t_us).map fun shtp => (shtp, device)
  else some (shtp, device)

/-- Several calls, at these times. -/
def polls (call : Call Callback AdvertCallback Owner)
    {Device : Type} (bus : I2CBus Device)
    (shtp : Shtp Callback AdvertCallback Owner) (device : Device)
    (times : List (BitVec 32)) :
    Option (Shtp Callback AdvertCallback Owner × Device) :=
  times.foldlM (fun (shtp, device) t_us => shtp.poll call bus device t_us)
    (shtp, device)

theorem polls_cons
    (call : Call Callback AdvertCallback Owner)
    {Device : Type}
    (bus : I2CBus Device)
    (shtp : Shtp Callback AdvertCallback Owner)
    (device : Device)
    (t_us : BitVec 32)
    (times : List (BitVec 32)) :
    shtp.polls call bus device (t_us :: times) =
      (shtp.poll call bus device t_us).bind fun (next, later) =>
        next.polls call bus later times := rfl

end Shtp

/-! ## The hub on the bus -/

/-- A cargo that the hub has to send, and how much of it has been read. -/
structure Outgoing where
  chan : Fin sh2MaxChans
  payload : List (BitVec 8)
  sent : Nat
  unsent : sent < payload.length
  small : payload.length + shtpHdrLen < 0x7fff

namespace Outgoing

/-- What is left of the cargo. -/
def left (cargo : Outgoing) : List (BitVec 8) := cargo.payload.drop cargo.sent

/-- The cargo after more of it has been read, if something is left then. -/
def advance (cargo : Outgoing) (count : Nat) : Option Outgoing :=
  if unsent : cargo.sent + count < cargo.payload.length then
    some { cargo with
      sent := cargo.sent + count
      unsent := unsent }
  else none

/-- The bytes of a transaction: the header and what is left of the cargo. -/
def bytes (cargo : Outgoing) (seq : BitVec 8) : List (BitVec 8) :=
  transferHeader (cargo.left.length + shtpHdrLen) (cargo.sent ≠ 0)
    (BitVec.ofNat 8 cargo.chan) seq ++ cargo.left

end Outgoing

/-- A transaction on the bus: the sequence number that the hub gives it, and,
if it fails, after how many bytes. -/
structure Transaction where
  seq : BitVec 8
  failed : Option Nat
  deriving DecidableEq

/-- The hub, what is to come on the bus, and what was written to the hub, the
last last. -/
structure HubDevice where
  waiting : List Outgoing
  transactions : List Transaction
  written : List (List (BitVec 8))

namespace HubDevice

/-- The hub gives as many bytes as are clocked. -/
def clock (waiting : List Outgoing) (seq : BitVec 8) (count : Nat) :
    List (BitVec 8) × List Outgoing :=
  match waiting with
  | [] => (List.replicate count 0, [])
  | cargo :: rest =>
      ((cargo.bytes seq ++ List.replicate count 0).take count,
        (cargo.advance (count - shtpHdrLen)).toList ++ rest)

/-- A transaction of so many bytes.  Where the transactions end, none fails. -/
def read (device : HubDevice) (count : Nat) :
    Option (List (BitVec 8)) × HubDevice :=
  let transaction := device.transactions.headD ⟨0, none⟩
  match transaction.failed with
  | none =>
      let (bytes, waiting) := clock device.waiting transaction.seq count
      (some bytes,
        { device with
          waiting := waiting
          transactions := device.transactions.tail })
  | some clocked =>
      let (_, waiting) :=
        clock device.waiting transaction.seq (min clocked count)
      (none,
        { device with
          waiting := waiting
          transactions := device.transactions.tail })

/-- A transaction that writes.  The hub does not take what comes incomplete. -/
def write (device : HubDevice) (bytes : List (BitVec 8)) : Bool × HubDevice :=
  let transaction := device.transactions.headD ⟨0, none⟩
  let device := { device with transactions := device.transactions.tail }
  match transaction.failed with
  | none => (true, { device with written := device.written ++ [bytes] })
  | some _ => (false, device)

/-- How many of the transactions to come fail. -/
def failures (device : HubDevice) : Nat :=
  device.transactions.countP fun transaction => transaction.failed.isSome

end HubDevice

/-- The bus with the hub on it. -/
def hubBus : I2CBus HubDevice := ⟨HubDevice.read, HubDevice.write⟩

/-! ## A packet from the hub -/

namespace Outgoing

theorem left_pos (cargo : Outgoing) : 0 < cargo.left.length := by
  have unsent := cargo.unsent
  rw [left, List.length_drop]
  omega

@[simp] theorem length_bytes (cargo : Outgoing) (seq : BitVec 8) :
    (cargo.bytes seq).length = cargo.left.length + shtpHdrLen := by
  rw [bytes, List.length_append, Nat.add_comm]
  rfl

@[simp] theorem advance_zero (cargo : Outgoing) :
    cargo.advance 0 = some cargo :=
  dif_pos cargo.unsent

/-- The bytes of a transaction behind its header. -/
theorem drop_bytes (cargo : Outgoing) (seq : BitVec 8) :
    (cargo.bytes seq).drop shtpHdrLen = cargo.left := rfl

/-- What a transaction has not read of its bytes is left of the cargo. -/
theorem drop_take_append
    (cargo : Outgoing)
    (seq : BitVec 8)
    {header count : Nat}
    (short : header ≤ shtpHdrLen)
    (enough : shtpHdrLen ≤ count) :
    ((cargo.bytes seq).take count).drop header ++
        cargo.left.drop (count - shtpHdrLen) =
      (cargo.bytes seq).drop header := by
  have split : cargo.left.drop (count - shtpHdrLen) =
      (cargo.bytes seq).drop count := by
    rw [← cargo.drop_bytes seq, List.drop_drop]
    congr 1
    omega
  have whole := congrArg (List.drop header)
    (List.take_append_drop count (cargo.bytes seq))
  by_cases within : header ≤ ((cargo.bytes seq).take count).length
  · rwa [List.drop_append_of_le_length within, ← split] at whole
  · exfalso
    apply within
    rw [List.length_take, length_bytes]
    omega

/-- What is left after a part, and nothing after all of it. -/
theorem advance_left
    (cargo : Outgoing)
    {count : Nat}
    (bounded : count ≤ cargo.left.length) :
    (count = cargo.left.length ∧ cargo.advance count = none) ∨
      ∃ next, cargo.advance count = some next ∧
        next.left = cargo.left.drop count ∧
        ∀ more, next.advance more = cargo.advance (count + more) := by
  have unsent := cargo.unsent
  simp only [left, List.length_drop] at bounded
  simp only [left, List.length_drop, List.drop_drop, advance]
  by_cases within : cargo.sent + count < cargo.payload.length
  · right
    rw [dif_pos within]
    refine ⟨_, rfl, rfl, fun more => ?_⟩
    simp only [Nat.add_assoc]
  · left
    exact ⟨by omega, dif_neg within⟩

end Outgoing

namespace HubDevice

/-- The hub with a cargo in front. -/
def sending (cargo : Outgoing) (device : HubDevice) : HubDevice :=
  { device with waiting := cargo :: device.waiting }

/-- The hub with what is left of a cargo after more of it has been read. -/
def advanced (cargo : Outgoing) (count : Nat) (device : HubDevice) :
    HubDevice :=
  { device with waiting := (cargo.advance count).toList ++ device.waiting }

/-- The same hub later on: no more of its transactions are to fail. -/
structure Later (device later : HubDevice) : Prop where
  waiting : later.waiting = device.waiting
  written : later.written = device.written
  failures : later.failures ≤ device.failures

/-- The result of reading from a hub with a cargo in front: all that was asked
for, and the cargo has advanced by as much; or a transaction failed, and it has
advanced by no more. -/
def Answered (cargo : Outgoing) (device : HubDevice)
    (all : List (BitVec 8) → Prop) (count : Nat)
    (result : Option (List (BitVec 8)) × HubDevice) : Prop :=
  (∃ bytes later, all bytes ∧ device.Later later ∧
    result = (some bytes, later.advanced cargo count)) ∨
  (∃ clocked later, clocked ≤ count ∧ device.Later later ∧
    later.failures < device.failures ∧
    result = (none, later.advanced cargo clocked))

theorem later_tail (device : HubDevice) :
    device.Later { device with transactions := device.transactions.tail } :=
  ⟨rfl, rfl, (List.tail_sublist _).countP_le⟩

/-- A transaction within a cargo. -/
theorem read_sending
    (cargo : Outgoing)
    (device : HubDevice)
    {count : Nat}
    (within : count ≤ cargo.left.length + shtpHdrLen) :
    Answered cargo device
      (fun bytes => ∃ seq, bytes = (cargo.bytes seq).take count)
      (count - shtpHdrLen) (hubBus.read (device.sending cargo) count) := by
  have later := device.later_tail
  cases failed : (device.transactions.headD ⟨0, none⟩).failed with
  | none =>
      left
      refine ⟨_, _, ⟨(device.transactions.headD ⟨0, none⟩).seq, rfl⟩, later, ?_⟩
      have taken : (cargo.bytes (device.transactions.headD ⟨0, none⟩).seq ++
          List.replicate count 0).take count =
            (cargo.bytes (device.transactions.headD ⟨0, none⟩).seq).take count :=
        List.take_append_of_le_length (by simpa using within)
      simp only [hubBus, HubDevice.read, sending, failed, clock, taken]
      rfl
  | some clocked =>
      right
      refine ⟨min clocked count - shtpHdrLen, _,
        Nat.sub_le_sub_right (min_le_right ..) _, later, ?_, ?_⟩
      · cases transactions : device.transactions with
        | nil => simp [transactions] at failed
        | cons transaction rest =>
            have fails : transaction.failed = some clocked := by
              simpa [transactions] using failed
            simp [failures, transactions, fails]
      · simp only [hubBus, HubDevice.read, sending, failed, clock]
        rfl

theorem Later.trans
    {device middle later : HubDevice}
    (first : device.Later middle)
    (second : middle.Later later) :
    device.Later later :=
  ⟨second.waiting.trans first.waiting, second.written.trans first.written,
    second.failures.trans first.failures⟩

theorem advanced_eq_sending
    (device : HubDevice)
    {cargo next : Outgoing}
    {count : Nat}
    (advances : cargo.advance count = some next) :
    device.advanced cargo count = device.sending next := by
  rw [advanced, advances]
  rfl

/-- The loop reads the rest of the cargo, the headers of all transactions but
the first left out. -/
theorem readCargo_sending
    (cargo : Outgoing)
    (device : HubDevice)
    (firstRead : Bool) :
    Answered cargo device
      (fun bytes => ∃ seq,
        bytes = (cargo.bytes seq).drop (I2CBus.skipped firstRead))
      cargo.left.length
      (hubBus.readCargo (device.sending cargo)
        (cargo.left.length + shtpHdrLen - I2CBus.skipped firstRead)
        firstRead) := by
  induction length : cargo.left.length using Nat.strong_induction_on
    generalizing cargo device firstRead with
  | _ remaining inductionHypothesis =>
  have positive := cargo.left_pos
  rw [length] at positive
  have short : I2CBus.skipped firstRead ≤ shtpHdrLen := by
    unfold I2CBus.skipped shtpHdrLen
    split <;> omega
  have sum : remaining + shtpHdrLen - I2CBus.skipped firstRead +
      I2CBus.skipped firstRead = remaining + shtpHdrLen := by omega
  have more : remaining + shtpHdrLen - I2CBus.skipped firstRead ≠ 0 := by omega
  obtain ⟨count, size⟩ : ∃ count, count = min 32 (remaining + shtpHdrLen) :=
    ⟨_, rfl⟩
  have enough : shtpHdrLen < count := by
    unfold shtpHdrLen at size ⊢
    omega
  have within : count ≤ cargo.left.length + shtpHdrLen := by omega
  have asked : min 32 (remaining + shtpHdrLen - I2CBus.skipped firstRead +
      I2CBus.skipped firstRead) = count := by rw [sum, size]
  rcases read_sending cargo device within with
    ⟨_, later, ⟨seq, rfl⟩, onward, answer⟩ |
      ⟨clocked, later, clockedBounded, onward, fewer, answer⟩
  · rw [← asked] at answer
    rw [hubBus.readCargo_of_some more answer, asked, List.take_of_length_le (by
      rw [List.length_drop, List.length_take]
      omega)]
    have joined := cargo.drop_take_append seq short enough.le
    have bounded : count - shtpHdrLen ≤ cargo.left.length := by omega
    rcases cargo.advance_left bounded with
      ⟨all, finished⟩ | ⟨next, advances, rest, after⟩
    · have done : remaining + shtpHdrLen - I2CBus.skipped firstRead -
          (count - I2CBus.skipped firstRead) = 0 := by omega
      rw [all, List.drop_length, List.append_nil] at joined
      rw [done, I2CBus.readCargo, if_pos rfl, all]
      left
      exact ⟨_, later, ⟨seq, joined⟩, onward, by simp [length]⟩
    · have left : next.left.length = remaining - (count - shtpHdrLen) := by
        rw [rest, List.length_drop, length]
      have asked : remaining + shtpHdrLen - I2CBus.skipped firstRead -
          (count - I2CBus.skipped firstRead) =
            next.left.length + shtpHdrLen - I2CBus.skipped false := by
        have same : I2CBus.skipped false = shtpHdrLen := rfl
        omega
      rw [asked, later.advanced_eq_sending advances, left]
      rcases inductionHypothesis _ (by omega) next later false left with
        ⟨_, last, ⟨nextSeq, rfl⟩, lastOnward, result⟩ |
          ⟨clocked, last, clockedBounded, lastOnward, fewer, result⟩
      · have whole : count - shtpHdrLen + (remaining - (count - shtpHdrLen)) =
            remaining := by omega
        rw [result, advanced, after, whole]
        left
        refine ⟨_, last, ⟨seq, joined⟩, onward.trans lastOnward, ?_⟩
        rw [← rest]
        rfl
      · have fewerFirst := onward.failures
        rw [result, advanced, after]
        right
        exact ⟨count - shtpHdrLen + clocked, last, by omega,
          onward.trans lastOnward, by omega, rfl⟩
  · rw [← asked] at answer
    right
    exact ⟨clocked, later, by omega, onward, fewer,
      hubBus.readCargo_of_none more answer⟩

@[simp] theorem advanced_zero (cargo : Outgoing) (device : HubDevice) :
    device.advanced cargo 0 = device.sending cargo :=
  device.advanced_eq_sending cargo.advance_zero

@[simp] theorem advanced_all (cargo : Outgoing) (device : HubDevice) :
    device.advanced cargo cargo.left.length = device := by
  have ended : cargo.advance cargo.left.length = none := by
    rw [Outgoing.advance, Outgoing.left, List.length_drop]
    exact dif_neg (by omega)
  rw [advanced, ended]
  rfl

/-- The header of a cargo tells its length and leaves it as it is. -/
theorem read_header
    (cargo : Outgoing)
    (device : HubDevice) :
    (∃ header0 header1 rest later,
      (header0.toNat + header1.toNat * 256) % 0x8000 =
        cargo.left.length + shtpHdrLen ∧
      device.Later later ∧
      hubBus.read (device.sending cargo) 4 =
        (some (header0 :: header1 :: rest), later.sending cargo)) ∨
    ∃ later, device.Later later ∧ later.failures < device.failures ∧
      hubBus.read (device.sending cargo) 4 = (none, later.sending cargo) := by
  have within : 4 ≤ cargo.left.length + shtpHdrLen := Nat.le_add_left ..
  rcases read_sending cargo device within with
    ⟨_, later, ⟨seq, rfl⟩, onward, answer⟩ |
      ⟨clocked, later, least, onward, fewer, answer⟩
  · left
    have small := cargo.small
    have bounded : cargo.left.length ≤ cargo.payload.length := by
      rw [Outgoing.left, List.length_drop]
      omega
    have high : (cargo.left.length + shtpHdrLen) / 256 < 0x80 := by omega
    obtain ⟨number, -⟩ := Shtp.second_byte _ high (cargo.sent ≠ 0)
    have header : (cargo.bytes seq).take 4 =
        transferHeader (cargo.left.length + shtpHdrLen) (cargo.sent ≠ 0)
          (BitVec.ofNat 8 cargo.chan) seq := rfl
    have rest : 4 - shtpHdrLen = 0 := rfl
    rw [header, transferHeader, rest, advanced_zero] at answer
    refine ⟨_, _, _, later, ?_, onward, answer⟩
    rw [number, BitVec.toNat_ofNat]
    split <;> omega
  · right
    obtain rfl : clocked = 0 := Nat.le_zero.mp least
    exact ⟨later, onward, fewer, by rw [answer, advanced_zero]⟩

/-- A call of `I2CInterface::read` with a cargo that fits. -/
theorem readPacket_sending
    (cargo : Outgoing)
    (device : HubDevice)
    (fits : cargo.left.length + shtpHdrLen ≤ sh2HalMaxTransferIn) :
    (∃ seq later, device.Later later ∧
      hubBus.readPacket (device.sending cargo) sh2HalMaxTransferIn =
        (cargo.bytes seq, later)) ∨
    ∃ clocked later, clocked ≤ cargo.left.length ∧ device.Later later ∧
      later.failures < device.failures ∧
      hubBus.readPacket (device.sending cargo) sh2HalMaxTransferIn =
        ([], later.advanced cargo clocked) := by
  rcases read_header cargo device with
    ⟨header0, header1, rest, later, size, onward, answer⟩ |
      ⟨later, onward, fewer, answer⟩
  · have loop := readCargo_sending cargo later true
    simp only [I2CBus.skipped, ↓reduceIte, Nat.sub_zero, List.drop_zero] at loop
    rcases loop with ⟨_, last, ⟨seq, rfl⟩, lastOnward, result⟩ |
      ⟨clocked, last, bounded, lastOnward, fewer, result⟩
    · left
      refine ⟨seq, last, onward.trans lastOnward, ?_⟩
      simp only [I2CBus.readPacket, answer, size, if_neg (not_lt.mpr fits),
        result, advanced_all]
    · right
      have fewerFirst := onward.failures
      refine ⟨clocked, last, bounded, onward.trans lastOnward, by omega, ?_⟩
      simp only [I2CBus.readPacket, answer, size, if_neg (not_lt.mpr fits),
        result]
  · right
    refine ⟨0, later, Nat.zero_le _, onward, fewer, ?_⟩
    simp only [I2CBus.readPacket, answer, advanced_zero]

/-- A call of `I2CInterface::read` with a cargo that is too large. -/
theorem readPacket_large
    (cargo : Outgoing)
    (device : HubDevice)
    (large : sh2HalMaxTransferIn < cargo.left.length + shtpHdrLen) :
    ∃ later, device.Later later ∧
      hubBus.readPacket (device.sending cargo) sh2HalMaxTransferIn =
        ([], later.sending cargo) := by
  rcases read_header cargo device with
    ⟨header0, header1, rest, later, size, onward, answer⟩ |
      ⟨later, onward, fewer, answer⟩
  · refine ⟨later, onward, ?_⟩
    simp only [I2CBus.readPacket, answer, size, if_pos large]
  · refine ⟨later, onward, ?_⟩
    simp only [I2CBus.readPacket, answer]

/-- A call of `I2CInterface::read` with no cargo. -/
theorem readPacket_empty
    (device : HubDevice)
    (empty : device.waiting = []) :
    ∃ later, device.Later later ∧
      hubBus.readPacket device sh2HalMaxTransferIn = ([], later) := by
  refine ⟨_, device.later_tail, ?_⟩
  cases failed : (device.transactions.headD ⟨0, none⟩).failed with
  | none =>
      have answer : hubBus.read device 4 =
          (some [0, 0, 0, 0],
            { device with transactions := device.transactions.tail }) := by
        simp only [hubBus, HubDevice.read, failed, clock, empty]
        rfl
      have size : ((0 : BitVec 8).toNat + (0 : BitVec 8).toNat * 256) % 0x8000 =
          0 := rfl
      rw [I2CBus.readPacket, answer]
      simp only [size, if_neg (Nat.not_lt_zero _)]
      rw [I2CBus.readCargo, if_pos rfl]
  | some clocked =>
      have answer : hubBus.read device 4 =
          (none, { device with transactions := device.transactions.tail }) := by
        simp only [hubBus, HubDevice.read, failed, clock, empty]
      rw [I2CBus.readPacket, answer]

end HubDevice
/-! ## A call with the hub on the bus -/

namespace Shtp

/-- A cargo that fits is handed over, or a transaction fails and it advances. -/
theorem poll_sending
    {call : Call Callback AdvertCallback Owner}
    {contract : Contract Owner Delivery}
    (total : ∀ owner delivery, contract.able owner delivery)
    {shtp : Shtp Callback AdvertCallback Owner}
    (idle : shtp.inRemaining = 0)
    {cargo : Outgoing}
    (connected : shtp.Connected call contract cargo.chan)
    (fits : cargo.left.length + shtpHdrLen ≤ sh2HalMaxTransferIn)
    (device : HubDevice)
    (t_us : BitVec 32) :
    (∃ next later seq, device.Later later ∧
      shtp.poll call hubBus (device.sending cargo) t_us = some (next, later) ∧
      Received contract shtp cargo.chan seq cargo.left 0 t_us next) ∨
    ∃ clocked later, clocked ≤ cargo.left.length ∧ device.Later later ∧
      later.failures < device.failures ∧
      shtp.poll call hubBus (device.sending cargo) t_us =
        some (shtp, later.advanced cargo clocked) := by
  rcases device.readPacket_sending cargo fits with
    ⟨seq, later, onward, packet⟩ |
      ⟨clocked, later, bounded, onward, fewer, packet⟩
  · left
    have continuation : shtp.inRemaining = 0 ∨
        ¬shtp.Fits (cargo.sent ≠ 0) cargo.chan seq := .inl idle
    have room : cargo.left.length + 0 + shtpHdrLen ≤ sh2HalMaxPayloadIn := fits
    obtain ⟨next, assembled, received⟩ :=
      rxAssemble_begins connected continuation room t_us
        fun _ => total _ _
    have filled : (cargo.bytes seq).length ≠ 0 := by
      rw [Outgoing.length_bytes]
      exact Nat.succ_ne_zero _
    refine ⟨next, later, seq, onward, ?_, received⟩
    rw [poll, packet]
    simp only [filled, ne_eq, not_false_eq_true, ↓reduceIte]
    rw [Outgoing.bytes]
    exact congrArg _ assembled
  · right
    refine ⟨clocked, later, bounded, onward, fewer, ?_⟩
    rw [poll, packet]
    rfl

/-! ## Many calls -/

/-- A cargo that is too large stays, and nothing comes behind it. -/
theorem polls_large
    (call : Call Callback AdvertCallback Owner)
    (shtp : Shtp Callback AdvertCallback Owner)
    (cargo : Outgoing)
    (large : sh2HalMaxTransferIn < cargo.left.length + shtpHdrLen)
    (device : HubDevice)
    (times : List (BitVec 32)) :
    ∃ later, device.Later later ∧
      shtp.polls call hubBus (device.sending cargo) times =
        some (shtp, later.sending cargo) := by
  induction times generalizing device with
  | nil => exact ⟨device, ⟨rfl, rfl, le_rfl⟩, rfl⟩
  | cons t_us times inductionHypothesis =>
      obtain ⟨middle, onward, packet⟩ := device.readPacket_large cargo large
      obtain ⟨later, rest, run⟩ := inductionHypothesis middle
      refine ⟨later, onward.trans rest, ?_⟩
      have first : shtp.poll call hubBus (device.sending cargo) t_us =
          some (shtp, middle.sending cargo) := by
        rw [poll, packet]
        rfl
      rw [polls_cons, first]
      exact run

end Shtp

/-- What the listeners get of some cargos, and how many of these are damaged:
each comes whole, or its beginning is gone, or it is lost. -/
inductive Forwarded : List Outgoing → Nat → List Delivery → Prop
  | nil : Forwarded [] 0 []
  | whole {cargos damaged delivered} (cargo : Outgoing) (t_us : BitVec 32)
      (rest : Forwarded cargos damaged delivered) :
      Forwarded (cargo :: cargos) damaged
        (⟨cargo.chan, cargo.left, t_us⟩ :: delivered)
  | cut {cargos damaged delivered} (cargo : Outgoing) (t_us : BitVec 32)
      (gone : Nat) (within : gone < cargo.left.length)
      (rest : Forwarded cargos damaged delivered) :
      Forwarded (cargo :: cargos) (damaged + 1)
        (⟨cargo.chan, cargo.left.drop gone, t_us⟩ :: delivered)
  | lost {cargos damaged delivered} (cargo : Outgoing)
      (rest : Forwarded cargos damaged delivered) :
      Forwarded (cargo :: cargos) (damaged + 1) delivered

/-- What becomes of the rest of a cargo becomes of the cargo; one more may be
damaged. -/
theorem Forwarded.of_advance
    {cargo next : Outgoing}
    {count damaged : Nat}
    {cargos : List Outgoing}
    {delivered : List Delivery}
    (bounded : count ≤ cargo.left.length)
    (advances : cargo.advance count = some next)
    (forwarded : Forwarded (next :: cargos) damaged delivered) :
    ∃ more ≤ damaged + 1, Forwarded (cargo :: cargos) more delivered := by
  rcases cargo.advance_left bounded with ⟨-, ended⟩ | ⟨_, same, left, -⟩
  · rw [ended] at advances
    cases advances
  · rw [advances] at same
    obtain rfl := Option.some_inj.mp same
    have chan : next.chan = cargo.chan := by
      unfold Outgoing.advance at advances
      split at advances
      next => rw [← Option.some_inj.mp advances]
      next => cases advances
    cases forwarded with
    | whole _ t_us rest =>
        have positive := next.left_pos
        have within : count < cargo.left.length := by
          rw [left, List.length_drop] at positive
          omega
        rw [chan, left]
        exact ⟨_, le_rfl, .cut cargo t_us count within rest⟩
    | cut _ t_us gone within rest =>
        rw [chan, left, List.drop_drop]
        rw [left, List.length_drop] at within
        exact ⟨_, Nat.le_succ _, .cut cargo t_us _ (by omega) rest⟩
    | lost _ rest => exact ⟨_, Nat.le_succ _, .lost cargo rest⟩

/-- The channel and the payload of a cargo. -/
def Outgoing.content (cargo : Outgoing) :
    Fin sh2MaxChans × List (BitVec 8) :=
  (cargo.chan, cargo.payload)

theorem Outgoing.content_of_advance
    {cargo next : Outgoing}
    {count : Nat}
    (advances : cargo.advance count = some next) :
    next.content = cargo.content ∧ next.left.length ≤ cargo.left.length := by
  unfold advance at advances
  split at advances
  next =>
    obtain rfl := Option.some_inj.mp advances
    refine ⟨rfl, ?_⟩
    simp only [left, List.length_drop]
    omega
  next => cases advances

namespace Shtp

/-- A state of the transport and the hub that calls lead to: some cargos have
gone over, in order, and each transaction that failed has damaged one of them
at most. -/
def Forwards (call : Call Callback AdvertCallback Owner)
    (contract : Contract Owner Delivery)
    (shtp : Shtp Callback AdvertCallback Owner) (device : HubDevice)
    (times : List (BitVec 32)) : Prop :=
  ∃ next last gone rest damaged delivered,
    shtp.polls call hubBus device times = some (next, last) ∧
    device.waiting = gone ++ rest ∧
    last.waiting.map Outgoing.content = rest.map Outgoing.content ∧
    next.delivered = shtp.delivered ++ delivered ∧
    contract.Served shtp.owner delivered next.owner ∧
    Forwarded gone damaged delivered ∧
    damaged + last.failures ≤ device.failures ∧
    (last.waiting = [] ∨
      times.length + last.failures ≤ gone.length + device.failures)

/-- A call that finds nothing. -/
theorem Forwards.empty
    {call : Call Callback AdvertCallback Owner}
    {contract : Contract Owner Delivery}
    {shtp : Shtp Callback AdvertCallback Owner}
    {device later : HubDevice}
    {t_us : BitVec 32}
    {times : List (BitVec 32)}
    (idle : device.waiting = [])
    (onward : device.Later later)
    (step : shtp.poll call hubBus device t_us = some (shtp, later))
    (forwards : shtp.Forwards call contract later times) :
    shtp.Forwards call contract device (t_us :: times) := by
  obtain ⟨next, last, gone, rest, damaged, delivered, run, split, same, grown,
    served, forwarded, few, -⟩ := forwards
  have failures := onward.failures
  rw [onward.waiting, idle] at split
  obtain ⟨rfl, rfl⟩ := List.append_eq_nil_iff.mp split.symm
  refine ⟨next, last, [], [], damaged, delivered, ?_, idle, same, grown,
    served, forwarded, by omega, .inl (List.map_eq_nil_iff.mp same)⟩
  rw [polls_cons, step]
  exact run

/-- A call that hands over a cargo. -/
theorem Forwards.whole
    {call : Call Callback AdvertCallback Owner}
    {contract : Contract Owner Delivery}
    {shtp middle : Shtp Callback AdvertCallback Owner}
    {device later : HubDevice}
    {cargo : Outgoing}
    {t_us : BitVec 32}
    {times : List (BitVec 32)}
    (onward : device.Later later)
    (step : shtp.poll call hubBus (device.sending cargo) t_us =
      some (middle, later))
    (delivered : middle.delivered =
      shtp.delivered ++ [⟨cargo.chan, cargo.left, t_us⟩])
    (handed : contract.serve shtp.owner ⟨cargo.chan, cargo.left, t_us⟩
      middle.owner)
    (forwards : middle.Forwards call contract later times) :
    shtp.Forwards call contract (device.sending cargo) (t_us :: times) := by
  obtain ⟨next, last, gone, rest, damaged, later, run, split, same, grown,
    served, forwarded, few, progress⟩ := forwards
  have failures := onward.failures
  rw [onward.waiting] at split
  refine ⟨next, last, cargo :: gone, rest, damaged, _, ?_,
    congrArg (cargo :: ·) split, same, ?_, .cons handed served,
    forwarded.whole cargo t_us, ?_, ?_⟩
  · rw [polls_cons, step]
    exact run
  · rw [grown, delivered, List.append_assoc]
    rfl
  · exact few.trans failures
  · refine progress.imp id fun progress => ?_
    change times.length + 1 + last.failures ≤
      gone.length + 1 + device.failures
    omega

/-- A call in which a transaction fails. -/
theorem Forwards.failed
    {call : Call Callback AdvertCallback Owner}
    {contract : Contract Owner Delivery}
    {shtp : Shtp Callback AdvertCallback Owner}
    {device later : HubDevice}
    {cargo : Outgoing}
    {clocked : Nat}
    {t_us : BitVec 32}
    {times : List (BitVec 32)}
    (bounded : clocked ≤ cargo.left.length)
    (onward : device.Later later)
    (fewer : later.failures < device.failures)
    (step : shtp.poll call hubBus (device.sending cargo) t_us =
      some (shtp, later.advanced cargo clocked))
    (forwards :
      shtp.Forwards call contract (later.advanced cargo clocked) times) :
    shtp.Forwards call contract (device.sending cargo) (t_us :: times) := by
  obtain ⟨next, last, gone, rest, damaged, delivered, run, split, same, grown,
    served, forwarded, few, progress⟩ := forwards
  have moved : shtp.polls call hubBus (device.sending cargo) (t_us :: times) =
      some (next, last) := by
    rw [polls_cons, step]
    exact run
  change damaged + last.failures ≤ later.failures at few
  change last.waiting = [] ∨
    times.length + last.failures ≤ gone.length + later.failures at progress
  change (cargo.advance clocked).toList ++ later.waiting = gone ++ rest at split
  rw [onward.waiting] at split
  -- Either the cargo is used up, or its rest waits in its place.
  cases advances : cargo.advance clocked with
  | none =>
      rw [advances] at split
      refine ⟨next, last, cargo :: gone, rest, damaged + 1, delivered, moved,
        congrArg (cargo :: ·) split, same, grown, served,
        forwarded.lost cargo, ?_, ?_⟩
      · change damaged + 1 + last.failures ≤ device.failures
        omega
      · refine progress.imp id fun progress => ?_
        change times.length + 1 + last.failures ≤
          gone.length + 1 + device.failures
        omega
  | some left =>
      rw [advances] at split
      have content := Outgoing.content_of_advance advances
      cases gone with
      | nil =>
          obtain rfl : left :: device.waiting = rest := split
          refine ⟨next, last, [], cargo :: device.waiting, damaged, delivered,
            moved, rfl, ?_, grown, served, forwarded, ?_, ?_⟩
          · rw [same, List.map_cons, List.map_cons, content.1]
          · exact few.trans onward.failures
          · refine progress.imp id fun progress => ?_
            change times.length + 1 + last.failures ≤ 0 + device.failures
            rw [List.length_nil] at progress
            omega
      | cons first gone =>
          obtain ⟨rfl, others⟩ := List.cons.inj split
          obtain ⟨more, most, forwardedMore⟩ :=
            forwarded.of_advance bounded advances
          refine ⟨next, last, cargo :: gone, rest, more, delivered, moved,
            congrArg (cargo :: ·) others, same, grown, served, forwardedMore,
            ?_, ?_⟩
          · change more + last.failures ≤ device.failures
            omega
          · refine progress.imp id fun progress => ?_
            change times.length + 1 + last.failures ≤
              gone.length + 1 + device.failures
            rw [List.length_cons] at progress
            omega

/-- However the transactions fail, calls lead to such a state: the cargos go
over in their order, each whole but for as many as transactions fail, and of
these each is lost or comes without its beginning; and every call is one cargo
or one failure nearer to the end. -/
theorem forwards_of_polls
    {call : Call Callback AdvertCallback Owner}
    {contract : Contract Owner Delivery}
    (total : ∀ owner delivery, contract.able owner delivery)
    {shtp : Shtp Callback AdvertCallback Owner}
    (idle : shtp.inRemaining = 0)
    {device : HubDevice}
    (connected : ∀ cargo ∈ device.waiting,
      shtp.Connected call contract cargo.chan)
    (fits : ∀ cargo ∈ device.waiting,
      cargo.left.length + shtpHdrLen ≤ sh2HalMaxTransferIn)
    (times : List (BitVec 32)) :
    shtp.Forwards call contract device times := by
  induction times generalizing shtp device with
  | nil =>
      exact ⟨shtp, device, [], device.waiting, 0, [], rfl, rfl, rfl,
        (List.append_nil _).symm, .nil _, .nil, by omega, .inr (by simp)⟩
  | cons t_us times inductionHypothesis =>
      obtain ⟨waiting, transactions, written⟩ := device
      cases waiting with
      | nil =>
          obtain ⟨middle, onward, packet⟩ :=
            HubDevice.readPacket_empty ⟨[], transactions, written⟩ rfl
          have first : shtp.poll call hubBus ⟨[], transactions, written⟩ t_us =
              some (shtp, middle) := by
            rw [poll, packet]
            rfl
          refine .empty rfl onward first (inductionHypothesis idle ?_ ?_)
          all_goals
            rw [onward.waiting]
            exact List.forall_mem_nil _
      | cons cargo others =>
          rw [List.forall_mem_cons] at connected fits
          let device : HubDevice := ⟨others, transactions, written⟩
          change shtp.Forwards call contract (device.sending cargo)
            (t_us :: times)
          rcases poll_sending total idle connected.1 fits.1 device t_us with
            ⟨middle, later, seq, onward, step, received⟩ |
              ⟨clocked, later, bounded, onward, fewer, step⟩
          · obtain ⟨idleMiddle, delivered, served⟩ := received.last rfl
            refine .whole onward step delivered served
              (inductionHypothesis idleMiddle ?_ ?_)
            · rw [onward.waiting]
              exact fun other member =>
                received.stepped.connected (connected.2 other member)
            · rw [onward.waiting]
              exact fits.2
          · refine .failed bounded onward fewer step
              (inductionHypothesis idle ?_ ?_)
            all_goals
              change ∀ other ∈ (cargo.advance clocked).toList ++ later.waiting, _
              rw [onward.waiting, List.forall_mem_append]
            · refine ⟨fun left member => ?_, connected.2⟩
              have same :=
                Outgoing.content_of_advance (Option.mem_toList.mp member)
              have chan : left.chan = cargo.chan := congrArg Prod.fst same.1
              rw [chan]
              exact connected.1
            · refine ⟨fun left member => ?_, fits.2⟩
              have same :=
                Outgoing.content_of_advance (Option.mem_toList.mp member)
              have room := fits.1
              omega

/-- A hub with two cargos, on a bus where the second transaction fails after
five bytes. -/
def stumbling : HubDevice where
  waiting :=
    [⟨0, [1, 2, 3], 0, by decide, by decide⟩,
      ⟨0, [4, 5], 0, by decide, by decide⟩]
  transactions := [⟨0, none⟩, ⟨0, some 5⟩]
  written := []

theorem forwards_of_polls_stumbling :
    listening.Forwards count counts stumbling [10, 20, 30] := by
  refine forwards_of_polls (fun _ _ => trivial) rfl ?_ (by decide) [10, 20, 30]
  intro cargo member
  apply listening_connected
  rcases List.mem_pair.mp member with rfl | rfl <;> rfl

end Shtp
end Skatebot
