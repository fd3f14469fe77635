import Skatebot.Imu.Advertisement
import Skatebot.Imu.LossyLink

/-!
# The listeners of the sensor hub

`sh2.c` listens to the channels that the hub announces.  On the input channels
come batches: a reference in time, and the reports of sensors, each with a delay
against the reference.  The length of a report is known by its identifier, from
the advertisement.
-/

namespace Skatebot

open Library LittleEndian Shtp

/-- `sh2_SensorEvent_t`; its `len` is the length of the report. -/
structure SensorEvent where
  timestamp : BitVec 64
  reportId : BitVec 8
  report : List (BitVec 8)
  deriving DecidableEq

/-- `sh2_ProductId_t`, less the reserved bytes. -/
structure ProductId where
  resetCause : BitVec 8
  swVersionMajor : BitVec 8
  swVersionMinor : BitVec 8
  swPartNumber : BitVec 32
  swBuildNumber : BitVec 32
  swVersionPatch : BitVec 16
  deriving DecidableEq

/-- `opData.getProdIds`, of the one operation of the driver that waits for an
answer. -/
structure GetProdIds where
  nextEntry : Nat
  expectedEntries : Nat
  deriving DecidableEq

/-- The callbacks of `sh2_open` and of `shtp_open` for channels. -/
inductive ChanCallback
  | shtpCmdListener
  | sensorhubControlHdlr
  | sensorhubInputNormalHdlr
  | sensorhubInputWakeHdlr
  | sensorhubInputGyroRvHdlr
  | executableDeviceHdlr
  deriving DecidableEq

/-- The callbacks of `sh2_open` and of `shtp_open` for advertisements. -/
inductive AppCallback
  | shtpAdvertHdlr
  | sensorhubAdvertHdlr
  | executableAdvertHdlr
  deriving DecidableEq

/-- `sh2_t`, with the static variables of `touSTimestamp`, and what the
callbacks of the driver point to. -/
structure Sh2 (Node : Type) where
  resetComplete : Bool
  advertDone : Bool
  executableChan : BitVec 8
  controlChan : BitVec 8
  version : List (BitVec 8)
  /-- The identifiers and lengths of the reports. -/
  report : List (BitVec 8 × BitVec 8)
  pOp : Option GetProdIds
  opStatus : Sh2Status
  prodIds : List ProductId
  numEntries : Nat
  /-- Whether the sensor callback is set. -/
  sensorCallback : Bool
  /-- `reset_occurred_` of the driver, which the event callback sets. -/
  resetOccurred : Bool
  execBadPayload : BitVec 32
  emptyPayloads : BitVec 32
  unknownReportIds : BitVec 32
  lastHostInt : BitVec 32
  rollovers : BitVec 32
  /-- What the sensor callback works on. -/
  node : Node

/-- The transport under `sh2.c`. -/
abbrev HubTransport (Node : Type) := Shtp ChanCallback AppCallback (Sh2 Node)

/-- `SH2_MAX_REPORT_IDS`. -/
def sh2MaxReportIds : Nat := 64

/-- `SH2_MAX_SENSOR_EVENT_LEN`. -/
def sh2MaxSensorEventLen : Nat := 16

/-- `SENSORHUB_BASE_TIMESTAMP_REF`. -/
def baseTimestampRef : BitVec 8 := 0xFB

/-- `SENSORHUB_TIMESTAMP_REBASE`. -/
def timestampRebase : BitVec 8 := 0xFA

/-- `SENSORHUB_FLUSH_COMPLETED`. -/
def flushCompleted : BitVec 8 := 0xEF

/-- `SH2_GYRO_INTEGRATED_RV`. -/
def gyroIntegratedRv : BitVec 8 := 0x2A

namespace Sh2

variable {Node : Type}

/-! ## Advertisements -/

/-- The first so many pairs of a value. -/
def pairs : Nat → List (BitVec 8) → Option (List (BitVec 8 × BitVec 8))
  | 0, _ => some []
  | count + 1, id :: len :: rest =>
      (pairs count rest).map fun others => (id, len) :: others
  | _ + 1, _ => none

/-- `"inputNormal"`. -/
def inputNormalName : List (BitVec 8) :=
  [0x69, 0x6e, 0x70, 0x75, 0x74, 0x4e, 0x6f, 0x72, 0x6d, 0x61, 0x6c]

/-- `"inputWake"`. -/
def inputWakeName : List (BitVec 8) :=
  [0x69, 0x6e, 0x70, 0x75, 0x74, 0x57, 0x61, 0x6b, 0x65]

/-- `"inputGyroRv"`. -/
def inputGyroRvName : List (BitVec 8) :=
  [0x69, 0x6e, 0x70, 0x75, 0x74, 0x47, 0x79, 0x72, 0x6f, 0x52, 0x76]

/-- `"executable"`. -/
def executableName : List (BitVec 8) :=
  [0x65, 0x78, 0x65, 0x63, 0x75, 0x74, 0x61, 0x62, 0x6c, 0x65]

/-- `"device"`. -/
def deviceName : List (BitVec 8) := [0x64, 0x65, 0x76, 0x69, 0x63, 0x65]

/-- `"sensorhub"`. -/
def sensorhubName : List (BitVec 8) :=
  [0x73, 0x65, 0x6e, 0x73, 0x6f, 0x72, 0x68, 0x75, 0x62]

/-- `"control"`. -/
def controlName : List (BitVec 8) :=
  [0x63, 0x6f, 0x6e, 0x74, 0x72, 0x6f, 0x6c]

/-- `shtpAdvertHdlr`. -/
def shtpAdvertHdlr (tag : BitVec 8) (val : List (BitVec 8))
    (shtp : HubTransport Node) : Option (HubTransport Node) :=
  if tag = 0x80 then -- TAG_SHTP_VERSION
    (strcpy val.length val).map fun text =>
      if text.length < 8 then { shtp with shtpVersion := text } else shtp
  else some shtp

/-- `sensorhubAdvertHdlr`. -/
def sensorhubAdvertHdlr (tag : BitVec 8) (len : Nat) (value : List (BitVec 8))
    (shtp : HubTransport Node) : Option (HubTransport Node) :=
  if tag = 0x80 then -- TAG_SH2_VERSION
    (strcpy 17 value).map fun text =>
      { shtp with owner := { shtp.owner with version := text } }
  else if tag = 0x81 then -- TAG_SH2_REPORT_LENGTHS
    (pairs (min (len / 2) sh2MaxReportIds) value).map fun reports =>
      { shtp with
        owner := { shtp.owner with
          report := reports ++ shtp.owner.report.drop reports.length } }
  else if tag = 0 then
    some { shtp with
      owner := { shtp.owner with
        executableChan := shtp.chanNo executableName deviceName
        controlChan := shtp.chanNo sensorhubName controlName
        advertDone := true } }
  else some shtp

/-- The listeners of the apps. -/
def advertCall : AdvertCall ChanCallback AppCallback (Sh2 Node) :=
  fun callback tag len val shtp =>
    match callback with
    | .shtpAdvertHdlr => shtpAdvertHdlr tag val shtp
    | .sensorhubAdvertHdlr => sensorhubAdvertHdlr tag len val shtp
    | .executableAdvertHdlr => some shtp

/-! ## Reports -/

/-- `getReportLen`. -/
def getReportLen (sh2 : Sh2 Node) (reportId : BitVec 8) : Nat :=
  match sh2.report.find? fun entry => entry.1 = reportId with
  | some entry => entry.2.toNat
  | none => 0

/-- The part of `getProdIdRx` that stores a product identifier, if it can.  It
has no result when it reads outside. -/
def storeProdId (sh2 : Sh2 Node) (op : GetProdIds)
    (payload : List (BitVec 8)) : Option (GetProdIds × Sh2 Node) :=
  if op.nextEntry < op.expectedEntries then
    if 16 ≤ payload.length then
      let partNumber : BitVec 32 := field 4 payload 4
      some
        ({ op with
            nextEntry := op.nextEntry + 1
            expectedEntries :=
              if partNumber = 10004095 then 5 else op.expectedEntries },
          { sh2 with
            prodIds := sh2.prodIds ++
              [ProductId.mk (field 1 payload 1) (field 1 payload 2)
                (field 1 payload 3) partNumber (field 4 payload 8)
                (field 2 payload 12)] })
    else none
  else some (op, sh2)

/-- `opRx`, with `getProdIdRx`. -/
def opRx (sh2 : Sh2 Node) (payload : List (BitVec 8)) : Option (Sh2 Node) :=
  match sh2.pOp with
  | none => some sh2
  | some op =>
      if payload.head? ≠ some 0xF8 then some sh2 -- SENSORHUB_PROD_ID_RESP
      else
        (sh2.storeProdId op payload).map fun (op, sh2) =>
          if op.nextEntry ≥ op.expectedEntries then
            { sh2 with
              numEntries := op.nextEntry
              opStatus := .ok
              pOp := none }
          else { sh2 with pOp := some op }

/-- The clock part of `touSTimestamp`: how often the host's counter rolled
over. -/
def tick (sh2 : Sh2 Node) (hostInt : BitVec 32) : Sh2 Node :=
  { sh2 with
    rollovers :=
      if hostInt.toNat < sh2.lastHostInt.toNat then sh2.rollovers + 1
      else sh2.rollovers
    lastHostInt := hostInt }

/-- `touSTimestamp`, after its clock part.  It has no result when the number it
multiplies by a hundred overflows. -/
def touSTimestamp (sh2 : Sh2 Node) (hostInt referenceDelta : BitVec 32)
    (delay : BitVec 16) : Option (BitVec 64) :=
  let age := (referenceDelta.toInt + delay.toNat) * 100
  if -2 ^ 31 ≤ age ∧ age < 2 ^ 31 then
    some (sh2.rollovers.setWidth 64 <<< 32 +
      (hostInt + BitVec.ofInt 32 age).setWidth 64)
  else none

/-- The delay of a report, in its third and fourth byte. -/
def reportDelay (pReport : List (BitVec 8)) : BitVec 16 :=
  ((field 1 pReport 2 &&& 0xFC).setWidth 16 <<< 6) +
    (field 1 pReport 3).setWidth 16

/-- Call the sensor callback if there is one. -/
def offer (sensorEvent : SensorEvent → Node → Option Node) (sh2 : Sh2 Node)
    (event : SensorEvent) : Option (Sh2 Node) :=
  if sh2.sensorCallback then
    (sensorEvent event sh2.node).map fun node => { sh2 with node := node }
  else some sh2

/-- What `sensorhubInputHdlr` does with one report, given the bytes from it on.
It has no result when it reads or writes outside. -/
def inputReport (sensorEvent : SensorEvent → Node → Option Node)
    (sh2 : Sh2 Node) (rest : List (BitVec 8)) (reportId : BitVec 8)
    (reportLen : Nat) (timestamp referenceDelta : BitVec 32) :
    Option (BitVec 32 × Sh2 Node) :=
  if reportId = baseTimestampRef then
    if 5 ≤ rest.length then some (-(field 4 rest 1), sh2) else none
  else if reportId = timestampRebase then
    if 5 ≤ rest.length then some (referenceDelta + field 4 rest 1, sh2)
    else none
  else if reportId = flushCompleted then
    (sh2.opRx rest).map fun sh2 => (referenceDelta, sh2)
  else if 4 ≤ rest.length ∧ reportLen ≤ rest.length ∧
      reportLen ≤ sh2MaxSensorEventLen then
    let sh2 := sh2.tick timestamp
    (sh2.touSTimestamp timestamp referenceDelta (reportDelay rest)).bind
      fun stamp =>
        (sh2.offer sensorEvent ⟨stamp, reportId, rest.take reportLen⟩).map
          fun sh2 => (referenceDelta, sh2)
  else none

/-- The loop of `sensorhubInputHdlr`. -/
def inputLoop (sensorEvent : SensorEvent → Node → Option Node)
    (payload : List (BitVec 8)) (len : Nat) (timestamp : BitVec 32)
    (cursor : Nat) (referenceDelta : BitVec 32) (sh2 : Sh2 Node) :
    Option (Sh2 Node) :=
  if cursor < len then
    match payload[cursor]? with
    | none => none
    | some reportId =>
        if _known : 0 < sh2.getReportLen reportId then
          (sh2.inputReport sensorEvent (payload.drop cursor) reportId
            (sh2.getReportLen reportId) timestamp referenceDelta).bind
              fun (referenceDelta, next) =>
                inputLoop sensorEvent payload len timestamp
                  (cursor + sh2.getReportLen reportId) referenceDelta next
        else
          some { sh2 with unknownReportIds := sh2.unknownReportIds + 1 }
  else some sh2
termination_by len - cursor

/-- `sensorhubInputHdlr`. -/
def sensorhubInputHdlr (sensorEvent : SensorEvent → Node → Option Node)
    (payload : Buffer (BitVec 8) sh2HalMaxPayloadIn) (len : Nat)
    (timestamp : BitVec 32) (sh2 : Sh2 Node) : Option (Sh2 Node) :=
  inputLoop sensorEvent payload.values len timestamp 0 0 sh2

/-- The loop of `sensorhubInputGyroRvHdlr`.  It has no result when it does not
end: when the length of the report is not known. -/
def gyroLoop (sensorEvent : SensorEvent → Node → Option Node)
    (payload : List (BitVec 8)) (len : Nat) (timestamp : BitVec 32)
    (reportLen cursor : Nat) (sh2 : Sh2 Node) : Option (Sh2 Node) :=
  if cursor < len then
    if _known : 0 < reportLen then
      if cursor + reportLen ≤ payload.length ∧
          reportLen ≤ sh2MaxSensorEventLen then
        (sh2.offer sensorEvent ⟨timestamp.setWidth 64, gyroIntegratedRv,
          (payload.drop cursor).take reportLen⟩).bind fun next =>
            gyroLoop sensorEvent payload len timestamp reportLen
              (cursor + reportLen) next
      else none
    else none
  else some sh2
termination_by len - cursor

/-- `sensorhubInputGyroRvHdlr`. -/
def sensorhubInputGyroRvHdlr (sensorEvent : SensorEvent → Node → Option Node)
    (payload : Buffer (BitVec 8) sh2HalMaxPayloadIn) (len : Nat)
    (timestamp : BitVec 32) (sh2 : Sh2 Node) : Option (Sh2 Node) :=
  gyroLoop sensorEvent payload.values len timestamp
    (sh2.getReportLen gyroIntegratedRv) 0 sh2

/-- How many bytes of a report `sensorhubControlHdlr` reads itself. -/
def controlReads (reportId : BitVec 8) (rest : List (BitVec 8)) : Nat :=
  if reportId = 0xF1 then -- SENSORHUB_COMMAND_RESP
    -- SH2_CMD_INITIALIZE | SH2_INIT_UNSOLICITED
    if rest[2]? = some 0x84 then 7 else 3
  else if reportId = 0xFC then 17 -- SENSORHUB_GET_FEATURE_RESP
  else 1

/-- The loop of `sensorhubControlHdlr`.  What it reports by the event callback
of the driver has no effect there. -/
def controlLoop (payload : List (BitVec 8)) (len cursor : Nat)
    (sh2 : Sh2 Node) : Option (Sh2 Node) :=
  if cursor < len then
    match payload[cursor]? with
    | none => none
    | some reportId =>
        if _known : 0 < sh2.getReportLen reportId then
          let rest := payload.drop cursor
          if controlReads reportId rest ≤ rest.length then
            (sh2.opRx rest).bind fun next =>
              controlLoop payload len (cursor + sh2.getReportLen reportId) next
          else none
        else
          some { sh2 with unknownReportIds := sh2.unknownReportIds + 1 }
  else some sh2
termination_by len - cursor

/-- `sensorhubControlHdlr`. -/
def sensorhubControlHdlr (payload : Buffer (BitVec 8) sh2HalMaxPayloadIn)
    (len : Nat) (sh2 : Sh2 Node) : Option (Sh2 Node) :=
  if len = 0 then some { sh2 with emptyPayloads := sh2.emptyPayloads + 1 }
  else controlLoop payload.values len 0 sh2

/-- `executableDeviceHdlr`, with the event callback of the driver. -/
def executableDeviceHdlr (payload : Buffer (BitVec 8) sh2HalMaxPayloadIn)
    (len : Nat) (sh2 : Sh2 Node) : Sh2 Node :=
  if len = 1 ∧ payload.values.head? = some 1 then
    { sh2 with
      resetComplete := true
      resetOccurred := true }
  else { sh2 with execBadPayload := sh2.execBadPayload + 1 }

/-- The listeners of the channels. -/
def call (sensorEvent : SensorEvent → Node → Option Node) :
    Call ChanCallback AppCallback (Sh2 Node) :=
  fun callback payload len timestamp shtp =>
    match callback with
    | .shtpCmdListener => shtp.shtpCmdListener advertCall payload len
    | .sensorhubControlHdlr =>
        (shtp.owner.sensorhubControlHdlr payload len).map fun sh2 =>
          { shtp with owner := sh2 }
    | .sensorhubInputNormalHdlr | .sensorhubInputWakeHdlr =>
        (shtp.owner.sensorhubInputHdlr sensorEvent payload len timestamp).map
          fun sh2 => { shtp with owner := sh2 }
    | .sensorhubInputGyroRvHdlr =>
        (shtp.owner.sensorhubInputGyroRvHdlr sensorEvent payload len
          timestamp).map fun sh2 => { shtp with owner := sh2 }
    | .executableDeviceHdlr =>
        some { shtp with owner := shtp.owner.executableDeviceHdlr payload len }

/-! ## Opening -/

/-- `GUID_EXECUTABLE` and `GUID_SENSORHUB`. -/
def guidExecutable : BitVec 16 := 1

def guidSensorhub : BitVec 16 := 2

/-- The structure after `memset`.  The static variables of `touSTimestamp`
outlive it, and so does what belongs to the driver. -/
def reset (sh2 : Sh2 Node) : Sh2 Node :=
  { sh2 with
    resetComplete := false
    advertDone := false
    executableChan := 0
    controlChan := 0xFF
    version := []
    report := []
    pOp := none
    opStatus := .ok
    sensorCallback := false
    execBadPayload := 0
    emptyPayloads := 0
    unknownReportIds := 0 }

/-- `sh2_open`, up to the loop that waits for the reset. -/
def sh2Open (sh2 : Sh2 Node) : HubTransport Node :=
  let shtp := shtpOpen .shtpAdvertHdlr .shtpCmdListener sh2.reset
  let shtp := shtp.setEventCallback
  let shtp := shtp.listenAdvert guidSensorhub .sensorhubAdvertHdlr
  let shtp := (shtp.listenChan guidSensorhub controlName
    .sensorhubControlHdlr).2
  let shtp := (shtp.listenChan guidSensorhub inputNormalName
    .sensorhubInputNormalHdlr).2
  let shtp := (shtp.listenChan guidSensorhub inputWakeName
    .sensorhubInputWakeHdlr).2
  let shtp := (shtp.listenChan guidSensorhub inputGyroRvName
    .sensorhubInputGyroRvHdlr).2
  let shtp := shtp.listenAdvert guidExecutable .executableAdvertHdlr
  (shtp.listenChan guidExecutable deviceName .executableDeviceHdlr).2

/-- The listeners of the channels, from the opening on. -/
def hubListeners : List (ShtpChanListener ChanCallback) :=
  [⟨0, commandName, .shtpCmdListener⟩,
    ⟨guidSensorhub, controlName, .sensorhubControlHdlr⟩,
    ⟨guidSensorhub, inputNormalName, .sensorhubInputNormalHdlr⟩,
    ⟨guidSensorhub, inputWakeName, .sensorhubInputWakeHdlr⟩,
    ⟨guidSensorhub, inputGyroRvName, .sensorhubInputGyroRvHdlr⟩,
    ⟨guidExecutable, deviceName, .executableDeviceHdlr⟩]

/-! ## The tables over a run -/

theorem advertAside : AdvertAside (@advertCall Node) := by
  intro callback tag len val shtp next called
  cases callback with
  | shtpAdvertHdlr =>
      simp only [advertCall, shtpAdvertHdlr] at called
      split at called
      next =>
        obtain ⟨text, -, rfl⟩ := Option.map_eq_some_iff.mp called
        split <;> exact ⟨rfl, rfl, rfl, rfl⟩
      next =>
        obtain rfl := Option.some_inj.mp called
        exact ⟨rfl, rfl, rfl, rfl⟩
  | sensorhubAdvertHdlr =>
      simp only [advertCall, sensorhubAdvertHdlr] at called
      split at called
      next =>
        obtain ⟨text, -, rfl⟩ := Option.map_eq_some_iff.mp called
        exact ⟨rfl, rfl, rfl, rfl⟩
      next =>
        split at called
        next =>
          obtain ⟨reports, -, rfl⟩ := Option.map_eq_some_iff.mp called
          exact ⟨rfl, rfl, rfl, rfl⟩
        next =>
          split at called
          all_goals
            obtain rfl := Option.some_inj.mp called
            exact ⟨rfl, rfl, rfl, rfl⟩
  | executableAdvertHdlr =>
      obtain rfl := Option.some_inj.mp called
      exact ⟨rfl, rfl, rfl, rfl⟩

/-- A listener keeps the listeners, whatever it is called with. -/
theorem call_keepsListeners
    (sensorEvent : SensorEvent → Node → Option Node)
    (callback : ChanCallback)
    (payload : Buffer (BitVec 8) sh2HalMaxPayloadIn)
    (len : Nat)
    (timestamp : BitVec 32)
    (shtp next : HubTransport Node)
    (called : call sensorEvent callback payload len timestamp shtp =
      some next) :
    shtp.KeepsListeners next := by
  cases callback with
  | shtpCmdListener =>
      exact (shtpCmdListener_keepsReceiving advertAside called).toKeepsListeners
  | executableDeviceHdlr =>
      obtain rfl := Option.some_inj.mp called
      exact ⟨rfl, id⟩
  | sensorhubControlHdlr | sensorhubInputNormalHdlr | sensorhubInputWakeHdlr
  | sensorhubInputGyroRvHdlr =>
      obtain ⟨sh2, -, rfl⟩ := Option.map_eq_some_iff.mp called
      exact ⟨rfl, id⟩

theorem receive_keepsListeners
    {sensorEvent : SensorEvent → Node → Option Node}
    {shtp final : HubTransport Node}
    {transfers : List Transfer}
    (received : shtp.receive (call sensorEvent) transfers = some final) :
    shtp.KeepsListeners final := by
  induction transfers generalizing shtp with
  | nil =>
      obtain rfl := Option.some_inj.mp received
      exact .refl shtp
  | cons transfer transfers inductionHypothesis =>
      obtain ⟨input, arrival⟩ := transfer
      cases arrival with
      | none => exact inductionHypothesis received
      | some t_us =>
          obtain ⟨middle, assembled, rest⟩ :=
            Option.bind_eq_some_iff.mp received
          have first := rxAssemble_keepsListeners
            (call_keepsListeners sensorEvent) assembled
          exact first.trans (inductionHypothesis rest)

theorem associated_sh2Open (sh2 : Sh2 Node) :
    (sh2Open sh2).Associated := by
  have opened := associated_setEventCallback (associated_shtpOpen
    AppCallback.shtpAdvertHdlr ChanCallback.shtpCmdListener sh2.reset)
  have control := associated_listenChan
    (associated_listenAdvert opened guidSensorhub .sensorhubAdvertHdlr)
    guidSensorhub controlName .sensorhubControlHdlr
  have normal := associated_listenChan control guidSensorhub inputNormalName
    .sensorhubInputNormalHdlr
  have wake := associated_listenChan normal guidSensorhub inputWakeName
    .sensorhubInputWakeHdlr
  have gyro := associated_listenChan wake guidSensorhub inputGyroRvName
    .sensorhubInputGyroRvHdlr
  have device := associated_listenChan
    (associated_listenAdvert gyro guidExecutable .executableAdvertHdlr)
    guidExecutable deviceName .executableDeviceHdlr
  rw [sh2Open]
  exact device

theorem chanListener_sh2Open (sh2 : Sh2 Node) :
    (sh2Open sh2).chanListener = hubListeners := by
  have opened := chanListener_setEventCallback (chanListener_shtpOpen
    AppCallback.shtpAdvertHdlr ChanCallback.shtpCmdListener sh2.reset)
  have control := chanListener_listenChan
    (chanListener_listenAdvert opened guidSensorhub .sensorhubAdvertHdlr)
    (by decide) guidSensorhub (by decide : controlName ≠ [])
    .sensorhubControlHdlr
  have normal := chanListener_listenChan control (by decide) guidSensorhub
    (by decide : inputNormalName ≠ []) .sensorhubInputNormalHdlr
  have wake := chanListener_listenChan normal (by decide) guidSensorhub
    (by decide : inputWakeName ≠ []) .sensorhubInputWakeHdlr
  have gyro := chanListener_listenChan wake (by decide) guidSensorhub
    (by decide : inputGyroRvName ≠ []) .sensorhubInputGyroRvHdlr
  have device := chanListener_listenChan
    (chanListener_listenAdvert gyro guidExecutable .executableAdvertHdlr)
    (by decide) guidExecutable (by decide : deviceName ≠ [])
    .executableDeviceHdlr
  rw [sh2Open, device]
  rfl

theorem exists_pairs
    {count : Nat}
    {bytes : List (BitVec 8)}
    (enough : 2 * count ≤ bytes.length) :
    ∃ reports, pairs count bytes = some reports := by
  induction count generalizing bytes with
  | zero => exact ⟨[], rfl⟩
  | succ count inductionHypothesis =>
      match bytes with
      | [] | [_] =>
          simp only [List.length_cons, List.length_nil] at enough
          omega
      | id :: len :: rest =>
          obtain ⟨others, found⟩ : ∃ others, pairs count rest = some others :=
            inductionHypothesis (by
              simp only [List.length_cons] at enough
              omega)
          exact ⟨(id, len) :: others, by rw [pairs, found]; rfl⟩

/-- A version ends before its place does. -/
def Terminated (version : List (BitVec 8)) : Prop :=
  (version.takeWhile (· ≠ 0)).length < min version.length 17

instance (version : List (BitVec 8)) : Decidable (Terminated version) :=
  inferInstanceAs (Decidable (_ < _))

theorem exists_strcpy
    {version : List (BitVec 8)}
    (terminated : Terminated version)
    (later : List (BitVec 8))
    {size : Nat}
    (room : 17 ≤ size ∨ size = (version ++ later).length) :
    ∃ text, strcpy size (version ++ later) = some text := by
  unfold Terminated at terminated
  have inside : (version ++ later).takeWhile (· ≠ 0) =
      version.takeWhile (· ≠ 0) := by
    rw [List.takeWhile_append, if_neg (by omega)]
  refine ⟨version.takeWhile (· ≠ 0), ?_⟩
  unfold strcpy
  simp only [inside]
  rw [if_pos]
  rw [List.length_append] at room ⊢
  omega

/-- The listeners of the apps take every tag but a version that does not end. -/
theorem handles_advertCall
    {tag : BitVec 8}
    {value : List (BitVec 8)}
    (terminated : tag = 0x80 → Terminated value) :
    Handles (@advertCall Node) tag value := by
  intro callback later shtp
  cases callback with
  | shtpAdvertHdlr =>
      simp only [advertCall, shtpAdvertHdlr]
      split
      next version =>
        obtain ⟨text, copied⟩ :=
          exists_strcpy (terminated version) later (.inr rfl)
        rw [copied]
        refine ⟨_, rfl, ?_⟩
        dsimp only
        split <;> exact ⟨rfl, rfl, rfl, rfl⟩
      next => exact ⟨shtp, rfl, rfl, rfl, rfl, rfl⟩
  | sensorhubAdvertHdlr =>
      simp only [advertCall, sensorhubAdvertHdlr]
      split
      next version =>
        obtain ⟨text, copied⟩ :=
          exists_strcpy (terminated version) later (.inl le_rfl)
        rw [copied]
        exact ⟨_, rfl, rfl, rfl, rfl, rfl⟩
      next =>
        split
        next =>
          have enough : 2 * min (value.length / 2) sh2MaxReportIds ≤
              (value ++ later).length := by
            rw [List.length_append]
            omega
          obtain ⟨reports, found⟩ := exists_pairs enough
          rw [found]
          exact ⟨_, rfl, rfl, rfl, rfl, rfl⟩
        next => split <;> exact ⟨_, rfl, rfl, rfl, rfl, rfl⟩
  | executableAdvertHdlr => exact ⟨shtp, rfl, rfl, rfl, rfl, rfl⟩

theorem entry_sh2Open (sh2 : Sh2 Node) :
    (sh2Open sh2).entry 0 = ⟨0, commandName, false⟩ := by
  rw [sh2Open]
  simp only [entry_listenChan, entry_listenAdvert, entry_setEventCallback,
    entry_shtpOpen]

theorem inRemaining_sh2Open (sh2 : Sh2 Node) :
    (sh2Open sh2).inRemaining = 0 := by
  rw [sh2Open]
  simp only [inRemaining_listenChan, inRemaining_listenAdvert,
    inRemaining_setEventCallback, inRemaining_shtpOpen]

/-- The transfer of an advertisement. -/
def advertTransfer (tags : List AdvertTag) (seq : BitVec 8) : List (BitVec 8) :=
  transferHeader ((0 :: tags.flatMap AdvertTag.bytes).length + shtpHdrLen) false
    (BitVec.ofNat 8 (0 : Fin sh2MaxChans)) seq ++
      0 :: tags.flatMap AdvertTag.bytes

/-- An advertisement in one transfer connects the channels that it announces
with the listeners of the driver. -/
theorem rxAssemble_advertTransfer
    (sensorEvent : SensorEvent → Node → Option Node)
    {shtp : HubTransport Node}
    (idle : shtp.inRemaining = 0)
    (associated : shtp.Associated)
    (listeners : shtp.chanListener = hubListeners)
    (command : shtp.entry 0 = ⟨0, commandName, false⟩)
    {tags : List AdvertTag}
    (terminated : ∀ tag ∈ tags, tag.tag = 0x80 → Terminated tag.value)
    (fits : (0 :: tags.flatMap AdvertTag.bytes).length + shtpHdrLen ≤
      sh2HalMaxPayloadIn)
    (seq : BitVec 8)
    (t_us : BitVec 32) :
    ∃ final,
      shtp.rxAssemble (call sensorEvent) (advertTransfer tags seq) t_us =
        some final ∧
      final.inRemaining = 0 ∧ final.chanListener = hubListeners ∧
      ∀ chan,
        final.entry chan =
          (announced chan ⟨0, 0, false⟩ tags).getD (shtp.entry chan) ∧
        (final.chan chan).callback =
          if (final.entry chan).guid = 0xFFFFFFFF then none
          else lookup hubListeners (final.entry chan).guid
            (final.entry chan).chanName := by
  have listens : (shtp.chan 0).callback = some .shtpCmdListener := by
    have guid : (shtp.chan 0).guid = 0 := congrArg Announced.guid command
    have chanName : (shtp.chan 0).chanName = commandName :=
      congrArg Announced.chanName command
    rw [associated 0, guid, chanName, listeners]
    rfl
  have known : (0 : Fin sh2MaxChans).val < shtp.chanListener.length := by
    rw [listeners]
    decide
  obtain ⟨inPayload, stored, assembled⟩ :=
    rxAssemble_whole (call sensorEvent) idle known false seq fits t_us
  let handed : HubTransport Node := { shtp with
    inPayload := inPayload
    inCursor := (0 :: tags.flatMap AdvertTag.bytes).length
    inRemaining := 0
    inTimestamp := t_us
    inChan := 0
    delivered := shtp.delivered ++
      [⟨0, inPayload.values.take (0 :: tags.flatMap AdvertTag.bytes).length,
        t_us⟩] }
  have right : handed.Associated := associated
  obtain ⟨next, listened, connected⟩ := advertisement_connects advertAside
    (handles_advertCall fun version => nomatch version)
    (fun tag member => handles_advertCall (terminated tag member)) stored
    (Nat.le_of_add_right_le fits) right
  have keeps := shtpCmdListener_keepsReceiving advertAside listened
  refine ⟨next.expect 0 (seq + 1), ?_, keeps.inRemaining,
    keeps.chanListener.trans listeners, fun chan => ?_⟩
  · have delivers : { shtp with
        inPayload := inPayload
        inCursor := (0 :: tags.flatMap AdvertTag.bytes).length
        inRemaining := 0
        inTimestamp := t_us
        inChan := 0 }.deliver (call sensorEvent) 0 = some next := by
      rw [deliver]
      simp only [listens]
      exact listened
    rw [advertTransfer, assembled, delivers]
    rfl
  · obtain ⟨entry, callback⟩ := connected chan
    refine ⟨(entry_expect next 0 (seq + 1) chan).trans entry, ?_⟩
    obtain ⟨number, same⟩ := (next.kept_expect 0 (seq + 1)).chan chan
    rw [entry_expect, same, ← listeners]
    exact callback

/-- A driver at work that knows the lengths of some reports. -/
def working (node : Node) : Sh2 Node where
  resetComplete := true
  advertDone := true
  executableChan := 1
  controlChan := 2
  version := []
  report := [(baseTimestampRef, 5), (timestampRebase, 5), (1, 10), (2, 10),
    (3, 10), (5, 14)]
  pOp := none
  opStatus := .ok
  prodIds := []
  numEntries := 0
  sensorCallback := true
  resetOccurred := true
  execBadPayload := 0
  emptyPayloads := 0
  unknownReportIds := 0
  lastHostInt := 0
  rollovers := 0
  node := node

/-- `"inputNormal"`, announced on channel 3. -/
def inputAdvert : List AdvertTag :=
  [.guid 2, .channel false 3,
    .channelName ⟨inputNormalName, by decide, by decide⟩]

end Sh2
end Skatebot
