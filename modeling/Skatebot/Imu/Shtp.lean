import Skatebot.Library.Buffer
import Skatebot.Library.LittleEndian
import Mathlib.Logic.Function.Basic
import Mathlib.Tactic.Common

/-!
# The transport protocol of the sensor hub

`shtp.c` carries cargos in transfers.  A transfer begins with a header of four
bytes: how many bytes of the cargo are left, the header among them, whether the
transfer continues a cargo, the channel, and a sequence number of the channel.
`rxAssemble` puts the transfers of a cargo together and hands it to the
listener of its channel.
-/

namespace Skatebot

open Library

/-- `SHTP_HDR_LEN`. -/
def shtpHdrLen : Nat := 4

/-- `SH2_MAX_CHANS`. -/
def sh2MaxChans : Nat := 8

instance : NeZero sh2MaxChans := ⟨by decide⟩

/-- `SH2_HAL_MAX_PAYLOAD_IN`, the size of `inPayload`. -/
def sh2HalMaxPayloadIn : Nat := 384

/-- What `rxAssemble` calls the event callback with. -/
inductive ShtpEvent
  | shortFragment
  | tooLargePayloads
  | badRxChan
  deriving DecidableEq

/-- `advert_phase_t`. -/
inductive AdvertPhase
  | needed
  | requested
  | idle
  deriving DecidableEq

/-- `shtp_App_t`.  A string stands without the zero that ends it. -/
structure ShtpApp where
  guid : BitVec 32
  appName : List (BitVec 8)
  deriving DecidableEq

/-- `shtp_AppListener_t`.  A callback stands for itself and its cookie. -/
structure ShtpAppListener (AdvertCallback : Type) where
  guid : BitVec 16
  callback : AdvertCallback

/-- `shtp_ChanListener_t`. -/
structure ShtpChanListener (Callback : Type) where
  guid : BitVec 16
  chanName : List (BitVec 8)
  callback : Callback

/-- `shtp_Channel_t`. -/
structure ShtpChannel (Callback : Type) where
  nextOutSeq : BitVec 8
  nextInSeq : BitVec 8
  guid : BitVec 32
  chanName : List (BitVec 8)
  wake : Bool
  callback : Option Callback

/-- What a listener was called with. -/
structure Delivery where
  chan : Fin sh2MaxChans
  payload : List (BitVec 8)
  timestamp : BitVec 32
  deriving DecidableEq

/-- `shtp_t`, with what its listeners keep of their own.  An array and the
number of its entries in use are a list of these entries. -/
structure Shtp (Callback AdvertCallback Owner : Type) where
  /-- Whether `eventCallback` is set. -/
  eventCallback : Bool
  shtpVersion : List (BitVec 8)
  outMaxPayload : BitVec 16
  outMaxTransfer : BitVec 16
  inRemaining : Nat
  inChan : Fin sh2MaxChans
  inPayload : Buffer (BitVec 8) sh2HalMaxPayloadIn
  inCursor : Nat
  inTimestamp : BitVec 32
  advertPhase : AdvertPhase
  app : List ShtpApp
  appListener : List (ShtpAppListener AdvertCallback)
  chan : Fin sh2MaxChans → ShtpChannel Callback
  chanListener : List (ShtpChanListener Callback)
  txDiscards : BitVec 32
  shortFragments : BitVec 32
  tooLargePayloads : BitVec 32
  badRxChan : BitVec 32
  badTxChan : BitVec 32
  /-- What the cookies of the callbacks point to. -/
  owner : Owner
  /-- The events that were reported, the last one last. -/
  events : List ShtpEvent
  /-- What the listeners were called with, the last one last. -/
  delivered : List Delivery

/-- The header of a transfer. -/
def transferHeader (lenField : Nat) (continuation : Bool)
    (chan seq : BitVec 8) : List (BitVec 8) :=
  [BitVec.ofNat 8 lenField,
    BitVec.ofNat 8 (lenField / 256) ||| (if continuation then 0x80 else 0),
    chan, seq]

/-- What the listeners do with a payload: its buffer, its length and its time
stamp.  A listener that reads or writes outside its memory has no result. -/
abbrev Call (Callback AdvertCallback Owner : Type) :=
  Callback → Buffer (BitVec 8) sh2HalMaxPayloadIn → Nat → BitVec 32 →
    Shtp Callback AdvertCallback Owner →
      Option (Shtp Callback AdvertCallback Owner)

namespace Shtp

variable {Callback AdvertCallback Owner : Type}

/-- A transport after `memset`. -/
def cleared (owner : Owner) : Shtp Callback AdvertCallback Owner where
  eventCallback := false
  shtpVersion := []
  outMaxPayload := 0
  outMaxTransfer := 0
  inRemaining := 0
  inChan := 0
  inPayload := ⟨List.replicate sh2HalMaxPayloadIn 0, List.length_replicate⟩
  inCursor := 0
  inTimestamp := 0
  advertPhase := .needed
  app := []
  appListener := []
  chan := fun _ => ⟨0, 0, 0, [], false, none⟩
  chanListener := []
  txDiscards := 0
  shortFragments := 0
  tooLargePayloads := 0
  badRxChan := 0
  badTxChan := 0
  owner := owner
  events := []
  delivered := []

/-! ## Receiving -/

/-- Call the event callback if there is one. -/
def report (shtp : Shtp Callback AdvertCallback Owner) (event : ShtpEvent) :
    Shtp Callback AdvertCallback Owner :=
  if shtp.eventCallback then { shtp with events := shtp.events ++ [event] }
  else shtp

/-- Call the channel's callback if there is one. -/
def deliver (call : Call Callback AdvertCallback Owner)
    (shtp : Shtp Callback AdvertCallback Owner) (chan : Fin sh2MaxChans) :
    Option (Shtp Callback AdvertCallback Owner) :=
  match (shtp.chan chan).callback with
  | none => some shtp
  | some callback =>
      call callback shtp.inPayload shtp.inCursor shtp.inTimestamp
        { shtp with
          delivered := shtp.delivered ++
            [⟨chan, shtp.inPayload.values.take shtp.inCursor,
              shtp.inTimestamp⟩] }

/-- Remember the next sequence number that is expected of a channel. -/
def expect (shtp : Shtp Callback AdvertCallback Owner)
    (chan : Fin sh2MaxChans) (seq : BitVec 8) :
    Shtp Callback AdvertCallback Owner :=
  { shtp with
    chan := Function.update shtp.chan chan
      { shtp.chan chan with nextInSeq := seq } }

/-- The part of `rxAssemble` that appends a fragment to the payload under
construction.  It has no result when the payload's buffer overflows. -/
def append (call : Call Callback AdvertCallback Owner)
    (shtp : Shtp Callback AdvertCallback Owner) (payloadLen : Nat)
    (chan : Fin sh2MaxChans) (seq : BitVec 8) (fragment : List (BitVec 8)) :
    Option (Shtp Callback AdvertCallback Owner) :=
  let valid := fragment.take (payloadLen - shtpHdrLen)
  (shtp.inPayload.write shtp.inCursor valid).bind fun inPayload =>
    let shtp := { shtp with
      inPayload := inPayload
      inCursor := shtp.inCursor + valid.length
      inRemaining := payloadLen - (valid.length + shtpHdrLen) }
    (if shtp.inRemaining = 0 then shtp.deliver call chan else some shtp).map
      fun shtp : Shtp Callback AdvertCallback Owner =>
        shtp.expect chan (seq + 1)

/-- Whether a fragment fits the assembly in progress. -/
def Fits (shtp : Shtp Callback AdvertCallback Owner) (continuation : Bool)
    (chan : Fin sh2MaxChans) (seq : BitVec 8) : Prop :=
  continuation = true ∧ chan = shtp.inChan ∧ seq = (shtp.chan chan).nextInSeq

instance (shtp : Shtp Callback AdvertCallback Owner) (continuation : Bool)
    (chan : Fin sh2MaxChans) (seq : BitVec 8) :
    Decidable (shtp.Fits continuation chan seq) :=
  inferInstanceAs (Decidable (_ ∧ _ ∧ _))

/-- The part of `rxAssemble` behind the checks of the header. -/
def assemble (call : Call Callback AdvertCallback Owner)
    (shtp : Shtp Callback AdvertCallback Owner) (payloadLen : Nat)
    (continuation : Bool) (chan : Fin sh2MaxChans) (seq : BitVec 8)
    (fragment : List (BitVec 8)) (t_us : BitVec 32) :
    Option (Shtp Callback AdvertCallback Owner) :=
  -- Discard an earlier assembly that the fragment does not fit.
  let shtp :=
    if shtp.inRemaining ≠ 0 ∧ ¬shtp.Fits continuation chan seq then
      { shtp with inRemaining := 0 }
    else shtp
  if shtp.inRemaining = 0 then
    if payloadLen > sh2HalMaxPayloadIn then
      some ({ shtp with tooLargePayloads := shtp.tooLargePayloads + 1 }.report
        .tooLargePayloads)
    else
      { shtp with
        inTimestamp := t_us
        inCursor := 0
        inChan := chan }.append call payloadLen chan seq fragment
  else shtp.append call payloadLen chan seq fragment

/-- `rxAssemble`. -/
def rxAssemble (call : Call Callback AdvertCallback Owner)
    (shtp : Shtp Callback AdvertCallback Owner) (input : List (BitVec 8))
    (t_us : BitVec 32) : Option (Shtp Callback AdvertCallback Owner) :=
  match input with
  | in0 :: in1 :: in2 :: seq :: fragment =>
      let payloadLen := (in0.toNat + in1.toNat * 256) % 0x8000
      let continuation := in1 &&& 0x80 ≠ 0
      if payloadLen < shtpHdrLen then
        some ({ shtp with shortFragments := shtp.shortFragments + 1 }.report
          .shortFragment)
      else if within : in2.toNat < sh2MaxChans then
        if in2.toNat < shtp.chanListener.length then
          shtp.assemble call payloadLen continuation ⟨in2.toNat, within⟩ seq
            fragment t_us
        else
          some ({ shtp with badRxChan := shtp.badRxChan + 1 }.report .badRxChan)
      else
        some ({ shtp with badRxChan := shtp.badRxChan + 1 }.report .badRxChan)
  | _ => some { shtp with shortFragments := shtp.shortFragments + 1 }

/-! ## What a transfer does -/

/-- The second byte of a header keeps the length and the continuation bit
apart. -/
theorem second_byte
    (high : Nat)
    (small : high < 0x80)
    (continuation : Bool) :
    (BitVec.ofNat 8 high ||| if continuation then 0x80 else 0).toNat =
        high + (if continuation then 0x80 else 0) ∧
      ((BitVec.ofNat 8 high ||| if continuation then 0x80 else 0) &&& 0x80 ≠ 0 ↔
        continuation = true) := by
  revert high
  cases continuation <;> decide

/-- The header of a transfer is read as it was made. -/
theorem rxAssemble_transfer
    (call : Call Callback AdvertCallback Owner)
    (shtp : Shtp Callback AdvertCallback Owner)
    {lenField : Nat}
    (enough : shtpHdrLen ≤ lenField)
    (small : lenField < 0x8000)
    (continuation : Bool)
    {chan : Fin sh2MaxChans}
    (known : chan.val < shtp.chanListener.length)
    (seq : BitVec 8)
    (fragment : List (BitVec 8))
    (t_us : BitVec 32) :
    shtp.rxAssemble call
        (transferHeader lenField continuation (BitVec.ofNat 8 chan) seq ++
          fragment) t_us =
      shtp.assemble call lenField continuation chan seq fragment t_us := by
  obtain ⟨number, flag⟩ := second_byte (lenField / 256) (by omega) continuation
  have payloadLen : ((BitVec.ofNat 8 lenField).toNat +
      (BitVec.ofNat 8 (lenField / 256) |||
        if continuation then 0x80 else 0).toNat * 256) % 0x8000 = lenField := by
    rw [number, BitVec.toNat_ofNat]
    split <;> omega
  have channel : (BitVec.ofNat 8 chan.val).toNat = chan.val := by
    have bound := chan.isLt
    rw [BitVec.toNat_ofNat, Nat.mod_eq_of_lt]
    unfold sh2MaxChans at bound
    omega
  have within : (BitVec.ofNat 8 chan.val).toNat < sh2MaxChans := by
    rw [channel]
    exact chan.isLt
  simp only [rxAssemble, transferHeader, List.cons_append, List.nil_append,
    payloadLen, flag]
  rw [if_neg (by omega), dif_pos within, if_pos (by rwa [channel])]
  simp only [channel, Bool.decide_eq_true]

/-- A fragment that does not fit what is assembled begins anew. -/
theorem assemble_begin
    (call : Call Callback AdvertCallback Owner)
    (shtp : Shtp Callback AdvertCallback Owner)
    {payloadLen : Nat}
    (small : payloadLen ≤ sh2HalMaxPayloadIn)
    {continuation : Bool}
    {chan : Fin sh2MaxChans}
    {seq : BitVec 8}
    (begins : shtp.inRemaining = 0 ∨ ¬shtp.Fits continuation chan seq)
    (fragment : List (BitVec 8))
    (t_us : BitVec 32) :
    shtp.assemble call payloadLen continuation chan seq fragment t_us =
      { shtp with
        inRemaining := 0
        inTimestamp := t_us
        inCursor := 0
        inChan := chan }.append call payloadLen chan seq fragment := by
  have dropped :
      (if shtp.inRemaining ≠ 0 ∧ ¬shtp.Fits continuation chan seq then
        { shtp with inRemaining := 0 }
      else shtp) = { shtp with inRemaining := 0 } := by
    split
    next => rfl
    next kept =>
      have finished : shtp.inRemaining = 0 := by
        rcases begins with finished | apart
        · exact finished
        · by_contra unfinished
          exact kept ⟨unfinished, apart⟩
      rw [← finished]
  unfold assemble
  rw [dropped]
  simp only [↓reduceIte]
  rw [if_neg (by omega)]

/-- A fragment that fits what is assembled continues it. -/
theorem assemble_continue
    (call : Call Callback AdvertCallback Owner)
    (shtp : Shtp Callback AdvertCallback Owner)
    (payloadLen : Nat)
    {continuation : Bool}
    {chan : Fin sh2MaxChans}
    {seq : BitVec 8}
    (unfinished : shtp.inRemaining ≠ 0)
    (fits : shtp.Fits continuation chan seq)
    (fragment : List (BitVec 8))
    (t_us : BitVec 32) :
    shtp.assemble call payloadLen continuation chan seq fragment t_us =
      shtp.append call payloadLen chan seq fragment := by
  have kept :
      (if shtp.inRemaining ≠ 0 ∧ ¬shtp.Fits continuation chan seq then
        { shtp with inRemaining := 0 }
      else shtp) = shtp :=
    if_neg fun dropped => dropped.2 fits
  unfold assemble
  rw [kept]
  exact if_neg unfinished

/-- A fragment that is not the last of its cargo is only stored. -/
theorem append_part
    (call : Call Callback AdvertCallback Owner)
    (shtp : Shtp Callback AdvertCallback Owner)
    {payloadLen : Nat}
    (chan : Fin sh2MaxChans)
    (seq : BitVec 8)
    {fragment : List (BitVec 8)}
    (more : fragment.length + shtpHdrLen < payloadLen)
    {inPayload : Buffer (BitVec 8) sh2HalMaxPayloadIn}
    (written : shtp.inPayload.write shtp.inCursor fragment = some inPayload) :
    shtp.append call payloadLen chan seq fragment =
      some ({ shtp with
        inPayload := inPayload
        inCursor := shtp.inCursor + fragment.length
        inRemaining := payloadLen - (fragment.length + shtpHdrLen) }.expect
          chan (seq + 1)) := by
  have valid : fragment.take (payloadLen - shtpHdrLen) = fragment :=
    List.take_of_length_le (by omega)
  have left : payloadLen - (fragment.length + shtpHdrLen) ≠ 0 := by omega
  simp only [append, valid, written, Option.bind_some, if_neg left,
    Option.map_some]

/-- The last fragment of a cargo, or the only one, hands it over. -/
theorem append_last
    (call : Call Callback AdvertCallback Owner)
    (shtp : Shtp Callback AdvertCallback Owner)
    {payloadLen : Nat}
    (chan : Fin sh2MaxChans)
    (seq : BitVec 8)
    {fragment : List (BitVec 8)}
    (last : fragment.length + shtpHdrLen = payloadLen)
    {inPayload : Buffer (BitVec 8) sh2HalMaxPayloadIn}
    (written : shtp.inPayload.write shtp.inCursor fragment = some inPayload) :
    shtp.append call payloadLen chan seq fragment =
      ({ shtp with
        inPayload := inPayload
        inCursor := shtp.inCursor + fragment.length
        inRemaining := 0 }.deliver call chan).map
          fun handed : Shtp Callback AdvertCallback Owner =>
            handed.expect chan (seq + 1) := by
  have valid : fragment.take (payloadLen - shtpHdrLen) = fragment :=
    List.take_of_length_le (by omega)
  have left : payloadLen - (fragment.length + shtpHdrLen) = 0 := by omega
  simp only [append, valid, written, Option.bind_some, left, ↓reduceIte]

/-- A transfer that holds a whole cargo hands it over. -/
theorem rxAssemble_whole
    (call : Call Callback AdvertCallback Owner)
    {shtp : Shtp Callback AdvertCallback Owner}
    (idle : shtp.inRemaining = 0)
    {chan : Fin sh2MaxChans}
    (known : chan.val < shtp.chanListener.length)
    (continuation : Bool)
    (seq : BitVec 8)
    {payload : List (BitVec 8)}
    (fits : payload.length + shtpHdrLen ≤ sh2HalMaxPayloadIn)
    (t_us : BitVec 32) :
    ∃ inPayload : Buffer (BitVec 8) sh2HalMaxPayloadIn,
      inPayload.values.take payload.length = payload ∧
      shtp.rxAssemble call
        (transferHeader (payload.length + shtpHdrLen) continuation
          (BitVec.ofNat 8 chan) seq ++ payload) t_us =
        ({ shtp with
          inPayload := inPayload
          inCursor := payload.length
          inRemaining := 0
          inTimestamp := t_us
          inChan := chan }.deliver call chan).map
            fun handed : Shtp Callback AdvertCallback Owner =>
              handed.expect chan (seq + 1) := by
  have small : payload.length + shtpHdrLen < 0x8000 := by
    unfold sh2HalMaxPayloadIn at fits
    omega
  have within : 0 + payload.length ≤ sh2HalMaxPayloadIn := by omega
  obtain ⟨inPayload, written⟩ := shtp.inPayload.exists_write within
  have stored := Buffer.take_of_write written
  rw [List.take_zero, List.nil_append, Nat.zero_add] at stored
  refine ⟨inPayload, stored, ?_⟩
  rw [rxAssemble_transfer call shtp (by omega) small continuation known,
    assemble_begin call shtp fits (.inl idle),
    append_last call _ chan seq rfl written]
  simp only [Nat.zero_add]

/-! ## What a transfer can do -/

/-- A step of the transport on its own: what the listeners have and what is
known of the channels stays, but for the numbers that are expected. -/
structure Kept (shtp next : Shtp Callback AdvertCallback Owner) : Prop where
  owner : next.owner = shtp.owner
  delivered : next.delivered = shtp.delivered
  app : next.app = shtp.app
  appListener : next.appListener = shtp.appListener
  chanListener : next.chanListener = shtp.chanListener
  chan : ∀ chan, ∃ seq,
    next.chan chan = { shtp.chan chan with nextInSeq := seq }

theorem kept_of_chan
    {shtp next : Shtp Callback AdvertCallback Owner}
    (owner : next.owner = shtp.owner)
    (delivered : next.delivered = shtp.delivered)
    (app : next.app = shtp.app)
    (appListener : next.appListener = shtp.appListener)
    (chanListener : next.chanListener = shtp.chanListener)
    (same : next.chan = shtp.chan) :
    shtp.Kept next :=
  ⟨owner, delivered, app, appListener, chanListener, fun chan =>
    ⟨(shtp.chan chan).nextInSeq, by rw [same]⟩⟩

theorem Kept.refl (shtp : Shtp Callback AdvertCallback Owner) :
    shtp.Kept shtp :=
  kept_of_chan rfl rfl rfl rfl rfl rfl

theorem Kept.trans
    {shtp middle next : Shtp Callback AdvertCallback Owner}
    (first : shtp.Kept middle)
    (second : middle.Kept next) :
    shtp.Kept next := by
  refine ⟨second.owner.trans first.owner, second.delivered.trans first.delivered,
    second.app.trans first.app, second.appListener.trans first.appListener,
    second.chanListener.trans first.chanListener, fun chan => ?_⟩
  obtain ⟨_, one⟩ := first.chan chan
  obtain ⟨seq, other⟩ := second.chan chan
  exact ⟨seq, by rw [other, one]⟩

theorem kept_report
    (shtp : Shtp Callback AdvertCallback Owner)
    (event : ShtpEvent) :
    shtp.Kept (shtp.report event) := by
  unfold report
  split
  next => exact kept_of_chan rfl rfl rfl rfl rfl rfl
  next => exact .refl shtp

theorem kept_expect
    (shtp : Shtp Callback AdvertCallback Owner)
    (chan : Fin sh2MaxChans)
    (seq : BitVec 8) :
    shtp.Kept (shtp.expect chan seq) := by
  refine ⟨rfl, rfl, rfl, rfl, rfl, fun other => ?_⟩
  rcases eq_or_ne other chan with rfl | apart
  · exact ⟨seq, by simp [expect]⟩
  · exact ⟨(shtp.chan other).nextInSeq, by simp [expect, apart]⟩

/-- The listener of a channel is called with the payload, or nothing is
done. -/
def Handed (call : Call Callback AdvertCallback Owner)
    (shtp next : Shtp Callback AdvertCallback Owner) : Prop :=
  next = shtp ∨ ∃ chan callback, (shtp.chan chan).callback = some callback ∧
    call callback shtp.inPayload shtp.inCursor shtp.inTimestamp
      { shtp with
        delivered := shtp.delivered ++
          [⟨chan, shtp.inPayload.values.take shtp.inCursor,
            shtp.inTimestamp⟩] } = some next

theorem handed_of_deliver
    {call : Call Callback AdvertCallback Owner}
    {shtp next : Shtp Callback AdvertCallback Owner}
    {chan : Fin sh2MaxChans}
    (delivered : shtp.deliver call chan = some next) :
    shtp.Handed call next := by
  unfold deliver at delivered
  split at delivered
  next => exact .inl (Option.some_inj.mp delivered).symm
  next callback found => exact .inr ⟨chan, callback, found, delivered⟩

/-- What a transfer can do: steps of the transport, and one call between
them. -/
def Transferred (call : Call Callback AdvertCallback Owner)
    (shtp next : Shtp Callback AdvertCallback Owner) : Prop :=
  ∃ middle handed,
    shtp.Kept middle ∧ middle.Handed call handed ∧ handed.Kept next

theorem Kept.transferred
    {shtp next : Shtp Callback AdvertCallback Owner}
    (call : Call Callback AdvertCallback Owner)
    (kept : shtp.Kept next) :
    shtp.Transferred call next :=
  ⟨next, next, kept, .inl rfl, .refl next⟩

theorem append_transferred
    {call : Call Callback AdvertCallback Owner}
    {shtp next : Shtp Callback AdvertCallback Owner}
    {payloadLen : Nat}
    {chan : Fin sh2MaxChans}
    {seq : BitVec 8}
    {fragment : List (BitVec 8)}
    (appended : shtp.append call payloadLen chan seq fragment = some next) :
    shtp.Transferred call next := by
  obtain ⟨inPayload, written, appended⟩ := Option.bind_eq_some_iff.mp appended
  obtain ⟨handed, delivered, rfl⟩ := Option.map_eq_some_iff.mp appended
  split at delivered
  next =>
    refine ⟨_, handed, ?_, handed_of_deliver delivered,
      handed.kept_expect chan _⟩
    exact kept_of_chan rfl rfl rfl rfl rfl rfl
  next =>
    obtain rfl := Option.some_inj.mp delivered
    refine Kept.transferred call (Kept.trans ?_ (kept_expect _ chan _))
    exact kept_of_chan rfl rfl rfl rfl rfl rfl

theorem assemble_transferred
    {call : Call Callback AdvertCallback Owner}
    {shtp next : Shtp Callback AdvertCallback Owner}
    {payloadLen : Nat}
    {continuation : Bool}
    {chan : Fin sh2MaxChans}
    {seq : BitVec 8}
    {fragment : List (BitVec 8)}
    {t_us : BitVec 32}
    (assembled : shtp.assemble call payloadLen continuation chan seq fragment
      t_us = some next) :
    shtp.Transferred call next := by
  have cleared : ∀ inRemaining, shtp.Kept { shtp with
      inRemaining := inRemaining } :=
    fun _ => kept_of_chan rfl rfl rfl rfl rfl rfl
  have begun : ∃ inRemaining, (if shtp.inRemaining ≠ 0 ∧
      ¬shtp.Fits continuation chan seq then { shtp with inRemaining := 0 }
      else shtp) = { shtp with inRemaining := inRemaining } := by
    split
    next => exact ⟨0, rfl⟩
    next => exact ⟨shtp.inRemaining, rfl⟩
  obtain ⟨inRemaining, same⟩ := begun
  unfold assemble at assembled
  rw [same] at assembled
  dsimp only at assembled
  split at assembled
  next =>
    split at assembled
    next =>
      obtain rfl := Option.some_inj.mp assembled
      refine Kept.transferred call (Kept.trans ?_ (kept_report _ _))
      exact kept_of_chan rfl rfl rfl rfl rfl rfl
    next =>
      obtain ⟨middle, handed, first, call, last⟩ := append_transferred assembled
      refine ⟨middle, handed, Kept.trans ?_ first, call, last⟩
      exact kept_of_chan rfl rfl rfl rfl rfl rfl
  next =>
    obtain ⟨middle, handed, first, call, last⟩ := append_transferred assembled
    exact ⟨middle, handed, (cleared inRemaining).trans first, call, last⟩

/-- Whatever its bytes, a transfer does no more than this. -/
theorem rxAssemble_transferred
    {call : Call Callback AdvertCallback Owner}
    {shtp next : Shtp Callback AdvertCallback Owner}
    {input : List (BitVec 8)}
    {t_us : BitVec 32}
    (assembled : shtp.rxAssemble call input t_us = some next) :
    shtp.Transferred call next := by
  have counted : ∀ {event : ShtpEvent}
      {counted : Shtp Callback AdvertCallback Owner},
      shtp.Kept counted → shtp.Transferred call (counted.report event) :=
    fun kept => (kept.trans (kept_report _ _)).transferred call
  unfold rxAssemble at assembled
  split at assembled
  case h_2 =>
    obtain rfl := Option.some_inj.mp assembled
    exact Kept.transferred call (kept_of_chan rfl rfl rfl rfl rfl rfl)
  dsimp only at assembled
  split at assembled
  next =>
    obtain rfl := Option.some_inj.mp assembled
    exact counted (kept_of_chan rfl rfl rfl rfl rfl rfl)
  split at assembled
  next =>
    split at assembled
    next => exact assemble_transferred assembled
    next =>
      obtain rfl := Option.some_inj.mp assembled
      exact counted (kept_of_chan rfl rfl rfl rfl rfl rfl)
  next =>
    obtain rfl := Option.some_inj.mp assembled
    exact counted (kept_of_chan rfl rfl rfl rfl rfl rfl)

end Shtp
end Skatebot
