import Skatebot.Imu.Shtp

/-!
# Channels and their listeners

The hub announces its channels in an advertisement, a list of tagged values on
the command channel: each channel by its number, the identifier of the app it
belongs to, and its name.  Listeners are registered for an app and a name.
`updateCallbacks` brings the two together whenever one of them changes.
-/

namespace Skatebot

open Library LittleEndian

/-- The values of `sh2_err.h`. -/
inductive Sh2Status
  | ok
  | err
  | errBadParam
  | errOpInProgress
  | errIO
  | errHub
  | errTimeout
  deriving DecidableEq

/-- `SH2_MAX_APPS`. -/
def sh2MaxApps : Nat := 5

/-- `SHTP_APP_NAME_LEN` and `SHTP_CHAN_NAME_LEN`. -/
def shtpNameLen : Nat := 32

/-- `SH2_HAL_MAX_PAYLOAD_OUT` and `SH2_HAL_MAX_TRANSFER_OUT`. -/
def sh2HalMaxOut : Nat := 256

/-- `strcpy` into an array of so many places.  It has no result when the text
does not end or does not fit. -/
def strcpy (size : Nat) (bytes : List (BitVec 8)) : Option (List (BitVec 8)) :=
  let text := bytes.takeWhile (· ≠ 0)
  if text.length < bytes.length ∧ text.length < size then some text else none

/-- What the listeners of an app do with a tag of its advertisement: the tag,
the length of its value, and the bytes from its value on. -/
abbrev AdvertCall (Callback AdvertCallback Owner : Type) :=
  AdvertCallback → BitVec 8 → Nat → List (BitVec 8) →
    Shtp Callback AdvertCallback Owner →
      Option (Shtp Callback AdvertCallback Owner)

/-- What `processAdvertisement` keeps from tag to tag. -/
structure AdvertLocals where
  guid : BitVec 32
  chanNo : BitVec 8
  wake : Bool
  deriving DecidableEq

namespace Shtp

variable {Callback AdvertCallback Owner : Type}

/-! ## The tables -/

/-- The callback of the first listener that is registered for an app and the
name of a channel. -/
def lookup (listeners : List (ShtpChanListener Callback)) (guid : BitVec 32)
    (chanName : List (BitVec 8)) : Option Callback :=
  (listeners.find? fun listener =>
    listener.guid.setWidth 32 = guid ∧ chanName = listener.chanName).map
      ShtpChanListener.callback

/-- `updateCallbacks`. -/
def updateCallbacks (shtp : Shtp Callback AdvertCallback Owner) :
    Shtp Callback AdvertCallback Owner :=
  { shtp with
    chan := fun chanNo =>
      { shtp.chan chanNo with
        callback :=
          if (shtp.chan chanNo).guid = 0xFFFFFFFF then none
          else lookup shtp.chanListener (shtp.chan chanNo).guid
            (shtp.chan chanNo).chanName } }

/-- `addAdvertListener`. -/
def addAdvertListener (shtp : Shtp Callback AdvertCallback Owner)
    (guid : BitVec 16) (callback : AdvertCallback) :
    Shtp Callback AdvertCallback Owner :=
  if shtp.appListener.length ≥ sh2MaxApps then shtp
  else
    { shtp with
      appListener := shtp.appListener ++ [ShtpAppListener.mk guid callback] }

/-- `addChanListener`. -/
def addChanListener (shtp : Shtp Callback AdvertCallback Owner)
    (guid : BitVec 16) (chanName : List (BitVec 8)) (callback : Callback) :
    Sh2Status × Shtp Callback AdvertCallback Owner :=
  if shtp.chanListener.length ≥ sh2MaxChans then (.err, shtp)
  else
    (.ok, { shtp with
      chanListener := shtp.chanListener ++
        [ShtpChanListener.mk guid chanName callback] }.updateCallbacks)

/-- `shtp_setEventCallback`, with a callback. -/
def setEventCallback (shtp : Shtp Callback AdvertCallback Owner) :
    Shtp Callback AdvertCallback Owner :=
  { shtp with eventCallback := true }

/-- `shtp_listenChan`. -/
def listenChan (shtp : Shtp Callback AdvertCallback Owner)
    (guid : BitVec 16) (chan : List (BitVec 8)) (callback : Callback) :
    Sh2Status × Shtp Callback AdvertCallback Owner :=
  if chan.length = 0 then (.errBadParam, shtp)
  else shtp.addChanListener guid chan callback

/-- `shtp_listenAdvert`. -/
def listenAdvert (shtp : Shtp Callback AdvertCallback Owner)
    (guid : BitVec 16) (advertCallback : AdvertCallback) :
    Shtp Callback AdvertCallback Owner :=
  let shtp := shtp.addAdvertListener guid advertCallback
  if shtp.advertPhase = .idle then { shtp with advertPhase := .needed }
  else shtp

/-- `addApp`. -/
def addApp (shtp : Shtp Callback AdvertCallback Owner) (guid : BitVec 32) :
    Shtp Callback AdvertCallback Owner :=
  if shtp.app.any fun app => app.guid = guid then shtp
  else if shtp.app.length ≥ sh2MaxApps then shtp
  else { shtp with app := shtp.app ++ [ShtpApp.mk guid []] }.updateCallbacks

/-- The loop of `setAppName`: the first app with the identifier gets the
name. -/
def nameFirst (guid : BitVec 32) (appName : List (BitVec 8)) :
    List ShtpApp → List ShtpApp
  | [] => []
  | app :: apps =>
      if app.guid = guid then { app with appName := appName } :: apps
      else app :: nameFirst guid appName apps

/-- `setAppName`. -/
def setAppName (shtp : Shtp Callback AdvertCallback Owner) (guid : BitVec 32)
    (appName : List (BitVec 8)) : Shtp Callback AdvertCallback Owner :=
  { shtp with app := nameFirst guid appName shtp.app }

/-- `addChannel`. -/
def addChannel (shtp : Shtp Callback AdvertCallback Owner)
    (chanNo : BitVec 8) (guid : BitVec 32) (chanName : List (BitVec 8))
    (wake : Bool) : Shtp Callback AdvertCallback Owner :=
  if within : chanNo.toNat < sh2MaxChans then
    { shtp with
      chan := Function.update shtp.chan ⟨chanNo.toNat, within⟩
        { nextOutSeq := 0
          nextInSeq := 0
          guid := guid
          chanName := chanName
          wake := wake
          callback := none } }.updateCallbacks
  else shtp

/-- `shtp_chanNo`. -/
def chanNo (shtp : Shtp Callback AdvertCallback Owner)
    (appName chanName : List (BitVec 8)) : BitVec 8 :=
  match shtp.app.find? fun app => app.appName = appName with
  | none => 0xFF
  | some app =>
      if app.guid = 0xFFFFFFFF then 0xFF
      else
        match (List.finRange sh2MaxChans).find? fun chan =>
            (shtp.chan chan).chanName = chanName ∧
              (shtp.chan chan).guid = app.guid with
        | none => 0xFF
        | some chan => BitVec.ofNat 8 chan

/-! ## The advertisement -/

/-- `callAdvertHandler`. -/
def callAdvertHandler (advert : AdvertCall Callback AdvertCallback Owner)
    (shtp : Shtp Callback AdvertCallback Owner) (guid : BitVec 32)
    (tag : BitVec 8) (len : Nat) (val : List (BitVec 8)) :
    Option (Shtp Callback AdvertCallback Owner) :=
  match shtp.appListener.find? fun listener =>
      listener.guid.setWidth 32 = guid with
  | none => some shtp
  | some listener => advert listener.callback tag len val shtp

/-- `readu16`, less the header. -/
def readLimit (val : List (BitVec 8)) : Option (BitVec 16) :=
  if 2 ≤ val.length then
    some (field 2 val 0 - BitVec.ofNat 16 shtpHdrLen)
  else none

/-- What `processAdvertisement` does with one tag. -/
def processTag (advert : AdvertCall Callback AdvertCallback Owner)
    (locals : AdvertLocals) (shtp : Shtp Callback AdvertCallback Owner)
    (tag : BitVec 8) (val : List (BitVec 8)) :
    Option (AdvertLocals × Shtp Callback AdvertCallback Owner) :=
  match tag.toNat with
  | 1 => do -- TAG_GUID
      let shtp ← shtp.callAdvertHandler advert locals.guid 0 0 []
      if 4 ≤ val.length then
        let guid := field 4 val 0
        return ({ locals with guid := guid }, shtp.addApp guid)
      else none
  | 2 => -- TAG_MAX_CARGO_PLUS_HEADER_WRITE
      (readLimit val).map fun x =>
        (locals, { shtp with
          outMaxPayload :=
            if x.toNat < sh2HalMaxOut then x else shtp.outMaxPayload })
  | 3 => -- TAG_MAX_CARGO_PLUS_HEADER_READ
      (readLimit val).map fun _ => (locals, shtp)
  | 4 => -- TAG_MAX_TRANSFER_WRITE
      (readLimit val).map fun x =>
        (locals, { shtp with
          outMaxTransfer :=
            if x.toNat < sh2HalMaxOut then x
            else BitVec.ofNat 16 sh2HalMaxOut })
  | 5 => -- TAG_MAX_TRANSFER_READ sets what nothing reads
      (readLimit val).map fun _ => (locals, shtp)
  | 6 => do -- TAG_NORMAL_CHANNEL
      let chanNo ← val.head?
      return ({ locals with
        chanNo := chanNo
        wake := false }, shtp)
  | 7 => do -- TAG_WAKE_CHANNEL
      let chanNo ← val.head?
      return ({ locals with
        chanNo := chanNo
        wake := true }, shtp)
  | 8 => do -- TAG_APP_NAME
      let appName ← strcpy shtpNameLen val
      return (locals, shtp.setAppName locals.guid appName)
  | 9 => do -- TAG_CHANNEL_NAME, whose data are stored once more
      let chanName ← strcpy shtpNameLen val
      return (locals,
        shtp.addChannel locals.chanNo locals.guid chanName locals.wake)
  | _ => some (locals, shtp)

/-- The loop of `processAdvertisement`.  It has no result when it reads outside
its buffer. -/
def processTags (advert : AdvertCall Callback AdvertCallback Owner)
    (payload : List (BitVec 8)) (payloadLen cursor : Nat)
    (locals : AdvertLocals) (shtp : Shtp Callback AdvertCallback Owner) :
    Option (AdvertLocals × Shtp Callback AdvertCallback Owner) :=
  if cursor < payloadLen then
    match payload[cursor]?, payload[cursor + 1]? with
    | some tag, some len =>
        let val := payload.drop (cursor + 2)
        (shtp.processTag advert locals tag val).bind fun (locals, shtp) =>
          (shtp.callAdvertHandler advert locals.guid tag len.toNat val).bind
            fun shtp =>
              processTags advert payload payloadLen (cursor + 2 + len.toNat)
                locals shtp
    | _, _ => none
  else some (locals, shtp)
termination_by payloadLen - cursor

/-- `processAdvertisement`. -/
def processAdvertisement (advert : AdvertCall Callback AdvertCallback Owner)
    (payload : Buffer (BitVec 8) sh2HalMaxPayloadIn) (payloadLen : Nat)
    (shtp : Shtp Callback AdvertCallback Owner) :
    Option (Shtp Callback AdvertCallback Owner) := do
  let (locals, shtp) ← processTags advert payload.values payloadLen 1
    ⟨0, 0, false⟩ { shtp with advertPhase := .idle }
  shtp.callAdvertHandler advert locals.guid 0 0 []

/-- `shtpCmdListener`. -/
def shtpCmdListener (advert : AdvertCall Callback AdvertCallback Owner)
    (payload : Buffer (BitVec 8) sh2HalMaxPayloadIn) (len : Nat)
    (shtp : Shtp Callback AdvertCallback Owner) :
    Option (Shtp Callback AdvertCallback Owner) :=
  if len = 0 then some shtp
  else if payload.values.head? = some 0 then -- RESP_ADVERTISE
    shtp.processAdvertisement advert payload len
  else some shtp

/-- `"command"`. -/
def commandName : List (BitVec 8) :=
  [0x63, 0x6f, 0x6d, 0x6d, 0x61, 0x6e, 0x64]

/-- `shtp_open`, given the listeners of the protocol itself. -/
def shtpOpen (advertHdlr : AdvertCallback) (cmdListener : Callback)
    (owner : Owner) : Shtp Callback AdvertCallback Owner :=
  let shtp := { (cleared owner : Shtp Callback AdvertCallback Owner) with
    outMaxPayload := BitVec.ofNat 16 sh2HalMaxOut
    outMaxTransfer := BitVec.ofNat 16 sh2HalMaxOut }
  let shtp := (shtp.addApp 0).addChannel 0 0 commandName false
  let shtp := shtp.listenAdvert 0 advertHdlr
  let shtp := (shtp.listenChan 0 commandName cmdListener).2
  { shtp with advertPhase := .requested }

/-! ## The callbacks of the channels -/

/-- Each channel has the callback of the listener that is registered for its
app and its name. -/
def Associated (shtp : Shtp Callback AdvertCallback Owner) : Prop :=
  ∀ chan, (shtp.chan chan).callback =
    if (shtp.chan chan).guid = 0xFFFFFFFF then none
    else lookup shtp.chanListener (shtp.chan chan).guid
      (shtp.chan chan).chanName

/-- What a listener may do with the tables and with the payload under
construction: nothing. -/
structure SameTables (shtp next : Shtp Callback AdvertCallback Owner) :
    Prop where
  inRemaining : next.inRemaining = shtp.inRemaining
  chan : next.chan = shtp.chan
  chanListener : next.chanListener = shtp.chanListener
  appListener : next.appListener = shtp.appListener

theorem SameTables.associated
    {shtp next : Shtp Callback AdvertCallback Owner}
    (same : shtp.SameTables next)
    (associated : shtp.Associated) :
    next.Associated := by
  rwa [Associated, same.chan, same.chanListener]

theorem associated_updateCallbacks
    (shtp : Shtp Callback AdvertCallback Owner) :
    shtp.updateCallbacks.Associated :=
  fun _ => rfl

theorem associated_setEventCallback
    {shtp : Shtp Callback AdvertCallback Owner}
    (associated : shtp.Associated) :
    shtp.setEventCallback.Associated :=
  associated

theorem associated_listenChan
    {shtp : Shtp Callback AdvertCallback Owner}
    (associated : shtp.Associated)
    (guid : BitVec 16)
    (chan : List (BitVec 8))
    (callback : Callback) :
    (shtp.listenChan guid chan callback).2.Associated := by
  unfold listenChan addChanListener
  split
  next => exact associated
  next =>
    split
    next => exact associated
    next => exact associated_updateCallbacks _

/-- The listeners are as they were, and the callbacks still right. -/
structure KeepsListeners (shtp next : Shtp Callback AdvertCallback Owner) :
    Prop where
  chanListener : next.chanListener = shtp.chanListener
  associated : shtp.Associated → next.Associated

/-- And no payload was begun. -/
structure KeepsReceiving (shtp next : Shtp Callback AdvertCallback Owner) :
    Prop extends KeepsListeners shtp next where
  inRemaining : next.inRemaining = shtp.inRemaining

theorem KeepsListeners.refl (shtp : Shtp Callback AdvertCallback Owner) :
    shtp.KeepsListeners shtp :=
  ⟨rfl, id⟩

theorem KeepsListeners.trans
    {shtp middle next : Shtp Callback AdvertCallback Owner}
    (first : shtp.KeepsListeners middle)
    (second : middle.KeepsListeners next) :
    shtp.KeepsListeners next :=
  ⟨second.chanListener.trans first.chanListener,
    fun associated => second.associated (first.associated associated)⟩

theorem KeepsReceiving.refl (shtp : Shtp Callback AdvertCallback Owner) :
    shtp.KeepsReceiving shtp :=
  ⟨.refl shtp, rfl⟩

theorem KeepsReceiving.trans
    {shtp middle next : Shtp Callback AdvertCallback Owner}
    (first : shtp.KeepsReceiving middle)
    (second : middle.KeepsReceiving next) :
    shtp.KeepsReceiving next :=
  ⟨first.toKeepsListeners.trans second.toKeepsListeners,
    second.inRemaining.trans first.inRemaining⟩

theorem SameTables.keepsReceiving
    {shtp next : Shtp Callback AdvertCallback Owner}
    (same : shtp.SameTables next) :
    shtp.KeepsReceiving next :=
  ⟨⟨same.chanListener, same.associated⟩, same.inRemaining⟩

theorem addApp_keepsReceiving
    (shtp : Shtp Callback AdvertCallback Owner)
    (guid : BitVec 32) :
    shtp.KeepsReceiving (shtp.addApp guid) := by
  unfold addApp
  split
  next => exact .refl shtp
  next =>
    split
    next => exact .refl shtp
    next => exact ⟨⟨rfl, fun _ => associated_updateCallbacks _⟩, rfl⟩

theorem addChannel_keepsReceiving
    (shtp : Shtp Callback AdvertCallback Owner)
    (chanNo : BitVec 8)
    (guid : BitVec 32)
    (chanName : List (BitVec 8))
    (wake : Bool) :
    shtp.KeepsReceiving (shtp.addChannel chanNo guid chanName wake) := by
  unfold addChannel
  split
  next => exact ⟨⟨rfl, fun _ => associated_updateCallbacks _⟩, rfl⟩
  next => exact .refl shtp

theorem associated_listenAdvert
    {shtp : Shtp Callback AdvertCallback Owner}
    (associated : shtp.Associated)
    (guid : BitVec 16)
    (advertCallback : AdvertCallback) :
    (shtp.listenAdvert guid advertCallback).Associated := by
  have added : (shtp.addAdvertListener guid advertCallback).Associated := by
    unfold addAdvertListener
    split <;> exact associated
  unfold listenAdvert
  dsimp only
  split <;> exact added

/-- While there is room, a listener of a channel with a name is put behind the
others. -/
theorem chanListener_listenChan
    {shtp : Shtp Callback AdvertCallback Owner}
    {listeners : List (ShtpChanListener Callback)}
    (same : shtp.chanListener = listeners)
    (room : listeners.length < sh2MaxChans)
    (guid : BitVec 16)
    {chan : List (BitVec 8)}
    (named : chan ≠ [])
    (callback : Callback) :
    (shtp.listenChan guid chan callback).2.chanListener =
      listeners ++ [⟨guid, chan, callback⟩] := by
  subst same
  unfold listenChan addChanListener
  rw [if_neg (by simpa using named), if_neg (not_le.mpr room)]
  rfl

theorem chanListener_setEventCallback
    {shtp : Shtp Callback AdvertCallback Owner}
    {listeners : List (ShtpChanListener Callback)}
    (same : shtp.chanListener = listeners) :
    shtp.setEventCallback.chanListener = listeners :=
  same

theorem chanListener_listenAdvert
    {shtp : Shtp Callback AdvertCallback Owner}
    {listeners : List (ShtpChanListener Callback)}
    (same : shtp.chanListener = listeners)
    (guid : BitVec 16)
    (callback : AdvertCallback) :
    (shtp.listenAdvert guid callback).chanListener = listeners := by
  subst same
  unfold listenAdvert addAdvertListener
  dsimp only
  split <;> split <;> rfl

/-- The listeners of the apps leave the tables alone. -/
def AdvertAside (advert : AdvertCall Callback AdvertCallback Owner) : Prop :=
  ∀ callback tag len val shtp next,
    advert callback tag len val shtp = some next → shtp.SameTables next

theorem sameTables_callAdvertHandler
    {advert : AdvertCall Callback AdvertCallback Owner}
    (aside : AdvertAside advert)
    {shtp next : Shtp Callback AdvertCallback Owner}
    {guid : BitVec 32}
    {tag : BitVec 8}
    {len : Nat}
    {val : List (BitVec 8)}
    (handled : shtp.callAdvertHandler advert guid tag len val = some next) :
    shtp.SameTables next := by
  unfold callAdvertHandler at handled
  split at handled
  next =>
    obtain rfl := Option.some_inj.mp handled
    exact ⟨rfl, rfl, rfl, rfl⟩
  next => exact aside _ _ _ _ _ _ handled

/-- What a tag can do to the tables. -/
theorem processTag_cases
    {advert : AdvertCall Callback AdvertCallback Owner}
    (aside : AdvertAside advert)
    {locals after : AdvertLocals}
    {shtp next : Shtp Callback AdvertCallback Owner}
    {tag : BitVec 8}
    {val : List (BitVec 8)}
    (processed : shtp.processTag advert locals tag val = some (after, next)) :
    shtp.SameTables next ∨
      (∃ middle guid, shtp.SameTables middle ∧ next = middle.addApp guid) ∨
      ∃ chanNo guid chanName wake,
        next = shtp.addChannel chanNo guid chanName wake := by
  unfold processTag at processed
  split at processed
  case h_1 =>
    obtain ⟨middle, handled, processed⟩ := Option.bind_eq_some_iff.mp processed
    split at processed
    next =>
      obtain ⟨-, rfl⟩ := Prod.mk.inj (Option.some_inj.mp processed)
      exact .inr (.inl ⟨middle, _, sameTables_callAdvertHandler aside handled,
        rfl⟩)
    next => cases processed
  case h_9 =>
    obtain ⟨chanName, -, processed⟩ := Option.bind_eq_some_iff.mp processed
    obtain ⟨-, rfl⟩ := Prod.mk.inj (Option.some_inj.mp processed)
    exact .inr (.inr ⟨_, _, _, _, rfl⟩)
  case h_10 =>
    obtain ⟨-, rfl⟩ := Prod.mk.inj (Option.some_inj.mp processed)
    exact .inl ⟨rfl, rfl, rfl, rfl⟩
  -- The other tags set limits, locals or the name of an app.
  case h_2 | h_3 | h_4 | h_5 =>
    obtain ⟨_, -, processed⟩ := Option.map_eq_some_iff.mp processed
    obtain ⟨-, rfl⟩ := Prod.mk.inj processed
    exact .inl ⟨rfl, rfl, rfl, rfl⟩
  all_goals
    obtain ⟨_, -, processed⟩ := Option.bind_eq_some_iff.mp processed
    obtain ⟨-, rfl⟩ := Prod.mk.inj (Option.some_inj.mp processed)
    exact .inl ⟨rfl, rfl, rfl, rfl⟩

/-- A tag keeps the listeners, whatever it is. -/
theorem processTag_keepsReceiving
    {advert : AdvertCall Callback AdvertCallback Owner}
    (aside : AdvertAside advert)
    {locals after : AdvertLocals}
    {shtp next : Shtp Callback AdvertCallback Owner}
    {tag : BitVec 8}
    {val : List (BitVec 8)}
    (processed : shtp.processTag advert locals tag val = some (after, next)) :
    shtp.KeepsReceiving next := by
  rcases processTag_cases aside processed with
    same | ⟨middle, guid, same, rfl⟩ | ⟨chanNo, guid, chanName, wake, rfl⟩
  · exact same.keepsReceiving
  · exact same.keepsReceiving.trans (addApp_keepsReceiving middle guid)
  · exact addChannel_keepsReceiving shtp chanNo guid chanName wake

/-- So does an advertisement. -/
theorem processTags_keepsReceiving
    {advert : AdvertCall Callback AdvertCallback Owner}
    (aside : AdvertAside advert)
    {payload : List (BitVec 8)}
    {payloadLen cursor : Nat}
    {locals after : AdvertLocals}
    {shtp next : Shtp Callback AdvertCallback Owner}
    (processed : processTags advert payload payloadLen cursor locals shtp =
      some (after, next)) :
    shtp.KeepsReceiving next := by
  fun_induction processTags advert payload payloadLen cursor locals shtp with
  | case1 cursor locals shtp within tag len length found val
      inductionHypothesis =>
      obtain ⟨⟨locals, middle⟩, one, processed⟩ :=
        Option.bind_eq_some_iff.mp processed
      obtain ⟨handled, called, rest⟩ := Option.bind_eq_some_iff.mp processed
      have here := processTag_keepsReceiving aside one
      have there := (sameTables_callAdvertHandler aside called).keepsReceiving
      exact (here.trans there).trans (inductionHypothesis locals handled rest)
  | case2 => cases processed
  | case3 =>
      obtain ⟨-, rfl⟩ := Prod.mk.inj (Option.some_inj.mp processed)
      exact .refl _

theorem shtpCmdListener_keepsReceiving
    {advert : AdvertCall Callback AdvertCallback Owner}
    (aside : AdvertAside advert)
    {payload : Buffer (BitVec 8) sh2HalMaxPayloadIn}
    {len : Nat}
    {shtp next : Shtp Callback AdvertCallback Owner}
    (listened : shtp.shtpCmdListener advert payload len = some next) :
    shtp.KeepsReceiving next := by
  unfold shtpCmdListener at listened
  split at listened
  next => exact Option.some_inj.mp listened ▸ .refl shtp
  next =>
    split at listened
    next =>
      obtain ⟨⟨locals, middle⟩, processed, handled⟩ :=
        Option.bind_eq_some_iff.mp listened
      have begun :
          shtp.KeepsReceiving { shtp with advertPhase := .idle } :=
        ⟨⟨rfl, id⟩, rfl⟩
      have there := processTags_keepsReceiving aside processed
      exact (begun.trans there).trans
        (sameTables_callAdvertHandler aside handled).keepsReceiving
    next => exact Option.some_inj.mp listened ▸ .refl shtp

theorem Kept.keepsListeners
    {shtp next : Shtp Callback AdvertCallback Owner}
    (kept : shtp.Kept next) :
    shtp.KeepsListeners next := by
  refine ⟨kept.chanListener, fun associated chan => ?_⟩
  obtain ⟨seq, same⟩ := kept.chan chan
  rw [same, kept.chanListener]
  exact associated chan

/-- So does a transfer, whatever its bytes, if the listeners do. -/
theorem rxAssemble_keepsListeners
    {call : Call Callback AdvertCallback Owner}
    (keeps : ∀ callback payload len t_us shtp next,
      call callback payload len t_us shtp = some next →
        KeepsListeners shtp next)
    {shtp next : Shtp Callback AdvertCallback Owner}
    {input : List (BitVec 8)}
    {t_us : BitVec 32}
    (assembled : shtp.rxAssemble call input t_us = some next) :
    shtp.KeepsListeners next := by
  obtain ⟨middle, handed, first, given, last⟩ :=
    rxAssemble_transferred assembled
  refine (first.keepsListeners.trans ?_).trans last.keepsListeners
  rcases given with rfl | ⟨chan, callback, found, called⟩
  · exact .refl handed
  · have kept := keeps _ _ _ _ _ _ called
    exact ⟨kept.chanListener, kept.associated⟩

theorem associated_shtpOpen
    (advertHdlr : AdvertCallback)
    (cmdListener : Callback)
    (owner : Owner) :
    (shtpOpen advertHdlr cmdListener owner).Associated := by
  unfold shtpOpen
  have empty : ({ (cleared owner : Shtp Callback AdvertCallback Owner) with
      outMaxPayload := BitVec.ofNat 16 sh2HalMaxOut
      outMaxTransfer := BitVec.ofNat 16 sh2HalMaxOut }).Associated :=
    fun _ => rfl
  have channel := ((addApp_keepsReceiving _ 0).trans
    (addChannel_keepsReceiving _ 0 0 commandName false)).associated empty
  have listening := associated_listenChan
    (associated_listenAdvert channel 0 advertHdlr) 0 commandName cmdListener
  exact SameTables.associated ⟨rfl, rfl, rfl, rfl⟩ listening

theorem chanListener_shtpOpen
    (advertHdlr : AdvertCallback)
    (cmdListener : Callback)
    (owner : Owner) :
    (shtpOpen advertHdlr cmdListener owner).chanListener =
      [⟨0, commandName, cmdListener⟩] := by
  have empty : (({ (cleared owner : Shtp Callback AdvertCallback Owner) with
      outMaxPayload := BitVec.ofNat 16 sh2HalMaxOut
      outMaxTransfer := BitVec.ofNat 16 sh2HalMaxOut }.addApp 0).addChannel 0 0
        commandName false).chanListener = [] := rfl
  exact chanListener_listenChan (chanListener_listenAdvert empty 0 advertHdlr)
    (Nat.succ_pos 7) 0 (by decide) cmdListener

end Shtp

/-! ## What an advertisement announces -/

/-- A name that fits its place. -/
structure AdvertName where
  text : List (BitVec 8)
  plain : ∀ byte ∈ text, byte ≠ 0
  short : text.length < shtpNameLen

/-- A tag of an advertisement. -/
inductive AdvertTag
  | guid (app : BitVec 32)
  | limit (which : Fin 4) (bound : BitVec 16)
  | channel (isWake : Bool) (number : BitVec 8)
  | appName (name : AdvertName)
  | channelName (name : AdvertName)
  | other (kind : BitVec 8) (apart : 10 ≤ kind.toNat)
      (content : List (BitVec 8)) (short : content.length < 256)

/-- What is announced of a channel. -/
structure Announced where
  guid : BitVec 32
  chanName : List (BitVec 8)
  wake : Bool
  deriving DecidableEq

namespace AdvertTag

/-- The number of a tag. -/
def tag : AdvertTag → BitVec 8
  | guid _ => 1
  | limit which _ => BitVec.ofNat 8 (2 + which)
  | channel isWake _ => if isWake then 7 else 6
  | appName _ => 8
  | channelName _ => 9
  | other kind .. => kind

/-- The value of a tag. -/
def value : AdvertTag → List (BitVec 8)
  | guid app => fieldBytes 4 app
  | limit _ bound => fieldBytes 2 bound
  | channel _ number => [number]
  | appName name => name.text ++ [0]
  | channelName name => name.text ++ [0]
  | other _ _ content _ => content

/-- The bytes of a tag: its number, the length of its value, its value. -/
def bytes (tag : AdvertTag) : List (BitVec 8) :=
  tag.tag :: BitVec.ofNat 8 tag.value.length :: tag.value

/-- What a tag says about the tags behind it. -/
def after (locals : AdvertLocals) : AdvertTag → AdvertLocals
  | guid app => { locals with guid := app }
  | channel isWake number => { locals with
      chanNo := number
      wake := isWake }
  | _ => locals

/-- What a tag announces of a channel. -/
def announces (locals : AdvertLocals) (chan : Fin sh2MaxChans) :
    AdvertTag → Option Announced
  | channelName name =>
      if locals.chanNo.toNat = chan then
        some ⟨locals.guid, name.text, locals.wake⟩
      else none
  | _ => none

theorem length_value (tag : AdvertTag) : tag.value.length < 256 := by
  cases tag with
  | guid | limit | channel => simp [value]
  | appName name | channelName name =>
      have short := name.short
      unfold shtpNameLen at short
      simp only [value, List.length_append, List.length_singleton]
      omega
  | other _ _ _ short => exact short

end AdvertTag

/-- What is announced of a channel last. -/
def announced (chan : Fin sh2MaxChans) :
    AdvertLocals → List AdvertTag → Option Announced
  | _, [] => none
  | locals, tag :: tags =>
      (announced chan (tag.after locals) tags).or (tag.announces locals chan)

/-- A name is copied up to the zero that ends it. -/
theorem strcpy_name
    (name : AdvertName)
    (later : List (BitVec 8)) :
    strcpy shtpNameLen (name.text ++ [0] ++ later) = some name.text := by
  have text : (name.text ++ [0] ++ later).takeWhile (· ≠ 0) = name.text := by
    rw [List.append_assoc,
      List.takeWhile_append_of_pos (by simpa using name.plain)]
    simp
  unfold strcpy
  simp only [text]
  rw [if_pos]
  refine ⟨?_, name.short⟩
  simp only [List.length_append, List.length_singleton]
  omega

namespace Shtp

variable {Callback AdvertCallback Owner : Type}

/-- What the tables say of a channel. -/
def entry (shtp : Shtp Callback AdvertCallback Owner)
    (chan : Fin sh2MaxChans) : Announced where
  guid := (shtp.chan chan).guid
  chanName := (shtp.chan chan).chanName
  wake := (shtp.chan chan).wake

/-- The listeners of the apps take a tag whatever comes behind it. -/
def Handles (advert : AdvertCall Callback AdvertCallback Owner)
    (tag : BitVec 8) (value : List (BitVec 8)) : Prop :=
  ∀ callback later shtp, ∃ next,
    advert callback tag value.length (value ++ later) shtp = some next ∧
      shtp.SameTables next

theorem exists_callAdvertHandler
    {advert : AdvertCall Callback AdvertCallback Owner}
    {tag : BitVec 8}
    {value : List (BitVec 8)}
    (handles : Handles advert tag value)
    (shtp : Shtp Callback AdvertCallback Owner)
    (guid : BitVec 32)
    (later : List (BitVec 8)) :
    ∃ next,
      shtp.callAdvertHandler advert guid tag value.length (value ++ later) =
        some next ∧ shtp.SameTables next := by
  unfold callAdvertHandler
  split
  next => exact ⟨shtp, rfl, rfl, rfl, rfl, rfl⟩
  next listener _ => exact handles listener.callback later shtp

/-- Adding an app changes no channel's entry. -/
theorem entry_addApp
    (shtp : Shtp Callback AdvertCallback Owner)
    (guid : BitVec 32)
    (chan : Fin sh2MaxChans) :
    (shtp.addApp guid).entry chan = shtp.entry chan ∧
      (shtp.addApp guid).chanListener = shtp.chanListener := by
  unfold addApp
  split
  next => exact ⟨rfl, rfl⟩
  next => split <;> exact ⟨rfl, rfl⟩

theorem entry_addChannel
    (shtp : Shtp Callback AdvertCallback Owner)
    (chanNo : BitVec 8)
    (guid : BitVec 32)
    (chanName : List (BitVec 8))
    (wake : Bool)
    (chan : Fin sh2MaxChans) :
    (shtp.addChannel chanNo guid chanName wake).entry chan =
        (if chanNo.toNat = chan then ⟨guid, chanName, wake⟩
        else shtp.entry chan) ∧
      (shtp.addChannel chanNo guid chanName wake).chanListener =
        shtp.chanListener := by
  unfold addChannel
  split
  next within =>
    refine ⟨?_, rfl⟩
    by_cases same : chanNo.toNat = chan
    · obtain rfl : ⟨chanNo.toNat, within⟩ = chan := Fin.ext same
      simp [entry, updateCallbacks]
    · have apart : chan ≠ ⟨chanNo.toNat, within⟩ := by
        rintro rfl
        exact same rfl
      simp [entry, updateCallbacks, same, apart]
  next outside =>
    refine ⟨?_, rfl⟩
    rw [if_neg]
    rintro same
    exact outside (same ▸ chan.isLt)

theorem entry_listenChan
    (shtp : Shtp Callback AdvertCallback Owner)
    (guid : BitVec 16)
    (chanName : List (BitVec 8))
    (callback : Callback)
    (chan : Fin sh2MaxChans) :
    (shtp.listenChan guid chanName callback).2.entry chan =
      shtp.entry chan := by
  unfold listenChan addChanListener
  split
  next => rfl
  next => split <;> rfl

theorem entry_setEventCallback
    (shtp : Shtp Callback AdvertCallback Owner)
    (chan : Fin sh2MaxChans) :
    shtp.setEventCallback.entry chan = shtp.entry chan := rfl

theorem entry_listenAdvert
    (shtp : Shtp Callback AdvertCallback Owner)
    (guid : BitVec 16)
    (callback : AdvertCallback)
    (chan : Fin sh2MaxChans) :
    (shtp.listenAdvert guid callback).entry chan = shtp.entry chan := by
  unfold listenAdvert addAdvertListener
  dsimp only
  split <;> split <;> rfl

theorem inRemaining_listenChan
    (shtp : Shtp Callback AdvertCallback Owner)
    (guid : BitVec 16)
    (chanName : List (BitVec 8))
    (callback : Callback) :
    (shtp.listenChan guid chanName callback).2.inRemaining =
      shtp.inRemaining := by
  unfold listenChan addChanListener
  split
  next => rfl
  next => split <;> rfl

theorem inRemaining_setEventCallback
    (shtp : Shtp Callback AdvertCallback Owner) :
    shtp.setEventCallback.inRemaining = shtp.inRemaining := rfl

theorem inRemaining_listenAdvert
    (shtp : Shtp Callback AdvertCallback Owner)
    (guid : BitVec 16)
    (callback : AdvertCallback) :
    (shtp.listenAdvert guid callback).inRemaining = shtp.inRemaining := by
  unfold listenAdvert addAdvertListener
  dsimp only
  split <;> split <;> rfl

theorem inRemaining_shtpOpen
    (advertHdlr : AdvertCallback)
    (cmdListener : Callback)
    (owner : Owner) :
    (shtpOpen advertHdlr cmdListener owner).inRemaining = 0 := by
  have added : (({ (cleared owner : Shtp Callback AdvertCallback Owner) with
      outMaxPayload := BitVec.ofNat 16 sh2HalMaxOut
      outMaxTransfer := BitVec.ofNat 16 sh2HalMaxOut }.addApp 0).addChannel 0 0
        commandName false).inRemaining = 0 := rfl
  have advert := inRemaining_listenAdvert _ 0 advertHdlr |>.trans added
  exact inRemaining_listenChan _ 0 commandName cmdListener |>.trans advert

theorem entry_shtpOpen
    (advertHdlr : AdvertCallback)
    (cmdListener : Callback)
    (owner : Owner) :
    (shtpOpen advertHdlr cmdListener owner).entry 0 =
      ⟨0, commandName, false⟩ := by
  have added := ({ (cleared owner : Shtp Callback AdvertCallback Owner) with
      outMaxPayload := BitVec.ofNat 16 sh2HalMaxOut
      outMaxTransfer := BitVec.ofNat 16 sh2HalMaxOut }.addApp 0).entry_addChannel
        0 0 commandName false 0
  have advert := entry_listenAdvert _ 0 advertHdlr 0 |>.trans added.1
  exact entry_listenChan _ 0 commandName cmdListener 0 |>.trans advert

theorem entry_expect
    (shtp : Shtp Callback AdvertCallback Owner)
    (other : Fin sh2MaxChans)
    (seq : BitVec 8)
    (chan : Fin sh2MaxChans) :
    (shtp.expect other seq).entry chan = shtp.entry chan := by
  obtain ⟨seq, same⟩ := (shtp.kept_expect other seq).chan chan
  simp only [entry, same]

theorem readLimit_fieldBytes
    (bound : BitVec 16)
    (later : List (BitVec 8)) :
    readLimit (fieldBytes 2 bound ++ later) =
      some (bound - BitVec.ofNat 16 shtpHdrLen) := by
  have number : field 2 (fieldBytes 2 bound ++ later) 0 = bound :=
    field_append 2 0 [] bound later rfl
  rw [readLimit, number, if_pos (by simp)]

/-- A tag that is well formed does what it says. -/
theorem processTag_tag
    {advert : AdvertCall Callback AdvertCallback Owner}
    (ends : Handles advert 0 [])
    (locals : AdvertLocals)
    (shtp : Shtp Callback AdvertCallback Owner)
    (tag : AdvertTag)
    (later : List (BitVec 8)) :
    ∃ next,
      shtp.processTag advert locals tag.tag (tag.value ++ later) =
        some (tag.after locals, next) ∧
      next.chanListener = shtp.chanListener ∧
      ∀ chan, next.entry chan =
        (tag.announces locals chan).getD (shtp.entry chan) := by
  cases tag with
  | guid app =>
      obtain ⟨middle, handled, same⟩ :=
        exists_callAdvertHandler ends shtp locals.guid []
      have number : field 4 (fieldBytes 4 app ++ later) 0 = app :=
        field_append 4 0 [] app later rfl
      have enough : 4 ≤ (fieldBytes 4 app ++ later).length := by simp
      refine ⟨middle.addApp app, ?_, ?_, fun chan => ?_⟩
      · change (shtp.callAdvertHandler advert locals.guid 0 0 []).bind _ = _
        rw [show shtp.callAdvertHandler advert locals.guid 0 0 [] = some middle
          from handled, Option.bind_some]
        simp only [AdvertTag.value, number, if_pos enough]
        rfl
      · exact (middle.entry_addApp app 0).2.trans same.chanListener
      · rw [(middle.entry_addApp app chan).1]
        simp only [entry, same.chan]
        rfl
  | limit which bound =>
      have read := readLimit_fieldBytes bound later
      have numbers : (AdvertTag.limit which bound).tag.toNat = 2 + which := by
        match which with
        | 0 | 1 | 2 | 3 => rfl
      unfold processTag
      simp only [numbers, AdvertTag.value, read]
      match which with
      | 0 | 1 | 2 | 3 => exact ⟨_, rfl, rfl, fun _ => rfl⟩
  | channel isWake number =>
      cases isWake <;> exact ⟨_, rfl, rfl, fun _ => rfl⟩
  | appName name =>
      refine ⟨shtp.setAppName locals.guid name.text, ?_, rfl, fun _ => rfl⟩
      change (strcpy shtpNameLen (name.text ++ [0] ++ later)).bind _ = _
      rw [strcpy_name]
      rfl
  | channelName name =>
      have added := shtp.entry_addChannel locals.chanNo locals.guid name.text
        locals.wake
      refine ⟨shtp.addChannel locals.chanNo locals.guid name.text locals.wake,
        ?_, (added 0).2, fun chan => ?_⟩
      · change (strcpy shtpNameLen (name.text ++ [0] ++ later)).bind _ = _
        rw [strcpy_name]
        rfl
      · rw [(added chan).1, AdvertTag.announces]
        split <;> rfl
  | other kind apart content short =>
      refine ⟨shtp, ?_, rfl, fun _ => rfl⟩
      unfold processTag
      simp only [AdvertTag.tag]
      split
      case h_10 => rfl
      all_goals omega

/-- The tags of an advertisement are taken one after the other. -/
theorem processTags_tags
    {advert : AdvertCall Callback AdvertCallback Owner}
    (ends : Handles advert 0 [])
    {tags : List AdvertTag}
    (handles : ∀ tag ∈ tags, Handles advert tag.tag tag.value)
    {payload before later : List (BitVec 8)}
    (content : payload = before ++ (tags.flatMap AdvertTag.bytes ++ later))
    {payloadLen : Nat}
    (length : payloadLen =
      before.length + (tags.flatMap AdvertTag.bytes).length)
    (locals : AdvertLocals)
    (shtp : Shtp Callback AdvertCallback Owner) :
    ∃ last next,
      processTags advert payload payloadLen before.length locals shtp =
        some (last, next) ∧
      next.chanListener = shtp.chanListener ∧
      ∀ chan, next.entry chan =
        (announced chan locals tags).getD (shtp.entry chan) := by
  induction tags generalizing before locals shtp with
  | nil =>
      refine ⟨locals, shtp, ?_, rfl, fun _ => rfl⟩
      rw [processTags, if_neg (by simp [length])]
  | cons tag tags inductionHypothesis =>
      rw [List.forall_mem_cons] at handles
      rw [List.flatMap_cons, AdvertTag.bytes] at content length
      have short := tag.length_value
      have within : before.length < payloadLen := by
        rw [length, List.length_append, List.length_cons]
        omega
      have number : payload[before.length]? = some tag.tag := by
        rw [content, List.getElem?_append_right le_rfl]
        simp
      have valueLength : payload[before.length + 1]? =
          some (BitVec.ofNat 8 tag.value.length) := by
        rw [content, List.getElem?_append_right (Nat.le_succ _)]
        simp
      have value : payload.drop (before.length + 2) =
          tag.value ++ (tags.flatMap AdvertTag.bytes ++ later) := by
        rw [content, List.drop_append]
        simp
      have len : (BitVec.ofNat 8 tag.value.length).toNat = tag.value.length := by
        rw [BitVec.toNat_ofNat]
        omega
      obtain ⟨middle, processed, listeners, entries⟩ :=
        processTag_tag ends locals shtp tag
          (tags.flatMap AdvertTag.bytes ++ later)
      obtain ⟨handled, called, same⟩ :=
        exists_callAdvertHandler handles.1 middle (tag.after locals).guid
          (tags.flatMap AdvertTag.bytes ++ later)
      -- What is left stands behind this tag.
      have onward : payload =
          (before ++ tag.bytes) ++ (tags.flatMap AdvertTag.bytes ++ later) := by
        rw [content, AdvertTag.bytes]
        simp
      have cursor : before.length + 2 + tag.value.length =
          (before ++ tag.bytes).length := by
        simp only [AdvertTag.bytes, List.length_append, List.length_cons]
        omega
      have size : payloadLen = (before ++ tag.bytes).length +
          (tags.flatMap AdvertTag.bytes).length := by
        rw [length, ← cursor]
        simp only [List.length_append, List.length_cons]
        omega
      obtain ⟨last, next, rest, listenersRest, entriesRest⟩ :=
        inductionHypothesis handles.2 onward size (tag.after locals) handled
      refine ⟨last, next, ?_, ?_, fun chan => ?_⟩
      · rw [processTags, if_pos within, number, valueLength]
        simp only [value, processed, Option.bind_some, len, called]
        rw [cursor]
        exact rest
      · rw [listenersRest, same.chanListener, listeners]
      · have kept : handled.entry chan = middle.entry chan := by
          simp only [entry, same.chan]
        rw [entriesRest chan, kept, entries chan, announced]
        cases announced chan (tag.after locals) tags with
        | none => rfl
        | some => rfl

/-- After an advertisement each channel that it announces has the app, the name
and the wake flag announced last, the others have what they had; and each has
the callback of the listener that is registered for its app and name. -/
theorem advertisement_connects
    {advert : AdvertCall Callback AdvertCallback Owner}
    (aside : AdvertAside advert)
    (ends : Handles advert 0 [])
    {tags : List AdvertTag}
    (handles : ∀ tag ∈ tags, Handles advert tag.tag tag.value)
    {payload : Buffer (BitVec 8) sh2HalMaxPayloadIn}
    {len : Nat}
    (content : payload.values.take len = 0 :: tags.flatMap AdvertTag.bytes)
    (within : len ≤ sh2HalMaxPayloadIn)
    {shtp : Shtp Callback AdvertCallback Owner}
    (associated : shtp.Associated) :
    ∃ next,
      shtp.shtpCmdListener advert payload len = some next ∧
      ∀ chan,
        next.entry chan = (announced chan ⟨0, 0, false⟩ tags).getD
          (shtp.entry chan) ∧
        (next.chan chan).callback =
          if (next.chan chan).guid = 0xFFFFFFFF then none
          else lookup shtp.chanListener (next.chan chan).guid
            (next.chan chan).chanName := by
  have split : payload.values =
      [0] ++ (tags.flatMap AdvertTag.bytes ++ payload.values.drop len) := by
    conv_lhs => rw [← List.take_append_drop len payload.values, content]
    rfl
  have size : len = [(0 : BitVec 8)].length +
      (tags.flatMap AdvertTag.bytes).length := by
    have counted := congrArg List.length content
    rw [List.length_take, payload.length_values, min_eq_left within,
      List.length_cons] at counted
    rw [counted, List.length_singleton, Nat.add_comm]
  have response : payload.values.head? = some 0 := by
    rw [split]
    rfl
  obtain ⟨last, middle, processed, listeners, entries⟩ :=
    processTags_tags ends handles split size ⟨0, 0, false⟩
      { shtp with advertPhase := .idle }
  obtain ⟨next, called, same⟩ :=
    exists_callAdvertHandler ends middle last.guid []
  have listened : shtp.shtpCmdListener advert payload len = some next := by
    unfold shtpCmdListener processAdvertisement
    rw [if_neg (by rw [size, Nat.add_comm]; exact Nat.succ_ne_zero _),
      if_pos response]
    rw [List.length_singleton] at processed
    rw [processed]
    exact called
  refine ⟨next, listened, fun chan => ⟨?_, ?_⟩⟩
  · have kept : next.entry chan = middle.entry chan := by
      simp only [entry, same.chan]
    rw [kept, entries chan]
    rfl
  · have right :=
      (shtpCmdListener_keepsReceiving aside listened).associated associated chan
    rwa [same.chanListener, listeners] at right

end Shtp
end Skatebot
