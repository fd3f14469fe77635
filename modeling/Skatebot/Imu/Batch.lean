import Skatebot.Imu.SensorHub

/-!
# Batches of reports

The hub batches reports: each has a delay against the reference, and the
reference is so far before the interrupt as a base report says, or moves by what
a rebase report says.  The driver hands each report to its callback, with the
time at which the sample was taken.
-/

namespace Skatebot

open Library LittleEndian Shtp

/-- What a sensor reports. -/
structure Reading where
  reportId : BitVec 8
  sequence : BitVec 8
  status : BitVec 2
  /-- After the reference, in 100 µs. -/
  delay : BitVec 14
  data : List (BitVec 8)
  apart : reportId ≠ baseTimestampRef ∧ reportId ≠ timestampRebase ∧
    reportId ≠ flushCompleted
  short : data.length + 4 ≤ sh2MaxSensorEventLen

/-- The report. -/
def Reading.bytes (reading : Reading) : List (BitVec 8) :=
  reading.reportId :: reading.sequence ::
    (reading.delay.extractLsb' 8 6 ++ reading.status) ::
      reading.delay.setWidth 8 :: reading.data

/-- A report of a batch. -/
inductive BatchItem
  | base (timebase : BitVec 32)
  | rebase (timebase : BitVec 32)
  | flushed (sensorId : BitVec 8)
  | sensor (reading : Reading)

namespace BatchItem

def reportId : BatchItem → BitVec 8
  | base _ => baseTimestampRef
  | rebase _ => timestampRebase
  | flushed _ => flushCompleted
  | sensor reading => reading.reportId

def bytes : BatchItem → List (BitVec 8)
  | base timebase => baseTimestampRef :: fieldBytes 4 timebase
  | rebase timebase => timestampRebase :: fieldBytes 4 timebase
  | flushed sensorId => [flushCompleted, sensorId]
  | sensor reading => reading.bytes

/-- Where the reference lies after an item, against the interrupt. -/
def reference (delta : ℤ) : BatchItem → ℤ
  | base timebase => -(timebase.toNat : ℤ)
  | rebase timebase => delta + timebase.toInt
  | flushed _ => delta
  | sensor _ => delta

/-- The readings of a batch, each with the time at which it was taken, against
the interrupt. -/
def readings (delta : ℤ) : List BatchItem → List (Reading × ℤ)
  | [] => []
  | sensor reading :: items =>
      (reading, delta + reading.delay.toNat) :: readings delta items
  | item :: items => readings (item.reference delta) items

end BatchItem

/-- The stamp of a sample: the time at which it was taken, brought into that
period of the host's counter in which the interrupt came. -/
def sampleStamp (now : ℕ) (offset : ℤ) : BitVec 64 :=
  BitVec.ofNat 64
    (2 ^ 32 * (now / 2 ^ 32) + ((now + offset * 100) % 2 ^ 32).toNat)

/-- The event of a reading. -/
def readingEvent (now : ℕ) (taken : Reading × ℤ) : SensorEvent where
  timestamp := sampleStamp now taken.2
  reportId := taken.1.reportId
  report := taken.1.bytes

/-- A stamp is the time of the sample exactly if no rollover of the host's
counter lies between the sample and the interrupt. -/
theorem sampleStamp_eq_iff
    {now : ℕ}
    (small : now < 2 ^ 64)
    (offset : ℤ) :
    ((sampleStamp now offset).toNat : ℤ) = now + offset * 100 ↔
      (now + offset * 100) / 2 ^ 32 = now / 2 ^ 32 := by
  have within : 2 ^ 32 * (now / 2 ^ 32) +
      ((now + offset * 100) % 2 ^ 32).toNat < 2 ^ 64 := by
    omega
  rw [sampleStamp, BitVec.toNat_ofNat, Nat.mod_eq_of_lt within]
  omega

namespace Sh2

variable {Node : Type}

/-- The lengths of some items were announced. -/
def Knows (lengths : BitVec 8 → Nat) (items : List BatchItem) : Prop :=
  ∀ item ∈ items, lengths item.reportId = item.bytes.length

/-- Some samples were taken so near the interrupt that the difference can be
stored. -/
def Near (taken : List (Reading × ℤ)) : Prop :=
  ∀ sample ∈ taken, -2 ^ 31 ≤ sample.2 * 100 ∧ sample.2 * 100 < 2 ^ 31

/-- The driver at work: it has its callback, knows the lengths of the reports,
last stamped a report at some time, and its node is in some state. -/
structure Running (sh2 : Sh2 Node) (lengths : BitVec 8 → Nat) (since : ℕ)
    (node : Node) : Prop where
  sensorCallback : sh2.sensorCallback = true
  lengths : sh2.getReportLen = lengths
  lastHostInt : sh2.lastHostInt = BitVec.ofNat 32 since
  rollovers : sh2.rollovers = BitVec.ofNat 32 (since / 2 ^ 32)
  node : sh2.node = node

/-! ## One report -/

/-- The delay of a report is the one that was put into it. -/
theorem reportDelay_bytes
    (reading : Reading)
    (after : List (BitVec 8)) :
    reportDelay (reading.bytes ++ after) = reading.delay.setWidth 16 := by
  have third : field 1 (reading.bytes ++ after) 2 =
      reading.delay.extractLsb' 8 6 ++ reading.status := by
    simp [field, Reading.bytes, number]
  have fourth : field 1 (reading.bytes ++ after) 3 =
      reading.delay.setWidth 8 := by
    apply BitVec.eq_of_toNat_eq
    simp [field, Reading.bytes, number]
  have high : ∀ (high : BitVec 6) (status : BitVec 2),
      ((high ++ status) &&& 0xFC).toNat = high.toNat * 4 := by
    decide
  have upper : (reading.delay.extractLsb' 8 6).toNat =
      reading.delay.toNat / 256 := by
    rw [BitVec.extractLsb'_toNat, Nat.shiftRight_eq_div_pow]
    omega
  rw [reportDelay, third, fourth]
  apply BitVec.eq_of_toNat_eq
  rw [BitVec.toNat_add, BitVec.toNat_shiftLeft, BitVec.toNat_setWidth, high,
    upper, BitVec.toNat_setWidth, BitVec.toNat_setWidth, BitVec.toNat_setWidth,
    Nat.shiftLeft_eq]
  omega

/-- The clock goes on if less than a period of the host's counter passed. -/
theorem Running.tick
    {sh2 : Sh2 Node}
    {lengths : BitVec 8 → Nat}
    {since now : ℕ}
    {node : Node}
    (running : sh2.Running lengths since node)
    (later : since ≤ now)
    (soon : now < since + 2 ^ 32) :
    (sh2.tick (BitVec.ofNat 32 now)).Running lengths now node := by
  refine ⟨running.sensorCallback, running.lengths, rfl, ?_, running.node⟩
  change (if (BitVec.ofNat 32 now).toNat < sh2.lastHostInt.toNat then
    sh2.rollovers + 1 else sh2.rollovers) = _
  rw [running.lastHostInt, running.rollovers, BitVec.toNat_ofNat,
    BitVec.toNat_ofNat]
  split
  next wrapped =>
    have period : now / 2 ^ 32 = since / 2 ^ 32 + 1 := by omega
    rw [period, BitVec.ofNat_add]
    rfl
  next =>
    have period : now / 2 ^ 32 = since / 2 ^ 32 := by omega
    rw [period]

theorem touSTimestamp_running
    {sh2 : Sh2 Node}
    {lengths : BitVec 8 → Nat}
    {now : ℕ}
    {node : Node}
    (running : sh2.Running lengths now node)
    {delta : ℤ}
    {delay : BitVec 14}
    (near : -2 ^ 31 ≤ (delta + delay.toNat) * 100 ∧
      (delta + delay.toNat) * 100 < 2 ^ 31) :
    sh2.touSTimestamp (BitVec.ofNat 32 now) (BitVec.ofInt 32 delta)
        (delay.setWidth 16) =
      some (sampleStamp now (delta + delay.toNat)) := by
  have short := delay.isLt
  have wide : (delay.setWidth 16).toNat = delay.toNat := by
    rw [BitVec.toNat_setWidth]
    omega
  have reference : (BitVec.ofInt 32 delta).toInt = delta := by
    rw [BitVec.toInt_ofInt, Int.bmod_eq_of_le] <;> omega
  rw [touSTimestamp, reference, wide, if_pos near, sampleStamp,
    running.rollovers]
  clear near reference wide short
  generalize (delta + delay.toNat) * 100 = offset
  refine congrArg some (BitVec.eq_of_toNat_eq ?_)
  rw [BitVec.toNat_add, BitVec.toNat_shiftLeft, BitVec.toNat_setWidth,
    BitVec.toNat_setWidth, BitVec.toNat_add, BitVec.toNat_ofNat,
    BitVec.toNat_ofNat, BitVec.toNat_ofInt, BitVec.toNat_ofNat,
    Nat.shiftLeft_eq]
  omega

/-- A reading becomes an event. -/
theorem inputReport_sensor
    {sensorEvent : SensorEvent → Node → Option Node}
    {sh2 : Sh2 Node}
    {lengths : BitVec 8 → Nat}
    {since now : ℕ}
    {node next : Node}
    (running : sh2.Running lengths since node)
    (later : since ≤ now)
    (soon : now < since + 2 ^ 32)
    {reading : Reading}
    {delta : ℤ}
    (near : -2 ^ 31 ≤ (delta + reading.delay.toNat) * 100 ∧
      (delta + reading.delay.toNat) * 100 < 2 ^ 31)
    (taken : sensorEvent
      (readingEvent now (reading, delta + reading.delay.toNat)) node =
        some next)
    (after : List (BitVec 8)) :
    ∃ last,
      sh2.inputReport sensorEvent (reading.bytes ++ after) reading.reportId
        reading.bytes.length (BitVec.ofNat 32 now) (BitVec.ofInt 32 delta) =
          some (BitVec.ofInt 32 delta, last) ∧
      last.Running lengths now next := by
  have ticked := running.tick later soon
  have short := reading.short
  have length : reading.bytes.length = reading.data.length + 4 := rfl
  have enough : 4 ≤ (reading.bytes ++ after).length ∧
      reading.bytes.length ≤ (reading.bytes ++ after).length ∧
      reading.bytes.length ≤ sh2MaxSensorEventLen := by
    rw [List.length_append]
    omega
  obtain ⟨base, rebase, flushed⟩ := reading.apart
  refine ⟨{ sh2.tick (BitVec.ofNat 32 now) with node := next }, ?_,
    ticked.sensorCallback, ticked.lengths, ticked.lastHostInt,
    ticked.rollovers, rfl⟩
  rw [inputReport, if_neg base, if_neg rebase, if_neg flushed, if_pos enough]
  dsimp only
  rw [reportDelay_bytes, touSTimestamp_running ticked near, Option.bind_some,
    List.take_left, offer, if_pos ticked.sensorCallback, ticked.node]
  rw [readingEvent] at taken
  rw [taken]
  rfl

/-- The other items only move the reference. -/
theorem inputReport_other
    (sensorEvent : SensorEvent → Node → Option Node)
    (sh2 : Sh2 Node)
    (item : BatchItem)
    (other : ∀ reading, item ≠ .sensor reading)
    (time : BitVec 32)
    (delta : ℤ)
    (after : List (BitVec 8)) :
    sh2.inputReport sensorEvent (item.bytes ++ after) item.reportId
        item.bytes.length time (BitVec.ofInt 32 delta) =
      some (BitVec.ofInt 32 (item.reference delta), sh2) := by
  cases item with
  | base timebase =>
      have enough :
          5 ≤ ((BatchItem.base timebase).bytes ++ after).length := by
        simp [BatchItem.bytes]
      have read : field 4 ((BatchItem.base timebase).bytes ++ after) 1 =
          timebase :=
        field_append 4 1 [baseTimestampRef] timebase after rfl
      have kind : (BatchItem.base timebase).reportId = baseTimestampRef := rfl
      rw [inputReport, if_pos kind, if_pos enough, read, BatchItem.reference,
        BitVec.ofInt_neg, BitVec.ofInt_natCast, BitVec.ofNat_toNat,
        BitVec.setWidth_eq]
  | rebase timebase =>
      have enough :
          5 ≤ ((BatchItem.rebase timebase).bytes ++ after).length := by
        simp [BatchItem.bytes]
      have read : field 4 ((BatchItem.rebase timebase).bytes ++ after) 1 =
          timebase :=
        field_append 4 1 [timestampRebase] timebase after rfl
      have kind : (BatchItem.rebase timebase).reportId = timestampRebase := rfl
      rw [inputReport, kind, if_neg (by decide), if_pos rfl, if_pos enough,
        read, BatchItem.reference, BitVec.ofInt_add, BitVec.ofInt_toInt]
  | flushed sensorId =>
      have waits : sh2.opRx ((BatchItem.flushed sensorId).bytes ++ after) =
          some sh2 := by
        unfold opRx
        split
        next => rfl
        next => exact if_pos fun same => nomatch same
      have kind : (BatchItem.flushed sensorId).reportId = flushCompleted := rfl
      rw [inputReport, kind, if_neg (by decide), if_neg (by decide), if_pos rfl,
        waits]
      rfl
  | sensor reading => exact absurd rfl (other reading)

/-! ## A batch -/

theorem head_bytes (item : BatchItem) :
    ∃ rest, item.bytes = item.reportId :: rest := by
  cases item with
  | base | rebase | flushed | sensor => exact ⟨_, rfl⟩

/-- One turn of the loop. -/
theorem inputLoop_item
    (sensorEvent : SensorEvent → Node → Option Node)
    {sh2 : Sh2 Node}
    {item : BatchItem}
    (known : sh2.getReportLen item.reportId = item.bytes.length)
    {payload before later : List (BitVec 8)}
    (content : payload = before ++ (item.bytes ++ later))
    {len : Nat}
    (within : before.length < len)
    (time referenceDelta : BitVec 32) :
    inputLoop sensorEvent payload len time before.length referenceDelta sh2 =
      (sh2.inputReport sensorEvent (item.bytes ++ later) item.reportId
        item.bytes.length time referenceDelta).bind fun (reference, next) =>
          inputLoop sensorEvent payload len time (before ++ item.bytes).length
            reference next := by
  obtain ⟨rest, bytes⟩ := head_bytes item
  have first : payload[before.length]? = some item.reportId := by
    rw [content, List.getElem?_append_right le_rfl, bytes]
    simp
  have onward : payload.drop before.length = item.bytes ++ later := by
    rw [content, List.drop_left]
  have positive : 0 < item.bytes.length := by
    rw [bytes]
    exact Nat.succ_pos _
  rw [inputLoop, if_pos within, first]
  simp only [onward, known, positive, ↓reduceDIte, List.length_append]

theorem inputLoop_items
    {sensorEvent : SensorEvent → Node → Option Node}
    {lengths : BitVec 8 → Nat}
    {items : List BatchItem}
    (known : Knows lengths items)
    {now since : ℕ}
    {delta : ℤ}
    (near : Near (BatchItem.readings delta items))
    (punctual : BatchItem.readings delta items ≠ [] →
      since ≤ now ∧ now < since + 2 ^ 32)
    {sh2 : Sh2 Node}
    {node final : Node}
    (running : sh2.Running lengths since node)
    (taken : ((BatchItem.readings delta items).map (readingEvent now)).foldlM
      (fun node event => sensorEvent event node) node = some final)
    {payload before later : List (BitVec 8)}
    (content : payload = before ++ (items.flatMap BatchItem.bytes ++ later))
    {len : Nat}
    (length : len = before.length + (items.flatMap BatchItem.bytes).length) :
    ∃ last,
      inputLoop sensorEvent payload len (BitVec.ofNat 32 now) before.length
        (BitVec.ofInt 32 delta) sh2 = some last ∧
      last.Running lengths
        (if BatchItem.readings delta items = [] then since else now) final := by
  induction items generalizing sh2 since node delta before with
  | nil =>
      obtain rfl := Option.some_inj.mp taken
      exact ⟨sh2, by rw [inputLoop, if_neg (by simp [length])], running⟩
  | cons item items inductionHypothesis =>
      obtain ⟨knownHere, knownLater⟩ := List.forall_mem_cons.mp known
      rw [List.flatMap_cons, List.append_assoc] at content
      rw [List.flatMap_cons, List.length_append] at length
      have size : len = (before ++ item.bytes).length +
          (items.flatMap BatchItem.bytes).length := by
        rw [length, List.length_append, Nat.add_assoc]
      have split : payload = (before ++ item.bytes) ++
          (items.flatMap BatchItem.bytes ++ later) := by
        rw [content, List.append_assoc]
      have within : before.length < len := by
        obtain ⟨rest, bytes⟩ := head_bytes item
        rw [length, bytes, List.length_cons]
        omega
      have announced : sh2.getReportLen item.reportId = item.bytes.length := by
        rw [running.lengths, knownHere]
      rw [inputLoop_item sensorEvent announced content within]
      cases item with
      | sensor reading =>
          obtain ⟨ordered, soon⟩ := punctual (List.cons_ne_nil _ _)
          obtain ⟨nearHere, nearLater⟩ := List.forall_mem_cons.mp near
          obtain ⟨middle, one, rest⟩ := Option.bind_eq_some_iff.mp taken
          obtain ⟨next, reported, runningNext⟩ :=
            inputReport_sensor running ordered soon nearHere one
              (items.flatMap BatchItem.bytes ++ later)
          simp only [BatchItem.bytes, BatchItem.reportId, reported,
            Option.bind_some]
          obtain ⟨last, loop, runningLast⟩ := inductionHypothesis knownLater
            nearLater (fun _ => ⟨le_rfl, by omega⟩) runningNext rest split size
          refine ⟨last, loop, ?_⟩
          rw [ite_self] at runningLast
          exact runningLast
      | base | rebase | flushed =>
          rw [inputReport_other sensorEvent sh2 _ (by rintro reading ⟨⟩)]
          exact inductionHypothesis knownLater near punctual running taken
            split size

end Sh2

/-- A batch on a channel, and the host's time when it came. -/
structure Batch where
  chan : Fin sh2MaxChans
  items : List BatchItem
  now : ℕ

namespace Batch

/-- The bytes of a batch. -/
def bytes (batch : Batch) : List (BitVec 8) :=
  batch.items.flatMap BatchItem.bytes

/-- What the listener of the channel gets. -/
def delivery (batch : Batch) : Delivery :=
  ⟨batch.chan, batch.bytes, BitVec.ofNat 32 batch.now⟩

def readings (batch : Batch) : List (Reading × ℤ) :=
  BatchItem.readings 0 batch.items

/-- The events of a batch. -/
def events (batch : Batch) : List SensorEvent :=
  batch.readings.map (readingEvent batch.now)

/-- When a report was stamped last, after a batch. -/
def stamped (batch : Batch) (since : ℕ) : ℕ :=
  if batch.readings = [] then since else batch.now

end Batch

/-- Between the stamps of some batches, less than a period of the host's counter
passes. -/
def Punctual : ℕ → List Batch → Prop
  | _, [] => True
  | since, batch :: batches =>
      (batch.readings ≠ [] →
        since ≤ batch.now ∧ batch.now < since + 2 ^ 32) ∧
      Punctual (batch.stamped since) batches

namespace Sh2

variable {Node : Type}

/-- Every reading of a batch becomes an event, in order. -/
theorem sensorhubInputHdlr_batch
    {sensorEvent : SensorEvent → Node → Option Node}
    {lengths : BitVec 8 → Nat}
    {batch : Batch}
    (known : Knows lengths batch.items)
    (near : Near batch.readings)
    {since : ℕ}
    (punctual : batch.readings ≠ [] →
      since ≤ batch.now ∧ batch.now < since + 2 ^ 32)
    {sh2 : Sh2 Node}
    {node final : Node}
    (running : sh2.Running lengths since node)
    (taken : batch.events.foldlM (fun node event => sensorEvent event node)
      node = some final)
    {payload : Buffer (BitVec 8) sh2HalMaxPayloadIn}
    (content : payload.values.take batch.bytes.length = batch.bytes) :
    ∃ last,
      sh2.sensorhubInputHdlr sensorEvent payload batch.bytes.length
        (BitVec.ofNat 32 batch.now) = some last ∧
      last.Running lengths (batch.stamped since) final := by
  have split : payload.values = [] ++ (batch.items.flatMap BatchItem.bytes ++
      payload.values.drop batch.bytes.length) := by
    conv_lhs => rw [← List.take_append_drop batch.bytes.length payload.values,
      content]
    rfl
  have size : batch.bytes.length = ([] : List (BitVec 8)).length +
      (batch.items.flatMap BatchItem.bytes).length :=
    (Nat.zero_add _).symm
  exact inputLoop_items known near punctual running taken split size

/-! ## Batches over the link -/

/-- The contract of the listener of an input channel. -/
def inputContract (sensorEvent : SensorEvent → Node → Option Node) :
    Contract (Sh2 Node) Delivery where
  able sh2 delivery := ∀ payload : Buffer (BitVec 8) sh2HalMaxPayloadIn,
    payload.values.take delivery.payload.length = delivery.payload →
    ∃ next, sh2.sensorhubInputHdlr sensorEvent payload delivery.payload.length
      delivery.timestamp = some next
  serve sh2 delivery next := ∃ payload : Buffer (BitVec 8) sh2HalMaxPayloadIn,
    payload.values.take delivery.payload.length = delivery.payload ∧
    sh2.sensorhubInputHdlr sensorEvent payload delivery.payload.length
      delivery.timestamp = some next

theorem aside_inputContract
    (sensorEvent : SensorEvent → Node → Option Node)
    (chan : Fin sh2MaxChans)
    {callback : ChanCallback}
    (input : callback = .sensorhubInputNormalHdlr ∨
      callback = .sensorhubInputWakeHdlr) :
    Aside (call sensorEvent) (inputContract sensorEvent) chan callback := by
  intro payload len timestamp shtp within able
  have length : (payload.values.take len).length = len := by
    rw [List.length_take, payload.length_values]
    omega
  obtain ⟨next, handled⟩ := able payload (by rw [length])
  refine ⟨next, ⟨payload, by rw [length], handled⟩, ?_⟩
  rw [length] at handled
  rcases input with rfl | rfl
  all_goals
    simp only [call]
    rw [handled]
    rfl

/-- The batches that a listener gets are taken one after the other. -/
theorem able_batches
    {sensorEvent : SensorEvent → Node → Option Node}
    {lengths : BitVec 8 → Nat}
    {batches : List Batch}
    (known : ∀ batch ∈ batches, Knows lengths batch.items)
    (near : ∀ batch ∈ batches, Near batch.readings)
    {since : ℕ}
    (punctual : Punctual since batches)
    {sh2 : Sh2 Node}
    {node final : Node}
    (running : sh2.Running lengths since node)
    (taken : (batches.flatMap Batch.events).foldlM
      (fun node event => sensorEvent event node) node = some final) :
    (inputContract sensorEvent).Able sh2 (batches.map Batch.delivery) ∧
      ∀ next,
        (inputContract sensorEvent).Served sh2 (batches.map Batch.delivery)
          next → next.node = final := by
  induction batches generalizing sh2 since node with
  | nil =>
      obtain rfl := Option.some_inj.mp taken
      refine ⟨trivial, fun next served => ?_⟩
      cases served
      exact running.node
  | cons batch batches inductionHypothesis =>
      rw [List.forall_mem_cons] at known near
      rw [List.flatMap_cons, List.foldlM_append] at taken
      obtain ⟨middle, one, rest⟩ := Option.bind_eq_some_iff.mp taken
      have here : ∀ payload : Buffer (BitVec 8) sh2HalMaxPayloadIn,
          payload.values.take batch.bytes.length = batch.bytes →
          ∃ last, sh2.sensorhubInputHdlr sensorEvent payload batch.bytes.length
            (BitVec.ofNat 32 batch.now) = some last ∧
            last.Running lengths (batch.stamped since) middle :=
        fun payload content => sensorhubInputHdlr_batch known.1 near.1
          punctual.1 running one content
      have after : ∀ next,
          (inputContract sensorEvent).serve sh2 batch.delivery next →
          next.Running lengths (batch.stamped since) middle := by
        rintro next ⟨payload, content, handled⟩
        obtain ⟨last, same, runningLast⟩ := here payload content
        obtain rfl := Option.some_inj.mp (handled.symm.trans same)
        exact runningLast
      have later := fun next served => inductionHypothesis known.2 near.2
        punctual.2 (after next served) rest
      refine ⟨⟨fun payload content => ?_, fun next served =>
        (later next served).1⟩, fun next served => ?_⟩
      · obtain ⟨last, handled, -⟩ := here payload content
        exact ⟨last, handled⟩
      · cases served with
        | cons first others => exact (later _ first).2 next others

/-- Whatever is lost on the link, if never 256 transfers in a row: when what
comes of the cargos are batches, each of their readings becomes one event, in
order, with the time at which it was taken. -/
theorem events_over_link
    {sensorEvent : SensorEvent → Node → Option Node}
    {shtp : HubTransport Node}
    (idle : shtp.inRemaining = 0)
    (seqs : Fin sh2MaxChans → BitVec 8)
    {cargos : List Cargo}
    (connected : ∀ cargo ∈ cargos,
      cargo.chan.val < shtp.chanListener.length ∧
        ((shtp.chan cargo.chan).callback = some .sensorhubInputNormalHdlr ∨
          (shtp.chan cargo.chan).callback = some .sensorhubInputWakeHdlr))
    (few : ¬List.replicate 256 none <:+:
      cargos.flatMap fun cargo => cargo.pieces.map Piece.arrival)
    {batches : List Batch}
    (arrive : cargos.filterMap Cargo.arrived = batches.map Batch.delivery)
    {since : ℕ}
    {node final : Node}
    (running : shtp.owner.Running shtp.owner.getReportLen since node)
    (known : ∀ batch ∈ batches, Knows shtp.owner.getReportLen batch.items)
    (near : ∀ batch ∈ batches, Near batch.readings)
    (punctual : Punctual since batches)
    (taken : (batches.flatMap Batch.events).foldlM
      (fun node event => sensorEvent event node) node = some final) :
    ∃ next,
      shtp.receive (call sensorEvent) (link seqs cargos) = some next ∧
      next.owner.node = final := by
  have contracted : ∀ cargo ∈ cargos, shtp.Connected (call sensorEvent)
      (inputContract sensorEvent) cargo.chan := by
    intro cargo member
    obtain ⟨known, input⟩ := connected cargo member
    rcases input with normal | wake
    · exact ⟨known, _, normal, aside_inputContract _ _ (.inl rfl)⟩
    · exact ⟨known, _, wake, aside_inputContract _ _ (.inr rfl)⟩
  obtain ⟨able, served⟩ := able_batches known near punctual running taken
  rw [← arrive] at able served
  obtain ⟨next, received, -, serves⟩ :=
    (between_of_idle idle seqs few).cargos contracted able
  exact ⟨next, received, served _ serves⟩

/-- A callback that notes the events. -/
def note (event : SensorEvent) (events : List SensorEvent) :
    Option (List SensorEvent) :=
  some (events ++ [event])

theorem foldlM_note (events noted : List SensorEvent) :
    events.foldlM (fun noted event => note event noted) noted =
      some (noted ++ events) := by
  induction events generalizing noted with
  | nil => simp
  | cons event events inductionHypothesis =>
      rw [List.foldlM_cons]
      exact (inductionHypothesis (noted ++ [event])).trans (by simp)

/-- The transport of a driver at work, with an input channel. -/
def atWork (node : Node) : HubTransport Node :=
  { (cleared (working node) : HubTransport Node) with
    chanListener := hubListeners
    chan := fun _ => ⟨0, 0, 2, inputNormalName, false,
      some .sensorhubInputNormalHdlr⟩ }

theorem atWork_running (node : Node) :
    (atWork node).owner.Running (atWork node).owner.getReportLen 0 node :=
  ⟨rfl, rfl, rfl, rfl, rfl⟩

/-- A reading of the accelerometer with some delay. -/
def delayed (delay : BitVec 14) : Reading where
  reportId := 1
  sequence := 0
  status := 3
  delay := delay
  data := [0, 0, 0, 0, 0, 0]
  apart := by decide
  short := by decide

/-- Two batches about a rollover.  Of the second one, a sample was taken before
it and one after it. -/
def aboutRollover : List Batch :=
  [⟨3, [.sensor (delayed 0)], 2 ^ 32 - 1000⟩,
    ⟨3, [.base 5, .sensor (delayed 1), .sensor (delayed 4)], 2 ^ 32 + 300⟩]

/-- Their cargos.  One between them is lost. -/
def aboutRolloverCargos : List Cargo :=
  [{ chan := 3
     pieces :=
      [⟨[1, 0, 3, 0], by decide, some (BitVec.ofNat 32 (2 ^ 32 - 1000))⟩,
        ⟨[0, 0, 0, 0, 0, 0], by decide, some (BitVec.ofNat 32 (2 ^ 32 - 900))⟩]
     fits := by decide },
    { chan := 3
      pieces := [⟨[1, 1, 3, 0, 7, 7, 7, 7, 7, 7], by decide, none⟩]
      fits := by decide },
    { chan := 3
      pieces :=
        [⟨[0xFB, 5, 0, 0, 0, 1, 0, 3, 1, 0, 0, 0, 0, 0, 0, 1, 0, 3, 4, 0, 0, 0,
          0, 0, 0], by decide, some 300⟩]
      fits := by decide }]

end Sh2
end Skatebot
