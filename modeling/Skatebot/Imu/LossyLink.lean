import Skatebot.Imu.Shtp
import Skatebot.Library.Contract
import Mathlib.Data.List.DropRight
import Mathlib.Data.List.Infix

/-!
# Cargos over a link that loses transfers

The hub splits a cargo into transfers and numbers the transfers of each channel
on its own.  A receiver that misses some of them hands over what came of the
cargo after the last gap, as if it were the cargo: `rxAssemble` never asks
whether the fragment that begins a payload continues one.  What the listeners
make of it is up to their contract.
-/

namespace Skatebot

open Library

variable {Callback AdvertCallback Owner : Type}

/-- The listener of a channel keeps a contract, and leaves the transport to
itself. -/
def Aside (call : Call Callback AdvertCallback Owner)
    (contract : Contract Owner Delivery) (chan : Fin sh2MaxChans)
    (callback : Callback) : Prop :=
  ∀ payload len timestamp shtp, len ≤ sh2HalMaxPayloadIn →
    contract.able shtp.owner ⟨chan, payload.values.take len, timestamp⟩ →
    ∃ owner,
      contract.serve shtp.owner ⟨chan, payload.values.take len, timestamp⟩
        owner ∧
      call callback payload len timestamp shtp =
        some { shtp with owner := owner }

namespace Shtp

/-- The channel has a listener that keeps the contract. -/
def Connected (call : Call Callback AdvertCallback Owner)
    (contract : Contract Owner Delivery)
    (shtp : Shtp Callback AdvertCallback Owner)
    (chan : Fin sh2MaxChans) : Prop :=
  chan.val < shtp.chanListener.length ∧
    ∃ callback, (shtp.chan chan).callback = some callback ∧
      Aside call contract chan callback

/-- What a transfer leaves of the channels. -/
structure Stepped (shtp : Shtp Callback AdvertCallback Owner)
    (chan : Fin sh2MaxChans) (seq : BitVec 8)
    (next : Shtp Callback AdvertCallback Owner) : Prop where
  chanListener : next.chanListener = shtp.chanListener
  callback : ∀ other, (next.chan other).callback = (shtp.chan other).callback
  nextInSeq : ∀ other, (next.chan other).nextInSeq =
    if other = chan then seq + 1 else (shtp.chan other).nextInSeq

theorem Stepped.connected
    {call : Call Callback AdvertCallback Owner}
    {contract : Contract Owner Delivery}
    {shtp next : Shtp Callback AdvertCallback Owner}
    {chan other : Fin sh2MaxChans}
    {seq : BitVec 8}
    (stepped : shtp.Stepped chan seq next)
    (connected : shtp.Connected call contract other) :
    next.Connected call contract other := by
  rwa [Connected, stepped.chanListener, stepped.callback]

/-- Only the sequence number that is expected changes. -/
theorem stepped_expect
    {shtp handed : Shtp Callback AdvertCallback Owner}
    (chan : Fin sh2MaxChans)
    (seq : BitVec 8)
    (chanListener : handed.chanListener = shtp.chanListener)
    (same : handed.chan = shtp.chan) :
    shtp.Stepped chan seq (handed.expect chan (seq + 1)) := by
  refine ⟨chanListener, ?_, ?_⟩
  all_goals
    intro other
    rcases eq_or_ne other chan with rfl | apart
    · simp [expect, same]
    · simp [expect, same, apart]

/-- The payload under construction: its channel, what there is of it, how many
bytes are left, and the time of its first transfer. -/
structure Holding (shtp : Shtp Callback AdvertCallback Owner)
    (chan : Fin sh2MaxChans) (bytes : List (BitVec 8)) (left : Nat)
    (since : BitVec 32) : Prop where
  inRemaining : shtp.inRemaining = left
  inChan : shtp.inChan = chan
  inCursor : shtp.inCursor = bytes.length
  inPayload : shtp.inPayload.values.take bytes.length = bytes
  inTimestamp : shtp.inTimestamp = since

/-- After a transfer the payload under construction has grown, or, with the
last one, is handed over. -/
structure Received (contract : Contract Owner Delivery)
    (shtp : Shtp Callback AdvertCallback Owner)
    (chan : Fin sh2MaxChans) (seq : BitVec 8) (bytes : List (BitVec 8))
    (left : Nat) (since : BitVec 32)
    (next : Shtp Callback AdvertCallback Owner) : Prop where
  stepped : shtp.Stepped chan seq next
  part : left ≠ 0 → next.Holding chan bytes left since ∧
    next.delivered = shtp.delivered ∧ next.owner = shtp.owner
  last : left = 0 → next.inRemaining = 0 ∧
    next.delivered = shtp.delivered ++ [⟨chan, bytes, since⟩] ∧
    contract.serve shtp.owner ⟨chan, bytes, since⟩ next.owner

/-- A fragment that is appended. -/
theorem append_received
    {call : Call Callback AdvertCallback Owner}
    {contract : Contract Owner Delivery}
    {shtp : Shtp Callback AdvertCallback Owner}
    {chan : Fin sh2MaxChans}
    (connected : shtp.Connected call contract chan)
    (seq : BitVec 8)
    {held fragment : List (BitVec 8)}
    {since : BitVec 32}
    (holding : shtp.Holding chan held shtp.inRemaining since)
    {left : Nat}
    (room : held.length + fragment.length + left + shtpHdrLen ≤
      sh2HalMaxPayloadIn)
    (able : left = 0 →
      contract.able shtp.owner ⟨chan, held ++ fragment, since⟩) :
    ∃ next,
      shtp.append call (fragment.length + left + shtpHdrLen) chan seq
        fragment = some next ∧
      Received contract shtp chan seq (held ++ fragment) left since next := by
  have within : shtp.inCursor + fragment.length ≤ sh2HalMaxPayloadIn := by
    rw [holding.inCursor]
    omega
  obtain ⟨inPayload, written⟩ := shtp.inPayload.exists_write within
  have stored := Buffer.take_of_write written
  rw [holding.inCursor, holding.inPayload, ← List.length_append] at stored
  rcases Nat.eq_zero_or_pos left with rfl | more
  · obtain ⟨-, callback, found, aside⟩ := connected
    have handed : inPayload.values.take (shtp.inCursor + fragment.length) =
        held ++ fragment := by
      rwa [holding.inCursor, ← List.length_append]
    rw [append_last call shtp chan seq (by omega) written, deliver]
    have request := able rfl
    rw [← handed, ← holding.inTimestamp] at request
    obtain ⟨owner, served, returned⟩ := aside inPayload
      (shtp.inCursor + fragment.length) shtp.inTimestamp
      { shtp with
        inPayload := inPayload
        inCursor := shtp.inCursor + fragment.length
        inRemaining := 0
        delivered := shtp.delivered ++
          [⟨chan, held ++ fragment, shtp.inTimestamp⟩] } within request
    simp only [found, handed]
    rw [returned]
    rw [handed] at served
    refine ⟨_, rfl, stepped_expect chan seq rfl rfl, fun nonempty => ?_,
      fun _ => ⟨rfl, ?_, ?_⟩⟩
    · exact absurd rfl nonempty
    · rw [← holding.inTimestamp]
      rfl
    · rw [← holding.inTimestamp]
      exact served
  · refine ⟨_, append_part call shtp chan seq (by omega) written,
      stepped_expect chan seq rfl rfl, fun _ => ⟨?_, rfl, rfl⟩,
      fun empty => ?_⟩
    · refine ⟨?_, holding.inChan, ?_, stored, holding.inTimestamp⟩
      · change fragment.length + left + shtpHdrLen -
          (fragment.length + shtpHdrLen) = left
        omega
      · change shtp.inCursor + fragment.length = _
        rw [holding.inCursor, List.length_append]
    · omega

/-- A transfer that begins a payload. -/
theorem rxAssemble_begins
    {call : Call Callback AdvertCallback Owner}
    {contract : Contract Owner Delivery}
    {shtp : Shtp Callback AdvertCallback Owner}
    {chan : Fin sh2MaxChans}
    (connected : shtp.Connected call contract chan)
    {continuation : Bool}
    {seq : BitVec 8}
    (begins : shtp.inRemaining = 0 ∨ ¬shtp.Fits continuation chan seq)
    {fragment : List (BitVec 8)}
    {left : Nat}
    (room : fragment.length + left + shtpHdrLen ≤ sh2HalMaxPayloadIn)
    (t_us : BitVec 32)
    (able : left = 0 → contract.able shtp.owner ⟨chan, fragment, t_us⟩) :
    ∃ next,
      shtp.rxAssemble call
        (transferHeader (fragment.length + left + shtpHdrLen) continuation
          (BitVec.ofNat 8 chan) seq ++ fragment) t_us = some next ∧
      Received contract shtp chan seq fragment left t_us next := by
  have small : fragment.length + left + shtpHdrLen < 0x8000 := by
    unfold sh2HalMaxPayloadIn at room
    omega
  rw [rxAssemble_transfer call shtp (by omega) small continuation connected.1,
    assemble_begin call shtp room begins]
  let empty := { shtp with
    inRemaining := 0
    inTimestamp := t_us
    inCursor := 0
    inChan := chan }
  have holding : empty.Holding chan [] empty.inRemaining t_us :=
    ⟨rfl, rfl, rfl, rfl, rfl⟩
  have connectedEmpty : empty.Connected call contract chan := connected
  have roomEmpty : ([] : List (BitVec 8)).length + fragment.length + left +
      shtpHdrLen ≤ sh2HalMaxPayloadIn := by
    simpa using room
  obtain ⟨next, appended, ⟨⟨chanListener, callback, nextInSeq⟩, part, last⟩⟩ :=
    append_received connectedEmpty seq holding roomEmpty able
  exact ⟨next, appended, ⟨chanListener, callback, nextInSeq⟩, part, last⟩

/-- A transfer that continues the payload under construction. -/
theorem rxAssemble_continues
    {call : Call Callback AdvertCallback Owner}
    {contract : Contract Owner Delivery}
    {shtp : Shtp Callback AdvertCallback Owner}
    {chan : Fin sh2MaxChans}
    (connected : shtp.Connected call contract chan)
    {held fragment : List (BitVec 8)}
    {left : Nat}
    {since : BitVec 32}
    (holding : shtp.Holding chan held (fragment.length + left) since)
    (filled : fragment ≠ [])
    (room : held.length + fragment.length + left + shtpHdrLen ≤
      sh2HalMaxPayloadIn)
    (t_us : BitVec 32)
    (able : left = 0 →
      contract.able shtp.owner ⟨chan, held ++ fragment, since⟩) :
    ∃ next,
      shtp.rxAssemble call
        (transferHeader (fragment.length + left + shtpHdrLen) true
          (BitVec.ofNat 8 chan) (shtp.chan chan).nextInSeq ++ fragment) t_us =
        some next ∧
      Received contract shtp chan (shtp.chan chan).nextInSeq
        (held ++ fragment) left since next := by
  have small : fragment.length + left + shtpHdrLen < 0x8000 := by
    unfold sh2HalMaxPayloadIn at room
    omega
  have positive := List.length_pos_iff.mpr filled
  have unfinished : shtp.inRemaining ≠ 0 := by
    rw [holding.inRemaining]
    omega
  have fits : shtp.Fits true chan (shtp.chan chan).nextInSeq :=
    ⟨rfl, holding.inChan.symm, rfl⟩
  rw [rxAssemble_transfer call shtp (by omega) small true connected.1,
    assemble_continue call shtp _ unfinished fits]
  exact append_received connected _
    (by rw [holding.inRemaining]; exact holding) room able

end Shtp

/-! ## The hub's transfers -/

/-- A piece of a cargo, and when its transfer arrives, if it does. -/
structure Piece where
  bytes : List (BitVec 8)
  filled : bytes ≠ []
  arrival : Option (BitVec 32)

/-- A cargo as the hub sends it. -/
structure Cargo where
  chan : Fin sh2MaxChans
  pieces : List Piece
  fits : (pieces.flatMap Piece.bytes).length + shtpHdrLen ≤ sh2HalMaxPayloadIn

/-- A transfer on the link, and when it arrives, if it does. -/
abbrev Transfer := List (BitVec 8) × Option (BitVec 32)

/-- The transfers of the rest of a cargo. -/
def transfers (chan : Fin sh2MaxChans) (seq : BitVec 8)
    (continuation : Bool) : List Piece → List Transfer
  | [] => []
  | piece :: pieces =>
      (transferHeader
        (piece.bytes.length + (pieces.flatMap Piece.bytes).length + shtpHdrLen)
        continuation (BitVec.ofNat 8 chan) seq ++ piece.bytes, piece.arrival) ::
        transfers chan (seq + 1) true pieces

/-- The transfers of the hub, which numbers them for each channel. -/
def link (seqs : Fin sh2MaxChans → BitVec 8) : List Cargo → List Transfer
  | [] => []
  | cargo :: cargos =>
      transfers cargo.chan (seqs cargo.chan) false cargo.pieces ++
        link (Function.update seqs cargo.chan
          (seqs cargo.chan + BitVec.ofNat 8 cargo.pieces.length)) cargos

namespace Shtp

/-- `rxAssemble` takes the transfers that arrive. -/
def receive (call : Call Callback AdvertCallback Owner) :
    Shtp Callback AdvertCallback Owner → List Transfer →
      Option (Shtp Callback AdvertCallback Owner)
  | shtp, [] => some shtp
  | shtp, (_, none) :: later => shtp.receive call later
  | shtp, (input, some t_us) :: later =>
      (shtp.rxAssemble call input t_us).bind fun next =>
        next.receive call later

theorem receive_append
    (call : Call Callback AdvertCallback Owner)
    (shtp : Shtp Callback AdvertCallback Owner)
    (first second : List Transfer) :
    shtp.receive call (first ++ second) =
      (shtp.receive call first).bind fun next => next.receive call second := by
  induction first generalizing shtp with
  | nil => rfl
  | cons transfer first inductionHypothesis =>
      obtain ⟨input, arrival⟩ := transfer
      cases arrival with
      | none => exact inductionHypothesis shtp
      | some t_us =>
          simp only [List.cons_append, receive, inductionHypothesis,
            Option.bind_assoc]

end Shtp

/-! ## What comes of a cargo -/

/-- The bytes of some pieces, with the arrival of the first. -/
def gathered : List Piece → Option (List (BitVec 8) × BitVec 32)
  | [] => none
  | piece :: pieces =>
      piece.arrival.map fun since =>
        ((piece :: pieces).flatMap Piece.bytes, since)

/-- The pieces of a cargo after the last that is lost. -/
def Cargo.unbroken (cargo : Cargo) : List Piece :=
  cargo.pieces.rtakeWhile fun piece => piece.arrival.isSome

/-- What a listener gets of a cargo: what comes after the last gap, with the
time at which that began. -/
def Cargo.arrived (cargo : Cargo) : Option Delivery :=
  (gathered cargo.unbroken).map fun (payload, timestamp) =>
    ⟨cargo.chan, payload, timestamp⟩

/-- A cargo arrives whole exactly if none of its transfers is lost. -/
theorem Cargo.arrived_whole_iff
    (cargo : Cargo)
    (nonempty : cargo.pieces ≠ []) :
    (∃ delivery, cargo.arrived = .some delivery ∧
      delivery.payload = cargo.pieces.flatMap Piece.bytes) ↔
      ∀ piece ∈ cargo.pieces, piece.arrival.isSome := by
  have suffix : cargo.unbroken <:+ cargo.pieces :=
    List.rtakeWhile_suffix ..
  rw [← List.rtakeWhile_eq_self_iff]
  change _ ↔ cargo.unbroken = cargo.pieces
  constructor
  · rintro ⟨delivery, arrived, whole⟩
    obtain ⟨⟨payload, since⟩, gathers, rfl⟩ := Option.map_eq_some_iff.mp arrived
    cases unbroken : cargo.unbroken with
    | nil =>
        rw [unbroken] at gathers
        cases gathers
    | cons piece pieces =>
        rw [unbroken] at gathers suffix
        obtain ⟨t_us, -, same⟩ := Option.map_eq_some_iff.mp gathers
        obtain ⟨rfl, -⟩ := Prod.mk.inj same
        obtain ⟨before, split⟩ := suffix
        -- Pieces before these would add their bytes.
        cases before with
        | nil => exact split
        | cons first before =>
            have longer := congrArg List.length whole
            have filled := List.length_pos_iff.mpr first.filled
            simp only [← split, List.cons_append, List.flatMap_cons,
              List.flatMap_append, List.length_append] at longer
            omega
  · intro unbroken
    obtain ⟨piece, pieces, split⟩ := List.exists_cons_of_ne_nil nonempty
    have member : piece ∈ cargo.unbroken := by
      rw [unbroken, split]
      exact List.mem_cons_self
    have arrives := List.mem_rtakeWhile_imp
      (p := fun piece : Piece => piece.arrival.isSome) member
    obtain ⟨since, arrival⟩ := Option.isSome_iff_exists.mp arrives
    refine ⟨⟨cargo.chan, cargo.pieces.flatMap Piece.bytes, since⟩, ?_, rfl⟩
    simp [Cargo.arrived, unbroken, split, gathered, arrival]

/-- What is held after one more piece. -/
def gather (held : Option (List (BitVec 8) × BitVec 32)) (piece : Piece) :
    Option (List (BitVec 8) × BitVec 32) :=
  piece.arrival.map fun t_us =>
    match held with
    | none => (piece.bytes, t_us)
    | some (bytes, since) => (bytes ++ piece.bytes, since)

/-- A piece that arrives adds its bytes. -/
theorem length_of_gather
    {held : Option (List (BitVec 8) × BitVec 32)}
    {piece : Piece}
    {bytes : List (BitVec 8)}
    {since : BitVec 32}
    (gathers : gather held piece = some (bytes, since)) :
    bytes.length =
      (held.elim 0 fun held => held.1.length) + piece.bytes.length := by
  obtain ⟨t_us, -, same⟩ := Option.map_eq_some_iff.mp gathers
  cases held with
  | none =>
      obtain ⟨rfl, -⟩ := Prod.mk.inj same
      simp
  | some held =>
      obtain ⟨rfl, -⟩ := Prod.mk.inj same
      simp

/-- Piece by piece, what is held is what comes after the last gap. -/
theorem foldl_gather (pieces : List Piece) :
    pieces.foldl gather none =
      gathered (pieces.rtakeWhile fun piece => piece.arrival.isSome) := by
  induction pieces using List.reverseRecOn with
  | nil => rfl
  | append_singleton pieces piece inductionHypothesis =>
      rw [List.foldl_append, inductionHypothesis]
      cases arrival : piece.arrival with
      | none =>
          rw [List.rtakeWhile_concat_neg _ _ _ (by simp [arrival])]
          simp [gather, gathered, arrival]
      | some t_us =>
          rw [List.rtakeWhile_concat_pos _ _ _ (by simp [arrival])]
          cases unbroken :
              pieces.rtakeWhile fun piece => piece.arrival.isSome with
          | nil => simp [gather, gathered, arrival]
          | cons first rest =>
              have member : first ∈
                  pieces.rtakeWhile fun piece => piece.arrival.isSome := by
                rw [unbroken]
                exact List.mem_cons_self
              have arrives := List.mem_rtakeWhile_imp member
              obtain ⟨since, begun⟩ := Option.isSome_iff_exists.mp arrives
              simp [gather, gathered, arrival, begun]

/-! ## Losses in a row -/

/-- After so many losses in a row, never do 256 come in a row.  The sequence
numbers repeat after that many. -/
def Few (lost : Nat) (fates : List (Option (BitVec 32))) : Prop :=
  ¬List.replicate 256 none <:+: List.replicate lost none ++ fates

theorem Few.lost
    {count : Nat}
    {fates : List (Option (BitVec 32))}
    (few : Few count (none :: fates)) :
    Few (count + 1) fates := by
  have moved : List.replicate (count + 1) none ++ fates =
      List.replicate count none ++ none :: fates := by
    rw [List.replicate_succ' (n := count), List.append_assoc,
      List.singleton_append]
  rwa [Few, moved]

theorem Few.arrived
    {count : Nat}
    {t_us : BitVec 32}
    {fates : List (Option (BitVec 32))}
    (few : Few count (some t_us :: fates)) :
    Few 0 fates := by
  intro inside
  apply few
  apply List.IsInfix.trans inside
  exact (List.suffix_append_of_suffix (List.suffix_cons ..)).isInfix

theorem Few.lt
    {count : Nat}
    {fates : List (Option (BitVec 32))}
    (few : Few count fates) :
    count < 256 := by
  by_contra many
  apply few
  have split : count = 256 + (count - 256) := by omega
  rw [split, List.replicate_add, List.append_assoc]
  exact (List.prefix_append ..).isInfix

/-! ## The receiver along the link -/

namespace Shtp

/-- Where nothing is under construction that what follows could be taken to
continue: the channel it belongs to has moved on, but not all the way round. -/
def Apart (shtp : Shtp Callback AdvertCallback Owner)
    (seqs : Fin sh2MaxChans → BitVec 8) (lost : Nat) : Prop :=
  shtp.inRemaining = 0 ∨ ∃ gap, 0 < gap ∧ gap ≤ lost ∧
    seqs shtp.inChan =
      (shtp.chan shtp.inChan).nextInSeq + BitVec.ofNat 8 gap

/-- The receiver within a cargo. -/
def Following (shtp : Shtp Callback AdvertCallback Owner)
    (seqs : Fin sh2MaxChans → BitVec 8) (lost : Nat) (chan : Fin sh2MaxChans)
    (left : Nat) : Option (List (BitVec 8) × BitVec 32) → Prop
  | none => shtp.Apart seqs lost
  | some (bytes, since) =>
      shtp.Holding chan bytes left since ∧
        (shtp.chan chan).nextInSeq = seqs chan

/-- What is apart does not fit. -/
theorem Apart.begins
    {shtp : Shtp Callback AdvertCallback Owner}
    {seqs : Fin sh2MaxChans → BitVec 8}
    {lost : Nat}
    (apart : shtp.Apart seqs lost)
    (few : lost < 256)
    (continuation : Bool)
    (chan : Fin sh2MaxChans) :
    shtp.inRemaining = 0 ∨ ¬shtp.Fits continuation chan (seqs chan) := by
  rcases apart with finished | ⟨gap, positive, bounded, moved⟩
  · exact .inl finished
  · right
    rintro ⟨-, rfl, same⟩
    rw [same] at moved
    have equal := congrArg BitVec.toNat moved
    rw [BitVec.toNat_add, BitVec.toNat_ofNat] at equal
    have small := (shtp.chan shtp.inChan).nextInSeq.isLt
    omega

/-- A transfer that is lost leaves the receiver apart from what follows. -/
theorem Following.lost
    {shtp : Shtp Callback AdvertCallback Owner}
    {seqs : Fin sh2MaxChans → BitVec 8}
    {lost left : Nat}
    {chan : Fin sh2MaxChans}
    {held : Option (List (BitVec 8) × BitVec 32)}
    (following : shtp.Following seqs lost chan left held) :
    shtp.Apart (Function.update seqs chan (seqs chan + 1)) (lost + 1) := by
  cases held with
  | none =>
      rcases following with finished | ⟨gap, positive, bounded, moved⟩
      · exact .inl finished
      · right
        rcases eq_or_ne shtp.inChan chan with same | other
        · refine ⟨gap + 1, by omega, by omega, ?_⟩
          rw [same] at moved
          rw [same, Function.update_self, moved, BitVec.add_assoc,
            BitVec.ofNat_add]
          rfl
        · refine ⟨gap, positive, by omega, ?_⟩
          rw [Function.update_of_ne other]
          exact moved
  | some held =>
      obtain ⟨holding, expected⟩ := following
      right
      refine ⟨1, one_pos, by omega, ?_⟩
      rw [holding.inChan, Function.update_self, expected]
      rfl

/-- A transfer that arrives: what is held of the cargo grows, and the last one
hands it over. -/
theorem Following.arrives
    {call : Call Callback AdvertCallback Owner}
    {contract : Contract Owner Delivery}
    {shtp : Shtp Callback AdvertCallback Owner}
    {seqs : Fin sh2MaxChans → BitVec 8}
    {lost left : Nat}
    {chan : Fin sh2MaxChans}
    {held : Option (List (BitVec 8) × BitVec 32)}
    {piece : Piece}
    (following : shtp.Following seqs lost chan (piece.bytes.length + left) held)
    (connected : shtp.Connected call contract chan)
    (few : lost < 256)
    {continuation : Bool}
    (continues : held.isSome → continuation = true)
    (room : (held.elim 0 fun held => held.1.length) + piece.bytes.length +
      left + shtpHdrLen ≤ sh2HalMaxPayloadIn)
    {t_us : BitVec 32}
    (arrival : piece.arrival = some t_us)
    (able : left = 0 → ∀ bytes since, gather held piece = some (bytes, since) →
      contract.able shtp.owner ⟨chan, bytes, since⟩) :
    ∃ next bytes since,
      shtp.rxAssemble call
        (transferHeader (piece.bytes.length + left + shtpHdrLen) continuation
          (BitVec.ofNat 8 chan) (seqs chan) ++ piece.bytes) t_us = some next ∧
      gather held piece = some (bytes, since) ∧
      Received contract shtp chan (seqs chan) bytes left since next := by
  cases held with
  | none =>
      have begins := Apart.begins following few continuation chan
      simp only [Option.elim_none, zero_add] at room
      obtain ⟨next, assembled, received⟩ :=
        rxAssemble_begins connected begins room t_us
          fun last => able last _ _ (by simp [gather, arrival])
      refine ⟨next, piece.bytes, t_us, assembled, ?_, received⟩
      simp [gather, arrival]
  | some held =>
      obtain ⟨bytes, since⟩ := held
      obtain ⟨holding, expected⟩ := following
      obtain rfl := continues rfl
      obtain ⟨next, assembled, received⟩ :=
        rxAssemble_continues connected holding piece.filled room t_us
          fun last => able last _ _ (by simp [gather, arrival])
      rw [expected] at assembled received
      refine ⟨next, bytes ++ piece.bytes, since, assembled, ?_, received⟩
      simp [gather, arrival]

/-- Between two cargos nothing is under construction, or what is there has been
cut off; the hub's later losses are still few. -/
structure Between (call : Call Callback AdvertCallback Owner)
    (contract : Contract Owner Delivery)
    (shtp : Shtp Callback AdvertCallback Owner)
    (seqs : Fin sh2MaxChans → BitVec 8)
    (fates : List (Option (BitVec 32)))
    (chans : Fin sh2MaxChans → Prop) : Prop where
  connected : ∀ chan, chans chan → shtp.Connected call contract chan
  apart : ∃ lost, Few lost fates ∧ shtp.Apart seqs lost

/-- The pieces of a cargo, from the receiver within it. -/
theorem Following.pieces
    {call : Call Callback AdvertCallback Owner}
    {contract : Contract Owner Delivery}
    {shtp : Shtp Callback AdvertCallback Owner}
    {seqs : Fin sh2MaxChans → BitVec 8}
    {lost : Nat}
    {chan : Fin sh2MaxChans}
    {chans : Fin sh2MaxChans → Prop}
    (chosen : chans chan)
    {held : Option (List (BitVec 8) × BitVec 32)}
    {piece : Piece}
    {pieces : List Piece}
    {fates : List (Option (BitVec 32))}
    (following : shtp.Following seqs lost chan
      ((piece :: pieces).flatMap Piece.bytes).length held)
    (connected : ∀ chan, chans chan → shtp.Connected call contract chan)
    (few : Few lost ((piece :: pieces).map Piece.arrival ++ fates))
    {continuation : Bool}
    (continues : held.isSome → continuation = true)
    (room : (held.elim 0 fun held => held.1.length) +
      ((piece :: pieces).flatMap Piece.bytes).length + shtpHdrLen ≤
        sh2HalMaxPayloadIn)
    (able : contract.Able shtp.owner
      (((piece :: pieces).foldl gather held).map fun (payload, timestamp) =>
        (⟨chan, payload, timestamp⟩ : Delivery)).toList) :
    ∃ next,
      shtp.receive call
        (transfers chan (seqs chan) continuation (piece :: pieces)) =
          some next ∧
      next.Between call contract
        (Function.update seqs chan
          (seqs chan + BitVec.ofNat 8 (pieces.length + 1))) fates chans ∧
      ∃ delivered,
        delivered = (((piece :: pieces).foldl gather held).map
          fun (payload, timestamp) =>
            (⟨chan, payload, timestamp⟩ : Delivery)).toList ∧
        next.delivered = shtp.delivered ++ delivered ∧
        contract.Served shtp.owner delivered next.owner := by
  induction pieces generalizing shtp seqs lost held piece continuation with
  | nil =>
      have one : seqs chan + BitVec.ofNat 8 (0 + 1) = seqs chan + 1 := rfl
      simp only [List.flatMap_cons, List.flatMap_nil, List.append_nil,
        List.map_cons, List.map_nil, List.singleton_append] at following few
      rw [List.length_nil, one]
      cases arrival : piece.arrival with
      | none =>
          rw [arrival] at few
          refine ⟨shtp, by simp [transfers, receive, arrival],
            ⟨connected, _, few.lost, following.lost⟩, [], ?_, ?_, .nil _⟩
          · simp [gather, arrival]
          · simp
      | some t_us =>
          rw [arrival] at few
          have within : (held.elim 0 fun held => held.1.length) +
              piece.bytes.length + 0 + shtpHdrLen ≤ sh2HalMaxPayloadIn := by
            simpa using room
          have last : shtp.Following seqs lost chan (piece.bytes.length + 0)
              held := following
          obtain ⟨next, bytes, since, assembled, gathers, received⟩ :=
            last.arrives (connected chan chosen) few.lt continues within arrival
              fun _ bytes since gathers => by
                rw [List.foldl_cons, List.foldl_nil, gathers] at able
                exact able.1
          obtain ⟨idle, delivered, served⟩ := received.last rfl
          refine ⟨next, ?_, ⟨fun other known =>
            received.stepped.connected (connected other known), 0, few.arrived,
            .inl idle⟩, [⟨chan, bytes, since⟩], ?_, delivered,
            .cons served (.nil _)⟩
          · simp only [transfers, arrival, receive, List.flatMap_nil,
              List.length_nil, assembled, Option.bind_some]
          · simp [gathers]
  | cons second pieces inductionHypothesis =>
      rw [List.flatMap_cons, List.length_append] at following room
      rw [List.map_cons, List.cons_append] at few
      have filled := List.length_pos_iff.mpr second.filled
      -- The number of the next transfer, and that after the whole cargo.
      let moved := Function.update seqs chan (seqs chan + 1)
      have here : moved chan = seqs chan + 1 := Function.update_self ..
      have there :
          Function.update moved chan
            (moved chan + BitVec.ofNat 8 (pieces.length + 1)) =
          Function.update seqs chan
            (seqs chan + BitVec.ofNat 8 ((second :: pieces).length + 1)) := by
        rw [here, Function.update_idem, BitVec.add_assoc, List.length_cons,
          Nat.add_comm (pieces.length + 1) 1, BitVec.ofNat_add 1]
        rfl
      cases arrival : piece.arrival with
      | none =>
          rw [arrival] at few
          have apart : shtp.Following moved (lost + 1) chan
              ((second :: pieces).flatMap Piece.bytes).length none :=
            following.lost
          have onward : (none : Option (List (BitVec 8) × BitVec 32)).isSome →
              true = true := fun _ => rfl
          have gathers : gather held piece = none := by
            simp [gather, arrival]
          rw [List.foldl_cons, gathers] at able ⊢
          obtain ⟨next, run, between, delivered⟩ :=
            inductionHypothesis apart connected few.lost onward (by
              rw [Option.elim_none]
              omega) able
          refine ⟨next, ?_, there ▸ between, delivered⟩
          rw [transfers, arrival, receive, ← here]
          exact run
      | some t_us =>
          rw [arrival] at few
          obtain ⟨middle, bytes, since, assembled, gathers, received⟩ :=
            following.arrives (connected chan chosen) few.lt continues
              (by omega) arrival fun last => by
                rw [List.flatMap_cons, List.length_append] at last
                omega
          have length := length_of_gather gathers
          obtain ⟨holding, undelivered, same⟩ := received.part (by
            rw [List.flatMap_cons, List.length_append]
            omega)
          have expected : (middle.chan chan).nextInSeq = moved chan := by
            rw [received.stepped.nextInSeq, if_pos rfl, here]
          have within : middle.Following moved 0 chan
              ((second :: pieces).flatMap Piece.bytes).length
              (some (bytes, since)) := ⟨holding, expected⟩
          have onward : (some (bytes, since)).isSome → true = true :=
            fun _ => rfl
          rw [List.foldl_cons, gathers, ← same] at able
          rw [List.foldl_cons, gathers, ← undelivered, ← same]
          obtain ⟨next, run, between, delivered⟩ :=
            inductionHypothesis within
              (fun other known =>
                received.stepped.connected (connected other known))
              few.arrived onward (by
                rw [Option.elim_some, length]
                omega) able
          refine ⟨next, ?_, there ▸ between, delivered⟩
          rw [transfers, arrival, receive, assembled, Option.bind_some, ← here]
          exact run

/-- A cargo, between two others. -/
theorem Between.cargo
    {call : Call Callback AdvertCallback Owner}
    {contract : Contract Owner Delivery}
    {shtp : Shtp Callback AdvertCallback Owner}
    {seqs : Fin sh2MaxChans → BitVec 8}
    {cargo : Cargo}
    {fates : List (Option (BitVec 32))}
    {chans : Fin sh2MaxChans → Prop}
    (chosen : chans cargo.chan)
    (between : shtp.Between call contract seqs
      (cargo.pieces.map Piece.arrival ++ fates) chans)
    (able : contract.Able shtp.owner cargo.arrived.toList) :
    ∃ next,
      shtp.receive call
        (transfers cargo.chan (seqs cargo.chan) false cargo.pieces) =
          some next ∧
      next.Between call contract
        (Function.update seqs cargo.chan
          (seqs cargo.chan + BitVec.ofNat 8 cargo.pieces.length)) fates chans ∧
      next.delivered = shtp.delivered ++ cargo.arrived.toList ∧
      contract.Served shtp.owner cargo.arrived.toList next.owner := by
  obtain ⟨connected, lost, few, apart⟩ := between
  rw [Cargo.arrived, Cargo.unbroken, ← foldl_gather] at able ⊢
  have room := cargo.fits
  cases pieces : cargo.pieces with
  | nil =>
      rw [pieces] at few
      refine ⟨shtp, rfl, ⟨connected, lost, few, ?_⟩, by simp, .nil _⟩
      simpa using apart
  | cons piece rest =>
      rw [pieces] at few room able
      have following : shtp.Following seqs lost cargo.chan
          ((piece :: rest).flatMap Piece.bytes).length none := apart
      have first : (none : Option (List (BitVec 8) × BitVec 32)).isSome →
          false = true := fun impossible => nomatch impossible
      obtain ⟨next, run, after, _, rfl, delivered, served⟩ :=
        following.pieces chosen connected few first (by
          rw [Option.elim_none]
          omega) able
      exact ⟨next, run, after, delivered, served⟩

/-- Cargos, one after the other. -/
theorem Between.cargos
    {call : Call Callback AdvertCallback Owner}
    {contract : Contract Owner Delivery}
    {shtp : Shtp Callback AdvertCallback Owner}
    {seqs : Fin sh2MaxChans → BitVec 8}
    {cargos : List Cargo}
    {chans : Fin sh2MaxChans → Prop}
    (between : shtp.Between call contract seqs
      (cargos.flatMap fun cargo => cargo.pieces.map Piece.arrival) chans)
    (chosen : ∀ cargo ∈ cargos, chans cargo.chan)
    (able : contract.Able shtp.owner (cargos.filterMap Cargo.arrived)) :
    ∃ next,
      shtp.receive call (link seqs cargos) = some next ∧
      next.delivered = shtp.delivered ++ cargos.filterMap Cargo.arrived ∧
      contract.Served shtp.owner (cargos.filterMap Cargo.arrived)
        next.owner := by
  induction cargos generalizing shtp seqs with
  | nil => exact ⟨shtp, rfl, by simp, .nil _⟩
  | cons cargo cargos inductionHypothesis =>
      rw [List.forall_mem_cons] at chosen
      rw [List.flatMap_cons] at between
      have joined : (cargo :: cargos).filterMap Cargo.arrived =
          cargo.arrived.toList ++ cargos.filterMap Cargo.arrived := by
        rw [List.filterMap_cons]
        cases cargo.arrived <;> rfl
      rw [joined] at able ⊢
      obtain ⟨middle, first, betweenMiddle, delivered, served⟩ :=
        between.cargo chosen.1 able.left
      obtain ⟨next, rest, deliveredRest, servedRest⟩ :=
        inductionHypothesis betweenMiddle chosen.2 (able.right served)
      refine ⟨next, ?_, ?_, served.append servedRest⟩
      · rw [link, receive_append, first]
        exact rest
      · rw [deliveredRest, delivered, List.append_assoc]

/-- A receiver with nothing under construction is between two cargos. -/
theorem between_of_idle
    {call : Call Callback AdvertCallback Owner}
    {contract : Contract Owner Delivery}
    {shtp : Shtp Callback AdvertCallback Owner}
    (idle : shtp.inRemaining = 0)
    (seqs : Fin sh2MaxChans → BitVec 8)
    {fates : List (Option (BitVec 32))}
    (few : ¬List.replicate 256 none <:+: fates) :
    shtp.Between call contract seqs fates
      fun chan => shtp.Connected call contract chan :=
  ⟨fun _ connected => connected, 0, few, .inl idle⟩

/-- Of fewer transfers, so many are never lost in a row. -/
theorem few_of_length
    {fates : List (Option (BitVec 32))}
    (short : fates.length < 256) :
    ¬List.replicate 256 none <:+: fates := by
  intro inside
  have shorter := inside.length_le
  rw [List.length_replicate] at shorter
  omega

/-- A transport with one listener, which counts. -/
def listening : Shtp Unit Unit Nat :=
  { (cleared 0 : Shtp Unit Unit Nat) with
    chanListener := [⟨0, [], ()⟩]
    chan := fun _ => ⟨0, 0, 0, [], false, some ()⟩ }

/-- The listener adds up what it gets. -/
def count : Call Unit Unit Nat :=
  fun _ _ len _ shtp => some { shtp with owner := shtp.owner + len }

/-- So many bytes more. -/
def counts : Contract Nat Delivery where
  able _ _ := True
  serve total delivery next := next = total + delivery.payload.length

theorem listening_connected (chan : Fin sh2MaxChans) (first : chan.val = 0) :
    listening.Connected count counts chan := by
  refine ⟨by rw [first]; decide, (), rfl, ?_⟩
  intro payload len timestamp shtp within _
  refine ⟨shtp.owner + len, ?_, rfl⟩
  have length : (payload.values.take len).length = len := by
    rw [List.length_take, payload.length_values]
    omega
  change shtp.owner + len = shtp.owner + (payload.values.take len).length
  rw [length]

/-- A cargo whose first transfer is lost. -/
def headless : Cargo where
  chan := 0
  pieces := [⟨[1], by decide, none⟩, ⟨[2], by decide, some 7⟩]
  fits := by decide

/-- A cargo that arrives. -/
def sound : Cargo where
  chan := 0
  pieces := [⟨[3, 4], by decide, some 8⟩, ⟨[5], by decide, some 9⟩]
  fits := by decide

end Shtp
end Skatebot
