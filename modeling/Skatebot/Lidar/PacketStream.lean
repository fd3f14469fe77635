import Skatebot.Lidar.Packet

/-!
# Packets in a stream of bytes

`LiPkg::AnalysisOne` takes the bytes of the serial line one by one and finds the
packets among them.  Whatever comes down the line, it accepts packets only, each
byte of the line belonging to one of them at most; and it finds the lidar's
packets again after any disturbance.
-/

namespace Skatebot

open Library LittleEndian

/-! ## The analysis -/

/-- What `LiPkg::AnalysisOne` waits for. -/
inductive AnalysisState
  | header
  | verLen
  | data
  deriving DecidableEq

/-- The static variables of `LiPkg::AnalysisOne`, and `pkg_`. -/
structure Analysis where
  state : AnalysisState
  /-- The bytes of `tmp` before `count`. -/
  tmp : List (BitVec 8)
  pkg : LiDARFrame

namespace Analysis

/-- The static variables before the first byte. -/
def init (pkg : LiDARFrame) : Analysis where
  state := .header
  tmp := []
  pkg := pkg

/-- `LiPkg::AnalysisOne`. -/
def analysisOne (analysis : Analysis) (byte : BitVec 8) : Bool × Analysis :=
  match analysis.state with
  | .header =>
      if byte = pkgHeader then
        (false, { analysis with
          tmp := analysis.tmp ++ [byte]
          state := .verLen })
      else (false, analysis)
  | .verLen =>
      if byte = pkgVerLen then
        (false, { analysis with
          tmp := analysis.tmp ++ [byte]
          state := .data })
      else (false, { analysis with state := .header, tmp := [] })
  | .data =>
      let tmp := analysis.tmp ++ [byte]
      if tmp.length ≥ pkgCount then
        let pkg := LiDARFrame.ofBytes tmp
        let crc := calCRC8 (pkg.toBytes.take (pkgCount - 1))
        (crc = pkg.crc8, { state := .header, tmp := [], pkg := pkg })
      else (false, { analysis with tmp := tmp })

/-- The analysis after some bytes. -/
def after (analysis : Analysis) (bytes : List (BitVec 8)) : Analysis :=
  bytes.foldl (fun analysis byte => (analysis.analysisOne byte).2) analysis

/-- The packets that are found among some bytes. -/
def accepted (analysis : Analysis) : List (BitVec 8) → List LiDARFrame
  | [] => []
  | byte :: bytes =>
      let (found, next) := analysis.analysisOne byte
      if found then next.pkg :: next.accepted bytes
      else next.accepted bytes

@[simp] theorem after_cons
    (analysis : Analysis) (byte : BitVec 8) (bytes : List (BitVec 8)) :
    analysis.after (byte :: bytes) =
      (analysis.analysisOne byte).2.after bytes := rfl

theorem accepted_cons
    (analysis : Analysis) (byte : BitVec 8) (bytes : List (BitVec 8)) :
    analysis.accepted (byte :: bytes) =
      if (analysis.analysisOne byte).1 then
        (analysis.analysisOne byte).2.pkg ::
          (analysis.analysisOne byte).2.accepted bytes
      else (analysis.analysisOne byte).2.accepted bytes := rfl

theorem after_append
    (analysis : Analysis) (first second : List (BitVec 8)) :
    analysis.after (first ++ second) = (analysis.after first).after second := by
  simp [after]

theorem accepted_append
    (analysis : Analysis) (first second : List (BitVec 8)) :
    analysis.accepted (first ++ second) =
      analysis.accepted first ++ (analysis.after first).accepted second := by
  induction first generalizing analysis with
  | nil => rfl
  | cons byte first inductionHypothesis =>
      rw [List.cons_append, accepted_cons, accepted_cons, after_cons,
        inductionHypothesis]
      split <;> rfl

/-! ## What has been collected -/

/-- What is collected is the beginning of a packet, as far as the state says. -/
def Collecting (analysis : Analysis) : Prop :=
  match analysis.state with
  | .header => analysis.tmp = []
  | .verLen => analysis.tmp = [pkgHeader]
  | .data =>
      ∃ rest, analysis.tmp = pkgHeader :: pkgVerLen :: rest ∧
        analysis.tmp.length < pkgCount

theorem collecting_init (pkg : LiDARFrame) : (init pkg).Collecting := rfl

/-- The last byte of a packet ends the collection; the packet is accepted if its
check is right. -/
theorem analysisOne_full
    (analysis : Analysis)
    (byte : BitVec 8)
    (data : analysis.state = .data)
    (full : (analysis.tmp ++ [byte]).length = pkgCount) :
    analysis.analysisOne byte =
      (decide (calCRC8 (analysis.tmp ++ [byte]) = 0),
        init (LiDARFrame.ofBytes (analysis.tmp ++ [byte]))) := by
  have checked := IsPacket.crc8_eq full
  unfold analysisOne
  rw [data]
  simp only [ge_iff_le, full, le_refl, if_true,
    LiDARFrame.toBytes_ofBytes full, checked]
  rfl

theorem analysisOne_more
    (analysis : Analysis)
    (byte : BitVec 8)
    (data : analysis.state = .data)
    (room : (analysis.tmp ++ [byte]).length < pkgCount) :
    analysis.analysisOne byte =
      (false, { analysis with tmp := analysis.tmp ++ [byte] }) := by
  unfold analysisOne
  rw [data]
  simp only [ge_iff_le, Nat.not_le.mpr room, if_false]

/-- What a byte does: it is passed over, together with the beginning that was
collected; or it is collected; or it is the last of a packet. -/
theorem analysisOne_cases
    {analysis : Analysis}
    (collecting : analysis.Collecting)
    (byte : BitVec 8) :
    (∃ pkg, analysis.analysisOne byte = (false, init pkg)) ∨
      (∃ next : Analysis, analysis.analysisOne byte = (false, next) ∧
        next.Collecting ∧ next.tmp = analysis.tmp ++ [byte]) ∨
      (IsPacket (analysis.tmp ++ [byte]) ∧
        analysis.analysisOne byte =
          (true, init (LiDARFrame.ofBytes (analysis.tmp ++ [byte])))) := by
  obtain ⟨state, tmp, pkg⟩ := analysis
  cases state with
  | header =>
      obtain rfl : tmp = [] := collecting
      by_cases first : byte = pkgHeader
      · subst first
        exact Or.inr (Or.inl ⟨⟨.verLen, [pkgHeader], pkg⟩, rfl, rfl, rfl⟩)
      · exact Or.inl ⟨pkg, by simp [analysisOne, first, init]⟩
  | verLen =>
      obtain rfl : tmp = [pkgHeader] := collecting
      by_cases second : byte = pkgVerLen
      · subst second
        exact Or.inr (Or.inl ⟨⟨.data, [pkgHeader, pkgVerLen], pkg⟩, rfl,
          ⟨[], rfl, show 2 < 47 by decide⟩, rfl⟩)
      · exact Or.inl ⟨pkg, by simp [analysisOne, second, init]⟩
  | data =>
      obtain ⟨rest, rfl, short⟩ := collecting
      rcases lt_or_eq_of_le
        (show ((pkgHeader :: pkgVerLen :: rest) ++ [byte]).length ≤ pkgCount by
          rw [List.length_append]
          exact short) with room | full
      · exact Or.inr (Or.inl ⟨_, analysisOne_more _ _ rfl room,
          ⟨rest ++ [byte], rfl, room⟩, rfl⟩)
      · rw [analysisOne_full _ _ rfl full]
        by_cases checked :
            calCRC8 ((pkgHeader :: pkgVerLen :: rest) ++ [byte]) = 0
        · exact Or.inr (Or.inr ⟨⟨full, rfl, rfl, checked⟩,
            by simp only [checked, decide_true]⟩)
        · exact Or.inl ⟨_, by simp only [checked, decide_false]; rfl⟩

theorem Collecting.after
    {analysis : Analysis}
    (collecting : analysis.Collecting)
    (bytes : List (BitVec 8)) :
    (analysis.after bytes).Collecting := by
  induction bytes generalizing analysis with
  | nil => exact collecting
  | cons byte bytes inductionHypothesis =>
      rw [after_cons]
      apply inductionHypothesis
      rcases analysisOne_cases collecting byte with
        ⟨pkg, passed⟩ | ⟨next, taken, still, -⟩ | ⟨-, complete⟩
      · rw [passed]
        exact collecting_init pkg
      · rw [taken]
        exact still
      · rw [complete]
        exact collecting_init _

/-! ## Only packets are accepted -/

/-- The frames lie among the bytes as packets, one after the other, with
anything between them. -/
inductive Framed : List (BitVec 8) → List LiDARFrame → Prop
  | junk (bytes : List (BitVec 8)) : Framed bytes []
  | packet (between : List (BitVec 8)) {packet rest : List (BitVec 8)}
      {frames : List LiDARFrame} (sound : IsPacket packet)
      (others : Framed rest frames) :
      Framed (between ++ packet ++ rest)
        (LiDARFrame.ofBytes packet :: frames)

theorem Framed.passOver
    {bytes : List (BitVec 8)} {frames : List LiDARFrame}
    (framed : Framed bytes frames)
    (more : List (BitVec 8)) :
    Framed (more ++ bytes) frames := by
  cases framed with
  | junk => exact .junk _
  | packet between sound others =>
      rw [← List.append_assoc, ← List.append_assoc]
      exact .packet (more ++ between) sound others

theorem Collecting.framed
    {analysis : Analysis}
    (collecting : analysis.Collecting)
    (bytes : List (BitVec 8)) :
    Framed (analysis.tmp ++ bytes) (analysis.accepted bytes) := by
  induction bytes generalizing analysis with
  | nil => exact .junk _
  | cons byte bytes inductionHypothesis =>
      have joined : analysis.tmp ++ byte :: bytes =
          (analysis.tmp ++ [byte]) ++ bytes := by simp
      rw [joined, accepted_cons]
      rcases analysisOne_cases collecting byte with
        ⟨pkg, passed⟩ | ⟨next, taken, still, grown⟩ | ⟨sound, complete⟩
      · rw [passed]
        exact (inductionHypothesis (collecting_init pkg)).passOver _
      · rw [taken, ← grown]
        exact inductionHypothesis still
      · rw [complete]
        exact .packet [] sound (inductionHypothesis (collecting_init _))

/-- Of whatever bytes come down the line, those that are accepted are packets,
in their order and none overlapping another. -/
theorem accepted_framed (pkg : LiDARFrame) (bytes : List (BitVec 8)) :
    Framed bytes ((init pkg).accepted bytes) :=
  (collecting_init pkg).framed bytes

/-- What is accepted has been read from a packet among the bytes. -/
theorem Framed.exists_packet
    {bytes : List (BitVec 8)} {frames : List LiDARFrame}
    (framed : Framed bytes frames)
    {pkg : LiDARFrame}
    (member : pkg ∈ frames) :
    ∃ packet, packet <:+: bytes ∧ IsPacket packet ∧
      LiDARFrame.ofBytes packet = pkg := by
  induction framed with
  | junk => exact absurd member List.not_mem_nil
  | packet between sound others inductionHypothesis =>
      rcases List.mem_cons.mp member with rfl | later
      · exact ⟨_, ⟨between, _, rfl⟩, sound, rfl⟩
      · obtain ⟨packet, inside, good, read⟩ := inductionHypothesis later
        exact ⟨packet, inside.trans (List.suffix_append _ _).isInfix, good,
          read⟩

/-- Bytes as many as a packet's that are not one are passed over, and nothing
else is found in them. -/
theorem accepted_of_refused
    (pkg : LiDARFrame)
    {bytes : List (BitVec 8)}
    (length : bytes.length = pkgCount)
    (refused : ¬IsPacket bytes) :
    (init pkg).accepted bytes = [] := by
  have framed : Framed bytes ((init pkg).accepted bytes) :=
    (collecting_init pkg).framed bytes
  generalize (init pkg).accepted bytes = frames at framed
  cases framed with
  | junk => rfl
  | packet between sound others =>
      rename_i inside rest frames
      have all := sound.length
      simp only [List.length_append] at length
      obtain rfl : between = [] := List.eq_nil_of_length_eq_zero (by omega)
      obtain rfl : rest = [] := List.eq_nil_of_length_eq_zero (by omega)
      rw [List.nil_append, List.append_nil] at refused
      exact absurd sound refused

/-- A packet of which up to eight bits in a row were altered, in the order in
which the check takes them, is not accepted, nor is anything else found in
it. -/
theorem accepted_burst
    (pkg : LiDARFrame)
    {good bad : List (BitVec 8)}
    (packet : IsPacket good)
    (length : bad.length = pkgCount)
    (before first second after : List Bool)
    (short : first.length ≤ 8)
    (lengths : first.length = second.length)
    (different : first ≠ second)
    (sent : Crc.messageBits good = before ++ first ++ after)
    (received : Crc.messageBits bad = before ++ second ++ after) :
    (init pkg).accepted bad = [] :=
  accepted_of_refused pkg length
    (packet.burst short lengths different sent received)

/-- A packet of which up to seven bits in a row were altered, in the order in
which the serial line carries them, is not accepted, nor is anything else found
in it. -/
theorem accepted_lineBurst
    (pkg : LiDARFrame)
    {good bad : List (BitVec 8)}
    (packet : IsPacket good)
    (length : bad.length = pkgCount)
    {start : Nat}
    (agree : Crc.AgreeOutside start 7 good bad)
    (different : good ≠ bad) :
    (init pkg).accepted bad = [] :=
  accepted_of_refused pkg length (packet.lineBurst agree different)

/-- A reading of one metre in every direction. -/
def metreAround : LiDARFrame :=
  .send 3600 0 (.replicate pointPerPack ⟨1000, 200⟩) 880 1

theorem isPacket_metreAround : IsPacket metreAround.toBytes :=
  IsPacket.send ..

/-- Such a reading with another first distance. -/
def altered (low high : BitVec 8) : List (BitVec 8) :=
  metreAround.toBytes.take 6 ++ [low, high] ++ metreAround.toBytes.drop 8

/-- The last three bits of a byte and the first four of the next one. -/
theorem accepted_lineBurst_distance :
    (init metreAround).accepted (altered 0x08 0x0c) = [] := by
  have agree : Crc.AgreeOutside 53 7 metreAround.toBytes
      (altered 0x08 0x0c) := by
    decide +kernel
  exact accepted_lineBurst metreAround isPacket_metreAround
    (by decide +kernel) agree (by decide +kernel)

/-- Of eight bits in a row on the line the check misses some. -/
example : IsPacket (altered 0x68 0x7f) ∧
    Crc.AgreeOutside 55 8 metreAround.toBytes (altered 0x68 0x7f) := by
  decide +kernel

/-! ## The packets are found -/

theorem collect_more
    (analysis : Analysis)
    (bytes : List (BitVec 8))
    (data : analysis.state = .data)
    (room : (analysis.tmp ++ bytes).length < pkgCount) :
    analysis.accepted bytes = [] ∧
      analysis.after bytes =
        { analysis with tmp := analysis.tmp ++ bytes } := by
  induction bytes generalizing analysis with
  | nil =>
      refine ⟨rfl, ?_⟩
      rw [List.append_nil]
      rfl
  | cons byte bytes inductionHypothesis =>
      rw [← List.singleton_append, ← List.append_assoc] at room
      have taken := analysis.analysisOne_more byte data
        (by rw [List.length_append] at room; omega)
      obtain ⟨nothing, reached⟩ := inductionHypothesis
        { analysis with tmp := analysis.tmp ++ [byte] } data room
      rw [accepted_cons, after_cons, taken]
      refine ⟨nothing, reached.trans ?_⟩
      simp

/-- What is collected up to the length of a packet is one or is passed over. -/
theorem collect_full
    (analysis : Analysis)
    (bytes : List (BitVec 8))
    (data : analysis.state = .data)
    (short : analysis.tmp.length < pkgCount)
    (full : (analysis.tmp ++ bytes).length = pkgCount) :
    analysis.accepted bytes =
        (if calCRC8 (analysis.tmp ++ bytes) = 0 then
          [LiDARFrame.ofBytes (analysis.tmp ++ bytes)] else []) ∧
      analysis.after bytes =
        init (LiDARFrame.ofBytes (analysis.tmp ++ bytes)) := by
  rcases List.eq_nil_or_concat bytes with rfl | ⟨front, last, rfl⟩
  · rw [List.append_nil] at full
    omega
  · rw [List.concat_eq_append, ← List.append_assoc] at *
    obtain ⟨nothing, reached⟩ := analysis.collect_more front data
      (by rw [List.length_append] at full; simp at full ⊢; omega)
    have ended := analysisOne_full
      { analysis with tmp := analysis.tmp ++ front } last data full
    rw [accepted_append, after_append, nothing, reached, accepted_cons,
      after_cons, ended]
    refine ⟨?_, rfl⟩
    simp only [List.nil_append, decide_eq_true_eq]
    rfl

/-- A packet that begins where the analysis waits for one is accepted. -/
theorem accepted_packet
    (pkg : LiDARFrame)
    {packet : List (BitVec 8)}
    (sound : IsPacket packet) :
    (init pkg).accepted packet = [LiDARFrame.ofBytes packet] ∧
      (init pkg).after packet = init (LiDARFrame.ofBytes packet) := by
  obtain ⟨length, header, verLen, checked⟩ := sound
  match packet, header, verLen with
  | first :: second :: rest, header, verLen =>
      obtain rfl : first = pkgHeader := by simpa using header
      obtain rfl : second = pkgVerLen := by simpa using verLen
      have collected := collect_full
        ⟨.data, [pkgHeader, pkgVerLen], pkg⟩ rest rfl
        (show 2 < 47 by decide) length
      rw [show [pkgHeader, pkgVerLen] ++ rest =
        pkgHeader :: pkgVerLen :: rest from rfl, if_pos checked] at collected
      exact collected

/-- Packets that follow each other are all accepted. -/
theorem accepted_packets
    (pkg : LiDARFrame)
    {packets : List (List (BitVec 8))}
    (sound : ∀ packet ∈ packets, IsPacket packet) :
    (init pkg).accepted packets.flatten =
      packets.map LiDARFrame.ofBytes := by
  induction packets generalizing pkg with
  | nil => rfl
  | cons packet packets inductionHypothesis =>
      rw [List.forall_mem_cons] at sound
      obtain ⟨found, reached⟩ := accepted_packet pkg sound.1
      rw [List.flatten_cons, accepted_append, found, reached,
        inductionHypothesis _ sound.2]
      rfl

/-! ## After a disturbance -/

/-- The bytes that a packet is known by do not stand together here, nor can the
last byte be the first of them. -/
def Quiet : List (BitVec 8) → Prop
  | [] => True
  | [byte] => byte ≠ pkgHeader
  | byte :: next :: bytes =>
      (byte = pkgHeader → next ≠ pkgVerLen) ∧ Quiet (next :: bytes)

instance decidableQuiet : DecidablePred Quiet
  | [] => inferInstanceAs (Decidable True)
  | [byte] => inferInstanceAs (Decidable (byte ≠ pkgHeader))
  | byte :: next :: bytes =>
      have := decidableQuiet (next :: bytes)
      inferInstanceAs
        (Decidable ((byte = pkgHeader → next ≠ pkgVerLen) ∧
          Quiet (next :: bytes)))

theorem Quiet.tail
    {byte : BitVec 8} {bytes : List (BitVec 8)}
    (quiet : Quiet (byte :: bytes)) : Quiet bytes := by
  cases bytes with
  | nil => trivial
  | cons next bytes => exact quiet.2

theorem Quiet.drop
    {bytes : List (BitVec 8)}
    (quiet : Quiet bytes) (count : Nat) : Quiet (bytes.drop count) := by
  induction count generalizing bytes with
  | zero => exact quiet
  | succ count inductionHypothesis =>
      cases bytes with
      | nil => trivial
      | cons byte bytes => exact inductionHypothesis quiet.tail

/-- Where nothing looks like a packet, the analysis goes on waiting. -/
theorem Quiet.passed
    (pkg : LiDARFrame)
    {bytes : List (BitVec 8)}
    (quiet : Quiet bytes) :
    (init pkg).accepted bytes = [] ∧ (init pkg).after bytes = init pkg := by
  induction length : bytes.length using Nat.strong_induction_on
    generalizing bytes with
  | _ count inductionHypothesis =>
      cases bytes with
      | nil => exact ⟨rfl, rfl⟩
      | cons byte bytes =>
          rw [List.length_cons] at length
          by_cases first : byte = pkgHeader
          · cases bytes with
            | nil => exact absurd first quiet
            | cons next bytes =>
                have other := quiet.1 first
                have passed : ((init pkg).analysisOne byte).2.analysisOne
                    next = (false, init pkg) := by
                  simp [analysisOne, init, first, other]
                have taken : ((init pkg).analysisOne byte).1 = false := by
                  simp [analysisOne, init, first]
                rw [List.length_cons] at length
                have rest := inductionHypothesis bytes.length (by omega)
                  quiet.tail.tail rfl
                rw [accepted_cons, taken, accepted_cons, after_cons,
                  after_cons, passed]
                exact rest
          · have passed :
                (init pkg).analysisOne byte = (false, init pkg) := by
              simp [analysisOne, init, first]
            rw [accepted_cons, after_cons, passed]
            exact inductionHypothesis bytes.length (by omega) quiet.tail rfl

/-- A packet with no other beginning of a packet in it leaves the analysis
waiting for the next one, whatever it was doing; at most one packet is found
meanwhile. -/
theorem Collecting.settles
    {analysis : Analysis}
    (collecting : analysis.Collecting)
    {packet : List (BitVec 8)}
    (sound : IsPacket packet)
    (quiet : Quiet packet.tail) :
    (analysis.accepted packet).length ≤ 1 ∧
      ∃ pkg, analysis.after packet = init pkg := by
  obtain ⟨state, tmp, pkg⟩ := analysis
  cases state with
  | header =>
      obtain rfl : tmp = [] := collecting
      obtain ⟨found, reached⟩ := accepted_packet pkg sound
      exact ⟨by rw [show (⟨.header, [], pkg⟩ : Analysis) = init pkg from rfl,
        found]; rfl, _, reached⟩
  | verLen =>
      obtain rfl : tmp = [pkgHeader] := collecting
      obtain ⟨length, header, verLen, checked⟩ := sound
      match packet, header with
      | first :: rest, header =>
          obtain rfl : first = pkgHeader := by simpa using header
          have passed :
              (⟨.verLen, [pkgHeader], pkg⟩ : Analysis).analysisOne
                pkgHeader = (false, init pkg) := rfl
          obtain ⟨nothing, reached⟩ := Quiet.passed pkg quiet
          rw [List.tail_cons] at nothing reached
          rw [accepted_cons, after_cons, passed]
          exact ⟨nothing ▸ Nat.zero_le 1, pkg, reached⟩
  | data =>
      obtain ⟨rest, rfl, short⟩ := collecting
      let tmp := pkgHeader :: pkgVerLen :: rest
      let count := pkgCount - tmp.length
      have missing : count + tmp.length = pkgCount :=
        Nat.sub_add_cancel short.le
      have positive : 0 < count := Nat.sub_pos_of_lt short
      have within : count ≤ packet.length := by
        rw [sound.length]
        omega
      obtain ⟨found, reached⟩ := collect_full ⟨.data, tmp, pkg⟩
        (packet.take count) rfl short
        (by
          rw [List.length_append, List.length_take, Nat.min_eq_left within,
            Nat.add_comm]
          exact missing)
      have remaining : packet.drop count = packet.tail.drop (count - 1) := by
        rw [List.drop_tail, Nat.sub_add_cancel positive]
      obtain ⟨nothing, settled⟩ := Quiet.passed
        (LiDARFrame.ofBytes (tmp ++ packet.take count))
        (quiet.drop (count - 1))
      rw [← List.take_append_drop count packet, accepted_append, after_append,
        found, reached, remaining, nothing, settled, List.append_nil]
      refine ⟨?_, _, rfl⟩
      split
      · exact le_rfl
      · exact Nat.zero_le 1

/-- After any disturbance, one packet with no other beginning of a packet in it
is enough: every packet from then on is accepted. -/
theorem resynchronises
    (pkg : LiDARFrame)
    (disturbance : List (BitVec 8))
    {first : List (BitVec 8)}
    (sound : IsPacket first)
    (quiet : Quiet first.tail)
    {packets : List (List (BitVec 8))}
    (others : ∀ packet ∈ packets, IsPacket packet) :
    ∃ found, found.length ≤ 1 ∧
      (init pkg).accepted (disturbance ++ (first ++ packets.flatten)) =
        (init pkg).accepted disturbance ++
          (found ++ packets.map LiDARFrame.ofBytes) := by
  obtain ⟨few, settled, reached⟩ :=
    ((collecting_init pkg).after disturbance).settles sound quiet
  refine ⟨_, few, ?_⟩
  rw [accepted_append, accepted_append, reached,
    accepted_packets settled others]

/-- A false beginning of a packet before two readings of one metre. -/
theorem resynchronises_metreAround :
    ∃ found, found.length ≤ 1 ∧
      (init metreAround).accepted ([0x54, 0x2c, 0x54] ++
          (metreAround.toBytes ++ [metreAround.toBytes].flatten)) =
        (init metreAround).accepted [0x54, 0x2c, 0x54] ++
          (found ++ [metreAround.toBytes].map LiDARFrame.ofBytes) :=
  resynchronises metreAround [0x54, 0x2c, 0x54] isPacket_metreAround
    (by decide +kernel)
    (by
      intro packet member
      rw [List.mem_singleton.mp member]
      exact isPacket_metreAround)

end Analysis
end Skatebot
