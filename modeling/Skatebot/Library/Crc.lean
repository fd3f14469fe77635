import Mathlib.Data.List.Basic
import Mathlib.Logic.Function.Iterate

/-!
# Cyclic redundancy checks

A check is the remainder of a message by a polynomial, found by a shift for
each bit.  Taking the message word by word, from a table of the words'
remainders, gives the same check; and two messages that differ within as many
consecutive bits as a word has never have the same one.  That is in the order in
which the check takes the bits, the most significant bit of a word first.  Where
a line carries the least significant one first, how long a burst may be depends
on the table.
-/

namespace Library
namespace Crc

variable {w : Nat}

/-! ## Shifts of the remainder -/

/-- One shift of the remainder by a polynomial, given without its leading
term. -/
def shift (poly state : BitVec w) : BitVec w :=
  if state.msb then (state <<< 1) ^^^ poly else state <<< 1

theorem shift_xor (poly first second : BitVec w) :
    shift poly (first ^^^ second) =
      shift poly first ^^^ shift poly second := by
  unfold shift
  rw [BitVec.msb_xor, BitVec.shiftLeft_xor_distrib]
  cases first.msb <;> cases second.msb
  · simp
  · simp [BitVec.xor_assoc]
  · simp [BitVec.xor_assoc, BitVec.xor_comm poly]
  · simp only [Bool.xor_self, Bool.false_eq_true, if_false, if_true]
    rw [BitVec.xor_comm (second <<< 1) poly, ← BitVec.xor_assoc,
      BitVec.xor_assoc (first <<< 1), BitVec.xor_self, BitVec.xor_zero]

/-- A polynomial with a constant term loses nothing in a shift. -/
theorem shift_injective
    {poly : BitVec w}
    (constant : poly.getLsbD 0 = true) :
    Function.Injective (shift poly) := by
  have kernel : ∀ state : BitVec w, shift poly state = 0 → state = 0 := by
    intro state vanishes
    unfold shift at vanishes
    split at vanishes
    next =>
      have lowest := congrArg (fun word => word.getLsbD 0) vanishes
      simp [constant] at lowest
    next low =>
      apply BitVec.eq_of_getLsbD_eq
      intro i within
      by_cases top : i + 1 = w
      · have clear : state.msb = false := by simpa using low
        rw [BitVec.msb_eq_getLsbD_last, show w - 1 = i by omega] at clear
        simpa using clear
      · have next := congrArg (fun word => word.getLsbD (i + 1)) vanishes
        simpa [show i + 1 < w by omega, within] using next
  intro first second equal
  have difference : shift poly (first ^^^ second) = 0 := by
    rw [shift_xor, equal, BitVec.xor_self]
    rfl
  exact BitVec.xor_eq_zero_iff.mp (kernel _ difference)

/-- The remainder after one more bit of the message. -/
def feed (poly state : BitVec w) (bit : Bool) : BitVec w :=
  if bit then shift poly state ^^^ poly else shift poly state

theorem feed_injective
    {poly : BitVec w}
    (constant : poly.getLsbD 0 = true)
    (bit : Bool) :
    Function.Injective fun state => feed poly state bit := by
  intro first second equal
  apply shift_injective constant
  cases bit with
  | false => exact equal
  | true => exact (BitVec.xor_left_inj poly).mp equal

/-! ## Messages of bits and of words -/

/-- The remainder of a message of bits. -/
def feedBits (poly state : BitVec w) (bits : List Bool) : BitVec w :=
  bits.foldl (feed poly) state

theorem feedBits_append
    (poly state : BitVec w) (first second : List Bool) :
    feedBits poly state (first ++ second) =
      feedBits poly (feedBits poly state first) second := by
  simp [feedBits]

/-- The first bits of a word, the most significant one first. -/
def bits : Nat → BitVec w → List Bool
  | 0, _ => []
  | count + 1, word => word.msb :: bits count (word <<< 1)

/-- Every string of bits is the beginning of a word that has nothing after
it. -/
theorem exists_bits_eq
    {string : List Bool}
    (short : string.length ≤ w) :
    ∃ word : BitVec w, bits string.length word = string ∧
      word <<< string.length = 0 := by
  induction string with
  | nil =>
      refine ⟨0, rfl, ?_⟩
      simp
  | cons bit string inductionHypothesis =>
      rw [List.length_cons] at short
      obtain ⟨rest, same, nothing⟩ := inductionHypothesis (by omega)
      have lowest : rest.getLsbD 0 = false := by
        have moved :=
          congrArg (fun word => word.getLsbD string.length) nothing
        simpa [show string.length < w by omega, show 0 < w by omega]
          using moved
      let word : BitVec w := BitVec.cons bit (rest.extractLsb' 1 (w - 1))
        |>.cast (by omega)
      have first : word.msb = bit := by simp [word]
      have after : word <<< 1 = rest := by
        apply BitVec.eq_of_getLsbD_eq
        intro i within
        cases i with
        | zero => rw [lowest]; simp
        | succ i =>
            have inside : i ≠ w - 1 := by omega
            simp [word, BitVec.getElem_cons, inside, within, Nat.add_comm]
      refine ⟨word, ?_, ?_⟩
      · rw [List.length_cons, bits, first, after, same]
      · rw [List.length_cons, Nat.add_comm, BitVec.shiftLeft_add, after,
          nothing]

/-- Shifting a word in at once or bit by bit differs by the part of the word
that is still to come. -/
theorem iterate_shift_xor
    (poly : BitVec w) (count : Nat) (state word : BitVec w) :
    (shift poly)^[count] (state ^^^ word) =
      feedBits poly state (bits count word) ^^^ (word <<< count) := by
  induction count generalizing state word with
  | zero => simp [bits, feedBits]
  | succ count inductionHypothesis =>
      have once : shift poly (state ^^^ word) =
          feed poly state word.msb ^^^ (word <<< 1) := by
        rw [shift_xor, feed, shift.eq_def poly word]
        cases word.msb with
        | false => simp
        | true =>
            simp only [if_true]
            rw [BitVec.xor_comm (word <<< 1), BitVec.xor_assoc]
      rw [Function.iterate_succ_apply, once, inductionHypothesis, bits,
        Nat.add_comm count, BitVec.shiftLeft_add]
      rfl

/-- The check of a message of words, from a table of the words' remainders. -/
def tableCheck (table : BitVec w → BitVec w) (state : BitVec w)
    (message : List (BitVec w)) : BitVec w :=
  message.foldl (fun state word => table (state ^^^ word)) state

/-- The table gives what shifting a word through gives. -/
def Tabulates (table : BitVec w → BitVec w) (poly : BitVec w) : Prop :=
  ∀ word, table word = (shift poly)^[w] word

/-- The bits of a message. -/
def messageBits (message : List (BitVec w)) : List Bool :=
  message.flatMap (bits w)

/-- The check from the table is the remainder bit by bit. -/
theorem Tabulates.check_eq
    {table : BitVec w → BitVec w} {poly : BitVec w}
    (tabulates : Tabulates table poly)
    (state : BitVec w) (message : List (BitVec w)) :
    tableCheck table state message =
      feedBits poly state (messageBits message) := by
  induction message generalizing state with
  | nil => rfl
  | cons word message inductionHypothesis =>
      have step : table (state ^^^ word) =
          feedBits poly state (bits w word) := by
        rw [tabulates, iterate_shift_xor]
        simp
      rw [messageBits, List.flatMap_cons, feedBits_append, ← step]
      exact inductionHypothesis _

/-! ## What a check detects -/

/-- A remainder tells strings apart that are no longer than a word. -/
theorem feedBits_injective
    {poly state : BitVec w}
    (constant : poly.getLsbD 0 = true)
    {first second : List Bool}
    (short : first.length ≤ w)
    (lengths : first.length = second.length)
    (equal : feedBits poly state first = feedBits poly state second) :
    first = second := by
  obtain ⟨word, same, nothing⟩ := exists_bits_eq short
  obtain ⟨other, sameOther, nothingOther⟩ :=
    exists_bits_eq (lengths ▸ short)
  have shifted := iterate_shift_xor poly first.length state word
  have shiftedOther := iterate_shift_xor poly second.length state other
  rw [same, nothing] at shifted
  rw [sameOther, nothingOther, ← equal, ← shifted, ← lengths]
    at shiftedOther
  have words : state ^^^ other = state ^^^ word :=
    (shift_injective constant).iterate first.length shiftedOther
  obtain rfl := (BitVec.xor_right_inj state).mp words
  rw [← same, ← sameOther, lengths]

/-- A difference between two remainders stays. -/
theorem feedBits_ne
    {poly first second : BitVec w}
    (constant : poly.getLsbD 0 = true)
    (different : first ≠ second)
    (string : List Bool) :
    feedBits poly first string ≠ feedBits poly second string := by
  induction string generalizing first second with
  | nil => exact different
  | cons bit string inductionHypothesis =>
      exact inductionHypothesis fun equal =>
        different (feed_injective constant bit equal)

/-- Strings that differ within the bits of one word have different
remainders. -/
theorem feedBits_burst
    (poly : BitVec w)
    (constant : poly.getLsbD 0 = true)
    {first second : List Bool}
    (short : first.length ≤ w)
    (lengths : first.length = second.length)
    (different : first ≠ second)
    (state : BitVec w)
    (before after : List Bool) :
    feedBits poly state (before ++ first ++ after) ≠
      feedBits poly state (before ++ second ++ after) := by
  simp only [feedBits_append]
  apply feedBits_ne constant
  intro equal
  exact different (feedBits_injective constant short lengths equal)

/-! ## Bursts on a line -/

/-- The bit that a line carries at a time, the least significant bit of a word
first. -/
def lineBit (message : List (BitVec w)) (time : Nat) : Bool :=
  (message.getD (time / w) 0).getLsbD (time % w)

theorem lineBit_cons
    (word : BitVec w) (message : List (BitVec w)) {time : Nat}
    (within : time < w) :
    lineBit (word :: message) time = word.getLsbD time := by
  rw [lineBit, Nat.div_eq_of_lt within, Nat.mod_eq_of_lt within,
    List.getD_cons_zero]

theorem lineBit_cons_add
    (positive : 0 < w)
    (word : BitVec w) (message : List (BitVec w)) (time : Nat) :
    lineBit (word :: message) (time + w) = lineBit message time := by
  rw [lineBit, Nat.add_div_right time positive, Nat.add_mod_right,
    List.getD_cons_succ, lineBit]

/-- Messages carry the same bits at all times but some consecutive ones. -/
def AgreeOutside (start length : Nat) (first second : List (BitVec w)) :
    Prop :=
  ∀ time, time < start ∨ start + length ≤ time →
    lineBit first time = lineBit second time

/-- After a message the line carries zeros. -/
theorem lineBit_of_length_le
    {message : List (BitVec w)} {time : Nat}
    (after : w * message.length ≤ time) :
    lineBit message time = false := by
  rcases Nat.eq_zero_or_pos w with rfl | positive
  · simp [lineBit, BitVec.of_length_zero]
  · have beyond : message.length ≤ time / w :=
      (Nat.le_div_iff_mul_le positive).mpr (by rwa [Nat.mul_comm])
    rw [lineBit, List.getD_eq_getElem?_getD, List.getElem?_eq_none beyond,
      Option.getD_none]
    exact BitVec.getLsbD_zero

instance (start length : Nat) (first second : List (BitVec w)) :
    Decidable (AgreeOutside start length first second) :=
  decidable_of_iff
    (∀ time < w * max first.length second.length,
      time < start ∨ start + length ≤ time →
        lineBit first time = lineBit second time)
    ⟨fun agree time outside => by
      rcases Nat.lt_or_ge time (w * max first.length second.length) with
        within | after
      · exact agree time within outside
      · have left := Nat.mul_le_mul_left w
          (Nat.le_max_left first.length second.length)
        have right := Nat.mul_le_mul_left w
          (Nat.le_max_right first.length second.length)
        rw [lineBit_of_length_le (Nat.le_trans left after),
          lineBit_of_length_le (Nat.le_trans right after)],
    fun agree time _ outside => agree time outside⟩

/-- The first words agree in the bits that come before the burst. -/
theorem AgreeOutside.head
    {start length : Nat} {word other : BitVec w}
    {first second : List (BitVec w)}
    (agree : AgreeOutside start length (word :: first) (other :: second))
    {i : Nat}
    (within : i < w)
    (outside : i < start ∨ start + length ≤ i) :
    word.getLsbD i = other.getLsbD i := by
  have same := agree i outside
  rwa [lineBit_cons _ _ within, lineBit_cons _ _ within] at same

/-- What comes after the first words agrees but for the rest of the burst. -/
theorem AgreeOutside.tail
    (positive : 0 < w)
    {start length : Nat} {word other : BitVec w}
    {first second : List (BitVec w)}
    (agree : AgreeOutside start length (word :: first) (other :: second))
    {time : Nat}
    (outside : time + w < start ∨ start + length ≤ time + w) :
    lineBit first time = lineBit second time := by
  have same := agree (time + w) outside
  rwa [lineBit_cons_add positive, lineBit_cons_add positive] at same

/-- Messages of one length that carry the same bits are the same. -/
theorem eq_of_lineBit
    (positive : 0 < w)
    {first second : List (BitVec w)}
    (lengths : first.length = second.length)
    (same : ∀ time, lineBit first time = lineBit second time) :
    first = second := by
  induction first generalizing second with
  | nil => exact (List.eq_nil_of_length_eq_zero lengths.symm).symm
  | cons word first inductionHypothesis =>
      obtain _ | ⟨other, second⟩ := second
      · cases lengths
      have agree : AgreeOutside 0 0 (word :: first) (other :: second) :=
        fun time _ => same time
      have words : word = other :=
        BitVec.eq_of_getLsbD_eq fun _ within =>
          agree.head within (.inr (Nat.zero_le _))
      have rests := inductionHypothesis (Nat.succ.inj lengths) fun _ =>
        agree.tail positive (.inr (Nat.zero_le _))
      rw [words, rests]

/-- An altered word shows in the remainder where the next word can not make up
for it: after the burst, if that is so long and begins where the word is
altered. -/
def Spreads (table : BitVec w → BitVec w) (length : Nat) : Prop :=
  ∀ word : BitVec w, word ≠ 0 → ∀ start < w,
    (∀ i < start, word.getLsbD i = false) →
      ∃ i < w, start + length ≤ i + w ∧ (table word).getLsbD i = true

theorem Tabulates.xor
    {table : BitVec w → BitVec w} {poly : BitVec w}
    (tabulates : Tabulates table poly)
    (first second : BitVec w) :
    table (first ^^^ second) = table first ^^^ table second := by
  have shifts : ∀ (count : Nat) (first second : BitVec w),
      (shift poly)^[count] (first ^^^ second) =
        (shift poly)^[count] first ^^^ (shift poly)^[count] second := by
    intro count
    induction count with
    | zero => intro first second; rfl
    | succ count inductionHypothesis =>
        intro first second
        simp only [Function.iterate_succ_apply, shift_xor,
          inductionHypothesis]
  simp only [tabulates _, shifts]

theorem Tabulates.injective
    {table : BitVec w → BitVec w} {poly : BitVec w}
    (tabulates : Tabulates table poly)
    (constant : poly.getLsbD 0 = true) :
    Function.Injective table := by
  intro first second equal
  rw [tabulates, tabulates] at equal
  exact (shift_injective constant).iterate w equal

/-- Different remainders stay so over the same words. -/
theorem tableCheck_ne
    {table : BitVec w → BitVec w}
    (injective : Function.Injective table)
    {state other : BitVec w}
    (different : state ≠ other)
    (message : List (BitVec w)) :
    tableCheck table state message ≠ tableCheck table other message := by
  induction message generalizing state other with
  | nil => exact different
  | cons word message inductionHypothesis =>
      exact inductionHypothesis fun equal =>
        different ((BitVec.xor_left_inj word).mp (injective equal))

/-- Messages with one check that differ within a short burst on the line are
the same. -/
theorem Tabulates.lineBurst
    {table : BitVec w → BitVec w} {poly : BitVec w}
    (tabulates : Tabulates table poly)
    (constant : poly.getLsbD 0 = true)
    {length : Nat}
    (spreads : Spreads table length)
    {first second : List (BitVec w)}
    (lengths : first.length = second.length)
    {start : Nat}
    (agree : AgreeOutside start length first second)
    {state : BitVec w}
    (equal : tableCheck table state first = tableCheck table state second) :
    first = second := by
  have injective := tabulates.injective constant
  have positive : 0 < w := by
    by_contra empty
    have low := BitVec.getLsbD_of_ge poly 0 (by omega)
    rw [low] at constant
    cases constant
  induction first generalizing second start state with
  | nil => exact (List.eq_nil_of_length_eq_zero lengths.symm).symm
  | cons word first inductionHypothesis =>
      obtain _ | ⟨other, second⟩ := second
      · cases lengths
      have lengthsAfter : first.length = second.length := Nat.succ.inj lengths
      by_cases same : word = other
      · subst same
        have agreeAfter : AgreeOutside (start - w) length first second :=
          fun time outside => agree.tail positive (by omega)
        rw [inductionHypothesis lengthsAfter agreeAfter equal]
      -- the burst begins in this word, so it ends in the next one
      exfalso
      have begins : start < w := by
        by_contra later
        exact same (BitVec.eq_of_getLsbD_eq fun i within =>
          agree.head within (.inl (by omega)))
      have altered : word ^^^ other ≠ 0 :=
        fun equal => same (BitVec.xor_eq_zero_iff.mp equal)
      obtain ⟨i, within, after, shows⟩ := spreads _ altered start begins
        (fun i before => by
          rw [BitVec.getLsbD_xor, agree.head (by omega) (.inl before),
            Bool.xor_self])
      have remainders : table (state ^^^ word) ^^^ table (state ^^^ other) =
          table (word ^^^ other) := by
        rw [← tabulates.xor]
        congr 1
        rw [BitVec.xor_comm state word, BitVec.xor_assoc,
          ← BitVec.xor_assoc state, BitVec.xor_self, BitVec.zero_xor]
      rw [← remainders] at shows
      change tableCheck table (table (state ^^^ word)) first =
        tableCheck table (table (state ^^^ other)) second at equal
      generalize table (state ^^^ word) = left at *
      generalize table (state ^^^ other) = right at *
      rw [BitVec.getLsbD_xor] at shows
      obtain _ | ⟨next, first⟩ := first
      · obtain rfl := List.eq_nil_of_length_eq_zero lengthsAfter.symm
        rw [show left = right from equal, Bool.xor_self] at shows
        cases shows
      · obtain _ | ⟨nextOther, second⟩ := second
        · cases lengthsAfter
        have rests : first = second :=
          eq_of_lineBit positive (Nat.succ.inj lengthsAfter) fun time => by
            have same : lineBit (next :: first) (time + w) =
                lineBit (nextOther :: second) (time + w) :=
              agree.tail positive (.inr (by omega))
            rwa [lineBit_cons_add positive, lineBit_cons_add positive] at same
        subst rests
        have bits : next.getLsbD i = nextOther.getLsbD i := by
          have same : lineBit (next :: first) i =
              lineBit (nextOther :: first) i :=
            agree.tail positive (.inr after)
          rwa [lineBit_cons _ _ within, lineBit_cons _ _ within] at same
        apply tableCheck_ne injective _ first equal
        intro collapsed
        have low := congrArg (·.getLsbD i) (injective collapsed)
        simp only [BitVec.getLsbD_xor, bits] at low
        rw [Bool.xor_left_inj.mp low, Bool.xor_self] at shows
        cases shows

end Crc
end Library
