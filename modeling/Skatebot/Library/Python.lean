import Mathlib.Algebra.Group.ModEq
import Mathlib.Data.List.Forall2
import Mathlib.Tactic.Ring
import Skatebot.Library.Rounding

/-!
# Python's lists and numbers

Indexing of lists as Python does it, where a negative index counts from the
end and an index outside the list raises an exception; and the operations on
numbers that differ from those of C++.
-/

namespace Library

/-! ## Lists -/

/-- `values[position]`, or `none` where it raises `IndexError`. -/
def index (values : List α) (position : Int) : Option α :=
  if 0 ≤ position then values[position.toNat]?
  else if 0 ≤ position + values.length then
    values[(position + values.length).toNat]?
  else none

/-- An index from zero to the end finds something. -/
theorem index_isSome
    {values : List α} {position : Int}
    (lower : 0 ≤ position) (upper : position < values.length) :
    (index values position).isSome = true := by
  have within : position.toNat < values.length := by omega
  rw [index, if_pos lower, List.getElem?_eq_getElem within]
  rfl

/-! ## The least element -/

/-- `min` of the elements that pass a test. -/
theorem min?_filter_eq_some_iff
    [LinearOrder α]
    {values : List α} {test : α → Prop} [DecidablePred test] {least : α} :
    (values.filter fun value => decide (test value)).min? = some least ↔
      IsLeast {value | value ∈ values ∧ test value} least := by
  rw [List.min?_eq_some_iff]
  simp only [List.mem_filter, decide_eq_true_eq]
  rfl

/-- There is none when no element passes. -/
theorem min?_filter_eq_none_iff
    [LinearOrder α]
    {values : List α} {test : α → Prop} [DecidablePred test] :
    (values.filter fun value => decide (test value)).min? = none ↔
      {value | value ∈ values ∧ test value} = ∅ := by
  rw [List.min?_eq_none_iff, List.filter_eq_nil_iff,
    Set.eq_empty_iff_forall_notMem]
  simp only [decide_eq_true_eq, Set.mem_ofPred_eq, not_and]

/-! ## Loops that count -/

/-- A loop that counts where its test says so. -/
theorem foldlM_count
    {Item : Type u}
    {test : Item → Option Bool}
    {items : List Item}
    {start total : Nat}
    (counted :
      items.foldlM
        (fun count item => do
          let holds ← test item
          some (if holds then count + 1 else count)) start = some total) :
    total = start + items.countP fun item => decide (test item = some true) := by
  induction items generalizing start with
  | nil =>
      obtain rfl := Option.some.inj counted
      rfl
  | cons item items inductionHypothesis =>
      rw [List.foldlM_cons, Option.bind_eq_bind,
        Option.bind_eq_some_iff] at counted
      obtain ⟨next, tested, counted⟩ := counted
      cases outcome : test item with
      | none => simp [outcome] at tested
      | some holds =>
          rw [outcome] at tested
          obtain rfl := Option.some.inj tested
          rw [inductionHypothesis counted, List.countP_cons, outcome]
          cases holds <;> simp
          omega

/-- The loop raises no exception where its test does not. -/
theorem foldlM_total
    {Item : Type u}
    {test : Item → Option Bool}
    (total : ∀ item, ∃ holds, test item = some holds)
    (items : List Item)
    (start : Nat) :
    ∃ count,
      items.foldlM
        (fun count item => do
          let holds ← test item
          some (if holds then count + 1 else count)) start = some count := by
  induction items generalizing start with
  | nil => exact ⟨start, rfl⟩
  | cons item items inductionHypothesis =>
      obtain ⟨holds, tested⟩ := total item
      rw [List.foldlM_cons, tested]
      exact inductionHypothesis _

/-- `enumerate` of two lists whose items are related in their order. -/
theorem forall₂_zipIdx
    {Item : Type u} {Other : Type v} {related : Item → Other → Prop}
    {items : List Item} {others : List Other}
    (pairwise : List.Forall₂ related items others)
    (first : Nat) :
    List.Forall₂
      (fun item other => related item.1 other.1 ∧ item.2 = other.2)
      (items.zipIdx first) (others.zipIdx first) := by
  induction pairwise generalizing first with
  | nil => exact .nil
  | cons here rest inductionHypothesis =>
      rw [List.zipIdx_cons, List.zipIdx_cons]
      exact .cons ⟨here, rfl⟩ (inductionHypothesis (first + 1))

/-- A loop that counts at least where another does counts at least as much. -/
theorem foldlM_count_mono
    {Item : Type u} {Other : Type v}
    {test : Item → Option Bool} {otherTest : Other → Option Bool}
    {items : List Item} {others : List Other}
    (implied :
      List.Forall₂
        (fun item other => ∀ holds, test item = some holds →
          ∃ otherHolds, otherTest other = some otherHolds ∧
            (holds = true → otherHolds = true))
        items others)
    {start total otherStart : Nat}
    (begins : start ≤ otherStart)
    (counted :
      items.foldlM
        (fun count item => do
          let holds ← test item
          some (if holds then count + 1 else count)) start = some total) :
    ∃ otherTotal,
      others.foldlM
        (fun count other => do
          let holds ← otherTest other
          some (if holds then count + 1 else count)) otherStart =
        some otherTotal ∧
      total ≤ otherTotal := by
  induction implied generalizing start otherStart with
  | nil =>
      refine ⟨otherStart, rfl, ?_⟩
      rwa [← Option.some.inj counted]
  | cons implied rest inductionHypothesis =>
      rw [List.foldlM_cons, Option.bind_eq_bind,
        Option.bind_eq_some_iff] at counted
      obtain ⟨next, tested, counted⟩ := counted
      rw [Option.bind_eq_bind, Option.bind_eq_some_iff] at tested
      obtain ⟨holds, tested, next_eq⟩ := tested
      obtain ⟨otherHolds, otherTested, carries⟩ := implied holds tested
      rw [List.foldlM_cons, otherTested]
      apply inductionHypothesis _ counted
      rw [← Option.some.inj next_eq]
      cases holds with
      | false =>
          cases otherHolds <;> simp <;> omega
      | true =>
          rw [carries rfl]
          simpa using begins

/-! ## Numbers -/

section

variable {R : Type*} [Field R] [LinearOrder R] [FloorRing R]

/-- `value % modulus`, which has the sign of the modulus. -/
def floorMod (value modulus : R) : R :=
  value - modulus * ⌊value / modulus⌋

/-- `math.remainder(value, modulus)`, which takes away the multiple of the
modulus that is nearest to the value. -/
def remainder (value modulus : R) : R :=
  value - modulus * roundHalfEven (value / modulus)

/-- `math.degrees(radians)`. -/
def degrees (radians : R) : R := radians * (180.0 / pi)

variable [IsStrictOrderedRing R]

/-- A remainder does not see multiples of the modulus. -/
theorem floorMod_add_mul
    {modulus : R}
    (nonzero : modulus ≠ 0)
    (value : R)
    (multiple : Int) :
    floorMod (value + multiple * modulus) modulus = floorMod value modulus := by
  have quotient : (value + multiple * modulus) / modulus =
      value / modulus + multiple := by
    rw [add_div, mul_div_cancel_right₀ _ nonzero]
  unfold floorMod
  rw [quotient, Int.floor_add_intCast]
  push_cast
  ring

omit [IsStrictOrderedRing R] in
/-- A remainder is congruent to its value. -/
theorem remainder_modEq (value modulus : R) :
    remainder value modulus ≡ value [PMOD modulus] := by
  rw [AddCommGroup.modEq_iff_eq_add_zsmul]
  refine ⟨roundHalfEven (value / modulus), ?_⟩
  rw [remainder, zsmul_eq_mul, mul_comm, sub_add_cancel]

/-- A remainder is at most half the modulus away from zero. -/
theorem abs_remainder_le
    {modulus : R}
    (positive : 0 < modulus)
    (value : R) :
    |remainder value modulus| ≤ modulus / 2 := by
  have scaled : remainder value modulus =
      modulus * (value / modulus - roundHalfEven (value / modulus)) := by
    rw [remainder, mul_sub, mul_div_cancel₀ _ positive.ne']
  have nearest := abs_sub_roundHalfEven_le (value / modulus)
  calc |remainder value modulus|
      = modulus * |value / modulus - roundHalfEven (value / modulus)| := by
        rw [scaled, abs_mul, abs_of_pos positive]
    _ ≤ modulus * (1 / 2) := mul_le_mul_of_nonneg_left nearest positive.le
    _ = modulus / 2 := by ring

/-- Congruent numbers up to half the modulus are equal, or they are its two
halves. -/
theorem abs_eq_abs_of_modEq
    {modulus value other : R}
    (positive : 0 < modulus)
    (near : |value| ≤ modulus / 2)
    (otherNear : |other| ≤ modulus / 2)
    (congruent : value ≡ other [PMOD modulus]) :
    |value| = |other| := by
  obtain ⟨turns, rfl⟩ := AddCommGroup.modEq_iff_eq_add_zsmul.mp congruent
  rw [zsmul_eq_mul] at otherNear ⊢
  obtain ⟨lower, upper⟩ := abs_le.mp near
  obtain ⟨otherLower, otherUpper⟩ := abs_le.mp otherNear
  have atMost : turns ≤ 1 := by
    have scaled : (turns : R) * modulus ≤ 1 * modulus := by linarith
    exact_mod_cast le_of_mul_le_mul_right scaled positive
  have atLeast : -1 ≤ turns := by
    have scaled : (-1 : R) * modulus ≤ turns * modulus := by linarith
    exact_mod_cast le_of_mul_le_mul_right scaled positive
  -- A whole modulus apart, the two lie at opposite ends.
  obtain rfl | rfl | rfl : turns = -1 ∨ turns = 0 ∨ turns = 1 := by omega
  · push_cast at *
    have atEnd : value = modulus / 2 := by linarith
    rw [atEnd, ← abs_neg]
    congr 1
    ring
  · simp
  · push_cast at *
    have atEnd : value = -(modulus / 2) := by linarith
    rw [atEnd, ← abs_neg]
    congr 1
    ring

/-- Up to its sign, a remainder does not see multiples of the modulus.  Halves
of it keep no sign, because rounding takes them to the even neighbour. -/
theorem abs_remainder_congr
    {modulus value other : R}
    (positive : 0 < modulus)
    (congruent : value ≡ other [PMOD modulus]) :
    |remainder value modulus| = |remainder other modulus| := by
  apply abs_eq_abs_of_modEq positive (abs_remainder_le positive _)
    (abs_remainder_le positive _)
  exact ((remainder_modEq value modulus).trans congruent).trans
    (remainder_modEq other modulus).symm

omit [IsStrictOrderedRing R] in
theorem pi_ne_zero : (pi : R) ≠ 0 := by
  unfold pi
  norm_num

omit [IsStrictOrderedRing R] in
/-- A whole turn has 360 degrees. -/
theorem degrees_add_turns (radians : R) (turns : Int) :
    degrees (radians + ((2 * turns : Int) : R) * pi) =
      degrees radians + ((360 * turns : Int) : R) := by
  have halfTurn : (pi : R) * (180.0 / pi) = 180.0 :=
    mul_div_cancel₀ _ pi_ne_zero
  have whole : ((360 * turns : Int) : R) = ((2 * turns : Int) : R) * 180.0 := by
    push_cast
    norm_num
    ring
  unfold degrees
  rw [add_mul, mul_assoc, halfTurn, whole]

end

end Library
