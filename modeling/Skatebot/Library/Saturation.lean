import Mathlib.Algebra.Group.EvenFunction
import Mathlib.Algebra.Order.Group.MinMax
import Skatebot.Library.Rounding

/-!
# Dead zones, limits and truncation

What lies between a commanded quantity and the number that a machine accepts:
small values count as zero, large ones as the limit, and the rest is cut to an
integer.  Each of these stages is odd and monotone, and so is any sequence of
them.
-/

namespace Library

section

variable {α : Type*} [CommRing α] [LinearOrder α]

/-- Values that are less than the width away from zero count as zero. -/
def deadZone (width value : α) : α := if |value| < width then 0 else value

/-- Values beyond the limit, to either side, count as the limit. -/
def saturate (limit value : α) : α := max (-limit) (min limit value)

variable [IsStrictOrderedRing α]

/-! ## Dead zones -/

omit [IsStrictOrderedRing α] in
theorem deadZone_odd (width : α) : Function.Odd (deadZone width) := by
  intro value
  unfold deadZone
  rw [abs_neg, apply_ite Neg.neg, neg_zero]

theorem deadZone_mono (width : α) : Monotone (deadZone width) := by
  intro lower upper ordered
  unfold deadZone
  split_ifs with lowerSlow upperSlow upperSlow
  · exact le_rfl
  · by_contra reversed
    apply upperSlow
    rw [abs_lt] at lowerSlow ⊢
    constructor <;> linarith
  · by_contra forward
    apply lowerSlow
    rw [abs_lt] at upperSlow ⊢
    constructor <;> linarith
  · exact ordered

/-! ## Limits -/

theorem saturate_odd (limit : α) (nonnegative : 0 ≤ limit) :
    Function.Odd (saturate limit) := by
  intro value
  have ordered : -limit ≤ limit := neg_le_self nonnegative
  have mirrored : min limit (-value) = -max (-limit) value := by
    rw [← min_neg_neg, neg_neg]
  rw [saturate, saturate, mirrored, max_neg_neg, min_max_distrib_left,
    min_eq_right ordered]

omit [IsStrictOrderedRing α] in
theorem saturate_mono (limit : α) : Monotone (saturate limit) :=
  monotone_const.max (monotone_const.min monotone_id)

/-- A limit bounds the magnitude and does nothing else to it. -/
theorem abs_saturate
    {limit : α}
    (nonnegative : 0 ≤ limit)
    (value : α) :
    |saturate limit value| = min limit |value| := by
  unfold saturate
  rcases le_total 0 value with ahead | back
  · have inside : 0 ≤ min limit value := le_min nonnegative ahead
    rw [max_eq_right (by linarith), abs_of_nonneg inside, abs_of_nonneg ahead]
  · rw [min_eq_right (by linarith), abs_of_nonpos back,
      abs_of_nonpos (max_le (by linarith) back), ← min_neg_neg, neg_neg]

theorem saturate_of_abs_le
    {limit value : α}
    (within : |value| ≤ limit) :
    saturate limit value = value := by
  obtain ⟨lower, upper⟩ := abs_le.mp within
  rw [saturate, min_eq_right upper, max_eq_right lower]

/-- A limit beyond a dead zone leaves zero of the dead zone alone, and at least
its width of everything else. -/
theorem saturate_deadZone_cases
    {width limit : α}
    (nonnegative : 0 ≤ limit)
    (beyond : width ≤ limit)
    (value : α) :
    |value| < width ∧ saturate limit (deadZone width value) = 0 ∨
      width ≤ |value| ∧ width ≤ |saturate limit (deadZone width value)| := by
  unfold deadZone
  split_ifs with slow
  · refine Or.inl ⟨slow, saturate_of_abs_le ?_⟩
    rwa [abs_zero]
  · have wide := not_lt.mp slow
    refine Or.inr ⟨wide, ?_⟩
    rw [abs_saturate nonnegative]
    exact le_min beyond wide

end

/-! ## Truncation -/

section

variable {R : Type*} [Field R] [LinearOrder R] [IsStrictOrderedRing R]
  [FloorRing R]

omit [IsStrictOrderedRing R] in
theorem truncate_mono
    {lower upper : R}
    (ordered : lower ≤ upper) :
    truncate lower ≤ truncate upper := by
  unfold truncate
  split_ifs with ahead reaches reaches
  · exact Int.floor_mono ordered
  · exact absurd (ahead.trans ordered) reaches
  · have below : ⌈lower⌉ ≤ 0 := by
      rw [Int.ceil_le]
      push_cast
      exact (not_le.mp ahead).le
    exact below.trans (Int.floor_nonneg.mpr reaches)
  · exact Int.ceil_mono ordered

/-- Truncation makes zero of what is less than 1 away from it. -/
theorem truncate_eq_zero_iff (value : R) :
    truncate value = 0 ↔ |value| < 1 := by
  have atMost := truncate_le_iff 0 value
  have atLeast := le_truncate_iff 0 value
  rw [if_neg (lt_irrefl 0)] at atMost atLeast
  push_cast at atMost atLeast
  rw [le_antisymm_iff, atMost, atLeast, abs_lt, zero_add, zero_sub, and_comm]

/-- A bound on the magnitude outlives truncation. -/
theorem abs_truncate_le
    {bound : Int}
    {value : R}
    (within : |value| ≤ bound) :
    |truncate value| ≤ bound := by
  obtain ⟨lower, upper⟩ := abs_le.mp within
  rw [abs_le]
  constructor
  · have cut := truncate_mono lower
    rwa [← Int.cast_neg, truncate_intCast] at cut
  · have cut := truncate_mono upper
    rwa [truncate_intCast] at cut

end

end Library
