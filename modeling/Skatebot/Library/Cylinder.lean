import Mathlib.Algebra.Order.Field.Basic
import Mathlib.Algebra.QuadraticDiscriminant
import Mathlib.Order.Bounds.Basic
import Mathlib.Tactic.Linarith
import Mathlib.Tactic.Ring

/-!
# Rays in a cylinder

A ray meets the wall of a cylinder where a quadratic equation holds.  This
module supplies the equation, its solutions in front of the origin, and the two
symmetries of the cylinder that the wall and the rays share: the reflection in
the plane through its axis, and the half turn about the vertical.
-/

namespace Library

/-- A point or a direction in space. -/
@[ext] structure Vec3 (R : Type u) where
  x : R
  y : R
  z : R
  deriving DecidableEq

namespace Vec3

section CommRing

variable {R : Type u} [CommRing R]

/-- The square of the length. -/
def normSq (vector : Vec3 R) : R :=
  vector.x * vector.x + vector.y * vector.y + vector.z * vector.z

/-- The square of the distance between two points. -/
def distanceSq (first second : Vec3 R) : R :=
  normSq
    { x := first.x - second.x
      y := first.y - second.y
      z := first.z - second.z }

/-- Where a ray is at a time. -/
def along (origin direction : Vec3 R) (time : R) : Vec3 R where
  x := origin.x + time * direction.x
  y := origin.y + time * direction.y
  z := origin.z + time * direction.z

/-- A ray covers its length per unit of time. -/
theorem distanceSq_along (origin direction : Vec3 R) (time : R) :
    distanceSq origin (origin.along direction time) =
      time * time * direction.normSq := by
  simp only [distanceSq, normSq, along]
  ring

/-- The reflection that leaves the first and the third coordinate. -/
def mirror (vector : Vec3 R) : Vec3 R :=
  { vector with y := -vector.y }

/-- The half turn about the third axis. -/
def halfTurn (vector : Vec3 R) : Vec3 R :=
  { vector with x := -vector.x, y := -vector.y }

end CommRing
end Vec3

/-! ## The cylinder -/

namespace Cylinder

open Vec3

section CommRing

variable {R : Type u} [CommRing R]

/-- The wall of the cylinder of a radius about the first axis. -/
def wall (radius : R) : Set (Vec3 R) :=
  {point | point.y * point.y + point.z * point.z = radius * radius}

/-- How much of a direction lies across the axis: the square of it. -/
def crossing (direction : Vec3 R) : R :=
  direction.y * direction.y + direction.z * direction.z

/-- The linear coefficient of the equation. -/
def approach (origin direction : Vec3 R) : R :=
  2 • (origin.y * direction.y + origin.z * direction.z)

/-- The constant coefficient, negative inside the cylinder. -/
def excess (radius : R) (origin : Vec3 R) : R :=
  origin.y * origin.y + origin.z * origin.z - radius * radius

/-- The discriminant of the equation. -/
def discriminant (radius : R) (origin direction : Vec3 R) : R :=
  discrim (crossing direction) (approach origin direction)
    (excess radius origin)

/-- A ray is at the wall when the equation holds. -/
theorem along_mem_wall_iff
    (radius : R) (origin direction : Vec3 R) (time : R) :
    origin.along direction time ∈ wall radius ↔
      crossing direction * (time * time) + approach origin direction * time +
        excess radius origin = 0 := by
  have expanded :
      crossing direction * (time * time) + approach origin direction * time +
          excess radius origin =
        (origin.along direction time).y * (origin.along direction time).y +
          (origin.along direction time).z * (origin.along direction time).z -
            radius * radius := by
    simp only [crossing, approach, excess, along, two_nsmul]
    ring
  rw [expanded, sub_eq_zero]
  rfl

/-! ## Symmetries -/

@[simp] theorem crossing_mirror (direction : Vec3 R) :
    crossing direction.mirror = crossing direction := by
  simp [crossing, mirror]

@[simp] theorem crossing_halfTurn (direction : Vec3 R) :
    crossing direction.halfTurn = crossing direction := by
  simp [crossing, halfTurn]

@[simp] theorem approach_mirror (origin direction : Vec3 R) :
    approach origin.mirror direction.mirror = approach origin direction := by
  simp [approach, mirror]

@[simp] theorem approach_halfTurn (origin direction : Vec3 R) :
    approach origin.halfTurn direction.halfTurn =
      approach origin direction := by
  simp [approach, halfTurn]

@[simp] theorem excess_mirror (radius : R) (origin : Vec3 R) :
    excess radius origin.mirror = excess radius origin := by
  simp [excess, mirror]

@[simp] theorem excess_halfTurn (radius : R) (origin : Vec3 R) :
    excess radius origin.halfTurn = excess radius origin := by
  simp [excess, halfTurn]

end CommRing

/-! ## Hits -/

section Field

variable {R : Type u} [Field R] [LinearOrder R] [IsStrictOrderedRing R]

/-- The points strictly inside the cylinder. -/
def bore (radius : R) : Set (Vec3 R) :=
  {point | point.y * point.y + point.z * point.z < radius * radius}

/-- The times, after the start, at which a ray is at the wall. -/
def hits (radius : R) (origin direction : Vec3 R) : Set R :=
  {time | 0 < time ∧ origin.along direction time ∈ wall radius}

/-- The points of the wall ahead on a ray. -/
def ahead (radius : R) (origin direction : Vec3 R) : Set (Vec3 R) :=
  origin.along direction '' hits radius origin direction

/-- The solutions of the equation, from a square root of its discriminant. -/
def root (origin direction : Vec3 R) (squareRoot : R) : R :=
  (-approach origin direction + squareRoot) / (2 • crossing direction)

omit [IsStrictOrderedRing R] in
theorem mem_bore_iff (radius : R) (point : Vec3 R) :
    point ∈ bore radius ↔ point.y ^ 2 + point.z ^ 2 < radius ^ 2 := by
  rw [sq, sq, sq]
  rfl

theorem crossing_nonneg (direction : Vec3 R) : 0 ≤ crossing direction :=
  add_nonneg (mul_self_nonneg _) (mul_self_nonneg _)

theorem excess_neg_iff (radius : R) (origin : Vec3 R) :
    excess radius origin < 0 ↔ origin ∈ bore radius :=
  sub_neg

variable {radius : R} {origin direction : Vec3 R}

/-- Where the discriminant is negative, the ray misses the wall. -/
theorem hits_eq_empty
    (negative : discriminant radius origin direction < 0) :
    hits radius origin direction = ∅ := by
  rw [Set.eq_empty_iff_forall_notMem]
  rintro time ⟨-, met⟩
  rw [along_mem_wall_iff] at met
  apply quadratic_ne_zero_of_discrim_ne_sq _ time met
  intro squareRoot equal
  have nonnegative := sq_nonneg squareRoot
  rw [← equal] at nonnegative
  exact absurd nonnegative (not_le.mpr negative)

/-- Otherwise the hits are the positive ones of the two solutions. -/
theorem mem_hits_iff
    (crosses : crossing direction ≠ 0)
    {squareRoot : R}
    (square :
      discriminant radius origin direction = squareRoot * squareRoot)
    (time : R) :
    time ∈ hits radius origin direction ↔
      0 < time ∧
        (time = root origin direction squareRoot ∨
          time = root origin direction (-squareRoot)) := by
  unfold root
  rw [two_nsmul, ← two_mul, ← sub_eq_add_neg, ← quadratic_eq_zero_iff crosses square,
    ← along_mem_wall_iff]
  rfl

theorem discriminant_nonneg_of_bore
    (inside : origin ∈ bore radius) (direction : Vec3 R) :
    0 ≤ discriminant radius origin direction := by
  have product := mul_nonpos_of_nonneg_of_nonpos (crossing_nonneg direction)
    ((excess_neg_iff _ _).mpr inside).le
  have square := sq_nonneg (approach origin direction)
  rw [discriminant, discrim]
  linarith

/-- From inside, one solution lies behind and the other ahead. -/
theorem roots_of_bore
    (crosses : 0 < crossing direction)
    (inside : origin ∈ bore radius)
    {squareRoot : R}
    (nonnegative : 0 ≤ squareRoot)
    (square :
      discriminant radius origin direction = squareRoot * squareRoot) :
    root origin direction (-squareRoot) < 0 ∧
      0 < root origin direction squareRoot := by
  have larger : approach origin direction ^ 2 < squareRoot ^ 2 := by
    have product :=
      mul_neg_of_pos_of_neg crosses ((excess_neg_iff _ _).mpr inside)
    rw [sq squareRoot, ← square, discriminant, discrim]
    linarith
  have bounds : |approach origin direction| < squareRoot :=
    abs_lt_of_sq_lt_sq larger nonnegative
  have doubled : 0 < 2 • crossing direction :=
    nsmul_pos crosses two_ne_zero
  rw [abs_lt] at bounds
  constructor
  · apply div_neg_of_neg_of_pos _ doubled
    linarith [bounds.1]
  · apply div_pos _ doubled
    linarith [bounds.2]

/-- From inside, a ray that is not parallel to the axis hits the wall once. -/
theorem hits_of_bore
    (crosses : 0 < crossing direction)
    (inside : origin ∈ bore radius)
    {squareRoot : R}
    (nonnegative : 0 ≤ squareRoot)
    (square :
      discriminant radius origin direction = squareRoot * squareRoot) :
    hits radius origin direction = {root origin direction squareRoot} := by
  obtain ⟨behind, front⟩ :=
    roots_of_bore crosses inside nonnegative square
  ext time
  rw [mem_hits_iff crosses.ne' square, Set.mem_singleton_iff]
  constructor
  · rintro ⟨positive, rfl | rfl⟩
    · rfl
    · exact absurd positive (not_lt.mpr behind.le)
  · rintro rfl
    exact ⟨front, Or.inl rfl⟩

end Field
end Cylinder
end Library
