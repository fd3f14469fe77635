import Mathlib.Data.List.Sort
import Mathlib.Order.Defs.LinearOrder

/-!
# Sorting by a key

A sort that promises no order among elements of equal keys, as `std::sort`
does not.
-/

namespace Library

/-- A routine that sorts lists by a key. -/
structure Sorting {α : Type u} {Key : Type v} [LinearOrder Key]
    (key : α → Key) where
  sort : List α → List α
  perm : ∀ values, (sort values).Perm values
  sorted : ∀ values,
    (sort values).Pairwise fun first second => key first ≤ key second

namespace Sorting

variable {α : Type u} {Key : Type v} [LinearOrder Key] {key : α → Key}

/-- Insertion sort. -/
def insertion (key : α → Key) : Sorting key where
  sort values :=
    values.insertionSort fun first second => key first ≤ key second
  perm values := List.perm_insertionSort _ values
  sorted values := by
    have : Std.Total fun first second => key first ≤ key second :=
      ⟨fun first second => le_total (key first) (key second)⟩
    have : IsTrans α fun first second => key first ≤ key second :=
      ⟨fun _ _ _ => le_trans⟩
    exact List.pairwise_insertionSort _ values

@[simp] theorem mem_sort
    (sorting : Sorting key) {values : List α} {value : α} :
    value ∈ sorting.sort values ↔ value ∈ values :=
  (sorting.perm values).mem_iff

end Sorting
end Library
