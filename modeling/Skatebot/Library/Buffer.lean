import Mathlib.Data.List.Basic

/-!
# Buffers that are written at an offset

A buffer has a fixed number of places.  A write past its end has no result.
-/

namespace Library

/-- So many values. -/
structure Buffer (Value : Type u) (size : Nat) where
  values : List Value
  length_values : values.length = size

namespace Buffer

variable {Value : Type u} {size : Nat}

/-- Copy values to an offset of a buffer. -/
def write (buffer : Buffer Value size) (offset : Nat) (values : List Value) :
    Option (Buffer Value size) :=
  if within : offset + values.length ≤ size then
    some {
      values := buffer.values.take offset ++
        (values ++ buffer.values.drop (offset + values.length))
      length_values := by
        simp only [List.length_append, List.length_take, List.length_drop,
          buffer.length_values]
        omega }
  else none

theorem exists_write
    (buffer : Buffer Value size)
    {offset : Nat}
    {values : List Value}
    (within : offset + values.length ≤ size) :
    ∃ after, buffer.write offset values = some after :=
  ⟨_, dif_pos within⟩

/-- What is written stands behind what was there before the offset. -/
theorem take_of_write
    {buffer after : Buffer Value size}
    {offset : Nat}
    {values : List Value}
    (written : buffer.write offset values = some after) :
    after.values.take (offset + values.length) =
      buffer.values.take offset ++ values := by
  unfold write at written
  split at written
  next within =>
    obtain rfl := Option.some_inj.mp written
    simp only [← List.append_assoc]
    apply List.take_left'
    rw [List.length_append, List.length_take, buffer.length_values]
    omega
  next => cases written

end Buffer
end Library
