import Mathlib.Data.List.Basic
import Mathlib.Tactic.NormNum

/-!
# Little-endian fields

Numbers of several bytes, low byte first, and the fields of a packed record:
so many bytes from an offset.
-/

namespace Library
namespace LittleEndian

/-- The bytes of a number, as many as are asked for. -/
def toBytes : Nat → Nat → List (BitVec 8)
  | 0, _ => []
  | count + 1, value => BitVec.ofNat 8 value :: toBytes count (value / 256)

/-- The number of a string of bytes. -/
def number : List (BitVec 8) → Nat
  | [] => 0
  | byte :: bytes => byte.toNat + 256 * number bytes

@[simp] theorem length_toBytes (count value : Nat) :
    (toBytes count value).length = count := by
  induction count generalizing value with
  | zero => rfl
  | succ count inductionHypothesis =>
      simp [toBytes, inductionHypothesis]

theorem byte_pow (count : Nat) : 256 ^ count = 2 ^ (8 * count) := by
  rw [pow_mul]
  norm_num

theorem number_lt (bytes : List (BitVec 8)) :
    number bytes < 256 ^ bytes.length := by
  induction bytes with
  | nil => simp [number]
  | cons byte bytes inductionHypothesis =>
      have small := byte.isLt
      rw [number, List.length_cons, pow_succ]
      omega

@[simp] theorem number_toBytes (count value : Nat) :
    number (toBytes count value) = value % 256 ^ count := by
  induction count generalizing value with
  | zero => simp [number, toBytes, Nat.mod_one]
  | succ count inductionHypothesis =>
      rw [toBytes, number, inductionHypothesis, pow_succ, mul_comm (256 ^ count),
        Nat.mod_mul]
      simp

@[simp] theorem toBytes_number (bytes : List (BitVec 8)) :
    toBytes bytes.length (number bytes) = bytes := by
  induction bytes with
  | nil => rfl
  | cons byte bytes inductionHypothesis =>
      have small := byte.isLt
      have low : BitVec.ofNat 8 (byte.toNat + 256 * number bytes) = byte := by
        apply BitVec.eq_of_toNat_eq
        rw [BitVec.toNat_ofNat]
        omega
      rw [List.length_cons, toBytes, number, low,
        show (byte.toNat + 256 * number bytes) / 256 = number bytes by omega,
        inductionHypothesis]

/-! ## Fields of a record -/

/-- The field of so many bytes that begins at an offset. -/
def field (count : Nat) (bytes : List (BitVec 8)) (offset : Nat) :
    BitVec (8 * count) :=
  BitVec.ofNat (8 * count) (number ((bytes.drop offset).take count))

/-- The bytes of a field. -/
def fieldBytes (count : Nat) (value : BitVec (8 * count)) : List (BitVec 8) :=
  toBytes count value.toNat

@[simp] theorem length_fieldBytes
    (count : Nat) (value : BitVec (8 * count)) :
    (fieldBytes count value).length = count :=
  length_toBytes _ _

/-- A field that was written is read back, whatever surrounds it. -/
theorem field_append
    (count offset : Nat)
    (before : List (BitVec 8))
    (value : BitVec (8 * count))
    (after : List (BitVec 8))
    (placed : before.length = offset) :
    field count (before ++ (fieldBytes count value ++ after)) offset =
      value := by
  subst placed
  rw [field, List.drop_left, List.take_left' (length_fieldBytes ..),
    fieldBytes, number_toBytes, byte_pow, Nat.mod_eq_of_lt value.isLt]
  simp

/-- A field that lies within the record has the bytes that lie there. -/
theorem fieldBytes_field
    (count offset : Nat)
    {bytes : List (BitVec 8)}
    (within : offset + count ≤ bytes.length) :
    fieldBytes count (field count bytes offset) =
      (bytes.drop offset).take count := by
  have length : ((bytes.drop offset).take count).length = count := by
    rw [List.length_take, List.length_drop]
    omega
  have small := number_lt ((bytes.drop offset).take count)
  rw [length, byte_pow] at small
  have again := toBytes_number ((bytes.drop offset).take count)
  rw [length] at again
  rw [fieldBytes, field, BitVec.toNat_ofNat, Nat.mod_eq_of_lt small, again]

end LittleEndian
end Library
