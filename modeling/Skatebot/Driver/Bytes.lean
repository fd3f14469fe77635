import Mathlib.Data.Nat.Bitwise
import Mathlib.Tactic.Ring
import Skatebot.Library.Rounding

/-!
# The bytes of a register

Bulk writes take a four-byte register as an array of bytes, low byte first,
which the driver fills with the macros of the Dynamixel SDK.
-/

namespace Skatebot

open Library

/-! ## Macros of the SDK -/

/-- `DXL_LOWORD`. -/
def dxlLoword (value : BitVec 64) : BitVec 16 :=
  (value &&& 0xffff#64).setWidth 16

/-- `DXL_HIWORD`. -/
def dxlHiword (value : BitVec 64) : BitVec 16 :=
  ((value >>> 16) &&& 0xffff#64).setWidth 16

/-- `DXL_LOBYTE`. -/
def dxlLobyte (value : BitVec 16) : BitVec 8 :=
  (value.setWidth 64 &&& 0xff#64).setWidth 8

/-- `DXL_HIBYTE`. -/
def dxlHibyte (value : BitVec 16) : BitVec 8 :=
  ((value.setWidth 64 >>> 8) &&& 0xff#64).setWidth 8

/-- A `uint8_t[4]`. -/
structure Bytes where
  first : BitVec 8
  second : BitVec 8
  third : BitVec 8
  fourth : BitVec 8
  deriving DecidableEq

/-- The bytes of a value as the driver splits it. -/
def Bytes.split (value : BitVec 64) : Bytes where
  first := dxlLobyte (dxlLoword value)
  second := dxlHibyte (dxlLoword value)
  third := dxlLobyte (dxlHiword value)
  fourth := dxlHibyte (dxlHiword value)

/-- The register that a servo makes of the bytes. -/
def Bytes.register (bytes : Bytes) : BitVec 32 :=
  bytes.fourth ++ bytes.third ++ bytes.second ++ bytes.first

/-! ## Round trip -/

theorem dxlLoword_toNat (value : BitVec 64) :
    (dxlLoword value).toNat = value.toNat % 2 ^ 16 := by
  rw [dxlLoword, BitVec.toNat_setWidth, BitVec.toNat_and,
    show (0xffff#64).toNat = 2 ^ 16 - 1 from rfl,
    Nat.and_two_pow_sub_one_eq_mod]
  omega

theorem dxlHiword_toNat (value : BitVec 64) :
    (dxlHiword value).toNat = value.toNat / 2 ^ 16 % 2 ^ 16 := by
  rw [dxlHiword, BitVec.toNat_setWidth, BitVec.toNat_and,
    BitVec.toNat_ushiftRight, Nat.shiftRight_eq_div_pow,
    show (0xffff#64).toNat = 2 ^ 16 - 1 from rfl,
    Nat.and_two_pow_sub_one_eq_mod]
  omega

theorem dxlLobyte_toNat (value : BitVec 16) :
    (dxlLobyte value).toNat = value.toNat % 2 ^ 8 := by
  rw [dxlLobyte, BitVec.toNat_setWidth, BitVec.toNat_and,
    BitVec.toNat_setWidth, show (0xff#64).toNat = 2 ^ 8 - 1 from rfl,
    Nat.and_two_pow_sub_one_eq_mod]
  omega

theorem dxlHibyte_toNat (value : BitVec 16) :
    (dxlHibyte value).toNat = value.toNat / 2 ^ 8 := by
  rw [dxlHibyte, BitVec.toNat_setWidth, BitVec.toNat_and,
    BitVec.toNat_ushiftRight, BitVec.toNat_setWidth,
    Nat.shiftRight_eq_div_pow, show (0xff#64).toNat = 2 ^ 8 - 1 from rfl,
    Nat.and_two_pow_sub_one_eq_mod]
  omega

/-- The register is the bytes' number in base 256. -/
theorem Bytes.register_toNat (bytes : Bytes) :
    bytes.register.toNat =
      bytes.first.toNat + 2 ^ 8 * bytes.second.toNat +
        2 ^ 16 * bytes.third.toNat + 2 ^ 24 * bytes.fourth.toNat := by
  have first := bytes.first.isLt
  have second := bytes.second.isLt
  have third := bytes.third.isLt
  unfold Bytes.register
  rw [BitVec.toNat_append, BitVec.toNat_append, BitVec.toNat_append,
    ← Nat.shiftLeft_add_eq_or_of_lt third,
    ← Nat.shiftLeft_add_eq_or_of_lt second,
    ← Nat.shiftLeft_add_eq_or_of_lt first]
  simp only [Nat.shiftLeft_eq]
  ring

/-- The servo gets the low half of the value that was split. -/
theorem Bytes.register_split (value : BitVec 64) :
    (Bytes.split value).register = value.setWidth 32 := by
  apply BitVec.eq_of_toNat_eq
  simp only [Bytes.register_toNat, Bytes.split, dxlLobyte_toNat,
    dxlHibyte_toNat, dxlLoword_toNat, dxlHiword_toNat,
    BitVec.toNat_setWidth]
  omega

/-- A signed number reaches the servo modulo 2³². -/
theorem Bytes.register_split_ofInt (value : Int) :
    (Bytes.split (BitVec.ofInt 64 value)).register =
      BitVec.ofInt 32 value := by
  rw [Bytes.register_split]
  apply BitVec.eq_of_toNat_eq
  rw [BitVec.toNat_setWidth, BitVec.toNat_ofInt, BitVec.toNat_ofInt]
  norm_num
  omega

end Skatebot
