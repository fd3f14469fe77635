import Skatebot.Library.Crc
import Skatebot.Library.LittleEndian
import Mathlib.Data.List.OfFn

/-!
# The packets of the lidar

`LiDARFrameTypeDef`, a packed record of 47 bytes whose last byte checks the
others.  The table that the driver computes the check with is that of a
polynomial, so no packet passes with up to eight bits altered that follow each
other in the order in which the check takes them, most significant bits first.
The serial line carries the least significant bit of a byte first; of the bits
that follow each other there, up to seven may be altered.
-/

namespace Skatebot

open Library LittleEndian

/-! ## The record -/

/-- `PKG_HEADER`. -/
def pkgHeader : BitVec 8 := 0x54

/-- `PKG_VER_LEN`. -/
def pkgVerLen : BitVec 8 := 0x2C

/-- `POINT_PER_PACK`. -/
def pointPerPack : Nat := 12

/-- `LidarPointStructDef`. -/
structure LidarPointStruct where
  distance : BitVec 16
  intensity : BitVec 8
  deriving DecidableEq

/-- `LiDARFrameTypeDef`. -/
structure LiDARFrame where
  header : BitVec 8
  verLen : BitVec 8
  speed : BitVec 16
  startAngle : BitVec 16
  point : Vector LidarPointStruct pointPerPack
  endAngle : BitVec 16
  timestamp : BitVec 16
  crc8 : BitVec 8
  deriving DecidableEq

/-- `sizeof(LiDARFrameTypeDef)`. -/
def pkgCount : Nat := 47

namespace LidarPointStruct

/-- The bytes of a point in memory. -/
def toBytes (point : LidarPointStruct) : List (BitVec 8) :=
  fieldBytes 2 point.distance ++ fieldBytes 1 point.intensity

/-- The point at an offset. -/
def ofBytes (bytes : List (BitVec 8)) (offset : Nat) : LidarPointStruct where
  distance := field 2 bytes offset
  intensity := field 1 bytes (offset + 2)

@[simp] theorem length_toBytes (point : LidarPointStruct) :
    point.toBytes.length = 3 := by
  simp [toBytes]

theorem ofBytes_append
    (offset : Nat)
    (before : List (BitVec 8))
    (point : LidarPointStruct)
    (after : List (BitVec 8))
    (placed : before.length = offset) :
    ofBytes (before ++ (point.toBytes ++ after)) offset = point := by
  have distance := field_append 2 offset before point.distance
    (fieldBytes 1 point.intensity ++ after) placed
  have intensity := field_append 1 (offset + 2)
    (before ++ fieldBytes 2 point.distance) point.intensity after
    (by simp [placed])
  rw [List.append_assoc] at intensity
  unfold ofBytes toBytes
  rw [List.append_assoc, distance, intensity]

theorem toBytes_ofBytes
    {bytes : List (BitVec 8)} {offset : Nat}
    (within : offset + 3 ≤ bytes.length) :
    (ofBytes bytes offset).toBytes = (bytes.drop offset).take 3 := by
  unfold ofBytes toBytes
  rw [fieldBytes_field 2 _ (by omega), fieldBytes_field 1 _ (by omega),
    ← List.drop_drop, ← List.take_add]

end LidarPointStruct

namespace LiDARFrame

/-- The bytes of a frame in memory. -/
def toBytes (frame : LiDARFrame) : List (BitVec 8) :=
  fieldBytes 1 frame.header ++ (fieldBytes 1 frame.verLen ++
    (fieldBytes 2 frame.speed ++ (fieldBytes 2 frame.startAngle ++
      (frame.point.toList.flatMap LidarPointStruct.toBytes ++
        (fieldBytes 2 frame.endAngle ++ (fieldBytes 2 frame.timestamp ++
          fieldBytes 1 frame.crc8))))))

/-- The frame that bytes make when they are copied into one. -/
def ofBytes (bytes : List (BitVec 8)) : LiDARFrame where
  header := field 1 bytes 0
  verLen := field 1 bytes 1
  speed := field 2 bytes 2
  startAngle := field 2 bytes 4
  point := Vector.ofFn fun i => LidarPointStruct.ofBytes bytes (6 + 3 * i)
  endAngle := field 2 bytes 42
  timestamp := field 2 bytes 44
  crc8 := field 1 bytes 46

theorem length_points (points : List LidarPointStruct) :
    (points.flatMap LidarPointStruct.toBytes).length = 3 * points.length := by
  induction points with
  | nil => rfl
  | cons point points inductionHypothesis =>
      simp only [List.flatMap_cons, List.length_append, List.length_cons,
        LidarPointStruct.length_toBytes, inductionHypothesis]
      omega

@[simp] theorem length_toBytes (frame : LiDARFrame) :
    frame.toBytes.length = pkgCount := by
  have points : frame.point.toList.length = 12 := Vector.length_toList
  simp only [toBytes, List.length_append, length_fieldBytes, length_points,
    points]
  rfl

/-- The bytes before the check. -/
def body (frame : LiDARFrame) : List (BitVec 8) :=
  fieldBytes 1 frame.header ++ (fieldBytes 1 frame.verLen ++
    (fieldBytes 2 frame.speed ++ (fieldBytes 2 frame.startAngle ++
      (frame.point.toList.flatMap LidarPointStruct.toBytes ++
        (fieldBytes 2 frame.endAngle ++ fieldBytes 2 frame.timestamp)))))

theorem toBytes_take (frame : LiDARFrame) :
    frame.toBytes.take (pkgCount - 1) = frame.body := by
  have points : frame.point.toList.length = 12 := Vector.length_toList
  have split : frame.toBytes = frame.body ++ fieldBytes 1 frame.crc8 := by
    simp only [toBytes, body, List.append_assoc]
  rw [split]
  apply List.take_left'
  simp only [body, List.length_append, length_fieldBytes, length_points,
    points]
  rfl

/-- A frame in memory is read back from there. -/
theorem ofBytes_toBytes (frame : LiDARFrame) :
    ofBytes frame.toBytes = frame := by
  have points : frame.point.toList.length = 12 := Vector.length_toList
  obtain ⟨header, verLen, speed, startAngle, point, endAngle, timestamp,
    crc8⟩ := frame
  simp only at points
  let front := fieldBytes 1 header ++ (fieldBytes 1 verLen ++
    (fieldBytes 2 speed ++ fieldBytes 2 startAngle))
  let middle := point.toList.flatMap LidarPointStruct.toBytes
  have middleLength : middle.length = 36 := by
    rw [length_points, points]
  unfold ofBytes toBytes
  congr 1
  · exact field_append 1 0 [] header _ rfl
  · exact field_append 1 1 (fieldBytes 1 header) verLen _ (by simp)
  · have read := field_append 2 2
      (fieldBytes 1 header ++ fieldBytes 1 verLen) speed
      (fieldBytes 2 startAngle ++ (middle ++ (fieldBytes 2 endAngle ++
        (fieldBytes 2 timestamp ++ fieldBytes 1 crc8)))) (by simp)
    simpa only [List.append_assoc] using read
  · have read := field_append 2 4 (fieldBytes 1 header ++
      (fieldBytes 1 verLen ++ fieldBytes 2 speed)) startAngle (middle ++
        (fieldBytes 2 endAngle ++ (fieldBytes 2 timestamp ++
          fieldBytes 1 crc8))) (by simp)
    simpa only [List.append_assoc] using read
  · apply Vector.ext
    intro i within
    have inside : i < point.toList.length := by
      rw [points]
      exact within
    have split : middle = (point.toList.take i).flatMap
        LidarPointStruct.toBytes ++ (point.toList[i].toBytes ++
          (point.toList.drop (i + 1)).flatMap LidarPointStruct.toBytes) := by
      conv_lhs => rw [show middle = point.toList.flatMap _ from rfl,
        ← List.take_append_drop i point.toList, List.drop_eq_getElem_cons inside]
      rw [List.flatMap_append, List.flatMap_cons]
    have read := LidarPointStruct.ofBytes_append (6 + 3 * i)
      (front ++ (point.toList.take i).flatMap LidarPointStruct.toBytes)
      point.toList[i]
      ((point.toList.drop (i + 1)).flatMap LidarPointStruct.toBytes ++
        (fieldBytes 2 endAngle ++ (fieldBytes 2 timestamp ++
          fieldBytes 1 crc8)))
      (by simp [front]; omega)
    rw [Vector.getElem_ofFn]
    simp only [middle] at split
    rw [split]
    simpa only [front, List.append_assoc, Vector.getElem_toList] using read
  · have read := field_append 2 42 (front ++ middle) endAngle
      (fieldBytes 2 timestamp ++ fieldBytes 1 crc8)
      (by simp [front, middleLength])
    simpa only [front, List.append_assoc] using read
  · have read := field_append 2 44
      (front ++ (middle ++ fieldBytes 2 endAngle)) timestamp
      (fieldBytes 1 crc8)
      (by simp [front, middleLength])
    simpa only [front, List.append_assoc] using read
  · have read := field_append 1 46
      (front ++ (middle ++ (fieldBytes 2 endAngle ++ fieldBytes 2 timestamp)))
      crc8 []
      (by simp [front, middleLength])
    simpa only [front, List.append_assoc, List.append_nil] using read

/-- Records one after the other are the bytes that they lie in. -/
theorem flatMap_ofBytes
    {bytes : List (BitVec 8)} (offset count : Nat)
    (within : offset + 3 * count ≤ bytes.length) :
    (List.ofFn fun i : Fin count =>
        LidarPointStruct.ofBytes bytes (offset + 3 * i)).flatMap
          LidarPointStruct.toBytes =
      (bytes.drop offset).take (3 * count) := by
  induction count with
  | zero => simp
  | succ count inductionHypothesis =>
      rw [List.ofFn_succ', List.concat_eq_append, List.flatMap_append,
        Nat.mul_succ, List.take_add, List.drop_drop]
      congr 1
      · exact inductionHypothesis (by omega)
      · rw [List.flatMap_singleton, Fin.val_last]
        exact LidarPointStruct.toBytes_ofBytes (by omega)

/-- Bytes copied into a frame lie there in memory. -/
theorem toBytes_ofBytes
    {bytes : List (BitVec 8)}
    (length : bytes.length = pkgCount) :
    (ofBytes bytes).toBytes = bytes := by
  have joined : ∀ offset first second,
      (bytes.drop offset).take first ++
          (bytes.drop (offset + first)).take second =
        (bytes.drop offset).take (first + second) := by
    intro offset first second
    rw [List.take_add, List.drop_drop]
  have points := flatMap_ofBytes 6 12
    (by rw [length]; decide)
  unfold toBytes ofBytes
  simp only [Vector.toList_ofFn, pointPerPack]
  rw [points, fieldBytes_field 1 0 (by rw [length]; decide),
    fieldBytes_field 1 1 (by rw [length]; decide),
    fieldBytes_field 2 2 (by rw [length]; decide),
    fieldBytes_field 2 4 (by rw [length]; decide),
    fieldBytes_field 2 42 (by rw [length]; decide),
    fieldBytes_field 2 44 (by rw [length]; decide),
    fieldBytes_field 1 46 (by rw [length]; decide),
    joined 44 2 1, joined 42 2 3, joined 6 36 5, joined 4 2 41, joined 2 2 43,
    joined 1 1 45, joined 0 1 46]
  exact List.take_of_length_le length.le

end LiDARFrame

/-! ## The check -/

/-- `CrcTable`. -/
def crcTable : List (BitVec 8) :=
  [
    0x00, 0x4d, 0x9a, 0xd7, 0x79, 0x34, 0xe3, 0xae, 0xf2, 0xbf, 0x68, 0x25,
    0x8b, 0xc6, 0x11, 0x5c, 0xa9, 0xe4, 0x33, 0x7e, 0xd0, 0x9d, 0x4a, 0x07,
    0x5b, 0x16, 0xc1, 0x8c, 0x22, 0x6f, 0xb8, 0xf5, 0x1f, 0x52, 0x85, 0xc8,
    0x66, 0x2b, 0xfc, 0xb1, 0xed, 0xa0, 0x77, 0x3a, 0x94, 0xd9, 0x0e, 0x43,
    0xb6, 0xfb, 0x2c, 0x61, 0xcf, 0x82, 0x55, 0x18, 0x44, 0x09, 0xde, 0x93,
    0x3d, 0x70, 0xa7, 0xea, 0x3e, 0x73, 0xa4, 0xe9, 0x47, 0x0a, 0xdd, 0x90,
    0xcc, 0x81, 0x56, 0x1b, 0xb5, 0xf8, 0x2f, 0x62, 0x97, 0xda, 0x0d, 0x40,
    0xee, 0xa3, 0x74, 0x39, 0x65, 0x28, 0xff, 0xb2, 0x1c, 0x51, 0x86, 0xcb,
    0x21, 0x6c, 0xbb, 0xf6, 0x58, 0x15, 0xc2, 0x8f, 0xd3, 0x9e, 0x49, 0x04,
    0xaa, 0xe7, 0x30, 0x7d, 0x88, 0xc5, 0x12, 0x5f, 0xf1, 0xbc, 0x6b, 0x26,
    0x7a, 0x37, 0xe0, 0xad, 0x03, 0x4e, 0x99, 0xd4, 0x7c, 0x31, 0xe6, 0xab,
    0x05, 0x48, 0x9f, 0xd2, 0x8e, 0xc3, 0x14, 0x59, 0xf7, 0xba, 0x6d, 0x20,
    0xd5, 0x98, 0x4f, 0x02, 0xac, 0xe1, 0x36, 0x7b, 0x27, 0x6a, 0xbd, 0xf0,
    0x5e, 0x13, 0xc4, 0x89, 0x63, 0x2e, 0xf9, 0xb4, 0x1a, 0x57, 0x80, 0xcd,
    0x91, 0xdc, 0x0b, 0x46, 0xe8, 0xa5, 0x72, 0x3f, 0xca, 0x87, 0x50, 0x1d,
    0xb3, 0xfe, 0x29, 0x64, 0x38, 0x75, 0xa2, 0xef, 0x41, 0x0c, 0xdb, 0x96,
    0x42, 0x0f, 0xd8, 0x95, 0x3b, 0x76, 0xa1, 0xec, 0xb0, 0xfd, 0x2a, 0x67,
    0xc9, 0x84, 0x53, 0x1e, 0xeb, 0xa6, 0x71, 0x3c, 0x92, 0xdf, 0x08, 0x45,
    0x19, 0x54, 0x83, 0xce, 0x60, 0x2d, 0xfa, 0xb7, 0x5d, 0x10, 0xc7, 0x8a,
    0x24, 0x69, 0xbe, 0xf3, 0xaf, 0xe2, 0x35, 0x78, 0xd6, 0x9b, 0x4c, 0x01,
    0xf4, 0xb9, 0x6e, 0x23, 0x8d, 0xc0, 0x17, 0x5a, 0x06, 0x4b, 0x9c, 0xd1,
    0x7f, 0x32, 0xe5, 0xa8]

/-- The table's entry for a byte. -/
def crcEntry (byte : BitVec 8) : BitVec 8 :=
  crcTable.getD byte.toNat 0

/-- `CalCRC8`. -/
def calCRC8 (data : List (BitVec 8)) : BitVec 8 :=
  data.foldl (fun crc byte => crcEntry (crc ^^^ byte)) 0

/-- The polynomial x⁸ + x⁶ + x³ + x² + 1. -/
def crcPolynomial : BitVec 8 := 0x4d

/-- The table holds the remainders of the bytes. -/
theorem crcEntry_tabulates : Crc.Tabulates crcEntry crcPolynomial := by
  unfold Crc.Tabulates
  decide +kernel

theorem crcEntry_spreads : Crc.Spreads crcEntry 7 := by
  unfold Crc.Spreads
  decide +kernel

/-- The check computed from the table is the remainder bit by bit. -/
theorem calCRC8_eq (data : List (BitVec 8)) :
    calCRC8 data =
      Crc.feedBits crcPolynomial 0 (Crc.messageBits data) :=
  crcEntry_tabulates.check_eq 0 data

/-- A message together with its check has none. -/
theorem calCRC8_concat_eq_zero_iff
    (data : List (BitVec 8)) (crc : BitVec 8) :
    calCRC8 (data ++ [crc]) = 0 ↔ calCRC8 data = crc := by
  have injective := crcEntry_tabulates.injective (by decide)
  have zero : crcEntry 0 = 0 := by decide
  have last : calCRC8 (data ++ [crc]) = crcEntry (calCRC8 data ^^^ crc) := by
    simp [calCRC8]
  rw [last, ← zero, injective.eq_iff]
  exact BitVec.xor_eq_zero_iff

/-! ## Packets on the wire -/

/-- Bytes that make a packet: the two bytes it is known by, and the right
check. -/
structure IsPacket (bytes : List (BitVec 8)) : Prop where
  length : bytes.length = pkgCount
  header : bytes[0]? = some pkgHeader
  verLen : bytes[1]? = some pkgVerLen
  checked : calCRC8 bytes = 0

instance (bytes : List (BitVec 8)) : Decidable (IsPacket bytes) :=
  decidable_of_iff
    (bytes.length = pkgCount ∧ bytes[0]? = some pkgHeader ∧
      bytes[1]? = some pkgVerLen ∧ calCRC8 bytes = 0)
    ⟨fun ⟨length, header, verLen, checked⟩ =>
      ⟨length, header, verLen, checked⟩,
    fun packet =>
      ⟨packet.length, packet.header, packet.verLen, packet.checked⟩⟩

/-- The frame that the lidar sends for its readings. -/
def LiDARFrame.send (speed startAngle : BitVec 16)
    (point : Vector LidarPointStruct pointPerPack)
    (endAngle timestamp : BitVec 16) : LiDARFrame :=
  let frame : LiDARFrame :=
    { header := pkgHeader
      verLen := pkgVerLen
      speed := speed
      startAngle := startAngle
      point := point
      endAngle := endAngle
      timestamp := timestamp
      crc8 := 0 }
  { frame with crc8 := calCRC8 (frame.toBytes.take (pkgCount - 1)) }

namespace IsPacket

/-- The check of a packet is that of its other bytes. -/
theorem crc8_eq
    {bytes : List (BitVec 8)}
    (length : bytes.length = pkgCount) :
    calCRC8 (bytes.take (pkgCount - 1)) = (LiDARFrame.ofBytes bytes).crc8 ↔
      calCRC8 bytes = 0 := by
  have last : bytes.drop (pkgCount - 1) =
      [(LiDARFrame.ofBytes bytes).crc8] := by
    have within : 46 + 1 ≤ bytes.length := by
      rw [length]
      decide
    have byte := fieldBytes_field 1 46 within
    have all : (bytes.drop 46).take 1 = bytes.drop 46 := by
      apply List.take_of_length_le
      rw [List.length_drop, length]
      decide
    rw [all] at byte
    rw [show pkgCount - 1 = 46 from rfl, ← byte]
    simp [fieldBytes, toBytes, LiDARFrame.ofBytes]
  rw [← calCRC8_concat_eq_zero_iff, ← last, List.take_append_drop]

/-- What the lidar sends is a packet. -/
theorem send (speed startAngle : BitVec 16)
    (point : Vector LidarPointStruct pointPerPack)
    (endAngle timestamp : BitVec 16) :
    IsPacket (LiDARFrame.send speed startAngle point endAngle
      timestamp).toBytes where
  length := LiDARFrame.length_toBytes _
  header := by
    simp [LiDARFrame.send, LiDARFrame.toBytes, fieldBytes, toBytes]
  verLen := by
    simp [LiDARFrame.send, LiDARFrame.toBytes, fieldBytes, toBytes]
  checked := by
    rw [← crc8_eq (LiDARFrame.length_toBytes _), LiDARFrame.ofBytes_toBytes]
    unfold LiDARFrame.send
    simp only [LiDARFrame.toBytes_take]
    rfl

/-- No packet is left one by altering up to eight bits in a row, in the order of
the check. -/
theorem burst
    {good bad : List (BitVec 8)}
    (packet : IsPacket good)
    {before first second after : List Bool}
    (short : first.length ≤ 8)
    (lengths : first.length = second.length)
    (different : first ≠ second)
    (sent : Crc.messageBits good = before ++ first ++ after)
    (received : Crc.messageBits bad = before ++ second ++ after) :
    ¬IsPacket bad := by
  intro other
  have remainders := Crc.feedBits_burst crcPolynomial (by decide)
    short lengths different 0 before after
  rw [← sent, ← received, ← calCRC8_eq, ← calCRC8_eq] at remainders
  exact remainders (packet.checked.trans other.checked.symm)

/-- No packet is left one by altering up to seven bits in a row, in the order of
the serial line. -/
theorem lineBurst
    {good bad : List (BitVec 8)}
    (packet : IsPacket good)
    {start : Nat}
    (agree : Crc.AgreeOutside start 7 good bad)
    (different : good ≠ bad) :
    ¬IsPacket bad := by
  intro other
  exact different (crcEntry_tabulates.lineBurst (by decide) crcEntry_spreads
    (packet.length.trans other.length.symm) agree
    (packet.checked.trans other.checked.symm))

end IsPacket

end Skatebot
