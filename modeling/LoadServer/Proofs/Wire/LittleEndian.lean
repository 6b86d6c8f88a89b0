import LoadServer.Wire.LittleEndian
import Mathlib

/-! Bytes and numbers determine each other: the lowest bytes of a number are its remainder. -/

namespace LoadServer.LittleEndian

/-- A string of bytes stands for a number below the matching power of the base. -/
theorem decode_lt (bytes : Bytes) : decode bytes < 256 ^ bytes.length := by
  -- The head is a digit below the base and the tail is bounded by induction.
  induction bytes with
  | nil => simp [decode]
  | cons byte rest ih =>
    have digit := byte.toNat_lt
    simp only [decode, List.length_cons, Nat.pow_succ]
    omega

/-- Reading back an encoded number gives its remainder at the encoded width. -/
theorem decode_encode (width number : Nat) :
    decode (encode width number) = number % 256 ^ width := by
  -- The low byte and the quotient recombine into the remainder of the larger power.
  induction width generalizing number with
  | zero => simp [encode, decode, Nat.mod_one]
  | succ width ih =>
    have low : (UInt8.ofNat number).toNat = number % 256 := UInt8.toNat_ofNat'
    have split : 256 ^ (width + 1) = 256 * 256 ^ width := by
      rw [Nat.pow_succ, Nat.mul_comm]
    rw [encode, decode, ih, low, split, Nat.mod_mul]

/-! ## Numbers within other bytes -/

/-- The number that bytes from an offset on stand for, each byte counted by its power of 256. -/
def valueAt (bytes : Bytes) (offset width : Nat) : Nat :=
  ∑ index ∈ Finset.range width, (bytes.getD (offset + index) 0).toNat * 256 ^ index

variable {bytes other : Bytes} {offset width : Nat}

/-- Bytes from an offset on are read as the number that they stand for there. -/
theorem decode_take_drop (inside : offset + width ≤ bytes.length) :
    decode ((bytes.drop offset).take width) = valueAt bytes offset width := by
  -- The first byte counts once, and those behind it count one power more than among themselves.
  induction width generalizing offset with
  | zero => simp [decode, valueAt]
  | succ width ih =>
    have here : offset < bytes.length := by omega
    have behind := @ih (offset + 1) (by omega)
    have byte : bytes.getD (offset + 0) 0 = bytes[offset] := by simp [here]
    have power (index : Nat) : 256 * ((bytes.getD (offset + 1 + index) 0).toNat * 256 ^ index) =
        (bytes.getD (offset + (index + 1)) 0).toNat * 256 ^ (index + 1) := by
      have place : offset + 1 + index = offset + (index + 1) := by omega
      rw [place, pow_succ]
      ring
    rw [List.drop_eq_getElem_cons here, List.take_succ_cons, decode, behind, valueAt, valueAt,
      Finset.sum_range_succ', byte, Finset.mul_sum]
    simp only [power]
    omega

/-- There are as many bytes from an offset on as the width asks for. -/
theorem length_take_drop (inside : offset + width ≤ bytes.length) :
    ((bytes.drop offset).take width).length = width := by
  -- The width is there from the offset on.
  rw [List.length_take, List.length_drop]
  omega

/-- The number at a place is below the power of its width. -/
theorem valueAt_lt (inside : offset + width ≤ bytes.length) :
    valueAt bytes offset width < 256 ^ width := by
  -- A byte string of the width stands for a number below the bound.
  have bound := decode_lt ((bytes.drop offset).take width)
  rwa [length_take_drop inside, decode_take_drop inside] at bound

/-- The number at a place is written as the bytes that stand there. -/
theorem encode_valueAt (inside : offset + width ≤ bytes.length) :
    encode width (valueAt bytes offset width) = (bytes.drop offset).take width := by
  -- Writing inverts reading, at the width that was read.
  have written := encode_decode ((bytes.drop offset).take width)
  rwa [length_take_drop inside, decode_take_drop inside] at written

/-- The number at a place determines the bytes there. -/
theorem valueAt_inj (inside : offset + width ≤ bytes.length)
    (otherInside : offset + width ≤ other.length) :
    valueAt other offset width = valueAt bytes offset width ↔
      (other.drop offset).take width = (bytes.drop offset).take width := by
  -- The number and the bytes determine each other.
  constructor
  · intro same
    rw [← encode_valueAt inside, ← encode_valueAt otherInside, same]
  · intro same
    rw [← decode_take_drop inside, ← decode_take_drop otherInside, same]

end LoadServer.LittleEndian
