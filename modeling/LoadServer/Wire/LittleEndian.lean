/-! Numbers written as bytes, the lowest byte first. -/

namespace LoadServer

/-- A string of bytes. -/
abbrev Bytes := List UInt8

namespace LittleEndian

/-- The lowest `width` bytes of a number, the lowest one first. -/
def encode : (width number : Nat) → Bytes
  | 0, _ => []
  | width + 1, number => UInt8.ofNat number :: encode width (number / 256)

/-- The number whose bytes are given, the lowest one first. -/
def decode : Bytes → Nat
  | [] => 0
  | byte :: rest => byte.toNat + 256 * decode rest

/-- An encoded number is as long as the width asks for. -/
@[simp] theorem length_encode (width number : Nat) : (encode width number).length = width := by
  -- Every level of the recursion puts out one byte.
  induction width generalizing number with
  | zero => rfl
  | succ width ih => simp [encode, ih]

/-- Bytes read as a number and written at their own width come back unchanged. -/
theorem encode_decode (bytes : Bytes) : encode bytes.length (decode bytes) = bytes := by
  -- The head is the remainder by the base, and the tail is the quotient.
  induction bytes with
  | nil => rfl
  | cons byte rest ih =>
    have digit := byte.toNat_lt
    have low : UInt8.ofNat (byte.toNat + 256 * decode rest) = byte := by
      apply UInt8.toNat_inj.mp
      rw [UInt8.toNat_ofNat']
      omega
    have high : (byte.toNat + 256 * decode rest) / 256 = decode rest := by omega
    simp only [List.length_cons, decode, encode, low, high, ih]

end LittleEndian

end LoadServer
