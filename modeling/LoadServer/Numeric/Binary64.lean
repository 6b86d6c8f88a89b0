/-!
Magnitudes of 64-bit binary floating point, counted exactly in units of the least positive one,
and rounding to the nearest of them with ties to even.
-/

namespace LoadServer.Binary64

/-- One, counted in units of `2 ^ -1074`, the least positive magnitude. -/
def one : Nat := Nat.pow 2 1074

/-- The least magnitude in units that is too large to be finite. -/
def overflow : Nat := Nat.pow 2 2098

/-- The leading bit of a significand of 53 bits. -/
def leadingBit : Nat := 0x10000000000000

/-- The bit that marks negative numbers. -/
def signBit : Nat := 0x8000000000000000

/-- The bits of positive infinity, which end the range of the finite magnitudes. -/
def infinityBits : Nat := 0x7FF0000000000000

/-- The magnitude in units that the bits of a finite non-negative number stand for. -/
def units (bits : Nat) : Nat :=
  let fraction := bits % leadingBit
  let exponent := bits / leadingBit
  if exponent = 0 then fraction else (leadingBit + fraction) * Nat.pow 2 (exponent - 1)

/-- The bits of a magnitude in units that a finite number has, and those of infinity beyond. -/
def bits (magnitude : Nat) : Nat :=
  if overflow ≤ magnitude then infinityBits
  else if magnitude < leadingBit then magnitude
  else
    let shift := magnitude.log2 - 52
    shift * leadingBit + magnitude / Nat.pow 2 shift

/-- The integer nearest to a quotient, and the even one of two that are equally near. -/
def roundQuotient (numerator denominator : Nat) : Nat :=
  let quotient := numerator / denominator
  let twice := 2 * (numerator % denominator)
  if twice < denominator ∨ (twice = denominator ∧ quotient % 2 = 0) then quotient
  else quotient + 1

/-- The distance between neighbouring magnitudes around a magnitude in units. -/
def spacing (magnitude : Nat) : Nat :=
  Nat.pow 2 (magnitude.log2 - 52)

/-- The magnitude nearest to a quotient of units, with 53 significant bits and ties to even. -/
def nearest (numerator denominator : Nat) : Nat :=
  let step := spacing (numerator / denominator)
  roundQuotient numerator (denominator * step) * step

/-- The greatest integer that is at most a magnitude in units, held at a ceiling. -/
def floorAtMost (ceiling magnitude : Nat) : Nat :=
  min (magnitude / one) ceiling

end LoadServer.Binary64
