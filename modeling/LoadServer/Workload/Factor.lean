import LoadServer.Numeric.Binary64

/-! The calibration factor: how many busy-loop iterations a host runs per microsecond. -/

namespace LoadServer

/-- Busy-loop iterations per microsecond, as the bits of a 64-bit floating-point number. -/
structure Factor where
  /-- The bits of the number. -/
  bits : UInt64
  deriving DecidableEq, Repr

namespace Factor

/-- Whether a number is greater than zero. -/
def isPositive (factor : Factor) : Bool :=
  decide (0 < factor.bits.toNat ∧ factor.bits.toNat ≤ Binary64.infinityBits)

/-- Whether a number is neither infinite nor undefined. -/
def isFinite (factor : Factor) : Bool :=
  decide (factor.bits.toNat % Binary64.signBit < Binary64.infinityBits)

/-- Whether a number can serve as a factor: it is finite and greater than zero. -/
def isUsable (factor : Factor) : Bool :=
  factor.isFinite && factor.isPositive

/-- The factor with these bits, unless they stand for zero, a negative or a non-finite number. -/
def ofBits? (bits : UInt64) : Option Factor :=
  if isUsable ⟨bits⟩ then some ⟨bits⟩ else none

/-- The greatest number of iterations that a run can have. -/
def maxIterations : Nat := UInt64.size - 1

/-- The iterations that take about this many microseconds: the rounded product, truncated toward
zero and held at the greatest count. -/
def iterations (factor : Factor) (micros : UInt64) : UInt64 :=
  let count := Binary64.nearest micros.toNat 1
  let product := Binary64.nearest (count * Binary64.units factor.bits.toNat) 1
  UInt64.ofNat (Binary64.floorAtMost maxIterations product)

end Factor

end LoadServer
