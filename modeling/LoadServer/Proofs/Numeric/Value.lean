import LoadServer.Proofs.Numeric.Rounding

/-! The numbers that bits stand for, and their magnitudes in units. -/

namespace LoadServer.Binary64

/-- The number that the bits of a finite non-negative number stand for: 52 bits of a fraction, with
a leading one before them unless the exponent is the least one. -/
def value (bits : Nat) : ℚ :=
  let fraction : ℚ := (bits % 2 ^ 52 : ℕ)
  let exponent : ℕ := bits / 2 ^ 52
  if exponent = 0 then fraction * 2 ^ (-1074 : ℤ)
  else (2 ^ 52 + fraction) * 2 ^ ((exponent : ℤ) - 1075)

/-- The bits of a number without a sign stand for no negative one. -/
theorem value_nonneg (bits : Nat) : 0 ≤ value bits := by
  -- Significand and power of two are both nonnegative.
  unfold value
  dsimp only
  split <;> positivity

/-- A power of two is the same number among the natural and the rational ones. -/
theorem cast_two_pow (exponent : Nat) : ((Nat.pow 2 exponent : ℕ) : ℚ) = 2 ^ exponent :=
  Nat.cast_pow 2 exponent

/-- One is `2 ^ 1074` units. -/
theorem cast_one : (one : ℚ) = 2 ^ 1074 := by
  -- The number is a power of two, too great to be computed.
  delta one
  simp only [cast_two_pow]

/-- The magnitude in units counts how often the least number goes into the number. -/
theorem cast_units (bits : Nat) : (units bits : ℚ) = value bits * 2 ^ 1074 := by
  have unit : (2 : ℚ) ^ 1074 = 2 ^ (1074 : ℤ) := (zpow_natCast 2 1074).symm
  have leading : leadingBit = 2 ^ 52 := by decide
  have nonzero : (2 : ℚ) ≠ 0 := by decide
  unfold units value
  dsimp only
  rw [leading, unit]
  by_cases least : bits / 2 ^ 52 = 0
  · -- The least exponent counts units.
    rw [if_pos least, if_pos least, mul_assoc, ← zpow_add₀ nonzero]
    simp
  · -- Every exponent above the first one doubles the units.
    have above : ((bits / 2 ^ 52 : ℕ) : ℤ) - 1075 + 1074 = ((bits / 2 ^ 52 - 1 : ℕ) : ℤ) := by omega
    rw [if_neg least, if_neg least, mul_assoc, ← zpow_add₀ nonzero, above, zpow_natCast,
      Nat.cast_mul, cast_two_pow, Nat.cast_add, Nat.cast_pow]
    norm_num

/-- The magnitude of any bits needs no more than 53 significant bits. -/
theorem isRepresentable_units (bits : Nat) : IsRepresentable (units bits) := by
  -- With the leading bit the significand has at most 53 bits.
  have leading : leadingBit = 2 ^ 52 := by decide
  have fraction : bits % 2 ^ 52 < 2 ^ 52 := Nat.mod_lt _ (Nat.two_pow_pos 52)
  unfold units
  dsimp only
  rw [leading]
  by_cases least : bits / 2 ^ 52 = 0
  · rw [if_pos least]
    exact isRepresentable_of_le (by omega)
  · rw [if_neg least]
    exact isRepresentable_mul_two_pow (by omega) _

/-- A whole number of units is rounded with a relative error of at most `2 ^ -53`. -/
theorem abs_nearest_sub_le (numerator : Nat) :
    |(nearest numerator 1 : ℚ) - numerator| ≤ numerator / 2 ^ 53 := by
  -- The bounds on whole numbers become the two halves of the bound on the distance.
  obtain ⟨above, below⟩ := nearest_error numerator
  have aboveCast : (2 : ℚ) ^ 53 * nearest numerator 1 ≤ 2 ^ 53 * numerator + numerator := by
    exact_mod_cast above
  have belowCast : (2 : ℚ) ^ 53 * numerator ≤ 2 ^ 53 * nearest numerator 1 + numerator := by
    exact_mod_cast below
  rw [abs_le]
  constructor <;> linarith

/-- Rounding first a count and then its product with a magnitude moves the product by at most three
parts in `2 ^ 53`. -/
theorem abs_nearest_product_sub_le (count magnitude : Nat) :
    |(nearest (nearest count 1 * magnitude) 1 : ℚ) - count * magnitude| ≤
      3 * (count * magnitude) / 2 ^ 53 := by
  have first := abs_nearest_sub_le count
  have second := abs_nearest_sub_le (nearest count 1 * magnitude)
  rw [Nat.cast_mul] at second
  have nonneg : (0 : ℚ) ≤ count * magnitude := by positivity
  have factored : |(nearest count 1 : ℚ) * magnitude - count * magnitude| ≤
      count * magnitude / 2 ^ 53 := by
    rw [← sub_mul, abs_mul, Nat.abs_cast, mul_div_right_comm]
    exact mul_le_mul_of_nonneg_right first (Nat.cast_nonneg magnitude)
  -- The product that is rounded last is itself at most twice the exact one.
  have twice : (nearest count 1 : ℚ) * magnitude ≤ 2 * (count * magnitude) := by
    linarith [(abs_le.mp factored).2]
  calc |(nearest (nearest count 1 * magnitude) 1 : ℚ) - count * magnitude|
      ≤ |(nearest (nearest count 1 * magnitude) 1 : ℚ) - nearest count 1 * magnitude| +
          |(nearest count 1 : ℚ) * magnitude - count * magnitude| := abs_sub_le _ _ _
    _ ≤ nearest count 1 * magnitude / 2 ^ 53 + count * magnitude / 2 ^ 53 :=
        add_le_add second factored
    _ ≤ 3 * (count * magnitude) / 2 ^ 53 := by linarith

end LoadServer.Binary64
