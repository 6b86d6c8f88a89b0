import LoadServer.Proofs.Numeric.Rounding

/-!
The bits of magnitudes. Main statements: the bits of a finite magnitude lie below those of infinity,
only zero has none, and they stand for the magnitude that they were made of.
-/

namespace LoadServer.Binary64

/-- A significand of 53 bits begins at `2 ^ 52`. -/
theorem leadingBit_eq : leadingBit = 2 ^ 52 := by decide

instance : DecidablePred IsRepresentable := fun magnitude =>
  inferInstanceAs (Decidable (spacing magnitude ∣ magnitude))

/-- The exponents of finite magnitudes are below that of infinity. -/
theorem log2_lt_of_finite {magnitude : Nat} (finite : magnitude < overflow) :
    magnitude.log2 < 2098 := by
  -- The greatest integer below all infinite magnitudes has the greatest of these exponents.
  have greatest : (overflow - 1).log2 = 2097 := by decide +kernel
  have below : magnitude.log2 ≤ (overflow - 1).log2 := by
    rw [Nat.log2_eq_log_two, Nat.log2_eq_log_two]
    exact Nat.log_mono_right (Nat.le_sub_one_of_lt finite)
  omega

/-- The significand of a magnitude of more than 52 bits has exactly 53 bits. -/
theorem significand_of_wide {magnitude : Nat} (wide : 2 ^ 52 ≤ magnitude) :
    2 ^ 52 ≤ magnitude / spacing magnitude ∧ magnitude / spacing magnitude < 2 ^ 53 := by
  -- The exponent is chosen so that the significand has exactly 53 bits.
  constructor
  · rw [Nat.le_div_iff_mul_le (spacing_pos magnitude)]
    exact mul_spacing_le wide
  · have long : 52 ≤ magnitude.log2 := (Nat.le_log2 (by omega)).mpr wide
    rw [Nat.div_lt_iff_lt_mul (spacing_pos magnitude), spacing_eq, ← Nat.pow_add]
    calc magnitude < 2 ^ (magnitude.log2 + 1) := Nat.lt_log2_self
      _ = 2 ^ (53 + (magnitude.log2 - 52)) := by congr 1; omega

/-- The bits of a magnitude of at most 52 bits are the magnitude itself. -/
theorem bits_of_narrow {magnitude : Nat} (narrow : magnitude < 2 ^ 52) :
    bits magnitude = magnitude := by
  -- Below the first normal number the bits are the fraction alone.
  have wide : 2 ^ 52 ≤ overflow := by decide +kernel
  unfold bits
  rw [if_neg (by omega), leadingBit_eq, if_pos narrow]

/-- The bits of a longer magnitude are its exponent and its significand, which adds its leading bit
to the exponent. -/
theorem bits_of_wide {magnitude : Nat} (wide : 2 ^ 52 ≤ magnitude) (finite : magnitude < overflow) :
    bits magnitude = (magnitude.log2 - 52) * 2 ^ 52 + magnitude / spacing magnitude := by
  -- The leading bit of the significand carries into the exponent.
  unfold bits
  rw [if_neg (Nat.not_le.mpr finite), leadingBit_eq, if_neg (Nat.not_lt.mpr wide)]
  rfl

/-- The bits of finite magnitudes are below those of infinity. -/
theorem bits_lt_of_finite {magnitude : Nat} (finite : magnitude < overflow) :
    bits magnitude < infinityBits := by
  have infinity : infinityBits = 2047 * 2 ^ 52 := by decide
  rcases Nat.lt_or_ge magnitude (2 ^ 52) with narrow | wide
  · rw [bits_of_narrow narrow]
    omega
  · -- Exponent and significand both stay below their bounds.
    have exponent := log2_lt_of_finite finite
    have significand := significand_of_wide wide
    rw [bits_of_wide wide finite]
    omega

/-- Only zero has no bits. -/
theorem bits_pos {magnitude : Nat} (positive : 0 < magnitude) (finite : magnitude < overflow) :
    0 < bits magnitude := by
  -- A narrow magnitude is its own bits, and a wide one has a significand that is not zero.
  rcases Nat.lt_or_ge magnitude (2 ^ 52) with narrow | wide
  · rw [bits_of_narrow narrow]
    exact positive
  · have significand := significand_of_wide wide
    rw [bits_of_wide wide finite]
    omega

/-- The bits of a finite magnitude that 53 significant bits can hold stand for it. -/
theorem units_bits {magnitude : Nat} (held : IsRepresentable magnitude)
    (finite : magnitude < overflow) : units (bits magnitude) = magnitude := by
  rcases Nat.lt_or_ge magnitude (2 ^ 52) with narrow | wide
  · -- The bits are all fraction.
    have exponent : magnitude / 2 ^ 52 = 0 := Nat.div_eq_of_lt narrow
    rw [bits_of_narrow narrow, units, leadingBit_eq, if_pos exponent, Nat.mod_eq_of_lt narrow]
  · -- The leading bit of the significand makes the exponent one greater.
    have leads := significand_of_wide wide
    rw [bits_of_wide wide finite, units, leadingBit_eq]
    generalize last : magnitude / spacing magnitude = significand at leads ⊢
    have exponent : ((magnitude.log2 - 52) * 2 ^ 52 + significand) / 2 ^ 52 =
        magnitude.log2 - 52 + 1 := by omega
    have fraction : 2 ^ 52 + ((magnitude.log2 - 52) * 2 ^ 52 + significand) % 2 ^ 52 =
        significand := by omega
    rw [exponent, fraction, if_neg (Nat.succ_ne_zero _), Nat.add_sub_cancel, ← last]
    exact Nat.div_mul_cancel held

end LoadServer.Binary64
