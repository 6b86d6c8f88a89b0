import LoadServer.Proofs.Numeric.Value
import LoadServer.Workload.Factor

/-!
How many iterations stand for some microseconds. Main statements: the number is accurate to one
iteration and a relative error of `2 ^ -51` until it saturates, and neither a longer time nor a
faster host makes it less.
-/

namespace LoadServer.Factor

/-- The iterations per microsecond as an exact number. -/
def value (factor : Factor) : ℚ := Binary64.value factor.bits.toNat

/-- The product of the microseconds and the factor after both roundings. -/
def roundedProduct (factor : Factor) (micros : UInt64) : ℚ :=
  Binary64.nearest (Binary64.nearest micros.toNat 1 * Binary64.units factor.bits.toNat) 1 / 2 ^ 1074

/-! ## Factors -/

/-- The bits of the factors are those of the finite numbers above zero. -/
theorem isUsable_iff (factor : Factor) :
    factor.isUsable = true ↔ 1 ≤ factor.bits.toNat ∧ factor.bits.toNat ≤ 0x7FEFFFFFFFFFFFFF := by
  -- A usable factor is neither negative nor zero, infinite or undefined, which is a range of bits.
  unfold isUsable isFinite isPositive Binary64.signBit Binary64.infinityBits
  rw [Bool.and_eq_true, decide_eq_true_eq, decide_eq_true_eq]
  omega

/-- Only its own bits make a factor, and only if they are usable. -/
theorem ofBits?_eq_some_iff {bits : UInt64} {factor : Factor} :
    ofBits? bits = some factor ↔ factor.bits = bits ∧ factor.isUsable = true := by
  -- Making a factor checks the bits and keeps them.
  obtain ⟨own⟩ := factor
  unfold ofBits?
  split
  case isTrue usable =>
    rw [Option.some.injEq, Factor.mk.injEq]
    exact ⟨fun same => ⟨same.symm, same ▸ usable⟩, fun same => same.1.symm⟩
  case isFalse unusable =>
    refine iff_of_false (by simp) ?_
    rintro ⟨rfl, usable⟩
    exact unusable usable

/-! ## The rounded product -/

/-- No exact product is negative. -/
theorem product_nonneg (factor : Factor) (micros : UInt64) :
    0 ≤ micros.toNat * factor.value :=
  mul_nonneg (Nat.cast_nonneg _) (Binary64.value_nonneg _)

/-- No rounded product is negative. -/
theorem roundedProduct_nonneg (factor : Factor) (micros : UInt64) :
    0 ≤ factor.roundedProduct micros :=
  div_nonneg (Nat.cast_nonneg _) (by positivity)

/-- The iterations are the whole part of the rounded product, held at the greatest count. -/
theorem toNat_iterations (factor : Factor) (micros : UInt64) :
    (factor.iterations micros).toNat = min ⌊factor.roundedProduct micros⌋₊ (2 ^ 64 - 1) := by
  unfold iterations roundedProduct
  dsimp only
  rw [← Binary64.cast_one, Nat.floor_div_eq_div]
  -- The ceiling is a count of the type, so nothing is cut off.
  exact UInt64.toNat_ofNat_of_lt' (Nat.lt_of_le_of_lt (Nat.min_le_right _ _) (by decide))

/-- The two roundings together move the product by a relative error of less than `2 ^ -51`. -/
theorem abs_roundedProduct_sub_le (factor : Factor) (micros : UInt64) :
    |factor.roundedProduct micros - micros.toNat * factor.value| ≤
      3 * (micros.toNat * factor.value) / 2 ^ 53 := by
  -- Both sides are scaled by the unit, in which the bound on rounding is stated.
  have positive : (0 : ℚ) < 2 ^ 1074 := by positivity
  have scaled := Binary64.abs_nearest_product_sub_le micros.toNat
    (Binary64.units factor.bits.toNat)
  rw [Binary64.cast_units, ← mul_assoc, ← mul_assoc, mul_div_right_comm] at scaled
  unfold roundedProduct value
  rwa [div_sub' positive.ne', abs_div, abs_of_pos positive, div_le_iff₀ positive,
    mul_comm (2 ^ 1074) _]

/-- A product that is itself one of the numbers stays as it is, if the microseconds are few enough
to be one as well. -/
theorem roundedProduct_of_value {factor : Factor} {micros : UInt64} {double : Nat}
    (few : micros.toNat ≤ 2 ^ 53)
    (same : Binary64.value double = micros.toNat * factor.value) :
    factor.roundedProduct micros = micros.toNat * factor.value := by
  have count : Binary64.nearest micros.toNat 1 = micros.toNat :=
    Binary64.nearest_whole (Binary64.isRepresentable_of_le few)
  -- The product of the integers in units is the magnitude of that number.
  have product : micros.toNat * Binary64.units factor.bits.toNat = Binary64.units double := by
    have cast : ((micros.toNat * Binary64.units factor.bits.toNat : ℕ) : ℚ) =
        Binary64.units double := by
      rw [Nat.cast_mul, Binary64.cast_units, Binary64.cast_units, same, mul_assoc]
      rfl
    exact_mod_cast cast
  have positive : (2 : ℚ) ^ 1074 ≠ 0 := by positivity
  have unmoved := Binary64.nearest_whole (Binary64.isRepresentable_units double)
  rw [roundedProduct, count, product, unmoved, Binary64.cast_units, same,
    mul_div_cancel_right₀ _ positive]

/-- Neither a longer time nor a faster host makes the rounded product less. -/
theorem roundedProduct_mono {slower faster : Factor} {fewer more : UInt64}
    (speed : slower.value ≤ faster.value) (time : fewer ≤ more) :
    slower.roundedProduct fewer ≤ faster.roundedProduct more := by
  -- The count is rounded before it is multiplied, and the product after that.
  have counts : Binary64.nearest fewer.toNat 1 ≤ Binary64.nearest more.toNat 1 :=
    Binary64.nearest_mono Nat.one_pos Nat.one_pos
      (Nat.mul_le_mul_right 1 (UInt64.le_iff_toNat_le.mp time))
  have magnitudes : Binary64.units slower.bits.toNat ≤ Binary64.units faster.bits.toNat := by
    have cast : (Binary64.units slower.bits.toNat : ℚ) ≤ Binary64.units faster.bits.toNat := by
      rw [Binary64.cast_units, Binary64.cast_units]
      exact mul_le_mul_of_nonneg_right speed (by positivity)
    exact_mod_cast cast
  have products := Binary64.nearest_mono Nat.one_pos Nat.one_pos
    (Nat.mul_le_mul_right 1 (Nat.mul_le_mul counts magnitudes))
  unfold roundedProduct
  gcongr

/-! ## The iterations -/

/-- Below the greatest count, rounding and truncation together are off by at most one iteration and
a relative error of `2 ^ -51`. -/
theorem abs_iterations_sub_le {factor : Factor} {micros : UInt64}
    (unsaturated : (factor.iterations micros).toNat < 2 ^ 64 - 1) :
    |((factor.iterations micros).toNat : ℚ) - micros.toNat * factor.value| ≤
      1 + micros.toNat * factor.value / 2 ^ 51 := by
  have rounded := abs_roundedProduct_sub_le factor micros
  have nonneg := product_nonneg factor micros
  have whole : (factor.iterations micros).toNat = ⌊factor.roundedProduct micros⌋₊ := by
    have found := toNat_iterations factor micros
    omega
  -- Truncation takes off less than one, and the roundings move the product to either side.
  have below := Nat.floor_le (roundedProduct_nonneg factor micros)
  have above := Nat.lt_floor_add_one (factor.roundedProduct micros)
  rw [whole]
  rw [abs_le] at rounded ⊢
  constructor <;> linarith

/-- A product that is well above the greatest count is held at it. -/
theorem iterations_of_le {factor : Factor} {micros : UInt64}
    (large : (2 : ℚ) ^ 64 * (1 + 1 / 2 ^ 51) ≤ micros.toNat * factor.value) :
    (factor.iterations micros).toNat = 2 ^ 64 - 1 := by
  have rounded := (abs_le.mp (abs_roundedProduct_sub_le factor micros)).1
  have reached : 2 ^ 64 - 1 ≤ ⌊factor.roundedProduct micros⌋₊ := by
    -- What the roundings take off is less than what the product has above the greatest count.
    apply Nat.le_floor
    push_cast
    linarith
  rw [toNat_iterations, Nat.min_eq_right reached]

/-- Only a product that comes close to the greatest count is held at it. -/
theorem le_of_iterations {factor : Factor} {micros : UInt64}
    (saturated : (factor.iterations micros).toNat = 2 ^ 64 - 1) :
    (2 : ℚ) ^ 64 * (1 - 1 / 2 ^ 51) ≤ micros.toNat * factor.value := by
  -- The rounded product has reached the bound, and the exact one is near to it.
  have rounded := (abs_le.mp (abs_roundedProduct_sub_le factor micros)).2
  have reached : 2 ^ 64 - 1 ≤ ⌊factor.roundedProduct micros⌋₊ := by
    have found := toNat_iterations factor micros
    omega
  have product := (Nat.le_floor_iff (roundedProduct_nonneg factor micros)).mp reached
  push_cast at product
  linarith

/-- The iterations of every factor are accurate: they are off by at most one and a relative error of
`2 ^ -51` until they saturate, they saturate only around the greatest count, and an exact product of
few microseconds is merely truncated. -/
theorem iterations_accurate (bits micros : UInt64) :
    ((∃ factor, ofBits? bits = some factor) ↔
      1 ≤ bits.toNat ∧ bits.toNat ≤ 0x7FEFFFFFFFFFFFFF) ∧
    ∀ factor, ofBits? bits = some factor →
      let product : ℚ := micros.toNat * Binary64.value bits.toNat
      let found : Nat := (factor.iterations micros).toNat
      (found < 2 ^ 64 - 1 → |(found : ℚ) - product| ≤ 1 + product / 2 ^ 51) ∧
      (2 ^ 64 * (1 + 1 / 2 ^ 51) ≤ product → found = 2 ^ 64 - 1) ∧
      (found = 2 ^ 64 - 1 → 2 ^ 64 * (1 - 1 / 2 ^ 51) ≤ product) ∧
      (micros.toNat ≤ 2 ^ 53 →
        (∃ double < Binary64.infinityBits, Binary64.value double = product) →
        found = min ⌊product⌋₊ (2 ^ 64 - 1)) := by
  -- Making a factor asks for the range of bits, and the bounds are those of its product.
  constructor
  · constructor
    · rintro ⟨factor, made⟩
      obtain ⟨rfl, usable⟩ := ofBits?_eq_some_iff.mp made
      exact (isUsable_iff factor).mp usable
    · intro finite
      exact ⟨⟨bits⟩, ofBits?_eq_some_iff.mpr ⟨rfl, (isUsable_iff ⟨bits⟩).mpr finite⟩⟩
  · intro factor made
    obtain ⟨rfl, -⟩ := ofBits?_eq_some_iff.mp made
    refine ⟨abs_iterations_sub_le, iterations_of_le, le_of_iterations, ?_⟩
    rintro few ⟨double, -, same⟩
    rw [toNat_iterations, roundedProduct_of_value few same]
    rfl

/-- At half an iteration per microsecond three microseconds make one, and at a million the longest
time makes the greatest count. -/
theorem iterations_accurate_half_and_million :
    ((⟨0x3FE0000000000000⟩ : Factor).iterations 3).toNat = 1 ∧
    |(((⟨0x3FE0000000000000⟩ : Factor).iterations 3).toNat : ℚ) - 3 / 2| ≤ 1 + 3 / 2 / 2 ^ 51 ∧
    ((⟨0x412E848000000000⟩ : Factor).iterations 0xFFFFFFFFFFFFFFFF).toNat = 2 ^ 64 - 1 ∧
    (2 : ℚ) ^ 64 * (1 - 1 / 2 ^ 51) ≤ 0xFFFFFFFFFFFFFFFF * 1000000 := by
  -- The halves are exact, and the longest time at a million saturates.
  have half : Binary64.value 0x3FE0000000000000 = 1 / 2 := by norm_num [Binary64.value]
  have million : Binary64.value 0x412E848000000000 = 1000000 := by norm_num [Binary64.value]
  have product : Binary64.value 0x3FF8000000000000 = 3 / 2 := by norm_num [Binary64.value]
  have three : ((3 : UInt64).toNat : ℚ) * Binary64.value 0x3FE0000000000000 = 3 / 2 := by
    rw [half, show UInt64.toNat 3 = 3 from rfl]
    norm_num
  have longest : ((0xFFFFFFFFFFFFFFFF : UInt64).toNat : ℚ) * Binary64.value 0x412E848000000000 =
      0xFFFFFFFFFFFFFFFF * 1000000 := by
    rw [million, show UInt64.toNat 0xFFFFFFFFFFFFFFFF = 0xFFFFFFFFFFFFFFFF from rfl]
    norm_num
  obtain ⟨close, -, -, truncated⟩ :=
    (iterations_accurate 0x3FE0000000000000 3).2 ⟨0x3FE0000000000000⟩ rfl
  obtain ⟨-, held, reached, -⟩ :=
    (iterations_accurate 0x412E848000000000 0xFFFFFFFFFFFFFFFF).2 ⟨0x412E848000000000⟩ rfl
  rw [show UInt64.toNat 0x3FE0000000000000 = 0x3FE0000000000000 from rfl, three] at close truncated
  rw [show UInt64.toNat 0x412E848000000000 = 0x412E848000000000 from rfl, longest] at held reached
  have one := truncated (by decide) ⟨0x3FF8000000000000, by decide, product⟩
  have floor : ⌊(3 / 2 : ℚ)⌋₊ = 1 := by norm_num
  rw [floor] at one
  have greatest := held (by norm_num)
  exact ⟨one, close (by omega), greatest, reached greatest⟩

/-- Neither a longer time nor a faster host makes fewer iterations. -/
theorem iterations_mono {slower faster : Factor} {fewer more : UInt64}
    (speed : slower.value ≤ faster.value) (time : fewer ≤ more) :
    slower.iterations fewer ≤ faster.iterations more := by
  -- Rounding, truncation and the bound all keep the order.
  rw [UInt64.le_iff_toNat_le, toNat_iterations, toNat_iterations]
  exact min_le_min_right _ (Nat.floor_le_floor (roundedProduct_mono speed time))

/-- Where the counts of microseconds get too long for a number, at one iteration per microsecond and
just above, the order still stands. -/
theorem iterations_mono_beyond_significand :
    (⟨0x3FF0000000000000⟩ : Factor).iterations 0x20000000000001 ≤
      (⟨0x3FF0000000000001⟩ : Factor).iterations 0x20000000000003 := by
  -- Both counts have more bits than a significand, so they are rounded too.
  have speed : Binary64.value 0x3FF0000000000000 ≤ Binary64.value 0x3FF0000000000001 := by
    norm_num [Binary64.value]
  exact iterations_mono speed (by decide)

end LoadServer.Factor
