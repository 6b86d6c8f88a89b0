import LoadServer.Numeric.Binary64
import Mathlib

/-!
Rounding to 53 significant bits. Main statements: rounding keeps every magnitude that needs no more
bits, follows the order of the quotients, moves a whole number of units by at most one part in
`2 ^ 53`, and is to nearest with ties to even.
-/

namespace LoadServer.Binary64

/-! ## Quotients rounded to integers -/

/-- A rounded quotient is at most a number exactly if the quotient lies below the middle between
this number and the next one, or on the middle when the number is even. -/
theorem roundQuotient_le_iff {numerator denominator bound : Nat} (positive : 0 < denominator) :
    roundQuotient numerator denominator ≤ bound ↔
      2 * numerator < (2 * bound + 1) * denominator ∨
        (2 * numerator = (2 * bound + 1) * denominator ∧ bound % 2 = 0) := by
  have parts := Nat.div_add_mod numerator denominator
  have small := Nat.mod_lt numerator positive
  unfold roundQuotient
  dsimp only
  generalize numerator / denominator = quotient at parts ⊢
  generalize numerator % denominator = rest at parts small ⊢
  -- Only for the quotient itself the rest decides, and it decides by the same two conditions.
  rcases Nat.lt_trichotomy quotient bound with less | rfl | more
  · have gap : denominator * (quotient + 1) ≤ denominator * bound := Nat.mul_le_mul_left _ less
    have below : 2 * numerator < (2 * bound + 1) * denominator := by
      rw [← parts]
      linarith
    refine iff_of_true ?_ (.inl below)
    split <;> omega
  · have same : (2 * quotient + 1) * denominator = 2 * (denominator * quotient) + denominator := by
      ring
    rw [same, ← parts]
    split <;> omega
  · have gap : denominator * (bound + 1) ≤ denominator * quotient := Nat.mul_le_mul_left _ more
    have above : (2 * bound + 1) * denominator < 2 * numerator := by
      rw [← parts]
      linarith
    refine iff_of_false ?_ (by omega)
    split <;> omega

/-- A quotient is at most the middle after the number it is rounded to, and on it only if this
number is even. -/
theorem le_middle {denominator : Nat} (positive : 0 < denominator) (numerator : Nat) :
    2 * numerator < (2 * roundQuotient numerator denominator + 1) * denominator ∨
      (2 * numerator = (2 * roundQuotient numerator denominator + 1) * denominator ∧
        roundQuotient numerator denominator % 2 = 0) :=
  -- This is the characterisation of rounding at the rounded quotient itself.
  (roundQuotient_le_iff positive).mp (Nat.le_refl _)

/-- Rounding follows the order of the quotients, whatever their denominators. -/
theorem roundQuotient_mono {numerator denominator other another : Nat}
    (positive : 0 < denominator) (anotherPositive : 0 < another)
    (ordered : numerator * another ≤ other * denominator) :
    roundQuotient numerator denominator ≤ roundQuotient other another := by
  -- The middle that bounds the greater quotient bounds the lesser one too.
  refine (roundQuotient_le_iff positive).mpr ?_
  have middle := le_middle anotherPositive other
  generalize 2 * roundQuotient other another + 1 = odd at middle ⊢
  rcases middle with below | ⟨tie, even⟩
  · left
    have crossed : 2 * other * denominator < odd * another * denominator :=
      Nat.mul_lt_mul_of_pos_right below positive
    have scaled : 2 * numerator * another < odd * denominator * another := by linarith
    exact Nat.lt_of_mul_lt_mul_right scaled
  · have crossed : 2 * other * denominator = odd * another * denominator := by rw [tie]
    have scaled : 2 * numerator * another ≤ odd * denominator * another := by linarith
    have bounded := Nat.le_of_mul_le_mul_right scaled anotherPositive
    rcases Nat.lt_or_eq_of_le bounded with below | same
    · exact .inl below
    · exact .inr ⟨same, even⟩

/-- A quotient without a rest is rounded to itself. -/
theorem roundQuotient_mul {denominator : Nat} (positive : 0 < denominator) (quotient : Nat) :
    roundQuotient (quotient * denominator) denominator = quotient := by
  -- The remainder is zero, so there is nothing to round.
  simp [roundQuotient, Nat.mul_div_cancel _ positive, positive]

/-- A rounded quotient is off by at most half, upwards. -/
theorem two_mul_le_roundQuotient {denominator : Nat} (positive : 0 < denominator)
    (numerator : Nat) :
    2 * numerator ≤ 2 * (roundQuotient numerator denominator * denominator) + denominator := by
  -- The dividend is not past the middle that follows the quotient.
  have middle := le_middle positive numerator
  rw [Nat.add_mul, Nat.one_mul, Nat.mul_assoc] at middle
  omega

/-- A rounded quotient is off by at most half, downwards. -/
theorem two_mul_roundQuotient_le {denominator : Nat} (positive : 0 < denominator)
    (numerator : Nat) :
    2 * (roundQuotient numerator denominator * denominator) ≤ 2 * numerator + denominator := by
  -- The rounded quotient is not at most the number before it, if there is one.
  cases rounded : roundQuotient numerator denominator with
  | zero => omega
  | succ before =>
    have above : ¬ roundQuotient numerator denominator ≤ before := by omega
    rw [roundQuotient_le_iff positive, not_or, Nat.add_mul, Nat.mul_assoc] at above
    rw [Nat.add_mul]
    omega

/-- Whether a number is nearer to a quotient than another one, or just as near and even in its last
place. -/
def Precedes (numerator denominator : Nat) (isEven : Prop) (number other : Nat) : Prop :=
  Nat.dist (number * denominator) numerator < Nat.dist (other * denominator) numerator ∨
    (Nat.dist (number * denominator) numerator = Nat.dist (other * denominator) numerator ∧ isEven)

/-- No integer is nearer to a quotient than the rounded one, which is even if another is as near. -/
theorem precedes_roundQuotient {numerator denominator other : Nat} (positive : 0 < denominator)
    (apart : other ≠ roundQuotient numerator denominator) :
    Precedes numerator denominator (2 ∣ roundQuotient numerator denominator)
      (roundQuotient numerator denominator) other := by
  -- An integer further away is past one of the two middles around the quotient.
  unfold Precedes Nat.dist
  rcases Nat.lt_or_gt_of_ne apart with less | more
  · -- The quotient is not below the middle that follows the lesser integers.
    cases rounded : roundQuotient numerator denominator with
    | zero => omega
    | succ before =>
      have after : ¬ roundQuotient numerator denominator ≤ before := by omega
      have within : roundQuotient numerator denominator ≤ before + 1 := by omega
      rw [roundQuotient_le_iff positive, Nat.add_mul, Nat.mul_assoc] at after within
      have gap : other * denominator ≤ before * denominator := Nat.mul_le_mul_right _ (by omega)
      rw [Nat.add_mul] at within ⊢
      omega
  · -- The quotient is not above the middle that precedes the greater integers.
    have within := le_middle positive numerator
    have gap : (roundQuotient numerator denominator + 1) * denominator ≤ other * denominator :=
      Nat.mul_le_mul_right _ more
    rw [Nat.add_mul] at gap
    rw [Nat.add_mul, Nat.mul_assoc] at within
    have above := two_mul_roundQuotient_le positive numerator
    omega

/-! ## The distance between neighbours -/

/-- The distance is a power of two. -/
theorem spacing_eq (magnitude : Nat) : spacing magnitude = 2 ^ (magnitude.log2 - 52) := rfl

/-- Neighbours are apart. -/
theorem spacing_pos (magnitude : Nat) : 0 < spacing magnitude := Nat.two_pow_pos _

/-- Powers of two that are not far below a magnitude are counted by its distance. -/
theorem spacing_dvd_two_pow {magnitude exponent : Nat} (reached : magnitude.log2 - 52 ≤ exponent) :
    spacing magnitude ∣ 2 ^ exponent :=
  Nat.pow_dvd_pow 2 reached

/-- Magnitudes of at most 53 bits have all integers around them. -/
theorem spacing_eq_one {magnitude : Nat} (narrow : magnitude < 2 ^ 53) : spacing magnitude = 1 := by
  -- A magnitude of at most 53 bits has no digit to lose.
  have bits : magnitude.log2 ≤ 52 := by
    rcases Nat.eq_zero_or_pos magnitude with rfl | positive
    · simp
    · exact Nat.le_of_lt_succ ((Nat.log2_lt positive.ne').mpr narrow)
  rw [spacing_eq, Nat.sub_eq_zero_of_le bits, Nat.pow_zero]

/-- Magnitudes of more than 52 bits are at least `2 ^ 52` times the distance. -/
theorem mul_spacing_le {magnitude : Nat} (wide : 2 ^ 52 ≤ magnitude) :
    2 ^ 52 * spacing magnitude ≤ magnitude := by
  -- The spacing and 52 more digits make up the leading power of two.
  have positive : magnitude ≠ 0 := by omega
  have bits : 52 ≤ magnitude.log2 := (Nat.le_log2 positive).mpr wide
  calc 2 ^ 52 * spacing magnitude = 2 ^ magnitude.log2 := by
        rw [spacing_eq, ← Nat.pow_add, Nat.add_sub_cancel' bits]
    _ ≤ magnitude := Nat.log2_self_le positive

/-- A magnitude of 53 significant bits has neighbours no further away than its last place. -/
theorem spacing_dvd_of_lt {significand : Nat} (narrow : significand < 2 ^ 53) (exponent : Nat) :
    spacing (significand * 2 ^ exponent) ∣ 2 ^ exponent := by
  -- At most 53 bits stand above the exponent, so the spacing does not reach past it.
  apply spacing_dvd_two_pow
  rcases Nat.eq_zero_or_pos (significand * 2 ^ exponent) with zero | positive
  · simp [zero]
  · have wide : significand * 2 ^ exponent < 2 ^ (53 + exponent) := by
      rw [Nat.pow_add]
      exact Nat.mul_lt_mul_of_pos_right narrow (Nat.two_pow_pos exponent)
    have bits := (Nat.log2_lt positive.ne').mpr wide
    omega

/-- The power of two that follows the greatest significand has neighbours twice as far away. -/
theorem spacing_two_pow (exponent : Nat) :
    spacing (2 ^ 53 * 2 ^ exponent) = 2 * 2 ^ exponent := by
  -- The leading bit alone stands above the 53 places, so the spacing doubles.
  rw [spacing_eq, ← Nat.pow_add, Nat.log2_two_pow, Nat.add_comm 53, Nat.add_sub_assoc (by decide),
    Nat.pow_succ']

/-! ## The nearest magnitude -/

/-- A magnitude that 53 significant bits can hold. -/
def IsRepresentable (magnitude : Nat) : Prop := spacing magnitude ∣ magnitude

/-- 53 significant bits hold every significand of at most so many bits in any place, and the power
of two that follows these significands. -/
theorem isRepresentable_mul_two_pow {significand : Nat} (narrow : significand ≤ 2 ^ 53)
    (exponent : Nat) : IsRepresentable (significand * 2 ^ exponent) := by
  -- The bound itself is a power of two, whose doubled spacing still divides it.
  rcases Nat.lt_or_eq_of_le narrow with less | rfl
  · exact Nat.dvd_trans (spacing_dvd_of_lt less exponent) (Nat.dvd_mul_left _ _)
  · rw [IsRepresentable, spacing_two_pow]
    exact Nat.mul_dvd_mul_right (by decide) _

/-- 53 significant bits hold the whole numbers of at most so many bits. -/
theorem isRepresentable_of_le {magnitude : Nat} (narrow : magnitude ≤ 2 ^ 53) :
    IsRepresentable magnitude := by
  -- A whole number is a significand with no exponent.
  simpa using isRepresentable_mul_two_pow narrow 0

/-- Rounding does not fall below a multiple of the distance. -/
theorem le_nearest {numerator denominator magnitude : Nat} (positive : 0 < denominator)
    (counted : spacing (numerator / denominator) ∣ magnitude)
    (below : magnitude * denominator ≤ numerator) : magnitude ≤ nearest numerator denominator := by
  -- A multiple of the spacing rounds to itself, and rounding keeps the order.
  obtain ⟨count, rfl⟩ := counted
  have step := Nat.mul_pos positive (spacing_pos (numerator / denominator))
  have ordered : count * (denominator * spacing (numerator / denominator)) ≤ numerator := by
    calc _ = spacing (numerator / denominator) * count * denominator := by ring
      _ ≤ numerator := below
  have rounded := roundQuotient_mono step step (Nat.mul_le_mul_right _ ordered)
  rw [roundQuotient_mul step] at rounded
  rw [nearest, Nat.mul_comm]
  exact Nat.mul_le_mul_right _ rounded

/-- Rounding does not rise above a multiple of the distance. -/
theorem nearest_le {numerator denominator magnitude : Nat} (positive : 0 < denominator)
    (counted : spacing (numerator / denominator) ∣ magnitude)
    (above : numerator ≤ magnitude * denominator) : nearest numerator denominator ≤ magnitude := by
  -- A multiple of the spacing rounds to itself, and rounding keeps the order.
  obtain ⟨count, rfl⟩ := counted
  have step := Nat.mul_pos positive (spacing_pos (numerator / denominator))
  have ordered : numerator ≤ count * (denominator * spacing (numerator / denominator)) := by
    calc numerator ≤ spacing (numerator / denominator) * count * denominator := above
      _ = _ := by ring
  have rounded := roundQuotient_mono step step (Nat.mul_le_mul_right _ ordered)
  rw [roundQuotient_mul step] at rounded
  rw [nearest, Nat.mul_comm (spacing _)]
  exact Nat.mul_le_mul_right _ rounded

/-- A magnitude that 53 significant bits can hold is rounded to itself. -/
theorem nearest_of_isRepresentable {magnitude denominator : Nat} (positive : 0 < denominator)
    (held : IsRepresentable magnitude) :
    nearest (magnitude * denominator) denominator = magnitude := by
  -- The quotient is exact, so it bounds the nearest number from both sides.
  have counted : spacing (magnitude * denominator / denominator) ∣ magnitude := by
    rw [Nat.mul_div_cancel _ positive]
    exact held
  exact Nat.le_antisymm (nearest_le positive counted (Nat.le_refl _))
    (le_nearest positive counted (Nat.le_refl _))

/-- A whole number of units that 53 significant bits can hold is rounded to itself. -/
theorem nearest_whole {magnitude : Nat} (held : IsRepresentable magnitude) :
    nearest magnitude 1 = magnitude := by
  -- A whole number is its quotient by one.
  simpa using nearest_of_isRepresentable Nat.one_pos held

/-- Rounding follows the order of the quotients: a lesser one is never rounded to more. -/
theorem nearest_mono {numerator denominator other another : Nat}
    (positive : 0 < denominator) (anotherPositive : 0 < another)
    (ordered : numerator * another ≤ other * denominator) :
    nearest numerator denominator ≤ nearest other another := by
  -- The spacing of the quotients is the same, or a power of two separates them.
  have quotients : numerator / denominator ≤ other / another := by
    rw [Nat.le_div_iff_mul_le anotherPositive]
    have whole := Nat.mul_le_mul_right another (Nat.div_mul_le_self numerator denominator)
    have scaled : numerator / denominator * another * denominator ≤ other * denominator := by
      calc _ = numerator / denominator * denominator * another := by ring
        _ ≤ numerator * another := whole
        _ ≤ other * denominator := ordered
    exact Nat.le_of_mul_le_mul_right scaled positive
  rcases Nat.lt_or_ge (numerator / denominator).log2 (other / another).log2 with shorter | same
  · -- A power of two lies between the quotients, and both roundings stay on their own side of it.
    have power : numerator / denominator < 2 ^ (other / another).log2 :=
      Nat.lt_of_lt_of_le Nat.lt_log2_self (Nat.pow_le_pow_right (by decide) shorter)
    have reached : 2 ^ (other / another).log2 ≤ other / another := by
      apply Nat.log2_self_le
      intro zero
      simp [zero] at shorter
    calc nearest numerator denominator ≤ 2 ^ (other / another).log2 :=
          nearest_le positive (spacing_dvd_two_pow (by omega))
            ((Nat.div_lt_iff_lt_mul positive).mp power).le
      _ ≤ nearest other another :=
          le_nearest anotherPositive (spacing_dvd_two_pow (Nat.sub_le _ _))
            ((Nat.le_div_iff_mul_le anotherPositive).mp reached)
  · -- Both quotients are rounded to multiples of the same distance.
    have shorter : (numerator / denominator).log2 ≤ (other / another).log2 := by
      rw [Nat.log2_eq_log_two, Nat.log2_eq_log_two]
      exact Nat.log_mono_right quotients
    have log := Nat.le_antisymm shorter same
    have step : spacing (numerator / denominator) = spacing (other / another) := by
      rw [spacing_eq, spacing_eq, log]
    unfold nearest
    rw [step]
    apply Nat.mul_le_mul_right
    apply roundQuotient_mono (Nat.mul_pos positive (spacing_pos _))
      (Nat.mul_pos anotherPositive (spacing_pos _))
    calc numerator * (another * spacing (other / another))
        = numerator * another * spacing (other / another) := by ring
      _ ≤ other * denominator * spacing (other / another) := Nat.mul_le_mul_right _ ordered
      _ = other * (denominator * spacing (other / another)) := by ring

/-- A whole number of units moves by at most one part in `2 ^ 53`. -/
theorem nearest_error (numerator : Nat) :
    2 ^ 53 * nearest numerator 1 ≤ 2 ^ 53 * numerator + numerator ∧
      2 ^ 53 * numerator ≤ 2 ^ 53 * nearest numerator 1 + numerator := by
  rcases Nat.lt_or_ge numerator (2 ^ 53) with narrow | wide
  · -- Nothing is rounded here.
    have same := nearest_whole (isRepresentable_of_le narrow.le)
    omega
  · -- Half of the distance is at most that part of the number.
    have above := two_mul_roundQuotient_le (spacing_pos numerator) numerator
    have below := two_mul_le_roundQuotient (spacing_pos numerator) numerator
    have part := mul_spacing_le (show 2 ^ 52 ≤ numerator by omega)
    have same : nearest numerator 1 =
        roundQuotient numerator (spacing numerator) * spacing numerator := by
      rw [nearest, Nat.div_one, Nat.one_mul]
    rw [same]
    omega

/-! ## Ties to even -/

/-- Rounding a quotient to nearest with ties to even: 53 significant bits hold the magnitude, and it
precedes all others that they hold. -/
structure IsNearest (numerator denominator magnitude : Nat) : Prop where
  /-- No further bits are needed. -/
  held : IsRepresentable magnitude
  /-- No other magnitude is nearer, and the last of the bits is zero if another is as near. -/
  precedes {other : Nat} : IsRepresentable other → other ≠ magnitude →
    Precedes numerator denominator (2 ∣ magnitude / spacing magnitude) magnitude other

/-- The rounded significand has at most 53 bits, or is the power of two after them. -/
theorem roundQuotient_le_significand {numerator denominator : Nat} (positive : 0 < denominator) :
    roundQuotient numerator (denominator * spacing (numerator / denominator)) ≤ 2 ^ 53 := by
  -- The spacing is as great as it takes to leave 53 bits before the rounding.
  have step := Nat.mul_pos positive (spacing_pos (numerator / denominator))
  refine (roundQuotient_le_iff step).mpr (.inl ?_)
  have within : numerator / denominator < 2 ^ 53 * spacing (numerator / denominator) := by
    calc numerator / denominator < 2 ^ ((numerator / denominator).log2 + 1) := Nat.lt_log2_self
      _ ≤ 2 ^ (53 + ((numerator / denominator).log2 - 52)) :=
          Nat.pow_le_pow_right (by decide) (by omega)
      _ = 2 ^ 53 * spacing (numerator / denominator) := by rw [Nat.pow_add, spacing_eq]
  have below := (Nat.div_lt_iff_lt_mul positive).mp within
  rw [Nat.mul_assoc, Nat.mul_comm (spacing _)] at below
  rw [Nat.add_mul]
  omega

/-- A magnitude that is held either is a multiple of the distance around a quotient or lies below
the power of two under the quotient. -/
theorem dvd_or_lt_of_isRepresentable {quotient other : Nat} (held : IsRepresentable other) :
    spacing quotient ∣ other ∨
      (other < 2 ^ 52 * spacing quotient ∧ 2 ^ 52 * spacing quotient ≤ quotient) := by
  -- A shorter number lies below the leading power of two, and any other is counted in the spacing.
  rcases Nat.lt_or_ge quotient (2 ^ 53) with narrow | wide
  · rw [spacing_eq_one narrow]
    exact .inl (Nat.one_dvd other)
  have bits : 52 ≤ quotient.log2 := (Nat.le_log2 (by omega)).mpr (by omega)
  rcases Nat.lt_or_ge other.log2 quotient.log2 with less | most
  · right
    refine ⟨?_, mul_spacing_le (by omega)⟩
    calc other < 2 ^ (other.log2 + 1) := Nat.lt_log2_self
      _ ≤ 2 ^ (52 + (quotient.log2 - 52)) := Nat.pow_le_pow_right (by decide) (by omega)
      _ = 2 ^ 52 * spacing quotient := by rw [Nat.pow_add, spacing_eq]
  · exact .inl (Nat.dvd_trans (Nat.pow_dvd_pow 2 (by omega)) held)

/-- An even significand ends in a zero, wherever its magnitude has the last of the 53 bits. -/
theorem two_dvd_last {significand : Nat} (narrow : significand ≤ 2 ^ 53)
    (even : 2 ∣ significand) (exponent : Nat) :
    2 ∣ significand * 2 ^ exponent / spacing (significand * 2 ^ exponent) := by
  -- Below the bound the last place stays even, and at the bound it is a power of two.
  rcases Nat.lt_or_eq_of_le narrow with less | rfl
  · rw [Nat.mul_div_assoc _ (spacing_dvd_of_lt less exponent)]
    exact Nat.dvd_mul_right_of_dvd even _
  · rw [spacing_two_pow, Nat.mul_div_mul_right _ _ (Nat.two_pow_pos exponent)]
    decide

/-- Rounding precedes all other multiples of the distance around the quotient. -/
theorem precedes_nearest {numerator denominator other : Nat} (positive : 0 < denominator)
    (counted : spacing (numerator / denominator) ∣ other)
    (apart : other ≠ nearest numerator denominator) :
    Precedes numerator denominator
      (2 ∣ nearest numerator denominator / spacing (nearest numerator denominator))
      (nearest numerator denominator) other := by
  -- The integer counts are compared, and the distances are the spacing times theirs.
  obtain ⟨count, rfl⟩ := counted
  have step := Nat.mul_pos positive (spacing_pos (numerator / denominator))
  have different :
      count ≠ roundQuotient numerator (denominator * spacing (numerator / denominator)) := by
    rintro rfl
    exact apart (Nat.mul_comm _ _)
  have closest := precedes_roundQuotient step different
  have place (significand : Nat) : significand * (denominator * spacing (numerator / denominator)) =
      significand * spacing (numerator / denominator) * denominator := by ring
  rw [Precedes, place, place, Nat.mul_comm count] at closest
  exact closest.imp_right fun tie =>
    ⟨tie.1, two_dvd_last (roundQuotient_le_significand positive) tie.2 _⟩

/-- Rounding is to nearest with ties to even. -/
theorem isNearest_nearest {numerator denominator : Nat} (positive : 0 < denominator) :
    IsNearest numerator denominator (nearest numerator denominator) := by
  refine ⟨isRepresentable_mul_two_pow (roundQuotient_le_significand positive) _, ?_⟩
  intro other held apart
  rcases dvd_or_lt_of_isRepresentable held with counted | ⟨less, reached⟩
  · exact precedes_nearest positive counted apart
  · -- The power of two under the quotient lies between, and rounding is as near as this power.
    left
    have power : Nat.dist (nearest numerator denominator * denominator) numerator ≤
        Nat.dist (2 ^ 52 * spacing (numerator / denominator) * denominator) numerator := by
      by_cases same : 2 ^ 52 * spacing (numerator / denominator) = nearest numerator denominator
      · rw [same]
      · have closest := precedes_nearest positive (Nat.dvd_mul_left _ _) same
        exact closest.elim Nat.le_of_lt fun tie => Nat.le_of_eq tie.1
    have under := (Nat.le_div_iff_mul_le positive).mp reached
    have further := Nat.mul_lt_mul_of_pos_right less positive
    unfold Nat.dist at power ⊢
    omega

end LoadServer.Binary64
