import LoadServer.Proofs.Numeric.Bits
import LoadServer.Proofs.Workload.Iterations
import LoadServer.Workload.Calibration

/-!
What calibration makes of the times that a clock shows. Main statement: whatever they are, at most
three runs are timed, the first time that is not zero counts, and the factor is a finite number
above zero.
-/

namespace LoadServer.Calibration

open Binary64

/-! ## Timing runs -/

/-- A clock that shows these times in one run after another, and a record of the sizes of the
runs. -/
def timedBy (times : Nat → Nat) (sample : UInt64) : StateM (List UInt64) Nat := do
  let runs ← get
  set (runs ++ [sample])
  pure (times runs.length)

/-- What counts of the times that a clock shows within some attempts, and after how many runs: the
first time that is not zero, or zero after all attempts. -/
def IsFirstTime (times : Nat → Nat) (attempts runs nanos : Nat) : Prop :=
  (∃ last < attempts, runs = last + 1 ∧ nanos = times last ∧ nanos ≠ 0 ∧
    ∀ earlier < last, times earlier = 0) ∨
  (runs = attempts ∧ nanos = 0 ∧ ∀ run < attempts, times run = 0)

/-- What counts takes one of the attempts at least, and no further one. -/
theorem IsFirstTime.runs_le {times : Nat → Nat} {attempts runs nanos : Nat}
    (first : IsFirstTime times attempts runs nanos) : runs ≤ attempts := by
  -- Measuring stops at the first time or after the last attempt.
  rcases first with ⟨last, within, rfl, -⟩ | ⟨rfl, -⟩
  · exact within
  · exact Nat.le_refl _

/-- A run that takes no time is followed by another attempt. -/
theorem IsFirstTime.after_zero {times : Nat → Nat} {attempts runs nanos : Nat}
    (zero : times 0 = 0) (first : IsFirstTime (fun run => times (run + 1)) attempts runs nanos) :
    IsFirstTime times (attempts + 1) (runs + 1) nanos := by
  -- A run among the later ones is the run itself counted from one.
  have before (bound : Nat) (later : ∀ run < bound, times (run + 1) = 0) :
      ∀ run < bound + 1, times run = 0 := by
    intro run within
    cases run with
    | zero => exact zero
    | succ run => exact later run (by omega)
  rcases first with ⟨last, within, rfl, rfl, passed, zeros⟩ | ⟨rfl, rfl, zeros⟩
  · exact .inl ⟨last + 1, by omega, rfl, rfl, passed, before last zeros⟩
  · exact .inr ⟨rfl, rfl, before runs zeros⟩

/-- Timing gives what counts of the times from the next run on, and makes no more runs than that
takes. -/
theorem run_timed (times : Nat → Nat) (sample : UInt64) (attempts : Nat) (before : List UInt64) :
    ∃ runs nanos, (timed (timedBy times sample) attempts).run before =
        (nanos, before ++ List.replicate runs sample) ∧
      IsFirstTime (fun run => times (before.length + run)) attempts runs nanos := by
  -- Each attempt makes one run, and only a time of zero leads to the next attempt.
  induction attempts generalizing before with
  | zero =>
    refine ⟨0, 0, ?_, .inr ⟨rfl, rfl, by omega⟩⟩
    rw [List.replicate_zero, List.append_nil]
    rfl
  | succ attempts ih =>
    have shown : (timed (timedBy times sample) (attempts + 1)).run before =
        (if times before.length = 0 then timed (timedBy times sample) attempts
          else pure (times before.length)).run (before ++ [sample]) := rfl
    rw [shown]
    by_cases zero : times before.length = 0
    · rw [if_pos zero]
      obtain ⟨runs, nanos, ran, first⟩ := ih (before ++ [sample])
      refine ⟨runs + 1, nanos, ?_, IsFirstTime.after_zero zero ?_⟩
      · rw [ran, List.append_assoc, List.singleton_append, ← List.replicate_succ]
      · simpa [Nat.add_assoc, Nat.add_comm 1] using first
    · rw [if_neg zero]
      exact ⟨1, times before.length, rfl, .inl ⟨0, by omega, rfl, rfl, zero, by omega⟩⟩

/-! ## The factor -/

/-- The longest time that a clock can show, in nanoseconds. -/
def longestTime : Nat := 2 ^ 64 * 10 ^ 9 - 1

/-- The microseconds that a run is taken to last, in units. -/
def elapsedMicros (nanos : Nat) : Nat :=
  max (nearest (nearest nanos 1 * one) 1000) leastMicros

/-- The iterations of a run and the microseconds that it lasts, rounded, are divided by each
other. -/
theorem bits_rate (iterations : UInt64) (nanos : Nat) :
    (rate iterations nanos).bits =
      UInt64.ofNat (bits (nearest (nearest iterations.toNat 1 * one * one) (elapsedMicros nanos))) :=
  rfl

/-- Every run is taken to last for some time. -/
theorem elapsedMicros_pos (nanos : Nat) : 0 < elapsedMicros nanos := by
  -- The elapsed time is bounded from below by the least one.
  have least : 0 < leastMicros := by decide +kernel
  exact least.trans_le (Nat.le_max_right _ _)

/-- No run is taken to last longer than `2 ^ 94` microseconds. -/
theorem elapsedMicros_le {nanos : Nat} (within : nanos ≤ longestTime) :
    elapsedMicros nanos ≤ 2 ^ 94 * one := by
  -- Both roundings follow the order, and the bounds need no rounding.
  have power : nearest (2 ^ 94) 1 = 2 ^ 94 := nearest_whole (by decide +kernel)
  have longest : nearest (2 ^ 94 * one) 1 = 2 ^ 94 * one := nearest_whole (by decide +kernel)
  have count : nearest nanos 1 ≤ 2 ^ 94 := by
    rw [← power]
    apply nearest_mono Nat.one_pos Nat.one_pos
    unfold longestTime at within
    omega
  have scaled := Nat.mul_le_mul_right one count
  apply Nat.max_le.mpr
  constructor
  · rw [← longest]
    apply nearest_mono (by decide) Nat.one_pos
    omega
  · decide +kernel

/-- One iteration or more in the longest time make a factor above zero. -/
theorem quotient_pos {count nanos : Nat} (nonzero : 1 ≤ count) (within : nanos ≤ longestTime) :
    0 < nearest (nearest count 1 * one * one) (elapsedMicros nanos) := by
  -- Even the least of these quotients is more than one unit.
  have least : nearest 1 1 = 1 := nearest_whole (by decide +kernel)
  have rounded : 1 ≤ nearest count 1 := by
    rw [← least]
    exact nearest_mono Nat.one_pos Nat.one_pos (by omega)
  have units : 2 ^ 94 ≤ one := by decide +kernel
  have ordered : 1 * elapsedMicros nanos ≤ nearest count 1 * one * one * 1 := by
    calc 1 * elapsedMicros nanos ≤ 2 ^ 94 * one := by
          rw [Nat.one_mul]
          exact elapsedMicros_le within
      _ ≤ one * one := Nat.mul_le_mul_right _ units
      _ ≤ nearest count 1 * (one * one) := Nat.le_mul_of_pos_left _ rounded
      _ = nearest count 1 * one * one * 1 := by rw [Nat.mul_one, Nat.mul_assoc]
  have bound := nearest_mono Nat.one_pos (elapsedMicros_pos nanos) ordered
  omega

/-- The greatest number of iterations in the least time makes a finite factor. -/
theorem quotient_lt {count : Nat} (below : count ≤ 2 ^ 64) (nanos : Nat) :
    nearest (nearest count 1 * one * one) (elapsedMicros nanos) < overflow := by
  -- The least time is more than `2 ^ -10` microseconds.
  have power : nearest (2 ^ 64) 1 = 2 ^ 64 := nearest_whole (by decide +kernel)
  have greatest : nearest (2 ^ 74 * one) 1 = 2 ^ 74 * one := nearest_whole (by decide +kernel)
  have rounded : nearest count 1 ≤ 2 ^ 64 := by
    rw [← power]
    exact nearest_mono Nat.one_pos Nat.one_pos (by omega)
  have least : one ≤ 2 ^ 10 * leastMicros := by decide +kernel
  have ordered : nearest count 1 * one * one * 1 ≤ 2 ^ 74 * one * elapsedMicros nanos := by
    calc nearest count 1 * one * one * 1 = nearest count 1 * (one * one) := by
          rw [Nat.mul_one, Nat.mul_assoc]
      _ ≤ 2 ^ 64 * (one * (2 ^ 10 * leastMicros)) :=
          Nat.mul_le_mul rounded (Nat.mul_le_mul_left _ least)
      _ = 2 ^ 74 * one * leastMicros := by ring
      _ ≤ 2 ^ 74 * one * elapsedMicros nanos := Nat.mul_le_mul_left _ (Nat.le_max_right _ _)
  have bound := nearest_mono (elapsedMicros_pos nanos) Nat.one_pos ordered
  rw [greatest] at bound
  have finite : 2 ^ 74 * one < overflow := by decide +kernel
  exact bound.trans_lt finite

/-- The factor of a run of at least one iteration is the rounded quotient, and it can serve. -/
theorem rate_usable {iterations : UInt64} {nanos : Nat} (nonzero : 1 ≤ iterations.toNat)
    (within : nanos ≤ longestTime) :
    units (rate iterations nanos).bits.toNat =
        nearest (nearest iterations.toNat 1 * one * one) (elapsedMicros nanos) ∧
      (rate iterations nanos).isUsable = true := by
  have positive := quotient_pos nonzero within
  have finite := quotient_lt iterations.toNat_lt.le nanos
  have held : IsRepresentable
      (nearest (nearest iterations.toNat 1 * one * one) (elapsedMicros nanos)) :=
    (isNearest_nearest (elapsedMicros_pos nanos)).held
  have least := bits_pos positive finite
  have most := bits_lt_of_finite finite
  have infinity : infinityBits = 0x7FEFFFFFFFFFFFFF + 1 := by decide
  have size : UInt64.size = 2 ^ 64 := rfl
  -- The bits of a finite number leave the sign bit free.
  have bits : (rate iterations nanos).bits.toNat =
      bits (nearest (nearest iterations.toNat 1 * one * one) (elapsedMicros nanos)) := by
    rw [bits_rate]
    exact UInt64.toNat_ofNat_of_lt' (by omega)
  constructor
  · rw [bits, units_bits held finite]
  · rw [Factor.isUsable_iff, bits]
    omega

/-- Calibration times at most three runs of at least one iteration, takes the first time that is not
zero, or zero if there is none, and divides by something that is not zero; the factor is the number
nearest to the quotient, and it can serve. -/
theorem calibrate_usable (iterations : UInt64) {times : Nat → Nat}
    (within : ∀ run, times run ≤ longestTime) :
    let sample := max iterations 1
    ∃ runs nanos factor,
      (calibrate iterations (timedBy times)).run [] = (factor, List.replicate runs sample) ∧
      runs ≤ 3 ∧ IsFirstTime times 3 runs nanos ∧
      factor = rate sample nanos ∧ 0 < elapsedMicros nanos ∧
      IsNearest (nearest sample.toNat 1 * one * one) (elapsedMicros nanos)
        (units factor.bits.toNat) ∧
      Factor.ofBits? factor.bits = some factor := by
  intro sample
  obtain ⟨runs, nanos, ran, first⟩ := run_timed times sample maxAttempts []
  have counted : IsFirstTime times 3 runs nanos := by simpa [maxAttempts] using first
  have most : nanos ≤ longestTime := by
    rcases counted with ⟨last, -, -, rfl, -⟩ | ⟨-, rfl, -⟩
    · exact within last
    · exact Nat.zero_le _
  have nonzero : 1 ≤ sample.toNat := by
    have chosen : sample = if iterations ≤ 1 then 1 else iterations := rfl
    rw [chosen]
    split
    · decide
    · next more =>
      rw [UInt64.le_iff_toNat_le, UInt64.toNat_one] at more
      omega
  obtain ⟨value, usable⟩ := rate_usable nonzero most
  refine ⟨runs, nanos, rate sample nanos, ?_, counted.runs_le, counted, rfl,
    elapsedMicros_pos nanos, ?_, Factor.ofBits?_eq_some_iff.mpr ⟨rfl, usable⟩⟩
  · -- What follows the timing makes no further run.
    have after : (calibrate iterations (timedBy times)).run [] =
        ((rate sample ((timed (timedBy times sample) maxAttempts).run []).1),
          ((timed (timedBy times sample) maxAttempts).run []).2) := rfl
    rw [after, ran]
    rfl
  · rw [value]
    exact isNearest_nearest (elapsedMicros_pos nanos)

/-- A clock that shows no time twice and then its longest one ends the calibration with the third
run, of one iteration where none is asked for. -/
theorem calibrate_usable_after_two_zeros :
    let times := fun run => if run < 2 then 0 else longestTime
    (∀ run, times run ≤ longestTime) ∧
      ∃ factor, (calibrate 0 (timedBy times)).run [] = (factor, [1, 1, 1]) ∧
        factor = rate 1 longestTime ∧ 0 < elapsedMicros longestTime ∧
        Factor.ofBits? factor.bits = some factor := by
  intro times
  have within (run : Nat) : times run ≤ longestTime := by
    show (if run < 2 then 0 else longestTime) ≤ longestTime
    split <;> omega
  have passed : longestTime ≠ 0 := by decide
  obtain ⟨runs, nanos, factor, ran, -, first, same, divisor, -, usable⟩ :=
    calibrate_usable 0 within
  -- Only the third time is not zero.
  obtain ⟨rfl, rfl⟩ : runs = 3 ∧ nanos = longestTime := by
    rcases first with ⟨last, few, rfl, rfl, nonzero, -⟩ | ⟨-, -, zeros⟩
    · obtain rfl : last = 2 := by
        by_contra other
        have early : last < 2 := by omega
        exact nonzero (if_pos early)
      exact ⟨rfl, rfl⟩
    · exact absurd (zeros 2 (by omega)) passed
  exact ⟨within, factor, ran, same, divisor, usable⟩

end LoadServer.Calibration
