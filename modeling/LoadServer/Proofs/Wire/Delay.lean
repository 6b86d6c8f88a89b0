import LoadServer.Wire.Delay
import Mathlib

/-!
A delay word read as a number: its top bit tells the kind, and the rest counts microseconds. Main
statement: a word comes back from its delay unchanged, and a delay from its word but for the top bit
of its microseconds.
-/

namespace LoadServer.Delay

/-- Masking keeps the remainder below the flag. -/
theorem toNat_and_microsMask (word : UInt64) :
    (word &&& microsMask).toNat = word.toNat % 2 ^ 63 := by
  -- The mask has all bits but the highest one.
  have mask : microsMask.toNat = 2 ^ 63 - 1 := by decide
  rw [UInt64.toNat_and, mask, Nat.and_two_pow_sub_one_eq_mod]

/-- The top bit is set exactly in the words from its own value on. -/
theorem testBit_iff (word : UInt64) : word.toNat.testBit 63 = true ↔ 2 ^ 63 ≤ word.toNat := by
  -- A word is below twice the value of its last bit.
  have bound := word.toNat_lt
  by_cases below : word.toNat < 2 ^ 63
  · have clear : word.toNat.testBit 63 = false := Nat.testBit_lt_two_pow below
    simpa [clear] using below
  · have quotient : word.toNat / 2 ^ 63 = 1 := by omega
    have set : word.toNat.testBit 63 = true := by
      simp only [Nat.testBit_eq_decide_div_mod_eq, quotient, Nat.one_mod, decide_true]
    simpa [set] using below

/-- The top bit is clear exactly in the words below its own value. -/
theorem testBit_eq_false_iff (word : UInt64) :
    word.toNat.testBit 63 = false ↔ word.toNat < 2 ^ 63 := by
  -- The highest bit is what takes a word past the half of its range.
  rw [← Bool.not_eq_true, testBit_iff, Nat.not_le]

/-- The flag is clear exactly in the words below it. -/
theorem and_sleepFlag_eq_zero_iff (word : UInt64) :
    word &&& sleepFlag = 0 ↔ word.toNat < 2 ^ 63 := by
  -- The flag is the last of the sixty-four bits, which is set from its own value on.
  have flag : sleepFlag.toNat = 2 ^ 63 := by decide
  rw [← UInt64.toNat_inj, UInt64.toNat_and, flag, Nat.and_two_pow, ← testBit_eq_false_iff]
  cases word.toNat.testBit 63 <;> simp

/-- A word with the top bit set asks to sleep for the microseconds below it. -/
theorem ofWord_of_testBit {word : UInt64} (set : word.toNat.testBit 63 = true) :
    ofWord word = sleep (word &&& microsMask) := by
  -- The flag is the highest bit, so it is not clear.
  have above := (testBit_iff word).mp set
  refine if_pos fun clear => ?_
  exact Nat.not_lt.mpr above ((and_sleepFlag_eq_zero_iff word).mp clear)

/-- A word with the top bit clear asks to spin. -/
theorem ofWord_of_not_testBit {word : UInt64} (clear : word.toNat.testBit 63 = false) :
    ofWord word = spin word := by
  -- The flag is the highest bit, so there is nothing to mask.
  have below := (testBit_eq_false_iff word).mp clear
  exact if_neg (not_not_intro ((and_sleepFlag_eq_zero_iff word).mpr below))

/-- Setting the flag adds its value to the masked microseconds. -/
theorem toNat_or_sleepFlag (word : UInt64) :
    ((word &&& microsMask) ||| sleepFlag).toNat = word.toNat % 2 ^ 63 + 2 ^ 63 := by
  -- Setting the highest bit adds its value where it was not set.
  have flag : sleepFlag.toNat = 2 ^ 63 := by decide
  have small : word.toNat % 2 ^ 63 < 2 ^ 63 := Nat.mod_lt _ (by decide)
  have sum := Nat.two_pow_add_eq_or_of_lt small 1
  rw [Nat.mul_one] at sum
  rw [UInt64.toNat_or, toNat_and_microsMask, flag, Nat.or_comm, ← sum, Nat.add_comm]

/-- Whether a delay is spent asleep. -/
def isSleep : Delay → Bool
  | .spin _ => false
  | .sleep _ => true

/-- A delay is its kind and its microseconds. -/
theorem eq_iff_isSleep_micros {delay other : Delay} :
    delay = other ↔ delay.isSleep = other.isSleep ∧
      delay.micros.toNat = other.micros.toNat := by
  -- There are two kinds, and each holds its microseconds.
  cases delay <;> cases other <;> simp [isSleep, micros, UInt64.toNat_inj]

/-- The top bit of a word tells the kind of its delay. -/
theorem isSleep_ofWord (word : UInt64) : (ofWord word).isSleep = word.toNat.testBit 63 := by
  -- The highest bit decides between the two kinds.
  cases top : word.toNat.testBit 63 with
  | false => rw [ofWord_of_not_testBit top, isSleep]
  | true => rw [ofWord_of_testBit top, isSleep]

/-- The other bits of a word count the microseconds of its delay. -/
theorem toNat_micros_ofWord (word : UInt64) :
    (ofWord word).micros.toNat = word.toNat % 2 ^ 63 := by
  cases top : word.toNat.testBit 63 with
  | false =>
    -- A spin has the word itself for its microseconds, which is below the flag.
    have below := (testBit_eq_false_iff word).mp top
    rw [ofWord_of_not_testBit top, micros, Nat.mod_eq_of_lt below]
  | true => rw [ofWord_of_testBit top, micros, toNat_and_microsMask]

/-- The word of a delay is made of its kind and of what its microseconds have below the flag. -/
theorem toNat_toWord (delay : Delay) :
    delay.toWord.toNat = 2 ^ 63 * delay.isSleep.toNat + delay.micros.toNat % 2 ^ 63 := by
  -- Spinning clears the highest bit of the microseconds, and sleeping sets it.
  cases delay with
  | spin micros =>
    rw [toWord, toNat_and_microsMask, isSleep, Bool.toNat_false, Nat.mul_zero, Nat.zero_add,
      Delay.micros]
  | sleep micros =>
    rw [toWord, toNat_or_sleepFlag, isSleep, Bool.toNat_true, Nat.mul_one, Nat.add_comm,
      Delay.micros]

/-- The kind of a delay is the top bit of its word, however many microseconds it has. -/
theorem testBit_toWord (delay : Delay) : delay.toWord.toNat.testBit 63 = delay.isSleep := by
  -- What the mask leaves is below the flag, so its place is free for the kind.
  have below : delay.micros.toNat % 2 ^ 63 < 2 ^ 63 := Nat.mod_lt _ (by decide)
  rw [toNat_toWord, Nat.testBit_two_pow_mul_add _ below, if_neg (Nat.lt_irrefl 63), Nat.sub_self]
  cases delay.isSleep <;> rfl

/-- No delay changes its kind in its word. -/
theorem isSleep_ofWord_toWord (delay : Delay) :
    (ofWord delay.toWord).isSleep = delay.isSleep := by
  -- The kind is told by the highest bit of the word, which the delay put there.
  rw [isSleep_ofWord, testBit_toWord]

/-- A delay loses the top bit of its microseconds in its word. -/
theorem toNat_micros_ofWord_toWord (delay : Delay) :
    (ofWord delay.toWord).micros.toNat = delay.micros.toNat % 2 ^ 63 := by
  -- The flag is a multiple of what the microseconds are reduced by.
  rw [toNat_micros_ofWord, toNat_toWord, Nat.mul_add_mod, Nat.mod_mod]

/-- A delay survives its word exactly if its microseconds leave the top bit alone. -/
theorem ofWord_toWord_eq_iff {delay : Delay} :
    ofWord delay.toWord = delay ↔ delay.micros.toNat < 2 ^ 63 := by
  -- The kind always survives, and the microseconds do if their remainder is all of them.
  rw [eq_iff_isSleep_micros, isSleep_ofWord_toWord, toNat_micros_ofWord_toWord,
    Nat.mod_eq_iff_lt (by decide)]
  exact and_iff_right rfl

/-- A delay survives its word as long as its microseconds leave the top bit alone. -/
theorem ofWord_toWord {delay : Delay} (narrow : delay.micros.toNat < 2 ^ 63) :
    ofWord delay.toWord = delay :=
  ofWord_toWord_eq_iff.mpr narrow

/-- Every word is the word of the delay that it stands for. -/
theorem toWord_ofWord (word : UInt64) : (ofWord word).toWord = word := by
  -- The top bit is the quotient by the flag, and the microseconds are the remainder.
  have bound := word.toNat_lt
  apply UInt64.toNat_inj.mp
  rw [toNat_toWord, isSleep_ofWord, toNat_micros_ofWord, Nat.toNat_testBit]
  omega

/-- Different words stand for different delays. -/
theorem ofWord_injective : Function.Injective ofWord :=
  Function.LeftInverse.injective toWord_ofWord

/-- Every word is that of the delay it stands for, which is a sleep exactly if the top bit is set
and has the bits below it for microseconds. The word of any delay stands for one of the same kind,
which has lost the top bit of its microseconds and nothing else: it is the delay itself exactly if
this bit was not set. -/
theorem delays_in_words :
    (∀ word : UInt64,
      (ofWord word).toWord = word ∧
      (ofWord word).isSleep = word.toNat.testBit 63 ∧
      (ofWord word).micros.toNat = word.toNat % 2 ^ 63 ∧
      (ofWord word).micros.toNat < 2 ^ 63) ∧
    (∀ delay : Delay,
      (ofWord delay.toWord).isSleep = delay.isSleep ∧
      (ofWord delay.toWord).micros.toNat = delay.micros.toNat % 2 ^ 63 ∧
      (ofWord delay.toWord = delay ↔ delay.micros.toNat < 2 ^ 63) ∧
      delay.toWord.toNat.testBit 63 = delay.isSleep) := by
  constructor
  · intro word
    -- What a word counts is a remainder by the flag, and so below it.
    have counted := toNat_micros_ofWord word
    have narrow : (ofWord word).micros.toNat < 2 ^ 63 := by
      rw [counted]
      exact Nat.mod_lt _ (by decide)
    exact ⟨toWord_ofWord word, isSleep_ofWord word, counted, narrow⟩
  · intro delay
    exact ⟨isSleep_ofWord_toWord delay, toNat_micros_ofWord_toWord delay, ofWord_toWord_eq_iff,
      testBit_toWord delay⟩

/-- A spin stays one where its microseconds have the bit that asks for sleep. -/
example : ofWord (spin 0x8000000000000001).toWord = spin 1 := by
  decide

end LoadServer.Delay
