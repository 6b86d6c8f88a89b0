import LoadServer.Numeric.Count
import Mathlib

/-!
Counts in decimal. Main statement: a text is read exactly if it is a numeral that is not too great,
and otherwise refused for its first fault from left to right.
-/

namespace LoadServer

namespace Decimal

/-- A decimal digit of a number is one of the ten digits. -/
theorem isDigit_of_mem_digits {number : Nat} {c : Char} (member : c ∈ digits number) :
    isDigit c = true := by
  -- Both ranges of characters are the same one, told by code point and by order.
  have range := Nat.isDigit_of_mem_toDigits (by decide) (by decide) member
  simp only [Char.isDigit, Bool.and_eq_true, decide_eq_true_eq] at range
  simp only [isDigit, Bool.and_eq_true, decide_eq_true_eq]
  exact range

/-- The digits of a number spell it. -/
theorem ofDigits_digits (number : Nat) : ofDigits 10 digitValue 0 (digits number) = number :=
  Nat.ofDigitChars_ten_toDigits

/-- More digits never make a number less. -/
theorem le_ofDigits (before : Nat) (digits : List Char) :
    before ≤ ofDigits 10 digitValue before digits := by
  -- Each digit multiplies what is before it by ten, and adds to it.
  induction digits generalizing before with
  | nil => exact Nat.le_refl before
  | cons c digits ih =>
    have rest := ih (10 * before + digitValue c)
    simp only [ofDigits, List.foldl_cons] at rest ⊢
    omega

end Decimal

/-- No two reasons are reported alike. -/
theorem CountFault.message_injective : Function.Injective CountFault.message := by
  -- There are three faults, and their messages are different texts.
  intro fault other same
  revert same
  cases fault <;> cases other <;> decide

namespace Count

/-- The number that digits spell. -/
def value (digits : List Char) : Nat :=
  Decimal.ofDigits 10 Decimal.digitValue 0 digits

/-- A text without the plus sign that it may begin with. -/
def unsigned : List Char → List Char
  | '+' :: text => text
  | text => text

/-- The digits of a text before any other character, behind a plus sign if there is one. -/
def leading (text : List Char) : List Char :=
  (unsigned text).takeWhile Decimal.isDigit

/-- A text is a plus sign or none, and then digits, of which there is one at least. -/
def IsNumeral (text digits : List Char) : Prop :=
  (text = digits ∨ text = '+' :: digits) ∧ digits ≠ [] ∧
    ∀ c ∈ digits, Decimal.isDigit c = true

/-- Only a plus sign at the front is taken off. -/
theorem unsigned_of_ne {c : Char} (other : c ≠ '+') (rest : List Char) :
    unsigned (c :: rest) = c :: rest := by
  -- Only a leading plus sign is taken off.
  unfold unsigned
  split
  · next same =>
    cases same
    exact absurd rfl other
  · rfl

/-- The digits of a numeral are all there is of it besides its sign. -/
theorem IsNumeral.unsigned_eq {text digits : List Char} (numeral : IsNumeral text digits) :
    unsigned text = digits := by
  obtain ⟨rfl | rfl, some, each⟩ := numeral
  · -- A digit is no plus sign.
    obtain ⟨c, rest, rfl⟩ := List.exists_cons_of_ne_nil some
    refine unsigned_of_ne ?_ rest
    rintro rfl
    cases each '+' (by simp)
  · rfl

/-- A text is a numeral exactly if some digits are all there is of it besides a sign. -/
theorem exists_isNumeral_iff {text : List Char} :
    (∃ digits, IsNumeral text digits) ↔ unsigned text ≠ [] ∧ leading text = unsigned text := by
  -- The digits of a numeral are all of the text after its sign.
  have each {digits : List Char} :
      digits.takeWhile Decimal.isDigit = digits ↔ ∀ c ∈ digits, Decimal.isDigit c = true :=
    List.takeWhile_eq_self_iff
  constructor
  · rintro ⟨digits, numeral⟩
    have same := numeral.unsigned_eq
    rw [leading, same]
    exact ⟨numeral.2.1, each.mpr numeral.2.2⟩
  · rintro ⟨some, all⟩
    refine ⟨unsigned text, ?_, some, each.mp all⟩
    unfold unsigned
    split
    · exact .inr rfl
    · exact .inl rfl

/-- Digits are read until one makes the number too great, or another character comes. -/
theorem readDigits_eq {greatest total : Nat} (bounded : total ≤ greatest) (text : List Char) :
    let digits := text.takeWhile Decimal.isDigit
    let number := Decimal.ofDigits 10 Decimal.digitValue total digits
    readDigits greatest total text =
      if greatest < number then .error .tooLarge
      else if digits = text then .ok number
      else .error .invalidDigit := by
  -- The number is compared before the next character is looked at, and more digits keep it great.
  induction text generalizing total with
  | nil => simp [readDigits, Decimal.ofDigits, bounded]
  | cons c rest ih =>
    by_cases digit : Decimal.isDigit c = true
    · have whole (digits : List Char) : Decimal.ofDigits 10 Decimal.digitValue total (c :: digits) =
          Decimal.ofDigits 10 Decimal.digitValue (10 * total + Decimal.digitValue c) digits := rfl
      rw [readDigits, if_pos digit, List.takeWhile_cons_of_pos digit]
      simp only [whole, List.cons.injEq, true_and]
      by_cases next : 10 * total + Decimal.digitValue c ≤ greatest
      · rw [if_pos next]
        exact ih next
      · have great := Decimal.le_ofDigits (10 * total + Decimal.digitValue c)
          (rest.takeWhile Decimal.isDigit)
        rw [if_neg next, if_pos (by omega)]
    · rw [readDigits, if_neg digit, List.takeWhile_cons_of_neg digit]
      simp [Decimal.ofDigits, bounded]

/-- A count is read exactly from a numeral that is not too great, and every other text is refused
for the first of its faults from left to right. -/
theorem read_eq (greatest : Nat) (text : List Char) :
    read greatest text =
      if text = [] then .error .empty
      else if greatest < value (leading text) then .error .tooLarge
      else if unsigned text ≠ [] ∧ leading text = unsigned text then .ok (value (leading text))
      else .error .invalidDigit := by
  -- Only a plus sign with nothing after it is told apart from the sign of a numeral.
  cases text with
  | nil => rfl
  | cons c rest =>
    rw [if_neg (List.cons_ne_nil c rest)]
    by_cases sign : c = '+'
    · subst sign
      cases rest with
      | nil => simp [read, unsigned, leading, value, Decimal.ofDigits]
      | cons digit rest =>
        have digits := readDigits_eq (Nat.zero_le greatest) (digit :: rest)
        rw [read, digits]
        · simp [unsigned, leading, value]
        · simp
    · have digits := readDigits_eq (Nat.zero_le greatest) (c :: rest)
      rw [read, digits]
      · simp [unsigned_of_ne sign, leading, value]
      · simp
      · simp [sign]
      · simp [sign]

/-- The empty text has no leading digits. -/
theorem value_leading_nil : value (leading []) = 0 :=
  rfl

/-- The digits of a numeral are its leading digits. -/
theorem IsNumeral.leading_eq {text digits : List Char} (numeral : IsNumeral text digits) :
    leading text = digits := by
  -- All that follows the sign of a numeral is digits.
  rw [(exists_isNumeral_iff.mp ⟨digits, numeral⟩).2, numeral.unsigned_eq]

/-- A count is read exactly from a numeral of its number. -/
theorem read_eq_ok_iff {greatest number : Nat} {text : List Char} :
    read greatest text = .ok number ↔
      number ≤ greatest ∧ ∃ digits, IsNumeral text digits ∧ value digits = number := by
  -- Each refusal contradicts having a numeral within the bound.
  rw [read_eq]
  split_ifs with empty great numeral
  · refine iff_of_false nofun ?_
    rintro ⟨-, digits, spelled, -⟩
    subst empty
    exact (exists_isNumeral_iff.mp ⟨digits, spelled⟩).1 rfl
  · refine iff_of_false nofun ?_
    rintro ⟨bounded, digits, spelled, rfl⟩
    rw [spelled.leading_eq] at great
    omega
  · -- There are no other digits than the leading ones.
    obtain ⟨digits, spelled⟩ := exists_isNumeral_iff.mpr numeral
    rw [spelled.leading_eq] at great ⊢
    constructor
    · rintro ⟨rfl⟩
      exact ⟨by omega, digits, spelled, rfl⟩
    · rintro ⟨-, other, otherSpelled, rfl⟩
      rw [← spelled.leading_eq, otherSpelled.leading_eq]
  · refine iff_of_false nofun ?_
    rintro ⟨-, digits, spelled, -⟩
    exact numeral (exists_isNumeral_iff.mp ⟨digits, spelled⟩)

/-- A text is refused as empty exactly if it is. -/
theorem read_eq_empty_iff {greatest : Nat} {text : List Char} :
    read greatest text = .error .empty ↔ text = [] := by
  -- The other answers are given to texts that are not empty.
  rw [read_eq]
  split_ifs with empty <;> simp [empty]

/-- A text is refused as too large exactly if its leading digits spell too much. -/
theorem read_eq_tooLarge_iff {greatest : Nat} {text : List Char} :
    read greatest text = .error .tooLarge ↔ greatest < value (leading text) := by
  -- The bound is looked at before the characters after the digits are.
  rw [read_eq]
  split_ifs with empty great
  · simp [empty, value_leading_nil]
  all_goals simp [great]

/-- Every other text is refused for a digit, unless it is a numeral. -/
theorem read_eq_invalidDigit_iff {greatest : Nat} {text : List Char} :
    read greatest text = .error .invalidDigit ↔
      text ≠ [] ∧ value (leading text) ≤ greatest ∧ ¬ ∃ digits, IsNumeral text digits := by
  -- This is the last answer, so the conditions of the ones before it fail.
  rw [read_eq, exists_isNumeral_iff]
  split_ifs with empty great numeral
  · simp [empty]
  · simp [great]
  · simp [numeral]
  · simp [numeral, empty, Nat.not_lt.mp great]

/-! ## Counts of 64 bits -/

/-- A count of 64 bits is read exactly from the numerals of its number. -/
theorem readWord_eq_ok_iff {text : String} {count : UInt64} :
    readWord text = .ok count ↔
      ∃ digits, IsNumeral text.toList digits ∧ value digits = count.toNat := by
  -- The numbers that are not too great are those of the counts.
  have bound : count.toNat ≤ greatest64 := Nat.le_sub_one_of_lt count.toNat_lt
  have same : readWord text = .ok count ↔ read greatest64 text.toList = .ok count.toNat := by
    rw [readWord]
    cases found : read greatest64 text.toList with
    | error fault => exact iff_of_false nofun nofun
    | ok number =>
      have below : number < UInt64.size := Nat.lt_of_le_pred (by decide) (read_eq_ok_iff.mp found).1
      simp only [Except.map, Except.ok.injEq, ← UInt64.toNat_inj, UInt64.toNat_ofNat_of_lt' below]
  rw [same, read_eq_ok_iff, and_iff_right bound]

/-- A count of 64 bits is read exactly if the text is a numeral of less than `2 ^ 64`. -/
theorem exists_readWord_eq_ok_iff {text : String} :
    (∃ count, readWord text = .ok count) ↔
      ∃ digits, IsNumeral text.toList digits ∧ value digits < 2 ^ 64 := by
  -- A word holds exactly the numbers below its bound.
  constructor
  · rintro ⟨count, reading⟩
    obtain ⟨digits, numeral, same⟩ := readWord_eq_ok_iff.mp reading
    exact ⟨digits, numeral, same ▸ count.toNat_lt⟩
  · rintro ⟨digits, numeral, bounded⟩
    exact ⟨.ofNat (value digits), readWord_eq_ok_iff.mpr
      ⟨digits, numeral, (UInt64.toNat_ofNat_of_lt' bounded).symm⟩⟩

/-- A text is refused as a count of 64 bits for the reason for which it is refused as a count. -/
theorem readWord_eq_error_iff {text : String} {fault : CountFault} :
    readWord text = .error fault ↔ read greatest64 text.toList = .error fault := by
  -- Making a word of the number changes no fault.
  rw [readWord]
  cases read greatest64 text.toList <;> simp [Except.map]

/-- Digits that spell too much are refused before the character behind them is looked at. -/
example : readWord "18446744073709551616x" = .error .tooLarge ∧
    readWord "18446744073709551615x" = .error .invalidDigit := by
  decide

/-- A count of 64 bits is read back from its digits. -/
theorem readWord_digits (count : UInt64) :
    readWord (String.ofList (Decimal.digits count.toNat)) = .ok count := by
  -- Digits without a sign are a numeral, and a word is below its bound.
  have numeral : IsNumeral (Decimal.digits count.toNat) (Decimal.digits count.toNat) :=
    ⟨.inl rfl, Nat.toDigits_ne_nil, fun _ => Decimal.isDigit_of_mem_digits⟩
  rw [readWord_eq_ok_iff, String.toList_ofList]
  exact ⟨_, numeral, Decimal.ofDigits_digits count.toNat⟩

end Count

end LoadServer
