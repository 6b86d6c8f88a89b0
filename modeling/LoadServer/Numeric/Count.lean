import LoadServer.Numeric.Decimal

/-! Counts in decimal: an optional plus sign and digits, up to a greatest value. -/

namespace LoadServer

/-- Why a text is not a count. -/
inductive CountFault where
  /-- There is no character. -/
  | empty
  /-- A character is no digit where one has to be, or there is no digit. -/
  | invalidDigit
  /-- The digits so far exceed the greatest value. -/
  | tooLarge
  deriving DecidableEq, Repr

/-- The reason as it is reported. -/
def CountFault.message : CountFault → String
  | empty => "cannot parse integer from empty string"
  | invalidDigit => "invalid digit found in string"
  | tooLarge => "number too large to fit in target type"

namespace Count

/-- Continues a count with more digits, from left to right. -/
def readDigits (greatest : Nat) : (total : Nat) → List Char → Except CountFault Nat
  | total, [] => .ok total
  | total, c :: rest =>
    if Decimal.isDigit c then
      let next := 10 * total + Decimal.digitValue c
      if next ≤ greatest then readDigits greatest next rest else .error .tooLarge
    else .error .invalidDigit

/-- Reads a count of at most `greatest`. -/
def read (greatest : Nat) : List Char → Except CountFault Nat
  | [] => .error .empty
  | ['+'] => .error .invalidDigit
  | '+' :: digits => readDigits greatest 0 digits
  | digits => readDigits greatest 0 digits

/-- The greatest count of 64 bits. -/
def greatest64 : Nat := UInt64.size - 1

/-- Reads a count of 64 bits. -/
def readWord (text : String) : Except CountFault UInt64 :=
  (read greatest64 text.toList).map UInt64.ofNat

end Count

end LoadServer
