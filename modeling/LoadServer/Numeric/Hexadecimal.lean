import LoadServer.Numeric.Decimal

/-! Digits of base sixteen, and characters that are given by their numbers in it. -/

namespace LoadServer.Hexadecimal

/-- Whether a character is a digit of base sixteen. -/
def isDigit (c : Char) : Bool :=
  Decimal.isDigit c || ('a' ≤ c && c ≤ 'f') || ('A' ≤ c && c ≤ 'F')

/-- What a digit of base sixteen counts. -/
def digitValue (c : Char) : Nat :=
  if Decimal.isDigit c then Decimal.digitValue c
  else if 'a' ≤ c then c.toNat - 'a'.toNat + 10
  else c.toNat - 'A'.toNat + 10

/-- The character with this number, if there is one. -/
def char? (digits : List Char) : Option Char :=
  let number := Decimal.ofDigits 16 digitValue 0 digits
  if digits.all isDigit && Nat.isValidChar number then some (Char.ofNat number) else none

end LoadServer.Hexadecimal
