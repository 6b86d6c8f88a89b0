import LoadServer.Numeric.Binary64

/-!
Decimal numerals: reading one as the nearest magnitude, and writing a magnitude with the fewest
digits that read back.
-/

namespace LoadServer.Decimal

/-- Whether a character is one of the ten digits. -/
def isDigit (c : Char) : Bool :=
  '0' ≤ c && c ≤ '9'

/-- What a digit counts. -/
def digitValue (c : Char) : Nat :=
  c.toNat - '0'.toNat

/-- The number that digits spell in a base, continued from the digits before them. -/
def ofDigits (base : Nat) (value : Char → Nat) (before : Nat) (digits : List Char) : Nat :=
  digits.foldl (fun total digit => base * total + value digit) before

/-- The decimal digits of a natural number. -/
def digits (number : Nat) : List Char :=
  Nat.toDigits 10 number

/-- A power of ten as a numerator and a denominator. -/
def powerOfTen (exponent : Int) : Nat × Nat :=
  (Nat.pow 10 exponent.toNat, Nat.pow 10 (-exponent).toNat)

/-- Beyond this many decimal places every numeral is out of range or vanishes. -/
def farAway : Int := 400

/-- The magnitude nearest to a numeral, which is infinite when it reaches `Binary64.overflow`. -/
def magnitude (significand : Nat) (exponent : Int) : Nat :=
  if significand = 0 then 0
  else if exponent + (digits significand).length < -farAway then 0
  else if farAway < exponent then Binary64.overflow
  else
    let (up, down) := powerOfTen exponent
    Binary64.nearest (significand * up * Binary64.one) down

/-- A multiple of a power of ten. -/
structure Numeral where
  /-- The digits as one number. -/
  significand : Nat
  /-- The power of ten that they count. -/
  exponent : Int
  deriving DecidableEq, Repr

/-- The multiple of a power of ten nearest to a magnitude, if one of its two neighbours among
those multiples reads back as that magnitude. -/
def onGrid? (target : Nat) (exponent : Int) : Option Numeral :=
  let step := Binary64.spacing target
  let lower := if target = Binary64.leadingBit * step ∧ 1 < step then step else 2 * step
  let (up, down) := powerOfTen exponent
  -- Quarter units keep half of the distance to either neighbour a whole number.
  let scaled := 4 * target * down
  let cell := 4 * Binary64.one * up
  let below := scaled / cell
  let readsBack := fun (point : Nat) =>
    let least := (4 * target - lower) * down
    let greatest := (4 * target + 2 * step) * down
    if (target / step) % 2 = 0 then
      decide (least ≤ point * cell ∧ point * cell ≤ greatest)
    else
      decide (least < point * cell ∧ point * cell < greatest)
  let upper := below + 1
  let preferUpper := decide (cell ≤ 2 * (scaled % cell))
  if readsBack below && (!readsBack upper || !preferUpper) then some ⟨below, exponent⟩
  else if readsBack upper then some ⟨upper, exponent⟩
  else none

/-- The first numeral found on a grid when the powers of ten descend from `exponent`. -/
def coarsest (target : Nat) (exponent : Int) : (steps : Nat) → Option Numeral
  | 0 => none
  | steps + 1 => onGrid? target exponent <|> coarsest target (exponent - 1) steps

/-- The numeral of fewest digits that reads back as a positive magnitude. -/
def shortest (target : Nat) : Numeral :=
  (coarsest target 309 660).getD ⟨target, 0⟩

/-- A numeral written out by position, without an exponent. -/
def Numeral.text (numeral : Numeral) : List Char :=
  let shown := digits numeral.significand
  if 0 ≤ numeral.exponent then
    shown ++ List.replicate numeral.exponent.toNat '0'
  else
    let places := (-numeral.exponent).toNat
    let padded := List.replicate (places + 1 - shown.length) '0' ++ shown
    padded.take (padded.length - places) ++ '.' :: padded.drop (padded.length - places)

/-- A magnitude written by position with the fewest digits that read back. -/
def text (target : Nat) : List Char :=
  if target = 0 then ['0'] else (shortest target).text

end LoadServer.Decimal
