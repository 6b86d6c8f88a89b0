import LoadServer.Document.Quoted
import LoadServer.Document.Tree

/-! Numbers, dates and times of a document. -/

namespace LoadServer.Document

/-- Digits after the first one, where single underscores may stand between digits: the digits,
and what follows them. -/
def moreDigits (isDigit : Char → Bool) : List Char → List Char × List Char
  | [] => ([], [])
  | '_' :: c :: rest =>
    if isDigit c then consTo c (moreDigits isDigit rest) else ([], '_' :: c :: rest)
  | c :: rest => if isDigit c then consTo c (moreDigits isDigit rest) else ([], c :: rest)

/-- Digits of which there is at least one. -/
def digits? (isDigit : Char → Bool) : List Char → Option (List Char × List Char)
  | [] => none
  | c :: rest => if isDigit c then some (consTo c (moreDigits isDigit rest)) else none

/-- Decimal digits without a zero in front. -/
def wholeDigits? : List Char → Option (List Char × List Char)
  | '0' :: rest => some (['0'], rest)
  | text => digits? Decimal.isDigit text

/-- Whether a number begins with a minus sign, and what follows its sign. -/
def sign : List Char → Bool × List Char
  | '-' :: rest => (true, rest)
  | '+' :: rest => (false, rest)
  | text => (false, text)

/-- The greatest integer of a document. -/
def greatestInteger : Int := 0x7FFFFFFFFFFFFFFF

/-- An integer, if it has 64 bits. -/
def inRange? (number : Int) : Option Int :=
  if -greatestInteger - 1 ≤ number ∧ number ≤ greatestInteger then some number else none

/-- The number that decimal digits spell. -/
def decimalValue (digits : List Char) : Nat :=
  Decimal.ofDigits 10 Decimal.digitValue 0 digits

/-- An integer in a base other than ten, written after the letter of the base. -/
def basedInteger? (base : Nat) (isDigit : Char → Bool) (text : List Char) :
    Option (Int × List Char) := do
  let (digits, rest) ← digits? isDigit text
  let number ← inRange? (Decimal.ofDigits base Hexadecimal.digitValue 0 digits)
  some (number, rest)

/-- An integer, and what follows it. -/
def integer? : List Char → Option (Int × List Char)
  | '0' :: 'x' :: rest => basedInteger? 16 Hexadecimal.isDigit rest
  | '0' :: 'o' :: rest => basedInteger? 8 (fun c => '0' ≤ c && c ≤ '7') rest
  | '0' :: 'b' :: rest => basedInteger? 2 (fun c => c = '0' || c = '1') rest
  | text => do
    let (negative, text) := sign text
    let (digits, rest) ← wholeDigits? text
    let magnitude : Int := decimalValue digits
    let number ← inRange? (if negative then -magnitude else magnitude)
    some (number, rest)

/-- The exponent that follows a letter for it, and what follows the exponent. -/
def exponent? : List Char → Option (Int × List Char)
  | c :: text =>
    if c = 'e' || c = 'E' then do
      let (negative, text) := sign text
      let (digits, rest) ← digits? Decimal.isDigit text
      let magnitude : Int := decimalValue digits
      some (if negative then -magnitude else magnitude, rest)
    else none
  | [] => none

/-- A real number with a sign, digits before and after the point, and an exponent, unless it is
too large. -/
def realOfParts? (negative : Bool) (whole fraction : List Char) (exponent : Int) :
    Option Real :=
  let significand := decimalValue (whole ++ fraction)
  let magnitude := Decimal.magnitude significand (exponent - fraction.length)
  if magnitude < Binary64.overflow then some (.finite negative magnitude)
  else if negative then some (.infinite true)
  else none

/-- A real number in digits, with a point, an exponent or both. -/
def digitsReal? (text : List Char) : Option (Real × List Char) := do
  let (negative, text) := sign text
  let (whole, rest) ← wholeDigits? text
  match rest with
  | '.' :: more =>
    let (fraction, rest) ← digits? Decimal.isDigit more
    let (exponent, rest) := (exponent? rest).getD (0, rest)
    let number ← realOfParts? negative whole fraction exponent
    some (number, rest)
  | _ =>
    let (exponent, rest) ← exponent? rest
    let number ← realOfParts? negative whole [] exponent
    some (number, rest)

/-- A real number that has a word. -/
def wordReal? (text : List Char) : Option (Real × List Char) :=
  let (negative, text) := sign text
  match text with
  | 'i' :: 'n' :: 'f' :: rest => some (.infinite negative, rest)
  | 'n' :: 'a' :: 'n' :: rest => some (.undefined, rest)
  | _ => none

/-- Two digits as a number between two bounds. -/
def pair? (least greatest : Nat) : List Char → Option (Nat × List Char)
  | a :: b :: rest =>
    let number := decimalValue [a, b]
    if Decimal.isDigit a && Decimal.isDigit b && least ≤ number && number ≤ greatest then
      some (number, rest)
    else none
  | _ => none

/-- The text after a character that it begins with. -/
def after? (wanted : Char) : List Char → Option (List Char)
  | c :: rest => if c = wanted then some rest else none
  | [] => none

/-- The days of a month. -/
def daysOf (year month : Nat) : Nat :=
  if month = 2 then
    if year % 4 = 0 && (year % 100 ≠ 0 || year % 400 = 0) then 29 else 28
  else if month = 4 || month = 6 || month = 9 || month = 11 then 30
  else 31

/-- What follows a date. -/
def date? (text : List Char) : Option (List Char) := do
  let (century, text) ← pair? 0 99 text
  let (decade, text) ← pair? 0 99 text
  let text ← after? '-' text
  let (month, text) ← pair? 1 12 text
  let text ← after? '-' text
  let (_, rest) ← pair? 1 (daysOf (100 * century + decade) month) text
  some rest

/-- What follows a fraction of a second, or the text itself if it begins with none. -/
def skipFraction : List Char → List Char
  | '.' :: c :: rest =>
    if Decimal.isDigit c then rest.dropWhile Decimal.isDigit else '.' :: c :: rest
  | text => text

/-- What follows a time of day. -/
def time? (text : List Char) : Option (List Char) := do
  let (_, text) ← pair? 0 23 text
  let text ← after? ':' text
  let (_, text) ← pair? 0 59 text
  let text ← after? ':' text
  let (_, rest) ← pair? 0 60 text
  some (skipFraction rest)

/-- What follows the difference of a time to universal time. -/
def offset? : List Char → Option (List Char)
  | c :: text =>
    if c = 'Z' || c = 'z' then some text
    else if c = '+' || c = '-' then do
      let (_, text) ← pair? 0 23 text
      let text ← after? ':' text
      let (_, rest) ← pair? 0 59 text
      some rest
    else none
  | [] => none

/-- What follows the time that may come after a date, or the text itself if there is none. -/
def skipTime : List Char → List Char
  | c :: text =>
    if c = 'T' || c = 't' || c = ' ' then
      match time? text with
      | some rest => (offset? rest).getD rest
      | none => c :: text
    else c :: text
  | [] => []

/-- What follows a date, a time or both. -/
def moment? (text : List Char) : Option (List Char) :=
  ((date? text).map skipTime) <|> time? text

/-- A value without parts that is no text, and what follows it. -/
def bareScalar? (text : List Char) : Option (Scalar × List Char) :=
  ((moment? text).map fun rest => (.moment, rest)) <|>
  ((digitsReal? text).map fun (number, rest) => (.real number, rest)) <|>
  ((wordReal? text).map fun (number, rest) => (.real number, rest)) <|>
  ((integer? text).map fun (number, rest) => (.integer number, rest)) <|>
  match text with
  | 't' :: 'r' :: 'u' :: 'e' :: rest => some (.truth true, rest)
  | 'f' :: 'a' :: 'l' :: 's' :: 'e' :: rest => some (.truth false, rest)
  | _ => none

/-- A value without parts, and what follows it. -/
def scalar? (text : List Char) : Option (Scalar × List Char) :=
  match text with
  | '"' :: _ => (quotedText? text).map fun (body, rest) => (.text (String.ofList body), rest)
  | '\x27' :: _ => (quotedText? text).map fun (body, rest) => (.text (String.ofList body), rest)
  | _ => bareScalar? text

end LoadServer.Document
