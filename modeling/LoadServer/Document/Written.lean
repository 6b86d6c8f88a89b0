import LoadServer.Document.Quoted

/-!
The written form of a document: headers, and names with values, each on a line.
-/

namespace LoadServer.Document

/-- A digit of base sixteen. -/
def hexDigit (digit : Nat) : Char :=
  if digit < 10 then Char.ofNat ('0'.toNat + digit) else Char.ofNat ('a'.toNat + (digit - 10))

/-- Whether a character controls a device instead of being shown. -/
def isControl (c : Char) : Bool :=
  c < ' ' || c = '\x7f'

/-- A character as it is written between quotation marks. -/
def escaped (c : Char) : List Char :=
  if c = '"' ∨ c = '\\' then ['\\', c]
  else if isControl c then
    ['\\', 'u', '0', '0', hexDigit (c.toNat / 16), hexDigit (c.toNat % 16)]
  else [c]

/-- Text between quotation marks. -/
def quotedForm (text : List Char) : List Char :=
  '"' :: text.flatMap escaped ++ ['"']

/-- A value that can be written in one line. -/
inductive Literal where
  | text (text : String)
  | count (count : Nat)
  | truth (truth : Bool)
  deriving DecidableEq, Repr

/-- The characters of a value. -/
def Literal.characters : Literal → List Char
  | text body => quotedForm body.toList
  | count number => Decimal.digits number
  | truth true => ['t', 'r', 'u', 'e']
  | truth false => ['f', 'a', 'l', 's', 'e']

/-- A line of a written document. -/
inductive WrittenLine where
  | blank
  | comment (text : List Char)
  | header (name : String)
  | entry (name : String) (value : Literal)
  deriving DecidableEq, Repr

/-- The characters of a line, with the line break at its end. -/
def WrittenLine.characters : WrittenLine → List Char
  | blank => ['\n']
  | comment text => '#' :: text ++ ['\n']
  | header name => '[' :: name.toList ++ [']', '\n']
  | entry name value => name.toList ++ [' ', '=', ' '] ++ value.characters ++ ['\n']

/-- The text of a written document. -/
def writtenText (lines : List WrittenLine) : String :=
  String.ofList (lines.flatMap WrittenLine.characters)

/-- A name with its value. -/
abbrev Setting := String × Literal

/-- The entries before the first header of some lines, and those under each header, where blank
lines and comments say nothing. -/
def grouped : List WrittenLine → List Setting × List (String × List Setting)
  | [] => ([], [])
  | .blank :: rest => grouped rest
  | .comment _ :: rest => grouped rest
  | .entry name value :: rest =>
    let (entries, sections) := grouped rest
    ((name, value) :: entries, sections)
  | .header name :: rest =>
    let (entries, sections) := grouped rest
    ([], (name, entries) :: sections)

/-- A digit of base sixteen counts what it was written for. -/
theorem digitValue_hexDigit {digit : Nat} (small : digit < 16) :
    Hexadecimal.digitValue (hexDigit digit) = digit := by
  -- Sixteen digits in two ranges.
  rcases digit with _ | _ | _ | _ | _ | _ | _ | _ | _ | _ | _ | _ | _ | _ | _ | _ | digit
  all_goals first | rfl | omega

/-- A written digit of base sixteen is one. -/
theorem isDigit_hexDigit {digit : Nat} (small : digit < 16) :
    Hexadecimal.isDigit (hexDigit digit) = true := by
  -- Sixteen digits in two ranges.
  rcases digit with _ | _ | _ | _ | _ | _ | _ | _ | _ | _ | _ | _ | _ | _ | _ | _ | digit
  all_goals first | rfl | omega

end LoadServer.Document
