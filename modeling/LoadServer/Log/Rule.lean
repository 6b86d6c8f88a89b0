import LoadServer.Log.Record
import LoadServer.Numeric.Count
import LoadServer.Text.Alphanumeric
import LoadServer.Text.Blank
import LoadServer.Text.Bytes
import LoadServer.Text.Pattern

/-! Rules on what the log shows, and how they are written. -/

namespace LoadServer

open Text

/-- A condition on the fields of a record. -/
structure FieldRule where
  name : List Char
  /-- What the value has to be like, if that matters. -/
  pattern : Option (List Char) := none
  deriving DecidableEq, Repr

/-- A rule on the records that it covers. -/
structure LogRule where
  /-- How the names of the records' sources begin. -/
  source : List Char := []
  /-- The span of work that the records are made in, if that matters. -/
  span : Option (List Char) := none
  /-- The condition on the records' fields, if there is one. -/
  field : Option FieldRule := none
  /-- The rank of the least important severity that is shown, or zero if none is. -/
  threshold : Nat
  deriving DecidableEq, Repr

/-- Why a text is no rule. -/
inductive RuleFault where
  /-- It is not built like one. -/
  | malformed
  /-- It has no threshold where there has to be one. -/
  | noThreshold
  /-- What it says of a field's value cannot be used. -/
  | badPattern (fault : PatternFault)
  /-- One of its parts would end inside a character. -/
  | splitCharacter
  deriving DecidableEq, Repr

/-- What is reported of a text that is no rule. -/
def RuleFault.message : RuleFault → String
  | malformed => "invalid filter directive"
  | noThreshold =>
    "error parsing level filter: expected one of \"off\", \"error\", \"warn\", \"info\", " ++
      "\"debug\", \"trace\", or a number 0-5"
  | badPattern fault => "invalid field filter: " ++ fault.message
  | splitCharacter => "a part of a filter directive ends inside a character"

namespace FieldRule

/-- Whether a text is nothing, or an exponent with its letter in lower case. -/
def isExponent : List Char → Bool
  | [] => true
  | 'e' :: sign :: digits =>
    let digits := if sign = '+' || sign = '-' then digits else sign :: digits
    !digits.isEmpty && digits.all Decimal.isDigit
  | _ => false

/-- The digits behind a decimal point, and what follows them. -/
def decimalPlaces : List Char → List Char × List Char
  | '.' :: rest => (rest.takeWhile Decimal.isDigit, rest.dropWhile Decimal.isDigit)
  | rest => ([], rest)

/-- Whether a text is a number without a sign, in any case. -/
def isNumeral (text : List Char) : Bool :=
  let lower := text.map Char.toLower
  let whole := lower.takeWhile Decimal.isDigit
  let (places, rest) := decimalPlaces (lower.dropWhile Decimal.isDigit)
  ["inf", "infinity", "nan"].contains (String.ofList lower) ||
    (!(whole ++ places).isEmpty && isExponent rest)

/-- Why a value cannot be asked for, if so. A number with a plus in front is the only number that
is no pattern. -/
def valueFault? (text : List Char) : Option PatternFault :=
  match text with
  | '+' :: rest => if isNumeral rest then none else patternFault? text
  | _ => patternFault? text

/-- A condition from its text: a field's name, and its value behind an equals sign if that
matters. -/
def read (text : List Char) : Except RuleFault FieldRule :=
  let name := text.takeWhile (· ≠ '=')
  match text.dropWhile (· ≠ '=') with
  | [] => .ok ⟨name, none⟩
  | _ :: rest =>
    let value := rest.takeWhile (· ≠ '=')
    match valueFault? value with
    | none => .ok ⟨name, some value⟩
    | some fault => .error (.badPattern fault)

end FieldRule

namespace LogRule

/-- The words for thresholds. -/
def thresholdWords : List (String × Nat) :=
  [("off", 0), ("error", 1), ("warn", 2), ("info", 3), ("debug", 4), ("trace", 5)]

/-- The threshold of a rule that names none. -/
def everything : Nat := 5

/-- A threshold by its number or by its word in any case. -/
def threshold? (text : List Char) : Option Nat :=
  match Count.read everything text with
  | .ok number => some number
  | .error _ =>
    (thresholdWords.find? fun word => word.1.toList == text.map Char.toLower).map (·.2)

/-- Whether a rule may begin with a character. -/
def mayBegin (c : Char) : Bool :=
  c = '-' || c = ':' || c = '_' || isAlphanumeric c

/-- The part of a text between two places. -/
def part (text : List Char) (start stop : Nat) : Except RuleFault (List Char) :=
  match between? text start stop with
  | some part => .ok part
  | none => .error .splitCharacter

/-- The threshold that stands behind a place. -/
def thresholdBehind (text : List Char) (start : Nat) : Except RuleFault Nat :=
  match behind? text start with
  | none => .error .splitCharacter
  | some [] => .ok everything
  | some word =>
    match threshold? word with
    | some threshold => .ok threshold
    | none => .error .noThreshold

/-- The threshold behind a bracket that closes at a place, with this much of the text left. -/
def readEnd (text : List Char) (place : Nat) : List Char → Except RuleFault Nat
  | [] => .ok everything
  | '=' :: _ => thresholdBehind text (place + 1)
  | _ => .error .malformed

/-- The rest of a rule behind the brace that opens at a place, with this much of the text left. -/
def readField (text : List Char) (source : List Char) (span : Option (List Char)) (place : Nat)
    (left : List Char) : Except RuleFault LogRule := do
  let stop := place + byteLength (left.takeWhile (· ≠ '\x7d'))
  match left.dropWhile (· ≠ '\x7d') with
  | [] => .error .malformed
  | _ :: after =>
    let words ← part text place stop
    if words.isEmpty then .error .malformed
    else
      let field ← FieldRule.read words
      match after with
      | ']' :: last =>
        return { source, span, field, threshold := ← readEnd text (stop + 2) last }
      | _ => .error .malformed

/-- The rest of a rule behind the bracket that opens at a place, with this much of the text
left. -/
def readSpan (text : List Char) (source : List Char) (place : Nat) (left : List Char) :
    Except RuleFault LogRule := do
  let stop := place + byteLength (left.takeWhile fun c => c ≠ ']' && c ≠ '\x7b')
  match left.dropWhile fun c => c ≠ ']' && c ≠ '\x7b' with
  | [] => .error .malformed
  | ']' :: last =>
    let span ← part text place stop
    return { source, span := some span, threshold := ← readEnd text (stop + 1) last }
  | _ :: inner =>
    let name ← part text place stop
    readField text source (if name.isEmpty then none else some name) (stop + 1) inner

/-- A rule from its text: a threshold alone, or the beginning of a source's name, a span in
brackets with a field in braces, and a threshold behind an equals sign, of which the name or the
brackets have to be there.

The signs between the parts are looked for in the text without the blanks around it, but the
places where they are found are counted in the text as it is. -/
def read (text : List Char) : Except RuleFault LogRule := do
  match trim text with
  | [] => .error .malformed
  | '[' :: left => readSpan text [] 1 left
  | c :: left =>
    if !mayBegin c then .error .malformed
    else
      let stop := byteLength ((c :: left).takeWhile fun c => c ≠ '=' && c ≠ '[')
      match (c :: left).dropWhile fun c => c ≠ '=' && c ≠ '[' with
      | [] =>
        match threshold? text with
        | some threshold => return { threshold }
        | none => return { source := text, threshold := everything }
      | '=' :: _ =>
        let source ← part text 0 stop
        return { source, threshold := ← thresholdBehind text (stop + 1) }
      | _ :: inner =>
        let source ← part text 0 stop
        readSpan text source (stop + 1) inner

/-- Whether a rule is about spans of work and the values in them. Records are made outside of
every span. -/
def isOnSpans (rule : LogRule) : Bool :=
  rule.span.isSome || (rule.field.bind (·.pattern)).isSome

/-- Whether a rule is about a record. -/
def covers (rule : LogRule) (entry : LogRecord) : Bool :=
  !rule.isOnSpans && rule.source.isPrefixOf entry.source.toList &&
    match rule.field with
    | none => true
    | some field => (entry.fields.map String.toList).contains field.name

/-- Whether a rule comes at least equal to another one that covers the same record: the one with
the longer name counts, then the one with a field, then the one whose field comes later in the
order of words. -/
def isAtLeast (rule other : LogRule) : Bool :=
  if rule.source.length ≠ other.source.length then
    decide (other.source.length < rule.source.length)
  else
    match rule.field, other.field with
    | none, some _ => false
    | none, none | some _, none => true
    | some field, some otherField => !field.name.lex otherField.name fun a b => decide (a < b)

end LogRule

end LoadServer
