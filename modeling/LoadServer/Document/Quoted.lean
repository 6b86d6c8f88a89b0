import LoadServer.Document.Lexical
import LoadServer.Numeric.Hexadecimal

/-! Text between quotation marks: on one line or on several, with escapes or taken literally. -/

namespace LoadServer.Document

/-- The character that a letter after a backslash stands for. -/
def letterEscape? (c : Char) : Option Char :=
  if c = 'b' then some '\x08'
  else if c = 't' then some '\t'
  else if c = 'n' then some '\n'
  else if c = 'f' then some '\x0c'
  else if c = 'r' then some '\r'
  else if c = '"' then some '"'
  else if c = '\\' then some '\\'
  else none

/-- A character put in front of what has been read. -/
def consTo (c : Char) : List Char × List Char → List Char × List Char
  | (text, rest) => (c :: text, rest)

/-- The text up to a quotation mark, and what follows the mark. -/
def basicBody? : List Char → Option (List Char × List Char)
  | [] => none
  | '"' :: rest => some ([], rest)
  | '\\' :: 'u' :: a :: b :: c :: d :: rest => do
    let character ← Hexadecimal.char? [a, b, c, d]
    (basicBody? rest).map (consTo character)
  | '\\' :: 'U' :: a :: b :: c :: d :: e :: f :: g :: h :: rest => do
    let character ← Hexadecimal.char? [a, b, c, d, e, f, g, h]
    (basicBody? rest).map (consTo character)
  | '\\' :: c :: rest => do
    let character ← letterEscape? c
    (basicBody? rest).map (consTo character)
  | c :: rest => if isPlain c then (basicBody? rest).map (consTo c) else none

/-- The text up to an apostrophe, and what follows it. -/
def literalBody? : List Char → Option (List Char × List Char)
  | [] => none
  | '\x27' :: rest => some ([], rest)
  | c :: rest => if isPlain c then (literalBody? rest).map (consTo c) else none

/-- Where in text on several lines the reader is. -/
inductive LineMode where
  /-- In the text. -/
  | text
  /-- After a backslash that ends its line, before the line break. -/
  | joining
  /-- After that line break, where blank space and further line breaks are dropped. -/
  | dropping
  deriving DecidableEq, Repr

/-- The text up to three quotation marks, of which up to two more may come before as text. -/
def longBasicBody? : LineMode → List Char → Option (List Char × List Char)
  | _, [] => none
  | .joining, '\n' :: rest => longBasicBody? .dropping rest
  | .joining, '\r' :: '\n' :: rest => longBasicBody? .dropping rest
  | .joining, c :: rest => if isBlank c then longBasicBody? .joining rest else none
  | .dropping, '\n' :: rest => longBasicBody? .dropping rest
  | .dropping, '\r' :: '\n' :: rest => longBasicBody? .dropping rest
  | .dropping, ' ' :: rest => longBasicBody? .dropping rest
  | .dropping, '\t' :: rest => longBasicBody? .dropping rest
  | _, '"' :: '"' :: '"' :: '"' :: '"' :: rest => some (['"', '"'], rest)
  | _, '"' :: '"' :: '"' :: '"' :: rest => some (['"'], rest)
  | _, '"' :: '"' :: '"' :: rest => some ([], rest)
  | _, '"' :: rest => (longBasicBody? .text rest).map (consTo '"')
  | _, '\\' :: 'u' :: a :: b :: c :: d :: rest => do
    let character ← Hexadecimal.char? [a, b, c, d]
    (longBasicBody? .text rest).map (consTo character)
  | _, '\\' :: 'U' :: a :: b :: c :: d :: e :: f :: g :: h :: rest => do
    let character ← Hexadecimal.char? [a, b, c, d, e, f, g, h]
    (longBasicBody? .text rest).map (consTo character)
  | _, '\\' :: '\n' :: rest => longBasicBody? .dropping rest
  | _, '\\' :: '\r' :: '\n' :: rest => longBasicBody? .dropping rest
  | _, '\\' :: ' ' :: rest => longBasicBody? .joining rest
  | _, '\\' :: '\t' :: rest => longBasicBody? .joining rest
  | _, '\\' :: c :: rest => do
    let character ← letterEscape? c
    (longBasicBody? .text rest).map (consTo character)
  | _, '\n' :: rest => (longBasicBody? .text rest).map (consTo '\n')
  | _, '\r' :: '\n' :: rest => (longBasicBody? .text rest).map (consTo '\n')
  | _, c :: rest => if isPlain c then (longBasicBody? .text rest).map (consTo c) else none

/-- The text up to three apostrophes, of which up to two more may come before as text. -/
def longLiteralBody? : List Char → Option (List Char × List Char)
  | [] => none
  | '\x27' :: '\x27' :: '\x27' :: '\x27' :: '\x27' :: rest => some (['\x27', '\x27'], rest)
  | '\x27' :: '\x27' :: '\x27' :: '\x27' :: rest => some (['\x27'], rest)
  | '\x27' :: '\x27' :: '\x27' :: rest => some ([], rest)
  | '\n' :: rest => (longLiteralBody? rest).map (consTo '\n')
  | '\r' :: '\n' :: rest => (longLiteralBody? rest).map (consTo '\n')
  | c :: rest => if isPlain c then (longLiteralBody? rest).map (consTo c) else none

/-- The text after a line break, or the text itself if it begins with none. -/
def skipNewline (text : List Char) : List Char :=
  (newline? text).getD text

/-- Quoted text on one line, and what follows it. -/
def shortText? : List Char → Option (List Char × List Char)
  | '"' :: rest => basicBody? rest
  | '\x27' :: rest => literalBody? rest
  | _ => none

/-- Quoted text on one line or on several, and what follows it. -/
def quotedText? : List Char → Option (List Char × List Char)
  | '"' :: '"' :: '"' :: rest => longBasicBody? .text (skipNewline rest)
  | '\x27' :: '\x27' :: '\x27' :: rest => longLiteralBody? (skipNewline rest)
  | text => shortText? text

end LoadServer.Document
