import LoadServer.Document.Tree

/-! Showing a place of a document: its line and column, and the line with the place marked. -/

namespace LoadServer.Document

/-- The last line of some text, counted from zero, and what it holds. -/
def lastLine : (count : Nat) → (held : List Char) → List Char → Nat × List Char
  | count, held, [] => (count, held)
  | count, held, c :: rest =>
    if c = '\n' then lastLine (count + 1) [] rest else lastLine count (held ++ [c]) rest

/-- The number of bytes of some text. -/
def byteLength (text : List Char) : Nat :=
  (String.ofList text).utf8ByteSize

/-- A place shown to a reader. -/
structure Excerpt where
  /-- The number of the line, from one. -/
  line : Nat
  /-- The number of the column in characters, from one. -/
  column : Nat
  /-- The whole line. -/
  content : List Char
  /-- How many marks are put under the place: one for each of its bytes on the line. -/
  marks : Nat
  deriving DecidableEq, Repr

/-- The place of a document as it is shown. -/
def excerpt (text : List Char) (place : Place) : Excerpt :=
  let before := text.take (text.length - place.start)
  let inside := (text.drop (text.length - place.start)).take (place.start - place.stop)
  let following := text.drop (text.length - place.start)
  let (line, held) := lastLine 0 [] before
  let content := held ++ following.takeWhile (· ≠ '\n')
  { line := line + 1
    column := held.length + 1
    content := content
    marks := max 1 (min (byteLength inside) (byteLength content - held.length)) }

/-- Some blank space. -/
def blanks (count : Nat) : String :=
  String.ofList (List.replicate count ' ')

/-- The line and the column of an excerpt in words. -/
def Excerpt.heading (shown : Excerpt) : String :=
  s!"TOML parse error at line {shown.line}, column {shown.column}"

/-- An excerpt with its heading and, in the last line, what is wrong. -/
def Excerpt.text (shown : Excerpt) (complaint : String) : String :=
  let number := toString shown.line
  let gutter := blanks (number.length + 1) ++ "|"
  shown.heading ++ "\n" ++
    gutter ++ "\n" ++
    number ++ " | " ++ String.ofList shown.content ++ "\n" ++
    gutter ++ blanks shown.column ++ String.ofList (List.replicate shown.marks '^') ++ "\n" ++
    complaint ++ "\n"

end LoadServer.Document
