import LoadServer.Document.Assembly
import LoadServer.Document.Number

/-! Reading a document: keys, values and lines, and the tree that they make up. -/

namespace LoadServer.Document

/-- The depth to which values may lie in each other. -/
def deepestValue : Nat := 79

/-- The number of keys that a dotted key may have. -/
def longestPath : Nat := 79

/-- A key without dots, and what follows it. -/
def simpleKey? (text : List Char) : Option (Key × List Char) :=
  match text with
  | '"' :: _ => quoted
  | '\x27' :: _ => quoted
  | _ =>
    let name := text.takeWhile isBare
    let rest := text.dropWhile isBare
    if name.isEmpty then none else some (keyOf name rest, rest)
where
  keyOf (name rest : List Char) : Key :=
    ⟨String.ofList name, ⟨text.length, rest.length⟩⟩
  quoted : Option (Key × List Char) :=
    (shortText? text).map fun (name, rest) => (keyOf name rest, rest)

/-- The keys of a dotted key, and what follows them and the blank space after them. -/
def keys? (text : List Char) : Option (List Key × List Char) := do
  let (key, rest) ← simpleKey? (skipBlanks text)
  match skipBlanks rest with
  | '.' :: more =>
    if more.length < text.length then
      let (keys, rest) ← keys? more
      some (key :: keys, rest)
    else none
  | rest => some ([key], rest)
termination_by text.length

/-- A dotted key as its path and its last key, and what follows it. -/
def path? (text : List Char) : Option (List Key × Key × List Char) := do
  let (keys, rest) ← keys? text
  let leaf ← keys.getLast?
  if keys.length ≤ longestPath then some (keys.dropLast, leaf, rest) else none

/-- A dotted key and its value, and what follows them. -/
def assignment? (value? : List Char → Option (Node × List Char)) (text : List Char) :
    Option ((List Key × Key × Node) × List Char) := do
  let (path, leaf, rest) ← path? text
  let rest ← after? '=' rest
  let (value, rest) ← value? (skipBlanks rest)
  some ((path, leaf, value), rest)

/-- The values between brackets, and what follows the closing one. -/
def items? (value? : List Char → Option (Node × List Char)) (text : List Char) :
    Option (List Node × List Char) := do
  match ← skipFiller? false text with
  | ']' :: rest => some ([], rest)
  | start =>
    let (value, rest) ← value? start
    match ← skipFiller? false rest with
    | ']' :: rest => some ([value], rest)
    | ',' :: more =>
      if more.length < text.length then
        let (values, rest) ← items? value? more
        some (value :: values, rest)
      else none
    | _ => none
termination_by text.length

/-- The entries between braces after the first of them, and what follows the closing brace. -/
def moreEntries? (value? : List Char → Option (Node × List Char)) (entries : Entries)
    (text : List Char) : Option (Entries × List Char) := do
  let ((path, leaf, value), rest) ← assignment? value? text
  let entries ← entries.insert? path leaf value
  match skipBlanks rest with
  | '\x7d' :: rest => some (entries, rest)
  | ',' :: more =>
    if more.length < text.length then moreEntries? value? entries more else none
  | _ => none
termination_by text.length

/-- The entries between braces, and what follows the closing one. -/
def entries? (value? : List Char → Option (Node × List Char)) (text : List Char) :
    Option (Entries × List Char) :=
  match skipBlanks text with
  | '\x7d' :: rest => some ([], rest)
  | _ => moreEntries? value? [] text

/-- A value that may have parts down to a depth, and what follows it. -/
def value? : (depth : Nat) → (text : List Char) → Option (Node × List Char)
  | 0, text => do
    let (value, rest) ← scalar? text
    some (.scalar ⟨text.length, rest.length⟩ value, rest)
  | depth + 1, text =>
    match text with
    | '[' :: more => do
      let (items, rest) ← items? (value? depth) more
      some (.array ⟨text.length, rest.length⟩ items, rest)
    | '\x7b' :: more => do
      let (entries, rest) ← entries? (value? depth) more
      some (.table (some ⟨text.length, rest.length⟩) .inline entries, rest)
    | _ => do
      let (value, rest) ← scalar? text
      some (.scalar ⟨text.length, rest.length⟩ value, rest)

/-- One line, which may say nothing, and what follows it. -/
def line? (text : List Char) : Option (Option Line × List Char) :=
  let start := skipBlanks text
  match start with
  | '[' :: '[' :: more => do
    let (path, leaf, rest) ← path? more
    let rest ← (after? ']' rest).bind (after? ']')
    let next ← lineEnd? rest
    some (some (.item path leaf ⟨start.length, rest.length⟩), next)
  | '[' :: more => do
    let (path, leaf, rest) ← path? more
    let rest ← after? ']' rest
    let next ← lineEnd? rest
    some (some (.header path leaf ⟨start.length, rest.length⟩), next)
  | [] => some (none, [])
  | c :: _ =>
    if c = '#' || c = '\n' || c = '\r' then do
      let next ← lineEnd? start
      some (none, next)
    else do
      let ((path, leaf, value), rest) ← assignment? (value? deepestValue) start
      let next ← lineEnd? rest
      some (some (.entry path leaf value rest.length), next)

/-- The lines of a document that say something. -/
def lines? (text : List Char) : Option (List Line) :=
  if text.isEmpty then some []
  else do
    let (line, next) ← line? text
    if next.length < text.length then
      let lines ← lines? next
      some (line.toList ++ lines)
    else none
termination_by text.length

/-- The text after the mark of byte order that a document may begin with. -/
def skipMark : List Char → List Char
  | '\uFEFF' :: rest => rest
  | text => text

/-- The entries of a document. -/
def read? (text : List Char) : Option Entries := do
  let lines ← lines? (skipMark text)
  ofLines? lines

end LoadServer.Document
