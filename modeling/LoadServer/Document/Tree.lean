/-! The parts of a settings document: keys, values and tables, each with its place in the text. -/

namespace LoadServer.Document

/-- A stretch of a document, told by how many characters are left at its start and at its end. -/
structure Place where
  start : Nat
  stop : Nat
  deriving DecidableEq, Repr

/-- A key and where it is written. -/
structure Key where
  name : String
  place : Place
  deriving DecidableEq, Repr

/-- A real number of a document. -/
inductive Real where
  /-- A finite one by its sign and its magnitude in units of the least magnitude. -/
  | finite (negative : Bool) (magnitude : Nat)
  | infinite (negative : Bool)
  | undefined
  deriving DecidableEq, Repr

/-- A value without parts. -/
inductive Scalar where
  | text (text : String)
  | integer (number : Int)
  | real (number : Real)
  | truth (truth : Bool)
  /-- A date, a time or both. -/
  | moment
  deriving DecidableEq, Repr

/-- How a table came to be, which decides how it can be extended. -/
inductive TableKind where
  /-- Written between braces: it is complete. -/
  | inline
  /-- Implied by a dotted key: more dotted keys extend it. -/
  | dotted
  /-- Implied by a longer header: its own header may still come. -/
  | implied
  /-- Opened by its own header. -/
  | stated
  deriving DecidableEq, Repr

/-- A value of a document. -/
inductive Node where
  | scalar (place : Place) (value : Scalar)
  | array (place : Place) (items : List Node)
  /-- A table, which has a place of its own if it is written in one. -/
  | table (place : Option Place) (kind : TableKind) (entries : List (Key × Node))
  /-- Tables that were opened one after another by headers of the same name. -/
  | tables (items : List (Place × List (Key × Node)))

/-- The entries of a table in the order in which they were first written. -/
abbrev Entries := List (Key × Node)

/-- The value of the entry with a name. -/
def Entries.find? (entries : Entries) (name : String) : Option Node :=
  (List.find? (fun entry : Key × Node => entry.1.name == name) entries).map (·.2)

/-- The entries with another value for a name that one of them has. -/
def Entries.replace (entries : Entries) (name : String) (node : Node) : Entries :=
  entries.map fun entry => if entry.1.name == name then (entry.1, node) else entry

/-- The entries without the one of a name. -/
def Entries.without (entries : Entries) (name : String) : Entries :=
  entries.filter fun entry => entry.1.name != name

/-- Where a value is written, if it is written in one place. -/
def Node.place? : Node → Option Place
  | .scalar place _ => some place
  | .array place _ => some place
  | .table place _ _ => place
  | .tables items =>
    match items.head?, items.getLast? with
    | some first, some last => some ⟨first.1.start, last.1.stop⟩
    | _, _ => none

end LoadServer.Document
