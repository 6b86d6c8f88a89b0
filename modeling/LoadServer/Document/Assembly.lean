import LoadServer.Document.Tree

/-!
Putting a document together from its lines: which keys and headers may follow which, and the
order that the entries come to be in.
-/

namespace LoadServer.Document

/-- A line of a document that says something. -/
inductive Line where
  /-- A value under a key, which may have further keys before it. -/
  | entry (path : List Key) (leaf : Key) (value : Node) (stop : Nat)
  /-- A header that opens a table. -/
  | header (path : List Key) (leaf : Key) (place : Place)
  /-- A header that opens the next table of several with one name. -/
  | item (path : List Key) (leaf : Key) (place : Place)

/-- Whether keys with dots may go on into a table. -/
def TableKind.isOpen : TableKind → Bool
  | .dotted | .implied => true
  | .inline | .stated => false

/-- A value under a path of keys, each of which becomes a table. -/
def nest : List Key → Key → Node → Key × Node
  | [], leaf, value => (leaf, value)
  | key :: path, leaf, value => (key, .table none .dotted [nest path leaf value])

/-- Puts a value under a path of keys, unless it is taken or the path leads through something
that dotted keys do not extend. -/
def Entries.insert? (entries : Entries) : List Key → Key → Node → Option Entries
  | [], leaf, value =>
    match entries.find? leaf.name with
    | none => some (entries ++ [(leaf, value)])
    | some _ => none
  | key :: path, leaf, value =>
    match entries.find? key.name with
    | none => some (entries ++ [nest (key :: path) leaf value])
    | some (.table place kind inner) =>
      if kind.isOpen && (!path.isEmpty || kind = .dotted) then do
        let inner ← Entries.insert? inner path leaf value
        some (entries.replace key.name (.table place kind inner))
      else none
    | some (.tables items) =>
      match items.getLast? with
      | some (place, inner) =>
        if path.isEmpty then none
        else do
          let inner ← Entries.insert? inner path leaf value
          some (entries.replace key.name (.tables (items.dropLast ++ [(place, inner)])))
      | none => none
    | some _ => none

/-- Changes the entries that a path of headers leads to, and opens the tables on the way that are
not there yet. -/
def Entries.within? {α : Type} (change : Entries → Option (α × Entries)) :
    List Key → Entries → Option (α × Entries)
  | [], entries => change entries
  | key :: path, entries =>
    match entries.find? key.name with
    | none => do
      let (found, inner) ← within? change path []
      some (found, entries ++ [(key, .table none .implied inner)])
    | some (.table place kind inner) =>
      if kind = .inline then none
      else do
        let (found, inner) ← within? change path inner
        some (found, entries.replace key.name (.table place kind inner))
    | some (.tables items) =>
      match items.getLast? with
      | some (place, inner) => do
        let (found, inner) ← within? change path inner
        some (found, entries.replace key.name (.tables (items.dropLast ++ [(place, inner)])))
      | none => none
    | some _ => none

/-- The part of a document that is being written. -/
inductive Opened where
  /-- The entries before the first header. -/
  | root
  /-- A table under its own header. -/
  | table (path : List Key) (leaf : Key) (place : Place)
  /-- One of several tables under a header. -/
  | item (path : List Key) (leaf : Key) (place : Place)

/-- A document as far as it has been put together. -/
structure Assembly where
  /-- The entries of the parts that are complete. -/
  root : Entries := []
  /-- The part that is being written. -/
  opened : Opened := .root
  /-- The entries of that part. -/
  entries : Entries := []

namespace Assembly

/-- Completes the part that is being written. -/
def close? (assembly : Assembly) : Option Entries :=
  match assembly.opened with
  | .root => some assembly.entries
  | .table path leaf place => do
    let change := fun (parent : Entries) =>
      match parent.find? leaf.name with
      | none => some ((), parent ++ [(leaf, .table (some place) .stated assembly.entries)])
      | some _ => none
    let (_, root) ← Entries.within? change path assembly.root
    some root
  | .item path leaf place => do
    let change := fun (parent : Entries) =>
      match parent.find? leaf.name with
      | some (.tables items) =>
        some ((), parent.replace leaf.name (.tables (items ++ [(place, assembly.entries)])))
      | _ => none
    let (_, root) ← Entries.within? change path assembly.root
    some root

/-- Makes room for a table under its header: the entries that longer headers have put into it
already, and the parent without it. -/
def openTable? (leaf : Key) (parent : Entries) : Option (Entries × Entries) :=
  match parent.find? leaf.name with
  | none => some ([], parent)
  | some (.table _ .implied inner) => some (inner, parent.without leaf.name)
  | some _ => none

/-- Makes room for one of several tables under a header. -/
def openItem? (leaf : Key) (parent : Entries) : Option (Unit × Entries) :=
  match parent.find? leaf.name with
  | none => some ((), parent ++ [(leaf, .tables [])])
  | some (.tables _) => some ((), parent)
  | some _ => none

/-- The opened part with its place reaching to the end of its last value. -/
def extended (opened : Opened) (stop : Nat) : Opened :=
  match opened with
  | .root => .root
  | .table path leaf place => .table path leaf { place with stop := stop }
  | .item path leaf place => .item path leaf { place with stop := stop }

/-- Adds one line. -/
def add? (assembly : Assembly) : Line → Option Assembly
  | .entry path leaf value stop => do
    let entries ← assembly.entries.insert? path leaf value
    some { assembly with entries := entries, opened := extended assembly.opened stop }
  | .header path leaf place => do
    let root ← assembly.close?
    let (entries, root) ← Entries.within? (openTable? leaf) path root
    some { root := root, opened := .table path leaf place, entries := entries }
  | .item path leaf place => do
    let root ← assembly.close?
    let (_, root) ← Entries.within? (openItem? leaf) path root
    some { root := root, opened := .item path leaf place, entries := [] }

/-- Adds lines in order. -/
def addAll? (assembly : Assembly) (lines : List Line) : Option Assembly :=
  lines.foldlM add? assembly

end Assembly

/-- The entries of a document with these lines, if the lines go together. -/
def ofLines? (lines : List Line) : Option Entries := do
  let assembly ← Assembly.addAll? {} lines
  assembly.close?

end LoadServer.Document
