import LoadServer.Document.Excerpt
import LoadServer.Document.Reader
import LoadServer.Settings.Defaults
import LoadServer.Text.Quoted
import LoadServer.Workload.Calibration

/-! The settings that a document gives, and what is wrong with one that does not fit. -/

namespace LoadServer

/-- The settings of the section on the server. -/
structure ServerSection where
  listen : String := defaultListen
  workers : Option UInt64 := none
  maxConnections : Option UInt64 := none
  nodelay : Bool := false
  deriving DecidableEq, Repr

/-- The settings of the section on the work. -/
structure WorkloadSection where
  calibrationIterations : UInt64 := Calibration.defaultIterations
  deriving DecidableEq, Repr

/-- The settings of the section on the log. -/
structure LoggingSection where
  level : String := defaultLevel
  deriving DecidableEq, Repr

/-- The settings of a document. -/
structure FileSettings where
  server : ServerSection := {}
  workload : WorkloadSection := {}
  logging : LoggingSection := {}
  deriving DecidableEq, Repr

namespace Document

/-- What a value is found to be. -/
inductive Found where
  | text (text : String)
  | integer (number : Int)
  | real (number : Real)
  | truth (truth : Bool)
  | map
  | sequence
  deriving DecidableEq, Repr

/-- What a value has to be. -/
inductive Expected where
  | text
  | truth
  | size
  | word
  /-- A section with the name of its structure. -/
  | section (name : String)
  deriving DecidableEq, Repr

/-- Why a value does not fit. -/
inductive Misfit where
  /-- It is of another type. -/
  | type (found : Found) (expected : Expected)
  /-- It is of the type and outside of its range. -/
  | value (found : Found) (expected : Expected)
  /-- It ends before an element that has no default. -/
  | length (length : Nat) (expected : Expected) (elements : Nat)
  deriving DecidableEq, Repr

/-- A value that does not fit, and where it is. -/
structure Mismatch where
  place : Place
  misfit : Misfit
  deriving DecidableEq, Repr

/-- A real number as it is shown, always with a decimal point if it is finite. -/
def Real.text : Real → String
  | undefined => "NaN"
  | infinite negative => if negative then "-inf" else "inf"
  | finite negative magnitude =>
    let digits := Decimal.text magnitude
    let pointed := if digits.contains '.' then digits else digits ++ ['.', '0']
    String.ofList (if negative then '-' :: pointed else pointed)

/-- An integer as it is shown. -/
def integerText (number : Int) : String :=
  let digits := String.ofList (Decimal.digits number.natAbs)
  if number < 0 then "-" ++ digits else digits

/-- What a value is found to be, in words. -/
def Found.message : Found → String
  | text body => "string " ++ Text.quoted body
  | integer number => "integer `" ++ integerText number ++ "`"
  | real number => "floating point `" ++ number.text ++ "`"
  | truth true => "boolean `true`"
  | truth false => "boolean `false`"
  | map => "map"
  | sequence => "sequence"

/-- What a value has to be, in words. -/
def Expected.message : Expected → String
  | text => "a string"
  | truth => "a boolean"
  | size => "usize"
  | word => "u64"
  | .section name => "struct " ++ name

/-- Why a value does not fit, in words. -/
def Misfit.message : Misfit → String
  | type found expected => s!"invalid type: {found.message}, expected {expected.message}"
  | value found expected => s!"invalid value: {found.message}, expected {expected.message}"
  | length count expected elements =>
    s!"invalid length {count}, expected {expected.message} with {elements} elements"

/-- What a value is found to be. -/
def Node.found : Node → Found
  | .scalar _ (.text body) => .text body
  | .scalar _ (.integer number) => .integer number
  | .scalar _ (.real number) => .real number
  | .scalar _ (.truth truth) => .truth truth
  | .scalar _ .moment => .map
  | .array _ _ => .sequence
  | .table _ _ _ => .map
  | .tables _ => .sequence

/-- A value that has to be text. -/
def Node.text : Node → Except Misfit String
  | .scalar _ (.text body) => .ok body
  | node => .error (.type node.found .text)

/-- A value that has to be true or false. -/
def Node.truth : Node → Except Misfit Bool
  | .scalar _ (.truth truth) => .ok truth
  | node => .error (.type node.found .truth)

/-- A value that has to be an integer that is not negative. -/
def Node.count (expected : Expected) : Node → Except Misfit UInt64
  | .scalar _ (.integer number) =>
    if number < 0 then .error (.value (.integer number) expected)
    else .ok (UInt64.ofNat number.toNat)
  | node => .error (.type node.found expected)

/-- Reads a value, and puts a complaint to its place, or to a given one if it has none. -/
def Node.located {α : Type} (node : Node) (otherwise : Place) (read : Node → Except Misfit α) :
    Except Mismatch α :=
  (read node).mapError fun misfit => ⟨node.place?.getD otherwise, misfit⟩

/-- The parts of a section: entries by name, or elements by position. -/
inductive Parts where
  | entries (entries : Entries)
  | items (items : List Node)

/-- The parts of a value that has to be a section, where a date has none. -/
def Node.parts (name : String) : Node → Except Misfit Parts
  | .table _ _ entries => .ok (.entries entries)
  | .scalar _ .moment => .ok (.entries [])
  | .array _ items => .ok (.items items)
  | .tables items =>
    .ok (.items (items.map fun (place, entries) => .table (some place) .stated entries))
  | node => .error (.type node.found (.section name))

/-- Reads the element of a section at a position, which may be missing if there is a default. -/
def element {α : Type} (items : List Node) (position : Nat) (place : Place)
    (read : Node → Except Misfit α) (default : Except Misfit α) : Except Mismatch α :=
  match items[position]? with
  | some node => node.located place read
  | none => default.mapError fun misfit => ⟨place, misfit⟩

end Document

open Document

/-- Takes one entry into the section on the server and ignores unknown ones. -/
def ServerSection.take (part : ServerSection) (entry : Key × Node) :
    Except Mismatch ServerSection :=
  let (key, node) := entry
  if key.name = "listen" then
    (node.located key.place Node.text).map fun listen => { part with listen := listen }
  else if key.name = "workers" then
    (node.located key.place (Node.count .size)).map fun workers =>
      { part with workers := some workers }
  else if key.name = "max_connections" then
    (node.located key.place (Node.count .size)).map fun limit =>
      { part with maxConnections := some limit }
  else if key.name = "nodelay" then
    (node.located key.place Node.truth).map fun nodelay => { part with nodelay := nodelay }
  else .ok part

/-- The section on the server from its parts. -/
def ServerSection.ofParts (place : Place) : Parts → Except Mismatch ServerSection
  | .entries entries => entries.foldlM take {}
  | .items items => do
    let missing := fun length => Misfit.length length (.section "ServerConfig") 4
    let listen ← element items 0 place Node.text (.ok defaultListen)
    let workers ← element items 1 place (Node.count .size) (.error (missing 1))
    let limit ← element items 2 place (Node.count .size) (.error (missing 2))
    let nodelay ← element items 3 place Node.truth (.ok false)
    return ⟨listen, some workers, some limit, nodelay⟩

/-- Takes one entry into the section on the work and ignores unknown ones. -/
def WorkloadSection.take (part : WorkloadSection) (entry : Key × Node) :
    Except Mismatch WorkloadSection :=
  let (key, node) := entry
  if key.name = "calibration_iterations" then
    (node.located key.place (Node.count .word)).map fun iterations =>
      { part with calibrationIterations := iterations }
  else .ok part

/-- The section on the work from its parts. -/
def WorkloadSection.ofParts (place : Place) : Parts → Except Mismatch WorkloadSection
  | .entries entries => entries.foldlM take {}
  | .items items => do
    let iterations ←
      element items 0 place (Node.count .word) (.ok Calibration.defaultIterations)
    return ⟨iterations⟩

/-- Takes one entry into the section on the log and ignores unknown ones. -/
def LoggingSection.take (part : LoggingSection) (entry : Key × Node) :
    Except Mismatch LoggingSection :=
  let (key, node) := entry
  if key.name = "level" then
    (node.located key.place Node.text).map fun level => { part with level := level }
  else .ok part

/-- The section on the log from its parts. -/
def LoggingSection.ofParts (place : Place) : Parts → Except Mismatch LoggingSection
  | .entries entries => entries.foldlM take {}
  | .items items => do
    let level ← element items 0 place Node.text (.ok defaultLevel)
    return ⟨level⟩

/-- Reads the value of an entry as a section. -/
def readSection {α : Type} (name : String) (ofParts : Place → Parts → Except Mismatch α)
    (entry : Key × Node) : Except Mismatch α := do
  let (key, node) := entry
  let place := node.place?.getD key.place
  let parts ← node.located key.place (Node.parts name)
  ofParts place parts

namespace FileSettings

/-- Takes one entry of a document and ignores unknown ones. -/
def take (settings : FileSettings) (entry : Key × Node) : Except Mismatch FileSettings :=
  if entry.1.name = "server" then
    (readSection "ServerConfig" ServerSection.ofParts entry).map fun part =>
      { settings with server := part }
  else if entry.1.name = "workload" then
    (readSection "WorkloadConfig" WorkloadSection.ofParts entry).map fun part =>
      { settings with workload := part }
  else if entry.1.name = "logging" then
    (readSection "LoggingConfig" LoggingSection.ofParts entry).map fun part =>
      { settings with logging := part }
  else .ok settings

/-- The settings that the entries of a document give, or the first of them that does not fit. -/
def ofEntries (entries : Entries) : Except Mismatch FileSettings :=
  entries.foldlM take {}

end FileSettings

/-- Why a text does not give settings. -/
inductive DocumentFault where
  /-- It is no document. -/
  | malformed
  /-- A value of the document does not fit. -/
  | mismatch (mismatch : Mismatch)
  deriving DecidableEq, Repr

/-- The settings that a text gives. -/
def FileSettings.read (text : String) : Except DocumentFault FileSettings :=
  match Document.read? text.toList with
  | none => .error .malformed
  | some entries => (FileSettings.ofEntries entries).mapError .mismatch

/-- What is reported of a text that does not give settings. -/
def DocumentFault.message (text : String) : DocumentFault → String
  | malformed => "TOML parse error"
  | mismatch found => (excerpt text.toList found.place).text found.misfit.message

end LoadServer
