import LoadServer.CommandLine.Reader
import LoadServer.Numeric.Decimal

/-! The choices that a command line can make, and the ways in which each of them is written. -/

namespace LoadServer.CommandLine

/-- An option that is chosen, with its value if it takes one. -/
inductive Choice where
  | config (path : RawText)
  | listen (address : String)
  | calibrationIterations (count : UInt64)
  | workers (count : UInt64)
  | maxConnections (count : UInt64)
  | noDelay
  | logLevel (level : String)
  deriving DecidableEq, Repr

namespace Choice

/-- The option that is chosen. -/
def named : Choice → Named
  | config _ => .value .config
  | listen _ => .value .listen
  | calibrationIterations _ => .value .calibrationIterations
  | workers _ => .value .workers
  | maxConnections _ => .value .maxConnections
  | noDelay => .switch .noDelay
  | logLevel _ => .value .logLevel

/-- A count in decimal. -/
def countText (count : UInt64) : RawText :=
  (Decimal.digits count.toNat).map .char

/-- The text of the value, of which a switch has none. -/
def valueText : Choice → RawText
  | config path => path
  | listen address => RawText.ofString address
  | calibrationIterations count => countText count
  | workers count => countText count
  | maxConnections count => countText count
  | noDelay => []
  | logLevel level => RawText.ofString level

/-- Options with one more that is chosen. -/
def addTo (options : Options) : Choice → Options
  | config path => { options with config := some path }
  | listen address => { options with listen := some address }
  | calibrationIterations count => { options with calibrationIterations := some count }
  | workers count => { options with workers := some count }
  | maxConnections count => { options with maxConnections := some count }
  | noDelay => { options with noDelay := true }
  | logLevel level => { options with logLevel := some level }

end Choice

/-- The options that some choices make. -/
def Options.ofChoices (choices : List Choice) : Options :=
  choices.foldl Choice.addTo {}

/-- How an option and its value are put into arguments. -/
inductive Spelling where
  /-- The long name, an equals sign and the value. -/
  | longJoined
  /-- The long name, and the value as an argument of its own. -/
  | longApart
  /-- The short name, an equals sign and the value. -/
  | shortJoined
  /-- The short name with the value right after it. -/
  | shortAttached
  /-- The short name, and the value as an argument of its own. -/
  | shortApart
  deriving DecidableEq, Repr

namespace Spelling

/-- A long name with its dashes. -/
def longName (name : String) : RawText :=
  .char '-' :: .char '-' :: RawText.ofString name

/-- A short name with its dash. -/
def shortName (name : Char) : RawText :=
  [.char '-', .char name]

/-- Whether a value cannot be taken for an option. -/
def standsAlone (value : RawText) : Bool :=
  value.head? != some (.char '-')

/-- Whether a value can follow a short name at once. -/
def attaches (value : RawText) : Bool :=
  !value.isEmpty && value.head? != some (.char '=')

/-- The arguments that give a value to an option, if they can be spelled in this way. -/
def arguments? (spelling : Spelling) (option : ValueOption) (value : RawText) :
    Option (List RawText) :=
  match spelling with
  | .longJoined => some [longName option.long ++ .char '=' :: value]
  | .longApart => if standsAlone value then some [longName option.long, value] else none
  | .shortJoined => option.short?.map fun name => [shortName name ++ .char '=' :: value]
  | .shortAttached =>
    if attaches value then option.short?.map fun name => [shortName name ++ value] else none
  | .shortApart =>
    if standsAlone value then option.short?.map fun name => [shortName name, value] else none

end Spelling

/-- The arguments that make a choice, if they can be spelled in this way. -/
def Choice.arguments? (choice : Choice) (spelling : Spelling) : Option (List RawText) :=
  match choice.named with
  | .value option => spelling.arguments? option choice.valueText
  | .switch switch => some [Spelling.longName switch.long]

/-- The arguments that make some choices one after another, each in its own spelling. -/
def arguments? (choices : List (Choice × Spelling)) : Option (List RawText) :=
  (choices.mapM fun (choice, spelling) => Choice.arguments? choice spelling).map List.flatten

end LoadServer.CommandLine
