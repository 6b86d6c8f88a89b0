import LoadServer.Settings.Defaults
import LoadServer.Text.Raw

/-! The options of the command line and their names. -/

namespace LoadServer.CommandLine

/-- The options that take a value. -/
inductive ValueOption where
  | config
  | listen
  | calibrationIterations
  | workers
  | maxConnections
  | logLevel
  deriving DecidableEq, Repr

/-- The options that take no value. -/
inductive Switch where
  | noDelay
  | help
  | version
  deriving DecidableEq, Repr

namespace ValueOption

/-- Every option that takes a value. -/
def all : List ValueOption :=
  [config, listen, calibrationIterations, workers, maxConnections, logLevel]

/-- The long name, written after two dashes. -/
def long : ValueOption → String
  | config => "config"
  | listen => "listen"
  | calibrationIterations => "calibration-iterations"
  | workers => "workers"
  | maxConnections => "max-connections"
  | logLevel => "log-level"

/-- The short name, written after one dash, where there is one. -/
def short? : ValueOption → Option Char
  | config => some 'c'
  | listen => some 'l'
  | calibrationIterations => some 'n'
  | workers => some 'w'
  | maxConnections => none
  | logLevel => none

/-- The word that stands for the value. -/
def placeholder : ValueOption → String
  | config => "CONFIG"
  | listen => "LISTEN"
  | calibrationIterations => "CALIBRATION_ITERATIONS"
  | workers => "WORKERS"
  | maxConnections => "MAX_CONNECTIONS"
  | logLevel => "LOG_LEVEL"

/-- An option as it is shown with its value. -/
def shown (option : ValueOption) : String :=
  "--" ++ option.long ++ " <" ++ option.placeholder ++ ">"

end ValueOption

namespace Switch

/-- Every option that takes no value. -/
def all : List Switch := [noDelay, help, version]

/-- The long name, written after two dashes. -/
def long : Switch → String
  | noDelay => "no-delay"
  | help => "help"
  | version => "version"

/-- The short name, written after one dash, where there is one. -/
def short? : Switch → Option Char
  | noDelay => none
  | help => some 'h'
  | version => some 'V'

/-- An option as it is shown. -/
def shown (switch : Switch) : String := "--" ++ switch.long

end Switch

/-- What a name on the command line stands for. -/
inductive Named where
  | value (option : ValueOption)
  | switch (switch : Switch)
  deriving DecidableEq, Repr

namespace Named

/-- The option with a long name. -/
def ofLong? (name : String) : Option Named :=
  ((ValueOption.all.find? fun option => option.long = name).map value) <|>
    ((Switch.all.find? fun switch => switch.long = name).map switch)

/-- The option with a short name. -/
def ofShort? (name : Char) : Option Named :=
  ((ValueOption.all.find? fun option => option.short? = some name).map value) <|>
    ((Switch.all.find? fun switch => switch.short? = some name).map switch)

end Named

/-- What a command line asks for. -/
structure Options where
  /-- The path of the settings file. -/
  config : Option RawText := none
  listen : Option String := none
  calibrationIterations : Option UInt64 := none
  workers : Option UInt64 := none
  maxConnections : Option UInt64 := none
  noDelay : Bool := false
  logLevel : Option String := none
  deriving DecidableEq, Repr

/-- The log level asked for, or the default one. -/
def Options.level (options : Options) : String :=
  options.logLevel.getD defaultLevel

end LoadServer.CommandLine
