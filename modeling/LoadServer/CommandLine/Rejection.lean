import LoadServer.CommandLine.Options
import LoadServer.Numeric.Count
import LoadServer.Text.Terminal

/-! Why a command line ends the program before it starts. -/

namespace LoadServer.CommandLine

/-- What is wrong with a command line. -/
inductive Rejection where
  /-- An argument is no option and no value of one. -/
  | unknown (argument : String)
  /-- An option has no value. -/
  | missingValue (option : ValueOption)
  /-- An option is given more than once. -/
  | repeated (named : Named)
  /-- The value of an option is no count. -/
  | badCount (option : ValueOption) (value : String) (fault : CountFault)
  /-- A value that has to be text is not well-formed. -/
  | notText
  /-- An option that takes no value is given one. -/
  | needlessValue (switch : Switch) (value : String)
  deriving DecidableEq, Repr

/-- A named option as it is shown. -/
def Named.shown : Named → String
  | .value option => option.shown
  | .switch found => found.shown

/-- What is reported of a rejected command line, whose arguments are shown as far as they reach a
screen. -/
def Rejection.message : Rejection → String
  | unknown argument => s!"error: unexpected argument '{Text.onScreen argument}' found"
  | missingValue option =>
    s!"error: a value is required for '{option.shown}' but none was supplied"
  | repeated named => s!"error: the argument '{named.shown}' cannot be used multiple times"
  | badCount option value fault =>
    s!"error: invalid value '{Text.onScreen value}' for '{option.shown}': {fault.message}"
  | notText => "error: invalid UTF-8 was detected in one or more arguments"
  | needlessValue switch value =>
    s!"error: unexpected value '{Text.onScreen value}' for '{switch.shown}' found" ++
      "; no more were expected"

/-- Why a command line does not lead to a run of the server. -/
inductive Stop where
  /-- It is rejected. -/
  | rejected (reason : Rejection)
  /-- It asks for the list of options. -/
  | help
  /-- It asks for the version. -/
  | version
  deriving DecidableEq, Repr

/-- The list of options. -/
def helpText : String :=
  "A synthetic CPU-bound load server\n" ++
  "\n" ++
  "Usage: spinload [OPTIONS]\n" ++
  "\n" ++
  "Options:\n" ++
  "  -c, --config <CONFIG>\n" ++
  "          Path to TOML configuration file\n" ++
  "  -l, --listen <LISTEN>\n" ++
  "          Address to bind to (e.g., 0.0.0.0:8080)\n" ++
  "  -n, --calibration-iterations <CALIBRATION_ITERATIONS>\n" ++
  "          Busy-loop iterations used to measure the calibration factor\n" ++
  "  -w, --workers <WORKERS>\n" ++
  "          Number of runtime worker threads (defaults to number of CPU cores)\n" ++
  "      --max-connections <MAX_CONNECTIONS>\n" ++
  "          Maximum number of concurrent connections (unbounded if unset)\n" ++
  "      --no-delay\n" ++
  "          Set TCP_NODELAY on accepted connections\n" ++
  "      --log-level <LOG_LEVEL>\n" ++
  "          Log level (trace, debug, info, warn, error) [default: info]\n" ++
  "  -h, --help\n" ++
  "          Print help\n" ++
  "  -V, --version\n" ++
  "          Print version\n"

/-- The name and the version of the program. -/
def versionText : String := "spinload 0.1.0\n"

namespace Stop

/-- What is printed. -/
def text : Stop → String
  | rejected reason => reason.message
  | help => helpText
  | version => versionText

/-- The exit code. -/
def exitCode : Stop → Nat
  | rejected _ => 2
  | help => 0
  | version => 0

/-- Whether the text goes to standard error. -/
def isFailure : Stop → Bool
  | rejected _ => true
  | help => false
  | version => false

end Stop

end LoadServer.CommandLine
