import LoadServer.Log.Filter
import LoadServer.Server.Script
import LoadServer.Settings.Load

/-! A run of the program: from its command line to a server at its address, or to its end. -/

namespace LoadServer

open CommandLine

/-- What a program is started with. -/
structure Invocation where
  arguments : List RawText
  /-- What reading a file gives. -/
  readText : RawText → Except IoFault String
  /-- The rules on the log that the environment gives, if it gives any. -/
  logRules : Option String := none
  host : Host := {}

/-- How a run has ended. -/
structure Ending where
  exitCode : Nat
  /-- What was written to standard output. -/
  output : List String := []
  /-- What was written to standard error. -/
  errors : List String := []
  deriving DecidableEq, Repr

/-- A server that has been bound to its address. -/
structure Running where
  server : Server
  address : Endpoint
  filter : LogFilter
  /-- The host with the address taken. -/
  host : Host
  /-- What has been reported so far. -/
  records : List LogRecord

/-- What a run has come to. -/
inductive Outcome where
  | ended (ending : Ending)
  | running (running : Running)

namespace Program

/-- A failure of input or output with all that is known of it. -/
def ioDetail : IoFault → String
  | .worded kind text =>
    "Error \x7b kind: " ++ kind.name ++ ", message: " ++ Text.quoted text ++ " \x7d"
  | .system fault =>
    s!"Os \x7b code: {fault.code}, kind: {fault.kind.name}, message: " ++
      Text.quoted fault.text ++ " \x7d"

/-- Why settings cannot be loaded, with all that is known of it. -/
def loadDetail : LoadFault → String
  | .unreadable path fault => "FileRead(" ++ path.quoted ++ ", " ++ ioDetail fault ++ ")"
  | .unfit path text fault =>
    "TomlParse(" ++ path.quoted ++ ", " ++ Text.quoted (fault.message text) ++ ")"
  | .invalid found => "Invalid(" ++ Text.quoted found.reason ++ ")"

/-- The last words of a program that fails. -/
def lastWords (detail : String) : String := "Error: " ++ detail

/-- The end of a program that its command line stops. -/
def stopped (stop : Stop) : Ending :=
  if stop.isFailure then { exitCode := stop.exitCode, errors := [stop.text] }
  else { exitCode := stop.exitCode, output := [stop.text] }

/-- The end of a program that has no settings to start with. -/
def unstarted : StartFault → Ending
  | .stopped stop => stopped stop
  | .unloaded fault => { exitCode := 1, errors := [lastWords (loadDetail fault)] }

/-- The filter of the log: the environment's if all its rules can be read, else the settings'. -/
def filterOf (logRules : Option String) (settings : Settings) : FilterReading :=
  match logRules.map LogFilter.read with
  | some (.ok filter) => ⟨some filter, []⟩
  | some (.error .splitCharacter) => ⟨none, []⟩
  | some (.error _) | none => LogFilter.readSome settings.logLevel

/-- The record of a program that starts. -/
def starting (settings : Settings) : LogRecord :=
  .starting settings.listen settings.calibrationIterations settings.workers
    settings.maxConnections settings.nodelay

/-- The exit code of a program that gives up at once. -/
def abortCode : Nat := 101

/-- The most workers that can be counted in memory, with eight bytes for each. -/
def mostWorkers : UInt64 := 0xFFFFFFFFFFFFFFF

/-- Whether a program asks for more workers than can be counted. -/
def isOvermanned (settings : Settings) : Bool :=
  (settings.workers.map fun workers => decide (mostWorkers < workers)).getD false

/-- The last words of a program that asks for too many workers. -/
def tooManyWorkers : String := "capacity overflow"

/-- The last words of a program that has no filter for its log. -/
def noFilter : String := RuleFault.splitCharacter.message

/-- A program with its settings, on a host with this factor. -/
def start (invocation : Invocation) (settings : Settings) (factor : Factor) : Outcome :=
  let ⟨filter?, complaints⟩ := filterOf invocation.logRules settings
  let records := [starting settings, .calibrated factor]
  match filter? with
  | none => .ended ⟨abortCode, [], complaints ++ [noFilter]⟩
  | some filter =>
    if isOvermanned settings then
      .ended ⟨abortCode, filter.lines records, complaints ++ [tooManyWorkers]⟩
    else
      match Server.create settings factor with
      | .error fault =>
        .ended ⟨abortCode, filter.lines records, complaints ++ [fault.message]⟩
      | .ok server =>
        match invocation.host.bind settings.listen with
        | .error fault =>
          .ended ⟨1, filter.lines (records ++ [.failed fault]),
            complaints ++ [lastWords (ioDetail fault)]⟩
        | .ok (address, host) =>
          .running ⟨server, address, filter, host, records ++ [.listening address]⟩

/-- Runs the program on a host with this factor. -/
def run (invocation : Invocation) (factor : Factor) : Outcome :=
  match Settings.load invocation.arguments invocation.readText with
  | .error fault => .ended (unstarted fault)
  | .ok settings => start invocation settings factor

end Program

end LoadServer
