import LoadServer.Settings.Basic
import LoadServer.Settings.Folder

/-! Loading the settings of a run from its command line and the file named there. -/

namespace LoadServer

open CommandLine

/-- Why settings cannot be loaded. -/
inductive LoadFault where
  /-- The file cannot be read. -/
  | unreadable (path : RawText) (fault : IoFault)
  /-- The text of the file does not give settings. -/
  | unfit (path : RawText) (text : String) (fault : DocumentFault)
  /-- The settings are not accepted. -/
  | invalid (invalid : Settings.Invalid)
  deriving DecidableEq, Repr

namespace LoadFault

/-- What is reported to a reader. -/
def message : LoadFault → String
  | unreadable path fault =>
    s!"Failed to read config file '{path.lossy}': {fault.message}"
  | unfit path text fault =>
    s!"Failed to parse config file '{path.lossy}': {fault.message text}"
  | .invalid found => found.message

end LoadFault

/-- Why a program does not start with its command line. -/
inductive StartFault where
  /-- The command line ends it. -/
  | stopped (stop : Stop)
  /-- There are no settings. -/
  | unloaded (fault : LoadFault)
  deriving DecidableEq, Repr

namespace Settings

/-- Settings that are accepted. -/
def accepted (settings : Settings) : Except LoadFault Settings :=
  match settings.validate with
  | .error found => .error (.invalid found)
  | .ok () => .ok settings

/-- The settings that options give together with the file that they name, if they name one. -/
def ofOptions (options : Options) (readText : RawText → Except IoFault String) :
    Except LoadFault Settings :=
  match options.config with
  | none => accepted (merge options {})
  | some path =>
    match readText path with
    | .error fault => .error (.unreadable path fault)
    | .ok text =>
      match FileSettings.read text with
      | .error fault => .error (.unfit path text fault)
      | .ok file => accepted (merge options file)

/-- Loads the settings of a run that reads files in this way. -/
def load (arguments : List RawText) (readText : RawText → Except IoFault String) :
    Except StartFault Settings := do
  let options ← (CommandLine.read arguments).mapError .stopped
  (ofOptions options readText).mapError .unloaded

/-- Loads the settings of a run in a folder. -/
def loadIn (folder : Folder) (arguments : List RawText) : Except StartFault Settings :=
  load arguments folder.readText

end Settings

end LoadServer
