import LoadServer.CommandLine.Reader
import LoadServer.Settings.File

/-! The settings of a run: those of the command line, else those of a document, else defaults. -/

namespace LoadServer

open CommandLine

/-- The settings of a run. -/
structure Settings where
  /-- The address to bind to. -/
  listen : String := defaultListen
  /-- The sample size of the calibration. -/
  calibrationIterations : UInt64 := Calibration.defaultIterations
  /-- The number of worker threads, or one for every processor. -/
  workers : Option UInt64 := none
  /-- How many connections are served at once, or any number of them. -/
  maxConnections : Option UInt64 := none
  /-- Whether small packets are sent without delay. -/
  nodelay : Bool := false
  /-- What the log shows. -/
  logLevel : String := defaultLevel
  deriving DecidableEq, Repr

namespace Settings

/-- Settings of the command line go before those of a document, and the default level on the
command line gives way to the document's. -/
def merge (options : Options) (file : FileSettings) : Settings where
  listen := options.listen.getD file.server.listen
  calibrationIterations :=
    options.calibrationIterations.getD file.workload.calibrationIterations
  workers := options.workers <|> file.server.workers
  maxConnections := options.maxConnections <|> file.server.maxConnections
  nodelay := options.noDelay || file.server.nodelay
  logLevel := if options.level ≠ defaultLevel then options.level else file.logging.level

/-- The settings that must not be zero. -/
inductive Invalid where
  | calibrationIterations
  | maxConnections
  | workers
  deriving DecidableEq, Repr

/-- Why settings are not accepted. -/
def Invalid.reason : Invalid → String
  | calibrationIterations => "calibration_iterations must be greater than zero"
  | maxConnections => "max_connections must be greater than zero"
  | workers => "workers must be greater than zero"

/-- What is reported of settings that are not accepted. -/
def Invalid.message (invalid : Invalid) : String :=
  "Invalid configuration: " ++ invalid.reason

/-- Accepts settings in which no count is zero, or tells the first one that is. -/
def validate (settings : Settings) : Except Invalid Unit :=
  if settings.calibrationIterations = 0 then .error .calibrationIterations
  else if settings.maxConnections = some 0 then .error .maxConnections
  else if settings.workers = some 0 then .error .workers
  else .ok ()

/-- The settings that options and the text of a document give together. -/
def resolve (options : Options) (text : Option String) : Except DocumentFault Settings :=
  match text with
  | none => .ok (merge options {})
  | some text => (FileSettings.read text).map (merge options)

end Settings

end LoadServer
