import LoadServer.Settings.Basic

/-!
The settings one by one: how each is written, how its value is read from either source, and where
it is kept.
-/

namespace LoadServer

open CommandLine Document

/-- A setting that can be given. -/
inductive Field where
  | listen
  | workers
  | maxConnections
  | nodelay
  | calibrationIterations
  | level
  deriving DecidableEq, Repr

namespace Field

/-- The type of the values of a setting. -/
abbrev Value : Field → Type
  | listen => String
  | workers => Option UInt64
  | maxConnections => Option UInt64
  | nodelay => Bool
  | calibrationIterations => UInt64
  | level => String

instance (field : Field) : DecidableEq field.Value :=
  match field with
  | listen => inferInstanceAs (DecidableEq String)
  | workers => inferInstanceAs (DecidableEq (Option UInt64))
  | maxConnections => inferInstanceAs (DecidableEq (Option UInt64))
  | nodelay => inferInstanceAs (DecidableEq Bool)
  | calibrationIterations => inferInstanceAs (DecidableEq UInt64)
  | level => inferInstanceAs (DecidableEq String)

/-- The value of a setting that nobody gives. -/
def default : (field : Field) → field.Value
  | listen => "0.0.0.0:8080"
  | workers => none
  | maxConnections => none
  | nodelay => false
  | calibrationIterations => 10000000
  | level => "info"

/-! ## In a document -/

/-- The heading of the section that a setting belongs to. -/
def heading : Field → String
  | listen => "server"
  | workers => "server"
  | maxConnections => "server"
  | nodelay => "server"
  | calibrationIterations => "workload"
  | level => "logging"

/-- The name of a setting in a section that is a table. -/
def name : Field → String
  | listen => "listen"
  | workers => "workers"
  | maxConnections => "max_connections"
  | nodelay => "nodelay"
  | calibrationIterations => "calibration_iterations"
  | level => "level"

/-- The position of a setting in a section that is an array. -/
def position : Field → Nat
  | listen => 0
  | workers => 1
  | maxConnections => 2
  | nodelay => 3
  | calibrationIterations => 0
  | level => 0

/-- Whether a setting may be missing in a section that is an array. -/
def mayBeMissing : Field → Bool
  | workers => false
  | maxConnections => false
  | _ => true

/-- Reads the value of a setting from a value in a document. -/
def ofNode : (field : Field) → Node → Except Misfit field.Value
  | listen => Node.text
  | workers => fun node => (node.count .size).map some
  | maxConnections => fun node => (node.count .size).map some
  | nodelay => Node.truth
  | calibrationIterations => Node.count .word
  | level => Node.text

/-- The value that the settings of a document hold. -/
def inFile (file : FileSettings) : (field : Field) → field.Value
  | listen => file.server.listen
  | workers => file.server.workers
  | maxConnections => file.server.maxConnections
  | nodelay => file.server.nodelay
  | calibrationIterations => file.workload.calibrationIterations
  | level => file.logging.level

/-! ## On the command line -/

/-- The option or switch that decides on a setting wherever it is given. There is none for the log
level, whose default on the command line gives way to the document's. -/
def decider? : Field → Option Named
  | listen => some (.value .listen)
  | workers => some (.value .workers)
  | maxConnections => some (.value .maxConnections)
  | nodelay => some (.switch .noDelay)
  | calibrationIterations => some (.value .calibrationIterations)
  | level => none

/-- Reads the value of a setting from the value of its option, of which a switch has none. -/
def ofArgument : (field : Field) → RawText → Except Rejection field.Value
  | listen => textValue
  | workers => fun value => (countValue .workers value).map some
  | maxConnections => fun value => (countValue .maxConnections value).map some
  | nodelay => fun _ => .ok true
  | calibrationIterations => countValue .calibrationIterations
  | level => textValue

/-- The value that options hold against a document, if they hold one. -/
def inOptions (options : Options) : (field : Field) → Option field.Value
  | listen => options.listen
  | workers => options.workers.map some
  | maxConnections => options.maxConnections.map some
  | nodelay => if options.noDelay then some true else none
  | calibrationIterations => options.calibrationIterations
  | level => if options.level = defaultLevel then none else some options.level

/-! ## In the settings of a run -/

/-- The value that the settings of a run hold. -/
def inSettings (settings : Settings) : (field : Field) → field.Value
  | listen => settings.listen
  | workers => settings.workers
  | maxConnections => settings.maxConnections
  | nodelay => settings.nodelay
  | calibrationIterations => settings.calibrationIterations
  | level => settings.logLevel

/-- What options hold of a setting goes before what a document holds. -/
theorem inSettings_merge (options : Options) (file : FileSettings) (field : Field) :
    field.inSettings (Settings.merge options file) =
      (field.inOptions options).getD (field.inFile file) := by
  -- Each setting is merged by itself, and in its own way.
  cases field with
  | listen => rfl
  | workers =>
    cases given : options.workers <;> simp [inSettings, inOptions, Settings.merge, given, inFile]
  | maxConnections =>
    cases given : options.maxConnections <;>
      simp [inSettings, inOptions, Settings.merge, given, inFile]
  | nodelay =>
    cases given : options.noDelay <;> simp [inSettings, inOptions, Settings.merge, given, inFile]
  | calibrationIterations => rfl
  | level =>
    by_cases default : options.level = defaultLevel <;>
      simp [inSettings, inOptions, Settings.merge, default, inFile]

/-- Settings that hold the same value for each setting are the same. -/
theorem ext_inSettings {settings other : Settings}
    (same : ∀ field : Field, field.inSettings settings = field.inSettings other) :
    settings = other := by
  -- A field reads its own place, so agreeing fields are agreeing places.
  obtain ⟨listen, iterations, workers, limit, nodelay, level⟩ := settings
  obtain rfl : listen = other.listen := same .listen
  obtain rfl : iterations = other.calibrationIterations := same .calibrationIterations
  obtain rfl : workers = other.workers := same .workers
  obtain rfl : limit = other.maxConnections := same .maxConnections
  obtain rfl : nodelay = other.nodelay := same .nodelay
  obtain rfl : level = other.logLevel := same .level
  rfl

end Field

end LoadServer
