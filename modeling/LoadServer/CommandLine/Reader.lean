import LoadServer.CommandLine.Rejection

/-! Reading a command line from left to right. -/

namespace LoadServer.CommandLine

/-- The form of one argument. -/
inductive Form where
  /-- Two dashes alone, after which no option is looked for. -/
  | separator
  /-- A long name with the value written after an equals sign, if there is one. -/
  | long (name : RawText) (value : Option RawText)
  /-- A short name and what is written after it. -/
  | short (first : Piece) (after : RawText)
  /-- Anything else. -/
  | plain
  deriving DecidableEq, Repr

/-- The part before the first equals sign, and the part after it if there is one. -/
def splitEquals : RawText → RawText × Option RawText
  | [] => ([], none)
  | piece :: rest =>
    if piece = .char '=' then ([], some rest)
    else
      let (name, value) := splitEquals rest
      (piece :: name, value)

/-- The form of an argument. -/
def Form.of : RawText → Form
  | [.char '-', .char '-'] => .separator
  | .char '-' :: .char '-' :: rest =>
    let (name, value) := splitEquals rest
    .long name value
  | .char '-' :: first :: after => .short first after
  | _ => .plain

/-- The value written right after a short name, where an equals sign may come first. -/
def attached : RawText → Option RawText
  | [] => none
  | .char '=' :: value => some value
  | value => some value

/-- The text of a value. -/
def textValue (value : RawText) : Except Rejection String :=
  match value.text? with
  | none => .error .notText
  | some text => .ok text

/-- The count that a value spells. -/
def countValue (option : ValueOption) (value : RawText) : Except Rejection UInt64 := do
  let text ← textValue value
  match Count.readWord text with
  | .error fault => .error (.badCount option text fault)
  | .ok count => .ok count

/-- Whether an option has a value already. -/
def Options.has (options : Options) : ValueOption → Bool
  | .config => options.config.isSome
  | .listen => options.listen.isSome
  | .calibrationIterations => options.calibrationIterations.isSome
  | .workers => options.workers.isSome
  | .maxConnections => options.maxConnections.isSome
  | .logLevel => options.logLevel.isSome

/-- Gives an option its value, once. -/
def Options.store (options : Options) (option : ValueOption) (value : RawText) :
    Except Rejection Options :=
  if options.has option then .error (.repeated (.value option))
  else
    match option with
    | .config =>
      if value.isEmpty then .error (.missingValue .config)
      else .ok { options with config := some value }
    | .listen => (textValue value).map fun text => { options with listen := some text }
    | .calibrationIterations => (countValue .calibrationIterations value).map fun count =>
      { options with calibrationIterations := some count }
    | .workers => (countValue .workers value).map fun count =>
      { options with workers := some count }
    | .maxConnections => (countValue .maxConnections value).map fun count =>
      { options with maxConnections := some count }
    | .logLevel => (textValue value).map fun text => { options with logLevel := some text }

/-- An option that is still open: its value has not come yet, or has come and not been read. -/
structure Awaiting where
  option : ValueOption
  value : Option RawText
  deriving DecidableEq, Repr

/-- How far a command line has been read. -/
structure Progress where
  options : Options := {}
  awaiting : Option Awaiting := none
  deriving DecidableEq, Repr

/-- Reads the value of the open option, if there is one. -/
def Progress.settle (progress : Progress) : Except Rejection Options :=
  match progress.awaiting with
  | none => .ok progress.options
  | some ⟨option, none⟩ => .error (.missingValue option)
  | some ⟨option, some value⟩ => progress.options.store option value

/-- Acts on an option that takes no value. -/
def Options.turnOn (options : Options) : Switch → Except Stop Options
  | .help => .error .help
  | .version => .error .version
  | .noDelay =>
    if options.noDelay then .error (.rejected (.repeated (.switch .noDelay)))
    else .ok { options with noDelay := true }

/-- Acts on a named option with the value attached to it, if there is one. -/
def Progress.take (progress : Progress) (named : Named) (value : Option RawText) :
    Except Stop Progress := do
  let options ← progress.settle.mapError .rejected
  match named, value with
  | .switch switch, _ => return { options := ← options.turnOn switch }
  | .value option, some value =>
    return { options := ← (options.store option value).mapError .rejected }
  | .value option, none => return { options := options, awaiting := some ⟨option, none⟩ }

/-- Reads one argument that is not the separator. -/
def Progress.step (progress : Progress) (argument : RawText) : Except Stop Progress :=
  match Form.of argument with
  | .long name value =>
    match name.text?.bind Named.ofLong?, value with
    | none, _ => .error (.rejected (.unknown ("--" ++ name.lossy)))
    | some (.switch switch), some value =>
      .error (.rejected (.needlessValue switch value.lossy))
    | some named, value => progress.take named value
  | .short (.broken bytes) after =>
    .error (.rejected (.unknown ("-" ++ RawText.lossy (.broken bytes :: after))))
  | .short (.char first) after =>
    match Named.ofShort? first with
    | none => .error (.rejected (.unknown (String.ofList ['-', first])))
    | some named => progress.take named (attached after)
  | .separator | .plain =>
    match progress.awaiting with
    | some ⟨option, none⟩ => .ok { progress with awaiting := some ⟨option, some argument⟩ }
    | _ => .error (.rejected (.unknown argument.lossy))

/-- Reads the arguments that are left. -/
def Progress.run (progress : Progress) : List RawText → Except Stop Options
  | [] => progress.settle.mapError .rejected
  | argument :: rest =>
    if Form.of argument = .separator then
      match rest with
      | [] => progress.settle.mapError .rejected
      | extra :: _ => .error (.rejected (.unknown extra.lossy))
    else do
      let next ← progress.step argument
      next.run rest

/-- Reads a command line. -/
def read (arguments : List RawText) : Except Stop Options :=
  Progress.run {} arguments

end LoadServer.CommandLine
