import LoadServer.Log.Rule

/-! Which records the log shows. -/

namespace LoadServer

/-- The rules on what the log shows. -/
structure LogFilter where
  rules : List LogRule
  deriving DecidableEq, Repr

/-- What comes of the text of a filter in which not every piece has to be a rule. -/
structure FilterReading where
  /-- The filter, unless its text cannot be cut into the parts of rules. -/
  filter? : Option LogFilter
  /-- What is reported of pieces that are no rules. -/
  complaints : List String
  deriving DecidableEq, Repr

namespace LogFilter

/-- The pieces of a text between its commas, without empty ones. -/
def pieces (text : String) : List (List Char) :=
  (text.toList.splitOn ',').filter fun piece => !piece.isEmpty

/-- The filter of a text of which every piece is a rule, or the fault of the first piece that is
none. -/
def read (text : String) : Except RuleFault LogFilter :=
  ((pieces text).mapM LogRule.read).map LogFilter.mk

/-- Only failures are shown where there is no rule. -/
def ofRules (rules : List LogRule) : LogFilter :=
  ⟨if rules.isEmpty then [{ threshold := Severity.error.rank }] else rules⟩

/-- What is reported of a piece that is no rule. -/
def complaint (piece : List Char) (fault : RuleFault) : String :=
  "ignoring `" ++ String.ofList piece ++ "`: " ++ fault.message

/-- The filter of the pieces of a text that are rules. -/
def readSome (text : String) : FilterReading :=
  let readings := (pieces text).map fun piece => (piece, LogRule.read piece)
  let isWhole := fun (reading : List Char × Except RuleFault LogRule) =>
    match reading.2 with
    | .error .splitCharacter => false
    | _ => true
  { filter? :=
      if readings.all isWhole then some (ofRules (readings.filterMap (·.2.toOption))) else none
    complaints := (readings.takeWhile isWhole).filterMap fun (piece, result) =>
      match result with
      | .ok _ => none
      | .error fault => some (complaint piece fault) }

/-- Of the rules that cover a record the foremost one counts, and of equal ones the last. -/
def ruleFor (filter : LogFilter) (entry : LogRecord) : Option LogRule :=
  (filter.rules.filter (·.covers entry)).foldl (fun best rule =>
    match best with
    | none => some rule
    | some other => if rule.isAtLeast other then some rule else best) none

/-- Whether a record is shown. -/
def shows (filter : LogFilter) (entry : LogRecord) : Bool :=
  match filter.ruleFor entry with
  | none => false
  | some rule => decide (entry.severity.rank ≤ rule.threshold)

/-- The lines of the records that are shown. -/
def lines (filter : LogFilter) (records : List LogRecord) : List String :=
  (records.filter filter.shows).map LogRecord.line

end LogFilter

end LoadServer
