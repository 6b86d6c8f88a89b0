import LoadServer.Proofs.CommandLine.Given
import LoadServer.Proofs.Settings.Schema

/-!
How the command line lies over a document, and a document over the defaults. Main statement: a
setting other than the log level has the value of its option if that occurs, else the documented
one, and settings are accepted exactly if none of the three counts among them is zero.
-/

namespace LoadServer

open CommandLine Document

namespace Field

/-- A setting has one value at most that is read from what is found for it. -/
theorem IsRead.unique {field : Field} {found : Option Node} {value other : field.Value}
    (read : field.IsRead found value) (same : field.IsRead found other) : value = other := by
  -- A node is read into one value, and a missing one has its default.
  unfold IsRead at read same
  cases found with
  | none => exact read.trans same.symm
  | some node => exact Except.ok.inj (read.symm.trans same)

variable {arguments : List RawText} {options : Options} {field : Field}

/-- The value that the command line gives to the option of a setting is held by the options. -/
theorem inOptions_of_gives (accepted : CommandLine.read arguments = .ok options)
    {option : ValueOption} (decides : field.decider? = some (.value option)) {given : RawText}
    (gives : Gives option given arguments) :
    ∃ value, field.ofArgument given = .ok value ∧ field.inOptions options = some value := by
  -- The option reads the value as its choice, which the options hold in the end.
  obtain ⟨choice, chosen, holds⟩ := holds_of_gives accepted gives
  have held := Options.holds_iff.mp holds
  cases field <;> cases decides
  all_goals
    obtain ⟨value, read, rfl⟩ := map_eq_ok_iff.mp chosen
    simp_all [ofArgument, inOptions]

/-- The options hold nothing of a setting whose option is not given. -/
theorem inOptions_eq_none (accepted : CommandLine.read arguments = .ok options)
    {option : ValueOption} (decides : field.decider? = some (.value option))
    (without : ∀ given, ¬ Gives option given arguments) : field.inOptions options = none := by
  -- An option that no argument gives has no value among the options.
  have free := has_eq_false_of_not_gives accepted without
  cases field <;> cases decides <;> simp_all [inOptions, Options.has]

/-! ## One layer over another -/

variable {text : Option String} {settings : Settings}

/-- A setting has the value that the command line gives to an option, and the documented value where
the command line gives none. -/
def IsLayered (field : Field) (option : ValueOption) (arguments : List RawText)
    (text : Option String) (value : field.Value) : Prop :=
  (∀ given, Gives option given arguments → field.ofArgument given = .ok value) ∧
    ((∀ given, ¬ Gives option given arguments) → field.IsDocumented text value)

/-- A setting is overridden if its option or switch occurs on the command line. -/
def IsOverridden (field : Field) (arguments : List RawText) : Prop :=
  ∃ named, field.decider? = some named ∧ Occurs named arguments

/-- A setting with an option of its own is layered. -/
theorem isLayered_of_resolve (field : Field) (accepted : CommandLine.read arguments = .ok options)
    (resolved : Settings.resolve options text = .ok settings) {option : ValueOption}
    (decides : field.decider? = some (.value option)) :
    field.IsLayered option arguments text (field.inSettings settings) := by
  obtain ⟨file, rfl, documented⟩ := Settings.exists_file_of_resolve resolved
  rw [inSettings_merge]
  constructor
  · -- What the options hold goes first.
    intro given gives
    obtain ⟨value, read, held⟩ := inOptions_of_gives accepted decides gives
    rw [held, read]
    rfl
  · -- Where they hold nothing, the document is left.
    intro without
    rw [inOptions_eq_none accepted decides without]
    exact documented field

/-- The options hold a value of each setting that is overridden. -/
theorem IsOverridden.exists_inOptions (overridden : field.IsOverridden arguments)
    (accepted : CommandLine.read arguments = .ok options) :
    ∃ value, field.inOptions options = some value := by
  obtain ⟨named, decides, occurs⟩ := overridden
  cases named with
  | value option =>
    obtain ⟨given, gives⟩ := occurs
    obtain ⟨value, -, held⟩ := inOptions_of_gives accepted decides gives
    exact ⟨value, held⟩
  | switch switch =>
    -- The one switch that decides on a setting turns it on.
    cases field <;> cases decides
    have on := (noDelay_iff_occurs accepted).mpr occurs
    exact ⟨true, by simp [inOptions, on]⟩

end Field

namespace Settings

variable {arguments : List RawText} {options : Options} {text : Option String}
variable {settings : Settings}

/-- Packets are sent without delay if the switch for it occurs or the document says so. -/
theorem nodelay_iff_of_resolve (accepted : CommandLine.read arguments = .ok options)
    (resolved : resolve options text = .ok settings) :
    settings.nodelay = true ↔
      Occurs (.switch .noDelay) arguments ∨ Field.nodelay.IsDocumented text true := by
  obtain ⟨file, rfl, documented⟩ := exists_file_of_resolve resolved
  -- A document says one thing only.
  have inFile : file.server.nodelay = true ↔ Field.nodelay.IsDocumented text true := by
    constructor
    · intro on
      rw [← on]
      exact documented .nodelay
    · intro on
      exact Field.IsRead.unique (documented .nodelay) on
  rw [← noDelay_iff_occurs accepted, ← inFile]
  simp [merge]

/-- The settings that an accepted document gives are kept when it is replaced by another one that
every setting fits into, if the two agree on each setting that is not overridden. -/
theorem resolve_of_agrees (accepted : CommandLine.read arguments = .ok options)
    (resolved : resolve options text = .ok settings) {other : String} {entries : Entries}
    (read : Document.read? other.toList = some entries)
    (fits : ∀ field : Field, field.Fits entries)
    (agrees : ∀ field : Field, field.IsOverridden arguments ∨
      ∀ value, field.IsDocumented text value → field.IsDocumented (some other) value) :
    resolve options (some other) = .ok settings := by
  obtain ⟨file, rfl, documented⟩ := exists_file_of_resolve resolved
  -- The other document is accepted, whatever the options hold.
  obtain ⟨changed, taken⟩ := exists_ofEntries fits
  have given : FileSettings.read other = .ok changed := by
    simp only [FileSettings.read, read]
    exact mapError_eq_ok_iff.mpr taken
  refine map_eq_ok_iff.mpr ⟨changed, given, ?_⟩
  -- Each setting is held by the options or is the same in both documents.
  refine Field.ext_inSettings fun field => ?_
  rw [Field.inSettings_merge, Field.inSettings_merge]
  obtain overridden | same := agrees field
  · obtain ⟨value, held⟩ := overridden.exists_inOptions accepted
    rw [held, Option.getD_some, Option.getD_some]
  · have unchanged : field.inFile changed = field.inFile file :=
      Field.IsRead.unique (Field.isDocumented_of_read given field) (same _ (documented field))
    rw [unchanged]

/-! ## Counts that must not be zero -/

/-- The settings that must not be zero, in the order in which they are checked. -/
def Invalid.all : List Invalid := [calibrationIterations, maxConnections, workers]

/-- Whether a setting that must not be zero is zero. -/
def isZero (settings : Settings) : Invalid → Bool
  | .calibrationIterations => settings.calibrationIterations == 0
  | .maxConnections => settings.maxConnections == some 0
  | .workers => settings.workers == some 0

/-- The first setting that is zero is reported. -/
theorem validate_eq_error_iff {invalid : Invalid} :
    settings.validate = .error invalid ↔ Invalid.all.find? settings.isZero = some invalid := by
  -- The checks are made in the order of the list.
  unfold validate
  split_ifs with iterations limit workers
  · simp [Invalid.all, isZero, iterations]
  · simp [Invalid.all, isZero, iterations, limit]
  · simp [Invalid.all, isZero, iterations, limit, workers]
  · simp [Invalid.all, isZero, iterations, limit, workers]

/-- Settings are accepted if none of the counts is zero. -/
theorem validate_eq_ok_iff :
    settings.validate = .ok () ↔ settings.calibrationIterations ≠ 0 ∧
      settings.maxConnections ≠ some 0 ∧ settings.workers ≠ some 0 := by
  -- The three checks come one after the other, and each refuses a zero.
  unfold validate
  split_ifs with iterations limit workers <;> simp [*]

/-- The settings of a run lie in layers. Each setting with an option has the value of that option if
it occurs, else the value that the document gives, else its default; a switch and a document both
turn their setting on. The settings are accepted if no count among them is zero, and else the first
zero is reported. What a document says of a setting that is overridden makes no difference, as long
as it is of the right type. -/
theorem layered_of_resolve (accepted : CommandLine.read arguments = .ok options)
    (resolved : resolve options text = .ok settings) :
    (∀ (field : Field) option, field.decider? = some (.value option) →
      field.IsLayered option arguments text (field.inSettings settings)) ∧
    (settings.nodelay = true ↔
      Occurs (.switch .noDelay) arguments ∨ Field.nodelay.IsDocumented text true) ∧
    (settings.validate = .ok () ↔ settings.calibrationIterations ≠ 0 ∧
      settings.maxConnections ≠ some 0 ∧ settings.workers ≠ some 0) ∧
    (∀ invalid, settings.validate = .error invalid ↔
      Invalid.all.find? settings.isZero = some invalid) ∧
    (∀ (other : String) entries, Document.read? other.toList = some entries →
      (∀ field : Field, field.Fits entries) →
      (∀ field : Field, field.IsOverridden arguments ∨
        ∀ value, field.IsDocumented text value → field.IsDocumented (some other) value) →
      resolve options (some other) = .ok settings) := by
  -- The parts of the statement are the lemmas above, one for each.
  refine ⟨fun field option decides => ?_, ?_, ?_, fun invalid => ?_, ?_⟩
  · exact field.isLayered_of_resolve accepted resolved decides
  · exact nodelay_iff_of_resolve accepted resolved
  · exact validate_eq_ok_iff
  · exact validate_eq_error_iff
  · intro other entries read fits agrees
    exact resolve_of_agrees accepted resolved read fits agrees

/-- A zero in a document makes no difference where the command line gives another value. -/
theorem layered_of_resolve_over_zero :
    let arguments := [RawText.ofString "-n", RawText.ofString "5000", RawText.ofString "--no-delay"]
    let text := "[server]\nmax_connections = 8\n[workload]\ncalibration_iterations = 2000000\n"
    let other := "[server]\nmax_connections = 8\n[workload]\ncalibration_iterations = 0\n"
    ∃ options settings, CommandLine.read arguments = .ok options ∧
      resolve options (some text) = .ok settings ∧
      settings.listen = "0.0.0.0:8080" ∧ settings.calibrationIterations = 5000 ∧
      settings.maxConnections = some 8 ∧ settings.nodelay = true ∧
      settings.validate = .ok () ∧ resolve options (some other) = .ok settings := by
  intro arguments text other
  let options : Options := { calibrationIterations := some 5000, noDelay := true }
  have accepted : CommandLine.read arguments = .ok options := rfl
  have fitsText : (resolve options (some text)).toOption.isSome = true := by decide +kernel
  cases resolved : resolve options (some text) with
  | error fault => simp [resolved, Except.toOption] at fitsText
  | ok settings =>
    obtain ⟨layered, nodelay, valid, -, replaced⟩ := layered_of_resolve accepted resolved
    -- What occurs on the command line, and what does not.
    have iterations : Gives .calibrationIterations (RawText.ofString "5000") arguments :=
      ⟨_, .shortApart rfl, (List.prefix_append _ [RawText.ofString "--no-delay"]).isInfix⟩
    have switched : Occurs (.switch .noDelay) arguments := .tail _ (.tail _ (.head _))
    have without (field : Field) {option : ValueOption}
        (decides : field.decider? = some (.value option))
        (nothing : field.inOptions options = none) (given : RawText) :
        ¬ Gives option given arguments := by
      intro gives
      obtain ⟨value, -, held⟩ := Field.inOptions_of_gives accepted decides gives
      cases nothing.symm.trans held
    have same {field : Field} {found : field.Value}
        (before : field.IsDocumented (some text) found)
        (after : field.IsDocumented (some other) found) (value : field.Value)
        (documented : field.IsDocumented (some text) value) :
        field.IsDocumented (some other) value := by
      rw [Field.IsRead.unique documented before]
      exact after
    -- What the two documents say of the settings that do not occur.
    have before : Field.listen.IsDocumented (some text) "0.0.0.0:8080" ∧
        Field.workers.IsDocumented (some text) none ∧
        Field.maxConnections.IsDocumented (some text) (some 8) ∧
        Field.level.IsDocumented (some text) "info" := by decide +kernel
    have after : Field.listen.IsDocumented (some other) "0.0.0.0:8080" ∧
        Field.workers.IsDocumented (some other) none ∧
        Field.maxConnections.IsDocumented (some other) (some 8) ∧
        Field.level.IsDocumented (some other) "info" := by decide +kernel
    -- Each setting has the value of its uppermost layer.
    have listen : settings.listen = "0.0.0.0:8080" :=
      ((layered .listen _ rfl).2 (without .listen rfl rfl)).unique before.1
    have count : settings.calibrationIterations = 5000 :=
      (Except.ok.inj ((layered .calibrationIterations _ rfl).1 _ iterations)).symm
    have workers : settings.workers = none :=
      ((layered .workers _ rfl).2 (without .workers rfl rfl)).unique before.2.1
    have limit : settings.maxConnections = some 8 :=
      ((layered .maxConnections _ rfl).2 (without .maxConnections rfl rfl)).unique before.2.2.1
    have accepts : settings.validate = .ok () := by
      refine valid.mpr ?_
      rw [count, limit, workers]
      decide
    -- The document with the zero is read, and it agrees on what is not overridden.
    obtain ⟨entries, read⟩ : ∃ entries, Document.read? other.toList = some entries :=
      Option.isSome_iff_exists.mp (by decide +kernel)
    have fits (field : Field) : field.Fits ((Document.read? other.toList).getD []) := by
      cases field <;> decide +kernel
    rw [read] at fits
    have zero : resolve options (some other) = .ok settings := by
      refine replaced other entries read fits fun field => ?_
      cases field with
      | calibrationIterations => exact .inl ⟨_, rfl, _, iterations⟩
      | nodelay => exact .inl ⟨_, rfl, switched⟩
      | listen => exact .inr (same before.1 after.1)
      | workers => exact .inr (same before.2.1 after.2.1)
      | maxConnections => exact .inr (same before.2.2.1 after.2.2.1)
      | level => exact .inr (same before.2.2.2 after.2.2.2)
    exact ⟨options, settings, accepted, resolved, listen, count, limit,
      nodelay.mpr (.inl switched), accepts, zero⟩

end Settings

end LoadServer
