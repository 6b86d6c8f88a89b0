import LoadServer.Proofs.CommandLine.Choices
import LoadServer.Proofs.Settings.Layers
import LoadServer.Proofs.Settings.Loading
import LoadServer.Proofs.Settings.Tables

/-!
Settings that are given on the command line or in a document, each in one of the two. Main
statement: in which one each of them is given makes no difference, neither to the settings of a run
nor to whether they are accepted.
-/

namespace LoadServer

open CommandLine Document

namespace Field

/-! ## Values that either source can give -/

/-- The values of a setting that can be given on the command line as well as in a document. -/
abbrev Assignable : Field → Type
  | listen => String
  | workers => UInt64
  | maxConnections => UInt64
  | nodelay => Unit
  | calibrationIterations => UInt64
  | level => String

/-- The value that a setting has if it is given. -/
def assigned : (field : Field) → field.Assignable → field.Value
  | listen => id
  | workers => some
  | maxConnections => some
  | nodelay => fun _ => true
  | calibrationIterations => id
  | level => id

/-- The choice that gives a setting on the command line. -/
def choice : (field : Field) → field.Assignable → Choice
  | listen => .listen
  | workers => .workers
  | maxConnections => .maxConnections
  | nodelay => fun _ => .noDelay
  | calibrationIterations => .calibrationIterations
  | level => .logLevel

/-- What a document says if it gives a setting. -/
def told : (field : Field) → field.Assignable → Found
  | listen => .text
  | workers => fun count => .integer count.toNat
  | maxConnections => fun count => .integer count.toNat
  | nodelay => fun _ => .truth true
  | calibrationIterations => fun count => .integer count.toNat
  | level => .text

/-- The option or switch of a setting. -/
def named : Field → Named
  | listen => .value .listen
  | workers => .value .workers
  | maxConnections => .value .maxConnections
  | nodelay => .switch .noDelay
  | calibrationIterations => .value .calibrationIterations
  | level => .value .logLevel

variable {field : Field} {options : Options}

/-- What a document says gives a setting its value. -/
theorem saying_assigned (given : field.Assignable) :
    field.saying (field.assigned given) = some (field.told given) := by
  -- A field holds what was assigned to it in its own type.
  cases field <;> rfl

/-- A choice of the option of a setting gives the setting. -/
theorem exists_choice_of_named {made : Choice} (same : made.named = field.named) :
    ∃ given, made = field.choice given := by
  -- The switch is chosen without a value, and each other choice carries its own.
  cases field with
  | nodelay =>
    cases made with
    | noDelay => exact ⟨(), rfl⟩
    | _ => cases same
  | _ =>
    cases made <;> cases same
    exact ⟨_, rfl⟩

/-- Options hold nothing of a setting whose option has no value. -/
theorem inOptions_of_hasNamed (free : options.hasNamed field.named = false) :
    field.inOptions options = none := by
  -- The options hold a value for the field only under its own name.
  cases field <;>
    simp_all [named, Options.hasNamed, Options.has, inOptions, Options.level]

/-- Choices among which a setting is not given leave it to the document. -/
theorem inOptions_of_unchosen {choices : List Choice}
    (unchosen : ∀ given, field.choice given ∉ choices) :
    field.inOptions (Options.ofChoices choices) = none := by
  apply inOptions_of_hasNamed
  rw [← Bool.not_eq_true]
  intro has
  -- An option that has a value is that of one of the choices.
  rcases (hasNamed_foldl_addTo {} choices field.named).mp has with member | initially
  · obtain ⟨made, inside, same⟩ := List.mem_map.mp member
    obtain ⟨given, rfl⟩ := exists_choice_of_named same
    exact unchosen given inside
  · rw [hasNamed_initial] at initially
    cases initially

/-- A setting has the value that is chosen for it, over the defaults. -/
theorem getD_of_holds {given : field.Assignable} (holds : options.Holds (field.choice given)) :
    (field.inOptions options).getD (field.inFile {}) = field.assigned given := by
  -- The default level gives way to the default.
  rw [Options.holds_iff] at holds
  cases field with
  | level =>
    by_cases same : given = defaultLevel <;>
      simp_all [choice, inOptions, Options.level, assigned, inFile]
  | _ => simp_all [choice, inOptions, assigned]

end Field

/-! ## Dividing settings between the sources -/

/-- Which settings are given, and which values. -/
abbrev Assignment := (field : Field) → Option field.Assignable

/-- Arguments that make choices of different options, in whichever spelling. -/
def IsLine (choices : List Choice) (arguments : List RawText) : Prop :=
  (choices.map Choice.named).Nodup ∧
    ∃ givens, List.Forall₂ Choice.IsMadeBy choices givens ∧ givens.flatten = arguments

/-- Spelled choices of different options make a line. -/
theorem isLine_of_arguments? (line : List (Choice × Spelling)) {arguments : List RawText}
    (distinct : (line.map fun made => made.1.named).Nodup)
    (paths : ∀ made ∈ line, made.1 ≠ .config []) (spelled : arguments? line = some arguments) :
    IsLine (line.map Prod.fst) arguments := by
  -- Each choice is made by its own arguments, and together these are the line.
  obtain ⟨givens, same, made⟩ := exists_made paths spelled
  refine ⟨?_, givens, made, same⟩
  rw [List.map_map]
  exact distinct

/-- There is no document, or one in which the sections of settings are tables. -/
def IsTabular (text : Option String) : Prop :=
  ∀ document ∈ text, ∃ entries, Document.read? document.toList = some entries ∧ entries.HasTables

/-- A document is there and says something of a setting. -/
def Field.IsTold (field : Field) (text : Option String) (found : Found) : Prop :=
  ∃ document ∈ text, ∃ entries, Document.read? document.toList = some entries ∧
    field.IsSaid entries found

/-- What a document says of a setting is told by looking the setting up in it. -/
theorem Field.isTold_iff {field : Field} {document : String} {entries : Entries}
    (read : Document.read? document.toList = some entries) (tables : entries.HasTables)
    {found : Found} : field.IsTold (some document) found ↔ entries.said? field = some found := by
  -- The document reads in one way only, so its entries are the ones that tell.
  rw [← Field.isSaid_iff (read?_keyed read) tables]
  constructor
  · rintro ⟨_, ⟨⟩, other, readSo, said⟩
    rw [read] at readSo
    cases readSo
    exact said
  · intro said
    exact ⟨document, rfl, entries, read, said⟩

/-- Choices on the command line and a document give what is assigned: each setting in one of the
two, and nothing else. -/
structure IsDivided (assignment : Assignment) (choices : List Choice) (text : Option String) :
    Prop where
  once : ∀ field given, assignment field = some given →
    Xor (field.choice given ∈ choices) (field.IsTold text (field.told given))
  chosen : ∀ field given, field.choice given ∈ choices → assignment field = some given
  said : ∀ field found, field.IsTold text found →
    ∃ given, assignment field = some given ∧ field.told given = found

/-- The value that a setting is to have: what is assigned to it, or its default. -/
def Assignment.value (assignment : Assignment) (field : Field) : field.Value :=
  ((assignment field).map field.assigned).getD field.default

variable {assignment : Assignment} {choices : List Choice} {arguments : List RawText}
variable {text : Option String}

/-- Choices of different options are taken. -/
theorem IsLine.read_eq_ok (line : IsLine choices arguments) :
    CommandLine.read arguments = .ok (Options.ofChoices choices) := by
  -- The choices are different and nothing is chosen at the start, so none is refused.
  obtain ⟨distinct, givens, made, rfl⟩ := line
  rw [read_flatten made, foldlM_choose_of_distinct distinct fun named _ => hasNamed_initial named]
  rfl

/-- What a document gives is of the right type, so it is read, and what it does not give has its
default. -/
theorem IsDivided.exists_file (divided : IsDivided assignment choices text)
    (tabular : IsTabular text) :
    ∃ file : FileSettings,
      (∀ options, Settings.resolve options text = .ok (Settings.merge options file)) ∧
      ∀ field : Field,
        (∀ found, field.IsTold text found → field.saying (field.inFile file) = some found) ∧
        ((∀ found, ¬ field.IsTold text found) → field.inFile file = field.inFile {}) := by
  -- Without a document the file settings are the defaults.
  cases text with
  | none =>
    refine ⟨{}, fun options => rfl, fun field => ⟨?_, fun _ => rfl⟩⟩
    rintro found ⟨document, ⟨⟩, -⟩
  | some document =>
    obtain ⟨entries, read, tables⟩ := tabular document rfl
    have told (field : Field) (found : Found) :
        field.IsTold (some document) found ↔ field.IsSaid entries found := by
      rw [Field.isTold_iff read tables, Field.isSaid_iff (read?_keyed read) tables]
    have fits (field : Field) : field.Fits entries := by
      rw [Field.fits_iff (read?_keyed read) tables]
      intro found said
      obtain ⟨given, -, rfl⟩ := divided.said field found ((told field found).mpr said)
      exact Field.isTyped_of_saying (field.saying_assigned given)
    obtain ⟨file, taken⟩ := exists_ofEntries fits
    have accepted := (read_eq_ok_iff_ofEntries read).mpr taken
    refine ⟨file, fun options => ?_, fun field => ?_⟩
    · rw [Settings.resolve, accepted]
      rfl
    · simp only [told]
      exact (read_eq_ok_iff_isFilled read tables).mp accepted field

/-- Divided settings have the values that are assigned to them. -/
theorem IsDivided.inSettings_merge (divided : IsDivided assignment choices text)
    (distinct : (choices.map Choice.named).Nodup) {file : FileSettings} {field : Field}
    (told : ∀ found, field.IsTold text found → field.saying (field.inFile file) = some found)
    (silent : (∀ found, ¬ field.IsTold text found) → field.inFile file = field.inFile {}) :
    field.inSettings (Settings.merge (Options.ofChoices choices) file) = assignment.value field := by
  have default : field.inFile {} = field.default := by cases field <;> rfl
  rw [Assignment.value, Field.inSettings_merge]
  cases assigned : assignment field with
  | none =>
    -- Neither source gives the setting.
    rw [Field.inOptions_of_unchosen, silent, default]
    · rfl
    · intro found said
      obtain ⟨given, same, -⟩ := divided.said field found said
      rw [assigned] at same
      cases same
    · intro given member
      rw [divided.chosen field given member] at assigned
      cases assigned
  | some given =>
    rcases divided.once field given assigned with ⟨chosen, notTold⟩ | ⟨isTold, notChosen⟩
    · -- The document does not give the setting, so the options go over the default.
      have quiet (found : Found) : ¬ field.IsTold text found := by
        intro said
        obtain ⟨other, same, rfl⟩ := divided.said field found said
        rw [assigned] at same
        cases same
        exact notTold said
      rw [silent quiet]
      exact Field.getD_of_holds (holds_foldl_addTo distinct chosen)
    · -- The document alone gives the setting.
      rw [Field.inOptions_of_unchosen]
      · exact Field.saying_inj (told _ isTold) (field.saying_assigned given)
      · intro other member
        have same := divided.chosen field other member
        rw [assigned] at same
        cases same
        exact notChosen member

/-! ## Resolving -/

/-- A command line and a document that give what is assigned, each setting in one of the two. -/
def Assignment.IsGivenBy (assignment : Assignment) (arguments : List RawText)
    (text : Option String) : Prop :=
  ∃ choices, IsLine choices arguments ∧ IsTabular text ∧ IsDivided assignment choices text

/-- What a document gives is found by looking the settings up in it. -/
theorem Assignment.isGivenBy_of_said {document : String} {entries : Entries}
    (line : IsLine choices arguments) (read : Document.read? document.toList = some entries)
    (tables : entries.HasTables)
    (once : ∀ field given, assignment field = some given →
      Xor (field.choice given ∈ choices) (entries.said? field = some (field.told given)))
    (chosen : ∀ field given, field.choice given ∈ choices → assignment field = some given)
    (said : ∀ field found, entries.said? field = some found →
      ∃ given, assignment field = some given ∧ field.told given = found) :
    assignment.IsGivenBy arguments (some document) := by
  -- What the document tells is what its entries say.
  simp only [← Field.isTold_iff read tables] at once said
  refine ⟨choices, line, ?_, once, chosen, said⟩
  rintro _ ⟨⟩
  exact ⟨entries, read, tables⟩

/-- A run finds the text in the file that its command line names, or it names none and there is no
text. -/
def IsFound (arguments : List RawText) (readText : RawText → Except IoFault String)
    (text : Option String) : Prop :=
  ∃ options, CommandLine.read arguments = .ok options ∧
    options.config.map readText = text.map Except.ok

/-- Assigned settings resolve to the values that are assigned, wherever each of them is given. -/
theorem Assignment.IsGivenBy.exists_settings (given : assignment.IsGivenBy arguments text) :
    ∃ options settings, CommandLine.read arguments = .ok options ∧
      Settings.resolve options text = .ok settings ∧
      ∀ field : Field, field.inSettings settings = assignment.value field := by
  -- The options and the document are read apart, and their fields merge into the assignment.
  obtain ⟨choices, line, tabular, divided⟩ := given
  obtain ⟨file, resolves, filled⟩ := divided.exists_file tabular
  exact ⟨Options.ofChoices choices, _, line.read_eq_ok, resolves _,
    fun field => divided.inSettings_merge line.1 (filled field).1 (filled field).2⟩

/-- Settings that are resolved are loaded, unless they are not accepted. -/
theorem load_of_resolve {options : Options} {settings : Settings}
    {readText : RawText → Except IoFault String} (read : CommandLine.read arguments = .ok options)
    (resolved : Settings.resolve options text = .ok settings)
    (found : IsFound arguments readText text) :
    Settings.load arguments readText = (Settings.accepted settings).mapError .unloaded := by
  -- The arguments read in one way only, so the file is the one that was found.
  obtain ⟨other, same, file⟩ := found
  rw [read] at same
  cases same
  rw [Settings.load, read]
  exact congrArg (Except.mapError StartFault.unloaded) (Settings.ofOptions_of_resolve file resolved)

/-- Settings are accepted if no count that is assigned is zero. -/
theorem Assignment.validate_iff {settings : Settings}
    (values : ∀ field : Field, field.inSettings settings = assignment.value field) :
    settings.validate = .ok () ↔ assignment .calibrationIterations ≠ some (0 : UInt64) ∧
      assignment .maxConnections ≠ some (0 : UInt64) ∧ assignment .workers ≠ some (0 : UInt64) := by
  have iterations : settings.calibrationIterations = _ := values .calibrationIterations
  have limit : settings.maxConnections = _ := values .maxConnections
  have workers : settings.workers = _ := values .workers
  rw [Settings.validate_eq_ok_iff, iterations, limit, workers]
  -- No default is zero.
  refine and_congr ?_ (and_congr ?_ ?_)
  · cases given : assignment .calibrationIterations with
    | none => simp [Assignment.value, given, Field.default]
    | some count => simp [Assignment.value, given, Field.assigned]
  · cases given : assignment .maxConnections <;>
      simp [Assignment.value, given, Field.default, Field.assigned]
  · cases given : assignment .workers <;>
      simp [Assignment.value, given, Field.default, Field.assigned]

/-- Whichever of the command line and a document gives each of some settings, both are accepted and
the settings of the run are the same: what is assigned, and defaults elsewhere. So is what comes of
checking them. -/
theorem same_settings_of_isGivenBy {others : List RawText} {other : Option String}
    (given : assignment.IsGivenBy arguments text) (givenSo : assignment.IsGivenBy others other) :
    ∃ settings : Settings,
      (∃ options, CommandLine.read arguments = .ok options ∧
        Settings.resolve options text = .ok settings) ∧
      (∃ options, CommandLine.read others = .ok options ∧
        Settings.resolve options other = .ok settings) ∧
      (∀ field : Field, field.inSettings settings = assignment.value field) ∧
      (settings.validate = .ok () ↔ assignment .calibrationIterations ≠ some (0 : UInt64) ∧
        assignment .maxConnections ≠ some (0 : UInt64) ∧
        assignment .workers ≠ some (0 : UInt64)) ∧
      ∀ readText readOther, IsFound arguments readText text → IsFound others readOther other →
        Settings.load arguments readText = (Settings.accepted settings).mapError .unloaded ∧
        Settings.load others readOther = (Settings.accepted settings).mapError .unloaded := by
  -- Settings are determined by their fields, and both sources give those of the assignment.
  obtain ⟨options, settings, read, resolved, values⟩ := given.exists_settings
  obtain ⟨otherOptions, otherSettings, readSo, resolvedSo, valuesSo⟩ := givenSo.exists_settings
  have same : otherSettings = settings :=
    Field.ext_inSettings fun field => (valuesSo field).trans (values field).symm
  rw [same] at resolvedSo
  refine ⟨settings, ⟨options, read, resolved⟩, ⟨otherOptions, readSo, resolvedSo⟩, values,
    Assignment.validate_iff values, ?_⟩
  intro readText readOther found foundSo
  exact ⟨load_of_resolve read resolved found, load_of_resolve readSo resolvedSo foundSo⟩

/-- The default log level and other settings change sides. -/
theorem same_settings_of_isGivenBy_default_level :
    let assignment : Assignment
      | .listen => some "a"
      | .workers => some (3 : UInt64)
      | .nodelay => some ()
      | .level => some "info"
      | _ => none
    let arguments := ["-cs", "-la", "--log-level=info"].map RawText.ofString
    let document := "[server]\nworkers = 3\nnodelay = true\n"
    let others := ["--no-delay", "--config", "s", "-w", "3"].map RawText.ofString
    let other := "logging.level = \"info\"\nserver = \x7blisten = \"a\"\x7d\n"
    assignment.IsGivenBy arguments (some document) ∧ assignment.IsGivenBy others (some other) ∧
      ∃ settings, Settings.load arguments (fun _ => .ok document) = .ok settings ∧
        Settings.load others (fun _ => .ok other) = .ok settings ∧ settings.logLevel = "info" := by
  -- Both documents are read here, and each field is looked up in them.
  intro assignment arguments document others other
  let said : Field → Option Found
    | .workers => some (.integer 3)
    | .nodelay => some (.truth true)
    | _ => none
  let saidSo : Field → Option Found
    | .listen => some (.text "a")
    | .level => some (.text "info")
    | _ => none
  obtain ⟨entries, read, tables, looked⟩ : ∃ entries, entries ∈ Document.read? document.toList ∧
      entries.HasTables ∧ ∀ field, entries.said? field = said field := by decide +kernel
  obtain ⟨otherEntries, readSo, tablesSo, lookedSo⟩ : ∃ entries,
      entries ∈ Document.read? other.toList ∧ entries.HasTables ∧
      ∀ field, entries.said? field = saidSo field := by decide +kernel
  -- Each line of arguments is told by its choices and their spellings.
  have line := isLine_of_arguments? [(.config (RawText.ofString "s"), .shortAttached),
    (.listen "a", .shortAttached), (.logLevel "info", .longJoined)] (by decide) (by decide)
    (show _ = some arguments by decide +kernel)
  have lineSo := isLine_of_arguments? [(.noDelay, .longJoined),
    (.config (RawText.ofString "s"), .longApart), (.workers 3, .shortApart)] (by decide) (by decide)
    (show _ = some others by decide +kernel)
  have given : assignment.IsGivenBy arguments (some document) := by
    apply Assignment.isGivenBy_of_said line read tables
    · intro field value assigned
      rw [looked]
      cases field <;> cases assigned <;> simp [said, Field.choice, Field.told, Xor]
    · intro field value member
      cases field <;> simp_all [Field.choice, assignment]
    · intro field found told
      rw [looked] at told
      cases field <;> cases told
      · exact ⟨(3 : UInt64), rfl, rfl⟩
      · exact ⟨(), rfl, rfl⟩
  have givenSo : assignment.IsGivenBy others (some other) := by
    apply Assignment.isGivenBy_of_said lineSo readSo tablesSo
    · intro field value assigned
      rw [lookedSo]
      cases field <;> cases assigned <;> simp [saidSo, Field.choice, Field.told, Xor]
    · intro field value member
      cases field <;> simp_all [Field.choice, assignment]
    · intro field found told
      rw [lookedSo] at told
      cases field <;> cases told
      · exact ⟨"a", rfl, rfl⟩
      · exact ⟨"info", rfl, rfl⟩
  obtain ⟨settings, -, -, values, valid, loads⟩ := same_settings_of_isGivenBy given givenSo
  have passes : settings.validate = .ok () :=
    valid.mpr ⟨by simp [assignment], by simp [assignment], by simp [assignment]⟩
  have accepted : (Settings.accepted settings).mapError StartFault.unloaded = .ok settings := by
    rw [Settings.accepted, passes]
    rfl
  obtain ⟨load, loadSo⟩ := loads (fun _ => .ok document) (fun _ => .ok other)
    ⟨_, line.read_eq_ok, rfl⟩ ⟨_, lineSo.read_eq_ok, rfl⟩
  exact ⟨given, givenSo, settings, load.trans accepted, loadSo.trans accepted, values .level⟩

end LoadServer
