import LoadServer.Proofs.Settings.Folder
import LoadServer.Settings.Load

/-!
Loading the settings of a run. Main statement: what comes of it is told by the command line and by
the one file that it names, and each failure is reported only where none comes before it.
-/

namespace LoadServer.Settings

open CommandLine

section Options

variable {options : Options} {readText : RawText → Except IoFault String}

/-- The text that goes with options: that of the file that they name, or none where they name
none. -/
def GoesWith (readText : RawText → Except IoFault String) (options : Options)
    (text : Option String) : Prop :=
  options.config.map readText = text.map Except.ok

/-- What can come of options: they name a file that cannot be read, or one whose text does not give
settings, or they resolve to settings with the text that goes with them, and these are accepted or
not. -/
inductive Outcome (options : Options) (readText : RawText → Except IoFault String) :
    Except LoadFault Settings → Prop where
  | unreadable {path : RawText} {fault : IoFault} (config : options.config = some path)
      (read : readText path = .error fault) :
      Outcome options readText (.error (.unreadable path fault))
  | unfit {path : RawText} {text : String} {fault : DocumentFault}
      (config : options.config = some path) (read : readText path = .ok text)
      (fits : FileSettings.read text = .error fault) :
      Outcome options readText (.error (.unfit path text fault))
  | invalid {text : Option String} {settings : Settings} {fault : Invalid}
      (goes : GoesWith readText options text) (resolved : resolve options text = .ok settings)
      (checked : settings.validate = .error fault) :
      Outcome options readText (.error (.invalid fault))
  | accepted {text : Option String} {settings : Settings}
      (goes : GoesWith readText options text) (resolved : resolve options text = .ok settings)
      (checked : settings.validate = .ok ()) : Outcome options readText (.ok settings)

/-- Settings that options resolve to are accepted or not. -/
theorem outcome_accepted {text : Option String} {settings : Settings}
    (goes : GoesWith readText options text) (resolved : resolve options text = .ok settings) :
    Outcome options readText (Settings.accepted settings) := by
  -- The settings are checked last, and the check decides between the two outcomes.
  unfold Settings.accepted
  cases checked : settings.validate with
  | error fault => exact .invalid goes resolved checked
  | ok => exact .accepted goes resolved checked

/-- Nothing else than this comes of options. -/
theorem outcome_ofOptions (options : Options) (readText : RawText → Except IoFault String) :
    Outcome options readText (ofOptions options readText) := by
  -- The cases are those of the three stages before the settings are checked.
  unfold ofOptions
  cases config : options.config with
  | none =>
    have goes : GoesWith readText options none := by rw [GoesWith, config]; rfl
    exact outcome_accepted goes rfl
  | some path =>
    cases read : readText path with
    | error fault => simpa only [read] using Outcome.unreadable config read
    | ok text =>
      cases fits : FileSettings.read text with
      | error fault => simpa only [read, fits] using Outcome.unfit config read fits
      | ok file =>
        have goes : GoesWith readText options (some text) := by
          rw [GoesWith, config]
          exact congrArg some read
        have resolved : resolve options (some text) = .ok (merge options file) := by
          rw [resolve, fits]
          rfl
        simpa only [read, fits] using outcome_accepted goes resolved

/-- A file is reported as unreadable exactly if it is named and cannot be read. -/
theorem ofOptions_eq_unreadable_iff {path : RawText} {fault : IoFault} :
    ofOptions options readText = .error (.unreadable path fault) ↔
      options.config = some path ∧ readText path = .error fault := by
  -- Of the outcomes only one reports the fault of reading.
  constructor
  · intro failed
    have outcome := outcome_ofOptions options readText
    rw [failed] at outcome
    cases outcome with
    | unreadable config read => exact ⟨config, read⟩
  · rintro ⟨config, read⟩
    simp [ofOptions, config, read]

/-- A text is reported as unfit exactly if it is that of the named file and gives no settings. -/
theorem ofOptions_eq_unfit_iff {path : RawText} {text : String} {fault : DocumentFault} :
    ofOptions options readText = .error (.unfit path text fault) ↔
      options.config = some path ∧ readText path = .ok text ∧
        FileSettings.read text = .error fault := by
  -- Of the outcomes only one reports the fault of the document.
  constructor
  · intro failed
    have outcome := outcome_ofOptions options readText
    rw [failed] at outcome
    cases outcome with
    | unfit config read fits => exact ⟨config, read, fits⟩
  · rintro ⟨config, read, fits⟩
    simp [ofOptions, config, read, fits]

/-- Options and the text that goes with them give the settings that they resolve to, if these are
accepted. -/
theorem ofOptions_of_resolve {text : Option String} {settings : Settings}
    (goes : GoesWith readText options text) (resolved : resolve options text = .ok settings) :
    ofOptions options readText = accepted settings := by
  -- There is a text exactly if a file is named.
  unfold ofOptions
  unfold GoesWith at goes
  cases config : options.config with
  | none =>
    rw [config] at goes
    obtain rfl : text = none := Option.map_eq_none_iff.mp goes.symm
    cases resolved
    rfl
  | some path =>
    rw [config] at goes
    obtain ⟨body, rfl, taken⟩ := Option.map_eq_some_iff.mp goes.symm
    obtain ⟨file, fits, rfl⟩ := map_eq_ok_iff.mp resolved
    simp only [← taken, fits]

/-- Settings fail to be accepted exactly if options and their text resolve to them and a check on
them fails. -/
theorem ofOptions_eq_invalid_iff {invalid : Invalid} :
    ofOptions options readText = .error (.invalid invalid) ↔
      ∃ text settings, GoesWith readText options text ∧ resolve options text = .ok settings ∧
        settings.validate = .error invalid := by
  -- Of the outcomes only one reports what the check refuses.
  constructor
  · intro failed
    have outcome := outcome_ofOptions options readText
    rw [failed] at outcome
    cases outcome with
    | invalid goes resolved checked => exact ⟨_, _, goes, resolved, checked⟩
  · rintro ⟨text, settings, goes, resolved, checked⟩
    rw [ofOptions_of_resolve goes resolved, accepted, checked]

/-- Settings come of options exactly if these resolve to them with their text and they pass every
check. -/
theorem ofOptions_eq_ok_iff {settings : Settings} :
    ofOptions options readText = .ok settings ↔
      (∃ text, GoesWith readText options text ∧ resolve options text = .ok settings) ∧
        settings.validate = .ok () := by
  -- Of the outcomes only one succeeds.
  constructor
  · intro succeeded
    have outcome := outcome_ofOptions options readText
    rw [succeeded] at outcome
    cases outcome with
    | accepted goes resolved checked => exact ⟨⟨_, goes, resolved⟩, checked⟩
  · rintro ⟨⟨text, goes, resolved⟩, checked⟩
    rw [ofOptions_of_resolve goes resolved, accepted, checked]

/-- No other file is read than the one that options name. -/
theorem ofOptions_congr {readOther : RawText → Except IoFault String}
    (same : ∀ path, options.config = some path → readOther path = readText path) :
    ofOptions options readOther = ofOptions options readText := by
  -- At most the file of the options is ever read.
  unfold ofOptions
  cases config : options.config with
  | none => rfl
  | some path => simp only [same path config]

end Options

/-- The text that goes with options in a folder is the one that their path leads to. -/
theorem goesWith_readText_iff {folder : Folder} {options : Options} {text : Option String} :
    GoesWith folder.readText options text ↔ Option.Rel folder.Holds options.config text := by
  -- Both sides ask for no text without a path, and for the text of the file otherwise.
  unfold GoesWith
  cases options.config with
  | none => cases text <;> simp
  | some path => cases text <;> simp [Folder.readText_eq_ok_iff]

/-- Where the arguments are accepted, loading goes on with the options that they give. -/
theorem loadIn_of_read {arguments : List RawText} {options : Options}
    (read : CommandLine.read arguments = .ok options) (folder : Folder) :
    loadIn folder arguments = (ofOptions options folder.readText).mapError .unloaded := by
  -- Reading the arguments stops the program or hands over its options.
  rw [loadIn, load, read]
  rfl

/-- A run is stopped by its command line exactly if this is rejected or asks for something else. -/
theorem loadIn_eq_stopped_iff {folder : Folder} {arguments : List RawText} {stop : Stop} :
    loadIn folder arguments = .error (.stopped stop) ↔
      CommandLine.read arguments = .error stop := by
  -- A program that comes to load its settings is not stopped any more.
  cases read : CommandLine.read arguments with
  | error found =>
    rw [loadIn, load, read]
    exact ⟨fun same => by cases same; rfl, fun same => by cases same; rfl⟩
  | ok options =>
    rw [loadIn_of_read read, mapError_eq_error_iff]
    simp

/-- Loading follows the command line and the one file that it names. A command line that is not
accepted stops the run. Otherwise the file is reported where its path leads to no text, its text
where it gives no settings, and the settings that options and text resolve to where a check on them
fails; and where none of these happens, they are the settings of the run. Nothing that lies
elsewhere than along the path has an influence, nor, if the path is a name, anything under other
names. -/
theorem loadIn_named_file (folder : Folder) (arguments : List RawText) :
    (∀ stop, loadIn folder arguments = .error (.stopped stop) ↔
      CommandLine.read arguments = .error stop) ∧
    ∀ options, CommandLine.read arguments = .ok options →
      (∀ path fault, loadIn folder arguments = .error (.unloaded (.unreadable path fault)) ↔
        options.config = some path ∧ folder.Withholds path fault) ∧
      (∀ path text fault,
        loadIn folder arguments = .error (.unloaded (.unfit path text fault)) ↔
          options.config = some path ∧ folder.Holds path text ∧
            FileSettings.read text = .error fault) ∧
      (∀ invalid, loadIn folder arguments = .error (.unloaded (.invalid invalid)) ↔
        ∃ text settings, Option.Rel folder.Holds options.config text ∧
          resolve options text = .ok settings ∧ settings.validate = .error invalid) ∧
      (∀ settings, loadIn folder arguments = .ok settings ↔
        (∃ text, Option.Rel folder.Holds options.config text ∧
          resolve options text = .ok settings) ∧ settings.validate = .ok ()) ∧
      (∀ other, (∀ path, options.config = some path → Folder.AgreeAlong path folder other) →
        loadIn other arguments = loadIn folder arguments) ∧
      ∀ path, options.config = some path → Folder.IsName path →
        loadIn (folder.only path) arguments = loadIn folder arguments := by
  refine ⟨fun stop => loadIn_eq_stopped_iff, fun options read => ?_⟩
  have loads := loadIn_of_read read
  -- A failure to load is one of the options with their file.
  have fails (fault : LoadFault) : loadIn folder arguments = .error (.unloaded fault) ↔
      ofOptions options folder.readText = .error fault := by
    rw [loads, mapError_eq_error_iff]
    simp
  -- What another folder has at other places is not seen on the way to the file.
  have elsewhere (other : Folder)
      (agree : ∀ path, options.config = some path → Folder.AgreeAlong path folder other) :
      loadIn other arguments = loadIn folder arguments := by
    rw [loads, loads, ofOptions_congr fun path config => ?_]
    rw [Folder.readText, Folder.readText, Folder.locate_congr (agree path config)]
  refine ⟨fun path fault => ?_, fun path text fault => ?_, fun invalid => ?_, fun settings => ?_,
    elsewhere, fun path config name => ?_⟩
  · rw [fails, ofOptions_eq_unreadable_iff, Folder.readText_eq_error_iff]
  · rw [fails, ofOptions_eq_unfit_iff, Folder.readText_eq_ok_iff]
  · rw [fails, ofOptions_eq_invalid_iff]
    simp only [goesWith_readText_iff]
  · rw [loads, mapError_eq_ok_iff, ofOptions_eq_ok_iff]
    simp only [goesWith_readText_iff]
  · refine elsewhere (folder.only path) fun named same => ?_
    obtain rfl : path = named := Option.some.inj (config.symm.trans same)
    exact name.agreeAlong_only folder

/-- A bad text is reported before a count that is zero, whatever else there is in the folder, and a
missing file before both. -/
theorem loadIn_named_file_with_two_faults :
    let name := RawText.ofString "c.toml"
    let arguments := ["-c", "c.toml", "-w", "0"].map RawText.ofString
    let text := "[server]\nlisten = 5\n"
    let folder : Folder := ⟨[([RawText.ofString "d", name], some []),
      ([RawText.ofString "e"], none), ([name], some (RawText.ofString text).bytes)]⟩
    ∃ fault, loadIn folder arguments = .error (.unloaded (.unfit name text fault)) ∧
      loadIn (folder.only name) arguments = .error (.unloaded (.unfit name text fault)) ∧
      loadIn {} arguments = .error (.unloaded (.unreadable name (.system .noEntry))) := by
  -- The document is refused before the number of workers is looked at.
  intro name arguments text folder
  let options : Options := { config := some name, workers := some 0 }
  have read : CommandLine.read arguments = .ok options := by decide +kernel
  have holds : folder.Holds name text := Folder.readText_eq_ok_iff.mp (by decide +kernel)
  have isName : Folder.IsName name := ⟨by decide, by decide, by decide, by decide⟩
  have unfit : (FileSettings.read text).toOption = none := by decide +kernel
  obtain ⟨-, stages⟩ := loadIn_named_file folder arguments
  obtain ⟨-, fails, -, -, -, others⟩ := stages options read
  obtain ⟨-, emptyStages⟩ := loadIn_named_file {} arguments
  obtain ⟨missing, -⟩ := emptyStages options read
  cases found : FileSettings.read text with
  | ok file =>
    rw [found] at unfit
    cases unfit
  | error fault =>
    have reported := (fails name text fault).mpr ⟨rfl, holds, found⟩
    exact ⟨fault, reported, (others name rfl isName).trans reported,
      (missing name _).mpr ⟨rfl, .missing (by decide +kernel)⟩⟩

end LoadServer.Settings
