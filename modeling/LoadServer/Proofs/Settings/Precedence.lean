import LoadServer.Proofs.CommandLine.Given
import LoadServer.Proofs.Settings.File
import LoadServer.Settings.Basic

/-!
Which of the command line, a document and the defaults decides on a setting. Main statement: a log
level on the command line decides, unless it is the default one and the document gives another.
-/

namespace LoadServer

open CommandLine Document

namespace Settings

/-- The log level that a document gives, if there is a document and it gives one. -/
def documentLevel? (text : Option String) : Option String := do
  let text ← text
  let entries ← Document.read? text.toList
  let node ← entries.setting? "logging" "level" 0
  node.text.toOption

/-- The documented log level is the one that a document gives, or the default one. -/
theorem level_of_isDocumented {text : Option String} {level : String}
    (documented : Field.level.IsDocumented text level) :
    level = (documentLevel? text).getD defaultLevel := by
  -- Both look the level up in the same place.
  have found : documentLevel? text = (Field.level.node? text).bind fun node =>
      node.text.toOption := by
    cases text with
    | none => rfl
    | some text =>
      simp only [documentLevel?, Field.node?, Option.bind_eq_bind, Option.bind_some]
      cases Document.read? text.toList <;> rfl
  rw [found]
  unfold Field.IsDocumented Field.IsRead at documented
  cases given : Field.level.node? text with
  | none =>
    rw [given] at documented
    exact documented
  | some node =>
    rw [given] at documented
    have read : node.text = .ok level := documented
    simp [read, Except.toOption]

/-- Settings come from merging options with those of a document, or with defaults. -/
theorem resolve_eq_ok {options : Options} {text : Option String} {settings : Settings}
    (resolved : resolve options text = .ok settings) :
    ∃ file : FileSettings, merge options file = settings ∧
      file.logging.level = (documentLevel? text).getD defaultLevel := by
  -- The level of the file settings is the document's own one where it has one.
  obtain ⟨file, merged, documented⟩ := exists_file_of_resolve resolved
  exact ⟨file, merged, level_of_isDocumented (documented .level)⟩

/-- A log level that is given on the command line decides, unless it is the default one, which
gives way to the level of the document like no level at all. -/
theorem logLevel_of_resolve {arguments : List RawText} {options : Options} {text : Option String}
    {settings : Settings} (accepted : CommandLine.read arguments = .ok options)
    (resolved : resolve options text = .ok settings) :
    (∀ value, Gives .logLevel value arguments → ∃ level, value = RawText.ofString level ∧
      settings.logLevel =
        (if level = defaultLevel then (documentLevel? text).getD defaultLevel else level) ∧
      (settings.logLevel = level ↔
        level ≠ defaultLevel ∨ (documentLevel? text).getD defaultLevel = defaultLevel)) ∧
    ((∀ value, ¬ Gives .logLevel value arguments) →
      settings.logLevel = (documentLevel? text).getD defaultLevel) := by
  -- The options hold what the arguments give, and merging compares it with the default.
  obtain ⟨file, rfl, fileLevel⟩ := resolve_eq_ok resolved
  rw [← fileLevel]
  refine ⟨fun value gives => ?_, fun without => ?_⟩
  · -- The value that is given is the level that the options hold.
    obtain ⟨choice, chosen, holds⟩ := holds_of_gives accepted gives
    obtain ⟨level, read, rfl⟩ := map_eq_ok_iff.mp chosen
    have held : options.logLevel = some level := Options.holds_iff.mp holds
    have spelled : value.text? = some level := by
      unfold textValue at read
      cases text : value.text? <;> simp_all
    refine ⟨level, RawText.eq_ofString_of_text? spelled, ?_, ?_⟩
    · by_cases same : level = defaultLevel <;> simp [merge, Options.level, held, same]
    · by_cases same : level = defaultLevel <;> simp [merge, Options.level, held, same]
  · have none : options.logLevel = none := by
      simpa [Options.has] using has_eq_false_of_not_gives accepted without
    simp [merge, Options.level, none]

/-- The default level on the command line gives way to another one in the document. -/
theorem logLevel_of_resolve_default :
    let arguments := [RawText.ofString "--log-level", RawText.ofString "info"]
    let text := "[logging]\nlevel = \"debug\"\n"
    ∃ options settings, CommandLine.read arguments = .ok options ∧
      resolve options (some text) = .ok settings ∧
      Gives .logLevel (RawText.ofString "info") arguments ∧ settings.logLevel = "debug" := by
  -- The two readers are evaluated, and the level comes from the general law.
  intro arguments text
  let options : Options := { logLevel := some "info" }
  have accepted : CommandLine.read arguments = .ok options := rfl
  have gives : Gives .logLevel (RawText.ofString "info") arguments :=
    ⟨arguments, .longApart, List.infix_refl _⟩
  have document : (documentLevel? (some text)).getD defaultLevel = "debug" := by decide +kernel
  have fits : (resolve options (some text)).toOption.isSome = true := by decide +kernel
  cases resolved : resolve options (some text) with
  | error fault => simp [resolved, Except.toOption] at fits
  | ok settings =>
    obtain ⟨level, same, decides, -⟩ := (logLevel_of_resolve accepted resolved).1 _ gives
    have default : level = defaultLevel := by
      have read := congrArg RawText.text? same
      simpa [defaultLevel] using read.symm
    refine ⟨options, settings, accepted, resolved, gives, ?_⟩
    rw [decides, if_pos default, document]

end Settings

end LoadServer
