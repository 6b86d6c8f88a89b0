import LoadServer.Proofs.CommandLine.Given
import LoadServer.Proofs.Numeric.Count

/-!
Command lines that are put together from choices. Main statement: choices of different options are
all taken, in whatever order and spelling, and one more choice of any of these options is refused
wherever it stands.
-/

namespace LoadServer.CommandLine

open Spelling

/-! ## Making a choice -/

/-- Whether an option has a value, or a switch is on. -/
def Options.hasNamed (options : Options) : Named → Bool
  | .value option => options.has option
  | .switch .noDelay => options.noDelay
  | .switch _ => false

/-- Makes a choice, unless its option has been chosen before. -/
def Options.choose (options : Options) (choice : Choice) : Except Rejection Options :=
  if options.hasNamed choice.named then .error (.repeated choice.named)
  else .ok (choice.addTo options)

/-- Some arguments make a choice: they name its switch, or its option with any value that reads as
the choice. -/
def Choice.IsMadeBy (choice : Choice) (given : List RawText) : Prop :=
  match choice.named with
  | .value option => ∃ (spelling : Spelling) (value : RawText),
      spelling.arguments? option value = some given ∧ of option value = .ok choice
  | .switch switch => given = [longName switch.long]

/-- Storing a value makes the choice that the value reads as. -/
theorem store_eq_choose {option : ValueOption} {value : RawText} {choice : Choice}
    (chosen : Choice.of option value = .ok choice) (options : Options) :
    options.store option value = options.choose choice := by
  have named : options.hasNamed choice.named = options.has option := by
    rw [Choice.named_of chosen]
    rfl
  unfold Options.choose
  -- An earlier value is complained about before the new one is looked at.
  cases has : options.has option with
  | true =>
    rw [named, has, if_pos rfl, Choice.named_of chosen]
    unfold Options.store
    exact if_pos has
  | false =>
    rw [named, has, if_neg Bool.false_ne_true]
    exact store_eq_ok_iff.mpr ⟨has, choice, chosen, rfl⟩

/-- Turning on the switch makes its choice. -/
theorem turnOn_eq_choose (options : Options) :
    options.turnOn .noDelay = (options.choose .noDelay).mapError .rejected := by
  -- The switch refuses its second use just where the choice does.
  cases on : options.noDelay <;>
    simp [Options.turnOn, Options.choose, Options.hasNamed, Choice.named, Choice.addTo, on,
      Except.mapError]

/-- A choice gives a value to its own option and leaves the others as they are. -/
theorem Options.hasNamed_addTo (options : Options) (choice : Choice) (named : Named) :
    (choice.addTo options).hasNamed named = true ↔
      choice.named = named ∨ options.hasNamed named = true := by
  -- A choice fills the place of its own name and no other, which the table of places shows.
  cases named with
  | value option =>
    cases choice <;> cases option <;> simp [Choice.addTo, hasNamed, has, Choice.named]
  | switch switch => cases choice <;> cases switch <;> simp [Choice.addTo, hasNamed, Choice.named]

/-- A choice that is held stays so when another option is chosen. -/
theorem Options.Holds.addTo_of_ne {options : Options} {choice other : Choice}
    (holds : options.Holds choice) (different : other.named ≠ choice.named) :
    (other.addTo options).Holds choice := by
  -- Each choice has a field of its own.
  rw [holds_iff] at holds ⊢
  cases other <;> cases choice <;> simp_all [Choice.addTo, Choice.named]

/-! ## Making choices one after another -/

/-- After some choices those options have a value that had one before or are among the choices. -/
theorem hasNamed_foldl_addTo (options : Options) (choices : List Choice) (named : Named) :
    (choices.foldl Choice.addTo options).hasNamed named = true ↔
      named ∈ choices.map Choice.named ∨ options.hasNamed named = true := by
  -- The options collect along the list, so they stay quantified over.
  induction choices generalizing options with
  | nil => simp
  | cons choice choices ih =>
    rw [List.foldl_cons, ih, Options.hasNamed_addTo, List.map_cons, List.mem_cons, eq_comm]
    tauto

/-- A choice that is held stays so when other options are chosen. -/
theorem Options.Holds.foldl_addTo {options : Options} {choice : Choice}
    (holds : options.Holds choice) {choices : List Choice}
    (different : choice.named ∉ choices.map Choice.named) :
    (choices.foldl Choice.addTo options).Holds choice := by
  -- Every later choice has another name, so it leaves this place as it was.
  induction choices generalizing options with
  | nil => exact holds
  | cons other choices ih =>
    rw [List.map_cons, List.mem_cons, not_or] at different
    exact ih (holds.addTo_of_ne (Ne.symm different.1)) different.2

/-- Choices of different options are all held in the end. -/
theorem holds_foldl_addTo {options : Options} {choices : List Choice}
    (distinct : (choices.map Choice.named).Nodup) {choice : Choice} (member : choice ∈ choices) :
    (choices.foldl Choice.addTo options).Holds choice := by
  -- A choice is held once it is made, and those after it are of other options.
  induction choices generalizing options with
  | nil => cases member
  | cons first choices ih =>
    obtain ⟨fresh, rest⟩ := List.nodup_cons.mp distinct
    rcases List.mem_cons.mp member with rfl | later
    · exact (options.holds_addTo choice).foldl_addTo fresh
    · exact ih rest later

/-- Choices of different options can all be made, if none of these options has a value yet. -/
theorem foldlM_choose_of_distinct {options : Options} {choices : List Choice}
    (distinct : (choices.map Choice.named).Nodup)
    (free : ∀ named ∈ choices.map Choice.named, options.hasNamed named = false) :
    choices.foldlM Options.choose options = .ok (choices.foldl Choice.addTo options) := by
  -- Each choice leaves the options of those behind it without a value.
  induction choices generalizing options with
  | nil => rfl
  | cons choice choices ih =>
    obtain ⟨fresh, rest⟩ := List.nodup_cons.mp distinct
    have first : options.hasNamed choice.named = false := free _ (by simp)
    have made : options.choose choice = .ok (choice.addTo options) := by
      rw [Options.choose, first, if_neg Bool.false_ne_true]
    refine bind_eq_ok_iff.mpr ⟨choice.addTo options, made, ih rest fun named later => ?_⟩
    rw [← Bool.not_eq_true, Options.hasNamed_addTo, not_or, Bool.not_eq_true]
    refine ⟨?_, free named (by simp [later])⟩
    rintro rfl
    exact fresh later

/-- At the start no option has a value and no switch is on. -/
theorem hasNamed_initial (named : Named) : ({} : Options).hasNamed named = false := by
  cases named with
  | value option => cases option <;> rfl
  | switch switch => cases switch <;> rfl

/-- A choice of an option that has been chosen before is refused, whatever follows it. -/
theorem foldlM_choose_repeated {front back : List Choice} {again : Choice}
    (distinct : (front.map Choice.named).Nodup) (chosen : again.named ∈ front.map Choice.named) :
    (front ++ again :: back).foldlM Options.choose {} = .error (.repeated again.named) := by
  -- All the choices before it are made, and one of them is of the same option.
  have before := foldlM_choose_of_distinct distinct fun named _ => hasNamed_initial named
  have has := (hasNamed_foldl_addTo {} front again.named).mpr (.inl chosen)
  rw [List.foldlM_append, before]
  simp [Options.choose, has, bind, Except.bind]

/-- A choice that is added to choices of different options is refused where its option is among
them: there itself, or where the other choice of this option stands behind it. -/
theorem foldlM_choose_inserted {front back : List Choice} {again : Choice}
    (distinct : ((front ++ back).map Choice.named).Nodup)
    (chosen : again.named ∈ (front ++ back).map Choice.named) :
    (front ++ again :: back).foldlM Options.choose {} = .error (.repeated again.named) := by
  -- The first choice of the name may stand in front of the added one or behind it.
  rw [List.map_append] at distinct chosen
  rcases List.mem_append.mp chosen with earlier | later
  · exact foldlM_choose_repeated distinct.of_append_left earlier
  · -- Up to the other choice the options are different, with the added one in its place.
    obtain ⟨other, member, same⟩ := List.mem_map.mp later
    obtain ⟨between, behind, rfl⟩ := List.append_of_mem member
    rw [List.map_append, List.map_cons, ← List.append_assoc, List.nodup_middle, same] at distinct
    have different : ((front ++ again :: between).map Choice.named).Nodup := by
      rw [List.map_append, List.map_cons, List.nodup_middle]
      exact distinct.sublist ((List.sublist_append_left _ _).cons_cons _)
    have repeated : (front ++ again :: between ++ other :: behind).foldlM Options.choose {} =
        .error (.repeated other.named) := foldlM_choose_repeated different (by simp [same])
    rw [same] at repeated
    simpa using repeated

/-! ## Reading the arguments of choices -/

/-- A value that does not begin with a dash cannot be taken for an option. -/
theorem form_of_standsAlone {value : RawText} (alone : standsAlone value = true) :
    Form.of value = .plain := by
  -- Every form other than the plain one starts with a dash.
  cases value with
  | nil => rfl
  | cons piece rest =>
    have start : piece ≠ .char '-' := by simpa [standsAlone] using alone
    unfold Form.of
    split <;> simp_all

/-- Each spelling of a value is one of the grammar, and the value is safe where it stands apart. -/
theorem spells_of_arguments? {spelling : Spelling} {option : ValueOption} {value : RawText}
    {given : List RawText} (spelled : spelling.arguments? option value = some given) :
    Spells option value given ∧ ∀ argument ∈ given.tail, Form.of argument = .plain := by
  cases spelling with
  | longJoined =>
    cases spelled
    exact ⟨.longJoined, by simp⟩
  | longApart =>
    simp only [Spelling.arguments?] at spelled
    split at spelled
    · next alone =>
      cases spelled
      exact ⟨.longApart, by simpa using form_of_standsAlone alone⟩
    · cases spelled
  | shortJoined =>
    obtain ⟨name, named, rfl⟩ := Option.map_eq_some_iff.mp spelled
    exact ⟨.shortJoined named rfl, by simp⟩
  | shortAttached =>
    simp only [Spelling.arguments?] at spelled
    split at spelled
    · next attaches =>
      obtain ⟨name, named, rfl⟩ := Option.map_eq_some_iff.mp spelled
      refine ⟨.shortJoined named ?_, by simp⟩
      -- A value that is there and begins with no equals sign is attached as a whole.
      unfold attached
      split <;> simp_all [Spelling.attaches]
    · cases spelled
  | shortApart =>
    simp only [Spelling.arguments?] at spelled
    split at spelled
    · next alone =>
      obtain ⟨name, named, rfl⟩ := Option.map_eq_some_iff.mp spelled
      exact ⟨.shortApart named, by simpa using form_of_standsAlone alone⟩
    · cases spelled

/-- The arguments are over, or go on with an option or a switch. -/
def Opens (arguments : List RawText) : Prop :=
  ∀ argument ∈ arguments.head?, ∃ named value, (Form.of argument).named? = some (named, value) ∧
    ∀ switch, named = .switch switch → value = none

/-- What makes a choice begins with its option. -/
theorem Choice.IsMadeBy.opens {choice : Choice} {given : List RawText}
    (made : choice.IsMadeBy given) (arguments : List RawText) : Opens (given ++ arguments) := by
  -- The first argument names the choice, in whichever spelling it was given.
  unfold IsMadeBy at made
  cases named : choice.named with
  | value option =>
    rw [named] at made
    obtain ⟨spelling, value, spelled, -⟩ := made
    obtain ⟨spells, -⟩ := spells_of_arguments? spelled
    obtain ⟨argument, rfl⟩ | ⟨name, rfl⟩ := spells.joined_or_apart
    · rintro _ ⟨rfl⟩
      exact ⟨_, _, spells.named?_joined, fun _ same => by cases same⟩
    · rintro _ ⟨rfl⟩
      exact ⟨_, _, spells.named?_apart, fun _ same => by cases same⟩
  | switch switch =>
    rw [named] at made
    obtain rfl := made
    rintro _ ⟨rfl⟩
    exact ⟨_, _, named?_switch switch, fun _ _ => rfl⟩

/-- An argument other than the separator is read in one step. -/
theorem run_cons {progress : Progress} {argument : RawText} {rest : List RawText}
    (other : Form.of argument ≠ .separator) :
    progress.run (argument :: rest) = progress.step argument >>= fun next => next.run rest := by
  -- Only the separator ends the reading of options.
  simp only [Progress.run, if_neg other]

/-- A value that is joined to its option is stored at once. -/
theorem run_joined {option : ValueOption} {value argument : RawText}
    (spells : Spells option value [argument]) (options : Options) (arguments : List RawText) :
    Progress.run { options } (argument :: arguments) =
      (options.store option value).mapError .rejected >>= fun next =>
        Progress.run { options := next } arguments := by
  -- The value comes along with the name, so taking it never waits for another argument.
  obtain ⟨other, step⟩ := step_of_named spells.named?_joined fun _ same => by cases same
  have taken : Progress.take { options } (.value option) (some value) =
      (options.store option value).mapError .rejected >>= fun next => .ok { options := next } := rfl
  rw [run_cons other, step, taken, bind_assoc]
  rfl

/-- An option that is still open gets its value before anything else is done, when the arguments
are over and when they go on with another option. -/
theorem run_of_opens {arguments : List RawText} (opens : Opens arguments) (progress : Progress) :
    progress.run arguments =
      progress.settle.mapError .rejected >>= fun options => Progress.run { options } arguments := by
  cases arguments with
  | nil => cases settled : progress.settle <;> simp [Progress.run, settled, Except.mapError] <;> rfl
  | cons argument rest =>
    obtain ⟨named, value, names, fits⟩ := opens argument rfl
    have taken (progress : Progress) :
        progress.run (argument :: rest) =
          progress.take named value >>= fun next => next.run rest := by
      obtain ⟨other, step⟩ := step_of_named names fits
      rw [run_cons other, step]
    simp only [taken]
    -- Taking a name settles first, and there is nothing to settle a second time.
    cases settled : progress.settle with
    | error reason => simp [Progress.take, settled, Except.mapError]; rfl
    | ok options => simp [Progress.take, settled, Except.mapError]; rfl

/-- The arguments of a choice make it, in front of another option and at the end. -/
theorem run_of_made {choice : Choice} {given arguments : List RawText}
    (made : choice.IsMadeBy given) (opens : Opens arguments) (options : Options) :
    Progress.run { options } (given ++ arguments) =
      (options.choose choice).mapError .rejected >>= fun next =>
        Progress.run { options := next } arguments := by
  unfold Choice.IsMadeBy at made
  cases named : choice.named with
  | value option =>
    rw [named] at made
    obtain ⟨spelling, value, spelled, chosen⟩ := made
    obtain ⟨spells, clear⟩ := spells_of_arguments? spelled
    rw [← store_eq_choose chosen options]
    obtain ⟨argument, rfl⟩ | ⟨name, rfl⟩ := spells.joined_or_apart
    · exact run_joined spells options arguments
    · -- A value that stands apart is kept until the next option comes or the arguments are over.
      obtain ⟨other, step⟩ := step_of_named spells.named?_apart fun _ same => by cases same
      have plain : Form.of value = .plain := clear value (by simp)
      have taken : Progress.take { options } (.value option) none =
          .ok { options := options, awaiting := some ⟨option, none⟩ } := rfl
      have kept : Progress.step { options := options, awaiting := some ⟨option, none⟩ } value =
          .ok { options := options, awaiting := some ⟨option, some value⟩ } := by
        simp [Progress.step, plain]
      rw [List.cons_append, List.singleton_append, run_cons other, step, taken]
      change Progress.run _ (value :: arguments) = _
      rw [run_cons (by simp [plain]), kept]
      exact run_of_opens opens _
  | switch switch =>
    rw [named] at made
    obtain ⟨rfl, rfl⟩ : choice = .noDelay ∧ switch = .noDelay := by
      cases choice <;> cases named
      exact ⟨rfl, rfl⟩
    obtain rfl := made
    -- The switch goes on at once, or has been on before.
    obtain ⟨other, step⟩ := step_of_named (named?_switch .noDelay) fun _ _ => rfl
    have taken : Progress.take { options } (.switch .noDelay) none =
        options.turnOn .noDelay >>= fun next => .ok { options := next } := rfl
    rw [List.singleton_append, run_cons other, step, taken, turnOn_eq_choose, bind_assoc]
    rfl

/-- The arguments of several choices make them one after another. -/
theorem run_flatten {choices : List Choice} {givens : List (List RawText)}
    (made : List.Forall₂ Choice.IsMadeBy choices givens) (options : Options) :
    Progress.run { options } givens.flatten =
      (choices.foldlM Options.choose options).mapError .rejected := by
  induction made generalizing options with
  | nil => rfl
  | @cons choice given choices givens first rest ih =>
    -- Behind the first choice the next one begins, or nothing is left.
    have opens : Opens givens.flatten := by
      cases rest with
      | nil => rintro _ ⟨⟩
      | cons next => exact next.opens _
    rw [List.flatten_cons, run_of_made first opens, List.foldlM_cons]
    cases chosen : options.choose choice with
    | error reason => rfl
    | ok next => exact ih next

/-- Reading the arguments of some choices makes the choices from left to right. -/
theorem read_flatten {choices : List Choice} {givens : List (List RawText)}
    (made : List.Forall₂ Choice.IsMadeBy choices givens) :
    read givens.flatten = (choices.foldlM Options.choose {}).mapError .rejected :=
  -- A command line starts with no options and nothing awaited.
  run_flatten made {}

/-! ## Spelled choices -/

/-- The text of a chosen value reads as the choice, unless it is an empty path. -/
theorem Choice.of_valueText {choice : Choice} {option : ValueOption}
    (named : choice.named = .value option) (path : choice ≠ .config []) :
    of option choice.valueText = .ok choice := by
  -- Text is taken as it is, and a count is read back from its digits.
  have count (option : ValueOption) (count : UInt64) :
      countValue option (countText count) = .ok count := by
    have text : textValue (countText count) = .ok (String.ofList (Decimal.digits count.toNat)) := by
      have same : countText count =
          RawText.ofString (String.ofList (Decimal.digits count.toNat)) := by
        rw [RawText.ofString, String.toList_ofList, countText]
      rw [same, textValue, RawText.text?_ofString]
    simp only [countValue, text, Count.readWord_digits, bind, Except.bind]
  have text (text : String) : textValue (RawText.ofString text) = .ok text := by
    rw [textValue, RawText.text?_ofString]
  cases choice <;> cases named <;> simp_all [of, valueText, Except.map]

/-- The arguments of a spelled choice make it. -/
theorem Choice.isMadeBy_of_arguments? {choice : Choice} {spelling : Spelling}
    {given : List RawText} (path : choice ≠ .config [])
    (spelled : choice.arguments? spelling = some given) : choice.IsMadeBy given := by
  -- A written value reads back as itself, and a switch has one spelling only.
  unfold Choice.arguments? at spelled
  unfold IsMadeBy
  cases named : choice.named with
  | value option =>
    rw [named] at spelled
    exact ⟨spelling, choice.valueText, spelled, of_valueText named path⟩
  | switch switch =>
    rw [named] at spelled
    exact (Option.some.inj spelled).symm

/-- Spelled choices are made one after another by parts of their arguments. -/
theorem exists_made {choices : List (Choice × Spelling)} {arguments : List RawText}
    (paths : ∀ made ∈ choices, made.1 ≠ .config [])
    (spelled : arguments? choices = some arguments) :
    ∃ givens, givens.flatten = arguments ∧
      List.Forall₂ Choice.IsMadeBy (choices.map Prod.fst) givens := by
  obtain ⟨givens, each, rfl⟩ := Option.map_eq_some_iff.mp spelled
  refine ⟨givens, rfl, ?_⟩
  clear spelled
  -- Each choice has its own part, in the same order.
  induction choices generalizing givens with
  | nil =>
    cases each
    exact .nil
  | cons made choices ih =>
    rw [List.mapM_cons] at each
    obtain ⟨given, first, rest⟩ := Option.bind_eq_some_iff.mp each
    obtain ⟨others, behind, same⟩ := Option.bind_eq_some_iff.mp rest
    cases same
    have head := Choice.isMadeBy_of_arguments? (paths made (by simp)) first
    have tail := ih (fun other member => paths other (by simp [member])) others behind
    exact .cons head tail

/-- Choices of different options are all taken, in any order and spelling, and the other options
have no value and the default level; one more choice of any of these options, with any value that
the option accepts, in any spelling and at any place between the others, is refused as a repeated
one. -/
theorem read_spelled_choices {front back : List (Choice × Spelling)}
    {before behind : List RawText}
    (distinct : ((front ++ back).map fun made => made.1.named).Nodup)
    (paths : ∀ made ∈ front ++ back, made.1 ≠ .config [])
    (spelledFront : arguments? front = some before) (spelledBack : arguments? back = some behind) :
    let chosen := (front ++ back).map Prod.fst
    let options := Options.ofChoices chosen
    (read (before ++ behind) = .ok options ∧
      (∀ choice ∈ chosen, options.Holds choice) ∧
      (∀ named ∉ chosen.map Choice.named, options.hasNamed named = false) ∧
      (.value .logLevel ∉ chosen.map Choice.named → options.level = "info")) ∧
    ∀ (again : Choice) (given : List RawText),
      again.named ∈ chosen.map Choice.named → again.IsMadeBy given →
      read (before ++ given ++ behind) = .error (.rejected (.repeated again.named)) := by
  intro chosen options
  obtain ⟨frontGivens, rfl, frontMade⟩ :=
    exists_made (fun made member => paths made (by simp [member])) spelledFront
  obtain ⟨backGivens, rfl, backMade⟩ :=
    exists_made (fun made member => paths made (by simp [member])) spelledBack
  -- Both halves make one list of choices, in the order they are given.
  have apart : chosen = front.map Prod.fst ++ back.map Prod.fst := List.map_append
  have names : (chosen.map Choice.named).Nodup := by
    rw [List.map_map]
    exact distinct
  have bare (named : Named) (other : named ∉ chosen.map Choice.named) :
      options.hasNamed named = false := by
    rw [← Bool.not_eq_true]
    intro has
    rcases (hasNamed_foldl_addTo {} chosen named).mp has with member | initially
    · exact other member
    · simp [hasNamed_initial] at initially
  refine ⟨⟨?_, fun choice => holds_foldl_addTo names, bare, fun other => ?_⟩,
    fun again given member made => ?_⟩
  · -- No option has a value at the start, so every choice can be made.
    have parts : List.Forall₂ Choice.IsMadeBy chosen (frontGivens ++ backGivens) :=
      apart ▸ List.rel_append frontMade backMade
    rw [← List.flatten_append, read_flatten parts,
      foldlM_choose_of_distinct names fun named _ => hasNamed_initial named]
    rfl
  · have none : options.logLevel = none := by
      simpa [Options.hasNamed, Options.has] using bare _ other
    rw [Options.level, none]
    rfl
  · -- The added choice stands between the others, and so do its arguments.
    have parts : List.Forall₂ Choice.IsMadeBy
        (front.map Prod.fst ++ again :: back.map Prod.fst) (frontGivens ++ given :: backGivens) :=
      List.rel_append frontMade (.cons made backMade)
    have arguments : frontGivens.flatten ++ given ++ backGivens.flatten =
        (frontGivens ++ given :: backGivens).flatten := by simp
    rw [apart] at names member
    rw [arguments, read_flatten parts, foldlM_choose_inserted names member]
    rfl

/-- Six choices in all five spellings are taken, and a second sample size between them is
refused. -/
theorem read_spelled_choices_in_five_spellings :
    let raw := RawText.ofString
    let front : List (Choice × Spelling) :=
      -- Every spelling and every count here is a small closed term.
      [(.config (raw "-p.toml"), .longJoined), (.listen "=a", .shortJoined),
        (.calibrationIterations 18446744073709551615, .shortAttached)]
    let back : List (Choice × Spelling) :=
      [(.noDelay, .longJoined), (.workers 0, .shortApart), (.maxConnections 7, .longApart)]
    let before := ["--config=-p.toml", "-l==a", "-n18446744073709551615"].map raw
    let behind := ["--no-delay", "-w", "0", "--max-connections", "7"].map raw
    arguments? front = some before ∧ arguments? back = some behind ∧
      read (before ++ behind) = .ok {
        config := some (raw "-p.toml")
        listen := some "=a"
        calibrationIterations := some 18446744073709551615
        noDelay := true
        workers := some 0
        maxConnections := some 7 } ∧
      read (before ++ [raw "--calibration-iterations=+007"] ++ behind) =
        .error (.rejected (.repeated (.value .calibrationIterations))) := by
  intro raw front back before behind
  have spelledFront : arguments? front = some before := by decide +kernel
  have spelledBack : arguments? back = some behind := by decide +kernel
  have again : (Choice.calibrationIterations 7).IsMadeBy [raw "--calibration-iterations=+007"] :=
    ⟨.longJoined, raw "+007", by decide +kernel, by decide +kernel⟩
  obtain ⟨⟨accepted, -⟩, refused⟩ := read_spelled_choices (by decide +kernel) (by decide +kernel)
    spelledFront spelledBack
  exact ⟨spelledFront, spelledBack, accepted, refused _ _ (by decide +kernel) again⟩

end LoadServer.CommandLine
