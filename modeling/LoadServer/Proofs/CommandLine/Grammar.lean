import LoadServer.CommandLine.Spelling
import LoadServer.Proofs.Attempt
import LoadServer.Proofs.Text.Encoding

/-!
The grammar of the command lines that are accepted. Main statement: a command line is accepted
exactly if it is spelled by the grammar, which gives every option its value in the same order.
-/

namespace LoadServer

namespace CommandLine

open Spelling

/-! ## Arguments and their forms -/

/-- Nothing but the equals sign is lost where an argument is split. -/
theorem eq_of_splitEquals {raw name : RawText} {value : Option RawText}
    (split : splitEquals raw = (name, value)) :
    raw = name ++ (value.map fun value => .char '=' :: value).getD [] := by
  -- Splitting walks to the first equals sign and hands out what it passes.
  induction raw generalizing name with
  | nil =>
    cases split
    rfl
  | cons piece rest ih =>
    unfold splitEquals at split
    by_cases equals : piece = .char '='
    · rw [if_pos equals] at split
      cases split
      rw [equals]
      rfl
    · rw [if_neg equals] at split
      cases split
      rw [List.cons_append, ← ih rfl]

/-- An argument of the long form is two dashes, its name, and its value behind an equals sign. -/
theorem eq_of_form_long {argument name : RawText} {value : Option RawText}
    (form : Form.of argument = .long name value) :
    argument = .char '-' :: .char '-' ::
      (name ++ (value.map fun value => .char '=' :: value).getD []) := by
  -- Of the four forms only one splits the text behind two dashes.
  unfold Form.of at form
  split at form
  · cases form
  · next rest _ =>
    cases split : splitEquals rest with
    | mk front back =>
      rw [split] at form
      cases form
      rw [eq_of_splitEquals split]
  · cases form
  · cases form

/-- An argument of the short form is a dash, its name, and what follows it. -/
theorem eq_of_form_short {argument after : RawText} {first : Piece}
    (form : Form.of argument = .short first after) : argument = .char '-' :: first :: after := by
  -- Of the four forms only one takes the first piece behind a dash apart.
  unfold Form.of at form
  split at form
  · cases form
  · cases form
  · cases form
    rfl
  · cases form

/-- Two dashes alone are the separator, and nothing else is. -/
theorem form_eq_separator_iff {argument : RawText} :
    Form.of argument = .separator ↔ argument = [.char '-', .char '-'] := by
  -- The other forms are told apart by what follows the dashes.
  refine ⟨fun form => ?_, fun same => by rw [same]; rfl⟩
  unfold Form.of at form
  split at form
  · rfl
  · cases form
  · cases form
  · cases form

/-- The long name of an option or a switch. -/
def Named.long : Named → String
  | value option => option.long
  | switch found => found.long

/-- The short name of an option or a switch, where there is one. -/
def Named.short? : Named → Option Char
  | value option => option.short?
  | switch found => found.short?

/-- What a long name stands for has this name. -/
theorem Named.long_of_ofLong? {name : String} {named : Named} (found : ofLong? name = some named) :
    named.long = name := by
  -- The search goes through the options and then through the switches, by name.
  rw [ofLong?, Option.orElse_eq_orElse, Option.orElse_eq_or, Option.or_eq_some_iff] at found
  obtain values | ⟨-, switches⟩ := found
  · obtain ⟨option, known, rfl⟩ := Option.map_eq_some_iff.mp values
    simpa [long] using List.find?_some known
  · obtain ⟨switch, known, rfl⟩ := Option.map_eq_some_iff.mp switches
    simpa [long] using List.find?_some known

/-- What a short name stands for has this name. -/
theorem Named.short?_of_ofShort? {name : Char} {named : Named}
    (found : ofShort? name = some named) : named.short? = some name := by
  -- The search is the same as for long names.
  rw [ofShort?, Option.orElse_eq_orElse, Option.orElse_eq_or, Option.or_eq_some_iff] at found
  obtain values | ⟨-, switches⟩ := found
  · obtain ⟨option, known, rfl⟩ := Option.map_eq_some_iff.mp values
    simpa [short?] using List.find?_some known
  · obtain ⟨switch, known, rfl⟩ := Option.map_eq_some_iff.mp switches
    simpa [short?] using List.find?_some known

/-! ## The grammar -/

/-- The arguments that give a value to an option. -/
inductive Spells (option : ValueOption) (value : RawText) : List RawText → Prop where
  | longJoined : Spells option value [longName option.long ++ .char '=' :: value]
  | longApart : Spells option value [longName option.long, value]
  | shortJoined {name : Char} {after : RawText} (named : option.short? = some name)
      (joined : attached after = some value) : Spells option value [shortName name ++ after]
  | shortApart {name : Char} (named : option.short? = some name) :
      Spells option value [shortName name, value]

/-- A value is joined to its option or stands apart behind it. -/
theorem Spells.joined_or_apart {option : ValueOption} {value : RawText} {given : List RawText}
    (spelled : Spells option value given) :
    (∃ argument, given = [argument]) ∨ ∃ name, given = [name, value] := by
  -- A joined spelling is one argument, and a spelling apart is two.
  cases spelled with
  | longJoined => exact .inl ⟨_, rfl⟩
  | longApart => exact .inr ⟨_, rfl⟩
  | shortJoined => exact .inl ⟨_, rfl⟩
  | shortApart => exact .inr ⟨_, rfl⟩

/-- The arguments that are accepted after some options have been given, and all the options that
are given in the end. -/
inductive Parses : Options → List RawText → Options → Prop where
  | done {options : Options} : Parses options [] options
  | separated {options : Options} : Parses options [[.char '-', .char '-']] options
  /-- A value that stands apart must not look like an option. -/
  | value {options next last : Options} {option : ValueOption} {value : RawText}
      {given arguments : List RawText} (spelled : Spells option value given)
      (clear : ∀ argument ∈ given.tail, Form.of argument = .plain)
      (stored : options.store option value = .ok next) (rest : Parses next arguments last) :
      Parses options (given ++ arguments) last
  | switch {options next last : Options} {switch : Switch} {arguments : List RawText}
      (turned : options.turnOn switch = .ok next) (rest : Parses next arguments last) :
      Parses options (longName switch.long :: arguments) last

/-- A value that is written behind an equals sign is found by the long form. -/
theorem form_longJoined (option : ValueOption) (value : RawText) :
    Form.of (longName option.long ++ .char '=' :: value) =
      .long (RawText.ofString option.long) (some value) := by
  -- The table of long names is finite, and no name in it holds an equals sign.
  cases option <;> rfl

/-- An option without a value is found by the long form. -/
theorem form_longName (option : ValueOption) :
    Form.of (longName option.long) = .long (RawText.ofString option.long) none := by
  -- No long name holds an equals sign.
  cases option <;> rfl

/-- An option is found by the short form. -/
theorem form_shortName {option : ValueOption} {name : Char} (named : option.short? = some name)
    (after : RawText) : Form.of (shortName name ++ after) = .short (.char name) after := by
  -- No short name is a dash, so the argument is not taken for a long one.
  cases option <;> cases named <;> rfl

/-- Every option that takes a value is known by its long name. -/
theorem ofLong?_long (option : ValueOption) : Named.ofLong? option.long = some (.value option) := by
  cases option <;> rfl

/-- Every option with a short name is known by it. -/
theorem ofShort?_short {option : ValueOption} {name : Char} (named : option.short? = some name) :
    Named.ofShort? name = some (.value option) := by
  -- The short names are pairwise different.
  cases option <;> cases named <;> rfl

/-- A named option is acted upon once the open one has got its value. -/
theorem take_eq_ok_iff {progress next : Progress} {named : Named} {value : Option RawText} :
    progress.take named value = .ok next ↔
      ∃ options, progress.settle = .ok options ∧
        match named, value with
        | .switch switch, _ =>
          ∃ turned, options.turnOn switch = .ok turned ∧ { options := turned } = next
        | .value option, some value =>
          ∃ stored, options.store option value = .ok stored ∧ { options := stored } = next
        | .value option, none =>
          { options := options, awaiting := some ⟨option, none⟩ } = next := by
  -- The open option may fail to get its value, and so may the named one.
  cases settled : progress.settle with
  | error reason => simp [Progress.take, settled]
  | ok options =>
    cases named with
    | switch switch =>
      simp [Progress.take, settled]
    | value option =>
      cases value with
      | none => simp [Progress.take, settled]
      | some value => simp [Progress.take, settled]

/-- The option or switch that an argument names, with the value joined to it. -/
def Form.named? : Form → Option (Named × Option RawText)
  | .long name value => (name.text?.bind Named.ofLong?).map fun named => (named, value)
  | .short (.char first) after => (Named.ofShort? first).map fun named => (named, attached after)
  | _ => none

/-- A joined value names its option. -/
theorem Spells.named?_joined {option : ValueOption} {value argument : RawText}
    (spelled : Spells option value [argument]) :
    (Form.of argument).named? = some (.value option, some value) := by
  -- Both joined spellings attach the value to the name.
  cases spelled with
  | longJoined => simp [form_longJoined, Form.named?, ofLong?_long]
  | shortJoined named joined =>
    simp [form_shortName named, Form.named?, ofShort?_short named, joined]

/-- A name that stands apart names its option alone. -/
theorem Spells.named?_apart {option : ValueOption} {value name : RawText}
    (spelled : Spells option value [name, value]) :
    (Form.of name).named? = some (.value option, none) := by
  -- Nothing is attached to the name, so the value is looked for in the next argument.
  cases spelled with
  | longApart => simp [form_longName, Form.named?, ofLong?_long]
  | shortApart named =>
    have form := form_shortName named []
    rw [List.append_nil] at form
    simp [form, Form.named?, ofShort?_short named, attached]

/-- The long name of a switch names it. -/
theorem named?_switch (switch : Switch) :
    (Form.of (longName switch.long)).named? = some (.switch switch, none) := by
  cases switch <;> rfl

/-- A named option or switch is acted upon, unless a switch is given a value. -/
theorem step_of_named {progress : Progress} {argument : RawText} {named : Named}
    {value : Option RawText} (names : (Form.of argument).named? = some (named, value))
    (fits : ∀ switch, named = .switch switch → value = none) :
    Form.of argument ≠ .separator ∧ progress.step argument = progress.take named value := by
  -- Only a switch with a value is refused where its name is known.
  cases form : Form.of argument with
  | separator => simp [form, Form.named?] at names
  | plain => simp [form, Form.named?] at names
  | long name joined =>
    rw [form] at names
    obtain ⟨known, found, same⟩ := Option.map_eq_some_iff.mp names
    cases same
    cases named with
    | value option => simp [Progress.step, form, found]
    | switch switch => simp [Progress.step, form, found, fits switch rfl]
  | short first after =>
    cases first with
    | broken bytes => simp [form, Form.named?] at names
    | char letter =>
      rw [form] at names
      obtain ⟨known, found, same⟩ := Option.map_eq_some_iff.mp names
      cases same
      simp [Progress.step, form, found]

/-- Reading ends by giving the open option its value. -/
theorem run_nil_eq_ok_iff {progress : Progress} {last : Options} :
    progress.run [] = .ok last ↔ progress.settle = .ok last := by
  -- With no argument left, only an unanswered name can still fail.
  simp only [Progress.run]
  cases progress.settle <;> simp [Except.mapError]

/-- Nothing is read behind the separator. -/
theorem run_separator_eq_ok_iff {progress : Progress} {last : Options} :
    progress.run [[.char '-', .char '-']] = .ok last ↔ progress.settle = .ok last := by
  -- After the separator nothing is read, so the options settle as at the end.
  simp only [Progress.run, form_eq_separator_iff, if_true]
  cases progress.settle <;> simp [Except.mapError]

/-- Arguments other than the separator are read one by one. -/
theorem run_cons_eq_ok_iff {progress : Progress} {last : Options} {argument : RawText}
    {rest : List RawText} (other : Form.of argument ≠ .separator) :
    progress.run (argument :: rest) = .ok last ↔
      ∃ next, progress.step argument = .ok next ∧ next.run rest = .ok last := by
  -- An argument other than the separator is one step and then the rest.
  simp only [Progress.run, if_neg other]
  cases progress.step argument <;> simp [bind, Except.bind]

/-- Of the switches only one goes on with the command line, and that once. -/
theorem turnOn_eq_ok_iff {options next : Options} {switch : Switch} :
    options.turnOn switch = .ok next ↔
      switch = .noDelay ∧ options.noDelay = false ∧ { options with noDelay := true } = next := by
  -- The other two switches stop the program in place of turning something on.
  cases switch with
  | noDelay => cases on : options.noDelay <;> simp [Options.turnOn, on]
  | help => simp [Options.turnOn]
  | version => simp [Options.turnOn]

/-- An argument that names an option spells it, with the joined value or with any that follows. -/
theorem spells_of_named? {argument : RawText} {option : ValueOption} {value : Option RawText}
    (names : (Form.of argument).named? = some (.value option, value)) :
    (∀ joined, value = some joined → Spells option joined [argument]) ∧
      (value = none → ∀ apart, Spells option apart [argument, apart]) := by
  -- Only the long and the short form name anything, and both can be undone.
  cases form : Form.of argument with
  | separator => simp [form, Form.named?] at names
  | plain => simp [form, Form.named?] at names
  | long name joined =>
    rw [form] at names
    obtain ⟨named, found, same⟩ := Option.map_eq_some_iff.mp names
    cases same
    obtain ⟨text, read, known⟩ := Option.bind_eq_some_iff.mp found
    obtain rfl := RawText.eq_ofString_of_text? read
    obtain rfl := Named.long_of_ofLong? known
    rw [eq_of_form_long form]
    refine ⟨?_, ?_⟩
    · rintro value rfl
      exact .longJoined
    · rintro rfl apart
      rw [Option.map_none, Option.getD_none, List.append_nil]
      exact .longApart
  | short first after =>
    cases first with
    | broken bytes => simp [form, Form.named?] at names
    | char name =>
      rw [form] at names
      obtain ⟨named, found, same⟩ := Option.map_eq_some_iff.mp names
      cases same
      have known : option.short? = some name := Named.short?_of_ofShort? found
      rw [eq_of_form_short form]
      refine ⟨fun value joined => .shortJoined known joined, fun nothing apart => ?_⟩
      -- Nothing is attached only where nothing follows the name.
      cases after with
      | nil => exact .shortApart known
      | cons piece rest =>
        unfold attached at nothing
        split at nothing <;> simp_all

/-- An argument that is neither plain nor the separator is read as what it names, and a switch that
goes on is named by its long name alone. -/
theorem named?_of_step {progress next : Progress} {argument : RawText}
    (stepped : progress.step argument = .ok next) (other : Form.of argument ≠ .separator)
    (shaped : Form.of argument ≠ .plain) :
    ∃ named value, (Form.of argument).named? = some (named, value) ∧
      progress.take named value = .ok next ∧
      ∀ switch, named = .switch switch → argument = longName switch.long ∧ value = none := by
  cases form : Form.of argument with
  | separator => exact absurd form other
  | plain => exact absurd form shaped
  | long name value =>
    cases found : name.text?.bind Named.ofLong? with
    | none => simp [Progress.step, form, found] at stepped
    | some named =>
      cases named with
      | value option =>
        refine ⟨.value option, value, by simp [Form.named?, found], ?_, fun _ same => by cases same⟩
        simpa [Progress.step, form, found] using stepped
      | switch switch =>
        -- A value behind an equals sign is refused.
        cases value with
        | some value => simp [Progress.step, form, found] at stepped
        | none =>
          refine ⟨.switch switch, none, by simp [Form.named?, found], ?_, ?_⟩
          · simpa [Progress.step, form, found] using stepped
          · rintro otherSwitch ⟨rfl⟩
            obtain ⟨text, read, known⟩ := Option.bind_eq_some_iff.mp found
            obtain rfl := RawText.eq_ofString_of_text? read
            obtain rfl := Named.long_of_ofLong? known
            rw [eq_of_form_long form, Option.map_none, Option.getD_none, List.append_nil]
            exact ⟨rfl, rfl⟩
  | short first after =>
    cases first with
    | broken bytes => simp [Progress.step, form] at stepped
    | char name =>
      cases found : Named.ofShort? name with
      | none => simp [Progress.step, form, found] at stepped
      | some named =>
        have taken : progress.take named (attached after) = .ok next := by
          simpa [Progress.step, form, found] using stepped
        refine ⟨named, attached after, by simp [Form.named?, found], taken, ?_⟩
        -- The only switch that goes on has no short name.
        rintro switch rfl
        obtain ⟨options, -, turned, turns, -⟩ := take_eq_ok_iff.mp taken
        obtain ⟨rfl, -⟩ := turnOn_eq_ok_iff.mp turns
        have known := Named.short?_of_ofShort? found
        cases known

/-- An argument that is read is the value that was still to come, or it is named. -/
theorem step_eq_ok {progress next : Progress} {argument : RawText}
    (stepped : progress.step argument = .ok next) (other : Form.of argument ≠ .separator) :
    (∃ option, progress.awaiting = some ⟨option, none⟩ ∧ Form.of argument = .plain ∧
      { progress with awaiting := some ⟨option, some argument⟩ } = next) ∨
    (∃ option value, Spells option value [argument] ∧
      progress.take (.value option) (some value) = .ok next) ∨
    (∃ option, (∀ value, Spells option value [argument, value]) ∧
      progress.take (.value option) none = .ok next) ∨
    (∃ switch, argument = longName switch.long ∧
      progress.take (.switch switch) none = .ok next) := by
  -- A plain argument answers a name, and every other one opens a name of its own.
  by_cases plain : Form.of argument = .plain
  · -- A plain argument is welcome only as a value.
    left
    cases waiting : progress.awaiting with
    | none => simp [Progress.step, plain, waiting] at stepped
    | some opened =>
      obtain ⟨option, value⟩ := opened
      cases value with
      | some value => simp [Progress.step, plain, waiting] at stepped
      | none => exact ⟨option, rfl, plain, by simpa [Progress.step, plain, waiting] using stepped⟩
  · right
    obtain ⟨named, value, names, taken, alone⟩ := named?_of_step stepped other plain
    cases named with
    | value option =>
      obtain ⟨joined, apart⟩ := spells_of_named? names
      cases value with
      | some value => exact .inl ⟨option, value, joined value rfl, taken⟩
      | none => exact .inr (.inl ⟨option, apart rfl, taken⟩)
    | switch switch =>
      obtain ⟨named, rfl⟩ := alone switch rfl
      exact .inr (.inr ⟨switch, named, taken⟩)

/-- An open option cannot be settled before its value has come. -/
theorem ne_of_settle {progress : Progress} {options : Options}
    (settled : progress.settle = .ok options) (option : ValueOption) :
    progress.awaiting ≠ some ⟨option, none⟩ := by
  -- A value that is missing is what settling complains about.
  intro waiting
  rw [Progress.settle, waiting] at settled
  cases settled

/-- Arguments that are accepted follow the grammar, once a value that is still to come has come. -/
theorem parses_of_run {arguments : List RawText} {progress : Progress} {last : Options}
    (ran : progress.run arguments = .ok last) :
    (∀ option, progress.awaiting = some ⟨option, none⟩ →
      ∃ value rest next, arguments = value :: rest ∧ Form.of value = .plain ∧
        progress.options.store option value = .ok next ∧ Parses next rest last) ∧
    ((∀ option, progress.awaiting ≠ some ⟨option, none⟩) →
      ∃ options, progress.settle = .ok options ∧ Parses options arguments last) := by
  -- One argument at a time: a name that stands apart leaves its value to the next one.
  induction arguments generalizing progress with
  | nil =>
    have settled := run_nil_eq_ok_iff.mp ran
    exact ⟨fun option waiting => absurd waiting (ne_of_settle settled option),
      fun _ => ⟨last, settled, .done⟩⟩
  | cons argument rest ih =>
    by_cases form : Form.of argument = .separator
    · obtain rfl := form_eq_separator_iff.mp form
      cases rest with
      | cons extra more => simp [Progress.run, form] at ran
      | nil =>
        have settled := run_separator_eq_ok_iff.mp ran
        exact ⟨fun option waiting => absurd waiting (ne_of_settle settled option),
          fun _ => ⟨last, settled, .separated⟩⟩
    · obtain ⟨next, stepped, ranRest⟩ := (run_cons_eq_ok_iff form).mp ran
      obtain ⟨waitingFor, settledTo⟩ := ih ranRest
      obtain ⟨option, waiting, plain, rfl⟩ | ⟨option, value, spelled, taken⟩ |
        ⟨option, spelled, taken⟩ | ⟨switch, rfl, taken⟩ := step_eq_ok stepped form
      · -- The argument is the value that was still to come.
        obtain ⟨options, stored, parses⟩ := settledTo fun other openYet => by cases openYet
        refine ⟨fun other waitingSo => ?_, fun none => absurd waiting (none option)⟩
        obtain rfl : option = other := by simpa [waiting] using waitingSo
        exact ⟨argument, rest, options, rfl, plain, stored, parses⟩
      · obtain ⟨options, settled, stored, storing, rfl⟩ := take_eq_ok_iff.mp taken
        obtain ⟨same, settledSo, parses⟩ := settledTo fun other openYet => by cases openYet
        cases settledSo
        refine ⟨fun other waiting => absurd waiting (ne_of_settle settled other),
          fun _ => ⟨options, settled, ?_⟩⟩
        exact .value spelled (fun _ member => by cases member) storing parses
      · obtain ⟨options, settled, rfl⟩ := take_eq_ok_iff.mp taken
        obtain ⟨value, more, stored, rfl, plain, storing, parses⟩ := waitingFor option rfl
        refine ⟨fun other waiting => absurd waiting (ne_of_settle settled other),
          fun _ => ⟨options, settled, ?_⟩⟩
        exact .value (spelled value) (by simpa using plain) storing parses
      · obtain ⟨options, settled, turned, turning, rfl⟩ := take_eq_ok_iff.mp taken
        obtain ⟨same, settledSo, parses⟩ := settledTo fun other openYet => by cases openYet
        cases settledSo
        exact ⟨fun other waiting => absurd waiting (ne_of_settle settled other),
          fun _ => ⟨options, settled, .switch turning parses⟩⟩

/-- Arguments that follow the grammar are accepted. -/
theorem run_of_parses {arguments : List RawText} {options last : Options}
    (parses : Parses options arguments last) {progress : Progress}
    (settled : progress.settle = .ok options) : progress.run arguments = .ok last := by
  -- Each piece of the grammar is read in one step, or in two if its value stands apart.
  induction parses generalizing progress with
  | done => exact run_nil_eq_ok_iff.mpr settled
  | separated => exact run_separator_eq_ok_iff.mpr settled
  | @value options next last option value given arguments spelled clear stored rest ih =>
    obtain ⟨argument, rfl⟩ | ⟨name, rfl⟩ := spelled.joined_or_apart
    · obtain ⟨form, step⟩ := step_of_named spelled.named?_joined fun _ same => by cases same
      refine (run_cons_eq_ok_iff form).mpr ⟨{ options := next }, ?_, ih rfl⟩
      rw [step]
      exact take_eq_ok_iff.mpr ⟨options, settled, next, stored, rfl⟩
    · -- The name leaves the option open, and the value behind it is read later.
      obtain ⟨form, step⟩ := step_of_named spelled.named?_apart fun _ same => by cases same
      have plain : Form.of value = .plain := clear value (by simp)
      have opened : progress.take (.value option) none =
          .ok { options := options, awaiting := some ⟨option, none⟩ } :=
        take_eq_ok_iff.mpr ⟨options, settled, rfl⟩
      refine (run_cons_eq_ok_iff form).mpr ⟨_, step.trans opened, ?_⟩
      refine (run_cons_eq_ok_iff (by simp [plain])).mpr
        ⟨{ options := options, awaiting := some ⟨option, some value⟩ }, ?_, ih stored⟩
      simp [Progress.step, plain]
  | @switch options next last switch arguments turned rest ih =>
    obtain ⟨form, step⟩ := step_of_named (named?_switch switch) fun _ _ => rfl
    refine (run_cons_eq_ok_iff form).mpr ⟨{ options := next }, ?_, ih rfl⟩
    rw [step]
    exact take_eq_ok_iff.mpr ⟨options, settled, next, turned, rfl⟩

/-- A command line is accepted exactly if it follows the grammar. -/
theorem read_eq_ok_iff {arguments : List RawText} {options : Options} :
    read arguments = .ok options ↔ Parses {} arguments options := by
  -- At the start no option is open.
  refine ⟨fun accepted => ?_, fun parses => run_of_parses parses rfl⟩
  obtain ⟨start, same, parses⟩ := (parses_of_run accepted).2 fun option openYet => by cases openYet
  cases same
  exact parses

end CommandLine

end LoadServer
