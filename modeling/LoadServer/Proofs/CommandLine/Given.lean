import LoadServer.Proofs.CommandLine.Grammar

/-!
What is given on an accepted command line. Main statements: every option holds the value that is
given to it somewhere among the arguments, and an option that holds a value has been given one.
-/

namespace LoadServer.CommandLine

open Spelling

/-- Somewhere among some arguments an option is given a value. -/
def Gives (option : ValueOption) (value : RawText) (arguments : List RawText) : Prop :=
  ∃ given, Spells option value given ∧ given <:+: arguments

/-! ## Choices -/

/-- The choice that a value makes for an option. -/
def Choice.of (option : ValueOption) (value : RawText) : Except Rejection Choice :=
  match option with
  | .config => if value.isEmpty then .error (.missingValue .config) else .ok (.config value)
  | .listen => (textValue value).map .listen
  | .calibrationIterations => (countValue .calibrationIterations value).map .calibrationIterations
  | .workers => (countValue .workers value).map .workers
  | .maxConnections => (countValue .maxConnections value).map .maxConnections
  | .logLevel => (textValue value).map .logLevel

/-- Options hold a choice that changes nothing in them. -/
def Options.Holds (options : Options) (choice : Choice) : Prop :=
  choice.addTo options = options

/-- An option that has no value yet is given one by making a choice. -/
theorem store_eq_ok_iff {options next : Options} {option : ValueOption} {value : RawText} :
    options.store option value = .ok next ↔
      options.has option = false ∧
        ∃ choice, Choice.of option value = .ok choice ∧ choice.addTo options = next := by
  -- Storing checks for an earlier value and then reads the new one as its choice is read.
  unfold Options.store
  cases has : options.has option with
  | true => simp
  | false =>
    cases option with
    | config => by_cases empty : value.isEmpty <;> simp [Choice.of, Choice.addTo, empty]
    | _ => simp [Choice.of, Choice.addTo]

/-- The choice of a value is one for its option. -/
theorem Choice.named_of {option : ValueOption} {value : RawText} {choice : Choice}
    (chosen : of option value = .ok choice) : choice.named = .value option := by
  -- Each option reads its value into a choice of its own.
  cases option with
  | config =>
    by_cases empty : value.isEmpty
    · simp [of, empty] at chosen
    · obtain rfl : .config value = choice := by simpa [of, empty] using chosen
      rfl
  | _ =>
    obtain ⟨found, -, rfl⟩ := map_eq_ok_iff.mp chosen
    rfl

/-- Options hold a choice exactly if they have its value. -/
theorem Options.holds_iff {options : Options} {choice : Choice} :
    options.Holds choice ↔
      match choice with
      | .config path => options.config = some path
      | .listen address => options.listen = some address
      | .calibrationIterations count => options.calibrationIterations = some count
      | .workers count => options.workers = some count
      | .maxConnections count => options.maxConnections = some count
      | .noDelay => options.noDelay = true
      | .logLevel level => options.logLevel = some level := by
  -- A choice changes a single field, which is as it should be or not.
  obtain ⟨config, listen, calibrationIterations, workers, maxConnections, noDelay, logLevel⟩ :=
    options
  cases choice <;> simp [Holds, Choice.addTo, eq_comm]

/-- A choice that is made is held. -/
theorem Options.holds_addTo (options : Options) (choice : Choice) :
    (choice.addTo options).Holds choice := by
  -- Each choice writes the field it is read back from.
  cases choice <;> rfl

/-- A choice that is held stays so when an option without a value is given one. -/
theorem Options.Holds.addTo {options : Options} {choice other : Choice} {option : ValueOption}
    (holds : options.Holds choice) (named : other.named = .value option)
    (free : options.has option = false) : (other.addTo options).Holds choice := by
  -- Only a second value for the same option could take its place.
  rw [holds_iff] at holds ⊢
  cases other <;> cases named <;> cases choice <;> simp_all [Choice.addTo, has]

/-- Giving an option a value changes which options have one for this option alone. -/
theorem Options.has_addTo {options : Options} {choice : Choice} {option other : ValueOption}
    (named : choice.named = .value option) (has : (choice.addTo options).has other = true) :
    other = option ∨ options.has other = true := by
  -- A field that has a value now had it before, or is the one just written.
  cases choice <;> cases named <;> cases other <;> simp_all [Choice.addTo, Options.has]

/-- A choice that is held stays so when a switch is turned on. -/
theorem Options.Holds.turnOn {options next : Options} {choice : Choice} {switch : Switch}
    (holds : options.Holds choice) (turned : options.turnOn switch = .ok next) :
    next.Holds choice := by
  -- A switch changes no field of an option with a value.
  obtain ⟨-, -, rfl⟩ := turnOn_eq_ok_iff.mp turned
  rw [holds_iff] at holds ⊢
  cases choice <;> simp_all

/-- Turning on a switch gives no option a value. -/
theorem Options.has_turnOn {options next : Options} {option : ValueOption} {switch : Switch}
    (turned : options.turnOn switch = .ok next) : next.has option = options.has option := by
  -- A switch writes a field that no value option reads.
  obtain ⟨-, -, rfl⟩ := turnOn_eq_ok_iff.mp turned
  cases option <;> rfl

/-! ## Accepted arguments -/

/-- Among arguments a value is given by the first one, by the first two, or behind the first. -/
theorem gives_cons_iff {option : ValueOption} {value argument : RawText} {rest : List RawText} :
    Gives option value (argument :: rest) ↔
      Spells option value [argument] ∨
        (∃ more, rest = value :: more ∧ Spells option value [argument, value]) ∨
          Gives option value rest := by
  -- An infix begins at the first argument or lies behind it, and it is one argument or two.
  constructor
  · rintro ⟨given, spelled, inside⟩
    rcases List.infix_cons_iff.mp inside with front | behind
    · obtain ⟨first, rfl⟩ | ⟨name, rfl⟩ := spelled.joined_or_apart
      · obtain rfl : first = argument := by simpa using front
        exact .inl spelled
      · obtain ⟨rfl, more, rfl⟩ : name = argument ∧ ∃ more, value :: more = rest := by
          simpa [List.cons_prefix_cons, List.IsPrefix] using front
        exact .inr (.inl ⟨more, rfl, spelled⟩)
    · exact .inr (.inr ⟨given, spelled, behind⟩)
  · rintro (spelled | ⟨more, rfl, spelled⟩ | ⟨given, spelled, inside⟩)
    · exact ⟨_, spelled, (List.prefix_append [argument] rest).isInfix⟩
    · exact ⟨_, spelled, (List.prefix_append [argument, value] more).isInfix⟩
    · exact ⟨given, spelled, List.infix_cons_iff.mpr (.inr inside)⟩

/-- A first argument that names nothing with a value gives no value. -/
theorem Gives.tail {option : ValueOption} {value argument : RawText} {rest : List RawText}
    (gives : Gives option value (argument :: rest))
    (other : ∀ joined, (Form.of argument).named? ≠ some (.value option, joined)) :
    Gives option value rest := by
  -- What gives a value begins with an argument that names the option.
  obtain spelled | ⟨more, -, spelled⟩ | behind := gives_cons_iff.mp gives
  · exact absurd spelled.named?_joined (other _)
  · exact absurd spelled.named?_apart (other _)
  · exact behind

/-- No value is given by no arguments. -/
theorem not_gives_nil (option : ValueOption) (value : RawText) : ¬ Gives option value [] := by
  -- Giving a value takes one argument at least.
  rintro ⟨given, spelled, inside⟩
  obtain ⟨argument, rfl⟩ | ⟨name, rfl⟩ := spelled.joined_or_apart
  · simp at inside
  · simp at inside

/-- Arguments that are accepted lose no choice that has been made before. -/
theorem Parses.holds {options last : Options} {arguments : List RawText} {choice : Choice}
    (parses : Parses options arguments last) (holds : options.Holds choice) :
    last.Holds choice := by
  -- What is stored later is stored for another option.
  induction parses with
  | done => exact holds
  | separated => exact holds
  | value spelled clear stored rest ih =>
    obtain ⟨free, other, chosen, rfl⟩ := store_eq_ok_iff.mp stored
    exact ih (holds.addTo (Choice.named_of chosen) free)
  | switch turned rest ih => exact ih (holds.turnOn turned)

/-- A value that is stored stays for the rest of the arguments. -/
theorem Parses.holds_of_store {options next last : Options} {arguments : List RawText}
    {option : ValueOption} {value : RawText} (stored : options.store option value = .ok next)
    (rest : Parses next arguments last) :
    ∃ choice, Choice.of option value = .ok choice ∧ last.Holds choice := by
  -- What is stored stays, since an option is never given a second value.
  obtain ⟨-, choice, chosen, rfl⟩ := store_eq_ok_iff.mp stored
  exact ⟨choice, chosen, rest.holds (options.holds_addTo choice)⟩

/-- Each value that is given among accepted arguments is held in the end. -/
theorem Parses.holds_of_gives {options last : Options} {arguments : List RawText}
    {option : ValueOption} {value : RawText} (parses : Parses options arguments last)
    (gives : Gives option value arguments) :
    ∃ choice, Choice.of option value = .ok choice ∧ last.Holds choice := by
  -- What gives the value is read as a whole: nothing that stands apart names an option.
  induction parses with
  | done => exact absurd gives (not_gives_nil option value)
  | separated =>
    exact absurd (gives.tail fun joined same => by cases same) (not_gives_nil option value)
  | @switch options next last switch arguments turned rest ih =>
    refine ih (gives.tail fun joined same => ?_)
    rw [named?_switch] at same
    cases same
  | @value options next last other found given arguments spelled clear stored rest ih =>
    obtain ⟨argument, rfl⟩ | ⟨name, rfl⟩ := spelled.joined_or_apart
    · obtain spelledSo | ⟨more, -, spelledSo⟩ | behind := gives_cons_iff.mp gives
      · have same := spelled.named?_joined.symm.trans spelledSo.named?_joined
        cases same
        exact rest.holds_of_store stored
      · have same := spelled.named?_joined.symm.trans spelledSo.named?_apart
        cases same
      · exact ih behind
    · obtain spelledSo | ⟨more, nextSo, spelledSo⟩ | behind := gives_cons_iff.mp gives
      · have same := spelled.named?_apart.symm.trans spelledSo.named?_joined
        cases same
      · have same := spelled.named?_apart.symm.trans spelledSo.named?_apart
        cases same
        cases nextSo
        exact rest.holds_of_store stored
      · have plain : Form.of found = .plain := clear found (by simp)
        exact ih (behind.tail fun joined same => by rw [plain] at same; cases same)

/-- An option that has a value in the end had it before or is given it. -/
theorem Parses.gives_of_has {options last : Options} {arguments : List RawText}
    {option : ValueOption} (parses : Parses options arguments last)
    (has : last.has option = true) :
    options.has option = true ∨ ∃ value, Gives option value arguments := by
  -- An option gets its value in one piece of the grammar, which is an infix of the whole.
  induction parses with
  | done => exact .inl has
  | separated => exact .inl has
  | @switch options next last switch arguments turned rest ih =>
    obtain before | ⟨value, gives⟩ := ih has
    · exact .inl (Options.has_turnOn turned ▸ before)
    · exact .inr ⟨value, gives_cons_iff.mpr (.inr (.inr gives))⟩
  | @value options next last other found given arguments spelled clear stored rest ih =>
    obtain before | ⟨value, gives⟩ := ih has
    · obtain ⟨-, choice, chosen, rfl⟩ := store_eq_ok_iff.mp stored
      obtain rfl | earlier := Options.has_addTo (Choice.named_of chosen) before
      · exact .inr ⟨found, given, spelled, (List.prefix_append given arguments).isInfix⟩
      · exact .inl earlier
    · obtain ⟨more, spelledSo, inside⟩ := gives
      exact .inr ⟨value, more, spelledSo, inside.trans (List.suffix_append given arguments).isInfix⟩

/-- Each value that is given on an accepted command line is held by the options. -/
theorem holds_of_gives {arguments : List RawText} {options : Options} {option : ValueOption}
    {value : RawText} (accepted : read arguments = .ok options)
    (gives : Gives option value arguments) :
    ∃ choice, Choice.of option value = .ok choice ∧ options.Holds choice :=
  -- Reading succeeds exactly by a parse, and the parse keeps what each argument gives.
  (read_eq_ok_iff.mp accepted).holds_of_gives gives

/-- An option that no value is given to on an accepted command line has none. -/
theorem has_eq_false_of_not_gives {arguments : List RawText} {options : Options}
    {option : ValueOption} (accepted : read arguments = .ok options)
    (without : ∀ value, ¬ Gives option value arguments) : options.has option = false := by
  -- At the start no option has a value.
  rw [← Bool.not_eq_true]
  intro has
  obtain initially | ⟨value, gives⟩ := (read_eq_ok_iff.mp accepted).gives_of_has has
  · cases option <;> cases initially
  · exact without value gives

/-! ## Options and switches -/

/-- Somewhere among some arguments an option is given a value, or a switch is turned on. -/
def Occurs (named : Named) (arguments : List RawText) : Prop :=
  match named with
  | .value option => ∃ value, Gives option value arguments
  | .switch switch => longName switch.long ∈ arguments

/-- What gives a value to an option turns on no switch. -/
theorem Spells.not_mem {option : ValueOption} {value : RawText} {given : List RawText}
    (spelled : Spells option value given)
    (clear : ∀ argument ∈ given.tail, Form.of argument = .plain) (switch : Switch) :
    longName switch.long ∉ given := by
  -- The first argument names the option, and a value that stands apart names nothing.
  have names := named?_switch switch
  obtain ⟨argument, rfl⟩ | ⟨name, rfl⟩ := spelled.joined_or_apart
  · intro member
    obtain rfl := List.mem_singleton.mp member
    cases names.symm.trans spelled.named?_joined
  · intro member
    rcases List.mem_cons.mp member with rfl | apart
    · cases names.symm.trans spelled.named?_apart
    · obtain rfl := List.mem_singleton.mp apart
      have plain : Form.of (longName switch.long) = .plain := clear _ (by simp)
      rw [plain] at names
      cases names

/-- Giving an option a value turns no switch on. -/
theorem noDelay_of_store {options next : Options} {option : ValueOption} {value : RawText}
    (stored : options.store option value = .ok next) : next.noDelay = options.noDelay := by
  -- The choices of a value option never name the switch.
  obtain ⟨-, choice, chosen, rfl⟩ := store_eq_ok_iff.mp stored
  have named := Choice.named_of chosen
  cases choice <;> first | rfl | cases named

/-- The switch is on in the end if it was on before or is turned on among the arguments. -/
theorem Parses.noDelay_iff {options last : Options} {arguments : List RawText}
    (parses : Parses options arguments last) :
    last.noDelay = true ↔
      options.noDelay = true ∨ longName Switch.noDelay.long ∈ arguments := by
  -- Only the piece of the grammar for a switch turns it on, and only there its name stands.
  induction parses with
  | done => simp
  | separated => simp [longName, Switch.long, RawText.ofString]
  | value spelled clear stored rest ih =>
    rw [ih, noDelay_of_store stored, List.mem_append]
    simp [spelled.not_mem clear]
  | switch turned rest ih =>
    obtain ⟨rfl, -, rfl⟩ := turnOn_eq_ok_iff.mp turned
    rw [ih]
    simp

/-- The switch is on exactly if it occurs on an accepted command line. -/
theorem noDelay_iff_occurs {arguments : List RawText} {options : Options}
    (accepted : read arguments = .ok options) :
    options.noDelay = true ↔ Occurs (.switch .noDelay) arguments := by
  -- At the start the switch is off.
  simpa [Occurs] using (read_eq_ok_iff.mp accepted).noDelay_iff

end LoadServer.CommandLine
