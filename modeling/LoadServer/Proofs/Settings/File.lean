import LoadServer.Proofs.Attempt
import LoadServer.Proofs.Document.Keyed
import LoadServer.Settings.Field

/-!
The settings that a document gives. Main statements: an accepted document gives a setting the value
that is written for it in its section, and leaves the default where nothing is written; and a
document is accepted if each of its settings has a value of its type.
-/

namespace LoadServer

namespace Document

/-- The value for a setting in the parts of a section, by name or by position. -/
def Parts.find? (parts : Parts) (name : String) (position : Nat) : Option Node :=
  match parts with
  | .entries named => named.find? name
  | .items ordered => ordered[position]?

/-- The value that is written for a setting in a section of a document. -/
def Entries.setting? (entries : Entries) (heading name : String) (position : Nat) :
    Option Node := do
  let found ← entries.find? heading
  let parts ← (found.parts heading).toOption
  parts.find? name position

/-- Which parts a value has does not depend on the name that a complaint would show. -/
theorem Node.parts_congr {node : Node} {parts : Parts} {name : String}
    (has : node.parts name = .ok parts) (other : String) : node.parts other = .ok parts := by
  -- The name occurs in complaints alone.
  cases node with
  | scalar place value => cases value <;> first | exact has | cases has
  | array place items => exact has
  | table place kind entries => exact has
  | tables items => exact has

/-- The entries of a section with distinct names have distinct names. -/
theorem Node.Keyed.parts {node : Node} {name : String} {entries : Entries} (keyed : node.Keyed)
    (has : node.parts name = .ok (.entries entries)) : entries.Keyed := by
  -- The entries of a table are its own, and a date has none.
  cases node with
  | scalar place value =>
    cases value with
    | moment =>
      cases has
      exact .nil
    | _ => cases has
  | array place items => cases has
  | table place kind inner =>
    cases has
    exact keyed_table_iff.mp keyed
  | tables items => cases has

/-- A value is read in its place as it is read anywhere. -/
theorem Node.located_eq_ok_iff {α : Type} {node : Node} {otherwise : Place}
    {read : Node → Except Misfit α} {result : α} :
    node.located otherwise read = .ok result ↔ read node = .ok result :=
  mapError_eq_ok_iff

/-- The same holds of what is made of the value. -/
theorem Node.map_located_eq_ok_iff {α β : Type} {node : Node} {otherwise : Place}
    {read : Node → Except Misfit α} {change : α → β} {result : β} :
    (node.located otherwise read).map change = .ok result ↔
      ∃ value, read node = .ok value ∧ change value = result := by
  -- Naming the place of a misfit changes failures only.
  simp only [map_eq_ok_iff, located_eq_ok_iff]

/-- An element is read from its position, or is the default where there is none. -/
theorem element_eq_ok_iff {α : Type} {items : List Node} {position : Nat} {place : Place}
    {read : Node → Except Misfit α} {default : Except Misfit α} {result : α} :
    element items position place read default = .ok result ↔
      match items[position]? with
      | none => default = .ok result
      | some node => read node = .ok result := by
  -- An element has its own place, and a default has the place of the section.
  unfold element
  cases items[position]? with
  | none => exact mapError_eq_ok_iff
  | some node => exact Node.located_eq_ok_iff

/-- Where entries with distinct names are taken one by one, and an entry changes a field if and
only if it has a certain name, the field is read from the value of that name in the end, or is left
as it was. -/
theorem field_of_foldlM {σ α : Type} (take : σ → Key × Node → Except Mismatch σ) (name : String)
    (get : σ → α) (reads : Node → α → Prop)
    (step : ∀ part entry next, take part entry = .ok next →
      if entry.1.name = name then reads entry.2 (get next) else get next = get part)
    {entries : Entries} (distinct : entries.names.Nodup) {part last : σ}
    (taken : entries.foldlM take part = .ok last) :
    match entries.find? name with
    | none => get last = get part
    | some node => reads node (get last) := by
  -- The first entry either has the name, which no later one has, or leaves the field alone.
  induction entries generalizing part with
  | nil =>
    cases taken
    rfl
  | cons entry entries ih =>
    obtain ⟨next, first, rest⟩ := bind_eq_ok_iff.mp taken
    obtain ⟨fresh, distinct⟩ := List.nodup_cons.mp distinct
    have later := ih distinct rest
    have changed := step part entry next first
    by_cases same : entry.1.name = name
    · -- No later entry has the name again.
      have unused : Entries.find? entries name = none := by
        rw [Entries.find?_eq_none_iff, ← same]
        exact fresh
      have found : Entries.find? (entry :: entries) name = some entry.2 := by
        simp [Entries.find?, same]
      rw [if_pos same] at changed
      rw [unused] at later
      rw [found]
      dsimp only at later ⊢
      rw [later]
      exact changed
    · have found : Entries.find? (entry :: entries) name = Entries.find? entries name := by
        simp [Entries.find?, same]
      rw [if_neg same] at changed
      rw [found]
      rw [changed] at later
      exact later

end Document

open Document

namespace Field

/-- A setting is read from the value that is found for it, and has its default where none is. -/
def IsRead (field : Field) (found : Option Node) (value : field.Value) : Prop :=
  match found with
  | none => value = field.default
  | some node => field.ofNode node = .ok value

instance (field : Field) (found : Option Node) (value : field.Value) :
    Decidable (field.IsRead found value) :=
  match found with
  | none => inferInstanceAs (Decidable (value = field.default))
  | some node => inferInstanceAs (Decidable (field.ofNode node = .ok value))

/-- An entry of a section gives a setting its value if it has its name, and leaves it otherwise. -/
def IsSet (field : Field) (entry : Key × Node) (before after : field.Value) : Prop :=
  if entry.1.name = field.name then field.ofNode entry.2 = .ok after else after = before

/-- A setting is read from the entries of a section, which are taken one by one. -/
theorem isRead_of_foldlM {σ : Type} {take : σ → Key × Node → Except Mismatch σ} (field : Field)
    (get : σ → field.Value) {start : σ} (unset : get start = field.default)
    (step : ∀ part entry next, take part entry = .ok next →
      field.IsSet entry (get part) (get next))
    {entries : Entries} (distinct : entries.names.Nodup) {last : σ}
    (taken : entries.foldlM take start = .ok last) :
    field.IsRead (entries.find? field.name) (get last) := by
  -- What is taken first is the default.
  have read := field_of_foldlM take field.name get (fun node value => field.ofNode node = .ok value)
    step distinct taken
  unfold IsRead
  cases found : entries.find? field.name with
  | none =>
    rw [found] at read
    exact read.trans unset
  | some node =>
    rw [found] at read
    exact read

end Field

/-- A setting is read from the element at its position. -/
theorem Field.isRead_of_element (field : Field) {items : List Node} {place : Place}
    {missing : Except Misfit field.Value} {value : field.Value}
    (unset : ∀ found, missing = .ok found → found = field.default)
    (taken : element items field.position place field.ofNode missing = .ok value) :
    field.IsRead items[field.position]? value := by
  -- Where there is no element, what takes its place is the default.
  have read := element_eq_ok_iff.mp taken
  unfold IsRead
  cases found : items[field.position]? with
  | none =>
    rw [found] at read
    exact unset value read
  | some node =>
    rw [found] at read
    exact read

/-- An element that is read as one kind of value is read as another one made of it. -/
theorem element_map {α β : Type} {items : List Node} {position : Nat} {place : Place}
    {read : Node → Except Misfit α} {missing : Except Misfit α} {value : α} (change : α → β)
    (taken : element items position place read missing = .ok value) :
    element items position place (fun node => (read node).map change) (missing.map change) =
      .ok (change value) := by
  -- The element is there or it is missing, and the change applies to the value of either.
  rw [element_eq_ok_iff] at taken ⊢
  cases found : items[position]? with
  | none =>
    rw [found] at taken
    exact map_eq_ok_iff.mpr ⟨value, taken, rfl⟩
  | some node =>
    rw [found] at taken
    exact map_eq_ok_iff.mpr ⟨value, taken, rfl⟩

/-! ## The section on the server -/

/-- An entry of the section on the server sets the setting that it names. -/
theorem ServerSection.isSet_of_take {part next : ServerSection} {entry : Key × Node}
    (took : part.take entry = .ok next) {field : Field} (inside : field.heading = "server") :
    field.IsSet entry (field.inFile { server := part }) (field.inFile { server := next }) := by
  -- At most one of the four names is that of the entry.
  obtain ⟨key, node⟩ := entry
  unfold take at took
  dsimp only at took
  split_ifs at took with listen workers limit nodelay
  on_goal 5 =>
    -- An entry with another name changes nothing.
    cases took
    cases field <;> simp_all [Field.IsSet, Field.name, Field.heading]
  all_goals
    obtain ⟨value, read, rfl⟩ := Node.map_located_eq_ok_iff.mp took
    cases field <;> simp_all [Field.IsSet, Field.name, Field.inFile, Field.heading, Field.ofNode]

/-- The settings of the section on the server are read from its parts. -/
theorem ServerSection.isRead_of_ofParts {part : ServerSection} {place : Place} {parts : Parts}
    (distinct : ∀ entries, parts = .entries entries → entries.names.Nodup)
    (taken : ofParts place parts = .ok part) {field : Field} (inside : field.heading = "server") :
    field.IsRead (parts.find? field.name field.position) (field.inFile { server := part }) := by
  -- An array gives its elements to the fields by position, a table by name.
  cases parts with
  | items items =>
    obtain ⟨listen, readListen, rest⟩ := bind_eq_ok_iff.mp taken
    obtain ⟨workers, readWorkers, rest⟩ := bind_eq_ok_iff.mp rest
    obtain ⟨limit, readLimit, rest⟩ := bind_eq_ok_iff.mp rest
    obtain ⟨nodelay, readNodelay, same⟩ := bind_eq_ok_iff.mp rest
    cases same
    cases field with
    | listen =>
      refine Field.isRead_of_element .listen ?_ readListen
      rintro found ⟨rfl⟩
      rfl
    | workers =>
      refine Field.isRead_of_element .workers ?_ (element_map some readWorkers)
      rintro found ⟨⟩
    | maxConnections =>
      refine Field.isRead_of_element .maxConnections ?_ (element_map some readLimit)
      rintro found ⟨⟩
    | nodelay =>
      refine Field.isRead_of_element .nodelay ?_ readNodelay
      rintro found ⟨rfl⟩
      rfl
    | calibrationIterations => simp [Field.heading] at inside
    | level => simp [Field.heading] at inside
  | entries entries =>
    have unset : field.inFile { server := {} } = field.default := by cases field <;> rfl
    exact field.isRead_of_foldlM (fun part => field.inFile { server := part }) unset
      (fun _ _ _ took => isSet_of_take took inside) (distinct entries rfl) taken

/-! ## The other sections -/

/-- An entry of the section on the work sets the setting that it names. -/
theorem WorkloadSection.isSet_of_take {part next : WorkloadSection} {entry : Key × Node}
    (took : part.take entry = .ok next) :
    Field.calibrationIterations.IsSet entry part.calibrationIterations
      next.calibrationIterations := by
  -- The section knows one name, and passes over every other entry.
  obtain ⟨key, node⟩ := entry
  unfold take at took
  dsimp only at took
  split_ifs at took with named
  · obtain ⟨value, read, rfl⟩ := Node.map_located_eq_ok_iff.mp took
    simp [Field.IsSet, Field.name, Field.ofNode, named, read]
  · cases took
    simp [Field.IsSet, Field.name, named]

/-- The setting of the section on the work is read from its parts. -/
theorem WorkloadSection.isRead_of_ofParts {part : WorkloadSection} {place : Place} {parts : Parts}
    (distinct : ∀ entries, parts = .entries entries → entries.names.Nodup)
    (taken : ofParts place parts = .ok part) :
    Field.calibrationIterations.IsRead (parts.find? "calibration_iterations" 0)
      part.calibrationIterations := by
  -- In an array the setting is the first element, and in a table it has its own name.
  cases parts with
  | items items =>
    obtain ⟨iterations, read, same⟩ := bind_eq_ok_iff.mp taken
    cases same
    refine Field.isRead_of_element .calibrationIterations ?_ read
    rintro found ⟨rfl⟩
    rfl
  | entries entries =>
    exact Field.calibrationIterations.isRead_of_foldlM calibrationIterations rfl
      (fun _ _ _ took => isSet_of_take took) (distinct entries rfl) taken

/-- An entry of the section on the log sets the setting that it names. -/
theorem LoggingSection.isSet_of_take {part next : LoggingSection} {entry : Key × Node}
    (took : part.take entry = .ok next) : Field.level.IsSet entry part.level next.level := by
  -- The section knows one name, and passes over every other entry.
  obtain ⟨key, node⟩ := entry
  unfold take at took
  dsimp only at took
  split_ifs at took with named
  · obtain ⟨value, read, rfl⟩ := Node.map_located_eq_ok_iff.mp took
    simp [Field.IsSet, Field.name, Field.ofNode, named, read]
  · cases took
    simp [Field.IsSet, Field.name, named]

/-- The setting of the section on the log is read from its parts. -/
theorem LoggingSection.isRead_of_ofParts {part : LoggingSection} {place : Place} {parts : Parts}
    (distinct : ∀ entries, parts = .entries entries → entries.names.Nodup)
    (taken : ofParts place parts = .ok part) :
    Field.level.IsRead (parts.find? "level" 0) part.level := by
  -- In an array the setting is the first element, and in a table it has its own name.
  cases parts with
  | items items =>
    obtain ⟨level, read, same⟩ := bind_eq_ok_iff.mp taken
    cases same
    refine Field.isRead_of_element .level ?_ read
    rintro found ⟨rfl⟩
    rfl
  | entries entries =>
    exact Field.level.isRead_of_foldlM level rfl
      (fun _ _ _ took => isSet_of_take took) (distinct entries rfl) taken

/-! ## The whole document -/

/-- A section is read from the parts of a value. -/
theorem readSection_eq_ok {α : Type} {name : String} {ofParts : Place → Parts → Except Mismatch α}
    {entry : Key × Node} {part : α} (read : readSection name ofParts entry = .ok part) :
    ∃ place parts, entry.2.parts name = .ok parts ∧ ofParts place parts = .ok part := by
  -- The entry has parts first, and the section is read from these.
  obtain ⟨parts, has, taken⟩ := bind_eq_ok_iff.mp read
  exact ⟨_, parts, Node.located_eq_ok_iff.mp has, taken⟩

/-- A section is read from the parts of the value that stands for it. -/
def IsSection {σ : Type} (ofParts : Place → Parts → Except Mismatch σ) (node : Node) (part : σ) :
    Prop :=
  ∃ name place parts, node.parts name = .ok parts ∧ ofParts place parts = .ok part

/-- An entry of a document gives the section that it names, and leaves the others. -/
theorem FileSettings.isSection_of_take {settings next : FileSettings} {entry : Key × Node}
    (took : settings.take entry = .ok next) :
    (if entry.1.name = "server" then IsSection ServerSection.ofParts entry.2 next.server
      else next.server = settings.server) ∧
    (if entry.1.name = "workload" then IsSection WorkloadSection.ofParts entry.2 next.workload
      else next.workload = settings.workload) ∧
    (if entry.1.name = "logging" then IsSection LoggingSection.ofParts entry.2 next.logging
      else next.logging = settings.logging) := by
  -- At most one of the three headings is the name of the entry.
  unfold take at took
  split_ifs at took with server workload logging
  · obtain ⟨part, read, rfl⟩ := map_eq_ok_iff.mp took
    simp only [server, if_true, String.reduceEq, if_false, and_true]
    exact ⟨_, readSection_eq_ok read⟩
  · obtain ⟨part, read, rfl⟩ := map_eq_ok_iff.mp took
    simp only [workload, if_true, String.reduceEq, if_false, and_true, true_and]
    exact ⟨_, readSection_eq_ok read⟩
  · obtain ⟨part, read, rfl⟩ := map_eq_ok_iff.mp took
    simp only [logging, if_true, String.reduceEq, if_false, true_and]
    exact ⟨_, readSection_eq_ok read⟩
  · cases took
    simp [server, workload, logging]

/-- A setting is read from the section that a document has for it. -/
theorem Field.isRead_of_isSection {σ : Type} {ofParts : Place → Parts → Except Mismatch σ}
    (field : Field) (get : σ → field.Value) {before part : σ} {entries : Entries}
    (keyed : entries.Keyed) (unset : get before = field.default)
    (found : match entries.find? field.heading with
      | none => part = before
      | some node => IsSection ofParts node part)
    (reads : ∀ place parts, (∀ entries, parts = .entries entries → entries.names.Nodup) →
      ofParts place parts = .ok part →
        field.IsRead (parts.find? field.name field.position) (get part)) :
    field.IsRead (entries.setting? field.heading field.name field.position) (get part) := by
  -- The section is looked up first, and the setting among its parts.
  cases located : entries.find? field.heading with
  | none =>
    rw [located] at found
    have nothing : entries.setting? field.heading field.name field.position = none := by
      simp [Entries.setting?, located]
    rw [nothing, found]
    exact unset
  | some node =>
    rw [located] at found
    obtain ⟨name, place, parts, has, taken⟩ := found
    have same : entries.setting? field.heading field.name field.position =
        parts.find? field.name field.position := by
      simp [Entries.setting?, located, Node.parts_congr has field.heading, Except.toOption]
    rw [same]
    refine reads place parts (fun inner listed => ?_) taken
    rw [listed] at has
    exact ((keyed.of_find? located).parts has).names

/-- Each setting of a document is read from the value that is written for it, and has its default
where nothing is written. -/
theorem Field.isRead_of_ofEntries {settings : FileSettings} {entries : Entries}
    (keyed : entries.Keyed) (taken : FileSettings.ofEntries entries = .ok settings)
    (field : Field) :
    field.IsRead (entries.setting? field.heading field.name field.position)
      (field.inFile settings) := by
  -- Each section is taken from the one entry that names it.
  have server := field_of_foldlM FileSettings.take "server" FileSettings.server
    (IsSection ServerSection.ofParts)
    (fun _ _ _ took => (FileSettings.isSection_of_take took).1) keyed.names taken
  have workload := field_of_foldlM FileSettings.take "workload" FileSettings.workload
    (IsSection WorkloadSection.ofParts)
    (fun _ _ _ took => (FileSettings.isSection_of_take took).2.1) keyed.names taken
  have logging := field_of_foldlM FileSettings.take "logging" FileSettings.logging
    (IsSection LoggingSection.ofParts)
    (fun _ _ _ took => (FileSettings.isSection_of_take took).2.2) keyed.names taken
  have inServer (inside : field.heading = "server") :
      field.IsRead (entries.setting? field.heading field.name field.position)
        (field.inFile settings) := by
    have alone : field.inFile { server := settings.server } = field.inFile settings := by
      cases field <;> simp [heading] at inside <;> rfl
    have unset : field.inFile { server := {} } = field.default := by cases field <;> rfl
    rw [← inside] at server
    rw [← alone]
    exact field.isRead_of_isSection (fun part => field.inFile { server := part }) keyed unset
      server fun _ _ distinct taken => ServerSection.isRead_of_ofParts distinct taken inside
  cases field with
  | listen | workers | maxConnections | nodelay => exact inServer rfl
  | calibrationIterations =>
    exact isRead_of_isSection .calibrationIterations WorkloadSection.calibrationIterations keyed
      rfl workload fun _ _ => WorkloadSection.isRead_of_ofParts
  | level =>
    exact isRead_of_isSection .level LoggingSection.level keyed rfl logging
      fun _ _ => LoggingSection.isRead_of_ofParts

/-! ## The text of a document -/

/-- The value that is written for a setting in the text of a document, if there is one. -/
def Field.node? (field : Field) (text : Option String) : Option Node := do
  let text ← text
  let entries ← Document.read? text.toList
  entries.setting? field.heading field.name field.position

/-- A document gives a setting this value, or says nothing of it and the value is the default. -/
def Field.IsDocumented (field : Field) (text : Option String) (value : field.Value) : Prop :=
  field.IsRead (field.node? text) value

instance (field : Field) (text : Option String) (value : field.Value) :
    Decidable (field.IsDocumented text value) :=
  inferInstanceAs (Decidable (field.IsRead (field.node? text) value))

/-- The settings of an accepted document are the documented ones. -/
theorem Field.isDocumented_of_read {text : String} {file : FileSettings}
    (accepted : FileSettings.read text = .ok file) (field : Field) :
    field.IsDocumented (some text) (field.inFile file) := by
  -- Names are distinct in every document that is read, so each look-up has one answer.
  unfold FileSettings.read at accepted
  cases read : Document.read? text.toList with
  | none => simp [read] at accepted
  | some entries =>
    rw [read] at accepted
    have fits := mapError_eq_ok_iff.mp accepted
    have found : field.node? (some text) =
        entries.setting? field.heading field.name field.position := by
      simp [node?, read]
    rw [IsDocumented, found]
    exact isRead_of_ofEntries (read?_keyed read) fits field

/-- Settings come from merging options with the documented settings. -/
theorem Settings.exists_file_of_resolve {options : CommandLine.Options} {text : Option String}
    {settings : Settings} (resolved : resolve options text = .ok settings) :
    ∃ file : FileSettings, merge options file = settings ∧
      ∀ field : Field, field.IsDocumented text (field.inFile file) := by
  cases text with
  | none =>
    -- Without a document every setting has its default.
    cases resolved
    refine ⟨{}, rfl, fun field => ?_⟩
    cases field <;> rfl
  | some text =>
    obtain ⟨file, accepted, rfl⟩ := map_eq_ok_iff.mp resolved
    exact ⟨file, rfl, Field.isDocumented_of_read accepted⟩

end LoadServer
