import LoadServer.Proofs.Settings.File

/-!
Which documents give settings. Main statement: a document is accepted exactly if every setting fits
into it, whatever else it says.
-/

namespace LoadServer

open Document

namespace Field

/-- A setting fits into a table whose entries of its name have its type, and into an array with an
element of its type at its position, where some settings may be missing. -/
def FitsIn (field : Field) : Parts → Prop
  | .entries entries =>
    ∀ entry ∈ entries, entry.1.name = field.name → ∃ value, field.ofNode entry.2 = .ok value
  | .items items =>
    match items[field.position]? with
    | none => field.mayBeMissing = true
    | some node => ∃ value, field.ofNode node = .ok value

instance (field : Field) : DecidablePred field.FitsIn := fun parts =>
  match parts with
  | .entries entries => inferInstanceAs (Decidable (∀ entry ∈ entries,
      entry.1.name = field.name → ∃ value, field.ofNode entry.2 = .ok value))
  | .items items =>
    match found : items[field.position]? with
    | none => decidable_of_iff (field.mayBeMissing = true) (by simp [FitsIn, found])
    | some node =>
      decidable_of_iff (∃ value, field.ofNode node = .ok value) (by simp [FitsIn, found])

/-- A setting fits into a document if it fits into its section, where there is one. -/
def Fits (field : Field) (entries : Entries) : Prop :=
  ∀ entry ∈ entries, entry.1.name = field.heading →
    ∃ parts, entry.2.parts field.heading = .ok parts ∧ field.FitsIn parts

instance (field : Field) : DecidablePred field.Fits := fun entries =>
  inferInstanceAs (Decidable (∀ entry ∈ entries, entry.1.name = field.heading →
    ∃ parts, entry.2.parts field.heading = .ok parts ∧ field.FitsIn parts))

end Field

/-- A value that can be read can be read in its place, and into whatever is made of it. -/
theorem exists_located {α β : Type} {node : Node} {read : Node → Except Misfit α}
    (typed : ∃ value, read node = .ok value) (place : Place) (change : α → β) :
    ∃ result, (node.located place read).map change = .ok result := by
  -- Naming the place of a misfit is no misfit.
  obtain ⟨value, reads⟩ := typed
  exact ⟨change value, Node.map_located_eq_ok_iff.mpr ⟨value, reads, rfl⟩⟩

/-- A setting that fits into an array is read from its element, or from what takes its place. -/
theorem Field.FitsIn.exists_element {field : Field} {items : List Node}
    (fits : field.FitsIn (.items items)) {α : Type} (read : Node → Except Misfit α)
    (missing : Except Misfit α)
    (reads : ∀ node, (∃ value, field.ofNode node = .ok value) → ∃ value, read node = .ok value)
    (misses : field.mayBeMissing = true → ∃ value, missing = .ok value) (place : Place) :
    ∃ value, element items field.position place read missing = .ok value := by
  -- What fits is an element of the type, or the setting may be missing.
  simp only [element_eq_ok_iff]
  rw [FitsIn] at fits
  cases found : items[field.position]? with
  | none =>
    rw [found] at fits
    exact misses fits
  | some node =>
    rw [found] at fits
    exact reads node fits

/-- An entry of the section on the server is taken if the setting that it names fits. -/
theorem ServerSection.exists_take {entry : Key × Node}
    (typed : ∀ field : Field, field.heading = "server" → entry.1.name = field.name →
      ∃ value, field.ofNode entry.2 = .ok value) (part : ServerSection) :
    ∃ next, part.take entry = .ok next := by
  -- The first of the four names that is that of the entry decides.
  unfold take
  dsimp only
  split_ifs with listen workers limit nodelay
  · exact exists_located (typed .listen rfl listen) _ _
  · exact exists_located (exists_of_map (typed .workers rfl workers)) _ _
  · exact exists_located (exists_of_map (typed .maxConnections rfl limit)) _ _
  · exact exists_located (typed .nodelay rfl nodelay) _ _
  · exact ⟨part, rfl⟩

/-- The section on the server is read from parts that its settings fit into. -/
theorem ServerSection.exists_ofParts {parts : Parts}
    (fits : ∀ field : Field, field.heading = "server" → field.FitsIn parts) (place : Place) :
    ∃ part, ofParts place parts = .ok part := by
  -- A table is taken entry by entry, and an array element by element.
  cases parts with
  | entries entries =>
    refine exists_foldlM_eq_ok (fun entry member part => exists_take ?_ part) _
    exact fun field inside named => fits field inside entry member named
  | items items =>
    let missing := fun length => Misfit.length length (.section "ServerConfig") 4
    obtain ⟨listen, readListen⟩ := (fits .listen rfl).exists_element Node.text (.ok defaultListen)
      (fun _ typed => typed) (fun _ => ⟨_, rfl⟩) place
    obtain ⟨workers, readWorkers⟩ := (fits .workers rfl).exists_element (Node.count .size)
      (.error (missing 1)) (fun _ typed => exists_of_map typed) (fun may => by cases may) place
    obtain ⟨limit, readLimit⟩ := (fits .maxConnections rfl).exists_element (Node.count .size)
      (.error (missing 2)) (fun _ typed => exists_of_map typed) (fun may => by cases may) place
    obtain ⟨nodelay, readNodelay⟩ := (fits .nodelay rfl).exists_element Node.truth (.ok false)
      (fun _ typed => typed) (fun _ => ⟨_, rfl⟩) place
    exact ⟨_, bind_eq_ok_iff.mpr ⟨listen, readListen, bind_eq_ok_iff.mpr ⟨workers, readWorkers,
      bind_eq_ok_iff.mpr ⟨limit, readLimit, bind_eq_ok_iff.mpr ⟨nodelay, readNodelay, rfl⟩⟩⟩⟩⟩

/-- The section on the work is read from parts that its setting fits into. -/
theorem WorkloadSection.exists_ofParts {parts : Parts}
    (fits : Field.calibrationIterations.FitsIn parts) (place : Place) :
    ∃ part, ofParts place parts = .ok part := by
  -- A table is read entry by entry, an array by the position of the field.
  cases parts with
  | entries entries =>
    refine exists_foldlM_eq_ok (fun entry member part => ?_) _
    unfold take
    dsimp only
    split_ifs with named
    · exact exists_located (fits entry member named) _ _
    · exact ⟨part, rfl⟩
  | items items =>
    obtain ⟨iterations, read⟩ := fits.exists_element (Node.count .word)
      (.ok Calibration.defaultIterations) (fun _ typed => typed) (fun _ => ⟨_, rfl⟩) place
    exact ⟨_, bind_eq_ok_iff.mpr ⟨iterations, read, rfl⟩⟩

/-- The section on the log is read from parts that its setting fits into. -/
theorem LoggingSection.exists_ofParts {parts : Parts} (fits : Field.level.FitsIn parts)
    (place : Place) : ∃ part, ofParts place parts = .ok part := by
  -- A table is read entry by entry, an array by the position of the field.
  cases parts with
  | entries entries =>
    refine exists_foldlM_eq_ok (fun entry member part => ?_) _
    unfold take
    dsimp only
    split_ifs with named
    · exact exists_located (fits entry member named) _ _
    · exact ⟨part, rfl⟩
  | items items =>
    obtain ⟨level, read⟩ := fits.exists_element Node.text (.ok defaultLevel)
      (fun _ typed => typed) (fun _ => ⟨_, rfl⟩) place
    exact ⟨_, bind_eq_ok_iff.mpr ⟨level, read, rfl⟩⟩

/-- A value that has parts can be read as a section that can be read from them. -/
theorem exists_readSection {α β : Type} {name : String}
    {ofParts : Place → Parts → Except Mismatch α} {entry : Key × Node} {parts : Parts}
    (has : entry.2.parts name = .ok parts)
    (read : ∀ place, ∃ part, ofParts place parts = .ok part) (change : α → β) :
    ∃ result, (readSection name ofParts entry).map change = .ok result := by
  -- The section can be read from its parts at whatever place these stand.
  obtain ⟨part, taken⟩ := read (entry.2.place?.getD entry.1.place)
  refine ⟨change part, map_eq_ok_iff.mpr ⟨part, ?_, rfl⟩⟩
  exact bind_eq_ok_iff.mpr ⟨parts, Node.located_eq_ok_iff.mpr has, taken⟩

/-- A document that every setting fits into is accepted. -/
theorem exists_ofEntries {entries : Entries} (fits : ∀ field : Field, field.Fits entries) :
    ∃ file, FileSettings.ofEntries entries = .ok file := by
  -- Entries that name no section are passed over.
  refine exists_foldlM_eq_ok (fun entry member settings => ?_) _
  unfold FileSettings.take
  split_ifs with server workload logging
  · obtain ⟨parts, has, -⟩ := fits .listen entry member server
    refine exists_readSection (Node.parts_congr has _) (ServerSection.exists_ofParts ?_) _
    intro field inside
    obtain ⟨same, hasSame, fitsIn⟩ := fits field entry member (by rw [inside, server])
    rw [inside] at hasSame
    cases has.symm.trans hasSame
    exact fitsIn
  · obtain ⟨parts, has, fitsIn⟩ := fits .calibrationIterations entry member workload
    exact exists_readSection (Node.parts_congr has _) (WorkloadSection.exists_ofParts fitsIn) _
  · obtain ⟨parts, has, fitsIn⟩ := fits .level entry member logging
    exact exists_readSection (Node.parts_congr has _) (LoggingSection.exists_ofParts fitsIn) _
  · exact ⟨settings, rfl⟩

/-! ## Accepted documents -/

/-- A setting that an entry gives is of its type if the entry has its name. -/
theorem Field.IsSet.exists_ofNode {field : Field} {entry : Key × Node} {before after : field.Value}
    (sets : field.IsSet entry before after) (named : entry.1.name = field.name) :
    ∃ value, field.ofNode entry.2 = .ok value := by
  -- The entry of the field's own name sets it to what its node is read as.
  rw [IsSet, if_pos named] at sets
  exact ⟨after, sets⟩

/-- A setting that is read from its element, or from what takes its place, fits into the array. -/
theorem Field.fitsIn_of_element (field : Field) {items : List Node} {place : Place} {α : Type}
    {read : Node → Except Misfit α} {missing : Except Misfit α} {result : α}
    (reads : ∀ node, read node = .ok result → ∃ value, field.ofNode node = .ok value)
    (misses : missing = .ok result → field.mayBeMissing = true)
    (taken : element items field.position place read missing = .ok result) :
    field.FitsIn (.items items) := by
  -- Either there is an element, or what takes its place has been read.
  rw [element_eq_ok_iff] at taken
  rw [FitsIn]
  cases found : items[field.position]? with
  | none =>
    rw [found] at taken
    exact misses taken
  | some node =>
    rw [found] at taken
    exact reads node taken

/-- The settings of the section on the server fit into the parts that it is read from. -/
theorem ServerSection.fitsIn_of_ofParts {part : ServerSection} {place : Place} {parts : Parts}
    (taken : ofParts place parts = .ok part) {field : Field} (inside : field.heading = "server") :
    field.FitsIn parts := by
  -- Each entry and each element has been taken, which shows that it is of its type.
  cases parts with
  | entries entries =>
    intro entry member named
    obtain ⟨before, after, took⟩ := exists_of_foldlM_eq_ok taken member
    exact (isSet_of_take took inside).exists_ofNode named
  | items items =>
    obtain ⟨listen, readListen, rest⟩ := bind_eq_ok_iff.mp taken
    obtain ⟨workers, readWorkers, rest⟩ := bind_eq_ok_iff.mp rest
    obtain ⟨limit, readLimit, rest⟩ := bind_eq_ok_iff.mp rest
    obtain ⟨nodelay, readNodelay, -⟩ := bind_eq_ok_iff.mp rest
    cases field with
    | listen =>
      exact Field.fitsIn_of_element .listen (fun _ read => ⟨_, read⟩) (fun _ => rfl)
        readListen
    | workers =>
      exact Field.fitsIn_of_element .workers
        (fun _ read => ⟨_, map_eq_ok_iff.mpr ⟨_, read, rfl⟩⟩) (fun none => by cases none)
        readWorkers
    | maxConnections =>
      exact Field.fitsIn_of_element .maxConnections
        (fun _ read => ⟨_, map_eq_ok_iff.mpr ⟨_, read, rfl⟩⟩) (fun none => by cases none)
        readLimit
    | nodelay =>
      exact Field.fitsIn_of_element .nodelay (fun _ read => ⟨_, read⟩) (fun _ => rfl)
        readNodelay
    | calibrationIterations => simp [Field.heading] at inside
    | level => simp [Field.heading] at inside

/-- The setting of the section on the work fits into the parts that it is read from. -/
theorem WorkloadSection.fitsIn_of_ofParts {part : WorkloadSection} {place : Place} {parts : Parts}
    (taken : ofParts place parts = .ok part) : Field.calibrationIterations.FitsIn parts := by
  -- Each entry of a table has been taken, and the first element of an array has been read.
  cases parts with
  | entries entries =>
    intro entry member named
    obtain ⟨before, after, took⟩ := exists_of_foldlM_eq_ok taken member
    exact (isSet_of_take took).exists_ofNode named
  | items items =>
    obtain ⟨iterations, read, -⟩ := bind_eq_ok_iff.mp taken
    exact Field.fitsIn_of_element .calibrationIterations (fun _ read => ⟨_, read⟩)
      (fun _ => rfl) read

/-- The setting of the section on the log fits into the parts that it is read from. -/
theorem LoggingSection.fitsIn_of_ofParts {part : LoggingSection} {place : Place} {parts : Parts}
    (taken : ofParts place parts = .ok part) : Field.level.FitsIn parts := by
  -- Each entry of a table has been taken, and the first element of an array has been read.
  cases parts with
  | entries entries =>
    intro entry member named
    obtain ⟨before, after, took⟩ := exists_of_foldlM_eq_ok taken member
    exact (isSet_of_take took).exists_ofNode named
  | items items =>
    obtain ⟨level, read, -⟩ := bind_eq_ok_iff.mp taken
    exact Field.fitsIn_of_element .level (fun _ read => ⟨_, read⟩) (fun _ => rfl) read

/-- A setting fits into an entry that a section for it is read from. -/
theorem IsSection.exists_fitsIn {σ : Type} {ofParts : Place → Parts → Except Mismatch σ}
    {node : Node} {part : σ} (reads : IsSection ofParts node part) {field : Field}
    (fitsIn : ∀ {place parts}, ofParts place parts = .ok part → field.FitsIn parts) :
    ∃ parts, node.parts field.heading = .ok parts ∧ field.FitsIn parts := by
  -- The parts of a node do not depend on the name it is looked up by.
  obtain ⟨name, place, parts, has, taken⟩ := reads
  exact ⟨parts, Node.parts_congr has _, fitsIn taken⟩

/-- Every setting fits into a document that is accepted. -/
theorem fits_of_ofEntries {entries : Entries} {file : FileSettings}
    (accepted : FileSettings.ofEntries entries = .ok file) (field : Field) :
    field.Fits entries := by
  intro entry member named
  -- The entry has been taken as the section that it names.
  obtain ⟨before, after, took⟩ := exists_of_foldlM_eq_ok accepted member
  obtain ⟨server, workload, logging⟩ := FileSettings.isSection_of_take took
  have inServer (inside : field.heading = "server") :
      ∃ parts, entry.2.parts field.heading = .ok parts ∧ field.FitsIn parts := by
    rw [if_pos (named.trans inside)] at server
    exact server.exists_fitsIn fun taken => ServerSection.fitsIn_of_ofParts taken inside
  cases field with
  | listen | workers | maxConnections | nodelay => exact inServer rfl
  | calibrationIterations =>
    have heading : entry.1.name = "workload" := named
    rw [if_pos heading] at workload
    exact workload.exists_fitsIn WorkloadSection.fitsIn_of_ofParts
  | level =>
    have heading : entry.1.name = "logging" := named
    rw [if_pos heading] at logging
    exact logging.exists_fitsIn LoggingSection.fitsIn_of_ofParts

/-- A document is accepted exactly if every setting fits into it. -/
theorem exists_ofEntries_iff {entries : Entries} :
    (∃ file, FileSettings.ofEntries entries = .ok file) ↔ ∀ field : Field, field.Fits entries :=
  ⟨fun ⟨_, accepted⟩ => fits_of_ofEntries accepted, exists_ofEntries⟩

end LoadServer
