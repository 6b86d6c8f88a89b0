import LoadServer.Proofs.Settings.Schema

/-!
Documents whose sections are tables, in whichever way the tables are written. Main statement: such a
document gives settings exactly if every setting that it speaks of has its type, and the settings
are then those that it says and defaults elsewhere, whatever else it holds and in whichever order.
-/

namespace LoadServer

open Document

instance : Fintype Field where
  elems := {.listen, .workers, .maxConnections, .nodelay, .calibrationIterations, .level}
  complete field := by cases field <;> decide

namespace Document

/-- Whether a value is a table. -/
def Node.isTable : Node → Bool
  | .table _ _ _ => true
  | _ => false

/-- The sections of a document that settings belong to are tables, where they are present. -/
def Entries.HasTables (entries : Entries) : Prop :=
  ∀ field : Field, ∀ entry ∈ entries, entry.1.name = field.heading → entry.2.isTable = true

instance : DecidablePred Entries.HasTables := fun entries =>
  inferInstanceAs (Decidable (∀ field : Field, ∀ entry ∈ entries,
    entry.1.name = field.heading → entry.2.isTable = true))

/-- What is found where a setting is looked up. -/
def Entries.said? (entries : Entries) (field : Field) : Option Found :=
  (entries.setting? field.heading field.name field.position).map Node.found

/-- A table has entries. -/
theorem Node.exists_of_isTable {node : Node} (table : node.isTable = true) :
    ∃ place kind inner, node = .table place kind inner := by
  -- No other node passes for a table.
  cases node with
  | table place kind inner => exact ⟨place, kind, inner, rfl⟩
  | _ => cases table

/-! ## Values of the right type -/

/-- A value is read as text exactly if it is found to be that text. -/
theorem Node.text_eq_ok_iff {node : Node} {body : String} :
    node.text = .ok body ↔ node.found = .text body := by
  -- Only a scalar may be a text.
  cases node with
  | scalar place value => cases value <;> simp [Node.text, Node.found]
  | _ => simp [Node.text, Node.found]

/-- A value is read as true or false exactly if it is found to be so. -/
theorem Node.truth_eq_ok_iff {node : Node} {truth : Bool} :
    node.truth = .ok truth ↔ node.found = .truth truth := by
  -- Only a scalar may be a truth value.
  cases node with
  | scalar place value => cases value <;> simp [Node.truth, Node.found]
  | _ => simp [Node.truth, Node.found]

/-- A value in a document is read as a count exactly if it is found to be the integer that the count
stands for. -/
theorem Node.count_eq_ok_iff {node : Node} (keyed : node.Keyed) {expected : Expected}
    {count : UInt64} : node.count expected = .ok count ↔ node.found = .integer count.toNat := by
  cases node with
  | scalar place value =>
    cases value with
    | integer number =>
      -- The integers of a document are too small for anything to be cut off.
      obtain ⟨-, below⟩ : -greatestInteger - 1 ≤ number ∧ number ≤ greatestInteger := by
        cases keyed with
        | scalar inRange => exact inRange
      have whole (nonneg : 0 ≤ number) : ((UInt64.ofNat number.toNat).toNat : Int) = number := by
        rw [UInt64.toNat_ofNat_of_lt'
          (by unfold greatestInteger at below; unfold UInt64.size; omega)]
        omega
      simp only [Node.count, Node.found, Found.integer.injEq]
      split
      · next negative => simp only [reduceCtorEq, false_iff]; omega
      · next nonneg =>
        rw [Except.ok.injEq]
        constructor
        · rintro rfl
          exact (whole (by omega)).symm
        · intro same
          rw [same, Int.toNat_natCast, UInt64.ofNat_toNat]
    | _ => simp [Node.count, Node.found]
  | _ => simp [Node.count, Node.found]

end Document

namespace Field

/-- A document gives a setting a value: it has the section of the setting as a table, and in that an
entry of its name. -/
def IsGiven (field : Field) (entries : Entries) (node : Node) : Prop :=
  ∃ key place kind inner, (key, Node.table place kind inner) ∈ entries ∧ key.name = field.heading ∧
    ∃ name, (name, node) ∈ inner ∧ name.name = field.name

/-- A document says what the value of a setting is. -/
def IsSaid (field : Field) (entries : Entries) (found : Found) : Prop :=
  ∃ node, field.IsGiven entries node ∧ node.found = found

/-- Whether a value has the type of a setting, where counts are integers that are not negative. -/
def IsTyped : Field → Found → Prop
  | listen, .text _ => True
  | level, .text _ => True
  | nodelay, .truth _ => True
  | workers, .integer number => 0 ≤ number
  | maxConnections, .integer number => 0 ≤ number
  | calibrationIterations, .integer number => 0 ≤ number
  | _, _ => False

instance (field : Field) : DecidablePred field.IsTyped := fun found => by
  unfold IsTyped
  split <;> infer_instance

/-- What a document has to say for a setting to have a value, unless it has to say nothing. -/
def saying : (field : Field) → field.Value → Option Found
  | listen, address => some (.text address)
  | workers, count => count.map fun count => .integer count.toNat
  | maxConnections, count => count.map fun count => .integer count.toNat
  | nodelay, truth => some (.truth truth)
  | calibrationIterations, count => some (.integer count.toNat)
  | level, name => some (.text name)

/-- A setting has the value that a document says, and its default where the document says nothing.
-/
def IsFilled (field : Field) (entries : Entries) (value : field.Value) : Prop :=
  (∀ found, field.IsSaid entries found → field.saying value = some found) ∧
    ((∀ found, ¬ field.IsSaid entries found) → value = field.inFile {})

variable {field : Field}

/-- A setting is read from a value exactly if the value says so. -/
theorem ofNode_eq_ok_iff {node : Node} (keyed : node.Keyed) {value : field.Value} :
    field.ofNode node = .ok value ↔ field.saying value = some node.found := by
  have counts (expected : Expected) (count : Option UInt64) :
      (node.count expected).map some = .ok count ↔
        count.map (fun count => Found.integer count.toNat) = some node.found := by
    rw [map_eq_ok_iff, Option.map_eq_some_iff]
    simp only [Node.count_eq_ok_iff keyed]
    constructor
    · rintro ⟨number, found, rfl⟩
      exact ⟨number, rfl, found.symm⟩
    · rintro ⟨number, rfl, found⟩
      exact ⟨number, found.symm, rfl⟩
  cases field with
  | listen => exact Node.text_eq_ok_iff.trans (by simp [saying, eq_comm])
  | workers => exact counts .size value
  | maxConnections => exact counts .size value
  | nodelay => exact Node.truth_eq_ok_iff.trans (by simp [saying, eq_comm])
  | calibrationIterations =>
    exact (Node.count_eq_ok_iff keyed).trans (by simp [saying, eq_comm])
  | level => exact Node.text_eq_ok_iff.trans (by simp [saying, eq_comm])

/-- What is said of a setting with a value has the type of the setting. -/
theorem isTyped_of_saying {value : field.Value} {found : Found}
    (told : field.saying value = some found) : field.IsTyped found := by
  -- A count is never negative, and the other fields have their type by what they say.
  cases field with
  | workers | maxConnections =>
    obtain ⟨count, -, rfl⟩ := Option.map_eq_some_iff.mp told
    exact Int.natCast_nonneg _
  | calibrationIterations =>
    cases told
    exact Int.natCast_nonneg _
  | listen | nodelay | level =>
    cases told
    trivial

/-- Different values are said differently. -/
theorem saying_inj {value other : field.Value} {found : Found}
    (told : field.saying value = some found) (same : field.saying other = some found) :
    value = other := by
  -- Counts of 64 bits are told apart by their numbers.
  cases field with
  | workers | maxConnections =>
    obtain ⟨count, rfl, rfl⟩ := Option.map_eq_some_iff.mp told
    obtain ⟨another, rfl, equal⟩ := Option.map_eq_some_iff.mp same
    rw [Found.integer.injEq, Int.natCast_inj, UInt64.toNat_inj] at equal
    rw [equal]
  | calibrationIterations =>
    cases told
    have equal := Option.some.inj same
    rw [Found.integer.injEq, Int.natCast_inj, UInt64.toNat_inj] at equal
    exact equal.symm
  | listen | nodelay | level =>
    cases told
    cases same
    rfl

/-- Nothing has to be said only of a count that is not given, as by default. -/
theorem eq_inFile_of_saying {value : field.Value} (silent : field.saying value = none) :
    value = field.inFile {} := by
  -- Only the optional fields can be silent, and their default is to hold nothing.
  cases field with
  | workers | maxConnections => exact Option.map_eq_none_iff.mp silent
  | listen | nodelay | calibrationIterations | level => cases silent

/-- A value in a document has the type of a setting exactly if the setting can be read from it. -/
theorem exists_ofNode_iff {node : Node} (keyed : node.Keyed) :
    (∃ value, field.ofNode node = .ok value) ↔ field.IsTyped node.found := by
  -- A field takes just the scalars of its type, and of the integers those from zero.
  constructor
  · rintro ⟨value, read⟩
    exact isTyped_of_saying ((ofNode_eq_ok_iff keyed).mp read)
  · intro typed
    cases node with
    | scalar place value =>
      cases field <;> cases value <;> simp_all [IsTyped, Node.found, ofNode, Node.text, Node.truth,
        Node.count, Int.not_lt.mpr, Except.map]
    | _ => cases field <;> cases typed

/-! ## What a document says -/

variable {entries : Entries} {node : Node}

/-- A document gives a setting what is found where the setting is looked up. -/
theorem isGiven_iff (keyed : entries.Keyed) (tables : entries.HasTables) :
    field.IsGiven entries node ↔
      entries.setting? field.heading field.name field.position = some node := by
  constructor
  · intro given
    obtain ⟨key, place, kind, inner, member, heading, name, inside, named⟩ := given
    -- The section is found under its heading, and the entry under its name.
    have innerKeyed := Node.keyed_table_iff.mp (keyed.each _ member)
    have located := Entries.find?_of_mem keyed.names member
    have locatedInside := Entries.find?_of_mem innerKeyed.names inside
    rw [heading] at located
    rw [named] at locatedInside
    simp [Entries.setting?, located, Node.parts, Except.toOption, Parts.find?, locatedInside]
  · intro located
    obtain ⟨value, atHeading, rest⟩ := Option.bind_eq_some_iff.mp located
    obtain ⟨key, heading, member⟩ := Entries.mem_of_find? atHeading
    -- What is found under the heading is a table, so its parts are its entries.
    obtain ⟨place, kind, inner, rfl⟩ := Node.exists_of_isTable (tables field _ member heading)
    obtain ⟨name, named, inside⟩ := Entries.mem_of_find? rest
    exact ⟨key, place, kind, inner, member, heading, name, inside, named⟩

/-- What a document gives a setting is a part of the document. -/
theorem IsGiven.keyed (given : field.IsGiven entries node) (keyed : entries.Keyed) :
    node.Keyed := by
  -- The node stands in a table, and that one among the entries.
  obtain ⟨key, place, kind, inner, member, -, name, inside, -⟩ := given
  exact (Node.keyed_table_iff.mp (keyed.each _ member)).each _ inside

/-- What a document says of a setting is told by looking the setting up. -/
theorem isSaid_iff (keyed : entries.Keyed) (tables : entries.HasTables) {found : Found} :
    field.IsSaid entries found ↔ entries.said? field = some found := by
  -- The node that gives the field is the one that looking it up finds.
  rw [Entries.said?, Option.map_eq_some_iff]
  simp only [IsSaid, isGiven_iff keyed tables]

/-- A setting fits into a document whose sections are tables exactly if what is said of it has its
type. -/
theorem fits_iff (keyed : entries.Keyed) (tables : entries.HasTables) :
    field.Fits entries ↔ ∀ found, field.IsSaid entries found → field.IsTyped found := by
  -- In a table the parts are its entries, so fitting is about the entry of the field's name.
  constructor
  · intro fits found said
    obtain ⟨node, given, rfl⟩ := said
    rw [← exists_ofNode_iff (given.keyed keyed)]
    obtain ⟨key, place, kind, inner, member, heading, name, inside, named⟩ := given
    obtain ⟨parts, has, fitsIn⟩ := fits _ member heading
    cases has
    exact fitsIn _ inside named
  · intro typed entry member heading
    obtain ⟨key, value⟩ := entry
    obtain ⟨place, kind, inner, rfl⟩ := Node.exists_of_isTable (tables field _ member heading)
    refine ⟨.entries inner, rfl, ?_⟩
    intro inside insideMember named
    have given : field.IsGiven entries inside.2 :=
      ⟨key, place, kind, inner, member, heading, inside.1, insideMember, named⟩
    rw [exists_ofNode_iff (given.keyed keyed)]
    exact typed _ ⟨_, given, rfl⟩

/-- A setting that is read where it is looked up is filled. -/
theorem IsRead.isFilled (keyed : entries.Keyed) (tables : entries.HasTables) {value : field.Value}
    (read : field.IsRead (entries.setting? field.heading field.name field.position) value) :
    field.IsFilled entries value := by
  -- The field is looked up, and what is missing leaves the default.
  simp only [IsFilled, isSaid_iff keyed tables, Entries.said?]
  unfold IsRead at read
  cases located : entries.setting? field.heading field.name field.position with
  | none =>
    rw [located] at read
    refine ⟨by simp, fun _ => read.trans ?_⟩
    cases field <;> rfl
  | some node =>
    rw [located] at read
    have given := (isGiven_iff keyed tables).mpr located
    have told := (ofNode_eq_ok_iff (given.keyed keyed)).mp read
    refine ⟨fun found same => told.trans same, fun silent => absurd rfl (silent node.found)⟩

/-- Only one value fills a setting. -/
theorem IsFilled.unique {value other : field.Value} (filled : field.IsFilled entries value)
    (same : field.IsFilled entries other) : value = other := by
  -- The document says something about the field or nothing, and both determine it.
  by_cases said : ∃ found, field.IsSaid entries found
  · obtain ⟨found, said⟩ := said
    exact saying_inj (filled.1 found said) (same.1 found said)
  · rw [not_exists] at said
    exact (filled.2 said).trans (same.2 said).symm

/-- Settings of a document that hold the same value for each setting are the same. -/
theorem ext_inFile {file other : FileSettings}
    (same : ∀ field : Field, field.inFile file = field.inFile other) : file = other := by
  -- A field reads its own place, so agreeing fields are agreeing places.
  obtain ⟨⟨listen, workers, limit, nodelay⟩, ⟨iterations⟩, ⟨level⟩⟩ := file
  obtain rfl : listen = other.server.listen := same .listen
  obtain rfl : workers = other.server.workers := same .workers
  obtain rfl : limit = other.server.maxConnections := same .maxConnections
  obtain rfl : nodelay = other.server.nodelay := same .nodelay
  obtain rfl : iterations = other.workload.calibrationIterations := same .calibrationIterations
  obtain rfl : level = other.logging.level := same .level
  rfl

end Field

/-! ## Settings from tables -/

variable {text : String} {entries : Entries}

/-- A document gives the settings that its entries give. -/
theorem read_eq_ok_iff_ofEntries (read : Document.read? text.toList = some entries)
    {file : FileSettings} :
    FileSettings.read text = .ok file ↔ FileSettings.ofEntries entries = .ok file := by
  -- The text is read into the entries, and only the settings can still fail.
  simp only [FileSettings.read, read]
  exact mapError_eq_ok_iff

/-- A document whose sections are tables gives exactly the settings that it fills. -/
theorem read_eq_ok_iff_isFilled (read : Document.read? text.toList = some entries)
    (tables : entries.HasTables) {file : FileSettings} :
    FileSettings.read text = .ok file ↔
      ∀ field : Field, field.IsFilled entries (field.inFile file) := by
  have keyed := read?_keyed read
  have fills {found : FileSettings} (taken : FileSettings.ofEntries entries = .ok found)
      (field : Field) : field.IsFilled entries (field.inFile found) :=
    (Field.isRead_of_ofEntries keyed taken field).isFilled keyed tables
  rw [read_eq_ok_iff_ofEntries read]
  constructor
  · exact fills
  · intro filled
    -- All that is said is typed, so some settings are read, and no others fill the document.
    have fits (field : Field) : field.Fits entries := by
      rw [Field.fits_iff keyed tables]
      intro found said
      exact Field.isTyped_of_saying ((filled field).1 found said)
    obtain ⟨other, taken⟩ := exists_ofEntries fits
    have same : other = file :=
      Field.ext_inFile fun field => (fills taken field).unique (filled field)
    rw [taken, same]

/-- A document whose sections are tables gives settings exactly if all that it says of them has
their types; the settings are those that it says, and defaults where it says nothing; and any
document that says the same of them, in whichever order and among whatever else, gives the same. -/
theorem schema_of_tables (read : Document.read? text.toList = some entries)
    (tables : entries.HasTables) :
    ((∃ file, FileSettings.read text = .ok file) ↔
      ∀ (field : Field) found, field.IsSaid entries found → field.IsTyped found) ∧
    (∀ file, FileSettings.read text = .ok file → ∀ field : Field,
      (∀ found, field.IsSaid entries found → field.saying (field.inFile file) = some found) ∧
      ((∀ found, ¬ field.IsSaid entries found) → field.inFile file = field.inFile {})) ∧
    ∀ (other : String) others, Document.read? other.toList = some others → others.HasTables →
      (∀ (field : Field) found, field.IsSaid entries found ↔ field.IsSaid others found) →
      (FileSettings.read text).toOption = (FileSettings.read other).toOption := by
  have keyed := read?_keyed read
  refine ⟨?_, ?_, ?_⟩
  · simp only [read_eq_ok_iff_ofEntries read, exists_ofEntries_iff]
    exact forall_congr' fun field => Field.fits_iff keyed tables
  · intro file taken field
    exact (read_eq_ok_iff_isFilled read tables).mp taken field
  · intro other others readOther tablesOther same
    -- The same settings fill both documents.
    have filled (field : Field) (value : field.Value) :
        field.IsFilled entries value ↔ field.IsFilled others value := by
      simp only [Field.IsFilled, same]
    have equal (file : FileSettings) :
        FileSettings.read text = .ok file ↔ FileSettings.read other = .ok file := by
      rw [read_eq_ok_iff_isFilled read tables, read_eq_ok_iff_isFilled readOther tablesOther]
      exact forall_congr' fun field => filled field _
    apply Option.ext
    intro file
    have asOption (result : Except DocumentFault FileSettings) :
        result.toOption = some file ↔ result = .ok file := by
      cases result <;> simp [Except.toOption]
    rw [asOption, asOption]
    exact equal file

/-- A document with dotted keys, a table in braces and much that is unknown gives the same settings
as one with headers in another order. -/
theorem schema_of_tables_in_any_notation :
    let text := "server.listen = \"a\"\nserver.more = [1, \x7bnodelay = 2\x7d]\n" ++
      "workload = \x7bcalibration_iterations = 5\x7d\n[other]\nlevel = 3\n"
    let other := "[workload]\ncalibration_iterations = 5\n[logging]\n[server]\nlisten = \"a\"\n"
    ∃ file, FileSettings.read text = .ok file ∧ FileSettings.read other = .ok file ∧
      file.server.listen = "a" ∧ file.workload.calibrationIterations = 5 ∧
      file.logging.level = "info" := by
  -- Both documents are read here, and each field is looked up in them.
  intro text other
  let told : Field → Option Found
    | .listen => some (.text "a")
    | .calibrationIterations => some (.integer 5)
    | _ => none
  obtain ⟨entries, read, tables, looked⟩ : ∃ entries, entries ∈ Document.read? text.toList ∧
      entries.HasTables ∧ ∀ field, entries.said? field = told field := by decide +kernel
  obtain ⟨others, readOther, tablesOther, lookedOther⟩ : ∃ entries,
      entries ∈ Document.read? other.toList ∧ entries.HasTables ∧
      ∀ field, entries.said? field = told field := by decide +kernel
  have said (field : Field) (found : Found) :
      field.IsSaid entries found ↔ told field = some found := by
    rw [Field.isSaid_iff (read?_keyed read) tables, looked]
  have saidOther (field : Field) (found : Found) :
      field.IsSaid others found ↔ told field = some found := by
    rw [Field.isSaid_iff (read?_keyed readOther) tablesOther, lookedOther]
  obtain ⟨accepted, filled, same⟩ := schema_of_tables read tables
  obtain ⟨file, taken⟩ : ∃ file, FileSettings.read text = .ok file := by
    rw [accepted]
    intro field found isSaid
    rw [said] at isSaid
    cases field <;> cases isSaid <;> decide
  -- Both documents say the same about each field, so the settings are the same.
  have both := same other others readOther tablesOther fun field found =>
    (said field found).trans (saidOther field found).symm
  have takenOther : FileSettings.read other = .ok file := by
    rw [taken] at both
    cases result : FileSettings.read other with
    | error fault => simp [result, Except.toOption] at both
    | ok another =>
      rw [result] at both
      exact congrArg Except.ok (Option.some.inj both).symm
  have listen := (filled file taken .listen).1 _ ((said .listen _).mpr rfl)
  have iterations := (filled file taken .calibrationIterations).1 _ ((said _ _).mpr rfl)
  have level := (filled file taken .level).2 fun found isSaid => by
    cases (said .level found).mp isSaid
  have count : file.workload.calibrationIterations = 5 :=
    Field.saying_inj iterations rfl
  exact ⟨file, taken, takenOther, Field.saying_inj listen rfl, count, level⟩

end LoadServer
