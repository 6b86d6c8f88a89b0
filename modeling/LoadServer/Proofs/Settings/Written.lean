import LoadServer.Proofs.Document.Sections
import LoadServer.Proofs.Settings.Tables
import LoadServer.Settings.Written

/-!
Documents that settings are written in. Main statement: settings are read back from every document
that writes them, with its sections, its entries and what says nothing in any order, and its text
spelled in any way.
-/

namespace LoadServer

open Document

namespace Document

/-- Related lists relate each member of the first to one of the second. -/
theorem exists_of_forall₂ {α β : Type} {related : α → β → Prop} {first : List α} {second : List β}
    (each : List.Forall₂ related first second) {a : α} (member : a ∈ first) :
    ∃ b ∈ second, related a b := by
  -- A member and its counterpart stand at the same position.
  induction each with
  | nil => cases member
  | @cons _ b _ _ here _ ih =>
    rcases List.mem_cons.mp member with rfl | later
    · exact ⟨b, by simp, here⟩
    · obtain ⟨found, inside, holds⟩ := ih later
      exact ⟨found, by simp [inside], holds⟩

/-- What a written value is found to be. -/
def Literal.found : Literal → Found
  | text body => .text body
  | count number => .integer number
  | truth held => .truth held

/-- A value is found to be what its written form is. -/
theorem Literal.found_scalar (value : Literal) (place : Place) :
    (Node.scalar place value.scalar).found = value.found := by
  -- Each kind of value is found as what it is.
  cases value <;> rfl

variable {root entries : Entries} {settings : List Setting} {sections : List Section}

/-- Entries that hold settings hold the value of each under its name. -/
theorem Entries.Hold.exists_iff (hold : entries.Hold settings) {name : String} {found : Found} :
    (∃ key node, (key, node) ∈ entries ∧ key.name = name ∧ node.found = found) ↔
      ∃ value, (name, value) ∈ settings ∧ value.found = found := by
  -- Entries and settings correspond one by one, with the same name and the same value.
  constructor
  · rintro ⟨key, node, member, rfl, rfl⟩
    obtain ⟨⟨_, value⟩, inside, rfl, place, shape⟩ := exists_of_forall₂ hold member
    have same : node = .scalar place value.scalar := shape
    exact ⟨value, inside, by rw [same, value.found_scalar place]⟩
  · rintro ⟨value, inside, rfl⟩
    obtain ⟨⟨key, _⟩, member, named, place, rfl⟩ :=
      exists_of_forall₂ (List.Forall₂.flip hold) inside
    exact ⟨key, _, member, named, value.found_scalar place⟩

/-- Sections are tables. -/
theorem Entries.HoldSections.hasTables (hold : root.HoldSections sections) : root.HasTables := by
  -- Every entry of the root belongs to a section, whose node is a table.
  intro field entry member heading
  obtain ⟨part, -, -, place, inner, shape, -⟩ := exists_of_forall₂ hold member
  rw [shape]
  rfl

/-- What tables say of a setting is what the entry of its name says in the section of its heading.
-/
theorem Entries.HoldSections.isSaid_iff (hold : root.HoldSections sections) {field : Field}
    {found : Found} :
    field.IsSaid root found ↔ ∃ settings, (field.heading, settings) ∈ sections ∧
      ∃ value, (field.name, value) ∈ settings ∧ value.found = found := by
  -- Tables and sections correspond one by one, and so do the entries within.
  constructor
  · rintro ⟨node, ⟨key, place, kind, inner, member, heading, name, inside, named⟩, told⟩
    obtain ⟨⟨_, settings⟩, part, rfl, _, _, shape, within⟩ := exists_of_forall₂ hold member
    cases shape
    refine ⟨settings, heading ▸ part, within.exists_iff.mp ⟨name, node, inside, named, told⟩⟩
  · rintro ⟨settings, part, setting⟩
    obtain ⟨⟨key, _⟩, member, heading, place, inner, rfl, within⟩ :=
      exists_of_forall₂ (List.Forall₂.flip hold) part
    obtain ⟨name, node, inside, named, told⟩ := within.exists_iff.mpr setting
    exact ⟨node, ⟨key, _, _, inner, member, heading, name, inside, named⟩, told⟩

end Document

namespace FileSettings

variable {settings : FileSettings} {lines : List WrittenLine}

/-- Counts that the integers of a document are great enough for. -/
structure HasSmallCounts (settings : FileSettings) : Prop where
  workers : ∀ count ∈ settings.server.workers, count.toNat < 2 ^ 63
  maxConnections : ∀ count ∈ settings.server.maxConnections, count.toNat < 2 ^ 63
  calibrationIterations : settings.workload.calibrationIterations.toNat < 2 ^ 63

/-- Every settings are written by some document. -/
theorem exists_writes (settings : FileSettings) :
    ∃ lines, ∃ text : String, settings.IsWrittenBy lines ∧ Writes lines text.toList := by
  -- Their plainest document has no comments.
  refine ⟨settings.lines, writtenText settings.lines, settings.isWrittenBy_lines, ?_⟩
  apply writes_writtenText
  intro text member
  simp [FileSettings.lines] at member

/-- The sections hold what has to be said for the settings to have their values. -/
theorem exists_sections_iff (settings : FileSettings) {field : Field} {found : Found} :
    (∃ entries, (field.heading, entries) ∈ settings.sections ∧
      ∃ value, (field.name, value) ∈ entries ∧ value.found = found) ↔
      field.saying (field.inFile settings) = some found := by
  -- Each field is written under its heading and its name, an optional one only if it is set.
  cases field with
  | listen | workers | maxConnections | nodelay | calibrationIterations | level =>
    simp [sections, ServerSection.entries, WorkloadSection.entries, LoggingSection.entries,
      countEntry, Field.heading, Field.name, Field.saying, Field.inFile, Literal.found]

/-- The names of the sections and of their entries are those of settings, and none comes twice. -/
theorem distinct_sections (settings : FileSettings) : Distinct settings.sections where
  -- The names of each section are written out, and the optional ones may be missing.
  headings := by simp [sections]
  names part member := by
    rcases settings with ⟨⟨listen, workers, limit, nodelay⟩, _, _⟩
    cases workers <;> cases limit <;> revert part <;>
      simp [sections, ServerSection.entries, WorkloadSection.entries, LoggingSection.entries,
        countEntry]

/-- The names of the sections need no quotation marks. -/
theorem isBareName_heading {part : Section} (member : part ∈ settings.sections) :
    IsBareName part.1 := by
  -- There are three headings, and each belongs to some field.
  have bare : ∀ field : Field, IsBareName field.heading := by decide +kernel
  simp only [sections, List.mem_cons, List.not_mem_nil, or_false] at member
  rcases member with rfl | rfl | rfl
  · exact bare .listen
  · exact bare .calibrationIterations
  · exact bare .level

/-- The entries of the sections can be written, with counts that are small. -/
theorem isReadable_entry (small : settings.HasSmallCounts) {part : Section}
    (member : part ∈ settings.sections) {setting : Setting} (inside : setting ∈ part.2) :
    (WrittenLine.entry setting.1 setting.2).IsReadable := by
  have bare : ∀ field : Field, IsBareName field.name := by decide +kernel
  simp only [sections, List.mem_cons, List.not_mem_nil, or_false] at member
  -- The entries of one section after another, three of which may hold counts.
  rcases member with rfl | rfl | rfl
  · simp only [ServerSection.entries, countEntry, List.mem_cons, List.mem_append, List.mem_map,
      Option.mem_toList] at inside
    rcases inside with rfl | rfl | ⟨count, given, rfl⟩ | ⟨count, given, rfl⟩
    · exact ⟨bare .listen, trivial⟩
    · exact ⟨bare .nodelay, trivial⟩
    · exact ⟨bare .workers, small.workers count given⟩
    · exact ⟨bare .maxConnections, small.maxConnections count given⟩
  · obtain rfl := List.mem_singleton.mp inside
    exact ⟨bare .calibrationIterations, small.calibrationIterations⟩
  · obtain rfl := List.mem_singleton.mp inside
    exact ⟨bare .level, trivial⟩

/-- Sections that are written are some of the sections of the settings, with the entries in another
order. -/
theorem IsWrittenBy.exists_iff (written : settings.IsWrittenBy lines) {heading : String}
    {setting : Setting} :
    (∃ entries, (heading, entries) ∈ (grouped lines).2 ∧ setting ∈ entries) ↔
      ∃ given, (heading, given) ∈ settings.sections ∧ setting ∈ given := by
  obtain ⟨-, headings, each⟩ := written
  constructor
  · rintro ⟨entries, part, inside⟩
    obtain ⟨given, own, same⟩ := each heading entries part
    exact ⟨given, own, same.mem_iff.mp inside⟩
  · rintro ⟨given, own, inside⟩
    -- The section is written, and there is only one of its name.
    obtain ⟨⟨_, entries⟩, part, rfl⟩ :=
      List.mem_map.mp (headings.mem_iff.mpr (List.mem_map_of_mem own))
    obtain ⟨other, another, same⟩ := each _ entries part
    have unique := List.inj_on_of_nodup_map settings.distinct_sections.headings own another rfl
    cases unique
    exact ⟨entries, part, same.mem_iff.mpr inside⟩

/-- Written sections have distinct names. -/
theorem IsWrittenBy.distinct (written : settings.IsWrittenBy lines) :
    Distinct (grouped lines).2 where
  -- The written sections are a rearrangement of the settings' own.
  headings := written.2.1.nodup_iff.mpr settings.distinct_sections.headings
  names part member := by
    obtain ⟨given, own, same⟩ := written.2.2 part.1 part.2 member
    exact (same.map Prod.fst).nodup_iff.mpr (settings.distinct_sections.names _ own)

/-- Lines that write settings with small counts can be read. -/
theorem IsWrittenBy.isReadable (written : settings.IsWrittenBy lines)
    (small : settings.HasSmallCounts) : ∀ line ∈ lines, line.IsReadable := by
  -- Every line with a name belongs to a section, whose names are those of the settings.
  intro line member
  cases line with
  | blank | comment => trivial
  | header name =>
    obtain ⟨entries, part⟩ := exists_section_of_header member
    obtain ⟨given, own, -⟩ := written.2.2 name entries part
    exact isBareName_heading own
  | entry name value =>
    have found := exists_section_of_entry (name, value) member
    rw [written.1] at found
    rcases found with leading | ⟨⟨heading, entries⟩, part, inside⟩
    · cases leading
    · obtain ⟨given, own, same⟩ := written.2.2 heading entries part
      exact isReadable_entry small own (same.mem_iff.mp inside)

/-- A document that writes settings fills them. -/
theorem IsWrittenBy.isFilled (written : settings.IsWrittenBy lines) {root : Entries}
    (hold : root.HoldSections (grouped lines).2) (field : Field) :
    field.IsFilled root (field.inFile settings) := by
  -- What the document says and what the settings say are the same.
  have said (found : Found) :
      field.IsSaid root found ↔ field.saying (field.inFile settings) = some found := by
    rw [hold.isSaid_iff, ← exists_sections_iff]
    constructor
    · rintro ⟨entries, part, value, inside, told⟩
      obtain ⟨given, own, inside⟩ := written.exists_iff.mp ⟨entries, part, inside⟩
      exact ⟨given, own, value, inside, told⟩
    · rintro ⟨given, own, value, inside, told⟩
      obtain ⟨entries, part, inside⟩ := written.exists_iff.mpr ⟨given, own, inside⟩
      exact ⟨entries, part, value, inside, told⟩
  refine ⟨fun found told => (said found).mp told, fun silent => ?_⟩
  apply Field.eq_inFile_of_saying
  rw [Option.eq_none_iff_forall_ne_some]
  exact fun found told => silent found ((said found).mpr told)

/-- Settings with counts of 63 bits are read back from every document that writes them. -/
theorem read_of_writes (small : settings.HasSmallCounts) (written : settings.IsWrittenBy lines)
    {text : String} (writes : Writes lines text.toList) : FileSettings.read text = .ok settings := by
  -- The lines read back into the sections, and these say what the settings hold.
  obtain ⟨root, read, hold⟩ :=
    read?_of_writes (written.isReadable small) writes written.1 written.distinct
  rw [read_eq_ok_iff_isFilled read hold.hasTables]
  exact written.isFilled hold

/-- Sections and entries in an order of their own, a comment that looks like a header and like an
entry, and text with marks, backslashes and control characters. -/
theorem read_of_writes_in_another_order :
    let settings : FileSettings :=
      { server := { listen := "\"\\\x01é", workers := some 7, nodelay := true }
        logging := { level := "debug" } }
    let text := "#[x] = \"\n[logging]\nlevel = \"debug\"\n\n[server]\nnodelay = true\n" ++
      "workers = 7\nlisten = \"\\\"\\\\\\u0001é\"\n[workload]\n" ++
      "calibration_iterations = 10000000\n"
    settings.HasSmallCounts ∧ FileSettings.read text = .ok settings := by
  intro settings text
  let lines : List WrittenLine :=
    [.comment "[x] = \"".toList, .header "logging", .entry "level" (.text "debug"), .blank,
      .header "server", .entry "nodelay" (.truth true), .entry "workers" (.count 7),
      .entry "listen" (.text "\"\\\x01é"), .header "workload",
      .entry "calibration_iterations" (.count 10000000)]
  have small : settings.HasSmallCounts := by
    refine ⟨?_, ?_, by decide⟩
    · intro count member
      cases member
      decide
    · intro count member
      cases member
  have written : settings.IsWrittenBy lines := by
    refine ⟨rfl, by decide, ?_⟩
    intro name entries member
    simp only [lines, grouped, List.mem_cons, Prod.mk.injEq, List.not_mem_nil, or_false] at member
    rcases member with ⟨rfl, rfl⟩ | ⟨rfl, rfl⟩ | ⟨rfl, rfl⟩
    · exact ⟨settings.logging.entries, by simp [sections], by decide⟩
    · exact ⟨settings.server.entries, by simp [sections], by decide⟩
    · exact ⟨settings.workload.entries, by simp [sections], by decide⟩
  have writes : Writes lines text.toList := by
    -- The text is the plainest form of the lines.
    have same : text = writtenText lines := by decide +kernel
    rw [same]
    apply writes_writtenText
    intro comment member
    obtain rfl : comment = "[x] = \"".toList := by simpa [lines] using member
    exact List.all_eq_true.mp rfl
  exact ⟨small, read_of_writes small written writes⟩

end FileSettings

end LoadServer
