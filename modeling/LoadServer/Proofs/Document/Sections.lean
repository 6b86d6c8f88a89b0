import LoadServer.Proofs.Document.Keyed
import LoadServer.Proofs.Document.Lines

/-!
Documents of sections that were written. Main statement: lines that write sections, with no name
twice, are put together into a table for each section, with the entries written under its header.
-/

namespace LoadServer.Document

/-- A section: its name, and its entries in order. -/
abbrev Section := String × List Setting

/-- Entries that hold some settings in their order. -/
def Entries.Hold (entries : Entries) (settings : List Setting) : Prop :=
  List.Forall₂ (fun entry setting => entry.1.name = setting.1 ∧
    ∃ place, entry.2 = .scalar place setting.2.scalar) entries settings

/-- Entries that are tables for some sections in their order. -/
def Entries.HoldSections (root : Entries) (sections : List Section) : Prop :=
  List.Forall₂ (fun entry part => entry.1.name = part.1 ∧
    ∃ place inner, entry.2 = .table place .stated inner ∧ Entries.Hold inner part.2) root sections

/-- No name of a section comes twice, and none within a section. -/
structure Distinct (sections : List Section) : Prop where
  headings : (sections.map Prod.fst).Nodup
  names : ∀ part ∈ sections, (part.2.map Prod.fst).Nodup

variable {entries root : Entries} {settings : List Setting} {sections : List Section}

/-- Entries have the names of the settings that they hold. -/
theorem Entries.Hold.names_eq (hold : entries.Hold settings) :
    entries.names = settings.map Prod.fst := by
  -- Settings and entries go along together, each pair with one name.
  induction hold with
  | nil => rfl
  | cons first _ ih => exact congrArg₂ List.cons first.1 ih

/-- Tables have the names of their sections. -/
theorem Entries.HoldSections.names_eq (hold : root.HoldSections sections) :
    root.names = sections.map Prod.fst := by
  -- Sections and tables go along together, each pair with one name.
  induction hold with
  | nil => rfl
  | cons first _ ih => exact congrArg₂ List.cons first.1 ih

/-- A header among some lines begins one of their sections. -/
theorem exists_section_of_header {lines : List WrittenLine} {name : String}
    (member : .header name ∈ lines) : ∃ entries, (name, entries) ∈ (grouped lines).2 := by
  -- The header opens the section of the lines right after it.
  induction lines with
  | nil => cases member
  | cons line lines ih =>
    rcases List.mem_cons.mp member with rfl | later
    · exact ⟨(grouped lines).1, by simp [grouped]⟩
    · obtain ⟨entries, found⟩ := ih later
      exact ⟨entries, by cases line <;> simp [grouped, found]⟩

/-- An entry among some lines belongs to one of their sections, or comes before them. -/
theorem exists_section_of_entry {lines : List WrittenLine} (setting : Setting)
    (member : .entry setting.1 setting.2 ∈ lines) :
    setting ∈ (grouped lines).1 ∨ ∃ part ∈ (grouped lines).2, setting ∈ part.2 := by
  induction lines with
  | nil => cases member
  | cons line lines ih =>
    rcases List.mem_cons.mp member with rfl | later
    · exact .inl (by simp [grouped])
    · -- The first line adds to the sections, or takes the entries before them into its own.
      rcases ih later with leading | ⟨part, found, within⟩
      · cases line with
        | header name => exact .inr ⟨(name, (grouped lines).1), by simp [grouped], leading⟩
        | blank | comment | entry => exact .inl (by simp [grouped, leading])
      · exact .inr ⟨part, by cases line <;> simp [grouped, found], within⟩

/-! ## One line after another -/

/-- A document as far as it has been put together: the sections that are complete, and the one that
is being written. -/
inductive Assembly.Holds : Assembly → List Section → Option Section → Prop where
  | start : Holds {} [] none
  | opened {root entries : Entries} {done : List Section} {settings : List Setting} {leaf : Key}
      {place : Place} (before : root.HoldSections done) (now : entries.Hold settings) :
      Holds ⟨root, .table [] leaf place, entries⟩ done (some (leaf.name, settings))

variable {assembly : Assembly} {done : List Section} {opened : Option Section}

namespace Assembly

/-- The section that is being written becomes a table if its name is new. -/
theorem Holds.close? (holds : assembly.Holds done opened)
    (headings : ((done ++ opened.toList).map Prod.fst).Nodup) :
    ∃ root, assembly.close? = some root ∧ root.HoldSections (done ++ opened.toList) := by
  -- Without an open section there is nothing to close; otherwise it becomes the last table.
  cases holds with
  | start => exact ⟨[], rfl, .nil⟩
  | @opened root entries done settings leaf place before now =>
    have fresh : root.find? leaf.name = none := by
      rw [Entries.find?_eq_none_iff, before.names_eq]
      intro member
      rw [Option.toList_some, List.map_append] at headings
      exact (List.nodup_append.mp headings).2.2 _ member _ (by simp) rfl
    refine ⟨root ++ [(leaf, .table (some place) .stated entries)], ?_, ?_⟩
    · simp [Assembly.close?, Entries.within?, fresh]
    · exact List.rel_append before (.cons ⟨rfl, _, _, rfl, now⟩ .nil)

/-- A header completes a section and opens another one. -/
theorem Holds.header (holds : assembly.Holds done opened) {key : Key} (place : Place)
    (headings : ((done ++ opened.toList).map Prod.fst ++ [key.name]).Nodup) :
    ∃ next, assembly.add? (.header [] key place) = some next ∧
      next.Holds (done ++ opened.toList) (some (key.name, [])) := by
  -- A header closes the section before it, and its own name is a new one.
  obtain ⟨old, new, apart⟩ := List.nodup_append.mp headings
  obtain ⟨root, closed, before⟩ := holds.close? old
  have fresh : root.find? key.name = none := by
    rw [Entries.find?_eq_none_iff, before.names_eq]
    intro member
    exact apart _ member _ (by simp) rfl
  refine ⟨⟨root, .table [] key place, []⟩, ?_, .opened before .nil⟩
  simp [add?, closed, Entries.within?, openTable?, fresh]

/-- An entry with a new name is added to the section that is being written. -/
theorem Holds.entry {heading : String} (holds : assembly.Holds done (some (heading, settings)))
    {key : Key} (fresh : key.name ∉ settings.map Prod.fst) (place : Place) (value : Literal)
    (stop : Nat) :
    ∃ next, assembly.add? (.entry [] key (.scalar place value.scalar) stop) = some next ∧
      next.Holds done (some (heading, settings ++ [(key.name, value)])) := by
  -- The name is fresh in the open section, so the entry goes to its end.
  cases holds with
  | @opened root entries done settings leaf opening before now =>
    have absent : entries.find? key.name = none := by
      rw [Entries.find?_eq_none_iff, now.names_eq]
      exact fresh
    refine ⟨⟨root, .table [] leaf { opening with stop := stop },
      entries ++ [(key, .scalar place value.scalar)]⟩, ?_, .opened before ?_⟩
    · simp [add?, Entries.insert?, absent, extended]
    · exact List.rel_append now (.cons ⟨rfl, place, rfl⟩ .nil)

end Assembly

/-- Lines are added one after another. -/
theorem Assembly.addAll?_cons {line : Line} {next : Assembly}
    (added : assembly.add? line = some next) (told : List Line) : assembly.addAll? (line :: told) = next.addAll? told := by
  -- The lines are added one by one, from the first.
  simp [addAll?, added]

/-! ## All lines -/

variable {lines : List WrittenLine} {told : List Line}

/-- Lines go on with the section that is being written, and sections of their own follow it. -/
theorem exists_root_of_opened (gives : Gives lines told) {heading : String}
    (holds : assembly.Holds done (some (heading, settings)))
    (distinct : Distinct
      (done ++ (heading, settings ++ (grouped lines).1) :: (grouped lines).2)) :
    ∃ final root, assembly.addAll? told = some final ∧ final.close? = some root ∧
      root.HoldSections (done ++ (heading, settings ++ (grouped lines).1) :: (grouped lines).2) := by
  -- An entry goes into the section, and a header makes it one of those that are complete.
  induction gives generalizing assembly done heading settings with
  | nil =>
    simp only [grouped, List.append_nil] at distinct ⊢
    obtain ⟨root, closed, before⟩ := holds.close? distinct.headings
    exact ⟨assembly, root, rfl, closed, before⟩
  | @cons line lines given told first tail ih =>
    cases first with
    | blank | comment => exact ih holds distinct
    | @header key place =>
      simp only [grouped, List.append_nil] at distinct ⊢
      have headings := distinct.headings
      rw [List.map_append, List.map_cons, List.map_cons, List.append_cons,
        List.append_cons] at headings
      obtain ⟨next, added, nextHolds⟩ := holds.header place
        (by simpa using headings.sublist (List.sublist_append_left _ _))
      obtain ⟨final, root, all, closed, hold⟩ := ih nextHolds (by simpa using distinct)
      exact ⟨final, root, (Assembly.addAll?_cons added told).trans all, closed, by simpa using hold⟩
    | @entry key value place stop =>
      simp only [grouped] at distinct ⊢
      have names := distinct.names (heading, settings ++ (key.name, value) :: (grouped lines).1)
        (by simp)
      have fresh : key.name ∉ settings.map Prod.fst := by
        intro member
        rw [List.map_append, List.map_cons] at names
        exact (List.nodup_append.mp names).2.2 _ member _ (by simp) rfl
      obtain ⟨next, added, nextHolds⟩ := holds.entry fresh place value stop
      obtain ⟨final, root, all, closed, hold⟩ := ih nextHolds (by simpa using distinct)
      exact ⟨final, root, (Assembly.addAll?_cons added told).trans all, closed, by simpa using hold⟩

/-- Lines that write sections and nothing before the first header are put together into tables for
the sections. -/
theorem ofLines?_of_gives (gives : Gives lines told) (leading : (grouped lines).1 = [])
    (distinct : Distinct (grouped lines).2) :
    ∃ root, ofLines? told = some root ∧ root.HoldSections (grouped lines).2 := by
  -- Before the first header there are only lines that say nothing.
  induction gives with
  | nil => exact ⟨[], rfl, .nil⟩
  | @cons line lines given told first tail ih =>
    cases first with
    | blank | comment => exact ih leading distinct
    | @header key place =>
      simp only [grouped] at distinct ⊢
      obtain ⟨next, added, nextHolds⟩ := Assembly.Holds.start.header place (by simp)
      obtain ⟨final, root, all, closed, hold⟩ := exists_root_of_opened tail nextHolds
        (by simpa using distinct)
      refine ⟨root, ?_, by simpa using hold⟩
      have added : Assembly.addAll? {} (.header [] key place :: told) = some final :=
        (Assembly.addAll?_cons added told).trans all
      simp [ofLines?, added, closed]
    | entry => cases leading

/-- A document that writes sections is read as tables for them. -/
theorem read?_of_writes {text : List Char} (readable : ∀ line ∈ lines, line.IsReadable)
    (writes : Writes lines text) (leading : (grouped lines).1 = [])
    (distinct : Distinct (grouped lines).2) :
    ∃ root, read? text = some root ∧ root.HoldSections (grouped lines).2 := by
  -- Reading line by line gives what the lines say, and these come together into the sections.
  obtain ⟨told, read, gives⟩ := lines?_of_writes readable writes
  obtain ⟨root, made, hold⟩ := ofLines?_of_gives gives leading distinct
  refine ⟨root, ?_, hold⟩
  rw [read?, skipMark_of_lines? read, read]
  exact made

end LoadServer.Document
