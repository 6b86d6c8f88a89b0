import LoadServer.Document.Written
import LoadServer.Settings.File

/-! The documents that settings can be written in: sections and entries in any order. -/

namespace LoadServer

open Document

/-- A count as an entry, if it is given. -/
def countEntry (name : String) (count : Option UInt64) : List Setting :=
  count.toList.map fun count => (name, .count count.toNat)

/-- The entries of the section on the server. -/
def ServerSection.entries (part : ServerSection) : List Setting :=
  ("listen", .text part.listen) :: ("nodelay", .truth part.nodelay) ::
    (countEntry "workers" part.workers ++ countEntry "max_connections" part.maxConnections)

/-- The entries of the section on the work. -/
def WorkloadSection.entries (part : WorkloadSection) : List Setting :=
  countEntry "calibration_iterations" (some part.calibrationIterations)

/-- The entries of the section on the log. -/
def LoggingSection.entries (part : LoggingSection) : List Setting :=
  [("level", .text part.level)]

namespace FileSettings

/-- The sections with their entries. -/
def sections (settings : FileSettings) : List (String × List Setting) :=
  [("server", settings.server.entries), ("workload", settings.workload.entries),
    ("logging", settings.logging.entries)]

/-- The plainest document of some settings. -/
def lines (settings : FileSettings) : List WrittenLine :=
  settings.sections.flatMap fun (name, entries) =>
    .header name :: entries.map fun (name, value) => .entry name value

/-- Whether some lines write these settings, with the sections and the entries of each in any
order, and with anything between them that says nothing. -/
def IsWrittenBy (settings : FileSettings) (lines : List WrittenLine) : Prop :=
  (grouped lines).1 = [] ∧
    ((grouped lines).2.map (·.1)).Perm (settings.sections.map (·.1)) ∧
      ∀ name entries, (name, entries) ∈ (grouped lines).2 →
        ∃ given, (name, given) ∈ settings.sections ∧ entries.Perm given

/-- The lines under headers are grouped by their headers. -/
theorem grouped_flatMap (sections : List (String × List Setting)) :
    grouped (sections.flatMap fun (name, entries) =>
      WrittenLine.header name :: entries.map fun (name, value) => .entry name value) =
        ([], sections) := by
  -- Under one header the entries come back in order, and the next header ends them.
  have under : ∀ (entries : List Setting) (rest : List WrittenLine),
      grouped (entries.map (fun (name, value) => WrittenLine.entry name value) ++ rest) =
        (entries ++ (grouped rest).1, (grouped rest).2) := by
    intro entries rest
    induction entries with
    | nil => rfl
    | cons entry entries ih => simp [grouped, ih]
  induction sections with
  | nil => rfl
  | cons first sections ih => simp [grouped, under, ih]

/-- The plainest document writes its settings. -/
theorem isWrittenBy_lines (settings : FileSettings) : settings.IsWrittenBy settings.lines := by
  -- The document groups into the sections themselves.
  have same := grouped_flatMap settings.sections
  refine ⟨by rw [lines, same], by rw [lines, same], fun name entries found => ?_⟩
  rw [lines, same] at found
  exact ⟨entries, found, .refl _⟩

end FileSettings

end LoadServer
