import LoadServer.Document.Reader
import Mathlib

/-!
In a document that is read, a name stands for one value at most. Main statement: no two entries of
a table share a name, however the table was put together and however deep it lies, and every integer
has 64 bits.
-/

namespace LoadServer.Document

/-- The names of entries in order. -/
def Entries.names (entries : Entries) : List String :=
  entries.map fun entry => entry.1.name

/-- Whether a value has 64 bits, if it is an integer. -/
def Scalar.IsInRange : Scalar → Prop
  | .integer number => -greatestInteger - 1 ≤ number ∧ number ≤ greatestInteger
  | _ => True

/-- No two entries of a table share a name, and every integer is in range, in a value and in all of
its parts. -/
inductive Node.Keyed : Node → Prop where
  | scalar {place : Place} {value : Scalar} (inRange : value.IsInRange) :
      Keyed (.scalar place value)
  | array {place : Place} {items : List Node} (each : ∀ item ∈ items, Keyed item) :
      Keyed (.array place items)
  | table {place : Option Place} {kind : TableKind} {entries : Entries}
      (names : (entries.map fun entry => entry.1.name).Nodup)
      (each : ∀ entry ∈ entries, Keyed entry.2) : Keyed (.table place kind entries)
  | tables {items : List (Place × Entries)}
      (names : ∀ item ∈ items, (item.2.map fun entry => entry.1.name).Nodup)
      (each : ∀ item ∈ items, ∀ entry ∈ item.2, Keyed entry.2) : Keyed (.tables items)

/-- No two of some entries share a name, and their values are keyed as well. -/
structure Entries.Keyed (entries : Entries) : Prop where
  names : entries.names.Nodup
  each : ∀ entry ∈ entries, entry.2.Keyed

/-- A table is told by its entries. -/
theorem Node.keyed_table_iff {place : Option Place} {kind : TableKind} {entries : Entries} :
    (Node.table place kind entries).Keyed ↔ entries.Keyed := by
  -- A table is keyed by one constructor only.
  constructor
  · rintro (_ | _ | ⟨names, each⟩ | _)
    exact ⟨names, each⟩
  · rintro ⟨names, each⟩
    exact .table names each

/-- Several tables are told by the entries of each. -/
theorem Node.keyed_tables_iff {items : List (Place × Entries)} :
    (Node.tables items).Keyed ↔ ∀ item ∈ items, item.2.Keyed := by
  -- An array of tables is keyed by one constructor only, which splits each item in two.
  constructor
  · rintro (_ | _ | _ | ⟨names, each⟩) item member
    exact ⟨names item member, each item member⟩
  · intro each
    exact .tables (fun item member => (each item member).names)
      fun item member => (each item member).each

namespace Entries

variable {entries : Entries} {name : String} {node : Node}

/-- A name that is not found is none of the names. -/
theorem find?_eq_none_iff : entries.find? name = none ↔ name ∉ entries.names := by
  simp [find?, names, List.find?_eq_none]

/-- What is found under a name is the value of an entry. -/
theorem mem_of_find? (found : entries.find? name = some node) :
    ∃ key, key.name = name ∧ (key, node) ∈ entries := by
  -- The entry found is one of the entries, and it passed the test of its name.
  obtain ⟨⟨key, value⟩, located, rfl⟩ := Option.map_eq_some_iff.mp found
  exact ⟨key, by simpa using List.find?_some located, List.mem_of_find?_eq_some located⟩

/-- An entry is found under its name, which no other entry has. -/
theorem find?_of_mem (distinct : entries.names.Nodup) {key : Key} (member : (key, node) ∈ entries) :
    entries.find? key.name = some node := by
  cases found : entries.find? key.name with
  | none =>
    have absent := find?_eq_none_iff.mp found
    exact absurd (List.mem_map_of_mem (f := fun entry => entry.1.name) member) absent
  | some other =>
    -- Two entries of one name are the same entry.
    obtain ⟨another, named, located⟩ := mem_of_find? found
    have same := List.inj_on_of_nodup_map distinct member located named.symm
    cases same
    rfl

/-- Replacing a value keeps all names. -/
@[simp] theorem names_replace (entries : Entries) (name : String) (node : Node) :
    (entries.replace name node).names = entries.names := by
  -- Each entry keeps its key, whether its value is replaced or not.
  simp only [names, replace, List.map_map]
  refine List.map_congr_left fun entry _ => ?_
  by_cases same : entry.1.name = name <;> simp [same]

namespace Keyed

/-- No entries share no name. -/
theorem nil : Keyed [] :=
  ⟨List.nodup_nil, fun _ member => by cases member⟩

/-- A value that is found is one of the values. -/
theorem of_find? (keyed : entries.Keyed) (found : entries.find? name = some node) : node.Keyed := by
  -- Each value among keyed entries is keyed, the one found included.
  obtain ⟨key, -, member⟩ := mem_of_find? found
  exact keyed.each _ member

/-- An entry with a new name can be added. -/
theorem concat (keyed : entries.Keyed) {key : Key} (fresh : entries.find? key.name = none)
    (value : node.Keyed) : (entries ++ [(key, node)]).Keyed where
  -- The name of the added entry is fresh, so the names stay different.
  names := by
    have unused : key.name ∉ entries.names := find?_eq_none_iff.mp fresh
    simpa [Entries.names] using keyed.names.concat unused
  each entry member := by
    rcases List.mem_append.mp member with before | last
    · exact keyed.each entry before
    · obtain rfl := List.mem_singleton.mp last
      exact value

/-- A value can be replaced. -/
theorem replace (keyed : entries.Keyed) (value : node.Keyed) :
    (entries.replace name node).Keyed where
  -- Replacing keeps every name, so only the values need a look.
  names := by
    rw [names_replace]
    exact keyed.names
  each entry member := by
    obtain ⟨old, before, rfl⟩ := List.mem_map.mp member
    by_cases same : old.1.name == name
    · rw [if_pos same]
      exact value
    · rw [if_neg same]
      exact keyed.each old before

/-- An entry can be left out. -/
theorem without (keyed : entries.Keyed) (name : String) : (entries.without name).Keyed where
  -- Fewer entries have fewer names and fewer values.
  names := List.Nodup.sublist (List.filter_sublist.map _) keyed.names
  each entry member := keyed.each entry (List.mem_of_mem_filter member)

end Keyed

end Entries

/-! ## Putting a document together -/

/-- A value under a path of keys has one entry in each table on the way. -/
theorem nest_keyed (path : List Key) (leaf : Key) {value : Node} (keyed : value.Keyed) :
    (nest path leaf value).2.Keyed := by
  -- Every table on the way down has a single entry.
  induction path with
  | nil => exact keyed
  | cons key path ih =>
    refine Node.keyed_table_iff.mpr ⟨List.nodup_singleton _, fun entry member => ?_⟩
    obtain rfl := List.mem_singleton.mp member
    exact ih

/-- Another table can come after several ones. -/
theorem Node.keyed_tables_append {items : List (Place × Entries)} {place : Place}
    {entries : Entries} (before : ∀ item ∈ items, item.2.Keyed) (keyed : entries.Keyed) :
    (Node.tables (items ++ [(place, entries)])).Keyed := by
  -- Each table is an earlier one or the new one.
  rw [keyed_tables_iff]
  intro item member
  rcases List.mem_append.mp member with earlier | added
  · exact before item earlier
  · obtain rfl := List.mem_singleton.mp added
    exact keyed

/-- The last of several tables has distinct names as all of them have, and it can be replaced by
another one that has. -/
theorem Node.Keyed.last {items : List (Place × Entries)} {place : Place} {inner : Entries}
    (keyed : (Node.tables items).Keyed) (last : items.getLast? = some (place, inner)) :
    inner.Keyed ∧ ∀ other : Entries, other.Keyed →
      (Node.tables (items.dropLast ++ [(place, other)])).Keyed := by
  -- The other tables of the array stay as they are.
  have each := keyed_tables_iff.mp keyed
  refine ⟨each _ (List.mem_of_getLast? last), fun other otherKeyed => ?_⟩
  exact keyed_tables_append (fun item member => each item (List.mem_of_mem_dropLast member))
    otherKeyed

/-- A value is put under a path only where no other one is. -/
theorem Entries.Keyed.insert? {entries next : Entries} {path : List Key} {leaf : Key}
    {value : Node} (keyed : entries.Keyed) (valueKeyed : value.Keyed)
    (inserted : entries.insert? path leaf value = some next) : next.Keyed := by
  -- Down the path each table is replaced by one with a value more.
  induction path generalizing entries next with
  | nil =>
    unfold Entries.insert? at inserted
    cases found : entries.find? leaf.name with
    | none =>
      obtain rfl : entries ++ [(leaf, value)] = next := by simpa [found] using inserted
      exact keyed.concat found valueKeyed
    | some other => simp [found] at inserted
  | cons key path ih =>
    unfold Entries.insert? at inserted
    split at inserted
    · next fresh =>
      cases inserted
      exact keyed.concat fresh (nest_keyed (key :: path) leaf valueKeyed)
    · next place kind inner found =>
      split at inserted
      · obtain ⟨changed, insertedInner, same⟩ := Option.bind_eq_some_iff.mp inserted
        cases same
        have before := Node.keyed_table_iff.mp (keyed.of_find? found)
        exact keyed.replace (Node.keyed_table_iff.mpr (ih before insertedInner))
      · cases inserted
    · next items found =>
      split at inserted
      · next place inner last =>
        split at inserted
        · cases inserted
        · obtain ⟨changed, insertedInner, same⟩ := Option.bind_eq_some_iff.mp inserted
          cases same
          obtain ⟨before, others⟩ := (keyed.of_find? found).last last
          exact keyed.replace (others changed (ih before insertedInner))
      · cases inserted
    · cases inserted

/-- What a path of headers leads to is changed within tables that keep distinct names. -/
theorem Entries.Keyed.within? {α : Type} {change : Entries → Option (α × Entries)}
    (holds : α → Prop)
    (changes : ∀ entries found next, Entries.Keyed entries → change entries = some (found, next) →
      holds found ∧ next.Keyed)
    {path : List Key} {entries next : Entries} {found : α} (keyed : entries.Keyed)
    (changed : Entries.within? change path entries = some (found, next)) :
    holds found ∧ next.Keyed := by
  -- Down the path each table is opened or replaced, and the change happens at its end.
  induction path generalizing entries next found with
  | nil => exact changes entries found next keyed changed
  | cons key path ih =>
    unfold Entries.within? at changed
    split at changed
    · next fresh =>
      obtain ⟨⟨result, inner⟩, changedInner, same⟩ := Option.bind_eq_some_iff.mp changed
      cases same
      obtain ⟨holds, innerKeyed⟩ := ih .nil changedInner
      exact ⟨holds, keyed.concat fresh (Node.keyed_table_iff.mpr innerKeyed)⟩
    · next place kind inner found =>
      split at changed
      · cases changed
      · obtain ⟨⟨result, after⟩, changedInner, same⟩ := Option.bind_eq_some_iff.mp changed
        cases same
        have before := Node.keyed_table_iff.mp (keyed.of_find? found)
        obtain ⟨holds, afterKeyed⟩ := ih before changedInner
        exact ⟨holds, keyed.replace (Node.keyed_table_iff.mpr afterKeyed)⟩
    · next items found =>
      split at changed
      · next place inner last =>
        obtain ⟨⟨result, after⟩, changedInner, same⟩ := Option.bind_eq_some_iff.mp changed
        cases same
        obtain ⟨before, others⟩ := (keyed.of_find? found).last last
        obtain ⟨holds, afterKeyed⟩ := ih before changedInner
        exact ⟨holds, keyed.replace (others after afterKeyed)⟩
      · cases changed
    · cases changed

/-- A line says a value with distinct names, if it says any. -/
def Line.Keyed : Line → Prop
  | .entry _ _ value _ => value.Keyed
  | .header _ _ _ => True
  | .item _ _ _ => True

namespace Assembly

/-- Completing a part puts its entries into tables that keep distinct names. -/
theorem keyed_of_close? {assembly : Assembly} {root : Entries} (rootKeyed : assembly.root.Keyed)
    (entriesKeyed : assembly.entries.Keyed) (closed : assembly.close? = some root) :
    root.Keyed := by
  -- The part that is completed goes under its header, where it is new or one more of several.
  cases opened : assembly.opened with
  | root =>
    obtain rfl : assembly.entries = root := by simpa [close?, opened] using closed
    exact entriesKeyed
  | table path leaf place =>
    simp only [close?, opened] at closed
    obtain ⟨⟨nothing, after⟩, changed, same⟩ := Option.bind_eq_some_iff.mp closed
    cases same
    refine (rootKeyed.within? (fun _ => True) ?_ changed).2
    intro parent found next parentKeyed put
    split at put
    · next fresh =>
      cases put
      exact ⟨trivial, parentKeyed.concat fresh (Node.keyed_table_iff.mpr entriesKeyed)⟩
    · cases put
  | item path leaf place =>
    simp only [close?, opened] at closed
    obtain ⟨⟨nothing, after⟩, changed, same⟩ := Option.bind_eq_some_iff.mp closed
    cases same
    refine (rootKeyed.within? (fun _ => True) ?_ changed).2
    intro parent found next parentKeyed put
    split at put
    · next items known =>
      cases put
      have before := Node.keyed_tables_iff.mp (parentKeyed.of_find? known)
      exact ⟨trivial, parentKeyed.replace (Node.keyed_tables_append before entriesKeyed)⟩
    · cases put

/-- The entries that are complete and those that are being written keep distinct names. -/
structure Keyed (assembly : Assembly) : Prop where
  root : assembly.root.Keyed
  entries : assembly.entries.Keyed

/-- A line is added only where no other one has said something else. -/
theorem Keyed.add? {assembly next : Assembly} {line : Line} (keyed : assembly.Keyed)
    (lineKeyed : line.Keyed) (added : assembly.add? line = some next) : next.Keyed := by
  -- A header completes the part before it, and an entry goes into the part being written.
  cases line with
  | entry path leaf value stop =>
    obtain ⟨entries, inserted, same⟩ := Option.bind_eq_some_iff.mp added
    cases same
    exact ⟨keyed.root, keyed.entries.insert? lineKeyed inserted⟩
  | header path leaf place =>
    obtain ⟨root, closed, opened⟩ := Option.bind_eq_some_iff.mp added
    obtain ⟨⟨entries, after⟩, changed, same⟩ := Option.bind_eq_some_iff.mp opened
    cases same
    have rootKeyed := keyed_of_close? keyed.root keyed.entries closed
    -- Entries that longer headers have put into the table move over to the part being written.
    obtain ⟨entriesKeyed, afterKeyed⟩ := rootKeyed.within? Entries.Keyed (by
      intro parent found next parentKeyed opens
      unfold openTable? at opens
      split at opens
      · cases opens
        exact ⟨.nil, parentKeyed⟩
      · next place inner known =>
        cases opens
        exact ⟨Node.keyed_table_iff.mp (parentKeyed.of_find? known), parentKeyed.without _⟩
      · cases opens) changed
    exact ⟨afterKeyed, entriesKeyed⟩
  | item path leaf place =>
    obtain ⟨root, closed, opened⟩ := Option.bind_eq_some_iff.mp added
    obtain ⟨⟨nothing, after⟩, changed, same⟩ := Option.bind_eq_some_iff.mp opened
    cases same
    have rootKeyed := keyed_of_close? keyed.root keyed.entries closed
    refine ⟨(rootKeyed.within? (fun _ => True) ?_ changed).2, .nil⟩
    intro parent found next parentKeyed opens
    unfold openItem? at opens
    split at opens
    · next fresh =>
      cases opens
      have empty : (Node.tables []).Keyed := Node.keyed_tables_iff.mpr fun _ none => by cases none
      exact ⟨trivial, parentKeyed.concat fresh empty⟩
    · cases opens
      exact ⟨trivial, parentKeyed⟩
    · cases opens

/-- Lines are added one after another. -/
theorem Keyed.addAll? {lines : List Line} (linesKeyed : ∀ line ∈ lines, line.Keyed)
    {assembly next : Assembly} (keyed : assembly.Keyed)
    (added : assembly.addAll? lines = some next) : next.Keyed := by
  -- One line after another.
  induction lines generalizing assembly with
  | nil =>
    cases added
    exact keyed
  | cons line lines ih =>
    obtain ⟨between, first, rest⟩ := Option.bind_eq_some_iff.mp added
    exact ih (fun other member => linesKeyed other (by simp [member]))
      (keyed.add? (linesKeyed line (by simp)) first) rest

end Assembly

/-- A document that is put together from its lines keeps distinct names. -/
theorem ofLines?_keyed {lines : List Line} (linesKeyed : ∀ line ∈ lines, line.Keyed)
    {entries : Entries} (together : ofLines? lines = some entries) : entries.Keyed := by
  -- The last part is completed at the end.
  obtain ⟨assembly, added, closed⟩ := Option.bind_eq_some_iff.mp together
  have start : Assembly.Keyed {} := ⟨.nil, .nil⟩
  have keyed := start.addAll? linesKeyed added
  exact Assembly.keyed_of_close? keyed.root keyed.entries closed

/-! ## Reading a document -/

namespace Scalar

variable {text rest : List Char} {number : Int}

/-- A number that has been checked is in range. -/
theorem isInRange_of_inRange? {given : Int} (checked : inRange? given = some number) :
    (Scalar.integer number).IsInRange := by
  -- The check is the range itself.
  unfold inRange? at checked
  split at checked
  · next inside =>
    cases checked
    exact inside
  · cases checked

/-- An integer in a base other than ten has been checked. -/
theorem isInRange_of_basedInteger? {base : Nat} {isDigit : Char → Bool}
    (found : basedInteger? base isDigit text = some (number, rest)) :
    (Scalar.integer number).IsInRange := by
  -- Whatever the base, the number is checked after its digits are read.
  obtain ⟨⟨digits, after⟩, -, found⟩ := Option.bind_eq_some_iff.mp found
  obtain ⟨checked, inside, same⟩ := Option.bind_eq_some_iff.mp found
  cases same
  exact isInRange_of_inRange? inside

/-- An integer in any base has been checked. -/
theorem isInRange_of_integer? (found : integer? text = some (number, rest)) :
    (Scalar.integer number).IsInRange := by
  unfold integer? at found
  split at found
  · exact isInRange_of_basedInteger? found
  · exact isInRange_of_basedInteger? found
  · exact isInRange_of_basedInteger? found
  · -- The sign is taken into account before the check.
    obtain ⟨⟨digits, after⟩, -, found⟩ := Option.bind_eq_some_iff.mp found
    obtain ⟨checked, inside, same⟩ := Option.bind_eq_some_iff.mp found
    cases same
    exact isInRange_of_inRange? inside

/-- A value that is read is in range. -/
theorem isInRange_of_scalar? {value : Scalar} (found : scalar? text = some (value, rest)) :
    value.IsInRange := by
  cases value with
  | integer number =>
    -- Of all the readers of values only the one of integers finds an integer.
    unfold scalar? at found
    split at found
    · obtain ⟨read, -, same⟩ := Option.map_eq_some_iff.mp found
      cases same
    · obtain ⟨read, -, same⟩ := Option.map_eq_some_iff.mp found
      cases same
    · simp only [bareScalar?, Option.orElse_eq_orElse, Option.orElse_eq_or, Option.or_eq_some_iff,
        Option.map_eq_some_iff] at found
      rcases found with ⟨_, -, same⟩ | ⟨-, ⟨_, -, same⟩ | ⟨-, ⟨_, -, same⟩ | ⟨-, found⟩⟩⟩
      · cases same
      · cases same
      · cases same
      rcases found with ⟨read, readInteger, same⟩ | ⟨-, word⟩
      · cases same
        exact isInRange_of_integer? readInteger
      · split at word
        · cases word
        · cases word
        · cases word
  | _ => trivial

end Scalar

/-- Whether a reader finds only values in which names are distinct. -/
def ReadsKeyed (value? : List Char → Option (Node × List Char)) : Prop :=
  ∀ text value rest, value? text = some (value, rest) → value.Keyed

namespace ReadsKeyed

variable {value? : List Char → Option (Node × List Char)}

/-- The value behind a key is one that the reader finds. -/
theorem assignment? (reads : ReadsKeyed value?) {text rest : List Char} {path : List Key}
    {leaf : Key} {value : Node}
    (found : Document.assignment? value? text = some ((path, leaf, value), rest)) :
    value.Keyed := by
  -- The key and the equals sign before the value bring no other value in.
  unfold Document.assignment? at found
  obtain ⟨⟨keys, last, afterKeys⟩, -, found⟩ := Option.bind_eq_some_iff.mp found
  obtain ⟨afterEquals, -, found⟩ := Option.bind_eq_some_iff.mp found
  obtain ⟨⟨read, afterValue⟩, readValue, same⟩ := Option.bind_eq_some_iff.mp found
  cases same
  exact reads _ _ _ readValue

/-- The values between brackets are ones that the reader finds. -/
theorem items? (reads : ReadsKeyed value?) {text rest : List Char} {items : List Node}
    (found : Document.items? value? text = some (items, rest)) : ∀ item ∈ items, item.Keyed := by
  -- One value at a time, and each shorter rest is read in the same way.
  induction text using items?.induct generalizing items rest with
  | case1 text ih =>
    rw [Document.items?] at found
    obtain ⟨start, -, found⟩ := Option.bind_eq_some_iff.mp found
    split at found
    · cases found
      exact fun _ none => by cases none
    · obtain ⟨⟨first, afterFirst⟩, readFirst, found⟩ := Option.bind_eq_some_iff.mp found
      have firstKeyed := reads _ _ _ readFirst
      obtain ⟨separator, -, found⟩ := Option.bind_eq_some_iff.mp found
      split at found
      · cases found
        intro item member
        obtain rfl := List.mem_singleton.mp member
        exact firstKeyed
      · next more =>
        split at found
        · next shorter =>
          obtain ⟨⟨others, last⟩, readOthers, same⟩ := Option.bind_eq_some_iff.mp found
          cases same
          intro item member
          rcases List.mem_cons.mp member with rfl | behind
          · exact firstKeyed
          · exact ih more shorter readOthers item behind
        · cases found
      · cases found

/-- The entries between braces are put together like those of a table. -/
theorem moreEntries? (reads : ReadsKeyed value?) {text rest : List Char} {before entries : Entries}
    (keyed : before.Keyed)
    (found : Document.moreEntries? value? before text = some (entries, rest)) : entries.Keyed := by
  -- One entry at a time is put among those before it.
  induction before, text using moreEntries?.induct generalizing entries rest with
  | case1 before text ih =>
    rw [Document.moreEntries?] at found
    obtain ⟨⟨⟨path, leaf, value⟩, afterValue⟩, assigned, found⟩ := Option.bind_eq_some_iff.mp found
    obtain ⟨between, inserted, found⟩ := Option.bind_eq_some_iff.mp found
    have betweenKeyed := keyed.insert? (reads.assignment? assigned) inserted
    split at found
    · cases found
      exact betweenKeyed
    · next more _ =>
      split at found
      · next shorter => exact ih between more shorter betweenKeyed found
      · cases found
    · cases found

/-- The entries between braces have distinct names. -/
theorem entries? (reads : ReadsKeyed value?) {text rest : List Char} {entries : Entries}
    (found : Document.entries? value? text = some (entries, rest)) : entries.Keyed := by
  -- The braces hold nothing, or a first entry and more of them.
  unfold Document.entries? at found
  split at found
  · cases found
    exact .nil
  · exact reads.moreEntries? .nil found

end ReadsKeyed

/-- Values of any depth have distinct names in all of their tables. -/
theorem readsKeyed_value? (depth : Nat) : ReadsKeyed (value? depth) := by
  -- Values lie in each other down to the depth, and those at the bottom have no parts.
  induction depth with
  | zero =>
    intro text value rest found
    obtain ⟨⟨scalar, after⟩, readScalar, same⟩ := Option.bind_eq_some_iff.mp found
    cases same
    exact .scalar (Scalar.isInRange_of_scalar? readScalar)
  | succ depth ih =>
    intro text value rest found
    unfold value? at found
    split at found
    · obtain ⟨⟨items, after⟩, readItems, same⟩ := Option.bind_eq_some_iff.mp found
      cases same
      exact .array (ih.items? readItems)
    · obtain ⟨⟨entries, after⟩, readEntries, same⟩ := Option.bind_eq_some_iff.mp found
      cases same
      exact Node.keyed_table_iff.mpr (ih.entries? readEntries)
    · obtain ⟨⟨scalar, after⟩, readScalar, same⟩ := Option.bind_eq_some_iff.mp found
      cases same
      exact .scalar (Scalar.isInRange_of_scalar? readScalar)

/-- A line that is read says a value with distinct names, if it says any. -/
theorem line?_keyed {text next : List Char} {line : Option Line}
    (found : line? text = some (line, next)) : ∀ said ∈ line, said.Keyed := by
  -- Headers say no value, and neither do blank lines and comments.
  unfold line? at found
  simp only at found
  split at found
  · obtain ⟨⟨path, leaf, rest⟩, -, found⟩ := Option.bind_eq_some_iff.mp found
    obtain ⟨after, -, found⟩ := Option.bind_eq_some_iff.mp found
    obtain ⟨ending, -, same⟩ := Option.bind_eq_some_iff.mp found
    cases same
    intro said member
    cases member
    trivial
  · obtain ⟨⟨path, leaf, rest⟩, -, found⟩ := Option.bind_eq_some_iff.mp found
    obtain ⟨after, -, found⟩ := Option.bind_eq_some_iff.mp found
    obtain ⟨ending, -, same⟩ := Option.bind_eq_some_iff.mp found
    cases same
    intro said member
    cases member
    trivial
  · cases found
    exact fun _ none => by cases none
  · split at found
    · obtain ⟨ending, -, same⟩ := Option.bind_eq_some_iff.mp found
      cases same
      exact fun _ none => by cases none
    · obtain ⟨⟨⟨path, leaf, value⟩, after⟩, assigned, found⟩ := Option.bind_eq_some_iff.mp found
      obtain ⟨ending, -, same⟩ := Option.bind_eq_some_iff.mp found
      cases same
      intro said member
      cases member
      exact (readsKeyed_value? deepestValue).assignment? assigned

/-- All lines that are read say values with distinct names. -/
theorem lines?_keyed {text : List Char} {lines : List Line} (found : lines? text = some lines) :
    ∀ line ∈ lines, line.Keyed := by
  -- One line at a time, each of which leaves less to read.
  induction text using lines?.induct generalizing lines with
  | case1 text empty =>
    rw [lines?, if_pos empty] at found
    cases found
    exact fun _ none => by cases none
  | case2 text full ih =>
    rw [lines?, if_neg full] at found
    obtain ⟨⟨first, behind⟩, readFirst, found⟩ := Option.bind_eq_some_iff.mp found
    dsimp only at found
    split at found
    · next shorter =>
      obtain ⟨others, readOthers, same⟩ := Option.bind_eq_some_iff.mp found
      cases same
      intro line member
      rcases List.mem_append.mp member with said | later
      · exact line?_keyed readFirst line (Option.mem_toList.mp said)
      · exact ih behind shorter readOthers line later
    · cases found

/-- In a document that is read no two entries of a table share a name, and integers are in range. -/
theorem read?_keyed {text : List Char} {entries : Entries} (found : read? text = some entries) :
    entries.Keyed := by
  -- Each line is keyed on its own, and putting lines together keeps them keyed.
  obtain ⟨lines, readLines, together⟩ := Option.bind_eq_some_iff.mp found
  exact ofLines?_keyed (lines?_keyed readLines) together

end LoadServer.Document
