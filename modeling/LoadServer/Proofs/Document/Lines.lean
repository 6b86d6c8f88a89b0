import LoadServer.Proofs.Document.Spelling

/-!
Reading lines that were written. Main statement: a document that writes some lines is read as their
headers and entries, with any blank space between the parts of a line.
-/

namespace LoadServer.Document

/-! ## Written lines -/

/-- A name that needs no quotation marks as a key. -/
def IsBareName (name : String) : Prop :=
  name.toList ≠ [] ∧ ∀ c ∈ name.toList, isBare c = true

instance : DecidablePred IsBareName := fun name =>
  decidable_of_iff (name.toList ≠ [] ∧ name.toList.all isBare = true) (by simp [IsBareName])

/-- A written form of a line without its line break, with blank space wherever it may stand. -/
inductive WrittenLine.IsForm : WrittenLine → List Char → Prop where
  | blank {blanks : List Char} (blank : IsBlanks blanks) : IsForm .blank blanks
  | comment {left text : List Char} (indent : IsBlanks left)
      (plain : ∀ c ∈ text, isPlain c = true) : IsForm (.comment text) (left ++ '#' :: text)
  | header {name : String} {left right : List Char} (indent : IsBlanks left)
      (trail : IsBlanks right) :
      IsForm (.header name) (left ++ '[' :: name.toList ++ ']' :: right)
  | entry {name : String} {value : Literal} {form left before after right : List Char}
      (indent : IsBlanks left) (blankBefore : IsBlanks before) (blankAfter : IsBlanks after)
      (written : value.IsForm form) (trail : IsBlanks right) :
      IsForm (.entry name value)
        (left ++ name.toList ++ before ++ '=' :: after ++ form ++ right)

/-- A document that writes some lines, each with a line break at its end, which the last one may
lack. -/
inductive Writes : List WrittenLine → List Char → Prop where
  | nil : Writes [] []
  | cons {line : WrittenLine} {lines : List WrittenLine} {form rest next : List Char}
      (written : line.IsForm form) (breaks : Breaks rest next) (tail : Writes lines next) :
      Writes (line :: lines) (form ++ rest)

/-- What a line that is read says of a written one, at whichever places. -/
inductive WrittenLine.Gives : WrittenLine → Option Line → Prop where
  | blank : Gives .blank none
  | comment {text : List Char} : Gives (.comment text) none
  | header {key : Key} {place : Place} : Gives (.header key.name) (some (.header [] key place))
  | entry {key : Key} {value : Literal} {place : Place} {stop : Nat} :
      Gives (.entry key.name value) (some (.entry [] key (.scalar place value.scalar) stop))

/-- What the lines that are read say of written ones. -/
inductive Gives : List WrittenLine → List Line → Prop where
  | nil : Gives [] []
  | cons {line : WrittenLine} {lines : List WrittenLine} {given : Option Line} {told : List Line}
      (first : line.Gives given) (tail : Gives lines told) :
      Gives (line :: lines) (given.toList ++ told)

/-- Whether a line can be written so that it is read back: its names need no quotation marks, and
its value has 64 bits. -/
def WrittenLine.IsReadable : WrittenLine → Prop
  | blank | comment _ => True
  | header name => IsBareName name
  | entry name value => IsBareName name ∧ value.IsSmall

/-! ## Names -/

/-- Blank space is no part of a name. -/
theorem isBare_of_isBlank {c : Char} (blank : isBlank c = true) : isBare c = false := by
  -- There are two blanks, and neither may stand in a bare name.
  simp only [isBlank, Bool.or_eq_true, decide_eq_true_eq] at blank
  rcases blank with rfl | rfl <;> rfl

/-- A bare name has a first character. -/
theorem IsBareName.head {name : String} (bare : IsBareName name) :
    ∃ c more, name.toList = c :: more ∧ isBare c = true := by
  -- A bare name is not empty, and each of its characters is bare.
  obtain ⟨nonempty, each⟩ := bare
  obtain ⟨c, more, shape⟩ := List.exists_cons_of_ne_nil nonempty
  exact ⟨c, more, shape, each c (by rw [shape]; simp)⟩

/-- The blank space before a name is skipped. -/
theorem skipBlanks_name {name : String} (bare : IsBareName name) {left : List Char}
    (indent : IsBlanks left) (rest : List Char) :
    skipBlanks (left ++ (name.toList ++ rest)) = name.toList ++ rest := by
  obtain ⟨c, more, shape, first⟩ := bare.head
  -- Its first character is no blank space.
  have shown : isBlank c = false := by
    by_contra blank
    rw [isBare_of_isBlank (by simpa using blank)] at first
    cases first
  rw [skipBlanks_append indent, shape, List.cons_append, skipBlanks_cons shown]

/-- A name is read up to what is no part of a name. -/
theorem simpleKey?_of_isBareName {name : String} (bare : IsBareName name) {rest : List Char}
    (ends : ∀ c ∈ rest.head?, isBare c = false) :
    ∃ place, simpleKey? (name.toList ++ rest) = some (⟨name, place⟩, rest) := by
  -- The characters of names are taken off, and there are no more of them behind the name.
  have nothing : rest.takeWhile isBare = [] ∧ rest.dropWhile isBare = rest := by
    cases rest with
    | nil => exact ⟨rfl, rfl⟩
    | cons c rest => simp [ends c rfl]
  have taken : (name.toList ++ rest).takeWhile isBare = name.toList := by
    rw [List.takeWhile_append_of_pos bare.2, nothing.1, List.append_nil]
  have dropped : (name.toList ++ rest).dropWhile isBare = rest := by
    rw [List.dropWhile_append_of_pos bare.2, nothing.2]
  obtain ⟨c, more, shape, first⟩ := bare.head
  refine ⟨⟨(name.toList ++ rest).length, rest.length⟩, ?_⟩
  -- The name does not begin with a quotation mark or an apostrophe.
  rw [simpleKey?]
  · rw [taken, dropped, if_neg (by simp [bare.1]), simpleKey?.keyOf, String.ofList_toList]
  all_goals
    intro _ same
    rw [shape] at same
    cases same
    cases first

/-- A bare name is read up to the mark that follows it. -/
theorem path?_of_isBareName {name : String} (bare : IsBareName name) {left right : List Char}
    (indent : IsBlanks left) (trail : IsBlanks right) {mark : Char}
    (close : mark = '=' ∨ mark = ']')
    (rest : List Char) :
    ∃ place, path? (left ++ (name.toList ++ (right ++ mark :: rest))) =
      some ([], ⟨name, place⟩, mark :: rest) := by
  -- The name ends before the blank space or the mark.
  have ends : ∀ c ∈ (right ++ mark :: rest).head?, isBare c = false := by
    intro c head
    cases right with
    | nil =>
      cases head
      rcases close with rfl | rfl <;> rfl
    | cons first right =>
      cases head
      exact isBare_of_isBlank (trail c (by simp))
  have marked : skipBlanks (right ++ mark :: rest) = mark :: rest := by
    rw [skipBlanks_append trail]
    rcases close with rfl | rfl <;> rfl
  obtain ⟨place, key⟩ := simpleKey?_of_isBareName bare ends
  refine ⟨place, ?_⟩
  rw [path?, keys?, skipBlanks_name bare indent, key]
  simp only [Option.bind_eq_bind, Option.bind_some, marked]
  -- No dot follows the key.
  rcases close with rfl | rfl <;> rfl

/-! ## Reading lines -/

/-- The blank space before a line makes no difference. -/
theorem line?_append {left : List Char} (indent : IsBlanks left) (text : List Char) :
    line? (left ++ text) = line? text := by
  -- The indentation is skipped before anything else is looked at.
  unfold line?
  rw [skipBlanks_append indent]

/-- A written header is read with its name. -/
theorem line?_header {name : String} (bare : IsBareName name) {right rest next : List Char}
    (trail : IsBlanks right) (breaks : Breaks rest next) :
    ∃ key place, line? ('[' :: (name.toList ++ ']' :: (right ++ rest))) =
      some (some (.header [] key place), next) ∧ key.name = name := by
  obtain ⟨keyPlace, path⟩ :=
    path?_of_isBareName bare isBlanks_nil isBlanks_nil (.inr rfl) (right ++ rest)
  rw [List.nil_append, List.nil_append] at path
  refine ⟨⟨name, keyPlace⟩,
    ⟨('[' :: (name.toList ++ ']' :: (right ++ rest))).length, (right ++ rest).length⟩, ?_, rfl⟩
  -- The name does not begin with another bracket.
  unfold line?
  rw [skipBlanks_cons rfl]
  obtain ⟨c, more, shape, first⟩ := bare.head
  have bracket : c ≠ '[' := ne_of_test first rfl
  rw [shape, List.cons_append] at path ⊢
  simp [bracket, path, after?, breaks.lineEnd?_blanks trail]

/-- A written entry is read with its name and its value. -/
theorem line?_entry {name : String} (bare : IsBareName name) {value : Literal}
    (small : value.IsSmall) {form before after right rest next : List Char}
    (blankBefore : IsBlanks before) (blankAfter : IsBlanks after) (written : value.IsForm form)
    (trail : IsBlanks right) (breaks : Breaks rest next) :
    ∃ key place stop,
      line? (name.toList ++ (before ++ '=' :: (after ++ (form ++ (right ++ rest))))) =
      some (some (.entry [] key (.scalar place value.scalar) stop), next) ∧ key.name = name := by
  obtain ⟨keyPlace, path⟩ := path?_of_isBareName bare isBlanks_nil blankBefore (.inl rfl)
    (after ++ (form ++ (right ++ rest)))
  rw [List.nil_append] at path
  obtain ⟨place, read⟩ := value?_of_isForm written small (breaks.stops trail) deepestValue
  refine ⟨⟨name, keyPlace⟩, place, (right ++ rest).length, ?_, rfl⟩
  have skipped : skipBlanks (after ++ (form ++ (right ++ rest))) = form ++ (right ++ rest) := by
    obtain ⟨c, more, rfl, -, -, shown⟩ := written.head
    rw [skipBlanks_append blankAfter, List.cons_append, skipBlanks_cons shown]
  have assigned : assignment? (value? deepestValue)
      (name.toList ++ (before ++ '=' :: (after ++ (form ++ (right ++ rest))))) =
        some (([], ⟨name, keyPlace⟩, .scalar place value.scalar), right ++ rest) := by
    simp only [assignment?, path, Option.bind_eq_bind, Option.bind_some, after?, if_true, skipped,
      read]
  -- The name does not begin with a bracket, a comment or a line break.
  have skippedName := skipBlanks_name bare isBlanks_nil
    (before ++ '=' :: (after ++ (form ++ (right ++ rest))))
  rw [List.nil_append] at skippedName
  unfold line?
  rw [skippedName]
  obtain ⟨c, more, shape, first⟩ := bare.head
  have others : c ≠ '[' ∧ c ≠ '#' ∧ c ≠ '\n' ∧ c ≠ '\r' :=
    ⟨ne_of_test first rfl, ne_of_test first rfl, ne_of_test first rfl, ne_of_test first rfl⟩
  rw [shape, List.cons_append] at assigned ⊢
  simp [others, assigned, breaks.lineEnd?_blanks trail]

/-- A written line is read as what it says. -/
theorem line?_of_isForm {line : WrittenLine} {form rest next : List Char}
    (readable : line.IsReadable) (written : line.IsForm form) (breaks : Breaks rest next) :
    ∃ given, line? (form ++ rest) = some (given, next) ∧ line.Gives given := by
  -- What comes behind the blank space tells the kind of the line.
  cases written with
  | blank blank =>
    refine ⟨none, ?_, .blank⟩
    rw [line?_append blank]
    cases breaks <;> rfl
  | @comment left text indent plain =>
    refine ⟨none, ?_, .comment⟩
    have ended := breaks.lineEnd?_comment plain
    have read : line? ('#' :: text ++ rest) =
        (lineEnd? ('#' :: text ++ rest)).bind fun next => some (none, next) := rfl
    rw [List.append_assoc, line?_append indent, read, ended]
    rfl
  | header indent trail =>
    obtain ⟨key, place, read, rfl⟩ := line?_header readable trail breaks
    refine ⟨some (.header [] key place), ?_, .header⟩
    simp only [List.append_assoc, List.cons_append]
    rw [line?_append indent]
    exact read
  | entry indent blankBefore blankAfter written trail =>
    obtain ⟨bare, small⟩ := readable
    obtain ⟨key, place, stop, read, rfl⟩ :=
      line?_entry bare small blankBefore blankAfter written trail breaks
    refine ⟨some (.entry [] key (.scalar place _) stop), ?_, .entry⟩
    simp only [List.append_assoc, List.cons_append]
    rw [line?_append indent]
    exact read

/-- Written lines are read as what they say. -/
theorem lines?_of_writes {lines : List WrittenLine} {text : List Char}
    (readable : ∀ line ∈ lines, line.IsReadable) (writes : Writes lines text) :
    ∃ told, lines? text = some told ∧ Gives lines told := by
  have nothing : lines? [] = some [] := by
    rw [lines?]
    rfl
  -- Each line is read by itself, and leaves less to read.
  induction writes with
  | nil => exact ⟨[], nothing, .nil⟩
  | @cons line lines form rest next written breaks tail ih =>
    obtain ⟨given, read, first⟩ := line?_of_isForm (readable line (by simp)) written breaks
    obtain ⟨told, later, gives⟩ := ih fun other member => readable other (by simp [member])
    refine ⟨given.toList ++ told, ?_, .cons first gives⟩
    by_cases empty : form ++ rest = []
    · -- An empty last line says nothing.
      obtain ⟨rfl, rfl⟩ := List.append_eq_nil_iff.mp empty
      cases breaks
      obtain rfl : given = none := by cases read; rfl
      rw [nothing] at later
      cases later
      exact nothing
    · have shorter : next.length < (form ++ rest).length := by
        have positive := List.length_pos_iff.mpr empty
        cases breaks with
        | last => exact positive
        | feed | both =>
          simp only [List.length_append, List.length_cons]
          omega
      rw [lines?, if_neg (by simpa using empty)]
      simp only [read, Option.bind_eq_bind, Option.bind_some, if_pos shorter, later]

/-- No line begins with the mark of byte order. -/
theorem skipMark_of_lines? {text : List Char} {told : List Line} (read : lines? text = some told) :
    skipMark text = text := by
  unfold skipMark
  split
  · next rest =>
    -- The mark is no part of a key, and no line begins with it.
    have key : simpleKey? (skipBlanks ('\uFEFF' :: rest)) = none := rfl
    have keys : keys? ('\uFEFF' :: rest) = none := by
      rw [keys?, key]
      rfl
    have line : line? ('\uFEFF' :: rest) = none := by
      have assigned : line? ('\uFEFF' :: rest) =
          ((assignment? (value? deepestValue) ('\uFEFF' :: rest)).bind fun found =>
            (lineEnd? found.2).bind fun next =>
              some (some (.entry found.1.1 found.1.2.1 found.1.2.2 found.2.length), next)) := rfl
      rw [assigned, assignment?, path?, keys]
      rfl
    rw [lines?, if_neg (by simp), line] at read
    cases read
  · rfl

/-! ## The plainest form -/

/-- Every value has a written form. -/
theorem Literal.isForm_characters (value : Literal) : value.IsForm value.characters := by
  -- A text is written character by character, and the other values have one form only.
  cases value with
  | text body =>
    refine ⟨body.toList.map escaped, ?_, ?_⟩
    · rw [List.forall₂_map_right_iff]
      exact List.forall₂_same.mpr fun c _ => isSpelling_escaped c
    · rw [Literal.characters, quotedForm, List.flatMap_def]
  | count number => rfl
  | truth held => rfl

/-- A written document writes its lines if no comment holds what a comment cannot hold. -/
theorem writes_writtenText {lines : List WrittenLine}
    (plain : ∀ text, .comment text ∈ lines → ∀ c ∈ text, isPlain c = true) :
    Writes lines (writtenText lines).toList := by
  have one : IsBlanks [' '] := by
    intro c member
    obtain rfl := List.mem_singleton.mp member
    rfl
  rw [writtenText, String.toList_ofList]
  -- Each line is its plainest form with a line break after it.
  induction lines with
  | nil => exact .nil
  | cons line lines ih =>
    have tail := ih fun text member => plain text (by simp [member])
    have split : ∃ form, line.IsForm form ∧ line.characters = form ++ ['\n'] := by
      cases line with
      | blank => exact ⟨[], .blank isBlanks_nil, rfl⟩
      | comment text => exact ⟨_, .comment isBlanks_nil (plain text (by simp)), rfl⟩
      | header name =>
        exact ⟨_, .header isBlanks_nil isBlanks_nil, by simp [WrittenLine.characters]⟩
      | entry name value =>
        exact ⟨_, .entry isBlanks_nil one one value.isForm_characters isBlanks_nil,
          by simp [WrittenLine.characters]⟩
    obtain ⟨form, written, shape⟩ := split
    rw [List.flatMap_cons, shape, List.append_assoc]
    exact .cons written (.feed _) tail

end LoadServer.Document
