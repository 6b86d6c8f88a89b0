import LoadServer.Document.Reader
import LoadServer.Document.Written
import LoadServer.Proofs.Numeric.Count

/-!
Reading values that were written. Main statement: text is read back from between quotation marks
with every character spelled in any way that it can be, and counts are read back from their digits.
-/

namespace LoadServer.Document

/-! ## Quoted text -/

/-- The letters that stand for a character after a backslash, each with its character. -/
def letterEscapes : List (Char × Char) :=
  [('b', '\x08'), ('t', '\t'), ('n', '\n'), ('f', '\x0c'), ('r', '\r'), ('"', '"'), ('\\', '\\')]

/-- Whether digits of base sixteen spell the number of a character. -/
def IsNumber (c : Char) (digits : List Char) : Prop :=
  (∀ digit ∈ digits, Hexadecimal.isDigit digit = true) ∧
    Decimal.ofDigits 16 Hexadecimal.digitValue 0 digits = c.toNat

/-- A spelling of a character between quotation marks: the character itself, a letter that stands
for it, or its number in four or in eight digits. -/
inductive IsSpelling (c : Char) : List Char → Prop where
  | plain (shown : isPlain c = true) (mark : c ≠ '"') (slash : c ≠ '\\') : IsSpelling c [c]
  | letter {letter : Char} (stands : (letter, c) ∈ letterEscapes) : IsSpelling c ['\\', letter]
  | short {digits : List Char} (four : digits.length = 4) (number : IsNumber c digits) :
      IsSpelling c ('\\' :: 'u' :: digits)
  | long {digits : List Char} (eight : digits.length = 8) (number : IsNumber c digits) :
      IsSpelling c ('\\' :: 'U' :: digits)

/-- Digits that spell the number of a character are read as the character. -/
theorem char?_of_isNumber {c : Char} {digits : List Char} (number : IsNumber c digits) :
    Hexadecimal.char? digits = some c := by
  -- The digits are hexadecimal, and their number is that of a character.
  obtain ⟨each, spelled⟩ := number
  have valid : Nat.isValidChar c.toNat := c.valid
  have all : digits.all Hexadecimal.isDigit = true := by simpa using each
  simp [Hexadecimal.char?, spelled, valid, all]

/-- A spelling of a character is read as the character, with whatever follows it. -/
theorem basicBody?_of_isSpelling {c : Char} {form : List Char} (spelling : IsSpelling c form)
    (rest : List Char) : basicBody? (form ++ rest) = (basicBody? rest).map (consTo c) := by
  -- Each kind of spelling is a case of the reader.
  cases spelling with
  | plain shown mark slash => simp [basicBody?, shown, slash]
  | letter stands =>
    simp only [letterEscapes, List.mem_cons, Prod.mk.injEq, List.not_mem_nil, or_false] at stands
    rcases stands with ⟨rfl, rfl⟩ | ⟨rfl, rfl⟩ | ⟨rfl, rfl⟩ | ⟨rfl, rfl⟩ | ⟨rfl, rfl⟩ | ⟨rfl, rfl⟩ |
      ⟨rfl, rfl⟩ <;> simp [basicBody?, letterEscape?]
  | short four number =>
    obtain ⟨p, q, r, s, rfl⟩ := List.length_eq_four.mp four
    simp [basicBody?, char?_of_isNumber number]
  | @long digits eight number =>
    match digits, eight with
    | [p, q, r, s, t, u, v, w], _ => simp [basicBody?, char?_of_isNumber number]

/-- The plainest way to write a character is a spelling of it. -/
theorem isSpelling_escaped (c : Char) : IsSpelling c (escaped c) := by
  unfold escaped
  split
  · next special =>
    -- A quotation mark or a backslash is its own letter.
    rcases special with rfl | rfl <;> exact .letter (by decide)
  · next ordinary =>
    rw [not_or] at ordinary
    split
    · next control =>
      -- Four digits of which the first two are zeros.
      have small : c.toNat < 128 := by
        rcases (by simpa [isControl] using control : c < ' ' ∨ c = '\x7f') with below | same
        · have : c.toNat < 32 := below
          omega
        · simp [same]
      have high : c.toNat / 16 < 16 := by omega
      have low : c.toNat % 16 < 16 := by omega
      refine .short rfl ⟨?_, ?_⟩
      · simp [isDigit_hexDigit high, isDigit_hexDigit low,
          show Hexadecimal.isDigit '0' from by decide]
      · have zero : Hexadecimal.digitValue '0' = 0 := by decide
        simp only [Decimal.ofDigits, List.foldl_cons, List.foldl_nil, zero,
          digitValue_hexDigit high, digitValue_hexDigit low]
        omega
    · next shown =>
      -- Whatever controls nothing is shown as it is.
      refine .plain ?_ ordinary.1 ordinary.2
      simp only [isControl, isPlain, Bool.or_eq_true, decide_eq_true_eq, not_or] at shown ⊢
      simp only [Char.not_lt] at shown
      simp [shown]

/-- Text between quotation marks, with some spelling of each character. -/
def IsQuoted (text form : List Char) : Prop :=
  ∃ forms, List.Forall₂ IsSpelling text forms ∧ form = '"' :: forms.flatten ++ ['"']

/-- Spelled text is read up to the quotation mark that ends it. -/
theorem basicBody?_flatten {text : List Char} {forms : List (List Char)}
    (spelled : List.Forall₂ IsSpelling text forms) (rest : List Char) :
    basicBody? (forms.flatten ++ '"' :: rest) = some (text, rest) := by
  -- Each character is read by itself.
  induction spelled with
  | nil => simp [basicBody?]
  | cons spelling _ ih =>
    rw [List.flatten_cons, List.append_assoc, basicBody?_of_isSpelling spelling, ih]
    rfl

/-- No spelling begins with a quotation mark. -/
theorem IsSpelling.head {c : Char} {form : List Char} (spelling : IsSpelling c form) :
    ∃ first more, form = first :: more ∧ first ≠ '"' := by
  -- A spelling begins with the character itself or with the backslash of an escape.
  cases spelling with
  | plain shown mark slash => exact ⟨c, [], rfl, mark⟩
  | letter stands => exact ⟨_, _, rfl, by decide⟩
  | short four number => exact ⟨_, _, rfl, by decide⟩
  | long eight number => exact ⟨_, _, rfl, by decide⟩

/-! ## What ends a value or a line -/

/-- A character that passes a test is none that fails it. -/
theorem ne_of_test {test : Char → Bool} {c other : Char} (passes : test c = true)
    (fails : test other = false) : c ≠ other := by
  -- A character that is the other one would pass and fail the same test.
  rintro rfl
  rw [passes] at fails
  cases fails

/-- Blank space. -/
def IsBlanks (text : List Char) : Prop :=
  ∀ c ∈ text, isBlank c = true

/-- What follows a value is nothing, or it begins with blank space or a line break. -/
def Stops (rest : List Char) : Prop :=
  ∀ c ∈ rest.head?, c = ' ' ∨ c = '\t' ∨ c = '\n' ∨ c = '\r'

/-- What follows a line begins with a line break, which the next line follows, or there is
nothing. -/
inductive Breaks : List Char → List Char → Prop where
  | last : Breaks [] []
  | feed (next : List Char) : Breaks ('\n' :: next) next
  | both (next : List Char) : Breaks ('\r' :: '\n' :: next) next

/-- What follows a value begins with no digit. -/
theorem Stops.not_digit {c : Char} {rest : List Char} (stops : Stops (c :: rest)) :
    Decimal.isDigit c = false := by
  -- Only a blank or a line break stops a value.
  rcases stops c rfl with rfl | rfl | rfl | rfl <;> rfl

/-- Nothing is blank space. -/
theorem isBlanks_nil : IsBlanks [] := by
  -- There is no character that could fail to be blank.
  intro c member
  cases member

/-- Blank space is skipped. -/
theorem skipBlanks_append {blanks : List Char} (blank : IsBlanks blanks) (rest : List Char) :
    skipBlanks (blanks ++ rest) = skipBlanks rest :=
  List.dropWhile_append_of_pos blank

/-- Nothing else is skipped. -/
theorem skipBlanks_cons {c : Char} (shown : isBlank c = false) (rest : List Char) :
    skipBlanks (c :: rest) = c :: rest := by
  -- Skipping goes no further than the first character shown.
  simp [skipBlanks, shown]

/-- No blank space comes before a line break. -/
theorem Breaks.skipBlanks_eq {rest next : List Char} (breaks : Breaks rest next) :
    skipBlanks rest = rest := by
  -- A line break and the end of the text both start with no blank.
  cases breaks <;> rfl

/-- A value can be followed by the end of its line. -/
theorem Breaks.stops {blanks rest next : List Char} (blank : IsBlanks blanks)
    (breaks : Breaks rest next) : Stops (blanks ++ rest) := by
  -- The first character is a blank if there are any, and that of the line break otherwise.
  intro c head
  cases blanks with
  | nil =>
    cases breaks with
    | last => cases head
    | feed | both =>
      cases head
      decide
  | cons first blanks =>
    cases head
    have space : isBlank c = true := blank c (by simp)
    simp only [isBlank, Bool.or_eq_true, decide_eq_true_eq] at space
    tauto

/-- A line ends after blank space. -/
theorem Breaks.lineEnd?_blanks {blanks rest next : List Char} (blank : IsBlanks blanks)
    (breaks : Breaks rest next) : lineEnd? (blanks ++ rest) = some next := by
  -- Past the blanks stands the line break itself.
  unfold lineEnd?
  rw [skipBlanks_append blank, breaks.skipBlanks_eq]
  cases breaks <;> rfl

/-- A line ends after a comment. -/
theorem Breaks.lineEnd?_comment {text rest next : List Char}
    (plain : ∀ c ∈ text, isPlain c = true) (breaks : Breaks rest next) :
    lineEnd? ('#' :: text ++ rest) = some next := by
  -- The comment takes all plain characters, which the line break is not.
  have skipped : skipComment (skipBlanks ('#' :: text ++ rest)) = rest.dropWhile isPlain :=
    List.dropWhile_append_of_pos plain
  unfold lineEnd?
  rw [skipped]
  cases breaks <;> rfl

/-! ## Values -/

/-- Digits are read up to where the value stops. -/
theorem moreDigits_append {digits rest : List Char}
    (each : ∀ c ∈ digits, Decimal.isDigit c = true) (stops : Stops rest) :
    moreDigits Decimal.isDigit (digits ++ rest) = (digits, rest) := by
  -- Behind the last digit there is no other one and no underscore.
  induction digits with
  | nil =>
    cases rest with
    | nil => rfl
    | cons c rest =>
      rcases stops c rfl with rfl | rfl | rfl | rfl <;> rfl
  | cons c digits ih =>
    have digit : Decimal.isDigit c = true := each c (by simp)
    have mark : c ≠ '_' := ne_of_test digit rfl
    have tail := ih fun other member => each other (by simp [member])
    rw [List.cons_append, moreDigits]
    · rw [if_pos digit, tail]
      rfl
    · simp [mark]

/-- The digits of a number begin with a zero only if that is all of them. -/
theorem digits_head (number : Nat) :
    Decimal.digits number = ['0'] ∨ ∃ c more, Decimal.digits number = c :: more ∧ c ≠ '0' := by
  -- All digits but the last one are those of a tenth of the number.
  induction number using Nat.strongRecOn with
  | ind number ih =>
    rcases Nat.lt_or_ge number 10 with small | great
    · rw [Decimal.digits, Nat.toDigits_of_lt_base small]
      interval_cases number
      · exact .inl rfl
      all_goals exact .inr ⟨_, _, rfl, by decide⟩
    · rw [Decimal.digits, Nat.toDigits_of_base_le (by decide) great]
      rcases ih (number / 10) (by omega) with zero | ⟨c, more, shape, nonzero⟩
      · -- A tenth of the number is not zero, since the number has two digits.
        have spelled := Decimal.ofDigits_digits (number / 10)
        rw [zero] at spelled
        have nothing : Decimal.ofDigits 10 Decimal.digitValue 0 ['0'] = 0 := by decide
        omega
      · rw [Decimal.digits] at shape
        exact .inr ⟨c, _, by rw [shape]; rfl, nonzero⟩

section Digits

variable {digits rest : List Char} (each : ∀ c ∈ digits, Decimal.isDigit c = true)
  (stops : Stops rest)

include each stops

/-- Two digits of a number are followed by its other digits. -/
theorem pair?_digits {least greatest number : Nat} {text : List Char}
    (found : pair? least greatest (digits ++ rest) = some (number, text)) :
    ∃ more, (∀ c ∈ more, Decimal.isDigit c = true) ∧ text = more ++ rest := by
  -- Neither of the two can come from what follows the number.
  cases digits with
  | nil =>
    cases rest with
    | nil => cases found
    | cons c rest =>
      have other := stops.not_digit
      cases rest with
      | nil => cases found
      | cons d rest => simp [pair?, other] at found
  | cons a digits =>
    cases digits with
    | nil =>
      cases rest with
      | nil => cases found
      | cons c rest =>
        have other := stops.not_digit
        simp [pair?, other] at found
    | cons b more =>
      simp only [List.cons_append, pair?, Option.ite_none_right_eq_some, Option.some.injEq,
        Prod.mk.injEq] at found
      obtain ⟨-, -, rfl⟩ := found
      exact ⟨more, fun c member => each c (by simp [member]), rfl⟩

/-- A number is not followed by a mark that is no digit and does not end a value. -/
theorem after?_digits {mark : Char} (other : Decimal.isDigit mark = false)
    (ordinary : ¬ (mark = ' ' ∨ mark = '\t' ∨ mark = '\n' ∨ mark = '\r')) :
    after? mark (digits ++ rest) = none := by
  -- The mark is neither a digit nor anything that can stop the digits.
  cases digits with
  | nil =>
    cases rest with
    | nil => rfl
    | cons c rest =>
      have different : c ≠ mark := by
        rintro rfl
        exact ordinary (stops c rfl)
      exact if_neg different
  | cons c digits =>
    exact if_neg (ne_of_test (each c (by simp)) other)

/-- No number is the beginning of a date or of a time. -/
theorem moment?_digits : moment? (digits ++ rest) = none := by
  -- Neither a dash nor a colon comes behind the first digits.
  have date : date? (digits ++ rest) = none := by
    rw [Option.eq_none_iff_forall_ne_some]
    intro text found
    simp only [date?, Option.bind_eq_bind, Option.bind_eq_some_iff] at found
    obtain ⟨⟨_, later⟩, century, ⟨_, last⟩, decade, month, dash, -⟩ := found
    obtain ⟨more, digit, rfl⟩ := pair?_digits each stops century
    obtain ⟨most, digit, rfl⟩ := pair?_digits digit stops decade
    rw [after?_digits digit stops (by decide) (by decide)] at dash
    cases dash
  have time : time? (digits ++ rest) = none := by
    rw [Option.eq_none_iff_forall_ne_some]
    intro text found
    simp only [time?, Option.bind_eq_bind, Option.bind_eq_some_iff] at found
    obtain ⟨⟨_, later⟩, hour, minute, colon, -⟩ := found
    obtain ⟨more, digit, rfl⟩ := pair?_digits each stops hour
    rw [after?_digits digit stops (by decide) (by decide)] at colon
    cases colon
  rw [moment?, date, time]
  rfl

end Digits

section Number

variable (number : Nat) {rest : List Char} (stops : Stops rest)

/-- A number has a first digit. -/
theorem exists_first_digit :
    ∃ c more, Decimal.digits number = c :: more ∧ Decimal.isDigit c = true := by
  -- A number has at least one digit, also zero.
  cases shape : Decimal.digits number with
  | nil => exact absurd shape Nat.toDigits_ne_nil
  | cons c more => exact ⟨c, more, rfl, Decimal.isDigit_of_mem_digits (by rw [shape]; simp)⟩

/-- The digits of a number have no sign. -/
theorem sign_digits (rest : List Char) :
    sign (Decimal.digits number ++ rest) = (false, Decimal.digits number ++ rest) := by
  -- The first character is a digit, hence no sign.
  obtain ⟨c, more, shape, digit⟩ := exists_first_digit number
  rw [shape, List.cons_append, sign] <;>
  · intro _ same
    cases same
    cases digit

/-- The digits of a number begin no word. -/
theorem wordReal?_digits (rest : List Char) :
    wordReal? (Decimal.digits number ++ rest) = none := by
  -- The two words of infinity and not-a-number start with a letter.
  obtain ⟨c, more, shape, digit⟩ := exists_first_digit number
  simp only [wordReal?, sign_digits]
  rw [shape]
  split
  · next same =>
    obtain ⟨rfl, -⟩ := List.cons.inj same
    cases digit
  · next same =>
    obtain ⟨rfl, -⟩ := List.cons.inj same
    cases digit
  · rfl

include stops

/-- A number is read from its digits up to where the value stops. -/
theorem wholeDigits?_digits :
    wholeDigits? (Decimal.digits number ++ rest) = some (Decimal.digits number, rest) := by
  -- A zero is read alone, and any other number does not begin with one.
  rcases digits_head number with zero | ⟨c, more, shape, nonzero⟩
  · rw [zero]
    rfl
  · have each (digit : Char) (member : digit ∈ c :: more) : Decimal.isDigit digit = true :=
      Decimal.isDigit_of_mem_digits (shape ▸ member)
    have later (digit : Char) (member : digit ∈ more) : Decimal.isDigit digit = true :=
      each digit (List.mem_cons_of_mem c member)
    have tail := moreDigits_append later stops
    rw [shape, List.cons_append, wholeDigits?]
    · rw [digits?, if_pos (each c (by simp)), tail]
      rfl
    · simp [nonzero]

/-- No point and no exponent follows the digits of a number. -/
theorem digitsReal?_digits : digitsReal? (Decimal.digits number ++ rest) = none := by
  -- After the digits comes no point and no exponent, so they make no real number.
  simp only [digitsReal?, sign_digits, wholeDigits?_digits number stops, Option.bind_eq_bind,
    Option.bind_some]
  cases rest with
  | nil => rfl
  | cons c rest => rcases stops c rfl with rfl | rfl | rfl | rfl <;> rfl

/-- The digits of a number are read as the number, unless it is too great. -/
theorem integer?_digits (small : number < 2 ^ 63) :
    integer? (Decimal.digits number ++ rest) = some ((number : Int), rest) := by
  have decimal : integer? (Decimal.digits number ++ rest) =
      (wholeDigits? (sign (Decimal.digits number ++ rest)).2).bind fun found =>
        (inRange? (if (sign (Decimal.digits number ++ rest)).1 then -(decimalValue found.1 : Int)
          else decimalValue found.1)).bind fun value => some (value, found.2) := by
    -- No letter of another base follows a zero.
    rcases digits_head number with zero | ⟨c, more, shape, nonzero⟩
    · rw [zero]
      cases rest with
      | nil => rfl
      | cons c rest => rcases stops c rfl with rfl | rfl | rfl | rfl <;> rfl
    · rw [shape, List.cons_append, integer?]
      · rfl
      all_goals simp [nonzero]
  have inRange : inRange? (number : Int) = some (number : Int) := by
    unfold inRange? greatestInteger
    exact if_pos (by omega)
  rw [decimal, sign_digits]
  simp only [wholeDigits?_digits number stops, Option.bind_some, decimalValue,
    Decimal.ofDigits_digits, Bool.false_eq_true, if_false, inRange]

/-- The digits of a number are read as the number and as nothing else. -/
theorem bareScalar?_digits (small : number < 2 ^ 63) :
    bareScalar? (Decimal.digits number ++ rest) = some (.integer number, rest) := by
  -- The readers before that of integers all give up on plain digits.
  have moment : moment? (Decimal.digits number ++ rest) = none :=
    moment?_digits (fun _ => Decimal.isDigit_of_mem_digits) stops
  simp [bareScalar?, moment, digitsReal?_digits number stops, wordReal?_digits,
    integer?_digits number stops small]

end Number

/-- A written form of a value: text between quotation marks with any spellings, digits, or a word.
-/
def Literal.IsForm : Literal → List Char → Prop
  | .text body, form => IsQuoted body.toList form
  | value, form => form = value.characters

/-- What a written value stands for. -/
def Literal.scalar : Literal → Scalar
  | text body => .text body
  | count number => .integer number
  | truth held => .truth held

/-- Whether an integer of a document can be as great as a value, if that is a count. -/
def Literal.IsSmall : Literal → Prop
  | count number => number < 2 ^ 63
  | _ => True

/-- Quoted text is read up to its end. -/
theorem quotedText?_of_isQuoted {text form rest : List Char} (quoted : IsQuoted text form)
    (stops : Stops rest) : quotedText? (form ++ rest) = some (text, rest) := by
  obtain ⟨forms, spelled, rfl⟩ := quoted
  have body := basicBody?_flatten spelled rest
  -- Three quotation marks never come first.
  have short : quotedText? ('"' :: (forms.flatten ++ '"' :: rest)) =
      shortText? ('"' :: (forms.flatten ++ '"' :: rest)) := by
    cases spelled with
    | nil =>
      cases rest with
      | nil => rfl
      | cons c rest => rcases stops c rfl with rfl | rfl | rfl | rfl <;> rfl
    | cons spelling _ =>
      obtain ⟨first, more, rfl, mark⟩ := spelling.head
      rw [List.flatten_cons, quotedText?] <;> simp [mark]
  simp only [List.append_assoc, List.cons_append, List.nil_append]
  rw [short, shortText?]
  exact body

/-- A written value begins with a quotation mark, a digit or a letter. -/
theorem Literal.IsForm.head {value : Literal} {form : List Char} (written : value.IsForm form) :
    ∃ first more, form = first :: more ∧ first ≠ '[' ∧ first ≠ '\x7b' ∧ isBlank first = false := by
  -- A text starts with its quote, a count with a digit and a truth value with a letter.
  cases value with
  | text body =>
    obtain ⟨forms, -, rfl⟩ := written
    exact ⟨_, _, rfl, by decide, by decide, rfl⟩
  | count number =>
    obtain rfl : form = Decimal.digits number := written
    obtain ⟨c, more, shape, digit⟩ := exists_first_digit number
    refine ⟨c, more, shape, ne_of_test digit rfl, ne_of_test digit rfl, ?_⟩
    · by_contra blank
      simp only [isBlank, Bool.or_eq_true, decide_eq_true_eq, Bool.not_eq_false] at blank
      rcases blank with rfl | rfl <;> cases digit
  | truth held =>
    obtain rfl : form = (Literal.truth held).characters := written
    cases held <;> exact ⟨_, _, rfl, by decide, by decide, rfl⟩

/-- A written value is read as what it stands for. -/
theorem scalar?_of_isForm {value : Literal} {form rest : List Char} (written : value.IsForm form)
    (small : value.IsSmall) (stops : Stops rest) :
    scalar? (form ++ rest) = some (value.scalar, rest) := by
  cases value with
  | text body =>
    have read := quotedText?_of_isQuoted written stops
    obtain ⟨forms, -, rfl⟩ := written
    have marked : scalar? ('"' :: forms.flatten ++ ['"'] ++ rest) =
        (quotedText? ('"' :: forms.flatten ++ ['"'] ++ rest)).map
          fun found => (.text (String.ofList found.1), found.2) := rfl
    rw [marked, read]
    simp [Literal.scalar]
  | count number =>
    obtain rfl : form = Decimal.digits number := written
    rw [Literal.scalar, ← bareScalar?_digits number stops small]
    -- A digit is neither a quotation mark nor an apostrophe.
    obtain ⟨c, more, shape, digit⟩ := exists_first_digit number
    rw [shape, List.cons_append, scalar?] <;>
    · intro _ same
      cases same
      cases digit
  | truth held =>
    obtain rfl : form = (Literal.truth held).characters := written
    cases held <;> rfl

/-- A written value is one value in the document, at any depth. -/
theorem value?_of_isForm {value : Literal} {form rest : List Char} (written : value.IsForm form)
    (small : value.IsSmall) (stops : Stops rest) (depth : Nat) :
    ∃ place, value? depth (form ++ rest) = some (.scalar place value.scalar, rest) := by
  -- No form starts with a bracket or a brace, so the value is read as a scalar.
  have read := scalar?_of_isForm written small stops
  obtain ⟨first, more, rfl, bracket, brace, -⟩ := written.head
  rw [List.cons_append] at read ⊢
  cases depth with
  | zero => exact ⟨⟨_, rest.length⟩, by simp only [value?, read]; rfl⟩
  | succ depth =>
    refine ⟨⟨(first :: (more ++ rest)).length, rest.length⟩, ?_⟩
    rw [value?] <;> simp [bracket, brace, read]

end LoadServer.Document
