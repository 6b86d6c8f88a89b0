import LoadServer.Proofs.CommandLine.Choices

/-!
Options whose value is a count. Main statement: such an option accepts exactly the numerals below
`2 ^ 64`, and every other text is refused for the first of its faults.
-/

namespace LoadServer.CommandLine

open Spelling

/-- The options whose value is a count. -/
inductive CountOption where
  | calibrationIterations
  | workers
  | maxConnections
  deriving DecidableEq, Repr

namespace CountOption

/-- The option as one of those that take a value. -/
def option : CountOption → ValueOption
  | calibrationIterations => .calibrationIterations
  | workers => .workers
  | maxConnections => .maxConnections

/-- The choice of a count for the option. -/
def choice : CountOption → UInt64 → Choice
  | calibrationIterations => .calibrationIterations
  | workers => .workers
  | maxConnections => .maxConnections

/-- A value is stored as the count that it spells. -/
theorem store_initial (counts : CountOption) (value : RawText) :
    ({} : Options).store counts.option value =
      (countValue counts.option value).map fun count =>
        Options.ofChoices [counts.choice count] := by
  -- Nothing is chosen yet, so no count is refused as a repetition.
  cases counts <;> rfl

end CountOption

/-- An option that is the only argument, with its value behind an equals sign, is given it. -/
theorem read_longJoined (option : ValueOption) (value : RawText) :
    read [longName option.long ++ .char '=' :: value] =
      (({} : Options).store option value).mapError .rejected := by
  -- Behind the value there is nothing left to be read.
  rw [read, run_joined .longJoined]
  cases ({} : Options).store option value <;> rfl

namespace CountOption

/-- What comes of a text as the value of such an option is what comes of reading it as a count. -/
theorem read_eq (counts : CountOption) (text : String) :
    read [longName counts.option.long ++ .char '=' :: RawText.ofString text] =
      match Count.readWord text with
      | .ok count => .ok (Options.ofChoices [counts.choice count])
      | .error fault => .error (.rejected (.badCount counts.option text fault)) := by
  -- The text after the equals sign reaches the reader of counts as it was written.
  have spelled : countValue counts.option (RawText.ofString text) =
      match Count.readWord text with
      | .ok count => .ok count
      | .error fault => .error (.badCount counts.option text fault) := by
    rw [countValue, textValue, RawText.text?_ofString]
    cases reading : Count.readWord text <;> simp [bind, Except.bind, reading]
  rw [read_longJoined, store_initial, spelled]
  cases Count.readWord text <;> rfl

/-- It is accepted with the count that it is read as. -/
theorem read_eq_ok_iff {counts : CountOption} {text : String} {options : Options} :
    read [longName counts.option.long ++ .char '=' :: RawText.ofString text] = .ok options ↔
      ∃ count, Count.readWord text = .ok count ∧
        Options.ofChoices [counts.choice count] = options := by
  -- Either way the one choice or the one fault of the text decides the outcome.
  rw [read_eq]
  cases Count.readWord text <;> simp

/-- It is refused for the fault for which it is no count. -/
theorem read_eq_badCount_iff {counts : CountOption} {text : String} {fault : CountFault} :
    read [longName counts.option.long ++ .char '=' :: RawText.ofString text] =
      .error (.rejected (.badCount counts.option text fault)) ↔
      Count.readWord text = .error fault := by
  -- The fault of the text is carried along unchanged, so it can be read back.
  rw [read_eq]
  cases Count.readWord text <;> simp

end CountOption

/-- An option whose value is a count accepts a text exactly if this is a plus sign or none and then
digits, of any number but none, that spell less than `2 ^ 64`, and then holds what they spell. Any
other text is refused: as too large if its leading digits alone spell too much, whatever follows
them, as empty if it is, and for an invalid digit otherwise. -/
theorem read_count (counts : CountOption) (text : String) :
    let outcome := read [longName counts.option.long ++ .char '=' :: RawText.ofString text]
    let refusedAs (reason : String) := ∃ fault : CountFault, fault.message = reason ∧
      outcome = .error (.rejected (.badCount counts.option text fault))
    let leading := Count.value (Count.leading text.toList)
    ((∃ options, outcome = .ok options) ↔
      ∃ digits, Count.IsNumeral text.toList digits ∧ Count.value digits < 2 ^ 64) ∧
    (∀ digits, Count.IsNumeral text.toList digits → Count.value digits < 2 ^ 64 →
      ∃ count : UInt64, count.toNat = Count.value digits ∧
        outcome = .ok (Options.ofChoices [counts.choice count])) ∧
    ((¬ ∃ digits, Count.IsNumeral text.toList digits ∧ Count.value digits < 2 ^ 64) →
      ∃ reason, refusedAs reason) ∧
    (refusedAs "number too large to fit in target type" ↔ 2 ^ 64 ≤ leading) ∧
    (refusedAs "cannot parse integer from empty string" ↔ text = "") ∧
    (refusedAs "invalid digit found in string" ↔
      text ≠ "" ∧ leading < 2 ^ 64 ∧ ¬ ∃ digits, Count.IsNumeral text.toList digits) := by
  intro outcome refusedAs leading
  -- Each part is one about reading the text as a count.
  have accepted : (∃ options, outcome = .ok options) ↔
      ∃ digits, Count.IsNumeral text.toList digits ∧ Count.value digits < 2 ^ 64 := by
    simp only [outcome, CountOption.read_eq_ok_iff]
    rw [exists_comm, ← Count.exists_readWord_eq_ok_iff]
    simp
  have refused (fault : CountFault) :
      refusedAs fault.message ↔ Count.read Count.greatest64 text.toList = .error fault := by
    simp only [refusedAs, outcome, CountOption.read_eq_badCount_iff, Count.readWord_eq_error_iff,
      CountFault.message_injective.eq_iff, exists_eq_left]
  refine ⟨accepted, fun digits numeral bounded => ?_, fun none => ?_, ?_, ?_, ?_⟩
  · have same : (UInt64.ofNat (Count.value digits)).toNat = Count.value digits :=
      UInt64.toNat_ofNat_of_lt' bounded
    have reading := Count.readWord_eq_ok_iff.mpr ⟨digits, numeral, same.symm⟩
    exact ⟨_, same, CountOption.read_eq_ok_iff.mpr ⟨_, reading, rfl⟩⟩
  · cases reading : Count.readWord text with
    | ok count => exact absurd (Count.exists_readWord_eq_ok_iff.mp ⟨count, reading⟩) none
    | error fault =>
      exact ⟨fault.message, fault, rfl, CountOption.read_eq_badCount_iff.mpr reading⟩
  · exact (refused .tooLarge).trans Count.read_eq_tooLarge_iff
  · exact (refused .empty).trans (Count.read_eq_empty_iff.trans String.toList_eq_nil_iff)
  · -- The greatest count is the last number below the bound.
    have fits : leading ≤ Count.greatest64 ↔ leading < 2 ^ 64 := Nat.lt_succ_iff.symm
    rw [← fits, ne_eq, ← String.toList_eq_nil_iff]
    exact (refused .invalidDigit).trans Count.read_eq_invalidDigit_iff

end LoadServer.CommandLine
