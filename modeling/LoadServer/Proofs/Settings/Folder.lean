import LoadServer.Proofs.Attempt
import LoadServer.Proofs.Text.Encoding
import LoadServer.Settings.Folder

/-!
Which files a path reads. Main statements: a path leads to the text that its file encodes, or to a
reason why there is none, and nothing else than what lies along the path has an influence on that.
-/

namespace LoadServer

/-- Whether there is a file at a place, and not a folder. -/
def FolderEntry.isFile : FolderEntry → Bool
  | .file _ => true
  | .folder => false

namespace Folder

variable {folder other : Folder} {path : RawText}

/-! ## What a path leads to -/

/-- A path leads to a file that encodes a text. -/
def Holds (folder : Folder) (path : RawText) (text : String) : Prop :=
  ∃ bytes, folder.locate path = .ok (.file bytes) ∧ bytes.toByteArray = text.toUTF8

/-- A path leads to no text: to nothing, to a folder, or to a file that encodes none. -/
inductive Withholds (folder : Folder) (path : RawText) : IoFault → Prop where
  | missing {fault : SystemFault} (located : folder.locate path = .error fault) :
      Withholds folder path (.system fault)
  | isFolder (located : folder.locate path = .ok .folder) :
      Withholds folder path (.system .isDirectory)
  | garbled {bytes : Bytes} (located : folder.locate path = .ok (.file bytes))
      (invalid : ¬ bytes.toByteArray.IsValidUTF8) : Withholds folder path illFormed

/-- Reading a file gives the text that it encodes. -/
theorem readText_eq_ok_iff {text : String} :
    folder.readText path = .ok text ↔ folder.Holds path text := by
  -- Only a file has bytes to be read.
  unfold readText Holds
  simp only [← RawText.text?_decode_eq_some_iff]
  cases folder.locate path with
  | error fault => simp
  | ok entry =>
    cases entry with
    | folder => simp
    | file bytes => cases read : (RawText.decode bytes).text? <;> simp [read]

/-- Reading a file fails exactly where there is no text. -/
theorem readText_eq_error_iff {fault : IoFault} :
    folder.readText path = .error fault ↔ folder.Withholds path fault := by
  -- Each of the three reasons comes from one case of what the path leads to.
  unfold readText
  constructor
  · intro failed
    cases located : folder.locate path with
    | error found =>
      rw [located] at failed
      cases failed
      exact .missing located
    | ok entry =>
      rw [located] at failed
      cases entry with
      | folder =>
        cases failed
        exact .isFolder located
      | file bytes =>
        cases read : (RawText.decode bytes).text? with
        | none =>
          simp only [read] at failed
          cases failed
          exact .garbled located (RawText.text?_decode_eq_none_iff.mp read)
        | some text => simp [read] at failed
  · intro withheld
    cases withheld with
    | missing located => rw [located]
    | isFolder located => rw [located]
    | garbled located invalid =>
      simp only [located, RawText.text?_decode_eq_none_iff.mpr invalid]

/-! ## What lies along a path -/

/-- Where a walk comes to with one more part of a path, unless it fails there. -/
def Whereabouts.onward : Whereabouts → RawText → Whereabouts
  | .outside, _ => .outside
  | .inside path, part =>
    if part = [] ∨ part = [.char '.'] then .inside path
    else if part = [.char '.', .char '.'] then
      if path = [] then .outside else .inside path.dropLast
    else .inside (path ++ [part])

/-- Where the walk along a path begins. -/
def origin (path : RawText) : Whereabouts :=
  if path.head? = some (.char '/') then .outside else .inside []

/-- The places that a path passes, from where it begins to where it leads. -/
def stations (path : RawText) : List Whereabouts :=
  (parts path).scanl Whereabouts.onward (origin path)

/-- Where a path leads to, unless the walk fails before. -/
def destination (path : RawText) : Whereabouts :=
  (parts path).foldl Whereabouts.onward (origin path)

/-- Two folders have files at the same of some places, and folders at the same of them. -/
def AgreeAt (folder other : Folder) (places : List Whereabouts) : Prop :=
  ∀ place, .inside place ∈ places →
    (other.entry? place).map FolderEntry.isFile = (folder.entry? place).map FolderEntry.isFile

/-- Two folders have the same kinds of things along a path, and the same thing at its end. -/
structure AgreeAlong (path : RawText) (folder other : Folder) : Prop where
  stations : AgreeAt folder other (stations path)
  destination (place : FolderPath) (leads : destination path = .inside place) :
    other.entry? place = folder.entry? place

/-- Things of the same kind are two files, two folders, or nothing at all. -/
theorem kind_cases {one two : Option FolderEntry}
    (same : two.map FolderEntry.isFile = one.map FolderEntry.isFile) :
    (one = none ∧ two = none) ∨ (one = some .folder ∧ two = some .folder) ∨
      ∃ bytes others, one = some (.file bytes) ∧ two = some (.file others) := by
  -- Two places of the same kind are both empty, both folders or both files.
  rcases one with _ | ⟨bytes⟩ | _ <;> rcases two with _ | ⟨others⟩ | _ <;>
    simp_all [FolderEntry.isFile]

/-- A step of a walk looks at the place where it is and at the one that it comes to, and it sees
only the kinds of things there. -/
theorem follow_congr {here : Whereabouts} {part : RawText}
    (agree : AgreeAt folder other [here, here.onward part]) :
    other.follow here part = folder.follow here part := by
  -- Outside of the folder every path leads the same way, and inside the kinds decide.
  cases here with
  | outside => rfl
  | inside place =>
    have now := kind_cases (agree place (by simp))
    obtain ⟨missing, missingSo⟩ | ⟨found, foundSo⟩ | ⟨bytes, others, found, foundSo⟩ := now
    · simp only [follow, missing, missingSo]
    · -- In a folder the next place counts, unless the part leads back or nowhere.
      simp only [follow, found, foundSo]
      by_cases stays : part = [] ∨ part = [.char '.']
      · rw [if_pos stays, if_pos stays]
      by_cases leaves : part = [.char '.', .char '.']
      · rw [if_neg stays, if_neg stays, if_pos leaves, if_pos leaves]
      have next : (other.entry? (place ++ [part])).isSome =
          (folder.entry? (place ++ [part])).isSome := by
        have onward : (Whereabouts.inside place).onward part = .inside (place ++ [part]) := by
          simp only [Whereabouts.onward, if_neg stays, if_neg leaves]
        have kinds := agree (place ++ [part]) (by simp [onward])
        simpa using congrArg Option.isSome kinds
      simp only [next]
    · simp only [follow, found, foundSo]

/-- A step of a walk that does not fail goes on as the path says. -/
theorem eq_onward_of_follow {here next : Whereabouts} {part : RawText}
    (followed : folder.follow here part = .ok next) : next = here.onward part := by
  -- Following may fail, but it leads nowhere else.
  unfold follow at followed
  unfold Whereabouts.onward
  cases here with
  | outside =>
    dsimp only at followed
    split_ifs at followed
    cases followed
    rfl
  | inside place =>
    dsimp only at followed
    split at followed
    · cases followed
    · cases followed
    · split_ifs at followed ⊢ <;> simp_all

/-- A whole walk sees only the kinds of things at the places that it passes. -/
theorem foldlM_follow_congr {start : Whereabouts} {remaining : List RawText}
    (agree : AgreeAt folder other (remaining.scanl Whereabouts.onward start)) :
    remaining.foldlM other.follow start = remaining.foldlM folder.follow start := by
  -- One part after the other, each from where the last one has come to.
  induction remaining generalizing start with
  | nil => rfl
  | cons part rest ih =>
    rw [List.scanl_cons] at agree
    have step : other.follow start part = folder.follow start part := by
      refine follow_congr fun place member => agree place ?_
      rcases List.mem_cons.mp member with first | second
      · simp [first]
      · rw [List.mem_singleton.mp second]
        exact List.mem_cons_of_mem start (by cases rest <;> simp)
    rw [List.foldlM_cons, List.foldlM_cons, step]
    cases followed : folder.follow start part with
    | error fault => rfl
    | ok next =>
      obtain rfl := eq_onward_of_follow followed
      exact ih fun place member => agree place (by simp [member])

/-- A walk that does not fail comes to where the path leads. -/
theorem eq_foldl_onward {start last : Whereabouts} {remaining : List RawText}
    (walked : remaining.foldlM folder.follow start = .ok last) :
    last = remaining.foldl Whereabouts.onward start := by
  -- The path is followed part by part, each from the place that the last one led to.
  induction remaining generalizing start with
  | nil =>
    cases walked
    rfl
  | cons part rest ih =>
    obtain ⟨next, followed, further⟩ := bind_eq_ok_iff.mp walked
    rw [ih further, eq_onward_of_follow followed, List.foldl_cons]

/-- What is found where a walk has come to. -/
def found (folder : Folder) : Whereabouts → Except SystemFault FolderEntry
  | .outside => .ok .folder
  | .inside place =>
    match folder.entry? place with
    | some entry => .ok entry
    | none => .error .noEntry

/-- What a path of admissible length leads to is found at the end of its walk. -/
theorem locate_eq (folder : Folder) (path : RawText) :
    folder.locate path =
      if path.isEmpty then .error .noEntry
      else if longestPath < path.bytes.length then .error .nameTooLong
      else (parts path).foldlM folder.follow (origin path) >>= folder.found :=
  rfl

/-- What a path leads to depends on nothing but the kinds of things along it and on the thing at its
end. -/
theorem locate_congr (agree : AgreeAlong path folder other) :
    other.locate path = folder.locate path := by
  -- Both walks come to the end of the path, or both fail before it.
  rw [locate_eq, locate_eq, foldlM_follow_congr agree.stations]
  cases walked : (parts path).foldlM folder.follow (origin path) with
  | error fault => rfl
  | ok last =>
    have arrived : destination path = last := (eq_foldl_onward walked).symm
    have same : other.found last = folder.found last := by
      cases last with
      | outside => rfl
      | inside place => rw [found, found, agree.destination place arrived]
    simp only [bind, Except.bind, same]

/-! ## Names -/

/-- A path is a single name. -/
structure IsName (path : RawText) : Prop where
  some : path ≠ []
  whole : .char '/' ∉ path
  notHere : path ≠ [.char '.']
  notAbove : path ≠ [.char '.', .char '.']

/-- The part of a folder that lies under a name. -/
def only (folder : Folder) (name : RawText) : Folder where
  contents := folder.contents.filter fun content => content.1.head?.all (· = name)

/-- A name is the only part of its path. -/
theorem IsName.parts_eq (name : IsName path) : parts path = [path] := by
  -- A path is cut at its slashes only, and each of its ends has none either.
  have whole {rest : RawText} (whole : .char '/' ∉ rest) : parts rest = [rest] := by
    induction rest with
    | nil => rfl
    | cons piece rest ih =>
      obtain ⟨differs, inside⟩ := not_or.mp (List.mem_cons.not.mp whole)
      rw [parts, ih inside]
      simp [Ne.symm differs]
  exact whole name.whole

/-- A name leads from the folder that it is looked up in to itself. -/
theorem IsName.onward_eq (name : IsName path) :
    origin path = .inside [] ∧ (Whereabouts.inside []).onward path = .inside [path] := by
  constructor
  · -- A name does not begin with a slash.
    refine if_neg fun first => name.whole ?_
    exact List.mem_of_mem_head? first
  · simp only [Whereabouts.onward, name.some, name.notHere, name.notAbove, or_self, if_false,
      List.nil_append]

section Only

variable {name : RawText} {test : FolderPath × Option Bytes → Bool}
  (within : ∀ content, test content = true → content.1.head?.all (· = name) = true)

include within

/-- A test that passes nothing under other names finds the same without them. -/
theorem find?_only : (folder.only name).contents.find? test = folder.contents.find? test := by
  -- On what is found, the test for the name adds nothing.
  refine List.find?_filter.trans (congrArg (folder.contents.find? ·) (funext fun content => ?_))
  rw [Bool.eq_iff_iff, decide_eq_true_iff]
  exact and_iff_right_of_imp (within content)

/-- Such a test passes something exactly if it does without them. -/
theorem any_only : (folder.only name).contents.any test = folder.contents.any test := by
  -- Of the contents only the named one passes the test, and it is kept.
  refine List.any_filter.trans (congrArg folder.contents.any (funext fun content => ?_))
  rw [Bool.eq_iff_iff, Bool.and_eq_true]
  exact and_iff_right_of_imp (within content)

end Only

/-- Leaving out other names changes nothing under a name. -/
theorem entry?_only {name : RawText} {place : FolderPath}
    (under : place.head?.all (· = name) = true) :
    Folder.entry? (folder.only name) place = folder.entry? place := by
  have located : (folder.only name).contents.find? (fun content => content.1 == place) =
      folder.contents.find? fun content => content.1 == place := by
    refine find?_only fun content same => ?_
    rw [beq_iff_eq.mp same]
    exact under
  unfold entry?
  rw [located]
  cases place with
  | nil => rfl
  | cons first rest =>
    -- What lies below the place begins with the same name.
    have below : (folder.only name).contents.any (fun content =>
          (first :: rest).isPrefixOf content.1) =
        folder.contents.any fun content => (first :: rest).isPrefixOf content.1 := by
      refine any_only fun content beneath => ?_
      obtain ⟨tail, split⟩ := List.isPrefixOf_iff_prefix.mp beneath
      rw [← split]
      exact under
    rw [below]

/-- The path of a name stays among the things under it. -/
theorem IsName.agreeAlong_only (name : IsName path) (folder : Folder) :
    AgreeAlong path folder (folder.only path) where
  stations place member := by
    -- The walk passes the folder that it begins in and the thing of that name.
    obtain ⟨start, onward⟩ := name.onward_eq
    have passed : place = [] ∨ place = [path] := by
      simpa [stations, name.parts_eq, start, onward] using member
    rw [entry?_only]
    rcases passed with rfl | rfl <;> simp
  destination place leads := by
    obtain ⟨start, onward⟩ := name.onward_eq
    have arrived : [path] = place := by
      simpa [destination, name.parts_eq, start, onward] using leads
    rw [← arrived, entry?_only]
    simp

end Folder

end LoadServer
