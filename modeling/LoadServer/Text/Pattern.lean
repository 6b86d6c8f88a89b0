import LoadServer.Numeric.Hexadecimal
import LoadServer.Text.Alphanumeric

/-! Which texts are regular expressions that can be looked for in text of any script. -/

namespace LoadServer.Text

/-- Why a text cannot be used as a regular expression. -/
inductive PatternFault where
  /-- It is not well-formed. -/
  | malformed
  /-- It asks where words end, which no table of the scripts' words tells. -/
  | wordEnd
  deriving DecidableEq, Repr

/-- What is reported of a text that cannot be used as a regular expression. -/
def PatternFault.message : PatternFault → String
  | malformed => "error building NFA"
  | wordEnd =>
    "unsupported regex feature for DFAs: cannot build DFAs for regexes with Unicode word " ++
      "boundaries; switch to ASCII word boundaries, or heuristically enable Unicode word " ++
      "boundaries or use a different regex engine"

/-- A unit of a regular expression. -/
inductive PatternUnit where
  /-- A character that may have a meaning of its own. -/
  | plain (c : Char)
  /-- A character that stands for itself. -/
  | literal (c : Char)
  /-- A place at the beginning or the end of the text. -/
  | edge
  /-- A place at the beginning or the end of a word, or one that is neither. -/
  | wordEdge
  deriving DecidableEq, Repr

/-- The unit that a backslash and one further character make. -/
def escapedUnit? (c : Char) : Option PatternUnit :=
  if c = 'A' || c = 'z' then some .edge
  else if c = 'b' || c = 'B' || c = '<' || c = '>' then some .wordEdge
  else if c = 'a' then some (.literal '\x07')
  else if c = 'f' then some (.literal '\x0c')
  else if c = 'n' then some (.literal '\n')
  else if c = 'r' then some (.literal '\r')
  else if c = 't' then some (.literal '\t')
  else if c = 'v' then some (.literal '\x0b')
  else if c.isAlphanum || '\x7f' < c then none
  else some (.literal c)

/-- A text unit by unit, unless an escape in it means nothing. -/
def patternUnits? : List Char → Option (List PatternUnit)
  | [] => some []
  | '\\' :: 'x' :: a :: b :: rest => do
    return .literal (← Hexadecimal.char? [a, b]) :: (← patternUnits? rest)
  | '\\' :: 'u' :: a :: b :: c :: d :: rest => do
    return .literal (← Hexadecimal.char? [a, b, c, d]) :: (← patternUnits? rest)
  | '\\' :: 'U' :: a :: b :: c :: d :: e :: f :: g :: h :: rest => do
    return .literal (← Hexadecimal.char? [a, b, c, d, e, f, g, h]) :: (← patternUnits? rest)
  | '\\' :: c :: rest => do
    return (← escapedUnit? c) :: (← patternUnits? rest)
  | ['\\'] => none
  | c :: rest => do return .plain c :: (← patternUnits? rest)

/-- Where in a regular expression a reader is. -/
inductive PatternPlace where
  /-- Between units, with something in front that can be repeated or not. -/
  | among (repeatable : Bool)
  /-- After a sign of repetition. -/
  | repeated
  /-- After an opening parenthesis. -/
  | opened
  /-- After an opening parenthesis and a question mark. -/
  | asked
  /-- After the letter that a name may follow. -/
  | named
  /-- After the angle that a name or a look behind may follow. -/
  | angled
  /-- In the name of a group, of which this much has been read. -/
  | naming (name : List Char)
  /-- In the settings of a group, of which these have been read. -/
  | setting (flags : List Char)
  /-- At the beginning of a set of characters, where it may be turned around or not. -/
  | setOpened (mayTurn : Bool)
  /-- After dashes at the beginning of a set. -/
  | setDashes
  /-- Between the members of a set. -/
  | setReady
  /-- After a member of a set, from which a range may begin. -/
  | setMember (first : Char)
  /-- After a member of a set and a dash. -/
  | setRange (first : Char)
  /-- After a dash between members. -/
  | setDash
  /-- After a character that joins sets where it is doubled. -/
  | setJoin (c : Char)
  deriving DecidableEq, Repr

/-- What a reader of a regular expression has to remember. -/
structure PatternState where
  place : PatternPlace := .among false
  /-- How many groups are open. -/
  groups : Nat := 0
  /-- How many sets are open. -/
  sets : Nat := 0
  /-- The names of groups. -/
  names : List (List Char) := []
  deriving DecidableEq, Repr

namespace PatternState

/-- Goes on at a place. -/
def goTo (state : PatternState) (place : PatternPlace) : Option PatternState :=
  some { state with place }

/-- Opens a set of characters. -/
def openSet (state : PatternState) : Option PatternState :=
  some { state with place := .setOpened true, sets := state.sets + 1 }

/-- Closes a set of characters. -/
def closeSet (state : PatternState) : Option PatternState :=
  if state.sets = 1 then some { state with place := .among true, sets := 0 }
  else some { state with place := .setReady, sets := state.sets - 1 }

/-- Reads a unit between others. -/
def readAmong (state : PatternState) (repeatable : Bool) :
    PatternUnit → Option PatternState
  | .plain '(' => some { state with place := .opened, groups := state.groups + 1 }
  | .plain ')' =>
    if state.groups = 0 then none
    else some { state with place := .among true, groups := state.groups - 1 }
  | .plain '|' => state.goTo (.among false)
  | .plain '[' => state.openSet
  | .plain '\x7b' => none
  | .plain c =>
    if c = '?' || c = '*' || c = '+' then
      if repeatable then state.goTo .repeated else none
    else state.goTo (.among true)
  | _ => state.goTo (.among true)

/-- Reads a unit of a set where a member may begin. -/
def readMember (state : PatternState) : PatternUnit → Option PatternState
  | .plain '[' => state.openSet
  | .plain ']' => state.closeSet
  | .plain '-' => state.goTo .setDash
  | .plain c =>
    if c = '&' || c = '~' then state.goTo (.setJoin c) else state.goTo (.setMember c)
  | .literal c => state.goTo (.setMember c)
  | .edge | .wordEdge => none

/-- Reads a unit after a member of a set. -/
def readAfterMember (state : PatternState) (first : Char) (unit : PatternUnit) :
    Option PatternState :=
  if unit = .plain '-' then state.goTo (.setRange first) else state.readMember unit

/-- Reads the last character of a range. -/
def readRange (state : PatternState) (first last : Char) : Option PatternState :=
  if first ≤ last then state.goTo .setReady else none

/-- Whether a character may stand in the name of a group behind this much of it. -/
def continuesName (name : List Char) (c : Char) : Bool :=
  c = '_' || isAlphanumeric c && !(name.isEmpty && c.isDigit) ||
    !name.isEmpty && (c = '.' || c = '[' || c = ']')

/-- Reads a character of the name of a group. -/
def readName (state : PatternState) (name : List Char) (c : Char) : Option PatternState :=
  if c = '>' then
    if name.isEmpty || state.names.contains name then none
    else some { state with place := .among false, names := name :: state.names }
  else if continuesName name c then state.goTo (.naming (name ++ [c]))
  else none

/-- Reads a character of the settings of a group, of which none may be given twice, and which may
not ask for letters to be taken for each other. -/
def readSetting (state : PatternState) (flags : List Char) (c : Char) : Option PatternState :=
  let dangling := flags.getLast? == some '-'
  if c = ':' then if dangling then none else state.goTo (.among false)
  else if c = ')' then
    if dangling || flags.isEmpty then none
    else some { state with place := .among false, groups := state.groups - 1 }
  else if flags.contains c then none
  else if c = 'i' then if flags.contains '-' then state.goTo (.setting (flags ++ [c])) else none
  else if c = '-' || c = 'm' || c = 's' || c = 'U' || c = 'u' || c = 'R' || c = 'x' then
    state.goTo (.setting (flags ++ [c]))
  else none

/-- Reads a unit. -/
def read (state : PatternState) (unit : PatternUnit) : Option PatternState :=
  match state.place, unit with
  | .among repeatable, unit => state.readAmong repeatable unit
  | .repeated, .plain '?' => state.goTo (.among true)
  | .repeated, unit => state.readAmong true unit
  | .opened, .plain '?' => state.goTo .asked
  | .opened, unit => state.readAmong false unit
  | .asked, .plain '<' => state.goTo .angled
  | .asked, .plain 'P' => state.goTo .named
  | .asked, .plain c => state.readSetting [] c
  | .named, .plain '<' => state.goTo (.naming [])
  | .angled, .plain c => state.readName [] c
  | .naming name, .plain c => state.readName name c
  | .setting flags, .plain c => state.readSetting flags c
  | .setOpened true, .plain '^' => state.goTo (.setOpened false)
  | .setOpened _, .plain ']' => state.goTo .setReady
  | .setOpened _, .plain '-' => state.goTo .setDashes
  | .setOpened _, unit => state.readMember unit
  | .setDashes, .plain '-' => state.goTo .setDashes
  | .setDashes, unit => state.readMember unit
  | .setReady, unit => state.readMember unit
  | .setMember first, unit => state.readAfterMember first unit
  | .setRange _, .plain ']' => state.closeSet
  | .setRange _, .plain '-' => state.goTo .setReady
  | .setRange first, .plain last => state.readRange first last
  | .setRange first, .literal last => state.readRange first last
  | .setDash, .plain '-' => state.goTo .setReady
  | .setDash, unit => state.readMember unit
  | .setJoin c, unit =>
    if unit = .plain c then state.goTo .setReady else state.readAfterMember c unit
  | _, _ => none

/-- Whether a regular expression may end here. -/
def isFinal (state : PatternState) : Bool :=
  state.groups = 0 &&
    match state.place with
    | .among _ | .repeated => true
    | _ => false

end PatternState

/-- What keeps a text from being used as a regular expression, if something does. -/
def patternFault? (text : List Char) : Option PatternFault :=
  match patternUnits? text with
  | none => some .malformed
  | some units =>
    match units.foldlM PatternState.read {} with
    | none => some .malformed
    | some last =>
      if !last.isFinal then some .malformed
      else if units.contains .wordEdge then some .wordEnd
      else none

end LoadServer.Text
