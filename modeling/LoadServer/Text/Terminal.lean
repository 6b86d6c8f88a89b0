/-! What of a text reaches the screen: control sequences and unseen characters are left out. -/

namespace LoadServer.Text

/-- Where in a control sequence a terminal is. -/
inductive TerminalMode where
  /-- Outside of every sequence. -/
  | ground
  /-- After the escape character. -/
  | escape
  /-- In a short sequence that has further characters. -/
  | intermediate
  /-- In a sequence of parameters. -/
  | parameters
  /-- In a string that sets a property, such as a title. -/
  | property
  /-- In the parameters of a string for a device. -/
  | heading
  /-- In a string that is not shown. -/
  | hidden
  deriving DecidableEq, Repr

/-- Whether a character only moves on the screen and is kept in a text. -/
def isLayout (c : Char) : Bool :=
  c = '\t' || c = '\n' || c = '\x0c' || c = '\r'

/-- Whether a character of a text is shown outside of every sequence. -/
def isShown (c : Char) : Bool :=
  (' ' ≤ c && c ≠ '\x7f') || isLayout c

/-- Whether one of the bytes of a character is the one that ends a string. -/
def endsString (c : Char) : Bool :=
  (String.utf8EncodeChar c).contains 0x9C

namespace TerminalMode

/-- Whether a sequence in this mode is broken off by a character that only moves on the screen. -/
def givesWay : TerminalMode → Bool
  | ground | escape | intermediate | parameters => true
  | property | heading | hidden => false

/-- The mode after a character. -/
def next (mode : TerminalMode) (c : Char) : TerminalMode :=
  if c = '\x1b' then escape
  else if c = '\x18' || c = '\x1a' then ground
  else
    match mode with
    | ground => ground
    | property => if c = '\x07' then ground else property
    | hidden => if endsString c then ground else hidden
    | mode =>
      if c < ' ' || '\x7f' ≤ c then mode
      else
        match mode with
        | heading => if c < '@' then heading else hidden
        | parameters => if c < '@' then parameters else ground
        | intermediate => if c < '0' then intermediate else ground
        | _ =>
          if c < '0' then intermediate
          else if c = '[' then parameters
          else if c = ']' then property
          else if c = 'P' then heading
          else if c = 'X' || c = '^' || c = '_' then hidden
          else ground

end TerminalMode

/-- The characters of a text that reach the screen. -/
def visible : TerminalMode → List Char → List Char
  | _, [] => []
  | mode, c :: rest =>
    if (mode = .ground && isShown c) || (mode.givesWay && isLayout c) then
      c :: visible .ground rest
    else visible (mode.next c) rest

/-- A text as it reaches the screen, where a sequence that it leaves open ends with it. -/
def onScreen (text : String) : String :=
  String.ofList (visible .ground text.toList)

end LoadServer.Text
