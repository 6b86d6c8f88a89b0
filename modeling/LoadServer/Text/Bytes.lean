/-! Places in a text, counted in the bytes of its encoding. -/

namespace LoadServer.Text

/-- The number of bytes of a text. -/
def byteLength (text : List Char) : Nat :=
  text.foldr (fun c total => c.utf8Size + total) 0

/-- The first bytes of a text and the rest, unless the cut falls inside a character or behind the
end. -/
def splitBytes? : Nat → List Char → Option (List Char × List Char)
  | 0, text => some ([], text)
  | _ + 1, [] => none
  | count + 1, c :: rest =>
    if c.utf8Size ≤ count + 1 then
      (splitBytes? (count + 1 - c.utf8Size) rest).map fun (front, back) => (c :: front, back)
    else none

/-- The part of a text between two places. -/
def between? (text : List Char) (start stop : Nat) : Option (List Char) :=
  ((splitBytes? start text).bind fun parts => splitBytes? (stop - start) parts.2).map (·.1)

/-- The part of a text behind a place. -/
def behind? (text : List Char) (start : Nat) : Option (List Char) :=
  (splitBytes? start text).map (·.2)

end LoadServer.Text
