import LoadServer.Wire.LittleEndian
import LoadServer.Text.Quoted

/-! Text as it comes from outside: bytes that need not be well-formed UTF-8. -/

namespace LoadServer

/-- A piece of text from outside. -/
inductive Piece where
  /-- A well-formed character. -/
  | char (c : Char)
  /-- Bytes that begin a character and do not complete it, or that cannot begin one. -/
  | broken (bytes : Bytes)
  deriving DecidableEq, Repr

/-- Text from outside, piece by piece. -/
abbrev RawText := List Piece

namespace RawText

/-- Whether a byte continues a character. -/
def isContinuation (byte : UInt8) : Bool :=
  0x80 ≤ byte && byte ≤ 0xBF

/-- Whether a byte may be the second one after this first one of a character of three bytes. -/
def mayFollowThree (first second : UInt8) : Bool :=
  if first = 0xE0 then 0xA0 ≤ second && second ≤ 0xBF
  else if first = 0xED then 0x80 ≤ second && second ≤ 0x9F
  else isContinuation second

/-- Whether a byte may be the second one after this first one of a character of four bytes. -/
def mayFollowFour (first second : UInt8) : Bool :=
  if first = 0xF0 then 0x90 ≤ second && second ≤ 0xBF
  else if first = 0xF4 then 0x80 ≤ second && second ≤ 0x8F
  else isContinuation second

/-- The six bits that a continuation byte carries. -/
def low (byte : UInt8) : Nat := byte.toNat % 64

/-- Splits bytes into characters, and into the longest beginnings of characters where one breaks
off. -/
def decode : Bytes → RawText
  | [] => []
  | a :: rest =>
    if a < 0x80 then .char (Char.ofNat a.toNat) :: decode rest
    else if 0xC2 ≤ a && a ≤ 0xDF then
      match rest with
      | [] => [.broken [a]]
      | b :: tail =>
        if isContinuation b then
          .char (Char.ofNat ((a.toNat - 0xC0) * 64 + low b)) :: decode tail
        else .broken [a] :: decode (b :: tail)
    else if 0xE0 ≤ a && a ≤ 0xEF then
      match rest with
      | [] => [.broken [a]]
      | b :: tail =>
        if mayFollowThree a b then
          match tail with
          | [] => [.broken [a, b]]
          | c :: after =>
            if isContinuation c then
              .char (Char.ofNat ((a.toNat - 0xE0) * 4096 + low b * 64 + low c)) :: decode after
            else .broken [a, b] :: decode (c :: after)
        else .broken [a] :: decode (b :: tail)
    else if 0xF0 ≤ a && a ≤ 0xF4 then
      match rest with
      | [] => [.broken [a]]
      | b :: tail =>
        if mayFollowFour a b then
          match tail with
          | [] => [.broken [a, b]]
          | c :: after =>
            if isContinuation c then
              match after with
              | [] => [.broken [a, b, c]]
              | d :: last =>
                if isContinuation d then
                  .char (Char.ofNat
                    ((a.toNat - 0xF0) * 262144 + low b * 4096 + low c * 64 + low d)) ::
                    decode last
                else .broken [a, b, c] :: decode (d :: last)
            else .broken [a, b] :: decode (c :: after)
        else .broken [a] :: decode (b :: tail)
    else .broken [a] :: decode rest

/-- Well-formed text, piece by piece. -/
def ofString (text : String) : RawText :=
  text.toList.map .char

/-- The characters, if every piece is one. -/
def chars? : RawText → Option (List Char)
  | [] => some []
  | .char c :: rest => (chars? rest).map (c :: ·)
  | .broken _ :: _ => none

/-- The text, if it is well-formed. -/
def text? (raw : RawText) : Option String :=
  (chars? raw).map String.ofList

/-- The text with a replacement character for every piece that is not one. -/
def lossy (raw : RawText) : String :=
  String.ofList (raw.map fun
    | .char c => c
    | .broken _ => '\uFFFD')

/-- The bytes of the text. -/
def bytes (raw : RawText) : Bytes :=
  raw.flatMap fun
    | .char c => String.utf8EncodeChar c
    | .broken bytes => bytes

/-- A byte by its number. -/
def numberedByte (byte : UInt8) : List Char :=
  let digit := fun (n : Nat) => (Nat.digitChar n).toUpper
  ['\\', 'x', digit (byte.toNat / 16), digit (byte.toNat % 16)]

/-- A piece as it is shown inside quotation marks. -/
def shownPiece : Piece → List Char
  | .char c => Text.shown c
  | .broken bytes => bytes.flatMap numberedByte

/-- The text between quotation marks. -/
def quoted (raw : RawText) : String :=
  String.ofList ('"' :: raw.flatMap shownPiece ++ ['"'])

end RawText

end LoadServer
