import LoadServer.Connection.Fault
import LoadServer.Wire.LittleEndian

/-! A byte stream as the sequence of what its two directions will do. -/

namespace LoadServer

/-- What the receiving direction of a stream does next. -/
inductive ReadEvent where
  /-- Bytes are there, none of them at the end of the stream. -/
  | data (bytes : Bytes)
  /-- Reading fails. -/
  | fail (fault : IoFault)
  /-- Nothing is there yet. -/
  | pending
  deriving DecidableEq, Repr

/-- What the sending direction of a stream does next. -/
inductive WriteEvent where
  /-- At most this many bytes are taken. -/
  | accept (room : Nat)
  /-- Writing fails. -/
  | fail (fault : IoFault)
  /-- Nothing can be taken yet. -/
  | pending
  deriving DecidableEq, Repr

/-- The sending direction of a stream, which takes everything after its events. -/
structure Sending where
  writes : List WriteEvent := []
  /-- How flushing fails, if it does. -/
  flush : Option IoFault := none
  deriving DecidableEq, Repr

/-- What a handler meets once its request is there: the task that keeps the processor busy, if it
needs one, and the sending direction of its stream. -/
structure Sequel extends Sending where
  /-- How the task fails and its number, if it does. -/
  task : Option (Nat × TaskFault) := none
  deriving DecidableEq, Repr

/-- A byte stream, whose receiving direction is at its end after its events, and what its handler
meets behind the request. -/
structure Script extends Sequel where
  reads : List ReadEvent

/-- The number of bytes that are there to be read in some events. -/
def dataLength : List ReadEvent → Nat
  | [] => 0
  | .data bytes :: rest => bytes.length + dataLength rest
  | .fail _ :: rest => dataLength rest
  | .pending :: rest => dataLength rest

/-- What came of reading. -/
structure Reading where
  /-- The bytes that were taken. -/
  taken : Bytes
  /-- Why they are not as many as were asked for, if they are not. -/
  fault : Option IoFault
  /-- The events that are left. -/
  rest : List ReadEvent

/-- The failure of reading past the end of a stream. -/
def earlyEnd : IoFault := .worded .unexpectedEof "early eof"

/-- Takes this many bytes from a stream, which takes none only where none are asked for. -/
def readExact (need : Nat) : List ReadEvent → Reading
  | [] => ⟨[], if need = 0 then none else some earlyEnd, []⟩
  | event :: rest =>
    if need = 0 then ⟨[], none, event :: rest⟩
    else
      match event with
      | .pending => readExact need rest
      | .fail fault =>
        if fault.isInterruption then readExact need rest else ⟨[], some fault, rest⟩
      | .data bytes =>
        if bytes.isEmpty then ⟨[], some earlyEnd, rest⟩
        else if need < bytes.length then
          ⟨bytes.take need, none, .data (bytes.drop need) :: rest⟩
        else
          let more := readExact (need - bytes.length) rest
          { more with taken := bytes ++ more.taken }

/-- What came of writing. -/
structure Writing where
  /-- The bytes that were taken by the stream. -/
  written : Bytes
  /-- How many of them each completed write took. -/
  counts : List Nat
  /-- Why they are not all that were given, if they are not. -/
  fault : Option IoFault

/-- Gives these bytes to a stream, one write after another. -/
def writeAll (bytes : Bytes) : List WriteEvent → Writing
  | [] => if bytes.isEmpty then ⟨[], [], none⟩ else ⟨bytes, [bytes.length], none⟩
  | event :: rest =>
    if bytes.isEmpty then ⟨[], [], none⟩
    else
      match event with
      | .pending => writeAll bytes rest
      | .fail fault =>
        if fault.isInterruption then writeAll bytes rest else ⟨[], [], some fault⟩
      | .accept room =>
        if room = 0 then ⟨[], [0], some (.ofKind .writeZero)⟩
        else
          let taken := bytes.take room
          let more := writeAll (bytes.drop room) rest
          ⟨taken ++ more.written, taken.length :: more.counts, more.fault⟩

end LoadServer
