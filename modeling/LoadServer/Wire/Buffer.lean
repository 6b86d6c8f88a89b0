import LoadServer.Wire.Packet

/-! Packets written into fixed room, and a growing buffer of packets. -/

namespace LoadServer

/-- Writes whole fields in order over the start of fixed room, and stops before the first field
that does not fit: whether all of them fitted, and the room afterwards. -/
def fillRoom : List Bytes → (room : Bytes) → Bool × Bytes
  | [], room => (true, room)
  | field :: fields, room =>
    if field.length ≤ room.length then
      let (fits, rest) := fillRoom fields (room.drop field.length)
      (fits, field ++ rest)
    else
      (false, room)

/-- Writes a request over the start of fixed room. -/
def Request.encodeInto (request : Request) (room : Bytes) : Bool × Bytes :=
  fillRoom request.fields room

/-- A buffer of packets, with the request that was last read from it. -/
structure PacketBuffer where
  /-- The bytes held. -/
  bytes : Bytes := []
  /-- The request that was last read successfully. -/
  lastRequest : Option Request := none

namespace PacketBuffer

/-- Something to do with a buffer. -/
inductive Operation where
  /-- Append the bytes of a request. -/
  | append (request : Request)
  /-- Append the bytes of a response. -/
  | respond (response : Response)
  /-- Append any bytes. -/
  | raw (bytes : Bytes)
  /-- Overwrite bytes at an offset, as far as the buffer reaches. -/
  | patch (offset : Nat) (bytes : Bytes)
  /-- Keep at most this many bytes. -/
  | truncate (length : Nat)
  /-- Drop this many bytes from the front. -/
  | skip (length : Nat)
  /-- Read a request at an offset. -/
  | readRequest (offset : Nat)
  /-- Read a response at an offset. -/
  | readResponse (offset : Nat)
  /-- Append the bytes of the request that was last read. -/
  | repeatLast

/-- What an operation reports. -/
inductive Report where
  /-- The operation was done. -/
  | done
  /-- There was no request to repeat. -/
  | nothing
  /-- A request was looked for. -/
  | request (result : Except Truncated Request)
  /-- A response was looked for. -/
  | response (result : Except Truncated Response)

/-- Bytes appended at the end. -/
def append (buffer : PacketBuffer) (bytes : Bytes) : PacketBuffer :=
  { buffer with bytes := buffer.bytes ++ bytes }

/-- Bytes overwritten from an offset on, cut at the end of what is there. -/
def overwrite (held : Bytes) (offset : Nat) (bytes : Bytes) : Bytes :=
  let kept := held.take offset
  let room := (held.drop offset).length
  kept ++ bytes.take room ++ held.drop (offset + bytes.length)

/-- The request at an offset, where an offset past the end means the end. -/
def requestAt (buffer : PacketBuffer) (offset : Nat) : Except Truncated Request :=
  Request.decode (buffer.bytes.drop offset)

/-- The response at an offset, where an offset past the end means the end. -/
def responseAt (buffer : PacketBuffer) (offset : Nat) : Except Truncated Response :=
  Response.decode (buffer.bytes.drop offset)

/-- Does one operation. -/
def apply (buffer : PacketBuffer) : Operation → Report × PacketBuffer
  | .append request => (.done, buffer.append request.encode)
  | .respond response => (.done, buffer.append response.encode)
  | .raw bytes => (.done, buffer.append bytes)
  | .patch offset bytes =>
    (.done, { buffer with bytes := overwrite buffer.bytes offset bytes })
  | .truncate length => (.done, { buffer with bytes := buffer.bytes.take length })
  | .skip length => (.done, { buffer with bytes := buffer.bytes.drop length })
  | .readRequest offset =>
    let result := buffer.requestAt offset
    (.request result, { buffer with lastRequest := result.toOption <|> buffer.lastRequest })
  | .readResponse offset => (.response (buffer.responseAt offset), buffer)
  | .repeatLast =>
    match buffer.lastRequest with
    | none => (.nothing, buffer)
    | some request => (.done, buffer.append request.encode)

/-- Does operations in order: each one's report and the buffer it leaves. -/
def run (buffer : PacketBuffer) : List Operation → List (Report × PacketBuffer)
  | [] => []
  | operation :: rest =>
    let (report, next) := buffer.apply operation
    (report, next) :: next.run rest

end PacketBuffer

end LoadServer
