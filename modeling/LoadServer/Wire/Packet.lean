import LoadServer.Wire.Delay
import LoadServer.Wire.LittleEndian

/-! The request and response packets and their byte layout. -/

namespace LoadServer

/-- A packet that ends before its last field. -/
structure Truncated where
  /-- The packet's full size in bytes. -/
  expected : Nat
  /-- The bytes that were there. -/
  actual : Nat
  deriving DecidableEq, Repr

/-- What is reported of a packet that is too short. -/
def Truncated.message (fault : Truncated) : String :=
  s!"truncated packet: expected {fault.expected} bytes, got {fault.actual}"

/-- Reads an unsigned 64-bit field at an offset. -/
def wordAt (bytes : Bytes) (offset : Nat) : UInt64 :=
  UInt64.ofNat (LittleEndian.decode ((bytes.drop offset).take 8))

/-- Reads a signed 32-bit field at an offset. -/
def signedAt (bytes : Bytes) (offset : Nat) : Int32 :=
  Int32.ofNat (LittleEndian.decode ((bytes.drop offset).take 4))

/-- The bytes of an unsigned 64-bit field. -/
def wordBytes (word : UInt64) : Bytes :=
  LittleEndian.encode 8 word.toNat

/-- The bytes of a signed 32-bit field in two's complement. -/
def signedBytes (number : Int32) : Bytes :=
  LittleEndian.encode 4 number.toUInt32.toNat

/-- The number of delay words in every request. -/
def maxDelays : Nat := 16

/-- A request packet, of which only the tag and the first delay word are acted upon. -/
structure Request where
  /-- The declared number of delays, carried and not interpreted. -/
  count : Int32
  /-- Carried and not interpreted. -/
  padding : Int32
  /-- The number that the response repeats. -/
  tag : UInt64
  /-- The delay words. -/
  delays : Vector UInt64 maxDelays
  deriving DecidableEq, Repr

namespace Request

/-- The encoded size of a request. -/
def size : Nat := 4 + 4 + 8 + 8 * maxDelays

/-- A request that carries a single delay word. -/
def single (tag word : UInt64) : Request where
  count := 1
  padding := 0
  tag := tag
  delays := (Vector.replicate maxDelays 0).set 0 word (by decide)

/-- The encoded fields of a request in wire order. -/
def fields (request : Request) : List Bytes :=
  signedBytes request.count :: signedBytes request.padding :: wordBytes request.tag ::
    request.delays.toList.map wordBytes

/-- The bytes of a request. -/
def encode (request : Request) : Bytes :=
  request.fields.flatten

/-- Reads a request from the start of a string of bytes and ignores what follows it. -/
def decode (bytes : Bytes) : Except Truncated Request :=
  if bytes.length < size then
    .error ⟨size, bytes.length⟩
  else
    .ok {
      count := signedAt bytes 0
      padding := signedAt bytes 4
      tag := wordAt bytes 8
      delays := Vector.ofFn fun index => wordAt bytes (16 + 8 * index.val) }

/-- The delay that a request asks for. -/
def delay (request : Request) : Delay :=
  Delay.ofWord (request.delays.get ⟨0, by decide⟩)

end Request

/-- A response packet. -/
structure Response where
  /-- The tag of the request it answers. -/
  tag : UInt64
  deriving DecidableEq, Repr

namespace Response

/-- The encoded size of a response. -/
def size : Nat := 8

/-- The response to a request repeats its tag. -/
def ofRequest (request : Request) : Response := ⟨request.tag⟩

/-- The bytes of a response. -/
def encode (response : Response) : Bytes :=
  wordBytes response.tag

/-- Reads a response from the start of a string of bytes and ignores what follows it. -/
def decode (bytes : Bytes) : Except Truncated Response :=
  if bytes.length < size then .error ⟨size, bytes.length⟩ else .ok ⟨wordAt bytes 0⟩

end Response

end LoadServer
