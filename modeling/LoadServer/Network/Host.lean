import LoadServer.IoFault
import LoadServer.Network.Endpoint
import LoadServer.Numeric.Count
import LoadServer.Numeric.Hexadecimal

/-! A host's addresses: reading one from text, and binding a server to it. -/

namespace LoadServer

namespace HostAddress

/-- The number that digits spell in a base, if there is a digit and all of them belong to it. -/
def readDigits? (base : Nat) (isDigit : Char → Bool) (digits : List Char) : Option Nat :=
  if !digits.isEmpty && digits.all isDigit then
    some (Decimal.ofDigits base Hexadecimal.digitValue 0 digits)
  else none

/-- A number of an address: in base sixteen behind a zero and an x, in base eight behind another
zero, else in base ten. -/
def readNumber? : List Char → Option Nat
  | '0' :: 'x' :: digits | '0' :: 'X' :: digits => readDigits? 16 Hexadecimal.isDigit digits
  | '0' :: digits => readDigits? 8 (fun c => '0' ≤ c && c ≤ '7') ('0' :: digits)
  | digits => readDigits? 10 Decimal.isDigit digits

/-- The number of some bytes, of which the first ones are given one by one and the others
together by the last number, the highest byte first. -/
def joined? : (bytes : Nat) → List Nat → Option Nat
  | _, [] => none
  | bytes, [last] => if last < Nat.pow 256 bytes then some last else none
  | 0, _ :: _ :: _ => none
  | bytes + 1, first :: second :: rest =>
    if first < 256 then
      (joined? bytes (second :: rest)).map fun others => first * Nat.pow 256 bytes + others
    else none

/-- The address with a number, of which the first byte is the highest. -/
def ofNumber (number : Nat) : HostAddress :=
  ⟨.ofNat (number / 0x1000000), .ofNat (number / 0x10000), .ofNat (number / 0x100), .ofNat number⟩

/-- An address from one to four numbers with points between them. -/
def read? (text : List Char) : Option HostAddress :=
  (((text.splitOn '.').mapM readNumber?).bind (joined? 4)).map ofNumber

end HostAddress

/-- The parts of a text before and after its last colon. -/
def splitLastColon? (text : List Char) : Option (List Char × List Char) :=
  let after := text.reverse.takeWhile (· ≠ ':')
  match text.reverse.dropWhile (· ≠ ':') with
  | _ :: before => some (before.reverse, after.reverse)
  | [] => none

/-- The failure of a text without a colon. -/
def noSocketAddress : IoFault := .worded .invalidInput "invalid socket address"

/-- The failure of a text with something other than a port after its last colon. -/
def noPort : IoFault := .worded .invalidInput "invalid port value"

/-- The failure of a name that no address is known for. -/
def unknownName : IoFault :=
  .worded .uncategorized "failed to lookup address information: Name or service not known"

/-- The failure of a name that cannot be asked for. -/
def brokenName : IoFault :=
  .worded .invalidInput "file name contained an unexpected NUL byte"

/-- What a host knows and holds. -/
structure Host where
  /-- The addresses of names. -/
  names : List (String × HostAddress) := []
  /-- The endpoints that servers are bound to. -/
  bound : List Endpoint := []
  /-- Whether the host has no network: then no connection reaches its servers, and they may be
  bound to any address. -/
  isolated : Bool := false
  deriving DecidableEq, Repr

namespace Host

/-- The first port that every server may be bound to. -/
def firstOpen : UInt16 := 1024

/-- The first port that is handed out to those who ask for any. -/
def firstAssigned : Nat := 32768

/-- The endpoint that a text names. -/
def endpointOf (host : Host) (text : String) : Except IoFault Endpoint :=
  match splitLastColon? text.toList with
  | none => .error noSocketAddress
  | some (name, port) =>
    match Count.read 65535 port with
    | .error _ => .error noPort
    | .ok number =>
      let known := (host.names.find? fun entry => entry.1 == String.ofList name).map (·.2)
      match HostAddress.read? name <|> known with
      | none => .error (if name.contains '\x00' then brokenName else unknownName)
      | some address => .ok ⟨address, UInt16.ofNat number⟩

/-- Whether a server may be bound to an address. -/
def admits (host : Host) (address : HostAddress) : Bool :=
  host.isolated || address.isLoopback || address.isMulticast || address == .any ||
    address == .broadcast

/-- Whether two endpoints cannot both be bound to. -/
def clash (one other : Endpoint) : Bool :=
  one.port == other.port &&
    (one.host == other.host || one.host == .any || other.host == .any)

/-- A port that no server is bound to. -/
def freePort (host : Host) : UInt16 :=
  let candidates := (List.range (host.bound.length + 1)).map fun offset =>
    UInt16.ofNat (firstAssigned + offset)
  (candidates.find? fun port => host.bound.all fun endpoint => endpoint.port != port).getD 0

/-- Binds a server to the endpoint that a text names, where port zero asks for any free port. -/
def bind (host : Host) (text : String) : Except IoFault (Endpoint × Host) :=
  match host.endpointOf text with
  | .error fault => .error fault
  | .ok wanted =>
    if !host.admits wanted.host then .error (.system .addressNotAvailable)
    else if wanted.port ≠ 0 ∧ wanted.port < firstOpen then .error (.system .accessDenied)
    else
      let endpoint :=
        if wanted.port = 0 then { wanted with port := host.freePort } else wanted
      if host.bound.any (clash endpoint) then .error (.system .addressInUse)
      else .ok (endpoint, { host with bound := host.bound ++ [endpoint] })

end Host

end LoadServer
