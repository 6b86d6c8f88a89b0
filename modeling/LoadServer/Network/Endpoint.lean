/-! Addresses of the internet protocol with ports. -/

namespace LoadServer

/-- A host address of four bytes. -/
structure HostAddress where
  a : UInt8
  b : UInt8
  c : UInt8
  d : UInt8
  deriving DecidableEq, Repr

namespace HostAddress

/-- The address that stands for every address of a host. -/
def any : HostAddress := ⟨0, 0, 0, 0⟩

/-- The usual address of a host for itself. -/
def loopback : HostAddress := ⟨127, 0, 0, 1⟩

/-- Whether an address reaches no other host than its own. -/
def isLoopback (address : HostAddress) : Bool := address.a == 127

/-- Whether an address stands for a group of hosts. -/
def isMulticast (address : HostAddress) : Bool := 224 ≤ address.a && address.a ≤ 239

/-- The address that stands for every host. -/
def broadcast : HostAddress := ⟨255, 255, 255, 255⟩

/-- The four bytes in decimal with points between them. -/
def text (address : HostAddress) : String :=
  s!"{address.a.toNat}.{address.b.toNat}.{address.c.toNat}.{address.d.toNat}"

end HostAddress

/-- A host address and a port on it. -/
structure Endpoint where
  host : HostAddress
  port : UInt16
  deriving DecidableEq, Repr

/-- The address and the port with a colon between them. -/
def Endpoint.text (endpoint : Endpoint) : String :=
  s!"{endpoint.host.text}:{endpoint.port.toNat}"

end LoadServer
