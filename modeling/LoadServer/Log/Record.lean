import LoadServer.Connection.Fault
import LoadServer.Network.Endpoint
import LoadServer.Numeric.Decimal
import LoadServer.Workload.Factor

/-! What the server reports of its work. -/

namespace LoadServer

/-- How much a log record matters, the most important first. -/
inductive Severity where
  | error
  | warn
  | info
  | debug
  | trace
  deriving DecidableEq, Repr

namespace Severity

/-- The place of a severity in the order from the most important to the least. -/
def rank : Severity → Nat
  | error => 1
  | warn => 2
  | info => 3
  | debug => 4
  | trace => 5

/-- The word for a severity. -/
def text : Severity → String
  | error => "ERROR"
  | warn => "WARN"
  | info => "INFO"
  | debug => "DEBUG"
  | trace => "TRACE"

end Severity

/-- An event that is worth a line of the log. -/
inductive LogRecord where
  /-- The program has read its settings. -/
  | starting (listen : String) (calibrationIterations : UInt64)
      (workers maxConnections : Option UInt64) (nodelay : Bool)
  /-- The host's factor is known. -/
  | calibrated (factor : Factor)
  /-- The server is bound to its address. -/
  | listening (address : Endpoint)
  /-- The server has ended with a failure. -/
  | failed (fault : IoFault)
  /-- A connection has been accepted. -/
  | accepted (peer : Endpoint)
  /-- An accepted connection could not be asked not to delay what is sent. -/
  | noDelayFailed (peer : Endpoint) (fault : IoFault)
  /-- A connection could not be accepted. -/
  | acceptFailed (fault : IoFault)
  /-- A whole request has come in. -/
  | processing (tag : UInt64) (delay : Delay)
  /-- A connection has ended without its response. -/
  | abandoned (peer : Endpoint) (fault : ConnectionFault)
  deriving DecidableEq, Repr

/-- A delay as it is shown in the log. -/
def Delay.text : Delay → String
  | .spin micros => s!"Spin({micros.toNat})"
  | .sleep micros => s!"Sleep({micros.toNat})"

/-- A factor as it is shown in the log, always with a decimal point. -/
def Factor.text (factor : Factor) : String :=
  let digits := Decimal.text (Binary64.units factor.bits.toNat)
  String.ofList (if digits.contains '.' then digits else digits ++ ['.', '0'])

namespace LogRecord

/-- How much a record matters. -/
def severity : LogRecord → Severity
  | starting .. => .info
  | calibrated .. => .info
  | listening .. => .info
  | failed .. => .error
  | accepted .. => .debug
  | noDelayFailed .. => .debug
  | acceptFailed .. => .error
  | processing .. => .trace
  | abandoned .. => .trace

/-- The part of the program that makes a record. -/
def source : LogRecord → String
  | starting .. => "spinload"
  | calibrated .. => "spinload"
  | failed .. => "spinload"
  | listening .. => "spinload::server"
  | accepted .. => "spinload::server"
  | noDelayFailed .. => "spinload::server"
  | acceptFailed .. => "spinload::server"
  | processing .. => "spinload::server"
  | abandoned .. => "spinload::server"

/-- The names of a record's fields, the first of which is its text. -/
def fields : LogRecord → List String
  | starting .. =>
    ["message", "listen", "calibration_iterations", "workers", "max_connections", "nodelay"]
  | calibrated .. => ["message", "iterations_per_us"]
  | listening .. => ["message", "address"]
  | failed .. => ["message", "error"]
  | accepted .. => ["message", "peer"]
  | noDelayFailed .. => ["message", "peer", "error"]
  | acceptFailed .. => ["message", "error"]
  | processing .. => ["message", "tag", "delay"]
  | abandoned .. => ["message", "peer", "error"]

/-- An optional count as it is shown in the log. -/
def optionText : Option UInt64 → String
  | none => "None"
  | some count => s!"Some({count.toNat})"

/-- The words of a record. -/
def words : LogRecord → String
  | starting listen iterations workers limit nodelay =>
    s!"Starting spinload server listen={listen} calibration_iterations={iterations.toNat}" ++
      s!" workers={optionText workers} max_connections={optionText limit} nodelay={nodelay}"
  | calibrated factor => s!"Calibration complete iterations_per_us={factor.text}"
  | listening address => s!"Server listening address={address.text}"
  | failed fault => s!"Server failed error={fault.message}"
  | accepted peer => s!"New connection peer={peer.text}"
  | noDelayFailed peer fault =>
    s!"Failed to set TCP_NODELAY peer={peer.text} error={fault.message}"
  | acceptFailed fault => s!"Failed to accept connection error={fault.message}"
  | processing tag delay => s!"Processing request tag={tag.toNat} delay={delay.text}"
  | abandoned peer fault =>
    s!"Connection abandoned peer={peer.text} error={fault.message}"

/-- A record as a line of the log. -/
def line (entry : LogRecord) : String :=
  entry.severity.text ++ " " ++ entry.words

end LogRecord

end LoadServer
