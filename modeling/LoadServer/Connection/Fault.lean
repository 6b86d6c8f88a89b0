import LoadServer.IoFault
import LoadServer.Text.Quoted
import LoadServer.Wire.Packet

/-! What can go wrong while one connection is served. -/

namespace LoadServer

/-- How a task that spends time can fail. -/
inductive TaskFault where
  /-- It was stopped from outside. -/
  | cancelled
  /-- It stopped itself and left a text. -/
  | panicked (text : String)
  deriving DecidableEq, Repr

/-- What is reported of the failure of a numbered task. -/
def TaskFault.message (task : Nat) : TaskFault → String
  | cancelled => s!"task {task} was cancelled"
  | panicked text => s!"task {task} panicked with message " ++ Text.quoted text

/-- The failure of one connection, which its client is never told. -/
inductive ConnectionFault where
  /-- The request could not be received. -/
  | read (fault : IoFault)
  /-- The request was too short. -/
  | decode (fault : Truncated)
  /-- The time could not be spent. -/
  | task (number : Nat) (fault : TaskFault)
  /-- The response could not be sent. -/
  | write (fault : IoFault)
  deriving DecidableEq, Repr

namespace ConnectionFault

/-- What is reported of a failed connection. -/
def message : ConnectionFault → String
  | read fault => "failed to read request: " ++ fault.message
  | decode fault => "failed to decode request: " ++ fault.message
  | task number fault => "delay task failed: " ++ fault.message number
  | write fault => "failed to write response: " ++ fault.message

/-- The failure of input or output behind a failed connection. -/
def ioFault? : ConnectionFault → Option IoFault
  | read fault => some fault
  | write fault => some fault
  | decode _ => none
  | task _ _ => none

end ConnectionFault

end LoadServer
