/-! Failures of input and output: their kinds and their wording. -/

namespace LoadServer

/-- The kinds of failure that input and output can end in. -/
inductive IoKind where
  | notFound
  | permissionDenied
  | connectionRefused
  | connectionReset
  | connectionAborted
  | notConnected
  | addrInUse
  | addrNotAvailable
  | brokenPipe
  | wouldBlock
  | notADirectory
  | isADirectory
  | invalidInput
  | invalidData
  | invalidFilename
  | timedOut
  | writeZero
  | interrupted
  | unexpectedEof
  | other
  | uncategorized
  deriving DecidableEq, Repr

namespace IoKind

/-- The name under which a kind is reported. -/
def name : IoKind → String
  | notFound => "NotFound"
  | permissionDenied => "PermissionDenied"
  | connectionRefused => "ConnectionRefused"
  | connectionReset => "ConnectionReset"
  | connectionAborted => "ConnectionAborted"
  | notConnected => "NotConnected"
  | addrInUse => "AddrInUse"
  | addrNotAvailable => "AddrNotAvailable"
  | brokenPipe => "BrokenPipe"
  | wouldBlock => "WouldBlock"
  | notADirectory => "NotADirectory"
  | isADirectory => "IsADirectory"
  | invalidInput => "InvalidInput"
  | invalidData => "InvalidData"
  | invalidFilename => "InvalidFilename"
  | timedOut => "TimedOut"
  | writeZero => "WriteZero"
  | interrupted => "Interrupted"
  | unexpectedEof => "UnexpectedEof"
  | other => "Other"
  | uncategorized => "Uncategorized"

/-- The wording of a failure of which nothing but the kind is known. -/
def text : IoKind → String
  | notFound => "entity not found"
  | permissionDenied => "permission denied"
  | connectionRefused => "connection refused"
  | connectionReset => "connection reset"
  | connectionAborted => "connection aborted"
  | notConnected => "not connected"
  | addrInUse => "address in use"
  | addrNotAvailable => "address not available"
  | brokenPipe => "broken pipe"
  | wouldBlock => "operation would block"
  | notADirectory => "not a directory"
  | isADirectory => "is a directory"
  | invalidInput => "invalid input parameter"
  | invalidData => "invalid data"
  | invalidFilename => "invalid filename"
  | timedOut => "timed out"
  | writeZero => "write zero"
  | interrupted => "operation interrupted"
  | unexpectedEof => "unexpected end of file"
  | other => "other error"
  | uncategorized => "uncategorized error"

/-- Every kind of failure. -/
def all : List IoKind :=
  [notFound, permissionDenied, connectionRefused, connectionReset, connectionAborted,
    notConnected, addrInUse, addrNotAvailable, brokenPipe, wouldBlock, notADirectory,
    isADirectory, invalidInput, invalidData, invalidFilename, timedOut, writeZero, interrupted,
    unexpectedEof, other, uncategorized]

/-- The kind reported under a name. -/
def ofName? (name : String) : Option IoKind :=
  all.find? fun kind => kind.name == name

end IoKind

/-- The failures that the operating system reports by number. -/
inductive SystemFault where
  | noEntry
  | accessDenied
  | notDirectory
  | isDirectory
  | nameTooLong
  | addressInUse
  | addressNotAvailable
  deriving DecidableEq, Repr

namespace SystemFault

/-- The number of a failure. -/
def code : SystemFault → Nat
  | noEntry => 2
  | accessDenied => 13
  | notDirectory => 20
  | isDirectory => 21
  | nameTooLong => 36
  | addressInUse => 98
  | addressNotAvailable => 99

/-- The kind of a failure. -/
def kind : SystemFault → IoKind
  | noEntry => .notFound
  | accessDenied => .permissionDenied
  | notDirectory => .notADirectory
  | isDirectory => .isADirectory
  | nameTooLong => .invalidFilename
  | addressInUse => .addrInUse
  | addressNotAvailable => .addrNotAvailable

/-- The system's wording of a failure. -/
def text : SystemFault → String
  | noEntry => "No such file or directory"
  | accessDenied => "Permission denied"
  | notDirectory => "Not a directory"
  | isDirectory => "Is a directory"
  | nameTooLong => "File name too long"
  | addressInUse => "Address already in use"
  | addressNotAvailable => "Cannot assign requested address"

/-- Every failure that is told apart. -/
def all : List SystemFault :=
  [noEntry, accessDenied, notDirectory, isDirectory, nameTooLong, addressInUse,
    addressNotAvailable]

/-- The failure with a number. -/
def ofCode? (code : Nat) : Option SystemFault :=
  all.find? fun fault => fault.code == code

end SystemFault

/-- A failure of input or output. -/
inductive IoFault where
  /-- A failure of a kind with a wording of its own. -/
  | worded (kind : IoKind) (text : String)
  /-- A failure that the operating system reported. -/
  | system (fault : SystemFault)
  deriving DecidableEq, Repr

namespace IoFault

/-- A failure of which nothing but the kind is known. -/
def ofKind (kind : IoKind) : IoFault := .worded kind kind.text

/-- The kind of a failure. -/
def kind : IoFault → IoKind
  | worded kind _ => kind
  | system fault => fault.kind

/-- What is reported of a failure. -/
def message : IoFault → String
  | worded _ text => text
  | system fault => s!"{fault.text} (os error {fault.code})"

/-- Whether the operation is to be tried again. -/
def isInterruption (fault : IoFault) : Bool :=
  fault.kind == .interrupted

end IoFault

end LoadServer
