import LoadServer.Program
import Std.Async.DNS
import Std.Async.TCP
import Std.Async.Timer
import Std.Sync.Semaphore

/-! The program on the host that runs it: its files, its clock, its network and its streams. -/

namespace LoadServer.Live

open Std.Async

/-! ## Failures -/

/-- The number of a failure, which the network layer counts down from the greatest word. -/
def faultNumber (code : UInt32) : Nat :=
  if code.toNat < 0x80000000 then code.toNat else UInt32.size - code.toNat

/-- The number that a host gives to a failure, if it gives one. -/
def numberOf : IO.Error → Option Nat
  | .alreadyExists _ code _ | .otherError code _ | .resourceBusy code _
  | .resourceVanished code _ | .unsupportedOperation code _ | .hardwareFault code _
  | .unsatisfiedConstraints code _ | .illegalOperation code _ | .protocolError code _
  | .timeExpired code _ | .interrupted _ code _ | .noFileOrDirectory _ code _
  | .invalidArgument _ code _ | .permissionDenied _ code _ | .resourceExhausted _ code _
  | .inappropriateType _ code _ | .noSuchThing _ code _ => some (faultNumber code)
  | .unexpectedEof | .userError _ => none

/-- A failure of the host, under its number if that is known. -/
def faultOf (error : IO.Error) : IoFault :=
  match (numberOf error).bind SystemFault.ofCode? with
  | some fault => .system fault
  | none => .worded .uncategorized (toString error)

/-! ## Files and streams -/

/-- The text of a file. -/
def readText (path : RawText) : IO (Except IoFault String) := do
  match path.text? with
  | none => return .error (.system .noEntry)
  | some name =>
    try
      let bytes ← IO.FS.readBinFile name
      match (RawText.decode bytes.toList).text? with
      | some text => return .ok text
      | none => return .error Folder.illFormed
    catch error => return .error (faultOf error)

/-- What reading the file gives that a command line names. -/
def readNamed (arguments : List RawText) : IO (Except IoFault String) :=
  match (CommandLine.read arguments).toOption.bind (·.config) with
  | some path => readText path
  | none => return .error (.system .noEntry)

/-- Prints the last texts of a program, each on lines of its own, and gives its exit code. -/
def finish (ending : Ending) : IO UInt32 := do
  for text in ending.output do
    IO.print text
  for text in ending.errors do
    IO.eprintln text
  return UInt32.ofNat ending.exitCode

/-- How the time is written in front of a record. -/
def timeFormat : String := "uuuu-MM-dd'T'HH:mm:ss.SSSSSS'Z'"

/-- Prints a record with the time, if it is to be shown. A record that cannot be printed is lost. -/
def report (filter : LogFilter) (entry : LogRecord) : BaseIO Unit := do
  if filter.shows entry then
    let printing : IO Unit := do
      let now := Std.Time.DateTime.ofTimestamp (← Std.Time.Timestamp.now) .UTC
      let time := now.format timeFormat
      let indent := "".pushn ' ' (5 - entry.severity.text.length)
      IO.println (time ++ " " ++ indent ++ entry.line)
      (← IO.getStdout).flush
    discard printing.toBaseIO

/-! ## Work -/

/-- The number whose square root the busy loop takes. -/
def operand : Float := 1024

/-- Takes this many square roots, each of which depends on the one before. -/
def roots (count : UInt64) (value : Float) : Float :=
  if count = 0 then value else roots (count - 1) (Float.sqrt (value * value))
termination_by count.toNat
decreasing_by
  have : count.toNat ≠ 0 := fun zero => ‹¬count = 0› (UInt64.toNat_inj.1 zero)
  have one : (1 : UInt64) ≤ count := UInt64.le_iff_toNat_le.2 (by simpa using by omega)
  rw [UInt64.toNat_sub_of_le _ _ one]
  simp
  omega

/-- Runs the busy loop, whose result is looked at so that it has to be computed. -/
def burn (iterations : UInt64) : IO Unit := do
  let value ← IO.lazyPure fun _ => roots iterations operand
  unless value == operand do
    throw (IO.userError "the busy loop went astray")

/-- The nanoseconds that a run of the busy loop takes. -/
def timeRun (iterations : UInt64) : IO Nat := do
  let start ← IO.monoNanosNow
  burn iterations
  return (← IO.monoNanosNow) - start

/-- Spends the time of a request, on a thread of its own where the processor is kept busy, and gives
the failure of that thread if there is one. -/
def spend (handling : Handling) : Async (Option ConnectionFault) := do
  if handling.burned ≠ 0 then
    let task ← IO.asTask (burn handling.burned) Task.Priority.dedicated
    try
      Async.ofAsyncTask task
    catch error =>
      -- Threads have no numbers here.
      return some (.task 0 (.panicked (toString error)))
  if handling.slept ≠ 0 then
    sleep (Std.Time.Millisecond.Offset.ofNat handling.slept)
  return none

/-! ## Network -/

/-- The endpoint behind an address of the network layer, without which there is none. -/
def endpointOf : Std.Net.SocketAddress → Endpoint
  | .v4 address =>
    match address.addr.octets.toList with
    | [a, b, c, d] => ⟨⟨a, b, c, d⟩, address.port⟩
    | _ => ⟨.any, address.port⟩
  | .v6 address => ⟨.any, address.port⟩

/-- The first address of the name in a text, if it has one. -/
def lookUp (text : String) : Async (List (String × HostAddress)) := do
  match splitLastColon? text.toList with
  | none => return []
  | some (name, _) =>
    try
      let name := String.ofList name
      let found ← DNS.getAddrInfo name "" (some .ipv4)
      return found.toList.filterMap fun
        | .v4 address => some (name, (endpointOf (.v4 ⟨address, 0⟩)).host)
        | .v6 _ => none
    catch _ => return []

/-- Binds a server to the endpoint that a text names. -/
def listen (text : String) : Async (Except IoFault (TCP.Socket.Server × Endpoint)) := do
  match Host.endpointOf { names := ← lookUp text } text with
  | .error fault => return .error fault
  | .ok wanted =>
    try
      let host := wanted.host
      let listener ← TCP.Socket.Server.mk
      listener.bind (.v4 ⟨.ofParts host.a host.b host.c host.d, wanted.port⟩)
      listener.listen 1024
      return .ok (listener, endpointOf (← listener.getSockName))
    catch error => return .error (faultOf error)

/-- Receives a request, or as much of it as comes, and shows how receiving went on. -/
def receive (client : TCP.Socket.Client) : Async (List ReadEvent) := do
  let mut events := []
  let mut missing := Request.size
  try
    while 0 < missing do
      match ← client.recv? missing.toUInt64 with
      | none => break
      | some bytes =>
        if bytes.isEmpty then break
        events := events ++ [ReadEvent.data bytes.toList]
        missing := missing - bytes.size
    return events
  catch error => return events ++ [.fail (faultOf error)]

/-- Sends bytes, and gives the failure if there is one. -/
def send (client : TCP.Socket.Client) (bytes : Bytes) : Async (Option ConnectionFault) := do
  try
    client.send bytes.toByteArray
    return none
  catch error => return some (.write (faultOf error))

/-- Serves one connection. -/
def serveOne (running : Running) (client : TCP.Socket.Client) (peer : Endpoint) : Async Unit := do
  let handling := handle running.server.factor { reads := ← receive client }
  for entry in handling.log do
    report running.filter entry
  let failure ← match handling.outcome with
    | .error fault => pure (some fault)
    | .ok () =>
      match ← spend handling with
      | some fault => pure (some fault)
      | none => send client handling.written
  match failure with
  | some fault => report running.filter (.abandoned peer fault)
  | none => client.shutdown

/-- Serves one connection and gives its permit back, whatever comes of it. -/
def serveOnce (running : Running) (permits : Option Std.Semaphore) (client : TCP.Socket.Client)
    (peer : Endpoint) : Async Unit := do
  try
    serveOne running client peer
  catch _ => pure ()
  if let some permits := permits then
    permits.release

/-- Accepts a connection, which comes with the endpoint of its client. -/
def acceptOne (listener : TCP.Socket.Server) :
    Async (Except IoFault (TCP.Socket.Client × Endpoint)) := do
  try
    let client ← listener.accept
    return .ok (client, endpointOf (← client.getPeerName))
  catch error => return .error (faultOf error)

/-- Asks the stream of a connection not to hold back what is sent, if that is wanted. -/
def askNoDelay (wanted : Bool) (client : TCP.Socket.Client) : Async NoDelay := do
  try
    if wanted then
      client.noDelay
    return .ask wanted none
  catch error => return .ask wanted (some (faultOf error))

/-- Accepts connections for ever, each after a permit has been had for it. Only an accept that fails
gives its permit back at once. -/
def acceptAll (running : Running) (listener : TCP.Socket.Server) : Async Unit := do
  let permits ← running.server.permits.mapM fun permits => Std.Semaphore.new permits.free
  repeat
    if let some permits := permits then
      Async.ofPurePromise permits.acquire
    match ← acceptOne listener with
    | .ok (client, peer) =>
      report running.filter (.accepted peer)
      let noDelay ← askNoDelay running.server.settings.nodelay client
      for entry in noDelay.reports peer do
        report running.filter entry
      background (serveOnce running permits client peer)
    | .error fault =>
      report running.filter (.acceptFailed fault)
      if let some permits := permits then
        permits.release

/-! ## A run -/

/-- Starts the server with its settings and a filter for its log, and serves until the program is
ended from outside. -/
def serve (settings : Settings) (filter : LogFilter) : IO UInt32 := do
  report filter (Program.starting settings)
  let factor ← Calibration.calibrate settings.calibrationIterations timeRun
  report filter (.calibrated factor)
  if Program.isOvermanned settings then
    finish { exitCode := Program.abortCode, errors := [Program.tooManyWorkers] }
  else
    match Server.create settings factor with
    | .error fault => finish { exitCode := Program.abortCode, errors := [fault.message] }
    | .ok server =>
      match ← (listen settings.listen).block with
      | .error fault =>
        report filter (.failed fault)
        finish { exitCode := 1, errors := [Program.lastWords (Program.ioDetail fault)] }
      | .ok (listener, address) =>
        report filter (.listening address)
        let running : Running := ⟨server, address, filter, {}, []⟩
        (acceptAll running listener).block
        return 0

/-- Starts the program with its settings. -/
def start (settings : Settings) : IO UInt32 := do
  let ⟨filter?, complaints⟩ := Program.filterOf (← IO.getEnv "RUST_LOG") settings
  for complaint in complaints do
    IO.eprintln complaint
  match filter? with
  | none => finish { exitCode := Program.abortCode, errors := [Program.noFilter] }
  | some filter => serve settings filter

/-- Runs the program with these arguments. -/
def run (arguments : List RawText) : IO UInt32 := do
  let text ← readNamed arguments
  match Settings.load arguments fun _ => text with
  | .error fault => finish (Program.unstarted fault)
  | .ok settings => start settings

end LoadServer.Live

/-- Runs the server that the command line describes. -/
def main (arguments : List String) : IO UInt32 :=
  LoadServer.Live.run (arguments.map LoadServer.RawText.ofString)
