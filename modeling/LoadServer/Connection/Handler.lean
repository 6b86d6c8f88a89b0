import LoadServer.Connection.Script
import LoadServer.Log.Record

/-! Serving one connection: one request is read, its time is spent, and its tag is sent back. -/

namespace LoadServer

/-- What a served connection did to the sending direction of its stream. -/
inductive OutputEvent where
  /-- A write was completed. -/
  | write (count : Nat)
  /-- Flushing was attempted. -/
  | flush
  deriving DecidableEq, Repr

/-- What came of serving one connection. -/
structure Handling where
  /-- How it ended. -/
  outcome : Except ConnectionFault Unit
  /-- The bytes sent. -/
  written : Bytes := []
  /-- What was done to the sending direction, in order. -/
  events : List OutputEvent := []
  /-- The bytes that were there and not taken. -/
  unread : Nat
  /-- The milliseconds slept. -/
  slept : Nat := 0
  /-- The busy-loop iterations asked for. -/
  burned : UInt64 := 0
  /-- What was reported. -/
  log : List LogRecord := []

namespace Delay

/-- The longest sleep in milliseconds: thirty years of 365 days. -/
def longestSleep : Nat := 30 * 365 * 86400 * 1000

/-- The milliseconds that a delay sleeps: whole ones, rounded up. -/
def sleepMillis : Delay → Nat
  | .spin _ => 0
  | .sleep micros => min ((micros.toNat + 999) / 1000) longestSleep

/-- The busy-loop iterations that a delay asks of a host with this factor. -/
def spinIterations (factor : Factor) : Delay → UInt64
  | .spin micros => factor.iterations micros
  | .sleep _ => 0

/-- Spends the time of a delay, where only a busy loop that runs at all needs the task. -/
def spend (task : Option (Nat × TaskFault)) : Delay → Except ConnectionFault Unit
  | .sleep _ => .ok ()
  | .spin micros =>
    if micros = 0 then .ok ()
    else
      match task with
      | none => .ok ()
      | some (number, fault) => .error (.task number fault)

end Delay

/-- Sends a response and flushes the stream. -/
def sendResponse (response : Response) (sending : Sending) : Writing × List OutputEvent :=
  let writing := writeAll response.encode sending.writes
  let writes := writing.counts.map OutputEvent.write
  match writing.fault with
  | some _ => (writing, writes)
  | none => ({ writing with fault := sending.flush }, writes ++ [.flush])

/-- Sends the response to a request whose time is spent. -/
def reply (factor : Factor) (request : Request) (unread : Nat) (sending : Sending) : Handling :=
  let (writing, events) := sendResponse (Response.ofRequest request) sending
  { outcome :=
      match writing.fault with
      | some fault => .error (.write fault)
      | none => .ok ()
    written := writing.written
    events := events
    unread := unread
    slept := request.delay.sleepMillis
    burned := request.delay.spinIterations factor
    log := [.processing request.tag request.delay] }

/-- Spends the time of a request and replies to it, unless the time cannot be spent. -/
def respond (factor : Factor) (request : Request) (unread : Nat) (sequel : Sequel) : Handling :=
  match request.delay.spend sequel.task with
  | .ok () => reply factor request unread sequel.toSending
  | .error fault =>
    { outcome := .error fault
      unread := unread
      slept := request.delay.sleepMillis
      burned := request.delay.spinIterations factor
      log := [.processing request.tag request.delay] }

/-- Serves one connection. -/
def handle (factor : Factor) (script : Script) : Handling :=
  let reading := readExact Request.size script.reads
  let unread := dataLength reading.rest
  match reading.fault with
  | some fault => { outcome := .error (.read fault), unread := unread }
  | none =>
    match Request.decode reading.taken with
    | .error fault => { outcome := .error (.decode fault), unread := unread }
    | .ok request => respond factor request unread script.toSequel

end LoadServer
