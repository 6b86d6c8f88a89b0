import LoadServer.Connection.Delivery
import LoadServer.Connection.Handler
import LoadServer.Proofs.Wire.Delay
import LoadServer.Proofs.Wire.Packet

/-!
Serving a connection depends on what its stream delivers and takes, and on nothing else. Main
statement: a client that sends a request in pieces gets its tag back, also in pieces.
-/

namespace LoadServer

/-- A stream that stops before a whole request makes the handler fail as the stream stopped. -/
theorem handle_of_short (factor : Factor) {script : Script}
    (short : (delivered script.reads).length < Request.size) :
    handle factor script =
      { outcome := .error (.read (deliveryStop script.reads))
        unread := dataLength (readExact Request.size script.reads).rest } := by
  -- Reading fails before anything is decoded.
  have fault := fault_readExact Request.size script.reads
  rw [if_neg (Nat.not_le.mpr short)] at fault
  simp [handle, fault]

/-- A stream that delivers a whole request makes the handler respond to it. -/
theorem handle_of_decode (factor : Factor) {script : Script} {request : Request}
    (decoded : Request.decode (delivered script.reads) = .ok request) :
    handle factor script =
      respond factor request (dataLength (readExact Request.size script.reads).rest)
        script.toSequel := by
  -- Decoding succeeds only with enough bytes, so reading has not failed before.
  have enough := Request.size_le_of_decode decoded
  have fault := fault_readExact Request.size script.reads
  rw [if_pos enough] at fault
  have taken : Request.decode (readExact Request.size script.reads).taken = .ok request := by
    rw [taken_readExact, Request.decode_take enough, decoded]
  simp [handle, fault, taken]

/-- What is sent of a response is a beginning of its bytes, as long as the stream takes. -/
theorem written_sendResponse (response : Response) (sending : Sending) :
    (sendResponse response sending).1.written =
      response.encode.take (takenOf response.encode.length sending.writes) := by
  -- Flushing comes after all writes and changes nothing in what was written.
  rw [← written_writeAll]
  cases fault : (writeAll response.encode sending.writes).fault with
  | none => simp [sendResponse, fault]
  | some found => simp [sendResponse, fault]

/-- Sending a response fails where the stream stops before its end, and else where flushing
fails. -/
theorem fault_sendResponse (response : Response) (sending : Sending) :
    (sendResponse response sending).1.fault =
      match takingStop? sending.writes with
      | none => sending.flush
      | some (room, fault) =>
        if response.encode.length ≤ room then sending.flush else some fault := by
  -- A failed write comes before flushing, which therefore fails only after all writes.
  have fault := fault_writeAll response.encode sending.writes
  unfold sendResponse
  cases stop : takingStop? sending.writes with
  | none =>
    rw [stop] at fault
    simp [fault]
  | some found =>
    obtain ⟨room, stopFault⟩ := found
    simp only [stop] at fault
    by_cases whole : response.encode.length ≤ room
    · rw [if_pos whole] at fault
      simp [fault, whole]
    · rw [if_neg whole] at fault
      simp [fault, whole]

/-- The response has eight bytes. -/
@[simp] theorem Response.length_encode (response : Response) : response.encode.length = size :=
  length_wordBytes response.tag

/-- Time is spent, except where the busy loop needs a task that fails. -/
theorem Delay.spend_eq_or (task : Option (Nat × TaskFault)) (delay : Delay) :
    delay.spend task = .ok () ∨
      ∃ number fault, task = some (number, fault) ∧
        delay.spend task = .error (.task number fault) := by
  -- Sleeping and a busy loop of no time need no task.
  cases delay with
  | sleep micros => exact .inl rfl
  | spin micros =>
    by_cases none : micros = 0
    · exact .inl (by simp [spend, none])
    · cases task with
      | none => exact .inl (by simp [spend])
      | some found => exact .inr ⟨found.1, found.2, rfl, by simp [spend, none]⟩

/-- A request is replied to, except where it needs a task that fails: then its handler ends for this
reason, and it neither writes nor flushes. -/
theorem respond_eq_or (factor : Factor) (request : Request) (sequel : Sequel) :
    (∀ unread, respond factor request unread sequel =
        reply factor request unread sequel.toSending) ∨
      ∃ number fault, sequel.task = some (number, fault) ∧
        ∀ unread, respond factor request unread sequel =
          { outcome := .error (.task number fault)
            unread := unread
            slept := request.delay.sleepMillis
            burned := request.delay.spinIterations factor
            log := [.processing request.tag request.delay] } := by
  -- Whether the time is spent does not depend on what is left unread.
  rcases Delay.spend_eq_or sequel.task request.delay with spent | ⟨number, fault, task, unspent⟩
  · left
    intro unread
    rw [respond, spent]
  · refine .inr ⟨number, fault, task, fun unread => ?_⟩
    rw [respond, unspent]

/-- A request is replied to if the task that may be needed completes. -/
theorem respond_of_completes (factor : Factor) (request : Request) (unread : Nat)
    {sequel : Sequel} (completes : sequel.task = none) :
    respond factor request unread sequel = reply factor request unread sequel.toSending := by
  -- Only a task that fails keeps the handler from replying.
  rcases respond_eq_or factor request sequel with replied | ⟨number, fault, fails, -⟩
  · exact replied unread
  · rw [completes] at fails
    cases fails

/-- A whole request is reported once, with its tag and its delay. -/
theorem log_respond (factor : Factor) (request : Request) (unread : Nat) (sequel : Sequel) :
    (respond factor request unread sequel).log = [.processing request.tag request.delay] := by
  -- The report comes before any time is spent.
  rcases respond_eq_or factor request sequel with replied | ⟨number, fault, -, failed⟩
  · rw [replied, reply]
  · rw [failed]

/-- What is sent in a reply is a beginning of the tag, as long as the stream takes. -/
theorem written_reply (factor : Factor) (request : Request) (unread : Nat) (sending : Sending) :
    (reply factor request unread sending).written =
      (wordBytes request.tag).take (takenOf Response.size sending.writes) := by
  -- The eight bytes of the response are those of the tag.
  simp only [reply, written_sendResponse, Response.length_encode]
  rfl

/-- A stream that takes everything gets the whole response, and the handler succeeds. -/
theorem reply_of_taking (factor : Factor) (request : Request) (unread : Nat) {sending : Sending}
    (taking : takingStop? sending.writes = none) (flushed : sending.flush = none) :
    (reply factor request unread sending).outcome = .ok () ∧
      (reply factor request unread sending).written = (Response.ofRequest request).encode := by
  -- A stream that never stops takes as many bytes as there are.
  have fault := fault_sendResponse (Response.ofRequest request) sending
  have written := written_sendResponse (Response.ofRequest request) sending
  rw [taking] at fault
  have all : takenOf (Response.ofRequest request).encode.length sending.writes =
      (Response.ofRequest request).encode.length := by
    rw [takenOf, taking]
  rw [all, List.take_length] at written
  simp [reply, fault, flushed, written]

/-- A stream that delivers a whole request has it replied to if the task that may be needed
completes. -/
theorem handle_of_completes (factor : Factor) {script : Script} {request : Request}
    (decoded : Request.decode (delivered script.reads) = .ok request)
    (completes : script.task = none) :
    handle factor script =
      reply factor request (dataLength (readExact Request.size script.reads).rest)
        script.toSending := by
  -- Reading leaves a whole request, and its time is spent.
  rw [handle_of_decode factor decoded, respond_of_completes factor _ _ completes]

/-- The request of one delay asks for the delay that its first word stands for. -/
theorem Request.delay_single (tag word : UInt64) : (single tag word).delay = Delay.ofWord word := by
  rfl

/-- A request of one delay that comes in any pieces is logged as it was meant, and its tag is sent
back whole, in whatever pieces the stream takes it, if the task that may be needed completes. -/
theorem handle_single_roundTrip {tag : UInt64} {delay : Delay} {script : Script}
    {front rest : List ReadEvent} {extra : Bytes} (narrow : delay.micros.toNat < 2 ^ 63)
    (reads : script.reads = front ++ rest) (reading : ∀ event ∈ front, event.goesOn = true)
    (sent : front.flatMap ReadEvent.bytes = (Request.single tag delay.toWord).encode ++ extra)
    (writing : ∀ event ∈ script.writes, event.goesOn = true) (flushed : script.flush = none)
    (completes : script.task = none) (factor : Factor) :
    (handle factor script).outcome = .ok () ∧
      (handle factor script).log = [.processing tag delay] ∧
      (handle factor script).written.length = Response.size ∧
      Response.decode (handle factor script).written = .ok ⟨tag⟩ := by
  -- The pieces join to the bytes of the request, from which decoding restores every field.
  have arrived : Request.decode (delivered script.reads) =
      .ok (Request.single tag delay.toWord) := by
    rw [reads, delivered_append reading, sent, List.append_assoc, Request.decode_encode_append]
  have meant : (Request.single tag delay.toWord).delay = delay := by
    rw [Request.delay_single, Delay.ofWord_toWord narrow]
  rw [handle_of_completes factor arrived completes]
  obtain ⟨outcome, written⟩ := reply_of_taking factor (Request.single tag delay.toWord)
    (dataLength (readExact Request.size script.reads).rest) (takingStop?_eq_none writing) flushed
  refine ⟨outcome, ?_, ?_, ?_⟩
  · rw [reply, meant]
    rfl
  · rw [written, Response.length_encode]
  · rw [written, Response.decode_encode]
    rfl

/-- Three pieces with a pause and an interruption between them, and a response that is taken byte
by byte at first. -/
theorem handle_single_three_pieces :
    let bytes := (Request.single 0xFEEDFACE (Delay.sleep 30000).toWord).encode
    let served := handle ⟨0x4059000000000000⟩ {
      reads := [.data (bytes.take 10), .pending, .data ((bytes.drop 10).take 90),
        .fail (.ofKind .interrupted), .data (bytes.drop 100 ++ [1, 2])]
      writes := [.accept 1, .pending, .accept 1, .fail (.ofKind .interrupted)] }
    served.outcome = .ok () ∧ served.log = [.processing 0xFEEDFACE (.sleep 30000)] ∧
      served.written.length = Response.size ∧
      Response.decode served.written = .ok ⟨0xFEEDFACE⟩ := by
  -- The pieces join to the request and two more bytes, and all eight of the response are taken.
  exact @handle_single_roundTrip _ _ _ _ [] [1, 2] (by decide) (List.append_nil _).symm
    (by decide +kernel) (by decide +kernel) (by decide) rfl rfl _

end LoadServer
