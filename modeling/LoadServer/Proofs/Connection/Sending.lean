import LoadServer.Proofs.Connection.Handler

/-!
How a response is sent. Main statement: what the stream takes is always a beginning of the tag's
eight bytes, as long as there is room before writing stops and in writes that each take what is
offered, flushing comes once after all of them, and a failure is that of the first event at which
writing stops before their end, or else that of flushing.
-/

namespace LoadServer

/-- Why writing stops at an event, if it does. -/
def WriteEvent.stop? : WriteEvent → Option IoFault
  | .accept room => if room = 0 then some (.ofKind .writeZero) else none
  | .fail fault => if fault.isInterruption then none else some fault
  | .pending => none

/-- How many bytes are taken at an event at most. -/
def WriteEvent.room : WriteEvent → Nat
  | .accept room => room
  | .fail _ => 0
  | .pending => 0

/-- The room that an event offers to a write, if it completes one. -/
def WriteEvent.offer? : WriteEvent → Option Nat
  | .accept room => some room
  | .fail _ => none
  | .pending => none

/-- What completed writes are offered one after another: the room of every event up to the first
one at which writing stops, and this much behind all events if it never does. -/
def offers (most : Nat) (writes : List WriteEvent) : List Nat :=
  (writes.takeWhile WriteEvent.goesOn).filterMap WriteEvent.offer? ++
    match writes.find? fun event => !event.goesOn with
    | none => [most]
    | some stop => stop.offer?.toList

/-- The offer of an event comes first, and is the last one if writing stops there. -/
theorem offers_cons (most : Nat) (event : WriteEvent) (rest : List WriteEvent) :
    offers most (event :: rest) =
      event.offer?.toList ++ if event.goesOn then offers most rest else [] := by
  -- The walk in front of the stop and the search for the stop part at the same event.
  unfold offers
  cases goes : event.goesOn with
  | false => simp [goes]
  | true => cases offer : event.offer? <;> simp [goes, offer]

/-- Writing stops for a reason when this many bytes have been taken in front of the event. -/
def StopsAfter (room : Nat) (cause : IoFault) (writes : List WriteEvent) : Prop :=
  ∃ front event rest, writes = front ++ event :: rest ∧
    (∀ earlier ∈ front, earlier.goesOn = true) ∧ event.stop? = some cause ∧
      (front.map WriteEvent.room).sum = room

/-- Writing stops first at an event with a reason to stop, behind events after which it goes on. -/
theorem stopsAfter_cons_iff {room : Nat} {cause : IoFault} {event : WriteEvent}
    {rest : List WriteEvent} :
    StopsAfter room cause (event :: rest) ↔
      (event.stop? = some cause ∧ room = 0) ∨
        (event.goesOn = true ∧ ∃ more, StopsAfter more cause rest ∧ event.room + more = room) := by
  -- The events in front of the stop are none, or they begin with the first event.
  constructor
  · rintro ⟨front, stop, behind, split, going, stops, total⟩
    cases front with
    | nil =>
      cases split
      exact .inl ⟨stops, total.symm⟩
    | cons first front =>
      cases split
      have tail : ∀ earlier ∈ front, earlier.goesOn = true :=
        fun earlier member => going earlier (by simp [member])
      exact .inr ⟨going _ (by simp), _, ⟨front, stop, behind, rfl, tail, stops, rfl⟩, by
        simpa using total⟩
  · rintro (⟨stops, rfl⟩ | ⟨head, more, ⟨front, stop, behind, rfl, going, stops, rfl⟩, rfl⟩)
    · exact ⟨[], event, rest, rfl, by simp, stops, rfl⟩
    · refine ⟨event :: front, stop, behind, rfl, fun earlier member => ?_, stops, by simp⟩
      rcases List.mem_cons.mp member with rfl | later
      · exact head
      · exact going earlier later

/-- A stream stops taking bytes where writing first stops. -/
theorem takingStop?_eq_some_iff {room : Nat} {cause : IoFault} {writes : List WriteEvent} :
    takingStop? writes = some (room, cause) ↔ StopsAfter room cause writes := by
  -- One event at a time, whose room is added to what the events behind it take.
  induction writes generalizing room with
  | nil => simp [takingStop?, StopsAfter]
  | cons event rest ih =>
    rw [stopsAfter_cons_iff]
    cases event with
    | accept space =>
      by_cases none : space = 0
      · simp [takingStop?, WriteEvent.stop?, WriteEvent.goesOn, none, eq_comm, and_comm]
      · simp [takingStop?, WriteEvent.stop?, WriteEvent.goesOn, WriteEvent.room, none, ← ih]
    | fail fault =>
      by_cases again : fault.isInterruption
      · simp [takingStop?, WriteEvent.stop?, WriteEvent.goesOn, WriteEvent.room, again, ih]
      · simp [takingStop?, WriteEvent.stop?, WriteEvent.goesOn, again, eq_comm, and_comm]
    | pending => simp [takingStop?, WriteEvent.stop?, WriteEvent.goesOn, WriteEvent.room, ih]

/-- Writing fails for a reason exactly where writing stops for it before everything is taken. -/
theorem fault_writeAll_eq_some_iff {bytes : Bytes} {writes : List WriteEvent} {cause : IoFault} :
    (writeAll bytes writes).fault = some cause ↔
      ∃ room < bytes.length, StopsAfter room cause writes := by
  -- The stream stops once at most, so its room and its reason are those of the failure.
  rw [fault_writeAll]
  simp only [← takingStop?_eq_some_iff]
  cases stop : takingStop? writes with
  | none => simp
  | some found =>
    obtain ⟨room, fault⟩ := found
    by_cases whole : bytes.length ≤ room
    · simp only [if_pos whole]
      constructor
      · intro none
        cases none
      · rintro ⟨other, before, same⟩
        cases same
        omega
    · simp only [if_neg whole]
      constructor
      · rintro ⟨rfl⟩
        exact ⟨room, by omega, rfl⟩
      · rintro ⟨other, before, same⟩
        cases same
        rfl

/-- Writing fails for no reason exactly if everything is taken. -/
theorem fault_writeAll_eq_none_iff {bytes : Bytes} {writes : List WriteEvent} :
    (writeAll bytes writes).fault = none ↔ (writeAll bytes writes).written = bytes := by
  -- Less than everything is taken only where the stream stops before.
  rw [fault_writeAll, written_writeAll, takenOf]
  cases stop : takingStop? writes with
  | none => simp
  | some found =>
    obtain ⟨room, fault⟩ := found
    by_cases whole : bytes.length ≤ room
    · simp [whole]
    · have part : (bytes.take (min room bytes.length)).length ≠ bytes.length := by
        rw [List.length_take]
        omega
      simp only [if_neg whole]
      constructor
      · intro none
        cases none
      · intro same
        exact absurd (congrArg List.length same) part

/-- The completed writes take together what is written. -/
theorem sum_counts_writeAll (bytes : Bytes) (writes : List WriteEvent) :
    (writeAll bytes writes).counts.sum = (writeAll bytes writes).written.length := by
  -- Every write counts the bytes that it adds to those written.
  fun_induction writeAll bytes writes with
  | case8 bytes rest full room some taken more ih => simp [ih, more]
  | _ => simp_all

/-- Each completed write takes what it is offered or all that is left, and there is one more as long
as something is left. -/
theorem getElem?_counts_writeAll {most : Nat} {bytes : Bytes} (fits : bytes.length ≤ most)
    (writes : List WriteEvent) (index : Nat) :
    (writeAll bytes writes).counts[index]? =
      if ((offers most writes).take index).sum < bytes.length then
        (offers most writes)[index]?.map
          (min · (bytes.length - ((offers most writes).take index).sum))
      else none := by
  -- A write that takes something leaves less to the next one, which has the index before its own.
  fun_induction writeAll bytes writes generalizing index with
  | case1 bytes empty => simp_all
  | case2 bytes full =>
    have some : 0 < bytes.length := List.length_pos_of_ne_nil (by simpa using full)
    cases index with
    | zero => simp [offers, some, fits]
    | succ index => simp [offers, fits]
  | case3 bytes event rest empty => simp_all
  | case4 bytes rest full ih =>
    simpa [offers_cons, WriteEvent.offer?, WriteEvent.goesOn] using ih fits index
  | case5 bytes rest full fault again ih =>
    simpa [offers_cons, WriteEvent.offer?, WriteEvent.goesOn, again] using ih fits index
  | case6 bytes rest full fault final =>
    simp [offers_cons, WriteEvent.offer?, WriteEvent.goesOn, final]
  | case7 bytes rest full =>
    have some : 0 < bytes.length := List.length_pos_of_ne_nil (by simpa using full)
    cases index <;> simp [offers_cons, WriteEvent.offer?, WriteEvent.goesOn, some]
  | case8 bytes rest full room some taken more ih =>
    have left : (bytes.drop room).length ≤ most := by
      rw [List.length_drop]
      omega
    have goes : (WriteEvent.accept room).goesOn = true := by simpa [WriteEvent.goesOn] using some
    have first : 0 < bytes.length := List.length_pos_of_ne_nil (by simpa using full)
    rw [offers_cons, goes, if_pos rfl]
    cases index with
    | zero => simp [taken, WriteEvent.offer?, first]
    | succ index =>
      have here := ih left index
      simp only [List.length_drop, Nat.sub_sub] at here
      simp only [WriteEvent.offer?, Option.toList_some, List.cons_append, List.nil_append,
        List.getElem?_cons_succ, List.take_succ_cons, List.sum_cons, more, here]
      exact if_congr (by omega) rfl rfl

/-- A response is written as its bytes are, and a failure of writing goes before one of flushing,
which follows where there is none. -/
theorem sendResponse_eq (response : Response) (sending : Sending) :
    sendResponse response sending =
      let writing := writeAll response.encode sending.writes
      ({ writing with fault := writing.fault.or sending.flush },
        writing.counts.map OutputEvent.write ++ if writing.fault = none then [.flush] else []) := by
  -- The failure of writing is looked at once, for both parts of the result.
  unfold sendResponse
  obtain ⟨written, counts, fault⟩ := writeAll response.encode sending.writes
  cases fault <;> simp

section Answered

variable {script : Script} {request : Request}
  (decoded : Request.decode (delivered script.reads) = .ok request)
  (completes : script.task = none) (factor : Factor)

include decoded completes

/-- A whole request is answered by writing its tag, and by flushing if that does not fail. -/
theorem handle_eq_of_decode :
    handle factor script =
      let writing := writeAll (wordBytes request.tag) script.writes
      { outcome :=
          match writing.fault.or script.flush with
          | some fault => .error (.write fault)
          | none => .ok ()
        written := writing.written
        events := writing.counts.map OutputEvent.write ++
          if writing.fault = none then [.flush] else []
        unread := dataLength (readExact Request.size script.reads).rest
        slept := request.delay.sleepMillis
        burned := request.delay.spinIterations factor
        log := [.processing request.tag request.delay] } := by
  -- The bytes of the response are those of the tag.
  rw [handle_of_completes factor decoded completes, reply, sendResponse_eq]
  rfl

/-- What is written are the bytes of the tag, as far as they are taken. -/
theorem written_of_decode :
    (handle factor script).written = (writeAll (wordBytes request.tag) script.writes).written := by
  rw [handle_eq_of_decode decoded completes]

/-- What is done are the writes of the tag, and flushing if none of them fails. -/
theorem events_of_decode :
    (handle factor script).events =
      (writeAll (wordBytes request.tag) script.writes).counts.map OutputEvent.write ++
        if (writeAll (wordBytes request.tag) script.writes).fault = none then [.flush] else [] := by
  rw [handle_eq_of_decode decoded completes]

/-- Only writing the tag can fail, or else flushing. -/
theorem outcome_of_decode :
    (handle factor script).outcome =
      match (writeAll (wordBytes request.tag) script.writes).fault.or script.flush with
      | some fault => .error (.write fault)
      | none => .ok () := by
  rw [handle_eq_of_decode decoded completes]

end Answered

/-- Of a response some first bytes are written, as many as there is room for before writing stops,
in writes that each take what the stream offers or what is left. Flushing is attempted once, behind
the last write, if these are all of the bytes. The response is sent without a failure exactly if
everything is written and flushed, and a failure is the one at which writing first stops before the
end, or that of flushing. The task that may be needed is one that completes. -/
theorem handle_sending {script : Script} {request : Request}
    (decoded : Request.decode (delivered script.reads) = .ok request)
    (completes : script.task = none) (factor : Factor) :
    let served := handle factor script
    let tag := LittleEndian.encode 8 request.tag.toNat
    let before (index : Nat) := ((offers 8 script.writes).take index).sum
    served.written <+: tag ∧
    (∀ room cause, StopsAfter room cause script.writes → served.written = tag.take room) ∧
    (∃ counts : List Nat, counts.sum = served.written.length ∧
      (∀ index, counts[index]? =
        if before index < 8 then (offers 8 script.writes)[index]?.map (min · (8 - before index))
        else none) ∧
      served.events =
        counts.map OutputEvent.write ++ if served.written = tag then [.flush] else []) ∧
    (served.written = tag ↔ ∀ room < 8, ∀ cause, ¬ StopsAfter room cause script.writes) ∧
    (served.outcome = .ok () ↔ served.written = tag ∧ script.flush = none) ∧
    (∀ fault, served.outcome = .error fault ↔ ∃ cause, fault = .write cause ∧
      ((∃ room < 8, StopsAfter room cause script.writes) ∨
        served.written = tag ∧ script.flush = some cause)) := by
  -- All is told by writing the tag, which fails exactly where it does not write the whole tag.
  intro served tag before
  have width : tag.length = 8 := LittleEndian.length_encode 8 request.tag.toNat
  have written : served.written = (writeAll tag script.writes).written :=
    written_of_decode decoded completes factor
  have events : served.events = (writeAll tag script.writes).counts.map OutputEvent.write ++
      (if (writeAll tag script.writes).fault = none then [.flush] else []) :=
    events_of_decode decoded completes factor
  have outcome : served.outcome =
      match (writeAll tag script.writes).fault.or script.flush with
      | some fault => .error (.write fault)
      | none => .ok () :=
    outcome_of_decode decoded completes factor
  have whole : (writeAll tag script.writes).fault = none ↔ served.written = tag := by
    rw [written]
    exact fault_writeAll_eq_none_iff
  have stops (cause : IoFault) : (writeAll tag script.writes).fault = some cause ↔
      ∃ room < 8, StopsAfter room cause script.writes := by
    rw [← width]
    exact fault_writeAll_eq_some_iff
  refine ⟨?_, fun room cause stopped => ?_,
    ⟨(writeAll tag script.writes).counts, ?_, fun index => ?_, ?_⟩, ?_, ?_, fun fault => ?_⟩
  · -- What is written is what the stream takes from the front.
    rw [written, written_writeAll]
    exact List.take_prefix _ _
  · -- A stream that stops has taken what there was room for.
    rw [written, written_writeAll, takenOf, takingStop?_eq_some_iff.mpr stopped,
      ← List.take_eq_take_min]
  · rw [written, sum_counts_writeAll]
  · -- The tag is as long as all that is offered where writing never stops.
    rw [getElem?_counts_writeAll (Nat.le_of_eq width), width]
  · -- Flushing follows exactly where writing has not failed.
    rw [events]
    simp only [whole]
  · -- Something is missing exactly where there is a reason for it.
    rw [← whole, Option.eq_none_iff_forall_ne_some]
    simp only [ne_eq, stops]
    constructor
    · intro never room few cause stopped
      exact never cause ⟨room, few, stopped⟩
    · rintro never cause ⟨room, few, stopped⟩
      exact never room few cause stopped
  · -- Success means that neither writing nor flushing has failed.
    rw [outcome, ← whole, ← Option.or_eq_none_iff]
    cases (writeAll tag script.writes).fault.or script.flush <;> simp
  · -- A failure of writing hides one of flushing, which is not even attempted then.
    have failed : served.outcome = .error fault ↔ ∃ cause, fault = .write cause ∧
        (writeAll tag script.writes).fault.or script.flush = some cause := by
      rw [outcome]
      cases (writeAll tag script.writes).fault.or script.flush <;> simp [eq_comm]
    rw [failed]
    simp only [Option.or_eq_some_iff, stops, whole]

/-- Three bytes are taken in two writes, and a third write, which takes nothing, is a failure
although more room would follow. -/
theorem handle_sending_write_zero :
    let request := Request.single 0x0807060504030201 (Delay.spin 0).toWord
    let script : Script := {
      reads := [.data request.encode]
      writes := [.accept 2, .pending, .fail (.ofKind .interrupted), .accept 1, .accept 0, .accept 8]
      flush := some (.ofKind .brokenPipe) }
    let served := handle ⟨0x4059000000000000⟩ script
    served.written = [1, 2, 3] ∧ served.events = [.write 2, .write 1, .write 0] ∧
      served.outcome = .error (.write (.ofKind .writeZero)) := by
  intro request script served
  have decoded : Request.decode (delivered script.reads) = .ok request := by decide +kernel
  have tag : LittleEndian.encode 8 request.tag.toNat = [1, 2, 3, 4, 5, 6, 7, 8] := by decide +kernel
  have stopped : StopsAfter 3 (.ofKind .writeZero) script.writes :=
    ⟨[.accept 2, .pending, .fail (.ofKind .interrupted), .accept 1], .accept 0, [.accept 8],
      rfl, by decide, rfl, rfl⟩
  obtain ⟨-, room, ⟨counts, -, each, events⟩, -, -, failed⟩ :=
    handle_sending decoded rfl ⟨0x4059000000000000⟩
  have written : served.written = [1, 2, 3] := by
    rw [room 3 _ stopped, tag]
    rfl
  -- The three offers are below what is left each time, and there is no fourth one.
  have offered : offers 8 script.writes = [2, 1, 0] := by decide
  have taken : counts = [2, 1, 0] := by
    refine List.ext_getElem? fun index => ?_
    rw [each index, offered]
    rcases index with - | - | - | index <;> simp
  refine ⟨written, ?_, (failed _).mpr ⟨_, rfl, .inl ⟨3, by decide, stopped⟩⟩⟩
  rw [events, taken, tag, written]
  rfl

end LoadServer
