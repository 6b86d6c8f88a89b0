import LoadServer.Proofs.Connection.Reading
import LoadServer.Proofs.Connection.Sending

/-!
What a failing handler has written. Main statement: nothing, except on a stream that takes some
bytes of the response before it stops, or takes all of them and cannot be flushed.
-/

namespace LoadServer

section Answered

variable {script : Script} {request : Request}
  (decoded : Request.decode (delivered script.reads) = .ok request)
  (completes : script.task = none) (factor : Factor)

include decoded completes

/-- Where a whole request has come in, the handler fails exactly if the stream stops before the end
of the response or cannot be flushed. -/
theorem exists_error_of_decode_iff :
    (∃ fault, (handle factor script).outcome = .error fault) ↔
      (∃ room < 8, ∃ cause, StopsAfter room cause script.writes) ∨ script.flush ≠ none := by
  -- The outcome repeats the failure of writing, or else that of flushing.
  have stops (cause : IoFault) :
      (writeAll (wordBytes request.tag) script.writes).fault = some cause ↔
        ∃ room < 8, StopsAfter room cause script.writes := by
    rw [← length_wordBytes request.tag]
    exact fault_writeAll_eq_some_iff
  rw [outcome_of_decode decoded completes factor]
  constructor
  · rintro ⟨fault, failed⟩
    cases found : (writeAll (wordBytes request.tag) script.writes).fault with
    | some cause =>
      obtain ⟨room, few, stopped⟩ := (stops cause).mp found
      exact .inl ⟨room, few, cause, stopped⟩
    | none =>
      right
      intro flushed
      simp [found, flushed] at failed
  · rintro (⟨room, few, cause, stopped⟩ | unflushed)
    · exact ⟨.write cause, by simp [(stops cause).mpr ⟨room, few, stopped⟩]⟩
    · -- A failure of flushing counts only behind a response that is written.
      obtain ⟨cause, flushing⟩ := Option.ne_none_iff_exists'.mp unflushed
      cases found : (writeAll (wordBytes request.tag) script.writes).fault with
      | some other => exact ⟨.write other, by simp⟩
      | none => exact ⟨.write cause, by simp [flushing]⟩

/-- Where a whole request has come in, no byte is written exactly if the stream stops at once. -/
theorem written_eq_nil_of_decode_iff :
    (handle factor script).written = [] ↔ ∃ cause, StopsAfter 0 cause script.writes := by
  -- The stream takes the tag from its front, as far as there is room before it stops.
  simp only [← takingStop?_eq_some_iff]
  rw [written_of_decode decoded completes factor, written_writeAll, length_wordBytes]
  have width : (wordBytes request.tag).length = 8 := length_wordBytes request.tag
  cases stop : takingStop? script.writes with
  | none =>
    have whole : takenOf 8 script.writes = 8 := by rw [takenOf, stop]
    rw [whole, List.take_eq_nil_iff, ← List.length_eq_zero_iff, width]
    simp
  | some found =>
    obtain ⟨room, cause⟩ := found
    have part : takenOf 8 script.writes = min room 8 := by rw [takenOf, stop]
    rw [part, List.take_eq_nil_iff, ← List.length_eq_zero_iff, width]
    constructor
    · intro nothing
      have none : room = 0 := by omega
      exact ⟨cause, by rw [none]⟩
    · rintro ⟨other, same⟩
      cases same
      exact .inl rfl

end Answered

/-- A stream stops taking bytes once at most. -/
theorem StopsAfter.unique {room other : Nat} {cause reason : IoFault} {writes : List WriteEvent}
    (stopped : StopsAfter room cause writes) (again : StopsAfter other reason writes) :
    other = room ∧ reason = cause := by
  -- Both stops are what the walk over the events comes to.
  rw [← takingStop?_eq_some_iff] at stopped again
  rw [stopped] at again
  cases again
  exact ⟨rfl, rfl⟩

/-- A handler that fails has written nothing, except on a stream that delivers a whole request and
then takes some bytes of the response before it stops, or takes all of them and cannot be flushed.
There the client gets these bytes of its tag although its connection is abandoned. The task that may
be needed is one that completes. -/
theorem handle_failing_silently_iff (factor : Factor) {script : Script}
    (completes : script.task = none) :
    (∀ fault, (handle factor script).outcome = .error fault →
        (handle factor script).written = []) ↔
      ¬ (144 ≤ (arrived script.reads).length ∧
        ((∃ room cause, 0 < room ∧ room < 8 ∧ StopsAfter room cause script.writes) ∨
          ((∀ room < 8, ∀ cause, ¬ StopsAfter room cause script.writes) ∧
            script.flush ≠ none))) := by
  rw [← delivered_eq_arrived]
  rcases Nat.lt_or_ge (delivered script.reads).length 144 with short | enough
  · -- A handler without a request never comes to write.
    have silent : (handle factor script).written = [] := by rw [handle_of_short factor short]
    constructor
    · rintro - ⟨enough, -⟩
      omega
    · intro _ fault _
      exact silent
  · -- Bytes that are long enough always hold a request, to which there is a response.
    have decoded := Request.decode_eq_ok enough
    have failing := exists_error_of_decode_iff decoded completes factor
    have silent := written_eq_nil_of_decode_iff decoded completes factor
    have failedAloud : (¬ ∀ fault, (handle factor script).outcome = .error fault →
          (handle factor script).written = []) ↔
        ((∃ room < 8, ∃ cause, StopsAfter room cause script.writes) ∨ script.flush ≠ none) ∧
          ¬ ∃ cause, StopsAfter 0 cause script.writes := by
      rw [← failing, ← silent]
      simp
    rw [← not_iff_not, not_not, failedAloud]
    constructor
    · rintro ⟨failed, something⟩
      refine ⟨enough, ?_⟩
      by_cases stops : ∃ room < 8, ∃ cause, StopsAfter room cause script.writes
      · obtain ⟨room, few, cause, stopped⟩ := stops
        have some : room ≠ 0 := by
          rintro rfl
          exact something ⟨cause, stopped⟩
        exact .inl ⟨room, cause, Nat.pos_of_ne_zero some, few, stopped⟩
      · -- All bytes are taken, so it is flushing that has failed.
        have unflushed := failed.resolve_left stops
        exact .inr ⟨fun room few cause stopped => stops ⟨room, few, cause, stopped⟩, unflushed⟩
    · rintro ⟨-, ⟨room, cause, some, few, stopped⟩ | ⟨never, unflushed⟩⟩
      · refine ⟨.inl ⟨room, few, cause, stopped⟩, ?_⟩
        rintro ⟨other, atOnce⟩
        obtain ⟨none, -⟩ := stopped.unique atOnce
        omega
      · refine ⟨.inr unflushed, ?_⟩
        rintro ⟨other, atOnce⟩
        exact never 0 (by omega) other atOnce

/-- A peer that is gone after three bytes has got them, and so has one whose stream takes the whole
response and then cannot be flushed. -/
theorem handle_failing_after_three_bytes :
    let request := Request.single 0x0807060504030201 (Delay.spin 0).toWord
    let broken : Script := {
      reads := [.data request.encode]
      writes := [.accept 3, .fail (.ofKind .brokenPipe)] }
    let unflushed : Script := {
      reads := [.data request.encode]
      flush := some (.ofKind .brokenPipe) }
    let factor : Factor := ⟨0x4059000000000000⟩
    ¬ (∀ fault, (handle factor broken).outcome = .error fault →
      (handle factor broken).written = []) ∧
    ¬ (∀ fault, (handle factor unflushed).outcome = .error fault →
      (handle factor unflushed).written = []) ∧
    (handle factor broken).outcome = .error (.write (.ofKind .brokenPipe)) ∧
    (handle factor broken).written = [1, 2, 3] := by
  -- In the first script the pipe breaks after three bytes, in the second all bytes are taken.
  intro request broken unflushed factor
  refine ⟨?_, ?_, by decide +kernel, by decide +kernel⟩
  · rw [handle_failing_silently_iff factor rfl, not_not]
    refine ⟨by decide +kernel, .inl ⟨3, .ofKind .brokenPipe, by decide, by decide, ?_⟩⟩
    exact ⟨[.accept 3], .fail (.ofKind .brokenPipe), [], rfl, by decide, rfl, rfl⟩
  · rw [handle_failing_silently_iff factor rfl, not_not]
    refine ⟨by decide +kernel, .inr ⟨?_, by decide⟩⟩
    rintro room - cause ⟨front, event, rest, split, -⟩
    simp [unflushed] at split

end LoadServer
