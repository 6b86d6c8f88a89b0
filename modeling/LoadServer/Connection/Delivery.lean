import LoadServer.Connection.Script

/-!
What a stream delivers and takes before it first stops. Reading and writing depend on nothing
else: pauses, interruptions and the cuts between pieces leave no trace in what comes of them.
-/

namespace LoadServer

/-- The bytes that a stream delivers before it first stops. -/
def delivered : List ReadEvent → Bytes
  | [] => []
  | .pending :: rest => delivered rest
  | .fail fault :: rest => if fault.isInterruption then delivered rest else []
  | .data bytes :: rest => if bytes.isEmpty then [] else bytes ++ delivered rest

/-- Why a stream first stops delivering. -/
def deliveryStop : List ReadEvent → IoFault
  | [] => earlyEnd
  | .pending :: rest => deliveryStop rest
  | .fail fault :: rest => if fault.isInterruption then deliveryStop rest else fault
  | .data bytes :: rest => if bytes.isEmpty then earlyEnd else deliveryStop rest

/-- How many bytes a stream takes before it first stops, and why it stops, if it ever does. -/
def takingStop? : List WriteEvent → Option (Nat × IoFault)
  | [] => none
  | .pending :: rest => takingStop? rest
  | .fail fault :: rest => if fault.isInterruption then takingStop? rest else some (0, fault)
  | .accept room :: rest =>
    if room = 0 then some (0, .ofKind .writeZero)
    else (takingStop? rest).map fun (more, fault) => (room + more, fault)

/-- How many of some bytes a stream takes. -/
def takenOf (count : Nat) (writes : List WriteEvent) : Nat :=
  match takingStop? writes with
  | none => count
  | some (room, _) => min room count

/-- The bytes of an event. -/
def ReadEvent.bytes : ReadEvent → Bytes
  | .data bytes => bytes
  | .fail _ => []
  | .pending => []

/-- Whether reading goes on after an event. -/
def ReadEvent.goesOn : ReadEvent → Bool
  | .data bytes => !bytes.isEmpty
  | .fail fault => fault.isInterruption
  | .pending => true

/-- Whether writing goes on after an event. -/
def WriteEvent.goesOn : WriteEvent → Bool
  | .accept room => room != 0
  | .fail fault => fault.isInterruption
  | .pending => true

/-- A stream delivers all the bytes of events after which reading goes on. -/
theorem delivered_append {front : List ReadEvent} (going : ∀ event ∈ front, event.goesOn = true)
    (rest : List ReadEvent) :
    delivered (front ++ rest) = front.flatMap ReadEvent.bytes ++ delivered rest := by
  -- Each of these events either holds bytes or leaves no trace.
  induction front with
  | nil => rfl
  | cons event front ih =>
    have head := going event (by simp)
    have tail := ih fun other member => going other (by simp [member])
    cases event with
    | data bytes =>
      have full : bytes.isEmpty = false := by simpa [ReadEvent.goesOn] using head
      simp [delivered, full, tail, ReadEvent.bytes]
    | fail fault =>
      have again : fault.isInterruption = true := head
      simp [delivered, again, tail, ReadEvent.bytes]
    | pending => simp [delivered, tail, ReadEvent.bytes]

/-- A stream never stops taking bytes as long as writing goes on after its events. -/
theorem takingStop?_eq_none {writes : List WriteEvent}
    (going : ∀ event ∈ writes, event.goesOn = true) : takingStop? writes = none := by
  -- Each event that goes on hands the search over to the rest of the stream.
  induction writes with
  | nil => rfl
  | cons event writes ih =>
    have head := going event (by simp)
    have tail := ih fun other member => going other (by simp [member])
    cases event with
    | accept room =>
      have someRoom : room ≠ 0 := by simpa [WriteEvent.goesOn] using head
      simp [takingStop?, someRoom, tail]
    | fail fault =>
      have again : fault.isInterruption = true := head
      simp [takingStop?, again, tail]
    | pending => simp [takingStop?, tail]

/-- Reading takes what is delivered, as far as it is asked for. -/
theorem taken_readExact (need : Nat) (reads : List ReadEvent) :
    (readExact need reads).taken = (delivered reads).take need := by
  -- One event at a time, with less to ask for after every piece of data.
  fun_induction readExact need reads with
  | case1 need => simp [delivered]
  | case2 event rest => simp
  | case3 need rest asked ih => simpa [delivered] using ih
  | case4 need rest asked fault again ih => simpa [delivered, again] using ih
  | case5 need rest asked fault final => simp [delivered, final]
  | case6 need rest asked bytes empty => simp [delivered, empty]
  | case7 need rest asked bytes full more =>
    simp [delivered, full, List.take_append_of_le_length (Nat.le_of_lt more)]
  | case8 need rest asked bytes full fits more ih =>
    simp [delivered, full, more, ih, List.take_append,
      List.take_of_length_le (Nat.le_of_not_lt fits)]

/-- Reading fails as the stream stops, unless all that is asked for comes before that. -/
theorem fault_readExact (need : Nat) (reads : List ReadEvent) :
    (readExact need reads).fault =
      if need ≤ (delivered reads).length then none else some (deliveryStop reads) := by
  -- The same walk: what is still asked for and what is still delivered shrink together.
  fun_induction readExact need reads with
  | case1 need => by_cases none : need = 0 <;> simp [delivered, deliveryStop, none]
  | case2 event rest => simp
  | case3 need rest asked ih => rw [ih, delivered, deliveryStop]
  | case4 need rest asked fault again ih => simp only [ih, delivered, deliveryStop, if_pos again]
  | case5 need rest asked fault final => simp [delivered, deliveryStop, final, asked]
  | case6 need rest asked bytes empty => simp [delivered, deliveryStop, empty, asked]
  | case7 need rest asked bytes full more =>
    have enough : need ≤ bytes.length + (delivered rest).length := by omega
    simp [delivered, full, enough]
  | case8 need rest asked bytes full fits more ih =>
    have same : need - bytes.length ≤ (delivered rest).length ↔
        need ≤ bytes.length + (delivered rest).length := by omega
    simp [delivered, deliveryStop, full, more, ih, same]

/-- Reading loses no byte: what is taken and what is left make up what was there. -/
theorem length_taken_add_dataLength (need : Nat) (reads : List ReadEvent) :
    (readExact need reads).taken.length + dataLength (readExact need reads).rest =
      dataLength reads := by
  -- Only pieces of data hold bytes, and each is taken, split or left whole.
  fun_induction readExact need reads with
  | case1 need => simp [dataLength]
  | case2 event rest => simp
  | case3 need rest asked ih => simpa [dataLength] using ih
  | case4 need rest asked fault again ih => simpa [dataLength] using ih
  | case5 need rest asked fault final => simp [dataLength]
  | case6 need rest asked bytes empty => simp_all [dataLength]
  | case7 need rest asked bytes full more =>
    simp only [dataLength, List.length_take, List.length_drop]
    omega
  | case8 need rest asked bytes full fits more ih =>
    simp only [dataLength, List.length_append, more, ← ih]
    omega

/-- Writing gives the stream a beginning of the bytes, as long as the stream takes. -/
theorem written_writeAll (bytes : Bytes) (writes : List WriteEvent) :
    (writeAll bytes writes).written = bytes.take (takenOf bytes.length writes) := by
  -- Every write takes the front of what is left and leaves the rest to the next one.
  fun_induction writeAll bytes writes with
  | case1 bytes empty => simp_all
  | case2 bytes full => simp [takenOf, takingStop?]
  | case3 bytes event rest empty => simp_all
  | case4 bytes rest full ih => simpa [takenOf, takingStop?] using ih
  | case5 bytes rest full fault again ih => simpa [takenOf, takingStop?, again] using ih
  | case6 bytes rest full fault final => simp [takenOf, takingStop?, final]
  | case7 bytes rest full => simp [takenOf, takingStop?]
  | case8 bytes rest full room some taken more ih =>
    have front := List.take_append_drop room bytes
    cases stop : takingStop? rest with
    | none =>
      simp [more, taken, ih, takenOf, takingStop?, some, stop, List.take_of_length_le]
    | some found =>
      obtain ⟨left, fault⟩ := found
      simp only [more, taken, ih, takenOf, takingStop?, some, stop, if_false, Option.map_some,
        List.length_drop]
      rcases Nat.le_total bytes.length room with all | part
      · simp [List.take_of_length_le all, List.drop_of_length_le all,
          Nat.min_eq_right (Nat.le_add_right_of_le all)]
      · rw [← List.take_add]
        congr 1
        omega

/-- Writing fails as the stream stops, unless everything is taken before that. -/
theorem fault_writeAll (bytes : Bytes) (writes : List WriteEvent) :
    (writeAll bytes writes).fault =
      match takingStop? writes with
      | none => none
      | some (room, fault) => if bytes.length ≤ room then none else some fault := by
  -- A write that takes everything ends before the events that follow it can matter.
  fun_induction writeAll bytes writes with
  | case1 bytes empty => simp [takingStop?]
  | case2 bytes full => simp [takingStop?]
  | case3 bytes event rest empty =>
    cases takingStop? (event :: rest) with
    | none => rfl
    | some found => simp_all
  | case4 bytes rest full ih => simpa [takingStop?] using ih
  | case5 bytes rest full fault again ih => simpa [takingStop?, again] using ih
  | case6 bytes rest full fault final => simp_all [takingStop?]
  | case7 bytes rest full => simp_all [takingStop?]
  | case8 bytes rest full room some taken more ih =>
    simp only [more, ih, takingStop?, some, if_false, List.length_drop]
    cases stop : takingStop? rest with
    | none => rfl
    | some found =>
      have same : bytes.length - room ≤ found.1 ↔ bytes.length ≤ room + found.1 := by omega
      simp [same]

end LoadServer
