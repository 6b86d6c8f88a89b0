import LoadServer.Proofs.Wire.Layout

/-!
Requests written into fixed room. Main statement: the fields up to the first one that does not fit
are written whole, and every byte behind them stays as it was.
-/

namespace LoadServer

/-- Fields are written whole and in order until one does not fit into what is left of the room. -/
theorem exists_fillRoom (fields : List Bytes) (room : Bytes) :
    ∃ written unwritten, fields = written ++ unwritten ∧
      fillRoom fields room =
        (unwritten.isEmpty, written.flatten ++ room.drop written.flatten.length) ∧
      written.flatten.length ≤ room.length ∧
      ∀ field ∈ unwritten.head?, room.length < written.flatten.length + field.length := by
  -- The first field is written if it fits, and the others go into the room behind it.
  induction fields generalizing room with
  | nil => exact ⟨[], [], by simp [fillRoom]⟩
  | cons field fields ih =>
    by_cases fits : field.length ≤ room.length
    · obtain ⟨written, unwritten, rfl, filled, bounded, stops⟩ := ih (room.drop field.length)
      rw [List.length_drop] at bounded stops
      refine ⟨field :: written, unwritten, rfl, ?_, ?_, fun other member => ?_⟩
      · simp [fillRoom, fits, filled, List.drop_drop]
      · simp only [List.flatten_cons, List.length_append]
        omega
      · have beyond := stops other member
        simp only [List.flatten_cons, List.length_append]
        omega
    · refine ⟨[], field :: fields, rfl, by simp [fillRoom, fits], by simp, ?_⟩
      rintro other ⟨rfl⟩
      simpa using fits

namespace Request

namespace Field

/-- The fields in wire order. -/
def all : List Field :=
  count :: padding :: tag :: (List.finRange maxDelays).map delay

/-- The bytes that a field of a request is written as. -/
def bytes (request : Request) : Field → Bytes
  | count => signedBytes request.count
  | padding => signedBytes request.padding
  | tag => wordBytes request.tag
  | delay index => wordBytes (request.delays.get index)

/-- A field is written as many bytes as it is wide. -/
@[simp] theorem length_bytes (request : Request) (field : Field) :
    (field.bytes request).length = field.width := by
  -- Each field is written at its own width.
  cases field <;> simp [bytes, width]

/-- A field begins where the widths of the fields before it end. -/
theorem sum_width_eq_offset {before after : List Field} {field : Field}
    (split : all = before ++ field :: after) : (before.map width).sum = field.offset := by
  -- The field is told by how many fields stand before it.
  have places : ∀ index : Fin all.length, ((all.take index).map width).sum = all[index].offset := by
    decide +kernel
  have length : before.length < all.length := by
    rw [split, List.length_append, List.length_cons]
    omega
  have place := places ⟨before.length, length⟩
  simpa [split] using place

end Field

/-- A request is written field by field in wire order. -/
theorem fields_eq_map (request : Request) :
    request.fields = Field.all.map (Field.bytes request) := by
  -- The delays of a request are its fields from the fourth on.
  have delays : request.delays.toList = (List.finRange maxDelays).map request.delays.get := by
    apply List.ext_getElem <;> simp [Vector.get]
  simp [fields, Field.all, Field.bytes, delays, Function.comp_def]

/-- The fields that come first in wire order are written as the first bytes of the request. -/
theorem take_encode_of_split {before after : List Field} {field : Field} (request : Request)
    (split : Field.all = before ++ field :: after) :
    (before.map (Field.bytes request)).flatten = request.encode.take field.offset := by
  -- The widths of the fields before add up to the offset.
  have length : (before.map (Field.bytes request)).flatten.length = field.offset := by
    rw [← Field.sum_width_eq_offset split, List.length_flatten, List.map_map]
    congr 2
    exact funext (Field.length_bytes request)
  rw [encode, fields_eq_map, split, List.map_append, List.flatten_append, List.take_left' length]

/-- As many bytes of a request come before a field as its place tells. -/
theorem length_take_encode (request : Request) (field : Field) :
    (request.encode.take field.offset).length = field.offset := by
  -- The offset lies within the request.
  have last := field.offset_add_width_le
  rw [List.length_take, length_encode]
  omega

/-- A request that fits is written as a whole, and one that does not is written up to the first of
its fields that does not fit. -/
theorem encodeInto_cases (request : Request) (room : Bytes) :
    size ≤ room.length ∧ request.encodeInto room = (true, request.encode ++ room.drop size) ∨
      ∃ field : Field, field.offset ≤ room.length ∧ room.length < field.offset + field.width ∧
        request.encodeInto room =
          (false, request.encode.take field.offset ++ room.drop field.offset) := by
  obtain ⟨written, unwritten, split, filled, bounded, stops⟩ := exists_fillRoom request.fields room
  rw [fields_eq_map] at split
  obtain ⟨before, after, fields, rfl, rfl⟩ := List.map_eq_append_iff.mp split
  rw [encodeInto, filled]
  cases after with
  | nil =>
    -- All the fields are written.
    rw [List.append_nil] at fields
    have whole : (before.map (Field.bytes request)).flatten = request.encode := by
      rw [encode, fields_eq_map, fields]
    rw [whole, length_encode] at bounded ⊢
    exact .inl ⟨bounded, rfl⟩
  | cons field after =>
    have stop := stops _ rfl
    have front := take_encode_of_split request fields
    rw [front, length_take_encode] at bounded stop ⊢
    rw [Field.length_bytes] at stop
    exact .inr ⟨field, bounded, stop, rfl⟩

/-- A field that ends within the front of some bytes is found there. -/
theorem Field.part_append {field : Field} {front : Bytes}
    (inside : field.offset + field.width ≤ front.length) (rest : Bytes) :
    field.part (front ++ rest) = field.part front := by
  -- The part ends before the front does.
  unfold part
  rw [List.drop_append_of_le_length (by omega), List.take_append_of_le_length]
  rw [List.length_drop]
  omega

/-- Of a request that is written up to one of its fields, the fields before it are there as a whole,
and the others, with this one, not at all. -/
theorem part_of_written {field : Field} {room : Bytes} (request : Request)
    (bounded : field.offset ≤ room.length) (stop : room.length < field.offset + field.width)
    (other : Field) :
    other.part (request.encode.take field.offset ++ room.drop field.offset) =
      if other.offset + other.width ≤ room.length then other.part request.encode
      else other.part room := by
  have length := request.length_take_encode field
  by_cases earlier : other.offset + other.width ≤ field.offset
  · rw [if_pos (by omega), Field.part_append (by omega), Field.part, Field.part, List.drop_take,
      List.take_take, Nat.min_eq_left (by omega)]
  · -- It is the field that does not fit, or one behind it.
    have later : field.offset ≤ other.offset ∧ room.length < other.offset + other.width := by
      by_cases same : other = field
      · subst same
        exact ⟨le_refl _, stop⟩
      · have distance := Field.apart same
        omega
    have place : field.offset + (other.offset - field.offset) = other.offset := by omega
    rw [if_neg (by omega), Field.part, Field.part, List.drop_append,
      List.drop_eq_nil_of_le (by omega), List.nil_append, length, List.drop_drop, place]

/-- A field that does not fit, though it begins within the room, begins at the greatest place at
which any field does so. -/
theorem Field.isGreatest_offset {field : Field} {length : Nat} (bounded : field.offset ≤ length)
    (stop : length < field.offset + field.width) :
    IsGreatest {start | (∃ other : Field, other.offset = start) ∧ start ≤ length}
      field.offset := by
  refine ⟨⟨⟨field, rfl⟩, bounded⟩, ?_⟩
  rintro start ⟨⟨other, rfl⟩, inside⟩
  -- Another field ends before this one begins, or begins behind the end of the room.
  by_cases same : other = field
  · exact same ▸ le_refl _
  · have distance := Field.apart same
    omega

/-- A request is written into fixed room as a whole exactly if the room has 144 bytes. Otherwise it
is written up to the first field that does not fit, which begins at the greatest place within the
room at which any field does. Either way a field that ends within the room has been written as a
whole, and all other bytes are those that were there. -/
theorem encodeInto_room (request : Request) (room : Bytes) :
    let filled := request.encodeInto room
    (filled.1 = true ↔ 144 ≤ room.length) ∧
    (144 ≤ room.length → filled.2 = request.encode ++ room.drop 144) ∧
    (room.length < 144 → ∃ field : Field, room.length < field.offset + field.width ∧
      IsGreatest {start | (∃ other : Field, other.offset = start) ∧ start ≤ room.length}
        field.offset ∧
      filled.2 = request.encode.take field.offset ++ room.drop field.offset) ∧
    ∀ other : Field, other.part filled.2 =
      if other.offset + other.width ≤ room.length then other.part request.encode
      else other.part room := by
  -- Either there is room for the request, or some field is the first that does not fit.
  intro filled
  obtain ⟨enough, written⟩ | ⟨field, bounded, stop, written⟩ := request.encodeInto_cases room
  · have filling : filled = _ := written
    rw [filling]
    refine ⟨iff_of_true rfl enough, fun _ => rfl, fun short => absurd enough short.not_ge,
      fun other => ?_⟩
    have last := other.offset_add_width_le
    rw [if_pos (last.trans enough), Field.part_append (by rwa [length_encode])]
  · have filling : filled = _ := written
    have short : room.length < 144 := stop.trans_le field.offset_add_width_le
    rw [filling]
    exact ⟨iff_of_false Bool.false_ne_true short.not_ge, fun long => absurd long short.not_ge,
      fun _ => ⟨field, stop, Field.isGreatest_offset bounded stop, rfl⟩,
      part_of_written request bounded stop⟩

/-- Thirteen bytes of room end within the tag. -/
example : (single 7 9).encodeInto (List.replicate 13 0xEE) =
    (false, [1, 0, 0, 0, 0, 0, 0, 0] ++ List.replicate 5 0xEE) := by
  decide

end Request

end LoadServer
