import LoadServer.Proofs.Wire.Codec
import LoadServer.Wire.Buffer

/-!
The place of every field in the bytes of a request. Main statement: each field is the number that
the bytes at its place stand for, so that bytes overwritten there change this field alone.
-/

namespace LoadServer

open LittleEndian

/-- The number that 32 bits stand for in two's complement. -/
def twosComplement (value : Nat) : Int :=
  if value < 2 ^ 31 then value else value - 2 ^ 32

/-- Different values of 32 bits stand for different numbers. -/
theorem twosComplement_inj {value other : Nat} (bound : value < 256 ^ 4)
    (otherBound : other < 256 ^ 4) :
    twosComplement other = twosComplement value ↔ other = value := by
  -- Below half of the bound a number stands for itself, and from there on for a negative one.
  unfold twosComplement
  split <;> split <;> omega

/-- A signed field is the number that its four bytes stand for in two's complement. -/
theorem toInt_signedAt {bytes : Bytes} {offset : Nat} (inside : offset + 4 ≤ bytes.length) :
    (signedAt bytes offset).toInt = twosComplement (valueAt bytes offset 4) := by
  -- Below the middle of the range both are the value itself, and a whole turn less from there on.
  have bound := valueAt_lt inside
  rw [signedAt, decode_take_drop inside, Int32.toInt_ofNat', Int.bmod_def, twosComplement]
  simp only [Int32.size]
  split <;> split <;> omega

namespace Request

/-- The fields of a request. -/
inductive Field where
  | count
  | padding
  | tag
  | delay (index : Fin maxDelays)
  deriving DecidableEq, Repr

namespace Field

/-- Where a field begins. -/
def offset : Field → Nat
  | count => 0
  | padding => 4
  | tag => 8
  | delay index => 16 + 8 * index.val

/-- How many bytes a field has. -/
def width : Field → Nat
  | count => 4
  | padding => 4
  | tag => 8
  | delay _ => 8

/-- The number that a request has in a field. -/
def number (request : Request) : Field → Int
  | count => request.count.toInt
  | padding => request.padding.toInt
  | tag => request.tag.toNat
  | delay index => request.delays[index.val].toNat

/-- The number that bytes hold at the place of a field: the counts are signed. -/
def numberIn (bytes : Bytes) (field : Field) : Int :=
  match field with
  | count | padding => twosComplement (valueAt bytes field.offset field.width)
  | tag | delay _ => valueAt bytes field.offset field.width

/-- The bytes at the place of a field. -/
def part (bytes : Bytes) (field : Field) : Bytes :=
  (bytes.drop field.offset).take field.width

/-- Every field ends within a request. -/
theorem offset_add_width_le (field : Field) : field.offset + field.width ≤ size := by
  -- The last delay ends with the request.
  cases field with
  | delay index =>
    have last : index.val < 16 := index.isLt
    simp only [offset, width, size, maxDelays]
    omega
  | _ => decide

/-- Two fields stand at places that have no byte in common. -/
theorem apart {field other : Field} (different : other ≠ field) :
    other.offset + other.width ≤ field.offset ∨ field.offset + field.width ≤ other.offset := by
  -- Delay words are eight bytes apart, and the other fields stand before them.
  cases field <;> cases other <;> simp_all only [offset, width, ne_eq, not_true_eq_false]
  all_goals try omega
  next index later =>
    have distinct : later.val ≠ index.val := fun same => different (congrArg delay (Fin.ext same))
    omega

/-- The number at the place of a field determines the bytes there. -/
theorem numberIn_inj {bytes other : Bytes} (enough : size ≤ bytes.length)
    (otherEnough : size ≤ other.length) (field : Field) :
    field.numberIn other = field.numberIn bytes ↔ field.part other = field.part bytes := by
  -- The signed fields are told apart like the numbers that their bytes stand for.
  have inside := field.offset_add_width_le.trans enough
  have otherInside := field.offset_add_width_le.trans otherEnough
  unfold part
  rw [← valueAt_inj inside otherInside]
  cases field with
  | count => exact twosComplement_inj (valueAt_lt inside) (valueAt_lt otherInside)
  | padding => exact twosComplement_inj (valueAt_lt inside) (valueAt_lt otherInside)
  | tag => exact Nat.cast_inj
  | delay index => exact Nat.cast_inj

end Field

/-- A request that is read has in each field the number that the bytes hold there. -/
theorem number_of_decode {bytes : Bytes} {request : Request}
    (decoded : decode bytes = .ok request) (field : Field) :
    field.number request = field.numberIn bytes := by
  -- Each field is read at its own place.
  have enough := size_le_of_decode decoded
  have inside := field.offset_add_width_le.trans enough
  rw [decode_eq_ok enough] at decoded
  cases decoded
  cases field with
  | count => exact toInt_signedAt inside
  | padding => exact toInt_signedAt inside
  | tag => exact congrArg Nat.cast (toNat_wordAt inside)
  | delay index =>
    simp only [Field.number, Vector.getElem_ofFn]
    exact congrArg Nat.cast (toNat_wordAt inside)

end Request

namespace PacketBuffer

/-- Overwriting moves nothing: as many bytes are held afterwards. -/
@[simp] theorem length_overwrite (held : Bytes) (offset : Nat) (change : Bytes) :
    (overwrite held offset change).length = held.length := by
  -- Only places that exist are overwritten.
  simp only [overwrite, List.length_append, List.length_take, List.length_drop]
  omega

/-- Bytes outside of the overwritten ones stay as they are. -/
theorem getElem?_overwrite {held change : Bytes} {offset index : Nat}
    (outside : index < offset ∨ offset + change.length ≤ index) :
    (overwrite held offset change)[index]? = held[index]? := by
  simp only [overwrite, List.getElem?_append, List.getElem?_take, List.getElem?_drop,
    List.length_append, List.length_take, List.length_drop]
  split
  · next early =>
    -- The byte stands before the overwritten ones, or none is there.
    split
    · next kept => rw [if_pos (by omega)]
    · next behind => omega
  · next late =>
    -- The byte stands behind the overwritten ones, or none is there.
    by_cases present : index < held.length
    · congr 1
      omega
    · rw [List.getElem?_eq_none (by omega), List.getElem?_eq_none (by omega)]

/-- Bytes that end before the overwritten ones or begin behind them stay as they are. -/
theorem take_drop_overwrite {held change : Bytes} {offset start count : Nat}
    (outside : start + count ≤ offset ∨ offset + change.length ≤ start) :
    ((overwrite held offset change).drop start).take count = (held.drop start).take count := by
  -- The two sides are compared byte by byte.
  apply List.ext_getElem?
  intro index
  simp only [List.getElem?_take, List.getElem?_drop]
  split
  · exact getElem?_overwrite (by omega)
  · rfl

/-- Bytes are the same after overwriting if those are that enclose the overwritten ones. -/
theorem overwrite_eq_iff {held change : Bytes} {offset start count : Nat}
    (first : start ≤ offset) (last : offset + change.length ≤ start + count) :
    overwrite held offset change = held ↔
      ((overwrite held offset change).drop start).take count = (held.drop start).take count := by
  refine ⟨fun same => by rw [same], fun same => ?_⟩
  apply List.ext_getElem?
  intro index
  by_cases outside : index < offset ∨ offset + change.length ≤ index
  · exact getElem?_overwrite outside
  · -- A byte that is overwritten is one of the enclosing bytes.
    have inside : index - start < count := by omega
    have place : start + (index - start) = index := by omega
    have byte := congrArg (fun bytes : Bytes => bytes[index - start]?) same
    simpa only [List.getElem?_take, List.getElem?_drop, if_pos inside, place] using byte

end PacketBuffer

namespace Request

open PacketBuffer

/-- Overwriting bytes at the place of a field gives a request that differs in this field alone, and
in this one as soon as any byte is another one. -/
theorem exists_decode_overwrite {bytes : Bytes} {request : Request}
    (decoded : decode bytes = .ok request) {field : Field} {offset : Nat} {change : Bytes}
    (first : field.offset ≤ offset)
    (last : offset + change.length ≤ field.offset + field.width) :
    ∃ changed, decode (overwrite bytes offset change) = .ok changed ∧
      (∀ other, other ≠ field → other.number changed = other.number request) ∧
      (field.number changed = field.number request ↔ overwrite bytes offset change = bytes) := by
  have enough := size_le_of_decode decoded
  have changedEnough : size ≤ (overwrite bytes offset change).length := by
    rwa [length_overwrite]
  obtain ⟨changed, changedDecoded, -⟩ := exists_decode changedEnough
  refine ⟨changed, changedDecoded, fun other different => ?_, ?_⟩
  · -- The place of another field has no byte in common with the overwritten ones.
    have distance := Field.apart different
    rw [number_of_decode changedDecoded, number_of_decode decoded,
      Field.numberIn_inj enough changedEnough]
    exact take_drop_overwrite (by omega)
  · rw [number_of_decode changedDecoded, number_of_decode decoded,
      Field.numberIn_inj enough changedEnough]
    exact (overwrite_eq_iff first last).symm

/-- Overwriting bytes behind a request changes nothing of it. -/
theorem decode_overwrite_behind {bytes : Bytes} (enough : size ≤ bytes.length) {offset : Nat}
    (behind : size ≤ offset) (change : Bytes) :
    decode (overwrite bytes offset change) = decode bytes := by
  -- Only the bytes of its own size have an influence on a request.
  have same : (overwrite bytes offset change).take size = bytes.take size := by
    simpa using @take_drop_overwrite bytes change offset 0 size (.inl (by omega))
  have changedEnough : size ≤ (overwrite bytes offset change).length := by
    rwa [length_overwrite]
  rw [← decode_take enough, ← decode_take changedEnough, same]

/-- Requests and bytes agree field by field: a request is written as bytes that hold its numbers at
their places, and read from all longer bytes as the numbers that they hold there. Bytes overwritten
at the place of one field change this field and no other, and bytes overwritten behind the last
field change none. -/
theorem numbers_at_places :
    (∀ request : Request, request.encode.length = 144 ∧
      ∀ field : Field, field.number request = field.numberIn request.encode) ∧
    ∀ bytes : Bytes, 144 ≤ bytes.length → ∃ request, decode bytes = .ok request ∧
      (∀ field : Field, field.number request = field.numberIn bytes) ∧
      request.encode = bytes.take 144 ∧
      (∀ (field : Field) (offset : Nat) (change : Bytes), field.offset ≤ offset →
        offset + change.length ≤ field.offset + field.width →
        ∃ changed, decode (overwrite bytes offset change) = .ok changed ∧
          (∀ other, other ≠ field → other.number changed = other.number request) ∧
          (field.number changed = field.number request ↔
            overwrite bytes offset change = bytes)) ∧
      ∀ (offset : Nat) (change : Bytes), 144 ≤ offset →
        decode (overwrite bytes offset change) = .ok request := by
  refine ⟨fun request => ⟨length_encode request, fun field => ?_⟩, fun bytes enough => ?_⟩
  · -- A request is read back from its own bytes.
    have decoded := decode_encode_append request []
    rw [List.append_nil] at decoded
    exact number_of_decode decoded field
  · obtain ⟨request, decoded, written⟩ := exists_decode enough
    refine ⟨request, decoded, number_of_decode decoded, written, fun field offset change => ?_,
      fun offset change behind => ?_⟩
    · exact exists_decode_overwrite decoded
    · rw [decode_overwrite_behind enough behind, decoded]

end Request

end LoadServer
