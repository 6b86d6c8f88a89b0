import LoadServer.Proofs.Wire.LittleEndian
import LoadServer.Wire.Packet

/-! Packets read back as they were written, whatever bytes follow them. -/

namespace LoadServer

/-- An unsigned field has eight bytes. -/
@[simp] theorem length_wordBytes (word : UInt64) : (wordBytes word).length = 8 :=
  LittleEndian.length_encode 8 _

/-- A signed field has four bytes. -/
@[simp] theorem length_signedBytes (number : Int32) : (signedBytes number).length = 4 :=
  LittleEndian.length_encode 4 _

/-- An unsigned field is read back at the place where it stands. -/
theorem wordAt_append (front rest : Bytes) (word : UInt64) :
    wordAt (front ++ (wordBytes word ++ rest)) front.length = word := by
  -- Eight bytes hold every number of the type, so nothing is lost in them.
  have field : ((front ++ (wordBytes word ++ rest)).drop front.length).take 8 = wordBytes word := by
    rw [List.drop_left, List.take_left' (length_wordBytes word)]
  have whole : word.toNat % 256 ^ 8 = word.toNat := Nat.mod_eq_of_lt word.toNat_lt
  rw [wordAt, field, wordBytes, LittleEndian.decode_encode, whole, UInt64.ofNat_toNat]

/-- A signed field is read back at the place where it stands. -/
theorem signedAt_append (front rest : Bytes) (number : Int32) :
    signedAt (front ++ (signedBytes number ++ rest)) front.length = number := by
  -- The four bytes are those of the two's complement, from which the sign comes back.
  have field : ((front ++ (signedBytes number ++ rest)).drop front.length).take 4 =
      signedBytes number := by
    rw [List.drop_left, List.take_left' (length_signedBytes number)]
  have whole : number.toUInt32.toNat % 256 ^ 4 = number.toUInt32.toNat :=
    Nat.mod_eq_of_lt number.toUInt32.toNat_lt
  rw [signedAt, field, signedBytes, LittleEndian.decode_encode, whole]
  have word : (Int32.ofNat number.toUInt32.toNat).toUInt32 = number.toUInt32 := by
    rw [Int32.toUInt32_ofNat', UInt32.ofNat_toNat]
  rw [← Int32.toInt32_toUInt32 (Int32.ofNat _), word, Int32.toInt32_toUInt32]

/-- An unsigned field is the number that its eight bytes stand for. -/
theorem toNat_wordAt {bytes : Bytes} {offset : Nat} (inside : offset + 8 ≤ bytes.length) :
    (wordAt bytes offset).toNat = LittleEndian.valueAt bytes offset 8 := by
  -- Eight bytes count less than the words of the type, so none of them is lost.
  rw [wordAt, LittleEndian.decode_take_drop inside]
  exact UInt64.toNat_ofNat_of_lt (LittleEndian.valueAt_lt inside)

/-- The bits of a signed field are the number that its four bytes stand for. -/
theorem toNat_signedAt {bytes : Bytes} {offset : Nat} (inside : offset + 4 ≤ bytes.length) :
    (signedAt bytes offset).toUInt32.toNat = LittleEndian.valueAt bytes offset 4 := by
  -- A number of four bytes is below the bound of 32 bits, so nothing of it is lost.
  rw [signedAt, LittleEndian.decode_take_drop inside, Int32.toUInt32_ofNat',
    UInt32.toNat_ofNat_of_lt' (LittleEndian.valueAt_lt inside)]

/-- Writing the field that is read at a place gives the bytes that stand there. -/
theorem wordBytes_wordAt {bytes : Bytes} {offset : Nat} (inside : offset + 8 ≤ bytes.length) :
    wordBytes (wordAt bytes offset) = (bytes.drop offset).take 8 := by
  -- The word is written at the width it was read at.
  rw [wordBytes, toNat_wordAt inside, LittleEndian.encode_valueAt inside]

/-- The same holds for a signed field. -/
theorem signedBytes_signedAt {bytes : Bytes} {offset : Nat} (inside : offset + 4 ≤ bytes.length) :
    signedBytes (signedAt bytes offset) = (bytes.drop offset).take 4 := by
  -- The number is written at the width it was read at.
  rw [signedBytes, toNat_signedAt inside, LittleEndian.encode_valueAt inside]

/-- Several unsigned fields in a row are written as the bytes that they are read from. -/
theorem flatMap_wordAt {bytes : Bytes} {offset count : Nat}
    (inside : offset + 8 * count ≤ bytes.length) :
    (List.ofFn fun index : Fin count => wordAt bytes (offset + 8 * index.val)).flatMap wordBytes =
      (bytes.drop offset).take (8 * count) := by
  -- The first field takes its eight bytes, and the others start behind them.
  induction count generalizing offset with
  | zero => simp
  | succ count ih =>
    have behind := @ih (offset + 8) (by omega)
    have places (index : Fin count) :
        wordAt bytes (offset + 8 * index.succ.val) = wordAt bytes (offset + 8 + 8 * index.val) := by
      congr 1
      rw [Fin.val_succ]
      omega
    have split : 8 * (count + 1) = 8 + 8 * count := by omega
    rw [List.ofFn_succ, List.flatMap_cons, funext places, behind, split, List.take_add,
      List.drop_drop]
    congr 1
    exact wordBytes_wordAt (by omega)

/-- Bytes behind an unsigned field have no influence on it. -/
theorem wordAt_take {offset length : Nat} (inside : offset + 8 ≤ length) (bytes : Bytes) :
    wordAt (bytes.take length) offset = wordAt bytes offset := by
  -- The eight bytes read lie before the cut.
  rw [wordAt, wordAt, List.drop_take, List.take_take, Nat.min_eq_left (by omega)]

/-- Bytes behind a signed field have no influence on it. -/
theorem signedAt_take {offset length : Nat} (inside : offset + 4 ≤ length) (bytes : Bytes) :
    signedAt (bytes.take length) offset = signedAt bytes offset := by
  -- The four bytes read lie before the cut.
  rw [signedAt, signedAt, List.drop_take, List.take_take, Nat.min_eq_left (by omega)]

/-- One of several unsigned fields in a row is read back by its position. -/
theorem wordAt_flatMap (front rest : Bytes) (words : List UInt64) (index : Nat)
    (inside : index < words.length) :
    wordAt (front ++ (words.flatMap wordBytes ++ rest)) (front.length + 8 * index) =
      words[index] := by
  -- Each field before the wanted one moves the place by its eight bytes.
  induction words generalizing front index with
  | nil => simp at inside
  | cons word words ih =>
    cases index with
    | zero => simpa using wordAt_append front (words.flatMap wordBytes ++ rest) word
    | succ index =>
      have tail := ih (front ++ wordBytes word) index (by simpa using inside)
      have place : (front ++ wordBytes word).length + 8 * index =
          front.length + 8 * (index + 1) := by
        rw [List.length_append, length_wordBytes]
        omega
      rw [place] at tail
      simpa using tail

namespace Request

/-- A request is written field by field in wire order. -/
theorem encode_eq (request : Request) :
    request.encode = signedBytes request.count ++ (signedBytes request.padding ++
      (wordBytes request.tag ++ request.delays.toList.flatMap wordBytes)) := by
  -- The fields follow each other without a gap.
  simp [encode, fields, List.flatMap_def]

/-- Every request has the same encoded size. -/
@[simp] theorem length_encode (request : Request) : request.encode.length = size := by
  -- Two short fields, the tag, and one word for each delay.
  have delays : request.delays.toList.length = maxDelays := Vector.length_toList
  have total : request.encode.length = 4 + (4 + (8 + request.delays.toList.length * 8)) := by
    simp [encode_eq]
  rw [total, delays]
  rfl

/-- A request is read back from its bytes, whatever follows them. -/
theorem decode_encode_append (request : Request) (rest : Bytes) :
    decode (request.encode ++ rest) = .ok request := by
  -- Each field is found behind the fields before it, whose lengths add up to its place.
  have enough : ¬ (request.encode ++ rest).length < size := by
    rw [List.length_append, length_encode]
    omega
  have count : signedAt (request.encode ++ rest) 0 = request.count := by
    simpa [encode_eq] using signedAt_append [] _ request.count
  have padding : signedAt (request.encode ++ rest) 4 = request.padding := by
    simpa [encode_eq] using signedAt_append (signedBytes request.count) _ request.padding
  have tag : wordAt (request.encode ++ rest) 8 = request.tag := by
    simpa [encode_eq] using
      wordAt_append (signedBytes request.count ++ signedBytes request.padding) _ request.tag
  have delays : (Vector.ofFn fun index : Fin maxDelays =>
      wordAt (request.encode ++ rest) (16 + 8 * index.val)) = request.delays := by
    apply Vector.ext
    intro index inside
    have found := wordAt_flatMap (signedBytes request.count ++ signedBytes request.padding ++
      wordBytes request.tag) rest request.delays.toList index (by simpa using inside)
    simpa [encode_eq] using found
  rw [decode, if_neg enough, count, padding, tag, delays]

/-- A request can be read exactly from bytes that are long enough. -/
theorem decode_eq_ok {bytes : Bytes} (enough : size ≤ bytes.length) :
    decode bytes = .ok {
      count := signedAt bytes 0
      padding := signedAt bytes 4
      tag := wordAt bytes 8
      delays := Vector.ofFn fun index => wordAt bytes (16 + 8 * index.val) } := by
  -- The length is the only thing that is checked.
  rw [decode, if_neg (Nat.not_lt.mpr enough)]

/-- Only bytes that are long enough hold a request. -/
theorem size_le_of_decode {bytes : Bytes} {request : Request}
    (decoded : decode bytes = .ok request) : size ≤ bytes.length := by
  -- A shorter byte string is refused.
  by_contra short
  simp [decode, Nat.lt_of_not_le short] at decoded

/-- Only the bytes of its own size have an influence on a request. -/
theorem decode_take {bytes : Bytes} (enough : size ≤ bytes.length) :
    decode (bytes.take size) = decode bytes := by
  -- Every field ends within the size.
  have whole : size ≤ (bytes.take size).length := by
    rw [List.length_take]
    omega
  have delays (index : Fin maxDelays) :
      wordAt (bytes.take size) (16 + 8 * index.val) = wordAt bytes (16 + 8 * index.val) := by
    have last : index.val < 16 := index.isLt
    exact wordAt_take (by simp only [size, maxDelays]; omega) bytes
  rw [decode_eq_ok whole, decode_eq_ok enough, signedAt_take (by decide), signedAt_take (by decide),
    wordAt_take (by decide)]
  simp only [delays]

end Request

namespace Response

/-- A response is read back from its bytes, whatever follows them. -/
theorem decode_encode_append (response : Response) (rest : Bytes) :
    decode (response.encode ++ rest) = .ok response := by
  -- The tag is the only field, and it stands at the very front.
  have enough : ¬ (response.encode ++ rest).length < size := by simp [encode, size]
  have tag : wordAt (response.encode ++ rest) 0 = response.tag := wordAt_append [] rest _
  rw [decode, if_neg enough, tag]

/-- A response is read back from its bytes alone. -/
theorem decode_encode (response : Response) : decode response.encode = .ok response := by
  simpa using decode_encode_append response []

end Response

end LoadServer
