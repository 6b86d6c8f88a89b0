import LoadServer.Proofs.Wire.Packet

/-!
Packets and byte strings of their size are the same thing. Main statement: writing and reading undo
each other for requests and for responses, and bytes are refused for being too few only.
-/

namespace LoadServer

/-- Packets of one size that are written and read without loss in either direction. -/
structure IsCodec {Packet : Type} (size : Nat) (encode : Packet → Bytes)
    (decode : Bytes → Except Truncated Packet) : Prop where
  /-- Every packet is as long as the size says. -/
  length_encode (packet : Packet) : (encode packet).length = size
  /-- A packet is read back, whatever bytes follow it. -/
  decode_encode (packet : Packet) (rest : Bytes) : decode (encode packet ++ rest) = .ok packet
  /-- Bytes that are long enough hold a packet, which is written as the first of them. -/
  encode_decode (bytes : Bytes) (enough : size ≤ bytes.length) :
    ∃ packet, decode bytes = .ok packet ∧ encode packet = bytes.take size
  /-- Bytes that are too few are refused with both lengths. -/
  decode_short (bytes : Bytes) (short : bytes.length < size) :
    decode bytes = .error ⟨size, bytes.length⟩

/-- A codec matches its packets with the byte strings of their size, one to one. -/
theorem IsCodec.bijOn {Packet : Type} {size : Nat} {encode : Packet → Bytes}
    {decode : Bytes → Except Truncated Packet} (codec : IsCodec size encode decode) :
    Set.BijOn encode Set.univ {bytes | bytes.length = size} := by
  refine ⟨fun packet _ => codec.length_encode packet, ?_, ?_⟩
  · -- Two packets with the same bytes are both what these bytes are read as.
    intro packet _ other _ same
    have first := codec.decode_encode packet []
    have second := codec.decode_encode other []
    rw [same, second] at first
    exact (Except.ok.inj first).symm
  · -- A byte string of the size is written by the packet that it is read as.
    intro bytes exactly
    have length : bytes.length = size := exactly
    obtain ⟨packet, -, written⟩ := codec.encode_decode bytes length.ge
    rw [← length, List.take_length] at written
    exact ⟨packet, trivial, written⟩

namespace Request

/-- The request that is read from enough bytes is written as the first of them. -/
theorem exists_decode {bytes : Bytes} (enough : size ≤ bytes.length) :
    ∃ request, decode bytes = .ok request ∧ request.encode = bytes.take size := by
  refine ⟨_, decode_eq_ok enough, ?_⟩
  -- Each field is written as the bytes at its place, and the places follow one another.
  have long : 16 + 8 * maxDelays ≤ bytes.length := enough
  have count : signedBytes (signedAt bytes 0) = (bytes.drop 0).take 4 :=
    signedBytes_signedAt (by omega)
  have padding : signedBytes (signedAt bytes 4) = (bytes.drop 4).take 4 :=
    signedBytes_signedAt (by omega)
  have tag : wordBytes (wordAt bytes 8) = (bytes.drop 8).take 8 := wordBytes_wordAt (by omega)
  have delays := flatMap_wordAt long
  have parts : size = 4 + (4 + (8 + 8 * maxDelays)) := rfl
  rw [encode_eq, count, padding, tag, Vector.toList_ofFn, delays, parts]
  simp only [List.take_add, List.drop_drop, List.drop_zero]

/-- Requests are the byte strings of their size. -/
theorem isCodec : IsCodec size encode decode where
  -- Each law is a lemma about one of the two functions.
  length_encode := length_encode
  decode_encode := decode_encode_append
  encode_decode _ enough := exists_decode enough
  decode_short _ short := if_pos short

end Request

namespace Response

/-- Responses are the byte strings of their size. -/
theorem isCodec : IsCodec size encode decode where
  length_encode response := length_wordBytes response.tag
  decode_encode := decode_encode_append
  encode_decode bytes enough := by
    -- The tag has the eight bytes that it is read from.
    have tag : wordBytes (wordAt bytes 0) = (bytes.drop 0).take 8 := wordBytes_wordAt enough
    exact ⟨⟨wordAt bytes 0⟩, if_neg (Nat.not_lt.mpr enough), tag⟩
  decode_short _ short := if_pos short

end Response

/-- Requests are exactly the strings of 144 bytes and responses those of 8: each is read back from
its own bytes whatever follows them, all longer strings begin with one, and shorter ones are refused
with both lengths. -/
theorem packets_isCodec :
    (IsCodec 144 Request.encode Request.decode ∧
      Set.BijOn Request.encode Set.univ {bytes | bytes.length = 144}) ∧
    (IsCodec 8 Response.encode Response.decode ∧
      Set.BijOn Response.encode Set.univ {bytes | bytes.length = 8}) :=
  ⟨⟨Request.isCodec, Request.isCodec.bijOn⟩, ⟨Response.isCodec, Response.isCodec.bijOn⟩⟩

end LoadServer
