import LoadServer.Proofs.Connection.Reading

/-!
The fields of a request that are carried and not acted upon. Main statement: two whole requests are
served alike exactly if their tags and their first delay words agree, whatever stands in their other
fields and behind them, and however their bytes are cut.
-/

namespace LoadServer

/-- A word has bytes of its own. -/
theorem wordBytes_injective : Function.Injective wordBytes := by
  -- A word is read back from its bytes.
  intro word other same
  have first := wordAt_append [] [] word
  rw [same] at first
  exact first.symm.trans (wordAt_append [] [] other)

namespace Request

/-- Every request has a delay word. -/
theorem maxDelays_pos : 0 < maxDelays := by
  decide

/-- The first delay word of a request. -/
def firstWord (request : Request) : UInt64 :=
  request.delays.get ⟨0, maxDelays_pos⟩

/-- A request asks for the delay of its first delay word. -/
theorem delay_eq_ofWord (request : Request) : request.delay = Delay.ofWord request.firstWord :=
  rfl

/-- Two requests ask for the same delay exactly if their first delay words agree. -/
theorem delay_eq_iff {request other : Request} :
    other.delay = request.delay ↔ other.firstWord = request.firstWord :=
  -- Different words ask for different delays.
  Delay.ofWord_injective.eq_iff

/-- The sixteen bytes behind the first eight are those of the tag and the first delay word. -/
theorem tag_delay_bytes {bytes : Bytes} {request : Request}
    (decoded : decode bytes = .ok request) :
    (bytes.drop 8).take 16 = wordBytes request.tag ++ wordBytes request.firstWord := by
  -- Only bytes that are long enough decode, and they do so field by field.
  have enough := size_le_of_decode decoded
  have long : 144 ≤ bytes.length := enough
  rw [decode_eq_ok enough] at decoded
  cases decoded
  have tag : wordBytes (wordAt bytes 8) = (bytes.drop 8).take 8 := wordBytes_wordAt (by omega)
  have delay : wordBytes (wordAt bytes 16) = (bytes.drop 16).take 8 := wordBytes_wordAt (by omega)
  have first : (Vector.ofFn fun index : Fin maxDelays => wordAt bytes (16 + 8 * index.val)).get
      ⟨0, by decide⟩ = wordAt bytes 16 := by
    simp [Vector.get]
    rfl
  have parts : (bytes.drop 8).take (8 + 8) =
      (bytes.drop 8).take 8 ++ ((bytes.drop 8).drop 8).take 8 := List.take_add
  rw [List.drop_drop] at parts
  rw [firstWord, first, tag, delay]
  exact parts

/-- Requests that agree in the tag and in the first delay word are those whose bytes agree there. -/
theorem tag_delay_bytes_eq_iff {bytes more : Bytes} {request other : Request}
    (decoded : decode bytes = .ok request) (otherDecoded : decode more = .ok other) :
    (more.drop 8).take 16 = (bytes.drop 8).take 16 ↔
      other.tag = request.tag ∧ other.firstWord = request.firstWord := by
  -- Both fields are eight bytes wide, so the bytes of the one never run into the other.
  have width : (wordBytes other.tag).length = (wordBytes request.tag).length := by simp
  rw [tag_delay_bytes decoded, tag_delay_bytes otherDecoded]
  constructor
  · intro same
    obtain ⟨tag, word⟩ := List.append_inj same width
    exact ⟨wordBytes_injective tag, wordBytes_injective word⟩
  · rintro ⟨tag, word⟩
    rw [tag, word]

end Request

/-- Two requests are responded to alike exactly if they agree in the tag and in the delay. -/
theorem respond_alike_iff (factor : Factor) (request other : Request) (unread left : Nat)
    (sequel : Sequel) :
    { respond factor other left sequel with unread := unread } =
        respond factor request unread sequel ↔
      other.tag = request.tag ∧ other.delay = request.delay := by
  constructor
  · -- The report tells the tag and the delay of the request.
    intro alike
    have log := congrArg Handling.log alike
    simpa [log_respond] using log
  · -- Nothing else of the request is looked at.
    rintro ⟨tag, delay⟩
    rw [← respond_unread factor request unread left]
    simp only [respond, reply, Response.ofRequest, tag, delay]

/-- On streams that take alike, and with the same outcome of a task, two whole requests give the
same outcome, the same bytes sent in the same steps, the same time spent and the same report,
exactly if they agree in the tag and in the first delay word, which is to say in the sixteen bytes
behind the first eight. The other fields, the bytes behind a request and the cuts between its pieces
have no influence. -/
theorem handle_alike_iff {script other : Script} {request twin : Request}
    (decoded : Request.decode (arrived script.reads) = .ok request)
    (otherDecoded : Request.decode (arrived other.reads) = .ok twin)
    (sequel : other.toSequel = script.toSequel) (factor : Factor) :
    let served := handle factor script
    let alike := { handle factor other with unread := served.unread } = served
    let acted (stream : Script) := ((arrived stream.reads).drop 8).take 16
    (alike ↔ twin.tag = request.tag ∧ twin.firstWord = request.firstWord) ∧
    (alike ↔ acted other = acted script) := by
  -- Both handlers respond to their requests, and a response tells the tag and the delay.
  intro served alike acted
  have fields : alike ↔ twin.tag = request.tag ∧ twin.firstWord = request.firstWord := by
    rw [← delivered_eq_arrived] at decoded otherDecoded
    rw [← Request.delay_eq_iff]
    simp only [alike, served, handle_of_decode factor decoded,
      handle_of_decode factor otherDecoded, sequel, unread_respond]
    exact respond_alike_iff ..
  exact ⟨fields, fields.trans (Request.tag_delay_bytes_eq_iff decoded otherDecoded).symm⟩

/-- A request with a negative count, a padding, fifteen more delay words and three bytes behind it,
which comes in two pieces, is served like the request of its first delay alone. -/
theorem handle_alike_with_other_fields :
    let word := (Delay.sleep 250).toWord
    let plain := Request.single 7 word
    let full : Request := {
      count := -3
      padding := 99
      tag := 7
      delays := (Vector.replicate maxDelays 0xFFFFFFFFFFFFFFFF).set 0 word (by decide) }
    let script : Script := {
      reads := [.data plain.encode]
      writes := [.accept 3, .fail (.ofKind .connectionReset)] }
    let other : Script := { script with
      reads := [.data (full.encode.take 20), .pending, .data (full.encode.drop 20 ++ [1, 2, 3])] }
    let factor : Factor := ⟨0x4059000000000000⟩
    full ≠ plain ∧
      { handle factor other with unread := (handle factor script).unread } =
        handle factor script := by
  -- The two requests differ, but neither in the tag nor in the first word.
  intro word plain full script other factor
  exact ⟨by decide, (@handle_alike_iff script other plain full (by decide +kernel)
    (by decide +kernel) rfl factor).1.mpr ⟨rfl, rfl⟩⟩

end LoadServer
