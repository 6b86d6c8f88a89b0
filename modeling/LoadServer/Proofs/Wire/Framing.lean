import LoadServer.Proofs.Wire.Codec
import LoadServer.Wire.Buffer

/-!
Requests one after another in a buffer, with other bytes before and behind them. Main statement:
each is read at its own offset and all of them are read in order, until the bytes behind them are
too few for another one.
-/

namespace LoadServer

namespace PacketBuffer

/-! ## Operations one after another -/

/-- What operations report. -/
def reports (buffer : PacketBuffer) (operations : List Operation) : List Report :=
  (buffer.run operations).map Prod.fst

/-- The buffer that operations leave. -/
def after (buffer : PacketBuffer) (operations : List Operation) : PacketBuffer :=
  ((buffer.run operations).map Prod.snd).getLastD buffer

/-- No operation, no report. -/
@[simp] theorem reports_nil (buffer : PacketBuffer) : buffer.reports [] = [] :=
  rfl

/-- The first operation reports first. -/
@[simp] theorem reports_cons (buffer : PacketBuffer) (operation : Operation)
    (rest : List Operation) :
    buffer.reports (operation :: rest) =
      (buffer.apply operation).1 :: (buffer.apply operation).2.reports rest :=
  rfl

/-- No operation, no change. -/
@[simp] theorem after_nil (buffer : PacketBuffer) : buffer.after [] = buffer :=
  rfl

/-- The first operation changes the buffer first. -/
@[simp] theorem after_cons (buffer : PacketBuffer) (operation : Operation)
    (rest : List Operation) :
    buffer.after (operation :: rest) = (buffer.apply operation).2.after rest := by
  -- The last state of a run stays the last one behind its first step.
  simp only [after, run, List.map_cons, List.getLastD_cons]

/-- Operations go on with the buffer that those before them leave. -/
theorem after_append (buffer : PacketBuffer) (front back : List Operation) :
    buffer.after (front ++ back) = (buffer.after front).after back := by
  -- The buffer goes through the front first, so it stays quantified over.
  induction front generalizing buffer with
  | nil => rfl
  | cons operation front ih => rw [List.cons_append, after_cons, after_cons, ih]

/-- What they report follows what those before them report. -/
theorem reports_append (buffer : PacketBuffer) (front back : List Operation) :
    buffer.reports (front ++ back) = buffer.reports front ++ (buffer.after front).reports back := by
  -- The back is reported from the buffer that the front leaves.
  induction front generalizing buffer with
  | nil => rfl
  | cons operation front ih =>
    rw [List.cons_append, reports_cons, reports_cons, after_cons, ih, List.cons_append]

/-- Requests that are appended follow the bytes held. -/
theorem bytes_after_append (buffer : PacketBuffer) (requests : List Request) :
    (buffer.after (requests.map .append)).bytes =
      buffer.bytes ++ requests.flatMap Request.encode := by
  -- Each request is appended behind those before it.
  induction requests generalizing buffer with
  | nil => simp
  | cons request requests ih =>
    rw [List.map_cons, after_cons, ih, List.flatMap_cons, ← List.append_assoc]
    rfl

/-! ## Requests in a buffer -/

/-- Several requests have 144 bytes each. -/
theorem length_flatMap_encode (requests : List Request) :
    (requests.flatMap Request.encode).length = 144 * requests.length := by
  -- Each request adds its own 144 bytes.
  induction requests with
  | nil => rfl
  | cons request requests ih =>
    have size : request.encode.length = 144 := request.length_encode
    rw [List.flatMap_cons, List.length_append, ih, size, List.length_cons]
    omega

/-- A request is read at the offset at which it stands. -/
theorem requestAt_of_bytes {buffer : PacketBuffer} {front rest : Bytes} {request : Request}
    (holds : buffer.bytes = front ++ (request.encode ++ rest)) :
    buffer.requestAt front.length = .ok request := by
  -- The bytes before the offset are dropped, and those behind the request are not looked at.
  rw [requestAt, holds, List.drop_left]
  exact request.decode_encode_append rest

/-- Where too few bytes are left no request is read. -/
theorem requestAt_of_short {buffer : PacketBuffer} {offset : Nat}
    (short : buffer.bytes.length < offset + 144) :
    buffer.requestAt offset = .error ⟨144, buffer.bytes.length - offset⟩ := by
  -- What is left from the offset on is too short for a request.
  have few : (buffer.bytes.drop offset).length < 144 := by
    rw [List.length_drop]
    omega
  have refused := Request.isCodec.decode_short _ few
  rw [List.length_drop] at refused
  exact refused

/-- Where enough bytes are left a request is read, and repeating it appends its bytes once more. -/
theorem exists_repeated {buffer : PacketBuffer} {offset : Nat}
    (enough : offset + 144 ≤ buffer.bytes.length) :
    ∃ request, buffer.reports [.readRequest offset, .repeatLast] =
        [.request (.ok request), .done] ∧
      (buffer.after [.readRequest offset, .repeatLast]).bytes =
        buffer.bytes ++ (buffer.bytes.drop offset).take 144 := by
  have long : 144 ≤ (buffer.bytes.drop offset).length := by
    rw [List.length_drop]
    omega
  obtain ⟨request, decoded, written⟩ := Request.exists_decode long
  have read : buffer.requestAt offset = .ok request := decoded
  refine ⟨request, by simp [apply, read, Except.toOption], ?_⟩
  -- The request that was read last is the one that is written again.
  have repeated : (buffer.after [.readRequest offset, .repeatLast]).bytes =
      buffer.bytes ++ request.encode := by
    simp [apply, read, Except.toOption, append]
  exact repeated.trans (congrArg _ written)

/-- Reading a request at the front and dropping its bytes, several times. -/
def unpacking (count : Nat) : List Operation :=
  (List.replicate count [.readRequest 0, .skip Request.size]).flatten

/-- Requests at the front are read in order, and what stands behind them is left. -/
theorem unpack_of_bytes {buffer : PacketBuffer} {requests : List Request} {rest : Bytes}
    (holds : buffer.bytes = requests.flatMap Request.encode ++ rest) :
    buffer.reports (unpacking requests.length) =
        requests.flatMap (fun request => [.request (.ok request), .done]) ∧
      (buffer.after (unpacking requests.length)).bytes = rest := by
  -- The first request is read and dropped, which brings the next one to the front.
  induction requests generalizing buffer with
  | nil => exact ⟨rfl, holds⟩
  | cons request requests ih =>
    rw [List.flatMap_cons, List.append_assoc] at holds
    have read : buffer.requestAt 0 = .ok request :=
      @requestAt_of_bytes buffer [] (requests.flatMap Request.encode ++ rest) request holds
    have first : buffer.reports [.readRequest 0, .skip Request.size] =
        [.request (.ok request), .done] := by
      simp [apply, read]
    have dropped : (buffer.after [.readRequest 0, .skip Request.size]).bytes =
        requests.flatMap Request.encode ++ rest := by
      change buffer.bytes.drop Request.size = _
      rw [holds, List.drop_left' request.length_encode]
    have again : unpacking (request :: requests).length =
        [.readRequest 0, .skip Request.size] ++ unpacking requests.length := by
      rw [unpacking, List.length_cons, List.replicate_succ, List.flatten_cons]
      rfl
    obtain ⟨behind, left⟩ := ih dropped
    rw [again, reports_append, after_append, first, behind, List.flatMap_cons]
    exact ⟨rfl, left⟩

/-- A buffer in which requests stand one after another between other bytes. -/
structure IsFramed (buffer : PacketBuffer) (front : Bytes) (requests : List Request)
    (tail : Bytes) : Prop where
  /-- Each request is read at its own offset. -/
  inPlace (index : Nat) (inside : index < requests.length) :
    buffer.reports [.readRequest (front.length + 144 * index)] = [.request (.ok requests[index])]
  /-- Once the bytes before them are dropped, the requests are read in order. -/
  inOrder : buffer.reports (.skip front.length :: unpacking requests.length) =
    .done :: requests.flatMap fun request => [.request (.ok request), .done]
  /-- Then only the bytes behind them are left. -/
  left : (buffer.after (.skip front.length :: unpacking requests.length)).bytes = tail
  /-- If these are too few for one more request, the next one is refused. -/
  ended (short : tail.length < 144) :
    (buffer.after (.skip front.length :: unpacking requests.length)).reports [.readRequest 0] =
      [.request (.error ⟨144, tail.length⟩)]

/-- What a look for a request reports is what is found at the offset. -/
theorem reports_readRequest (buffer : PacketBuffer) (offset : Nat) :
    buffer.reports [.readRequest offset] = [.request (buffer.requestAt offset)] :=
  rfl

/-- Requests stand in a buffer as soon as its bytes are theirs between other bytes. -/
theorem isFramed_of_bytes {buffer : PacketBuffer} {front tail : Bytes} {requests : List Request}
    (holds : buffer.bytes = front ++ (requests.flatMap Request.encode ++ tail)) :
    buffer.IsFramed front requests tail := by
  have dropped : (buffer.apply (.skip front.length)).2.bytes =
      requests.flatMap Request.encode ++ tail := by
    change buffer.bytes.drop front.length = _
    rw [holds, List.drop_left]
  obtain ⟨read, left⟩ := unpack_of_bytes dropped
  rw [← after_cons] at left
  refine ⟨fun index inside => ?_, ?_, left, fun short => ?_⟩
  · -- The requests before this one and the bytes in front of them add up to its offset.
    have place : (front ++ (requests.take index).flatMap Request.encode).length =
        front.length + 144 * index := by
      rw [List.length_append, length_flatMap_encode, List.length_take, Nat.min_eq_left inside.le]
    have parts : requests.flatMap Request.encode = (requests.take index).flatMap Request.encode ++
        (requests[index].encode ++ (requests.drop (index + 1)).flatMap Request.encode) := by
      rw [← List.flatMap_cons, ← List.drop_eq_getElem_cons inside, ← List.flatMap_append,
        List.take_append_drop]
    have found : buffer.requestAt (front.length + 144 * index) = .ok requests[index] := by
      rw [← place]
      apply requestAt_of_bytes
      rw [holds, parts]
      simp only [List.append_assoc]
      rfl
    rw [reports_readRequest, found]
  · rw [reports_cons, read]
    rfl
  · have few := @requestAt_of_short _ 0 (left ▸ short)
    rw [reports_readRequest, few, left]
    rfl

/-- Requests that are appended one after another, between other bytes, are read at multiples of 144
bytes behind the first ones, and one after another once these are dropped, until the bytes behind
them are refused for being too few. The same holds when some of the bytes behind them are cut off.
A request that is read at any offset, whether or not one was written there, is repeated as the 144
bytes at this offset; only where fewer are left none is read. -/
theorem requests_in_buffer (front tail : Bytes) (requests : List Request) :
    let buffer := ({} : PacketBuffer).after
      (.raw front :: requests.map .append ++ [.raw tail])
    buffer.bytes = front ++ requests.flatMap Request.encode ++ tail ∧
    buffer.IsFramed front requests tail ∧
    (∀ cut ≤ tail.length, (buffer.after [.truncate (buffer.bytes.length - cut)]).IsFramed
      front requests (tail.take (tail.length - cut))) ∧
    ∀ offset, if offset + 144 ≤ buffer.bytes.length then
        ∃ request, buffer.reports [.readRequest offset, .repeatLast] =
            [.request (.ok request), .done] ∧
          (buffer.after [.readRequest offset, .repeatLast]).bytes =
            buffer.bytes ++ (buffer.bytes.drop offset).take 144
      else buffer.reports [.readRequest offset] =
        [.request (.error ⟨144, buffer.bytes.length - offset⟩)] := by
  intro buffer
  have holds : buffer.bytes = front ++ requests.flatMap Request.encode ++ tail := by
    have between := bytes_after_append (PacketBuffer.append {} front) requests
    simp only [buffer, after_append, after_cons]
    exact congrArg (· ++ tail) between
  -- The rest of the statement speaks about these bytes alone.
  refine ⟨holds, isFramed_of_bytes (by rw [holds, List.append_assoc]), fun cut inside => ?_,
    fun offset => ?_⟩
  · -- What is cut off are bytes behind the requests.
    have kept : buffer.bytes.length - cut =
        (front ++ requests.flatMap Request.encode).length + (tail.length - cut) := by
      rw [holds, List.length_append]
      omega
    apply isFramed_of_bytes
    change buffer.bytes.take (buffer.bytes.length - cut) = _
    rw [kept, holds, List.take_length_add_append, List.append_assoc]
  · split
    · next enough => exact exists_repeated enough
    · next short => rw [reports_readRequest, requestAt_of_short (by omega)]

end PacketBuffer

end LoadServer
