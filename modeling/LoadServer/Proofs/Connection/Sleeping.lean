import LoadServer.Proofs.Connection.Ignored

/-!
How long a connection sleeps. Main statement: not at all without the flag of its delay word, and
else for the microseconds below the flag in whole milliseconds, never too short and by less than one
too long, up to the longest sleep; nothing overflows on the way.
-/

namespace LoadServer

namespace Delay

/-- The longest sleep is thirty years of 365 days. -/
theorem longestSleep_eq : longestSleep = 946080000000 := by
  rw [longestSleep]

/-- A sleep is rounded up to whole milliseconds and held at the longest one. -/
theorem sleepMillis_sleep (micros : UInt64) :
    (sleep micros).sleepMillis = min ((micros.toNat + 999) / 1000) longestSleep := by
  -- The rounding up is the code's own, and the cap comes after it.
  rw [sleepMillis]

/-- A sleep of more than the longest one is held at it. -/
theorem sleepMillis_of_long {micros : UInt64} (long : 1000 * longestSleep < micros.toNat) :
    (sleep micros).sleepMillis = longestSleep := by
  -- A thousand times the cap and one more microsecond already round up past it.
  rw [sleepMillis_sleep]
  omega

/-- Another sleep is never too short, and too long by less than a millisecond. -/
theorem sleepMillis_of_short {micros : UInt64} (short : micros.toNat ≤ 1000 * longestSleep) :
    micros.toNat ≤ 1000 * (sleep micros).sleepMillis ∧
      1000 * (sleep micros).sleepMillis < micros.toNat + 1000 := by
  -- Below the cap the milliseconds are the microseconds rounded up.
  have whole : (sleep micros).sleepMillis = (micros.toNat + 999) / 1000 := by
    rw [sleepMillis_sleep]
    omega
  rw [whole]
  omega

/-- Only a sleep of no microseconds takes no time. -/
theorem sleepMillis_eq_zero_iff {micros : UInt64} :
    (sleep micros).sleepMillis = 0 ↔ micros.toNat = 0 := by
  -- The longest sleep takes time, and so does every millisecond that is begun.
  have longest := longestSleep_eq
  rw [sleepMillis_sleep]
  omega

/-- A sleep of more microseconds is no shorter. -/
theorem sleepMillis_mono {micros more : UInt64} (le : micros.toNat ≤ more.toNat) :
    (sleep micros).sleepMillis ≤ (sleep more).sleepMillis := by
  -- Rounding up keeps the order, and so does the cap.
  rw [sleepMillis_sleep, sleepMillis_sleep]
  omega

/-- The sum of two words, unless it overflows. -/
def addChecked (word other : UInt64) : Option UInt64 :=
  if BitVec.uaddOverflow word.toBitVec other.toBitVec then none else some (word + other)

/-- The product of two words, unless it overflows. -/
def mulChecked (word other : UInt64) : Option UInt64 :=
  if BitVec.umulOverflow word.toBitVec other.toBitVec then none else some (word * other)

/-- The milliseconds that a sleep of some microseconds takes, calculated in words: seconds are held
apart from nanoseconds, which are rounded up. There are none if a sum or a product overflows. -/
def checkedMillis (micros : UInt64) : Option UInt64 := do
  let nanos ← mulChecked (micros % 1000000) 1000
  let rounded ← addChecked nanos 999999
  let whole ← mulChecked (micros / 1000000) 1000
  (addChecked whole (rounded / 1000000)).map (min · 946080000000)

/-- A sum below the end of the range is the exact one. -/
theorem addChecked_eq_some {word other : UInt64} {first second : Nat} (left : word.toNat = first)
    (right : other.toNat = second) (fits : first + second < 2 ^ 64) :
    ∃ sum, addChecked word other = some sum ∧ sum.toNat = first + second := by
  -- The sum leaves the range exactly if it does as a number.
  subst left right
  have inside : BitVec.uaddOverflow word.toBitVec other.toBitVec = false := by
    simpa [BitVec.uaddOverflow] using fits
  refine ⟨word + other, by simp [addChecked, inside], ?_⟩
  rw [UInt64.toNat_add]
  exact Nat.mod_eq_of_lt fits

/-- A product below the end of the range is the exact one. -/
theorem mulChecked_eq_some {word other : UInt64} {first second : Nat} (left : word.toNat = first)
    (right : other.toNat = second) (fits : first * second < 2 ^ 64) :
    ∃ product, mulChecked word other = some product ∧ product.toNat = first * second := by
  -- The product leaves the range exactly if it does as a number.
  subst left right
  have inside : BitVec.umulOverflow word.toBitVec other.toBitVec = false := by
    simpa [BitVec.umulOverflow] using fits
  refine ⟨word * other, by simp [mulChecked, inside], ?_⟩
  rw [UInt64.toNat_mul]
  exact Nat.mod_eq_of_lt fits

/-- Rounding up the nanoseconds of the last second is rounding up all microseconds. -/
theorem millis_of_seconds (micros : Nat) :
    micros / 1000000 * 1000 + (micros % 1000000 * 1000 + 999999) / 1000000 =
      (micros + 999) / 1000 := by
  -- The whole seconds are a multiple of what is divided by, and go out in front.
  have nanos : (micros % 1000000 * 1000 + 999999) / 1000 = micros % 1000000 + 999 := by omega
  have rounded : (micros % 1000000 * 1000 + 999999) / 1000000 =
      (micros % 1000000 + 999) / 1000 := by
    rw [← nanos, Nat.div_div_eq_div_mul]
  have split : micros + 999 = micros % 1000000 + 999 + 1000 * (micros / 1000000 * 1000) := by
    omega
  rw [rounded, split, Nat.add_mul_div_left _ _ (by decide), Nat.add_comm]

/-- Calculating in words never overflows and gives the milliseconds of the sleep. -/
theorem checkedMillis_eq_some (micros : UInt64) :
    ∃ millis, checkedMillis micros = some millis ∧
      millis.toNat = (sleep micros).sleepMillis := by
  -- The nanoseconds are less than a second, and the seconds leave room for three more digits.
  have bound := micros.toNat_lt
  have seconds : (micros / 1000000).toNat = micros.toNat / 1000000 := UInt64.toNat_div ..
  have part : (micros % 1000000).toNat = micros.toNat % 1000000 := UInt64.toNat_mod ..
  have longest : (946080000000 : UInt64).toNat = longestSleep := by
    rw [longestSleep_eq]
    decide
  obtain ⟨nanos, isNanos, nanosValue⟩ := @mulChecked_eq_some _ 1000 _ 1000 part rfl (by omega)
  obtain ⟨rounded, isRounded, roundedValue⟩ :=
    @addChecked_eq_some _ 999999 _ 999999 nanosValue rfl (by omega)
  obtain ⟨whole, isWhole, wholeValue⟩ := @mulChecked_eq_some _ 1000 _ 1000 seconds rfl (by omega)
  have carried : (rounded / 1000000).toNat = rounded.toNat / 1000000 := UInt64.toNat_div ..
  rw [roundedValue] at carried
  obtain ⟨millis, isMillis, millisValue⟩ := addChecked_eq_some wholeValue carried (by omega)
  refine ⟨min millis 946080000000, ?_, ?_⟩
  · rw [checkedMillis, isNanos, Option.bind_eq_bind, Option.bind_some, isRounded, Option.bind_some,
      isWhole, Option.bind_some, isMillis, Option.map_some]
  · rw [UInt64.toNat_min, millisValue, millis_of_seconds, longest, sleepMillis_sleep]

end Delay

/-- Whether a request asks for sleep: the top bit of its first delay word. -/
def Request.asksSleep (request : Request) : Bool :=
  request.firstWord.toNat.testBit 63

/-- The microseconds that a request asks for: the other bits of its first delay word. -/
def Request.askedMicros (request : Request) : Nat :=
  request.firstWord.toNat % 2 ^ 63

/-- A response is sent after the sleep that the request asks for. -/
theorem slept_respond (factor : Factor) (request : Request) (unread : Nat) (sequel : Sequel) :
    (respond factor request unread sequel).slept = request.delay.sleepMillis := by
  -- A task that fails is that of a busy loop, beside which there is no sleep.
  rcases respond_eq_or factor request sequel with replied | ⟨number, fault, -, failed⟩
  · rw [replied, reply]
  · rw [failed]

/-- A whole request makes its connection sleep as its first delay word says. -/
theorem slept_of_decode {script : Script} {request : Request}
    (decoded : Request.decode (arrived script.reads) = .ok request) (factor : Factor) :
    (handle factor script).slept = (Delay.ofWord request.firstWord).sleepMillis := by
  -- Whatever happens to the response, the sleep has been asked for by then.
  rw [← delivered_eq_arrived] at decoded
  rw [handle_of_decode factor decoded, slept_respond, Request.delay_eq_ofWord]

/-- A connection that has brought a whole request does not sleep if the top bit of the first delay
word is clear. If it is set, the connection sleeps for the microseconds that the other bits count,
in milliseconds: for the longest sleep if they are more, and else never too short and by less than a
millisecond too long, so that only no microseconds take no time. Neither rounding up at once nor by
seconds and nanoseconds overflows words of 64 bits, and more microseconds are never slept for a
shorter time, whatever else there is about the requests, the streams and the hosts. -/
theorem handle_slept {script : Script} {request : Request}
    (decoded : Request.decode (arrived script.reads) = .ok request) (factor : Factor) :
    let micros := request.askedMicros
    let slept := (handle factor script).slept
    (request.asksSleep = false → slept = 0) ∧
    (request.asksSleep = true →
      (946080000000000 < micros → slept = 946080000000) ∧
      (micros ≤ 946080000000000 → micros ≤ 1000 * slept ∧ 1000 * slept < micros + 1000) ∧
      (slept = 0 ↔ micros = 0) ∧ micros + 999 < 2 ^ 64 ∧
      (∃ millis, Delay.checkedMillis (request.firstWord &&& Delay.microsMask) = some millis ∧
        millis.toNat = slept) ∧
      (∀ (other : Script) (twin : Request) (host : Factor),
        Request.decode (arrived other.reads) = .ok twin → twin.asksSleep = true →
        micros ≤ twin.askedMicros → slept ≤ (handle host other).slept)) := by
  -- The time is that of the first delay word, whose flag tells which of its kinds it is.
  intro micros slept
  have masked (asked : Request) :
      (asked.firstWord &&& Delay.microsMask).toNat = asked.askedMicros :=
    Delay.toNat_and_microsMask asked.firstWord
  have longest : 1000 * Delay.longestSleep = 946080000000000 := by rw [Delay.longestSleep_eq]
  have below : request.askedMicros < 2 ^ 63 := Nat.mod_lt _ (by decide)
  constructor
  · intro clear
    simp only [slept, slept_of_decode decoded, Delay.ofWord_of_not_testBit clear,
      Delay.sleepMillis]
  · intro set
    have time : slept = (Delay.sleep (request.firstWord &&& Delay.microsMask)).sleepMillis := by
      rw [← Delay.ofWord_of_testBit set]
      exact slept_of_decode decoded factor
    simp only [micros]
    rw [← masked request] at below
    rw [time, ← masked request, ← longest, ← Delay.longestSleep_eq]
    refine ⟨Delay.sleepMillis_of_long, Delay.sleepMillis_of_short, Delay.sleepMillis_eq_zero_iff,
      by omega, Delay.checkedMillis_eq_some _, fun other twin host otherDecoded otherSet le => ?_⟩
    -- The other word has its flag set too, so both times are those of sleeps.
    rw [slept_of_decode otherDecoded, Delay.ofWord_of_testBit otherSet]
    rw [← masked twin] at le
    exact Delay.sleepMillis_mono le

/-- A sleep of 1001 microseconds takes two milliseconds, also where the request comes in pieces and
the response cannot be sent, and the greatest delay word is held at the longest sleep. -/
theorem handle_slept_at_bounds :
    let brief := Request.single 1 (Delay.sleep 1001).toWord
    let endless := Request.single 2 0xFFFFFFFFFFFFFFFF
    let script : Script := {
      reads := [.data (brief.encode.take 50), .pending, .data (brief.encode.drop 50 ++ [9])]
      writes := [.fail (.ofKind .brokenPipe)] }
    let other : Script := { reads := [.data endless.encode] }
    let factor : Factor := ⟨0x4059000000000000⟩
    (handle factor script).slept = 2 ∧ (handle factor other).slept = 946080000000 := by
  -- The brief delay is one microsecond over a millisecond, the endless one far beyond the cap.
  intro brief endless script other factor
  have asBrief := (@handle_slept script brief (by decide +kernel) factor).2 (by decide +kernel)
  have asEndless := (@handle_slept other endless (by decide +kernel) factor).2 (by decide +kernel)
  have micros : brief.askedMicros = 1001 := by decide +kernel
  rw [micros] at asBrief
  obtain ⟨early, late⟩ := asBrief.2.1 (by decide)
  exact ⟨by omega, asEndless.1 (by decide +kernel)⟩

end LoadServer
