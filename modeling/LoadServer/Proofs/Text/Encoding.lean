import LoadServer.Text.Raw
import Mathlib

/-!
Text and its bytes. Main statements: no byte is lost where bytes are read as text, and exactly the
UTF-8 encodings are read as well-formed text, which is the text that they encode.
-/

namespace LoadServer.RawText

/-! ## Well-formed text -/

/-- Well-formed text is read back. -/
@[simp] theorem text?_ofString (text : String) : text? (ofString text) = some text := by
  -- Every piece is a character, so none stops the reading.
  have characters (characters : List Char) : chars? (characters.map .char) = some characters := by
    induction characters with
    | nil => rfl
    | cons c rest ih => simp [chars?, ih]
  simp [text?, ofString, characters]

/-- Only the pieces of a well-formed text read as it. -/
theorem eq_ofString_of_text? {raw : RawText} {text : String} (read : raw.text? = some text) :
    raw = ofString text := by
  -- Reading stops at the first piece that is no character, so there was none.
  have characters {raw : RawText} {found : List Char} (read : raw.chars? = some found) :
      raw = found.map .char := by
    induction raw generalizing found with
    | nil =>
      cases read
      rfl
    | cons piece rest ih =>
      cases piece with
      | broken bytes => cases read
      | char c =>
        obtain ⟨tail, more, rfl⟩ := Option.map_eq_some_iff.mp read
        rw [List.map_cons, ← ih more]
  obtain ⟨found, same, rfl⟩ := Option.map_eq_some_iff.mp read
  rw [characters same, ofString, String.toList_ofList]

/-! ## The bytes of one character -/

/-- Bytes that stand for a single code. -/
inductive IsGroup : Bytes → Nat → Prop where
  | one {a : UInt8} (first : a < 0x80) : IsGroup [a] a.toNat
  | two {a b : UInt8} (first : (0xC2 ≤ a && a ≤ 0xDF) = true) (second : isContinuation b = true) :
      IsGroup [a, b] ((a.toNat - 0xC0) * 64 + low b)
  | three {a b c : UInt8} (first : (0xE0 ≤ a && a ≤ 0xEF) = true)
      (second : mayFollowThree a b = true) (third : isContinuation c = true) :
      IsGroup [a, b, c] ((a.toNat - 0xE0) * 4096 + low b * 64 + low c)
  | four {a b c d : UInt8} (first : (0xF0 ≤ a && a ≤ 0xF4) = true)
      (second : mayFollowFour a b = true) (third : isContinuation c = true)
      (fourth : isContinuation d = true) :
      IsGroup [a, b, c, d]
        ((a.toNat - 0xF0) * 262144 + low b * 4096 + low c * 64 + low d)

/-- A first byte that announces more of them lies between two bounds. -/
theorem first_iff {least most a : UInt8} :
    (least ≤ a && a ≤ most) = true ↔ least.toNat ≤ a.toNat ∧ a.toNat ≤ most.toNat := by
  -- Bytes are compared as the numbers they are.
  simp [UInt8.le_iff_toNat_le]

/-- The continuation bytes are sixty-four in a row. -/
theorem isContinuation_iff {b : UInt8} :
    isContinuation b = true ↔ 0x80 ≤ b.toNat ∧ b.toNat ≤ 0xBF :=
  first_iff

/-- The second byte of three continues a character, beyond those of two bytes and apart from the
surrogates. -/
theorem mayFollowThree_iff {a b : UInt8} :
    mayFollowThree a b = true ↔ 0x80 ≤ b.toNat ∧ b.toNat ≤ 0xBF ∧
      (a.toNat = 0xE0 → 0xA0 ≤ b.toNat) ∧ (a.toNat = 0xED → b.toNat ≤ 0x9F) := by
  -- Two first bytes narrow the range, each at one of its ends.
  simp only [mayFollowThree, ← UInt8.toNat_inj]
  split_ifs with least surrogate
  · rw [first_iff]
    simp only [UInt8.reduceToNat] at least ⊢
    omega
  · rw [first_iff]
    simp only [UInt8.reduceToNat] at surrogate ⊢
    omega
  · rw [isContinuation_iff]
    simp only [UInt8.reduceToNat] at least surrogate
    omega

/-- The second byte of four continues a character, beyond those of three bytes and not beyond the
last one. -/
theorem mayFollowFour_iff {a b : UInt8} :
    mayFollowFour a b = true ↔ 0x80 ≤ b.toNat ∧ b.toNat ≤ 0xBF ∧
      (a.toNat = 0xF0 → 0x90 ≤ b.toNat) ∧ (a.toNat = 0xF4 → b.toNat ≤ 0x8F) := by
  -- The same for the first and the last of these first bytes.
  simp only [mayFollowFour, ← UInt8.toNat_inj]
  split_ifs with least last
  · rw [first_iff]
    simp only [UInt8.reduceToNat] at least ⊢
    omega
  · rw [first_iff]
    simp only [UInt8.reduceToNat] at last ⊢
    omega
  · rw [isContinuation_iff]
    simp only [UInt8.reduceToNat] at least last
    omega

namespace IsGroup

variable {group : Bytes} {code : Nat}

/-- The code of a group is that of a character. -/
theorem isValid (grouped : IsGroup group code) : code.isValidChar := by
  -- Only groups of three come near the surrogates, and only groups of four near the last code.
  unfold Nat.isValidChar
  cases grouped with
  | one first =>
    rw [UInt8.lt_iff_toNat_lt] at first
    simp only [UInt8.reduceToNat] at first
    omega
  | two first second =>
    rw [first_iff] at first
    rw [isContinuation_iff] at second
    simp only [UInt8.reduceToNat] at first
    simp only [low]
    omega
  | three first second third =>
    rw [first_iff] at first
    rw [mayFollowThree_iff] at second
    rw [isContinuation_iff] at third
    simp only [UInt8.reduceToNat] at first
    simp only [low]
    omega
  | four first second third fourth =>
    rw [first_iff] at first
    rw [mayFollowFour_iff] at second
    rw [isContinuation_iff] at third fourth
    simp only [UInt8.reduceToNat] at first
    simp only [low]
    omega

/-- A group is the encoding of the character with its code. -/
theorem encode (grouped : IsGroup group code) :
    String.utf8EncodeChar (Char.ofNat code) = group := by
  -- The width follows from the code, and each byte carries its own bits of it.
  have value : (Char.ofNat code).val.toNat = code :=
    (Char.toNat_ofNat code).trans (if_pos grouped.isValid)
  have byte {number : Nat} {b : UInt8} (same : number = b.toNat) : UInt8.ofNat number = b := by
    rw [same, UInt8.ofNat_toNat]
  simp only [String.utf8EncodeChar, value]
  cases grouped with
  | @one a first =>
    rw [UInt8.lt_iff_toNat_lt] at first
    simp only [UInt8.reduceToNat] at first
    rw [if_pos (by omega), byte rfl]
  | @two a b first second =>
    rw [first_iff] at first
    rw [isContinuation_iff] at second
    simp only [UInt8.reduceToNat] at first
    have lowB : low b = b.toNat % 64 := rfl
    rw [if_neg (by omega), if_pos (by omega), @byte _ a (by omega), @byte _ b (by omega)]
  | @three a b c first second third =>
    rw [first_iff] at first
    rw [mayFollowThree_iff] at second
    rw [isContinuation_iff] at third
    simp only [UInt8.reduceToNat] at first
    have lowB : low b = b.toNat % 64 := rfl
    have lowC : low c = c.toNat % 64 := rfl
    rw [if_neg (by omega), if_neg (by omega), if_pos (by omega), @byte _ a (by omega),
      @byte _ b (by omega), @byte _ c (by omega)]
  | @four a b c d first second third fourth =>
    rw [first_iff] at first
    rw [mayFollowFour_iff] at second
    rw [isContinuation_iff] at third fourth
    simp only [UInt8.reduceToNat] at first
    have lowB : low b = b.toNat % 64 := rfl
    have lowC : low c = c.toNat % 64 := rfl
    have lowD : low d = d.toNat % 64 := rfl
    rw [if_neg (by omega), if_neg (by omega), if_neg (by omega), @byte _ a (by omega),
      @byte _ b (by omega), @byte _ c (by omega), @byte _ d (by omega)]

/-- A group is read as its character, whatever follows it. -/
theorem decode_append (grouped : IsGroup group code) (rest : Bytes) :
    decode (group ++ rest) = .char (Char.ofNat code) :: decode rest := by
  -- The ranges of the first bytes lie apart, so that the first one tells the width.
  have wide {a least most : UInt8} (first : (least ≤ a && a ≤ most) = true)
      (above : 0x80 ≤ least.toNat) : ¬ a < 0x80 := by
    rw [first_iff] at first
    rw [UInt8.lt_iff_toNat_lt]
    simp only [UInt8.reduceToNat]
    omega
  have apart {a least most low high : UInt8} (first : (least ≤ a && a ≤ most) = true)
      (above : high.toNat < least.toNat) : ¬ (low ≤ a && a ≤ high) = true := by
    rw [first_iff] at first ⊢
    omega
  cases grouped with
  | @one a first =>
    show decode (a :: rest) = _
    rw [decode.eq_def]
    simp only [first, if_true]
  | @two a b first second =>
    show decode (a :: b :: rest) = _
    rw [decode.eq_def]
    simp only [if_neg (wide first (by decide)), if_pos first, if_pos second]
  | @three a b c first second third =>
    show decode (a :: b :: c :: rest) = _
    rw [decode.eq_def]
    have notTwo : ¬ (0xC2 ≤ a && a ≤ 0xDF) = true := apart first (by decide)
    simp only [if_neg (wide first (by decide)), if_neg notTwo, if_pos first, if_pos second,
      if_pos third]
  | @four a b c d first second third fourth =>
    show decode (a :: b :: c :: d :: rest) = _
    rw [decode.eq_def]
    have notTwo : ¬ (0xC2 ≤ a && a ≤ 0xDF) = true := apart first (by decide)
    have notThree : ¬ (0xE0 ≤ a && a ≤ 0xEF) = true := apart first (by decide)
    simp only [if_neg (wide first (by decide)), if_neg notTwo, if_neg notThree, if_pos first,
      if_pos second, if_pos third, if_pos fourth]

end IsGroup

/-- Every character has a group. -/
theorem exists_isGroup (c : Char) : ∃ group, IsGroup group c.toNat := by
  -- The width is that of the least range that holds the code.
  have valid : c.toNat < 0xD800 ∨ 0xDFFF < c.toNat ∧ c.toNat < 0x110000 := c.valid
  have byte (number : Nat) (small : number < 256) : ∃ b : UInt8, b.toNat = number :=
    ⟨UInt8.ofNat number, UInt8.toNat_ofNat_of_lt' small⟩
  generalize c.toNat = code at valid
  by_cases one : code < 0x80
  · obtain ⟨a, first⟩ := byte code (by omega)
    subst first
    refine ⟨[a], .one ?_⟩
    rw [UInt8.lt_iff_toNat_lt]
    exact one
  by_cases two : code < 0x800
  · obtain ⟨a, first⟩ := byte (code / 64 + 0xC0) (by omega)
    obtain ⟨b, second⟩ := byte (code % 64 + 0x80) (by omega)
    have value : (a.toNat - 0xC0) * 64 + low b = code := by
      simp only [low]
      omega
    rw [← value]
    refine ⟨[a, b], .two (first_iff.mpr ?_) (isContinuation_iff.mpr (by omega))⟩
    simp only [UInt8.reduceToNat]
    omega
  by_cases three : code < 0x10000
  · obtain ⟨a, first⟩ := byte (code / 4096 + 0xE0) (by omega)
    obtain ⟨b, second⟩ := byte (code / 64 % 64 + 0x80) (by omega)
    obtain ⟨c, third⟩ := byte (code % 64 + 0x80) (by omega)
    have value : (a.toNat - 0xE0) * 4096 + low b * 64 + low c = code := by
      simp only [low]
      omega
    rw [← value]
    refine ⟨[a, b, c], .three (first_iff.mpr ?_) (mayFollowThree_iff.mpr (by omega))
      (isContinuation_iff.mpr (by omega))⟩
    simp only [UInt8.reduceToNat]
    omega
  · obtain ⟨a, first⟩ := byte (code / 262144 + 0xF0) (by omega)
    obtain ⟨b, second⟩ := byte (code / 4096 % 64 + 0x80) (by omega)
    obtain ⟨c, third⟩ := byte (code / 64 % 64 + 0x80) (by omega)
    obtain ⟨d, fourth⟩ := byte (code % 64 + 0x80) (by omega)
    have value : (a.toNat - 0xF0) * 262144 + low b * 4096 + low c * 64 + low d = code := by
      simp only [low]
      omega
    rw [← value]
    refine ⟨[a, b, c, d], .four (first_iff.mpr ?_) (mayFollowFour_iff.mpr (by omega))
      (isContinuation_iff.mpr (by omega)) (isContinuation_iff.mpr (by omega))⟩
    simp only [UInt8.reduceToNat]
    omega

/-- A character is read back from its encoding, whatever follows it. -/
theorem decode_encodeChar (c : Char) (rest : Bytes) :
    decode (String.utf8EncodeChar c ++ rest) = .char c :: decode rest := by
  -- The bytes of a character form a group, which is read at once.
  obtain ⟨group, grouped⟩ := exists_isGroup c
  have encoded := grouped.encode
  have read := grouped.decode_append rest
  rw [Char.ofNat_toNat] at encoded read
  rw [encoded, read]

/-! ## Whole texts -/

/-- The bytes of a text are those of its characters. -/
theorem bytes_ofString (text : String) :
    (ofString text).bytes = text.toList.flatMap String.utf8EncodeChar := by
  -- A text has no lone pieces, so each piece is a character.
  simp [bytes, ofString, List.flatMap_map]

/-- Well-formed text is read back from its bytes. -/
theorem decode_bytes_ofString (text : String) : decode (ofString text).bytes = ofString text := by
  -- One character is read after the other, each from the bytes it was written as.
  rw [bytes_ofString, ofString]
  induction text.toList with
  | nil => rfl
  | cons c rest ih => rw [List.flatMap_cons, decode_encodeChar, ih, List.map_cons]

/-- No byte is lost where bytes are read as text. -/
theorem bytes_decode (found : Bytes) : (decode found).bytes = found := by
  -- A character has the bytes that it is read from, and all others are kept as they are.
  have char {group rest : Bytes} {code : Nat} (grouped : IsGroup group code)
      (ih : (decode rest).bytes = rest) :
      bytes (.char (Char.ofNat code) :: decode rest) = group ++ rest := by
    conv_rhs => rw [← grouped.encode, ← ih]
    rfl
  have broken {group rest : Bytes} (ih : (decode rest).bytes = rest) :
      bytes (.broken group :: decode rest) = group ++ rest := by
    conv_rhs => rw [← ih]
    rfl
  fun_induction decode found with
  | case1 => rfl
  | case2 a rest first ih => exact char (.one first) ih
  | case4 a _ first b tail second ih => exact char (.two first second) ih
  | case8 a _ _ first b second c tail third ih => exact char (.three first second third) ih
  | case14 a _ _ _ first b second c third d tail fourth ih =>
    exact char (.four first second third fourth) ih
  | case3 | case6 | case7 | case11 | case12 | case13 => rfl
  | _ => exact broken (by assumption)

/-- Bytes are read as a well-formed text exactly if they are its encoding. -/
theorem text?_decode_eq_some_iff {found : Bytes} {text : String} :
    (decode found).text? = some text ↔ found.toByteArray = text.toUTF8 := by
  -- The encoding of a text is the string of the bytes of its characters.
  have encoded : text.toUTF8 = (ofString text).bytes.toByteArray := by
    rw [bytes_ofString, ← List.utf8Encode, ← String.toByteArray_ofList, String.ofList_toList]
    rfl
  rw [encoded]
  constructor
  · intro read
    rw [← eq_ofString_of_text? read, bytes_decode]
  · intro same
    have bytes : found = (ofString text).bytes := by
      simpa using congrArg (fun array => array.data.toList) same
    rw [bytes, decode_bytes_ofString, text?_ofString]

/-- Bytes are read as no well-formed text exactly if they are no encoding. -/
theorem text?_decode_eq_none_iff {found : Bytes} :
    (decode found).text? = none ↔ ¬ found.toByteArray.IsValidUTF8 := by
  -- Valid bytes make up a text, which is the one that would be read.
  rw [Option.eq_none_iff_forall_ne_some]
  simp only [ne_eq, text?_decode_eq_some_iff]
  constructor
  · intro none valid
    exact none (String.ofByteArray _ valid) rfl
  · rintro invalid text same
    rw [same] at invalid
    exact invalid text.isValidUTF8

end LoadServer.RawText
