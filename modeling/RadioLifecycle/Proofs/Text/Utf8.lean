import Mathlib.Data.List.Forall2
import Mathlib.Data.List.Infix
import RadioLifecycle.Text.Utf8

/-!
What becomes of text between its bytes and its characters. The first byte of a character announces
how many bytes follow and in which ranges, so a character is one piece wherever it stands, and a
character that breaks off is one ill-formed piece. Text that was written is therefore read back, and
when its bytes are cut off anywhere, what is read ends with the last character that is there
completely, and with one replacement character if the cut goes through a character.
-/

namespace RadioLifecycle.Utf8

/-- Bytes that fall into their ranges, one for one. -/
def Follows (ranges : List Range) (bytes : List UInt8) : Prop :=
  List.Forall₂ (fun r b => r.holds b = true) ranges bytes

theorem holds_iff (r : Range) (b : UInt8) :
    r.holds b = true ↔ r.low.toNat ≤ b.toNat ∧ b.toNat ≤ r.high.toNat := by
  simp [Range.holds, UInt8.le_iff_toNat_le]

/-- The value that trailing bytes complete, six bits each. -/
def completed (value : Nat) (bytes : List UInt8) : Nat :=
  bytes.foldl (fun value b => value * 64 + b.toNat % 64) value

theorem complete_of_follows {ranges : List Range} {bytes : List UInt8} (h : Follows ranges bytes)
    (value : Nat) (rest : List UInt8) :
    complete value ranges (bytes ++ rest) = (some (completed value bytes), rest) := by
  induction h generalizing value with
  | nil => cases rest <;> rfl
  | cons hHolds _ ih =>
      rw [List.cons_append, complete, if_pos hHolds]
      exact ih _

/-- A character that breaks off is one ill-formed piece. -/
theorem complete_of_cut {ranges : List Range} {bytes : List UInt8} (h : Follows ranges bytes)
    (value : Nat) {count : Nat} (hCount : count < bytes.length) :
    complete value ranges (bytes.take count) = (none, []) := by
  induction h generalizing value count with
  | nil => cases hCount
  | cons hHolds _ ih =>
      cases count with
      | zero => rfl
      | succ count =>
          rw [List.take_succ_cons, complete, if_pos hHolds]
          exact ih _ (Nat.lt_of_succ_lt_succ hCount)

theorem toNat_ofNat_of_lt {n : Nat} (h : n < 256) : (UInt8.ofNat n).toNat = n := by
  rw [UInt8.toNat_ofNat', Nat.mod_eq_of_lt h]

/-- A character of more than one byte is announced by its first byte, and the others follow. -/
structure Announced (c : Char) (lead : UInt8) (trailing : List UInt8) (value : Nat)
    (ranges : List Range) : Prop where
  encoded : String.utf8EncodeChar c = lead :: trailing
  beyond : ∀ byte ∈ lead :: trailing, 0x80 ≤ byte.toNat
  announced : announce lead = some (value, ranges)
  follows : Follows ranges trailing
  value : completed value trailing = c.toNat

/-- The byte that carries six bits of a character behind its first byte. -/
def tail (n : Nat) : UInt8 :=
  UInt8.ofNat (n % 64 + 0x80)

theorem toNat_tail (n : Nat) : (tail n).toNat = n % 64 + 0x80 :=
  toNat_ofNat_of_lt (by omega)

theorem holds_tail (n : Nat) : Range.trailing.holds (tail n) = true := by
  rw [holds_iff, toNat_tail]
  change 0x80 ≤ _ ∧ _ ≤ 0xBF
  omega

/-! The bytes of a character, by how many there are. -/

theorem encode_ascii {c : Char} (h : c.toNat ≤ 0x7F) :
    String.utf8EncodeChar c = [UInt8.ofNat c.toNat] := by
  show (if c.toNat ≤ 0x7F then _ else _) = _
  rw [if_pos h]
  rfl

theorem encode_two {c : Char} (hLow : 0x7F < c.toNat) (hHigh : c.toNat ≤ 0x7FF) :
    String.utf8EncodeChar c = [UInt8.ofNat (c.toNat / 64 % 32 + 0xC0), tail c.toNat] := by
  show (if c.toNat ≤ 0x7F then _ else if c.toNat ≤ 0x7FF then _ else _) = _
  rw [if_neg (by omega), if_pos hHigh]
  rfl

theorem encode_three {c : Char} (hLow : 0x7FF < c.toNat) (hHigh : c.toNat ≤ 0xFFFF) :
    String.utf8EncodeChar c =
      [UInt8.ofNat (c.toNat / 4096 % 16 + 0xE0), tail (c.toNat / 64), tail c.toNat] := by
  show (if c.toNat ≤ 0x7F then _ else if c.toNat ≤ 0x7FF then _ else
    if c.toNat ≤ 0xFFFF then _ else _) = _
  rw [if_neg (by omega), if_neg (by omega), if_pos hHigh]
  rfl

theorem encode_four {c : Char} (hLow : 0xFFFF < c.toNat) :
    String.utf8EncodeChar c =
      [UInt8.ofNat (c.toNat / 262144 % 8 + 0xF0), tail (c.toNat / 4096), tail (c.toNat / 64),
        tail c.toNat] := by
  show (if c.toNat ≤ 0x7F then _ else if c.toNat ≤ 0x7FF then _ else
    if c.toNat ≤ 0xFFFF then _ else _) = _
  rw [if_neg (by omega), if_neg (by omega), if_neg (by omega)]
  rfl

theorem exists_announced_two {c : Char} (hLow : 0x7F < c.toNat) (hHigh : c.toNat ≤ 0x7FF) :
    ∃ lead trailing value ranges, Announced c lead trailing value ranges := by
  let lead := UInt8.ofNat (c.toNat / 64 % 32 + 0xC0)
  have hLead : lead.toNat = c.toNat / 64 + 0xC0 := by
    rw [toNat_ofNat_of_lt (by omega), Nat.mod_eq_of_lt (by omega)]
  have hAnnounce : announce lead = some (c.toNat / 64, [.trailing]) := by
    rw [announce, hLead, if_pos (by omega), Nat.add_sub_cancel]
  refine ⟨lead, [tail c.toNat], c.toNat / 64, [.trailing], encode_two hLow hHigh, ?_, hAnnounce,
    ?_, ?_⟩
  · simp [hLead, toNat_tail]
  · exact .cons (holds_tail _) .nil
  · simp only [completed, List.foldl, toNat_tail]
    omega

theorem exists_announced_three {c : Char} (hLow : 0x7FF < c.toNat) (hHigh : c.toNat ≤ 0xFFFF) :
    ∃ lead trailing value ranges, Announced c lead trailing value ranges := by
  have hValid : c.toNat < 0xD800 ∨ 0xDFFF < c.toNat := by
    rcases c.valid with h | h
    · exact .inl h
    · exact .inr h.1
  let lead := UInt8.ofNat (c.toNat / 4096 % 16 + 0xE0)
  have hLead : lead.toNat = c.toNat / 4096 + 0xE0 := by
    rw [toNat_ofNat_of_lt (by omega), Nat.mod_eq_of_lt (by omega)]
  -- The second byte is held to a narrower range behind two of the first bytes.
  obtain ⟨second, hAnnounce, hSecond⟩ : ∃ second,
      announce lead = some (c.toNat / 4096, [second, .trailing]) ∧
      second.holds (tail (c.toNat / 64)) = true := by
    simp only [holds_iff, toNat_tail]
    rw [announce, hLead]
    by_cases hZero : c.toNat / 4096 = 0
    · refine ⟨⟨0xA0, 0xBF⟩, ?_, ?_⟩
      · rw [hZero]
        rfl
      · change 0xA0 ≤ _ ∧ _ ≤ 0xBF
        omega
    by_cases hSurrogates : c.toNat / 4096 = 13
    · refine ⟨⟨0x80, 0x9F⟩, ?_, ?_⟩
      · rw [hSurrogates]
        rfl
      · change 0x80 ≤ _ ∧ _ ≤ 0x9F
        omega
    · refine ⟨.trailing, ?_, ?_⟩
      · rw [if_neg (by omega), if_neg (by omega), if_neg (by omega), if_pos (by omega),
          Nat.add_sub_cancel]
      · change 0x80 ≤ _ ∧ _ ≤ 0xBF
        omega
  refine ⟨lead, [tail (c.toNat / 64), tail c.toNat], c.toNat / 4096, [second, .trailing],
    encode_three hLow hHigh, ?_, hAnnounce, ?_, ?_⟩
  · simp [hLead, toNat_tail]
  · exact .cons hSecond (.cons (holds_tail _) .nil)
  · simp only [completed, List.foldl, toNat_tail]
    omega

theorem exists_announced_four {c : Char} (hLow : 0xFFFF < c.toNat) :
    ∃ lead trailing value ranges, Announced c lead trailing value ranges := by
  have hValid : c.toNat < 0x110000 := by
    rcases c.valid with h | h
    · exact Nat.lt_trans h (by decide)
    · exact h.2
  let lead := UInt8.ofNat (c.toNat / 262144 % 8 + 0xF0)
  have hLead : lead.toNat = c.toNat / 262144 + 0xF0 := by
    rw [toNat_ofNat_of_lt (by omega), Nat.mod_eq_of_lt (by omega)]
  obtain ⟨second, hAnnounce, hSecond⟩ : ∃ second,
      announce lead = some (c.toNat / 262144, [second, .trailing, .trailing]) ∧
      second.holds (tail (c.toNat / 4096)) = true := by
    simp only [holds_iff, toNat_tail]
    rw [announce, hLead]
    by_cases hZero : c.toNat / 262144 = 0
    · refine ⟨⟨0x90, 0xBF⟩, ?_, ?_⟩
      · rw [hZero]
        rfl
      · change 0x90 ≤ _ ∧ _ ≤ 0xBF
        omega
    by_cases hLast : c.toNat / 262144 = 4
    · refine ⟨⟨0x80, 0x8F⟩, ?_, ?_⟩
      · rw [hLast]
        rfl
      · change 0x80 ≤ _ ∧ _ ≤ 0x8F
        omega
    · refine ⟨.trailing, ?_, ?_⟩
      · rw [if_neg (by omega), if_neg (by omega), if_neg (by omega), if_neg (by omega),
          if_neg (by omega), if_pos (by omega), Nat.add_sub_cancel]
      · change 0x80 ≤ _ ∧ _ ≤ 0xBF
        omega
  refine ⟨lead, [tail (c.toNat / 4096), tail (c.toNat / 64), tail c.toNat], c.toNat / 262144,
    [second, .trailing, .trailing], encode_four hLow, ?_, hAnnounce, ?_, ?_⟩
  · simp [hLead, toNat_tail]
  · exact .cons hSecond (.cons (holds_tail _) (.cons (holds_tail _) .nil))
  · simp only [completed, List.foldl, toNat_tail]
    omega

/-- The first byte of every character beyond 0x7F announces the bytes that follow it. -/
theorem exists_announced {c : Char} (h : 0x7F < c.toNat) :
    ∃ lead trailing value ranges, Announced c lead trailing value ranges := by
  by_cases hTwo : c.toNat ≤ 0x7FF
  · exact exists_announced_two h hTwo
  by_cases hThree : c.toNat ≤ 0xFFFF
  · exact exists_announced_three (by omega) hThree
  · exact exists_announced_four (by omega)

theorem toNat_ascii {c : Char} (h : c.toNat ≤ 0x7F) : (UInt8.ofNat c.toNat).toNat = c.toNat :=
  toNat_ofNat_of_lt (by omega)

theorem piece_ascii {c : Char} (h : c.toNat ≤ 0x7F) (rest : List UInt8) :
    piece (UInt8.ofNat c.toNat) rest = (some c, rest) := by
  rw [piece, toNat_ascii h, if_pos (by omega), Char.ofNat_toNat]

theorem Announced.piece {c : Char} {lead : UInt8} {trailing : List UInt8} {value : Nat}
    {ranges : List Range} (h : Announced c lead trailing value ranges) (bytes : List UInt8) :
    piece lead bytes =
      ((complete value ranges bytes).1.map Char.ofNat, (complete value ranges bytes).2) := by
  have hBeyond := h.beyond lead List.mem_cons_self
  rw [Utf8.piece, if_neg (by omega), h.announced]

/-- The bytes of a character are one piece, whatever follows them. -/
theorem pieces_character (c : Char) (rest : List UInt8) :
    pieces (String.utf8EncodeChar c ++ rest) = some c :: pieces rest := by
  by_cases hAscii : c.toNat ≤ 0x7F
  · rw [encode_ascii hAscii, List.singleton_append, pieces, piece_ascii hAscii]
  · obtain ⟨lead, trailing, value, ranges, h⟩ := exists_announced (Nat.lt_of_not_le hAscii)
    have hPiece : piece lead (trailing ++ rest) = (some c, rest) := by
      rw [h.piece, complete_of_follows h.follows, h.value, Option.map_some, Char.ofNat_toNat]
    rw [h.encoded, List.cons_append, pieces, hPiece]

/-- A character that breaks off in the middle is one piece, and that piece is ill-formed. -/
theorem pieces_cut {c : Char} {count : Nat} (hSome : 0 < count) (hCut : count < c.utf8Size) :
    pieces ((String.utf8EncodeChar c).take count) = [none] := by
  have hLength := String.length_utf8EncodeChar c
  by_cases hAscii : c.toNat ≤ 0x7F
  · rw [encode_ascii hAscii, List.length_singleton] at hLength
    omega
  · obtain ⟨lead, trailing, value, ranges, h⟩ := exists_announced (Nat.lt_of_not_le hAscii)
    rw [h.encoded, List.length_cons] at hLength
    obtain ⟨more, rfl⟩ := Nat.exists_eq_add_of_le' hSome
    have hMore : more < trailing.length := by omega
    have hPiece : piece lead (trailing.take more) = (none, []) := by
      rw [h.piece, complete_of_cut h.follows value hMore, Option.map_none]
    rw [h.encoded, List.take_succ_cons, pieces, hPiece, pieces]

/-! Whole texts. -/

theorem encode_cons (c : Char) (text : List Char) :
    encode (c :: text) = String.utf8EncodeChar c ++ encode text :=
  List.flatMap_cons

theorem length_encode_cons (c : Char) (text : List Char) :
    (encode (c :: text)).length = c.utf8Size + (encode text).length := by
  rw [encode_cons, List.length_append, String.length_utf8EncodeChar]

theorem decodeLossy_character (c : Char) (rest : List UInt8) :
    decodeLossy (String.utf8EncodeChar c ++ rest) = c :: decodeLossy rest := by
  rw [decodeLossy, pieces_character]
  rfl

/-- Text that was written is read back. -/
theorem decodeLossy_encode (text : List Char) : decodeLossy (encode text) = text := by
  induction text with
  | nil =>
      rw [encode, List.flatMap_nil, decodeLossy, pieces]
      rfl
  | cons c rest ih => rw [encode_cons, decodeLossy_character, ih]

/-- As many characters from the beginning of a text as have room for all their bytes. -/
def fitting : Nat → List Char → List Char
  | _, [] => []
  | room, c :: rest => if c.utf8Size ≤ room then c :: fitting (room - c.utf8Size) rest else []

theorem fitting_prefix (room : Nat) (text : List Char) : fitting room text <+: text := by
  induction text generalizing room with
  | nil => exact List.prefix_rfl
  | cons c rest ih =>
      rw [fitting]
      split
      · exact List.cons_prefix_cons.mpr ⟨rfl, ih _⟩
      · exact List.nil_prefix

theorem length_encode_fitting (room : Nat) (text : List Char) :
    (encode (fitting room text)).length ≤ room := by
  induction text generalizing room with
  | nil => exact Nat.zero_le room
  | cons c rest ih =>
      rw [fitting]
      split
      · next hFits =>
          rw [length_encode_cons]
          have hRest := ih (room - c.utf8Size)
          omega
      · exact Nat.zero_le room

/-- No longer beginning of the text has room. -/
theorem prefix_fitting {room : Nat} {text start : List Char} (hPrefix : start <+: text)
    (hRoom : (encode start).length ≤ room) : start <+: fitting room text := by
  induction text generalizing room start with
  | nil =>
      rw [List.prefix_nil.mp hPrefix]
      exact List.nil_prefix
  | cons c rest ih =>
      cases start with
      | nil => exact List.nil_prefix
      | cons d start =>
          obtain ⟨rfl, hRest⟩ := List.cons_prefix_cons.mp hPrefix
          rw [length_encode_cons] at hRoom
          rw [fitting, if_pos (by omega)]
          exact List.cons_prefix_cons.mpr ⟨rfl, ih hRest (by omega)⟩

/-- Bytes that are cut off show as one replacement character if a character is cut through, and not
at all otherwise. -/
theorem decodeLossy_take_encode {room : Nat} {text : List Char}
    (h : room < (encode text).length) :
    decodeLossy ((encode text).take room) =
      fitting room text ++
        if (encode (fitting room text)).length < room then [replacement] else [] := by
  induction text generalizing room with
  | nil => cases h
  | cons c rest ih =>
      have hLength := String.length_utf8EncodeChar c
      rw [length_encode_cons] at h
      rw [encode_cons, List.take_append, hLength, fitting]
      by_cases hFits : c.utf8Size ≤ room
      · have hWithin : room - c.utf8Size < (encode rest).length := by omega
        have hRest := ih hWithin
        rw [if_pos hFits, List.take_of_length_le (by omega), decodeLossy_character, hRest,
          length_encode_cons, List.cons_append]
        congr 3
        exact propext (by omega)
      · rw [if_neg hFits, Nat.sub_eq_zero_of_le (by omega), List.take_zero, List.append_nil,
          List.nil_append]
        show _ = if 0 < room then _ else _
        by_cases hSome : 0 < room
        · rw [if_pos hSome, decodeLossy, pieces_cut hSome (by omega)]
          rfl
        · rw [if_neg hSome, Nat.eq_zero_of_not_pos hSome, List.take_zero, decodeLossy, pieces]
          rfl

/-- Of all characters only one has a zero byte. -/
theorem zero_mem_character {c : Char} : 0 ∈ String.utf8EncodeChar c ↔ c = '\x00' := by
  by_cases hAscii : c.toNat ≤ 0x7F
  · rw [encode_ascii hAscii, List.mem_singleton, ← UInt8.toNat_inj, toNat_ascii hAscii]
    constructor
    · intro hZero
      exact Char.toNat_inj.mp hZero.symm
    · rintro rfl
      rfl
  · obtain ⟨lead, trailing, value, ranges, h⟩ := exists_announced (Nat.lt_of_not_le hAscii)
    rw [h.encoded]
    constructor
    · intro hZero
      have hBeyond := h.beyond 0 hZero
      cases hBeyond
    · rintro rfl
      exact absurd (by decide) hAscii

/-- The first zero byte of a text is its first zero character. -/
theorem takeWhile_encode (text : List Char) :
    (encode text).takeWhile (· != 0) = encode (text.takeWhile (· ≠ '\x00')) := by
  induction text with
  | nil => rfl
  | cons c rest ih =>
      rw [encode_cons]
      by_cases hZero : c = '\x00'
      · subst hZero
        rfl
      · have hBytes : ∀ byte ∈ String.utf8EncodeChar c, (byte != 0) = true := by
          intro byte hMember
          apply bne_iff_ne.mpr
          rintro rfl
          exact hZero (zero_mem_character.mp hMember)
        rw [List.takeWhile_append_of_pos hBytes, ih, List.takeWhile_cons_of_pos (by simp [hZero]),
          encode_cons]

theorem toList_toUTF8 (text : String) : text.toUTF8.data.toList = encode text.toList := by
  have hText : text.toByteArray = text.toList.utf8Encode := by
    rw [← String.toByteArray_ofList, String.ofList_toList]
  rw [String.toUTF8_eq_toByteArray, hText, List.utf8Encode, List.toList_data_toByteArray]
  rfl

theorem utf8ByteSize_eq (text : String) : text.utf8ByteSize = (encode text.toList).length := by
  rw [← toList_toUTF8]
  rfl

end RadioLifecycle.Utf8
