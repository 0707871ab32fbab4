import RadioLifecycle.Proofs.Text.Utf8

/-!
Which bytes are text. A piece that is a character has the bytes of that character, so a byte list is
well-formed exactly if it is what some text is written as, and then it is read as that text.
-/

namespace RadioLifecycle.Utf8

/-- The bytes that complete a value fell into their ranges. -/
theorem follows_of_complete {ranges : List Range} {bytes rest : List UInt8} {value result : Nat}
    (h : complete value ranges bytes = (some result, rest)) :
    ∃ trailing, bytes = trailing ++ rest ∧ Follows ranges trailing ∧
      result = completed value trailing := by
  induction ranges generalizing value bytes with
  | nil =>
      obtain ⟨hResult, hRest⟩ := Prod.mk.inj h
      exact ⟨[], hRest, .nil, (Option.some.inj hResult).symm⟩
  | cons r ranges ih =>
      cases bytes with
      | nil => cases h
      | cons b bytes =>
          rw [complete] at h
          split at h
          · next hHolds =>
              obtain ⟨trailing, rfl, hFollows, rfl⟩ := ih h
              exact ⟨b :: trailing, rfl, .cons hHolds hFollows, rfl⟩
          · cases h

/-- What a byte tells that announces others: the bits of a character that it carries, how many bytes
follow, and what the second byte may be. -/
theorem announce_cases {b : UInt8} {value : Nat} {ranges : List Range}
    (h : announce b = some (value, ranges)) :
    (ranges = [.trailing] ∧ b.toNat = value + 0xC0 ∧ 2 ≤ value ∧ value < 0x20) ∨
      (∃ second, ranges = [second, .trailing] ∧ b.toNat = value + 0xE0 ∧ value < 0x10 ∧
        ∀ s : UInt8, second.holds s = true → 0x80 ≤ s.toNat ∧ s.toNat ≤ 0xBF ∧
          (value = 0 → 0xA0 ≤ s.toNat) ∧ (value = 0xD → s.toNat ≤ 0x9F)) ∨
      ∃ second, ranges = [second, .trailing, .trailing] ∧ b.toNat = value + 0xF0 ∧ value ≤ 4 ∧
        ∀ s : UInt8, second.holds s = true → 0x80 ≤ s.toNat ∧ s.toNat ≤ 0xBF ∧
          (value = 0 → 0x90 ≤ s.toNat) ∧ (value = 4 → s.toNat ≤ 0x8F) := by
  rw [announce] at h
  split at h
  · obtain ⟨rfl, rfl⟩ := Prod.mk.inj (Option.some.inj h)
    exact .inl ⟨rfl, by omega, by omega, by omega⟩
  split at h
  · obtain ⟨rfl, rfl⟩ := Prod.mk.inj (Option.some.inj h)
    refine .inr (.inl ⟨_, rfl, by omega, by omega, fun s hs => ?_⟩)
    simp only [holds_iff, UInt8.reduceToNat] at hs
    omega
  split at h
  · obtain ⟨rfl, rfl⟩ := Prod.mk.inj (Option.some.inj h)
    refine .inr (.inl ⟨_, rfl, by omega, by omega, fun s hs => ?_⟩)
    simp only [holds_iff, UInt8.reduceToNat] at hs
    omega
  split at h
  · obtain ⟨rfl, rfl⟩ := Prod.mk.inj (Option.some.inj h)
    refine .inr (.inl ⟨_, rfl, by omega, by omega, fun s hs => ?_⟩)
    simp only [holds_iff, Range.trailing, UInt8.reduceToNat] at hs
    omega
  split at h
  · obtain ⟨rfl, rfl⟩ := Prod.mk.inj (Option.some.inj h)
    refine .inr (.inr ⟨_, rfl, by omega, by omega, fun s hs => ?_⟩)
    simp only [holds_iff, UInt8.reduceToNat] at hs
    omega
  split at h
  · obtain ⟨rfl, rfl⟩ := Prod.mk.inj (Option.some.inj h)
    refine .inr (.inr ⟨_, rfl, by omega, by omega, fun s hs => ?_⟩)
    simp only [holds_iff, Range.trailing, UInt8.reduceToNat] at hs
    omega
  split at h
  · obtain ⟨rfl, rfl⟩ := Prod.mk.inj (Option.some.inj h)
    refine .inr (.inr ⟨_, rfl, by omega, by omega, fun s hs => ?_⟩)
    simp only [holds_iff, UInt8.reduceToNat] at hs
    omega
  · cases h

theorem eq_ofNat {b : UInt8} {n : Nat} (h : n = b.toNat) : UInt8.ofNat n = b := by
  rw [h, UInt8.ofNat_toNat]

theorem holds_trailing_iff (b : UInt8) :
    Range.trailing.holds b = true ↔ 0x80 ≤ b.toNat ∧ b.toNat ≤ 0xBF := by
  simp only [holds_iff, Range.trailing, UInt8.reduceToNat]

theorem eq_tail {b : UInt8} {n : Nat} (h : 0x80 ≤ b.toNat ∧ b.toNat ≤ 0xBF)
    (hBits : n % 64 = b.toNat % 64) : tail n = b :=
  eq_ofNat (by omega)

theorem toNat_character {n : Nat} (h : n.isValidChar) : (Char.ofNat n).toNat = n := by
  rw [Char.ofNat, dif_pos h]
  rfl

/-- A value that announced bytes complete is a character which is written as these bytes. -/
theorem encode_completed {b : UInt8} {value : Nat} {ranges : List Range} {trailing : List UInt8}
    (hAnnounce : announce b = some (value, ranges)) (hFollows : Follows ranges trailing) :
    String.utf8EncodeChar (Char.ofNat (completed value trailing)) = b :: trailing := by
  rcases announce_cases hAnnounce with ⟨rfl, hLead, hLow, hHigh⟩ |
    ⟨second, rfl, hLead, hHigh, hSecond⟩ | ⟨second, rfl, hLead, hHigh, hSecond⟩
  · obtain ⟨t, _, ht, hEnd, rfl⟩ := List.forall₂_cons_left_iff.mp hFollows
    obtain rfl := List.forall₂_nil_left_iff.mp hEnd
    rw [holds_trailing_iff] at ht
    let c := Char.ofNat (value * 64 + t.toNat % 64)
    have hc : c.toNat = value * 64 + t.toNat % 64 := toNat_character (.inl (by omega))
    change String.utf8EncodeChar c = _
    rw [encode_two (by omega) (by omega), eq_ofNat (b := b) (by omega), eq_tail ht (by omega)]
  · obtain ⟨s, _, hs, hMore, rfl⟩ := List.forall₂_cons_left_iff.mp hFollows
    obtain ⟨t, _, ht, hEnd, rfl⟩ := List.forall₂_cons_left_iff.mp hMore
    obtain rfl := List.forall₂_nil_left_iff.mp hEnd
    rw [holds_trailing_iff] at ht
    obtain ⟨hsLow, hsHigh, hsZero, hsSurrogate⟩ := hSecond s hs
    let c := Char.ofNat ((value * 64 + s.toNat % 64) * 64 + t.toNat % 64)
    have hc : c.toNat = (value * 64 + s.toNat % 64) * 64 + t.toNat % 64 := by
      apply toNat_character
      by_cases hEarly : value < 0xE
      · exact .inl (by omega)
      · exact .inr (by omega)
    change String.utf8EncodeChar c = _
    rw [encode_three (by omega) (by omega), eq_ofNat (b := b) (by omega),
      eq_tail ⟨hsLow, hsHigh⟩ (by omega), eq_tail ht (by omega)]
  · obtain ⟨s, _, hs, hMore, rfl⟩ := List.forall₂_cons_left_iff.mp hFollows
    obtain ⟨t, _, ht, hLast, rfl⟩ := List.forall₂_cons_left_iff.mp hMore
    obtain ⟨u, _, hu, hEnd, rfl⟩ := List.forall₂_cons_left_iff.mp hLast
    obtain rfl := List.forall₂_nil_left_iff.mp hEnd
    rw [holds_trailing_iff] at ht hu
    obtain ⟨hsLow, hsHigh, hsZero, hsFour⟩ := hSecond s hs
    let c := Char.ofNat
      (((value * 64 + s.toNat % 64) * 64 + t.toNat % 64) * 64 + u.toNat % 64)
    have hc : c.toNat =
        ((value * 64 + s.toNat % 64) * 64 + t.toNat % 64) * 64 + u.toNat % 64 :=
      toNat_character (.inr (by omega))
    change String.utf8EncodeChar c = _
    rw [encode_four (by omega), eq_ofNat (b := b) (by omega), eq_tail ⟨hsLow, hsHigh⟩ (by omega),
      eq_tail ht (by omega), eq_tail hu (by omega)]

/-- A well-formed piece has the bytes of its character. -/
theorem eq_encode_of_piece {b : UInt8} {bytes rest : List UInt8} {c : Char}
    (h : piece b bytes = (some c, rest)) : b :: bytes = String.utf8EncodeChar c ++ rest := by
  rw [piece] at h
  split at h
  · next hAscii =>
      obtain ⟨hChar, rfl⟩ := Prod.mk.inj h
      have hc : c.toNat = b.toNat := by
        rw [← Option.some.inj hChar]
        exact toNat_character (.inl (by omega))
      rw [encode_ascii (by omega), eq_ofNat hc, List.singleton_append]
  · split at h
    · cases h
    · next value ranges hAnnounce =>
        obtain ⟨hChar, hRest⟩ := Prod.mk.inj h
        obtain ⟨result, hResult, rfl⟩ := Option.map_eq_some_iff.mp hChar
        obtain ⟨trailing, rfl, hFollows, rfl⟩ := follows_of_complete (Prod.ext hResult hRest)
        rw [encode_completed hAnnounce hFollows, List.cons_append]

theorem decode?_eq_some_iff_pieces {bytes : List UInt8} {text : List Char} :
    decode? bytes = some text ↔ pieces bytes = text.map some := by
  rw [decode?]
  generalize pieces bytes = found
  induction found generalizing text with
  | nil => cases text <;> simp
  | cons first rest ih =>
      cases first with
      | none => cases text <;> simp
      | some c =>
          cases text with
          | nil => simp [Option.bind_eq_some_iff]
          | cons d text => simp [ih, and_comm, Option.bind_eq_some_iff]

theorem pieces_encode (text : List Char) : pieces (encode text) = text.map some := by
  induction text with
  | nil => rw [encode, List.flatMap_nil, pieces, List.map_nil]
  | cons c rest ih => rw [encode_cons, pieces_character, ih, List.map_cons]

theorem eq_encode_of_pieces {bytes : List UInt8} {text : List Char}
    (h : pieces bytes = text.map some) : bytes = encode text := by
  induction bytes using pieces.induct generalizing text with
  | case1 =>
      rw [pieces, eq_comm, List.map_eq_nil_iff] at h
      rw [h, encode, List.flatMap_nil]
  | case2 b bytes ih =>
      rw [pieces] at h
      cases text with
      | nil => cases h
      | cons c text =>
          obtain ⟨hFirst, hRest⟩ := List.cons.inj h
          have hPiece : piece b bytes = (some c, (piece b bytes).snd) := Prod.ext hFirst rfl
          rw [eq_encode_of_piece hPiece, ih hRest, encode_cons]

/-- Bytes are read as a text exactly if they are the bytes of that text. -/
theorem decode?_eq_some_iff {bytes : List UInt8} {text : List Char} :
    decode? bytes = some text ↔ bytes = encode text := by
  rw [decode?_eq_some_iff_pieces]
  constructor
  · exact eq_encode_of_pieces
  · rintro rfl
    exact pieces_encode text

end RadioLifecycle.Utf8
