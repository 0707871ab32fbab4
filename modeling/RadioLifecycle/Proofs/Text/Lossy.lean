import RadioLifecycle.Proofs.Text.WellFormed

/-!
What is read of bytes that are not a text. Wherever no character stands, the bytes that begin one
as far as possible make up a broken run, or a single byte does if no character begins with it. Every
broken run is read as one replacement character and every character as itself. This leaves one text
to be read of any bytes.
-/

namespace RadioLifecycle.Utf8

/-- The bytes of some character begin like this. -/
def Begins (bytes : List UInt8) : Prop :=
  ∃ c, bytes <+: String.utf8EncodeChar c

/-- No character stands at the front, and the run is the longest beginning of one that is there, or
a single byte. -/
structure Broken (run rest : List UInt8) : Prop where
  noCharacter : ∀ c, ¬String.utf8EncodeChar c <+: run ++ rest
  notEmpty : run ≠ []
  begins : run.length = 1 ∨ Begins run
  longest : ∀ longer, longer <+: run ++ rest → Begins longer → longer.length ≤ run.length

/-- The text that is read of bytes, character after character and run after run. -/
inductive ReadAs : List UInt8 → List Char → Prop
  | nil : ReadAs [] []
  | character {rest : List UInt8} {text : List Char} (c : Char) (behind : ReadAs rest text) :
      ReadAs (String.utf8EncodeChar c ++ rest) (c :: text)
  | broken {run rest : List UInt8} {text : List Char} (cut : Broken run rest)
      (behind : ReadAs rest text) : ReadAs (run ++ rest) (replacement :: text)

/-- Every range that is announced can be met. -/
theorem holds_low_of_announce {b : UInt8} {value : Nat} {ranges : List Range}
    (h : announce b = some (value, ranges)) : ∀ r ∈ ranges, r.holds r.low = true := by
  rw [announce] at h
  repeat
    split at h
    · obtain ⟨-, rfl⟩ := Prod.mk.inj (Option.some.inj h)
      decide
  cases h

theorem follows_lows {ranges : List Range} (h : ∀ r ∈ ranges, r.holds r.low = true) :
    Follows ranges (ranges.map Range.low) := by
  induction ranges with
  | nil => exact .nil
  | cons r ranges ih =>
      obtain ⟨hFirst, hOthers⟩ := List.forall_mem_cons.mp h
      exact .cons hFirst (ih hOthers)

/-- The run begins what the ranges ask for, and nothing longer does that is there. -/
structure BreaksOff (ranges : List Range) (run rest : List UInt8) : Prop where
  begins : ∃ trailing, Follows ranges trailing ∧ run <+: trailing
  longest : ∀ longer trailing, longer <+: run ++ rest → Follows ranges trailing →
    longer <+: trailing → longer.length ≤ run.length

theorem BreaksOff.cons {ranges : List Range} {run rest : List UInt8} {r : Range} {b : UInt8}
    (h : BreaksOff ranges run rest) (hHolds : r.holds b = true) :
    BreaksOff (r :: ranges) (b :: run) rest where
  begins := by
    obtain ⟨trailing, hFollows, hRun⟩ := h.begins
    exact ⟨b :: trailing, .cons hHolds hFollows, List.cons_prefix_cons.mpr ⟨rfl, hRun⟩⟩
  longest := by
    rintro (_ | ⟨d, longer⟩) trailing hThere hFollows hBegins
    · exact Nat.zero_le _
    · obtain ⟨e, others, -, hOthers, rfl⟩ := List.forall₂_cons_left_iff.mp hFollows
      have hBehind := (List.cons_prefix_cons.mp hThere).2
      have hAmong := (List.cons_prefix_cons.mp hBegins).2
      exact Nat.succ_le_succ (h.longest longer others hBehind hOthers hAmong)

/-- Nothing begins what the ranges ask for if the first byte is outside its range or missing. -/
theorem breaksOff_nil {r : Range} {ranges : List Range} {rest : List UInt8}
    (hMet : ∀ r' ∈ r :: ranges, r'.holds r'.low = true)
    (hOutside : ∀ b ∈ rest.head?, ¬r.holds b = true) : BreaksOff (r :: ranges) [] rest where
  begins := ⟨_, follows_lows hMet, List.nil_prefix⟩
  longest := by
    rintro (_ | ⟨d, longer⟩) trailing hThere hFollows hBegins
    · exact Nat.le_refl 0
    · obtain ⟨e, others, hHolds, -, rfl⟩ := List.forall₂_cons_left_iff.mp hFollows
      obtain ⟨rfl, -⟩ := List.cons_prefix_cons.mp hBegins
      obtain ⟨behind, rfl⟩ := hThere
      exact absurd hHolds (hOutside d rfl)

/-- Where a value is not completed, the bytes that were taken break off. -/
theorem breaksOff_of_complete {ranges : List Range} {bytes rest : List UInt8} {value : Nat}
    (hMet : ∀ r ∈ ranges, r.holds r.low = true) (h : complete value ranges bytes = (none, rest)) :
    ∃ run, bytes = run ++ rest ∧ BreaksOff ranges run rest := by
  induction ranges generalizing value bytes with
  | nil =>
      rw [complete] at h
      cases h
  | cons r ranges ih =>
      cases bytes with
      | nil =>
          obtain ⟨-, rfl⟩ := Prod.mk.inj h
          refine ⟨[], rfl, breaksOff_nil hMet ?_⟩
          intro b hFirst
          cases hFirst
      | cons b bytes =>
          rw [complete] at h
          split at h
          · next hHolds =>
              obtain ⟨run, rfl, hRun⟩ := ih (List.forall_mem_cons.mp hMet).2 h
              exact ⟨b :: run, rfl, hRun.cons hHolds⟩
          · next hOutside =>
              obtain ⟨-, rfl⟩ := Prod.mk.inj h
              refine ⟨[], rfl, breaksOff_nil hMet ?_⟩
              intro d hFirst
              cases hFirst
              exact hOutside

/-- What begins a character with a byte beyond 0x7F continues as this byte announces. -/
theorem exists_announced_of_prefix {b : UInt8} {bytes : List UInt8} {c : Char}
    (hBeyond : ¬b.toNat < 0x80) (h : b :: bytes <+: String.utf8EncodeChar c) :
    ∃ trailing value ranges, Announced c b trailing value ranges ∧ bytes <+: trailing := by
  have hLarge : 0x7F < c.toNat := by
    by_contra hAscii
    rw [encode_ascii (Nat.le_of_not_lt hAscii)] at h
    obtain ⟨rfl, -⟩ := List.cons_prefix_cons.mp h
    rw [toNat_ascii (Nat.le_of_not_lt hAscii)] at hBeyond
    omega
  obtain ⟨lead, trailing, value, ranges, hAnnounced⟩ := exists_announced hLarge
  rw [hAnnounced.encoded] at h
  obtain ⟨rfl, hBytes⟩ := List.cons_prefix_cons.mp h
  exact ⟨trailing, value, ranges, hAnnounced, hBytes⟩

theorem piece_character {b : UInt8} {bytes rest : List UInt8} {c : Char}
    (h : b :: bytes = String.utf8EncodeChar c ++ rest) : (piece b bytes).1 = some c := by
  have hPieces := pieces_character c rest
  rw [← h, pieces] at hPieces
  exact (List.cons.inj hPieces).1

theorem noCharacter_of_piece {b : UInt8} {bytes rest : List UInt8}
    (h : piece b bytes = (none, rest)) (c : Char) : ¬String.utf8EncodeChar c <+: b :: bytes := by
  rintro ⟨behind, hBytes⟩
  have hPiece := piece_character hBytes.symm
  rw [h] at hPiece
  cases hPiece

/-- A byte that no character begins with is a run of its own. -/
theorem broken_of_unannounced {b : UInt8} {rest : List UInt8} (hBeyond : ¬b.toNat < 0x80)
    (hAnnounce : announce b = none) (hNone : ∀ c, ¬String.utf8EncodeChar c <+: b :: rest) :
    Broken [b] rest where
  noCharacter := hNone
  notEmpty := List.cons_ne_nil _ _
  begins := .inl rfl
  longest := by
    rintro (_ | ⟨d, longer⟩) hThere ⟨c, hBegins⟩
    · exact Nat.zero_le 1
    · obtain ⟨rfl, -⟩ := List.cons_prefix_cons.mp hThere
      obtain ⟨_, _, _, hAnnounced, -⟩ := exists_announced_of_prefix hBeyond hBegins
      rw [hAnnounced.announced] at hAnnounce
      cases hAnnounce

theorem BreaksOff.broken {b : UInt8} {value : Nat} {ranges : List Range} {run rest : List UInt8}
    (h : BreaksOff ranges run rest) (hBeyond : ¬b.toNat < 0x80)
    (hAnnounce : announce b = some (value, ranges))
    (hNone : ∀ c, ¬String.utf8EncodeChar c <+: b :: run ++ rest) : Broken (b :: run) rest where
  noCharacter := hNone
  notEmpty := List.cons_ne_nil _ _
  begins := by
    obtain ⟨trailing, hFollows, hRun⟩ := h.begins
    refine .inr ⟨Char.ofNat (completed value trailing), ?_⟩
    rw [encode_completed hAnnounce hFollows]
    exact List.cons_prefix_cons.mpr ⟨rfl, hRun⟩
  longest := by
    rintro (_ | ⟨d, longer⟩) hThere ⟨c, hBegins⟩
    · exact Nat.zero_le _
    · obtain ⟨rfl, hBehind⟩ := List.cons_prefix_cons.mp hThere
      obtain ⟨others, _, _, hAnnounced, hOthers⟩ := exists_announced_of_prefix hBeyond hBegins
      have hSame := hAnnounced.announced.symm.trans hAnnounce
      obtain ⟨-, rfl⟩ := Prod.mk.inj (Option.some.inj hSame)
      exact Nat.succ_le_succ (h.longest longer others hBehind hAnnounced.follows hOthers)

/-- A piece that is no character is a broken run. -/
theorem broken_of_piece {b : UInt8} {bytes rest : List UInt8} (h : piece b bytes = (none, rest)) :
    ∃ run, b :: bytes = run ++ rest ∧ Broken run rest := by
  have hNone := noCharacter_of_piece h
  rw [piece] at h
  split at h
  · cases h
  · next hBeyond =>
      split at h
      · next hAnnounce =>
          obtain ⟨-, rfl⟩ := Prod.mk.inj h
          exact ⟨[b], rfl, broken_of_unannounced hBeyond hAnnounce hNone⟩
      · next value ranges hAnnounce =>
          obtain ⟨hResult, hRest⟩ := Prod.mk.inj h
          obtain ⟨run, rfl, hBreaks⟩ := breaksOff_of_complete (holds_low_of_announce hAnnounce)
            (Prod.ext (Option.map_eq_none_iff.mp hResult) hRest)
          exact ⟨b :: run, rfl, hBreaks.broken hBeyond hAnnounce hNone⟩

/-- Of two broken runs at the same place neither is longer. -/
theorem Broken.length_le {run rest run' rest' : List UInt8} (h : Broken run rest)
    (h' : Broken run' rest') (hSame : run ++ rest = run' ++ rest') : run.length ≤ run'.length := by
  rcases h.begins with hSingle | hBegins
  · rw [hSingle]
    exact List.length_pos_iff.mpr h'.notEmpty
  · exact h'.longest run (hSame ▸ List.prefix_append run rest) hBegins

theorem pieces_broken {run rest : List UInt8} (h : Broken run rest) :
    pieces (run ++ rest) = none :: pieces rest := by
  obtain ⟨b, bytes, hBytes⟩ : ∃ b bytes, run ++ rest = b :: bytes :=
    List.exists_cons_of_ne_nil (List.append_ne_nil_of_left_ne_nil h.notEmpty rest)
  rw [hBytes, pieces]
  generalize hPiece : piece b bytes = first
  rcases first with ⟨_ | c, rest'⟩
  · -- Both runs are as long as they can be here, so they are one.
    obtain ⟨run', hSplit, hBroken⟩ := broken_of_piece hPiece
    have hSame : run ++ rest = run' ++ rest' := hBytes.trans hSplit
    have hLength : run.length = run'.length :=
      Nat.le_antisymm (h.length_le hBroken hSame) (hBroken.length_le h hSame.symm)
    rw [(List.append_inj hSame hLength).2]
  · have hFront : String.utf8EncodeChar c <+: run ++ rest := by
      rw [hBytes, eq_encode_of_piece hPiece]
      exact List.prefix_append _ _
    exact absurd hFront (h.noCharacter c)

theorem readAs_decodeLossy (bytes : List UInt8) : ReadAs bytes (decodeLossy bytes) := by
  induction bytes using pieces.induct with
  | case1 =>
      rw [decodeLossy, pieces]
      exact .nil
  | case2 b bytes ih =>
      rw [decodeLossy, pieces, List.map_cons]
      generalize hPiece : piece b bytes = first at ih ⊢
      rcases first with ⟨_ | c, rest⟩
      · obtain ⟨run, hBytes, hBroken⟩ := broken_of_piece hPiece
        rw [hBytes]
        exact .broken hBroken ih
      · rw [eq_encode_of_piece hPiece]
        exact .character c ih

/-- Of any bytes one text is read: every character as it is, and every broken run as one replacement
character. -/
theorem readAs_iff {bytes : List UInt8} {text : List Char} :
    ReadAs bytes text ↔ decodeLossy bytes = text := by
  constructor
  · intro h
    induction h with
    | nil =>
        rw [decodeLossy, pieces]
        rfl
    | character c _ ih => rw [decodeLossy_character, ih]
    | broken cut _ ih =>
        rw [decodeLossy, pieces_broken cut, ← ih]
        rfl
  · rintro rfl
    exact readAs_decodeLossy bytes

/-- A zero character is read only where there is a zero byte. -/
theorem ReadAs.zero_mem {bytes : List UInt8} {text : List Char} (h : ReadAs bytes text)
    (hZero : '\x00' ∈ text) : 0 ∈ bytes := by
  induction h with
  | nil => cases hZero
  | character c _ ih =>
      rcases List.mem_cons.mp hZero with hHere | hBehind
      · exact List.mem_append_left _ (zero_mem_character.mpr hHere.symm)
      · exact List.mem_append_right _ (ih hBehind)
  | broken _ _ ih =>
      rcases List.mem_cons.mp hZero with hHere | hBehind
      · cases hHere
      · exact List.mem_append_right _ (ih hBehind)

end RadioLifecycle.Utf8
