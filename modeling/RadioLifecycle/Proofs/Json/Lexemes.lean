import RadioLifecycle.Json.Reader
import RadioLifecycle.Json.Writer

/-!
Texts and numbers as they are written and read. Whatever is written of a character is read as that
character, so a text comes back whole. A natural number is read up to where its digits end, provided
that what follows does not continue it.
-/

namespace RadioLifecycle.Json

/-! Texts. -/

/-- An escape by four digits stands for the character of that value, whatever follows it. -/
theorem readText_escape {a b c d : Char} {n : Nat} (hDigits : hex4? a b c d = some n)
    (hSmall : n < 0x20) (rest : List Char) :
    readText ('\\' :: 'u' :: a :: b :: c :: d :: rest) =
      (readText rest).map (.cons (Char.ofNat n)) := by
  have hHigh : isHighSurrogate n = false := by
    simp only [isHighSurrogate, decide_eq_false_iff_not]
    omega
  have hLow : isLowSurrogate n = false := by
    simp only [isLowSurrogate, decide_eq_false_iff_not]
    omega
  -- A second escape behind this one makes no difference, since this one is no half of a pair.
  rw [readText.eq_def]
  split <;> grind

theorem hexValue?_hexDigit {n : Nat} (h : n < 16) : Decimal.hexValue? (hexDigit n) = some n := by
  revert n
  decide

theorem hex4?_hexDigit (n : Nat) (h : n < 0x100) :
    hex4? '0' '0' (hexDigit (n / 16)) (hexDigit (n % 16)) = some n := by
  have hHigh := hexValue?_hexDigit (n := n / 16) (by omega)
  have hLow := hexValue?_hexDigit (n := n % 16) (by omega)
  have hZero : Decimal.hexValue? '0' = some 0 := rfl
  simp only [hex4?, hHigh, hLow, hZero]
  change some (((0 * 16 + 0) * 16 + n / 16) * 16 + n % 16) = some n
  congr 1
  omega

theorem readText_of_plain {c : Char} (hQuote : c ≠ '"') (hBackslash : c ≠ '\\')
    (hVisible : 0x20 ≤ c.toNat) (rest : List Char) :
    readText (c :: rest) = (readText rest).map (.cons c) := by
  rw [readText.eq_def]
  split <;> grind

/-- What is written of a character is read as that character. -/
theorem readText_writeChar (c : Char) (rest : List Char) :
    readText (writeChar c ++ rest) = (readText rest).map (.cons c) := by
  unfold writeChar
  split
  case h_8 _ hQuote hBackslash _ _ _ _ _ =>
    split
    · next hControl =>
        have hDigits := hex4?_hexDigit c.toNat (Nat.lt_trans hControl (by decide))
        have hRead := readText_escape hDigits hControl rest
        rw [Char.ofNat_toNat] at hRead
        exact hRead
    · next hVisible =>
        exact readText_of_plain hQuote hBackslash (Nat.le_of_not_lt hVisible) rest
  all_goals rfl

/-- A written text is read as the text, up to its closing quote. -/
theorem readText_write (text : List Char) (rest : List Char) :
    readText (text.flatMap writeChar ++ '"' :: rest) = some (some text, rest) := by
  induction text with
  | nil => rfl
  | cons c text ih =>
      rw [List.flatMap_cons, List.append_assoc, readText_writeChar, ih]
      rfl

/-! Numbers. -/

/-- What may follow a value: the end of the text, or what separates and encloses values. -/
def Closes (rest : List Char) : Prop :=
  ∀ c ∈ rest.head?, c = ',' ∨ c = ']' ∨ c = '\x7d'

theorem isDigit_digit {n : Nat} (h : n < 10) : Decimal.isDigit (Decimal.digit n) = true := by
  rw [Decimal.isDigit, Decimal.value?_digit h, Option.isSome_some]

theorem isDigit_of_mem_write {n : Nat} {c : Char} (h : c ∈ Decimal.write n) :
    Decimal.isDigit c = true := by
  induction n using Decimal.write.induct with
  | case1 n hSmall =>
      rw [Decimal.write, if_pos hSmall, List.mem_singleton] at h
      rw [h, isDigit_digit hSmall]
  | case2 n hLarge ih =>
      rw [Decimal.write, if_neg hLarge, List.mem_append, List.mem_singleton] at h
      rcases h with hFront | rfl
      · exact ih hFront
      · exact isDigit_digit (Nat.mod_lt _ (by decide))

theorem digit_ne_zero : ∀ n < 10, 0 < n → Decimal.digit n ≠ '0' := by decide

/-- A number is written without zeros in front, unless it is zero. -/
theorem write_eq_zero_or (n : Nat) :
    Decimal.write n = ['0'] ∨ ∃ c digits, Decimal.write n = c :: digits ∧ c ≠ '0' := by
  induction n using Decimal.write.induct with
  | case1 n hSmall =>
      rw [Decimal.write, if_pos hSmall]
      rcases Nat.eq_zero_or_pos n with rfl | hPos
      · exact .inl rfl
      · exact .inr ⟨_, [], rfl, digit_ne_zero n hSmall hPos⟩
  | case2 n hLarge ih =>
      rw [Decimal.write, if_neg hLarge]
      rcases ih with hZero | ⟨c, digits, hDigits, hc⟩
      · -- Only zero is written as a zero, and what stands in front of the last digit is not.
        have hRead := Decimal.read?_write (n / 10)
        rw [hZero] at hRead
        have hNone : n / 10 = 0 := (Option.some.inj hRead).symm
        omega
      · exact .inr ⟨c, _, by rw [hDigits, List.cons_append], hc⟩

variable {rest : List Char}

theorem Closes.takeWhile_isDigit (h : Closes rest) : rest.takeWhile Decimal.isDigit = [] := by
  cases rest with
  | nil => rfl
  | cons c rest => rcases h c rfl with rfl | rfl | rfl <;> rfl

theorem Closes.dropWhile_isDigit (h : Closes rest) : rest.dropWhile Decimal.isDigit = rest := by
  cases rest with
  | nil => rfl
  | cons c rest => rcases h c rfl with rfl | rfl | rfl <;> rfl

theorem readDigits_write (n : Nat) (h : Closes rest) :
    readDigits (Decimal.write n ++ rest) = some (Decimal.write n, rest) := by
  have hAll : ∀ c ∈ Decimal.write n, Decimal.isDigit c = true := fun _ => isDigit_of_mem_write
  rw [readDigits, List.takeWhile_append_of_pos hAll, List.dropWhile_append_of_pos hAll,
    h.takeWhile_isDigit, h.dropWhile_isDigit, List.append_nil]
  split
  · next hNil => exact absurd hNil (Decimal.write_ne_nil n)
  · rfl

theorem readInteger_write (n : Nat) (h : Closes rest) :
    readInteger (Decimal.write n ++ rest) = some (Decimal.write n, rest) := by
  rcases write_eq_zero_or n with hZero | ⟨c, digits, hDigits, hc⟩
  · rw [hZero]
    rfl
  · have hRead := readDigits_write n h
    rw [hDigits, List.cons_append] at hRead ⊢
    rw [readInteger.eq_def]
    split <;> simp_all

theorem Closes.readFraction (h : Closes rest) : readFraction rest = some ([], rest) := by
  cases rest with
  | nil => rfl
  | cons c rest => rcases h c rfl with rfl | rfl | rfl <;> rfl

theorem Closes.readExponent (h : Closes rest) : readExponent rest = some ([], rest) := by
  cases rest with
  | nil => rfl
  | cons c rest => rcases h c rfl with rfl | rfl | rfl <;> rfl

/-- A written number is read as it stands. -/
theorem readNumber_write (n : Nat) (h : Closes rest) :
    readNumber (Decimal.write n ++ rest) = some (Decimal.write n, rest) := by
  have hMagnitude : readMagnitude (Decimal.write n ++ rest) = some (Decimal.write n, rest) := by
    simp [readMagnitude, readInteger_write n h, h.readFraction, h.readExponent]
  rw [readNumber.eq_def]
  split
  · next tail hMinus =>
      have hHead : '-' ∈ Decimal.write n := by
        cases hDigits : Decimal.write n with
        | nil => exact absurd hDigits (Decimal.write_ne_nil n)
        | cons c digits =>
            rw [hDigits, List.cons_append] at hMinus
            rw [(List.cons.inj hMinus).1]
            exact List.mem_cons_self
      exact absurd (isDigit_of_mem_write hHead) (by decide)
  · exact hMagnitude

end RadioLifecycle.Json
