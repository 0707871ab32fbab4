import RadioLifecycle.Proofs.Json.Lexemes

/-!
Documents as they are written and read. A plain value, one that can be told from what is written of
it, is read from that text, whatever depth it has and whatever may follow a value.
-/

namespace RadioLifecycle.Json

/-- A value that can be told from its text: its texts stand for characters, and its numbers are
natural numbers. -/
inductive Value.Plain : Value → Prop where
  | null : Plain .null
  | boolean (b : Bool) : Plain (.boolean b)
  | natural (n : Nat) : Plain (.number (Decimal.write n))
  | text (s : String) : Plain (.ofString s)
  | array {items : List Value} (each : ∀ item ∈ items, Plain item) : Plain (.array items)
  | object {members : List (String × Value)} (each : ∀ member ∈ members, Plain member.2) :
      Plain (.ofMembers members)

/-- A value is read from its text with so many calls as are enough for every text of that length. -/
def Value.IsRead (v : Value) : Prop :=
  ∀ limit rest, 2 * v.write.length ≤ limit → Closes rest →
    readValue limit (v.write ++ rest) = some (v, rest)

theorem skipBlanks_cons {c : Char} (h : isBlank c = false) (rest : List Char) :
    skipBlanks (c :: rest) = c :: rest := by
  rw [skipBlanks, List.dropWhile_cons, h, if_neg Bool.false_ne_true]

/-! Values without parts. -/

theorem readValue_text (limit : Nat) (s : String) (rest : List Char) :
    readValue (limit + 1) (writeText s ++ rest) = some (.ofString s, rest) := by
  rw [readValue, writeText, List.append_assoc, List.cons_append]
  change (readText (s.toList.flatMap writeChar ++ '"' :: rest)).map _ = _
  rw [readText_write]
  simp [Value.ofString]

theorem isBlank_of_isDigit {c : Char} (h : Decimal.isDigit c = true) : isBlank c = false := by
  apply Bool.not_eq_true _ |>.mp
  intro hBlank
  simp only [isBlank, Bool.or_eq_true, beq_iff_eq] at hBlank
  rcases hBlank with ((rfl | rfl) | rfl) | rfl <;> exact absurd h (by decide)

theorem readValue_digit (limit : Nat) {c : Char} (h : Decimal.isDigit c = true)
    (rest : List Char) :
    readValue (limit + 1) (c :: rest) =
      (readNumber (c :: rest)).map fun (literal, rest) => (.number literal, rest) := by
  rw [readValue, skipBlanks_cons (isBlank_of_isDigit h)]
  split
  case h_7 => rfl
  all_goals
    next hHead =>
      cases hHead
      exact absurd h (by decide)

theorem readValue_natural (limit n : Nat) {rest : List Char} (h : Closes rest) :
    readValue (limit + 1) (Decimal.write n ++ rest) =
      some (.number (Decimal.write n), rest) := by
  have hRead := readNumber_write n h
  cases hDigits : Decimal.write n with
  | nil => exact absurd hDigits (Decimal.write_ne_nil n)
  | cons c digits =>
      have hDigit : Decimal.isDigit c = true := by
        apply isDigit_of_mem_write (n := n)
        rw [hDigits]
        exact List.mem_cons_self
      rw [hDigits] at hRead
      rw [List.cons_append, readValue_digit limit hDigit, ← List.cons_append, hRead,
        Option.map_some]

/-! Arrays and objects. -/

theorem readValue_array (limit : Nat) (rest : List Char) :
    readValue (limit + 1) ('[' :: rest) =
      match skipBlanks rest with
      | ']' :: rest => some (.array [], rest)
      | rest => (readItems limit rest).map fun (items, rest) => (.array items, rest) := by
  rw [readValue]
  rfl

theorem readValue_object (limit : Nat) (rest : List Char) :
    readValue (limit + 1) ('\x7b' :: rest) =
      match skipBlanks rest with
      | '\x7d' :: rest => some (.object [], rest)
      | rest => (readMembers limit rest).map fun (members, rest) => (.object members, rest) := by
  rw [readValue]
  rfl

/-- A plain value begins with a character that is seen and ends no array. -/
theorem Value.Plain.head {v : Value} (h : v.Plain) :
    ∃ c text, v.write = c :: text ∧ isBlank c = false ∧ c ≠ ']' := by
  cases h with
  | null => exact ⟨_, _, rfl, rfl, by decide⟩
  | boolean b => cases b <;> exact ⟨_, _, rfl, rfl, by decide⟩
  | text s => exact ⟨_, _, rfl, rfl, by decide⟩
  | array each => exact ⟨_, _, rfl, rfl, by decide⟩
  | object each => exact ⟨_, _, rfl, rfl, by decide⟩
  | natural n =>
      rw [Value.write]
      cases hDigits : Decimal.write n with
      | nil => exact absurd hDigits (Decimal.write_ne_nil n)
      | cons c digits =>
          have hDigit : Decimal.isDigit c = true := by
            apply isDigit_of_mem_write (n := n)
            rw [hDigits]
            exact List.mem_cons_self
          refine ⟨c, digits, rfl, isBlank_of_isDigit hDigit, ?_⟩
          rintro rfl
          exact absurd hDigit (by decide)

/-- A limit that is enough for the text of a value allows a call. -/
theorem Value.Plain.limit_pos {v : Value} (h : v.Plain) {limit : Nat}
    (hLimit : 2 * v.write.length ≤ limit) : ∃ fewer, limit = fewer + 1 := by
  obtain ⟨c, text, hHead, _⟩ := h.head
  rw [hHead, List.length_cons] at hLimit
  exact Nat.exists_eq_add_of_le' (by omega)

/-- The items of an array between its brackets. -/
def itemsText (items : List Value) : List Char :=
  List.intercalate [','] (writeItems items)

theorem itemsText_singleton (item : Value) : itemsText [item] = item.write :=
  List.intercalate_singleton

theorem itemsText_cons_cons (first second : Value) (rest : List Value) :
    itemsText (first :: second :: rest) = first.write ++ ',' :: itemsText (second :: rest) := by
  simp only [itemsText, writeItems, List.intercalate_cons_cons, List.append_assoc,
    List.singleton_append]

/-- Items are read one after the other, up to the bracket behind the last one. -/
theorem readItems_write {items : List Value} (hSome : items ≠ [])
    (each : ∀ item ∈ items, item.IsRead) (limit : Nat) (rest : List Char)
    (hLimit : 2 * (itemsText items).length + 1 ≤ limit) :
    readItems limit (itemsText items ++ ']' :: rest) = some (items, rest) := by
  induction items generalizing limit with
  | nil => exact absurd rfl hSome
  | cons item items ih =>
      obtain ⟨limit, rfl⟩ := Nat.exists_eq_add_of_le' (Nat.le_trans (Nat.le_add_left 1 _) hLimit)
      have hItem := each item List.mem_cons_self
      cases items with
      | nil =>
          rw [itemsText_singleton] at hLimit ⊢
          rw [readItems, hItem limit _ (by omega) (by simp [Closes])]
          rfl
      | cons second items =>
          rw [itemsText_cons_cons] at hLimit ⊢
          rw [List.length_append, List.length_cons] at hLimit
          have hRest := ih (List.cons_ne_nil _ _)
            (fun v hv => each v (List.mem_cons_of_mem _ hv)) limit (by omega)
          rw [List.append_assoc, List.cons_append, readItems,
            hItem limit _ (by omega) (by simp [Closes])]
          change (readItems limit (itemsText (second :: items) ++ ']' :: rest)).map _ = _
          rw [hRest]
          rfl

section

variable {v : Value} {limit : Nat} {rest : List Char}

/-- A member in front of a comma is read together with those behind it. -/
theorem readMembers_next (h : readValue limit (v.write ++ ',' :: rest) = some (v, ',' :: rest))
    (key : String) :
    readMembers (limit + 1) (writeText key ++ ':' :: (v.write ++ ',' :: rest)) =
      (readMembers limit rest).map fun (members, rest) => ((some key, v) :: members, rest) := by
  rw [readMembers, writeText, List.append_assoc, List.cons_append, skipBlanks_cons rfl]
  simp only [List.singleton_append, readText_write, skipBlanks_cons (c := ':') rfl, h,
    skipBlanks_cons (c := ',') rfl, Option.map_some, String.ofList_toList]

/-- The last member is read up to the brace behind it. -/
theorem readMembers_last (h : readValue limit (v.write ++ '\x7d' :: rest) = some (v, '\x7d' :: rest))
    (key : String) :
    readMembers (limit + 1) (writeText key ++ ':' :: (v.write ++ '\x7d' :: rest)) =
      some ([(some key, v)], rest) := by
  rw [readMembers, writeText, List.append_assoc, List.cons_append, skipBlanks_cons rfl]
  simp only [List.singleton_append, readText_write, skipBlanks_cons (c := ':') rfl, h,
    skipBlanks_cons (c := '\x7d') rfl, Option.map_some, String.ofList_toList]

end

/-- The members of an object between its braces. -/
def membersText (members : List (String × Value)) : List Char :=
  List.intercalate [','] (writeMembers (members.map fun (key, value) => (some key, value)))

theorem membersText_singleton (member : String × Value) :
    membersText [member] = writeText member.1 ++ ':' :: member.2.write :=
  List.intercalate_singleton

theorem membersText_cons_cons (first second : String × Value) (rest : List (String × Value)) :
    membersText (first :: second :: rest) =
      writeText first.1 ++ ':' :: (first.2.write ++ ',' :: membersText (second :: rest)) := by
  simp only [membersText, List.map_cons, writeMembers, List.intercalate_cons_cons,
    List.append_assoc, List.cons_append, List.nil_append, Option.getD_some]

/-- Members are read one after the other, up to the brace behind the last one. -/
theorem readMembers_write {members : List (String × Value)} (hSome : members ≠ [])
    (each : ∀ member ∈ members, member.2.IsRead) (limit : Nat) (rest : List Char)
    (hLimit : 2 * (membersText members).length + 1 ≤ limit) :
    readMembers limit (membersText members ++ '\x7d' :: rest) =
      some (members.map fun (key, value) => (some key, value), rest) := by
  induction members generalizing limit with
  | nil => exact absurd rfl hSome
  | cons member members ih =>
      obtain ⟨limit, rfl⟩ := Nat.exists_eq_add_of_le' (Nat.le_trans (Nat.le_add_left 1 _) hLimit)
      have hValue := each member List.mem_cons_self
      cases members with
      | nil =>
          rw [membersText_singleton] at hLimit ⊢
          rw [List.length_append, List.length_cons] at hLimit
          have hRead := hValue limit ('\x7d' :: rest) (by omega) (by simp [Closes])
          rw [List.append_assoc, List.cons_append, readMembers_last hRead]
          rfl
      | cons second members =>
          rw [membersText_cons_cons] at hLimit ⊢
          simp only [List.length_append, List.length_cons] at hLimit
          have hRest := ih (List.cons_ne_nil _ _)
            (fun v hv => each v (List.mem_cons_of_mem _ hv)) limit (by omega)
          have hRead := hValue limit
            (',' :: (membersText (second :: members) ++ '\x7d' :: rest)) (by omega)
            (by simp [Closes])
          simp only [List.append_assoc, List.cons_append]
          rw [readMembers_next hRead, hRest]
          rfl

/-! Whole documents. -/

theorem isRead_array {items : List Value} (hPlain : ∀ item ∈ items, item.Plain)
    (each : ∀ item ∈ items, item.IsRead) : (Value.array items).IsRead := by
  intro limit rest hLimit _
  have hText : (Value.array items).write = '[' :: (itemsText items ++ [']']) := rfl
  rw [hText] at hLimit ⊢
  simp only [List.length_cons, List.length_append, List.length_nil] at hLimit
  obtain ⟨limit, rfl⟩ := Nat.exists_eq_add_of_le' (Nat.le_trans (Nat.le_add_left 1 _) hLimit)
  rw [List.cons_append, List.append_assoc, List.singleton_append, readValue_array]
  cases items with
  | nil => rfl
  | cons item items =>
      have hRead := readItems_write (List.cons_ne_nil item items) each limit rest (by omega)
      obtain ⟨c, text, hHead, hSeen, hOpen⟩ := (hPlain item List.mem_cons_self).head
      obtain ⟨more, hText⟩ : ∃ more, itemsText (item :: items) = c :: more := by
        cases items with
        | nil => exact ⟨text, by rw [itemsText_singleton, hHead]⟩
        | cons second items =>
            exact ⟨_, by rw [itemsText_cons_cons, hHead, List.cons_append]⟩
      rw [hText, List.cons_append] at hRead
      rw [hText, List.cons_append, skipBlanks_cons hSeen]
      split
      · next hClose => exact absurd (List.cons.inj hClose).1 hOpen
      · rw [hRead]
        rfl

theorem isRead_object {members : List (String × Value)}
    (each : ∀ member ∈ members, member.2.IsRead) : (Value.ofMembers members).IsRead := by
  intro limit rest hLimit _
  have hText : (Value.ofMembers members).write = '\x7b' :: (membersText members ++ ['\x7d']) := rfl
  rw [hText] at hLimit ⊢
  simp only [List.length_cons, List.length_append, List.length_nil] at hLimit
  obtain ⟨limit, rfl⟩ := Nat.exists_eq_add_of_le' (Nat.le_trans (Nat.le_add_left 1 _) hLimit)
  rw [List.cons_append, List.append_assoc, List.singleton_append, readValue_object]
  cases members with
  | nil => rfl
  | cons member members =>
      have hRead := readMembers_write (List.cons_ne_nil member members) each limit rest (by omega)
      obtain ⟨more, hText⟩ : ∃ more, membersText (member :: members) = '"' :: more := by
        cases members with
        | nil => exact ⟨_, membersText_singleton member⟩
        | cons second members => exact ⟨_, membersText_cons_cons member second members⟩
      rw [hText, List.cons_append] at hRead
      rw [hText, List.cons_append, skipBlanks_cons rfl]
      change (readMembers limit ('"' :: (more ++ '\x7d' :: rest))).map _ = _
      rw [hRead]
      rfl

theorem Value.Plain.isRead {v : Value} (h : v.Plain) : v.IsRead := by
  induction h with
  | array hPlain each => exact isRead_array hPlain each
  | object _ each => exact isRead_object each
  | null =>
      intro limit rest hLimit _
      obtain ⟨limit, rfl⟩ := Plain.null.limit_pos hLimit
      rfl
  | boolean b =>
      intro limit rest hLimit _
      obtain ⟨limit, rfl⟩ := (Plain.boolean b).limit_pos hLimit
      cases b <;> rfl
  | natural n =>
      intro limit rest hLimit hCloses
      obtain ⟨limit, rfl⟩ := (Plain.natural n).limit_pos hLimit
      exact readValue_natural limit n hCloses
  | text s =>
      intro limit rest hLimit _
      obtain ⟨limit, rfl⟩ := (Plain.text s).limit_pos hLimit
      exact readValue_text limit s rest

/-- What is written of a plain value is read as that value. -/
theorem read?_render {v : Value} (h : v.Plain) : read? v.render = some v := by
  have hRead := h.isRead (2 * v.write.length + 2) [] (by omega) (by simp [Closes])
  rw [List.append_nil] at hRead
  simp only [read?, Value.render, String.toList_ofList, hRead]
  rfl

end RadioLifecycle.Json
