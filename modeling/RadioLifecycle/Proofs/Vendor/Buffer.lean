import RadioLifecycle.Proofs.Text.Utf8
import RadioLifecycle.Vendor.Buffer

/-!
Bounded buffers give back what was written into them, up to their size. A text shows up to its first
zero character. If it has room, it shows as it is; otherwise it shows up to the last character that
has room for all its bytes, and one replacement character tells of a character that was cut through.
What the buffer held before does not show.
-/

namespace RadioLifecycle.Vendor.Buffer

open Utf8 (encode decodeLossy fitting replacement)

/-- What a reader can make of a text: all before its first zero character. -/
def visible (text : String) : String :=
  String.ofList (text.toList.takeWhile (· ≠ '\x00'))

/-- The longest beginning of a text that a number of bytes suffice for. -/
structure LongestWithin (room : Nat) (text kept : String) : Prop where
  beginning : kept.toList <+: text.toList
  fits : kept.utf8ByteSize ≤ room
  longest : ∀ other : String, other.toList <+: text.toList → other.utf8ByteSize ≤ room →
    other.toList <+: kept.toList

theorem longestWithin_fitting (room : Nat) (text : String) :
    LongestWithin room text (String.ofList (fitting room text.toList)) where
  beginning := by
    rw [String.toList_ofList]
    exact Utf8.fitting_prefix room text.toList
  fits := by
    rw [Utf8.utf8ByteSize_eq, String.toList_ofList]
    exact Utf8.length_encode_fitting room text.toList
  longest := by
    intro other hStart hRoom
    rw [Utf8.utf8ByteSize_eq] at hRoom
    rw [String.toList_ofList]
    exact Utf8.prefix_fitting hStart hRoom

/-- There is only one longest beginning. -/
theorem LongestWithin.unique {room : Nat} {text kept other : String}
    (h : LongestWithin room text kept) (h' : LongestWithin room text other) : kept = other := by
  have hLeft : kept.toList <+: other.toList := h'.longest kept h.beginning h.fits
  have hRight : other.toList <+: kept.toList := h.longest other h'.beginning h'.fits
  exact String.toList_inj.mp (hLeft.eq_of_length_le hRight.length_le)

variable {buffer : Buffer} {room : Nat}

theorem write_of_room (h : buffer.length = room + 1) (text : String) :
    buffer.write text =
      (min text.utf8ByteSize room, text.toUTF8.data.toList.take (min text.utf8ByteSize room) ++
        0 :: buffer.drop (min text.utf8ByteSize room + 1)) := by
  have hStored : ((encode text.toList).take room).length = min text.utf8ByteSize room := by
    rw [List.length_take, Utf8.utf8ByteSize_eq, Nat.min_comm]
  have hBytes : text.toUTF8.data.toList.take (min text.utf8ByteSize room) =
      (encode text.toList).take room := by
    rw [Utf8.toList_toUTF8, Utf8.utf8ByteSize_eq, Nat.min_comm, List.take_eq_take_iff]
    omega
  simp only [write, h, hStored, hBytes]

/-- A zero byte ends what is read, so that nothing behind it matters. -/
theorem takeWhile_terminated (bytes rest : List UInt8) :
    (bytes ++ 0 :: rest).takeWhile (· != 0) = bytes.takeWhile (· != 0) := by
  rw [List.takeWhile_append]
  split
  · next hAll =>
      rw [(List.takeWhile_prefix _).eq_of_length hAll]
      exact List.append_nil bytes
  · rfl

/-- What is read after a write is what the bytes of the visible text show that have room. -/
theorem read_write_of_room (h : buffer.length = room + 1) (text : String) :
    (buffer.write text).2.read =
      String.ofList (decodeLossy ((encode (visible text).toList).take room)) := by
  have hWrite : (buffer.write text).2 = (encode text.toList).take room ++
      0 :: buffer.drop (((encode text.toList).take room).length + 1) := by
    simp only [write, h]
  rw [hWrite, read, takeWhile_terminated, ← List.take_takeWhile, Utf8.takeWhile_encode, visible,
    String.toList_ofList]

theorem read_write_of_le (h : buffer.length = room + 1) {text : String}
    (hRoom : (visible text).utf8ByteSize ≤ room) : (buffer.write text).2.read = visible text := by
  rw [Utf8.utf8ByteSize_eq] at hRoom
  rw [read_write_of_room h, List.take_of_length_le hRoom, Utf8.decodeLossy_encode,
    String.ofList_toList]

theorem read_write_of_lt (h : buffer.length = room + 1) {text : String}
    (hRoom : room < (visible text).utf8ByteSize) :
    ∃ kept, LongestWithin room (visible text) kept ∧
      (buffer.write text).2.read =
        if kept.utf8ByteSize < room then kept.push replacement else kept := by
  let kept := String.ofList (fitting room (visible text).toList)
  refine ⟨kept, longestWithin_fitting room (visible text), ?_⟩
  have hKept : kept.toList = fitting room (visible text).toList := String.toList_ofList
  rw [Utf8.utf8ByteSize_eq] at hRoom
  rw [read_write_of_room h, Utf8.decodeLossy_take_encode hRoom, Utf8.utf8ByteSize_eq, hKept]
  split
  · apply String.toList_inj.mp
    rw [String.toList_ofList, String.toList_push, hKept]
  · rw [List.append_nil]

/-- Whatever is read after a write is a beginning of the text, but for one replacement character at
most. -/
theorem exists_beginning_read (h : buffer.length = room + 1) (text : String) :
    ∃ kept : String, kept.toList <+: text.toList ∧
      ((buffer.write text).2.read = kept ∨ (buffer.write text).2.read = kept.push replacement) := by
  have hVisible : (visible text).toList <+: text.toList := by
    rw [visible, String.toList_ofList]
    exact List.takeWhile_prefix _
  by_cases hRoom : (visible text).utf8ByteSize ≤ room
  · exact ⟨visible text, hVisible, .inl (read_write_of_le h hRoom)⟩
  · obtain ⟨kept, hKept, hRead⟩ := read_write_of_lt h (Nat.lt_of_not_le hRoom)
    refine ⟨kept, hKept.beginning.trans hVisible, ?_⟩
    rw [hRead]
    split
    · exact .inr rfl
    · exact .inl rfl

/-- What becomes of a text that is written into a bounded buffer and read again. As many of its
bytes are stored as leave room for the zero byte behind them, and every other cell keeps its
content. What is visible of the text is read unchanged if it has room; otherwise the longest
beginning of it that has room is read, with one replacement character behind it if room is left
over. The former content of the buffer does not show. -/
theorem write_then_read (buffer : Buffer) (text : String) :
    (buffer.length = 0 → buffer.write text = (0, buffer)) ∧
    ∀ room, buffer.length = room + 1 →
      let stored := min text.utf8ByteSize room
      (buffer.write text).1 = stored ∧
      (buffer.write text).2 =
        text.toUTF8.data.toList.take stored ++ 0 :: buffer.drop (stored + 1) ∧
      ((visible text).utf8ByteSize ≤ room → (buffer.write text).2.read = visible text) ∧
      (room < (visible text).utf8ByteSize → ∃ kept, LongestWithin room (visible text) kept ∧
        (buffer.write text).2.read =
          if kept.utf8ByteSize < room then kept.push replacement else kept) ∧
      (∀ other : Buffer, other.length = buffer.length →
        (other.write text).2.read = (buffer.write text).2.read) ∧
      ∃ kept : String, kept.toList <+: text.toList ∧
        ((buffer.write text).2.read = kept ∨
          (buffer.write text).2.read = kept.push replacement) := by
  constructor
  · intro hEmpty
    simp only [write, hEmpty]
  · intro room hLength stored
    have hWrite := write_of_room hLength text
    refine ⟨by rw [hWrite], by rw [hWrite], read_write_of_le hLength, read_write_of_lt hLength, ?_,
      exists_beginning_read hLength text⟩
    intro other hOther
    rw [read_write_of_room hLength, read_write_of_room (hOther.trans hLength)]

/-- A character of three bytes is cut through behind its second byte, in a buffer of four cells. -/
theorem write_then_read_cutCharacter :
    let buffer : Buffer := [7, 7, 7, 7]
    (buffer.write "a€\x00b").1 = 3 ∧ (buffer.write "a€\x00b").2.read = "a\uFFFD" ∧
      ∃ kept, LongestWithin 3 (visible "a€\x00b") kept ∧ kept.push replacement = "a\uFFFD" := by
  intro buffer
  obtain ⟨hStored, _, _, hCut, _, _⟩ := (write_then_read buffer "a€\x00b").2 3 rfl
  have hRead : (buffer.write "a€\x00b").2.read = "a\uFFFD" := by decide +kernel
  obtain ⟨kept, hKept, hShown⟩ := hCut (by decide +kernel)
  refine ⟨hStored, hRead, kept, hKept, ?_⟩
  rw [hRead] at hShown
  split at hShown
  · exact hShown.symm
  · -- The text that is read has one byte more than the three for which there is room.
    have hFits := hKept.fits
    rw [← hShown] at hFits
    exact absurd hFits (by decide +kernel)

end RadioLifecycle.Vendor.Buffer
