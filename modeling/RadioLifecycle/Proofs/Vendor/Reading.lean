import Mathlib.Data.List.TakeWhile
import RadioLifecycle.Proofs.Text.Lossy
import RadioLifecycle.Proofs.Vendor.Buffer

/-!
Reading a buffer brings its bytes into a normal form. Only the bytes in front of the first zero byte
count, whatever they are, and the text that is read of them can be stored and read again.
-/

namespace RadioLifecycle.Vendor.Buffer

open Utf8 (ReadAs)

/-- The bytes of a buffer that count: they end where its first zero byte stands, or where it ends
itself. -/
def Holds (buffer : Buffer) (bytes : List UInt8) : Prop :=
  0 ∉ bytes ∧ (buffer = bytes ∨ ∃ rest, buffer = bytes ++ 0 :: rest)

theorem takeWhile_of_not_mem {bytes : List UInt8} (h : 0 ∉ bytes) :
    bytes.takeWhile (· != 0) = bytes := by
  rw [List.takeWhile_eq_self_iff]
  intro b hMember
  exact bne_iff_ne.mpr (ne_of_mem_of_not_mem hMember h)

theorem Holds.takeWhile_eq {buffer : Buffer} {bytes : List UInt8} (h : buffer.Holds bytes) :
    buffer.takeWhile (· != 0) = bytes := by
  obtain ⟨hClean, rfl | ⟨rest, rfl⟩⟩ := h
  · exact takeWhile_of_not_mem hClean
  · rw [takeWhile_terminated, takeWhile_of_not_mem hClean]

theorem holds_takeWhile (buffer : Buffer) : buffer.Holds (buffer.takeWhile (· != 0)) := by
  have hClean : 0 ∉ buffer.takeWhile (· != 0) := by
    intro hZero
    have hPassed := List.mem_takeWhile_imp (p := (· != 0)) hZero
    exact absurd hPassed (by decide)
  have hWhole := buffer.takeWhile_append_dropWhile (p := (· != 0))
  refine ⟨hClean, ?_⟩
  cases hEnd : buffer.dropWhile (· != 0) with
  | nil =>
      rw [hEnd, List.append_nil] at hWhole
      exact .inl hWhole.symm
  | cons b rest =>
      -- What is left begins with a byte that is not passed over.
      have hHead := buffer.dropWhile_get_zero_not (· != 0) (by simp [hEnd])
      have hZero : b = 0 := by simpa [hEnd] using hHead
      rw [hEnd, hZero] at hWhole
      exact .inr ⟨rest, hWhole.symm⟩

/-- The text that a buffer is read as is the one that is read of its bytes. -/
theorem Holds.read_eq_iff {buffer : Buffer} {bytes : List UInt8} (h : buffer.Holds bytes)
    (text : String) : buffer.read = text ↔ ReadAs bytes text.toList := by
  rw [read, h.takeWhile_eq, Utf8.readAs_iff, ← String.toList_inj, String.toList_ofList]

theorem zero_not_mem_read (buffer : Buffer) : '\x00' ∉ buffer.read.toList := by
  have hHolds := buffer.holds_takeWhile
  intro hZero
  exact hHolds.1 (((hHolds.read_eq_iff _).mp rfl).zero_mem hZero)

theorem visible_of_not_mem {text : String} (h : '\x00' ∉ text.toList) : visible text = text := by
  apply String.toList_inj.mp
  rw [visible, String.toList_ofList, List.takeWhile_eq_self_iff]
  intro c hMember
  exact decide_eq_true (ne_of_mem_of_not_mem hMember h)

/-- Reading a buffer. The text has no zero character, and it is the one that is read of the bytes in
front of the first zero byte, so that no other part of the buffer matters. Bytes that are a text are
read as that text. What was read can be written into every buffer with room for it and a zero byte
and is then read again. -/
theorem read_normalises (buffer : Buffer) :
    '\x00' ∉ buffer.read.toList ∧
    (∃ bytes, buffer.Holds bytes ∧
      (∀ text : String, ReadAs bytes text.toList ↔ text = buffer.read) ∧
      ∀ other : Buffer, other.Holds bytes → other.read = buffer.read) ∧
    (∀ text : String, buffer.Holds text.toUTF8.data.toList → buffer.read = text) ∧
    ∀ target : Buffer, buffer.read.utf8ByteSize < target.length →
      (target.write buffer.read).2.read = buffer.read := by
  have hHolds := buffer.holds_takeWhile
  refine ⟨buffer.zero_not_mem_read, ⟨_, hHolds, fun text => ?_, fun other hOther => ?_⟩, ?_, ?_⟩
  · rw [← hHolds.read_eq_iff, eq_comm]
  · exact (hOther.read_eq_iff _).mpr ((hHolds.read_eq_iff _).mp rfl)
  · intro text hText
    rw [Utf8.toList_toUTF8] at hText
    rw [hText.read_eq_iff, Utf8.readAs_iff]
    exact Utf8.decodeLossy_encode text.toList
  · intro target hRoom
    obtain ⟨room, hLength⟩ := Nat.exists_eq_succ_of_ne_zero (Nat.ne_zero_of_lt hRoom)
    have hVisible := visible_of_not_mem buffer.zero_not_mem_read
    have hFits : (visible buffer.read).utf8ByteSize ≤ room := by
      rw [hVisible]
      omega
    rw [read_write_of_le hLength hFits, hVisible]

/-- A character of three bytes breaks off at the zero byte of one buffer and at the end of another.
What is read has one byte more than what counts, and fills a buffer of five cells. -/
theorem read_normalises_brokenOff :
    let cut : Buffer := [0x61, 0xE2, 0x82, 0x00, 0xFF]
    let whole : Buffer := [0xE2, 0x82, 0xAC, 0x00, 0x61]
    cut.read = "a\uFFFD" ∧ whole.read = "€" ∧
      Buffer.read [0x61, 0xE2, 0x82] = "a\uFFFD" ∧
      (Buffer.write [7, 7, 7, 7, 7] cut.read).2.read = "a\uFFFD" := by
  intro cut whole
  have hCut : cut.read = "a\uFFFD" := by decide +kernel
  have hEuro : "€".toUTF8.data.toList = [0xE2, 0x82, 0xAC] := by decide +kernel
  obtain ⟨-, ⟨bytes, hHolds, -, hOther⟩, -, hAgain⟩ := read_normalises cut
  obtain ⟨-, -, hText, -⟩ := read_normalises whole
  have hBytes : bytes = [0x61, 0xE2, 0x82] := hHolds.takeWhile_eq.symm
  refine ⟨hCut, hText "€" ?_, ?_, ?_⟩
  · rw [hEuro]
    exact ⟨by decide, .inr ⟨[0x61], rfl⟩⟩
  · rw [hOther [0x61, 0xE2, 0x82] ⟨hHolds.1, .inl hBytes.symm⟩, hCut]
  · rw [hAgain [7, 7, 7, 7, 7] (by rw [hCut]; decide +kernel), hCut]

end RadioLifecycle.Vendor.Buffer
