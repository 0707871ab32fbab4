import RadioLifecycle.Text.Utf8

/-!
Bounded byte buffers, in which a vendor library leaves short texts. A text is cut to the room that
is left beside the terminating zero byte, without regard to character boundaries, and a reader
replaces what the cut made ill-formed.
-/

namespace RadioLifecycle.Vendor

/-- The cells of a buffer. Its length is fixed by whoever provides it. -/
abbrev Buffer := List UInt8

namespace Buffer

def zeroed (size : Nat) : Buffer :=
  List.replicate size 0

/-- Store as many bytes of the text as leave room for a zero byte, and that byte after them. The
cells behind it keep their content, and a buffer without cells stays as it is. The first result is
the number of bytes stored, the zero byte not counted. -/
def write (buffer : Buffer) (text : String) : Nat × Buffer :=
  match buffer.length with
  | 0 => (0, buffer)
  | room + 1 =>
    let stored := (Utf8.encode text.toList).take room
    (stored.length, stored ++ 0 :: buffer.drop (stored.length + 1))

/-- The text before the first zero byte, or in all cells if there is none. -/
def read (buffer : Buffer) : String :=
  String.ofList (Utf8.decodeLossy (buffer.takeWhile (· != 0)))

end Buffer

end RadioLifecycle.Vendor
