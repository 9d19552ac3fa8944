import Companion.Yaml.Cursor
import Companion.Yaml.Fault

/-!
# Gathered texts

The text of a scalar as it is gathered. Its room is sixteen bytes at first and doubles whenever a
single character comes close to its end. A run of characters is put in as a whole and gets no more
room than there is: one that is too long is a fault.
-/

namespace Companion.Yaml

/-- A text so far, and the room that it has. -/
structure TextBuffer where
  /-- The characters, last one first. -/
  done : List Char := []
  /-- How many bytes they take. -/
  size : Nat := 0
  /-- How many bytes there is room for. -/
  room : Nat := 16

namespace TextBuffer

/-- Puts a character at the end. Fewer than six free bytes in front of it double the room. -/
def push (b : TextBuffer) (c : Char) : TextBuffer :=
  { done := c :: b.done
    size := b.size + c.utf8Size
    room := if b.size + 5 < b.room then b.room else 2 * b.room }

/-- Puts characters at the end one after the other. -/
def pushAll (b : TextBuffer) (cs : List Char) : TextBuffer :=
  cs.foldl push b

/-- Puts a run of characters at the end as a whole. -/
def join (b : TextBuffer) (cs : List Char) : Except Fault TextBuffer :=
  if b.size + byteCount cs ≤ b.room then
    .ok { b with done := cs.reverse ++ b.done, size := b.size + byteCount cs }
  else .error .overflow

def text (b : TextBuffer) : List Char :=
  b.done.reverse

end TextBuffer

end Companion.Yaml
