/-!
# A place in a document's text

Scanning goes over the characters once. A cursor holds what is left of them and where it stands:
how many bytes precede it, and on which line and column. Lengths are counted in bytes, columns in
characters. Every move takes characters off the front, which is what ends every loop over a document;
the lemmas at the end say so.
-/

namespace Companion.Yaml

/-! ## Characters -/

def isBreak (c : Char) : Bool :=
  c == '\r' || c == '\n' || c == '\u0085' || c == '\u2028' || c == '\u2029'

/-- A space or a tab. -/
def isBlank (c : Char) : Bool :=
  c == ' ' || c == '\t'

/-- A character that names and handles are made of. -/
def isWord (c : Char) : Bool :=
  c.isAlphanum || c == '_' || c == '-'

/-- A character that may stand in a document at all. -/
def isAllowed (c : Char) : Bool :=
  let n := c.toNat
  n == 0x09 || n == 0x0A || n == 0x0D || (0x20 ≤ n && n ≤ 0x7E) || n == 0x85
    || (0xA0 ≤ n && n ≤ 0xD7FF) || (0xE000 ≤ n && n ≤ 0xFFFD) || 0x10000 ≤ n

/-- Nothing follows, or a blank or the end of a line. -/
def endsWord : List Char → Bool
  | [] => true
  | c :: _ => isBlank c || isBreak c

def byteCount : List Char → Nat
  | [] => 0
  | c :: rest => c.utf8Size + byteCount rest

/-! ## Cursors -/

/-- The characters that are left, and where the first of them stands. -/
structure Cursor where
  rest : List Char
  index : Nat := 0
  line : Nat := 0
  column : Nat := 0

namespace Cursor

/-- Behind one character that ends no line. -/
def next (c : Cursor) : Cursor :=
  match c.rest with
  | [] => c
  | a :: rest => { c with rest, index := c.index + a.utf8Size, column := c.column + 1 }

/-- Behind several characters that end no line. -/
def skip (c : Cursor) (n : Nat) : Cursor :=
  { c with
    rest := c.rest.drop n, index := c.index + byteCount (c.rest.take n), column := c.column + n }

/-- Behind the end of a line. A carriage return and a line feed end it together. -/
def nextLine (c : Cursor) : Cursor :=
  match c.rest with
  | '\r' :: '\n' :: rest => ⟨rest, c.index + 2, c.line + 1, 0⟩
  | a :: rest => ⟨rest, c.index + a.utf8Size, c.line + 1, 0⟩
  | [] => c

/-- What the end of a line stands for in a text: the two separators stand for themselves, all else
    for a line feed. -/
def breakChar (c : Cursor) : Char :=
  match c.rest with
  | '\u2028' :: _ => '\u2028'
  | '\u2029' :: _ => '\u2029'
  | _ => '\n'

/-- Behind the characters of a class that ends no line. -/
def skipWhile (p : Char → Bool) (c : Cursor) : Cursor :=
  c.skip (c.rest.takeWhile p).length

/-- The marker of a document's beginning or end stands at the start of a line. -/
def atMarker (marker : Char) (c : Cursor) : Bool :=
  c.column == 0 && [marker, marker, marker].isPrefixOf c.rest && endsWord (c.rest.drop 3)

def atDocumentMarker (c : Cursor) : Bool :=
  c.atMarker '-' || c.atMarker '.'

/-! ## Moves take characters off the front -/

theorem rest_next (c : Cursor) : c.next.rest = c.rest.tail := by
  unfold next
  split
  · next h => simp [h]
  · next h => simp [h]

theorem length_next {c : Cursor} {a : Char} {r : List Char} (h : c.rest = a :: r) :
    c.next.rest.length < c.rest.length := by
  simp [rest_next, h]

theorem length_skip {c : Cursor} {a : Char} {r : List Char} {n : Nat} (h : c.rest = a :: r)
    (hn : 0 < n) : (c.skip n).rest.length < c.rest.length := by
  simp only [skip, List.length_drop, h, List.length_cons]
  omega

theorem length_nextLine {c : Cursor} {a : Char} {r : List Char} (h : c.rest = a :: r) :
    c.nextLine.rest.length < c.rest.length := by
  unfold nextLine
  split
  · next heq => rw [heq]; simp only [List.length_cons]; omega
  · next heq => rw [heq]; simp
  · next heq => simp [heq] at h

theorem length_nextLine_le (c : Cursor) : c.nextLine.rest.length ≤ c.rest.length := by
  unfold nextLine
  split
  · next heq => rw [heq]; simp only [List.length_cons]; omega
  · next heq => rw [heq]; simp
  · simp

theorem length_skip_le (c : Cursor) (n : Nat) : (c.skip n).rest.length ≤ c.rest.length := by
  simp only [skip, List.length_drop]
  omega

/-- Behind the end of the line, however far along it the move to the end began. -/
theorem length_nextLine_skip_lt {c : Cursor} {a : Char} {r : List Char} (h : c.rest = a :: r)
    (n : Nat) : (c.skip n).nextLine.rest.length < c.rest.length := by
  cases hs : (c.skip n).rest with
  | nil => simp [nextLine, hs, h]
  | cons b t => exact Nat.lt_of_lt_of_le (length_nextLine hs) (length_skip_le c n)

theorem length_skipWhile_le (p : Char → Bool) (c : Cursor) :
    (c.skipWhile p).rest.length ≤ c.rest.length := by
  exact length_skip_le c _

end Cursor

end Companion.Yaml
