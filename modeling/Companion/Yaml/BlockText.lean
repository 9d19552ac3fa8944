import Companion.Yaml.TextBuffer

/-!
# Block scalars

Literal and folded scalars. The header may say how far the text is indented and what becomes of the
line ends behind it; otherwise the first line that is not empty gives the indentation, and one line
end is kept. A folded text joins its lines by spaces, except around lines that are indented further.
-/

namespace Companion.Yaml

/-- What becomes of the line ends behind a block scalar. -/
inductive Chomping where
  | strip
  | clip
  | keep
  deriving DecidableEq, Repr

/-- The chomping that a sign in the header asks for. -/
def chomping? : List Char → Option Chomping
  | '+' :: _ => some .keep
  | '-' :: _ => some .strip
  | _ => none

/-- The indentation that a digit in the header asks for. Zero is refused. -/
def increment? : List Char → Option (Option Nat)
  | c :: _ =>
    if c.isDigit then if c == '0' then none else some (some (c.toNat - '0'.toNat)) else some none
  | [] => some none

/-- The header of a block scalar, from behind its indicator: a sign and a digit in either order. -/
def blockHeader (c : Cursor) : Option (Chomping × Option Nat × Cursor) :=
  match chomping? c.rest with
  | some chomping => do
    let c := c.next
    let increment ← increment? c.rest
    return (chomping, increment, if increment.isSome then c.next else c)
  | none => do
    let increment ← increment? c.rest
    let c := if increment.isSome then c.next else c
    match chomping? c.rest with
    | some chomping => return (chomping, increment, c.next)
    | none => return (.clip, increment, c)

/-- Behind the rest of a line that may only hold blanks and a comment. -/
def restOfLine? (c : Cursor) : Option Cursor :=
  let c := c.skipWhile isBlank
  let c := if c.rest.head? == some '#' then c.skipWhile (!isBreak ·) else c
  match c.rest with
  | [] => some c
  | a :: _ => if isBreak a then some c.nextLine else none

/-- The empty lines of a block scalar: their line ends, the greatest column that blanks reach, and the
    first line that is not empty. A tab among the blanks that indent is refused. -/
def emptyLines (indent : Option Nat) (widest : Nat) (breaks : List Char) (c : Cursor) :
    Option (List Char × Nat × Cursor) :=
  let spaces := (c.rest.takeWhile (· == ' ')).length
  -- Where no indentation is known, all spaces count as indentation.
  let atText := c.skip (match indent with
    | none => spaces
    | some n => min spaces (n - c.column))
  let widest := max widest atText.column
  match _h : atText.rest with
  | [] => some (breaks, widest, atText)
  | a :: _ =>
    let indenting := match indent with
      | none => true
      | some n => atText.column < n
    if indenting && a == '\t' then none
    else if isBreak a then
      emptyLines indent widest (breaks ++ [atText.breakChar]) atText.nextLine
    else some (breaks, widest, atText)
termination_by c.rest.length
decreasing_by exact Nat.lt_of_lt_of_le (Cursor.length_nextLine _h) (Cursor.length_skip_le _ _)

theorem length_emptyLines_le {indent : Option Nat} {widest : Nat} {breaks : List Char} {c : Cursor}
    {r : List Char × Nat × Cursor} (h : emptyLines indent widest breaks c = some r) :
    r.2.2.rest.length ≤ c.rest.length := by
  fun_induction emptyLines indent widest breaks c with
  | case1 => cases h; exact Cursor.length_skip_le _ _
  | case2 => cases h
  | case3 _ _ c _ _ _ _ _ heq _ _ _ ih =>
    exact Nat.le_trans (ih h)
      (Nat.le_trans (Nat.le_of_lt (Cursor.length_nextLine heq)) (Cursor.length_skip_le _ _))
  | case4 => cases h; exact Cursor.length_skip_le _ _

/-- The text with the line ends between two of its lines. -/
def betweenLines (literal : Bool) (first : Option Char) (more : List Char)
    (blankBefore blankAfter : Bool) (b : TextBuffer) : Except Fault TextBuffer :=
  if !literal && first == some '\n' && !blankBefore && !blankAfter then
    if more.isEmpty then .ok (b.push ' ') else b.join more
  else b.join (first.toList ++ more)

/-- The text with the line ends behind its last line. -/
def afterLines (chomping : Chomping) (first : Option Char) (more : List Char) (b : TextBuffer) :
    Except Fault TextBuffer :=
  match chomping with
  | .strip => .ok b
  | .clip => b.join first.toList
  | .keep => b.join (first.toList ++ more)

/-- The lines of a block scalar behind the text so far, with the line ends in front of the first. -/
def blockLines (literal : Bool) (chomping : Chomping) (indent : Nat) (b : TextBuffer)
    (first : Option Char) (more : List Char) (blankBefore : Bool) (c : Cursor) :
    Except Fault (TextBuffer × Cursor) :=
  match _h : c.rest with
  | [] => (afterLines chomping first more b).map (·, c)
  | a :: _ =>
    if c.column != indent then (afterLines chomping first more b).map (·, c)
    else
      match betweenLines literal first more blankBefore (isBlank a) b with
      | .error f => .error f
      | .ok b =>
        let line := c.rest.takeWhile (!isBreak ·)
        let atEnd := c.skip line.length
        let first := if atEnd.rest.isEmpty then none else some atEnd.breakChar
        match _he : emptyLines (some indent) 0 [] atEnd.nextLine with
        | none => .error .malformed
        | some (breaks, _, c') =>
          blockLines literal chomping indent (b.pushAll line) first breaks (isBlank a) c'
termination_by c.rest.length
decreasing_by
  exact Nat.lt_of_le_of_lt (length_emptyLines_le _he) (Cursor.length_nextLine_skip_lt _h _)

/-- The text of a block scalar, from behind its indicator, inside a collection at that indentation
    (zero for none, otherwise one more than its column). -/
def blockScalar (literal : Bool) (indent : Nat) (c : Cursor) :
    Except Fault (List Char × Cursor) := do
  let (chomping, increment, c) ← blockHeader c
  let c ← restOfLine? c
  let given := increment.map fun n => (indent - 1) + n
  let (breaks, widest, c) ← emptyLines given 0 [] c
  -- Not given, the indentation is as far as blanks reach, but no less than that around it.
  let column := given.getD (max (max widest indent) 1)
  let (b, c) ← blockLines literal chomping column {} none breaks false c
  return (b.text, c)

end Companion.Yaml
