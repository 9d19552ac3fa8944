import Companion.Yaml.TextBuffer
import Companion.Data.Scalar

/-!
# Flow scalars

Quoted and plain scalars. Both fold lines: a run of blanks and line ends between two words is a gap.
Without a line end a gap is its blanks; with one it is a single space, and with more it is all of
them but the first. A plain scalar ends where its line could be something else, and gives back the
gap behind it.
-/

namespace Companion.Yaml

/-! ## Gaps -/

/-- A gap so far. -/
structure Gap where
  /-- Blanks before the first line end. -/
  blanks : List Char := []
  /-- A line end was met, or is known to have been. -/
  broken : Bool := false
  /-- The first line end. -/
  first : Option Char := none
  /-- The further line ends. -/
  more : List Char := []

namespace Gap

/-- The gap with a further blank. Blanks behind a line end do not count. -/
def blank (g : Gap) (c : Char) : Gap :=
  if g.broken then g else { g with blanks := g.blanks ++ [c] }

def lineEnd (g : Gap) (c : Char) : Gap :=
  if g.broken then { g with more := g.more ++ [c] }
  else { blanks := [], broken := true, first := some c, more := [] }

/-- The text with what stands for the gap. A single line end becomes a space. -/
def onto (g : Gap) (b : TextBuffer) : Except Fault TextBuffer :=
  if g.broken then
    match g.first with
    | some '\n' => if g.more.isEmpty then .ok (b.push ' ') else b.join g.more
    | first => b.join (first.toList ++ g.more)
  else b.join g.blanks

end Gap

/-- The gap at a place, and the place behind it. -/
def gapFrom (g : Gap) (c : Cursor) : Gap × Cursor :=
  match _h : c.rest with
  | [] => (g, c)
  | a :: _ =>
    if isBlank a then gapFrom (g.blank a) c.next
    else if isBreak a then gapFrom (g.lineEnd c.breakChar) c.nextLine
    else (g, c)
termination_by c.rest.length
decreasing_by
  · exact Cursor.length_next _h
  · exact Cursor.length_nextLine _h

theorem length_gapFrom_le (g : Gap) (c : Cursor) :
    (gapFrom g c).2.rest.length ≤ c.rest.length := by
  fun_induction gapFrom g c with
  | case1 => simp
  | case2 g c a r h _ ih => exact Nat.le_trans ih (Nat.le_of_lt (Cursor.length_next h))
  | case3 g c a r h _ _ ih => exact Nat.le_trans ih (Nat.le_of_lt (Cursor.length_nextLine h))
  | case4 => simp

theorem length_gapFrom_lt {g : Gap} {c : Cursor} {a : Char} {r : List Char} (h : c.rest = a :: r)
    (ha : isBlank a || isBreak a) : (gapFrom g c).2.rest.length < c.rest.length := by
  rw [gapFrom]
  split
  · next heq => rw [h] at heq; cases heq
  · next b t heq =>
    obtain ⟨rfl, rfl⟩ := List.cons.inj (h.symm.trans heq)
    split
    · exact Nat.lt_of_le_of_lt (length_gapFrom_le _ _) (Cursor.length_next h)
    · next hb =>
      rw [if_pos (by simpa [hb] using ha)]
      exact Nat.lt_of_le_of_lt (length_gapFrom_le _ _) (Cursor.length_nextLine h)

/-! ## Escapes -/

/-- The character that a letter stands for behind a backslash. -/
def escapeLetter? (c : Char) : Option Char :=
  match c with
  | '0' => some '\x00'
  | 'a' => some '\x07'
  | 'b' => some '\x08'
  | 't' => some '\t'
  | '\t' => some '\t'
  | 'n' => some '\n'
  | 'v' => some '\x0b'
  | 'f' => some '\x0c'
  | 'r' => some '\r'
  | 'e' => some '\x1b'
  | ' ' => some ' '
  | '"' => some '"'
  | '/' => some '/'
  | '\\' => some '\\'
  | 'N' => some '\u0085'
  | '_' => some '\u00a0'
  | 'L' => some '\u2028'
  | 'P' => some '\u2029'
  | _ => none

/-- How many digits of a code point follow a letter behind a backslash. -/
def escapeWidth? (c : Char) : Option Nat :=
  match c with
  | 'x' => some 2
  | 'u' => some 4
  | 'U' => some 8
  | _ => none

/-- The character of a code point in exactly as many digits. Surrogates are none. -/
def codePoint? (width : Nat) (cs : List Char) : Option Char := do
  let digits := cs.take width
  if digits.length != width then none
  else
    let n ← digits.foldlM (fun acc c => (Scalar.digitValue? c).map (acc * 16 + ·)) 0
    if h : n.isValidChar then some (Char.ofNatAux n h) else none

/-! ## Quoted scalars -/

/-- The text of a quoted scalar behind the text so far, from behind its opening quote. -/
def quotedFrom (double : Bool) (b : TextBuffer) (c : Cursor) :
    Except Fault (TextBuffer × Cursor) :=
  match _h : c.rest with
  | [] => .error .malformed
  | a :: rest =>
    if c.atDocumentMarker then .error .malformed
    else if _ha : isBlank a || isBreak a then
      let after := gapFrom {} c
      match after.1.onto b with
      | .error f => .error f
      | .ok b => quotedFrom double b after.2
    else if !double && a == '\'' then
      -- Two quotation marks stand for one.
      if rest.head? == some '\'' then quotedFrom double (b.push '\'') (c.skip 2)
      else .ok (b, c.next)
    else if double && a == '"' then .ok (b, c.next)
    else if double && a == '\\' then
      match rest.head? with
      | none => .error .malformed
      | some d =>
        if isBreak d then
          -- The escaped end of a line is as if it had not been there, space and all.
          let after := gapFrom { broken := true } c.next.nextLine
          match after.1.onto b with
          | .error f => .error f
          | .ok b => quotedFrom double b after.2
        else
          match escapeLetter? d with
          | some e => quotedFrom double (b.push e) (c.skip 2)
          | none =>
            match escapeWidth? d with
            | none => .error .malformed
            | some width =>
              match codePoint? width (rest.drop 1) with
              | none => .error .malformed
              | some e => quotedFrom double (b.push e) (c.skip (2 + width))
    else quotedFrom double (b.push a) c.next
termination_by c.rest.length
decreasing_by
  · exact length_gapFrom_lt _h _ha
  · exact Cursor.length_skip _h (by omega)
  · exact Nat.lt_of_le_of_lt
      (Nat.le_trans (length_gapFrom_le _ _) (Cursor.length_nextLine_le _)) (Cursor.length_next _h)
  · exact Cursor.length_skip _h (by omega)
  · exact Cursor.length_skip _h (by omega)
  · exact Cursor.length_next _h

/-! ## Plain scalars -/

/-- Characters that mean something to flow collections. -/
def isFlowMark (c : Char) : Bool :=
  c == ',' || c == '[' || c == ']' || c == '{' || c == '}'

/-- A plain scalar ends in front of these characters. -/
def endsPlain (inFlow : Bool) : List Char → Bool
  | ':' :: rest => endsWord rest
  | c :: _ => inFlow && isFlowMark c
  | [] => true

/-- In a flow collection, a colon may not stand in front of a mark. -/
def badColon (inFlow : Bool) : List Char → Bool
  | ':' :: c :: _ => inFlow && (isFlowMark c || c == '?')
  | _ => false

/-- A tab stands among the blanks that indent a continuation line. -/
def tabIndents (indent : Nat) (broken : Bool) (c : Cursor) : Bool :=
  match _h : c.rest with
  | [] => false
  | a :: _ =>
    if isBlank a then (broken && a == '\t' && c.column < indent) || tabIndents indent broken c.next
    else if isBreak a then tabIndents indent true c.nextLine
    else false
termination_by c.rest.length
decreasing_by
  · exact Cursor.length_next _h
  · exact Cursor.length_nextLine _h

/-- A further word of a plain scalar begins here. -/
def beginsWord (inFlow : Bool) : List Char → Bool
  | [] => false
  | a :: rest =>
    !(isBlank a || isBreak a || badColon inFlow (a :: rest) || endsPlain inFlow (a :: rest))

/-- The text of a plain scalar with the characters up to a gap or its end. -/
def plainWord (inFlow : Bool) (b : TextBuffer) (c : Cursor) : Option (TextBuffer × Cursor) :=
  match _h : c.rest with
  | [] => some (b, c)
  | a :: _ =>
    if isBlank a || isBreak a then some (b, c)
    else if badColon inFlow c.rest then none
    else if endsPlain inFlow c.rest then some (b, c)
    else plainWord inFlow (b.push a) c.next
termination_by c.rest.length
decreasing_by exact Cursor.length_next _h

theorem length_plainWord_le {inFlow : Bool} {b word : TextBuffer} {c after : Cursor}
    (h : plainWord inFlow b c = some (word, after)) : after.rest.length ≤ c.rest.length := by
  fun_induction plainWord inFlow b c with
  | case1 => cases h; exact Nat.le_refl _
  | case2 => cases h; exact Nat.le_refl _
  | case3 => cases h
  | case4 => cases h; exact Nat.le_refl _
  | case5 b c a r hr _ _ _ ih => exact Nat.le_trans (ih h) (Nat.le_of_lt (Cursor.length_next hr))

/-- What a plain scalar comes to: its text, the place behind it and the gap after it, and whether
    that gap holds a line end. -/
structure Plain where
  text : List Char
  after : Cursor
  broken : Bool

/-- A plain scalar from where a word may begin, behind the text so far and with the gap in front of
    that word. -/
def plainFrom (inFlow : Bool) (indent : Nat) (b : TextBuffer) (gap : Gap) (c : Cursor) :
    Except Fault Plain :=
  if c.atDocumentMarker || c.rest.head? == some '#' then .ok ⟨b.text, c, gap.broken⟩
  else
    -- A gap counts once a word follows it.
    let more := beginsWord inFlow c.rest
    match if more then gap.onto b else .ok b with
    | .error f => .error f
    | .ok b =>
      match _hw : plainWord inFlow b c with
      | none => .error .malformed
      | some (b, atGap) =>
        let gap := if more then {} else gap
        match _h : atGap.rest with
        | [] => .ok ⟨b.text, atGap, gap.broken⟩
        | a :: _ =>
          if _ha : isBlank a || isBreak a then
            let after := gapFrom gap atGap
            if tabIndents indent gap.broken atGap then .error .malformed
            else if !inFlow && after.2.column < indent then .ok ⟨b.text, after.2, after.1.broken⟩
            else plainFrom inFlow indent b after.1 after.2
          else .ok ⟨b.text, atGap, gap.broken⟩
termination_by c.rest.length
decreasing_by exact Nat.lt_of_lt_of_le (length_gapFrom_lt _h _ha) (length_plainWord_le _hw)

end Companion.Yaml
