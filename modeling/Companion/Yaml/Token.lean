import Companion.Yaml.Quoted
import Companion.Yaml.BlockText
import Companion.Yaml.Property
import Companion.Data.Scalar

/-!
# Tokens

A document's text as tokens. Indentation becomes tokens of its own: a block collection begins where
an entry stands further right than those before it, and ends where the text comes back.

A mapping's key is known for one only by the colon behind it. Where a key may stand, the scanner
therefore notes the place; when the colon comes on the same line and within 1024 bytes, the tokens
that should have been there are put in at that place. A note that is still open when it has to be
given up is an error if nothing but a key could have stood there.

A text that cannot be scanned to its end still has the tokens in front of the fault, as far as no
open note could have changed them, and a last token that stands for the fault. So whoever takes
tokens from the front meets the fault only if nothing was wrong before it.
-/

namespace Companion.Yaml

inductive Token where
  | directive (d : Directive)
  | documentStart
  | documentEnd
  | blockSequenceStart
  | blockMappingStart
  | blockEnd
  | flowSequenceStart
  | flowSequenceEnd
  | flowMappingStart
  | flowMappingEnd
  | blockEntry
  | flowEntry
  | key
  | value
  /-- The node that has this number now, though a later node may take the number over. -/
  | alias (label : Nat)
  /-- The number of the node behind it. -/
  | anchor (label : Nat)
  | tag (word : TagWord)
  | scalar (text : String) (style : ScalarStyle)
  /-- No token: the text cannot be read from here on. -/
  | broken (fault : Fault)
  deriving DecidableEq, Repr

/-- The anchors of a document so far. An anchor's number is how many names there were in front of it,
    so that a name that comes again gives its last node away to the next new name. -/
structure Anchors where
  /-- The numbers of the names, latest first. -/
  labels : List (String × Nat) := []
  /-- How many names there are. -/
  count : Nat := 0
  deriving Repr

/-- The anchors with a further one, whose number is the count of names in front of it. -/
def Anchors.insert (a : Anchors) (name : String) : Anchors :=
  { labels := (name, a.count) :: a.labels
    count := if (a.labels.lookup name).isSome then a.count else a.count + 1 }

/-- A place where a key may have begun. -/
structure KeyNote where
  /-- Nothing but a key may stand there. -/
  required : Bool
  /-- How many tokens precede it. -/
  position : Nat
  index : Nat
  line : Nat
  column : Nat

/-- The scanner between two tokens. -/
structure Scanner where
  cursor : Cursor
  /-- The tokens so far, backwards. -/
  tokens : List Token := []
  /-- How many tokens there are so far. -/
  count : Nat := 0
  /-- One more than the column of the innermost block collection, zero outside all of them. -/
  indent : Nat := 0
  /-- The indentations of the collections around it, innermost first. -/
  outer : List Nat := []
  /-- The note of the innermost flow collection, or of the block text. -/
  note : Option KeyNote := none
  /-- The notes around it, innermost first: one for each flow collection that is open. -/
  notes : List (Option KeyNote) := []
  /-- A key may begin here. -/
  keyAllowed : Bool := true
  /-- The anchors of the document that the cursor is in. -/
  anchors : Anchors := {}

namespace Scanner

/-- A flow collection is open. -/
def inFlow (s : Scanner) : Bool :=
  !s.notes.isEmpty

def push (s : Scanner) (t : Token) : Scanner :=
  { s with tokens := t :: s.tokens, count := s.count + 1 }

/-- Puts a token behind the first `position` ones. -/
def insert (s : Scanner) (position : Nat) (t : Token) : Scanner :=
  -- The tokens are held backwards, so the later ones come first.
  let later := s.count - position
  { s with tokens := s.tokens.take later ++ t :: s.tokens.drop later, count := s.count + 1 }

/-! ## Indentation -/

/-- Opens a block collection at a column that lies further right, with its token at a position. -/
def roll (s : Scanner) (column : Nat) (position : Nat) (t : Token) : Scanner :=
  if s.inFlow || column + 1 ≤ s.indent then s
  else { s.insert position t with indent := column + 1, outer := s.indent :: s.outer }

/-- Ends the block collections of these indentations that lie further right than `limit`. -/
def unrollFrom (limit : Nat) : List Nat → Scanner → Scanner
  | [], s => s
  | o :: outer, s =>
    if limit < s.indent then unrollFrom limit outer { s.push .blockEnd with indent := o, outer }
    else s

/-- Ends the block collections that lie further right than `limit`. -/
def unroll (s : Scanner) (limit : Nat) : Scanner :=
  if s.inFlow then s else unrollFrom limit s.outer s

/-! ## Notes of possible keys -/

/-- Gives up the note, unless a key has to be there. -/
def forget (s : Scanner) : Option Scanner :=
  match s.note with
  | some n => if n.required then none else some { s with note := none }
  | none => some s

/-- Notes that a key may begin here. -/
def noteKey (s : Scanner) : Option Scanner :=
  if s.keyAllowed then do
    let c := s.cursor
    let note : KeyNote :=
      { required := !s.inFlow && s.indent == c.column + 1, position := s.count
        index := c.index, line := c.line, column := c.column }
    let s ← s.forget
    return { s with note := some note }
  else some s

/-- A note is too old to become a key: it is from another line, or more than 1024 bytes back. -/
def isStale (c : Cursor) (n : KeyNote) : Bool :=
  n.line < c.line || n.index + 1024 < c.index

/-- A note after the scanner has come to a place, unless a key had to be there. -/
def refresh (c : Cursor) : Option KeyNote → Option (Option KeyNote)
  | none => some none
  | some n => if isStale c n then if n.required then none else some none else some (some n)

/-- Gives up the notes that are too old. -/
def dropStale (s : Scanner) : Option Scanner := do
  let notes ← s.notes.mapM (refresh s.cursor)
  let note ← refresh s.cursor s.note
  return { s with note, notes }

/-- The tokens that no open note can change any more. -/
def settled (s : Scanner) : List Token :=
  let waiting := (s.note :: s.notes).filterMap (Option.filter (!isStale s.cursor ·))
  s.tokens.reverse.take (waiting.foldl (fun n note => min n note.position) s.count)

/-- The settled tokens, and that nothing can be read behind them. -/
def breakOff (s : Scanner) (f : Fault) : List Token :=
  s.settled ++ [.broken f]

/-! ## Between tokens -/

/-- Behind blanks, comments and line ends. A byte order mark may begin a line, and takes a column of
    it. Tabs only separate words where no key may begin. -/
def toToken (s : Scanner) : Scanner :=
  match _h : s.cursor.rest with
  | [] => s
  | a :: _ =>
    if (s.cursor.column == 0 && a == '\ufeff') || a == ' '
        || (a == '\t' && (s.inFlow || !s.keyAllowed)) then
      toToken { s with cursor := s.cursor.next }
    else if a == '#' then
      toToken { s with cursor := s.cursor.next.skipWhile (!isBreak ·) }
    else if isBreak a then
      -- In block text, a key may begin on the next line.
      toToken { s with cursor := s.cursor.nextLine, keyAllowed := s.keyAllowed || !s.inFlow }
    else s
termination_by s.cursor.rest.length
decreasing_by
  · exact Cursor.length_next _h
  · exact Nat.lt_of_le_of_lt (Cursor.length_skipWhile_le _ _) (Cursor.length_next _h)
  · exact Cursor.length_nextLine _h

/-! ## One token -/

/-- Ends the text: all collections end. -/
def finish (s : Scanner) : Option (List Token) := do
  let s ← (s.unroll 0).forget
  return s.tokens.reverse

/-- A token of one character that begins nothing. -/
def mark (s : Scanner) (t : Token) : Scanner :=
  { s.push t with cursor := s.cursor.next }

def scanDirective (s : Scanner) : Option Scanner := do
  let s ← (s.unroll 0).forget
  let (d, cursor) ← directive s.cursor.next
  return { s.push (.directive d) with cursor, keyAllowed := false }

/-- The marker of a document's beginning or end. -/
def scanMarker (s : Scanner) (t : Token) : Option Scanner := do
  let s ← (s.unroll 0).forget
  -- Anchors belong to one document.
  return { s.push t with cursor := s.cursor.skip 3, keyAllowed := false, anchors := {} }

/-- The beginning of a flow collection. -/
def openFlow (s : Scanner) (t : Token) : Option Scanner := do
  -- The collection as a whole may be a key.
  let s ← s.noteKey
  return { s.mark t with note := none, notes := s.note :: s.notes, keyAllowed := true }

def closeFlow (s : Scanner) (t : Token) : Option Scanner := do
  let s ← s.forget
  let s := match s.notes with
    | note :: notes => { s with note, notes }
    | [] => s
  return { s.mark t with keyAllowed := false }

def scanFlowEntry (s : Scanner) : Option Scanner := do
  let s ← s.forget
  return { s.mark .flowEntry with keyAllowed := true }

/-- The dash of a block sequence. -/
def scanBlockEntry (s : Scanner) : Option Scanner := do
  if !s.inFlow && !s.keyAllowed then none
  else
    let s ← (s.roll s.cursor.column s.count .blockSequenceStart).forget
    return { s.mark .blockEntry with keyAllowed := true }

/-- The question mark in front of a key. -/
def scanKey (s : Scanner) : Option Scanner := do
  if !s.inFlow && !s.keyAllowed then none
  else
    let s ← (s.roll s.cursor.column s.count .blockMappingStart).forget
    return { s.mark .key with keyAllowed := !s.inFlow }

/-- The colon in front of a value. -/
def scanValue (s : Scanner) : Option Scanner :=
  match s.note with
  | some n =>
    -- Only now is the noted place known for a key, and what begins it is put in there.
    let s := (s.insert n.position .key).roll n.column n.position .blockMappingStart
    some { s.mark .value with note := none, keyAllowed := false }
  | none =>
    if !s.inFlow && !s.keyAllowed then none
    else
      let s := s.roll s.cursor.column s.count .blockMappingStart
      some { s.mark .value with keyAllowed := !s.inFlow }

def scanAnchor (s : Scanner) : Option Scanner := do
  let s ← s.noteKey
  let (name, cursor) ← anchorName s.cursor.next
  return { s.push (.anchor s.anchors.count) with
    cursor, keyAllowed := false, anchors := s.anchors.insert name }

/-- An alias of an anchor in front of it. -/
def scanAlias (s : Scanner) : Option Scanner := do
  let s ← s.noteKey
  let (name, cursor) ← anchorName s.cursor.next
  -- An alias of nothing is a fault only for a reader who comes as far as this.
  let token : Token :=
    match s.anchors.labels.lookup name with
    | some label => .alias label
    | none => .broken .malformed
  return { s.push token with cursor, keyAllowed := false }

def scanTag (s : Scanner) : Option Scanner := do
  let s ← s.noteKey
  let (word, cursor) ← tagWord s.inFlow s.cursor
  return { s.push (.tag word) with cursor, keyAllowed := false }

def scanBlockScalar (s : Scanner) (literal : Bool) : Except Fault Scanner := do
  let s ← s.forget
  let (text, cursor) ← blockScalar literal s.indent s.cursor.next
  let style := if literal then .literal else .folded
  return { s.push (.scalar (String.ofList text) style) with cursor, keyAllowed := true }

def scanQuoted (s : Scanner) (double : Bool) : Except Fault Scanner := do
  let s ← s.noteKey
  let (b, cursor) ← quotedFrom double {} s.cursor.next
  return { s.push (.scalar (String.ofList b.text) .quoted) with cursor, keyAllowed := false }

/-- A plain scalar. A key may begin behind it if it ended at the end of a line. -/
def scanPlain (s : Scanner) : Except Fault Scanner := do
  let s ← s.noteKey
  let p ← plainFrom s.inFlow s.indent {} {} s.cursor
  return { s.push (.scalar (String.ofList p.text) .plain) with
    cursor := p.after, keyAllowed := p.broken }

def beginsPlain (inFlow : Bool) : List Char → Bool
  | [] => false
  | a :: rest =>
    if a == '-' then !(rest.head?.any isBlank)
    else if a == '?' || a == ':' then !inFlow && !endsWord rest
    else !(isBlank a || isBreak a || isFlowMark a || a ∈
      ['#', '&', '*', '!', '|', '>', '\'', '"', '%', '@', '\x60'])

/-- Takes the next token, which begins with `a`, if `a` begins a mark or a property and no scalar. -/
def scanMark? (s : Scanner) (a : Char) (rest : List Char) : Option (Option Scanner) :=
  let c := s.cursor
  if c.column == 0 && a == '%' then some s.scanDirective
  else if c.atMarker '-' then some (s.scanMarker .documentStart)
  else if c.atMarker '.' then some (s.scanMarker .documentEnd)
  else if a == '[' then some (s.openFlow .flowSequenceStart)
  else if a == '{' then some (s.openFlow .flowMappingStart)
  else if a == ']' then some (s.closeFlow .flowSequenceEnd)
  else if a == '}' then some (s.closeFlow .flowMappingEnd)
  else if a == ',' then some s.scanFlowEntry
  else if a == '-' && endsWord rest then some s.scanBlockEntry
  else if a == '?' && (s.inFlow || endsWord rest) then some s.scanKey
  else if a == ':' && (s.inFlow || endsWord rest) then some s.scanValue
  else if a == '*' then some s.scanAlias
  else if a == '&' then some s.scanAnchor
  else if a == '!' then some s.scanTag
  else none

def scanToken (s : Scanner) (a : Char) (rest : List Char) : Except Fault Scanner := do
  match s.scanMark? a rest with
  | some scanned => scanned
  | none =>
    if a == '|' && !s.inFlow then s.scanBlockScalar true
    else if a == '>' && !s.inFlow then s.scanBlockScalar false
    else if a == '\'' then s.scanQuoted false
    else if a == '"' then s.scanQuoted true
    else if beginsPlain s.inFlow s.cursor.rest then s.scanPlain
    else .error .malformed

/-- The tokens from here on, behind those so far, in a text of so many bytes. -/
def scan (size : Nat) (s : Scanner) : List Token :=
  let s' := s.toToken
  match s'.dropStale with
  | none => s.breakOff .malformed
  | some s' =>
    match s'.cursor.rest with
    | [] => s'.finish.getD (s.breakOff .malformed)
    | a :: rest =>
      match (s'.unroll (s'.cursor.column + 1)).scanToken a rest with
      | .error f => s.breakOff f
      | .ok next =>
        -- Every token takes bytes, and the reading ends by that.
        if _h : s.cursor.index < next.cursor.index ∧ next.cursor.index ≤ size then scan size next
        else s.breakOff .malformed
termination_by size - s.cursor.index
decreasing_by omega

end Scanner

/-- The tokens of a text. Nothing is read of one that holds a character that no document may hold. -/
def tokens (text : String) : List Token :=
  let cs := text.toList
  if cs.all isAllowed then Scanner.scan (byteCount cs) { cursor := { rest := cs } }
  else [.broken .malformed]

end Companion.Yaml
