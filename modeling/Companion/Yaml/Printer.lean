import Companion.Data.Value
import Companion.Yaml.Cursor

/-!
# Printing documents

A value as a block document. Records and lists go over lines of their own, empty ones are written as
brackets, and the items of a list stand no deeper than the key that they belong to. A text is written
plainly where it reads back as the same text and nothing else; a text that has line ends becomes a
literal block, one that looks like something else is quoted, and one with characters that cannot be
shown is quoted with escapes.
-/

namespace Companion.Yaml

/-! ## What a text is like -/

def isShown (c : Char) : Bool :=
  let n := c.toNat
  n == 0x0A || (0x20 ≤ n && n ≤ 0x7E) || (0xA0 ≤ n && n ≤ 0xD7FF)
    || (0xE000 ≤ n && n ≤ 0xFFFD && n != 0xFEFF) || 0x10000 ≤ n

/-- Somewhere a character of the first kind stands right in front of one of the second. -/
def adjacent (first second : Char → Bool) : List Char → Bool
  | a :: b :: rest => (first a && second b) || adjacent first second (b :: rest)
  | _ => false

def isSpace (c : Char) : Bool := c == ' '

/-- A mark inside a text that would be taken for the document's own: a colon at the end of a word, or
    a number sign at the start of one. -/
def hasInnerMark : List Char → Bool
  | a :: b :: rest =>
    (b == ':' && endsWord rest) || (b == '#' && (isBlank a || isBreak a)) || hasInnerMark (b :: rest)
  | _ => false

/-- A text that begins like something else than a plain text: with a mark, or like a line that
    separates documents. -/
def beginsWithMark : List Char → Bool
  | [] => false
  | '-' :: '-' :: '-' :: _ | '.' :: '.' :: '.' :: _ => true
  | c :: rest =>
    c ∈ ['#', ',', '[', ']', '\x7b', '\x7d', '&', '*', '!', '|', '>', '\'', '"', '%', '@', '\x60']
      || (c ∈ ['?', ':', '-'] && endsWord rest)

/-- The text has characters or blanks that only a quoted text with escapes keeps. -/
def needsEscapes (cs : List Char) : Bool :=
  !cs.all isShown || adjacent isSpace isBreak cs

def allowsPlain (cs : List Char) : Bool :=
  let edge (c : Option Char) : Bool := c.any fun c => isSpace c || isBreak c
  !(needsEscapes cs || cs.any isBreak || edge cs.head? || edge cs.getLast? || beginsWithMark cs
    || hasInnerMark cs)

def allowsQuoted (cs : List Char) : Bool :=
  !(needsEscapes cs || adjacent isBreak isSpace cs)

def allowsBlock (cs : List Char) : Bool :=
  !(needsEscapes cs || cs.getLast?.any isSpace)

/-- Words that some readers take for truth values, for nothing or for no number, in small letters. -/
def riskyWords : List String :=
  ["y", "yes", "n", "no", "on", "off", "nil", "nan"]

/-- A plain text like this is, or might be, read as something else than a text. -/
def isAmbiguous (text : String) : Bool :=
  let lower := text.map Char.toLower
  lower ∈ riskyWords
    || (match Scalar.untagged? text with
      | some (.text _) => false
      | _ => true)
    || (Scalar.boolWord? lower).isSome || Scalar.isNullWord lower
    || (text.toList.head?.any fun c => c.isDigit || c == '-' || c == '.' || c == '+')

/-! ## The ways to write a text -/

def padding (column : Nat) : List Char :=
  List.replicate column ' '

/-- Characters over lines, every one but the first indented. The flag tells that a line has just
    ended. -/
def indentLines (column : Nat) (write : Char → List Char) : Bool → List Char → List Char
  | _, [] => []
  | atStart, c :: rest =>
    if isBreak c then c :: indentLines column write true rest
    else (if atStart then padding column else []) ++ write c ++ indentLines column write false rest

/-- A text in single quotation marks, which are written twice inside. -/
def singleQuoted (column : Nat) (cs : List Char) : List Char :=
  '\'' :: indentLines column (fun c => if c == '\'' then ['\'', '\''] else [c]) false cs
    ++ (if cs.getLast?.any isBreak then padding column else []) ++ ['\'']

/-- How many ends of lines a literal block keeps: none, one, or all of them. -/
def chomping (cs : List Char) : List Char :=
  match cs.reverse with
  | [] => ['-']
  | [c] => if isBreak c then ['+'] else ['-']
  | c :: d :: _ => if !isBreak c then ['-'] else if isBreak d then ['+'] else []

/-- A literal block, whose text is indented. A text that begins with a blank has its indentation
    written down. -/
def literalBlock (column : Nat) (cs : List Char) : List Char :=
  '|' :: (if cs.head?.any (fun c => isSpace c || isBreak c) then ['2'] else []) ++ chomping cs
    ++ '\n' :: indentLines column (fun c => [c]) true cs
    ++ (if cs.getLast?.any isBreak then [] else ['\n'])

/-- The digits of a number in base sixteen, so many of them. -/
def hexDigits (width n : Nat) : List Char :=
  let digits := (Nat.toDigits 16 n).map Char.toUpper
  List.replicate (width - digits.length) '0' ++ digits

/-- The letters for characters that have one behind a backslash. -/
def escapeLetters : List (Nat × Char) :=
  [(0x00, '0'), (0x07, 'a'), (0x08, 'b'), (0x09, 't'), (0x0A, 'n'), (0x0B, 'v'), (0x0C, 'f'),
    (0x0D, 'r'), (0x1B, 'e'), (0x22, '"'), (0x5C, '\\'), (0x85, 'N'), (0xA0, '_'), (0x2028, 'L'),
    (0x2029, 'P')]

def escaped (c : Char) : List Char :=
  let n := c.toNat
  if isShown c && !isBreak c && c != '"' && c != '\\' then [c]
  else
    match escapeLetters.lookup n with
    | some letter => ['\\', letter]
    | none =>
      if n ≤ 0xFF then '\\' :: 'x' :: hexDigits 2 n
      else if n ≤ 0xFFFF then '\\' :: 'u' :: hexDigits 4 n
      else '\\' :: 'U' :: hexDigits 8 n

def doubleQuoted (cs : List Char) : List Char :=
  '"' :: cs.flatMap escaped ++ ['"']

/-- A text as the value of an entry or an item, with the end of its last line. Further lines go to
    the column. -/
def printText (column : Nat) (text : String) : List Char :=
  let cs := text.toList
  if cs.contains '\n' then
    if allowsBlock cs then literalBlock column cs else doubleQuoted cs ++ ['\n']
  else if !isAmbiguous text && allowsPlain cs then cs ++ ['\n']
  else if allowsQuoted cs then singleQuoted column cs ++ ['\n']
  else doubleQuoted cs ++ ['\n']

/-! ## Values -/

mutual

/-- A value behind its key, whose record stands at a column. -/
def printEntry (column : Nat) : Value → List Char
  | .list (v :: rest) => '\n' :: printItems column (v :: rest)
  | .record (e :: rest) => '\n' :: printEntries (column + 2) (e :: rest)
  | v => ' ' :: printInline column v

/-- A value that begins on the line of what stands in front of it. Of a decimal number no more is
    known than that it is one; none is ever shown. -/
def printInline (column : Nat) : Value → List Char
  | .null => "null\n".toList
  | .flag b => (if b then "true\n" else "false\n").toList
  | .integer n => (toString n ++ "\n").toList
  | .decimal => ".nan\n".toList
  | .text s => printText (column + 2) s
  | .scalar s => printText (column + 2) s.text
  | .list [] => "[]\n".toList
  | .record [] => "\x7b\x7d\n".toList
  | .list (v :: rest) => (printItems (column + 2) (v :: rest)).drop (column + 2)
  | .record (e :: rest) => (printEntries (column + 2) (e :: rest)).drop (column + 2)

def printItems (column : Nat) : List Value → List Char
  | [] => []
  | v :: rest => padding column ++ '-' :: ' ' :: printInline column v ++ printItems column rest

def printEntries (column : Nat) : List (Key × Value) → List Char
  | [] => []
  | (.name k, v) :: rest =>
    padding column ++ k.toList ++ ':' :: printEntry column v ++ printEntries column rest
  | _ :: rest => printEntries column rest

end

/-- A value as a document. Keys are written as they are: they have to be plain words. -/
def print (v : Value) : String :=
  String.ofList <|
    match v with
    | .list (v :: rest) => printItems 0 (v :: rest)
    | .record (e :: rest) => printEntries 0 (e :: rest)
    | v => printInline 0 v

end Companion.Yaml
