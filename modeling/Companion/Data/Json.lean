import Companion.Data.Value

/-!
# Values as JSON text

Two printers: a compact one without any blanks, which fingerprints are taken of, and one with an
entry or item to a line, which people read. Only the quotation mark, the backslash and the control
characters below the blank are escaped.
-/

namespace Companion.Json

/-- A digit of a lower-case hexadecimal number. -/
def hexDigit (n : Nat) : Char :=
  Nat.digitChar (n % 16)

/-- A character inside a quoted text. -/
def escapeChar (c : Char) : List Char :=
  if c == '"' then ['\\', '"']
  else if c == '\\' then ['\\', '\\']
  else if c == '\n' then ['\\', 'n']
  else if c == '\r' then ['\\', 'r']
  else if c == '\t' then ['\\', 't']
  else if c.toNat == 8 then ['\\', 'b']
  else if c.toNat == 12 then ['\\', 'f']
  else if c.toNat < 32 then ['\\', 'u', '0', '0', hexDigit (c.toNat / 16), hexDigit c.toNat]
  else [c]

def quote (text : String) : String :=
  String.ofList (('"' :: text.toList.flatMap escapeChar) ++ ['"'])

/-- The text of a key. Positions and other keys stand in no record that is written. -/
def keyText : Key → String
  | .name n => n
  | .position i => toString i
  | .other => ""

mutual

/-- The value without any blanks. -/
def compact : Value → String
  | .null => "null"
  | .flag b => if b then "true" else "false"
  | .integer n => toString n
  | .decimal => "null"
  | .text s => quote s
  | .list items => "[" ++ ",".intercalate (compactItems items) ++ "]"
  | .record entries => "\x7b" ++ ",".intercalate (compactEntries entries) ++ "\x7d"
  | .scalar s => quote s.text

def compactItems : List Value → List String
  | [] => []
  | v :: rest => compact v :: compactItems rest

def compactEntries : List (Key × Value) → List String
  | [] => []
  | (k, v) :: rest => (quote (keyText k) ++ ":" ++ compact v) :: compactEntries rest

end

def newline (level : Nat) : String :=
  "\n" ++ String.ofList (List.replicate (2 * level) ' ')

/-- Parts on lines of their own between two brackets. -/
def bracketed (opening closing : String) (level : Nat) (parts : List String) : String :=
  if parts.isEmpty then opening ++ closing
  else opening ++ newline (level + 1) ++ ("," ++ newline (level + 1)).intercalate parts
    ++ newline level ++ closing

mutual

/-- The value with an entry or item to a line, at a level of indentation. -/
def prettyAt (level : Nat) : Value → String
  | .list items => bracketed "[" "]" level (prettyItems (level + 1) items)
  | .record entries => bracketed "\x7b" "\x7d" level (prettyEntries (level + 1) entries)
  | .null => "null"
  | .flag b => if b then "true" else "false"
  | .integer n => toString n
  | .decimal => "null"
  | .text s => quote s
  | .scalar s => quote s.text

def prettyItems (level : Nat) : List Value → List String
  | [] => []
  | v :: rest => prettyAt level v :: prettyItems level rest

def prettyEntries (level : Nat) : List (Key × Value) → List String
  | [] => []
  | (k, v) :: rest => (quote (keyText k) ++ ": " ++ prettyAt level v) :: prettyEntries level rest

end

def pretty (v : Value) : String :=
  prettyAt 0 v

end Companion.Json
