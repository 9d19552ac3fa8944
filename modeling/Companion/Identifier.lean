import Companion.Text.Alphabetic
import Companion.Text.Numeric

/-!
# Identifiers

Which names generated code may spell, and how. A name is an identifier by its characters alone;
that a reserved keyword is an identifier too is settled where the name is written, by `escaped`.
The suffix of a companion's name is judged by what it does to a name: `isSuffix` holds of exactly
the texts that turn one identifier into another.
-/

namespace Companion.Identifier

def isStart (c : Char) : Bool :=
  c == '_' || Text.isAlphabetic c

def isContinue (c : Char) : Bool :=
  isStart c || Text.isNumeric c

/-- The characters of an identifier: one that may begin it, then any that may go on. -/
def spells : List Char → Bool
  | [] => false
  | c :: rest => isStart c && rest.all isContinue

/-- The name is an identifier. Reserved keywords count: they are escaped where they are written. -/
def isValid (name : String) : Bool :=
  spells name.toList

/-- The text is not empty and may follow an identifier. -/
def isSuffix (suffix : String) : Bool :=
  suffix != "" && isValid ("_" ++ suffix)

/-- The reserved keywords: names that stand for themselves only behind an `@`. -/
def keywords : List String :=
  ["abstract", "as", "base", "bool", "break", "byte", "case", "catch", "char", "checked", "class",
    "const", "continue", "decimal", "default", "delegate", "do", "double", "else", "enum", "event",
    "explicit", "extern", "false", "finally", "fixed", "float", "for", "foreach", "goto", "if",
    "implicit", "in", "int", "interface", "internal", "is", "lock", "long", "namespace", "new",
    "null", "object", "operator", "out", "override", "params", "private", "protected", "public",
    "readonly", "ref", "return", "sbyte", "sealed", "short", "sizeof", "stackalloc", "static",
    "string", "struct", "switch", "this", "throw", "true", "try", "typeof", "uint", "ulong",
    "unchecked", "unsafe", "ushort", "using", "virtual", "void", "volatile", "while"]

/-- The name as source text spells it: a reserved keyword is written behind an `@`. -/
def escaped (name : String) : String :=
  if name ∈ keywords then "@" ++ name else name

theorem isLower_of_mem_keywords {word : String} (h : word ∈ keywords) :
    ∀ c ∈ word.toList, c.isLower = true := by
  have hall : (keywords.all fun word => word.toList.all Char.isLower) = true := by decide +kernel
  rw [List.all_eq_true] at hall
  exact List.all_eq_true.mp (hall word h)

/-- A keyword is never written as it is. -/
theorem escaped_not_mem_keywords (name : String) : escaped name ∉ keywords := by
  unfold escaped
  split
  · intro h
    have hlower := isLower_of_mem_keywords h '@' (by simp)
    exact absurd hlower (by decide)
  · assumption

theorem escaped_of_keyword {name : String} (h : name ∈ keywords) : escaped name = "@" ++ name :=
  if_pos h

theorem escaped_of_not_keyword {name : String} (h : name ∉ keywords) : escaped name = name :=
  if_neg h

end Companion.Identifier
