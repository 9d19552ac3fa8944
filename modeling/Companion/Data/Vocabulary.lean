import Companion.Data.Value

/-!
# Vocabularies

An enumeration whose values are written as words. Its values come in a fixed order, because a typed
value may name one by its position.
-/

namespace Companion

/-- The values of an enumeration, in order, and the word for each. -/
class Vocabulary (α : Type) where
  all : List α
  word : α → String

namespace Vocabulary

variable {α : Type} [Vocabulary α]

def ofWord? (word : String) : Option α :=
  (all : List α).find? fun a => Vocabulary.word a == word

/-- One value of the enumeration. Besides a word, typed values may give a record whose only entry
    names the value and holds nothing, and documents may put the word into a local tag. -/
def read? : Value → Option α
  | .text word => ofWord? word
  | .record [(.name word, .null)] => ofWord? word
  | .record [(.position i, .null)] => (all : List α)[i]?
  | .scalar s =>
    match Scalar.localTag? s.tag with
    | some word => if s.isBlank then ofWord? word else none
    | none => ofWord? s.text
  | _ => none

/-- One value of the enumeration inside a variant, where the only entry of a record may also hold an
    empty record. -/
def readInVariant? : Value → Option α
  | .record [(key, .record [])] => read? (.record [(key, .null)])
  | v => read? v

def write (a : α) : Value :=
  .text (word a)

end Vocabulary

end Companion
