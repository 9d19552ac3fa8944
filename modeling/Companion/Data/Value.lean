import Companion.Data.Scalar

/-!
# Values

The data that declarations are written in and read from. A value is typed, as in a JSON text, or it
is a scalar of a block document that nobody has typed yet: there a field decides by what it expects
how the scalar is read, and a field that expects a text takes the scalar's text whatever it says.
The accessors below are all that decoding knows of the difference.

Records keep their entries in order and repeat keys as they were written. `Value.fields?` is the
one reading of a record: every known field at most once, unknown ones dropped.
-/

namespace Companion

/-- What an entry of a record is found by. A typed value may count its fields from zero instead of
    naming them. -/
inductive Key where
  | name (text : String)
  | position (index : Nat)
  | other
  deriving DecidableEq, Repr

/-- A datum. `decimal` stands for every number that is not whole, which no field takes. -/
inductive Value where
  | null
  | flag (b : Bool)
  | integer (n : Int)
  | decimal
  | text (s : String)
  | list (items : List Value)
  | record (entries : List (Key × Value))
  | scalar (s : Scalar)
  deriving Repr

instance : Inhabited Value := ⟨.null⟩

/-- The bound of numbers of 128 bits. -/
def Scalar.longBound : Nat := UInt64.size * UInt64.size

/-- What an unquoted, untagged text stands for. Whole numbers too long for 64 bits but not for 128
    are refused, longer ones are decimal. -/
def Scalar.untagged? (text : String) : Option Value :=
  if text == "" || isNullWord text then some .null
  else match boolWord? text with
  | some b => some (.flag b)
  | none => match natural? UInt64.size text with
    | some n => some (.integer n)
    | none => match negative? (UInt64.size / 2) text with
      | some n => some (.integer (-n))
      | none =>
        if (natural? longBound text).isSome || (negative? (longBound / 2) text).isSome then none
        else if !hasIdleZero text.toList && isDecimal text then some .decimal
        else some (.text text)

def Scalar.wholeNumber? (text : String) : Option Value :=
  match natural? UInt64.size text with
  | some n => some (.integer n)
  | none => (negative? (UInt64.size / 2) text).map fun n => .integer (-n)

/-- The value that a scalar stands for. A standard tag asks for its own kind and is refused where
    the text has none; a local tag names no kind of value. -/
def Scalar.typed? (s : Scalar) : Option Value :=
  if (localTag? s.tag).isSome then none
  else match s.tag with
  | none => if s.style == .plain then untagged? s.text else some (.text s.text)
  | some tag =>
    if tag == standardTag "bool" then (boolWord? s.text).map .flag
    else if tag == standardTag "int" then wholeNumber? s.text
    else if tag == standardTag "float" then if isDecimal s.text then some .decimal else none
    else if tag == standardTag "null" then if isNullWord s.text then some .null else none
    else if isLocal tag && s.style == .plain then untagged? s.text
    else some (.text s.text)

/-- The key that a scalar stands for in a typed record. -/
def Scalar.key? (s : Scalar) : Option Key :=
  s.typed?.map fun v =>
    match v with
    | .text t => .name t
    | .integer n => if 0 ≤ n && s.text.toList.head? != some '-' then .position n.toNat else .other
    | _ => .other

namespace Value

/-! ## Readings of single values -/

def text? : Value → Option String
  | .text s => some s
  | .scalar s => some s.text
  | _ => none

def flag? : Value → Option Bool
  | .flag b => some b
  | .scalar s => s.flag?
  | _ => none

def word32? (v : Value) : Option UInt32 :=
  let n : Option Nat := match v with
    | .integer n => if 0 ≤ n then some n.toNat else none
    | .scalar s => s.word64?
    | _ => none
  (n.filter (· < UInt32.size)).map UInt32.ofNat

/-- A list. Where nothing was written in a block document, the list is empty. -/
def list? : Value → Option (List Value)
  | .list items => some items
  | .scalar s => if s.isAbsent then some [] else none
  | _ => none

/-- A value that may be null. A scalar under the null tag has to spell it. -/
def optional? {α : Type} (read : Value → Option α) (v : Value) : Option (Option α) :=
  match v with
  | .null => some none
  | .scalar s =>
    if s.style == .plain && s.tag == some (Scalar.standardTag "null") then
      if Scalar.isNullWord s.text then some none else none
    else if s.isBlank && s.tag.isNone then some none
    else (read v).map some
  | _ => (read v).map some

/-! ## Records -/

def ofFields (fields : List (String × Value)) : Value :=
  .record (fields.map fun f => (.name f.1, f.2))

/-- The field that a key stands for among the known ones: unknown names and positions beyond the
    last field stand for none, and what is neither name nor position is refused. -/
def fieldOf? (known : List String) : Key → Option (Option String)
  | .name n => some (if n ∈ known then some n else none)
  | .position i => some known[i]?
  | .other => none

/-- The known fields among the entries, each at most once. -/
def readEntries? (known : List String) :
    List (Key × Value) → Option (List (String × Value))
  | [] => some []
  | (key, v) :: rest => do
    let field ← fieldOf? known key
    let fields ← readEntries? known rest
    match field with
    | none => some fields
    | some name => if fields.any (·.1 == name) then none else some ((name, v) :: fields)

/-- The fields of a record: its known entries, or a list of its first fields in order. Where nothing
    was written in a block document, the record has no fields. -/
def fields? (known : List String) : Value → Option (List (String × Value))
  | .record entries => readEntries? known entries
  | .list items => if items.length ≤ known.length then some (known.zip items) else none
  | .scalar s => if s.isAbsent then some [] else none
  | _ => none

end Value

def field? (fields : List (String × Value)) (name : String) : Option Value :=
  fields.lookup name

end Companion
