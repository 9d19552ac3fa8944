/-!
# Modifiers

The modifiers of a described subject or member, as a set of flags. `isRefStruct` marks a type that
lives on the stack only; `isRef` and `isRefReadOnly` mark methods that return by reference.
-/

namespace Companion

structure Modifiers where
  isStatic : Bool := false
  isOverride : Bool := false
  isReadOnly : Bool := false
  isUnsafe : Bool := false
  isRefStruct : Bool := false
  isPartial : Bool := false
  isRef : Bool := false
  isRefReadOnly : Bool := false
  deriving DecidableEq, Repr, Inhabited

namespace Modifiers

/-- The flags with their names, in the order in which they are listed. -/
def flags (m : Modifiers) : List (String × Bool) :=
  [("STATIC", m.isStatic), ("OVERRIDE", m.isOverride), ("READ_ONLY", m.isReadOnly),
    ("UNSAFE", m.isUnsafe), ("REF_STRUCT", m.isRefStruct), ("PARTIAL", m.isPartial),
    ("REF", m.isRef), ("REF_READ_ONLY", m.isRefReadOnly)]

def names (m : Modifiers) : List String :=
  (m.flags.filter (·.2)).map (·.1)

/-- The modifiers as reports list them. -/
def display (m : Modifiers) : String :=
  " | ".intercalate m.names

def insert? (m : Modifiers) : String → Option Modifiers
  | "STATIC" => some { m with isStatic := true }
  | "OVERRIDE" => some { m with isOverride := true }
  | "READ_ONLY" => some { m with isReadOnly := true }
  | "UNSAFE" => some { m with isUnsafe := true }
  | "REF_STRUCT" => some { m with isRefStruct := true }
  | "PARTIAL" => some { m with isPartial := true }
  | "REF" => some { m with isRef := true }
  | "REF_READ_ONLY" => some { m with isRefReadOnly := true }
  | _ => none

def ofNames? (names : List String) : Option Modifiers :=
  names.foldlM insert? {}

def returnsByRef (m : Modifiers) : Bool :=
  m.isRef || m.isRefReadOnly

end Modifiers

end Companion
