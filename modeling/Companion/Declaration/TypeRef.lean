/-!
# Type references

A type as a member's signature mentions it. Generated text repeats `display` word for word; the rest
of a reference says what the type is made of, which is what visibility and pointer questions need.
A constructed type (a pointer, an array, a type parameter) has no accessibility of its own and is
judged by its parts.
-/

namespace Companion

/-- Who may name a declaration. Constructed types answer `notApplicable`. -/
inductive Accessibility where
  | publicAccess
  | internalAccess
  | protectedAccess
  | protectedInternal
  | privateProtected
  | privateAccess
  | notApplicable
  deriving DecidableEq, Repr, Inhabited

/-- How a type is built, with the parts it is built from. -/
inductive TypeShape (α : Type) where
  | named
  | void
  | pointer (pointee : α)
  | array (element : α)
  | typeParameter (constraints : List α)
  deriving Repr

/-- A reference to a type. `display` is its full spelling. -/
structure TypeRef where
  display : String
  accessibility : Accessibility := .publicAccess
  shape : TypeShape TypeRef := .named
  typeArguments : List TypeRef := []
  containingType : Option TypeRef := none
  deriving Repr

instance : Inhabited TypeRef := ⟨⟨"", .publicAccess, .named, [], none⟩⟩

namespace Accessibility

/-- Only `publicAccess` can be named from outside the declaring assembly. -/
def isPublic : Accessibility → Bool
  | .publicAccess => true
  | _ => false

theorem isPublic_iff {a : Accessibility} : a.isPublic = true ↔ a = .publicAccess := by
  cases a <;> simp [isPublic]

end Accessibility

namespace TypeRef

/-! ## Building references -/

/-- A public type that is neither nested nor generic. -/
def named (display : String) : TypeRef :=
  { display }

def void : TypeRef :=
  { display := "void", accessibility := .notApplicable, shape := .void }

def pointer (pointee : TypeRef) : TypeRef :=
  { display := pointee.display ++ "*", accessibility := .notApplicable, shape := .pointer pointee }

def array (element : TypeRef) : TypeRef :=
  { display := element.display ++ "[]", accessibility := .notApplicable, shape := .array element }

/-- A type parameter of that name under the given constraints. -/
def typeParameter (name : String) (constraints : List TypeRef) : TypeRef :=
  { display := name, accessibility := .notApplicable, shape := .typeParameter constraints }

/-! ## Questions about references -/

/-- The type is `void` by its shape, however it is spelled. -/
def isVoid (t : TypeRef) : Bool :=
  match t.shape with
  | .void => true
  | _ => false

mutual

/-- A pointer is met on the way down through array elements and type arguments. -/
def containsPointer : TypeRef → Bool
  | ⟨_, _, .pointer _, _, _⟩ => true
  | ⟨_, _, .array element, _, _⟩ => element.containsPointer
  | ⟨_, _, .named, arguments, _⟩ => anyContainsPointer arguments
  | ⟨_, _, .void, arguments, _⟩ => anyContainsPointer arguments
  | ⟨_, _, .typeParameter _, arguments, _⟩ => anyContainsPointer arguments

def anyContainsPointer : List TypeRef → Bool
  | [] => false
  | t :: rest => t.containsPointer || anyContainsPointer rest

end

theorem anyContainsPointer_eq (ts : List TypeRef) :
    anyContainsPointer ts = ts.any containsPointer := by
  induction ts with
  | nil => rfl
  | cons t rest ih => simp [anyContainsPointer, ih]

end TypeRef

end Companion
