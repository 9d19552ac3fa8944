import Companion.Declaration.Subject
import Companion.Identifier

/-!
# Visibility

Whether generated code, which stands outside the subject's assembly, can name a type, and which
members it can forward to. A constructed type is judged by its parts: a pointer by what it points
to, an array by its elements, a type parameter by its constraints; a named type by its own
accessibility, by every type it is nested in and by every type argument. `void` cannot be named; a
method may return it all the same.
-/

namespace Companion

mutual

/-- Generated code can name the type. -/
def TypeRef.isVisible : TypeRef → Bool
  | ⟨_, _, .void, _, _⟩ => false
  | ⟨_, _, .pointer pointee, _, _⟩ => pointee.isVisible
  | ⟨_, _, .array element, _, _⟩ => element.isVisible
  | ⟨_, _, .typeParameter constraints, _, _⟩ => allVisible constraints
  | ⟨_, accessibility, .named, arguments, containing⟩ =>
    accessibility.isPublic && containingVisible containing && allVisible arguments

def TypeRef.allVisible : List TypeRef → Bool
  | [] => true
  | t :: rest => t.isVisible && allVisible rest

def TypeRef.containingVisible : Option TypeRef → Bool
  | none => true
  | some t => t.isVisible

end

theorem TypeRef.allVisible_eq (ts : List TypeRef) : allVisible ts = ts.all isVisible := by
  induction ts with
  | nil => rfl
  | cons t rest ih => simp [allVisible, ih]

theorem TypeRef.containingVisible_eq (t : Option TypeRef) :
    containingVisible t = t.all isVisible := by
  cases t <;> rfl

/-- Generated code can forward to the property. The property's own accessibility does not matter:
    it is reached through an accessor. -/
def PropertyDecl.isEligible (p : PropertyDecl) : Bool :=
  Identifier.isValid p.name && p.type.isVisible

/-- Every constraint of the type parameter can be named. -/
def TypeParameterDecl.isVisible (p : TypeParameterDecl) : Bool :=
  p.constraints.all TypeRef.isVisible

/-- Generated code can forward to the method: it is an ordinary one, and every type in its signature
    can be named or is the `void` it returns. -/
def MethodDecl.isEligible (m : MethodDecl) : Bool :=
  m.kind == .ordinary && Identifier.isValid m.name
    && (m.returnType.isVoid || m.returnType.isVisible)
    && m.typeParameters.all TypeParameterDecl.isVisible
    && m.parameters.all fun p => p.type.isVisible

/-- Generated code can forward to the member. Members that are only named are neither eligible nor
    not. -/
def MemberDecl.isEligible? : MemberDecl → Option Bool
  | .property p => some p.isEligible
  | .method m => some m.isEligible
  | .other _ => none

end Companion
