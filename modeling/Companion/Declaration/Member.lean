import Companion.Declaration.TypeRef

/-!
# Members

What a subject declares, in declaration order: properties, methods, and other members, of which
only the name and kind are kept because nothing is ever generated for them.
-/

namespace Companion

/-- Where a declaration stands in its source file, counted from 1. -/
structure SourceLocation where
  path : String
  line : UInt32
  column : UInt32
  deriving DecidableEq, Repr

/-- The place as messages name it: `path(line,column)`. -/
def SourceLocation.display (l : SourceLocation) : String :=
  l.path ++ "(" ++ toString l.line.toNat ++ "," ++ toString l.column.toNat ++ ")"

/-- What a method is. Only an ordinary one can be forwarded to. -/
inductive MethodKind where
  | ordinary
  | constructor
  | staticConstructor
  | destructor
  | operator
  | conversion
  | propertyAccessor
  | eventAccessor
  | explicitInterfaceImplementation
  | localFunction
  deriving DecidableEq, Repr, Inhabited

/-- How an argument reaches a parameter. -/
inductive Passing where
  | byValue
  | byRef
  | byOut
  | byIn
  | byRefReadOnly
  deriving DecidableEq, Repr, Inhabited

/-- How a method hands back its result. -/
inductive ReturnPassing where
  | byValue
  | byRef
  | byRefReadOnly
  deriving DecidableEq, Repr, Inhabited

/-- What a member is that is neither a property nor a method. -/
inductive OtherMemberKind where
  | field
  | event
  | nestedType
  deriving DecidableEq, Repr, Inhabited

/-- A declared property. One without a setter is read-only; an init-only setter is a setter. -/
structure PropertyDecl where
  name : String
  type : TypeRef
  accessibility : Accessibility := .publicAccess
  isStatic : Bool := false
  isReadOnly : Bool := false
  location : Option SourceLocation := none
  deriving Repr

structure ParameterDecl where
  name : String
  type : TypeRef
  passing : Passing := .byValue
  deriving Repr

structure TypeParameterDecl where
  name : String
  constraints : List TypeRef := []
  deriving Repr

structure MethodDecl where
  name : String
  kind : MethodKind := .ordinary
  returnType : TypeRef := .void
  returnsBy : ReturnPassing := .byValue
  parameters : List ParameterDecl := []
  typeParameters : List TypeParameterDecl := []
  accessibility : Accessibility := .publicAccess
  isStatic : Bool := false
  location : Option SourceLocation := none
  deriving Repr

/-- A declared member that is only named. -/
structure OtherMemberDecl where
  name : String
  kind : OtherMemberKind := .field
  deriving DecidableEq, Repr

inductive MemberDecl where
  | property (property : PropertyDecl)
  | method (method : MethodDecl)
  | other (other : OtherMemberDecl)
  deriving Repr

namespace MemberDecl

def name : MemberDecl → String
  | .property p => p.name
  | .method m => m.name
  | .other o => o.name

def property? : MemberDecl → Option PropertyDecl
  | .property p => some p
  | _ => none

def method? : MemberDecl → Option MethodDecl
  | .method m => some m
  | _ => none

end MemberDecl

/-- The method with one more parameter at the end. -/
def MethodDecl.withParameter (m : MethodDecl) (p : ParameterDecl) : MethodDecl :=
  { m with parameters := m.parameters ++ [p] }

end Companion
