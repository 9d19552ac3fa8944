import Companion.Declaration.Member

/-!
# Subjects

A subject is a type declaration that is to get a companion. Its `reference` is its identity: two
declarations with one reference are fragments of one type.
-/

namespace Companion

inductive DeclarationKind where
  | classType
  | recordType
  | structType
  | recordStruct
  | interfaceType
  deriving DecidableEq, Repr, Inhabited

namespace DeclarationKind

def display : DeclarationKind → String
  | .classType => "Class"
  | .recordType => "Record"
  | .structType => "Struct"
  | .recordStruct => "RecordStruct"
  | .interfaceType => "Interface"

/-- Values of the type are copied on assignment and are never null. -/
def isValueType : DeclarationKind → Bool
  | .structType | .recordStruct => true
  | _ => false

/-- The type is one that a companion can hold by reference. -/
def isClassLike : DeclarationKind → Bool
  | .classType | .recordType => true
  | _ => false

theorem isClassLike_iff {k : DeclarationKind} :
    k.isClassLike = true ↔ k = .classType ∨ k = .recordType := by
  cases k <;> simp [isClassLike]

end DeclarationKind

/-- A type declaration, or one fragment of it. -/
structure SubjectDecl where
  name : String
  namespaceName : Option String := none
  reference : String
  kind : DeclarationKind := .classType
  isStatic : Bool := false
  isRefLike : Bool := false
  isUnsafe : Bool := false
  genericParameters : List String := []
  location : Option SourceLocation := none
  members : List MemberDecl := []
  deriving Repr

namespace SubjectDecl

/-- A class of that name without members, referred to by its full name. -/
def ofName (name : String) (namespaceName : Option String) : SubjectDecl :=
  { name, namespaceName
    reference := match namespaceName with
      | some n => "global::" ++ n ++ "." ++ name
      | none => "global::" ++ name }

def withMember (s : SubjectDecl) (m : MemberDecl) : SubjectDecl :=
  { s with members := s.members ++ [m] }

def properties (s : SubjectDecl) : List PropertyDecl :=
  s.members.filterMap MemberDecl.property?

def methods (s : SubjectDecl) : List MethodDecl :=
  s.members.filterMap MemberDecl.method?

end SubjectDecl

end Companion
