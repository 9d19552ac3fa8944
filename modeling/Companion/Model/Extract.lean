import Companion.Model.Basic
import Companion.Visibility

/-!
# From declarations to models

Describing a subject: its eligible properties, one for each name, and its eligible methods, in
declaration order. A property that several fragments declare is described by the first of them, and
is read-only only if all of them say so. A static subject is described without members, since nothing
is going to be written for it.
-/

namespace Companion

/-! ## Properties -/

def PropertyDecl.describe (p : PropertyDecl) : PropertyDescriptor where
  name := p.name
  typeName := p.type.display
  modifiers :=
    { isStatic := p.isStatic, isReadOnly := p.isReadOnly, isUnsafe := p.type.containsPointer }

/-- The description after another one of the same name: writable if that one is. -/
def PropertyDescriptor.meet (p q : PropertyDescriptor) : PropertyDescriptor :=
  { p with modifiers :=
    { p.modifiers with isReadOnly := p.modifiers.isReadOnly && q.modifiers.isReadOnly } }

/-- Takes a description into the list: at the end if its name is new, otherwise into the description
    that has its name. -/
def addProperty (ps : List PropertyDescriptor) (p : PropertyDescriptor) : List PropertyDescriptor :=
  if ps.any (·.name == p.name) then ps.map fun q => if q.name == p.name then q.meet p else q
  else ps ++ [p]

/-! ## Methods -/

def ParameterDecl.describe (p : ParameterDecl) : ParameterDescriptor where
  name := p.name
  typeName := p.type.display
  passing := p.passing

def TypeParameterDecl.describe (p : TypeParameterDecl) : TypeParameterDescriptor where
  name := p.name
  constraints := p.constraints.map TypeRef.display

/-- The text is a spelling of the built-in type: its keyword, or its system name with or without the
    global qualifier. -/
def isSpelling (keyword systemName text : String) : Bool :=
  text == keyword || dropLeading "global::" text == "System." ++ systemName

/-- The text without the marks that it may be null. -/
def withoutNullMarks (text : String) : String :=
  String.ofList (text.toList.reverse.dropWhile (· == '?')).reverse

/-- The only parameter is taken by value and is an object. -/
def takesObject : List ParameterDescriptor → Bool
  | [p] => p.passing == .byValue && isSpelling "object" "Object" (withoutNullMarks p.typeName)
  | _ => false

/-- The method replaces one that every type inherits. -/
def MethodDescriptor.isInherited (m : MethodDescriptor) : Bool :=
  !m.modifiers.isStatic && m.typeParameters.isEmpty &&
    ((m.name == "ToString" && isSpelling "string" "String" (withoutNullMarks m.returnType)
        && m.parameters.isEmpty)
      || (m.name == "Equals" && isSpelling "bool" "Boolean" m.returnType
        && takesObject m.parameters)
      || (m.name == "GetHashCode" && isSpelling "int" "Int32" m.returnType
        && m.parameters.isEmpty))

/-- The description of a declared method, not yet marked as an override. -/
def MethodDecl.signature (m : MethodDecl) : MethodDescriptor where
  name := m.name
  returnType := m.returnType.display
  modifiers :=
    { isStatic := m.isStatic
      isUnsafe := m.returnType.containsPointer || m.parameters.any (·.type.containsPointer)
      isRef := m.returnsBy == .byRef
      isRefReadOnly := m.returnsBy == .byRefReadOnly }
  parameters := m.parameters.map ParameterDecl.describe
  typeParameters := m.typeParameters.map TypeParameterDecl.describe

def MethodDecl.describe (m : MethodDecl) : MethodDescriptor :=
  let d := m.signature
  { d with modifiers := { d.modifiers with isOverride := d.isInherited } }

theorem MethodDecl.returnsByRef_describe (m : MethodDecl) :
    m.describe.modifiers.returnsByRef = true ↔ m.returnsBy ≠ .byValue := by
  show (m.returnsBy == .byRef || m.returnsBy == .byRefReadOnly) = true ↔ _
  cases m.returnsBy <;> decide

/-! ## Subjects -/

def SubjectDecl.describe (s : SubjectDecl) : SubjectDescriptor where
  name := s.name
  -- An empty namespace is none.
  namespaceName := s.namespaceName.filter (· != "")
  reference := s.reference
  kind := s.kind
  -- The companion is partial, for the subject may have more fragments elsewhere.
  modifiers :=
    { isPartial := true, isStatic := s.isStatic, isRefStruct := s.isRefLike, isUnsafe := s.isUnsafe }
  genericParameters := s.genericParameters
  location := s.location

/-- The descriptions of the eligible properties: one for each name. -/
def describeProperties (ps : List PropertyDecl) : List PropertyDescriptor :=
  ((ps.filter PropertyDecl.isEligible).map PropertyDecl.describe).foldl addProperty []

def describeMethods (ms : List MethodDecl) : List MethodDescriptor :=
  (ms.filter MethodDecl.isEligible).map MethodDecl.describe

def SubjectDecl.model (s : SubjectDecl) : SubjectModel :=
  if s.isStatic then { subject := s.describe, properties := [], methods := [] }
  else
    { subject := s.describe
      properties := describeProperties s.properties
      methods := describeMethods s.methods }

end Companion
