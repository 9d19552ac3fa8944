import Companion.Declaration.Subject
import Companion.Model.Modifiers

/-!
# Member models

What a companion is written from: the subject's own description, and a description of every property
and method that it forwards to. Descriptions hold the text that is going to be written; the types
behind the text have done their work by then.
-/

namespace Companion

structure SubjectDescriptor where
  name : String
  namespaceName : Option String
  /-- Its full spelling as a type. -/
  reference : String
  kind : DeclarationKind
  modifiers : Modifiers
  genericParameters : List String
  location : Option SourceLocation
  deriving DecidableEq, Repr

/-- A described property. It is read-only if no fragment declares a setter. -/
structure PropertyDescriptor where
  name : String
  typeName : String
  modifiers : Modifiers
  deriving DecidableEq, Repr

structure ParameterDescriptor where
  name : String
  typeName : String
  passing : Passing
  deriving DecidableEq, Repr

structure TypeParameterDescriptor where
  name : String
  constraints : List String
  deriving DecidableEq, Repr

structure MethodDescriptor where
  name : String
  returnType : String
  modifiers : Modifiers
  parameters : List ParameterDescriptor
  typeParameters : List TypeParameterDescriptor
  deriving DecidableEq, Repr

/-- Everything that is known of a subject when its companion is written. -/
structure SubjectModel where
  subject : SubjectDescriptor
  properties : List PropertyDescriptor
  methods : List MethodDescriptor
  deriving DecidableEq, Repr

/-- The text without a leading part, if it begins with it. -/
def dropLeading (lead text : String) : String :=
  if lead.toList.isPrefixOf text.toList then String.ofList (text.toList.drop lead.length) else text

theorem dropLeading_eq_iff {lead text rest : String} :
    dropLeading lead text = rest
      ↔ text = lead ++ rest ∨ ¬ lead.toList <+: text.toList ∧ text = rest := by
  simp only [dropLeading, List.isPrefixOf_iff_prefix]
  by_cases h : lead.toList <+: text.toList
  · obtain ⟨tail, htail⟩ := h
    have htext : text = lead ++ String.ofList tail := by
      rw [← String.toList_inj, String.toList_append, String.toList_ofList, htail]
    have hdrop : text.toList.drop lead.length = tail := by
      rw [← htail, ← String.length_toList, List.drop_left]
    rw [if_pos ⟨tail, htail⟩, hdrop, htext]
    simp
  · have hother : text ≠ lead ++ rest := by
      rintro rfl
      exact h ⟨rest.toList, by rw [String.toList_append]⟩
    rw [if_neg h]
    simp [h, hother]

/-- The reference as messages show it: without the global qualifier. -/
def SubjectDescriptor.displayReference (s : SubjectDescriptor) : String :=
  dropLeading "global::" s.reference

def MethodDescriptor.returnsVoid (m : MethodDescriptor) : Bool :=
  m.returnType == "void"

namespace SubjectModel

/-- A companion can be made for the subject: it is not static. -/
def isSupported (m : SubjectModel) : Bool :=
  !m.subject.modifiers.isStatic

/-- The subject is of a kind that gets a companion. -/
def isEmitted (m : SubjectModel) : Bool :=
  m.subject.kind.isClassLike

def findProperty? (m : SubjectModel) (name : String) : Option PropertyDescriptor :=
  m.properties.find? (·.name == name)

def findMethods (m : SubjectModel) (name : String) : List MethodDescriptor :=
  m.methods.filter (·.name == name)

end SubjectModel

/-- How a parameter's passing is listed in models. -/
def Passing.listed : Passing → String
  | .byValue => "by-value"
  | .byRef => "ref"
  | .byOut => "out"
  | .byIn => "in"
  | .byRefReadOnly => "ref-read-only"

end Companion
