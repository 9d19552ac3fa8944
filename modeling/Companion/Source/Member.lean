import Companion.Source.Signature

/-!
# The members of a companion

A property has a getter and, unless it is read-only, a setter; each is one forwarding. A method is one
forwarding. Every instance member is a `readonly` one of the companion, since it only ever changes
the subject.
-/

namespace Companion.Source

/-! ## Declarations -/

/-- The keywords of the modifiers, but for those that say how a result comes. -/
def modifierKeywords (m : Modifiers) : String :=
  (if m.isStatic then "static " else "") ++ (if m.isOverride then "override " else "")
    ++ (if m.isReadOnly then "readonly " else "") ++ (if m.isUnsafe then "unsafe " else "")
    ++ (if m.isRefStruct then "ref " else "") ++ (if m.isPartial then "partial " else "")

def refKeywords (m : Modifiers) : String :=
  (if m.isRef then "ref " else "") ++ (if m.isRefReadOnly then "ref readonly " else "")

def declaration (m : Modifiers) (type name : String) : String :=
  "public " ++ modifierKeywords m ++ refKeywords m ++ type ++ " " ++ name

/-! ## Properties -/

def propertyReceiver (p : PropertyDescriptor) : String :=
  if p.modifiers.isStatic then staticTarget else backingField

def getter (targetType : String) (p : PropertyDescriptor) : Forwarding where
  isStatic := p.modifiers.isStatic
  member := "get_" ++ p.name
  hand := .value
  receiver := propertyReceiver p
  arguments := []
  accessor :=
    { refKeyword := "", returnType := p.typeName, name := "Get" ++ p.name, typeParameters := []
      receiver := some (targetType ++ " target"), parameters := [] }

def setter (targetType : String) (p : PropertyDescriptor) : Forwarding where
  isStatic := p.modifiers.isStatic
  member := "set_" ++ p.name
  hand := .nothing
  receiver := propertyReceiver p
  arguments := ["value"]
  accessor :=
    { refKeyword := "", returnType := "void", name := "Set" ++ p.name, typeParameters := []
      receiver := some (targetType ++ " target"), parameters := [p.typeName ++ " value"] }

/-- The modifiers that a property is declared with. On a description, read-only says that there is no
    setter; on the declaration it marks an instance member that leaves the companion as it is. -/
def propertyModifiers (p : PropertyDescriptor) : Modifiers :=
  { p.modifiers with isReadOnly := !p.modifiers.isStatic }

/-- The setter's part of a property, behind an empty line. -/
def setterSteps (targetType : String) (p : PropertyDescriptor) : List Step :=
  if p.modifiers.isReadOnly then []
  else [.blankLine, .line "set", (setter targetType p).block]

def propertySteps (targetType : String) (p : PropertyDescriptor) : List Step :=
  [.line (declaration (propertyModifiers p) p.typeName (Identifier.escaped p.name)),
    .block ([.line "get", (getter targetType p).block] ++ setterSteps targetType p)]

/-! ## Methods -/

/-- The first of the names `name`, `name_`, `name__`, … that is not taken, looked for in so many
    steps. -/
def freshName (taken : List String) : Nat → String → String
  | 0, name => name
  | steps + 1, name => if name ∈ taken then freshName taken steps (name ++ "_") else name

/-- What is found is the name with some more underscores behind it. -/
theorem exists_freshName_eq (taken : List String) (steps : Nat) (name : String) :
    ∃ more, freshName taken steps name = name ++ String.ofList (List.replicate more '_') := by
  induction steps generalizing name with
  | zero => exact ⟨0, by simp [freshName]⟩
  | succ steps ih =>
    rw [freshName]
    split
    · obtain ⟨more, hmore⟩ := ih (name ++ "_")
      refine ⟨more + 1, ?_⟩
      rw [hmore, ← String.toList_inj]
      simp [List.replicate_succ]
    · exact ⟨0, by simp⟩

/-- A name for the accessor's receiver that no parameter has. -/
def receiverName (ps : List ParameterDescriptor) : String :=
  -- Of one name more than there are parameters, one is free.
  freshName (ps.map (·.name)) ps.length "target"

/-- The argument that stands for the subject of a method. -/
def methodReceiver (m : MethodDescriptor) : String :=
  if m.modifiers.isStatic then staticTarget
  -- A parameter hides the field of its name, which the companion itself still has.
  else if m.parameters.any (·.name == backingField) then "this." ++ backingField
  else backingField

def methodHand (m : MethodDescriptor) : Hand :=
  if m.modifiers.returnsByRef then .reference else if m.returnsVoid then .nothing else .value

def methodSignature (m : MethodDescriptor) : Signature where
  refKeyword := refKeywords m.modifiers
  returnType := m.returnType
  name := Identifier.escaped m.name
  typeParameters := m.typeParameters
  receiver := none
  parameters := m.parameters.map declareParameter

/-- The accessor of a method: its signature under the accessor's name, with the receiver in front. -/
def methodAccessor (targetType : String) (m : MethodDescriptor) : Signature :=
  { methodSignature m with
    name := "Call" ++ m.name
    receiver := some (targetType ++ " " ++ receiverName m.parameters) }

def methodForwarding (targetType : String) (m : MethodDescriptor) : Forwarding where
  isStatic := m.modifiers.isStatic
  member := m.name
  hand := methodHand m
  receiver := methodReceiver m
  arguments := m.parameters.map passArgument
  accessor := methodAccessor targetType m

def methodSteps (targetType : String) (m : MethodDescriptor) : List Step :=
  [.line ("public " ++ modifierKeywords m.modifiers ++ (methodSignature m).text),
    (methodForwarding targetType m).block]

end Companion.Source
