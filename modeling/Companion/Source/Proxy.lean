import Companion.Source.Member

/-!
# The companion type

The whole of a companion: its namespace, the backing field with its constructor and guard, the
forwarded members, and the conversion from the subject if one is wanted. What is written depends on
the description alone.
-/

namespace Companion.Source

/-- What a companion is written from. -/
structure Proxy where
  /-- Its name, without type parameters. -/
  name : String
  namespaceName : Option String := none
  /-- The subject as a type. -/
  targetType : String
  /-- The subject as messages name it. -/
  subjectDisplay : String
  modifiers : Modifiers := {}
  genericParameters : List String := []
  properties : List PropertyDescriptor := []
  methods : List MethodDescriptor := []
  implicitConversion : Bool := false

namespace Proxy

def genericList (p : Proxy) : String :=
  if p.genericParameters.isEmpty then ""
  else "<" ++ ", ".intercalate p.genericParameters ++ ">"

/-- The companion where it is used as a type. -/
def declaredName (p : Proxy) : String :=
  p.name ++ p.genericList

def fileName (p : Proxy) : String :=
  p.name ++ ".g.cs"

/-- The backing field, the constructor that refuses null, and the guard. -/
def instanceSteps (p : Proxy) : List Step :=
  if p.modifiers.isStatic then []
  else
    [.line ("private readonly " ++ p.targetType ++ " " ++ backingField ++ ";"), .blankLine,
      .line ("public " ++ p.name ++ "(" ++ p.targetType ++ " target)"),
      .block [.line (backingField
        ++ " = target ?? throw new global::System.ArgumentNullException(nameof(target));")],
      .blankLine,
      .line ("private readonly void " ++ guardName ++ "()"),
      .block [.line ("if (" ++ backingField ++ " is null)"),
        .block [.line ("throw new global::System.InvalidOperationException(\"Proxy for '"
          ++ p.subjectDisplay ++ "' is uninitialized\");")]],
      .blankLine]

def conversionSteps (p : Proxy) : List Step :=
  if p.implicitConversion && !p.modifiers.isStatic then
    [.line ("public static implicit operator " ++ p.declaredName ++ "(" ++ p.targetType
        ++ " target) => new " ++ p.declaredName ++ "(target);"),
      .blankLine]
  else []

/-- The forwarded members, an empty line after each. -/
def memberSteps (p : Proxy) : List Step :=
  p.properties.flatMap (fun d => propertySteps p.targetType d ++ [.blankLine])
    ++ p.methods.flatMap (fun d => methodSteps p.targetType d ++ [.blankLine])

def typeSteps (p : Proxy) : List Step :=
  [.line (declaration p.modifiers "struct" p.name ++ p.genericList),
    .block (p.instanceSteps ++ p.memberSteps ++ p.conversionSteps)]

def steps (p : Proxy) : List Step :=
  match p.namespaceName with
  | none => p.typeSteps
  | some n => [.line ("namespace " ++ n), .block p.typeSteps]

def text (p : Proxy) : String :=
  (text? p.steps).getD ""

end Proxy

end Companion.Source
