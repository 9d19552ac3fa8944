import Companion.Model.Basic
import Companion.Identifier
import Companion.Source.Writer

/-!
# Forwarding

A companion's member does not touch the subject's member itself. Its body declares a local accessor
bound to that member and calls it. The two have to agree: the accessor's signature is the member's
own, with the receiver in front, and the call hands on every parameter under the receiver argument.
This module says what signatures, bindings and calls are made of; how they are laid out as text is
said once for all of them.
-/

namespace Companion.Source

def parameterKeyword : Passing → String
  | .byValue => ""
  | .byRef => "ref "
  | .byOut => "out "
  | .byIn => "in "
  | .byRefReadOnly => "ref readonly "

/-- The keyword in front of an argument. A read-only reference is handed on as an input. -/
def argumentKeyword : Passing → String
  | .byRefReadOnly => "in "
  | p => parameterKeyword p

def declareParameter (p : ParameterDescriptor) : String :=
  parameterKeyword p.passing ++ p.typeName ++ " " ++ Identifier.escaped p.name

def passArgument (p : ParameterDescriptor) : String :=
  argumentKeyword p.passing ++ Identifier.escaped p.name

/-- Items separated by commas, with a comma in front of the first one as well if others precede. -/
def commaSeparated (continued : Bool) (items : List String) : String :=
  if continued then String.join (items.map (", " ++ ·)) else ", ".intercalate items

/-- Behind an item of its own, the list goes on as one list with that item in front. -/
theorem append_commaSeparated (first : String) (items : List String) :
    first ++ commaSeparated true items = ", ".intercalate (first :: items) := by
  rw [commaSeparated, if_pos rfl]
  induction items generalizing first with
  | nil => simp
  | cons item rest ih =>
    rw [List.map_cons, String.join_cons, String.intercalate_cons_cons, ← ih item]
    simp only [String.append_assoc]

def typeParameterList (ps : List TypeParameterDescriptor) : String :=
  if ps.isEmpty then "" else "<" ++ ", ".intercalate (ps.map (·.name)) ++ ">"

/-- The constraint clause of a type parameter. One without constraints has none. -/
def constraintClause (p : TypeParameterDescriptor) : String :=
  if p.constraints.isEmpty then ""
  else " where " ++ p.name ++ " : " ++ ", ".intercalate p.constraints

def constraintClauses (ps : List TypeParameterDescriptor) : String :=
  String.join (ps.map constraintClause)

/-- What a declaration and the accessor bound to it have in common. -/
structure Signature where
  /-- The keywords that say whether the result comes by reference. -/
  refKeyword : String
  returnType : String
  name : String
  typeParameters : List TypeParameterDescriptor
  /-- The accessor's own parameter, as it is declared in front of the others. -/
  receiver : Option String
  /-- The other parameters, as they are declared. -/
  parameters : List String

def Signature.text (s : Signature) : String :=
  s.refKeyword ++ s.returnType ++ " " ++ s.name ++ typeParameterList s.typeParameters
    ++ "(" ++ s.receiver.getD "" ++ commaSeparated s.receiver.isSome s.parameters ++ ")"
    ++ constraintClauses s.typeParameters

/-- With a receiver or without one, no comma is missing and none is left over. -/
theorem Signature.text_eq (s : Signature) :
    s.text = s.refKeyword ++ s.returnType ++ " " ++ s.name ++ typeParameterList s.typeParameters
      ++ "(" ++ ", ".intercalate (s.receiver.toList ++ s.parameters) ++ ")"
      ++ constraintClauses s.typeParameters := by
  have hlist : s.receiver.getD "" ++ commaSeparated s.receiver.isSome s.parameters
      = ", ".intercalate (s.receiver.toList ++ s.parameters) := by
    cases s.receiver with
    | none => simp [commaSeparated]
    | some receiver => exact append_commaSeparated receiver s.parameters
  simp only [text, ← hlist, String.append_assoc]

/-- What becomes of the accessor's result. -/
inductive Hand where
  | nothing
  | value
  | reference
  deriving DecidableEq, Repr

def Hand.keyword : Hand → String
  | .nothing => ""
  | .value => "return "
  | .reference => "return ref "

/-- The routine that refuses to work on a companion without a subject. -/
def guardName : String := "ThrowInvalidOperationIfNotInitialized"

/-- The field that holds the subject. -/
def backingField : String := "_target"

/-- What stands for the subject where a static member is reached. -/
def staticTarget : String := "null!"

/-- The body of an accessor of the companion: a call, and the local accessor that it calls. -/
structure Forwarding where
  isStatic : Bool
  /-- The name by which the subject's member is bound. -/
  member : String
  hand : Hand
  /-- The argument that stands for the subject. -/
  receiver : String
  /-- The other arguments. -/
  arguments : List String
  /-- The local accessor, with its receiver. -/
  accessor : Signature

namespace Forwarding

def bindingKind (isStatic : Bool) : String :=
  "global::System.Runtime.CompilerServices.UnsafeAccessorKind."
    ++ (if isStatic then "StaticMethod" else "Method")

def bindingAttribute (f : Forwarding) : String :=
  "[global::System.Runtime.CompilerServices.UnsafeAccessor(" ++ bindingKind f.isStatic
    ++ ", Name = \"" ++ f.member ++ "\")]"

def call (f : Forwarding) : String :=
  f.hand.keyword ++ f.accessor.name ++ typeParameterList f.accessor.typeParameters
    ++ "(" ++ f.receiver ++ commaSeparated true f.arguments ++ ");"

theorem call_eq (f : Forwarding) :
    f.call = f.hand.keyword ++ f.accessor.name ++ typeParameterList f.accessor.typeParameters
      ++ "(" ++ ", ".intercalate (f.receiver :: f.arguments) ++ ");" := by
  simp only [call, ← append_commaSeparated, String.append_assoc]

/-- The call of the guard, where there is something to guard. -/
def guards (f : Forwarding) : List String :=
  if f.isStatic then [] else [guardName ++ "();"]

def lines (f : Forwarding) : List String :=
  f.guards ++ [f.call, "", f.bindingAttribute, "extern static " ++ f.accessor.text ++ ";"]

def block (f : Forwarding) : Step :=
  .block (f.lines.map .line)

end Forwarding

end Companion.Source
