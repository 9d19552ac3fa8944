import Companion.Declaration.Words

/-!
# Declarations as values: writing

The full form of a declaration: every field with its value, whether or not it is the default. Only a
type reference leaves fields out: its arguments when there are none, its containing type when it has
none.
-/

namespace Companion

/-- A value, or null where there is none. -/
def Value.ofOption {α : Type} (write : α → Value) : Option α → Value
  | none => .null
  | some a => write a

mutual

/-- The full form of a type reference. -/
def TypeRef.encode : TypeRef → Value
  | ⟨display, accessibility, shape, arguments, containing⟩ =>
    .ofFields (
      [("display", .text display), ("accessibility", Vocabulary.write accessibility),
        ("shape", encodeShape shape)]
      ++ (if arguments.isEmpty then [] else [("type-arguments", .list (encodeAll arguments))])
      ++ encodeContaining containing)

/-- A shape under the name of its kind, with the parts it has. -/
def TypeRef.encodeShape : TypeShape TypeRef → Value
  | .named => .ofFields [("kind", .text "named")]
  | .void => .ofFields [("kind", .text "void")]
  | .pointer pointee => .ofFields [("kind", .text "pointer"), ("pointee", pointee.encode)]
  | .array element => .ofFields [("kind", .text "array"), ("element", element.encode)]
  | .typeParameter constraints =>
    .ofFields [("kind", .text "type-parameter"), ("constraints", .list (encodeAll constraints))]

def TypeRef.encodeAll : List TypeRef → List Value
  | [] => []
  | t :: rest => t.encode :: encodeAll rest

/-- The field for a containing type, if there is one. -/
def TypeRef.encodeContaining : Option TypeRef → List (String × Value)
  | none => []
  | some t => [("containing-type", t.encode)]

end

def SourceLocation.encode (l : SourceLocation) : Value :=
  .ofFields [("path", .text l.path), ("line", .integer l.line.toNat),
    ("column", .integer l.column.toNat)]

def PropertyDecl.encodeFields (p : PropertyDecl) : List (String × Value) :=
  [("name", .text p.name), ("type", p.type.encode),
    ("accessibility", Vocabulary.write p.accessibility), ("is-static", .flag p.isStatic),
    ("is-read-only", .flag p.isReadOnly), ("location", .ofOption SourceLocation.encode p.location)]

def ParameterDecl.encode (p : ParameterDecl) : Value :=
  .ofFields [("name", .text p.name), ("type", p.type.encode),
    ("ref-kind", Vocabulary.write p.passing)]

def TypeParameterDecl.encode (p : TypeParameterDecl) : Value :=
  .ofFields [("name", .text p.name), ("constraints", .list (p.constraints.map TypeRef.encode))]

def MethodDecl.encodeFields (m : MethodDecl) : List (String × Value) :=
  [("name", .text m.name), ("kind", Vocabulary.write m.kind),
    ("return-type", m.returnType.encode), ("returns-by", Vocabulary.write m.returnsBy),
    ("parameters", .list (m.parameters.map ParameterDecl.encode)),
    ("type-parameters", .list (m.typeParameters.map TypeParameterDecl.encode)),
    ("accessibility", Vocabulary.write m.accessibility), ("is-static", .flag m.isStatic),
    ("location", .ofOption SourceLocation.encode m.location)]

def OtherMemberDecl.encodeFields (o : OtherMemberDecl) : List (String × Value) :=
  [("name", .text o.name), ("kind", Vocabulary.write o.kind)]

/-- The full form of a member, with the field that says what it is in front. -/
def MemberDecl.encode : MemberDecl → Value
  | .property p => .ofFields (("member", .text "property") :: p.encodeFields)
  | .method m => .ofFields (("member", .text "method") :: m.encodeFields)
  | .other o => .ofFields (("member", .text "other") :: o.encodeFields)

def SubjectDecl.encode (s : SubjectDecl) : Value :=
  .ofFields [("name", .text s.name), ("namespace", .ofOption .text s.namespaceName),
    ("reference", .text s.reference), ("kind", Vocabulary.write s.kind),
    ("is-static", .flag s.isStatic), ("is-ref-like", .flag s.isRefLike),
    ("is-unsafe", .flag s.isUnsafe),
    ("generic-parameters", .list (s.genericParameters.map .text)),
    ("location", .ofOption SourceLocation.encode s.location),
    ("members", .list (s.members.map MemberDecl.encode))]

/-- The full form of a manifest: what it says of itself, then its subjects. -/
def Manifest.encode (m : Manifest) : Value :=
  .ofFields [
    ("manifest", .ofFields [("assembly", .text m.assembly),
      ("description", .ofOption .text m.description),
      ("imports", .list (m.imports.map fun path => .ofFields [("path", .text path)]))]),
    ("subjects", .list (m.subjects.map SubjectDecl.encode))]

end Companion
