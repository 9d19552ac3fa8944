import Companion.Declaration.Words
import Companion.Data.Fields

/-!
# Declarations as values: reading

A declaration is read from its full form, from any form of it that leaves out fields with their
defaults, and from a list of its first fields in order. A bare text is a public named type. Unknown
fields are dropped, repeated ones refused.

A type reference may hold references anywhere below it; that what a field holds is smaller than the
record is what ends the reading.
-/

namespace Companion

/-! ## Type references -/

/-- The kinds of shapes, in the order in which positions count them. -/
inductive ShapeKind where
  | named
  | void
  | pointer
  | array
  | typeParameter
  deriving DecidableEq, Repr

instance : Vocabulary ShapeKind where
  all := [.named, .void, .pointer, .array, .typeParameter]
  word
    | .named => "named"
    | .void => "void"
    | .pointer => "pointer"
    | .array => "array"
    | .typeParameter => "type-parameter"

/-- The kind of a shape: its word or its position. -/
def ShapeKind.read? : Value → Option ShapeKind
  | .text word => Vocabulary.ofWord? word
  | .integer (.ofNat i) => (Vocabulary.all : List ShapeKind)[i]?
  | _ => none

/-- A shape without parts ignores the entries of a record but not the items of a list. -/
def Value.isBare : Value → Bool
  | .list (_ :: _) => false
  | _ => true

def TypeRef.fieldNames : List String :=
  ["display", "accessibility", "shape", "type-arguments", "containing-type"]

section

set_option linter.unusedVariables false

mutual

def TypeRef.decode? (v : Value) : Option TypeRef :=
  match v with
  | .text display => some (.named display)
  | v =>
    match hf : v.fields? fieldNames with
    | none => none
    | some fields => do
      let display ← required fields "display" Value.text?
      let accessibility ← withDefault fields "accessibility" Vocabulary.read? .publicAccess
      let shape ← match hw : field? fields "shape" with
        | none => some .named
        | some w => decodeShape? w
      let arguments ← match hw : field? fields "type-arguments" with
        | none => some []
        | some (.list items) => decodeAll? items
        | some _ => none
      let containing ← match hw : field? fields "containing-type" with
        | none => some none
        | some .null => some none
        | some w => (decode? w).map some
      return ⟨display, accessibility, shape, arguments, containing⟩
termination_by (sizeOf v, 0)
decreasing_by
  · exact Prod.Lex.left _ _ (Value.sizeOf_lt_of_field hf hw)
  · have := Value.sizeOf_lt_of_field hf hw
    simp only [Value.list.sizeOf_spec] at this
    exact Prod.Lex.left _ _ (by omega)
  · exact Prod.Lex.left _ _ (Value.sizeOf_lt_of_field hf hw)

def TypeRef.decodeShape? (v : Value) : Option (TypeShape TypeRef) :=
  match ht : v.tagged? "kind" with
  | none => none
  | some (tag, rest) =>
    match ShapeKind.read? tag with
    | none => none
    | some .named => if rest.isBare then some .named else none
    | some .void => if rest.isBare then some .void else none
    | some .pointer =>
      match hf : rest.fields? ["pointee"] with
      | none => none
      | some fields =>
        match hw : field? fields "pointee" with
        | none => none
        | some w => (decode? w).map .pointer
    | some .array =>
      match hf : rest.fields? ["element"] with
      | none => none
      | some fields =>
        match hw : field? fields "element" with
        | none => none
        | some w => (decode? w).map .array
    | some .typeParameter =>
      match hf : rest.fields? ["constraints"] with
      | none => none
      | some fields =>
        match hw : field? fields "constraints" with
        | none => some (.typeParameter [])
        | some (.list items) => (decodeAll? items).map .typeParameter
        | some _ => none
termination_by (sizeOf v, 0)
decreasing_by
  · have := Value.sizeOf_lt_of_field hf hw
    have := Value.sizeOf_lt_of_tagged ht
    exact Prod.Lex.left _ _ (by omega)
  · have := Value.sizeOf_lt_of_field hf hw
    have := Value.sizeOf_lt_of_tagged ht
    exact Prod.Lex.left _ _ (by omega)
  · have := Value.sizeOf_lt_of_field hf hw
    have := Value.sizeOf_lt_of_tagged ht
    simp only [Value.list.sizeOf_spec] at *
    exact Prod.Lex.left _ _ (by omega)

def TypeRef.decodeAll? (vs : List Value) : Option (List TypeRef) :=
  match vs with
  | [] => some []
  | v :: rest => do
    let t ← decode? v
    let ts ← decodeAll? rest
    return t :: ts
termination_by (sizeOf vs, 0)
decreasing_by
  · exact Prod.Lex.left _ _ (by simp only [List.cons.sizeOf_spec]; omega)
  · exact Prod.Lex.left _ _ (by simp only [List.cons.sizeOf_spec]; omega)

end

end

/-! ## Members -/

def SourceLocation.decode? (v : Value) : Option SourceLocation := do
  let fields ← v.fields? ["path", "line", "column"]
  let path ← required fields "path" Value.text?
  let line ← required fields "line" Value.word32?
  let column ← required fields "column" Value.word32?
  return { path, line, column }

def PropertyDecl.decode? (v : Value) : Option PropertyDecl := do
  let fields ← v.fields?
    ["name", "type", "accessibility", "is-static", "is-read-only", "location"]
  let name ← required fields "name" Value.text?
  let type ← required fields "type" TypeRef.decode?
  let accessibility ← withDefault fields "accessibility" Vocabulary.readInVariant? .publicAccess
  let isStatic ← withDefault fields "is-static" Value.flag? false
  let isReadOnly ← withDefault fields "is-read-only" Value.flag? false
  let location ← nullable fields "location" SourceLocation.decode?
  return { name, type, accessibility, isStatic, isReadOnly, location }

def ParameterDecl.decode? (v : Value) : Option ParameterDecl := do
  let fields ← v.fields? ["name", "type", "ref-kind"]
  let name ← required fields "name" Value.text?
  let type ← required fields "type" TypeRef.decode?
  let passing ← withDefault fields "ref-kind" Vocabulary.readInVariant? .byValue
  return { name, type, passing }

def TypeParameterDecl.decode? (v : Value) : Option TypeParameterDecl := do
  let fields ← v.fields? ["name", "constraints"]
  let name ← required fields "name" Value.text?
  let constraints ← withDefault fields "constraints" (Value.listOf? TypeRef.decode?) []
  return { name, constraints }

/-- Reads a method. One without a return type returns nothing. -/
def MethodDecl.decode? (v : Value) : Option MethodDecl := do
  let fields ← v.fields?
    ["name", "kind", "return-type", "returns-by", "parameters", "type-parameters",
      "accessibility", "is-static", "location"]
  let name ← required fields "name" Value.text?
  let kind ← withDefault fields "kind" Vocabulary.readInVariant? .ordinary
  let returnType ← withDefault fields "return-type" TypeRef.decode? .void
  let returnsBy ← withDefault fields "returns-by" Vocabulary.readInVariant? .byValue
  let parameters ← withDefault fields "parameters" (Value.listOf? ParameterDecl.decode?) []
  let typeParameters ←
    withDefault fields "type-parameters" (Value.listOf? TypeParameterDecl.decode?) []
  let accessibility ← withDefault fields "accessibility" Vocabulary.readInVariant? .publicAccess
  let isStatic ← withDefault fields "is-static" Value.flag? false
  let location ← nullable fields "location" SourceLocation.decode?
  return {
    name, kind, returnType, returnsBy, parameters, typeParameters, accessibility, isStatic,
    location }

def OtherMemberDecl.decode? (v : Value) : Option OtherMemberDecl := do
  let fields ← v.fields? ["name", "kind"]
  let name ← required fields "name" Value.text?
  let kind ← withDefault fields "kind" Vocabulary.readInVariant? .field
  return { name, kind }

/-- Reads a member by the field that says what it is. -/
def MemberDecl.decode? (v : Value) : Option MemberDecl := do
  let (tag, rest) ← v.tagged? "member"
  match tag.text? with
  | some "property" => (PropertyDecl.decode? rest).map .property
  | some "method" => (MethodDecl.decode? rest).map .method
  | some "other" => (OtherMemberDecl.decode? rest).map .other
  | _ => none

/-! ## Subjects and manifests -/

def SubjectDecl.decode? (v : Value) : Option SubjectDecl := do
  let fields ← v.fields?
    ["name", "namespace", "reference", "kind", "is-static", "is-ref-like", "is-unsafe",
      "generic-parameters", "location", "members"]
  let name ← required fields "name" Value.text?
  let namespaceName ← nullable fields "namespace" Value.text?
  let reference ← required fields "reference" Value.text?
  let kind ← withDefault fields "kind" Vocabulary.read? .classType
  let isStatic ← withDefault fields "is-static" Value.flag? false
  let isRefLike ← withDefault fields "is-ref-like" Value.flag? false
  let isUnsafe ← withDefault fields "is-unsafe" Value.flag? false
  let genericParameters ← withDefault fields "generic-parameters" (Value.listOf? Value.text?) []
  let location ← nullable fields "location" SourceLocation.decode?
  let members ← withDefault fields "members" (Value.listOf? MemberDecl.decode?) []
  return {
    name, namespaceName, reference, kind, isStatic, isRefLike, isUnsafe, genericParameters,
    location, members }

/-- Reads an import: the path it names. -/
def Manifest.decodeImport? (v : Value) : Option String := do
  let fields ← v.fields? ["path"]
  required fields "path" Value.text?

def Manifest.decode? (v : Value) : Option Manifest := do
  let fields ← v.fields? ["manifest", "subjects"]
  let about ← (field? fields "manifest").bind
    (Value.fields? ["assembly", "description", "imports"])
  let assembly ← required about "assembly" Value.text?
  let description ← nullable about "description" Value.text?
  let imports ← withDefault about "imports" (Value.listOf? decodeImport?) []
  let subjects ← withDefault fields "subjects" (Value.listOf? SubjectDecl.decode?) []
  return { assembly, description, imports, subjects }

end Companion
