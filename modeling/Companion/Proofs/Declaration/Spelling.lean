import Mathlib.Data.List.Forall2
import Mathlib.Data.List.Nodup
import Companion.Data.Fields
import Companion.Declaration.Encode

/-!
# Spellings

A declaration may be written in many ways. A field may be left out where it has its default, and a
public named type may be written as a bare text, at any depth and in any combination. Which values
spell a declaration is said here by recursion on the declaration, without a word about reading.

The fields of a record may come in any order; in the full form they come in the order of the
declaration, and a type reference leaves out what it does not have (`spelledBy_encode`).
-/

namespace Companion

/-! ## Records with fields that may be left out -/

/-- A field of a record: what may stand in it, and when it may be left out. -/
structure FieldSpelling where
  name : String
  spells : Value → Prop
  mayLack : Prop

namespace FieldSpelling

/-- A field that is always there. -/
def required (name : String) (spells : Value → Prop) : FieldSpelling :=
  ⟨name, spells, False⟩

/-- A field that may be left out where it has its default. -/
def defaulted (name : String) (isDefault : Prop) (spells : Value → Prop) : FieldSpelling :=
  ⟨name, spells, isDefault⟩

/-- The field that says what the other fields of a record belong to. -/
def tag (name word : String) : FieldSpelling :=
  required name (· = .text word)

@[simp] theorem name_required (name : String) (spells : Value → Prop) :
    (required name spells).name = name := rfl

@[simp] theorem name_defaulted (name : String) (isDefault : Prop) (spells : Value → Prop) :
    (defaulted name isDefault spells).name = name := rfl

@[simp] theorem name_tag (name word : String) : (tag name word).name = name := rfl

/-- The field has one of its spellings among the fields, or it is left out and may be. -/
def In (f : FieldSpelling) (fields : List (String × Value)) : Prop :=
  match field? fields f.name with
  | some v => f.spells v
  | none => f.mayLack

end FieldSpelling

/-- The fields of a record in any order, each at most once and no others. -/
structure SpelledFields (specs : List FieldSpelling) (fields : List (String × Value)) : Prop where
  nodup : (fields.map (·.1)).Nodup
  known : fields.map (·.1) ⊆ specs.map (·.name)
  each : specs.Forall (·.In fields)

/-- A record of such fields. -/
def Value.IsRecord (specs : List FieldSpelling) (v : Value) : Prop :=
  ∃ fields, v = .ofFields fields ∧ SpelledFields specs fields

/-- The fields of a record in their own order, some of those that may be left out. -/
inductive InOrder : List FieldSpelling → List (String × Value) → Prop where
  | nil : InOrder [] []
  | put {f : FieldSpelling} {specs : List FieldSpelling} {v : Value}
      {fields : List (String × Value)} :
    f.spells v → InOrder specs fields → InOrder (f :: specs) ((f.name, v) :: fields)
  | skip {f : FieldSpelling} {specs : List FieldSpelling} {fields : List (String × Value)} :
    f.mayLack → InOrder specs fields → InOrder (f :: specs) fields

section

variable {f : FieldSpelling} {specs : List FieldSpelling} {fields : List (String × Value)}
  {name : String}

theorem field?_cons (f : String × Value) (fields : List (String × Value)) (name : String) :
    field? (f :: fields) name = if name = f.1 then some f.2 else field? fields name := by
  rw [field?, List.lookup_cons]
  split
  · next h => rw [if_pos (beq_iff_eq.mp h)]
  · next h => rw [if_neg (beq_eq_false_iff_ne.mp h), field?]

theorem field?_eq_none (h : name ∉ fields.map (·.1)) : field? fields name = none := by
  rw [field?, List.lookup_eq_none_iff]
  intro f hf
  rw [bne_iff_ne]
  rintro rfl
  exact h (List.mem_map_of_mem hf)

theorem field?_filter {other : String} (h : name ≠ other) :
    field? (fields.filter (·.1 != other)) name = field? fields name := by
  induction fields with
  | nil => rfl
  | cons f rest ih =>
    rw [List.filter_cons]
    by_cases hf : f.1 = other
    · rw [if_neg (by simp [hf]), ih, field?_cons, if_neg fun heq => h (heq.trans hf)]
    · rw [if_pos (by simp [hf]), field?_cons, field?_cons, ih]

/-- A field that stands in front does not change what is said of the others. -/
theorem forall_in_cons {v : Value} (hname : name ∉ specs.map (·.name)) :
    specs.Forall (·.In ((name, v) :: fields)) ↔ specs.Forall (·.In fields) := by
  simp only [List.forall_iff_forall_mem]
  refine forall₂_congr fun f hf => ?_
  have hne : f.name ≠ name := fun heq => hname (heq ▸ List.mem_map_of_mem hf)
  rw [FieldSpelling.In, FieldSpelling.In, field?_cons, if_neg hne]

/-- Fields in their own order spell a record. -/
theorem InOrder.spelled (h : InOrder specs fields) (hnames : (specs.map (·.name)).Nodup) :
    SpelledFields specs fields := by
  induction h with
  | nil => exact ⟨List.nodup_nil, List.Subset.refl _, trivial⟩
  | put hv _ ih =>
    rw [List.map_cons, List.nodup_cons] at hnames
    obtain ⟨hnodup, hknown, heach⟩ := ih hnames.2
    refine ⟨?_, List.cons_subset_cons _ hknown, ?_⟩
    · rw [List.map_cons, List.nodup_cons]
      exact ⟨fun hmem => hnames.1 (hknown hmem), hnodup⟩
    · rw [List.forall_cons, forall_in_cons hnames.1, FieldSpelling.In, field?_cons, if_pos rfl]
      exact ⟨hv, heach⟩
  | skip hlack _ ih =>
    rw [List.map_cons, List.nodup_cons] at hnames
    obtain ⟨hnodup, hknown, heach⟩ := ih hnames.2
    refine ⟨hnodup, List.subset_cons_of_subset _ hknown, ?_⟩
    rw [List.forall_cons, FieldSpelling.In, field?_eq_none fun hmem => hnames.1 (hknown hmem)]
    exact ⟨hlack, heach⟩

theorem InOrder.isRecord (h : InOrder specs fields) (hnames : (specs.map (·.name)).Nodup) :
    (Value.ofFields fields).IsRecord specs :=
  ⟨fields, rfl, h.spelled hnames⟩

end

/-! ## Parts -/

def Value.IsText (text : String) (v : Value) : Prop :=
  v = .text text

/-- A list whose items are spelled one by one. -/
def Value.IsList {α : Type} (spells : α → Value → Prop) (as : List α) (v : Value) : Prop :=
  ∃ items, v = .list items ∧ List.Forall₂ spells as items

/-- What may be there, or else null. -/
def Value.IsOptional {α : Type} (spells : α → Value → Prop) : Option α → Value → Prop
  | none, v => v = .null
  | some a, v => spells a v

/-! ## Type references -/

mutual

/-- The spellings of a type reference: a bare text if that says it all, and records. -/
def TypeRef.SpelledBy : TypeRef → Value → Prop
  | ⟨display, accessibility, shape, arguments, containing⟩ => fun v =>
    (⟨display, accessibility, shape, arguments, containing⟩ = TypeRef.named display
      ∧ v = .text display)
    ∨ v.IsRecord [
      .required "display" (Value.IsText display),
      .defaulted "accessibility" (accessibility = .publicAccess)
        (· = Vocabulary.write accessibility),
      .defaulted "shape" (shape = .named) (ShapeSpelledBy shape),
      .defaulted "type-arguments" (arguments = []) fun w =>
        ∃ items, w = .list items ∧ AllSpelledBy arguments items,
      .defaulted "containing-type" (containing = none) (ContainingSpelledBy containing)]

def TypeRef.ShapeSpelledBy : TypeShape TypeRef → Value → Prop
  | .named => Value.IsRecord [.tag "kind" "named"]
  | .void => Value.IsRecord [.tag "kind" "void"]
  | .pointer pointee =>
    Value.IsRecord [.tag "kind" "pointer", .required "pointee" pointee.SpelledBy]
  | .array element =>
    Value.IsRecord [.tag "kind" "array", .required "element" element.SpelledBy]
  | .typeParameter constraints =>
    Value.IsRecord [.tag "kind" "type-parameter",
      .defaulted "constraints" (constraints = []) fun w =>
        ∃ items, w = .list items ∧ AllSpelledBy constraints items]

/-- The items spell the references one by one. -/
def TypeRef.AllSpelledBy : List TypeRef → List Value → Prop
  | [] => fun items => items = []
  | t :: rest => fun items => ∃ v more, items = v :: more ∧ t.SpelledBy v ∧ AllSpelledBy rest more

def TypeRef.ContainingSpelledBy : Option TypeRef → Value → Prop
  | none => (· = .null)
  | some t => t.SpelledBy

end

/-! ## Members -/

def SourceLocation.SpelledBy (l : SourceLocation) : Value → Prop :=
  Value.IsRecord [
    .required "path" (Value.IsText l.path),
    .required "line" (· = .integer l.line.toNat),
    .required "column" (· = .integer l.column.toNat)]

def PropertyDecl.spelling (p : PropertyDecl) : List FieldSpelling := [
  .required "name" (Value.IsText p.name),
  .required "type" p.type.SpelledBy,
  .defaulted "accessibility" (p.accessibility = .publicAccess)
    (· = Vocabulary.write p.accessibility),
  .defaulted "is-static" (p.isStatic = false) (· = .flag p.isStatic),
  .defaulted "is-read-only" (p.isReadOnly = false) (· = .flag p.isReadOnly),
  .defaulted "location" (p.location = none) (Value.IsOptional SourceLocation.SpelledBy p.location)]

def ParameterDecl.SpelledBy (p : ParameterDecl) : Value → Prop :=
  Value.IsRecord [
    .required "name" (Value.IsText p.name),
    .required "type" p.type.SpelledBy,
    .defaulted "ref-kind" (p.passing = .byValue) (· = Vocabulary.write p.passing)]

def TypeParameterDecl.SpelledBy (p : TypeParameterDecl) : Value → Prop :=
  Value.IsRecord [
    .required "name" (Value.IsText p.name),
    .defaulted "constraints" (p.constraints = []) (Value.IsList TypeRef.SpelledBy p.constraints)]

/-- The fields of a method. What it returns may be left out where it returns nothing. -/
def MethodDecl.spelling (m : MethodDecl) : List FieldSpelling := [
  .required "name" (Value.IsText m.name),
  .defaulted "kind" (m.kind = .ordinary) (· = Vocabulary.write m.kind),
  .defaulted "return-type" (m.returnType = .void) m.returnType.SpelledBy,
  .defaulted "returns-by" (m.returnsBy = .byValue) (· = Vocabulary.write m.returnsBy),
  .defaulted "parameters" (m.parameters = [])
    (Value.IsList ParameterDecl.SpelledBy m.parameters),
  .defaulted "type-parameters" (m.typeParameters = [])
    (Value.IsList TypeParameterDecl.SpelledBy m.typeParameters),
  .defaulted "accessibility" (m.accessibility = .publicAccess)
    (· = Vocabulary.write m.accessibility),
  .defaulted "is-static" (m.isStatic = false) (· = .flag m.isStatic),
  .defaulted "location" (m.location = none) (Value.IsOptional SourceLocation.SpelledBy m.location)]

def OtherMemberDecl.spelling (o : OtherMemberDecl) : List FieldSpelling := [
  .required "name" (Value.IsText o.name),
  .defaulted "kind" (o.kind = .field) (· = Vocabulary.write o.kind)]

def MemberDecl.SpelledBy : MemberDecl → Value → Prop
  | .property p => Value.IsRecord (.tag "member" "property" :: p.spelling)
  | .method m => Value.IsRecord (.tag "member" "method" :: m.spelling)
  | .other o => Value.IsRecord (.tag "member" "other" :: o.spelling)

/-! ## Subjects and manifests -/

def SubjectDecl.SpelledBy (s : SubjectDecl) : Value → Prop :=
  Value.IsRecord [
    .required "name" (Value.IsText s.name),
    .defaulted "namespace" (s.namespaceName = none)
      (Value.IsOptional Value.IsText s.namespaceName),
    .required "reference" (Value.IsText s.reference),
    .defaulted "kind" (s.kind = .classType) (· = Vocabulary.write s.kind),
    .defaulted "is-static" (s.isStatic = false) (· = .flag s.isStatic),
    .defaulted "is-ref-like" (s.isRefLike = false) (· = .flag s.isRefLike),
    .defaulted "is-unsafe" (s.isUnsafe = false) (· = .flag s.isUnsafe),
    .defaulted "generic-parameters" (s.genericParameters = [])
      (Value.IsList Value.IsText s.genericParameters),
    .defaulted "location" (s.location = none)
      (Value.IsOptional SourceLocation.SpelledBy s.location),
    .defaulted "members" (s.members = []) (Value.IsList MemberDecl.SpelledBy s.members)]

/-- What a manifest says of itself. -/
def Manifest.about (m : Manifest) : List FieldSpelling := [
  .required "assembly" (Value.IsText m.assembly),
  .defaulted "description" (m.description = none)
    (Value.IsOptional Value.IsText m.description),
  .defaulted "imports" (m.imports = [])
    (Value.IsList (fun path => Value.IsRecord [.required "path" (Value.IsText path)]) m.imports)]

def Manifest.SpelledBy (m : Manifest) : Value → Prop :=
  Value.IsRecord [
    .required "manifest" (Value.IsRecord m.about),
    .defaulted "subjects" (m.subjects = []) (Value.IsList SubjectDecl.SpelledBy m.subjects)]

/-! ## Full forms -/

theorem Value.isText_text (text : String) : (Value.text text).IsText text := rfl

theorem Value.isList_map {α : Type} {spells : α → Value → Prop} {write : α → Value}
    (h : ∀ a, spells a (write a)) (as : List α) : (Value.list (as.map write)).IsList spells as :=
  ⟨_, rfl, List.forall₂_map_right_iff.mpr (List.forall₂_same.mpr fun a _ => h a)⟩

theorem Value.isOptional_ofOption {α : Type} {spells : α → Value → Prop} {write : α → Value}
    (h : ∀ a, spells a (write a)) : (a? : Option α) → (Value.ofOption write a?).IsOptional spells a?
  | none => rfl
  | some a => h a

mutual

theorem TypeRef.spelledBy_encode : (t : TypeRef) → t.SpelledBy t.encode
  | ⟨display, accessibility, shape, arguments, containing⟩ => by
    rw [SpelledBy, encode]
    refine .inr (InOrder.isRecord ?_ (by simp))
    refine .put rfl (.put rfl (.put (shapeSpelledBy_encode shape) ?_))
    have hcontaining : InOrder
        [.defaulted "containing-type" (containing = none) (ContainingSpelledBy containing)]
        (encodeContaining containing) :=
      match containing with
      | none => .skip rfl .nil
      | some t => .put t.spelledBy_encode .nil
    match arguments with
    | [] => exact .skip rfl hcontaining
    | t :: rest => exact .put ⟨_, rfl, allSpelledBy_encode (t :: rest)⟩ hcontaining

theorem TypeRef.shapeSpelledBy_encode :
    (shape : TypeShape TypeRef) → ShapeSpelledBy shape (encodeShape shape)
  | .named => InOrder.isRecord (.put rfl .nil) (by simp)
  | .void => InOrder.isRecord (.put rfl .nil) (by simp)
  | .pointer pointee =>
    InOrder.isRecord (.put rfl (.put pointee.spelledBy_encode .nil)) (by simp)
  | .array element =>
    InOrder.isRecord (.put rfl (.put element.spelledBy_encode .nil)) (by simp)
  | .typeParameter constraints =>
    InOrder.isRecord (.put rfl (.put ⟨_, rfl, allSpelledBy_encode constraints⟩ .nil)) (by simp)

theorem TypeRef.allSpelledBy_encode : (ts : List TypeRef) → AllSpelledBy ts (encodeAll ts)
  | [] => rfl
  | t :: rest => ⟨_, _, rfl, t.spelledBy_encode, allSpelledBy_encode rest⟩

end

theorem SourceLocation.spelledBy_encode (l : SourceLocation) : l.SpelledBy l.encode :=
  InOrder.isRecord (.put rfl (.put rfl (.put rfl .nil))) (by simp)

theorem PropertyDecl.inOrder_encodeFields (p : PropertyDecl) :
    InOrder p.spelling p.encodeFields :=
  .put rfl <| .put p.type.spelledBy_encode <| .put rfl <| .put rfl <| .put rfl <|
    .put (Value.isOptional_ofOption SourceLocation.spelledBy_encode _) .nil

theorem ParameterDecl.spelledBy_encode (p : ParameterDecl) : p.SpelledBy p.encode :=
  InOrder.isRecord (.put rfl (.put p.type.spelledBy_encode (.put rfl .nil))) (by simp)

theorem TypeParameterDecl.spelledBy_encode (p : TypeParameterDecl) : p.SpelledBy p.encode :=
  InOrder.isRecord (.put rfl (.put (Value.isList_map TypeRef.spelledBy_encode _) .nil)) (by simp)

theorem MethodDecl.inOrder_encodeFields (m : MethodDecl) : InOrder m.spelling m.encodeFields :=
  .put rfl <| .put rfl <| .put m.returnType.spelledBy_encode <| .put rfl <|
    .put (Value.isList_map ParameterDecl.spelledBy_encode _) <|
    .put (Value.isList_map TypeParameterDecl.spelledBy_encode _) <|
    .put rfl <| .put rfl <|
    .put (Value.isOptional_ofOption SourceLocation.spelledBy_encode _) .nil

theorem OtherMemberDecl.inOrder_encodeFields (o : OtherMemberDecl) :
    InOrder o.spelling o.encodeFields :=
  .put rfl (.put rfl .nil)

theorem MemberDecl.spelledBy_encode : (m : MemberDecl) → m.SpelledBy m.encode
  | .property p =>
    InOrder.isRecord (.put rfl p.inOrder_encodeFields) (by simp [PropertyDecl.spelling])
  | .method m =>
    InOrder.isRecord (.put rfl m.inOrder_encodeFields) (by simp [MethodDecl.spelling])
  | .other o =>
    InOrder.isRecord (.put rfl o.inOrder_encodeFields) (by simp [OtherMemberDecl.spelling])

theorem SubjectDecl.spelledBy_encode (s : SubjectDecl) : s.SpelledBy s.encode := by
  have hnamespace := Value.isOptional_ofOption Value.isText_text s.namespaceName
  have hgeneric := Value.isList_map Value.isText_text s.genericParameters
  have hlocation := Value.isOptional_ofOption SourceLocation.spelledBy_encode s.location
  have hmembers := Value.isList_map MemberDecl.spelledBy_encode s.members
  refine InOrder.isRecord ?_ (by simp)
  exact .put rfl <| .put hnamespace <| .put rfl <| .put rfl <| .put rfl <| .put rfl <|
    .put rfl <| .put hgeneric <| .put hlocation <| .put hmembers .nil

theorem Manifest.spelledBy_encode (m : Manifest) : m.SpelledBy m.encode := by
  have hdescription := Value.isOptional_ofOption Value.isText_text m.description
  have himport : ∀ path,
      Value.IsRecord [.required "path" (Value.IsText path)] (.ofFields [("path", .text path)]) :=
    fun _ => InOrder.isRecord (.put rfl .nil) (by simp)
  have himports := Value.isList_map himport m.imports
  have habout : (Value.ofFields _).IsRecord m.about :=
    InOrder.isRecord (.put rfl (.put hdescription (.put himports .nil))) (by simp [Manifest.about])
  have hsubjects := Value.isList_map SubjectDecl.spelledBy_encode m.subjects
  exact InOrder.isRecord (.put habout (.put hsubjects .nil)) (by simp)

end Companion
