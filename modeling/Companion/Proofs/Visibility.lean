import Companion.Proofs.Members
import Companion.Proofs.TypeParts

/-!
# What makes a type visible

Generated code can name a type if it can name everything that the type is made of. Where to look
depends on the type: at what a pointer points to, at the elements of an array, at the constraints of
a type parameter; only of a named type do the arguments and the type around it matter. Nothing that
is met on the way may be `void`, and a named type that is met has to be public (`isVisible_iff`).

**Accessibility only ever hides.** No part is looked at because another one is hidden, so making
types public, wherever they stand, hides nothing that could be named before
(`isVisible_of_publications`).
-/

namespace Companion

open Relation (ReflTransGen)

/-! ## Judging a type by its parts -/

namespace TypeRef

def isNamed (t : TypeRef) : Bool :=
  match t.shape with
  | .named => true
  | _ => false

/-- The places whose types have a say in whether a type can be named. -/
def IsJudged (t : TypeRef) : Place → Prop
  | .pointee | .element | .constraint => True
  | .argument | .container => t.isNamed = true

/-- The type can be named as far as it is not made of others. -/
def NameableAlone (t : TypeRef) : Prop :=
  t.isVoid = false ∧ (t.isNamed = true → t.accessibility = .publicAccess)

/-- The type and everything that has a say in it can be named. -/
def Nameable (t : TypeRef) : Prop :=
  ∀ u, Within IsJudged t u → u.NameableAlone

theorem isVisible_step (t : TypeRef) :
    t.isVisible = true ↔
      t.NameableAlone ∧ ∀ place, IsJudged t place → ∀ u ∈ t.partsAt place, u.isVisible = true := by
  obtain ⟨display, accessibility, shape, arguments, containing⟩ := t
  rw [Place.forall_iff]
  cases shape with
  | void => simp [isVisible, NameableAlone, isVoid]
  | pointer pointee =>
    simp [isVisible, NameableAlone, isVoid, isNamed, IsJudged, partsAt]
  | array element =>
    simp [isVisible, NameableAlone, isVoid, isNamed, IsJudged, partsAt]
  | typeParameter constraints =>
    simp [isVisible, allVisible_eq, NameableAlone, isVoid, isNamed, IsJudged, partsAt]
  | named =>
    have hcontainer : containing.all isVisible = true
        ↔ ∀ u ∈ containing.toList, u.isVisible = true := by
      cases containing <;> simp
    simp only [isVisible, Bool.and_eq_true, Accessibility.isPublic_iff, containingVisible_eq,
      hcontainer, allVisible_eq, List.all_eq_true]
    simp [NameableAlone, isVoid, isNamed, IsJudged, partsAt]
    tauto

theorem isVisible_iff (t : TypeRef) : t.isVisible = true ↔ t.Nameable :=
  forall_within_iff isVisible_step t

/-! ## Making types public -/

/-- A type made public, at the top of another one or anywhere inside of it. -/
inductive MadePublic : TypeRef → TypeRef → Prop where
  | here (t : TypeRef) : MadePublic t { t with accessibility := .publicAccess }
  | pointee {p p' : TypeRef} (h : MadePublic p p') (display : String) (a : Accessibility)
      (arguments : List TypeRef) (containing : Option TypeRef) :
    MadePublic ⟨display, a, .pointer p, arguments, containing⟩
      ⟨display, a, .pointer p', arguments, containing⟩
  | element {e e' : TypeRef} (h : MadePublic e e') (display : String) (a : Accessibility)
      (arguments : List TypeRef) (containing : Option TypeRef) :
    MadePublic ⟨display, a, .array e, arguments, containing⟩
      ⟨display, a, .array e', arguments, containing⟩
  | constraint {c c' : TypeRef} (h : MadePublic c c') (before after : List TypeRef)
      (display : String) (a : Accessibility) (arguments : List TypeRef)
      (containing : Option TypeRef) :
    MadePublic ⟨display, a, .typeParameter (before ++ c :: after), arguments, containing⟩
      ⟨display, a, .typeParameter (before ++ c' :: after), arguments, containing⟩
  | argument {u u' : TypeRef} (h : MadePublic u u') (before after : List TypeRef)
      (display : String) (a : Accessibility) (shape : TypeShape TypeRef)
      (containing : Option TypeRef) :
    MadePublic ⟨display, a, shape, before ++ u :: after, containing⟩
      ⟨display, a, shape, before ++ u' :: after, containing⟩
  | container {u u' : TypeRef} (h : MadePublic u u') (display : String) (a : Accessibility)
      (shape : TypeShape TypeRef) (arguments : List TypeRef) :
    MadePublic ⟨display, a, shape, arguments, some u⟩ ⟨display, a, shape, arguments, some u'⟩

theorem MadePublic.isVisible {t u : TypeRef} (h : MadePublic t u) (ht : t.isVisible = true) :
    u.isVisible = true := by
  induction h with
  | here t =>
    obtain ⟨display, accessibility, shape, arguments, containing⟩ := t
    cases shape <;> simp_all [TypeRef.isVisible, Accessibility.isPublic]
  | pointee _ _ _ _ _ ih => exact ih ht
  | element _ _ _ _ _ ih => exact ih ht
  | constraint _ before after _ _ _ _ ih =>
    simp only [TypeRef.isVisible, allVisible_eq, List.all_append, List.all_cons, Bool.and_eq_true]
      at ht ⊢
    exact ⟨ht.1, ih ht.2.1, ht.2.2⟩
  | argument _ before after _ _ shape _ ih =>
    -- Only of a named type do the arguments matter.
    cases shape with
    | named =>
      simp only [TypeRef.isVisible, allVisible_eq, List.all_append, List.all_cons,
        Bool.and_eq_true] at ht ⊢
      exact ⟨ht.1, ht.2.1, ih ht.2.2.1, ht.2.2.2⟩
    | _ => exact ht
  | container _ _ _ shape _ ih =>
    cases shape with
    | named =>
      simp only [TypeRef.isVisible, containingVisible, Bool.and_eq_true] at ht ⊢
      exact ⟨⟨ht.1.1, ih ht.1.2⟩, ht.2⟩
    | _ => exact ht

theorem isVisible_of_publications {t u : TypeRef} (h : ReflTransGen MadePublic t u)
    (ht : t.isVisible = true) : u.isVisible = true := by
  induction h with
  | refl => exact ht
  | tail _ hstep ih => exact hstep.isVisible ih

end TypeRef

/-! ## Members -/

theorem PropertyDecl.isEligible_iff (p : PropertyDecl) :
    p.isEligible = true ↔ Identifier.isValid p.name = true ∧ p.type.Nameable := by
  rw [isEligible, Bool.and_eq_true, TypeRef.isVisible_iff]

/-- What the signature of a method is made of can be named, but for the `void` that it returns. -/
structure MethodDecl.NameableParts (m : MethodDecl) : Prop where
  result : m.returnType.isVoid = false → m.returnType.Nameable
  parameters : ∀ p ∈ m.parameters, p.type.Nameable
  constraints : ∀ p ∈ m.typeParameters, ∀ c ∈ p.constraints, c.Nameable

theorem MethodDecl.isEligible_iff (m : MethodDecl) :
    m.isEligible = true
      ↔ m.kind = .ordinary ∧ Identifier.isValid m.name = true ∧ m.NameableParts := by
  have hresult : (m.returnType.isVoid || m.returnType.isVisible) = true
      ↔ (m.returnType.isVoid = false → m.returnType.Nameable) := by
    rw [← TypeRef.isVisible_iff]
    cases m.returnType.isVoid <;> simp
  simp only [isEligible, Bool.and_eq_true, beq_iff_eq, hresult, List.all_eq_true,
    TypeParameterDecl.isVisible, TypeRef.isVisible_iff]
  constructor
  · rintro ⟨⟨⟨⟨hkind, hname⟩, hresult⟩, hconstraints⟩, hparameters⟩
    exact ⟨hkind, hname, hresult, hparameters, hconstraints⟩
  · rintro ⟨hkind, hname, hresult, hparameters, hconstraints⟩
    exact ⟨⟨⟨⟨hkind, hname⟩, hresult⟩, hconstraints⟩, hparameters⟩

/-- **A type can be named if all its parts can**, and this is asked of every type in a member that
    is listed. All declarations that a listed property sums up have such a type, beginning with the
    one whose type is written. Types that are made public hide nothing. -/
theorem visible_by_parts (t : TypeRef) (s : SubjectDecl) :
    (t.isVisible = true ↔ t.Nameable)
      ∧ (∀ u, ReflTransGen TypeRef.MadePublic t u → t.isVisible = true → u.isVisible = true)
      ∧ (∀ d ∈ s.model.properties, ∃ first, (s.occurrences d.name).head? = some first
          ∧ d.typeName = first.type.display ∧ ∀ p ∈ s.occurrences d.name, p.type.Nameable)
      ∧ ∀ d ∈ s.model.methods, ∃ m ∈ s.methods, m.isEligible = true ∧ d = m.describe
          ∧ m.NameableParts := by
  refine ⟨t.isVisible_iff, fun u hu => TypeRef.isVisible_of_publications hu, fun d hd => ?_,
    fun d hd => ?_⟩
  · obtain ⟨first, hfirst, htype, -⟩ := SubjectDecl.exists_first_of_mem hd
    refine ⟨first, hfirst, htype, fun p hp => ?_⟩
    obtain ⟨-, heligible, -⟩ := SubjectDecl.mem_occurrences.mp hp
    exact (p.isEligible_iff.mp heligible).2
  · obtain ⟨m, hm, heligible, rfl⟩ := SubjectDecl.exists_of_mem_methods hd
    obtain ⟨-, -, hparts⟩ := m.isEligible_iff.mp heligible
    exact ⟨m, hm, heligible, rfl, hparts⟩

/-- The tiles of a map from keys to nodes behind pointers, which have this accessibility. -/
def mapTiles (pointers : Accessibility) : TypeRef :=
  let node : TypeRef :=
    { TypeRef.pointer (.typeParameter "T" [.named "INode"]) with accessibility := pointers }
  .array
    { display := "Map<Key, T*>.Tile"
      containingType := some { display := "Map<Key, T*>", typeArguments := [.named "Key", node] } }

/-- An atlas that declares its tiles twice, the second time as a type that is hidden. -/
def atlas : SubjectDecl where
  name := "Atlas"
  reference := "global::Atlas"
  members :=
    [.property { name := "Tiles", type := mapTiles .notApplicable },
      .property
        { name := "Tiles", type := { display := "Cache", accessibility := .internalAccess } },
      .method
        { name := "Find"
          parameters := [{ name := "node", type := .typeParameter "T" [.named "INode"] }]
          typeParameters := [{ name := "T", constraints := [.named "INode"] }] }]

theorem visible_by_parts_atlas :
    (mapTiles .notApplicable).isVisible = true ∧ (mapTiles .notApplicable).Nameable
      ∧ (mapTiles .publicAccess).isVisible = true
      ∧ (∃ d ∈ atlas.model.properties, d.typeName = "Map<Key, T*>.Tile[]"
          ∧ ∀ p ∈ atlas.occurrences d.name, p.type.Nameable)
      ∧ ∃ m ∈ atlas.methods, m.describe ∈ atlas.model.methods ∧ m.NameableParts := by
  have hvisible : (mapTiles .notApplicable).isVisible = true := by decide +kernel
  have hpublic : TypeRef.MadePublic (mapTiles .notApplicable) (mapTiles .publicAccess) :=
    .element (.container (.argument (.here _) [.named "Key"] [] _ _ _ _) _ _ _ _) _ _ _ _
  have hproperty : ({ name := "Tiles", typeName := "Map<Key, T*>.Tile[]", modifiers := {} }
      : PropertyDescriptor) ∈ atlas.model.properties := by decide +kernel
  have hmethod : ∃ d, d ∈ atlas.model.methods := List.exists_mem_of_ne_nil _ (by decide +kernel)
  obtain ⟨hparts, hmade, hproperties, hmethods⟩ := visible_by_parts (mapTiles .notApplicable) atlas
  obtain ⟨-, -, -, hnameable⟩ := hproperties _ hproperty
  obtain ⟨d, hd⟩ := hmethod
  obtain ⟨m, hm, -, rfl, hnames⟩ := hmethods d hd
  exact ⟨hvisible, hparts.mp hvisible, hmade _ (.single hpublic) hvisible,
    ⟨_, hproperty, rfl, hnameable⟩, m, hm, hd, hnames⟩

end Companion
