import Companion.Proofs.Members
import Companion.Proofs.TypeParts

/-!
# Pointers inside of types

A member is marked as unsafe if a pointer is found in its types. The search goes down through the
elements of arrays and through type arguments, and it stops at the first pointer on each way.

**The search does not go everywhere.** From a type that is nested in another one it never goes to that
one, and of an array it does not see the type arguments. So what it finds is a pointer that the type
mentions, but it misses a pointer that stands behind one of those places only (`containsPointer_iff`,
`IsOpen.findsPointer_iff`).
-/

namespace Companion

open Relation (ReflTransGen)

/-! ## The search -/

namespace TypeRef

def isPointer (t : TypeRef) : Bool :=
  match t.shape with
  | .pointer _ => true
  | _ => false

def isArray (t : TypeRef) : Bool :=
  match t.shape with
  | .array _ => true
  | _ => false

/-- The places in which a type mentions another one. -/
def IsMentioned (_ : TypeRef) (place : Place) : Prop :=
  place = .element ∨ place = .argument ∨ place = .container

/-- The places into which the search for pointers goes. -/
def IsSearched (t : TypeRef) (place : Place) : Prop :=
  place = .element ∨ place = .argument ∧ t.isArray = false

/-- A pointer occurs somewhere in the type. -/
def MentionsPointer (t : TypeRef) : Prop :=
  ∃ p, Within IsMentioned t p ∧ p.isPointer = true

/-- A pointer occurs where the search goes. -/
def FindsPointer (t : TypeRef) : Prop :=
  ∃ p, Within IsSearched t p ∧ p.isPointer = true

/-- Nothing stands in the places that the search leaves out, anywhere in the type. -/
def IsOpen (t : TypeRef) : Prop :=
  ∀ u, Within IsMentioned t u →
    u.containingType = none ∧ (u.isArray = true → u.typeArguments = [])

theorem containsPointer_step (t : TypeRef) :
    t.containsPointer = true ↔
      t.isPointer = true
        ∨ ∃ place, IsSearched t place ∧ ∃ u ∈ t.partsAt place, u.containsPointer = true := by
  obtain ⟨display, accessibility, shape, arguments, containing⟩ := t
  cases shape <;>
    simp [containsPointer, anyContainsPointer_eq, isPointer, isArray, IsSearched, partsAt]

theorem containsPointer_iff (t : TypeRef) : t.containsPointer = true ↔ t.FindsPointer :=
  exists_within_iff containsPointer_step t

theorem FindsPointer.mentionsPointer {t : TypeRef} (h : t.FindsPointer) : t.MentionsPointer := by
  obtain ⟨p, hwithin, hp⟩ := h
  refine ⟨p, hwithin.mono fun _ place hplace => ?_, hp⟩
  rcases hplace with rfl | ⟨rfl, -⟩
  · exact .inl rfl
  · exact .inr (.inl rfl)

theorem isOpen_of_parts {t : TypeRef}
    (hown : t.containingType = none ∧ (t.isArray = true → t.typeArguments = []))
    (hparts : ∀ place, IsMentioned t place → ∀ u ∈ t.partsAt place, u.IsOpen) : t.IsOpen := by
  intro u hu
  rcases ReflTransGen.cases_head hu with rfl | ⟨v, ⟨place, hplace, hv⟩, hrest⟩
  · exact hown
  · exact hparts place hplace v hv u hrest

theorem isOpen_named (display : String) : (named display).IsOpen := by
  refine isOpen_of_parts ⟨rfl, fun _ => rfl⟩ ?_
  rintro place (rfl | rfl | rfl) u hu <;> exact absurd hu (List.not_mem_nil)

/-- What a pointer points to is no place that counts: the pointer itself is there already. -/
theorem isOpen_pointer (t : TypeRef) : t.pointer.IsOpen := by
  refine isOpen_of_parts ⟨rfl, fun _ => rfl⟩ ?_
  rintro place (rfl | rfl | rfl) u hu <;> exact absurd hu (List.not_mem_nil)

theorem isOpen_array {t : TypeRef} (h : t.IsOpen) : t.array.IsOpen := by
  refine isOpen_of_parts ⟨rfl, fun _ => rfl⟩ ?_
  rintro place (rfl | rfl | rfl) u hu
  · obtain rfl := List.mem_singleton.mp hu
    exact h
  · exact absurd hu (List.not_mem_nil)
  · exact absurd hu (List.not_mem_nil)

/-- Where nothing stands in the places that are left out, the search goes everywhere. -/
theorem IsOpen.searched {t u : TypeRef} (h : t.IsOpen) (hu : Within IsMentioned t u) :
    Within IsSearched t u := by
  induction hu with
  | refl => exact .refl
  | @tail u v hu hstep ih =>
    obtain ⟨place, hplace, hv⟩ := hstep
    obtain ⟨hcontaining, harguments⟩ := h u hu
    refine .tail ih ⟨place, ?_, hv⟩
    rcases hplace with rfl | rfl | rfl
    · exact .inl rfl
    · refine .inr ⟨rfl, ?_⟩
      by_contra harray
      rw [partsAt, harguments (by simpa using harray)] at hv
      exact absurd hv (List.not_mem_nil)
    · rw [partsAt, hcontaining] at hv
      exact absurd hv (List.not_mem_nil)

theorem IsOpen.findsPointer_iff {t : TypeRef} (h : t.IsOpen) :
    t.FindsPointer ↔ t.MentionsPointer :=
  ⟨FindsPointer.mentionsPointer, fun ⟨p, hwithin, hp⟩ => ⟨p, h.searched hwithin, hp⟩⟩

end TypeRef

/-! ## Marks on members -/

theorem MethodDecl.isUnsafe_describe (m : MethodDecl) :
    m.describe.modifiers.isUnsafe = true
      ↔ m.returnType.FindsPointer ∨ ∃ p ∈ m.parameters, p.type.FindsPointer := by
  have hmark : m.describe.modifiers.isUnsafe
      = (m.returnType.containsPointer || m.parameters.any (·.type.containsPointer)) := rfl
  rw [hmark, Bool.or_eq_true, List.any_eq_true]
  simp only [TypeRef.containsPointer_iff]

/-- **Which pointers are found, and what is marked for them.** The search finds the pointers where it
    goes, all of which the type mentions, and it finds a mentioned one wherever nothing stands in the
    places that it leaves out. A listed property is marked exactly if a pointer is found in its type,
    and a method exactly if one is found in what it returns or takes. -/
theorem pointers_marked (t : TypeRef) (s : SubjectDecl) :
    (t.containsPointer = true ↔ t.FindsPointer)
      ∧ (t.FindsPointer → t.MentionsPointer)
      ∧ (t.IsOpen → (t.FindsPointer ↔ t.MentionsPointer))
      ∧ (∀ d ∈ s.model.properties, ∃ first, (s.occurrences d.name).head? = some first
          ∧ d.typeName = first.type.display
          ∧ (d.modifiers.isUnsafe = true ↔ first.type.FindsPointer))
      ∧ ∀ d ∈ s.model.methods, ∃ m ∈ s.methods, m.isEligible = true ∧ d = m.describe
          ∧ (d.modifiers.isUnsafe = true
            ↔ m.returnType.FindsPointer ∨ ∃ p ∈ m.parameters, p.type.FindsPointer) := by
  refine ⟨t.containsPointer_iff, TypeRef.FindsPointer.mentionsPointer,
    TypeRef.IsOpen.findsPointer_iff, fun d hd => ?_, fun d hd => ?_⟩
  · obtain ⟨first, hfirst, htype, hmodifiers⟩ := SubjectDecl.exists_first_of_mem hd
    refine ⟨first, hfirst, htype, ?_⟩
    rw [hmodifiers]
    exact first.type.containsPointer_iff
  · obtain ⟨m, hm, heligible, rfl⟩ := SubjectDecl.exists_of_mem_methods hd
    exact ⟨m, hm, heligible, rfl, m.isUnsafe_describe⟩

/-- A table of pointers: its pointers stand in an array that is a type argument. -/
def pointerTable : TypeRef where
  display := "Table<string, int*[]>"
  typeArguments := [.named "string", .array (.pointer (.named "int"))]

/-- A type that is nested in a table of pointers. -/
def pointerTableRow : TypeRef where
  display := "Table<string, int*[]>.Row"
  containingType := some pointerTable

/-- A subject with a table of pointers, and with a row of one that can be replaced. -/
def tableHolder : SubjectDecl where
  name := "Holder"
  reference := "global::Holder"
  members :=
    [.property { name := "Table", type := pointerTable },
      .property { name := "Row", type := pointerTableRow },
      .method { name := "Fill", parameters := [{ name := "from", type := pointerTable }] },
      .method { name := "Replace", parameters := [{ name := "row", type := pointerTableRow }] }]

theorem isOpen_pointerTable : pointerTable.IsOpen := by
  refine TypeRef.isOpen_of_parts ⟨rfl, (nomatch ·)⟩ ?_
  rintro place (rfl | rfl | rfl) u hu
  · exact absurd hu (List.not_mem_nil)
  · have harguments : u = .named "string" ∨ u = .array (.pointer (.named "int")) := by
      simpa [TypeRef.partsAt, pointerTable] using hu
    rcases harguments with rfl | rfl
    · exact TypeRef.isOpen_named "string"
    · exact TypeRef.isOpen_array (TypeRef.isOpen_pointer _)
  · exact absurd hu (List.not_mem_nil)

/-- How the holder's table is listed. -/
def listedTable : PropertyDescriptor where
  name := "Table"
  typeName := "Table<string, int*[]>"
  modifiers := { isUnsafe := true }

/-- How the holder's method that takes a table is listed. -/
def listedFill : MethodDescriptor where
  name := "Fill"
  returnType := "void"
  modifiers := { isUnsafe := true }
  parameters := [{ name := "from", typeName := "Table<string, int*[]>", passing := .byValue }]
  typeParameters := []

/-- The pointers of the table are found, and the members that have the table in them are marked. -/
theorem pointers_marked_tableHolder :
    pointerTable.IsOpen ∧ pointerTable.containsPointer = true
      ∧ pointerTable.FindsPointer ∧ pointerTable.MentionsPointer
      ∧ listedTable ∈ tableHolder.model.properties
      ∧ (∃ first, (tableHolder.occurrences "Table").head? = some first ∧ first.type.FindsPointer)
      ∧ listedFill ∈ tableHolder.model.methods
      ∧ ∃ m ∈ tableHolder.methods, listedFill = m.describe
          ∧ (m.returnType.FindsPointer ∨ ∃ p ∈ m.parameters, p.type.FindsPointer) := by
  have htable : listedTable ∈ tableHolder.model.properties := by decide +kernel
  have hfill : listedFill ∈ tableHolder.model.methods := by decide +kernel
  have hcontains : pointerTable.containsPointer = true := by decide +kernel
  obtain ⟨hfinds, -, hopen, hproperties, hmethods⟩ := pointers_marked pointerTable tableHolder
  obtain ⟨first, hfirst, -, hproperty⟩ := hproperties listedTable htable
  obtain ⟨m, hm, -, hdescribe, hmethod⟩ := hmethods listedFill hfill
  have hfound := hfinds.mp hcontains
  exact ⟨isOpen_pointerTable, hcontains, hfound, (hopen isOpen_pointerTable).mp hfound, htable,
    ⟨first, hfirst, hproperty.mp rfl⟩, hfill, m, hm, hdescribe, hmethod.mp rfl⟩

/-- The search does not go from a nested type to the one that it is nested in, so no member is
    marked for a pointer that only stands there. -/
theorem pointer_in_container_missed :
    pointerTableRow.MentionsPointer ∧ pointerTableRow.containsPointer = false
      ∧ tableHolder.model.properties.map (fun d => (d.name, d.modifiers.isUnsafe))
        = [("Table", true), ("Row", false)]
      ∧ tableHolder.model.methods.map (fun d => (d.name, d.modifiers.isUnsafe))
        = [("Fill", true), ("Replace", false)] := by
  have hcontains : pointerTable.containsPointer = true := by decide +kernel
  obtain ⟨p, hwithin, hp⟩ := (pointerTable.containsPointer_iff.mp hcontains).mentionsPointer
  have hcontainer : pointerTable ∈ pointerTableRow.partsAt .container :=
    List.mem_singleton.mpr rfl
  exact ⟨⟨p, .head ⟨.container, .inr (.inr rfl), hcontainer⟩ hwithin, hp⟩, by decide +kernel,
    by decide +kernel, by decide +kernel⟩

end Companion
